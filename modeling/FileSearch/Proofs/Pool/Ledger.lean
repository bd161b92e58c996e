import Mathlib.Algebra.BigOperators.Group.List.Basic
import Mathlib.Algebra.BigOperators.Group.Multiset.Basic
import Mathlib.Algebra.Order.Group.Multiset
import Mathlib.Data.List.Perm.Basic
import Mathlib.Data.Multiset.Filter
import Mathlib.Tactic.Abel
import FileSearch.Proofs.Pool.Move
import FileSearch.Proofs.Search.Examination

/-!
# Where the items of a walk are

At any time, each item of a walk is still on its way (`State.pending`), done, or lost.  The results
and warnings collected are those of the items done, and so is what the counters count (`Ledger`).
Whenever an item is lost, or a party ends before its work is done, the search is marked as timed out
(`Exits`).  Every move keeps both (`Ledger.move`, `Exits.move`).  Once all parties are at their end,
nothing is on its way (`Exits.pending_eq_zero`).
-/

namespace FileSearch

namespace Walk.Item

/-- The path of a file to be examined. -/
def file? : Item → Option Path
  | .file path => some path
  | .skipped _ => none

/-- The result that an item adds to an output. -/
def result? (examine : Path → Except SearchError Examination) : Item → Option FileResult
  | .file path =>
    match examine path with
    | .ok e => e.result? path
    | .error _ => none
  | .skipped _ => none

/-- The warning that an item adds to an output. -/
def warning? (examine : Path → Except SearchError Examination) : Item → Option SkippedPath
  | .file path =>
    match examine path with
    | .ok _ => none
    | .error err => some ⟨some path, err.message⟩
  | .skipped s => some s

/-- The counters after an item. -/
def count (examine : Path → Except SearchError Examination) (stats : Stats) : Item → Stats
  | .file path =>
    match examine path with
    | .ok e => e.count stats
    | .error _ => stats.addWarning
  | .skipped _ => stats.addWarning

/-- What an item adds to the counters. -/
def tally (examine : Path → Except SearchError Examination) (item : Item) : Stats :=
  item.count examine 0

theorem count_eq (examine : Path → Except SearchError Examination) (stats : Stats) (item : Item) :
    item.count examine stats = stats + item.tally examine := by
  cases item with
  | file path =>
    simp only [count, tally]
    split
    · exact Examination.count_eq _ _
    · exact stats.addWarning_eq
  | skipped s => exact stats.addWarning_eq

end Walk.Item

/-- A result has a match. -/
theorem Examination.found_ne_nil {e : Examination} {path : Path} {r : FileResult}
    (h : e.result? path = some r) : r.found ≠ [] := by
  obtain ⟨_, _, -, -, -, found⟩ := result?_eq_some h
  exact found

theorem Walk.Item.found_ne_nil {examine : Path → Except SearchError Examination} {item : Item}
    {r : FileResult} (h : item.result? examine = some r) : r.found ≠ [] := by
  unfold Item.result? at h
  split at h
  · split at h
    · exact Examination.found_ne_nil h
    · cases h
  · cases h

namespace Pool

open Walk (Item)

/-! ## The items on their way -/

/-- What the feeder has in hand. -/
def Feeder.inHand : Feeder → Multiset Item
  | .sending path => {.file path}
  | _ => 0

/-- What a worker has in hand. -/
def Worker.inHand : Worker → Multiset Item
  | .holding path | .examining path => {.file path}
  | _ => 0

/-- The file that a worker examines. -/
def Worker.inWork : Worker → Multiset Path
  | .examining path => {path}
  | _ => 0

namespace State

/-- The items that have not come to a worker. -/
def ahead (s : State) : Multiset Item :=
  s.todo + s.feeder.inHand + (s.queue.map Item.file : List Item)

/-- The items that workers have in hand. -/
def held (s : State) : Multiset Item := (s.workers.map Worker.inHand).sum

/-- The items that are neither done nor lost. -/
def pending (s : State) : Multiset Item := s.ahead + s.held

/-- The files that are being examined. -/
def inWork (s : State) : Multiset Path := (s.workers.map Worker.inWork).sum

/-- The state after an item is done. -/
def settled (s : State) (examine : Path → Except SearchError Examination) (item : Item) : State :=
  { s with
    collection := { s.collection with
      results := s.collection.results ++ (item.result? examine).toList
      warnings := s.collection.warnings ++ (item.warning? examine).toList }
    stats := item.count examine s.stats }

theorem warn_eq_settled (s : State) (examine : Path → Except SearchError Examination)
    (skipped : SkippedPath) : s.warn skipped = s.settled examine (.skipped skipped) := by
  simp [warn, settled, Collection.warn, Item.result?, Item.warning?, Item.count]

theorem record_eq_settled (s : State) (examine : Path → Except SearchError Examination)
    (path : Path) : s.record path (examine path) = s.settled examine (.file path) := by
  rcases outcome : examine path with err | e
  · simp [record, warn, settled, Collection.warn, Item.result?, Item.warning?, Item.count, outcome]
  · rcases result : e.result? path with _ | r
    · simp [record, settled, Item.result?, Item.warning?, Item.count, outcome, result]
    · have found : r.found ≠ [] := Examination.found_ne_nil result
      simp [record, settled, Collection.push, Item.result?, Item.warning?, Item.count, outcome,
        result, found]

end State

/-- A worker that turns to something else changes a sum over all workers by its own share. -/
theorem sum_map_set {M : Type} [AddCommMonoid M] {l : List Worker} {i : Nat} {w : Worker}
    (hw : l[i]? = some w) (w' : Worker) (share : Worker → M) :
    ((l.set i w').map share).sum + share w = (l.map share).sum + share w' := by
  obtain ⟨hi, rfl⟩ := List.getElem?_eq_some_iff.1 hw
  have before := ((List.getElem_cons_eraseIdx_perm hi).map share).sum_eq
  have after := ((List.set_perm_cons_eraseIdx hi w').map share).sum_eq
  rw [after, ← before, List.map_cons, List.map_cons, List.sum_cons, List.sum_cons]
  abel

variable {setup : Setup} {s s' : State} {items : List Item} {item : Item}
  {done lost left : Multiset Item} {i : Nat} {w w' : Worker}

/-! ## The ledger -/

/-- Where the items are, given those done and those lost. -/
structure Ledger (setup : Setup) (items : List Item) (s : State) (done lost : Multiset Item) :
    Prop where
  balance : (items : Multiset Item) = s.pending + done + lost
  excuse : lost ≠ 0 → s.collection.timedOut = true
  results :
    (s.collection.results : Multiset FileResult) = done.filterMap (Item.result? setup.examine)
  warnings :
    (s.collection.warnings : Multiset SkippedPath) = done.filterMap (Item.warning? setup.examine)
  stats : s.stats = (done.map (Item.tally setup.examine)).sum
  examined : (s.examined : Multiset Path) = s.inWork + done.filterMap Item.file?

namespace Ledger

theorem start (setup : Setup) (workers : Nat) (sorted expired : Bool) (items : List Item) :
    Ledger setup items (.start workers sorted expired items) 0 0 where
  balance := by
    simp [State.pending, State.ahead, State.held, State.start, Feeder.inHand, Worker.inHand]
  excuse := absurd rfl
  results := rfl
  warnings := rfl
  stats := rfl
  examined := by simp [State.start, State.inWork, Worker.inWork]

/-- A move by which no item is done or lost; an examination may begin. -/
theorem keep (hl : Ledger setup items s done lost) (pending : s'.pending = s.pending)
    (collection : s'.collection = s.collection) (stats : s'.stats = s.stats)
    (examined : (s'.examined : Multiset Path) + s.inWork = s.examined + s'.inWork) :
    Ledger setup items s' done lost where
  balance := by rw [pending, hl.balance]
  excuse := by
    rw [collection]
    exact hl.excuse
  results := by rw [collection, hl.results]
  warnings := by rw [collection, hl.warnings]
  stats := by rw [stats, hl.stats]
  examined := by
    rw [hl.examined] at examined
    refine add_right_cancel (b := s.inWork) ?_
    rw [examined]
    abel

/-- A move by which items are left because of the deadline. -/
theorem lose (hl : Ledger setup items s done lost) (left : Multiset Item)
    (pending : s.pending = s'.pending + left) (collection : s'.collection = s.collection.expire)
    (stats : s'.stats = s.stats) (examined : s'.examined = s.examined)
    (inWork : s'.inWork = s.inWork) :
    Ledger setup items s' done (left + lost) where
  balance := by
    rw [hl.balance, pending]
    abel
  excuse _ := by rw [collection]; rfl
  results := by
    rw [collection, ← hl.results]
    rfl
  warnings := by
    rw [collection, ← hl.warnings]
    rfl
  stats := by rw [stats, hl.stats]
  examined := by rw [examined, inWork, hl.examined]

/-- A move by which an item is done. -/
theorem settle (hl : Ledger setup items s done lost) (item : Item)
    (pending : s.pending = s'.pending + {item})
    (collection : s'.collection = (s.settled setup.examine item).collection)
    (stats : s'.stats = (s.settled setup.examine item).stats) (examined : s'.examined = s.examined)
    (inWork : s.inWork = s'.inWork + (item.file?.toList : Multiset Path)) :
    Ledger setup items s' (item ::ₘ done) lost where
  balance := by
    rw [hl.balance, pending, ← Multiset.singleton_add]
    abel
  excuse := by
    rw [collection]
    exact hl.excuse
  results := by
    rw [collection, State.settled, ← Multiset.coe_add, hl.results, Multiset.filterMap_cons]
    rcases item.result? setup.examine with _ | r <;> simp [add_comm]
  warnings := by
    rw [collection, State.settled, ← Multiset.coe_add, hl.warnings, Multiset.filterMap_cons]
    rcases item.warning? setup.examine with _ | r <;> simp [add_comm]
  stats := by
    rw [stats, State.settled, Item.count_eq, hl.stats, Multiset.map_cons, Multiset.sum_cons,
      add_comm]
  examined := by
    rw [examined, hl.examined, inWork, Multiset.filterMap_cons]
    rcases item.file? with _ | path <;> simp [add_assoc]

end Ledger

/-! ## The ends of the parties -/

/-- Whoever is at its end has nothing left to do, or the search is marked as timed out. -/
structure Exits (s : State) : Prop where
  manned : s.workers ≠ []
  feeder : s.feeder = .done → s.todo = [] ∨ s.collection.timedOut = true
  worker : .done ∈ s.workers → s.feeder = .done ∧ s.queue = [] ∨ s.collection.timedOut = true

namespace Exits

theorem start {workers : Nat} (manned : 1 ≤ workers) (sorted expired : Bool) (items : List Item) :
    Exits (.start workers sorted expired items) where
  manned := by simpa [State.start] using Nat.ne_of_gt manned
  feeder h := by cases h
  worker h := by simp [State.start] at h

/-- No worker is at its end before the feeder, unless the search is marked as timed out. -/
theorem timedOut_of_worker (he : Exits s) (feeder : s.feeder ≠ .done)
    (worker : .done ∈ s.workers) : s.collection.timedOut = true := by
  rcases he.worker worker with ⟨h, -⟩ | h
  · exact absurd h feeder
  · exact h

theorem timedOut_of_gone (he : Exits s) (feeder : s.feeder ≠ .done)
    (gone : ∀ w ∈ s.workers, w = .done) : s.collection.timedOut = true := by
  obtain ⟨w, hw⟩ := List.exists_mem_of_ne_nil _ he.manned
  rw [gone w hw] at hw
  exact he.timedOut_of_worker feeder hw

/-- A move of the feeder, which may end if there is nothing left to take. -/
theorem feed (he : Exits s) (busy : s.feeder ≠ .done) (workers : s'.workers = s.workers)
    (timedOut : s'.collection.timedOut = s.collection.timedOut)
    (ends : s'.feeder = .done → s'.todo = []) : Exits s' where
  manned := by rw [workers]; exact he.manned
  feeder h := .inl (ends h)
  worker h := by
    rw [workers] at h
    rw [timedOut]
    exact .inr (he.timedOut_of_worker busy h)

/-- A move of a worker, which may end if there is nothing left to do. -/
theorem turn (he : Exits s) (workers : s'.workers = s.workers.set i w') (todo : s'.todo = s.todo)
    (feeder : s'.feeder = s.feeder) (timedOut : s'.collection.timedOut = s.collection.timedOut)
    (queue : s.queue = [] → s'.queue = [])
    (ends : w' = .done → s.feeder = .done ∧ s.queue = []) : Exits s' where
  manned := by simpa [workers] using he.manned
  feeder := by
    rw [feeder, todo, timedOut]
    exact he.feeder
  worker h := by
    rw [workers] at h
    rw [feeder, timedOut]
    rcases List.mem_or_eq_of_mem_set h with old | new
    · exact (he.worker old).imp_left fun ⟨h, empty⟩ => ⟨h, queue empty⟩
    · obtain ⟨h, empty⟩ := ends new.symm
      exact .inl ⟨h, queue empty⟩

/-- A move after which the search is marked as timed out. -/
theorem expire (he : Exits s) (workers : s'.workers.length = s.workers.length)
    (timedOut : s'.collection.timedOut = true) : Exits s' where
  manned := by
    rw [← List.length_pos_iff, workers]
    exact List.length_pos_iff.2 he.manned
  feeder _ := .inr timedOut
  worker _ := .inr timedOut

theorem move (he : Exits s) (m : Move setup s s') : Exits s' := by
  cases m with
  | tick => exact ⟨he.manned, he.feeder, he.worker⟩
  | walkEnds feeder todo => exact he.feed (by simp [feeder]) rfl rfl fun _ => todo
  | leaveItem => exact he.expire rfl rfl
  | takeFile feeder => exact he.feed (by simp [feeder]) rfl rfl nofun
  | takeSkipped feeder =>
    exact he.feed (by simp [feeder]) rfl rfl fun h => absurd (feeder.symm.trans h) nofun
  | closed feeder gone => exact he.expire rfl (he.timedOut_of_gone (by simp [feeder]) gone)
  | send feeder => exact he.feed (by simp [feeder]) rfl rfl nofun
  | leavePath => exact he.expire rfl rfl
  | workerExpires => exact he.expire (List.length_set ..) rfl
  | wait => exact he.turn rfl rfl rfl rfl id nofun
  | receive worker queue => exact he.turn rfl rfl rfl rfl (by simp [queue]) nofun
  | workerEnds worker queue feeder => exact he.turn rfl rfl rfl rfl id fun _ => ⟨feeder, queue⟩
  | examine => exact he.turn rfl rfl rfl rfl id nofun
  | record =>
    rw [State.record_eq_settled]
    exact he.turn rfl rfl rfl rfl id nofun

end Exits

/-! ## The moves -/

namespace State

theorem held_of_set (worker : s.workers[i]? = some w) (workers : s'.workers = s.workers.set i w') :
    s'.held + w.inHand = s.held + w'.inHand := by
  rw [held, workers]
  exact sum_map_set worker w' Worker.inHand

theorem inWork_of_set (worker : s.workers[i]? = some w)
    (workers : s'.workers = s.workers.set i w') : s'.inWork + w.inWork = s.inWork + w'.inWork := by
  rw [inWork, workers]
  exact sum_map_set worker w' Worker.inWork

theorem pending_of_feed (workers : s'.workers = s.workers) (ahead : s.ahead = s'.ahead + left) :
    s.pending = s'.pending + left := by
  rw [pending, pending, held, held, workers, ahead]
  abel

theorem pending_of_set (worker : s.workers[i]? = some w) (workers : s'.workers = s.workers.set i w')
    (ahead : s.ahead + w.inHand = s'.ahead + w'.inHand + left) :
    s.pending = s'.pending + left := by
  have held := held_of_set worker workers
  refine add_right_cancel (b := w.inHand + s'.held) ?_
  calc s.pending + (w.inHand + s'.held) = s.ahead + w.inHand + s.held + s'.held := by
        rw [pending]; abel
    _ = s'.ahead + left + (s.held + w'.inHand) + s'.held := by rw [ahead]; abel
    _ = s'.pending + left + (w.inHand + s'.held) := by rw [← held, pending]; abel

end State

/-- A worker that ends because of the deadline examines nothing. -/
theorem Worker.inWork_of_free (free : ∀ path, w ≠ .examining path) : w.inWork = 0 := by
  cases w with
  | examining path => exact absurd rfl (free path)
  | idle | receiving | holding | done => rfl

/-- A move of the feeder that passes items on. -/
theorem Ledger.feed (hl : Ledger setup items s done lost) (workers : s'.workers = s.workers)
    (ahead : s.ahead = s'.ahead) (collection : s'.collection = s.collection)
    (stats : s'.stats = s.stats) (examined : s'.examined = s.examined) :
    Ledger setup items s' done lost := by
  refine hl.keep ?_ collection stats ?_
  · rw [State.pending, State.pending, ← ahead, State.held, workers, State.held]
  · rw [examined, State.inWork, State.inWork, workers]

/-- A move of a worker that keeps what it has in hand, but for files that come or go. -/
theorem Ledger.turn (hl : Ledger setup items s done lost) (worker : s.workers[i]? = some w)
    (workers : s'.workers = s.workers.set i w') (ahead : s.ahead + w.inHand = s'.ahead + w'.inHand)
    (collection : s'.collection = s.collection) (stats : s'.stats = s.stats)
    (examined : (s'.examined : Multiset Path) + w.inWork = s.examined + w'.inWork) :
    Ledger setup items s' done lost := by
  have inWork := State.inWork_of_set worker workers
  refine hl.keep ?_ collection stats ?_
  · have pending : s.pending = s'.pending + 0 :=
      State.pending_of_set worker workers (by rw [ahead, add_zero])
    rw [pending, add_zero]
  · refine add_right_cancel (b := w.inWork) ?_
    calc (s'.examined : Multiset Path) + s.inWork + w.inWork
        = s'.examined + w.inWork + s.inWork := by abel
      _ = s.examined + (s.inWork + w'.inWork) := by rw [examined]; abel
      _ = s.examined + s'.inWork + w.inWork := by rw [← inWork]; abel

theorem Ledger.move (hl : Ledger setup items s done lost) (he : Exits s) (m : Move setup s s') :
    ∃ done lost, Ledger setup items s' done lost := by
  cases m with
  | tick => exact ⟨_, _, hl.keep rfl rfl rfl rfl⟩
  | walkEnds feeder todo =>
    refine ⟨_, _, hl.feed rfl ?_ rfl rfl rfl⟩
    simp only [State.ahead, feeder, Feeder.inHand]
  | @leaveItem item rest feeder todo =>
    refine ⟨_, _, hl.lose {item} (State.pending_of_feed rfl ?_) rfl rfl rfl rfl⟩
    simp only [State.ahead, State.feederExpires, feeder, todo, Feeder.inHand, ← Multiset.cons_coe,
      ← Multiset.singleton_add]
    abel
  | @takeFile path rest feeder todo =>
    refine ⟨_, _, hl.feed rfl ?_ rfl rfl rfl⟩
    simp only [State.ahead, feeder, todo, Feeder.inHand, ← Multiset.cons_coe,
      ← Multiset.singleton_add]
    abel
  | @takeSkipped skipped rest feeder todo =>
    refine ⟨_, _, hl.settle (.skipped skipped) (State.pending_of_feed rfl ?_) ?_ rfl rfl ?_⟩
    · simp only [State.ahead, State.warn, feeder, todo, Feeder.inHand, ← Multiset.cons_coe,
        ← Multiset.singleton_add]
      abel
    · rw [State.warn_eq_settled _ setup.examine]
      rfl
    · simp [Item.file?, State.inWork, State.warn]
  | @closed path feeder gone =>
    -- This end of the feeder marks nothing; the workers that are gone have done so before.
    have late := he.timedOut_of_gone (by simp [feeder]) gone
    refine ⟨_, _, hl.lose {.file path} (State.pending_of_feed rfl ?_) ?_ rfl rfl rfl⟩
    · simp only [State.ahead, feeder, Feeder.inHand]
      abel
    · simp [Collection.expire, ← late]
  | @send path feeder =>
    refine ⟨_, _, hl.feed rfl ?_ rfl rfl rfl⟩
    simp only [State.ahead, feeder, Feeder.inHand, List.map_append, List.map_cons, List.map_nil,
      ← Multiset.coe_add, Multiset.coe_singleton]
    abel
  | @leavePath path feeder =>
    refine ⟨_, _, hl.lose {.file path} (State.pending_of_feed rfl ?_) rfl rfl rfl rfl⟩
    simp only [State.ahead, State.feederExpires, feeder, Feeder.inHand]
    abel
  | @workerExpires i w worker free =>
    refine ⟨_, _, hl.lose w.inHand (State.pending_of_set worker rfl ?_) rfl rfl rfl ?_⟩
    · simp [Worker.inHand, State.ahead, State.workerExpires]
    · -- A file that is being examined is not left, so none has to leave `examined`.
      have inWork : (s.workerExpires i).inWork + w.inWork = s.inWork + Worker.done.inWork :=
        State.inWork_of_set worker rfl
      simpa [Worker.inWork_of_free free, Worker.inWork] using inWork
  | wait worker => exact ⟨_, _, hl.turn worker rfl rfl rfl rfl rfl⟩
  | @receive i path rest worker queue =>
    refine ⟨_, _, hl.turn worker rfl ?_ rfl rfl rfl⟩
    simp only [State.ahead, State.withWorker, Worker.inHand, queue, List.map_cons,
      ← Multiset.cons_coe, ← Multiset.singleton_add]
    abel
  | workerEnds worker queue feeder => exact ⟨_, _, hl.turn worker rfl rfl rfl rfl rfl⟩
  | @examine i path worker =>
    refine ⟨_, _, hl.turn worker rfl rfl rfl rfl ?_⟩
    simp only [State.examines, Worker.inWork, ← Multiset.cons_coe, ← Multiset.singleton_add]
    abel
  | @record i path worker =>
    rw [State.record_eq_settled]
    refine ⟨_, _, hl.settle (.file path) (State.pending_of_set worker rfl ?_) rfl rfl rfl ?_⟩
    · simp [Worker.inHand, State.ahead, State.withWorker, State.settled]
    · have inWork : ((s.settled setup.examine (.file path)).withWorker i .idle).inWork +
          (Worker.examining path).inWork = s.inWork + Worker.idle.inWork :=
        State.inWork_of_set worker rfl
      simpa [Item.file?, Worker.inWork] using inWork.symm

/-! ## The end of a run -/

/-- What a run keeps: each item is accounted for, and nobody is at its end too early. -/
theorem Reachable.accounted {workers : Nat} {sorted expired : Bool} (manned : 1 ≤ workers)
    (hs : Reachable setup (.start workers sorted expired items) s) :
    Exits s ∧ ∃ done lost, Ledger setup items s done lost := by
  refine hs.rule (P := fun s => Exits s ∧ ∃ done lost, Ledger setup items s done lost) ?_ ?_
  · exact ⟨.start manned sorted expired items, 0, 0, .start setup workers sorted expired items⟩
  · rintro s s' ⟨he, done, lost, hl⟩ m
    exact ⟨he.move m, hl.move he m⟩

namespace State

theorem feeder_of_isDone (ends : s.isDone) : s.feeder = .done := by
  simp only [isDone, Bool.and_eq_true, beq_iff_eq] at ends
  exact ends.1

theorem workers_of_isDone (ends : s.isDone) : ∀ w ∈ s.workers, w = .done := by
  simp only [isDone, Bool.and_eq_true, List.all_eq_true, beq_iff_eq] at ends
  exact ends.2

theorem sum_of_isDone {α : Type} (ends : s.isDone) {share : Worker → Multiset α}
    (none : share .done = 0) : (s.workers.map share).sum = 0 := by
  refine List.sum_eq_zero fun items h => ?_
  obtain ⟨w, hw, rfl⟩ := List.mem_map.1 h
  rw [workers_of_isDone ends w hw, none]

end State

/-- At the end of a run that is not marked as timed out, no item is on its way. -/
theorem Exits.pending_eq_zero (he : Exits s) (ends : s.isDone)
    (early : s.collection.timedOut = false) : s.pending = 0 := by
  have feeder := State.feeder_of_isDone ends
  have todo : s.todo = [] := (he.feeder feeder).resolve_right (by simp [early])
  have queue : s.queue = [] := by
    obtain ⟨w, hw⟩ := List.exists_mem_of_ne_nil _ he.manned
    rw [State.workers_of_isDone ends w hw] at hw
    exact ((he.worker hw).resolve_right (by simp [early])).2
  rw [State.pending, State.ahead, State.held, State.sum_of_isDone ends rfl, todo, queue, feeder]
  rfl

/-- At the end of a run that is not marked as timed out, all items are done. -/
theorem Ledger.done_eq (hl : Ledger setup items s done lost) (he : Exits s) (ends : s.isDone)
    (early : s.collection.timedOut = false) : done = items := by
  have kept : lost = 0 := by
    by_contra some
    rw [hl.excuse some] at early
    cases early
  rw [hl.balance, he.pending_eq_zero ends early, kept, zero_add, add_zero]

theorem Ledger.done_le (hl : Ledger setup items s done lost) : done ≤ items := by
  rw [hl.balance]
  exact (Multiset.le_add_left done s.pending).trans (Multiset.le_add_right _ lost)

end Pool

end FileSearch
