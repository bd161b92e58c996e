import FileSearch.Proofs.Pool.Finish

/-!
# Nobody waits for ever

`Unstuck` says why no state of a run is a dead end.  The feeder waits only while the queue is full,
and then every worker that is not at its end comes to take a file from the queue or to end
(`State.Frees`).  A worker waits only while the queue is empty, and then the feeder can go on.  Once
all workers are at their end, the feeder cannot wait any more.  So as long as anyone is not at its
end, somebody can take a step, even if the clock takes none (`Reachable.unstuck`).
-/

namespace FileSearch.Pool

open Walk (Item)

variable {setup : Setup} {s s' : State} {i n : Nat} {path : Path}

/-! ## Where a worker's own steps lead -/

/-- By at most `n` steps of its own, a worker comes to take a file from the queue or to end. -/
def State.Frees (setup : Setup) (i : Nat) : Nat → State → Prop
  | 0, _ => False
  | n + 1, s => ∃ s', s.step setup (.worker i) = some s' ∧
      (s.queue = s'.queue ∧ s'.Frees setup i n ∨ s'.queue.length < s.queue.length ∨
        s'.workers[i]? = some .done)

namespace State

theorem workers_set {w : Worker} (worker : s.workers[i]? = some w) (w' : Worker) :
    (s.workers.set i w')[i]? = some w' := by
  have inside : i < s.workers.length := (List.getElem?_eq_some_iff.1 worker).1
  rw [List.getElem?_set_self inside]

theorem frees_receiving (worker : s.workers[i]? = some .receiving) (queue : s.queue ≠ []) :
    s.Frees setup i (n + 1) := by
  obtain ⟨path, rest, cons⟩ := List.exists_cons_of_ne_nil queue
  refine ⟨{ s with queue := rest }.withWorker i (.holding path), ?_, .inr (.inl ?_)⟩
  · simp only [step, workerStep, worker, cons]
  · show rest.length < s.queue.length
    rw [cons]
    exact Nat.lt_succ_self _

theorem frees_idle (worker : s.workers[i]? = some .idle) (queue : s.queue ≠ []) :
    s.Frees setup i (n + 2) := by
  by_cases late : s.expired
  · refine ⟨s.workerExpires i, ?_, .inr (.inr (workers_set worker .done))⟩
    simp only [step, workerStep, worker, late, if_true]
  · refine ⟨s.withWorker i .receiving, ?_, .inl ⟨rfl, ?_⟩⟩
    · simp only [step, workerStep, worker, late, Bool.false_eq_true, if_false]
    · exact frees_receiving (workers_set worker .receiving) queue

theorem frees_examining (worker : s.workers[i]? = some (.examining path)) (queue : s.queue ≠ []) :
    s.Frees setup i (n + 3) := by
  refine ⟨(s.settled setup.examine (.file path)).withWorker i .idle, ?_, .inl ⟨rfl, ?_⟩⟩
  · simp only [step, workerStep, worker, record_eq_settled]
  · exact frees_idle (workers_set worker .idle) queue

theorem frees_holding (worker : s.workers[i]? = some (.holding path)) (queue : s.queue ≠ []) :
    s.Frees setup i (n + 4) := by
  by_cases late : s.expired
  · refine ⟨s.workerExpires i, ?_, .inr (.inr (workers_set worker .done))⟩
    simp only [step, workerStep, worker, late, if_true]
  · refine ⟨s.examines i path, ?_, .inl ⟨rfl, ?_⟩⟩
    · simp only [step, workerStep, worker, late, Bool.false_eq_true, if_false]
    · exact frees_examining (workers_set worker (.examining path)) queue

/-- While there are files in the queue, a worker that is not at its end goes on until it takes one
or ends. -/
theorem frees_of_busy {w : Worker} (worker : s.workers[i]? = some w) (busy : w ≠ .done)
    (queue : s.queue ≠ []) : s.Frees setup i 4 := by
  cases w with
  | idle => exact frees_idle worker queue
  | receiving => exact frees_receiving worker queue
  | holding path => exact frees_holding worker queue
  | examining path => exact frees_examining worker queue
  | done => exact absurd rfl busy

/-! ## Blocked parties -/

/-- A feeder that has no file in hand and is not at its end can go on. -/
theorem feederStep_of_taking (feeder : s.feeder = .taking) : (s.feederStep setup).isSome := by
  unfold feederStep
  rw [feeder]
  rcases s.todo with _ | ⟨item, rest⟩
  · rfl
  · dsimp only
    split
    · rfl
    · cases item <;> rfl

/-- A feeder with room in the queue can go on. -/
theorem feederStep_of_room (busy : s.feeder ≠ .done) (room : s.queue.length < setup.capacity) :
    (s.feederStep setup).isSome := by
  rcases feeder : s.feeder with _ | path | _
  · exact feederStep_of_taking feeder
  · unfold feederStep
    rw [feeder]
    dsimp only
    by_cases gone : s.workers.all (· == .done)
    · rw [if_pos gone]
      rfl
    · rw [if_neg gone, if_pos room]
      rfl
  · exact absurd feeder busy

/-- Without workers, the feeder cannot get rid of its file and ends. -/
theorem feederStep_of_gone (feeder : s.feeder = .sending path) (gone : ∀ w ∈ s.workers, w = .done) :
    s.feederStep setup = some { s with feeder := .done } := by
  have all_done : s.workers.all (· == .done) := by simpa using gone
  unfold feederStep
  rw [feeder]
  exact if_pos all_done

/-- The queue never holds more than its capacity. -/
theorem queue_length_le_of_move (m : Move setup s s') (le : s.queue.length ≤ setup.capacity) :
    s'.queue.length ≤ setup.capacity := by
  cases m with
  | send _ room =>
    rw [List.length_append]
    exact room
  | receive _ queue =>
    rw [queue] at le
    exact Nat.le_of_succ_le le
  | record =>
    rw [record_eq_settled]
    exact le
  | tick | walkEnds | leaveItem | takeFile | takeSkipped | closed | leavePath | workerExpires |
    wait | workerEnds | examine => exact le

end State

/-! ## No state is a dead end -/

/-- Why a state is no dead end. -/
structure Unstuck (setup : Setup) (s : State) : Prop where
  /-- The queue is bounded. -/
  bounded : s.queue.length ≤ setup.capacity
  /-- As long as anyone is not at its end, somebody other than the clock can take a step. -/
  goesOn : s.isDone = false → ∃ party, party ≠ .clock ∧ (s.step setup party).isSome
  /-- A feeder that waits faces a full queue and a worker that is not at its end, and every such
  worker comes to take a file from the queue or to end. -/
  feederWaits : ∀ path, s.feeder = .sending path → s.step setup .feeder = none →
    s.queue.length = setup.capacity ∧ (∃ w ∈ s.workers, w ≠ .done) ∧
      ∀ i w, s.workers[i]? = some w → w ≠ .done → s.Frees setup i 4
  /-- A worker that waits faces an empty queue that is not closed, before the deadline, and a feeder
  that can go on. -/
  workerWaits : ∀ i w, s.workers[i]? = some w → w ≠ .done → s.step setup (.worker i) = none →
    s.queue = [] ∧ s.expired = false ∧ s.feeder ≠ .done ∧ (s.step setup .feeder).isSome
  /-- A feeder does not wait for workers that are all at their end. -/
  closed : ∀ path, s.feeder = .sending path → (∀ w ∈ s.workers, w = .done) →
    s.step setup .feeder = some { s with feeder := .done }

namespace State

/-- A worker that waits does so before the deadline. -/
theorem expired_of_stuck {w : Worker} (worker : s.workers[i]? = some w) (busy : w ≠ .done)
    (stuck : s.workerStep setup i = none) : s.expired = false := by
  obtain ⟨empty, feeder⟩ := (empty_of_stuck worker stuck).resolve_left busy
  by_cases late : s.expired
  · unfold workerStep at stuck
    rw [worker] at stuck
    cases w with
    | receiving => simp [empty, feeder, late] at stuck
    | done => exact absurd rfl busy
    | idle | holding path | examining path => cases stuck
  · rwa [Bool.not_eq_true] at late

theorem exists_step_of_not_isDone (roomy : 0 < setup.capacity) (busy : s.isDone = false) :
    ∃ party, party ≠ .clock ∧ (s.step setup party).isSome := by
  rcases next : s.next? setup with _ | s'
  · have ends := isDone_of_stuck roomy next
    rw [busy] at ends
    cases ends
  · unfold next? at next
    split at next
    · rename_i s' feeder
      refine ⟨.feeder, nofun, ?_⟩
      show (s.feederStep setup).isSome
      rw [feeder]
      rfl
    · obtain ⟨i, -, worker⟩ := List.exists_of_findSome?_eq_some next
      refine ⟨.worker i, nofun, ?_⟩
      show (s.workerStep setup i).isSome
      rw [worker]
      rfl

theorem unstuck_of_bounded (roomy : 0 < setup.capacity)
    (bounded : s.queue.length ≤ setup.capacity) : Unstuck setup s where
  bounded := bounded
  goesOn := exists_step_of_not_isDone roomy
  feederWaits path feeder stuck := by
    rcases full_of_stuck stuck with ends | ⟨full, busy⟩
    · rw [feeder] at ends
      cases ends
    · have filled : s.queue ≠ [] := by
        intro empty
        rw [empty, List.length_nil] at full
        omega
      exact ⟨Nat.le_antisymm bounded full, busy, fun i w worker busy =>
        frees_of_busy worker busy filled⟩
  workerWaits i w worker busy stuck := by
    obtain ⟨empty, feeder⟩ := (empty_of_stuck worker stuck).resolve_left busy
    refine ⟨empty, expired_of_stuck worker busy stuck, feeder, feederStep_of_room feeder ?_⟩
    rw [empty]
    exact roomy
  closed path := feederStep_of_gone

end State

/-- In no state of a run does anyone wait for ever. -/
theorem Reachable.unstuck {examine : Path → Except SearchError Examination} {workers : Nat}
    {sorted : Bool} {deadline : Deadline} {items : List Item} (manned : 1 ≤ workers)
    (hs : Reachable (Pool.setup examine workers deadline)
      (.start workers sorted (deadline == .past) items) s) :
    Unstuck (Pool.setup examine workers deadline) s := by
  have roomy : 0 < (Pool.setup examine workers deadline).capacity := Nat.mul_pos manned (by decide)
  refine State.unstuck_of_bounded roomy ?_
  exact hs.rule (Nat.zero_le _) fun _ _ le m => State.queue_length_le_of_move m le

/-- One worker that has not yet looked at the clock, and a queue that has been filled: the feeder
waits with one file more. -/
theorem Reachable.unstuck_full :
    let examine : Path → Except SearchError Examination := fun path =>
      .error (.permissionDenied path)
    let items : List Item := List.replicate 66 (.file "a".toUTF8)
    let first := State.start 1 false false items
    let s := first.runFor (Pool.setup examine 1 .far) 129
    1 ≤ 1 ∧ Reachable (Pool.setup examine 1 .far) first s ∧ s.feeder = .sending "a".toUTF8 ∧
      s.step (Pool.setup examine 1 .far) .feeder = none ∧ s.queue.length = 64 ∧
      s.Frees (Pool.setup examine 1 .far) 0 4 := by
  intro examine items first s
  have manned : 1 ≤ 1 := by decide
  have hs : Reachable (Pool.setup examine 1 .far) first s := Reachable.first.runFor 129
  have feeder : s.feeder = .sending "a".toUTF8 := by decide +kernel
  have stuck : (s.step (Pool.setup examine 1 .far) .feeder).isNone := by decide +kernel
  have worker : s.workers[0]? = some .idle := by decide +kernel
  rw [Option.isNone_iff_eq_none] at stuck
  obtain ⟨full, -, frees⟩ := (Reachable.unstuck manned hs).feederWaits _ feeder stuck
  exact ⟨manned, hs, feeder, stuck, full, frees 0 _ worker nofun⟩

end FileSearch.Pool
