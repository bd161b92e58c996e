import FileSearch.Proofs.Pool.Ledger

/-!
# Runs come to an end

But for the clock, each step leaves less to do (`Move.remaining_lt`), and as long as some party is
not at its end, some party can take a step (`State.isDone_of_stuck`): if the queue is full, a worker
can take a file from it, and if it is empty, the feeder can go on.  So a run that takes one step
after another comes to its end, and its output is one of those that are possible (`yields_run`).
-/

namespace FileSearch.Pool

open Walk (Item)

variable {setup : Setup} {s s' : State}

/-! ## What is left to do -/

/-- The number of steps that the feeder and its file may still take. -/
def Feeder.remaining : Feeder → Nat
  | .taking => 1
  | .sending _ => 6
  | .done => 0

/-- The number of steps that a worker and its file may still take. -/
def Worker.remaining : Worker → Nat
  | .idle => 2
  | .receiving => 1
  | .holding _ => 4
  | .examining _ => 3
  | .done => 0

/-- A number of steps that the parties do not exceed. -/
def State.remaining (s : State) : Nat :=
  6 * s.todo.length + s.feeder.remaining + 4 * s.queue.length +
    (s.workers.map Worker.remaining).sum

theorem State.remaining_start (workers : Nat) (sorted expired : Bool) (items : List Item) :
    (State.start workers sorted expired items).remaining = 6 * items.length + 1 + 2 * workers := by
  simp [remaining, start, Feeder.remaining, Worker.remaining, mul_comm]

/-- A move of the feeder. -/
theorem State.remaining_lt_of_feed (workers : s'.workers = s.workers)
    (less : 6 * s'.todo.length + s'.feeder.remaining + 4 * s'.queue.length <
      6 * s.todo.length + s.feeder.remaining + 4 * s.queue.length) :
    s'.remaining < s.remaining := by
  rw [remaining, remaining, workers]
  exact Nat.add_lt_add_right less _

/-- A move of a worker. -/
theorem State.remaining_lt_of_turn {i : Nat} {w w' : Worker} (worker : s.workers[i]? = some w)
    (workers : s'.workers = s.workers.set i w') (todo : s'.todo = s.todo)
    (feeder : s'.feeder = s.feeder)
    (less : 4 * s'.queue.length + w'.remaining < 4 * s.queue.length + w.remaining) :
    s'.remaining < s.remaining := by
  have sum := sum_map_set worker w' Worker.remaining
  rw [remaining, remaining, workers, todo, feeder]
  omega

/-- A worker that is not at its end has something left to do. -/
theorem Worker.remaining_pos {w : Worker} (busy : w ≠ .done) : 0 < w.remaining := by
  cases w with
  | done => exact absurd rfl busy
  | idle | receiving | holding | examining => exact Nat.succ_pos _

/-- But for the clock, every step leaves less to do. -/
theorem Move.remaining_lt (never : setup.hasDeadline = false) (m : Move setup s s') :
    s'.remaining < s.remaining := by
  have less {n m : Nat} (h : n < m) (queue : List Path) : 4 * queue.length + n <
      4 * queue.length + m := Nat.add_lt_add_left h _
  cases m with
  | tick deadline => simp [never] at deadline
  | walkEnds feeder todo =>
    refine State.remaining_lt_of_feed rfl ?_
    simp only [feeder, todo, Feeder.remaining]
    omega
  | leaveItem feeder todo | takeFile feeder todo | takeSkipped feeder todo =>
    refine State.remaining_lt_of_feed rfl ?_
    simp only [State.feederExpires, State.warn, feeder, todo, Feeder.remaining, List.length_cons]
    omega
  | closed feeder | leavePath feeder =>
    refine State.remaining_lt_of_feed rfl ?_
    simp only [State.feederExpires, feeder, Feeder.remaining]
    omega
  | send feeder =>
    refine State.remaining_lt_of_feed rfl ?_
    simp only [feeder, Feeder.remaining, List.length_append, List.length_singleton]
    omega
  | workerExpires worker _ _ busy =>
    exact State.remaining_lt_of_turn worker rfl rfl rfl (less (Worker.remaining_pos busy) _)
  | wait worker =>
    exact State.remaining_lt_of_turn worker rfl rfl rfl (less (by decide) _)
  | receive worker queue =>
    refine State.remaining_lt_of_turn worker rfl rfl rfl ?_
    simp only [State.withWorker, Worker.remaining, queue, List.length_cons]
    omega
  | workerEnds worker =>
    exact State.remaining_lt_of_turn worker rfl rfl rfl (less (by decide) _)
  | @examine i path worker =>
    have turn : (Worker.examining path).remaining < (Worker.holding path).remaining := by
      simp only [Worker.remaining]
      omega
    exact State.remaining_lt_of_turn worker rfl rfl rfl (less turn _)
  | @record i path worker =>
    rw [State.record_eq_settled]
    have turn : Worker.idle.remaining < (Worker.examining path).remaining := by
      simp only [Worker.remaining]
      omega
    exact State.remaining_lt_of_turn worker rfl rfl rfl (less turn _)

/-! ## Someone can go on -/

theorem State.remaining_lt_of_next? (h : s.next? setup = some s') : s'.remaining < s.remaining := by
  -- The feeder and the workers do not ask whether there is a deadline.
  have move : Move { setup with hasDeadline := false } s s' := by
    unfold next? at h
    split at h
    · rename_i next feeder
      obtain rfl := Option.some.inj h
      exact .of_feederStep feeder
    · obtain ⟨i, -, worker⟩ := List.exists_of_findSome?_eq_some h
      exact .of_workerStep worker
  exact move.remaining_lt rfl

/-- A feeder that cannot go on is at its end or faces a full queue and a worker that is not. -/
theorem State.full_of_stuck (stuck : s.feederStep setup = none) :
    s.feeder = .done ∨ setup.capacity ≤ s.queue.length ∧ ∃ w ∈ s.workers, w ≠ .done := by
  unfold feederStep at stuck
  split at stuck
  · split at stuck
    · cases stuck
    · dsimp only at stuck
      split at stuck
      · cases stuck
      · split at stuck <;> cases stuck
  · split at stuck
    · cases stuck
    · rename_i manned
      split at stuck
      · cases stuck
      · rename_i full
        refine .inr ⟨Nat.le_of_not_lt full, ?_⟩
        simpa using manned
  · rename_i feeder
    exact .inl feeder

/-- A worker that cannot go on is at its end or faces an empty queue and a feeder that is not. -/
theorem State.empty_of_stuck {i : Nat} {w : Worker} (worker : s.workers[i]? = some w)
    (stuck : s.workerStep setup i = none) : w = .done ∨ s.queue = [] ∧ s.feeder ≠ .done := by
  unfold workerStep at stuck
  rw [worker] at stuck
  cases w with
  | done => exact .inl rfl
  | idle | holding path | examining path => cases stuck
  | receiving =>
    rcases queue : s.queue with _ | ⟨path, rest⟩
    · refine .inr ⟨rfl, fun feeder => ?_⟩
      simp [queue, feeder] at stuck
    · simp [queue] at stuck

/-- If neither the feeder nor any worker can go on, they are all at their end. -/
theorem State.isDone_of_stuck (roomy : 0 < setup.capacity) (stuck : s.next? setup = none) :
    s.isDone := by
  have feeder : s.feederStep setup = none := by
    unfold next? at stuck
    split at stuck
    · cases stuck
    · assumption
  have workers (w : Worker) (mem : w ∈ s.workers) :
      w = .done ∨ s.queue = [] ∧ s.feeder ≠ .done := by
    obtain ⟨i, worker⟩ := List.mem_iff_getElem?.1 mem
    unfold next? at stuck
    rw [feeder] at stuck
    have inside : i ∈ List.range s.workers.length :=
      List.mem_range.2 (List.getElem?_eq_some_iff.1 worker).1
    exact empty_of_stuck worker (List.findSome?_eq_none_iff.1 stuck i inside)
  rcases full_of_stuck feeder with ends | ⟨full, w, mem, busy⟩
  · have gone (w : Worker) (mem : w ∈ s.workers) : w = .done :=
      (workers w mem).resolve_right fun h => h.2 ends
    simpa [isDone, ends] using gone
  · -- The queue cannot be full for the feeder and empty for the worker.
    have empty := ((workers w mem).resolve_left busy).1
    rw [empty, List.length_nil] at full
    omega

/-! ## The end of a run -/

theorem State.isDone_runFor (roomy : 0 < setup.capacity) {fuel : Nat}
    (enough : s.remaining ≤ fuel) : (s.runFor setup fuel).isDone := by
  induction fuel generalizing s with
  | zero =>
    rw [runFor]
    rcases next : s.next? setup with _ | s'
    · exact isDone_of_stuck roomy next
    · have := remaining_lt_of_next? next
      omega
  | succ fuel ih =>
    rw [runFor]
    rcases next : s.next? setup with _ | s'
    · exact isDone_of_stuck roomy next
    · have := remaining_lt_of_next? next
      exact ih (by omega)

/-- The run that is taken is one of those that are possible. -/
theorem yields_run (examine : Path → Except SearchError Examination) {workers : Nat}
    (manned : 1 ≤ workers) (sorted : Bool) (deadline : Deadline) (items : List Item) :
    Yields examine workers sorted deadline items (run examine workers sorted deadline items) := by
  refine ⟨_, Reachable.first.runFor (6 * items.length + 3 * workers + 1), ?_, rfl⟩
  refine State.isDone_runFor ?_ ?_
  · exact Nat.mul_pos manned (by decide)
  · rw [State.remaining_start]
    omega

end FileSearch.Pool
