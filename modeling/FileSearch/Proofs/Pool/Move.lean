import FileSearch.Search.Pool

/-!
# What the parties of a pool can do

`Move` lists the steps of all parties, each with the conditions under which it is taken.
`Move.of_step` says that these are all steps, so that what every move keeps holds in all states that
a run can come to (`Reachable.rule`).
-/

namespace FileSearch.Pool

open Walk (Item)

/-- A step of some party. -/
inductive Move (setup : Setup) (s : State) : State → Prop where
  /-- The deadline passes. -/
  | tick (deadline : setup.hasDeadline) : Move setup s { s with expired := true }
  /-- The feeder has no more items. -/
  | walkEnds (feeder : s.feeder = .taking) (todo : s.todo = []) :
    Move setup s { s with feeder := .done }
  /-- The feeder ends because of the deadline and leaves an item. -/
  | leaveItem {item : Item} {rest : List Item} (feeder : s.feeder = .taking)
    (todo : s.todo = item :: rest) (late : s.expired) :
    Move setup s { s with todo := rest }.feederExpires
  /-- The feeder takes a file. -/
  | takeFile {path : Path} {rest : List Item} (feeder : s.feeder = .taking)
    (todo : s.todo = .file path :: rest) (early : s.expired = false) :
    Move setup s { s with todo := rest, feeder := .sending path }
  /-- The feeder takes a path that was passed over. -/
  | takeSkipped {skipped : SkippedPath} {rest : List Item} (feeder : s.feeder = .taking)
    (todo : s.todo = .skipped skipped :: rest) (early : s.expired = false) :
    Move setup s ({ s with todo := rest }.warn skipped)
  /-- The feeder ends because all workers have. -/
  | closed {path : Path} (feeder : s.feeder = .sending path) (gone : ∀ w ∈ s.workers, w = .done) :
    Move setup s { s with feeder := .done }
  /-- The feeder puts its file into the queue. -/
  | send {path : Path} (feeder : s.feeder = .sending path)
    (room : s.queue.length < setup.capacity) :
    Move setup s { s with feeder := .taking, queue := s.queue ++ [path] }
  /-- The feeder ends because of the deadline and leaves a file. -/
  | leavePath {path : Path} (feeder : s.feeder = .sending path) (late : s.expired) :
    Move setup s s.feederExpires
  /-- A worker that examines nothing ends because of the deadline. -/
  | workerExpires {i : Nat} {w : Worker} (worker : s.workers[i]? = some w)
    (free : ∀ path, w ≠ .examining path) (late : s.expired) (busy : w ≠ .done) :
    Move setup s (s.workerExpires i)
  /-- A worker begins to wait for a file. -/
  | wait {i : Nat} (worker : s.workers[i]? = some .idle) (early : s.expired = false) :
    Move setup s (s.withWorker i .receiving)
  /-- A worker takes a file from the queue. -/
  | receive {i : Nat} {path : Path} {rest : List Path} (worker : s.workers[i]? = some .receiving)
    (queue : s.queue = path :: rest) :
    Move setup s ({ s with queue := rest }.withWorker i (.holding path))
  /-- A worker ends because the queue is closed and empty. -/
  | workerEnds {i : Nat} (worker : s.workers[i]? = some .receiving) (queue : s.queue = [])
    (feeder : s.feeder = .done) : Move setup s (s.withWorker i .done)
  /-- A worker begins to examine its file. -/
  | examine {i : Nat} {path : Path} (worker : s.workers[i]? = some (.holding path))
    (early : s.expired = false) : Move setup s (s.examines i path)
  /-- A worker records what it has found. -/
  | record {i : Nat} {path : Path} (worker : s.workers[i]? = some (.examining path)) :
    Move setup s ((s.record path (setup.examine path)).withWorker i .idle)

variable {setup : Setup} {s s' : State}

theorem Move.of_feederStep (h : s.feederStep setup = some s') : Move setup s s' := by
  unfold State.feederStep at h
  split at h
  · rename_i feeder
    split at h
    · rename_i todo
      obtain rfl := Option.some.inj h
      exact .walkEnds feeder todo
    · rename_i item rest todo
      dsimp only at h
      split at h
      · rename_i late
        obtain rfl := Option.some.inj h
        exact .leaveItem feeder todo late
      · rename_i early
        rw [Bool.not_eq_true] at early
        cases item with
        | file path =>
          obtain rfl := Option.some.inj h
          exact .takeFile feeder todo early
        | skipped skipped =>
          obtain rfl := Option.some.inj h
          exact .takeSkipped feeder todo early
  · rename_i path feeder
    split at h
    · rename_i gone
      obtain rfl := Option.some.inj h
      refine .closed feeder fun w hw => ?_
      simpa using List.all_eq_true.1 gone w hw
    · split at h
      · rename_i room
        obtain rfl := Option.some.inj h
        exact .send feeder room
      · split at h
        · rename_i late
          obtain rfl := Option.some.inj h
          exact .leavePath feeder late
        · cases h
  · cases h

theorem Move.of_workerStep {i : Nat} (h : s.workerStep setup i = some s') : Move setup s s' := by
  unfold State.workerStep at h
  split at h
  · cases h
  · cases h
  · rename_i worker
    obtain rfl := Option.some.inj h
    by_cases late : s.expired
    · simp only [late, if_true]
      exact .workerExpires worker (by simp) late (by simp)
    · rw [Bool.not_eq_true] at late
      simp only [late, Bool.false_eq_true, if_false]
      exact .wait worker late
  · rename_i worker
    split at h
    · rename_i path rest queue
      obtain rfl := Option.some.inj h
      exact .receive worker queue
    · rename_i queue
      split at h
      · rename_i feeder
        obtain rfl := Option.some.inj h
        exact .workerEnds worker queue feeder
      · split at h
        · rename_i late
          obtain rfl := Option.some.inj h
          exact .workerExpires worker (by simp) late (by simp)
        · cases h
  · rename_i path worker
    obtain rfl := Option.some.inj h
    by_cases late : s.expired
    · simp only [late, if_true]
      exact .workerExpires worker (by simp) late (by simp)
    · rw [Bool.not_eq_true] at late
      simp only [late, Bool.false_eq_true, if_false]
      exact .examine worker late
  · rename_i path worker
    obtain rfl := Option.some.inj h
    exact .record worker

/-- There are no other steps. -/
theorem Move.of_step {party : Party} (h : s.step setup party = some s') : Move setup s s' := by
  cases party with
  | clock =>
    simp only [State.step, Option.ite_none_right_eq_some, Option.some.injEq] at h
    obtain ⟨deadline, rfl⟩ := h
    exact .tick deadline
  | feeder => exact .of_feederStep h
  | worker i => exact .of_workerStep h

/-- What holds at the start of a run and is kept by all moves holds in all states of the run. -/
theorem Reachable.rule {first : State} {P : State → Prop} (start : P first)
    (move : ∀ s s', P s → Move setup s s' → P s') (hs : Reachable setup first s) : P s := by
  induction hs with
  | first => exact start
  | step _ step ih => exact move _ _ ih (.of_step step)

theorem Reachable.tick {first : State} (deadline : setup.hasDeadline)
    (hs : Reachable setup first s) : Reachable setup first { s with expired := true } := by
  have step : s.step setup .clock = some { s with expired := true } := if_pos deadline
  exact hs.step step

/-! ## The order in which `run` takes the steps -/

theorem State.step_of_next? (h : s.next? setup = some s') :
    ∃ party, s.step setup party = some s' := by
  unfold State.next? at h
  split at h
  · rename_i next feeder
    obtain rfl := Option.some.inj h
    exact ⟨.feeder, feeder⟩
  · obtain ⟨i, -, worker⟩ := List.exists_of_findSome?_eq_some h
    exact ⟨.worker i, worker⟩

theorem Reachable.runFor {first : State} (fuel : Nat) (hs : Reachable setup first s) :
    Reachable setup first (s.runFor setup fuel) := by
  induction fuel generalizing s with
  | zero => exact hs
  | succ fuel ih =>
    unfold State.runFor
    split
    · rename_i next h
      obtain ⟨party, step⟩ := State.step_of_next? h
      exact ih (hs.step step)
    · exact hs

end FileSearch.Pool
