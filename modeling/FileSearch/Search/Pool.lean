import FileSearch.Result.Collection
import FileSearch.Search.Examiner
import FileSearch.Walk.Walker

/-!
# The worker pool

A search is the work of several parties: a feeder takes the items of a walk one after another and
puts files into a queue of bounded length, and workers take files from the queue and examine them.
`step` says what a party can do in a state; the parties take their steps in any order, and at any time
the clock may tick, after which the deadline has passed.

`Reachable` holds of the states that a run can come to, and `State.isDone` of those at its end.
`Yields` says which outputs are possible; `run` takes one possible order.
-/

namespace FileSearch.Pool

open Walk (Item)

/-- What the feeder is at. -/
inductive Feeder where
  /-- About to take the next item. -/
  | taking
  /-- About to put a file into the queue. -/
  | sending (path : Path)
  /-- At its end; the queue is closed. -/
  | done
  deriving DecidableEq

/-- What a worker is at. -/
inductive Worker where
  /-- About to look at the clock. -/
  | idle
  /-- Waiting for a file. -/
  | receiving
  /-- Has a file and is about to look at the clock once more. -/
  | holding (path : Path)
  /-- Examines a file. -/
  | examining (path : Path)
  | done
  deriving DecidableEq

/-- What does not change during a run. -/
structure Setup where
  examine : Path → Except SearchError Examination
  /-- The greatest length of the queue. -/
  capacity : Nat
  hasDeadline : Bool

/-- The state of a run. -/
structure State where
  todo : List Item
  feeder : Feeder := .taking
  queue : List Path := []
  workers : List Worker
  /-- Whether the deadline has passed. -/
  expired : Bool
  collection : Collection
  stats : Stats := {}
  /-- The files whose examination has begun, the latest first. -/
  examined : List Path := []

/-- Who takes a step. -/
inductive Party where
  | clock
  | feeder
  | worker (index : Nat)
  deriving DecidableEq

namespace State

/-- The state after the feeder has ended because of the deadline. -/
def feederExpires (s : State) : State :=
  { s with feeder := .done, collection := s.collection.expire }

/-- The state with a worker at something else. -/
def withWorker (s : State) (i : Nat) (w : Worker) : State :=
  { s with workers := s.workers.set i w }

/-- The state in which a worker begins to examine a file. -/
def examines (s : State) (i : Nat) (path : Path) : State :=
  { s.withWorker i (.examining path) with examined := path :: s.examined }

/-- The state after a worker has ended because of the deadline. -/
def workerExpires (s : State) (i : Nat) : State :=
  { s with workers := s.workers.set i .done, collection := s.collection.expire }

/-- The state after a path has been passed over. -/
def warn (s : State) (skipped : SkippedPath) : State :=
  { s with collection := s.collection.warn skipped, stats := s.stats.addWarning }

/-- The state after the examination of a file. -/
def record (s : State) (path : Path) : Except SearchError Examination → State
  | .ok e =>
    { s with
      collection := match e.result? path with
        | some r => s.collection.push r
        | none => s.collection
      stats := e.count s.stats }
  | .error err => s.warn ⟨some path, err.message⟩

/-- What the feeder does. -/
def feederStep (setup : Setup) (s : State) : Option State :=
  match s.feeder with
  | .taking =>
    match s.todo with
    | [] => some { s with feeder := .done }
    | item :: rest =>
      let s := { s with todo := rest }
      if s.expired then some s.feederExpires
      else
        match item with
        | .file path => some { s with feeder := .sending path }
        | .skipped skipped => some (s.warn skipped)
  | .sending path =>
    if s.workers.all (· == .done) then some { s with feeder := .done }
    else if s.queue.length < setup.capacity then
      some { s with feeder := .taking, queue := s.queue ++ [path] }
    else if s.expired then some s.feederExpires
    else none
  | .done => none

/-- What a worker does. -/
def workerStep (setup : Setup) (s : State) (i : Nat) : Option State :=
  match s.workers[i]? with
  | none | some .done => none
  | some .idle => some (if s.expired then s.workerExpires i else s.withWorker i .receiving)
  | some .receiving =>
    match s.queue with
    | path :: rest => some ({ s with queue := rest }.withWorker i (.holding path))
    | [] =>
      if s.feeder = .done then some (s.withWorker i .done)
      else if s.expired then some (s.workerExpires i)
      else none
  | some (.holding path) =>
    some (if s.expired then s.workerExpires i else s.examines i path)
  | some (.examining path) => some ((s.record path (setup.examine path)).withWorker i .idle)

/-- What a party does, if it can do anything. -/
def step (setup : Setup) (s : State) : Party → Option State
  | .clock => if setup.hasDeadline then some { s with expired := true } else none
  | .feeder => s.feederStep setup
  | .worker i => s.workerStep setup i

/-- Whether all parties are at their end. -/
def isDone (s : State) : Bool := s.feeder == .done && s.workers.all (· == .done)

/-- The state at the start of a run. -/
def start (workers : Nat) (sorted expired : Bool) (items : List Item) : State :=
  { todo := items
    workers := List.replicate workers .idle
    expired
    collection := { sorted } }

/-- The output of a state. -/
def output (s : State) : Output := s.collection.output s.stats

/-- The state after the first party, the feeder before the workers, that can do something. -/
def next? (setup : Setup) (s : State) : Option State :=
  match s.feederStep setup with
  | some s => some s
  | none => (List.range s.workers.length).findSome? (s.workerStep setup)

/-- The state after a run of at most `fuel` steps. -/
def runFor (setup : Setup) : Nat → State → State
  | 0, s => s
  | fuel + 1, s =>
    match s.next? setup with
    | some s => runFor setup fuel s
    | none => s

end State

/-- The states that a run can come to. -/
inductive Reachable (setup : Setup) (first : State) : State → Prop where
  | first : Reachable setup first first
  | step {s s' : State} {party : Party} :
    Reachable setup first s → s.step setup party = some s' → Reachable setup first s'

/-- The number of files that the queue holds for each worker. -/
def queuePerWorker : Nat := 64

/-- When a search is to end. -/
inductive Deadline where
  | none
  /-- At a time that is over. -/
  | past
  /-- At a time that is yet to come; `run` ends before it. -/
  | far
  deriving DecidableEq, Repr

/-- What does not change during a run of some workers. -/
def setup (examine : Path → Except SearchError Examination) (workers : Nat) (deadline : Deadline) :
    Setup :=
  { examine, capacity := workers * queuePerWorker, hasDeadline := deadline != .none }

/-- The output of a run.  An item takes at most six steps, and a worker at most two at its end. -/
def run (examine : Path → Except SearchError Examination) (workers : Nat) (sorted : Bool)
    (deadline : Deadline) (items : List Item) : Output :=
  let first := State.start workers sorted (deadline == .past) items
  let last := first.runFor (setup examine workers deadline) (6 * items.length + 3 * workers + 1)
  last.output

/-- The outputs that runs can have, in whatever order the parties take their steps. -/
def Yields (examine : Path → Except SearchError Examination) (workers : Nat) (sorted : Bool)
    (deadline : Deadline) (items : List Item) (output : Output) : Prop :=
  ∃ s, Reachable (setup examine workers deadline)
      (.start workers sorted (deadline == .past) items) s ∧ s.isDone ∧ output = s.output

/-- Whether a pool can have so many workers. -/
def checkWorkers (workers : Nat) : Except SearchError Unit :=
  if workers < 1 then .error (.config "num_workers must be at least 1") else .ok ()

end FileSearch.Pool
