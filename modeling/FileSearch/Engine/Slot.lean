import FileSearch.Engine.Basic

/-!
# One engine at a time

Clients start and end engines at the same time.  A guard keeps them from having two: a client takes
it before it builds an engine, and gives it back if the engine cannot be built or when the engine ends.
`Client` is what a client is at, `step` what it can do, and `Reachable` holds of the states that clients
can come to, whatever the order of their steps.
-/

namespace FileSearch.Engine.Slot

/-- What a client is at. -/
inductive Client where
  /-- Has no engine. -/
  | idle
  /-- Has checked a configuration and is about to take the guard. -/
  | entering (config : Config)
  /-- Has taken the guard and is about to start workers. -/
  | building (config : Config)
  /-- Has found that the engine cannot be built and is about to give the guard back. -/
  | failing (err : SearchError)
  /-- Has an engine. -/
  | alive (engine : Engine)
  /-- Has ended its engine and is about to give the guard back. -/
  | dropping

/-- The guard and all clients. -/
structure State where
  /-- Whether the guard is taken. -/
  taken : Bool := false
  clients : List Client

/-- What a client does next. -/
inductive Action where
  /-- Asks for an engine. -/
  | init (config : Config)
  /-- Goes on with what it has begun. -/
  | proceed
  /-- Ends its engine. -/
  | finish

/-- What a call for an engine comes to. -/
inductive Answer where
  | started
  | refused (err : SearchError)
  | none

/-- What a client does: the guard, the client after it, and the answer to its call. -/
def clientStep (host : Host) (taken : Bool) : Client → Action → Option (Bool × Client × Answer)
  | .idle, .init config =>
    match config.validate with
    | .ok _ => some (taken, .entering config, .none)
    | .error err => some (taken, .idle, .refused err)
  | .entering config, .proceed =>
    if taken then some (taken, .idle, .refused .alreadyInitialized)
    else some (true, .building config, .none)
  | .building config, .proceed =>
    match Engine.build host config with
    | .ok engine => some (taken, .alive engine, .started)
    | .error err => some (taken, .failing err, .none)
  | .failing err, .proceed => some (false, .idle, .refused err)
  | .alive _, .finish => some (taken, .dropping, .none)
  | .dropping, .proceed => some (false, .idle, .none)
  | _, _ => none

/-- What a state becomes if a client acts, and the answer to the client. -/
def step (host : Host) (s : State) (i : Nat) (a : Action) : Option (State × Answer) :=
  match s.clients[i]? with
  | none => none
  | some c =>
    match clientStep host s.taken c a with
    | none => none
    | some (taken, c, answer) => some (⟨taken, s.clients.set i c⟩, answer)

/-- The state in which no client has an engine. -/
def start (clients : Nat) : State := { clients := List.replicate clients .idle }

/-- The states that clients can come to; threads may start at one time and fail to at another. -/
inductive Reachable (clients : Nat) : State → Prop where
  | start : Reachable clients (start clients)
  | step {host : Host} {s s' : State} {i : Nat} {a : Action} {answer : Answer} :
    Reachable clients s → step host s i a = some (s', answer) → Reachable clients s'

/-- Whether a client has the guard: it builds an engine, has one, or is about to give it back. -/
def Client.holdsGuard : Client → Bool
  | .idle | .entering _ => false
  | .building _ | .failing _ | .alive _ | .dropping => true

end FileSearch.Engine.Slot
