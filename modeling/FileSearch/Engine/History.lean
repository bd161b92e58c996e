import FileSearch.Engine.Basic

/-!
# Histories of an engine

An `Operation` is what a client may ask of an engine, and `Engine.apply` gives the answer and the
engine after it.  A search runs on several threads, whose steps may come in one order or another;
`Engine.Performs` relates an operation to all answers that are possible.  A `History` is the
operations asked of one engine, with their answers, from its start on; files and threads may change
from one operation to the next.
-/

namespace FileSearch.Engine

/-- What a client asks of an engine. -/
inductive Operation where
  | setConfig (config : Config)
  | startWorkers
  | stopWorkers
  | search (request : Request)

/-- The answer to an operation.  Only searches have an output. -/
abbrev Answer := Except SearchError (Option Output)

/-- Does what a client asks. -/
def perform (host : Host) : Operation → Action (Option Output)
  | .setConfig config => do setConfig host config; return none
  | .startWorkers => do startWorkers host; return none
  | .stopWorkers => do stopWorkers; return none
  | .search request => some <$> search host request

/-- The answer to an operation, and the engine after it. -/
def apply (e : Engine) (host : Host) (operation : Operation) : Answer × Engine :=
  (perform host operation).on e

/-! ## All possible answers -/

/-- The outputs that a search for a compiled pattern can have. -/
def Finds (e : Engine) (host : Host) (workers : Nat) (p : Pattern) (paths : List Path)
    (output : Output) : Prop :=
  if paths.isEmpty then output = {}
  else Pool.Yields ((examiner e.config p).examine host.fs) workers e.config.deterministic
    (deadline e.config.timeout) (items host e.config e.rules paths) output

/-- The answers that a request can have, and the engines after it. -/
inductive Searches (e : Engine) (host : Host) (request : Request) :
    Except SearchError Output → Engine → Prop where
  | fails {err : SearchError} {e' : Engine} :
    (prepare host request).on e = (.error err, e') → Searches e host request (.error err) e'
  | finds {p : Pattern} {workers : Nat} {e' : Engine} {output : Output} :
    (prepare host request).on e = (.ok (p, workers), e') →
      e'.Finds host workers p request.paths output →
      Searches e host request (.ok output) (e'.record output)

/-- The answers that an operation can have, and the engines after it. -/
inductive Performs (e : Engine) (host : Host) : Operation → Answer → Engine → Prop where
  | setConfig {config : Config} {answer : Answer} {e' : Engine} :
    e.apply host (.setConfig config) = (answer, e') → Performs e host (.setConfig config) answer e'
  | startWorkers {answer : Answer} {e' : Engine} :
    e.apply host .startWorkers = (answer, e') → Performs e host .startWorkers answer e'
  | stopWorkers {answer : Answer} {e' : Engine} :
    e.apply host .stopWorkers = (answer, e') → Performs e host .stopWorkers answer e'
  | search {request : Request} {answer : Except SearchError Output} {e' : Engine} :
    e.Searches host request answer e' → Performs e host (.search request) (answer.map some) e'

/-! ## Histories -/

/-- An operation with what the engine ran on and the answer. -/
structure Event where
  host : Host
  operation : Operation
  answer : Answer

/-- The events, the latest first, that have led from the start with a configuration to an engine. -/
inductive History (first : Config) : List Event → Engine → Prop where
  | init {host : Host} {e : Engine} : Engine.init host none first = .ok e → History first [] e
  | next {events : List Event} {e e' : Engine} {host : Host} {operation : Operation}
      {answer : Answer} :
    History first events e → e.Performs host operation answer e' →
      History first (⟨host, operation, answer⟩ :: events) e'

/-- The output of the latest search that succeeded. -/
def lastOutput? (events : List Event) : Option Output :=
  events.findSome? fun event => event.answer.toOption.join

/-- Whether a client asks to stop the workers. -/
def Event.stops (event : Event) : Bool := event.operation matches .stopWorkers

/-- Whether a client starts the workers. -/
def Event.starts (event : Event) : Bool :=
  event.operation matches .startWorkers && event.answer.toBool

/-- Whether a client has asked to stop the workers. -/
def asksToStop (events : List Event) : Bool := events.any Event.stops

/-- Whether a client has started the workers. -/
def hasStarted (events : List Event) : Bool := events.any Event.starts

/-- An engine that has just been made with a configuration, with its workers started if the
configuration leaves that for later. -/
def fresh (host : Host) (config : Config) : Except SearchError Engine := do
  let e ← Engine.init host none config
  if e.isRunning then return e
  else
    let (answer, e) := (startWorkers host).on e
    answer.map fun _ => e

end FileSearch.Engine
