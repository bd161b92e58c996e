import FileSearch.Config.Basic
import FileSearch.Engine.Host
import FileSearch.Request

/-!
# Engines

An `Engine` answers search requests.  It keeps its configuration, the ignore rules of the
configuration, the number of workers that run, the patterns it has compiled and the counters of its
latest search.  An `Action` changes an engine step by step and may fail between two steps.
-/

namespace FileSearch

/-- What decides how a pattern is compiled. -/
structure PatternKey where
  text : String
  options : PatternOptions
  deriving DecidableEq

/-- An engine. -/
structure Engine where
  config : Config
  /-- How many workers run, if any do. -/
  workers : Option Nat
  rules : IgnoreRules
  /-- The patterns compiled so far. -/
  compiled : List (PatternKey × Pattern) := []
  lastStats : Option Stats := none

namespace Engine

/-- The greatest number of compiled patterns that are kept. -/
def mostCompiled : Nat := 128

/-- Whether workers run. -/
def isRunning (e : Engine) : Bool := e.workers.isSome

/-- What is done to an engine.  If it fails, what it has changed before stays changed. -/
abbrev Action (α : Type) := ExceptT SearchError (StateM Engine) α

/-- The answer to an action, and the engine after it. -/
def Action.on {α : Type} (a : Action α) (e : Engine) : Except SearchError α × Engine := a.run.run e

/-! ## Configuration and workers -/

/-- An engine with a configuration that has been checked. -/
def build (host : Host) (config : Config) : Except SearchError Engine := do
  let rules := IgnoreRules.ofTexts config.ignorePatterns
  if config.workersBehavior = .onInit then
    let workers := config.numWorkers.toNat
    host.startWorkers workers
    return { config, workers := some workers, rules }
  else return { config, workers := none, rules }

/-- An engine with a configuration.  There may be no other one. -/
def init (host : Host) (existing : Option Engine) (config : Config) : Except SearchError Engine := do
  config.validate
  if existing.isSome then throw .alreadyInitialized
  build host config

/-- Brings the workers, if any run, to another number. -/
def resize (host : Host) (wanted : Nat) : Action Unit := do
  if let some n := (← get).workers then
    if n ≠ wanted then
      host.startWorkers wanted
      modify fun e => { e with workers := some wanted }

/-- Takes another configuration.  Workers that run go on, in the number that the new configuration
asks for. -/
def setConfig (host : Host) (config : Config) : Action Unit := do
  config.validate
  resize host config.numWorkers.toNat
  modify fun e => { e with rules := IgnoreRules.ofTexts config.ignorePatterns }
  modify fun e => { e with compiled := [] }
  modify fun e => { e with config }

/-- Starts the workers, which must not run yet. -/
def startWorkers (host : Host) : Action Unit := do
  if (← get).isRunning then throw .workersRunning
  let workers := (← get).config.numWorkers.toNat
  host.startWorkers workers
  modify fun e => { e with workers := some workers }

/-- Stops the workers, which must run. -/
def stopWorkers : Action Unit := do
  let wasRunning := (← get).isRunning
  modify fun e => { e with workers := none }
  if !wasRunning then throw .workersStopped

/-! ## Searches -/

/-- How a pattern is compiled. -/
def key (e : Engine) (pattern : String) : PatternKey :=
  ⟨pattern, { caseSensitive := e.config.caseMattersFor pattern, literal := e.config.literal }⟩

/-- The pattern that was compiled before. -/
def cached? (e : Engine) (k : PatternKey) : Option Pattern :=
  (e.compiled.find? (·.1 = k)).map (·.2)

/-- The engine with one more compiled pattern; if there are too many, the others are dropped. -/
def remember (e : Engine) (k : PatternKey) (p : Pattern) : Engine :=
  { e with compiled := (k, p) :: if mostCompiled ≤ e.compiled.length then [] else e.compiled }

/-- The compiled pattern of a text, which the engine keeps. -/
def patternFor (text : String) : Action Pattern := do
  let k := (← get).key text
  match (← get).cached? k with
  | some p => return p
  | none =>
    let p ← Pattern.compile k.text k.options
    modify (·.remember k p)
    return p

/-- The number of workers for a search: those that run, or new ones that run for this search. -/
def workersFor (e : Engine) (host : Host) : Except SearchError Nat :=
  match e.workers, e.config.workersBehavior with
  | some n, _ => .ok n
  | none, .onSearch => do
    host.startWorkers e.config.numWorkers.toNat
    return e.config.numWorkers.toNat
  | none, _ => .error .workersStopped

/-- When a search that may take some time has to end. -/
def deadline (timeout : Option Duration) : Pool.Deadline :=
  match timeout with
  | none => .none
  | some d => if d = .zero then .past else .far

/-- How files are examined for a pattern. -/
def examiner (config : Config) (p : Pattern) : Examiner :=
  { finder := p.finder
    searchBinaryFiles := config.searchBinaryFiles
    maxMatches := config.maxMatchesPerFile.map UInt64.toNat
    overlap := config.chunkOverlap.toNat }

/-- The items of the paths of a search. -/
def items (host : Host) (config : Config) (rules : IgnoreRules) (paths : List Path) :
    List Walk.Item :=
  let walker : Walk.Walker := ⟨host.fs, config.walkOptions, rules, host.gitGlobal⟩
  walker.items paths

/-- The output of a search for a compiled pattern. -/
def run (host : Host) (config : Config) (rules : IgnoreRules) (workers : Nat) (p : Pattern)
    (paths : List Path) : Output :=
  Pool.run ((examiner config p).examine host.fs) workers config.deterministic
    (deadline config.timeout) (items host config rules paths)

/-- What a search needs before it looks at any file: the compiled pattern and the number of
workers. -/
def prepare (host : Host) (request : Request) : Action (Pattern × Nat) := do
  request.validate
  let p ← patternFor request.pattern
  let workers ← (← get).workersFor host
  return (p, workers)

/-- Notes the counters of an output. -/
def record (e : Engine) (output : Output) : Engine := { e with lastStats := some output.stats }

/-- Answers a request. -/
def search (host : Host) (request : Request) : Action Output := do
  let (p, workers) ← prepare host request
  let e ← get
  let output := if request.paths.isEmpty then {}
    else run host e.config e.rules workers p request.paths
  modify (·.record output)
  return output

end Engine

end FileSearch
