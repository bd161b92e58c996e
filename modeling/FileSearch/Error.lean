import FileSearch.Config.Error
import FileSearch.Walk.Error

/-!
# Errors of the engine

Errors fall into four groups.  Configuration errors keep an engine from starting, worker errors
report that workers were started or stopped at the wrong time, pattern errors end a search before
any file is touched, and the others concern a single path and become warnings of a search.
-/

namespace FileSearch

/-- An error of the engine or of one of its parts. -/
inductive SearchError where
  | config (text : String)
  | configLoad (cause : Config.LoadError)
  | alreadyInitialized
  | workersRunning
  | workersStopped
  | emptyPattern
  | invalidPattern (pattern reason : String)
  | fileNotFound (path : Path)
  | permissionDenied (path : Path)
  | io (err : IoError)
  | walk (text : String)
  deriving DecidableEq

namespace SearchError

/-- The message of an error. -/
def message : SearchError → String
  | .config text => "Configuration error: " ++ text
  | .configLoad cause => "Failed to load configuration: " ++ cause.text
  | .alreadyInitialized => "Search engine is already initialized"
  | .workersRunning => "Workers are already running"
  | .workersStopped => "Workers are not running"
  | .emptyPattern => "Empty search pattern"
  | .invalidPattern pattern reason => "Invalid pattern '" ++ pattern ++ "': " ++ reason
  | .fileNotFound path => "File not found: " ++ path.display
  | .permissionDenied path => "Permission denied: " ++ path.display
  | .io err => "IO error: " ++ err.message
  | .walk text => "Walk error: " ++ text

/-- The error for a failed access to a path. -/
def ofIo (path : Path) (err : IoError) : SearchError :=
  match err.kind with
  | .notFound => .fileNotFound path
  | .permissionDenied => .permissionDenied path
  | _ => .io err

/-- The error for a failure of a walk. -/
def ofWalk (err : Walk.WalkError) : SearchError :=
  match err.ioError? with
  | some e => .io e
  | none => .walk err.message

/-- Whether an error keeps an engine from starting. -/
def isConfigError : SearchError → Bool
  | .config _ | .configLoad _ | .alreadyInitialized => true
  | _ => false

/-- Whether an error is about starting and stopping workers. -/
def isWorkersError : SearchError → Bool
  | .workersRunning | .workersStopped => true
  | _ => false

/-- Whether an error is about the pattern of a search. -/
def isPatternError : SearchError → Bool
  | .emptyPattern | .invalidPattern _ _ => true
  | _ => false

/-- Whether an error concerns a single path. -/
def isPerFile : SearchError → Bool
  | .fileNotFound _ | .permissionDenied _ | .io _ | .walk _ => true
  | _ => false

end SearchError

end FileSearch
