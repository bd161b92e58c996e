import FileSearch.Error
import FileSearch.Time.Duration
import FileSearch.Unicode.Property

/-!
# Configurations

A `Config` says how an engine searches.  It consists of sixteen settings, each of which has a
default; `Setting` is a setting with its value.
-/

namespace FileSearch

/-- When the workers run. -/
inductive WorkersBehavior where
  /-- From the start of the engine to its end. -/
  | onInit
  /-- Between explicit calls that start and stop them. -/
  | manual
  /-- During each search only. -/
  | onSearch
  deriving DecidableEq, Repr, Inhabited

/-- The behaviours with their names. -/
def WorkersBehavior.names : List (String × WorkersBehavior) :=
  [("on_init", .onInit), ("manual", .manual), ("on_search", .onSearch)]

/-- The name of a behaviour. -/
def WorkersBehavior.name : WorkersBehavior → String
  | .onInit => "on_init"
  | .manual => "manual"
  | .onSearch => "on_search"

/-- The behaviour of a name. -/
def WorkersBehavior.ofName? (name : String) : Option WorkersBehavior :=
  (names.find? (·.1 = name)).map (·.2)

/-- The settings of an engine. -/
structure Config where
  /-- The number of workers. -/
  numWorkers : UInt64 := 8
  /-- Whether binary files are searched. -/
  searchBinaryFiles : Bool := false
  /-- The texts of the ignore rules. -/
  ignorePatterns : List String := []
  /-- Whether case matters. -/
  caseSensitive : Bool := true
  /-- Whether case matters only for patterns with an upper-case letter. -/
  smartCase : Bool := false
  /-- Whether patterns are taken literally. -/
  literal : Bool := false
  /-- Whether directories below a root are entered. -/
  recurseDirs : Bool := true
  /-- Whether symbolic links are followed. -/
  followSymlinks : Bool := false
  /-- Whether hidden files are left out. -/
  skipHidden : Bool := true
  /-- Whether ignore files are heeded. -/
  respectIgnoreFiles : Bool := true
  /-- Whether outputs are sorted. -/
  deterministic : Bool := false
  /-- The number of matches of a file after which no more are reported. -/
  maxMatchesPerFile : Option UInt64 := none
  /-- The time that a search may take. -/
  timeout : Option Duration := none
  /-- When the workers run. -/
  workersBehavior : WorkersBehavior := .onInit
  /-- The number of bytes that the windows of a large file share. -/
  chunkOverlap : UInt64 := 4096
  /-- The level of messages. -/
  logLevel : String := "warn"
  deriving DecidableEq, Inhabited

/-- A setting with its value. -/
inductive Config.Setting where
  | numWorkers (n : UInt64)
  | searchBinaryFiles (b : Bool)
  | ignorePatterns (texts : List String)
  | caseSensitive (b : Bool)
  | smartCase (b : Bool)
  | literal (b : Bool)
  | recurseDirs (b : Bool)
  | followSymlinks (b : Bool)
  | skipHidden (b : Bool)
  | respectIgnoreFiles (b : Bool)
  | deterministic (b : Bool)
  | maxMatchesPerFile (n : Option UInt64)
  | timeout (d : Option Duration)
  | workersBehavior (w : WorkersBehavior)
  | chunkOverlap (n : UInt64)
  | logLevel (name : String)
  deriving DecidableEq

namespace Config

/-- The configuration in which nothing is set. -/
def default : Config := {}

/-- The configuration with a setting. -/
def set (c : Config) : Setting → Config
  | .numWorkers n => { c with numWorkers := n }
  | .searchBinaryFiles b => { c with searchBinaryFiles := b }
  | .ignorePatterns texts => { c with ignorePatterns := texts }
  | .caseSensitive b => { c with caseSensitive := b }
  | .smartCase b => { c with smartCase := b }
  | .literal b => { c with literal := b }
  | .recurseDirs b => { c with recurseDirs := b }
  | .followSymlinks b => { c with followSymlinks := b }
  | .skipHidden b => { c with skipHidden := b }
  | .respectIgnoreFiles b => { c with respectIgnoreFiles := b }
  | .deterministic b => { c with deterministic := b }
  | .maxMatchesPerFile n => { c with maxMatchesPerFile := n }
  | .timeout d => { c with timeout := d }
  | .workersBehavior w => { c with workersBehavior := w }
  | .chunkOverlap n => { c with chunkOverlap := n }
  | .logLevel name => { c with logLevel := name }

/-- The greatest number of workers that is chosen by the number of processors. -/
def mostWorkers : Nat := 8

/-- The configuration with as many workers as there are processors, within bounds. -/
def sizedFor (c : Config) (processors : Nat) : Config :=
  { c with numWorkers := (max 1 (min processors mostWorkers)).toUInt64 }

/-- Checks what an engine relies on. -/
def validate (c : Config) : Except SearchError Unit :=
  if c.numWorkers < 1 then .error (.config "num_workers must be at least 1")
  else if c.chunkOverlap = 0 then .error (.config "chunk_overlap must be at least 1")
  else if c.maxMatchesPerFile = some 0 then
    .error (.config "max_matches_per_file must be at least 1 when set")
  else .ok ()

/-- Whether case matters for a pattern. -/
def caseMattersFor (c : Config) (pattern : String) : Bool :=
  if c.smartCase then pattern.toList.any fun c => Unicode.isUppercase c else c.caseSensitive

end Config

end FileSearch
