import FileSearch.Search.Pool

/-!
# What an engine runs on
-/

namespace FileSearch

/-- The files that an engine searches, the threads it can have and the configuration of git. -/
structure Host where
  fs : FileSystem
  /-- Why so many threads cannot be started, if they cannot. -/
  threadFailure : Nat → Option String := fun _ => none
  /-- What the ignore file says that git keeps for all directories. -/
  gitGlobal : Path → Bool → Option Bool := fun _ _ => none

/-- Starts workers. -/
def Host.startWorkers (host : Host) (workers : Nat) : Except SearchError Unit := do
  Pool.checkWorkers workers
  match host.threadFailure workers with
  | some reason => throw (.config ("failed to start workers: " ++ reason))
  | none => return ()

end FileSearch
