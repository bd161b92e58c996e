/-!
# Counters of a search
-/

namespace FileSearch

/-- What a search has counted.  Counters have 64 bits and begin again at zero beyond them. -/
structure Stats where
  /-- Bytes of the files searched. -/
  bytes : UInt64 := 0
  /-- Files searched. -/
  files : UInt64 := 0
  /-- Matches found. -/
  matchCount : UInt64 := 0
  /-- Files with a match. -/
  matchedFiles : UInt64 := 0
  /-- Binary files left out. -/
  binarySkipped : UInt64 := 0
  /-- Paths passed over because of errors. -/
  warnings : UInt64 := 0
  deriving DecidableEq, Repr, Inhabited

namespace Stats

/-- Counts a file of `n` bytes. -/
def addFile (s : Stats) (n : Nat) : Stats :=
  { s with files := s.files + 1, bytes := s.bytes + n.toUInt64 }

/-- Counts the matches of a file. -/
def addMatches (s : Stats) (n : Nat) : Stats :=
  if n = 0 then s
  else { s with matchCount := s.matchCount + n.toUInt64, matchedFiles := s.matchedFiles + 1 }

/-- Counts a binary file that is left out. -/
def addBinarySkipped (s : Stats) : Stats := { s with binarySkipped := s.binarySkipped + 1 }

/-- Counts a path that is passed over. -/
def addWarning (s : Stats) : Stats := { s with warnings := s.warnings + 1 }

end Stats

end FileSearch
