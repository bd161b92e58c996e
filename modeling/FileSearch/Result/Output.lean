import FileSearch.Result.FileResult
import FileSearch.Result.Stats

/-!
# The output of a search

`Output.wire` is the text in which an output is handed on: the files with a match, their flags, and
the bytes and places of their matches.
-/

namespace FileSearch

/-- What a search has found. -/
structure Output where
  /-- The number of all matches. -/
  nresults : Nat := 0
  results : List FileResult := []
  flags : Flags := .empty
  warnings : List SkippedPath := []
  stats : Stats := {}
  deriving DecidableEq

namespace Output

/-- Whether no file has a match. -/
def isEmpty (o : Output) : Bool := o.results.isEmpty

/-- Whether the time was over before the end of the search. -/
def timedOut (o : Output) : Bool := o.flags.contains .timedOut

/-- The files with a match. -/
def files (o : Output) : List Path := o.results.map (·.file.path)

/-- The output with its files and warnings in the order of their paths. -/
def sorted (o : Output) : Output :=
  { o with
    results := o.results.mergeSort fun a b => a.file.path.le b.file.path
    warnings := o.warnings.mergeSort SkippedPath.le }

/-- The value of a match. -/
def matchJson (m : Match) : Json :=
  .obj [("match", .str m.display), ("byte_start", .nat m.start), ("byte_end", .nat m.stop)]

/-- The value of the matches of a file. -/
def fileJson (r : FileResult) : Json :=
  .obj [
    ("file", .str r.file.path.display),
    ("flags", .nat r.flags.bits.toNat),
    ("matches", .arr (r.found.map matchJson))]

/-- The value of an output. -/
def toJson (o : Output) : Json :=
  .obj [("nresults", .nat o.nresults), ("results", .arr (o.results.map fileJson))]

/-- The text of an output. -/
def wire (o : Output) : String := o.toJson.render

end Output

end FileSearch
