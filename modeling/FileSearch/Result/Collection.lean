import FileSearch.Result.Output

/-!
# Collecting results

A `Collection` gathers results and warnings in the order in which they come.  `Collection.output`
turns it into an output, sorted by path if the order is to be `sorted`.
-/

namespace FileSearch

/-- Results and warnings of a search that goes on. -/
structure Collection where
  sorted : Bool
  results : List FileResult := []
  warnings : List SkippedPath := []
  timedOut : Bool := false

namespace Collection

/-- Adds a result; one without a match is dropped. -/
def push (c : Collection) (r : FileResult) : Collection :=
  if r.found.isEmpty then c else { c with results := c.results ++ [r] }

/-- Adds a warning. -/
def warn (c : Collection) (s : SkippedPath) : Collection :=
  { c with warnings := c.warnings ++ [s] }

/-- Notes that the time is over. -/
def expire (c : Collection) : Collection := { c with timedOut := true }

/-- The output of a collection in the order in which it was gathered. -/
def unsorted (c : Collection) (stats : Stats) : Output :=
  { nresults := (c.results.map (·.found.length)).foldr (· + ·) 0
    results := c.results
    flags := if c.timedOut then .timedOut else .empty
    warnings := c.warnings
    stats }

/-- The output of a collection. -/
def output (c : Collection) (stats : Stats) : Output :=
  if c.sorted then (c.unsorted stats).sorted else c.unsorted stats

end Collection

end FileSearch
