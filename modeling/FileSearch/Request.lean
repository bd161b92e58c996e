import FileSearch.Error

/-!
# Search requests
-/

namespace FileSearch

/-- A pattern and the paths below which to search for it. -/
structure Request where
  pattern : String
  paths : List Path
  deriving DecidableEq

/-- Whether a request can be answered at all: its pattern must not be empty. -/
def Request.validate (r : Request) : Except SearchError Unit :=
  if r.pattern.isEmpty then .error .emptyPattern else .ok ()

end FileSearch
