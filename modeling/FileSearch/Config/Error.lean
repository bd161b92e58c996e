import FileSearch.Text.Quoted

/-!
# Why a configuration cannot be loaded
-/

namespace FileSearch.Config

/-- A failure to load a configuration. -/
inductive LoadError where
  /-- A property that is not there. -/
  | notFound (key : String)
  /-- A message of its own. -/
  | message (text : String)
  /-- A file that could not be read, with its name. -/
  | file (uri : Option String) (cause : String)
  /-- A value of the wrong type, with where it came from and its place. -/
  | type (origin : Option String) (unexpected expected : String) (key : Option String)
  deriving DecidableEq, Repr

/-- The wording of a failure. -/
def LoadError.text : LoadError → String
  | .notFound key => "configuration property " ++ Text.quoted key ++ " not found"
  | .message text => text
  | .file uri cause => cause ++ (uri.map (" in " ++ ·)).getD ""
  | .type origin unexpected expected key =>
    "invalid type: " ++ unexpected ++ ", expected " ++ expected ++
      (key.map fun k => " for key `" ++ k ++ "`").getD "" ++ (origin.map (" in " ++ ·)).getD ""

end FileSearch.Config
