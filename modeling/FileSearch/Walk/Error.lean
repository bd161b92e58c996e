import FileSearch.Files.IoError
import FileSearch.Files.Path

/-!
# Errors of a walk

A `WalkError` is what goes wrong while directories are walked and ignore files are read, wrapped in
what is known about its place.
-/

namespace FileSearch.Walk

/-- An error of a walk. -/
inductive WalkError where
  | partialFailure (errs : List WalkError)
  | withLine (line : Nat) (err : WalkError)
  | withPath (path : Path) (err : WalkError)
  | withDepth (depth : Nat) (err : WalkError)
  | loop (ancestor child : Path)
  | io (err : IoError)
  | glob (glob : Option String) (text : String)
  | unrecognizedFileType (name : String)
  | invalidDefinition
  deriving Inhabited

namespace WalkError

mutual

/-- The wording of an error. -/
def message : WalkError → String
  | .partialFailure errs => "\n".intercalate (messages errs)
  | .withLine line err => "line " ++ toString line ++ ": " ++ err.message
  | .withPath path err => path.display ++ ": " ++ err.message
  | .withDepth _ err => err.message
  | .loop ancestor child =>
    "File system loop found: " ++ child.display ++ " points to an ancestor " ++ ancestor.display
  | .io err => err.message
  | .glob none text => text
  | .glob (some g) text => "error parsing glob '" ++ g ++ "': " ++ text
  | .unrecognizedFileType name => "unrecognized file type: " ++ name
  | .invalidDefinition => "invalid definition (format is type:glob, e.g., html:*.html)"

/-- The wordings of several errors. -/
def messages : List WalkError → List String
  | [] => []
  | e :: es => e.message :: messages es

end

/-- The error of the system below the wrappers; a list counts only if it has one element. -/
def ioError? : WalkError → Option IoError
  | .partialFailure [err] => err.ioError?
  | .withLine _ err | .withPath _ err | .withDepth _ err => err.ioError?
  | .io err => some err
  | _ => none

/-- The path an error is tied to. -/
def path? : WalkError → Option Path
  | .withPath path _ => some path
  | .withDepth _ err | .withLine _ err => err.path?
  | .loop _ child => some child
  | _ => none

end WalkError

end FileSearch.Walk
