import FileSearch.Regex.Footprint
import FileSearch.Regex.Meaning
import FileSearch.Regex.Read
import FileSearch.Regex.Search

/-!
# Compiling a pattern

`compile` reads a pattern, resolves it and lays it out as a program.  `escape` writes any text as a
pattern that matches just this text.
-/

namespace FileSearch.Regex

/-- Why a pattern has no program. -/
inductive CompileError where
  | fault (f : Fault)
  | tooLarge
  deriving DecidableEq, Repr

/-- The wording of a compile error for a pattern. -/
def CompileError.message (pattern : String) : CompileError → String
  | .fault f => f.render pattern
  | .tooLarge => "Compiled regex exceeds size limit of " ++ toString sizeLimit ++ " bytes."

/-- What a pattern matches under the given modes. -/
def meaning (modes : Modes) (pattern : String) : Except CompileError Expr :=
  match Tree.read pattern with
  | .error f => .error (.fault f)
  | .ok t =>
    match t.meaning modes with
    | .error f => .error (.fault f)
    | .ok (e, _) => if e.tooLarge then .error .tooLarge else .ok e

/-- The program of a pattern under the given modes. -/
def compile (modes : Modes) (pattern : String) : Except CompileError Program :=
  (meaning modes pattern).map Program.ofExpr

/-- Writes a backslash before every character with a meaning of its own. -/
def escape (text : String) : String :=
  String.ofList (text.toList.flatMap fun c => if metaChars.contains c then ['\\', c] else [c])

end FileSearch.Regex
