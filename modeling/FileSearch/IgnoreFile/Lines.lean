import FileSearch.IgnoreFile.Glob
import FileSearch.Regex.Search
import FileSearch.Text.Trim
import FileSearch.Walk.Error

/-!
# Lines of ignore files

Each line of an ignore file that is neither blank nor a remark holds a glob.  An exclamation mark in
front takes back in what the glob matches; a slash at the end restricts it to directories; with a
slash elsewhere it is matched with paths below the directory of the file, else with names at any
depth.  `Line.read?` reads a line and `linesOf` a whole file.
-/

namespace FileSearch.IgnoreFile

open Walk (WalkError)

/-- The glob of a line. -/
structure Line where
  program : Regex.Program
  negated : Bool
  dirOnly : Bool

namespace Line

/-- A line without the blanks at its end, unless the last of them is escaped. -/
def trimmed (cs : List Char) : List Char :=
  if [' ', '\\'].isPrefixOf cs.reverse then cs else Text.trimEnd cs

/-- The text of a line without its marks. -/
structure Body where
  text : List Char
  negated : Bool := false
  anchored : Bool := false

/-- Takes the marks at the front from a line. -/
def front (cs : List Char) : Body :=
  match cs with
  | '\\' :: c :: rest =>
    if c = '!' ∨ c = '#' then { text := c :: rest } else { text := cs }
  | '!' :: '/' :: rest => { text := rest, negated := true, anchored := true }
  | '!' :: rest => { text := rest, negated := true }
  | '/' :: rest => { text := rest, anchored := true }
  | cs => { text := cs }

/-- Takes a slash at the end from a line, with a backslash before it. -/
def withoutSlash (cs : List Char) : List Char × Bool :=
  match cs.reverse with
  | '/' :: '\\' :: rest => (rest.reverse, true)
  | '/' :: rest => (rest.reverse, true)
  | _ => (cs, false)

/-- The glob for whole paths: one without a slash matches at any depth, one that ends with all that
is in a directory does not match the directory. -/
def pathGlob (anchored : Bool) (cs : List Char) : List Char :=
  let stars := ['*', '*']
  let deep := anchored || cs.contains '/' || cs == stars
  let cs := if deep then cs else stars ++ '/' :: cs
  if ['*', '*', '/'].isPrefixOf cs.reverse then cs ++ ['/', '*'] else cs

/-- Reads a line; there is none if it holds no glob. -/
def read? (text : List Char) : Except WalkError (Option Line) :=
  if text.head? == some '#' then .ok none
  else
    let whole := trimmed text
    if whole.isEmpty then .ok none
    else
      let body := front whole
      let (glob, dirOnly) := withoutSlash body.text
      match Glob.read (pathGlob body.anchored glob) with
      | .error e => .error (.glob (some (String.ofList whole)) e.message)
      | .ok tokens =>
        .ok (some { program := .ofExpr (Glob.pathExpr tokens), negated := body.negated, dirOnly })

/-- Whether the glob of a line matches a path. -/
def matchesPath (l : Line) (path : Path) (isDir : Bool) : Bool :=
  (!l.dirOnly || isDir) && (l.program.search path 0).isSome

end Line

/-! ## Files -/

/-- The error for bytes that are no text. -/
def notText : IoError := .custom "stream did not contain valid UTF-8"

/-- The lines of a content, without what ends them. -/
def splitLines (content : List UInt8) : List (List UInt8) :=
  let parts := content.splitOn 0x0A
  let parts := if parts.getLast? == some [] then parts.dropLast else parts
  let stripped (line : List UInt8) : List UInt8 :=
    if line.getLast? == some 0x0D then line.dropLast else line
  match parts.reverse with
  | last :: before =>
    if content.getLast? == some 0x0A then parts.map stripped
    else (before.reverse.map stripped) ++ [last]
  | [] => []

/-- Reads the lines with numbers from `number` on.  Reading ends at a line that is no text. -/
def readLines (path : Path) (number : Nat) :
    List (List UInt8) → List Line × List WalkError
  | [] => ([], [])
  | bytes :: rest =>
    let tagged (e : WalkError) : WalkError := .withPath path (.withLine number e)
    match Utf8.decode? ⟨bytes.toArray⟩ with
    | none => ([], [tagged (.io notText)])
    | some text =>
      let cs := text.toList
      let cs := if number = 1 then cs.dropWhile (· == '\ufeff') else cs
      let (lines, errs) := readLines path (number + 1) rest
      match Line.read? cs with
      | .error e => (lines, tagged e :: errs)
      | .ok none => (lines, errs)
      | .ok (some l) => (l :: lines, errs)

/-- Puts several errors together. -/
def collected : List WalkError → Option WalkError
  | [] => none
  | [e] => some e
  | errs => some (.partialFailure errs)

/-- The lines of an ignore file, and what is wrong with it. -/
def linesOf (path : Path) (content : ByteArray) : List Line × Option WalkError :=
  let (lines, errs) := readLines path 1 (splitLines content.data.toList)
  (lines, collected errs)

/-- What some lines say about a path: whether to ignore it, if any of them matches.  The last line
that matches decides. -/
def verdict (lines : List Line) (path : Path) (isDir : Bool) : Option Bool :=
  (lines.reverse.find? (·.matchesPath path isDir)).map (!·.negated)

end FileSearch.IgnoreFile
