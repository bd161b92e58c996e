import FileSearch.Regex.Error
import FileSearch.Unicode.Property

/-!
# Reading a pattern

A `Cursor` is a place in a pattern: the characters that are left and the number of those read.  A
`Reader` moves a cursor or fails with a `Fault`.  In verbose patterns blanks and comments between
items are skipped.
-/

namespace FileSearch.Regex

/-- A place in a pattern. -/
structure Cursor where
  rest : List Char
  pos : Nat
  verbose : Bool

/-- Drops blanks and comments from the front of a text and counts them; `comment` tells that the
text begins inside a comment. -/
def skipBlanks : List Char → Nat → Bool → List Char × Nat
  | [], n, _ => ([], n)
  | c :: rest, n, true => skipBlanks rest (n + 1) (c != '\n')
  | c :: rest, n, false =>
    if Unicode.isBlank c then skipBlanks rest (n + 1) false
    else if c = '#' then skipBlanks rest (n + 1) true
    else (c :: rest, n)

/-- The cursor after blanks and comments, if the pattern is verbose. -/
def Cursor.skip (c : Cursor) : Cursor :=
  if c.verbose then
    let (rest, pos) := skipBlanks c.rest c.pos false
    { c with rest, pos }
  else c

/-- The cursor after the next character. -/
def Cursor.bump (c : Cursor) : Cursor :=
  match c.rest with
  | [] => c
  | _ :: rest => { c with rest, pos := c.pos + 1 }

/-- The character after the blanks that follow the next character.  Of a comment only its sign is
passed over. -/
def afterBlanks : List Char → Bool → Option Char
  | [], _ => none
  | c :: rest, comment =>
    if Unicode.isBlank c then afterBlanks rest comment
    else if !comment && c = '#' then afterBlanks rest true
    else some c

/-- The character after the next one, with blanks passed over in verbose patterns. -/
def Cursor.second (c : Cursor) : Option Char :=
  match c.rest with
  | [] => none
  | _ :: rest =>
    if c.verbose then (afterBlanks rest false).or rest.head? else rest.head?

/-- What moves a cursor or fails. -/
abbrev Reader := StateT Cursor (Except Fault)

namespace Reader

/-- Fails with a cause at a stretch. -/
def fail {α : Type} (span : Stretch) (cause : Cause) : Reader α :=
  throw { cause, span }

/-- The next character, if any. -/
def peek : Reader (Option Char) := return (← get).rest.head?

/-- The number of characters read. -/
def pos : Reader Nat := return (← get).pos

/-- Whether everything has been read. -/
def atEnd : Reader Bool := return (← get).rest.isEmpty

/-- Passes the next character. -/
def bump : Reader Unit := modify Cursor.bump

/-- Passes blanks and comments. -/
def skip : Reader Unit := modify Cursor.skip

/-- Passes the next character, then blanks and comments. -/
def next : Reader Unit := modify fun c => c.bump.skip

/-- Passes a text if it comes next. -/
def bumpIf (text : String) : Reader Bool := do
  let c ← get
  let cs := text.toList
  if cs.isPrefixOf c.rest then
    set { c with rest := c.rest.drop cs.length, pos := c.pos + cs.length }
    return true
  else return false

/-- The stretch of the next character, empty at the end. -/
def here : Reader Stretch := do
  let c ← get
  return if c.rest.isEmpty then .point c.pos else .char c.pos

/-- The place before the next character. -/
def point : Reader Stretch := return .point (← pos)

/-- The stretch from `start` to the place before the next character. -/
def since (start : Nat) : Reader Stretch := return ⟨start, ← pos⟩

end Reader

end FileSearch.Regex
