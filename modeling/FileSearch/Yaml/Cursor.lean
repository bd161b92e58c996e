import FileSearch.Yaml.Error

/-!
# Reading YAML texts

A `Cursor` is a text that has been read up to a place.  A NUL character ends the text.
-/

namespace FileSearch.Yaml

/-- Whether a character ends the text. -/
def isEnd (c : Char) : Bool := c == '\x00'

/-- Whether a character ends a line. -/
def isBreak (c : Char) : Bool := c == '\n' || c == '\r'

/-- Whether a character ends a line or the text. -/
def isBreakOrEnd (c : Char) : Bool := isBreak c || isEnd c

/-- Whether a character is a space or a tab. -/
def isBlank (c : Char) : Bool := c == ' ' || c == '\t'

/-- Whether a character is a space or a tab or ends a line or the text. -/
def isGap (c : Char) : Bool := isBlank c || isBreakOrEnd c

/-- Whether a character can stand in names of anchors. -/
def isNameChar (c : Char) : Bool := c.isAlphanum || c == '_' || c == '-'

/-- Whether a character is a sign of flow collections. -/
def isFlowSign (c : Char) : Bool := [',', '[', ']', '\x7b', '\x7d'].contains c

/-- The value of a hexadecimal digit. -/
def hexValue? (c : Char) : Option Nat :=
  let n := c.toNat
  if 48 ≤ n ∧ n ≤ 57 then some (n - 48)
  else if 65 ≤ n ∧ n ≤ 70 then some (n - 55)
  else if 97 ≤ n ∧ n ≤ 102 then some (n - 87)
  else none

/-- A text that has been read up to a place. -/
structure Cursor where
  rest : List Char
  mark : Mark
  deriving Inhabited

namespace Cursor

/-- The start of a text. -/
def ofString (text : String) : Cursor := ⟨text.toList, ⟨0, 1, 0⟩⟩

/-- The character `n` places ahead, NUL behind the end. -/
def peek (c : Cursor) (n : Nat) : Char := c.rest.getD n '\x00'

/-- The next character, NUL at the end. -/
def head (c : Cursor) : Char := c.rest.headD '\x00'

/-- The place after a character. -/
def markAfter (m : Mark) (c : Char) : Mark :=
  if c = '\n' then ⟨m.index + 1, m.line + 1, 0⟩ else ⟨m.index + 1, m.line, m.column + 1⟩

/-- Passes a character. -/
def skip (c : Cursor) : Cursor := ⟨c.rest.tail, markAfter c.mark c.head⟩

/-- Passes `n` characters. -/
def skips (c : Cursor) : Nat → Cursor
  | 0 => c
  | n + 1 => c.skip.skips n

/-- Passes what ends a line. -/
def skipBreak (c : Cursor) : Cursor :=
  if c.head = '\r' ∧ c.peek 1 = '\n' then c.skips 2
  else if isBreak c.head then c.skip
  else c

/-- The characters that come next and of which `p` holds, and the place after them. -/
def takeWhile (c : Cursor) (p : Char → Bool) : List Char × Cursor :=
  let taken := c.rest.takeWhile fun ch => !isEnd ch && p ch
  (taken, c.skips taken.length)

/-- Passes the characters that come next and of which `p` holds. -/
def skipWhile (c : Cursor) (p : Char → Bool) : Cursor := (c.takeWhile p).2

/-- Passes blanks. -/
def skipBlanks (c : Cursor) : Cursor := c.skipWhile isBlank

/-- Passes a remark, if one comes next, up to the end of its line. -/
def skipRemark (c : Cursor) : Cursor :=
  if c.head = '#' then c.skipWhile fun ch => !isBreak ch else c

/-- Whether three equal signs that separate documents stand at the start of a line. -/
def atDocumentSign (c : Cursor) (sign : Char) : Bool :=
  c.mark.column == 0 && c.head == sign && c.peek 1 == sign && c.peek 2 == sign && isGap (c.peek 3)

/-- Whether a document begins or ends here. -/
def atDocumentEdge (c : Cursor) : Bool := c.atDocumentSign '-' || c.atDocumentSign '.'

end Cursor

end FileSearch.Yaml
