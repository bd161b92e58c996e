import FileSearch.Error
import FileSearch.Regex.Compile
import FileSearch.Scan.Finder

/-!
# Search patterns

`Pattern.compile` turns a text into a `Pattern`.  A text without signs that mean something in
regular expressions, or one that is to be taken literally, is searched for byte by byte if case
matters; everything else is a regular expression, in which `^` and `$` match at lines.
-/

namespace FileSearch

/-- How a pattern is to be read. -/
structure PatternOptions where
  caseSensitive : Bool := true
  literal : Bool := false
  deriving DecidableEq, Repr

/-- How a pattern is searched for. -/
inductive Strategy where
  | literal (needle : ByteArray)
  | regex (program : Regex.Program)

/-- A pattern with the way to search for it. -/
structure Pattern where
  text : String
  strategy : Strategy

namespace Pattern

/-- The signs that mean something in regular expressions. -/
def regexSigns : List Char :=
  ['\\', '^', '$', '.', '|', '?', '*', '+', '(', ')', '[', ']', '\x7b', '\x7d']

/-- Whether a text has a sign that means something in regular expressions. -/
def isRegex (text : String) : Bool := text.toList.any regexSigns.contains

/-- The modes of the regular expressions. -/
def modes (options : PatternOptions) : Regex.Modes :=
  { multiLine := true, caseInsensitive := !options.caseSensitive }

/-- Whether a text is searched for as it stands. -/
def takesLiterally (text : String) (options : PatternOptions) : Bool :=
  options.literal || !isRegex text

/-- Turns a text into a pattern.  The text must not be empty. -/
def compile (text : String) (options : PatternOptions) : Except SearchError Pattern :=
  if text.isEmpty then .error .emptyPattern
  else if takesLiterally text options && options.caseSensitive then
    .ok ⟨text, .literal text.toUTF8⟩
  else
    let source := if takesLiterally text options then Regex.escape text else text
    match Regex.compile (modes options) source with
    | .ok program => .ok ⟨text, .regex program⟩
    | .error e => .error (.invalidPattern text (e.message source))

/-- Whether the pattern is searched for byte by byte. -/
def isLiteral (p : Pattern) : Bool :=
  match p.strategy with
  | .literal _ => true
  | .regex _ => false

/-- The greatest length of a match, if it is known. -/
def maxLength (p : Pattern) : Option Nat :=
  match p.strategy with
  | .literal needle => some needle.size
  | .regex _ => none

/-- Whether the bytes of `needle` from the place `j` on stand in `h` from the place `i` on; `n` of
them are left. -/
def occursAt (needle h : ByteArray) : Nat → Nat → Nat → Bool
  | 0, _, _ => true
  | n + 1, i, j => h[i]? == needle[j]? && occursAt needle h n (i + 1) (j + 1)

/-- The first of the `count` places from `i` on at which `needle` stands in `h`. -/
def firstOccurrence (needle h : ByteArray) : Nat → Nat → Option Nat
  | 0, _ => none
  | count + 1, i =>
    if occursAt needle h needle.size i 0 then some i else firstOccurrence needle h count (i + 1)

/-- The occurrence of `needle` in `h` that begins first at or after `start`. -/
def findLiteral (needle h : ByteArray) (start : Nat) : Option Span :=
  (firstOccurrence needle h (h.size + 1 - needle.size - start) start).map fun i =>
    ⟨i, i + needle.size⟩

/-- The match that begins first at or after `start`.  The bytes before `start` still count for
conditions on places. -/
def findAt (p : Pattern) (h : ByteArray) (start : Nat) : Option Span :=
  if h.size < start then none
  else
    match p.strategy with
    | .literal needle => findLiteral needle h start
    | .regex program => program.search h start

/-- The pattern as a way to search. -/
def finder (p : Pattern) : Finder := ⟨p.findAt, p.maxLength⟩

end Pattern

end FileSearch
