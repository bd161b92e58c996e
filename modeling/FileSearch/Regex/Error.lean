import FileSearch.Regex.Tree

/-!
# Why a pattern is refused

`Cause` lists the faults a pattern can have, `Fault` places one in the pattern, and `Fault.render`
writes the message: the pattern with its fault underlined, then the cause.
-/

namespace FileSearch.Regex

/-- The faults of patterns. -/
inductive Cause where
  | classEscapeInvalid
  | classRangeInvalid
  | classRangeLiteral
  | classUnclosed
  | decimalEmpty
  | decimalInvalid
  | escapeHexEmpty
  | escapeHexInvalid
  | escapeHexInvalidDigit
  | escapeUnexpectedEnd
  | escapeUnrecognized
  | flagDanglingNegation
  | flagDuplicate
  | flagRepeatedNegation
  | flagUnexpectedEnd
  | flagUnrecognized
  | groupNameDuplicate
  | groupNameEmpty
  | groupNameInvalid
  | groupNameUnexpectedEnd
  | groupUnclosed
  | groupUnopened
  | nestLimitExceeded (limit : Nat)
  | repetitionCountInvalid
  | repetitionCountEmpty
  | repetitionCountUnclosed
  | repetitionMissing
  | boundaryUnclosed
  | boundaryUnrecognized
  | boundaryOrRepetitionUnexpectedEnd
  | unicodeClassInvalid
  | backreference
  | lookAround
  | unicodeNotAllowed
  | propertyNotFound
  | propertyValueNotFound
  deriving DecidableEq, Repr

/-- The wording of a cause. -/
def Cause.message : Cause → String
  | .classEscapeInvalid => "invalid escape sequence found in character class"
  | .classRangeInvalid => "invalid character class range, the start must be <= the end"
  | .classRangeLiteral => "invalid range boundary, must be a literal"
  | .classUnclosed => "unclosed character class"
  | .decimalEmpty => "decimal literal empty"
  | .decimalInvalid => "decimal literal invalid"
  | .escapeHexEmpty => "hexadecimal literal empty"
  | .escapeHexInvalid => "hexadecimal literal is not a Unicode scalar value"
  | .escapeHexInvalidDigit => "invalid hexadecimal digit"
  | .escapeUnexpectedEnd => "incomplete escape sequence, reached end of pattern prematurely"
  | .escapeUnrecognized => "unrecognized escape sequence"
  | .flagDanglingNegation => "dangling flag negation operator"
  | .flagDuplicate => "duplicate flag"
  | .flagRepeatedNegation => "flag negation operator repeated"
  | .flagUnexpectedEnd => "expected flag but got end of regex"
  | .flagUnrecognized => "unrecognized flag"
  | .groupNameDuplicate => "duplicate capture group name"
  | .groupNameEmpty => "empty capture group name"
  | .groupNameInvalid => "invalid capture group character"
  | .groupNameUnexpectedEnd => "unclosed capture group name"
  | .groupUnclosed => "unclosed group"
  | .groupUnopened => "unopened group"
  | .nestLimitExceeded limit =>
    "exceed the maximum number of nested parentheses/brackets (" ++ toString limit ++ ")"
  | .repetitionCountInvalid =>
    "invalid repetition count range, the start must be <= the end"
  | .repetitionCountEmpty => "repetition quantifier expects a valid decimal"
  | .repetitionCountUnclosed => "unclosed counted repetition"
  | .repetitionMissing => "repetition operator missing expression"
  | .boundaryUnclosed =>
    "special word boundary assertion is either unclosed or contains an invalid character"
  | .boundaryUnrecognized =>
    "unrecognized special word boundary assertion, " ++
      "valid choices are: start, end, start-half or end-half"
  | .boundaryOrRepetitionUnexpectedEnd =>
    "found either the beginning of a special word boundary or a bounded repetition on a \\b " ++
      "with an opening brace, but no closing brace"
  | .unicodeClassInvalid => "invalid Unicode character class"
  | .backreference => "backreferences are not supported"
  | .lookAround => "look-around, including look-ahead and look-behind, is not supported"
  | .unicodeNotAllowed => "Unicode not allowed here"
  | .propertyNotFound => "Unicode property not found"
  | .propertyValueNotFound => "Unicode property value not found"

/-- A cause with the stretch of the pattern it concerns and, for what may stand only once, the
stretch of its first occurrence. -/
structure Fault where
  cause : Cause
  span : Stretch
  original : Option Stretch := none
  deriving DecidableEq, Repr

/-! ## Lines of a pattern -/

/-- A place in a pattern by line and column, both counted from zero. -/
structure Place where
  line : Nat
  column : Nat
  deriving DecidableEq, Repr

/-- The place of the character with the given number. -/
def placeOf (pattern : List Char) (i : Nat) : Place :=
  (pattern.take i).foldl (fun p c => if c = '\n' then ⟨p.line + 1, 0⟩ else ⟨p.line, p.column + 1⟩)
    ⟨0, 0⟩

/-- The lines of a pattern without their ends; a final line end starts no further line. -/
def linesOf (pattern : List Char) : List (List Char) := go pattern []
where
  /-- Collects the characters of the current line in reverse. -/
  go : List Char → List Char → List (List Char)
    | [], cur => if cur.isEmpty then [] else [cur.reverse]
    | c :: rest, cur =>
      if c = '\n' then
        (match cur with
          | '\r' :: cur' => cur'.reverse
          | _ => cur.reverse) :: go rest []
      else go rest (c :: cur)

/-- A stretch that lies in one line, as its first and last column. -/
structure Mark where
  start : Place
  stop : Place

/-- Whether one mark stands before another. -/
def Mark.le (a b : Mark) : Bool :=
  a.start.line < b.start.line || (a.start.line == b.start.line && (a.start.column < b.start.column
    || (a.start.column == b.start.column && a.stop.column ≤ b.stop.column)))

/-- The carets under a line for the marks in it: each mark has at least one. -/
def carets (marks : List Mark) (width : Nat) : String :=
  let line := marks.foldl (fun (text : String × Nat) m =>
    let gap := m.start.column - text.2
    let length := max 1 (m.stop.column - m.start.column)
    (text.1 ++ "".pushn ' ' gap ++ "".pushn '^' length, text.2 + gap + length)) ("", 0)
  "".pushn ' ' width ++ line.1

/-- The pattern with its marked stretches: a pattern of one line is indented, the lines of a longer
one are numbered. -/
def annotate (pattern : List Char) (marks : List Mark) : String :=
  let lines := linesOf pattern
  let count := lines.length + (if pattern.getLast? = some '\n' then 1 else 0)
  let digits := if count ≤ 1 then 0 else (toString count).length
  let row (i : Nat) (line : List Char) : String :=
    let number := toString (i + 1)
    let lead := if digits = 0 then "    " else "".pushn ' ' (digits - number.length) ++ number ++ ": "
    let here := marks.filter fun m => m.start.line = i ∧ m.stop.line = i
    let notes := if here.isEmpty then ""
      else carets here (if digits = 0 then 4 else digits + 2) ++ "\n"
    lead ++ String.ofList line ++ "\n" ++ notes
  String.join (lines.zipIdx.map fun (line, i) => row i line)

/-- The message for a faulty pattern. -/
def Fault.render (fault : Fault) (pattern : String) : String :=
  let cs := pattern.toList
  let marks := ((fault.span :: fault.original.toList).map fun s =>
    (⟨placeOf cs s.start, placeOf cs s.stop⟩ : Mark)).mergeSort Mark.le
  let body := annotate cs marks
  let cause := "error: " ++ fault.cause.message
  if cs.contains '\n' then
    let divider := "".pushn '~' 79 ++ "\n"
    let long := marks.filter fun m => m.start.line ≠ m.stop.line
    let notes := long.map fun m =>
      "on line " ++ toString (m.start.line + 1) ++ " (column " ++ toString (m.start.column + 1) ++
        ") through line " ++ toString (m.stop.line + 1) ++ " (column " ++
        toString m.stop.column ++ ")"
    "regex parse error:\n" ++ divider ++ body ++ divider ++
      (if long.isEmpty then "" else "\n".intercalate notes ++ "\n") ++ cause
  else "regex parse error:\n" ++ body ++ cause

end FileSearch.Regex
