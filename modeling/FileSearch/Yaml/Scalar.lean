import FileSearch.Yaml.Cursor

/-!
# Scalars of YAML texts

Plain and quoted scalars may go over several lines: a single line break becomes a space, of several
all but the first are kept.  A block scalar keeps its line breaks, or folds them in the same way if it
is a folded one.
-/

namespace FileSearch.Yaml

/-- The ways to write a scalar. -/
inductive Style where
  | plain
  | singleQuoted
  | doubleQuoted
  | literal
  | folded
  deriving DecidableEq, Repr

/-! ## Folding -/

/-- A text with what stands between it and its next part: blanks, or line breaks with the first one
apart. -/
structure Folding where
  text : Array Char := #[]
  blanks : Array Char := #[]
  /-- Whether a line has ended. -/
  atLine : Bool := false
  /-- Whether the end of that line has been seen as a line break. -/
  firstBreak : Bool := false
  /-- The number of line breaks after it. -/
  moreBreaks : Nat := 0

namespace Folding

/-- The text with what stands behind it. -/
def join (f : Folding) : Folding :=
  if f.atLine then
    let breaks := Array.replicate f.moreBreaks '\n'
    { text := f.text ++ if f.firstBreak && f.moreBreaks == 0 then #[' '] else breaks }
  else { text := f.text ++ f.blanks }

/-- The text with a character after what stands behind it. -/
def push (f : Folding) (c : Char) : Folding :=
  let f := f.join
  { f with text := f.text.push c }

/-- Takes in a blank. -/
def addBlank (f : Folding) (c : Char) : Folding :=
  if f.atLine then f else { f with blanks := f.blanks.push c }

/-- Takes in a line break. -/
def addBreak (f : Folding) : Folding :=
  if f.atLine then { f with moreBreaks := f.moreBreaks + 1 }
  else { f with blanks := #[], atLine := true, firstBreak := true }

/-- The text as a string. -/
def string (f : Folding) : String := String.ofList f.text.toList

end Folding

/-- Passes blanks and line breaks.  `tabAllowed` tells where a tab may stand; `fuel` bounds the number
of steps. -/
def foldGap (tabAllowed : Folding → Cursor → Bool) :
    Nat → Folding → Cursor → Option (Folding × Cursor)
  | 0, f, c => some (f, c)
  | fuel + 1, f, c =>
    if isBlank c.head then
      if c.head = '\t' ∧ !tabAllowed f c then none
      else foldGap tabAllowed fuel (f.addBlank c.head) c.skip
    else if isBreak c.head then foldGap tabAllowed fuel f.addBreak c.skipBreak
    else some (f, c)

/-! ## Plain scalars -/

/-- Whether a plain scalar ends at the next character. -/
def endsPlain (inFlow : Bool) (c : Cursor) : Bool :=
  if c.head = ':' then isGap (c.peek 1) || (inFlow && isFlowSign (c.peek 1))
  else inFlow && isFlowSign c.head

/-- Takes in the characters of a plain scalar up to a gap; `fuel` bounds their number. -/
def plainWord (inFlow : Bool) : Nat → Folding → Cursor → Folding × Cursor
  | 0, f, c => (f, c)
  | fuel + 1, f, c =>
    if isGap c.head || endsPlain inFlow c then (f, c)
    else plainWord inFlow fuel (f.push c.head) c.skip

/-- Takes in the words of a plain scalar whose lines are indented by at least `indent`; `fuel` bounds
the number of words. -/
def plainWords (inFlow : Bool) (indent : Int) (start : Mark) :
    Nat → Folding → Cursor → Except Fault (Folding × Cursor)
  | 0, f, c => .ok (f, c)
  | fuel + 1, f, c =>
    if c.atDocumentEdge || c.head == '#' then .ok (f, c)
    else
      let (f, c) := plainWord inFlow c.rest.length f c
      if !(isBlank c.head || isBreak c.head) then .ok (f, c)
      else
        let tabAllowed (f : Folding) (c : Cursor) : Bool := !f.atLine || indent ≤ c.mark.column
        match foldGap tabAllowed c.rest.length f c with
        | none => .error ⟨.plainTab, start⟩
        | some (f, c) =>
          if !inFlow && (c.mark.column : Int) < indent then .ok (f, c)
          else plainWords inFlow indent start fuel f c

/-- Reads a plain scalar.  Also tells whether it ends with a line. -/
def scanPlain (inFlow : Bool) (indent : Int) (c : Cursor) :
    Except Fault (String × Bool × Cursor) := do
  let (f, c) ← plainWords inFlow indent c.mark (c.rest.length + 1) {} c
  return (f.string, f.atLine, c)

/-! ## Quoted scalars -/

/-- The characters that a letter stands for after a backslash. -/
def escapes : List (Char × Char) := [
  ('0', '\x00'), ('a', '\x07'), ('b', '\x08'), ('t', '\t'), ('\t', '\t'), ('n', '\n'),
  ('v', '\x0b'), ('f', '\x0c'), ('r', '\r'), ('e', '\x1b'), (' ', ' '), ('"', '"'),
  ('\'', '\''), ('\\', '\\'), ('N', '\u0085'), ('_', '\u00a0'), ('L', '\u2028'), ('P', '\u2029')]

/-- The number of hexadecimal digits after a backslash and a letter. -/
def codeLength : Char → Option Nat
  | 'x' => some 2
  | 'u' => some 4
  | 'U' => some 8
  | _ => none

/-- The number that the next `n` characters write in hexadecimal digits. -/
def hexCode (c : Cursor) : Nat → Nat → Option (Nat × Cursor)
  | 0, value => some (value, c)
  | n + 1, value =>
    match hexValue? c.head with
    | some d => hexCode c.skip n (value * 16 + d)
    | none => none

/-- Reads an escape after its backslash. -/
def scanEscape (start : Mark) (c : Cursor) : Except Fault (Char × Cursor) :=
  match escapes.find? (·.1 = c.head), codeLength c.head with
  | some (_, ch), _ => .ok (ch, c.skip)
  | none, some n =>
    match hexCode c.skip n 0 with
    | none => .error ⟨.quotedHex, start⟩
    | some (value, c) =>
      if value.isValidChar then .ok (Char.ofNat value, c) else .error ⟨.quotedCode, start⟩
  | none, none => .error ⟨.quotedEscape, start⟩

/-- Takes in the characters of a quoted scalar up to a gap or the closing quote; `fuel` bounds their
number. -/
def quotedWord (single : Bool) (start : Mark) :
    Nat → Folding → Cursor → Except Fault (Folding × Cursor)
  | 0, f, c => .ok (f, c)
  | fuel + 1, f, c =>
    let ch := c.head
    if isGap ch then .ok (f, c)
    else if single && ch == '\'' then
      if c.peek 1 = '\'' then
        quotedWord single start fuel { f with text := f.text.push ch } (c.skips 2)
      else .ok (f, c)
    else if !single && ch == '"' then .ok (f, c)
    else if !single && ch == '\\' then
      if isBreak (c.peek 1) then .ok ({ f with atLine := true }, c.skip.skipBreak)
      else do
        let (e, c) ← scanEscape start c.skip
        quotedWord single start fuel { f with text := f.text.push e } c
    else quotedWord single start fuel { f with text := f.text.push ch } c.skip

/-- Takes in the words of a quoted scalar; `fuel` bounds their number. -/
def quotedWords (single : Bool) (start : Mark) :
    Nat → Folding → Cursor → Except Fault (Folding × Cursor)
  | 0, f, c => .ok (f, c)
  | fuel + 1, f, c => do
    if c.atDocumentEdge then throw ⟨.quotedDocument, start⟩
    if isEnd c.head then throw ⟨.quotedEnd, start⟩
    let (f, c) ← quotedWord single start (c.rest.length + 1) f c
    if c.head = (if single then '\'' else '"') then return (f, c)
    match foldGap (fun _ _ => true) c.rest.length f c with
    | some (f, c) => quotedWords single start fuel f.join c
    | none => return (f, c)

/-- Reads a quoted scalar. -/
def scanQuoted (single : Bool) (c : Cursor) : Except Fault (String × Cursor) := do
  let (f, c') ← quotedWords single c.mark (c.rest.length + 1) {} c.skip
  return (f.string, c'.skip)

/-! ## Block scalars -/

/-- What is kept of the line breaks at the end of a block scalar. -/
inductive Chomping where
  | strip
  | clip
  | keep
  deriving DecidableEq, Repr

/-- The sign of a chomping. -/
def chomping? (c : Char) : Option Chomping :=
  if c = '+' then some .keep else if c = '-' then some .strip else none

/-- Reads an indentation indicator, `0` if there is none. -/
def scanIndicator (start : Mark) (c : Cursor) : Except Fault (Nat × Cursor) :=
  if c.head = '0' then .error ⟨.blockIndentZero, start⟩
  else if c.head.isDigit then .ok (c.head.toNat - 48, c.skip)
  else .ok (0, c)

/-- Reads the signs after the indicator of a block scalar, in either order. -/
def scanHeader (start : Mark) (c : Cursor) : Except Fault (Chomping × Nat × Cursor) := do
  match chomping? c.head with
  | some chomping =>
    let (increment, c) ← scanIndicator start c.skip
    return (chomping, increment, c)
  | none =>
    let (increment, c) ← scanIndicator start c
    match (if increment = 0 then none else chomping? c.head) with
    | some chomping => return (chomping, increment, c.skip)
    | none => return (.clip, increment, c)

/-- Passes empty lines and indentation up to `indent`, or any if it is zero.  Gives the number of line
breaks and the deepest indentation; `fuel` bounds the number of lines. -/
def blockGap (indent : Nat) : Nat → Nat → Nat → Cursor → Except Fault (Nat × Nat × Cursor)
  | 0, breaks, deepest, c => .ok (breaks, deepest, c)
  | fuel + 1, breaks, deepest, c =>
    let spaces := (c.rest.takeWhile (· == ' ')).length
    let c := c.skips (if indent = 0 then spaces else min spaces (indent - c.mark.column))
    let deepest := max deepest c.mark.column
    if (indent = 0 ∨ c.mark.column < indent) ∧ c.head = '\t' then .error ⟨.blockTab, c.mark⟩
    else if isBreak c.head then blockGap indent fuel (breaks + 1) deepest c.skipBreak
    else .ok (breaks, deepest, c)

/-- The lines of a block scalar that have been read, with the line breaks behind them. -/
structure BlockLines where
  text : Array Char := #[]
  /-- Whether a line has ended. -/
  lineBreak : Bool := false
  /-- The number of line breaks after it. -/
  moreBreaks : Nat := 0
  /-- Whether the latest line began with a blank. -/
  afterBlank : Bool := false

/-- The line breaks between a line and the next one, which begins with a blank or not. -/
def BlockLines.between (b : BlockLines) (literal startsBlank : Bool) : Array Char :=
  let first :=
    if !literal && b.lineBreak && !b.afterBlank && !startsBlank then
      if b.moreBreaks = 0 then #[' '] else #[]
    else if b.lineBreak then #['\n'] else #[]
  first ++ Array.replicate b.moreBreaks '\n'

/-- Reads the lines of a block scalar; `fuel` bounds their number. -/
def blockLines (literal : Bool) (indent : Nat) :
    Nat → BlockLines → Cursor → Except Fault (BlockLines × Cursor)
  | 0, b, c => .ok (b, c)
  | fuel + 1, b, c =>
    if c.mark.column ≠ indent ∨ isEnd c.head then .ok (b, c)
    else
      let startsBlank := isBlank c.head
      let (line, c) := c.takeWhile fun ch => !isBreak ch
      let text := b.text ++ b.between literal startsBlank ++ line.toArray
      if isEnd c.head then .ok ({ text, afterBlank := startsBlank }, c)
      else do
        let (breaks, _, c) ← blockGap indent (c.rest.length + 1) 0 0 c.skipBreak
        blockLines literal indent fuel
          { text, lineBreak := true, moreBreaks := breaks, afterBlank := startsBlank } c

/-- Reads a block scalar; what it stands in is indented by `outer`.  Also gives the place of its first
line. -/
def scanBlock (literal : Bool) (outer : Int) (c : Cursor) :
    Except Fault (String × Mark × Cursor) := do
  let start := c.mark
  let (chomping, increment, c) ← scanHeader start c.skip
  let c := c.skipBlanks.skipRemark
  unless isBreakOrEnd c.head do throw ⟨.blockHeaderEnd, start⟩
  let c := c.skipBreak
  let indent := if increment = 0 then 0 else if 0 ≤ outer then outer.toNat + increment else increment
  let (breaks, deepest, c) ← blockGap indent (c.rest.length + 1) 0 0 c
  let indent := if indent = 0 then max (max deepest (outer + 1).toNat) 1 else indent
  let (b, c') ← blockLines literal indent (c.rest.length + 1) { moreBreaks := breaks } c
  let last := if b.lineBreak && chomping != .strip then #['\n'] else #[]
  let tail := if chomping = .keep then Array.replicate b.moreBreaks '\n' else #[]
  return (String.ofList (b.text ++ last ++ tail).toList, c.mark, c')

end FileSearch.Yaml
