import FileSearch.Regex.Read.Cursor

/-!
# Escapes

`readEscape` reads what a backslash starts: a literal, an assertion or a class.
-/

namespace FileSearch.Regex

/-- An item that one character or one escape can spell. -/
inductive Primitive where
  | literal (lit : Literal)
  | assertion (span : Stretch) (kind : Assertion)
  | dot (span : Stretch)
  | shorthand (span : Stretch) (negated : Bool) (kind : Shorthand)
  | property (span : Stretch) (negated : Bool) (query : PropertyQuery)

/-- A primitive as a tree. -/
def Primitive.toTree : Primitive → Tree
  | .literal l => .literal l
  | .assertion s k => .assertion s k
  | .dot s => .dot s
  | .shorthand s n k => .shorthand s n k
  | .property s n q => .property s n q

/-- Where a primitive was written. -/
def Primitive.span (p : Primitive) : Stretch := p.toTree.span

/-- Characters with a meaning of their own in patterns. -/
def metaChars : List Char :=
  ['\\', '.', '+', '*', '?', '(', ')', '|', '[', ']', '\x7b', '\x7d', '^', '$', '#', '&', '-', '~']

/-- Whether a backslash before the character makes it a literal: ASCII, and neither a letter nor a
digit nor an angle bracket. -/
def isEscapable (c : Char) : Bool :=
  metaChars.contains c || (c.toNat < 0x80 && !c.isAlphanum && c != '<' && c != '>')

/-- Whether a character is a hexadecimal digit. -/
def isHexDigit (c : Char) : Bool :=
  c.isDigit || ('a' ≤ c && c ≤ 'f') || ('A' ≤ c && c ≤ 'F')

/-- The value of hexadecimal digits. -/
def hexNumber (cs : List Char) : Nat :=
  cs.foldl (fun n c => n * 16 + Unicode.IntervalSet.hexValue c) 0

/-- The character with a number, unless the number is none of a Unicode scalar value. -/
def scalar? (n : Nat) : Option Char :=
  if n < 0xD800 ∨ (0xDFFF < n ∧ n ≤ 0x10FFFF) then some (Char.ofNat n) else none

namespace Reader

/-- Reads the given number of hexadecimal digits, the first of which comes next. -/
def hexDigits : Nat → List Char → Reader (List Char)
  | 0, digits => return digits
  | n + 1, digits => do
    unless digits.isEmpty do
      next
      if ← atEnd then fail (← point) .escapeUnexpectedEnd
    match ← peek with
    | some c =>
      unless isHexDigit c do fail (← here) .escapeHexInvalidDigit
      hexDigits n (digits ++ [c])
    | none => fail (← point) .escapeUnexpectedEnd

/-- Reads a hexadecimal literal of a fixed number of digits. -/
def hexFixed (count : Nat) : Reader Literal := do
  let start ← pos
  let digits ← hexDigits count []
  next
  let span ← since start
  match scalar? (hexNumber digits) with
  | some char => return { char, byteEscape := count = 2, span }
  | none => fail span .escapeHexInvalid

/-- Reads up to the closing brace, passing the current character first; `limit` bounds the number
of characters. -/
def untilBrace (accept : Char → Reader Unit) : Nat → List Char → Reader (List Char)
  | 0, read => return read
  | limit + 1, read => do
    next
    match ← peek with
    | none => return read
    | some c =>
      if c = '\x7d' then return read
      accept c
      untilBrace accept limit (read ++ [c])

/-- Reads what stands in braces; the opening brace comes next and the closing one is left. -/
def braced (accept : Char → Reader Unit) : Reader (List Char) := do
  untilBrace accept ((← get).rest.length + 1) []

/-- Reads a hexadecimal literal in braces. -/
def hexBraced : Reader Literal := do
  let brace ← pos
  let digits ← braced fun c => do
    unless isHexDigit c do fail (← here) .escapeHexInvalidDigit
  if ← atEnd then fail (← since brace) .escapeUnexpectedEnd
  let stop ← pos
  next
  if digits.isEmpty then fail (← since brace) .escapeHexEmpty
  match scalar? (hexNumber digits) with
  | some char => return { char, byteEscape := false, span := ⟨brace + 1, stop⟩ }
  | none => fail ⟨brace + 1, stop⟩ .escapeHexInvalid

/-- Reads a hexadecimal literal; the letter that announces it comes next. -/
def hex (letter : Char) : Reader Literal := do
  next
  match ← peek with
  | none => fail (← point) .escapeUnexpectedEnd
  | some '\x7b' => hexBraced
  | some _ => hexFixed (if letter = 'x' then 2 else if letter = 'u' then 4 else 8)

/-- Splits the text of a Unicode class at its operator: `!=` goes before `:`, and that before
`=`. -/
def propertyQuery (text : List Char) : PropertyQuery :=
  let cut (sep : List Char) : Option PropertyQuery :=
    (List.range (text.length + 1)).findSome? fun i =>
      if sep.isPrefixOf (text.drop i) then
        some (.value (String.ofList (text.take i)) (String.ofList (text.drop (i + sep.length))))
      else none
  ((cut ['!', '=']).or (cut [':'])).or (cut ['=']) |>.getD (.name (String.ofList text))

/-- Reads a Unicode class; the letter that announces it comes next. -/
def property : Reader PropertyQuery := do
  next
  match ← peek with
  | none => fail (← point) .escapeUnexpectedEnd
  | some '\x7b' =>
    let text ← braced fun _ => return
    if ← atEnd then fail (← point) .escapeUnexpectedEnd
    bump
    return propertyQuery text
  | some c =>
    if c = '\\' then fail (← here) .unicodeClassInvalid
    next
    return .name (String.ofList [c])

/-- Reads the letters and hyphens that name a boundary. -/
def boundaryName : Nat → List Char → Reader (List Char)
  | 0, name => return name
  | limit + 1, name => do
    match ← peek with
    | some c =>
      if c.isAlpha || c = '-' then
        next
        boundaryName limit (name ++ [c])
      else return name
    | none => return name

/-- Reads the name in braces that can follow a word boundary written at `start`.  If what follows
the brace cannot be such a name, it is left for a counted repetition. -/
def boundaryKind (start : Nat) : Reader (Option Assertion) := do
  let before ← get
  next
  match ← peek with
  | none => fail (← since start) .boundaryOrRepetitionUnexpectedEnd
  | some c =>
    unless c.isAlpha || c = '-' do
      set before
      return none
    let nameStart ← pos
    let name ← boundaryName ((← get).rest.length) []
    if (← peek) != some '\x7d' then fail (← since before.pos) .boundaryUnclosed
    let nameStop ← pos
    bump
    match String.ofList name with
    | "start" => return some .wordStart
    | "end" => return some .wordEnd
    | "start-half" => return some .wordStartHalf
    | "end-half" => return some .wordEndHalf
    | _ => fail ⟨nameStart, nameStop⟩ .boundaryUnrecognized

/-- The control character with a one-letter escape. -/
def control? : Char → Option Char
  | 'a' => some '\x07'
  | 'f' => some '\x0c'
  | 't' => some '\t'
  | 'n' => some '\n'
  | 'r' => some '\r'
  | 'v' => some '\x0b'
  | _ => none

/-- The assertion with a one-letter escape. -/
def assertion? : Char → Option Assertion
  | 'A' => some .textStart
  | 'z' => some .textEnd
  | 'b' => some .wordBoundary
  | 'B' => some .notWordBoundary
  | '<' => some .wordStart
  | '>' => some .wordEnd
  | _ => none

/-- The class with a one-letter escape; a capital stands for the complement. -/
def shorthand? : Char → Option (Shorthand × Bool)
  | 'd' => some (.digit, false)
  | 'D' => some (.digit, true)
  | 's' => some (.space, false)
  | 'S' => some (.space, true)
  | 'w' => some (.word, false)
  | 'W' => some (.word, true)
  | _ => none

/-- Reads an escape; the backslash comes next. -/
def escape : Reader Primitive := do
  let start ← pos
  bump
  match ← peek with
  | none => fail (← since start) .escapeUnexpectedEnd
  | some c =>
    if c.isDigit then fail ⟨start, (← here).stop⟩ .backreference
    if c = 'x' || c = 'u' || c = 'U' then
      let lit ← hex c
      return .literal { lit with span := ⟨start, lit.span.stop⟩ }
    if c = 'p' || c = 'P' then
      let query ← property
      return .property (← since start) (c = 'P') query
    if let some (kind, negated) := shorthand? c then
      bump
      return .shorthand (← since start) negated kind
    bump
    let span ← since start
    if isEscapable c then return .literal { char := c, byteEscape := false, span }
    if let some char := control? c then return .literal { char, byteEscape := false, span }
    match assertion? c with
    | none => fail span .escapeUnrecognized
    | some .wordBoundary =>
      if (← peek) = some '\x7b' then
        match ← boundaryKind start with
        | some kind => return .assertion (← since start) kind
        | none => return .assertion span .wordBoundary
      else return .assertion span .wordBoundary
    | some kind => return .assertion span kind

end Reader

end FileSearch.Regex
