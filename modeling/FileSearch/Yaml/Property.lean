import FileSearch.Yaml.Cursor

/-!
# Tags, anchors and directives of YAML texts

What may stand in front of a node: a tag that names its kind, an anchor that names the node, and, in
front of a whole document, directives.  Faults are placed where the property begins.
-/

namespace FileSearch.Yaml

/-! ## Anchors -/

/-- Whether a character can stand behind the name of an anchor. -/
def endsAnchor (c : Char) : Bool :=
  isGap c || ['?', ':', ',', ']', '\x7d', '%', '@', '\x60'].contains c

/-- Reads the name of an anchor after its sign. -/
def scanAnchor (c : Cursor) : Except Fault (String × Cursor) :=
  let (name, c') := c.skip.takeWhile isNameChar
  if name.isEmpty || !endsAnchor c'.head then .error ⟨.anchorName, c.mark⟩
  else .ok (String.ofList name, c')

/-! ## Tags -/

/-- The name of a kind of nodes, in two parts. -/
structure Tag where
  handle : String
  suffix : String
  deriving DecidableEq, Repr

/-- Whether a character can stand in tags. -/
def isTagChar (c : Char) : Bool :=
  isNameChar c || [';', '/', '?', ':', '@', '&', '=', '+', '$', '.', ',', '!', '~', '*', '\'', '(',
    ')', '[', ']', '%'].contains c

/-- The number of octets of a character by its first octet. -/
def octetCount? (octet : Nat) : Option Nat :=
  if octet < 0x80 then some 1
  else if octet / 0x20 = 6 then some 2
  else if octet / 0x10 = 14 then some 3
  else if octet / 0x08 = 30 then some 4
  else none

/-- Reads an octet written with a percent sign. -/
def scanOctet (start : Mark) (c : Cursor) : Except Fault (Nat × Cursor) :=
  match c.head, hexValue? (c.peek 1), hexValue? (c.peek 2) with
  | '%', some a, some b => .ok (a * 16 + b, c.skips 3)
  | _, _, _ => .error ⟨.tagOctet, start⟩

/-- Reads the octets after the first one and appends them to a number. -/
def scanOctets (start : Mark) : Nat → Nat → Cursor → Except Fault (Nat × Cursor)
  | 0, code, c => .ok (code, c)
  | n + 1, code, c => do
    let (octet, c) ← scanOctet start c
    if octet / 0x40 ≠ 2 then throw ⟨.tagTrailingOctet, start⟩
    scanOctets start n (code * 256 + octet) c

/-- Reads a character of a tag that is written in octets. -/
def scanTagEscape (start : Mark) (c : Cursor) : Except Fault (Char × Cursor) := do
  let (octet, c) ← scanOctet start c
  match octetCount? octet with
  | none => throw ⟨.tagLeadingOctet, start⟩
  | some n =>
    let (code, c) ← scanOctets start (n - 1) octet c
    if code.isValidChar then return (Char.ofNat code, c) else throw ⟨.tagCode, start⟩

/-- Reads the characters of a tag; `fuel` bounds their number. -/
def scanTagChars (start : Mark) : Nat → List Char → Cursor → Except Fault (List Char × Cursor)
  | 0, read, c => .ok (read, c)
  | fuel + 1, read, c =>
    if c.head = '%' then do
      let (ch, c) ← scanTagEscape start c
      scanTagChars start fuel (ch :: read) c
    else if isTagChar c.head then scanTagChars start fuel (c.head :: read) c.skip
    else .ok (read, c)

/-- Reads the rest of a tag of which `head` has been read; an exclamation mark at its front does not
count as part of it. -/
def scanTagRest (start : Mark) (head : List Char) (c : Cursor) :
    Except Fault (String × Cursor) := do
  let (read, c') ← scanTagChars start (c.rest.length + 1) [] c
  if read.isEmpty && head.isEmpty then throw ⟨.tagUri, start⟩
  return (String.ofList (head.drop 1 ++ read.reverse), c')

/-- Reads a handle, which begins with an exclamation mark and may end with another one. -/
def scanHandle (directive : Bool) (start : Mark) (c : Cursor) :
    Except Fault (List Char × Cursor) :=
  if c.head ≠ '!' then .error ⟨.tagBang, start⟩
  else
    let (name, c) := c.skip.takeWhile isNameChar
    if c.head = '!' then .ok ('!' :: name ++ ['!'], c.skip)
    else if directive && !name.isEmpty then .error ⟨.tagDirectiveBang, start⟩
    else .ok ('!' :: name, c)

/-- Reads a tag without looking at what follows it. -/
def scanTagItself (start : Mark) (c : Cursor) : Except Fault (Tag × Cursor) := do
  if c.peek 1 = '<' then
    let (suffix, c) ← scanTagRest start [] (c.skips 2)
    if c.head ≠ '>' then throw ⟨.tagClose, start⟩
    return (⟨"", suffix⟩, c.skip)
  let (handle, c) ← scanHandle false start c
  if 2 ≤ handle.length ∧ handle.getLast? = some '!' then
    let (suffix, c) ← scanTagRest start [] c
    return (⟨String.ofList handle, suffix⟩, c)
  let (suffix, c) ← scanTagRest start handle c
  return (if suffix.isEmpty then ⟨"", "!"⟩ else ⟨"!", suffix⟩, c)

/-- Reads a tag. -/
def scanTag (c : Cursor) : Except Fault (Tag × Cursor) := do
  let (tag, c') ← scanTagItself c.mark c
  unless isGap c'.head do throw ⟨.tagEnd, c.mark⟩
  return (tag, c')

/-! ## Directives -/

/-- The greatest number of digits in one part of a version. -/
def longestVersion : Nat := 9

/-- Passes one part of a version. -/
def skipVersionPart (start : Mark) (c : Cursor) : Except Fault Cursor :=
  let (digits, c) := c.takeWhile Char.isDigit
  if longestVersion < digits.length then .error ⟨.versionLength, start⟩
  else if digits.isEmpty then .error ⟨.versionNumber, start⟩
  else .ok c

/-- Passes a version. -/
def skipVersion (start : Mark) (c : Cursor) : Except Fault Cursor := do
  let c ← skipVersionPart start c.skipBlanks
  if c.head ≠ '.' then throw ⟨.versionPoint, start⟩
  skipVersionPart start c.skip

/-- Passes the definition of a handle. -/
def skipTagDefinition (start : Mark) (c : Cursor) : Except Fault Cursor := do
  let (_, c) ← scanHandle true start c.skipBlanks
  let (_, c) ← scanTagRest start [] c.skipBlanks
  unless isGap c.head do throw ⟨.tagDirectiveEnd, start⟩
  return c

/-- Passes a directive with the end of its line. -/
def skipDirective (c : Cursor) : Except Fault Cursor := do
  let start := c.mark
  let c := c.skip
  let nameStart := c.mark
  let (name, c) := c.takeWhile isNameChar
  if name.isEmpty then throw ⟨.directiveName, nameStart⟩
  unless isGap c.head do throw ⟨.directiveNameEnd, nameStart⟩
  let c ←
    if String.ofList name = "YAML" then skipVersion start c
    else if String.ofList name = "TAG" then skipTagDefinition start c
    else pure (c.skipWhile fun ch => !isBreak ch)
  let c := c.skipBlanks.skipRemark
  unless isBreakOrEnd c.head do throw ⟨.directiveEnd, start⟩
  return c.skipBreak

end FileSearch.Yaml
