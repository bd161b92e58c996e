import FileSearch.Json.Value
import FileSearch.Text.Utf8

/-!
# Reading JSON

`Json.read` reads one value with nothing but white space around it.  A fault is placed by its line
and by the number of bytes of that line up to it.
-/

namespace FileSearch.Json

/-- The faults of JSON texts. -/
inductive Cause where
  | eofInList
  | eofInObject
  | eofInString
  | eofInValue
  | expectedColon
  | expectedListEnd
  | expectedObjectEnd
  | expectedIdent
  | expectedValue
  | invalidEscape
  | invalidNumber
  | numberOutOfRange
  | controlCharacter
  | keyNotString
  | loneSurrogate
  | trailingComma
  | trailingCharacters
  | hexEscapeEnd
  | recursionLimit
  deriving DecidableEq, Repr

/-- The wording of a cause. -/
def Cause.message : Cause → String
  | .eofInList => "EOF while parsing a list"
  | .eofInObject => "EOF while parsing an object"
  | .eofInString => "EOF while parsing a string"
  | .eofInValue => "EOF while parsing a value"
  | .expectedColon => "expected `:`"
  | .expectedListEnd => "expected `,` or `]`"
  | .expectedObjectEnd => "expected `,` or `\x7d`"
  | .expectedIdent => "expected ident"
  | .expectedValue => "expected value"
  | .invalidEscape => "invalid escape"
  | .invalidNumber => "invalid number"
  | .numberOutOfRange => "number out of range"
  | .controlCharacter => "control character (\\u0000-\\u001F) found while parsing a string"
  | .keyNotString => "key must be a string"
  | .loneSurrogate => "lone leading surrogate in hex escape"
  | .trailingComma => "trailing comma"
  | .trailingCharacters => "trailing characters"
  | .hexEscapeEnd => "unexpected end of hex escape"
  | .recursionLimit => "recursion limit exceeded"

/-- A cause with the number of bytes before it. -/
structure Fault where
  cause : Cause
  offset : Nat
  deriving DecidableEq, Repr

/-- The message for a faulty text. -/
def Fault.message (f : Fault) (text : List UInt8) : String :=
  let before := text.take f.offset
  let line := 1 + before.count 0x0A
  let column := (before.reverse.takeWhile (· != 0x0A)).length
  f.cause.message ++ " at line " ++ toString line ++ " column " ++ toString column

/-- How far a text has been read. -/
structure Cursor where
  rest : List UInt8
  offset : Nat

/-- What moves a cursor or fails. -/
abbrev Reader := StateT Cursor (Except Fault)

namespace Reader

/-- The next byte. -/
def peek : Reader (Option UInt8) := return (← get).rest.head?

/-- Passes a byte. -/
def eat : Reader Unit := modify fun c =>
  match c.rest with
  | [] => c
  | _ :: rest => ⟨rest, c.offset + 1⟩

/-- The next byte, which is passed. -/
def next : Reader (Option UInt8) := do
  let b ← peek
  eat
  return b

/-- Fails at the place reached. -/
def fail {α : Type} (cause : Cause) : Reader α := do
  throw ⟨cause, (← get).offset⟩

/-- Fails at the next byte. -/
def failNext {α : Type} (cause : Cause) : Reader α := do
  let c ← get
  throw ⟨cause, if c.rest.isEmpty then c.offset else c.offset + 1⟩

/-- Passes white space and gives the byte after it. -/
def blank : Reader (Option UInt8) := do
  let c ← get
  let isBlank (b : UInt8) : Bool := b == 0x20 || b == 0x0A || b == 0x09 || b == 0x0D
  let spaces := c.rest.takeWhile isBlank
  set (⟨c.rest.drop spaces.length, c.offset + spaces.length⟩ : Cursor)
  peek

/-- Passes the given bytes. -/
def ident : List UInt8 → Reader Unit
  | [] => return
  | b :: rest => do
    match ← next with
    | none => fail .eofInValue
    | some c =>
      if c == b then ident rest else fail .expectedIdent

/-! ## Numbers -/

/-- Whether a byte is a decimal digit. -/
def isDigit (b : UInt8) : Bool := 0x30 ≤ b && b ≤ 0x39

/-- Passes the digits that come next. -/
def takeDigits : Reader (List Nat) := do
  let c ← get
  let ds := c.rest.takeWhile isDigit
  set (⟨c.rest.drop ds.length, c.offset + ds.length⟩ : Cursor)
  return ds.map fun b => b.toNat - 48

/-- Appends digits to a number as long as it stays within 64 bits; also gives how many there was no
room for. -/
def gather : Nat → List Nat → Nat × Nat
  | n, [] => (n, 0)
  | n, d :: ds => if n * 10 + d < UInt64.size then gather (n * 10 + d) ds else (n, ds.length + 1)

/-- Multiplies by a power of ten in one step or, for great negative powers, in several. -/
def scaled : Nat → Binary64 → Int → Reader Binary64
  | 0, x, _ => return x
  | fuel + 1, x, e => do
    if e.natAbs ≤ 308 then
      if 0 ≤ e then
        let y := x.mul (.pow10 e.natAbs)
        if y.isInfinite then fail .numberOutOfRange else return y
      else return x.div (.pow10 e.natAbs)
    else if x.isZero then return x
    else if 0 ≤ e then fail .numberOutOfRange
    else scaled fuel (x.div (.pow10 308)) (e + 308)

/-- The number with the given digits and exponent. -/
def float (neg : Bool) (digits : Nat) (exponent : Int) : Reader Number := do
  let x ← scaled (exponent.natAbs / 308 + 2) (.ofNat digits) exponent
  return .float (if neg then x.negate else x)

/-- Reads an exponent, whose letter comes next. -/
def exponent (neg : Bool) (digits : Nat) (start : Int) : Reader Number := do
  eat
  let down ← match ← peek with
    | some 0x2B => do eat; pure false
    | some 0x2D => do eat; pure true
    | _ => pure false
  match ← peek with
  | none => fail .eofInValue
  | some b =>
    unless isDigit b do
      eat
      fail .invalidNumber
    let e : Nat := (← takeDigits).foldl (fun n d => n * 10 + d) 0
    if 2147483648 ≤ e then
      if digits ≠ 0 ∧ !down then fail .numberOutOfRange
      return .float (.zero neg)
    float neg digits (if down then start - (e : Int) else start + (e : Int))

/-- Reads what may follow the point, which comes next. -/
def fraction (neg : Bool) (digits : Nat) (start : Int) : Reader Number := do
  eat
  let ds ← takeDigits
  if ds.isEmpty then
    if (← peek).isSome then failNext .invalidNumber else failNext .eofInValue
  let (n, extra) := gather digits ds
  let e := start - (ds.length - extra : Nat)
  match ← peek with
  | some 0x65 | some 0x45 => exponent neg n e
  | _ => float neg n e

/-- Reads a number without its sign. -/
def number (neg : Bool) : Reader Number := do
  match ← next with
  | none => fail .eofInValue
  | some b =>
    unless isDigit b do fail .invalidNumber
    let ds ← if b == 0x30 then do
        if (← peek).any isDigit then failNext .invalidNumber
        pure []
      else takeDigits
    let (n, extra) := gather (b.toNat - 48) ds
    match ← peek with
    | some 0x2E => fraction neg n extra
    | some 0x65 | some 0x45 => exponent neg n extra
    | _ =>
      if extra ≠ 0 then float neg n extra
      else if !neg then return .nat n
      else if n = 0 ∨ !fitsSigned (-(n : Int)) then return .float (Binary64.ofNat n).negate
      else return .neg n

/-! ## Strings -/

/-- The value of a hexadecimal digit. -/
def hexValue? (b : UInt8) : Option Nat :=
  let n := b.toNat
  if 48 ≤ n ∧ n ≤ 57 then some (n - 48)
  else if 65 ≤ n ∧ n ≤ 70 then some (n - 55)
  else if 97 ≤ n ∧ n ≤ 102 then some (n - 87)
  else none

/-- Reads four hexadecimal digits. -/
def hex4 : Reader Nat := do
  let c ← get
  match c.rest with
  | b₁ :: b₂ :: b₃ :: b₄ :: rest =>
    set (⟨rest, c.offset + 4⟩ : Cursor)
    match hexValue? b₁, hexValue? b₂, hexValue? b₃, hexValue? b₄ with
    | some d₁, some d₂, some d₃, some d₄ => return ((d₁ * 16 + d₂) * 16 + d₃) * 16 + d₄
    | _, _, _, _ => fail .invalidEscape
  | rest =>
    set (⟨[], c.offset + rest.length⟩ : Cursor)
    fail .eofInString

/-- Passes a byte that the second half of a surrogate pair must begin with. -/
def pairByte (b : UInt8) : Reader Unit := do
  match ← next with
  | none => fail .eofInString
  | some c => if c != b then fail .hexEscapeEnd

/-- Reads the digits of a Unicode escape, and the second half of a surrogate pair. -/
def unicodeEscape : Reader Nat := do
  let n ← hex4
  if 0xDC00 ≤ n ∧ n ≤ 0xDFFF then fail .loneSurrogate
  if n < 0xD800 ∨ 0xDBFF < n then return n
  pairByte 0x5C
  pairByte 0x75
  let low ← hex4
  if low < 0xDC00 ∨ 0xDFFF < low then fail .loneSurrogate
  return (n - 0xD800) * 1024 + (low - 0xDC00) + 0x10000

/-- Reads the rest of an escape. -/
def escape : Reader (List UInt8) := do
  match ← next with
  | none => fail .eofInString
  | some b =>
    match Char.ofNat b.toNat with
    | '"' => return [0x22]
    | '\\' => return [0x5C]
    | '/' => return [0x2F]
    | 'b' => return [0x08]
    | 'f' => return [0x0C]
    | 'n' => return [0x0A]
    | 'r' => return [0x0D]
    | 't' => return [0x09]
    | 'u' => return Utf8.encodeCode (← unicodeEscape)
    | _ => fail .invalidEscape

/-- Reads a string after its opening quote; `limit` bounds the number of characters. -/
def stringFrom : Nat → ByteArray → Reader ByteArray
  | 0, read => return read
  | limit + 1, read => do
    match ← next with
    | none => fail .eofInString
    | some b =>
      if b == 0x22 then return read
      else if b == 0x5C then
        let bs ← escape
        stringFrom limit (bs.foldl ByteArray.push read)
      else if b < 0x20 then fail .controlCharacter
      else stringFrom limit (read.push b)

/-- Reads a string after its opening quote. -/
def string : Reader String := do
  let bytes ← stringFrom ((← get).rest.length + 1) .empty
  return Utf8.decodeLossy bytes

/-! ## Values -/

/-- Whether an array has another item. -/
def moreItems (first : Bool) : Reader Bool := do
  match ← blank with
  | none => failNext .eofInList
  | some b =>
    if b == 0x5D then return false
    else if first then return true
    else if b == 0x2C then
      eat
      match ← blank with
      | some 0x5D => failNext .trailingComma
      | some _ => return true
      | none => failNext .eofInValue
    else failNext .expectedListEnd

/-- Whether an object has another member. -/
def moreMembers (first : Bool) : Reader Bool := do
  match ← blank with
  | none => failNext .eofInObject
  | some b =>
    if b == 0x7D then return false
    else if first then
      if b == 0x22 then return true else failNext .keyNotString
    else if b == 0x2C then
      eat
      match ← blank with
      | some 0x22 => return true
      | some 0x7D => failNext .trailingComma
      | some _ => failNext .keyNotString
      | none => failNext .eofInValue
    else failNext .expectedObjectEnd

/-- Passes the colon after a key. -/
def colon : Reader Unit := do
  match ← blank with
  | some 0x3A => eat
  | some _ => failNext .expectedColon
  | none => failNext .eofInObject

/-- How deep arrays and objects may be nested, and one more. -/
def depthLimit : Nat := 128

/-- Reads the items of an array with a reader of values; `limit` bounds their number. -/
def itemsWith (value : Reader Json) : Nat → List Json → Reader (List Json)
  | 0, read => return read
  | limit + 1, read => do
    if ← moreItems read.isEmpty then itemsWith value limit ((← value) :: read)
    else return read

/-- Reads the members of an object with a reader of values; `limit` bounds their number. -/
def membersWith (value : Reader Json) : Nat → List (String × Json) →
    Reader (List (String × Json))
  | 0, read => return read
  | limit + 1, read => do
    if ← moreMembers read.isEmpty then
      eat
      let key ← string
      colon
      membersWith value limit ((key, ← value) :: read)
    else return read

/-- Reads a value whose arrays and objects are nested less than `depth` deep. -/
def value : Nat → Reader Json
  | 0 => failNext .recursionLimit
  | depth + 1 => do
    match ← blank with
    | none => failNext .eofInValue
    | some b =>
      match Char.ofNat b.toNat with
      | 'n' => eat; ident [0x75, 0x6C, 0x6C]; return .null
      | 't' => eat; ident [0x72, 0x75, 0x65]; return .bool true
      | 'f' => eat; ident [0x61, 0x6C, 0x73, 0x65]; return .bool false
      | '-' => eat; return .num (← number true)
      | '"' => eat; return .str (← string)
      | '[' =>
        if depth = 0 then failNext .recursionLimit
        eat
        let items ← itemsWith (value depth) ((← get).rest.length + 1) []
        eat
        return .arr items.reverse
      | '\x7b' =>
        if depth = 0 then failNext .recursionLimit
        eat
        let members ← membersWith (value depth) ((← get).rest.length + 1) []
        eat
        return .obj members.reverse
      | _ => if isDigit b then return .num (← number false) else failNext .expectedValue

/-- Reads a value and then white space to the end. -/
def whole : Reader Json := do
  let v ← value depthLimit
  if (← blank).isSome then failNext .trailingCharacters
  return v

end Reader

/-- Reads a JSON text. -/
def read (text : List UInt8) : Except Fault Json :=
  (Reader.whole.run ⟨text, 0⟩).map (·.1)

end FileSearch.Json
