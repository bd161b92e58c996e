import FileSearch.Text.Bytes

/-!
# UTF-8

`front` says what stands at the front of a byte sequence: a character, bytes that cannot begin one,
or a character cut off by the end.  `fronts` cuts a whole sequence into such pieces, and
`decodeLossy` reads them as text, one replacement character for each piece that is no character.
-/

namespace FileSearch.Utf8

/-- What stands at the front of a byte sequence. -/
inductive Front where
  /-- A character with its code and the number of its bytes. -/
  | char (code : Nat) (length : Nat)
  /-- Bytes that are no beginning of a character, whatever follows; as many of them as begin
  one without the byte after them, and at least one. -/
  | invalid (length : Nat)
  /-- The first bytes of a character, of which the sequence holds no more. -/
  | cut (length : Nat)
  deriving DecidableEq, Repr

/-- The number of bytes of a front. -/
def Front.length : Front → Nat
  | .char _ n | .invalid n | .cut n => n

/-- Whether a byte can stand after the first one of a character. -/
def isContinuation (b : Nat) : Bool := 0x80 ≤ b && b ≤ 0xBF

/-- The number of bytes of the characters that begin with a byte, `0` if there are none. -/
def width (b : Nat) : Nat :=
  if b < 0x80 then 1
  else if 0xC2 ≤ b ∧ b ≤ 0xDF then 2
  else if 0xE0 ≤ b ∧ b ≤ 0xEF then 3
  else if 0xF0 ≤ b ∧ b ≤ 0xF4 then 4
  else 0

/-- Whether `b` can stand second after `lead`: overlong forms, surrogates and numbers above the
greatest code point are excluded here. -/
def isSecond (lead b : Nat) : Bool :=
  if lead = 0xE0 then 0xA0 ≤ b && b ≤ 0xBF
  else if lead = 0xED then 0x80 ≤ b && b ≤ 0x9F
  else if lead = 0xF0 then 0x90 ≤ b && b ≤ 0xBF
  else if lead = 0xF4 then 0x80 ≤ b && b ≤ 0x8F
  else isContinuation b

/-- The front of a sequence from its first byte and the three after it, as far as there are any. -/
def front (b₀ : Nat) (b₁ b₂ b₃ : Option Nat) : Front :=
  let w := width b₀
  if w = 0 then .invalid 1
  else if w = 1 then .char b₀ 1
  else
    match b₁ with
    | none => .cut 1
    | some b₁ =>
      if !isSecond b₀ b₁ then .invalid 1
      else if w = 2 then .char ((b₀ - 0xC0) * 64 + (b₁ - 0x80)) 2
      else
        match b₂ with
        | none => .cut 2
        | some b₂ =>
          if !isContinuation b₂ then .invalid 2
          else if w = 3 then .char (((b₀ - 0xE0) * 64 + (b₁ - 0x80)) * 64 + (b₂ - 0x80)) 3
          else
            match b₃ with
            | none => .cut 3
            | some b₃ =>
              if !isContinuation b₃ then .invalid 3
              else
                .char ((((b₀ - 0xF0) * 64 + (b₁ - 0x80)) * 64 + (b₂ - 0x80)) * 64 + (b₃ - 0x80)) 4

/-- The front of a list of bytes that begins with `b`. -/
def frontOf (b : UInt8) (rest : List UInt8) : Front :=
  front b.toNat (rest[0]?.map UInt8.toNat) (rest[1]?.map UInt8.toNat) (rest[2]?.map UInt8.toNat)

/-- The front of the part of `h` that begins at `i` and ends before `stop`. -/
def frontAt (h : ByteArray) (i stop : Nat) : Option Front :=
  let byte (j : Nat) : Option Nat :=
    if j < stop then h[j]?.map UInt8.toNat else none
  match byte i with
  | none => none
  | some b => some (front b (byte (i + 1)) (byte (i + 2)) (byte (i + 3)))

/-- The pieces of a list of bytes, added to those in `acc`; `skip` bytes belong to the piece before. -/
def frontsFrom : Nat → List UInt8 → Array Front → Array Front
  | _, [], acc => acc
  | skip + 1, _ :: rest, acc => frontsFrom skip rest acc
  | 0, b :: rest, acc =>
    let f := frontOf b rest
    frontsFrom (f.length - 1) rest (acc.push f)

/-- The pieces of a list of bytes, from left to right. -/
def fronts (bs : List UInt8) : List Front := (frontsFrom 0 bs #[]).toList

/-- The character a piece is read as. -/
def Front.toChar : Front → Char
  | .char code _ => Char.ofNat code
  | _ => '\ufffd'

/-- Reads bytes as text, with a replacement character for each piece that is no character. -/
def decodeLossy (b : ByteArray) : String :=
  String.ofList ((fronts b.data.toList).map Front.toChar)

/-- Reads bytes as text if all of them belong to characters. -/
def decode? (b : ByteArray) : Option String :=
  let pieces := fronts b.data.toList
  if pieces.all fun f => match f with | .char _ _ => true | _ => false then
    some (String.ofList (pieces.map Front.toChar))
  else none

/-- The bytes of a code point. -/
def encodeCode (c : Nat) : List UInt8 :=
  if c < 0x80 then [c.toUInt8]
  else if c < 0x800 then [(0xC0 + c / 64).toUInt8, (0x80 + c % 64).toUInt8]
  else if c < 0x10000 then
    [(0xE0 + c / 4096).toUInt8, (0x80 + c / 64 % 64).toUInt8, (0x80 + c % 64).toUInt8]
  else
    [(0xF0 + c / 262144).toUInt8, (0x80 + c / 4096 % 64).toUInt8, (0x80 + c / 64 % 64).toUInt8,
      (0x80 + c % 64).toUInt8]

/-- The number of bytes of a code point. -/
def encodedLength (c : Nat) : Nat :=
  if c < 0x80 then 1 else if c < 0x800 then 2 else if c < 0x10000 then 3 else 4

/-- The bytes of a character. -/
def encode (c : Char) : List UInt8 := encodeCode c.toNat

/-- The bytes of a text. -/
def encodeAll (cs : List Char) : List UInt8 := cs.flatMap encode

end FileSearch.Utf8
