import FileSearch.Regex.Expr
import FileSearch.Unicode.Property

/-!
# Conditions on a place

`Look.holds` tells whether a place of a text meets a condition.  A condition on lines reads the
byte on either side of the place, one on words the byte or the character there.
-/

namespace FileSearch.Regex

/-- Whether a byte belongs to words in ASCII. -/
def isWordByte (b : UInt8) : Bool :=
  (0x30 ≤ b && b ≤ 0x39) || (0x41 ≤ b && b ≤ 0x5A) || b == 0x5F || (0x61 ≤ b && b ≤ 0x7A)

/-- The character that begins at `i` in the part of the text before `stop`. -/
def charFrom? (h : ByteArray) (i stop : Nat) : Option Nat :=
  match Utf8.frontAt h i stop with
  | some (.char c _) => some c
  | _ => none

/-- The place, at most `steps` bytes back from `i`, of the nearest byte that continues no character,
or the farthest place looked at. -/
def leadBefore (h : ByteArray) (i : Nat) : Nat → Nat
  | 0 => i
  | steps + 1 =>
    match h[i]? with
    | some b => if b &&& 0xC0 == 0x80 then leadBefore h (i - 1) steps else i
    | none => i

/-- The character before `i`, read from the nearest byte before `i` that can begin one, at most
four bytes back. -/
def charBefore? (h : ByteArray) (i : Nat) : Option Nat :=
  if i = 0 then none else charFrom? h (leadBefore h (i - 1) (min i 4 - 1)) i

/-- Whether a code point belongs to words. -/
def isWordCode (c : Nat) : Bool :=
  if c < 0x80 then isWordByte c.toUInt8 else Unicode.wordChars.contains c

/-- What a place has on one side: whether a word character stands there and whether any whole
character or the end of the text does. -/
structure Side where
  word : Bool
  whole : Bool

/-- What stands before a place. -/
def before (h : ByteArray) (i : Nat) (unicode : Bool) : Side :=
  if i = 0 then ⟨false, true⟩
  else if unicode then
    match charBefore? h i with
    | some c => ⟨isWordCode c, true⟩
    | none => ⟨false, false⟩
  else ⟨h[i - 1]?.any isWordByte, true⟩

/-- What stands after a place. -/
def after (h : ByteArray) (i : Nat) (unicode : Bool) : Side :=
  if h.size ≤ i then ⟨false, true⟩
  else if unicode then
    match charFrom? h i h.size with
    | some c => ⟨isWordCode c, true⟩
    | none => ⟨false, false⟩
  else ⟨h[i]?.any isWordByte, true⟩

/-- Whether the two sides of a place meet a condition on words.  A condition that can hold between
two characters of no word holds between whole characters only. -/
def WordLook.holds (l : WordLook) (a b : Side) : Bool :=
  match l with
  | .boundary => a.word != b.word
  | .inside => a.whole && b.whole && a.word == b.word
  | .start => !a.word && b.word
  | .stop => a.word && !b.word
  | .startHalf => a.whole && !a.word
  | .stopHalf => b.whole && !b.word

/-- Whether the byte before a place is the given one. -/
def byteBefore (h : ByteArray) (i : Nat) (b : UInt8) : Bool := 0 < i && h[i - 1]? == some b

/-- Whether a place meets a condition. -/
def Look.holds (l : Look) (h : ByteArray) (i : Nat) : Bool :=
  match l with
  | .textStart => i == 0
  | .textEnd => i == h.size
  | .lineStart => i == 0 || byteBefore h i 0x0A
  | .lineEnd => i == h.size || h[i]? == some 0x0A
  | .crlfStart =>
    i == 0 || byteBefore h i 0x0A || (byteBefore h i 0x0D && h[i]? != some 0x0A)
  | .crlfEnd =>
    i == h.size || h[i]? == some 0x0D || (h[i]? == some 0x0A && !byteBefore h i 0x0D)
  | .word kind unicode => kind.holds (before h i unicode) (after h i unicode)

end FileSearch.Regex
