import FileSearch.Text.Trim

/-!
# Flags of results

`Flags` is a set of flags with fixed bits.  `Flags.text` writes a set as the names of its members,
with the bits that have no name as one hexadecimal number; `Flags.read` reads such a text.
-/

namespace FileSearch

/-- A set of flags; bits without a name are kept. -/
structure Flags where
  bits : UInt32
  deriving DecidableEq, Repr, Inhabited

namespace Flags

/-- No flag. -/
def empty : Flags := ⟨0⟩

/-- The file holds text. -/
def textFile : Flags := ⟨1⟩

/-- The file is binary. -/
def binaryFile : Flags := ⟨2⟩

/-- The file has more matches than are reported. -/
def truncated : Flags := ⟨4⟩

/-- The time for the search was over before its end. -/
def timedOut : Flags := ⟨8⟩

/-- The flags with their names. -/
def named : List (String × Flags) :=
  [("TEXT", textFile), ("BINARY", binaryFile), ("TRUNCATED", truncated), ("TIMED_OUT", timedOut)]

/-- The flags of either set. -/
def union (a b : Flags) : Flags := ⟨a.bits ||| b.bits⟩

/-- Whether all flags of `b` are in `a`. -/
def contains (a b : Flags) : Bool := a.bits &&& b.bits == b.bits

/-- Whether there is no flag. -/
def isEmpty (a : Flags) : Bool := a.bits == 0

/-- All flags that have a name. -/
def known : Flags := named.foldl (fun acc f => acc.union f.2) empty

/-- The members of a set that have a name. -/
def onlyKnown (a : Flags) : Flags := ⟨a.bits &&& known.bits⟩

/-- The bits of a set that have no name. -/
def unknown (a : Flags) : Flags := ⟨a.bits &&& ~~~known.bits⟩

/-- The set with the given bits, if all of them have a name. -/
def ofBits? (bits : UInt32) : Option Flags :=
  if (unknown ⟨bits⟩).isEmpty then some ⟨bits⟩ else none

/-- The names of the members, and the other bits as a number. -/
def parts (a : Flags) : List String :=
  (named.filter fun f => a.contains f.2).map (·.1) ++
    if a.unknown.isEmpty then []
    else ["0x" ++ String.ofList (Nat.toDigits 16 a.unknown.bits.toNat)]

/-- The text of a set. -/
def text (a : Flags) : String := " | ".intercalate a.parts

/-! ## Reading -/

/-- Why a text is no set of flags. -/
inductive ReadError where
  | unknownName
  | emptyName
  | invalidNumber
  deriving DecidableEq, Repr

/-- The wording of a read error. -/
def ReadError.message : ReadError → String
  | .unknownName => "unrecognized named flag"
  | .emptyName => "encountered empty flag"
  | .invalidNumber => "invalid hex flag"

/-- The value of a hexadecimal digit. -/
def hexDigit? (c : Char) : Option Nat :=
  let n := c.toNat
  if 48 ≤ n ∧ n ≤ 57 then some (n - 48)
  else if 65 ≤ n ∧ n ≤ 70 then some (n - 55)
  else if 97 ≤ n ∧ n ≤ 102 then some (n - 87)
  else none

/-- The number of hexadecimal digits, if it has at most 32 bits. -/
def hexFrom (n : Nat) : List Char → Option Nat
  | [] => some n
  | c :: rest =>
    match hexDigit? c with
    | none => none
    | some d => if n * 16 + d < UInt32.size then hexFrom (n * 16 + d) rest else none

/-- Reads a hexadecimal number with at least one digit and perhaps a plus sign. -/
def hexNumber? (digits : List Char) : Option Nat :=
  let digits := if digits.head? = some '+' then digits.tail else digits
  if digits.isEmpty then none else hexFrom 0 digits

/-- Reads one flag. -/
def readPart (part : List Char) : Except ReadError Flags :=
  match part with
  | [] => .error .emptyName
  | '0' :: 'x' :: digits =>
    match hexNumber? digits with
    | some n => .ok ⟨n.toUInt32⟩
    | none => .error .invalidNumber
  | _ =>
    match named.find? (·.1 = String.ofList part) with
    | some f => .ok f.2
    | none => .error .unknownName

/-- Reads flags with bars between them. -/
def read (s : String) : Except ReadError Flags :=
  let cs := s.toList
  if (Text.trim cs).isEmpty then .ok empty
  else (cs.splitOn '|').foldlM (fun acc part => (readPart (Text.trim part)).map acc.union) empty

end Flags

end FileSearch
