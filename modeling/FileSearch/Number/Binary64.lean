import FileSearch.Number.Word

/-!
# Binary floating-point numbers of 64 bits

A `Binary64` is a sign with a multiple of a power of two, an infinity or no number.  `ofRatio`
rounds a quotient of natural numbers to the nearest such number, a tie to the one with the even
multiple; multiplication and division round the exact result in the same way.  `shortest` gives the
fewest decimal digits that read back as the same number.
-/

namespace FileSearch

/-- A floating-point number: `finite neg m e` stands for `m · 2^e`, negated if `neg`. -/
inductive Binary64 where
  | finite (neg : Bool) (m : Nat) (e : Int)
  | infinite (neg : Bool)
  | nan
  deriving DecidableEq, Repr, Inhabited

namespace Binary64

/-- Zero. -/
def zero (neg : Bool) : Binary64 := .finite neg 0 (-1074)

/-- The number of binary digits. -/
def bitLength (n : Nat) : Nat := if n = 0 then 0 else n.log2 + 1

/-- The quotient `num · 2^(-e) / den`, rounded to the nearest integer, a tie to the even one. -/
def roundScaled (num den : Nat) (e : Int) : Nat :=
  let num' := if e < 0 then num * twoTo e.natAbs else num
  let den' := if e < 0 then den else den * twoTo e.natAbs
  let q := num' / den'
  let r := num' % den'
  if 2 * r < den' then q
  else if den' < 2 * r then q + 1
  else q + q % 2

/-- The number nearest to `num / den`; `den` is not zero. -/
def ofRatio (neg : Bool) (num den : Nat) : Binary64 :=
  if num = 0 then zero neg
  else
    let guess : Int := (bitLength num : Int) - bitLength den - 53
    let small := if guess < 0 then num * twoTo guess.natAbs < den * twoTo 52
      else num < den * twoTo (52 + guess.natAbs)
    let large := if guess < 0 then den * twoTo 53 ≤ num * twoTo guess.natAbs
      else den * twoTo (53 + guess.natAbs) ≤ num
    let e := if small then guess - 1 else if large then guess + 1 else guess
    let e := if e < -1074 then -1074 else e
    let m := roundScaled num den e
    let (m, e) := if m = twoTo 53 then (twoTo 52, e + 1) else (m, e)
    if 971 < e then .infinite neg else .finite neg m e

/-- A natural number as a floating-point number. -/
def ofNat (n : Nat) : Binary64 := ofRatio false n 1

/-- The number with the opposite sign. -/
def negate : Binary64 → Binary64
  | .finite neg m e => .finite (!neg) m e
  | .infinite neg => .infinite (!neg)
  | .nan => .nan

/-- The magnitude of a finite number as a quotient. -/
def ratio (m : Nat) (e : Int) : Nat × Nat :=
  if e < 0 then (m, twoTo e.natAbs) else (m * twoTo e.natAbs, 1)

/-- The product of two numbers. -/
def mul (x y : Binary64) : Binary64 :=
  match x, y with
  | .finite a m e, .finite b n f =>
    let (n₁, d₁) := ratio m e
    let (n₂, d₂) := ratio n f
    ofRatio (a != b) (n₁ * n₂) (d₁ * d₂)
  | .finite a m _, .infinite b | .infinite b, .finite a m _ =>
    if m = 0 then .nan else .infinite (a != b)
  | .infinite a, .infinite b => .infinite (a != b)
  | _, _ => .nan

/-- The quotient of two finite numbers, the second of which is not zero. -/
def div (x y : Binary64) : Binary64 :=
  match x, y with
  | .finite a m e, .finite b n f =>
    let (n₁, d₁) := ratio m e
    let (n₂, d₂) := ratio n f
    if n₂ = 0 then .nan else ofRatio (a != b) (n₁ * d₂) (d₁ * n₂)
  | _, _ => .nan

/-- `10 ^ k` as a floating-point number. -/
def pow10 (k : Nat) : Binary64 := ofNat (tenTo k)

/-- Whether a number is zero. -/
def isZero : Binary64 → Bool
  | .finite _ m _ => m == 0
  | _ => false

/-- Whether a number is infinite. -/
def isInfinite : Binary64 → Bool
  | .infinite _ => true
  | _ => false

/-- The value of decimal digits `digits` with the last `places` of them after the point, times
`10 ^ exponent`. -/
def ofDecimal (neg : Bool) (digits : Nat) (places : Nat) (exponent : Int) : Binary64 :=
  let e := exponent - places
  if digits = 0 then zero neg
  else if 400 < e + (Nat.log2 digits : Int) then .infinite neg
  else if e < -(400 + (Nat.log2 digits : Int)) then zero neg
  else if e < 0 then ofRatio neg digits (tenTo e.natAbs)
  else ofRatio neg (digits * tenTo e.natAbs) 1

/-! ## Reading -/

/-- The decimal digits at the front of a text and the rest. -/
def spanDigits (cs : List Char) : List Char × List Char :=
  (cs.takeWhile Char.isDigit, cs.dropWhile Char.isDigit)

/-- The value of decimal digits. -/
def digitsValue (cs : List Char) : Nat := cs.foldl (fun n c => n * 10 + (c.toNat - 48)) 0

/-- Reads an optional sign. -/
def readSign : List Char → Bool × List Char
  | '-' :: rest => (true, rest)
  | '+' :: rest => (false, rest)
  | cs => (false, cs)

/-- Reads an exponent that ends the text. -/
def readExponent? : List Char → Option Int
  | [] => some 0
  | c :: rest =>
    if c = 'e' ∨ c = 'E' then
      let (neg, rest) := readSign rest
      let (ds, rest) := spanDigits rest
      if ds.isEmpty ∨ !rest.isEmpty then none
      else some (if neg then -(digitsValue ds : Int) else digitsValue ds)
    else none

/-- Reads a decimal number: an optional sign, digits with at most one point among or around them,
an optional exponent; or the name of an infinity or of no number, in letters of either case. -/
def read? (text : String) : Option Binary64 :=
  let (neg, cs) := readSign text.toList
  let word := String.ofList (cs.map Char.toLower)
  if word = "inf" ∨ word = "infinity" then some (.infinite neg)
  else if word = "nan" then some .nan
  else
    let (whole, rest) := spanDigits cs
    let (fraction, rest) := match rest with
      | '.' :: rest => spanDigits rest
      | rest => ([], rest)
    if whole.isEmpty ∧ fraction.isEmpty then none
    else
      match readExponent? rest with
      | some exponent => some (ofDecimal neg (digitsValue (whole ++ fraction)) fraction.length exponent)
      | none => none

/-! ## Writing -/

/-- The greatest `k` with `10 ^ k ≤ num / den`, found from an estimate. -/
def floorLog10 (num den : Nat) : Int :=
  let atLeast (k : Int) : Bool :=
    if k < 0 then decide (den ≤ num * tenTo k.natAbs) else decide (den * tenTo k.natAbs ≤ num)
  let guess : Int := ((bitLength num : Int) - bitLength den) * 30103 / 100000
  let candidates := [guess + 2, guess + 1, guess, guess - 1, guess - 2]
  (candidates.find? atLeast).getD (guess - 3)

/-- The decimal digits `d` and the exponent `k` of a grid point `d · 10^k` that reads back as the
magnitude `x`; the grid has `n` digits at the magnitude of `x`, and of two points that read back the
nearer one is taken. -/
def onGrid? (m : Nat) (e : Int) (n : Nat) : Option (Nat × Int) :=
  let (num, den) := ratio m e
  let k := floorLog10 num den - n + 1
  let (num', den') := if k < 0 then (num * tenTo k.natAbs, den) else (num, den * tenTo k.natAbs)
  let d := num' / den'
  let reads (d : Nat) : Bool := ofDecimal false d 0 k == .finite false m e
  let below := reads d
  let above := reads (d + 1)
  if below ∧ above then some (if 2 * (num' % den') ≤ den' then d else d + 1, k)
  else if below then some (d, k)
  else if above then some (d + 1, k)
  else none

/-- The fewest decimal digits that read back as the magnitude `m · 2^e`, and their exponent. -/
def shortest (m : Nat) (e : Int) : Nat × Int :=
  ((List.range 17).findSome? fun n => onGrid? m e (n + 1)).getD (m, e)

/-- Drops the zeros at the end of a number's decimal digits into its exponent. -/
def dropZeros : Nat → Nat → Int → Nat × Int
  | 0, d, k => (d, k)
  | fuel + 1, d, k => if d % 10 = 0 ∧ d ≠ 0 then dropZeros fuel (d / 10) (k + 1) else (d, k)

/-- The text of a number in positional notation, without a point if it is an integer. -/
def toText : Binary64 → String
  | .nan => "NaN"
  | .infinite neg => if neg then "-inf" else "inf"
  | .finite neg m e =>
    let sign := if neg then "-" else ""
    if m = 0 then sign ++ "0"
    else
      let (d, k) := shortest m e
      let (d, k) := dropZeros 20 d k
      let ds := (toString d).toList
      let body :=
        if 0 ≤ k then ds ++ List.replicate k.natAbs '0'
        else if k.natAbs < ds.length then
          ds.take (ds.length - k.natAbs) ++ '.' :: ds.drop (ds.length - k.natAbs)
        else '0' :: '.' :: List.replicate (k.natAbs - ds.length) '0' ++ ds
      sign ++ String.ofList body

/-- The text of a number with a point even if it is an integer. -/
def toPointText (x : Binary64) : String :=
  let text := x.toText
  match x with
  | .finite _ _ _ => if text.toList.contains '.' then text else text ++ ".0"
  | _ => text

/-- The text of a number as data formats have it: in positional notation with a point if it is from
`10^-5` up to below `10^16`, else with an exponent and its sign. -/
def toDataText : Binary64 → String
  | .finite neg m e =>
    let (d, k) := shortest m e
    let (d, k) := dropZeros 20 d k
    let ds := (toString d).toList
    let point : Int := ds.length + k
    if m = 0 ∨ (-5 < point ∧ point ≤ 16) then (finite neg m e).toPointText
    else
      let fraction := if ds.length ≤ 1 then [] else '.' :: ds.drop 1
      (if neg then "-" else "") ++ String.ofList (ds.take 1 ++ fraction) ++
        (if point ≤ 0 then "e-" else "e+") ++ toString (point - 1).natAbs
  | x => x.toPointText

/-! ## Integers -/

/-- The nearest integer, halves away from zero. -/
def roundAway (m : Nat) (e : Int) : Nat :=
  let (n, d) := ratio m e
  (2 * n + d) / (2 * d)

/-- The number rounded to an integer, halves away from zero, and brought into the given range; no
number becomes zero. -/
def toIntWithin (x : Binary64) (lo hi : Int) : Int :=
  match x with
  | .nan => 0
  | .infinite neg => if neg then lo else hi
  | .finite neg m e =>
    let n : Int := roundAway m e
    let n := if neg then -n else n
    max lo (min hi n)

end Binary64

end FileSearch
