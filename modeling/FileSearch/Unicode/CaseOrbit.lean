import FileSearch.Unicode.IntervalSet
import FileSearch.Unicode.Table.CaseOrbit

/-!
# Simple case folding

`caseOrbits` lists the sets of characters that fold to one another; `IntervalSet.foldCase` closes a
set under folding, and `IntervalSet.foldAsciiCase` under exchange of the two cases of ASCII.
-/

namespace FileSearch.Unicode

/-- Reads groups of hexadecimal numbers: `+` joins the numbers of a group, a gap ends it. -/
def readGroups : List Char → List Nat → Option Nat → List (List Nat)
  | [], _, none => []
  | [], group, some n => [(n :: group).reverse]
  | c :: rest, group, n =>
    if IntervalSet.isGap c then
      match n with
      | none => readGroups rest group none
      | some n => (n :: group).reverse :: readGroups rest [] none
    else if c = '+' then readGroups rest (n.toList ++ group) none
    else readGroups rest group (some (n.getD 0 * 16 + IntervalSet.hexValue c))

/-- The orbits of simple case folding that have at least two characters. -/
def caseOrbits : List (List Nat) := readGroups Table.caseOrbits.toList [] none

/-- Whether folding relates a character to another one. -/
def hasCaseVariant (c : Nat) : Bool := caseOrbits.any (·.contains c)

/-- Two characters are case variants if they are equal or share an orbit. -/
def CaseVariant (a b : Nat) : Prop := a = b ∨ ∃ o ∈ caseOrbits, a ∈ o ∧ b ∈ o

/-- The least set around `s` that is closed under simple case folding. -/
def IntervalSet.foldCase (s : IntervalSet) : IntervalSet :=
  let orbits := caseOrbits.filter (·.any s.contains)
  .ofIntervals (s.intervals ++ orbits.flatMap (·.map fun c => ⟨c, c⟩))

/-- The part of an interval that lies between `lo` and `hi`, moved by `shift`. -/
def Interval.moved (i : Interval) (lo hi : Nat) (shift : Nat → Nat) : List Interval :=
  let a := max i.lo lo
  let b := min i.hi hi
  if a ≤ b then [⟨shift a, shift b⟩] else []

/-- The least set around `s` that is closed under exchange of `a`…`z` with `A`…`Z`. -/
def IntervalSet.foldAsciiCase (s : IntervalSet) : IntervalSet :=
  .ofIntervals (s.intervals.flatMap fun i =>
    i :: (i.moved 0x41 0x5A (· + 32) ++ i.moved 0x61 0x7A (· - 32)))

end FileSearch.Unicode
