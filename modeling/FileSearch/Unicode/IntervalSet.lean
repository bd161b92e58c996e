/-!
# Sets of numbers as sorted intervals

Code points and byte values are natural numbers, and a set of them is kept as a list of inclusive
intervals.  `IntervalSet.ofIntervals` brings any list of intervals into normal form: ascending,
and no two intervals overlap or touch.  `IntervalSet.contains` reads a set in normal form; the set
operations keep it.
-/

namespace FileSearch.Unicode

/-- The numbers from `lo` to `hi`, both included. -/
structure Interval where
  lo : Nat
  hi : Nat
  deriving DecidableEq, Repr, Inhabited

/-- The interval between two numbers, whichever is the smaller. -/
def Interval.between (a b : Nat) : Interval := ⟨min a b, max a b⟩

/-- A set of numbers in intervals. -/
structure IntervalSet where
  intervals : List Interval
  deriving DecidableEq, Repr, Inhabited

/-- The alphabet over which a set is complemented: its numbers run from `0` to `last`, without
those of `gap`. -/
structure Alphabet where
  last : Nat
  gap : Option Interval

/-- The byte values. -/
def Alphabet.bytes : Alphabet := ⟨0xFF, none⟩

/-- The Unicode scalar values: all code points but the surrogates. -/
def Alphabet.scalars : Alphabet := ⟨0x10FFFF, some ⟨0xD800, 0xDFFF⟩⟩

/-- The number after `n` in the alphabet. -/
def Alphabet.succ (α : Alphabet) (n : Nat) : Nat :=
  match α.gap with
  | some g => if n + 1 = g.lo then g.hi + 1 else n + 1
  | none => n + 1

/-- The number before `n` in the alphabet. -/
def Alphabet.pred (α : Alphabet) (n : Nat) : Nat :=
  match α.gap with
  | some g => if n = g.hi + 1 then g.lo - 1 else n - 1
  | none => n - 1

namespace IntervalSet

/-- The set of no numbers. -/
def empty : IntervalSet := ⟨[]⟩

/-- The set of one number. -/
def singleton (n : Nat) : IntervalSet := ⟨[⟨n, n⟩]⟩

/-- The whole alphabet as one interval. -/
def full (α : Alphabet) : IntervalSet := ⟨[⟨0, α.last⟩]⟩

/-- Joins intervals that overlap or touch; the list is sorted by its lower ends. -/
def join : List Interval → List Interval
  | [] => []
  | a :: rest => go a rest
where
  /-- Extends the interval `cur` by those that reach it. -/
  go (cur : Interval) : List Interval → List Interval
    | [] => [cur]
    | b :: rest =>
      if b.lo ≤ cur.hi + 1 then go ⟨cur.lo, max cur.hi b.hi⟩ rest else cur :: go b rest

/-- The normal form of a list of intervals. -/
def ofIntervals (is : List Interval) : IntervalSet :=
  ⟨join (is.mergeSort fun a b => a.lo < b.lo || (a.lo == b.lo && a.hi ≤ b.hi))⟩

/-- Whether a number belongs to a set in normal form: the search ends at the first interval that
starts above the number. -/
def contains (s : IntervalSet) (n : Nat) : Bool := go s.intervals
where
  /-- Reads the intervals from the lowest one on. -/
  go : List Interval → Bool
    | [] => false
    | i :: rest => if n < i.lo then false else if n ≤ i.hi then true else go rest

/-- Whether a set has no numbers. -/
def isEmpty (s : IntervalSet) : Bool := s.intervals.isEmpty

/-- The greatest number of a set. -/
def last? (s : IntervalSet) : Option Nat := s.intervals.getLast?.map (·.hi)

/-- The least number of a set. -/
def first? (s : IntervalSet) : Option Nat := s.intervals.head?.map (·.lo)

/-- The only number of a set that is written as one interval of one number. -/
def single? (s : IntervalSet) : Option Nat :=
  match s.intervals with
  | [i] => if i.lo = i.hi then some i.lo else none
  | _ => none

/-- Adds one interval. -/
def insert (s : IntervalSet) (i : Interval) : IntervalSet := ofIntervals (s.intervals ++ [i])

/-- The numbers of either set. -/
def union (s t : IntervalSet) : IntervalSet := ofIntervals (s.intervals ++ t.intervals)

/-- The numbers of any of the sets. -/
def unions (ss : List IntervalSet) : IntervalSet := ofIntervals (ss.flatMap (·.intervals))

/-- What two lists of intervals have in common. -/
def overlaps : List Interval → List Interval → List Interval
  | [], _ => []
  | _, [] => []
  | a :: as, b :: bs =>
    let lo := max a.lo b.lo
    let hi := min a.hi b.hi
    let rest := if a.hi ≤ b.hi then overlaps as (b :: bs) else overlaps (a :: as) bs
    if lo ≤ hi then ⟨lo, hi⟩ :: rest else rest
termination_by as bs => as.length + bs.length

/-- The numbers of both sets. -/
def inter (s t : IntervalSet) : IntervalSet := ofIntervals (overlaps s.intervals t.intervals)

/-- The intervals that lie between neighbouring intervals of a list. -/
def gaps (α : Alphabet) : List Interval → List Interval
  | a :: b :: rest => .between (α.succ a.hi) (α.pred b.lo) :: gaps α (b :: rest)
  | _ => []

/-- The numbers of the alphabet that are not in a set. -/
def compl (α : Alphabet) (s : IntervalSet) : IntervalSet :=
  match s.intervals with
  | [] => full α
  | a :: rest =>
    let below := if 0 < a.lo then [Interval.between 0 (α.pred a.lo)] else []
    let top := ((a :: rest).getLast?.getD a).hi
    let above := if top < α.last then [Interval.between (α.succ top) α.last] else []
    ⟨below ++ gaps α (a :: rest) ++ above⟩

/-- The numbers of the first set that are not in the second. -/
def diff (α : Alphabet) (s t : IntervalSet) : IntervalSet := s.inter (t.compl α)

/-- The numbers of exactly one of the two sets. -/
def symmDiff (α : Alphabet) (s t : IntervalSet) : IntervalSet :=
  (s.diff α t).union (t.diff α s)

/-- The value of a hexadecimal digit, `0` for any other character. -/
def hexValue (c : Char) : Nat :=
  if '0' ≤ c ∧ c ≤ '9' then c.toNat - 48
  else if 'A' ≤ c ∧ c ≤ 'F' then c.toNat - 55
  else if 'a' ≤ c ∧ c ≤ 'f' then c.toNat - 87
  else 0

/-- Whether a character separates the items of a table. -/
def isGap (c : Char) : Bool := c = ' ' || c = '\n'

/-- Reads intervals from a text: hexadecimal numbers `n` and ranges `m-n` with gaps between. -/
def ofText (text : String) : IntervalSet := ⟨go text.toList none none⟩
where
  /-- Reads on with the lower end of an unfinished range and the number at hand. -/
  go : List Char → Option Nat → Option Nat → List Interval
    | [], _, none => []
    | [], lo, some n => [⟨lo.getD n, n⟩]
    | c :: rest, lo, n =>
      if isGap c then
        match n with
        | none => go rest none none
        | some n => ⟨lo.getD n, n⟩ :: go rest none none
      else if c = '-' then go rest n none
      else go rest lo (some (n.getD 0 * 16 + hexValue c))

end IntervalSet

end FileSearch.Unicode
