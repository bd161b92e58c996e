import FileSearch.Scan.Stream

/-!
# Finders that find the first match

What a scan of a text or of a stream relies on: matches lie in the text, the one that begins first is
found, and for a scan by windows, whether a match begins at a place is decided by a few bytes before
it and by a bounded number of bytes after it.
-/

namespace FileSearch.Finder

/-- Every match that is found lies in the text and does not begin before the place of the search. -/
def InBounds (f : Finder) : Prop :=
  ∀ h p s, f.find h p = some s → p ≤ s.start ∧ s.start ≤ s.stop ∧ s.stop ≤ h.size

/-- Every match that is found begins in the text and not before the place of the search. -/
def Advances (f : Finder) : Prop :=
  ∀ h p s, f.find h p = some s → p ≤ s.start ∧ s.start ≤ s.stop ∧ s.start ≤ h.size

/-- The finder finds the match that begins first, where `stopAt h i` is the end of the match of `h`
that begins at `i`, if there is one. -/
def FindsFirst (f : Finder) (stopAt : ByteArray → Nat → Option Nat) : Prop :=
  ∀ h p s, f.find h p = some s ↔
    p ≤ s.start ∧ stopAt h s.start = some s.stop ∧ ∀ q, p ≤ q → q < s.start → stopAt h q = none

/-- The end of the match that begins at a place, if its length is decided by `lengthOf` from the
bytes around the place, `reach` of them behind it. -/
def stopWithin (reach : Nat) (lengthOf : ByteArray → ByteArray → Option Nat) (h : ByteArray) (i : Nat) :
    Option Nat :=
  if i ≤ h.size then
    (lengthOf (h.extract (i - lookBehind) i) (h.extract i (i + reach))).map (i + ·)
  else none

/-- The finder finds the match that begins first, the bytes around a place decide about the match
there, and no match is longer than `reach`. -/
structure IsLocal (f : Finder) (reach : Nat) (lengthOf : ByteArray → ByteArray → Option Nat) :
    Prop where
  findsFirst : f.FindsFirst (stopWithin reach lengthOf)
  length_le : ∀ before after n, lengthOf before after = some n → n ≤ reach

end FileSearch.Finder
