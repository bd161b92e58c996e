import FileSearch.Regex.Program
import FileSearch.Text.Span

/-!
# Searching with a program

`Program.search` finds the first place at which a program has a match, and the match it prefers
there.  All ways to go on are tried in the order of preference; a choice that has been tried at a
place is not tried there again, in the same attempt or a later one, since it would lead to the same
ends.  The bytes before the place where the search begins still count for conditions.
-/

namespace FileSearch.Regex

/-- The choices that have been tried: one mark for each instruction and place from `origin` on. -/
structure Tried where
  width : Nat
  origin : Nat
  marks : ByteArray

namespace Tried

/-- Where the mark of an instruction and a place is kept. -/
def slot (t : Tried) (pc i : Nat) : Nat := (i - t.origin) * t.width + pc

/-- Whether an instruction has been tried at a place. -/
def contains (t : Tried) (pc i : Nat) : Bool := t.marks[t.slot pc i]? == some 1

/-- Adds `n` empty marks. -/
def grow (marks : ByteArray) : Nat → ByteArray
  | 0 => marks
  | n + 1 => grow (marks.push 0) n

/-- Marks an instruction as tried at a place. -/
def insert (t : Tried) (pc i : Nat) : Tried :=
  let slot := t.slot pc i
  let marks := grow t.marks (slot + 1 - t.marks.size)
  { t with marks := marks.set! slot 1 }

end Tried

/-- The place after the member of a set that begins at `i`, if one does. -/
def MemberSet.pass (s : MemberSet) (h : ByteArray) (i : Nat) : Option Nat :=
  match s with
  | .bytes s =>
    match h[i]? with
    | some b => if s.contains b.toNat then some (i + 1) else none
    | none => none
  | .chars s =>
    match Utf8.frontAt h i h.size with
    | some (.char c n) => if s.contains c then some (i + n) else none
    | _ => none

namespace Program

/-- Follows the given ways, each an instruction and a place, until a match ends.  `fuel` bounds the
number of steps. -/
def explore (p : Program) (h : ByteArray) : Nat → List (Nat × Nat) → Tried → Option Nat × Tried
  | 0, _, tried => (none, tried)
  | _ + 1, [], tried => (none, tried)
  | fuel + 1, (pc, i) :: ways, tried =>
    match p.insts[pc]? with
    | none => explore p h fuel ways tried
    | some .accept => (some i, tried)
    | some (.jump next) => explore p h fuel ((next, i) :: ways) tried
    | some (.byte b next) =>
      if h[i]? == some b then explore p h fuel ((next, i + 1) :: ways) tried
      else explore p h fuel ways tried
    | some (.set s next) =>
      match s.pass h i with
      | some j => explore p h fuel ((next, j) :: ways) tried
      | none => explore p h fuel ways tried
    | some (.look l next) =>
      if l.holds h i then explore p h fuel ((next, i) :: ways) tried
      else explore p h fuel ways tried
    | some (.split nexts) =>
      if tried.contains pc i then explore p h fuel ways tried
      else explore p h fuel (nexts.map (·, i) ++ ways) (tried.insert pc i)

/-- More steps than `explore` can take on a text of `n` bytes: every choice is made at most once at
each place, and between two choices no instruction comes twice. -/
def stepBound (p : Program) (n : Nat) : Nat :=
  let size := p.insts.size + 1
  (n + 2) * size * size * size

/-- Tries the `count` places from `s` on. -/
def searchFrom (p : Program) (h : ByteArray) (fuel : Nat) : Nat → Nat → Tried → Option Span
  | 0, _, _ => none
  | count + 1, s, tried =>
    match p.explore h fuel [(0, s)] tried with
    | (some e, _) => some ⟨s, e⟩
    | (none, tried) => searchFrom p h fuel count (s + 1) tried

/-- The match that begins first at or after `start`, and of the matches that begin there the one
the program prefers. -/
def search (p : Program) (h : ByteArray) (start : Nat) : Option Span :=
  p.searchFrom h (p.stepBound h.size) (h.size + 1 - start) start ⟨p.insts.size, start, .empty⟩

end Program

end FileSearch.Regex
