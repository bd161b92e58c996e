import FileSearch.Number.Word
import FileSearch.Regex.Expr

/-!
# The size of a pattern's automaton

A pattern is refused if an automaton over bytes for it takes more than `sizeLimit` bytes.
`Expr.footprint` counts what the automata take that read the text from left to right and from right
to left; neither is built.
-/

namespace FileSearch.Regex

open Unicode (Interval IntervalSet)

/-- What an automaton takes: states and the edges kept beside them. -/
structure Footprint where
  states : Nat
  edges : Nat
  deriving Repr

namespace Footprint

/-- The bytes a state takes. -/
def stateBytes : Nat := 32

/-- The bytes an edge with a range takes; an edge without one takes half. -/
def edgeBytes : Nat := 8

/-- All bytes; `edges` counts halves. -/
def bytes (f : Footprint) : Nat := f.states * stateBytes + f.edges * (edgeBytes / 2)

instance : Add Footprint := ⟨fun a b => ⟨a.states + b.states, a.edges + b.edges⟩⟩

/-- The footprint of `n` copies. -/
def times (n : Nat) (f : Footprint) : Footprint := ⟨n * f.states, n * f.edges⟩

end Footprint

/-- The greatest size of an automaton. -/
def sizeLimit : Nat := 10485760

/-! ## Ranges of bytes -/

/-- A run of characters of one encoded length as one range of values for each of its bytes, first
byte first. -/
abbrev ByteRanges := List (Nat × Nat)

/-- The ranges of the bytes of two code points of one length. -/
def rangesBetween (lo hi : Nat) : ByteRanges :=
  ((Utf8.encodeCode lo).map UInt8.toNat).zip ((Utf8.encodeCode hi).map UInt8.toNat)

/-- Splits a run of code points so that the bytes of each part range independently of each other;
`fuel` bounds the number of splits. -/
def splitRun : Nat → Nat → Nat → List ByteRanges
  | 0, _, _ => []
  | fuel + 1, lo, hi =>
    if hi < lo then []
    else if lo ≤ 0xDFFF ∧ 0xD800 ≤ hi then
      (if lo < 0xD800 then splitRun fuel lo 0xD7FF else []) ++
        (if 0xDFFF < hi then splitRun fuel 0xE000 hi else [])
    else
      let cut := ([0x7F, 0x7FF, 0xFFFF].find? fun m => lo ≤ m ∧ m < hi).or <|
        if hi ≤ 0x7F then none
        else ([1, 2, 3].findSome? fun k =>
          let m := twoTo (6 * k) - 1
          if lo / (m + 1) = hi / (m + 1) then none
          else if lo % (m + 1) ≠ 0 then some (lo / (m + 1) * (m + 1) + m)
          else if hi % (m + 1) ≠ m then some (hi / (m + 1) * (m + 1) - 1)
          else none)
      match cut with
      | some m => splitRun fuel lo m ++ splitRun fuel (m + 1) hi
      | none => [rangesBetween lo hi]

/-- The byte ranges of all characters of a set. -/
def byteRanges (s : IntervalSet) : List ByteRanges :=
  s.intervals.flatMap fun i => splitRun 64 i.lo i.hi

/-! ## Sets of characters -/

/-- A state of the automaton of a set: its edges, each a range and the number of the state it leads
to. -/
abbrev Edges := List ((Nat × Nat) × Nat)

/-- The states of an automaton, no two of which have the same edges, numbered from `1`; `0` is the
state in which a character has been read. -/
structure States where
  list : List (Edges × Nat)
  edges : Nat

/-- The number of the state with the given edges, which is added if there is none. -/
def States.add (s : States) (e : Edges) : States × Nat :=
  match s.list.find? (·.1 == e) with
  | some (_, n) => (s, n)
  | none =>
    let n := s.list.length + 1
    (⟨(e, n) :: s.list, s.edges + e.length⟩, n)

/-- Gathers neighbouring runs with the same first range. -/
def groupRuns : List ByteRanges → List ((Nat × Nat) × List ByteRanges)
  | [] => []
  | [] :: rest => groupRuns rest
  | (r :: tail) :: rest =>
    match groupRuns rest with
    | (r', tails) :: groups =>
      if r = r' then (r, tail :: tails) :: groups else (r, [tail]) :: (r', tails) :: groups
    | [] => [(r, [tail])]

/-- Adds the state that reads one of the given runs, none of which is longer than `depth`. -/
def addRuns : Nat → List ByteRanges → States → States × Nat
  | 0, _, s => (s, 0)
  | depth + 1, runs, s =>
    match groupRuns runs with
    | [] => (s, 0)
    | groups =>
      let (s, edges) := groups.foldl (fun (acc : States × Edges) g =>
        let (s, n) := addRuns depth g.2 acc.1
        (s, (g.1, n) :: acc.2)) (s, [])
      s.add edges.reverse

/-- What the automaton of a set of characters takes when it reads from left to right: states from
which the same bytes can follow are one. -/
def forwardSet (runs : List ByteRanges) : Footprint :=
  let (s, _) := addRuns 4 runs ⟨[], 0⟩
  ⟨s.list.length + 1, 2 * s.edges⟩

/-- The number of leading ranges that two runs share. -/
def sharedRanges : ByteRanges → ByteRanges → Nat
  | a :: as, b :: bs => if a = b then sharedRanges as bs + 1 else 0
  | _, _ => 0

/-- What the automaton of a set of characters takes when it reads from right to left: ways are
shared where they come to the same first bytes. -/
def backwardSet (runs : List ByteRanges) : Footprint :=
  let states := (runs.zip ([] :: runs)).foldl
    (fun n (run, previous) => n + (run.length - sharedRanges run previous)) 0
  ⟨states + 2, runs.length⟩

/-- What the automaton of a set takes. -/
def MemberSet.footprint (s : MemberSet) (forward : Bool) : Footprint :=
  if s.isAscii then ⟨2, 2 * s.intervals.intervals.length⟩
  else
    match s with
    | .bytes s => ⟨2, 2 * s.intervals.length⟩
    | .chars s => if forward then forwardSet (byteRanges s) else backwardSet (byteRanges s)

/-! ## Expressions -/

mutual

/-- What the automaton of an expression takes. -/
def Expr.footprint (forward : Bool) : Expr → Footprint
  | .empty | .look _ => ⟨1, 0⟩
  | .literal bs => ⟨bs.length, 0⟩
  | .set s => s.footprint forward
  | .capture _ e => e.footprint forward + ⟨if forward then 2 else 0, 0⟩
  | .concat es => Expr.footprintAll forward es
  | .alternation es => Expr.footprintAll forward es + ⟨2, es.length⟩
  | .repetition 0 none _ e =>
    e.footprint forward + (if e.minLength?.any (0 < ·) then ⟨1, 2⟩ else ⟨3, 4⟩)
  | .repetition n none _ e => (e.footprint forward).times n + ⟨1, 2⟩
  | .repetition n (some m) _ e =>
    let f := e.footprint forward
    if m ≤ n then f.times n else f.times n + (f + ⟨1, 2⟩).times (m - n) + ⟨1, 0⟩

/-- What the automata of several expressions take together. -/
def Expr.footprintAll (forward : Bool) : List Expr → Footprint
  | [] => ⟨0, 0⟩
  | e :: es => e.footprint forward + Expr.footprintAll forward es

end

/-- What every automaton takes to begin and end a match. -/
def Footprint.frame : Footprint := ⟨6, 4⟩

/-- Whether one of the automata of an expression exceeds the limit. -/
def Expr.tooLarge (e : Expr) : Bool :=
  [true, false].any fun forward => sizeLimit < (e.footprint forward + .frame).bytes

end FileSearch.Regex
