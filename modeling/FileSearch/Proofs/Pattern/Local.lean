import FileSearch.Proofs.Pattern.Literal

/-!
# Patterns that see only a few bytes

A pattern whose finder is local finds in a stream what it finds in the whole content
(`scanStream_of_local`).  A literal is local, and a regular expression is if a bounded number of
bytes decides about each match; `lineB` is one that looks at the byte before its match.
-/

namespace FileSearch.Pattern

/-- A pattern finds in a stream what it finds in the whole content, if few enough bytes around each
place decide about the match there. -/
theorem scanStream_of_local {p : Pattern} {reach overlap : Nat}
    {lengthOf : ByteArray → ByteArray → Option Nat} (hp : p.finder.IsLocal reach lengthOf)
    (hr : reach ≤ overlap + 1) {events : List ReadEvent} (ok : ReadEvent.neverFails events)
    (limit : Option Nat) :
    ∃ scan, p.finder.scanStream overlap limit events = .ok scan ∧
      (scan.found, scan.truncated) = p.finder.scanLimited (ReadEvent.content events) limit ∧
      (scan.truncated = false → scan.bytesRead = (ReadEvent.content events).size) := by
  rcases hs : p.strategy with needle | program
  · -- The windows of a literal carry over its length, whatever overlap is asked for.
    have := overlap_of_literal hs overlap
    exact Finder.scanStream_of_isLocal (isLocal_of_literal hs) (by omega) limit ok
  · have overlap_eq : p.finder.overlap overlap = max overlap 1 := by
      simp [Finder.overlap, finder, maxLength, hs]
    exact Finder.scanStream_of_isLocal hp (by omega) limit ok

/-! ## A pattern that looks at the byte before its match -/

/-- The pattern `^b`. -/
def lineB : Pattern := ⟨"^b", .regex ⟨#[.look .lineStart 1, .byte 0x62 2, .accept]⟩⟩

set_option maxRecDepth 100000 in
theorem compile_lineB : compile "^b" {} = .ok lineB := rfl

/-- The length of a match of `^b` between the given bytes. -/
def lineBLength (before after : ByteArray) : Option Nat :=
  if (before.size = 0 ∨ before[before.size - 1]? = some 0x0A) ∧ after[0]? = some 0x62 then some 1
  else none

theorem getElem?_extract {h : ByteArray} {i j k : Nat} (hk : i + k < j) :
    (h.extract i j)[k]? = h[i + k]? := by
  by_cases hlt : i + k < h.size
  · have : k < (h.extract i j).size := by
      rw [ByteArray.size_extract]
      omega
    rw [getElem?_pos h (i + k) hlt, getElem?_pos _ k this, ByteArray.getElem_extract]
  · have : ¬ k < (h.extract i j).size := by
      rw [ByteArray.size_extract]
      omega
    rw [getElem?_neg h (i + k) hlt, getElem?_neg _ k this]

theorem stopWithin_lineB {h : ByteArray} {i : Nat} (hi : i ≤ h.size) :
    Finder.stopWithin 1 lineBLength h i =
      if Regex.Look.lineStart.holds h i && h[i]? == some 0x62 then some (i + 1) else none := by
  have before_size : (h.extract (i - lookBehind) i).size = min i lookBehind := by
    rw [ByteArray.size_extract]
    omega
  have last (pos : 0 < i) :
      (h.extract (i - lookBehind) i)[min i lookBehind - 1]? = h[i - 1]? := by
    have : 0 < lookBehind := by decide
    rw [getElem?_extract (by omega)]
    congr 1
    omega
  have next : (h.extract i (i + 1))[0]? = h[i]? := getElem?_extract (by omega)
  unfold Finder.stopWithin lineBLength
  rw [if_pos hi, before_size, next]
  rcases Nat.eq_zero_or_pos i with rfl | pos
  · simp [Regex.Look.holds, apply_ite]
  · rw [last pos]
    have : min i lookBehind ≠ 0 := by
      have : 0 < lookBehind := by decide
      omega
    simp [Regex.Look.holds, Regex.byteBefore, pos, this, Nat.ne_of_gt pos, apply_ite]

/-- A program whose attempts mark nothing as tried finds the first match. -/
theorem searchFrom_eq_firstFrom {program : Regex.Program} {h : ByteArray} {fuel : Nat}
    {stopAt : Nat → Option Nat}
    (attempt : ∀ i tried, program.explore h fuel [(0, i)] tried = (stopAt i, tried))
    (count i : Nat) (tried : Regex.Tried) :
    program.searchFrom h fuel count i tried = Finder.firstFrom stopAt count i := by
  induction count generalizing i with
  | zero => rfl
  | succ count ih =>
    unfold Regex.Program.searchFrom Finder.firstFrom
    rw [attempt]
    rcases stopAt i with _ | e
    · exact ih (i + 1)
    · rfl

theorem explore_lineB (h : ByteArray) {fuel : Nat} (enough : 4 ≤ fuel) (i : Nat)
    (tried : Regex.Tried) :
    Regex.Program.explore ⟨#[.look .lineStart 1, .byte 0x62 2, .accept]⟩ h fuel [(0, i)] tried =
      (if Regex.Look.lineStart.holds h i && h[i]? == some 0x62 then some (i + 1) else none,
        tried) := by
  obtain ⟨fuel, rfl⟩ := Nat.exists_eq_add_of_le' enough
  by_cases look : Regex.Look.lineStart.holds h i
  · by_cases byte : h[i]? = some 0x62
    · simp [Regex.Program.explore, look, byte]
    · simp [Regex.Program.explore, look, byte]
  · simp [Regex.Program.explore, look]

theorem isLocal_lineB : lineB.finder.IsLocal 1 lineBLength where
  findsFirst := by
    intro h p s
    change lineB.findAt h p = some s ↔ _
    unfold findAt
    by_cases beyond : h.size < p
    · simp only [beyond, if_true, reduceCtorEq, false_iff]
      rintro ⟨le, stop, -⟩
      have := (Finder.le_of_stopWithin stop).1
      omega
    · simp only [beyond, if_false, lineB, Regex.Program.search]
      rw [searchFrom_eq_firstFrom (explore_lineB h ?_), Finder.firstFrom_eq_some_iff]
      rotate_left
      · unfold Regex.Program.stepBound
        simp only [List.size_toArray, List.length_cons, List.length_nil]
        omega
      constructor
      · rintro ⟨le, lt, stop, first⟩
        refine ⟨le, by rwa [stopWithin_lineB (by omega)], fun q hq hqs => ?_⟩
        rw [stopWithin_lineB (by omega)]
        exact first q hq hqs
      · rintro ⟨le, stop, first⟩
        have := (Finder.le_of_stopWithin stop).1
        rw [stopWithin_lineB this] at stop
        refine ⟨le, by omega, stop, fun q hq hqs => ?_⟩
        rw [← stopWithin_lineB (by omega)]
        exact first q hq hqs
  length_le := by
    intro before after n hn
    unfold lineBLength at hn
    split at hn
    · exact Nat.le_of_eq (Option.some.inj hn).symm
    · cases hn

/-- The pattern `^b` in three lines that come in pieces; two of them begin with it. -/
theorem scanStream_lineB :
    let reads : List ReadEvent :=
      [.bytes "ab".toUTF8, .bytes "\n".toUTF8, .interrupted, .bytes "bb".toUTF8,
        .bytes "\nb".toUTF8]
    lineB.finder.IsLocal 1 lineBLength ∧ 1 ≤ 1 + 1 ∧ ReadEvent.neverFails reads ∧
      ∃ scan, lineB.finder.scanStream 1 none reads = .ok scan ∧
        (scan.found, scan.truncated) = lineB.finder.scanLimited (ReadEvent.content reads) none ∧
        (scan.truncated = false → scan.bytesRead = (ReadEvent.content reads).size) := by
  intro reads
  have ok : ReadEvent.neverFails reads := by decide
  exact ⟨isLocal_lineB, by omega, ok, scanStream_of_local isLocal_lineB (by omega) ok none⟩

end FileSearch.Pattern
