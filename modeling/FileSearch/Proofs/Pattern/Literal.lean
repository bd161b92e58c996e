import FileSearch.Pattern
import FileSearch.Proofs.Scan.Local

/-!
# Patterns that are searched for byte by byte

A literal pattern matches where its bytes stand in the text (`occursAt_iff_extract_eq`), and the
first such place is found (`findLiteral_findsFirst`).  So its finder is local: the bytes of one
match behind a place decide about the place (`isLocal_of_literal`).
-/

namespace FileSearch.Pattern

variable {needle h : ByteArray}

theorem occursAt_iff {n i j : Nat} :
    occursAt needle h n i j ↔ ∀ k, k < n → h[i + k]? = needle[j + k]? := by
  induction n generalizing i j with
  | zero => simp [occursAt]
  | succ n ih =>
    simp only [occursAt, Bool.and_eq_true, beq_iff_eq, ih]
    constructor
    · rintro ⟨first, rest⟩ k hk
      rcases k with _ | k
      · exact first
      · have := rest k (by omega)
        rwa [Nat.add_right_comm, Nat.add_right_comm j] at this
    · intro all
      refine ⟨all 0 (Nat.succ_pos _), fun k hk => ?_⟩
      rw [Nat.add_right_comm, Nat.add_right_comm j]
      exact all (k + 1) (by omega)

theorem extract_eq_of_getElem? {i : Nat} (same : ∀ k, k < needle.size → h[i + k]? = needle[k]?) :
    h.extract i (i + needle.size) = needle := by
  have fits : i + needle.size ≤ h.size ∨ needle.size = 0 := by
    by_cases empty : needle.size = 0
    · exact .inr empty
    · have last := same (needle.size - 1) (by omega)
      rw [getElem?_pos needle _ (by omega)] at last
      obtain ⟨hlt, -⟩ := getElem?_eq_some_iff.1 last
      omega
  apply ByteArray.ext_getElem
  · rw [ByteArray.size_extract]
    omega
  · intro k hk hk'
    have := same k hk'
    rw [getElem?_pos needle k hk'] at this
    obtain ⟨hlt, e⟩ := getElem?_eq_some_iff.1 this
    rw [ByteArray.getElem_extract, e]

theorem getElem?_of_extract_eq {i : Nat} (same : h.extract i (i + needle.size) = needle) {k : Nat}
    (hk : k < needle.size) : h[i + k]? = needle[k]? := by
  have size_eq := congrArg ByteArray.size same
  rw [ByteArray.size_extract] at size_eq
  have hk' : k < (h.extract i (i + needle.size)).size := by rwa [same]
  have e : (h.extract i (i + needle.size))[k] = needle[k] := by simp only [same]
  rw [getElem?_pos h (i + k) (by omega), getElem?_pos needle k hk, ← e, ByteArray.getElem_extract]

/-- A literal occurs where its bytes stand. -/
theorem occursAt_iff_extract_eq {i : Nat} :
    occursAt needle h needle.size i 0 ↔ h.extract i (i + needle.size) = needle := by
  rw [occursAt_iff]
  simp only [Nat.zero_add]
  exact ⟨extract_eq_of_getElem?, fun same _ => getElem?_of_extract_eq same⟩

/-- The length of a match that begins where the given bytes begin. -/
def literalLength (needle : ByteArray) (_before after : ByteArray) : Option Nat :=
  if after = needle then some needle.size else none

theorem stopWithin_literal {i e : Nat} :
    Finder.stopWithin needle.size (literalLength needle) h i = some e ↔
      i ≤ h.size ∧ e = i + needle.size ∧ occursAt needle h needle.size i 0 := by
  rw [occursAt_iff_extract_eq]
  unfold Finder.stopWithin literalLength
  by_cases hi : i ≤ h.size
  · by_cases same : h.extract i (i + needle.size) = needle
    · simp [hi, same, eq_comm]
    · simp [hi, same]
  · simp [hi]

/-- Where a literal occurs it ends in the text. -/
theorem add_size_le_of_occursAt {i : Nat} (hi : i ≤ h.size)
    (occurs : occursAt needle h needle.size i 0) : i + needle.size ≤ h.size := by
  have size_eq := congrArg ByteArray.size (occursAt_iff_extract_eq.1 occurs)
  rw [ByteArray.size_extract] at size_eq
  omega

theorem firstOccurrence_eq (count i : Nat) :
    (firstOccurrence needle h count i).map (fun i => ⟨i, i + needle.size⟩) =
      Finder.firstFrom (fun i => if occursAt needle h needle.size i 0 then some (i + needle.size)
        else none) count i := by
  induction count generalizing i with
  | zero => rfl
  | succ count ih =>
    unfold firstOccurrence Finder.firstFrom
    by_cases here : occursAt needle h needle.size i 0
    · simp [here]
    · simp only [here, Bool.false_eq_true, if_false, ih]

/-- The occurrence that begins first is found. -/
theorem findLiteral_eq_some_iff {p : Nat} {s : Span} :
    findLiteral needle h p = some s ↔
      p ≤ s.start ∧ Finder.stopWithin needle.size (literalLength needle) h s.start = some s.stop ∧
        ∀ q, p ≤ q → q < s.start →
          Finder.stopWithin needle.size (literalLength needle) h q = none := by
  have none_iff (q : Nat) : Finder.stopWithin needle.size (literalLength needle) h q = none ↔
      ¬ (q ≤ h.size ∧ occursAt needle h needle.size q 0) := by
    rw [Option.eq_none_iff_forall_ne_some]
    simp only [ne_eq, stopWithin_literal]
    exact ⟨fun none ⟨hq, occurs⟩ => none _ ⟨hq, rfl, occurs⟩, fun no e he => no ⟨he.1, he.2.2⟩⟩
  unfold findLiteral
  rw [firstOccurrence_eq, Finder.firstFrom_eq_some_iff]
  simp only [Option.ite_none_right_eq_some, Option.some.injEq, ite_eq_right_iff, reduceCtorEq,
    imp_false, stopWithin_literal, none_iff]
  constructor
  · rintro ⟨le, lt, ⟨occurs, stop⟩, first⟩
    exact ⟨le, ⟨by omega, stop.symm, occurs⟩, fun q hq hqs no => first q hq hqs no.2⟩
  · rintro ⟨le, ⟨hs, stop, occurs⟩, first⟩
    have := add_size_le_of_occursAt hs occurs
    exact ⟨le, by omega, ⟨occurs, stop.symm⟩, fun q hq hqs no => first q hq hqs ⟨by omega, no⟩⟩

theorem isLocal_of_literal {p : Pattern} (hp : p.strategy = .literal needle) :
    p.finder.IsLocal needle.size (literalLength needle) where
  findsFirst := by
    intro h p' s
    rw [← findLiteral_eq_some_iff]
    simp only [finder, findAt, hp]
    split
    · rename_i beyond
      constructor
      · intro none
        cases none
      · intro found
        obtain ⟨le, stop, -⟩ := findLiteral_eq_some_iff.1 found
        have := (stopWithin_literal.1 stop).1
        omega
    · rfl
  length_le := by
    intro before after n hn
    unfold literalLength at hn
    split at hn
    · exact Nat.le_of_eq (Option.some.inj hn).symm
    · cases hn

theorem overlap_of_literal {p : Pattern} (hp : p.strategy = .literal needle) (overlap : Nat) :
    needle.size ≤ p.finder.overlap overlap := by
  simp only [Finder.overlap, finder, maxLength, hp, Option.getD_some]
  exact Nat.le_max_left _ _

theorem strategy_of_isLiteral {text : String} {options : PatternOptions} {p : Pattern}
    (compiled : compile text options = .ok p) (literal : p.isLiteral) :
    text ≠ "" ∧ p.strategy = .literal text.toUTF8 := by
  unfold compile at compiled
  split at compiled
  · cases compiled
  · rename_i nonempty
    refine ⟨fun empty => nonempty (by rw [empty]; rfl), ?_⟩
    split at compiled
    · obtain rfl := Except.ok.inj compiled
      rfl
    · dsimp only at compiled
      split at compiled
      · obtain rfl := Except.ok.inj compiled
        cases literal
      · cases compiled

/-- However a stream is cut into reads, a text that is taken literally is found in it by windows as
it is found in the whole content. -/
theorem scanStream_literal {text : String} {options : PatternOptions} (nonempty : text ≠ "")
    (literal : takesLiterally text options) (caseSensitive : options.caseSensitive)
    {events : List ReadEvent} (ok : ReadEvent.neverFails events) (overlap : Nat)
    (limit : Option Nat) :
    ∃ p, compile text options = .ok p ∧ p.isLiteral ∧
      ∃ scan, p.finder.scanStream overlap limit events = .ok scan ∧
        (scan.found, scan.truncated) = p.finder.scanLimited (ReadEvent.content events) limit ∧
        (scan.truncated = false → scan.bytesRead = (ReadEvent.content events).size) := by
  have compiled : compile text options = .ok ⟨text, .literal text.toUTF8⟩ := by
    have : text.isEmpty = false := by simpa using nonempty
    simp only [compile, this, literal, caseSensitive, Bool.and_self, if_true, Bool.false_eq_true,
      if_false]
  refine ⟨_, compiled, rfl, Finder.scanStream_of_isLocal (isLocal_of_literal rfl) ?_ limit ok⟩
  exact Nat.le_succ_of_le (overlap_of_literal rfl overlap)

/-- The text `ab`, found in `xabab` that comes in pieces, with one match more than are wanted. -/
theorem scanStream_literal_ab :
    let reads : List ReadEvent :=
      [.bytes "xa".toUTF8, .interrupted, .bytes "b".toUTF8, .bytes "ab".toUTF8, .bytes .empty]
    "ab" ≠ "" ∧ takesLiterally "ab" {} ∧ ReadEvent.neverFails reads ∧
      ∃ p, compile "ab" {} = .ok p ∧ p.isLiteral ∧
        ∃ scan, p.finder.scanStream 4096 (some 1) reads = .ok scan ∧
          (scan.found, scan.truncated) = p.finder.scanLimited (ReadEvent.content reads) (some 1) ∧
          (scan.truncated = false → scan.bytesRead = (ReadEvent.content reads).size) := by
  intro reads
  have literal : takesLiterally "ab" {} := by decide
  have ok : ReadEvent.neverFails reads := by decide
  exact ⟨by decide, literal, ok, scanStream_literal (by decide) literal rfl ok 4096 (some 1)⟩

end FileSearch.Pattern
