import FileSearch.Proofs.Regex.Folded

/-!
# Literal patterns in any case

Where case does not matter, a text that is taken literally is searched for as a regular expression.
Its matches are the texts that differ from it in case only, whatever signs it has
(`findAt_folded_iff`).  A match may have other bytes than the text and another number of them: `K`
matches the Kelvin sign.
-/

namespace FileSearch.Pattern

open Unicode (CaseVariant IntervalSet)

variable {text : String} {options : PatternOptions} {h : ByteArray} {i e : Nat}

/-- From one place of `h` to another one stands a text that differs from the given one in case
only. -/
def VariantAt (text : String) (h : ByteArray) (i e : Nat) : Prop :=
  ∃ variant : String, CaseVariants text.toList variant.toList ∧ e = i + variant.toUTF8.size ∧
    h.extract i e = variant.toUTF8

theorem passAll_eq_some_iff :
    Regex.Step.passAll h ((text.toList.map Regex.foldedChar).flatMap Regex.Expr.steps) i = some e ↔
      VariantAt text h i e := by
  have bytes (u : String) : Utf8.encodeAll u.toList <+: bytesFrom h i ↔
      h.extract i (i + u.toUTF8.size) = u.toUTF8 := by
    rw [← Utf8.toList_toUTF8, prefix_bytesFrom_iff]
  have size (u : String) : (Utf8.encodeAll u.toList).length = u.toUTF8.size := by
    rw [← Utf8.toList_toUTF8]
    rfl
  rw [Regex.passAll_folded]
  constructor
  · rintro ⟨variant, variants, stands, rfl⟩
    have same : (String.ofList variant).toList = variant := String.toList_ofList
    rw [← same] at variants stands ⊢
    rw [size]
    exact ⟨_, variants, rfl, (bytes _).1 stands⟩
  · rintro ⟨variant, variants, rfl, stands⟩
    exact ⟨variant.toList, variants, (bytes variant).2 stands, by rw [size]⟩

/-- A variant of a text that is not empty has bytes. -/
theorem VariantAt.lt_size (nonempty : text ≠ "") (variant : VariantAt text h i e) : i < h.size := by
  obtain ⟨u, variants, rfl, stands⟩ := variant
  have chars : u.toList ≠ [] := by
    intro none
    rw [CaseVariants, none, List.forall₂_nil_right_iff] at variants
    exact nonempty (by simpa using variants)
  have some : u.toUTF8.size ≠ 0 := mt String.utf8ByteSize_eq_zero_iff.1 (by simpa using chars)
  have size := congrArg ByteArray.size stands
  rw [ByteArray.size_extract] at size
  omega

theorem folding_modes (insensitive : options.caseSensitive = false) : (modes options).Folds where
  caseInsensitive := by
    rw [modes, insensitive]
    rfl
  unicode := rfl

/-- A text that is taken literally where case does not matter is refused for its size at most. -/
theorem compile_insensitive (nonempty : text ≠ "") (insensitive : options.caseSensitive = false)
    (literal : takesLiterally text options) :
    compile text options =
      if (Regex.folded text.toList).tooLarge then
        .error (.invalidPattern text (Regex.CompileError.tooLarge.message (Regex.escape text)))
      else .ok ⟨text, .regex (.ofExpr (Regex.folded text.toList))⟩ := by
  have some : text.isEmpty = false := by simpa using nonempty
  have chars : text.toList ≠ [] := by simpa using nonempty
  have compiled := Regex.compile_folded (folding_modes insensitive) (.escape text) chars
  by_cases large : (Regex.folded text.toList).tooLarge
  · rw [if_pos large] at compiled ⊢
    simp only [compile, some, literal, insensitive, Bool.and_false, Bool.false_eq_true, if_false,
      if_true, compiled]
  · rw [if_neg large] at compiled ⊢
    simp only [compile, some, literal, insensitive, Bool.and_false, Bool.false_eq_true, if_false,
      if_true, compiled]

/-- The match of a text in any case is the variant of it that begins first. -/
theorem findAt_folded_iff (nonempty : text ≠ "") {start : Nat} {s : Span} :
    findAt ⟨text, .regex (.ofExpr (Regex.folded text.toList))⟩ h start = some s ↔
      start ≤ s.start ∧ VariantAt text h s.start s.stop ∧
        ∀ q stop, start ≤ q → q < s.start → ¬ VariantAt text h q stop := by
  have chars : text.toList ≠ [] := by simpa using nonempty
  have nothing (q : Nat) :
      Regex.Step.passAll h ((text.toList.map Regex.foldedChar).flatMap Regex.Expr.steps) q = none ↔
        ∀ stop, ¬ VariantAt text h q stop := by
    simp only [← passAll_eq_some_iff, Option.eq_none_iff_forall_ne_some, ne_eq]
  simp only [findAt]
  by_cases beyond : h.size < start
  · rw [if_pos beyond]
    constructor
    · intro none
      cases none
    · rintro ⟨le, variant, -⟩
      have := variant.lt_size nonempty
      omega
  · rw [if_neg beyond, Regex.search_folded chars, Finder.firstFrom_eq_some_iff, passAll_eq_some_iff]
    constructor
    · rintro ⟨le, -, variant, first⟩
      exact ⟨le, variant, fun q stop from_le before => (nothing q).1 (first q from_le before) stop⟩
    · rintro ⟨le, variant, first⟩
      have := variant.lt_size nonempty
      exact ⟨le, by omega, variant, fun q from_le before =>
        (nothing q).2 fun stop => first q stop from_le before⟩

/-- Where case does not matter, a text that is taken literally is refused for the size of its
regular expression at most.  It is found at the first place from which a text stands that differs
from it in case only, and ends where this one does; so it is found where it stands as it is.  The
signs of the text do not matter. -/
theorem findAt_insensitive (nonempty : text ≠ "") (insensitive : options.caseSensitive = false)
    (literal : takesLiterally text options) :
    (Regex.compile (modes options) (Regex.escape text) = .error .tooLarge ∧
      compile text options =
        .error (.invalidPattern text (Regex.CompileError.tooLarge.message (Regex.escape text)))) ∨
      ∃ p, compile text options = .ok p ∧
        (∀ h start s, p.findAt h start = some s ↔
          start ≤ s.start ∧ VariantAt text h s.start s.stop ∧
            ∀ q stop, start ≤ q → q < s.start → ¬ VariantAt text h q stop) ∧
          ∀ h i, h.extract i (i + text.toUTF8.size) = text.toUTF8 →
            p.findAt h i = some ⟨i, i + text.toUTF8.size⟩ := by
  have compiled := compile_insensitive nonempty insensitive literal
  have chars : text.toList ≠ [] := by simpa using nonempty
  by_cases large : (Regex.folded text.toList).tooLarge
  · rw [if_pos large] at compiled
    refine .inl ⟨?_, compiled⟩
    rw [Regex.compile_folded (folding_modes insensitive) (.escape text) chars, if_pos large]
  · rw [if_neg large] at compiled
    refine .inr ⟨_, compiled, fun h start s => findAt_folded_iff nonempty, fun h i stands => ?_⟩
    have here : VariantAt text h i (i + text.toUTF8.size) := ⟨text, .refl _, rfl, stands⟩
    exact (findAt_folded_iff nonempty).2
      ⟨Nat.le_refl i, here, fun q stop le lt => absurd le (Nat.not_le.2 lt)⟩

/-! ## A character of three cases -/

set_option maxRecDepth 100000 in
/-- The only orbit of `K` has the Kelvin sign. -/
theorem orbits_K : Unicode.caseOrbits.filter (·.contains 0x4B) = [[0x4B, 0x6B, 0x212A]] := by
  refine Unicode.caseOrbits_of_chars
    (P := fun orbits => orbits.filter (·.contains 0x4B) = [[0x4B, 0x6B, 0x212A]]) ⟨?_, ?_, ?_⟩
  rotate_left
  · unfold Unicode.Table.caseOrbits
    with_reducible rfl
  · decide +kernel

theorem mem_caseOrbits_K : [0x4B, 0x6B, 0x212A] ∈ Unicode.caseOrbits :=
  List.mem_of_mem_filter (by rw [orbits_K]; exact List.mem_singleton.2 rfl)

/-- The characters that `K` stands for. -/
def casesOfK : IntervalSet := ⟨[⟨0x4B, 0x4B⟩, ⟨0x6B, 0x6B⟩, ⟨0x212A, 0x212A⟩]⟩

theorem foldCase_K : (IntervalSet.singleton 0x4B).foldCase = casesOfK := by
  have same : (fun o : List Nat => o.any (IntervalSet.singleton 0x4B).contains) =
      (·.contains 0x4B) := by
    funext o
    rw [Bool.eq_iff_iff, List.any_eq_true, List.contains_iff_mem]
    simp only [IntervalSet.contains_singleton, exists_eq_right]
  rw [IntervalSet.foldCase, same, orbits_K, IntervalSet.ofIntervals, List.mergeSort_of_pairwise]
  · rfl
  · decide

theorem folded_K : Regex.folded ['K'] = .set (.chars casesOfK) := by
  have several : Unicode.hasCaseVariant 0x4B = true :=
    List.any_eq_true.2 ⟨_, mem_caseOrbits_K, by decide⟩
  have code : 'K'.toNat = 0x4B := rfl
  have char : Regex.foldedChar 'K' = .set (.chars casesOfK) := by
    rw [Regex.foldedChar, code, several, if_pos rfl, foldCase_K]
    rfl
  rw [Regex.folded, List.map_singleton, (Regex.isSteps_foldedChar 'K').seq_singleton, char]

/-- The text `K` is found where the Kelvin sign stands, which has three bytes. -/
theorem findAt_insensitive_kelvin :
    let options : PatternOptions := { caseSensitive := false }
    "K" ≠ "" ∧ options.caseSensitive = false ∧ takesLiterally "K" options ∧
      ∃ p, compile "K" options = .ok p ∧ p.findAt "\u212A!".toUTF8 0 = some ⟨0, 3⟩ := by
  intro options
  have literal : takesLiterally "K" options := by decide
  refine ⟨by decide, rfl, literal, ?_⟩
  rcases findAt_insensitive (by decide) rfl literal with ⟨large, -⟩ | ⟨p, compiled, finds, -⟩
  · have chars : "K".toList = ['K'] := rfl
    have small : (Regex.folded "K".toList).tooLarge = false := by
      rw [chars, folded_K]
      decide +kernel
    rw [Regex.compile_folded (folding_modes rfl) (.escape "K") (List.cons_ne_nil _ _), small]
      at large
    cases large
  · have variant : CaseVariant 0x4B 0x212A := .inr ⟨_, mem_caseOrbits_K, by decide, by decide⟩
    have here : VariantAt "K" "\u212A!".toUTF8 0 3 :=
      ⟨"\u212A", .cons variant .nil, by decide, by decide⟩
    exact ⟨p, compiled, (finds _ _ _).2
      ⟨Nat.le_refl 0, here, fun q stop _ lt => absurd lt (Nat.not_lt_zero q)⟩⟩

end FileSearch.Pattern
