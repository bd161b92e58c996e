import Mathlib.Data.List.Forall2
import FileSearch.Proofs.Pattern.Bounds
import FileSearch.Proofs.Regex.Literal
import FileSearch.Proofs.Unicode.CaseOrbit

/-!
# Patterns that mean a text in any case

Where case does not matter, a pattern that spells a text means one set or literal for each character
(`compile_folded`).  The steps of a character pass its case variants, each as UTF-8 writes it
(`passAll_foldedChar`), so those of the text pass every text that differs from it in case only
(`passAll_folded`).
-/

namespace FileSearch

open Unicode (CaseVariant IntervalSet)

/-- Two texts have as many characters, and those at the same places are case variants. -/
def CaseVariants (text variant : List Char) : Prop :=
  List.Forall₂ (fun c d => CaseVariant c.toNat d.toNat) text variant

theorem CaseVariants.refl (text : List Char) : CaseVariants text text :=
  List.forall₂_same.2 fun c _ => .refl c.toNat

namespace Regex

/-- Whether literals stand for all case variants of their characters. -/
structure Modes.Folds (m : Modes) : Prop where
  caseInsensitive : m.caseInsensitive = true
  unicode : m.unicode = true

/-- What stands for the case variants of a character. -/
def foldedChar (c : Char) : Expr :=
  if Unicode.hasCaseVariant c.toNat then .member (.chars (IntervalSet.singleton c.toNat).foldCase)
  else .literal (Utf8.encode c)

/-- What stands for all texts that differ from a text in case only. -/
def folded (text : List Char) : Expr := .seq (text.map foldedChar)

variable {m : Modes} {h : ByteArray}

theorem Modes.Folds.literal (hm : m.Folds) (l : Literal) : m.literal l = foldedChar l.char := by
  simp only [Modes.literal, Modes.byteOf?, Modes.memberSet, Modes.fold, hm.unicode,
    hm.caseInsensitive, if_true, Bool.true_and, foldedChar]
  rfl

theorem contains_of_single? {s : IntervalSet} {n : Nat} (single : s.single? = some n) {x : Nat} :
    s.contains x = true ↔ x = n := by
  obtain ⟨intervals⟩ := s
  rcases intervals with _ | ⟨i, _ | ⟨i', rest⟩⟩
  · cases single
  · obtain ⟨one, same⟩ := Option.ite_none_right_eq_some.1 single
    obtain rfl := Option.some.inj same
    simp only [IntervalSet.contains, IntervalSet.contains.go]
    grind
  · cases single

/-- A character stands for itself if it is its only variant, else for the set of its variants. -/
theorem foldedChar_cases (c : Char) :
    foldedChar c = .literal (Utf8.encode c) ∧ (∀ x, CaseVariant c.toNat x ↔ x = c.toNat) ∨
      ∃ s : IntervalSet, foldedChar c = .set (.chars s) ∧
        ∀ x, s.contains x = true ↔ CaseVariant c.toNat x := by
  unfold foldedChar
  split
  case isTrue several =>
    have contains (x : Nat) : (IntervalSet.singleton c.toNat).foldCase.contains x = true ↔
        CaseVariant c.toNat x := IntervalSet.contains_foldCase_singleton
    generalize (IntervalSet.singleton c.toNat).foldCase = s at contains
    have here := (contains c.toNat).2 (.refl _)
    have some : s.isEmpty = false := by
      obtain ⟨_ | ⟨i, rest⟩⟩ := s
      · cases here
      · rfl
    simp only [Expr.member, MemberSet.intervals, some, Bool.false_eq_true, if_false]
    rcases single : s.single? with _ | n
    · exact .inr ⟨s, rfl, contains⟩
    · -- A set of one member has only the character itself.
      obtain rfl : c.toNat = n := (contains_of_single? single).1 here
      exact .inl ⟨rfl, fun x => by rw [← contains, contains_of_single? single]⟩
  case isFalse alone =>
    rw [Bool.not_eq_true] at alone
    exact .inl ⟨rfl, fun x => Unicode.caseVariant_of_not_hasCaseVariant alone⟩

theorem isSteps_foldedChar (c : Char) : (foldedChar c).IsSteps := by
  rcases foldedChar_cases c with ⟨alone, -⟩ | ⟨s, several, -⟩
  · rw [alone]
    obtain ⟨b, bs, encoded, -⟩ := Utf8.encode_cons c []
    exact .literal (by rw [encoded]; exact List.cons_ne_nil b bs)
  · rw [several]
    exact .set _

/-- The steps of a character pass its case variants. -/
theorem passAll_foldedChar {c : Char} {i j : Nat} :
    Step.passAll h (foldedChar c).steps i = some j ↔
      ∃ d : Char, CaseVariant c.toNat d.toNat ∧ Utf8.encode d <+: bytesFrom h i ∧
        i + (Utf8.encode d).length = j := by
  rcases foldedChar_cases c with ⟨alone, only⟩ | ⟨s, several, contains⟩
  · rw [alone, Expr.steps, Step.passAll_bytes]
    constructor
    · rintro ⟨here, ends⟩
      exact ⟨c, .refl _, here, ends⟩
    · rintro ⟨d, variant, here, ends⟩
      obtain rfl : d = c := Char.toNat_inj.1 ((only _).1 variant)
      exact ⟨here, ends⟩
  · have one : Step.passAll h [.set (.chars s)] i = (MemberSet.chars s).pass h i :=
      Option.bind_fun_some _
    rw [several, Expr.steps, one, pass_chars]
    simp only [Utf8.frontAt_eq_char_iff, contains]
    constructor
    · rintro ⟨_, _, ⟨d, rfl, rfl, here⟩, variant, ends⟩
      exact ⟨d, variant, here, ends⟩
    · rintro ⟨d, variant, here, ends⟩
      exact ⟨_, _, ⟨d, rfl, rfl, here⟩, variant, ends⟩

/-- The steps of a text pass all texts that differ from it in case only. -/
theorem passAll_folded {text : List Char} {i j : Nat} :
    Step.passAll h ((text.map foldedChar).flatMap Expr.steps) i = some j ↔
      ∃ variant, CaseVariants text variant ∧ Utf8.encodeAll variant <+: bytesFrom h i ∧
        i + (Utf8.encodeAll variant).length = j := by
  induction text generalizing i with
  | nil =>
    constructor
    · intro same
      exact ⟨[], .nil, List.nil_prefix, Option.some.inj same⟩
    · rintro ⟨variant, variants, -, ends⟩
      cases variants
      exact congrArg some ends
  | cons c text ih =>
    rw [List.map_cons, List.flatMap_cons, Step.passAll_append, Option.bind_eq_some_iff]
    simp only [passAll_foldedChar, ih]
    constructor
    · rintro ⟨_, ⟨d, first, here, rfl⟩, variant, rest, behind, ends⟩
      refine ⟨d :: variant, .cons first rest, ?_, ?_⟩
      · rw [Utf8.encodeAll, List.flatMap_cons, append_prefix_iff, drop_bytesFrom]
        exact ⟨here, behind⟩
      · rw [Utf8.encodeAll, List.flatMap_cons, List.length_append, ← Nat.add_assoc]
        exact ends
    · rintro ⟨variant, variants, stands, ends⟩
      cases variants with
      | @cons _ d _ variant first rest =>
        rw [Utf8.encodeAll, List.flatMap_cons, append_prefix_iff, drop_bytesFrom] at stands
        rw [Utf8.encodeAll, List.flatMap_cons, List.length_append, ← Nat.add_assoc] at ends
        exact ⟨_, ⟨d, first, stands.1, rfl⟩, variant, rest, stands.2, ends⟩

/-- A pattern that spells a text is refused for its size at most. -/
theorem compile_folded (hm : m.Folds) {source : String} {text : List Char}
    (spells : Spells source.toList text) (nonempty : text ≠ []) :
    compile m source =
      if (folded text).tooLarge then .error .tooLarge else .ok (.ofExpr (folded text)) :=
  compile_of_means hm.literal (fun c => (isSteps_foldedChar c).seq_singleton) spells nonempty

/-- The program of a text finds the first place from which a text stands that differs from it in
case only. -/
theorem search_folded {text : List Char} (nonempty : text ≠ []) (h : ByteArray) (start : Nat) :
    (Program.ofExpr (folded text)).search h start =
      Finder.firstFrom (Step.passAll h ((text.map foldedChar).flatMap Expr.steps))
        (h.size + 1 - start) start := by
  refine (Expr.passes_seq (fun e mem => ?_) fun none => nonempty ?_).search h start
  · obtain ⟨c, -, rfl⟩ := List.mem_map.1 mem
    exact isSteps_foldedChar c
  · exact List.map_eq_nil_iff.1 none

end Regex

end FileSearch
