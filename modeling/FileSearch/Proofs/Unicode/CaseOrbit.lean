import FileSearch.Proofs.Unicode.IntervalSet
import FileSearch.Unicode.CaseOrbit

/-!
# Case variants

Closing the set of one character under folding gives its case variants
(`contains_foldCase_singleton`).  A character in no orbit is its only variant
(`caseVariant_of_not_hasCaseVariant`).
-/

namespace FileSearch.Unicode

/-! ## Orbits -/

/-- What holds of the groups read from the characters of the table holds of the orbits. -/
theorem caseOrbits_of_chars {P : List (List Nat) → Prop}
    (read : ∃ cs, Table.caseOrbits = String.ofList cs ∧ P (readGroups cs [] none)) :
    P caseOrbits := by
  obtain ⟨cs, chars, holds⟩ := read
  rwa [caseOrbits, chars, String.toList_ofList]

/-! ## Variants -/

theorem CaseVariant.refl (c : Nat) : CaseVariant c c := .inl rfl

theorem caseVariant_of_not_hasCaseVariant {c x : Nat} (alone : hasCaseVariant c = false) :
    CaseVariant c x ↔ x = c := by
  constructor
  · rintro (same | ⟨o, mem, here, -⟩)
    · exact same.symm
    · have somewhere : hasCaseVariant c = true :=
        List.any_eq_true.2 ⟨o, mem, List.contains_iff_mem.2 here⟩
      rw [alone] at somewhere
      cases somewhere
  · rintro rfl
    exact .refl x

namespace IntervalSet

theorem contains_singleton {c x : Nat} : (singleton c).contains x = true ↔ x = c := by
  simp only [contains, singleton, contains.go]
  grind

/-- The characters that fold to a character. -/
theorem contains_foldCase_singleton {c x : Nat} :
    (singleton c).foldCase.contains x = true ↔ CaseVariant c x := by
  have point (n : Nat) : Interval.Holds ⟨n, n⟩ x ↔ n = x :=
    ⟨fun holds => Nat.le_antisymm holds.1 holds.2,
      fun same => ⟨Nat.le_of_eq same, Nat.le_of_eq same.symm⟩⟩
  have shares (o : List Nat) : o.any (singleton c).contains = true ↔ c ∈ o := by
    simp only [List.any_eq_true, contains_singleton, exists_eq_right]
  simp only [foldCase, contains_ofIntervals, List.mem_append, List.mem_flatMap, List.mem_filter,
    List.mem_map, shares]
  constructor
  · rintro ⟨i, alone | ⟨o, ⟨mem, here⟩, y, there, rfl⟩, holds⟩
    · obtain rfl := List.mem_singleton.1 alone
      exact .inl ((point c).1 holds)
    · obtain rfl := (point y).1 holds
      exact .inr ⟨o, mem, here, there⟩
  · rintro (rfl | ⟨o, mem, here, there⟩)
    · exact ⟨_, .inl (List.mem_singleton.2 rfl), (point c).2 rfl⟩
    · exact ⟨⟨x, x⟩, .inr ⟨o, ⟨mem, here⟩, x, there, rfl⟩, (point x).2 rfl⟩

end IntervalSet

end FileSearch.Unicode
