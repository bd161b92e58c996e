import Mathlib.Algebra.BigOperators.Group.List.Basic
import Mathlib.Data.List.Nodup
import FileSearch.Result.Collection

/-!
# Outputs in the order of their paths

Paths are in the order of their bytes, taken as a whole (`Path.le_iff`), and skipped paths in that
of their path and then of their reason (`SkippedPath.le_iff_precedes`).  Both orders tell any two
apart, so that a sorted output depends on what has been gathered, and not on the order in which it
came, if no two results have one path (`Collection.output_eq_of_perm`).
-/

namespace FileSearch

/-- Sorting forgets the order of a list if no two of its members stand in one place. -/
theorem mergeSort_eq_of_perm {α : Type} {le : α → α → Bool} {l l' : List α}
    (trans : ∀ a b c, le a b → le b c → le a c) (total : ∀ a b, le a b || le b a)
    (antisymm : ∀ a ∈ l, ∀ b ∈ l, le a b → le b a → a = b) (perm : l.Perm l') :
    l.mergeSort le = l'.mergeSort le := by
  have sorted : (l.mergeSort le).Perm (l'.mergeSort le) :=
    (List.mergeSort_perm l le).trans (perm.trans (List.mergeSort_perm l' le).symm)
  refine sorted.eq_of_pairwise (fun a b ha hb => ?_) (List.pairwise_mergeSort trans total l)
    (List.pairwise_mergeSort trans total l')
  refine antisymm a (List.mem_mergeSort.1 ha) b ?_
  exact perm.mem_iff.2 (List.mem_mergeSort.1 hb)

/-! ## Paths -/

namespace Path

theorem bytesLe_iff {a b : List UInt8} : bytesLe a b ↔ a ≤ b := by
  fun_induction bytesLe a b with
  | case1 => simp
  | case2 => simp
  | case3 a as b bs ih => simp [List.cons_le_cons_iff, ih]

/-- Paths are compared as byte strings. -/
theorem le_iff {p q : Path} : p.le q ↔ p.data.toList ≤ q.data.toList := bytesLe_iff

theorem le_trans {p q r : Path} (hpq : p.le q) (hqr : q.le r) : p.le r := by
  rw [le_iff] at hpq hqr ⊢
  exact List.le_trans hpq hqr

theorem le_total (p q : Path) : p.le q || q.le p := by
  rw [Bool.or_eq_true, le_iff, le_iff]
  exact List.le_total _ _

theorem eq_of_toList_eq {p q : Path} (same : p.data.toList = q.data.toList) : p = q :=
  ByteArray.ext (Array.toList_inj.1 same)

theorem le_antisymm {p q : Path} (hpq : p.le q) (hqp : q.le p) : p = q := by
  rw [le_iff] at hpq hqp
  exact eq_of_toList_eq (List.le_antisymm hpq hqp)

theorem lt_of_le_of_ne {p q : Path} (hpq : p.le q) (ne : p ≠ q) :
    p.data.toList < q.data.toList := by
  rw [le_iff, List.le_iff_lt_or_eq] at hpq
  exact hpq.resolve_right fun same => ne (eq_of_toList_eq same)

end Path

/-! ## Skipped paths -/

namespace SkippedPath

/-- The order of skipped paths: a missing path comes first, then the bytes of the paths decide, and
for one path the reasons. -/
inductive Precedes : SkippedPath → SkippedPath → Prop where
  | missing {r s : String} {q : Path} : Precedes ⟨none, r⟩ ⟨some q, s⟩
  | path {r s : String} {p q : Path} :
    p.data.toList < q.data.toList → Precedes ⟨some p, r⟩ ⟨some q, s⟩
  | reason {r s : String} {path : Option Path} : r ≤ s → Precedes ⟨path, r⟩ ⟨path, s⟩

theorem le_iff_precedes {a b : SkippedPath} : a.le b ↔ a.Precedes b := by
  constructor
  · intro h
    obtain ⟨p, r⟩ := a
    obtain ⟨q, s⟩ := b
    rcases p with _ | p <;> rcases q with _ | q
    · exact .reason (of_decide_eq_true h)
    · exact .missing
    · cases h
    · by_cases same : p = q
      · subst same
        simp only [le, if_true] at h
        exact .reason (of_decide_eq_true h)
      · simp only [le, same, if_false] at h
        exact .path (Path.lt_of_le_of_ne h same)
  · rintro (_ | lt | reason)
    · rfl
    · rename_i p q
      have ne : p ≠ q := by
        rintro rfl
        exact List.lt_irrefl _ lt
      simp only [le, ne, if_false]
      exact Path.le_iff.2 (List.le_of_lt lt)
    · rename_i path
      cases path <;> simp [le, reason]

theorem le_trans {a b c : SkippedPath} (hab : a.le b) (hbc : b.le c) : a.le c := by
  rw [le_iff_precedes] at hab hbc ⊢
  cases hab with
  | missing =>
    cases hbc with
    | path | reason => exact .missing
  | path lt =>
    cases hbc with
    | path lt' => exact .path (List.lt_trans lt lt')
    | reason => exact .path lt
  | reason le =>
    cases hbc with
    | missing => exact .missing
    | path lt => exact .path lt
    | reason le' => exact .reason (String.le_trans le le')

theorem le_total (a b : SkippedPath) : a.le b || b.le a := by
  obtain ⟨p, r⟩ := a
  obtain ⟨q, s⟩ := b
  rcases p with _ | p <;> rcases q with _ | q
  · simpa [le] using String.le_total r s
  · rfl
  · rfl
  · by_cases same : p = q
    · subst same
      simpa [le] using String.le_total r s
    · simpa [le, same, Ne.symm same] using Path.le_total p q

theorem le_antisymm {a b : SkippedPath} (hab : a.le b) (hba : b.le a) : a = b := by
  rw [le_iff_precedes] at hab hba
  cases hab with
  | missing => cases hba
  | path lt =>
    cases hba with
    | path lt' => exact absurd lt' (List.lt_asymm lt)
    | reason => exact absurd lt (List.lt_irrefl _)
  | reason le =>
    cases hba with
    | path lt => exact absurd lt (List.lt_irrefl _)
    | reason le' => rw [String.le_antisymm le le']

end SkippedPath

/-! ## Outputs -/

namespace Collection

variable {c d : Collection} {stats : Stats}

theorem results_output_of_sorted (sorted : c.sorted = true) :
    (c.output stats).results = c.results.mergeSort fun a b => a.file.path.le b.file.path := by
  rw [output, if_pos sorted]
  rfl

theorem warnings_output_of_sorted (sorted : c.sorted = true) :
    (c.output stats).warnings = c.warnings.mergeSort SkippedPath.le := by
  rw [output, if_pos sorted]
  rfl

/-- The results are in the order of the bytes of their paths. -/
theorem pairwise_results_output (sorted : c.sorted = true)
    (distinct : (c.results.map (·.file.path)).Nodup) :
    ((c.output stats).results.map (·.file.path.data.toList)).Pairwise (· < ·) := by
  rw [results_output_of_sorted sorted, List.pairwise_map]
  have ordered : (c.results.mergeSort fun a b => a.file.path.le b.file.path).Pairwise
      fun a b => a.file.path.le b.file.path := by
    apply List.pairwise_mergeSort
    · exact fun _ _ _ => Path.le_trans
    · exact fun _ _ => Path.le_total _ _
  have apart : (c.results.mergeSort fun a b => a.file.path.le b.file.path).Pairwise
      fun a b => a.file.path ≠ b.file.path := by
    rw [← List.pairwise_map]
    exact ((List.mergeSort_perm _ _).map _).nodup_iff.2 distinct
  exact (ordered.and apart).imp fun ⟨le, ne⟩ => Path.lt_of_le_of_ne le ne

theorem pairwise_warnings_output (sorted : c.sorted = true) :
    (c.output stats).warnings.Pairwise SkippedPath.Precedes := by
  rw [warnings_output_of_sorted sorted]
  have ordered : (c.warnings.mergeSort SkippedPath.le).Pairwise fun a b => a.le b := by
    apply List.pairwise_mergeSort
    · exact fun _ _ _ => SkippedPath.le_trans
    · exact SkippedPath.le_total
  exact ordered.imp SkippedPath.le_iff_precedes.1

/-- A sorted output depends on what has been gathered only. -/
theorem output_eq_of_perm (sorted : c.sorted = true) (sorted' : d.sorted = true)
    (results : c.results.Perm d.results) (distinct : (c.results.map (·.file.path)).Nodup)
    (warnings : c.warnings.Perm d.warnings) (timedOut : c.timedOut = d.timedOut) :
    c.output stats = d.output stats := by
  rw [output, output, if_pos sorted, if_pos sorted']
  simp only [Output.sorted, unsorted, Output.mk.injEq, timedOut, true_and, and_true]
  refine ⟨(results.map _).sum_eq, ?_, ?_⟩
  · refine mergeSort_eq_of_perm (fun _ _ _ => Path.le_trans)
      (fun _ _ => Path.le_total _ _) (fun a ha b hb le ge => ?_) results
    exact List.inj_on_of_nodup_map distinct ha hb (Path.le_antisymm le ge)
  · exact mergeSort_eq_of_perm (fun _ _ _ => SkippedPath.le_trans) SkippedPath.le_total
      (fun _ _ _ _ => SkippedPath.le_antisymm) warnings

end Collection

end FileSearch
