import FileSearch.Unicode.IntervalSet

/-!
# Membership in sets of intervals

Reading a set from its lowest interval on answers whether a number lies in one of its intervals,
since `ofIntervals` sorts them (`contains_ofIntervals`); in particular a union contains what its
parts contain.
-/

namespace FileSearch.Unicode

/-- Whether a number lies in an interval. -/
def Interval.Holds (i : Interval) (n : Nat) : Prop := i.lo ≤ n ∧ n ≤ i.hi

namespace IntervalSet

/-- The intervals begin one after another. -/
def Ascending (is : List Interval) : Prop := is.Pairwise fun a b => a.lo ≤ b.lo

theorem exists_holds_cons {a : Interval} {rest : List Interval} {n : Nat} :
    (∃ i ∈ a :: rest, i.Holds n) ↔ a.Holds n ∨ ∃ i ∈ rest, i.Holds n := by
  simp only [List.mem_cons, exists_eq_or_imp]

/-- Joining loses and adds no number. -/
theorem contains_go_join {cur : Interval} {rest : List Interval}
    (ascending : Ascending (cur :: rest)) (n : Nat) :
    contains.go n (join.go cur rest) = true ↔ cur.Holds n ∨ ∃ i ∈ rest, i.Holds n := by
  induction rest generalizing cur with
  | nil =>
    rw [join.go, contains.go, contains.go]
    constructor
    · grind [Interval.Holds]
    · grind [Interval.Holds]
  | cons b rest ih =>
    obtain ⟨le, later⟩ := List.pairwise_cons.1 ascending
    obtain ⟨next, tail⟩ := List.pairwise_cons.1 later
    have first : cur.lo ≤ b.lo := le b List.mem_cons_self
    rw [exists_holds_cons, join.go]
    split
    case isTrue touches =>
      have joined : Ascending (⟨cur.lo, max cur.hi b.hi⟩ :: rest) :=
        List.pairwise_cons.2 ⟨fun i mem => le i (List.mem_cons_of_mem _ mem), tail⟩
      have both : Interval.Holds ⟨cur.lo, max cur.hi b.hi⟩ n ↔ cur.Holds n ∨ b.Holds n := by
        unfold Interval.Holds
        show cur.lo ≤ n ∧ n ≤ max cur.hi b.hi ↔ _
        omega
      rw [ih joined, both, or_assoc]
    case isFalse apart =>
      rw [contains.go]
      by_cases below : n < cur.lo
      · have none : ∀ i ∈ cur :: b :: rest, ¬ i.Holds n := by
          intro i mem holds
          have start : cur.lo ≤ i.lo := by
            rcases List.mem_cons.1 mem with rfl | mem
            · exact Nat.le_refl _
            · exact le i mem
          exact absurd (Nat.le_trans start holds.1) (Nat.not_le.2 below)
        rw [if_pos below]
        constructor
        · intro no
          cases no
        · rintro (holds | holds | ⟨i, mem, holds⟩)
          · exact absurd holds (none cur List.mem_cons_self)
          · exact absurd holds (none b (List.mem_cons_of_mem _ List.mem_cons_self))
          · exact absurd holds (none i (List.mem_cons_of_mem _ (List.mem_cons_of_mem _ mem)))
      · rw [if_neg below]
        by_cases inside : n ≤ cur.hi
        · rw [if_pos inside]
          exact ⟨fun _ => .inl ⟨Nat.le_of_not_lt below, inside⟩, fun _ => rfl⟩
        · have outside : ¬ cur.Holds n := fun holds => inside holds.2
          rw [if_neg inside, ih later, or_iff_right outside]

/-- A set of intervals contains the numbers of the intervals. -/
theorem contains_ofIntervals (is : List Interval) (n : Nat) :
    (ofIntervals is).contains n = true ↔ ∃ i ∈ is, i.Holds n := by
  let le (a b : Interval) : Bool := a.lo < b.lo || (a.lo == b.lo && a.hi ≤ b.hi)
  have trans : ∀ a b c, le a b → le b c → le a c := by
    simp only [le, Bool.or_eq_true, Bool.and_eq_true, decide_eq_true_iff, beq_iff_eq]
    omega
  have total : ∀ a b, le a b || le b a := by
    intro a b
    simp only [le, Bool.or_eq_true, Bool.and_eq_true, decide_eq_true_iff, beq_iff_eq]
    omega
  have ascending : Ascending (is.mergeSort le) := by
    refine (List.pairwise_mergeSort trans total is).imp ?_
    simp only [le, Bool.or_eq_true, Bool.and_eq_true, decide_eq_true_iff, beq_iff_eq]
    omega
  have same : (∃ i ∈ is, i.Holds n) ↔ ∃ i ∈ is.mergeSort le, i.Holds n := by
    simp only [List.mem_mergeSort]
  rw [same]
  show contains.go n (join (is.mergeSort le)) = true ↔ _
  generalize is.mergeSort le = sorted at ascending
  cases sorted with
  | nil => exact ⟨nofun, nofun⟩
  | cons cur rest => rw [join, contains_go_join ascending, exists_holds_cons]

theorem exists_holds_of_contains {s : IntervalSet} {n : Nat} (inside : s.contains n = true) :
    ∃ i ∈ s.intervals, i.Holds n := by
  unfold contains at inside
  generalize s.intervals = is at inside ⊢
  induction is with
  | nil => cases inside
  | cons i rest ih =>
    rw [exists_holds_cons]
    rw [contains.go] at inside
    split at inside
    · cases inside
    · split at inside
      · exact .inl ⟨Nat.le_of_not_lt (by assumption), by assumption⟩
      · exact .inr (ih inside)

/-- A union contains what its parts contain. -/
theorem contains_unions {ss : List IntervalSet} {s : IntervalSet} {n : Nat} (mem : s ∈ ss)
    (inside : s.contains n = true) : (unions ss).contains n = true := by
  obtain ⟨i, part, holds⟩ := exists_holds_of_contains inside
  exact (contains_ofIntervals _ n).2 ⟨i, List.mem_flatMap.2 ⟨s, mem, part⟩, holds⟩

end IntervalSet

end FileSearch.Unicode
