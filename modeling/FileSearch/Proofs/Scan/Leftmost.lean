import FileSearch.Proofs.Scan.Walk

/-!
# Walks of finders that find the first match

A walk reports the first match at or after its position, except an empty one at the end of the match
before.  `freshStop` is the end of the match at a place that a walk may report there, and
`next_eq_some_iff` says that the next match of a walk is the first of those.  So the position of a
walk may be moved past places at which there is nothing to report (`FindsFirst.next_skip`).
-/

namespace FileSearch.Finder

/-- The match that begins first among the `count` places from `i` on. -/
def firstFrom (stopAt : Nat → Option Nat) : Nat → Nat → Option Span
  | 0, _ => none
  | count + 1, i =>
    match stopAt i with
    | some e => some ⟨i, e⟩
    | none => firstFrom stopAt count (i + 1)

theorem firstFrom_eq_some_iff {stopAt : Nat → Option Nat} {count i : Nat} {s : Span} :
    firstFrom stopAt count i = some s ↔
      i ≤ s.start ∧ s.start < i + count ∧ stopAt s.start = some s.stop ∧
        ∀ q, i ≤ q → q < s.start → stopAt q = none := by
  induction count generalizing i with
  | zero =>
    simp only [firstFrom, reduceCtorEq, false_iff]
    omega
  | succ count ih =>
    unfold firstFrom
    rcases here : stopAt i with _ | e
    · simp only [ih]
      constructor
      · rintro ⟨le, lt, stop, first⟩
        refine ⟨by omega, by omega, stop, fun q hq hqs => ?_⟩
        rcases Nat.eq_or_lt_of_le hq with rfl | hlt
        · exact here
        · exact first q hlt hqs
      · rintro ⟨le, lt, stop, first⟩
        have : i ≠ s.start := by
          rintro rfl
          simp [here] at stop
        exact ⟨by omega, by omega, stop, fun q hq => first q (by omega)⟩
    · simp only [Option.some.injEq]
      constructor
      · rintro rfl
        exact ⟨Nat.le_refl _, Nat.lt_add_of_pos_right (Nat.succ_pos _), here,
          fun q hq hqs => absurd hqs (Nat.not_lt.2 hq)⟩
      · rintro ⟨le, -, stop, first⟩
        have start_eq : i = s.start := by
          refine Nat.le_antisymm le (Nat.le_of_not_lt fun hlt => ?_)
          have := first i (Nat.le_refl _) hlt
          simp [here] at this
        have stop_eq : e = s.stop := by
          rw [← start_eq, here] at stop
          exact Option.some.inj stop
        rw [start_eq, stop_eq]

/-- The end of the match at a place, unless the match is empty and the match before ends there. -/
def freshStop (stopAt : ByteArray → Nat → Option Nat) (h : ByteArray) (lastEnd : Option Nat)
    (i : Nat) : Option Nat :=
  (stopAt h i).filter fun e => !(e == i && lastEnd == some i)

/-- A match that a walk may report, with none before it. -/
structure IsNext (stopAt : ByteArray → Nat → Option Nat) (h : ByteArray) (r : Resume) (s : Span) :
    Prop where
  pos_le : r.pos ≤ s.start
  fresh : freshStop stopAt h r.lastEnd s.start = some s.stop
  first : ∀ q, r.pos ≤ q → q < s.start → freshStop stopAt h r.lastEnd q = none

variable {f : Finder} {stopAt : ByteArray → Nat → Option Nat} {h : ByteArray} {r : Resume}
  {s t : Span}

theorem freshStop_eq_some_iff {lastEnd : Option Nat} {i e : Nat} :
    freshStop stopAt h lastEnd i = some e ↔ stopAt h i = some e ∧ ¬(e = i ∧ lastEnd = some i) := by
  simp only [freshStop, Option.filter_eq_some_iff, Bool.not_eq_true', ← Bool.not_eq_true,
    Bool.and_eq_true, beq_iff_eq]

theorem freshStop_of_none {i : Nat} (hi : stopAt h i = none) (lastEnd : Option Nat) :
    freshStop stopAt h lastEnd i = none := by
  simp [freshStop, hi]

theorem IsNext.unique (hs : IsNext stopAt h r s) (ht : IsNext stopAt h r t) : s = t := by
  have start_eq : s.start = t.start := by
    rcases Nat.lt_trichotomy s.start t.start with hlt | he | hlt
    · have := ht.first s.start hs.pos_le hlt
      simp [hs.fresh] at this
    · exact he
    · have := hs.first t.start ht.pos_le hlt
      simp [ht.fresh] at this
  have stop_eq : some s.stop = some t.stop := by rw [← hs.fresh, ← ht.fresh, start_eq]
  cases s
  cases t
  simp_all

theorem FindsFirst.stopAt_eq_none (hf : f.FindsFirst stopAt) {p : Nat} (hp : f.find h p = none) :
    ∀ q, p ≤ q → stopAt h q = none := by
  intro q
  -- The first place with a match would have been found.
  induction q using Nat.strongRecOn with
  | ind q ih =>
    intro hq
    rcases he : stopAt h q with _ | e
    · rfl
    · have : f.find h p = some ⟨q, e⟩ := (hf h p ⟨q, e⟩).2 ⟨hq, he, fun i hi hiq => ih i hiq hi⟩
      simp [hp] at this

/-- An empty match that is passed over leaves nothing to report up to its place. -/
theorem FindsFirst.freshStop_of_passed (hf : f.FindsFirst stopAt) (ht : f.find h r.pos = some t)
    (empty : t.start = t.stop) (last : r.lastEnd = some t.stop) {q : Nat} (hq : r.pos ≤ q)
    (after : t.stop + 1 ≤ q → stopAt h q = none) : freshStop stopAt h r.lastEnd q = none := by
  obtain ⟨-, ht₂, ht₃⟩ := (hf h r.pos t).1 ht
  rcases Nat.lt_trichotomy q t.start with hlt | rfl | hlt
  · exact freshStop_of_none (ht₃ q hq hlt) _
  · rw [freshStop, ht₂, last, empty]
    simp
  · exact freshStop_of_none (after (by omega)) _

theorem FindsFirst.isNext (hf : f.FindsFirst stopAt) (hs : f.next h r = some s) :
    IsNext stopAt h r s := by
  unfold Finder.next at hs
  rcases ht : f.find h r.pos with _ | t
  · simp [ht] at hs
  · obtain ⟨h₁, h₂, h₃⟩ := (hf h r.pos t).1 ht
    simp only [ht, Span.isEmpty, Bool.and_eq_true, beq_iff_eq] at hs
    split at hs
    · rename_i passed
      obtain ⟨hs₁, hs₂, hs₃⟩ := (hf h (t.stop + 1) s).1 hs
      refine ⟨by omega, freshStop_eq_some_iff.2 ⟨hs₂, ?_⟩, fun q hq hqs => ?_⟩
      · rintro ⟨-, hl⟩
        have : t.stop = s.start := Option.some.inj (passed.2.symm.trans hl)
        omega
      · exact hf.freshStop_of_passed ht passed.1 passed.2 hq fun hlt => hs₃ q hlt hqs
    · rename_i reported
      obtain rfl := Option.some.inj hs
      refine ⟨h₁, freshStop_eq_some_iff.2 ⟨h₂, ?_⟩, fun q hq hqt => ?_⟩
      · rintro ⟨e₁, e₂⟩
        exact reported ⟨e₁.symm, e₁ ▸ e₂⟩
      · exact freshStop_of_none (h₃ q hq hqt) _

theorem FindsFirst.freshStop_eq_none (hf : f.FindsFirst stopAt) (hs : f.next h r = none) :
    ∀ q, r.pos ≤ q → freshStop stopAt h r.lastEnd q = none := by
  intro q hq
  unfold Finder.next at hs
  rcases ht : f.find h r.pos with _ | t
  · exact freshStop_of_none (hf.stopAt_eq_none ht q hq) _
  · simp only [ht, Span.isEmpty, Bool.and_eq_true, beq_iff_eq] at hs
    split at hs
    · rename_i passed
      exact hf.freshStop_of_passed ht passed.1 passed.2 hq (hf.stopAt_eq_none hs q)
    · cases hs

/-- The next match of a walk is the first one that it may report. -/
theorem FindsFirst.next_eq_some_iff (hf : f.FindsFirst stopAt) :
    f.next h r = some s ↔ IsNext stopAt h r s := by
  constructor
  · exact hf.isNext
  · intro hs
    rcases ht : f.next h r with _ | t
    · have := hf.freshStop_eq_none ht s.start hs.pos_le
      simp [hs.fresh] at this
    · rw [(hf.isNext ht).unique hs]

theorem FindsFirst.next_eq_none_iff (hf : f.FindsFirst stopAt) :
    f.next h r = none ↔ ∀ q, r.pos ≤ q → freshStop stopAt h r.lastEnd q = none := by
  refine ⟨hf.freshStop_eq_none, fun none_fresh => ?_⟩
  rcases hs : f.next h r with _ | s
  · rfl
  · have hs := hf.isNext hs
    have := none_fresh s.start hs.pos_le
    simp [hs.fresh] at this

/-- A walk may go on behind places at which it has nothing to report. -/
theorem FindsFirst.next_skip (hf : f.FindsFirst stopAt) {p : Nat} (hp : r.pos ≤ p)
    (skip : ∀ q, r.pos ≤ q → q < p → freshStop stopAt h r.lastEnd q = none) :
    f.next h ⟨p, r.lastEnd⟩ = f.next h r := by
  rcases hs : f.next h r with _ | s
  · rw [hf.next_eq_none_iff] at hs ⊢
    exact fun q hq => hs q (Nat.le_trans hp hq)
  · rw [hf.next_eq_some_iff] at hs ⊢
    have : p ≤ s.start := by
      refine Nat.le_of_not_lt fun hlt => ?_
      have := skip s.start hs.pos_le hlt
      simp [hs.fresh] at this
    exact ⟨this, hs.fresh, fun q hq => hs.first q (Nat.le_trans hp hq)⟩

end FileSearch.Finder
