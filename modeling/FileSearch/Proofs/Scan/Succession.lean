import FileSearch.Proofs.Scan.Leftmost

/-!
# One match after another

`Walks` says which matches a walk through a text comes to, search by search: it may pass over an
empty match at the end of the match before, and it ends where a search finds nothing.  If the finder
advances, every walk ends and has at most one match more than bytes to go (`Walks.length_le`), each
match is what a search from the one before finds (`Walks.getElem?_succ`), and a finder that finds
the first match leaves out no match whose first byte is in none that it lists (`Walks.covers`).
-/

namespace FileSearch

namespace Finder

/-- The matches that a walk comes to, search by search. -/
inductive Walks (f : Finder) (h : ByteArray) : Resume → List Span → Prop where
  | ended {r : Resume} : f.find h r.pos = none → Walks f h r []
  | passed {r : Resume} {s : Span} {l : List Span} :
    f.find h r.pos = some s → s.start = s.stop → r.lastEnd = some s.stop →
      Walks f h ⟨s.stop + 1, r.lastEnd⟩ l → Walks f h r l
  | found {r : Resume} {s : Span} {l : List Span} :
    f.find h r.pos = some s → ¬(s.start = s.stop ∧ r.lastEnd = some s.stop) →
      Walks f h (.after s) l → Walks f h r (s :: l)

variable {f : Finder} {h : ByteArray} {r : Resume} {s : Span} {l : List Span}
  {stopAt : ByteArray → Nat → Option Nat}

/-! ## Walks end -/

theorem next_of_none (missing : f.find h r.pos = none) : f.next h r = none := by
  simp only [next, missing]

theorem next_of_passed (found : f.find h r.pos = some s) (empty : s.start = s.stop)
    (last : r.lastEnd = some s.stop) : f.next h r = f.find h (s.stop + 1) := by
  simp only [next, found, Span.isEmpty, empty, last, beq_self_eq_true, Bool.and_self, if_true]

theorem next_of_found (found : f.find h r.pos = some s)
    (fresh : ¬(s.start = s.stop ∧ r.lastEnd = some s.stop)) : f.next h r = some s := by
  have reported : ¬(s.isEmpty && r.lastEnd == some s.stop) = true := by
    simpa only [Span.isEmpty, Bool.and_eq_true, beq_iff_eq] using fresh
  simp only [next, found, if_neg reported]

/-- What is found behind an empty match that is passed over is not passed over. -/
theorem Advances.fresh_of_passed (hf : f.Advances) {t : Span} (last : r.lastEnd = some s.stop)
    (found : f.find h (s.stop + 1) = some t) : ¬(t.start = t.stop ∧ r.lastEnd = some t.stop) := by
  rintro ⟨-, same⟩
  have := hf h (s.stop + 1) t found
  have : s.stop = t.stop := Option.some.inj (last.symm.trans same)
  omega

/-- A walk with room up to the end of the text comes to its end. -/
theorem Advances.walks (hf : f.Advances) {room : Nat} (enough : h.size < room + r.pos) :
    f.Walks h r (f.walk h room r) := by
  induction room generalizing r with
  | zero =>
    rcases found : f.find h r.pos with _ | s
    · exact .ended found
    · have := hf h r.pos s found
      omega
  | succ room ih =>
    -- What follows a match that is reported.
    have onward {start : Nat} {s : Span} (le : r.pos ≤ start) (found : f.find h start = some s) :
        f.Walks h (.after s) (f.walk h room (.after s)) := by
      have := hf h start s found
      have := start_lt_pos_after this.2.1
      exact ih (by omega)
    rcases found : f.find h r.pos with _ | s
    · rw [walk_of_none (next_of_none found)]
      exact .ended found
    · by_cases passed : s.start = s.stop ∧ r.lastEnd = some s.stop
      · obtain ⟨empty, last⟩ := passed
        have le := (hf h r.pos s found).1
        have next_eq := next_of_passed found empty last
        refine .passed found empty last ?_
        rcases found' : f.find h (s.stop + 1) with _ | t
        · rw [walk_of_none (next_eq.trans found')]
          exact .ended found'
        · rw [walk_succ_of_some (next_eq.trans found')]
          exact .found found' (hf.fresh_of_passed last found') (onward (by omega) found')
      · rw [walk_succ_of_some (next_of_found found passed)]
        exact .found found passed (onward (Nat.le_refl _) found)

/-! ## What a walk lists -/

namespace Walks

/-- A walk lists the next match first. -/
theorem head?_eq (hf : f.Advances) (hw : f.Walks h r l) : l.head? = f.next h r := by
  cases hw with
  | ended missing => rw [next_of_none missing, List.head?_nil]
  | passed found empty last rest =>
    rw [next_of_passed found empty last]
    cases rest with
    | ended missing => exact missing.symm
    | passed found' _ last' =>
      exact absurd ⟨by assumption, last'⟩ (hf.fresh_of_passed last found')
    | found found' => exact found'.symm
  | found found fresh => rw [next_of_found found fresh, List.head?_cons]

/-- After each match a walk lists what a search from there finds, and nothing if that is nothing. -/
theorem getElem?_succ (hf : f.Advances) (hw : f.Walks h r l) {i : Nat} (here : l[i]? = some s) :
    l[i + 1]? = f.next h (.after s) := by
  induction hw generalizing i with
  | ended => cases here
  | passed _ _ _ _ ih => exact ih here
  | @found r t l _ _ rest ih =>
    rw [List.getElem?_cons_succ]
    cases i with
    | zero =>
      obtain rfl : t = s := Option.some.inj here
      rw [← rest.head?_eq hf, List.head?_eq_getElem?]
    | succ i => exact ih here

/-- A walk has at most one match for each place from where it stands to the end of the text. -/
theorem length_le (hf : f.Advances) (hw : f.Walks h r l) : l.length ≤ h.size + 1 - r.pos := by
  induction hw with
  | ended => exact Nat.zero_le _
  | @passed r s l found _ _ _ ih =>
    have := hf h r.pos s found
    have ih : l.length ≤ h.size + 1 - (s.stop + 1) := ih
    omega
  | @found r s l found _ _ ih =>
    have := hf h r.pos s found
    have := start_lt_pos_after this.2.1
    rw [List.length_cons]
    omega

/-- A walk never goes back. -/
theorem pos_le (hf : f.Advances) (hw : f.Walks h r l) : ∀ s ∈ l, r.pos ≤ s.start := by
  induction hw with
  | ended => exact fun s mem => absurd mem List.not_mem_nil
  | @passed r t l found _ _ _ ih =>
    intro s mem
    have := hf h r.pos t found
    have : t.stop + 1 ≤ s.start := ih s mem
    omega
  | @found r t l found _ _ ih =>
    intro s mem
    have bounds := hf h r.pos t found
    rcases List.mem_cons.1 mem with rfl | mem
    · exact bounds.1
    · have := start_lt_pos_after bounds.2.1
      have := ih s mem
      omega

/-- The matches of a walk do not overlap. -/
theorem pairwise (hf : f.Advances) (hw : f.Walks h r l) :
    l.Pairwise fun s t => s.stop ≤ t.start := by
  induction hw with
  | ended => exact .nil
  | passed _ _ _ _ ih => exact ih
  | @found r s l _ _ rest ih =>
    refine List.pairwise_cons.2 ⟨fun t mem => ?_, ih⟩
    have after_le := rest.pos_le hf t mem
    have stop_le : s.stop ≤ (Resume.after s).pos := by
      unfold Resume.after
      split
      · exact Nat.le_succ _
      · exact Nat.le_refl _
    exact Nat.le_trans stop_le after_le

/-- A walk lists matches only. -/
theorem stopAt_eq (hf : f.FindsFirst stopAt) (hw : f.Walks h r l) :
    ∀ s ∈ l, stopAt h s.start = some s.stop := by
  induction hw with
  | ended => exact fun s mem => absurd mem List.not_mem_nil
  | passed _ _ _ _ ih => exact ih
  | @found r t l found _ _ ih =>
    intro s mem
    rcases List.mem_cons.1 mem with rfl | mem
    · exact ((hf h r.pos s).1 found).2.1
    · exact ih s mem

/-- The first byte of a match belongs to a match of the walk. -/
theorem covers (hf : f.FindsFirst stopAt) (hw : f.Walks h r l) {i e : Nat} (le : r.pos ≤ i)
    (stop : stopAt h i = some e) (nonempty : i < e) : ∃ s ∈ l, s.start ≤ i ∧ i < s.stop := by
  -- The search finds the match at `i` or one that begins before it.
  have before {r : Resume} {s : Span} (le : r.pos ≤ i) (found : f.find h r.pos = some s) :
      s.start < i ∨ s.start = i ∧ s.stop = e := by
    obtain ⟨-, stop', first⟩ := (hf h r.pos s).1 found
    rcases Nat.lt_trichotomy s.start i with lt | rfl | gt
    · exact .inl lt
    · exact .inr ⟨rfl, Option.some.inj (stop'.symm.trans stop)⟩
    · have := first i le gt
      rw [stop] at this
      cases this
  induction hw with
  | ended missing =>
    have := hf.stopAt_eq_none missing i le
    rw [stop] at this
    cases this
  | passed found empty _ _ ih =>
    refine ih ?_
    have := before le found
    show _ + 1 ≤ i
    omega
  | @found r s l found _ _ ih =>
    have := before le found
    by_cases covered : i < s.stop
    · exact ⟨s, List.mem_cons_self, by omega, covered⟩
    · have after_le : (Resume.after s).pos ≤ i := by
        unfold Resume.after Span.isEmpty
        split
        · rename_i empty
          have : s.start = s.stop := beq_iff_eq.1 empty
          show s.stop + 1 ≤ i
          omega
        · show s.stop ≤ i
          omega
      obtain ⟨t, mem, inside⟩ := ih after_le
      exact ⟨t, List.mem_cons_of_mem _ mem, inside⟩

end Walks

/-- The next match behind a match, in terms of searches. -/
theorem next_after (f : Finder) (h : ByteArray) (s : Span) :
    let resume := if s.start = s.stop then s.stop + 1 else s.stop
    f.next h (.after s) =
      if f.find h resume = some ⟨s.stop, s.stop⟩ then f.find h (s.stop + 1)
      else f.find h resume := by
  intro resume
  have pos_eq : (Resume.after s).pos = resume := by
    simp only [Resume.after, Span.isEmpty, beq_iff_eq, resume]
  have last : (Resume.after s).lastEnd = some s.stop := rfl
  rw [← pos_eq]
  rcases found : f.find h (Resume.after s).pos with _ | t
  · rw [next_of_none found]
    rfl
  · by_cases passed : t.start = t.stop ∧ (Resume.after s).lastEnd = some t.stop
    · have stop_eq : s.stop = t.stop := Option.some.inj (last.symm.trans passed.2)
      have same : t = ⟨s.stop, s.stop⟩ := by
        rw [stop_eq]
        exact congrArg (Span.mk · t.stop) passed.1
      rw [next_of_passed found passed.1 passed.2, if_pos (congrArg some same), stop_eq]
    · rw [next_of_found found passed, if_neg]
      intro same
      obtain rfl := Option.some.inj same
      exact passed ⟨rfl, last⟩

end Finder

end FileSearch
