import FileSearch.Proofs.Pattern.Literal

/-!
# Matches of patterns lie in the text

A search of a program only comes to places of the text that are not before the one where it began
(`explore_within`), and a literal ends in the text where it occurs.  So the finder of every pattern
keeps to the text (`Pattern.inBounds`).
-/

namespace FileSearch

/-! ## Characters of a text -/

/-- A character has no more bytes than are there. -/
theorem Utf8.length_of_front {b₀ c n : Nat} {b₁ b₂ b₃ : Option Nat}
    (front_eq : front b₀ b₁ b₂ b₃ = .char c n) :
    n = 1 ∨ (n = 2 ∧ b₁.isSome) ∨ (n = 3 ∧ b₂.isSome) ∨ (n = 4 ∧ b₃.isSome) := by
  unfold front at front_eq
  rcases b₁ with _ | b₁
  · grind
  · rcases b₂ with _ | b₂
    · grind
    · rcases b₃ with _ | b₃
      · grind
      · grind

/-- A character that begins in a part of a text ends in it. -/
theorem Utf8.add_length_le_of_frontAt {h : ByteArray} {i stop c n : Nat}
    (front_eq : frontAt h i stop = some (.char c n)) : i + n ≤ stop := by
  unfold frontAt at front_eq
  extract_lets byte at front_eq
  have lt_of_isSome (j : Nat) (there : (byte j).isSome) : j < stop := by
    by_cases lt : j < stop
    · exact lt
    · simp [byte, lt] at there
  split at front_eq
  · cases front_eq
  · rename_i b here
    have := lt_of_isSome i (by simp [here])
    rcases length_of_front (Option.some.inj front_eq) with rfl | ⟨rfl, there⟩ | ⟨rfl, there⟩ |
      ⟨rfl, there⟩
    · exact this
    all_goals exact lt_of_isSome _ there

namespace Regex

variable {h : ByteArray} {lo i j : Nat}

theorem pass_bytes {s : Unicode.IntervalSet} :
    (MemberSet.bytes s).pass h i = some j ↔
      ∃ b, h[i]? = some b ∧ s.contains b.toNat = true ∧ i + 1 = j := by
  unfold MemberSet.pass
  cases h[i]? with
  | none => simp
  | some b => simp

theorem pass_chars {s : Unicode.IntervalSet} :
    (MemberSet.chars s).pass h i = some j ↔
      ∃ c n, Utf8.frontAt h i h.size = some (.char c n) ∧ s.contains c = true ∧ i + n = j := by
  unfold MemberSet.pass
  rcases Utf8.frontAt h i h.size with _ | front
  · simp
  · cases front with
    | invalid | cut => simp
    | char c n =>
      simp only [Option.some.injEq, Utf8.Front.char.injEq, Option.ite_none_right_eq_some]
      constructor
      · rintro ⟨member, ends⟩
        exact ⟨c, n, ⟨rfl, rfl⟩, member, ends⟩
      · rintro ⟨_, _, ⟨rfl, rfl⟩, member, ends⟩
        exact ⟨member, ends⟩

theorem MemberSet.pass_le {s : MemberSet} (passed : s.pass h i = some j) : i ≤ j ∧ j ≤ h.size := by
  cases s with
  | bytes s =>
    obtain ⟨b, here, -, rfl⟩ := pass_bytes.1 passed
    exact ⟨Nat.le_succ i, (getElem?_eq_some_iff.1 here).1⟩
  | chars s =>
    obtain ⟨c, n, front, -, rfl⟩ := pass_chars.1 passed
    exact ⟨Nat.le_add_right i n, Utf8.add_length_le_of_frontAt front⟩

/-! ## Searches of programs -/

/-- All ways stand at places of the text from `lo` on. -/
def Within (h : ByteArray) (lo : Nat) (ways : List (Nat × Nat)) : Prop :=
  ∀ way ∈ ways, lo ≤ way.2 ∧ way.2 ≤ h.size

namespace Within

variable {ways : List (Nat × Nat)} {pc : Nat}

theorem head (hw : Within h lo ((pc, i) :: ways)) : lo ≤ i ∧ i ≤ h.size := hw (pc, i) (.head _)

theorem tail (hw : Within h lo ((pc, i) :: ways)) : Within h lo ways :=
  fun way hway => hw way (.tail _ hway)

theorem singleton (le : lo ≤ i) (le_size : i ≤ h.size) : Within h lo [(pc, i)] := by
  intro way hway
  rw [List.mem_singleton.1 hway]
  exact ⟨le, le_size⟩

/-- A way goes on to a later place. -/
theorem onward (hw : Within h lo ((pc, i) :: ways)) {next : Nat} (le : i ≤ j)
    (le_size : j ≤ h.size) : Within h lo ((next, j) :: ways) := by
  intro way hway
  rcases List.mem_cons.1 hway with rfl | old
  · exact ⟨Nat.le_trans hw.head.1 le, le_size⟩
  · exact hw.tail way old

/-- A way goes on at its place. -/
theorem stay (hw : Within h lo ((pc, i) :: ways)) {next : Nat} : Within h lo ((next, i) :: ways) :=
  hw.onward (Nat.le_refl _) hw.head.2

/-- A way goes on in several ways from its place. -/
theorem split (hw : Within h lo ((pc, i) :: ways)) (nexts : List Nat) :
    Within h lo (nexts.map (·, i) ++ ways) := by
  intro way hway
  rcases List.mem_append.1 hway with new | old
  · obtain ⟨next, -, rfl⟩ := List.mem_map.1 new
    exact hw.head
  · exact hw.tail way old

end Within

namespace Program

variable {p : Program} {fuel : Nat} {tried : Tried}

/-- A match ends in the text, not before the place from which it was looked for. -/
theorem explore_within {ways : List (Nat × Nat)} {e : Nat} (hw : Within h lo ways)
    (ends : (p.explore h fuel ways tried).1 = some e) : lo ≤ e ∧ e ≤ h.size := by
  fun_induction explore p h fuel ways tried with
  | case1 | case2 => cases ends
  | case3 _ _ _ _ _ _ ih => exact ih hw.tail ends
  | case4 =>
    obtain rfl := Option.some.inj ends
    exact hw.head
  | case5 _ _ _ _ _ _ _ ih => exact ih hw.stay ends
  | case6 _ _ _ _ _ b _ _ same ih =>
    have : _ < h.size := (getElem?_eq_some_iff.1 (beq_iff_eq.1 same)).1
    exact ih (hw.onward (Nat.le_succ _) this) ends
  | case7 _ _ _ _ _ _ _ _ _ ih => exact ih hw.tail ends
  | case8 _ _ _ _ _ _ _ _ j passed ih =>
    obtain ⟨le, le_size⟩ := MemberSet.pass_le passed
    exact ih (hw.onward le le_size) ends
  | case9 _ _ _ _ _ _ _ _ _ ih => exact ih hw.tail ends
  | case10 _ _ _ _ _ _ _ _ _ ih => exact ih hw.stay ends
  | case11 _ _ _ _ _ _ _ _ _ ih => exact ih hw.tail ends
  | case12 _ _ _ _ _ _ _ _ ih => exact ih hw.tail ends
  | case13 _ _ _ _ _ nexts _ _ ih => exact ih (hw.split nexts) ends

theorem searchFrom_within {count : Nat} {s : Span} (fits : i + count ≤ h.size + 1)
    (hs : p.searchFrom h fuel count i tried = some s) :
    i ≤ s.start ∧ s.start ≤ s.stop ∧ s.stop ≤ h.size := by
  induction count generalizing i tried with
  | zero => cases hs
  | succ count ih =>
    unfold searchFrom at hs
    split at hs
    · rename_i e _ found
      obtain rfl := Option.some.inj hs
      have here : Within h i [(0, i)] := by
        intro way hway
        obtain rfl := List.mem_singleton.1 hway
        omega
      have := explore_within here (congrArg Prod.fst found)
      exact ⟨Nat.le_refl _, this⟩
    · have := ih (by omega) hs
      omega

end Program

end Regex

/-- The matches of a pattern lie in the text. -/
theorem Pattern.inBounds (p : Pattern) : p.finder.InBounds := by
  intro h start s hs
  change p.findAt h start = some s at hs
  unfold findAt at hs
  split at hs
  · cases hs
  · rename_i start_le
    split at hs
    · obtain ⟨le, stop, -⟩ := findLiteral_eq_some_iff.1 hs
      obtain ⟨start_le, stop_eq, occurs⟩ := stopWithin_literal.1 stop
      have := add_size_le_of_occursAt start_le occurs
      omega
    · exact Regex.Program.searchFrom_within (by omega) hs

end FileSearch
