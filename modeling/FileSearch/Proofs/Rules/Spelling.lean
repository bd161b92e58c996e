import FileSearch.Rules.IgnoreRules

/-!
# How rules are written

Without the blanks around it a text is perhaps an exclamation mark, then slashes, a pattern that
neither begins nor ends with one, and slashes again (`Spelling`).  What rule a text gives is told by
these parts (`IgnoreRule.read?_of_empty`, `IgnoreRule.read?_of_pattern`).
-/

namespace FileSearch

open Wildcard

/-- The parts of the text of a rule. -/
structure Spelling (text : String) where
  negated : Bool
  /-- The number of slashes in front of the pattern. -/
  lead : Nat
  pattern : List Char
  /-- The number of slashes behind the pattern. -/
  trail : Nat
  trimmed : Text.trim text.toList = (if negated then ['!'] else []) ++
    (List.replicate lead '/' ++ pattern ++ List.replicate trail '/')
  unmarked : negated = false → (Text.trim text.toList).head? ≠ some '!'
  head : pattern.head? ≠ some '/'
  last : pattern.getLast? ≠ some '/'

/-! ## Slashes around a pattern -/

theorem dropWhile_slashes {cs : List Char} (head : cs.head? ≠ some '/') (n : Nat) :
    (List.replicate n '/' ++ cs).dropWhile (· == '/') = cs := by
  rw [List.dropWhile_append_of_pos (fun c mem => beq_iff_eq.2 (List.eq_of_mem_replicate mem))]
  rcases cs with _ | ⟨c, cs⟩
  · rfl
  · rw [List.dropWhile_cons_of_neg]
    rw [beq_iff_eq]
    rintro rfl
    exact head rfl

theorem dropTrailing_slashes {cs : List Char} (last : cs.getLast? ≠ some '/') (n : Nat) :
    ((cs ++ List.replicate n '/').reverse.dropWhile (· == '/')).reverse = cs := by
  rw [List.reverse_append, List.reverse_replicate, dropWhile_slashes, List.reverse_reverse]
  rwa [List.head?_reverse]

/-- The slashes at the front of a text. -/
theorem exists_lead (cs : List Char) :
    ∃ n rest, cs = List.replicate n '/' ++ rest ∧ rest.head? ≠ some '/' := by
  induction cs with
  | nil => exact ⟨0, [], rfl, nofun⟩
  | cons c cs ih =>
    by_cases slash : c = '/'
    · obtain ⟨n, rest, rfl, head⟩ := ih
      exact ⟨n + 1, rest, by rw [slash]; rfl, head⟩
    · exact ⟨0, c :: cs, rfl, fun head => slash (Option.some.inj head)⟩

/-- The slashes at both ends of a text. -/
theorem exists_slashes (cs : List Char) :
    ∃ lead pattern trail, cs = List.replicate lead '/' ++ pattern ++ List.replicate trail '/' ∧
      pattern.head? ≠ some '/' ∧ pattern.getLast? ≠ some '/' := by
  obtain ⟨lead, rest, rfl, head⟩ := exists_lead cs
  obtain ⟨trail, back, reversed, last⟩ := exists_lead rest.reverse
  have split : rest = back.reverse ++ List.replicate trail '/' := by
    rw [← List.reverse_reverse rest, reversed, List.reverse_append, List.reverse_replicate]
  refine ⟨lead, back.reverse, trail, by rw [split, List.append_assoc], ?_, ?_⟩
  · intro slash
    rw [split, List.head?_append, slash] at head
    exact head rfl
  · rwa [List.getLast?_reverse]

namespace Spelling

variable {text : String}

/-- Whether the rule is matched with whole paths. -/
def IsAnchored (s : Spelling text) : Prop := s.lead ≠ 0 ∨ '/' ∈ s.pattern

instance (s : Spelling text) : Decidable s.IsAnchored := inferInstanceAs (Decidable (_ ∨ _))

theorem exists_spelling (text : String) : Nonempty (Spelling text) := by
  by_cases marked : (Text.trim text.toList).head? = some '!'
  · obtain ⟨cs, trimmed⟩ := List.head?_eq_some_iff.1 marked
    obtain ⟨lead, pattern, trail, split, head, last⟩ := exists_slashes cs
    exact ⟨⟨true, lead, pattern, trail, by rw [trimmed, split]; rfl, nofun, head, last⟩⟩
  · obtain ⟨lead, pattern, trail, split, head, last⟩ := exists_slashes (Text.trim text.toList)
    exact ⟨⟨false, lead, pattern, trail, split, fun _ => marked, head, last⟩⟩

theorem isNegated_iff (s : Spelling text) :
    (Text.trim text.toList).head? = some '!' ↔ s.negated = true := by
  constructor
  · intro marked
    cases negated : s.negated with
    | true => rfl
    | false => exact absurd marked (s.unmarked negated)
  · intro negated
    rw [s.trimmed, if_pos negated]
    rfl

theorem head?_beq (s : Spelling text) :
    ((Text.trim text.toList).head? == some '!') = s.negated := by
  rw [Bool.eq_iff_iff, beq_iff_eq, s.isNegated_iff]

theorem behind_mark (s : Spelling text) :
    (if s.negated = true then (Text.trim text.toList).tail else Text.trim text.toList) =
      List.replicate s.lead '/' ++ s.pattern ++ List.replicate s.trail '/' := by
  rw [s.trimmed]
  cases s.negated with
  | true => rfl
  | false => rfl

end Spelling

namespace IgnoreRule

/-- Nothing is left of a text without a pattern. -/
theorem read?_of_empty {text : String} (s : Spelling text) (empty : s.pattern = []) :
    read? text = none := by
  have slashes : List.replicate s.lead '/' ++ s.pattern ++ List.replicate s.trail '/' =
      [] ++ List.replicate (s.lead + s.trail) '/' := by
    rw [empty, List.append_nil, List.nil_append, List.replicate_append_replicate]
  have none : ([] : List Char).getLast? ≠ some '/' := nofun
  simp only [read?, s.head?_beq, s.behind_mark, slashes, dropTrailing_slashes none]
  rfl

/-- The rule of a text with a pattern. -/
theorem read?_of_pattern {text : String} (s : Spelling text) (some : s.pattern ≠ []) :
    read? text = (Token.readFrom none s.pattern []).map fun tokens =>
      { tokens, negated := s.negated, dirOnly := s.trail ≠ 0, anchored := s.IsAnchored } := by
  have last : (List.replicate s.lead '/' ++ s.pattern).getLast? ≠ .some '/' := by
    have own := List.getLast?_eq_some_getLast some
    rw [List.getLast?_append, own, Option.some_or, ← own]
    exact s.last
  have front := dropTrailing_slashes last s.trail
  have dirOnly : ((List.replicate s.lead '/' ++ s.pattern ++
      List.replicate s.trail '/').getLast? == .some '/') = decide (s.trail ≠ 0) := by
    rw [Bool.eq_iff_iff, beq_iff_eq, decide_eq_true_iff]
    cases s.trail with
    | zero => simpa using last
    | succ n => simp [List.getLast?_append, List.getLast?_replicate]
  have anchored : (List.replicate s.lead '/' ++ s.pattern).contains '/' = decide s.IsAnchored := by
    rw [Bool.eq_iff_iff, List.contains_iff_mem, List.mem_append, List.mem_replicate,
      decide_eq_true_iff]
    simp [Spelling.IsAnchored]
  simp only [read?, s.head?_beq, s.behind_mark, front, dirOnly, anchored, dropWhile_slashes s.head]
  exact if_neg (by rwa [List.isEmpty_iff])

/-- What a rule is by the parts of its text. -/
theorem eq_of_read? {text : String} {r : IgnoreRule} (s : Spelling text)
    (read : read? text = some r) :
    Token.readFrom none s.pattern [] = some r.tokens ∧ r.negated = s.negated ∧
      r.dirOnly = decide (s.trail ≠ 0) ∧ r.anchored = decide s.IsAnchored := by
  by_cases empty : s.pattern = []
  · rw [read?_of_empty s empty] at read
    cases read
  · rw [read?_of_pattern s empty, Option.map_eq_some_iff] at read
    obtain ⟨tokens, read, rfl⟩ := read
    exact ⟨read, rfl, rfl, rfl⟩

end IgnoreRule

end FileSearch
