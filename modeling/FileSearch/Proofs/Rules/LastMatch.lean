import FileSearch.Proofs.Rules.Matching
import FileSearch.Proofs.Rules.Spelling
import Mathlib.Data.List.Induction
import Mathlib.Data.List.TakeWhile

/-!
# The last matching rule decides

A text of a rule decides about a path if it gives a rule that matches the path (`Applies`), and then
ignores the path unless it is marked with an exclamation mark.  Of several texts the last one that
applies decides, so that a path is ignored if going through the texts from the first to the last
leaves it ignored (`isIgnored_last_decides`).
-/

namespace FileSearch

open Wildcard

variable {text q : String} {texts : List String} {path : Path} {isDir : Bool}

/-- The text is marked with an exclamation mark. -/
def IsNegated (q : String) : Prop := (Text.trim q.toList).head? = some '!'

instance : DecidablePred IsNegated := fun _ => inferInstanceAs (Decidable (_ = _))

/-- The parts of a text give a rule that matches a path.  It stands for directories only if there
are slashes behind the pattern, and its pattern for the whole path if there are slashes anywhere
else, or for the last name. -/
structure Spelling.Applies (s : Spelling text) (path : Path) (isDir : Bool) : Prop where
  some : s.pattern ≠ []
  dir : s.trail ≠ 0 → isDir = true
  stands : StandsFor s.pattern
    (if s.IsAnchored then IgnoreRules.pathText path else IgnoreRules.nameText path)

/-- A text gives a rule that matches a path. -/
def Applies (q : String) (path : Path) (isDir : Bool) : Prop :=
  ∃ s : Spelling q, s.Applies path isDir

/-- A text gives no rule: it is blank, there are only slashes besides the exclamation mark, or its
pattern cannot be read. -/
inductive IsVoid (q : String) : Prop where
  | blank : (∀ c ∈ q.toList, Unicode.isBlank c = true) → IsVoid q
  | slashes (s : Spelling q) : s.pattern = [] → IsVoid q
  | unreadable (s : Spelling q) : Token.readFrom none s.pattern [] = none → IsVoid q

namespace IgnoreRule

theorem negated_of_read? {r : IgnoreRule} (read : read? q = some r) :
    r.negated = decide (IsNegated q) := by
  obtain ⟨s⟩ := Spelling.exists_spelling q
  rw [(eq_of_read? s read).2.1, Bool.eq_iff_iff, decide_eq_true_iff]
  exact s.isNegated_iff.symm

/-- Whether the rule of a text matches a path is told by the parts of the text. -/
theorem any_matchesPath_iff (s : Spelling q) :
    (read? q).any (·.matchesPath (IgnoreRules.pathText path) (IgnoreRules.nameText path) isDir) =
      true ↔ s.Applies path isDir := by
  by_cases empty : s.pattern = []
  · rw [read?_of_empty s empty]
    exact ⟨nofun, fun applies => absurd empty applies.some⟩
  · rw [read?_of_pattern s empty]
    cases read : Token.readFrom none s.pattern [] with
    | none =>
      refine ⟨nofun, fun applies => ?_⟩
      obtain ⟨tokens, stands, -⟩ := applies.stands
      rw [read] at stands
      cases stands
    | some tokens =>
      simp only [Option.map_some, Option.any_some, matchesPath, Bool.and_eq_true, Bool.or_eq_true,
        Bool.not_eq_true', decide_eq_false_iff_not, decide_eq_true_iff, matchesText_iff]
      constructor
      · rintro ⟨dir, stands⟩
        exact ⟨empty, fun trail => dir.resolve_left (not_not_intro trail), tokens, read, stands⟩
      · rintro ⟨-, dir, tokens', read', stands⟩
        obtain rfl := Option.some.inj (read.symm.trans read')
        refine ⟨?_, stands⟩
        by_cases trail : s.trail = 0
        · exact .inl (not_not_intro trail)
        · exact .inr (dir trail)

theorem any_matchesPath_iff_applies (q : String) (path : Path) (isDir : Bool) :
    (read? q).any (·.matchesPath (IgnoreRules.pathText path) (IgnoreRules.nameText path) isDir) =
      true ↔ Applies q path isDir := by
  obtain ⟨s⟩ := Spelling.exists_spelling q
  constructor
  · exact fun matched => ⟨s, (any_matchesPath_iff s).1 matched⟩
  · rintro ⟨s, applies⟩
    exact (any_matchesPath_iff s).2 applies

theorem read?_of_isVoid (void : IsVoid q) : read? q = none := by
  cases void with
  | blank all =>
    obtain ⟨s⟩ := Spelling.exists_spelling q
    refine read?_of_empty s ?_
    have trimmed : Text.trim q.toList = [] := by
      have start : Text.trimStart q.toList = [] := List.dropWhile_eq_nil_iff.2 all
      rw [Text.trim, start]
      rfl
    rw [s.trimmed] at trimmed
    simp only [List.append_eq_nil_iff] at trimmed
    exact trimmed.2.1.2
  | slashes s empty => exact read?_of_empty s empty
  | unreadable s unreadable =>
    by_cases empty : s.pattern = []
    · exact read?_of_empty s empty
    · rw [read?_of_pattern s empty, unreadable]
      rfl

end IgnoreRule

instance : Decidable (Applies q path isDir) :=
  decidable_of_iff _ (IgnoreRule.any_matchesPath_iff_applies q path isDir)

namespace IgnoreRules

/-- The rules of some texts and one more: the last text decides if it applies. -/
theorem isIgnored_concat (texts : List String) (q : String) (path : Path) (isDir : Bool) :
    (ofTexts (texts ++ [q])).isIgnored path isDir =
      if Applies q path isDir then !decide (IsNegated q)
      else (ofTexts texts).isIgnored path isDir := by
  have applies := IgnoreRule.any_matchesPath_iff_applies q path isDir
  cases read : IgnoreRule.read? q with
  | none =>
    have same : ofTexts (texts ++ [q]) = ofTexts texts := by
      rw [ofTexts, List.filterMap_append, List.filterMap_cons_none read, List.filterMap_nil,
        List.append_nil, ofTexts]
    rw [read] at applies
    rw [same, if_neg (mt applies.2 nofun)]
  | some r =>
    have more : ofTexts (texts ++ [q]) = ⟨(ofTexts texts).rules ++ [r]⟩ := by
      rw [ofTexts, List.filterMap_append, List.filterMap_cons_some read, List.filterMap_nil,
        ofTexts]
    rw [read, Option.any_some] at applies
    simp only [more, isIgnored, List.reverse_concat, List.find?_cons]
    by_cases matched : r.matchesPath (pathText path) (nameText path) isDir = true
    · rw [if_pos (applies.1 matched), matched, ← IgnoreRule.negated_of_read? read]
      rfl
    · rw [if_neg (mt applies.2 matched), eq_false_of_ne_true matched]

/-- Going through the texts from the first one on, each that applies sets the decision. -/
theorem isIgnored_eq_foldl (texts : List String) (path : Path) (isDir : Bool) :
    (ofTexts texts).isIgnored path isDir =
      texts.foldl (fun ignored q =>
        if Applies q path isDir then !decide (IsNegated q) else ignored) false := by
  induction texts using List.reverseRecOn with
  | nil => rfl
  | append_singleton texts q ih =>
    rw [isIgnored_concat, ih, List.foldl_append, List.foldl_cons, List.foldl_nil]

theorem ofTexts_of_isVoid (before after : List String) (void : IsVoid q) :
    ofTexts (before ++ q :: after) = ofTexts (before ++ after) := by
  rw [ofTexts, List.filterMap_append, List.filterMap_cons_none (IgnoreRule.read?_of_isVoid void),
    ofTexts, List.filterMap_append]

/-- The last text that applies to a path decides about it.  One more text at the end decides if it
applies, and else leaves the decision as it is; so the decision is that of going through all texts,
beginning with paths not ignored.  Texts without a rule do not matter wherever they stand. -/
theorem isIgnored_last_decides (path : Path) (isDir : Bool) :
    (∀ texts q, (ofTexts (texts ++ [q])).isIgnored path isDir =
      if Applies q path isDir then !decide (IsNegated q)
      else (ofTexts texts).isIgnored path isDir) ∧
    (∀ texts, (ofTexts texts).isIgnored path isDir =
      texts.foldl (fun ignored q =>
        if Applies q path isDir then !decide (IsNegated q) else ignored) false) ∧
    ∀ before q after, IsVoid q → (ofTexts (before ++ q :: after)).isIgnored path isDir =
      (ofTexts (before ++ after)).isIgnored path isDir := by
  refine ⟨fun texts q => isIgnored_concat texts q path isDir,
    fun texts => isIgnored_eq_foldl texts path isDir, fun before q after void => ?_⟩
  rw [ofTexts_of_isVoid before after void]

/-- `!keep.log` takes back in what `*.log` leaves out; a slash among blanks does not matter. -/
theorem isIgnored_last_decides_keep :
    let path := "a/keep.log".toUTF8
    IsVoid " / " ∧ Applies "!keep.log" path false ∧
      (ofTexts ["*.log"]).isIgnored path false = true ∧
      (ofTexts ["*.log", "!keep.log"]).isIgnored path false = false ∧
      (ofTexts ["*.log", " / ", "!keep.log"]).isIgnored path false = false := by
  intro path
  have void : IsVoid " / " :=
    .slashes ⟨false, 0, [], 1, by decide +kernel, fun _ => by decide +kernel, nofun, nofun⟩ rfl
  have applies : Applies "!keep.log" path false := by decide +kernel
  obtain ⟨last, fold, skip⟩ := isIgnored_last_decides path false
  have first : (ofTexts ["*.log"]).isIgnored path false = true := by
    rw [fold]
    decide +kernel
  have both : (ofTexts ["*.log", "!keep.log"]).isIgnored path false = false := by
    rw [show ["*.log", "!keep.log"] = ["*.log"] ++ ["!keep.log"] from rfl, last, if_pos applies]
    decide +kernel
  exact ⟨void, applies, first, both, (skip ["*.log"] " / " ["!keep.log"] void).trans both⟩

end IgnoreRules

end FileSearch
