import FileSearch.Proofs.Rules.Components
import FileSearch.Proofs.Rules.LastMatch
import FileSearch.Proofs.Text.Utf8
import FileSearch.Proofs.Walk.Path

/-!
# Rules without wildcards

A pattern without the signs of wildcards stands for its own text only (`standsFor_iff_eq`).  So a
slash with such a path behind it ignores the paths that are written as this one.  A path is written
with slashes for its backslashes, whereas the text of a rule keeps them: a rule for `a/b` ignores the
name `a\b` too, and no rule of this kind ignores just that name (`isIgnored_anchored_plain`).
-/

namespace FileSearch

open Wildcard

/-! ## Patterns without wildcards -/

namespace Wildcard

variable {cs text : List Char}

/-- A text without the signs of wildcards is read character by character. -/
theorem reads_chars (plain : ∀ c ∈ cs, c ≠ '?' ∧ c ≠ '*' ∧ c ≠ '[') :
    Reads cs (cs.map .char) := by
  induction cs with
  | nil => exact .nil
  | cons c cs ih =>
    rw [List.forall_mem_cons] at plain
    obtain ⟨⟨single, star, bracket⟩, plain⟩ := plain
    exact .char single star bracket (ih plain)

theorem matches_chars_iff : Matches (cs.map .char) text ↔ text = cs := by
  induction cs generalizing text with
  | nil =>
    constructor
    · rintro ⟨⟩
      rfl
    · rintro rfl
      exact .nil
  | cons c cs ih =>
    rw [List.map_cons, matches_one_iff (t := .char c) nofun nofun]
    simp only [Token.admits, beq_iff_eq, ih]
    constructor
    · rintro ⟨_, _, rfl, rfl, rfl⟩
      rfl
    · rintro rfl
      exact ⟨c, cs, rfl, rfl, rfl⟩

/-- A pattern without the signs of wildcards stands for its own text only. -/
theorem standsFor_iff_eq (plain : ∀ c ∈ cs, c ≠ '?' ∧ c ≠ '*' ∧ c ≠ '[') :
    StandsFor cs text ↔ text = cs := by
  have read : Token.readFrom none cs [] = some (cs.map .char) := (reads_chars plain).readFrom none []
  rw [← matches_chars_iff]
  constructor
  · rintro ⟨tokens, read', stands⟩
    obtain rfl := Option.some.inj (read.symm.trans read')
    exact stands
  · exact fun stands => ⟨_, read, stands⟩

end Wildcard

/-! ## Relative paths as texts -/

/-- The text of a path below a place: names of entries with slashes between them. -/
def IsRelative (text : String) : Prop :=
  ∀ name ∈ text.toList.splitOn '/', Name.IsProper (Utf8.encodeAll name)

instance : DecidablePred IsRelative := fun _ => inferInstanceAs (Decidable (∀ _ ∈ _, _))

/-- The text of a path below a place that has no sign of a wildcard and no blank at its end. -/
structure IsPlain (text : String) : Prop where
  relative : IsRelative text
  signs : ∀ c ∈ text.toList, c ∉ ['*', '?', '[', ']']
  last : ∀ c ∈ text.toList.getLast?, Unicode.isBlank c = false

-- The characters of the text are tested by `all`: to decide the quantifiers themselves may be to go
-- through all characters that there are.
instance : DecidablePred IsPlain := fun text =>
  decidable_of_iff (IsRelative text ∧ text.toList.all (· ∉ ['*', '?', '[', ']']) = true ∧
      text.toList.getLast?.all (!Unicode.isBlank ·) = true)
    ⟨fun ⟨relative, signs, last⟩ => ⟨relative, by simpa using signs,
        by simpa [Option.all_eq_true] using last⟩,
      fun plain => ⟨plain.relative, by simpa using plain.signs,
        by simpa [Option.all_eq_true] using plain.last⟩⟩

namespace IsRelative

variable {p : String}

theorem name_ne_nil (relative : IsRelative p) {name : List Char}
    (mem : name ∈ p.toList.splitOn '/') : name ≠ [] := by
  rintro rfl
  exact (relative [] mem).ne_nil rfl

theorem ne_nil (relative : IsRelative p) : p.toList ≠ [] := by
  intro empty
  refine relative.name_ne_nil ?_ rfl
  rw [empty]
  exact List.mem_singleton_self []

theorem head?_ne_slash (relative : IsRelative p) : p.toList.head? ≠ some '/' := by
  intro head
  obtain ⟨rest, split⟩ := List.head?_eq_some_iff.1 head
  refine relative.name_ne_nil ?_ rfl
  rw [split, ← List.nil_append ('/' :: rest), List.splitOn_append_cons_self]
  exact List.mem_append_left _ (List.mem_singleton_self [])

theorem getLast?_ne_slash (relative : IsRelative p) : p.toList.getLast? ≠ some '/' := by
  intro last
  obtain ⟨front, split⟩ := List.getLast?_eq_some_iff.1 last
  refine relative.name_ne_nil ?_ rfl
  rw [split, List.splitOn_append_cons_self]
  exact List.mem_append_right _ (List.mem_singleton_self [])

end IsRelative

theorem Text.trim_eq_self {cs : List Char}
    (first : ∀ c ∈ cs.head?, Unicode.isBlank c = false)
    (last : ∀ c ∈ cs.getLast?, Unicode.isBlank c = false) : trim cs = cs := by
  have keep {cs : List Char} (first : ∀ c ∈ cs.head?, Unicode.isBlank c = false) :
      trimStart cs = cs := by
    cases cs with
    | nil => rfl
    | cons c cs =>
      refine List.dropWhile_cons_of_neg ?_
      rw [first c rfl]
      exact Bool.false_ne_true
  rw [trim, keep first, trimEnd, keep, List.reverse_reverse]
  rwa [List.head?_reverse]

/-! ## Rules for single paths -/

namespace IsPlain

variable {p : String}

theorem trim_eq (plain : IsPlain p) : Text.trim ("/" ++ p).toList = '/' :: p.toList := by
  have last := List.getLast?_eq_some_getLast plain.relative.ne_nil
  refine (congrArg Text.trim String.toList_append).trans (Text.trim_eq_self ?_ fun c mem => ?_)
  · rintro c ⟨⟩
    decide +kernel
  · rw [List.getLast?_append, last] at mem
    exact plain.last c (last.trans mem)

/-- The parts of a slash with a path behind it. -/
def spelling (plain : IsPlain p) : Spelling ("/" ++ p) where
  negated := false
  lead := 1
  pattern := p.toList
  trail := 0
  trimmed := plain.trim_eq.trans (List.append_nil _).symm
  unmarked _ := by
    rw [plain.trim_eq, List.head?_cons]
    decide
  head := plain.relative.head?_ne_slash
  last := plain.relative.getLast?_ne_slash

end IsPlain

namespace IgnoreRules

theorem pathText_toUTF8 (q : String) :
    pathText q.toUTF8 = q.toList.map fun c => if c = '\\' then '/' else c := by
  rw [pathText, Path.display, Utf8.decodeLossy_of_toList (Utf8.toList_toUTF8 q), String.toList_ofList]

/-- A single rule ignores what it applies to, unless it is marked. -/
theorem isIgnored_singleton {q : String} (s : Spelling q) (path : Path) (isDir : Bool) :
    (ofTexts [q]).isIgnored path isDir = true ↔ s.Applies path isDir ∧ s.negated = false := by
  have applies : Applies q path isDir ↔ s.Applies path isDir := by
    rw [← IgnoreRule.any_matchesPath_iff_applies, IgnoreRule.any_matchesPath_iff s]
  have one := isIgnored_concat [] q path isDir
  rw [List.nil_append] at one
  rw [one]
  by_cases here : Applies q path isDir
  · rw [if_pos here, Bool.not_eq_true', decide_eq_false_iff_not, IsNegated, s.isNegated_iff,
      Bool.not_eq_true]
    exact ⟨fun unmarked => ⟨applies.1 here, unmarked⟩, And.right⟩
  · rw [if_neg here]
    exact ⟨nofun, fun ignored => absurd (applies.2 ignored.1) here⟩

/-- A slash with a path behind it, in which there is no sign of a wildcard, ignores the paths that
are this one if their backslashes are read as slashes.  So among the paths without backslashes it
ignores only the one that it names, and a path with backslashes is ignored by no such rule of its
own. -/
theorem isIgnored_anchored_plain {p : String} (plain : IsPlain p) (q : String) (isDir : Bool) :
    ((ofTexts ["/" ++ p]).isIgnored q.toUTF8 isDir = true ↔
        q.toList.map (fun c => if c = '\\' then '/' else c) = p.toList) ∧
      ('\\' ∉ q.toList → ((ofTexts ["/" ++ p]).isIgnored q.toUTF8 isDir = true ↔ q = p)) ∧
      ('\\' ∈ p.toList → (ofTexts ["/" ++ p]).isIgnored q.toUTF8 isDir = false) := by
  have signs : ∀ c ∈ p.toList, c ≠ '?' ∧ c ≠ '*' ∧ c ≠ '[' := by
    intro c mem
    have := plain.signs c mem
    simp only [List.mem_cons, not_or] at this
    exact ⟨this.2.1, this.1, this.2.2.1⟩
  have ignored : (ofTexts ["/" ++ p]).isIgnored q.toUTF8 isDir = true ↔
      q.toList.map (fun c => if c = '\\' then '/' else c) = p.toList := by
    rw [isIgnored_singleton plain.spelling, ← pathText_toUTF8, ← standsFor_iff_eq signs]
    constructor
    · exact fun applies => applies.1.stands
    · exact fun stands => ⟨⟨plain.relative.ne_nil, fun trail => absurd rfl trail, stands⟩, rfl⟩
  refine ⟨ignored, fun slashes => ?_, fun backslash => ?_⟩
  · have same : q.toList.map (fun c => if c = '\\' then '/' else c) = q.toList := by
      refine (List.map_congr_left fun c mem => if_neg ?_).trans (List.map_id _)
      rintro rfl
      exact slashes mem
    rw [ignored, same, String.toList_inj]
  · rw [← Bool.not_eq_true, ignored]
    intro same
    rw [← same, List.mem_map] at backslash
    obtain ⟨c, -, here⟩ := backslash
    split at here
    · cases here
    · contradiction

/-- A path of two names, the second one with blanks and an exclamation mark, and the name that is
taken for it. -/
theorem isIgnored_anchored_plain_docs :
    let p := "docs/ü !.md"
    IsPlain p ∧ '\\' ∉ p.toList ∧
      (ofTexts ["/" ++ p]).isIgnored p.toUTF8 true = true ∧
      (ofTexts ["/" ++ p]).isIgnored "docs\\ü !.md".toUTF8 false = true := by
  intro p
  have plain : IsPlain p := by decide +kernel
  have slashes : '\\' ∉ p.toList := by decide +kernel
  exact ⟨plain, slashes, ((isIgnored_anchored_plain plain p true).2.1 slashes).2 rfl,
    (isIgnored_anchored_plain plain "docs\\ü !.md" false).1.2 (by decide +kernel)⟩

/-- The name `a\b` is not ignored by the rule made of it. -/
theorem not_forall_anchored_names_itself :
    ¬ ∀ (p q : String) (isDir : Bool), IsPlain p → IsRelative q →
      ((ofTexts ["/" ++ p]).isIgnored q.toUTF8 isDir = true ↔ q = p) := by
  intro all
  have plain : IsPlain "a\\b" := by decide +kernel
  have kept : (ofTexts ["/" ++ "a\\b"]).isIgnored "a\\b".toUTF8 false = false := by decide +kernel
  have ignored := (all "a\\b" "a\\b" false plain plain.relative).2 rfl
  rw [kept] at ignored
  cases ignored

end IgnoreRules

end FileSearch
