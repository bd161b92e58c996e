import FileSearch.Proofs.Rules.Components
import FileSearch.Proofs.Rules.Spelling
import FileSearch.Proofs.Walk.Path
import Mathlib.Data.List.Find

/-!
# What rules look at

Rules that are written without slashes other than those at the end look at the last name of a path
only, so that they decide about an entry of any directory as about the same name below the root.
The other rules, if they have no `**` and no slash in brackets, look at all names of a path, and
match only if there are as many as in the pattern (`scope_of_rules`).
-/

namespace FileSearch

open Wildcard

variable {q : String} {path path' : Path} {isDir : Bool}

/-- The only slashes of a text are at its end. -/
def SlashesLast (q : String) : Prop :=
  ∃ front n, Text.trim q.toList = front ++ List.replicate n '/' ∧ '/' ∉ front

theorem SlashesLast.exists_spelling (last : SlashesLast q) :
    ∃ s : Spelling q, ¬ s.IsAnchored := by
  obtain ⟨front, n, trimmed, free⟩ := last
  have spell (body : List Char) (free : '/' ∉ body) (negated : Bool)
      (unmarked : negated = false → (Text.trim q.toList).head? ≠ some '!')
      (split : front = (if negated then ['!'] else []) ++ body) :
      ∃ s : Spelling q, ¬ s.IsAnchored := by
    refine ⟨⟨negated, 0, body, n, ?_, unmarked, mt List.mem_of_head? free,
      mt List.mem_of_getLast? free⟩, ?_⟩
    · rw [trimmed, split, List.append_assoc]
      rfl
    · rintro (lead | inner)
      · exact lead rfl
      · exact free inner
  by_cases marked : (Text.trim q.toList).head? = some '!'
  · rw [trimmed] at marked
    rcases front with _ | ⟨c, body⟩
    · cases List.eq_of_mem_replicate (List.mem_of_head? marked)
    · obtain rfl := Option.some.inj marked
      exact spell body (List.not_mem_of_not_mem_cons free) true nofun rfl
  · exact spell front free false (fun _ => marked) rfl

namespace IgnoreRules

/-- Rules for names decide by the last names of paths. -/
theorem isIgnored_eq_of_nameText {rules : IgnoreRules}
    (names : ∀ r ∈ rules.rules, r.anchored = false) (same : nameText path = nameText path') :
    rules.isIgnored path isDir = rules.isIgnored path' isDir := by
  have alike : ∀ r ∈ rules.rules.reverse,
      r.matchesPath (pathText path) (nameText path) isDir =
        r.matchesPath (pathText path') (nameText path') isDir := by
    intro r mem
    rw [IgnoreRule.matchesPath, IgnoreRule.matchesPath, names r (List.mem_reverse.1 mem), same]
    rfl
  rw [isIgnored, isIgnored, List.find?_congr alike]

/-- Texts without slashes other than those at the end decide about an entry of any directory as
about its name alone.  A rule with other slashes, but neither with `**` nor with slashes in
brackets, matches only paths with as many names as its pattern, each name of the pattern standing
for the name of the path in its place. -/
theorem scope_of_rules :
    (∀ texts : List String, (∀ q ∈ texts, SlashesLast q) →
      ∀ (dir : Path) (name : Name) (isDir : Bool), name.IsProper →
        (ofTexts texts).isIgnored (Walk.entryPath dir name) isDir =
          (ofTexts texts).isIgnored ⟨name.toArray⟩ isDir) ∧
    ∀ (q : String) (r : IgnoreRule) (s : Spelling q), IgnoreRule.read? q = some r →
      s.IsAnchored → ¬ ['*', '*'] <:+: s.pattern → (∀ t ∈ r.tokens, '/' ∉ t.bracketed) →
        ∀ path isDir, r.matchesPath (pathText path) (nameText path) isDir = true →
          ((pathText path).splitOn '/').length = (s.pattern.splitOn '/').length ∧
            List.Forall₂ StandsFor (s.pattern.splitOn '/') ((pathText path).splitOn '/') := by
  refine ⟨fun texts last dir name isDir proper => ?_,
    fun q r s read anchored plain free path isDir matched => ?_⟩
  · have names : ∀ r ∈ (ofTexts texts).rules, r.anchored = false := by
      intro r mem
      obtain ⟨q, mem, read⟩ := List.mem_filterMap.1 mem
      obtain ⟨s, names⟩ := (last q mem).exists_spelling
      rw [(IgnoreRule.eq_of_read? s read).2.2.2]
      exact decide_eq_false names
    refine isIgnored_eq_of_nameText names ?_
    rw [← Walk.entryPath_empty name, nameText, nameText, Walk.fileName?_entryPath dir proper,
      Walk.fileName?_entryPath .empty proper]
  · obtain ⟨tokens, -, -, whole⟩ := IgnoreRule.eq_of_read? s read
    rw [IgnoreRule.matchesPath, whole, decide_eq_true anchored, if_pos rfl, Bool.and_eq_true,
      matchesText_iff] at matched
    have names := forall₂_standsFor plain tokens free matched.2
    exact ⟨names.length_eq.symm, names⟩

/-- `build/` and `!*.txt` say the same about `a.txt` everywhere, and `/docs/[!b]*.md` matches a path
of two names. -/
theorem scope_of_rules_docs :
    let texts := ["build/", " !*.txt "]
    let name : Name := "a.txt".toUTF8.data.toList
    let path := "docs\\a1.md".toUTF8
    let s : Spelling "!/docs/[!b]*.md" := ⟨true, 1, "docs/[!b]*.md".toList, 0, by decide +kernel,
      nofun, by decide +kernel, by decide +kernel⟩
    (∀ q ∈ texts, SlashesLast q) ∧ name.IsProper ∧
      (ofTexts texts).isIgnored (Walk.entryPath "x/y".toUTF8 name) false =
        (ofTexts texts).isIgnored ⟨name.toArray⟩ false ∧
      ((pathText path).splitOn '/').length = (s.pattern.splitOn '/').length ∧
      List.Forall₂ StandsFor (s.pattern.splitOn '/') ((pathText path).splitOn '/') := by
  intro texts name path s
  obtain ⟨below, names⟩ := scope_of_rules
  have last : ∀ q ∈ texts, SlashesLast q := by
    intro q mem
    simp only [texts, List.mem_cons, List.not_mem_nil, or_false] at mem
    rcases mem with rfl | rfl
    · exact ⟨"build".toList, 1, by decide +kernel, by decide +kernel⟩
    · exact ⟨"!*.txt".toList, 0, by decide +kernel, by decide +kernel⟩
  have proper : name.IsProper := by decide +kernel
  let r : IgnoreRule :=
    { tokens := "docs/".toList.map .char ++ [.except [.one 'b'], .anyName, .char '.', .char 'm',
        .char 'd']
      negated := true, dirOnly := false, anchored := true }
  have read : IgnoreRule.read? "!/docs/[!b]*.md" = some r := by decide +kernel
  exact ⟨last, proper, below texts last "x/y".toUTF8 name false proper,
    names _ r s read (.inl nofun) (by decide +kernel) (by decide +kernel) path false
      (by decide +kernel)⟩

end IgnoreRules

end FileSearch
