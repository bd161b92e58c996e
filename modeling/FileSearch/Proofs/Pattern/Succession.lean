import FileSearch.Proofs.Pattern.Bounds
import FileSearch.Proofs.Scan.Order
import FileSearch.Proofs.Scan.Succession

/-!
# The matches of a pattern in succession

A scan of a text with a pattern reports a walk from the front of the text, in which each match is
what a search from the one before finds.  For a literal these are its occurrences from left to right
without those that overlap one before them (`spans_in_succession`).
-/

namespace FileSearch.Pattern

/-- The matches of a text are found one after another: first the one that begins first, then after
each match the one that a search from there finds, where an empty match at the end of the match
before is passed over, until nothing is found.  The matches of a literal are its occurrences from
left to right, without those that a match before them overlaps. -/
theorem spans_in_succession {text : String} {options : PatternOptions} {p : Pattern}
    (compiled : compile text options = .ok p) (h : ByteArray) :
    ∃ l : List Span, (p.finder.scan h).toList = l.map (Match.ofSpan h 0) ∧
      p.finder.Walks h ⟨0, none⟩ l ∧ l.length ≤ h.size + 1 ∧ l[0]? = p.findAt h 0 ∧
        (∀ i s, l[i]? = some s →
          let resume := if s.start = s.stop then s.stop + 1 else s.stop
          l[i + 1]? =
            if p.findAt h resume = some ⟨s.stop, s.stop⟩ then p.findAt h (s.stop + 1)
            else p.findAt h resume) ∧
          (p.isLiteral →
            let needle := text.toUTF8
            (∀ s ∈ l, s.stop = s.start + needle.size ∧ s.of h = needle) ∧
              l.Pairwise (fun s t => s.stop ≤ t.start) ∧
                ∀ i, h.extract i (i + needle.size) = needle →
                  ⟨i, i + needle.size⟩ ∈ l ∨ ∃ s ∈ l, s.start < i ∧ i < s.stop) := by
  have advances := p.inBounds.advances
  have walks : p.finder.Walks h ⟨0, none⟩ (p.finder.allSpans h) :=
    advances.walks (by show h.size < h.size + 1 + 0; omega)
  refine ⟨p.finder.allSpans h, p.finder.toList_scan h, walks, walks.length_le advances, ?_, ?_, ?_⟩
  · rw [← List.head?_eq_getElem?, walks.head?_eq advances]
    rcases found : p.finder.find h 0 with _ | s
    · rw [Finder.next_of_none found]
      exact found.symm
    · rw [Finder.next_of_found found (by rintro ⟨-, last⟩; cases last)]
      exact found.symm
  · intro i s here
    rw [walks.getElem?_succ advances here]
    exact p.finder.next_after h s
  · intro literal needle
    obtain ⟨nonempty, hp⟩ := strategy_of_isLiteral compiled literal
    have size_ne : needle.size ≠ 0 := mt String.utf8ByteSize_eq_zero_iff.1 nonempty
    have findsFirst := (isLocal_of_literal hp).findsFirst
    refine ⟨fun s mem => ?_, walks.pairwise advances, fun i same => ?_⟩
    · obtain ⟨-, stop_eq, occurs⟩ := stopWithin_literal.1 (walks.stopAt_eq findsFirst s mem)
      refine ⟨stop_eq, ?_⟩
      rw [Span.of, stop_eq]
      exact occursAt_iff_extract_eq.1 occurs
    · have fits := congrArg ByteArray.size same
      rw [ByteArray.size_extract] at fits
      have stop := (stopWithin_literal (e := i + needle.size)).2
        ⟨show i ≤ h.size by omega, rfl, occursAt_iff_extract_eq.2 same⟩
      obtain ⟨s, mem, start_le, lt_stop⟩ :=
        walks.covers findsFirst (Nat.zero_le i) stop (by omega)
      rcases Nat.lt_or_eq_of_le start_le with lt | rfl
      · exact .inr ⟨s, mem, lt, lt_stop⟩
      · have stop_eq := (stopWithin_literal.1 (walks.stopAt_eq findsFirst s mem)).2.1
        refine .inl ?_
        rw [← stop_eq]
        exact mem

/-- The text `aa` in five letters: its occurrence at the end overlaps the second one reported. -/
theorem spans_in_succession_aa :
    let p : Pattern := ⟨"aa", .literal "aa".toUTF8⟩
    let h := "aaaaa".toUTF8
    compile "aa" {} = .ok p ∧ p.isLiteral ∧
      ∃ l : List Span, (p.finder.scan h).toList = l.map (Match.ofSpan h 0) ∧
        p.finder.Walks h ⟨0, none⟩ l ∧ l[0]? = some ⟨0, 2⟩ ∧ l[1]? = some ⟨2, 4⟩ ∧ l[2]? = none ∧
          (⟨3, 5⟩ ∈ l ∨ ∃ s ∈ l, s.start < 3 ∧ 3 < s.stop) := by
  intro p h
  have compiled : compile "aa" {} = .ok p := rfl
  obtain ⟨l, scanned, walks, -, first, onward, literal⟩ := spans_in_succession compiled h
  have first : l[0]? = some ⟨0, 2⟩ := first.trans (by decide)
  have second : l[1]? = some ⟨2, 4⟩ := (onward 0 _ first).trans (by decide)
  have third : l[2]? = none := (onward 1 _ second).trans (by decide)
  obtain ⟨-, -, occurrences⟩ := literal rfl
  exact ⟨compiled, rfl, l, scanned, walks, first, second, third, occurrences 3 (by decide)⟩

end FileSearch.Pattern
