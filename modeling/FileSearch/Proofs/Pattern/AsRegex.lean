import FileSearch.Proofs.Regex.Literal

/-!
# Literal patterns as regular expressions

A text that is searched for byte by byte could be searched for as a regular expression as well: what
`escape` makes of it, or the text itself if it has no signs.  This expression is refused for its size
at most, and nothing shows which of the two ways is taken (`findAt_asRegex`).
-/

namespace FileSearch

/-! ## Finders that find the same -/

namespace Finder

variable {f g : Finder}

theorem collect_congr (same : f.find = g.find) (h : ByteArray) (room : Nat) (r : Resume)
    (found : Array Span) : f.collect h room r found = g.collect h room r found := by
  have next_eq (r : Resume) : f.next h r = g.next h r := by rw [next, next, same]
  induction room generalizing r found with
  | zero => rfl
  | succ room ih =>
    rw [collect, collect, next_eq]
    rcases g.next h r with _ | s
    · rfl
    · exact ih (.after s) (found.push s)

theorem spans_congr (same : f.find = g.find) (h : ByteArray) : f.spans h = g.spans h :=
  collect_congr same h _ _ _

/-- Scans depend only on where matches are found. -/
theorem scan_congr (same : f.find = g.find) (h : ByteArray) : f.scan h = g.scan h := by
  rw [scan, scan, spans_congr same]

end Finder

/-! ## Literals -/

namespace Pattern

theorem exact_modes {options : PatternOptions} (caseSensitive : options.caseSensitive) :
    (modes options).Exact where
  caseSensitive := by
    rw [modes, caseSensitive]
    rfl
  unicode := rfl

theorem compile_literally {text : String} {options : PatternOptions} (nonempty : text ≠ "")
    (literal : takesLiterally text options) (caseSensitive : options.caseSensitive) :
    compile text options = .ok ⟨text, .literal text.toUTF8⟩ := by
  have : text.isEmpty = false := by simpa using nonempty
  rw [compile, this, literal, caseSensitive]
  rfl

/-- The program of a pattern that spells a text finds what a search for its bytes finds. -/
theorem findAt_of_spells {m : Regex.Modes} (exact : m.Exact) {source text : String}
    (spells : Regex.Spells source.toList text.toList) (nonempty : text ≠ "")
    {program : Regex.Program} (compiled : Regex.compile m source = .ok program) :
    findAt ⟨text, .regex program⟩ = findAt ⟨text, .literal text.toUTF8⟩ := by
  have chars : text.toList ≠ [] := by simpa using nonempty
  have size_ne : text.toUTF8.size ≠ 0 := mt String.utf8ByteSize_eq_zero_iff.1 nonempty
  rw [Regex.compile_of_spells exact spells chars, ← Utf8.toList_toUTF8] at compiled
  split at compiled
  · cases compiled
  · obtain rfl := Except.ok.inj compiled
    funext h start
    simp only [findAt]
    rw [← Regex.Program.search_passing size_ne]
    rfl

/-- Where case matters, a text that is taken literally is searched for byte by byte.  Nothing shows
that it was not compiled to a regular expression that spells it, which has no syntax error. -/
theorem findAt_asRegex {text source : String} {options : PatternOptions} (nonempty : text ≠ "")
    (caseSensitive : options.caseSensitive) (literal : takesLiterally text options)
    (spelled : source = Regex.escape text ∨ isRegex text = false ∧ source = text) :
    ∃ p, compile text options = .ok p ∧ p.isLiteral ∧
      (∀ fault, Regex.compile (modes options) source ≠ .error (.fault fault)) ∧
      ∀ program, Regex.compile (modes options) source = .ok program →
        let q : Pattern := ⟨text, .regex program⟩
        (∀ h start, q.findAt h start = p.findAt h start) ∧
          ∀ h, q.finder.spans h = p.finder.spans h ∧ q.finder.scan h = p.finder.scan h := by
  have spells : Regex.Spells source.toList text.toList := by
    rcases spelled with rfl | ⟨plain, rfl⟩
    · exact .escape text
    · exact .of_not_isRegex plain
  have exact := exact_modes caseSensitive
  refine ⟨_, compile_literally nonempty literal caseSensitive, rfl, fun fault => ?_,
    fun program compiled => ?_⟩
  · have chars : text.toList ≠ [] := by simpa using nonempty
    rw [Regex.compile_of_spells exact spells chars]
    split
    · nofun
    · nofun
  · have same := findAt_of_spells exact spells nonempty compiled
    refine ⟨fun h start => by rw [same], fun h => ⟨?_, ?_⟩⟩
    · exact Finder.spans_congr same h
    · exact Finder.scan_congr same h

set_option maxRecDepth 100000 in
/-- The text `a.b`, whose regular expression has a backslash before the dot. -/
theorem findAt_asRegex_dot :
    let options : PatternOptions := { literal := true }
    "a.b" ≠ "" ∧ options.caseSensitive ∧ takesLiterally "a.b" options ∧
      ∃ p program, compile "a.b" options = .ok p ∧
        Regex.compile (modes options) (Regex.escape "a.b") = .ok program ∧
        ∀ h start, findAt ⟨"a.b", .regex program⟩ h start = p.findAt h start := by
  intro options
  have literal : takesLiterally "a.b" options := rfl
  have regex : Regex.compile (modes options) (Regex.escape "a.b") =
      .ok ⟨#[.byte 0x61 1, .byte 0x2E 2, .byte 0x62 3, .accept]⟩ := rfl
  obtain ⟨p, compiled, -, -, same⟩ := findAt_asRegex (by decide) rfl literal (.inl rfl)
  exact ⟨by decide, rfl, literal, p, _, compiled, regex, (same _ regex).1⟩

end Pattern

end FileSearch
