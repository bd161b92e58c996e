import FileSearch.Pattern

/-!
# Patterns that spell a text

A pattern spells a text if it writes each character of the text as it is or, where the character has
a meaning of its own, behind a backslash (`Spells`).  Texts without signs spell themselves, and every
text is spelled by what `escape` makes of it.  Such a pattern is read without a fault, as one literal
for each character (`read_of_spells`).
-/

namespace FileSearch.Regex

open Pattern (regexSigns isRegex)

/-- Whether a pattern spells a text character by character. -/
inductive Spells : List Char → List Char → Prop where
  | nil : Spells [] []
  | plain {c : Char} {source text : List Char} :
    c ∉ regexSigns → Spells source text → Spells (c :: source) (c :: text)
  | escaped {c : Char} {source text : List Char} :
    c ∈ metaChars → Spells source text → Spells ('\\' :: c :: source) (c :: text)

theorem Spells.of_not_isRegex {text : String} (h : isRegex text = false) :
    Spells text.toList text.toList := by
  rw [isRegex, List.any_eq_false] at h
  simp only [List.contains_iff_mem] at h
  generalize text.toList = cs at h
  induction cs with
  | nil => exact .nil
  | cons c cs ih =>
    rw [List.forall_mem_cons] at h
    exact .plain h.1 (ih h.2)

/-- Whatever has a meaning of its own is written behind a backslash. -/
theorem regexSigns_subset_metaChars : ∀ c ∈ regexSigns, c ∈ metaChars := by
  have all : regexSigns.all metaChars.contains = true := by decide
  intro c mem
  exact List.contains_iff_mem.1 (List.all_eq_true.1 all c mem)

theorem Spells.escape (text : String) : Spells (escape text).toList text.toList := by
  rw [Regex.escape, String.toList_ofList]
  induction text.toList with
  | nil => exact .nil
  | cons c cs ih =>
    rw [List.flatMap_cons]
    by_cases special : c ∈ metaChars
    · rw [if_pos (List.contains_iff_mem.2 special)]
      exact .escaped special ih
    · rw [if_neg (mt List.contains_iff_mem.1 special)]
      exact .plain (mt (regexSigns_subset_metaChars c) special) ih

/-! ## Reading -/

/-- The literal of a character that was written in a stretch. -/
def literalAt (c : Char) (span : Stretch) : Literal := { char := c, byteEscape := false, span }

/-- How far a pattern has been read after one more literal. -/
def Progress.push (p : Progress) (l : Literal) : Progress :=
  { p with current := { p.current with items := .literal l :: p.current.items } }

namespace Reader

theorem item_of_plain {c : Char} (plain : c ∉ regexSigns) (p : Progress) (source : List Char)
    (pos : Nat) :
    (item p c).run ⟨c :: source, pos, false⟩ =
      .ok (p.push (literalAt c (.char pos)), ⟨source, pos + 1, false⟩) := by
  simp only [regexSigns, List.mem_cons, List.not_mem_nil, or_false, not_or] at plain
  obtain ⟨backslash, caret, dollar, dot, bar, question, star, plus, opening, closing, bracket, -,
    brace, -⟩ := plain
  unfold item primitive
  split
  · exact absurd rfl opening
  · exact absurd rfl closing
  · exact absurd rfl bar
  · exact absurd rfl bracket
  · exact absurd rfl question
  · exact absurd rfl star
  · exact absurd rfl plus
  · exact absurd rfl brace
  · rw [if_neg backslash]
    split
    · exact absurd rfl dot
    · exact absurd rfl caret
    · exact absurd rfl dollar
    · rfl

theorem item_of_escaped {c : Char} (special : c ∈ metaChars) (p : Progress) (source : List Char)
    (pos : Nat) :
    (item p '\\').run ⟨'\\' :: c :: source, pos, false⟩ =
      .ok (p.push (literalAt c ⟨pos, pos + 2⟩), ⟨source, pos + 2, false⟩) := by
  simp only [metaChars, List.mem_cons, List.not_mem_nil, or_false] at special
  rcases special with rfl | rfl | rfl | rfl | rfl | rfl | rfl | rfl | rfl | rfl | rfl | rfl | rfl |
    rfl | rfl | rfl | rfl | rfl <;> rfl

theorem run_items_cons (limit : Nat) (p : Progress) (c : Char) (source : List Char) (pos : Nat) :
    (items (limit + 1) p).run ⟨c :: source, pos, false⟩ =
      (item p c).run ⟨c :: source, pos, false⟩ >>= fun (p, rest) => (items limit p).run rest := rfl

/-- The items of a pattern that spells a text are read as literals, whatever stands before them. -/
theorem items_of_spells {source text : List Char} (h : Spells source text) {limit : Nat}
    (enough : source.length < limit) (p : Progress) (pos : Nat) :
    ∃ (ls : List Literal) (stop : Nat), ls.map (·.char) = text ∧
      (items limit p).run ⟨source, pos, false⟩ = .ok (ls.foldl Progress.push p, ⟨[], stop, false⟩) := by
  induction h generalizing limit p pos with
  | nil =>
    obtain ⟨limit, rfl⟩ := Nat.exists_eq_add_of_lt enough
    exact ⟨[], pos, rfl, rfl⟩
  | @plain c source text plain _ ih =>
    obtain ⟨limit, rfl⟩ := Nat.exists_eq_add_of_lt enough
    let l := literalAt c (.char pos)
    have rest : source.length < (c :: source).length + limit := by
      rw [List.length_cons]
      omega
    obtain ⟨ls, stop, chars, read⟩ := ih rest (p.push l) (pos + 1)
    refine ⟨l :: ls, stop, congrArg _ chars, ?_⟩
    rw [run_items_cons, item_of_plain plain]
    exact read
  | @escaped c source text special _ ih =>
    obtain ⟨limit, rfl⟩ := Nat.exists_eq_add_of_lt enough
    let l := literalAt c ⟨pos, pos + 2⟩
    have rest : source.length < ('\\' :: c :: source).length + limit := by
      rw [List.length_cons, List.length_cons]
      omega
    obtain ⟨ls, stop, chars, read⟩ := ih rest (p.push l) (pos + 2)
    refine ⟨l :: ls, stop, congrArg _ chars, ?_⟩
    rw [run_items_cons, item_of_escaped special]
    exact read

end Reader

theorem foldl_push (ls : List Literal) (p : Progress) :
    ls.foldl Progress.push p =
      { p with
        current := { p.current with items := (ls.map Tree.literal).reverse ++ p.current.items } } := by
  induction ls generalizing p with
  | nil => rfl
  | cons l ls ih =>
    rw [List.foldl_cons, ih]
    simp [Progress.push]

theorem anyTooDeep_literals (ls : List Literal) (depth : Nat) :
    Tree.anyTooDeep (ls.map Tree.literal) depth = none := by
  induction ls with
  | nil => rfl
  | cons l ls ih =>
    rw [List.map_cons, Tree.anyTooDeep, ih]
    rfl

theorem tooDeep_literals (span : Stretch) (ls : List Literal) :
    (Tree.ofItems span (ls.map Tree.literal)).tooDeep 0 = none := by
  match ls with
  | [] => rfl
  | [l] => rfl
  | l :: l' :: ls => exact anyTooDeep_literals (l :: l' :: ls) 1

/-- A pattern that spells a text is read as one literal for each character. -/
theorem read_of_spells {source : String} {text : List Char} (h : Spells source.toList text) :
    ∃ (ls : List Literal) (span : Stretch), ls.map (·.char) = text ∧
      Tree.read source = .ok (.ofItems span (ls.map Tree.literal)) := by
  obtain ⟨ls, stop, chars, items⟩ :=
    Reader.items_of_spells h (Nat.lt_succ_self _) ⟨[], ⟨0, []⟩, []⟩ 0
  refine ⟨ls, ⟨0, stop⟩, chars, ?_⟩
  rw [foldl_push] at items
  have whole : Reader.whole.run ⟨source.toList, 0, false⟩ =
      .ok (.ofItems ⟨0, stop⟩ (ls.map Tree.literal), ⟨[], stop, false⟩) := by
    change ((Reader.items (source.toList.length + 1) ⟨[], ⟨0, []⟩, []⟩).run _ >>= _) = _
    rw [items]
    simp only [bind, Except.bind, Progress.close, Sequence.toTree, List.append_nil,
      List.reverse_reverse]
    rfl
  rw [Tree.read, whole]
  simp only [bind, Except.bind, tooDeep_literals]
  rfl

end FileSearch.Regex
