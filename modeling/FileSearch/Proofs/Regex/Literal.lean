import FileSearch.Proofs.Regex.Spelling
import FileSearch.Proofs.Regex.Steps
import FileSearch.Proofs.Text.Utf8

/-!
# Patterns that mean a text

Where case matters, a pattern that spells a text means the bytes of the text, so it is refused for
its size at most (`compile_of_spells`).  The program of these bytes passes them one after another,
so that its search finds the first place at which the bytes stand (`search_passing`).
-/

namespace FileSearch.Regex

open Pattern (occursAt findLiteral)

/-! ## Meaning -/

section

variable {m : Modes} {f : Char → Expr} (means : ∀ l : Literal, m.literal l = f l.char)

include means

theorem meanings_literals (ls : List Literal) :
    Tree.meanings m (ls.map Tree.literal) = .ok ((ls.map (·.char)).map f, m) := by
  induction ls with
  | nil => rfl
  | cons l ls ih =>
    simp only [List.map_cons, Tree.meanings, Tree.meaning, bind, Except.bind, ih, means]
    rfl

theorem meaning_ofItems (alone : ∀ c, Expr.seq [f c] = f c) (span : Stretch) {ls : List Literal}
    (some : ls ≠ []) :
    (Tree.ofItems span (ls.map Tree.literal)).meaning m =
      .ok (Expr.seq ((ls.map (·.char)).map f), m) := by
  match ls with
  | [] => exact absurd rfl some
  | [l] => rw [List.map_singleton, Tree.ofItems, Tree.meaning, means, ← alone]; rfl
  | l :: l' :: ls =>
    have parts := meanings_literals means (l :: l' :: ls)
    simp only [List.map_cons] at parts
    simp only [List.map_cons, Tree.ofItems, Tree.meaning, parts, bind, Except.bind]
    rfl

/-- A pattern that spells a text means its characters one after another, and has the program of
these unless it is too large. -/
theorem compile_of_means (alone : ∀ c, Expr.seq [f c] = f c) {source : String} {text : List Char}
    (spells : Spells source.toList text) (nonempty : text ≠ []) :
    compile m source =
      if (Expr.seq (text.map f)).tooLarge then .error .tooLarge
      else .ok (.ofExpr (Expr.seq (text.map f))) := by
  obtain ⟨ls, span, rfl, read⟩ := read_of_spells spells
  have some : ls ≠ [] := fun none => nonempty (by rw [none, List.map_nil])
  rw [compile, meaning, read]
  simp only [meaning_ofItems means alone span some]
  split
  · rfl
  · rfl

end

/-! ## Bytes -/

/-- Whether literals stand for their characters only. -/
structure Modes.Exact (m : Modes) : Prop where
  caseSensitive : m.caseInsensitive = false
  unicode : m.unicode = true

variable {m : Modes}

theorem Modes.Exact.literal (hm : m.Exact) (l : Literal) :
    m.literal l = .literal (Utf8.encode l.char) := by
  simp only [Modes.literal, Modes.byteOf?, hm.unicode, hm.caseSensitive, if_true, Bool.false_and,
    Bool.false_eq_true, if_false]
  rfl

theorem joinLiterals_literals (first : List UInt8) (rest : List (List UInt8)) :
    Expr.joinLiterals ((first :: rest).map Expr.literal) = [.literal (first ++ rest.flatten)] := by
  induction rest generalizing first with
  | nil => simp [Expr.joinLiterals]
  | cons second rest ih =>
    have joined := ih second
    rw [List.map_cons, Expr.joinLiterals.eq_def]
    simp only [joined, List.flatten_cons]

theorem seq_literals (first : List UInt8) (rest : List (List UInt8)) :
    Expr.seq ((first :: rest).map Expr.literal) = .literal (first ++ rest.flatten) := by
  have joined := joinLiterals_literals first rest
  simp only [Expr.seq, List.flatMap_map, ← List.map_eq_flatMap, joined]

theorem seq_encoded {text : List Char} (nonempty : text ≠ []) :
    Expr.seq (text.map fun c => .literal (Utf8.encode c)) = .literal (Utf8.encodeAll text) := by
  obtain ⟨c, rest, rfl⟩ := List.exists_cons_of_ne_nil nonempty
  have joined := seq_literals (Utf8.encode c) (rest.map Utf8.encode)
  rw [← List.map_cons, List.map_map] at joined
  rw [Utf8.encodeAll, List.flatMap_cons, List.flatMap_def]
  exact joined

/-- A pattern that spells a text has the program of the text's bytes, unless it is too large. -/
theorem compile_of_spells (hm : m.Exact) {source : String} {text : List Char}
    (spells : Spells source.toList text) (nonempty : text ≠ []) :
    compile m source =
      if (Expr.literal (Utf8.encodeAll text)).tooLarge then .error .tooLarge
      else .ok (.ofExpr (.literal (Utf8.encodeAll text))) := by
  rw [← seq_encoded nonempty]
  exact compile_of_means hm.literal (fun _ => rfl) spells nonempty

/-! ## Searching for bytes -/

namespace Program

variable {needle h : ByteArray}

/-- The program that passes the given bytes. -/
def passing (needle : ByteArray) : Program := .ofExpr (.literal needle.data.toList)

theorem passes_passing (nonempty : needle.size ≠ 0) :
    (passing needle).Passes (needle.data.toList.map .byte) := by
  refine Expr.IsSteps.passes (.literal fun none => nonempty ?_)
  exact congrArg List.length none

/-- The search finds what a search for the bytes finds. -/
theorem search_passing (nonempty : needle.size ≠ 0) (h : ByteArray) (start : Nat) :
    (passing needle).search h start = findLiteral needle h start := by
  have same : Step.passAll h (needle.data.toList.map .byte) = fun i =>
      if occursAt needle h needle.size i 0 then some (i + needle.size) else none := by
    funext i
    apply Option.ext
    intro j
    rw [Step.passAll_bytes, prefix_bytesFrom_iff, ← Pattern.occursAt_iff_extract_eq,
      Option.ite_none_right_eq_some, Option.some.injEq]
    rfl
  rw [(passes_passing nonempty).search, same, findLiteral, Pattern.firstOccurrence_eq]
  apply Option.ext
  intro s
  rw [Finder.firstFrom_eq_some_iff, Finder.firstFrom_eq_some_iff]
  -- The program also tries places at which too few bytes are left.
  constructor
  · rintro ⟨le, lt, stop, first⟩
    have occurs := (Option.ite_none_right_eq_some.1 stop).1
    have := Pattern.add_size_le_of_occursAt (by omega) occurs
    exact ⟨le, by omega, stop, first⟩
  · rintro ⟨le, lt, stop, first⟩
    exact ⟨le, by omega, stop, first⟩

end Program

end FileSearch.Regex
