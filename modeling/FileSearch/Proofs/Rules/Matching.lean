import FileSearch.Rules.Wildcard

/-!
# Matching wildcards

`rows` decides for all ends of a text at once whether the tokens stand for them.  Each of its
passes takes a row of answers to a row of answers (`row_answers`), so that `matchesText` decides
`Matches` (`matchesText_iff`).
-/

namespace FileSearch.Wildcard

variable {p : List Char → Bool} {t : Token} {ts : List Token} {c : Char} {s text : List Char}

/-- The answers of a test for each end of a text, from the whole text to the empty one. -/
def answers (p : List Char → Bool) : List Char → List Bool
  | [] => [p []]
  | c :: cs => p (c :: cs) :: answers p cs

theorem head?_answers (p : List Char → Bool) (text : List Char) :
    (answers p text).head? = some (p text) := by
  cases text with
  | nil => rfl
  | cons c cs => rfl

/-! ## One token -/

/-- Whether a text is a name part followed by what passes the test. -/
def afterName (p : List Char → Bool) : List Char → Bool
  | [] => p []
  | c :: cs => p (c :: cs) || (c != '/' && afterName p cs)

/-- Whether what passes the test follows after at least one name, or at least nothing if the text is
over. -/
def afterNames (p : List Char → Bool) : List Char → Bool
  | [] => p []
  | c :: cs => (c == '/' && p cs) || afterNames p cs

/-- Whether what passes the test follows after a character that a token admits. -/
def afterOne (t : Token) (p : List Char → Bool) : List Char → Bool
  | [] => false
  | c :: cs => t.admits c && p cs

/-- Whether a text is what a token stands for followed by what passes the test. -/
def Token.thenPasses (t : Token) (p : List Char → Bool) (text : List Char) : Bool :=
  match t with
  | .anyName => afterName p text
  | .anyPath => p text || afterNames p text
  | _ => afterOne t p text

theorem nameRow_row (p : List Char → Bool) (text : List Char) :
    nameRow text (answers p text) = answers (afterName p) text := by
  induction text with
  | nil => rfl
  | cons c cs ih => simp [answers, nameRow, ih, head?_answers, afterName]

theorem laterRow_row (p : List Char → Bool) (text : List Char) :
    laterRow text (answers p text) = answers (afterNames p) text := by
  induction text with
  | nil => rfl
  | cons c cs ih => simp [answers, laterRow, ih, head?_answers, afterNames]

theorem oneRow_row (t : Token) (p : List Char → Bool) (text : List Char) :
    oneRow t text (answers p text) = answers (afterOne t p) text := by
  induction text with
  | nil => rfl
  | cons c cs ih => simp [answers, oneRow, ih, head?_answers, afterOne]

theorem zipWith_or_row (p q : List Char → Bool) (text : List Char) :
    List.zipWith (· || ·) (answers p text) (answers q text) =
      answers (fun s => p s || q s) text := by
  induction text with
  | nil => rfl
  | cons c cs ih => simp [answers, ih]

theorem row_answers (t : Token) (p : List Char → Bool) (text : List Char) :
    t.row text (answers p text) = answers (t.thenPasses p) text := by
  cases t with
  | anyName => exact nameRow_row p text
  | anyPath =>
    rw [Token.row, laterRow_row, zipWith_or_row]
    rfl
  | _ => exact oneRow_row _ p text

/-! ## What a pass says -/

theorem afterName_iff : afterName p s = true ↔ ∃ a b, s = a ++ b ∧ '/' ∉ a ∧ p b = true := by
  induction s with
  | nil =>
    constructor
    · exact fun passes => ⟨[], [], rfl, List.not_mem_nil, passes⟩
    · rintro ⟨a, b, split, -, passes⟩
      obtain ⟨rfl, rfl⟩ := List.append_eq_nil_iff.1 split.symm
      exact passes
  | cons c cs ih =>
    rw [afterName, Bool.or_eq_true, Bool.and_eq_true, bne_iff_ne, ih]
    constructor
    · rintro (passes | ⟨other, a, b, rfl, name, passes⟩)
      · exact ⟨[], c :: cs, rfl, List.not_mem_nil, passes⟩
      · exact ⟨c :: a, b, rfl, List.not_mem_cons_of_ne_of_not_mem other.symm name, passes⟩
    · rintro ⟨_ | ⟨d, a⟩, b, split, name, passes⟩
      · rw [List.nil_append] at split
        exact .inl (split ▸ passes)
      · obtain ⟨rfl, rfl⟩ := List.cons.inj split
        exact .inr ⟨(List.ne_of_not_mem_cons name).symm, a, b, rfl,
          List.not_mem_of_not_mem_cons name, passes⟩

theorem afterNames_iff : afterNames p s = true ↔
    ∃ a b, s = a ++ b ∧ (a.getLast? = some '/' ∨ b = []) ∧ p b = true := by
  induction s with
  | nil =>
    constructor
    · exact fun passes => ⟨[], [], rfl, .inr rfl, passes⟩
    · rintro ⟨a, b, split, -, passes⟩
      obtain ⟨rfl, rfl⟩ := List.append_eq_nil_iff.1 split.symm
      exact passes
  | cons c cs ih =>
    rw [afterNames, Bool.or_eq_true, Bool.and_eq_true, beq_iff_eq, ih]
    constructor
    · rintro (⟨rfl, passes⟩ | ⟨a, b, rfl, ends, passes⟩)
      · exact ⟨['/'], cs, rfl, .inl rfl, passes⟩
      · refine ⟨c :: a, b, rfl, ends.imp_left fun last => ?_, passes⟩
        rw [List.getLast?_cons, last]
        rfl
    · rintro ⟨_ | ⟨d, a⟩, b, split, ends, passes⟩
      · rcases ends with last | rfl
        · cases last
        · cases split
      · obtain ⟨rfl, rfl⟩ := List.cons.inj split
        rcases a with _ | ⟨e, a⟩
        · rcases ends with last | rfl
          · exact .inl ⟨Option.some.inj last, passes⟩
          · exact .inr ⟨[], [], rfl, .inr rfl, passes⟩
        · rw [List.getLast?_cons_cons] at ends
          exact .inr ⟨_, b, rfl, ends, passes⟩

theorem afterOne_iff : afterOne t p s = true ↔ ∃ c cs, s = c :: cs ∧ t.admits c ∧ p cs = true := by
  cases s with
  | nil => simp [afterOne]
  | cons c cs =>
    rw [afterOne, Bool.and_eq_true]
    constructor
    · rintro ⟨admits, passes⟩
      exact ⟨c, cs, rfl, admits, passes⟩
    · rintro ⟨_, _, ⟨⟩, admits, passes⟩
      exact ⟨admits, passes⟩

/-! ## What tokens stand for -/

theorem matches_name_iff :
    Matches (.anyName :: ts) s ↔ ∃ a b, s = a ++ b ∧ '/' ∉ a ∧ Matches ts b := by
  constructor
  · intro stands
    cases stands with
    | one admits => cases admits
    | name name rest => exact ⟨_, _, rfl, name, rest⟩
  · rintro ⟨a, b, rfl, name, rest⟩
    exact .name name rest

theorem matches_path_iff : Matches (.anyPath :: ts) s ↔
    ∃ a b, s = a ++ b ∧ (a = [] ∨ a.getLast? = some '/' ∨ b = []) ∧ Matches ts b := by
  constructor
  · intro stands
    cases stands with
    | one admits => cases admits
    | path ends rest => exact ⟨_, _, rfl, ends, rest⟩
  · rintro ⟨a, b, rfl, ends, rest⟩
    exact .path ends rest

theorem matches_one_iff (name : t ≠ .anyName) (path : t ≠ .anyPath) :
    Matches (t :: ts) s ↔ ∃ c cs, s = c :: cs ∧ t.admits c ∧ Matches ts cs := by
  constructor
  · intro stands
    cases stands with
    | one admits rest => exact ⟨_, _, rfl, admits, rest⟩
    | name => exact absurd rfl name
    | path => exact absurd rfl path
  · rintro ⟨c, cs, rfl, admits, rest⟩
    exact .one admits rest

/-- Whether the tokens stand for a text, token by token. -/
def accepts : List Token → List Char → Bool
  | [] => List.isEmpty
  | t :: ts => t.thenPasses (accepts ts)

theorem rows_eq (text : List Char) (ts : List Token) :
    rows text ts = answers (accepts ts) text := by
  induction ts with
  | nil =>
    rw [rows]
    induction text with
    | nil => rfl
    | cons c cs ih =>
      rw [answers, ← ih]
      rfl
  | cons t ts ih =>
    rw [rows, ih, row_answers]
    rfl

theorem accepts_iff : accepts ts s = true ↔ Matches ts s := by
  induction ts generalizing s with
  | nil =>
    rw [accepts, List.isEmpty_iff]
    constructor
    · rintro rfl
      exact .nil
    · rintro ⟨⟩
      rfl
  | cons t ts ih =>
    have one : afterOne t (accepts ts) s = true ↔
        ∃ c cs, s = c :: cs ∧ t.admits c ∧ Matches ts cs := by
      simp only [afterOne_iff, ih]
    cases t with
    | anyName =>
      rw [accepts, Token.thenPasses, afterName_iff, matches_name_iff]
      simp only [ih]
    | anyPath =>
      rw [accepts, Token.thenPasses, Bool.or_eq_true, afterNames_iff, matches_path_iff]
      simp only [ih]
      constructor
      · rintro (stands | ⟨a, b, split, ends, stands⟩)
        · exact ⟨[], s, rfl, .inl rfl, stands⟩
        · exact ⟨a, b, split, .inr ends, stands⟩
      · rintro ⟨a, b, rfl, rfl | ends, stands⟩
        · exact .inl stands
        · exact .inr ⟨a, b, rfl, ends, stands⟩
    | _ =>
      rw [matches_one_iff (by simp) (by simp)]
      exact one

/-- `matchesText` tells whether the tokens stand for a text. -/
theorem matchesText_iff : matchesText ts text = true ↔ Matches ts text := by
  rw [matchesText, rows_eq, head?_answers, beq_iff_eq, Option.some.injEq]
  exact accepts_iff

/-- A pattern can be read and stands for a text. -/
def StandsFor (pattern text : List Char) : Prop :=
  ∃ tokens, Token.readFrom none pattern [] = some tokens ∧ Matches tokens text

end FileSearch.Wildcard
