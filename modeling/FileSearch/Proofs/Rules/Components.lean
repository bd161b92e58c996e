import FileSearch.Proofs.Rules.Matching
import Mathlib.Data.List.Forall2

/-!
# Names of a pattern and names of a text

A pattern without `**` is read sign by sign (`Reads`), so that what is read between two of its
slashes is what that name of the pattern means by itself.  No token other than a slash stands for a
slash.  So a text for which the pattern stands has as many names as the pattern, each of them one
for which the name of the pattern in its place stands (`forall₂_standsFor`).
-/

namespace FileSearch.Wildcard

variable {c : Char} {cs inside after text : List Char} {ts : List Token} {t : Token}
  {prev : Option Char} {acc : List Token}

/-! ## Brackets -/

/-- The characters that are written in a part of a bracket expression. -/
def ClassItem.written : ClassItem → List Char
  | .one c => [c]
  | .range lo hi => [lo, hi]

/-- The characters that are written between the brackets of a token, except for the dashes of
ranges. -/
def Token.bracketed : Token → List Char
  | .within items | .except items => items.flatMap ClassItem.written
  | _ => []

theorem mem_bracketed_iff (dash : c ≠ '-') :
    c ∈ (Token.classItems cs).flatMap ClassItem.written ↔ c ∈ cs := by
  fun_induction Token.classItems cs with
  | case1 lo hi rest ih =>
    simp only [List.flatMap_cons, List.mem_append, ih, ClassItem.written, List.mem_cons, dash,
      List.not_mem_nil, or_false, false_or, or_assoc]
  | case2 first rest _ ih =>
    simp only [List.flatMap_cons, List.mem_append, ih, ClassItem.written, List.mem_cons,
      List.not_mem_nil, or_false]
  | case3 => simp

theorem eq_of_splitAtBracket (split : Token.splitAtBracket cs = some (inside, after)) :
    cs = inside ++ ']' :: after ∧ ']' ∉ inside := by
  induction cs generalizing inside with
  | nil => cases split
  | cons c cs ih =>
    rw [Token.splitAtBracket] at split
    split at split
    next closing =>
      cases split
      exact ⟨by rw [closing]; rfl, List.not_mem_nil⟩
    next other =>
      obtain ⟨⟨front, behind⟩, split, same⟩ := Option.map_eq_some_iff.1 split
      cases same
      obtain ⟨rfl, closed⟩ := ih split
      exact ⟨rfl, List.not_mem_cons_of_ne_of_not_mem (Ne.symm other) closed⟩

theorem splitAtBracket_append (after : List Char) (closed : ']' ∉ inside) :
    Token.splitAtBracket (inside ++ ']' :: after) = some (inside, after) := by
  induction inside with
  | nil => rfl
  | cons c inside ih =>
    have other : c ≠ ']' := (List.ne_of_not_mem_cons closed).symm
    rw [List.cons_append, Token.splitAtBracket, if_neg other,
      ih (List.not_mem_of_not_mem_cons closed)]
    rfl

theorem readFrom_except (closed : ']' ∉ inside) :
    Token.readFrom prev ('[' :: '!' :: c :: (inside ++ ']' :: after)) acc =
      Token.readFrom (some ']') after (.except (Token.classItems (c :: inside)) :: acc) := by
  have split := splitAtBracket_append after closed
  simp only [Token.readFrom]
  split
  next here =>
    cases split.symm.trans here
    rfl
  next here => cases split.symm.trans here

theorem readFrom_within (first : c ≠ '!') (closed : ']' ∉ inside) :
    Token.readFrom prev ('[' :: c :: (inside ++ ']' :: after)) acc =
      Token.readFrom (some ']') after (.within (Token.classItems (c :: inside)) :: acc) := by
  have split := splitAtBracket_append after closed
  rw [Token.readFrom, if_neg first]
  · split
    next here =>
      cases split.symm.trans here
      rfl
    next here => cases split.symm.trans here
  · exact fun _ _ mark => absurd mark first

/-! ## Reading sign by sign -/

/-- How a pattern without `**` is read. -/
inductive Reads : List Char → List Token → Prop where
  | nil : Reads [] []
  | anyChar {cs : List Char} {ts : List Token} : Reads cs ts → Reads ('?' :: cs) (.anyChar :: ts)
  | anyName {cs : List Char} {ts : List Token} : cs.head? ≠ some '*' → Reads cs ts →
    Reads ('*' :: cs) (.anyName :: ts)
  | except {c : Char} {inside after : List Char} {ts : List Token} : ']' ∉ inside →
    Reads after ts → Reads ('[' :: '!' :: c :: (inside ++ ']' :: after))
      (.except (Token.classItems (c :: inside)) :: ts)
  | within {c : Char} {inside after : List Char} {ts : List Token} : c ≠ '!' → ']' ∉ inside →
    Reads after ts → Reads ('[' :: c :: (inside ++ ']' :: after))
      (.within (Token.classItems (c :: inside)) :: ts)
  | char {c : Char} {cs : List Char} {ts : List Token} : c ≠ '?' → c ≠ '*' → c ≠ '[' →
    Reads cs ts → Reads (c :: cs) (.char c :: ts)

namespace Reads

theorem not_twoStars (front : List Char) (plain : ¬ ['*', '*'] <:+: front ++ cs) :
    ¬ ['*', '*'] <:+: cs :=
  fun stars => plain (stars.trans (List.suffix_append front cs).isInfix)

/-- What can be read of a pattern without `**` is read sign by sign. -/
theorem of_readFrom {out : List Token} (plain : ¬ ['*', '*'] <:+: cs)
    (read : Token.readFrom prev cs acc = some out) :
    ∃ ts, out = acc.reverse ++ ts ∧ Reads cs ts := by
  fun_induction Token.readFrom prev cs acc generalizing out with
  | case1 prev acc =>
    cases read
    exact ⟨[], (List.append_nil _).symm, .nil⟩
  | case2 prev acc rest ih =>
    obtain ⟨ts, rfl, reads⟩ := ih (not_twoStars ['?'] plain) read
    exact ⟨_, by simp, .anyChar reads⟩
  | case3 | case4 | case5 | case6 => exact absurd ⟨[], _, rfl⟩ plain
  | case7 prev acc rest next ih =>
    obtain ⟨ts, rfl, reads⟩ := ih (not_twoStars ['*'] plain) read
    refine ⟨_, by simp, .anyName (fun star => ?_) reads⟩
    obtain ⟨rest', split⟩ := List.head?_eq_some_iff.1 star
    exact next rest' split
  | case8 prev acc c rest inside after split ih =>
    obtain ⟨rfl, closed⟩ := eq_of_splitAtBracket split
    obtain ⟨ts, rfl, reads⟩ :=
      ih (not_twoStars ('[' :: '!' :: c :: inside ++ [']']) (by simpa using plain)) read
    exact ⟨_, by simp, .except closed reads⟩
  | case11 prev acc c rest _ first inside after split ih =>
    obtain ⟨rfl, closed⟩ := eq_of_splitAtBracket split
    obtain ⟨ts, rfl, reads⟩ :=
      ih (not_twoStars ('[' :: c :: inside ++ [']']) (by simpa using plain)) read
    exact ⟨_, by simp, .within first closed reads⟩
  | case14 prev acc c rest single _ star _ bracket alone ih =>
    obtain ⟨ts, rfl, reads⟩ := ih (not_twoStars [c] plain) read
    refine ⟨_, by simp, .char single star (fun opening => ?_) reads⟩
    cases rest with
    | nil => exact alone opening rfl
    | cons d rest => exact bracket d rest opening rfl
  | _ => cases read

theorem readFrom (reads : Reads cs ts) (prev : Option Char) (acc : List Token) :
    Token.readFrom prev cs acc = some (acc.reverse ++ ts) := by
  induction reads generalizing prev acc with
  | nil => rw [Token.readFrom, List.append_nil]
  | anyChar _ ih => rw [Token.readFrom, ih]; simp
  | anyName next _ ih =>
    rw [Token.readFrom, ih]
    · simp
    · rintro rest rfl
      exact next rfl
  | except closed _ ih => rw [readFrom_except closed, ih]; simp
  | within first closed _ ih => rw [readFrom_within first closed, ih]; simp
  | char single star bracket _ ih =>
    rw [Token.readFrom, ih]
    · simp
    all_goals simp [single, star, bracket]

end Reads

/-! ## Names -/

theorem splitOn_append_of_notMem {a : List Char} (free : '/' ∉ a) (cs : List Char) :
    (a ++ cs).splitOn '/' = (cs.splitOn '/').modifyHead (a ++ ·) := by
  induction a with
  | nil => exact (congrFun List.modifyHead_id _).symm
  | cons c a ih =>
    have other : ¬(c == '/') = true := by
      rw [beq_iff_eq]
      exact (List.ne_of_not_mem_cons free).symm
    rw [List.cons_append, List.splitOn_cons_eq_if_modifyHead, if_neg other,
      ih (List.not_mem_of_not_mem_cons free), List.modifyHead_modifyHead]
    rfl

/-- The first name of a pattern stands at its front. -/
theorem first_name {p : List Char} {ps : List (List Char)} (split : cs.splitOn '/' = p :: ps) :
    p <+: cs := by
  have whole : ['/'].intercalate (cs.splitOn '/') = cs := List.intercalate_splitOn '/'
  rw [split] at whole
  cases ps with
  | nil => exact ⟨[], by rwa [List.intercalate_singleton, ← List.append_nil p] at whole⟩
  | cons next ps =>
    rw [List.intercalate_cons_cons, List.append_assoc] at whole
    exact ⟨_, whole⟩

/-- What a token other than a slash stands for is part of a name, and stands there in front of
anything else as well. -/
theorem exists_part (slash : t ≠ .char '/') (path : t ≠ .anyPath)
    (stands : Matches (t :: ts) text) :
    ∃ a rest, text = a ++ rest ∧ '/' ∉ a ∧ Matches ts rest ∧
      ∀ us n, Matches us n → Matches (t :: us) (a ++ n) := by
  cases stands with
  | @one _ c _ rest admits stands =>
    refine ⟨[c], rest, rfl, ?_, stands, fun us n stands => .one admits stands⟩
    rw [List.mem_singleton]
    rintro rfl
    cases t <;> simp [Token.admits] at admits
    exact slash (congrArg _ admits)
  | name free stands => exact ⟨_, _, rfl, free, stands, fun us n stands => .name free stands⟩
  | path => exact absurd rfl path

/-- A name of a pattern that is read sign by sign stands for a name. -/
def Fits (pattern name : List Char) : Prop := ∃ ts, Reads pattern ts ∧ Matches ts name

/-- The signs of a token in front of a pattern go to the first name. -/
theorem forall₂_fits_append (t : Token) (signs : List Char) (slash : t ≠ .char '/')
    (path : t ≠ .anyPath) (free : '/' ∉ signs)
    (reads : ∀ p us, p <+: cs → Reads p us → Reads (signs ++ p) (t :: us))
    (names : ∀ rest, Matches ts rest → List.Forall₂ Fits (cs.splitOn '/') (rest.splitOn '/'))
    (stands : Matches (t :: ts) text) :
    List.Forall₂ Fits ((signs ++ cs).splitOn '/') (text.splitOn '/') := by
  obtain ⟨a, rest, rfl, free', stands, front⟩ := exists_part slash path stands
  have names := names rest stands
  rw [splitOn_append_of_notMem free, splitOn_append_of_notMem free']
  cases split : cs.splitOn '/' with
  | nil => exact absurd split (List.splitOn_ne_nil _ _)
  | cons p ps =>
    rw [split, List.forall₂_cons_left_iff] at names
    obtain ⟨n, ns, ⟨us, read, fits⟩, later, split'⟩ := names
    rw [split']
    exact .cons ⟨t :: us, reads p us (first_name split) read, front us n fits⟩ later

theorem forall₂_fits (reads : Reads cs ts) (free : ∀ t ∈ ts, '/' ∉ t.bracketed)
    (stands : Matches ts text) : List.Forall₂ Fits (cs.splitOn '/') (text.splitOn '/') := by
  induction reads generalizing text with
  | nil =>
    cases stands
    exact .cons ⟨[], .nil, .nil⟩ .nil
  | anyChar _ ih =>
    rw [List.forall_mem_cons] at free
    exact forall₂_fits_append .anyChar ['?'] nofun nofun (by decide)
      (fun _ _ _ read => .anyChar read) (fun _ => ih free.2) stands
  | anyName next _ ih =>
    rw [List.forall_mem_cons] at free
    refine forall₂_fits_append .anyName ['*'] nofun nofun (by decide)
      (fun p us first read => .anyName (fun star => next ?_) read) (fun _ => ih free.2) stands
    obtain ⟨p', rfl⟩ : ∃ p', p = '*' :: p' := List.head?_eq_some_iff.1 star
    obtain ⟨behind, rfl⟩ := first
    rfl
  | @except c inside after ts closed _ ih =>
    rw [List.forall_mem_cons] at free
    have inner : '/' ∉ c :: inside := mt (mem_bracketed_iff (by decide)).2 free.1
    have signs := forall₂_fits_append (.except (Token.classItems (c :: inside)))
      ('[' :: '!' :: (c :: inside) ++ [']']) nofun nofun (by simpa using inner)
      (fun p us _ read => by simpa using .except (c := c) closed read) (fun _ => ih free.2) stands
    simpa using signs
  | @within c inside after ts first closed _ ih =>
    rw [List.forall_mem_cons] at free
    have inner : '/' ∉ c :: inside := mt (mem_bracketed_iff (by decide)).2 free.1
    have signs := forall₂_fits_append (.within (Token.classItems (c :: inside)))
      ('[' :: (c :: inside) ++ [']']) nofun nofun (by simpa using inner)
      (fun p us _ read => by simpa using .within first closed read) (fun _ => ih free.2) stands
    simpa using signs
  | @char c cs ts single star bracket _ ih =>
    rw [List.forall_mem_cons] at free
    by_cases slash : c = '/'
    · subst slash
      obtain ⟨d, rest, rfl, admits, later⟩ :=
        (matches_one_iff (t := .char '/') nofun nofun).1 stands
      rw [Token.admits, beq_iff_eq] at admits
      subst admits
      rw [List.splitOn_cons_eq_if_modifyHead, List.splitOn_cons_eq_if_modifyHead]
      exact .cons ⟨[], .nil, .nil⟩ (ih free.2 later)
    · exact forall₂_fits_append (.char c) [c] (fun same => slash (Token.char.inj same)) nofun
        (by rwa [List.mem_singleton, eq_comm]) (fun _ _ _ read => .char single star bracket read)
        (fun _ => ih free.2) stands

/-- A pattern without `**` and without slashes in brackets stands only for texts with as many names
as it has itself, each name of the pattern for the name of the text in its place. -/
theorem forall₂_standsFor {tokens : List Token} (plain : ¬ ['*', '*'] <:+: cs)
    (read : Token.readFrom none cs [] = some tokens) (free : ∀ t ∈ tokens, '/' ∉ t.bracketed)
    (stands : Matches tokens text) :
    List.Forall₂ StandsFor (cs.splitOn '/') (text.splitOn '/') := by
  obtain ⟨ts, rfl, reads⟩ := Reads.of_readFrom plain read
  refine (forall₂_fits reads free stands).imp ?_
  rintro p n ⟨us, reads, stands⟩
  exact ⟨us, reads.readFrom none [], stands⟩

end FileSearch.Wildcard
