import FileSearch.Proofs.Pattern.Local
import FileSearch.Proofs.Regex.Layout
import FileSearch.Proofs.Text.Bytes

/-!
# Programs of one step after another

A sequence of literals and sets is laid out as one instruction for each byte and each set, with the
next one behind it (`Expr.passes_seq`); neither the joining of literals nor the nesting of the
sequence shows.  Such a program goes through its steps without marking anything as tried
(`Program.Passes.explore`), so that its search finds the first place from which all steps lead on
(`Program.Passes.search`).
-/

namespace FileSearch.Regex

/-- Something that is passed: a byte or a member of a set. -/
inductive Step where
  | byte (b : UInt8)
  | set (s : MemberSet)

namespace Step

/-- The instruction that passes a step and goes on at another one. -/
def inst : Step → Nat → Inst
  | byte b, next => .byte b next
  | set s, next => .set s next

/-- The place behind a step. -/
def pass (h : ByteArray) (i : Nat) : Step → Option Nat
  | byte b => if h[i]? == some b then some (i + 1) else none
  | set s => s.pass h i

/-- The place behind steps one after another. -/
def passAll (h : ByteArray) : List Step → Nat → Option Nat
  | [], i => some i
  | s :: ss, i => (s.pass h i).bind (passAll h ss)

/-- The instructions of steps one after another, from the number `base` on. -/
def code : List Step → Nat → List Inst
  | [], _ => []
  | s :: ss, base => s.inst (base + 1) :: code ss (base + 1)

variable {h : ByteArray}

theorem passAll_append (first second : List Step) (i : Nat) :
    passAll h (first ++ second) i = (passAll h first i).bind (passAll h second) := by
  induction first generalizing i with
  | nil => rfl
  | cons s first ih =>
    rw [List.cons_append, passAll, passAll, Option.bind_assoc]
    congr 1
    funext j
    exact ih j

/-- Bytes are passed where they stand. -/
theorem passAll_bytes {bs : List UInt8} {i j : Nat} :
    passAll h (bs.map byte) i = some j ↔ bs <+: bytesFrom h i ∧ i + bs.length = j := by
  induction bs generalizing i with
  | nil => simp [passAll]
  | cons b bs ih =>
    rw [List.map_cons, passAll, cons_prefix_bytesFrom, List.length_cons, Option.bind_eq_some_iff]
    simp only [pass, Option.ite_none_right_eq_some, Option.some.injEq, beq_iff_eq, ih]
    constructor
    · rintro ⟨_, ⟨here, rfl⟩, rest, ends⟩
      exact ⟨⟨here, rest⟩, by omega⟩
    · rintro ⟨⟨here, rest⟩, ends⟩
      exact ⟨i + 1, ⟨here, rfl⟩, rest, by omega⟩

theorem length_code (ss : List Step) (base : Nat) : (code ss base).length = ss.length := by
  induction ss generalizing base with
  | nil => rfl
  | cons s ss ih => rw [code, List.length_cons, ih, List.length_cons]

theorem code_append (first second : List Step) (base : Nat) :
    code (first ++ second) base = code first base ++ code second (base + first.length) := by
  induction first generalizing base with
  | nil => rfl
  | cons s first ih =>
    rw [List.cons_append, code, ih, code, List.cons_append, List.length_cons, Nat.add_right_comm,
      Nat.add_assoc]

theorem code_getElem? {ss : List Step} {base i : Nat} (hi : i < ss.length) :
    (code ss base)[i]? = some (ss[i].inst (base + i + 1)) := by
  induction ss generalizing base i with
  | nil => cases hi
  | cons s ss ih =>
    rcases i with _ | i
    · rfl
    · rw [code, List.getElem?_cons_succ, ih (Nat.lt_of_succ_lt_succ hi), List.getElem_cons_succ,
        Nat.add_right_comm base 1 i, Nat.add_assoc base i 1]

end Step

/-- A program that goes through steps. -/
def Program.Passes (p : Program) (ss : List Step) : Prop :=
  p.insts = (Step.code ss 0 ++ [Inst.accept]).toArray

/-! ## Expressions that are steps -/

namespace Expr

/-- The steps of a literal or a set. -/
def steps : Expr → List Step
  | .literal bs => bs.map .byte
  | .set s => [.set s]
  | _ => []

/-- A literal with bytes or a set. -/
inductive IsSteps : Expr → Prop where
  | literal {bs : List UInt8} : bs ≠ [] → IsSteps (.literal bs)
  | set (s : MemberSet) : IsSteps (.set s)

variable {e : Expr} {es : List Expr}

theorem literalCode_eq {bs : List UInt8} (some : bs ≠ []) (base : Nat) :
    literalCode bs base (base + bs.length) = Step.code (bs.map .byte) base := by
  induction bs generalizing base with
  | nil => exact absurd rfl some
  | cons b bs ih =>
    rcases bs with _ | ⟨b', bs⟩
    · rfl
    · have rest := ih (List.cons_ne_nil b' bs) (base + 1)
      rw [Nat.add_assoc, Nat.add_comm 1, ← List.length_cons] at rest
      rw [literalCode, rest]
      · rfl
      · exact List.cons_ne_nil b' bs

theorem IsSteps.codeSize_eq (he : e.IsSteps) : e.codeSize = e.steps.length := by
  cases he with
  | literal some =>
    rw [codeSize, steps, List.length_map]
    exact Nat.max_eq_left (List.length_pos_iff.2 some)
  | set s => rfl

theorem IsSteps.code_eq (he : e.IsSteps) (base : Nat) :
    e.code base (base + e.codeSize) = Step.code e.steps base := by
  rw [he.codeSize_eq]
  cases he with
  | literal some => rw [code, steps, List.length_map, literalCode_eq some]
  | set s => rfl

theorem IsSteps.seq_singleton (he : e.IsSteps) : seq [e] = e := by
  cases he with
  | literal | set => rfl

theorem codeSeq_eq (all : ∀ e ∈ es, e.IsSteps) (some : es ≠ []) (base : Nat) :
    codeSeq es base (base + codeSizeAll es) = Step.code (es.flatMap steps) base := by
  induction es generalizing base with
  | nil => exact absurd rfl some
  | cons e es ih =>
    rw [List.forall_mem_cons] at all
    rcases es with _ | ⟨e', es⟩
    · rw [codeSeq, codeSizeAll, codeSizeAll, Nat.add_zero, all.1.code_eq, List.flatMap_singleton]
    · have rest := ih all.2 (List.cons_ne_nil e' es) (base + e.codeSize)
      rw [Nat.add_assoc] at rest
      show e.code base (base + e.codeSize) ++ codeSeq (e' :: es) (base + e.codeSize)
        (base + (e.codeSize + codeSizeAll (e' :: es))) = _
      rw [rest, all.1.code_eq, all.1.codeSize_eq, ← Step.code_append]
      rfl

theorem joinLiterals_cons (e : Expr) (es : List Expr) :
    joinLiterals (e :: es) = e :: joinLiterals es ∨
      ∃ a b rest, e = .literal a ∧ joinLiterals es = .literal b :: rest ∧
        joinLiterals (e :: es) = .literal (a ++ b) :: rest := by
  rw [joinLiterals.eq_def]
  simp only
  split
  · exact .inr ⟨_, _, _, rfl, by assumption, rfl⟩
  · exact .inl rfl

/-- Joining literals keeps the steps. -/
theorem joinLiterals_steps (all : ∀ e ∈ es, e.IsSteps) :
    (∀ e ∈ joinLiterals es, e.IsSteps) ∧ (joinLiterals es).flatMap steps = es.flatMap steps := by
  induction es with
  | nil => exact ⟨all, rfl⟩
  | cons e es ih =>
    obtain ⟨first, others⟩ := List.forall_mem_cons.1 all
    obtain ⟨all', same⟩ := ih others
    rcases joinLiterals_cons e es with apart | ⟨a, b, rest, rfl, tail, joined⟩
    · rw [apart]
      refine ⟨List.forall_mem_cons.2 ⟨first, all'⟩, ?_⟩
      rw [List.flatMap_cons, List.flatMap_cons, same]
    · rw [tail] at all' same
      rw [joined, List.flatMap_cons, List.flatMap_cons, ← same]
      cases first with
      | literal some =>
        refine ⟨List.forall_mem_cons.2 ⟨.literal (List.append_ne_nil_of_left_ne_nil some b),
          (List.forall_mem_cons.1 all').2⟩, ?_⟩
        simp only [List.flatMap_cons, steps, List.map_append, List.append_assoc]

theorem joinLiterals_ne_nil (some : es ≠ []) : joinLiterals es ≠ [] := by
  obtain ⟨e, es, rfl⟩ := List.exists_cons_of_ne_nil some
  rcases joinLiterals_cons e es with apart | ⟨a, b, rest, -, -, joined⟩
  · rw [apart]
    exact List.cons_ne_nil _ _
  · rw [joined]
    exact List.cons_ne_nil _ _

theorem flatMap_eq_self {f : Expr → List Expr} (same : ∀ e ∈ es, f e = [e]) :
    es.flatMap f = es := by
  induction es with
  | nil => rfl
  | cons e es ih =>
    obtain ⟨here, rest⟩ := List.forall_mem_cons.1 same
    rw [List.flatMap_cons, here, ih rest, List.singleton_append]

/-- Literals and sets are the items of their sequence, but for literals that are joined. -/
theorem seq_eq (all : ∀ e ∈ es, e.IsSteps) (some : es ≠ []) :
    joinLiterals es = [seq es] ∨ seq es = .concat (joinLiterals es) := by
  have some' := joinLiterals_ne_nil some
  unfold seq
  rw [flatMap_eq_self fun e mem => by cases all e mem <;> rfl]
  simp only
  generalize joinLiterals es = joined at some'
  rcases joined with _ | ⟨e, _ | ⟨e', joined⟩⟩
  · exact absurd rfl some'
  · exact .inl rfl
  · exact .inr rfl

theorem IsSteps.passes (he : e.IsSteps) : (Program.ofExpr e).Passes e.steps := by
  have code := he.code_eq 0
  rw [Nat.zero_add] at code
  rw [Program.ofExpr, Program.Passes, code]

/-- The program of literals and sets one after another goes through their steps. -/
theorem passes_seq (all : ∀ e ∈ es, e.IsSteps) (some : es ≠ []) :
    (Program.ofExpr (seq es)).Passes (es.flatMap steps) := by
  obtain ⟨all', same⟩ := joinLiterals_steps all
  have some' := joinLiterals_ne_nil some
  rw [← same]
  rcases seq_eq all some with one | several
  · have he : (seq es).IsSteps := all' (seq es) (by rw [one]; exact List.mem_singleton.2 rfl)
    rw [one, List.flatMap_singleton]
    exact he.passes
  · have code := codeSeq_eq all' some' 0
    have size : 1 ≤ codeSizeAll (joinLiterals es) := by
      obtain ⟨e, rest, joined⟩ := List.exists_cons_of_ne_nil some'
      rw [joined]
      exact codeSizeAll_pos e rest
    rw [Nat.zero_add] at code
    rw [several, Program.ofExpr, Program.Passes, codeSize, Expr.code, Nat.max_eq_left size, code]

end Expr

/-! ## Searching -/

namespace Program

variable {p : Program} {ss : List Step} {h : ByteArray}

theorem Passes.step (passes : p.Passes ss) {pc : Nat} (hpc : pc < ss.length) :
    p.insts[pc]? = some (ss[pc].inst (pc + 1)) := by
  have code : (Step.code ss 0)[pc]? = some (ss[pc].inst (0 + pc + 1)) := Step.code_getElem? hpc
  rw [passes, List.getElem?_toArray, List.getElem?_append_left (by rwa [Step.length_code]), code,
    Nat.zero_add]

theorem Passes.accept (passes : p.Passes ss) : p.insts[ss.length]? = some .accept := by
  have length := Step.length_code ss 0
  rw [passes, List.getElem?_toArray, List.getElem?_append_right (by omega), length, Nat.sub_self]
  rfl

/-- From the instruction of a step on, the steps that are left are passed if they can be, and no
instruction is marked as tried. -/
theorem Passes.explore (passes : p.Passes ss) {left : List Step} {pc fuel : Nat}
    (split : ss.drop pc = left) (le : pc ≤ ss.length) (enough : left.length < fuel) (i : Nat)
    (tried : Tried) : p.explore h fuel [(pc, i)] tried = (Step.passAll h left i, tried) := by
  induction left generalizing pc i fuel with
  | nil =>
    obtain ⟨fuel, rfl⟩ := Nat.exists_eq_add_of_lt enough
    obtain rfl : pc = ss.length := Nat.le_antisymm le (List.drop_eq_nil_iff.1 split)
    rw [Program.explore, passes.accept]
    rfl
  | cons s left ih =>
    obtain ⟨fuel, rfl⟩ := Nat.exists_eq_succ_of_ne_zero (Nat.ne_zero_of_lt enough)
    have here : pc < ss.length := by
      refine Nat.lt_of_not_le fun le => ?_
      rw [List.drop_eq_nil_of_le le] at split
      cases split
    rw [List.drop_eq_getElem_cons here, List.cons.injEq] at split
    obtain ⟨rfl, split⟩ := split
    have rest := ih split here (Nat.lt_of_succ_lt_succ enough)
    have none_left : p.explore h fuel [] tried = (none, tried) := by
      cases fuel <;> rfl
    rw [Program.explore, passes.step here, Step.passAll]
    cases step : ss[pc] with
    | byte b =>
      by_cases same : h[i]? == some b
      · simp only [Step.inst, Step.pass, same, if_true, rest, Option.bind_some]
      · simp only [Step.inst, Step.pass, same, Bool.false_eq_true, if_false, none_left,
          Option.bind_none]
    | set s =>
      rcases passed : s.pass h i with _ | j
      · simp only [Step.inst, Step.pass, passed, none_left, Option.bind_none]
      · simp only [Step.inst, Step.pass, passed, rest, Option.bind_some]

theorem size_lt_stepBound (p : Program) (n : Nat) : p.insts.size < p.stepBound n := by
  have pos : 0 < (n + 2) * (p.insts.size + 1) * (p.insts.size + 1) :=
    Nat.mul_pos (Nat.mul_pos (Nat.succ_pos _) (Nat.succ_pos _)) (Nat.succ_pos _)
  exact Nat.le_mul_of_pos_left _ pos

/-- The search finds the first place from which all steps can be passed. -/
theorem Passes.search (passes : p.Passes ss) (h : ByteArray) (start : Nat) :
    p.search h start = Finder.firstFrom (Step.passAll h ss) (h.size + 1 - start) start := by
  have size : p.insts.size = ss.length + 1 := by
    rw [passes, List.size_toArray, List.length_append, Step.length_code, List.length_singleton]
  have enough : ss.length < p.stepBound h.size := by
    have := p.size_lt_stepBound h.size
    omega
  rw [Program.search, Pattern.searchFrom_eq_firstFrom
    (passes.explore List.drop_zero (Nat.zero_le _) enough · ·)]

end Program

end FileSearch.Regex
