import FileSearch.Regex.Program

/-!
# How programs are laid out

The code of an expression has as many instructions as `Expr.codeSize` says (`Expr.length_code`).  An
instruction that makes no choice leads to a later instruction or to a choice (`Expr.onward_code`),
so between two choices no instruction comes twice, and a choice has no more ways to go on than the
program has instructions (`Program.wellLaid_ofExpr`).
-/

namespace FileSearch.Regex

/-! ## Lengths -/

theorem length_flatMap_range {size : Nat} {f : Nat → List Inst} (each : ∀ i, (f i).length = size)
    (count : Nat) : ((List.range count).flatMap f).length = count * size := by
  induction count with
  | zero => rw [Nat.zero_mul]; rfl
  | succ count ih =>
    rw [List.range_succ, List.flatMap_append, List.length_append, ih, List.flatMap_cons,
      List.flatMap_nil, List.append_nil, each, Nat.succ_mul]

theorem length_copies {code : Nat → Nat → List Inst} {size : Nat}
    (each : ∀ base next, (code base next).length = size) (count base next : Nat) :
    (copies code size count base next).length = count * size :=
  length_flatMap_range (fun _ => each _ _) count

theorem literalCode_length (bs : List UInt8) (base next : Nat) :
    (literalCode bs base next).length = max bs.length 1 := by
  fun_induction literalCode bs base next with
  | case1 => rfl
  | case2 => rfl
  | case3 b bs base next more ih =>
    have : bs.length ≠ 0 := fun none => more (List.eq_nil_of_length_eq_zero none)
    rw [List.length_cons, ih, List.length_cons]
    omega

theorem Expr.codeSize_pos (e : Expr) : 0 < e.codeSize := by
  cases e with
  | empty | set | look => exact Nat.one_pos
  | literal bs => exact Nat.lt_of_lt_of_le Nat.one_pos (Nat.le_max_right _ _)
  | capture _ e => exact e.codeSize_pos
  | concat es => exact Nat.lt_of_lt_of_le Nat.one_pos (Nat.le_max_right _ _)
  | alternation es => exact Nat.succ_pos _
  | repetition n m _ e =>
    cases m with
    | some m =>
      rw [codeSize]
      exact Nat.lt_of_lt_of_le Nat.one_pos (Nat.le_max_right _ _)
    | none =>
      cases n with
      | zero =>
        rw [codeSize]
        split
        · exact Nat.succ_pos _
        · exact Nat.succ_pos _
      | succ n => exact Nat.succ_pos _

theorem Expr.length_le_codeSizeAll (es : List Expr) : es.length ≤ codeSizeAll es := by
  induction es with
  | nil => exact Nat.le_refl 0
  | cons e es ih =>
    have one := e.codeSize_pos
    rw [List.length_cons, codeSizeAll]
    omega

theorem Expr.codeSizeAll_pos (e : Expr) (es : List Expr) : 0 < codeSizeAll (e :: es) :=
  Nat.lt_of_lt_of_le e.codeSize_pos (Nat.le_add_right _ _)

mutual

theorem Expr.length_code : ∀ (e : Expr) (base next : Nat), (e.code base next).length = e.codeSize
  | .empty, _, _ | .set _, _, _ | .look _, _, _ => rfl
  | .literal bs, base, next => literalCode_length bs base next
  | .capture _ e, base, next => e.length_code base next
  | .concat es, base, next => Expr.length_codeSeq es base next
  | .alternation es, base, next => by
    rw [code, List.length_cons, Expr.length_codeAlt es, codeSize]
  | .repetition 0 none greedy e, base, next => by
    rw [code, codeSize]
    split
    · rw [List.length_cons, e.length_code]
    · rw [List.cons_append, List.length_cons, List.length_append, e.length_code]
      rfl
  | .repetition (n + 1) none greedy e, base, next => by
    rw [code, codeSize, List.length_append, List.length_append, length_copies e.length_code,
      e.length_code, Nat.succ_mul]
    rfl
  | .repetition n (some m) greedy e, base, next => by
    rw [code, codeSize]
    split
    case isTrue none =>
      rw [none.1, Nat.zero_mul, Nat.zero_add, Nat.sub_eq_zero_of_le (by omega), Nat.zero_mul]
      rfl
    case isFalse some =>
      have one := e.codeSize_pos
      have option (base' next' : Nat) :
          (Inst.loop greedy (base' + 1) next :: e.code (base' + 1) next').length =
            e.codeSize + 1 := by
        rw [List.length_cons, e.length_code]
      rw [List.length_append, length_copies e.length_code, length_copies option]
      have positive : 0 < n * e.codeSize + (m - n) * (e.codeSize + 1) := by
        rcases Nat.eq_zero_or_pos n with zero | pos
        · exact Nat.lt_of_lt_of_le (Nat.mul_pos (by omega) (Nat.succ_pos _)) (Nat.le_add_left _ _)
        · exact Nat.lt_of_lt_of_le (Nat.mul_pos pos one) (Nat.le_add_right _ _)
      omega

theorem Expr.length_codeSeq : ∀ (es : List Expr) (base next : Nat),
    (Expr.codeSeq es base next).length = max (Expr.codeSizeAll es) 1
  | [], base, next => rfl
  | [e], base, next => by
    have one := e.codeSize_pos
    rw [codeSeq, e.length_code, codeSizeAll, codeSizeAll]
    omega
  | e :: e' :: es, base, next => by
    have one := codeSizeAll_pos e' es
    have all : codeSizeAll (e :: e' :: es) = e.codeSize + codeSizeAll (e' :: es) := rfl
    rw [codeSeq, List.length_append, e.length_code, Expr.length_codeSeq (e' :: es), all]
    · omega
    · exact nofun

theorem Expr.length_codeAlt : ∀ (es : List Expr) (base next : Nat),
    (Expr.codeAlt es base next).length = Expr.codeSizeAll es
  | [], base, next => rfl
  | e :: es, base, next => by
    rw [codeAlt, List.length_append, e.length_code, Expr.length_codeAlt es, codeSizeAll]

end

/-! ## Where instructions lead to -/

/-- The instruction that follows one which makes no choice. -/
def Inst.next? : Inst → Option Nat
  | .byte _ next | .set _ next | .look _ next | .jump next => some next
  | .split _ | .accept => none

/-- The ways between which an instruction chooses. -/
def Inst.nexts? : Inst → Option (List Nat)
  | .split nexts => some nexts
  | _ => none

/-- What holds of every instruction of a code with its number, the first one being `base`. -/
def Everywhere (P : Nat → Inst → Prop) : Nat → List Inst → Prop
  | _, [] => True
  | base, inst :: rest => P base inst ∧ Everywhere P (base + 1) rest

/-- Every instruction that makes no choice leads to a later one or to a choice. -/
abbrev Onward (choice : Nat → Prop) : Nat → List Inst → Prop :=
  Everywhere fun pc inst => ∀ next ∈ inst.next?, pc < next ∨ choice next

/-- All choices of a code are known as such. -/
abbrev Chooses (choice : Nat → Prop) : Nat → List Inst → Prop :=
  Everywhere fun pc inst => inst.nexts?.isSome → choice pc

section

variable {P : Nat → Inst → Prop} {base : Nat}

theorem everywhere_append {first second : List Inst} :
    Everywhere P base (first ++ second) ↔
      Everywhere P base first ∧ Everywhere P (base + first.length) second := by
  induction first generalizing base with
  | nil => exact (iff_of_eq (true_and _)).symm
  | cons inst first ih =>
    rw [List.cons_append, Everywhere, Everywhere, ih, List.length_cons, and_assoc,
      Nat.add_right_comm base 1, Nat.add_assoc base]

theorem everywhere_singleton {inst : Inst} : Everywhere P base [inst] ↔ P base inst :=
  iff_of_eq (and_true _)

theorem everywhere_iff {code : List Inst} :
    Everywhere P base code ↔ ∀ k inst, code[k]? = some inst → P (base + k) inst := by
  induction code generalizing base with
  | nil => exact ⟨fun _ k inst none => by simp at none, fun _ => trivial⟩
  | cons first rest ih =>
    rw [Everywhere, ih]
    constructor
    · rintro ⟨here, there⟩ k inst found
      cases k with
      | zero => rw [← Option.some.inj found]; exact here
      | succ k =>
        rw [← Nat.add_assoc, Nat.add_right_comm]
        exact there k inst found
    · intro all
      refine ⟨all 0 first rfl, fun k inst found => ?_⟩
      rw [Nat.add_right_comm, Nat.add_assoc]
      exact all (k + 1) inst found

theorem everywhere_flatMap_range {size count : Nat} {f : Nat → List Inst}
    (each : ∀ i, (f i).length = size) :
    Everywhere P base ((List.range count).flatMap f) ↔
      ∀ i < count, Everywhere P (base + i * size) (f i) := by
  induction count with
  | zero => exact ⟨fun _ i lt => absurd lt (Nat.not_lt_zero i), fun _ => trivial⟩
  | succ count ih =>
    rw [List.range_succ, List.flatMap_append, everywhere_append, ih, length_flatMap_range each,
      List.flatMap_cons, List.flatMap_nil, List.append_nil]
    constructor
    · rintro ⟨before, last⟩ i lt
      rcases Nat.lt_succ_iff_lt_or_eq.1 lt with lt | rfl
      · exact before i lt
      · exact last
    · intro all
      exact ⟨fun i lt => all i (Nat.lt_succ_of_lt lt), all count (Nat.lt_succ_self count)⟩

end

theorem onward_literalCode {choice : Nat → Prop} (bs : List UInt8) {base next : Nat}
    (leads : base + max bs.length 1 ≤ next ∨ choice next) :
    Onward choice base (literalCode bs base next) := by
  fun_induction literalCode bs base next with
  | case1 base next =>
    refine everywhere_singleton.2 fun next' same => ?_
    rw [← Option.some.inj same]
    exact leads
  | case2 b base next =>
    refine everywhere_singleton.2 fun next' same => ?_
    rw [← Option.some.inj same]
    exact leads
  | case3 b bs base next more ih =>
    have length : bs.length ≠ 0 := fun none => more (List.eq_nil_of_length_eq_zero none)
    refine ⟨fun next' same => ?_, ih ?_⟩
    · rw [← Option.some.inj same]
      exact .inl (Nat.lt_succ_self base)
    · rw [List.length_cons] at leads
      exact leads.imp_left fun le => by omega

theorem onward_copies {choice : Nat → Prop} {code : Nat → Nat → List Inst}
    {size count base next : Nat}
    (length : ∀ base next, (code base next).length = size)
    (each : ∀ base next, Chooses choice base (code base next) →
      (base + size ≤ next ∨ choice next) → Onward choice base (code base next))
    (known : Chooses choice base (copies code size count base next))
    (leads : base + count * size ≤ next ∨ choice next) :
    Onward choice base (copies code size count base next) := by
  have known := (everywhere_flatMap_range fun _ => length _ _).1 known
  refine (everywhere_flatMap_range fun _ => length _ _).2 fun i lt => each _ _ (known i lt) ?_
  split
  case isTrue last =>
    rw [← last, Nat.succ_mul] at leads
    exact leads.imp_left fun le => by omega
  case isFalse =>
    left
    rw [Nat.succ_mul]
    omega

mutual

theorem Expr.onward_code {choice : Nat → Prop} : ∀ (e : Expr) (base next : Nat),
    Chooses choice base (e.code base next) → (base + e.codeSize ≤ next ∨ choice next) →
      Onward choice base (e.code base next)
  | .empty, base, next, _, leads | .set _, base, next, _, leads
  | .look _, base, next, _, leads => by
    refine everywhere_singleton.2 fun next' same => ?_
    rw [← Option.some.inj same]
    exact leads
  | .literal bs, base, next, _, leads => onward_literalCode bs leads
  | .capture _ e, base, next, known, leads => e.onward_code base next known leads
  | .concat es, base, next, known, leads => Expr.onward_codeSeq es base next known leads
  | .alternation es, base, next, known, leads =>
    ⟨nofun, Expr.onward_codeAlt es (base + 1) next known.2
      (leads.imp_left fun le => by rw [codeSize] at le; omega)⟩
  | .repetition 0 none greedy e, base, next, known, leads => by
    rw [code] at known ⊢
    split at known
    case isTrue consumes =>
      rw [if_pos consumes]
      exact ⟨nofun, e.onward_code (base + 1) base known.2 (.inr (known.1 rfl))⟩
    case isFalse consumes =>
      rw [if_neg consumes]
      have inner := everywhere_append.1 known.2
      refine ⟨nofun, everywhere_append.2 ⟨?_, everywhere_singleton.2 nofun⟩⟩
      exact e.onward_code (base + 1) _ inner.1 (.inl (Nat.le_refl _))
  | .repetition (n + 1) none greedy e, base, next, known, leads => by
    rw [code] at known ⊢
    have parts := everywhere_append.1 known
    have parts' := everywhere_append.1 parts.1
    have length := length_copies e.length_code n base (base + n * e.codeSize)
    rw [length] at parts'
    refine everywhere_append.2 ⟨everywhere_append.2 ⟨?_, ?_⟩, everywhere_singleton.2 nofun⟩
    · exact onward_copies e.length_code (fun base next => e.onward_code base next) parts'.1
        (.inl (Nat.le_refl _))
    · rw [length]
      exact e.onward_code _ _ parts'.2 (.inl (Nat.le_refl _))
  | .repetition n (some m) greedy e, base, next, known, leads => by
    rw [code] at known ⊢
    rw [codeSize] at leads
    split
    case isTrue none =>
      refine everywhere_singleton.2 fun next' same => ?_
      rw [← Option.some.inj same]
      exact leads.imp_left fun le => by omega
    case isFalse some =>
      rw [if_neg some] at known
      have parts := everywhere_append.1 known
      rw [length_copies e.length_code] at parts
      refine everywhere_append.2 ⟨?_, ?_⟩
      · refine onward_copies e.length_code (fun base next => e.onward_code base next) parts.1 ?_
        split
        · exact leads.imp_left fun le => by omega
        · exact .inl (Nat.le_refl _)
      · rw [length_copies e.length_code]
        refine onward_copies (fun base next => ?_) (fun base next known leads => ?_) parts.2 ?_
        · rw [List.length_cons, e.length_code]
        · exact ⟨nofun, e.onward_code (base + 1) next known.2
            (leads.imp_left fun le => by omega)⟩
        · exact leads.imp_left fun le => by omega

theorem Expr.onward_codeSeq {choice : Nat → Prop} : ∀ (es : List Expr) (base next : Nat),
    Chooses choice base (Expr.codeSeq es base next) →
      (base + max (Expr.codeSizeAll es) 1 ≤ next ∨ choice next) →
        Onward choice base (Expr.codeSeq es base next)
  | [], base, next, _, leads => by
    refine everywhere_singleton.2 fun next' same => ?_
    rw [← Option.some.inj same]
    exact leads
  | [e], base, next, known, leads =>
    e.onward_code base next known
      (leads.imp_left fun le => by rw [codeSizeAll, codeSizeAll] at le; omega)
  | e :: e' :: es, base, next, known, leads => by
    have all : codeSizeAll (e :: e' :: es) = e.codeSize + codeSizeAll (e' :: es) := rfl
    have code : codeSeq (e :: e' :: es) base next =
      e.code base (base + e.codeSize) ++ codeSeq (e' :: es) (base + e.codeSize) next := rfl
    rw [code] at known ⊢
    rw [all] at leads
    have parts := everywhere_append.1 known
    rw [e.length_code] at parts
    refine everywhere_append.2 ⟨e.onward_code _ _ parts.1 (.inl (Nat.le_refl _)), ?_⟩
    rw [e.length_code]
    have one := codeSizeAll_pos e' es
    exact Expr.onward_codeSeq (e' :: es) _ next parts.2 (leads.imp_left fun le => by omega)

theorem Expr.onward_codeAlt {choice : Nat → Prop} : ∀ (es : List Expr) (base next : Nat),
    Chooses choice base (Expr.codeAlt es base next) →
      (base + Expr.codeSizeAll es ≤ next ∨ choice next) →
        Onward choice base (Expr.codeAlt es base next)
  | [], base, next, _, _ => trivial
  | e :: es, base, next, known, leads => by
    rw [codeAlt] at known ⊢
    rw [codeSizeAll] at leads
    have parts := everywhere_append.1 known
    rw [e.length_code] at parts
    refine everywhere_append.2 ⟨?_, ?_⟩
    · exact e.onward_code _ _ parts.1 (leads.imp_left fun le => by omega)
    · rw [e.length_code]
      exact Expr.onward_codeAlt es _ next parts.2 (leads.imp_left fun le => by omega)

end

/-! ## How many ways a choice has -/

/-- No choice of a code has more ways than one more than the code has instructions. -/
def Narrow (code : List Inst) : Prop :=
  ∀ inst ∈ code, ∀ nexts ∈ inst.nexts?, nexts.length ≤ code.length + 1

theorem narrow_nil : Narrow [] := fun _ mem => absurd mem List.not_mem_nil

theorem narrow_singleton {inst : Inst} (plain : inst.nexts? = none) : Narrow [inst] := by
  intro inst' mem nexts choice
  rw [List.mem_singleton.1 mem, plain] at choice
  cases choice

theorem Narrow.append {first second : List Inst} (left : Narrow first) (right : Narrow second) :
    Narrow (first ++ second) := by
  intro inst mem nexts choice
  rw [List.length_append]
  rcases List.mem_append.1 mem with old | new
  · have := left inst old nexts choice
    omega
  · have := right inst new nexts choice
    omega

theorem Narrow.cons {inst : Inst} {code : List Inst} (narrow : Narrow code)
    (first : ∀ nexts ∈ inst.nexts?, nexts.length ≤ code.length + 2) : Narrow (inst :: code) := by
  intro inst' mem nexts choice
  rw [List.length_cons]
  rcases List.mem_cons.1 mem with rfl | old
  · exact first nexts choice
  · have := narrow inst' old nexts choice
    omega

/-- A loop has two ways on. -/
theorem Narrow.loop {code : List Inst} (narrow : Narrow code) (greedy : Bool) (enter leave : Nat) :
    Narrow (.loop greedy enter leave :: code) := by
  refine narrow.cons fun nexts choice => ?_
  rw [← Option.some.inj choice]
  cases greedy <;> exact Nat.le_add_left 2 _

theorem narrow_copies {code : Nat → Nat → List Inst} (each : ∀ base next, Narrow (code base next))
    (size count base next : Nat) : Narrow (copies code size count base next) := by
  have all (f : Nat → List Inst) (each : ∀ i, Narrow (f i)) :
      Narrow ((List.range count).flatMap f) := by
    induction count with
    | zero => exact narrow_nil
    | succ count ih =>
      rw [List.range_succ, List.flatMap_append, List.flatMap_cons, List.flatMap_nil,
        List.append_nil]
      exact ih.append (each count)
  exact all _ fun _ => each _ _

theorem narrow_literalCode (bs : List UInt8) (base next : Nat) :
    Narrow (literalCode bs base next) := by
  fun_induction literalCode bs base next with
  | case1 | case2 => exact narrow_singleton rfl
  | case3 b bs base next more ih =>
    refine ih.cons fun nexts choice => ?_
    cases choice

theorem length_entries (es : List Expr) (base : Nat) : (entries es base).length = es.length := by
  induction es generalizing base with
  | nil => rfl
  | cons e es ih => rw [entries, List.length_cons, ih, List.length_cons]

mutual

theorem Expr.narrow_code : ∀ (e : Expr) (base next : Nat), Narrow (e.code base next)
  | .empty, _, _ | .set _, _, _ | .look _, _, _ => narrow_singleton rfl
  | .literal bs, base, next => narrow_literalCode bs base next
  | .capture _ e, base, next => e.narrow_code base next
  | .concat es, base, next => Expr.narrow_codeSeq es base next
  | .alternation es, base, next => by
    refine (Expr.narrow_codeAlt es (base + 1) next).cons fun nexts choice => ?_
    have few := length_le_codeSizeAll es
    rw [← Option.some.inj choice, length_entries, Expr.length_codeAlt]
    omega
  | .repetition 0 none greedy e, base, next => by
    rw [code]
    split
    · exact (e.narrow_code _ _).loop greedy _ _
    · exact ((e.narrow_code _ _).append (narrow_nil.loop greedy _ _)).loop greedy _ _
  | .repetition (n + 1) none greedy e, base, next =>
    ((narrow_copies (fun base next => e.narrow_code base next) _ _ _ _).append
      (e.narrow_code _ _)).append (narrow_nil.loop greedy _ _)
  | .repetition n (some m) greedy e, base, next => by
    rw [code]
    split
    · exact narrow_singleton rfl
    · exact (narrow_copies (fun base next => e.narrow_code base next) _ _ _ _).append
        (narrow_copies (fun _ _ => (e.narrow_code _ _).loop greedy _ _) _ _ _ _)

theorem Expr.narrow_codeSeq : ∀ (es : List Expr) (base next : Nat),
    Narrow (Expr.codeSeq es base next)
  | [], _, _ => narrow_singleton rfl
  | [e], base, next => e.narrow_code base next
  | e :: e' :: es, _, next =>
    (e.narrow_code _ _).append (Expr.narrow_codeSeq (e' :: es) _ next)

theorem Expr.narrow_codeAlt : ∀ (es : List Expr) (base next : Nat),
    Narrow (Expr.codeAlt es base next)
  | [], _, _ => narrow_nil
  | e :: es, _, next => (e.narrow_code _ next).append (Expr.narrow_codeAlt es _ next)

end

/-! ## Programs -/

/-- A program is laid out so that between two choices no instruction comes twice, and that a choice
has no more ways to go on than there are instructions. -/
structure Program.WellLaid (p : Program) : Prop where
  onward (pc : Nat) (inst : Inst) : p.insts[pc]? = some inst → ∀ next ∈ inst.next?,
    pc < next ∨ ∃ nexts, p.insts[next]? = some (Inst.split nexts)
  narrow (pc : Nat) (nexts : List Nat) : p.insts[pc]? = some (Inst.split nexts) →
    nexts.length ≤ p.insts.size

theorem Program.wellLaid_ofExpr (e : Expr) : (Program.ofExpr e).WellLaid where
  onward pc inst found next leads := by
    let choice (n : Nat) : Prop := ∃ nexts, (Program.ofExpr e).insts[n]? = some (.split nexts)
    have lookup (k : Nat) :
        (Program.ofExpr e).insts[k]? = (e.code 0 e.codeSize ++ [Inst.accept])[k]? :=
      List.getElem?_toArray
    have known : Chooses choice 0 (e.code 0 e.codeSize) := by
      refine everywhere_iff.2 fun k inst here chooses => ?_
      cases inst with
      | split nexts =>
        refine ⟨nexts, ?_⟩
        have inside := (List.getElem?_eq_some_iff.1 here).1
        rw [Nat.zero_add, lookup, List.getElem?_append_left inside, here]
      | _ => cases chooses
    have all : Onward choice 0 (e.code 0 e.codeSize ++ [Inst.accept]) :=
      everywhere_append.2
        ⟨e.onward_code 0 _ known (.inl (Nat.le_of_eq (Nat.zero_add _))),
          everywhere_singleton.2 nofun⟩
    rw [lookup] at found
    have here := everywhere_iff.1 all pc inst found next leads
    rwa [Nat.zero_add] at here
  narrow pc nexts found := by
    have mem : Inst.split nexts ∈ e.code 0 e.codeSize ++ [Inst.accept] := by
      rw [ofExpr, List.getElem?_toArray] at found
      exact List.mem_of_getElem? found
    have few : nexts.length ≤ (e.code 0 e.codeSize).length + 1 := by
      rcases List.mem_append.1 mem with old | new
      · exact e.narrow_code 0 _ _ old nexts rfl
      · cases List.mem_singleton.1 new
    rwa [ofExpr, List.size_toArray, List.length_append]

end FileSearch.Regex
