import Mathlib.Data.Finset.Prod
import Mathlib.Data.Finset.Card
import Mathlib.Tactic.Linarith
import Mathlib.Tactic.Ring
import FileSearch.Proofs.Regex.Explore
import FileSearch.Proofs.Regex.Layout
import FileSearch.Proofs.Pattern.Bounds

/-!
# Attempts of a search

An attempt to match at a place is a search in the sense of `Explores`, since `stepBound` allows for
more steps than it can take (`Program.explores_explore`).  An attempt that fails leaves marks behind
that do not matter to later ones, so a search finds the first place at which an attempt with no
marks succeeds (`Program.search_eq`).
-/

open scoped Classical

namespace FileSearch.Regex

/-! ## Marks -/

namespace Tried

theorem getElem?_grow (marks : ByteArray) (n j : Nat) :
    (grow marks n)[j]? =
      if j < marks.size then marks[j]? else if j < marks.size + n then some 0 else none := by
  induction n generalizing marks with
  | zero =>
    rw [grow]
    split
    · rfl
    · rw [if_neg (by omega), getElem?_neg marks j (by assumption)]
  | succ n ih =>
    have size : (marks.push 0).size = marks.size + 1 := Array.size_push _
    have push : (marks.push 0)[j]? = if j = marks.size then some 0 else marks[j]? :=
      Array.getElem?_push
    rw [grow, ih, size, push]
    rcases Nat.lt_trichotomy j marks.size with lt | rfl | gt
    · rw [if_pos (by omega), if_neg (by omega), if_pos lt]
    · rw [if_pos (by omega), if_pos rfl, if_neg (by omega), if_pos (by omega)]
    · rw [if_neg (show ¬ j < marks.size + 1 by omega), if_neg (show ¬ j < marks.size by omega),
        Nat.add_assoc, Nat.add_comm 1 n]

theorem size_grow (marks : ByteArray) (n : Nat) : (grow marks n).size = marks.size + n := by
  induction n generalizing marks with
  | zero => rfl
  | succ n ih =>
    have size : (marks.push 0).size = marks.size + 1 := Array.size_push _
    rw [grow, ih, size]
    omega

theorem slot_inj {t : Tried} {pc i pc' i' : Nat} (lt : pc < t.width) (lt' : pc' < t.width)
    (le : t.origin ≤ i) (le' : t.origin ≤ i') (same : t.slot pc i = t.slot pc' i') :
    pc = pc' ∧ i = i' := by
  unfold slot at same
  have pos : 0 < t.width := Nat.lt_of_le_of_lt (Nat.zero_le _) lt
  have row (j k : Nat) (small : k < t.width) : (j * t.width + k) / t.width = j := by
    rw [Nat.mul_comm, Nat.mul_add_div pos, Nat.div_eq_of_lt small, Nat.add_zero]
  have rows : i - t.origin = i' - t.origin := by
    rw [← row (i - t.origin) pc lt, same, row _ _ lt']
  rw [rows] at same
  exact ⟨Nat.add_left_cancel same, by omega⟩

/-- The marked nodes. -/
def nodes (t : Tried) : Set Node :=
  {n | n.1 < t.width ∧ t.origin ≤ n.2 ∧ t.contains n.1 n.2 = true}

theorem contains_insert {t : Tried} {pc i pc' i' : Nat} (lt : pc < t.width) (lt' : pc' < t.width)
    (le : t.origin ≤ i) (le' : t.origin ≤ i') :
    (t.insert pc i).contains pc' i' = true ↔ (pc', i') = (pc, i) ∨ t.contains pc' i' = true := by
  have value : (t.insert pc i).marks[t.slot pc' i']? =
      if t.slot pc i = t.slot pc' i' then some 1
      else (grow t.marks (t.slot pc i + 1 - t.marks.size))[t.slot pc' i']? := by
    have size := size_grow t.marks (t.slot pc i + 1 - t.marks.size)
    refine Array.getElem?_setIfInBounds.trans ?_
    split
    · exact if_pos (by show _ < (grow _ _).size; omega)
    · rfl
  show ((t.insert pc i).marks[t.slot pc' i']? == some 1) = true ↔ _
  rw [value]
  by_cases same : (pc', i') = (pc, i)
  · obtain ⟨rfl, rfl⟩ := Prod.ext_iff.1 same
    simp
  · have other : t.slot pc i ≠ t.slot pc' i' := by
      intro slots
      obtain ⟨rfl, rfl⟩ := slot_inj lt lt' le le' slots
      exact same rfl
    rw [if_neg other, getElem?_grow]
    show _ ↔ _ ∨ (t.marks[t.slot pc' i']? == some 1) = true
    split
    · exact (or_iff_right same).symm
    · rw [getElem?_neg t.marks _ (by assumption)]
      split
      · simp [same]
      · simp [same]

theorem nodes_insert {t : Tried} {pc i : Nat} (lt : pc < t.width) (le : t.origin ≤ i) :
    (t.insert pc i).nodes = Insert.insert (pc, i) t.nodes := by
  apply Set.ext
  rintro ⟨pc', i'⟩
  rw [Set.mem_insert_iff]
  constructor
  · rintro ⟨lt', le', marked⟩
    rcases (contains_insert lt lt' le le').1 marked with same | old
    · exact .inl same
    · exact .inr ⟨lt', le', old⟩
  · rintro (same | ⟨lt', le', old⟩)
    · obtain ⟨rfl, rfl⟩ := Prod.ext_iff.1 same
      exact ⟨lt, le, (contains_insert lt lt le le).2 (.inl rfl)⟩
    · exact ⟨lt', le', (contains_insert lt lt' le le').2 (.inr old)⟩

theorem nodes_empty (width origin : Nat) : (Tried.mk width origin .empty).nodes = ∅ := by
  apply Set.ext
  intro n
  refine ⟨?_, fun none => absurd none (Set.notMem_empty n)⟩
  rintro ⟨-, -, marked⟩
  cases marked

end Tried

/-! ## Steps -/

/-- A way on that there may be. -/
def Answer.goTo (next : Nat) : Option Nat → Answer
  | none => .go []
  | some i => .go [(next, i)]

/-- What an instruction means at a place. -/
def Inst.answer (h : ByteArray) (i : Nat) : Inst → Answer
  | .accept => .accept
  | .jump next => .goTo next (some i)
  | .byte b next => .goTo next (if h[i]? == some b then some (i + 1) else none)
  | .set s next => .goTo next (s.pass h i)
  | .look l next => .goTo next (if l.holds h i then some i else none)
  | .split nexts => .choose (nexts.map (·, i))

namespace Program

variable {p : Program} {h : ByteArray}

/-- What a program meets at a node. -/
def answer (p : Program) (h : ByteArray) (n : Node) : Answer :=
  match p.insts[n.1]? with
  | none => .go []
  | some inst => inst.answer h n.2

theorem answer_eq {pc i : Nat} {inst : Inst} (found : p.insts[pc]? = some inst) :
    p.answer h (pc, i) = inst.answer h i := by
  simp only [answer, found]

theorem answer_of_none {pc i : Nat} (found : p.insts[pc]? = none) :
    p.answer h (pc, i) = .go [] := by
  simp only [answer, found]

/-- How many instructions can follow each other from the given one on without a choice. -/
noncomputable def rank (p : Program) (pc : Nat) : Nat :=
  if ∃ nexts, p.insts[pc]? = some (.split nexts) then 1 else p.insts.size - pc + 1

/-- How many instructions can follow on the given ways without a choice. -/
noncomputable def weight (p : Program) : List Node → Nat
  | [] => 0
  | n :: ways => p.rank n.1 + p.weight ways

/-- The choices that have not been made. -/
noncomputable def openNodes (p : Program) (h : ByteArray) (M : Set Node) : Finset Node :=
  (Finset.range p.insts.size ×ˢ Finset.range (h.size + 1)).filter (· ∉ M)

/-- What a choice adds to the weight of the ways at most. -/
def spread (p : Program) : Nat := p.insts.size * (p.insts.size + 1)

theorem rank_pos (p : Program) (pc : Nat) : 0 < p.rank pc := by
  unfold rank
  split
  · exact Nat.one_pos
  · exact Nat.succ_pos _

theorem rank_le (p : Program) (pc : Nat) : p.rank pc ≤ p.insts.size + 1 := by
  unfold rank
  split
  · exact Nat.le_add_left 1 _
  · omega

/-- The rank goes down from an instruction that makes no choice. -/
theorem rank_lt (laid : p.WellLaid) {pc next : Nat} {inst : Inst} (found : p.insts[pc]? = some inst)
    (leads : inst.next? = some next) : p.rank next < p.rank pc := by
  have inside : pc < p.insts.size := (Array.getElem?_eq_some_iff.1 found).1
  have own : p.rank pc = p.insts.size - pc + 1 := by
    refine if_neg ?_
    rintro ⟨nexts, choice⟩
    rw [found] at choice
    rw [Option.some.inj choice] at leads
    cases leads
  rw [own]
  unfold rank
  split
  · omega
  · rename_i plain
    have later : pc < next := (laid.onward pc inst found next leads).resolve_right plain
    omega

theorem weight_cons (p : Program) (pc i : Nat) (ways : List Node) :
    p.weight ((pc, i) :: ways) = p.rank pc + p.weight ways := rfl

/-- What is enough for the ways is enough without the first of them. -/
theorem enough_tail {pc i : Nat} {ways : List Node} {later fuel : Nat}
    (enough : p.weight ((pc, i) :: ways) + later < fuel + 1) : p.weight ways + later < fuel := by
  have one := p.rank_pos pc
  rw [weight_cons] at enough
  omega

/-- What is enough for the ways is enough after a step that makes no choice. -/
theorem enough_follow {pc next i j : Nat} {ways : List Node} {later fuel : Nat}
    (down : p.rank next < p.rank pc) (enough : p.weight ((pc, i) :: ways) + later < fuel + 1) :
    p.weight ((next, j) :: ways) + later < fuel := by
  rw [weight_cons] at enough ⊢
  omega

theorem weight_append (first second : List Node) :
    p.weight (first ++ second) = p.weight first + p.weight second := by
  induction first with
  | nil => exact (Nat.zero_add _).symm
  | cons n first ih => rw [List.cons_append, weight, weight, ih, Nat.add_assoc]

theorem weight_map_le (nexts : List Nat) (i : Nat) :
    p.weight (nexts.map (·, i)) ≤ nexts.length * (p.insts.size + 1) := by
  induction nexts with
  | nil => exact Nat.zero_le _
  | cons next nexts ih =>
    have one := p.rank_le next
    rw [List.map_cons, weight_cons, List.length_cons, Nat.succ_mul]
    omega

theorem openNodes_insert {M : Set Node} {n : Node} (new : n ∉ M) (instr : n.1 < p.insts.size)
    (place : n.2 ≤ h.size) :
    (p.openNodes h (Insert.insert n M)).card + 1 = (p.openNodes h M).card := by
  have mem : n ∈ p.openNodes h M := by
    rw [openNodes, Finset.mem_filter, Finset.mem_product, Finset.mem_range, Finset.mem_range]
    exact ⟨⟨instr, Nat.lt_succ_of_le place⟩, new⟩
  have rest : p.openNodes h (Insert.insert n M) = (p.openNodes h M).erase n := by
    apply Finset.ext
    intro m
    simp only [openNodes, Finset.mem_filter, Finset.mem_erase, Set.mem_insert_iff, not_or]
    exact ⟨fun ⟨box, other, new⟩ => ⟨other, box, new⟩, fun ⟨other, box, new⟩ => ⟨box, other, new⟩⟩
  rw [rest]
  exact Finset.card_erase_add_one mem

/-- A search with enough steps is a search in the sense of `Explores`. -/
theorem explores_explore (laid : p.WellLaid) {fuel : Nat} {ways : List Node} {tried : Tried}
    (width : tried.width = p.insts.size) (within : Within h tried.origin ways)
    (enough : p.weight ways + (p.openNodes h tried.nodes).card * p.spread < fuel) :
    Explores (p.answer h) ways tried.nodes (p.explore h fuel ways tried).1
        (p.explore h fuel ways tried).2.nodes ∧
      (p.explore h fuel ways tried).2.width = tried.width ∧
        (p.explore h fuel ways tried).2.origin = tried.origin := by
  fun_induction explore p h fuel ways tried with
  | case1 => omega
  | case2 fuel tried => exact ⟨.done _, rfl, rfl⟩
  | case3 fuel pc i ways tried found ih =>
    obtain ⟨run, same⟩ := ih width within.tail (enough_tail enough)
    exact ⟨.drop (answer_of_none found) run, same⟩
  | case4 fuel pc i ways tried found =>
    exact ⟨.accept _ _ (answer_eq found), rfl, rfl⟩
  | case5 fuel pc i ways tried next found ih =>
    obtain ⟨run, same⟩ := ih width within.stay (enough_follow (rank_lt laid found rfl) enough)
    exact ⟨.follow (answer_eq found) run, same⟩
  | case6 fuel pc i ways tried b next found passes ih =>
    have inside : i < h.size := (getElem?_eq_some_iff.1 (beq_iff_eq.1 passes)).1
    obtain ⟨run, same⟩ := ih width (within.onward (Nat.le_succ _) inside)
      (enough_follow (rank_lt laid found rfl) enough)
    exact ⟨.follow (by rw [answer_eq found, Inst.answer, if_pos passes]; rfl) run, same⟩
  | case7 fuel pc i ways tried b next found stuck ih =>
    obtain ⟨run, same⟩ := ih width within.tail (enough_tail enough)
    exact ⟨.drop (by rw [answer_eq found, Inst.answer, if_neg stuck]; rfl) run, same⟩
  | case8 fuel pc i ways tried s next found j passes ih =>
    obtain ⟨le, le_size⟩ := MemberSet.pass_le passes
    obtain ⟨run, same⟩ := ih width (within.onward le le_size)
      (enough_follow (rank_lt laid found rfl) enough)
    exact ⟨.follow (by rw [answer_eq found, Inst.answer, passes]; rfl) run, same⟩
  | case9 fuel pc i ways tried s next found stuck ih =>
    obtain ⟨run, same⟩ := ih width within.tail (enough_tail enough)
    exact ⟨.drop (by rw [answer_eq found, Inst.answer, stuck]; rfl) run, same⟩
  | case10 fuel pc i ways tried l next found holds ih =>
    obtain ⟨run, same⟩ := ih width within.stay (enough_follow (rank_lt laid found rfl) enough)
    exact ⟨.follow (by rw [answer_eq found, Inst.answer, if_pos holds]; rfl) run, same⟩
  | case11 fuel pc i ways tried l next found fails ih =>
    obtain ⟨run, same⟩ := ih width within.tail (enough_tail enough)
    exact ⟨.drop (by rw [answer_eq found, Inst.answer, if_neg fails]; rfl) run, same⟩
  | case12 fuel pc i ways tried nexts found marked ih =>
    have inside : pc < p.insts.size := (Array.getElem?_eq_some_iff.1 found).1
    obtain ⟨run, same⟩ := ih width within.tail (enough_tail enough)
    have mem : (pc, i) ∈ tried.nodes := ⟨width ▸ inside, within.head.1, marked⟩
    exact ⟨.tried (answer_eq found) mem run, same⟩
  | case13 fuel pc i ways tried nexts found unmarked ih =>
    have inside : pc < p.insts.size := (Array.getElem?_eq_some_iff.1 found).1
    have new : (pc, i) ∉ tried.nodes := fun old => unmarked old.2.2
    have marked := Tried.nodes_insert (i := i) (width ▸ inside : pc < tried.width) within.head.1
    have fewer := openNodes_insert new inside within.head.2
    have wider := p.weight_map_le nexts i
    have narrow : nexts.length * (p.insts.size + 1) ≤ p.spread :=
      Nat.mul_le_mul_right _ (laid.narrow pc nexts found)
    have rest := enough_tail enough
    rw [← fewer, Nat.succ_mul] at rest
    rw [marked] at ih
    obtain ⟨run, same⟩ := ih width (within.split nexts) (by
      rw [weight_append]
      omega)
    exact ⟨.choose (answer_eq found) new run, same⟩

/-! ## Attempts -/

/-- An attempt to match at a place, with nothing marked. -/
def attempt (p : Program) (h : ByteArray) (i : Nat) : Option Nat :=
  (p.explore h (p.stepBound h.size) [(0, i)] ⟨p.insts.size, i, .empty⟩).1

/-- One way has steps enough, whatever is marked. -/
theorem enough_steps (p : Program) (h : ByteArray) (M : Set Node) (i : Nat) :
    p.weight [(0, i)] + (p.openNodes h M).card * p.spread < p.stepBound h.size := by
  have first : p.weight [(0, i)] ≤ p.insts.size + 1 := p.rank_le 0
  have few : (p.openNodes h M).card ≤ p.insts.size * (h.size + 1) := by
    refine Nat.le_trans (Finset.card_filter_le _ _) ?_
    rw [Finset.card_product, Finset.card_range, Finset.card_range]
  have all := Nat.mul_le_mul_right p.spread few
  show _ < (h.size + 2) * (p.insts.size + 1) * (p.insts.size + 1) * (p.insts.size + 1)
  unfold spread at all ⊢
  generalize p.insts.size = k at first all ⊢
  generalize h.size = n at all ⊢
  calc p.weight [(0, i)] + (p.openNodes h M).card * (k * (k + 1))
      ≤ (k + 1) + k * (n + 1) * (k * (k + 1)) := Nat.add_le_add first all
    _ = (k * (n + 1) * k + 1) * (k + 1) := by ring
    _ < (n + 2) * (k + 1) * (k + 1) * (k + 1) := by
      refine Nat.mul_lt_mul_of_pos_right ?_ (Nat.succ_pos k)
      nlinarith

section

variable (laid : p.WellLaid)

include laid

/-- An attempt is a search that begins without marks. -/
theorem explores_attempt {i : Nat} (inside : i ≤ h.size) :
    ∃ N, Explores (p.answer h) [(0, i)] ∅ (p.attempt h i) N := by
  have within : Within h i [(0, i)] := .singleton (Nat.le_refl i) inside
  have run : Explores (p.answer h) [(0, i)] (Tried.mk p.insts.size i .empty).nodes
      (p.attempt h i) _ := (explores_explore laid rfl within (p.enough_steps h _ i)).1
  rw [Tried.nodes_empty] at run
  exact ⟨_, run⟩

/-- A search with marks of attempts that failed finds the first place at which an attempt without
marks succeeds. -/
theorem searchFrom_eq {count s : Nat} {tried : Tried} (width : tried.width = p.insts.size)
    (origin : tried.origin ≤ s) (fits : s + count ≤ h.size + 1) {B : Set Node}
    (barren : Barren (p.answer h) B) (marks : tried.nodes ⊆ B) :
    p.searchFrom h (p.stepBound h.size) count s tried = Finder.firstFrom (p.attempt h) count s := by
  induction count generalizing s tried B with
  | zero => rfl
  | succ count ih =>
    have inside : s ≤ h.size := by omega
    have within : Within h tried.origin [(0, s)] := .singleton origin inside
    obtain ⟨run, width', origin'⟩ :=
      explores_explore laid width within (p.enough_steps h tried.nodes s)
    obtain ⟨N, fresh⟩ := explores_attempt laid inside
    have same := run.unmarked fresh barren marks
    unfold searchFrom Finder.firstFrom
    rw [← same]
    generalize p.explore h (p.stepBound h.size) [(0, s)] tried = outcome at run width' origin'
    rcases outcome with ⟨_ | e, tried'⟩
    · obtain ⟨B', barren', marks'⟩ := run.barren barren marks
      exact ih (width'.trans width) (origin'.trans_le (Nat.le_succ_of_le origin)) (by omega) barren'
        marks'
    · rfl

/-- A search finds the first place at which an attempt succeeds. -/
theorem search_eq {start : Nat} (inside : start ≤ h.size) :
    p.search h start = Finder.firstFrom (p.attempt h) (h.size + 1 - start) start := by
  refine searchFrom_eq laid rfl (Nat.le_refl start) (by omega) (barren_empty _) ?_
  rw [Tried.nodes_empty]

end

end Program

end FileSearch.Regex
