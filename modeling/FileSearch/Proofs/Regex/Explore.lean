import Mathlib.Data.Set.Image
import FileSearch.Regex.Search

/-!
# Searches that mark their choices

`Explores` says what following ways in the order of preference comes to when choices that have been
made before are not made again.  Ways into a closed part of the search without an end of interest
may be cut off (`Explores.without`), so a search does not depend on marks that were left behind by
searches that failed (`Explores.unmarked`), nor on anything beyond the ends that it can come to.
-/

open scoped Classical

namespace FileSearch.Regex

/-- A place of a search: an instruction and a place of the text. -/
abbrev Node := Nat × Nat

/-- What a search meets at a node: the end of a match, or ways to go on, between which it chooses
or not. -/
inductive Answer where
  | accept
  | go (nexts : List Node)
  | choose (nexts : List Node)

/-- The ways on from a node. -/
def Answer.nexts : Answer → List Node
  | .accept => []
  | .go nexts | .choose nexts => nexts

/-- Whether the search goes on from the given ways, with the marks `M`, to the end of a match or to
failure, and with which marks. -/
inductive Explores (answer : Node → Answer) :
    List Node → Set Node → Option Nat → Set Node → Prop
  | done (M : Set Node) : Explores answer [] M none M
  | accept {n : Node} (ways : List Node) (M : Set Node) :
    answer n = .accept → Explores answer (n :: ways) M (some n.2) M
  | go {n : Node} {nexts ways : List Node} {M N : Set Node} {r : Option Nat} :
    answer n = .go nexts → Explores answer (nexts ++ ways) M r N →
      Explores answer (n :: ways) M r N
  | tried {n : Node} {nexts ways : List Node} {M N : Set Node} {r : Option Nat} :
    answer n = .choose nexts → n ∈ M → Explores answer ways M r N →
      Explores answer (n :: ways) M r N
  | choose {n : Node} {nexts ways : List Node} {M N : Set Node} {r : Option Nat} :
    answer n = .choose nexts → n ∉ M → Explores answer (nexts ++ ways) (insert n M) r N →
      Explores answer (n :: ways) M r N

variable {answer : Node → Answer} {ways : List Node} {M N M₁ M₂ : Set Node} {r r₁ r₂ : Option Nat}

/-- A way that leads nowhere is left. -/
theorem Explores.drop {n : Node} (here : answer n = .go []) (run : Explores answer ways M r N) :
    Explores answer (n :: ways) M r N :=
  .go here run

/-- A way that leads to one node is followed. -/
theorem Explores.follow {n m : Node} (here : answer n = .go [m])
    (run : Explores answer (m :: ways) M r N) : Explores answer (n :: ways) M r N :=
  .go here run

/-- Every way leads to one end. -/
theorem Explores.unique (first : Explores answer ways M r₁ M₁)
    (second : Explores answer ways M r₂ M₂) : r₁ = r₂ := by
  induction first with
  | done => cases second; rfl
  | accept ways M here =>
    cases second with
    | accept => rfl
    | go there | tried there | choose there => rw [here] at there; cases there
  | go here _ ih =>
    cases second with
    | go there rest =>
      rw [here] at there
      obtain rfl := Answer.go.inj there
      exact ih rest
    | accept _ _ there | tried there | choose there => rw [here] at there; cases there
  | tried here mem _ ih =>
    cases second with
    | tried there _ rest => exact ih rest
    | choose there new => exact absurd mem new
    | accept _ _ there | go there => rw [here] at there; cases there
  | choose here new _ ih =>
    cases second with
    | choose there _ rest =>
      rw [here] at there
      obtain rfl := Answer.choose.inj there
      exact ih rest
    | tried there mem => exact absurd mem new
    | accept _ _ there | go there => rw [here] at there; cases there

/-! ## Parts that may be cut off -/

/-- A set of nodes from which no way leads out. -/
def Closed (answer : Node → Answer) (D : Set Node) : Prop :=
  ∀ n ∈ D, ∀ m ∈ (answer n).nexts, m ∈ D

/-- An answer without the ways into a set of nodes. -/
noncomputable def Answer.keep (D : Set Node) : Answer → Answer
  | .accept => .accept
  | .go nexts => .go (nexts.filter (· ∉ D))
  | .choose nexts => .choose (nexts.filter (· ∉ D))

/-- The search without a set of nodes. -/
noncomputable def cutOff (answer : Node → Answer) (D : Set Node) (n : Node) : Answer :=
  if n ∈ D then .go [] else (answer n).keep D

section

variable {D : Set Node} {n : Node} {nexts : List Node}

theorem cutOff_of_mem (inside : n ∈ D) : cutOff answer D n = .go [] := if_pos inside

theorem cutOff_of_notMem (outside : n ∉ D) : cutOff answer D n = (answer n).keep D :=
  if_neg outside

/-- What is cut off leaves no new ways. -/
theorem nexts_cutOff {m : Node} (next : m ∈ (cutOff answer D n).nexts) : m ∈ (answer n).nexts := by
  by_cases inside : n ∈ D
  · rw [cutOff_of_mem inside] at next
    cases next
  · rw [cutOff_of_notMem inside] at next
    cases here : answer n with
    | accept => rw [here] at next; cases next
    | go nexts | choose nexts =>
      rw [here] at next
      exact (List.mem_filter.1 next).1

theorem filter_eq_nil (inside : ∀ m ∈ nexts, m ∈ D) : nexts.filter (· ∉ D) = [] := by
  rw [List.filter_eq_nil_iff]
  intro m mem
  simpa using inside m mem

/-- A closed set in which the search does not end may be cut off. -/
theorem Explores.without (run : Explores answer ways M r N) (closed : Closed answer D)
    (away : ∀ n ∈ D, answer n = .accept → r ≠ some n.2) :
    Explores (cutOff answer D) (ways.filter (· ∉ D)) (M \ D) r (N \ D) := by
  induction run with
  | done M => exact .done _
  | @accept n ways M here =>
    have outside : n ∉ D := fun inside => away n inside here rfl
    rw [List.filter_cons_of_pos (by simpa using outside)]
    exact .accept _ _ (by rw [cutOff_of_notMem outside, here]; rfl)
  | @go n nexts ways M N r here _ ih =>
    have rest := ih away
    rw [List.filter_append] at rest
    by_cases inside : n ∈ D
    · have all : ∀ m ∈ nexts, m ∈ D := by
        simpa only [here, Answer.nexts] using closed n inside
      rw [filter_eq_nil all, List.nil_append] at rest
      rwa [List.filter_cons_of_neg (by simpa using inside)]
    · rw [List.filter_cons_of_pos (by simpa using inside)]
      exact .go (by rw [cutOff_of_notMem inside, here]; rfl) rest
  | @tried n nexts ways M N r here mem _ ih =>
    by_cases inside : n ∈ D
    · rw [List.filter_cons_of_neg (by simpa using inside)]
      exact ih away
    · rw [List.filter_cons_of_pos (by simpa using inside)]
      exact .tried (by rw [cutOff_of_notMem inside, here]; rfl) ⟨mem, inside⟩ (ih away)
  | @choose n nexts ways M N r here new _ ih =>
    have rest := ih away
    rw [List.filter_append] at rest
    by_cases inside : n ∈ D
    · have all : ∀ m ∈ nexts, m ∈ D := by
        simpa only [here, Answer.nexts] using closed n inside
      rw [filter_eq_nil all, List.nil_append, Set.insert_sdiff_of_mem _ inside] at rest
      rwa [List.filter_cons_of_neg (by simpa using inside)]
    · rw [Set.insert_sdiff_of_notMem _ inside] at rest
      rw [List.filter_cons_of_pos (by simpa using inside)]
      exact .choose (by rw [cutOff_of_notMem inside, here]; rfl) (fun old => new old.1) rest

end

/-! ## Marks of searches that failed -/

/-- A closed set of nodes without the end of a match. -/
structure Barren (answer : Node → Answer) (B : Set Node) : Prop where
  closed : Closed answer B
  no_accept : ∀ n ∈ B, answer n ≠ .accept

theorem barren_empty (answer : Node → Answer) : Barren answer ∅ :=
  ⟨fun _ inside => absurd inside (Set.notMem_empty _),
    fun _ inside => absurd inside (Set.notMem_empty _)⟩

/-- What a search has seen when it fails: no end of a match, and only marked nodes lead out of
it. -/
theorem Explores.seen (run : Explores answer ways M none N) :
    ∃ V : Set Node, (∀ n ∈ ways, n ∈ V) ∧ M ⊆ V ∧ N ⊆ V ∧
      ∀ n ∈ V, n ∈ M ∨ answer n ≠ .accept ∧ ∀ m ∈ (answer n).nexts, m ∈ V := by
  generalize failed : (none : Option Nat) = r at run
  induction run with
  | done M =>
    exact ⟨M, fun n mem => absurd mem List.not_mem_nil, fun _ => id, fun _ => id, fun n => .inl⟩
  | accept => cases failed
  | @go n nexts ways M N r here _ ih =>
    obtain ⟨V, ways_mem, old, new, leads⟩ := ih failed
    refine ⟨insert n V, ?_, ?_, ?_, ?_⟩
    · intro m mem
      rcases List.mem_cons.1 mem with rfl | mem
      · exact Set.mem_insert _ _
      · exact Set.mem_insert_of_mem _ (ways_mem m (List.mem_append_right _ mem))
    · exact fun m mem => Set.mem_insert_of_mem _ (old mem)
    · exact fun m mem => Set.mem_insert_of_mem _ (new mem)
    · intro m mem
      rcases Set.mem_insert_iff.1 mem with rfl | mem
      · refine .inr ⟨by rw [here]; exact nofun, fun k next => ?_⟩
        rw [here] at next
        exact Set.mem_insert_of_mem _ (ways_mem k (List.mem_append_left _ next))
      · rcases leads m mem with marked | ⟨no_accept, nexts_mem⟩
        · exact .inl marked
        · exact .inr ⟨no_accept, fun k next => Set.mem_insert_of_mem _ (nexts_mem k next)⟩
  | @tried n nexts ways M N r here mem _ ih =>
    obtain ⟨V, ways_mem, old, new, leads⟩ := ih failed
    refine ⟨V, ?_, old, new, leads⟩
    intro m way
    rcases List.mem_cons.1 way with rfl | way
    · exact old mem
    · exact ways_mem m way
  | @choose n nexts ways M N r here _ _ ih =>
    obtain ⟨V, ways_mem, old, new, leads⟩ := ih failed
    refine ⟨V, ?_, fun m mem => old (Set.mem_insert_of_mem _ mem), new, ?_⟩
    · intro m way
      rcases List.mem_cons.1 way with rfl | way
      · exact old (Set.mem_insert _ _)
      · exact ways_mem m (List.mem_append_right _ way)
    · intro m mem
      rcases leads m mem with marked | leads
      · rcases Set.mem_insert_iff.1 marked with rfl | marked
        · refine .inr ⟨by rw [here]; exact nofun, fun k next => ?_⟩
          rw [here] at next
          exact ways_mem k (List.mem_append_left _ next)
        · exact .inl marked
      · exact .inr leads

/-- The marks that a failed search leaves behind lie in a barren set if those it began with do. -/
theorem Explores.barren {B : Set Node} (run : Explores answer ways M none N)
    (barren : Barren answer B) (marks : M ⊆ B) : ∃ B', Barren answer B' ∧ N ⊆ B' := by
  obtain ⟨V, -, -, new, leads⟩ := run.seen
  refine ⟨V ∪ B, ⟨?_, ?_⟩, fun n mem => .inl (new mem)⟩
  · intro n mem m next
    by_cases inside : n ∈ B
    · exact .inr (barren.closed n inside m next)
    · have seen : n ∈ V := mem.resolve_right inside
      rcases leads n seen with marked | ⟨-, nexts_mem⟩
      · exact absurd (marks marked) inside
      · exact .inl (nexts_mem m next)
  · intro n mem
    by_cases inside : n ∈ B
    · exact barren.no_accept n inside
    · rcases leads n (mem.resolve_right inside) with marked | ⟨no_accept, -⟩
      · exact absurd (marks marked) inside
      · exact no_accept

/-- A search comes to the same end without the marks of searches that failed. -/
theorem Explores.unmarked {B : Set Node} (run : Explores answer ways M r₁ M₁)
    (fresh : Explores answer ways ∅ r₂ M₂) (barren : Barren answer B) (marks : M ⊆ B) :
    r₁ = r₂ := by
  have without := run.without barren.closed fun n inside here =>
    absurd here (barren.no_accept n inside)
  have without' := fresh.without barren.closed fun n inside here =>
    absurd here (barren.no_accept n inside)
  rw [Set.sdiff_eq_empty.2 marks] at without
  rw [Set.empty_sdiff] at without'
  exact without.unique without'

/-! ## Searches of parts of a text -/

/-- A node of a part of a text as a node of the text, if the part begins at `a`. -/
def Node.lift (a : Nat) (n : Node) : Node := (n.1, n.2 + a)

theorem Node.lift_injective (a : Nat) : Function.Injective (Node.lift a) := by
  intro n m same
  have instr : n.1 = m.1 := congrArg (·.1) (show (n.1, n.2 + a) = (m.1, m.2 + a) from same)
  have place : n.2 + a = m.2 + a :=
    congrArg (·.2) (show (n.1, n.2 + a) = (m.1, m.2 + a) from same)
  exact Prod.ext instr (Nat.add_right_cancel place)

/-- The ways on from a node of a part of a text as ways of the text. -/
def Answer.lift (a : Nat) : Answer → Answer
  | .accept => .accept
  | .go nexts => .go (nexts.map (Node.lift a))
  | .choose nexts => .choose (nexts.map (Node.lift a))

theorem Answer.keep_lift (x : Answer) (a : Nat) (D : Set Node) :
    (x.lift a).keep D = (x.keep {n | n.lift a ∈ D}).lift a := by
  have filter (nexts : List Node) : (nexts.map (Node.lift a)).filter (· ∉ D) =
      (nexts.filter (· ∉ {n : Node | n.lift a ∈ D})).map (Node.lift a) := List.filter_map
  cases x with
  | accept => rfl
  | go nexts => exact congrArg Answer.go (filter nexts)
  | choose nexts => exact congrArg Answer.choose (filter nexts)

/-- A search of a part of a text is one of the text if the nodes that it comes to answer alike. -/
theorem Explores.lift {whole : Node → Answer} {a : Nat} {E : Set Node}
    (run : Explores answer ways M r N) (closed : Closed answer E) (within : ∀ n ∈ ways, n ∈ E)
    (alike : ∀ n ∈ E, whole (n.lift a) = (answer n).lift a) :
    Explores whole (ways.map (Node.lift a)) (Node.lift a '' M) (r.map (· + a))
      (Node.lift a '' N) := by
  induction run with
  | done M => exact .done _
  | @accept n ways M here =>
    have there := alike n (within n List.mem_cons_self)
    rw [here] at there
    exact .accept (n := n.lift a) _ _ there
  | @go n nexts ways M N r here _ ih =>
    have inside := within n List.mem_cons_self
    have there := alike n inside
    have onward := closed n inside
    rw [here] at there onward
    have rest := ih fun m mem => (List.mem_append.1 mem).elim (onward m)
      fun old => within m (List.mem_cons_of_mem _ old)
    rw [List.map_append] at rest
    exact .go there rest
  | @tried n nexts ways M N r here mem _ ih =>
    have there := alike n (within n List.mem_cons_self)
    rw [here] at there
    exact .tried there (Set.mem_image_of_mem _ mem)
      (ih fun m old => within m (List.mem_cons_of_mem _ old))
  | @choose n nexts ways M N r here new _ ih =>
    have inside := within n List.mem_cons_self
    have there := alike n inside
    have onward := closed n inside
    rw [here] at there onward
    have rest := ih fun m mem => (List.mem_append.1 mem).elim (onward m)
      fun old => within m (List.mem_cons_of_mem _ old)
    rw [List.map_append, Set.image_insert_eq] at rest
    exact .choose there (fun old => new ((Node.lift_injective a).mem_set_image.1 old)) rest

end FileSearch.Regex
