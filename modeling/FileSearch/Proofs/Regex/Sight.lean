import FileSearch.Proofs.Pattern.Local
import FileSearch.Proofs.Regex.Attempt

/-!
# What decides about an attempt

A part of a text in which a place has its `lookBehind` bytes before it answers as the text does:
conditions hold there as they do in the text if it shows the bytes they look at (`View.holds_eq`),
and a member of a set that ends in the part is one of the text (`View.pass_iff`).  So an attempt at
the place ends in the part where it ends in the text, if neither goes beyond a place behind which
the part shows enough for all conditions (`Program.attempt_eq`).
-/

open scoped Classical

namespace FileSearch

/-! ## Characters -/

/-- A character is decided by its own bytes. -/
theorem Utf8.front_of_bytes {b₀ c n : Nat} {b₁ b₂ b₃ b₁' b₂' b₃' : Option Nat}
    (char : front b₀ b₁ b₂ b₃ = .char c n) (second : 1 < n → b₁' = b₁) (third : 2 < n → b₂' = b₂)
    (fourth : 3 < n → b₃' = b₃) : front b₀ b₁' b₂' b₃' = .char c n := by
  simp only [front] at char ⊢
  generalize width b₀ = w at char ⊢
  by_cases none : w = 0
  · grind
  · by_cases one : w = 1
    · grind
    · rcases b₁ with _ | b₁
      · grind
      · by_cases two : w = 2
        · grind
        · rcases b₂ with _ | b₂
          · grind
          · by_cases three : w = 3
            · grind
            · rcases b₃ with _ | b₃
              · grind
              · grind

namespace Regex

open Utf8 (frontAt)

/-- The byte of a part of a text, as `frontAt` reads it. -/
def byteAt (h : ByteArray) (stop j : Nat) : Option Nat :=
  if j < stop then h[j]?.map UInt8.toNat else none

theorem frontAt_eq (h : ByteArray) (i stop : Nat) :
    frontAt h i stop = (byteAt h stop i).map fun b =>
      Utf8.front b (byteAt h stop (i + 1)) (byteAt h stop (i + 2)) (byteAt h stop (i + 3)) := by
  unfold frontAt
  rcases first : byteAt h stop i with _ | b
  all_goals
    unfold byteAt at first
    simp only [first]
    rfl

/-- What stands at a place is decided by four bytes. -/
theorem frontAt_congr {h h' : ByteArray} {i i' stop stop' : Nat}
    (same : ∀ k < 4, byteAt h stop (i + k) = byteAt h' stop' (i' + k)) :
    frontAt h i stop = frontAt h' i' stop' := by
  have first := same 0 (by decide)
  have second := same 1 (by decide)
  have third := same 2 (by decide)
  have fourth := same 3 (by decide)
  rw [Nat.add_zero, Nat.add_zero] at first
  rw [frontAt_eq, frontAt_eq, first, second, third, fourth]

/-- The character that begins at a place is decided by its own bytes. -/
theorem frontAt_char {h h' : ByteArray} {i i' stop stop' c n : Nat}
    (char : frontAt h i stop = some (.char c n))
    (same : ∀ k < n, byteAt h' stop' (i' + k) = byteAt h stop (i + k)) :
    frontAt h' i' stop' = some (.char c n) := by
  rw [frontAt_eq, Option.map_eq_some_iff] at char
  obtain ⟨b, here, front⟩ := char
  have positive : 0 < n := by
    rcases Utf8.length_of_front front with rfl | ⟨rfl, -⟩ | ⟨rfl, -⟩ | ⟨rfl, -⟩ <;> decide
  have first := same 0 positive
  rw [Nat.add_zero, Nat.add_zero, here] at first
  rw [frontAt_eq, first]
  exact congrArg some (Utf8.front_of_bytes front (same 1) (same 2) (same 3))

/-! ## Views of a text -/

/-- A part `w` of a text `h` from `a` on, which shows what stands before the place `s` and all bytes
before `stop`. -/
structure View (h w : ByteArray) (a s stop : Nat) : Prop where
  part : w = h.extract a stop
  front : a = 0 ∨ a + lookBehind ≤ s
  le : a ≤ stop
  stop_le : stop ≤ h.size

/-- How many bytes behind a place decide about a condition there. -/
def Look.ahead : Look → Nat
  | .textStart | .lineStart => 0
  | .textEnd | .lineEnd | .crlfStart | .crlfEnd | .word _ false => 1
  | .word _ true => 4

namespace View

variable {h w : ByteArray} {a s stop i : Nat} (view : View h w a s stop)

include view

theorem size_eq : w.size + a = stop := by
  have := view.le
  have := view.stop_le
  rw [view.part, ByteArray.size_extract]
  omega

theorem getElem?_eq {j : Nat} (seen : j + a < stop ∨ stop = h.size) : w[j]? = h[j + a]? := by
  have size := view.size_eq
  have := view.le
  have := view.stop_le
  by_cases inside : j + a < stop
  · rw [view.part, Pattern.getElem?_extract (by omega), Nat.add_comm]
  · rw [getElem?_neg w j (by omega), getElem?_neg h (j + a) (by omega)]

theorem byteAt_eq {j : Nat} (seen : j + a < stop ∨ stop = h.size) (k : Nat) :
    byteAt w k j = byteAt h (k + a) (j + a) := by
  unfold byteAt
  rw [view.getElem?_eq seen]
  by_cases lt : j < k
  · rw [if_pos lt, if_pos (by omega)]
  · rw [if_neg lt, if_neg (by omega)]

theorem byteAt_size {j : Nat} (seen : j + a < stop ∨ stop = h.size) :
    byteAt w w.size j = byteAt h h.size (j + a) := by
  have size := view.size_eq
  have := view.stop_le
  rw [view.byteAt_eq seen]
  unfold byteAt
  rcases seen with inside | all
  · rw [if_pos (by omega), if_pos (by omega)]
  · rw [size, all]

/-! ## Conditions -/

theorem leadBefore_eq (steps : Nat) (within : steps ≤ i) (seen : i + a < stop ∨ stop = h.size) :
    leadBefore h (i + a) steps = leadBefore w i steps + a := by
  induction steps generalizing i with
  | zero => rfl
  | succ steps ih =>
    have rest := ih (i := i - 1) (by omega) (seen.imp_left fun lt => by omega)
    rw [show i - 1 + a = i + a - 1 by omega] at rest
    rw [leadBefore, leadBefore, view.getElem?_eq seen]
    cases h[i + a]? with
    | none => rfl
    | some b =>
      show (if _ then _ else _) = (if _ then _ else _) + a
      split
      · exact rest
      · rfl

theorem charBefore_eq (front : a = 0 ∨ lookBehind ≤ i) (seen : i + a ≤ stop ∨ stop = h.size) :
    charBefore? h (i + a) = charBefore? w i := by
  have four : lookBehind = 4 := rfl
  unfold charBefore?
  by_cases zero : i = 0
  · rw [if_pos (by omega), if_pos zero]
  · rw [if_neg (by omega), if_neg zero, show i + a - 1 = i - 1 + a by omega,
      show min (i + a) 4 = min i 4 by omega,
      view.leadBefore_eq (i := i - 1) _ (by omega) (seen.imp_left fun le => by omega)]
    unfold charFrom?
    have same : frontAt h (leadBefore w (i - 1) (min i 4 - 1) + a) (i + a) =
        frontAt w (leadBefore w (i - 1) (min i 4 - 1)) i := by
      refine frontAt_congr fun k _ => ?_
      generalize leadBefore w (i - 1) (min i 4 - 1) = lead
      rw [Nat.add_right_comm]
      by_cases inside : lead + k < i
      · exact (view.byteAt_eq (seen.imp_left fun le => by omega) i).symm
      · unfold byteAt
        rw [if_neg (by omega), if_neg inside]
    rw [same]

theorem before_eq (front : a = 0 ∨ lookBehind ≤ i) (seen : i + a ≤ stop ∨ stop = h.size)
    (unicode : Bool) : before h (i + a) unicode = before w i unicode := by
  have four : lookBehind = 4 := rfl
  unfold before
  by_cases zero : i = 0
  · rw [if_pos (by omega), if_pos zero]
  · rw [if_neg (by omega), if_neg zero, view.charBefore_eq front seen,
      show i + a - 1 = i - 1 + a by omega,
      view.getElem?_eq (j := i - 1) (seen.imp_left fun le => by omega)]

theorem size_le_iff (seen : i + a + 1 ≤ stop ∨ stop = h.size) : h.size ≤ i + a ↔ w.size ≤ i := by
  have size := view.size_eq
  have := view.stop_le
  have := view.le
  omega

theorem after_eq {unicode : Bool}
    (seen : i + a + (if unicode then 4 else 1) ≤ stop ∨ stop = h.size) :
    after h (i + a) unicode = after w i unicode := by
  have one : i + a + 1 ≤ stop ∨ stop = h.size := by
    refine seen.imp_left fun le => ?_
    cases unicode
    · exact le
    · simp only [if_true] at le
      omega
  unfold after
  by_cases last : w.size ≤ i
  · rw [if_pos ((view.size_le_iff one).2 last), if_pos last]
  · rw [if_neg (fun le => last ((view.size_le_iff one).1 le)), if_neg last,
      view.getElem?_eq (one.imp_left fun le => by omega)]
    cases unicode with
    | false => rfl
    | true =>
      have same : frontAt h (i + a) h.size = frontAt w i w.size := by
        refine frontAt_congr fun k small => ?_
        rw [Nat.add_right_comm]
        refine (view.byteAt_size (seen.imp_left fun le => ?_)).symm
        simp only [if_true] at le
        omega
      simp only [charFrom?, same]

/-- A condition holds in a view as it does in the text, if the view shows what decides about it. -/
theorem holds_eq {l : Look} (front : a = 0 ∨ lookBehind ≤ i)
    (seen : i + a + l.ahead ≤ stop ∨ stop = h.size) : l.holds h (i + a) = l.holds w i := by
  have four : lookBehind = 4 := rfl
  have size := view.size_eq
  have := view.stop_le
  have := view.le
  have start : (i + a == 0) = (i == 0) := by
    rw [Bool.eq_iff_iff, beq_iff_eq, beq_iff_eq]
    omega
  have last (one : i + a + 1 ≤ stop ∨ stop = h.size) : (i + a == h.size) = (i == w.size) := by
    rw [Bool.eq_iff_iff, beq_iff_eq, beq_iff_eq]
    omega
  have next (one : i + a + 1 ≤ stop ∨ stop = h.size) : h[i + a]? = w[i]? :=
    (view.getElem?_eq (one.imp_left fun le => by omega)).symm
  have previous (some : i + a ≤ stop ∨ stop = h.size) (b : UInt8) :
      byteBefore h (i + a) b = byteBefore w i b := by
    unfold byteBefore
    by_cases zero : i = 0
    · simp only [zero, show a = 0 by omega, Nat.lt_irrefl, decide_false, Bool.false_and]
    · have seen' : i - 1 + a < stop ∨ stop = h.size := some.imp_left fun le => by omega
      rw [show i + a - 1 = i - 1 + a by omega, view.getElem?_eq seen',
        decide_eq_true (show 0 < i + a by omega), decide_eq_true (show 0 < i by omega)]
  have some : i + a ≤ stop ∨ stop = h.size := seen.imp_left fun le => by omega
  cases l with
  | textStart => exact start
  | textEnd => exact last seen
  | lineStart => simp only [Look.holds, start, previous some]
  | lineEnd => simp only [Look.holds, last seen, next seen]
  | crlfStart => simp only [Look.holds, start, previous some, next seen]
  | crlfEnd => simp only [Look.holds, last seen, next seen, previous some]
  | word kind unicode =>
    have behind : after h (i + a) unicode = after w i unicode := by
      cases unicode
      · exact view.after_eq seen
      · exact view.after_eq seen
    simp only [Look.holds, view.before_eq front some, behind]

/-! ## Members of sets -/

/-- A member that ends in a view is one of the text, and the other way round. -/
theorem pass_iff {s : MemberSet} {j : Nat} (le : j + a ≤ stop) :
    s.pass h (i + a) = some (j + a) ↔ s.pass w i = some j := by
  cases s with
  | bytes s =>
    have next : i + 1 = j → h[i + a]? = w[i]? :=
      fun same => (view.getElem?_eq (.inl (by omega))).symm
    rw [pass_bytes, pass_bytes]
    constructor
    · rintro ⟨b, here, member, same⟩
      have same : i + 1 = j := by omega
      exact ⟨b, (next same).symm.trans here, member, same⟩
    · rintro ⟨b, here, member, same⟩
      exact ⟨b, (next same).trans here, member, by omega⟩
  | chars s =>
    have own (n : Nat) (ends : i + n = j) (k : Nat) (lt : k < n) :
        byteAt w w.size (i + k) = byteAt h h.size (i + a + k) := by
      rw [Nat.add_right_comm i a k]
      exact view.byteAt_size (.inl (by omega))
    rw [pass_chars, pass_chars]
    constructor
    · rintro ⟨c, n, char, member, same⟩
      have ends : i + n = j := by omega
      exact ⟨c, n, frontAt_char char (own n ends), member, ends⟩
    · rintro ⟨c, n, char, member, ends⟩
      exact ⟨c, n, frontAt_char char fun k lt => (own n ends k lt).symm, member, by omega⟩

/-- A view and the text have the same members up to a place that the view shows. -/
theorem filter_pass {top : Nat} (seen : top ≤ stop ∨ stop = h.size) (s : MemberSet) :
    (s.pass h (i + a)).filter (· ≤ top) = ((s.pass w i).map (· + a)).filter (· ≤ top) := by
  have size := view.size_eq
  apply Option.ext
  intro j
  simp only [Option.filter_eq_some_iff, Option.map_eq_some_iff, decide_eq_true_iff]
  constructor
  · rintro ⟨passed, le⟩
    obtain ⟨later, inside⟩ := MemberSet.pass_le passed
    obtain ⟨k, rfl⟩ : ∃ k, j = k + a := ⟨j - a, by omega⟩
    exact ⟨⟨k, (view.pass_iff (by omega)).1 passed, rfl⟩, le⟩
  · rintro ⟨⟨k, passed, rfl⟩, le⟩
    obtain ⟨-, inside⟩ := MemberSet.pass_le passed
    exact ⟨(view.pass_iff (by omega)).2 passed, le⟩

end View

/-! ## Attempts -/

namespace Program

variable {p : Program} {h w : ByteArray} {a s stop top : Nat}

/-- The nodes behind a place. -/
def beyond (top : Nat) : Set Node := {n | top < n.2}

theorem le_of_goTo {next i : Nat} {o : Option Nat} (le : ∀ j ∈ o, i ≤ j) {m : Node}
    (mem : m ∈ (Answer.goTo next o).nexts) : i ≤ m.2 := by
  cases o with
  | none => cases mem
  | some j =>
    rw [List.mem_singleton.1 mem]
    exact le j rfl

/-- A search never goes back in the text. -/
theorem le_of_answer {n m : Node} (next : m ∈ (p.answer h n).nexts) : n.2 ≤ m.2 := by
  obtain ⟨pc, i⟩ := n
  show i ≤ m.2
  cases found : p.insts[pc]? with
  | none =>
    rw [answer_of_none found] at next
    cases next
  | some inst =>
    rw [answer_eq found] at next
    cases inst with
    | accept => cases next
    | jump k => exact le_of_goTo (fun j same => Nat.le_of_eq (Option.some.inj same)) next
    | byte b k =>
      refine le_of_goTo (fun j same => ?_) next
      have there : i + 1 = j := Option.some.inj (Option.ite_none_right_eq_some.1 same).2
      omega
    | set s k => exact le_of_goTo (fun j passed => (MemberSet.pass_le passed).1) next
    | look l k =>
      refine le_of_goTo (fun j same => ?_) next
      exact Nat.le_of_eq (Option.some.inj (Option.ite_none_right_eq_some.1 same).2)
    | split nexts =>
      obtain ⟨k, -, rfl⟩ := List.mem_map.1 next
      exact Nat.le_refl i

theorem closed_beyond (p : Program) (h : ByteArray) (top : Nat) :
    Closed (p.answer h) (beyond top) :=
  fun _ inside _ next => Nat.lt_of_lt_of_le inside (le_of_answer next)

/-- The conditions of a program look at most `margin` bytes beyond the one behind their place. -/
def LooksAhead (p : Program) (margin : Nat) : Prop :=
  ∀ (pc next : Nat) (l : Look), p.insts[pc]? = some (.look l next) → l.ahead ≤ margin + 1

theorem goTo_lift (next : Nat) (o : Option Nat) (a : Nat) :
    (Answer.goTo next o).lift a = .goTo next (o.map (· + a)) := by
  cases o <;> rfl

theorem keep_goTo (next : Nat) (o : Option Nat) (top : Nat) :
    (Answer.goTo next o).keep (beyond top) = .goTo next (o.filter (· ≤ top)) := by
  cases o with
  | none => rfl
  | some j =>
    show Answer.go ([(next, j)].filter (· ∉ beyond top)) = _
    by_cases le : j ≤ top
    · have outside : (next, j) ∉ beyond top := Nat.not_lt.2 le
      rw [List.filter_cons_of_pos (by simpa using outside),
        Option.filter_some_pos (by simpa using le)]
      rfl
    · have inside : (next, j) ∈ beyond top := Nat.lt_of_not_le le
      rw [List.filter_cons_of_neg (by simpa using inside),
        Option.filter_some_neg (by simpa using le)]
      rfl

/-- An instruction means the same in a view, as long as the search stays before a place up to which
the view shows what decides about conditions. -/
theorem keep_answer (view : View h w a s stop) {margin : Nat}
    (seen : top + 1 + margin ≤ stop ∨ stop = h.size) {inst : Inst}
    (looks : ∀ l next, inst = .look l next → l.ahead ≤ margin + 1) {i : Nat} (later : s ≤ i + a)
    (before : i + a ≤ top) :
    (inst.answer h (i + a)).keep (beyond top) =
      ((inst.answer w i).lift a).keep (beyond top) := by
  cases inst with
  | accept => rfl
  | jump next => rfl
  | byte b next =>
    have same : w[i]? = h[i + a]? := view.getElem?_eq (seen.imp_left fun le => by omega)
    rw [Inst.answer, Inst.answer, goTo_lift, same, apply_ite (Option.map (· + a)),
      Nat.add_right_comm]
    rfl
  | set m next =>
    rw [Inst.answer, Inst.answer, goTo_lift, keep_goTo, keep_goTo,
      view.filter_pass (seen.imp_left fun le => by omega)]
  | look l next =>
    have front : a = 0 ∨ lookBehind ≤ i := view.front.imp_right fun le => by omega
    have same : l.holds h (i + a) = l.holds w i :=
      view.holds_eq front (seen.imp_left fun le => by
        have := looks l next rfl
        omega)
    rw [Inst.answer, Inst.answer, goTo_lift, same, apply_ite (Option.map (· + a))]
    rfl
  | split nexts =>
    rw [Inst.answer, Inst.answer, Answer.lift, List.map_map]
    rfl

/-- An attempt ends where it does in a view, if neither goes beyond a place up to which the view
shows what decides about conditions. -/
theorem attempt_eq (laid : p.WellLaid) {margin : Nat} (looks : p.LooksAhead margin)
    (view : View h w a s stop) (le : a ≤ s) (inside : s ≤ stop) (ahead : s ≤ top)
    (seen : top + 1 + margin ≤ stop ∨ stop = h.size) (short : ∀ e, p.attempt h s = some e → e ≤ top)
    (short' : ∀ e, p.attempt w (s - a) = some e → e + a ≤ top) :
    p.attempt h s = (p.attempt w (s - a)).map (· + a) := by
  have size := view.size_eq
  have stop_le := view.stop_le
  obtain ⟨M, run⟩ := explores_attempt laid (show s ≤ h.size by omega)
  obtain ⟨N, run'⟩ := explores_attempt laid (show s - a ≤ w.size by omega)
  let D : Set Node := {n | n.lift a ∈ beyond top}
  have closed : Closed (p.answer w) D := fun n inside m next => by
    have here : top < n.2 + a := inside
    have onward : n.2 ≤ m.2 := le_of_answer next
    show top < m.2 + a
    omega
  have cut := run.without (closed_beyond p h top) fun n beyond _ same =>
    absurd (short n.2 same) (Nat.not_le.2 beyond)
  have cut' := run'.without closed fun n beyond _ same =>
    absurd (short' n.2 same) (Nat.not_le.2 beyond)
  have onward : Closed (cutOff (p.answer w) D) {n | s ≤ n.2 + a} := fun n here m next => by
    have later : n.2 ≤ m.2 := le_of_answer (nexts_cutOff next)
    have here : s ≤ n.2 + a := here
    show s ≤ m.2 + a
    omega
  have alike : ∀ n ∈ {n : Node | s ≤ n.2 + a},
      cutOff (p.answer h) (beyond top) (n.lift a) = (cutOff (p.answer w) D n).lift a := by
    intro n later
    by_cases before : n.2 + a ≤ top
    · have outside : n ∉ D := Nat.not_lt.2 before
      have outside' : n.lift a ∉ beyond top := outside
      rw [cutOff_of_notMem outside, cutOff_of_notMem outside', ← Answer.keep_lift]
      obtain ⟨pc, i⟩ := n
      show (p.answer h (pc, i + a)).keep _ = _
      cases found : p.insts[pc]? with
      | none =>
        rw [answer_of_none found, answer_of_none found]
        rfl
      | some inst =>
        rw [answer_eq found, answer_eq found]
        refine keep_answer view seen (fun l next same => ?_) later before
        exact looks pc next l (same ▸ found)
    · have inside : n ∈ D := Nat.lt_of_not_le before
      have inside' : n.lift a ∈ beyond top := inside
      rw [cutOff_of_mem inside, cutOff_of_mem inside']
      rfl
  have within : ∀ n ∈ [(0, s - a)].filter (· ∉ D), n ∈ {n : Node | s ≤ n.2 + a} := by
    intro n mem
    rw [List.mem_singleton.1 (List.mem_filter.1 mem).1]
    show s ≤ s - a + a
    omega
  have lifted := cut'.lift onward within alike
  have start : ([(0, s - a)].filter (· ∉ D)).map (Node.lift a) =
      [(0, s)].filter (· ∉ beyond top) := by
    have place : Node.lift a (0, s - a) = (0, s) := by
      show (0, s - a + a) = _
      rw [Nat.sub_add_cancel le]
    have outside' : (0, s) ∉ beyond top := Nat.not_lt.2 ahead
    have outside : (0, s - a) ∉ D := by
      show Node.lift a (0, s - a) ∉ beyond top
      rwa [place]
    rw [List.filter_cons_of_pos (by simpa using outside),
      List.filter_cons_of_pos (by simpa using outside'), List.map_cons, place]
    rfl
  rw [start, Set.empty_sdiff, Set.image_empty] at lifted
  rw [Set.empty_sdiff] at cut
  exact cut.unique lifted

end Program

end Regex

end FileSearch
