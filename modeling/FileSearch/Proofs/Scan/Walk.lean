import FileSearch.Scan.Leftmost

/-!
# The matches of a walk

`Finder.walk` lists the matches that a walk through a text comes to, and `Finder.onward` all of
them from where the walk stands.  If the finder advances, a walk comes to an end before its room is
used up, so that `onward` lists the next match and then those after it (`onward_of_some`).

A scan reports the matches of the walk from the front of the text, up to its limit
(`scanLimited_eq`).
-/

namespace FileSearch

/-- The first matches up to a limit, and whether there are more. -/
def upTo (limit : Option Nat) (l : List Match) : Array Match × Bool :=
  match limit with
  | none => (l.toArray, false)
  | some n => ((l.take n).toArray, n < l.length)

theorem toList_take {α : Type} (a : Array α) (n : Nat) :
    (a.take n).toList = a.toList.take n := by
  rw [Array.take_eq_extract, Array.toList_extract, List.extract_eq_take_drop, List.drop_zero,
    Nat.sub_zero]

namespace Finder

/-- The next matches of a walk, at most `room` of them. -/
def walk (f : Finder) (h : ByteArray) : Nat → Resume → List Span
  | 0, _ => []
  | room + 1, r =>
    match f.next h r with
    | none => []
    | some s => s :: f.walk h room (.after s)

/-- All matches of a walk from where it stands. -/
def onward (f : Finder) (h : ByteArray) (r : Resume) : List Span := f.walk h (h.size + 1) r

/-- All matches of a text in their order. -/
def allSpans (f : Finder) (h : ByteArray) : List Span := f.onward h ⟨0, none⟩

variable {f : Finder} {h : ByteArray} {r r' : Resume} {s : Span}

theorem walk_of_none (hs : f.next h r = none) (room : Nat) : f.walk h room r = [] := by
  cases room with
  | zero => rfl
  | succ room => simp only [walk, hs]

theorem walk_succ_of_some (hs : f.next h r = some s) (room : Nat) :
    f.walk h (room + 1) r = s :: f.walk h room (.after s) := by
  simp only [walk, hs]

theorem take_walk (n room : Nat) (r : Resume) :
    (f.walk h room r).take n = f.walk h (min n room) r := by
  induction room generalizing n r with
  | zero => simp [walk]
  | succ room ih =>
    cases n with
    | zero => simp [walk]
    | succ n =>
      rw [Nat.succ_min_succ]
      rcases hs : f.next h r with _ | s
      · rw [walk_of_none hs, walk_of_none hs, List.take_nil]
      · rw [walk_succ_of_some hs, walk_succ_of_some hs, List.take_succ_cons, ih]

theorem toList_collect (room : Nat) (r : Resume) (found : Array Span) :
    (f.collect h room r found).toList = found.toList ++ f.walk h room r := by
  induction room generalizing r found with
  | zero => simp [collect, walk]
  | succ room ih =>
    unfold collect
    rcases hs : f.next h r with _ | s
    · simp [walk_of_none hs]
    · simp [walk_succ_of_some hs, ih]

theorem toList_firstSpans (room : Nat) :
    (f.firstSpans h room).toList = (f.allSpans h).take room := by
  unfold firstSpans allSpans onward
  rw [toList_collect, take_walk]
  rfl

theorem toList_spans : (f.spans h).toList = f.allSpans h := by
  unfold spans
  rw [toList_firstSpans]
  unfold allSpans onward
  rw [take_walk, Nat.min_self]

theorem toList_scan (f : Finder) (h : ByteArray) :
    (f.scan h).toList = (f.allSpans h).map (Match.ofSpan h 0) := by
  rw [scan, Array.toList_map, toList_spans]

/-- A scan of a text reports the matches of the walk from its front. -/
theorem scanLimited_eq (limit : Option Nat) :
    f.scanLimited h limit = upTo limit ((f.allSpans h).map (Match.ofSpan h 0)) := by
  cases limit with
  | none =>
    simp only [scanLimited, upTo, scan]
    rw [← toList_spans, ← Array.toList_map]
  | some n =>
    have size_eq : (f.firstSpans h (n + 1)).size = min (n + 1) (f.allSpans h).length := by
      rw [← Array.length_toList, toList_firstSpans, List.length_take]
    have take_eq : (f.firstSpans h (n + 1)).take n = ((f.allSpans h).take n).toArray := by
      apply Array.toList_inj.1
      rw [toList_take, toList_firstSpans]
      simp [List.take_take]
    simp only [scanLimited, upTo, take_eq, size_eq, List.length_map]
    simp only [List.map_toArray, List.map_take, Prod.mk.injEq, true_and, decide_eq_decide]
    omega

/-! ## Finders that advance -/

theorem start_lt_pos_after (hs : s.start ≤ s.stop) : s.start < (Resume.after s).pos := by
  unfold Resume.after Span.isEmpty
  by_cases he : s.start = s.stop
  · simp [he]
  · simp only [beq_iff_eq, he, if_false]
    omega

theorem Advances.next (hf : f.Advances) (hs : f.next h r = some s) :
    r.pos ≤ s.start ∧ s.start ≤ s.stop ∧ s.start ≤ h.size := by
  unfold Finder.next at hs
  rcases hfind : f.find h r.pos with _ | t
  · simp [hfind] at hs
  · have ht := hf h r.pos t hfind
    simp only [hfind] at hs
    split at hs
    · have hs' := hf h (t.stop + 1) s hs
      omega
    · obtain rfl := Option.some.inj hs
      exact ht

theorem Advances.pos_lt (hf : f.Advances) (hs : f.next h r = some s) :
    r.pos < (Resume.after s).pos := by
  have := hf.next hs
  have := start_lt_pos_after this.2.1
  omega

/-- A walk has ended once its room reaches past the end of the text. -/
theorem Advances.walk_eq (hf : f.Advances) {n m : Nat} (hn : h.size < n + r.pos)
    (hm : h.size < m + r.pos) : f.walk h n r = f.walk h m r := by
  induction n generalizing r m with
  | zero =>
    rcases hs : f.next h r with _ | s
    · rw [walk_of_none hs, walk_of_none hs]
    · have := hf.next hs
      omega
  | succ n ih =>
    rcases hs : f.next h r with _ | s
    · rw [walk_of_none hs, walk_of_none hs]
    · have hpos := hf.pos_lt hs
      cases m with
      | zero =>
        have := hf.next hs
        omega
      | succ m =>
        rw [walk_succ_of_some hs, walk_succ_of_some hs]
        rw [ih (r := .after s) (m := m) (by omega) (by omega)]

theorem onward_of_none (hs : f.next h r = none) : f.onward h r = [] := walk_of_none hs _

theorem Advances.onward_of_some (hf : f.Advances) (hs : f.next h r = some s) :
    f.onward h r = s :: f.onward h (.after s) := by
  have hpos := hf.pos_lt hs
  unfold onward
  rw [walk_succ_of_some hs, hf.walk_eq (r := .after s) (m := h.size + 1) (by omega) (by omega)]

theorem onward_congr (hr : f.next h r = f.next h r') : f.onward h r = f.onward h r' := by
  unfold onward walk
  rw [hr]

end Finder

end FileSearch
