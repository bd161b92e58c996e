import FileSearch.Proofs.Scan.Limit
import FileSearch.Proofs.Scan.Order
import FileSearch.Proofs.Scan.Reads

/-!
# How much of a stream a scan takes

A scan with a limit ends at the first match beyond it.  A match is decided on by the first read that
shows more than the overlap behind its beginning, or else at the end of the stream, so the scan has
taken the reads up to that one (`Finder.bytesRead_scanStream`).  Two facts carry this from read to
read: what is found in a window begins before the place up to which the window is decided on
(`Window.Found`), and what is found later begins behind it (`Window.Settled`).
-/

namespace FileSearch

variable {f : Finder} {n : Nat}

/-- The number of bytes that have been read as soon as there are bytes behind a place, after `read`
bytes before; if there are none, or no place is given, the number of all bytes. -/
def ReadEvent.bytesUntil (place : Option Nat) : Nat → List ReadEvent → Nat
  | read, [] | read, .failed _ :: _ => read
  | read, .interrupted :: rest => bytesUntil place read rest
  | read, .bytes b :: rest =>
    if b.isEmpty then read
    else if place.any (· < read + b.size) then read + b.size
    else bytesUntil place (read + b.size) rest

namespace Window

variable {w w' : Window} {boundary overlap : Nat} {limit : Option Nat}

/-- The place of a window, and of the walk through it. -/
structure Placed (w : Window) : Prop where
  size_eq : w.offset + w.bytes.size = w.bytesRead
  offset_le : w.offset ≤ w.nextStart

/-- A window whose reads have been searched: no later match begins where they are decided on. -/
structure Settled (w : Window) (overlap : Nat) : Prop extends Placed w where
  read_le : w.bytesRead ≤ w.nextStart + overlap

theorem Settled.first (overlap : Nat) : ({} : Window).Settled overlap where
  size_eq := rfl
  offset_le := Nat.le_refl _
  read_le := Nat.zero_le _

theorem Placed.extend (hw : w.Placed) (b : ByteArray) : (w.extend b).Placed where
  size_eq := by
    change w.offset + (w.bytes ++ b).size = w.bytesRead + b.size
    rw [ByteArray.size_append, ← hw.size_eq, Nat.add_assoc]
  offset_le := hw.offset_le

theorem Placed.slide (hw : w.Placed) (overlap : Nat) :
    (w.slide (w.boundary overlap)).Settled overlap where
  size_eq := by
    have := hw.size_eq
    change w.offset + (w.boundary overlap - lookBehind) +
      (w.bytes.extract (w.boundary overlap - lookBehind) w.bytes.size).size = w.bytesRead
    rw [ByteArray.size_extract, boundary]
    omega
  offset_le := by
    change w.offset + (w.boundary overlap - lookBehind) ≤
      max w.nextStart (w.offset + w.boundary overlap)
    omega
  read_le := by
    have := hw.size_eq
    change w.bytesRead ≤ max w.nextStart (w.offset + w.boundary overlap) + overlap
    rw [boundary]
    omega

/-- What reports of matches that begin before a boundary make of a window. -/
structure Found (w : Window) (boundary : Nat) (w' : Window) : Prop where
  offset_eq : w'.offset = w.offset
  nextStart_le : w.nextStart ≤ w'.nextStart
  adds : ∃ new, w'.found.toList = w.found.toList ++ new ∧
    ∀ m ∈ new, w.nextStart ≤ m.start ∧ m.start < w.offset + boundary

theorem Placed.found_search (hf : f.InBounds) (hw : w.Placed) (boundary : Nat)
    (limit : Option Nat) : w.Found boundary (w.search f boundary limit).1 := by
  refine (search_rule hf.advances (P := w.Found boundary) ?_ ?_).1
  · rintro w' s ⟨offset_eq, nextStart_le, new, found, places⟩ next before -
    have pos_le : w'.nextStart - w'.offset ≤ s.start := (hf.next next).1
    have pos_lt : w'.nextStart - w'.offset < (Resume.after s).pos := hf.advances.pos_lt next
    have := hw.offset_le
    refine ⟨offset_eq, ?_, new ++ [.ofSpan w'.bytes w'.offset s], ?_, ?_⟩
    · change w.nextStart ≤ w'.offset + (Resume.after s).pos
      omega
    · rw [report, Array.toList_push, found, List.append_assoc]
    · intro m mem
      rcases List.mem_append.1 mem with old | last
      · exact places m old
      · rw [List.mem_singleton.1 last]
        change w.nextStart ≤ w'.offset + s.start ∧ w'.offset + s.start < w.offset + boundary
        omega
  · exact ⟨rfl, Nat.le_refl _, [], (List.append_nil _).symm, List.forall_mem_nil _⟩

theorem Placed.search (hf : f.InBounds) (hw : w.Placed) (boundary : Nat) (limit : Option Nat) :
    (w.search f boundary limit).1.Placed where
  size_eq := by
    rw [bytes_search, bytesRead_search, (hw.found_search hf boundary limit).offset_eq, hw.size_eq]
  offset_le := by
    have found := hw.found_search hf boundary limit
    rw [found.offset_eq]
    exact Nat.le_trans hw.offset_le found.nextStart_le

/-! ## Reads without a limit -/

/-- A read that does not end the scan. -/
theorem step_none (w : Window) (f : Finder) (overlap : Nat) {b : ByteArray}
    (nonempty : b.isEmpty = false) :
    w.step f overlap none (.bytes b) = .window
      (((w.extend b).search f ((w.extend b).boundary overlap) none).1.slide
        ((w.extend b).boundary overlap)) := by
  have uncut := (reportAll_none (w.extend b) f ((w.extend b).boundary overlap)
    ((w.extend b).bytes.size + 1) (w.extend b).resume).1
  simp only [step, nonempty, Bool.false_eq_true, if_false, search, uncut]

theorem Settled.step_none (hf : f.InBounds) (hw : w.Settled overlap) (b : ByteArray) :
    (((w.extend b).search f ((w.extend b).boundary overlap) none).1.slide
      ((w.extend b).boundary overlap)).Settled overlap := by
  have slides := ((hw.toPlaced.extend b).search hf ((w.extend b).boundary overlap) none).slide
    overlap
  have boundary_eq (w' : Window) (same : w'.bytes = (w.extend b).bytes) :
      w'.boundary overlap = (w.extend b).boundary overlap := by rw [boundary, boundary, same]
  rwa [boundary_eq _ (bytes_search _ _ _ _)] at slides

/-- The matches that a scan adds to those of a window begin where its walk stands, or later. -/
theorem Settled.run_none (hf : f.InBounds) {events : List ReadEvent} (hw : w.Settled overlap)
    {all : StreamScan} (runs : run f overlap none w events = .ok all) :
    all.bytesRead = ReadEvent.bytesUntil none w.bytesRead events ∧
      ∃ new, all.found.toList = w.found.toList ++ new ∧ ∀ m ∈ new, w.nextStart ≤ m.start := by
  have last (w : Window) (hw : w.Settled overlap) : (w.finish f none).bytesRead = w.bytesRead ∧
      ∃ new, (w.finish f none).found.toList = w.found.toList ++ new ∧
        ∀ m ∈ new, w.nextStart ≤ m.start := by
    obtain ⟨-, -, new, found, places⟩ := hw.toPlaced.found_search hf (w.bytes.size + 1) none
    exact ⟨bytesRead_search w f _ none, new, found, fun m mem => (places m mem).1⟩
  induction events generalizing w with
  | nil =>
    obtain rfl := Except.ok.inj runs
    exact last w hw
  | cons event events ih =>
    cases event with
    | failed err => cases runs
    | interrupted => exact ih hw runs
    | bytes b =>
      rw [ReadEvent.bytesUntil]
      by_cases hb : b.isEmpty
      · simp only [run, step, hb, if_true] at runs
        obtain rfl := Except.ok.inj runs
        rw [if_pos hb]
        exact last w hw
      · rw [Bool.not_eq_true] at hb
        simp only [run, w.step_none f overlap hb] at runs
        obtain ⟨read_eq, new', found', places'⟩ := ih (hw.step_none hf b) runs
        have found := (hw.toPlaced.extend b).found_search hf ((w.extend b).boundary overlap) none
        obtain ⟨-, nextStart_le, new, found, places⟩ := found
        have read := bytesRead_search (w.extend b) f ((w.extend b).boundary overlap) none
        refine ⟨?_, new ++ new', ?_, fun m mem => ?_⟩
        · rw [hb, Option.any_none]
          exact read_eq.trans (congrArg (ReadEvent.bytesUntil none · events) read)
        · rw [found', ← List.append_assoc]
          exact congrArg (· ++ new') found
        · rcases List.mem_append.1 mem with here | later
          · exact (places m here).1
          · exact Nat.le_trans nextStart_le
              (Nat.le_trans (Nat.le_max_left _ _) (places' m later))

/-! ## Reads with a limit -/

/-- What is behind the matches of the window among those of the whole scan. -/
theorem mem_of_getElem? {α : Type} {found all new : List α} {m : α} (split : all = found ++ new)
    (within : found.length ≤ n) (here : all[n]? = some m) : m ∈ new := by
  rw [split, List.getElem?_append_right within] at here
  exact List.mem_of_getElem? here

/-- A window whose reads have been searched decides on nothing that is found later. -/
theorem Settled.later (hf : f.InBounds) (hw : w.Settled overlap) (within : w.found.size ≤ n)
    {events : List ReadEvent} {all : StreamScan} (runs : run f overlap none w events = .ok all) :
    (all.found[n]?.map (·.start + overlap)).any (· < w.bytesRead) = false := by
  rcases here : all.found[n]? with _ | m
  · rfl
  · obtain ⟨-, new, split, places⟩ := hw.run_none hf runs
    rw [← Array.getElem?_toList] at here
    have start_le : w.nextStart ≤ m.start := places m (mem_of_getElem? split within here)
    have read_le := hw.read_le
    simp only [Option.map_some, Option.any_some, decide_eq_false_iff_not]
    omega

/-- What is found in a window before its boundary is decided on by the reads of the window. -/
theorem Placed.sooner (hf : f.InBounds) (hw : w.Placed) (overlap : Nat) (within : w.found.size ≤ n)
    (more : n < (w.search f (w.boundary overlap) none).1.found.size) {all : StreamScan}
    {later : List Match} (split : all.found.toList =
      (w.search f (w.boundary overlap) none).1.found.toList ++ later) :
    (all.found[n]?.map (·.start + overlap)).any (· < w.bytesRead) = true := by
  obtain ⟨-, -, new, found, places⟩ := hw.found_search hf (w.boundary overlap) none
  generalize (w.search f (w.boundary overlap) none).1 = w' at *
  have here : w'.found.toList[n]? = some w'.found[n] := List.getElem?_eq_getElem more
  have start_mem : w.nextStart ≤ w'.found[n].start ∧
      w'.found[n].start < w.offset + (w.bytes.size - overlap) :=
    places _ (mem_of_getElem? found within here)
  have size_eq := hw.size_eq
  have offset_le := hw.offset_le
  rw [← Array.getElem?_toList, split, List.getElem?_append_left more, here]
  simp only [Option.map_some, Option.any_some, decide_eq_true_eq]
  omega

/-- From any window on, a scan takes the reads up to the one by which the first match beyond the
limit is decided on. -/
theorem Settled.run_some (hf : f.InBounds) {events : List ReadEvent}
    (ok : ReadEvent.neverFails events) (hw : w.Settled overlap) (within : w.found.size ≤ n)
    {all cut : StreamScan} (runs : run f overlap none w events = .ok all)
    (cuts : run f overlap (some n) w events = .ok cut) :
    cut.bytesRead =
      ReadEvent.bytesUntil (all.found[n]?.map (·.start + overlap)) w.bytesRead events := by
  induction events generalizing w with
  | nil =>
    obtain rfl := Except.ok.inj cuts
    exact bytesRead_search w f _ _
  | cons event events ih =>
    cases event with
    | failed err => cases ok
    | interrupted => exact ih ok hw within runs cuts
    | bytes b =>
      rw [ReadEvent.bytesUntil]
      by_cases hb : b.isEmpty
      · simp only [run, step, hb, if_true] at cuts
        obtain rfl := Except.ok.inj cuts
        rw [if_pos hb]
        exact bytesRead_search w f _ _
      · rw [Bool.not_eq_true] at hb
        simp only [ReadEvent.neverFails, hb, Bool.false_or] at ok
        have extended := hw.toPlaced.extend b
        have settled := hw.step_none hf b
        have read := bytesRead_search (w.extend b) f ((w.extend b).boundary overlap)
        have searched : Cut n _ _ :=
          search_cut f ((w.extend b).boundary overlap) (w := w.extend b) within
        simp only [run, w.step_none f overlap hb] at runs
        simp only [run, step, hb, Bool.false_eq_true, if_false] at cuts
        rw [hb, if_neg Bool.false_ne_true]
        have read_none := read none
        have read_some := read (some n)
        have sooner := extended.sooner hf overlap within
        generalize (w.extend b).boundary overlap = boundary at *
        generalize (w.extend b).search f boundary (some n) = limited at *
        generalize (w.extend b).search f boundary none = unlimited at *
        cases searched with
        | @same w' within' =>
          -- The first match beyond the limit begins where this window is not decided on.
          have read_eq : (w'.slide boundary).bytesRead = w.bytesRead + b.size := read_none
          have later := settled.later hf within' runs
          rw [read_eq] at later
          rw [later, if_neg Bool.false_ne_true]
          exact (ih ok settled within' runs cuts).trans
            (congrArg (ReadEvent.bytesUntil _ · events) read_eq)
        | ended first more =>
          -- The first match beyond the limit is one of this window.
          obtain rfl := Except.ok.inj cuts
          obtain ⟨-, later, split, -⟩ := settled.run_none hf runs
          exact read_some.trans (if_pos (sooner more split)).symm

end Window

/-- A scan with a limit takes the reads up to the one that decides on the first match beyond the
limit, among those that the scan without a limit finds; a scan without a limit, and one that stays
within it, takes them all. -/
theorem Finder.bytesRead_scanStream (hf : f.InBounds) (overlap : Nat) (limit : Option Nat)
    {events : List ReadEvent} (ok : ReadEvent.neverFails events) :
    ∃ all cut, f.scanStream overlap none events = .ok all ∧
      f.scanStream overlap limit events = .ok cut ∧
      cut.truncated = (limit.bind (all.found[·]?)).isSome ∧
      cut.bytesRead = ReadEvent.bytesUntil
        ((limit.bind (all.found[·]?)).map (·.start + f.overlap overlap)) 0 events := by
  have first := Window.Settled.first (f.overlap overlap)
  cases limit with
  | none =>
    obtain ⟨all, runs, uncut, -⟩ := Window.run_none f (f.overlap overlap) ok {}
    exact ⟨all, all, runs, runs, uncut, (first.run_none hf runs).1⟩
  | some n =>
    obtain ⟨all, cut, runs, cuts, -, truncated⟩ :=
      Window.run_cut f (f.overlap overlap) ok (w := {}) (Nat.zero_le n)
    refine ⟨all, cut, runs, cuts, ?_, first.run_some hf ok (Nat.zero_le n) runs cuts⟩
    rw [truncated, Option.bind_some, Bool.eq_iff_iff, decide_eq_true_iff]
    simp only [isSome_getElem?]

namespace Fills

variable {content : ByteArray} {buffer served : Nat} {reads : List ReadEvent}

/-- Reads that fill a buffer show what is behind a place as soon as enough buffers are filled. -/
theorem bytesUntil_eq (roomy : 0 < buffer) (fills : Fills content buffer served reads)
    {place : Option Nat} (behind : ∀ p ∈ place, served ≤ p) :
    ReadEvent.bytesUntil place served reads =
      (place.map fun p => min content.size (served + buffer * ((p - served) / buffer + 1))).getD
        content.size := by
  induction fills with
  | ended =>
    have : ReadEvent.bytesUntil place content.size [.bytes .empty] = content.size := rfl
    cases place with
    | none => exact this
    | some p =>
      rw [this, Option.map_some, Option.getD_some]
      omega
  | @read served n reads same some fills ih =>
    have nonempty := isEmpty_extract same some
    have size : (content.extract served (served + n)).size = n := by
      rw [ByteArray.size_extract]
      omega
    rw [ReadEvent.bytesUntil, nonempty, if_neg Bool.false_ne_true, size]
    cases place with
    | none =>
      rw [Option.any_none, if_neg Bool.false_ne_true]
      exact ih nofun
    | some p =>
      have served_le : served ≤ p := behind p rfl
      rw [Option.any_some, Option.map_some, Option.getD_some]
      by_cases shown : p < served + n
      · have : p - served < buffer := by omega
        rw [decide_eq_true shown, if_pos rfl, Nat.div_eq_of_lt this]
        omega
      · have behind' : ∀ p' ∈ Option.some p, served + n ≤ p' := by
          rintro _ ⟨⟩
          omega
        rw [decide_eq_false shown, if_neg Bool.false_ne_true, ih behind', Option.map_some,
          Option.getD_some]
        by_cases full : n = buffer
        · -- One more buffer has been filled.
          have le : buffer ≤ p - served := by omega
          have one : p - (served + n) = p - served - buffer := by omega
          rw [one, Nat.div_eq_sub_div roomy le, Nat.mul_succ, Nat.mul_succ, Nat.mul_succ, full]
          omega
        · rw [Nat.mul_succ, Nat.mul_succ]
          omega

end Fills

end FileSearch
