import Mathlib.Data.List.Induction
import FileSearch.Proofs.Scan.Taken

/-!
# How much of a stream a scan holds

Between two reads a scan of a stream holds what it carries over and the few bytes before it at which
conditions look back, so each window that it searches has a bounded size, however long the stream
is.  The window shows its part of the content, and the place from which the scan looks on lies in it
(`Window.Holds`).  One read keeps this and does not move that place back (`Window.Holds.step`).  So
it holds of the windows between reads (`Window.Reached`), from which the scan goes on as long as it
has not ended (`Finder.goesOn_or_ended`), and of those that it searches, to which a read has added
its bytes (`Finder.ComesTo`).
-/

namespace FileSearch

theorem ReadEvent.content_bytes (b : ByteArray) (rest : List ReadEvent) :
    content (.bytes b :: rest) = b ++ if b.isEmpty then .empty else content rest := by
  rw [content]
  split
  · rename_i empty
    have : b = .empty := ByteArray.size_eq_zero_iff.1 (beq_iff_eq.1 empty)
    rw [this, ByteArray.append_empty]
  · rfl

variable {f : Finder} {content : ByteArray} {overlap : Nat} {limit : Option Nat}

namespace Window

variable {w w' : Window} {s : Span} {b : ByteArray} {boundary most : Nat} {event : ReadEvent}
  {before more rest : List ReadEvent}

theorem boundary_le (w : Window) (overlap : Nat) : w.boundary overlap ≤ w.bytes.size :=
  Nat.sub_le _ _

theorem size_le_boundary_add (w : Window) (overlap : Nat) :
    w.bytes.size ≤ w.boundary overlap + overlap := by
  unfold boundary
  omega

/-- A scan goes on after a read that is interrupted, or that gives bytes with which no match beyond
the limit is found. -/
theorem step_eq_window (goes : w.step f overlap limit event = .window w') :
    (event = .interrupted ∧ w' = w) ∨
      ∃ b, event = .bytes b ∧ b.isEmpty = false ∧
        ((w.extend b).search f ((w.extend b).boundary overlap) limit).2 = false ∧
          w' = ((w.extend b).search f ((w.extend b).boundary overlap) limit).1.slide
            ((w.extend b).boundary overlap) := by
  cases event with
  | interrupted => exact .inl ⟨rfl, (Progress.window.inj goes).symm⟩
  | failed err => cases goes
  | bytes b =>
    by_cases empty : b.isEmpty
    · simp only [step, empty, if_true, reduceCtorEq] at goes
    · simp only [step, empty, Bool.false_eq_true, if_false] at goes
      split at goes
      · cases goes
      · rename_i uncut
        rw [Bool.not_eq_true] at empty uncut
        exact .inr ⟨b, rfl, empty, uncut, (Progress.window.inj goes).symm⟩

/-! ## What a window holds -/

/-- A window shows its part of the content in at most `most` bytes, and the place from which the
next match is looked for does not lie behind them. -/
structure Holds (w : Window) (content : ByteArray) (most : Nat) : Prop extends Shows w content where
  size_le : w.bytes.size ≤ most
  nextStart_le : w.nextStart ≤ w.bytesRead

/-- As far as conditions look back from the place where the search of a window begins, the window
shows what stands before that place in the content. -/
theorem Holds.lookBehind_eq (hw : w.Holds content most) :
    w.bytes.extract (w.resume.pos - lookBehind) w.resume.pos =
      content.extract (w.nextStart - lookBehind) w.nextStart := by
  have nextStart_le := hw.nextStart_le
  have offset_le := hw.offset_le_nextStart
  have pos_eq : w.resume.pos = w.nextStart - w.offset := rfl
  rw [hw.extract_eq (.inl (by omega))]
  congr 1
  · rcases hw.context with front | behind
    · omega
    · omega
  · omega

theorem Shows.placed (hw : w.Shows content) : w.Placed where
  size_eq := by
    rw [hw.size_eq]
    exact Nat.add_sub_cancel' hw.offset_le
  offset_le := hw.offset_le_nextStart

namespace Holds

theorem first (content : ByteArray) (most : Nat) : ({} : Window).Holds content most :=
  ⟨.first content, Nat.zero_le most, Nat.le_refl 0⟩

theorem extend (hw : w.Holds content most) {chunk : Nat} (fits : b.size ≤ chunk)
    (le : w.bytesRead + b.size ≤ content.size)
    (read : content.extract w.bytesRead (w.bytesRead + b.size) = b) :
    (w.extend b).Holds content (chunk + most) where
  toShows := hw.toShows.extend le read
  size_le := by
    have := hw.size_le
    change (w.bytes ++ b).size ≤ chunk + most
    rw [ByteArray.size_append]
    omega
  nextStart_le := Nat.le_trans hw.nextStart_le (Nat.le_add_right _ _)

theorem report (hf : f.InBounds) (hw : w.Holds content most)
    (found : f.next w.bytes w.resume = some s) (before : s.start < w.bytes.size) :
    (w.report s).Holds content most where
  toShows := hw.toShows.report hf.advances found
  size_le := hw.size_le
  nextStart_le := by
    have := hw.toShows.placed.size_eq
    obtain ⟨-, -, stop_le, -⟩ := hf.next found
    change w.offset + (Resume.after s).pos ≤ w.bytesRead
    unfold Resume.after
    split
    · -- An empty match before the end of the window leaves a byte to step over.
      rename_i empty
      have : s.start = s.stop := beq_iff_eq.1 empty
      change w.offset + (s.stop + 1) ≤ w.bytesRead
      omega
    · change w.offset + s.stop ≤ w.bytesRead
      omega

theorem search (hf : f.InBounds) (hw : w.Holds content most) (le : boundary ≤ w.bytes.size)
    (limit : Option Nat) : (w.search f boundary limit).1.Holds content most := by
  let P (w : Window) : Prop := boundary ≤ w.bytes.size ∧ w.Holds content most
  have searched :
      P (w.search f boundary limit).1 ∧ Ends f boundary limit (w.search f boundary limit) :=
    search_rule hf.advances
      (fun _ _ ⟨le, hw⟩ found before _ =>
        ⟨le, hw.report hf found (Nat.lt_of_lt_of_le before le)⟩)
      ⟨le, hw⟩
  exact searched.1.2

/-- What is kept is what lies behind the boundary, and what conditions there look back at. -/
theorem slide (hw : w.Holds content most) (le : boundary ≤ w.bytes.size)
    (size_le : w.bytes.size ≤ boundary + overlap) :
    (w.slide boundary).Holds content (overlap + lookBehind) where
  toShows := hw.toShows.slide le
  size_le := by
    change (w.bytes.extract (boundary - lookBehind) w.bytes.size).size ≤ overlap + lookBehind
    rw [ByteArray.size_extract]
    omega
  nextStart_le := by
    have := hw.toShows.placed.size_eq
    have := hw.nextStart_le
    change max w.nextStart (w.offset + boundary) ≤ w.bytesRead
    omega

/-- A read with which the scan goes on. -/
theorem step (hf : f.InBounds) (hw : w.Holds content (overlap + lookBehind))
    (read : content.extract w.bytesRead content.size = ReadEvent.content (event :: rest))
    (goes : w.step f overlap limit event = .window w') :
    w'.Holds content (overlap + lookBehind) ∧
      content.extract w'.bytesRead content.size = ReadEvent.content rest ∧
        w.nextStart ≤ w'.nextStart := by
  rcases step_eq_window goes with ⟨rfl, rfl⟩ | ⟨b, rfl, nonempty, -, rfl⟩
  · exact ⟨hw, read, Nat.le_refl _⟩
  · simp only [ReadEvent.content, nonempty, Bool.false_eq_true, if_false] at read
    obtain ⟨le, front, read'⟩ := extract_of_read hw.read_le read
    have extended := hw.extend (Nat.le_refl _) le front
    have boundary_le := (w.extend b).boundary_le overlap
    have size_le := (w.extend b).size_le_boundary_add overlap
    have searched := extended.search hf boundary_le limit
    have found := extended.toShows.placed.found_search hf ((w.extend b).boundary overlap) limit
    have bytes_eq := bytes_search (w.extend b) f ((w.extend b).boundary overlap) limit
    have read_eq := bytesRead_search (w.extend b) f ((w.extend b).boundary overlap) limit
    refine ⟨searched.slide ?_ ?_, ?_, ?_⟩
    · rwa [bytes_eq]
    · rwa [bytes_eq]
    · exact (congrArg (content.extract · content.size) read_eq).trans read'
    · exact Nat.le_trans found.nextStart_le (Nat.le_max_left _ _)

end Holds

/-! ## The windows between reads -/

theorem reached_nil_iff : Reached f overlap limit [] w ↔ w = {} := by
  constructor
  · intro reached
    generalize none_read : ([] : List ReadEvent) = reads at reached
    cases reached with
    | first => rfl
    | next =>
      exact absurd none_read.symm (List.append_ne_nil_of_right_ne_nil _ (List.cons_ne_nil _ _))
  · rintro rfl
    exact .first

theorem reached_concat_iff :
    Reached f overlap limit (before ++ [event]) w' ↔
      ∃ w, Reached f overlap limit before w ∧ w.step f overlap limit event = .window w' := by
  constructor
  · intro reached
    generalize last : before ++ [event] = reads at reached
    cases reached with
    | first => exact absurd last (List.append_ne_nil_of_right_ne_nil _ (List.cons_ne_nil _ _))
    | next reached goes =>
      obtain ⟨rfl, same⟩ := List.append_inj' last rfl
      obtain rfl := List.singleton_inj.1 same
      exact ⟨_, reached, goes⟩
  · rintro ⟨w, reached, goes⟩
    exact .next reached goes

namespace Reached

theorem unique (reached : Reached f overlap limit before w)
    (reached' : Reached f overlap limit before w') : w = w' := by
  induction reached generalizing w' with
  | first => exact (reached_nil_iff.1 reached').symm
  | next _ goes ih =>
    obtain ⟨w₀, reached₀, goes'⟩ := reached_concat_iff.1 reached'
    rw [← ih reached₀, goes] at goes'
    exact Progress.window.inj goes'

/-- Between reads a scan holds what it carries over, and what is left of the content is what the
reads to come give. -/
theorem holds (hf : f.InBounds) (reached : Reached f overlap limit before w)
    (rest : List ReadEvent) :
    w.Holds (ReadEvent.content (before ++ rest)) (overlap + lookBehind) ∧
      (ReadEvent.content (before ++ rest)).extract w.bytesRead
        (ReadEvent.content (before ++ rest)).size = ReadEvent.content rest := by
  induction reached generalizing rest with
  | first => exact ⟨.first _ _, ByteArray.extract_zero_size⟩
  | @next before event w w' _ goes ih =>
    obtain ⟨hw, read⟩ := ih (event :: rest)
    rw [List.append_assoc, List.singleton_append]
    obtain ⟨hw', read', -⟩ := hw.step hf read goes
    exact ⟨hw', read'⟩

/-- With the bytes of the next read, the window is still a part of the content, and what is left of
the content is what the reads after that one give. -/
theorem holds_extend (hf : f.InBounds) (reached : Reached f overlap limit before w) {chunk : Nat}
    (fits : b.size ≤ chunk) (rest : List ReadEvent) :
    let content := ReadEvent.content (before ++ .bytes b :: rest)
    (w.extend b).Holds content (chunk + (overlap + lookBehind)) ∧
      content.extract (w.extend b).bytesRead content.size =
        if b.isEmpty then .empty else ReadEvent.content rest := by
  intro content
  obtain ⟨hw, read⟩ := reached.holds hf (.bytes b :: rest)
  rw [ReadEvent.content_bytes] at read
  obtain ⟨le, front, read'⟩ := extract_of_read hw.read_le read
  exact ⟨hw.extend fits le front, read'⟩

/-- From read to read the place from which the scan looks on does not go back. -/
theorem nextStart_le (hf : f.InBounds) (reached : Reached f overlap limit before w)
    (later : Reached f overlap limit (before ++ more) w') : w.nextStart ≤ w'.nextStart := by
  induction more using List.reverseRecOn generalizing w' with
  | nil =>
    rw [List.append_nil] at later
    obtain rfl := reached.unique later
    exact Nat.le_refl _
  | append_singleton more event ih =>
    rw [← List.append_assoc] at later
    obtain ⟨w₀, reached₀, goes⟩ := reached_concat_iff.1 later
    obtain ⟨hw, read⟩ := reached₀.holds hf [event]
    exact Nat.le_trans (ih reached₀) (hw.step hf read goes).2.2

end Reached

end Window

/-- A scan of a stream goes on from the window to which the reads so far have brought it, or has
ended, whatever reads are to come. -/
theorem Finder.goesOn_or_ended (f : Finder) (overlap : Nat) (limit : Option Nat)
    (before : List ReadEvent) :
    (∃ w, Window.Reached f (f.overlap overlap) limit before w ∧
        ∀ rest, f.scanStream overlap limit (before ++ rest) =
          Window.run f (f.overlap overlap) limit w rest) ∨
      ∃ outcome, ∀ rest, f.scanStream overlap limit (before ++ rest) = outcome := by
  induction before using List.reverseRecOn with
  | nil => exact .inl ⟨{}, .first, fun _ => rfl⟩
  | append_singleton before event ih =>
    simp only [List.append_assoc, List.singleton_append]
    rcases ih with ⟨w, reached, runs⟩ | ⟨outcome, ended⟩
    · rcases goes : w.step f (f.overlap overlap) limit event with w' | outcome
      · refine .inl ⟨w', .next reached goes, fun rest => ?_⟩
        simp only [runs, Window.run, goes]
      · refine .inr ⟨outcome, fun rest => ?_⟩
        simp only [runs, Window.run, goes]
    · exact .inr ⟨outcome, fun rest => ended (event :: rest)⟩

/-! ## The windows that are searched -/

/-- The window that a scan of a stream searches when it has done `n` reads and gets bytes, or none,
from the next one; when there are no more reads, the window that is left. -/
inductive Finder.ComesTo (f : Finder) (overlap : Nat) (limit : Option Nat)
    (reads : List ReadEvent) : Nat → Window → Prop where
  | read {n : Nat} {b : ByteArray} {w : Window} (next : reads[n]? = some (.bytes b))
    (reached : Window.Reached f (f.overlap overlap) limit (reads.take n) w) :
    ComesTo f overlap limit reads n (w.extend b)
  | ended {w : Window} (reached : Window.Reached f (f.overlap overlap) limit reads w) :
    ComesTo f overlap limit reads reads.length w

namespace Finder.ComesTo

variable {reads : List ReadEvent} {n n' : Nat} {w w' : Window}

/-- The last read changes only what the window shows. -/
theorem reached (comes : f.ComesTo overlap limit reads n w) :
    ∃ w₀, Window.Reached f (f.overlap overlap) limit (reads.take n) w₀ ∧
      w.nextStart = w₀.nextStart := by
  cases comes with
  | read _ reached => exact ⟨_, reached, rfl⟩
  | ended reached =>
    rw [List.take_length]
    exact ⟨w, reached, rfl⟩

/-- Each window that a scan searches shows the content as far as it has been read, in no more bytes
than a read gives and the scan carries over. -/
theorem holds (hf : f.InBounds) {chunk : Nat} (fits : ReadEvent.FitIn chunk reads)
    (comes : f.ComesTo overlap limit reads n w) :
    w.Holds (ReadEvent.content reads) (chunk + (f.overlap overlap + lookBehind)) ∧
      w.bytesRead = (ReadEvent.content (reads.take (n + 1))).size := by
  cases comes with
  | @read _ b w₀ next reached =>
    have fits_b : b.size ≤ chunk := fits b (List.mem_of_getElem? next)
    have split : reads.take n ++ .bytes b :: reads.drop (n + 1) = reads := by
      obtain ⟨lt, here⟩ := List.getElem?_eq_some_iff.1 next
      rw [← here, ← List.drop_eq_getElem_cons lt, List.take_append_drop]
    have taken : reads.take n ++ [.bytes b] = reads.take (n + 1) := by
      rw [List.take_add_one, next, Option.toList_some]
    constructor
    · obtain ⟨hw, -⟩ := reached.holds_extend hf fits_b (reads.drop (n + 1))
      rwa [split] at hw
    · -- A stream that ends with this read has been read up to its end.
      obtain ⟨hw, read⟩ := reached.holds_extend hf fits_b []
      rw [taken, ReadEvent.content, ite_self] at read
      rw [taken] at hw
      exact hw.all_read read
  | ended reached =>
    obtain ⟨hw, read⟩ := reached.holds hf []
    rw [List.append_nil] at hw read
    rw [List.take_of_length_le (Nat.le_succ _)]
    exact ⟨⟨hw.toShows, Nat.le_trans hw.size_le (Nat.le_add_left _ _), hw.nextStart_le⟩,
      hw.all_read read⟩

/-- From one window that a scan searches to a later one, the place from which it looks on does not
go back. -/
theorem nextStart_le (hf : f.InBounds) (comes : f.ComesTo overlap limit reads n w)
    (later : f.ComesTo overlap limit reads n' w') (le : n ≤ n') : w.nextStart ≤ w'.nextStart := by
  obtain ⟨w₀, reached, same⟩ := comes.reached
  obtain ⟨w₁, reached', same'⟩ := later.reached
  have split : reads.take n' = reads.take n ++ (reads.take n').drop n := by
    have := List.take_append_drop n (reads.take n')
    rwa [List.take_take, Nat.min_eq_left le, eq_comm] at this
  rw [split] at reached'
  rw [same, same']
  exact reached.nextStart_le hf reached'

end Finder.ComesTo

end FileSearch
