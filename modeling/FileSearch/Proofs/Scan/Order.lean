import FileSearch.Proofs.Scan.Window

/-!
# The order of the matches of a scan

The matches that a scan reports stand in the content one behind the other (`Orderly`), whatever
finder it uses, as long as the finder's matches lie in the texts that it is given.  The windows of a
stream may cut a match off or hide one, so this does not follow from what a scan of the whole content
reports.  It follows from where the scan stands: all that it has reported ends before the place from
which it looks on (`Traced`), and each report, read and slide of a window keeps this.
-/

namespace FileSearch

variable {f : Finder} {content h : ByteArray} {read : Nat} {found : List Match} {r : Resume}
  {s : Span} {limit : Option Nat}

/-! ## Matches in order -/

/-- Matches of a content of which `read` bytes have been read.  They stand in these bytes, each
begins where those before it have ended or later, no two have one span, and an empty one does not
begin where one before it has ended. -/
structure Orderly (content : ByteArray) (read : Nat) (found : List Match) : Prop where
  start_le : ∀ m ∈ found, m.start ≤ m.stop
  stop_le : ∀ m ∈ found, m.stop ≤ read
  text_eq : ∀ m ∈ found, m.text = content.extract m.start m.stop
  disjoint : found.Pairwise fun m m' => m.stop ≤ m'.start
  once : (found.map fun m => (m.start, m.stop)).Nodup
  fresh : found.Pairwise fun m m' => ¬(m'.isEmpty ∧ m'.start = m.stop)

namespace Orderly

theorem nil (content : ByteArray) (read : Nat) : Orderly content read [] where
  start_le := nofun
  stop_le := nofun
  text_eq := nofun
  disjoint := .nil
  once := .nil
  fresh := .nil

theorem sublist (ho : Orderly content read found) {found' : List Match}
    (sub : found'.Sublist found) : Orderly content read found' where
  start_le m hm := ho.start_le m (sub.subset hm)
  stop_le m hm := ho.stop_le m (sub.subset hm)
  text_eq m hm := ho.text_eq m (sub.subset hm)
  disjoint := ho.disjoint.sublist sub
  once := ho.once.sublist (sub.map _)
  fresh := ho.fresh.sublist sub

theorem mono (ho : Orderly content read found) {read' : Nat} (le : read ≤ read') :
    Orderly content read' found :=
  { ho with stop_le := fun m hm => Nat.le_trans (ho.stop_le m hm) le }

/-- Matches at the front of a content are matches of the content. -/
theorem of_front {n : Nat} (le : read ≤ n) (ho : Orderly (content.extract 0 n) read found) :
    Orderly content read found := by
  refine { ho with text_eq := fun m hm => ?_ }
  have stop_le := ho.stop_le m hm
  rw [ho.text_eq m hm, ByteArray.extract_extract, Nat.zero_add, Nat.zero_add]
  congr 1
  omega

/-- One more match that begins behind all others. -/
theorem push (ho : Orderly content read found) {m : Match} (start_le : m.start ≤ m.stop)
    (stop_le : m.stop ≤ read) (text_eq : m.text = content.extract m.start m.stop)
    (behind : ∀ m' ∈ found, m'.start < m.start ∧ m'.stop ≤ m.start)
    (fresh : m.isEmpty → ∀ m' ∈ found, m'.stop ≠ m.start) :
    Orderly content read (found ++ [m]) where
  start_le m' hm' := by
    rcases List.mem_append.1 hm' with old | new
    · exact ho.start_le m' old
    · rwa [List.mem_singleton.1 new]
  stop_le m' hm' := by
    rcases List.mem_append.1 hm' with old | new
    · exact ho.stop_le m' old
    · rwa [List.mem_singleton.1 new]
  text_eq m' hm' := by
    rcases List.mem_append.1 hm' with old | new
    · exact ho.text_eq m' old
    · rwa [List.mem_singleton.1 new]
  disjoint := by
    refine List.pairwise_append.2 ⟨ho.disjoint, List.pairwise_singleton _ _, ?_⟩
    intro m' old m'' new
    rw [List.mem_singleton.1 new]
    exact (behind m' old).2
  once := by
    rw [List.map_append, List.nodup_append]
    refine ⟨ho.once, List.pairwise_singleton _ _, fun span old span' new same => ?_⟩
    obtain ⟨m', hm', rfl⟩ := List.mem_map.1 old
    rw [List.map_singleton, List.mem_singleton] at new
    have := (behind m' hm').1
    rw [new, Prod.mk.injEq] at same
    omega
  fresh := by
    refine List.pairwise_append.2 ⟨ho.fresh, List.pairwise_singleton _ _, ?_⟩
    intro m' old m'' new
    rw [List.mem_singleton.1 new]
    rintro ⟨empty, same⟩
    exact fresh empty m' old same.symm

end Orderly

/-! ## Finders whose matches lie in the text -/

theorem Finder.InBounds.advances (hf : f.InBounds) : f.Advances := by
  intro h p s hs
  have := hf h p s hs
  omega

/-- The next match of a walk lies in the text behind the place of the walk, and is not an empty one
at the end of the match before. -/
theorem Finder.InBounds.next (hf : f.InBounds) (hs : f.next h r = some s) :
    r.pos ≤ s.start ∧ s.start ≤ s.stop ∧ s.stop ≤ h.size ∧
      ¬(s.start = s.stop ∧ r.lastEnd = some s.stop) := by
  unfold Finder.next at hs
  rcases hfind : f.find h r.pos with _ | t
  · simp [hfind] at hs
  · have ht := hf h r.pos t hfind
    simp only [hfind, Span.isEmpty, Bool.and_eq_true, beq_iff_eq] at hs
    split at hs
    · rename_i passed
      have hs' := hf h (t.stop + 1) s hs
      refine ⟨by omega, hs'.2.1, hs'.2.2, ?_⟩
      rintro ⟨-, last⟩
      have : t.stop = s.stop := Option.some.inj (passed.2.symm.trans last)
      omega
    · rename_i reported
      obtain rfl := Option.some.inj hs
      exact ⟨ht.1, ht.2.1, ht.2.2, reported⟩

theorem Match.stop_ofSpan (le : s.start ≤ s.stop) (stop_le : s.stop ≤ content.size) :
    (Match.ofSpan content 0 s).stop = s.stop := by
  simp only [Match.ofSpan, Match.new, Span.of, ByteArray.size_extract]
  omega

/-! ## Where a scan stands -/

/-- What has been reported is in order, and the scan stands behind it. -/
structure Traced (content : ByteArray) (read : Nat) (r : Resume) (found : List Match) : Prop where
  orderly : Orderly content read found
  start_lt : ∀ m ∈ found, m.start < r.pos
  stop_le : ∀ m ∈ found, ∃ e, r.lastEnd = some e ∧ m.stop ≤ e
  lastEnd_le : ∀ e, r.lastEnd = some e → e ≤ r.pos

namespace Traced

theorem first (content : ByteArray) (read : Nat) : Traced content read ⟨0, none⟩ [] where
  orderly := .nil content read
  start_lt := nofun
  stop_le := nofun
  lastEnd_le := nofun

theorem mono (ht : Traced content read r found) {read' pos' : Nat} (le : read ≤ read')
    (pos_le : r.pos ≤ pos') : Traced content read' ⟨pos', r.lastEnd⟩ found where
  orderly := ht.orderly.mono le
  start_lt m hm := Nat.lt_of_lt_of_le (ht.start_lt m hm) pos_le
  stop_le := ht.stop_le
  lastEnd_le e he := Nat.le_trans (ht.lastEnd_le e he) pos_le

/-- A report of a match at or behind the place where the scan stands. -/
theorem report (ht : Traced content read r found) (pos_le : r.pos ≤ s.start)
    (start_le : s.start ≤ s.stop) (stop_le : s.stop ≤ read) (read_le : read ≤ content.size)
    (fresh : ¬(s.start = s.stop ∧ r.lastEnd = some s.stop)) :
    Traced content read (.after s) (found ++ [.ofSpan content 0 s]) := by
  have start_eq : (Match.ofSpan content 0 s).start = s.start := Nat.zero_add _
  have stop_eq := Match.stop_ofSpan start_le (Nat.le_trans stop_le read_le)
  have after_pos : s.start < (Resume.after s).pos := Finder.start_lt_pos_after start_le
  have behind : ∀ m ∈ found, m.start < s.start ∧ m.stop ≤ s.start := by
    intro m hm
    obtain ⟨e, last, le⟩ := ht.stop_le m hm
    have := ht.lastEnd_le e last
    have := ht.start_lt m hm
    omega
  refine ⟨ht.orderly.push ?_ ?_ ?_ ?_ ?_, fun m hm => ?_, fun m hm => ⟨s.stop, rfl, ?_⟩, ?_⟩
  · rwa [start_eq, stop_eq]
  · rwa [stop_eq]
  · rw [start_eq, stop_eq]
    rfl
  · rwa [start_eq]
  · -- An empty match where an earlier one ends would begin where the latest one ends.
    intro empty m hm same
    rw [Match.isEmpty, start_eq, stop_eq, beq_iff_eq] at empty
    rw [start_eq] at same
    obtain ⟨e, last, le⟩ := ht.stop_le m hm
    have := ht.lastEnd_le e last
    exact fresh ⟨empty, by rw [last]; congr 1; omega⟩
  · rcases List.mem_append.1 hm with old | new
    · have := (behind m old).1
      omega
    · rwa [List.mem_singleton.1 new, start_eq]
  · rcases List.mem_append.1 hm with old | new
    · have := (behind m old).2
      omega
    · exact Nat.le_of_eq (List.mem_singleton.1 new ▸ stop_eq)
  · intro e last
    obtain rfl : s.stop = e := Option.some.inj last
    unfold Resume.after
    split
    · exact Nat.le_succ _
    · exact Nat.le_refl _

/-- The matches of a walk through the whole content. -/
theorem walk (hf : f.InBounds) (room : Nat) (ht : Traced content content.size r found) :
    ∃ r', Traced content content.size r'
      (found ++ (f.walk content room r).map (Match.ofSpan content 0)) := by
  induction room generalizing r found with
  | zero => exact ⟨r, by simpa [Finder.walk] using ht⟩
  | succ room ih =>
    rcases hs : f.next content r with _ | s
    · exact ⟨r, by simpa [Finder.walk_of_none hs] using ht⟩
    · obtain ⟨pos_le, start_le, stop_le, fresh⟩ := hf.next hs
      rw [Finder.walk_succ_of_some hs, List.map_cons, List.append_cons]
      exact ih (ht.report pos_le start_le stop_le (Nat.le_refl _) fresh)

end Traced

/-- A scan of a whole content reports matches in order. -/
theorem Finder.InBounds.orderly_scanLimited (hf : f.InBounds) (content : ByteArray)
    (limit : Option Nat) : Orderly content content.size (f.scanLimited content limit).1.toList := by
  obtain ⟨r, ht⟩ := (Traced.first content content.size).walk hf (content.size + 1)
  rw [List.nil_append] at ht
  rw [scanLimited_eq]
  rcases limit with _ | n
  · exact ht.orderly
  · exact ht.orderly.sublist (List.take_sublist n _)

theorem Finder.InBounds.start_lt_stop (hf : f.InBounds) {m : Match} (mem : m ∈ f.scan content)
    (bytes : ¬ m.isEmpty) : m.start < m.stop := by
  have le := (hf.orderly_scanLimited content none).start_le m (Array.mem_toList_iff.2 mem)
  exact Nat.lt_of_le_of_ne le fun same => bytes (beq_iff_eq.2 same)

/-! ## Streams -/

namespace Window

variable {w : Window} {boundary overlap : Nat}

/-- A window shows its part of the content, and the scan stands behind what it has reported. -/
structure Traces (w : Window) (content : ByteArray) : Prop where
  shows : w.Shows content
  traced : Traced content w.bytesRead ⟨w.nextStart, w.lastEnd⟩ w.found.toList

namespace Traces

theorem first (content : ByteArray) : ({} : Window).Traces content :=
  ⟨.first content, .first content 0⟩

theorem extend (hw : w.Traces content) {b : ByteArray} (le : w.bytesRead + b.size ≤ content.size)
    (read : content.extract w.bytesRead (w.bytesRead + b.size) = b) :
    (w.extend b).Traces content :=
  ⟨hw.shows.extend le read, hw.traced.mono (Nat.le_add_right _ _) (Nat.le_refl _)⟩

theorem report (hf : f.InBounds) (hw : w.Traces content)
    (hs : f.next w.bytes w.resume = some s) : (w.report s).Traces content := by
  obtain ⟨pos_le, start_le, stop_le, fresh⟩ := hf.next hs
  have size_eq := hw.shows.size_eq
  have offset_le := hw.shows.offset_le
  have offset_le_nextStart := hw.shows.offset_le_nextStart
  have pos_eq : w.resume.pos = w.nextStart - w.offset := rfl
  refine ⟨hw.shows.report hf.advances hs, ?_⟩
  have traced : Traced content w.bytesRead (.after (s.shift w.offset))
      (w.found.toList ++ [.ofSpan content 0 (s.shift w.offset)]) := by
    refine hw.traced.report ?_ ?_ ?_ hw.shows.read_le ?_
    · change w.nextStart ≤ s.start + w.offset
      omega
    · exact Nat.add_le_add_right start_le _
    · change s.stop + w.offset ≤ w.bytesRead
      omega
    · rintro ⟨empty, last⟩
      refine fresh ⟨Nat.add_right_cancel empty, lastEnd_resume_iff.2 ?_⟩
      rw [Nat.add_comm]
      exact last
  rw [after_shift, ← hw.shows.ofSpan_eq (.inl (by omega))] at traced
  simpa [Window.report] using traced

theorem search (hf : f.InBounds) (hw : w.Traces content) (boundary : Nat) (limit : Option Nat) :
    (w.search f boundary limit).1.Traces content :=
  (search_rule hf.advances (P := fun w => w.Traces content)
    (fun _ _ hw hs _ _ => hw.report hf hs) hw).1

theorem slide (hw : w.Traces content) (hb : boundary ≤ w.bytes.size) :
    (w.slide boundary).Traces content :=
  ⟨hw.shows.slide hb, hw.traced.mono (Nat.le_refl _) (Nat.le_max_left _ _)⟩

theorem finish (hf : f.InBounds) (hw : w.Traces content) (limit : Option Nat) :
    (w.finish f limit).bytesRead ≤ content.size ∧
      Orderly content (w.finish f limit).bytesRead (w.finish f limit).found.toList := by
  have searched := hw.search hf (w.bytes.size + 1) limit
  exact ⟨searched.shows.read_le, searched.traced.orderly⟩

/-- A read leaves a window from which the scan goes on, or ends the scan at the limit. -/
theorem step (hf : f.InBounds) (hw : w.Traces content) {b : ByteArray}
    (nonempty : b.isEmpty = false) (le : w.bytesRead + b.size ≤ content.size)
    (read : content.extract w.bytesRead (w.bytesRead + b.size) = b) (overlap : Nat)
    (limit : Option Nat) :
    (∃ w', w.step f overlap limit (.bytes b) = .window w' ∧ w'.Traces content ∧
        w'.bytesRead = w.bytesRead + b.size) ∨
      ∃ scan, w.step f overlap limit (.bytes b) = .ended (.ok scan) ∧
        scan.bytesRead ≤ content.size ∧ Orderly content scan.bytesRead scan.found.toList := by
  have searched := (hw.extend le read).search hf ((w.extend b).boundary overlap) limit
  have bytes_eq := bytes_search (w.extend b) f ((w.extend b).boundary overlap) limit
  have read_eq := bytesRead_search (w.extend b) f ((w.extend b).boundary overlap) limit
  simp only [Window.step, nonempty, Bool.false_eq_true, if_false]
  generalize (w.extend b).search f ((w.extend b).boundary overlap) limit = p
    at searched bytes_eq read_eq
  obtain ⟨w', truncated⟩ := p
  cases truncated with
  | false =>
    refine .inl ⟨_, rfl, searched.slide ?_, read_eq⟩
    rw [bytes_eq]
    exact Nat.sub_le _ _
  | true => exact .inr ⟨_, rfl, searched.shows.read_le, searched.traced.orderly⟩

/-- However the rest of the stream is read, the scan ends with matches in order. -/
theorem run (hf : f.InBounds) {events : List ReadEvent} (hw : w.Traces content)
    (read : content.extract w.bytesRead content.size = ReadEvent.content events) {scan : StreamScan}
    (ends : Window.run f overlap limit w events = .ok scan) :
    scan.bytesRead ≤ content.size ∧ Orderly content scan.bytesRead scan.found.toList := by
  induction events generalizing w with
  | nil =>
    obtain rfl := Except.ok.inj ends
    exact hw.finish hf limit
  | cons event events ih =>
    cases event with
    | failed err => cases ends
    | interrupted => exact ih hw read ends
    | bytes b =>
      by_cases hb : b.isEmpty
      · simp only [Window.run, Window.step, hb, if_true] at ends
        obtain rfl := Except.ok.inj ends
        exact hw.finish hf limit
      · rw [Bool.not_eq_true] at hb
        simp only [ReadEvent.content, hb, Bool.false_eq_true, if_false] at read
        obtain ⟨le, front, rest⟩ := extract_of_read hw.shows.read_le read
        rcases hw.step hf hb le front overlap limit with
          ⟨w', step, hw', read_eq⟩ | ⟨scan', step, ordered⟩
        · simp only [Window.run, step] at ends
          rw [← read_eq] at rest
          exact ih hw' rest ends
        · simp only [Window.run, step] at ends
          obtain rfl := Except.ok.inj ends
          exact ordered

end Traces

end Window

/-- A scan of a stream reports matches in order, however the stream is cut into reads. -/
theorem Finder.InBounds.orderly_scanStream (hf : f.InBounds) {overlap : Nat}
    {events : List ReadEvent} {scan : StreamScan}
    (ends : f.scanStream overlap limit events = .ok scan) :
    scan.bytesRead ≤ (ReadEvent.content events).size ∧
      Orderly (ReadEvent.content events) scan.bytesRead scan.found.toList :=
  (Window.Traces.first (ReadEvent.content events)).run hf ByteArray.extract_zero_size ends

end FileSearch
