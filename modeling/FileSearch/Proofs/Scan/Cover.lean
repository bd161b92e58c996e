import FileSearch.Proofs.Scan.Leftmost
import FileSearch.Proofs.Scan.Order

/-!
# Places that windows do not lose

A scan of a stream decides about a place in the first window that reaches more than `overlap` bytes
behind it.  If every such window shows a match with bytes there (`Visible`), the place belongs to a
match that the scan reports (`Finder.reports_of_visible`): no search of a window goes past the place
without one (`Window.AccountsFor`).
-/

namespace FileSearch

/-- The first `n` bytes of a stream are what a number of its first reads gives. -/
def ReadEvent.EndsAt (events : List ReadEvent) (n : Nat) : Prop :=
  ∃ first rest, events = first ++ rest ∧ (content first).size = n

namespace ReadEvent.EndsAt

variable {events : List ReadEvent} {n : Nat}

theorem interrupted (ends : EndsAt events n) : EndsAt (.interrupted :: events) n := by
  obtain ⟨first, rest, rfl, size⟩ := ends
  exact ⟨.interrupted :: first, rest, rfl, size⟩

theorem bytes {b : ByteArray} (nonempty : b.isEmpty = false) (ends : EndsAt events n) :
    EndsAt (.bytes b :: events) (b.size + n) := by
  obtain ⟨first, rest, rfl, size⟩ := ends
  refine ⟨.bytes b :: first, rest, rfl, ?_⟩
  simp only [content, nonempty, Bool.false_eq_true, if_false, ByteArray.size_append, size]

theorem first {b : ByteArray} (nonempty : b.isEmpty = false) (events : List ReadEvent) :
    EndsAt (.bytes b :: events) b.size :=
  bytes nonempty ⟨[], events, rfl, rfl⟩

end ReadEvent.EndsAt

/-- At the place `i` of a content stands a match with bytes, and it is seen in each window that
decides about the place: one that ends where a read does, more than `overlap` bytes behind the
place, or at the end of the content. -/
structure Visible (stopAt : ByteArray → Nat → Option Nat) (content : ByteArray) (overlap : Nat)
    (ends : Nat → Prop) (i : Nat) : Prop where
  inside : i < content.size
  seen : ∀ a stop, a = 0 ∨ a + lookBehind ≤ i → stop ≤ content.size →
    (ends stop ∧ i + overlap < stop) ∨ stop = content.size →
      ∃ e, i - a < e ∧ stopAt (content.extract a stop) (i - a) = some e

variable {f : Finder} {stopAt : ByteArray → Nat → Option Nat} {content : ByteArray}
  {ends : Nat → Prop} {overlap i : Nat}

namespace Window

variable {w : Window} {s : Span} {boundary : Nat}

/-- A place belongs to a match that has been reported. -/
def Covers (w : Window) (i : Nat) : Prop := ∃ m ∈ w.found, m.start ≤ i ∧ i < m.stop

/-- A place belongs to a match that has been reported, or the scan has not gone past it. -/
def AccountsFor (w : Window) (i : Nat) : Prop := w.Covers i ∨ w.nextStart ≤ i

/-- If a place of the window is before a boundary, the window decides about it: it ends where a read
does, more than `overlap` bytes behind the place, or at the end of the content. -/
def Decided (w : Window) (content : ByteArray) (ends : Nat → Prop) (overlap boundary i : Nat) :
    Prop :=
  w.offset ≤ i → i < w.offset + boundary →
    (ends w.bytesRead ∧ i + overlap < w.bytesRead) ∨ w.bytesRead = content.size

theorem Covers.report (covered : w.Covers i) (s : Span) : (w.report s).Covers i := by
  obtain ⟨m, mem, inside⟩ := covered
  exact ⟨m, Array.mem_push_of_mem _ mem, inside⟩

theorem covers_report (within : s.stop ≤ w.bytes.size) (le : w.offset + s.start ≤ i)
    (lt : i < w.offset + s.stop) : (w.report s).Covers i := by
  have size : (s.of w.bytes).size = s.stop - s.start := by
    rw [Span.of, ByteArray.size_extract, Nat.min_eq_left within]
  refine ⟨.ofSpan w.bytes w.offset s, Array.mem_push_self, le, ?_⟩
  show i < w.offset + s.start + (s.of w.bytes).size
  omega

/-- A window that decides about a visible place shows a match with bytes there. -/
theorem Shows.sees (hw : w.Shows content) (visible : Visible stopAt content overlap ends i)
    (decided : w.Decided content ends overlap boundary i) (le : w.nextStart ≤ i)
    (before : i < w.offset + boundary) :
    ∃ e, i - w.offset < e ∧ stopAt w.bytes (i - w.offset) = some e := by
  rw [hw.bytes_eq]
  exact visible.seen _ _ (hw.context.imp_right fun front => Nat.le_trans front le) hw.read_le
    (decided (Nat.le_trans hw.offset_le_nextStart le) before)

/-- The next match of a window does not begin behind a place at which it shows one with bytes. -/
theorem next_of_seen (first : f.FindsFirst stopAt) (le : w.nextStart ≤ i) {e : Nat}
    (nonempty : i - w.offset < e) (stop : stopAt w.bytes (i - w.offset) = some e) :
    ∃ s, f.next w.bytes w.resume = some s ∧
      (s.start < i - w.offset ∨ s.start = i - w.offset ∧ s.stop = e) := by
  have fresh : Finder.freshStop stopAt w.bytes w.resume.lastEnd (i - w.offset) = some e :=
    Finder.freshStop_eq_some_iff.2 ⟨stop, fun passed => by omega⟩
  have from_le : w.resume.pos ≤ i - w.offset := Nat.sub_le_sub_right le _
  rcases found : f.next w.bytes w.resume with _ | s
  · have := first.freshStop_eq_none found _ from_le
    rw [fresh] at this
    cases this
  · have next := first.isNext found
    refine ⟨s, rfl, ?_⟩
    rcases Nat.lt_trichotomy s.start (i - w.offset) with lt | same | gt
    · exact .inl lt
    · have stop_eq := next.fresh
      rw [same, fresh] at stop_eq
      exact .inr ⟨same, (Option.some.inj stop_eq).symm⟩
    · have := next.first _ from_le gt
      rw [fresh] at this
      cases this

/-- A report does not go past a visible place unless its match covers the place. -/
theorem AccountsFor.report (hf : f.InBounds) (first : f.FindsFirst stopAt) (hw : w.Shows content)
    (visible : Visible stopAt content overlap ends i)
    (decided : w.Decided content ends overlap boundary i) (accounts : w.AccountsFor i)
    (found : f.next w.bytes w.resume = some s) (before : s.start < boundary) :
    (w.report s).AccountsFor i := by
  rcases accounts with covered | le
  · exact .inl (covered.report s)
  · have offset_le := hw.offset_le_nextStart
    obtain ⟨-, start_le, stop_le, -⟩ := hf.next found
    have reaches : s.start < i - w.offset ∨ s.start = i - w.offset ∧ i - w.offset < s.stop := by
      by_cases within : i < w.offset + boundary
      · obtain ⟨e, nonempty, stop⟩ := hw.sees visible decided le within
        obtain ⟨t, found', earlier⟩ := next_of_seen first le nonempty stop
        obtain rfl : s = t := Option.some.inj (found.symm.trans found')
        omega
      · omega
    by_cases covered : i < w.offset + s.stop
    · exact .inl (covers_report stop_le (by omega) covered)
    · refine .inr ?_
      show w.offset + (Resume.after s).pos ≤ i
      unfold Resume.after
      split
      · rename_i empty
        have : s.start = s.stop := beq_iff_eq.1 empty
        show w.offset + (s.stop + 1) ≤ i
        omega
      · show w.offset + s.stop ≤ i
        omega

/-- A search does not go past a visible place before its boundary without a match that covers it. -/
theorem AccountsFor.search (hf : f.InBounds) (first : f.FindsFirst stopAt) (hw : w.Shows content)
    (visible : Visible stopAt content overlap ends i)
    (decided : w.Decided content ends overlap boundary i) (accounts : w.AccountsFor i) :
    (w.search f boundary none).1.Shows content ∧ (w.search f boundary none).2 = false ∧
      ((w.search f boundary none).1.Covers i ∨
        (w.search f boundary none).1.nextStart ≤ i ∧ w.offset + boundary ≤ i) := by
  let P (w : Window) : Prop :=
    w.Shows content ∧ w.Decided content ends overlap boundary i ∧ w.AccountsFor i
  have searched :
      P (w.search f boundary none).1 ∧ Ends f boundary none (w.search f boundary none) :=
    search_rule hf.advances
      (fun _ _ ⟨hw, decided, accounts⟩ found before _ =>
        ⟨hw.report hf.advances found, decided,
          accounts.report hf first hw visible decided found before⟩)
      ⟨hw, decided, accounts⟩
  obtain ⟨⟨hw', decided', accounts'⟩, ended⟩ := searched
  have offset_eq : (w.search f boundary none).1.offset = w.offset := (reportAll_view ..).2.1
  generalize w.search f boundary none = p at *
  cases ended with
  | full full => cases full
  | @exhausted w' none_left =>
    refine ⟨hw', rfl, accounts'.imp_right fun le => ⟨le, Nat.le_of_not_lt fun within => ?_⟩⟩
    have offset_le := hw'.offset_le_nextStart
    have offset_eq : w'.offset = w.offset := offset_eq
    obtain ⟨e, nonempty, stop⟩ := hw'.sees visible decided' le (by rw [offset_eq]; exact within)
    obtain ⟨s, found, earlier⟩ := next_of_seen first le nonempty stop
    have := none_left s found
    omega

/-- At the end of the content every visible place is covered. -/
theorem AccountsFor.finish (hf : f.InBounds) (first : f.FindsFirst stopAt) (hw : w.Shows content)
    (visible : Visible stopAt content overlap ends i) (accounts : w.AccountsFor i)
    (all_read : w.bytesRead = content.size) :
    ∃ m ∈ (w.finish f none).found, m.start ≤ i ∧ i < m.stop := by
  have decided : w.Decided content ends overlap (w.bytes.size + 1) i := fun _ _ => .inr all_read
  obtain ⟨-, -, covered | ⟨-, beyond⟩⟩ := accounts.search hf first hw visible decided
  · exact covered
  · have := visible.inside
    have := hw.size_eq
    omega

/-- A read leaves a window from which the scan goes on and which has not gone past a visible place
without a match that covers it. -/
theorem AccountsFor.step (hf : f.InBounds) (first : f.FindsFirst stopAt) (hw : w.Shows content)
    (visible : Visible stopAt content overlap ends i) (accounts : w.AccountsFor i) {b : ByteArray}
    (nonempty : b.isEmpty = false) (le : w.bytesRead + b.size ≤ content.size)
    (read : content.extract w.bytesRead (w.bytesRead + b.size) = b)
    (here : ends (w.bytesRead + b.size)) :
    ∃ w', w.step f overlap none (.bytes b) = .window w' ∧ w'.Shows content ∧ w'.AccountsFor i ∧
      w'.bytesRead = w.bytesRead + b.size := by
  have extended := hw.extend le read
  have decided : (w.extend b).Decided content ends overlap ((w.extend b).boundary overlap) i := by
    intro behind before
    have := extended.size_eq
    have := extended.offset_le
    refine .inl ⟨here, ?_⟩
    unfold boundary at before
    omega
  have bytes_eq := bytes_search (w.extend b) f ((w.extend b).boundary overlap) none
  have read_eq := bytesRead_search (w.extend b) f ((w.extend b).boundary overlap) none
  have offset_eq : ((w.extend b).search f ((w.extend b).boundary overlap) none).1.offset =
      (w.extend b).offset := (reportAll_view ..).2.1
  obtain ⟨hw', uncut, accounts'⟩ :=
    AccountsFor.search hf first extended visible decided accounts
  simp only [Window.step, nonempty, Bool.false_eq_true, if_false, uncut]
  refine ⟨_, rfl, hw'.slide ?_, ?_, read_eq⟩
  · rw [bytes_eq]
    exact Nat.sub_le _ _
  · refine accounts'.imp_right fun behind => Nat.max_le.2 ⟨behind.1, ?_⟩
    rw [offset_eq]
    exact behind.2

/-- From a window that has not gone past a visible place, a scan reports a match that covers it. -/
theorem AccountsFor.run (hf : f.InBounds) (first : f.FindsFirst stopAt)
    (visible : Visible stopAt content overlap ends i) {events : List ReadEvent}
    (reads : ∀ n, ReadEvent.EndsAt events n → ends (w.bytesRead + n)) (hw : w.Shows content)
    (read : content.extract w.bytesRead content.size = ReadEvent.content events)
    (accounts : w.AccountsFor i) {scan : StreamScan}
    (runs : Window.run f overlap none w events = .ok scan) :
    ∃ m ∈ scan.found, m.start ≤ i ∧ i < m.stop := by
  induction events generalizing w with
  | nil =>
    obtain rfl := Except.ok.inj runs
    exact accounts.finish hf first hw visible (hw.all_read read)
  | cons event events ih =>
    cases event with
    | failed err => cases runs
    | interrupted => exact ih (fun n ends => reads n ends.interrupted) hw read accounts runs
    | bytes b =>
      by_cases hb : b.isEmpty
      · simp only [ReadEvent.content, hb, if_true] at read
        simp only [Window.run, Window.step, hb, if_true] at runs
        obtain rfl := Except.ok.inj runs
        exact accounts.finish hf first hw visible (hw.all_read read)
      · rw [Bool.not_eq_true] at hb
        simp only [ReadEvent.content, hb, Bool.false_eq_true, if_false] at read
        obtain ⟨le, front, rest⟩ := extract_of_read hw.read_le read
        obtain ⟨w', step, hw', accounts', read_eq⟩ :=
          accounts.step hf first hw visible hb le front (reads _ (.first hb events))
        simp only [Window.run, step] at runs
        rw [← read_eq] at rest
        refine ih (fun n ends => ?_) hw' rest accounts' runs
        rw [read_eq, Nat.add_assoc]
        exact reads _ (ends.bytes hb)

end Window

/-- However a stream is cut into reads, a place of it that every window which decides about it shows
belongs to a match that a scan without a limit reports. -/
theorem Finder.reports_of_visible (hf : f.InBounds) (first : f.FindsFirst stopAt)
    {events : List ReadEvent} {scan : StreamScan}
    (runs : f.scanStream overlap none events = .ok scan)
    (visible : Visible stopAt (ReadEvent.content events) (f.overlap overlap)
      (ReadEvent.EndsAt events) i) :
    ∃ m ∈ scan.found, m.start ≤ i ∧ i < m.stop := by
  refine Window.AccountsFor.run hf first visible (fun n ends => ?_) (.first _)
    ByteArray.extract_zero_size (.inr (Nat.zero_le i)) runs
  rw [Nat.zero_add]
  exact ends

end FileSearch
