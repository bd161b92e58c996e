import FileSearch.Proofs.Scan.Walk

/-!
# Windows of a scan

A window of a scan shows a part of the content (`Window.Shows`): the bytes that have been read and
not yet dropped, with enough of them before the place from which the next match is looked for.
Reading, reporting and sliding keep this.

`search_rule` is the rule for the search of a window: what holds of the window and is kept by each
report holds at the end, when either no match before the boundary is left or the limit is reached
(`Ends`).
-/

namespace FileSearch

/-- If content is read bytewise in order, a read gives its next bytes. -/
theorem extract_of_read {content b rest : ByteArray} {n : Nat} (hn : n ≤ content.size)
    (read : content.extract n content.size = b ++ rest) :
    n + b.size ≤ content.size ∧ content.extract n (n + b.size) = b ∧
      content.extract (n + b.size) content.size = rest := by
  have size_eq : content.size - n = b.size + rest.size := by
    have := congrArg ByteArray.size read
    rwa [ByteArray.size_extract, ByteArray.size_append, Nat.min_self] at this
  have le : n + b.size ≤ content.size := by omega
  have parts : content.extract n (n + b.size) ++ content.extract (n + b.size) content.size =
      b ++ rest := by
    rw [← ByteArray.extract_eq_extract_append_extract _ (Nat.le_add_right _ _) le, read]
  have sizes : (content.extract n (n + b.size)).size = b.size := by
    rw [ByteArray.size_extract]
    omega
  exact ⟨le, (ByteArray.append_eq_append_iff_of_size_eq_left sizes).1 parts⟩

namespace Window

variable {f : Finder} {w : Window} {s : Span} {content : ByteArray}

/-! ## Where the search of a window stands -/

theorem resume_report (w : Window) (s : Span) : (w.report s).resume = .after s := by
  have : w.offset ≤ w.offset + s.stop := Nat.le_add_right _ _
  simp [resume, report, Resume.after, Option.filter]

theorem lastEnd_resume_iff {i : Nat} :
    w.resume.lastEnd = some i ↔ w.lastEnd = some (w.offset + i) := by
  unfold resume
  rcases w.lastEnd with _ | e
  · simp
  · by_cases he : w.offset ≤ e
    · simp only [Option.filter, he, decide_true, if_true, Option.map_some, Option.some.injEq]
      omega
    · simp only [Option.filter, he, decide_false, Bool.false_eq_true, if_false, Option.map_none,
        reduceCtorEq, Option.some.injEq, false_iff]
      omega

theorem after_shift (s : Span) (n : Nat) :
    Resume.after (s.shift n) = ⟨n + (Resume.after s).pos, some (n + s.stop)⟩ := by
  simp only [Resume.after, Span.shift, Span.isEmpty, Resume.mk.injEq, Option.some.injEq,
    beq_iff_eq, Nat.add_right_cancel_iff]
  refine ⟨?_, Nat.add_comm _ _⟩
  split <;> omega

/-- A search changes neither the bytes of the window nor its place. -/
theorem reportAll_view (w : Window) (f : Finder) (boundary : Nat) (limit : Option Nat) (fuel : Nat)
    (r : Resume) :
    (w.reportAll f boundary limit fuel r).1.bytes = w.bytes ∧
      (w.reportAll f boundary limit fuel r).1.offset = w.offset ∧
      (w.reportAll f boundary limit fuel r).1.bytesRead = w.bytesRead := by
  induction fuel generalizing w r with
  | zero => exact ⟨rfl, rfl, rfl⟩
  | succ fuel ih =>
    unfold reportAll
    split
    · exact ⟨rfl, rfl, rfl⟩
    · split
      · exact ⟨rfl, rfl, rfl⟩
      · split
        · exact ⟨rfl, rfl, rfl⟩
        · exact ih _ _

theorem bytes_search (w : Window) (f : Finder) (boundary : Nat) (limit : Option Nat) :
    (w.search f boundary limit).1.bytes = w.bytes :=
  (reportAll_view w f boundary limit _ _).1

theorem bytesRead_search (w : Window) (f : Finder) (boundary : Nat) (limit : Option Nat) :
    (w.search f boundary limit).1.bytesRead = w.bytesRead :=
  (reportAll_view w f boundary limit _ _).2.2

/-! ## The rule for the search of a window -/

/-- How the search of a window ends: no match before the boundary is left, or there is one and the
limit is reached. -/
inductive Ends (f : Finder) (boundary : Nat) (limit : Option Nat) : Window × Bool → Prop where
  | exhausted {w : Window}
    (none_left : ∀ s, f.next w.bytes w.resume = some s → boundary ≤ s.start) :
    Ends f boundary limit (w, false)
  | full {w : Window} {s : Span} (full : limit.any (· ≤ w.found.size))
    (next : f.next w.bytes w.resume = some s) (before : s.start < boundary) :
    Ends f boundary limit (w, true)

theorem reportAll_rule (hf : f.Advances) {boundary : Nat} {limit : Option Nat} {P : Window → Prop}
    (report : ∀ w s, P w → f.next w.bytes w.resume = some s → s.start < boundary →
      ¬ limit.any (· ≤ w.found.size) → P (w.report s))
    {fuel : Nat} (enough : w.bytes.size < fuel + w.resume.pos) (hw : P w) :
    P (w.reportAll f boundary limit fuel w.resume).1 ∧
      Ends f boundary limit (w.reportAll f boundary limit fuel w.resume) := by
  induction fuel generalizing w with
  | zero =>
    refine ⟨hw, .exhausted fun s hs => ?_⟩
    have := hf.next hs
    omega
  | succ fuel ih =>
    unfold reportAll
    rcases hs : f.next w.bytes w.resume with _ | s
    · exact ⟨hw, .exhausted (by simp [hs])⟩
    · by_cases hb : boundary ≤ s.start
      · simp only [hb, if_true]
        exact ⟨hw, .exhausted (by simpa [hs] using hb)⟩
      · by_cases hl : limit.any (· ≤ w.found.size)
        · simp only [hb, if_false, hl, if_true]
          exact ⟨hw, .full hl hs (by omega)⟩
        · simp only [hb, if_false, hl, Bool.false_eq_true]
          rw [← resume_report w s]
          have hpos := hf.pos_lt hs
          refine ih ?_ (report w s hw hs (by omega) hl)
          rw [resume_report]
          change w.bytes.size < _
          omega

/-- What each report of a search keeps holds at its end. -/
theorem search_rule (hf : f.Advances) {boundary : Nat} {limit : Option Nat} {P : Window → Prop}
    (report : ∀ w s, P w → f.next w.bytes w.resume = some s → s.start < boundary →
      ¬ limit.any (· ≤ w.found.size) → P (w.report s)) (hw : P w) :
    P (w.search f boundary limit).1 ∧ Ends f boundary limit (w.search f boundary limit) :=
  reportAll_rule hf report (by omega) hw

/-! ## The part of the content that a window shows -/

/-- A window shows the part of the content from its offset to the last byte read.  Unless it shows
the content from its front, the place from which the next match is looked for has `lookBehind`
bytes before it in the window. -/
structure Shows (w : Window) (content : ByteArray) : Prop where
  bytes_eq : w.bytes = content.extract w.offset w.bytesRead
  offset_le : w.offset ≤ w.bytesRead
  read_le : w.bytesRead ≤ content.size
  context : w.offset = 0 ∨ w.offset + lookBehind ≤ w.nextStart

namespace Shows

theorem first (content : ByteArray) : ({} : Window).Shows content where
  bytes_eq := ByteArray.extract_same.symm
  offset_le := Nat.le_refl _
  read_le := Nat.zero_le _
  context := .inl rfl

theorem offset_le_nextStart (hw : w.Shows content) : w.offset ≤ w.nextStart := by
  have := hw.context
  omega

theorem size_eq (hw : w.Shows content) : w.bytes.size = w.bytesRead - w.offset := by
  have := hw.read_le
  rw [hw.bytes_eq, ByteArray.size_extract]
  omega

theorem all_read (hw : w.Shows content)
    (nothing : content.extract w.bytesRead content.size = .empty) : w.bytesRead = content.size := by
  have := hw.read_le
  have := ByteArray.extract_eq_empty_iff.1 nothing
  omega

/-- A part of the window is a part of the content, up to the last byte read. -/
theorem extract_eq (hw : w.Shows content) {i j : Nat}
    (hj : w.offset + j ≤ w.bytesRead ∨ w.bytesRead = content.size) :
    w.bytes.extract i j = content.extract (w.offset + i) (w.offset + j) := by
  rw [hw.bytes_eq, ByteArray.extract_extract]
  rcases hj with hj | hj
  · rw [Nat.min_eq_left hj]
  · rcases Nat.le_total (w.offset + j) w.bytesRead with hle | hle
    · rw [Nat.min_eq_left hle]
    · rw [Nat.min_eq_right hle, hj]
      apply ByteArray.ext
      simp only [ByteArray.data_extract]
      rw [Array.extract_eq_extract_right, ByteArray.size_data]
      omega

/-- A match of the window is one of the content, as far as the window shows it. -/
theorem ofSpan_eq (hw : w.Shows content)
    (hs : w.offset + s.stop ≤ w.bytesRead ∨ w.bytesRead = content.size) :
    Match.ofSpan w.bytes w.offset s = Match.ofSpan content 0 (s.shift w.offset) := by
  have text_eq : s.of w.bytes = (s.shift w.offset).of content := by
    unfold Span.of
    rw [hw.extract_eq hs, Nat.add_comm w.offset, Nat.add_comm w.offset]
    rfl
  unfold Match.ofSpan
  rw [text_eq]
  congr 1
  change w.offset + s.start = 0 + (s.start + w.offset)
  omega

theorem extend (hw : w.Shows content) {b : ByteArray}
    (le : w.bytesRead + b.size ≤ content.size)
    (read : content.extract w.bytesRead (w.bytesRead + b.size) = b) :
    (w.extend b).Shows content where
  bytes_eq := by
    have := hw.offset_le
    change w.bytes ++ b = content.extract w.offset (w.bytesRead + b.size)
    rw [ByteArray.extract_eq_extract_append_extract w.bytesRead this (Nat.le_add_right _ _), read,
      ← hw.bytes_eq]
  offset_le := Nat.le_trans hw.offset_le (Nat.le_add_right _ _)
  read_le := le
  context := hw.context

theorem report (hf : f.Advances) (hw : w.Shows content) (hs : f.next w.bytes w.resume = some s) :
    (w.report s).Shows content where
  bytes_eq := hw.bytes_eq
  offset_le := hw.offset_le
  read_le := hw.read_le
  context := by
    have hpos : w.nextStart - w.offset < (Resume.after s).pos := hf.pos_lt hs
    have := hw.context
    change w.offset = 0 ∨ w.offset + lookBehind ≤ w.offset + (Resume.after s).pos
    omega

theorem slide (hw : w.Shows content) {boundary : Nat} (hb : boundary ≤ w.bytes.size) :
    (w.slide boundary).Shows content where
  bytes_eq := by
    have hsize := hw.size_eq
    have := hw.offset_le
    change w.bytes.extract (boundary - lookBehind) w.bytes.size =
      content.extract (w.offset + (boundary - lookBehind)) w.bytesRead
    rw [hw.extract_eq (.inl (by omega)), hsize]
    congr 1
    omega
  offset_le := by
    have := hw.size_eq
    have := hw.offset_le
    change w.offset + (boundary - lookBehind) ≤ w.bytesRead
    omega
  read_le := hw.read_le
  context := by
    have := hw.context
    change w.offset + (boundary - lookBehind) = 0 ∨
      w.offset + (boundary - lookBehind) + lookBehind ≤ max w.nextStart (w.offset + boundary)
    omega

end Shows

end Window

end FileSearch
