import FileSearch.Proofs.Scan.Leftmost
import FileSearch.Proofs.Scan.Window

/-!
# Scans by windows with a local finder

Whether a match begins at a place is for a local finder decided by `lookBehind` bytes before the
place and `reach` bytes behind it, so a window that shows these bytes decides about the place as the
whole content does (`Shows.freshStop_eq`).

`Window.prospect` is what a scan will have found in the end if it goes on as the walk through the
whole content does.  Nothing that a scan does changes it, so that a scan by windows reports the
matches of the whole content (`scanStream_of_isLocal`).
-/

namespace FileSearch

variable {f : Finder} {reach : Nat} {lengthOf : ByteArray → ByteArray → Option Nat}
  {content : ByteArray} {w : Window} {s : Span} {boundary : Nat} {limit : Option Nat}

namespace Finder

theorem le_of_stopWithin {h : ByteArray} {i e : Nat} (he : stopWithin reach lengthOf h i = some e) :
    i ≤ h.size ∧ i ≤ e := by
  unfold stopWithin at he
  split at he
  · obtain ⟨n, -, rfl⟩ := Option.map_eq_some_iff.1 he
    exact ⟨by assumption, Nat.le_add_right _ _⟩
  · cases he

theorem IsLocal.stop_le (hf : f.IsLocal reach lengthOf) {h : ByteArray} {i e : Nat}
    (he : stopWithin reach lengthOf h i = some e) : e ≤ i + reach := by
  unfold stopWithin at he
  split at he
  · obtain ⟨n, hn, rfl⟩ := Option.map_eq_some_iff.1 he
    have := hf.length_le _ _ _ hn
    omega
  · cases he

theorem IsLocal.advances (hf : f.IsLocal reach lengthOf) : f.Advances := by
  intro h p s hs
  obtain ⟨hp, he, -⟩ := (hf.findsFirst h p s).1 hs
  have := le_of_stopWithin he
  omega

end Finder

namespace Window

open Finder

/-! ## What a window decides -/

/-- The window shows what decides about the matches that begin before a boundary. -/
def Decides (w : Window) (content : ByteArray) (reach boundary : Nat) : Prop :=
  ∀ i, i < boundary →
    i ≤ w.bytes.size ∧ (w.offset + i + reach ≤ w.bytesRead ∨ w.bytesRead = content.size)

theorem Shows.stopWithin_eq (hw : w.Shows content) {i : Nat} (front : w.offset = 0 ∨ lookBehind ≤ i)
    (hi : i ≤ w.bytes.size)
    (back : w.offset + i + reach ≤ w.bytesRead ∨ w.bytesRead = content.size) :
    stopWithin reach lengthOf content (w.offset + i) =
      (stopWithin reach lengthOf w.bytes i).map (w.offset + ·) := by
  have hsize := hw.size_eq
  have := hw.offset_le
  have := hw.read_le
  have before : w.bytes.extract (i - lookBehind) i =
      content.extract (w.offset + i - lookBehind) (w.offset + i) := by
    rw [hw.extract_eq (.inl (by omega))]
    congr 1
    omega
  have after : w.bytes.extract i (i + reach) =
      content.extract (w.offset + i) (w.offset + i + reach) := by
    rw [hw.extract_eq (by omega), Nat.add_assoc]
  unfold stopWithin
  rw [if_pos (by omega), if_pos hi, before, after, Option.map_map]
  congr 1
  funext n
  exact Nat.add_assoc _ _ _

/-- Before its boundary, a window has matches to report where the content has. -/
theorem Shows.freshStop_eq (hw : w.Shows content) (hd : w.Decides content reach boundary) {i : Nat}
    (hi : w.resume.pos ≤ i) (hb : i < boundary) :
    freshStop (stopWithin reach lengthOf) content w.lastEnd (w.offset + i) =
      (freshStop (stopWithin reach lengthOf) w.bytes w.resume.lastEnd i).map (w.offset + ·) := by
  have front : w.offset = 0 ∨ lookBehind ≤ i := by
    have := hw.context
    change w.nextStart - w.offset ≤ i at hi
    omega
  have key : stopWithin reach lengthOf content (w.offset + i) =
      (stopWithin reach lengthOf w.bytes i).map (w.offset + ·) :=
    hw.stopWithin_eq front (hd i hb).1 (hd i hb).2
  apply Option.ext
  intro e
  simp only [freshStop_eq_some_iff, Option.map_eq_some_iff, lastEnd_resume_iff, key]
  constructor
  · rintro ⟨⟨n, hn, rfl⟩, fresh⟩
    exact ⟨n, ⟨hn, fun ⟨he, hl⟩ => fresh ⟨by omega, hl⟩⟩, rfl⟩
  · rintro ⟨n, ⟨hn, fresh⟩, rfl⟩
    exact ⟨⟨n, hn, rfl⟩, fun ⟨he, hl⟩ => fresh ⟨by omega, hl⟩⟩

/-- The next match in a window is the next match in the content if it begins before the boundary. -/
theorem Shows.next_eq (hf : f.IsLocal reach lengthOf) (hw : w.Shows content)
    (hd : w.Decides content reach boundary) (hs : f.next w.bytes w.resume = some s)
    (hb : s.start < boundary) :
    f.next content ⟨w.nextStart, w.lastEnd⟩ = some (s.shift w.offset) := by
  have next := hf.findsFirst.isNext hs
  have hoff := hw.offset_le_nextStart
  have hpos : w.nextStart - w.offset ≤ s.start := next.pos_le
  rw [hf.findsFirst.next_eq_some_iff]
  refine ⟨?_, ?_, fun q hq hqs => ?_⟩
  · change w.nextStart ≤ s.start + w.offset
    omega
  · change freshStop _ content w.lastEnd (s.start + w.offset) = some (s.stop + w.offset)
    rw [Nat.add_comm s.start, hw.freshStop_eq hd next.pos_le hb, next.fresh, Nat.add_comm s.stop]
    rfl
  · change w.nextStart ≤ q at hq
    change q < s.start + w.offset at hqs
    obtain ⟨i, rfl⟩ : ∃ i, q = w.offset + i := ⟨q - w.offset, by omega⟩
    have hi : w.resume.pos ≤ i := by
      change w.nextStart - w.offset ≤ i
      omega
    rw [hw.freshStop_eq hd hi (by omega), next.first i hi (by omega)]
    rfl

/-- If the window has no more matches before the boundary, neither has the content. -/
theorem Shows.freshStop_eq_none (hf : f.IsLocal reach lengthOf) (hw : w.Shows content)
    (hd : w.Decides content reach boundary)
    (none_left : ∀ s, f.next w.bytes w.resume = some s → boundary ≤ s.start) :
    ∀ q, w.nextStart ≤ q → q < w.offset + boundary →
      freshStop (stopWithin reach lengthOf) content w.lastEnd q = none := by
  intro q hq hqb
  have hoff := hw.offset_le_nextStart
  obtain ⟨i, rfl⟩ : ∃ i, q = w.offset + i := ⟨q - w.offset, by omega⟩
  have hi : w.resume.pos ≤ i := by
    change w.nextStart - w.offset ≤ i
    omega
  have : freshStop (stopWithin reach lengthOf) w.bytes w.resume.lastEnd i = none := by
    rcases hs : f.next w.bytes w.resume with _ | s
    · exact hf.findsFirst.freshStop_eq_none hs i hi
    · have := none_left s hs
      exact (hf.findsFirst.isNext hs).first i hi (by omega)
  rw [hw.freshStop_eq hd hi (by omega), this]
  rfl

/-! ## What a scan will have found -/

/-- What has been found, and the matches of the content from there on. -/
def prospect (w : Window) (f : Finder) (content : ByteArray) : List Match :=
  w.found.toList ++ (f.onward content ⟨w.nextStart, w.lastEnd⟩).map (Match.ofSpan content 0)

theorem prospect_first (f : Finder) (content : ByteArray) :
    ({} : Window).prospect f content = (f.allSpans content).map (Match.ofSpan content 0) := by
  simp [prospect, allSpans]

theorem prospect_report (hf : f.IsLocal reach lengthOf) (hw : w.Shows content)
    (hd : w.Decides content reach boundary) (hs : f.next w.bytes w.resume = some s)
    (hb : s.start < boundary) : (w.report s).prospect f content = w.prospect f content := by
  have stop_le : s.stop ≤ s.start + reach :=
    hf.stop_le (freshStop_eq_some_iff.1 (hf.findsFirst.isNext hs).fresh).1
  have decided := (hd s.start hb).2
  have match_eq : Match.ofSpan w.bytes w.offset s = Match.ofSpan content 0 (s.shift w.offset) :=
    hw.ofSpan_eq (by omega)
  have onward_eq := hf.advances.onward_of_some (hw.next_eq hf hd hs hb)
  rw [after_shift] at onward_eq
  unfold prospect
  rw [onward_eq, List.map_cons, ← match_eq]
  simp [report]

theorem prospect_slide (hf : f.IsLocal reach lengthOf) (hw : w.Shows content)
    (hd : w.Decides content reach boundary)
    (none_left : ∀ s, f.next w.bytes w.resume = some s → boundary ≤ s.start) :
    (w.slide boundary).prospect f content = w.prospect f content := by
  have skip : f.next content ⟨max w.nextStart (w.offset + boundary), w.lastEnd⟩ =
      f.next content ⟨w.nextStart, w.lastEnd⟩ := by
    refine hf.findsFirst.next_skip (r := ⟨w.nextStart, w.lastEnd⟩) (Nat.le_max_left _ _) ?_
    intro q hq hqb
    refine hw.freshStop_eq_none hf hd none_left q hq ?_
    change w.nextStart ≤ q at hq
    omega
  unfold prospect slide
  rw [onward_congr skip]

/-- At the end of the content nothing more is to be found. -/
theorem prospect_of_exhausted (hf : f.IsLocal reach lengthOf) (hw : w.Shows content)
    (all_read : w.bytesRead = content.size)
    (none_left : ∀ s, f.next w.bytes w.resume = some s → w.bytes.size + 1 ≤ s.start) :
    w.prospect f content = w.found.toList := by
  have hd : w.Decides content reach (w.bytes.size + 1) := fun i hi => ⟨by omega, .inr all_read⟩
  have hsize := hw.size_eq
  have := hw.offset_le
  have nothing : f.next content ⟨w.nextStart, w.lastEnd⟩ = none := by
    rw [hf.findsFirst.next_eq_none_iff]
    intro q hq
    by_cases hqb : q < w.offset + (w.bytes.size + 1)
    · exact hw.freshStop_eq_none hf hd none_left q hq hqb
    · refine freshStop_of_none ?_ _
      unfold stopWithin
      rw [if_neg (by omega)]
  unfold prospect
  rw [onward_of_none nothing, List.map_nil, List.append_nil]

/-! ## The scan -/

/-- A scan has kept to the walk through the content, up to the limit. -/
structure Follows (w : Window) (f : Finder) (content : ByteArray) (limit : Option Nat) : Prop where
  shows : w.Shows content
  prospect_eq : w.prospect f content = (f.allSpans content).map (Match.ofSpan content 0)
  within : ∀ n, limit = some n → w.found.size ≤ n

namespace Follows

theorem first (f : Finder) (content : ByteArray) (limit : Option Nat) :
    ({} : Window).Follows f content limit where
  shows := .first content
  prospect_eq := prospect_first f content
  within := fun _ _ => Nat.zero_le _

theorem report (hf : f.IsLocal reach lengthOf) (hw : w.Follows f content limit)
    (hd : w.Decides content reach boundary) (hs : f.next w.bytes w.resume = some s)
    (hb : s.start < boundary) (room : ¬ limit.any (· ≤ w.found.size)) :
    (w.report s).Follows f content limit where
  shows := hw.shows.report hf.advances hs
  prospect_eq := by rw [prospect_report hf hw.shows hd hs hb, hw.prospect_eq]
  within := by
    rintro n rfl
    have : ¬ n ≤ w.found.size := by simpa using room
    have size_eq : (w.report s).found.size = w.found.size + 1 := Array.size_push _
    omega

theorem search (hf : f.IsLocal reach lengthOf) (hw : w.Follows f content limit)
    (hd : w.Decides content reach boundary) :
    ((w.search f boundary limit).1.Follows f content limit ∧
      (w.search f boundary limit).1.Decides content reach boundary) ∧
      Ends f boundary limit (w.search f boundary limit) :=
  search_rule hf.advances
    (P := fun w => w.Follows f content limit ∧ w.Decides content reach boundary)
    (fun _ _ hw hs hb room => ⟨hw.1.report hf hw.2 hs hb room, hw.2⟩) ⟨hw, hd⟩

/-- If the limit is reached and the window has one more match, the scan is cut off. -/
theorem upTo_of_full (hf : f.IsLocal reach lengthOf) (hw : w.Follows f content limit)
    (hd : w.Decides content reach boundary) (full : limit.any (· ≤ w.found.size))
    (hs : f.next w.bytes w.resume = some s) (hb : s.start < boundary) :
    upTo limit ((f.allSpans content).map (Match.ofSpan content 0)) = (w.found, true) := by
  rcases limit with _ | n
  · simp at full
  · have size_eq : w.found.toList.length = n := by
      have := hw.within n rfl
      have : n ≤ w.found.size := by simpa using full
      rw [Array.length_toList]
      omega
    have onward_eq := hf.advances.onward_of_some (hw.shows.next_eq hf hd hs hb)
    rw [← hw.prospect_eq]
    unfold prospect upTo
    rw [onward_eq]
    simp [size_eq]

/-- If nothing more is to be found, the scan has found everything. -/
theorem upTo_of_exhausted (hw : w.Follows f content limit)
    (exhausted : w.prospect f content = w.found.toList) :
    upTo limit ((f.allSpans content).map (Match.ofSpan content 0)) = (w.found, false) := by
  rw [← hw.prospect_eq, exhausted]
  rcases limit with _ | n
  · rfl
  · have : w.found.toList.length ≤ n := hw.within n rfl
    simp only [upTo, List.take_of_length_le this, Prod.mk.injEq, decide_eq_false_iff_not]
    exact ⟨trivial, by omega⟩

theorem finish (hf : f.IsLocal reach lengthOf) (hw : w.Follows f content limit)
    (all_read : w.bytesRead = content.size) :
    ((w.finish f limit).found, (w.finish f limit).truncated) =
        upTo limit ((f.allSpans content).map (Match.ofSpan content 0)) ∧
      (w.finish f limit).bytesRead = content.size := by
  have hd : w.Decides content reach (w.bytes.size + 1) := fun i hi => ⟨by omega, .inr all_read⟩
  have bytes_eq := bytes_search w f (w.bytes.size + 1) limit
  have read_eq := bytesRead_search w f (w.bytes.size + 1) limit
  obtain ⟨⟨hw', hd'⟩, ends⟩ := hw.search hf hd
  unfold Window.finish
  generalize w.search f (w.bytes.size + 1) limit = p at bytes_eq read_eq hw' hd' ends
  cases ends with
  | exhausted none_left =>
    refine ⟨(hw'.upTo_of_exhausted ?_).symm, read_eq.trans all_read⟩
    refine prospect_of_exhausted hf hw'.shows (read_eq.trans all_read) fun s hs => ?_
    rw [bytes_eq]
    exact none_left s hs
  | full full next before =>
    exact ⟨(hw'.upTo_of_full hf hd' full next before).symm, read_eq.trans all_read⟩

/-- A read leaves a window from which the scan goes on, or ends it at the limit. -/
theorem step (hf : f.IsLocal reach lengthOf) {overlap : Nat} (hr : reach ≤ overlap + 1)
    (hw : w.Follows f content limit) {b : ByteArray} (nonempty : b.isEmpty = false)
    (le : w.bytesRead + b.size ≤ content.size)
    (read : content.extract w.bytesRead (w.bytesRead + b.size) = b) :
    (∃ w', w.step f overlap limit (.bytes b) = .window w' ∧ w'.Follows f content limit ∧
        w'.bytesRead = w.bytesRead + b.size) ∨
      ∃ scan, w.step f overlap limit (.bytes b) = .ended (.ok scan) ∧ scan.truncated = true ∧
        (scan.found, true) = upTo limit ((f.allSpans content).map (Match.ofSpan content 0)) := by
  have extended : (w.extend b).Follows f content limit :=
    ⟨hw.shows.extend le read, hw.prospect_eq, hw.within⟩
  have hd : (w.extend b).Decides content reach ((w.extend b).boundary overlap) := by
    intro i hi
    have := extended.shows.size_eq
    have := extended.shows.offset_le
    unfold boundary at hi
    omega
  have bytes_eq := bytes_search (w.extend b) f ((w.extend b).boundary overlap) limit
  have read_eq := bytesRead_search (w.extend b) f ((w.extend b).boundary overlap) limit
  obtain ⟨⟨hw', hd'⟩, ends⟩ := extended.search hf hd
  simp only [Window.step, nonempty, Bool.false_eq_true, if_false]
  generalize (w.extend b).search f ((w.extend b).boundary overlap) limit = p
    at bytes_eq read_eq hw' hd' ends
  cases ends with
  | @exhausted w' none_left =>
    refine .inl ⟨_, rfl, ⟨hw'.shows.slide ?_, ?_, hw'.within⟩, read_eq⟩
    · rw [bytes_eq]
      exact Nat.sub_le _ _
    · rw [prospect_slide hf hw'.shows hd' none_left, hw'.prospect_eq]
  | @full w' s full next before =>
    exact .inr ⟨_, rfl, rfl, (hw'.upTo_of_full hf hd' full next before).symm⟩

/-- From any window that it comes to, a scan reports what a scan of the whole content does. -/
theorem run (hf : f.IsLocal reach lengthOf) {overlap : Nat} (hr : reach ≤ overlap + 1)
    {events : List ReadEvent} (ok : ReadEvent.neverFails events) (hw : w.Follows f content limit)
    (read : content.extract w.bytesRead content.size = ReadEvent.content events) :
    ∃ scan, Window.run f overlap limit w events = .ok scan ∧
      (scan.found, scan.truncated) =
        upTo limit ((f.allSpans content).map (Match.ofSpan content 0)) ∧
      (scan.truncated = false → scan.bytesRead = content.size) := by
  induction events generalizing w with
  | nil =>
    have ends := hw.finish hf (hw.shows.all_read read)
    exact ⟨_, rfl, ends.1, fun _ => ends.2⟩
  | cons event events ih =>
    cases event with
    | failed err => cases ok
    | interrupted => exact ih ok hw read
    | bytes b =>
      by_cases hb : b.isEmpty
      · simp only [ReadEvent.content, hb, if_true] at read
        have ends := hw.finish hf (hw.shows.all_read read)
        refine ⟨_, ?_, ends.1, fun _ => ends.2⟩
        simp only [Window.run, Window.step, hb, if_true]
      · rw [Bool.not_eq_true] at hb
        simp only [ReadEvent.content, hb, Bool.false_eq_true, if_false] at read
        simp only [ReadEvent.neverFails, hb, Bool.false_or] at ok
        obtain ⟨le, front, rest⟩ := extract_of_read hw.shows.read_le read
        rcases hw.step hf hr hb le front with ⟨w', step, hw', read_eq⟩ | ⟨scan, step, cut, found⟩
        · simp only [Window.run, step]
          rw [← read_eq] at rest
          exact ih ok hw' rest
        · simp only [Window.run, step]
          exact ⟨scan, rfl, cut ▸ found, fun uncut => by simp [cut] at uncut⟩

end Follows

end Window

/-- A scan of a stream by windows reports what a scan of the whole content does, if the finder is
local and the windows carry over what decides about a place. -/
theorem Finder.scanStream_of_isLocal (hf : f.IsLocal reach lengthOf) {overlap : Nat}
    (hr : reach ≤ f.overlap overlap + 1) (limit : Option Nat) {events : List ReadEvent}
    (ok : ReadEvent.neverFails events) :
    ∃ scan, f.scanStream overlap limit events = .ok scan ∧
      (scan.found, scan.truncated) = f.scanLimited (ReadEvent.content events) limit ∧
      (scan.truncated = false → scan.bytesRead = (ReadEvent.content events).size) := by
  rw [scanLimited_eq]
  exact (Window.Follows.first f _ limit).run hf hr ok ByteArray.extract_zero_size

end FileSearch
