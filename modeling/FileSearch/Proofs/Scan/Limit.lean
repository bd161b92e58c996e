import FileSearch.Pattern
import FileSearch.Proofs.Scan.Window

/-!
# Limits

A limit takes the first matches of what a scan without it reports, and tells whether there are more
(`Finder.limit_takes_first`).  For a text this holds since a walk is cut off; for a stream, the scan
with a limit goes from window to window as the one without it does until the limit is reached
(`Window.Cut`), and from there on the other one only adds matches (`Window.run_none`).
-/

namespace FileSearch

variable {f : Finder} {n : Nat}

/-! ## Texts -/

namespace Finder

/-- The matches of a text up to a limit that is a machine word.  The room for one match more is a
word as well, so it stays at the greatest one. -/
def scanWithin (f : Finder) (h : ByteArray) (limit : UInt64) : Array Match × Bool :=
  let found := f.firstSpans h (min (limit.toNat + 1) (UInt64.size - 1))
  ((found.take limit.toNat).map (Match.ofSpan h 0), limit.toNat < found.size)

theorem scanLimited_some (f : Finder) (h : ByteArray) (n : Nat) :
    f.scanLimited h (some n) = ((f.scan h).take n, decide (n < (f.scan h).size)) := by
  rw [scanLimited_eq, upTo, ← toList_scan, Array.length_toList, Prod.mk.injEq]
  refine ⟨?_, rfl⟩
  rw [← Array.toList_inj, toList_take]

/-- No text has so many matches that the greatest word leaves no room for them. -/
theorem firstSpans_word (f : Finder) {h : ByteArray} (small : h.size + 1 < UInt64.size)
    (limit : UInt64) : f.firstSpans h (min (limit.toNat + 1) (UInt64.size - 1)) =
      f.firstSpans h (limit.toNat + 1) := by
  have room : min (min (limit.toNat + 1) (UInt64.size - 1)) (h.size + 1) =
      min (limit.toNat + 1) (h.size + 1) := by
    have word : limit.toNat < UInt64.size := limit.toNat_lt_size
    omega
  rw [firstSpans, firstSpans, room]

theorem scanWithin_eq (f : Finder) {h : ByteArray} (small : h.size + 1 < UInt64.size)
    (limit : UInt64) : f.scanWithin h limit = f.scanLimited h (some limit.toNat) := by
  simp only [scanWithin, scanLimited, f.firstSpans_word small]

end Finder

/-! ## Windows -/

namespace Window

variable {w : Window} {boundary overlap : Nat}

/-- The search of a window with a limit, against the one without: they are the same, or the first
one ends at the limit and the other one goes on. -/
inductive Cut (n : Nat) : Window × Bool → Window × Bool → Prop where
  | same {w : Window} (within : w.found.size ≤ n) : Cut n (w, false) (w, false)
  | ended {w w' : Window} (first : w'.found.toList = w.found.toList.take n)
    (more : n < w.found.size) : Cut n (w', true) (w, false)

theorem prefix_report (w : Window) (s : Span) :
    w.found.toList <+: (w.report s).found.toList := by
  rw [report, Array.toList_push]
  exact List.prefix_append _ _

/-- A search without a limit adds matches and is never cut off. -/
theorem reportAll_none (w : Window) (f : Finder) (boundary fuel : Nat) (r : Resume) :
    (w.reportAll f boundary none fuel r).2 = false ∧
      w.found.toList <+: (w.reportAll f boundary none fuel r).1.found.toList := by
  induction fuel generalizing w r with
  | zero => exact ⟨rfl, List.prefix_rfl⟩
  | succ fuel ih =>
    unfold reportAll
    rcases f.next w.bytes r with _ | s
    · exact ⟨rfl, List.prefix_rfl⟩
    · by_cases hb : boundary ≤ s.start
      · simp only [hb, if_true]
        exact ⟨trivial, List.prefix_rfl⟩
      · simp only [hb, if_false, Option.any_none, Bool.false_eq_true]
        obtain ⟨uncut, grown⟩ := ih (w.report s) (.after s)
        exact ⟨uncut, (w.prefix_report s).trans grown⟩

theorem reportAll_cut (f : Finder) (boundary fuel : Nat) (r : Resume) (within : w.found.size ≤ n) :
    Cut n (w.reportAll f boundary (some n) fuel r) (w.reportAll f boundary none fuel r) := by
  induction fuel generalizing w r with
  | zero => exact .same within
  | succ fuel ih =>
    unfold reportAll
    rcases f.next w.bytes r with _ | s
    · exact .same within
    · by_cases hb : boundary ≤ s.start
      · simp only [hb, if_true]
        exact .same within
      · simp only [hb, if_false, Option.any_none, Option.any_some, decide_eq_true_eq,
          Bool.false_eq_true]
        by_cases full : n ≤ w.found.size
        · -- The match at hand is the first one beyond the limit.
          have size_eq : w.found.toList.length = n := Nat.le_antisymm within full
          obtain ⟨uncut, grown⟩ := reportAll_none (w.report s) f boundary fuel (.after s)
          generalize (w.report s).reportAll f boundary none fuel (.after s) = all at uncut grown
          obtain ⟨w', truncated⟩ := all
          obtain rfl : truncated = false := uncut
          have more : n + 1 ≤ w'.found.toList.length := by
            have := grown.length_le
            rwa [report, Array.toList_push, List.length_append, List.length_singleton, size_eq]
              at this
          rw [if_pos full]
          refine .ended ?_ more
          rw [← size_eq]
          exact List.prefix_iff_eq_take.1 ((w.prefix_report s).trans grown)
        · rw [if_neg full]
          refine ih (.after s) ?_
          have size_push : (w.report s).found.size = w.found.size + 1 := Array.size_push _
          omega

theorem search_cut (f : Finder) (boundary : Nat) (within : w.found.size ≤ n) :
    Cut n (w.search f boundary (some n)) (w.search f boundary none) :=
  reportAll_cut f boundary _ _ within

/-! ## Streams -/

/-- The first `n` matches of a scan, and whether there are more. -/
def IsCutAt (n : Nat) (all cut : StreamScan) : Prop :=
  cut.found = all.found.take n ∧ cut.truncated = decide (n < all.found.size)

theorem isCutAt_self {all : StreamScan} (uncut : all.truncated = false)
    (within : all.found.size ≤ n) : IsCutAt n all all := by
  refine ⟨?_, ?_⟩
  · rw [← Array.toList_inj, toList_take, List.take_of_length_le within]
  · rw [uncut, decide_eq_false (Nat.not_lt.2 within)]

theorem IsCutAt.of_first {all cut : StreamScan} {found : List Match}
    (first : cut.found.toList = found.take n) (more : n < found.length)
    (grown : found <+: all.found.toList) (truncated : cut.truncated = true) :
    IsCutAt n all cut := by
  refine ⟨?_, ?_⟩
  · obtain ⟨rest, all_eq⟩ := grown
    rw [← Array.toList_inj, toList_take, first, ← all_eq,
      List.take_append_of_le_length (Nat.le_of_lt more)]
  · have beyond : n < all.found.size := Nat.lt_of_lt_of_le more grown.length_le
    rw [truncated, decide_eq_true beyond]

theorem finish_eq (w : Window) (f : Finder) (limit : Option Nat) :
    w.finish f limit =
      (w.search f (w.bytes.size + 1) limit).1.result (w.search f (w.bytes.size + 1) limit).2 := rfl

/-- Without a limit, a scan of reads that do not fail ends, and it keeps what it has found. -/
theorem run_none (f : Finder) (overlap : Nat) {events : List ReadEvent}
    (ok : ReadEvent.neverFails events) (w : Window) :
    ∃ all, run f overlap none w events = .ok all ∧ all.truncated = false ∧
      w.found.toList <+: all.found.toList := by
  have last (w : Window) : (w.finish f none).truncated = false ∧
      w.found.toList <+: (w.finish f none).found.toList := by
    rw [finish_eq]
    exact reportAll_none w f (w.bytes.size + 1) (w.bytes.size + 1) w.resume
  induction events generalizing w with
  | nil => exact ⟨_, rfl, last w⟩
  | cons event events ih =>
    cases event with
    | failed err => cases ok
    | interrupted => exact ih ok w
    | bytes b =>
      by_cases hb : b.isEmpty
      · refine ⟨w.finish f none, ?_, last w⟩
        simp only [run, step, hb, if_true]
      · rw [Bool.not_eq_true] at hb
        simp only [ReadEvent.neverFails, hb, Bool.false_or] at ok
        obtain ⟨uncut, grown⟩ := reportAll_none (w.extend b) f ((w.extend b).boundary overlap)
          ((w.extend b).bytes.size + 1) (w.extend b).resume
        simp only [run, step, hb, Bool.false_eq_true, if_false, search, uncut]
        obtain ⟨all, runs, uncut', grown'⟩ := ih ok _
        exact ⟨all, runs, uncut', grown.trans grown'⟩

theorem finish_cut (f : Finder) (within : w.found.size ≤ n) :
    IsCutAt n (w.finish f none) (w.finish f (some n)) := by
  have searched := search_cut f (w.bytes.size + 1) within
  rw [finish_eq, finish_eq]
  generalize w.search f (w.bytes.size + 1) (some n) = cut at searched
  generalize w.search f (w.bytes.size + 1) none = all at searched
  cases searched with
  | same within => exact isCutAt_self rfl within
  | ended first more => exact .of_first first more List.prefix_rfl rfl

/-- From any window on, a scan with a limit reports the first matches of the scan without. -/
theorem run_cut (f : Finder) (overlap : Nat) {events : List ReadEvent}
    (ok : ReadEvent.neverFails events) {w : Window} (within : w.found.size ≤ n) :
    ∃ all cut, run f overlap none w events = .ok all ∧
      run f overlap (some n) w events = .ok cut ∧ IsCutAt n all cut := by
  induction events generalizing w with
  | nil => exact ⟨_, _, rfl, rfl, finish_cut f within⟩
  | cons event events ih =>
    cases event with
    | failed err => cases ok
    | interrupted => exact ih ok within
    | bytes b =>
      by_cases hb : b.isEmpty
      · refine ⟨w.finish f none, w.finish f (some n), ?_, ?_, finish_cut f within⟩
        · simp only [run, step, hb, if_true]
        · simp only [run, step, hb, if_true]
      · rw [Bool.not_eq_true] at hb
        simp only [ReadEvent.neverFails, hb, Bool.false_or] at ok
        have extended : (w.extend b).found.size ≤ n := within
        have searched : Cut n _ _ := search_cut f ((w.extend b).boundary overlap) extended
        simp only [run, step, hb, Bool.false_eq_true, if_false]
        generalize (w.extend b).boundary overlap = boundary at searched
        generalize (w.extend b).search f boundary (some n) = cut at searched
        generalize (w.extend b).search f boundary none = all at searched
        cases searched with
        | @same w' within => exact ih ok (w := w'.slide boundary) within
        | @ended w' w'' first more =>
          obtain ⟨all, runs, -, grown⟩ := run_none f overlap ok (w'.slide boundary)
          exact ⟨all, w''.result true, runs, rfl, .of_first first more grown rfl⟩

end Window

/-! ## Limits of scans -/

/-- A limit takes the first matches of a scan and tells whether there are more, be it a scan of a
stream or of a text. -/
theorem Finder.limit_takes_first (f : Finder) (overlap : Nat) {events : List ReadEvent}
    (ok : ReadEvent.neverFails events) (n : Nat) :
    (∃ all cut, f.scanStream overlap none events = .ok all ∧
      f.scanStream overlap (some n) events = .ok cut ∧
        cut.found = all.found.take n ∧ cut.truncated = decide (n < all.found.size)) ∧
      ∀ h : ByteArray,
        f.scanLimited h (some n) = ((f.scan h).take n, decide (n < (f.scan h).size)) ∧
          ∀ limit : UInt64, h.size + 1 < UInt64.size →
            f.scanWithin h limit =
              ((f.scan h).take limit.toNat, decide (limit.toNat < (f.scan h).size)) := by
  refine ⟨Window.run_cut f _ ok (Nat.zero_le n), fun h => ⟨f.scanLimited_some h n, ?_⟩⟩
  intro limit small
  rw [f.scanWithin_eq small, scanLimited_some]

/-- The text `ab`, found twice in `xabab` that comes in pieces, with room for one match; and in the
whole text, with the greatest word for a limit. -/
theorem Finder.limit_takes_first_ab :
    let f := Pattern.finder ⟨"ab", .literal "ab".toUTF8⟩
    let reads : List ReadEvent := [.bytes "xa".toUTF8, .interrupted, .bytes "ba".toUTF8,
      .bytes "b".toUTF8]
    let whole := "xabab".toUTF8
    let both : Array Match := #[.new 1 "ab".toUTF8, .new 3 "ab".toUTF8]
    let greatest : UInt64 := 0xFFFFFFFFFFFFFFFF
    ReadEvent.neverFails reads ∧ whole.size + 1 < UInt64.size ∧
      (∃ all cut, f.scanStream 4096 none reads = .ok all ∧
        f.scanStream 4096 (some 1) reads = .ok cut ∧ all.found = both ∧
          cut.found = #[.new 1 "ab".toUTF8] ∧ cut.truncated = true) ∧
        f.scanWithin whole greatest = (both, false) := by
  intro f reads whole both greatest
  have ok : ReadEvent.neverFails reads := by decide
  have small : whole.size + 1 < UInt64.size := by decide
  obtain ⟨⟨all, cut, runs, runs', first, more⟩, texts⟩ := f.limit_takes_first 4096 ok 1
  have found : (f.scanStream 4096 none reads).toOption.map (·.found) = some both := by
    decide +kernel
  rw [runs] at found
  have found : all.found = both := Option.some.inj found
  rw [found] at first more
  have within := (texts whole).2 greatest small
  have scanned : f.scan whole = both := by decide +kernel
  rw [scanned] at within
  exact ⟨ok, small, ⟨all, cut, runs, runs', found, first, more⟩, within⟩

end FileSearch
