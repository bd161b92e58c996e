import FileSearch.Proofs.Pattern.Short
import FileSearch.Proofs.Scan.Cover
import FileSearch.Proofs.Scan.Limit
import FileSearch.Proofs.Scan.Succession

/-!
# Matches that reach the end of a window

A match may be longer than what windows carry over.  Its first byte still belongs to a match of the
chunked scan if the pattern has a match with bytes there in what has been read when the scan decides
about it (`scanStream_loses_only_cut`); this one may end earlier.  If the pattern has none, nothing
of the match is reported: `abPlusC` has no match that ends before the `c`
(`not_forall_scanStream_overlaps`).
-/

namespace FileSearch

/-- A scan reports matches only. -/
theorem Finder.stopAt_of_mem_scan {f : Finder} {stopAt : ByteArray → Nat → Option Nat}
    {h : ByteArray} {m : Match} (hf : f.InBounds) (first : f.FindsFirst stopAt)
    (mem : m ∈ f.scan h) : stopAt h m.start = some m.stop := by
  have walks : f.Walks h ⟨0, none⟩ (f.allSpans h) :=
    hf.advances.walks (by show h.size < h.size + 1 + 0; omega)
  rw [← Array.mem_toList_iff, f.toList_scan] at mem
  obtain ⟨s, listed, rfl⟩ := List.mem_map.1 mem
  have stop := walks.stopAt_eq first s listed
  obtain ⟨-, start_le, stop_le⟩ :=
    hf h s.start s ((first h s.start s).2 ⟨Nat.le_refl _, stop, fun q le lt => by omega⟩)
  rw [Match.stop_ofSpan start_le stop_le]
  rw [Match.ofSpan, Nat.zero_add]
  exact stop

namespace Regex.Program

variable {p : Program} {h : ByteArray} {a i e : Nat}

section

variable (laid : p.WellLaid)

include laid

/-- What stands far before a place does not matter for a match there. -/
theorem attempt_drop (front : a = 0 ∨ a + lookBehind ≤ i) (inside : i ≤ h.size) :
    p.attempt h i = (p.attempt (h.extract a h.size) (i - a)).map (· + a) := by
  have le : a ≤ i := by omega
  have view : Regex.View h (h.extract a h.size) a i h.size :=
    ⟨rfl, front, by omega, Nat.le_refl _⟩
  have size := view.size_eq
  refine attempt_eq laid p.looksAhead_margin view le inside inside (.inr rfl)
    (fun e ends => (le_of_attempt inside ends).2) fun e ends => ?_
  have := (le_of_attempt (by omega) ends).2
  omega

theorem stopAt_drop (front : a = 0 ∨ a + lookBehind ≤ i) (nonempty : i < e)
    (stop : p.stopAt h i = some e) :
    ∃ e', i - a < e' ∧ p.stopAt (h.extract a h.size) (i - a) = some e' := by
  obtain ⟨inside, found⟩ := Option.ite_none_right_eq_some.1 stop
  rw [p.attempt_drop laid front inside] at found
  obtain ⟨e', found, rfl⟩ := Option.map_eq_some_iff.1 found
  refine ⟨e', by omega, ?_⟩
  rwa [stopAt, if_pos]
  rw [ByteArray.size_extract]
  omega

/-- Where a text has a match with bytes, so has a part of it that shows the match and what decides
about conditions at its end. -/
theorem stopAt_of_view {stop : Nat} (front : a = 0 ∨ a + lookBehind ≤ i) (nonempty : i < e)
    (shown : e + 1 + p.margin ≤ stop) (le : stop ≤ h.size) (ends : p.stopAt h i = some e) :
    ∃ e', i - a < e' ∧ p.stopAt (h.extract a stop) (i - a) = some e' := by
  have ends := (Option.ite_none_right_eq_some.1 ends).2
  have view : Regex.View h (h.extract a stop) a i stop := ⟨rfl, front, by omega, le⟩
  -- The part has no other match that ends where the match of the text does, or before.
  have same (short : ∀ e', p.attempt (h.extract a stop) (i - a) = some e' → e' + a ≤ e) :
      p.attempt h i = (p.attempt (h.extract a stop) (i - a)).map (· + a) := by
    refine attempt_eq laid p.looksAhead_margin view (by omega) (by omega) (Nat.le_of_lt nonempty)
      (.inl shown) (fun e' ends' => ?_) short
    exact Nat.le_of_eq (Option.some.inj (ends'.symm.trans ends))
  have inside : i - a ≤ (h.extract a stop).size := by
    rw [ByteArray.size_extract]
    omega
  rw [stopAt, if_pos inside]
  cases found : p.attempt (h.extract a stop) (i - a) with
  | none =>
    have none_here := same fun e' ends' => by
      rw [found] at ends'
      cases ends'
    rw [found, ends] at none_here
    cases none_here
  | some e' =>
    refine ⟨e', ?_, rfl⟩
    by_cases longer : e < e' + a
    · omega
    · have here := same fun e'' ends' => by
        rw [found] at ends'
        have := Option.some.inj ends'
        omega
      rw [found, ends] at here
      have : e = e' + a := Option.some.inj here
      omega

end

end Regex.Program

namespace Pattern

variable {p : Pattern} {program : Regex.Program} {content : ByteArray} {i e : Nat}

/-- Among the first `stop` bytes of a content, a pattern has no match at the place `i`, or one
without bytes. -/
def BareAt (p : Pattern) (content : ByteArray) (stop i : Nat) : Prop :=
  ∀ s, p.findAt (content.extract 0 stop) i = some s → s.start = i → s.isEmpty

theorem stopAt_of_not_bareAt (hp : p.strategy = .regex program) (laid : program.WellLaid)
    {stop : Nat} (bytes : ¬ p.BareAt content stop i) :
    ∃ e, i < e ∧ program.stopAt (content.extract 0 stop) i = some e := by
  unfold BareAt at bytes
  push Not at bytes
  obtain ⟨s, found, rfl, bytes⟩ := bytes
  have stop_le := (p.inBounds _ _ _ found).2.1
  have apart : s.start ≠ s.stop := fun same => bytes (beq_iff_eq.2 same)
  exact ⟨s.stop, Nat.lt_of_le_of_ne stop_le apart,
    ((findsFirst_of_regex hp laid _ _ _).1 found).2.1⟩

/-- A match is visible, unless the content ends early for the pattern at the end of a read. -/
theorem visible_or_cut (overlap : Nat) (ends : Nat → Prop) (hp : p.strategy = .regex program)
    (laid : program.WellLaid) (stop : program.stopAt content i = some e) (nonempty : i < e) :
    Visible program.stopAt content overlap ends i ∨
      ∃ stop, ends stop ∧ i + overlap < stop ∧ stop ≤ e + p.margin ∧ stop < content.size ∧
        p.BareAt content stop i := by
  have margin : p.margin = program.margin := by simp only [Pattern.margin, hp]
  obtain ⟨inside, attempt⟩ := Option.ite_none_right_eq_some.1 stop
  have within := (Regex.Program.le_of_attempt inside attempt).2
  by_cases cut : ∃ stop, ends stop ∧ i + overlap < stop ∧ stop ≤ e + p.margin ∧
      stop < content.size ∧ p.BareAt content stop i
  · exact .inr cut
  · refine .inl ⟨by omega, fun a last front le decides => ?_⟩
    rcases Nat.eq_or_lt_of_le le with rfl | before
    · exact program.stopAt_drop laid front nonempty stop
    · obtain ⟨ended, behind⟩ := decides.resolve_right (Nat.ne_of_lt before)
      by_cases shown : e + 1 + program.margin ≤ last
      · exact program.stopAt_of_view laid front nonempty shown le stop
      · have bytes : ¬ p.BareAt content last i := fun bare =>
          cut ⟨last, ended, behind, by omega, before, bare⟩
        obtain ⟨e', longer, found⟩ := stopAt_of_not_bareAt hp laid bytes
        have seen := program.stopAt_drop laid front longer found
        rwa [ByteArray.size_extract, Nat.min_eq_left le, Nat.sub_zero, ByteArray.extract_extract,
          Nat.zero_add, Nat.zero_add, Nat.min_self] at seen

/-- However a stream is cut into reads, the first byte of a match with bytes belongs to a match that
a chunked scan reports, unless a read ends within the match or the bytes its conditions look at,
more than the overlap behind its first byte, and the pattern has no match with bytes there in what
has been read by then. -/
theorem scanStream_loses_only_cut {text : String} {options : PatternOptions}
    (compiled : compile text options = .ok p) (overlap : Nat) {events : List ReadEvent}
    (ok : ReadEvent.neverFails events) :
    let content := ReadEvent.content events
    ∃ scan, p.finder.scanStream overlap none events = .ok scan ∧
      ∀ m ∈ p.finder.scan content, ¬ m.isEmpty →
        (∃ m' ∈ scan.found, m'.start ≤ m.start ∧ m.start < m'.stop) ∨
          ∃ stop, ReadEvent.EndsAt events stop ∧ m.start + p.finder.overlap overlap < stop ∧
            stop ≤ m.stop + p.margin ∧ stop < content.size ∧ p.BareAt content stop m.start := by
  intro content
  rcases hp : p.strategy with needle | program
  · obtain ⟨scan, runs, found, -⟩ := Finder.scanStream_of_isLocal (isLocal_of_literal hp)
      (Nat.le_succ_of_le (overlap_of_literal hp overlap)) none ok
    have found : scan.found = p.finder.scan content := congrArg Prod.fst found
    exact ⟨scan, runs, fun m mem bytes =>
      .inl ⟨m, found ▸ mem, Nat.le_refl _, p.inBounds.start_lt_stop mem bytes⟩⟩
  · have laid := wellLaid_of_compile compiled hp
    have first := findsFirst_of_regex hp laid
    obtain ⟨scan, runs, -⟩ := Window.run_none p.finder (p.finder.overlap overlap) ok {}
    refine ⟨scan, runs, fun m mem bytes => ?_⟩
    have stop := Finder.stopAt_of_mem_scan p.inBounds first mem
    have nonempty := p.inBounds.start_lt_stop mem bytes
    rcases visible_or_cut (p.finder.overlap overlap) (ReadEvent.EndsAt events) hp laid stop
      nonempty with visible | cut
    · exact .inl (Finder.reports_of_visible p.inBounds first runs visible)
    · exact .inr cut

/-! ## A pattern whose match is lost -/

/-- The pattern `ab+c`. -/
def abPlusC : Pattern :=
  ⟨"ab+c", .regex ⟨#[.byte 0x61 1, .byte 0x62 2, .split [1, 3], .byte 0x63 4, .accept]⟩⟩

set_option maxRecDepth 100000 in
theorem compile_abPlusC : compile "ab+c" {} = .ok abPlusC := rfl

/-- Reads of `abbc` one byte at a time. -/
def abbcReads : List ReadEvent :=
  [.bytes "a".toUTF8, .bytes "b".toUTF8, .bytes "b".toUTF8, .bytes "c".toUTF8]

theorem scan_abbc : abPlusC.finder.scan "abbc".toUTF8 = #[.new 0 "abbc".toUTF8] := by
  decide +kernel

/-- With an overlap of three bytes no read ends in time to cut the match. -/
theorem scanStream_loses_only_cut_abbc :
    compile "ab+c" {} = .ok abPlusC ∧ ReadEvent.neverFails abbcReads ∧
      ∃ scan, abPlusC.finder.scanStream 3 none abbcReads = .ok scan ∧
        ∃ m ∈ scan.found, m.start ≤ 0 ∧ 0 < m.stop := by
  have ok : ReadEvent.neverFails abbcReads := by decide
  obtain ⟨scan, runs, covered⟩ := scanStream_loses_only_cut compile_abPlusC 3 ok
  refine ⟨compile_abPlusC, ok, scan, runs, ?_⟩
  have content : ReadEvent.content abbcReads = "abbc".toUTF8 := by decide
  have mem : .new 0 "abbc".toUTF8 ∈ abPlusC.finder.scan (ReadEvent.content abbcReads) := by
    rw [content, scan_abbc]
    exact Array.mem_singleton.2 rfl
  rcases covered _ mem (by decide) with covered | ⟨stop, -, behind, -, before, -⟩
  · exact covered
  · have carried : abPlusC.finder.overlap 3 = 3 := rfl
    have size : (ReadEvent.content abbcReads).size = 4 := by decide
    rw [carried] at behind
    have behind : 0 + 3 < stop := behind
    omega

/-- A match that is longer than the overlap may be lost: where each window ends before its last
byte, nothing of it is reported. -/
theorem not_forall_scanStream_overlaps :
    ¬ ∀ (text : String) (options : PatternOptions) (p : Pattern) (overlap : Nat),
      compile text options = .ok p → p.isLiteral = false → 1 ≤ overlap →
        ∀ events, ReadEvent.neverFails events →
          ∃ scan, p.finder.scanStream overlap none events = .ok scan ∧
            ∀ m ∈ p.finder.scan (ReadEvent.content events), ¬ m.isEmpty →
              ∃ m' ∈ scan.found, ∃ i, (m.start ≤ i ∧ i < m.stop) ∧ m'.start ≤ i ∧ i < m'.stop := by
  intro all
  obtain ⟨scan, runs, covered⟩ := all "ab+c" {} abPlusC 1 compile_abPlusC rfl (Nat.le_refl 1)
    abbcReads (by decide)
  have reported : (abPlusC.finder.scanStream 1 none abbcReads).toOption.map (·.found) =
      some #[] := by decide +kernel
  rw [runs] at reported
  have nothing : scan.found = #[] := Option.some.inj reported
  have content : ReadEvent.content abbcReads = "abbc".toUTF8 := by decide
  rw [content, scan_abbc, nothing] at covered
  obtain ⟨m, mem, -⟩ := covered _ (Array.mem_singleton.2 rfl) (by decide)
  exact Array.not_mem_empty m mem

end Pattern

end FileSearch
