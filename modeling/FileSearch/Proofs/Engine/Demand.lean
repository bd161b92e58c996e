import Mathlib
import FileSearch.Engine.Demand
import FileSearch.Proofs.Engine.Coherent
import FileSearch.Proofs.Pattern.Local
import FileSearch.Proofs.Scan.Limit

/-!
# Which searches fit into machine words

The check of a configuration bounds its numbers from below only.  So what a search demands fits
exactly if a clock can show its end, there are fewer than `2 ^ 58` workers and the windows of a stream
are smaller than `2 ^ 63` bytes, and a request breaks off exactly if no clock can show its end
(`Config.demand_fits_iff`).
-/

namespace FileSearch

theorem fitsSigned_natCast (n : Nat) : fitsSigned n = true ↔ n < 2 ^ 63 := by
  rw [fitsSigned, Bool.and_eq_true, decide_eq_true_iff, decide_eq_true_iff]
  omega

/-- The end of a search is never too early for a clock. -/
theorem Instant.fitsSigned_secondsAfter (t : Instant) (d : Duration) :
    fitsSigned (t.secondsAfter d) = true ↔ t.secondsAfter d < 2 ^ 63 := by
  have earliest : -2 ^ 63 ≤ t.seconds.toInt := t.seconds.le_toInt
  rw [fitsSigned, Bool.and_eq_true, decide_eq_true_iff, decide_eq_true_iff, secondsAfter]
  omega

theorem Config.one_le_limit {c : Config} (valid : c.validate = .ok ()) {limit : UInt64}
    (limited : c.maxMatchesPerFile = some limit) : 1 ≤ limit.toNat := by
  by_contra low
  obtain rfl : limit = 0 := UInt64.toNat_inj.1 (by simpa using low)
  rw [validate, if_pos limited] at valid
  split_ifs at valid

/-! ## The quantities -/

namespace Config

variable {c : Config} (p : Pattern) (started : Instant)

theorem endSeconds_fits_iff : (c.demand p started).endSeconds.all fitsSigned = true ↔
    ∀ d ∈ c.timeout, started.secondsAfter d < 2 ^ 63 := by
  rw [demand, Option.all_map]
  cases c.timeout <;> simp [Instant.fitsSigned_secondsAfter]

theorem queueLength_demand : (c.demand p started).queueLength = c.numWorkers.toNat * 64 := rfl

theorem windowSize_demand :
    (c.demand p started).windowSize = 2 ^ 20 + max (p.maxLength.getD c.chunkOverlap.toNat) 1 := rfl

theorem lookedFor_demand : (c.demand p started).lookedFor =
    c.maxMatchesPerFile.map fun limit => min (limit.toNat + 1) (UInt64.size - 1) := by
  rw [demand, Engine.examiner, Option.map_map]
  rfl

theorem lookedFor_fits : (c.demand p started).lookedFor.all (· < UInt64.size) = true := by
  rw [lookedFor_demand, Option.all_map, Option.all_eq_true]
  intro limit _
  exact decide_eq_true ((Nat.min_le_right _ _).trans_lt (by decide))

end Config

/-! ## Requests that break off -/

/-- A request that can be searched for breaks off exactly if it has paths and no clock can show the
time at which its search has to end. -/
theorem Engine.breaksOff_iff (host : Host) (e : Engine) (request : Request) (started : Instant) :
    e.breaksOff host request started = true ↔
      (∃ found, ((Engine.prepare host request).on e).1 = .ok found) ∧ request.paths ≠ [] ∧
        ∃ d ∈ e.config.timeout, 2 ^ 63 ≤ started.secondsAfter d := by
  unfold breaksOff
  cases ((Engine.prepare host request).on e).1 with
  | error err => simp
  | ok found =>
    have shown := Config.endSeconds_fits_iff (c := e.config) found.1 started
    have late : (∃ d ∈ e.config.timeout, 2 ^ 63 ≤ started.secondsAfter d) ↔
        ¬(e.config.demand found.1 started).endSeconds.all fitsSigned = true := by
      rw [shown]
      push Not
      rfl
    rw [late]
    by_cases empty : request.paths = [] <;> simp [empty]

namespace Config

/-- What a search by a checked configuration demands fits into machine words exactly if a clock can
show the time at which the search has to end, there are fewer than `2 ^ 58` workers and the windows of
a stream are smaller than `2 ^ 63` bytes.  In any case the queue has room, and enough matches are
looked for to tell whether there are more than are reported; and a request breaks off exactly if no
clock can show its end. -/
theorem demand_fits_iff {c : Config} (valid : c.validate = .ok ()) (p : Pattern)
    (started : Instant) :
    ((c.demand p started).fits = true ↔
      (∀ d ∈ c.timeout, started.secondsAfter d < 2 ^ 63) ∧ c.numWorkers.toNat < 2 ^ 58 ∧
        2 ^ 20 + p.maxLength.getD c.chunkOverlap.toNat < 2 ^ 63) ∧
    64 ≤ (c.demand p started).queueLength ∧
    (∀ limit ∈ c.maxMatchesPerFile, ∃ n ∈ (c.demand p started).lookedFor,
      1 < n ∧ n < 2 ^ 64 ∧ ∀ h : ByteArray, h.size + 1 < 2 ^ 64 →
        p.finder.firstSpans h n = p.finder.firstSpans h (limit.toNat + 1)) ∧
    ∀ (host : Host) (e : Engine) (request : Request), e.config = c →
      (e.breaksOff host request started = true ↔
        (∃ found, ((Engine.prepare host request).on e).1 = .ok found) ∧ request.paths ≠ [] ∧
          ∃ d ∈ c.timeout, 2 ^ 63 ≤ started.secondsAfter d) := by
  refine ⟨?_, ?_, fun limit limited => ?_, fun host e request same => ?_⟩
  · have queue : (c.demand p started).queueLength < UInt64.size ↔ c.numWorkers.toNat < 2 ^ 58 := by
      rw [queueLength_demand, show UInt64.size = 2 ^ 64 from rfl]
      omega
    have window : (c.demand p started).windowSize < 2 ^ 63 ↔
        2 ^ 20 + p.maxLength.getD c.chunkOverlap.toNat < 2 ^ 63 := by
      rw [windowSize_demand]
      omega
    rw [Demand.fits, lookedFor_fits, Bool.and_true, Bool.and_eq_true, Bool.and_eq_true,
      endSeconds_fits_iff, decide_eq_true_iff, fitsSigned_natCast, queue, window, and_assoc]
  · have workers := one_le_numWorkers valid
    rw [queueLength_demand]
    omega
  · have one := one_le_limit valid limited
    refine ⟨min (limit.toNat + 1) (UInt64.size - 1), ?_, ?_, ?_, fun h small => ?_⟩
    · rw [lookedFor_demand, show c.maxMatchesPerFile = some limit from limited]
      rfl
    · exact Nat.lt_min.2 ⟨by omega, by decide⟩
    · exact (Nat.min_le_right _ _).trans_lt (by decide)
    · exact p.finder.firstSpans_word small limit
  · rw [← same]
    exact e.breaksOff_iff host request started

/-- The greatest numbers that fit, for a search that starts when the clock does. -/
theorem demand_fits_iff_greatest :
    let c : Config := { numWorkers := 0x3FFFFFFFFFFFFFF, chunkOverlap := 0x7FFFFFFFFFEFFFFF
                        maxMatchesPerFile := some 0xFFFFFFFFFFFFFFFF
                        timeout := some ⟨0x7FFFFFFFFFFFFFFF, 999999999, by decide⟩ }
    c.validate = .ok () ∧ (c.demand Pattern.lineB ⟨0, 0, by decide⟩).fits = true := by
  intro c
  have valid : c.validate = .ok () := rfl
  refine ⟨valid, (demand_fits_iff valid _ _).1.2 ⟨?_, by decide, by decide⟩⟩
  rintro d ⟨⟩
  decide

/-- A checked configuration may ask for a search whose end no clock can show, for so many workers
that the length of their queue is no word, and for windows larger than all that memory can hold. -/
theorem not_forall_demand_fits :
    (¬ ∀ (c : Config) (p : Pattern) (started : Instant), c.validate = .ok () →
      (c.demand p started).endSeconds.all fitsSigned = true) ∧
    (¬ ∀ (c : Config) (p : Pattern) (started : Instant), c.validate = .ok () →
      (c.demand p started).queueLength < UInt64.size) ∧
    ¬ ∀ (c : Config) (p : Pattern) (started : Instant), c.validate = .ok () →
      fitsSigned (c.demand p started).windowSize = true := by
  let started : Instant := ⟨0, 0, by decide⟩
  refine ⟨fun all => ?_, fun all => ?_, fun all => ?_⟩
  · have late := all { timeout := some ⟨0xFFFFFFFFFFFFFFFF, 0, by decide⟩ } Pattern.lineB started rfl
    revert late
    decide
  · have many := all { numWorkers := 0x400000000000000 } Pattern.lineB started rfl
    revert many
    decide
  · have large := all { chunkOverlap := 0x8000000000000000 } Pattern.lineB started rfl
    revert large
    decide

end Config

end FileSearch
