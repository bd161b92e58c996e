import FileSearch.Proofs.Pool.Outcome

/-!
# What the counters say

The counters of a run are the sum of what the items done have added to them (`Ledger.stats`).  What
an item adds goes with its result or its warning (`Fate`), so that the counters agree with what is
handed on (`Ledger.matchCount_eq`, `Ledger.matchedFiles_eq`, `Ledger.warnings_eq`).  It also makes one
account larger by one, the files searched, the binary files left out, or the warnings, so that these
three make up all items done (`Ledger.accounts_eq_card`).
-/

namespace FileSearch

/-! ## Single items -/

/-- What can become of an item: what it adds to the counters, its result and its warning. -/
inductive Fate : Stats → Option FileResult → Option SkippedPath → Prop where
  | skipped (s : SkippedPath) : Fate (Stats.addWarning 0) none (some s)
  | leftOut : Fate (Stats.addBinarySkipped 0) none none
  | searched (bytes : Nat) : Fate (Stats.addFile 0 bytes) none none
  | matched (bytes : Nat) (r : FileResult) (found : r.found.length ≠ 0) :
    Fate ((Stats.addFile 0 bytes).addMatches r.found.length) (some r) none

theorem Examination.fate (e : Examination) (path : Path) :
    Fate (e.count 0) (e.result? path) none := by
  cases e with
  | leftOut => exact .leftOut
  | searched isBinary scan =>
    by_cases none : scan.found.size = 0
    · simp only [count, result?, Stats.addMatches, Array.isEmpty, none, decide_true, if_true]
      exact .searched scan.bytesRead
    · simp only [count, result?, Array.isEmpty, none, decide_false, Bool.false_eq_true, if_false]
      exact .matched scan.bytesRead ⟨_, scan.found.toList, _⟩ none

theorem Walk.Item.fate (examine : Path → Except SearchError Examination) (item : Item) :
    Fate (item.tally examine) (item.result? examine) (item.warning? examine) := by
  cases item with
  | skipped s => exact .skipped s
  | file path =>
    simp only [tally, count, result?, warning?]
    rcases examine path with err | e
    · exact .skipped ⟨some path, err.message⟩
    · exact e.fate path

namespace Fate

variable {tally : Stats} {result : Option FileResult} {warning : Option SkippedPath}

theorem matchCount_eq (h : Fate tally result warning) :
    tally.matchCount = (result.elim 0 (·.found.length)).toUInt64 := by
  cases h with
  | skipped | leftOut | searched => rfl
  | matched bytes r found => simp [Stats.addMatches, Stats.addFile, Stats.zero_def, found]

theorem matchedFiles_eq (h : Fate tally result warning) :
    tally.matchedFiles = (result.elim 0 fun _ => 1).toUInt64 := by
  cases h with
  | skipped | leftOut | searched => rfl
  | matched bytes r found => simp [Stats.addMatches, Stats.addFile, Stats.zero_def, found]

theorem warnings_eq (h : Fate tally result warning) :
    tally.warnings = (warning.elim 0 fun _ => 1).toUInt64 := by
  cases h with
  | skipped | leftOut | searched => rfl
  | matched bytes r found => simp [Stats.addMatches, Stats.addFile, Stats.zero_def, found]

/-- An item is in one account. -/
theorem accounts_eq_one (h : Fate tally result warning) :
    tally.files.toNat + tally.binarySkipped.toNat + tally.warnings.toNat = 1 := by
  cases h with
  | skipped | leftOut | searched => rfl
  | matched bytes r found => simp [Stats.addMatches, Stats.addFile, Stats.zero_def, found]

end Fate

namespace Pool

open Walk (Item)

variable {examine : Path → Except SearchError Examination}

/-! ## Sums over items -/

/-- A counter that adds up counts what the items add to it. -/
theorem count_sum_tally (counter : Stats → UInt64) (zero : counter 0 = 0)
    (add : ∀ s t, counter (s + t) = counter s + counter t) {share : Item → Nat}
    (each : ∀ item : Item, counter (item.tally examine) = (share item).toUInt64)
    (done : Multiset Item) :
    counter (done.map (Item.tally examine)).sum = (done.map share).sum.toUInt64 := by
  induction done using Multiset.induction with
  | empty => exact zero
  | cons item rest ih =>
    rw [Multiset.map_cons, Multiset.sum_cons, add, each, ih, Multiset.map_cons, Multiset.sum_cons]
    exact (UInt64.ofNat_add _ _).symm

theorem sum_map_filterMap {α β : Type} (f : α → Option β) (share : β → Nat) (l : Multiset α) :
    (l.map fun a => (f a).elim 0 share).sum = ((l.filterMap f).map share).sum := by
  induction l using Multiset.induction with
  | empty => rfl
  | cons a rest ih =>
    rw [Multiset.map_cons, Multiset.sum_cons, ih, Multiset.filterMap_cons]
    rcases f a with _ | b <;> simp

/-! ## The counters of a run -/

namespace Ledger

variable {setup : Setup} {items : List Item} {s : State} {done lost : Multiset Item}

theorem matchCount_eq (hl : Ledger setup items s done lost) :
    s.stats.matchCount =
      (s.collection.results.map fun r : FileResult => r.found.length).sum.toUInt64 := by
  rw [hl.stats, count_sum_tally Stats.matchCount rfl (fun _ _ => rfl)
    (fun item => (item.fate setup.examine).matchCount_eq), sum_map_filterMap, ← hl.results]
  rfl

theorem matchedFiles_eq (hl : Ledger setup items s done lost) :
    s.stats.matchedFiles = s.collection.results.length.toUInt64 := by
  rw [hl.stats, count_sum_tally Stats.matchedFiles rfl (fun _ _ => rfl)
    (fun item => (item.fate setup.examine).matchedFiles_eq), sum_map_filterMap, ← hl.results]
  simp

theorem warnings_eq (hl : Ledger setup items s done lost) :
    s.stats.warnings = s.collection.warnings.length.toUInt64 := by
  rw [hl.stats, count_sum_tally Stats.warnings rfl (fun _ _ => rfl)
    (fun item => (item.fate setup.examine).warnings_eq), sum_map_filterMap, ← hl.warnings]
  simp

/-- The three accounts of the items done. -/
theorem accounts (hl : Ledger setup items s done lost) :
    ∃ files binarySkipped warnings : Nat, files + binarySkipped + warnings = done.card ∧
      s.stats.files = files.toUInt64 ∧ s.stats.binarySkipped = binarySkipped.toUInt64 ∧
      s.stats.warnings = warnings.toUInt64 := by
  have count (counter : Stats → UInt64) (zero : counter 0 = 0)
      (add : ∀ s t, counter (s + t) = counter s + counter t) :
      counter s.stats =
        (done.map fun item => (counter (item.tally setup.examine)).toNat).sum.toUInt64 := by
    rw [hl.stats]
    exact count_sum_tally counter zero add (fun _ => UInt64.ofNat_toNat.symm) done
  refine ⟨_, _, _, ?_, count Stats.files rfl fun _ _ => rfl,
    count Stats.binarySkipped rfl fun _ _ => rfl, count Stats.warnings rfl fun _ _ => rfl⟩
  rw [← Multiset.sum_map_add, ← Multiset.sum_map_add]
  simp only [(Item.fate setup.examine _).accounts_eq_one]
  simp

/-- Together, the three accounts count the items done; none of them is too large for a counter
unless the number of items is. -/
theorem accounts_eq_card (hl : Ledger setup items s done lost) :
    s.stats.files + s.stats.binarySkipped + s.stats.warnings = done.card.toUInt64 ∧
      (done.card < UInt64.size →
        s.stats.files.toNat + s.stats.binarySkipped.toNat + s.stats.warnings.toNat = done.card) := by
  obtain ⟨files, binarySkipped, warnings, all, hf, hb, hw⟩ := hl.accounts
  rw [hf, hb, hw, ← all]
  refine ⟨by simp only [Nat.toUInt64_eq, UInt64.ofNat_add], fun small => ?_⟩
  have toNat_eq (n : Nat) (le : n ≤ files + binarySkipped + warnings) : n.toUInt64.toNat = n :=
    UInt64.toNat_ofNat_of_lt' (by omega)
  rw [toNat_eq files (by omega), toNat_eq binarySkipped (by omega), toNat_eq warnings (by omega)]

end Ledger

/-- The counters agree with the output, whatever the deadline and the order of the steps; if the
output is not marked, each item is in one of the three accounts. -/
theorem counters_agree {workers : Nat} {sorted : Bool} {deadline : Deadline} {items : List Item}
    {s : State} (manned : 1 ≤ workers)
    (hs : Reachable (Pool.setup examine workers deadline)
      (.start workers sorted (deadline == .past) items) s) (ends : s.isDone) :
    s.output.nresults = (s.output.results.map (·.found.length)).sum ∧
      s.output.stats.matchCount = s.output.nresults.toUInt64 ∧
      s.output.stats.matchedFiles = s.output.results.length.toUInt64 ∧
      s.output.stats.warnings = s.output.warnings.length.toUInt64 ∧
      (s.output.timedOut = false →
        s.output.stats.files + s.output.stats.binarySkipped + s.output.stats.warnings =
          items.length.toUInt64 ∧
        (items.length < UInt64.size →
          s.output.stats.files.toNat + s.output.stats.binarySkipped.toNat +
            s.output.stats.warnings.toNat = items.length)) := by
  obtain ⟨he, done, lost, hl⟩ := hs.accounted manned
  have results : s.output.results.Perm s.collection.results :=
    Multiset.coe_eq_coe.1 (s.collection.coe_results_output s.stats)
  have warnings : s.output.warnings.Perm s.collection.warnings :=
    Multiset.coe_eq_coe.1 (s.collection.coe_warnings_output s.stats)
  have stats : s.output.stats = s.stats := s.collection.stats_output s.stats
  have nresults : s.output.nresults = (s.output.results.map (·.found.length)).sum :=
    s.collection.nresults_output s.stats
  refine ⟨nresults, ?_, ?_, ?_, fun unmarked => ?_⟩
  · rw [stats, hl.matchCount_eq, nresults, (results.map _).sum_eq]
  · rw [stats, hl.matchedFiles_eq, results.length_eq]
  · rw [stats, hl.warnings_eq, warnings.length_eq]
  · have early : s.collection.timedOut = false := by
      rw [← unmarked]
      exact (s.collection.timedOut_output s.stats).symm
    obtain rfl := hl.done_eq he ends early
    rw [stats, ← Multiset.coe_card]
    exact hl.accounts_eq_card

/-- Two workers with a deadline that does not pass, and an item for each fate: a file with two
matches, one without, a binary one, one that cannot be read, and a path passed over. -/
theorem counters_agree_each_fate :
    let examine : Path → Except SearchError Examination := fun path =>
      if path = "a".toUTF8 then
        .ok (.searched false ⟨#[.new 0 "x".toUTF8, .new 4 "x".toUTF8], false, 7⟩)
      else if path = "b".toUTF8 then .ok (.searched false ⟨#[], false, 3⟩)
      else if path = "c".toUTF8 then .ok .leftOut
      else .error (.permissionDenied path)
    let items : List Item :=
      [.file "a".toUTF8, .file "b".toUTF8, .file "c".toUTF8, .file "d".toUTF8,
        .skipped ⟨none, "a loop of links"⟩]
    let s := (State.start 2 false false items).runFor (Pool.setup examine 2 .far) 40
    1 ≤ 2 ∧ Reachable (Pool.setup examine 2 .far) (.start 2 false false items) s ∧ s.isDone ∧
      s.output.timedOut = false ∧ items.length < UInt64.size ∧
      s.output.stats = ⟨10, 2, 2, 1, 1, 2⟩ ∧
      s.output.nresults = (s.output.results.map (·.found.length)).sum ∧
      s.output.stats.matchCount = s.output.nresults.toUInt64 ∧
      s.output.stats.matchedFiles = s.output.results.length.toUInt64 ∧
      s.output.stats.warnings = s.output.warnings.length.toUInt64 ∧
      s.output.stats.files + s.output.stats.binarySkipped + s.output.stats.warnings =
        items.length.toUInt64 ∧
      s.output.stats.files.toNat + s.output.stats.binarySkipped.toNat +
        s.output.stats.warnings.toNat = items.length := by
  intro examine items s
  have hs : Reachable (Pool.setup examine 2 .far) (.start 2 false false items) s :=
    Reachable.first.runFor 40
  have ends : s.isDone := by decide
  have unmarked : s.output.timedOut = false := by decide
  have small : items.length < UInt64.size := by decide
  obtain ⟨nresults, matchCount, matchedFiles, warnings, all⟩ :=
    counters_agree (by decide) hs ends
  exact ⟨by decide, hs, ends, unmarked, small, by decide, nresults, matchCount, matchedFiles,
    warnings, (all unmarked).1, (all unmarked).2 small⟩

end Pool

end FileSearch
