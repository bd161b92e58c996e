import FileSearch.Proofs.Pool.Ledger

/-!
# What a pool hands on

The output of a run without a deadline does not depend on the order of the steps, but for the order
of its parts: each item has been examined or noted once.  A deadline can only take
results and warnings away, and the output says so.
-/

namespace FileSearch

/-! ## The output of a collection -/

namespace Collection

variable (c : Collection) (stats : Stats)

theorem coe_results_output : ((c.output stats).results : Multiset FileResult) = c.results := by
  unfold output
  split
  · exact Multiset.coe_eq_coe.2 (List.mergeSort_perm _ _)
  · rfl

theorem coe_warnings_output :
    ((c.output stats).warnings : Multiset SkippedPath) = c.warnings := by
  unfold output
  split
  · exact Multiset.coe_eq_coe.2 (List.mergeSort_perm _ _)
  · rfl

variable {c} in
theorem results_output_eq_nil (none : c.results = []) : (c.output stats).results = [] := by
  have results := c.coe_results_output stats
  rw [none] at results
  exact (Multiset.coe_eq_zero _).1 results

variable {c} in
theorem warnings_output_eq_nil (none : c.warnings = []) : (c.output stats).warnings = [] := by
  have warnings := c.coe_warnings_output stats
  rw [none] at warnings
  exact (Multiset.coe_eq_zero _).1 warnings

theorem flags_output :
    (c.output stats).flags = if c.timedOut then Flags.timedOut else Flags.empty := by
  unfold output
  split <;> rfl

theorem timedOut_output : (c.output stats).timedOut = c.timedOut := by
  rw [Output.timedOut, flags_output]
  cases c.timedOut <;> rfl

theorem stats_output : (c.output stats).stats = stats := by
  unfold output
  split <;> rfl

/-- The number of matches is that of the results handed on. -/
theorem nresults_output :
    (c.output stats).nresults = ((c.output stats).results.map (·.found.length)).sum := by
  have same : (c.output stats).nresults = (c.results.map (·.found.length)).sum := by
    unfold output
    split <;> rfl
  rw [same]
  have perm := Multiset.coe_eq_coe.1 (c.coe_results_output stats)
  exact (perm.map _).sum_eq.symm

end Collection

namespace Pool

open Walk (Item)

variable {setup : Setup} {s s' : State} {items : List Item}

/-! ## Runs without a deadline -/

/-- Without a deadline, no time is ever over. -/
structure Untimed (s : State) : Prop where
  expired : s.expired = false
  collection : s.collection.timedOut = false

theorem Untimed.move (hu : Untimed s) (never : setup.hasDeadline = false) (m : Move setup s s') :
    Untimed s' := by
  have early : ¬ s.expired = true := by simp [hu.expired]
  cases m with
  | tick deadline => simp [never] at deadline
  | leaveItem _ _ late | leavePath _ late | workerExpires _ _ late => exact absurd late early
  | record =>
    rw [State.record_eq_settled]
    exact ⟨hu.expired, hu.collection⟩
  | _ => exact ⟨hu.expired, hu.collection⟩

theorem Reachable.untimed {workers : Nat} {sorted : Bool} (never : setup.hasDeadline = false)
    (hs : Reachable setup (.start workers sorted false items) s) : Untimed s :=
  hs.rule ⟨rfl, rfl⟩ fun _ _ hu m => hu.move never m

/-! ## The end of a run -/

/-- At the end of a run that is not marked as timed out, all items are done. -/
theorem Reachable.all_done {workers : Nat} {sorted expired : Bool} (manned : 1 ≤ workers)
    (hs : Reachable setup (.start workers sorted expired items) s) (ends : s.isDone)
    (early : s.collection.timedOut = false) : ∃ lost, Ledger setup items s items lost := by
  obtain ⟨he, done, lost, hl⟩ := hs.accounted manned
  have all := hl.done_eq he ends early
  subst all
  exact ⟨lost, hl⟩

theorem Ledger.examined_of_isDone {done lost : Multiset Item}
    (hl : Ledger setup items s done lost) (ends : s.isDone) :
    (s.examined : Multiset Path) = done.filterMap Item.file? := by
  rw [hl.examined, State.inWork, State.sum_of_isDone ends rfl, zero_add]

/-- Without a deadline, a run ends with each item examined or noted once, whatever the order of the
steps. -/
theorem output_of_isDone {examine : Path → Except SearchError Examination} {workers : Nat}
    {sorted : Bool} {items : List Item} {s : State} (manned : 1 ≤ workers)
    (hs : Reachable (Pool.setup examine workers .none) (.start workers sorted false items) s)
    (ends : s.isDone) :
    (s.examined : Multiset Path) = (items : Multiset Item).filterMap Item.file? ∧
      (s.output.results : Multiset FileResult) =
        (items : Multiset Item).filterMap (Item.result? examine) ∧
      (s.output.warnings : Multiset SkippedPath) =
        (items : Multiset Item).filterMap (Item.warning? examine) ∧
      (∀ r ∈ s.output.results, r.found ≠ []) ∧
      s.output.nresults = (s.output.results.map (·.found.length)).sum ∧
      s.output.flags = .empty := by
  have untimed := hs.untimed rfl
  obtain ⟨lost, hl⟩ := hs.all_done manned ends untimed.collection
  have results : (s.output.results : Multiset FileResult) =
      (items : Multiset Item).filterMap (Item.result? examine) := by
    rw [State.output, Collection.coe_results_output, hl.results]
    rfl
  refine ⟨hl.examined_of_isDone ends, results, ?_, ?_, Collection.nresults_output _ _, ?_⟩
  · rw [State.output, Collection.coe_warnings_output, hl.warnings]
    rfl
  · intro r hr
    rw [← Multiset.mem_coe, results, Multiset.mem_filterMap] at hr
    obtain ⟨item, -, result⟩ := hr
    exact Item.found_ne_nil result
  · rw [State.output, Collection.flags_output, untimed.collection]
    rfl

/-- Two workers with a file that has a match, one that cannot be read, and a path passed over. -/
theorem output_of_isDone_two_workers :
    let examine : Path → Except SearchError Examination := fun path =>
      if path = "a".toUTF8 then .ok (.searched false ⟨#[.new 0 "x".toUTF8], false, 1⟩)
      else .error (.permissionDenied path)
    let items : List Item :=
      [.file "a".toUTF8, .skipped ⟨none, "a loop of links"⟩, .file "b".toUTF8]
    let s := (State.start 2 true false items).runFor (Pool.setup examine 2 .none) 25
    1 ≤ 2 ∧ Reachable (Pool.setup examine 2 .none) (.start 2 true false items) s ∧ s.isDone ∧
      (s.examined : Multiset Path) = (items : Multiset Item).filterMap Item.file? ∧
      (s.output.results : Multiset FileResult) =
        (items : Multiset Item).filterMap (Item.result? examine) ∧
      (s.output.warnings : Multiset SkippedPath) =
        (items : Multiset Item).filterMap (Item.warning? examine) ∧
      (∀ r ∈ s.output.results, r.found ≠ []) ∧
      s.output.nresults = (s.output.results.map (·.found.length)).sum ∧
      s.output.flags = .empty := by
  intro examine items s
  have manned : 1 ≤ 2 := by decide
  have hs : Reachable (Pool.setup examine 2 .none) (.start 2 true false items) s :=
    Reachable.first.runFor 25
  have ends : s.isDone := by decide
  exact ⟨manned, hs, ends, output_of_isDone manned hs ends⟩

/-! ## Runs that begin too late -/

/-- After the deadline, nothing is taken up. -/
structure Overdue (s : State) : Prop where
  expired : s.expired = true
  feeder : ∀ path, s.feeder ≠ .sending path
  workers : ∀ w ∈ s.workers, w = .idle ∨ w = .done ∧ s.collection.timedOut = true
  results : s.collection.results = []
  warnings : s.collection.warnings = []
  stats : s.stats = {}

namespace Overdue

theorem start (workers : Nat) (sorted : Bool) (items : List Item) :
    Overdue (.start workers sorted true items) where
  expired := rfl
  feeder _ := nofun
  workers _ hw := .inl (List.eq_of_mem_replicate hw)
  results := rfl
  warnings := rfl
  stats := rfl

/-- A worker that is not at its end is about to look at the clock. -/
theorem eq_idle (ho : Overdue s) {i : Nat} {w : Worker} (worker : s.workers[i]? = some w)
    (busy : w ≠ .done) : w = .idle :=
  (ho.workers w (List.mem_of_getElem? worker)).resolve_right fun h => busy h.1

theorem move (ho : Overdue s) (m : Move setup s s') : Overdue s' := by
  have late : s.expired ≠ false := by simp [ho.expired]
  -- Only three moves are left: the clock, an end of the feeder, and an end of an idle worker.
  cases m with
  | tick => exact ⟨rfl, ho.feeder, ho.workers, ho.results, ho.warnings, ho.stats⟩
  | walkEnds => exact ⟨ho.expired, fun _ => nofun, ho.workers, ho.results, ho.warnings, ho.stats⟩
  | leaveItem =>
    refine ⟨ho.expired, fun _ => nofun, fun w hw => ?_, ho.results, ho.warnings, ho.stats⟩
    exact (ho.workers w hw).imp_right fun h => ⟨h.1, rfl⟩
  | workerExpires =>
    refine ⟨ho.expired, ho.feeder, fun w hw => ?_, ho.results, ho.warnings, ho.stats⟩
    rcases List.mem_or_eq_of_mem_set hw with old | rfl
    · exact (ho.workers w old).imp_right fun h => ⟨h.1, rfl⟩
    · exact .inr ⟨rfl, rfl⟩
  | takeFile _ _ early | takeSkipped _ _ early | wait _ early | examine _ early =>
    exact absurd early late
  | closed feeder | send feeder | leavePath feeder => exact absurd feeder (ho.feeder _)
  | receive worker | workerEnds worker | record worker =>
    cases ho.eq_idle worker nofun

theorem timedOut_of_isDone (ho : Overdue s) (he : Exits s) (ends : s.isDone) :
    s.collection.timedOut = true := by
  obtain ⟨w, hw⟩ := List.exists_mem_of_ne_nil _ he.manned
  rcases ho.workers w hw with idle | ⟨-, timedOut⟩
  · rw [State.workers_of_isDone ends w hw] at idle
    cases idle
  · exact timedOut

end Overdue

/-! ## Runs with a deadline -/

/-- A deadline only takes results and warnings away, and if it takes any, or any item is left, the
output is marked; a run that begins after the deadline has found and counted nothing. -/
theorem output_of_deadline {examine : Path → Except SearchError Examination} {workers : Nat}
    {sorted : Bool} {deadline : Deadline} {items : List Item} {s t : State} (manned : 1 ≤ workers)
    (hs : Reachable (Pool.setup examine workers deadline)
      (.start workers sorted (deadline == .past) items) s) (ends : s.isDone)
    (ht : Reachable (Pool.setup examine workers .none) (.start workers sorted false items) t)
    (others : t.isDone) :
    (s.output.results : Multiset FileResult) ≤ t.output.results ∧
      (s.output.warnings : Multiset SkippedPath) ≤ t.output.warnings ∧
      (s.output.timedOut = false →
        (s.output.results : Multiset FileResult) = t.output.results ∧
        (s.output.warnings : Multiset SkippedPath) = t.output.warnings ∧
        (s.examined : Multiset Path) = (items : Multiset Item).filterMap Item.file?) ∧
      (deadline = .past → s.output.timedOut = true ∧ s.output.results = [] ∧
        s.output.warnings = [] ∧ s.output.nresults = 0 ∧ s.output.stats = {}) := by
  obtain ⟨he, done, lost, hl⟩ := hs.accounted manned
  obtain ⟨_, whole⟩ := ht.all_done manned others (ht.untimed rfl).collection
  simp only [State.output, Collection.coe_results_output, Collection.coe_warnings_output,
    Collection.timedOut_output]
  refine ⟨?_, ?_, fun early => ?_, ?_⟩
  · rw [hl.results, whole.results]
    exact Multiset.filterMap_le_filterMap _ hl.done_le
  · rw [hl.warnings, whole.warnings]
    exact Multiset.filterMap_le_filterMap _ hl.done_le
  · obtain rfl := hl.done_eq he ends early
    refine ⟨?_, ?_, hl.examined_of_isDone ends⟩
    · rw [hl.results, whole.results]
      rfl
    · rw [hl.warnings, whole.warnings]
      rfl
  · rintro rfl
    have ho : Overdue s := hs.rule (.start workers sorted items) fun _ _ ho m => ho.move m
    have results := Collection.results_output_eq_nil s.stats ho.results
    refine ⟨ho.timedOut_of_isDone he ends, results,
      Collection.warnings_output_eq_nil s.stats ho.warnings, ?_, ?_⟩
    · rw [Collection.nresults_output, results]
      rfl
    · rw [Collection.stats_output, ho.stats]

/-- The deadline passes when the only worker has searched the first of two files. -/
theorem output_of_deadline_one_worker :
    let examine : Path → Except SearchError Examination := fun path =>
      .ok (.searched false ⟨#[.new 0 path], false, 1⟩)
    let items : List Item := [.file "a".toUTF8, .file "b".toUTF8]
    let first := State.start 1 true false items
    let midway := first.runFor (Pool.setup examine 1 .far) 9
    let s := { midway with expired := true }.runFor (Pool.setup examine 1 .far) 9
    let t := first.runFor (Pool.setup examine 1 .none) 20
    1 ≤ 1 ∧ Reachable (Pool.setup examine 1 .far) first s ∧ s.isDone ∧
      Reachable (Pool.setup examine 1 .none) first t ∧ t.isDone ∧
      (s.output.results : Multiset FileResult) ≤ t.output.results ∧
      (s.output.warnings : Multiset SkippedPath) ≤ t.output.warnings ∧
      (s.output.timedOut = false →
        (s.output.results : Multiset FileResult) = t.output.results ∧
        (s.output.warnings : Multiset SkippedPath) = t.output.warnings ∧
        (s.examined : Multiset Path) = (items : Multiset Item).filterMap Item.file?) ∧
      (Deadline.far = .past → s.output.timedOut = true ∧ s.output.results = [] ∧
        s.output.warnings = [] ∧ s.output.nresults = 0 ∧ s.output.stats = {}) := by
  intro examine items first midway s t
  have manned : 1 ≤ 1 := by decide
  have hs : Reachable (Pool.setup examine 1 .far) first s :=
    ((Reachable.first.runFor 9).tick rfl).runFor 9
  have ends : s.isDone := by decide
  have ht : Reachable (Pool.setup examine 1 .none) first t := Reachable.first.runFor 20
  have others : t.isDone := by decide
  exact ⟨manned, hs, ends, ht, others, output_of_deadline manned hs ends ht others⟩

end Pool

end FileSearch
