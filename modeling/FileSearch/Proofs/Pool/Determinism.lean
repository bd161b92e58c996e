import FileSearch.Proofs.Pool.Outcome
import FileSearch.Proofs.Result.Sorted

/-!
# Sorted outputs do not depend on the schedule

All runs over the same items gather the same results, warnings and counts, in whatever order the
walk yields the items, however many workers there are and whoever takes the next step
(`Ledger.results_perm`, `Ledger.warnings_perm`, `Ledger.stats_eq`), so that outputs are the same up
to order (`Yields.sameUpToOrder`).  If the output is sorted and no file comes twice, nothing of that
order is left in it.
-/

namespace FileSearch

/-- Whether outputs are equal but for the order of their results and warnings. -/
structure Output.SameUpToOrder (o o' : Output) : Prop where
  nresults : o.nresults = o'.nresults
  results : o.results.Perm o'.results
  flags : o.flags = o'.flags
  warnings : o.warnings.Perm o'.warnings
  stats : o.stats = o'.stats

theorem Output.SameUpToOrder.refl (o : Output) : o.SameUpToOrder o :=
  ⟨rfl, .rfl, rfl, .rfl, rfl⟩

/-- Collections of the same results and warnings have outputs that are the same up to order. -/
theorem Collection.sameUpToOrder_output {c c' : Collection} (stats : Stats)
    (results : c.results.Perm c'.results) (warnings : c.warnings.Perm c'.warnings)
    (timedOut : c.timedOut = c'.timedOut) :
    (c.output stats).SameUpToOrder (c'.output stats) := by
  have given : (c.output stats).results.Perm (c'.output stats).results := by
    rw [← Multiset.coe_eq_coe, coe_results_output, coe_results_output]
    exact Multiset.coe_eq_coe.2 results
  refine ⟨?_, given, ?_, ?_, ?_⟩
  · rw [nresults_output, nresults_output]
    exact (given.map _).sum_eq
  · rw [flags_output, flags_output, timedOut]
  · rw [← Multiset.coe_eq_coe, coe_warnings_output, coe_warnings_output]
    exact Multiset.coe_eq_coe.2 warnings
  · rw [stats_output, stats_output]

namespace Walk.Item

variable {examine : Path → Except SearchError Examination} {item : Item} {r : FileResult}

theorem file?_of_result? (result : item.result? examine = some r) :
    item.file? = some r.file.path := by
  unfold result? at result
  split at result
  · split at result
    · obtain ⟨_, _, -, file, -⟩ := Examination.result?_eq_some result
      rw [file]
      rfl
    · cases result
  · cases result

/-- The files with a result are among the files, in the same order. -/
theorem paths_sublist (examine : Path → Except SearchError Examination) (items : List Item) :
    ((items.filterMap (result? examine)).map (·.file.path)).Sublist (items.filterMap file?) := by
  induction items with
  | nil => exact .slnil
  | cons item rest ih =>
    rcases result : item.result? examine with _ | r
    · rw [List.filterMap_cons_none result]
      exact ih.trans ((List.sublist_cons_self item rest).filterMap file?)
    · rw [List.filterMap_cons_some result, List.filterMap_cons_some (file?_of_result? result)]
      exact ih.cons_cons r.file.path

end Walk.Item

namespace Pool

open Walk (Item)

variable {setup : Setup} {s s' t : State} {items items' : List Item}

/-! ## What a run has gathered -/

theorem Move.sorted_eq (m : Move setup s s') : s'.collection.sorted = s.collection.sorted := by
  cases m with
  | record =>
    rw [State.record_eq_settled]
    rfl
  | _ => rfl

theorem Reachable.sorted_eq {workers : Nat} {sorted expired : Bool}
    (hs : Reachable setup (.start workers sorted expired items) s) : s.collection.sorted = sorted :=
  hs.rule (P := fun s => s.collection.sorted = sorted) rfl fun _ _ h m => m.sorted_eq.trans h

namespace Ledger

variable {lost lost' : Multiset Item}

/-- The results of a run in which all items are done. -/
theorem results_perm (hl : Ledger setup items s items lost) :
    s.collection.results.Perm (items.filterMap (Item.result? setup.examine)) :=
  Multiset.coe_eq_coe.1 hl.results

theorem warnings_perm (hl : Ledger setup items s items lost) :
    s.collection.warnings.Perm (items.filterMap (Item.warning? setup.examine)) :=
  Multiset.coe_eq_coe.1 hl.warnings

/-- Runs over permuted items have counted the same. -/
theorem stats_eq {setup' : Setup} (hl : Ledger setup items s items lost)
    (hl' : Ledger setup' items' t items' lost') (examine : setup.examine = setup'.examine)
    (perm : items.Perm items') : s.stats = t.stats := by
  rw [hl.stats, hl'.stats, examine, Multiset.coe_eq_coe.2 perm]

/-- No two results have one path if no two files have. -/
theorem nodup_paths (hl : Ledger setup items s items lost)
    (distinct : (items.filterMap Item.file?).Nodup) :
    (s.collection.results.map (·.file.path)).Nodup := by
  rw [(hl.results_perm.map _).nodup_iff]
  exact (Item.paths_sublist setup.examine items).nodup distinct

end Ledger

/-! ## Two runs -/

/-- Without a deadline, the outputs of two runs over the same items are the same up to order. -/
theorem Yields.sameUpToOrder {examine : Path → Except SearchError Examination}
    {workers workers' : Nat} {sorted sorted' : Bool} {o o' : Output} (manned : 1 ≤ workers)
    (manned' : 1 ≤ workers') (h : Yields examine workers sorted .none items o)
    (h' : Yields examine workers' sorted' .none items o') : o.SameUpToOrder o' := by
  obtain ⟨s, hs, ends, rfl⟩ := h
  obtain ⟨t, ht, others, rfl⟩ := h'
  have early := (hs.untimed rfl).collection
  have early' := (ht.untimed rfl).collection
  obtain ⟨_, hl⟩ := hs.all_done manned ends early
  obtain ⟨_, hl'⟩ := ht.all_done manned' others early'
  rw [State.output, State.output, hl.stats_eq hl' rfl .rfl]
  exact Collection.sameUpToOrder_output t.stats (hl.results_perm.trans hl'.results_perm.symm)
    (hl.warnings_perm.trans hl'.warnings_perm.symm) (early.trans early'.symm)

/-- Without a deadline, sorted outputs of two runs over the same files and skipped paths are equal,
and sorted: in the order of the bytes of the paths, and for the warnings also of the reasons. -/
theorem sorted_output_eq {examine : Path → Except SearchError Examination} {workers workers' : Nat}
    {items items' : List Item} {s t : State} (manned : 1 ≤ workers) (manned' : 1 ≤ workers')
    (perm : items.Perm items') (distinct : (items.filterMap Item.file?).Nodup)
    (hs : Reachable (Pool.setup examine workers .none) (.start workers true false items) s)
    (ends : s.isDone)
    (ht : Reachable (Pool.setup examine workers' .none) (.start workers' true false items') t)
    (others : t.isDone) :
    s.output = t.output ∧
      (s.output.results.map (·.file.path.data.toList)).Pairwise (· < ·) ∧
      s.output.warnings.Pairwise SkippedPath.Precedes := by
  have early := (hs.untimed rfl).collection
  have early' := (ht.untimed rfl).collection
  obtain ⟨_, hl⟩ := hs.all_done manned ends early
  obtain ⟨_, hl'⟩ := ht.all_done manned' others early'
  have nodup := hl.nodup_paths distinct
  refine ⟨?_, Collection.pairwise_results_output hs.sorted_eq nodup,
    Collection.pairwise_warnings_output hs.sorted_eq⟩
  rw [State.output, State.output, hl.stats_eq hl' rfl perm]
  refine Collection.output_eq_of_perm hs.sorted_eq ht.sorted_eq ?_ nodup ?_
    (early.trans early'.symm)
  · exact hl.results_perm.trans ((perm.filterMap _).trans hl'.results_perm.symm)
  · exact hl.warnings_perm.trans ((perm.filterMap _).trans hl'.warnings_perm.symm)

/-- One worker and two workers, to whom the items come in opposite order: two files with matches,
one that cannot be read and is also passed over for another reason, and two failures without a
path. -/
theorem sorted_output_eq_one_and_two_workers :
    let examine : Path → Except SearchError Examination := fun path =>
      if path = "c".toUTF8 then .error (.permissionDenied path)
      else .ok (.searched false ⟨#[.new 0 path], false, 1⟩)
    let items : List Item :=
      [.file "b".toUTF8, .skipped ⟨some "c".toUTF8, "gone"⟩, .skipped ⟨none, "y"⟩,
        .file "a".toUTF8, .file "c".toUTF8, .skipped ⟨none, "x"⟩]
    let s := (State.start 1 true false items).runFor (Pool.setup examine 1 .none) 40
    let t := (State.start 2 true false items.reverse).runFor (Pool.setup examine 2 .none) 40
    1 ≤ 1 ∧ 1 ≤ 2 ∧ items.Perm items.reverse ∧ (items.filterMap Item.file?).Nodup ∧
      Reachable (Pool.setup examine 1 .none) (.start 1 true false items) s ∧ s.isDone ∧
      Reachable (Pool.setup examine 2 .none) (.start 2 true false items.reverse) t ∧ t.isDone ∧
      s.output = t.output ∧
      (s.output.results.map (·.file.path.data.toList)).Pairwise (· < ·) ∧
      s.output.warnings.Pairwise SkippedPath.Precedes := by
  intro examine items s t
  have perm : items.Perm items.reverse := items.reverse_perm.symm
  have distinct : (items.filterMap Item.file?).Nodup := by decide
  have hs : Reachable (Pool.setup examine 1 .none) (.start 1 true false items) s :=
    Reachable.first.runFor 40
  have ends : s.isDone := by decide
  have ht : Reachable (Pool.setup examine 2 .none) (.start 2 true false items.reverse) t :=
    Reachable.first.runFor 40
  have others : t.isDone := by decide
  exact ⟨by decide, by decide, perm, distinct, hs, ends, ht, others,
    sorted_output_eq (by decide) (by decide) perm distinct hs ends ht others⟩

end Pool

end FileSearch
