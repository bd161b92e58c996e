import FileSearch.Proofs.Files.Resolve

/-!
# Walks from several roots

A walk from several roots yields what walks from each root yield, one after another, but for the
files that have come before (`Walker.items_eq_withoutRepeats`).  The keys that a walk has seen are
those of the items so far (`Walker.dropSeen_eq`).  A walk from one root that does not follow links
keeps no keys; it yields paths that are their own keys, and each of them once
(`Walker.key_of_mem_rootItems`, `Walker.nodup_keys_rootItems`).
-/

namespace FileSearch.Walk

/-- The path that an item passes over. -/
def Item.skipped? : Item → Option SkippedPath
  | .file _ => none
  | .skipped s => some s

namespace Walker

variable {w : Walker} {before before' mid items : List Item} {item : Item} {k path : Path}

/-! ## Sequences without repetitions -/

/-- The path by which an item is known, if it is a file: the canonical one, if there is one. -/
def key? (w : Walker) : Item → Option Path
  | .file path => some (w.key path)
  | .skipped _ => none

/-- The paths by which the files among some items are known. -/
def keys (w : Walker) (items : List Item) : List Path := items.filterMap w.key?

/-- Whether an item is a file that is known by the path of an earlier one. -/
def repeats (w : Walker) (before : List Item) : Item → Bool
  | .file path => (w.keys before).contains (w.key path)
  | .skipped _ => false

/-- Some items without those that repeat an earlier one, or one of those in front of them all. -/
def withoutRepeats (w : Walker) (before : List Item) : List Item → List Item
  | [] => []
  | item :: rest =>
    if w.repeats before item then w.withoutRepeats (before ++ [item]) rest
    else item :: w.withoutRepeats (before ++ [item]) rest

theorem repeats_iff : w.repeats before item ↔ ∃ k, w.key? item = some k ∧ k ∈ w.keys before := by
  cases item <;> simp [repeats, key?, keys]

theorem keys_append : w.keys (before ++ items) = w.keys before ++ w.keys items :=
  List.filterMap_append

theorem mem_keys_concat :
    k ∈ w.keys (before ++ [item]) ↔ k ∈ w.keys before ∨ w.key? item = some k := by
  rw [keys_append, List.mem_append]
  simp [keys]

/-- A repetition adds no key. -/
theorem mem_keys_concat_of_repeats (again : w.repeats before item) :
    k ∈ w.keys (before ++ [item]) ↔ k ∈ w.keys before := by
  obtain ⟨k', key, mem⟩ := repeats_iff.1 again
  rw [mem_keys_concat, key, Option.some.injEq, or_iff_left_iff_imp]
  rintro rfl
  exact mem

/-- What is no repetition adds no key for the second time. -/
theorem nodup_keys_concat (distinct : (w.keys before).Nodup)
    (fresh : ¬ w.repeats before item = true) : (w.keys (before ++ [item])).Nodup := by
  rw [repeats_iff] at fresh
  rw [keys_append]
  rcases key : w.key? item with _ | k
  · simpa [keys, key] using distinct
  · have new : k ∉ w.keys before := fun mem => fresh ⟨k, key, mem⟩
    rw [keys, keys, List.filterMap_cons_some key, List.filterMap_nil, ← List.concat_eq_append]
    exact (List.nodup_concat _ _).2 ⟨new, distinct⟩

/-- Only the keys of the items in front count. -/
theorem withoutRepeats_congr (same : ∀ k, k ∈ w.keys before ↔ k ∈ w.keys before') :
    w.withoutRepeats before items = w.withoutRepeats before' items := by
  induction items generalizing before before' with
  | nil => rfl
  | cons item rest ih =>
    have repeats : w.repeats before item = w.repeats before' item :=
      Bool.eq_iff_iff.2 (by simp only [repeats_iff, same])
    have later :
        w.withoutRepeats (before ++ [item]) rest = w.withoutRepeats (before' ++ [item]) rest :=
      ih fun k => by rw [mem_keys_concat, mem_keys_concat, same]
    rw [withoutRepeats, withoutRepeats, repeats, later]

theorem withoutRepeats_concat (again : w.repeats before item) :
    w.withoutRepeats (before ++ [item]) items = w.withoutRepeats before items :=
  withoutRepeats_congr fun _ => mem_keys_concat_of_repeats again

theorem withoutRepeats_append (items' : List Item) : w.withoutRepeats before (items ++ items') =
    w.withoutRepeats before items ++ w.withoutRepeats (before ++ items) items' := by
  induction items generalizing before with
  | nil => simp [withoutRepeats]
  | cons item rest ih =>
    rw [List.cons_append, withoutRepeats, withoutRepeats, ih, List.append_assoc]
    split <;> rfl

/-- Repetitions may be dropped from a part of a sequence beforehand. -/
theorem withoutRepeats_withoutRepeats (known : ∀ k ∈ w.keys mid, k ∈ w.keys before) :
    w.withoutRepeats before (w.withoutRepeats mid items) = w.withoutRepeats before items := by
  induction items generalizing before mid with
  | nil => rfl
  | cons item rest ih =>
    have known' : ∀ k ∈ w.keys (mid ++ [item]), k ∈ w.keys (before ++ [item]) := fun k hk =>
      mem_keys_concat.2 ((mem_keys_concat.1 hk).imp_left (known k))
    rw [withoutRepeats]
    split
    · rename_i again
      obtain ⟨k, key, mem⟩ := repeats_iff.1 again
      have again' : w.repeats before item := repeats_iff.2 ⟨k, key, known k mem⟩
      rw [withoutRepeats_concat again, ih known, withoutRepeats, if_pos again',
        withoutRepeats_concat again']
    · rw [withoutRepeats, withoutRepeats, ih known']

/-- All keys are kept. -/
theorem mem_keys_append_withoutRepeats :
    k ∈ w.keys (before ++ w.withoutRepeats before items) ↔ k ∈ w.keys (before ++ items) := by
  induction items generalizing before with
  | nil => rfl
  | cons item rest ih =>
    rw [List.append_cons before item rest, ← ih, withoutRepeats]
    split
    · rename_i again
      rw [keys_append, keys_append, List.mem_append, List.mem_append,
        mem_keys_concat_of_repeats again]
    · rw [List.append_cons]

theorem mem_keys_withoutRepeats : k ∈ w.keys (w.withoutRepeats [] items) ↔ k ∈ w.keys items := by
  have kept : k ∈ w.keys ([] ++ w.withoutRepeats [] items) ↔ k ∈ w.keys ([] ++ items) :=
    mem_keys_append_withoutRepeats
  exact kept

theorem withoutRepeats_flatMap (f : Path → List Item) (roots : List Path) :
    w.withoutRepeats before (roots.flatMap fun root => w.withoutRepeats [] (f root)) =
      w.withoutRepeats before (roots.flatMap f) := by
  induction roots generalizing before with
  | nil => rfl
  | cons root rest ih =>
    have first : w.withoutRepeats before (w.withoutRepeats [] (f root)) =
        w.withoutRepeats before (f root) := withoutRepeats_withoutRepeats nofun
    have same (k : Path) :
        k ∈ w.keys (before ++ w.withoutRepeats [] (f root)) ↔ k ∈ w.keys (before ++ f root) := by
      rw [keys_append, keys_append, List.mem_append, List.mem_append, mem_keys_withoutRepeats]
    rw [List.flatMap_cons, List.flatMap_cons, withoutRepeats_append, withoutRepeats_append, first,
      ih, withoutRepeats_congr same]

/-- What repeats nothing is kept as it is. -/
theorem withoutRepeats_eq_self (distinct : (w.keys (before ++ items)).Nodup) :
    w.withoutRepeats before items = items := by
  induction items generalizing before with
  | nil => rfl
  | cons item rest ih =>
    have fresh : ¬ w.repeats before item = true := by
      rw [repeats_iff]
      rintro ⟨k, key, mem⟩
      rw [keys_append, List.nodup_append] at distinct
      exact distinct.2.2 k mem k (by simp [keys, key]) rfl
    rw [List.append_cons] at distinct
    rw [withoutRepeats, if_neg fresh, ih distinct]

theorem withoutRepeats_sublist : (w.withoutRepeats before items).Sublist items := by
  induction items generalizing before with
  | nil => exact .slnil
  | cons item rest ih =>
    rw [withoutRepeats]
    split
    · exact ih.cons item
    · exact ih.cons_cons item

/-- No two files that are left are known by one path. -/
theorem nodup_keys_withoutRepeats (distinct : (w.keys before).Nodup) :
    (w.keys (before ++ w.withoutRepeats before items)).Nodup := by
  induction items generalizing before with
  | nil => simpa [withoutRepeats] using distinct
  | cons item rest ih =>
    rw [withoutRepeats]
    split
    · rename_i again
      rw [withoutRepeats_concat again]
      exact ih distinct
    · rename_i fresh
      rw [List.append_cons]
      exact ih (nodup_keys_concat distinct fresh)

/-- What is passed over is never dropped. -/
theorem filterMap_skipped?_withoutRepeats :
    (w.withoutRepeats before items).filterMap Item.skipped? = items.filterMap Item.skipped? := by
  induction items generalizing before with
  | nil => rfl
  | cons item rest ih =>
    rw [withoutRepeats]
    cases item with
    | file path =>
      split
      · rw [ih]
        rfl
      · rw [List.filterMap_cons_none rfl, List.filterMap_cons_none rfl, ih]
    | skipped s =>
      have fresh : ¬ w.repeats before (.skipped s) = true := Bool.false_ne_true
      have kept : Item.skipped? (.skipped s) = some s := rfl
      rw [if_neg fresh, List.filterMap_cons_some kept, List.filterMap_cons_some kept,
        ih]

/-! ## The keys that a walk has seen -/

/-- Dropping files by the keys seen drops the repetitions. -/
theorem dropSeen_eq (items : List Item) {seen : List Path}
    (shows : ∀ k, k ∈ seen ↔ k ∈ w.keys before) :
    (w.dropSeen seen items).1 = w.withoutRepeats before items ∧
      ∀ k, k ∈ (w.dropSeen seen items).2 ↔ k ∈ w.keys (before ++ items) := by
  induction items generalizing before seen with
  | nil => simpa [dropSeen, withoutRepeats] using shows
  | cons item rest ih =>
    rw [List.append_cons, withoutRepeats]
    cases item with
    | skipped s =>
      have shows' : ∀ k, k ∈ seen ↔ k ∈ w.keys (before ++ [.skipped s]) := by
        simpa [mem_keys_concat, key?] using shows
      obtain ⟨kept, seen'⟩ := ih shows'
      exact ⟨by simp [dropSeen, kept, repeats], seen'⟩
    | file path =>
      rw [dropSeen]
      by_cases known : w.key path ∈ seen
      · have again : w.repeats before (.file path) := by simpa [repeats, ← shows] using known
        have shows' : ∀ k, k ∈ seen ↔ k ∈ w.keys (before ++ [.file path]) := by
          intro k
          rw [mem_keys_concat_of_repeats again, shows]
        rw [if_pos again]
        simpa [known] using ih shows'
      · have fresh : ¬ w.repeats before (.file path) = true := by
          simpa [repeats, ← shows] using known
        have shows' : ∀ k, k ∈ w.key path :: seen ↔ k ∈ w.keys (before ++ [.file path]) := by
          intro k
          rw [mem_keys_concat, List.mem_cons, shows, or_comm, key?, Option.some.injEq, eq_comm]
        obtain ⟨kept, seen'⟩ := ih shows'
        rw [if_neg fresh]
        simpa [known, kept] using seen'

theorem freshItems_eq {seen : List Path} (shows : ∀ k, k ∈ seen ↔ k ∈ w.keys before)
    (roots : List Path) :
    w.freshItems seen roots = w.withoutRepeats before (roots.flatMap w.rootItems) := by
  induction roots generalizing before seen with
  | nil => rfl
  | cons root rest ih =>
    obtain ⟨kept, shows'⟩ := dropSeen_eq (w.rootItems root) shows
    rw [freshItems, List.flatMap_cons, withoutRepeats_append, ← ih shows', ← kept]

/-! ## One root, without following links -/

/-- The walk of the same files that leaves out nothing. -/
def widest (w : Walker) : Walker :=
  { fs := w.fs, options := { skipHidden := false, heedIgnoreFiles := false }, rules := ⟨[]⟩ }

theorem admits_widest {scopes : List Scope} {path relative : Path} {name : Name} {isDir : Bool} :
    w.widest.admits scopes path relative name isDir := rfl

theorem enters_widest {scopes : List Scope} {path relative : Path} {name : Name} :
    (w.widest.admits scopes path relative name true && w.widest.options.recurse) = true := rfl

mutual

/-- What a walk yields at an entry, the widest walk yields in the same order. -/
theorem entryItems_sublist (l : Listing) {scopes scopes' : List Scope} {path relative : Path}
    {name : Name} : (w.entryItems scopes path relative name l).Sublist
      (w.widest.entryItems scopes' path relative name l) := by
  match l with
  | .file =>
    rw [entryItems, entryItems, if_pos admits_widest]
    split
    · exact .refl _
    · exact List.nil_sublist _
  | .other => exact .slnil
  | .failed err => exact .refl _
  | .closed err =>
    rw [entryItems, entryItems, if_pos enters_widest]
    split
    · exact .refl _
    · exact List.nil_sublist _
  | .dir entries =>
    rw [entryItems, entryItems, if_pos enters_widest]
    split
    · exact entriesItems_sublist entries
    · exact List.nil_sublist _

theorem entriesItems_sublist (entries : List (Name × Listing)) {scopes scopes' : List Scope}
    {path relative : Path} : (w.entriesItems scopes path relative entries).Sublist
      (w.widest.entriesItems scopes' path relative entries) := by
  match entries with
  | [] => exact .slnil
  | (name, l) :: rest =>
    rw [entriesItems, entriesItems]
    exact (entryItems_sublist l).append (entriesItems_sublist rest)

end

/-- What a walk yields at a root, the widest walk yields in the same order, but for errors of ignore
files. -/
theorem trailItems_sublist (links : w.options.followLinks = false) (trail : Trail) :
    ∃ errs : List WalkError,
      (w.trailItems trail).Sublist (errs.map Item.ofError ++ w.widest.trailItems trail) := by
  have listed : listing w.widest.fs w.widest.options.followLinks trail =
      listing w.fs w.options.followLinks trail := by rw [links]; rfl
  rw [trailItems, trailItems, listed]
  generalize (if w.options.heedIgnoreFiles then outerScopes w.fs trail.path else ([], none)) = outer
  have first : (outer.2.map Item.ofError).toList = outer.2.toList.map Item.ofError :=
    Option.toList_map ..
  cases listing w.fs w.options.followLinks trail with
  | file => exact ⟨[], .refl _⟩
  | other => exact ⟨[], .refl _⟩
  | failed err => exact ⟨[], .refl _⟩
  | closed err => exact ⟨outer.2.toList, first ▸ .refl _⟩
  | dir entries =>
    refine ⟨outer.2.toList, ?_⟩
    rw [← first]
    exact (List.Sublist.refl _).append (entriesItems_sublist entries)

section Root

variable {root : Path} {trail : Trail}

theorem key?_ofError (err : WalkError) : w.key? (.ofError err) = none := rfl

theorem keys_trailItems_sublist (links : w.options.followLinks = false) :
    (w.keys (w.trailItems trail)).Sublist (w.keys (w.widest.trailItems trail)) := by
  obtain ⟨errs, sub⟩ := trailItems_sublist links trail
  have none : w.keys (errs.map Item.ofError) = [] := by simp [keys, key?_ofError]
  have kept : (w.keys (w.trailItems trail)).Sublist
      (w.keys (errs.map Item.ofError ++ w.widest.trailItems trail)) := sub.filterMap _
  rwa [keys_append, none, List.nil_append] at kept

theorem file_mem_widest (links : w.options.followLinks = false)
    (mem : .file path ∈ w.trailItems trail) : .file path ∈ w.widest.trailItems trail := by
  obtain ⟨errs, sub⟩ := trailItems_sublist links trail
  rcases List.mem_append.1 (sub.subset mem) with error | file
  · obtain ⟨err, -, same⟩ := List.mem_map.1 error
    cases same
  · exact file

/-- The path of a file below a root leads from the root of the file system to the file. -/
theorem leads_of_mem_trailItems (links : w.options.followLinks = false)
    (wellNamed : w.fs.root.WellNamed) (shows : w.fs.Shows trail)
    (mem : .file path ∈ w.trailItems trail) :
    ∃ names content, w.fs.root.Leads names (.file content) ∧ path = pathBelow rootPath names := by
  have place := shows.leads
  have below := wellNamed.of_leads place
  have path_eq := Trail.path_eq (shows.names_proper wellNamed)
  obtain ⟨names, ⟨⟨content, leads⟩, -⟩, rfl⟩ :=
    (w.widest.file_mem_trailItems_iff rfl rfl below).1 (file_mem_widest links mem)
  refine ⟨trail.names ++ names, content, place.trans leads, ?_⟩
  rw [path_eq, pathBelow, pathBelow, pathBelow, List.foldl_append]

/-- A walk that follows no links yields canonical paths. -/
theorem key_of_mem_trailItems (links : w.options.followLinks = false)
    (wellNamed : w.fs.root.WellNamed) (shows : w.fs.Shows trail)
    (mem : .file path ∈ w.trailItems trail) : w.key path = path := by
  obtain ⟨names, content, leads, rfl⟩ := leads_of_mem_trailItems links wellNamed shows mem
  rw [key]
  split
  · rename_i canonical
    exact FileSystem.eq_of_canonicalize wellNamed leads (fun _ => nofun) canonical
  · rfl

/-- A walk from one root that follows no links yields no file twice. -/
theorem nodup_keys_trailItems (links : w.options.followLinks = false)
    (wellNamed : w.fs.root.WellNamed) (shows : w.fs.Shows trail) :
    (w.keys (w.trailItems trail)).Nodup := by
  refine (keys_trailItems_sublist links).nodup ?_
  have once : (w.widest.trailItems trail).Nodup :=
    nodup_trailItems rfl rfl (wellNamed.of_leads shows.leads)
  have key_eq (item : Item) (mem : item ∈ w.widest.trailItems trail) (k : Path)
      (key : w.key? item = some k) : item = .file k := by
    cases item with
    | file path =>
      have canonical : w.widest.key path = path := key_of_mem_trailItems rfl wellNamed shows mem
      rw [← Option.some.inj key]
      exact congrArg Item.file canonical.symm
    | skipped s => cases key
  refine List.pairwise_filterMap.2 (once.imp_of_mem ?_)
  rintro item item' mem mem' ne k key _ key' rfl
  exact ne ((key_eq item mem k key).trans (key_eq item' mem' k key').symm)

end Root

section Root

variable {root : Path}

theorem rootItems_of_error {err : IoError} (missing : w.fs.resolve root true = .error err) :
    w.rootItems root = [.skipped ⟨some root, err.message⟩] := by
  rw [rootItems, missing]

theorem rootItems_of_ok {trail : Trail} (resolved : w.fs.resolve root true = .ok trail) :
    w.rootItems root = w.trailItems trail := by
  rw [rootItems, resolved]

theorem key_of_mem_rootItems (links : w.options.followLinks = false)
    (wellNamed : w.fs.root.WellNamed) (mem : .file path ∈ w.rootItems root) :
    w.key path = path := by
  rcases resolved : w.fs.resolve root true with err | trail
  · rw [rootItems_of_error resolved] at mem
    cases List.mem_singleton.1 mem
  · rw [rootItems_of_ok resolved] at mem
    exact key_of_mem_trailItems links wellNamed (FileSystem.shows_of_resolve resolved) mem

theorem nodup_keys_rootItems (links : w.options.followLinks = false)
    (wellNamed : w.fs.root.WellNamed) : (w.keys (w.rootItems root)).Nodup := by
  rcases resolved : w.fs.resolve root true with err | trail
  · rw [rootItems_of_error resolved]
    exact List.nodup_nil
  · rw [rootItems_of_ok resolved]
    exact nodup_keys_trailItems links wellNamed (FileSystem.shows_of_resolve resolved)

end Root

/-! ## Several roots -/

section Roots

variable {roots roots' : List Path}

/-- With or without keys, a walk drops what it comes to twice. -/
theorem items_eq (wellNamed : w.fs.root.WellNamed) (roots : List Path) :
    w.items roots = w.withoutRepeats [] (roots.flatMap w.rootItems) := by
  by_cases needs : w.needsKeys roots = true
  · have shows (k : Path) : k ∈ [] ↔ k ∈ w.keys [] := .rfl
    rw [items, if_pos needs, freshItems_eq shows]
  · have distinct : (w.keys ([] ++ roots.flatMap w.rootItems)).Nodup := by
      simp only [needsKeys, Bool.or_eq_true, decide_eq_true_eq, not_or, Bool.not_eq_true] at needs
      obtain ⟨few, links⟩ := needs
      rcases roots with _ | ⟨root, _ | ⟨next, rest⟩⟩
      · exact List.nodup_nil
      · rw [List.nil_append, List.flatMap_singleton]
        exact nodup_keys_rootItems links wellNamed
      · simp at few
    rw [items, if_neg needs, withoutRepeats_eq_self distinct]

theorem items_singleton_eq (wellNamed : w.fs.root.WellNamed) (root : Path) :
    w.items [root] = w.withoutRepeats [] (w.rootItems root) := by
  rw [items_eq wellNamed, List.flatMap_singleton]

/-- If no links are followed, a file is yielded if it is below one of the roots. -/
theorem file_mem_items_iff (links : w.options.followLinks = false)
    (wellNamed : w.fs.root.WellNamed) :
    .file path ∈ w.items roots ↔ ∃ root ∈ roots, .file path ∈ w.rootItems root := by
  rw [items_eq wellNamed, ← List.mem_flatMap]
  have canonical (p : Path) (mem : .file p ∈ roots.flatMap w.rootItems) : w.key p = p := by
    obtain ⟨root, -, mem⟩ := List.mem_flatMap.1 mem
    exact key_of_mem_rootItems links wellNamed mem
  refine ⟨fun mem => withoutRepeats_sublist.subset mem, fun mem => ?_⟩
  have known : w.key path ∈ w.keys (roots.flatMap w.rootItems) :=
    List.mem_filterMap.2 ⟨.file path, mem, rfl⟩
  rw [← mem_keys_withoutRepeats] at known
  obtain ⟨item, kept, same⟩ := List.mem_filterMap.1 known
  cases item with
  | file p =>
    rw [key?, Option.some.injEq, canonical path mem,
      canonical p (withoutRepeats_sublist.subset kept)] at same
    rwa [← same]
  | skipped s => cases same

theorem filterMap_skipped?_items (wellNamed : w.fs.root.WellNamed) :
    (w.items roots).filterMap Item.skipped? =
      (roots.flatMap w.rootItems).filterMap Item.skipped? := by
  rw [items_eq wellNamed, filterMap_skipped?_withoutRepeats]

end Roots

/-- A walk from several roots yields what walks from each of them yield, one after another, without
the files that are known by the path of an earlier one.  So nothing that is passed over is dropped,
a root that is not found is passed over once, and no file is yielded twice; if no links are
followed, the order of the roots changes neither the files nor what is passed over. -/
theorem items_eq_withoutRepeats {w : Walker} (wellNamed : w.fs.root.WellNamed) (roots : List Path) :
    w.items roots = w.withoutRepeats [] (roots.flatMap fun root => w.items [root]) ∧
      (w.items roots).filterMap Item.skipped? =
        (roots.flatMap fun root => w.items [root]).filterMap Item.skipped? ∧
      (∀ root err, w.fs.resolve root true = .error err →
        w.items [root] = [.skipped ⟨some root, err.message⟩]) ∧
      (w.keys (w.items roots)).Nodup ∧
      (w.options.followLinks = false → ∀ roots', roots.Perm roots' →
        (∀ path, .file path ∈ w.items roots ↔ .file path ∈ w.items roots') ∧
          ((w.items roots).filterMap Item.skipped?).Perm
            ((w.items roots').filterMap Item.skipped?)) := by
  have parts : w.items roots = w.withoutRepeats [] (roots.flatMap fun root => w.items [root]) := by
    simp only [items_singleton_eq wellNamed, withoutRepeats_flatMap, items_eq wellNamed]
  refine ⟨parts, ?_, fun root err missing => ?_, ?_, fun links roots' perm => ⟨fun path => ?_, ?_⟩⟩
  · rw [parts, filterMap_skipped?_withoutRepeats]
  · rw [items_singleton_eq wellNamed, rootItems_of_error missing]
    rfl
  · rw [parts]
    have none : (w.keys []).Nodup := List.nodup_nil
    exact nodup_keys_withoutRepeats none
  · simp only [file_mem_items_iff links wellNamed, perm.mem_iff]
  · rw [filterMap_skipped?_items wellNamed, filterMap_skipped?_items wellNamed]
    exact (perm.flatMap_right _).filterMap _

/-- A directory inside another one, a root that is not there, the outer directory, and a link to a
file that has been yielded by then. -/
theorem items_eq_withoutRepeats_overlapping :
    let name (s : String) : Name := s.toUTF8.data.toList
    let inner : Node := .dir [(name "b", .file .empty)]
    let outer : Node := .dir [(name "a", .file .empty), (name "s", inner)]
    let w : Walker :=
      { fs := { root := .dir [(name "r", outer), (name "l", .link "r/s/b".toUTF8)] }
        options := {}, rules := ⟨[]⟩ }
    let roots : List Path := ["/r/s".toUTF8, "/gone".toUTF8, "/r".toUTF8, "/l".toUTF8]
    w.fs.root.WellNamed ∧ w.fs.resolve "/gone".toUTF8 true = .error .missing ∧
      w.options.followLinks = false ∧ roots.Perm roots.reverse ∧
      w.items roots = [.file "/r/s/b".toUTF8,
        .skipped ⟨some "/gone".toUTF8, "No such file or directory (os error 2)"⟩,
        .file "/r/a".toUTF8] ∧
      w.items roots = w.withoutRepeats [] (roots.flatMap fun root => w.items [root]) ∧
      (w.items roots).filterMap Item.skipped? =
        (roots.flatMap fun root => w.items [root]).filterMap Item.skipped? ∧
      w.items ["/gone".toUTF8] = [.skipped ⟨some "/gone".toUTF8, IoError.missing.message⟩] ∧
      (w.keys (w.items roots)).Nodup ∧
      (∀ path, .file path ∈ w.items roots ↔ .file path ∈ w.items roots.reverse) ∧
      ((w.items roots).filterMap Item.skipped?).Perm
        ((w.items roots.reverse).filterMap Item.skipped?) := by
  intro name inner outer w roots
  have innerNamed : inner.WellNamed := .dir (by decide) (by decide) (by simp [Node.WellNamed.file])
  have outerNamed : outer.WellNamed :=
    .dir (by decide) (by decide) (by simp [Node.WellNamed.file, innerNamed])
  have wellNamed : w.fs.root.WellNamed :=
    .dir (by decide) (by decide) (by simp [outerNamed, Node.WellNamed.link])
  have missing : w.fs.resolve "/gone".toUTF8 true = .error .missing := by cbv
  have items : w.items roots = [.file "/r/s/b".toUTF8,
      .skipped ⟨some "/gone".toUTF8, "No such file or directory (os error 2)"⟩,
      .file "/r/a".toUTF8] := by cbv
  have perm : roots.Perm roots.reverse := roots.reverse_perm.symm
  obtain ⟨parts, kept, lost, distinct, order⟩ := items_eq_withoutRepeats wellNamed roots
  exact ⟨wellNamed, missing, rfl, perm, items, parts, kept, lost _ _ missing, distinct,
    order rfl _ perm⟩

end Walker

end FileSearch.Walk
