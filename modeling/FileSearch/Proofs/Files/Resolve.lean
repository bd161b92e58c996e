import Mathlib.Data.List.Nodup
import FileSearch.Proofs.Walk.Selected

/-!
# Paths without links

What a path resolves to lies below the root of the file system, is reached through directories, and
is no link (`FileSystem.shows_of_resolve`, `Shows.leads`).  The other way round, the path that is
written with the names of such a place is the canonical one: if it resolves at all, then to that
place (`FileSystem.eq_of_canonicalize`).
-/

namespace FileSearch

/-! ## Names and nodes -/

namespace Node

variable {node middle target : Node} {entries : List (Name × Node)} {name : Name}
  {names : List Name}

theorem mem_of_lookup (found : lookup entries name = some node) : (name, node) ∈ entries := by
  obtain ⟨⟨other, _⟩, here, rfl⟩ := Option.map_eq_some_iff.1 found
  have same := List.find?_some here
  rw [beq_iff_eq] at same
  subst same
  exact List.mem_of_find?_eq_some here

/-- An entry is found by its name if no other entry has it. -/
theorem lookup_eq_some (nodup : (entries.map (·.1)).Nodup) (mem : (name, node) ∈ entries) :
    lookup entries name = some node := by
  rcases found : lookup entries name with _ | other
  · rw [lookup, Option.map_eq_none_iff, List.find?_eq_none] at found
    exact absurd (beq_self_eq_true name) (found _ mem)
  · have same := List.inj_on_of_nodup_map nodup mem (mem_of_lookup found) rfl
    rw [(Prod.mk.inj same).2]

theorem Leads.trans {names' : List Name} (h : node.Leads names middle)
    (h' : middle.Leads names' target) : node.Leads (names ++ names') target := by
  induction h with
  | here => exact h'
  | enter mem _ ih => exact .enter mem (ih h')

theorem WellNamed.of_leads (h : node.WellNamed) (leads : node.Leads names target) :
    target.WellNamed := fun _ _ below => h _ _ (leads.trans below)

theorem WellNamed.link (path : Path) : (Node.link path).WellNamed := by
  intro names below leads
  cases leads

/-- Names do not lead through links. -/
theorem Leads.ne_link (h : node.Leads names target) (last : ∀ path, target ≠ .link path) :
    ∀ path, node ≠ .link path := by
  cases h with
  | here => exact last
  | enter => exact fun _ => nofun

end Node

/-! ## The bytes of a path -/

theorem flatMap_cons_eq_intercalate {α : Type} (sep : α) {parts : List (List α)}
    (some : parts ≠ []) : parts.flatMap (sep :: ·) = sep :: [sep].intercalate parts := by
  induction parts with
  | nil => exact absurd rfl some
  | cons part rest ih =>
    rcases rest with _ | ⟨next, rest⟩
    · simp
    · rw [List.flatMap_cons, ih (List.cons_ne_nil _ _), List.intercalate_cons_cons]
      simp

namespace Walk

/-- The path of the root of a file system. -/
def rootPath : Path := ⟨#[Path.slash]⟩

variable {names : List Name}

theorem bytes_pathBelow_rootPath (proper : ∀ n ∈ names, Name.IsProper n) (some : names ≠ []) :
    (pathBelow rootPath names).data.toList = Path.slash :: [Path.slash].intercalate names :=
  bytes_pathBelow proper some

theorem isAbsolute_pathBelow_rootPath (proper : ∀ n ∈ names, Name.IsProper n) :
    (pathBelow rootPath names).isAbsolute := by
  rcases eq_or_ne names [] with rfl | some
  · rfl
  · rw [Path.isAbsolute, bytes_pathBelow_rootPath proper some]
    rfl

/-- The path made of some names asks for these names. -/
theorem steps_pathBelow_rootPath (proper : ∀ n ∈ names, Name.IsProper n) (some : names ≠ []) :
    FileSystem.steps (pathBelow rootPath names) = names := by
  have parts : Path.split (pathBelow rootPath names).data.toList = [] :: names := by
    rw [Path.split_eq, bytes_pathBelow_rootPath proper some, List.splitOn_cons_eq_if_modifyHead,
      if_pos (beq_self_eq_true _),
      List.splitOn_intercalate _ (fun n hn => (proper n hn).slash_notMem) some]
  have last : ¬(([] :: names).getLast? == Option.some []) = true := by
    rw [List.getLast?_cons, beq_iff_eq, List.getLast?_eq_some_getLast some]
    simpa using (proper _ (List.getLast_mem some)).ne_nil
  have full : names.filter (!·.isEmpty) = names :=
    List.filter_eq_self.2 fun n hn => by simpa using (proper n hn).ne_nil
  rw [FileSystem.steps, parts, if_neg last, List.append_nil]
  simpa using full

end Walk

/-! ## Trails -/

namespace Trail

variable {t : Trail}

theorem names_cons (entry : Name × Node) : Trail.names (entry :: t) = t.names ++ [entry.1] := by
  simp [names]

theorem names_eq_nil_iff : t.names = [] ↔ t = [] := by
  simp [names]

/-- The path of a trail is made of its names. -/
theorem path_eq (proper : ∀ n ∈ t.names, Name.IsProper n) :
    t.path = Walk.pathBelow Walk.rootPath t.names := by
  by_cases empty : t = []
  · subst empty
    rfl
  · have some : t.names ≠ [] := fun h => empty (names_eq_nil_iff.1 h)
    refine ByteArray.ext (Array.toList_inj.1 ?_)
    rw [Walk.bytes_pathBelow_rootPath proper some, ← flatMap_cons_eq_intercalate _ some, path,
      if_neg (by simpa using empty)]

end Trail

namespace FileSystem

variable {fs : FileSystem} {t t' : Trail} {names : List Name} {target : Node} {p q : Path}

/-- A trail shows the way from the root through directories to a node that is no link. -/
inductive Shows (fs : FileSystem) : Trail → Prop where
  | root : Shows fs []
  | entry {t : Trail} {entries : List (Name × Node)} {name : Name} {node : Node} :
    Shows fs t → fs.nodeAt t = .dir entries → (name, node) ∈ entries → (∀ path, node ≠ .link path) →
      Shows fs ((name, node) :: t)

namespace Shows

theorem tail (h : fs.Shows t) : fs.Shows t.tail := by
  cases h with
  | root => exact .root
  | entry above => exact above

theorem leads (h : fs.Shows t) : fs.root.Leads t.names (fs.nodeAt t) := by
  induction h with
  | root => exact .here
  | entry _ dir mem _ ih =>
    rw [dir] at ih
    rw [Trail.names_cons]
    exact ih.trans (.enter mem .here)

theorem names_proper (h : fs.Shows t) (wellNamed : fs.root.WellNamed) :
    ∀ n ∈ t.names, Name.IsProper n :=
  wellNamed.proper_of_leads h.leads

end Shows

/-- Steps lead from one such trail to another, as links are followed to their ends. -/
theorem Shows.follow (h : fs.Shows t) {links : Nat} {todo : List Name}
    (followed : fs.follow true links t todo = .ok t') : fs.Shows t' := by
  fun_induction FileSystem.follow fs true links t todo with
  | case1 =>
    obtain rfl := Except.ok.inj followed
    exact h
  | case3 _ _ _ _ _ _ _ _ ih => exact ih h followed
  | case4 _ _ _ _ _ _ _ _ _ ih => exact ih h.tail followed
  | case7 _ _ _ _ _ _ _ _ _ _ _ _ stays => simp at stays
  | case9 t _ _ _ _ _ _ _ _ target _ _ _ ih =>
    refine ih ?_ followed
    split
    · exact .root
    · exact h
  | case10 _ _ _ _ _ dir _ _ _ _ _ notLink found ih =>
    exact ih (.entry h dir (Node.mem_of_lookup found) notLink) followed
  | case2 | case5 | case6 | case8 | case11 => cases followed

/-- A path is followed from the root or from the current directory. -/
theorem follow_of_resolve (resolved : fs.resolve p true = .ok t) :
    ∃ start, fs.Shows start ∧ (p.isAbsolute → start = []) ∧
      fs.follow true mostLinks start (steps p) = .ok t := by
  unfold resolve at resolved
  split at resolved
  · cases resolved
  · split at resolved
    · cases resolved
    · split at resolved
      · cases resolved
      · by_cases absolute : p.isAbsolute
        · rw [if_pos absolute] at resolved
          exact ⟨[], .root, fun _ => rfl, resolved⟩
        · rw [if_neg absolute] at resolved
          rcases here : fs.here with err | start
          · rw [here] at resolved
            cases resolved
          · rw [here] at resolved
            exact ⟨start, Shows.root.follow here, fun h => absurd h absolute, resolved⟩

theorem shows_of_resolve (resolved : fs.resolve p true = .ok t) : fs.Shows t := by
  obtain ⟨start, shows, -, followed⟩ := follow_of_resolve resolved
  exact shows.follow followed

/-- The steps through a tree without links end where their names lead. -/
theorem names_of_follow (wellNamed : (fs.nodeAt t).WellNamed)
    (leads : (fs.nodeAt t).Leads names target) (last : ∀ path, target ≠ .link path) {links : Nat}
    (followed : fs.follow true links t names = .ok t') : t'.names = t.names ++ names := by
  induction names generalizing t with
  | nil =>
    rw [follow] at followed
    obtain rfl := Except.ok.inj followed
    rw [List.append_nil]
  | cons name rest ih =>
    rcases dir : fs.nodeAt t with _ | entries | _
    all_goals rw [dir] at leads wellNamed
    all_goals cases leads
    rename_i child mem below
    have proper := wellNamed.proper mem
    have found := Node.lookup_eq_some wellNamed.nodup mem
    have ahead : fs.follow true links ((name, child) :: t) rest = .ok t' := by
      have stays : ¬(name == [0x2E]) = true := fun h => proper.2.1 (beq_iff_eq.1 h)
      have climbs : ¬(name == [0x2E, 0x2E]) = true := fun h => proper.2.2.1 (beq_iff_eq.1 h)
      rw [follow, dir] at followed
      simp only [stays, climbs, found, Bool.false_eq_true, if_false] at followed
      by_cases denied : fs.denies t.names .search = true
      · rw [if_pos denied] at followed
        cases followed
      · rw [if_neg denied] at followed
        by_cases long : longestName < name.length
        · rw [if_pos long] at followed
          cases followed
        · rw [if_neg long] at followed
          cases child with
          | link path => exact absurd rfl (below.ne_link last path)
          | _ => exact followed
    rw [ih (t := (name, child) :: t) (wellNamed.enter mem) below ahead, Trail.names_cons,
      List.append_assoc]
    rfl

/-- A path that is written with the names of a place without links is canonical. -/
theorem eq_of_canonicalize (wellNamed : fs.root.WellNamed) (leads : fs.root.Leads names target)
    (last : ∀ path, target ≠ .link path)
    (canonical : fs.canonicalize (Walk.pathBelow Walk.rootPath names) = .ok q) :
    q = Walk.pathBelow Walk.rootPath names := by
  have proper := wellNamed.proper_of_leads leads
  rcases resolved : fs.resolve (Walk.pathBelow Walk.rootPath names) true with _ | t
  · rw [canonicalize, resolved] at canonical
    cases canonical
  · rw [canonicalize, resolved] at canonical
    obtain rfl := Except.ok.inj canonical
    obtain ⟨start, -, atRoot, followed⟩ := follow_of_resolve resolved
    obtain rfl := atRoot (Walk.isAbsolute_pathBelow_rootPath proper)
    have same : t.names = names := by
      rcases eq_or_ne names [] with rfl | some
      · -- The path of the root asks to stay there.
        have steps_eq : steps (Walk.pathBelow Walk.rootPath []) = [[0x2E]] := rfl
        rw [steps_eq, follow] at followed
        split at followed
        · split at followed
          · cases followed
          · simp only [BEq.rfl, if_true] at followed
            rw [follow] at followed
            obtain rfl := Except.ok.inj followed
            rfl
        · cases followed
      · rw [Walk.steps_pathBelow_rootPath proper some] at followed
        exact names_of_follow (t := []) wellNamed leads last followed
    rw [Trail.path_eq (by rwa [same]), same]

end FileSystem

end FileSearch
