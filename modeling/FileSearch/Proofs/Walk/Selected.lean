import Mathlib
import FileSearch.Proofs.Walk.Path

/-!
# The files of a walk

A walk that follows no links and heeds no ignore files yields the files that `Selects` names, each
of them once, or the root itself if that is a file.  `Walker.Yields` follows the walk down through
the directories that are entered and can be listed (`Walker.mem_trailItems_iff`), and what is
selected below a directory is what is selected below its entries (`SelectsBelow.dir_iff`).  An entry
that the rules leave out is not entered, so that what is below it cannot come back
(`Walker.file_notMem_of_ignored`).
-/

namespace FileSearch

/-! ## Well-named trees -/

namespace Node

variable {node target : Node} {entries : List (Name × Node)} {name : Name} {child : Node}
  {names : List Name}

theorem Leads.eq_of_nil (h : node.Leads [] target) : node = target := by
  cases h
  rfl

theorem Leads.names_of_file {content : ByteArray} (h : (Node.file content).Leads names target) :
    names = [] := by
  cases h
  rfl

theorem WellNamed.nodup (h : (Node.dir entries).WellNamed) : (entries.map (·.1)).Nodup :=
  (h [] entries .here).1

theorem WellNamed.proper (h : (Node.dir entries).WellNamed) (mem : (name, child) ∈ entries) :
    Name.IsProper name :=
  (h [] entries .here).2 _ mem

theorem WellNamed.enter (h : (Node.dir entries).WellNamed) (mem : (name, child) ∈ entries) :
    child.WellNamed := fun names below leads => h (name :: names) below (.enter mem leads)

theorem WellNamed.tail {entry : Name × Node} (h : (Node.dir (entry :: entries)).WellNamed) :
    (Node.dir entries).WellNamed := by
  intro names below leads
  cases leads with
  | here =>
    have here := h [] _ .here
    exact ⟨(List.nodup_cons.1 here.1).2, (List.forall_mem_cons.1 here.2).2⟩
  | enter mem leads => exact h _ _ (.enter (List.mem_cons_of_mem _ mem) leads)

theorem WellNamed.file (content : ByteArray) : (Node.file content).WellNamed := by
  intro names below leads
  cases leads

/-- A directory of well-named nodes with different proper names. -/
theorem WellNamed.dir (nodup : (entries.map (·.1)).Nodup)
    (proper : ∀ entry ∈ entries, Name.IsProper entry.1)
    (children : ∀ entry ∈ entries, entry.2.WellNamed) : (Node.dir entries).WellNamed := by
  intro names below leads
  cases leads with
  | here => exact ⟨nodup, proper⟩
  | enter mem leads => exact children _ mem _ _ leads

/-- All names that lead through a well-named tree are proper. -/
theorem WellNamed.proper_of_leads (h : node.WellNamed) (leads : node.Leads names target) :
    ∀ n ∈ names, Name.IsProper n := by
  induction leads with
  | here => simp
  | enter mem _ ih => exact List.forall_mem_cons.2 ⟨h.proper mem, ih (h.enter mem)⟩

end Node

namespace Walk

open Node

/-! ## Selected files -/

/-- A directory is entered: the root, or one that the rules take in if directories are entered at
all.  Names lead to it from the root. -/
def Walker.Enters (w : Walker) (front : List Name) : Prop :=
  front ≠ [] → w.options.recurse ∧ Permits w.options w.rules front true

/-- A walk yields the file to which names lead from a node, to which other names lead from the
root. -/
structure SelectsBelow (w : Walker) (front : List Name) (path : Path) (node : Node)
    (names : List Name) : Prop where
  isFile : ∃ content, node.Leads names (.file content)
  depth : (front ++ names).length ≤ 1 ∨ w.options.recurse
  permits : ∀ mid back, names = mid ++ back → front ++ mid ≠ [] →
    Permits w.options w.rules (front ++ mid) (!back.isEmpty)
  listed : ∀ mid back, names = mid ++ back → back ≠ [] →
    w.fs.listError? (pathBelow path mid) = none

namespace SelectsBelow

variable {w : Walker} {front names : List Name} {path : Path} {node : Node}
  {entries : List (Name × Node)}

theorem of_root_iff {trail : Trail} (notFile : ∀ content, w.fs.nodeAt trail ≠ .file content) :
    SelectsBelow w [] trail.path (w.fs.nodeAt trail) names ↔ Selects w trail names := by
  constructor
  · rintro ⟨isFile, depth, permits, listed⟩
    refine ⟨isFile, depth.imp_left fun le => ?_, permits, listed⟩
    obtain ⟨content, leads⟩ := isFile
    have some : names ≠ [] := by
      rintro rfl
      exact notFile content leads.eq_of_nil
    exact Nat.le_antisymm le (List.length_pos_iff.2 some)
  · rintro ⟨isFile, depth, permits, listed⟩
    exact ⟨isFile, depth.imp_left Nat.le_of_eq, permits, listed⟩

theorem file_iff {content : ByteArray} (shallow : front.length ≤ 1 ∨ w.options.recurse) :
    SelectsBelow w front path (.file content) names ↔
      names = [] ∧ (front ≠ [] → Permits w.options w.rules front false) := by
  constructor
  · rintro ⟨⟨_, leads⟩, -, permits, -⟩
    cases leads
    exact ⟨rfl, fun some => by simpa using permits [] [] rfl (by simpa using some)⟩
  · rintro ⟨rfl, permits⟩
    refine ⟨⟨content, .here⟩, by simpa using shallow, ?_, ?_⟩
    · intro mid back split some
      obtain ⟨rfl, rfl⟩ := List.append_eq_nil_iff.1 split.symm
      rw [List.append_nil] at some ⊢
      exact permits some
    · intro mid back split some
      exact absurd (List.append_eq_nil_iff.1 split.symm).2 some

/-- What is selected below a directory is selected below one of its entries. -/
theorem dir_iff :
    SelectsBelow w front path (.dir entries) names ↔
      w.Enters front ∧ w.fs.listError? path = none ∧
        ∃ name child rest, (name, child) ∈ entries ∧ names = name :: rest ∧
          SelectsBelow w (front ++ [name]) (entryPath path name) child rest := by
  constructor
  · rintro ⟨⟨content, leads⟩, depth, permits, listed⟩
    cases leads with
    | @enter _ name child _ rest mem leads =>
      refine ⟨fun some => ⟨?_, ?_⟩, listed [] _ rfl (List.cons_ne_nil _ _), name, child, rest, mem,
        rfl, ⟨content, leads⟩, ?_, ?_, ?_⟩
      · refine depth.resolve_left fun one => ?_
        have deep := List.length_pos_iff.2 some
        rw [List.length_append, List.length_cons] at one
        omega
      · simpa using permits [] (name :: rest) rfl (by simpa using some)
      · simpa using depth
      · intro mid back split _
        simpa using permits (name :: mid) back (by rw [split, List.cons_append]) (by simp)
      · intro mid back split some
        exact listed (name :: mid) back (by rw [split, List.cons_append]) some
  · rintro ⟨enters, here, name, child, rest, mem, rfl, ⟨content, leads⟩, depth, permits, listed⟩
    refine ⟨⟨content, .enter mem leads⟩, by simpa using depth, ?_, ?_⟩
    · intro mid back split some
      rcases mid with _ | ⟨first, mid⟩
      · rw [List.nil_append] at split
        rw [List.append_nil] at some ⊢
        rw [← split]
        exact (enters some).2
      · obtain ⟨rfl, rfl⟩ := List.cons.inj split
        simpa using permits mid back rfl (by simp)
    · intro mid back split some
      rcases mid with _ | ⟨first, mid⟩
      · exact here
      · obtain ⟨rfl, rfl⟩ := List.cons.inj split
        exact listed mid back rfl some

end SelectsBelow

/-! ## What a walk yields -/

/-- The path that an item is about. -/
def Item.path? : Item → Option Path
  | .file path => some path
  | .skipped s => s.path

namespace Walker

/-- What a walk yields at a node at a path, to which names lead from the root, or below it: the
item, and the names that lead to its place from the node. -/
inductive Yields (w : Walker) : List Name → Path → Node → List Name → Item → Prop where
  | file {front : List Name} {path : Path} {content : ByteArray} :
    (front ≠ [] → Permits w.options w.rules front false) →
      Yields w front path (.file content) [] (.file path)
  | closed {front : List Name} {path : Path} {entries : List (Name × Node)} {err : IoError} :
    w.Enters front → w.fs.listError? path = some err →
      Yields w front path (.dir entries) [] (.ofError (accessError path err))
  | inside {front : List Name} {path : Path} {entries : List (Name × Node)} {name : Name}
    {child : Node} {names : List Name} {item : Item} :
    w.Enters front → w.fs.listError? path = none → (name, child) ∈ entries →
      Yields w (front ++ [name]) (entryPath path name) child names item →
        Yields w front path (.dir entries) (name :: names) item

variable {w : Walker} {front names : List Name} {path : Path} {node : Node} {item : Item}

theorem Yields.leads (yields : w.Yields front path node names item) :
    ∃ target, node.Leads names target := by
  induction yields with
  | file => exact ⟨_, .here⟩
  | closed => exact ⟨_, .here⟩
  | inside _ _ mem _ ih =>
    obtain ⟨target, leads⟩ := ih
    exact ⟨target, .enter mem leads⟩

theorem Yields.path?_eq (yields : w.Yields front path node names item) :
    item.path? = some (pathBelow path names) := by
  induction yields with
  | file => rfl
  | closed => rfl
  | inside _ _ _ _ ih => exact ih

theorem Enters.shallow (enters : w.Enters front) (name : Name) :
    (front ++ [name]).length ≤ 1 ∨ w.options.recurse := by
  rcases eq_or_ne front [] with rfl | some
  · exact .inl (Nat.le_refl 1)
  · exact .inr (enters some).1

/-- The files that a walk yields are those that are selected. -/
theorem yields_file_iff (shallow : front.length ≤ 1 ∨ w.options.recurse) {p : Path} :
    w.Yields front path node names (.file p) ↔
      SelectsBelow w front path node names ∧ p = pathBelow path names := by
  constructor
  · intro yields
    refine ⟨?_, Option.some.inj yields.path?_eq⟩
    generalize same : Item.file p = item at yields
    induction yields with
    | file permits => exact (SelectsBelow.file_iff shallow).2 ⟨rfl, permits⟩
    | closed => cases same
    | @inside _ _ _ name child names _ enters listed mem _ ih =>
      exact SelectsBelow.dir_iff.2
        ⟨enters, listed, name, child, names, mem, rfl, ih (enters.shallow name) same⟩
  · rintro ⟨selects, rfl⟩
    induction names generalizing front path node with
    | nil =>
      obtain ⟨content, leads⟩ := selects.isFile
      obtain rfl := leads.eq_of_nil
      exact .file ((SelectsBelow.file_iff shallow).1 selects).2
    | cons name rest ih =>
      obtain ⟨_, leads⟩ := selects.isFile
      cases leads
      obtain ⟨enters, listed, name, child, rest, mem, same, selects'⟩ :=
        SelectsBelow.dir_iff.1 selects
      obtain ⟨rfl, rfl⟩ := List.cons.inj same
      exact .inside enters listed mem (ih (enters.shallow name) selects')

theorem exists_yields_file_iff {content : ByteArray} :
    (∃ names, w.Yields front path (.file content) names item) ↔
      (front ≠ [] → Permits w.options w.rules front false) ∧ item = .file path := by
  constructor
  · rintro ⟨_, yields⟩
    cases yields with
    | file permits => exact ⟨permits, rfl⟩
  · rintro ⟨permits, rfl⟩
    exact ⟨[], .file permits⟩

/-- A directory that cannot be listed is passed over if it is entered. -/
theorem exists_yields_iff_of_error {entries : List (Name × Node)} {err : IoError}
    (failed : w.fs.listError? path = some err) :
    (∃ names, w.Yields front path (.dir entries) names item) ↔
      w.Enters front ∧ item = .ofError (accessError path err) := by
  constructor
  · rintro ⟨_, yields⟩
    cases yields with
    | closed enters failed' =>
      rw [Option.some.inj (failed.symm.trans failed')]
      exact ⟨enters, rfl⟩
    | inside _ listed =>
      rw [failed] at listed
      cases listed
  · rintro ⟨enters, rfl⟩
    exact ⟨[], .closed enters failed⟩

/-- A directory that can be listed yields what its entries yield. -/
theorem exists_yields_iff_of_listed {entries : List (Name × Node)}
    (listed : w.fs.listError? path = none) :
    (∃ names, w.Yields front path (.dir entries) names item) ↔
      w.Enters front ∧ ∃ name child names, (name, child) ∈ entries ∧
        w.Yields (front ++ [name]) (entryPath path name) child names item := by
  constructor
  · rintro ⟨_, yields⟩
    cases yields with
    | closed _ failed =>
      rw [listed] at failed
      cases failed
    | inside enters _ mem yields => exact ⟨enters, _, _, _, mem, yields⟩
  · rintro ⟨enters, name, child, names, mem, yields⟩
    exact ⟨name :: names, .inside enters listed mem yields⟩

theorem not_yields_link {target : Path} :
    ¬ ∃ names, w.Yields front path (.link target) names item := by
  rintro ⟨_, yields⟩
  cases yields

theorem not_yields_special : ¬ ∃ names, w.Yields front path .special names item := by
  rintro ⟨_, yields⟩
  cases yields

/-! ## The items of a walk -/

theorem admits_iff (heedless : w.options.heedIgnoreFiles = false) {scopes : List Scope}
    {name : Name} {isDir : Bool} :
    w.admits scopes path (relativePath (front ++ [name])) name isDir ↔
      Permits w.options w.rules (front ++ [name]) isDir := by
  simp only [admits, Permits, heedless, List.getLast?_concat]
  cases w.options.skipHidden <;> simp

theorem enters_concat_iff (heedless : w.options.heedIgnoreFiles = false) {scopes : List Scope}
    {name : Name} : (w.admits scopes path (relativePath (front ++ [name])) name true &&
      w.options.recurse) = true ↔ w.Enters (front ++ [name]) := by
  rw [Bool.and_eq_true, admits_iff heedless, and_comm, Enters]
  simp

theorem enter_eq_nil (heedless : w.options.heedIgnoreFiles = false) (scopes : List Scope)
    (dir : Path) : w.enter scopes dir = [] := by
  simp [enter, heedless]

theorem proper_concat {name : Name} (proper : ∀ n ∈ front, Name.IsProper n)
    (last : Name.IsProper name) : ∀ n ∈ front ++ [name], Name.IsProper n :=
  List.forall_mem_append.2 ⟨proper, List.forall_mem_singleton.2 last⟩

mutual

/-- The items of an entry are those that the walk yields there and below. -/
theorem mem_entryItems_iff (heedless : w.options.heedIgnoreFiles = false) (node : Node)
    (wellNamed : node.WellNamed) {front : List Name} {name : Name}
    (proper : ∀ n ∈ front ++ [name], Name.IsProper n) {scopes : List Scope} {path : Path}
    {place : List Name} {above : List Ancestor} {item : Item} :
    item ∈ w.entryItems scopes path (relativePath (front ++ [name])) name
        (nodeListing w.fs (fun _ _ => .other) path place above node) ↔
      ∃ names, w.Yields (front ++ [name]) path node names item := by
  have some : front ++ [name] ≠ [] := List.concat_ne_nil name front
  match node with
  | .file content =>
    rw [nodeListing, entryItems, List.mem_ite_nil_right, List.mem_singleton, admits_iff heedless,
      exists_yields_file_iff]
    simp only [some, ne_eq, not_false_eq_true, forall_const]
  | .link target => exact iff_of_false List.not_mem_nil not_yields_link
  | .special => exact iff_of_false List.not_mem_nil not_yields_special
  | .dir entries =>
    rw [nodeListing]
    split
    · rename_i err failed
      rw [entryItems, List.mem_ite_nil_right, List.mem_singleton, enters_concat_iff heedless,
        exists_yields_iff_of_error failed]
    · rename_i listed
      rw [entryItems, exists_yields_iff_of_listed listed, ← enters_concat_iff heedless]
      split
      · rename_i enters
        rw [mem_entriesItems_iff heedless entries wellNamed proper, and_iff_right enters]
      · rename_i stays
        exact iff_of_false List.not_mem_nil fun enters => stays enters.1

theorem mem_entriesItems_iff (heedless : w.options.heedIgnoreFiles = false)
    (entries : List (Name × Node)) (wellNamed : (Node.dir entries).WellNamed) {front : List Name}
    (proper : ∀ n ∈ front, Name.IsProper n) {scopes : List Scope} {path : Path}
    {place : List Name} {above : List Ancestor} {item : Item} :
    item ∈ w.entriesItems scopes path (relativePath front)
        (entryListings w.fs (fun _ _ => .other) path place above entries) ↔
      ∃ name child names, (name, child) ∈ entries ∧
        w.Yields (front ++ [name]) (entryPath path name) child names item := by
  match entries with
  | [] => simp [entryListings, entriesItems]
  | (first, node) :: others =>
    have mem : (first, node) ∈ (first, node) :: others := List.mem_cons_self
    have below := proper_concat proper (wellNamed.proper mem)
    rw [entryListings, entriesItems, List.mem_append, ← relativePath_append below,
      mem_entryItems_iff heedless node (wellNamed.enter mem) below,
      mem_entriesItems_iff heedless others wellNamed.tail proper]
    constructor
    · rintro (⟨rest, yields⟩ | ⟨name, child, rest, later, yields⟩)
      · exact ⟨first, node, rest, mem, yields⟩
      · exact ⟨name, child, rest, List.mem_cons_of_mem _ later, yields⟩
    · rintro ⟨name, child, rest, mem, yields⟩
      rcases List.mem_cons.1 mem with here | later
      · obtain ⟨rfl, rfl⟩ := Prod.mk.inj here
        exact .inl ⟨rest, yields⟩
      · exact .inr ⟨name, child, rest, later, yields⟩

end

mutual

/-- No item of an entry comes twice. -/
theorem nodup_entryItems (heedless : w.options.heedIgnoreFiles = false) (node : Node)
    (wellNamed : node.WellNamed) {front : List Name} {name : Name}
    (proper : ∀ n ∈ front ++ [name], Name.IsProper n) {scopes : List Scope} {path : Path}
    {place : List Name} {above : List Ancestor} :
    (w.entryItems scopes path (relativePath (front ++ [name])) name
      (nodeListing w.fs (fun _ _ => .other) path place above node)).Nodup := by
  match node with
  | .file content =>
    rw [nodeListing, entryItems]
    split <;> simp
  | .link target => exact List.nodup_nil
  | .special => exact List.nodup_nil
  | .dir entries =>
    rw [nodeListing]
    split
    · rw [entryItems]
      split <;> simp
    · rw [entryItems]
      split
      · exact nodup_entriesItems heedless entries wellNamed proper
      · exact List.nodup_nil

theorem nodup_entriesItems (heedless : w.options.heedIgnoreFiles = false)
    (entries : List (Name × Node)) (wellNamed : (Node.dir entries).WellNamed) {front : List Name}
    (proper : ∀ n ∈ front, Name.IsProper n) {scopes : List Scope} {path : Path}
    {place : List Name} {above : List Ancestor} :
    (w.entriesItems scopes path (relativePath front)
      (entryListings w.fs (fun _ _ => .other) path place above entries)).Nodup := by
  match entries with
  | [] => exact List.nodup_nil
  | (first, node) :: others =>
    have mem : (first, node) ∈ (first, node) :: others := List.mem_cons_self
    have below := proper_concat proper (wellNamed.proper mem)
    rw [entryListings, entriesItems, ← relativePath_append below]
    refine List.nodup_append.2 ⟨nodup_entryItems heedless node (wellNamed.enter mem) below,
      nodup_entriesItems heedless others wellNamed.tail proper, ?_⟩
    intro item here item' later same
    rw [mem_entryItems_iff heedless node (wellNamed.enter mem) below] at here
    rw [mem_entriesItems_iff heedless others wellNamed.tail proper] at later
    obtain ⟨rest, yields⟩ := here
    obtain ⟨name, child, rest', mem', yields'⟩ := later
    -- Equal paths begin with the same name, but the names of the entries differ.
    have paths : pathBelow path (first :: rest) = pathBelow path (name :: rest') :=
      Option.some.inj
        (yields.path?_eq.symm.trans ((congrArg Item.path? same).trans yields'.path?_eq))
    obtain ⟨_, leads⟩ := yields.leads
    obtain ⟨_, leads'⟩ := yields'.leads
    have names : first :: rest = name :: rest' :=
      pathBelow_inj (wellNamed.proper_of_leads (.enter mem leads))
        (wellNamed.tail.proper_of_leads (.enter mem' leads')) (List.cons_ne_nil _ _)
        (List.cons_ne_nil _ _) paths
    obtain ⟨rfl, -⟩ := List.cons.inj names
    exact (List.nodup_cons.1 wellNamed.nodup).1 (List.mem_map.2 ⟨_, mem', rfl⟩)

end

/-! ## Walks from a root -/

section Root

variable {root : Path} {trail : Trail}

theorem items_singleton (links : w.options.followLinks = false)
    (resolved : w.fs.resolve root true = .ok trail) : w.items [root] = w.trailItems trail := by
  simp [items, needsKeys, links, rootItems, resolved]

/-- The items of a directory that is a root are those of its entries, or the reason why it cannot be
listed. -/
theorem trailItems_of_dir (links : w.options.followLinks = false)
    (heedless : w.options.heedIgnoreFiles = false) {entries : List (Name × Node)}
    (node : w.fs.nodeAt trail = .dir entries) :
    w.trailItems trail = match w.fs.listError? trail.path with
      | some err => [.ofError (accessError trail.path err)]
      | none => w.entriesItems [] trail.path (relativePath [])
          (entryListings w.fs (fun _ _ => .other) trail.path (trail.map (·.1))
            [⟨trail.path, trail.map (·.1)⟩] entries) := by
  simp only [trailItems, listing, links, node, nodeListing, heedless, enter_eq_nil heedless]
  cases w.fs.listError? trail.path <;> rfl

/-- The items of a root are those that the walk yields. -/
theorem mem_trailItems_iff (links : w.options.followLinks = false)
    (heedless : w.options.heedIgnoreFiles = false) (wellNamed : (w.fs.nodeAt trail).WellNamed) :
    item ∈ w.trailItems trail ↔
      ∃ names, w.Yields [] trail.path (w.fs.nodeAt trail) names item := by
  rcases node : w.fs.nodeAt trail with content | entries | target | _
  · simp [trailItems, listing, node, nodeListing, exists_yields_file_iff]
  · rw [node] at wellNamed
    have root : w.Enters [] := absurd rfl
    rw [trailItems_of_dir links heedless node]
    split
    · rename_i failed
      rw [List.mem_singleton, exists_yields_iff_of_error failed, and_iff_right root]
    · rename_i listed
      rw [mem_entriesItems_iff heedless entries wellNamed (by simp),
        exists_yields_iff_of_listed listed, and_iff_right root]
  · simp [trailItems, listing, links, node, nodeListing, not_yields_link]
  · simp [trailItems, listing, links, node, nodeListing, not_yields_special]

/-- The files among the items of a root are those that are selected. -/
theorem file_mem_trailItems_iff (links : w.options.followLinks = false)
    (heedless : w.options.heedIgnoreFiles = false) (wellNamed : (w.fs.nodeAt trail).WellNamed) :
    .file path ∈ w.trailItems trail ↔
      ∃ names, SelectsBelow w [] trail.path (w.fs.nodeAt trail) names ∧
        path = pathBelow trail.path names := by
  rw [mem_trailItems_iff links heedless wellNamed]
  simp only [yields_file_iff (.inl (Nat.zero_le 1) : ([] : List Name).length ≤ 1 ∨ _)]

theorem nodup_trailItems (links : w.options.followLinks = false)
    (heedless : w.options.heedIgnoreFiles = false) (wellNamed : (w.fs.nodeAt trail).WellNamed) :
    (w.trailItems trail).Nodup := by
  rcases node : w.fs.nodeAt trail with content | entries | target | _
  · simp [trailItems, listing, node, nodeListing]
  · rw [node] at wellNamed
    rw [trailItems_of_dir links heedless node]
    split
    · exact List.nodup_singleton _
    · exact nodup_entriesItems heedless entries wellNamed (by simp)
  · simp [trailItems, listing, links, node, nodeListing]
  · simp [trailItems, listing, links, node, nodeListing]

/-- No file below an ignored directory is yielded, whatever the rules say about the file. -/
theorem file_notMem_of_ignored (links : w.options.followLinks = false)
    (heedless : w.options.heedIgnoreFiles = false) (wellNamed : (w.fs.nodeAt trail).WellNamed)
    {front back : List Name} {content : ByteArray} (below : back ≠ []) (inside : front ≠ [])
    (leads : (w.fs.nodeAt trail).Leads (front ++ back) (.file content))
    (ignored : w.rules.isIgnored (relativePath front) true) :
    .file (pathBelow trail.path (front ++ back)) ∉ w.trailItems trail := by
  have some : front ++ back ≠ [] := List.append_ne_nil_of_left_ne_nil inside back
  rw [file_mem_trailItems_iff links heedless wellNamed]
  rintro ⟨names, ⟨⟨content', leads'⟩, -, permits, -⟩, same⟩
  have some' : names ≠ [] := by
    rintro rfl
    rw [leads'.eq_of_nil] at leads
    exact some leads.names_of_file
  have names_eq : front ++ back = names :=
    pathBelow_inj (wellNamed.proper_of_leads leads) (wellNamed.proper_of_leads leads') some some'
      same
  have kept := (permits front back names_eq.symm inside).2
  rw [List.isEmpty_eq_false_iff.2 below, Bool.not_false] at kept
  rw [show w.rules.isIgnored (relativePath ([] ++ front)) true = true from ignored] at kept
  cases kept

end Root

/-- A walk from one root, without following links and without ignore files, yields the root if it is
a file, and otherwise exactly the files below it that are selected, each of them once; none of them
lies in an ignored directory. -/
theorem mem_items_iff_selects {w : Walker} {root : Path} {trail : Trail}
    (links : w.options.followLinks = false) (heedless : w.options.heedIgnoreFiles = false)
    (resolved : w.fs.resolve root true = .ok trail) (wellNamed : (w.fs.nodeAt trail).WellNamed) :
    (w.items [root]).Nodup ∧
      (∀ path, .file path ∈ w.items [root] ↔
        (∃ content, w.fs.nodeAt trail = .file content) ∧ path = trail.path ∨
          (∀ content, w.fs.nodeAt trail ≠ .file content) ∧
            ∃ names, Selects w trail names ∧ path = pathBelow trail.path names) ∧
      ∀ front back content, front ≠ [] → back ≠ [] →
        (w.fs.nodeAt trail).Leads (front ++ back) (.file content) →
        w.rules.isIgnored (relativePath front) true →
        .file (pathBelow trail.path (front ++ back)) ∉ w.items [root] := by
  rw [items_singleton links resolved]
  refine ⟨nodup_trailItems links heedless wellNamed, fun path => ?_, ?_⟩
  · rw [file_mem_trailItems_iff links heedless wellNamed]
    by_cases file : ∃ content, w.fs.nodeAt trail = .file content
    · obtain ⟨content, file⟩ := file
      have shallow : ([] : List Name).length ≤ 1 ∨ w.options.recurse := .inl (Nat.zero_le 1)
      simp [file, SelectsBelow.file_iff shallow, pathBelow]
    · have notFile := not_exists.1 file
      simp only [SelectsBelow.of_root_iff notFile, file, false_and, false_or]
      exact (and_iff_right notFile).symm
  · intro front back content inside below leads ignored
    exact file_notMem_of_ignored links heedless wellNamed below inside leads ignored

/-- A directory with a file, a hidden one, an ignored directory that holds a file which a later rule
takes back in (`out/` and `!c`), and a directory that may not be read: only the first file is found,
and the last directory is passed over. -/
theorem mem_items_iff_selects_reincluded :
    let name (s : String) : Name := s.toUTF8.data.toList
    let dir : Node := .dir [(name "a", .file .empty), (name ".b", .file .empty),
      (name "out", .dir [(name "c", .file .empty)]), (name "no", .dir [(name "d", .file .empty)])]
    let fs : FileSystem :=
      { root := .dir [(name "r", dir)]
        denies := fun names access => names == [name "r", name "no"] && access == .read }
    let w : Walker :=
      { fs
        options := { heedIgnoreFiles := false }
        rules := ⟨[⟨[.char 'o', .char 'u', .char 't'], false, true, false⟩,
          ⟨[.char 'c'], true, false, false⟩]⟩ }
    let trail : Trail := [(name "r", dir)]
    w.options.followLinks = false ∧ w.options.heedIgnoreFiles = false ∧
      w.fs.resolve "/r".toUTF8 true = .ok trail ∧ (w.fs.nodeAt trail).WellNamed ∧
      w.items ["/r".toUTF8] = [.file "/r/a".toUTF8, .skipped ⟨some "/r/no".toUTF8,
        "IO error: IO error for operation on /r/no: Permission denied (os error 13)"⟩] ∧
      (w.items ["/r".toUTF8]).Nodup ∧
      (∀ path, .file path ∈ w.items ["/r".toUTF8] ↔
        (∃ content, w.fs.nodeAt trail = .file content) ∧ path = trail.path ∨
          (∀ content, w.fs.nodeAt trail ≠ .file content) ∧
            ∃ names, Selects w trail names ∧ path = pathBelow trail.path names) ∧
      ∀ front back content, front ≠ [] → back ≠ [] →
        (w.fs.nodeAt trail).Leads (front ++ back) (.file content) →
        w.rules.isIgnored (relativePath front) true →
        .file (pathBelow trail.path (front ++ back)) ∉ w.items ["/r".toUTF8] := by
  intro name dir fs w trail
  have resolved : w.fs.resolve "/r".toUTF8 true = .ok trail := by cbv
  have out : (Node.dir [(name "c", .file .empty)]).WellNamed :=
    .dir (by decide) (by decide) (by simp [Node.WellNamed.file])
  have no : (Node.dir [(name "d", .file .empty)]).WellNamed :=
    .dir (by decide) (by decide) (by simp [Node.WellNamed.file])
  have wellNamed : (w.fs.nodeAt trail).WellNamed :=
    .dir (by decide) (by decide) (by simp [Node.WellNamed.file, out, no])
  have items : w.items ["/r".toUTF8] = [.file "/r/a".toUTF8, .skipped ⟨some "/r/no".toUTF8,
      "IO error: IO error for operation on /r/no: Permission denied (os error 13)"⟩] := by
    have here : w.fs.listError? trail.path = none := by cbv
    have listed : w.fs.listError? (entryPath trail.path (name "out")) = none := by cbv
    have failed : w.fs.listError? (entryPath trail.path (name "no")) = some .denied := by cbv
    rw [items_singleton rfl resolved, trailItems_of_dir rfl rfl rfl, here]
    simp only [entryListings, nodeListing, listed, failed, entriesItems, entryItems]
    decide +kernel
  exact ⟨rfl, rfl, resolved, wellNamed, items, mem_items_iff_selects rfl rfl resolved wellNamed⟩

end Walker

end Walk

end FileSearch
