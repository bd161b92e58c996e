import FileSearch.Walk.Walker

/-!
# The files that a walk is after

`Node.Leads` says that names lead from a node through directories to another node, and `Selects`
which of the files below a root a walk yields if it does not follow links and heeds no ignore files:
those for which the depth is allowed, nothing on the way is left out, and all directories on the way
can be listed.
-/

namespace FileSearch

/-- Names lead from a node to another one. -/
inductive Node.Leads : Node → List Name → Node → Prop where
  | here {node : Node} : Leads node [] node
  | enter {entries : List (Name × Node)} {name : Name} {child target : Node} {names : List Name} :
    (name, child) ∈ entries → Leads child names target → Leads (.dir entries) (name :: names) target

/-- Whether a name can be given to an entry: it has a byte, is not one of the names that lead to the
directory itself and to the one above it, and no byte of it divides names or ends paths. -/
def Name.IsProper (name : Name) : Prop :=
  name ≠ [] ∧ name ≠ [Path.dot] ∧ name ≠ [Path.dot, Path.dot] ∧ Path.slash ∉ name ∧ 0 ∉ name

/-- Every directory of a tree gives its entries different names. -/
def Node.WellNamed (root : Node) : Prop :=
  ∀ names entries, root.Leads names (.dir entries) →
    (entries.map (·.1)).Nodup ∧ ∀ entry ∈ entries, Name.IsProper entry.1

namespace Walk

/-- The path that names make. -/
def relativePath (names : List Name) : Path := ⟨([Path.slash].intercalate names).toArray⟩

/-- The path to which names lead from a place. -/
def pathBelow (root : Path) (names : List Name) : Path := names.foldl entryPath root

/-- The rules of a walk take in the entry to which names lead from the root. -/
def Permits (options : Options) (rules : IgnoreRules) (names : List Name) (isDir : Bool) : Prop :=
  ¬(options.skipHidden ∧ names.getLast?.any Walker.isHidden) ∧
    rules.isIgnored (relativePath names) isDir = false

/-- A walk yields the file to which names lead from the root at the end of a trail: nothing on the
way is left out, the directories on the way can be listed, and the file is in the root itself unless
directories below it are entered. -/
structure Selects (w : Walker) (trail : Trail) (names : List Name) : Prop where
  isFile : ∃ content, (w.fs.nodeAt trail).Leads names (.file content)
  depth : names.length = 1 ∨ w.options.recurse
  permits : ∀ front back, names = front ++ back → front ≠ [] →
    Permits w.options w.rules front (!back.isEmpty)
  listed : ∀ front back, names = front ++ back → back ≠ [] →
    w.fs.listError? (pathBelow trail.path front) = none

end Walk

end FileSearch
