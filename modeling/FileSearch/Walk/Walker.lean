import FileSearch.Error
import FileSearch.Result.FileResult
import FileSearch.Rules.IgnoreRules
import FileSearch.Walk.Listing
import FileSearch.Walk.Options
import FileSearch.Walk.Scope

/-!
# Walks

A walk finds the files below some roots.  Each item is a file or a path that was passed over because
of a failure; a failure never ends the walk.  An entry below a root is left out, and with a directory
everything in it, if an ignore file says so, if it is hidden and no ignore file takes it in, or if
the ignore rules say so.  A root itself is never left out.  A directory that is entered but cannot be
listed is passed over.
-/

namespace FileSearch.Walk

/-- What a walk yields. -/
inductive Item where
  | file (path : Path)
  | skipped (s : SkippedPath)
  deriving DecidableEq

/-- The item for a failure. -/
def Item.ofError (err : WalkError) : Item := .skipped ⟨err.path?, (SearchError.ofWalk err).message⟩

/-- What decides about the entries below a root. -/
structure Walker where
  fs : FileSystem
  options : Options
  rules : IgnoreRules
  /-- What the ignore file says that git keeps for all directories.  Where this file is, is told by
  the configuration of git. -/
  gitGlobal : Path → Bool → Option Bool := fun _ _ => none

namespace Walker

/-- Whether a name is hidden. -/
def isHidden (name : Name) : Bool := name.head? == some 0x2E

/-- Whether an entry is taken in.  Its path is also given relative to the root. -/
def admits (w : Walker) (scopes : List Scope) (path relative : Path) (name : Name) (isDir : Bool) :
    Bool :=
  let verdict :=
    if w.options.heedIgnoreFiles then (verdict scopes path isDir).or (w.gitGlobal path isDir)
    else none
  let ignored := verdict.getD (w.options.skipHidden && isHidden name)
  !ignored && !w.rules.isIgnored relative isDir

/-- The scopes of a directory: its ignore files before those of the directories above it. -/
def enter (w : Walker) (scopes : List Scope) (dir : Path) : List Scope :=
  if w.options.heedIgnoreFiles then (Scope.read w.fs dir).1 :: scopes else []

mutual

/-- The items of an entry. -/
def entryItems (w : Walker) (scopes : List Scope) (path relative : Path) (name : Name) :
    Listing → List Item
  | .file => if w.admits scopes path relative name false then [.file path] else []
  | .other => []
  | .failed err => [.ofError err]
  | .closed err =>
    if w.admits scopes path relative name true && w.options.recurse then [.ofError err] else []
  | .dir entries =>
    if w.admits scopes path relative name true && w.options.recurse then
      entriesItems w (w.enter scopes path) path relative entries
    else []

/-- The items of the entries of a directory. -/
def entriesItems (w : Walker) (scopes : List Scope) (path relative : Path) :
    List (Name × Listing) → List Item
  | [] => []
  | (name, l) :: rest =>
    entryItems w scopes (entryPath path name) (entryPath relative name) name l ++
      entriesItems w scopes path relative rest

end

/-- The items of a root that has been found. -/
def trailItems (w : Walker) (trail : Trail) : List Item :=
  let path := trail.path
  let (scopes, err) := if w.options.heedIgnoreFiles then outerScopes w.fs path else ([], none)
  let outer := (err.map Item.ofError).toList
  match listing w.fs w.options.followLinks trail with
  | .file => [.file path]
  | .other => []
  | .failed err => [.ofError err]
  | .closed err => outer ++ [.ofError err]
  | .dir entries => outer ++ entriesItems w (w.enter scopes path) path .empty entries

/-- The items of a root. -/
def rootItems (w : Walker) (root : Path) : List Item :=
  match w.fs.resolve root true with
  | .error err => [.skipped ⟨some root, err.message⟩]
  | .ok trail => w.trailItems trail

/-- The path by which a file is known when files are to be yielded once. -/
def key (w : Walker) (path : Path) : Path :=
  match w.fs.canonicalize path with
  | .ok p => p
  | .error _ => path

/-- Whether files may be come to twice: with several roots or links that are followed. -/
def needsKeys (w : Walker) (roots : List Path) : Bool := 1 < roots.length || w.options.followLinks

/-- Drops the files whose keys are among those seen, and the later ones with one key; also gives the
keys seen in the end. -/
def dropSeen (w : Walker) (seen : List Path) : List Item → List Item × List Path
  | [] => ([], seen)
  | .skipped s :: rest =>
    let (items, seen) := w.dropSeen seen rest
    (.skipped s :: items, seen)
  | .file path :: rest =>
    let k := w.key path
    if seen.contains k then w.dropSeen seen rest
    else
      let (items, seen) := w.dropSeen (k :: seen) rest
      (.file path :: items, seen)

/-- The items of one root after another, without the files seen before. -/
def freshItems (w : Walker) (seen : List Path) : List Path → List Item
  | [] => []
  | root :: roots =>
    let (items, seen) := w.dropSeen seen (w.rootItems root)
    items ++ w.freshItems seen roots

/-- The items of a walk. -/
def items (w : Walker) (roots : List Path) : List Item :=
  if w.needsKeys roots then w.freshItems [] roots else roots.flatMap w.rootItems

end Walker

end FileSearch.Walk
