import FileSearch.Files.FileSystem
import FileSearch.Walk.Error

/-!
# Directory listings

A `Listing` is what a walk sees at a place: a file, a directory with what is in it or with the
reason why that cannot be told, something it does not look at, or a failure.  If links are followed,
a link shows what it leads to; one that leads to a directory on the way to it is a failure, and so
no listing is without end.
-/

namespace FileSearch.Walk

/-- What a walk sees at a place. -/
inductive Listing where
  | file
  | dir (entries : List (Name × Listing))
  /-- A directory that cannot be listed. -/
  | closed (err : WalkError)
  /-- A link that is not followed, or something that is neither a file nor a directory. -/
  | other
  | failed (err : WalkError)
  deriving Inhabited

/-- A directory on the way to a place: the path by which the walk came to it, and its names without
links, in reverse order. -/
structure Ancestor where
  path : Path
  names : List Name

/-- A path extended by a name. -/
def entryPath (dir : Path) (name : Name) : Path := dir.join ⟨name.toArray⟩

/-- The failure to find out what a path leads to, or what is in a directory. -/
def accessError (path : Path) (err : IoError) : WalkError :=
  .withPath path (.io (.custom
    ("IO error for operation on " ++ path.display ++ ": " ++ err.message)))

section

variable (fs : FileSystem)

mutual

/-- The listing of a node with the given path and names.  `onLink` lists a link below some
directories. -/
def nodeListing (onLink : Path → List Ancestor → Listing) (path : Path) (names : List Name)
    (above : List Ancestor) : Node → Listing
  | .file _ => .file
  | .link _ => onLink path above
  | .special => .other
  | .dir entries =>
    match fs.listError? path with
    | some err => .closed (accessError path err)
    | none => .dir (entryListings onLink path names (⟨path, names⟩ :: above) entries)

/-- The listings of the entries of a directory. -/
def entryListings (onLink : Path → List Ancestor → Listing) (path : Path) (names : List Name)
    (above : List Ancestor) : List (Name × Node) → List (Name × Listing)
  | [] => []
  | (name, node) :: rest =>
    (name, nodeListing onLink (entryPath path name) (name :: names) above node) ::
      entryListings onLink path names above rest

end

/-- The listing of a link that is followed.  To tell whether it leads back to a directory on the
way, the directory it leads to is opened.  `fuel` bounds the number of links on the way. -/
def linkListing : Nat → Path → List Ancestor → Listing
  | 0, _, _ => .other
  | fuel + 1, path, above =>
    match fs.resolve path true with
    | .error err => .failed (accessError path err)
    | .ok trail =>
      let names := trail.map (·.1)
      match fs.nodeAt trail with
      | .dir entries =>
        if fs.denies trail.names .read then
          .failed (.withDepth above.length (.io (.custom IoError.denied.message)))
        else
          match above.find? (·.names == names) with
          | some a => .failed (.withDepth above.length (.loop a.path path))
          | none => nodeListing fs (linkListing fuel) path names above (.dir entries)
      | .file _ => .file
      | .link _ | .special => .other

/-- The listing of the node at the end of a trail.  Each link on the way leads to another directory,
so there are no more of them than nodes. -/
def listing (followLinks : Bool) (trail : Trail) : Listing :=
  let onLink := if followLinks then linkListing fs (fs.root.size + 1) else fun _ _ => .other
  nodeListing fs onLink trail.path (trail.map (·.1)) [] (fs.nodeAt trail)

end

end FileSearch.Walk
