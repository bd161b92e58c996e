import FileSearch.Files.IoError
import FileSearch.Files.Path

/-!
# File systems

A file system is a tree of directories, files and symbolic links, with a current directory.  What a
program may do with a node depends on where the node is.  `FileSystem.resolve` follows a path to a
node through directories that may be searched; links on the way are followed, a link at the end if
asked for.  A resolved node is named by its `Trail`, the nodes from it up to the root.
-/

namespace FileSearch

/-- A name in a directory. -/
abbrev Name := List UInt8

/-- What a directory holds. -/
inductive Node where
  | file (content : ByteArray)
  | dir (entries : List (Name × Node))
  | link (target : Path)
  /-- Something that cannot be opened, such as a socket. -/
  | special
  deriving Inhabited

namespace Node

/-- The entry of a name. -/
def lookup (entries : List (Name × Node)) (name : Name) : Option Node :=
  (entries.find? (·.1 == name)).map (·.2)

/-- The entries with one added or replaced. -/
def put (entries : List (Name × Node)) (name : Name) (node : Node) : List (Name × Node) :=
  if entries.any (·.1 == name) then
    entries.map fun e => if e.1 == name then (name, node) else e
  else entries ++ [(name, node)]

mutual

/-- The number of nodes of a tree. -/
def size : Node → Nat
  | .dir entries => sizes entries + 1
  | _ => 1

/-- The number of nodes below some entries. -/
def sizes : List (Name × Node) → Nat
  | [] => 0
  | (_, node) :: rest => node.size + sizes rest

end

/-- The tree with a node at the place that names lead to; directories on the way are made. -/
def insert (new : Node) : List Name → Node → Node
  | [], _ => new
  | name :: names, .dir entries =>
    .dir (put entries name (insert new names ((lookup entries name).getD (.dir []))))
  | _ :: _, node => node

/-- The tree without the node that names lead to. -/
def remove : List Name → Node → Node
  | [name], .dir entries => .dir (entries.filter (·.1 != name))
  | name :: names, .dir entries =>
    .dir (entries.map fun e => if e.1 == name then (e.1, remove names e.2) else e)
  | _, node => node

end Node

/-- What a program may be denied: to read a file or to list a directory, and to look up names in a
directory. -/
inductive Access where
  | read
  | search
  deriving DecidableEq, Repr

/-- A tree of nodes with a current directory, given by names from the root on. -/
structure FileSystem where
  root : Node
  cwd : List Name := []
  /-- What is denied to the program at the node to which names lead from the root. -/
  denies : List Name → Access → Bool := fun _ _ => false

/-- A node with its name, and those above it, the root aside. -/
abbrev Trail := List (Name × Node)

namespace Trail

/-- The names from the root on. -/
def names (t : Trail) : List Name := (t.map (·.1)).reverse

/-- The path from the root on. -/
def path (t : Trail) : Path :=
  if t.isEmpty then ⟨#[Path.slash]⟩
  else ⟨(t.names.flatMap fun name => Path.slash :: name).toArray⟩

end Trail

namespace FileSystem

/-- The greatest number of bytes of a name. -/
def longestName : Nat := 255

/-- The number of bytes that paths must stay below. -/
def pathBound : Nat := 4096

/-- The greatest number of links that one path may lead through. -/
def mostLinks : Nat := 40

/-- The steps that a path asks for, one for each name.  A slash at the end asks for a directory. -/
def steps (p : Path) : List Name :=
  let parts := Path.split p.data.toList
  (parts.filter (!·.isEmpty)) ++ if parts.getLast? == some [] then [[0x2E]] else []

/-- The node that a trail ends at. -/
def nodeAt (fs : FileSystem) (t : Trail) : Node := (t.head?.map (·.2)).getD fs.root

/-- Takes steps from a node.  `links` bounds the number of links on the way; one at the end is
followed only if asked for. -/
def follow (fs : FileSystem) (followLast : Bool) (links : Nat) (t : Trail) (todo : List Name) :
    Except IoError Trail :=
  match todo with
  | [] => .ok t
  | name :: rest =>
    match fs.nodeAt t with
    | .dir entries =>
      if fs.denies t.names .search then .error .denied
      else if name == [0x2E] then fs.follow followLast links t rest
      else if name == [0x2E, 0x2E] then fs.follow followLast links t.tail rest
      else if longestName < name.length then .error .nameTooLong
      else
        match Node.lookup entries name with
        | none => .error .missing
        | some (.link target) =>
          if rest.isEmpty && !followLast then .ok ((name, .link target) :: t)
          else
            match links with
            | 0 => .error .tooManyLinks
            | links + 1 =>
              fs.follow followLast links (if target.isAbsolute then [] else t) (steps target ++ rest)
        | some node => fs.follow followLast links ((name, node) :: t) rest
    | _ => .error .notDirectory
termination_by (links, todo.length)

/-- The trail of the current directory. -/
def here (fs : FileSystem) : Except IoError Trail := fs.follow true mostLinks [] fs.cwd

/-- The node of a path. -/
def resolve (fs : FileSystem) (p : Path) (followLast : Bool) : Except IoError Trail :=
  if p.data.contains 0 then .error .nulByte
  else if p.isEmpty then .error .missing
  else if pathBound ≤ p.size then .error .nameTooLong
  else do
    let start ← if p.isAbsolute then pure [] else fs.here
    fs.follow followLast mostLinks start (steps p)

/-- The path without links of the node of a path. -/
def canonicalize (fs : FileSystem) (p : Path) : Except IoError Path :=
  (fs.resolve p true).map Trail.path

/-- Whether a path leads to a node. -/
def holds (fs : FileSystem) (p : Path) : Bool := (fs.resolve p true).toBool

/-- Whether a path leads to a file. -/
def isFile (fs : FileSystem) (p : Path) : Bool :=
  match fs.resolve p true with
  | .ok t => (fs.nodeAt t matches .file _)
  | .error _ => false

/-- The path of the current directory, as it was chosen. -/
def cwdPath (fs : FileSystem) : Path := ⟨(fs.cwd.flatMap fun name => Path.slash :: name).toArray⟩

/-- The content of a file. -/
def read (fs : FileSystem) (p : Path) : Except IoError ByteArray := do
  let trail ← fs.resolve p true
  if fs.denies trail.names .read then throw .denied
  match fs.nodeAt trail with
  | .file content => return content
  | .dir _ => throw .isDirectory
  | _ => throw .noDevice

/-- Why the directory of a path cannot be listed, if it cannot. -/
def listError? (fs : FileSystem) (p : Path) : Option IoError :=
  match fs.resolve p true with
  | .error err => some err
  | .ok trail => if fs.denies trail.names .read then some .denied else none

/-! ## Changes -/

/-- The names that lead to the place of a path, from the root on, as far as its directories are
there; names after them are kept as they are. -/
def place (fs : FileSystem) (p : Path) : List Name :=
  let todo := if p.isAbsolute then steps p else fs.cwd ++ steps p
  go todo.dropLast [] ++ (todo.getLast?).toList
where
  /-- Goes from a directory into the next ones. -/
  go : List Name → Trail → List Name
    | [], t => t.names
    | name :: rest, t =>
      match fs.follow true mostLinks t [name] with
      | .ok t => go rest t
      | .error _ => t.names ++ name :: rest

/-- The file system with a node at a path; directories on the way are made. -/
def insert (fs : FileSystem) (p : Path) (node : Node) : FileSystem :=
  { fs with root := node.insert (fs.place p) fs.root }

/-- The file system with a file at a path; a link there is written through. -/
def write (fs : FileSystem) (p : Path) (content : ByteArray) : FileSystem :=
  match fs.resolve p true with
  | .ok t => { fs with root := (Node.file content).insert t.names fs.root }
  | .error _ => fs.insert p (.file content)

/-- The file system with a directory at a path, if there is nothing yet. -/
def makeDir (fs : FileSystem) (p : Path) : FileSystem :=
  if fs.holds p then fs else fs.insert p (.dir [])

/-- The file system without what is at a path. -/
def remove (fs : FileSystem) (p : Path) : FileSystem :=
  { fs with root := fs.root.remove (fs.place p) }

end FileSystem

end FileSearch
