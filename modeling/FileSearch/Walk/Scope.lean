import FileSearch.Files.FileSystem
import FileSearch.IgnoreFile.Lines

/-!
# Ignore files of directories

A `Scope` holds the lines of the four ignore files that a directory may have.  What ignore files say
about a path is asked for one kind of file after another, and within a kind from the directory of the
path up to the root.  If none of them says anything, the ignore file counts that git keeps for all
directories (`Walker.gitGlobal`).
-/

namespace FileSearch.Walk

open IgnoreFile (Line)

/-- The names of the ignore files of a directory, those that count more first. -/
def ignoreFileNames : List String := [".agignore", ".ignore", ".gitignore", ".git/info/exclude"]

/-- The lines of the ignore files of a directory, in the order of `ignoreFileNames`. -/
structure Scope where
  dir : Path
  kinds : List (List Line)

namespace Scope

/-- The lines of one ignore file and what is wrong with it.  A file that cannot be read counts as
empty. -/
def readFile (fs : FileSystem) (path : Path) : List Line × Option WalkError :=
  if fs.holds path then
    match fs.read path with
    | .error _ => ([], none)
    | .ok content =>
      let (lines, err) := IgnoreFile.linesOf path content
      (lines, err.filter (·.ioError?.isNone))
  else ([], none)

/-- The ignore files of a directory and what is wrong with them. -/
def read (fs : FileSystem) (dir : Path) : Scope × Option WalkError :=
  let files := ignoreFileNames.map fun name => readFile fs (dir.join (Path.ofString name))
  (⟨dir, files.map (·.1)⟩, IgnoreFile.collected (files.filterMap (·.2)))

/-- The part of a path below a directory. -/
def relativePath (dir path : Path) : Path :=
  let rest := path.extract dir.size path.size
  if rest[0]? == some Path.slash then rest.extract 1 rest.size else rest

/-- What one kind of ignore file of a directory says about a path below it. -/
def verdict (s : Scope) (kind : Nat) (path : Path) (isDir : Bool) : Option Bool :=
  let lines := (s.kinds[kind]?).getD []
  if lines.isEmpty then none else IgnoreFile.verdict lines (relativePath s.dir path) isDir

end Scope

/-- What the ignore files of some directories, the innermost first, say about a path: whether to
ignore it, if they say anything. -/
def verdict (scopes : List Scope) (path : Path) (isDir : Bool) : Option Bool :=
  (List.range ignoreFileNames.length).findSome? fun kind =>
    scopes.findSome? fun s => s.verdict kind path isDir

/-- The directories above one, the nearest first. -/
def parents (dir : Path) : List Path :=
  let rec go : List Name → List Path
    | [] => []
    | _ :: above => joined above.reverse :: go above
  go dir.names.reverse
where
  /-- The path of some names. -/
  joined (names : List Name) : Path :=
    if names.isEmpty then ⟨#[Path.slash]⟩
    else ⟨(names.flatMap fun name => Path.slash :: name).toArray⟩

/-- The ignore files of the directories above one, the nearest first, and what is wrong with them. -/
def outerScopes (fs : FileSystem) (dir : Path) : List Scope × Option WalkError :=
  let read := (parents dir).map (Scope.read fs)
  (read.map (·.1), IgnoreFile.collected (read.reverse.filterMap (·.2)))

end FileSearch.Walk
