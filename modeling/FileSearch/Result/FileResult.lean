import FileSearch.Files.Path
import FileSearch.Json.Value
import FileSearch.Result.Flags
import FileSearch.Scan.Finder

/-!
# What a search says about single files

A `FileResult` holds the matches of a file, a `SkippedPath` the reason why a path was passed over.
-/

namespace FileSearch

/-- A file whose content has been looked at. -/
structure FileEntry where
  path : Path
  isBinary : Bool
  size : Nat
  deriving DecidableEq

/-- The matches of a file, in their order. -/
structure FileResult where
  file : FileEntry
  found : List Match
  flags : Flags
  deriving DecidableEq

namespace FileResult

/-- Whether the file is marked as binary. -/
def isBinary (r : FileResult) : Bool := r.flags.contains .binaryFile

/-- Whether the result is marked as cut off. -/
def isTruncated (r : FileResult) : Bool := r.flags.contains .truncated

end FileResult

/-- A path that was passed over, if the failure is tied to one, and why. -/
structure SkippedPath where
  path : Option Path
  reason : String
  deriving DecidableEq

namespace SkippedPath

/-- The value of a skipped path; there is none if the path is no text. -/
def toJson? (s : SkippedPath) : Option Json :=
  match s.path with
  | none => some (.obj [("path", .null), ("reason", .str s.reason)])
  | some p => (Utf8.decode? p).map fun p => .obj [("path", .str p), ("reason", .str s.reason)]

/-- The order of skipped paths: those without a path first, then by the bytes of the path, then by
the reason. -/
def le (a b : SkippedPath) : Bool :=
  match a.path, b.path with
  | none, some _ => true
  | some _, none => false
  | none, none => a.reason ≤ b.reason
  | some p, some q => if p = q then a.reason ≤ b.reason else p.le q

end SkippedPath

end FileSearch
