import FileSearch.Text.Utf8

/-!
# Paths

A path is a byte string in which slashes separate names.  Paths are compared byte by byte, not
name by name.
-/

namespace FileSearch

/-- A path. -/
abbrev Path := ByteArray

namespace Path

/-- The slash. -/
def slash : UInt8 := 0x2F

/-- The path as text, with replacement characters for what is no text. -/
def display (p : Path) : String := Utf8.decodeLossy p

/-- The path of a text. -/
def ofString (s : String) : Path := s.toUTF8

/-- The order of byte strings. -/
def bytesLe : List UInt8 → List UInt8 → Bool
  | [], _ => true
  | _ :: _, [] => false
  | a :: as, b :: bs => a < b || (a == b && bytesLe as bs)

/-- The order of paths as byte strings. -/
def le (p q : Path) : Bool := bytesLe p.data.toList q.data.toList

/-- The parts between slashes. -/
def split (bytes : List UInt8) : List (List UInt8) := go bytes []
where
  /-- Collects the bytes of the current part in reverse. -/
  go : List UInt8 → List UInt8 → List (List UInt8)
    | [], cur => [cur.reverse]
    | b :: rest, cur => if b == slash then cur.reverse :: go rest [] else go rest (b :: cur)

/-- The names of a path, without empty ones and those that stay in place. -/
def names (p : Path) : List (List UInt8) :=
  (split p.data.toList).filter fun n => !n.isEmpty && n != [0x2E]

/-- Whether a path begins at the root. -/
def isAbsolute (p : Path) : Bool := p.data.toList.head? == some slash

/-- A path extended by a name or a relative path. -/
def join (p : Path) (name : Path) : Path :=
  if isAbsolute name || p.isEmpty then name
  else if p.data.toList.getLast? == some slash then p ++ name
  else (p.push slash) ++ name

/-- The last name of a path, unless it goes up. -/
def fileName? (p : Path) : Option Path :=
  match (names p).getLast? with
  | some n => if n == [0x2E, 0x2E] then none else some ⟨n.toArray⟩
  | none => none

/-! ## Endings of names -/

/-- The dot. -/
def dot : UInt8 := 0x2E

/-- What follows the last dot of a name, unless the name has no dot or only one at its front. -/
def extension? (name : List UInt8) : Option (List UInt8) :=
  let ending := name.reverse.takeWhile (· != dot)
  if name.length ≤ ending.length + 1 ∨ name == [dot, dot] then none else some ending.reverse

/-- A path with an ending appended to its last name; what stands behind the name is dropped.  There
is none if the path has no name or goes up at its end. -/
def withEnding? (p : Path) (ending : String) : Option Path :=
  let parts := ((split p.data.toList).reverse.dropWhile fun n => n.isEmpty || n == [dot]).reverse
  match parts.getLast? with
  | none => none
  | some name =>
    if name == [dot, dot] then none
    else some (⟨([slash].intercalate parts).toArray⟩ ++ ofString ending)

/-- The way from the directory `base` to the place `names`, both given from the root on. -/
def between : List (List UInt8) → List (List UInt8) → List (List UInt8)
  | a :: base, b :: names =>
    if a == b then between base names
    else List.replicate (base.length + 1) [dot, dot] ++ b :: names
  | base, names => base.map (fun _ => [dot, dot]) ++ names

/-- A path relative to a directory. -/
def relativeTo (p : Path) (base : List (List UInt8)) : Path :=
  ⟨([slash].intercalate (between base (names p))).toArray⟩

end Path

end FileSearch
