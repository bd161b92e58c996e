import FileSearch.Config.Value

/-!
# Keys that lead into tables and lists

A key such as `a.b[0]` names a place inside other values.  `KeyPath.ofText` reads a key in this way if
it has this form, and takes any other text as a plain key; `KeyPath.assign` puts a value at the place,
making tables and lists where there are none.
-/

namespace FileSearch.Config

/-- A step from a value to one inside it. -/
inductive PathStep where
  /-- To a member of a table. -/
  | member (key : String)
  /-- To an item of a list, from its end if negative. -/
  | item (index : Int)
  deriving DecidableEq, Repr

/-- Steps from a table on, of which the first one goes to a member. -/
structure KeyPath where
  key : String
  steps : List PathStep := []
  deriving DecidableEq, Repr

namespace KeyPath

/-! ## Reading -/

/-- Whether a character can stand in a name. -/
def isNameChar (c : Char) : Bool := c.isAlphanum || c == ' ' || c == '_' || c == '-'

/-- Whether a character can stand around an index. -/
def isBlank (c : Char) : Bool := c == ' ' || c == '\t'

/-- Reads an index and the bracket behind it. -/
def index? (cs : List Char) : Option (Int × List Char) :=
  let cs := cs.dropWhile isBlank
  let (neg, cs) := match cs with
    | '-' :: rest => (true, rest)
    | cs => (false, cs)
  let (digits, rest) := Binary64.spanDigits cs
  let n : Int := Binary64.digitsValue digits
  let n := if neg then -n else n
  match digits, rest.dropWhile isBlank with
  | _ :: _, ']' :: rest => if fitsSigned n then some (n, rest) else none
  | _, _ => none

/-- Reads steps to the end of a text; `fuel` bounds their number. -/
def steps? : Nat → List Char → Option (List PathStep)
  | _, [] => some []
  | 0, _ => none
  | fuel + 1, '.' :: cs =>
    let name := cs.takeWhile isNameChar
    if name.isEmpty then none
    else (steps? fuel (cs.drop name.length)).map (.member (String.ofList name) :: ·)
  | fuel + 1, '[' :: cs => do
    let (index, rest) ← index? cs
    return .item index :: (← steps? fuel rest)
  | _ + 1, _ => none

/-- The path that a key stands for. -/
def ofText (key : String) : KeyPath :=
  let cs := key.toList
  let name := cs.takeWhile isNameChar
  let rest := cs.drop name.length
  match name, steps? rest.length rest with
  | _ :: _, some steps => ⟨String.ofList name, steps⟩
  | _, _ => ⟨key, []⟩

/-! ## Assigning -/

/-- The items of a list; another value has none. -/
def items : Value → List Value
  | .list _ items => items
  | _ => []

/-- Where a list comes from; nowhere for another value. -/
def listOrigin : Value → Option String
  | .list origin _ => origin
  | _ => none

/-- The place of an index in a list of the given length. -/
def place (index : Int) (length : Nat) : Nat :=
  if index < 0 then length - index.natAbs else index.toNat

/-- The value with an item at a place; items before it that are not there become null. -/
def withItem (v : Value) (i : Nat) (item : Value) : Value :=
  let items := items v
  let filled := items ++ List.replicate (i + 1 - items.length) .null
  .list (listOrigin v) (filled.set i item)

/-- Puts a value at a place inside another one.  Only at a member it is merged. -/
def assignAt (new : Value) : List PathStep → Value → Value
  | [], _ => new
  | [.member key], v => v.withMember key (.merge (v.members.get? key) new)
  | .member key :: rest, v =>
    v.withMember key (assignAt new rest ((v.members.get? key).getD .null))
  | .item index :: rest, v =>
    let i := place index (items v).length
    withItem v i (assignAt new rest ((items v)[i]?.getD .null))

/-- Puts a value at a place of a table. -/
def assign (path : KeyPath) (new : Value) (t : Value) : Value :=
  assignAt new (.member path.key :: path.steps) t

end KeyPath

/-- A table with the members of another one laid over it, whose keys may be paths. -/
def Value.overlay (t : Value) (layer : Table) : Value :=
  layer.foldl (fun t m => (KeyPath.ofText m.1).assign m.2 t) t

end FileSearch.Config
