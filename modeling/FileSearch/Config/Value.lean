import FileSearch.Number.Binary64

/-!
# Values of configuration files

A value of a configuration file, with the file it comes from.  Tables have one value for each key.
`Value.merge` lays one value over another: tables are merged member by member, and any other value
replaces what it is laid over.
-/

namespace FileSearch.Config

/-- A value without inner values. -/
inductive Scalar where
  | null
  | bool (b : Bool)
  | int (n : Int)
  | float (x : Binary64)
  | text (s : String)
  deriving DecidableEq, Repr, Inhabited

/-- A value with the name of the file it comes from, if it comes from one file. -/
inductive Value where
  | scalar (origin : Option String) (s : Scalar)
  | list (origin : Option String) (items : List Value)
  | table (origin : Option String) (members : List (String × Value))
  deriving Repr, Inhabited

/-- Values with their keys. -/
abbrev Table := List (String × Value)

namespace Table

/-- The value of a key. -/
def get? (t : Table) (key : String) : Option Value := (t.find? (·.1 = key)).map (·.2)

/-- The table with a value for a key. -/
def put (t : Table) (key : String) (v : Value) : Table :=
  match t with
  | [] => [(key, v)]
  | m :: rest => if m.1 = key then (key, v) :: rest else m :: put rest key v

theorem get?_put_self (t : Table) (key : String) (v : Value) :
    (t.put key v).get? key = some v := by
  induction t with
  | nil => simp [put, get?]
  | cons m rest ih =>
    by_cases h : m.1 = key
    · simp [put, get?, h]
    · simpa [put, get?, h] using ih

theorem get?_put_of_ne (t : Table) {key other : String} (v : Value) (h : key ≠ other) :
    (t.put key v).get? other = t.get? other := by
  induction t with
  | nil => simp [put, get?, h]
  | cons m rest ih =>
    by_cases hm : m.1 = key
    · simp [put, get?, hm, h]
    · by_cases ho : m.1 = other
      · simp [put, get?, ho, h.symm]
      · simpa [put, get?, hm, ho] using ih

end Table

namespace Value

/-- The value that stands for none. -/
def null : Value := .scalar none .null

/-- The members of a table; another value has none. -/
def members : Value → Table
  | .table _ members => members
  | _ => []

/-- Where a table comes from; nowhere for another value. -/
def tableOrigin : Value → Option String
  | .table origin _ => origin
  | _ => none

/-- The value with a member; if it is no table, the member is its only one. -/
def withMember (v : Value) (key : String) (member : Value) : Value :=
  .table v.tableOrigin (v.members.put key member)

mutual

/-- A value laid over another one, if there is one. -/
def merge (old : Option Value) : Value → Value
  | .scalar origin s => .scalar origin s
  | .list origin items => .list origin items
  | .table _ members => mergeMembers (old.getD (.table none [])) members

/-- The members of a table laid over a value. -/
def mergeMembers (old : Value) : List (String × Value) → Value
  | [] => old
  | (key, v) :: rest => mergeMembers (old.withMember key (merge (old.members.get? key) v)) rest

end

end Value

end FileSearch.Config
