import FileSearch.Config.Decode
import FileSearch.Config.Error
import FileSearch.Config.Value
import FileSearch.Unicode.Lowercase

/-!
# Configurations from configuration files

Values of configuration files are read generously: truth values, numbers and texts stand for one
another where that makes sense.  A value of the wrong type is reported with its place and its file.
-/

namespace FileSearch.Config

/-- A value with the place where it stands. -/
structure Located where
  key : String
  value : Value

namespace Located

/-- The file that a value comes from. -/
def origin (v : Located) : Option String :=
  match v.value with
  | .scalar origin _ => origin
  | .list origin _ => origin
  | .table origin _ => origin

/-- Reports a value of the wrong type. -/
def wrongType {α : Type} (v : Located) (unexpected expected : String) : Except LoadError α :=
  .error (.type v.origin unexpected expected (some v.key))

/-- What a text is, for messages. -/
def describeText (s : String) : String := "string " ++ Text.quoted s

/-- Reports null or a value with inner values. -/
def noScalar {α : Type} (v : Located) (expected : String) : Except LoadError α :=
  v.wrongType
    (match v.value with
      | .scalar _ _ => "unit value"
      | .list _ _ => "sequence"
      | .table _ _ => "map")
    expected

/-- The words for "yes". -/
def yesWords : List String := ["true", "on", "yes"]

/-- The words for "no". -/
def noWords : List String := ["false", "off", "no"]

/-- The number that decimal digits write, after an optional plus sign, if 64 bits hold it. -/
def digitsCount? (s : String) : Option Nat :=
  let cs := match s.toList with
    | '+' :: cs => cs
    | cs => cs
  if cs.isEmpty ∨ !cs.all Char.isDigit then none
  else
    let n := Binary64.digitsValue cs
    if n < UInt64.size then some n else none

/-- Reads a number.  Words stand for zero and one, and other numbers are rounded to the nearest one
that 64 bits hold. -/
def count (v : Located) : Except LoadError UInt64 :=
  match v.value with
  | .scalar _ (.bool b) => .ok (if b then 1 else 0)
  | .scalar _ (.int n) =>
    if n < 0 then
      v.wrongType ("integer 64 bit `" ++ toString n ++ "`") "an unsigned 64 bit or less integer"
    else .ok n.toNat.toUInt64
  | .scalar _ (.float x) => .ok (x.toIntWithin 0 18446744073709551615).toNat.toUInt64
  | .scalar _ (.text s) =>
    let word := Unicode.lowercased s
    if yesWords.contains word then .ok 1
    else if noWords.contains word then .ok 0
    else
      match digitsCount? s with
      | some n => .ok n.toUInt64
      | none => v.wrongType (describeText s) "an integer"
  | _ => v.noScalar "an integer"

/-- Reads a truth value. -/
def flag (v : Located) : Except LoadError Bool :=
  match v.value with
  | .scalar _ (.bool b) => .ok b
  | .scalar _ (.int n) => .ok (n != 0)
  | .scalar _ (.float x) => .ok !x.isZero
  | .scalar _ (.text s) =>
    let word := Unicode.lowercased s
    if word = "1" ∨ yesWords.contains word then .ok true
    else if word = "0" ∨ noWords.contains word then .ok false
    else v.wrongType (describeText word) "a boolean"
  | _ => v.noScalar "a boolean"

/-- Reads a text. -/
def text (v : Located) : Except LoadError String :=
  match v.value with
  | .scalar _ (.text s) => .ok s
  | .scalar _ (.bool b) => .ok (if b then "true" else "false")
  | .scalar _ (.int n) => .ok (toString n)
  | .scalar _ (.float x) => .ok x.toText
  | _ => v.noScalar "a string"

/-- Reads texts one by one, the first one at the given place of a list. -/
def textItems (key : String) : Nat → List Value → Except LoadError (List String)
  | _, [] => .ok []
  | i, v :: rest => do
    let s ← text ⟨key ++ "[" ++ toString i ++ "]", v⟩
    return s :: (← textItems key (i + 1) rest)

/-- What a value is that is no list, for messages. -/
def describe : Value → String
  | .scalar _ .null => "unit value"
  | .scalar _ (.bool b) => "boolean `" ++ (if b then "true" else "false") ++ "`"
  | .scalar _ (.int n) => "integer `" ++ toString n ++ "`"
  | .scalar _ (.float x) => "floating point `" ++ x.toPointText ++ "`"
  | .scalar _ (.text s) => describeText s
  | .list _ _ => "sequence"
  | .table _ _ => "map"

/-- Reads a list of texts. -/
def texts (v : Located) : Except LoadError (List String) :=
  match v.value with
  | .list _ items => textItems v.key 0 items
  | other => .error (.message ("invalid type: " ++ describe other ++ ", expected a sequence"))

/-- Reads the name of a behaviour. -/
def behaviorOfName (name : String) : Except LoadError WorkersBehavior :=
  match WorkersBehavior.ofName? name with
  | some w => .ok w
  | none =>
    .error (.message ("enum WorkersBehavior does not have variant constructor " ++ name))

/-- Reads a behaviour: its name, alone or as the only key of a table. -/
def behavior (v : Located) : Except LoadError WorkersBehavior :=
  match v.value with
  | .scalar _ (.text name) => behaviorOfName name
  | .table _ [(name, _)] => behaviorOfName name
  | _ => .error (.message ("value of enum WorkersBehavior should be represented by either " ++
      "string or table with exactly one key"))

/-- Whether a value is null. -/
def isNull (v : Located) : Bool := v.value matches .scalar _ .null

/-- How values of configuration files are read. -/
def decoder : Decoder Located LoadError where
  count := count
  flag := flag
  text := text
  texts := texts
  behavior := behavior
  isNull := isNull
  badDuration e := .message e.message

end Located

/-- Reads a configuration from the members of a table. -/
def ofTable (t : Table) : Except LoadError Config :=
  Located.decoder.fromMembers (t.map fun m => (m.1, ⟨m.1, m.2⟩))

end FileSearch.Config
