import FileSearch.Number.Binary64
import FileSearch.Yaml.Token

/-!
# Nodes of YAML documents

A plain scalar stands for null, a truth value, a number or a text, by its form or by its tag; all
other scalars are texts.
-/

namespace FileSearch.Yaml

/-- A node.  Real numbers keep their text, and of several members of a mapping with one key the last
one counts. -/
inductive Node where
  | null
  | bool (b : Bool)
  | int (n : Int)
  | real (text : String)
  | text (s : String)
  | list (items : List Node)
  | mapping (members : List (Node × Node))
  /-- A scalar that its tag does not admit, or a reference to a node inside that node. -/
  | invalid
  deriving Repr, Inhabited

/-! ## Scalars -/

/-- The value of a digit, in letters of either case from ten on. -/
def digit? (base : Nat) (c : Char) : Option Nat :=
  match hexValue? c with
  | some d => if d < base then some d else none
  | none => none

/-- The number that digits write. -/
def digits? (base : Nat) : List Char → Option Nat
  | [] => none
  | cs => cs.foldlM (fun n c => (digit? base c).map (n * base + ·)) 0

/-- Reads an integer of 64 bits: digits after an optional sign. -/
def int? (base : Nat) (cs : List Char) : Option Int :=
  let n? : Option Int :=
    match cs with
    | '-' :: rest => (digits? base rest).map fun n => -(n : Int)
    | '+' :: rest => (digits? base rest).map fun n => (n : Int)
    | cs => (digits? base cs).map fun n => (n : Int)
  n?.filter fitsSigned

/-- Reads an integer of a plain scalar, which may have the sign of its base or a plus sign in front of
another sign. -/
def plainInt? (cs : List Char) : Option Int :=
  let signed : Option Int :=
    match cs with
    | '0' :: 'x' :: rest => int? 16 rest
    | '0' :: 'o' :: rest => int? 8 rest
    | '+' :: rest => int? 10 rest
    | _ => none
  signed <|> int? 10 cs

/-- The spellings of numbers that are not finite. -/
def specialReals : List String :=
  [".inf", ".Inf", ".INF", "+.inf", "+.Inf", "+.INF", "-.inf", "-.Inf", "-.INF", ".nan", "NaN", ".NAN"]

/-- Whether a text writes a real number. -/
def isReal (s : String) : Bool := specialReals.contains s || (Binary64.read? s).isSome

namespace Node

/-- The node of a plain scalar. -/
def ofPlain (s : String) : Node :=
  match plainInt? s.toList with
  | some n => .int n
  | none =>
    if s = "~" ∨ s = "null" then .null
    else if s = "true" then .bool true
    else if s = "false" then .bool false
    else if isReal s then .real s
    else .text s

/-- The node of a plain scalar with a tag; the four kinds of the secondary handle admit few forms. -/
def ofTagged (t : Tag) (s : String) : Node :=
  if t.handle ≠ "!!" then .text s
  else
    match t.suffix with
    | "bool" => if s = "true" then .bool true else if s = "false" then .bool false else .invalid
    | "int" => ((int? 10 s.toList).map .int).getD .invalid
    | "float" => if isReal s then .real s else .invalid
    | "null" => if s = "~" ∨ s = "null" then .null else .invalid
    | _ => .text s

/-- The node of a scalar. -/
def ofScalar (style : Style) (tag : Option Tag) (s : String) : Node :=
  if style ≠ .plain then .text s
  else
    match tag with
    | some t => ofTagged t s
    | none => ofPlain s

end Node

/-! ## Mappings -/

/-- The members of a mapping that have been read, the last one first, and a key that waits for its
value.  An invalid node does not become a key: the next node takes its place. -/
structure Members where
  read : List (Node × Node) := []
  key : Node := .invalid

namespace Members

/-- Takes in a node, as a key or as a value. -/
def add (m : Members) (n : Node) : Members :=
  match m.key with
  | .invalid => { m with key := n }
  | key => { read := (key, n) :: m.read }

/-- The mapping. -/
def node (m : Members) : Node := .mapping m.read.reverse

end Members

end FileSearch.Yaml
