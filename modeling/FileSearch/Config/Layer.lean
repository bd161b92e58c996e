import FileSearch.Config.Error
import FileSearch.Config.Value
import FileSearch.Json.Read
import FileSearch.Yaml.Document

/-!
# Layers of a configuration

A layer is the table that one file holds, in one of several formats; if its outermost value is no
table, the layer is empty.  YAML and JSON are read here.  How the other formats are read, and in
which order the endings of all formats are tried, is told by the `Formats` that a configuration is
loaded with.
-/

namespace FileSearch.Config

namespace Value

/-! ## From YAML -/

mutual

/-- The value of a node in a file.  Members whose key is no text are left out; a number that cannot
be read is reported. -/
def ofNode (origin : Option String) : Yaml.Node → Except String Value
  | .null => .ok (.scalar origin .null)
  | .bool b => .ok (.scalar origin (.bool b))
  | .int n => .ok (.scalar origin (.int n))
  | .real text =>
    match Binary64.read? text with
    | some x => .ok (.scalar origin (.float x))
    | none => .error ("Parsing " ++ text ++ " as floating point number failed")
  | .text s => .ok (.scalar origin (.text s))
  | .list items => (ofNodes origin items).map (.list origin)
  | .mapping members => (ofMembers origin members []).map (.table origin)
  | .invalid => .ok (.scalar origin .null)

/-- The values of nodes. -/
def ofNodes (origin : Option String) : List Yaml.Node → Except String (List Value)
  | [] => .ok []
  | n :: rest => do
    let v ← ofNode origin n
    return v :: (← ofNodes origin rest)

/-- A table with the members of a mapping. -/
def ofMembers (origin : Option String) :
    List (Yaml.Node × Yaml.Node) → Table → Except String Table
  | [], t => .ok t
  | (.text key, n) :: rest, t => do ofMembers origin rest (t.put key (← ofNode origin n))
  | (_, _) :: rest, t => ofMembers origin rest t

end

/-! ## From JSON -/

/-- The value of a number: an integer as far as 64 bits with a sign hold it. -/
def ofNumber : Json.Number → Scalar
  | .nat n => if fitsSigned n then .int n else .float (.ofNat n)
  | .neg n => .int (-(n : Int))
  | .float x => .float x

mutual

/-- The value of a JSON value in a file. -/
def ofJson (origin : Option String) : Json → Value
  | .null => .scalar origin .null
  | .bool b => .scalar origin (.bool b)
  | .num n => .scalar origin (ofNumber n)
  | .str s => .scalar origin (.text s)
  | .arr items => .list origin (ofItems origin items)
  | .obj members => .table origin (ofObject origin members [])

/-- The values of JSON values. -/
def ofItems (origin : Option String) : List Json → List Value
  | [] => []
  | v :: rest => ofJson origin v :: ofItems origin rest

/-- A table with the members of an object. -/
def ofObject (origin : Option String) : List (String × Json) → Table → Table
  | [], t => t
  | (key, v) :: rest, t => ofObject origin rest (t.put key (ofJson origin v))

end

end Value

/-! ## Formats -/

/-- The formats of configuration files whose reading is not told here. -/
inductive OtherFormat where
  | toml
  | ini
  | ron
  | json5
  deriving DecidableEq, Repr

/-- The formats of configuration files. -/
inductive Format where
  | yaml
  | json
  | other (f : OtherFormat)
  deriving DecidableEq, Repr

/-- All formats. -/
def Format.all : List Format :=
  [.yaml, .json, .other .toml, .other .ini, .other .ron, .other .json5]

/-- The endings of the names of files in a format, in the order in which they are tried. -/
def Format.endings : Format → List String
  | .yaml => ["yaml", "yml"]
  | .json => ["json"]
  | .other .toml => ["toml"]
  | .other .ini => ["ini"]
  | .other .ron => ["ron"]
  | .other .json5 => ["json5"]

/-- The format of an ending. -/
def Format.ofEnding? (ending : List UInt8) : Option Format :=
  all.find? fun f => f.endings.any fun e => e.toUTF8.data.toList == ending

/-- What loading relies on beyond YAML and JSON. -/
structure Formats where
  /-- The outermost value of a text in another format. -/
  read : OtherFormat → Option String → String → Except String Value
  /-- The formats in the order in which their endings are tried.  It may be any one. -/
  order : List Format
  complete : order.Perm Format.all

/-- All endings with their formats, in the order in which they are tried. -/
def Formats.endings (formats : Formats) : List (String × Format) :=
  formats.order.flatMap fun f => f.endings.map fun e => (e, f)

/-! ## Reading files -/

/-- The only document of a YAML text, an empty mapping if there is none. -/
def onlyDocument (text : String) : Except String Yaml.Node := do
  match Yaml.documents text with
  | .error f => throw f.message
  | .ok [] => return .mapping []
  | .ok [n] => return n
  | .ok ns => throw ("Got " ++ toString ns.length ++ " YAML documents, expected 1")

/-- The outermost value of a YAML text. -/
def yamlValue (origin : Option String) (text : String) : Except String Value := do
  Value.ofNode origin (← onlyDocument text)

/-- The outermost value of a JSON text. -/
def jsonValue (origin : Option String) (text : String) : Except String Value :=
  let bytes := text.toUTF8.data.toList
  match Json.read bytes with
  | .ok v => .ok (.ofJson origin v)
  | .error f => .error (f.message bytes)

namespace Formats

/-- The outermost value of a file's text. -/
def value (formats : Formats) : Format → Option String → String → Except String Value
  | .yaml => yamlValue
  | .json => jsonValue
  | .other f => formats.read f

/-- The layer that a file holds. -/
def layer (formats : Formats) (f : Format) (name : String) (content : ByteArray) :
    Except LoadError Table :=
  match Utf8.decode? content with
  | none => .error (.message "stream did not contain valid UTF-8")
  | some text =>
    match formats.value f (some name) text with
    | .ok v => .ok v.members
    | .error cause => .error (.file (some name) cause)

end Formats

end FileSearch.Config
