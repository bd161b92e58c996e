import FileSearch.Config.Decode
import FileSearch.Json.Value

/-!
# Configurations as JSON values

`Config.toJson` writes all settings of a configuration, and `Config.ofJson` reads an object of named
settings or an array of settings in their order.
-/

namespace FileSearch.Config

/-- A number or null. -/
def countJson (n : Option UInt64) : Json := (n.map fun n => Json.nat n.toNat).getD .null

/-- The value of a configuration. -/
def toJson (c : Config) : Json :=
  .obj [
    ("num_workers", .nat c.numWorkers.toNat),
    ("search_binary_files", .bool c.searchBinaryFiles),
    ("ignore_patterns", .arr (c.ignorePatterns.map .str)),
    ("case_sensitive", .bool c.caseSensitive),
    ("smart_case", .bool c.smartCase),
    ("literal", .bool c.literal),
    ("recurse_dirs", .bool c.recurseDirs),
    ("follow_symlinks", .bool c.followSymlinks),
    ("skip_hidden", .bool c.skipHidden),
    ("respect_ignore_files", .bool c.respectIgnoreFiles),
    ("deterministic", .bool c.deterministic),
    ("max_matches_per_file", countJson c.maxMatchesPerFile),
    ("timeout", (c.timeout.map fun d => Json.str d.text).getD .null),
    ("workers_behavior", .str c.workersBehavior.name),
    ("chunk_overlap", .nat c.chunkOverlap.toNat),
    ("log_level", .str c.logLevel)]

/-! ## Reading -/

/-- Why a JSON value is no configuration. -/
inductive JsonError where
  /-- A value of the wrong type. -/
  | type (unexpected expected : String)
  /-- A value of the right type that is not allowed. -/
  | value (unexpected expected : String)
  /-- A behaviour that there is none of. -/
  | unknownBehavior (name : String)
  /-- A text that is no duration. -/
  | duration (err : Duration.ReadError)
  /-- More items than there are settings. -/
  | tooManyItems (count : Nat)
  deriving DecidableEq, Repr

/-- The wording of an error. -/
def JsonError.message : JsonError → String
  | .type unexpected expected => "invalid type: " ++ unexpected ++ ", expected " ++ expected
  | .value unexpected expected => "invalid value: " ++ unexpected ++ ", expected " ++ expected
  | .unknownBehavior name =>
    "unknown variant `" ++ name ++ "`, expected one of `on_init`, `manual`, `on_search`"
  | .duration err => err.message
  | .tooManyItems count =>
    "invalid length " ++ toString count ++ ", expected fewer elements in array"

/-- What a value is, for messages. -/
def describe : Json → String
  | .null => "null"
  | .bool b => "boolean `" ++ (if b then "true" else "false") ++ "`"
  | .num (.float x) => "floating point `" ++ (Json.Number.float x).render ++ "`"
  | .num n => "integer `" ++ n.render ++ "`"
  | .str s => "string " ++ Text.quoted s
  | .arr _ => "sequence"
  | .obj _ => "map"

/-- Reports a value of the wrong type. -/
def wrongType {α : Type} (v : Json) (expected : String) : Except JsonError α :=
  .error (.type (describe v) expected)

/-- Reads a number. -/
def countOfJson : Json → Except JsonError UInt64
  | .num (.nat n) => .ok n.toUInt64
  | .num (.neg n) => .error (.value (describe (.num (.neg n))) "usize")
  | v => wrongType v "usize"

/-- Reads a truth value. -/
def flagOfJson : Json → Except JsonError Bool
  | .bool b => .ok b
  | v => wrongType v "a boolean"

/-- Reads a text. -/
def textOfJson : Json → Except JsonError String
  | .str s => .ok s
  | v => wrongType v "a string"

/-- Reads a list of texts. -/
def textsOfJson : Json → Except JsonError (List String)
  | .arr items => items.mapM textOfJson
  | v => wrongType v "a sequence"

/-- Reads the name of a behaviour. -/
def behaviorOfName (name : String) : Except JsonError WorkersBehavior :=
  match WorkersBehavior.ofName? name with
  | some w => .ok w
  | none => .error (.unknownBehavior name)

/-- Reads a behaviour: its name, alone or as the only key of an object with the value null. -/
def behaviorOfJson : Json → Except JsonError WorkersBehavior
  | .str name => behaviorOfName name
  | .obj [(name, v)] => do
    let w ← behaviorOfName name
    match v with
    | .null => return w
    | v => wrongType v "unit"
  | .obj _ => .error (.value "map" "map with a single key")
  | v => wrongType v "string or map"

/-- How JSON values are read. -/
def jsonDecoder : Decoder Json JsonError where
  count := countOfJson
  flag := flagOfJson
  text := textOfJson
  texts := textsOfJson
  behavior := behaviorOfJson
  isNull v := v matches .null
  badDuration := .duration

/-- The members of an object in ascending order of their keys; of several with one key the last. -/
def sortedMembers {ν : Type} (members : List (String × ν)) : List (String × ν) :=
  let distinct := members.foldr (fun m acc => if acc.any (·.1 = m.1) then acc else m :: acc) []
  distinct.mergeSort fun a b => a.1 ≤ b.1

/-- Reads a configuration.  Of several faults the one of the least key counts. -/
def ofJson : Json → Except JsonError Config
  | .obj members => jsonDecoder.fromMembers (sortedMembers members)
  | .arr items => do
    let c ← jsonDecoder.fromItems items
    if jsonDecoder.settings.length < items.length then throw (.tooManyItems items.length)
    return c
  | v => wrongType v "struct EngineConfig"

end FileSearch.Config
