import FileSearch.Config.Layer
import FileSearch.Proofs.Config.Merge

/-!
# The table of a file

A node of a YAML text becomes a value unless it holds a real that is no number that can be read
(`isOk_ofNode`), and a mapping with plain keys becomes a plain table (`plain_ofMembers`), as an
object of a JSON text does (`plain_ofObject`).  So it can be told from the text of a file whether it
can be read (`Formats.isOk_valueOf`) and whether its table is plain (`Formats.plain_valueOf`).
-/

namespace FileSearch.Config

theorem bind_eq_ok_iff {ε α β : Type} {x : Except ε α} {f : α → Except ε β} {b : β} :
    x >>= f = .ok b ↔ ∃ a, x = .ok a ∧ f a = .ok b := by
  cases x <;> simp [bind, Except.bind]

theorem map_eq_ok_iff {ε α β : Type} {x : Except ε α} {f : α → β} {b : β} :
    x.map f = .ok b ↔ ∃ a, x = .ok a ∧ f a = b := by
  cases x <;> simp [Except.map]

/-! ## Reals that can be read -/

mutual

/-- Whether all reals of a node are numbers that can be read.  Members whose key is no text do not
count. -/
def nodeIsReadable : Yaml.Node → Bool
  | .real text => (Binary64.read? text).isSome
  | .list items => nodesAreReadable items
  | .mapping members => membersAreReadable members
  | _ => true

/-- Whether all reals of some nodes are numbers that can be read. -/
def nodesAreReadable : List Yaml.Node → Bool
  | [] => true
  | n :: rest => nodeIsReadable n && nodesAreReadable rest

/-- Whether all reals below the keys of a mapping that are texts are numbers that can be read. -/
def membersAreReadable : List (Yaml.Node × Yaml.Node) → Bool
  | [] => true
  | (.text _, n) :: rest => nodeIsReadable n && membersAreReadable rest
  | (_, _) :: rest => membersAreReadable rest

end

mutual

theorem isOk_ofNode (origin : Option String) :
    ∀ n, (Value.ofNode origin n).isOk = nodeIsReadable n
  | .null | .bool _ | .int _ | .text _ | .invalid => by
    rw [Value.ofNode, nodeIsReadable]
    · rfl
    all_goals nofun
  | .real text => by
    rw [Value.ofNode, nodeIsReadable]
    cases Binary64.read? text <;> rfl
  | .list items => by
    rw [Value.ofNode, nodeIsReadable, ← isOk_ofNodes origin items]
    cases Value.ofNodes origin items <;> rfl
  | .mapping members => by
    rw [Value.ofNode, nodeIsReadable, ← isOk_ofMembers origin members []]
    cases Value.ofMembers origin members [] <;> rfl

theorem isOk_ofNodes (origin : Option String) :
    ∀ ns, (Value.ofNodes origin ns).isOk = nodesAreReadable ns
  | [] => by
    rw [Value.ofNodes, nodesAreReadable]
    rfl
  | n :: rest => by
    rw [Value.ofNodes, nodesAreReadable, ← isOk_ofNode origin n, ← isOk_ofNodes origin rest]
    cases Value.ofNode origin n with
    | error e => rfl
    | ok v => cases Value.ofNodes origin rest <;> rfl

theorem isOk_ofMembers (origin : Option String) :
    ∀ members t, (Value.ofMembers origin members t).isOk = membersAreReadable members
  | [], t => by
    rw [Value.ofMembers, membersAreReadable]
    rfl
  | (key, n) :: rest, t => by
    cases key with
    | text key =>
      rw [Value.ofMembers, membersAreReadable, ← isOk_ofNode origin n]
      cases Value.ofNode origin n with
      | error e => rfl
      | ok v => exact isOk_ofMembers origin rest (t.put key v)
    | _ =>
      rw [Value.ofMembers, membersAreReadable]
      · exact isOk_ofMembers origin rest t
      all_goals nofun

end

/-! ## Mappings -/

/-- The key of a member, if it is a text. -/
def keyText? : Yaml.Node × Yaml.Node → Option String
  | (.text key, _) => some key
  | _ => none

theorem plain_nil : Table.Plain [] := ⟨List.nodup_nil, List.forall_mem_nil _⟩

theorem plain_ofMembers {origin : Option String} {members : List (Yaml.Node × Yaml.Node)}
    (plainKeys : ∀ m ∈ members, (keyText? m).all isPlainKey = true) {t t' : Table} (plain : t.Plain)
    (made : Value.ofMembers origin members t = .ok t') : t'.Plain := by
  induction members generalizing t with
  | nil =>
    rw [Value.ofMembers] at made
    rwa [← Except.ok.inj made]
  | cons m rest ih =>
    obtain ⟨key, n⟩ := m
    have first := plainKeys _ List.mem_cons_self
    have later := fun m mem => plainKeys m (List.mem_cons_of_mem _ mem)
    cases key with
    | text key =>
      rw [Value.ofMembers, bind_eq_ok_iff] at made
      obtain ⟨v, -, made⟩ := made
      exact ih later (plain.put first v) made
    | _ =>
      rw [Value.ofMembers] at made
      · exact ih later plain made
      all_goals nofun

theorem plain_ofObject {origin : Option String} {members : List (String × Json)}
    (plainKeys : ∀ m ∈ members, isPlainKey m.1 = true) {t : Table} (plain : t.Plain) :
    (Value.ofObject origin members t).Plain := by
  induction members generalizing t with
  | nil =>
    rw [Value.ofObject]
    exact plain
  | cons m rest ih =>
    rw [Value.ofObject]
    exact ih (fun m mem => plainKeys m (List.mem_cons_of_mem _ mem))
      (plain.put (plainKeys _ List.mem_cons_self) _)

/-- The members of the mapping that a YAML text holds, if it holds one. -/
def mapping? (text : String) : Option (List (Yaml.Node × Yaml.Node)) :=
  match onlyDocument text with
  | .ok (.mapping members) => some members
  | _ => none

/-- The members of the object that a JSON text holds, if it holds one. -/
def object? (text : String) : Option (List (String × Json)) :=
  match Json.read text.toUTF8.data.toList with
  | .ok (.obj members) => some members
  | _ => none

/-! ## Texts -/

section Texts

variable {origin : Option String} {text : String} {v : Value}

/-- Only a mapping has members. -/
theorem plain_ofNode {n : Yaml.Node} (plainKeys : ∀ members, n = .mapping members →
      ∀ m ∈ members, (keyText? m).all isPlainKey = true)
    (made : Value.ofNode origin n = .ok v) : v.members.Plain := by
  cases n with
  | mapping members =>
    rw [Value.ofNode] at made
    obtain ⟨t, table, rfl⟩ := map_eq_ok_iff.1 made
    exact plain_ofMembers (plainKeys members rfl) plain_nil table
  | list items =>
    rw [Value.ofNode] at made
    obtain ⟨vs, -, rfl⟩ := map_eq_ok_iff.1 made
    exact plain_nil
  | real text =>
    rw [Value.ofNode] at made
    split at made
    · obtain rfl := Except.ok.inj made
      exact plain_nil
    · cases made
  | _ =>
    rw [Value.ofNode] at made
    obtain rfl := Except.ok.inj made
    exact plain_nil

theorem plain_yamlValue
    (plainKeys : (mapping? text).all (·.all fun m => (keyText? m).all isPlainKey) = true)
    (read : yamlValue origin text = .ok v) : v.members.Plain := by
  rw [yamlValue, bind_eq_ok_iff] at read
  obtain ⟨n, parsed, made⟩ := read
  refine plain_ofNode (fun members same => ?_) made
  have holds : mapping? text = some members := by
    unfold mapping?
    rw [parsed, same]
  rw [holds] at plainKeys
  exact List.all_eq_true.1 plainKeys

theorem jsonValue_eq_ok_iff : jsonValue origin text = .ok v ↔
    ∃ j, Json.read text.toUTF8.data.toList = .ok j ∧ Value.ofJson origin j = v := by
  simp only [jsonValue]
  cases Json.read text.toUTF8.data.toList <;> simp

theorem plain_jsonValue (plainKeys : (object? text).all (·.all fun m => isPlainKey m.1) = true)
    (read : jsonValue origin text = .ok v) : v.members.Plain := by
  obtain ⟨j, parsed, rfl⟩ := jsonValue_eq_ok_iff.1 read
  rw [object?, parsed] at plainKeys
  cases j with
  | obj members => exact plain_ofObject (List.all_eq_true.1 plainKeys) plain_nil
  | _ => exact plain_nil

end Texts

/-! ## Files -/

/-- What a file of a configuration holds: its format, the name by which it is known, and a text. -/
structure FileText where
  format : Format
  origin : String
  text : String

namespace Formats

variable (formats : Formats) {file : FileText} {v : Value}

/-- The outermost value of a file. -/
def valueOf (file : FileText) : Except String Value :=
  formats.value file.format (some file.origin) file.text

/-- Whether a file can be read.  A YAML text has to have at most one document, all of whose reals
are numbers that can be read. -/
def canRead (file : FileText) : Bool :=
  match file.format with
  | .yaml => (onlyDocument file.text).toOption.any nodeIsReadable
  | .json => (Json.read file.text.toUTF8.data.toList).isOk
  | .other f => (formats.read f (some file.origin) file.text).isOk

/-- Whether all keys of the outermost table of a file are plain.  The keys of a YAML mapping that
are no texts do not count; a table in another format has to have one value for each key. -/
def hasPlainKeys (file : FileText) : Bool :=
  match file.format with
  | .yaml => (mapping? file.text).all (·.all fun m => (keyText? m).all isPlainKey)
  | .json => (object? file.text).all (·.all fun m => isPlainKey m.1)
  | .other f => (formats.read f (some file.origin) file.text).toOption.all fun v =>
    decide (v.members.map (·.1)).Nodup && v.members.all fun m => isPlainKey m.1

theorem isOk_valueOf : (formats.valueOf file).isOk = formats.canRead file := by
  obtain ⟨format, origin, text⟩ := file
  cases format with
  | other f => rfl
  | json =>
    show (jsonValue _ text).isOk = (Json.read _).isOk
    simp only [jsonValue]
    cases Json.read text.toUTF8.data.toList <;> rfl
  | yaml =>
    show (yamlValue _ text).isOk = (onlyDocument text).toOption.any nodeIsReadable
    rw [yamlValue]
    cases onlyDocument text with
    | error e => rfl
    | ok n => exact isOk_ofNode _ n

/-- The table of a file is plain if its keys are. -/
theorem plain_valueOf (plain : formats.hasPlainKeys file = true)
    (read : formats.valueOf file = .ok v) : v.members.Plain := by
  obtain ⟨format, origin, text⟩ := file
  cases format with
  | yaml => exact plain_yamlValue plain read
  | json => exact plain_jsonValue plain read
  | other f =>
    have read : formats.read f (some origin) text = .ok v := read
    simp only [hasPlainKeys, read, Except.toOption, Option.all_some, Bool.and_eq_true,
      decide_eq_true_iff, List.all_eq_true] at plain
    exact ⟨plain.1, plain.2⟩

end Formats

end FileSearch.Config
