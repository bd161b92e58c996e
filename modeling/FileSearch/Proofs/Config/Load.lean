import Mathlib
import FileSearch.Config.Load
import FileSearch.Proofs.Config.Fits
import FileSearch.Proofs.Config.Layer

/-!
# Loaded configurations

Of files with plain keys, a configuration is loaded exactly if the layers can be read, what they
make of the keys stands for a configuration, and this configuration is accepted (`load_eq_ok_iff`).
Whether a layer can be read is told by its file alone (`exists_readLayer_iff`), so a number that
cannot be read fails the file even where a later file overrides it (`not_forall_last_value`).  In
which order the endings of the formats are tried has no influence on whether a file is found
(`exists_findFile_iff`).
-/

namespace FileSearch.Config

theorem mapError_eq_ok_iff {ε ε' α : Type} {x : Except ε α} {f : ε → ε'} {a : α} :
    x.mapError f = .ok a ↔ x = .ok a := by
  cases x <;> simp [Except.mapError]

theorem isOk_eq_true_iff {ε α : Type} {x : Except ε α} : x.isOk = true ↔ ∃ a, x = .ok a := by
  cases x <;> simp [Except.isOk, Except.toBool]

/-! ## Finding files -/

variable {formats : Formats} {fs : FileSystem} {configDir explicit : Option Path} {name : Path}

theorem Format.mem_all : ∀ f : Format, f ∈ all
  | .yaml | .json | .other .toml | .other .ini | .other .ron | .other .json5 => by decide

theorem Formats.mem_endings {e : String} {f : Format} :
    (e, f) ∈ formats.endings ↔ e ∈ f.endings := by
  simp [endings, formats.complete.mem_iff, Format.mem_all]

/-- A name stands for a file if there is a file of that name, with the ending of a format, or if
there is none and there is one whose name has the ending of a format in addition. -/
theorem exists_findFile_iff : (∃ found, findFile formats fs name = .ok found) ↔
    let path := fs.cwdPath.join name
    if fs.isFile path = true then
      ∃ f, Format.ofEnding? (((path.names.getLast?).bind Path.extension?).getD []) = some f
    else
      ∃ f : Format, ∃ e ∈ f.endings, ∃ p ∈ path.withEnding? ("." ++ e), fs.isFile p = true := by
  simp only [findFile]
  split
  · cases Format.ofEnding? _ <;> simp
  · let path := fs.cwdPath.join name
    let candidates := formats.endings.filterMap fun e =>
      (path.withEnding? ("." ++ e.1)).map fun p => (p, e.2)
    have mem (c : Path × Format) : c ∈ candidates ↔
        ∃ e ∈ c.2.endings, path.withEnding? ("." ++ e) = some c.1 := by
      simp [candidates, Formats.mem_endings, Prod.ext_iff]
    have found : (candidates.find? fun c => fs.isFile c.1).isSome = true ↔
        ∃ f : Format, ∃ e ∈ f.endings, ∃ p ∈ path.withEnding? ("." ++ e), fs.isFile p = true := by
      rw [List.find?_isSome]
      constructor
      · rintro ⟨c, isCandidate, isFile⟩
        obtain ⟨e, ending, ended⟩ := (mem c).1 isCandidate
        exact ⟨c.2, e, ending, c.1, ended, isFile⟩
      · rintro ⟨f, e, ending, p, ended, isFile⟩
        exact ⟨(p, f), (mem _).2 ⟨e, ending, ended⟩, isFile⟩
    rw [← found]
    cases candidates.find? fun c => fs.isFile c.1 <;> simp

/-! ## Files -/

/-- What the file holds that a name stands for, if it is found and holds a text. -/
def fileText? (formats : Formats) (fs : FileSystem) (name : Path) : Option FileText :=
  (findFile formats fs name).toOption.bind fun (path, format) =>
    ((fs.read path).toOption.bind Utf8.decode?).map fun text =>
      ⟨format, (path.relativeTo fs.cwd).display, text⟩

theorem fileText?_of_found {path : Path} {format : Format} {content : ByteArray} {text : String}
    (found : findFile formats fs name = .ok (path, format)) (read : fs.read path = .ok content)
    (decoded : Utf8.decode? content = some text) {origin : String}
    (known : (path.relativeTo fs.cwd).display = origin) :
    fileText? formats fs name = some ⟨format, origin, text⟩ := by
  simp [fileText?, found, read, decoded, known, Except.toOption]

/-- What is read of a name are the members of the value that its file holds. -/
theorem readLayer_eq_ok_iff {t : Table} : readLayer formats fs name = .ok t ↔
    ∃ file ∈ fileText? formats fs name, (formats.valueOf file).map Value.members = .ok t := by
  rw [readLayer, fileText?]
  cases findFile formats fs name with
  | error e => simp [bind, Except.bind, Except.toOption]
  | ok found =>
    obtain ⟨path, format⟩ := found
    simp only [bind, Except.bind, Except.toOption, Option.bind_some]
    cases fs.read path with
    | error e => simp [throw, throwThe, MonadExceptOf.throw]
    | ok content =>
      simp only [Formats.layer, Option.bind_some]
      cases Utf8.decode? content with
      | none => simp
      | some text =>
        simp only [Option.map_some, Option.mem_def, Option.some.injEq, exists_eq_left',
          Formats.valueOf]
        cases formats.value format _ text <;> simp [Except.map]

/-- A layer can be read exactly if the file is found, holds a text and can be read. -/
theorem exists_readLayer_iff : (∃ t, readLayer formats fs name = .ok t) ↔
    ∃ file ∈ fileText? formats fs name, formats.canRead file = true := by
  simp only [readLayer_eq_ok_iff, ← formats.isOk_valueOf, isOk_eq_true_iff, map_eq_ok_iff]
  constructor
  · rintro ⟨_, file, holds, v, read, -⟩
    exact ⟨file, holds, v, read⟩
  · rintro ⟨file, holds, v, read⟩
    exact ⟨_, file, holds, v, read, rfl⟩

/-- What named files hold. -/
abbrev HoldFiles (formats : Formats) (fs : FileSystem) (names : List Path) (files : List FileText) :
    Prop :=
  List.Forall₂ (fun name file => fileText? formats fs name = some file) names files

/-! ## Loading -/

/-- The layers that named files hold. -/
abbrev HoldLayers (formats : Formats) (fs : FileSystem) (names : List Path) (layers : List Table) :
    Prop :=
  List.Forall₂ (fun name layer => readLayer formats fs name = .ok layer) names layers

theorem overlayFiles_eq_ok_iff (names : List Path) (t r : Value) :
    overlayFiles formats fs names t = .ok r ↔
      ∃ layers, HoldLayers formats fs names layers ∧ layers.foldl Value.overlay t = r := by
  induction names generalizing t with
  | nil => simp [overlayFiles]
  | cons name rest ih =>
    rw [overlayFiles, bind_eq_ok_iff]
    simp only [ih, List.forall₂_cons_left_iff]
    constructor
    · rintro ⟨layer, read, layers, hold, same⟩
      exact ⟨layer :: layers, ⟨layer, layers, read, hold, rfl⟩, same⟩
    · rintro ⟨_, ⟨layer, layers, read, hold, rfl⟩, same⟩
      exact ⟨layer, read, layers, hold, same⟩

/-- A loaded configuration is what all layers, laid over one another, are read as, and it has been
checked. -/
theorem load_eq_ok_iff_layers (c : Config) : load formats fs configDir explicit = .ok c ↔
    ∃ layers, HoldLayers formats fs (sources fs configDir explicit) layers ∧
      ofTable (overlaid layers).members = .ok c ∧ c.validate = .ok () := by
  simp only [load, bind_eq_ok_iff, mapError_eq_ok_iff, overlayFiles_eq_ok_iff]
  constructor
  · rintro ⟨_, ⟨_, ⟨layers, hold, rfl⟩, read⟩, _, valid, ⟨⟩⟩
    exact ⟨layers, hold, read, valid⟩
  · rintro ⟨layers, hold, read, valid⟩
    exact ⟨c, ⟨_, ⟨layers, hold, rfl⟩, read⟩, (), valid, rfl⟩

theorem exists_holdLayers_iff (names : List Path) : (∃ layers, HoldLayers formats fs names layers) ↔
    ∀ name ∈ names, ∃ layer, readLayer formats fs name = .ok layer := by
  induction names with
  | nil => exact iff_of_true ⟨[], .nil⟩ (List.forall_mem_nil _)
  | cons name rest ih =>
    rw [List.forall_mem_cons, ← ih]
    constructor
    · rintro ⟨_, first | ⟨first, later⟩⟩
      exact ⟨⟨_, first⟩, _, later⟩
    · rintro ⟨⟨layer, first⟩, layers, later⟩
      exact ⟨layer :: layers, .cons first later⟩

theorem holdLayers_unique {names : List Path} {layers layers' : List Table}
    (hold : HoldLayers formats fs names layers) (hold' : HoldLayers formats fs names layers') :
    layers = layers' := by
  induction hold generalizing layers' with
  | nil =>
    cases hold'
    rfl
  | cons first _ ih =>
    cases hold' with
    | cons first' later' => rw [Except.ok.inj (first.symm.trans first'), ih later']

/-- All keys in the files of a configuration are plain, as far as there are such files. -/
def HavePlainKeys (formats : Formats) (fs : FileSystem) (configDir explicit : Option Path) : Prop :=
  ∀ name ∈ sources fs configDir explicit, ∀ file ∈ fileText? formats fs name,
    formats.hasPlainKeys file = true

theorem HoldFiles.holdLayers {names : List Path} {files : List FileText} {layers : List Table}
    (hold : HoldFiles formats fs names files)
    (tables : files.map (fun file => (formats.valueOf file).map Value.members) = layers.map .ok) :
    HoldLayers formats fs names layers := by
  induction hold generalizing layers with
  | nil =>
    obtain rfl := List.map_eq_nil_iff.1 tables.symm
    exact .nil
  | cons holds _ ih =>
    cases layers with
    | nil => cases tables
    | cons layer layers =>
      obtain ⟨first, rest⟩ := List.cons.inj tables
      exact .cons (readLayer_eq_ok_iff.2 ⟨_, holds, first⟩) (ih rest)

theorem HoldFiles.havePlainKeys {files : List FileText}
    (hold : HoldFiles formats fs (sources fs configDir explicit) files)
    (plain : ∀ file ∈ files, formats.hasPlainKeys file = true) :
    HavePlainKeys formats fs configDir explicit := by
  intro name source file holds
  obtain ⟨file', mem, holds'⟩ := exists_of_mem_right (List.Forall₂.flip hold) source
  obtain rfl := Option.some.inj (holds.symm.trans holds')
  exact plain file mem

/-- The layers of such files are plain. -/
theorem HavePlainKeys.plain (keys : HavePlainKeys formats fs configDir explicit)
    {layers : List Table} (hold : HoldLayers formats fs (sources fs configDir explicit) layers) :
    ∀ layer ∈ layers, layer.Plain := by
  intro layer mem
  obtain ⟨name, source, read⟩ := exists_of_mem_right hold mem
  obtain ⟨file, holds, made⟩ := readLayer_eq_ok_iff.1 read
  obtain ⟨v, value, rfl⟩ := map_eq_ok_iff.1 made
  exact formats.plain_valueOf (keys name source file holds) value

/-! ## Three files -/

/-- Formats of which JSON5 is read as JSON, which JSON texts allow, and the others are not read. -/
def jsonAsJson5 : Formats where
  read f origin text := if f = .json5 then jsonValue origin text else .error "not read"
  order := Format.all
  complete := List.Perm.refl _

/-- Files with the given texts: that of the user, that of the current directory, and `c.json5`. -/
def filesWith (user here named : String) : FileSystem where
  root := .dir [
    ("x".toUTF8.data.toList, .dir [("agsearch".toUTF8.data.toList,
      .dir [("config.yaml".toUTF8.data.toList, .file user.toUTF8)])]),
    (".agsearch.yaml".toUTF8.data.toList, .file here.toUTF8),
    ("c.json5".toUTF8.data.toList, .file named.toUTF8)]

/-- Where the user's file is. -/
def userPath : Path := "/x/agsearch/config.yaml".toUTF8

section FilesWith

variable {user here named : String}

theorem sources_filesWith :
    sources (filesWith user here named) (some "/x".toUTF8) explicit =
      userPath :: localFile :: explicit.toList := by
  have present : sources (filesWith user here named) (some "/x".toUTF8) none =
      [userPath, localFile] := by cbv
  have all : sources (filesWith user here named) (some "/x".toUTF8) explicit =
      sources (filesWith user here named) (some "/x".toUTF8) none ++ explicit.toList := by
    simp [sources]
  rw [all, present]
  rfl

theorem fileText?_user (decoded : Utf8.decode? user.toUTF8 = some user) :
    fileText? jsonAsJson5 (filesWith user here named) userPath =
      some ⟨.yaml, "x/agsearch/config.yaml", user⟩ := by
  have found : findFile jsonAsJson5 (filesWith user here named) userPath =
      .ok (userPath, .yaml) := by cbv
  have read : (filesWith user here named).read userPath = .ok user.toUTF8 := by cbv
  have known : (userPath.relativeTo []).display = "x/agsearch/config.yaml" := by decide +kernel
  exact fileText?_of_found found read decoded known

theorem fileText?_here (decoded : Utf8.decode? here.toUTF8 = some here) :
    fileText? jsonAsJson5 (filesWith user here named) localFile =
      some ⟨.yaml, ".agsearch.yaml", here⟩ := by
  have found : findFile jsonAsJson5 (filesWith user here named) localFile =
      .ok (localFile, .yaml) := by cbv
  have read : (filesWith user here named).read localFile = .ok here.toUTF8 := by cbv
  have known : (localFile.relativeTo []).display = ".agsearch.yaml" := by decide +kernel
  exact fileText?_of_found found read decoded known

theorem fileText?_named (decoded : Utf8.decode? named.toUTF8 = some named) :
    fileText? jsonAsJson5 (filesWith user here named) "c".toUTF8 =
      some ⟨.other .json5, "c.json5", named⟩ := by
  have found : findFile jsonAsJson5 (filesWith user here named) "c".toUTF8 =
      .ok ("c.json5".toUTF8, .other .json5) := by cbv
  have read : (filesWith user here named).read "c.json5".toUTF8 = .ok named.toUTF8 := by cbv
  have known : (Path.relativeTo "c.json5".toUTF8 []).display = "c.json5" := by decide +kernel
  exact fileText?_of_found found read decoded known

theorem holdFiles_two (decoded : Utf8.decode? user.toUTF8 = some user)
    (decoded' : Utf8.decode? here.toUTF8 = some here) :
    HoldFiles jsonAsJson5 (filesWith user here named)
      (sources (filesWith user here named) (some "/x".toUTF8) none)
      [⟨.yaml, "x/agsearch/config.yaml", user⟩, ⟨.yaml, ".agsearch.yaml", here⟩] := by
  rw [sources_filesWith]
  exact .cons (fileText?_user decoded) (.cons (fileText?_here decoded') .nil)

end FilesWith

/-! ## Loaded configurations -/

/-- Of files with plain keys, a configuration is loaded exactly if they can be read and what their
layers make of the keys stands for a configuration that is accepted; it is this one.  They can be
read if each of them, with the named one, is found and holds a text of its format that can be read.
The layers make of a key its last value if this is no table, and a table is laid over what earlier
layers have made. -/
theorem load_eq_ok_iff (keys : HavePlainKeys formats fs configDir explicit) :
    (∀ c, load formats fs configDir explicit = .ok c ↔
      ∃ layers, HoldLayers formats fs (sources fs configDir explicit) layers ∧
        Fits (valueIn layers) c ∧ c.validate = .ok ()) ∧
    ((∃ layers, HoldLayers formats fs (sources fs configDir explicit) layers) ↔
      ∀ name ∈ sources fs configDir explicit, ∃ file ∈ fileText? formats fs name,
        formats.canRead file = true) ∧
    (∀ earlier later : List Table, ∀ (layer : Table) (key : String) (v : Value),
      layer.get? key = some v → v.isTable = false → (∀ l ∈ later, Table.get? l key = none) →
        valueIn (earlier ++ layer :: later) key = some v) ∧
    ∀ (earlier : List Table) (layer members : Table) (key : String) (origin : Option String),
      layer.get? key = some (.table origin members) → (members.map (·.1)).Nodup →
        ∃ v, valueIn (earlier ++ [layer]) key = some v ∧ ∀ name, v.members.get? name =
          members.layOver name ((valueIn earlier key).bind (·.members.get? name)) := by
  refine ⟨fun c => ?_, ?_, fun earlier later layer key v has noTable last =>
    valueIn_last earlier has noTable last, fun earlier layer members key origin has distinct =>
    get?_valueIn_table earlier has distinct⟩
  · rw [load_eq_ok_iff_layers]
    refine exists_congr fun layers => and_congr_right fun hold => and_congr_left fun _ => ?_
    have plain := keys.plain hold
    rw [ofTable_eq_ok_iff (nodup_overlaid plain), get?_overlaid plain]
  · simp only [exists_holdLayers_iff, exists_readLayer_iff]

/-- The local file overrides a number of workers that would not be accepted, and the named one is
found by its ending. -/
theorem load_eq_ok_iff_three :
    let fs := filesWith "num_workers: 0\nchunk_overlap: 64\n" "num_workers: 4\n"
      "\x7b\"timeout\": \"5s\"\x7d"
    HavePlainKeys jsonAsJson5 fs (some "/x".toUTF8) (some "c".toUTF8) ∧
      load jsonAsJson5 fs (some "/x".toUTF8) (some "c".toUTF8) = .ok
        { numWorkers := 4, chunkOverlap := 64, timeout := some ⟨5, 0, by decide⟩ } := by
  intro fs
  let user : FileText := ⟨.yaml, "x/agsearch/config.yaml", "num_workers: 0\nchunk_overlap: 64\n"⟩
  let here : FileText := ⟨.yaml, ".agsearch.yaml", "num_workers: 4\n"⟩
  let named : FileText := ⟨.other .json5, "c.json5", "\x7b\"timeout\": \"5s\"\x7d"⟩
  have userHolds : fileText? jsonAsJson5 fs userPath = some user :=
    fileText?_user (by decide +kernel)
  have hereHolds : fileText? jsonAsJson5 fs localFile = some here :=
    fileText?_here (by decide +kernel)
  have namedHolds : fileText? jsonAsJson5 fs "c".toUTF8 = some named :=
    fileText?_named (by decide +kernel)
  have files : HoldFiles jsonAsJson5 fs (sources fs (some "/x".toUTF8) (some "c".toUTF8))
      [user, here, named] := by
    rw [sources_filesWith]
    exact .cons userHolds (.cons hereHolds (.cons namedHolds .nil))
  have keys := files.havePlainKeys (by decide +kernel)
  let origin := "x/agsearch/config.yaml"
  let layers : List Table := [
    [("num_workers", .scalar (some origin) (.int 0)),
      ("chunk_overlap", .scalar (some origin) (.int 64))],
    [("num_workers", .scalar (some ".agsearch.yaml") (.int 4))],
    [("timeout", .scalar (some "c.json5") (.text "5s"))]]
  have hold : HoldLayers jsonAsJson5 fs (sources fs (some "/x".toUTF8) (some "c".toUTF8)) layers :=
    files.holdLayers (by decide +kernel)
  exact ⟨keys, ((load_eq_ok_iff keys).1 _).2 ⟨layers, hold, by decide +kernel, rfl⟩⟩

/-- The value of a key in the last layer that has one. -/
def lastIn (layers : List Table) (key : String) : Option Value :=
  layers.reverse.findSome? (·.get? key)

/-- Whether a file holds a YAML mapping whose keys are plain texts. -/
def FileText.isPlainMapping (file : FileText) : Bool :=
  file.format = .yaml && (mapping? file.text).any (·.all fun m => (keyText? m).any isPlainKey)

/-- The last value of a key does not always decide, even if all files hold YAML mappings with plain
keys.  Tables are merged, so that two behaviours, each the only key of a table, are one too many;
and a number that cannot be read fails its whole file, even if every key of the file is overridden. -/
theorem not_forall_last_value :
    (¬ ∀ (formats : Formats) (fs : FileSystem) (configDir explicit : Option Path)
        (files : List FileText) (layers : List Table) (c : Config),
      HoldFiles formats fs (sources fs configDir explicit) files →
      (∀ file ∈ files, file.isPlainMapping = true) →
      HoldLayers formats fs (sources fs configDir explicit) layers →
      Fits (lastIn layers) c → c.validate = .ok () → load formats fs configDir explicit = .ok c) ∧
    ¬ ∀ (formats : Formats) (fs : FileSystem) (configDir : Option Path) (files : List FileText)
        (layer : Table) (c : Config),
      HoldFiles formats fs (sources fs configDir none) files →
      (∀ file ∈ files, file.isPlainMapping = true) → readLayer formats fs localFile = .ok layer →
      (∀ file ∈ files, (mapping? file.text).all
        (·.all fun m => ((keyText? m).bind layer.get?).isSome) = true) →
      Fits layer.get? c → c.validate = .ok () → load formats fs configDir none = .ok c := by
  refine ⟨fun all => ?_, fun all => ?_⟩
  · let userText := "workers_behavior:\n  on_init: 1\n"
    let hereText := "workers_behavior:\n  manual: 1\n"
    let fs := filesWith userText hereText ""
    let user : Table := [("workers_behavior", .table (some "x/agsearch/config.yaml")
      [("on_init", .scalar (some "x/agsearch/config.yaml") (.int 1))])]
    let here : Table := [("workers_behavior", .table (some ".agsearch.yaml")
      [("manual", .scalar (some ".agsearch.yaml") (.int 1))])]
    have files : HoldFiles jsonAsJson5 fs (sources fs (some "/x".toUTF8) none)
        [⟨.yaml, "x/agsearch/config.yaml", userText⟩, ⟨.yaml, ".agsearch.yaml", hereText⟩] :=
      holdFiles_two (by decide +kernel) (by decide +kernel)
    have hold : HoldLayers jsonAsJson5 fs (sources fs (some "/x".toUTF8) none) [user, here] :=
      files.holdLayers (by decide +kernel)
    have loaded := all jsonAsJson5 fs (some "/x".toUTF8) none _ [user, here]
      { workersBehavior := .manual } files (by decide +kernel) hold (by decide +kernel) rfl
    obtain ⟨layers, hold', read, -⟩ := (load_eq_ok_iff_layers _).1 loaded
    have fails : (ofTable (overlaid [user, here]).members).isOk = false := by decide +kernel
    rw [holdLayers_unique hold hold', read] at fails
    cases fails
  · let userText := "chunk_overlap: .inf\n"
    let hereText := "chunk_overlap: 64\n"
    let fs := filesWith userText hereText ""
    let here : Table := [("chunk_overlap", .scalar (some ".agsearch.yaml") (.int 64))]
    have decoded : Utf8.decode? userText.toUTF8 = some userText := by decide +kernel
    have decoded' : Utf8.decode? hereText.toUTF8 = some hereText := by decide +kernel
    have files : HoldFiles jsonAsJson5 fs (sources fs (some "/x".toUTF8) none)
        [⟨.yaml, "x/agsearch/config.yaml", userText⟩, ⟨.yaml, ".agsearch.yaml", hereText⟩] :=
      holdFiles_two decoded decoded'
    have readHere : readLayer jsonAsJson5 fs localFile = .ok here :=
      readLayer_eq_ok_iff.2 ⟨_, fileText?_here decoded', by decide +kernel⟩
    have loaded := all jsonAsJson5 fs (some "/x".toUTF8) _ here { chunkOverlap := 64 } files
      (by decide +kernel) readHere (by decide +kernel) (by decide +kernel) rfl
    obtain ⟨layers, hold, -⟩ := (load_eq_ok_iff_layers _).1 loaded
    have source : userPath ∈ sources fs (some "/x".toUTF8) none := by
      rw [sources_filesWith]
      exact List.mem_cons_self
    obtain ⟨file, holds, readable⟩ :=
      exists_readLayer_iff.1 ((exists_holdLayers_iff _).1 ⟨layers, hold⟩ userPath source)
    obtain rfl := Option.some.inj ((fileText?_user decoded).symm.trans holds)
    have fails : jsonAsJson5.canRead ⟨.yaml, "x/agsearch/config.yaml", userText⟩ = false := by
      decide +kernel
    rw [fails] at readable
    cases readable

end FileSearch.Config
