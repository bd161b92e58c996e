import FileSearch.Proofs.Json.Read
import FileSearch.Result.Output

/-!
# The text of an output says what was found

`Shown` is what the text of an output is to say, and `Shown.ofJson?` reads it off a value by the
names of its members.  The value of an output is read back from its text, whatever bytes its paths
and matches hold, and shows the output (`Output.ofJson?_toJson`), so that outputs which show
different things have different texts (`Output.wire_shows`).
-/

namespace FileSearch

/-- What the text of an output says of a match. -/
structure ShownMatch where
  text : String
  start : Nat
  stop : Nat
  deriving DecidableEq, Repr

/-- What the text of an output says of a file. -/
structure ShownFile where
  path : String
  flags : Nat
  found : List ShownMatch
  deriving DecidableEq, Repr

/-- What the text of an output says. -/
structure Shown where
  nresults : Nat
  files : List ShownFile
  deriving DecidableEq, Repr

/-- The number that a value is. -/
def Json.nat? : Json → Option Nat
  | .num (.nat n) => some n
  | _ => none

/-- The text that a value is. -/
def Json.text? : Json → Option String
  | .str s => some s
  | _ => none

/-- The items of an array. -/
def Json.items? : Json → Option (List Json)
  | .arr items => some items
  | _ => none

/-- Reads a match off its value. -/
def ShownMatch.ofJson? (v : Json) : Option ShownMatch := do
  let text ← (← v.get? "match").text?
  let start ← (← v.get? "byte_start").nat?
  let stop ← (← v.get? "byte_end").nat?
  return ⟨text, start, stop⟩

/-- Reads a file off its value. -/
def ShownFile.ofJson? (v : Json) : Option ShownFile := do
  let path ← (← v.get? "file").text?
  let flags ← (← v.get? "flags").nat?
  let found ← (← (← v.get? "matches").items?).mapM ShownMatch.ofJson?
  return ⟨path, flags, found⟩

/-- Reads an output off its value. -/
def Shown.ofJson? (v : Json) : Option Shown := do
  let nresults ← (← v.get? "nresults").nat?
  let files ← (← (← v.get? "results").items?).mapM ShownFile.ofJson?
  return ⟨nresults, files⟩

/-- What is to be said of a match. -/
def Match.shown (m : Match) : ShownMatch := ⟨m.display, m.start, m.stop⟩

/-- What is to be said of a file. -/
def FileResult.shown (r : FileResult) : ShownFile :=
  ⟨r.file.path.display, r.flags.bits.toNat, r.found.map Match.shown⟩

namespace Output

/-- What is to be said of an output. -/
def shown (o : Output) : Shown := ⟨o.nresults, o.results.map FileResult.shown⟩

/-- The numbers of an output are those of machine words. -/
structure InWords (o : Output) : Prop where
  nresults : o.nresults < UInt64.size
  start : ∀ r ∈ o.results, ∀ m ∈ r.found, m.start < UInt64.size
  stop : ∀ r ∈ o.results, ∀ m ∈ r.found, m.stop < UInt64.size

/-! ## The value of an output -/

theorem mapM_ofJson {α β : Type} {ofJson : Json → Option β} {toJson : α → Json} {shown : α → β}
    (each : ∀ a, ofJson (toJson a) = some (shown a)) (as : List α) :
    (as.map toJson).mapM ofJson = some (as.map shown) := by
  induction as with
  | nil => rfl
  | cons a as ih =>
    rw [List.map_cons, List.mapM_cons, each, ih]
    rfl

theorem ofJson?_matchJson (m : Match) : ShownMatch.ofJson? (matchJson m) = some m.shown := rfl

theorem ofJson?_fileJson (r : FileResult) : ShownFile.ofJson? (fileJson r) = some r.shown := by
  show ((r.found.map matchJson).mapM ShownMatch.ofJson? >>= fun found =>
    some (⟨r.file.path.display, r.flags.bits.toNat, found⟩ : ShownFile)) = _
  rw [mapM_ofJson ofJson?_matchJson]
  rfl

theorem ofJson?_toJson (o : Output) : Shown.ofJson? o.toJson = some o.shown := by
  show ((o.results.map fileJson).mapM ShownFile.ofJson? >>= fun files =>
    some (⟨o.nresults, files⟩ : Shown)) = _
  rw [mapM_ofJson ofJson?_fileJson]
  rfl

/-! ## Reading it back -/

open Json (Readable)

theorem readable_matchJson {m : Match} (start : m.start < UInt64.size)
    (stop : m.stop < UInt64.size) (depth : Nat) : Readable (depth + 2) (matchJson m) := by
  refine .obj ?_
  simp only [List.forall_mem_cons]
  exact ⟨.str depth _, .nat depth start, .nat depth stop, fun m mem => nomatch mem⟩

theorem readable_fileJson {r : FileResult} (start : ∀ m ∈ r.found, m.start < UInt64.size)
    (stop : ∀ m ∈ r.found, m.stop < UInt64.size) (depth : Nat) :
    Readable (depth + 4) (fileJson r) := by
  have flags : r.flags.bits.toNat < UInt64.size :=
    Nat.lt_trans r.flags.bits.toNat_lt (by decide)
  refine .obj ?_
  simp only [List.forall_mem_cons]
  refine ⟨.str _ _, .nat _ flags, .arr ?_, fun m mem => nomatch mem⟩
  exact List.forall_mem_map.2 fun m mem => readable_matchJson (start m mem) (stop m mem) depth

theorem readable_toJson {o : Output} (words : o.InWords) :
    Readable Json.Reader.depthLimit o.toJson := by
  refine .obj ?_
  simp only [List.forall_mem_cons]
  refine ⟨.nat _ words.nresults, .arr ?_, fun m mem => nomatch mem⟩
  exact List.forall_mem_map.2 fun r mem =>
    readable_fileJson (words.start r mem) (words.stop r mem) 122

/-- The text of an output is a JSON text that says the number of results and, in their order, the
files with their flags and matches; so outputs of which any of this differs have different texts. -/
theorem wire_shows (o : Output) (words : o.InWords) :
    (∃ v, Json.read o.wire.toUTF8.data.toList = .ok v ∧ Shown.ofJson? v = some o.shown) ∧
      ∀ o' : Output, o'.InWords → o'.shown ≠ o.shown → o'.wire ≠ o.wire := by
  have value := Json.read_render (readable_toJson words)
  refine ⟨⟨o.toJson, value, o.ofJson?_toJson⟩, ?_⟩
  intro o' words' differs same
  have value' := Json.read_render (readable_toJson words')
  rw [show o'.toJson.render = o.toJson.render from same, value] at value'
  have read : Shown.ofJson? o.toJson = Shown.ofJson? o'.toJson :=
    congrArg Shown.ofJson? (Except.ok.inj value')
  rw [ofJson?_toJson, ofJson?_toJson] at read
  exact differs (Option.some.inj read).symm

/-- A file whose path and match hold quotes, control characters and bytes that are no text. -/
def awkward : Output :=
  { nresults := 1
    results := [
      { file := ⟨⟨#[0x2F, 0x22, 0x5C, 0x01, 0xFF]⟩, true, 9⟩
        found := [.new 3 ⟨#[0x0A, 0xC3, 0x22]⟩]
        flags := .binaryFile }] }

theorem wire_shows_awkward :
    (∃ v, Json.read awkward.wire.toUTF8.data.toList = .ok v ∧
      Shown.ofJson? v = some ⟨1, [⟨"/\"\\\x01\ufffd", 2, [⟨"\n\ufffd\"", 3, 6⟩]⟩]⟩) ∧
        ({} : Output).wire ≠ awkward.wire := by
  have none : ({} : Output).InWords :=
    ⟨by decide, List.forall_mem_nil _, List.forall_mem_nil _⟩
  have words : awkward.InWords := by
    refine ⟨by decide, List.forall_mem_singleton.2 (List.forall_mem_singleton.2 ?_),
      List.forall_mem_singleton.2 (List.forall_mem_singleton.2 ?_)⟩ <;> decide
  have display : awkward.shown = ⟨1, [⟨"/\"\\\x01\ufffd", 2, [⟨"\n\ufffd\"", 3, 6⟩]⟩]⟩ := by decide
  obtain ⟨value, others⟩ := wire_shows awkward words
  rw [display] at value
  exact ⟨value, others {} none (by decide)⟩

end Output

end FileSearch
