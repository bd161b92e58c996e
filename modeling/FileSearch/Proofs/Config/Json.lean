import Mathlib.Data.List.Forall2
import FileSearch.Config.Json
import FileSearch.Proofs.Time.Text

/-!
# Configurations are read back from their JSON values

`Config.onto` takes some settings from one configuration and the others from another one.  Each
setting that `toJson` writes is read as it was, and setting it is taking one more setting over
(`reads_members`).  So whichever of the settings of a configuration are given, by name in any order
or as the first ones in their order, what is read has these and the defaults elsewhere
(`ofJson_keeping`).
-/

namespace FileSearch.Config

/-- The settings of `c` with the given names, and the other settings of `d`. -/
def onto (c d : Config) (kept : String → Bool) : Config where
  numWorkers := if kept "num_workers" then c.numWorkers else d.numWorkers
  searchBinaryFiles :=
    if kept "search_binary_files" then c.searchBinaryFiles else d.searchBinaryFiles
  ignorePatterns := if kept "ignore_patterns" then c.ignorePatterns else d.ignorePatterns
  caseSensitive := if kept "case_sensitive" then c.caseSensitive else d.caseSensitive
  smartCase := if kept "smart_case" then c.smartCase else d.smartCase
  literal := if kept "literal" then c.literal else d.literal
  recurseDirs := if kept "recurse_dirs" then c.recurseDirs else d.recurseDirs
  followSymlinks := if kept "follow_symlinks" then c.followSymlinks else d.followSymlinks
  skipHidden := if kept "skip_hidden" then c.skipHidden else d.skipHidden
  respectIgnoreFiles :=
    if kept "respect_ignore_files" then c.respectIgnoreFiles else d.respectIgnoreFiles
  deterministic := if kept "deterministic" then c.deterministic else d.deterministic
  maxMatchesPerFile :=
    if kept "max_matches_per_file" then c.maxMatchesPerFile else d.maxMatchesPerFile
  timeout := if kept "timeout" then c.timeout else d.timeout
  workersBehavior := if kept "workers_behavior" then c.workersBehavior else d.workersBehavior
  chunkOverlap := if kept "chunk_overlap" then c.chunkOverlap else d.chunkOverlap
  logLevel := if kept "log_level" then c.logLevel else d.logLevel

/-- The configuration in which only the settings with the given names are set, as in `c`. -/
def keeping (c : Config) (kept : String → Bool) : Config := c.onto .default kept

/-- The names of all settings in their order. -/
def names : List String := [
  "num_workers", "search_binary_files", "ignore_patterns", "case_sensitive", "smart_case", "literal",
  "recurse_dirs", "follow_symlinks", "skip_hidden", "respect_ignore_files", "deterministic",
  "max_matches_per_file", "timeout", "workers_behavior", "chunk_overlap", "log_level"]

/-- The members of the object that is written for a configuration. -/
def members (c : Config) : List (String × Json) :=
  match c.toJson with
  | .obj members => members
  | _ => []

theorem toJson_eq (c : Config) : c.toJson = .obj c.members := rfl

variable {c d : Config} {kept kept' : String → Bool}

theorem onto_congr (same : ∀ name ∈ names, kept name = kept' name) : c.onto d kept = c.onto d kept' := by
  simp only [names, List.forall_mem_cons] at same
  simp only [onto, same]

theorem onto_all (all : ∀ name ∈ names, kept name = true) : c.onto d kept = c := by
  have same : c.onto d kept = c.onto d (fun _ => true) := onto_congr all
  rw [same]
  rfl

/-! ## Single settings -/

/-- A setting is read from a member as `c` has it, and setting it is taking it over from `c`. -/
def Reads (c : Config) (reader : String × (Json → Except JsonError Setting)) (m : String × Json) :
    Prop :=
  reader.1 = m.1 ∧ ∃ s, reader.2 m.2 = .ok s ∧
    ∀ d kept, c.onto (d.set s) kept = c.onto d fun name => name == m.1 || kept name

theorem countOfJson_nat (n : UInt64) : countOfJson (.nat n.toNat) = .ok n := by
  simp [countOfJson, Json.nat]

theorem textsOfJson_arr (texts : List String) : textsOfJson (.arr (texts.map .str)) = .ok texts := by
  rw [textsOfJson]
  induction texts with
  | nil => rfl
  | cons text texts ih =>
    simp only [List.map_cons, List.mapM_cons, textOfJson, ih, bind, Except.bind, pure, Except.pure]

theorem optional_count (n : Option UInt64) :
    jsonDecoder.optional jsonDecoder.count (countJson n) = .ok n := by
  cases n with
  | none => rfl
  | some n =>
    have read : jsonDecoder.count (.nat n.toNat) = .ok n := countOfJson_nat n
    simp only [Decoder.optional, countJson, Option.map_some, Option.getD_some, read, Except.map]
    rfl

theorem optional_duration (t : Option Duration) :
    jsonDecoder.optional jsonDecoder.duration ((t.map fun d => Json.str d.text).getD .null) =
      .ok t := by
  cases t with
  | none => rfl
  | some t =>
    have read : jsonDecoder.duration (.str t.text) = .ok t := by
      simp only [Decoder.duration, jsonDecoder, textOfJson, bind, Except.bind, t.read_text, pure,
        Except.pure]
    simp only [Decoder.optional, Option.map_some, Option.getD_some, read, Except.map]
    rfl

theorem behaviorOfJson_name (w : WorkersBehavior) : behaviorOfJson (.str w.name) = .ok w := by
  cases w <;> rfl

/-- The members that are written are read as the settings in their order. -/
theorem reads_members (c : Config) : List.Forall₂ (Reads c) jsonDecoder.settings c.members := by
  have count (n : UInt64) : jsonDecoder.count (.nat n.toNat) = .ok n := countOfJson_nat n
  have texts (l : List String) : jsonDecoder.texts (.arr (l.map .str)) = .ok l := textsOfJson_arr l
  have behavior (w : WorkersBehavior) : jsonDecoder.behavior (.str w.name) = .ok w :=
    behaviorOfJson_name w
  refine .cons ⟨rfl, _, congrArg (Except.map Setting.numWorkers) (count _), ?_⟩ <|
    .cons ⟨rfl, .searchBinaryFiles _, rfl, ?_⟩ <|
    .cons ⟨rfl, _, congrArg (Except.map Setting.ignorePatterns) (texts _), ?_⟩ <|
    .cons ⟨rfl, .caseSensitive _, rfl, ?_⟩ <| .cons ⟨rfl, .smartCase _, rfl, ?_⟩ <|
    .cons ⟨rfl, .literal _, rfl, ?_⟩ <| .cons ⟨rfl, .recurseDirs _, rfl, ?_⟩ <|
    .cons ⟨rfl, .followSymlinks _, rfl, ?_⟩ <| .cons ⟨rfl, .skipHidden _, rfl, ?_⟩ <|
    .cons ⟨rfl, .respectIgnoreFiles _, rfl, ?_⟩ <| .cons ⟨rfl, .deterministic _, rfl, ?_⟩ <|
    .cons ⟨rfl, _, congrArg (Except.map Setting.maxMatchesPerFile) (optional_count _), ?_⟩ <|
    .cons ⟨rfl, _, congrArg (Except.map Setting.timeout) (optional_duration _), ?_⟩ <|
    .cons ⟨rfl, _, congrArg (Except.map Setting.workersBehavior) (behavior _), ?_⟩ <|
    .cons ⟨rfl, _, congrArg (Except.map Setting.chunkOverlap) (count _), ?_⟩ <|
    .cons ⟨rfl, .logLevel _, rfl, ?_⟩ .nil
  all_goals
    intro d kept
    simp [onto, Config.set]

theorem setting?_of_mem {ν ε : Type} (d : Decoder ν ε) {name : String}
    {reader : ν → Except ε Setting} (mem : (name, reader) ∈ d.settings) (v : ν) :
    d.setting? name v = (reader v).map some := by
  simp only [Decoder.settings, List.mem_cons, List.not_mem_nil, or_false, Prod.mk.injEq] at mem
  rcases mem with ⟨rfl, rfl⟩ | ⟨rfl, rfl⟩ | ⟨rfl, rfl⟩ | ⟨rfl, rfl⟩ | ⟨rfl, rfl⟩ | ⟨rfl, rfl⟩ |
    ⟨rfl, rfl⟩ | ⟨rfl, rfl⟩ | ⟨rfl, rfl⟩ | ⟨rfl, rfl⟩ | ⟨rfl, rfl⟩ | ⟨rfl, rfl⟩ | ⟨rfl, rfl⟩ |
    ⟨rfl, rfl⟩ | ⟨rfl, rfl⟩ | ⟨rfl, rfl⟩ <;> rfl

theorem map_fst_settings {ν ε : Type} (d : Decoder ν ε) : d.settings.map (·.1) = names := rfl

theorem setting?_of_notMem {ν ε : Type} (d : Decoder ν ε) {name : String} (unknown : name ∉ names)
    (v : ν) : d.setting? name v = .ok none := by
  have none : d.settings.find? (·.1 = name) = none := by
    rw [List.find?_eq_none]
    intro row mem same
    rw [← map_fst_settings d] at unknown
    exact unknown (List.mem_map.2 ⟨row, mem, of_decide_eq_true same⟩)
  rw [Decoder.setting?, none]

/-! ## Several settings -/

theorem exists_of_mem_right {α β : Type} {r : α → β → Prop} {as : List α} {bs : List β}
    (related : List.Forall₂ r as bs) {b : β} (mem : b ∈ bs) : ∃ a ∈ as, r a b := by
  induction related with
  | nil => cases mem
  | cons first _ ih =>
    rcases List.mem_cons.1 mem with rfl | later
    · exact ⟨_, List.mem_cons_self, first⟩
    · obtain ⟨a, mem, holds⟩ := ih later
      exact ⟨a, List.mem_cons_of_mem _ mem, holds⟩

/-- A value of a name that is no setting takes nothing over. -/
theorem onto_any_cons {ν : Type} (c d : Config) {name : String} (unknown : name ∉ names) (v : ν)
    (ms : List (String × ν)) :
    (c.onto d fun n => ((name, v) :: ms).any (·.1 == n)) = c.onto d fun n => ms.any (·.1 == n) := by
  refine onto_congr fun n isName => ?_
  have other : (name == n) = false := by
    rw [beq_eq_false_iff_ne]
    rintro rfl
    exact unknown isName
  rw [List.any_cons, other, Bool.false_or]

/-- Settings given by name, in any order, are taken over. -/
theorem addMembers_eq {ms : List (String × Json)}
    (own : ∀ m ∈ ms, m.1 ∈ names → m ∈ c.members) (d : Config) :
    jsonDecoder.addMembers d ms = .ok (c.onto d fun name => ms.any (·.1 == name)) := by
  induction ms generalizing d with
  | nil => rfl
  | cons m ms ih =>
    obtain ⟨name, v⟩ := m
    have rest := ih fun m hm => own m (List.mem_cons_of_mem _ hm)
    by_cases known : name ∈ names
    · have mem := own (name, v) List.mem_cons_self known
      obtain ⟨⟨_, reader⟩, isSetting, same, s, read, set⟩ := exists_of_mem_right c.reads_members mem
      dsimp only at same read
      rw [same] at isSetting
      rw [Decoder.addMembers, setting?_of_mem _ isSetting, read]
      refine (rest (d.set s)).trans (congrArg _ ?_)
      rw [set]
      refine onto_congr fun n _ => ?_
      rw [List.any_cons, Bool.beq_comm]
    · rw [Decoder.addMembers, setting?_of_notMem _ known]
      exact (rest d).trans (congrArg _ (onto_any_cons c d known v ms).symm)

/-- The first settings, given in their order, are taken over. -/
theorem addItems_eq {readers : List (String × (Json → Except JsonError Setting))}
    {ms : List (String × Json)} (reads : List.Forall₂ (Reads c) readers ms) (k : Nat) (d : Config) :
    Decoder.addItems d readers ((ms.map (·.2)).take k) =
      .ok (c.onto d fun name => (ms.take k).any (·.1 == name)) := by
  induction reads generalizing k d with
  | nil => cases k <;> rfl
  | @cons reader m readers ms first _ ih =>
    cases k with
    | zero => rfl
    | succ k =>
      obtain ⟨_, s, read, set⟩ := first
      rw [List.map_cons, List.take_succ_cons, List.take_succ_cons, Decoder.addItems, read]
      refine (ih k (d.set s)).trans (congrArg _ ?_)
      rw [set]
      refine onto_congr fun n _ => ?_
      rw [List.any_cons, Bool.beq_comm]

theorem mem_of_mem_sortedMembers {ms : List (String × Json)} {m : String × Json}
    (mem : m ∈ sortedMembers ms) : m ∈ ms := by
  rw [sortedMembers, List.mem_mergeSort] at mem
  induction ms with
  | nil => cases mem
  | cons first ms ih =>
    rw [List.foldr_cons] at mem
    split at mem
    · exact List.mem_cons_of_mem _ (ih mem)
    · rcases List.mem_cons.1 mem with rfl | later
      · exact List.mem_cons_self
      · exact List.mem_cons_of_mem _ (ih later)

theorem any_sortedMembers (ms : List (String × Json)) (name : String) :
    (sortedMembers ms).any (·.1 == name) = ms.any (·.1 == name) := by
  rw [sortedMembers, (List.mergeSort_perm _ _).any_eq]
  induction ms with
  | nil => rfl
  | cons first ms ih =>
    rw [List.foldr_cons, List.any_cons, ← ih]
    split
    · rename_i again
      generalize List.foldr _ _ ms = distinct at again ⊢
      by_cases same : first.1 = name
      · simpa [same] using again
      · simp [same]
    · rw [List.any_cons]

theorem map_fst_members (c : Config) : c.members.map (·.1) = names := rfl

theorem ofJson_obj {ms : List (String × Json)} (own : ∀ m ∈ ms, m.1 ∈ names → m ∈ c.members) :
    ofJson (.obj ms) = .ok (c.keeping fun name => ms.any (·.1 == name)) := by
  have sorted : ∀ m ∈ sortedMembers ms, m.1 ∈ names → m ∈ c.members := fun m hm =>
    own m (mem_of_mem_sortedMembers hm)
  have read := addMembers_eq sorted .default
  simp only [any_sortedMembers] at read
  exact read

theorem ofJson_arr (c : Config) (k : Nat) :
    ofJson (.arr ((c.members.map (·.2)).take k)) = .ok (c.keeping (names.take k).contains) := by
  have read := addItems_eq c.reads_members k .default
  have few : ¬ jsonDecoder.settings.length < ((c.members.map (·.2)).take k).length := by
    have sameLength := c.reads_members.length_eq
    rw [List.length_take, List.length_map]
    omega
  have first : (c.members.take k).map (·.1) = names.take k := by
    rw [List.map_take, map_fst_members]
  rw [ofJson, Decoder.fromItems, read]
  simp only [bind, Except.bind, few, if_false, pure, Except.pure, keeping]
  refine congrArg _ (onto_congr fun name _ => ?_)
  rw [← first, List.contains_eq_any_beq, List.any_map]
  simp only [Function.comp_def, Bool.beq_comm]

/-- Whichever settings of a configuration are given, by name in any order and among other names or
as the first ones in their order, what is read has these settings, and the defaults elsewhere. -/
theorem ofJson_keeping (c : Config) :
    ofJson c.toJson = .ok c ∧
      (∀ kept ms,
        (∀ name v, name ∈ names → ((name, v) ∈ ms ↔ kept name = true ∧ (name, v) ∈ c.members)) →
        ofJson (.obj ms) = .ok (c.keeping kept)) ∧
      ∀ k, ofJson (.arr ((c.members.map (·.2)).take k)) = .ok (c.keeping (names.take k).contains) := by
  have has : ∀ name ∈ names, ∃ v, (name, v) ∈ c.members := by
    intro name known
    rw [← c.map_fst_members] at known
    obtain ⟨⟨_, v⟩, mem, rfl⟩ := List.mem_map.1 known
    exact ⟨v, mem⟩
  refine ⟨?_, fun kept ms given => ?_, ofJson_arr c⟩
  · rw [toJson_eq, ofJson_obj fun m hm _ => hm, keeping, onto_all]
    intro name known
    obtain ⟨v, mem⟩ := has name known
    exact List.any_eq_true.2 ⟨_, mem, BEq.rfl⟩
  · rw [ofJson_obj fun m hm known => ((given m.1 m.2 known).1 hm).2]
    refine congrArg _ (onto_congr fun name known => ?_)
    rw [Bool.eq_iff_iff, List.any_eq_true]
    constructor
    · rintro ⟨m, mem, same⟩
      obtain rfl : m.1 = name := eq_of_beq same
      exact ((given m.1 m.2 known).1 mem).1
    · intro keep
      obtain ⟨v, mem⟩ := has name known
      exact ⟨_, (given name v known).2 ⟨keep, mem⟩, BEq.rfl⟩

/-- Two settings with another name between them. -/
theorem ofJson_keeping_two :
    let d : Duration := ⟨34560005, 7, by decide⟩
    let c : Config := { numWorkers := 18446744073709551615, timeout := some d, literal := true }
    let kept : String → Bool := ["num_workers", "timeout"].contains
    let ms : List (String × Json) :=
      [("timeout", .str d.text), ("colour", .null), ("num_workers", .nat 18446744073709551615)]
    (∀ name v, name ∈ names → ((name, v) ∈ ms ↔ kept name = true ∧ (name, v) ∈ c.members)) ∧
      ofJson (.obj ms) = .ok { numWorkers := 18446744073709551615, timeout := some d } := by
  intro d c kept ms
  have given : ∀ name v, name ∈ names →
      ((name, v) ∈ ms ↔ kept name = true ∧ (name, v) ∈ c.members) := by
    intro name v known
    simp only [names, List.mem_cons, List.not_mem_nil, or_false] at known
    rcases known with rfl | rfl | rfl | rfl | rfl | rfl | rfl | rfl | rfl | rfl | rfl | rfl | rfl |
      rfl | rfl | rfl <;> simp [ms, kept, members, toJson, c]
  exact ⟨given, (ofJson_keeping c).2.1 kept ms given⟩

end FileSearch.Config
