import FileSearch.Config.Coerce
import FileSearch.Proofs.Config.Json
import FileSearch.Proofs.Config.Merge

/-!
# Which configuration named values stand for

A configuration `Fits` values of named settings if each value is read as the setting that it has and
it has the defaults elsewhere.  Whatever the order in which the values come, the configuration that is
read from them is the one that fits them, and if there is none, reading fails (`ofTable_eq_ok_iff`).
-/

namespace FileSearch.Config

/-- The name of a setting. -/
def Setting.name : Setting → String
  | .numWorkers _ => "num_workers"
  | .searchBinaryFiles _ => "search_binary_files"
  | .ignorePatterns _ => "ignore_patterns"
  | .caseSensitive _ => "case_sensitive"
  | .smartCase _ => "smart_case"
  | .literal _ => "literal"
  | .recurseDirs _ => "recurse_dirs"
  | .followSymlinks _ => "follow_symlinks"
  | .skipHidden _ => "skip_hidden"
  | .respectIgnoreFiles _ => "respect_ignore_files"
  | .deterministic _ => "deterministic"
  | .maxMatchesPerFile _ => "max_matches_per_file"
  | .timeout _ => "timeout"
  | .workersBehavior _ => "workers_behavior"
  | .chunkOverlap _ => "chunk_overlap"
  | .logLevel _ => "log_level"

variable {c d : Config} {s : Setting} {kept : String → Bool}

/-- Where two configurations have the same setting, it may be taken from either one. -/
theorem onto_set_set (c d : Config) (s : Setting) (kept : String → Bool) :
    (c.set s).onto (d.set s) kept = (c.set s).onto d fun name => s.name == name || kept name := by
  cases s <;> simp [onto, set, Setting.name]

/-- A setting that is not taken over stays as it is. -/
theorem set_onto_set (c d : Config) (notKept : kept s.name = false) :
    (c.onto (d.set s) kept).set s = c.onto (d.set s) kept := by
  cases s <;> simp_all [onto, set, Setting.name]

theorem onto_set_eq_iff (notKept : kept s.name = false) : c.onto (d.set s) kept = c ↔
    c.set s = c ∧ (c.onto d fun name => s.name == name || kept name) = c := by
  constructor
  · intro same
    have own : c.set s = c := by
      rw [← same]
      exact set_onto_set c d notKept
    refine ⟨own, ?_⟩
    rw [← own, ← onto_set_set, own, same]
  · rintro ⟨own, same⟩
    rw [← own, onto_set_set, own, same]

/-! ## Named values -/

namespace Decoder

variable {ν ε : Type} (r : Decoder ν ε) {name : String} {v : ν}

theorem name_of_map {α : Type} {f : α → Setting} (named : ∀ a, (f a).name = name)
    {x : Except ε α} (read : x.map f = .ok s) : s.name = name := by
  cases x with
  | error e => cases read
  | ok a =>
    obtain rfl := Except.ok.inj read
    exact named a

/-- The row of a name reads settings of this name. -/
theorem name_of_mem_settings : ∀ row ∈ r.settings, ∀ v s, row.2 v = .ok s → s.name = row.1 := by
  simp only [settings, List.forall_mem_cons]
  refine ⟨?_, ?_, ?_, ?_, ?_, ?_, ?_, ?_, ?_, ?_, ?_, ?_, ?_, ?_, ?_, ?_, List.forall_mem_nil _⟩ <;>
    exact fun v s read => name_of_map (fun _ => rfl) read

theorem setting?_of_known (known : name ∈ names) (v : ν) :
    (∃ s, r.setting? name v = .ok (some s) ∧ s.name = name) ∨ ∃ e, r.setting? name v = .error e := by
  rw [← map_fst_settings r] at known
  obtain ⟨⟨name, reader⟩, mem, rfl⟩ := List.mem_map.1 known
  rw [setting?_of_mem r mem]
  cases read : reader v with
  | ok s => exact .inl ⟨s, rfl, r.name_of_mem_settings _ mem v s read⟩
  | error e => exact .inr ⟨e, rfl⟩

/-- Whether a value of a setting is read as the setting that a configuration has. -/
def agrees (c : Config) (name : String) (v : ν) : Bool :=
  match r.setting? name v with
  | .ok (some s) => c.set s = c
  | _ => false

theorem agrees_iff (read : r.setting? name v = .ok (some s)) :
    r.agrees c name v = true ↔ c.set s = c := by
  rw [agrees, read]
  exact decide_eq_true_iff

theorem not_agrees {e : ε} (fails : r.setting? name v = .error e) : ¬ r.agrees c name v = true := by
  rw [agrees, fails]
  exact Bool.false_ne_true

/-- Named values with distinct names are added in any order: what comes out agrees with them and has
elsewhere what was there before. -/
theorem addMembers_eq_ok_iff {ms : List (String × ν)} (distinct : (ms.map (·.1)).Nodup)
    (d : Config) : r.addMembers d ms = .ok c ↔
      (∀ m ∈ ms, m.1 ∈ names → r.agrees c m.1 m.2 = true) ∧
        (c.onto d fun name => ms.any (·.1 == name)) = c := by
  induction ms generalizing d with
  | nil =>
    have none : (c.onto d fun name => [].any fun m : String × ν => m.1 == name) = d := rfl
    rw [addMembers, none]
    simp
  | cons m ms ih =>
    obtain ⟨name, v⟩ := m
    rw [List.map_cons, List.nodup_cons] at distinct
    have rest := ih distinct.2
    rw [addMembers, List.forall_mem_cons]
    by_cases known : name ∈ names
    · rcases r.setting?_of_known known v with ⟨s, read, rfl⟩ | ⟨e, fails⟩
      · have notLater : (ms.any (·.1 == s.name)) = false := by
          rw [List.any_eq_false]
          intro m mem same
          exact distinct.1 (List.mem_map.2 ⟨m, mem, eq_of_beq same⟩)
        have first : c.onto (d.set s) (fun name => ms.any (·.1 == name)) = c ↔ _ :=
          onto_set_eq_iff notLater
        simp only [read, bind, Except.bind, rest, first, List.any_cons, r.agrees_iff read, known,
          forall_const]
        tauto
      · simp only [fails, bind, Except.bind]
        exact iff_of_false (by simp) fun all => r.not_agrees fails (all.1.1 known)
    · simp only [setting?_of_notMem r known, bind, Except.bind, rest, onto_any_cons c d known v ms,
        known, false_implies, true_and]

end Decoder

/-! ## Values of files -/

/-- Whether a configuration is what the values of named settings stand for: each value is read as the
setting that it has, and it has the defaults elsewhere. -/
def Fits (valueOf : String → Option Value) (c : Config) : Prop :=
  (∀ name ∈ names, ∀ v ∈ valueOf name, Located.decoder.agrees c name ⟨name, v⟩ = true) ∧
    (c.keeping fun name => (valueOf name).isSome) = c

instance (valueOf : String → Option Value) : DecidablePred (Fits valueOf) := fun _ =>
  inferInstanceAs (Decidable (_ ∧ _))

theorem ofTable_eq_ok_iff {t : Table} (distinct : (t.map (·.1)).Nodup) (c : Config) :
    ofTable t = .ok c ↔ Fits t.get? c := by
  have keys : (t.map fun m => (m.1, (⟨m.1, m.2⟩ : Located))).map (·.1) = t.map (·.1) := by
    rw [List.map_map]
    rfl
  rw [ofTable, Decoder.fromMembers, Decoder.addMembers_eq_ok_iff _ (keys ▸ distinct), Fits, keeping]
  refine and_congr ?_ ?_
  · rw [List.forall_mem_map]
    refine ⟨fun all name known v has => all _ (Table.mem_of_get? has) known,
      fun all m mem known => all m.1 known m.2 (Table.get?_of_mem distinct mem)⟩
  · simp only [Table.get?_isSome, List.any_map]
    rfl

end FileSearch.Config
