import FileSearch.Proofs.Engine.Change
import FileSearch.Proofs.Pool.Finish

/-!
# The parts of an engine fit its configuration

Along a history, the configuration of the engine is one that may be used, and its ignore rules, its
workers and its compiled patterns are those that the configuration asks for (`History.coherent`).
So what a search needs does not depend on what has been compiled before (`Coherent.prepare_fst`),
and neither do its answers (`Coherent.searches_error_iff`, `Coherent.searches_ok_iff`).  The answer
of `Engine.apply` is among the possible ones (`Coherent.performs_of_apply`).  What a client can see
of the parts is `History.parts_fit`.
-/

namespace FileSearch

theorem Config.one_le_numWorkers {c : Config} (valid : c.validate = .ok ()) :
    1 ≤ c.numWorkers.toNat := by
  unfold Config.validate at valid
  split at valid
  · cases valid
  · rename_i enough
    simpa [UInt64.lt_iff_toNat_lt, Nat.one_le_iff_ne_zero] using enough

namespace Engine

variable {e e' f : Engine} {host : Host} {config : Config} {request : Request}
  {operation : Operation} {answer : Answer} {found : Except SearchError Output}

/-! ## The start -/

theorem init_eq_ok_iff :
    Engine.init host none config = .ok e ↔
      config.validate = .ok () ∧
        (config.workersBehavior = .onInit →
          host.startWorkers config.numWorkers.toNat = .ok ()) ∧
        e = {
          config
          workers :=
            if config.workersBehavior = .onInit then some config.numWorkers.toNat else none
          rules := IgnoreRules.ofTexts config.ignorePatterns } := by
  rcases valid : config.validate with err | _
  · simp [Engine.init, valid, bind, Except.bind]
  · by_cases now : config.workersBehavior = .onInit
    · rcases starts : host.startWorkers config.numWorkers.toNat with err | _ <;>
        simp [Engine.init, build, valid, now, starts, bind, Except.bind, pure, Except.pure, eq_comm]
    · simp [Engine.init, build, valid, now, bind, Except.bind, pure, Except.pure, eq_comm]

/-- A fresh engine has the workers that its configuration asks for. -/
theorem fresh_eq_ok_iff :
    fresh host config = .ok f ↔
      config.validate = .ok () ∧ host.startWorkers config.numWorkers.toNat = .ok () ∧
        f = {
          config
          workers := some config.numWorkers.toNat
          rules := IgnoreRules.ofTexts config.ignorePatterns } := by
  rcases valid : config.validate with err | _
  · simp [fresh, Engine.init, valid, bind, Except.bind]
  · rcases starts : host.startWorkers config.numWorkers.toNat with err | _ <;>
    by_cases now : config.workersBehavior = .onInit <;>
      simp [fresh, Engine.init, build, valid, now, starts, bind, Except.bind, pure, Except.pure,
        Except.map, isRunning, on_startWorkers, eq_comm]

theorem config_of_fresh (made : fresh host config = .ok f) : f.config = config := by
  obtain ⟨-, -, rfl⟩ := fresh_eq_ok_iff.1 made
  rfl

/-! ## What compiling leaves as it is -/

namespace Warms

theorem config_eq (h : e.Warms e') : e'.config = e.config := by
  cases h <;> rfl

theorem rules_eq (h : e.Warms e') : e'.rules = e.rules := by
  cases h <;> rfl

theorem workers_eq (h : e.Warms e') : e'.workers = e.workers := by
  cases h <;> rfl

theorem lastStats_eq (h : e.Warms e') : e'.lastStats = e.lastStats := by
  cases h <;> rfl

theorem workersFor_eq (h : e.Warms e') (host : Host) : e'.workersFor host = e.workersFor host := by
  rw [workersFor, workersFor, h.config_eq, h.workers_eq]

theorem finds_iff (h : e.Warms e') {workers : Nat} {p : Pattern} {paths : List Path}
    {output : Output} :
    e'.Finds host workers p paths output ↔ e.Finds host workers p paths output := by
  rw [Finds, Finds, h.config_eq, h.rules_eq]

end Warms

/-! ## Coherence -/

/-- Whether the parts of an engine are those that its configuration asks for. -/
structure Coherent (e : Engine) : Prop where
  valid : e.config.validate = .ok ()
  rules : e.rules = IgnoreRules.ofTexts e.config.ignorePatterns
  workers : ∀ n ∈ e.workers, n = e.config.numWorkers.toNat
  compiled : ∀ k p, (k, p) ∈ e.compiled → Pattern.compile k.text k.options = .ok p
  few : e.compiled.length ≤ mostCompiled

theorem Coherent.of_init (h : Engine.init host none config = .ok e) :
    e.Coherent := by
  obtain ⟨valid, -, rfl⟩ := init_eq_ok_iff.1 h
  refine ⟨valid, rfl, fun n running => ?_, fun _ _ => nofun, Nat.zero_le _⟩
  rw [Option.mem_def, Option.ite_none_right_eq_some] at running
  exact (Option.some.inj running.2).symm

theorem Coherent.warms (hc : e.Coherent) (h : e.Warms e') : e'.Coherent := by
  cases h with
  | same => exact hc
  | @remember k p compiles =>
    refine ⟨hc.valid, hc.rules, hc.workers, fun k' p' mem => ?_, ?_⟩
    · rcases List.mem_cons.1 mem with new | old
      · cases new
        exact compiles
      · split at old
        · cases old
        · exact hc.compiled k' p' old
    · -- When as many are kept as may be, they are dropped, so there is room for one more.
      rw [remember]
      dsimp only
      split
      · exact Nat.succ_le_of_lt (by decide)
      · rename_i room
        exact Nat.succ_le_of_lt (Nat.lt_of_not_le room)

theorem Coherent.change (hc : e.Coherent) (h : e.Change host operation answer e') :
    e'.Coherent := by
  cases h with
  | fails warms => exact hc.warms warms
  | configures valid =>
    refine ⟨valid, rfl, fun n running => ?_, fun _ _ => nofun, Nat.zero_le _⟩
    obtain ⟨_, -, number⟩ := Option.map_eq_some_iff.1 running
    exact number.symm
  | starts =>
    refine ⟨hc.valid, hc.rules, fun n running => ?_, hc.compiled, hc.few⟩
    exact (Option.some.inj running).symm
  | stops => exact ⟨hc.valid, hc.rules, nofun, hc.compiled, hc.few⟩
  | finds warms =>
    have := hc.warms warms
    exact ⟨this.valid, this.rules, this.workers, this.compiled, this.few⟩

theorem History.coherent {first : Config} {events : List Event} (h : History first events e) :
    e.Coherent := by
  induction h with
  | init starts => exact .of_init starts
  | next _ performs ih => exact ih.change performs.change

theorem Coherent.of_fresh (h : fresh host config = .ok f) : f.Coherent := by
  obtain ⟨valid, -, rfl⟩ := fresh_eq_ok_iff.1 h
  exact ⟨valid, rfl, fun _ running => (Option.some.inj running).symm, fun _ _ => nofun,
    Nat.zero_le _⟩

/-! ## Searches -/

/-- What a search needs, if nothing has been compiled before. -/
def needs (e : Engine) (host : Host) (request : Request) : Except SearchError (Pattern × Nat) := do
  request.validate
  let p ← Pattern.compile request.pattern (e.key request.pattern).options
  let workers ← e.workersFor host
  return (p, workers)

theorem needs_eq_ok_iff {p : Pattern} {workers : Nat} :
    e.needs host request = .ok (p, workers) ↔
      request.validate = .ok () ∧
        Pattern.compile request.pattern (e.key request.pattern).options = .ok p ∧
        e.workersFor host = .ok workers := by
  rw [needs]
  rcases request.validate with err | _
  · simp [bind, Except.bind]
  · rcases Pattern.compile request.pattern (e.key request.pattern).options with err | p
    · simp [bind, Except.bind]
    · rcases e.workersFor host with err | workers <;>
        simp [bind, Except.bind, pure, Except.pure]

theorem mem_compiled_of_cached? {k : PatternKey} {p : Pattern} (h : e.cached? k = some p) :
    (k, p) ∈ e.compiled := by
  obtain ⟨⟨k', p'⟩, at_k, rfl⟩ := Option.map_eq_some_iff.1 h
  obtain rfl : k' = k := by simpa using List.find?_some at_k
  exact List.mem_of_find?_eq_some at_k

namespace Coherent

/-- The pattern of a text is the compiled one, whether or not it has been compiled before. -/
theorem patternFor_fst (hc : e.Coherent) (text : String) :
    ((patternFor text).on e).1 = Pattern.compile text (e.key text).options := by
  rw [on_patternFor]
  rcases cached : e.cached? (e.key text) with _ | p
  · rcases compiled : Pattern.compile text (e.key text).options <;> rfl
  · exact (hc.compiled _ _ (mem_compiled_of_cached? cached)).symm

theorem prepare_fst (hc : e.Coherent) (host : Host) (request : Request) :
    ((prepare host request).on e).1 = e.needs host request := by
  rw [on_prepare, needs]
  rcases valid : request.validate with err | _
  · rfl
  · have compiles := hc.patternFor_fst request.pattern
    rcases compiled : (patternFor request.pattern).on e with ⟨err | p, e₁⟩
    · rw [compiled] at compiles
      rw [← compiles]
      rfl
    · rw [compiled] at compiles
      rw [← compiles]
      dsimp only
      rw [(warms_patternFor compiled).workersFor_eq]
      rcases e.workersFor host <;> rfl

theorem one_le_workersFor (hc : e.Coherent) {n : Nat} (h : e.workersFor host = .ok n) : 1 ≤ n := by
  have enough := Config.one_le_numWorkers hc.valid
  unfold workersFor at h
  split at h
  · rename_i running
    cases h
    rw [hc.workers n running]
    exact enough
  · rcases starts : host.startWorkers e.config.numWorkers.toNat with err | _
    · rw [starts] at h
      cases h
    · rw [starts] at h
      cases h
      exact enough
  · cases h

theorem needs_of_prepare (hc : e.Coherent) {result : Except SearchError (Pattern × Nat)}
    (h : (prepare host request).on e = (result, e')) : e.needs host request = result := by
  rw [← hc.prepare_fst, h]

theorem searches_error_iff (hc : e.Coherent) {err : SearchError} :
    (∃ e', e.Searches host request (.error err) e') ↔ e.needs host request = .error err := by
  constructor
  · rintro ⟨e', h⟩
    cases h with
    | fails prepared => exact hc.needs_of_prepare prepared
  · intro needs
    rw [← hc.prepare_fst] at needs
    exact ⟨_, .fails (Prod.ext needs rfl)⟩

theorem searches_ok_iff (hc : e.Coherent) {output : Output} :
    (∃ e', e.Searches host request (.ok output) e') ↔
      ∃ p workers, e.needs host request = .ok (p, workers) ∧
        e.Finds host workers p request.paths output := by
  constructor
  · rintro ⟨e', h⟩
    cases h with
    | finds prepared finds =>
      exact ⟨_, _, hc.needs_of_prepare prepared, (warms_prepare prepared).finds_iff.1 finds⟩
  · rintro ⟨p, workers, needs, finds⟩
    rw [← hc.prepare_fst] at needs
    have prepared : (prepare host request).on e =
        (.ok (p, workers), ((prepare host request).on e).2) := Prod.ext needs rfl
    exact ⟨_, .finds prepared ((warms_prepare prepared).finds_iff.2 finds)⟩

theorem needs_ne_error (hc : e.Coherent) {err : SearchError} (h : e.Searches host request found e')
    (other : found ≠ .error err) : e.needs host request ≠ .error err := by
  intro needs
  cases h with
  | fails prepared =>
    cases (hc.needs_of_prepare prepared).symm.trans needs
    exact other rfl
  | finds prepared =>
    cases (hc.needs_of_prepare prepared).symm.trans needs

/-! ## The answer that is given -/

theorem searches_search (hc : e.Coherent) (host : Host) (request : Request) :
    e.Searches host request ((search host request).on e).1 ((search host request).on e).2 := by
  rcases prepared : (prepare host request).on e with ⟨err | ⟨p, workers⟩, e₁⟩
  · rw [search, Action.on_bind, prepared]
    exact .fails prepared
  · rw [search, Action.on_bind, prepared]
    refine .finds prepared ?_
    have warms := warms_prepare prepared
    have manned : 1 ≤ workers :=
      hc.one_le_workersFor (needs_eq_ok_iff.1 (hc.needs_of_prepare prepared)).2.2
    rw [Finds]
    by_cases none : request.paths.isEmpty
    · rw [if_pos none]
      exact if_pos none
    · rw [if_neg none, if_neg none]
      exact Pool.yields_run _ manned _ _ _

theorem performs_of_apply (hc : e.Coherent) (h : e.apply host operation = (answer, e')) :
    e.Performs host operation answer e' := by
  cases operation with
  | setConfig config => exact .setConfig h
  | startWorkers => exact .startWorkers h
  | stopWorkers => exact .stopWorkers h
  | search request =>
    rw [apply, perform, Action.on_map] at h
    cases h
    exact .search (hc.searches_search host request)

end Coherent

/-- A history goes on with the answer that is given. -/
theorem History.next_of_apply {first : Config} {events : List Event} (h : History first events e)
    (answers : e.apply host operation = (answer, e')) :
    History first (⟨host, operation, answer⟩ :: events) e' :=
  h.next (h.coherent.performs_of_apply answers)

/-! ## Parts and configuration -/

theorem Change.of_configures (h : e.Change host (.setConfig config) answer e') :
    e'.isRunning = e.isRunning ∧ e'.config = if answer.toBool then config else e.config := by
  cases h with
  | fails warms =>
    have workers := warms.workers_eq
    exact ⟨by rw [isRunning, isRunning, workers], warms.config_eq⟩
  | configures => exact ⟨Option.isSome_map, rfl⟩

/-- Whatever has been asked of an engine, its configuration is one that may be used, its rules are
those of the configuration, and the workers that run are as many as the configuration wants.  A
change of the configuration, successful or not, neither starts nor stops the workers. -/
theorem History.parts_fit {first : Config} {events : List Event} (h : History first events e) :
    e.config.validate = .ok () ∧ e.rules = IgnoreRules.ofTexts e.config.ignorePatterns ∧
      (∀ n, e.workers = some n → n = e.config.numWorkers.toNat ∧ 1 ≤ n) ∧
      ∀ host config answer e', e.Performs host (.setConfig config) answer e' →
        e'.isRunning = e.isRunning ∧ e'.config = if answer.toBool then config else e.config := by
  have hc := h.coherent
  refine ⟨hc.valid, hc.rules, fun n running => ?_, fun host config answer e' performs => ?_⟩
  · have number := hc.workers n running
    exact ⟨number, number ▸ Config.one_le_numWorkers hc.valid⟩
  · exact performs.change.of_configures

/-- Running workers are brought to another number, and then no threads can be started for a third
one. -/
theorem History.parts_fit_resized :
    let fs : FileSystem := { root := .dir [] }
    let config : Config := { numWorkers := 2, ignorePatterns := ["*.log"] }
    let wider : Config := { numWorkers := 5 }
    let host : Host := { fs, threadFailure := fun _ => some "no threads" }
    let err : SearchError := .config "failed to start workers: no threads"
    let events : List Event := [⟨{ fs }, .setConfig config, .ok none⟩]
    let e : Engine := { config, workers := some 2, rules := IgnoreRules.ofTexts ["*.log"] }
    History {} events e ∧ e.Performs host (.setConfig wider) (.error err) e ∧
      e.config.validate = .ok () ∧ e.rules = IgnoreRules.ofTexts e.config.ignorePatterns ∧
      (∀ n, e.workers = some n → n = e.config.numWorkers.toNat ∧ 1 ≤ n) ∧
      ∀ host config answer e', e.Performs host (.setConfig config) answer e' →
        e'.isRunning = e.isRunning ∧ e'.config = if answer.toBool then config else e.config := by
  intro fs config wider host err events e
  have begun : Engine.init { fs } none {} =
      .ok { config := {}, workers := some 8, rules := ⟨[]⟩ } := rfl
  have h : History {} events e := (History.init begun).next_of_apply rfl
  have fails : e.apply host (.setConfig wider) = (.error err, e) := rfl
  exact ⟨h, .setConfig fails, h.parts_fit⟩

end Engine

end FileSearch
