import FileSearch.Engine.History

/-!
# What an operation changes

An operation either fails, and then it has at most kept one more compiled pattern (`Engine.Warms`),
or it does one of four things: it configures the engine, starts the workers, stops them, or finds an
output (`Engine.Change`).  `Performs.change` takes the actions apart once; what holds along a
history is then shown for these five cases.
-/

namespace FileSearch.Engine

/-! ## Actions -/

namespace Action

variable {α β : Type}

@[simp] theorem on_pure (x : α) (e : Engine) : (pure x : Action α).on e = (.ok x, e) := rfl

@[simp] theorem on_throw (err : SearchError) (e : Engine) :
    (throw err : Action α).on e = (.error err, e) := rfl

@[simp] theorem on_get (e : Engine) : (get : Action Engine).on e = (.ok e, e) := rfl

@[simp] theorem on_modify (f : Engine → Engine) (e : Engine) :
    (modify f : Action Unit).on e = (.ok (), f e) := rfl

@[simp] theorem on_lift (answer : Except SearchError α) (e : Engine) :
    (liftM answer : Action α).on e = (answer, e) := rfl

@[simp] theorem on_bind (a : Action α) (f : α → Action β) (e : Engine) :
    (a >>= f).on e =
      match a.on e with
      | (.ok x, e') => (f x).on e'
      | (.error err, e') => (.error err, e') := by
  rcases h : a.on e with ⟨_ | _, _⟩ <;>
  · rw [on, ExceptT.run_bind, StateT.run_bind]
    change a.run.run e = _ at h
    rw [h]
    rfl

@[simp] theorem on_map (f : α → β) (a : Action α) (e : Engine) :
    (f <$> a).on e = ((a.on e).1.map f, (a.on e).2) := by
  rw [map_eq_pure_bind, on_bind]
  rcases a.on e with ⟨_ | _, _⟩ <;> rfl

end Action

variable {e e' : Engine} {host : Host} {answer : Answer}

/-! ## What actions come to -/

theorem eq_config_of_startWorkers {workers : Nat} {err : SearchError}
    (h : host.startWorkers workers = .error err) : ∃ reason, err = .config reason := by
  unfold Host.startWorkers Pool.checkWorkers at h
  split at h
  · cases h
    exact ⟨_, rfl⟩
  · rcases failure : host.threadFailure workers with _ | reason
    · rw [failure] at h
      cases h
    · rw [failure] at h
      cases h
      exact ⟨_, rfl⟩

theorem on_startWorkers (host : Host) (e : Engine) :
    (startWorkers host).on e =
      match e.workers with
      | some _ => (.error .workersRunning, e)
      | none =>
        match host.startWorkers e.config.numWorkers.toNat with
        | .ok _ => (.ok (), { e with workers := some e.config.numWorkers.toNat })
        | .error err => (.error err, e) := by
  rcases runs : e.workers with _ | n
  · rcases starts : host.startWorkers e.config.numWorkers.toNat <;>
      simp [startWorkers, isRunning, runs, starts]
  · simp [startWorkers, isRunning, runs]

theorem on_stopWorkers (e : Engine) :
    stopWorkers.on e =
      match e.workers with
      | some _ => (.ok (), { e with workers := none })
      | none => (.error .workersStopped, e) := by
  obtain ⟨config, workers, rules, compiled, lastStats⟩ := e
  cases workers <;> rfl

theorem on_patternFor (text : String) (e : Engine) :
    (patternFor text).on e =
      match e.cached? (e.key text) with
      | some p => (.ok p, e)
      | none =>
        match Pattern.compile text (e.key text).options with
        | .ok p => (.ok p, e.remember (e.key text) p)
        | .error err => (.error err, e) := by
  have same : Pattern.compile (e.key text).text (e.key text).options =
      Pattern.compile text (e.key text).options := rfl
  rcases cached : e.cached? (e.key text) with _ | p
  · rcases compiled : Pattern.compile text (e.key text).options <;>
      simp [patternFor, cached, same, compiled, Except.map]
  · simp [patternFor, cached]

theorem on_prepare (host : Host) (request : Request) (e : Engine) :
    (prepare host request).on e =
      match request.validate with
      | .error err => (.error err, e)
      | .ok _ =>
        match (patternFor request.pattern).on e with
        | (.error err, e₁) => (.error err, e₁)
        | (.ok p, e₁) => ((e₁.workersFor host).map (Prod.mk p), e₁) := by
  rcases valid : request.validate with err | _
  · simp [prepare, valid]
  · rcases found : (patternFor request.pattern).on e with ⟨err | p, e₁⟩ <;>
      simp [prepare, valid, found]

/-! ## Changes -/

/-- At most one more compiled pattern is kept. -/
inductive Warms (e : Engine) : Engine → Prop where
  | same : Warms e e
  | remember {k : PatternKey} {p : Pattern} :
    Pattern.compile k.text k.options = .ok p → Warms e (e.remember k p)

/-- What an operation can do to an engine. -/
inductive Change (e : Engine) (host : Host) : Operation → Answer → Engine → Prop where
  | fails {operation : Operation} {err : SearchError} {e' : Engine} :
    e.Warms e' → Change e host operation (.error err) e'
  | configures {config : Config} :
    config.validate = .ok () →
      (∀ n ∈ e.workers,
        n = config.numWorkers.toNat ∨ host.startWorkers config.numWorkers.toNat = .ok ()) →
      Change e host (.setConfig config) (.ok none)
        { e with
          config
          workers := e.workers.map fun _ => config.numWorkers.toNat
          rules := IgnoreRules.ofTexts config.ignorePatterns
          compiled := [] }
  | starts :
    e.workers = none → host.startWorkers e.config.numWorkers.toNat = .ok () →
      Change e host .startWorkers (.ok none)
        { e with workers := some e.config.numWorkers.toNat }
  | stops {n : Nat} :
    e.workers = some n → Change e host .stopWorkers (.ok none) { e with workers := none }
  | finds {request : Request} {p : Pattern} {workers : Nat} {output : Output} {e' : Engine} :
    e.Warms e' → e'.Finds host workers p request.paths output →
      Change e host (.search request) (.ok (some output)) (e'.record output)

/-- Workers that go on have the number that is wanted. -/
theorem resize_cases {wanted : Nat} {result : Except SearchError Unit}
    (h : (resize host wanted).on e = (result, e')) :
    (∃ err, result = .error err ∧ e' = e) ∨
      result = .ok () ∧ e' = { e with workers := e.workers.map fun _ => wanted } ∧
        ∀ n ∈ e.workers, n = wanted ∨ host.startWorkers wanted = .ok () := by
  obtain ⟨config, workers, rules, compiled, lastStats⟩ := e
  cases workers with
  | none =>
    cases h
    exact .inr ⟨rfl, rfl, nofun⟩
  | some n =>
    by_cases same : n = wanted
    · subst same
      simp only [resize, Action.on_bind, Action.on_get, ne_eq, not_true_eq_false, if_false] at h
      cases h
      exact .inr ⟨rfl, rfl, fun _ runs => .inl (Option.some.inj runs).symm⟩
    · simp only [resize, Action.on_bind, Action.on_get, ne_eq, same, not_false_eq_true, if_true,
        Action.on_lift] at h
      rcases starts : host.startWorkers wanted with err | _
      · rw [starts] at h
        cases h
        exact .inl ⟨err, rfl, rfl⟩
      · rw [starts] at h
        cases h
        exact .inr ⟨rfl, rfl, fun _ _ => .inr rfl⟩

theorem Change.of_setConfig {config : Config}
    (h : e.apply host (.setConfig config) = (answer, e')) :
    e.Change host (.setConfig config) answer e' := by
  simp only [apply, perform, setConfig, Action.on_bind, Action.on_lift] at h
  rcases valid : config.validate with err | _
  · rw [valid] at h
    cases h
    exact .fails .same
  · rw [valid] at h
    rcases resized : (resize host config.numWorkers.toNat).on e with ⟨result, e₁⟩
    dsimp only at h
    rw [resized] at h
    rcases resize_cases resized with ⟨err, rfl, rfl⟩ | ⟨rfl, rfl, fits⟩
    · cases h
      exact .fails .same
    · cases h
      exact .configures valid fits

theorem Change.of_startWorkers (h : e.apply host .startWorkers = (answer, e')) :
    e.Change host .startWorkers answer e' := by
  rw [apply, perform, Action.on_bind, on_startWorkers] at h
  rcases runs : e.workers with _ | n
  · rcases starts : host.startWorkers e.config.numWorkers.toNat with err | _
    · rw [runs, starts] at h
      cases h
      exact .fails .same
    · rw [runs, starts] at h
      cases h
      exact .starts runs starts
  · rw [runs] at h
    cases h
    exact .fails .same

theorem Change.of_stopWorkers (h : e.apply host .stopWorkers = (answer, e')) :
    e.Change host .stopWorkers answer e' := by
  rw [apply, perform, Action.on_bind, on_stopWorkers] at h
  rcases runs : e.workers with _ | n
  · rw [runs] at h
    cases h
    exact .fails .same
  · rw [runs] at h
    cases h
    exact .stops runs

theorem warms_patternFor {text : String} {result : Except SearchError Pattern}
    (h : (patternFor text).on e = (result, e')) : e.Warms e' := by
  rw [on_patternFor] at h
  split at h
  · cases h
    exact .same
  · split at h
    · rename_i p compiled
      cases h
      exact .remember compiled
    · cases h
      exact .same

theorem warms_prepare {request : Request} {result : Except SearchError (Pattern × Nat)}
    (h : (prepare host request).on e = (result, e')) : e.Warms e' := by
  rw [on_prepare] at h
  rcases valid : request.validate with err | _
  · rw [valid] at h
    cases h
    exact .same
  · rcases found : (patternFor request.pattern).on e with ⟨err | p, e₁⟩
    all_goals
      rw [valid, found] at h
      cases h
      exact warms_patternFor found

theorem Change.of_searches {request : Request} {found : Except SearchError Output}
    (h : e.Searches host request found e') :
    e.Change host (.search request) (found.map some) e' := by
  cases h with
  | fails prepared => exact .fails (warms_prepare prepared)
  | finds prepared found => exact .finds (warms_prepare prepared) found

/-- Whatever an operation does is one of the changes. -/
theorem Performs.change {operation : Operation} (h : e.Performs host operation answer e') :
    e.Change host operation answer e' := by
  cases h with
  | setConfig h => exact .of_setConfig h
  | startWorkers h => exact .of_startWorkers h
  | stopWorkers h => exact .of_stopWorkers h
  | search h => exact .of_searches h

end FileSearch.Engine
