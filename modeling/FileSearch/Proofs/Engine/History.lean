import Mathlib
import FileSearch.Proofs.Engine.Coherent
import FileSearch.Proofs.Pool.Determinism

/-!
# What a history leaves behind

An operation that fails changes nothing that a client can see, and the counters of the engine are
those of the latest output (`History.unchanged_of_error`).  Of the history, a search depends on the
configuration in force and on whether workers run, and on nothing else
(`History.answers_as_fresh`).  As long as no client asks to stop the workers, they run if the first
configuration starts them or a client does; a later configuration does not start them
(`History.isRunning_eq`, `History.workersStopped_iff`).
-/

namespace FileSearch

/-! ## Errors of the parts -/

theorem Host.startWorkers_ne_workersStopped (host : Host) (workers : Nat) :
    host.startWorkers workers ≠ .error .workersStopped := by
  unfold Host.startWorkers Pool.checkWorkers
  split
  · simp [bind, Except.bind]
  · rcases host.threadFailure workers with _ | reason <;>
      simp [bind, Except.bind, pure, Except.pure, throw, throwThe, MonadExceptOf.throw]

theorem Pattern.compile_ne_workersStopped (text : String) (options : PatternOptions) :
    compile text options ≠ .error .workersStopped := by
  unfold compile
  split
  · simp
  · split
    · simp
    · dsimp only
      split <;> simp

/-- A text that is compiled is one that may be searched for. -/
theorem Request.validate_of_compile {request : Request} {options : PatternOptions} {p : Pattern}
    (compiles : Pattern.compile request.pattern options = .ok p) : request.validate = .ok () := by
  unfold Pattern.compile at compiles
  split at compiles
  · cases compiles
  · rename_i named
    exact if_neg named

namespace Engine

variable {e e' f : Engine} {host : Host} {request : Request} {operation : Operation}
  {answer : Answer} {first : Config} {events : List Event}

/-! ## Failures and counters -/

theorem Change.warms_of_error {err : SearchError} (h : e.Change host operation (.error err) e') :
    e.Warms e' := by
  cases h with
  | fails warms => exact warms

theorem Change.lastStats_eq (h : e.Change host operation answer e') :
    e'.lastStats = (answer.toOption.join.map (·.stats)).or e.lastStats := by
  cases h with
  | fails warms => exact warms.lastStats_eq
  | configures | starts | stops | finds => rfl

theorem History.lastStats_eq (h : History first events e) :
    e.lastStats = (lastOutput? events).map (·.stats) := by
  induction h with
  | init starts =>
    obtain ⟨-, -, rfl⟩ := init_eq_ok_iff.1 starts
    rfl
  | @next events e e' host operation answer _ performs ih =>
    rw [performs.change.lastStats_eq, ih, lastOutput?, lastOutput?, List.findSome?_cons]
    rcases answer.toOption.join with _ | output <;> rfl

/-- An operation that fails changes neither the configuration nor the ignore rules, neither whether
workers run nor how many, and not the counters, which are those of the latest output. -/
theorem History.unchanged_of_error (h : History first events e) :
    (∀ host operation err e', e.Performs host operation (.error err) e' →
      e'.config = e.config ∧ e'.rules = e.rules ∧ e'.workers = e.workers ∧
        e'.lastStats = e.lastStats) ∧
      e.lastStats = (lastOutput? events).map (·.stats) := by
  refine ⟨fun host operation err e' fails => ?_, h.lastStats_eq⟩
  have warms := fails.change.warms_of_error
  exact ⟨warms.config_eq, warms.rules_eq, warms.workers_eq, warms.lastStats_eq⟩

/-- Workers that are started and stopped by hand: a search, then one that comes too late. -/
theorem History.unchanged_of_error_manual :
    let host : Host := { fs := { root := .dir [] } }
    let first : Config := { workersBehavior := .manual }
    let foo : Operation := .search ⟨"foo", []⟩
    let events : List Event :=
      [⟨host, .stopWorkers, .ok none⟩, ⟨host, foo, .ok (some {})⟩, ⟨host, .startWorkers, .ok none⟩]
    let e : Engine :=
      { config := first
        workers := none
        rules := ⟨[]⟩
        compiled := [(⟨"foo", {}⟩, ⟨"foo", .literal "foo".toUTF8⟩)]
        lastStats := some {} }
    History first events e ∧ e.Performs host foo (.error .workersStopped) e ∧
      (∀ host operation err e', e.Performs host operation (.error err) e' →
        e'.config = e.config ∧ e'.rules = e.rules ∧ e'.workers = e.workers ∧
          e'.lastStats = e.lastStats) ∧
        e.lastStats = (lastOutput? events).map (·.stats) := by
  intro host first foo events e
  have made : Engine.init host none first =
      .ok { config := first, workers := none, rules := ⟨[]⟩ } := rfl
  have started := History.init made
  have running : History first [⟨host, .startWorkers, .ok none⟩]
      { config := first, workers := some 8, rules := ⟨[]⟩ } := started.next_of_apply (by cbv)
  have searched : History first [⟨host, foo, .ok (some {})⟩, ⟨host, .startWorkers, .ok none⟩]
      { e with workers := some 8 } := running.next_of_apply (by cbv)
  have stopped : History first events e := searched.next_of_apply (by cbv)
  have late : e.apply host foo = (.error .workersStopped, e) := by cbv
  exact ⟨stopped, stopped.coherent.performs_of_apply late, stopped.unchanged_of_error⟩

/-! ## Answers of a fresh engine -/

/-- Whether answers are the same error, or outputs that are the same up to order. -/
inductive Agrees : Except SearchError Output → Except SearchError Output → Prop where
  | error (err : SearchError) : Agrees (.error err) (.error err)
  | output {o o' : Output} : o.SameUpToOrder o' → Agrees (.ok o) (.ok o')

/-- Without a time limit, a search finds the same whatever the order of its steps. -/
theorem Coherent.agrees (hc : e.Coherent) (untimed : e.config.timeout = none)
    {found found' : Except SearchError Output} (h : ∃ e', e.Searches host request found e')
    (h' : ∃ e', e.Searches host request found' e') : Agrees found found' := by
  rcases found with err | o
  · have failed := hc.searches_error_iff.1 h
    rcases found' with err' | o'
    · cases failed.symm.trans (hc.searches_error_iff.1 h')
      exact .error err
    · obtain ⟨p, workers, needs, -⟩ := hc.searches_ok_iff.1 h'
      cases failed.symm.trans needs
  · obtain ⟨p, workers, needs, finds⟩ := hc.searches_ok_iff.1 h
    rcases found' with err' | o'
    · cases needs.symm.trans (hc.searches_error_iff.1 h')
    · obtain ⟨p', workers', needs', finds'⟩ := hc.searches_ok_iff.1 h'
      cases needs.symm.trans needs'
      have manned := hc.one_le_workersFor (needs_eq_ok_iff.1 needs).2.2
      refine .output ?_
      rw [Finds] at finds finds'
      by_cases none : request.paths.isEmpty
      · rw [if_pos none] at finds finds'
        rw [finds, finds']
        exact .refl {}
      · rw [if_neg none, untimed] at finds finds'
        exact finds.sameUpToOrder manned manned finds'

/-- Engines of one configuration have the same answers, if a search needs the same of both. -/
theorem Coherent.searches_iff (hc : e.Coherent) (hf : f.Coherent) (config : f.config = e.config)
    (needs : f.needs host request = e.needs host request) {found : Except SearchError Output} :
    (∃ e', e.Searches host request found e') ↔ ∃ f', f.Searches host request found f' := by
  have rules : f.rules = e.rules := by rw [hf.rules, hc.rules, config]
  rcases found with err | output
  · rw [hc.searches_error_iff, hf.searches_error_iff, needs]
  · rw [hc.searches_ok_iff, hf.searches_ok_iff, needs]
    simp only [Finds, config, rules]

/-- Unless it has no workers, an engine has as many for a search as a fresh one. -/
theorem Coherent.workersFor_fresh (hc : e.Coherent) (made : fresh host e.config = .ok f) :
    e.workersFor host = .error .workersStopped ∨ f.workersFor host = e.workersFor host := by
  obtain ⟨-, starts, rfl⟩ := fresh_eq_ok_iff.1 made
  rcases running : e.workers with _ | n
  · rcases mode : e.config.workersBehavior with _ | _ | _
    · left
      simp [workersFor, running, mode]
    · left
      simp [workersFor, running, mode]
    · right
      simp [workersFor, running, mode, starts, bind, Except.bind, pure, Except.pure]
  · right
    simp [workersFor, running, hc.workers n running]

theorem Coherent.needs_fresh (hc : e.Coherent) (made : fresh host e.config = .ok f) :
    e.needs host request ≠ .error .workersStopped →
      f.needs host request = e.needs host request := by
  have same : f.key request.pattern = e.key request.pattern := by
    rw [key, key, config_of_fresh made]
  rw [needs, needs, same]
  -- What is wrong with a pattern is found before the workers are looked at.
  rcases request.validate with err | _
  · exact fun _ => rfl
  · rcases Pattern.compile request.pattern (e.key request.pattern).options with err | p
    · exact fun _ => rfl
    · rcases hc.workersFor_fresh made with none | workers
      · rw [none]
        exact fun able => absurd rfl able
      · rw [workers]
        exact fun _ => rfl

/-- An engine answers like a fresh one of its configuration: the same error, or an output that the
fresh one can have as well, and without a time limit all of these are the same up to order.  Each
pattern that is searched for is the one that the configuration asks for, and not too many are
kept. -/
theorem History.answers_as_fresh (h : History first events e) :
    (∀ text, ((patternFor text).on e).1 =
      Pattern.compile text
        { caseSensitive := e.config.caseMattersFor text, literal := e.config.literal }) ∧
      e.compiled.length ≤ 128 ∧
      ∀ host,
        (host.startWorkers e.config.numWorkers.toNat = .ok () → ∃ f, fresh host e.config = .ok f) ∧
        ∀ f request found e', fresh host e.config = .ok f → e.Searches host request found e' →
          found ≠ .error .workersStopped →
          (∃ f', f.Searches host request found f') ∧
            (e.config.timeout = none →
              ∀ found' f', f.Searches host request found' f' → Agrees found found') := by
  have hc := h.coherent
  refine ⟨hc.patternFor_fst, hc.few, fun host => ⟨fun starts => ?_, ?_⟩⟩
  · exact ⟨_, fresh_eq_ok_iff.2 ⟨hc.valid, starts, rfl⟩⟩
  · intro f request found e' made searches able
    have hf := Coherent.of_fresh made
    have config := config_of_fresh made
    have needs := hc.needs_fresh made (hc.needs_ne_error searches able)
    have also := (hc.searches_iff hf config needs).1 ⟨e', searches⟩
    refine ⟨also, fun untimed found' f' searches' => ?_⟩
    exact hf.agrees (config ▸ untimed) also ⟨f', searches'⟩

/-- A search for the same text after another limit has been set. -/
theorem History.answers_as_fresh_limit :
    let host : Host := { fs := { root := .dir [("a".toUTF8.data.toList, .file "foo foo".toUTF8)] } }
    let config : Config := { maxMatchesPerFile := some 1 }
    let request : Request := ⟨"foo", ["/a".toUTF8]⟩
    let file : FileEntry := ⟨"/a".toUTF8, false, 7⟩
    let found : List Match := [.new 0 "foo".toUTF8, .new 4 "foo".toUTF8]
    let twice : Output :=
      { nresults := 2
        results := [⟨file, found, Flags.textFile⟩]
        stats := { bytes := 7, files := 1, matchCount := 2, matchedFiles := 1 } }
    let once : Output :=
      { nresults := 1
        results := [⟨file, found.take 1, Flags.textFile.union .truncated⟩]
        stats := { bytes := 7, files := 1, matchCount := 1, matchedFiles := 1 } }
    let events : List Event :=
      [⟨host, .setConfig config, .ok none⟩, ⟨host, .search request, .ok (some twice)⟩]
    let f : Engine := { config, workers := some 8, rules := ⟨[]⟩ }
    let e : Engine := { f with lastStats := some twice.stats }
    let e' : Engine :=
      { f with
        compiled := [(⟨"foo", {}⟩, ⟨"foo", .literal "foo".toUTF8⟩)]
        lastStats := some once.stats }
    History {} events e ∧ fresh host e.config = .ok f ∧
      e.Searches host request (.ok once) e' ∧ e.config.timeout = none ∧
      (∃ f', f.Searches host request (.ok once) f') ∧
      ∀ found' f', f.Searches host request found' f' → Agrees (.ok once) found' := by
  intro host config request file found twice once events f e e'
  have begun : Engine.init host none {} =
      .ok { config := {}, workers := some 8, rules := ⟨[]⟩ } := rfl
  have started := History.init begun
  have searched : History {} [⟨host, .search request, .ok (some twice)⟩]
      { e' with config := {}, lastStats := e.lastStats } := started.next_of_apply (by cbv)
  have h : History {} events e := searched.next_of_apply (by cbv)
  have made : fresh host e.config = .ok f := by rfl
  have answer : (search host request).on e = (.ok once, e') := by cbv
  have searches := h.coherent.searches_search host request
  rw [answer] at searches
  obtain ⟨-, -, fresh⟩ := h.answers_as_fresh
  have able : Except.ok once ≠ .error SearchError.workersStopped := by simp
  obtain ⟨also, agree⟩ := (fresh host).2 f request _ e' made searches able
  exact ⟨h, made, searches, rfl, also, agree rfl⟩

/-! ## Searches without workers -/

theorem workersFor_eq_workersStopped_iff :
    e.workersFor host = .error .workersStopped ↔
      e.isRunning = false ∧ e.config.workersBehavior ≠ .onSearch := by
  have other := host.startWorkers_ne_workersStopped e.config.numWorkers.toNat
  rcases running : e.workers with _ | n
  · rcases mode : e.config.workersBehavior with _ | _ | _
    · simp [workersFor, isRunning, running, mode]
    · simp [workersFor, isRunning, running, mode]
    · rcases starts : host.startWorkers e.config.numWorkers.toNat with err | _
      · rw [starts] at other
        simpa [workersFor, isRunning, running, mode, starts, bind, Except.bind] using other
      · simp [workersFor, isRunning, running, mode, starts, bind, Except.bind, pure, Except.pure]
  · simp [workersFor, isRunning, running]

/-- A pattern that does not compile is reported before the workers are looked at. -/
theorem needs_eq_workersStopped_iff :
    e.needs host request = .error .workersStopped ↔
      (∃ p, Pattern.compile request.pattern (e.key request.pattern).options = .ok p) ∧
        e.workersFor host = .error .workersStopped := by
  have other := Pattern.compile_ne_workersStopped request.pattern (e.key request.pattern).options
  rw [needs]
  rcases compiled : Pattern.compile request.pattern (e.key request.pattern).options with err | p
  · rw [compiled] at other
    have named : request.validate ≠ .error .workersStopped := by
      unfold Request.validate
      split <;> simp
    rcases valid : request.validate with err' | _
    · rw [valid] at named
      simpa [bind, Except.bind] using named
    · simpa [bind, Except.bind] using other
  · rw [Request.validate_of_compile compiled]
    rcases e.workersFor host with err | n <;> simp [bind, Except.bind, pure, Except.pure]

/-- Only a successful start makes workers run, and only a stop ends them. -/
theorem Change.isRunning_eq (h : e.Change host operation answer e')
    (left : Event.stops ⟨host, operation, answer⟩ = false) :
    e'.isRunning = (Event.starts ⟨host, operation, answer⟩ || e.isRunning) := by
  cases h with
  | fails warms =>
    rw [isRunning, warms.workers_eq, isRunning, Event.starts, Except.toBool, Bool.and_false,
      Bool.false_or]
  | configures => exact Option.isSome_map
  | starts => rfl
  | stops => cases left
  | finds warms => exact congrArg Option.isSome warms.workers_eq

theorem History.isRunning_eq (h : History first events e) (left : asksToStop events = false) :
    e.isRunning = (hasStarted events || decide (first.workersBehavior = .onInit)) := by
  induction h with
  | init starts =>
    obtain ⟨-, -, rfl⟩ := init_eq_ok_iff.1 starts
    by_cases now : first.workersBehavior = .onInit <;> simp [isRunning, hasStarted, now]
  | next _ performs ih =>
    rw [asksToStop, List.any_cons, Bool.or_eq_false_iff] at left
    rw [performs.change.isRunning_eq left.1, ih left.2, hasStarted, hasStarted, List.any_cons,
      Bool.or_assoc]

/-- As long as no client asks to stop the workers, a search for a pattern that compiles fails for
want of workers exactly if it may not start some itself, the first configuration left them to the
client, and no client has started them. -/
theorem History.workersStopped_iff (h : History first events e)
    (left : asksToStop events = false) (host : Host) (request : Request) :
    (∃ e', e.Searches host request (.error .workersStopped) e') ↔
      (∃ p, Pattern.compile request.pattern
        { caseSensitive := e.config.caseMattersFor request.pattern
          literal := e.config.literal } = .ok p) ∧
        e.config.workersBehavior ≠ .onSearch ∧ first.workersBehavior ≠ .onInit ∧
          hasStarted events = false := by
  rw [h.coherent.searches_error_iff, needs_eq_workersStopped_iff, workersFor_eq_workersStopped_iff,
    h.isRunning_eq left, Bool.or_eq_false_iff, decide_eq_false_iff_not]
  exact and_congr_right fun _ =>
    ⟨fun ⟨⟨unstarted, later⟩, mode⟩ => ⟨mode, later, unstarted⟩,
      fun ⟨mode, later, unstarted⟩ => ⟨⟨unstarted, later⟩, mode⟩⟩

/-- An engine whose workers are left to the client, and then no longer. -/
theorem History.onInit_after_manual (host : Host) :
    History { workersBehavior := .manual } [⟨host, .setConfig {}, .ok none⟩]
      { config := {}, workers := none, rules := ⟨[]⟩ } := by
  have made : Engine.init host none { workersBehavior := .manual } =
      .ok { config := { workersBehavior := .manual }, workers := none, rules := ⟨[]⟩ } := rfl
  exact (History.init made).next_of_apply rfl

/-- After such a change of the configuration, a search fails for want of workers. -/
theorem History.workersStopped_iff_after_manual :
    let host : Host := { fs := { root := .dir [] } }
    let request : Request := ⟨"foo", []⟩
    let first : Config := { workersBehavior := .manual }
    let events : List Event := [⟨host, .setConfig {}, .ok none⟩]
    let e : Engine := { config := {}, workers := none, rules := ⟨[]⟩ }
    History first events e ∧ asksToStop events = false ∧
      (∃ e', e.Searches host request (.error .workersStopped) e') ∧
      ((∃ e', e.Searches host request (.error .workersStopped) e') ↔
        (∃ p, Pattern.compile request.pattern
          { caseSensitive := e.config.caseMattersFor request.pattern
            literal := e.config.literal } = .ok p) ∧
          e.config.workersBehavior ≠ .onSearch ∧ first.workersBehavior ≠ .onInit ∧
            hasStarted events = false) := by
  intro host request first events e
  have h : History first events e := .onInit_after_manual host
  have left : asksToStop events = false := rfl
  have compiles : Pattern.compile "foo" {} = .ok ⟨"foo", .literal "foo".toUTF8⟩ := by cbv
  have stopped := h.workersStopped_iff left host request
  exact ⟨h, left, stopped.2 ⟨⟨_, compiles⟩, by decide, by decide, rfl⟩, stopped⟩

/-- A configuration that does not leave the workers to the client does not make them run. -/
theorem not_forall_workers_available :
    ¬ ∀ (first : Config) (events : List Event) (e : Engine), History first events e →
      asksToStop events = false →
      e.config.workersBehavior = .onInit ∨ e.config.workersBehavior = .onSearch →
      ∀ host request,
        (∃ p, Pattern.compile request.pattern
          { caseSensitive := e.config.caseMattersFor request.pattern
            literal := e.config.literal } = .ok p) →
        ∀ e', ¬ e.Searches host request (.error .workersStopped) e' := by
  intro available
  let host : Host := { fs := { root := .dir [] } }
  have compiles : Pattern.compile "foo" {} = .ok ⟨"foo", .literal "foo".toUTF8⟩ := by cbv
  have h := History.onInit_after_manual host
  have stopped : ∃ e', Engine.Searches _ host ⟨"foo", []⟩ (.error .workersStopped) e' :=
    h.coherent.searches_error_iff.2 (by cbv)
  obtain ⟨e', fails⟩ := stopped
  exact available _ _ _ h rfl (.inl rfl) host ⟨"foo", []⟩ ⟨_, compiles⟩ e' fails

end Engine

end FileSearch
