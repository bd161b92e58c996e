import FileSearch.Engine.Slot
import FileSearch.Proofs.Engine.Change

/-!
# At most one client has an engine

`Move` lists what a client can do, and `Move.of_clientStep` says that these are all of its steps.
Each of them keeps the number of clients that have the guard equal to one if the guard is taken and
to zero otherwise (`Guarded`), so in every state that clients can come to at most one of them has an
engine or builds one, and who is refused leaves the guard to the others (`Reachable.exclusive`).  A
client has one engine at most; whoever asks for a second one counts as another client.
-/

namespace FileSearch.Engine.Slot

/-! ## What clients do -/

/-- A step of a client: what it is at and does, then the guard, what it is at, and the answer. -/
inductive Move (host : Host) (taken : Bool) :
    Client → Action → Bool → Client → Answer → Prop where
  /-- The configuration is refused. -/
  | refuse {config : Config} {err : SearchError} (invalid : config.validate = .error err) :
    Move host taken .idle (.init config) taken .idle (.refused err)
  | enter {config : Config} (valid : config.validate = .ok ()) :
    Move host taken .idle (.init config) taken (.entering config) .none
  /-- Another client has been faster. -/
  | lose {config : Config} (held : taken = true) :
    Move host taken (.entering config) .proceed taken .idle (.refused .alreadyInitialized)
  | take {config : Config} (free : taken = false) :
    Move host taken (.entering config) .proceed true (.building config) .none
  | build {config : Config} {engine : Engine} (built : Engine.build host config = .ok engine) :
    Move host taken (.building config) .proceed taken (.alive engine) .started
  | fail {config : Config} {err : SearchError} (failed : Engine.build host config = .error err) :
    Move host taken (.building config) .proceed taken (.failing err) .none
  | giveUp {err : SearchError} :
    Move host taken (.failing err) .proceed false .idle (.refused err)
  | finish {engine : Engine} : Move host taken (.alive engine) .finish taken .dropping .none
  | drop : Move host taken .dropping .proceed false .idle .none

variable {host : Host} {taken taken' : Bool} {c c' : Client} {a : Action} {answer : Answer}

theorem Move.of_clientStep (h : clientStep host taken c a = some (taken', c', answer)) :
    Move host taken c a taken' c' answer := by
  unfold clientStep at h
  split at h
  · split at h
    · rename_i valid
      cases h
      exact .enter valid
    · rename_i invalid
      cases h
      exact .refuse invalid
  · split at h
    · rename_i held
      cases h
      exact .lose held
    · rename_i free
      cases h
      exact .take (Bool.eq_false_iff.2 free)
  · split at h
    · rename_i built
      cases h
      exact .build built
    · rename_i failed
      cases h
      exact .fail failed
  · cases h
    exact .giveUp
  · cases h
    exact .finish
  · cases h
    exact .drop
  · cases h

/-- The guard is taken as often as a client comes to have it, and given back as often as one no
longer has it. -/
theorem Move.balance (h : Move host taken c a taken' c' answer) (held : c.holdsGuard → taken) :
    taken'.toNat + c.holdsGuard.toNat = taken.toNat + c'.holdsGuard.toNat := by
  cases h with
  | take free => rw [free]; rfl
  | giveUp => rw [held rfl]; rfl
  | drop => rw [held rfl]; rfl
  | refuse | enter | lose | build | fail | finish => rfl

theorem Move.of_refused {err : SearchError} (h : Move host taken c a taken' c' (.refused err)) :
    c' = .idle ∧ taken' = (taken && !c.holdsGuard) := by
  cases h <;> simp [Client.holdsGuard]

/-- What holds of a client whatever the others do. -/
def Client.Sound : Client → Prop
  | .entering config => config.validate = .ok ()
  | .failing err => err ≠ .alreadyInitialized
  | _ => True

theorem build_ne_alreadyInitialized (host : Host) (config : Config) :
    Engine.build host config ≠ .error .alreadyInitialized := by
  intro h
  by_cases now : config.workersBehavior = .onInit
  · rcases starts : host.startWorkers config.numWorkers.toNat with err | _
    · obtain ⟨reason, rfl⟩ := eq_config_of_startWorkers starts
      simp [Engine.build, now, starts, bind, Except.bind] at h
    · simp [Engine.build, now, starts, bind, Except.bind, pure, Except.pure] at h
  · simp [Engine.build, now, pure, Except.pure] at h

theorem validate_ne_alreadyInitialized (config : Config) :
    config.validate ≠ .error .alreadyInitialized := by
  unfold Config.validate
  split
  · simp
  · split
    · simp
    · split <;> simp

theorem Move.sound (h : Move host taken c a taken' c' answer) : c'.Sound := by
  cases h with
  | enter valid => exact valid
  | @fail config err failed =>
    rintro rfl
    exact build_ne_alreadyInitialized host config failed
  | refuse | lose | take | build | giveUp | finish | drop => trivial

/-- Only who finds the guard taken is told that there is an engine already. -/
theorem Move.of_alreadyInitialized (sound : c.Sound)
    (h : Move host taken c a taken' c' (.refused .alreadyInitialized)) :
    ∃ config, c = .entering config ∧ a = .proceed := by
  cases h with
  | @refuse config _ invalid => exact absurd invalid (validate_ne_alreadyInitialized config)
  | lose => exact ⟨_, rfl, rfl⟩
  | giveUp => exact absurd rfl sound

/-! ## The guard -/

/-- A client other than the given one has the guard. -/
def State.HeldByOther (s : State) (i : Nat) : Prop :=
  ∃ j c, j ≠ i ∧ s.clients[j]? = some c ∧ c.holdsGuard = true

/-- As many clients have the guard as it is taken. -/
structure Guarded (s : State) : Prop where
  holders : s.clients.countP Client.holdsGuard = s.taken.toNat
  sound : ∀ c ∈ s.clients, c.Sound

variable {s s' : State} {i j : Nat} {clients : Nat}

/-- Setting a client takes what it was out of the count and what it is into it. -/
theorem countP_set_add {l : List Client} (at_i : l[i]? = some c) (c' : Client) (p : Client → Bool) :
    (l.set i c').countP p + (p c).toNat = l.countP p + (p c').toNat := by
  obtain ⟨lt, rfl⟩ := List.getElem?_eq_some_iff.1 at_i
  have toNat_eq (b : Bool) : (if b = true then 1 else 0) = b.toNat := by cases b <;> rfl
  have own := List.boole_getElem_le_countP (p := p) lt
  rw [List.countP_set lt]
  simp only [toNat_eq] at own ⊢
  omega

theorem step_eq_some (h : step host s i a = some (s', answer)) :
    ∃ c c', s.clients[i]? = some c ∧ s'.clients = s.clients.set i c' ∧
      Move host s.taken c a s'.taken c' answer := by
  unfold step at h
  split at h
  · cases h
  · rename_i c at_i
    split at h
    · cases h
    · rename_i moved
      cases h
      exact ⟨c, _, at_i, rfl, .of_clientStep moved⟩

theorem Guarded.start (clients : Nat) : Guarded (start clients) := by
  constructor
  · simp [Slot.start, Client.holdsGuard]
  · intro c hc
    rw [List.eq_of_mem_replicate hc]
    trivial

namespace Guarded

theorem taken_iff (hg : Guarded s) : s.taken = true ↔ ∃ c ∈ s.clients, c.holdsGuard = true := by
  rw [← List.countP_pos_iff, hg.holders]
  cases s.taken <;> simp

theorem taken_of_holds (hg : Guarded s) (at_i : s.clients[i]? = some c) (holds : c.holdsGuard) :
    s.taken = true :=
  hg.taken_iff.2 ⟨c, List.mem_of_getElem? at_i, holds⟩

theorem eq_of_holds (hg : Guarded s) {d : Client} (at_i : s.clients[i]? = some c)
    (at_j : s.clients[j]? = some d) (holds : c.holdsGuard) (holds' : d.holdsGuard) : i = j := by
  refine Decidable.byContradiction fun different => ?_
  -- Without the first holder there would be none, yet the second one is still there.
  have left := countP_set_add at_i .idle Client.holdsGuard
  rw [hg.holders, hg.taken_of_holds at_i holds, holds] at left
  have none : (s.clients.set i .idle).countP Client.holdsGuard = 0 := by
    simpa [Client.holdsGuard] using left
  have still : (s.clients.set i .idle)[j]? = some d := by
    rw [List.getElem?_set_ne different, at_j]
  exact List.countP_eq_zero.1 none d (List.mem_of_getElem? still) holds'

theorem heldByOther_iff (hg : Guarded s) (at_i : s.clients[i]? = some c) :
    s.HeldByOther i ↔ s.taken = true ∧ c.holdsGuard = false := by
  constructor
  · rintro ⟨j, d, different, at_j, holds⟩
    refine ⟨hg.taken_of_holds at_j holds, Bool.eq_false_iff.2 fun own => ?_⟩
    exact different (hg.eq_of_holds at_j at_i holds own)
  · rintro ⟨taken, free⟩
    obtain ⟨d, mem, holds⟩ := hg.taken_iff.1 taken
    obtain ⟨j, at_j⟩ := List.getElem?_of_mem mem
    refine ⟨j, d, ?_, at_j, holds⟩
    rintro rfl
    obtain rfl : d = c := Option.some.inj (at_j.symm.trans at_i)
    rw [free] at holds
    cases holds

theorem step (hg : Guarded s) (h : step host s i a = some (s', answer)) : Guarded s' := by
  obtain ⟨c, c', at_i, after, move⟩ := step_eq_some h
  constructor
  · have counted := countP_set_add at_i c' Client.holdsGuard
    have balance := move.balance (hg.taken_of_holds at_i)
    have holders := hg.holders
    rw [after]
    omega
  · intro d hd
    rw [after] at hd
    rcases List.mem_or_eq_of_mem_set hd with old | rfl
    · exact hg.sound d old
    · exact move.sound

end Guarded

theorem Reachable.guarded (h : Reachable clients s) : Guarded s := by
  induction h with
  | start => exact .start clients
  | step _ moved ih => exact ih.step moved

/-! ## At most one engine -/

/-- What clients can rely on. -/
structure Exclusive (s : State) : Prop where
  /-- No two clients have an engine or build one. -/
  unique : ∀ (i j : Nat) (c d : Client), s.clients[i]? = some c → s.clients[j]? = some d →
    c.holdsGuard = true → d.holdsGuard = true → i = j
  /-- The guard is taken while some client has an engine or builds one. -/
  taken_iff : s.taken = true ↔ ∃ c ∈ s.clients, c.holdsGuard = true
  /-- Whoever is refused is where it was before, and has not the guard. -/
  refused : ∀ host i a s' err, Slot.step host s i a = some (s', .refused err) →
    s'.clients = s.clients.set i .idle ∧ (s'.taken = true ↔ s.HeldByOther i)
  /-- Only with a valid configuration a client comes to try for the guard, and it gets the guard
  unless another one has it. -/
  entering : ∀ host i config, s.clients[i]? = some (.entering config) →
    config.validate = .ok () ∧
      ∃ s' answer, Slot.step host s i .proceed = some (s', answer) ∧
        (answer = .refused .alreadyInitialized ↔ s.HeldByOther i) ∧
        (¬ s.HeldByOther i → s'.taken = true ∧ s'.clients = s.clients.set i (.building config))
  /-- Nobody else is told that there is an engine already. -/
  alreadyInitialized : ∀ host i a s',
    Slot.step host s i a = some (s', .refused .alreadyInitialized) →
    (∃ config, s.clients[i]? = some (.entering config)) ∧ s.HeldByOther i

theorem Guarded.entering (hg : Guarded s) {config : Config}
    (at_i : s.clients[i]? = some (.entering config)) (host : Host) :
    ∃ s' answer, Slot.step host s i .proceed = some (s', answer) ∧
      (answer = .refused .alreadyInitialized ↔ s.HeldByOther i) ∧
      (¬ s.HeldByOther i → s'.taken = true ∧ s'.clients = s.clients.set i (.building config)) := by
  have held := hg.heldByOther_iff at_i
  rcases taken : s.taken with _ | _
  · refine ⟨⟨true, s.clients.set i (.building config)⟩, .none, ?_, ?_, ?_⟩
    · simp [Slot.step, at_i, clientStep, taken]
    · simp [held, taken]
    · exact fun _ => ⟨rfl, rfl⟩
  · refine ⟨⟨true, s.clients.set i .idle⟩, .refused .alreadyInitialized, ?_, ?_, ?_⟩
    · simp [Slot.step, at_i, clientStep, taken]
    · simp [held, taken, Client.holdsGuard]
    · exact fun free => absurd (held.2 ⟨taken, rfl⟩) free

/-- Whatever the order of their steps, at most one client has an engine or builds one, and the guard
is taken exactly then; a client that is refused does not keep it, and a valid configuration is
refused for the sake of another engine exactly if that one has the guard. -/
theorem Reachable.exclusive (h : Reachable clients s) : Exclusive s := by
  have hg := h.guarded
  refine ⟨fun _ _ _ _ => hg.eq_of_holds, hg.taken_iff, ?_, ?_, ?_⟩
  · intro host i a s' err stepped
    obtain ⟨c, c', at_i, after, move⟩ := step_eq_some stepped
    obtain ⟨rfl, taken⟩ := move.of_refused
    refine ⟨after, ?_⟩
    rw [taken, hg.heldByOther_iff at_i, Bool.and_eq_true, Bool.not_eq_true']
  · intro host i config at_i
    exact ⟨hg.sound _ (List.mem_of_getElem? at_i), hg.entering at_i host⟩
  · intro host i a s' stepped
    obtain ⟨c, c', at_i, -, move⟩ := step_eq_some stepped
    obtain ⟨config, rfl, rfl⟩ := move.of_alreadyInitialized (hg.sound c (List.mem_of_getElem? at_i))
    refine ⟨⟨config, at_i⟩, ?_⟩
    obtain ⟨s'', answer, again, told, -⟩ := hg.entering at_i host
    rw [stepped] at again
    cases again
    exact told.1 rfl

/-- A client whose threads cannot be started, and one that wants an engine meanwhile. -/
theorem Reachable.exclusive_failing :
    let host : Host := { fs := { root := .dir [] }, threadFailure := fun _ => some "no threads" }
    let failing : Client := .failing (.config "failed to start workers: no threads")
    let s : State := ⟨true, [failing, .entering {}]⟩
    let s₁ : State := ⟨true, [failing, .idle]⟩
    let s₂ : State := ⟨false, [.idle, .entering {}]⟩
    Reachable 2 s ∧ Exclusive s ∧
      Slot.step host s 1 .proceed = some (s₁, .refused .alreadyInitialized) ∧
      Slot.step host s 0 .proceed =
        some (s₂, .refused (.config "failed to start workers: no threads")) := by
  intro host failing s s₁ s₂
  have first : Reachable 2 ⟨false, [.entering {}, .idle]⟩ :=
    Reachable.start.step (show Slot.step host _ 0 (.init {}) = some (_, .none) from rfl)
  have building : Reachable 2 ⟨true, [.building {}, .idle]⟩ :=
    first.step (show Slot.step host _ 0 .proceed = some (_, .none) from rfl)
  have both : Reachable 2 ⟨true, [.building {}, .entering {}]⟩ :=
    building.step (show Slot.step host _ 1 (.init {}) = some (_, .none) from rfl)
  have h : Reachable 2 s :=
    both.step (show Slot.step host _ 0 .proceed = some (_, .none) from rfl)
  exact ⟨h, h.exclusive, rfl, rfl⟩

end FileSearch.Engine.Slot
