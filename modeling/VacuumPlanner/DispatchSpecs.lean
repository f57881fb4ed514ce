import VacuumPlanner.Acts

/-!
# What happens on a runtime

`RuntimeStep` says once what an act can do to a runtime, and `step_cases` that every act
is one of its cases. Three things are followed through a step: the state and the lock, the
dispatches that hold a claim, and the flags, which only move forward (`Forward`).

A dispatch is `active` from its claim to its end and `launching` until its `clean_area`
call begins. Active dispatches are traced backwards (`Traced`): a step makes a dispatch
active only when its own claim is assigned. A dispatch that waits for its call to return
is left alone in the meantime (`Undisturbed`).

A call that waits for its save has computed its result from the state it will replace.
`Derived` is what the commands guarantee about that result, and `Runtime.Inv` what all acts
keep.
-/

namespace VacuumPlanner

open Framework

/-- The dispatch holds a claim. -/
def Stage.active : Stage → Bool
  | .claimed _ | .selecting | .selected | .cleaning | .cleaned | .accepting | .ambiguous
  | .quarantining => true
  | .created | .ready _ | .claiming | .finished => false

/-- The dispatch holds a claim and has not begun its `clean_area` call. -/
def Stage.launching : Stage → Bool
  | .claimed _ | .selecting | .selected => true
  | _ => false

/-- The dispatch waits for a call on the coordinator. -/
def Stage.waiting : Stage → Bool
  | .claiming | .accepting | .quarantining => true
  | _ => false

/-- The dispatch that waits for the call, and the stage at which it does. -/
def Task.waiter : Task → Option (ℕ × Stage)
  | .claim i _ => some (i, .claiming)
  | .acceptance i => some (i, .accepting)
  | .quarantine i => some (i, .quarantining)
  | _ => none

theorem Stage.active_of_launching {stage : Stage} (h : stage.launching = true) :
    stage.active = true := by
  cases stage <;> first | rfl | exact nomatch h

theorem Stage.interrupted_launching (e : PyError) :
    (Stage.interrupted e).launching = false := by
  cases e <;> rfl

theorem Stage.interrupted_ne_cleaning (e : PyError) : Stage.interrupted e ≠ .cleaning := by
  cases e <;> exact nofun

theorem Stage.not_launching_of_waiting {stage : Stage} (h : stage.waiting = true) :
    ¬ stage.launching = true := by
  cases stage <;> first | exact Bool.false_ne_true | exact nomatch h

theorem Task.waiter_waiting {task : Task} {i : ℕ} {stage : Stage}
    (h : task.waiter = some (i, stage)) : stage.waiting = true := by
  cases task with
  | startNext | mutation | observation => exact nomatch h
  | claim | acceptance | quarantine => cases h; rfl

theorem Stage.nextCall_spec {stage next : Stage} {service : Service}
    (h : stage.nextCall = some (service, next)) : stage.launching = true ∧
      stage.waiting = false ∧ (service = .cleanArea → next.launching = false) := by
  unfold Stage.nextCall at h
  split at h
  · cases h; exact ⟨rfl, rfl, nofun⟩
  · cases h; exact ⟨rfl, rfl, fun _ => rfl⟩
  · cases h; exact ⟨rfl, rfl, fun _ => rfl⟩
  · exact nomatch h

theorem Stage.afterCall_spec {stage next : Stage} (h : stage.afterCall = some next) :
    stage.active = true ∧ stage.waiting = false ∧
      (next.launching = true → stage.launching = true) ∧ next ≠ .cleaning := by
  unfold Stage.afterCall at h
  split at h
  · cases h; exact ⟨rfl, rfl, fun _ => rfl, nofun⟩
  · cases h; exact ⟨rfl, rfl, nofun, nofun⟩
  · exact nomatch h

namespace Runtime

variable {r r' r'' : Runtime} {i j : ℕ} {d d' : Dispatch} {stage : Stage}

/-! ### The stages of the dispatches -/

theorem setStage_self (h : r.dispatches[i]? = some d) :
    (r.setStage i stage).dispatches[i]? = some { d with stage } := by
  unfold setStage
  rw [List.getElem?_modify_eq, h]
  rfl

theorem setStage_other (h : i ≠ j) :
    (r.setStage i stage).dispatches[j]? = r.dispatches[j]? := by
  unfold setStage
  exact List.getElem?_modify_ne _ _ h

theorem setStage_cases (h : (r.setStage i stage).dispatches[j]? = some d') :
    r.dispatches[j]? = some d' ∧ i ≠ j ∨
      i = j ∧ ∃ d, r.dispatches[i]? = some d ∧ d' = { d with stage } := by
  by_cases h_eq : i = j
  · subst h_eq
    cases h_d : r.dispatches[i]? with
    | none =>
      unfold setStage at h
      rw [List.getElem?_modify_eq, h_d] at h
      exact nomatch h
    | some d =>
      rw [setStage_self h_d] at h
      exact Or.inr ⟨rfl, d, rfl, (Option.some.inj h).symm⟩
  · rw [setStage_other h_eq] at h
    exact Or.inl ⟨h, h_eq⟩

/-- The next call of the dispatch would pass its guard. -/
def Passing (r : Runtime) (d : Dispatch) : Prop :=
  d.stage.launching = true ∧ r.flags.requireCommandGeneration d.generation = .ok ()

/-- The active dispatch was active before. -/
def Traced (r : Runtime) (i : ℕ) (d' : Dispatch) : Prop :=
  ∃ d, r.dispatches[i]? = some d ∧ d.stage.active = true ∧ d.blockId = d'.blockId ∧
    d.generation = d'.generation ∧ (d'.stage.launching = true → d.stage.launching = true) ∧
    (d'.stage = .cleaning → d.stage = .cleaning ∨ r.Passing d)

/-- No dispatch has become active. -/
def Traces (r r' : Runtime) : Prop :=
  ∀ i d', r'.dispatches[i]? = some d' → d'.stage.active = true → Traced r i d'

theorem Traces.of_eq (h : r'.dispatches = r.dispatches) : Traces r r' := by
  intro i d' h_d' h_active
  rw [h] at h_d'
  exact ⟨d', h_d', h_active, rfl, rfl, id, Or.inl⟩

theorem Traces.trans (h : Traces r r') (h' : Traces r' r'') (h_flags : r'.flags = r.flags) :
    Traces r r'' := by
  intro i d'' h_d'' h_active
  obtain ⟨d', h_d', h_active', h_id', h_gen', h_launch', h_clean'⟩ := h' i d'' h_d'' h_active
  obtain ⟨d, h_d, h_active, h_id, h_gen, h_launch, h_clean⟩ := h i d' h_d' h_active'
  refine ⟨d, h_d, h_active, h_id.trans h_id', h_gen.trans h_gen', h_launch ∘ h_launch',
    fun h_cleaning => ?_⟩
  rcases h_clean' h_cleaning with h_before | ⟨h_launching, h_passes⟩
  · exact h_clean h_before
  · exact Or.inr ⟨h_launch h_launching, by rw [← h_flags, h_gen]; exact h_passes⟩

theorem Traces.setStage (h : ∀ d, r.dispatches[i]? = some d → stage.active = true →
    d.stage.active = true ∧ (stage.launching = true → d.stage.launching = true) ∧
      (stage = .cleaning → r.Passing d)) :
    Traces r (r.setStage i stage) := by
  intro j d' h_d' h_active
  rcases setStage_cases h_d' with ⟨h_d, -⟩ | ⟨rfl, d, h_d, rfl⟩
  · exact ⟨d', h_d, h_active, rfl, rfl, id, Or.inl⟩
  · obtain ⟨h_before, h_launch, h_clean⟩ := h d h_d h_active
    exact ⟨d, h_d, h_before, rfl, rfl, h_launch, fun h_cleaning => Or.inr (h_clean h_cleaning)⟩

/-- A stage at which no claim is held can be entered from any other. -/
theorem Traces.setStage_inactive (h : stage.active = false) : Traces r (r.setStage i stage) :=
  Traces.setStage fun _ _ h_active => absurd (h_active.symm.trans h) Bool.noConfusion

/-- The dispatches that wait for a call are left alone. -/
def Undisturbed (r r' : Runtime) : Prop :=
  ∀ (i : ℕ) (d : Dispatch), r.dispatches[i]? = some d → d.stage.waiting = true →
    r'.dispatches[i]? = some d

theorem Undisturbed.of_eq (h : r'.dispatches = r.dispatches) : Undisturbed r r' := by
  intro i d h_d _
  rw [h]
  exact h_d

theorem Undisturbed.setStage (h_d : r.dispatches[i]? = some d) (h : d.stage.waiting = false) :
    Undisturbed r (r.setStage i stage) := by
  intro j d' h_d' h_waiting
  by_cases h_eq : i = j
  · subst h_eq
    obtain rfl : d = d' := Option.some.inj (h_d.symm.trans h_d')
    exact absurd (h.symm.trans h_waiting) Bool.noConfusion
  · rw [setStage_other h_eq]
    exact h_d'

/-! ### What the caller of a call does -/

/-- Only the dispatches differ. -/
structure Frame (r r' : Runtime) : Prop where
  number : r'.number = r.number
  dryRun : r'.dryRun = r.dryRun
  flags : r'.flags = r.flags
  state : r'.state = r.state
  holder : r'.holder = r.holder
  quarantines : r'.quarantines = r.quarantines
  /-- A dry run dispatches nothing. -/
  dry : r.dryRun = true → r.dispatches = [] → r'.dispatches = []

theorem Frame.refl (r : Runtime) : Frame r r := ⟨rfl, rfl, rfl, rfl, rfl, rfl, fun _ => id⟩

theorem setStage_frame (r : Runtime) (i : ℕ) (stage : Stage) : Frame r (r.setStage i stage) := by
  refine ⟨rfl, rfl, rfl, rfl, rfl, rfl, fun _ h => ?_⟩
  unfold setStage
  dsimp only
  rw [h, List.modify_nil]

/-- The dispatch that waits for the call is there. -/
def Awaits (r : Runtime) (task : Task) : Prop :=
  ∀ i stage, task.waiter = some (i, stage) →
    ∃ d, r.dispatches[i]? = some d ∧ d.stage = stage

theorem raised_spec (e : PyError) {task : Task} (h : Awaits r task) :
    Frame r (r.raised e task) ∧ Traces r (r.raised e task) := by
  cases task with
  | startNext => exact ⟨Frame.refl r, Traces.of_eq rfl⟩
  | mutation => exact ⟨Frame.refl r, Traces.of_eq rfl⟩
  | observation => exact ⟨Frame.refl r, Traces.of_eq rfl⟩
  | claim i => exact ⟨setStage_frame .., Traces.setStage_inactive rfl⟩
  | quarantine i => exact ⟨setStage_frame .., Traces.setStage_inactive rfl⟩
  | acceptance i =>
    refine ⟨setStage_frame .., Traces.setStage fun d h_d _ => ?_⟩
    obtain ⟨d', h_d', h_stage⟩ := h i .accepting rfl
    obtain rfl : d = d' := Option.some.inj (h_d.symm.trans h_d')
    rw [h_stage, Stage.interrupted_launching]
    exact ⟨rfl, nofun, fun h_cleaning => absurd h_cleaning (Stage.interrupted_ne_cleaning e)⟩

theorem Traces.append (h : d.stage.active = false) :
    Traces r { r with dispatches := r.dispatches ++ [d] } := by
  intro j d' h_d' h_active
  rcases Nat.lt_or_ge j r.dispatches.length with h_lt | h_ge
  · have h_old : r.dispatches[j]? = some d' := (List.getElem?_append_left h_lt).symm.trans h_d'
    exact ⟨d', h_old, h_active, rfl, rfl, id, Or.inl⟩
  · have h_new : d' ∈ [d] :=
      List.mem_of_getElem? ((List.getElem?_append_right h_ge).symm.trans h_d')
    obtain rfl := List.mem_singleton.mp h_new
    exact absurd (h_active.symm.trans h) Bool.noConfusion

theorem returned_startNext_spec (r : Runtime) (changed : Bool) (generation : ℕ)
    (outcome : Option SealOutcome) :
    Frame r (r.returned changed (.startNext generation outcome)) ∧
      Traces r (r.returned changed (.startNext generation outcome)) := by
  have h_refl : Frame r r ∧ Traces r r := ⟨Frame.refl r, Traces.of_eq rfl⟩
  match outcome with
  | none => exact h_refl
  | some .dryRunBlockCancelled => exact h_refl
  | some (.result result) =>
    unfold returned
    dsimp only
    split
    · split
      · exact h_refl
      · next h_live =>
        exact ⟨⟨rfl, rfl, rfl, rfl, rfl, rfl, fun h_dry => absurd h_dry h_live⟩, Traces.append rfl⟩
    · exact h_refl

/-- A dispatch becomes active when its own claim is assigned. -/
def Gained (r : Runtime) (task : Task) (i : ℕ) (d' : Dispatch) : Prop :=
  (∃ modeOption, task = .claim i modeOption) ∧
    ∃ d, r.dispatches[i]? = some d ∧ d.blockId = d'.blockId ∧ d.generation = d'.generation

theorem returned_spec (r : Runtime) (changed : Bool) (task : Task) :
    Frame r (r.returned changed task) ∧
      ∀ i d', (r.returned changed task).dispatches[i]? = some d' → d'.stage.active = true →
        Traced r i d' ∨ changed = true ∧ Gained r task i d' := by
  have h_traces {r' : Runtime} (h : Traces r r') (i : ℕ) (d' : Dispatch)
      (h_d' : r'.dispatches[i]? = some d') (h_active : d'.stage.active = true) :
      Traced r i d' ∨ changed = true ∧ Gained r task i d' := Or.inl (h i d' h_d' h_active)
  cases task with
  | startNext generation outcome =>
    obtain ⟨h_frame, h⟩ := returned_startNext_spec r changed generation outcome
    exact ⟨h_frame, h_traces h⟩
  | mutation => exact ⟨Frame.refl r, h_traces (Traces.of_eq rfl)⟩
  | observation => exact ⟨Frame.refl r, h_traces (Traces.of_eq rfl)⟩
  | acceptance i => exact ⟨setStage_frame .., h_traces (Traces.setStage_inactive rfl)⟩
  | quarantine i => exact ⟨setStage_frame .., h_traces (Traces.setStage_inactive rfl)⟩
  | claim i modeOption =>
    refine ⟨setStage_frame .., fun j d' h_d' h_active => ?_⟩
    -- only an assigned claim makes a dispatch active that was not
    rcases setStage_cases h_d' with ⟨h_d, -⟩ | ⟨rfl, d, h_d, rfl⟩
    · exact Or.inl ⟨d', h_d, h_active, rfl, rfl, id, Or.inl⟩
    · cases changed with
      | false => exact nomatch h_active
      | true => exact Or.inr ⟨rfl, ⟨modeOption, rfl⟩, d, h_d, rfl, rfl⟩

/-! ### What the commands guarantee -/

/-- What is known of the result of a call that waits for its save. -/
structure Derived (r : Runtime) (held : Held) : Prop where
  awaits : Awaits r held.task
  advances : Advances r.state.ledger held.updated.ledger
  /-- Only reports, and the quarantine of the block, take a block out of flight. -/
  inFlight : ∀ id, InFlight r.state.ledger id → InFlight held.updated.ledger id ∨
    held.task = .observation ∨
      ∃ i d, held.task = .quarantine i ∧ r.dispatches[i]? = some d ∧ d.blockId = id
  /-- A claim takes its block over the commit boundary. -/
  claim : ∀ i modeOption d, held.task = .claim i modeOption → r.dispatches[i]? = some d →
    ¬ Launched r.state.ledger d.blockId ∧ Launched held.updated.ledger d.blockId ∧
      InFlight held.updated.ledger d.blockId

/-- The call can get past its first guard at all. -/
def Awake (r : Runtime) : Prop :=
  r.flags.commandActive = true ∨ r.flags.observationActive = true ∨ r.quarantines ≠ []

end Runtime

/-- A mutation advances the ledger and takes no block out of flight. -/
theorem Mutation.run_advances {mutation : Mutation} {s s' : PlannerState}
    (h : mutation.run s = .ok s') :
    Advances s.ledger s'.ledger ∧ KeepsInFlight s.ledger s'.ledger := by
  cases mutation with
  | skipAreaToday => exact (skipAreaToday_ok h).advances
  | postponeArea => exact (postponeArea_ok h).advances
  | cancelBlock => exact cancelPendingBlock_advances h
  | resolveUncertainRun => exact resolveUncertainRun_advances h
  | setNativeValue => exact (setNativeValue_ok h).advances

/-! ### What it takes to reach the save -/

variable {flags : RuntimeFlags} {state updated : PlannerState}

theorem prepared_command {call : PlannerCall}
    (h : (call.prepare flags state).1 = .ok (some updated)) :
    (call.command flags state).1 = .ok updated ∧ updated ≠ state :=
  Call.prepare_updated (Prod.ext h rfl : call.prepare flags state = (_, _))

theorem guardedCall_prepared {generation : ℕ} {command : PlannerState → Except PyError PlannerState}
    (h : ((guardedCall generation command).prepare flags state).1 = .ok (some updated)) :
    flags.commandActive = true ∧ command state = .ok updated ∧ updated ≠ state := by
  obtain ⟨h_command, h_changed⟩ := prepared_command h
  have h_check : flags.requireCommandGeneration generation = .ok () := Call.prepare_check h
  exact ⟨(RuntimeFlags.requireCommandGeneration_eq_ok.mp h_check).1, h_command, h_changed⟩

theorem quarantineCall_prepared {blockId : String} {reconciledAt : Instant} {generation : ℕ}
    (h : ((quarantineCall blockId reconciledAt generation).prepare flags state).1 =
      .ok (some updated)) :
    flags.commandActive = true ∧ recordUncertain state blockId reconciledAt = .ok updated := by
  have h_check : flags.requireRuntimeGeneration generation = .ok () := Call.prepare_check h
  exact ⟨(RuntimeFlags.requireRuntimeGeneration_eq_ok.mp h_check).1, (prepared_command h).1⟩

/-- A report of another observation generation changes nothing. -/
theorem observationCall_prepared {outcome : ObservationOutcome} {observedAt : Instant}
    {revisionIds : ℕ → String} {generation : Option ℕ}
    (h : ((observationCall outcome observedAt revisionIds generation).prepare flags state).1 =
      .ok (some updated)) :
    (generation ≠ none → flags.observationActive = true) ∧
      observe outcome observedAt revisionIds state = .ok updated := by
  obtain ⟨h_command, h_changed⟩ := prepared_command h
  dsimp only [observationCall] at h_command
  split at h_command
  · exact absurd (Except.ok.inj h_command).symm h_changed
  · next h_current =>
    refine ⟨fun h_some => ?_, h_command⟩
    obtain ⟨g, h_g⟩ := Option.ne_none_iff_exists'.mp h_some
    by_contra h_inactive
    exact h_current ⟨g, h_g, Or.inl (Bool.eq_false_of_not_eq_true h_inactive)⟩

namespace Runtime

variable {r w : Runtime} {act : Act} {task : Task} {call : PlannerCall}

/-- What is known of a call that an act makes, and of the runtime that waits for it. -/
structure Requested (r w : Runtime) (task : Task) (call : PlannerCall) : Prop where
  number : w.number = r.number
  dryRun : w.dryRun = r.dryRun
  flags : w.flags = r.flags
  state : w.state = r.state
  holder : w.holder = r.holder
  quarantines : r.quarantines = [] → w.quarantines = []
  dry : r.dryRun = true → r.dispatches = [] → w.dispatches = []
  traces : Traces r w
  awaits : Awaits w task
  prepared : ∀ updated, (call.prepare r.flags r.state).1 = .ok (some updated) →
    Awake r ∧ Derived w ⟨task, call, updated, false⟩

/-- A call that takes no block out of flight, and is not a claim. -/
theorem Derived.of_keeps (h_awaits : Awaits r task)
    (h : Advances r.state.ledger updated.ledger ∧ KeepsInFlight r.state.ledger updated.ledger)
    (h_claim : ∀ i modeOption, task ≠ .claim i modeOption) :
    Derived r ⟨task, call, updated, false⟩ :=
  ⟨h_awaits, h.1, fun id h_id => Or.inl (h.2 id h_id), fun i modeOption _ h_task =>
    absurd h_task (h_claim i modeOption)⟩

/-- A call no dispatch waits for. -/
theorem Requested.of_self (h_waiter : task.waiter = none)
    (prepared : ∀ updated, (call.prepare r.flags r.state).1 = .ok (some updated) →
      Awake r ∧ (Awaits r task → Derived r ⟨task, call, updated, false⟩)) :
    Requested r r task call := by
  have h_awaits : Awaits r task := fun i stage h => by rw [h_waiter] at h; exact nomatch h
  exact ⟨rfl, rfl, rfl, rfl, rfl, id, fun _ => id, Traces.of_eq rfl, h_awaits,
    fun updated h => ⟨(prepared updated h).1, (prepared updated h).2 h_awaits⟩⟩

/-- A call a dispatch waits for. -/
theorem Requested.of_setStage {i : ℕ} {d : Dispatch} {stage : Stage}
    (h_d : r.dispatches[i]? = some d) (h_waiter : task.waiter = some (i, stage))
    (h_active : stage.active = true → d.stage.active = true)
    (prepared : ∀ updated, (call.prepare r.flags r.state).1 = .ok (some updated) →
      Awake r ∧ (Awaits (r.setStage i stage) task →
        Derived (r.setStage i stage) ⟨task, call, updated, false⟩)) :
    Requested r (r.setStage i stage) task call := by
  have h_awaits : Awaits (r.setStage i stage) task := by
    intro j stage' h
    obtain ⟨rfl, rfl⟩ := Prod.mk.inj (Option.some.inj (h_waiter.symm.trans h))
    exact ⟨_, setStage_self h_d, rfl⟩
  have h_frame := setStage_frame r i stage
  refine ⟨rfl, rfl, rfl, rfl, rfl, id, h_frame.dry, Traces.setStage fun d' h_d' h => ?_, h_awaits,
    fun updated h => ⟨(prepared updated h).1, (prepared updated h).2 h_awaits⟩⟩
  obtain rfl : d = d' := Option.some.inj (h_d.symm.trans h_d')
  -- a dispatch that waits for the lock has no call to begin, and none under way
  have h_waiting := Task.waiter_waiting h_waiter
  refine ⟨h_active h, fun h_launch => ?_, fun h_cleaning => ?_⟩
  · exact absurd h_launch (Stage.not_launching_of_waiting h_waiting)
  · rw [h_cleaning] at h_waiting
    exact nomatch h_waiting

/-- **Every call** an act makes advances the ledger, and says what it was made for. -/
theorem request_spec (h : act.request r = some (w, task, call)) : Requested r w task call := by
  -- a guarded call is derived from the state at the moment it takes the lock
  cases requests_of_request h with
  | startNext h_outcome =>
    refine Requested.of_self rfl fun updated h => ?_
    obtain ⟨h_active, h_command, -⟩ := guardedCall_prepared h
    obtain ⟨⟨s', outcome⟩, h_start, rfl⟩ := map_eq_ok.mp h_command
    exact ⟨Or.inl h_active, fun h_awaits => Derived.of_keeps h_awaits
      (startNextCommand_advances h_start) nofun⟩
  | mutate =>
    refine Requested.of_self rfl fun updated h => ?_
    obtain ⟨h_active, h_command, -⟩ := guardedCall_prepared h
    exact ⟨Or.inl h_active, fun h_awaits => Derived.of_keeps h_awaits
      (Mutation.run_advances h_command) nofun⟩
  | observe =>
    refine Requested.of_self rfl fun updated h => ?_
    obtain ⟨h_active, h_command⟩ := observationCall_prepared h
    exact ⟨Or.inr (Or.inl (h_active nofun)), fun h_awaits =>
      ⟨h_awaits, observe_advances h_command, fun _ _ => Or.inr (Or.inl rfl), nofun⟩⟩
  | quarantineAll h_n =>
    -- No generation guards this one: that it was listed is all that is known of the runtime.
    have h_some : r.quarantines ≠ [] := by
      intro h_nil
      rw [h_nil] at h_n
      cases h_n
    refine ⟨rfl, rfl, rfl, rfl, rfl, fun h_nil => absurd h_nil h_some, fun _ => id,
      Traces.of_eq rfl, nofun, fun updated h => ?_⟩
    obtain ⟨-, h_command⟩ := observationCall_prepared h
    exact ⟨Or.inr (Or.inr h_some), nofun, observe_advances h_command,
      fun _ _ => Or.inr (Or.inl rfl), nofun⟩
  | claim h_d =>
    refine Requested.of_setStage h_d rfl nofun fun updated h => ?_
    obtain ⟨h_active, h_command, h_changed⟩ := guardedCall_prepared h
    obtain ⟨⟨s', claimed⟩, h_claim, rfl⟩ := map_eq_ok.mp h_command
    obtain ⟨h_sealed, h_launched, h_flight, h_advances, h_keeps⟩ :=
      nativeDispatchClaim_launches h_claim h_changed
    refine ⟨Or.inl h_active, fun h_awaits => ⟨h_awaits, h_advances, fun id h_id =>
      Or.inl (h_keeps id h_id), fun j modeOption' d h_task h_d' => ?_⟩⟩
    cases h_task
    rw [setStage_self h_d] at h_d'
    cases h_d'
    exact ⟨h_sealed, h_launched, h_flight⟩
  | accept h_d =>
    refine Requested.of_setStage h_d rfl (fun _ => rfl) fun updated h => ?_
    obtain ⟨h_active, h_command, -⟩ := guardedCall_prepared h
    exact ⟨Or.inl h_active, fun h_awaits => Derived.of_keeps h_awaits
      (recordDispatchAcceptance_advances h_command) nofun⟩
  | @quarantine i reconciledAt blockId jobs generation h_d =>
    refine Requested.of_setStage h_d rfl (fun _ => rfl) fun updated h => ?_
    obtain ⟨h_active, h_command⟩ := quarantineCall_prepared h
    obtain ⟨h_advances, h_others⟩ := recordUncertain_advances h_command
    refine ⟨Or.inl h_active, fun h_awaits => ⟨h_awaits, h_advances, fun id h_id => ?_, nofun⟩⟩
    -- Only the block of the dispatch is taken out of flight, and the dispatch answers for it.
    by_cases h_own : id = blockId
    · exact Or.inr (Or.inr ⟨i, _, rfl, setStage_self h_d, h_own.symm⟩)
    · exact Or.inl (h_others id h_id h_own)

/-! ### What an act does -/

/-- What every act keeps, and the flags it moves forward. -/
structure Forward (act : Act) (r r' : Runtime) : Prop where
  number : r'.number = r.number
  dryRun : r'.dryRun = r.dryRun
  later : RuntimeFlags.Later r.flags r'.flags
  commands : r'.flags.commandActive = r.flags.commandActive
  observations : r.flags.observationActive = false → r'.flags.observationActive = false
  quarantines : (∀ observedAt, act ≠ .failClosed observedAt) →
    r.quarantines = [] → r'.quarantines = []
  dry : r.dryRun = true → r.dispatches = [] → r'.dispatches = []

/-- **Everything an act can do** to the state, the lock and the dispatches. -/
inductive RuntimeStep (act : Act) (r r' : Runtime) : Option Effect → Prop
  | quiet (state : r'.state = r.state) (holder : r'.holder = r.holder) (traces : Traces r r')
      (undisturbed : r.holder ≠ none → Undisturbed r r') : RuntimeStep act r r' none
  | begins (i : ℕ) (d : Dispatch) (service : Service) (state : r'.state = r.state)
      (holder : r'.holder = r.holder) (traces : Traces r r') (undisturbed : Undisturbed r r')
      (h_d : r.dispatches[i]? = some d) (launching : d.stage.launching = true)
      (passes : r.flags.requireCommandGeneration d.generation = .ok ())
      (last : service = .cleanArea →
        ∀ d', r'.dispatches[i]? = some d' → d'.stage.launching = false) :
    RuntimeStep act r r' (some (.begins service d))
  | waits (held : Held) (free : r.holder = none) (state : r'.state = r.state)
      (holder : r'.holder = some held) (unsaved : held.saved = false) (traces : Traces r r')
      (awake : Awake r) (derived : Derived r' held) : RuntimeStep act r r' none
  | saved (held : Held) (h_holder : r.holder = some held) (unsaved : held.saved = false)
      (state : r'.state = r.state) (holder : r'.holder = some { held with saved := true })
      (dispatches : r'.dispatches = r.dispatches) :
    RuntimeStep act r r' (some (.write held.updated))
  | released (held : Held) (h_holder : r.holder = some held) (state : r'.state = r.state)
      (holder : r'.holder = none) (traces : Traces r r')
      (late : held.saved = true →
        act = .cancelHolder ∨ act = .resumed ∧ held.call.check r.flags ≠ .ok ()) :
    RuntimeStep act r r' none
  | assigned (held : Held) (h_holder : r.holder = some held) (h_saved : held.saved = true)
      (h_act : act = .resumed) (state : r'.state = held.updated) (holder : r'.holder = none)
      (traces : ∀ i d', r'.dispatches[i]? = some d' → d'.stage.active = true →
        Traced r i d' ∨ Gained r held.task i d') : RuntimeStep act r r' none

variable {r' : Runtime} {effect : Option Effect}

/-- An act that leaves the flags alone. -/
theorem Forward.of_flags (number : r'.number = r.number) (dryRun : r'.dryRun = r.dryRun)
    (flags : r'.flags = r.flags) (quarantines : r.quarantines = [] → r'.quarantines = [])
    (dry : r.dryRun = true → r.dispatches = [] → r'.dispatches = []) : Forward act r r' where
  number := number
  dryRun := dryRun
  later := by rw [flags]; exact RuntimeFlags.Later.refl _
  commands := by rw [flags]
  observations := by rw [flags]; exact id
  quarantines _ := quarantines
  dry := dry

theorem Forward.of_frame (h : Frame r r') : Forward act r r' :=
  .of_flags h.number h.dryRun h.flags (fun h_nil => h.quarantines.trans h_nil) h.dry

/-- A call that acquires the lock returns, raises or awaits its save. -/
theorem enter_step (h_free : r.holder = none) (h : Requested r w task call) :
    Forward act r (w.enter task call) ∧ RuntimeStep act r (w.enter task call) none := by
  -- a call that ends at once has moved no state: the step is quiet
  have h_then {v : Runtime} (h_frame : Frame w v) (h_traces : Traces w v) :
      Forward act r v ∧ RuntimeStep act r v none := by
    refine ⟨.of_flags (h_frame.number.trans h.number) (h_frame.dryRun.trans h.dryRun)
      (h_frame.flags.trans h.flags) (fun h_nil => h_frame.quarantines.trans (h.quarantines h_nil))
      fun h_dry h_nil => h_frame.dry (h.dryRun.trans h_dry) (h.dry h_dry h_nil), ?_⟩
    exact .quiet (h_frame.state.trans h.state) (h_frame.holder.trans h.holder)
      (h.traces.trans h_traces h.flags) fun h_held => absurd h_free h_held
  -- the stage the call waits in has no part in what it prepares
  have h_prepare : (call.prepare w.flags w.state).1 = (call.prepare r.flags r.state).1 := by
    rw [h.flags, h.state]
  unfold enter
  rw [h_prepare]
  split
  · next e _ =>
    obtain ⟨h_frame, h_traces⟩ := raised_spec e h.awaits
    exact h_then h_frame h_traces
  · obtain ⟨h_frame, h_traces⟩ := returned_spec w false task
    refine h_then h_frame fun i d' h_d' h_active => ?_
    exact (h_traces i d' h_d' h_active).resolve_right fun h_changed => nomatch h_changed.1
  · next updated h_prepared =>
    obtain ⟨h_awake, h_derived⟩ := h.prepared updated h_prepared
    refine ⟨.of_flags h.number h.dryRun h.flags h.quarantines h.dry,
      .waits _ h_free h.state rfl rfl h.traces h_awake ?_⟩
    exact ⟨h_derived.awaits, h_derived.advances, h_derived.inFlight, h_derived.claim⟩

/-- A call that raises while it holds the lock. -/
theorem raise_step {held : Held} (h_holder : r.holder = some held) (e : PyError)
    (h_awaits : Awaits r held.task)
    (late : held.saved = true →
      act = .cancelHolder ∨ act = .resumed ∧ held.call.check r.flags ≠ .ok ()) :
    Forward act r ({ r with holder := none }.raised e held.task) ∧
      RuntimeStep act r ({ r with holder := none }.raised e held.task) none := by
  have h_awaits' : Awaits { r with holder := none } held.task := h_awaits
  obtain ⟨h_frame, h_traces⟩ := raised_spec e h_awaits'
  exact ⟨.of_flags h_frame.number h_frame.dryRun h_frame.flags
    (fun h_nil => h_frame.quarantines.trans h_nil) h_frame.dry,
    .released held h_holder h_frame.state h_frame.holder h_traces late⟩

/-- A call whose save has returned is assigned, or its guard raises. -/
theorem resume_step {held : Held} (h_holder : r.holder = some held) (h_saved : held.saved = true)
    (h_awaits : Awaits r held.task) :
    Forward .resumed r (r.resume held) ∧ RuntimeStep .resumed r (r.resume held) none := by
  unfold resume
  split
  · next e h_check =>
    exact raise_step h_holder e h_awaits fun _ => Or.inr ⟨rfl, by rw [h_check]; exact nofun⟩
  · obtain ⟨h_frame, h_traces⟩ :=
      returned_spec { r with holder := none, state := held.updated } true held.task
    refine ⟨.of_flags h_frame.number h_frame.dryRun h_frame.flags
      (fun h_nil => h_frame.quarantines.trans h_nil) h_frame.dry,
      .assigned held h_holder h_saved rfl h_frame.state h_frame.holder fun i d' h_d' h_active => ?_⟩
    exact (h_traces i d' h_d' h_active).imp_right And.right

/-- A dispatch moves on by itself. -/
theorem move_step {i : ℕ} {d : Dispatch} {stage : Stage} (h_d : r.dispatches[i]? = some d)
    (h_waiting : d.stage.waiting = false)
    (h : stage.active = true →
      d.stage.active = true ∧ (stage.launching = true → d.stage.launching = true) ∧
        stage ≠ .cleaning) :
    Forward act r (r.setStage i stage) ∧ RuntimeStep act r (r.setStage i stage) none := by
  refine ⟨.of_frame (setStage_frame r i stage), .quiet rfl rfl
    (Traces.setStage fun d' h_d' h_active => ?_) fun _ => Undisturbed.setStage h_d h_waiting⟩
  obtain rfl : d = d' := Option.some.inj (h_d.symm.trans h_d')
  obtain ⟨h_before, h_launch, h_clean⟩ := h h_active
  exact ⟨h_before, h_launch, fun h_cleaning => absurd h_cleaning h_clean⟩

/-- An external call begins only under the guard, and `clean_area` is the last one. -/
theorem callService_step {i : ℕ} {d : Dispatch} {service : Service} {next : Stage}
    (h_d : r.dispatches[i]? = some d) (h_next : d.stage.nextCall = some (service, next)) :
    Forward act r (r.callService i d service next).1 ∧
      RuntimeStep act r (r.callService i d service next).1 (r.callService i d service next).2 := by
  obtain ⟨h_launching, h_waiting, h_last⟩ := Stage.nextCall_spec h_next
  have h_active : d.stage.active = true := Stage.active_of_launching h_launching
  unfold callService
  split
  · next e _ =>
    exact move_step h_d h_waiting fun _ =>
      ⟨h_active, fun _ => h_launching, Stage.interrupted_ne_cleaning e⟩
  · next h_passes =>
    refine ⟨.of_frame (setStage_frame r i next), .begins i d service rfl rfl
      (Traces.setStage fun d' h_d' _ => ?_) (Undisturbed.setStage h_d h_waiting) h_d h_launching
      h_passes fun h_clean d' h_d' => ?_⟩
    · obtain rfl : d = d' := Option.some.inj (h_d.symm.trans h_d')
      exact ⟨h_active, fun _ => h_launching, fun _ => ⟨h_launching, h_passes⟩⟩
    · rw [setStage_self h_d] at h_d'
      cases h_d'
      exact h_last h_clean

theorem failClosed_step (observedAt : Instant) :
    Forward (.failClosed observedAt) r (r.failClosed observedAt) ∧
      RuntimeStep (.failClosed observedAt) r (r.failClosed observedAt) none := by
  unfold failClosed
  split
  · exact ⟨.of_frame (Frame.refl r), .quiet rfl rfl (Traces.of_eq rfl) fun _ => .of_eq rfl⟩
  · exact ⟨⟨rfl, rfl, RuntimeFlags.latchTopology_later _, rfl, fun _ => rfl,
      fun h => absurd rfl (h observedAt), fun _ => id⟩,
      .quiet rfl rfl (Traces.of_eq rfl) fun _ => .of_eq rfl⟩

/-- **Every act** moves forward and is one of the cases of `RuntimeStep`. -/
theorem step_cases (h_awaits : ∀ held, r.holder = some held → Awaits r held.task)
    (h : r.step act = .ok (r', effect)) : Forward act r r' ∧ RuntimeStep act r r' effect := by
  -- A stage that waits for no call is told by the stage alone.
  have h_unwaited {stage stage' : Stage} (h_stage : stage = stage')
      (h_waiting : stage'.waiting = false) : stage.waiting = false := by
    rw [h_stage]
    exact h_waiting
  cases acted_of_step h with
  | latched =>
    exact ⟨⟨rfl, rfl, RuntimeFlags.latchTopology_later _, rfl, fun _ => rfl, fun _ => id,
      fun _ => id⟩, .quiet rfl rfl (Traces.of_eq rfl) fun _ => Undisturbed.of_eq rfl⟩
  | failedClosed => exact failClosed_step _
  | entered h_free h_request => exact enter_step h_free (request_spec h_request)
  | preflighted h_d h_stage => exact move_step h_d (h_unwaited h_stage rfl) nofun
  | rejected h_d h_stage => exact move_step h_d (h_unwaited h_stage rfl) nofun
  | called h_d h_next => exact callService_step h_d h_next
  | serviceReturned h_d h_after =>
    obtain ⟨h_active, h_waiting, h_launching, h_clean⟩ := Stage.afterCall_spec h_after
    exact move_step h_d h_waiting fun _ => ⟨h_active, h_launching, h_clean⟩
  | serviceRaised h_d h_after =>
    obtain ⟨h_active, h_waiting, -⟩ := Stage.afterCall_spec h_after
    exact move_step h_d h_waiting fun _ => ⟨h_active, nofun, nofun⟩
  | saved h_holder h_unsaved =>
    -- the save moves nothing, its return assigns or releases
    exact ⟨.of_flags rfl rfl rfl id fun _ => id, .saved _ h_holder h_unsaved rfl rfl rfl⟩
  | saveRaised h_holder h_unsaved =>
    exact raise_step h_holder _ (h_awaits _ h_holder) fun h_saved =>
      absurd (h_unsaved.symm.trans h_saved) Bool.false_ne_true
  | resumed h_holder h_saved => exact resume_step h_holder h_saved (h_awaits _ h_holder)
  | cancelledReady h_d h_stage => exact move_step h_d (h_unwaited h_stage rfl) nofun
  | cancelledCleaned h_d h_stage =>
    refine move_step h_d (h_unwaited h_stage rfl) fun _ => ⟨?_, nofun, nofun⟩
    rw [h_stage]
    rfl
  | cancelledHolder h_holder h_task =>
    exact raise_step h_holder _ (h_awaits _ h_holder) fun _ => Or.inl rfl

/-! ### What all acts keep -/

/-- The invariant of a runtime: every active dispatch owns a launched block, no two own
the same, and a call that waits for its save has computed its result from the state. -/
structure Inv (r : Runtime) : Prop where
  derived : ∀ held, r.holder = some held → Derived r held
  launched : ∀ (i : ℕ) (d : Dispatch), r.dispatches[i]? = some d → d.stage.active = true →
    Launched r.state.ledger d.blockId
  distinct : ∀ (i j : ℕ) (d e : Dispatch), r.dispatches[i]? = some d →
    r.dispatches[j]? = some e → d.stage.active = true → e.stage.active = true →
      d.blockId = e.blockId → i = j
  dry : r.dryRun = true → r.dispatches = []

theorem Inv.fresh (number : ℕ) (dryRun topologyReady : Bool) (state : PlannerState) :
    Inv (fresh number dryRun topologyReady state) :=
  ⟨fun _ h => (nomatch h), fun _ _ h => (nomatch h), fun _ _ _ _ h => (nomatch h), fun _ => rfl⟩

/-- The call keeps waiting, and so does its dispatch. -/
theorem Derived.undisturbed {held held' : Held} (h : Derived r held) (state : r'.state = r.state)
    (h_task : held'.task = held.task) (h_updated : held'.updated = held.updated)
    (undisturbed : Undisturbed r r') : Derived r' held' := by
  -- the dispatch the call waits for has not moved
  have h_waiter (i : ℕ) (stage : Stage) (h_i : held.task.waiter = some (i, stage)) :
      ∃ d, r.dispatches[i]? = some d ∧ r'.dispatches[i]? = some d ∧ d.stage = stage := by
    obtain ⟨d, h_d, rfl⟩ := h.awaits i stage h_i
    exact ⟨d, h_d, undisturbed i d h_d (Task.waiter_waiting h_i), rfl⟩
  refine ⟨fun i stage h_i => ?_, ?_, fun id h_id => ?_, fun i modeOption d h_claim h_d => ?_⟩
  · rw [h_task] at h_i
    obtain ⟨d, -, h_d', h_stage⟩ := h_waiter i stage h_i
    exact ⟨d, h_d', h_stage⟩
  · rw [h_updated, state]
    exact h.advances
  · rw [state] at h_id
    rw [h_updated, h_task]
    refine (h.inFlight id h_id).imp_right (Or.imp_right ?_)
    -- a quarantine answers for the same dispatch as before
    rintro ⟨i, d, h_quarantine, h_d, h_own⟩
    obtain ⟨d', h_d', h_d'', -⟩ := h_waiter i .quarantining (by rw [h_quarantine]; rfl)
    obtain rfl : d = d' := Option.some.inj (h_d.symm.trans h_d')
    exact ⟨i, d, h_quarantine, h_d'', h_own⟩
  · rw [h_task] at h_claim
    rw [h_updated, state]
    obtain ⟨d', h_d', h_d'', -⟩ := h_waiter i .claiming (by rw [h_claim]; rfl)
    obtain rfl : d = d' := Option.some.inj (h_d.symm.trans h_d'')
    exact h.claim i modeOption d h_claim h_d'

/-- A step after which every active dispatch was active before. -/
theorem Inv.of_traces (h : Inv r) (forward : Forward act r r')
    (state : r'.state = r.state) (traces : Traces r r')
    (derived : ∀ held, r'.holder = some held → Derived r' held) : Inv r' := by
  refine ⟨derived, fun i d' h_d' h_active => ?_,
    fun i j d' e' h_d' h_e' h_active h_active' h_same => ?_, fun h_dry => ?_⟩
  · obtain ⟨d, h_d, h_before, h_id, -⟩ := traces i d' h_d' h_active
    rw [state, ← h_id]
    exact h.launched i d h_d h_before
  · obtain ⟨d, h_d, h_before, h_id, -⟩ := traces i d' h_d' h_active
    obtain ⟨e, h_e, h_before', h_id', -⟩ := traces j e' h_e' h_active'
    exact h.distinct i j d e h_d h_e h_before h_before' (h_id.trans (h_same.trans h_id'.symm))
  · rw [forward.dryRun] at h_dry
    exact forward.dry h_dry (h.dry h_dry)

/-- The assignment of a claim makes its dispatch the owner of a block nobody owns. -/
theorem Inv.of_assigned {held : Held} (h : Inv r) (forward : Forward act r r')
    (h_holder : r.holder = some held) (state : r'.state = held.updated) (holder : r'.holder = none)
    (traces : ∀ i d', r'.dispatches[i]? = some d' → d'.stage.active = true →
      Traced r i d' ∨ Gained r held.task i d') : Inv r' := by
  have h_derived : Derived r held := h.derived held h_holder
  -- no dispatch that was active before owns the block that is claimed now
  have h_clash {i j : ℕ} {d' e' : Dispatch} (h_gained : Gained r held.task i d')
      (h_traced : Traced r j e') (h_same : d'.blockId = e'.blockId) : False := by
    obtain ⟨⟨modeOption, h_task⟩, d, h_d, h_id, -⟩ := h_gained
    obtain ⟨e, h_e, h_before, h_id', -⟩ := h_traced
    refine (h_derived.claim i modeOption d h_task h_d).1 ?_
    rw [h_id, h_same, ← h_id']
    exact h.launched j e h_e h_before
  refine ⟨fun held' h_held' => ?_, fun i d' h_d' h_active => ?_,
    fun i j d' e' h_d' h_e' h_active h_active' h_same => ?_, fun h_dry => ?_⟩
  · rw [holder] at h_held'
    exact nomatch h_held'
  · rw [state]
    rcases traces i d' h_d' h_active with ⟨d, h_d, h_before, h_id, -⟩ | h_gained
    · rw [← h_id]
      exact h_derived.advances.launched _ (h.launched i d h_d h_before)
    · obtain ⟨⟨modeOption, h_task⟩, d, h_d, h_id, -⟩ := h_gained
      rw [← h_id]
      exact (h_derived.claim i modeOption d h_task h_d).2.1
  · -- two active dispatches of one block: both old, or one old and one new, or both the claim
    rcases traces i d' h_d' h_active with h_i | h_i
    · rcases traces j e' h_e' h_active' with h_j | h_j
      · obtain ⟨d, h_d, h_before, h_id, -⟩ := h_i
        obtain ⟨e, h_e, h_before', h_id', -⟩ := h_j
        exact h.distinct i j d e h_d h_e h_before h_before' (h_id.trans (h_same.trans h_id'.symm))
      · exact (h_clash h_j h_i h_same.symm).elim
    · rcases traces j e' h_e' h_active' with h_j | h_j
      · exact (h_clash h_i h_j h_same).elim
      · obtain ⟨⟨_, h_task⟩, -⟩ := h_i
        obtain ⟨⟨_, h_task'⟩, -⟩ := h_j
        rw [h_task] at h_task'
        exact (Task.claim.inj h_task').1
  · rw [forward.dryRun] at h_dry
    exact forward.dry h_dry (h.dry h_dry)

theorem Inv.step (h : Inv r) (forward : Forward act r r')
    (h_step : RuntimeStep act r r' effect) : Inv r' := by
  cases h_step with
  | quiet state holder traces undisturbed =>
    refine h.of_traces forward state traces fun held h_held => ?_
    rw [holder] at h_held
    refine (h.derived held h_held).undisturbed state rfl rfl (undisturbed ?_)
    rw [h_held]
    exact nofun
  | begins i d service state holder traces undisturbed h_d launching passes last =>
    refine h.of_traces forward state traces fun held h_held => ?_
    rw [holder] at h_held
    exact (h.derived held h_held).undisturbed state rfl rfl undisturbed
  | waits held free state holder unsaved traces awake derived =>
    -- a call that takes the lock has just been derived
    refine h.of_traces forward state traces fun held' h_held' => ?_
    obtain rfl : held = held' := Option.some.inj (holder.symm.trans h_held')
    exact derived
  | saved held h_holder unsaved state holder dispatches =>
    refine h.of_traces forward state (Traces.of_eq dispatches) fun held' h_held' => ?_
    obtain rfl : { held with saved := true } = held' := Option.some.inj (holder.symm.trans h_held')
    exact (h.derived held h_holder).undisturbed state rfl rfl (Undisturbed.of_eq dispatches)
  | released held h_holder state holder traces late =>
    refine h.of_traces forward state traces fun held' h_held' => ?_
    rw [holder] at h_held'
    exact nomatch h_held'
  | assigned held h_holder h_saved h_act state holder traces =>
    -- the only step that makes an owner
    exact h.of_assigned forward h_holder state holder traces

theorem Inv.step_cases (h : Inv r) (h_step : r.step act = .ok (r', effect)) :
    Forward act r r' ∧ RuntimeStep act r r' effect ∧ Inv r' := by
  obtain ⟨forward, step⟩ :=
    Runtime.step_cases (fun held h_held => (h.derived held h_held).awaits) h_step
  exact ⟨forward, step, h.step forward step⟩

/-- What every command keeps of a ledger, an act keeps of the state and of what it
writes. -/
theorem Inv.keeps (h : Inv r) {P : QueueLedger → Prop}
    (step : ∀ {L L' : QueueLedger}, Advances L L' → P L → P L') (hP : P r.state.ledger)
    (h_step : RuntimeStep act r r' effect) :
    P r'.state.ledger ∧ ∀ state, effect = some (.write state) → P state.ledger := by
  cases h_step with
  | quiet state | begins i d service state | waits held free state
  | released held h_holder state =>
    rw [state]
    exact ⟨hP, nofun⟩
  | saved held h_holder unsaved state holder dispatches =>
    rw [state]
    refine ⟨hP, ?_⟩
    rintro _ ⟨⟩
    exact step (h.derived held h_holder).advances hP
  | assigned held h_holder h_saved h_act state holder traces =>
    rw [state]
    exact ⟨step (h.derived held h_holder).advances hP, nofun⟩

end Runtime

end VacuumPlanner
