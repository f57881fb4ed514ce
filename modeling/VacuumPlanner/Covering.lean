import VacuumPlanner.Committing
import VacuumPlanner.Stages

/-!
# Who answers for a block that is committing

In a runtime that accepts commands, a block that is committing is the block of a dispatch that
holds its claim and was captured under the current generation (`Covered`). Such a dispatch does
not end while its block is committing (`Retains`): what it raises leads to the quarantine, since
its guards pass or find the topology latched, and the quarantine does not raise. What this takes
is that no save fails, which would end a quarantine, and that the generation stays what it is.

`Promise` is what the call that waits for its save is going to do to the blocks that are
committing, so that the step that assigns it needs nothing else.
-/

namespace VacuumPlanner

open Framework

namespace RuntimeFlags

variable {flags : RuntimeFlags} {generation : ℕ} {e : PyError}

/-- The current generation is refused for a latched topology only. -/
theorem refused_current (h_active : flags.commandActive = true)
    (h_current : flags.commandGeneration = generation)
    (h : flags.requireCommandGeneration generation = .error e) : e = topologyNotReady := by
  unfold requireCommandGeneration at h
  rw [requireRuntimeGeneration_eq_ok.mpr ⟨h_active, h_current⟩, ok_bind] at h
  unfold raiseIf at h
  split at h
  · exact (Except.error.inj h).symm
  · exact nomatch h

theorem not_refused_runtime (h_active : flags.commandActive = true)
    (h_current : flags.commandGeneration = generation) :
    flags.requireRuntimeGeneration generation ≠ .error e := by
  rw [requireRuntimeGeneration_eq_ok.mpr ⟨h_active, h_current⟩]
  exact nofun

end RuntimeFlags

theorem Stage.active_of_nextCall {stage next : Stage} {service : Service}
    (h : stage.nextCall = some (service, next)) : next.active = true := by
  unfold Stage.nextCall at h
  split at h
  · cases h; rfl
  · cases h; rfl
  · cases h; rfl
  · exact nomatch h

theorem Stage.active_of_afterCall {stage next : Stage} (h : stage.afterCall = some next) :
    next.active = true := by
  unfold Stage.afterCall at h
  split at h
  · cases h; rfl
  · cases h; rfl
  · exact nomatch h

/-! ### What a call raises -/

section Calls

variable {flags : RuntimeFlags} {state updated : PlannerState} {e : PyError} {generation : ℕ}
  {command : PlannerState → Except PyError PlannerState}

/-- A call whose command leaves the flags alone raises what its guard raises, or its command. -/
theorem prepare_raises {call : PlannerCall} (h_flags : (call.command flags state).2 = flags)
    (h : (call.prepare flags state).1 = .error e) :
    call.check flags = .error e ∨ (call.command flags state).1 = .error e := by
  unfold Call.prepare at h
  split at h
  · next h_check =>
    obtain rfl := Except.error.inj h
    exact Or.inl h_check
  split at h
  · next h_command =>
    obtain rfl := Except.error.inj h
    exact Or.inr (congrArg Prod.fst h_command)
  next h_check _ _ flags' h_command =>
  rw [h_command] at h_flags
  obtain rfl : flags' = flags := h_flags
  split at h
  · exact nomatch h
  · rw [h_check] at h
    exact nomatch h

theorem prepare_returns {call : PlannerCall}
    (h : (call.prepare flags state).1 = .ok none) : (call.command flags state).1 = .ok state :=
  Call.prepare_unchanged (Prod.ext h rfl : call.prepare flags state = (_, _))

end Calls

namespace Runtime

variable {r r' w : Runtime} {act : Act} {effect : Option Effect} {task : Task}
  {call : PlannerCall} {held : Held} {i : ℕ} {d : Dispatch} {stage : Stage}
  {P : ℕ → Dispatch → Stage → Prop} {id : String} {L : QueueLedger}

/-! ### What a pending call is going to do -/

/-- What the call that waits for its save makes of the blocks that are committing, and the
generation that its guard asks for. -/
inductive Promise (r : Runtime) (held : Held) : Prop
  | claims (i : ℕ) (modeOption : Option String) (d : Dispatch)
      (h_task : held.task = .claim i modeOption) (h_d : r.dispatches[i]? = some d)
      (begins : ∀ id, Committing held.updated.ledger id →
        Committing r.state.ledger id ∨ id = d.blockId)
      (guarded : ∀ flags : RuntimeFlags,
        held.call.check flags = flags.requireCommandGeneration d.generation)
  | accepts (i : ℕ) (d : Dispatch) (h_task : held.task = .acceptance i)
      (h_d : r.dispatches[i]? = some d)
      (begins : ∀ id, Committing held.updated.ledger id → Committing r.state.ledger id)
      (ends : ¬ Committing held.updated.ledger d.blockId)
      (guarded : ∀ flags : RuntimeFlags,
        held.call.check flags = flags.requireCommandGeneration d.generation)
  | quarantines (i : ℕ) (d : Dispatch) (h_task : held.task = .quarantine i)
      (h_d : r.dispatches[i]? = some d)
      (begins : ∀ id, Committing held.updated.ledger id → Committing r.state.ledger id)
      (ends : ¬ Committing held.updated.ledger d.blockId)
      (guarded : ∀ flags : RuntimeFlags,
        held.call.check flags = flags.requireRuntimeGeneration d.generation)
  | other (h_task : held.task.waiter = none)
      (begins : ∀ id, Committing held.updated.ledger id → Committing r.state.ledger id)

/-- A dispatch keeps its place, its block and its generation. -/
theorem Promise.evolves {held' : Held} (h : Promise r held) (h_task : held'.task = held.task)
    (h_call : held'.call = held.call) (h_updated : held'.updated = held.updated)
    (state : r'.state = r.state) (evolves : Evolves P r r') : Promise r' held' := by
  -- a dispatch keeps its block and jobs, only its stage may change
  cases h with
  | claims i modeOption d h_claim h_d begins guarded =>
    obtain ⟨stage, h_d', -⟩ := evolves.old i d h_d
    rw [← h_task] at h_claim
    rw [← h_updated, ← state] at begins
    rw [← h_call] at guarded
    exact .claims i modeOption _ h_claim h_d' begins guarded
  | accepts i d h_accept h_d begins ends guarded =>
    obtain ⟨stage, h_d', -⟩ := evolves.old i d h_d
    rw [← h_task] at h_accept
    rw [← h_updated, ← state] at begins
    rw [← h_updated] at ends
    rw [← h_call] at guarded
    exact .accepts i _ h_accept h_d' begins ends guarded
  | quarantines i d h_quarantine h_d begins ends guarded =>
    obtain ⟨stage, h_d', -⟩ := evolves.old i d h_d
    rw [← h_task] at h_quarantine
    rw [← h_updated, ← state] at begins
    rw [← h_updated] at ends
    rw [← h_call] at guarded
    exact .quarantines i _ h_quarantine h_d' begins ends guarded
  | other h_other begins =>
    rw [← h_task] at h_other
    rw [← h_updated, ← state] at begins
    exact .other h_other begins

/-- **A call that reaches its save** makes the promise its task asks for. -/
theorem request_promise (h : r.Named) (h_staffed : OpenBlocks Staffed r.state.ledger)
    (h_request : act.request r = some (w, task, call)) {updated : PlannerState}
    (h_prepared : (call.prepare r.flags r.state).1 = .ok (some updated)) :
    Promise { w with holder := some ⟨task, call, updated, false⟩ }
      ⟨task, call, updated, false⟩ := by
  have h_after : OpenBlocks Staffed updated.ledger :=
    (request_updates h h_request h_prepared).staffed h_staffed
  -- a call that starts no commit leaves the dispatches under way as they are
  have h_quiet (h_quiet : Quiet r.state.ledger updated.ledger) (id : String)
      (h_id : Committing updated.ledger id) : Committing r.state.ledger id :=
    h_quiet.committing h_staffed.inStep h_after h_id
  cases requests_of_request h_request with
  | startNext h_outcome =>
    obtain ⟨-, h_command, -⟩ := guardedCall_prepared h_prepared
    obtain ⟨⟨t, outcome⟩, h_start, rfl⟩ := map_eq_ok.mp h_command
    exact .other rfl (h_quiet (startNextCommand_quiet h_start))
  | mutate =>
    obtain ⟨-, h_command, -⟩ := guardedCall_prepared h_prepared
    exact .other rfl (h_quiet (Mutation.run_quiet h_command))
  | observe | quarantineAll =>
    obtain ⟨-, h_command⟩ := observationCall_prepared h_prepared
    exact .other rfl (h_quiet (observe_quiet h_command))
  | claim h_d =>
    -- the three calls of a dispatch name the block they begin or end
    obtain ⟨-, h_command, -⟩ := guardedCall_prepared h_prepared
    obtain ⟨⟨t, claimed⟩, h_claim, rfl⟩ := map_eq_ok.mp h_command
    exact .claims _ _ _ rfl (setStage_self h_d)
      (fun id h_id => nativeDispatchClaim_committing h_claim h_id) fun _ => rfl
  | accept h_d =>
    obtain ⟨-, h_command, -⟩ := guardedCall_prepared h_prepared
    obtain ⟨quiet, h_ends⟩ := recordDispatchAcceptance_ends h_command
    exact .accepts _ _ rfl (setStage_self h_d) (h_quiet quiet) h_ends fun _ => rfl
  | quarantine h_d =>
    obtain ⟨-, h_command⟩ := quarantineCall_prepared h_prepared
    obtain ⟨quiet, h_ends⟩ := recordUncertain_ends h_command
    exact .quarantines _ _ rfl (setStage_self h_d) (h_quiet quiet) h_ends fun _ => rfl

/-! ### A dispatch holds on to its claim -/

/-- A dispatch of the current generation that holds the claim of a block that is committing
still holds it at the stage. -/
def Retains (r : Runtime) (L : QueueLedger) (_ : ℕ) (d : Dispatch) (stage : Stage) : Prop :=
  d.stage.active = true → d.generation = r.flags.commandGeneration → Committing L d.blockId →
    stage.active = true

theorem Moves.retains (h : Moves act r i d stage) (h_active : r.flags.commandActive = true) :
    Retains r L i d stage := by
  intro h_d h_current _
  cases h with
  | preflighted _ _ h_stage | rejected _ _ h_stage | cancelledReady _ h_stage =>
    rw [h_stage] at h_d
    exact nomatch h_d
  | guarded e h_next h_guard =>
    obtain rfl := RuntimeFlags.refused_current h_active h_current.symm h_guard
    rfl
  | serviceReturned next h_act h_after => exact Stage.active_of_afterCall h_after
  | serviceRaised | cancelledCleaned => rfl

/-- A call that raises ends no dispatch that has a block to quarantine. -/
theorem raised_retains {e : PyError} (h_active : r.flags.commandActive = true)
    (promise : Promise r held) (awaits : Awaits r held.task) (h_save : ∀ e, act ≠ .saveRaised e)
    (h_fails : Fails act r held e) :
    Evolves (Retains r L) r ({ r with holder := none }.raised e held.task) := by
  refine .of_dispatches (w := { r with holder := none }) rfl ?_
  cases promise with
  | claims i modeOption d h_task h_d begins guarded =>
    rw [h_task]
    refine .setStage fun d' h_d' h_claimed => ?_
    -- it has yet to claim
    obtain ⟨d'', h_d'', h_stage⟩ := awaits i .claiming (by rw [h_task]; rfl)
    obtain rfl : d'' = d' := Option.some.inj (h_d''.symm.trans h_d')
    rw [h_stage] at h_claimed
    exact nomatch h_claimed
  | accepts i d h_task h_d begins ends guarded =>
    rw [h_task]
    refine .setStage fun d' h_d' _ h_current _ => ?_
    obtain rfl : d = d' := Option.some.inj (h_d.symm.trans h_d')
    -- its own runtime is current, so the guard is refused for the topology
    cases h_fails with
    | save h_act => exact absurd h_act (h_save e)
    | cancelled h_act h_cancellable h_e =>
      rw [h_e]
      rfl
    | guarded h_act h_saved h_check =>
      rw [guarded] at h_check
      obtain rfl := RuntimeFlags.refused_current h_active h_current.symm h_check
      rfl
  | quarantines i d h_task h_d begins ends guarded =>
    rw [h_task]
    refine .setStage fun d' h_d' _ h_current _ => ?_
    obtain rfl : d = d' := Option.some.inj (h_d.symm.trans h_d')
    cases h_fails with
    | save h_act => exact absurd h_act (h_save e)
    | cancelled h_act h_cancellable h_e =>
      rw [h_task] at h_cancellable
      exact nomatch h_cancellable
    | guarded h_act h_saved h_check =>
      rw [guarded] at h_check
      exact absurd h_check (RuntimeFlags.not_refused_runtime h_active h_current.symm)
  | other h_task begins =>
    revert h_task
    cases held.task with
    | startNext | mutation | observation => exact fun _ => .of_eq rfl
    | claim | acceptance | quarantine => exact nofun

/-- A call that is assigned ends a dispatch only with its block. -/
theorem assigned_retains (promise : Promise r held) :
    Evolves (Retains r held.updated.ledger) r
      ({ r with holder := none, state := held.updated }.returned true held.task) := by
  refine .of_dispatches (w := { r with holder := none, state := held.updated }) rfl ?_
  cases promise with
  | claims i modeOption d h_task h_d begins guarded =>
    rw [h_task]
    exact .setStage fun _ _ _ _ _ => rfl
  | accepts i d h_task h_d begins ends guarded | quarantines i d h_task h_d begins ends guarded =>
    rw [h_task]
    refine .setStage fun d' h_d' _ _ h_committing => ?_
    obtain rfl : d = d' := Option.some.inj (h_d.symm.trans h_d')
    exact absurd h_committing ends
  | other h_task begins =>
    revert h_task
    cases held.task with
    | startNext generation outcome =>
      exact fun _ => returned_startNext_evolves _ true generation outcome
    | mutation | observation => exact fun _ => .of_eq rfl
    | claim | acceptance | quarantine => exact nofun

/-- **A call that acquires the lock** ends no dispatch whose block is committing. -/
theorem enter_retains (h_active : r.flags.commandActive = true)
    (h_staffed : OpenBlocks Staffed r.state.ledger)
    (h_request : act.request r = some (w, task, call)) :
    Evolves (Retains r r.state.ledger) r (w.enter task call) := by
  cases requests_of_request h_request with
  | startNext | mutate | observe | quarantineAll => exact enter_unawaited_evolves rfl rfl
  | @claim i now blockId jobs generation modeOption h_d =>
    -- A dispatch that has yet to claim has nothing to hold on to.
    have h_unclaimed {stage : Stage} :
        ∀ d, r.dispatches[i]? = some d → Retains r r.state.ledger i d stage := by
      intro d h_d' h_claimed
      obtain rfl := Option.some.inj (h_d.symm.trans h_d')
      exact absurd h_claimed Bool.false_ne_true
    exact enter_awaited_evolves rfl (fun _ _ => h_unclaimed) (fun _ => h_unclaimed) h_unclaimed
  | accept h_d =>
    refine enter_awaited_evolves rfl (fun e h_raises d h_d' _ h_current _ => ?_)
      (fun h_returns d h_d' _ _ h_committing => ?_) fun _ _ _ _ _ => rfl
    · -- An acceptance that raises leads to the quarantine, which still holds the claim.
      obtain rfl := Option.some.inj (h_d.symm.trans h_d')
      rcases prepare_raises rfl h_raises with h_check | h_command
      · obtain rfl := RuntimeFlags.refused_current h_active h_current.symm h_check
        rfl
      · have h_ambiguous : Stage.interrupted e = .ambiguous :=
          recordDispatchAcceptance_interrupts r.state _ _ _ e h_command
        exact congrArg Stage.active h_ambiguous
    · -- One that changes nothing has found the block settled.
      obtain rfl := Option.some.inj (h_d.symm.trans h_d')
      exact absurd h_committing (recordDispatchAcceptance_ends (prepare_returns h_returns)).2
  | @quarantine i reconciledAt blockId jobs generation h_d =>
    refine enter_awaited_evolves rfl (fun e h_raises d h_d' _ h_current h_committing => ?_)
      (fun h_returns d h_d' _ _ h_committing => ?_) fun _ _ _ _ _ => rfl
    · -- A quarantine of the current generation does not raise while the block is committing.
      obtain rfl := Option.some.inj (h_d.symm.trans h_d')
      rcases prepare_raises rfl h_raises with h_check | h_command
      · exact absurd h_check (RuntimeFlags.not_refused_runtime h_active h_current.symm)
      · obtain ⟨s', h_s'⟩ := recordUncertain_isOk h_staffed h_committing reconciledAt
        cases h_s'.symm.trans h_command
    · obtain rfl := Option.some.inj (h_d.symm.trans h_d')
      exact absurd h_committing (recordUncertain_ends (prepare_returns h_returns)).2

/-! ### What an act keeps -/

/-- A runtime whose calls can be followed to the blocks they are about. -/
structure Accountable (r : Runtime) : Prop where
  named : r.Named
  staffed : OpenBlocks Staffed r.state.ledger
  promised : ∀ held, r.holder = some held → Promise r held

theorem Accountable.fresh (number : ℕ) (dryRun topologyReady : Bool) {state : PlannerState}
    (h : OpenBlocks Staffed state.ledger) :
    Accountable (fresh number dryRun topologyReady state) :=
  ⟨.fresh number dryRun topologyReady state, h, fun _ h => (nomatch h)⟩

/-- It does not depend on the flags. -/
theorem Accountable.with_flags (h : r.Accountable) (flags : RuntimeFlags) :
    Accountable { r with flags := flags } := by
  refine ⟨h.named.with_flags flags, h.staffed, fun held h_held => ?_⟩
  have h_same : Evolves (fun _ _ _ => False) r { r with flags := flags } := .of_eq rfl
  exact (h.promised held h_held).evolves rfl rfl rfl rfl h_same

/-- A step that assigns nothing and leaves the call that holds the lock. -/
theorem Accountable.promised_of_evolves (h : r.Accountable) (state : r'.state = r.state)
    (holder : r'.holder = r.holder ∨ r'.holder = none) (evolves : Evolves P r r') :
    ∀ held, r'.holder = some held → Promise r' held := by
  intro held h_held
  rcases holder with h_same | h_none
  · exact (h.promised held (h_same.symm.trans h_held)).evolves rfl rfl rfl state evolves
  · exact nomatch h_none.symm.trans h_held

theorem Accountable.step (h : r.Accountable) (h_step : r.step act = .ok (r', effect)) :
    r'.Accountable := by
  refine ⟨h.named.step h_step, ?_, ?_⟩
  · -- the state is the old one, or the one the holder was to save
    rcases step_state h_step with h_same | ⟨held, h_holder, h_updated⟩
    · rw [h_same]
      exact h.staffed
    · rw [h_updated]
      exact (h.named.updates held h_holder).staffed h.staffed
  · -- the promise is made when a call enters, and carried until it ends
    have h_evolves := step_evolves h_step
    cases step_shape h_step with
    | flags | moves | begins => exact h.promised_of_evolves rfl (Or.inl rfl) h_evolves
    | saved held h_holder =>
      rintro held' ⟨⟩
      exact (h.promised held h_holder).evolves rfl rfl rfl rfl h_evolves
    | raised held e h_holder =>
      have h_frame := raised_frame { r with holder := none } e held.task
      exact h.promised_of_evolves h_frame.state (Or.inr h_frame.holder) h_evolves
    | assigned held h_holder =>
      intro held' h_held'
      have h_frame :=
        returned_frame { r with holder := none, state := held.updated } true held.task
      exact nomatch h_frame.holder.symm.trans h_held'
    | enters w task call h_free h_request =>
      have h_spec := request_spec h_request
      have h_none : w.holder = none := h_spec.holder.trans h_free
      intro held h_held
      unfold enter at h_held ⊢
      split at h_held
      · exact nomatch ((raised_frame w _ task).holder.trans h_none).symm.trans h_held
      · exact nomatch ((returned_frame w false task).holder.trans h_none).symm.trans h_held
      · next updated h_prepared =>
        cases h_held
        rw [h_spec.flags, h_spec.state] at h_prepared
        exact request_promise h.named h.staffed h_request h_prepared

/-- What a save writes is staffed as well. -/
theorem Accountable.written (h : r.Accountable) (h_step : r.step act = .ok (r', effect)) :
    ∀ state, effect = some (.write state) → OpenBlocks Staffed state.ledger := by
  rintro state rfl
  cases step_shape h_step with
  | saved held h_holder => exact (h.named.updates held h_holder).staffed h.staffed

/-! ### Every block that is committing is answered for -/

/-- An act at most latches the topology. -/
theorem step_flags (h_step : r.step act = .ok (r', effect)) :
    r'.flags = r.flags ∨ r'.flags = r.flags.latchTopology := by
  cases step_shape h_step with
  | flags flags quarantines h_flags => exact h_flags
  | moves | begins | saved => exact Or.inl rfl
  | raised held e => exact Or.inl (raised_frame { r with holder := none } e held.task).flags
  | assigned held =>
    exact Or.inl
      (returned_frame { r with holder := none, state := held.updated } true held.task).flags
  | enters w task call h_free h_request => exact Or.inl (enter_keeps h_request).1

/-- **No act** ends a dispatch of the current generation whose block is committing. -/
theorem step_retains (h_active : r.flags.commandActive = true) (h : r.Accountable) (inv : r.Inv)
    (h_save : ∀ e, act ≠ .saveRaised e) (h_step : r.step act = .ok (r', effect)) :
    Evolves (Retains r r'.state.ledger) r r' := by
  cases step_shape h_step with
  | flags | saved => exact .of_eq rfl
  | moves i d stage h_d h_moves =>
    refine .setStage fun d' h_d' => ?_
    obtain rfl : d = d' := Option.some.inj (h_d.symm.trans h_d')
    exact h_moves.retains h_active
  | begins i d service next h_act h_d h_next h_guard =>
    exact .setStage fun _ _ _ _ _ => Stage.active_of_nextCall h_next
  | enters w task call h_free h_request =>
    rw [(enter_keeps h_request).2]
    exact enter_retains h_active h.staffed h_request
  | raised held e h_holder h_fails =>
    -- what a call leaves behind depends on what it had promised
    exact raised_retains h_active (h.promised held h_holder) (inv.derived held h_holder).awaits
      h_save h_fails
  | assigned held h_holder h_saved h_act h_check =>
    have h_state :=
      (returned_frame { r with holder := none, state := held.updated } true held.task).state
    rw [h_state]
    exact assigned_retains (h.promised held h_holder)

/-- **A block begins to commit** when a claim of the current generation is assigned. -/
theorem step_begins (h : r.Accountable) (h_step : r.step act = .ok (r', effect))
    (h_id : Committing r'.state.ledger id) : Committing r.state.ledger id ∨
      ∃ (i : ℕ) (d : Dispatch) (modeOption : Option String),
        r'.dispatches[i]? = some { d with stage := .claimed modeOption } ∧ d.blockId = id ∧
          d.generation = r.flags.commandGeneration := by
  rcases step_assigns h_step with h_same | ⟨held, h_holder, h_check, rfl⟩
  · rw [h_same] at h_id
    exact Or.inl h_id
  have h_state :=
    (returned_frame { r with holder := none, state := held.updated } true held.task).state
  rw [h_state] at h_id
  -- only the promise of a claim names a block that begins to commit
  cases h.promised held h_holder with
  | accepts i d h_task h_d begins ends guarded | quarantines i d h_task h_d begins ends guarded =>
    exact Or.inl (begins id h_id)
  | other h_task begins => exact Or.inl (begins id h_id)
  | claims i modeOption d h_task h_d begins guarded =>
    rcases begins id h_id with h_before | rfl
    · exact Or.inl h_before
    · -- the guard of the claim has just passed, so its generation is the current one
      rw [guarded] at h_check
      obtain ⟨-, h_current, -⟩ := RuntimeFlags.requireCommandGeneration_eq_ok.mp h_check
      rw [h_task]
      exact Or.inr ⟨i, d, modeOption, setStage_self h_d, rfl, h_current.symm⟩

/-- A block that is committing has a dispatch that holds its claim, and was captured under the
current generation. -/
structure Covered (r : Runtime) : Prop where
  active : r.flags.commandActive = true
  held : ∀ id, Committing r.state.ledger id → ∃ (i : ℕ) (d : Dispatch),
    r.dispatches[i]? = some d ∧ d.stage.active = true ∧ d.blockId = id ∧
      d.generation = r.flags.commandGeneration

theorem Covered.of_none (h_active : r.flags.commandActive = true)
    (h : ∀ id, ¬ Committing r.state.ledger id) : Covered r :=
  ⟨h_active, fun id h_id => absurd h_id (h id)⟩

/-- **Every act keeps it** whose save does not fail. -/
theorem Covered.step (h : r.Covered) (h_r : r.Accountable) (inv : r.Inv)
    (h_save : ∀ e, act ≠ .saveRaised e) (h_step : r.step act = .ok (r', effect)) : r'.Covered := by
  have h_flags : r'.flags.commandActive = r.flags.commandActive ∧
      r'.flags.commandGeneration = r.flags.commandGeneration := by
    rcases step_flags h_step with h_same | h_latched
    · rw [h_same]
      exact ⟨rfl, rfl⟩
    · rw [h_latched]
      exact ⟨rfl, rfl⟩
  refine ⟨h_flags.1.trans h.active, fun id h_id => ?_⟩
  rw [h_flags.2]
  rcases step_begins h_r h_step h_id with h_before | ⟨i, d, modeOption, h_d, h_own, h_current⟩
  · obtain ⟨i, d, h_d, h_claimed, rfl, h_current⟩ := h.held id h_before
    have h_retains := step_retains h.active h_r inv h_save h_step
    obtain ⟨stage, h_d', h_stage⟩ := h_retains.old i d h_d
    refine ⟨i, _, h_d', ?_, rfl, h_current⟩
    rcases h_stage with rfl | h_kept
    · exact h_claimed
    · exact h_kept h_claimed h_current h_id
  · exact ⟨i, _, h_d, rfl, h_own, h_current⟩

/-- No dispatch coroutine is in flight. -/
def Idle (r : Runtime) : Prop := ∀ d ∈ r.dispatches, d.stage = .finished

instance (r : Runtime) : Decidable r.Idle :=
  inferInstanceAs (Decidable (∀ d ∈ r.dispatches, d.stage = .finished))

/-- Nothing is left between its claim and its outcome. -/
structure Concluded (r : Runtime) : Prop where
  blocks : ∀ b ∈ r.state.ledger.blocks, b.state ≠ .committing
  jobs : ∀ j ∈ r.state.ledger.jobs, j.state ≠ .dispatching

instance (r : Runtime) : Decidable r.Concluded :=
  decidable_of_iff ((∀ b ∈ r.state.ledger.blocks, b.state ≠ .committing) ∧
      ∀ j ∈ r.state.ledger.jobs, j.state ≠ .dispatching)
    ⟨fun h => ⟨h.1, h.2⟩, fun h => ⟨h.blocks, h.jobs⟩⟩

/-- A dispatch in flight answers for every block that is committing, so without one there is
none. -/
theorem Covered.concluded (h : r.Covered) (h_r : r.Accountable) (h_idle : r.Idle) :
    r.Concluded := by
  have h_none (id : String) : ¬ Committing r.state.ledger id := by
    intro h_id
    obtain ⟨i, d, h_d, h_claimed, -, -⟩ := h.held id h_id
    rw [h_idle d (List.mem_of_getElem? h_d)] at h_claimed
    exact nomatch h_claimed
  refine ⟨fun b hb h_b => h_none b.blockId ⟨b, hb, rfl, h_b⟩, fun j hj h_j => ?_⟩
  exact h_none j.blockId (committing_of_job h_r.staffed.inStep hj h_j)

end Runtime

end VacuumPlanner
