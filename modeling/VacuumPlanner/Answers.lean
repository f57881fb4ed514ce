import VacuumPlanner.Committing
import VacuumPlanner.Entities

/-!
# What a public action answers

`handler` of `_register_queue_mutation_actions`, from its call to its response. Between the two
it looks its entry up, waits for the lock, and waits for the store, and at each of these points
the runtime may be another one than before: unloaded, latched, or in the middle of other calls.

The user sees none of this. `actions_answer` says what comes back: a response, which is that of
the state now in memory, or a refusal as a `ServiceValidationError`, or what the store raised;
and unless it is a response, the state in memory is what it was. That no other error gets
through rests on the ledgers: a mutation of a valid one raises `KeyError` and `ValueError` only
(`PublicAction.mutation_malformed`).
-/

namespace VacuumPlanner

open Framework

/-! ### The handler -/

/-- The mutations that are registered as actions, with the fields their schemas ask for. -/
inductive PublicAction where
  | skipAreaToday (areaId : String)
  /-- `_postpone_days` lets 1 to 365 through; what follows holds for every number. -/
  | postponeArea (areaId : String) (days : ℤ)
  | cancelBlock (blockId : String)
  | resolveUncertainRun (jobId : String) (resolution : UncertainResolution)

/-- What `_apply_queue_mutation` reads besides: the time zone of Home Assistant, the clock and
the id it draws. -/
structure ActionInput where
  zoneInfo : String → Option (Instant → Instant)
  timeZone : String
  now : Instant
  revisionId : String

structure ActionResponse where
  status : String
  revision : Option ℤ
  deriving DecidableEq

/-- What a handler finds once it has the lock. A caller that is cancelled before that has run
nothing and gets no answer, so there is no such case; one that is cancelled while the save is
pending is told so by `save`. -/
structure Attended where
  /-- The runtime the entry id leads to, and its flags if it has a coordinator. -/
  entry : Option (Option RuntimeFlags)
  /-- The flags and the state when the call has the lock. -/
  flags : RuntimeFlags
  state : PlannerState
  /-- The save raises, or the caller is cancelled while it waits (which counts as an error of the
  store), or the flags are these when the save returns. -/
  save : Except PyError RuntimeFlags

namespace PublicAction

/-- The `SERVICE_` name. -/
def service : PublicAction → String
  | .skipAreaToday _ => "skip_area_today"
  | .postponeArea _ _ => "postpone_area"
  | .cancelBlock _ => "cancel_block"
  | .resolveUncertainRun _ _ => "resolve_uncertain_run"

/-- The mutation of `_apply_queue_mutation`. -/
def mutation (input : ActionInput) : PublicAction → Mutation
  | .skipAreaToday areaId =>
    .skipAreaToday input.zoneInfo areaId input.now input.timeZone input.revisionId
  | .postponeArea areaId days => .postponeArea areaId input.now days input.revisionId
  | .cancelBlock blockId => .cancelBlock blockId input.now
  | .resolveUncertainRun jobId resolution => .resolveUncertainRun jobId resolution input.now

/-- The response of `_apply_queue_mutation`. -/
def response (updated : PlannerState) : PublicAction → ActionResponse
  | .skipAreaToday _ => ⟨"skipped_today", none⟩
  | .postponeArea _ _ => ⟨"postponed", none⟩
  | .cancelBlock _ => ⟨"cancelled", some updated.ledger.revision⟩
  | .resolveUncertainRun _ _ => ⟨"resolved", some updated.ledger.revision⟩

/-- `except (KeyError, ValueError)`: the text of a `KeyError` is the `repr` of its key. -/
def rejected (repr : String → String) (name : String) : PyError → PyError
  | .valueError message | .duplicateIdentityError message | .laneAlreadyOpenError message
  | .revisionConflictError message =>
    .serviceValidationError (name ++ " rejected: " ++ message)
  | .keyError key => .serviceValidationError (name ++ " rejected: " ++ repr key)
  | e => e

/-- `except RuntimeInactiveError`, which a `TopologyNotReadyError` is too. -/
def refused : PyError → PyError
  | .runtimeInactiveError message | .topologyNotReadyError message =>
    .serviceValidationError message
  | e => e

/-- `_runtime_for_action` and `_capture_runtime_command`. -/
def resolve : Option (Option RuntimeFlags) → Except PyError ℕ
  | none => .error (.serviceValidationError "Vacuum Planner entry is not loaded")
  | some none => .error (.serviceValidationError "Vacuum Planner state is unavailable")
  | some (some flags) => flags.captureCommandGeneration.mapError refused

/-- `command` of `handler`. -/
def command (repr : String → String) (input : ActionInput) (action : PublicAction)
    (state : PlannerState) : Except PyError PlannerState :=
  ((action.mutation input).run state).mapError (rejected repr action.service)

/-- What becomes of a call of `async_command`: the outcome of `handler`, and the state in memory
when it is done. -/
def settle (action : PublicAction) (found : Attended) (generation : ℕ) :
    Except PyError (Option PlannerState) → Except PyError ActionResponse × PlannerState
  | .error e => (.error (refused e), found.state)
  | .ok none => (.ok (action.response found.state), found.state)
  | .ok (some updated) =>
    match found.save with
    | .error e => (.error (refused e), found.state)
    | .ok flags =>
      match flags.requireCommandGeneration generation with
      -- the store has the new state, memory does not
      | .error e => (.error (refused e), found.state)
      | .ok () => (.ok (action.response updated), updated)

/-- `handler`. -/
def handler (repr : String → String) (input : ActionInput) (action : PublicAction)
    (found : Attended) : Except PyError ActionResponse × PlannerState :=
  match resolve found.entry with
  | .error e => (.error e, found.state)
  | .ok generation =>
    let call := guardedCall generation (action.command repr input)
    settle action found generation (call.prepare found.flags found.state).1

end PublicAction

/-! ### What a mutation raises -/

section Raises

variable {s : PlannerState} {L : QueueLedger} {areaId blockId jobId revisionId : String}
  {now : Instant}

theorem malformed_reviseRoom {change : RoomPlan → RoomPlan} :
    Malformed (reviseRoom s areaId revisionId now change) := by
  unfold reviseRoom
  refine (raisesOnly_rewriteWhere fun _ => malformed_roomPostInit).bind fun plans => ?_
  exact malformed_constructPlan.bind fun revision => malformed_constructState

/-- A job of a ledger has its block there, so the search for it finds one. -/
theorem malformed_replaceJobState {newState : JobState} {confirmed : Bool}
    {token code detail : Option String} (h : newState ≠ .dispatching) :
    Malformed (L.replaceJobState jobId newState now confirmed token code detail) := by
  unfold QueueLedger.replaceJobState
  refine (raisesOnly_bind (raisesOnly_orRaise (by rfl))).mpr fun current h_current => ?_
  obtain ⟨b, hb, h_parent⟩ := L.exists_parent (L.find_job.mp (orRaise_eq_ok.mp h_current)).1
  rw [L.find_block.mpr ⟨hb, h_parent⟩]
  refine RaisesOnly.bind (raisesOnly_ok b) fun parent => ?_
  refine malformed_raiseIf.bind fun _ => ?_
  refine malformed_raiseIf.bind fun _ => ?_
  simp only [if_neg h]
  refine malformed_raiseIf.bind fun _ => ?_
  refine malformed_raiseIf.bind fun _ => ?_
  refine (raisesOnly_rewriteWhere fun _ => malformed_jobPostInit).bind fun jobs => ?_
  exact malformed_constructLedger

theorem malformed_cancelPendingBlock : Malformed (cancelPendingBlock s blockId now) := by
  unfold cancelPendingBlock
  refine RaisesOnly.bind (raisesOnly_orRaise (by rfl)) fun block => ?_
  refine malformed_raiseIf.bind fun _ => ?_
  refine malformed_raiseIf.bind fun _ => ?_
  refine RaisesOnly.bind
    (raisesOnly_foldlM fun _ _ => malformed_replaceJobState (by decide)) fun cancelled => ?_
  exact malformed_replaceBlockState.bind fun ledger => malformed_constructState

theorem malformed_resolveUncertainRun {resolution : UncertainResolution} :
    Malformed (resolveUncertainRun s jobId resolution now) := by
  unfold resolveUncertainRun resolveUncertainJob
  refine RaisesOnly.bind ?_ fun ledger => malformed_constructState
  refine (raisesOnly_bind (raisesOnly_orRaise (by rfl))).mpr fun job h_job => ?_
  obtain ⟨b, hb, h_parent⟩ :=
    s.ledger.exists_parent (s.ledger.find_job.mp (orRaise_eq_ok.mp h_job)).1
  refine malformed_raiseIf.bind fun _ => ?_
  rw [s.ledger.find_block.mpr ⟨hb, h_parent⟩]
  refine RaisesOnly.bind (raisesOnly_ok b) fun block => ?_
  refine malformed_raiseIf.bind fun _ => ?_
  refine (raisesOnly_rewriteWhere fun _ => malformed_jobPostInit).bind fun jobs => ?_
  refine (raisesOnly_rewriteWhere fun _ => malformed_blockPostInit).bind fun blocks => ?_
  exact malformed_constructLedger

/-- A mutation of any state of the planner raises `KeyError` or `ValueError`, if it raises. -/
theorem PublicAction.mutation_malformed (input : ActionInput) (action : PublicAction)
    (s : PlannerState) : Malformed ((action.mutation input).run s) := by
  cases action with
  | skipAreaToday areaId =>
    refine RaisesOnly.bind (raisesOnly_orRaise (by rfl)) fun nextMidnight => ?_
    exact RaisesOnly.bind (raisesOnly_raiseIf (by rfl)) fun _ => malformed_reviseRoom
  | postponeArea areaId days =>
    refine malformed_raiseIf.bind fun _ => ?_
    exact RaisesOnly.bind (raisesOnly_raiseIf (by rfl)) fun _ => malformed_reviseRoom
  | cancelBlock blockId => exact malformed_cancelPendingBlock
  | resolveUncertainRun jobId resolution => exact malformed_resolveUncertainRun

end Raises

/-! ### What comes back -/

namespace PublicAction

variable {repr : String → String} {input : ActionInput} {action : PublicAction} {found : Attended}
  {s updated : PlannerState} {generation : ℕ} {e : PyError}

theorem command_eq_ok :
    action.command repr input s = .ok updated ↔ (action.mutation input).run s = .ok updated := by
  unfold command
  cases (action.mutation input).run s with
  | error e => exact iff_of_false nofun nofun
  | ok s' => exact Iff.rfl

/-- Whatever the mutation raises, the caller is told that it is rejected. -/
theorem command_raises (h : action.command repr input s = .error e) :
    ∃ message, e = .serviceValidationError message := by
  unfold command at h
  cases h_run : (action.mutation input).run s with
  | ok s' =>
    rw [h_run] at h
    exact nomatch h
  | error raised =>
    rw [h_run] at h
    cases h
    have h_malformed := mutation_malformed input action s raised h_run
    -- the subclasses of `ValueError` are not raised by a mutation, and no other error is
    cases raised with
    | valueError message => exact ⟨_, rfl⟩
    | keyError key => exact ⟨_, rfl⟩
    | _ => cases h_malformed

/-- The error that the caller is told is a refusal. -/
def Refusal (e : PyError) : Prop := ∃ message, refused e = .serviceValidationError message

theorem require_refuses (flags : RuntimeFlags) (generation : ℕ) :
    RaisesOnly Refusal (flags.requireCommandGeneration generation) :=
  (raisesOnly_raiseIf ⟨_, rfl⟩).bind fun _ => raisesOnly_raiseIf ⟨_, rfl⟩

theorem resolve_raises {entry : Option (Option RuntimeFlags)} (h : resolve entry = .error e) :
    ∃ message, e = .serviceValidationError message := by
  match entry with
  | none =>
    cases h
    exact ⟨_, rfl⟩
  | some none =>
    cases h
    exact ⟨_, rfl⟩
  | some (some flags) =>
    -- what the runtime refuses is a refusal, which the handler translates
    have h_capture : RaisesOnly Refusal flags.captureCommandGeneration :=
      (raisesOnly_raiseIf ⟨_, rfl⟩).bind fun _ =>
        (raisesOnly_raiseIf ⟨_, rfl⟩).bind fun _ => raisesOnly_pure _
    unfold resolve at h
    dsimp only at h
    cases h_run : flags.captureCommandGeneration with
    | ok generation =>
      rw [h_run] at h
      exact nomatch h
    | error raised =>
      rw [h_run] at h
      cases h
      exact h_capture raised h_run

theorem refused_cases (e : PyError) :
    refused e = e ∨ ∃ message, refused e = .serviceValidationError message := by
  cases e with
  | runtimeInactiveError message | topologyNotReadyError message => exact Or.inr ⟨_, rfl⟩
  | _ => exact Or.inl rfl

/-- `prepare`, of the call of a handler. The guard asks the same flags twice. -/
theorem prepare_guarded (generation : ℕ) (command : PlannerState → Except PyError PlannerState)
    (flags : RuntimeFlags) (s : PlannerState) :
    ((guardedCall generation command).prepare flags s).1 = (do
      flags.requireCommandGeneration generation
      let updated ← command s
      if updated = s then return none else return some updated) := by
  have h_check : (guardedCall generation command).check flags =
      flags.requireCommandGeneration generation := rfl
  have h_command : (guardedCall generation command).command flags s = (command s, flags) := rfl
  -- the guard is asked before the command and again after it, with the same flags
  unfold Call.prepare
  rw [h_check, h_command]
  cases h_ok : flags.requireCommandGeneration generation with
  | error e => rfl
  | ok _ =>
    cases h_run : command s with
    | error e => rfl
    | ok updated =>
      by_cases h_same : updated = s
      · simp only [ok_bind, if_pos h_same]
        rfl
      · simp only [ok_bind, if_neg h_same, h_check, h_ok]
        rfl

theorem handler_resolved (repr : String → String) (input : ActionInput) (action : PublicAction)
    (h : resolve found.entry = .ok generation) :
    handler repr input action found = settle action found generation (do
      found.flags.requireCommandGeneration generation
      let updated ← action.command repr input found.state
      if updated = found.state then return none else return some updated) := by
  unfold handler
  rw [h]
  dsimp only
  rw [prepare_guarded]

/-- The runtime is the one that was resolved, at the lock and after the save, and the mutation
goes through. -/
def Accepts (input : ActionInput) (action : PublicAction) (found : Attended) (generation : ℕ)
    (updated : PlannerState) : Prop :=
  found.flags.requireCommandGeneration generation = .ok () ∧
    (action.mutation input).run found.state = .ok updated ∧
    (updated = found.state ∨ ∃ flags, found.save = .ok flags ∧
      flags.requireCommandGeneration generation = .ok ())

/-- What a handler answers, and what it leaves in memory. -/
structure Answers (repr : String → String) (input : ActionInput) (action : PublicAction)
    (found : Attended) : Prop where
  responds : (∃ response, (handler repr input action found).1 = .ok response) ↔
    ∃ generation updated, resolve found.entry = .ok generation ∧
      Accepts input action found generation updated
  /-- The response is that of the state in memory, with the revision `get_queue` gives. -/
  response : ∀ response, (handler repr input action found).1 = .ok response →
    (action.mutation input).run found.state = .ok (handler repr input action found).2 ∧
      response = action.response (handler repr input action found).2 ∧
      ∀ revision, response.revision = some revision →
        revision = (getQueueResponse (some (handler repr input action found).2)).revision
  /-- Everything else leaves memory as it was, and is a refusal or comes from the store. -/
  refused : ∀ e, (handler repr input action found).1 = .error e →
    (handler repr input action found).2 = found.state ∧
      ((∃ message, e = .serviceValidationError message) ∨ found.save = .error e)

theorem response_revision {revision : ℤ} (h : (action.response s).revision = some revision) :
    revision = (getQueueResponse (some s)).revision := by
  cases action with
  | skipAreaToday _ | postponeArea _ _ => exact nomatch h
  | cancelBlock _ | resolveUncertainRun _ _ => exact (Option.some.inj h).symm

/-- A handler that stops before its response. -/
theorem Answers.of_error (h : handler repr input action found = (.error e, found.state))
    (h_e : (∃ message, e = .serviceValidationError message) ∨ found.save = .error e)
    (h_not : ∀ generation updated, resolve found.entry = .ok generation →
      ¬ Accepts input action found generation updated) :
    Answers repr input action found where
  responds := by
    refine iff_of_false (fun ⟨_, h_ok⟩ => ?_) fun ⟨generation, updated, h_found, h_accepts⟩ =>
      h_not generation updated h_found h_accepts
    rw [h] at h_ok
    exact nomatch h_ok
  response _ h_ok := by
    rw [h] at h_ok
    exact nomatch h_ok
  refused e' h_error := by
    rw [h] at h_error ⊢
    cases h_error
    exact ⟨rfl, h_e⟩

/-- A handler that responds. -/
theorem Answers.of_ok (h_resolve : resolve found.entry = .ok generation)
    (h : handler repr input action found = (.ok (action.response updated), updated))
    (h_accepts : Accepts input action found generation updated) :
    Answers repr input action found where
  responds := iff_of_true ⟨_, congrArg Prod.fst h⟩ ⟨generation, updated, h_resolve, h_accepts⟩
  response _ h_ok := by
    rw [h] at h_ok ⊢
    cases h_ok
    exact ⟨h_accepts.2.1, rfl, fun _ => response_revision⟩
  refused _ h_error := by
    rw [h] at h_error
    exact nomatch h_error

/-- Another generation has not been resolved. -/
theorem not_accepts (h_resolve : resolve found.entry = .ok generation)
    (h : ∀ updated, ¬ Accepts input action found generation updated) (generation' : ℕ)
    (updated : PlannerState) (h_found : resolve found.entry = .ok generation') :
    ¬ Accepts input action found generation' updated := by
  cases h_resolve.symm.trans h_found
  exact h updated

/-- A handler with something to save. -/
theorem Answers.of_saving (h_resolve : resolve found.entry = .ok generation)
    (h_check : found.flags.requireCommandGeneration generation = .ok ())
    (h_run : (action.mutation input).run found.state = .ok updated)
    (h_changed : updated ≠ found.state)
    (h : handler repr input action found = settle action found generation (.ok (some updated))) :
    Answers repr input action found := by
  unfold settle at h
  dsimp only at h
  have h_saved (s : PlannerState) (h_accepts : Accepts input action found generation s) :
      ∃ flags, found.save = .ok flags ∧ flags.requireCommandGeneration generation = .ok () := by
    cases h_accepts.2.1.symm.trans h_run
    exact h_accepts.2.2.resolve_left h_changed
  cases h_save : found.save with
  | error e =>
    -- the store raises: its error comes out, unless it is one the handler refuses with
    rw [h_save] at h
    refine .of_error h ?_ (not_accepts h_resolve fun s h_accepts => ?_)
    · rcases refused_cases e with h_own | h_refused
      · exact Or.inr (h_own.symm ▸ h_save)
      · exact Or.inl h_refused
    · obtain ⟨flags, h_flags, -⟩ := h_saved s h_accepts
      exact nomatch h_save.symm.trans h_flags
  | ok flags =>
    rw [h_save] at h
    dsimp only at h
    cases h_after : flags.requireCommandGeneration generation with
    | error e =>
      -- saved, but the runtime is not the one of the call any more
      rw [h_after] at h
      refine .of_error h (Or.inl (require_refuses _ _ e h_after))
        (not_accepts h_resolve fun s h_accepts => ?_)
      obtain ⟨flags', h_flags, h_alive⟩ := h_saved s h_accepts
      cases h_save.symm.trans h_flags
      exact nomatch h_after.symm.trans h_alive
    | ok _ =>
      rw [h_after] at h
      exact .of_ok h_resolve h ⟨h_check, h_run, Or.inr ⟨flags, h_save, h_after⟩⟩

/-- **Actions answer.** Whatever is asked of an entry, in whatever state, however its flags
change while the call waits, and whatever the store does: the caller gets the response that
belongs to the state in memory, or a `ServiceValidationError`, or what the store has raised, with
memory as it was. There is a response exactly if the mutation goes through, and its runtime
lives and has its topology from the call until the save is back. -/
theorem actions_answer (repr : String → String) (input : ActionInput) (action : PublicAction)
    (found : Attended) : Answers repr input action found := by
  cases h_resolve : resolve found.entry with
  | error e =>
    refine .of_error (e := e) ?_ (Or.inl (resolve_raises h_resolve)) fun _ _ h_found =>
      nomatch h_resolve.symm.trans h_found
    unfold handler
    rw [h_resolve]
  | ok generation =>
    have h := handler_resolved repr input action h_resolve
    -- the guard under the lock, the mutation, and what there is to save, as `prepare` has them
    cases h_check : found.flags.requireCommandGeneration generation with
    | error e =>
      rw [h_check] at h
      exact .of_error h (Or.inl (require_refuses _ _ e h_check))
        (not_accepts h_resolve fun _ h_accepts => nomatch h_check.symm.trans h_accepts.1)
    | ok _ =>
      rw [h_check, ok_bind] at h
      cases h_run : action.command repr input found.state with
      | error e =>
        obtain ⟨message, rfl⟩ := command_raises h_run
        rw [h_run] at h
        exact .of_error h (Or.inl ⟨message, rfl⟩) (not_accepts h_resolve fun _ h_accepts =>
          nomatch h_run.symm.trans (command_eq_ok.mpr h_accepts.2.1))
      | ok updated =>
        have h_mutation := command_eq_ok.mp h_run
        rw [h_run, ok_bind] at h
        by_cases h_same : updated = found.state
        · -- the mutation leaves the state as it is, so nothing is saved
          rw [if_pos h_same] at h
          exact .of_ok h_resolve h ⟨h_check, h_same ▸ h_mutation, Or.inl rfl⟩
        · rw [if_neg h_same] at h
          exact .of_saving h_resolve h_check h_mutation h_same h

end PublicAction

end VacuumPlanner
