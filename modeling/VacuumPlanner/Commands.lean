import VacuumPlanner.ActionSpecs
import VacuumPlanner.Framework.Runs

/-!
# The commands, together

The commands of the ledger, of the planner state and of both as one type each, so that
"every command" and "every sequence of commands" are quantifiers.

`LedgerCommand` are the commands of `domain/queue.py` and the guarded transitions, which
act on a ledger. `StateCommand` are the commands on a planner state: those of the ledger
next to an unchanged plan, the completion of a job, the observations, and the public
actions. `QueueCommand` is what can happen to a ledger: a ledger command, a completion
under any plan, or any command of a planner state with that ledger and any plan.

`run_step` is the one fact the invariants start from: a command that returns normally
rewrites the ledger in place, dispatching nothing or in turn, or seals a new block at its
end. Most of them need less (`run_cases`).
-/

namespace VacuumPlanner

open Framework

inductive LedgerCommand where
  | startDueBlock (snapshot : PlanSnapshot) (laneId idempotencyKey : String) (now : Instant)
      (idFactory : ℕ → String) (dispatchStrategy : DispatchStrategy)
      (guarantee : BlockGuarantee) (atomicDeviceCommit : Bool) (expectedRevision : Option ℤ)
  | replaceBlockState (blockId : String) (newState : BlockState) (changedAt : Instant)
      (adapterRunId : Option String)
  | replaceJobState (jobId : String) (newState : JobState) (changedAt : Instant)
      (adapterConfirmed : Bool) (adapterToken errorCode errorDetail : Option String)
  | failBlockCommit (blockId : String) (failedAt : Instant) (errorCode : String)
      (errorDetail : Option String)
  | beginNativeBatchCommit (blockId : String) (sentAt : Instant)
  | quarantineBlockDispatch (blockId : String) (reconciledAt : Instant)
  | resolveUncertainJob (jobId : String) (resolution : UncertainResolution)
      (resolvedAt : Instant)
  | resolveUncertainBlock (blockId : String) (resolution : UncertainResolution)
  | quarantineAmbiguousDispatches (reconciledAt : Instant)

def LedgerCommand.run : LedgerCommand → QueueLedger → Except PyError QueueLedger
  | .startDueBlock snapshot laneId key now idFactory strategy guarantee atomic expected, L => do
    let result ← VacuumPlanner.startDueBlock L snapshot laneId key now idFactory strategy
      guarantee atomic expected
    return result.ledger
  | .replaceBlockState blockId newState changedAt runId, L =>
    L.replaceBlockState blockId newState changedAt runId
  | .replaceJobState jobId newState changedAt confirmed token code detail, L =>
    L.replaceJobState jobId newState changedAt confirmed token code detail
  | .failBlockCommit blockId failedAt code detail, L =>
    VacuumPlanner.failBlockCommit L blockId failedAt code detail
  | .beginNativeBatchCommit blockId sentAt, L =>
    VacuumPlanner.beginNativeBatchCommit L blockId sentAt
  | .quarantineBlockDispatch blockId reconciledAt, L =>
    VacuumPlanner.quarantineBlockDispatch L blockId reconciledAt
  | .resolveUncertainJob jobId resolution resolvedAt, L =>
    VacuumPlanner.resolveUncertainJob L jobId resolution resolvedAt
  | .resolveUncertainBlock blockId resolution, L =>
    VacuumPlanner.resolveUncertainBlock L blockId resolution
  | .quarantineAmbiguousDispatches reconciledAt, L =>
    VacuumPlanner.quarantineAmbiguousDispatches L reconciledAt

inductive StateCommand where
  | ledger (command : LedgerCommand)
  | completeJob (jobId : String) (completedAt : Instant) (nextRevisionId : String)
  | observe (outcome : ObservationOutcome) (observedAt : Instant) (revisionIds : ℕ → String)
  | cancelPendingBlock (blockId : String) (cancelledAt : Instant)
  | recordDispatchAcceptance (blockId : String) (jobs : List QueueJob) (acceptedAt : Instant)
  | recordUncertain (blockId : String) (reconciledAt : Instant)
  | postponeArea (areaId : String) (now : Instant) (days : ℤ) (revisionId : String)
  | skipAreaToday (zoneInfo : String → Option (Instant → Instant)) (areaId : String)
      (now : Instant) (timeZone revisionId : String)
  | setNativeValue (number : RoomNumber) (areaId : String) (value : PyFloat) (now : Instant)
      (revisionId : String)

def StateCommand.run : StateCommand → PlannerState → Except PyError PlannerState
  | .ledger command, s => do
    let L ← command.run s.ledger
    PlannerState.construct s.planRevision L
  | .completeJob jobId completedAt nextRevisionId, s =>
    completeRunningJob completedAt s (jobId, nextRevisionId)
  | .observe outcome observedAt revisionIds, s =>
    VacuumPlanner.observe outcome observedAt revisionIds s
  | .cancelPendingBlock blockId cancelledAt, s =>
    VacuumPlanner.cancelPendingBlock s blockId cancelledAt
  | .recordDispatchAcceptance blockId jobs acceptedAt, s =>
    VacuumPlanner.recordDispatchAcceptance s blockId jobs acceptedAt
  | .recordUncertain blockId reconciledAt, s =>
    VacuumPlanner.recordUncertain s blockId reconciledAt
  | .postponeArea areaId now days revisionId, s =>
    VacuumPlanner.postponeArea s areaId now days revisionId
  | .skipAreaToday zoneInfo areaId now timeZone revisionId, s =>
    VacuumPlanner.skipAreaToday zoneInfo s areaId now timeZone revisionId
  | .setNativeValue number areaId value now revisionId, s =>
    VacuumPlanner.setNativeValue number areaId value now revisionId s

inductive QueueCommand where
  | ledger (command : LedgerCommand)
  | completeJobAndAdvancePlan (plan : PlanRevision) (jobId : String) (completedAt : Instant)
      (nextRevisionId : String)
  | underPlan (plan : PlanRevision) (command : StateCommand)

def QueueCommand.run : QueueCommand → QueueLedger → Except PyError QueueLedger
  | .ledger command, L => command.run L
  | .completeJobAndAdvancePlan plan jobId completedAt nextRevisionId, L => do
    let result ← VacuumPlanner.completeJobAndAdvancePlan L plan jobId completedAt nextRevisionId
    return result.ledger
  | .underPlan plan command, L => do
    let s ← PlannerState.construct plan L
    let s' ← command.run s
    return s'.ledger

/-! ### Rewrite or seal -/

/-- A command that returns normally rewrites the ledger in place or seals a new block. -/
def RewritesOrSeals (L L' : QueueLedger) : Prop :=
  Rewrites (CommandMove L) L L' ∨ ∃ block children, BlockSealed L L' block children

/-- The same, with the turn of a dispatch: a command rewrites the ledger without a dispatch,
or it dispatches, or it seals a new block. -/
inductive CommandStep (L L' : QueueLedger) : Prop where
  | quiet (rewrites : Rewrites (JobMoved quietMoves) L L')
  | dispatches (jobId : String) (rewrites : Rewrites (DispatchedInTurn L jobId) L L')
  | seals (block : QueueBlock) (children : List QueueJob) (sealed : BlockSealed L L' block children)

variable {L L' : QueueLedger} {s s' : PlannerState}

theorem CommandStep.rewritesOrSeals (h : CommandStep L L') : RewritesOrSeals L L' := by
  cases h with
  | quiet rewrites => exact Or.inl (rewrites.mono fun _ _ _ _ h_moved => Or.inl h_moved)
  | dispatches jobId rewrites =>
    exact Or.inl (rewrites.mono fun _ _ _ _ h_sent =>
      Or.inr ⟨h_sent.dispatched, h_sent.parentOpen⟩)
  | seals block children sealed => exact Or.inr ⟨block, children, sealed⟩

theorem CommandStep.refl (L : QueueLedger) : CommandStep L L := .quiet (Rewrites.refl L)

theorem CommandStep.of_moved {moves : List (JobState × JobState)} (sub : moves ⊆ quietMoves)
    (h : Rewrites (JobMoved moves) L L') : CommandStep L L' :=
  .quiet (h.mono fun _ _ _ _ h_moved => h_moved.mono sub)

theorem LedgerCommand.run_step {c : LedgerCommand} (h : c.run L = .ok L') :
    CommandStep L L' := by
  cases c with
  | startDueBlock snapshot laneId key now idFactory strategy guarantee atomic expected =>
    obtain ⟨result, h_result, h⟩ := bind_eq_ok.mp h
    obtain rfl := pure_eq_ok.mp h
    -- nothing is due, the block exists, or a new one is sealed
    rcases startDueBlock_ok h_result with ⟨b, -, -, -, rfl⟩ | ⟨-, rfl⟩ | ⟨b, jobs, -, -, -, h, -⟩
    · exact .refl L
    · exact .refl L
    · exact .seals b jobs h
  | replaceBlockState => exact .quiet (QueueLedger.replaceBlockState_rewrites h)
  | replaceJobState jobId newState =>
    -- the one transition that may dispatch
    by_cases h_state : newState = .dispatching
    · subst h_state
      exact .dispatches jobId (QueueLedger.replaceJobState_dispatches h)
    · exact .of_moved (QueueLedger.movesTo_subset newState)
        (QueueLedger.replaceJobState_moves h_state h)
  | failBlockCommit => exact .of_moved (by decide) (failBlockCommit_rewrites h)
  | beginNativeBatchCommit blockId =>
    exact .dispatches blockId (beginNativeBatchCommit_rewrites blockId h)
  | quarantineBlockDispatch => exact .of_moved (by decide) (quarantineBlockDispatch_rewrites h)
  | resolveUncertainJob jobId resolution resolvedAt =>
    have h : VacuumPlanner.resolveUncertainJob L jobId resolution resolvedAt = .ok L' := h
    exact .of_moved (by decide) (resolveUncertainJob_rewrites h)
  | resolveUncertainBlock blockId resolution =>
    have h : VacuumPlanner.resolveUncertainBlock L blockId resolution = .ok L' := h
    exact .quiet (resolveUncertainBlock_rewrites h)
  | quarantineAmbiguousDispatches =>
    exact .of_moved (by decide) (quarantineAmbiguousDispatches_rewrites h)

theorem PlanRevised.commandStep (h : PlanRevised s s') : CommandStep s.ledger s'.ledger := by
  rw [h.ledger]
  exact .refl _

theorem StateCommand.run_step {c : StateCommand} (h : c.run s = .ok s') :
    CommandStep s.ledger s'.ledger := by
  cases c with
  | ledger command =>
    obtain ⟨L', h_L', h⟩ := bind_eq_ok.mp h
    obtain ⟨-, rfl⟩ := PlannerState.construct_eq_ok.mp h
    exact command.run_step h_L'
  -- a completion moves one running job, a report what it reports
  | completeJob =>
    exact .of_moved (QueueLedger.movesTo_subset .completed) (completeRunningJob_rewrites h)
  | observe outcome => exact .of_moved (observationMoves_subset outcome) (observe_rewrites h)
  | cancelPendingBlock =>
    obtain ⟨b, -, -, -, -, -, -, h_rewrites⟩ := cancelPendingBlock_ok h
    exact .of_moved (QueueLedger.movesTo_subset .cancelled) h_rewrites
  | recordDispatchAcceptance =>
    obtain ⟨b, -, -, ⟨-, rfl⟩ | ⟨-, -, -, -, h_rewrites⟩⟩ := recordDispatchAcceptance_ok h
    · exact .refl _
    · exact .of_moved (QueueLedger.movesTo_subset .accepted) h_rewrites
  | recordUncertain =>
    obtain ⟨b, -, -, ⟨-, rfl⟩ | ⟨-, h_quarantine⟩⟩ := recordUncertain_ok h
    · exact .refl _
    · exact .of_moved (by decide) (quarantineBlockDispatch_rewrites h_quarantine)
  | postponeArea => exact (postponeArea_ok h).commandStep
    -- the actions on an area leave the ledger alone
  | skipAreaToday => exact (skipAreaToday_ok h).commandStep
  | setNativeValue => exact (setNativeValue_ok h).commandStep

theorem StateCommand.run_cases {c : StateCommand} (h : c.run s = .ok s') :
    RewritesOrSeals s.ledger s'.ledger :=
  (run_step h).rewritesOrSeals

/-- **Every command** rewrites the ledger without a dispatch, dispatches in turn, or seals a
new block at its end. -/
theorem QueueCommand.run_step {c : QueueCommand} (h : c.run L = .ok L') : CommandStep L L' := by
  cases c with
  | ledger command => exact command.run_step h
  | completeJobAndAdvancePlan =>
    obtain ⟨result, h_result, h⟩ := bind_eq_ok.mp h
    obtain rfl := pure_eq_ok.mp h
    exact .of_moved (QueueLedger.movesTo_subset .completed)
      (completeJobAndAdvancePlan_rewrites h_result)
  | underPlan plan command =>
    obtain ⟨s, h_s, h_run⟩ := bind_eq_ok.mp h
    obtain ⟨s', h_s', h_ledger⟩ := bind_eq_ok.mp h_run
    obtain ⟨-, rfl⟩ := PlannerState.construct_eq_ok.mp h_s
    obtain rfl := pure_eq_ok.mp h_ledger
    exact command.run_step h_s'

theorem QueueCommand.run_cases {c : QueueCommand} (h : c.run L = .ok L') :
    RewritesOrSeals L L' :=
  (run_step h).rewritesOrSeals

/-! ### A planner with one room -/

def kitchenPlan : PlanRevision where
  revisionId := "revision"
  createdAt := 0
  roomPlans := [⟨"kitchen", "robot", true, 1, none, .vacuum, 0, none, none, none⟩]
  checked := rfl

def kitchenSnapshot : PlanSnapshot where
  planRevision := "revision"
  laneId := "robot"
  evaluatedAt := 0
  jobs := [⟨"kitchen", "Kitchen", .null, .vacuum, 0, 0⟩]
  checked := rfl

/-- The identities of one seal: the block, then its job. -/
def kitchenIds (n : ℕ) : String := if n = 0 then "block" else "job"

/-- Nothing has been planned yet. -/
def kitchenState : PlannerState := ⟨kitchenPlan, .empty, by decide⟩

end VacuumPlanner
