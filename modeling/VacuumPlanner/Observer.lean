import VacuumPlanner.Domain.Queue

/-!
# Observations

The commands of `integration_observer.py`: what a report of the vacuum does to the
persisted state. `observe` selects the command of an outcome; a report normalized to
`NO_CHANGE` never becomes a command.

The source iterates a `set` of block ids in `_running`. Here the blocks are taken in
ledger order; the loop bodies of two blocks touch disjoint records.
-/

namespace VacuumPlanner

open Framework

/-- The outcomes of `ObservationOutcome` that are applied as commands. -/
inductive ObservationOutcome where
  | running
  | completed
  | failed
  | uncertain
  deriving DecidableEq

/-- `_dispatching_block_ids`: the committing blocks with a job sent no later than the
report. -/
def dispatchingBlockIds (ledger : QueueLedger) (observedAt : Instant) : List String :=
  let committing := (ledger.blocks.filter (·.state = .committing)).map (·.blockId)
  (ledger.jobs.filter fun job =>
      decide (job.blockId ∈ committing ∧ job.state = .dispatching ∧
        ∃ sentAt ∈ job.sentAt, sentAt ≤ observedAt)).map (·.blockId)

/-- The bulk part of `_running`: a committing block the report proves to have started. -/
def startDispatching (ledger : QueueLedger) (dispatchingBlocks : List String)
    (observedAt : Instant) : Except PyError QueueLedger :=
  if dispatchingBlocks = [] then .ok ledger
  else do
    let blocks ← rewriteWhere QueueBlock.postInit
      (fun block => decide (block.blockId ∈ dispatchingBlocks))
      (fun block => { block with state := .running, committedAt := some observedAt })
      ledger.blocks
    let jobs ← rewriteWhere QueueJob.postInit
      (fun job => decide (job.blockId ∈ dispatchingBlocks ∧ job.state = .dispatching))
      (fun job => { job with state := .running, startedAt := some observedAt })
      ledger.jobs
    { ledger.toLedgerFields with
      revision := ledger.revision + 1, blocks, jobs,
      lastReconciledAt := some observedAt }.construct

/-- The loop body of `_running` for one active block. -/
def startActiveBlock (observedAt : Instant) (ledger : QueueLedger) (blockId : String) :
    Except PyError QueueLedger := do
  let block ← orRaise (ledger.blocks.find? (·.blockId = blockId)) .stopIteration
  let ledger ←
    -- a block of the bulk part is running by now
    if block.state = .committed then
      ledger.replaceBlockState blockId .running observedAt none
    else pure ledger
  (ledger.jobs.filter fun job => decide (job.blockId = blockId ∧ job.state = .accepted)).foldlM
    (fun ledger job =>
      ledger.replaceJobState job.jobId .running observedAt false none none none)
    ledger

/-- The `active_blocks` of `_running`. -/
def activeBlockIds (ledger : QueueLedger) (dispatchingBlocks : List String) : List String :=
  (ledger.blocks.filter fun block =>
    decide (block.state ∈ [BlockState.committed, .running] ∨
      block.blockId ∈ dispatchingBlocks)).map (·.blockId)

/-- `_running`. -/
def observeRunning (state : PlannerState) (observedAt : Instant) :
    Except PyError PlannerState := do
  let dispatchingBlocks := dispatchingBlockIds state.ledger observedAt
  let activeBlocks := activeBlockIds state.ledger dispatchingBlocks
  if activeBlocks = [] then
    return state
  let ledger ← startDispatching state.ledger dispatchingBlocks observedAt
  let ledger ← activeBlocks.foldlM (startActiveBlock observedAt) ledger
  PlannerState.construct state.planRevision ledger

/-- The loop body of `_completed` for one running job. -/
def completeRunningJob (observedAt : Instant) (current : PlannerState)
    (entry : String × String) : Except PyError PlannerState := do
  let result ← completeJobAndAdvancePlan current.ledger current.planRevision entry.1
    observedAt entry.2
  PlannerState.construct result.planRevision result.ledger

/-- `_completed`. `revisionIds` lists the plan revision ids `uuid4` hands out. -/
def observeCompleted (state : PlannerState) (observedAt : Instant)
    (revisionIds : ℕ → String) : Except PyError PlannerState :=
  let running := state.ledger.jobs.filter (·.state = .running)
  (running.zipIdx.map fun entry => (entry.1.jobId, revisionIds entry.2)).foldlM
    (completeRunningJob observedAt) state

/-- The blocks a failed or uncertain report affects. -/
def affectedBlockIds (ledger : QueueLedger) (observedAt : Instant) : List String :=
  (ledger.jobs.filter (·.state ∈ [JobState.accepted, .running])).map (·.blockId) ++
    dispatchingBlockIds ledger observedAt

/-- `_failed`. -/
def observeFailed (state : PlannerState) (observedAt : Instant) :
    Except PyError PlannerState := do
  let affected := affectedBlockIds state.ledger observedAt
  if affected = [] then
    return state
  let jobs ← rewriteWhere QueueJob.postInit
    (fun job => decide (job.blockId ∈ affected ∧ job.state ∈ activeJobStates))
    (fun job =>
      { job with
        state := .failed, finishedAt := some observedAt,
        errorCode := some "vacuum_reported_failure" })
    state.ledger.jobs
  let blocks ← rewriteWhere QueueBlock.postInit
    (fun block => decide (block.blockId ∈ affected))
    (fun block => { block with state := .failed, completedAt := some observedAt })
    state.ledger.blocks
  let ledger ← LedgerFields.construct
    { state.ledger.toLedgerFields with
      revision := state.ledger.revision + 1, blocks, jobs,
      lastReconciledAt := some observedAt }
  PlannerState.construct state.planRevision ledger

/-- `_uncertain`. -/
def observeUncertain (state : PlannerState) (observedAt : Instant) :
    Except PyError PlannerState := do
  let affected := affectedBlockIds state.ledger observedAt
  if affected = [] then
    return state
  let jobs ← rewriteWhere QueueJob.postInit
    (fun job => decide (job.blockId ∈ affected ∧ job.state ∈ activeJobStates))
    (fun job => { job with state := .uncertain })
    state.ledger.jobs
  let blocks ← rewriteWhere QueueBlock.postInit
    (fun block => decide (block.blockId ∈ affected))
    (fun block => { block with state := .uncertain })
    state.ledger.blocks
  let ledger ← LedgerFields.construct
    { state.ledger.toLedgerFields with
      revision := state.ledger.revision + 1, blocks, jobs,
      lastReconciledAt := some observedAt }
  PlannerState.construct state.planRevision ledger

/-- The command of an outcome, as `async_apply_observation` selects it. -/
def observe (outcome : ObservationOutcome) (observedAt : Instant) (revisionIds : ℕ → String)
    (state : PlannerState) : Except PyError PlannerState :=
  match outcome with
  | .running => observeRunning state observedAt
  | .completed => observeCompleted state observedAt revisionIds
  | .failed => observeFailed state observedAt
  | .uncertain => observeUncertain state observedAt

end VacuumPlanner
