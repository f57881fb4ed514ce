import VacuumPlanner.Domain.Models

/-!
# The queue ledger

`QueueLedger` of `domain/models.py`: the ordered blocks and jobs of the planner, the
ownership checks its constructor runs, and the two guarded transitions every other
command is built from or bypasses, `replaceBlockState` and `replaceJobState`.

A `QueueLedger` carries the proof that its checks passed, so "every valid ledger" is
a quantifier over the type. What the checks amount to is stated in
`Domain.LedgerFacts`.
-/

namespace VacuumPlanner

open Framework

/-! ### The checks of `QueueLedger.__post_init__` -/

/-- `_validate_terminal_block_result`. -/
def validateTerminalBlockResult (blockState : BlockState) (blockJobs : List QueueJob) :
    Except PyError Unit := do
  let states := (blockJobs.map (·.state)).toFinset
  raiseIf (blockState = .completed ∧ states ≠ {.completed})
    (.valueError "completed block requires all jobs completed")
  raiseIf (blockState = .partial' ∧ (states = ∅ ∨ (¬ ∀ s ∈ states, s.terminal = true) ∨
      states.card < 2 ∨ JobState.completed ∉ states))
    (.valueError "partial block requires mixed terminal job results")
  raiseIf (blockState = .failed ∧ (∀ s ∈ states, s.terminal = true) ∧
      JobState.failed ∉ states)
    (.valueError "failed block requires a failed job")

/-- `_validate_unique_queue_ids`. -/
def validateUniqueQueueIds (blocks : List QueueBlock) (jobs : List QueueJob) :
    Except PyError Unit := do
  raiseIf (¬ (blocks.map (·.blockId)).Nodup) (.valueError "duplicate block_id in ledger")
  raiseIf (¬ (jobs.map (·.jobId)).Nodup) (.valueError "duplicate job_id in ledger")
  raiseIf (∃ id ∈ blocks.map (·.blockId), id ∈ jobs.map (·.jobId))
    (.valueError "block and job identities must be globally unique")

/-- The states an external run gives a job. -/
def activeStates : List JobState := [.dispatching, .accepted, .running, .uncertain]

/-- The job states a block does not admit before its commit boundary. -/
def incompatibleStates (block : QueueBlock) : List JobState :=
  if block.state ∈ [BlockState.draft, .validating, .sealed] then activeStates
  else if block.state = .committing ∧ block.dispatchStrategy = .nativeBatch then
    activeStates.erase .dispatching
  else if block.state = .committing then activeStates
  else []

/-- `_validate_block_job_compatibility`. -/
def validateBlockJobCompatibility (block : QueueBlock) (blockJobs : List QueueJob) :
    Except PyError Unit :=
  raiseIf (∃ job ∈ blockJobs, job.state ∈ incompatibleStates block)
    (.valueError "job state is incompatible with parent block")

/-- `jobs_by_id[job_id]` for each id of the block. -/
def listedJobs (jobs : List QueueJob) (block : QueueBlock) : List QueueJob :=
  block.jobIds.filterMap fun jobId => jobs.find? (·.jobId = jobId)

/-- The loop of `_validate_ledger_references` over the blocks. `seen` holds the blocks
already visited, the latest first: `last_created_by_lane` is the creation of the first
of them in the lane. -/
def validateBlocks (jobs : List QueueJob) (seen : List QueueBlock) :
    List QueueBlock → Except PyError Unit
  | [] => .ok ()
  | block :: rest => do
    -- the order is by creation within a lane, and equal times are in order
    let previous := seen.find? fun earlier => earlier.laneId = block.laneId
    raiseIf (∃ earlier ∈ previous, block.createdAt < earlier.createdAt)
      (.valueError "lane blocks must remain append ordered")
    raiseIf (∃ jobId ∈ block.jobIds, jobId ∉ jobs.map (·.jobId))
      (.valueError "block references unknown job_id")
    let blockJobs := listedJobs jobs block
    raiseIf (∃ job ∈ blockJobs, job.blockId ≠ block.blockId)
      (.valueError "job references wrong block_id")
    raiseIf (blockJobs.map (·.position) ≠ (List.range blockJobs.length).map Int.ofNat)
      (.valueError "job positions must be contiguous and ordered")
    validateBlockJobCompatibility block blockJobs
    validateTerminalBlockResult block.state blockJobs
    raiseIf (block.state.terminal = true ∧ ∃ job ∈ blockJobs, job.state.terminal = false)
      (.valueError "terminal block requires terminal jobs")
    validateBlocks jobs (block :: seen) rest

/-- `_validate_ledger_references`. -/
def validateLedgerReferences (blocks : List QueueBlock) (jobs : List QueueJob) :
    Except PyError Unit := do
  validateUniqueQueueIds blocks jobs
  raiseIf (∃ job ∈ jobs, job.blockId ∉ blocks.map (·.blockId))
    (.valueError "job references unknown parent block")
  validateBlocks jobs [] blocks
  raiseIf (∃ job ∈ jobs, job.jobId ∉ blocks.flatMap (·.jobIds))
    (.valueError "ledger contains an orphan job not listed by its parent block")

structure LedgerFields where
  schemaVersion : ℤ
  revision : ℤ
  blocks : List QueueBlock
  jobs : List QueueJob
  activeBlockId : Option String
  lastReconciledAt : Option Instant
  deriving DecidableEq

/-- The checks of the blocks and jobs, run as they were built, and of the ledger. -/
def LedgerFields.postInit (ledger : LedgerFields) : Except PyError Unit := do
  checkAll QueueBlock.postInit ledger.blocks
  checkAll QueueJob.postInit ledger.jobs
  raiseIf (ledger.schemaVersion ≠ 1) (.valueError "unsupported schema_version")
  raiseIf (ledger.revision < 0) (.valueError "revision must not be negative")
  validateLedgerReferences ledger.blocks ledger.jobs
  raiseIf (∃ id ∈ ledger.activeBlockId, id ∉ ledger.blocks.map (·.blockId))
    (.valueError "active_block_id references unknown block")

/-- The immutable, authoritative ordered planner queue. -/
structure QueueLedger extends LedgerFields where
  checked : toLedgerFields.postInit = .ok ()
  deriving DecidableEq

def LedgerFields.construct (ledger : LedgerFields) : Except PyError QueueLedger :=
  match h : ledger.postInit with
  | .ok () => .ok ⟨ledger, h⟩
  | .error e => .error e

/-- Construction succeeds exactly on the fields of a ledger. -/
theorem LedgerFields.construct_eq_ok {fields : LedgerFields} {ledger : QueueLedger} :
    fields.construct = .ok ledger ↔ ledger.toLedgerFields = fields := by
  unfold LedgerFields.construct
  constructor
  · intro h
    split at h
    · cases h; rfl
    · cases h
  · rintro rfl
    split
    · rfl
    · next e h => rw [ledger.checked] at h; cases h

namespace QueueLedger

/-- `QueueLedger.empty`. -/
def empty : QueueLedger where
  schemaVersion := 1
  revision := 0
  blocks := []
  jobs := []
  activeBlockId := none
  lastReconciledAt := none
  checked := rfl

/-! ### Guarded transitions -/

/-- The `replace` a block transition performs on the current block. -/
def changedBlock (newState : BlockState) (changedAt : Instant) (adapterRunId : Option String)
    (current : QueueBlock) : QueueBlock :=
  if newState = .committed then
    { current with
      state := newState, committedAt := some changedAt,
      adapterRunId := adapterRunId.or current.adapterRunId }
  else if newState = .completed ∨ newState = .partial' then
    { current with state := newState, completedAt := some changedAt }
  -- a block that fails or is cancelled here gets no completion date
  else { current with state := newState }

/-- `QueueLedger.replace_block_state`. -/
def replaceBlockState (ledger : QueueLedger) (blockId : String) (newState : BlockState)
    (changedAt : Instant) (adapterRunId : Option String) : Except PyError QueueLedger := do
  raiseIf (∃ runId ∈ adapterRunId, isBlank runId)
    (.valueError "adapter_run_id must not be empty")
  let current ← orRaise (ledger.blocks.find? (·.blockId = blockId)) (.keyError blockId)
  raiseIf (newState ∉ blockTransitions current.state)
    (.valueError ("invalid block transition: " ++ current.state.value ++ " -> " ++
      newState.value))
  let blockJobs := ledger.jobs.filter (·.blockId = blockId)
  validateTerminalBlockResult newState blockJobs
  raiseIf (newState.terminal = true ∧ ∃ job ∈ blockJobs, job.state.terminal = false)
    (.valueError "terminal block requires terminal jobs")
  let blocks ← rewriteWhere QueueBlock.postInit (·.blockId = blockId)
    (changedBlock newState changedAt adapterRunId) ledger.blocks
  { ledger.toLedgerFields with revision := ledger.revision + 1, blocks }.construct

/-- `_validate_job_dispatch`. -/
def validateJobDispatch (parent : QueueBlock) (current : QueueJob) (blocks : List QueueBlock)
    (jobs : List QueueJob) : Except PyError Unit := do
  raiseIf (parent.state ∉ [BlockState.committed, .running])
    (.valueError "dispatch requires a committed parent block")
  -- earlier in the queue, which `append ordered` makes earlier in time
  raiseIf (∃ block ∈ blocks.takeWhile (· ≠ parent),
      block.laneId = parent.laneId ∧ block.state.terminal = false)
    (.valueError "earlier lane block is not terminal")
  raiseIf (parent.dispatchStrategy = .plannerSequential ∧ ∃ job ∈ jobs,
      job.blockId = parent.blockId ∧ job.position < current.position ∧
        job.state.terminal = false)
    (.valueError "previous sequential job is not terminal")
  raiseIf (parent.dispatchStrategy = .plannerSequential ∧ ∃ job ∈ jobs,
      job.blockId = parent.blockId ∧ current.position < job.position ∧ job.state ≠ .pending)
    (.valueError "later sequential job has already advanced")

/-- `a or b` on optional strings: the empty string is falsy. -/
def orElse (a b : Option String) : Option String :=
  match a with
  | some s => if s = "" then b else some s
  | none => b

/-- The `replace` a job transition performs on the current job. -/
def changedJob (newState : JobState) (changedAt : Instant)
    (adapterToken errorCode errorDetail : Option String) (current : QueueJob) : QueueJob :=
  -- a new attempt: what the last one left is cleared
  if newState = .dispatching then
    { current with
      state := newState, attempt := current.attempt + 1, adapterToken := none,
      sentAt := some changedAt, startedAt := none, finishedAt := none,
      errorCode := errorCode, errorDetail := errorDetail }
  else if newState = .running then
    { current with
      state := newState, adapterToken := orElse adapterToken current.adapterToken,
      startedAt := some changedAt, errorCode := errorCode, errorDetail := errorDetail }
  else if newState.terminal = true then
    { current with
      state := newState, adapterToken := orElse adapterToken current.adapterToken,
      finishedAt := some changedAt, errorCode := errorCode, errorDetail := errorDetail }
  else
    { current with
      state := newState, adapterToken := orElse adapterToken current.adapterToken,
      errorCode := errorCode, errorDetail := errorDetail }

/-- `QueueLedger.replace_job_state`. -/
def replaceJobState (ledger : QueueLedger) (jobId : String) (newState : JobState)
    (changedAt : Instant) (adapterConfirmed : Bool)
    (adapterToken errorCode errorDetail : Option String) : Except PyError QueueLedger := do
  let current ← orRaise (ledger.jobs.find? (·.jobId = jobId)) (.keyError jobId)
  let parent ← orRaise (ledger.blocks.find? (·.blockId = current.blockId)) .stopIteration
  raiseIf (parent.state.terminal = true)
    (.valueError "job transition is forbidden under a terminal parent block")
  raiseIf (parent.state = .uncertain)
    (.valueError "job transition is forbidden under an uncertain parent block")
  -- the order of dispatches is checked before the transition table
  if newState = .dispatching then
    validateJobDispatch parent current ledger.blocks ledger.jobs
  raiseIf (newState ∉ jobTransitions current.state)
    (.valueError ("invalid job transition: " ++ current.state.value ++ " -> " ++
      newState.value))
  raiseIf (newState = .cancelled ∧ current.state ∈ [JobState.accepted, .running] ∧
      adapterConfirmed = false)
    (.valueError "adapter confirmation is required for cancellation")
  let jobs ← rewriteWhere QueueJob.postInit (·.jobId = jobId)
    (changedJob newState changedAt adapterToken errorCode errorDetail) ledger.jobs
  { ledger.toLedgerFields with revision := ledger.revision + 1, jobs }.construct

end QueueLedger

/-! ### The persistable root -/

/-- One lane's plan and its authoritative queue. The blocks of the queue are in the
lane of the plan, once the plan has a room. -/
structure PlannerState where
  planRevision : PlanRevision
  ledger : QueueLedger
  lane : ∀ room ∈ planRevision.roomPlans.head?, ∀ block ∈ ledger.blocks,
    block.laneId = room.laneId
  deriving DecidableEq

/-- `PlannerState(plan_revision, ledger)`. -/
def PlannerState.construct (planRevision : PlanRevision) (ledger : QueueLedger) :
    Except PyError PlannerState :=
  if h : ∀ room ∈ planRevision.roomPlans.head?, ∀ block ∈ ledger.blocks,
      block.laneId = room.laneId then
    .ok ⟨planRevision, ledger, h⟩
  else .error (.valueError "plan lane does not match ledger lane")

theorem PlannerState.construct_eq_ok {plan : PlanRevision} {ledger : QueueLedger}
    {state : PlannerState} : PlannerState.construct plan ledger = .ok state ↔
      state.planRevision = plan ∧ state.ledger = ledger := by
  unfold PlannerState.construct
  split
  · next h =>
    constructor
    · intro h'
      cases h'
      exact ⟨rfl, rfl⟩
    · rintro ⟨rfl, rfl⟩
      rfl
  · next h =>
    constructor
    · intro h'
      cases h'
    · rintro ⟨rfl, rfl⟩
      exact absurd state.lane h

end VacuumPlanner
