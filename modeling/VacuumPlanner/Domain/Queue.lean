import VacuumPlanner.Domain.Ledger

/-!
# Queue commands

The pure commands of `domain/queue.py`: sealing a snapshot, claiming a sealed block
for a native batch, quarantining a dispatch whose outcome is unknown, resolving it,
and completing a job together with its plan. A command either returns the new value
or raises, and a command that raises has no effect.

`uuid4` and the other identity factories are a function `ℕ → String` that lists the
identities in the order of the calls.
-/

namespace VacuumPlanner

open Framework

/-- `_ACTIVE_JOB_STATES`. -/
def activeJobStates : List JobState := [.dispatching, .accepted, .running]

/-- `_has_external_correlation`. -/
def hasExternalCorrelation (value : Option String) : Bool :=
  match value with
  | some text => !isBlank text
  | none => false

/-- `_is_uncorrelated_active`. -/
def isUncorrelatedActive (job : QueueJob) : Bool :=
  decide (job.state ∈ activeJobStates) && !hasExternalCorrelation job.adapterToken

inductive StartStatus where
  | created
  | existing
  | noWork
  deriving DecidableEq

/-- The one operator-confirmed safe outcome of an uncertain dispatch. -/
inductive UncertainResolution where
  | retrySafe
  deriving DecidableEq

structure StartResult where
  status : StartStatus
  ledger : QueueLedger
  block : Option QueueBlock
  jobs : List QueueJob
  deriving DecidableEq

structure CompletionResult where
  ledger : QueueLedger
  planRevision : PlanRevision
  deriving DecidableEq

/-- `_jobs_for_block`. The lookups cannot miss: a ledger lists no unknown job. -/
def jobsForBlock (ledger : QueueLedger) (block : QueueBlock) : List QueueJob :=
  listedJobs ledger.jobs block

/-- `_latest_completion`. -/
def latestCompletion (current : Option Instant) (completedAt : Instant) : Instant :=
  match current with
  | none => completedAt
  | some last => max last completedAt

/-- The `replace` a completed job performs on the plan of its room. -/
def advanceRoom (job : QueueJob) (completedAt : Instant) (room : RoomPlan) : RoomPlan :=
  { room with
    lastCompletedVacuumAt := some (latestCompletion room.lastCompletedVacuumAt completedAt)
    lastCompletedVacuumAndMopAt :=
      if job.mode = .vacuumAndMop then
        some (latestCompletion room.lastCompletedVacuumAndMopAt completedAt)
      else room.lastCompletedVacuumAndMopAt }

/-- The part of `complete_job_and_advance_plan` that closes the parent block once every
job under it has finished. -/
def closeCompletedBlock (completedLedger : QueueLedger) (parent : QueueBlock) :
    Except PyError QueueLedger := do
  let blockJobs := completedLedger.jobs.filter (·.blockId = parent.blockId)
  if blockJobs.all (·.state.terminal) then do
    -- every job that has ended has a finish, so here the `max` is over some
    let blockCompletedAt ← orRaise (blockJobs.filterMap (·.finishedAt)).max?
      (.valueError "max() arg is an empty sequence")
    let finalState :=
      if blockJobs.all (·.state = .completed) then BlockState.completed else .partial'
    -- a committed block has to run before it can complete
    let runningLedger ←
      if parent.state = .committed then
        completedLedger.replaceBlockState parent.blockId .running blockCompletedAt none
      else pure completedLedger
    runningLedger.replaceBlockState parent.blockId finalState blockCompletedAt none
  else pure completedLedger

/-- `complete_job_and_advance_plan`. -/
def completeJobAndAdvancePlan (ledger : QueueLedger) (currentPlan : PlanRevision)
    (jobId : String) (completedAt : Instant) (nextRevisionId : String) :
    Except PyError CompletionResult := do
  let job ← orRaise (ledger.jobs.find? (·.jobId = jobId)) (.keyError jobId)
  let parent ← orRaise (ledger.blocks.find? (·.blockId = job.blockId)) .stopIteration
  raiseIf (∃ room ∈ currentPlan.roomPlans.head?, room.laneId ≠ parent.laneId)
    (.valueError "plan lane does not match job lane")
  let completedLedger ← ledger.replaceJobState jobId .completed completedAt false none none none
  let closedLedger ← closeCompletedBlock completedLedger parent
  if currentPlan.roomPlans.any (·.areaId = job.areaId) then do
    let roomPlans ← rewriteWhere RoomPlan.postInit (·.areaId = job.areaId)
      (advanceRoom job completedAt) currentPlan.roomPlans
    -- an older completion moves no timestamp, and then the id may repeat
    raiseIf (roomPlans ≠ currentPlan.roomPlans ∧ nextRevisionId = currentPlan.revisionId)
      (.valueError "next revision ID must differ when room plan changes")
    let advancedPlan ← PlanRevisionFields.construct
      ⟨nextRevisionId, max currentPlan.createdAt completedAt, roomPlans⟩
    return ⟨closedLedger, advancedPlan⟩
  else return ⟨closedLedger, currentPlan⟩

/-- The job a snapshot entry becomes when its block is sealed. -/
def sealedJob (blockId : String) (now : Instant) (jobId : String) (position : ℕ)
    (snapshotJob : SnapshotJob) : QueueJob where
  jobId := jobId
  blockId := blockId
  areaId := snapshotJob.areaId
  areaNameSnapshot := snapshotJob.areaNameSnapshot
  adapterTargetSnapshot := snapshotJob.adapterTargetSnapshot
  mode := snapshotJob.mode
  position := position
  state := .pending
  attempt := 0
  plannedAt := now
  adapterToken := none
  sentAt := none
  startedAt := none
  finishedAt := none
  errorCode := none
  errorDetail := none

/-- The optimistic concurrency check of `start_due_block`. -/
def checkExpectedRevision (ledger : QueueLedger) : Option ℤ → Except PyError Unit
  | none => .ok ()
  | some expected =>
    raiseIf (ledger.revision ≠ expected)
      (.revisionConflictError ("expected revision " ++ toString expected ++ ", found " ++
        toString ledger.revision))

/-- The block `start_due_block` seals. The first call of `idFactory` names the block, the
following ones its jobs. -/
def sealedBlock (snapshot : PlanSnapshot) (laneId idempotencyKey : String) (now : Instant)
    (idFactory : ℕ → String) (dispatchStrategy : DispatchStrategy)
    (guarantee : BlockGuarantee) : QueueBlock where
  blockId := idFactory 0
  kind := .scheduled
  laneId := laneId
  planRevision := snapshot.planRevision
  idempotencyKey := idempotencyKey
  createdAt := now
  sealedAt := some now
  state := .sealed
  jobIds := (List.range snapshot.jobs.length).map fun index => idFactory (index + 1)
  dispatchStrategy := dispatchStrategy
  guarantee := guarantee
  committedAt := none
  completedAt := none
  adapterRunId := none

/-- The jobs `start_due_block` seals. -/
def sealedJobs (snapshot : PlanSnapshot) (now : Instant) (idFactory : ℕ → String) :
    List QueueJob :=
  snapshot.jobs.zipIdx.map fun entry =>
    sealedJob (idFactory 0) now (idFactory (entry.2 + 1)) entry.2 entry.1

/-- `start_due_block`. -/
def startDueBlock (ledger : QueueLedger) (snapshot : PlanSnapshot) (laneId : String)
    (idempotencyKey : String) (now : Instant) (idFactory : ℕ → String)
    (dispatchStrategy : DispatchStrategy) (guarantee : BlockGuarantee)
    (atomicDeviceCommit : Bool) (expectedRevision : Option ℤ) :
    Except PyError StartResult :=
  let existing := ledger.blocks.find? fun block =>
    block.laneId = laneId ∧ block.idempotencyKey = idempotencyKey ∧
      block.state.terminal = false
  -- an open block with the key answers the call before anything is checked
  match existing with
  | some block => .ok ⟨.existing, ledger, some block, jobsForBlock ledger block⟩
  | none => do
    raiseIf (snapshot.laneId ≠ laneId)
      (.valueError "snapshot lane does not match requested lane")
    raiseIf (guarantee = .robotAtomic ∧ dispatchStrategy ≠ .deviceQueue)
      (.valueError "robot_atomic requires device_queue")
    raiseIf (guarantee = .robotAtomic ∧ atomicDeviceCommit = false)
      (.valueError "robot_atomic requires atomic device commit proof")
    checkExpectedRevision ledger expectedRevision
    raiseIf (∃ block ∈ ledger.blocks, block.laneId = laneId ∧ block.state.terminal = false)
      (.laneAlreadyOpenError "lane already has an open block")
    if snapshot.jobs = [] then return ⟨.noWork, ledger, none, []⟩
    -- from here on identities are drawn
    let block :=
      sealedBlock snapshot laneId idempotencyKey now idFactory dispatchStrategy guarantee
    let allocated := block.blockId :: block.jobIds
    let existingIds := ledger.blocks.map (·.blockId) ++ ledger.jobs.map (·.jobId)
    raiseIf (¬ allocated.Nodup ∨ ∃ id ∈ allocated, id ∈ existingIds)
      (.duplicateIdentityError "generated queue identities must be globally unique")
    let jobs := sealedJobs snapshot now idFactory
    -- the checks of the records as they are built, the jobs first
    checkAll QueueJob.postInit jobs
    block.postInit
    let updated ← LedgerFields.construct
      { ledger.toLedgerFields with
        revision := ledger.revision + 1,
        blocks := ledger.blocks ++ [block],
        jobs := ledger.jobs ++ jobs }
    return ⟨.created, updated, some block, jobs⟩

/-- `fail_block_commit`. -/
def failBlockCommit (ledger : QueueLedger) (blockId : String) (failedAt : Instant)
    (errorCode : String) (errorDetail : Option String) : Except PyError QueueLedger := do
  let block ← orRaise (ledger.blocks.find? (·.blockId = blockId)) (.keyError blockId)
  raiseIf (block.state ≠ .committing) (.valueError "block is not committing")
  raiseIf (∃ job ∈ ledger.jobs, job.blockId = blockId ∧ job.state ≠ .pending)
    (.valueError "commit failure requires unsent jobs")
  let jobs ← rewriteWhere QueueJob.postInit (·.blockId = blockId)
    (fun job =>
      { job with
        state := .failed, finishedAt := some failedAt, errorCode := some errorCode,
        errorDetail := errorDetail })
    ledger.jobs
  let blocks ← rewriteWhere QueueBlock.postInit (·.blockId = blockId)
    (fun item => { item with state := .failed }) ledger.blocks
  { ledger.toLedgerFields with revision := ledger.revision + 1, blocks, jobs }.construct

/-- `begin_native_batch_commit`: persist the intent to dispatch before the external
call. -/
def beginNativeBatchCommit (ledger : QueueLedger) (blockId : String) (sentAt : Instant) :
    Except PyError QueueLedger := do
  let block ← orRaise (ledger.blocks.find? (·.blockId = blockId)) (.keyError blockId)
  raiseIf (block.state ≠ .sealed)
    (.valueError "native batch commit requires a sealed block")
  raiseIf (block.dispatchStrategy ≠ .nativeBatch)
    (.valueError "native batch commit requires native batch strategy")
  -- created no later: a block sealed at the same instant counts as earlier
  raiseIf (∃ item ∈ ledger.blocks, item.laneId = block.laneId ∧
      item.createdAt ≤ block.createdAt ∧ item.blockId ≠ block.blockId ∧
      item.state.terminal = false)
    (.valueError "earlier lane block must be terminal before native batch commit")
  let blockJobs := ledger.jobs.filter (·.blockId = blockId)
  raiseIf (blockJobs = [] ∨ ∃ job ∈ blockJobs, job.state ≠ .pending)
    (.valueError "native batch commit requires pending jobs")
  let blocks ← rewriteWhere QueueBlock.postInit (·.blockId = blockId)
    (fun item => { item with state := .committing }) ledger.blocks
  let jobs ← rewriteWhere QueueJob.postInit (·.blockId = blockId)
    (fun job =>
      { job with
        state := .dispatching, attempt := job.attempt + 1, sentAt := some sentAt })
    ledger.jobs
  { ledger.toLedgerFields with revision := ledger.revision + 1, blocks, jobs }.construct

/-- `quarantine_block_dispatch`: quarantine one native batch after an exception. -/
def quarantineBlockDispatch (ledger : QueueLedger) (blockId : String)
    (reconciledAt : Instant) : Except PyError QueueLedger := do
  let block ← orRaise (ledger.blocks.find? (·.blockId = blockId)) (.keyError blockId)
  raiseIf (block.state ≠ .committing)
    (.valueError "dispatch quarantine requires a committing block")
  raiseIf (block.dispatchStrategy ≠ .nativeBatch)
    (.valueError "dispatch quarantine requires native batch strategy")
  let blockJobs := ledger.jobs.filter (·.blockId = blockId)
  raiseIf (blockJobs = [] ∨ ∃ job ∈ blockJobs, job.state ≠ .dispatching)
    (.valueError "dispatch quarantine requires dispatching jobs")
  let blocks ← rewriteWhere QueueBlock.postInit (·.blockId = blockId)
    (fun item => { item with state := .uncertain }) ledger.blocks
  let jobs ← rewriteWhere QueueJob.postInit (·.blockId = blockId)
    (fun job => { job with state := .uncertain }) ledger.jobs
  { ledger.toLedgerFields with
    revision := ledger.revision + 1, blocks, jobs,
    lastReconciledAt := some reconciledAt }.construct

/-- The state a block resumes in once it no longer holds an uncertain job. -/
def resumedState (block : QueueBlock) : BlockState :=
  if block.committedAt ≠ none then .running else .committing

/-- The `replace` an operator's resolution performs on an uncertain job. -/
def resolvedJob (resolvedAt : Instant) (item : QueueJob) : QueueJob :=
  { item with
    state := .failed, finishedAt := some resolvedAt,
    errorCode := some "recovery_retry_safe", errorDetail := none }

/-- `has_remaining_uncertainty`. -/
def hasRemainingUncertainty (jobs : List QueueJob) (block : QueueBlock) : Bool :=
  jobs.any fun item =>
    decide (item.blockId = block.blockId) &&
      (decide (item.state = .uncertain) || isUncorrelatedActive item)

/-- The `replace` a resolution performs on the parent block. -/
def releasedBlock (remaining : Bool) (resolvedAt : Instant) (item : QueueBlock) : QueueBlock :=
  if remaining = true then { item with state := .uncertain }
  -- the robot never accepted the batch, so nothing is left to wait for
  else if item.dispatchStrategy = .nativeBatch ∧ item.committedAt = none then
    { item with state := .failed, completedAt := some resolvedAt }
  else { item with state := resumedState item }

/-- `resolve_uncertain_job`. -/
def resolveUncertainJob (ledger : QueueLedger) (jobId : String)
    (_resolution : UncertainResolution) (resolvedAt : Instant) :
    Except PyError QueueLedger := do
  let job ← orRaise (ledger.jobs.find? (·.jobId = jobId)) (.keyError jobId)
  raiseIf (job.state ≠ .uncertain) (.valueError "job is not uncertain")
  let block ← orRaise (ledger.blocks.find? (·.blockId = job.blockId)) .stopIteration
  raiseIf (block.state ≠ .uncertain)
    (.valueError "uncertain job requires an uncertain parent block")
  let jobs ← rewriteWhere QueueJob.postInit (·.jobId = jobId) (resolvedJob resolvedAt)
    ledger.jobs
  let blocks ← rewriteWhere QueueBlock.postInit (·.blockId = block.blockId)
    (releasedBlock (hasRemainingUncertainty jobs block) resolvedAt) ledger.blocks
  { ledger.toLedgerFields with revision := ledger.revision + 1, blocks, jobs }.construct

/-- `resolve_uncertain_block`. -/
def resolveUncertainBlock (ledger : QueueLedger) (blockId : String)
    (_resolution : UncertainResolution) : Except PyError QueueLedger := do
  let block ← orRaise (ledger.blocks.find? (·.blockId = blockId)) (.keyError blockId)
  raiseIf (block.state ≠ .uncertain) (.valueError "block is not uncertain")
  raiseIf (∃ job ∈ ledger.jobs, job.blockId = blockId ∧ job.state = .uncertain)
    (.valueError "uncertain child jobs must be resolved first")
  raiseIf (∃ job ∈ ledger.jobs, job.blockId = blockId ∧ isUncorrelatedActive job = true)
    (.valueError "uncorrelated active child prevents block release")
  let blocks ← rewriteWhere QueueBlock.postInit (·.blockId = blockId)
    (fun item => { item with state := resumedState item }) ledger.blocks
  { ledger.toLedgerFields with revision := ledger.revision + 1, blocks }.construct

/-- The block states restart recovery reads as active. -/
def activeBlockStates : List BlockState := [.committing, .committed, .running]

/-- The block states restart recovery quarantines: active without an external run, or with
a job that is. -/
def isAmbiguous (jobs : List QueueJob) (block : QueueBlock) : Bool :=
  (decide (block.state ∈ activeBlockStates) && !hasExternalCorrelation block.adapterRunId) ||
    jobs.any fun job => decide (job.blockId = block.blockId) && isUncorrelatedActive job

/-- `quarantine_ambiguous_dispatches`: quarantine every active external state that lacks
a restart correlation. -/
def quarantineAmbiguousDispatches (ledger : QueueLedger) (reconciledAt : Instant) :
    Except PyError QueueLedger := do
  let blocks ← rewriteWhere QueueBlock.postInit
    (fun block => isAmbiguous ledger.jobs block && decide (block.state ∈ activeBlockStates))
    (fun block => { block with state := .uncertain }) ledger.blocks
  -- the jobs are selected for themselves, whatever the state of their block
  let jobs ← rewriteWhere QueueJob.postInit isUncorrelatedActive
    (fun job => { job with state := .uncertain }) ledger.jobs
  { ledger.toLedgerFields with
    revision := ledger.revision + 1, blocks, jobs,
    lastReconciledAt := some reconciledAt }.construct

end VacuumPlanner
