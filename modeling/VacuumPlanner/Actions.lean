import VacuumPlanner.Observer

/-!
# Public actions and dispatch commands

The commands the integration hands to its coordinator besides the observations: the
public actions of `public_actions.py`, the number entities of `number.py`, and the
commands of a `start_next` call in `__init__.py` (seal, claim, acceptance and dispatch
quarantine).

Three things are parameters because they are not part of the repository: the time zone
database (`zoneInfo`, which maps a zone name to the next local midnight), the ISO
rendering of a date (`isoDate`), and the resolution of Home Assistant's registries,
which `startNextCommand` takes as the function that evaluates the plan.
-/

namespace VacuumPlanner

open Framework

/-- `timedelta(days=1)`. -/
def microsecondsPerDay : ℤ := 86400000000

/-- Replace the rules of one room and stamp a new plan revision. -/
def reviseRoom (state : PlannerState) (areaId revisionId : String) (createdAt : Instant)
    (change : RoomPlan → RoomPlan) : Except PyError PlannerState := do
  let plans ← rewriteWhere RoomPlan.postInit (·.areaId = areaId) change
    state.planRevision.roomPlans
  let revision ← PlanRevisionFields.construct ⟨revisionId, createdAt, plans⟩
  PlannerState.construct revision state.ledger

/-- `postpone_area`. Here the sum never overflows. Its callers add at most 365 days (the schema of
the service) to the wall clock, which stays in range up to the year 9998; the sums of the due
dates have no such bound, and `addDays` keeps theirs. -/
def postponeArea (state : PlannerState) (areaId : String) (now : Instant) (days : ℤ)
    (revisionId : String) : Except PyError PlannerState := do
  raiseIf (days ≤ 0) (.valueError "postpone_days must be positive")
  raiseIf (areaId ∉ state.planRevision.roomPlans.map (·.areaId)) (.keyError areaId)
  reviseRoom state areaId revisionId now fun plan =>
    { plan with skipUntil := some (now + days * microsecondsPerDay) }

/-- `skip_area_today`. -/
def skipAreaToday (zoneInfo : String → Option (Instant → Instant)) (state : PlannerState)
    (areaId : String) (now : Instant) (timeZone revisionId : String) :
    Except PyError PlannerState := do
  let nextMidnight ← orRaise (zoneInfo timeZone)
    (.valueError "Home Assistant time zone is invalid")
  raiseIf (areaId ∉ state.planRevision.roomPlans.map (·.areaId)) (.keyError areaId)
  reviseRoom state areaId revisionId now fun plan =>
    { plan with skipUntil := some (nextMidnight now) }

/-- The `_plan_field` of the three number entities of a room. -/
inductive RoomNumber where
  | vacuumInterval
  | vacuumAndMopInterval
  | priority
  deriving DecidableEq

/-- `_attr_native_min_value`. -/
def RoomNumber.minValue : RoomNumber → ℤ
  | .vacuumInterval | .vacuumAndMopInterval => 1
  | .priority => 0

/-- `_attr_native_max_value`. -/
def RoomNumber.maxValue : RoomNumber → ℤ
  | .vacuumInterval | .vacuumAndMopInterval => 365
  | .priority => 2147483647

/-- `_replace_room_value`. -/
def RoomNumber.replaceRoomValue (value : ℤ) (room : RoomPlan) : RoomNumber → RoomPlan
  | .vacuumInterval => { room with vacuumIntervalDays := value }
  | .vacuumAndMopInterval => { room with vacuumAndMopIntervalDays := some value }
  | .priority => { room with priority := value }

/-- The whole number `async_set_native_value` accepts from a float. -/
def wholeNumber : PyFloat → Except PyError ℤ
  | .finite q =>
    if q.den = 1 then .ok q.num
    else .error (.valueError "Vacuum Planner number values must be whole numbers")
  | _ => .error (.valueError "Vacuum Planner number values must be whole numbers")

/-- The command of `VacuumPlannerRoomNumber.async_set_native_value`. -/
def setNativeValue (number : RoomNumber) (areaId : String) (value : PyFloat) (now : Instant)
    (revisionId : String) (state : PlannerState) : Except PyError PlannerState := do
  let integerValue ← wholeNumber value
  raiseIf (¬ (number.minValue ≤ integerValue ∧ integerValue ≤ number.maxValue))
    (.valueError "Vacuum Planner number value is outside the supported range")
  let current := state.planRevision
  let changed := current.roomPlans.map fun room =>
    if room.areaId = areaId then number.replaceRoomValue integerValue room else room
  -- the value it has already: no new revision
  if changed = current.roomPlans then
    return state
  -- a stamp strictly later than that of the current revision
  reviseRoom state areaId revisionId (max now (current.createdAt + 1)) fun room =>
    number.replaceRoomValue integerValue room

/-- The message of a refused `cancel_block`. -/
def cancelRefused : PyError :=
  .valueError
    "block may have external work; adapter cancellation confirmation is not implemented"

/-- `cancel_pending_block`. -/
def cancelPendingBlock (state : PlannerState) (blockId : String) (cancelledAt : Instant) :
    Except PyError PlannerState := do
  let block ← orRaise (state.ledger.blocks.find? (·.blockId = blockId)) (.keyError blockId)
  raiseIf (block.state ≠ .sealed) cancelRefused
  let jobs := state.ledger.jobs.filter (·.blockId = blockId)
  raiseIf (jobs = [] ∨ ∃ job ∈ jobs, job.state ≠ .pending) cancelRefused
  let ledger ← jobs.foldlM
    (fun ledger job =>
      ledger.replaceJobState job.jobId .cancelled cancelledAt false none none none)
    state.ledger
  let ledger ← ledger.replaceBlockState blockId .cancelled cancelledAt none
  PlannerState.construct state.planRevision ledger

/-! ### The commands of a dispatch -/

/-- `_NativeDispatchClaim.__call__`: the new state, and whether this caller claimed the
block. -/
def nativeDispatchClaim (blockId : String) (now : Instant) (state : PlannerState) :
    Except PyError (PlannerState × Bool) := do
  let block ← orRaise (state.ledger.blocks.find? (·.blockId = blockId)) (.keyError blockId)
  -- another caller has claimed it, or it was cancelled
  if block.state ≠ .sealed then
    return (state, false)
  let ledger ← beginNativeBatchCommit state.ledger blockId now
  let claimed ← PlannerState.construct state.planRevision ledger
  return (claimed, true)

/-- The block states in which an observation has already settled a dispatch. -/
def settledByObservation : List BlockState := [.running, .completed, .failed, .uncertain]

/-- `_record_dispatch_acceptance`. -/
def recordDispatchAcceptance (state : PlannerState) (blockId : String) (jobs : List QueueJob)
    (acceptedAt : Instant) : Except PyError PlannerState := do
  let block ← orRaise (state.ledger.blocks.find? (·.blockId = blockId)) .stopIteration
  -- the report of the robot came before the acceptance
  if block.state ∈ settledByObservation then
    return state
  let ledger ← state.ledger.replaceBlockState blockId .committed acceptedAt none
  let ledger ← jobs.foldlM
    (fun ledger job =>
      ledger.replaceJobState job.jobId .accepted acceptedAt false none none none)
    ledger
  PlannerState.construct state.planRevision ledger

/-- `record_uncertain` of `_async_quarantine_dispatch`. -/
def recordUncertain (state : PlannerState) (blockId : String) (reconciledAt : Instant) :
    Except PyError PlannerState := do
  let block ← orRaise (state.ledger.blocks.find? (·.blockId = blockId)) .stopIteration
  -- the report of the robot came before the quarantine
  if block.state ∈ settledByObservation then
    return state
  let ledger ← quarantineBlockDispatch state.ledger blockId reconciledAt
  PlannerState.construct state.planRevision ledger

/-- `resolve_uncertain_run` as `_apply_queue_mutation` runs it. -/
def resolveUncertainRun (state : PlannerState) (jobId : String)
    (resolution : UncertainResolution) (now : Instant) : Except PyError PlannerState := do
  let ledger ← resolveUncertainJob state.ledger jobId resolution now
  PlannerState.construct state.planRevision ledger

/-- What the seal command of `start_next` leaves behind in its closure. -/
inductive SealOutcome where
  | dryRunBlockCancelled
  | result (result : StartResult)
  deriving DecidableEq

/-- What `start_next` reads of its runtime, its call and Home Assistant. -/
structure StartNextCall where
  planningEnabled : Bool
  dryRun : Bool
  evaluatedAt : Instant
  idempotencyKey : Option String
  idFactory : ℕ → String
  isoDate : Instant → String
  /-- Resolve the area bindings and evaluate the plan with them. -/
  evaluatePlan : PlannerState → Except PyError PlanSnapshot

/-- The seal command of `async_start_next`: the new state and the closure's outcome. -/
def startNextCommand (call : StartNextCall) (state : PlannerState) :
    Except PyError (PlannerState × SealOutcome) := do
  raiseIf (call.planningEnabled = false) (.serviceValidationError "Vacuum Planner is paused")
  let incompatible := state.ledger.blocks.find? fun block =>
    block.state = .sealed ∧ block.dispatchStrategy = .plannerSequential
  let recovery := state.ledger.blocks.find? fun block =>
    block.state = .sealed ∧ block.dispatchStrategy = .nativeBatch
  match call.dryRun, incompatible, recovery with
  -- what a dry run has sealed is never sent: it is cancelled, and the call ends
  | false, some block, _ => do
    let cancelled ← cancelPendingBlock state block.blockId call.evaluatedAt
    return (cancelled, .dryRunBlockCancelled)
  -- a block that was sealed and not sent is sent now
  | false, none, some block =>
    return (state, .result ⟨.existing, state.ledger, some block,
      jobsForBlock state.ledger block⟩)
  | _, _, _ => do
    let dueSnapshot ← call.evaluatePlan state
    -- one room at a time: the first of the rooms that are due
    let snapshot ← PlanSnapshotFields.construct
      ⟨dueSnapshot.planRevision, dueSnapshot.laneId, dueSnapshot.evaluatedAt,
        dueSnapshot.jobs.take 1⟩
    let idempotencyKey := call.idempotencyKey.getD
      ("start_next:" ++ state.planRevision.revisionId ++ ":" ++
        call.isoDate call.evaluatedAt)
    let result ← startDueBlock state.ledger snapshot snapshot.laneId idempotencyKey
      call.evaluatedAt call.idFactory
      (if call.dryRun then .plannerSequential else .nativeBatch) .plannerAtomic false none
    if result.ledger = state.ledger then
      return (state, .result result)
    let updated ← PlannerState.construct state.planRevision result.ledger
    return (updated, .result result)

end VacuumPlanner
