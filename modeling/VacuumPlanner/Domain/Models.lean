import VacuumPlanner.Domain.Json
import VacuumPlanner.Framework.Checked

/-!
# Records of the planner and their construction checks

The records of `domain/models.py`. A record is a plain structure, and `postInit` is
its `__post_init__`: the checks the constructor runs, in the order of the source and
with its messages. The aggregates (`PlanRevision`, `PlanSnapshot` here, `QueueLedger`
in `Domain.Ledger`) carry the proof that their checks passed, so a value of such a
type is one the constructors accept.

An `Instant` is a timezone-aware `datetime`, read as the microsecond it denotes:
aware datetimes are compared as instants, and the awareness check `_require_aware`
is what the type says. Their offsets, which nothing but a sum reads, are added where sums are
formed that may overflow (`Timestamp` in `Domain.Planning`). Enumeration checks
(`_require_enum`, `_require_mode`) are likewise the types themselves.
-/

namespace VacuumPlanner

open Framework

/-- A timezone-aware `datetime`, in microseconds. -/
abbrev Instant := ℤ

/-- The exceptions the modelled code raises. `SchemaVersionError`, `DuplicateIdentityError`,
`LaneAlreadyOpenError` and `RevisionConflictError` are subclasses of `ValueError`;
`TopologyNotReadyError` is one of `RuntimeInactiveError`. `CancelledError` is what a
cancelled coroutine raises at its await. -/
inductive PyError where
  | valueError (message : String)
  | schemaVersionError (version : Json)
  | keyError (key : String)
  | stopIteration
  | overflowError
  | duplicateIdentityError (message : String)
  | laneAlreadyOpenError (message : String)
  | revisionConflictError (message : String)
  | planningValidationError (errors : List String)
  | runtimeInactiveError (message : String)
  | topologyNotReadyError (message : String)
  | serviceValidationError (message : String)
  | osError (message : String)
  | cancelledError
  deriving DecidableEq

/-- The characters `str.strip` removes. -/
def isSpace (c : Char) : Bool :=
  (9 ≤ c.toNat && c.toNat ≤ 13) || (28 ≤ c.toNat && c.toNat ≤ 32) || c.toNat == 133 ||
    c.toNat == 160 || c.toNat == 5760 || (8192 ≤ c.toNat && c.toNat ≤ 8202) ||
    c.toNat == 8232 || c.toNat == 8233 || c.toNat == 8239 || c.toNat == 8287 ||
    c.toNat == 12288

/-- `not value.strip()`. -/
def isBlank (value : String) : Bool := value.toList.all isSpace

/-- `_require_text`. -/
def requireText (name value : String) : Except PyError Unit :=
  raiseIf (isBlank value) (.valueError (name ++ " must not be empty"))

theorem requireText_eq_ok {name value : String} :
    requireText name value = .ok () ↔ ¬ isBlank value = true :=
  raiseIf_eq_ok

/-- The timestamps that are present, in the order listed, are sorted. -/
def Chronological (timestamps : List (Option Instant)) : Prop :=
  (timestamps.filterMap id).Pairwise (· ≤ ·)

instance (timestamps : List (Option Instant)) : Decidable (Chronological timestamps) :=
  inferInstanceAs (Decidable ((timestamps.filterMap id).Pairwise (· ≤ ·)))

/-! ### Enumerations -/

inductive Mode where
  | vacuum
  | vacuumAndMop
  deriving DecidableEq

inductive PreferredMode where
  | vacuum
  | vacuumAndMop
  deriving DecidableEq

inductive BlockKind where
  | scheduled
  deriving DecidableEq

inductive DispatchStrategy where
  | nativeBatch
  | plannerSequential
  | deviceQueue
  deriving DecidableEq

inductive BlockGuarantee where
  | plannerAtomic
  | robotAtomic
  deriving DecidableEq

inductive BlockState where
  | draft
  | validating
  | sealed
  | committing
  | committed
  | running
  | completed
  | rejected
  | cancelled
  | failed
  | uncertain
  | partial'
  deriving DecidableEq

inductive JobState where
  | pending
  | dispatching
  | accepted
  | running
  | completed
  | failed
  | uncertain
  | skipped
  | cancelled
  deriving DecidableEq

def BlockState.value : BlockState → String
  | .draft => "draft"
  | .validating => "validating"
  | .sealed => "sealed"
  | .committing => "committing"
  | .committed => "committed"
  | .running => "running"
  | .completed => "completed"
  | .rejected => "rejected"
  | .cancelled => "cancelled"
  | .failed => "failed"
  | .uncertain => "uncertain"
  | .partial' => "partial"

def JobState.value : JobState → String
  | .pending => "pending"
  | .dispatching => "dispatching"
  | .accepted => "accepted"
  | .running => "running"
  | .completed => "completed"
  | .failed => "failed"
  | .uncertain => "uncertain"
  | .skipped => "skipped"
  | .cancelled => "cancelled"

/-- `_BLOCK_TERMINAL_STATES`. -/
def BlockState.terminal : BlockState → Bool
  | .completed | .rejected | .cancelled | .failed | .partial' => true
  | _ => false

/-- `_JOB_TERMINAL_STATES`. -/
def JobState.terminal : JobState → Bool
  | .completed | .failed | .skipped | .cancelled => true
  | _ => false

/-- `_BLOCK_TRANSITIONS`, with the empty set for a state it does not list. -/
def blockTransitions : BlockState → List BlockState
  | .draft => [.validating]
  | .validating => [.sealed, .rejected]
  | .sealed => [.committing, .cancelled]
  | .committing => [.committed, .failed, .uncertain]
  | .committed => [.running, .cancelled, .uncertain]
  | .running => [.completed, .partial', .failed, .cancelled, .uncertain]
  | _ => []

/-- `_JOB_TRANSITIONS`, with the empty set for a state it does not list. -/
def jobTransitions : JobState → List JobState
  | .pending => [.dispatching, .skipped, .cancelled]
  | .dispatching => [.accepted, .failed]
  | .accepted => [.running, .uncertain, .cancelled]
  | .running => [.completed, .failed, .cancelled, .uncertain]
  | .failed => [.dispatching]
  | _ => []

/-! ### Room plans -/

structure RoomPlan where
  areaId : String
  laneId : String
  enabled : Bool
  vacuumIntervalDays : ℤ
  vacuumAndMopIntervalDays : Option ℤ
  preferredMode : PreferredMode
  priority : ℤ
  skipUntil : Option Instant
  lastCompletedVacuumAt : Option Instant
  lastCompletedVacuumAndMopAt : Option Instant
  deriving DecidableEq

def RoomPlan.postInit (room : RoomPlan) : Except PyError Unit := do
  requireText "area_id" room.areaId
  requireText "lane_id" room.laneId
  raiseIf (room.vacuumIntervalDays ≤ 0) (.valueError "vacuum_interval_days must be positive")
  raiseIf (∃ days ∈ room.vacuumAndMopIntervalDays, days ≤ 0)
    (.valueError "vacuum_and_mop_interval_days must be positive")
  raiseIf (room.preferredMode = .vacuumAndMop ∧ room.vacuumAndMopIntervalDays = none)
    (.valueError "vacuum_and_mop preferred mode requires its interval")

structure PlanRevisionFields where
  revisionId : String
  createdAt : Instant
  roomPlans : List RoomPlan
  deriving DecidableEq

/-- The checks of the room plans, run as they were built, and of the revision. -/
def PlanRevisionFields.postInit (plan : PlanRevisionFields) : Except PyError Unit := do
  checkAll RoomPlan.postInit plan.roomPlans
  requireText "revision_id" plan.revisionId
  raiseIf (¬ (plan.roomPlans.map (·.areaId)).Nodup)
    (.valueError "duplicate area_id in plan revision")
  raiseIf (1 < (plan.roomPlans.map (·.laneId)).toFinset.card)
    (.valueError "all room plans in a revision must use the same lane")

/-- An immutable revision of the room planning rules of one lane. -/
structure PlanRevision extends PlanRevisionFields where
  checked : toPlanRevisionFields.postInit = .ok ()
  deriving DecidableEq

def PlanRevisionFields.construct (plan : PlanRevisionFields) : Except PyError PlanRevision :=
  match h : plan.postInit with
  | .ok () => .ok ⟨plan, h⟩
  | .error e => .error e

theorem PlanRevisionFields.construct_eq_ok {fields : PlanRevisionFields} {plan : PlanRevision} :
    fields.construct = .ok plan ↔ plan.toPlanRevisionFields = fields := by
  unfold PlanRevisionFields.construct
  constructor
  · intro h
    split at h
    · cases h; rfl
    · cases h
  · rintro rfl
    split
    · rfl
    · next e h => rw [plan.checked] at h; cases h

/-! ### Plan snapshots -/

structure SnapshotJob where
  areaId : String
  areaNameSnapshot : String
  adapterTargetSnapshot : JsonValue
  mode : Mode
  priority : ℤ
  dueAt : Instant
  deriving DecidableEq

def SnapshotJob.postInit (job : SnapshotJob) : Except PyError Unit := do
  requireText "area_id" job.areaId
  requireText "area_name_snapshot" job.areaNameSnapshot

structure PlanSnapshotFields where
  planRevision : String
  laneId : String
  evaluatedAt : Instant
  jobs : List SnapshotJob
  deriving DecidableEq

/-- The checks of the snapshot jobs, run as they were built, and of the snapshot. -/
def PlanSnapshotFields.postInit (snapshot : PlanSnapshotFields) : Except PyError Unit := do
  checkAll SnapshotJob.postInit snapshot.jobs
  requireText "plan_revision" snapshot.planRevision
  requireText "lane_id" snapshot.laneId
  raiseIf (¬ (snapshot.jobs.map (·.areaId)).Nodup) (.valueError "duplicate area_id in snapshot")

/-- The immutable result of evaluating a plan revision. -/
structure PlanSnapshot extends PlanSnapshotFields where
  checked : toPlanSnapshotFields.postInit = .ok ()
  deriving DecidableEq

def PlanSnapshotFields.construct (snapshot : PlanSnapshotFields) :
    Except PyError PlanSnapshot :=
  match h : snapshot.postInit with
  | .ok () => .ok ⟨snapshot, h⟩
  | .error e => .error e

theorem PlanSnapshotFields.construct_eq_ok {fields : PlanSnapshotFields}
    {snapshot : PlanSnapshot} :
    fields.construct = .ok snapshot ↔ snapshot.toPlanSnapshotFields = fields := by
  unfold PlanSnapshotFields.construct
  constructor
  · intro h
    split at h
    · cases h; rfl
    · cases h
  · rintro rfl
    split
    · rfl
    · next e h => rw [snapshot.checked] at h; cases h

/-! ### Queue jobs -/

structure QueueJob where
  jobId : String
  blockId : String
  areaId : String
  areaNameSnapshot : String
  adapterTargetSnapshot : JsonValue
  mode : Mode
  position : ℤ
  state : JobState
  attempt : ℤ
  plannedAt : Instant
  adapterToken : Option String
  sentAt : Option Instant
  startedAt : Option Instant
  finishedAt : Option Instant
  errorCode : Option String
  errorDetail : Option String
  deriving DecidableEq

/-- `_validate_job_lifecycle`. -/
def validateJobLifecycle (job : QueueJob) : Except PyError Unit := do
  raiseIf (job.attempt < 0) (.valueError "attempt must not be negative")
  raiseIf (job.state = .pending ∧ (job.attempt ≠ 0 ∨ job.adapterToken ≠ none ∨
      job.sentAt ≠ none ∨ job.startedAt ≠ none ∨ job.finishedAt ≠ none))
    (.valueError "pending job cannot contain dispatch data")
  raiseIf (job.state ∈ [JobState.dispatching, .accepted, .running, .completed, .uncertain] ∧
      (job.attempt = 0 ∨ job.sentAt = none))
    (.valueError "dispatched job requires attempt and sent_at")
  raiseIf (job.state ∈ [JobState.failed, .cancelled] ∧ 0 < job.attempt ∧ job.sentAt = none)
    (.valueError "dispatched failure requires sent_at")
  raiseIf (job.state ∈ [JobState.running, .completed] ∧ job.startedAt = none)
    (.valueError "started_at is required for running jobs")
  raiseIf (job.state.terminal = false ∧ job.finishedAt ≠ none)
    (.valueError "nonterminal job cannot have finished_at")
  raiseIf (job.state.terminal = true ∧ job.finishedAt = none)
    (.valueError "finished_at is required for terminal jobs")
  raiseIf (¬ Chronological [some job.plannedAt, job.sentAt, job.startedAt, job.finishedAt])
    (.valueError "job lifecycle timestamps must be chronological")

def QueueJob.postInit (job : QueueJob) : Except PyError Unit := do
  requireText "job_id" job.jobId
  requireText "block_id" job.blockId
  requireText "area_id" job.areaId
  requireText "area_name_snapshot" job.areaNameSnapshot
  raiseIf (job.position < 0) (.valueError "position must not be negative")
  validateJobLifecycle job

/-! ### Queue blocks -/

structure QueueBlock where
  blockId : String
  kind : BlockKind
  laneId : String
  planRevision : String
  idempotencyKey : String
  createdAt : Instant
  sealedAt : Option Instant
  state : BlockState
  jobIds : List String
  dispatchStrategy : DispatchStrategy
  guarantee : BlockGuarantee
  committedAt : Option Instant
  completedAt : Option Instant
  adapterRunId : Option String
  deriving DecidableEq

def QueueBlock.postInit (block : QueueBlock) : Except PyError Unit := do
  requireText "block_id" block.blockId
  requireText "lane_id" block.laneId
  requireText "plan_revision" block.planRevision
  requireText "idempotency_key" block.idempotencyKey
  raiseIf (¬ block.jobIds.Nodup) (.valueError "duplicate job_id in block")
  raiseIf (block.guarantee = .robotAtomic ∧ block.dispatchStrategy ≠ .deviceQueue)
    (.valueError "robot_atomic requires device_queue")
  raiseIf (¬ Chronological
      [some block.createdAt, block.sealedAt, block.committedAt, block.completedAt])
    (.valueError "block lifecycle timestamps must be chronological")
  raiseIf (block.state ∉ [BlockState.draft, .validating] ∧ block.sealedAt = none)
    (.valueError "sealed_at is required after validation")
  raiseIf (block.state ∈ [BlockState.committed, .running, .completed] ∧
      block.committedAt = none)
    (.valueError "committed_at is required for committed blocks")
  raiseIf (block.state = .completed ∧ block.completedAt = none)
    (.valueError "completed_at is required for completed blocks")

end VacuumPlanner
