import VacuumPlanner.Domain.Freeze
import VacuumPlanner.Domain.Ledger

/-!
# Persistence codecs

`domain/serialization.py`: the versioned payloads of the plan, of a due snapshot, of the
ledger and of the planner state. A loader reads the fields in the order of the source,
checks the type of each, and runs the checks of every record it builds (`postInit`); the
aggregates are built by their constructors and so validated again.

What a `datetime` is printed to and parsed from is a parameter (`IsoFormat`).
-/

namespace VacuumPlanner

open Framework

/-! ### Payloads -/

/-- An object of a payload: a `dict`, as the list of its entries. -/
abbrev Payload := List (String × Json)

/-- `payload.get(key)`. -/
def Payload.get (payload : Payload) (key : String) : Json :=
  (payload.lookup key).getD .null

/-- `payload[key]`. -/
def Payload.item (payload : Payload) (key : String) : Except PyError Json :=
  orRaise (payload.lookup key) (.keyError key)

/-- `datetime.isoformat` and `datetime.fromisoformat`. The offset an instant is printed with
is not part of the instant, so any printing will do that is parsed back. Parsing raises when
the text is no ISO-8601 string or has no offset. -/
structure IsoFormat where
  isoformat : Instant → String
  fromisoformat : String → Except PyError Instant
  inverse : ∀ t, fromisoformat (isoformat t) = .ok t

/-! ### The values of the enumerations -/

def Mode.value : Mode → String
  | .vacuum => "vacuum"
  | .vacuumAndMop => "vacuum_and_mop"

def PreferredMode.value : PreferredMode → String
  | .vacuum => "vacuum"
  | .vacuumAndMop => "vacuum_and_mop"

def BlockKind.value : BlockKind → String
  | .scheduled => "scheduled"

def DispatchStrategy.value : DispatchStrategy → String
  | .nativeBatch => "native_batch"
  | .plannerSequential => "planner_sequential"
  | .deviceQueue => "device_queue"

def BlockGuarantee.value : BlockGuarantee → String
  | .plannerAtomic => "planner_atomic"
  | .robotAtomic => "robot_atomic"

namespace Serialization

/-- The member of an enumeration that has the value. -/
def member {E : Type} (enumeration : String) (members : List E) (value : E → String)
    (raw : String) : Except PyError E :=
  orRaise (members.find? fun e => value e = raw)
    (.valueError ("'" ++ raw ++ "' is not a valid " ++ enumeration))

def mode : String → Except PyError Mode :=
  member "Mode" [.vacuum, .vacuumAndMop] Mode.value

def preferredMode : String → Except PyError PreferredMode :=
  member "PreferredMode" [.vacuum, .vacuumAndMop] PreferredMode.value

def blockKind : String → Except PyError BlockKind :=
  member "BlockKind" [.scheduled] BlockKind.value

def dispatchStrategy : String → Except PyError DispatchStrategy :=
  member "DispatchStrategy" [.nativeBatch, .plannerSequential, .deviceQueue]
    DispatchStrategy.value

def blockGuarantee : String → Except PyError BlockGuarantee :=
  member "BlockGuarantee" [.plannerAtomic, .robotAtomic] BlockGuarantee.value

def blockState : String → Except PyError BlockState :=
  member "BlockState" [.draft, .validating, .sealed, .committing, .committed, .running,
    .completed, .rejected, .cancelled, .failed, .uncertain, .partial'] BlockState.value

def jobState : String → Except PyError JobState :=
  member "JobState" [.pending, .dispatching, .accepted, .running, .completed, .failed,
    .uncertain, .skipped, .cancelled] JobState.value

/-! ### Envelopes and fields -/

/-- `_envelope`. -/
def envelope (kind : String) (data : Payload) : Payload :=
  [("schema_version", .int 1), ("kind", .str kind), ("data", .object data)]

/-- `_data`. -/
def data (payload : Payload) (kind : String) : Except PyError Payload := do
  let version := payload.get "schema_version"
  raiseIf (version ≠ .int 1) (.schemaVersionError version)
  raiseIf (payload.get "kind" ≠ .str kind) (.valueError ("expected payload kind " ++ kind))
  match payload.get "data" with
  | .object data => return data
  | _ => .error (.valueError "payload data must be an object")

/-- `_string`. -/
def string (value : Json) (field : String) : Except PyError String :=
  match value with
  | .str s => .ok s
  | _ => .error (.valueError (field ++ " must be a string"))

/-- `_optional_string`. -/
def optionalString (value : Json) (field : String) : Except PyError (Option String) :=
  match value with
  | .null => .ok none
  | value => (string value field).map some

/-- `_boolean`. -/
def boolean (value : Json) (field : String) : Except PyError Bool :=
  match value with
  | .bool b => .ok b
  | _ => .error (.valueError (field ++ " must be a boolean"))

/-- `_integer`. -/
def integer (value : Json) (field : String) : Except PyError ℤ :=
  match value with
  | .int n => .ok n
  | _ => .error (.valueError (field ++ " must be an integer"))

/-- `_optional_integer`. -/
def optionalInteger (value : Json) (field : String) : Except PyError (Option ℤ) :=
  match value with
  | .null => .ok none
  | value => (integer value field).map some

/-- `_array`. -/
def array (value : Json) (field : String) : Except PyError (List Json) :=
  match value with
  | .array items => .ok items
  | _ => .error (.valueError (field ++ " must be an array"))

/-- `_object`. -/
def object (value : Json) (field : String) : Except PyError Payload :=
  match value with
  | .object fields => .ok fields
  | _ => .error (.valueError (field ++ " must be an object"))

/-- `_json_value`, and the freezing of the constructor it is handed to. -/
def jsonValue (value : Json) (field : String) : Except PyError JsonValue := do
  let value ← Json.checkedValue field value
  freezeJson value

/-- An optional value of a payload. -/
def optional {α : Type} (dump : α → Json) (value : Option α) : Json :=
  value.elim .null dump

variable (iso : IsoFormat)

/-- `_dt`. -/
def dt (value : Json) : Except PyError (Option Instant) :=
  match value with
  | .null => .ok none
  | .str s => (iso.fromisoformat s).map some
  | _ => .error (.valueError "timestamp must be an ISO-8601 string")

/-- `_dt_required`. -/
def dtRequired (value : Json) : Except PyError Instant := do
  let parsed ← dt iso value
  orRaise parsed (.valueError "required timestamp is missing")

/-- `_dt_dump`. -/
def dtDump (value : Option Instant) : Json :=
  optional (fun t => .str (iso.isoformat t)) value

/-! ### The plan -/

/-- `_room_dump`. -/
def roomDump (room : RoomPlan) : Payload :=
  [("area_id", .str room.areaId),
    ("lane_id", .str room.laneId),
    ("enabled", .bool room.enabled),
    ("vacuum_interval_days", .int room.vacuumIntervalDays),
    ("vacuum_and_mop_interval_days", optional .int room.vacuumAndMopIntervalDays),
    ("preferred_mode", .str room.preferredMode.value),
    ("priority", .int room.priority),
    ("skip_until", dtDump iso room.skipUntil),
    ("last_completed_vacuum_at", dtDump iso room.lastCompletedVacuumAt),
    ("last_completed_vacuum_and_mop_at", dtDump iso room.lastCompletedVacuumAndMopAt)]

/-- `_room_load`. -/
def roomLoad (data : Payload) : Except PyError RoomPlan := do
  let rawPreferredMode ← string (← data.item "preferred_mode") "preferred_mode"
  -- the removed automatic policy is read as the vacuum policy
  let preferredMode ←
    if rawPreferredMode = "automatic" then pure .vacuum else preferredMode rawPreferredMode
  let areaId ← string (← data.item "area_id") "area_id"
  let laneId ← string (← data.item "lane_id") "lane_id"
  let enabled ← boolean (← data.item "enabled") "enabled"
  let vacuumIntervalDays ← integer (← data.item "vacuum_interval_days") "vacuum_interval_days"
  let vacuumAndMopIntervalDays ← optionalInteger (← data.item "vacuum_and_mop_interval_days")
    "vacuum_and_mop_interval_days"
  let priority ← integer (← data.item "priority") "priority"
  let skipUntil ← dt iso (data.get "skip_until")
  let lastCompletedVacuumAt ← dt iso (data.get "last_completed_vacuum_at")
  let lastCompletedVacuumAndMopAt ← dt iso (data.get "last_completed_vacuum_and_mop_at")
  let room : RoomPlan :=
    { areaId, laneId, enabled, vacuumIntervalDays, vacuumAndMopIntervalDays, preferredMode,
      priority, skipUntil, lastCompletedVacuumAt, lastCompletedVacuumAndMopAt }
  room.postInit
  return room

/-- `serialize_plan_revision`. -/
def serializePlanRevision (revision : PlanRevision) : Payload :=
  envelope "plan_revision"
    [("revision_id", .str revision.revisionId),
      ("created_at", dtDump iso (some revision.createdAt)),
      ("room_plans", .array (revision.roomPlans.map fun room => .object (roomDump iso room)))]

/-- `deserialize_plan_revision`. -/
def deserializePlanRevision (payload : Payload) : Except PyError PlanRevision := do
  let data ← data payload "plan_revision"
  let revisionId ← string (← data.item "revision_id") "revision_id"
  let createdAt ← dtRequired iso (← data.item "created_at")
  let items ← array (← data.item "room_plans") "room_plans"
  let roomPlans ← items.mapM fun item => do roomLoad iso (← object item "room_plan")
  PlanRevisionFields.construct ⟨revisionId, createdAt, roomPlans⟩

/-! ### Due snapshots -/

/-- `_snapshot_job_dump`. -/
def snapshotJobDump (job : SnapshotJob) : Payload :=
  [("area_id", .str job.areaId),
    ("area_name_snapshot", .str job.areaNameSnapshot),
    ("adapter_target_snapshot", thawJson job.adapterTargetSnapshot),
    ("mode", .str job.mode.value),
    ("priority", .int job.priority),
    ("due_at", dtDump iso (some job.dueAt))]

/-- `_snapshot_job_load`. -/
def snapshotJobLoad (data : Payload) : Except PyError SnapshotJob := do
  let areaId ← string (← data.item "area_id") "area_id"
  let areaNameSnapshot ← string (← data.item "area_name_snapshot") "area_name_snapshot"
  let adapterTargetSnapshot ← jsonValue (← data.item "adapter_target_snapshot")
    "adapter_target_snapshot"
  let mode ← mode (← string (← data.item "mode") "mode")
  let priority ← integer (← data.item "priority") "priority"
  let dueAt ← dtRequired iso (← data.item "due_at")
  let job : SnapshotJob :=
    { areaId, areaNameSnapshot, adapterTargetSnapshot, mode, priority, dueAt }
  job.postInit
  return job

/-- `serialize_plan_snapshot`. -/
def serializePlanSnapshot (snapshot : PlanSnapshot) : Payload :=
  envelope "plan_snapshot"
    [("plan_revision", .str snapshot.planRevision),
      ("lane_id", .str snapshot.laneId),
      ("evaluated_at", dtDump iso (some snapshot.evaluatedAt)),
      ("jobs", .array (snapshot.jobs.map fun job => .object (snapshotJobDump iso job)))]

/-- `deserialize_plan_snapshot`. -/
def deserializePlanSnapshot (payload : Payload) : Except PyError PlanSnapshot := do
  let data ← data payload "plan_snapshot"
  let planRevision ← string (← data.item "plan_revision") "plan_revision"
  let laneId ← string (← data.item "lane_id") "lane_id"
  let evaluatedAt ← dtRequired iso (← data.item "evaluated_at")
  let items ← array (← data.item "jobs") "jobs"
  let jobs ← items.mapM fun item => do snapshotJobLoad iso (← object item "snapshot job")
  PlanSnapshotFields.construct ⟨planRevision, laneId, evaluatedAt, jobs⟩

/-! ### Blocks and jobs -/

/-- `_block_dump`. -/
def blockDump (block : QueueBlock) : Payload :=
  [("block_id", .str block.blockId),
    ("kind", .str block.kind.value),
    ("lane_id", .str block.laneId),
    ("plan_revision", .str block.planRevision),
    ("idempotency_key", .str block.idempotencyKey),
    ("created_at", dtDump iso (some block.createdAt)),
    ("sealed_at", dtDump iso block.sealedAt),
    ("committed_at", dtDump iso block.committedAt),
    ("completed_at", dtDump iso block.completedAt),
    ("state", .str block.state.value),
    ("job_ids", .array (block.jobIds.map .str)),
    ("dispatch_strategy", .str block.dispatchStrategy.value),
    ("adapter_run_id", optional .str block.adapterRunId),
    ("guarantee", .str block.guarantee.value)]

/-- `_block_load`. -/
def blockLoad (data : Payload) : Except PyError QueueBlock := do
  let rawKind ← string (← data.item "kind") "kind"
  -- removed ad-hoc blocks are read as scheduled ones
  let kind ← if rawKind = "adhoc" then pure .scheduled else blockKind rawKind
  let blockId ← string (← data.item "block_id") "block_id"
  let laneId ← string (← data.item "lane_id") "lane_id"
  let planRevision ← string (← data.item "plan_revision") "plan_revision"
  let idempotencyKey ← string (← data.item "idempotency_key") "idempotency_key"
  let createdAt ← dtRequired iso (← data.item "created_at")
  let sealedAt ← dt iso (data.get "sealed_at")
  let state ← blockState (← string (← data.item "state") "state")
  let jobIds ← (← array (← data.item "job_ids") "job_ids").mapM fun item => string item "job_id"
  let dispatchStrategy ← dispatchStrategy
    (← string (← data.item "dispatch_strategy") "dispatch_strategy")
  let guarantee ← blockGuarantee (← string (← data.item "guarantee") "guarantee")
  let committedAt ← dt iso (data.get "committed_at")
  let completedAt ← dt iso (data.get "completed_at")
  let adapterRunId ← optionalString (data.get "adapter_run_id") "adapter_run_id"
  let block : QueueBlock :=
    { blockId, kind, laneId, planRevision, idempotencyKey, createdAt, sealedAt, state, jobIds,
      dispatchStrategy, guarantee, committedAt, completedAt, adapterRunId }
  block.postInit
  return block

/-- `_job_dump`. -/
def jobDump (job : QueueJob) : Payload :=
  [("job_id", .str job.jobId),
    ("block_id", .str job.blockId),
    ("area_id", .str job.areaId),
    ("area_name_snapshot", .str job.areaNameSnapshot),
    ("adapter_target_snapshot", thawJson job.adapterTargetSnapshot),
    ("mode", .str job.mode.value),
    ("position", .int job.position),
    ("state", .str job.state.value),
    ("attempt", .int job.attempt),
    ("adapter_token", optional .str job.adapterToken),
    ("planned_at", dtDump iso (some job.plannedAt)),
    ("sent_at", dtDump iso job.sentAt),
    ("started_at", dtDump iso job.startedAt),
    ("finished_at", dtDump iso job.finishedAt),
    ("error_code", optional .str job.errorCode),
    ("error_detail", optional .str job.errorDetail)]

/-- `_job_load`. -/
def jobLoad (data : Payload) : Except PyError QueueJob := do
  let jobId ← string (← data.item "job_id") "job_id"
  let blockId ← string (← data.item "block_id") "block_id"
  let areaId ← string (← data.item "area_id") "area_id"
  let areaNameSnapshot ← string (← data.item "area_name_snapshot") "area_name_snapshot"
  let adapterTargetSnapshot ← jsonValue (← data.item "adapter_target_snapshot")
    "adapter_target_snapshot"
  let mode ← mode (← string (← data.item "mode") "mode")
  let position ← integer (← data.item "position") "position"
  let state ← jobState (← string (← data.item "state") "state")
  let attempt ← integer (← data.item "attempt") "attempt"
  let plannedAt ← dtRequired iso (← data.item "planned_at")
  let adapterToken ← optionalString (data.get "adapter_token") "adapter_token"
  let sentAt ← dt iso (data.get "sent_at")
  let startedAt ← dt iso (data.get "started_at")
  let finishedAt ← dt iso (data.get "finished_at")
  let errorCode ← optionalString (data.get "error_code") "error_code"
  let errorDetail ← optionalString (data.get "error_detail") "error_detail"
  let job : QueueJob :=
    { jobId, blockId, areaId, areaNameSnapshot, adapterTargetSnapshot, mode, position, state,
      attempt, plannedAt, adapterToken, sentAt, startedAt, finishedAt, errorCode, errorDetail }
  job.postInit
  return job

/-! ### The ledger -/

/-- `serialize_ledger`. -/
def serializeLedger (ledger : QueueLedger) : Payload :=
  envelope "queue_ledger"
    [("revision", .int ledger.revision),
      ("blocks", .array (ledger.blocks.map fun block => .object (blockDump iso block))),
      ("jobs", .array (ledger.jobs.map fun job => .object (jobDump iso job))),
      ("active_block_id", optional .str ledger.activeBlockId),
      ("last_reconciled_at", dtDump iso ledger.lastReconciledAt)]

/-- `{**record, key: record.get(key), ...}`. -/
def withDefaults (keys : List String) (record : Payload) : Payload :=
  keys.foldl (fun d key => Dict.set d key (record.get key)) record

/-- `_migrate_ledger_payload`. -/
def migrateLedgerPayload (payload : Payload) : Except PyError Payload := do
  if payload.get "schema_version" ≠ .int 0 then
    return payload
  raiseIf (payload.get "kind" ≠ .str "queue_ledger")
    (.valueError "expected payload kind queue_ledger")
  let data ← object (payload.get "data") "payload data"
  let blocks ← (← array (data.get "blocks") "blocks").mapM fun item => do
    let block ← object item "block"
    return Json.object (withDefaults ["completed_at", "adapter_run_id"] block)
  let jobs ← (← array (data.get "jobs") "jobs").mapM fun item => do
    let job ← object item "job"
    return Json.object (withDefaults ["adapter_token", "error_code", "error_detail"] job)
  -- `get` gives null for a missing key, which the loader reads as absent
  return envelope "queue_ledger" (withDefaults ["active_block_id", "last_reconciled_at"]
    (Dict.set (Dict.set data "blocks" (.array blocks)) "jobs" (.array jobs)))

/-- `deserialize_ledger`. -/
def deserializeLedger (payload : Payload) : Except PyError QueueLedger := do
  let data ← data (← migrateLedgerPayload payload) "queue_ledger"
  let revision ← integer (← data.item "revision") "revision"
  let blocks ← (← array (← data.item "blocks") "blocks").mapM fun item => do
    blockLoad iso (← object item "block")
  let jobs ← (← array (← data.item "jobs") "jobs").mapM fun item => do
    jobLoad iso (← object item "job")
  let activeBlockId ← optionalString (data.get "active_block_id") "active_block_id"
  let lastReconciledAt ← dt iso (data.get "last_reconciled_at")
  LedgerFields.construct ⟨1, revision, blocks, jobs, activeBlockId, lastReconciledAt⟩

/-! ### The planner state -/

/-- `serialize_planner_state`. -/
def serializePlannerState (state : PlannerState) : Payload :=
  envelope "planner_state"
    [("plan_revision", .object (serializePlanRevision iso state.planRevision)),
      ("ledger", .object (serializeLedger iso state.ledger))]

/-- `_migrate_planner_state_payload`. -/
def migratePlannerStatePayload (payload : Payload) : Except PyError Payload := do
  if payload.get "schema_version" ≠ .int 0 then
    return payload
  raiseIf (payload.get "kind" ≠ .str "planner_state")
    (.valueError "expected payload kind planner_state")
  let data ← object (payload.get "data") "payload data"
  return envelope "planner_state" data

/-- `deserialize_planner_state`. -/
def deserializePlannerState (payload : Payload) : Except PyError PlannerState := do
  let data ← data (← migratePlannerStatePayload payload) "planner_state"
  raiseIf (data.lookup "plan_revision" = none) (.valueError "missing plan_revision")
  raiseIf (data.lookup "ledger" = none) (.valueError "missing ledger")
  let planRevision ← deserializePlanRevision iso
    (← object (← data.item "plan_revision") "plan_revision")
  let ledger ← deserializeLedger iso (← object (← data.item "ledger") "ledger")
  PlannerState.construct planRevision ledger

end Serialization

end VacuumPlanner
