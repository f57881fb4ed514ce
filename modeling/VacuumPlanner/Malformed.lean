import VacuumPlanner.Store

/-!
# What becomes of a malformed store

`deserialize_planner_state` on whatever JSON value the storage backend returns, and the
`except` clause of `_async_initialize_planner` that turns what it raises into a Repairs issue.

Every section below the root is checked to be an object before it is read, and every field is
checked before it is used, so a loader of a section raises `ValueError` or `KeyError`, and
`SchemaVersionError` for nothing but the version of its own envelope
(`deserializePlanRevision_rejects`, `deserializeLedger_rejects`). The root itself is not
checked: it is asked for its version with `get`, which only an object has. A root that is no
object raises `AttributeError`, which no clause catches, and this is all that goes wrong
(`malformed_reported_iff`).

Two limits of the interpreter are left out: the depth to which the recursive functions on JSON
values may nest, and the number of digits of an integer that is put into the text of an error.
-/

namespace VacuumPlanner

open Framework Serialization

/-! ### The clauses of the setup -/

/-- What the loader of a stored value raises: a value that is no object has no attribute
`get`. -/
inductive LoadError where
  | attributeError (name : String)
  | raised (e : PyError)
  deriving DecidableEq

/-- `isinstance(err, (ValueError, KeyError, TypeError))`. -/
def PyError.isValueKeyOrTypeError : PyError → Bool
  | .valueError _ | .schemaVersionError _ | .keyError _ => true
  | .duplicateIdentityError _ | .laneAlreadyOpenError _ | .revisionConflictError _ => true
  | .planningValidationError _ => true
  | .stopIteration | .overflowError | .runtimeInactiveError _ | .topologyNotReadyError _ => false
  | .serviceValidationError _ | .osError _ | .cancelledError => false

/-- The error is converted into a Repairs issue. -/
def LoadError.caught : LoadError → Bool
  | .attributeError _ => false
  | .raised e => e.isValueKeyOrTypeError

inductive StoreIssue where
  | corruptStore
  | futureStore
  deriving DecidableEq

/-- `store_issue_condition`. -/
def storeIssueCondition : LoadError → StoreIssue
  | .raised (.schemaVersionError (.int version)) =>
    if 1 < version then .futureStore else .corruptStore
  -- a `bool` is an `int` to `isinstance`, but at most one
  | _ => .corruptStore

/-- `deserialize_planner_state`, on any value. -/
def deserializeStored (iso : IsoFormat) (payload : Json) : Except LoadError PlannerState :=
  match payload with
  | .object fields => (deserializePlannerState iso fields).mapError .raised
  | _ => .error (.attributeError "get")

/-! ### The first version that is rejected -/

/-- The version of an envelope. -/
abbrev Payload.version (payload : Payload) : Json := payload.get "schema_version"

/-- The versions a root, or a ledger, may have: the older is migrated. -/
def migratedVersions : List Json := [.int 0, .int 1]

/-- The data of an envelope of the kind, if it has the form of one. -/
def envelopeData (payload : Payload) (kind : String) : Option Payload :=
  match payload.get "data" with
  | .object data => if payload.get "kind" = .str kind then some data else none
  | _ => none

/-- The first version that is not supported below the root: of the plan revision, or, once the
plan revision is read, of the ledger. -/
def rejectedSection (iso : IsoFormat) (data : Payload) : Option Json :=
  match data.lookup "plan_revision", data.lookup "ledger" with
  | some (.object plan), some ledger =>
    if Payload.version plan ≠ .int 1 then some (Payload.version plan)
    else
      match deserializePlanRevision iso plan, ledger with
      | .ok _, .object ledger =>
        if Payload.version ledger ∉ migratedVersions then some (Payload.version ledger)
        else none
      | _, _ => none
  | _, _ => none

/-- The first version, in the order of reading, that is not supported. -/
def firstRejectedVersion (iso : IsoFormat) : Json → Option Json
  | .object root =>
    if Payload.version root ∉ migratedVersions then some (Payload.version root)
    else (envelopeData root "planner_state").bind (rejectedSection iso)
  | _ => none

/-- The stored value ends in a state or in the Repairs issue it deserves. -/
structure StoreReported (iso : IsoFormat) (payload : Json) : Prop where
  caught : ∀ e, deserializeStored iso payload = .error e → e.caught = true
  future : (∃ v, deserializeStored iso payload = .error (.raised (.schemaVersionError v)) ∧
      storeIssueCondition (.raised (.schemaVersionError v)) = .futureStore) ↔
    ∃ version, firstRejectedVersion iso payload = some (.int version) ∧ 1 < version

/-- `datetime.fromisoformat` raises `ValueError`, and nothing else. -/
def IsoFormat.RaisesValueErrors (iso : IsoFormat) : Prop :=
  ∀ s, RaisesOnly (fun e => ∃ message, e = .valueError message) (iso.fromisoformat s)

/-! ### What the checks of a record raise -/

/-- A `ValueError` or a `KeyError`, and no `SchemaVersionError`. -/
def PyError.isMalformed : PyError → Bool
  | .valueError _ | .keyError _ => true
  | _ => false

/-- The computation raises for a malformed record only. -/
abbrev Malformed {α : Type} (x : Except PyError α) : Prop := RaisesOnly (·.isMalformed = true) x

/-- A loader that raises for a malformed record only is caught. -/
theorem isValueKeyOrTypeError_of_isMalformed (e : PyError) (h : e.isMalformed = true) :
    e.isValueKeyOrTypeError = true := by
  cases e with
  | valueError message => rfl
  | keyError key => rfl
  | _ => cases h

theorem not_isMalformed_schemaVersionError {v : Json} :
    ¬ (PyError.schemaVersionError v).isMalformed = true :=
  Bool.false_ne_true

section Records

variable {α : Type} {message key field : String} {d : Payload} {value : Json}

@[simp] theorem malformed_raiseIf {bad : Prop} [Decidable bad] :
    Malformed (raiseIf bad (.valueError message)) :=
  raisesOnly_raiseIf rfl

@[simp] theorem malformed_orRaise {o : Option α} : Malformed (orRaise o (.valueError message)) :=
  raisesOnly_orRaise rfl

@[simp] theorem malformed_item : Malformed (d.item key) :=
  raisesOnly_orRaise rfl

@[simp] theorem malformed_string : Malformed (string value field) := by
  cases value <;> simp [string, PyError.isMalformed]

@[simp] theorem malformed_boolean : Malformed (boolean value field) := by
  cases value <;> simp [boolean, PyError.isMalformed]

@[simp] theorem malformed_integer : Malformed (integer value field) := by
  cases value <;> simp [integer, PyError.isMalformed]

@[simp] theorem malformed_array : Malformed (array value field) := by
  cases value <;> simp [array, PyError.isMalformed]

@[simp] theorem malformed_object : Malformed (object value field) := by
  cases value <;> simp [Serialization.object, PyError.isMalformed]

@[simp] theorem malformed_optionalString : Malformed (optionalString value field) := by
  cases value <;> simp [optionalString]

@[simp] theorem malformed_optionalInteger : Malformed (optionalInteger value field) := by
  cases value <;> simp [optionalInteger]

@[simp] theorem malformed_member {E : Type} {enumeration : String} {members : List E}
    {name : E → String} {raw : String} : Malformed (member enumeration members name raw) :=
  malformed_orRaise

end Records

section Values

variable {value : Json} {field : String} {iso : IsoFormat}

mutual

theorem malformed_checkedValue : ∀ {value : Json}, Malformed (Json.checkedValue field value)
  | .null | .bool _ | .int _ | .float (.finite _) | .str _ => raisesOnly_ok _
  | .float (.infinity _) | .float .nan => raisesOnly_error.mpr rfl
  | .array items => by
    unfold Json.checkedValue
    exact malformed_checkedItems.bind fun _ => raisesOnly_pure _
  | .object fields => by
    unfold Json.checkedValue
    exact malformed_checkedFields.bind fun _ => raisesOnly_pure _

theorem malformed_checkedItems :
    ∀ {items : List Json}, Malformed (Json.checkedItems field items)
  | [] => raisesOnly_ok _
  | item :: items => by
    unfold Json.checkedItems
    refine malformed_checkedValue.bind fun _ => ?_
    exact malformed_checkedItems.bind fun _ => raisesOnly_pure _

theorem malformed_checkedFields :
    ∀ {fields : List (String × Json)}, Malformed (Json.checkedFields field fields)
  | [] => raisesOnly_ok _
  | (key, value) :: fields => by
    unfold Json.checkedFields
    refine malformed_checkedValue.bind fun _ => ?_
    exact malformed_checkedFields.bind fun _ => raisesOnly_pure _

end

mutual

theorem malformed_freeze : ∀ {value : Json}, Malformed value.freeze
  | .null | .bool _ | .int _ | .float (.finite _) | .str _ => raisesOnly_ok _
  | .float (.infinity _) | .float .nan => raisesOnly_error.mpr rfl
  | .array items => by
    unfold Json.freeze
    exact malformed_freezeItems.bind fun _ => raisesOnly_pure _
  | .object fields => by
    unfold Json.freeze
    exact malformed_freezeFields.bind fun _ => raisesOnly_pure _

theorem malformed_freezeItems : ∀ {items : List Json}, Malformed (Json.freezeItems items)
  | [] => raisesOnly_ok _
  | item :: items => by
    unfold Json.freezeItems
    refine malformed_freeze.bind fun _ => ?_
    exact malformed_freezeItems.bind fun _ => raisesOnly_pure _

theorem malformed_freezeFields :
    ∀ {fields : List (String × Json)}, Malformed (Json.freezeFields fields)
  | [] => raisesOnly_ok _
  | (key, value) :: fields => by
    unfold Json.freezeFields
    refine malformed_freeze.bind fun _ => ?_
    exact malformed_freezeFields.bind fun _ => raisesOnly_pure _

end

@[simp] theorem malformed_freezeJson : Malformed (freezeJson value) := by
  unfold freezeJson
  split
  · exact raisesOnly_ok _
  · next e h => exact raisesOnly_error.mpr (malformed_freeze e h)

@[simp] theorem malformed_jsonValue : Malformed (jsonValue value field) := by
  unfold jsonValue
  exact malformed_checkedValue.bind fun _ => malformed_freezeJson

theorem malformed_dt (h_iso : iso.RaisesValueErrors) : Malformed (dt iso value) := by
  cases value with
  | null => exact raisesOnly_ok none
  | str s =>
    refine raisesOnly_map.mpr fun e h => ?_
    obtain ⟨message, rfl⟩ := h_iso s e h
    rfl
  | bool b => exact raisesOnly_error.mpr rfl
  | int n => exact raisesOnly_error.mpr rfl
  | float x => exact raisesOnly_error.mpr rfl
  | array items => exact raisesOnly_error.mpr rfl
  | object fields => exact raisesOnly_error.mpr rfl

theorem malformed_dtRequired (h_iso : iso.RaisesValueErrors) :
    Malformed (dtRequired iso value) := by
  unfold dtRequired
  exact (malformed_dt h_iso).bind fun _ => malformed_orRaise

end Values

/-! ### What the constructors raise -/

section Constructors

@[simp] theorem malformed_requireText {name value : String} :
    Malformed (requireText name value) :=
  malformed_raiseIf

theorem malformed_roomPostInit {room : RoomPlan} : Malformed room.postInit := by
  simp [RoomPlan.postInit, raisesOnly_bind]

theorem malformed_jobPostInit {job : QueueJob} : Malformed job.postInit := by
  simp [QueueJob.postInit, validateJobLifecycle, raisesOnly_bind]

theorem malformed_blockPostInit {block : QueueBlock} : Malformed block.postInit := by
  simp [QueueBlock.postInit, raisesOnly_bind]

theorem malformed_planPostInit {plan : PlanRevisionFields} : Malformed plan.postInit := by
  simp [PlanRevisionFields.postInit, raisesOnly_bind, raisesOnly_checkAll, malformed_roomPostInit]

theorem malformed_validateBlocks {jobs : List QueueJob} (blocks seen : List QueueBlock) :
    Malformed (validateBlocks jobs seen blocks) := by
  induction blocks generalizing seen with
  | nil => exact raisesOnly_ok ()
  | cons block rest ih =>
    simp [validateBlocks, validateBlockJobCompatibility, validateTerminalBlockResult,
      raisesOnly_bind, ih]

theorem malformed_ledgerPostInit {ledger : LedgerFields} : Malformed ledger.postInit := by
  simp [LedgerFields.postInit, validateLedgerReferences, validateUniqueQueueIds, raisesOnly_bind,
    raisesOnly_checkAll, malformed_blockPostInit, malformed_jobPostInit, malformed_validateBlocks]

@[simp] theorem malformed_constructPlan {plan : PlanRevisionFields} :
    Malformed plan.construct := by
  unfold PlanRevisionFields.construct
  split
  · exact raisesOnly_ok _
  · next e h => exact raisesOnly_error.mpr (malformed_planPostInit e h)

@[simp] theorem malformed_constructLedger {ledger : LedgerFields} :
    Malformed ledger.construct := by
  unfold LedgerFields.construct
  split
  · exact raisesOnly_ok _
  · next e h => exact raisesOnly_error.mpr (malformed_ledgerPostInit e h)

@[simp] theorem malformed_constructState {plan : PlanRevision} {ledger : QueueLedger} :
    Malformed (PlannerState.construct plan ledger) := by
  unfold PlannerState.construct
  split
  · exact raisesOnly_ok _
  · exact raisesOnly_error.mpr rfl

end Constructors

/-! ### What the loaders of a record raise -/

section Loaders

variable {iso : IsoFormat} {d : Payload}

theorem malformed_roomLoad (h_iso : iso.RaisesValueErrors) : Malformed (roomLoad iso d) := by
  have h_dt : ∀ {value}, Malformed (dt iso value) := malformed_dt h_iso
  simp [roomLoad, raisesOnly_bind, h_dt, malformed_roomPostInit, preferredMode]

theorem malformed_blockLoad (h_iso : iso.RaisesValueErrors) : Malformed (blockLoad iso d) := by
  have h_dt : ∀ {value}, Malformed (dt iso value) := malformed_dt h_iso
  have h_dtRequired : ∀ {value}, Malformed (dtRequired iso value) := malformed_dtRequired h_iso
  simp [blockLoad, raisesOnly_bind, raisesOnly_mapM, h_dt, h_dtRequired, malformed_blockPostInit,
    blockKind, blockState, dispatchStrategy, blockGuarantee]

theorem malformed_jobLoad (h_iso : iso.RaisesValueErrors) : Malformed (jobLoad iso d) := by
  have h_dt : ∀ {value}, Malformed (dt iso value) := malformed_dt h_iso
  have h_dtRequired : ∀ {value}, Malformed (dtRequired iso value) := malformed_dtRequired h_iso
  simp [jobLoad, raisesOnly_bind, h_dt, h_dtRequired, malformed_jobPostInit, mode, jobState]

end Loaders

/-! ### What the loaders of an envelope raise -/

section Envelopes

variable {iso : IsoFormat} {payload d : Payload} {kind : String} {v : Json}

/-- `_data`, behind the check of the version. -/
def dataBody (payload : Payload) (kind : String) : Except PyError Payload := do
  raiseIf (payload.get "kind" ≠ .str kind) (.valueError ("expected payload kind " ++ kind))
  match payload.get "data" with
  | .object data => return data
  | _ => .error (.valueError "payload data must be an object")

theorem data_eq : data payload kind =
    if payload.version = .int 1 then dataBody payload kind
    else .error (.schemaVersionError payload.version) := by
  show (raiseIf (payload.version ≠ .int 1) (.schemaVersionError payload.version) >>=
    fun _ => dataBody payload kind) = _
  unfold raiseIf
  by_cases h : payload.version = .int 1
  · rw [if_pos h, if_neg (not_not.mpr h), ok_bind]
  · rw [if_neg h, if_pos h, error_bind]

theorem malformed_dataBody : Malformed (dataBody payload kind) := by
  refine malformed_raiseIf.bind fun _ => ?_
  split
  · exact raisesOnly_pure _
  · exact raisesOnly_error.mpr rfl

theorem dataBody_eq_ok : dataBody payload kind = .ok d ↔ envelopeData payload kind = some d := by
  unfold dataBody envelopeData
  rw [seq_eq_ok, raiseIf_eq_ok, not_not]
  cases payload.get "data" with
  | object fields => by_cases h_kind : payload.get "kind" = .str kind <;> simp [h_kind]
  | _ => simp

theorem data_eq_ok : data payload kind = .ok d ↔
    payload.version = .int 1 ∧ envelopeData payload kind = some d := by
  rw [data_eq]
  split
  · next h => rw [dataBody_eq_ok, and_iff_right h]
  · next h => exact iff_of_false (fun h_eq => by cases h_eq) fun h' => h h'.1

/-- `_data` rejects a version by raising it. -/
theorem data_rejects : data payload kind = .error (.schemaVersionError v) ↔
    payload.version ≠ .int 1 ∧ payload.version = v := by
  rw [data_eq]
  split
  · next h =>
    refine iff_of_false (fun h_eq => ?_) fun h' => h'.1 h
    exact not_isMalformed_schemaVersionError (malformed_dataBody _ h_eq)
  · next h =>
    rw [and_iff_right h, Except.error.injEq, PyError.schemaVersionError.injEq]

theorem data_caught : RaisesOnly (·.isValueKeyOrTypeError = true) (data payload kind) := by
  rw [data_eq, raisesOnly_ite]
  exact ⟨fun _ => malformed_dataBody.mono isValueKeyOrTypeError_of_isMalformed,
    fun _ => raisesOnly_error.mpr rfl⟩

section

variable {α β : Type} {x : Except PyError α} {f : α → Except PyError β}

/-- A version is rejected by the first step, if the rest reads records only. -/
theorem rejects_bind_left (h : ∀ a, Malformed (f a)) :
    (x >>= f) = .error (.schemaVersionError v) ↔ x = .error (.schemaVersionError v) :=
  bind_eq_error_iff_left h not_isMalformed_schemaVersionError

/-- A version is rejected by the rest, if the first step reads records only. -/
theorem rejects_bind (h : Malformed x) : (x >>= f) = .error (.schemaVersionError v) ↔
    ∃ a, x = .ok a ∧ f a = .error (.schemaVersionError v) :=
  h.bind_eq_error not_isMalformed_schemaVersionError

theorem caught_bind (h : Malformed x)
    (h_f : ∀ a, RaisesOnly (·.isValueKeyOrTypeError = true) (f a)) :
    RaisesOnly (·.isValueKeyOrTypeError = true) (x >>= f) :=
  (h.mono isValueKeyOrTypeError_of_isMalformed).bind h_f

end

/-- What follows the envelope of a plan revision. -/
theorem malformed_planBody (h_iso : iso.RaisesValueErrors) (data : Payload) : Malformed (do
    let revisionId ← string (← data.item "revision_id") "revision_id"
    let createdAt ← dtRequired iso (← data.item "created_at")
    let items ← array (← data.item "room_plans") "room_plans"
    let roomPlans ← items.mapM fun item => do roomLoad iso (← object item "room_plan")
    PlanRevisionFields.construct ⟨revisionId, createdAt, roomPlans⟩) := by
  have h_room : ∀ item, Malformed (do roomLoad iso (← object item "room_plan")) :=
    fun _ => malformed_object.bind fun _ => malformed_roomLoad h_iso
  have h_required : ∀ {value}, Malformed (dtRequired iso value) := malformed_dtRequired h_iso
  simp [raisesOnly_bind, raisesOnly_mapM, h_room, h_required]

/-- A plan revision raises the version of its envelope, and no other. -/
theorem deserializePlanRevision_rejects (h_iso : iso.RaisesValueErrors) :
    deserializePlanRevision iso payload = .error (.schemaVersionError v) ↔
      payload.version ≠ .int 1 ∧ payload.version = v := by
  unfold deserializePlanRevision
  rw [rejects_bind_left (malformed_planBody h_iso), data_rejects]

theorem deserializePlanRevision_caught (h_iso : iso.RaisesValueErrors) :
    RaisesOnly (·.isValueKeyOrTypeError = true) (deserializePlanRevision iso payload) := by
  unfold deserializePlanRevision
  refine data_caught.bind fun data => ?_
  exact (malformed_planBody h_iso data).mono isValueKeyOrTypeError_of_isMalformed

/-! ### The ledger -/

theorem malformed_migrateLedgerPayload : Malformed (migrateLedgerPayload payload) := by
  have h_block : ∀ item, Malformed (do
      let block ← object item "block"
      return Json.object (withDefaults ["completed_at", "adapter_run_id"] block)) :=
    fun _ => malformed_object.bind fun _ => raisesOnly_pure _
  have h_job : ∀ item, Malformed (do
      let job ← object item "job"
      return Json.object (withDefaults ["adapter_token", "error_code", "error_detail"] job)) :=
    fun _ => malformed_object.bind fun _ => raisesOnly_pure _
  refine raisesOnly_ite.mpr ⟨fun _ => raisesOnly_pure _, fun _ => ?_⟩
  refine malformed_raiseIf.bind fun _ => malformed_object.bind fun data => ?_
  refine malformed_array.bind fun blocks => (raisesOnly_mapM h_block).bind fun _ => ?_
  refine malformed_array.bind fun jobs => (raisesOnly_mapM h_job).bind fun _ => ?_
  exact raisesOnly_pure _

/-- The migration hands on an envelope of the supported version, or what it was given. -/
theorem migrateLedgerPayload_version (h : migrateLedgerPayload payload = .ok d) :
    payload.version = .int 0 ∧ d.version = .int 1 ∨ payload.version ≠ .int 0 ∧ d = payload := by
  unfold migrateLedgerPayload at h
  by_cases h_version : payload.version = .int 0
  · rw [if_neg (not_not.mpr h_version)] at h
    simp only [bind_eq_ok, pure_eq_ok] at h
    obtain ⟨_, -, data, -, _, -, blocks, -, _, -, jobs, -, rfl⟩ := h
    exact .inl ⟨h_version, rfl⟩
  · rw [if_pos h_version, pure_eq_ok] at h
    exact .inr ⟨h_version, h.symm⟩

theorem malformed_ledgerBody (h_iso : iso.RaisesValueErrors) (data : Payload) : Malformed (do
    let revision ← integer (← data.item "revision") "revision"
    let blocks ← (← array (← data.item "blocks") "blocks").mapM fun item => do
      blockLoad iso (← object item "block")
    let jobs ← (← array (← data.item "jobs") "jobs").mapM fun item => do
      jobLoad iso (← object item "job")
    let activeBlockId ← optionalString (data.get "active_block_id") "active_block_id"
    let lastReconciledAt ← dt iso (data.get "last_reconciled_at")
    LedgerFields.construct ⟨1, revision, blocks, jobs, activeBlockId, lastReconciledAt⟩) := by
  have h_block : ∀ item, Malformed (do blockLoad iso (← object item "block")) :=
    fun _ => malformed_object.bind fun _ => malformed_blockLoad h_iso
  have h_job : ∀ item, Malformed (do jobLoad iso (← object item "job")) :=
    fun _ => malformed_object.bind fun _ => malformed_jobLoad h_iso
  have h_dt : ∀ {value}, Malformed (dt iso value) := malformed_dt h_iso
  simp [raisesOnly_bind, raisesOnly_mapM, h_block, h_job, h_dt]

theorem notMem_migratedVersions :
    v ∉ migratedVersions ↔ v ≠ .int 0 ∧ v ≠ .int 1 := by
  unfold migratedVersions
  rw [List.mem_pair, not_or]

/-- A ledger raises the version of its envelope, and no other. -/
theorem deserializeLedger_rejects (h_iso : iso.RaisesValueErrors) :
    deserializeLedger iso payload = .error (.schemaVersionError v) ↔
      payload.version ∉ migratedVersions ∧ payload.version = v := by
  unfold deserializeLedger
  rw [rejects_bind malformed_migrateLedgerPayload, notMem_migratedVersions]
  constructor
  · rintro ⟨d, h_d, h⟩
    rw [rejects_bind_left (malformed_ledgerBody h_iso), data_rejects] at h
    obtain ⟨-, h_one⟩ | ⟨h_zero, rfl⟩ := migrateLedgerPayload_version h_d
    · exact absurd h_one h.1
    · exact ⟨⟨h_zero, h.1⟩, h.2⟩
  · rintro ⟨⟨h_zero, h_one⟩, h_v⟩
    have h_same : migrateLedgerPayload payload = .ok payload := if_pos h_zero
    refine ⟨payload, h_same, ?_⟩
    rw [rejects_bind_left (malformed_ledgerBody h_iso), data_rejects]
    exact ⟨h_one, h_v⟩

theorem deserializeLedger_caught (h_iso : iso.RaisesValueErrors) :
    RaisesOnly (·.isValueKeyOrTypeError = true) (deserializeLedger iso payload) := by
  unfold deserializeLedger
  refine caught_bind malformed_migrateLedgerPayload fun _ => data_caught.bind fun data => ?_
  exact (malformed_ledgerBody h_iso data).mono isValueKeyOrTypeError_of_isMalformed

/-! ### The root -/

theorem malformed_migratePlannerStatePayload : Malformed (migratePlannerStatePayload payload) := by
  refine raisesOnly_ite.mpr ⟨fun _ => raisesOnly_pure _, fun _ => ?_⟩
  refine malformed_raiseIf.bind fun _ => malformed_object.bind fun data => ?_
  exact raisesOnly_pure _

/-- The envelope of the root, migrated and opened. -/
def rootData (payload : Payload) : Except PyError Payload := do
  data (← migratePlannerStatePayload payload) "planner_state"

theorem rootData_caught : RaisesOnly (·.isValueKeyOrTypeError = true) (rootData payload) :=
  caught_bind malformed_migratePlannerStatePayload fun _ => data_caught

theorem rootData_current (h : payload.version ≠ .int 0) :
    rootData payload = data payload "planner_state" := by
  have h_same : migratePlannerStatePayload payload = .ok payload := if_pos h
  unfold rootData
  rw [h_same, ok_bind]

/-- The oldest envelope is opened like the current one. -/
theorem rootData_oldest (h : payload.version = .int 0) :
    rootData payload = dataBody payload "planner_state" := by
  unfold rootData migratePlannerStatePayload dataBody raiseIf
  rw [if_neg (not_not.mpr h)]
  by_cases h_kind : payload.get "kind" = .str "planner_state"
  · cases payload.get "data" with
    | object fields =>
      simp only [h_kind, ne_eq, not_true_eq_false, if_false, ok_bind, Serialization.object]
      rfl
    | _ => simp [h_kind, Serialization.object]
  · simp [h_kind]

theorem rootData_eq_ok : rootData payload = .ok d ↔
    payload.version ∈ migratedVersions ∧ envelopeData payload "planner_state" = some d := by
  by_cases h : payload.version = .int 0
  · rw [rootData_oldest h, dataBody_eq_ok, h]
    simp [migratedVersions]
  · rw [rootData_current h, data_eq_ok]
    simp [migratedVersions, h]

theorem rootData_rejects : rootData payload = .error (.schemaVersionError v) ↔
    payload.version ∉ migratedVersions ∧ payload.version = v := by
  rw [notMem_migratedVersions]
  by_cases h : payload.version = .int 0
  · rw [rootData_oldest h]
    exact iff_of_false (fun h_eq => not_isMalformed_schemaVersionError (malformed_dataBody _ h_eq))
      fun h' => h'.1.1 h
  · rw [rootData_current h, data_rejects, ne_eq, ne_eq, and_iff_right h]

/-- What follows the envelope of the root. -/
def stateBody (iso : IsoFormat) (data : Payload) : Except PyError PlannerState := do
  raiseIf (data.lookup "plan_revision" = none) (.valueError "missing plan_revision")
  raiseIf (data.lookup "ledger" = none) (.valueError "missing ledger")
  let planRevision ← deserializePlanRevision iso
    (← object (← data.item "plan_revision") "plan_revision")
  let ledger ← deserializeLedger iso (← object (← data.item "ledger") "ledger")
  PlannerState.construct planRevision ledger

theorem stateBody_caught (h_iso : iso.RaisesValueErrors) (data : Payload) :
    RaisesOnly (·.isValueKeyOrTypeError = true) (stateBody iso data) := by
  refine caught_bind malformed_raiseIf fun _ => caught_bind malformed_raiseIf fun _ => ?_
  refine caught_bind malformed_item fun _ => caught_bind malformed_object fun _ => ?_
  refine (deserializePlanRevision_caught h_iso).bind fun planRevision => ?_
  refine caught_bind malformed_item fun _ => caught_bind malformed_object fun _ => ?_
  refine (deserializeLedger_caught h_iso).bind fun ledger => ?_
  exact malformed_constructState.mono isValueKeyOrTypeError_of_isMalformed

/-- The two sections, read one after the other: the first to be rejected is raised. -/
theorem sections_reject (h_iso : iso.RaisesValueErrors) (plan : Payload) (ledger : Json) :
    (do
      let planRevision ← deserializePlanRevision iso plan
      let ledger ← deserializeLedger iso (← object ledger "ledger")
      PlannerState.construct planRevision ledger) = .error (.schemaVersionError v) ↔
      (if plan.version ≠ .int 1 then some plan.version
      else
        match deserializePlanRevision iso plan, ledger with
        | .ok _, .object ledger =>
          if Payload.version ledger ∉ migratedVersions then some (Payload.version ledger)
          else none
        | _, _ => none) = some v := by
  by_cases h_version : plan.version = .int 1
  · -- the plan has the version: it is read, or raises an error that is not about versions
    rw [if_neg (not_not.mpr h_version)]
    cases h_plan : deserializePlanRevision iso plan with
    | error e =>
      refine iff_of_false (fun h => ?_) (Option.some_ne_none v ∘ Eq.symm)
      cases h
      exact ((deserializePlanRevision_rejects h_iso).mp h_plan).1 h_version
    | ok planRevision =>
      rw [ok_bind, rejects_bind malformed_object]
      cases ledger with
      | object fields =>
        simp only [Serialization.object, Except.ok.injEq, exists_eq_left']
        -- the ledger is read next, and assembling the state rejects nothing
        rw [rejects_bind_left fun _ => malformed_constructState, deserializeLedger_rejects h_iso]
        simp only [Option.ite_none_right_eq_some, Option.some.injEq]
      | _ => simp [Serialization.object]
  · have h_plan := (deserializePlanRevision_rejects h_iso).mpr ⟨h_version, rfl⟩
    rw [if_pos h_version, h_plan, error_bind, Except.error.injEq, PyError.schemaVersionError.injEq,
      Option.some.injEq]

theorem stateBody_rejects (h_iso : iso.RaisesValueErrors) (data : Payload) :
    stateBody iso data = .error (.schemaVersionError v) ↔ rejectedSection iso data = some v := by
  unfold stateBody rejectedSection Payload.item
  cases h_plan : data.lookup "plan_revision" with
  | none => simp [raiseIf]
  | some plan =>
    cases h_ledger : data.lookup "ledger" with
    | none => simp [raiseIf]
    | some ledger =>
      cases plan with
      | object plan =>
        simp only [raiseIf, orRaise, Serialization.object, reduceCtorEq, if_false, ok_bind]
        exact sections_reject h_iso plan ledger
      | _ => simp [raiseIf, orRaise, Serialization.object]

theorem deserializePlannerState_eq {root : Payload} :
    deserializePlannerState iso root = rootData root >>= stateBody iso := by
  unfold rootData
  rw [bind_assoc]
  rfl

/-- **What is raised as an unsupported version is the first one that is.** -/
theorem deserializePlannerState_rejects (h_iso : iso.RaisesValueErrors) {root : Payload} :
    deserializePlannerState iso root = .error (.schemaVersionError v) ↔
      firstRejectedVersion iso (.object root) = some v := by
  rw [deserializePlannerState_eq]
  show _ ↔ (if root.version ∉ migratedVersions then some root.version
    else (envelopeData root "planner_state").bind (rejectedSection iso)) = some v
  -- the root is the first version that is looked at
  by_cases h_version : root.version ∈ migratedVersions
  · rw [if_neg (not_not.mpr h_version)]
    cases h_data : envelopeData root "planner_state" with
    | some data =>
      rw [rootData_eq_ok.mpr ⟨h_version, h_data⟩, ok_bind, stateBody_rejects h_iso]
      rfl
    | none =>
      -- a root of a known version is not rejected for it
      refine iff_of_false (fun h => ?_) (Option.some_ne_none v ∘ Eq.symm)
      cases h_root : rootData root with
      | ok data =>
        rw [(rootData_eq_ok.mp h_root).2] at h_data
        cases h_data
      | error e =>
        rw [h_root, error_bind] at h
        cases h
        exact (rootData_rejects.mp h_root).1 h_version
  · rw [if_pos h_version, rootData_rejects.mpr ⟨h_version, rfl⟩, error_bind, Except.error.injEq,
      PyError.schemaVersionError.injEq, Option.some.injEq]

theorem deserializePlannerState_caught (h_iso : iso.RaisesValueErrors) {root : Payload} :
    RaisesOnly (·.isValueKeyOrTypeError = true) (deserializePlannerState iso root) := by
  rw [deserializePlannerState_eq]
  exact rootData_caught.bind (stateBody_caught h_iso)

end Envelopes

/-! ### Every malformed store is reported, but for a root that is no object -/

section Reporting

variable {iso : IsoFormat} {fields : Payload} {payload : Json} {v : Json}

theorem deserializeStored_object {e : PyError} :
    deserializeStored iso (.object fields) = .error (.raised e) ↔
      deserializePlannerState iso fields = .error e := by
  show (deserializePlannerState iso fields).mapError LoadError.raised = _ ↔ _
  cases deserializePlannerState iso fields with
  | error e' =>
    show Except.error (LoadError.raised e') = _ ↔ _
    rw [Except.error.injEq, LoadError.raised.injEq, Except.error.injEq]
  | ok state => exact iff_of_false nofun nofun

theorem storeIssueCondition_future :
    storeIssueCondition (.raised (.schemaVersionError v)) = .futureStore ↔
      ∃ version, v = .int version ∧ 1 < version := by
  cases v with
  | int version =>
    show (if 1 < version then StoreIssue.futureStore else .corruptStore) = .futureStore ↔ _
    simp
  | _ => simp [storeIssueCondition]

/-- The root is asked for its version without being checked. -/
theorem not_reported_of_not_object (h : ∀ fields, payload ≠ .object fields) :
    ¬ StoreReported iso payload := by
  intro h_reported
  have h_raised : deserializeStored iso payload = .error (.attributeError "get") := by
    cases payload with
    | object fields => exact absurd rfl (h fields)
    | _ => rfl
  exact Bool.false_ne_true (h_reported.caught _ h_raised)

theorem storeReported_object (h_iso : iso.RaisesValueErrors) :
    StoreReported iso (.object fields) := by
  constructor
  · intro e h_e
    cases e with
    | attributeError name =>
      change (deserializePlannerState iso fields).mapError LoadError.raised = _ at h_e
      cases h : deserializePlannerState iso fields with
      | error e => rw [h] at h_e; cases h_e
      | ok state => rw [h] at h_e; cases h_e
    | raised e =>
      exact deserializePlannerState_caught h_iso e (deserializeStored_object.mp h_e)
  · simp only [deserializeStored_object, deserializePlannerState_rejects h_iso,
      storeIssueCondition_future]
    constructor
    · rintro ⟨_, h_first, version, rfl, h_newer⟩
      exact ⟨version, h_first, h_newer⟩
    · rintro ⟨version, h_first, h_newer⟩
      exact ⟨_, h_first, version, rfl, h_newer⟩

end Reporting

/-- **A malformed store ends in its Repairs issue exactly when its root is an object.** -/
theorem malformed_reported_iff (iso : IsoFormat) (h_iso : iso.RaisesValueErrors) (payload : Json)
    (h_payload : payload ≠ .null) :
    StoreReported iso payload ↔ ∃ fields, payload = .object fields := by
  constructor
  · intro h
    by_contra h_not
    exact not_reported_of_not_object (not_exists.mp h_not) h
  · rintro ⟨fields, rfl⟩
    exact storeReported_object h_iso

theorem epochFormat_raisesValueErrors : epochFormat.RaisesValueErrors := by
  intro s e h
  unfold epochFormat at h
  dsimp only at h
  split at h
  · cases h
  · cases h
  · split at h
    · cases h
    · cases h
      exact ⟨_, rfl⟩

/-- An empty array for a root, and a root of the next version. -/
theorem malformed_reported_array_and_next :
    ¬ StoreReported epochFormat (.array []) ∧
      StoreReported epochFormat (.object [("schema_version", .int 2)]) := by
  have h_array := malformed_reported_iff epochFormat epochFormat_raisesValueErrors (.array []) nofun
  have h_next := malformed_reported_iff epochFormat epochFormat_raisesValueErrors
    (.object [("schema_version", .int 2)]) nofun
  refine ⟨fun h => ?_, h_next.mpr ⟨_, rfl⟩⟩
  obtain ⟨fields, h_fields⟩ := h_array.mp h
  cases h_fields

/-- A stored array is not reported: what its loader raises, no clause of the setup catches. -/
theorem stored_array_not_reported :
    deserializeStored epochFormat (.array []) = .error (.attributeError "get") ∧
      ¬ StoreReported epochFormat (.array []) := by
  refine ⟨rfl, fun h => ?_⟩
  exact Bool.false_ne_true (h.caught (.attributeError "get") rfl)

end VacuumPlanner
