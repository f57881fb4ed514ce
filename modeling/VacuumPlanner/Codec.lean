import VacuumPlanner.Domain.Serialization
import VacuumPlanner.Domain.LedgerFacts

/-!
# The codecs read back what they write

A loader sees a payload through `Payload.get` and `Payload.item` only, so two payloads that
agree there (`SameReading`) load alike, and a key it only asks for with `get` may be missing
if its value is null. On top of that every record is read back from its own dump
(`roomLoad_roomDump`, `blockLoad_blockDump`, `jobLoad_jobDump`), and the aggregates from
whatever holds readable records (`LedgerReads`), be it their own dump or an older payload.
-/

namespace VacuumPlanner

open Framework

/-! ### What a loader sees -/

/-- The two payloads read alike, when the keys of `nullable` are only asked for with `get`. -/
structure SameReading (nullable : List String) (d d' : Payload) : Prop where
  get : ∀ key, d.get key = d'.get key
  item : ∀ key, key ∉ nullable → d.item key = d'.item key

variable {nullable keys : List String} {d d' d'' : Payload} {key : String} {value : Json}

theorem SameReading.refl (nullable : List String) (d : Payload) : SameReading nullable d d :=
  ⟨fun _ => rfl, fun _ _ => rfl⟩

theorem SameReading.trans (h : SameReading nullable d d') (h' : SameReading nullable d' d'') :
    SameReading nullable d d'' :=
  ⟨fun key => (h.get key).trans (h'.get key),
    fun key h_key => (h.item key h_key).trans (h'.item key h_key)⟩

theorem Payload.get_of_item (h : d.item key = .ok value) : d.get key = value := by
  unfold Payload.get
  rw [orRaise_eq_ok.mp h]
  rfl

theorem Payload.get_set (d : Payload) (key k : String) (value : Json) :
    Payload.get (Dict.set d key value) k = if k = key then value else d.get k := by
  unfold Payload.get
  rw [Dict.lookup_set]
  split <;> rfl

theorem Payload.item_set (d : Payload) (key k : String) (value : Json) :
    Payload.item (Dict.set d key value) k = if k = key then .ok value else d.item k := by
  unfold Payload.item
  rw [Dict.lookup_set]
  split <;> rfl

/-- Writing the default of an optional key down changes no reading. -/
theorem SameReading.set_default (h_key : key ∈ nullable) (h : value = d.get key) :
    SameReading nullable (Dict.set d key value) d := by
  constructor
  · intro k
    rw [Payload.get_set]
    split
    · next h_same => rw [h_same, h]
    · rfl
  · intro k h_k
    have h_ne : k ≠ key := by
      rintro rfl
      exact h_k h_key
    rw [Payload.item_set, if_neg h_ne]

theorem SameReading.withDefaults (h : ∀ key ∈ keys, key ∈ nullable) (d : Payload) :
    SameReading nullable (Serialization.withDefaults keys d) d := by
  unfold Serialization.withDefaults
  -- the keys already written read as before, so the accumulator does
  suffices h_fold : ∀ acc, SameReading nullable acc d →
      SameReading nullable (keys.foldl (fun acc key => Dict.set acc key (d.get key)) acc) d from
    h_fold d (SameReading.refl nullable d)
  induction keys with
  | nil => exact fun _ h_acc => h_acc
  | cons key keys ih =>
    intro acc h_acc
    obtain ⟨h_key, h_keys⟩ := List.forall_mem_cons.mp h
    exact ih h_keys _ ((SameReading.set_default h_key (h_acc.get key).symm).trans h_acc)

/-- An entry a stored payload may lack: an optional key with a null value. -/
def NullAt (nullable : List String) (entry : String × Json) : Prop :=
  entry.1 ∈ nullable ∧ entry.2 = .null

/-- Dropping null values of optional keys changes no reading. -/
theorem SameReading.drops (h_keys : (d.map Prod.fst).Nodup)
    (h : Dict.Drops (NullAt nullable) d d') : SameReading nullable d' d := by
  constructor
  · intro k
    exact h.lookup_getD h_keys (fun _ h_null => h_null.2) k
  · intro k h_k
    unfold Payload.item
    rw [h.lookup_of_not h_keys fun _ h_null => h_k h_null.1]

namespace Serialization

variable {iso : IsoFormat}

/-! ### Fields -/

@[simp] theorem string_str (s field : String) : string (.str s) field = .ok s := rfl

@[simp] theorem boolean_bool (b : Bool) (field : String) : boolean (.bool b) field = .ok b := rfl

@[simp] theorem integer_int (n : ℤ) (field : String) : integer (.int n) field = .ok n := rfl

@[simp] theorem array_array (items : List Json) (field : String) :
    array (.array items) field = .ok items := rfl

@[simp] theorem object_object (d : Payload) (field : String) :
    object (.object d) field = .ok d := rfl

@[simp] theorem optionalString_optional (s : Option String) (field : String) :
    optionalString (optional .str s) field = .ok s := by
  cases s <;> rfl

@[simp] theorem optionalInteger_optional (n : Option ℤ) (field : String) :
    optionalInteger (optional .int n) field = .ok n := by
  cases n <;> rfl

@[simp] theorem dt_dtDump (t : Option Instant) : dt iso (dtDump iso t) = .ok t := by
  cases t with
  | none => rfl
  | some t =>
    show (iso.fromisoformat (iso.isoformat t)).map some = .ok (some t)
    rw [iso.inverse]
    rfl

@[simp] theorem dtRequired_dtDump (t : Instant) :
    dtRequired iso (dtDump iso (some t)) = .ok t := by
  unfold dtRequired
  rw [dt_dtDump]
  rfl

@[simp] theorem jsonValue_thawJson (v : JsonValue) (field : String) :
    jsonValue (thawJson v) field = .ok v := by
  unfold jsonValue
  rw [Json.checkedValue_of_frozen field (thawJson_frozen v), ok_bind, freezeJson_thawJson]

@[simp] theorem mode_value (m : Mode) : mode m.value = .ok m := by
  cases m <;> decide

@[simp] theorem preferredMode_value (m : PreferredMode) : preferredMode m.value = .ok m := by
  cases m <;> decide

@[simp] theorem blockKind_value (k : BlockKind) : blockKind k.value = .ok k := by
  cases k; decide

@[simp] theorem dispatchStrategy_value (s : DispatchStrategy) :
    dispatchStrategy s.value = .ok s := by
  cases s <;> decide

@[simp] theorem blockGuarantee_value (g : BlockGuarantee) : blockGuarantee g.value = .ok g := by
  cases g <;> decide

@[simp] theorem blockState_value (s : BlockState) : blockState s.value = .ok s := by
  cases s <;> decide

@[simp] theorem jobState_value (s : JobState) : jobState s.value = .ok s := by
  cases s <;> decide

/-! ### Records -/

theorem preferredMode_ne (m : PreferredMode) : m.value ≠ "automatic" := by
  cases m <;> decide

/-- **A room is read back**, also under the name its mode once had. -/
theorem roomLoad_roomDump {room : RoomPlan} (h : room.postInit = .ok ()) {raw : String}
    (h_raw : raw = room.preferredMode.value ∨ room.preferredMode = .vacuum ∧ raw = "automatic") :
    roomLoad iso (Dict.set (roomDump iso room) "preferred_mode" (.str raw)) = .ok room := by
  cases room
  rcases h_raw with rfl | ⟨h_vacuum, rfl⟩
  · simp [roomLoad, roomDump, Dict.set, Payload.item, Payload.get, List.lookup_cons, orRaise,
      preferredMode_ne, h]
  · have h_mode := h_vacuum
    dsimp only at h_mode
    subst h_mode
    simp [roomLoad, roomDump, Dict.set, Payload.item, Payload.get, List.lookup_cons, orRaise, h]

/-- **A block is read back**, also under the kind of a removed ad-hoc block. -/
theorem blockLoad_blockDump {block : QueueBlock} (h : block.postInit = .ok ()) {raw : String}
    (h_raw : raw = block.kind.value ∨ raw = "adhoc") :
    blockLoad iso (Dict.set (blockDump iso block) "kind" (.str raw)) = .ok block := by
  have h_ids : (block.jobIds.map Json.str).mapM (fun item => string item "job_id") =
      .ok block.jobIds := by
    rw [mapM_eq_ok_iff, List.forall₂_map_left_iff]
    exact List.forall₂_same.mpr fun _ _ => rfl
  cases block with
  | mk _ kind =>
    cases kind
    rcases h_raw with rfl | rfl
    all_goals
      simp [blockLoad, blockDump, Dict.set, Payload.item, Payload.get, List.lookup_cons, orRaise,
        h, h_ids]

/-- **A job is read back.** -/
theorem jobLoad_jobDump {job : QueueJob} (h : job.postInit = .ok ()) :
    jobLoad iso (jobDump iso job) = .ok job := by
  cases job
  simp [jobLoad, jobDump, Payload.item, Payload.get, List.lookup_cons, orRaise, h]

theorem snapshotJobLoad_snapshotJobDump {job : SnapshotJob} (h : job.postInit = .ok ()) :
    snapshotJobLoad iso (snapshotJobDump iso job) = .ok job := by
  cases job
  simp [snapshotJobLoad, snapshotJobDump, Payload.item, List.lookup_cons, orRaise, h]

/-- The keys of a room a payload may lack. -/
def roomNullable : List String :=
  ["skip_until", "last_completed_vacuum_at", "last_completed_vacuum_and_mop_at"]

/-- The keys of a block a payload may lack. -/
def blockNullable : List String :=
  ["sealed_at", "committed_at", "completed_at", "adapter_run_id"]

/-- The keys of a job a payload may lack. -/
def jobNullable : List String :=
  ["adapter_token", "sent_at", "started_at", "finished_at", "error_code", "error_detail"]

theorem roomLoad_congr (h : SameReading roomNullable d d') : roomLoad iso d = roomLoad iso d' := by
  unfold roomLoad
  simp (disch := decide) only [h.get, h.item]

theorem blockLoad_congr (h : SameReading blockNullable d d') :
    blockLoad iso d = blockLoad iso d' := by
  unfold blockLoad
  simp (disch := decide) only [h.get, h.item]

theorem jobLoad_congr (h : SameReading jobNullable d d') : jobLoad iso d = jobLoad iso d' := by
  unfold jobLoad
  simp (disch := decide) only [h.get, h.item]

/-! ### Arrays of records -/

/-- The item is an object that loads as `x`. -/
def Reads {α : Type} (load : Payload → Except PyError α) (x : α) (item : Json) : Prop :=
  ∃ d, item = .object d ∧ load d = .ok x

/-- An array of readable items loads. -/
theorem mapM_reads {α : Type} {load : Payload → Except PyError α} {xs : List α}
    {items : List Json} (h : List.Forall₂ (Reads load) xs items) (field : String) :
    items.mapM (fun item => do load (← object item field)) = .ok xs := by
  rw [mapM_eq_ok_iff]
  refine h.flip.imp fun item x h_item => ?_
  obtain ⟨d, rfl, h_load⟩ := h_item
  exact h_load

/-- The dumps of some records are readable. -/
theorem reads_dump {α : Type} {load : Payload → Except PyError α} {dump : α → Payload}
    {xs : List α} (h : ∀ x ∈ xs, load (dump x) = .ok x) :
    List.Forall₂ (Reads load) xs (xs.map fun x => .object (dump x)) := by
  rw [List.forall₂_map_right_iff]
  exact List.forall₂_same.mpr fun x hx => ⟨_, rfl, h x hx⟩

/-! ### Aggregates -/

/-- An envelope of some schema version. -/
def versioned (version : ℤ) (kind : String) (data : Payload) : Payload :=
  [("schema_version", .int version), ("kind", .str kind), ("data", .object data)]

theorem data_envelope (kind : String) (d : Payload) : data (envelope kind d) kind = .ok d := by
  simp [data, envelope, Payload.get, List.lookup_cons, raiseIf]

/-- **A plan is read back** from whatever holds its rooms. -/
theorem deserializePlanRevision_reads {plan : PlanRevision} {items : List Json}
    (h : List.Forall₂ (Reads (roomLoad iso)) plan.roomPlans items) :
    deserializePlanRevision iso (envelope "plan_revision"
      [("revision_id", .str plan.revisionId), ("created_at", dtDump iso (some plan.createdAt)),
        ("room_plans", .array items)]) = .ok plan := by
  have h_plan : PlanRevisionFields.construct ⟨plan.revisionId, plan.createdAt, plan.roomPlans⟩ =
      .ok plan := PlanRevisionFields.construct_eq_ok.mpr rfl
  unfold deserializePlanRevision
  rw [data_envelope, ok_bind]
  simp [Payload.item, List.lookup_cons, orRaise, mapM_reads h, h_plan]

/-- The payload holds the fields of the ledger, and records that read as its own. -/
structure LedgerReads (iso : IsoFormat) (ledger : QueueLedger) (d : Payload) : Prop where
  revision : d.item "revision" = .ok (.int ledger.revision)
  blocks : ∃ items, d.item "blocks" = .ok (.array items) ∧
    List.Forall₂ (Reads (blockLoad iso)) ledger.blocks items
  jobs : ∃ items, d.item "jobs" = .ok (.array items) ∧
    List.Forall₂ (Reads (jobLoad iso)) ledger.jobs items
  activeBlockId : d.get "active_block_id" = optional .str ledger.activeBlockId
  lastReconciledAt : d.get "last_reconciled_at" = dtDump iso ledger.lastReconciledAt

/-- A ledger of the current schema version needs no migration. -/
theorem migrateLedgerPayload_envelope (d : Payload) :
    migrateLedgerPayload (envelope "queue_ledger" d) = .ok (envelope "queue_ledger" d) := by
  simp [migrateLedgerPayload, envelope, Payload.get]

theorem deserializeLedger_envelope {ledger : QueueLedger} (h : LedgerReads iso ledger d) :
    deserializeLedger iso (envelope "queue_ledger" d) = .ok ledger := by
  obtain ⟨blocks, h_blocks, h_block_reads⟩ := h.blocks
  obtain ⟨jobs, h_jobs, h_job_reads⟩ := h.jobs
  have h_schema : ledger.schemaVersion = 1 := ledger.valid.schema
  have h_ledger : LedgerFields.construct ⟨1, ledger.revision, ledger.blocks, ledger.jobs,
      ledger.activeBlockId, ledger.lastReconciledAt⟩ = .ok ledger := by
    rw [← h_schema]
    exact LedgerFields.construct_eq_ok.mpr rfl
  unfold deserializeLedger
  rw [migrateLedgerPayload_envelope, ok_bind, data_envelope, ok_bind, h.revision, ok_bind, h_blocks, h_jobs,
    h.activeBlockId, h.lastReconciledAt]
  simp [mapM_reads h_block_reads, mapM_reads h_job_reads, h_ledger]

/-- A record reads as before once its missing keys are written down. -/
theorem reads_withDefaults {α : Type} {load : Payload → Except PyError α} (keys : List String)
    (h_congr : ∀ d d', SameReading nullable d d' → load d = load d')
    (h_keys : ∀ key ∈ keys, key ∈ nullable) {xs : List α} {items : List Json}
    (h : List.Forall₂ (Reads load) xs items) (field : String) :
    ∃ items', items.mapM (fun item => do
        let record ← object item field
        return Json.object (withDefaults keys record)) = .ok items' ∧
      List.Forall₂ (Reads load) xs items' := by
  induction h with
  | nil => exact ⟨[], rfl, List.Forall₂.nil⟩
  | cons h_item h_rest ih =>
    obtain ⟨d, rfl, h_load⟩ := h_item
    obtain ⟨items', h_items', h_reads⟩ := ih
    refine ⟨.object (withDefaults keys d) :: items', ?_, ?_⟩
    · rw [List.mapM_cons, h_items']
      rfl
    · have h_same : load (withDefaults keys d) = load d :=
        h_congr _ _ (SameReading.withDefaults h_keys d)
      exact List.Forall₂.cons ⟨_, rfl, h_same.trans h_load⟩ h_reads

/-- **A ledger is read back** from whatever holds its records, in the current schema version
and in the one before. -/
theorem deserializeLedger_reads {ledger : QueueLedger} (h : LedgerReads iso ledger d)
    {version : ℤ} (h_version : version = 0 ∨ version = 1) :
    deserializeLedger iso (versioned version "queue_ledger" d) = .ok ledger := by
  rcases h_version with rfl | rfl
  · obtain ⟨blocks, h_blocks, h_block_reads⟩ := h.blocks
    obtain ⟨jobs, h_jobs, h_job_reads⟩ := h.jobs
    obtain ⟨blocks', h_blocks', h_block_reads'⟩ := reads_withDefaults
      ["completed_at", "adapter_run_id"] (fun _ _ => blockLoad_congr) (by decide) h_block_reads
      "block"
    obtain ⟨jobs', h_jobs', h_job_reads'⟩ := reads_withDefaults
      ["adapter_token", "error_code", "error_detail"] (fun _ _ => jobLoad_congr) (by decide)
      h_job_reads "job"
    -- the migrated data reads as the stored data does, but for the records
    set migrated : Payload := withDefaults ["active_block_id", "last_reconciled_at"]
      (Dict.set (Dict.set d "blocks" (.array blocks')) "jobs" (.array jobs')) with h_migrated
    have h_reading : SameReading ["active_block_id", "last_reconciled_at"] migrated
        (Dict.set (Dict.set d "blocks" (.array blocks')) "jobs" (.array jobs')) :=
      SameReading.withDefaults (by decide) _
    have h_migrate : migrateLedgerPayload (versioned 0 "queue_ledger" d) =
        .ok (envelope "queue_ledger" migrated) := by
      have h_version : Payload.get (versioned 0 "queue_ledger" d) "schema_version" = .int 0 := rfl
      have h_kind : Payload.get (versioned 0 "queue_ledger" d) "kind" = .str "queue_ledger" := rfl
      have h_data : Payload.get (versioned 0 "queue_ledger" d) "data" = .object d := rfl
      unfold migrateLedgerPayload
      simp only [h_version, h_kind, h_data, Payload.get_of_item h_blocks,
        Payload.get_of_item h_jobs, ne_eq, not_true_eq_false, if_false, raiseIf, object_object,
        array_array, ok_bind, h_blocks', h_jobs']
      rfl
    -- so it is read as the same ledger, of the current version
    have h_reads : LedgerReads iso ledger migrated := by
      refine ⟨?_, ⟨blocks', ?_, h_block_reads'⟩, ⟨jobs', ?_, h_job_reads'⟩, ?_, ?_⟩
      · rw [h_reading.item _ (by decide), Payload.item_set, Payload.item_set, if_neg (by decide),
          if_neg (by decide), h.revision]
      · rw [h_reading.item _ (by decide), Payload.item_set, Payload.item_set, if_neg (by decide),
          if_pos rfl]
      · rw [h_reading.item _ (by decide), Payload.item_set, if_pos rfl]
      · rw [h_reading.get, Payload.get_set, Payload.get_set, if_neg (by decide),
          if_neg (by decide), h.activeBlockId]
      · rw [h_reading.get, Payload.get_set, Payload.get_set, if_neg (by decide),
          if_neg (by decide), h.lastReconciledAt]
    rw [← deserializeLedger_envelope h_reads]
    unfold deserializeLedger
    rw [h_migrate, migrateLedgerPayload_envelope]
  · exact deserializeLedger_envelope h

/-- **A planner state is read back** from whatever holds its plan and its ledger, in the
current schema version and in the one before. -/
theorem deserializePlannerState_reads {state : PlannerState} {plan ledger : Payload}
    (h_plan : deserializePlanRevision iso plan = .ok state.planRevision)
    (h_ledger : deserializeLedger iso ledger = .ok state.ledger) {version : ℤ}
    (h_version : version = 0 ∨ version = 1) :
    deserializePlannerState iso (versioned version "planner_state"
      [("plan_revision", .object plan), ("ledger", .object ledger)]) = .ok state := by
  have h_migrate : migratePlannerStatePayload (versioned version "planner_state"
      [("plan_revision", .object plan), ("ledger", .object ledger)]) =
      .ok (envelope "planner_state" [("plan_revision", .object plan), ("ledger", .object ledger)]) := by
    rcases h_version with rfl | rfl
    · simp [migratePlannerStatePayload, versioned, Payload.get, List.lookup_cons, raiseIf]
    · simp [migratePlannerStatePayload, versioned, Payload.get, envelope]
  have h_state : PlannerState.construct state.planRevision state.ledger = .ok state :=
    PlannerState.construct_eq_ok.mpr ⟨rfl, rfl⟩
  unfold deserializePlannerState
  rw [h_migrate, ok_bind, data_envelope, ok_bind]
  simp [Payload.item, List.lookup_cons, orRaise, raiseIf, h_plan, h_ledger, h_state]

/-! ### Round trips -/

theorem roomDump_mode (room : RoomPlan) :
    (roomDump iso room).lookup "preferred_mode" = some (.str room.preferredMode.value) := by
  simp [roomDump, List.lookup_cons]

theorem blockDump_kind (block : QueueBlock) :
    (blockDump iso block).lookup "kind" = some (.str block.kind.value) := by
  simp [blockDump, List.lookup_cons]

/-- Naming the mode of a room as it is changes nothing. -/
theorem roomDump_named (room : RoomPlan) :
    Dict.set (roomDump iso room) "preferred_mode" (.str room.preferredMode.value) =
      roomDump iso room :=
  Dict.set_of_lookup (roomDump_mode room)

theorem blockDump_named (block : QueueBlock) :
    Dict.set (blockDump iso block) "kind" (.str block.kind.value) = blockDump iso block :=
  Dict.set_of_lookup (blockDump_kind block)

theorem deserializePlanRevision_serialize (plan : PlanRevision) :
    deserializePlanRevision iso (serializePlanRevision iso plan) = .ok plan := by
  refine deserializePlanRevision_reads (reads_dump fun room h_room => ?_)
  rw [← roomDump_named]
  exact roomLoad_roomDump (plan.checks.1 room h_room) (Or.inl rfl)

theorem deserializePlanSnapshot_serialize (snapshot : PlanSnapshot) :
    deserializePlanSnapshot iso (serializePlanSnapshot iso snapshot) = .ok snapshot := by
  have h_checks : ∀ job ∈ snapshot.jobs, job.postInit = .ok () := by
    have h_checked : snapshot.toPlanSnapshotFields.postInit = .ok () := snapshot.checked
    unfold PlanSnapshotFields.postInit at h_checked
    exact checkAll_eq_ok.mp (seq_eq_ok.mp h_checked).1
  have h_jobs : List.Forall₂ (Reads (snapshotJobLoad iso)) snapshot.jobs
      (snapshot.jobs.map fun job => .object (snapshotJobDump iso job)) :=
    reads_dump fun job h_job => snapshotJobLoad_snapshotJobDump (h_checks job h_job)
  have h_snapshot : PlanSnapshotFields.construct ⟨snapshot.planRevision, snapshot.laneId,
      snapshot.evaluatedAt, snapshot.jobs⟩ = .ok snapshot :=
    PlanSnapshotFields.construct_eq_ok.mpr rfl
  unfold deserializePlanSnapshot serializePlanSnapshot
  rw [data_envelope, ok_bind]
  simp only [Payload.item, List.lookup_cons]
  simp [orRaise, mapM_reads h_jobs, h_snapshot]

/-- What a ledger is written as reads as the ledger. -/
theorem deserializeLedger_serialize (ledger : QueueLedger) :
    deserializeLedger iso (serializeLedger iso ledger) = .ok ledger := by
  refine deserializeLedger_envelope ⟨rfl, ⟨_, rfl, ?_⟩, ⟨_, rfl, ?_⟩, rfl, rfl⟩
  · refine reads_dump fun block h_block => ?_
    rw [← blockDump_named]
    exact blockLoad_blockDump (ledger.valid.blockChecks block h_block) (Or.inl rfl)
  · exact reads_dump fun job h_job => jobLoad_jobDump (ledger.valid.jobChecks job h_job)

/-- **The planner state survives its codec.** -/
theorem deserializePlannerState_serialize (state : PlannerState) :
    deserializePlannerState iso (serializePlannerState iso state) = .ok state :=
  deserializePlannerState_reads (deserializePlanRevision_serialize state.planRevision)
    (deserializeLedger_serialize state.ledger) (Or.inr rfl)

end Serialization

end VacuumPlanner
