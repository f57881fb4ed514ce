import VacuumPlanner.Store

/-!
# Payloads of earlier versions

`LegacyPayload` says what an earlier version may have stored for a state: either schema
version in the two envelopes that were migrated, null entries missing where the loaders ask
with `get`, and the names that a block kind and a mode once had. Such a payload reads as the
state (`LegacyPayload.decodes`). It equals the canonical payload only if it is that payload
(`LegacyPayload.eq_of_equals`), since `==` sees a missing key and a renamed value, and so
the load replaces it exactly when there is something to replace
(`legacy_payload_decodes`).
-/

namespace VacuumPlanner

open Framework Serialization

variable {iso : IsoFormat} {state : PlannerState} {payload : Payload}

/-! ### What may be stored -/

/-- The dump of a record, without some of its null entries. -/
def LegacyRecord (nullable : List String) (dump : Payload) (item : Json) : Prop :=
  ∃ d, Dict.Drops (NullAt nullable) dump d ∧ item = .object d

/-- A room that prefers vacuuming may be stored as one of the removed automatic policy. -/
def LegacyRoom (iso : IsoFormat) (room : RoomPlan) (item : Json) : Prop :=
  ∃ raw, (raw = room.preferredMode.value ∨ room.preferredMode = .vacuum ∧ raw = "automatic") ∧
    LegacyRecord roomNullable (Dict.set (roomDump iso room) "preferred_mode" (.str raw)) item

/-- A block may be stored as a removed ad-hoc block. -/
def LegacyBlock (iso : IsoFormat) (block : QueueBlock) (item : Json) : Prop :=
  ∃ raw, (raw = block.kind.value ∨ raw = "adhoc") ∧
    LegacyRecord blockNullable (Dict.set (blockDump iso block) "kind" (.str raw)) item

def LegacyJob (iso : IsoFormat) (job : QueueJob) (item : Json) : Prop :=
  LegacyRecord jobNullable (jobDump iso job) item

/-- The keys of a ledger a payload may lack. -/
def ledgerNullable : List String := ["active_block_id", "last_reconciled_at"]

/-- The fields of a plan, with its rooms as they are stored. -/
def planData (iso : IsoFormat) (plan : PlanRevision) (rooms : List Json) : Payload :=
  [("revision_id", .str plan.revisionId),
    ("created_at", dtDump iso (some plan.createdAt)),
    ("room_plans", .array rooms)]

/-- The fields of a ledger, with its records as they are stored. -/
def ledgerData (iso : IsoFormat) (ledger : QueueLedger) (blocks jobs : List Json) : Payload :=
  [("revision", .int ledger.revision),
    ("blocks", .array blocks),
    ("jobs", .array jobs),
    ("active_block_id", optional .str ledger.activeBlockId),
    ("last_reconciled_at", dtDump iso ledger.lastReconciledAt)]

/-- The root: a plan and a ledger, each in its envelope. -/
def rootPayload (rootVersion ledgerVersion : ℤ) (plan ledger : Payload) : Payload :=
  versioned rootVersion "planner_state"
    [("plan_revision", .object (envelope "plan_revision" plan)),
      ("ledger", .object (versioned ledgerVersion "queue_ledger" ledger))]

/-- What may be stored for a state. -/
inductive LegacyPayload (iso : IsoFormat) (state : PlannerState) : Payload → Prop
  | mk {rootVersion ledgerVersion : ℤ} {rooms blocks jobs : List Json} {ledger : Payload}
      (root : rootVersion = 0 ∨ rootVersion = 1)
      (nested : ledgerVersion = 0 ∨ ledgerVersion = 1)
      (room : List.Forall₂ (LegacyRoom iso) state.planRevision.roomPlans rooms)
      (block : List.Forall₂ (LegacyBlock iso) state.ledger.blocks blocks)
      (job : List.Forall₂ (LegacyJob iso) state.ledger.jobs jobs)
      (header : Dict.Drops (NullAt ledgerNullable) (ledgerData iso state.ledger blocks jobs)
        ledger) :
      LegacyPayload iso state (rootPayload rootVersion ledgerVersion
        (planData iso state.planRevision rooms) ledger)

/-! ### Its reading -/

theorem roomDump_keys (room : RoomPlan) (raw : String) :
    ((Dict.set (roomDump iso room) "preferred_mode" (.str raw)).map Prod.fst).Nodup := by
  rw [Dict.keys_set (by simp [roomDump])]
  simp [roomDump]

theorem blockDump_keys (block : QueueBlock) (raw : String) :
    ((Dict.set (blockDump iso block) "kind" (.str raw)).map Prod.fst).Nodup := by
  rw [Dict.keys_set (by simp [blockDump])]
  simp [blockDump]

theorem jobDump_keys (job : QueueJob) : ((jobDump iso job).map Prod.fst).Nodup := by
  simp [jobDump]

theorem LegacyRoom.reads {room : RoomPlan} {item : Json} (h_room : room.postInit = .ok ())
    (h : LegacyRoom iso room item) : Reads (roomLoad iso) room item := by
  obtain ⟨raw, h_raw, d, h_drops, rfl⟩ := h
  have h_reading := SameReading.drops (roomDump_keys room raw) h_drops
  exact ⟨d, rfl, (roomLoad_congr h_reading).trans (roomLoad_roomDump h_room h_raw)⟩

theorem LegacyBlock.reads {block : QueueBlock} {item : Json} (h_block : block.postInit = .ok ())
    (h : LegacyBlock iso block item) : Reads (blockLoad iso) block item := by
  obtain ⟨raw, h_raw, d, h_drops, rfl⟩ := h
  have h_reading := SameReading.drops (blockDump_keys block raw) h_drops
  exact ⟨d, rfl, (blockLoad_congr h_reading).trans (blockLoad_blockDump h_block h_raw)⟩

theorem LegacyJob.reads {job : QueueJob} {item : Json} (h_job : job.postInit = .ok ())
    (h : LegacyJob iso job item) : Reads (jobLoad iso) job item := by
  obtain ⟨d, h_drops, rfl⟩ := h
  have h_reading := SameReading.drops (jobDump_keys job) h_drops
  exact ⟨d, rfl, (jobLoad_congr h_reading).trans (jobLoad_jobDump h_job)⟩

/-- Records stored in an earlier form, each of them valid, read as themselves. -/
theorem forall₂_reads {α : Type} {legacy : α → Json → Prop} {load : Payload → Except PyError α}
    {xs : List α} {items : List Json} {valid : α → Prop} (h_valid : ∀ x ∈ xs, valid x)
    (h_reads : ∀ x item, valid x → legacy x item → Reads load x item)
    (h : List.Forall₂ legacy xs items) : List.Forall₂ (Reads load) xs items := by
  induction h with
  | nil => exact List.Forall₂.nil
  | cons h_item _ ih =>
    obtain ⟨h_x, h_xs⟩ := List.forall_mem_cons.mp h_valid
    exact List.Forall₂.cons (h_reads _ _ h_x h_item) (ih h_xs)

/-- The stored fields of a ledger read as the ledger. -/
theorem ledgerReads_of_drops {ledger : QueueLedger} {blocks jobs : List Json} {d : Payload}
    (h_blocks : List.Forall₂ (LegacyBlock iso) ledger.blocks blocks)
    (h_jobs : List.Forall₂ (LegacyJob iso) ledger.jobs jobs)
    (h_drops : Dict.Drops (NullAt ledgerNullable) (ledgerData iso ledger blocks jobs) d) :
    LedgerReads iso ledger d := by
  have h_reading := SameReading.drops (by simp [ledgerData]) h_drops
  refine ⟨?_, ⟨blocks, ?_, ?_⟩, ⟨jobs, ?_, ?_⟩, ?_, ?_⟩
  · exact h_reading.item _ (by decide)
  · exact h_reading.item _ (by decide)
  · exact forall₂_reads ledger.valid.blockChecks (fun _ _ => LegacyBlock.reads) h_blocks
  · exact h_reading.item _ (by decide)
  · exact forall₂_reads ledger.valid.jobChecks (fun _ _ => LegacyJob.reads) h_jobs
  · exact h_reading.get _
  · exact h_reading.get _

/-- **A payload of an earlier version reads as its state.** -/
theorem LegacyPayload.decodes (h : LegacyPayload iso state payload) :
    deserializePlannerState iso payload = .ok state := by
  cases h with
  | mk h_root h_nested h_rooms h_blocks h_jobs h_header =>
    have h_plan := deserializePlanRevision_reads
      (forall₂_reads state.planRevision.checks.1 (fun _ _ => LegacyRoom.reads) h_rooms)
    have h_ledger :=
      deserializeLedger_reads (ledgerReads_of_drops h_blocks h_jobs h_header) h_nested
    exact deserializePlannerState_reads h_plan h_ledger h_root

/-! ### Its comparison with the canonical payload -/

namespace Json

/-- `==` tells the two values apart, unless they are the same. -/
def Rigid (a b : Json) : Prop :=
  a.equals b = true → a = b

theorem Rigid.refl (a : Json) : Rigid a a := fun _ => rfl

theorem Rigid.str (a b : String) : Rigid (.str a) (.str b) := by
  intro h
  have h_same : (a == b) = true := h
  rw [eq_of_beq h_same]

theorem Rigid.int (m n : ℤ) : Rigid (.int m) (.int n) := by
  intro h
  have h_same : ((m : ℚ)) = (n : ℚ) := PyFloat.finite.inj (congrArg _ (of_decide_eq_true h))
  rw [Int.cast_injective h_same]

/-- Arrays are compared item by item. -/
theorem Rigid.array {as bs : List Json} (h : List.Forall₂ Rigid as bs) :
    Rigid (.array as) (.array bs) := by
  suffices h_items : equalsItems as bs = true → as = bs from
    fun h_equals => congrArg Json.array (h_items h_equals)
  induction h with
  | nil => exact fun _ => rfl
  | cons h_item _ ih =>
    intro h_equals
    obtain ⟨h_head, h_rest⟩ := Bool.and_eq_true_iff.mp h_equals
    exact congrArg₂ List.cons (h_item h_head) (ih h_rest)

theorem equalsFields_iff {as bs : List (String × Json)} : equalsFields as bs = true ↔
    ∀ entry ∈ as, ∃ b, bs.lookup entry.1 = some b ∧ entry.2.equals b = true := by
  induction as with
  | nil => exact iff_of_true rfl fun _ h => absurd h List.not_mem_nil
  | cons entry as ih =>
    obtain ⟨key, a⟩ := entry
    unfold equalsFields
    rw [Bool.and_eq_true, ih, List.forall_mem_cons]
    refine and_congr ?_ Iff.rfl
    cases bs.lookup key with
    | none => exact iff_of_false nofun nofun
    | some b => exact ⟨fun h => ⟨b, rfl, h⟩, fun ⟨_, h_b, h⟩ => Option.some.inj h_b ▸ h⟩

/-- Objects of the same keys are compared value by value. -/
theorem Rigid.object {as bs : List (String × Json)} (h_keys : (bs.map Prod.fst).Nodup)
    (h : List.Forall₂ (fun a b => a.1 = b.1 ∧ Rigid a.2 b.2) as bs) :
    Rigid (.object as) (.object bs) := by
  intro h_equals
  have h_fields := equalsFields_iff.mp (Bool.and_eq_true_iff.mp h_equals).2
  refine congrArg Json.object ?_
  rw [← List.forall₂_eq_eq_eq, List.forall₂_iff_zip]
  refine ⟨h.length_eq, fun {a b} h_mem => ?_⟩
  obtain ⟨h_key, h_rigid⟩ := List.forall₂_zip h h_mem
  obtain ⟨h_a, h_b⟩ := List.of_mem_zip h_mem
  -- the entry of the same key is the one at the same place
  obtain ⟨value, h_value, h_equal⟩ := h_fields a h_a
  rw [h_key, Dict.lookup_of_mem h_keys h_b] at h_value
  obtain rfl := Option.some.inj h_value
  exact Prod.ext h_key (h_rigid h_equal)

/-- A missing entry shows in the length. -/
theorem Rigid.sublist {as bs bs' : List (String × Json)} (h : Rigid (.object as) (.object bs))
    (h_length : as.length = bs.length) (h_sublist : bs'.Sublist bs) :
    Rigid (.object as) (.object bs') := by
  intro h_equals
  have h_length' : as.length = bs'.length := eq_of_beq (Bool.and_eq_true_iff.mp h_equals).1
  have h_all : bs' = bs := h_sublist.eq_of_length (h_length'.symm.trans h_length)
  rw [h_all] at h_equals ⊢
  exact h h_equals

end Json

open Json (Rigid)

/-- A record with one text renamed and entries missing. -/
theorem LegacyRecord.rigid {nullable : List String} {dump : Payload} {key raw text : String}
    {item : Json} (h_keys : (dump.map Prod.fst).Nodup)
    (h_lookup : dump.lookup key = some (.str text))
    (h : LegacyRecord nullable (Dict.set dump key (.str raw)) item) :
    Rigid (.object dump) item := by
  obtain ⟨d, h_drops, rfl⟩ := h
  have h_key : key ∈ dump.map Prod.fst := Dict.lookup_ne_none.mp (by rw [h_lookup]; exact nofun)
  have h_entries : List.Forall₂ (fun a b => a.1 = b.1 ∧ Rigid a.2 b.2) dump
      (Dict.set dump key (.str raw)) := by
    refine Dict.forall₂_set Rigid.refl h_key fun w h_w => ?_
    rw [h_lookup] at h_w
    obtain rfl := Option.some.inj h_w
    exact Rigid.str text raw
  have h_set : Rigid (.object dump) (.object (Dict.set dump key (.str raw))) :=
    Rigid.object (by rw [Dict.keys_set h_key]; exact h_keys) h_entries
  exact h_set.sublist h_entries.length_eq h_drops.sublist

theorem LegacyRoom.rigid {room : RoomPlan} {item : Json} (h : LegacyRoom iso room item) :
    Rigid (.object (roomDump iso room)) item := by
  obtain ⟨raw, -, h_record⟩ := h
  exact h_record.rigid (by simp [roomDump]) (roomDump_mode room)

theorem LegacyBlock.rigid {block : QueueBlock} {item : Json} (h : LegacyBlock iso block item) :
    Rigid (.object (blockDump iso block)) item := by
  obtain ⟨raw, -, h_record⟩ := h
  exact h_record.rigid (by simp [blockDump]) (blockDump_kind block)

theorem LegacyJob.rigid {job : QueueJob} {item : Json} (h : LegacyJob iso job item) :
    Rigid (.object (jobDump iso job)) item := by
  obtain ⟨d, h_drops, rfl⟩ := h
  exact (Rigid.refl _).sublist rfl h_drops.sublist

/-- The records of an array, stored in an earlier form. -/
theorem rigid_items {α : Type} {legacy : α → Json → Prop} {dump : α → Payload} {xs : List α}
    {items : List Json} (h_rigid : ∀ x item, legacy x item → Rigid (.object (dump x)) item)
    (h : List.Forall₂ legacy xs items) :
    Rigid (.array (xs.map fun x => .object (dump x))) (.array items) :=
  Rigid.array (List.forall₂_map_left_iff.mpr (h.imp h_rigid))

theorem rigid_versioned {version version' : ℤ} {kind : String} {d d' : Payload}
    (h : Rigid (.object d) (.object d')) :
    Rigid (.object (versioned version kind d)) (.object (versioned version' kind d')) := by
  refine Rigid.object (by simp [versioned]) ?_
  exact .cons ⟨rfl, Rigid.int version version'⟩ (.cons ⟨rfl, Rigid.refl _⟩ (.cons ⟨rfl, h⟩ .nil))

/-- **A stored payload that equals the canonical one is the canonical one.** -/
theorem LegacyPayload.eq_of_equals (h : LegacyPayload iso state payload)
    (h_equals : (Json.object (serializePlannerState iso state)).equals (.object payload) = true) :
    payload = serializePlannerState iso state := by
  suffices h_rigid : Rigid (.object (serializePlannerState iso state)) (.object payload) from
    (Json.object.inj (h_rigid h_equals)).symm
  cases h with
  | @mk rootVersion ledgerVersion rooms blocks jobs ledger _ _ h_rooms h_blocks h_jobs h_header =>
    -- section by section: `==` accepts a stored part only when it is the canonical one
    have h_plan : Rigid (.object (serializePlanRevision iso state.planRevision))
        (.object (envelope "plan_revision" (planData iso state.planRevision rooms))) := by
      refine rigid_versioned (Rigid.object (by simp [planData]) ?_)
      exact .cons ⟨rfl, Rigid.refl _⟩ (.cons ⟨rfl, Rigid.refl _⟩
        (.cons ⟨rfl, rigid_items (fun _ _ => LegacyRoom.rigid) h_rooms⟩ .nil))
    have h_data : List.Forall₂ (fun a b => a.1 = b.1 ∧ Rigid a.2 b.2)
        (ledgerData iso state.ledger
          (state.ledger.blocks.map fun block => .object (blockDump iso block))
          (state.ledger.jobs.map fun job => .object (jobDump iso job)))
        (ledgerData iso state.ledger blocks jobs) :=
      .cons ⟨rfl, Rigid.refl _⟩
        (.cons ⟨rfl, rigid_items (fun _ _ => LegacyBlock.rigid) h_blocks⟩
          (.cons ⟨rfl, rigid_items (fun _ _ => LegacyJob.rigid) h_jobs⟩
            (.cons ⟨rfl, Rigid.refl _⟩ (.cons ⟨rfl, Rigid.refl _⟩ .nil))))
    have h_ledger : Rigid (.object (serializeLedger iso state.ledger))
        (.object (versioned ledgerVersion "queue_ledger" ledger)) := by
      -- a ledger that lacks a null entry is told apart by its length
      have h_full := Rigid.object (by simp [ledgerData]) h_data
      exact rigid_versioned (h_full.sublist h_data.length_eq h_header.sublist)
    refine rigid_versioned (Rigid.object (by simp) ?_)
    exact .cons ⟨rfl, h_plan⟩ (.cons ⟨rfl, h_ledger⟩ .nil)

/-! ### Loading it -/

/-- **Payloads of earlier versions** decode to the state they stand for, and a load replaces
them by the canonical payload: once if they differ from it, and not otherwise. -/
theorem legacy_payload_decodes (iso : IsoFormat) (state : PlannerState) (payload : Payload)
    (h : LegacyPayload iso state payload) (writes : List Payload) :
    deserializePlannerState iso payload = .ok state ∧
    (payload ≠ serializePlannerState iso state →
      PlannerStore.asyncLoad iso Faults.none ⟨some payload, writes⟩ = (.ok (some state),
        ⟨some (serializePlannerState iso state),
          writes ++ [serializePlannerState iso state]⟩)) ∧
    (payload = serializePlannerState iso state →
      PlannerStore.asyncLoad iso Faults.none ⟨some payload, writes⟩ =
        (.ok (some state), ⟨some payload, writes⟩)) := by
  refine ⟨h.decodes, fun h_ne => ?_, fun h_canonical => ?_⟩
  · rw [PlannerStore.asyncLoad_decoded h.decodes]
    have h_differs : (Json.object (serializePlannerState iso state)).equals (.object payload) =
        false := by
      rw [← Bool.not_eq_true]
      exact fun h_equals => h_ne (h.eq_of_equals h_equals)
    rw [if_pos h_differs]
  · rw [h_canonical]
    exact PlannerStore.asyncLoad_canonical rfl rfl

/-! ### The newest and the oldest payload of a state -/

/-- No change at all. -/
theorem serializePlannerState_legacy (iso : IsoFormat) (state : PlannerState) :
    LegacyPayload iso state (serializePlannerState iso state) := by
  refine .mk (Or.inr rfl) (Or.inr rfl) ?_ ?_ ?_ (Dict.Drops.refl _ _)
  · rw [List.forall₂_map_right_iff]
    refine List.forall₂_same.mpr fun room _ => ⟨_, Or.inl rfl, _, Dict.Drops.refl _ _, ?_⟩
    rw [roomDump_named]
  · rw [List.forall₂_map_right_iff]
    refine List.forall₂_same.mpr fun block _ => ⟨_, Or.inl rfl, _, Dict.Drops.refl _ _, ?_⟩
    rw [blockDump_named]
  · rw [List.forall₂_map_right_iff]
    exact List.forall₂_same.mpr fun job _ => ⟨_, Dict.Drops.refl _ _, rfl⟩

/-- A record without its null entries. -/
def withoutNulls (nullable : List String) (d : Payload) : Payload :=
  d.filter fun entry => ¬ (entry.1 ∈ nullable ∧ entry.2 = .null)

theorem drops_withoutNulls (nullable : List String) (d : Payload) :
    Dict.Drops (NullAt nullable) d (withoutNulls nullable d) := by
  refine ⟨List.filter_sublist, fun entry h_mem => ?_⟩
  by_cases h_null : NullAt nullable entry
  · exact Or.inr h_null
  · exact Or.inl (List.mem_filter.mpr ⟨h_mem, decide_eq_true h_null⟩)

/-- Every change at once. -/
def oldestPayload (iso : IsoFormat) (state : PlannerState) : Payload :=
  let rooms := state.planRevision.roomPlans.map fun room =>
    let raw := if room.preferredMode = .vacuum then "automatic" else room.preferredMode.value
    Json.object (withoutNulls roomNullable
      (Dict.set (roomDump iso room) "preferred_mode" (.str raw)))
  let blocks := state.ledger.blocks.map fun block =>
    Json.object (withoutNulls blockNullable (Dict.set (blockDump iso block) "kind" (.str "adhoc")))
  let jobs := state.ledger.jobs.map fun job =>
    Json.object (withoutNulls jobNullable (jobDump iso job))
  rootPayload 0 0 (planData iso state.planRevision rooms)
    (withoutNulls ledgerNullable (ledgerData iso state.ledger blocks jobs))

theorem oldestPayload_legacy (iso : IsoFormat) (state : PlannerState) :
    LegacyPayload iso state (oldestPayload iso state) := by
  refine .mk (Or.inl rfl) (Or.inl rfl) ?_ ?_ ?_ (drops_withoutNulls _ _)
  · rw [List.forall₂_map_right_iff]
    refine List.forall₂_same.mpr fun room _ => ⟨_, ?_, _, drops_withoutNulls _ _, rfl⟩
    by_cases h_vacuum : room.preferredMode = .vacuum
    · rw [if_pos h_vacuum]
      exact Or.inr ⟨h_vacuum, rfl⟩
    · rw [if_neg h_vacuum]
      exact Or.inl rfl
  · rw [List.forall₂_map_right_iff]
    exact List.forall₂_same.mpr fun _ _ => ⟨_, Or.inr rfl, _, drops_withoutNulls _ _, rfl⟩
  · rw [List.forall₂_map_right_iff]
    exact List.forall₂_same.mpr fun _ _ => ⟨_, drops_withoutNulls _ _, rfl⟩

theorem legacy_payload_decodes_kitchen :
    deserializePlannerState epochFormat (oldestPayload epochFormat sealedKitchen) =
        .ok sealedKitchen ∧
      PlannerStore.asyncLoad epochFormat Faults.none
          ⟨some (oldestPayload epochFormat sealedKitchen), []⟩ =
        (.ok (some sealedKitchen), ⟨some (serializePlannerState epochFormat sealedKitchen),
          [serializePlannerState epochFormat sealedKitchen]⟩) := by
  obtain ⟨h_state, h_load, -⟩ := legacy_payload_decodes epochFormat sealedKitchen _
    (oldestPayload_legacy epochFormat sealedKitchen) []
  refine ⟨h_state, h_load fun h_same => ?_⟩
  -- the schema versions of the roots differ
  have h_version : Json.int 0 = Json.int 1 := congrArg Prod.snd (List.cons.inj h_same).1
  exact absurd h_version (by decide)

end VacuumPlanner
