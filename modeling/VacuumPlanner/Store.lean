import VacuumPlanner.Codec
import VacuumPlanner.Commands

/-!
# The planner store

`store.py`: the state is saved as one payload, and a load writes the canonical payload back
if the stored one differs from it. The comparison is Python's `==` (`Json.equals`), which
ignores the order of keys and reads a `bool` as a number; it is reflexive on a payload
whose numbers are finite (`Json.equals_refl`), and the codec writes no other
(`serializePlannerState_plain`). So what a load writes it does not write again
(`persistence_round_trip`).
-/

namespace VacuumPlanner

open Framework

/-! ### Equality of values -/

/-- `==` on numbers. -/
def PyFloat.equals : PyFloat → PyFloat → Bool
  | .finite q, .finite r => decide (q = r)
  | .infinity a, .infinity b => a == b
  | _, _ => false

namespace Json

/-- The number a value compares as. -/
def number : Json → Option PyFloat
  | .bool b => some (.finite (if b then 1 else 0))
  | .int n => some (.finite n)
  | .float x => some x
  | _ => none

mutual

/-- `==`. -/
def equals : Json → Json → Bool
  | .null, .null => true
  | .str a, .str b => a == b
  | .array as, .array bs => equalsItems as bs
  | .object as, .object bs => as.length == bs.length && equalsFields as bs
  | a, b =>
    match a.number, b.number with
    | some x, some y => x.equals y
    | _, _ => false

def equalsItems : List Json → List Json → Bool
  | [], [] => true
  | a :: as, b :: bs => equals a b && equalsItems as bs
  | _, _ => false

/-- Every entry of the first object is in the second. -/
def equalsFields : List (String × Json) → List (String × Json) → Bool
  | [], _ => true
  | (key, a) :: as, bs =>
    (match bs.lookup key with
      | some b => equals a b
      | none => false) && equalsFields as bs

end

mutual

/-- Numbers are finite and no object has a key twice. -/
def plain : Json → Bool
  | .float (.finite _) => true
  | .float _ => false
  | .array items => plainItems items
  | .object fields => decide ((fields.map Prod.fst).Nodup) && plainFields fields
  | _ => true

def plainItems : List Json → Bool
  | [] => true
  | item :: items => plain item && plainItems items

def plainFields : List (String × Json) → Bool
  | [] => true
  | (_, value) :: fields => plain value && plainFields fields

end

theorem plainItems_iff {items : List Json} :
    plainItems items = true ↔ ∀ item ∈ items, item.plain = true := by
  induction items with
  | nil => exact iff_of_true rfl fun _ h => absurd h List.not_mem_nil
  | cons item items ih =>
    unfold plainItems
    rw [Bool.and_eq_true, ih, List.forall_mem_cons]

theorem plain_object {fields : List (String × Json)} : (object fields).plain = true ↔
    (fields.map Prod.fst).Nodup ∧ plainFields fields = true := by
  unfold plain
  rw [Bool.and_eq_true, decide_eq_true_iff]

mutual

/-- A plain value equals itself. -/
theorem equals_refl : ∀ {value : Json}, value.plain = true → value.equals value = true
  | .null, _ => rfl
  | .bool _, _ => decide_eq_true rfl
  | .int _, _ => decide_eq_true rfl
  | .float (.finite _), _ => decide_eq_true rfl
  | .float (.infinity _), h => nomatch h
  | .float .nan, h => nomatch h
  | .str s, _ => beq_self_eq_true s
  | .array items, h => equalsItems_refl h
  | .object fields, h => by
    obtain ⟨h_keys, h_values⟩ := plain_object.mp h
    unfold equals
    rw [Bool.and_eq_true]
    refine ⟨beq_self_eq_true _, equalsFields_refl h_values fun entry h_mem => ?_⟩
    exact Dict.lookup_of_mem h_keys h_mem

theorem equalsItems_refl : ∀ {items : List Json},
    plainItems items = true → equalsItems items items = true
  | [], _ => rfl
  | item :: items, h => by
    obtain ⟨h_item, h_rest⟩ := Bool.and_eq_true_iff.mp h
    exact Bool.and_eq_true_iff.mpr ⟨equals_refl h_item, equalsItems_refl h_rest⟩

theorem equalsFields_refl : ∀ {fields bs : List (String × Json)}, plainFields fields = true →
    (∀ entry ∈ fields, bs.lookup entry.1 = some entry.2) → equalsFields fields bs = true
  | [], _, _, _ => rfl
  | (key, value) :: fields, bs, h, h_bs => by
    obtain ⟨h_value, h_rest⟩ := Bool.and_eq_true_iff.mp h
    obtain ⟨h_key, h_bs⟩ := List.forall_mem_cons.mp h_bs
    have h_lookup : bs.lookup key = some value := h_key
    unfold equalsFields
    rw [h_lookup, Bool.and_eq_true]
    exact ⟨equals_refl h_value, equalsFields_refl h_rest h_bs⟩

end

mutual

theorem plain_of_frozen : ∀ {value : Json}, value.frozen = true → value.plain = true
  | .null, _ => rfl
  | .bool _, _ => rfl
  | .int _, _ => rfl
  | .float (.finite _), _ => rfl
  | .float (.infinity _), h => nomatch h
  | .float .nan, h => nomatch h
  | .str _, _ => rfl
  | .array items, h => plainItems_of_frozen h
  | .object fields, h => by
    obtain ⟨h_keys, h_values⟩ := frozen_object.mp h
    refine plain_object.mpr ⟨?_, plainFields_of_frozen h_values⟩
    rw [List.Nodup, List.pairwise_map]
    exact h_keys.imp ne_of_lt

theorem plainItems_of_frozen : ∀ {items : List Json},
    frozenItems items = true → plainItems items = true
  | [], _ => rfl
  | item :: items, h => by
    obtain ⟨h_item, h_rest⟩ := Bool.and_eq_true_iff.mp h
    exact Bool.and_eq_true_iff.mpr ⟨plain_of_frozen h_item, plainItems_of_frozen h_rest⟩

theorem plainFields_of_frozen : ∀ {fields : List (String × Json)},
    frozenFields fields = true → plainFields fields = true
  | [], _ => rfl
  | (_, value) :: fields, h => by
    obtain ⟨h_value, h_rest⟩ := Bool.and_eq_true_iff.mp h
    exact Bool.and_eq_true_iff.mpr ⟨plain_of_frozen h_value, plainFields_of_frozen h_rest⟩

end

end Json

/-! ### Dumps are plain -/

namespace Serialization

variable {iso : IsoFormat}

theorem optional_plain {α : Type} {dump : α → Json} (h : ∀ x, (dump x).plain = true)
    (value : Option α) : (optional dump value).plain = true := by
  cases value with
  | none => rfl
  | some x => exact h x

theorem dtDump_plain (t : Option Instant) : (dtDump iso t).plain = true :=
  optional_plain (fun _ => rfl) t

theorem roomDump_plain (room : RoomPlan) : (Json.object (roomDump iso room)).plain = true := by
  have h_int : (optional Json.int room.vacuumAndMopIntervalDays).plain = true :=
    optional_plain (fun _ => rfl) _
  refine Json.plain_object.mpr ⟨?_, ?_⟩
  · simp [roomDump]
  · simp [roomDump, Json.plainFields, Json.plain, dtDump_plain, h_int]

theorem blockDump_plain (block : QueueBlock) :
    (Json.object (blockDump iso block)).plain = true := by
  have h_run : (optional Json.str block.adapterRunId).plain = true :=
    optional_plain (fun _ => rfl) _
  have h_ids : Json.plainItems (block.jobIds.map Json.str) = true := by
    rw [Json.plainItems_iff, List.forall_mem_map]
    exact fun _ _ => rfl
  refine Json.plain_object.mpr ⟨?_, ?_⟩
  · simp [blockDump]
  · simp [blockDump, Json.plainFields, Json.plain, dtDump_plain, h_run, h_ids]

theorem jobDump_plain (job : QueueJob) : (Json.object (jobDump iso job)).plain = true := by
  have h_str : ∀ s : Option String, (optional Json.str s).plain = true :=
    optional_plain fun _ => rfl
  have h_target : (thawJson job.adapterTargetSnapshot).plain = true :=
    Json.plain_of_frozen (thawJson_frozen _)
  refine Json.plain_object.mpr ⟨?_, ?_⟩
  · simp [jobDump]
  · simp [jobDump, Json.plainFields, Json.plain, dtDump_plain, h_str, h_target]

theorem items_plain {α : Type} {dump : α → Payload}
    (h : ∀ x, (Json.object (dump x)).plain = true) (xs : List α) :
    Json.plainItems (xs.map fun x => .object (dump x)) = true := by
  rw [Json.plainItems_iff, List.forall_mem_map]
  exact fun x _ => h x

theorem envelope_plain {kind : String} {d : Payload} (h : (Json.object d).plain = true) :
    (Json.object (envelope kind d)).plain = true := by
  refine Json.plain_object.mpr ⟨by simp [envelope], ?_⟩
  show (Json.plain (.int 1) && (Json.plain (.str kind) && (Json.plain (.object d) && true))) = true
  rw [h]
  rfl

theorem serializePlanRevision_plain (plan : PlanRevision) :
    (Json.object (serializePlanRevision iso plan)).plain = true := by
  refine envelope_plain (Json.plain_object.mpr ⟨by simp, ?_⟩)
  simp [Json.plainFields, Json.plain, dtDump_plain, items_plain roomDump_plain]

theorem serializeLedger_plain (ledger : QueueLedger) :
    (Json.object (serializeLedger iso ledger)).plain = true := by
  have h_block : (optional Json.str ledger.activeBlockId).plain = true :=
    optional_plain (fun _ => rfl) _
  refine envelope_plain (Json.plain_object.mpr ⟨by simp, ?_⟩)
  simp [Json.plainFields, Json.plain, dtDump_plain, h_block, items_plain blockDump_plain,
    items_plain jobDump_plain]

/-- **What the codec writes is plain.** -/
theorem serializePlannerState_plain (state : PlannerState) :
    (Json.object (serializePlannerState iso state)).plain = true := by
  refine envelope_plain (Json.plain_object.mpr ⟨by simp, ?_⟩)
  unfold Json.plainFields Json.plainFields Json.plainFields
  rw [serializePlanRevision_plain, serializeLedger_plain]
  rfl

end Serialization

/-! ### The store -/

open Serialization

/-- The storage backend: the stored payload, and every payload it was given, the latest
last. -/
structure Backend where
  contents : Option Payload
  writes : List Payload

/-- What the awaits of the backend raise, if they do. -/
structure Faults where
  load : Option PyError
  save : Option PyError

/-- Both awaits return. -/
def Faults.none : Faults := ⟨.none, .none⟩

/-- `StoreBackend.async_save`. A save that raises has stored nothing. -/
def Backend.asyncSave (backend : Backend) (faults : Faults) (payload : Payload) :
    Except PyError Unit × Backend :=
  match faults.save with
  | some e => (.error e, backend)
  | .none => (.ok (), ⟨some payload, backend.writes ++ [payload]⟩)

namespace PlannerStore

variable (iso : IsoFormat)

/-- `PlannerStore.async_load`. -/
def asyncLoad (faults : Faults) (backend : Backend) :
    Except PyError (Option PlannerState) × Backend :=
  match faults.load, backend.contents with
  | some e, _ => (.error e, backend)
  | .none, .none => (.ok .none, backend)
  | .none, some payload =>
    match deserializePlannerState iso payload with
    | .error e => (.error e, backend)
    | .ok state =>
      let canonical := serializePlannerState iso state
      if (Json.object canonical).equals (.object payload) = false then
        match backend.asyncSave faults canonical with
        | (.error e, backend) => (.error e, backend)
        | (.ok (), backend) => (.ok (some state), backend)
      else (.ok (some state), backend)

/-- `PlannerStore.async_save`. -/
def asyncSave (faults : Faults) (backend : Backend) (state : PlannerState) :
    Except PyError Unit × Backend :=
  backend.asyncSave faults (serializePlannerState iso state)

variable {iso : IsoFormat} {faults faults' : Faults} {backend backend' : Backend}
  {payload : Payload} {state : PlannerState}

/-- A load of a payload that decodes, when the backend does not raise. -/
theorem asyncLoad_decoded (h : deserializePlannerState iso payload = .ok state)
    (writes : List Payload) :
    asyncLoad iso Faults.none ⟨some payload, writes⟩ = (.ok (some state),
      if (Json.object (serializePlannerState iso state)).equals (.object payload) = false then
        ⟨some (serializePlannerState iso state), writes ++ [serializePlannerState iso state]⟩
      else ⟨some payload, writes⟩) := by
  unfold asyncLoad
  simp only [Faults.none, h]
  split <;> rfl

/-- A canonical payload is loaded without a write. -/
theorem asyncLoad_canonical (h_load : faults.load = none)
    (h : backend.contents = some (serializePlannerState iso state)) :
    asyncLoad iso faults backend = (.ok (some state), backend) := by
  have h_plain : (Json.object (serializePlannerState iso state)).plain = true :=
    serializePlannerState_plain state
  have h_equal := Json.equals_refl h_plain
  unfold asyncLoad
  simp only [h_load, h, deserializePlannerState_serialize, h_equal, Bool.true_eq_false, if_false]

/-- **A second load** returns what the first returned, and writes nothing. -/
theorem asyncLoad_idempotent {loaded : Option PlannerState}
    (h : asyncLoad iso faults backend = (.ok loaded, backend')) (h_load : faults'.load = none) :
    asyncLoad iso faults' backend' = (.ok loaded, backend') := by
  unfold asyncLoad at h
  split at h
  · exact nomatch h
  · next h_contents =>
    cases h
    unfold asyncLoad
    rw [h_load, h_contents]
  · next payload h_contents =>
    split at h
    · exact nomatch h
    · next state h_decoded =>
      dsimp only at h
      split at h
      · -- the first load saved the canonical payload
        unfold Backend.asyncSave at h
        cases h_save : faults.save with
        | some e =>
          rw [h_save] at h
          exact nomatch h
        | none =>
          rw [h_save] at h
          cases h
          exact asyncLoad_canonical h_load rfl
      · next h_equal =>
        cases h
        unfold asyncLoad
        simp only [h_load, h_contents, h_decoded, if_neg h_equal]

end PlannerStore

/-- **Persistence is a round trip.** A state is read back from what it is written as;
so is the state of any payload that is accepted; and once a load has returned, a second one
returns the same state and writes nothing. -/
theorem persistence_round_trip (iso : IsoFormat) :
    (∀ state, deserializePlannerState iso (serializePlannerState iso state) = .ok state) ∧
    (∀ payload state, deserializePlannerState iso payload = .ok state →
      deserializePlannerState iso (serializePlannerState iso state) = .ok state) ∧
    ∀ faults backend loaded backend',
      PlannerStore.asyncLoad iso faults backend = (.ok loaded, backend') →
      ∀ faults' : Faults, faults'.load = none →
        PlannerStore.asyncLoad iso faults' backend' = (.ok loaded, backend') := by
  refine ⟨deserializePlannerState_serialize, fun _ state _ => ?_, ?_⟩
  · exact deserializePlannerState_serialize state
  · intro faults backend loaded backend' h faults' h_load
    exact PlannerStore.asyncLoad_idempotent h h_load

/-! ### A format -/

/-- Prints the epoch as `isoformat` does, and every other instant in unary. -/
def epochFormat : IsoFormat where
  isoformat t :=
    if t = 0 then "1970-01-01T00:00:00+00:00"
    else String.ofList ((if 0 < t then '+' else '-') :: List.replicate t.natAbs '0')
  fromisoformat s :=
    match s.toList with
    | '+' :: digits => .ok digits.length
    | '-' :: digits => .ok (-digits.length)
    | _ =>
      if s = "1970-01-01T00:00:00+00:00" then .ok 0
      else .error (.valueError ("Invalid isoformat string: '" ++ s ++ "'"))
  inverse t := by
    by_cases h_zero : t = 0
    · rw [h_zero]
      rfl
    · rw [if_neg h_zero, String.toList_ofList]
      by_cases h_pos : 0 < t
      · rw [if_pos h_pos]
        show Except.ok ((List.replicate t.natAbs '0').length : ℤ) = .ok t
        rw [List.length_replicate, Int.natAbs_of_nonneg h_pos.le]
      · rw [if_neg h_pos]
        show Except.ok (-(List.replicate t.natAbs '0').length : ℤ) = .ok t
        rw [List.length_replicate, Int.ofNat_natAbs_of_nonpos (not_lt.mp h_pos), neg_neg]

/-- The kitchen is sealed at the epoch, with its two segments as the target. -/
def sealedKitchen : PlannerState where
  planRevision := kitchenPlan
  ledger :=
    { schemaVersion := 1
      revision := 1
      blocks := [sealedBlock kitchenSnapshot "robot" "key" 0 kitchenIds .nativeBatch
        .plannerAtomic]
      jobs := [sealedJob "block" 0 "job" 0 ⟨"kitchen", "Kitchen",
        ⟨.object [("segments", .array [.int 1, .int 2])], rfl⟩, .vacuum, 0, 0⟩]
      activeBlockId := none
      lastReconciledAt := none
      checked := by decide }
  lane := by decide

theorem persistence_round_trip_kitchen :
    deserializePlannerState epochFormat (serializePlannerState epochFormat sealedKitchen) =
        .ok sealedKitchen ∧
      PlannerStore.asyncLoad epochFormat Faults.none
          ⟨some (serializePlannerState epochFormat sealedKitchen), []⟩ =
        (.ok (some sealedKitchen), ⟨some (serializePlannerState epochFormat sealedKitchen), []⟩) := by
  obtain ⟨h_state, -, h_load⟩ := persistence_round_trip epochFormat
  have h_first : PlannerStore.asyncLoad epochFormat Faults.none
      ⟨some (serializePlannerState epochFormat sealedKitchen), []⟩ =
      (.ok (some sealedKitchen), ⟨some (serializePlannerState epochFormat sealedKitchen), []⟩) :=
    PlannerStore.asyncLoad_canonical rfl rfl
  exact ⟨h_state sealedKitchen, h_load _ _ _ _ h_first Faults.none rfl⟩

end VacuumPlanner
