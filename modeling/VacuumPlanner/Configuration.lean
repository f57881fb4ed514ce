import VacuumPlanner.Codec
import VacuumPlanner.Framework.Dict

/-!
# What an entry is configured with

`entry.data` as the setup reads it: the areas of the entry, and the settings the config flow has
collected for each of them. An entry of an earlier version has no settings, or some of them, and
`_configured_area_plans` fills in what is missing.

`_initial_planner_state` makes the first planner state of them. Whether it can is decided by the
settings alone, area by area (`initialPlannerState_isOk`), and what it makes is the plan they say
(`initialPlannerState_ok`).
-/

namespace VacuumPlanner

open Framework Serialization

/-- The settings of one area as they are stored. A key that is missing is `none`. -/
structure AreaSettings where
  areaActive : Option Bool
  vacuumIntervalDays : Option ℤ
  mopIntervalDays : Option ℤ
  priority : Option ℤ
  mode : Option String
  deriving DecidableEq

/-- No settings. What is no mapping counts as none. -/
def AreaSettings.none : AreaSettings := ⟨.none, .none, .none, .none, .none⟩

/-- A value of a type; a `bool` is no `int` here. -/
def asBool : Json → Option Bool
  | .bool b => some b
  | _ => none

def asInt : Json → Option ℤ
  | .int n => some n
  | _ => none

def asStr : Json → Option String
  | .str s => some s
  | _ => none

/-- A stored value, if it is missing or of its type. -/
def stored {α : Type} (type : Json → Option α) (settings : Payload) (key : String) :
    Option (Option α) :=
  match settings.lookup key with
  | none => some none
  | some value => (type value).map some

/-- The settings of an area as they are read from storage. A value of another type is nothing
the config flow has written. -/
def AreaSettings.read (settings : Payload) : Option AreaSettings := do
  let areaActive ← stored asBool settings "active"
  let vacuumIntervalDays ← stored asInt settings "vacuum_interval_days"
  let mopIntervalDays ← stored asInt settings "mop_interval_days"
  let priority ← stored asInt settings "priority"
  let mode ← stored asStr settings "mode"
  return ⟨areaActive, vacuumIntervalDays, mopIntervalDays, priority, mode⟩

structure EntryData where
  entryId : String
  /-- The registry id of the vacuum. -/
  uniqueId : Option String
  vacuumEntityId : String
  areaIds : List String
  /-- `area_plans`, with the areas that have settings. -/
  areaPlans : List (String × AreaSettings)

/-- The plan of one area with nothing missing. -/
structure AreaPlan where
  areaActive : Bool
  vacuumIntervalDays : ℤ
  mopIntervalDays : ℤ
  priority : ℤ
  mode : String
  deriving DecidableEq

/-- The plan as the config flow stores it. -/
def AreaPlan.dump (settings : AreaPlan) : Payload :=
  [("active", .bool settings.areaActive),
    ("vacuum_interval_days", .int settings.vacuumIntervalDays),
    ("mop_interval_days", .int settings.mopIntervalDays),
    ("priority", .int settings.priority), ("mode", .str settings.mode)]

/-- The settings of an area with the defaults filled in; its place is its default priority. -/
def AreaSettings.plan (settings : AreaSettings) (index : ℕ) : AreaPlan where
  areaActive := settings.areaActive.getD true
  vacuumIntervalDays := settings.vacuumIntervalDays.getD 7
  mopIntervalDays := settings.mopIntervalDays.getD 7
  priority := settings.priority.getD index
  mode := settings.mode.getD PreferredMode.vacuum.value

/-- `_configured_area_plans`. -/
def configuredAreaPlans (entry : EntryData) : List (String × AreaPlan) :=
  entry.areaIds.zipIdx.foldl (fun result (areaId, index) =>
    Dict.set result areaId (((entry.areaPlans.lookup areaId).getD .none).plan index)) []

/-- `_entry_requires_vacuum_and_mop`. -/
def entryRequiresVacuumAndMop (entry : EntryData) : Bool :=
  (configuredAreaPlans entry).any fun (_, settings) =>
    settings.mode = PreferredMode.vacuumAndMop.value

/-- `_state_requires_vacuum_and_mop`, of a state that is there. -/
def stateRequiresVacuumAndMop (state : PlannerState) : Bool :=
  state.planRevision.roomPlans.any fun plan =>
    plan.enabled && plan.vacuumAndMopIntervalDays.isSome && plan.preferredMode = .vacuumAndMop

/-- `lane_id`: an empty registry id counts as none. -/
def EntryData.laneId (entry : EntryData) : String :=
  (entry.uniqueId.filter (· ≠ "")).getD entry.entryId

/-- The room plan of one configured area, checked as it is built. -/
def AreaPlan.roomPlan (laneId areaId : String) (settings : AreaPlan) : Except PyError RoomPlan := do
  let mode ← preferredMode settings.mode
  let room : RoomPlan := {
    areaId, laneId
    enabled := settings.areaActive
    vacuumIntervalDays := settings.vacuumIntervalDays
    vacuumAndMopIntervalDays := some settings.mopIntervalDays
    preferredMode := mode
    priority := settings.priority
    skipUntil := none
    lastCompletedVacuumAt := none
    lastCompletedVacuumAndMopAt := none }
  room.postInit
  return room

/-- `_initial_planner_state`, with the revision id and the time it draws. -/
def initialPlannerState (entry : EntryData) (revisionId : String) (now : Instant) :
    Except PyError PlannerState := do
  let rooms ← (configuredAreaPlans entry).mapM fun (areaId, settings) =>
    settings.roomPlan entry.laneId areaId
  let planRevision ← PlanRevisionFields.construct ⟨revisionId, now, rooms⟩
  PlannerState.construct planRevision .empty

/-! ### The configured plans -/

/-- Complete settings are read back, and have no use for a default. -/
theorem AreaSettings.read_dump (settings : AreaPlan) : ∃ read, AreaSettings.read settings.dump =
    some read ∧ ∀ index, read.plan index = settings :=
  ⟨⟨some settings.areaActive, some settings.vacuumIntervalDays, some settings.mopIntervalDays,
    some settings.priority, some settings.mode⟩, rfl, fun _ => rfl⟩

variable {entry : EntryData} {revisionId : String} {now : Instant} {state : PlannerState}

/-- The loop over the areas, from one of them on. -/
theorem configuredAreaPlans_loop (entry : EntryData) (areaIds : List String) (index : ℕ)
    (result : List (String × AreaPlan))
    (h : (result.map Prod.fst ++ areaIds).Nodup) :
    (areaIds.zipIdx index).foldl (fun result (areaId, index) =>
      Dict.set result areaId (((entry.areaPlans.lookup areaId).getD .none).plan index)) result =
    result ++ (areaIds.zipIdx index).map fun (areaId, index) =>
      (areaId, ((entry.areaPlans.lookup areaId).getD .none).plan index) := by
  induction areaIds generalizing index result with
  | nil => exact (List.append_nil _).symm
  | cons areaId areaIds ih =>
    have h_new : areaId ∉ result.map Prod.fst := fun h_mem =>
      List.disjoint_of_nodup_append h h_mem List.mem_cons_self
    rw [List.zipIdx_cons, List.foldl_cons, List.map_cons]
    dsimp only
    rw [Dict.set_of_not_mem h_new, ih, List.append_assoc, List.singleton_append]
    rw [List.map_append, List.append_assoc]
    exact h

/-- Without duplicates every area has its plan, in the order of the areas. -/
theorem configuredAreaPlans_eq (h : entry.areaIds.Nodup) :
    configuredAreaPlans entry = entry.areaIds.zipIdx.map fun (areaId, index) =>
      (areaId, ((entry.areaPlans.lookup areaId).getD .none).plan index) := by
  unfold configuredAreaPlans
  rw [configuredAreaPlans_loop entry entry.areaIds 0 [] h, List.nil_append]

theorem set_keys_nodup {α : Type} {d : List (String × α)} (h : (d.map Prod.fst).Nodup)
    (k : String) (v : α) : ((Dict.set d k v).map Prod.fst).Nodup := by
  by_cases h_key : k ∈ d.map Prod.fst
  · rw [Dict.keys_set h_key]
    exact h
  · rw [Dict.set_of_not_mem h_key, List.map_append, List.nodup_append']
    refine ⟨h, List.nodup_singleton k, fun l h_l h_k => h_key ?_⟩
    obtain rfl : l = k := List.mem_singleton.mp h_k
    exact h_l

/-- With them it still has one plan an area. -/
theorem configuredAreaPlans_nodup (entry : EntryData) :
    ((configuredAreaPlans entry).map Prod.fst).Nodup := by
  unfold configuredAreaPlans
  -- what is set again keeps its place, so no key comes twice
  have h_nil : (([] : List (String × AreaPlan)).map Prod.fst).Nodup := List.nodup_nil
  generalize ([] : List (String × AreaPlan)) = result at h_nil ⊢
  induction entry.areaIds.zipIdx generalizing result with
  | nil => exact h_nil
  | cons area areas ih => exact ih _ (set_keys_nodup h_nil _ _)

/-! ### The first state -/

/-- The settings of an area a plan can be made of. -/
structure AreaPlan.Valid (settings : AreaPlan) : Prop where
  vacuumInterval : 0 < settings.vacuumIntervalDays
  mopInterval : 0 < settings.mopIntervalDays
  mode : ∃ m : PreferredMode, settings.mode = m.value

/-- The room plan it makes, in the mode it names. -/
def AreaPlan.room (laneId areaId : String) (settings : AreaPlan) (m : PreferredMode) : RoomPlan where
  areaId := areaId
  laneId := laneId
  enabled := settings.areaActive
  vacuumIntervalDays := settings.vacuumIntervalDays
  vacuumAndMopIntervalDays := some settings.mopIntervalDays
  preferredMode := m
  priority := settings.priority
  skipUntil := none
  lastCompletedVacuumAt := none
  lastCompletedVacuumAndMopAt := none

theorem preferredMode_eq_ok {raw : String} {m : PreferredMode} :
    preferredMode raw = .ok m ↔ raw = m.value := by
  constructor
  · intro h
    unfold preferredMode member at h
    rw [orRaise_eq_ok] at h
    have h_value := List.find?_some h
    exact (of_decide_eq_true h_value).symm
  · rintro rfl
    exact preferredMode_value m

theorem AreaPlan.room_postInit {laneId areaId : String} {settings : AreaPlan} {m : PreferredMode} :
    (settings.room laneId areaId m).postInit = .ok () ↔ ¬ isBlank areaId = true ∧
      ¬ isBlank laneId = true ∧ 0 < settings.vacuumIntervalDays ∧ 0 < settings.mopIntervalDays := by
  unfold RoomPlan.postInit
  rw [seq_eq_ok, seq_eq_ok, seq_eq_ok, seq_eq_ok, requireText_eq_ok, requireText_eq_ok,
    raiseIf_eq_ok, raiseIf_eq_ok, raiseIf_eq_ok]
  simp only [AreaPlan.room, Option.mem_def, Option.some.injEq, exists_eq_left', not_le,
    reduceCtorEq, and_false, not_false_eq_true, and_true]

theorem AreaPlan.roomPlan_eq_ok {laneId areaId : String} {settings : AreaPlan} {room : RoomPlan} :
    settings.roomPlan laneId areaId = .ok room ↔ ¬ isBlank areaId = true ∧
      ¬ isBlank laneId = true ∧ settings.Valid ∧
        ∃ m, settings.mode = m.value ∧ room = settings.room laneId areaId m := by
  unfold AreaPlan.roomPlan
  simp only [bind_eq_ok, preferredMode_eq_ok, exists_unit, pure_eq_ok]
  constructor
  · rintro ⟨m, h_mode, h_checked, rfl⟩
    obtain ⟨h_area, h_lane, h_vacuum, h_mop⟩ := AreaPlan.room_postInit.mp h_checked
    exact ⟨h_area, h_lane, ⟨h_vacuum, h_mop, m, h_mode⟩, m, h_mode, rfl⟩
  · rintro ⟨h_area, h_lane, h_valid, m, h_mode, rfl⟩
    exact ⟨m, h_mode, AreaPlan.room_postInit.mpr
      ⟨h_area, h_lane, h_valid.vacuumInterval, h_valid.mopInterval⟩, rfl⟩

/-- The rooms are those of the areas, each in the mode its settings name. -/
def RoomsOf (laneId : String) (areas : List (String × AreaPlan)) (rooms : List RoomPlan) : Prop :=
  List.Forall₂ (fun area room => ∃ m : PreferredMode, area.2.mode = m.value ∧
    room = area.2.room laneId area.1 m) areas rooms

namespace RoomsOf

variable {laneId : String} {areas : List (String × AreaPlan)} {rooms : List RoomPlan}

theorem areaIds (h : RoomsOf laneId areas rooms) :
    rooms.map (·.areaId) = areas.map Prod.fst := by
  rw [← List.forall₂_eq_eq_eq, List.forall₂_map_left_iff, List.forall₂_map_right_iff]
  exact h.flip.imp fun room area ⟨_, _, h_room⟩ => congrArg RoomPlan.areaId h_room

theorem of_mem {room : RoomPlan} (h : RoomsOf laneId areas rooms) (h_room : room ∈ rooms) :
    ∃ area ∈ areas, ∃ m : PreferredMode, area.2.mode = m.value ∧
      room = area.2.room laneId area.1 m := by
  induction h with
  | nil => exact nomatch h_room
  | @cons area _ _ _ h_first _ ih =>
    rcases List.mem_cons.mp h_room with rfl | h_rest
    · exact ⟨area, List.mem_cons_self, h_first⟩
    · obtain ⟨area', h_area, h_own⟩ := ih h_rest
      exact ⟨area', List.mem_cons_of_mem _ h_area, h_own⟩

/-- The pass of `_initial_planner_state` over the areas. -/
theorem mapM_eq_ok : areas.mapM (fun (areaId, settings) => settings.roomPlan laneId areaId) =
      .ok rooms ↔
    (∀ area ∈ areas, ¬ isBlank area.1 = true ∧ ¬ isBlank laneId = true ∧ area.2.Valid) ∧
      RoomsOf laneId areas rooms := by
  constructor
  · intro h
    refine ⟨fun area h_area => ?_, (mapM_eq_ok_iff.mp h).imp fun area room h_room => ?_⟩
    · obtain ⟨room, -, h_room⟩ := mem_of_mapM_eq_ok h h_area
      obtain ⟨h_id, h_lane, h_valid, -⟩ := AreaPlan.roomPlan_eq_ok.mp h_room
      exact ⟨h_id, h_lane, h_valid⟩
    · exact (AreaPlan.roomPlan_eq_ok.mp h_room).2.2.2
  · rintro ⟨h_valid, h_rooms⟩
    rw [mapM_eq_ok_iff]
    induction h_rooms with
    | nil => exact .nil
    | cons h_room _ ih =>
      obtain ⟨h_id, h_lane, h_area⟩ := h_valid _ List.mem_cons_self
      exact .cons (AreaPlan.roomPlan_eq_ok.mpr ⟨h_id, h_lane, h_area, h_room⟩)
        (ih fun area h => h_valid area (List.mem_cons_of_mem _ h))

end RoomsOf

/-- The settings of an entry a first state can be made of. -/
def EntryData.Valid (entry : EntryData) : Prop :=
  ∀ area ∈ configuredAreaPlans entry,
    ¬ isBlank area.1 = true ∧ ¬ isBlank entry.laneId = true ∧ area.2.Valid

/-- What the first state is. -/
structure InitialState (entry : EntryData) (revisionId : String) (now : Instant)
    (state : PlannerState) : Prop where
  rooms : RoomsOf entry.laneId (configuredAreaPlans entry) state.planRevision.roomPlans
  revision : state.planRevision.revisionId = revisionId
  created : state.planRevision.createdAt = now
  ledger : state.ledger = .empty

theorem initialPlannerState_ok (h : initialPlannerState entry revisionId now = .ok state) :
    InitialState entry revisionId now state := by
  unfold initialPlannerState at h
  obtain ⟨rooms, h_rooms, h⟩ := bind_eq_ok.mp h
  obtain ⟨plan, h_plan, h⟩ := bind_eq_ok.mp h
  obtain ⟨h_revision, h_ledger⟩ := PlannerState.construct_eq_ok.mp h
  have h_fields : state.planRevision.toPlanRevisionFields = ⟨revisionId, now, rooms⟩ :=
    h_revision ▸ PlanRevisionFields.construct_eq_ok.mp h_plan
  refine ⟨?_, congrArg PlanRevisionFields.revisionId h_fields,
    congrArg PlanRevisionFields.createdAt h_fields, h_ledger⟩
  rw [h_fields]
  exact (RoomsOf.mapM_eq_ok.mp h_rooms).2

/-- The rooms of valid settings are a plan revision. -/
theorem RoomsOf.postInit {rooms : List RoomPlan} (h_valid : entry.Valid)
    (h_revision : ¬ isBlank revisionId = true)
    (h : RoomsOf entry.laneId (configuredAreaPlans entry) rooms) (now : Instant) :
    PlanRevisionFields.postInit ⟨revisionId, now, rooms⟩ = .ok () := by
  unfold PlanRevisionFields.postInit
  rw [seq_eq_ok, seq_eq_ok, seq_eq_ok, checkAll_eq_ok, requireText_eq_ok, raiseIf_eq_ok,
    raiseIf_eq_ok, not_not]
  -- every room passes its check, the id is a text, no area twice, and one lane at most
  refine ⟨fun room h_room => ?_, h_revision, ?_, ?_⟩
  · obtain ⟨area, h_area, m, -, rfl⟩ := h.of_mem h_room
    obtain ⟨h_id, h_lane, h_settings⟩ := h_valid area h_area
    exact AreaPlan.room_postInit.mpr
      ⟨h_id, h_lane, h_settings.vacuumInterval, h_settings.mopInterval⟩
  · show (rooms.map (·.areaId)).Nodup
    rw [h.areaIds]
    exact configuredAreaPlans_nodup entry
  -- all rooms are in the lane of the entry
  · have h_lane : ∀ room ∈ rooms, room.laneId = entry.laneId := by
      intro room h_room
      obtain ⟨area, -, m, -, rfl⟩ := h.of_mem h_room
      rfl
    rw [not_lt, Finset.card_le_one]
    intro lane h_mem lane' h_mem'
    obtain ⟨room, h_room, rfl⟩ := List.mem_map.mp (List.mem_toFinset.mp h_mem)
    obtain ⟨room', h_room', rfl⟩ := List.mem_map.mp (List.mem_toFinset.mp h_mem')
    exact (h_lane room h_room).trans (h_lane room' h_room').symm

/-- **The first state of an entry** is there exactly when its ids are texts and its settings are
valid. -/
theorem initialPlannerState_isOk :
    (∃ state, initialPlannerState entry revisionId now = .ok state) ↔
      entry.Valid ∧ ¬ isBlank revisionId = true := by
  unfold initialPlannerState
  constructor
  · rintro ⟨state, h⟩
    obtain ⟨rooms, h_rooms, h⟩ := bind_eq_ok.mp h
    obtain ⟨plan, h_plan, -⟩ := bind_eq_ok.mp h
    have h_revision := requireText_eq_ok.mp plan.checks.2.1
    rw [PlanRevisionFields.construct_eq_ok.mp h_plan] at h_revision
    exact ⟨(RoomsOf.mapM_eq_ok.mp h_rooms).1, h_revision⟩
  · rintro ⟨h_valid, h_revision⟩
    obtain ⟨rooms, h_rooms⟩ := mapM_isOk (f := fun (areaId, settings) =>
        AreaPlan.roomPlan entry.laneId areaId settings) fun area h_area =>
      have ⟨h_id, h_lane, h_area⟩ := h_valid area h_area
      have ⟨m, h_mode⟩ := h_area.mode
      ⟨_, AreaPlan.roomPlan_eq_ok.mpr ⟨h_id, h_lane, h_area, m, h_mode, rfl⟩⟩
    have h_checked := (RoomsOf.mapM_eq_ok.mp h_rooms).2.postInit h_valid h_revision now
    -- an empty queue has no block of another lane
    have h_lane : ∀ room ∈ rooms.head?, ∀ block ∈ QueueLedger.empty.blocks,
        block.laneId = room.laneId := fun _ _ _ h => nomatch h
    exact ⟨⟨⟨_, h_checked⟩, .empty, h_lane⟩, bind_eq_ok.mpr ⟨rooms, h_rooms, bind_eq_ok.mpr
      ⟨_, PlanRevisionFields.construct_eq_ok.mpr rfl, PlannerState.construct_eq_ok.mpr ⟨rfl, rfl⟩⟩⟩⟩

end VacuumPlanner
