import VacuumPlanner.NextAction
import VacuumPlanner.Preflight
import VacuumPlanner.Repairs

/-!
# The topology of an entry

`topology.py`, `find_dreame_mova_cleaning_mode_entity` and the two functions of `__init__.py`
that read the same registries: `_configured_topology_issues`, which the setup and the listeners
ask, and `_resolve_area_bindings`, which a command asks. They are written separately, so whether
an entry that passes the first can fail the second is a question about both.

`Home` is what they see of Home Assistant. It has more than the `HomeAssistant` of the adapter,
which is a part of it (`Home.hass`).
-/

namespace VacuumPlanner

open Framework Serialization

/-! ### The registries -/

/-- An entry of the entity registry with everything the planner reads of it. -/
structure HomeEntry extends RegistryEntry where
  platform : Option String
  deviceId : Option String
  options : Payload

structure Home where
  entries : String → Option HomeEntry
  states : String → Option EntityState
  /-- `async_entries_for_device`. -/
  devices : String → List HomeEntry
  /-- The area registry: the name of an area. -/
  areas : String → Option String
  cleanAreaFeature : ℕ

/-- The part of it the adapter sees. -/
def Home.hass (home : Home) : HomeAssistant where
  registry id := (home.entries id).map (·.toRegistryEntry)
  states := home.states
  cleanAreaFeature := home.cleanAreaFeature

/-! ### `topology.py` -/

inductive TopologyError where
  | entityNotFound
  | cleanAreaUnsupported
  | areasRequired
  | areasDuplicate
  | areasNotMapped
  deriving DecidableEq

/-- The error as a form shows it. -/
def TopologyError.key : TopologyError → String
  | .entityNotFound => "entity_not_found"
  | .cleanAreaUnsupported => "clean_area_unsupported"
  | .areasRequired => "areas_required"
  | .areasDuplicate => "areas_duplicate"
  | .areasNotMapped => "areas_not_mapped"

/-- `async_get_valid_vacuum`. -/
def asyncGetValidVacuum (home : Home) (id : String) : Except TopologyError HomeEntry := do
  let entry ← orRaise (home.entries id) .entityNotFound
  let entityId ← orRaise entry.entityId .entityNotFound
  let entity ← orRaise (home.states entityId) .entityNotFound
  raiseIf (entity.offline = true) .entityNotFound
  raiseIf (supportsCleanArea home.hass (entity.attributes.get "supported_features") = false)
    .cleanAreaUnsupported
  return entry

/-- `area_mapping`. -/
def areaMapping (entry : HomeEntry) : Option Payload :=
  match entry.options.get "vacuum" with
  | .object vacuumOptions =>
    match Payload.get vacuumOptions "area_mapping" with
    | .object mapping => some mapping
    | _ => none
  | _ => none

/-- A segment id: `isinstance(segment, str) and segment.strip()`. -/
def segmentId : Json → Option String
  | .str segment => if isBlank segment then none else some segment
  | _ => none

/-- The segments of an area: a list of segment ids, and not an empty one. -/
def segmentsOf : Json → Option (List String)
  | .array [] => none
  | .array segments => segments.mapM segmentId
  | _ => none

/-- `validate_area_ids`. -/
def validateAreaIds (areaIds : List String) (entry : HomeEntry) : Except TopologyError Unit := do
  raiseIf (areaIds = []) .areasRequired
  raiseIf (¬ areaIds.Nodup) .areasDuplicate
  let mapping ← orRaise (areaMapping entry) .areasNotMapped
  raiseIf (∃ areaId ∈ areaIds, segmentsOf (mapping.get areaId) = none) .areasNotMapped

/-! ### The cleaning-mode selector -/

/-- `_VENDOR_PLATFORMS`. -/
def vendorPlatforms : List String := ["dreame_vacuum", "mova"]

/-- The state of the selector offers both modes. -/
def offersModes (home : Home) (entityId : String) : Except Rejection Bool :=
  match home.states entityId with
  | none => .ok false
  | some entity =>
    match entity.offline, entity.attributes.get "options" with
    | false, .array options => do
      -- `issubset` makes a set of the options first
      raiseIf (∃ option ∈ options, option.hashable = false) .typeError
      return ∀ option ∈ modeOptions, .str option ∈ options
    | _, _ => .ok false

/-- The loop of `find_dreame_mova_cleaning_mode_entity`. -/
def findModeSelector (home : Home) : List HomeEntry → Except Rejection (Option String)
  | [] => .ok none
  | entry :: rest =>
    match entry.uniqueId, entry.entityId with
    | some uniqueId, some entityId =>
      if entry.domain = some "select" && namesCleaningMode uniqueId && !entry.disabled &&
          entry.disabledBy.isNone then do
        let offers ← offersModes home entityId
        if offers then return some entityId else findModeSelector home rest
      else findModeSelector home rest
    | _, _ => findModeSelector home rest

/-- `find_dreame_mova_cleaning_mode_entity`. -/
def findDreameMovaCleaningModeEntity (home : Home) (vacuumRegistryId : Option String) :
    Except Rejection (Option String) :=
  match vacuumRegistryId.bind home.entries with
  | none => .ok none
  | some entry =>
    match entry.platform, entry.deviceId with
    | some platform, some deviceId =>
      if platform ∈ vendorPlatforms then findModeSelector home (home.devices deviceId)
      else .ok none
    | _, _ => .ok none

/-! ### The issues of a topology -/

/-- The issues `_configured_topology_issues` finds with the vacuum and its mapping. -/
def vacuumIssues (home : Home) (registryId : String) (areaIds : List String) :
    Finset IssueCondition :=
  match asyncGetValidVacuum home registryId with
  | .error .cleanAreaUnsupported => {.lostCapability}
  | .error _ => {.missingRegistry}
  | .ok entry =>
    match areaMapping entry with
    | none | some [] => {.missingMapping}
    | some _ =>
      match validateAreaIds areaIds entry with
      | .ok () => ∅
      | .error _ => {.removedAreas}

/-- The issue it finds with the areas. -/
def areaIssues (home : Home) (areaIds : List String) : Finset IssueCondition :=
  if ∃ areaId ∈ areaIds, home.areas areaId = none then {.removedAreas} else ∅

/-- The selector it asks for: the one that was bound, if there is one. -/
def configuredModeSelector (home : Home) (registryId : String)
    (cleaningModeRegistryId : Option String) : Except Rejection (Option String) :=
  match cleaningModeRegistryId with
  | some selectorId => resolveBoundCleaningModeEntity home.hass (some selectorId)
  | none => findDreameMovaCleaningModeEntity home (some registryId)

/-- `_configured_topology_issues`. -/
def configuredTopologyIssues (home : Home) (registryId : String) (areaIds : List String)
    (requiresVacuumAndMop : Bool) (cleaningModeRegistryId : Option String) :
    Except Rejection (Finset IssueCondition) := do
  -- the selector is looked up even where none is required
  let selector ← configuredModeSelector home registryId cleaningModeRegistryId
  return vacuumIssues home registryId areaIds ∪ areaIssues home areaIds ∪
    if requiresVacuumAndMop = true ∧ selector = none then {.lostCapability} else ∅

/-! ### The bindings of a command -/

/-- Segment ids are an adapter target as they are. -/
theorem plainTarget_frozen (segments : List String) :
    (Json.array (segments.map .str)).frozen = true := by
  show Json.frozenItems _ = true
  induction segments with
  | nil => rfl
  | cons segment segments ih =>
    rw [List.map_cons, Json.frozenItems, ih]
    rfl

/-- The loop body of `_resolve_area_bindings`. -/
def resolveAreaBinding (home : Home) (mapping : Payload) (supportsVacuumAndMop : Bool)
    (plan : RoomPlan) : Except PyError AreaBinding :=
  match segmentsOf (mapping.get plan.areaId), home.areas plan.areaId with
  | some segments, some areaName =>
    AreaBindingFields.construct
      ⟨plan.areaId, areaName, ⟨.array (segments.map .str), plainTarget_frozen segments⟩,
        supportsVacuumAndMop⟩
  | _, _ => .error
      (.serviceValidationError ("Area " ++ plan.areaId ++ " has no valid vacuum mapping"))

/-- The registry entry `_resolve_area_bindings` reads, and its mapping. -/
def commandMapping (config : NativeConfig) (home : Home) (vacuumEntityId : String) :
    Except PyError Payload := do
  -- an empty registry id counts as none
  let id := (config.vacuumRegistryId.filter (· ≠ "")).getD vacuumEntityId
  let entry ← orRaise (home.entries id)
    (.serviceValidationError "Configured vacuum entity is no longer registered")
  orRaise (areaMapping entry)
    (.serviceValidationError "Configured vacuum has no Home Assistant area mapping")

/-- `_resolve_area_bindings`. -/
def resolveAreaBindings (config : NativeConfig) (home : Home) (vacuumEntityId : String)
    (r : Runtime) : Except Rejection (List AreaBinding) × Runtime :=
  match commandMapping config home vacuumEntityId with
  | .error e => (.error (.raised e), r)
  | .ok mapping =>
    match resolveCommandCleaningMode config home.hass r with
    | (.error e, r) => (.error e, r)
    | (.ok selector, r) =>
      ((r.state.planRevision.roomPlans.mapM
        (resolveAreaBinding home mapping selector.isSome)).mapError .raised, r)

/-- The bindings as the mapping a plan is evaluated with. -/
def bindingsByArea (bindings : List AreaBinding) (areaId : String) : Option AreaBinding :=
  bindings.find? (·.areaId = areaId)

/-! ### A topology without issues -/

variable {home : Home} {registryId : String} {entry : HomeEntry} {areaIds : List String}
  {requiresVacuumAndMop : Bool} {cleaningModeRegistryId : Option String}

/-- What the validator has seen of a vacuum it accepts. -/
structure ValidVacuum (home : Home) (registryId : String) (entry : HomeEntry) : Prop where
  registered : home.entries registryId = some entry
  online : ∃ entityId entity, entry.entityId = some entityId ∧
    home.states entityId = some entity ∧ entity.offline = false ∧
    supportsCleanArea home.hass (entity.attributes.get "supported_features") = true

theorem asyncGetValidVacuum_eq_ok :
    asyncGetValidVacuum home registryId = .ok entry ↔ ValidVacuum home registryId entry := by
  unfold asyncGetValidVacuum
  simp only [bind_eq_ok, exists_unit, orRaise_eq_ok, raiseIf_eq_ok, pure_eq_ok,
    Bool.not_eq_true, Bool.not_eq_false]
  constructor
  · rintro ⟨entry', h_entry, entityId, h_id, entity, h_entity, h_online, h_supports, rfl⟩
    exact ⟨h_entry, entityId, entity, h_id, h_entity, h_online, h_supports⟩
  · rintro ⟨h_entry, entityId, entity, h_id, h_entity, h_online, h_supports⟩
    exact ⟨entry, h_entry, entityId, h_id, entity, h_entity, h_online, h_supports, rfl⟩

theorem validateAreaIds_eq_ok : validateAreaIds areaIds entry = .ok () ↔
    areaIds ≠ [] ∧ areaIds.Nodup ∧ ∃ mapping, areaMapping entry = some mapping ∧
      ∀ areaId ∈ areaIds, segmentsOf (mapping.get areaId) ≠ none := by
  unfold validateAreaIds
  simp only [bind_eq_ok, exists_unit, orRaise_eq_ok, raiseIf_eq_ok, not_not, not_exists, not_and,
    ne_eq]

/-- What the validator has seen of a topology it finds no issue with. -/
structure ValidTopology (home : Home) (registryId : String) (areaIds : List String)
    (requiresVacuumAndMop : Bool) (cleaningModeRegistryId : Option String) : Prop where
  vacuum : ∃ entry, ValidVacuum home registryId entry ∧ ∃ mapping,
    areaMapping entry = some mapping ∧
      ∀ areaId ∈ areaIds, segmentsOf (mapping.get areaId) ≠ none
  configured : areaIds ≠ [] ∧ areaIds.Nodup
  areas : ∀ areaId ∈ areaIds, home.areas areaId ≠ none
  selector : ∃ selector, configuredModeSelector home registryId cleaningModeRegistryId = .ok selector ∧
    (requiresVacuumAndMop = true → selector ≠ none)

theorem vacuumIssues_eq_empty : vacuumIssues home registryId areaIds = ∅ ↔
    (areaIds ≠ [] ∧ areaIds.Nodup) ∧ ∃ entry, ValidVacuum home registryId entry ∧ ∃ mapping,
      areaMapping entry = some mapping ∧
        ∀ areaId ∈ areaIds, segmentsOf (mapping.get areaId) ≠ none := by
  have h_eq (entry' : HomeEntry) : ValidVacuum home registryId entry' ↔
      asyncGetValidVacuum home registryId = .ok entry' := asyncGetValidVacuum_eq_ok.symm
  simp only [h_eq]
  unfold vacuumIssues
  -- the checks in their order: the vacuum, its mapping, the areas
  cases h_vacuum : asyncGetValidVacuum home registryId with
  | error e =>
    refine iff_of_false ?_ fun ⟨_, entry, h, _⟩ => nomatch h
    cases e <;> exact Finset.singleton_ne_empty _
  | ok entry =>
    dsimp only
    cases h_mapping : areaMapping entry with
    | none =>
      refine iff_of_false (Finset.singleton_ne_empty _) ?_
      rintro ⟨-, entry', h, mapping, h', -⟩
      cases h
      exact nomatch h_mapping.symm.trans h'
    | some mapping =>
      cases mapping with
      | nil =>
        refine iff_of_false (Finset.singleton_ne_empty _) ?_
        rintro ⟨⟨h_some, -⟩, entry', h, mapping, h', h_segments⟩
        cases h
        cases h_mapping.symm.trans h'
        -- no area is found in an empty mapping
        obtain ⟨areaId, h_area⟩ := List.exists_mem_of_ne_nil _ h_some
        exact h_segments areaId h_area rfl
      | cons first mapping =>
        dsimp only
        have h_valid : validateAreaIds areaIds entry = .ok () ↔ _ := validateAreaIds_eq_ok
        cases h_areas : validateAreaIds areaIds entry with
        | error e =>
          refine iff_of_false (Finset.singleton_ne_empty _) ?_
          rintro ⟨⟨h_some, h_nodup⟩, entry', h, h_mapped⟩
          cases h
          exact nomatch h_areas.symm.trans (h_valid.mpr ⟨h_some, h_nodup, h_mapped⟩)
        | ok u =>
          -- only here is nothing found
          obtain ⟨h_some, h_nodup, h_mapped⟩ := h_valid.mp h_areas
          exact iff_of_true rfl ⟨⟨h_some, h_nodup⟩, entry, rfl, h_mapped⟩

/-- **No issue is a valid topology.** -/
theorem configuredTopologyIssues_eq_empty :
    configuredTopologyIssues home registryId areaIds requiresVacuumAndMop
        cleaningModeRegistryId = .ok ∅ ↔
      ValidTopology home registryId areaIds requiresVacuumAndMop cleaningModeRegistryId := by
  unfold configuredTopologyIssues
  rw [bind_eq_ok]
  simp only [pure_eq_ok, Finset.union_eq_empty, vacuumIssues_eq_empty]
  -- each part of the union is empty on its own
  have h_areas : areaIssues home areaIds = ∅ ↔ ∀ areaId ∈ areaIds, home.areas areaId ≠ none := by
    unfold areaIssues
    split
    · next h =>
      obtain ⟨areaId, h_mem, h_none⟩ := h
      exact iff_of_false (Finset.singleton_ne_empty _) fun h_all => h_all areaId h_mem h_none
    · next h =>
      exact iff_of_true rfl fun areaId h_mem h_none => h ⟨areaId, h_mem, h_none⟩
  have h_selector (selector : Option String) :
      (if requiresVacuumAndMop = true ∧ selector = none then
        ({.lostCapability} : Finset IssueCondition) else ∅) = ∅ ↔
      (requiresVacuumAndMop = true → selector ≠ none) := by
    split
    · next h => exact iff_of_false (Finset.singleton_ne_empty _) fun h_some => h_some h.1 h.2
    · next h => exact iff_of_true rfl fun h_requires h_none => h ⟨h_requires, h_none⟩
  simp only [h_areas, h_selector]
  constructor
  · rintro ⟨selector, h_run, ⟨⟨h_configured, h_vacuum⟩, h_present⟩, h_found⟩
    exact ⟨h_vacuum, h_configured, h_present, selector, h_run, h_found⟩
  · rintro ⟨h_vacuum, h_configured, h_present, selector, h_run, h_found⟩
    exact ⟨selector, h_run, ⟨⟨h_configured, h_vacuum⟩, h_present⟩, h_found⟩

end VacuumPlanner
