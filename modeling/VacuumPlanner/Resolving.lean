import VacuumPlanner.Topology

/-!
# A validated topology serves every command

The setup and the listeners latch a runtime when `_configured_topology_issues` finds an issue;
a command resolves the same registries again and may fail on its own. On one home the two agree:
the bindings of a plan can be resolved exactly when the validator finds no issue with the rooms
of the plan (`resolves_iff_no_issues`), and then nothing a command checks before its first
external call can fail any more (`no_issues_dispatches`).

What the validator does not look at is the entry of the vacuum beyond its state: a command also
asks for the id, the domain and the `disabled` marks (`RegistryEntry.usable`).
-/

namespace VacuumPlanner

open Framework Serialization

variable {config : NativeConfig} {home : Home} {registryId : String} {r : Runtime}
  {areaIds : List String} {vacuumEntityId : String} {plan : RoomPlan} {mapping : Payload}
  {supports : Bool} {m : Mode}

/-! ### One room -/

theorem requireText_areaId (h : plan.postInit = .ok ()) : ¬ isBlank plan.areaId = true := by
  unfold RoomPlan.postInit at h
  exact requireText_eq_ok.mp (seq_eq_ok.mp h).1

/-- A room is resolved exactly when it is mapped and its area is there, under some name. -/
theorem resolveAreaBinding_isOk (h_plan : plan.postInit = .ok ())
    (h_names : ∀ areaId name, home.areas areaId = some name → ¬ isBlank name = true) :
    (∃ binding, resolveAreaBinding home mapping supports plan = .ok binding) ↔
      segmentsOf (mapping.get plan.areaId) ≠ none ∧ home.areas plan.areaId ≠ none := by
  unfold resolveAreaBinding
  cases h_segments : segmentsOf (mapping.get plan.areaId) with
  | none => exact iff_of_false (fun ⟨_, h⟩ => nomatch h) fun h => h.1 rfl
  | some segments =>
    cases h_area : home.areas plan.areaId with
    | none => exact iff_of_false (fun ⟨_, h⟩ => nomatch h) fun h => h.2 rfl
    | some areaName =>
      refine iff_of_true ?_ ⟨nofun, nofun⟩
      refine ⟨⟨⟨plan.areaId, areaName, ⟨.array (segments.map .str), plainTarget_frozen segments⟩,
        supports⟩, ?_⟩, AreaBindingFields.construct_eq_ok.mpr rfl⟩
      unfold AreaBindingFields.postInit
      rw [seq_eq_ok, requireText_eq_ok, requireText_eq_ok]
      exact ⟨requireText_areaId h_plan, h_names plan.areaId areaName h_area⟩

theorem resolveAreaBinding_ok {binding : AreaBinding}
    (h : resolveAreaBinding home mapping supports plan = .ok binding) :
    binding.areaId = plan.areaId ∧ binding.supportsVacuumAndMop = supports := by
  unfold resolveAreaBinding at h
  split at h
  · have h_fields := AreaBindingFields.construct_eq_ok.mp h
    exact ⟨congrArg AreaBindingFields.areaId h_fields,
      congrArg AreaBindingFields.supportsVacuumAndMop h_fields⟩
  · exact nomatch h

/-! ### All rooms -/

/-- The registry id is there, and lookups use it. -/
theorem commandMapping_eq_ok (vacuumEntityId : String)
    (h_id : config.vacuumRegistryId = some registryId)
    (h_text : registryId ≠ "") : commandMapping config home vacuumEntityId = .ok mapping ↔
      ∃ entry, home.entries registryId = some entry ∧ areaMapping entry = some mapping := by
  have h_used : (config.vacuumRegistryId.filter fun id => decide (id ≠ "")).getD vacuumEntityId =
      registryId := by
    rw [h_id, Option.filter_some, if_pos (decide_eq_true h_text)]
    rfl
  unfold commandMapping
  dsimp only
  rw [h_used]
  simp only [bind_eq_ok, orRaise_eq_ok]

/-- Where the selector can be resolved, the resolution of the bindings is a pass over the
rooms. -/
theorem resolveAreaBindings_eq {selector : Option String}
    (h_mapping : commandMapping config home vacuumEntityId = .ok mapping)
    (h_selector : resolveCommandCleaningMode config home.hass r = (.ok selector, r)) :
    resolveAreaBindings config home vacuumEntityId r =
      ((r.state.planRevision.roomPlans.mapM
        (resolveAreaBinding home mapping selector.isSome)).mapError .raised, r) := by
  unfold resolveAreaBindings
  rw [h_mapping]
  dsimp only
  rw [h_selector]

/-- The bindings of a pass, each usable for its room. -/
theorem usable_of_resolved {bindings : List AreaBinding} {rooms : List RoomPlan}
    (h_distinct : (rooms.map (·.areaId)).Nodup)
    (h_modes : ∀ room ∈ rooms, room.mode = .vacuumAndMop → supports = true)
    (h : rooms.mapM (resolveAreaBinding home mapping supports) = .ok bindings) :
    ∀ room ∈ rooms, Usable (bindingsByArea bindings) room := by
  have h_each := mapM_eq_ok_iff.mp h
  have h_areas : bindings.map (·.areaId) = rooms.map (·.areaId) := by
    rw [← List.forall₂_eq_eq_eq, List.forall₂_map_left_iff, List.forall₂_map_right_iff]
    exact h_each.flip.imp fun _ _ h => (resolveAreaBinding_ok h).1
  intro room h_room
  obtain ⟨binding, h_mem, h_own⟩ := mem_of_mapM_eq_ok h h_room
  obtain ⟨h_area, h_supports⟩ := resolveAreaBinding_ok h_own
  refine ⟨binding, ?_, h_area, fun h_mode => h_supports.trans (h_modes room h_room h_mode)⟩
  exact (find?_key (h_areas ▸ h_distinct)).mpr ⟨h_mem, h_area⟩

/-- A resolution that succeeds has found the mapping and the selector, and every room. -/
theorem resolveAreaBindings_ok {bindings : List AreaBinding}
    (h : (resolveAreaBindings config home vacuumEntityId r).1 = .ok bindings) :
    ∃ mapping selector, commandMapping config home vacuumEntityId = .ok mapping ∧
      resolveCommandCleaningMode config home.hass r = (.ok selector, r) ∧
        r.state.planRevision.roomPlans.mapM
          (resolveAreaBinding home mapping selector.isSome) = .ok bindings := by
  unfold resolveAreaBindings at h
  -- the mapping and the selector come first, and each may raise
  split at h
  · exact nomatch h
  · next mapping h_mapping =>
    split at h
    · exact nomatch h
    · next selector r' h_selector =>
      obtain ⟨rfl, -⟩ := resolveCommandCleaningMode_ok h_selector
      dsimp only at h
      cases h_pass : r'.state.planRevision.roomPlans.mapM
          (resolveAreaBinding home mapping selector.isSome) with
      | error e => rw [h_pass] at h; exact nomatch h
      | ok bindings' =>
        rw [h_pass] at h
        cases h
        exact ⟨mapping, selector, h_mapping, h_selector, h_pass⟩

/-! ### The selector -/

/-- The setup has bound a selector wherever one is needed. -/
def NativeConfig.BindsSelector (config : NativeConfig) : Prop :=
  config.requiresVacuumAndMop = true → config.cleaningModeRegistryId ≠ none

/-- A bound selector is the one the validator asks for. -/
theorem configuredModeSelector_bound (h_bound : config.BindsSelector)
    (h_requires : config.requiresVacuumAndMop = true) :
    configuredModeSelector home registryId config.cleaningModeRegistryId =
      resolveBoundCleaningModeEntity home.hass config.cleaningModeRegistryId := by
  obtain ⟨selectorId, h_id⟩ := Option.ne_none_iff_exists'.mp (h_bound h_requires)
  rw [h_id]
  rfl

/-- A command finds a selector where the validator does, and needs none elsewhere. -/
theorem resolveCommandCleaningMode_eq {selector : Option String} (h_bound : config.BindsSelector)
    (h : configuredModeSelector home registryId config.cleaningModeRegistryId = .ok selector)
    (h_found : config.requiresVacuumAndMop = true → selector ≠ none) :
    resolveCommandCleaningMode config home.hass r =
      (.ok (if config.requiresVacuumAndMop then selector else none), r) := by
  unfold resolveCommandCleaningMode
  split
  · next h_plain =>
    rw [h_plain, if_neg Bool.false_ne_true]
  · next h_requires =>
    have h_requires' := Bool.eq_true_of_not_eq_false h_requires
    obtain ⟨entityId, rfl⟩ := Option.ne_none_iff_exists'.mp (h_found h_requires')
    rw [← configuredModeSelector_bound h_bound h_requires', h, if_pos h_requires']

/-! ### The validator and the resolution -/

/-- **The two agree.** With the vacuum there under an id that is not empty, a selector bound
wherever one is needed and its look-up not raising, the bindings of a plan with rooms can be
resolved exactly when the validator finds no issue with them. The validator does not look at the
names of the areas, and a binding cannot be built with a blank one, so none may be blank. -/
theorem resolves_iff_no_issues (h_id : config.vacuumRegistryId = some registryId)
    (h_text : registryId ≠ "") (h_vacuum : ∃ entry, ValidVacuum home registryId entry)
    (h_bound : config.BindsSelector)
    (h_lookup : ∃ selector,
      configuredModeSelector home registryId config.cleaningModeRegistryId = .ok selector)
    (h_rooms : r.state.planRevision.roomPlans ≠ [])
    (h_names : ∀ areaId name, home.areas areaId = some name → ¬ isBlank name = true) :
    (∃ bindings, (resolveAreaBindings config home vacuumEntityId r).1 = .ok bindings) ↔
      configuredTopologyIssues home registryId
        (r.state.planRevision.roomPlans.map (·.areaId)) config.requiresVacuumAndMop
        config.cleaningModeRegistryId = .ok ∅ := by
  have h_checks := r.state.planRevision.checks
  rw [configuredTopologyIssues_eq_empty]
  -- the validator looks at what the resolvers look at
  constructor
  · rintro ⟨bindings, h⟩
    obtain ⟨mapping, selector, h_mapping, h_selector, h_pass⟩ := resolveAreaBindings_ok h
    obtain ⟨entry, h_entry, h_area⟩ := (commandMapping_eq_ok vacuumEntityId h_id h_text).mp h_mapping
    obtain ⟨entry', h_valid⟩ := h_vacuum
    obtain rfl := Option.some.inj (h_entry.symm.trans h_valid.registered)
    -- every room has its binding, and so its segments and its area
    have h_each : ∀ room ∈ r.state.planRevision.roomPlans,
        segmentsOf (mapping.get room.areaId) ≠ none ∧ home.areas room.areaId ≠ none := by
      intro room h_room
      obtain ⟨binding, -, h_own⟩ := mem_of_mapM_eq_ok h_pass h_room
      exact (resolveAreaBinding_isOk (h_checks.1 room h_room) h_names).mp ⟨binding, h_own⟩
    obtain ⟨found, h_found⟩ := h_lookup
    refine ⟨⟨entry, h_valid, mapping, h_area, ?_⟩, ⟨fun h_nil => h_rooms (List.map_eq_nil_iff.mp h_nil),
      h_checks.2.2.1⟩, ?_, found, h_found, fun h_requires => ?_⟩
    · exact List.forall_mem_map.mpr fun room h_room => (h_each room h_room).1
    · exact List.forall_mem_map.mpr fun room h_room => (h_each room h_room).2
    · obtain ⟨e, -, h_e⟩ := (resolveCommandCleaningMode_ok h_selector).2.2 h_requires
      rw [configuredModeSelector_bound h_bound h_requires, h_e] at h_found
      cases h_found
      exact nofun
  · rintro ⟨⟨entry, h_valid, mapping, h_area, h_segments⟩, -, h_areas, selector, h_run, h_found⟩
    have h_mapping := (commandMapping_eq_ok vacuumEntityId h_id h_text).mpr
      ⟨entry, h_valid.registered, h_area⟩
    rw [resolveAreaBindings_eq h_mapping (resolveCommandCleaningMode_eq h_bound h_run h_found)]
    obtain ⟨bindings, h_pass⟩ := mapM_isOk (f := resolveAreaBinding home mapping
        (if config.requiresVacuumAndMop then selector else none).isSome) fun room h_room =>
      (resolveAreaBinding_isOk (h_checks.1 room h_room) h_names).mpr
        ⟨h_segments _ (List.mem_map_of_mem h_room), h_areas _ (List.mem_map_of_mem h_room)⟩
    exact ⟨bindings, by rw [h_pass]; rfl⟩

/-! ### The preflight of a dispatch -/

/-- The selector a command resolves takes both modes. -/
theorem resolveBoundCleaningModeEntity_some {hass : HomeAssistant} {registryId : Option String}
    {entityId : String}
    (h : resolveBoundCleaningModeEntity hass registryId = .ok (some entityId)) :
    ∃ entity options, hass.states entityId = some entity ∧ entity.offline = false ∧
      entity.attributes.get "options" = .array options ∧
        ∀ option ∈ modeOptions, .str option ∈ options := by
  unfold resolveBoundCleaningModeEntity at h
  -- every branch but the last one answers with no selector
  split at h
  · cases h
  split at h
  · cases h
  split at h
  · next uniqueId entityId' _ _ =>
    split at h
    · split at h
      · cases h
      · next entity h_entity =>
        split at h
        · next options h_online h_options =>
          obtain ⟨-, h⟩ := seq_eq_ok.mp h
          have h := pure_eq_ok.mp h
          split at h
          · next h_all =>
            cases h
            exact ⟨entity, options, h_entity, h_online, h_options, h_all⟩
          · cases h
        · cases h
    · cases h
  · cases h

theorem Mode.option_mem (m : Mode) : m.option ∈ modeOptions := by
  cases m <;> decide

theorem NativeAreaAdapter.confirmMode_isOk {hass : HomeAssistant} {registryId : Option String}
    {entityId : String} (m : Mode)
    (h : resolveBoundCleaningModeEntity hass registryId = .ok (some entityId)) :
    confirmMode hass entityId m = .ok (some m.option) := by
  obtain ⟨entity, options, h_entity, h_online, h_options, h_all⟩ :=
    resolveBoundCleaningModeEntity_some h
  have h_confirmed : ¬ (Json.str m.option ∉ options ∨ entity.offline = true) := by
    rw [h_online]
    exact not_or.mpr ⟨not_not.mpr (h_all m.option m.option_mem), Bool.false_ne_true⟩
  unfold confirmMode
  refine bind_eq_ok.mpr ⟨entity, by rw [h_entity]; rfl, ?_⟩
  rw [h_options]
  exact seq_eq_ok.mpr ⟨raiseIf_eq_ok.mpr h_confirmed, rfl⟩

/-- A preflight passes where the vacuum is online and the mode can be had. -/
theorem NativeAreaAdapter.preflight_isOk {entry : HomeEntry} {modes : List Mode}
    {selector : Option String} (h_valid : ValidVacuum home registryId entry)
    (h_entity : entry.entityId = some vacuumEntityId) (h_some : modes ≠ [])
    (h_modes : ∀ mode ∈ modes, mode = m) (h_plain : selector = none → m = .vacuum)
    (h_selector : ∀ entityId, selector = some entityId →
      confirmMode home.hass entityId m = .ok (some m.option)) :
    ∃ modeOption, preflight ⟨vacuumEntityId, selector⟩ home.hass modes = .ok modeOption := by
  obtain ⟨entityId, entity, h_id, h_state, h_online, h_supports⟩ := h_valid.online
  obtain rfl := Option.some.inj (h_entity.symm.trans h_id)
  -- the modes of a batch are one mode
  have h_dedup : (if modes = [] then [Mode.vacuum] else modes).dedup = [m] := by
    rw [if_neg h_some, List.eq_replicate_iff.mpr ⟨rfl, h_modes⟩]
    exact List.replicate_dedup fun h_zero => h_some (List.length_eq_zero_iff.mp h_zero)
  have h_there : home.hass.states vacuumEntityId = some entity := h_state
  -- the vacuum is there, is online and can clean areas
  unfold preflight
  rw [h_there, orRaise, ok_bind, raiseIf, if_neg (by rw [h_online]; exact Bool.false_ne_true),
    ok_bind, raiseIf, if_neg (by rw [h_supports]; exact Bool.noConfusion), ok_bind, h_dedup]
  cases selector with
  | none =>
    rw [h_plain rfl]
    exact ⟨none, rfl⟩
  | some entityId =>
    cases m with
    | vacuum => exact ⟨_, h_selector entityId rfl⟩
    | vacuumAndMop => exact ⟨_, h_selector entityId rfl⟩

/-- A valid vacuum is the one a command resolves. -/
theorem resolveCommandVacuum_eq {entry : HomeEntry} {entityId : String} {observed : Bool}
    {now : Instant} (h_id : config.vacuumRegistryId = some registryId)
    (h_valid : ValidVacuum home registryId entry)
    (h_usable : entry.usable registryId "vacuum" = true) (h_entity : entry.entityId = some entityId) :
    resolveCommandVacuum config home.hass observed now r = (.ok entityId, r) := by
  have h_resolved : usableVacuum home.hass registryId = some entityId := by
    unfold usableVacuum
    show (((home.entries registryId).map (·.toRegistryEntry)).bind fun entry => _) = _
    rw [h_valid.registered]
    show (entry.entityId.bind fun entityId => _) = _
    rw [h_entity, Option.bind_some, if_pos h_usable]
  unfold resolveCommandVacuum
  rw [h_id]
  dsimp only
  rw [h_resolved]

/-- Every check of a dispatch passes. -/
theorem bindAdapter_isOk {entry : HomeEntry} {modes : List Mode} {observed : Bool}
    {now : Instant} {selector : Option String} (h_id : config.vacuumRegistryId = some registryId)
    (h_valid : ValidVacuum home registryId entry)
    (h_usable : entry.usable registryId "vacuum" = true) (h_bound : config.BindsSelector)
    (h_run : configuredModeSelector home registryId config.cleaningModeRegistryId = .ok selector)
    (h_found : config.requiresVacuumAndMop = true → selector ≠ none) (h_some : modes ≠ [])
    (h_modes : ∀ mode ∈ modes, mode = m)
    (h_mode : m = .vacuumAndMop → config.requiresVacuumAndMop = true) :
    ∃ bound, bindAdapter config home.hass observed now modes r = (.ok bound, r) := by
  obtain ⟨entityId, -, h_entity, -⟩ := h_valid.online
  -- the validator has found the selector, with all the modes
  have h_selector : ∀ e, (if config.requiresVacuumAndMop then selector else none) = some e →
      NativeAreaAdapter.confirmMode home.hass e m = .ok (some m.option) := by
    intro e h_e
    split at h_e
    · next h_requires =>
      rw [configuredModeSelector_bound h_bound h_requires, h_e] at h_run
      exact NativeAreaAdapter.confirmMode_isOk m h_run
    · exact nomatch h_e
  -- without a selector there is only the mode that needs none
  have h_plain : (if config.requiresVacuumAndMop then selector else none) = none → m = .vacuum := by
    intro h_none
    cases m with
    | vacuum => rfl
    | vacuumAndMop =>
      rw [if_pos (h_mode rfl)] at h_none
      exact absurd h_none (h_found (h_mode rfl))
  obtain ⟨modeOption, h_preflight⟩ := NativeAreaAdapter.preflight_isOk h_valid h_entity h_some
    h_modes h_plain h_selector
  unfold bindAdapter
  rw [resolveCommandVacuum_eq h_id h_valid h_usable h_entity]
  dsimp only
  rw [resolveCommandCleaningMode_eq h_bound h_run h_found]
  dsimp only
  rw [h_preflight]
  exact ⟨_, rfl⟩

/-- The rooms that mop are rooms of an entry that requires mopping. -/
def NativeConfig.Covers (config : NativeConfig) (rooms : List RoomPlan) : Prop :=
  ∀ room ∈ rooms, room.mode = .vacuumAndMop → config.requiresVacuumAndMop = true

/-- **Without issues nothing fails before the first external call.** Where the validator finds
no issue with the configured areas, a command resolves a binding for every room, evaluates the
plan with them, and binds the dispatch of whatever homogeneous batch of the snapshot it has
sealed, all without touching the runtime.

The validator leaves five things to others: that the registry entry of the vacuum is not disabled
(`h_usable`), that the setup has bound a selector where a room of the plan mops, that every room
is a configured one, that no area has a blank name, and that the due times of the rooms that are
awake can be added up. -/
theorem no_issues_dispatches (h_id : config.vacuumRegistryId = some registryId)
    (h_text : registryId ≠ "")
    (h_valid : configuredTopologyIssues home registryId areaIds config.requiresVacuumAndMop
      config.cleaningModeRegistryId = .ok ∅)
    (h_usable : ∀ entry, home.entries registryId = some entry →
      entry.usable registryId "vacuum" = true)
    (h_bound : config.BindsSelector) (h_covers : config.Covers r.state.planRevision.roomPlans)
    (h_rooms : r.state.planRevision.roomPlans ≠ [])
    (h_configured : ∀ room ∈ r.state.planRevision.roomPlans, room.areaId ∈ areaIds)
    (h_names : ∀ areaId name, home.areas areaId = some name → ¬ isBlank name = true)
    {now : Instant} {offsets : Offsets}
    (h_range : ∀ room ∈ r.state.planRevision.roomPlans, room.Awake now → room.InRange offsets) :
    ∃ bindings snapshot,
      resolveAreaBindings config home vacuumEntityId r = (.ok bindings, r) ∧
      buildDueSnapshot offsets r.state.planRevision (bindingsByArea bindings) now = .ok snapshot ∧
      ∀ jobs : List SnapshotJob, jobs ≠ [] → (∀ job ∈ jobs, job ∈ snapshot.jobs) →
        (∀ job ∈ jobs, job.mode = m) → ∀ observed dispatchedAt, ∃ bound,
          bindAdapter config home.hass observed dispatchedAt (jobs.map (·.mode)) r =
            (.ok bound, r) := by
  obtain ⟨⟨entry, h_vacuum, mapping, h_area, h_segments⟩, -, h_areas, selector, h_run, h_found⟩ :=
    configuredTopologyIssues_eq_empty.mp h_valid
  have h_checks := r.state.planRevision.checks
  have h_mapping := (commandMapping_eq_ok vacuumEntityId h_id h_text).mpr
    ⟨entry, h_vacuum.registered, h_area⟩
  have h_command := resolveCommandCleaningMode_eq (r := r) h_bound h_run h_found
  obtain ⟨bindings, h_pass⟩ := mapM_isOk (f := resolveAreaBinding home mapping
      (if config.requiresVacuumAndMop then selector else none).isSome) fun room h_room =>
    (resolveAreaBinding_isOk (h_checks.1 room h_room) h_names).mpr
      ⟨h_segments _ (h_configured room h_room), h_areas _ (h_configured room h_room)⟩
  -- a room that mops finds that its binding supports it
  have h_modes : ∀ room ∈ r.state.planRevision.roomPlans, room.mode = .vacuumAndMop →
      (if config.requiresVacuumAndMop then selector else none).isSome = true := by
    intro room h_room h_mode
    have h_requires := h_covers room h_room h_mode
    rw [if_pos h_requires, Option.isSome_iff_ne_none]
    exact h_found h_requires
  -- so every room has a binding it can use
  have h_each := usable_of_resolved h_checks.2.2.1 h_modes h_pass
  obtain ⟨snapshot, h_snapshot, h_jobs, -⟩ := buildDueSnapshot_isOk h_rooms h_range
    fun room h_room => h_each room (List.mem_filter.mp h_room).1
  refine ⟨bindings, snapshot, ?_, h_snapshot, fun jobs h_some h_mem h_mode observed at' => ?_⟩
  · rw [resolveAreaBindings_eq h_mapping h_command, h_pass]
    rfl
  · refine bindAdapter_isOk (m := m) h_id h_vacuum (h_usable entry h_vacuum.registered) h_bound
      h_run h_found (fun h_nil => h_some (List.map_eq_nil_iff.mp h_nil))
      (List.forall_mem_map.mpr h_mode) ?_
    -- the mode of the batch is that of one of the rooms
    rintro rfl
    obtain ⟨job, h_job⟩ := List.exists_mem_of_ne_nil _ h_some
    have h_own := h_mem job h_job
    rw [h_jobs] at h_own
    obtain ⟨room, h_room, h_due⟩ := List.mem_filterMap.mp h_own
    obtain ⟨binding, -, rfl⟩ := Option.map_eq_some_iff.mp h_due
    have h_in : room ∈ dueRooms r.state.planRevision now := mem_sortBy.mp h_room
    exact h_covers room (List.mem_filter.mp h_in).1 (h_mode _ h_job)

/-! ### A home with one room -/

/-- The vacuum of a home, and its kitchen mapped to one segment. -/
def kitchenVacuum : HomeEntry where
  id := some "registry"
  domain := some "vacuum"
  uniqueId := some "unique"
  disabled := false
  disabledBy := none
  entityId := some "vacuum.robot"
  platform := none
  deviceId := none
  options := [("vacuum",
    .object [("area_mapping", .object [("kitchen", .array [.str "17"])])])]

def kitchenRegistries : Home where
  entries id := if id = "registry" then some kitchenVacuum else none
  states id := if id = "vacuum.robot" then
    some ⟨"docked", [("supported_features", .int 16384)]⟩ else none
  devices _ := []
  areas areaId := if areaId = "kitchen" then some "Kitchen" else none
  cleanAreaFeature := 16384

def kitchenConfig : NativeConfig where
  vacuumRegistryId := some "registry"
  cleaningModeRegistryId := none
  requiresVacuumAndMop := false

theorem kitchenRegistries_names (areaId name : String) (h : kitchenRegistries.areas areaId = some name) :
    ¬ isBlank name = true := by
  have h : (if areaId = "kitchen" then some "Kitchen" else none) = some name := h
  split at h
  · cases h
    decide
  · exact nomatch h

theorem resolves_iff_no_issues_kitchen :
    (∃ bindings, (resolveAreaBindings kitchenConfig kitchenRegistries "vacuum.robot"
      (.fresh 1 false true kitchenState)).1 = .ok bindings) ↔
      configuredTopologyIssues kitchenRegistries "registry" ["kitchen"] false none = .ok ∅ :=
  resolves_iff_no_issues rfl (by decide)
    ⟨kitchenVacuum, rfl, "vacuum.robot", _, rfl, rfl, rfl, by decide⟩ nofun
    ⟨none, rfl⟩ (by decide) kitchenRegistries_names

theorem no_issues_dispatches_kitchen : ∃ bindings snapshot,
    resolveAreaBindings kitchenConfig kitchenRegistries "vacuum.robot"
      (.fresh 1 false true kitchenState) = (.ok bindings, .fresh 1 false true kitchenState) ∧
    buildDueSnapshot .utc kitchenState.planRevision (bindingsByArea bindings) 0 = .ok snapshot ∧
    ∀ jobs : List SnapshotJob, jobs ≠ [] → (∀ job ∈ jobs, job ∈ snapshot.jobs) →
      (∀ job ∈ jobs, job.mode = .vacuum) → ∀ observed dispatchedAt, ∃ bound,
        bindAdapter kitchenConfig kitchenRegistries.hass observed dispatchedAt (jobs.map (·.mode))
          (.fresh 1 false true kitchenState) = (.ok bound, .fresh 1 false true kitchenState) := by
  have h_valid : ValidTopology kitchenRegistries "registry" ["kitchen"] false none :=
    ⟨⟨kitchenVacuum, ⟨rfl, "vacuum.robot", _, rfl, rfl, rfl, by decide⟩, _, rfl, by decide⟩,
      by decide, by decide, none, rfl, nofun⟩
  have h_bound : kitchenConfig.BindsSelector := nofun
  have h_covers : kitchenConfig.Covers kitchenPlan.roomPlans :=
    (by decide : ∀ room ∈ kitchenPlan.roomPlans, room.mode = .vacuumAndMop → false = true)
  have h_dates : ∀ room ∈ kitchenPlan.roomPlans, room.Datable .utc := by decide
  exact no_issues_dispatches rfl (by decide) (configuredTopologyIssues_eq_empty.mpr h_valid)
    (fun entry h_entry => by cases h_entry; decide) h_bound h_covers (by decide) (by decide)
    kitchenRegistries_names fun room h_room _ => (h_dates room h_room).inRange

end VacuumPlanner
