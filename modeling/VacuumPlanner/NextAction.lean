import VacuumPlanner.Overflow
import VacuumPlanner.Starting

/-!
# The next action

The sensor and the action evaluate the same plan with different bindings. `next_action` of
`entity.py` has no access to the registries and makes its own: the area under its own name,
and mopping supported wherever the room has an interval for it. `start_next` resolves them.

Bindings decide whether an evaluation succeeds and how its jobs are labelled, but neither
which rooms are due nor in which order (`due_map_eq`); and the bindings of the sensor are
never refused, since a room that prefers mopping has an interval for it
(`sensorBindings_usable`). So the sensor shows the first job of the snapshot the action takes
its one job from (`next_action_is_next_start`).
-/

namespace VacuumPlanner

open Framework

/-! ### The sensor -/

/-- What `next_action` returns. The mode and the time are rendered by the caller's
`mode.value` and `isoformat`. -/
inductive NextAction where
  | blocked (remediation : String)
  | due (areaId areaName : String) (mode : Mode) (dueAt : Instant)
  deriving DecidableEq

/-- What `next_action` reads of its runtime. -/
structure SensorView where
  topologyReady : Bool
  state : Option PlannerState
  planningEnabled : Bool
  areaNames : Option (String → Option String)

/-- `runtime_data.area_names or {}`. -/
def SensorView.names (view : SensorView) (areaId : String) : Option String :=
  view.areaNames.bind fun names => names areaId

/-- The binding `next_action` makes up for a room. -/
def sensorBinding (names : String → Option String) (plan : RoomPlan) : AreaBindingFields where
  areaId := plan.areaId
  areaName := (names plan.areaId).getD plan.areaId
  adapterTarget := ⟨.array [], rfl⟩
  supportsVacuumAndMop := plan.vacuumAndMopIntervalDays.isSome

/-- The mapping `next_action` evaluates the plan with. -/
def sensorBindings (names : String → Option String) (plans : List RoomPlan) :
    Except PyError (String → Option AreaBinding) := do
  let bindings ← plans.mapM fun plan => (sensorBinding names plan).construct
  return fun areaId => bindings.find? (·.areaId = areaId)

/-- `next_action`. -/
def nextAction (offsets : Offsets) (view : SensorView) (evaluatedAt : Instant) :
    Except PyError (Option NextAction) :=
  if view.topologyReady = false then
    return some (.blocked "Repair topology issue and reload config entry")
  else
    match view.state, view.planningEnabled with
    | none, _ | _, false => return none
    | some state, true => do
      let bindings ← sensorBindings view.names state.planRevision.roomPlans
      match buildDueSnapshot offsets state.planRevision bindings evaluatedAt with
      -- bindings the sensor made up itself cannot fail here; a plan without rooms can
      | .error (.planningValidationError _) => return none
      | .error e => .error e
      | .ok snapshot =>
        match snapshot.jobs with
        | [] => return none
        | job :: _ => return some (.due job.areaId job.areaNameSnapshot job.mode job.dueAt)

/-- How `start_next` evaluates the plan with the bindings it has resolved. -/
def evaluateWith (offsets : Offsets) (bindings : String → Option AreaBinding)
    (evaluatedAt : Instant) (state : PlannerState) : Except PyError PlanSnapshot :=
  match buildDueSnapshot offsets state.planRevision bindings evaluatedAt with
  | .error (.planningValidationError errors) =>
    .error (.serviceValidationError ("; ".intercalate errors))
  | result => result

variable {offsets : Offsets} {plan : PlanRevision} {bindings bindings' : String → Option AreaBinding}
  {names : String → Option String} {room : RoomPlan} {now : Instant}
  {snapshot snapshot' : PlanSnapshot} {s s' : PlannerState}

/-! ### The bindings of the sensor -/

/-- They can be made up for every room of a plan, and are of use for it. -/
theorem sensorBindings_usable (plan : PlanRevision)
    (h_names : ∀ areaId name, names areaId = some name → ¬ isBlank name = true) :
    ∃ bindings, sensorBindings names plan.roomPlans = .ok bindings ∧
      ∀ room ∈ plan.roomPlans, Usable bindings room := by
  -- a name that is missing is the id of the area, which is no blank
  have h_fields : ∀ room ∈ plan.roomPlans, (sensorBinding names room).postInit = .ok () := by
    intro room h_room
    have h_check := plan.checks.1 room h_room
    unfold RoomPlan.postInit at h_check
    have h_area := requireText_eq_ok.mp (seq_eq_ok.mp h_check).1
    unfold AreaBindingFields.postInit sensorBinding
    rw [seq_eq_ok, requireText_eq_ok, requireText_eq_ok]
    refine ⟨h_area, ?_⟩
    cases h_name : names room.areaId with
    | none => exact h_area
    | some name => exact h_names room.areaId name h_name
  obtain ⟨made, h_made⟩ : ∃ made, plan.roomPlans.mapM (fun room =>
      (sensorBinding names room).construct) = .ok made :=
    mapM_isOk fun room h_room =>
      ⟨⟨_, h_fields room h_room⟩, AreaBindingFields.construct_eq_ok.mpr rfl⟩
  have h_own : made.map (·.toAreaBindingFields) = plan.roomPlans.map (sensorBinding names) := by
    rw [← List.forall₂_eq_eq_eq, List.forall₂_map_left_iff, List.forall₂_map_right_iff]
    exact (mapM_eq_ok_iff.mp h_made).flip.imp fun _ _ h => AreaBindingFields.construct_eq_ok.mp h
  -- so each binding is found by its area
  have h_areas : (made.map (·.areaId)).Nodup := by
    have h_same : made.map (·.areaId) = plan.roomPlans.map (·.areaId) := calc
      made.map (·.areaId) = (made.map (·.toAreaBindingFields)).map (·.areaId) :=
        (List.map_map ..).symm
      _ = (plan.roomPlans.map (sensorBinding names)).map (·.areaId) := by rw [h_own]
      _ = plan.roomPlans.map (·.areaId) := List.map_map ..
    rw [h_same]
    exact plan.checks.2.2.1
  refine ⟨_, bind_eq_ok.mpr ⟨made, h_made, rfl⟩, fun room h_room => ?_⟩
  obtain ⟨binding, h_binding, h_fields⟩ := List.mem_map.mp
    (h_own ▸ List.mem_map_of_mem h_room : sensorBinding names room ∈ _)
  have h_area : binding.areaId = room.areaId := congrArg AreaBindingFields.areaId h_fields
  refine ⟨binding, (find?_key h_areas).mpr ⟨h_binding, h_area⟩, h_area, fun h_mode => ?_⟩
  -- a room that prefers mopping has an interval for it
  have h_preferred : room.preferredMode = .vacuumAndMop := by
    unfold RoomPlan.mode at h_mode
    cases h : room.preferredMode with
    | vacuum =>
      rw [h] at h_mode
      exact nomatch h_mode
    | vacuumAndMop => rfl
  obtain ⟨days, h_days⟩ := RoomPlan.mopInterval (plan.checks.1 room h_room) h_preferred
  have h_supports := congrArg AreaBindingFields.supportsVacuumAndMop h_fields
  rw [h_supports]
  unfold sensorBinding
  rw [h_days]
  rfl

/-! ### Bindings choose nothing -/

/-- What two evaluations of a plan agree on, whatever their bindings. -/
theorem due_map_eq (h : buildDueSnapshot offsets plan bindings now = .ok snapshot)
    (h' : buildDueSnapshot offsets plan bindings' now = .ok snapshot') :
    snapshot'.jobs.map (fun job => (job.areaId, job.mode, job.dueAt)) =
      snapshot.jobs.map fun job => (job.areaId, job.mode, job.dueAt) := by
  obtain ⟨h_usable, h_jobs⟩ := buildDueSnapshot_ok h
  obtain ⟨h_usable', h_jobs'⟩ := buildDueSnapshot_ok h'
  let g (room : RoomPlan) : String × Mode × Instant :=
    (room.areaId, room.mode, room.dueTime now)
  rw [h_jobs, h_jobs',
    dueJobs_map (g := g) (fun _ _ => rfl) fun room h_room => (h_usable room h_room).ne_none,
    dueJobs_map (g := g) (fun _ _ => rfl) fun room h_room => (h_usable' room h_room).ne_none]

/-- What the sensor shows, when the plan can be evaluated with some bindings. -/
theorem nextAction_eq {view : SensorView} (h_ready : view.topologyReady = true)
    (h_state : view.state = some s) (h_enabled : view.planningEnabled = true)
    (h_names : ∀ areaId name, view.names areaId = some name → ¬ isBlank name = true)
    (h : buildDueSnapshot offsets s.planRevision bindings now = .ok snapshot) :
    ∃ snapshot' : PlanSnapshot, nextAction offsets view now = .ok (snapshot'.jobs.head?.map fun job =>
        .due job.areaId job.areaNameSnapshot job.mode job.dueAt) ∧
      snapshot'.jobs.map (fun job => (job.areaId, job.mode, job.dueAt)) =
        snapshot.jobs.map fun job => (job.areaId, job.mode, job.dueAt) := by
  -- a plan without rooms has no snapshot under any bindings
  have h_rooms : s.planRevision.roomPlans ≠ [] := by
    intro h_nil
    unfold buildDueSnapshot at h
    rw [h_nil] at h
    exact nomatch h
  -- the bindings of the sensor are usable by design, so it finds the same rooms due
  obtain ⟨bindings', h_made, h_usable⟩ := sensorBindings_usable s.planRevision h_names
  obtain ⟨snapshot', h_run, -⟩ := buildDueSnapshot_isOk h_rooms (inRange_of_buildDueSnapshot h)
    fun room h_room => h_usable room (List.mem_filter.mp h_room).1
  refine ⟨snapshot', ?_, due_map_eq h h_run⟩
  unfold nextAction
  rw [h_state, h_enabled, if_neg (by rw [h_ready]; exact Bool.noConfusion)]
  dsimp only
  rw [h_made, ok_bind, h_run]
  dsimp only
  cases snapshot'.jobs <;> rfl

/-! ### The action -/

/-- **`start_next`** returns a sealed block that waits for its dispatch, or what
`start_due_block` returns for the first job. -/
theorem startNextCommand_first {call : StartNextCall} (h_plan : call.evaluatePlan s = .ok snapshot)
    {result : StartResult} (h : startNextCommand call s = .ok (s', .result result)) :
    result.status = .existing ∧ s' = s ∨
      s'.ledger = result.ledger ∧ ∃ first : PlanSnapshot, first.jobs = snapshot.jobs.take 1 ∧
        ∃ key strategy, startDueBlock s.ledger first first.laneId key call.evaluatedAt
          call.idFactory strategy .plannerAtomic false none = .ok result := by
  cases startNextCommand_ok h with
  | existing => exact Or.inl ⟨rfl, rfl⟩
  | found h_plan' h_first h_start h_same =>
    cases h_plan.symm.trans h_plan'
    exact Or.inr ⟨h_same.symm, _, h_first, _, _, h_start⟩
  | started h_plan' h_first h_start _ h_made =>
    cases h_plan.symm.trans h_plan'
    exact Or.inr ⟨(PlannerState.construct_eq_ok.mp h_made).2, _, h_first, _, _, h_start⟩

/-- **What the sensor shows is what `start_next` will do.** Whenever the plan can be evaluated
with the bindings the action resolves, the sensor shows nothing exactly when nothing is due,
and otherwise the first job; and that is the one job the action hands on, and the one job of
a block it creates. -/
theorem next_action_is_next_start (offsets : Offsets) (s : PlannerState)
    (bindings : String → Option AreaBinding) (view : SensorView) (call : StartNextCall)
    (snapshot : PlanSnapshot) (h_ready : view.topologyReady = true) (h_state : view.state = some s)
    (h_enabled : view.planningEnabled = true)
    (h_names : ∀ areaId name, view.names areaId = some name → ¬ isBlank name = true)
    (h_evaluate : call.evaluatePlan = evaluateWith offsets bindings call.evaluatedAt)
    (h : buildDueSnapshot offsets s.planRevision bindings call.evaluatedAt = .ok snapshot) :
    (nextAction offsets view call.evaluatedAt = .ok none ↔ snapshot.jobs = []) ∧
    (∀ job ∈ snapshot.jobs.head?, ∃ areaName, nextAction offsets view call.evaluatedAt =
      .ok (some (.due job.areaId areaName job.mode job.dueAt))) ∧
    ∀ (s' : PlannerState) (result : StartResult),
      startNextCommand call s = .ok (s', .result result) →
      result.status = .existing ∧ s' = s ∨
        ∃ first : PlanSnapshot, first.jobs = snapshot.jobs.take 1 ∧
          (∃ key strategy, startDueBlock s.ledger first first.laneId key call.evaluatedAt
            call.idFactory strategy .plannerAtomic false none = .ok result) ∧
          (result.status = .created → ∃ job ∈ snapshot.jobs.head?, ∃ block queued,
            result.block = some block ∧ SealsSnapshot s.ledger s'.ledger first block [queued] ∧
            queued.areaId = job.areaId ∧ queued.mode = job.mode) := by
  -- the sensor has bindings of its own, for the same jobs
  obtain ⟨shown, h_shown, h_same⟩ := nextAction_eq h_ready h_state h_enabled h_names h
  refine ⟨?_, fun job h_job => ?_, fun s' result h_start => ?_⟩
  · rw [h_shown, ← List.map_eq_nil_iff (f := fun job => (job.areaId, job.mode, job.dueAt)),
      ← h_same, List.map_eq_nil_iff]
    cases shown.jobs with
    | nil => exact iff_of_true rfl rfl
    | cons job jobs => exact iff_of_false nofun nofun
  · have h_head := congrArg List.head? h_same
    rw [List.head?_map, List.head?_map, Option.mem_def.mp h_job, Option.map_some] at h_head
    obtain ⟨job', h_job', h_eq⟩ := Option.map_eq_some_iff.mp h_head
    obtain ⟨h_area, h_rest⟩ := Prod.mk.inj h_eq
    obtain ⟨h_mode, h_due⟩ := Prod.mk.inj h_rest
    refine ⟨job'.areaNameSnapshot, ?_⟩
    rw [h_shown, h_job', ← h_area, ← h_mode, ← h_due]
    rfl
  -- the command evaluates the plan itself
  · have h_plan : call.evaluatePlan s = .ok snapshot := by
      rw [h_evaluate]
      unfold evaluateWith
      rw [h]
    refine (startNextCommand_first h_plan h_start).imp_right ?_
    rintro ⟨h_ledger, first, h_first, key, strategy, h_started⟩
    refine ⟨first, h_first, ⟨key, strategy, h_started⟩, fun h_created => ?_⟩
    obtain ⟨block, h_block, -, -, h_seals, h_work, -⟩ := startDueBlock_created h_started h_created
    obtain ⟨job, rest, h_jobs⟩ : ∃ job rest, snapshot.jobs = job :: rest := by
      refine List.exists_cons_of_ne_nil fun h_none => h_work ?_
      rw [h_first, h_none]
      rfl
    -- so one job is sealed, and it is that of the snapshot
    rw [h_jobs, List.take_succ_cons, List.take_zero] at h_first
    obtain ⟨queued, h_queued⟩ : ∃ queued, result.jobs = [queued] := by
      refine List.length_eq_one_iff.mp ?_
      rw [h_seals.count, h_first]
      rfl
    rw [h_queued, ← h_ledger] at h_seals
    obtain ⟨q, h_q, -, h_area, -, -, h_mode, -⟩ := h_seals.jobs 0 job (by rw [h_first]; rfl)
    obtain rfl : queued = q := Option.some.inj h_q
    refine ⟨job, by rw [h_jobs]; rfl, block, queued, h_block, h_seals, h_area, h_mode⟩

/-- Nothing has been planned yet. -/
def houseState : PlannerState := ⟨housePlan, .empty, by decide⟩

/-- The sensor of the house: it has a name for the bath only. -/
def houseView : SensorView where
  topologyReady := true
  state := some houseState
  planningEnabled := true
  areaNames := some fun areaId => if areaId = "bath" then some "Bath" else none

def houseCall : StartNextCall where
  planningEnabled := true
  dryRun := false
  evaluatedAt := 8 * day
  idempotencyKey := none
  idFactory := kitchenIds
  isoDate _ := "1970-01-09"
  evaluatePlan := evaluateWith .utc houseBindings (8 * day)

/-- The bath comes first, on the sensor and with `start_next`. -/
theorem next_action_is_next_start_house :
    (∃ areaName dueAt, nextAction .utc houseView (8 * day) =
      .ok (some (.due "bath" areaName .vacuumAndMop dueAt))) ∧
    ∃ s' result block queued, startNextCommand houseCall houseState = .ok (s', .result result) ∧
      result.block = some block ∧
      (∃ first, SealsSnapshot houseState.ledger s'.ledger first block [queued]) ∧
      queued.areaId = "bath" ∧ queued.mode = .vacuumAndMop := by
  obtain ⟨snapshot, h_run, h_jobs⟩ : ∃ snapshot,
      buildDueSnapshot .utc housePlan houseBindings (8 * day) = .ok snapshot ∧
        (snapshot.jobs.head?.map fun job => (job.areaId, job.mode)) = some ("bath", .vacuumAndMop) :=
    ⟨_, rfl, rfl⟩
  -- the house names the bath only
  have h_names : ∀ areaId name, houseView.names areaId = some name → ¬ isBlank name = true := by
    intro areaId name h_name
    have h_name : (if areaId = "bath" then some "Bath" else none) = some name := h_name
    split at h_name
    · obtain rfl := Option.some.inj h_name
      decide
    · exact nomatch h_name
  obtain ⟨-, h_shown, h_started⟩ := next_action_is_next_start .utc houseState houseBindings
    houseView houseCall snapshot rfl rfl rfl h_names rfl h_run
  obtain ⟨job, h_job, h_bath⟩ := Option.map_eq_some_iff.mp h_jobs
  obtain ⟨h_area, h_mode⟩ := Prod.mk.inj h_bath
  refine ⟨?_, ?_⟩
  · obtain ⟨areaName, h_action⟩ := h_shown job h_job
    rw [h_area, h_mode] at h_action
    exact ⟨areaName, job.dueAt, h_action⟩
  · obtain ⟨s', result, h_start, h_created⟩ : ∃ s' result,
        startNextCommand houseCall houseState = .ok (s', .result result) ∧
          result.status = .created := ⟨_, _, rfl, rfl⟩
    obtain ⟨h_existing, -⟩ | ⟨first, -, -, h_sealed⟩ := h_started s' result h_start
    · exact nomatch h_created.symm.trans h_existing
    · -- the one job of the block is that of the bath
      obtain ⟨job', h_job', block, queued, h_block, h_seals, h_queued⟩ := h_sealed h_created
      obtain rfl : job = job' := Option.some.inj (h_job.symm.trans h_job')
      rw [h_area, h_mode] at h_queued
      exact ⟨s', result, block, queued, h_start, h_block, ⟨first, h_seals⟩, h_queued⟩

end VacuumPlanner
