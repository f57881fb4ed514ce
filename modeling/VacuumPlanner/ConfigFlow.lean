import VacuumPlanner.Configuration
import VacuumPlanner.Resolving

/-!
# The config flow

`config_flow.py`: a vacuum is chosen, then its areas, then one form is filled in for every area,
and the entry is created when the last one is. Between two forms the home can change in any way,
so every step looks the vacuum up again.

`FlowSession` is a flow as the flow manager runs it: what arrives has passed the schema of the
form that was shown last, the step of that form is the one that runs, and a step that raises
leaves that form where it was. How an input is checked against a schema is up to `voluptuous`: it
is a parameter (`FormSchema`), with what the flow relies on as a hypothesis
(`FormSchema.Validates`).

`FlowSession.Takes` lists what one input can do to a flow.
-/

namespace VacuumPlanner

open Framework Serialization

/-! ### Forms -/

/-- The form of one area, with what its schema depends on. -/
structure AreaPlanForm where
  areaName : String
  current : ℕ
  total : ℕ
  modes : List String
  defaultMode : String
  deriving DecidableEq

inductive Form where
  | user (error : Option TopologyError)
  | areas (error : Option TopologyError)
  | areaPlan (form : AreaPlanForm)
  deriving DecidableEq

/-- The five fields of the form of an area, with their defaults. -/
def AreaPlanForm.defaults (form : AreaPlanForm) : Payload :=
  [("active", .bool true), ("vacuum_interval_days", .int 7), ("mop_interval_days", .int 7),
    ("priority", .int 0), ("mode", .str form.defaultMode)]

/-- `int` as a schema: a `bool` passes, and counts as 0 or 1. -/
def intSchema : Json → Option ℤ
  | .int n => some n
  | .bool b => some (if b then 1 else 0)
  | _ => none

/-- `_strict_int`, as a check. -/
def isStrictInt : Json → Bool
  | .int _ => true
  | _ => false

/-- The schema of one field. What is no field of the form is not accepted. -/
def AreaPlanForm.accepts (form : AreaPlanForm) : String → Json → Bool
  | "active", .bool _ => true
  | "vacuum_interval_days", value | "mop_interval_days", value =>
    (intSchema value).any fun n => 1 ≤ n ∧ n ≤ 365
  | "priority", value => (intSchema value).any (0 ≤ ·)
  | "mode", .str mode => mode ∈ form.modes
  | _, _ => false

/-- The fields of an input; one that is missing has its default. -/
def AreaPlanForm.fields (form : AreaPlanForm) (input : Payload) : Payload :=
  form.defaults.map fun (key, default) => (key, (input.lookup key).getD default)

/-- Validates an input against the schema of a form: the values, or `none` if it is refused. -/
abbrev FormSchema := AreaPlanForm → Payload → Option Payload

/-- What is documented of the schema: every field is there, as it was given or with its default,
nothing else is, and each has passed the check of its field. -/
structure FormSchema.Validates (schema : FormSchema) : Prop where
  fields : ∀ {form : AreaPlanForm} {input values : Payload}, schema form input = some values →
    ∀ field ∈ form.fields input, values.lookup field.1 = some field.2
  only : ∀ {form : AreaPlanForm} {input values : Payload}, schema form input = some values →
    ∀ key ∈ values.map Prod.fst, key ∈ form.defaults.map Prod.fst
  accepts : ∀ {form : AreaPlanForm} {input values : Payload}, schema form input = some values →
    ∀ field ∈ form.fields input, form.accepts field.1 field.2 = true

/-- A schema that gives its fields in the order of the form. -/
def AreaPlanForm.schema : FormSchema := fun form input =>
  if (∀ key ∈ input.map Prod.fst, key ∈ form.defaults.map Prod.fst) ∧
      ∀ field ∈ form.fields input, form.accepts field.1 field.2 = true then
    some (form.fields input)
  else none

theorem AreaPlanForm.fields_keys (form : AreaPlanForm) (input : Payload) :
    (form.fields input).map Prod.fst =
      ["active", "vacuum_interval_days", "mop_interval_days", "priority", "mode"] := rfl

theorem AreaPlanForm.lookup_fields {form : AreaPlanForm} {input : Payload} {field : String × Json}
    (h : field ∈ form.fields input) : (form.fields input).lookup field.1 = some field.2 :=
  Dict.lookup_of_mem (by rw [form.fields_keys]; decide) h

theorem AreaPlanForm.schema_validates : AreaPlanForm.schema.Validates where
  fields h field h_field := by
    unfold schema at h
    split at h
    · cases h
      exact lookup_fields h_field
    · exact nomatch h
  only h key h_key := by
    unfold schema at h
    split at h
    · cases h
      exact h_key
    · exact nomatch h
  accepts h := by
    unfold schema at h
    split at h
    · next h_valid => exact h_valid.2
    · exact nomatch h

/-! ### The flow -/

/-- The data of the entry that is created. -/
structure FlowData where
  vacuumEntityId : Option String
  areaIds : List String
  areaPlans : List (String × Payload)

/-- The data as the entry has it: the setup finds its ids next to it. -/
def FlowData.entry (data : FlowData) (entryId registryId : String) : Option EntryData := do
  let vacuumEntityId ← data.vacuumEntityId
  let areaPlans ← data.areaPlans.mapM fun (areaId, plan) =>
    (AreaSettings.read plan).map fun settings => (areaId, settings)
  return ⟨entryId, some registryId, vacuumEntityId, data.areaIds, areaPlans⟩

inductive AbortReason where
  | invalidFlowState
  /-- The unique id belongs to an entry or to another flow. -/
  | uniqueIdTaken (reason : String)
  deriving DecidableEq

inductive FlowResult where
  | form (form : Form)
  | abort (reason : AbortReason)
  | createEntry (title : Option String) (data : FlowData)

inductive FlowError where
  | indexError
  | rejected (e : Rejection)
  deriving DecidableEq

structure ConfigFlow where
  vacuumRegistryId : Option String
  selectedAreaIds : List String
  pendingAreaPlans : List (String × Payload)
  areaPlanIndex : ℕ

/-- What a step of the flow sees of Home Assistant. -/
structure FlowWorld where
  home : Home
  /-- Why `async_set_unique_id` or `_abort_if_unique_id_configured` aborts the flow. -/
  uniqueIdTaken : Option String → Option String

namespace ConfigFlow

/-- `__init__`. -/
def init : ConfigFlow := ⟨none, [], [], 0⟩

/-- The mode of the areas that are done, if the form can still offer it. -/
def batchMode (flow : ConfigFlow) (modes : List String) : Option String :=
  match flow.pendingAreaPlans with
  | [] => none
  | (_, firstPlan) :: _ =>
    match firstPlan.get "mode" with
    | .str mode => if mode ∈ modes then some mode else none
    | _ => none

/-- The modes a vacuum can be used in. -/
def offeredModes (selector : Option String) : List String :=
  PreferredMode.vacuum.value ::
    if selector.isSome then [PreferredMode.vacuumAndMop.value] else []

/-- `_area_plan_form`. -/
def areaPlanForm (world : FlowWorld) (flow : ConfigFlow) : Except FlowError FlowResult := do
  let areaId ← orRaise flow.selectedAreaIds[flow.areaPlanIndex]? .indexError
  let selector ← (findDreameMovaCleaningModeEntity world.home flow.vacuumRegistryId).mapError
    .rejected
  let modes := offeredModes selector
  let batch := flow.batchMode modes
  return .form (.areaPlan {
    areaName := (world.home.areas areaId).getD areaId
    current := flow.areaPlanIndex + 1
    total := flow.selectedAreaIds.length
    modes := batch.elim modes ([·])
    defaultMode := batch.getD PreferredMode.vacuum.value })

/-- `_begin_area_plans`. -/
def beginAreaPlans (world : FlowWorld) (areaIds : List String) (flow : ConfigFlow) :
    Except FlowError FlowResult × ConfigFlow :=
  let flow := { flow with
    selectedAreaIds := areaIds, pendingAreaPlans := [], areaPlanIndex := 0 }
  (flow.areaPlanForm world, flow)

/-- `_current_vacuum`. -/
def currentVacuum (world : FlowWorld) (flow : ConfigFlow) : Option HomeEntry := do
  let registryId ← flow.vacuumRegistryId
  let entry ← (asyncGetValidVacuum world.home registryId).toOption
  if entry.id = some registryId then some entry else none

/-- `async_step_areas`. -/
def asyncStepAreas (world : FlowWorld) (input : Option (List String)) (flow : ConfigFlow) :
    Except FlowError FlowResult × ConfigFlow :=
  match input with
  | none => (.ok (.form (.areas none)), flow)
  | some areaIds =>
    match flow.currentVacuum world with
    | none => (.ok (.abort .invalidFlowState), flow)
    | some entry =>
      match validateAreaIds areaIds entry with
      | .error e => (.ok (.form (.areas (some e))), flow)
      | .ok () => flow.beginAreaPlans world areaIds

/-- `async_step_user`. -/
def asyncStepUser (world : FlowWorld) (input : Option String) (flow : ConfigFlow) :
    Except FlowError FlowResult × ConfigFlow :=
  match input with
  | none => (.ok (.form (.user none)), flow)
  | some vacuumEntityId =>
    match asyncGetValidVacuum world.home vacuumEntityId with
    | .error e => (.ok (.form (.user (some e))), flow)
    | .ok entry =>
      match world.uniqueIdTaken entry.id with
      | some reason => (.ok (.abort (.uniqueIdTaken reason)), flow)
      | none => { flow with vacuumRegistryId := entry.id }.asyncStepAreas world none

/-- The entry is created. -/
def finish (world : FlowWorld) (flow : ConfigFlow) : FlowResult :=
  match flow.currentVacuum world with
  | none => .abort .invalidFlowState
  | some entry =>
    match world.uniqueIdTaken entry.id with
    | some reason => .abort (.uniqueIdTaken reason)
    | none => .createEntry entry.entityId
        ⟨entry.entityId, flow.selectedAreaIds, flow.pendingAreaPlans⟩

/-- The answers of a form are those of the area it was shown for. -/
def record (areaId : String) (answers : Payload) (flow : ConfigFlow) : ConfigFlow :=
  { flow with
    pendingAreaPlans := Dict.set flow.pendingAreaPlans areaId answers
    areaPlanIndex := flow.areaPlanIndex + 1 }

/-- `async_step_area_plan`. -/
def asyncStepAreaPlan (world : FlowWorld) (input : Option Payload) (flow : ConfigFlow) :
    Except FlowError FlowResult × ConfigFlow :=
  if flow.selectedAreaIds = [] then (.ok (.abort .invalidFlowState), flow)
  else match input with
    | none => (flow.areaPlanForm world, flow)
    | some answers =>
      if ∃ key ∈ ["vacuum_interval_days", "mop_interval_days", "priority"],
          ((answers.lookup key).any isStrictInt) = false then
        (.ok (.abort .invalidFlowState), flow)
      else match flow.selectedAreaIds[flow.areaPlanIndex]? with
        | none => (.error .indexError, flow)
        | some areaId =>
          let flow := flow.record areaId answers
          if flow.areaPlanIndex < flow.selectedAreaIds.length then
            (flow.areaPlanForm world, flow)
          else (.ok (flow.finish world), flow)

end ConfigFlow

/-! ### The flow and its manager -/

/-- What the user does with a form. -/
inductive FlowInput where
  /-- The form is asked for once more. -/
  | reload
  | user (vacuumEntityId : String)
  | areas (areaIds : List String)
  | areaPlan (input : Payload)

structure FlowSession where
  flow : ConfigFlow
  /-- The form that was shown last, or how the flow has ended. -/
  result : FlowResult

namespace FlowSession

/-- The flow begins. -/
def start : FlowSession := ⟨.init, .form (.user none)⟩

/-- The step that runs, with what the schema of the form has made of the input. -/
def run (schema : FormSchema) (world : FlowWorld) (flow : ConfigFlow) :
    Form → FlowInput → Option (Except FlowError FlowResult × ConfigFlow)
  | .user _, .reload => some (flow.asyncStepUser world none)
  | .user _, .user vacuumEntityId => some (flow.asyncStepUser world (some vacuumEntityId))
  | .areas _, .reload => some (flow.asyncStepAreas world none)
  | .areas _, .areas areaIds => some (flow.asyncStepAreas world (some areaIds))
  | .areaPlan _, .reload => some (flow.asyncStepAreaPlan world none)
  | .areaPlan form, .areaPlan input =>
    (schema form input).map fun values => flow.asyncStepAreaPlan world (some values)
  | _, _ => none

/-- What a step leaves. If it has raised, the form stays. -/
def leave (form : Form) : Except FlowError FlowResult × ConfigFlow → FlowSession
  | (.ok result, flow) => ⟨flow, result⟩
  | (.error _, flow) => ⟨flow, .form form⟩

/-- One input. A flow that has ended takes none, and a form takes only what its schema accepts. -/
def step (schema : FormSchema) (event : FlowWorld × FlowInput) (session : FlowSession) :
    Except Unit FlowSession :=
  match session.result with
  | .form form =>
    match run schema event.1 session.flow form event.2 with
    | some out => .ok (leave form out)
    | none => .error ()
  | _ => .error ()

/-- The flow after its first `n` inputs. -/
def after (schema : FormSchema) (events : List (FlowWorld × FlowInput)) (n : ℕ) : FlowSession :=
  stateAt (step schema) start events n

end FlowSession

/-! ### One form -/

/-- The settings a form can have been filled in with. -/
structure AreaPlan.Answers (settings : AreaPlan) (modes : List String) : Prop where
  vacuumInterval : 1 ≤ settings.vacuumIntervalDays ∧ settings.vacuumIntervalDays ≤ 365
  mopInterval : 1 ≤ settings.mopIntervalDays ∧ settings.mopIntervalDays ≤ 365
  priority : 0 ≤ settings.priority
  mode : settings.mode ∈ modes

theorem intSchema_strict {value : Json} {p : ℤ → Bool} (h_strict : isStrictInt value = true)
    (h : (intSchema value).any p = true) : ∃ n, value = .int n ∧ p n = true := by
  cases value with
  | int n => exact ⟨n, rfl, h⟩
  | null | bool | float | str | array | object => exact nomatch h_strict

/-- Fields that pass both the schema of a form and the strict check are complete settings. -/
theorem AreaPlanForm.fields_strict {form : AreaPlanForm} {input : Payload}
    (h_fields : ∀ field ∈ form.fields input, form.accepts field.1 field.2 = true)
    (h_strict : ∀ key ∈ ["vacuum_interval_days", "mop_interval_days", "priority"],
      ((form.fields input).lookup key).any isStrictInt = true) :
    ∃ settings : AreaPlan, form.fields input = settings.dump ∧ settings.Answers form.modes := by
  simp only [fields, defaults, List.map_cons, List.map_nil] at h_fields h_strict ⊢
  -- only what has arrived matters, not how the defaults got there
  generalize (input.lookup "active").getD _ = active at h_fields h_strict ⊢
  generalize (input.lookup "vacuum_interval_days").getD _ = vacuum at h_fields h_strict ⊢
  generalize (input.lookup "mop_interval_days").getD _ = mop at h_fields h_strict ⊢
  generalize (input.lookup "priority").getD _ = priority at h_fields h_strict ⊢
  generalize (input.lookup "mode").getD _ = mode at h_fields h_strict ⊢
  simp only [List.forall_mem_cons] at h_fields
  obtain ⟨h_active, h_vacuum, h_mop, h_priority, h_mode, -⟩ := h_fields
  obtain ⟨v, rfl, h_v⟩ := intSchema_strict (h_strict "vacuum_interval_days" (by decide)) h_vacuum
  obtain ⟨m, rfl, h_m⟩ := intSchema_strict (h_strict "mop_interval_days" (by decide)) h_mop
  obtain ⟨p, rfl, h_p⟩ := intSchema_strict (h_strict "priority" (by decide)) h_priority
  -- the selectors leave a flag and a text, the rest are numbers
  cases active with
  | bool areaActive =>
    cases mode with
    | str mode =>
      exact ⟨⟨areaActive, v, m, p, mode⟩, rfl, of_decide_eq_true h_v, of_decide_eq_true h_m,
        of_decide_eq_true h_p, of_decide_eq_true h_mode⟩
    | null | bool | int | float | array | object => exact nomatch h_mode
  | null | int | float | str | array | object => exact nomatch h_active

/-- The payload holds the settings: every key is read as from their dump. -/
def AreaPlan.StoredAs (settings : AreaPlan) (stored : Payload) : Prop :=
  ∀ key, stored.lookup key = settings.dump.lookup key

theorem AreaPlan.StoredAs.mode {settings : AreaPlan} {stored : Payload}
    (h : settings.StoredAs stored) : stored.get "mode" = .str settings.mode := by
  unfold Payload.get
  rw [h]
  rfl

theorem AreaPlan.StoredAs.read {settings : AreaPlan} {stored : Payload}
    (h : settings.StoredAs stored) :
    AreaSettings.read stored = AreaSettings.read settings.dump := by
  unfold AreaSettings.read VacuumPlanner.stored
  simp only [h _]

/-- What passes both the schema and the strict check holds complete settings. -/
theorem FormSchema.Validates.answers {schema : FormSchema} (h : schema.Validates)
    {form : AreaPlanForm} {input values : Payload} (h_run : schema form input = some values)
    (h_strict : ∀ key ∈ ["vacuum_interval_days", "mop_interval_days", "priority"],
      (values.lookup key).any isStrictInt = true) :
    ∃ settings : AreaPlan, settings.StoredAs values ∧ settings.Answers form.modes := by
  -- the values are the fields of the form, in whatever order
  have h_read : ∀ key, values.lookup key = (form.fields input).lookup key := by
    intro key
    by_cases h_key : key ∈ (form.fields input).map Prod.fst
    · obtain ⟨field, h_field, rfl⟩ := List.mem_map.mp h_key
      rw [h.fields h_run field h_field, AreaPlanForm.lookup_fields h_field]
    · have h_values : key ∉ values.map Prod.fst := fun h_mem => h_key (h.only h_run key h_mem)
      rw [not_not.mp (mt Dict.lookup_ne_none.mp h_values),
        not_not.mp (mt Dict.lookup_ne_none.mp h_key)]
  obtain ⟨settings, h_fields, h_answers⟩ := AreaPlanForm.fields_strict (h.accepts h_run)
    fun key h_key => by rw [← h_read]; exact h_strict key h_key
  exact ⟨settings, fun key => by rw [h_read, h_fields], h_answers⟩

/-! ### One step -/

/-- The vacuum of a registry id, as the world has shown it. -/
structure FlowWorld.Shows (world : FlowWorld) (registryId : String) (vacuum : HomeEntry) :
    Prop where
  valid : ValidVacuum world.home registryId vacuum
  id : vacuum.id = some registryId

namespace ConfigFlow

variable {world : FlowWorld} {flow : ConfigFlow} {areaId registryId : String}

theorem currentVacuum_eq_some {vacuum : HomeEntry} :
    flow.currentVacuum world = some vacuum ↔ ∃ registryId,
      flow.vacuumRegistryId = some registryId ∧ world.Shows registryId vacuum := by
  unfold currentVacuum
  simp only [Option.bind_eq_bind, Option.bind_eq_some_iff]
  refine exists_congr fun registryId => and_congr_right fun _ => ?_
  constructor
  · rintro ⟨entry, h_entry, h⟩
    split at h
    · next h_id =>
      cases h
      cases h_run : asyncGetValidVacuum world.home registryId with
      | error e => rw [h_run] at h_entry; exact nomatch h_entry
      | ok entry' =>
        rw [h_run] at h_entry
        cases h_entry
        exact ⟨asyncGetValidVacuum_eq_ok.mp h_run, h_id⟩
    · exact nomatch h
  · rintro ⟨h_valid, h_id⟩
    exact ⟨vacuum, by rw [asyncGetValidVacuum_eq_ok.mpr h_valid]; rfl, if_pos h_id⟩

/-- The areas are selected, and none is planned. -/
def select (areaIds : List String) (flow : ConfigFlow) : ConfigFlow :=
  { flow with selectedAreaIds := areaIds, pendingAreaPlans := [], areaPlanIndex := 0 }

/-- A finished flow creates the entry of a vacuum that is there and free, or is aborted. -/
theorem finish_cases (world : FlowWorld) (flow : ConfigFlow) :
    (∃ reason, flow.finish world = .abort reason) ∨ ∃ registryId vacuum,
      flow.vacuumRegistryId = some registryId ∧ world.Shows registryId vacuum ∧
        world.uniqueIdTaken (some registryId) = none ∧ flow.finish world = .createEntry
          vacuum.entityId ⟨vacuum.entityId, flow.selectedAreaIds, flow.pendingAreaPlans⟩ := by
  unfold finish
  split
  · exact Or.inl ⟨_, rfl⟩
  · next vacuum h_vacuum =>
    obtain ⟨registryId, h_id, h_shows⟩ := currentVacuum_eq_some.mp h_vacuum
    split
    · exact Or.inl ⟨_, rfl⟩
    · next h_free =>
      exact Or.inr ⟨registryId, vacuum, h_id, h_shows, h_shows.id ▸ h_free, rfl⟩

/-- A form of an area shows one, with the modes its world offers. -/
theorem areaPlanForm_ok {result : FlowResult} (h : flow.areaPlanForm world = .ok result) :
    flow.areaPlanIndex < flow.selectedAreaIds.length ∧ ∃ selector form,
      findDreameMovaCleaningModeEntity world.home flow.vacuumRegistryId = .ok selector ∧
        result = .form (.areaPlan form) ∧
          form.modes = (flow.batchMode (offeredModes selector)).elim (offeredModes selector)
            ([·]) := by
  unfold areaPlanForm at h
  obtain ⟨areaId, h_area, h⟩ := bind_eq_ok.mp h
  obtain ⟨selector, h_selector, h⟩ := bind_eq_ok.mp h
  obtain rfl := pure_eq_ok.mp h
  obtain ⟨h_index, -⟩ := List.getElem?_eq_some_iff.mp (orRaise_eq_ok.mp h_area)
  refine ⟨h_index, selector, _, ?_, rfl, rfl⟩
  cases h_find : findDreameMovaCleaningModeEntity world.home flow.vacuumRegistryId with
  | ok selector' => rw [h_find] at h_selector; cases h_selector; rfl
  | error e => rw [h_find] at h_selector; exact nomatch h_selector

/-- With an area to show, it is the selector that cannot be read. -/
theorem areaPlanForm_error {e : FlowError} (h : flow.areaPlanForm world = .error e)
    (h_index : flow.areaPlanIndex < flow.selectedAreaIds.length) :
    ∃ e, findDreameMovaCleaningModeEntity world.home flow.vacuumRegistryId = .error e := by
  cases h_find : findDreameMovaCleaningModeEntity world.home flow.vacuumRegistryId with
  | error e => exact ⟨e, rfl⟩
  | ok selector =>
    unfold areaPlanForm at h
    rw [List.getElem?_eq_getElem h_index, h_find] at h
    exact nomatch h

end ConfigFlow

namespace FlowSession

variable {schema : FormSchema} {world : FlowWorld} {flow : ConfigFlow} {input : FlowInput}
  {session session' : FlowSession}

/-- The form of the next area is asked for. -/
def asks (world : FlowWorld) (flow : ConfigFlow) (form : Form) : FlowSession :=
  leave form (flow.areaPlanForm world, flow)

/-- What an input makes of a flow. -/
inductive Takes (schema : FormSchema) (world : FlowWorld) :
    FlowInput → FlowSession → FlowSession → Prop
  | same {input : FlowInput} {session : FlowSession} : Takes schema world input session session
  | user {input : FlowInput} {flow : ConfigFlow} {error error' : Option TopologyError} :
    Takes schema world input ⟨flow, .form (.user error)⟩ ⟨flow, .form (.user error')⟩
  | areas {input : FlowInput} {flow : ConfigFlow} {error error' : Option TopologyError} :
    Takes schema world input ⟨flow, .form (.areas error)⟩ ⟨flow, .form (.areas error')⟩
  | aborted {input : FlowInput} {flow : ConfigFlow} {form : Form} {reason : AbortReason} :
    Takes schema world input ⟨flow, .form form⟩ ⟨flow, .abort reason⟩
  | found {input : FlowInput} {flow : ConfigFlow} {error : Option TopologyError}
      (registryId : Option String) :
    Takes schema world input ⟨flow, .form (.user error)⟩
      ⟨{ flow with vacuumRegistryId := registryId }, .form (.areas none)⟩
  | selected {flow : ConfigFlow} {error : Option TopologyError} {areaIds : List String}
      {registryId : String} {vacuum : HomeEntry} (h_id : flow.vacuumRegistryId = some registryId)
      (h_shows : world.Shows registryId vacuum)
      (h_valid : validateAreaIds areaIds vacuum = .ok ()) :
    Takes schema world (.areas areaIds) ⟨flow, .form (.areas error)⟩
      (asks world (flow.select areaIds) (.areas error))
  | asked {flow : ConfigFlow} {form : AreaPlanForm} :
    Takes schema world .reload ⟨flow, .form (.areaPlan form)⟩ (asks world flow (.areaPlan form))
  | answered {flow : ConfigFlow} {form : AreaPlanForm} {answers values : Payload} {areaId : String}
      (h_schema : schema form answers = some values)
      (h_strict : ∀ key ∈ ["vacuum_interval_days", "mop_interval_days", "priority"],
        (values.lookup key).any isStrictInt = true)
      (h_area : flow.selectedAreaIds[flow.areaPlanIndex]? = some areaId)
      (h_next : flow.areaPlanIndex + 1 < flow.selectedAreaIds.length) :
    Takes schema world (.areaPlan answers) ⟨flow, .form (.areaPlan form)⟩
      (asks world (flow.record areaId values) (.areaPlan form))
  | finished {flow : ConfigFlow} {form : AreaPlanForm} {answers values : Payload} {areaId : String}
      (h_schema : schema form answers = some values)
      (h_strict : ∀ key ∈ ["vacuum_interval_days", "mop_interval_days", "priority"],
        (values.lookup key).any isStrictInt = true)
      (h_area : flow.selectedAreaIds[flow.areaPlanIndex]? = some areaId)
      (h_last : flow.selectedAreaIds.length ≤ flow.areaPlanIndex + 1) :
    Takes schema world (.areaPlan answers) ⟨flow, .form (.areaPlan form)⟩
      ⟨flow.record areaId values, (flow.record areaId values).finish world⟩

theorem takes_asyncStepUser (error : Option TopologyError) (vacuumEntityId : Option String) :
    Takes schema world input ⟨flow, .form (.user error)⟩
      (leave (.user error) (flow.asyncStepUser world vacuumEntityId)) := by
  unfold ConfigFlow.asyncStepUser
  cases vacuumEntityId with
  | none => exact .user
  | some vacuumEntityId =>
    dsimp only
    split
    · exact .user
    · split
      · exact .aborted
      · exact .found _

theorem takes_asyncStepAreas (error : Option TopologyError) (areaIds : List String) :
    Takes schema world (.areas areaIds) ⟨flow, .form (.areas error)⟩
      (leave (.areas error) (flow.asyncStepAreas world (some areaIds))) := by
  unfold ConfigFlow.asyncStepAreas
  dsimp only
  split
  · exact .aborted
  · next vacuum h_vacuum =>
    obtain ⟨registryId, h_id, h_shows⟩ := ConfigFlow.currentVacuum_eq_some.mp h_vacuum
    split
    · exact .areas
    · next h_valid => exact .selected h_id h_shows h_valid

theorem takes_asyncStepAreaPlan {form : AreaPlanForm} {answers values : Payload}
    (h_schema : schema form answers = some values) :
    Takes schema world (.areaPlan answers) ⟨flow, .form (.areaPlan form)⟩
      (leave (.areaPlan form) (flow.asyncStepAreaPlan world (some values))) := by
  unfold ConfigFlow.asyncStepAreaPlan
  split
  · exact .aborted
  dsimp only
  split
  · exact .aborted
  next h_strict =>
  have h_strict : ∀ key ∈ ["vacuum_interval_days", "mop_interval_days", "priority"],
      (values.lookup key).any isStrictInt = true := fun key h_key =>
    Bool.eq_true_of_not_eq_false fun h_false => h_strict ⟨key, h_key, h_false⟩
  split
  · exact .same
  · next areaId h_area =>
    split
    · next h_next => exact .answered h_schema h_strict h_area h_next
    · next h_last => exact .finished h_schema h_strict h_area (not_lt.mp h_last)

theorem step_takes (h : step schema (world, input) session = .ok session') :
    Takes schema world input session session' := by
  obtain ⟨flow, result⟩ := session
  unfold step at h
  dsimp only at h
  split at h
  · next form =>
    split at h
    · next out h_run =>
      cases h
      -- each answer goes to the step of the form that is shown
      unfold run at h_run
      split at h_run
      · cases h_run
        exact takes_asyncStepUser _ none
      · cases h_run
        exact takes_asyncStepUser _ _
      · cases h_run
        exact .areas
      · cases h_run
        exact takes_asyncStepAreas _ _
      · cases h_run
        -- without answers the form is asked for again
        unfold ConfigFlow.asyncStepAreaPlan
        split
        · exact .aborted
        · exact .asked
      · obtain ⟨values, h_schema, rfl⟩ := Option.map_eq_some_iff.mp h_run
        exact takes_asyncStepAreaPlan h_schema
      · exact nomatch h_run
    · exact nomatch h
  · exact nomatch h

/-- A form that is asked for shows an area, or the form before it stays for that area. -/
theorem asks_cases (world : FlowWorld) (flow : ConfigFlow) (form : Form)
    (h_index : flow.areaPlanIndex < flow.selectedAreaIds.length) :
    (∃ selector shown, asks world flow form = ⟨flow, .form (.areaPlan shown)⟩ ∧
      findDreameMovaCleaningModeEntity world.home flow.vacuumRegistryId = .ok selector ∧
        shown.modes = (flow.batchMode (ConfigFlow.offeredModes selector)).elim
          (ConfigFlow.offeredModes selector) ([·])) ∨
    asks world flow form = ⟨flow, .form form⟩ ∧ ∃ e,
      findDreameMovaCleaningModeEntity world.home flow.vacuumRegistryId = .error e := by
  unfold asks
  cases h : flow.areaPlanForm world with
  | ok result =>
    obtain ⟨-, selector, shown, h_selector, rfl, h_modes⟩ := ConfigFlow.areaPlanForm_ok h
    exact Or.inl ⟨selector, shown, rfl, h_selector, h_modes⟩
  | error e => exact Or.inr ⟨rfl, ConfigFlow.areaPlanForm_error h h_index⟩

end FlowSession

end VacuumPlanner
