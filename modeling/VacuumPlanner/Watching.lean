import VacuumPlanner.Attention
import VacuumPlanner.Configuration
import VacuumPlanner.Normalization
import VacuumPlanner.Reached
import VacuumPlanner.Resolving

/-!
# Watching a runtime

A loaded runtime with everything `async_setup_entry` puts around it: what the setup has found
out about the entry, the listeners of `_subscribe_observer`, the reconciliation of
`_subscribe_repairs`, and Home Assistant's issue registry. The listeners decide on what they see
at the moment they are called, so each of them comes with the home of that moment; the runtime
goes through its own acts (`Runtime.step`) and nothing else.

Three parties have to agree on whether the topology is all right: the flag that every guard asks,
the issues the user sees, and the listeners, which have to be there as long as the flag says
that all is well. `watched_truthful` says that they do in every state a setup can lead to, whatever
happens to the home, the runtime and the entries next to it.
-/

namespace VacuumPlanner

open Framework Serialization

/-! ### The state -/

/-- What the setup has found out, and the listeners it has left behind. -/
structure Watch where
  entryId : String
  config : NativeConfig
  vacuumEntityId : Option String
  configuredAreaIds : List String
  cleaningModeEntityId : Option String
  /-- The generation the listener of the vacuum reports with. -/
  stateListener : Option ℕ
  /-- The entity the listener of the selector listens to. -/
  capabilityListener : Option String

/-- A task of `async_apply_observation` that has not reached the lock. -/
structure Report where
  state : String
  attributes : Payload
  observedAt : Instant
  generation : ℕ

structure Watched where
  runtime : Runtime
  watch : Watch
  reports : List Report
  issues : IssueRegistry

/-! ### Publications and the fail-closed latch -/

/-- `async_create_entry_issue` for each of some conditions. -/
def IssueRegistry.createEntryIssues (issues : IssueRegistry) (entryId : String)
    (conditions : Finset IssueCondition) : IssueRegistry :=
  (issueConditions.filter (· ∈ conditions)).foldl (·.createEntryIssue entryId ·) issues

namespace Watched

/-- A publication, as the listener of `_subscribe_repairs` sees it. -/
def publish (w : Watched) : Watched :=
  { w with
    issues := w.issues.reconcileUnresolvedExternalRun w.watch.entryId
      (unresolvedExternalRun w.runtime.state) }

/-- `detach_state_observers`. -/
def detachStateObservers (w : Watched) : Watched :=
  { w with watch := { w.watch with stateListener := none, capabilityListener := none } }

/-- `fail_closed`, with its conditions. -/
def failClosed (w : Watched) (conditions : Finset IssueCondition) (observedAt : Instant) :
    Watched :=
  if w.runtime.flags.topologyReady = false then w
  else
    let w := { w with runtime := w.runtime.failClosed observedAt }.publish
    let w := { w with issues := w.issues.createEntryIssues w.watch.entryId conditions }
    -- with work under way the listeners stay until it is quarantined
    if w.runtime.hasActiveExternalWork then w else w.detachStateObservers

end Watched

/-! ### The setup -/

/-- `_resolve_configured_vacuum`. -/
def resolveConfiguredVacuum (home : Home) (entry : EntryData) :
    Except Rejection (Option String × Finset IssueCondition) :=
  match entry.uniqueId with
  | none => .ok (some entry.vacuumEntityId, ∅)
  | some registryId =>
    match home.entries registryId with
    | none => .ok (some entry.vacuumEntityId, {.missingRegistry})
    | some registryEntry => do
      let issues ← configuredTopologyIssues home registryId entry.areaIds
        (entryRequiresVacuumAndMop entry) none
      return (registryEntry.entityId, issues)

/-- `_resolve_required_cleaning_mode`, without the issue it creates. -/
def resolveRequiredCleaningMode (home : Home) (entry : EntryData) (state : PlannerState) :
    Except Rejection (Option String × Option String × Bool) := do
  let requires := stateRequiresVacuumAndMop state || entryRequiresVacuumAndMop entry
  let selector ← if requires && entry.uniqueId.isSome then
    findDreameMovaCleaningModeEntity home entry.uniqueId else .ok none
  return (selector, (selector.bind home.entries).bind (·.id), requires)

/-- What a setup has before it knows of the runtime. -/
structure SetupInput where
  entry : EntryData
  number : ℕ
  dryRun : Bool
  /-- The state that was loaded, and recovered. -/
  state : PlannerState
  issues : IssueRegistry
  /-- The home when the setup begins, and after the load. -/
  before : Home
  home : Home
  now : Instant

/-- The conditions of a setup: what it finds with the vacuum, the run it has loaded, and the
selector it lacks. -/
def SetupInput.conditions (input : SetupInput) (found : Finset IssueCondition) (lost : Bool) :
    Finset IssueCondition :=
  let loaded :=
    if unresolvedExternalRun input.state then insert .unresolvedExternalRun found else found
  if lost then insert .lostCapability loaded else loaded

/-- The issues are reconciled after the load, and the selector is looked for after that. -/
def SetupInput.reconciled (input : SetupInput) (found : Finset IssueCondition) (lost : Bool) :
    IssueRegistry :=
  let issues := input.issues.reconcileEntryIssues input.entry.entryId (input.conditions found false)
  if lost then issues.createEntryIssue input.entry.entryId .lostCapability else issues

/-- The runtime data with the listener of the vacuum. -/
def SetupInput.runtimeData (input : SetupInput) (vacuumEntityId : Option String)
    (found : Finset IssueCondition) (selector selectorId : Option String) (requires : Bool) :
    Watched where
  runtime := .fresh input.number input.dryRun
    (∀ condition ∈ input.conditions found (requires && selector.isNone), condition.topology = false)
    input.state
  watch := {
    entryId := input.entry.entryId
    vacuumEntityId
    config := ⟨input.entry.uniqueId, selectorId, requires⟩
    configuredAreaIds := input.entry.areaIds
    cleaningModeEntityId := selector
    stateListener := some 0
    capabilityListener := none }
  reports := []
  issues := input.reconciled found (requires && selector.isNone)

/-- `bind_capability_state`. -/
def Watched.bindCapabilityState (w : Watched) (entityId : String) : Watched :=
  { w with
    watch := { w.watch with
      cleaningModeEntityId := some entityId, capabilityListener := some entityId } }

/-- `async_setup_entry`, up to the platforms. A setup that raises leaves no runtime. -/
def SetupInput.setup (input : SetupInput) : Except Rejection Watched := do
  let (vacuumEntityId, found) ← resolveConfiguredVacuum input.before input.entry
  let (selector, selectorId, requires) ←
    resolveRequiredCleaningMode input.home input.entry input.state
  let w := input.runtimeData vacuumEntityId found selector selectorId requires
  if requires then
    match ← resolveBoundCleaningModeEntity input.home.hass selectorId with
    | none => return w.failClosed {.lostCapability} input.now
    | some entityId => return w.bindCapabilityState entityId
  else return w

/-! ### The listeners -/

/-- A change of the state of the vacuum. -/
structure StateChange where
  /-- `new_state`: its state, if it is a string, and its attributes, if they are a mapping. -/
  newState : Option (Option String × Option Payload)
  /-- `time_fired`, or the current time in its place. -/
  observedAt : Instant
  now : Instant

/-- `supported_features & 16384`, of a feature mask. -/
def reportsCleanArea : Json → Bool
  | .int features => 0 ≤ features && features.toNat &&& 16384 ≠ 0
  | _ => false

/-- The attributes say that `CLEAN_AREA` is lost. A state that says nothing loses nothing. -/
def losesCleanArea (attributes : Payload) : Bool :=
  (attributes.lookup "supported_features").any fun features => !reportsCleanArea features

namespace Watched

/-- `observed`, of a listener with its generation. -/
def observed (w : Watched) (event : StateChange) (generation : ℕ) : Watched :=
  if w.runtime.flags.topologyReady = false then w
  else match event.newState with
    | some (some state, some attributes) =>
      if state ∈ uncertainTexts then w.failClosed {.missingRegistry} event.observedAt
      else if losesCleanArea attributes then w.failClosed {.lostCapability} event.now
      else { w with reports := w.reports ++ [⟨state, attributes, event.observedAt, generation⟩] }
    | _ => w.failClosed {.missingRegistry} event.now

/-- `capability_observed`. -/
def capabilityObserved (w : Watched) (newState : Option EntityState) (now : Instant) : Watched :=
  if w.runtime.flags.topologyReady = false then w
  else match newState with
    | none => w.failClosed {.lostCapability} now
    | some entity =>
      match entity.offline, entity.attributes.get "options" with
      | false, .array options =>
        -- `issubset` raises on what it cannot hash, and a listener that raises has done nothing
        if ∃ option ∈ options, option.hashable = false then w
        else if ∀ option ∈ modeOptions, .str option ∈ options then w
        else w.failClosed {.lostCapability} now
      | _, _ => w.failClosed {.lostCapability} now

/-- The issues `registry_updated` finds. -/
def registryIssues (w : Watched) (home : Home) (registryId : String) :
    Except Rejection (Finset IssueCondition) := do
  let currentEntityId := (home.entries registryId).bind (·.entityId)
  let configuredAreaIds :=
    if w.watch.configuredAreaIds = [] then w.runtime.state.planRevision.roomPlans.map (·.areaId)
    else w.watch.configuredAreaIds
  let issues ← (if currentEntityId = none then .ok {.missingRegistry} else
    configuredTopologyIssues home registryId configuredAreaIds w.watch.config.requiresVacuumAndMop
      w.watch.config.cleaningModeRegistryId)
  return if currentEntityId ≠ w.watch.vacuumEntityId then insert .missingRegistry issues else issues

/-- `registry_updated`. -/
def registryUpdated (w : Watched) (home : Home) (registryId : String) (now : Instant) : Watched :=
  if w.runtime.flags.topologyReady = false then w
  else match w.registryIssues home registryId with
    | .error _ => w
    | .ok issues =>
      if issues ≠ ∅ then w.failClosed issues now
      else if w.watch.config.requiresVacuumAndMop = false then w
      else match resolveBoundCleaningModeEntity home.hass w.watch.config.cleaningModeRegistryId with
        | .error _ => w
        | .ok none => w.failClosed {.lostCapability} now
        | .ok (some entityId) =>
          if some entityId ≠ w.watch.cleaningModeEntityId then w.bindCapabilityState entityId else w

/-- `area_updated`. -/
def areaUpdated (w : Watched) (home : Home) (registryId : String) (now : Instant) : Watched :=
  if w.runtime.flags.topologyReady = false then w
  else match configuredTopologyIssues home registryId w.watch.configuredAreaIds
      w.watch.config.requiresVacuumAndMop w.watch.config.cleaningModeRegistryId with
    | .error _ => w
    | .ok issues => if issues ≠ ∅ then w.failClosed issues now else w

/-- `_resolve_command_cleaning_mode` where it finds no selector. -/
def loseMode (w : Watched) : Watched :=
  let w := { w with runtime := { w.runtime with flags := w.runtime.flags.latchTopology } }.publish
  { w with issues := w.issues.createEntryIssue w.watch.entryId .lostCapability }

end Watched

/-! ### What happens -/

inductive WatchEvent where
  /-- An act of the runtime. Those of the listeners have events of their own. -/
  | act (act : Act)
  /-- A report reaches the lock. -/
  | report (i : ℕ) (revisionIds : ℕ → String)
  | stateChanged (event : StateChange)
  | capabilityChanged (newState : Option EntityState) (now : Instant)
  | registryUpdated (home : Home) (now : Instant)
  | areaUpdated (home : Home) (now : Instant)
  /-- The two `_resolve_command_` functions find nothing. -/
  | vacuumLost (home : Home) (now : Instant)
  | modeLost (home : Home)
  /-- `quarantine_then_detach` has come to its end. -/
  | detached
  | unloadBegins
  | unloadFails
  /-- Another entry changes its issues. -/
  | elsewhere (entryId : String) (call : RepairsCall)

/-- The act latches the topology: a listener makes it, or a command that finds nothing. -/
def Act.latches : Act → Bool
  | .latchTopology | .failClosed _ => true
  | _ => false

/-- The act applies a report of the listener. -/
def Act.reports : Act → Bool
  | .observe _ _ _ _ => true
  | _ => false

/-- The act assigns the state, which is published. -/
def Act.publishes (r : Runtime) : Act → Bool
  | .resumed => r.holder.any fun held => held.call.check r.flags = .ok ()
  | _ => false

namespace Watched

/-- An act of the runtime, with the publication it makes. -/
def perform (w : Watched) (act : Act) : Except Unit Watched := do
  let (r, _) ← w.runtime.step act
  let w' := { w with runtime := r }
  return if act.publishes w.runtime then w'.publish else w'

/-- A report begins to run. -/
def takeReport (w : Watched) (i : ℕ) : Watched := { w with reports := w.reports.eraseIdx i }

/-- One event. An event that cannot happen in the current state is refused. -/
def step : WatchEvent → Watched → Except Unit Watched
  | .act act, w => if act.latches || act.reports then .error () else w.perform act
  | .report i revisionIds, w =>
    match w.reports[i]? with
    | none => .error ()
    | some report =>
      match normalizeObservation report.state report.attributes with
      -- `NO_CHANGE` does not ask for the lock
      | none => .ok (w.takeReport i)
      | some outcome =>
        (w.takeReport i).perform
          (.observe outcome report.observedAt revisionIds report.generation)
  | .stateChanged event, w =>
    match w.watch.stateListener with
    | some generation => .ok (w.observed event generation)
    | none => .error ()
  | .capabilityChanged newState now, w =>
    match w.watch.capabilityListener with
    | some _ => .ok (w.capabilityObserved newState now)
    | none => .error ()
  | .registryUpdated home now, w =>
    match w.watch.config.vacuumRegistryId with
    | some registryId => .ok (w.registryUpdated home registryId now)
    | none => .error ()
  | .areaUpdated home now, w =>
    match w.watch.config.vacuumRegistryId with
    | some registryId => .ok (w.areaUpdated home registryId now)
    | none => .error ()
  | .vacuumLost home now, w =>
    match w.watch.config.vacuumRegistryId.map (usableVacuum home.hass) with
    | some none => .ok (w.failClosed {.missingRegistry} now)
    | _ => .error ()
  | .modeLost home, w =>
    if w.watch.config.requiresVacuumAndMop = true ∧
        resolveBoundCleaningModeEntity home.hass w.watch.config.cleaningModeRegistryId = .ok none then
      .ok w.loseMode
    else .error ()
  | .detached, w =>
    -- it runs after the latch
    if w.runtime.flags.topologyReady = false then .ok w.detachStateObservers else .error ()
  | .unloadBegins, w =>
    .ok { w with runtime := { w.runtime with flags := w.runtime.flags.invalidateCommands } }
  | .unloadFails, w =>
    .ok { w with runtime := { w.runtime with flags := w.runtime.flags.activateCommands } }
  | .elsewhere entryId call, w =>
    if entryId = w.watch.entryId then .error ()
    else .ok { w with issues := call.apply w.issues entryId }

/-! ### What an event does -/

/-- An event that happened, by what it found. -/
inductive Fired (w : Watched) : WatchEvent → Watched → Prop
  | acted {act : Act} {w' : Watched} (h_latches : act.latches = false)
      (h_reports : act.reports = false) (h_perform : w.perform act = .ok w') :
      Fired w (.act act) w'
  | passedOver {i : ℕ} {revisionIds : ℕ → String} {report : Report}
      (h_report : w.reports[i]? = some report)
      (h_none : normalizeObservation report.state report.attributes = none) :
      Fired w (.report i revisionIds) (w.takeReport i)
  | reported {i : ℕ} {revisionIds : ℕ → String} {report : Report} {outcome : ObservationOutcome}
      {w' : Watched} (h_report : w.reports[i]? = some report)
      (h_outcome : normalizeObservation report.state report.attributes = some outcome)
      (h_perform : (w.takeReport i).perform
        (.observe outcome report.observedAt revisionIds report.generation) = .ok w') :
      Fired w (.report i revisionIds) w'
  | observed {event : StateChange} {generation : ℕ}
      (h_listens : w.watch.stateListener = some generation) :
      Fired w (.stateChanged event) (w.observed event generation)
  | capabilityObserved {newState : Option EntityState} {now : Instant}
      (h_listens : w.watch.capabilityListener ≠ none) :
      Fired w (.capabilityChanged newState now) (w.capabilityObserved newState now)
  | registryUpdated {home : Home} {now : Instant} {registryId : String}
      (h_registered : w.watch.config.vacuumRegistryId = some registryId) :
      Fired w (.registryUpdated home now) (w.registryUpdated home registryId now)
  | areaUpdated {home : Home} {now : Instant} {registryId : String}
      (h_registered : w.watch.config.vacuumRegistryId = some registryId) :
      Fired w (.areaUpdated home now) (w.areaUpdated home registryId now)
  | vacuumLost {home : Home} {now : Instant}
      (h_lost : w.watch.config.vacuumRegistryId.map (usableVacuum home.hass) = some none) :
      Fired w (.vacuumLost home now) (w.failClosed {.missingRegistry} now)
  | modeLost {home : Home} (h_mops : w.watch.config.requiresVacuumAndMop = true)
      (h_lost : resolveBoundCleaningModeEntity home.hass w.watch.config.cleaningModeRegistryId =
        .ok none) : Fired w (.modeLost home) w.loseMode
  | detached (h_latched : w.runtime.flags.topologyReady = false) :
      Fired w .detached w.detachStateObservers
  | unloadBegan : Fired w .unloadBegins
      { w with runtime := { w.runtime with flags := w.runtime.flags.invalidateCommands } }
  | unloadFailed : Fired w .unloadFails
      { w with runtime := { w.runtime with flags := w.runtime.flags.activateCommands } }
  | elsewhere {entryId : String} {call : RepairsCall} (h_other : entryId ≠ w.watch.entryId) :
      Fired w (.elsewhere entryId call) { w with issues := call.apply w.issues entryId }

/-- A step that is not refused is one of them. -/
theorem fired_of_step {w w' : Watched} {event : WatchEvent} (h : step event w = .ok w') :
    Fired w event w' := by
  cases event with
  | act act =>
    dsimp only [step] at h
    split at h
    · cases h
    · next h_act =>
      rw [Bool.or_eq_true, not_or, Bool.not_eq_true, Bool.not_eq_true] at h_act
      exact .acted h_act.1 h_act.2 h
  | report i revisionIds =>
    dsimp only [step] at h
    split at h
    · cases h
    · next report h_report =>
      -- a report that changes nothing is taken from the queue, any other is applied
      split at h
      · next h_none => cases h; exact .passedOver h_report h_none
      · next outcome h_outcome => exact .reported h_report h_outcome h
  | stateChanged event =>
    dsimp only [step] at h
    split at h
    · next h_listens => cases h; exact .observed h_listens
    · cases h
  | capabilityChanged newState now =>
    dsimp only [step] at h
    split at h
    · next h_listens =>
      cases h
      exact .capabilityObserved fun h_none => nomatch h_listens.symm.trans h_none
    · cases h
  | registryUpdated home now =>
    dsimp only [step] at h
    split at h
    · next h_registered => cases h; exact .registryUpdated h_registered
    · cases h
  | areaUpdated home now =>
    dsimp only [step] at h
    split at h
    · next h_registered => cases h; exact .areaUpdated h_registered
    · cases h
  | vacuumLost home now =>
    dsimp only [step] at h
    split at h
    · next h_lost => cases h; exact .vacuumLost h_lost
    · cases h
  | modeLost home =>
    dsimp only [step] at h
    split at h
    · next h_lost => cases h; exact .modeLost h_lost.1 h_lost.2
    · cases h
  | detached =>
    dsimp only [step] at h
    split at h
    · next h_latched => cases h; exact .detached h_latched
    · cases h
  | unloadBegins => cases h; exact .unloadBegan
  | unloadFails => cases h; exact .unloadFailed
  | elsewhere entryId call =>
    dsimp only [step] at h
    split at h
    · cases h
    · next h_other => cases h; exact .elsewhere h_other

end Watched

/-! ### Issues -/

namespace IssueRegistry

variable {issues : IssueRegistry} {entryId : String}

theorem createEntryIssues_open (conditions : Finset IssueCondition) :
    (issues.createEntryIssues entryId conditions).openConditions entryId =
      issues.openConditions entryId ∪ conditions := by
  have h_fold (created : List IssueCondition) (issues : IssueRegistry) :
      (created.foldl (·.createEntryIssue entryId ·) issues).openConditions entryId =
        issues.openConditions entryId ∪ created.toFinset := by
    induction created generalizing issues with
    | nil => exact (Finset.union_empty _).symm
    | cons condition created ih =>
      rw [List.foldl_cons, ih, createEntryIssue_open, List.toFinset_cons, Finset.insert_union,
        Finset.union_insert]
  have h_all : (issueConditions.filter (· ∈ conditions)).toFinset = conditions := by
    ext condition
    rw [List.mem_toFinset, List.mem_filter, decide_eq_true_eq]
    exact and_iff_right condition.mem_issueConditions
  unfold createEntryIssues
  rw [h_fold, h_all]

end IssueRegistry

/-- An act that does not latch leaves the flags, and only one that publishes changes the state. -/
theorem Runtime.step_quiet {r r' : Runtime} {act : Act} {effect : Option Effect}
    (h : r.step act = .ok (r', effect)) (h_act : act.latches = false) :
    r'.flags = r.flags ∧ (act.publishes r = false → r'.state = r.state) := by
  cases acted_of_step h with
  | latched | failedClosed => exact nomatch h_act
  | entered _ h_request =>
    obtain ⟨h_flags, h_state⟩ := enter_keeps h_request
    exact ⟨h_flags, fun _ => h_state⟩
  | called =>
    unfold callService
    split <;> exact ⟨rfl, fun _ => rfl⟩
  | preflighted | rejected | serviceReturned | serviceRaised | saved | cancelledReady |
    cancelledCleaned => exact ⟨rfl, fun _ => rfl⟩
  | @saveRaised held e =>
    -- a call that raises is taken off the lock, and nothing is assigned
    have h_frame := raised_frame { r with holder := none } e held.task
    exact ⟨h_frame.flags, fun _ => h_frame.state⟩
  | @cancelledHolder held =>
    have h_frame := raised_frame { r with holder := none } .cancelledError held.task
    exact ⟨h_frame.flags, fun _ => h_frame.state⟩
  | @resumed held h_holder =>
    unfold resume
    split
    · next e _ =>
      have h_frame := raised_frame { r with holder := none } e held.task
      exact ⟨h_frame.flags, fun _ => h_frame.state⟩
    · next h_check =>
      have h_frame := returned_frame { r with holder := none, state := held.updated } true held.task
      refine ⟨h_frame.flags, fun h_silent => ?_⟩
      -- it passes its guard, so it publishes
      have h_published : Act.resumed.publishes r = true := by
        show r.holder.any _ = true
        rw [h_holder]
        exact decide_eq_true h_check
      exact absurd (h_published.symm.trans h_silent) Bool.noConfusion

namespace Watched

variable {w w' : Watched} {found : Finset IssueCondition} {now : Instant}

/-- What is open for the entry. -/
def conditions (w : Watched) : Finset IssueCondition :=
  w.issues.openConditions w.watch.entryId

/-- The issues that have nothing to do with the topology. -/
structure Reported (w : Watched) : Prop where
  /-- The unresolved run is reported exactly while there is one. -/
  run : .unresolvedExternalRun ∈ w.conditions ↔ unresolvedExternalRun w.runtime.state = true
  stored : .corruptStore ∉ w.conditions ∧ .futureStore ∉ w.conditions

/-- The flag, the issues and the listeners agree. -/
structure Truthful (w : Watched) : Prop extends Reported w where
  /-- The topology is latched exactly when an issue says what is wrong with it. -/
  latched : w.runtime.flags.topologyReady = false ↔
    ∃ condition ∈ w.conditions, condition.topology = true
  /-- Until the latch the vacuum is listened to, under the generation that is accepted. -/
  hearing : w.runtime.flags.topologyReady = true →
    w.watch.stateListener = some w.runtime.flags.observationGeneration ∧
      w.runtime.flags.observationActive = true
  /-- So is the selector, where one is required. -/
  selector : w.runtime.flags.topologyReady = true → w.watch.config.requiresVacuumAndMop = true →
    ∃ entityId, w.watch.cleaningModeEntityId = some entityId ∧
      w.watch.capabilityListener = some entityId

/-- A publication says nothing new where the issue is right already. -/
theorem publish_conditions (h_run : .unresolvedExternalRun ∈ w.conditions ↔
    unresolvedExternalRun w.runtime.state = true) : w.publish.conditions = w.conditions := by
  show (w.issues.reconcileUnresolvedExternalRun w.watch.entryId _).openConditions
    w.watch.entryId = w.issues.openConditions w.watch.entryId
  rw [IssueRegistry.reconcileUnresolvedExternalRun_open]
  split
  · next h => exact Finset.insert_eq_of_mem (h_run.mpr h)
  · next h => exact Finset.erase_eq_of_notMem fun h_mem => h (h_run.mp h_mem)

/-- What an event can leave as it was. -/
structure Unnoticed (w w' : Watched) : Prop where
  ready : w'.runtime.flags.topologyReady = w.runtime.flags.topologyReady
  state : w'.runtime.state = w.runtime.state
  conditions : w'.conditions = w.conditions
  generation : w'.runtime.flags.observationGeneration = w.runtime.flags.observationGeneration
  active : w'.runtime.flags.observationActive = w.runtime.flags.observationActive
  watch : w'.watch = w.watch

/-- Where an event leads: the agreement stays, and no topology issue is withdrawn. -/
structure Follows (w w' : Watched) : Prop where
  truthful : w'.Truthful
  grows : ∀ condition ∈ w.conditions, condition.topology = true → condition ∈ w'.conditions

theorem Truthful.follows (h : w.Truthful) : Follows w w := ⟨h, fun _ h_mem _ => h_mem⟩

theorem Truthful.unnoticed (h : w.Truthful) (h_same : Unnoticed w w') : Follows w w' where
  truthful := {
    latched := by rw [h_same.ready, h_same.conditions]; exact h.latched
    run := by rw [h_same.conditions, h_same.state]; exact h.run
    stored := by rw [h_same.conditions]; exact h.stored
    hearing := by
      rw [h_same.ready, h_same.watch, h_same.generation, h_same.active]
      exact h.hearing
    selector := by rw [h_same.ready, h_same.watch]; exact h.selector }
  grows _ h_mem _ := h_same.conditions.symm ▸ h_mem

/-- A latch that opens topology issues. -/
structure LatchedWith (found : Finset IssueCondition) (w w' : Watched) : Prop where
  ready : w'.runtime.flags.topologyReady = false
  state : w'.runtime.state = w.runtime.state
  conditions : w'.conditions = w.conditions ∪ found

/-- They are issues of the topology. -/
def OfTopology (found : Finset IssueCondition) : Prop :=
  ∀ condition ∈ found, condition.topology = true

theorem OfTopology.empty : OfTopology ∅ := fun _ h_mem => absurd h_mem (Finset.notMem_empty _)

theorem OfTopology.singleton {condition : IssueCondition} (h : condition.topology = true) :
    OfTopology {condition} := fun _ h_mem => Finset.mem_singleton.mp h_mem ▸ h

theorem OfTopology.union {found' : Finset IssueCondition} (h : OfTopology found)
    (h' : OfTopology found') : OfTopology (found ∪ found') := fun condition h_mem =>
  (Finset.mem_union.mp h_mem).elim (h condition) (h' condition)

/-- They are some. -/
structure Topological (found : Finset IssueCondition) : Prop where
  some : found.Nonempty
  all : OfTopology found

theorem Topological.singleton {condition : IssueCondition} (h : condition.topology = true) :
    Topological {condition} := ⟨Finset.singleton_nonempty condition, .singleton h⟩

theorem Reported.latch (h : w.Reported) (h_found : Topological found)
    (h_latch : LatchedWith found w w') : Follows w w' := by
  have h_other {condition : IssueCondition} (h_other : condition.topology = false) :
      condition ∈ w'.conditions ↔ condition ∈ w.conditions := by
    rw [h_latch.conditions, Finset.mem_union]
    refine or_iff_left fun h_mem => ?_
    exact absurd ((h_found.all _ h_mem).symm.trans h_other) Bool.noConfusion
  refine ⟨⟨⟨?_, ?_, ?_⟩, iff_of_true h_latch.ready ?_, fun h_ready => ?_, fun h_ready => ?_⟩,
    fun condition h_mem _ => ?_⟩
  · rw [h_other rfl, h_latch.state]
    exact h.run
  · exact fun h_mem => h.stored.1 ((h_other rfl).mp h_mem)
  · exact fun h_mem => h.stored.2 ((h_other rfl).mp h_mem)
  · obtain ⟨condition, h_mem⟩ := h_found.some
    refine ⟨condition, ?_, h_found.all condition h_mem⟩
    rw [h_latch.conditions]
    exact Finset.mem_union_right _ h_mem
  · exact absurd (h_ready.symm.trans h_latch.ready) Bool.noConfusion
  · exact absurd (h_ready.symm.trans h_latch.ready) Bool.noConfusion
  · rw [h_latch.conditions]
    exact Finset.mem_union_left _ h_mem

/-! ### What the operations do -/

/-- `fail_closed` on a runtime that is ready. -/
theorem Reported.failClosed (h : w.Reported) (h_ready : w.runtime.flags.topologyReady = true) :
    LatchedWith found w (w.failClosed found now) := by
  have h_not : ¬ w.runtime.flags.topologyReady = false := by
    rw [h_ready]
    exact Bool.noConfusion
  have h_runtime : (w.runtime.failClosed now).flags.topologyReady = false ∧
      (w.runtime.failClosed now).state = w.runtime.state := by
    unfold Runtime.failClosed
    rw [if_neg h_not]
    exact ⟨rfl, rfl⟩
  have h_run : IssueCondition.unresolvedExternalRun ∈ w.conditions ↔
      unresolvedExternalRun (w.runtime.failClosed now).state = true := by
    rw [h_runtime.2]
    exact h.run
  have h_conditions : ({ w with runtime := w.runtime.failClosed now } : Watched).publish.conditions =
      w.conditions := publish_conditions h_run
  unfold Watched.failClosed
  rw [if_neg h_not]
  dsimp only
  -- detaching the listeners touches neither the runtime nor the issues
  split
  all_goals
    refine ⟨h_runtime.1, h_runtime.2, ?_⟩
    exact (IssueRegistry.createEntryIssues_open found).trans (congrArg (· ∪ found) h_conditions)

theorem Truthful.failClosed (h : w.Truthful) (h_found : Topological found) (now : Instant) :
    Follows w (w.failClosed found now) := by
  by_cases h_ready : w.runtime.flags.topologyReady = false
  · unfold Watched.failClosed
    rw [if_pos h_ready]
    exact h.follows
  · exact h.latch h_found (h.toReported.failClosed (Bool.eq_true_of_not_eq_false h_ready))

theorem Truthful.loseMode (h : w.Truthful) : Follows w w.loseMode := by
  have h_found : Topological {.lostCapability} := .singleton rfl
  refine h.latch h_found ⟨rfl, rfl, ?_⟩
  have h_conditions : ({ w with runtime := { w.runtime with
      flags := w.runtime.flags.latchTopology } } : Watched).publish.conditions = w.conditions :=
    publish_conditions h.run
  refine IssueRegistry.createEntryIssue_open.trans ?_
  rw [Finset.insert_eq, Finset.union_comm]
  exact congrArg (· ∪ {IssueCondition.lostCapability}) h_conditions

/-- A publication reports the run of the state it publishes. -/
theorem Truthful.publish (h : w.Truthful) {r : Runtime} (h_flags : r.flags = w.runtime.flags) :
    Follows w ({ w with runtime := r } : Watched).publish := by
  have h_conditions : ({ w with runtime := r } : Watched).publish.conditions =
      if unresolvedExternalRun r.state = true then insert .unresolvedExternalRun w.conditions
      else w.conditions.erase .unresolvedExternalRun :=
    IssueRegistry.reconcileUnresolvedExternalRun_open _
  -- no other issue is touched, and none of the topology is this one
  have h_other {condition : IssueCondition} (h_ne : condition ≠ .unresolvedExternalRun) :
      condition ∈ ({ w with runtime := r } : Watched).publish.conditions ↔
        condition ∈ w.conditions := by
    rw [h_conditions]
    split
    · exact (Finset.mem_insert.trans (or_iff_right h_ne))
    · exact Finset.mem_erase.trans (and_iff_right h_ne)
  have h_ne {condition : IssueCondition} (h_topology : condition.topology = true) :
      condition ≠ .unresolvedExternalRun := by
    rintro rfl
    exact nomatch h_topology
  refine ⟨⟨⟨?_, ?_, ?_⟩, ?_, ?_, ?_⟩, fun condition h_mem h_topology =>
    (h_other (h_ne h_topology)).mpr h_mem⟩
  · rw [h_conditions]
    split
    · next h_run => exact iff_of_true (Finset.mem_insert_self _ _) h_run
    · next h_run => exact iff_of_false (Finset.notMem_erase _ _) h_run
  · exact fun h_mem => h.stored.1 ((h_other (by decide)).mp h_mem)
  · exact fun h_mem => h.stored.2 ((h_other (by decide)).mp h_mem)
  -- the latch is left to the issues of the topology, which are the same
  · show r.flags.topologyReady = false ↔ _
    rw [h_flags, h.latched]
    exact exists_congr fun condition => and_congr_left fun h_topology =>
      (h_other (h_ne h_topology)).symm
  · show r.flags.topologyReady = true → _ = some r.flags.observationGeneration ∧
      r.flags.observationActive = true
    rw [h_flags]
    exact h.hearing
  · show r.flags.topologyReady = true → _
    rw [h_flags]
    exact h.selector

theorem Truthful.perform {act : Act} (h : w.Truthful) (h_act : act.latches = false)
    (h_step : w.perform act = .ok w') : Follows w w' := by
  unfold Watched.perform at h_step
  obtain ⟨⟨r, effect⟩, h_r, h_step⟩ := bind_eq_ok.mp h_step
  obtain ⟨h_flags, h_state⟩ := Runtime.step_quiet h_r h_act
  dsimp only at h_step
  split at h_step
  · obtain rfl := pure_eq_ok.mp h_step
    exact h.publish h_flags
  · next h_silent =>
    obtain rfl := pure_eq_ok.mp h_step
    refine h.unnoticed ⟨congrArg _ h_flags, h_state (Bool.eq_false_of_not_eq_true h_silent), rfl,
      congrArg _ h_flags, congrArg _ h_flags, rfl⟩

/-! ### What the listeners do -/

theorem Truthful.observed (h : w.Truthful) (event : StateChange) (generation : ℕ) :
    Follows w (w.observed event generation) := by
  unfold Watched.observed
  split
  · exact h.follows
  · split
    · split
      · exact h.failClosed (.singleton rfl) _
      · split
        · exact h.failClosed (.singleton rfl) _
        · exact h.unnoticed ⟨rfl, rfl, rfl, rfl, rfl, rfl⟩
    · exact h.failClosed (.singleton rfl) _

theorem Truthful.capabilityObserved (h : w.Truthful) (newState : Option EntityState)
    (now : Instant) : Follows w (w.capabilityObserved newState now) := by
  unfold Watched.capabilityObserved
  split
  · exact h.follows
  · split
    · exact h.failClosed (.singleton rfl) now
    · split
      · split
        · exact h.follows
        · split
          · exact h.follows
          · exact h.failClosed (.singleton rfl) now
      · exact h.failClosed (.singleton rfl) now

theorem vacuumIssues_topology (home : Home) (registryId : String) (areaIds : List String) :
    OfTopology (vacuumIssues home registryId areaIds) := by
  unfold vacuumIssues
  split
  · exact .singleton rfl
  · exact .singleton rfl
  · split
    · exact .singleton rfl
    · exact .singleton rfl
    · split
      · exact .empty
      · exact .singleton rfl

theorem areaIssues_topology (home : Home) (areaIds : List String) :
    OfTopology (areaIssues home areaIds) := by
  unfold areaIssues
  split
  · exact .singleton rfl
  · exact .empty

/-- What the validator finds is of the topology. -/
theorem configuredTopologyIssues_topology {home : Home} {registryId : String}
    {areaIds : List String} {requires : Bool} {selectorId : Option String}
    (h : configuredTopologyIssues home registryId areaIds requires selectorId = .ok found) :
    OfTopology found := by
  unfold configuredTopologyIssues at h
  obtain ⟨selector, -, h⟩ := bind_eq_ok.mp h
  obtain rfl := pure_eq_ok.mp h
  refine ((vacuumIssues_topology home registryId areaIds).union
    (areaIssues_topology home areaIds)).union ?_
  split
  · exact .singleton rfl
  · exact .empty

theorem registryIssues_topology {home : Home} {registryId : String}
    (h : w.registryIssues home registryId = .ok found) : OfTopology found := by
  unfold registryIssues at h
  dsimp only at h
  obtain ⟨issues, h_issues, h⟩ := bind_eq_ok.mp h
  have h_all : OfTopology issues := by
    split at h_issues
    · cases h_issues
      exact .singleton rfl
    · exact configuredTopologyIssues_topology h_issues
  obtain rfl := pure_eq_ok.mp h
  split
  · rw [Finset.insert_eq]
    exact OfTopology.union (.singleton rfl) h_all
  · exact h_all

theorem Truthful.bindCapabilityState (h : w.Truthful) (entityId : String) :
    Follows w (w.bindCapabilityState entityId) :=
  ⟨⟨⟨h.run, h.stored⟩, h.latched, h.hearing, fun _ _ => ⟨entityId, rfl, rfl⟩⟩, fun _ h_mem _ => h_mem⟩

theorem Truthful.registryUpdated (h : w.Truthful) (home : Home) (registryId : String)
    (now : Instant) : Follows w (w.registryUpdated home registryId now) := by
  unfold Watched.registryUpdated
  split
  · exact h.follows
  · split
    · exact h.follows
    · next issues h_issues =>
      split
      · next h_some =>
        exact h.failClosed ⟨Finset.nonempty_iff_ne_empty.mpr h_some,
          registryIssues_topology h_issues⟩ now
      · split
        · exact h.follows
        · split
          · exact h.follows
          · exact h.failClosed (.singleton rfl) now
          · split
            · exact h.bindCapabilityState _
            · exact h.follows

theorem Truthful.areaUpdated (h : w.Truthful) (home : Home) (registryId : String)
    (now : Instant) : Follows w (w.areaUpdated home registryId now) := by
  unfold Watched.areaUpdated
  split
  · exact h.follows
  · split
    · exact h.follows
    · next issues h_issues =>
      split
      · next h_some =>
        exact h.failClosed ⟨Finset.nonempty_iff_ne_empty.mpr h_some,
          configuredTopologyIssues_topology h_issues⟩ now
      · exact h.follows

theorem Truthful.takeReport (h : w.Truthful) (i : ℕ) : Follows w (w.takeReport i) :=
  ⟨⟨⟨h.run, h.stored⟩, h.latched, h.hearing, h.selector⟩, fun _ h_mem _ => h_mem⟩

/-- **Every event keeps the agreement.** -/
theorem Truthful.step {event : WatchEvent} (h : w.Truthful)
    (h_step : Watched.step event w = .ok w') : Follows w w' := by
  cases fired_of_step h_step with
  | acted h_latches h_reports h_perform => exact h.perform h_latches h_perform
  | @passedOver i => exact h.takeReport i
  | @reported i revisionIds report outcome w' h_report h_outcome h_perform =>
    have h_taken := h.takeReport i
    have h_performed := h_taken.truthful.perform rfl h_perform
    exact ⟨h_performed.truthful, h_performed.grows⟩
  -- each listener has its lemma
  | observed => exact h.observed _ _
  | capabilityObserved => exact h.capabilityObserved _ _
  | registryUpdated => exact h.registryUpdated _ _ _
  | areaUpdated => exact h.areaUpdated _ _ _
  | vacuumLost =>
    -- what is lost is noticed, reported and latched in one step
    exact h.failClosed (.singleton rfl) _
  | modeLost => exact h.loseMode
  | detached h_ready =>
    -- what the listeners have to hear is what happens before the latch
    have h_not {P : Prop} (h_other : w.runtime.flags.topologyReady = true) : P :=
      absurd (h_other.symm.trans h_ready) Bool.noConfusion
    exact ⟨⟨⟨h.run, h.stored⟩, h.latched, fun h_other => h_not h_other,
      fun h_other => h_not h_other⟩, fun _ h_mem _ => h_mem⟩
  | unloadBegan | unloadFailed => exact h.unnoticed ⟨rfl, rfl, rfl, rfl, rfl, rfl⟩
  | @elsewhere entryId call h_other =>
    -- another entry has other issues
    refine h.unnoticed ⟨rfl, rfl, ?_, rfl, rfl, rfl⟩
    exact (call.apply_touches w.issues entryId).openConditions (Ne.symm h_other)

/-- What the setup finds with the vacuum is of the topology. -/
theorem resolveConfiguredVacuum_topology {home : Home} {entry : EntryData}
    {vacuumEntityId : Option String}
    (h : resolveConfiguredVacuum home entry = .ok (vacuumEntityId, found)) : OfTopology found := by
  unfold resolveConfiguredVacuum at h
  split at h
  · cases h
    exact .empty
  · split at h
    · cases h
      exact .singleton rfl
    · obtain ⟨issues, h_issues, h⟩ := bind_eq_ok.mp h
      cases h
      exact configuredTopologyIssues_topology h_issues

section Setup

variable {input : SetupInput} {vacuumEntityId selector selectorId : Option String} {requires : Bool}

theorem SetupInput.runtimeData_conditions :
    (input.runtimeData vacuumEntityId found selector selectorId requires).conditions =
      input.conditions found (requires && selector.isNone) := by
  show (input.reconciled found _).openConditions input.entry.entryId = _
  unfold SetupInput.reconciled
  dsimp only
  split
  · next h_lost =>
    rw [IssueRegistry.createEntryIssue_open, IssueRegistry.reconcileEntryIssues_open]
    unfold SetupInput.conditions
    rw [if_pos h_lost, if_neg Bool.false_ne_true]
  · next h_lost =>
    rw [IssueRegistry.reconcileEntryIssues_open]
    unfold SetupInput.conditions
    rw [if_neg h_lost, if_neg Bool.false_ne_true]

/-- What a setup reports that is not of the topology is the run. -/
theorem SetupInput.mem_conditions {condition : IssueCondition} {lost : Bool}
    (h_found : OfTopology found) (h : condition.topology = false) :
    condition ∈ input.conditions found lost ↔
      condition = .unresolvedExternalRun ∧ unresolvedExternalRun input.state = true := by
  have h_ne : condition ≠ .lostCapability := by
    rintro rfl
    exact nomatch h
  have h_not : condition ∉ found := fun h_mem =>
    absurd ((h_found condition h_mem).symm.trans h) Bool.noConfusion
  -- what was found is of the topology, so the run is reported by its own text
  have h_loaded : (condition ∈ if unresolvedExternalRun input.state = true then
      insert .unresolvedExternalRun found else found) ↔
        condition = .unresolvedExternalRun ∧ unresolvedExternalRun input.state = true := by
    split
    · next h_run =>
      rw [Finset.mem_insert, or_iff_left h_not]
      exact (and_iff_left h_run).symm
    · next h_run => exact iff_of_false h_not fun h_both => h_run h_both.2
  unfold SetupInput.conditions
  dsimp only
  split
  · rw [Finset.mem_insert, or_iff_right h_ne]
    exact h_loaded
  · exact h_loaded

/-- The runtime data agree, but for the listener of the selector. -/
theorem SetupInput.runtimeData_reported (h_found : OfTopology found) :
    (input.runtimeData vacuumEntityId found selector selectorId requires).Reported := by
  refine ⟨?_, ?_, ?_⟩
  · rw [runtimeData_conditions, mem_conditions h_found rfl]
    exact and_iff_right rfl
  · rw [runtimeData_conditions, mem_conditions h_found rfl]
    exact fun h => nomatch h.1
  · rw [runtimeData_conditions, mem_conditions h_found rfl]
    exact fun h => nomatch h.1

theorem SetupInput.runtimeData_latched :
    (input.runtimeData vacuumEntityId found selector selectorId requires).runtime.flags.topologyReady =
        false ↔ ∃ condition ∈
      (input.runtimeData vacuumEntityId found selector selectorId requires).conditions,
        condition.topology = true := by
  rw [runtimeData_conditions]
  show decide _ = false ↔ _
  simp only [decide_eq_false_iff_not, not_forall, Bool.not_eq_false, exists_prop]

/-- **A setup reconciles.** -/
theorem Truthful.setup (h : input.setup = .ok w) : w.Truthful := by
  unfold SetupInput.setup at h
  obtain ⟨⟨vacuumEntityId, found⟩, h_found, h⟩ := bind_eq_ok.mp h
  obtain ⟨⟨selector, selectorId, requires⟩, -, h⟩ := bind_eq_ok.mp h
  dsimp only at h
  have h_reported : (input.runtimeData vacuumEntityId found selector selectorId requires).Reported :=
    SetupInput.runtimeData_reported (resolveConfiguredVacuum_topology h_found)
  have h_latched :=
    @SetupInput.runtimeData_latched found input vacuumEntityId selector selectorId requires
  have h_hearing : (input.runtimeData vacuumEntityId found selector selectorId
      requires).watch.stateListener = some 0 := rfl
  have h_flags : (input.runtimeData vacuumEntityId found selector selectorId
      requires).runtime.flags.observationGeneration = 0 ∧ (input.runtimeData vacuumEntityId found
        selector selectorId requires).runtime.flags.observationActive = true := ⟨rfl, rfl⟩
  have h_requires : (input.runtimeData vacuumEntityId found selector selectorId
      requires).watch.config.requiresVacuumAndMop = requires := rfl
  generalize input.runtimeData vacuumEntityId found selector selectorId requires = data at *
  -- the listener of the states is there from the first generation on
  have h_heard : data.watch.stateListener = some data.runtime.flags.observationGeneration ∧
      data.runtime.flags.observationActive = true := ⟨h_flags.1.symm ▸ h_hearing, h_flags.2⟩
  split at h
  · obtain ⟨bound, -, h⟩ := bind_eq_ok.mp h
    cases bound with
    | some entityId =>
      obtain rfl := pure_eq_ok.mp h
      exact ⟨⟨h_reported.run, h_reported.stored⟩, h_latched, fun _ => h_heard,
        fun _ _ => ⟨entityId, rfl, rfl⟩⟩
    | none =>
      obtain rfl := pure_eq_ok.mp h
      -- a selector that was found and cannot be bound is lost at once
      by_cases h_ready : data.runtime.flags.topologyReady = true
      · exact (h_reported.latch (.singleton rfl) (h_reported.failClosed h_ready)).truthful
      · have h_kept : data.failClosed {.lostCapability} input.now = data :=
          if_pos (Bool.eq_false_of_not_eq_true h_ready)
        rw [h_kept]
        exact ⟨h_reported, h_latched, fun h => absurd h h_ready, fun h => absurd h h_ready⟩
  · next h_plain =>
    obtain rfl := pure_eq_ok.mp h
    exact ⟨h_reported, h_latched, fun _ => h_heard,
      fun _ h_needs => absurd (h_requires.symm.trans h_needs) h_plain⟩

end Setup

end Watched

/-- **The flag, the issues and the listeners agree**, in every state a setup can lead to, whatever
happens to the home, the runtime and the entries next to it. The topology is latched exactly when
one of its issues is open, the unresolved run is reported exactly while the plan has one, no store
issue is left over, and until the latch the vacuum and the selector are listened to. An issue of
the topology stays open as long as the runtime is there. -/
theorem watched_truthful {input : SetupInput} {w : Watched} (h : input.setup = .ok w)
    (events : List WatchEvent) (n : ℕ) :
    (stateAt Watched.step w events n).Truthful ∧ ∀ m ≤ n,
      ∀ condition ∈ (stateAt Watched.step w events m).conditions, condition.topology = true →
        condition ∈ (stateAt Watched.step w events n).conditions := by
  have h_truthful (n : ℕ) : (stateAt Watched.step w events n).Truthful :=
    perform_invariant (fun _ _ _ h_w h_step => (Watched.Truthful.step h_w h_step).truthful)
      (.setup h)
  refine ⟨h_truthful n, fun m h_le condition h_mem h_topology => ?_⟩
  refine (stateAt_stable (I := fun w : Watched => w.Truthful ∧ condition ∈ w.conditions)
    (fun w event w' h_w h_step => ?_) h_le ⟨h_truthful m, h_mem⟩).2
  have h_follows := h_w.1.step h_step
  exact ⟨h_follows.truthful, h_follows.grows condition h_w.2 h_topology⟩

/-! ### A kitchen is watched -/

def kitchenSetup : SetupInput where
  entry := ⟨"entry", some "registry", "vacuum.robot", ["kitchen"], []⟩
  number := 1
  dryRun := false
  state := kitchenState
  issues := fun _ => none
  before := kitchenRegistries
  home := kitchenRegistries
  now := 0

def kitchenWatched : Watched := kitchenSetup.runtimeData (some "vacuum.robot") ∅ none none false

theorem kitchenSetup_setup : kitchenSetup.setup = .ok kitchenWatched := by
  have h_valid : ValidTopology kitchenRegistries "registry" ["kitchen"] false none :=
    ⟨⟨kitchenVacuum, ⟨rfl, "vacuum.robot", _, rfl, rfl, rfl, by decide⟩, _, rfl, by decide⟩,
      by decide, by decide, none, rfl, nofun⟩
  have h_vacuum : resolveConfiguredVacuum kitchenRegistries kitchenSetup.entry =
      .ok (some "vacuum.robot", ∅) := by
    show (configuredTopologyIssues kitchenRegistries "registry" ["kitchen"] false none >>= _) = _
    rw [configuredTopologyIssues_eq_empty.mpr h_valid]
    rfl
  unfold SetupInput.setup
  rw [show kitchenSetup.before = kitchenRegistries from rfl, h_vacuum]
  rfl

/-- The vacuum docks, and becomes unavailable. -/
def kitchenLoss : List WatchEvent :=
  [.stateChanged ⟨some (some "docked", some []), 1, 1⟩,
    .stateChanged ⟨some (some "unavailable", some []), 2, 2⟩]

theorem watched_truthful_kitchen :
    (stateAt Watched.step kitchenWatched kitchenLoss 2).Truthful ∧ ∀ m ≤ 2,
      ∀ condition ∈ (stateAt Watched.step kitchenWatched kitchenLoss m).conditions,
        condition.topology = true →
          condition ∈ (stateAt Watched.step kitchenWatched kitchenLoss 2).conditions :=
  watched_truthful kitchenSetup_setup kitchenLoss 2

/-- The loss is reported, and nothing else. -/
example : (stateAt Watched.step kitchenWatched kitchenLoss 2).conditions = {.missingRegistry} := by
  decide

end VacuumPlanner
