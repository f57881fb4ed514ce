import VacuumPlanner.Dispatch
import VacuumPlanner.Domain.Serialization

/-!
# The native area adapter

`adapters/native_area.py`, and the part of `_async_dispatch_created_block` that runs before
the claim: the two `_resolve_command_` functions and `NativeAreaAdapter.preflight`
(`bindAdapter`). They run without interruption, so they see one `HomeAssistant`: the entity
registry and the state machine at that moment.

`Dispatch` leaves the answer of the preflight open and counts the external calls only. A
`NativeRuntime` computes the answer, remembers what each dispatch was bound to, and keeps its
traffic: every external call that begins and ends, with everything that is sent.
-/

namespace VacuumPlanner

open Framework Serialization

/-! ### Home Assistant -/

/-- An entry of the entity registry. An attribute that is missing or no string is `none`. -/
structure RegistryEntry where
  id : Option String
  domain : Option String
  uniqueId : Option String
  disabled : Bool
  disabledBy : Option String
  entityId : Option String

/-- A state of the state machine. -/
structure EntityState where
  state : String
  attributes : Payload

/-- What one uninterrupted stretch of work sees of Home Assistant. -/
structure HomeAssistant where
  registry : String → Option RegistryEntry
  states : String → Option EntityState
  /-- `VacuumEntityFeature.CLEAN_AREA`. -/
  cleanAreaFeature : ℕ

/-- The entity is not there: its state is `unknown` or `unavailable`. -/
def EntityState.offline (entity : EntityState) : Bool :=
  entity.state ∈ ["unknown", "unavailable"]

/-- The entry is the one with the id, in the domain, and can be used. -/
def RegistryEntry.usable (entry : RegistryEntry) (registryId domain : String) : Bool :=
  entry.id = some registryId && entry.domain = some domain && !entry.disabled &&
    entry.disabledBy.isNone

/-! ### Modes -/

/-- `_MODE_OPTIONS`. -/
def modeOptions : List String := ["Vacuum", "Vacuum and Mop"]

/-- What the selector calls the mode. -/
def Mode.option : Mode → String
  | .vacuumAndMop => "Vacuum and Mop"
  | .vacuum => "Vacuum"

/-! ### What the checks raise -/

inductive Rejection where
  /-- An option of the selector cannot be hashed. -/
  | typeError
  | raised (e : PyError)
  deriving DecidableEq

/-- The value can be put in a set. -/
def Json.hashable : Json → Bool
  | .array _ | .object _ => false
  | _ => true

/-- `"cleaning_mode" in unique_id.lower()`. No character outside ASCII has one of these
letters alone as its lower case. -/
def namesCleaningMode (uniqueId : String) : Bool :=
  "cleaning_mode".toList <:+: uniqueId.toList.map Char.toLower

/-- `resolve_bound_cleaning_mode_entity`. -/
def resolveBoundCleaningModeEntity (hass : HomeAssistant) (cleaningModeRegistryId : Option String) :
    Except Rejection (Option String) :=
  match cleaningModeRegistryId with
  | none => .ok none
  | some registryId =>
    match hass.registry registryId with
    | none => .ok none
    | some entry =>
      match entry.uniqueId, entry.entityId with
      | some uniqueId, some entityId =>
        if entry.usable registryId "select" && namesCleaningMode uniqueId then
          match hass.states entityId with
          | none => .ok none
          | some entity =>
            match entity.offline, entity.attributes.get "options" with
            | false, .array options => do
              -- `set(options)` raises before anything is compared
              raiseIf (∃ option ∈ options, option.hashable = false) .typeError
              return if ∀ option ∈ modeOptions, .str option ∈ options then some entityId else none
            | _, _ => .ok none
        else .ok none
      | _, _ => .ok none

/-! ### Resolving the entities of a command -/

/-- What the setup of a runtime has bound its commands to. -/
structure NativeConfig where
  vacuumRegistryId : Option String
  cleaningModeRegistryId : Option String
  requiresVacuumAndMop : Bool

/-- `registry_entry` passes the checks of `_resolve_command_vacuum`. -/
def usableVacuum (hass : HomeAssistant) (registryId : String) : Option String := do
  let entry ← hass.registry registryId
  let entityId ← entry.entityId
  if entry.usable registryId "vacuum" then some entityId else none

/-- `_resolve_command_vacuum`. The failure callback is `fail_closed`, as long as the state of
the vacuum is observed. -/
def resolveCommandVacuum (config : NativeConfig) (hass : HomeAssistant) (observed : Bool)
    (now : Instant) (r : Runtime) : Except Rejection String × Runtime :=
  match config.vacuumRegistryId with
  | none => (.error (.raised (.serviceValidationError
      "Configured vacuum has no stable registry identity")), r)
  | some registryId =>
    match usableVacuum hass registryId with
    | some entityId => (.ok entityId, r)
    | none =>
      (.error (.raised (.serviceValidationError "Configured vacuum is no longer registered")),
        -- without an observer no callback quarantines what is under way
        if observed then r.failClosed now
        else if r.flags.topologyReady then { r with flags := r.flags.latchTopology }
        else r)

/-- `_resolve_command_cleaning_mode`. -/
def resolveCommandCleaningMode (config : NativeConfig) (hass : HomeAssistant) (r : Runtime) :
    Except Rejection (Option String) × Runtime :=
  if config.requiresVacuumAndMop = false then (.ok none, r)
  else
    match resolveBoundCleaningModeEntity hass config.cleaningModeRegistryId with
    | .error e => (.error e, r)
    | .ok (some entityId) => (.ok (some entityId), r)
    | .ok none =>
      (.error (.raised (.serviceValidationError
          "Configured cleaning mode selector is no longer available")),
        { r with flags := r.flags.latchTopology })

/-! ### The adapter -/

structure NativeAreaAdapter where
  vacuumEntityId : String
  cleaningModeEntityId : Option String

/-- `supported_features` has the bit of `CLEAN_AREA`. A `bool` is none. -/
def supportsCleanArea (hass : HomeAssistant) : Json → Bool
  | .int features => 0 ≤ features && features.toNat &&& hass.cleanAreaFeature ≠ 0
  | _ => false

namespace NativeAreaAdapter

/-- The checks of the cleaning-mode selector in `preflight`. -/
def confirmMode (hass : HomeAssistant) (entityId : String) (requestedMode : Mode) :
    Except PyError (Option String) := do
  let expected := requestedMode.option
  let rejected := PyError.valueError ("cleaning mode selector does not confirm " ++ expected)
  let modeState ← orRaise (hass.states entityId) rejected
  match modeState.attributes.get "options" with
  | .array options =>
    raiseIf (.str expected ∉ options ∨ modeState.offline = true) rejected
    return some expected
  | _ => .error rejected

/-- `preflight`. -/
def preflight (adapter : NativeAreaAdapter) (hass : HomeAssistant) (modes : List Mode) :
    Except PyError (Option String) := do
  let state ← orRaise (hass.states adapter.vacuumEntityId)
    (.valueError "configured vacuum is unavailable")
  raiseIf (state.offline = true) (.valueError "configured vacuum is unavailable")
  raiseIf (supportsCleanArea hass (state.attributes.get "supported_features") = false)
    (.valueError "configured vacuum no longer supports CLEAN_AREA")
  match (if modes = [] then [Mode.vacuum] else modes).dedup, adapter.cleaningModeEntityId with
  | [.vacuumAndMop], none =>
    .error (.valueError "vacuum_and_mop requires a confirmed Dreame/Mova mode selector")
  -- a robot without a selector can only vacuum
  | [.vacuum], none => return none
  | [requestedMode], some entityId => confirmMode hass entityId requestedMode
  | _, _ => .error (.valueError "native area batch requires one homogeneous cleaning mode")

end NativeAreaAdapter

/-- What a dispatch is bound to once its preflight has passed, and what it saw then. -/
structure Bound where
  hass : HomeAssistant
  adapter : NativeAreaAdapter
  modeOption : Option String

/-- `_async_dispatch_created_block`, up to the claim. -/
def bindAdapter (config : NativeConfig) (hass : HomeAssistant) (observed : Bool) (now : Instant)
    (modes : List Mode) (r : Runtime) : Except Rejection Bound × Runtime :=
  match resolveCommandVacuum config hass observed now r with
  | (.error e, r) => (.error e, r)
  | (.ok vacuumEntityId, r) =>
    match resolveCommandCleaningMode config hass r with
    | (.error e, r) => (.error e, r)
    | (.ok cleaningModeEntityId, r) =>
      let adapter := ⟨vacuumEntityId, cleaningModeEntityId⟩
      match NativeAreaAdapter.preflight adapter hass modes with
      | .ok modeOption => (.ok ⟨hass, adapter, modeOption⟩, r)
      | .error _ =>
        (.error (.raised (.serviceValidationError "Native area dispatch preflight failed")), r)

/-! ### The external calls -/

/-- What `hass.services.async_call` is given. Every call is blocking. -/
structure ServiceCall where
  domain : String
  service : String
  serviceData : Payload
  target : Payload
  deriving DecidableEq

/-- The calls of `async_dispatch_after_preflight`. -/
def Bound.serviceCall (bound : Bound) (areaIds : List String) : Service → ServiceCall
  | .selectOption => ⟨"select", "select_option", [("option", optional .str bound.modeOption)],
      [("entity_id", optional .str bound.adapter.cleaningModeEntityId)]⟩
  | .cleanArea => ⟨"vacuum", "clean_area", [("cleaning_area_id", .array (areaIds.map .str))],
      [("entity_id", .str bound.adapter.vacuumEntityId)]⟩

inductive CallPhase where
  | begun
  | returned
  | raised
  deriving DecidableEq

/-- One external call of a dispatch begins or ends. -/
structure Traffic where
  dispatch : ℕ
  service : Service
  phase : CallPhase
  /-- What is sent, if the dispatch has been bound. -/
  sent : Option ServiceCall
  deriving DecidableEq

/-! ### A runtime that talks to Home Assistant -/

structure NativeRuntime where
  runtime : Runtime
  bound : ℕ → Option Bound
  log : List Traffic

inductive NativeEvent where
  /-- A dispatch starts and runs up to its claim. -/
  | dispatch (i : ℕ) (hass : HomeAssistant) (observed : Bool) (now : Instant)
  /-- Any other act of the runtime. -/
  | act (act : Act)
  /-- An unload is attempted, fails or succeeds. -/
  | reflag (flags : RuntimeFlags)

namespace NativeRuntime

def fresh (number : ℕ) (dryRun topologyReady : Bool) (state : PlannerState) : NativeRuntime where
  runtime := .fresh number dryRun topologyReady state
  bound _ := none
  log := []

/-- The call of the dispatch, as the log has it. -/
def traffic (n : NativeRuntime) (i : ℕ) (d : Dispatch) (service : Service) (phase : CallPhase) :
    Traffic where
  dispatch := i
  service
  phase
  sent := (n.bound i).map fun bound => bound.serviceCall (d.jobs.map (·.areaId)) service

/-- The call a dispatch waits for. -/
def awaited : Stage → Option Service
  | .selecting => some .selectOption
  | .cleaning => some .cleanArea
  | _ => none

/-- What an act adds to the log. -/
def spoken (n : NativeRuntime) (act : Act) (effect : Option Effect) : List Traffic :=
  match act, effect with
  | .callService i, some (.begins service d) => [n.traffic i d service .begun]
  | .serviceReturned i, _ => (ended i .returned).toList
  | .serviceRaised i, _ => (ended i .raised).toList
  | _, _ => []
where
  ended (i : ℕ) (phase : CallPhase) : Option Traffic := do
    let d ← n.runtime.dispatches[i]?
    let service ← awaited d.stage
    return n.traffic i d service phase

/-- One event. -/
def step (config : NativeConfig) : NativeEvent → NativeRuntime → Except Unit NativeRuntime
  | .dispatch i hass observed now, n =>
    match n.runtime.dispatches[i]? with
    | some ⟨_, jobs, _, .created⟩ =>
      match bindAdapter config hass observed now (jobs.map (·.mode)) n.runtime with
      | (.ok bound, r) =>
        .ok { n with
          runtime := r.setStage i (.ready bound.modeOption)
          bound := Function.update n.bound i (some bound) }
      | (.error _, r) => .ok { n with runtime := r.setStage i .finished }
    | _ => .error ()
  -- the preflight is part of the start of a dispatch
  | .act (.preflight _ _), _ => .error ()
  | .act act, n => do
    let (r, effect) ← n.runtime.step act
    return { n with runtime := r, log := n.log ++ n.spoken act effect }
  | .reflag flags, n => .ok { n with runtime := { n.runtime with flags := flags } }

end NativeRuntime

end VacuumPlanner
