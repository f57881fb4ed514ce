import VacuumPlanner.Framework.Cleanup
import VacuumPlanner.Framework.Handles
import VacuumPlanner.Runtime

/-!
# Setting up and tearing down

What a setup attaches to Home Assistant has to come off again: the four listeners of
`_subscribe_observer`, the reconciliation of `_subscribe_repairs`, and the two places that
point to the runtime, `hass.data` and `entry.runtime_data`. It comes off in many ways. A listener
that cannot be attached takes the earlier ones with it, a platform that cannot be set up takes
all of them, an unload does, and the clean-up that the entry registers runs once more after it;
a latched topology detaches two of them early, and a selector that is renamed is listened to
under its new name. Any of the callbacks may raise an `Exception`; of the errors that are none, the
cancellation of a call that waits for the platforms is modelled.

Two of the ways leave something else. A `ModuleNotFoundError` of the subscription is suppressed, and
the setup goes on without listeners (`Hooks.Blind`). And a setup that is cancelled while it waits
for the platforms is not rolled back: its runtime keeps its listeners until its clean-up is run,
also when another setup has come after it (`EntryState.stranded`).

Handles stand for the listeners (`Framework.Handles`): whatever happens, each is held by one
variable of one runtime or has been detached exactly once, and only the runtime the entry points to
and those that are stranded hold any.
-/

namespace VacuumPlanner

open Framework

/-! ### One runtime -/

/-- What a runtime has attached: the closure of `_subscribe_observer` and the fields of
`VacuumPlannerRuntimeData` for it. -/
structure Hooks where
  /-- `active`, of the closure. -/
  active : Bool
  stateUnsubscribe : Option ℕ
  capabilityStateUnsubscribe : Option ℕ
  registryUnsubscribe : Option ℕ
  areaUnsubscribe : Option ℕ
  /-- `observer_unsubscribe`, `repair_unsubscribe` and `topology_failure_callback` are set. -/
  observerUnsubscribe : Bool
  repairUnsubscribe : Bool
  topologyFailureCallback : Bool
  /-- `reconcile` is a listener of the coordinator. -/
  reconciling : Bool
  /-- `vacuum_registry_id is not None`. -/
  registered : Bool
  /-- There is a module of the area registry. -/
  areaRegistry : Bool
  requiresVacuumAndMop : Bool
  /-- What the subscription has raised was suppressed. Kept for the statements. -/
  blind : Bool
  flags : RuntimeFlags
  deriving DecidableEq

/-- The callbacks in the order in which `unsubscribe` calls them. -/
def Hooks.held (hooks : Hooks) : List ℕ :=
  [hooks.stateUnsubscribe, hooks.capabilityStateUnsubscribe, hooks.registryUnsubscribe,
    hooks.areaUnsubscribe].reduceOption

/-- A runtime, and Home Assistant's side of its listeners. -/
structure Attached where
  pool : Pool
  hooks : Hooks
  deriving DecidableEq

/-- How the calls of a subscription turn out. -/
structure ObserverInput (ε : Type) where
  /-- The import of the event helpers, which comes before everything else. -/
  importRaises : Option ε
  stateRaises : Option ε
  /-- `resolve_bound_cleaning_mode_entity`: whether there is a selector. -/
  resolved : Except ε Bool
  /-- What `fail_closed` raises after it has latched the topology, when there is none. -/
  issueRaises : Option ε
  /-- `has_active_external_work`. -/
  work : Bool
  capabilityRaises : Option ε
  registryRaises : Option ε
  areaRaises : Option ε

/-- What the calls of a subscription raise. -/
def ObserverInput.errors {ε : Type} (input : ObserverInput ε) : List ε :=
  let resolved := match input.resolved with
    | .error e => some e
    | .ok _ => none
  [input.importRaises, input.stateRaises, resolved, input.issueRaises, input.capabilityRaises,
    input.registryRaises, input.areaRaises].reduceOption

/-- How many of its listeners the subscription detaches itself: the one of the states, if it latches
the topology for want of a selector and there is no work to wait for. -/
def ObserverInput.detaches {ε : Type} (input : ObserverInput ε) (hooks : Hooks) : ℕ :=
  match input.resolved with
  | .ok false =>
    if hooks.requiresVacuumAndMop = true ∧ hooks.flags.topologyReady = true ∧
      input.issueRaises.isNone = true ∧ input.work = false then 1 else 0
  | _ => 0

/-- `suppress(ModuleNotFoundError)`. From Python 3.12 on it also takes such errors out of a group
that is raised; before, a group goes through as it is. -/
structure Suppress (ε : Type) where
  moduleNotFound : ε → Bool
  splitsGroups : Bool

/-- What is left of a failure, if anything is. -/
def Suppress.leaves {ε : Type} (suppress : Suppress ε) : Failure ε → Option (Failure ε)
  | .error e => (Failure.error e).without suppress.moduleNotFound
  | .group message failures =>
    if suppress.splitsGroups then (Failure.group message failures).without suppress.moduleNotFound
    else some (.group message failures)

/-- The errors that are left, if any are. -/
def Suppress.left {ε : Type} (suppress : Suppress ε) (errors : List ε) : List ε :=
  if suppress.splitsGroups then errors.filter fun e => !suppress.moduleNotFound e else errors

namespace Attached

variable {ε : Type}

/-- Calling an unsubscribe callback, which may raise. -/
def callUnsubscribe (raises : ℕ → Option ε) (handle : ℕ) (s : Attached) :
    Except (Failure ε) Unit × Attached :=
  (match raises handle with
    | none => .ok ()
    | some e => .error (.error e), { s with pool := s.pool.release handle })

/-- `detach_state_observers`: what the callbacks raise is suppressed. -/
def detachStateObservers (s : Attached) : Attached where
  pool := [s.hooks.stateUnsubscribe, s.hooks.capabilityStateUnsubscribe].reduceOption.foldl
    Pool.release s.pool
  hooks := { s.hooks with stateUnsubscribe := none, capabilityStateUnsubscribe := none }

/-- The first lines of `fail_closed`. -/
def latch (s : Attached) : Attached :=
  { s with hooks := { s.hooks with flags := s.hooks.flags.latchTopology } }

/-- `fail_closed`, as far as the listeners are concerned. -/
def failClosed (work : Bool) (s : Attached) : Attached :=
  if s.hooks.flags.topologyReady = false then s
  else if work then s.latch
  else s.latch.detachStateObservers

/-- The closure `unsubscribe` of `_subscribe_observer`. -/
def unsubscribe (raises : ℕ → Option ε) (s : Attached) : Except (Failure ε) Unit × Attached :=
  if s.hooks.active = false then (.ok (), s)
  else
    let hooks := { s.hooks with
      active := false
      topologyFailureCallback := false
      flags := s.hooks.flags.invalidateObservations }
    let (result, s) := attemptAll "Vacuum Planner observer cleanup failed"
      (hooks.held.map (callUnsubscribe raises)) { s with hooks }
    (result, { s with
      hooks := { s.hooks with
        stateUnsubscribe := none
        capabilityStateUnsubscribe := none
        registryUnsubscribe := none
        areaUnsubscribe := none } })

/-- Attaching a listener, which may raise, and what is done with its handle. -/
def attach (raised : Option ε) (store : ℕ → Hooks → Hooks) (s : Attached) :
    Except (Failure ε) Unit × Attached :=
  match raised with
  | some e => (.error (.error e), s)
  | none => (.ok (), { pool := s.pool.attach, hooks := store s.pool.handed s.hooks })

/-- `bind_state`, which is called once, with no listener to replace. -/
def bindState (raised : Option ε) : Attached → Except (Failure ε) Unit × Attached :=
  attach raised fun handle hooks =>
    { hooks with stateUnsubscribe := some handle, flags := hooks.flags.bindState }

/-- `bind_capability_state`: the new listener is kept even if the old one cannot be detached. -/
def bindCapabilityState (raises : ℕ → Option ε) (raised : Option ε) (s : Attached) :
    Except (Failure ε) Unit × Attached :=
  let previousUnsubscribe := s.hooks.capabilityStateUnsubscribe
  match attach raised (fun handle hooks =>
      { hooks with capabilityStateUnsubscribe := some handle }) s with
  | (.error failure, s) => (.error failure, s)
  | (.ok (), s) =>
    match previousUnsubscribe with
    | none => (.ok (), s)
    | some handle => callUnsubscribe raises handle s

/-- `fail_closed` in the subscription, where there is no selector. -/
def loseCapability (input : ObserverInput ε) (s : Attached) :
    Except (Failure ε) Unit × Attached :=
  if s.hooks.flags.topologyReady = false then (.ok (), s)
  else
    match input.issueRaises with
    | some e => (.error (.error e), s.latch)
    | none => (.ok (), s.failClosed input.work)

/-- The listener of the selector, for an entry that mops. -/
def bindCapability (raises : ℕ → Option ε) (input : ObserverInput ε) (s : Attached) :
    Except (Failure ε) Unit × Attached :=
  if s.hooks.requiresVacuumAndMop = false then (.ok (), s)
  else
    match input.resolved with
    | .error e => (.error (.error e), s)
    | .ok false => s.loseCapability input
    | .ok true => s.bindCapabilityState raises input.capabilityRaises

/-- A listener of the bus, where it is wanted. -/
def listen (wanted : Hooks → Bool) (raised : Option ε) (store : ℕ → Hooks → Hooks)
    (s : Attached) : Except (Failure ε) Unit × Attached :=
  if wanted s.hooks = false then (.ok (), s) else s.attach raised store

/-- `registry_unsubscribe`, for an entry with a registry id. -/
def listenRegistry (raised : Option ε) : Attached → Except (Failure ε) Unit × Attached :=
  listen (·.registered) raised fun handle hooks => { hooks with registryUnsubscribe := some handle }

/-- `area_unsubscribe`. That the module of the area registry is missing is passed over. -/
def listenArea (raised : Option ε) : Attached → Except (Failure ε) Unit × Attached :=
  listen (fun hooks => hooks.registered && hooks.areaRegistry) raised fun handle hooks =>
    { hooks with areaUnsubscribe := some handle }

/-- `_subscribe_observer`. -/
def subscribeObserver (raises : ℕ → Option ε) (input : ObserverInput ε) (s : Attached) :
    Except (Failure ε) Unit × Attached :=
  match input.importRaises with
  | some e => (.error (.error e), s)
  | none =>
    let begun := { s with
      hooks := { s.hooks with
        active := true
        topologyFailureCallback := true
        observerUnsubscribe := true } }
    match inTurn [bindState input.stateRaises, bindCapability raises input,
        listenRegistry input.registryRaises, listenArea input.areaRaises] begun with
    | (.ok (), s) => (.ok (), s)
    | (.error failure, s) =>
      -- what has been attached is detached, and what that raises takes the place of the error
      match s.unsubscribe raises with
      | (.ok (), s) =>
        (.error failure, { s with hooks := { s.hooks with observerUnsubscribe := false } })
      | (.error cleanup, s) => (.error cleanup, s)

/-- The call of `_subscribe_observer`, in `with suppress(ModuleNotFoundError)`. -/
def subscribeSuppressed (suppress : Suppress ε) (raises : ℕ → Option ε) (input : ObserverInput ε)
    (s : Attached) : Except (Failure ε) Unit × Attached :=
  match s.subscribeObserver raises input with
  | (.ok (), s) => (.ok (), s)
  | (.error failure, s) =>
    match suppress.leaves failure with
    | none => (.ok (), { s with hooks := { s.hooks with blind := true } })
    | some failure => (.error failure, s)

/-- The two turns of the loop in `shutdown_runtime`. -/
def dropObserver (raises : ℕ → Option ε) (s : Attached) : Except (Failure ε) Unit × Attached :=
  if s.hooks.observerUnsubscribe = false then (.ok (), s)
  else unsubscribe raises { s with hooks := { s.hooks with observerUnsubscribe := false } }

def dropRepairs (s : Attached) : Except (Failure ε) Unit × Attached :=
  (.ok (), { s with
    hooks := { s.hooks with
      repairUnsubscribe := false
      reconciling := s.hooks.reconciling && !s.hooks.repairUnsubscribe } })

/-- `shutdown_runtime`. -/
def shutdownRuntime (raises : ℕ → Option ε) (s : Attached) : Except (Failure ε) Unit × Attached :=
  attemptAll "Vacuum Planner runtime cleanup failed" [dropObserver raises, dropRepairs]
    { s with
      hooks := { s.hooks with
        topologyFailureCallback := false
        flags := s.hooks.flags.shutdownRuntime } }

end Attached

/-! ### One entry -/

/-- What waits for the platforms: a setup, or an unload with the runtime it has found. -/
inductive Platforms where
  | forwarding (i : ℕ)
  | unloading (i : Option ℕ)
  deriving DecidableEq

/-- A config entry, with the runtimes of all its setups. -/
structure EntryState where
  pool : Pool
  runtimes : List Hooks
  /-- The runtimes `hass.data` and `entry.runtime_data` point to. -/
  data : Option ℕ
  runtimeData : Option ℕ
  pending : Option Platforms
  /-- The runtimes whose setup was cancelled and that have not been torn down since. Kept for the
  statements, and to tell when an entry is not set up. -/
  stranded : List ℕ
  deriving DecidableEq

/-- What the setup knows of the runtime, and how its subscription turns out. -/
structure LifecycleInput (ε : Type) extends ObserverInput ε where
  topologyReady : Bool
  registered : Bool
  areaRegistry : Bool
  requiresVacuumAndMop : Bool

namespace EntryState

variable {ε : Type}

/-- Nothing is set up. -/
def start : EntryState := ⟨.empty, [], none, none, none, []⟩

/-- An operation on one of the runtimes. -/
def onRuntime (w : EntryState) (i : ℕ)
    (operation : Attached → Except (Failure ε) Unit × Attached) :
    Except (Failure ε) Unit × EntryState :=
  match w.runtimes[i]? with
  | none => (.ok (), w)
  | some hooks =>
    let (result, s) := operation ⟨w.pool, hooks⟩
    (result, { w with pool := s.pool, runtimes := w.runtimes.set i s.hooks })

/-- `_rollback_setup_runtime`. -/
def rollbackSetupRuntime (raises : ℕ → Option ε) (i : ℕ) (w : EntryState) :
    Except (Failure ε) Unit × EntryState :=
  let (result, w) := w.onRuntime i (·.shutdownRuntime raises)
  -- only what points to this runtime is cleared
  (result, { w with
    data := if w.data = some i then none else w.data
    runtimeData := if w.runtimeData = some i then none else w.runtimeData
    stranded := w.stranded.filter (· ≠ i) })

/-- The error path of `async_setup_entry`. -/
def failSetup (raises : ℕ → Option ε) (i : ℕ) (setupError : Failure ε) (w : EntryState) :
    Except (Failure ε) Unit × EntryState :=
  match w.rollbackSetupRuntime raises i with
  | (.ok (), w) => (.error setupError, w)
  | (.error cleanupError, w) =>
    (.error (.group "Vacuum Planner setup and rollback failed" [setupError, cleanupError]), w)

/-- The runtime data of `async_setup_entry`, with the subscription of `_subscribe_repairs`. -/
def freshHooks (input : LifecycleInput ε) : Hooks where
  active := false
  stateUnsubscribe := none
  capabilityStateUnsubscribe := none
  registryUnsubscribe := none
  areaUnsubscribe := none
  observerUnsubscribe := false
  repairUnsubscribe := true
  topologyFailureCallback := false
  reconciling := true
  registered := input.registered
  areaRegistry := input.areaRegistry
  requiresVacuumAndMop := input.requiresVacuumAndMop
  blind := false
  flags := .initial input.topologyReady

/-- `async_setup_entry`, from the runtime data to the platforms. -/
def setupEntry (suppress : Suppress ε) (raises : ℕ → Option ε) (input : LifecycleInput ε)
    (w : EntryState) : Except (Failure ε) Unit × EntryState :=
  let i := w.runtimes.length
  let w := { w with
    runtimes := w.runtimes ++ [freshHooks input]
    data := some i
    runtimeData := some i }
  match w.onRuntime i (·.subscribeSuppressed suppress raises input.toObserverInput) with
  | (.ok (), w) => (.ok (), { w with pending := some (.forwarding i) })
  | (.error setupError, w) => w.failSetup raises i setupError

/-- A setup is cancelled in `async_forward_entry_setups`: `except Exception` lets it pass. -/
def cancelSetup (i : ℕ) (w : EntryState) : EntryState :=
  { w with pending := none, stranded := i :: w.stranded }

/-- `async_forward_entry_setups` returns, or raises an `Exception`. -/
def forwarded (raises : ℕ → Option ε) (i : ℕ) (raised : Option ε) (w : EntryState) :
    Except (Failure ε) Unit × EntryState :=
  let w := { w with pending := none }
  match raised with
  | none => (.ok (), w)
  | some e => w.failSetup raises i (.error e)

/-- A change of the flags of a runtime. -/
def updateFlags (i : Option ℕ) (update : RuntimeFlags → RuntimeFlags) (w : EntryState) :
    EntryState :=
  match i with
  | none => w
  | some i =>
    { w with
      runtimes := w.runtimes.modify i fun hooks => { hooks with flags := update hooks.flags } }

/-- `async_unload_entry`, up to the platforms. -/
def unloadEntry (w : EntryState) : EntryState :=
  { w.updateFlags w.runtimeData RuntimeFlags.invalidateCommands with
    pending := some (.unloading w.runtimeData) }

/-- `async_unload_platforms` raises or is cancelled, or returns whether it has unloaded them. -/
def platformsUnloaded (raises : ℕ → Option ε) (i : Option ℕ) (outcome : Except ε Bool)
    (w : EntryState) : Except (Failure ε) Unit × EntryState :=
  let w := { w with pending := none }
  match outcome with
  | .error e => (.error (.error e), w)
  | .ok false => (.ok (), w.updateFlags i RuntimeFlags.activateCommands)
  | .ok true =>
    match i with
    | none => (.ok (), w)
    | some i => w.rollbackSetupRuntime raises i

end EntryState

/-- What happens to an entry. -/
inductive LifecycleEvent (ε : Type) where
  | setup (input : LifecycleInput ε)
  | forwarded (raised : Option ε)
  | cancelled
  | unload
  | platformsUnloaded (outcome : Except ε Bool)
  /-- The clean-up that a setup has registered for the unload. -/
  | cleanup (i : ℕ)
  /-- The selector of a runtime has a new name. -/
  | rebound (i : ℕ) (raised : Option ε)
  | failedClosed (i : ℕ) (work : Bool)
  /-- `quarantine_then_detach` has come to its end. -/
  | detached (i : ℕ)

namespace EntryState

variable {ε : Type}

/-- The entry is not set up: it has never been, has been unloaded, or its setup has failed. -/
def Vacant (w : EntryState) : Prop := ∀ i ∈ w.runtimeData, i ∈ w.stranded

instance (w : EntryState) : Decidable w.Vacant :=
  inferInstanceAs (Decidable (∀ i ∈ w.runtimeData, i ∈ w.stranded))

/-- One event. An event that cannot happen in the current state is refused. -/
def step (suppress : Suppress ε) (raises : ℕ → Option ε) :
    LifecycleEvent ε → EntryState → Except Unit EntryState
  | .setup input, w =>
    -- Home Assistant sets up an entry that is not set up, and one call after the other
    if w.Vacant ∧ w.pending = none then .ok (w.setupEntry suppress raises input).2
    else .error ()
  | .cancelled, w =>
    match w.pending with
    | some (.forwarding i) => .ok (w.cancelSetup i)
    | _ => .error ()
  | .forwarded raised, w =>
    match w.pending with
    | some (.forwarding i) => .ok (w.forwarded raises i raised).2
    | _ => .error ()
  | .unload, w => if w.pending = none then .ok w.unloadEntry else .error ()
  | .platformsUnloaded outcome, w =>
    match w.pending with
    | some (.unloading i) => .ok (w.platformsUnloaded raises i outcome).2
    | _ => .error ()
  | .cleanup i, w =>
    if w.pending = none then .ok (w.rollbackSetupRuntime raises i).2 else .error ()
  | .rebound i raised, w =>
    -- the listener of the registry is there, and finds nothing wrong but the name
    if ∃ hooks ∈ w.runtimes[i]?, hooks.registryUnsubscribe ≠ none ∧
        hooks.flags.topologyReady = true ∧ hooks.requiresVacuumAndMop = true then
      .ok (w.onRuntime i (·.bindCapabilityState raises raised)).2
    else .error ()
  | .failedClosed i work, w =>
    .ok (w.onRuntime i fun s => ((.ok () : Except (Failure ε) Unit), s.failClosed work)).2
  | .detached i, w =>
    -- the task is one of `fail_closed`
    if ∃ hooks ∈ w.runtimes[i]?, hooks.flags.topologyReady = false then
      .ok (w.onRuntime i fun s => ((.ok () : Except (Failure ε) Unit), s.detachStateObservers)).2
    else .error ()

end EntryState

/-! ### What the operations on a runtime do -/

/-- A runtime that has been torn down: nothing is attached, nothing is accepted. -/
structure Hooks.Released (hooks : Hooks) : Prop where
  inactive : hooks.active = false
  held : hooks.held = []
  observer : hooks.observerUnsubscribe = false
  repairs : hooks.reconciling = false
  commands : hooks.flags.commandActive = false
  observations : hooks.flags.observationActive = false

/-- A runtime that listens. Its listeners are there, those of the states as long as the topology is
not latched, and that of the areas if there is a module for it. -/
structure Hooks.Serving (hooks : Hooks) : Prop where
  active : hooks.active = true
  observer : hooks.observerUnsubscribe = true
  repairs : hooks.repairUnsubscribe = true ∧ hooks.reconciling = true
  registry : hooks.registered = true → hooks.registryUnsubscribe ≠ none ∧
    (hooks.areaRegistry = true → hooks.areaUnsubscribe ≠ none)
  states : hooks.flags.topologyReady = true → hooks.stateUnsubscribe ≠ none ∧
    (hooks.requiresVacuumAndMop = true → hooks.capabilityStateUnsubscribe ≠ none)

/-- A runtime that goes on without listeners: no report reaches it. -/
structure Hooks.Blind (hooks : Hooks) : Prop where
  inactive : hooks.active = false
  held : hooks.held = []
  repairs : hooks.repairUnsubscribe = true ∧ hooks.reconciling = true
  observations : hooks.flags.observationActive = false

/-- A runtime that is set up. -/
structure Hooks.SetUp (hooks : Hooks) : Prop where
  serving : hooks.blind = false → hooks.Serving
  blind : hooks.blind = true → hooks.Blind

/-- What has to be undone can be undone. -/
structure Hooks.Coherent (hooks : Hooks) : Prop where
  observer : hooks.active = true → hooks.observerUnsubscribe = true
  held : hooks.active = false → hooks.held = []
  repairs : hooks.reconciling = true → hooks.repairUnsubscribe = true

theorem Hooks.Serving.coherent {hooks : Hooks} (h : hooks.Serving) : hooks.Coherent :=
  ⟨fun _ => h.observer, fun h_inactive => absurd (h.active.symm.trans h_inactive) (by decide),
    fun _ => h.repairs.1⟩

theorem Hooks.Blind.coherent {hooks : Hooks} (h : hooks.Blind) : hooks.Coherent :=
  ⟨fun h_active => absurd (h.inactive.symm.trans h_active) (by decide), fun _ => h.held,
    fun _ => h.repairs.1⟩

theorem Hooks.SetUp.cases {hooks : Hooks} (h : hooks.SetUp) :
    hooks.blind = false ∧ hooks.Serving ∨ hooks.blind = true ∧ hooks.Blind := by
  cases h_blind : hooks.blind with
  | false => exact Or.inl ⟨rfl, h.serving h_blind⟩
  | true => exact Or.inr ⟨rfl, h.blind h_blind⟩

theorem Hooks.SetUp.coherent {hooks : Hooks} (h : hooks.SetUp) : hooks.Coherent := by
  rcases h.cases with ⟨-, h_serving⟩ | ⟨-, h_blind⟩
  · exact h_serving.coherent
  · exact h_blind.coherent

theorem Hooks.Serving.setUp {hooks : Hooks} (h : hooks.Serving) (h_blind : hooks.blind = false) :
    hooks.SetUp :=
  ⟨fun _ => h, fun h_other => absurd (h_blind.symm.trans h_other) (by decide)⟩

theorem Hooks.Blind.setUp {hooks : Hooks} (h : hooks.Blind) (h_blind : hooks.blind = true) :
    hooks.SetUp :=
  ⟨fun h_other => absurd (h_other.symm.trans h_blind) (by decide), fun _ => h⟩

/-- A change that keeps both kinds of runtime. -/
theorem Hooks.SetUp.mono {hooks hooks' : Hooks} (h : hooks.SetUp)
    (h_same : hooks'.blind = hooks.blind) (h_serving : hooks.Serving → hooks'.Serving)
    (h_blind : hooks.Blind → hooks'.Blind) : hooks'.SetUp :=
  ⟨fun h_not => h_serving (h.serving (h_same.symm.trans h_not)),
    fun h_is => h_blind (h.blind (h_same.symm.trans h_is))⟩

theorem Hooks.Released.coherent {hooks : Hooks} (h : hooks.Released) : hooks.Coherent :=
  ⟨fun h_active => absurd (h.inactive.symm.trans h_active) (by decide), fun _ => h.held,
    fun h_repairs => absurd (h.repairs.symm.trans h_repairs) (by decide)⟩

namespace Attached

variable {ε : Type} {raises : ℕ → Option ε} {s : Attached} {rest handles : List ℕ}

/-- Every handle is held here, held by others, or has been released, once. -/
def Accounted (s : Attached) (rest : List ℕ) : Prop := s.pool.Accounted (s.hooks.held ++ rest)

theorem callAll_state (message : String) :
    (attemptAll message (handles.map (callUnsubscribe raises)) s).2 =
      { s with pool := handles.foldl Pool.release s.pool } := by
  rw [attemptAll_state]
  induction handles generalizing s with
  | nil => rfl
  | cons handle handles ih =>
    rw [List.map_cons, List.foldl_cons, ih]
    rfl

theorem callAll_errors (message : String) :
    errorsOf (attemptAll message (handles.map (callUnsubscribe raises)) s).1 =
      handles.filterMap raises := by
  have h_raised : ∀ handle (s : Attached), errorsOf (callUnsubscribe raises handle s).1 =
      (raises handle).toList := by
    intro handle s
    unfold callUnsubscribe
    cases raises handle <;> rfl
  rw [errorsOf_attemptAll h_raised, List.filterMap_eq_flatMap_toList]

theorem unsubscribe_inactive (h : s.hooks.active = false) : s.unsubscribe raises = (.ok (), s) := by
  unfold unsubscribe
  rw [if_pos h]

/-- What `unsubscribe` leaves of an active closure. -/
theorem unsubscribe_state (raises : ℕ → Option ε) (h : s.hooks.active = true) :
    (s.unsubscribe raises).2 =
    { pool := s.hooks.held.foldl Pool.release s.pool
      hooks := { s.hooks with
        active := false
        topologyFailureCallback := false
        flags := s.hooks.flags.invalidateObservations
        stateUnsubscribe := none
        capabilityStateUnsubscribe := none
        registryUnsubscribe := none
        areaUnsubscribe := none } } := by
  unfold unsubscribe
  rw [if_neg (by rw [h]; decide)]
  dsimp only
  rw [callAll_state]
  rfl

theorem unsubscribe_errors (raises : ℕ → Option ε) (h : s.hooks.active = true) :
    errorsOf (s.unsubscribe raises).1 = s.hooks.held.filterMap raises := by
  unfold unsubscribe
  rw [if_neg (by rw [h]; decide)]
  dsimp only
  rw [callAll_errors]
  rfl

/-- What the first turn of the loop leaves. -/
structure ObserverDropped (raises : ℕ → Option ε) (s : Attached)
    (outcome : Except (Failure ε) Unit × Attached) : Prop where
  active : outcome.2.hooks.active = false
  held : outcome.2.hooks.held = []
  observer : outcome.2.hooks.observerUnsubscribe = false
  pool : outcome.2.pool = s.hooks.held.foldl Pool.release s.pool
  errors : errorsOf outcome.1 = s.hooks.held.filterMap raises
  repairs : outcome.2.hooks.repairUnsubscribe = s.hooks.repairUnsubscribe ∧
    outcome.2.hooks.reconciling = s.hooks.reconciling
  commands : outcome.2.hooks.flags.commandActive = s.hooks.flags.commandActive
  observations : s.hooks.flags.observationActive = false →
    outcome.2.hooks.flags.observationActive = false

theorem dropObserver_drops (raises : ℕ → Option ε) (h : s.hooks.Coherent) :
    ObserverDropped raises s (dropObserver raises s) := by
  cases h_active : s.hooks.active with
  | true =>
    -- the closure is still active, so it is there to be called
    have h_drop : dropObserver raises s =
        unsubscribe raises { s with hooks := { s.hooks with observerUnsubscribe := false } } := by
      unfold dropObserver
      rw [if_neg (by rw [h.observer h_active]; decide)]
    have h_state := unsubscribe_state raises
      (s := { s with hooks := { s.hooks with observerUnsubscribe := false } }) h_active
    have h_errors := unsubscribe_errors raises
      (s := { s with hooks := { s.hooks with observerUnsubscribe := false } }) h_active
    rw [← h_drop] at h_state h_errors
    exact ⟨by rw [h_state], by rw [h_state]; rfl, by rw [h_state], by rw [h_state]; rfl, h_errors,
      by rw [h_state]; exact ⟨rfl, rfl⟩, by rw [h_state]; rfl, fun _ => by rw [h_state]; rfl⟩
  | false =>
    -- the closure is gone or has been called, and has nothing left
    have h_drop : dropObserver raises s =
        (.ok (), { s with hooks := { s.hooks with observerUnsubscribe := false } }) := by
      unfold dropObserver
      split
      · next h_unset => rw [← h_unset]
      · exact unsubscribe_inactive h_active
    rw [h_drop]
    exact ⟨h_active, h.held h_active, rfl, by rw [h.held h_active]; rfl,
      by rw [h.held h_active]; rfl, ⟨rfl, rfl⟩, rfl, id⟩

/-- A torn down runtime, what is left of its pool, and what tearing it down raises. -/
structure TornDown (raises : ℕ → Option ε) (s : Attached)
    (outcome : Except (Failure ε) Unit × Attached) : Prop where
  hooks : outcome.2.hooks.Released
  pool : outcome.2.pool = s.hooks.held.foldl Pool.release s.pool
  errors : errorsOf outcome.1 = s.hooks.held.filterMap raises

theorem shutdownRuntime_tornDown (raises : ℕ → Option ε) (h : s.hooks.Coherent) :
    TornDown raises s (s.shutdownRuntime raises) := by
  unfold shutdownRuntime
  generalize h_begun : ({ s with
    hooks := { s.hooks with
      topologyFailureCallback := false
      flags := s.hooks.flags.shutdownRuntime } } : Attached) = begun
  have h_coherent : begun.hooks.Coherent := by
    rw [← h_begun]
    exact ⟨h.observer, h.held, h.repairs⟩
  have h_same : begun.hooks.held = s.hooks.held ∧ begun.pool = s.pool := by
    rw [← h_begun]
    exact ⟨rfl, rfl⟩
  have h_off : begun.hooks.flags.commandActive = false ∧
      begun.hooks.flags.observationActive = false := by
    rw [← h_begun]
    exact ⟨rfl, rfl⟩
  have h_drop := dropObserver_drops raises h_coherent
  -- the second turn finds what the first has left alone
  have h_repairs : ((dropObserver raises begun).2.hooks.reconciling &&
      !(dropObserver raises begun).2.hooks.repairUnsubscribe) = false := by
    rw [h_drop.repairs.1, h_drop.repairs.2]
    cases h_set : begun.hooks.reconciling with
    | false => rfl
    | true => rw [h_coherent.repairs h_set]; rfl
  refine ⟨?_, ?_, ?_⟩
  · rw [attemptAll_state]
    exact ⟨h_drop.active, h_drop.held, h_drop.observer, h_repairs,
      h_drop.commands.trans h_off.1, h_drop.observations h_off.2⟩
  · rw [attemptAll_state, ← h_same.1, ← h_same.2]
    exact h_drop.pool
  -- only the first turn can raise
  · rw [errorsOf_attemptAll_cons, errorsOf_attemptAll_cons, h_drop.errors, h_same.1]
    exact List.append_nil _

theorem TornDown.accounted {outcome : Except (Failure ε) Unit × Attached}
    (h : TornDown raises s outcome) (h_acc : s.Accounted rest) : outcome.2.Accounted rest := by
  unfold Accounted
  rw [h.hooks.held, h.pool]
  exact Pool.Accounted.releaseAll h_acc

/-! ### The listeners in between -/

theorem reduceOption_middle (before : List (Option ℕ)) (x : Option ℕ) (after : List (Option ℕ)) :
    (before ++ x :: after).reduceOption.Perm (x.toList ++ (before ++ after).reduceOption) := by
  have h_cons : (x :: (before ++ after)).reduceOption =
      x.toList ++ (before ++ after).reduceOption := by
    cases x <;> rfl
  rw [← h_cons]
  exact List.perm_middle.filterMap id

theorem held_states (hooks : Hooks) : hooks.held =
    [hooks.stateUnsubscribe, hooks.capabilityStateUnsubscribe].reduceOption ++
      [hooks.registryUnsubscribe, hooks.areaUnsubscribe].reduceOption :=
  List.reduceOption_append [_, _] [_, _]

theorem held_capability (hooks : Hooks) :
    hooks.held.Perm (hooks.capabilityStateUnsubscribe.toList ++
      [hooks.stateUnsubscribe, hooks.registryUnsubscribe, hooks.areaUnsubscribe].reduceOption) :=
  reduceOption_middle [_] _ [_, _]

theorem held_registry (hooks : Hooks) :
    hooks.held.Perm (hooks.registryUnsubscribe.toList ++ [hooks.stateUnsubscribe,
      hooks.capabilityStateUnsubscribe, hooks.areaUnsubscribe].reduceOption) :=
  reduceOption_middle [_, _] _ [_]

theorem detachStateObservers_accounted (h_acc : s.Accounted rest) :
    s.detachStateObservers.Accounted rest := by
  unfold Accounted at h_acc
  rw [held_states, List.append_assoc] at h_acc
  exact Pool.Accounted.releaseAll h_acc

theorem failClosed_accounted (work : Bool) (h_acc : s.Accounted rest) :
    (s.failClosed work).Accounted rest := by
  unfold failClosed
  split
  · exact h_acc
  · split
    · exact h_acc
    · exact detachStateObservers_accounted (s := s.latch) h_acc

/-- The new listener of the selector is there even if the old one cannot be detached. -/
theorem bindCapabilityState_accounted {raised : Option ε} (h_acc : s.Accounted rest) :
    (s.bindCapabilityState raises raised).2.Accounted rest := by
  unfold bindCapabilityState attach
  cases raised with
  | some e => exact h_acc
  | none =>
    have h_new := held_capability
      { s.hooks with capabilityStateUnsubscribe := some s.pool.handed }
    have h_old := held_capability s.hooks
    dsimp only
    cases h_previous : s.hooks.capabilityStateUnsubscribe with
    | none =>
      rw [h_previous] at h_old
      exact Pool.Accounted.perm h_acc.attach ((h_new.trans (h_old.cons _).symm).append_right rest)
    | some previous =>
      rw [h_previous] at h_old
      -- the new handle is held in place of the old one
      refine Pool.Accounted.release (Pool.Accounted.perm h_acc.attach ?_)
      exact ((h_new.cons previous).trans
        ((List.Perm.swap _ _ _).trans (h_old.cons _).symm)).append_right rest

/-! ### What a runtime that is set up goes on having -/

/-- Latching the topology takes the listeners of the states with it, at most. -/
theorem failClosed_hooks (s : Attached) (work : Bool) : ∃ flags state capability,
    (s.failClosed work).hooks = { s.hooks with
      flags := flags, stateUnsubscribe := state, capabilityStateUnsubscribe := capability } ∧
    flags.topologyReady = false ∧ flags.commandActive = s.hooks.flags.commandActive ∧
      (s.hooks.flags.observationActive = false → flags.observationActive = false) ∧
        (s.hooks.held = [] → (s.failClosed work).hooks.held = []) := by
  unfold failClosed
  split
  · next h_latched => exact ⟨_, _, _, rfl, h_latched, rfl, id, id⟩
  · cases work with
    | true => exact ⟨_, _, _, rfl, rfl, rfl, fun _ => rfl, id⟩
    | false =>
      refine ⟨_, _, _, rfl, rfl, rfl, fun _ => rfl, fun h_held => ?_⟩
      -- the listeners of the registries are all that is left
      exact (List.append_eq_nil_iff.mp (held_states s.hooks ▸ h_held)).2

theorem failClosed_serving (work : Bool) (h : s.hooks.Serving) :
    (s.failClosed work).hooks.Serving := by
  obtain ⟨flags, state, capability, h_hooks, h_latched, -⟩ := s.failClosed_hooks work
  rw [h_hooks]
  exact ⟨h.active, h.observer, h.repairs, h.registry,
    fun h_ready => absurd (h_latched.symm.trans h_ready) (by decide)⟩

theorem failClosed_blind (work : Bool) (h : s.hooks.Blind) :
    (s.failClosed work).hooks.Blind := by
  obtain ⟨flags, state, capability, h_hooks, -, -, h_observations, h_held⟩ :=
    s.failClosed_hooks work
  have h_held := h_held h.held
  rw [h_hooks] at h_held ⊢
  exact ⟨h.inactive, h_held, h.repairs, h_observations h.observations⟩

theorem failClosed_setUp (work : Bool) (h : s.hooks.SetUp) : (s.failClosed work).hooks.SetUp := by
  obtain ⟨flags, state, capability, h_hooks, -⟩ := s.failClosed_hooks work
  exact h.mono (by rw [h_hooks]) (failClosed_serving work) (failClosed_blind work)

theorem failClosed_released (work : Bool) (h : s.hooks.Released) :
    (s.failClosed work).hooks.Released := by
  obtain ⟨flags, state, capability, h_hooks, -, h_commands, h_observations, h_held⟩ :=
    s.failClosed_hooks work
  have h_held := h_held h.held
  rw [h_hooks] at h_held ⊢
  exact ⟨h.inactive, h_held, h.observer, h.repairs, h_commands.trans h.commands,
    h_observations h.observations⟩

theorem detachStateObservers_held (h : s.hooks.held = []) :
    s.detachStateObservers.hooks.held = [] :=
  (List.append_eq_nil_iff.mp (held_states s.hooks ▸ h)).2

/-- A task of `fail_closed` that comes to its end later. -/
theorem detachStateObservers_setUp (h_latched : s.hooks.flags.topologyReady = false)
    (h : s.hooks.SetUp) : s.detachStateObservers.hooks.SetUp :=
  h.mono rfl
    (fun h => ⟨h.active, h.observer, h.repairs, h.registry,
      fun h_ready => absurd (h_latched.symm.trans h_ready) (by decide)⟩)
    fun h => ⟨h.inactive, detachStateObservers_held h.held, h.repairs, h.observations⟩

theorem detachStateObservers_released (h : s.hooks.Released) :
    s.detachStateObservers.hooks.Released :=
  ⟨h.inactive, detachStateObservers_held h.held, h.observer, h.repairs, h.commands,
    h.observations⟩

/-- A runtime that holds nothing does not listen to the registry. -/
theorem registry_of_held (hooks : Hooks) (h : hooks.held = []) :
    hooks.registryUnsubscribe = none := by
  have h_none := (held_registry hooks).symm
  rw [h, List.perm_nil] at h_none
  exact Option.toList_eq_nil_iff.mp (List.append_eq_nil_iff.mp h_none).1

theorem bindCapabilityState_setUp (raises : ℕ → Option ε) (raised : Option ε)
    (h_listens : s.hooks.registryUnsubscribe ≠ none) (h : s.hooks.SetUp) :
    (s.bindCapabilityState raises raised).2.hooks.SetUp := by
  unfold bindCapabilityState attach
  cases raised with
  | some e => exact h
  | none =>
    dsimp only
    cases s.hooks.capabilityStateUnsubscribe <;> exact h.mono rfl
      (fun h => ⟨h.active, h.observer, h.repairs, h.registry,
        fun h_ready => ⟨(h.states h_ready).1, fun _ => nofun⟩⟩)
      fun h => absurd (registry_of_held _ h.held) h_listens

/-! ### The subscription -/

variable {input : ObserverInput ε} {pool : Pool} {begun : Hooks} {d k : ℕ}

/-- Since the pool was the given one, `k` handles have been handed out. The first `d` of them have
been released, and the others are held, in their order. -/
structure Given (pool : Pool) (d k : ℕ) (s : Attached) : Prop where
  handed : s.pool.handed = pool.handed + k
  released : s.pool.released = pool.released ++ (List.range' pool.handed k).take d
  held : s.hooks.held = (List.range' pool.handed k).drop d

theorem Given.accounted (h : Given pool d k s) (h_acc : pool.Accounted rest) :
    s.Accounted rest := by
  refine h_acc.given h.handed ?_
  rw [h.released, h.held, List.append_assoc, ← List.append_assoc (List.take _ _),
    List.take_append_drop, List.append_assoc]

/-- One handle more is given, and held. -/
theorem Given.attach {hooks : Hooks} (h : Given pool d k s) (h_d : d ≤ k)
    (h_held : hooks.held = s.hooks.held ++ [s.pool.handed]) :
    Given pool d (k + 1) ⟨s.pool.attach, hooks⟩ := by
  have h_length : d ≤ (List.range' pool.handed k).length := by rwa [List.length_range']
  refine ⟨congrArg (· + 1) h.handed, ?_, ?_⟩
  · rw [List.range'_1_concat, List.take_append_of_le_length h_length]
    exact h.released
  · rw [List.range'_1_concat, List.drop_append_of_le_length h_length, ← h.held, ← h.handed]
    exact h_held

/-- The subscription, once it has begun. -/
structure Subscribing (pool : Pool) (d : ℕ) (s : Attached) : Prop where
  given : ∃ k, d ≤ k ∧ Given pool d k s
  active : s.hooks.active = true
  observer : s.hooks.observerUnsubscribe = true
  repairs : s.hooks.repairUnsubscribe = true ∧ s.hooks.reconciling = true
  blind : s.hooks.blind = false

/-- A call of the subscription has raised, and it is what it has raised. Of the handles that were
given until then, those that `fail_closed` detaches have been released. -/
structure Interrupted (input : ObserverInput ε) (begun : Hooks) (pool : Pool)
    (failure : Failure ε) (s : Attached) : Prop where
  given : ∃ k, Given pool (input.detaches begun) k s
  active : s.hooks.active = true
  repairs : s.hooks.repairUnsubscribe = true ∧ s.hooks.reconciling = true
  error : ∃ e ∈ input.errors, failure = .error e

theorem mem_errors {e : ε} : e ∈ input.errors ↔ input.importRaises = some e ∨
    input.stateRaises = some e ∨ input.resolved = .error e ∨ input.issueRaises = some e ∨
      input.capabilityRaises = some e ∨ input.registryRaises = some e ∨
        input.areaRaises = some e := by
  unfold ObserverInput.errors
  rw [List.reduceOption_mem_iff]
  cases input.resolved <;> simp [eq_comm]

/-- A call raises before it has attached anything. -/
theorem Subscribing.interrupted {e : ε} (h : s.Subscribing pool d)
    (h_given : ∀ k, Given pool d k s → Given pool (input.detaches begun) k s)
    (h_e : e ∈ input.errors) : Interrupted input begun pool (.error e) s := by
  obtain ⟨k, -, h_k⟩ := h.given
  exact ⟨⟨k, h_given k h_k⟩, h.active, h.repairs, e, h_e, rfl⟩

/-- A listener that is attached after those before it. -/
theorem attach_leads {raised : Option ε} {store : ℕ → Hooks → Hooks} {P Q : Hooks → Prop}
    (h_input : ∀ e ∈ raised, e ∈ input.errors)
    (h_given : ∀ s k, P s.hooks → Given pool d k s → Given pool (input.detaches begun) k s)
    (h_held : ∀ handle hooks, P hooks → (store handle hooks).held = hooks.held ++ [handle])
    (h_kept : ∀ handle hooks, (store handle hooks).active = hooks.active ∧
      (store handle hooks).observerUnsubscribe = hooks.observerUnsubscribe ∧
      (store handle hooks).repairUnsubscribe = hooks.repairUnsubscribe ∧
      (store handle hooks).reconciling = hooks.reconciling ∧
      (store handle hooks).blind = hooks.blind)
    (h_store : ∀ handle hooks, P hooks → Q (store handle hooks)) :
    Leads (fun s => s.Subscribing pool d ∧ P s.hooks) (attach raised store)
      (fun s => s.Subscribing pool d ∧ Q s.hooks) (Interrupted input begun pool) := by
  refine ⟨fun s s' h h_run => ?_, fun s failure s' h h_run => ?_⟩ <;> unfold attach at h_run
  · cases raised with
    | some e => exact nomatch h_run
    | none =>
      cases h_run
      -- what is attached is one handle more of those in a row
      obtain ⟨h_active, h_observer, h_repair, h_reconciling, h_blind⟩ :=
        h_kept s.pool.handed s.hooks
      obtain ⟨k, h_d, h_k⟩ := h.1.given
      exact ⟨⟨⟨k + 1, h_d.trans (Nat.le_succ k), h_k.attach h_d (h_held _ _ h.2)⟩,
        h_active.trans h.1.active, h_observer.trans h.1.observer,
        ⟨h_repair.trans h.1.repairs.1, h_reconciling.trans h.1.repairs.2⟩,
        h_blind.trans h.1.blind⟩, h_store _ _ h.2⟩
  · cases raised with
    | some e =>
      cases h_run
      -- nothing is attached, and what there is has to be undone
      exact h.1.interrupted (fun k => h_given s k h.2) (h_input e rfl)
    | none => exact nomatch h_run

/-- The same for a listener of the bus, where it is wanted. -/
theorem listen_leads {wanted : Hooks → Bool} {raised : Option ε} {store : ℕ → Hooks → Hooks}
    {P Q : Hooks → Prop}
    (h_attach : Leads (fun s => s.Subscribing pool d ∧ P s.hooks) (attach raised store)
      (fun s => s.Subscribing pool d ∧ Q s.hooks) (Interrupted input begun pool))
    (h_skip : ∀ hooks, P hooks → wanted hooks = false → Q hooks) :
    Leads (fun s => s.Subscribing pool d ∧ P s.hooks) (listen wanted raised store)
      (fun s => s.Subscribing pool d ∧ Q s.hooks) (Interrupted input begun pool) := by
  refine ⟨fun s s' h h_run => ?_, fun s failure s' h h_run => ?_⟩ <;> unfold listen at h_run <;>
    split at h_run
  · next h_none =>
    cases h_run
    exact ⟨h.1, h_skip _ h.2 h_none⟩
  · exact h_attach.returns s s' h h_run
  · exact nomatch h_run
  · exact h_attach.raises s failure s' h h_run

/-! ### The four calls

What holds of the closure before each of them, and after the last. What decides whether the
listener of the states is detached is as it was when the subscription began. -/

structure Bare (begun hooks : Hooks) : Prop where
  state : hooks.stateUnsubscribe = none
  capability : hooks.capabilityStateUnsubscribe = none
  registry : hooks.registryUnsubscribe = none
  area : hooks.areaUnsubscribe = none
  mops : hooks.requiresVacuumAndMop = begun.requiresVacuumAndMop
  ready : hooks.flags.topologyReady = begun.flags.topologyReady

structure StateBound (begun hooks : Hooks) : Prop where
  state : hooks.stateUnsubscribe ≠ none
  capability : hooks.capabilityStateUnsubscribe = none
  registry : hooks.registryUnsubscribe = none
  area : hooks.areaUnsubscribe = none
  mops : hooks.requiresVacuumAndMop = begun.requiresVacuumAndMop
  ready : hooks.flags.topologyReady = begun.flags.topologyReady

/-- The listeners of the states are there, unless the topology is latched. -/
structure StatesBound (hooks : Hooks) : Prop where
  states : hooks.flags.topologyReady = true → hooks.stateUnsubscribe ≠ none ∧
    (hooks.requiresVacuumAndMop = true → hooks.capabilityStateUnsubscribe ≠ none)
  registry : hooks.registryUnsubscribe = none
  area : hooks.areaUnsubscribe = none

structure RegistryBound (hooks : Hooks) : Prop where
  states : hooks.flags.topologyReady = true → hooks.stateUnsubscribe ≠ none ∧
    (hooks.requiresVacuumAndMop = true → hooks.capabilityStateUnsubscribe ≠ none)
  registry : hooks.registered = true → hooks.registryUnsubscribe ≠ none
  area : hooks.areaUnsubscribe = none

structure AllBound (hooks : Hooks) : Prop where
  states : hooks.flags.topologyReady = true → hooks.stateUnsubscribe ≠ none ∧
    (hooks.requiresVacuumAndMop = true → hooks.capabilityStateUnsubscribe ≠ none)
  registry : hooks.registered = true → hooks.registryUnsubscribe ≠ none ∧
    (hooks.areaRegistry = true → hooks.areaUnsubscribe ≠ none)

theorem Bare.held {hooks : Hooks} (h : Bare begun hooks) : hooks.held = [] := by
  unfold Hooks.held
  rw [h.state, h.capability, h.registry, h.area]
  rfl

/-- Before the first handle is given, none is detached. -/
theorem Bare.given (h : Bare begun s.hooks) (h_given : Given pool 0 k s) :
    Given pool d k s := by
  obtain ⟨h_handed, h_released, h_held⟩ := h_given
  rw [h.held, List.drop_zero, eq_comm, List.range'_eq_nil_iff] at h_held
  subst h_held
  exact ⟨h_handed, by rw [h_released]; simp, by rw [h.held]; simp⟩

theorem bindState_leads : Leads (fun s => s.Subscribing pool 0 ∧ Bare begun s.hooks)
    (bindState input.stateRaises) (fun s => s.Subscribing pool 0 ∧ StateBound begun s.hooks)
    (Interrupted input begun pool) := by
  refine attach_leads (fun e h_e => mem_errors.mpr (Or.inr (Or.inl h_e)))
    (fun s k h h_given => h.given h_given) (fun handle hooks h => ?_)
    (fun _ _ => ⟨rfl, rfl, rfl, rfl, rfl⟩)
    fun _ _ h => ⟨nofun, h.capability, h.registry, h.area, h.mops, h.ready⟩
  rw [h.held]
  unfold Hooks.held
  dsimp only
  rw [h.capability, h.registry, h.area]
  rfl

/-- The selector has a listener where it had none. -/
theorem bindCapabilityState_leads (h_found : input.resolved = .ok true) :
    Leads (fun s => s.Subscribing pool 0 ∧ StateBound begun s.hooks)
      (bindCapabilityState raises input.capabilityRaises)
      (fun s => s.Subscribing pool (input.detaches begun) ∧ StatesBound s.hooks)
      (Interrupted input begun pool) := by
  have h_none : input.detaches begun = 0 := by
    unfold ObserverInput.detaches
    rw [h_found]
  have h_attach : Leads (fun s => s.Subscribing pool 0 ∧ StateBound begun s.hooks)
      (attach input.capabilityRaises fun handle hooks =>
        { hooks with capabilityStateUnsubscribe := some handle })
      (fun s => s.Subscribing pool 0 ∧ StatesBound s.hooks) (Interrupted input begun pool) := by
    refine attach_leads (fun e h_e => mem_errors.mpr
      (Or.inr (Or.inr (Or.inr (Or.inr (Or.inl h_e))))))
      (fun _ _ _ h_given => h_none ▸ h_given) (fun handle hooks h => ?_)
      (fun _ _ => ⟨rfl, rfl, rfl, rfl, rfl⟩)
      fun _ _ h => ⟨fun _ => ⟨h.state, fun _ => nofun⟩, h.registry, h.area⟩
    unfold Hooks.held
    dsimp only
    rw [h.capability, h.registry, h.area]
    cases hooks.stateUnsubscribe <;> rfl
  rw [h_none]
  -- there is no earlier listener, so nothing is detached and only attaching can raise
  refine ⟨fun s s' h h_run => ?_, fun s failure s' h h_run => ?_⟩ <;>
    unfold bindCapabilityState at h_run <;> rw [h.2.capability] at h_run <;>
    dsimp only at h_run <;> split at h_run <;> cases h_run
  · next h_ok => exact h_attach.returns s s' h h_ok
  · next h_error => exact h_attach.raises s failure s' h h_error

/-- The listener of the states is the only one, and it is detached. -/
theorem Given.detachStateObservers (h : Given pool 0 k s) (h_bound : StateBound begun s.hooks) :
    1 ≤ k ∧ Given pool 1 k s.detachStateObservers := by
  obtain ⟨handle, h_state⟩ := Option.ne_none_iff_exists'.mp h_bound.state
  have h_one : s.hooks.held = [handle] := by
    unfold Hooks.held
    rw [h_state, h_bound.capability, h_bound.registry, h_bound.area]
    rfl
  have h_held := h.held
  -- the listeners of the states are all that has been attached
  have h_k : k = 1 := by
    have h_length := congrArg List.length (h_one.symm.trans h_held)
    rw [List.length_drop, List.length_range', Nat.sub_zero] at h_length
    exact h_length.symm
  subst h_k
  have h_handle : handle = pool.handed := List.head_eq_of_cons_eq (h_one.symm.trans h_held)
  refine ⟨le_rfl, ?_, ?_, ?_⟩
  · unfold Attached.detachStateObservers
    dsimp only
    rw [Pool.handed_foldl]
    exact h.handed
  · have h_released : s.pool.released = pool.released := h.released.trans (List.append_nil _)
    unfold Attached.detachStateObservers
    dsimp only
    rw [Pool.released_foldl, h_released, h_state, h_bound.capability, h_handle]
    rfl
  · unfold Hooks.held Attached.detachStateObservers
    dsimp only
    rw [h_bound.registry, h_bound.area]
    rfl

/-- There is no selector, and the topology is latched during the setup. -/
theorem loseCapability_leads (h_gone : input.resolved = .ok false) :
    Leads (fun s => s.Subscribing pool 0 ∧ StateBound begun s.hooks ∧
        s.hooks.requiresVacuumAndMop = true) (loseCapability input)
      (fun s => s.Subscribing pool (input.detaches begun) ∧ StatesBound s.hooks)
      (Interrupted input begun pool) := by
  have h_detaches : input.detaches begun = if begun.requiresVacuumAndMop = true ∧
      begun.flags.topologyReady = true ∧ input.issueRaises.isNone = true ∧ input.work = false
      then 1 else 0 := by
    unfold ObserverInput.detaches
    rw [h_gone]
  refine ⟨fun s s' h h_run => ?_, fun s failure s' h h_run => ?_⟩ <;>
    obtain ⟨h_sub, h_bound, h_mops⟩ := h <;> unfold loseCapability at h_run <;> split at h_run
  · -- it has been latched before
    next h_latched =>
    cases h_run
    rw [h_detaches, if_neg fun h => absurd
      (h_latched.symm.trans (h_bound.ready.trans h.2.1)) (by decide)]
    exact ⟨h_sub, fun h_ready => absurd (h_latched.symm.trans h_ready) (by decide),
      h_bound.registry, h_bound.area⟩
  · next h_ready =>
    have h_ready := Bool.eq_true_of_not_eq_false h_ready
    split at h_run
    · exact nomatch h_run
    · next h_issue =>
      cases h_run
      obtain ⟨k, h_d, h_given⟩ := h_sub.given
      have h_closed : s.failClosed input.work =
          if input.work then s.latch else s.latch.detachStateObservers := by
        unfold Attached.failClosed
        rw [if_neg (by rw [h_ready]; decide)]
      rw [h_detaches, h_issue, h_closed]
      cases h_work : input.work with
      | true =>
        rw [if_neg (by simp), if_pos rfl]
        -- with work under way the listeners stay until it is done
        exact ⟨⟨⟨k, h_d, h_given.handed, h_given.released, h_given.held⟩, h_sub.active,
          h_sub.observer, h_sub.repairs, h_sub.blind⟩, nofun, h_bound.registry, h_bound.area⟩
      | false =>
        rw [if_pos ⟨h_bound.mops.symm.trans h_mops, h_bound.ready.symm.trans h_ready, rfl, rfl⟩,
          if_neg Bool.false_ne_true]
        -- otherwise the first handle is given back at once
        have h_latched : Given pool 0 k s.latch :=
          ⟨h_given.handed, h_given.released, h_given.held⟩
        have h_latched_bound : StateBound s.latch.hooks s.latch.hooks :=
          ⟨h_bound.state, h_bound.capability, h_bound.registry, h_bound.area, rfl, rfl⟩
        obtain ⟨h_k, h_detached⟩ := h_latched.detachStateObservers h_latched_bound
        exact ⟨⟨⟨k, h_k, h_detached⟩, h_sub.active, h_sub.observer, h_sub.repairs, h_sub.blind⟩,
          nofun, h_bound.registry, h_bound.area⟩
  · exact nomatch h_run
  · split at h_run
    · next e h_issue =>
      cases h_run
      obtain ⟨k, -, h_given⟩ := h_sub.given
      refine ⟨⟨k, ?_⟩, h_sub.active, h_sub.repairs, e,
        mem_errors.mpr (Or.inr (Or.inr (Or.inr (Or.inl h_issue)))), rfl⟩
      rw [h_detaches, h_issue, if_neg (by simp)]
      exact ⟨h_given.handed, h_given.released, h_given.held⟩
    · exact nomatch h_run

theorem bindCapability_leads :
    Leads (fun s => s.Subscribing pool 0 ∧ StateBound begun s.hooks) (bindCapability raises input)
      (fun s => s.Subscribing pool (input.detaches begun) ∧ StatesBound s.hooks)
      (Interrupted input begun pool) := by
  -- without a selector that is looked for in vain, nothing is detached
  have h_kept (h : begun.requiresVacuumAndMop = false ∨ ∃ e, input.resolved = .error e) :
      input.detaches begun = 0 := by
    unfold ObserverInput.detaches
    rcases h with h_vacuums | ⟨e, h_error⟩
    · rw [h_vacuums]
      split <;> simp
    · rw [h_error]
  refine ⟨fun s s' h h_run => ?_, fun s failure s' h h_run => ?_⟩ <;>
    unfold bindCapability at h_run <;> split at h_run
  · next h_vacuums =>
    cases h_run
    rw [h_kept (Or.inl (h.2.mops.symm.trans h_vacuums))]
    -- without a mop there is no selector to listen to
    exact ⟨h.1, fun _ => ⟨h.2.state, fun h_mops =>
      absurd (h_vacuums.symm.trans h_mops) (by decide)⟩, h.2.registry, h.2.area⟩
  · next h_mops =>
    split at h_run
    · exact nomatch h_run
    · next h_gone =>
      exact (loseCapability_leads h_gone).returns s s'
        ⟨h.1, h.2, Bool.eq_true_of_not_eq_false h_mops⟩ h_run
    · next h_found => exact (bindCapabilityState_leads h_found).returns s s' h h_run
  · exact nomatch h_run
  · next h_mops =>
    split at h_run
    · next e h_resolved =>
      cases h_run
      refine h.1.interrupted (fun k h_given => ?_)
        (mem_errors.mpr (Or.inr (Or.inr (Or.inl h_resolved))))
      rw [h_kept (Or.inr ⟨e, h_resolved⟩)]
      exact h_given
    · next h_gone =>
      exact (loseCapability_leads h_gone).raises s failure s'
        ⟨h.1, h.2, Bool.eq_true_of_not_eq_false h_mops⟩ h_run
    · next h_found => exact (bindCapabilityState_leads h_found).raises s failure s' h h_run

theorem listenRegistry_leads :
    Leads (fun s => s.Subscribing pool (input.detaches begun) ∧ StatesBound s.hooks)
      (listenRegistry input.registryRaises)
      (fun s => s.Subscribing pool (input.detaches begun) ∧ RegistryBound s.hooks)
      (Interrupted input begun pool) := by
  refine listen_leads (attach_leads (fun e h_e => mem_errors.mpr
      (Or.inr (Or.inr (Or.inr (Or.inr (Or.inr (Or.inl h_e)))))))
    (fun _ _ _ => id) (fun handle hooks h => ?_) (fun _ _ => ⟨rfl, rfl, rfl, rfl, rfl⟩)
    fun _ _ h => ⟨h.states, fun _ => nofun, h.area⟩)
    fun _ h h_none => ⟨h.states, fun h_some => absurd (h_none.symm.trans h_some) (by decide),
      h.area⟩
  unfold Hooks.held
  dsimp only
  rw [h.registry, h.area]
  cases hooks.stateUnsubscribe <;> cases hooks.capabilityStateUnsubscribe <;> rfl

theorem listenArea_leads :
    Leads (fun s => s.Subscribing pool (input.detaches begun) ∧ RegistryBound s.hooks)
      (listenArea input.areaRaises)
      (fun s => s.Subscribing pool (input.detaches begun) ∧ AllBound s.hooks)
      (Interrupted input begun pool) := by
  refine listen_leads (attach_leads (fun e h_e => mem_errors.mpr
      (Or.inr (Or.inr (Or.inr (Or.inr (Or.inr (Or.inr h_e)))))))
    (fun _ _ _ => id) (fun handle hooks h => ?_) (fun _ _ => ⟨rfl, rfl, rfl, rfl, rfl⟩)
    fun _ _ h => ⟨h.states, fun h_some => ⟨h.registry h_some, fun _ => nofun⟩⟩)
    fun _ h h_none => ⟨h.states, fun h_some => ⟨h.registry h_some, fun h_area => ?_⟩⟩
  · unfold Hooks.held
    dsimp only
    rw [h.area]
    cases hooks.stateUnsubscribe <;> cases hooks.capabilityStateUnsubscribe <;>
      cases hooks.registryUnsubscribe <;> rfl
  · rw [h_some, h_area] at h_none
    exact nomatch h_none

/-! ### A subscription as a whole -/

/-- What a subscription that raises leaves, and what it raises: the error of the call, or in its
place those of the callbacks that take back the calls before it. -/
structure Undone (raises : ℕ → Option ε) (input : ObserverInput ε) (begun : Attached)
    (failure : Failure ε) (s : Attached) : Prop where
  coherent : s.hooks.Coherent
  blind : s.hooks.Blind
  errors : ∃ e ∈ input.errors, ∃ k, s.pool.handed = begun.pool.handed + k ∧
    s.pool.released = begun.pool.released ++ List.range' begun.pool.handed k ∧
    let detached := (List.range' begun.pool.handed k).drop (input.detaches begun.hooks)
    failure.errors = if detached.filterMap raises = [] then [e] else detached.filterMap raises

theorem Undone.accounted {begun : Attached} {failure : Failure ε}
    (h : Undone raises input begun failure s) (h_acc : begun.pool.Accounted rest) :
    s.Accounted rest := by
  obtain ⟨e, -, k, h_handed, h_released, -⟩ := h.errors
  refine h_acc.given h_handed ?_
  rw [h.blind.held, h_released]
  exact .refl _

/-- What an `unsubscribe` raises has errors. -/
theorem unsubscribe_raises {failure : Failure ε} (h : s.hooks.active = true)
    (h_run : (s.unsubscribe raises).1 = .error failure) :
    failure.errors = s.hooks.held.filterMap raises ∧ failure.errors ≠ [] := by
  have h_errors := unsubscribe_errors raises h
  rw [h_run] at h_errors
  refine ⟨h_errors, ?_⟩
  unfold unsubscribe at h_run
  rw [if_neg (by rw [h]; decide)] at h_run
  refine errors_of_attemptAll (fun action h_action s failure s' h_call => ?_) h_run
  obtain ⟨handle, -, rfl⟩ := List.mem_map.mp h_action
  unfold callUnsubscribe at h_call
  cases h_raises : raises handle with
  | none =>
    rw [h_raises] at h_call
    exact nomatch h_call
  | some e =>
    rw [h_raises] at h_call
    cases h_call
    exact List.cons_ne_nil _ _

/-- Taking back what has been attached when a call raises. -/
theorem Interrupted.undone {begun : Attached} {failure : Failure ε} (raises : ℕ → Option ε)
    (h : Interrupted input begun.hooks begun.pool failure s) :
    (∀ s', s.unsubscribe raises = (.ok (), s') → Undone raises input begun failure
      { s' with hooks := { s'.hooks with observerUnsubscribe := false } }) ∧
    ∀ cleanup s', s.unsubscribe raises = (.error cleanup, s') →
      Undone raises input begun cleanup s' := by
  obtain ⟨⟨k, h_given⟩, h_active, h_repairs, e, h_e, rfl⟩ := h
  have h_state := unsubscribe_state raises h_active
  -- the rest of the handles are released now
  have h_handed : (s.unsubscribe raises).2.pool.handed = begun.pool.handed + k := by
    rw [h_state]
    exact (Pool.handed_foldl _ _).trans h_given.handed
  have h_released : (s.unsubscribe raises).2.pool.released =
      begun.pool.released ++ List.range' begun.pool.handed k := by
    rw [h_state]
    dsimp only
    rw [Pool.released_foldl, h_given.released, h_given.held, List.append_assoc,
      List.take_append_drop]
  have h_errors := unsubscribe_errors raises h_active
  rw [h_given.held] at h_errors
  refine ⟨fun s' h_run => ?_, fun cleanup s' h_run => ?_⟩
  · -- no callback raises, and the error of the call comes out
    have h_left : s' = _ := (congrArg Prod.snd h_run).symm.trans h_state
    rw [h_run] at h_handed h_released h_errors
    subst h_left
    refine ⟨⟨nofun, fun _ => rfl, fun _ => h_repairs.1⟩, ⟨rfl, rfl, h_repairs, rfl⟩, e, h_e, k,
      h_handed, h_released, ?_⟩
    intro detached
    have h_silent : detached.filterMap raises = [] := h_errors.symm
    rw [if_pos h_silent]
    rfl
  · -- the errors of the callbacks take the place of the error of the call
    have h_left : s' = _ := (congrArg Prod.snd h_run).symm.trans h_state
    obtain ⟨h_own, h_some⟩ := unsubscribe_raises h_active (congrArg Prod.fst h_run)
    rw [h_given.held] at h_own
    rw [h_own] at h_some
    rw [h_run] at h_handed h_released
    subst h_left
    refine ⟨⟨nofun, fun _ => rfl, fun _ => h_repairs.1⟩, ⟨rfl, rfl, h_repairs, rfl⟩, e, h_e, k,
      h_handed, h_released, ?_⟩
    intro detached
    have h_loud : detached.filterMap raises ≠ [] := h_some
    rw [if_neg h_loud, h_own]

/-- The four calls, one after the other. -/
theorem subscription_leads (raises : ℕ → Option ε) (input : ObserverInput ε) (begun : Hooks)
    (pool : Pool) :
    Leads (fun s => s.Subscribing pool 0 ∧ Bare begun s.hooks) (inTurn [
      bindState input.stateRaises, bindCapability raises input,
      listenRegistry input.registryRaises, listenArea input.areaRaises])
      (fun s => s.Subscribing pool (input.detaches begun) ∧ AllBound s.hooks)
      (Interrupted input begun pool) :=
  .cons bindState_leads (.cons bindCapability_leads (.cons listenRegistry_leads
    (.cons listenArea_leads .nil)))

/-- A runtime before its subscription. -/
structure Fresh (hooks : Hooks) : Prop where
  bare : Bare hooks hooks
  inactive : hooks.active = false
  observer : hooks.observerUnsubscribe = false
  repairs : hooks.repairUnsubscribe = true ∧ hooks.reconciling = true
  blind : hooks.blind = false
  observations : hooks.flags.observationActive = false

/-- **The subscription** attaches everything, or leaves nothing attached. -/
theorem subscribeObserver_spec (raises : ℕ → Option ε) (input : ObserverInput ε)
    (h : Fresh s.hooks) :
    (∀ s', s.subscribeObserver raises input = (.ok (), s') →
      (∃ k, Given s.pool (input.detaches s.hooks) k s') ∧ s'.hooks.Serving ∧
        s'.hooks.blind = false) ∧
    ∀ failure s', s.subscribeObserver raises input = (.error failure, s') →
      Undone raises input s failure s' := by
  let begun : Attached := { s with
    hooks := { s.hooks with
      active := true
      topologyFailureCallback := true
      observerUnsubscribe := true } }
  have h_begun : begun.Subscribing s.pool 0 ∧ Bare s.hooks begun.hooks :=
    ⟨⟨⟨0, le_rfl, rfl, (List.append_nil _).symm, h.bare.held⟩, rfl, rfl, h.repairs, h.blind⟩,
      h.bare.state, h.bare.capability, h.bare.registry, h.bare.area, rfl, rfl⟩
  have h_leads := subscription_leads raises input s.hooks s.pool
  unfold subscribeObserver
  split
  · next e h_import =>
    -- without the event helpers nothing has been begun
    refine ⟨fun _ h_end => (nomatch h_end), fun failure s' h_end => ?_⟩
    cases h_end
    exact ⟨⟨fun h_active => absurd (h.inactive.symm.trans h_active) (by decide),
        fun _ => h.bare.held, fun _ => h.repairs.1⟩,
      ⟨h.inactive, h.bare.held, h.repairs, h.observations⟩, e, mem_errors.mpr (Or.inl h_import), 0,
      rfl, (List.append_nil _).symm, by rw [List.range'_zero, List.drop_nil]; rfl⟩
  dsimp only
  split
  · next s₁ h_run =>
    obtain ⟨h_sub, h_all⟩ := h_leads.returns begun s₁ h_begun h_run
    refine ⟨fun s' h_end => ?_, fun _ _ h_end => nomatch h_end⟩
    cases h_end
    obtain ⟨k, -, h_given⟩ := h_sub.given
    exact ⟨⟨k, h_given⟩, ⟨h_sub.active, h_sub.observer, h_sub.repairs, h_all.registry,
      h_all.states⟩, h_sub.blind⟩
  · next failure s₁ h_run =>
    -- what a raising call leaves is taken back, quietly or with errors of its own
    obtain ⟨h_quiet, h_loud⟩ := (h_leads.raises begun failure s₁ h_begun h_run).undone raises
    split
    · next s₂ h_undo =>
      refine ⟨fun _ h_end => (nomatch h_end), fun failure' s' h_end => ?_⟩
      cases h_end
      exact h_quiet s₂ h_undo
    · next cleanup s₂ h_undo =>
      refine ⟨fun _ h_end => (nomatch h_end), fun failure' s' h_end => ?_⟩
      cases h_end
      exact h_loud cleanup s₂ h_undo

/-- What `suppress` lets through has the errors that it leaves. -/
theorem leaves_errors {suppress : Suppress ε} {failure left : Failure ε}
    (h : suppress.leaves failure = some left) : left.errors = suppress.left failure.errors := by
  have h_without {failure : Failure ε}
      (h : failure.without suppress.moduleNotFound = some left) :
      left.errors = failure.errors.filter fun e => !suppress.moduleNotFound e := by
    rw [← Failure.errors_without, h]
    rfl
  unfold Suppress.left
  cases failure with
  | error e =>
    -- a single error that is let through is none of those that are suppressed
    have h_other : suppress.moduleNotFound e = false := by
      cases h_suppressed : suppress.moduleNotFound e with
      | false => rfl
      | true => simp [Suppress.leaves, Failure.without, h_suppressed] at h
    rw [h_without h]
    simp [Failure.errors, h_other]
  | group message failures =>
    by_cases h_splits : suppress.splitsGroups = true
    · simp only [Suppress.leaves, h_splits, if_true] at h
      rw [if_pos h_splits]
      exact h_without h
    · simp only [Suppress.leaves, h_splits, if_false, Bool.false_eq_true, Option.some.injEq] at h
      rw [if_neg h_splits, h]

/-- The subscription with what is suppressed: the runtime is set up, or has nothing attached. -/
theorem subscribeSuppressed_spec (suppress : Suppress ε) (raises : ℕ → Option ε)
    (input : ObserverInput ε) (h : Fresh s.hooks) (h_acc : s.pool.Accounted rest) :
    (∀ s', s.subscribeSuppressed suppress raises input = (.ok (), s') →
      s'.Accounted rest ∧ s'.hooks.SetUp) ∧
    ∀ failure s', s.subscribeSuppressed suppress raises input = (.error failure, s') →
      ∃ raised, Undone raises input s raised s' ∧ failure.errors = suppress.left raised.errors := by
  obtain ⟨h_serves, h_undone⟩ := subscribeObserver_spec raises input h
  unfold subscribeSuppressed
  split
  · next s₁ h_run =>
    refine ⟨fun s' h_end => ?_, fun _ _ h_end => nomatch h_end⟩
    cases h_end
    obtain ⟨⟨k, h_given⟩, h_serving, h_seeing⟩ := h_serves s₁ h_run
    exact ⟨h_given.accounted h_acc, h_serving.setUp h_seeing⟩
  · next raised s₁ h_run =>
    have h_left := h_undone raised s₁ h_run
    split
    · -- it is suppressed, and the setup goes on
      refine ⟨fun s' h_end => ?_, fun _ _ h_end => nomatch h_end⟩
      cases h_end
      have h_blind := h_left.blind
      exact ⟨h_left.accounted h_acc,
        Hooks.Blind.setUp ⟨h_blind.inactive, h_blind.held, h_blind.repairs, h_blind.observations⟩
          rfl⟩
    · next failure' h_leaves =>
      -- what is left of the failure is raised by the setup
      refine ⟨fun _ h_end => (nomatch h_end), fun failure s' h_end => ?_⟩
      cases h_end
      exact ⟨raised, h_left, leaves_errors h_leaves⟩

end Attached

/-! ### The runtimes of an entry -/

namespace EntryState

open Attached

variable {ε : Type} {suppress : Suppress ε} {raises : ℕ → Option ε} {w w' : EntryState} {i : ℕ}
  {hooks : Hooks}

theorem held_split (h_i : w.runtimes[i]? = some hooks) : (w.runtimes.flatMap Hooks.held).Perm
    (hooks.held ++ (w.runtimes.eraseIdx i).flatMap Hooks.held) := by
  obtain ⟨h_lt, rfl⟩ := List.getElem?_eq_some_iff.mp h_i
  exact ((List.getElem_cons_eraseIdx_perm h_lt).symm.flatMap_right Hooks.held)

theorem held_set (h_i : w.runtimes[i]? = some hooks) (hooks' : Hooks) :
    ((w.runtimes.set i hooks').flatMap Hooks.held).Perm
      (hooks'.held ++ (w.runtimes.eraseIdx i).flatMap Hooks.held) :=
  (List.set_perm_cons_eraseIdx (List.getElem?_eq_some_iff.mp h_i).1 hooks').flatMap_right Hooks.held

/-- The entry points to the runtime, or its setup was cancelled and left it. -/
def Kept (w : EntryState) (i : ℕ) : Prop := w.runtimeData = some i ∨ i ∈ w.stranded

/-- What a runtime is, by whether it is kept. -/
structure Stands (w : EntryState) (i : ℕ) (hooks : Hooks) : Prop where
  kept : w.Kept i → hooks.SetUp
  dropped : ¬w.Kept i → hooks.Released

theorem Stands.cases (h : w.Stands i hooks) :
    w.Kept i ∧ hooks.SetUp ∨ ¬w.Kept i ∧ hooks.Released :=
  (em (w.Kept i)).imp (fun h_kept => ⟨h_kept, h.kept h_kept⟩)
    fun h_dropped => ⟨h_dropped, h.dropped h_dropped⟩

theorem Stands.coherent (h : w.Stands i hooks) : hooks.Coherent := by
  rcases h.cases with ⟨-, h_up⟩ | ⟨-, h_down⟩
  · exact h_up.coherent
  · exact h_down.coherent

/-- A runtime stands as it did if it is kept as it was. -/
theorem Stands.mono (h : w.Stands i hooks) (h_kept : w'.Kept i ↔ w.Kept i) : w'.Stands i hooks :=
  ⟨fun h' => h.kept (h_kept.mp h'), fun h' => h.dropped fun h => h' (h_kept.mpr h)⟩

/-- The runtimes of an entry, all but one of them set up or torn down. -/
structure TidyBut (w : EntryState) (i : ℕ) : Prop where
  accounted : w.pool.Accounted (w.runtimes.flatMap Hooks.held)
  others : ∀ j hooks, w.runtimes[j]? = some hooks → j ≠ i → w.Stands j hooks
  coherent : ∀ hooks, w.runtimes[i]? = some hooks → hooks.Coherent
  data : w.data = w.runtimeData
  range : ∀ j, w.Kept j → j < w.runtimes.length
  pending : w.pending = none

/-- The runtime the entry points to and those that cancelled setups have left are set up, all others
are torn down, and an operation that waits for the platforms has found the runtime that is still
there. -/
structure Tidy (w : EntryState) : Prop where
  accounted : w.pool.Accounted (w.runtimes.flatMap Hooks.held)
  runtimes : ∀ i hooks, w.runtimes[i]? = some hooks → w.Stands i hooks
  data : w.data = w.runtimeData
  range : ∀ i, w.Kept i → i < w.runtimes.length
  forwarding : ∀ i, w.pending = some (.forwarding i) → w.runtimeData = some i
  unloading : ∀ i, w.pending = some (.unloading i) → w.runtimeData = i

/-- Once the platforms have answered, nothing waits any more. -/
theorem Tidy.answered (h : w.Tidy) : Tidy { w with pending := none } where
  accounted := h.accounted
  runtimes i hooks h_i := (h.runtimes i hooks h_i).mono Iff.rfl
  data := h.data
  range := h.range
  forwarding _ h_none := nomatch h_none
  unloading _ h_none := nomatch h_none

theorem Tidy.but (h : w.Tidy) (h_idle : w.pending = none) (i : ℕ) : w.TidyBut i where
  accounted := h.accounted
  others j hooks h_j _ := h.runtimes j hooks h_j
  coherent hooks h_i := (h.runtimes i hooks h_i).coherent
  data := h.data
  range := h.range
  pending := h_idle

theorem TidyBut.tidy (h : w.TidyBut i)
    (h_i : ∀ hooks, w.runtimes[i]? = some hooks → w.Stands i hooks) : w.Tidy where
  accounted := h.accounted
  runtimes j hooks h_j := by
    by_cases h_ji : j = i
    · subst h_ji
      exact h_i hooks h_j
    · exact h.others j hooks h_j h_ji
  data := h.data
  range := h.range
  forwarding _ h_some := absurd (h.pending.symm.trans h_some) nofun
  unloading _ h_some := absurd (h.pending.symm.trans h_some) nofun

/-! ### An operation on one of them -/

theorem onRuntime_some {operation : Attached → Except (Failure ε) Unit × Attached}
    (h_i : w.runtimes[i]? = some hooks) :
    w.onRuntime i operation = ((operation ⟨w.pool, hooks⟩).1,
      { w with
        pool := (operation ⟨w.pool, hooks⟩).2.pool
        runtimes := w.runtimes.set i (operation ⟨w.pool, hooks⟩).2.hooks }) := by
  unfold onRuntime
  rw [h_i]

theorem onRuntime_none {operation : Attached → Except (Failure ε) Unit × Attached}
    (h_i : w.runtimes[i]? = none) : w.onRuntime i operation = (.ok (), w) := by
  unfold onRuntime
  rw [h_i]

/-- The handles of the other runtimes are as they were. -/
theorem accounted_set {s : Attached} (h_i : w.runtimes[i]? = some hooks)
    (h_operation : ∀ rest, Attached.Accounted ⟨w.pool, hooks⟩ rest → s.Accounted rest)
    (h_acc : w.pool.Accounted (w.runtimes.flatMap Hooks.held)) :
    s.pool.Accounted ((w.runtimes.set i s.hooks).flatMap Hooks.held) :=
  Pool.Accounted.perm (h_operation _ (Pool.Accounted.perm h_acc (held_split h_i).symm))
    (held_set h_i s.hooks)

/-- A runtime that keeps its place. -/
theorem Tidy.set {s : Attached} (h : w.Tidy) (h_i : w.runtimes[i]? = some hooks)
    (h_operation : ∀ rest, Attached.Accounted ⟨w.pool, hooks⟩ rest → s.Accounted rest)
    (h_up : hooks.SetUp → s.hooks.SetUp) (h_released : hooks.Released → s.hooks.Released) :
    Tidy { w with pool := s.pool, runtimes := w.runtimes.set i s.hooks } where
  accounted := accounted_set h_i h_operation h.accounted
  runtimes j hooks' h_j := by
    by_cases h_ij : i = j
    · subst h_ij
      have h_new : s.hooks = hooks' := by
        have := List.getElem?_set_self (a := s.hooks) (List.getElem?_eq_some_iff.mp h_i).1
        exact Option.some.inj (this.symm.trans h_j)
      have h_stands := h.runtimes i hooks h_i
      subst h_new
      exact ⟨fun h_kept => h_up (h_stands.kept h_kept),
        fun h_dropped => h_released (h_stands.dropped h_dropped)⟩
    · exact (h.runtimes j hooks' ((List.getElem?_set_ne h_ij).symm.trans h_j)).mono Iff.rfl
  data := h.data
  range j h_j := (List.length_set).symm ▸ h.range j h_j
  forwarding := h.forwarding
  unloading := h.unloading

theorem Tidy.onRuntime {operation : Attached → Except (Failure ε) Unit × Attached} (h : w.Tidy)
    (h_operation : ∀ hooks rest, w.runtimes[i]? = some hooks →
      Attached.Accounted ⟨w.pool, hooks⟩ rest → (operation ⟨w.pool, hooks⟩).2.Accounted rest)
    (h_up : ∀ hooks, w.runtimes[i]? = some hooks → hooks.SetUp →
      (operation ⟨w.pool, hooks⟩).2.hooks.SetUp)
    (h_released : ∀ hooks, w.runtimes[i]? = some hooks → hooks.Released →
      (operation ⟨w.pool, hooks⟩).2.hooks.Released) :
    (w.onRuntime i operation).2.Tidy := by
  cases h_i : w.runtimes[i]? with
  | none =>
    rw [onRuntime_none h_i]
    exact h
  | some hooks =>
    rw [onRuntime_some h_i]
    exact h.set h_i (fun rest => h_operation hooks rest h_i) (h_up hooks h_i) (h_released hooks h_i)

/-- The flags for the commands have nothing to do with the listeners. -/
theorem Tidy.updateFlags (h : w.Tidy) (update : RuntimeFlags → RuntimeFlags)
    (h_same : ∀ flags, (update flags).topologyReady = flags.topologyReady ∧
      (update flags).observationActive = flags.observationActive) :
    (w.updateFlags w.runtimeData update).Tidy := by
  unfold EntryState.updateFlags
  split
  · exact h
  · next i h_points =>
    have h_kept : w.Kept i := Or.inl h_points
    obtain ⟨hooks, h_i⟩ : ∃ hooks, w.runtimes[i]? = some hooks :=
      ⟨_, List.getElem?_eq_getElem (h.range i h_kept)⟩
    obtain ⟨h_latch, h_observations⟩ := h_same hooks.flags
    have h_up := (h.runtimes i hooks h_i).kept h_kept
    rw [List.modify_eq_set_getElem?, h_i]
    -- the runtime is one that is set up, so it need not stay torn down
    exact {
      accounted := accounted_set (s := ⟨w.pool, { hooks with flags := update hooks.flags }⟩) h_i
        (fun _ => id) h.accounted
      runtimes := fun j hooks' h_j => by
        by_cases h_ij : i = j
        · subst h_ij
          have h_new := List.getElem?_set_self (a := { hooks with flags := update hooks.flags })
            (List.getElem?_eq_some_iff.mp h_i).1
          cases h_new.symm.trans h_j
          refine ⟨fun _ => h_up.mono rfl (fun h => ?_) fun h => ?_,
            fun h_not => absurd h_kept h_not⟩
          · exact ⟨h.active, h.observer, h.repairs, h.registry,
              fun h_ready => h.states (h_latch.symm.trans h_ready)⟩
          · exact ⟨h.inactive, h.held, h.repairs, h_observations.trans h.observations⟩
        · exact (h.runtimes j hooks' ((List.getElem?_set_ne h_ij).symm.trans h_j)).mono Iff.rfl
      data := h.data
      range := fun j h_j => (List.length_set).symm ▸ h.range j h_j
      forwarding := h.forwarding
      unloading := h.unloading }

/-! ### Tearing down -/

/-- The entry without one of its runtimes, which has been torn down. -/
def dropped (w : EntryState) (i : ℕ) (s : Attached) : EntryState := { w with
  pool := s.pool
  runtimes := w.runtimes.set i s.hooks
  data := if w.data = some i then none else w.data
  runtimeData := if w.runtimeData = some i then none else w.runtimeData
  stranded := w.stranded.filter (· ≠ i) }

/-- All the others are kept. -/
theorem dropped_kept {s : Attached} {j : ℕ} : (w.dropped i s).Kept j ↔ w.Kept j ∧ j ≠ i := by
  unfold dropped Kept
  dsimp only
  rw [List.mem_filter, decide_eq_true_iff]
  split
  · next h_points =>
    rw [h_points]
    refine ⟨fun h => ?_, fun ⟨h, h_ne⟩ => ?_⟩
    · rcases h with h_none | h
      · exact nomatch h_none
      · exact ⟨Or.inr h.1, h.2⟩
    · rcases h with h_eq | h
      · exact absurd (Option.some.inj h_eq).symm h_ne
      · exact Or.inr ⟨h, h_ne⟩
  · next h_other =>
    refine ⟨fun h => ?_, fun ⟨h, h_ne⟩ => h.imp_right (⟨·, h_ne⟩)⟩
    rcases h with h_points | h
    · exact ⟨Or.inl h_points, fun h_eq => h_other (h_eq ▸ h_points)⟩
    · exact ⟨Or.inr h.1, h.2⟩

theorem TidyBut.dropped {s : Attached} (h : w.TidyBut i) (h_i : w.runtimes[i]? = some hooks)
    (h_operation : ∀ rest, Attached.Accounted ⟨w.pool, hooks⟩ rest → s.Accounted rest)
    (h_released : s.hooks.Released) : (w.dropped i s).Tidy where
  accounted := accounted_set h_i h_operation h.accounted
  runtimes j hooks' h_j := by
    by_cases h_ij : i = j
    · subst h_ij
      have h_new := List.getElem?_set_self (a := s.hooks) (List.getElem?_eq_some_iff.mp h_i).1
      cases h_new.symm.trans h_j
      exact ⟨fun h_kept => absurd rfl (dropped_kept.mp h_kept).2, fun _ => h_released⟩
    · have h_stands := h.others j hooks' ((List.getElem?_set_ne h_ij).symm.trans h_j) (Ne.symm h_ij)
      exact h_stands.mono (dropped_kept.trans (and_iff_left (Ne.symm h_ij)))
  data := by
    unfold EntryState.dropped
    dsimp only
    rw [h.data]
  range j h_j := (List.length_set).symm ▸ h.range j (dropped_kept.mp h_j).1
  forwarding _ h_some := absurd (h.pending.symm.trans h_some) nofun
  unloading _ h_some := absurd (h.pending.symm.trans h_some) nofun

/-- What a rollback leaves, and what it raises. -/
structure RolledBack (raises : ℕ → Option ε) (i : ℕ) (hooks : Hooks) (w : EntryState)
    (outcome : Except (Failure ε) Unit × EntryState) : Prop where
  tidy : outcome.2.Tidy
  idle : outcome.2.pending = none
  pool : outcome.2.pool = hooks.held.foldl Pool.release w.pool
  runtimeData : outcome.2.runtimeData = if w.runtimeData = some i then none else w.runtimeData
  errors : errorsOf outcome.1 = hooks.held.filterMap raises

theorem rollbackSetupRuntime_some (raises : ℕ → Option ε) (h : w.TidyBut i)
    (h_i : w.runtimes[i]? = some hooks) :
    RolledBack raises i hooks w (w.rollbackSetupRuntime raises i) := by
  have h_down := shutdownRuntime_tornDown raises (s := ⟨w.pool, hooks⟩)
    (h.coherent hooks h_i)
  unfold rollbackSetupRuntime
  rw [onRuntime_some h_i]
  exact ⟨h.dropped h_i (fun rest => h_down.accounted) h_down.hooks, h.pending, h_down.pool, rfl,
    h_down.errors⟩

/-- The clean-up of any setup, at any time after it. -/
theorem Tidy.rollbackSetupRuntime (h : w.Tidy) (h_idle : w.pending = none) (i : ℕ) :
    (w.rollbackSetupRuntime raises i).2.Tidy := by
  cases h_i : w.runtimes[i]? with
  | some hooks => exact (rollbackSetupRuntime_some raises (h.but h_idle i) h_i).tidy
  | none =>
    have h_unkept : ¬w.Kept i := fun h_kept =>
      absurd (h.range i h_kept) (List.getElem?_eq_none_iff.mp h_i).not_gt
    obtain ⟨h_other, h_left⟩ := not_or.mp h_unkept
    have h_stranded : w.stranded.filter (· ≠ i) = w.stranded :=
      List.filter_eq_self.mpr fun j h_j => decide_eq_true fun h_eq => h_left (h_eq ▸ h_j)
    unfold EntryState.rollbackSetupRuntime
    rw [onRuntime_none h_i]
    dsimp only
    rw [if_neg h_other, if_neg (h.data.symm ▸ h_other), h_stranded]
    exact h

/-- The error path of a setup rolls back and raises, both errors if the rollback raises too. -/
theorem failSetup_spec (raises : ℕ → Option ε) (w : EntryState) (i : ℕ) (setupError : Failure ε) :
    (w.failSetup raises i setupError).2 = (w.rollbackSetupRuntime raises i).2 ∧
      ∃ failure, (w.failSetup raises i setupError).1 = .error failure ∧
        failure.errors =
          setupError.errors ++ errorsOf (w.rollbackSetupRuntime raises i).1 := by
  unfold failSetup
  rcases w.rollbackSetupRuntime raises i with ⟨cleanupError | _, w'⟩
  · exact ⟨rfl, _, rfl, congrArg (setupError.errors ++ ·) (List.append_nil _)⟩
  · exact ⟨rfl, _, rfl, (List.append_nil _).symm⟩

/-- Nothing is set up, and nothing is attached but what cancelled setups have left: every other
listener was detached once. -/
structure Cleared (w : EntryState) : Prop where
  data : w.data = none
  runtimeData : w.runtimeData = none
  runtimes : ∀ i hooks, w.runtimes[i]? = some hooks → i ∉ w.stranded → hooks.Released
  handles : ∀ handle < w.pool.handed, w.pool.released.count handle = 1 ∨
    ∃ i ∈ w.stranded, ∃ hooks ∈ w.runtimes[i]?, handle ∈ hooks.held

theorem Tidy.cleared (h : w.Tidy) (h_none : w.runtimeData = none) : w.Cleared := by
  have h_released : ∀ i hooks, w.runtimes[i]? = some hooks → i ∉ w.stranded → hooks.Released := by
    intro i hooks h_i h_left
    refine (h.runtimes i hooks h_i).dropped fun h_kept => ?_
    rcases h_kept with h_points | h_stranded
    · exact nomatch h_none.symm.trans h_points
    · exact h_left h_stranded
  refine ⟨h.data.trans h_none, h_none, h_released, fun handle h_handed => ?_⟩
  have h_once := h.accounted.once h_handed
  by_cases h_held : handle ∈ w.runtimes.flatMap Hooks.held
  · -- whoever holds it has not been torn down
    obtain ⟨hooks, h_mem, h_handle⟩ := List.mem_flatMap.mp h_held
    obtain ⟨i, h_i⟩ := List.getElem?_of_mem h_mem
    refine Or.inr ⟨i, ?_, hooks, h_i, h_handle⟩
    by_contra h_left
    rw [(h_released i hooks h_i h_left).held] at h_handle
    exact List.not_mem_nil h_handle
  · rw [List.count_eq_zero.mpr h_held] at h_once
    exact Or.inl h_once

/-- Tearing down the runtime the entry points to. -/
theorem RolledBack.cleared {outcome : Except (Failure ε) Unit × EntryState}
    (h : RolledBack raises i hooks w outcome) (h_points : w.runtimeData = some i) :
    outcome.2.Cleared :=
  h.tidy.cleared (h.runtimeData.trans (if_pos h_points))

/-! ### Setting up -/

/-- What a setup that raises leaves, and what it raises. Of the listeners that it has attached, and
that are all detached in the end, the first may have been detached quietly when the topology was
latched. -/
structure SetupFailed (suppress : Suppress ε) (raises : ℕ → Option ε) (input : LifecycleInput ε)
    (w : EntryState) (failure : Failure ε) (w' : EntryState) : Prop where
  tidy : w'.Tidy
  cleared : w'.Cleared
  idle : w'.pending = none
  errors : ∃ e ∈ input.errors, ∃ k, w'.pool.handed = w.pool.handed + k ∧
    w'.pool.released = w.pool.released ++ List.range' w.pool.handed k ∧
    let detached := (List.range' w.pool.handed k).drop (input.detaches (freshHooks input))
    failure.errors = suppress.left
      (if detached.filterMap raises = [] then [e] else detached.filterMap raises)

/-- The entry with one more runtime, which it points to. -/
def joined (w : EntryState) (s : Attached) : EntryState where
  pool := s.pool
  runtimes := w.runtimes ++ [s.hooks]
  data := some w.runtimes.length
  runtimeData := some w.runtimes.length
  pending := w.pending
  stranded := w.stranded

/-- A setup is the subscription of a fresh runtime, and what follows from its outcome. -/
theorem setupEntry_eq (suppress : Suppress ε) (raises : ℕ → Option ε) (input : LifecycleInput ε)
    (w : EntryState) : w.setupEntry suppress raises input =
      match subscribeSuppressed suppress raises input.toObserverInput
        ⟨w.pool, freshHooks input⟩ with
      | (.ok (), s) =>
        (.ok (), { w.joined s with pending := some (.forwarding w.runtimes.length) })
      | (.error setupError, s) => (w.joined s).failSetup raises w.runtimes.length setupError := by
  have h_last (fresh : Hooks) : (w.runtimes ++ [fresh])[w.runtimes.length]? = some fresh :=
    List.getElem?_concat_length
  have h_set (fresh hooks : Hooks) :
      (w.runtimes ++ [fresh]).set w.runtimes.length hooks = w.runtimes ++ [hooks] := by
    rw [List.set_append_right _ _ (le_refl _), Nat.sub_self]
    rfl
  -- the runtime that is subscribed is the last one
  unfold setupEntry
  dsimp only
  rw [onRuntime_some (h_last _)]
  dsimp only
  rw [h_set]
  split
  · next h_run =>
    obtain ⟨h_ok, rfl⟩ := Prod.mk.inj h_run
    rw [show subscribeSuppressed suppress raises input.toObserverInput _ = (.ok (), _)
      from Prod.ext h_ok rfl]
    rfl
  · next h_run =>
    obtain ⟨h_error, rfl⟩ := Prod.mk.inj h_run
    rw [show subscribeSuppressed suppress raises input.toObserverInput _ = (.error _, _)
      from Prod.ext h_error rfl]
    rfl

/-- The runtimes of earlier setups are torn down, or have been left by cancelled ones. -/
theorem Tidy.joined {s : Attached} (h : w.Tidy) (h_vacant : w.Vacant) (h_idle : w.pending = none)
    (h_acc : s.Accounted (w.runtimes.flatMap Hooks.held)) (h_coherent : s.hooks.Coherent) :
    (w.joined s).TidyBut w.runtimes.length where
  accounted := by
    show s.pool.Accounted ((w.runtimes ++ [s.hooks]).flatMap Hooks.held)
    rw [List.flatMap_append, List.flatMap_singleton]
    exact Pool.Accounted.perm h_acc List.perm_append_comm
  others j hooks h_j h_ne := by
    -- the others are the runtimes there were before
    have h_lt : j < w.runtimes.length := by
      have h_length := (List.getElem?_eq_some_iff.mp h_j).1
      rw [EntryState.joined, List.length_append, List.length_singleton] at h_length
      omega
    have h_stands := h.runtimes j hooks ((List.getElem?_append_left h_lt).symm.trans h_j)
    -- what was kept before is what cancelled setups have left
    refine h_stands.mono ⟨fun h_kept => ?_, fun h_kept => ?_⟩
    · rcases h_kept with h_points | h_left
      · exact absurd (Option.some.inj h_points).symm h_ne
      · exact Or.inr h_left
    · rcases h_kept with h_points | h_left
      · exact Or.inr (h_vacant j h_points)
      · exact Or.inr h_left
  coherent hooks h_last := by
    rw [← Option.some.inj (List.getElem?_concat_length.symm.trans h_last)]
    exact h_coherent
  data := rfl
  range j h_j := by
    rw [EntryState.joined, List.length_append]
    rcases h_j with h_points | h_left
    · cases h_points
      exact Nat.lt_succ_self _
    · exact (h.range j (Or.inr h_left)).trans (Nat.lt_succ_self _)
  pending := h_idle

theorem freshHooks_fresh (input : LifecycleInput ε) : Fresh (freshHooks input) :=
  ⟨⟨rfl, rfl, rfl, rfl, rfl, rfl⟩, rfl, rfl, ⟨rfl, rfl⟩, rfl, rfl⟩

/-- **A setup** whose subscription returns has a runtime that is set up, and one whose subscription
raises leaves nothing. -/
theorem setupEntry_spec (suppress : Suppress ε) (raises : ℕ → Option ε) (input : LifecycleInput ε)
    (h : w.Tidy) (h_vacant : w.Vacant) (h_idle : w.pending = none) :
    (∀ w', w.setupEntry suppress raises input = (.ok (), w') → w'.Tidy) ∧
      ∀ failure w', w.setupEntry suppress raises input = (.error failure, w') →
        SetupFailed suppress raises input w failure w' := by
  obtain ⟨h_serves, h_undone⟩ := subscribeSuppressed_spec suppress raises input.toObserverInput
    (s := ⟨w.pool, freshHooks input⟩) (freshHooks_fresh input) h.accounted
  rw [setupEntry_eq]
  split
  · next s h_run =>
    obtain ⟨h_acc, h_up⟩ := h_serves s h_run
    refine ⟨fun w' h_end => ?_, fun _ _ h_end => nomatch h_end⟩
    cases h_end
    -- the subscription has returned, and the platforms are next
    have h_tidy := (h.joined h_vacant h_idle h_acc h_up.coherent).tidy fun hooks h_last => by
      rw [← Option.some.inj (List.getElem?_concat_length.symm.trans h_last)]
      exact ⟨fun _ => h_up, fun h_not => absurd (Or.inl rfl) h_not⟩
    exact ⟨h_tidy.accounted, fun i hooks h_i => (h_tidy.runtimes i hooks h_i).mono Iff.rfl,
      h_tidy.data, h_tidy.range, fun i h_i => by cases h_i; rfl, fun _ h_some => nomatch h_some⟩
  · next setupError s h_run =>
    obtain ⟨raised, h_left, h_own⟩ := h_undone setupError s h_run
    have h_back := rollbackSetupRuntime_some raises
      (h.joined h_vacant h_idle (h_left.accounted h.accounted) h_left.coherent)
      List.getElem?_concat_length
    obtain ⟨h_state, failure, h_failure, h_errors⟩ :=
      failSetup_spec raises (w.joined s) w.runtimes.length setupError
    -- what was attached has been taken back, so the rollback has nothing to raise
    rw [h_back.errors, h_left.blind.held, List.filterMap_nil, List.append_nil, h_own] at h_errors
    refine ⟨fun w' h_end => ?_, fun failure' w' h_end => ?_⟩ <;>
      rw [h_end] at h_state h_failure <;> cases h_failure
    -- what has been handed out and released is a matter of the subscription
    obtain ⟨e, h_e, k, h_handed, h_released, h_raised⟩ := h_left.errors
    have h_w' : w' = _ := h_state
    subst h_w'
    have h_pool :
        ((w.joined s).rollbackSetupRuntime raises w.runtimes.length).2.pool = s.pool := by
      rw [h_back.pool, h_left.blind.held]
      rfl
    refine ⟨h_back.tidy, h_back.cleared rfl, h_back.idle, e, h_e, k, ?_, ?_,
      h_errors.trans (congrArg suppress.left h_raised)⟩
    · rw [h_pool]
      exact h_handed
    · rw [h_pool]
      exact h_released

/-! ### Any run -/

theorem Tidy.setupEntry (h : w.Tidy) (h_vacant : w.Vacant) (h_idle : w.pending = none)
    (input : LifecycleInput ε) : (w.setupEntry suppress raises input).2.Tidy := by
  obtain ⟨h_serves, h_undone⟩ := setupEntry_spec suppress raises input h h_vacant h_idle
  rcases h_run : w.setupEntry suppress raises input with ⟨failure | _, w'⟩
  · exact (h_undone failure w' h_run).tidy
  · exact h_serves w' h_run

/-- The runtime that a cancelled setup leaves is set up, as before. -/
theorem Tidy.cancelSetup (h : w.Tidy) (h_pending : w.pending = some (.forwarding i)) :
    (w.cancelSetup i).Tidy := by
  have h_points := h.forwarding i h_pending
  have h_kept {j : ℕ} : (w.cancelSetup i).Kept j ↔ w.Kept j := by
    unfold Kept EntryState.cancelSetup
    rw [List.mem_cons, h_points, Option.some_inj]
    refine ⟨fun h => ?_, fun h => h.imp_right Or.inr⟩
    rcases h with h_eq | h_eq | h_left
    · exact Or.inl h_eq
    · exact Or.inl h_eq.symm
    · exact Or.inr h_left
  exact ⟨h.accounted, fun j hooks h_j => (h.runtimes j hooks h_j).mono h_kept, h.data,
    fun j h_j => h.range j (h_kept.mp h_j), fun _ h_some => (nomatch h_some),
    fun _ h_some => nomatch h_some⟩

theorem Tidy.forwarded (h : w.Tidy) (raised : Option ε) : (w.forwarded raises i raised).2.Tidy := by
  unfold EntryState.forwarded
  cases raised with
  | none => exact h.answered
  | some e =>
    dsimp only
    rw [(failSetup_spec raises _ i _).1]
    exact h.answered.rollbackSetupRuntime rfl i

theorem Tidy.unloadEntry (h : w.Tidy) : w.unloadEntry.Tidy := by
  have h_next := h.updateFlags RuntimeFlags.invalidateCommands fun _ => ⟨rfl, rfl⟩
  have h_points : (w.updateFlags w.runtimeData RuntimeFlags.invalidateCommands).runtimeData =
      w.runtimeData := by
    unfold EntryState.updateFlags
    split <;> rfl
  exact ⟨h_next.accounted, fun j hooks h_j => (h_next.runtimes j hooks h_j).mono Iff.rfl,
    h_next.data, h_next.range, fun _ h_some => (nomatch h_some),
    fun i h_i => by cases h_i; exact h_points⟩

/-- The runtime that the unload has found is the one that is still there. -/
theorem Tidy.platformsUnloaded (h : w.Tidy) (outcome : Except ε Bool) :
    (w.platformsUnloaded raises w.runtimeData outcome).2.Tidy := by
  unfold EntryState.platformsUnloaded
  dsimp only
  split
  · exact h.answered
  · exact h.answered.updateFlags _ fun _ => ⟨rfl, rfl⟩
  · split
    · exact h.answered
    · next i _ => exact h.answered.rollbackSetupRuntime rfl i

theorem Tidy.rebound (h : w.Tidy) (h_i : w.runtimes[i]? = some hooks)
    (h_listens : hooks.registryUnsubscribe ≠ none) (raised : Option ε) :
    (w.onRuntime i (·.bindCapabilityState raises raised)).2.Tidy := by
  refine h.onRuntime (fun _ _ _ => bindCapabilityState_accounted) (fun hooks' h_i' => ?_)
    fun hooks' h_i' h_released => ?_ <;> cases h_i.symm.trans h_i'
  · exact bindCapabilityState_setUp (s := ⟨w.pool, hooks⟩) raises raised h_listens
  · -- a runtime that is torn down does not listen
    exact absurd (registry_of_held hooks h_released.held) h_listens

theorem Tidy.failClosed (h : w.Tidy) (work : Bool) :
    (w.onRuntime i fun s => ((.ok () : Except (Failure ε) Unit), s.failClosed work)).2.Tidy :=
  h.onRuntime (fun _ _ _ => failClosed_accounted work)
    (fun hooks _ => failClosed_setUp (s := ⟨w.pool, hooks⟩) work)
    fun hooks _ => failClosed_released (s := ⟨w.pool, hooks⟩) work

theorem Tidy.detached (h : w.Tidy) (h_i : w.runtimes[i]? = some hooks)
    (h_latched : hooks.flags.topologyReady = false) :
    (w.onRuntime i fun s => ((.ok () : Except (Failure ε) Unit),
      s.detachStateObservers)).2.Tidy := by
  refine h.onRuntime (fun _ _ _ => detachStateObservers_accounted) (fun hooks' h_i' => ?_)
    fun hooks _ => detachStateObservers_released (s := ⟨w.pool, hooks⟩)
  cases h_i.symm.trans h_i'
  exact detachStateObservers_setUp (s := ⟨w.pool, hooks⟩) h_latched

theorem step_tidy (suppress : Suppress ε) (raises : ℕ → Option ε) (w : EntryState)
    (event : LifecycleEvent ε) (w' : EntryState) (h : w.Tidy)
    (h_step : step suppress raises event w = .ok w') : w'.Tidy := by
  unfold step at h_step
  cases event <;> dsimp only at h_step
  -- an event that is refused leads to no state
  case setup input =>
    split at h_step <;> cases h_step
    next h_free => exact h.setupEntry h_free.1 h_free.2 input
  case forwarded raised =>
    split at h_step <;> cases h_step
    next i _ => exact h.forwarded raised
  case cancelled =>
    split at h_step <;> cases h_step
    next i h_pending => exact h.cancelSetup h_pending
  case unload =>
    split at h_step <;> cases h_step
    exact h.unloadEntry
  case platformsUnloaded outcome =>
    split at h_step <;> cases h_step
    next i h_pending => exact h.unloading i h_pending ▸ h.platformsUnloaded outcome
  case cleanup i =>
    split at h_step <;> cases h_step
    next h_idle => exact h.rollbackSetupRuntime h_idle i
  case rebound i raised =>
    split at h_step <;> cases h_step
    next h_listening =>
      obtain ⟨hooks, h_i, h_listens, -⟩ := h_listening
      exact h.rebound h_i h_listens raised
  case failedClosed i work =>
    cases h_step
    exact h.failClosed work
  case detached i =>
    split at h_step <;> cases h_step
    next h_latched =>
      obtain ⟨hooks, h_i, h_latch⟩ := h_latched
      exact h.detached h_i h_latch

theorem start_tidy : start.Tidy where
  accounted := Pool.accounted_empty
  runtimes _ _ h_i := nomatch h_i
  data := rfl
  range _ h_kept := (h_kept.elim nofun fun h_mem => nomatch h_mem)
  forwarding _ h_some := nomatch h_some
  unloading _ h_some := nomatch h_some

/-- A setup of an entry that mops, with all its listeners. -/
def listening : LifecycleInput String where
  importRaises := none
  stateRaises := none
  resolved := .ok true
  issueRaises := none
  work := false
  capabilityRaises := none
  registryRaises := none
  areaRaises := none
  topologyReady := true
  registered := true
  areaRegistry := true
  requiresVacuumAndMop := true

/-- The selector's callback raises. -/
def stubborn (handle : ℕ) : Option String := if handle = 1 then some "still attached" else none

/-- An error that stands for a module that is missing. -/
def noModule : Suppress String := ⟨(· = "no module"), true⟩

/-- A setup that is cancelled leaves its listeners to the next one, which has its own, until its
clean-up is run. -/
example :
    let events : List (LifecycleEvent String) :=
      [.setup listening, .cancelled, .setup listening, .forwarded none, .cleanup 0]
    let held (n : ℕ) := (stateAt (step noModule stubborn) start events n).runtimes.map Hooks.held
    held 4 = [[0, 1, 2, 3], [4, 5, 6, 7]] ∧ held 5 = [[], [4, 5, 6, 7]] := by
  decide

/-- Without the event helpers the setup goes on, and nothing is attached. -/
example :
    let input := { listening with importRaises := some "no module" }
    (start.setupEntry noModule stubborn input).2.pending = some (.forwarding 0) ∧
      (start.setupEntry noModule stubborn input).2.pool = .empty := by
  decide

end EntryState

end VacuumPlanner
