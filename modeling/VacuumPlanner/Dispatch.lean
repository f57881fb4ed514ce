import VacuumPlanner.Boundary
import VacuumPlanner.Persistence

/-!
# A runtime and its dispatches

One loaded runtime with everything that runs on it: the calls of its coordinator, the
reports of its observer, and the coroutines of `_async_dispatch_created_block`, each at
its own `Stage`. The stages are the places where a dispatch can be suspended. Between two
of them a dispatch runs without interruption, and anything may happen while it waits.

The calls are those of `Coordinator`: `Runtime.enter` runs `Call.prepare`, and
`Runtime.resume` asks the guard once more before it assigns the state. What a call does
for its caller when it returns or raises is `Runtime.returned` and `Runtime.raised`, by
the `Task` it was made for.

An `Act` is one uninterrupted stretch of work. Its effect on the world outside is a write
of the store or the beginning of a service call (`Effect`); everything else it does is to
the runtime itself.
-/

namespace VacuumPlanner

open Framework

/-! ### Dispatches -/

/-- Where a dispatch is. -/
inductive Stage where
  /-- `start_next` has returned a block to dispatch. -/
  | created
  /-- The preflight has passed and chosen the cleaning mode to select, if any. -/
  | ready (modeOption : Option String)
  | claiming
  | claimed (modeOption : Option String)
  | selecting
  | selected
  | cleaning
  | cleaned
  | accepting
  /-- The outcome is ambiguous: the block is to be quarantined. -/
  | ambiguous
  | quarantining
  | finished
  deriving DecidableEq

structure Dispatch where
  blockId : String
  jobs : List QueueJob
  /-- The command generation `start_next` captured. -/
  generation : ℕ
  stage : Stage
  deriving DecidableEq

/-- The external calls of a dispatch. -/
inductive Service where
  | selectOption
  | cleanArea
  deriving DecidableEq

/-- The external call `async_dispatch_after_preflight` makes next, and where it leads. -/
def Stage.nextCall : Stage → Option (Service × Stage)
  | .claimed (some _) => some (.selectOption, .selecting)
  -- without a mode to select `clean_area` is the first call
  | .claimed none | .selected => some (.cleanArea, .cleaning)
  | _ => none

/-- Where the return of an external call leads. -/
def Stage.afterCall : Stage → Option Stage
  | .selecting => some .selected
  | .cleaning => some .cleaned
  | _ => none

/-- Where `_async_run_ambiguous_operation` leads when the operation raises. -/
def Stage.interrupted : PyError → Stage
  -- another runtime may own the block by now: hands off
  | .runtimeInactiveError _ => .finished
  | _ => .ambiguous

/-! ### Calls -/

/-- The mutations a user makes on a plan or a queue. -/
inductive Mutation where
  | skipAreaToday (zoneInfo : String → Option (Instant → Instant)) (areaId : String)
      (now : Instant) (timeZone revisionId : String)
  | postponeArea (areaId : String) (now : Instant) (days : ℤ) (revisionId : String)
  | cancelBlock (blockId : String) (now : Instant)
  | resolveUncertainRun (jobId : String) (resolution : UncertainResolution) (now : Instant)
  | setNativeValue (number : RoomNumber) (areaId : String) (value : PyFloat) (now : Instant)
      (revisionId : String)

def Mutation.run : Mutation → PlannerState → Except PyError PlannerState
  | .skipAreaToday zoneInfo areaId now timeZone revisionId, s =>
    VacuumPlanner.skipAreaToday zoneInfo s areaId now timeZone revisionId
  | .postponeArea areaId now days revisionId, s =>
    VacuumPlanner.postponeArea s areaId now days revisionId
  | .cancelBlock blockId now, s => cancelPendingBlock s blockId now
  | .resolveUncertainRun jobId resolution now, s =>
    VacuumPlanner.resolveUncertainRun s jobId resolution now
  | .setNativeValue number areaId value now revisionId, s =>
    VacuumPlanner.setNativeValue number areaId value now revisionId s

abbrev PlannerCall := Call PlannerState RuntimeFlags PyError

/-- `async_apply_observation`: no guard, but a report of another observation generation
changes nothing. -/
def observationCall (outcome : ObservationOutcome) (observedAt : Instant)
    (revisionIds : ℕ → String) (generation : Option ℕ) : PlannerCall where
  command flags state :=
    (if ∃ g ∈ generation, flags.observationActive = false ∨ flags.observationGeneration ≠ g then
      .ok state
    else observe outcome observedAt revisionIds state, flags)
  guard := none

/-- `_async_quarantine_dispatch`: under the runtime generation, whatever the topology. -/
def quarantineCall (blockId : String) (reconciledAt : Instant) (generation : ℕ) :
    PlannerCall where
  command flags state := (recordUncertain state blockId reconciledAt, flags)
  guard := some fun flags => flags.requireRuntimeGeneration generation

/-- What a call is made for. -/
inductive Task where
  /-- The seal command of `start_next`, with what it left in its closure. -/
  | startNext (generation : ℕ) (outcome : Option SealOutcome)
  | mutation
  | observation
  | claim (dispatch : ℕ) (modeOption : Option String)
  | acceptance (dispatch : ℕ)
  | quarantine (dispatch : ℕ)
  deriving DecidableEq

/-- The caller of the call can be cancelled: a report and a quarantine run as tasks of
their own, and `_async_quarantine_dispatch` shields the latter. -/
def Task.cancellable : Task → Bool
  | .startNext _ _ | .mutation | .claim _ _ | .acceptance _ => true
  | .observation | .quarantine _ => false

/-- A call that holds the lock while its save is pending. -/
structure Held where
  task : Task
  call : PlannerCall
  updated : PlannerState
  saved : Bool

/-! ### The runtime -/

structure Runtime where
  /-- How many runtimes have loaded the store, this one included. -/
  number : ℕ
  dryRun : Bool
  flags : RuntimeFlags
  state : PlannerState
  holder : Option Held
  dispatches : List Dispatch
  /-- The tasks of `fail_closed` that have not reached the lock, by their timestamp. -/
  quarantines : List Instant

namespace Runtime

/-- The runtime `async_setup_entry` builds on a loaded state. -/
def fresh (number : ℕ) (dryRun topologyReady : Bool) (state : PlannerState) : Runtime where
  number
  dryRun
  flags := (RuntimeFlags.initial topologyReady).bindState
  state
  holder := none
  dispatches := []
  quarantines := []

def setStage (r : Runtime) (i : ℕ) (stage : Stage) : Runtime :=
  { r with dispatches := r.dispatches.modify i fun d => { d with stage } }

/-- `has_active_external_work`. -/
def hasActiveExternalWork (r : Runtime) : Bool :=
  (r.state.ledger.blocks.any fun block =>
      block.state ∈ [BlockState.committing, .committed, .running]) ||
    r.state.ledger.jobs.any fun job =>
      job.state ∈ [JobState.dispatching, .accepted, .running]

/-- `fail_closed`. -/
def failClosed (r : Runtime) (observedAt : Instant) : Runtime :=
  if r.flags.topologyReady = false then r
  else
    { r with
      flags := r.flags.latchTopology
      -- the task that is scheduled when there is something to quarantine
      quarantines :=
        if r.hasActiveExternalWork then r.quarantines ++ [observedAt] else r.quarantines }

/-- What the caller of a call does once it has returned. `changed` says whether the command
changed the state; a claim that did is a claim that claimed. -/
def returned (r : Runtime) (changed : Bool) : Task → Runtime
  | .startNext generation (some (.result result)) =>
    match result.block with
    | some block =>
      -- a dry run seals the block and sends nothing
      if r.dryRun then r
      else { r with
        dispatches := r.dispatches ++ [⟨block.blockId, result.jobs, generation, .created⟩] }
    | none => r
  | .startNext _ _ | .mutation | .observation => r
  | .claim i modeOption => r.setStage i (if changed then .claimed modeOption else .finished)
  | .acceptance i | .quarantine i => r.setStage i .finished

/-- What the caller of a call does once it has raised. -/
def raised (r : Runtime) (e : PyError) : Task → Runtime
  | .startNext _ _ | .mutation | .observation => r
  | .claim i _ | .quarantine i => r.setStage i .finished
  -- the call runs inside `_async_run_ambiguous_operation`
  | .acceptance i => r.setStage i (.interrupted e)

/-- A call acquires the lock. -/
def enter (r : Runtime) (task : Task) (call : PlannerCall) : Runtime :=
  match (call.prepare r.flags r.state).1 with
  | .error e => r.raised e task
  | .ok none => r.returned false task
  | .ok (some updated) => { r with holder := some ⟨task, call, updated, false⟩ }

/-- The save of the call that holds the lock has returned. -/
def resume (r : Runtime) (held : Held) : Runtime :=
  match held.call.check r.flags with
  -- the guard comes after the save: what is on disk is not assigned
  | .error e => { r with holder := none }.raised e held.task
  | .ok () => { r with holder := none, state := held.updated }.returned true held.task

end Runtime

/-! ### What happens on a runtime -/

inductive Act where
  /-- The two `_resolve_command_` functions lose the topology. -/
  | latchTopology
  /-- A listener loses the topology. -/
  | failClosed (observedAt : Instant)
  | startNext (call : StartNextCall) (generation : ℕ)
  | mutate (mutation : Mutation) (generation : ℕ)
  | observe (outcome : ObservationOutcome) (observedAt : Instant) (revisionIds : ℕ → String)
      (generation : ℕ)
  /-- A task of `fail_closed` reaches the lock. -/
  | quarantineAll (task : ℕ)
  | preflight (dispatch : ℕ) (result : Except PyError (Option String))
  | claim (dispatch : ℕ) (now : Instant)
  | callService (dispatch : ℕ)
  | serviceReturned (dispatch : ℕ)
  /-- The service raises, or the caller is cancelled while it waits. -/
  | serviceRaised (dispatch : ℕ)
  | accept (dispatch : ℕ) (acceptedAt : Instant)
  | quarantine (dispatch : ℕ) (reconciledAt : Instant)
  | saved
  | saveRaised (e : PyError)
  | resumed
  /-- The caller of a dispatch that waits for the lock is cancelled. -/
  | cancelWaiting (dispatch : ℕ)
  /-- The caller of the call that holds the lock is cancelled. -/
  | cancelHolder

/-- The call an act makes, its task, and the runtime that waits for it. -/
def Act.request (r : Runtime) : Act → Option (Runtime × Task × PlannerCall)
  | .startNext call generation =>
    let call := { call with dryRun := r.dryRun }
    let outcome := ((startNextCommand call r.state).map Prod.snd).toOption
    some (r, .startNext generation outcome,
      guardedCall generation fun s => (startNextCommand call s).map Prod.fst)
  | .mutate mutation generation => some (r, .mutation, guardedCall generation mutation.run)
  | .observe outcome observedAt revisionIds generation =>
    some (r, .observation, observationCall outcome observedAt revisionIds (some generation))
  | .quarantineAll task =>
    match r.quarantines[task]? with
    | some observedAt =>
      some ({ r with quarantines := r.quarantines.eraseIdx task }, .observation,
        observationCall .uncertain observedAt (fun _ => "") none)
    | none => none
  | .claim i now =>
    match r.dispatches[i]? with
    | some ⟨blockId, _, generation, .ready modeOption⟩ =>
      some (r.setStage i .claiming, .claim i modeOption,
        guardedCall generation fun s => (nativeDispatchClaim blockId now s).map Prod.fst)
    | _ => none
  | .accept i acceptedAt =>
    match r.dispatches[i]? with
    | some ⟨blockId, jobs, generation, .cleaned⟩ =>
      some (r.setStage i .accepting, .acceptance i,
        guardedCall generation fun s => recordDispatchAcceptance s blockId jobs acceptedAt)
    | _ => none
  | .quarantine i reconciledAt =>
    match r.dispatches[i]? with
    | some ⟨blockId, _, generation, .ambiguous⟩ =>
      some (r.setStage i .quarantining, .quarantine i,
        quarantineCall blockId reconciledAt generation)
    | _ => none
  | _ => none

/-- What an act does outside its runtime. -/
inductive Effect where
  | write (state : PlannerState)
  | begins (service : Service) (dispatch : Dispatch)
  deriving DecidableEq

/-- `before_side_effect`, then the external call. -/
def Runtime.callService (r : Runtime) (i : ℕ) (d : Dispatch) (service : Service)
    (next : Stage) : Runtime × Option Effect :=
  match r.flags.requireCommandGeneration d.generation with
  | .error e => (r.setStage i (.interrupted e), none)
  | .ok () => (r.setStage i next, some (.begins service d))

/-- One act. An act that cannot happen in the current state is refused. -/
def Runtime.step (r : Runtime) : Act → Except Unit (Runtime × Option Effect)
  | .latchTopology => .ok ({ r with flags := r.flags.latchTopology }, none)
  | .failClosed observedAt => .ok (r.failClosed observedAt, none)
  | .preflight i result =>
    match r.dispatches[i]? with
    | some ⟨_, _, _, .created⟩ =>
      match result with
      | .ok modeOption => .ok (r.setStage i (.ready modeOption), none)
      | .error _ => .ok (r.setStage i .finished, none)
    | _ => .error ()
  | .callService i =>
    match r.dispatches[i]? with
    | some d =>
      match d.stage.nextCall with
      | some (service, next) => .ok (r.callService i d service next)
      | none => .error ()
    | none => .error ()
  | .serviceReturned i =>
    match r.dispatches[i]? with
    | some d =>
      match d.stage.afterCall with
      | some next => .ok (r.setStage i next, none)
      | none => .error ()
    | none => .error ()
  | .serviceRaised i =>
    match r.dispatches[i]? with
    | some d =>
      match d.stage.afterCall with
      | some _ => .ok (r.setStage i .ambiguous, none)
      | none => .error ()
    | none => .error ()
  | .saved =>
    match r.holder with
    | some ⟨task, call, updated, false⟩ =>
      .ok ({ r with holder := some ⟨task, call, updated, true⟩ }, some (.write updated))
    | _ => .error ()
  | .saveRaised e =>
    match r.holder with
    | some ⟨task, _, _, false⟩ => .ok ({ r with holder := none }.raised e task, none)
    | _ => .error ()
  | .resumed =>
    match r.holder with
    | some ⟨task, call, updated, true⟩ => .ok (r.resume ⟨task, call, updated, true⟩, none)
    | _ => .error ()
  | .cancelWaiting i =>
    match r.dispatches[i]? with
    | some ⟨_, _, _, .ready _⟩ => .ok (r.setStage i .finished, none)
    | some ⟨_, _, _, .cleaned⟩ => .ok (r.setStage i (.interrupted .cancelledError), none)
    | _ => .error ()
  | .cancelHolder =>
    match r.holder with
    | some held =>
      if held.task.cancellable then
        .ok ({ r with holder := none }.raised .cancelledError held.task, none)
      else .error ()
    | none => .error ()
  | act =>
    match r.holder, act.request r with
    | none, some (waiting, task, call) => .ok (waiting.enter task call, none)
    | _, _ => .error ()

end VacuumPlanner
