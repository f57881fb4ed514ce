import VacuumPlanner.Actions
import VacuumPlanner.Framework.Runs
import VacuumPlanner.Runtime

/-!
# The planning preference

Whether automatic planning is on is kept twice: as an option of the config entry, which a restart
reads, and in the runtime, which `start_next` asks. The switch writes both, under the
coordinator's lock, and takes the option back if its update raises
(`async_set_planning_enabled`). What it writes are the options it read when it was pressed, and
between the press and its turn other presses, a form of options and a reload may come.

So the two copies agree (`preference_follows_option`) as long as a press that is overtaken meets
no trouble: its update returns, and no changed options wait for their reload. Without this
condition an overtaken press takes back the option of another one, or the other options with
it, as the two runs at the end show. Where even the rollback raises, nothing is started until
the next success or the next setup, which reads the option as the two failed updates left it.
-/

namespace VacuumPlanner

open Framework

/-- The options of a config entry. -/
structure EntryOptions where
  planningEnabled : Option Bool
  dryRun : Option Bool
  deriving DecidableEq

/-- `options.get(CONF_PLANNING_ENABLED, True)`. -/
def EntryOptions.planning (options : EntryOptions) : Bool := options.planningEnabled.getD true

/-- A press of the switch that waits for the lock. -/
structure Press where
  enabled : Bool
  previousOptions : EntryOptions
  /-- The runtime of the switch, and its generation. -/
  number : ℕ
  generation : ℕ
  deriving DecidableEq

/-- How `async_update_entry` turns out. One that raises may have stored the options before. -/
inductive EntryUpdate where
  | returns
  | raises (stored : Bool)
  deriving DecidableEq

def EntryOptions.update (options new : EntryOptions) : EntryUpdate → EntryOptions
  | .returns | .raises true => new
  | .raises false => options

/-- `updated_options`. -/
def Press.updatedOptions (press : Press) : EntryOptions :=
  { press.previousOptions with planningEnabled := some press.enabled }

/-- The two copies, with what goes on around them. -/
structure Planning where
  /-- How many times the entry was set up before. -/
  number : ℕ
  flags : RuntimeFlags
  options : EntryOptions
  planningEnabled : Bool
  waiting : List Press
  /-- The form has stored options that no setup has read. -/
  reloading : Bool
  /-- A rollback has raised, and since then no update has gone through and no setup has read the
  options. Kept for the statements. -/
  failedClosed : Bool
  deriving DecidableEq

inductive PlanningEvent where
  | pressed (enabled : Bool)
  /-- A press has the lock; the updates of `commit` and of `rollback`. -/
  | turn (i : ℕ) (commit rollback : EntryUpdate)
  | cancelled (i : ℕ)
  | optionsChanged (options : EntryOptions)
  | topologyLost
  | unloadBegins
  | unloadFailed
  | reloaded (topologyReady : Bool)
  deriving DecidableEq

namespace Planning

/-- A setup. -/
def loaded (number : ℕ) (options : EntryOptions) (topologyReady : Bool) (waiting : List Press) :
    Planning where
  number
  flags := .initial topologyReady
  options
  planningEnabled := options.planning
  waiting
  reloading := false
  failedClosed := false

def start (options : EntryOptions) (topologyReady : Bool) : Planning :=
  loaded 0 options topologyReady []

/-- The guard of a press, on the flags of its own runtime. -/
def Admits (s : Planning) (press : Press) : Prop :=
  -- a runtime that was unloaded takes no commands
  press.number = s.number ∧ s.flags.requireCommandGeneration press.generation = .ok ()

instance (s : Planning) (press : Press) : Decidable (s.Admits press) :=
  inferInstanceAs (Decidable (_ ∧ _))

/-- `update` of `async_set_planning_enabled`. -/
def update (press : Press) (commit rollback : EntryUpdate) (s : Planning) : Planning :=
  match commit with
  | .returns =>
    { s with
      options := press.updatedOptions
      planningEnabled := press.enabled
      failedClosed := false }
  | .raises _ =>
    let options := s.options.update press.updatedOptions commit
    match rollback with
    -- the preference is what it was
    | .returns => { s with options := press.previousOptions }
    | .raises _ =>
      { s with
        options := options.update press.previousOptions rollback
        planningEnabled := false
        failedClosed := true }

/-- One event. An event that cannot happen in the current state is refused. -/
def step : PlanningEvent → Planning → Except Unit Planning
  | .pressed enabled, s =>
    match s.flags.captureCommandGeneration with
    | .error _ => .error ()
    | .ok generation =>
      .ok { s with waiting := s.waiting ++ [⟨enabled, s.options, s.number, generation⟩] }
  | .turn i commit rollback, s =>
    match s.waiting[i]? with
    | none => .error ()
    | some press =>
      let s' := { s with waiting := s.waiting.eraseIdx i }
      .ok (if s.Admits press then s'.update press commit rollback else s')
  | .cancelled i, s => .ok { s with waiting := s.waiting.eraseIdx i }
  | .optionsChanged options, s => .ok { s with options, reloading := true }
  | .topologyLost, s => .ok { s with flags := s.flags.latchTopology }
  | .unloadBegins, s => .ok { s with flags := s.flags.invalidateCommands }
  | .unloadFailed, s =>
    if s.flags.commandActive = false then .ok { s with flags := s.flags.activateCommands }
    else .error ()
  | .reloaded topologyReady, s =>
    if s.flags.commandActive = false then
      .ok (loaded (s.number + 1) s.options topologyReady s.waiting)
    else .error ()

/-- A press that has been overtaken, which is one that has read other options, meets no trouble:
its update returns, and no options wait for their reload. -/
def Calm (s : Planning) : PlanningEvent → Prop
  | .turn i commit _ => ∀ press ∈ s.waiting[i]?, s.Admits press →
      press.previousOptions = s.options ∨ (commit = .returns ∧ s.reloading = false)
  | _ => True

instance (s : Planning) : (event : PlanningEvent) → Decidable (s.Calm event)
  | .turn i commit _ => inferInstanceAs (Decidable (∀ press ∈ s.waiting[i]?, s.Admits press →
      press.previousOptions = s.options ∨ (commit = .returns ∧ s.reloading = false)))
  | .pressed _ | .cancelled _ | .optionsChanged _ | .topologyLost | .unloadBegins
  | .unloadFailed | .reloaded _ => inferInstanceAs (Decidable True)

/-! ### What a press keeps -/

/-- The two copies agree, unless new options wait for their reload or a rollback has raised,
and no press that can still go through has read other options besides the preference. -/
structure Inv (s : Planning) : Prop where
  agrees : s.reloading = false → s.failedClosed = false → s.planningEnabled = s.options.planning
  closed : s.failedClosed = true → s.planningEnabled = false
  numbers : ∀ press ∈ s.waiting, press.number ≤ s.number
  dryRun : s.reloading = false → ∀ press ∈ s.waiting, press.number = s.number →
    press.previousOptions.dryRun = s.options.dryRun

variable {s s' : Planning} {press : Press}

theorem start_inv (options : EntryOptions) (topologyReady : Bool) :
    (start options topologyReady).Inv where
  agrees _ _ := rfl
  closed h := nomatch h
  numbers _ h := absurd h List.not_mem_nil
  dryRun _ _ h := absurd h List.not_mem_nil

/-- Fewer presses wait, or the flags have changed. -/
theorem Inv.fewer (h : s.Inv) (flags : RuntimeFlags) {waiting : List Press}
    (h_waiting : ∀ press ∈ waiting, press ∈ s.waiting) :
    Inv { s with flags, waiting } where
  agrees := h.agrees
  closed := h.closed
  numbers press h_press := h.numbers press (h_waiting press h_press)
  dryRun h_quiet press h_press := h.dryRun h_quiet press (h_waiting press h_press)

theorem Inv.pressed (h : s.Inv) (enabled : Bool) (generation : ℕ) :
    Inv { s with waiting := s.waiting ++ [⟨enabled, s.options, s.number, generation⟩] } where
  agrees := h.agrees
  closed := h.closed
  numbers press h_press := by
    rcases List.mem_append.mp h_press with h_old | h_new
    · exact h.numbers press h_old
    · rw [List.mem_singleton.mp h_new]
  dryRun h_quiet press h_press h_number := by
    rcases List.mem_append.mp h_press with h_old | h_new
    · exact h.dryRun h_quiet press h_old h_number
    · rw [List.mem_singleton.mp h_new]

/-- The presses of the runtimes before wait for nothing. -/
theorem Inv.reloaded (h : s.Inv) (topologyReady : Bool) :
    (loaded (s.number + 1) s.options topologyReady s.waiting).Inv where
  agrees _ _ := rfl
  closed h_closed := nomatch h_closed
  numbers press h_press := (h.numbers press h_press).trans (Nat.le_succ _)
  dryRun _ press h_press h_number := by
    have h_old := h.numbers press h_press
    have h_new : press.number = s.number + 1 := h_number
    omega

/-- An update of a press that is calm changes the preference, at most. -/
theorem Inv.update (commit rollback : EntryUpdate) (h : s.Inv)
    (h_calm : press.previousOptions = s.options ∨ (commit = .returns ∧ s.reloading = false))
    (h_dryRun : s.reloading = false → press.previousOptions.dryRun = s.options.dryRun) :
    (s.update press commit rollback).Inv ∧
      (s.update press commit rollback).options.dryRun = s.options.dryRun := by
  have h_same : press.previousOptions.dryRun = s.options.dryRun := by
    rcases h_calm with h_read | ⟨-, h_quiet⟩
    · rw [h_read]
    · exact h_dryRun h_quiet
  -- whatever has been stored, the other options are those that were read
  have h_inv {t : Planning} (h_t : t.options.dryRun = s.options.dryRun)
      (h_frame : t.reloading = s.reloading ∧ t.waiting = s.waiting ∧ t.number = s.number)
      (h_agrees : t.reloading = false → t.failedClosed = false →
        t.planningEnabled = t.options.planning)
      (h_closed : t.failedClosed = true → t.planningEnabled = false) :
      t.Inv ∧ t.options.dryRun = s.options.dryRun := by
    obtain ⟨h_reloading, h_waiting, h_number⟩ := h_frame
    refine ⟨⟨h_agrees, h_closed, ?_, ?_⟩, h_t⟩
    · rw [h_waiting, h_number]
      exact h.numbers
    · rw [h_reloading, h_waiting, h_number, h_t]
      exact h.dryRun
  unfold Planning.update
  cases commit with
  | returns => exact h_inv h_same ⟨rfl, rfl, rfl⟩ (fun _ _ => rfl) nofun
  | raises stored =>
    -- a press that raises has read the options as they are
    obtain h_read : press.previousOptions = s.options :=
      h_calm.resolve_right fun h_returned => nomatch h_returned.1
    cases rollback with
    | returns =>
      dsimp only
      rw [h_read]
      exact ⟨h, rfl⟩
    | raises stored' =>
      refine h_inv ?_ ⟨rfl, rfl, rfl⟩ nofun fun _ => rfl
      cases stored' with
      | true => exact h_same
      | false =>
        cases stored with
        | true => exact h_same
        | false => rfl

/-- One event of a calm run. -/
theorem Inv.step {event : PlanningEvent} (h : s.Inv) (h_calm : s.Calm event)
    (h_step : step event s = .ok s') : s'.Inv ∧
      ((∀ options, event ≠ .optionsChanged options) → s'.options.dryRun = s.options.dryRun) := by
  unfold Planning.step at h_step
  cases event <;> dsimp only at h_step
  case pressed enabled =>
    split at h_step <;> cases h_step
    next generation _ => exact ⟨h.pressed enabled generation, fun _ => rfl⟩
  case turn i commit rollback =>
    split at h_step <;> cases h_step
    next press h_press =>
      -- the press leaves the queue, whatever comes of it
      have h_fewer : Inv { s with waiting := s.waiting.eraseIdx i } :=
        h.fewer s.flags fun press h_mem => List.mem_of_mem_eraseIdx h_mem
      split
      · next h_admits =>
        have h_next := h_fewer.update commit rollback
          (h_calm press h_press h_admits)
          fun h_quiet => h.dryRun h_quiet press (List.mem_of_getElem? h_press) h_admits.1
        exact ⟨h_next.1, fun _ => h_next.2⟩
      · exact ⟨h_fewer, fun _ => rfl⟩
  case cancelled i =>
    cases h_step
    exact ⟨h.fewer s.flags fun press h_mem => List.mem_of_mem_eraseIdx h_mem, fun _ => rfl⟩
  case optionsChanged options =>
    cases h_step
    exact ⟨⟨nofun, h.closed, h.numbers, nofun⟩, fun h_other => absurd rfl (h_other options)⟩
  case topologyLost | unloadBegins =>
    cases h_step
    exact ⟨h.fewer _ fun _ => id, fun _ => rfl⟩
  case unloadFailed =>
    split at h_step <;> cases h_step
    exact ⟨h.fewer _ fun _ => id, fun _ => rfl⟩
  case reloaded topologyReady =>
    split at h_step <;> cases h_step
    exact ⟨h.reloaded topologyReady, fun _ => rfl⟩

/-! ### Calm runs -/

/-- A planner whose preference is off starts nothing. -/
theorem startNextCommand_paused {call : StartNextCall} (state : PlannerState)
    (h : call.planningEnabled = false) : startNextCommand call state =
      .error (.serviceValidationError "Vacuum Planner is paused") := by
  unfold startNextCommand
  rw [raiseIf, if_pos h]
  rfl

/-- **The preference follows the option** in every calm run, in whatever order the presses, their
turns, the form of options, unloads and setups come, and whatever raises: the preference is the
option, unless new options wait for their reload; after a rollback that raises nothing is
started until an update goes through or the entry is set up again; and the other options change
by the form only. -/
theorem preference_follows_option (options : EntryOptions) (topologyReady : Bool)
    {events : List PlanningEvent}
    (h_run : EachStep step Calm (start options topologyReady) events) (n : ℕ) :
    let s := stateAt step (start options topologyReady) events n
    (s.reloading = false → s.failedClosed = false → s.planningEnabled = s.options.planning) ∧
    (s.failedClosed = true → ∀ call state, call.planningEnabled = s.planningEnabled →
      startNextCommand call state =
        .error (.serviceValidationError "Vacuum Planner is paused")) ∧
    ((∀ options', events[n]? ≠ some (.optionsChanged options')) →
      (stateAt step (start options topologyReady) events (n + 1)).options.dryRun =
        s.options.dryRun) := by
  intro s
  have h_inv : s.Inv :=
    h_run.stateAt (fun _ _ _ h h_calm h_step => (h.step h_calm h_step).1)
      (start_inv options topologyReady) n
  refine ⟨h_inv.agrees, fun h_closed call state h_call => ?_, fun h_other => ?_⟩
  · exact startNextCommand_paused state (h_call.trans (h_inv.closed h_closed))
  -- an event that is refused changes nothing
  · rcases stateAt_succ_cases step (start options topologyReady) events n with
      h_same | ⟨event, h_event, h_step⟩
    · rw [h_same]
    · refine (h_inv.step (h_run.at_step h_event) h_step).2 fun options' h_changed => ?_
      exact h_other options' (h_changed ▸ h_event)

/-- Two presses overlap, and the option of a third cannot be stored. -/
def troubled : List PlanningEvent :=
  [.pressed false, .pressed true, .turn 0 .returns .returns, .turn 0 .returns .returns,
    .pressed false, .turn 0 (.raises true) .returns]

theorem preference_follows_option_troubled :
    (stateAt step (start ⟨none, some true⟩ true) troubled 6).planningEnabled =
      (stateAt step (start ⟨none, some true⟩ true) troubled 6).options.planning :=
  (preference_follows_option ⟨none, some true⟩ true (by decide) 6).1 (by decide) (by decide)

/-- A press that was overtaken takes back the option of the press that overtook it: the planner
goes on planning, and a restart would not. -/
example :
    let s := stateAt step (start ⟨some false, none⟩ true)
      [.pressed true, .pressed false, .turn 0 .returns .returns,
        .turn 0 (.raises false) .returns] 4
    s.planningEnabled = true ∧ s.options.planning = false := by decide

/-- A press from before the form brings back the options from before it, and the reload reads
those. -/
example :
    (stateAt step (start ⟨none, some true⟩ true)
      [.pressed false, .optionsChanged ⟨none, some false⟩, .turn 0 .returns .returns,
        .unloadBegins, .reloaded true] 5).options = ⟨some false, some true⟩ := by decide

/-- After a rollback that raises, a setup plans again as the option says. -/
example :
    (stateAt step (start ⟨none, some true⟩ true)
      [.pressed false, .turn 0 (.raises false) (.raises false), .unloadBegins,
        .reloaded true] 4).planningEnabled = true := by decide

end Planning

end VacuumPlanner
