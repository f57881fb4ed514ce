import VacuumPlanner.Commands

/-!
# The flags of a runtime

What `VacuumPlannerRuntimeData` keeps to tell live work from stale work: whether the
topology is still ready, and a generation for commands and one for observations, each
with a switch. A command captures the command generation when it is resolved
(`captureCommandGeneration`) and asks for it again around every await
(`requireCommandGeneration`); an unload and a latched topology make the question fail.

The one fact the protocols need is that it keeps failing. A generation is `Expired` once
the topology is latched or a later generation has begun, and every operation on the flags
only moves them forward (`Later`), so what has expired stays expired.
-/

namespace VacuumPlanner

open Framework

structure RuntimeFlags where
  topologyReady : Bool
  observationGeneration : ℕ
  observationActive : Bool
  commandGeneration : ℕ
  commandActive : Bool
  deriving DecidableEq

/-- `RuntimeInactiveError` as every check raises it. -/
def runtimeInactive : PyError :=
  .runtimeInactiveError "Vacuum Planner runtime is no longer active"

/-- `TopologyNotReadyError` as every check raises it. -/
def topologyNotReady : PyError :=
  .topologyNotReadyError
    "Vacuum Planner topology is not ready; repair the reported issue and reload the config entry"

namespace RuntimeFlags

/-- The flags `async_setup_entry` builds, before the observer is bound. -/
def initial (topologyReady : Bool) : RuntimeFlags where
  topologyReady
  observationGeneration := 0
  observationActive := false
  commandGeneration := 0
  commandActive := true

/-- `capture_command_generation`. -/
def captureCommandGeneration (flags : RuntimeFlags) : Except PyError ℕ := do
  raiseIf (flags.commandActive = false) runtimeInactive
  raiseIf (flags.topologyReady = false) topologyNotReady
  return flags.commandGeneration

/-- `require_runtime_generation`. -/
def requireRuntimeGeneration (flags : RuntimeFlags) (generation : ℕ) : Except PyError Unit :=
  raiseIf (flags.commandActive = false ∨ flags.commandGeneration ≠ generation) runtimeInactive

/-- `require_command_generation`. -/
def requireCommandGeneration (flags : RuntimeFlags) (generation : ℕ) : Except PyError Unit := do
  flags.requireRuntimeGeneration generation
  raiseIf (flags.topologyReady = false) topologyNotReady

/-- `invalidate_observations`. -/
def invalidateObservations (flags : RuntimeFlags) : RuntimeFlags :=
  { flags with
    observationGeneration :=
      if flags.observationActive then flags.observationGeneration + 1
      else flags.observationGeneration
    observationActive := false }

/-- `invalidate_commands`. -/
def invalidateCommands (flags : RuntimeFlags) : RuntimeFlags :=
  { flags with
    commandGeneration :=
      if flags.commandActive then flags.commandGeneration + 1 else flags.commandGeneration
    commandActive := false }

/-- `activate_commands`. -/
def activateCommands (flags : RuntimeFlags) : RuntimeFlags :=
  { flags with commandGeneration := flags.commandGeneration + 1, commandActive := true }

/-- `bind_state`: invalidate what was queued for the previous entity, then listen. -/
def bindState (flags : RuntimeFlags) : RuntimeFlags :=
  { flags.invalidateObservations with observationActive := true }

/-- What `fail_closed` and the two `_resolve_command_` functions do to the flags when the
topology is lost. -/
def latchTopology (flags : RuntimeFlags) : RuntimeFlags :=
  { flags with topologyReady := false }.invalidateObservations

/-- `shutdown_runtime`. -/
def shutdownRuntime (flags : RuntimeFlags) : RuntimeFlags :=
  flags.invalidateCommands.invalidateObservations

/-! ### When the checks pass -/

variable {flags flags' : RuntimeFlags} {generation : ℕ}

theorem requireRuntimeGeneration_eq_ok :
    flags.requireRuntimeGeneration generation = .ok () ↔
      flags.commandActive = true ∧ flags.commandGeneration = generation := by
  unfold requireRuntimeGeneration
  rw [raiseIf_eq_ok, not_or, Bool.not_eq_false, not_not]

theorem requireCommandGeneration_eq_ok :
    flags.requireCommandGeneration generation = .ok () ↔
      flags.commandActive = true ∧ flags.commandGeneration = generation ∧
        flags.topologyReady = true := by
  unfold requireCommandGeneration
  rw [seq_eq_ok, requireRuntimeGeneration_eq_ok, raiseIf_eq_ok, Bool.not_eq_false, and_assoc]

/-! ### Expired generations -/

/-- No check of this generation passes any more. -/
def Expired (flags : RuntimeFlags) (generation : ℕ) : Prop :=
  flags.topologyReady = false ∨ generation < flags.commandGeneration

theorem not_expired (h : flags.requireCommandGeneration generation = .ok ()) :
    ¬ flags.Expired generation := by
  obtain ⟨-, h_gen, h_ready⟩ := requireCommandGeneration_eq_ok.mp h
  rintro (h_latched | h_lt)
  · exact absurd (h_ready.symm.trans h_latched) Bool.noConfusion
  · exact absurd h_gen h_lt.ne'

/-- The flags move forward: a latch is never lifted, a generation never comes back. -/
structure Later (flags flags' : RuntimeFlags) : Prop where
  topology : flags.topologyReady = false → flags'.topologyReady = false
  generation : flags.commandGeneration ≤ flags'.commandGeneration

theorem Later.refl (flags : RuntimeFlags) : Later flags flags := ⟨id, le_refl _⟩

theorem Expired.later (h : flags.Expired generation) (h_later : Later flags flags') :
    flags'.Expired generation :=
  h.imp h_later.topology fun h_lt => h_lt.trans_le h_later.generation

theorem latchTopology_later (flags : RuntimeFlags) : Later flags flags.latchTopology :=
  ⟨fun _ => rfl, le_refl _⟩

theorem activateCommands_later (flags : RuntimeFlags) : Later flags flags.activateCommands :=
  ⟨id, Nat.le_succ _⟩

theorem invalidateCommands_later (flags : RuntimeFlags) :
    Later flags flags.invalidateCommands := by
  refine ⟨id, ?_⟩
  unfold invalidateCommands
  dsimp only
  split
  · exact Nat.le_succ _
  · exact le_refl _

/-- The observations have no part in it. -/
theorem shutdownRuntime_later (flags : RuntimeFlags) : Later flags flags.shutdownRuntime :=
  ⟨(invalidateCommands_later flags).topology, (invalidateCommands_later flags).generation⟩

end RuntimeFlags

end VacuumPlanner
