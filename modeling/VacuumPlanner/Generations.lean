import VacuumPlanner.Dispatch
import VacuumPlanner.Framework.Epoch

/-!
# Invalidated work is not revived

The two generations of a runtime are two epochs (`RuntimeFlags.commands`,
`RuntimeFlags.observations`), and what the code does to a pair of flag and counter is one of
the three ways of ending an epoch.

`Observer` is `_subscribe_observer` with the generations its bindings gave to their
listeners. A binding computes that generation before it ends the epoch of the binding it
replaces, so the question is whether the value it guesses is the one the counter then has,
and whether an earlier listener holds it already. `bound` is not kept by the code: it is the
binding that nothing has ended yet.
-/

namespace VacuumPlanner

open Framework

namespace RuntimeFlags

def commands (flags : RuntimeFlags) : Epoch := ⟨flags.commandGeneration, flags.commandActive⟩

def observations (flags : RuntimeFlags) : Epoch :=
  ⟨flags.observationGeneration, flags.observationActive⟩

variable {flags : RuntimeFlags} {generation : ℕ}

theorem commands_invalidate (flags : RuntimeFlags) :
    flags.invalidateCommands.commands = flags.commands.close := rfl

theorem commands_activate (flags : RuntimeFlags) :
    flags.activateCommands.commands = flags.commands.advance := rfl

theorem observations_invalidate (flags : RuntimeFlags) :
    flags.invalidateObservations.observations = flags.observations.close := rfl

theorem observations_bind (flags : RuntimeFlags) :
    flags.bindState.observations = flags.observations.reopen := rfl

theorem requireRuntimeGeneration_accepts :
    flags.requireRuntimeGeneration generation = .ok () ↔ flags.commands.Accepts generation :=
  requireRuntimeGeneration_eq_ok

/-- A generation is captured from an open epoch. -/
theorem captured_accepts (h : flags.captureCommandGeneration = .ok generation) :
    flags.commands.Accepts generation := by
  unfold captureCommandGeneration at h
  simp only [seq_eq_ok, raiseIf_eq_ok, pure_eq_ok] at h
  obtain ⟨h_active, -, rfl⟩ := h
  exact ⟨Bool.eq_true_of_not_eq_false h_active, rfl⟩

end RuntimeFlags

/-! ### The observer of a runtime -/

structure Observer where
  flags : RuntimeFlags
  /-- `active` of `_subscribe_observer`. -/
  subscribed : Bool
  /-- The generation each binding gave to its listener, in the order of the bindings. -/
  listeners : List ℕ
  /-- The last binding, until the observations are invalidated. -/
  bound : Option ℕ

inductive FlagEvent where
  | capture
  | invalidateCommands
  | activateCommands
  | invalidateObservations
  | bindState
  | failClosed
  | unsubscribe
  | shutdownRuntime
  deriving DecidableEq

namespace Observer

/-- A runtime whose observer has bound nothing yet. -/
def start (topologyReady : Bool) : Observer where
  flags := .initial topologyReady
  subscribed := true
  listeners := []
  bound := none

/-- `bind_state`. The generation of the new listener is computed first. -/
def bindState (o : Observer) : Observer :=
  if o.subscribed = false then o
  else
    let generation := o.flags.observationGeneration + o.flags.observationActive.toNat
    { o with
      flags := o.flags.bindState
      listeners := o.listeners ++ [generation]
      bound := some o.listeners.length }

/-- `unsubscribe`. -/
def unsubscribe (o : Observer) : Observer :=
  if o.subscribed = false then o
  else { o with subscribed := false, flags := o.flags.invalidateObservations, bound := none }

def step (o : Observer) : FlagEvent → Observer
  | .capture => o
  | .invalidateCommands => { o with flags := o.flags.invalidateCommands }
  | .activateCommands => { o with flags := o.flags.activateCommands }
  | .invalidateObservations =>
    { o with flags := o.flags.invalidateObservations, bound := none }
  | .bindState => o.bindState
  | .failClosed =>
    if o.flags.topologyReady = false then o
    else { o with flags := o.flags.latchTopology, bound := none }
  | .unsubscribe => o.unsubscribe
  | .shutdownRuntime => { o with flags := o.flags.shutdownRuntime, bound := none }.unsubscribe

def run (o : Observer) (events : List FlagEvent) : Observer := events.foldl step o

end Observer

/-- The events with `invalidate_commands` or `activate_commands` in them. -/
def FlagEvent.endsCommands : FlagEvent → Bool
  | .invalidateCommands | .activateCommands | .shutdownRuntime => true
  | .capture | .invalidateObservations | .bindState | .failClosed | .unsubscribe => false

namespace Observer

variable {o : Observer} {event : FlagEvent} {generation : ℕ}

/-! ### Commands -/

/-- What an event does to the command epoch: it leaves it alone, closes it or advances it. -/
theorem step_commands (o : Observer) (event : FlagEvent) :
    (event.endsCommands = false ∧ (o.step event).flags.commands = o.flags.commands) ∨
      (event.endsCommands = true ∧ (o.step event).flags.commands.Supersedes o.flags.commands) := by
  have h_unsubscribe (o : Observer) : o.unsubscribe.flags.commands = o.flags.commands := by
    unfold unsubscribe
    split <;> rfl
  cases event with
  | capture => exact Or.inl ⟨rfl, rfl⟩
  | invalidateObservations => exact Or.inl ⟨rfl, rfl⟩
  | bindState =>
    refine Or.inl ⟨rfl, ?_⟩
    dsimp only [step, bindState]
    split <;> rfl
  | failClosed =>
    -- losing the topology ends the observations only
    refine Or.inl ⟨rfl, ?_⟩
    dsimp only [step]
    split <;> rfl
  | unsubscribe => exact Or.inl ⟨rfl, h_unsubscribe o⟩
  -- the three events that end the commands given out before them
  | invalidateCommands =>
    refine Or.inr ⟨rfl, ?_⟩
    show o.flags.invalidateCommands.commands.Supersedes o.flags.commands
    rw [RuntimeFlags.commands_invalidate]
    exact Epoch.close_supersedes o.flags.commands
  | activateCommands =>
    refine Or.inr ⟨rfl, ?_⟩
    show o.flags.activateCommands.commands.Supersedes o.flags.commands
    rw [RuntimeFlags.commands_activate]
    exact Epoch.advance_supersedes o.flags.commands
  | shutdownRuntime =>
    refine Or.inr ⟨rfl, ?_⟩
    dsimp only [step]
    rw [h_unsubscribe]
    exact Epoch.close_supersedes o.flags.commands

theorem run_commands_le (o : Observer) (events : List FlagEvent) :
    o.flags.commands.value ≤ (o.run events).flags.commands.value := by
  induction events generalizing o with
  | nil => exact le_refl _
  | cons event events ih =>
    refine le_trans ?_ (ih (o.step event))
    rcases step_commands o event with ⟨-, h_same⟩ | ⟨-, h_ended⟩
    · rw [h_same]
    · exact h_ended.value_le

/-- A generation that is still accepted has seen no end of its epoch. -/
theorem not_ended_of_accepted {events : List FlagEvent}
    (h : o.flags.commands.Accepts generation)
    (h_now : (o.run events).flags.commands.Accepts generation) :
    ∀ event ∈ events, event.endsCommands = false := by
  induction events generalizing o with
  | nil => exact fun _ h_event => absurd h_event List.not_mem_nil
  | cons event events ih =>
    rcases step_commands o event with ⟨h_keeps, h_same⟩ | ⟨-, h_ended⟩
    · rw [List.forall_mem_cons]
      exact ⟨h_keeps, ih (by rw [h_same]; exact h) h_now⟩
    · have h_later := run_commands_le (o.step event) events
      exact absurd h_now (Epoch.not_accepts_of_supersedes h h_ended h_later)

/-! ### Observations -/

/-- The generations of the listeners: none is given out twice or ahead of time, and the
counter has the value of the binding nothing has ended. -/
structure Sound (o : Observer) : Prop where
  issued : ∀ generation ∈ o.listeners, generation < o.flags.observations.next
  distinct : o.listeners.Nodup
  /-- Only a binding opens the epoch. -/
  closed : o.bound = none → o.flags.observationActive = false
  current : ∀ i, o.bound = some i → ∃ generation, o.listeners[i]? = some generation ∧
    o.flags.observations.Accepts generation

theorem Sound.start (topologyReady : Bool) : (start topologyReady).Sound where
  issued _ h := absurd h List.not_mem_nil
  distinct := List.nodup_nil
  closed _ := rfl
  current _ h := nomatch h

/-- The value a binding computes ahead is the one the counter then has. -/
theorem ahead_eq_next (flags : RuntimeFlags) :
    flags.observationGeneration + flags.observationActive.toNat = flags.observations.next := by
  unfold Epoch.next RuntimeFlags.observations
  cases flags.observationActive <;> rfl

theorem Sound.bindState (h : o.Sound) : o.bindState.Sound := by
  unfold Observer.bindState
  split
  · exact h
  · rw [ahead_eq_next]
    refine ⟨fun generation h_generation => ?_, ?_, fun h_none => (nomatch h_none),
      fun i h_i => ?_⟩
    · -- the new token is the old `next`, and all others are below it
      have h_next : o.flags.bindState.observations.next = o.flags.observations.next + 1 := by
        rw [RuntimeFlags.observations_bind, Epoch.next_reopen]
      rw [h_next]
      rcases List.mem_append.mp h_generation with h_old | h_new
      · exact (h.issued generation h_old).trans (Nat.lt_succ_self _)
      · rw [List.mem_singleton.mp h_new]
        exact Nat.lt_succ_self _
    · rw [List.nodup_append]
      refine ⟨h.distinct, List.nodup_singleton _, fun old h_old new h_new => ?_⟩
      rw [List.mem_singleton.mp h_new]
      exact (h.issued old h_old).ne
    · obtain rfl := Option.some.inj h_i
      exact ⟨_, List.getElem?_concat_length, rfl, rfl⟩

/-- The observations are invalidated. -/
theorem Sound.invalidated {o' : Observer} (h : o.Sound) (h_listeners : o'.listeners = o.listeners)
    (h_flags : o'.flags.observations = o.flags.observations.close) (h_bound : o'.bound = none) :
    o'.Sound := by
  refine ⟨?_, ?_, fun _ => congrArg Epoch.active h_flags, fun i h_i => ?_⟩
  · rw [h_listeners, h_flags, Epoch.next_close]
    exact h.issued
  · rw [h_listeners]
    exact h.distinct
  · rw [h_bound] at h_i
    exact nomatch h_i

theorem Sound.unsubscribe (h : o.Sound) : o.unsubscribe.Sound := by
  unfold Observer.unsubscribe
  split
  · exact h
  · exact h.invalidated rfl rfl rfl

theorem Sound.step (h : o.Sound) (event : FlagEvent) : (o.step event).Sound := by
  cases event with
  | capture => exact h
  | invalidateCommands => exact ⟨h.issued, h.distinct, h.closed, h.current⟩
  | activateCommands => exact ⟨h.issued, h.distinct, h.closed, h.current⟩
  | invalidateObservations =>
    exact h.invalidated rfl (RuntimeFlags.observations_invalidate o.flags) rfl
  | bindState => exact h.bindState
  | failClosed =>
    dsimp only [Observer.step]
    split
    · exact h
    · exact h.invalidated rfl rfl rfl
  | unsubscribe => exact h.unsubscribe
  | shutdownRuntime =>
    refine Sound.unsubscribe ?_
    exact h.invalidated rfl rfl rfl

theorem Sound.run (h : o.Sound) (events : List FlagEvent) : (o.run events).Sound := by
  induction events generalizing o with
  | nil => exact h
  | cons event events ih => exact ih (h.step event)

/-- The counter accepts the generation of one listener only: that of the binding nothing
has ended. -/
theorem Sound.bound_of_accepted {i : ℕ} (h : o.Sound) (h_i : o.listeners[i]? = some generation)
    (h_accepted : o.flags.observations.Accepts generation) : o.bound = some i := by
  cases h_bound : o.bound with
  | none => exact absurd (h_accepted.1.symm.trans (h.closed h_bound)) Bool.noConfusion
  | some j =>
    obtain ⟨generation', h_j, -, h_value⟩ := h.current j h_bound
    obtain rfl : generation = generation' := h_accepted.2.symm.trans h_value
    obtain ⟨h_lt, -⟩ := List.getElem?_eq_some_iff.mp h_i
    rw [(List.getElem?_inj h_lt h.distinct).mp (h_i.trans h_j.symm)]

end Observer

/-- A report that is not of the current observation generation changes nothing. -/
theorem observationCall_stale {flags : RuntimeFlags} {generation : ℕ}
    (outcome : ObservationOutcome) (observedAt : Instant) (revisionIds : ℕ → String)
    (state : PlannerState) (h : ¬ flags.observations.Accepts generation) :
    (observationCall outcome observedAt revisionIds (some generation)).command flags state =
      (.ok state, flags) := by
  have h_stale : flags.observationActive = false ∨ flags.observationGeneration ≠ generation := by
    by_contra h_current
    rw [not_or, Bool.not_eq_false, not_not] at h_current
    exact h h_current
  dsimp only [observationCall]
  rw [if_pos ⟨generation, rfl, h_stale⟩]

/-- **Invalidated work is never revived.** A command generation is accepted after its capture
only if no invalidation and no activation happened since, and a report queued under one
binding is applied only while nothing has ended that binding. -/
theorem generations_never_revived (topologyReady : Bool) (events later : List FlagEvent) :
    (∀ generation,
      ((Observer.start topologyReady).run events).flags.captureCommandGeneration =
        .ok generation →
      ((Observer.start topologyReady).run (events ++ later)).flags.requireRuntimeGeneration
        generation = .ok () → ∀ event ∈ later, event.endsCommands = false) ∧
    ((Observer.start topologyReady).run events).listeners.Nodup ∧
    ∀ (i generation : ℕ),
      ((Observer.start topologyReady).run events).listeners[i]? = some generation →
      ((Observer.start topologyReady).run events).bound ≠ some i →
      ∀ (outcome : ObservationOutcome) (observedAt : Instant) (revisionIds : ℕ → String)
        (state : PlannerState),
        (observationCall outcome observedAt revisionIds (some generation)).command
            ((Observer.start topologyReady).run events).flags state =
          (.ok state, ((Observer.start topologyReady).run events).flags) := by
  have h_sound := (Observer.Sound.start topologyReady).run events
  refine ⟨fun generation h_captured h_accepted => ?_, h_sound.distinct,
    fun i generation h_i h_ended outcome observedAt revisionIds state => ?_⟩
  · -- an event that ends commands moves the epoch past the captured generation for good
    have h_run : (Observer.start topologyReady).run (events ++ later) =
        ((Observer.start topologyReady).run events).run later := List.foldl_append
    rw [h_run] at h_accepted
    exact Observer.not_ended_of_accepted (RuntimeFlags.captured_accepts h_captured)
      (RuntimeFlags.requireRuntimeGeneration_accepts.mp h_accepted)
  · -- a report whose binding has ended is not accepted, and a stale report is a no-op
    apply observationCall_stale
    intro h_accepted
    exact h_ended (h_sound.bound_of_accepted h_i h_accepted)

/-- A report of the binding nothing has ended is applied. -/
theorem observationCall_current {o : Observer} (h : o.Sound) {i : ℕ} (h_bound : o.bound = some i)
    (outcome : ObservationOutcome) (observedAt : Instant) (revisionIds : ℕ → String)
    (state : PlannerState) : ∃ generation, o.listeners[i]? = some generation ∧
      (observationCall outcome observedAt revisionIds (some generation)).command o.flags state =
        (observe outcome observedAt revisionIds state, o.flags) := by
  obtain ⟨generation, h_i, h_active, h_value⟩ := h.current i h_bound
  refine ⟨generation, h_i, ?_⟩
  dsimp only [observationCall]
  rw [if_neg]
  rintro ⟨_, ⟨⟩, h_closed | h_other⟩
  · exact absurd (h_active.symm.trans h_closed) Bool.noConfusion
  · exact h_other h_value

end VacuumPlanner
