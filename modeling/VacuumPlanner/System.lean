import VacuumPlanner.DispatchSpecs

/-!
# A config entry over its lifetime

One config entry, its store, and the runtimes that come and go: set up, unloaded, set up
again, or gone with a crash. The runtime in the `Slot` is the one Home Assistant knows.
A runtime that was unloaded has lost its listeners, but its coroutines still run and still
hold the old store, so it stays around among the `retired`.

A setup loads what the store holds and saves it again when restart recovery changed it
(`recover`); while that save is pending nothing is loaded yet. A crash forgets everything
but the store.

Two records are kept that the code does not keep: every external call that has begun, with
what its runtime and the store looked like at that moment (`begun`), and every write of the
store, with the runtime that wrote and the last runtime that had loaded it (`writes`).

`SystemStep` says once what can happen, and `System.Inv` is what holds of the runtimes
whatever happens.
-/

namespace VacuumPlanner

open Framework

/-- The restart recovery of `_async_load_planner_state`: the state to save, if any. -/
def recover (state : PlannerState) (reconciledAt : Instant) :
    Except PyError (Option PlannerState) := do
  let recovered ← quarantineAmbiguousDispatches state.ledger reconciledAt
  if recovered.blocks ≠ state.ledger.blocks ∨ recovered.jobs ≠ state.ledger.jobs then
    let state ← PlannerState.construct state.planRevision recovered
    return some state
  else return none

/-- What the config entry is doing. -/
inductive Slot where
  | vacant
  /-- A setup waits for the save of the recovered state. -/
  | settingUp (recovered : PlannerState) (dryRun topologyReady : Bool)
  | loaded (r : Runtime)
  /-- `async_unload_platforms` is pending. -/
  | unloading (r : Runtime)

/-- `entry.runtime_data`. -/
def Slot.runtime : Slot → Option Runtime
  | .loaded r | .unloading r => some r
  | .vacant | .settingUp _ _ _ => none

def Slot.put (r : Runtime) : Slot → Slot
  | .loaded _ => .loaded r
  | .unloading _ => .unloading r
  | slot => slot

/-- `P` holds of the loaded runtime, if there is one. -/
def Slot.Loaded (P : Runtime → Prop) : Slot → Prop
  | .loaded r => P r
  | .vacant | .settingUp _ _ _ | .unloading _ => True

instance (P : Runtime → Prop) [DecidablePred P] (slot : Slot) : Decidable (slot.Loaded P) :=
  match slot with
  | .loaded r => inferInstanceAs (Decidable (P r))
  | .vacant | .settingUp _ _ _ | .unloading _ => isTrue trivial

/-- An external call at the moment it begins. -/
structure BegunCall where
  service : Service
  dispatch : Dispatch
  /-- The runtime that makes the call, and the last one that has loaded the store. -/
  number : ℕ
  newest : ℕ
  dryRun : Bool
  flags : RuntimeFlags
  memory : PlannerState
  disk : PlannerState
  deriving DecidableEq

/-- The runtime that wrote the store, and the last one that had loaded it. -/
structure StoreWrite where
  writer : ℕ
  newest : ℕ
  deriving DecidableEq

structure System where
  disk : PlannerState
  slot : Slot
  retired : List Runtime
  /-- How many runtimes have loaded the store. -/
  started : ℕ
  begun : List BegunCall
  writes : List StoreWrite

inductive SystemEvent where
  /-- An act of the runtime in the slot. -/
  | act (act : Act)
  /-- An act of a retired runtime. -/
  | retiredAct (i : ℕ) (act : Act)
  | unloadBegins
  | unloadFails
  | unloaded
  /-- A setup fails after its runtime was built. -/
  | rolledBack
  | load (reconciledAt : Instant) (dryRun topologyReady : Bool)
  | setupSaved
  | setupSaveRaised
  | crash

/-- `async_unload_entry` returns `False`. -/
def SystemEvent.failsUnload : SystemEvent → Bool
  | .unloadFails => true
  | _ => false

namespace System

/-- Nothing is loaded. -/
def start (disk : PlannerState) : System where
  disk
  slot := .vacant
  retired := []
  started := 0
  begun := []
  writes := []

/-- The effect of an act of the runtime `r`. -/
def record (s : System) (r : Runtime) : Option Effect → System
  | none => s
  | some (.write state) =>
    { s with disk := state, writes := s.writes ++ [⟨r.number, s.started⟩] }
  | some (.begins service d) =>
    { s with
      begun := s.begun ++
        [⟨service, d, r.number, s.started, r.dryRun, r.flags, r.state, s.disk⟩] }

/-- `_rollback_setup_runtime`. -/
def retire (s : System) (r : Runtime) : System :=
  { s with
    slot := .vacant
    retired := s.retired ++ [{ r with flags := r.flags.shutdownRuntime }] }

/-- One event. An event that cannot happen in the current state is refused. -/
def step : SystemEvent → System → Except Unit System
  | .act act, s =>
    match s.slot.runtime with
    | some r => do
      let (r', effect) ← r.step act
      return { s.record r effect with slot := s.slot.put r' }
    | none => .error ()
  | .retiredAct i act, s =>
    match s.retired[i]?, act with
    -- its listeners were removed with it
    | some _, .failClosed _ => .error ()
    | some r, act => do
      let (r', effect) ← r.step act
      return { s.record r effect with retired := s.retired.set i r' }
    | none, _ => .error ()
  | .unloadBegins, s =>
    match s.slot with
    | .loaded r =>
      .ok { s with slot := .unloading { r with flags := r.flags.invalidateCommands } }
    | _ => .error ()
  | .unloadFails, s =>
    match s.slot with
    | .unloading r =>
      .ok { s with slot := .loaded { r with flags := r.flags.activateCommands } }
    | _ => .error ()
  | .unloaded, s =>
    match s.slot with
    | .unloading r => .ok (s.retire r)
    | _ => .error ()
  | .rolledBack, s =>
    match s.slot with
    | .loaded r => .ok (s.retire r)
    | _ => .error ()
  | .load reconciledAt dryRun topologyReady, s =>
    match s.slot, recover s.disk reconciledAt with
    | .vacant, .ok none =>
      .ok { s with
        slot := .loaded (.fresh (s.started + 1) dryRun topologyReady s.disk)
        started := s.started + 1 }
    | .vacant, .ok (some recovered) =>
      .ok { s with
        slot := .settingUp recovered dryRun topologyReady
        started := s.started + 1 }
    | _, _ => .error ()
  | .setupSaved, s =>
    match s.slot with
    | .settingUp recovered dryRun topologyReady =>
      .ok { s with
        disk := recovered
        writes := s.writes ++ [⟨s.started, s.started⟩]
        slot := .loaded (.fresh s.started dryRun topologyReady recovered) }
    | _ => .error ()
  | .setupSaveRaised, s =>
    match s.slot with
    | .settingUp _ _ _ => .ok { s with slot := .vacant }
    | _ => .error ()
  -- only the disk is left
  | .crash, s => .ok { s with slot := .vacant, retired := [] }

/-- `P` holds of the loaded runtime, if the event ends the call that holds its lock:
`resumed` if the save has returned to it, `cancelled` if its caller is cancelled. -/
def Ending (resumed cancelled : Runtime → Prop) (s : System) : SystemEvent → Prop
  | .act .resumed => s.slot.Loaded resumed
  | .act .cancelHolder => s.slot.Loaded cancelled
  | _ => True

instance (P Q : Runtime → Prop) [DecidablePred P] [DecidablePred Q] (s : System)
    (event : SystemEvent) : Decidable (s.Ending P Q event) :=
  match event with
  | .act .resumed => inferInstanceAs (Decidable (s.slot.Loaded P))
  | .act .cancelHolder => inferInstanceAs (Decidable (s.slot.Loaded Q))
  | .act .latchTopology | .act (.failClosed _) | .act (.startNext _ _) | .act (.mutate _ _)
  | .act (.observe _ _ _ _) | .act (.quarantineAll _) | .act (.preflight _ _)
  | .act (.claim _ _) | .act (.callService _) | .act (.serviceReturned _)
  | .act (.serviceRaised _) | .act (.accept _ _) | .act (.quarantine _ _) | .act .saved
  | .act (.saveRaised _) | .act (.cancelWaiting _) | .retiredAct _ _ | .unloadBegins
  | .unloadFails | .unloaded | .rolledBack | .load _ _ _ | .setupSaved | .setupSaveRaised
  | .crash => isTrue trivial

/-! ### What an event does -/

variable {s s' : System} {event : SystemEvent} {r r' : Runtime}

theorem record_retired (effect : Option Effect) : (s.record r effect).retired = s.retired := by
  rcases effect with _ | _ | _ <;> rfl

theorem record_slot (effect : Option Effect) : (s.record r effect).slot = s.slot := by
  rcases effect with _ | _ | _ <;> rfl

theorem record_started (effect : Option Effect) : (s.record r effect).started = s.started := by
  rcases effect with _ | _ | _ <;> rfl

/-- What holds of the runtimes, whatever happens: only the runtime in the slot can be
active, and only while it is loaded. -/
structure Inv (s : System) : Prop where
  slot : ∀ r, s.slot.runtime = some r → r.Inv
  retired : ∀ r ∈ s.retired, r.Inv
  number : ∀ r, s.slot.runtime = some r → r.number = s.started
  unloading : ∀ r, s.slot = .unloading r → r.flags.commandActive = false
  detached : ∀ r ∈ s.retired,
    r.flags.commandActive = false ∧ r.flags.observationActive = false

/-- **Everything that can happen** to a config entry. -/
inductive SystemStep (event : SystemEvent) (s s' : System) : Prop
  | acted (act : Act) (r r' : Runtime) (effect : Option Effect) (h_event : event = .act act)
      (h_slot : s.slot.runtime = some r) (forward : r.Forward act r')
      (step : r.RuntimeStep act r' effect) (inv : r'.Inv)
      (h : s' = { s.record r effect with slot := s.slot.put r' })
  | retiredActed (i : ℕ) (act : Act) (r r' : Runtime) (effect : Option Effect)
      (h_r : s.retired[i]? = some r) (h_act : ∀ observedAt, act ≠ .failClosed observedAt)
      (forward : r.Forward act r') (step : r.RuntimeStep act r' effect) (inv : r'.Inv)
      (h : s' = { s.record r effect with retired := s.retired.set i r' })
  | unloadBegan (r : Runtime) (h_slot : s.slot = .loaded r)
      (h : s' = { s with slot := .unloading { r with flags := r.flags.invalidateCommands } })
  | unloadFailed (r : Runtime) (h_event : event = .unloadFails) (h_slot : s.slot = .unloading r)
      (h : s' = { s with slot := .loaded { r with flags := r.flags.activateCommands } })
  | unloaded (r : Runtime) (h_slot : s.slot.runtime = some r) (h : s' = s.retire r)
  | loaded (reconciledAt : Instant) (dryRun topologyReady : Bool)
      (h_event : event = .load reconciledAt dryRun topologyReady) (h_slot : s.slot = .vacant)
      (h : s' = { s with
        slot := .loaded (.fresh (s.started + 1) dryRun topologyReady s.disk)
        started := s.started + 1 })
  | recovering (reconciledAt : Instant) (dryRun topologyReady : Bool) (recovered : PlannerState)
      (h_event : event = .load reconciledAt dryRun topologyReady) (h_slot : s.slot = .vacant)
      (advances : Advances s.disk.ledger recovered.ledger)
      (h : s' = { s with
        slot := .settingUp recovered dryRun topologyReady
        started := s.started + 1 })
  | recovered (recovered : PlannerState) (dryRun topologyReady : Bool)
      (h_slot : s.slot = .settingUp recovered dryRun topologyReady)
      (h : s' = { s with
        disk := recovered
        writes := s.writes ++ [⟨s.started, s.started⟩]
        slot := .loaded (.fresh s.started dryRun topologyReady recovered) })
  | emptied (retired : List Runtime) (h_retired : retired = s.retired ∨ retired = [])
      (h : s' = { s with slot := .vacant, retired := retired })

end System

/-- Restart recovery quarantines, and does nothing else. -/
theorem recover_advances {state recovered : PlannerState} {reconciledAt : Instant}
    (h : recover state reconciledAt = .ok (some recovered)) :
    Advances state.ledger recovered.ledger := by
  unfold recover at h
  obtain ⟨L, h_L, h⟩ := bind_eq_ok.mp h
  split at h
  · obtain ⟨t, h_t, h⟩ := bind_eq_ok.mp h
    obtain rfl := Option.some.inj (pure_eq_ok.mp h)
    obtain ⟨-, h_ledger⟩ := PlannerState.construct_eq_ok.mp h_t
    rw [h_ledger]
    exact .of_rewrites (quarantineAmbiguousDispatches_rewrites h_L)
  · exact nomatch pure_eq_ok.mp h

theorem Slot.runtime_put {slot : Slot} {r r' : Runtime} (h : slot.runtime = some r) :
    (slot.put r').runtime = some r' := by
  cases slot with
  | loaded | unloading => rfl
  | vacant | settingUp => exact nomatch h

theorem Slot.put_eq_unloading {slot : Slot} {r r' : Runtime} (h : slot.put r = .unloading r') :
    (∃ r₀, slot = .unloading r₀) ∧ r = r' := by
  cases slot with
  | unloading r₀ => cases h; exact ⟨⟨r₀, rfl⟩, rfl⟩
  | loaded | vacant | settingUp => exact nomatch h

theorem Slot.Loaded.of_eq {P : Runtime → Prop} {slot : Slot} {r : Runtime} (h : slot.Loaded P)
    (h_slot : slot = .loaded r) : P r := by
  rw [h_slot] at h
  exact h

theorem Slot.put_eq_loaded {slot : Slot} {r r' r'' : Runtime} (h : slot.runtime = some r)
    (h_put : slot.put r' = .loaded r'') : slot = .loaded r ∧ r' = r'' := by
  cases slot with
  | loaded r₀ => cases h; cases h_put; exact ⟨rfl, rfl⟩
  | unloading | vacant | settingUp => exact nomatch h_put

/-- The invariant of a runtime does not depend on its flags. -/
theorem Runtime.Inv.with_flags {r : Runtime} (h : r.Inv) (flags : RuntimeFlags) :
    Runtime.Inv { r with flags := flags } where
  derived held h_held :=
    (h.derived held h_held).undisturbed rfl rfl rfl (Runtime.Undisturbed.of_eq rfl)
  launched := h.launched
  distinct := h.distinct
  dry := h.dry

namespace System

variable {s s' : System} {event : SystemEvent} {r r' : Runtime}

/-- An event that happened, by the state it found. -/
inductive Fired (s : System) : SystemEvent → System → Prop
  | acted {act : Act} {r r' : Runtime} {effect : Option Effect} (h_slot : s.slot.runtime = some r)
      (h_step : r.step act = .ok (r', effect)) :
      Fired s (.act act) { s.record r effect with slot := s.slot.put r' }
  | retiredActed {i : ℕ} {act : Act} {r r' : Runtime} {effect : Option Effect}
      (h_r : s.retired[i]? = some r) (h_act : ∀ observedAt, act ≠ .failClosed observedAt)
      (h_step : r.step act = .ok (r', effect)) :
      Fired s (.retiredAct i act) { s.record r effect with retired := s.retired.set i r' }
  | unloadBegan {r : Runtime} (h_slot : s.slot = .loaded r) : Fired s .unloadBegins
      { s with slot := .unloading { r with flags := r.flags.invalidateCommands } }
  | unloadFailed {r : Runtime} (h_slot : s.slot = .unloading r) : Fired s .unloadFails
      { s with slot := .loaded { r with flags := r.flags.activateCommands } }
  | unloaded {r : Runtime} (h_slot : s.slot = .unloading r) : Fired s .unloaded (s.retire r)
  | rolledBack {r : Runtime} (h_slot : s.slot = .loaded r) : Fired s .rolledBack (s.retire r)
  | loaded {reconciledAt : Instant} {dryRun topologyReady : Bool} (h_slot : s.slot = .vacant)
      (h_recover : recover s.disk reconciledAt = .ok none) :
      Fired s (.load reconciledAt dryRun topologyReady) { s with
        slot := .loaded (.fresh (s.started + 1) dryRun topologyReady s.disk)
        started := s.started + 1 }
  | recovering {reconciledAt : Instant} {dryRun topologyReady : Bool} {recovered : PlannerState}
      (h_slot : s.slot = .vacant)
      (h_recover : recover s.disk reconciledAt = .ok (some recovered)) :
      Fired s (.load reconciledAt dryRun topologyReady) { s with
        slot := .settingUp recovered dryRun topologyReady
        started := s.started + 1 }
  | recovered {recovered : PlannerState} {dryRun topologyReady : Bool}
      (h_slot : s.slot = .settingUp recovered dryRun topologyReady) : Fired s .setupSaved { s with
        disk := recovered
        writes := s.writes ++ [⟨s.started, s.started⟩]
        slot := .loaded (.fresh s.started dryRun topologyReady recovered) }
  | saveFailed : Fired s .setupSaveRaised { s with slot := .vacant }
  | crashed : Fired s .crash { s with slot := .vacant, retired := [] }

/-- A step that is not refused is one of them. -/
theorem fired_of_step (h : step event s = .ok s') : Fired s event s' := by
  cases event with
  | act act =>
    dsimp only [step] at h
    split at h
    · next r h_slot =>
      -- the act is the runtime's own step; its result goes back into the slot
      obtain ⟨⟨r', effect⟩, h_step, h⟩ := bind_eq_ok.mp h
      obtain rfl := pure_eq_ok.mp h
      exact .acted h_slot h_step
    · cases h
  | retiredAct i act =>
    dsimp only [step] at h
    split at h
    · cases h
    · next act _ _ r h_r h_act =>
      obtain ⟨⟨r', effect⟩, h_step, h⟩ := bind_eq_ok.mp h
      obtain rfl := pure_eq_ok.mp h
      exact .retiredActed h_r h_act h_step
    · cases h
  -- the events of the config entry read the slot alone
  | unloadBegins =>
    dsimp only [step] at h
    split at h
    · next r h_slot => cases h; exact .unloadBegan h_slot
    · cases h
  | unloadFails =>
    dsimp only [step] at h
    split at h
    · next r h_slot => cases h; exact .unloadFailed h_slot
    · cases h
  | unloaded =>
    dsimp only [step] at h
    split at h
    · next r h_slot => cases h; exact .unloaded h_slot
    · cases h
  | rolledBack =>
    dsimp only [step] at h
    split at h
    · next r h_slot => cases h; exact .rolledBack h_slot
    · cases h
  | load reconciledAt dryRun topologyReady =>
    dsimp only [step] at h
    split at h
    · -- a load with nothing to recover is up at once; the other saves first
      next h_slot h_recover => cases h; exact .loaded h_slot h_recover
    · next recovered h_slot h_recover => cases h; exact .recovering h_slot h_recover
    · cases h
  | setupSaved =>
    dsimp only [step] at h
    split at h
    · next recovered dryRun topologyReady h_slot => cases h; exact .recovered h_slot
    · cases h
  | setupSaveRaised =>
    dsimp only [step] at h
    split at h
    · cases h; exact .saveFailed
    · cases h
  | crash =>
    cases h
    exact .crashed

/-- Every event is one of the cases. -/
theorem step_cases (h_inv : s.Inv) (h : step event s = .ok s') : SystemStep event s s' := by
  cases fired_of_step h with
  | acted h_slot h_step =>
    obtain ⟨forward, step, inv⟩ := (h_inv.slot _ h_slot).step_cases h_step
    exact .acted _ _ _ _ rfl h_slot forward step inv rfl
  | retiredActed h_r h_act h_step =>
    obtain ⟨forward, step, inv⟩ :=
      (h_inv.retired _ (List.mem_of_getElem? h_r)).step_cases h_step
    exact .retiredActed _ _ _ _ _ h_r h_act forward step inv rfl
  | unloadBegan h_slot => exact .unloadBegan _ h_slot rfl
  | unloadFailed h_slot => exact .unloadFailed _ rfl h_slot rfl
  | unloaded h_slot | rolledBack h_slot => exact .unloaded _ (by rw [h_slot]; rfl) rfl
  | loaded h_slot h_recover => exact .loaded _ _ _ rfl h_slot rfl
  | recovering h_slot h_recover =>
    exact .recovering _ _ _ _ rfl h_slot (recover_advances h_recover) rfl
  | recovered h_slot => exact .recovered _ _ _ h_slot rfl
  | saveFailed => exact .emptied s.retired (Or.inl rfl) rfl
  | crashed => exact .emptied [] (Or.inr rfl) rfl

theorem Inv.start (disk : PlannerState) : (start disk).Inv :=
  ⟨fun _ h => (nomatch h), fun _ h => (nomatch h), fun _ h => (nomatch h), fun _ h => (nomatch h),
    fun _ h => (nomatch h)⟩

theorem Inv.step (h : s.Inv) (h_step : SystemStep event s s') : s'.Inv := by
  cases h_step with
  | acted act r r' effect h_event h_slot forward step inv h_s' =>
    subst h_s'
    refine ⟨fun r'' h_r'' => ?_, ?_, fun r'' h_r'' => ?_, fun r'' h_r'' => ?_, ?_⟩
    · obtain rfl := Option.some.inj ((Slot.runtime_put h_slot).symm.trans h_r'')
      exact inv
    · rw [record_retired]
      exact h.retired
    · obtain rfl := Option.some.inj ((Slot.runtime_put h_slot).symm.trans h_r'')
      rw [record_started, forward.number]
      exact h.number r h_slot
    · obtain ⟨⟨r₀, h_r₀⟩, rfl⟩ := Slot.put_eq_unloading h_r''
      obtain rfl : r₀ = r := by rw [h_r₀] at h_slot; exact Option.some.inj h_slot
      -- no act switches the commands on, so an unloading runtime stays off
      rw [forward.commands]
      exact h.unloading r₀ h_r₀
    · rw [record_retired]
      exact h.detached
  | retiredActed i act r r' effect h_r h_act forward step inv h_s' =>
    subst h_s'
    have h_mem : r ∈ s.retired := List.mem_of_getElem? h_r
    refine ⟨?_, fun r'' h_r'' => ?_, ?_, ?_, fun r'' h_r'' => ?_⟩
    · dsimp only; rw [record_slot]; exact h.slot
    · rcases List.mem_or_eq_of_mem_set h_r'' with h_old | rfl
      · exact h.retired r'' h_old
      · exact inv
    · dsimp only; rw [record_slot, record_started]; exact h.number
    · dsimp only; rw [record_slot]; exact h.unloading
    · rcases List.mem_or_eq_of_mem_set h_r'' with h_old | rfl
      · exact h.detached r'' h_old
      · -- nor does an act of a retired runtime switch anything on again
        obtain ⟨h_commands, h_observations⟩ := h.detached r h_mem
        exact ⟨forward.commands.trans h_commands, forward.observations h_observations⟩
  | unloadBegan r h_slot h_s' =>
    subst h_s'
    have h_runtime : s.slot.runtime = some r := by rw [h_slot]; rfl
    refine ⟨?_, h.retired, ?_, ?_, h.detached⟩
    · rintro _ ⟨⟩
      exact (h.slot r h_runtime).with_flags _
    · rintro _ ⟨⟩
      exact h.number r h_runtime
    · rintro _ ⟨⟩
      rfl
  | unloadFailed r h_event h_slot h_s' =>
    subst h_s'
    have h_runtime : s.slot.runtime = some r := by rw [h_slot]; rfl
    refine ⟨?_, h.retired, ?_, fun _ h => (nomatch h), h.detached⟩
    · rintro _ ⟨⟩
      exact (h.slot r h_runtime).with_flags _
    · rintro _ ⟨⟩
      exact h.number r h_runtime
  | unloaded r h_slot h_s' =>
    subst h_s'
    refine ⟨fun _ h => (nomatch h), fun r' h_r' => ?_, fun _ h => (nomatch h),
      fun _ h => (nomatch h), fun r' h_r' => ?_⟩
    · rcases List.mem_append.mp h_r' with h_old | h_new
      · exact h.retired r' h_old
      · rw [List.mem_singleton.mp h_new]
        exact (h.slot r h_slot).with_flags _
    · rcases List.mem_append.mp h_r' with h_old | h_new
      · exact h.detached r' h_old
      · rw [List.mem_singleton.mp h_new]
        -- `shutdown_runtime` has just switched both off
        exact ⟨rfl, rfl⟩
  | loaded reconciledAt dryRun topologyReady h_event h_slot h_s' =>
    subst h_s'
    refine ⟨?_, h.retired, ?_, fun _ h => (nomatch h), h.detached⟩
    · rintro _ ⟨⟩
      exact Runtime.Inv.fresh ..
    · rintro _ ⟨⟩
      rfl
  | recovering reconciledAt dryRun topologyReady recovered h_event h_slot advances h_s' =>
    subst h_s'
    exact ⟨fun _ h => (nomatch h), h.retired, fun _ h => (nomatch h), fun _ h => (nomatch h),
      h.detached⟩
  | recovered recovered dryRun topologyReady h_slot h_s' =>
    subst h_s'
    refine ⟨?_, h.retired, ?_, fun _ h => (nomatch h), h.detached⟩
    · rintro _ ⟨⟩
      exact Runtime.Inv.fresh ..
    · rintro _ ⟨⟩
      rfl
  | emptied retired h_retired h_s' =>
    subst h_s'
    -- a failed setup keeps the retired runtimes, a crash forgets them
    have h_sub {r : Runtime} (h_r : r ∈ retired) : r ∈ s.retired := by
      rcases h_retired with rfl | rfl
      · exact h_r
      · exact nomatch h_r
    exact ⟨fun _ h => (nomatch h), fun r h_r => h.retired r (h_sub h_r), fun _ h => (nomatch h),
      fun _ h => (nomatch h), fun r h_r => h.detached r (h_sub h_r)⟩

/-! ### A property of all ledgers -/

/-- `P` holds of the ledger on disk and of every ledger in memory. -/
structure Everywhere (P : QueueLedger → Prop) (s : System) : Prop where
  disk : P s.disk.ledger
  runtime : ∀ r, s.slot.runtime = some r → P r.state.ledger
  recovered : ∀ recovered dryRun topologyReady,
    s.slot = .settingUp recovered dryRun topologyReady → P recovered.ledger
  retired : ∀ r ∈ s.retired, P r.state.ledger

variable {P : QueueLedger → Prop}

theorem Everywhere.start {disk : PlannerState} (h : P disk.ledger) :
    (start disk).Everywhere P :=
  ⟨h, fun _ h => (nomatch h), fun _ _ _ h => (nomatch h), fun _ h => (nomatch h)⟩

theorem record_ledger {effect : Option Effect} (h : P s.disk.ledger)
    (h_write : ∀ state, effect = some (.write state) → P state.ledger) :
    P (s.record r effect).disk.ledger := by
  rcases effect with _ | _ | _
  · exact h
  · exact h_write _ rfl
  · exact h

/-- What every command keeps of a ledger, every event keeps of all ledgers. -/
theorem Everywhere.step (h : s.Everywhere P)
    (keeps : ∀ {L L' : QueueLedger}, Advances L L' → P L → P L') (h_inv : s.Inv)
    (h_step : SystemStep event s s') : s'.Everywhere P := by
  cases h_step with
  | acted act r r' effect h_act h_slot forward step inv h_s' =>
    -- what the act computes and what it writes come from the ledger of the runtime
    obtain ⟨h_state, h_write⟩ := (h_inv.slot r h_slot).keeps keeps (h.runtime r h_slot) step
    have h_put : (s.slot.put r').runtime = some r' := Slot.runtime_put h_slot
    subst h_s'
    refine ⟨record_ledger h.disk h_write, fun r'' h_r'' => ?_, fun _ _ _ h_up => ?_, ?_⟩
    · obtain rfl := Option.some.inj (h_put.symm.trans h_r'')
      exact h_state
    · dsimp only at h_up
      rw [h_up] at h_put
      exact nomatch h_put
    · rw [record_retired]
      exact h.retired
  | retiredActed i act r r' effect h_r h_act forward step inv h_s' =>
    have h_mem : r ∈ s.retired := List.mem_of_getElem? h_r
    obtain ⟨h_state, h_write⟩ := (h_inv.retired r h_mem).keeps keeps (h.retired r h_mem) step
    subst h_s'
    refine ⟨record_ledger h.disk h_write, ?_, ?_, fun r'' h_r'' => ?_⟩
    · dsimp only; rw [record_slot]; exact h.runtime
    · dsimp only; rw [record_slot]; exact h.recovered
    · rcases List.mem_or_eq_of_mem_set h_r'' with h_old | rfl
      · exact h.retired r'' h_old
      · exact h_state
  | unloadBegan r h_slot h_s' =>
    -- an unload changes the flags only
    subst h_s'
    refine ⟨h.disk, ?_, fun _ _ _ h_up => (nomatch h_up), h.retired⟩
    rintro _ ⟨⟩
    exact h.runtime r (by rw [h_slot]; rfl)
  | unloadFailed r h_fails h_slot h_s' =>
    subst h_s'
    refine ⟨h.disk, ?_, fun _ _ _ h_up => (nomatch h_up), h.retired⟩
    rintro _ ⟨⟩
    exact h.runtime r (by rw [h_slot]; rfl)
  | unloaded r h_slot h_s' =>
    subst h_s'
    refine ⟨h.disk, fun _ h_r => (nomatch h_r), fun _ _ _ h_up => (nomatch h_up),
      fun r' h_r' => ?_⟩
    rcases List.mem_append.mp h_r' with h_old | h_new
    · exact h.retired r' h_old
    · rw [List.mem_singleton.mp h_new]
      exact h.runtime r h_slot
  | loaded reconciledAt dryRun topologyReady h_load h_slot h_s' =>
    subst h_s'
    refine ⟨h.disk, ?_, fun _ _ _ h_up => (nomatch h_up), h.retired⟩
    rintro _ ⟨⟩
    exact h.disk
  | recovering reconciledAt dryRun topologyReady recovered h_load h_slot advances h_s' =>
    -- what a recovery will save is derived from the disk
    subst h_s'
    refine ⟨h.disk, fun _ h_r => (nomatch h_r), ?_, h.retired⟩
    rintro _ _ _ ⟨⟩
    exact keeps advances h.disk
  | recovered recovered dryRun topologyReady h_slot h_s' =>
    have h_recovered := h.recovered recovered dryRun topologyReady h_slot
    subst h_s'
    refine ⟨h_recovered, ?_, fun _ _ _ h_up => (nomatch h_up), h.retired⟩
    rintro _ ⟨⟩
    exact h_recovered
  | emptied retired h_emptied h_s' =>
    subst h_s'
    refine ⟨h.disk, fun _ h_r => (nomatch h_r), fun _ _ _ h_up => (nomatch h_up),
      fun r h_r => ?_⟩
    rcases h_emptied with rfl | rfl
    · exact h.retired r h_r
    · exact nomatch h_r

end System

end VacuumPlanner
