import VacuumPlanner.System

/-!
# A superseded runtime and its successor

Once a runtime has loaded the store, only its own commands should write it, so that
between them its memory is what is on disk. An unloaded runtime has nothing left that could
write: its commands and its observations are invalidated, so every call that has yet to
acquire the lock is refused or changes nothing.

Two kinds of work escape this. A call that was waiting for its save when the runtime was
unloaded is not waited for, and a task of `fail_closed` carries no guard at all, so it runs
whenever it gets the lock. `Runtime.Settled` says that a runtime has neither left, and
`Runtime.Silent` that it will never write again: a silent runtime stays silent
(`Silent.step`).

`superseded_runtime_is_silent` is the property of the runs that load the store only when
the retired runtimes have settled, and `superseded_runtime_writes` is a run that does not
wait for a pending save.
-/

namespace VacuumPlanner

open Framework

namespace Runtime

variable {r r' : Runtime} {act : Act} {effect : Option Effect}

/-- No save is pending, and no task of `fail_closed` is waiting for the lock. -/
structure Settled (r : Runtime) : Prop where
  quarantines : r.quarantines = []
  holder : ∀ held, r.holder = some held → held.saved = true

/-- No save has become durable without being assigned yet. -/
def SavePending (r : Runtime) : Prop := ∀ held, r.holder = some held → held.saved = false

instance (r : Runtime) : Decidable r.SavePending :=
  inferInstanceAs (Decidable (∀ held, r.holder = some held → held.saved = false))

/-- The guard passes of the call whose save has become durable. -/
def ResumePasses (r : Runtime) : Prop :=
  ∀ held, r.holder = some held → held.saved = true → held.call.check r.flags = .ok ()

instance (r : Runtime) : Decidable r.Settled :=
  decidable_of_iff
    (r.quarantines = [] ∧ ∀ held, r.holder = some held → held.saved = true)
    ⟨fun h => ⟨h.1, h.2⟩, fun h => ⟨h.quarantines, h.holder⟩⟩

instance (r : Runtime) : Decidable r.ResumePasses :=
  inferInstanceAs (Decidable (∀ held, r.holder = some held →
    held.saved = true → held.call.check r.flags = .ok ()))

/-- The runtime will not write the store again. -/
structure Silent (r : Runtime) : Prop extends Settled r where
  commands : r.flags.commandActive = false
  observations : r.flags.observationActive = false

/-- Nothing a detached runtime does breaks its silence. -/
theorem Silent.step (h : r.Silent) (h_act : ∀ observedAt, act ≠ .failClosed observedAt)
    (forward : Forward act r r') (h_step : RuntimeStep act r r' effect) :
    r'.Silent ∧ effect = none := by
  have h_silent (holder : ∀ held, r'.holder = some held → held.saved = true) : r'.Silent :=
    ⟨⟨forward.quarantines h_act h.quarantines, holder⟩, forward.commands.trans h.commands,
      forward.observations h.observations⟩
  cases h_step with
  | quiet state holder traces undisturbed =>
    refine ⟨h_silent fun held h_held => ?_, rfl⟩
    rw [holder] at h_held
    exact h.holder held h_held
  | begins i d service state holder traces undisturbed h_d launching passes last =>
    -- a call begins under an open epoch, and the epochs of a silent runtime are closed
    have h_active := (RuntimeFlags.requireCommandGeneration_eq_ok.mp passes).1
    exact absurd (h_active.symm.trans h.commands) Bool.noConfusion
  | waits held free state holder unsaved traces awake derived =>
    -- a call takes the lock under an open epoch, or for a quarantine that is waiting
    rcases awake with h_active | h_active | h_some
    · exact absurd (h_active.symm.trans h.commands) Bool.noConfusion
    · exact absurd (h_active.symm.trans h.observations) Bool.noConfusion
    · exact absurd h.quarantines h_some
  | saved held h_holder unsaved state holder dispatches =>
    exact absurd (unsaved.symm.trans (h.holder held h_holder)) Bool.noConfusion
  | released held h_holder state holder traces late =>
    refine ⟨h_silent fun _ h_held => ?_, rfl⟩
    rw [holder] at h_held
    exact nomatch h_held
  | assigned held h_holder h_saved h_act' state holder traces =>
    refine ⟨h_silent fun _ h_held => ?_, rfl⟩
    rw [holder] at h_held
    exact nomatch h_held

end Runtime

namespace System

variable {s s' : System} {event : SystemEvent} {r r' : Runtime}

/-- Whenever the store is loaded, the runtimes that came before have settled. -/
def LoadsSettled (s : System) : SystemEvent → Prop
  | .load _ _ _ => ∀ r ∈ s.retired, r.Settled
  | _ => True

/-- The store is loaded from settled runtimes, a durable save of the loaded runtime is
assigned (its guard passes, and its caller is not cancelled), and no unload fails. -/
structure Supersedes (s : System) (event : SystemEvent) : Prop where
  loads : s.LoadsSettled event
  ends : s.Ending Runtime.ResumePasses Runtime.SavePending event
  unloads : event.failsUnload = false

instance (s : System) (event : SystemEvent) : Decidable (s.LoadsSettled event) :=
  match event with
  | .load _ _ _ => inferInstanceAs (Decidable (∀ r ∈ s.retired, r.Settled))
  | .act _ | .retiredAct _ _ | .unloadBegins | .unloadFails | .unloaded | .rolledBack
  | .setupSaved | .setupSaveRaised | .crash => isTrue trivial

instance (s : System) (event : SystemEvent) : Decidable (s.Supersedes event) :=
  decidable_of_iff (s.LoadsSettled event ∧
      s.Ending Runtime.ResumePasses Runtime.SavePending event ∧ event.failsUnload = false)
    ⟨fun h => ⟨h.1, h.2.1, h.2.2⟩, fun h => ⟨h.loads, h.ends, h.unloads⟩⟩

/-- Only the newest runtime writes, and between its commands it agrees with the store. -/
structure Superseded (s : System) : Prop where
  writes : ∀ write ∈ s.writes, write.writer = write.newest
  synced : ∀ r, s.slot = .loaded r → r.holder = none → r.state = s.disk

/-- A retired runtime is silent, unless it is the last one and nothing has been loaded
since. -/
def RetiredSilent (s : System) : Prop :=
  ∀ r ∈ s.retired, r.Silent ∨ s.slot = .vacant ∧ r.number = s.started

/-- The loaded runtime and the store agree, up to the save of the call that holds the
lock: until it is durable the state in memory is on disk, and then the state to be
assigned. -/
structure Synced (r : Runtime) (disk : PlannerState) : Prop where
  idle : r.SavePending → r.state = disk
  written : ∀ held, r.holder = some held → held.saved = true → held.updated = disk

structure SupersessionInv (s : System) : Prop where
  writes : ∀ write ∈ s.writes, write.writer = write.newest
  retired : s.RetiredSilent
  synced : ∀ r, s.slot = .loaded r → Synced r s.disk

theorem RetiredSilent.silent (h : s.RetiredSilent) (h_slot : s.slot ≠ .vacant)
    (h_r : r ∈ s.retired) : r.Silent :=
  (h r h_r).resolve_right fun h_last => h_slot h_last.1

/-- When the retired runtimes have settled, they are silent. -/
theorem Inv.silent (h : s.Inv) (h_settled : ∀ r ∈ s.retired, r.Settled) (h_r : r ∈ s.retired) :
    r.Silent :=
  ⟨h_settled r h_r, (h.detached r h_r).1, (h.detached r h_r).2⟩

/-- What becomes of the retired runtimes does not depend on what the events write. -/
theorem RetiredSilent.step (h : s.RetiredSilent) (h_inv : s.Inv) (h_event : s.LoadsSettled event)
    (h_step : SystemStep event s s') : s'.RetiredSilent := by
  cases h_step with
  | acted act r r' effect h_event' h_slot forward step inv h_s' =>
    subst h_s'
    intro r'' h_r''
    rw [record_retired] at h_r''
    -- while a runtime is up, the retired ones are silent
    refine Or.inl (h.silent (fun h_vacant => ?_) h_r'')
    rw [h_vacant] at h_slot
    exact nomatch h_slot
  | retiredActed i act r r' effect h_r h_act forward step inv h_s' =>
    subst h_s'
    intro r'' h_r''
    dsimp only
    rw [record_slot, record_started]
    rcases List.mem_or_eq_of_mem_set h_r'' with h_old | rfl
    · exact h r'' h_old
    · -- a silent runtime stays so; one that may still write was the last to be up
      refine (h r (List.mem_of_getElem? h_r)).imp (fun h_silent => ?_) (And.imp_right ?_)
      · exact (h_silent.step h_act forward step).1
      · exact forward.number.trans
  | unloadBegan r h_slot h_s' =>
    subst h_s'
    exact fun r' h_r' => Or.inl (h.silent (by rw [h_slot]; exact nofun) h_r')
  | unloadFailed r h_event' h_slot h_s' =>
    subst h_s'
    exact fun r' h_r' => Or.inl (h.silent (by rw [h_slot]; exact nofun) h_r')
  | unloaded r h_slot h_s' =>
    -- the runtime that leaves the slot may have a save under way
    subst h_s'
    intro r' h_r'
    rcases List.mem_append.mp h_r' with h_old | h_new
    · exact (h r' h_old).imp_right fun h_last => ⟨rfl, h_last.2⟩
    · rw [List.mem_singleton.mp h_new]
      exact Or.inr ⟨rfl, h_inv.number r h_slot⟩
  | loaded reconciledAt dryRun topologyReady h_event' h_slot h_s' =>
    -- this is what the condition on loads is for
    subst h_s' h_event'
    exact fun r' h_r' => Or.inl (h_inv.silent h_event h_r')
  | recovering reconciledAt dryRun topologyReady recovered h_event' h_slot advances h_s' =>
    subst h_s' h_event'
    exact fun r' h_r' => Or.inl (h_inv.silent h_event h_r')
  | recovered recovered dryRun topologyReady h_slot h_s' =>
    subst h_s'
    exact fun r' h_r' => Or.inl (h.silent (by rw [h_slot]; exact nofun) h_r')
  | emptied retired h_retired h_s' =>
    subst h_s'
    intro r h_r
    rcases h_retired with rfl | rfl
    · exact (h r h_r).imp_right fun h_last => ⟨rfl, h_last.2⟩
    · exact nomatch h_r

/-! ### The loaded runtime and the store -/

theorem Synced.of_free {disk : PlannerState} (h_state : r.state = disk)
    (h_holder : r.holder = none) : Synced r disk where
  idle _ := h_state
  written held h_held := by
    rw [h_holder] at h_held
    exact nomatch h_held

/-- An act keeps the loaded runtime and the store in agreement, unless a guard or a
cancellation refuses to assign what is on disk. -/
theorem Synced.step {act : Act} {effect : Option Effect} (h : Synced r s.disk)
    (h_passes : act = .resumed → r.ResumePasses)
    (h_pending : act = .cancelHolder → r.SavePending)
    (h_step : r.RuntimeStep act r' effect) : Synced r' (s.record r effect).disk := by
  have h_still (state : r'.state = r.state) (holder : r'.holder = r.holder) :
      Synced r' s.disk := by
    refine ⟨fun h_unsaved => state.trans (h.idle fun held h_held => ?_), ?_⟩
    · exact h_unsaved held (holder.trans h_held)
    · rw [holder]
      exact h.written
  cases h_step with
  | quiet state holder traces undisturbed => exact h_still state holder
  | begins i d service state holder traces undisturbed h_d launching passes last =>
    exact h_still state holder
  | waits held free state holder unsaved traces awake derived =>
    -- with no save pending, memory is what the disk has
    have h_idle : r.state = s.disk := by
      refine h.idle fun held h_held => ?_
      rw [free] at h_held
      exact nomatch h_held
    refine ⟨fun _ => state.trans h_idle, fun held' h_held' h_saved => ?_⟩
    obtain rfl : held = held' := Option.some.inj (holder.symm.trans h_held')
    exact absurd (unsaved.symm.trans h_saved) Bool.noConfusion
  | saved held h_holder unsaved state holder dispatches =>
    refine ⟨fun h_unsaved => absurd (h_unsaved _ holder) Bool.noConfusion,
      fun held' h_held' _ => ?_⟩
    obtain rfl : { held with saved := true } = held' := Option.some.inj (holder.symm.trans h_held')
    rfl
  | released held h_holder state holder traces late =>
    refine .of_free (state.trans (h.idle fun held' h_held' => ?_)) holder
    obtain rfl : held = held' := Option.some.inj (h_holder.symm.trans h_held')
    -- A call that raises after its save was refused by its guard, or cancelled.
    by_contra h_saved
    have h_durable : held.saved = true := Bool.eq_true_of_not_eq_false h_saved
    rcases late h_durable with h_cancelled | ⟨h_resumed, h_fails⟩
    · exact h_saved (h_pending h_cancelled held h_holder)
    · exact h_fails (h_passes h_resumed held h_holder h_durable)
  | assigned held h_holder h_saved h_act state holder traces =>
    exact .of_free (state.trans (h.written held h_holder h_saved)) holder

/-! ### Every write -/

/-- An act of the newest runtime writes as the newest runtime. -/
theorem record_writes (effect : Option Effect) {write : StoreWrite}
    (h : write ∈ (s.record r effect).writes) :
    write ∈ s.writes ∨ effect ≠ none ∧ write = ⟨r.number, s.started⟩ := by
  rcases effect with _ | _ | _
  · exact Or.inl h
  · refine (List.mem_append.mp h).imp_right fun h_new => ⟨nofun, List.mem_singleton.mp h_new⟩
  · exact Or.inl h

theorem SupersessionInv.start (disk : PlannerState) : (start disk).SupersessionInv :=
  ⟨fun _ h => (nomatch h), fun _ h => (nomatch h), fun _ h => (nomatch h)⟩

theorem SupersessionInv.step (h : s.SupersessionInv) (h_inv : s.Inv)
    (h_event : s.Supersedes event) (h_step : SystemStep event s s') : s'.SupersessionInv := by
  have h_retired : s'.RetiredSilent := h.retired.step h_inv h_event.loads h_step
  -- every write so far was the newest runtime's, and so is one it makes now
  have h_write {r : Runtime} {effect : Option Effect}
      (h_number : effect = none ∨ r.number = s.started) :
      ∀ write ∈ (s.record r effect).writes, write.writer = write.newest := by
    intro write h_mem
    rcases record_writes effect h_mem with h_old | ⟨h_some, rfl⟩
    · exact h.writes write h_old
    · exact h_number.resolve_left h_some
  cases h_step with
  | acted act r r' effect h_act h_slot forward step inv h_s' =>
    -- the guard and the cancellation that could drop a written state are ruled out by `ends`
    subst h_s' h_act
    refine ⟨h_write (Or.inr (h_inv.number r h_slot)), h_retired, fun r'' h_r'' => ?_⟩
    obtain ⟨h_loaded, rfl⟩ := Slot.put_eq_loaded h_slot h_r''
    refine (h.synced r h_loaded).step (fun h_resumed => ?_) (fun h_cancelled => ?_) step
    · subst h_resumed
      exact Slot.Loaded.of_eq h_event.ends h_loaded
    · subst h_cancelled
      exact Slot.Loaded.of_eq h_event.ends h_loaded
  | retiredActed i act r r' effect h_r h_act forward step inv h_s' =>
    subst h_s'
    have h_mem : r ∈ s.retired := List.mem_of_getElem? h_r
    -- a retired runtime writes nothing, or nothing has been loaded since it went
    rcases h.retired r h_mem with h_silent | ⟨h_vacant, h_number⟩
    · obtain ⟨-, rfl⟩ := h_silent.step h_act forward step
      exact ⟨h.writes, h_retired, h.synced⟩
    · refine ⟨h_write (Or.inr h_number), h_retired, fun r'' h_r'' => ?_⟩
      dsimp only at h_r''
      rw [record_slot, h_vacant] at h_r''
      exact nomatch h_r''
  | unloadBegan r h_slot h_s' =>
    subst h_s'
    exact ⟨h.writes, h_retired, fun _ h => (nomatch h)⟩
  | unloadFailed r h_fails h_slot h_s' =>
    -- `Supersedes` excludes an unload that fails
    subst h_fails
    exact nomatch h_event.unloads
  | unloaded r h_slot h_s' =>
    subst h_s'
    exact ⟨h.writes, h_retired, fun _ h => (nomatch h)⟩
  | loaded reconciledAt dryRun topologyReady h_load h_slot h_s' =>
    subst h_s'
    refine ⟨h.writes, h_retired, ?_⟩
    rintro _ ⟨⟩
    exact .of_free rfl rfl
  | recovering reconciledAt dryRun topologyReady recovered h_load h_slot advances h_s' =>
    subst h_s'
    exact ⟨h.writes, h_retired, fun _ h => (nomatch h)⟩
  | recovered recovered dryRun topologyReady h_slot h_s' =>
    subst h_s'
    refine ⟨fun write h_mem => ?_, h_retired, ?_⟩
    · -- the only write of a set-up is its own, at the newest number
      rcases List.mem_append.mp h_mem with h_old | h_new
      · exact h.writes write h_old
      · rw [List.mem_singleton.mp h_new]
    · rintro _ ⟨⟩
      exact .of_free rfl rfl
  | emptied retired h_emptied h_s' =>
    subst h_s'
    exact ⟨h.writes, h_retired, fun _ h => (nomatch h)⟩

/-- **A superseded runtime cannot clobber its successor**, in every state of a run in which
the store is loaded from settled runtimes, every durable save is assigned, and no unload
fails. -/
theorem superseded_runtime_is_silent (disk : PlannerState) (events : List SystemEvent)
    (h_run : EachStep step Supersedes (start disk) events) (n : ℕ) :
    Superseded (stateAt step (start disk) events n) := by
  have h_both : Inv (stateAt step (start disk) events n) ∧
      SupersessionInv (stateAt step (start disk) events n) := by
    refine EachStep.stateAt (I := fun s => Inv s ∧ SupersessionInv s)
      (fun s event s' h h_event h_step => ?_) h_run ⟨.start disk, .start disk⟩ n
    have h_cases := step_cases h.1 h_step
    exact ⟨h.1.step h_cases, h.2.step h.1 h_event h_cases⟩
  refine ⟨h_both.2.writes, fun r h_slot h_free => (h_both.2.synced r h_slot).idle ?_⟩
  intro held h_held
  rw [h_free] at h_held
  exact nomatch h_held

end System

/-! ### A reload -/

/-- A postponed area, an unload and the next setup. -/
def reload : List SystemEvent :=
  [.load 0 false true, .act (.mutate (.postponeArea "kitchen" 1 1 "postponed") 0), .act .saved,
    .act .resumed, .unloadBegins, .unloaded, .load 2 false true]

theorem superseded_runtime_is_silent_reload :
    System.Superseded (stateAt System.step (System.start kitchenState) reload 7) :=
  System.superseded_runtime_is_silent kitchenState reload (by decide) 7

/-- The unload does not wait for the save. -/
def overtakenSave : List SystemEvent :=
  [.load 0 false true, .act (.mutate (.postponeArea "kitchen" 1 1 "postponed") 0),
    .unloadBegins, .unloaded, .load 2 false true, .retiredAct 0 .saved]

/-- **A superseded runtime writes**: the save that was pending at the unload becomes durable
after the next runtime has loaded the store, and takes it away from that runtime's memory. -/
theorem superseded_runtime_writes :
    ¬ System.Superseded (perform System.step (System.start kitchenState) overtakenSave) := by
  intro h
  have h_write : (⟨1, 2⟩ : StoreWrite) ∈
      (perform System.step (System.start kitchenState) overtakenSave).writes := by decide
  exact absurd (h.writes _ h_write) (by decide)

end VacuumPlanner
