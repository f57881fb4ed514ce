import VacuumPlanner.Covering
import VacuumPlanner.SendOnce

/-!
# A claimed dispatch settles

Whatever ends a dispatch (its acceptance, an exception of the service, a cancellation, a latched
topology), its block has gone on to a later state by the time the dispatch has ended. For a
runtime that is unloaded this is left to the restart recovery of the next one, and for one that
accepts commands to the quarantine of the dispatch.

An unload attempt that fails falls between the two. It invalidates the commands and activates
them again under a new generation, so a dispatch that was claimed before it is refused by every
guard, `_async_run_ambiguous_operation` raises the refusal without a quarantine, and nothing
loads the store again. The block of such a dispatch stays `COMMITTING` in a runtime that accepts
commands (`unsettled_after_failed_unload`). It is the only way: if no block is committing
whenever an unload attempt fails, every claimed dispatch settles (`claimed_dispatch_settles`).
-/

namespace VacuumPlanner

open Framework

/-- A save of the event fails. -/
def SystemEvent.failsSave : SystemEvent → Bool
  | .act (.saveRaised _) | .retiredAct _ (.saveRaised _) | .setupSaveRaised => true
  | _ => false

namespace System

variable {s s' : System} {event : SystemEvent} {r r' : Runtime} {act : Act}
  {effect : Option Effect} {k : ℕ} {id : String}

/-- The runtime is there, loaded or not. -/
def Runs (s : System) (r : Runtime) : Prop := s.slot.runtime = some r ∨ r ∈ s.retired

/-- No save fails, and an unload fails only while no block is committing. -/
structure SparesClaims (s : System) (event : SystemEvent) : Prop where
  saves : event.failsSave = false
  unloads : event.failsUnload = true → ∀ r, s.slot.runtime = some r →
    ∀ b ∈ r.state.ledger.blocks, b.state ≠ .committing

instance (s : System) (event : SystemEvent) : Decidable (s.SparesClaims event) :=
  decidable_of_iff (event.failsSave = false ∧ (event.failsUnload = true →
      ∀ r, s.slot.runtime = some r → ∀ b ∈ r.state.ledger.blocks, b.state ≠ .committing))
    ⟨fun h => ⟨h.1, h.2⟩, fun h => ⟨h.saves, h.unloads⟩⟩

/-- The states a claimed block is moved to. -/
def settledStates : List BlockState := [.committed, .running, .uncertain]

/-- At every moment of the run, in a runtime that accepts commands and has no dispatch in
flight: nothing is left between its claim and its outcome, and the block of every dispatch that
has held its claim is committed, running, uncertain or terminal. -/
def ClaimsSettle (disk : PlannerState) (events : List SystemEvent) : Prop :=
  ∀ n r, (stateAt step (start disk) events n).Runs r → r.flags.commandActive = true → r.Idle →
    r.Concluded ∧ ∀ m ≤ n, ∀ r₀, (stateAt step (start disk) events m).slot.runtime = some r₀ →
      r₀.number = r.number → ∀ d ∈ r₀.dispatches, d.stage.active = true →
        ∃ b ∈ r.state.ledger.blocks, b.blockId = d.blockId ∧
          (b.state ∈ settledStates ∨ b.state.terminal = true)

/-! ### Every runtime can be followed -/

/-- Every runtime can be followed to the blocks of its calls, and in the loaded one every block
that is committing has its dispatch. -/
structure Answerable (s : System) : Prop where
  disk : OpenBlocks Staffed s.disk.ledger
  recovered : ∀ recovered dryRun topologyReady,
    s.slot = .settingUp recovered dryRun topologyReady →
      OpenBlocks Staffed recovered.ledger ∧ ∀ id, ¬ Committing recovered.ledger id
  runtime : ∀ r, s.slot.runtime = some r → r.Accountable
  retired : ∀ r ∈ s.retired, r.Accountable
  loaded : ∀ r, s.slot = .loaded r → r.Covered

theorem Answerable.start {disk : PlannerState} (h : OpenBlocks Staffed disk.ledger) :
    (start disk).Answerable :=
  ⟨h, fun _ _ _ h => (nomatch h), fun _ h => (nomatch h), fun _ h => (nomatch h),
    fun _ h => (nomatch h)⟩

/-- An act of the runtime in the slot. -/
theorem Answerable.acted (h : s.Answerable) (h_inv : s.Inv) (h_slot : s.slot.runtime = some r)
    (h_save : ∀ e, act ≠ .saveRaised e) (h_step : r.step act = .ok (r', effect)) :
    Answerable { s.record r effect with slot := s.slot.put r' } := by
  have h_r := h.runtime r h_slot
  have h_put : (s.slot.put r').runtime = some r' := Slot.runtime_put h_slot
  refine ⟨record_ledger h.disk (h_r.written h_step), fun _ _ _ h_up => ?_, fun r'' h_r'' => ?_, ?_,
    fun r'' h_r'' => ?_⟩
  · dsimp only at h_up
    rw [h_up] at h_put
    exact nomatch h_put
  · obtain rfl := Option.some.inj (h_put.symm.trans h_r'')
    exact h_r.step h_step
  · rw [record_retired]
    exact h.retired
  · obtain ⟨h_loaded, rfl⟩ := Slot.put_eq_loaded h_slot h_r''
    exact (h.loaded r h_loaded).step h_r (h_inv.slot r h_slot) h_save h_step

/-- An act of a retired runtime. -/
theorem Answerable.retiredActed {i : ℕ} (h : s.Answerable) (h_mem : r ∈ s.retired)
    (h_step : r.step act = .ok (r', effect)) :
    Answerable { s.record r effect with retired := s.retired.set i r' } := by
  have h_r := h.retired r h_mem
  refine ⟨record_ledger h.disk (h_r.written h_step), ?_, ?_, fun r'' h_r'' => ?_, ?_⟩
  · dsimp only; rw [record_slot]; exact h.recovered
  · dsimp only; rw [record_slot]; exact h.runtime
  · rcases List.mem_or_eq_of_mem_set h_r'' with h_old | rfl
    · exact h.retired r'' h_old
    · exact h_r.step h_step
  · dsimp only; rw [record_slot]; exact h.loaded

/-- A runtime that leaves the slot. -/
theorem Answerable.unloaded (h : s.Answerable) (h_slot : s.slot.runtime = some r) :
    (s.retire r).Answerable := by
  refine ⟨h.disk, fun _ _ _ h_up => (nomatch h_up), fun _ h_r => (nomatch h_r), fun r' h_r' => ?_,
    fun _ h_r => (nomatch h_r)⟩
  rcases List.mem_append.mp h_r' with h_old | h_new
  · exact h.retired r' h_old
  · rw [List.mem_singleton.mp h_new]
    exact (h.runtime r h_slot).with_flags _

/-- A setup that loads a store in which nothing is committing. -/
theorem Answerable.loads {disk : PlannerState} {number started : ℕ} {dryRun topologyReady : Bool}
    {begun : List BegunCall} {writes : List StoreWrite} (h : s.Answerable)
    (h_disk : OpenBlocks Staffed disk.ledger) (h_none : ∀ id, ¬ Committing disk.ledger id) :
    Answerable ⟨disk, .loaded (.fresh number dryRun topologyReady disk), s.retired, started, begun,
      writes⟩ := by
  refine ⟨h_disk, fun _ _ _ h_up => (nomatch h_up), ?_, h.retired, ?_⟩
  · rintro _ ⟨⟩
    exact .fresh number dryRun topologyReady h_disk
  · rintro _ ⟨⟩
    exact .of_none rfl h_none

/-- **Every event keeps it** that spares the claims. -/
theorem Answerable.step (h : s.Answerable) (h_inv : s.Inv) (h_event : s.SparesClaims event)
    (h_step : System.step event s = .ok s') : s'.Answerable := by
  cases fired_of_step h_step with
  | acted h_slot h_acted =>
    refine h.acted h_inv h_slot (fun e h_act => ?_) h_acted
    rw [h_act] at h_event
    exact nomatch h_event.saves
  | retiredActed h_r h_act h_acted => exact h.retiredActed (List.mem_of_getElem? h_r) h_acted
  | @unloadBegan r h_slot =>
    refine ⟨h.disk, fun _ _ _ h_up => (nomatch h_up), ?_, h.retired, fun _ h_r => (nomatch h_r)⟩
    rintro _ ⟨⟩
    exact (h.runtime r (by rw [h_slot]; rfl)).with_flags _
  | @unloadFailed r h_slot =>
    have h_runtime : s.slot.runtime = some r := by rw [h_slot]; rfl
    refine ⟨h.disk, fun _ _ _ h_up => (nomatch h_up), ?_, h.retired, ?_⟩
    · rintro _ ⟨⟩
      exact (h.runtime r h_runtime).with_flags _
    · rintro _ ⟨⟩
      -- every guard refuses the earlier generation from now on; no dispatch of it has a block
      -- left to move, because nothing was committing
      refine .of_none rfl ?_
      rintro id ⟨b, hb, -, h_b⟩
      exact h_event.unloads rfl r h_runtime b hb h_b
  | unloaded h_slot | rolledBack h_slot => exact h.unloaded (by rw [h_slot]; rfl)
  | loaded h_slot h_recover =>
    -- recovery has nothing to do exactly when the stored ledger has no such block
    obtain ⟨h_disk, h_none⟩ := recover_staffed h.disk h_recover
    exact h.loads h_disk h_none
  | recovering h_slot h_recover =>
    refine ⟨h.disk, ?_, fun _ h_r => (nomatch h_r), h.retired, fun _ h_r => (nomatch h_r)⟩
    rintro _ _ _ ⟨⟩
    exact recover_staffed h.disk h_recover
  | @recovered recovered dryRun topologyReady h_slot =>
    obtain ⟨h_disk, h_none⟩ := h.recovered recovered dryRun topologyReady h_slot
    exact h.loads h_disk h_none
  | saveFailed =>
    exact ⟨h.disk, fun _ _ _ h_up => (nomatch h_up), fun _ h_r => (nomatch h_r), h.retired,
      fun _ h_r => (nomatch h_r)⟩
  | crashed =>
    exact ⟨h.disk, fun _ _ _ h_up => (nomatch h_up), fun _ h_r => (nomatch h_r),
      fun _ h_r => (nomatch h_r), fun _ h_r => (nomatch h_r)⟩

/-! ### The blocks a runtime has claimed -/

/-- The runtime with the number has claimed the block, if it is still in the slot. No other will
have its number. -/
structure ClaimedBy (k : ℕ) (id : String) (s : System) : Prop where
  started : k ≤ s.started
  fresh : ∀ recovered dryRun topologyReady, s.slot = .settingUp recovered dryRun topologyReady →
    k < s.started
  launched : ∀ r, s.slot.runtime = some r → r.number = k → Launched r.state.ledger id

theorem ClaimedBy.step (h : ClaimedBy k id s) (h_inv : s.Inv) (h_step : SystemStep event s s') :
    ClaimedBy k id s' := by
  cases h_step with
  | acted act r r' effect h_event h_slot forward step inv h_s' =>
    have h_put : (s.slot.put r').runtime = some r' := Slot.runtime_put h_slot
    subst h_s'
    refine ⟨?_, fun _ _ _ h_up => ?_, fun r'' h_r'' h_number => ?_⟩
    · dsimp only; rw [record_started]; exact h.started
    · dsimp only at h_up
      rw [h_up] at h_put
      exact nomatch h_put
    · -- the slot still holds the runtime that claimed the id, one step later
      obtain rfl := Option.some.inj (h_put.symm.trans h_r'')
      have h_launched := h.launched r h_slot (forward.number.symm.trans h_number)
      exact ((h_inv.slot r h_slot).keeps (P := fun L => Launched L id)
        (fun advances => advances.launched id) h_launched step).1
  | retiredActed i act r r' effect h_r h_act forward step inv h_s' =>
    subst h_s'
    refine ⟨?_, ?_, ?_⟩
    · dsimp only; rw [record_started]; exact h.started
    · dsimp only; rw [record_slot, record_started]; exact h.fresh
    · dsimp only; rw [record_slot]; exact h.launched
  | unloadBegan r h_slot h_s' | unloadFailed r h_event h_slot h_s' =>
    subst h_s'
    refine ⟨h.started, fun _ _ _ h_up => (nomatch h_up), ?_⟩
    rintro _ ⟨⟩ h_number
    exact h.launched r (by rw [h_slot]; rfl) h_number
  | unloaded r h_slot h_s' =>
    subst h_s'
    exact ⟨h.started, fun _ _ _ h_up => (nomatch h_up), fun _ h_r => (nomatch h_r)⟩
  | loaded reconciledAt dryRun topologyReady h_event h_slot h_s' =>
    -- the number of the runtime that is loaded now is above every earlier one
    subst h_s'
    refine ⟨h.started.trans (Nat.le_succ _), fun _ _ _ h_up => (nomatch h_up), ?_⟩
    rintro _ ⟨⟩ h_number
    have h_new : s.started + 1 = k := h_number
    exact absurd h.started (by omega)
  | recovering reconciledAt dryRun topologyReady recovered h_event h_slot advances h_s' =>
    subst h_s'
    exact ⟨h.started.trans (Nat.le_succ _), fun _ _ _ _ => Nat.lt_succ_of_le h.started,
      fun _ h_r => (nomatch h_r)⟩
  | recovered recovered dryRun topologyReady h_slot h_s' =>
    -- a runtime that comes up has a number that was not yet the claimant's
    have h_lt := h.fresh recovered dryRun topologyReady h_slot
    subst h_s'
    refine ⟨h.started, fun _ _ _ h_up => (nomatch h_up), ?_⟩
    rintro _ ⟨⟩ h_number
    have h_new : s.started = k := h_number
    exact absurd h_lt (by omega)
  | emptied retired h_retired h_s' =>
    subst h_s'
    exact ⟨h.started, fun _ _ _ h_up => (nomatch h_up), fun _ h_r => (nomatch h_r)⟩

/-- A launched block is past its claim, and past its outcome if nothing is left between. -/
theorem settled_of_launched {L : QueueLedger} (h : Launched L id)
    (h_none : ∀ b ∈ L.blocks, b.state ≠ .committing) :
    ∃ b ∈ L.blocks, b.blockId = id ∧ (b.state ∈ settledStates ∨ b.state.terminal = true) := by
  obtain ⟨b, hb, h_id, h_late, -⟩ := h
  have h_b := h_none b hb
  refine ⟨b, hb, h_id, ?_⟩
  revert h_late h_b
  cases b.state <;> decide

/-- What every event keeps, and what it keeps if it spares the claims. -/
theorem answerable_stateAt {disk : PlannerState} {events : List SystemEvent}
    (h_disk : OpenBlocks Staffed disk.ledger)
    (h_run : EachStep step SparesClaims (start disk) events) (n : ℕ) :
    (stateAt step (start disk) events n).Inv ∧ (stateAt step (start disk) events n).Answerable := by
  refine EachStep.stateAt (I := fun s => Inv s ∧ Answerable s)
    (fun s event s' h h_event h_step => ?_) h_run ⟨.start disk, .start h_disk⟩ n
  exact ⟨h.1.step (step_cases h.1 h_step), h.2.step h.1 h_event h_step⟩

/-- **A claimed dispatch settles**, in every run in which no save fails and no unload attempt
fails while a block is committing. -/
theorem claimed_dispatch_settles (disk : PlannerState) (h_disk : OpenBlocks Staffed disk.ledger)
    (events : List SystemEvent) (h_run : EachStep step SparesClaims (start disk) events) :
    ClaimsSettle disk events := by
  intro n r h_r h_active h_idle
  obtain ⟨h_inv, h_answerable⟩ := answerable_stateAt h_disk h_run n
  -- a runtime that accepts commands is loaded
  have h_slot : (stateAt step (start disk) events n).slot = .loaded r := by
    rcases h_r with h_slot | h_retired
    · cases h : (stateAt step (start disk) events n).slot with
      | loaded r₀ =>
        rw [h] at h_slot
        cases h_slot
        rfl
      | unloading r₀ =>
        rw [h] at h_slot
        cases h_slot
        exact absurd ((h_inv.unloading r h).symm.trans h_active) Bool.noConfusion
      | vacant | settingUp =>
        rw [h] at h_slot
        exact nomatch h_slot
    · exact absurd ((h_inv.detached r h_retired).1.symm.trans h_active) Bool.noConfusion
  have h_runtime : (stateAt step (start disk) events n).slot.runtime = some r := by
    rw [h_slot]
    rfl
  have h_concluded : r.Concluded :=
    (h_answerable.loaded r h_slot).concluded (h_answerable.runtime r h_runtime) h_idle
  refine ⟨h_concluded, fun m h_le r₀ h_r₀ h_number d h_d h_claimed => ?_⟩
  obtain ⟨i, h_i⟩ := List.getElem?_of_mem h_d
  have h_inv_m : (stateAt step (start disk) events m).Inv := (answerable_stateAt h_disk h_run m).1
  -- the block was launched when it was claimed, and stays so to this state
  have h_claimedBy : ClaimedBy r.number d.blockId (stateAt step (start disk) events m) := by
    refine ⟨?_, fun _ _ _ h_up => ?_, fun r₁ h_r₁ _ => ?_⟩
    · rw [← h_number]
      exact (h_inv_m.number r₀ h_r₀).le
    · rw [h_up] at h_r₀
      exact nomatch h_r₀
    · obtain rfl := Option.some.inj (h_r₀.symm.trans h_r₁)
      exact (h_inv_m.slot r₀ h_r₀).launched i d h_i h_claimed
  have h_both := stateAt_stable (I := fun s => Inv s ∧ ClaimedBy r.number d.blockId s)
    (fun s event s' h h_step => ⟨h.1.step (step_cases h.1 h_step),
      h.2.step h.1 (step_cases h.1 h_step)⟩) h_le ⟨h_inv_m, h_claimedBy⟩
  exact settled_of_launched (h_both.2.launched r h_runtime rfl) h_concluded.blocks

end System

/-! ### A failed unload -/

/-- A service call that raises, and an unload attempt that fails after the quarantine. -/
def quarantinedDispatch : List SystemEvent :=
  .load 0 false true :: dispatched (kitchenStart "key" kitchenIds 0) ++
    [.act (.callService 0), .act (.serviceRaised 0), .act (.quarantine 0 1), .act .saved,
      .act .resumed, .unloadBegins, .unloadFails]

theorem claimed_dispatch_settles_quarantined :
    System.ClaimsSettle kitchenState quarantinedDispatch :=
  System.claimed_dispatch_settles kitchenState OpenBlocks.empty quarantinedDispatch (by decide)

/-- An unload attempt that fails while the vacuum is called. The acceptance is refused, and the
dispatch ends. -/
def interruptedByUnload : List SystemEvent :=
  .load 0 false true :: dispatched (kitchenStart "key" kitchenIds 0) ++
    [.act (.callService 0), .unloadBegins, .unloadFails, .act (.serviceReturned 0),
      .act (.accept 0 1)]

/-- **A failed unload leaves a block committing**, although every save succeeds. -/
theorem unsettled_after_failed_unload :
    EachStep System.step (fun _ event => event.failsSave = false) (System.start kitchenState)
        interruptedByUnload ∧
      ¬ System.ClaimsSettle kitchenState interruptedByUnload := by
  refine ⟨by decide, fun h => ?_⟩
  have h_left : ∃ r ∈ (stateAt System.step (System.start kitchenState)
      interruptedByUnload 13).slot.runtime,
      r.flags.commandActive = true ∧ r.Idle ∧ ¬ r.Concluded := by decide
  obtain ⟨r, h_r, h_active, h_idle, h_not⟩ := h_left
  exact h_not (h 13 r (Or.inl h_r) h_active h_idle).1

end VacuumPlanner
