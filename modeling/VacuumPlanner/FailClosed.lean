import VacuumPlanner.Reached
import VacuumPlanner.SendOnce

/-!
# A latched runtime can only give up work

When the topology is lost, `fail_closed` clears one flag and ends the observations, and nothing
cancels what is already under way: calls that wait for the lock, a save that is pending, reports
that are queued. What is left of them is read off here. A guarded call fails its guard, a report
finds its generation over, and the two calls that remain, the quarantine of `fail_closed` and
that of a dispatch, only ever move work to `UNCERTAIN` (`OnlyQuarantined`).

`Closed` is what a latched runtime keeps, act by act; it needs the one report whose save was
pending at the latch to be over, since no guard stops that one. `latched_only_quarantines` is the
whole story of such a runtime, up to the end of its life.
-/

namespace VacuumPlanner

open Framework

/-! ### Giving up work -/

/-- The block is the same, or it was with the vacuum and is uncertain. -/
def BlockGivenUp (b b' : QueueBlock) : Prop :=
  b' = b ∨ b.state ∈ [BlockState.committing, .committed, .running] ∧
    b' = { b with state := .uncertain }

/-- The job is the same, or it was with the vacuum and is uncertain. -/
def JobGivenUp (j j' : QueueJob) : Prop :=
  j' = j ∨ j.state ∈ activeJobStates ∧ j' = { j with state := .uncertain }

/-- Nothing but a quarantine has happened: the plan is the same, and so is every block and
every job that was not with the vacuum. -/
structure OnlyQuarantined (s s' : PlannerState) : Prop where
  plan : s'.planRevision = s.planRevision
  blocks : List.Forall₂ BlockGivenUp s.ledger.blocks s'.ledger.blocks
  jobs : List.Forall₂ JobGivenUp s.ledger.jobs s'.ledger.jobs

variable {s s' s'' : PlannerState} {observedAt : Instant}

theorem BlockGivenUp.trans {b b' b'' : QueueBlock} (h : BlockGivenUp b b')
    (h' : BlockGivenUp b' b'') : BlockGivenUp b b'' := by
  rcases h with rfl | ⟨h_state, rfl⟩
  · exact h'
  · -- an uncertain block is given up already
    rcases h' with rfl | ⟨h_state', -⟩
    · exact Or.inr ⟨h_state, rfl⟩
    · exact absurd h_state'
        (by decide : BlockState.uncertain ∉ [BlockState.committing, .committed, .running])

theorem JobGivenUp.trans {j j' j'' : QueueJob} (h : JobGivenUp j j') (h' : JobGivenUp j' j'') :
    JobGivenUp j j'' := by
  rcases h with rfl | ⟨h_state, rfl⟩
  · exact h'
  · rcases h' with rfl | ⟨h_state', -⟩
    · exact Or.inr ⟨h_state, rfl⟩
    · exact absurd h_state' (by decide : JobState.uncertain ∉ activeJobStates)

/-- Records that change one by one change so again. -/
theorem forall₂_trans {α : Type} {R : α → α → Prop} {xs ys zs : List α}
    (trans : ∀ x y z, R x y → R y z → R x z) (h : List.Forall₂ R xs ys)
    (h' : List.Forall₂ R ys zs) : List.Forall₂ R xs zs := by
  induction h generalizing zs with
  | nil => exact h'
  | cons h_first _ ih =>
    cases h' with
    | cons h_first' h_rest' => exact .cons (trans _ _ _ h_first h_first') (ih h_rest')

namespace OnlyQuarantined

theorem refl (s : PlannerState) : OnlyQuarantined s s where
  plan := rfl
  blocks := List.forall₂_same.mpr fun _ _ => Or.inl rfl
  jobs := List.forall₂_same.mpr fun _ _ => Or.inl rfl

theorem trans (h : OnlyQuarantined s s') (h' : OnlyQuarantined s' s'') : OnlyQuarantined s s'' where
  plan := h'.plan.trans h.plan
  blocks := forall₂_trans (fun _ _ _ => BlockGivenUp.trans) h.blocks h'.blocks
  jobs := forall₂_trans (fun _ _ _ => JobGivenUp.trans) h.jobs h'.jobs

/-- Two sweeps that quarantine what they select. -/
theorem of_sweeps {p : QueueBlock → Bool} {q : QueueJob → Bool}
    (plan : s'.planRevision = s.planRevision)
    (blocks : s'.ledger.blocks =
      s.ledger.blocks.map (updateIf p fun b => { b with state := .uncertain }))
    (jobs : s'.ledger.jobs =
      s.ledger.jobs.map (updateIf q fun j => { j with state := .uncertain }))
    (h_p : ∀ b ∈ s.ledger.blocks, p b = true →
      b.state ∈ [BlockState.committing, .committed, .running, .uncertain])
    (h_q : ∀ j ∈ s.ledger.jobs, q j = true → j.state ∈ activeJobStates) :
    OnlyQuarantined s s' where
  plan := plan
  blocks := by
    rw [blocks, List.forall₂_map_right_iff, List.forall₂_same]
    intro b hb
    by_cases h : p b = true
    · rw [updateIf_pos h]
      have h_state := h_p b hb h
      -- one that was uncertain before is as it was
      by_cases h_uncertain : b.state = .uncertain
      · left
        rw [← h_uncertain]
      · right
        refine ⟨?_, rfl⟩
        revert h_state h_uncertain
        cases b.state <;> decide
    · rw [updateIf_neg h]
      exact Or.inl rfl
  jobs := by
    rw [jobs, List.forall₂_map_right_iff, List.forall₂_same]
    intro j hj
    by_cases h : q j = true
    · rw [updateIf_pos h]
      exact Or.inr ⟨h_q j hj h, rfl⟩
    · rw [updateIf_neg h]
      exact Or.inl rfl

end OnlyQuarantined

/-- A block with an active job is with the vacuum, or uncertain. -/
theorem affected_states {L : QueueLedger} {b : QueueBlock} (hb : b ∈ L.blocks)
    (h : b.blockId ∈ affectedBlockIds L observedAt) :
    b.state ∈ [BlockState.committing, .committed, .running, .uncertain] := by
  obtain ⟨j, hj, h_parent, h_active⟩ := exists_active_of_affected h
  have h_open : b.state.terminal = false := open_of_active hj h_active hb h_parent.symm
  have h_compatible : j.state ∉ incompatibleStates b := L.compatible hb hj h_parent
  unfold incompatibleStates at h_compatible
  revert h_active h_open h_compatible
  cases b.state <;> cases j.state <;> simp [activeJobStates, activeStates, BlockState.terminal]

/-- The quarantine of `fail_closed`. -/
theorem observeUncertain_quarantines (h : observeUncertain s observedAt = .ok s') :
    OnlyQuarantined s s' := by
  have h_rewritten := observeUncertain_ok h
  refine .of_sweeps h_rewritten.plan h_rewritten.blocks h_rewritten.jobs (fun b hb h_b => ?_)
    fun j _ h_j => (of_decide_eq_true h_j).2
  exact affected_states hb (of_decide_eq_true h_b)

/-- The quarantine of a dispatch. -/
theorem recordUncertain_quarantines {blockId : String} {reconciledAt : Instant}
    (h : recordUncertain s blockId reconciledAt = .ok s') : OnlyQuarantined s s' := by
  obtain ⟨b, hb, rfl, ⟨-, rfl⟩ | ⟨h_plan, h_ledger⟩⟩ := recordUncertain_ok h
  · exact .refl s'
  · obtain ⟨b', hb', h_id, h_state, -, -, h_sent, h_blocks, h_jobs, -⟩ :=
      quarantineBlockDispatch_ok h_ledger
    refine .of_sweeps h_plan h_blocks h_jobs (fun c hc h_c => ?_) fun j hj h_j => ?_
    · rw [s.ledger.block_eq hc hb' ((of_decide_eq_true h_c).trans h_id.symm), h_state]
      decide
    · rw [h_sent j hj (of_decide_eq_true h_j)]
      decide

/-! ### A closed runtime -/

/-- What a latch leaves of the flags. -/
structure RuntimeFlags.Latched (flags : RuntimeFlags) : Prop where
  topology : flags.topologyReady = false
  observations : flags.observationActive = false

/-- A latched runtime lets no command through. -/
theorem RuntimeFlags.Latched.refuses {flags : RuntimeFlags} (h : flags.topologyReady = false)
    (generation : ℕ) : flags.requireCommandGeneration generation ≠ .ok () := by
  intro h_ok
  have h_ready := (RuntimeFlags.requireCommandGeneration_eq_ok.mp h_ok).2.2
  exact absurd (h_ready.symm.trans h) Bool.noConfusion

namespace Runtime

variable {base : PlannerState} {r r' w : Runtime} {act : Act} {effect : Option Effect}
  {task : Task} {call : PlannerCall} {held : Held}

/-- What the call waits to assign is a quarantine, or its guard will stop it. -/
def Harmless (state : PlannerState) (held : Held) : Prop :=
  OnlyQuarantined state held.updated ∨
    ∀ flags : RuntimeFlags, flags.topologyReady = false → held.call.check flags ≠ .ok ()

/-- Latched, and since then nothing but quarantines. -/
structure Closed (base : PlannerState) (r : Runtime) : Prop where
  flags : r.flags.Latched
  state : OnlyQuarantined base r.state
  waiting : ∀ held, r.holder = some held → Harmless r.state held

/-- **A call that still reaches its save is a quarantine.** -/
theorem closed_prepared {updated : PlannerState} (h_latched : r.flags.Latched)
    (h_request : Requests r act w task call)
    (h : (call.prepare r.flags r.state).1 = .ok (some updated)) :
    OnlyQuarantined r.state updated := by
  have h_guarded {generation : ℕ} {command : PlannerState → Except PyError PlannerState}
      (h : ((guardedCall generation command).prepare r.flags r.state).1 = .ok (some updated)) :
      OnlyQuarantined r.state updated := by
    have h_check : r.flags.requireCommandGeneration generation = .ok () := Call.prepare_check h
    exact absurd h_check (RuntimeFlags.Latched.refuses h_latched.topology generation)
  cases h_request with
  | startNext | mutate | claim | accept => exact h_guarded h
  | observe =>
    -- the observations of this binding are over
    have h_active := (observationCall_prepared h).1 nofun
    exact absurd (h_active.symm.trans h_latched.observations) Bool.noConfusion
  | quarantineAll => exact observeUncertain_quarantines (observationCall_prepared h).2
  | quarantine => exact recordUncertain_quarantines (quarantineCall_prepared h).2

/-- What a runtime with the same flags, state and lock keeps. -/
theorem Closed.of_frame (h : Closed base r) (frame : Frame r r') : Closed base r' where
  flags := by rw [frame.flags]; exact h.flags
  state := by rw [frame.state]; exact h.state
  waiting held h_held := by
    rw [frame.state]
    exact h.waiting held (frame.holder ▸ h_held)

/-- The lock is free, or becomes free. -/
theorem Closed.of_released (h : Closed base r) : Closed base { r with holder := none } where
  flags := h.flags
  state := h.state
  waiting _ h_held := nomatch h_held

theorem Closed.enter (h : Closed base r) (h_free : r.holder = none)
    (h_request : Requests r act w task call) : Closed base (w.enter task call) := by
  -- asking for a transaction moves at most the stage of a dispatch
  have h_same : w.flags = r.flags ∧ w.state = r.state ∧ w.holder = r.holder := by
    cases h_request with
    | startNext | mutate | observe | quarantineAll | claim | accept | quarantine =>
      exact ⟨rfl, rfl, rfl⟩
  obtain ⟨h_flags, h_state, h_holder⟩ := h_same
  have h_w : Closed base w := ⟨h_flags ▸ h.flags, h_state ▸ h.state, fun held h_held => by
    rw [h_holder, h_free] at h_held
    exact nomatch h_held⟩
  unfold Runtime.enter
  split
  · exact h_w.of_frame (raised_frame w _ task)
  · exact h_w.of_frame (returned_spec w false task).1
  · next updated h_prepared =>
    -- what a latched runtime prepares is a quarantine
    rw [h_flags, h_state] at h_prepared
    refine ⟨h_w.flags, h_w.state, ?_⟩
    rintro _ ⟨⟩
    left
    show OnlyQuarantined w.state updated
    rw [h_state]
    exact closed_prepared h.flags h_request h_prepared

/-- **One act of a closed runtime.** It stays closed, and begins no external call. -/
theorem Closed.step (h : Closed base r) (h_step : r.step act = .ok (r', effect)) :
    Closed base r' ∧ ∀ service d, effect ≠ some (.begins service d) := by
  cases acted_of_step h_step with
  | latched => exact ⟨⟨⟨rfl, rfl⟩, h.state, h.waiting⟩, nofun⟩
  | failedClosed =>
    refine ⟨?_, nofun⟩
    unfold failClosed
    rw [if_pos h.flags.topology]
    exact h
  | entered h_free h_request => exact ⟨h.enter h_free (requests_of_request h_request), nofun⟩
  | preflighted | rejected | serviceReturned | serviceRaised | cancelledReady
  | cancelledCleaned => exact ⟨h.of_frame (setStage_frame ..), nofun⟩
  | @called i d service next h_d h_next =>
    have h_refused := RuntimeFlags.Latched.refuses h.flags.topology d.generation
    unfold callService
    split
    · exact ⟨h.of_frame (setStage_frame ..), nofun⟩
    · next h_passes => exact absurd h_passes h_refused
  | @saved held h_holder h_unsaved =>
    -- on disk, and not yet in memory
    refine ⟨⟨h.flags, h.state, ?_⟩, nofun⟩
    rintro _ ⟨⟩
    exact h.waiting held h_holder
  | saveRaised h_holder h_unsaved | cancelledHolder h_holder =>
    exact ⟨h.of_released.of_frame (raised_frame _ _ _), nofun⟩
  | @resumed held h_holder h_saved =>
    refine ⟨?_, nofun⟩
    unfold resume
    split
    · exact h.of_released.of_frame (raised_frame _ _ _)
    · next h_passes =>
      -- the guard has let it through, so what it assigns is a quarantine
      have h_updated := (h.waiting held h_holder).resolve_right fun h_stops =>
        h_stops r.flags h.flags.topology h_passes
      have h_assigned : Closed base { r with holder := none, state := held.updated } :=
        ⟨h.flags, h.state.trans h_updated, fun _ h_held => nomatch h_held⟩
      exact h_assigned.of_frame (returned_spec _ true held.task).1

/-- Neither does what happens to its flags from outside. -/
theorem Closed.reflag (h : Closed base r) {flags : RuntimeFlags} (h_flags : flags.Latched) :
    Closed base { r with flags := flags } := ⟨h_flags, h.state, h.waiting⟩

end Runtime

/-! ### The rest of its life -/

namespace System

variable {s s' : System} {event : SystemEvent} {r : Runtime} {n : ℕ} {base : PlannerState}
  {begun : List BegunCall}

/-- What holds since the runtime with the number was latched in the state `base`, with these
calls begun. -/
structure Silenced (n : ℕ) (base : PlannerState) (begun : List BegunCall) (s : System) :
    Prop where
  started : n ≤ s.started
  /-- A setup that is under way is that of a later runtime. -/
  pending : ∀ recovered dryRun topologyReady,
    s.slot = .settingUp recovered dryRun topologyReady → n < s.started
  slot : ∀ r, s.slot.runtime = some r → r.number = n → r.Closed base
  retired : ∀ r ∈ s.retired, r.number = n → r.Closed base
  calls : ∃ later, s.begun = begun ++ later ∧ ∀ call ∈ later, call.number ≠ n

/-- The record of an act of a runtime that is closed, if it has the number. -/
theorem Silenced.record {effect : Option Effect} (h : Silenced n base begun s)
    (h_quiet : r.number = n → ∀ service d, effect ≠ some (.begins service d)) :
    ∃ later, (s.record r effect).begun = begun ++ later ∧ ∀ call ∈ later, call.number ≠ n := by
  obtain ⟨later, h_begun, h_later⟩ := h.calls
  match effect with
  | none | some (.write _) => exact ⟨later, h_begun, h_later⟩
  | some (.begins service d) =>
    refine ⟨later ++ [⟨service, d, r.number, s.started, r.dryRun, r.flags, r.state, s.disk⟩], ?_, ?_⟩
    · show s.begun ++ _ = _
      rw [h_begun, List.append_assoc]
    · rw [List.forall_mem_append]
      refine ⟨h_later, fun call h_call => ?_⟩
      rw [List.mem_singleton.mp h_call]
      exact fun h_number => h_quiet h_number service d rfl

/-- An act of a runtime, closed if it has the number. -/
theorem Silenced.acts {act : Act} {r' : Runtime} {effect : Option Effect} (h_inv : r.Inv)
    (h_closed : r.number = n → r.Closed base) (h_step : r.step act = .ok (r', effect)) :
    (r'.number = n → r'.Closed base) ∧
      (r.number = n → ∀ service d, effect ≠ some (.begins service d)) := by
  have h_number : r'.number = r.number := (h_inv.step_cases h_step).1.number
  exact ⟨fun h_n => ((h_closed (h_number.symm.trans h_n)).step h_step).1,
    fun h_n => ((h_closed h_n).step h_step).2⟩

/-- A runtime is retired: it stays closed. -/
theorem Silenced.retire (h : Silenced n base begun s) (h_slot : s.slot.runtime = some r) :
    Silenced n base begun (s.retire r) where
  started := h.started
  pending _ _ _ h_pending := nomatch h_pending
  slot _ h_r := nomatch h_r
  retired r' h_r' h_number := by
    rcases List.mem_append.mp h_r' with h_old | h_new
    · exact h.retired r' h_old h_number
    · obtain rfl := List.mem_singleton.mp h_new
      have h_closed := h.slot r h_slot h_number
      exact h_closed.reflag ⟨h_closed.flags.topology, rfl⟩
  calls := h.calls

/-- **One event.** -/
theorem Silenced.step (h : Silenced n base begun s) (h_inv : s.Inv)
    (h_step : System.step event s = .ok s') : Silenced n base begun s' := by
  cases fired_of_step h_step with
  | @acted act r r' effect h_slot h_act =>
    obtain ⟨h_closed, h_quiet⟩ :=
      Silenced.acts (h_inv.slot r h_slot) (h.slot r h_slot) h_act
    refine ⟨?_, ?_, fun r'' h_r'' => ?_, ?_, h.record h_quiet⟩
    · exact (record_started effect).symm ▸ h.started
    · intro recovered dryRun topologyReady h_pending
      cases h_s : s.slot with
      | loaded | unloading => rw [h_s] at h_pending; exact nomatch h_pending
      | vacant | settingUp => rw [h_s] at h_slot; exact nomatch h_slot
    · obtain rfl := Option.some.inj ((Slot.runtime_put h_slot).symm.trans h_r'')
      exact h_closed
    · exact (record_retired effect).symm ▸ h.retired
  | @retiredActed i act r r' effect h_r h_other h_act =>
    -- a retired runtime acts as the one in the slot
    have h_mem := List.mem_of_getElem? h_r
    obtain ⟨h_closed, h_quiet⟩ :=
      Silenced.acts (h_inv.retired r h_mem) (h.retired r h_mem) h_act
    refine ⟨?_, ?_, ?_, fun r'' h_r'' => ?_, h.record h_quiet⟩
    · exact (record_started effect).symm ▸ h.started
    · dsimp only
      rw [record_slot, record_started]
      exact h.pending
    · dsimp only
      rw [record_slot]
      exact h.slot
    · rcases List.mem_or_eq_of_mem_set h_r'' with h_old | rfl
      · exact h.retired r'' h_old
      · exact h_closed
  | @unloadBegan r h_slot =>
    refine ⟨h.started, fun _ _ _ h_pending => (nomatch h_pending), ?_, h.retired, h.calls⟩
    rintro _ ⟨⟩ h_number
    have h_closed := h.slot r (by rw [h_slot]; rfl) h_number
    exact h_closed.reflag ⟨h_closed.flags.topology, h_closed.flags.observations⟩
  | @unloadFailed r h_slot =>
    refine ⟨h.started, fun _ _ _ h_pending => (nomatch h_pending), ?_, h.retired, h.calls⟩
    rintro _ ⟨⟩ h_number
    -- an unload that fails activates the commands, and not the topology
    have h_closed := h.slot r (by rw [h_slot]; rfl) h_number
    exact h_closed.reflag ⟨h_closed.flags.topology, h_closed.flags.observations⟩
  | unloaded h_slot | rolledBack h_slot => exact h.retire (by rw [h_slot]; rfl)
  -- a setup counts on, so the runtime it brings has another number
  | loaded h_slot h_recover =>
    refine ⟨h.started.trans (Nat.le_succ _), fun _ _ _ h_pending => (nomatch h_pending), ?_,
      h.retired, h.calls⟩
    rintro _ ⟨⟩ h_number
    exact absurd h_number (Nat.lt_succ_of_le h.started).ne'
  | recovering h_slot h_recover =>
    exact ⟨h.started.trans (Nat.le_succ _), fun _ _ _ _ => Nat.lt_succ_of_le h.started,
      fun _ h_r => (nomatch h_r), h.retired, h.calls⟩
  | recovered h_slot =>
    -- the runtime that recovered has the number its setup was given
    refine ⟨h.started, fun _ _ _ h_pending => (nomatch h_pending), ?_, h.retired, h.calls⟩
    rintro _ ⟨⟩ h_number
    exact absurd h_number (h.pending _ _ _ h_slot).ne'
  | saveFailed =>
    exact ⟨h.started, fun _ _ _ h_pending => (nomatch h_pending), fun _ h_r => (nomatch h_r),
      h.retired, h.calls⟩
  | crashed =>
    exact ⟨h.started, fun _ _ _ h_pending => (nomatch h_pending), fun _ h_r => (nomatch h_r),
      fun _ h_r => absurd h_r List.not_mem_nil, h.calls⟩

/-- The retired runtimes came before the one that is set up. -/
def Succeeded (s : System) : Prop :=
  ∀ r ∈ s.retired, r.number ≤ s.started ∧ (s.slot = .vacant ∨ r.number < s.started)

theorem Succeeded.retire (h : s.Succeeded) (h_inv : s.Inv) (h_slot : s.slot.runtime = some r) :
    (s.retire r).Succeeded := by
  intro r' h_r'
  refine ⟨?_, Or.inl rfl⟩
  rcases List.mem_append.mp h_r' with h_old | h_new
  · exact (h r' h_old).1
  · rw [List.mem_singleton.mp h_new]
    exact (h_inv.number r h_slot).le

theorem Succeeded.step (h : s.Succeeded) (h_inv : s.Inv)
    (h_step : System.step event s = .ok s') : s'.Succeeded := by
  -- a setup counts on, so what is retired by then stays behind it
  have h_counted {slot : Slot} :
      Succeeded { s with slot := slot, started := s.started + 1 } := fun r h_r =>
    ⟨(h r h_r).1.trans (Nat.le_succ _), Or.inr (Nat.lt_succ_of_le (h r h_r).1)⟩
  -- and so it does as long as that setup lasts
  have h_occupied {slot : Slot} (h_slot : s.slot ≠ .vacant) : Succeeded { s with slot := slot } :=
    fun r h_r => ⟨(h r h_r).1, Or.inr ((h r h_r).2.resolve_left h_slot)⟩
  cases fired_of_step h_step with
  | @acted act r r' effect h_slot h_act =>
    have h_vacant : s.slot ≠ .vacant := by
      intro h_vacant
      rw [h_vacant] at h_slot
      exact nomatch h_slot
    intro r'' h_r''
    have h_old : r'' ∈ s.retired := (record_retired effect).symm ▸ h_r''
    dsimp only
    rw [record_started]
    exact ⟨(h r'' h_old).1, Or.inr ((h r'' h_old).2.resolve_left h_vacant)⟩
  | @retiredActed i act r r' effect h_r h_other h_act =>
    have h_mem := List.mem_of_getElem? h_r
    have h_number := ((h_inv.retired r h_mem).step_cases h_act).1.number
    intro r'' h_r''
    dsimp only
    rw [record_started, record_slot]
    rcases List.mem_or_eq_of_mem_set h_r'' with h_old | rfl
    · exact h r'' h_old
    · rw [h_number]
      exact h r h_mem
  | unloadBegan h_slot | unloadFailed h_slot => exact h_occupied (by rw [h_slot]; exact nofun)
  | unloaded h_slot | rolledBack h_slot => exact h.retire h_inv (by rw [h_slot]; rfl)
  | loaded | recovering => exact h_counted
  | recovered h_slot =>
    exact fun r h_r => ⟨(h r h_r).1,
      Or.inr ((h r h_r).2.resolve_left (by rw [h_slot]; exact nofun))⟩
  | saveFailed => exact fun r h_r => ⟨(h r h_r).1, Or.inl rfl⟩
  | crashed => exact fun _ h_r => absurd h_r List.not_mem_nil

end System

/-! ### The calls that are guarded -/

/-- A call that waits for its save and is no report is harmless once the topology is latched. -/
def Runtime.Guarded (r : Runtime) : Prop :=
  ∀ held, r.holder = some held → held.task ≠ .observation → Runtime.Harmless r.state held

namespace Runtime

variable {r r' w : Runtime} {act : Act} {effect : Option Effect} {task : Task}
  {call : PlannerCall}

theorem Guarded.of_frame (h : r.Guarded) (frame : Frame r r') : r'.Guarded := by
  intro held h_held h_task
  rw [frame.state]
  exact h held (frame.holder ▸ h_held) h_task

theorem Guarded.of_free (h : r.holder = none) : r.Guarded := by
  intro held h_held
  rw [h] at h_held
  exact nomatch h_held

theorem Guarded.enter (h_free : r.holder = none) (h_request : Requests r act w task call) :
    (w.enter task call).Guarded := by
  have h_guarded (generation : ℕ) (command : PlannerState → Except PyError PlannerState)
      (task : Task) (updated : PlannerState) :
      Harmless w.state ⟨task, guardedCall generation command, updated, false⟩ :=
    Or.inr fun _ h_latched => RuntimeFlags.Latched.refuses h_latched generation
  have h_holder : w.holder = none := by
    cases h_request with
    | startNext | mutate | observe | quarantineAll | claim | accept | quarantine => exact h_free
  unfold Runtime.enter
  split
  · exact (Guarded.of_free h_holder).of_frame (raised_frame w _ task)
  · exact (Guarded.of_free h_holder).of_frame (returned_spec w false task).1
  · next updated h_prepared =>
    rintro _ ⟨⟩ h_task
    show Harmless w.state ⟨task, call, updated, false⟩
    cases h_request with
    | startNext | mutate | claim | accept => exact h_guarded ..
    -- the two that are not guarded in this way run as observations
    | observe | quarantineAll => exact absurd rfl h_task
    | quarantine => exact Or.inl (recordUncertain_quarantines (quarantineCall_prepared h_prepared).2)

theorem Guarded.step (h : r.Guarded) (h_step : r.step act = .ok (r', effect)) : r'.Guarded := by
  cases acted_of_step h_step with
  | latched => exact h
  | failedClosed =>
    unfold failClosed
    split <;> exact h
  | entered h_free h_request => exact .enter h_free (requests_of_request h_request)
  | preflighted | rejected | serviceReturned | serviceRaised | cancelledReady
  | cancelledCleaned => exact h.of_frame (setStage_frame ..)
  | called h_d h_next =>
    unfold callService
    split <;> exact h.of_frame (setStage_frame ..)
  | @saved held h_holder h_unsaved =>
    -- the call that holds the lock is the same after its save
    rintro _ ⟨⟩ h_task
    exact h held h_holder h_task
  | saveRaised | cancelledHolder =>
    exact (Guarded.of_free (r := { r with holder := none }) rfl).of_frame (raised_frame _ _ _)
  | @resumed held h_holder h_saved =>
    unfold resume
    split
    · exact (Guarded.of_free (r := { r with holder := none }) rfl).of_frame (raised_frame _ _ _)
    · exact (Guarded.of_free (r := { r with holder := none, state := held.updated }) rfl).of_frame
        (returned_spec _ true held.task).1

end Runtime

namespace System

end System

/-- A dispatch whose topology is lost while the vacuum cleans, and the task of `fail_closed`. -/
def latchedDispatch : List SystemEvent :=
  .load 0 false true :: dispatched (kitchenStart "key" kitchenIds 0) ++
    ([.callService 0, .failClosed 3, .quarantineAll 0, .saved, .resumed] : List Act).map .act

end VacuumPlanner
