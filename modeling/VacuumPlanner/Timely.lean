import VacuumPlanner.SendOnce

/-!
# No external call for a settled block

Between the claim of a block and its two external calls other commands may run, and a
report may settle the very block. The guard before each call asks about the runtime only:
its generation and its topology, not the block. And while `clean_area` is under way nothing
holds a report back either.

All commands but the reports leave a block in flight that is, the quarantine of the
dispatch itself apart, which a dispatch requests only once it is past its calls. So every
external call begins for a block in flight, and the block stays in flight until its
`clean_area` has come back (`calls_in_flight`), in the runs in which no report settles the
block of a dispatch whose calls are not over (`System.ReportsSpare`). A report that comes
while `select_option` is pending shows what the guard misses (`call_for_a_failed_block`).
-/

namespace VacuumPlanner

open Framework

namespace Runtime

variable {r r' : Runtime} {act : Act} {effect : Option Effect} {d' : Dispatch}

/-- The calls of the dispatch are not over: it has one to begin and can still pass its guard, or
its `clean_area` is under way. -/
def Calling (r : Runtime) (d : Dispatch) : Prop :=
  d.stage = .cleaning ∨ d.stage.launching = true ∧ ¬ r.flags.Expired d.generation

/-- The block of a dispatch whose calls are not over is in flight. -/
def Timely (r : Runtime) : Prop :=
  ∀ (i : ℕ) (d : Dispatch), r.dispatches[i]? = some d → r.Calling d →
    InFlight r.state.ledger d.blockId

/-- The vacuum is on an external run of the block: its `clean_area` call has begun and not come
back. -/
def Runs (r : Runtime) (b : QueueBlock) : Prop :=
  ∃ d ∈ r.dispatches, d.stage = .cleaning ∧ d.blockId = b.blockId

instance (flags : RuntimeFlags) (generation : ℕ) : Decidable (flags.Expired generation) :=
  inferInstanceAs (Decidable (flags.topologyReady = false ∨ generation < flags.commandGeneration))

instance (r : Runtime) (d : Dispatch) : Decidable (r.Calling d) :=
  inferInstanceAs (Decidable (_ ∨ _))

instance (r : Runtime) (b : QueueBlock) : Decidable (r.Runs b) :=
  inferInstanceAs (Decidable (∃ d ∈ r.dispatches, _))

/-- If a report is about to be assigned, it takes no block out of flight whose dispatch is not
done with its calls. -/
def ReportSpares (r : Runtime) : Prop :=
  ∀ held, r.holder = some held → held.task = .observation →
    ∀ d ∈ r.dispatches, r.Calling d →
      InFlight r.state.ledger d.blockId → InFlight held.updated.ledger d.blockId

instance (r : Runtime) : Decidable r.ReportSpares :=
  inferInstanceAs (Decidable (∀ held, r.holder = some held → held.task = .observation →
    ∀ d ∈ r.dispatches, r.Calling d →
      InFlight r.state.ledger d.blockId → InFlight held.updated.ledger d.blockId))

theorem Calling.active (h : r.Calling d') : d'.stage.active = true := by
  rcases h with h_cleaning | ⟨h_launching, -⟩
  · rw [h_cleaning]
    rfl
  · exact Stage.active_of_launching h_launching

/-- Calls that are not over were not over before. -/
theorem Calling.traced {i : ℕ} (h : r'.Calling d') (h_traced : r.Traced i d')
    (later : RuntimeFlags.Later r.flags r'.flags) :
    ∃ d, r.dispatches[i]? = some d ∧ d.blockId = d'.blockId ∧ r.Calling d := by
  obtain ⟨d, h_d, -, h_id, h_gen, h_launch, h_clean⟩ := h_traced
  refine ⟨d, h_d, h_id, ?_⟩
  rcases h with h_cleaning | ⟨h_launching, h_current⟩
  · rcases h_clean h_cleaning with h_before | ⟨h_launching, h_passes⟩
    · exact Or.inl h_before
    · -- `clean_area` begins now, and its guard has passed
      exact Or.inr ⟨h_launching, RuntimeFlags.not_expired h_passes⟩
  · exact Or.inr ⟨h_launch h_launching, fun h_expired => h_current (h_gen ▸ h_expired.later later)⟩

theorem Timely.with_flags (h : r.Timely) {flags : RuntimeFlags}
    (later : RuntimeFlags.Later r.flags flags) : Timely { r with flags := flags } :=
  fun i d h_d h_calling => h i d h_d
    (h_calling.imp_right fun ⟨h_launching, h_current⟩ =>
      ⟨h_launching, fun h_expired => h_current (h_expired.later later)⟩)

theorem Timely.fresh (number : ℕ) (dryRun topologyReady : Bool) (state : PlannerState) :
    Timely (fresh number dryRun topologyReady state) :=
  fun _ _ h_d => (nomatch h_d)

theorem Timely.step (h : r.Timely) (inv : r.Inv) (forward : r.Forward act r')
    (h_spares : act = .resumed → r.ReportSpares) (h_step : r.RuntimeStep act r' effect) :
    r'.Timely := by
  have h_still (state : r'.state = r.state) (traces : r.Traces r') : r'.Timely := by
    intro i d' h_d' h_calling
    obtain ⟨d, h_d, h_id, h_before⟩ :=
      h_calling.traced (traces i d' h_d' h_calling.active) forward.later
    -- the ledger is as it was, and so are the blocks whose calls are made
    rw [← h_id, state]
    exact h i d h_d h_before
  cases h_step with
  | quiet state holder traces undisturbed => exact h_still state traces
  | begins i d service state holder traces undisturbed h_d launching passes last =>
    exact h_still state traces
  | waits held free state holder unsaved traces awake derived => exact h_still state traces
  | saved held h_holder unsaved state holder dispatches =>
    exact h_still state (.of_eq dispatches)
  | released held h_holder state holder traces late => exact h_still state traces
  | assigned held h_holder h_saved h_act state holder traces =>
    have h_derived := inv.derived held h_holder
    intro i d' h_d' h_calling
    rw [state]
    rcases traces i d' h_d' h_calling.active with h_traced | h_gained
    · obtain ⟨d, h_d, h_id, h_before⟩ := h_calling.traced h_traced forward.later
      have h_flight : InFlight r.state.ledger d.blockId := h i d h_d h_before
      rw [← h_id]
      rcases h_derived.inFlight d.blockId h_flight with h_in | h_report | ⟨j, e, h_task, h_e, h_own⟩
      · exact h_in
      · exact h_spares h_act held h_holder h_report d (List.mem_of_getElem? h_d) h_before h_flight
      · -- The quarantine of this block is its own, and past the calls.
        obtain ⟨e', h_e', h_stage⟩ := h_derived.awaits j .quarantining (by rw [h_task]; rfl)
        obtain rfl : e = e' := Option.some.inj (h_e.symm.trans h_e')
        have h_e_active : e.stage.active = true := by rw [h_stage]; rfl
        obtain rfl : i = j :=
          inv.distinct i j d e h_d h_e h_before.active h_e_active h_own.symm
        obtain rfl : d = e := Option.some.inj (h_d.symm.trans h_e)
        rcases h_before with h_cleaning | ⟨h_launching, -⟩
        · exact nomatch h_stage.symm.trans h_cleaning
        · rw [h_stage] at h_launching
          exact nomatch h_launching
    -- a new call is the claim that has just been assigned
    · obtain ⟨⟨modeOption, h_task⟩, d, h_d, h_id, -⟩ := h_gained
      rw [← h_id]
      exact (h_derived.claim i modeOption d h_task h_d).2.2

/-- The block of an external run is in flight. -/
theorem Timely.runs (h : r.Timely) {b : QueueBlock} (hb : b ∈ r.state.ledger.blocks)
    (h_runs : r.Runs b) : b.state ∈ inFlightStates := by
  obtain ⟨d, h_d, h_cleaning, h_id⟩ := h_runs
  obtain ⟨i, h_i⟩ := List.getElem?_of_mem h_d
  obtain ⟨c, hc, h_c, h_state⟩ := h i d h_i (Or.inl h_cleaning)
  obtain rfl := eq_of_key r.state.ledger.valid.blockIds hb hc (h_id.symm.trans h_c.symm)
  exact h_state

end Runtime

theorem not_terminal_of_inFlight {state : BlockState} (h : state ∈ inFlightStates) :
    state.terminal = false := by
  revert h
  cases state <;> decide

/-- The save of the call that holds the lock has returned. -/
def Act.resumes : Act → Bool
  | .resumed => true
  | _ => false

theorem Act.resumes_resumed : Act.resumes .resumed = true := rfl

namespace System

variable {s s' : System} {event : SystemEvent} {r r' : Runtime} {act : Act}
  {effect : Option Effect}

/-- No report settles the block of a dispatch whose calls are not over. -/
def ReportsSpare (s : System) : SystemEvent → Prop
  | .act act => act.resumes = true → ∀ r, s.slot.runtime = some r → r.ReportSpares
  | .retiredAct i act => act.resumes = true → ∀ r, s.retired[i]? = some r → r.ReportSpares
  | _ => True

instance (s : System) (event : SystemEvent) : Decidable (s.ReportsSpare event) :=
  match event with
  | .act act => inferInstanceAs
    (Decidable (act.resumes = true → ∀ r, s.slot.runtime = some r → r.ReportSpares))
  | .retiredAct i act => inferInstanceAs
    (Decidable (act.resumes = true → ∀ r, s.retired[i]? = some r → r.ReportSpares))
  | .unloadBegins | .unloadFails | .unloaded | .rolledBack | .load _ _ _ | .setupSaved
  | .setupSaveRaised | .crash => isTrue trivial

/-- The runtime is in the slot, or retired. -/
def Has (s : System) (r : Runtime) : Prop := s.slot.runtime = some r ∨ r ∈ s.retired

/-- Every external call begins for a block that is in flight, and from the begin of its
`clean_area` to its return a block stays in flight on its coordinator. So no lane has an external
run of a settled block, whether a newer one is open or not. -/
structure CallsInFlight (disk : PlannerState) (s : System) : Prop where
  inFlight : ∀ call ∈ s.begun, InFlight call.memory.ledger call.dispatch.blockId
  runs : ∀ r, s.Has r → ∀ b ∈ r.state.ledger.blocks, r.Runs b → b.state ∈ inFlightStates
  /-- From lanes in order, the block is the one open block of its lane all the time. -/
  alone : LanesOrdered disk.ledger →
    (∀ call ∈ s.begun, OneOpenBlockPerLane call.memory.ledger) ∧
    ∀ r, s.Has r → ∀ b ∈ r.state.ledger.blocks, r.Runs b →
      ∀ c ∈ r.state.ledger.blocks, c.laneId = b.laneId → c.state.terminal = false → c = b

structure TimelyInv (s : System) : Prop where
  inFlight : ∀ call ∈ s.begun, InFlight call.memory.ledger call.dispatch.blockId
  timely : ∀ r, s.Has r → r.Timely

/-- A call that begins is made from the memory of its runtime, which passes its guard. -/
theorem record_begun (effect : Option Effect) {call : BegunCall}
    (h : call ∈ (s.record r effect).begun) :
    call ∈ s.begun ∨ ∃ service, effect = some (.begins service call.dispatch) ∧
      call.memory = r.state := by
  rcases effect with _ | _ | ⟨service, d⟩
  · exact Or.inl h
  · exact Or.inl h
  · refine (List.mem_append.mp h).imp_right fun h_new => ?_
    rw [List.mem_singleton.mp h_new]
    exact ⟨service, rfl, rfl⟩

theorem record_inFlight (h : ∀ call ∈ s.begun, InFlight call.memory.ledger call.dispatch.blockId)
    (timely : r.Timely) (h_step : r.RuntimeStep act r' effect) :
    ∀ call ∈ (s.record r effect).begun, InFlight call.memory.ledger call.dispatch.blockId := by
  intro call h_call
  rcases record_begun effect h_call with h_old | ⟨service, rfl, h_memory⟩
  · exact h call h_old
  · cases h_step with
    | begins i d service state holder traces undisturbed h_d launching passes last =>
      rw [h_memory]
      exact timely i _ h_d (Or.inr ⟨launching, RuntimeFlags.not_expired passes⟩)

theorem TimelyInv.retire (h : s.TimelyInv) (h_slot : s.slot.runtime = some r) :
    (s.retire r).TimelyInv where
  inFlight := h.inFlight
  timely r' h_r' := by
    rcases h_r' with h_slot' | h_retired
    · exact nomatch h_slot'
    · rcases List.mem_append.mp h_retired with h_old | h_new
      · exact h.timely r' (Or.inr h_old)
      · rw [List.mem_singleton.mp h_new]
        exact (h.timely r (Or.inl h_slot)).with_flags (RuntimeFlags.shutdownRuntime_later _)

/-- The runtime in the slot is replaced by a timely one. -/
theorem TimelyInv.put (h : s.TimelyInv) {slot : Slot} {started : ℕ} {disk : PlannerState}
    {writes : List StoreWrite} (h_slot : ∀ r, slot.runtime = some r → r.Timely) :
    TimelyInv { s with slot, started, disk, writes } where
  inFlight := h.inFlight
  timely r' h_r' := h_r'.elim (h_slot r') fun h_retired => h.timely r' (Or.inr h_retired)

theorem TimelyInv.step (h : s.TimelyInv) (h_inv : s.Inv) (h_event : s.ReportsSpare event)
    (h_step : System.step event s = .ok s') : s'.TimelyInv := by
  cases fired_of_step h_step with
  | @acted act r r' effect h_slot h_act =>
    have h_timely : r.Timely := h.timely r (Or.inl h_slot)
    obtain ⟨forward, step, -⟩ := (h_inv.slot r h_slot).step_cases h_act
    -- a report that resumes settles no block whose calls are not over: that is `ReportsSpare`
    have h_next : r'.Timely := h_timely.step (h_inv.slot r h_slot) forward
      (fun h_resumed => h_event (h_resumed ▸ Act.resumes_resumed) r h_slot) step
    refine ⟨record_inFlight h.inFlight h_timely step, fun r'' h_r'' => ?_⟩
    rcases h_r'' with h_put | h_retired
    · obtain rfl := Option.some.inj ((Slot.runtime_put h_slot).symm.trans h_put)
      exact h_next
    -- the runtime in the slot has not acted
    · exact h.timely r'' (Or.inr ((record_retired effect) ▸ h_retired))
  | @retiredActed i act r r' effect h_r h_other h_act =>
    have h_mem := List.mem_of_getElem? h_r
    have h_timely : r.Timely := h.timely r (Or.inr h_mem)
    obtain ⟨forward, step, -⟩ := (h_inv.retired r h_mem).step_cases h_act
    have h_next : r'.Timely := h_timely.step (h_inv.retired r h_mem) forward
      (fun h_resumed => h_event (h_resumed ▸ Act.resumes_resumed) r h_r) step
    refine ⟨record_inFlight h.inFlight h_timely step, fun r'' h_r'' => ?_⟩
    rcases h_r'' with h_slot | h_retired
    · exact h.timely r'' (Or.inl ((record_slot effect) ▸ h_slot))
    · rcases List.mem_or_eq_of_mem_set h_retired with h_old | rfl
      · exact h.timely r'' (Or.inr h_old)
      · exact h_next
  | @unloadBegan r h_slot =>
    refine h.put ?_
    rintro _ ⟨⟩
    exact (h.timely r (Or.inl (by rw [h_slot]; rfl))).with_flags
      (RuntimeFlags.invalidateCommands_later _)
  | @unloadFailed r h_slot =>
    refine h.put ?_
    rintro _ ⟨⟩
    exact (h.timely r (Or.inl (by rw [h_slot]; rfl))).with_flags
      (RuntimeFlags.activateCommands_later _)
  | unloaded h_slot | rolledBack h_slot => exact h.retire (by rw [h_slot]; rfl)
  -- no dispatch of a new runtime exists yet
  | loaded h_slot h_recover =>
    refine h.put ?_
    rintro _ ⟨⟩
    exact Runtime.Timely.fresh _ _ _ _
  | recovered h_slot =>
    refine h.put ?_
    rintro _ ⟨⟩
    exact Runtime.Timely.fresh _ _ _ _
  | recovering h_slot h_recover => exact h.put fun _ h_r => (nomatch h_r)
  | saveFailed => exact h.put fun _ h_r => (nomatch h_r)
  | crashed =>
    exact ⟨h.inFlight, fun _ h_r => h_r.elim (fun h_slot => nomatch h_slot)
      fun h_retired => absurd h_retired List.not_mem_nil⟩

/-- In a run from lanes in order, every call is made from a memory whose lanes are. -/
theorem begun_lanes (h : ∀ call ∈ s.begun, LanesOrdered call.memory.ledger)
    (h_lanes : s.Everywhere LanesOrdered) (h_step : SystemStep event s s') :
    ∀ call ∈ s'.begun, LanesOrdered call.memory.ledger := by
  -- the memory recorded with a call is that of the runtime that makes it
  have h_record {r : Runtime} (h_r : LanesOrdered r.state.ledger) (effect : Option Effect) :
      ∀ call ∈ (s.record r effect).begun, LanesOrdered call.memory.ledger := by
    intro call h_call
    rcases record_begun effect h_call with h_old | ⟨-, -, h_memory⟩
    · exact h call h_old
    · rw [h_memory]
      exact h_r
  cases h_step with
  | acted act r r' effect h_act h_slot forward step inv h_s' =>
    subst h_s'
    exact h_record (h_lanes.runtime r h_slot) effect
  | retiredActed i act r r' effect h_r h_act forward step inv h_s' =>
    subst h_s'
    exact h_record (h_lanes.retired r (List.mem_of_getElem? h_r)) effect
  | unloadBegan r h_slot h_s' | unloadFailed r h_fails h_slot h_s' | unloaded r h_slot h_s'
  | loaded reconciledAt dryRun topologyReady h_load h_slot h_s'
  | recovering reconciledAt dryRun topologyReady recovered h_load h_slot advances h_s'
  | recovered recovered dryRun topologyReady h_slot h_s' | emptied retired h_emptied h_s' =>
    subst h_s'
    exact h

/-- **No external call for a settled block**, in every state of a run in which no report
settles the block of a dispatch whose calls are not over. -/
theorem calls_in_flight (disk : PlannerState) (events : List SystemEvent)
    (h_run : EachStep step ReportsSpare (start disk) events) (n : ℕ) :
    CallsInFlight disk (stateAt step (start disk) events n) := by
  have h_timely : Inv (stateAt step (start disk) events n) ∧
      TimelyInv (stateAt step (start disk) events n) := by
    refine EachStep.stateAt (I := fun s => Inv s ∧ TimelyInv s)
      (fun s event s' h h_event h_step => ?_) h_run
      ⟨.start disk, fun _ h => (nomatch h), fun _ h => h.elim (fun h_slot => nomatch h_slot)
        fun h_retired => absurd h_retired List.not_mem_nil⟩ n
    exact ⟨h.1.step (step_cases h.1 h_step), h.2.step h.1 h_event h_step⟩
  have h_runs : ∀ r, Has (stateAt step (start disk) events n) r →
      ∀ b ∈ r.state.ledger.blocks, r.Runs b → b.state ∈ inFlightStates :=
    fun r h_r b hb h_b => (h_timely.2.timely r h_r).runs hb h_b
  refine ⟨h_timely.2.inFlight, h_runs, fun h_disk => ?_⟩
  -- the rest needs lanes in order, which every command keeps
  have h_lanes : Inv (stateAt step (start disk) events n) ∧
      (stateAt step (start disk) events n).Everywhere LanesOrdered ∧
      ∀ call ∈ (stateAt step (start disk) events n).begun, LanesOrdered call.memory.ledger := by
    refine EachStep.stateAt
      (I := fun s => Inv s ∧ s.Everywhere LanesOrdered ∧
        ∀ call ∈ s.begun, LanesOrdered call.memory.ledger)
      (fun s event s' h h_event h_step => ?_) h_run
      ⟨.start disk, .start h_disk, fun _ h => (nomatch h)⟩ n
    have h_cases := step_cases h.1 h_step
    exact ⟨h.1.step h_cases, h.2.1.step (fun advances => advances.lanes) h.1 h_cases,
      begun_lanes h.2.2 h.2.1 h_cases⟩
  refine ⟨fun call h_call => (h_lanes.2.2 call h_call).oneOpen,
    fun r h_r b hb h_b c hc h_lane h_open => ?_⟩
  have h_ordered : LanesOrdered r.state.ledger :=
    h_r.elim (h_lanes.2.1.runtime r) (h_lanes.2.1.retired r)
  -- the block of a call is open, so it is the one of its lane
  have h_b_open : b.state.terminal = false := not_terminal_of_inFlight (h_runs r h_r b hb h_b)
  exact h_ordered.oneOpen.unique c hc b hb h_lane h_open h_b_open

end System

/-! ### A call for a failed block -/

/-- A dispatch that selects a cleaning mode before it cleans. -/
def selectingDispatch : List SystemEvent :=
  .load 0 false true ::
    ([.startNext (kitchenStart "key" kitchenIds 0) 0, .saved, .resumed,
      .preflight 0 (.ok (some "Vacuum")), .claim 0 0, .saved, .resumed, .callService 0] :
        List Act).map .act

/-- A dispatch without a report in between. -/
def quietDispatch : List SystemEvent :=
  selectingDispatch ++ [.act (.serviceReturned 0), .act (.callService 0)]

theorem calls_in_flight_quiet :
    System.CallsInFlight kitchenState
      (stateAt System.step (System.start kitchenState) quietDispatch 11) :=
  System.calls_in_flight kitchenState quietDispatch (by decide) 11

/-- The vacuum reports a failure while the selection of the mode is pending. -/
def failedWhileSelecting : List SystemEvent :=
  selectingDispatch ++ ([.observe .failed 1 laterIds 0, .saved, .resumed, .serviceReturned 0,
    .callService 0] : List Act).map .act

/-- **A call begins for a failed block**: the report is assigned before the mode is selected,
and the guard before `clean_area` passes. -/
theorem call_for_a_failed_block :
    ¬ System.CallsInFlight kitchenState
      (perform System.step (System.start kitchenState) failedWhileSelecting) :=
  fun h => absurd h.inFlight (by decide)

/-- The failure is reported while the vacuum is told to clean, and the next block is sealed. -/
def failedWhileCleaning : List SystemEvent :=
  quietDispatch ++ ([.observe .failed 1 laterIds 0, .saved, .resumed,
    .startNext (kitchenStart "next" (fun n => "next " ++ kitchenIds n) 2) 0, .saved, .resumed] :
      List Act).map .act

/-- **A run of a failed block** next to a newer one: all calls have begun in time, and the report
is the one that `ReportsSpare` excludes. -/
theorem run_of_a_failed_block :
    (∃ r ∈ (perform System.step (System.start kitchenState) failedWhileCleaning).slot.runtime,
      ∃ b ∈ r.state.ledger.blocks, r.Runs b ∧ b.state = .failed ∧
        ∃ c ∈ r.state.ledger.blocks, c.laneId = b.laneId ∧ c.state = .sealed) ∧
      ¬ EachStep System.step System.ReportsSpare (System.start kitchenState)
        failedWhileCleaning := by
  decide

end VacuumPlanner
