import VacuumPlanner.Naming
import VacuumPlanner.System

/-!
# Every state is made by commands

Runtimes come and go, a call waits for its save while reports and dispatches go on around it, the
save of an unloaded runtime lands late, a crash forgets everything but the store. None of it
makes a planner state of its own. Whatever is on disk, in the memory of a runtime, about to be
saved or assigned, or being recovered, is what some list of commands makes of the store the
entry began with, each command issued as the integration issues it
(`System.states_are_commanded`).

So the sequential machine of `PlannerCommand` stands for the whole system: what its commands keep
holds of all states of the system at once (`System.states_keep`).
-/

namespace VacuumPlanner

open Framework

/-! ### The commands of the planner -/

/-- A command of the integration, or what a user does to a plan or a queue. -/
inductive PlannerCommand where
  | integration (command : IntegrationCommand)
  | mutate (mutation : Mutation)

namespace PlannerCommand

def run : PlannerCommand → PlannerState → Except PyError PlannerState
  | .integration command, s => command.run s
  | .mutate mutation, s => mutation.run s

/-- What the integration passes with the command. -/
def Issued (s : PlannerState) : PlannerCommand → Prop
  | .integration command => VacuumPlanner.Issued s command
  | .mutate _ => True

end PlannerCommand

/-- The time the command completes jobs at, if it is one that completes jobs. -/
def PlannerCommand.completesAt : PlannerCommand → Option Instant
  | .integration (.observe .completed observedAt _) => some observedAt
  | _ => none

/-- One command that is issued and returns normally. -/
def Ran (s s' : PlannerState) : Prop :=
  ∃ c : PlannerCommand, c.Issued s ∧ c.run s = .ok s'

/-- The same, of a command that completes jobs at `t`, or completes none. -/
def RanAs (t : Option Instant) (s s' : PlannerState) : Prop :=
  ∃ c : PlannerCommand, c.Issued s ∧ c.run s = .ok s' ∧ c.completesAt = t

/-- A list of commands, each issued as the integration issues it. -/
def Commanded (s s' : PlannerState) : Prop :=
  ∃ commands : List PlannerCommand,
    EachStep PlannerCommand.run PlannerCommand.Issued s commands ∧
      perform PlannerCommand.run s commands = s'

variable {s s' s'' : PlannerState}

theorem Commanded.refl (s : PlannerState) : Commanded s s := ⟨[], trivial, rfl⟩

theorem Commanded.tail (h : Commanded s s') (h_ran : Ran s' s'') : Commanded s s'' := by
  obtain ⟨commands, h_issued, rfl⟩ := h
  obtain ⟨c, h_c, h_run⟩ := h_ran
  refine ⟨commands ++ [c], h_issued.concat h_c, ?_⟩
  rw [perform_append, perform_cons, perform_nil, attempt_of_ok h_run]

/-- A command of the integration, or a new plan. -/
theorem Ran.updates (h : Ran s s') : Updates s s' := by
  obtain ⟨c, h_issued, h_run⟩ := h
  cases c with
  | integration command => exact .runs command h_issued h_run
  | mutate mutation => exact Mutation.run_updates h_run

theorem RanAs.ran {t : Option Instant} (h : RanAs t s s') : Ran s s' := by
  obtain ⟨c, h_issued, h_run, -⟩ := h
  exact ⟨c, h_issued, h_run⟩

theorem RanAs.of_issued (command : IntegrationCommand) (issued : Issued s command)
    (run : command.run s = .ok s') :
    RanAs (PlannerCommand.integration command).completesAt s s' :=
  ⟨.integration command, issued, run, rfl⟩

theorem startNextCommand_ran {call : StartNextCall} {outcome : SealOutcome}
    (h : startNextCommand call s = .ok (s', outcome)) (h_changed : s' ≠ s) : RanAs none s s' := by
  cases startNextCommand_ok h with
  | cancelled h_cancel =>
    exact .of_issued (.cancelPendingBlock _ call.evaluatedAt) trivial h_cancel
  | existing | found => exact absurd rfl h_changed
  | started h_plan h_first h_start _ h_made =>
    exact .of_issued
      (.startDueBlock _ _ _ call.evaluatedAt call.idFactory call.dryRun) trivial
      (bind_eq_ok.mpr ⟨_, h_start, h_made⟩)

/-- So is what restart recovery saves. -/
theorem recover_ran {reconciledAt : Instant} (h : recover s reconciledAt = .ok (some s')) :
    Ran s s' := by
  unfold recover at h
  obtain ⟨L, h_L, h⟩ := bind_eq_ok.mp h
  split at h
  · obtain ⟨t, h_t, h⟩ := bind_eq_ok.mp h
    obtain rfl := Option.some.inj (pure_eq_ok.mp h)
    exact (RanAs.of_issued (.recover reconciledAt) trivial (bind_eq_ok.mpr ⟨L, h_L, h_t⟩)).ran
  · exact nomatch pure_eq_ok.mp h

/-! ### The states of a runtime -/

/-- The time an act completes jobs at, if it is a report that completes jobs. -/
def Act.completesAt : Act → Option Instant
  | .observe .completed observedAt _ _ => some observedAt
  | _ => none

namespace Runtime

variable {r r' w : Runtime} {act : Act} {effect : Option Effect} {task : Task}
  {call : PlannerCall}

/-- A call that reaches its save has run a command. -/
theorem request_ran (h : r.Named) (h_request : act.request r = some (w, task, call))
    {updated : PlannerState} (h_prepared : (call.prepare r.flags r.state).1 = .ok (some updated)) :
    RanAs act.completesAt r.state updated := by
  -- a call runs its command on the state it finds under the lock
  cases requests_of_request h_request with
  | startNext h_outcome =>
    obtain ⟨-, h_command, h_changed⟩ := guardedCall_prepared h_prepared
    obtain ⟨⟨t, outcome⟩, h_start, rfl⟩ := map_eq_ok.mp h_command
    exact startNextCommand_ran h_start h_changed
  | @mutate mutation generation =>
    obtain ⟨-, h_command, -⟩ := guardedCall_prepared h_prepared
    exact ⟨.mutate mutation, trivial, h_command, rfl⟩
  | @observe outcome observedAt revisionIds generation =>
    obtain ⟨-, h_command⟩ := observationCall_prepared h_prepared
    exact ⟨.integration (.observe outcome observedAt revisionIds), trivial, h_command,
      by cases outcome <;> rfl⟩
  | @quarantineAll n observedAt h_n =>
    obtain ⟨-, h_command⟩ := observationCall_prepared h_prepared
    exact .of_issued (.observe .uncertain observedAt fun _ => "") trivial h_command
  | @claim i now blockId jobs generation modeOption h_d =>
    obtain ⟨-, h_command, -⟩ := guardedCall_prepared h_prepared
    obtain ⟨⟨t, claimed⟩, h_claim, rfl⟩ := map_eq_ok.mp h_command
    exact .of_issued (.claim blockId now) trivial (bind_eq_ok.mpr ⟨_, h_claim, rfl⟩)
  | @accept i acceptedAt blockId jobs generation h_d =>
    obtain ⟨-, h_command, -⟩ := guardedCall_prepared h_prepared
    -- the jobs it names are those of the dispatch, and these are the jobs of its block
    have h_names := h.dispatches _ (List.mem_of_getElem? h_d)
    exact .of_issued (.recordDispatchAcceptance blockId jobs acceptedAt)
      (fun b hb h_id => h_names.jobIds hb h_id) h_command
  | @quarantine i reconciledAt blockId jobs generation h_d =>
    obtain ⟨-, h_command⟩ := quarantineCall_prepared h_prepared
    exact .of_issued (.recordUncertain blockId reconciledAt) trivial h_command

/-- The call that holds the lock has just been prepared. -/
theorem enter_held (h_free : r.holder = none) (h_request : act.request r = some (w, task, call))
    {held : Held} (h_held : (w.enter task call).holder = some held) :
    (call.prepare r.flags r.state).1 = .ok (some held.updated) := by
  have h_spec := request_spec h_request
  have h_none : w.holder = none := h_spec.holder.trans h_free
  unfold enter at h_held
  rw [h_spec.flags, h_spec.state] at h_held
  split at h_held
  · exact nomatch (h_none.symm.trans (raised_frame w _ task).holder.symm).trans h_held
  · exact nomatch (h_none.symm.trans (returned_frame w false task).holder.symm).trans h_held
  · next updated h_prepared =>
    obtain rfl := Option.some.inj h_held
    exact h_prepared

/-- What is in memory, and what waits to replace it. -/
def states (r : Runtime) : List PlannerState :=
  r.state :: (r.holder.map (·.updated)).toList

/-- `P` holds of the state, and what waits for its save is made of it by a command. -/
structure Holds (P : PlannerState → Prop) (r : Runtime) : Prop where
  named : r.Named
  waiting : ∀ held, r.holder = some held → Ran r.state held.updated
  state : P r.state

variable {P : PlannerState → Prop}

theorem Holds.fresh {state : PlannerState} (h : P state) (number : ℕ)
    (dryRun topologyReady : Bool) : (fresh number dryRun topologyReady state).Holds P :=
  ⟨.fresh number dryRun topologyReady state, fun _ h => (nomatch h), h⟩

theorem Holds.with_flags (h : r.Holds P) (flags : RuntimeFlags) :
    Runtime.Holds P { r with flags := flags } := ⟨h.named.with_flags flags, h.waiting, h.state⟩

theorem Holds.states (h : r.Holds P) (keeps : ∀ s s', Ran s s' → P s → P s') :
    ∀ state ∈ r.states, P state := by
  unfold Runtime.states
  rw [List.forall_mem_cons]
  refine ⟨h.state, fun state h_state => ?_⟩
  rw [Option.mem_toList, Option.map_eq_some_iff] at h_state
  obtain ⟨held, h_held, rfl⟩ := h_state
  exact keeps _ _ (h.waiting held h_held) h.state

/-- **One act.** It assigns what waited, and writes what waits. -/
theorem Holds.step (h : r.Holds P) (keeps : ∀ s s', Ran s s' → P s → P s')
    (h_step : r.step act = .ok (r', effect)) :
    r'.Holds P ∧ ∀ state, effect = some (.write state) → P state := by
  have h_named := h.named.step h_step
  cases step_shape h_step with
  | flags | moves | begins => exact ⟨⟨h_named, h.waiting, h.state⟩, nofun⟩
  | enters w task call h_free h_request =>
    have h_state := (enter_keeps h_request).2
    -- what waits is a state that a command has just made
    refine ⟨⟨h_named, fun held h_held => ?_, by rw [h_state]; exact h.state⟩, nofun⟩
    rw [h_state]
    exact (request_ran h.named h_request (enter_held h_free h_request h_held)).ran
  | saved held h_holder =>
    refine ⟨⟨h_named, ?_, h.state⟩, ?_⟩
    · rintro _ ⟨⟩
      exact h.waiting held h_holder
    · rintro _ ⟨⟩
      exact keeps _ _ (h.waiting held h_holder) h.state
  | raised held e h_holder =>
    have h_frame := raised_frame { r with holder := none } e held.task
    refine ⟨⟨h_named, fun held' h_held' => ?_, by rw [h_frame.state]; exact h.state⟩, nofun⟩
    exact nomatch h_frame.holder.symm.trans h_held'
  | assigned held h_holder =>
    have h_frame := returned_frame { r with holder := none, state := held.updated } true held.task
    refine ⟨⟨h_named, fun held' h_held' => ?_, ?_⟩, nofun⟩
    · exact nomatch h_frame.holder.symm.trans h_held'
    · rw [h_frame.state]
      exact keeps _ _ (h.waiting held h_holder) h.state

end Runtime

/-! ### The states of the system -/

/-- What a runtime or a setup has in memory. -/
def Slot.states : Slot → List PlannerState
  | .vacant => []
  | .settingUp recovered _ _ => [recovered]
  | .loaded r | .unloading r => r.states

namespace System

variable {s s' : System} {event : SystemEvent} {r : Runtime}

/-- Every planner state there is. -/
def states (s : System) : List PlannerState :=
  s.disk :: (s.slot.states ++ s.retired.flatMap Runtime.states)

/-! ### Every runtime -/

/-- Every runtime there is, the one in the slot and the retired ones. -/
def ForRuntimes (P : Runtime → Prop) (s : System) : Prop :=
  (∀ r, s.slot.runtime = some r → P r) ∧ ∀ r ∈ s.retired, P r

/-- What a runtime can start from: the store, or what a setup has recovered from it. -/
def Loads (s : System) (state : PlannerState) : Prop :=
  state = s.disk ∨ ∃ dryRun topologyReady, s.slot = .settingUp state dryRun topologyReady

/-- **What fresh runtimes have and acts keep**, whatever happens to the flags, every runtime has. -/
theorem ForRuntimes.step {P : Runtime → Prop} (h : s.ForRuntimes P) (h_inv : s.Inv)
    (fresh : ∀ state, s.Loads state → ∀ number dryRun topologyReady,
      P (.fresh number dryRun topologyReady state))
    (acts : ∀ {r r' : Runtime} {act : Act} {effect : Option Effect}, r.Inv → P r →
      r.step act = .ok (r', effect) → P r')
    (flags : ∀ {r : Runtime} (flags : RuntimeFlags), P r → P { r with flags := flags })
    (h_step : System.step event s = .ok s') : s'.ForRuntimes P := by
  cases fired_of_step h_step with
  | @acted act r r' effect h_slot h_act =>
    refine ⟨fun r'' h_r'' => ?_, ?_⟩
    · obtain rfl := Option.some.inj ((Slot.runtime_put h_slot).symm.trans h_r'')
      exact acts (h_inv.slot r h_slot) (h.1 r h_slot) h_act
    · exact (record_retired effect).symm ▸ h.2
  | @retiredActed i act r r' effect h_r h_other h_act =>
    have h_mem := List.mem_of_getElem? h_r
    refine ⟨?_, fun r'' h_r'' => ?_⟩
    · dsimp only
      rw [record_slot]
      exact h.1
    · rcases List.mem_or_eq_of_mem_set h_r'' with h_old | rfl
      · exact h.2 r'' h_old
      · exact acts (h_inv.retired r h_mem) (h.2 r h_mem) h_act
  | @unloadBegan r h_slot =>
    -- an unload changes the flags only
    refine ⟨?_, h.2⟩
    rintro _ ⟨⟩
    exact flags _ (h.1 r (by rw [h_slot]; rfl))
  | @unloadFailed r h_slot =>
    refine ⟨?_, h.2⟩
    rintro _ ⟨⟩
    exact flags _ (h.1 r (by rw [h_slot]; rfl))
  | @unloaded r h_slot | @rolledBack r h_slot =>
    -- the runtime of the slot is retired, with its flags changed
    refine ⟨fun _ h_r => (nomatch h_r), fun r' h_r' => ?_⟩
    rcases List.mem_append.mp h_r' with h_old | h_new
    · exact h.2 r' h_old
    · rw [List.mem_singleton.mp h_new]
      exact flags _ (h.1 r (by rw [h_slot]; rfl))
  | loaded h_slot h_recover =>
    refine ⟨?_, h.2⟩
    rintro _ ⟨⟩
    exact fresh _ (Or.inl rfl) ..
  -- between the recovery and its save there is no runtime
  | recovering h_slot h_recover => exact ⟨fun _ h_r => (nomatch h_r), h.2⟩
  | recovered h_slot =>
    refine ⟨?_, h.2⟩
    rintro _ ⟨⟩
    exact fresh _ (Or.inr ⟨_, _, h_slot⟩) ..
  | saveFailed => exact ⟨fun _ h_r => (nomatch h_r), h.2⟩
  | crashed => exact ⟨fun _ h_r => (nomatch h_r), fun _ h_r => absurd h_r List.not_mem_nil⟩

/-- The same, of every state of a run. -/
theorem ForRuntimes.stateAt {P : Runtime → Prop}
    (fresh : ∀ state number dryRun topologyReady, P (.fresh number dryRun topologyReady state))
    (acts : ∀ {r r' : Runtime} {act : Act} {effect : Option Effect}, r.Inv → P r →
      r.step act = .ok (r', effect) → P r')
    (flags : ∀ {r : Runtime} (flags : RuntimeFlags), P r → P { r with flags := flags })
    (disk : PlannerState) (events : List SystemEvent) (n : ℕ) :
    (stateAt System.step (start disk) events n).Inv ∧
      (stateAt System.step (start disk) events n).ForRuntimes P := by
  refine perform_invariant (I := fun s : System => s.Inv ∧ s.ForRuntimes P)
    (fun s event s' h h_step => ?_) ⟨.start disk, fun _ h_r => (nomatch h_r), fun _ h_r =>
      absurd h_r List.not_mem_nil⟩
  exact ⟨h.1.step (step_cases h.1 h_step), h.2.step h.1 (fun state _ => fresh state) acts flags h_step⟩

/-! ### What commands keep -/

/-- `P` holds of every planner state, as far as it is not the result of a pending call. -/
structure Holds (P : PlannerState → Prop) (s : System) : Prop where
  disk : P s.disk
  runtimes : s.ForRuntimes (Runtime.Holds P)
  recovered : ∀ recovered dryRun topologyReady,
    s.slot = .settingUp recovered dryRun topologyReady → P recovered

variable {P : PlannerState → Prop}

/-- What an act leaves on disk. -/
theorem record_disk {effect : Option Effect} (h : P s.disk)
    (h_write : ∀ state, effect = some (.write state) → P state) : P (s.record r effect).disk := by
  rcases effect with _ | _ | _
  · exact h
  · exact h_write _ rfl
  · exact h

theorem Holds.step (h : s.Holds P) (keeps : ∀ s s', Ran s s' → P s → P s') (h_inv : s.Inv)
    (h_step : System.step event s = .ok s') : s'.Holds P := by
  have h_runtimes : s'.ForRuntimes (Runtime.Holds P) := by
    refine h.runtimes.step h_inv (fun state h_loads => .fresh ?_)
      (fun _ h_r h_act => (h_r.step keeps h_act).1) (fun flags h_r => h_r.with_flags flags) h_step
    rcases h_loads with rfl | ⟨dryRun, topologyReady, h_slot⟩
    · exact h.disk
    · exact h.recovered _ _ _ h_slot
  cases fired_of_step h_step with
  | @acted act r r' effect h_slot h_act =>
    refine ⟨record_disk h.disk ((h.runtimes.1 r h_slot).step keeps h_act).2, h_runtimes,
      fun recovered dryRun topologyReady h_up => ?_⟩
    -- the slot has a runtime, so it is not being set up
    have h_put : (s.slot.put r').runtime = some r' := Slot.runtime_put h_slot
    have h_up : s.slot.put r' = .settingUp recovered dryRun topologyReady := h_up
    rw [h_up] at h_put
    exact nomatch h_put
  | @retiredActed i act r r' effect h_r h_other h_act =>
    have h_mem := List.mem_of_getElem? h_r
    refine ⟨record_disk h.disk ((h.runtimes.2 r h_mem).step keeps h_act).2, h_runtimes, ?_⟩
    dsimp only
    rw [record_slot]
    exact h.recovered
  | unloadBegan | unloadFailed | unloaded | rolledBack | loaded | saveFailed | crashed =>
    exact ⟨h.disk, h_runtimes, fun _ _ _ h_up => nomatch h_up⟩
  | recovering h_slot h_recover =>
    refine ⟨h.disk, h_runtimes, ?_⟩
    rintro _ _ _ ⟨⟩
    exact keeps _ _ (recover_ran h_recover) h.disk
  | recovered h_slot =>
    exact ⟨h.recovered _ _ _ h_slot, h_runtimes, fun _ _ _ h_up => nomatch h_up⟩

/-- It holds of all of them. -/
theorem Holds.states (h : s.Holds P) (keeps : ∀ s s', Ran s s' → P s → P s') :
    ∀ state ∈ s.states, P state := by
  unfold System.states
  simp only [List.forall_mem_cons, List.forall_mem_append, List.mem_flatMap]
  refine ⟨h.disk, ?_, fun state h_state => ?_⟩
  · cases h_slot : s.slot with
    | vacant => exact fun _ h_state => absurd h_state List.not_mem_nil
    | settingUp recovered dryRun topologyReady =>
      intro state h_state
      obtain rfl := List.mem_singleton.mp h_state
      exact h.recovered _ _ _ h_slot
    | loaded r | unloading r => exact (h.runtimes.1 r (by rw [h_slot]; rfl)).states keeps
  · obtain ⟨r, h_r, h_state⟩ := h_state
    exact (h.runtimes.2 r h_r).states keeps state h_state

/-- **What the commands keep, the system keeps**, in every state it has anywhere. -/
theorem states_keep {disk : PlannerState} (keeps : ∀ s s', Ran s s' → P s → P s')
    (h_disk : P disk) (events : List SystemEvent) (n : ℕ) :
    ∀ state ∈ (stateAt step (start disk) events n).states, P state := by
  refine Holds.states (perform_invariant (I := fun s : System => s.Inv ∧ s.Holds P)
    (fun s event s' h h_step => ?_) ⟨.start disk, h_disk, ?_, fun _ _ _ h_up => nomatch h_up⟩).2
    keeps
  · exact ⟨h.1.step (step_cases h.1 h_step), h.2.step keeps h.1 h_step⟩
  · exact ⟨fun _ h_r => (nomatch h_r), fun _ h_r => absurd h_r List.not_mem_nil⟩

/-- **Every state is made by commands.** Take any run of a config entry, with any interleaving of
calls, reports, external calls, unload attempts, setups and crashes, and any saves that raise or
land late. Every planner state there is at any moment, on disk, in the memory of a runtime,
waiting to be saved or assigned, or being recovered, is made of the store of the beginning by a
list of commands, run one after another, each issued as the integration issues it. -/
theorem states_are_commanded (disk : PlannerState) (events : List SystemEvent) (n : ℕ) :
    ∀ state ∈ (stateAt step (start disk) events n).states, Commanded disk state :=
  states_keep (P := Commanded disk) (fun _ _ h_ran h => h.tail h_ran) (.refl disk) events n

/-- A postponed kitchen that waits for its save. -/
theorem states_are_commanded_postponed :
    ∃ state ∈ (stateAt step (start kitchenState) [.load 0 false true,
        .act (.mutate (.postponeArea "kitchen" 1 2 "next") 0)] 2).states,
      state.planRevision.roomPlans.map (·.skipUntil) ≠
        kitchenState.planRevision.roomPlans.map (·.skipUntil) ∧
      Commanded kitchenState state := by
  obtain ⟨state, h_state, h_later⟩ : ∃ state ∈ (stateAt step (start kitchenState)
      [.load 0 false true, .act (.mutate (.postponeArea "kitchen" 1 2 "next") 0)] 2).states,
      state.planRevision.roomPlans.map (·.skipUntil) ≠
        kitchenState.planRevision.roomPlans.map (·.skipUntil) := by decide
  exact ⟨state, h_state, h_later, states_are_commanded kitchenState _ 2 state h_state⟩

end System

end VacuumPlanner
