import VacuumPlanner.Preflight
import VacuumPlanner.SendOnce
import VacuumPlanner.Stages

/-!
# No silent downgrade

The robot is told exactly what was sealed. What a dispatch sends is fixed when its preflight
passes: the adapter it is bound to and the mode option are computed from the modes of the jobs
it carries (`bindAdapter_ok`), and these are the jobs of its block (`Runtime.Named`). From
there on the stage carries the mode option through the claim to the two calls
(`Bindings.stages`), so a `clean_area` call begins with the selector confirmed, if there is one
(`Told`).

A dispatch that is never bound never gets past its start, so a rejected check sends nothing.
-/

namespace VacuumPlanner

open Framework Serialization

variable {config : NativeConfig} {hass : HomeAssistant} {observed : Bool} {now : Instant}
  {modes : List Mode} {r r' w : Runtime} {bound : Bound} {act : Act} {effect : Option Effect}

/-! ### What the dispatches are bound to -/

namespace NativeRuntime

variable {n n' : NativeRuntime} {log log' : List Traffic} {i : ℕ} {jobs : List QueueJob}
  {d : Dispatch} {stage : Stage} {service : Service} {phase : CallPhase} {t : Traffic}

/-- The entry of a call of a bound dispatch. -/
def told (i : ℕ) (jobs : List QueueJob) (bound : Bound) (service : Service) (phase : CallPhase) :
    Traffic :=
  ⟨i, service, phase, some (bound.serviceCall (jobs.map (·.areaId)) service)⟩

theorem traffic_of_bound (h : n.bound i = some bound) :
    n.traffic i d service phase = told i d.jobs bound service phase := by
  unfold traffic told
  rw [h, Option.map_some]

theorem ended_eq (h_d : n.runtime.dispatches[i]? = some d) :
    spoken.ended n i phase = (awaited d.stage).map fun service => n.traffic i d service phase := by
  unfold spoken.ended
  rw [h_d]
  simp only [Option.bind_eq_bind, Option.bind_some, Option.pure_def, Option.map_eq_bind,
    Function.comp_def]

/-- The call that selects the mode has begun, and then returned. -/
def Confirmed (log : List Traffic) (i : ℕ) (jobs : List QueueJob) (bound : Bound) : Prop :=
  ∃ earlier later, log = earlier ++ told i jobs bound .selectOption .begun :: later ∧
    told i jobs bound .selectOption .returned ∈ later

theorem Confirmed.append (h : Confirmed log i jobs bound) (log' : List Traffic) :
    Confirmed (log ++ log') i jobs bound := by
  obtain ⟨earlier, later, rfl, h_returned⟩ := h
  refine ⟨earlier, later ++ log', ?_, List.mem_append_left log' h_returned⟩
  rw [List.append_assoc, List.cons_append]

theorem Confirmed.of_returned (h : told i jobs bound .selectOption .begun ∈ log) :
    Confirmed (log ++ [told i jobs bound .selectOption .returned]) i jobs bound := by
  obtain ⟨earlier, later, rfl⟩ := List.append_of_mem h
  refine ⟨earlier, later ++ [_], ?_, List.mem_append_right later (List.mem_singleton_self _)⟩
  rw [List.append_assoc, List.cons_append]

/-- The stage of a bound dispatch agrees with its mode option and with the log. -/
def OnCourse (log : List Traffic) (i : ℕ) (jobs : List QueueJob) (bound : Bound) : Stage → Prop
  | .ready modeOption | .claimed modeOption => bound.modeOption = modeOption
  | .selecting => told i jobs bound .selectOption .begun ∈ log
  | .selected => Confirmed log i jobs bound
  | _ => True

theorem OnCourse.append (h : OnCourse log i jobs bound stage) (log' : List Traffic) :
    OnCourse (log ++ log') i jobs bound stage := by
  cases stage with
  | selecting => exact List.mem_append_left log' h
  | selected => exact Confirmed.append h log'
  | ready | claimed => exact h
  | created | claiming | cleaning | cleaned | accepting | ambiguous | quarantining | finished =>
    trivial

/-- Every entry of the log is one of a bound dispatch. A `clean_area` call sends its areas, and
where mopping is required, the selector has confirmed the mode before. -/
def Told (config : NativeConfig) (n : NativeRuntime) (before : List Traffic) (t : Traffic) : Prop :=
  ∃ bound d m, n.bound t.dispatch = some bound ∧ n.runtime.dispatches[t.dispatch]? = some d ∧
    Confirms config (d.jobs.map (·.mode)) bound m ∧
    (t.service = .cleanArea → t.phase = .begun →
      t.sent = some (bound.serviceCall (d.jobs.map (·.areaId)) .cleanArea) ∧
      (config.requiresVacuumAndMop = true → Confirmed before t.dispatch d.jobs bound))

/-- The invariant of a runtime that talks to Home Assistant. -/
structure Bindings (config : NativeConfig) (n : NativeRuntime) : Prop where
  named : n.runtime.Named
  unbound : ∀ (i : ℕ) (d : Dispatch), n.bound i = none → n.runtime.dispatches[i]? = some d →
    d.stage = .created ∨ d.stage = .finished
  stages : ∀ (i : ℕ) (bound : Bound), n.bound i = some bound → ∃ d,
    n.runtime.dispatches[i]? = some d ∧ d.stage ≠ .created ∧
      (∃ m, Confirms config (d.jobs.map (·.mode)) bound m) ∧ OnCourse n.log i d.jobs bound d.stage
  held : ∀ held i stage, n.runtime.holder = some held → held.task.waiter = some (i, stage) →
    ∃ bound, n.bound i = some bound ∧
      ∀ modeOption, held.task = .claim i modeOption → bound.modeOption = modeOption
  log : EachEntry (Told config n) n.log

theorem Bindings.fresh (config : NativeConfig) (number : ℕ) (dryRun topologyReady : Bool)
    (state : PlannerState) : Bindings config (fresh number dryRun topologyReady state) where
  named := .fresh number dryRun topologyReady state
  unbound _ _ _ h_d := nomatch h_d
  stages _ _ h_bound := nomatch h_bound
  held _ _ _ h_held := nomatch h_held
  log := .nil

/-- A dispatch that is under way is bound. -/
theorem Bindings.bound_of_underWay (h : Bindings config n) (h_d : n.runtime.dispatches[i]? = some d)
    (h_way : n.runtime.UnderWay i d) : ∃ bound, n.bound i = some bound := by
  rcases h_way with ⟨h_created, h_finished⟩ | ⟨held, stage, h_held, h_waiter⟩
  · refine Option.ne_none_iff_exists'.mp fun h_none => ?_
    exact (h.unbound i d h_none h_d).elim h_created h_finished
  · obtain ⟨bound, h_bound, -⟩ := h.held held i stage h_held h_waiter
    exact ⟨bound, h_bound⟩

/-- **A dispatch that is not bound stays so**: no act but its preflight takes it anywhere. -/
theorem Bindings.unbound_step (h : Bindings config n)
    (h_act : ∀ i result, act ≠ .preflight i result) (h_none : n.bound i = none)
    (h_d : n.runtime.dispatches[i]? = some d)
    (h_step : Runtime.StageStep act n.runtime effect i d stage) : stage = .finished := by
  -- a dispatch under way is bound
  have h_start : ¬ n.runtime.UnderWay i d := by
    intro h_way
    obtain ⟨bound, h_bound⟩ := h.bound_of_underWay h_d h_way
    exact nomatch h_none.symm.trans h_bound
  -- so every step but its end is refused to it
  cases h_step with
  | preflighted modeOption h_eq => exact absurd h_eq (h_act _ _)
  | claiming modeOption h_stage =>
    refine absurd (Or.inl ?_) h_start
    rw [h_stage]
    exact ⟨nofun, nofun⟩
  | claimed modeOption held h_holder h_task =>
    refine absurd (Or.inr ⟨held, .claiming, h_holder, ?_⟩) h_start
    rw [h_task]
    rfl
  | begins service next h_eq h_effect h_next =>
    exact absurd (.of_stage (f := Stage.nextCall) h_next rfl rfl) h_start
  | serviceReturned next h_eq h_after =>
    exact absurd (.of_stage (f := Stage.afterCall) h_after rfl rfl) h_start
  | ends => rfl
  | late stage h_late h_way => exact absurd h_way h_start

/-- **A bound dispatch stays on course.** -/
theorem Bindings.stage_step (h : Bindings config n) (h_act : ∀ i result, act ≠ .preflight i result)
    (h_bound : n.bound i = some bound) (h_d : n.runtime.dispatches[i]? = some d)
    (h_course : OnCourse n.log i d.jobs bound d.stage)
    (h_step : Runtime.StageStep act n.runtime effect i d stage) :
    stage ≠ .created ∧ OnCourse (n.log ++ n.spoken act effect) i d.jobs bound stage := by
  cases h_step with
  | preflighted modeOption h_eq => exact absurd h_eq (h_act _ _)
  | claiming modeOption h_stage => exact ⟨nofun, trivial⟩
  | claimed modeOption held h_holder h_task =>
    -- the claim that resumes is the one the dispatch has been waiting for
    have h_waiter : held.task.waiter = some (i, .claiming) := by
      rw [h_task]
      rfl
    obtain ⟨bound', h_bound', h_option⟩ := h.held held i .claiming h_holder h_waiter
    obtain rfl : bound' = bound := Option.some.inj (h_bound'.symm.trans h_bound)
    exact ⟨nofun, h_option modeOption h_task⟩
  | begins service next h_eq h_effect h_next =>
    subst h_eq h_effect
    -- only the first call speaks of the option: it opens the dispatch's traffic
    unfold Stage.nextCall at h_next
    split at h_next
    · cases h_next
      refine ⟨nofun, List.mem_append_right n.log ?_⟩
      dsimp only [spoken]
      rw [traffic_of_bound h_bound]
      exact List.mem_singleton_self _
    · cases h_next
      exact ⟨nofun, trivial⟩
    · cases h_next
      exact ⟨nofun, trivial⟩
    · exact nomatch h_next
  | serviceReturned next h_eq h_after =>
    subst h_eq
    unfold Stage.afterCall at h_after
    split at h_after
    · next h_stage =>
      cases h_after
      -- the return of that call closes the exchange the log has recorded
      have h_spoken : n.spoken (.serviceReturned i) effect =
          [told i d.jobs bound .selectOption .returned] := by
        rw [← traffic_of_bound h_bound]
        dsimp only [spoken]
        rw [ended_eq h_d, h_stage]
        rfl
      rw [h_stage] at h_course
      rw [h_spoken]
      exact ⟨nofun, .of_returned h_course⟩
    · cases h_after
      exact ⟨nofun, trivial⟩
    · exact nomatch h_after
  | ends => exact ⟨nofun, trivial⟩
  | late stage h_late h_way =>
    simp only [List.mem_cons, List.not_mem_nil, or_false] at h_late
    rcases h_late with rfl | rfl | rfl <;> exact ⟨nofun, trivial⟩

/-- What the log has stays true while the dispatches evolve and more of them are bound. -/
theorem Told.evolve {P : ℕ → Dispatch → Stage → Prop} {before : List Traffic}
    (h : Told config n before t)
    (h_bound : ∀ i bound, n.bound i = some bound → n'.bound i = some bound)
    (h_evolves : Runtime.Evolves P n.runtime n'.runtime) : Told config n' before t := by
  obtain ⟨bound, d, m, h_b, h_d, h_confirms, h_sent⟩ := h
  obtain ⟨stage, h_d', -⟩ := h_evolves.old _ d h_d
  exact ⟨bound, _, m, h_bound _ bound h_b, h_d', h_confirms, h_sent⟩

/-- A call that ends is told with the binding its dispatch was begun under. -/
theorem Bindings.told_ended (h : Bindings config n) (i : ℕ) {phase : CallPhase}
    (h_phase : phase ≠ .begun) :
    (spoken.ended n i phase).toList = [] ∨
      ∃ t, (spoken.ended n i phase).toList = [t] ∧ Told config n n.log t := by
  cases h_d : n.runtime.dispatches[i]? with
  | none =>
    left
    unfold spoken.ended
    rw [h_d]
    rfl
  | some d =>
    rw [ended_eq h_d]
    cases h_awaited : awaited d.stage with
    | none => exact Or.inl rfl
    | some service =>
      -- a dispatch that awaits a call is under way, hence bound
      obtain ⟨bound, h_bound⟩ :=
        h.bound_of_underWay h_d (.of_stage (f := awaited) h_awaited rfl rfl)
      obtain ⟨d', h_d', -, ⟨m, h_confirms⟩, -⟩ := h.stages i bound h_bound
      obtain rfl : d = d' := Option.some.inj (h_d.symm.trans h_d')
      exact Or.inr ⟨_, rfl, bound, d, m, h_bound, h_d, h_confirms,
        fun _ h_begun => absurd h_begun h_phase⟩

/-- So is a call that begins. `clean_area` begins when the mode has been selected, or when
there was none to select. -/
theorem Bindings.told_begun {service : Service} {next : Stage} (h : Bindings config n)
    (h_d : n.runtime.dispatches[i]? = some d) (h_next : d.stage.nextCall = some (service, next)) :
    Told config n n.log (n.traffic i d service .begun) := by
  obtain ⟨bound, h_bound⟩ := h.bound_of_underWay h_d (.of_stage (f := Stage.nextCall) h_next rfl rfl)
  obtain ⟨d', h_d', -, ⟨m, h_confirms⟩, h_course⟩ := h.stages i bound h_bound
  obtain rfl : d = d' := Option.some.inj (h_d.symm.trans h_d')
  refine ⟨bound, d, m, h_bound, h_d, h_confirms, fun h_clean _ => ?_⟩
  rw [traffic_of_bound h_bound] at h_clean ⊢
  obtain rfl : service = .cleanArea := h_clean
  refine ⟨rfl, fun h_requires => ?_⟩
  obtain ⟨entityId, -, -, h_option⟩ := h_confirms.selector h_requires
  -- three stages begin a call, and two of them begin `clean_area`
  unfold Stage.nextCall at h_next
  split at h_next
  · exact nomatch h_next
  · next h_stage =>
    rw [h_stage] at h_course
    exact nomatch h_option.symm.trans h_course
  · next h_stage =>
    rw [h_stage] at h_course
    exact h_course
  · exact nomatch h_next

/-- **What an act adds to the log** is told as it was sealed. -/
theorem Bindings.told_step (h : Bindings config n)
    (h_step : n.runtime.step act = .ok (r', effect)) :
    n.spoken act effect = [] ∨ ∃ t, n.spoken act effect = [t] ∧ Told config n n.log t := by
  cases act with
  | serviceReturned i => exact h.told_ended i nofun
  | serviceRaised i => exact h.told_ended i nofun
  | callService i =>
    match effect with
    | none => exact Or.inl rfl
    | some (.write state) => exact Or.inl rfl
    | some (.begins service d) =>
      cases Runtime.step_shape h_step with
      | begins j d service next h_act h_d h_next h_guard =>
        cases h_act
        exact Or.inr ⟨_, rfl, h.told_begun h_d h_next⟩
  | latchTopology | failClosed | startNext | mutate | observe | quarantineAll | preflight | claim
  | accept | quarantine | saved | saveRaised | resumed | cancelWaiting | cancelHolder =>
    exact Or.inl rfl

/-- **Every act of the runtime** keeps the invariant. -/
theorem Bindings.acted (h : Bindings config n) (h_act : ∀ i result, act ≠ .preflight i result)
    (h_step : n.runtime.step act = .ok (r', effect)) :
    Bindings config { n with runtime := r', log := n.log ++ n.spoken act effect } where
  named := h.named.step h_step
  -- an unbound dispatch is new, as it was, or has moved without being bound
  unbound i d' h_none h_d' := by
    have h_evolves := Runtime.step_evolves h_step
    cases h_d : n.runtime.dispatches[i]? with
    | none => exact Or.inl (h_evolves.new i d' h_d h_d')
    | some d =>
      obtain ⟨stage, h_new, h_stage⟩ := h_evolves.old i d h_d
      obtain rfl : { d with stage } = d' := Option.some.inj (h_new.symm.trans h_d')
      rcases h_stage with rfl | h_stage
      · exact h.unbound i d h_none h_d
      · exact Or.inr (h.unbound_step h_act h_none h_d h_stage)
  stages i bound h_bound := by
    obtain ⟨d, h_d, h_created, h_confirms, h_course⟩ := h.stages i bound h_bound
    obtain ⟨stage, h_new, h_stage⟩ := (Runtime.step_evolves h_step).old i d h_d
    refine ⟨_, h_new, ?_⟩
    rcases h_stage with rfl | h_stage
    · exact ⟨h_created, h_confirms, h_course.append _⟩
    · obtain ⟨h_later, h_course'⟩ := h.stage_step h_act h_bound h_d h_course h_stage
      exact ⟨h_later, h_confirms, h_course'⟩
  held held i stage h_held h_waiter := by
    -- the call that holds the lock was there before, or a dispatch has just made it
    rcases Runtime.step_holder h_step h_held h_waiter with
      ⟨old, h_old, h_task⟩ | ⟨d, h_d, h_way, h_claim⟩
    · rw [← h_task] at h_waiter ⊢
      exact h.held old i stage h_old h_waiter
    · obtain ⟨bound, h_bound⟩ := h.bound_of_underWay h_d (Or.inl h_way)
      refine ⟨bound, h_bound, fun modeOption h_task => ?_⟩
      obtain ⟨d', h_d', -, -, h_course⟩ := h.stages i bound h_bound
      obtain rfl : d = d' := Option.some.inj (h_d.symm.trans h_d')
      rw [h_claim modeOption h_task] at h_course
      exact h_course
  log := by
    have h_evolves := Runtime.step_evolves h_step
    -- what was said stays true; what is said now is true of a bound dispatch
    have h_old : EachEntry (Told config
        { n with runtime := r', log := n.log ++ n.spoken act effect }) n.log :=
      h.log.mono fun _ _ h_told => h_told.evolve (fun _ _ => id) h_evolves
    rcases h.told_step h_step with h_none | ⟨t, h_t, h_told⟩
    · rw [h_none, List.append_nil]
      exact h_old
    · rw [h_t]
      exact h_old.concat (h_told.evolve (fun _ _ => id) h_evolves)

/-- The start of a dispatch that is bound. -/
theorem Bindings.started (h : Bindings config n) (h_d : n.runtime.dispatches[i]? = some d)
    (h_created : d.stage = .created) {m : Mode}
    (h_confirms : Confirms config (d.jobs.map (·.mode)) bound m) :
    Bindings config { n with
      runtime := n.runtime.setStage i (.ready bound.modeOption)
      bound := Function.update n.bound i (some bound) } := by
  -- a bound dispatch is past its creation, so this one was not bound
  have h_none : n.bound i = none := by
    refine Option.eq_none_iff_forall_ne_some.mpr fun b h_b => ?_
    obtain ⟨d', h_d', h_past, -⟩ := h.stages i b h_b
    obtain rfl : d = d' := Option.some.inj (h_d.symm.trans h_d')
    exact h_past h_created
  have h_other {j : ℕ} {b : Bound} (h_b : n.bound j = some b) : i ≠ j := by
    rintro rfl
    exact nomatch h_none.symm.trans h_b
  -- hence the bindings of all others stay
  have h_kept (j : ℕ) (b : Bound) (h_b : n.bound j = some b) :
      Function.update n.bound i (some bound) j = some b :=
    (Function.update_of_ne (h_other h_b).symm _ _).trans h_b
  refine ⟨h.named.of_carries rfl (Or.inl rfl) (.setStage _ i _), fun j d' h_unbound h_d' => ?_,
    fun j b h_b => ?_, fun held j stage h_held h_waiter => ?_, ?_⟩
  · dsimp only at h_unbound
    rcases Runtime.setStage_cases h_d' with ⟨h_old, h_ne⟩ | ⟨rfl, -⟩
    · rw [Function.update_of_ne h_ne.symm] at h_unbound
      exact h.unbound j d' h_unbound h_old
    · rw [Function.update_self] at h_unbound
      exact nomatch h_unbound
  · dsimp only at h_b
    by_cases h_eq : i = j
    · subst h_eq
      rw [Function.update_self] at h_b
      cases h_b
      exact ⟨_, Runtime.setStage_self h_d, nofun, ⟨m, h_confirms⟩, rfl⟩
    · rw [Function.update_of_ne (Ne.symm h_eq)] at h_b
      obtain ⟨d', h_d', h_rest⟩ := h.stages j b h_b
      exact ⟨d', (Runtime.setStage_other h_eq).trans h_d', h_rest⟩
  · obtain ⟨b, h_b, h_option⟩ := h.held held j stage h_held h_waiter
    exact ⟨b, h_kept j b h_b, h_option⟩
  · have h_evolves : Runtime.Evolves (fun _ _ _ => True) n.runtime
        (n.runtime.setStage i (.ready bound.modeOption)) := .setStage fun _ _ => trivial
    exact h.log.mono fun _ _ h_told => h_told.evolve h_kept h_evolves

/-- The start of a dispatch that a check rejects. -/
theorem Bindings.rejected (h : Bindings config n) (h_d : n.runtime.dispatches[i]? = some d)
    (h_created : d.stage = .created) : Bindings config { n with
      runtime := n.runtime.setStage i .finished } := by
  refine ⟨h.named.of_carries rfl (Or.inl rfl) (.setStage _ i _), fun j d' h_none h_d' => ?_,
    fun j b h_b => ?_, h.held, ?_⟩
  · rcases Runtime.setStage_cases h_d' with ⟨h_old, -⟩ | ⟨rfl, -, -, rfl⟩
    · exact h.unbound j d' h_none h_old
    · exact Or.inr rfl
  · obtain ⟨d', h_d', h_past, h_rest⟩ := h.stages j b h_b
    have h_ne : i ≠ j := by
      rintro rfl
      obtain rfl : d = d' := Option.some.inj (h_d.symm.trans h_d')
      exact h_past h_created
    exact ⟨d', (Runtime.setStage_other h_ne).trans h_d', h_past, h_rest⟩
  · have h_evolves : Runtime.Evolves (fun _ _ _ => True) n.runtime
        (n.runtime.setStage i .finished) := .setStage fun _ _ => trivial
    exact h.log.mono fun _ _ h_told => h_told.evolve (fun _ _ => id) h_evolves

/-- It does not depend on the flags, nor on the tasks of `fail_closed`. -/
theorem Bindings.reflagged (h : Bindings config n) (flags : RuntimeFlags)
    (quarantines : List Instant) :
    Bindings config { n with runtime := { n.runtime with flags, quarantines } } where
  named := ⟨h.named.dispatches, h.named.updates, h.named.begun⟩
  unbound := h.unbound
  stages := h.stages
  held := h.held
  log := h.log

/-- An act of the runtime is one. -/
theorem step_act (h : NativeRuntime.step config (.act act) n = .ok n') :
    (∀ i result, act ≠ .preflight i result) ∧ ∃ r effect, n.runtime.step act = .ok (r, effect) ∧
      n' = { n with runtime := r, log := n.log ++ n.spoken act effect } := by
  unfold NativeRuntime.step at h
  split at h
  · next h_event => exact nomatch h_event
  · exact nomatch h
  · next act' _ h_other h_event =>
    cases h_event
    obtain ⟨⟨r, effect⟩, h_step, h⟩ := bind_eq_ok.mp h
    refine ⟨fun i result h_eq => ?_, r, effect, h_step, (pure_eq_ok.mp h).symm⟩
    exact h_other i result h_eq
  · next h_event => exact nomatch h_event

/-- What the start of a dispatch makes of the runtime. -/
theorem step_dispatch (h : NativeRuntime.step config (.dispatch i hass observed now) n = .ok n') :
    ∃ d, n.runtime.dispatches[i]? = some d ∧ d.stage = .created ∧
      ((∃ bound m, (bindAdapter config hass observed now (d.jobs.map (·.mode)) n.runtime).1 =
          .ok bound ∧ Confirms config (d.jobs.map (·.mode)) bound m ∧
          n' = { n with
            runtime := n.runtime.setStage i (.ready bound.modeOption)
            bound := Function.update n.bound i (some bound) }) ∨
        ∃ e flags quarantines,
          (bindAdapter config hass observed now (d.jobs.map (·.mode)) n.runtime).1 = .error e ∧
          n' = { n with
            runtime := Runtime.setStage { n.runtime with flags, quarantines } i .finished }) := by
  dsimp only [NativeRuntime.step] at h
  split at h
  · next blockId jobs generation h_d =>
    refine ⟨_, h_d, rfl, ?_⟩
    -- a binding that fails may have latched the topology, and nothing else
    have h_latches :=
      bindAdapter_latches config hass observed now (jobs.map (·.mode)) n.runtime
    split at h
    · next bound r h_bind =>
      cases h
      obtain ⟨rfl, -, m, h_confirms⟩ := bindAdapter_ok h_bind
      exact Or.inl ⟨bound, m, by rw [h_bind], h_confirms, rfl⟩
    · next e r h_bind =>
      cases h
      rw [h_bind] at h_latches
      obtain ⟨flags, quarantines, rfl⟩ := h_latches.reflagged
      exact Or.inr ⟨e, flags, quarantines, by rw [h_bind], rfl⟩
  · exact nomatch h

/-- **Every event** keeps the invariant. -/
theorem Bindings.step {event : NativeEvent} (h : Bindings config n)
    (h_step : NativeRuntime.step config event n = .ok n') : Bindings config n' := by
  cases event with
  | reflag flags =>
    cases h_step
    exact h.reflagged flags n.runtime.quarantines
  | act act =>
    obtain ⟨h_act, r, effect, h_acted, rfl⟩ := step_act h_step
    exact h.acted h_act h_acted
  | dispatch i hass observed now =>
    obtain ⟨d, h_d, h_created, ⟨bound, m, -, h_confirms, rfl⟩ | ⟨e, flags, quarantines, -, rfl⟩⟩ :=
      step_dispatch h_step
    · exact h.started h_d h_created h_confirms
    · exact (h.reflagged flags quarantines).rejected h_d h_created

/-! ### A rejected dispatch -/

/-- The dispatch has ended and was never bound. -/
def Rejected (n : NativeRuntime) (i : ℕ) : Prop :=
  n.bound i = none ∧ ∃ d, n.runtime.dispatches[i]? = some d ∧ d.stage = .finished

/-- It has sent nothing. -/
theorem Rejected.silent (h : Rejected n i) (h_bindings : Bindings config n) :
    ∀ t ∈ n.log, t.dispatch ≠ i := by
  rintro t h_t rfl
  obtain ⟨before, bound, d, m, h_bound, -⟩ := h_bindings.log.of_mem h_t
  exact nomatch h.1.symm.trans h_bound

/-- It is over. -/
theorem Rejected.step {event : NativeEvent} (h : Rejected n i) (h_bindings : Bindings config n)
    (h_step : NativeRuntime.step config event n = .ok n') : Rejected n' i := by
  obtain ⟨h_none, d, h_d, h_finished⟩ := h
  cases event with
  | reflag flags =>
    cases h_step
    exact ⟨h_none, d, h_d, h_finished⟩
  | act act =>
    obtain ⟨h_act, r, effect, h_acted, rfl⟩ := step_act h_step
    -- an unbound dispatch can only end
    obtain ⟨stage, h_new, h_stage⟩ := (Runtime.step_evolves h_acted).old i d h_d
    refine ⟨h_none, _, h_new, ?_⟩
    rcases h_stage with rfl | h_stage
    · exact h_finished
    · exact h_bindings.unbound_step h_act h_none h_d h_stage
  | dispatch j hass observed now =>
    obtain ⟨d', h_d', h_created, h_cases⟩ := step_dispatch h_step
    -- only a created dispatch is started, and this one is finished
    have h_ne : j ≠ i := by
      rintro rfl
      obtain rfl : d = d' := Option.some.inj (h_d.symm.trans h_d')
      exact nomatch h_created.symm.trans h_finished
    rcases h_cases with ⟨bound, m, -, -, rfl⟩ | ⟨e, flags, quarantines, -, rfl⟩
    · refine ⟨?_, d, (Runtime.setStage_other h_ne).trans h_d, h_finished⟩
      exact (Function.update_of_ne h_ne.symm _ _).trans h_none
    · exact ⟨h_none, d, (Runtime.setStage_other h_ne).trans h_d, h_finished⟩

/-! ### Every run -/

/-- The option of the mode was selected on the entity, and the call returned. -/
def Selected (before : List Traffic) (i : ℕ) (entityId : String) (m : Mode) : Prop :=
  let call : ServiceCall :=
    ⟨"select", "select_option", [("option", .str m.option)], [("entity_id", .str entityId)]⟩
  ∃ earlier later, before = earlier ++ ⟨i, .selectOption, .begun, some call⟩ :: later ∧
    ⟨i, .selectOption, .returned, some call⟩ ∈ later

/-- What a `clean_area` call tells the robot: the areas of the block in the order of its jobs,
which all have the mode `m`, on the vacuum of the entry. Mopping takes a selector; and where
there is one, it is the one bound at setup, and was set to `m` before. -/
def ToldAsSealed (config : NativeConfig) (n : NativeRuntime) (before : List Traffic)
    (t : Traffic) : Prop :=
  ∃ bound d m, ∃ b ∈ n.runtime.state.ledger.blocks,
    n.bound t.dispatch = some bound ∧ n.runtime.dispatches[t.dispatch]? = some d ∧
    b.blockId = d.blockId ∧ (∀ j ∈ jobsForBlock n.runtime.state.ledger b, j.mode = m) ∧
    t.sent = some ⟨"vacuum", "clean_area",
      [("cleaning_area_id", .array ((jobsForBlock n.runtime.state.ledger b).map (.str ·.areaId)))],
      [("entity_id", .str bound.adapter.vacuumEntityId)]⟩ ∧
    (∃ registryId, config.vacuumRegistryId = some registryId ∧
      usableVacuum bound.hass registryId = some bound.adapter.vacuumEntityId) ∧
    (m = .vacuumAndMop → config.requiresVacuumAndMop = true) ∧
    (config.requiresVacuumAndMop = true → ∃ entityId,
      resolveBoundCleaningModeEntity bound.hass config.cleaningModeRegistryId =
        .ok (some entityId) ∧ Selected before t.dispatch entityId m)

/-- What is told as the dispatch carries it is told as it was sealed. -/
theorem Bindings.toldAsSealed {before : List Traffic} (h : Bindings config n)
    (h_told : Told config n before t) (h_clean : t.service = .cleanArea)
    (h_begun : t.phase = .begun) : ToldAsSealed config n before t := by
  obtain ⟨bound, d, m, h_bound, h_d, h_confirms, h_sent⟩ := h_told
  obtain ⟨h_call, h_selected⟩ := h_sent h_clean h_begun
  obtain ⟨b, hb, h_id, h_jobs⟩ := h.named.dispatches d (List.mem_of_getElem? h_d)
  -- the dispatch carries the jobs of its block, so modes and areas are those sealed
  have h_modes : d.jobs.map (·.mode) = (jobsForBlock n.runtime.state.ledger b).map (·.mode) := by
    have h_mapped := congrArg (List.map JobIdentity.mode) h_jobs
    rw [List.map_map, List.map_map] at h_mapped
    exact h_mapped
  have h_areas : d.jobs.map (·.areaId) =
      (jobsForBlock n.runtime.state.ledger b).map (·.areaId) := by
    have h_mapped := congrArg (List.map JobIdentity.areaId) h_jobs
    rw [List.map_map, List.map_map] at h_mapped
    exact h_mapped
  refine ⟨bound, d, m, b, hb, h_bound, h_d, h_id, fun j hj => ?_, ?_, h_confirms.vacuum,
    fun h_mop => ?_, fun h_requires => ?_⟩
  · refine h_confirms.modes j.mode ?_
    rw [h_modes]
    exact List.mem_map_of_mem hj
  · rw [h_call, h_areas]
    unfold Bound.serviceCall
    rw [List.map_map]
    rfl
  · -- a mode that needs no selector is a plain one, and that does not mop
    by_contra h_not
    obtain ⟨-, -, rfl⟩ := h_confirms.plain (Bool.eq_false_of_not_eq_true h_not)
    exact nomatch h_mop
  · obtain ⟨entityId, h_resolved, h_entity, h_option⟩ := h_confirms.selector h_requires
    obtain ⟨earlier, later, h_before, h_returned⟩ := h_selected h_requires
    refine ⟨entityId, h_resolved, earlier, later, ?_, ?_⟩
    · rw [h_before, told, Bound.serviceCall, h_entity, h_option]
      rfl
    · rw [told, Bound.serviceCall, h_entity, h_option] at h_returned
      exact h_returned

/-- No silent downgrade: what is told is what was sealed, and a dispatch that a check rejects
changes nothing and never sends anything. -/
structure NoDowngrade (config : NativeConfig) (n : NativeRuntime) : Prop where
  told : EachEntry (fun before t => t.service = .cleanArea → t.phase = .begun →
    ToldAsSealed config n before t) n.log
  spared : ∀ (i : ℕ) (hass : HomeAssistant) (observed : Bool) (now : Instant) (d : Dispatch)
    (e : Rejection), n.runtime.dispatches[i]? = some d → d.stage = .created →
      (bindAdapter config hass observed now (d.jobs.map (·.mode)) n.runtime).1 = .error e →
        ∃ n', NativeRuntime.step config (.dispatch i hass observed now) n = .ok n' ∧
          n'.runtime.state = n.runtime.state ∧ n'.log = n.log ∧
          ∀ later : List NativeEvent,
            ∀ t ∈ (perform (NativeRuntime.step config) n' later).log, t.dispatch ≠ i

/-- A block that is sealed has pending jobs only. -/
def SealedPending (L : QueueLedger) : Prop :=
  ∀ b ∈ L.blocks, b.state = .sealed → ∀ j ∈ L.jobs, j.blockId = b.blockId → j.state = .pending

theorem sealedPending_of_inStep {L : QueueLedger} (h : OpenBlocks InStep L) : SealedPending L := by
  intro b hb h_sealed j hj h_parent
  have h_open : b.state.terminal = false := by
    rw [h_sealed]
    rfl
  have h_companion := (h b hb h_open).companions j (mem_jobsOf.mpr ⟨hj, h_parent⟩)
  rw [h_sealed] at h_companion
  exact of_decide_eq_true h_companion

/-- What every event keeps, every run keeps. -/
theorem Bindings.perform (h : Bindings config n) (events : List NativeEvent) :
    Bindings config (perform (NativeRuntime.step config) n events) :=
  perform_invariant (fun _ _ _ h h_step => h.step h_step) h

theorem Bindings.spared (h : Bindings config n) {e : Rejection}
    (h_d : n.runtime.dispatches[i]? = some d) (h_created : d.stage = .created)
    (h_rejects : (bindAdapter config hass observed now (d.jobs.map (·.mode)) n.runtime).1 =
      .error e) :
    ∃ n', NativeRuntime.step config (.dispatch i hass observed now) n = .ok n' ∧
      n'.runtime.state = n.runtime.state ∧ n'.log = n.log ∧ Rejected n' i := by
  obtain ⟨blockId, jobs, generation, stage⟩ := d
  obtain rfl : stage = .created := h_created
  cases h_bind : bindAdapter config hass observed now (jobs.map (·.mode)) n.runtime with
  | mk result r =>
    -- the binding may latch the topology, but it neither sends nor moves the state
    have h_latches := bindAdapter_latches config hass observed now (jobs.map (·.mode)) n.runtime
    rw [h_bind] at h_rejects h_latches
    obtain rfl : result = .error e := h_rejects
    obtain ⟨flags, quarantines, rfl⟩ := h_latches.reflagged
    refine ⟨{ n with
      runtime := Runtime.setStage { n.runtime with flags, quarantines } i .finished }, ?_, rfl,
      rfl, ?_, _, Runtime.setStage_self h_d, rfl⟩
    · dsimp only [NativeRuntime.step]
      rw [h_d]
      dsimp only
      rw [h_bind]
    · -- a bound dispatch is past its creation
      refine Option.eq_none_iff_forall_ne_some.mpr fun bound h_bound => ?_
      obtain ⟨d', h_d', h_past, -⟩ := h.stages i bound h_bound
      obtain rfl := Option.some.inj (h_d.symm.trans h_d')
      exact h_past rfl

theorem Bindings.noDowngrade (h : Bindings config n) : NoDowngrade config n where
  told before t later h_split h_clean h_begun :=
    h.toldAsSealed (h.log before t later h_split) h_clean h_begun
  spared i hass observed now d e h_d h_created h_rejects := by
    obtain ⟨n', h_step, h_state, h_log, h_rejected⟩ := h.spared h_d h_created h_rejects
    refine ⟨n', h_step, h_state, h_log, fun later => ?_⟩
    have h_later : Bindings config (Framework.perform (NativeRuntime.step config) n' later) ∧
        Rejected (Framework.perform (NativeRuntime.step config) n' later) i := by
      refine perform_invariant (I := fun n => Bindings config n ∧ Rejected n i)
        (fun _ _ _ h h_step => ⟨h.1.step h_step, h.2.step h.1 h_step⟩) ⟨h.step h_step, h_rejected⟩
    exact h_later.2.silent h_later.1

/-- An event keeps the blocks in step with their jobs. -/
theorem Bindings.inStep_step {event : NativeEvent} (h : Bindings config n)
    (h_inStep : OpenBlocks InStep n.runtime.state.ledger)
    (h_step : NativeRuntime.step config event n = .ok n') :
    OpenBlocks InStep n'.runtime.state.ledger := by
  cases event with
  | reflag flags =>
    cases h_step
    exact h_inStep
  | act act =>
    obtain ⟨-, r, effect, h_acted, rfl⟩ := step_act h_step
    exact h.named.keeps_inStep h_inStep h_acted
  | dispatch i hass observed now =>
    obtain ⟨d, -, -, ⟨bound, m, -, -, rfl⟩ | ⟨e, flags, quarantines, -, rfl⟩⟩ :=
      step_dispatch h_step
    · exact h_inStep
    · exact h_inStep

/-- **The robot is told exactly what was sealed**, in every state of every run of a runtime. A
block that is still sealed then has pending jobs only, if the state that was loaded was in
step. -/
theorem no_silent_downgrade (config : NativeConfig) (number : ℕ) (dryRun topologyReady : Bool)
    (state : PlannerState) (events : List NativeEvent) :
    NoDowngrade config (perform (NativeRuntime.step config)
        (fresh number dryRun topologyReady state) events) ∧
      (OpenBlocks InStep state.ledger → SealedPending (perform (NativeRuntime.step config)
        (fresh number dryRun topologyReady state) events).runtime.state.ledger) := by
  have h_fresh : Bindings config (fresh number dryRun topologyReady state) := .fresh ..
  refine ⟨(h_fresh.perform events).noDowngrade, fun h_loaded => ?_⟩
  have h_inStep : Bindings config (perform (NativeRuntime.step config)
        (fresh number dryRun topologyReady state) events) ∧
      OpenBlocks InStep (perform (NativeRuntime.step config)
        (fresh number dryRun topologyReady state) events).runtime.state.ledger := by
    refine perform_invariant (I := fun n => Bindings config n ∧
      OpenBlocks InStep n.runtime.state.ledger)
      (fun _ _ _ h h_step => ⟨h.1.step h_step, h.1.inStep_step h.2 h_step⟩) ⟨h_fresh, h_loaded⟩
  exact sealedPending_of_inStep h_inStep.2

end NativeRuntime

/-! ### One dispatch -/

/-- A robot with a selector. -/
def kitchenHome : HomeAssistant where
  registry
    | "robot" => some ⟨some "robot", some "vacuum", none, false, none, some "vacuum.robot"⟩
    | "mode" => some ⟨some "mode", some "select", some "robot_Cleaning_Mode", false, none,
        some "select.mode"⟩
    | _ => none
  states
    | "vacuum.robot" => some ⟨"docked", [("supported_features", .int 16384)]⟩
    | "select.mode" =>
      some ⟨"Vacuum and Mop", [("options", .array [.str "Vacuum", .str "Vacuum and Mop"])]⟩
    | _ => none
  cleanAreaFeature := 16384

/-- A dispatch, up to the beginning of its `clean_area` call. -/
def boundDispatch : List NativeEvent :=
  ([.startNext (kitchenStart "key" kitchenIds 0) 0, .saved, .resumed] : List Act).map .act ++
    .dispatch 0 kitchenHome true 0 ::
      ([.claim 0 0, .saved, .resumed, .callService 0, .serviceReturned 0, .callService 0] :
        List Act).map .act

-- the selector is set before the robot starts
example :
    (perform (NativeRuntime.step ⟨some "robot", some "mode", true⟩)
      (.fresh 1 false true kitchenState) boundDispatch).log.map (fun t => (t.service, t.phase)) =
      [(.selectOption, .begun), (.selectOption, .returned), (.cleanArea, .begun)] := by
  decide

end VacuumPlanner
