import VacuumPlanner.Naming

/-!
# From stage to stage

`Shape` says what an act makes of a runtime; here it is read off one dispatch at a time. A
dispatch keeps its place and what it carries (`Evolves`), and its stage changes in one of a few
ways (`StageStep`). A call that holds the lock was made by a dispatch that is under way
(`step_holder`).
-/

namespace VacuumPlanner

open Framework

/-- Where the dispatch that waits for a call is left when the call raises. -/
def Task.raisesTo (e : PyError) : Task → Stage
  | .acceptance _ => .interrupted e
  | _ => .finished

namespace Runtime

variable {r r' w : Runtime} {act : Act} {effect : Option Effect}
  {P : ℕ → Dispatch → Stage → Prop} {task : Task} {call : PlannerCall} {i : ℕ}
  {d : Dispatch} {stage : Stage}

/-- Every dispatch keeps its place and what it carries, at the same stage or at one `P` allows;
what is new has just been created. -/
structure Evolves (P : ℕ → Dispatch → Stage → Prop) (r r' : Runtime) : Prop where
  old : ∀ (i : ℕ) (d : Dispatch), r.dispatches[i]? = some d → ∃ stage : Stage,
    r'.dispatches[i]? = some { d with stage } ∧ (stage = d.stage ∨ P i d stage)
  new : ∀ (i : ℕ) (d' : Dispatch), r.dispatches[i]? = none → r'.dispatches[i]? = some d' →
    d'.stage = .created

theorem Evolves.of_eq (h : r'.dispatches = r.dispatches) : Evolves P r r' := by
  refine ⟨fun i d h_d => ⟨d.stage, ?_, Or.inl rfl⟩, fun i d' h_none h_d' => ?_⟩
  · rw [h]
    exact h_d
  · rw [h, h_none] at h_d'
    exact nomatch h_d'

/-- Only the dispatches are compared. -/
theorem Evolves.of_dispatches (h_same : w.dispatches = r.dispatches) (h : Evolves P w r') :
    Evolves P r r' := by
  refine ⟨fun i d h_d => h.old i d ?_, fun i d' h_none => h.new i d' ?_⟩
  · rw [h_same]
    exact h_d
  · rw [h_same]
    exact h_none

theorem Evolves.same_dispatches {r'' : Runtime} (h : Evolves P r r')
    (h_same : r''.dispatches = r'.dispatches) : Evolves P r r'' := by
  refine ⟨fun i d h_d => ?_, fun i d' h_none h_d' => h.new i d' h_none ?_⟩
  · rw [h_same]
    exact h.old i d h_d
  · rw [← h_same]
    exact h_d'

theorem Evolves.setStage (h : ∀ d, r.dispatches[i]? = some d → P i d stage) :
    Evolves P r (r.setStage i stage) := by
  refine ⟨fun j d h_d => ?_, fun j d' h_none h_d' => ?_⟩
  · by_cases h_eq : i = j
    · subst h_eq
      exact ⟨stage, setStage_self h_d, Or.inr (h d h_d)⟩
    · exact ⟨d.stage, (setStage_other h_eq).trans h_d, Or.inl rfl⟩
  · rcases setStage_cases h_d' with ⟨h_d, -⟩ | ⟨rfl, d, h_d, -⟩
    · exact nomatch h_none.symm.trans h_d
    · exact nomatch h_none.symm.trans h_d

theorem Evolves.append (h : d.stage = .created) :
    Evolves P r { r with dispatches := r.dispatches ++ [d] } := by
  refine ⟨fun j d' h_d' => ⟨d'.stage, ?_, Or.inl rfl⟩, fun j d' h_none h_d' => ?_⟩
  · have h_lt : j < r.dispatches.length := (List.getElem?_eq_some_iff.mp h_d').1
    exact (List.getElem?_append_left h_lt).trans h_d'
  · have h_ge : r.dispatches.length ≤ j := List.getElem?_eq_none_iff.mp h_none
    have h_in : d' ∈ [d] :=
      List.mem_of_getElem? ((List.getElem?_append_right h_ge).symm.trans h_d')
    rw [List.mem_singleton.mp h_in, h]

theorem setStage_setStage (r : Runtime) (i : ℕ) (stage stage' : Stage) :
    (r.setStage i stage).setStage i stage' = r.setStage i stage' := by
  unfold setStage
  rw [List.modify_modify_eq]
  rfl

/-- The dispatch has left its start and not reached its end. -/
def UnderWay (r : Runtime) (i : ℕ) (d : Dispatch) : Prop :=
  d.stage ≠ .created ∧ d.stage ≠ .finished ∨
    ∃ held stage, r.holder = some held ∧ held.task.waiter = some (i, stage)

/-- A dispatch at a stage that leads somewhere is under way. -/
theorem UnderWay.of_stage {α : Type} {f : Stage → Option α} {a : α} (h : f d.stage = some a)
    (h_created : f .created = none) (h_finished : f .finished = none) : UnderWay r i d := by
  refine Or.inl ⟨fun h_stage => ?_, fun h_stage => ?_⟩
  · rw [h_stage, h_created] at h
    exact nomatch h
  · rw [h_stage, h_finished] at h
    exact nomatch h

/-- How an act changes the stage of a dispatch. -/
inductive StageStep (act : Act) (r : Runtime) (effect : Option Effect) (i : ℕ) (d : Dispatch) :
    Stage → Prop
  | preflighted (modeOption : Option String) (h_act : act = .preflight i (.ok modeOption)) :
    StageStep act r effect i d (.ready modeOption)
  | claiming (modeOption : Option String) (h_stage : d.stage = .ready modeOption) :
    StageStep act r effect i d .claiming
  | claimed (modeOption : Option String) (held : Held) (h_holder : r.holder = some held)
      (h_task : held.task = .claim i modeOption) : StageStep act r effect i d (.claimed modeOption)
  | begins (service : Service) (next : Stage) (h_act : act = .callService i)
      (h_effect : effect = some (.begins service d))
      (h_next : d.stage.nextCall = some (service, next)) : StageStep act r effect i d next
  | serviceReturned (next : Stage) (h_act : act = .serviceReturned i)
      (h_after : d.stage.afterCall = some next) : StageStep act r effect i d next
  | ends : StageStep act r effect i d .finished
  | late (stage : Stage) (h_late : stage ∈ [.accepting, .ambiguous, .quarantining])
      (h_way : UnderWay r i d) : StageStep act r effect i d stage

theorem StageStep.interrupted (e : PyError) (h_way : UnderWay r i d) :
    StageStep act r effect i d (.interrupted e) := by
  unfold Stage.interrupted
  split
  · exact .ends
  · exact .late _ (by decide) h_way

theorem Moves.stageStep (h : Moves act r i d stage) : StageStep act r effect i d stage := by
  cases h with
  | preflighted modeOption h_act h_stage => exact .preflighted modeOption h_act
  | rejected e h_act h_stage => exact .ends
  | guarded e h_next h_guard =>
    refine .interrupted e (Or.inl ⟨fun h => ?_, fun h => ?_⟩)
    · rw [h] at h_next
      exact nomatch h_next
    · rw [h] at h_next
      exact nomatch h_next
  | serviceReturned next h_act h_after => exact .serviceReturned stage h_act h_after
  | serviceRaised next h_act h_after =>
    exact .late _ (by decide) (.of_stage (f := Stage.afterCall) h_after rfl rfl)
  | cancelledReady modeOption h_stage => exact .ends
  | cancelledCleaned h_stage =>
    refine .interrupted .cancelledError (Or.inl ⟨fun h => ?_, fun h => ?_⟩)
    · exact nomatch h_stage.symm.trans h
    · exact nomatch h_stage.symm.trans h

theorem raised_evolves {held : Held} (h_holder : r.holder = some held) (e : PyError) :
    Evolves (StageStep act r effect) { r with holder := none }
      ({ r with holder := none }.raised e held.task) := by
  cases h_task : held.task with
  | startNext | mutation | observation => exact .of_eq rfl
  | claim i modeOption | quarantine i => exact .setStage fun _ _ => .ends
  | acceptance i =>
    refine .setStage fun d _ => .interrupted e (Or.inr ⟨held, .accepting, h_holder, ?_⟩)
    rw [h_task]
    rfl

theorem returned_startNext_evolves (r : Runtime) (changed : Bool) (generation : ℕ)
    (outcome : Option SealOutcome) :
    Evolves P r (r.returned changed (.startNext generation outcome)) := by
  match outcome with
  | none => exact .of_eq rfl
  | some .dryRunBlockCancelled => exact .of_eq rfl
  | some (.result result) =>
    unfold returned
    dsimp only
    split
    · split
      · exact .of_eq rfl
      · exact .append rfl
    · exact .of_eq rfl

theorem assigned_evolves {held : Held} (h_holder : r.holder = some held) (state : PlannerState) :
    Evolves (StageStep act r effect) r
      ({ r with holder := none, state := state }.returned true held.task) := by
  refine .of_dispatches (w := { r with holder := none, state := state }) rfl ?_
  cases h_task : held.task with
  | mutation | observation => exact .of_eq rfl
  | startNext generation outcome => exact returned_startNext_evolves _ true generation outcome
  | claim i modeOption => exact .setStage fun d _ => .claimed modeOption held h_holder h_task
  | acceptance i | quarantine i => exact .setStage fun _ _ => .ends

/-- A call no dispatch waits for leaves every dispatch where it is. -/
theorem enter_unawaited_evolves (h_same : w.dispatches = r.dispatches)
    (h_waiter : task.waiter = none) : Evolves P r (w.enter task call) := by
  refine .of_dispatches h_same ?_
  cases task with
  | startNext generation outcome =>
    unfold enter
    split
    · exact .of_eq rfl
    · exact returned_startNext_evolves w false generation outcome
    · exact .of_eq rfl
  | mutation | observation =>
    unfold enter
    split <;> exact .of_eq rfl
  | claim | acceptance | quarantine => exact nomatch h_waiter

theorem raised_awaited (e : PyError) (h_waiter : task.waiter = some (i, stage)) :
    r.raised e task = r.setStage i (task.raisesTo e) := by
  cases task with
  | startNext | mutation | observation => exact nomatch h_waiter
  | claim | acceptance | quarantine => cases h_waiter; rfl

theorem returned_awaited (h_waiter : task.waiter = some (i, stage)) :
    r.returned false task = r.setStage i .finished := by
  cases task with
  | startNext | mutation | observation => exact nomatch h_waiter
  | claim | acceptance | quarantine => cases h_waiter; rfl

/-- A call a dispatch waits for leaves it where it waits, or where the call has raised or
returned at once. -/
theorem enter_awaited_evolves (h_waiter : task.waiter = some (i, stage))
    (raises : ∀ e, (call.prepare r.flags r.state).1 = .error e →
      ∀ d, r.dispatches[i]? = some d → P i d (task.raisesTo e))
    (returns : (call.prepare r.flags r.state).1 = .ok none →
      ∀ d, r.dispatches[i]? = some d → P i d .finished)
    (waits : ∀ d, r.dispatches[i]? = some d → P i d stage) :
    Evolves P r ((r.setStage i stage).enter task call) := by
  unfold enter
  split
  · next e h_raises =>
    rw [raised_awaited e h_waiter, setStage_setStage]
    exact .setStage (raises e h_raises)
  · next h_returns =>
    rw [returned_awaited h_waiter, setStage_setStage]
    exact .setStage (returns h_returns)
  · exact (Evolves.setStage waits).same_dispatches rfl

/-- A call that acquires the lock takes its dispatch to a stage where it waits, or past it. -/
theorem enter_evolves (h : act.request r = some (w, task, call)) :
    Evolves (StageStep act r effect) r (w.enter task call) := by
  cases requests_of_request h with
  | startNext | mutate | observe | quarantineAll => exact enter_unawaited_evolves rfl rfl
  | @claim i now blockId jobs generation modeOption h_d =>
    refine enter_awaited_evolves rfl (fun _ _ _ _ => .ends) (fun _ _ _ => .ends) fun d h_d' => ?_
    obtain rfl := Option.some.inj (h_d.symm.trans h_d')
    exact .claiming modeOption rfl
  | @accept i acceptedAt blockId jobs generation h_d =>
    have h_way : ∀ d, r.dispatches[i]? = some d → UnderWay r i d := by
      intro d h_d'
      obtain rfl := Option.some.inj (h_d.symm.trans h_d')
      exact Or.inl ⟨nofun, nofun⟩
    exact enter_awaited_evolves rfl (fun e _ d h_d' => .interrupted e (h_way d h_d'))
      (fun _ _ _ => .ends) fun d h_d' => .late _ (by decide) (h_way d h_d')
  | quarantine h_d =>
    refine enter_awaited_evolves rfl (fun _ _ _ _ => .ends) (fun _ _ _ => .ends) fun d h_d' => ?_
    obtain rfl := Option.some.inj (h_d.symm.trans h_d')
    exact .late _ (by decide) (Or.inl ⟨nofun, nofun⟩)

/-- **Every act** changes a stage in one of these ways, if at all. -/
theorem step_evolves (h : r.step act = .ok (r', effect)) :
    Evolves (StageStep act r effect) r r' := by
  cases step_shape h with
  | flags flags quarantines h_flags => exact .of_eq rfl
  | moves i d stage h_d h_moves =>
    refine .setStage fun d' h_d' => ?_
    obtain rfl : d = d' := Option.some.inj (h_d.symm.trans h_d')
    exact h_moves.stageStep
  | begins i d service next h_act h_d h_next h_guard =>
    refine .setStage fun d' h_d' => ?_
    obtain rfl : d = d' := Option.some.inj (h_d.symm.trans h_d')
    exact .begins service next h_act rfl h_next
  | enters w task call h_free h_request => exact enter_evolves h_request
  | saved held h_holder h_unsaved h_act => exact .of_eq rfl
  | raised held e h_holder h_fails =>
    exact .of_dispatches (w := { r with holder := none }) rfl (raised_evolves h_holder e)
  | assigned held h_holder h_saved h_act h_check => exact assigned_evolves h_holder held.updated

/-- A call that holds the lock was held before, or was made by a dispatch on its way. -/
theorem step_holder (h : r.step act = .ok (r', effect)) {held : Held}
    (h_held : r'.holder = some held) (h_waiter : held.task.waiter = some (i, stage)) :
    (∃ old, r.holder = some old ∧ old.task = held.task) ∨
      ∃ d, r.dispatches[i]? = some d ∧ (d.stage ≠ .created ∧ d.stage ≠ .finished) ∧
        ∀ modeOption, held.task = .claim i modeOption → d.stage = .ready modeOption := by
  cases step_shape h with
  | flags | moves | begins => exact Or.inl ⟨held, h_held, rfl⟩
  | saved old h_holder =>
    cases h_held
    exact Or.inl ⟨old, h_holder, rfl⟩
  | raised old e h_holder =>
    have h_free := (raised_frame { r with holder := none } e old.task).holder
    exact nomatch h_free.symm.trans h_held
  | assigned old h_holder =>
    have h_free :=
      (returned_frame { r with holder := none, state := old.updated } true old.task).holder
    exact nomatch h_free.symm.trans h_held
  | enters w task call h_free h_request =>
    have h_spec := request_spec h_request
    have h_none : w.holder = none := h_spec.holder.trans h_free
    -- the only shape that takes the lock: the call is held when it has something to save
    unfold enter at h_held
    split at h_held
    · exact nomatch ((raised_frame w _ task).holder.trans h_none).symm.trans h_held
    · exact nomatch ((returned_frame w false task).holder.trans h_none).symm.trans h_held
    · cases h_held
      right
      cases requests_of_request h_request with
      -- no dispatch waits for these
      | startNext | mutate | observe | quarantineAll => exact nomatch h_waiter
      | claim h_d =>
        cases h_waiter
        refine ⟨_, h_d, ⟨nofun, nofun⟩, fun modeOption h_task => ?_⟩
        cases h_task
        rfl
      | accept h_d | quarantine h_d =>
        cases h_waiter
        exact ⟨_, h_d, ⟨nofun, nofun⟩, nofun⟩

end Runtime

end VacuumPlanner
