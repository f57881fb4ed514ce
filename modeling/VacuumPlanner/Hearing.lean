import VacuumPlanner.Evidence
import VacuumPlanner.Watching

/-!
# No completion unheard

What a plan says of the past decides what is due, so a completion must not be made up. A report
is queued by the listener of the vacuum and runs later, between the calls of users, dispatches
and quarantines, and what it says is read only then.

`completions_are_heard` follows a completion back through all of this: whatever job a watched
runtime has completed, in memory or in a call that waits for its save, was finished at the time
of a state change that was delivered to the listener, and that state change was a plain `idle`
or `docked`.
-/

namespace VacuumPlanner

open Framework

/-- The state change the report was made of. -/
def WatchEvent.Brings (report : Report) : WatchEvent → Prop
  | .stateChanged change => change.newState = some (some report.state, some report.attributes) ∧
    change.observedAt = report.observedAt
  | _ => False

/-- The vacuum says that it is idle or docked, and nothing that speaks against it. -/
structure Report.Plain (report : Report) : Prop where
  state : (VacuumReport.read report.state report.attributes).state ∈ completedTexts
  details : (VacuumReport.read report.state report.attributes).details = []
  unfailed : ¬ (VacuumReport.read report.state report.attributes).Failed
  features : losesCleanArea report.attributes = false

/-- A plain state change of this time has been delivered. -/
def Witnessed (events : List WatchEvent) (t : Option Instant) : Prop :=
  ∃ event ∈ events, ∃ report, event.Brings report ∧ report.Plain ∧ t = some report.observedAt

/-- Every completed job was completed before, or on such a state change. -/
def Backed (events : List WatchEvent) (start s : PlannerState) : Prop :=
  ∀ job ∈ s.ledger.jobs, job.state = .completed →
    job ∈ start.ledger.jobs ∨ Witnessed events job.finishedAt

variable {events : List WatchEvent} {start s s' : PlannerState} {t : Option Instant}

theorem Backed.ran (h : Backed events start s) (h_ran : RanAs t s s')
    (h_t : t ≠ none → Witnessed events t) : Backed events start s' := by
  intro job h_job h_completed
  cases t with
  | none => exact h job ((h_ran.noneCompleted.jobs job h_completed).mp h_job) h_completed
  | some t =>
    obtain ⟨revisionIds, h_run⟩ := h_ran.completed
    rcases completeRunningJobs_finished h_run job h_job h_completed with h_before | h_finished
    · exact h job h_before h_completed
    · rw [h_finished]
      exact Or.inr (h_t nofun)

/-! ### The runtime -/

/-- What holds of the runtime: every state it has is backed. -/
structure Runtime.Backed (events : List WatchEvent) (start : PlannerState) (r : Runtime) :
    Prop where
  named : r.Named
  state : VacuumPlanner.Backed events start r.state
  waiting : ∀ held, r.holder = some held → VacuumPlanner.Backed events start held.updated

namespace Runtime

variable {r r' : Runtime} {act : Act} {effect : Option Effect}

theorem Backed.step (h : r.Backed events start) (h_step : r.step act = .ok (r', effect))
    (h_act : act.completesAt ≠ none → Witnessed events act.completesAt) :
    r'.Backed events start := by
  have h_named := h.named.step h_step
  cases step_shape h_step with
  | flags | moves | begins => exact ⟨h_named, h.state, h.waiting⟩
  | enters w task call h_free h_request =>
    -- what a call prepares is backed by the report it is about
    have h_state := (enter_keeps h_request).2
    refine ⟨h_named, by rw [h_state]; exact h.state, fun held h_held => ?_⟩
    exact h.state.ran (request_ran h.named h_request (enter_held h_free h_request h_held)) h_act
  | saved held h_holder =>
    refine ⟨h_named, h.state, ?_⟩
    rintro _ ⟨⟩
    exact h.waiting held h_holder
  | raised held e h_holder =>
    -- a call that raises has assigned nothing
    have h_frame := raised_frame { r with holder := none } e held.task
    refine ⟨h_named, by rw [h_frame.state]; exact h.state, fun held' h_held' => ?_⟩
    exact nomatch h_frame.holder.symm.trans h_held'
  | assigned held h_holder =>
    have h_frame := returned_frame { r with holder := none, state := held.updated } true held.task
    refine ⟨h_named, ?_, fun held' h_held' => ?_⟩
    · rw [h_frame.state]
      exact h.waiting held h_holder
    · exact nomatch h_frame.holder.symm.trans h_held'

theorem Backed.states (h : r.Backed events start) :
    ∀ state ∈ r.states, VacuumPlanner.Backed events start state := by
  unfold Runtime.states
  rw [List.forall_mem_cons]
  refine ⟨h.state, fun state h_state => ?_⟩
  rw [Option.mem_toList, Option.map_eq_some_iff] at h_state
  obtain ⟨held, h_held, rfl⟩ := h_state
  exact h.waiting held h_held

end Runtime

/-! ### The watched runtime -/

namespace Watched

variable {w w' : Watched} {found : Finset IssueCondition} {now : Instant}

/-- What has been heard: the queued reports, and the states of the runtime. -/
structure Heard (events : List WatchEvent) (start : PlannerState) (w : Watched) : Prop where
  reports : ∀ report ∈ w.reports, losesCleanArea report.attributes = false ∧
    ∃ event ∈ events, event.Brings report
  runtime : w.runtime.Backed events start

/-- The reports are the same, and the runtime at most fails closed. -/
structure Listens (w w' : Watched) : Prop where
  reports : w'.reports = w.reports
  runtime : w'.runtime = w.runtime ∨ ∃ t, w'.runtime = w.runtime.failClosed t

theorem Listens.refl (w : Watched) : Listens w w := ⟨rfl, Or.inl rfl⟩

theorem Listens.failClosed (w : Watched) (found : Finset IssueCondition) (now : Instant) :
    Listens w (w.failClosed found now) := by
  unfold Watched.failClosed
  split
  · exact .refl w
  · dsimp only
    split <;> exact ⟨rfl, Or.inr ⟨now, rfl⟩⟩

theorem Heard.listens (h : w.Heard events start) (h_same : Listens w w') :
    w'.Heard events start := by
  refine ⟨h_same.reports ▸ h.reports, ?_⟩
  rcases h_same.runtime with h_runtime | ⟨t, h_runtime⟩
  · exact h_runtime ▸ h.runtime
  · have h_act : w.runtime.step (.failClosed t) = .ok (w.runtime.failClosed t, none) := rfl
    exact h_runtime ▸ h.runtime.step h_act fun h_some => absurd rfl h_some

theorem Heard.with_flags (h : w.Heard events start) (flags : RuntimeFlags)
    (issues : IssueRegistry) :
    Heard events start { w with runtime := { w.runtime with flags := flags }, issues } :=
  ⟨h.reports, h.runtime.named.with_flags flags, h.runtime.state, h.runtime.waiting⟩

theorem Heard.perform {act : Act} (h : w.Heard events start)
    (h_act : act.completesAt ≠ none → Witnessed events act.completesAt)
    (h_step : w.perform act = .ok w') : w'.Heard events start := by
  unfold Watched.perform at h_step
  obtain ⟨⟨r, effect⟩, h_r, h_step⟩ := bind_eq_ok.mp h_step
  have h_runtime := h.runtime.step h_r h_act
  dsimp only at h_step
  -- the coordinator's listeners run or not, and they see to issues only
  split at h_step
  all_goals
    obtain rfl := pure_eq_ok.mp h_step
    exact ⟨h.reports, h_runtime⟩

theorem capabilityObserved_listens (w : Watched) (newState : Option EntityState) (now : Instant) :
    Listens w (w.capabilityObserved newState now) := by
  unfold capabilityObserved
  split
  · exact .refl w
  · split
    · exact .failClosed w _ now
    · split
      · split
        · exact .refl w
        · split
          · exact .refl w
          · exact .failClosed w _ now
      · exact .failClosed w _ now

theorem registryUpdated_listens (w : Watched) (home : Home) (registryId : String)
    (now : Instant) : Listens w (w.registryUpdated home registryId now) := by
  unfold registryUpdated
  split
  · exact .refl w
  · split
    · exact .refl w
    · split
      · exact .failClosed w _ now
      · split
        · exact .refl w
        · split
          · exact .refl w
          · exact .failClosed w _ now
          · split
            · exact ⟨rfl, Or.inl rfl⟩
            · exact .refl w

theorem areaUpdated_listens (w : Watched) (home : Home) (registryId : String)
    (now : Instant) : Listens w (w.areaUpdated home registryId now) := by
  unfold areaUpdated
  split
  · exact .refl w
  · split
    · exact .refl w
    · split
      · exact .failClosed w _ now
      · exact .refl w

/-- The listener of the vacuum queues what it is told. -/
theorem Heard.observed (h : w.Heard events start) {change : StateChange} {generation : ℕ}
    (h_event : .stateChanged change ∈ events) :
    (w.observed change generation).Heard events start := by
  unfold Watched.observed
  split
  · exact h
  · split
    · next state attributes h_new =>
      split
      · exact h.listens (.failClosed w _ _)
      · split
        · exact h.listens (.failClosed w _ _)
        · next h_features =>
          -- the queue grows by one report, which is what the event has brought
          refine ⟨?_, h.runtime⟩
          rw [List.forall_mem_append, List.forall_mem_singleton]
          exact ⟨h.reports, Bool.eq_false_of_not_eq_true h_features, _, h_event, h_new, rfl⟩
    · exact h.listens (.failClosed w _ _)

/-- A report that completes is plain. -/
theorem Heard.witnessed (h : w.Heard events start) {report : Report} (h_report : report ∈ w.reports)
    (h_outcome : normalizeObservation report.state report.attributes = some .completed) :
    Witnessed events (some report.observedAt) := by
  obtain ⟨h_features, event, h_event, h_brings⟩ := h.reports report h_report
  obtain ⟨h_unfailed, h_state, h_details⟩ :=
    (VacuumReport.outcome_spec (.read report.state report.attributes)).2.2.2.mp h_outcome
  exact ⟨event, h_event, report, h_brings, ⟨h_state, h_details, h_unfailed, h_features⟩, rfl⟩

/-- **Every event.** -/
theorem Heard.step {event : WatchEvent} (h : w.Heard events start) (h_event : event ∈ events)
    (h_step : Watched.step event w = .ok w') : w'.Heard events start := by
  -- taking a report from the queue leaves the others
  have h_taken (i : ℕ) : (w.takeReport i).Heard events start :=
    ⟨fun report h_mem => h.reports report (List.mem_of_mem_eraseIdx h_mem), h.runtime⟩
  cases fired_of_step h_step with
  | @acted act w' h_latches h_reports h_perform =>
    -- what completes is a report of the listener
    refine h.perform (fun h_some => ?_) h_perform
    cases act with
    | observe => exact nomatch h_reports
    | _ => exact absurd rfl h_some
  | @passedOver i => exact h_taken i
  | @reported i revisionIds report outcome w' h_report h_outcome h_perform =>
    refine (h_taken i).perform (fun h_some => ?_) h_perform
    cases outcome with
    | completed =>
      -- the report was queued for an event of the list
      exact h.witnessed (List.mem_of_getElem? h_report) h_outcome
    | running | failed | uncertain => exact absurd rfl h_some
  | observed => exact h.observed h_event
  -- the other listeners queue no report
  | capabilityObserved => exact h.listens (capabilityObserved_listens w _ _)
  | registryUpdated => exact h.listens (registryUpdated_listens w _ _ _)
  | areaUpdated => exact h.listens (areaUpdated_listens w _ _ _)
  | vacuumLost => exact h.listens (.failClosed w _ _)
  | modeLost => exact h.with_flags _ _
  | detached => exact ⟨h.reports, h.runtime⟩
  | unloadBegan | unloadFailed => exact h.with_flags _ w.issues
  | elsewhere =>
    -- issues are no reports
    exact ⟨h.reports, h.runtime⟩

/-- A setup has heard nothing. -/
theorem Heard.setup {input : SetupInput} (h : input.setup = .ok w) (events : List WatchEvent) :
    w.Heard events input.state := by
  unfold SetupInput.setup at h
  obtain ⟨⟨vacuumEntityId, found⟩, -, h⟩ := bind_eq_ok.mp h
  obtain ⟨⟨selector, selectorId, requires⟩, -, h⟩ := bind_eq_ok.mp h
  dsimp only at h
  have h_data : (input.runtimeData vacuumEntityId found selector selectorId requires).Heard events
      input.state :=
    ⟨fun _ h_mem => absurd h_mem List.not_mem_nil, .fresh .., fun job h_job _ => Or.inl h_job,
      fun _ h_held => nomatch h_held⟩
  split at h
  · obtain ⟨bound, -, h⟩ := bind_eq_ok.mp h
    cases bound with
    | none =>
      obtain rfl := pure_eq_ok.mp h
      exact h_data.listens (.failClosed _ _ _)
    | some entityId =>
      obtain rfl := pure_eq_ok.mp h
      exact ⟨h_data.reports, h_data.runtime⟩
  · obtain rfl := pure_eq_ok.mp h
    exact h_data

end Watched

/-- **No completion is made up.** Take any run of a watched runtime, with any home at any moment,
any interleaving of calls, reports, dispatches and quarantines, and any saves that raise. Every
job that is completed, in memory or in what waits to be assigned, was completed when the setup
loaded it, or was finished at the time of a state change that has been delivered to the listener:
one that says `idle` or `docked` with no detail, no error and no lost feature. -/
theorem completions_are_heard {input : SetupInput} {w : Watched} (h : input.setup = .ok w)
    (events : List WatchEvent) (n : ℕ) :
    ∀ state ∈ (stateAt Watched.step w events n).runtime.states,
      Backed (events.take n) input.state state := by
  refine Watched.Heard.runtime (EachStep.invariant
    (fun w event w' h_w h_event h_step => Watched.Heard.step h_w h_event h_step)
    (EachStep.of_forall fun _ h_event _ => h_event) (Watched.Heard.setup h (events.take n))) |>.states

/-- The kitchen is dispatched, runs, and is docked again, with the completion still to be saved. -/
def kitchenCleaned : List WatchEvent :=
  ([.startNext (kitchenStart "key" kitchenIds 0) 0, .saved, .resumed, .preflight 0 (.ok none),
    .claim 0 0, .saved, .resumed, .callService 0, .serviceReturned 0, .accept 0 1, .saved,
    .resumed] : List Act).map .act ++
  [.stateChanged ⟨some (some "cleaning", some []), 2, 2⟩, .report 0 kitchenIds, .act .saved,
    .act .resumed, .stateChanged ⟨some (some "docked", some []), 3, 3⟩, .report 0 laterIds]

/-- There is a completion to be heard. -/
theorem completions_are_heard_kitchen :
    ∃ state ∈ (stateAt Watched.step kitchenWatched kitchenCleaned 18).runtime.states,
      state.ledger.jobs.map (fun job => (job.state, job.finishedAt)) = [(.completed, some 3)] ∧
        Backed (kitchenCleaned.take 18) kitchenState state := by
  obtain ⟨state, h_state, h_completed⟩ :
      ∃ state ∈ (stateAt Watched.step kitchenWatched kitchenCleaned 18).runtime.states,
        state.ledger.jobs.map (fun job => (job.state, job.finishedAt)) =
          [(.completed, some 3)] := by decide
  exact ⟨state, h_state, h_completed,
    completions_are_heard kitchenSetup_setup kitchenCleaned 18 state h_state⟩

end VacuumPlanner
