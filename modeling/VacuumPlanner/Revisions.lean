import VacuumPlanner.Reports

/-!
# Revisions of the plan

Four commands build a new revision of the plan: the number entities, the two actions on an
area, and the completions of a report. The first takes an instant after that of the current
revision and the last the later of the two, whatever the clock says. The actions stamp the
instant their handler read before it waited for the lock, so they can date a revision before
the one it replaces.

`PlanAdvances` is what one command does to the plan of a state, and `StateCommand.advances`
goes through the commands: each keeps every room but the one it is about, in its place and
lane, and dates the revision no earlier than the current one, the actions provided that
their instant is no earlier when they come to stamp it (`StampedInOrder`).
-/

namespace VacuumPlanner

open Framework

variable {s s' s'' : PlannerState} {area : String}

/-! ### What a command is about -/

/-- A job of the area has been completed. -/
def CompletedIn (L L' : QueueLedger) (area : String) : Prop :=
  ∃ j ∈ L.jobs, j.areaId = area ∧ j.state ≠ .completed ∧
    ∃ j' ∈ L'.jobs, j'.jobId = j.jobId ∧ j'.state = .completed

/-- The area a command is about: the one it names, or that of a job it has completed. -/
def StateCommand.Addresses (s s' : PlannerState) (area : String) : StateCommand → Prop
  | .postponeArea areaId _ _ _ | .skipAreaToday _ areaId _ _ _ | .setNativeValue _ areaId _ _ _ =>
    area = areaId
  | .completeJob _ _ _ | .observe _ _ _ => CompletedIn s.ledger s'.ledger area
  | .ledger _ | .cancelPendingBlock _ _ | .recordDispatchAcceptance _ _ _
  | .recordUncertain _ _ => False

/-- The revision ids the command is given are not the one in use. -/
def StateCommand.Fresh (s : PlannerState) : StateCommand → Prop
  | .completeJob _ _ revisionId | .postponeArea _ _ _ revisionId
  | .skipAreaToday _ _ _ _ revisionId | .setNativeValue _ _ _ _ revisionId =>
    revisionId ≠ s.planRevision.revisionId
  | .observe _ _ revisionIds => ∀ i, revisionIds i ≠ s.planRevision.revisionId
  | .ledger _ | .cancelPendingBlock _ _ | .recordDispatchAcceptance _ _ _
  | .recordUncertain _ _ => True

/-- The condition: the instant of an action on an area is no earlier than that of the
revision it replaces. An action that is refused before it stamps one may carry any instant. -/
def StateCommand.StampedInOrder (s : PlannerState) : StateCommand → Prop
  | .postponeArea areaId now days _ =>
    0 < days → areaId ∈ s.planRevision.roomPlans.map (·.areaId) → s.planRevision.createdAt ≤ now
  | .skipAreaToday zoneInfo areaId now timeZone _ =>
    zoneInfo timeZone ≠ none → areaId ∈ s.planRevision.roomPlans.map (·.areaId) →
      s.planRevision.createdAt ≤ now
  | .completeJob _ _ _ | .observe _ _ _ | .setNativeValue _ _ _ _ _ | .ledger _
  | .cancelPendingBlock _ _ | .recordDispatchAcceptance _ _ _ | .recordUncertain _ _ => True

/-- The plan moves forward, and only the addressed rooms change. -/
structure PlanAdvances (Addressed : String → Prop) (plan plan' : PlanRevision) : Prop where
  createdAt : plan.createdAt ≤ plan'.createdAt
  revision : plan'.roomPlans ≠ plan.roomPlans → plan'.revisionId ≠ plan.revisionId
  others : ∀ room ∈ plan.roomPlans, ¬ Addressed room.areaId → room ∈ plan'.roomPlans
  areas : plan'.roomPlans.map (·.areaId) = plan.roomPlans.map (·.areaId)
  lanes : plan'.roomPlans.map (·.laneId) = plan.roomPlans.map (·.laneId)

theorem PlanAdvances.refl (Addressed : String → Prop) (plan : PlanRevision) :
    PlanAdvances Addressed plan plan :=
  ⟨le_rfl, fun h => absurd rfl h, fun _ h_room _ => h_room, rfl, rfl⟩

/-- A revision that rewrites one room, under a new id. -/
theorem PlanAdvances.of_room {Addressed : String → Prop} {plan plan' : PlanRevision}
    {areaId : String} {change : RoomPlan → RoomPlan} (h_addressed : Addressed areaId)
    (h_area : ∀ room, (change room).areaId = room.areaId)
    (h_lane : ∀ room, (change room).laneId = room.laneId)
    (h_rooms : plan'.roomPlans = plan.roomPlans.map (updateIf (·.areaId = areaId) change))
    (h_created : plan.createdAt ≤ plan'.createdAt) (h_id : plan'.revisionId ≠ plan.revisionId) :
    PlanAdvances Addressed plan plan' := by
  have h_keep (key : RoomPlan → String) (h : ∀ room, key (change room) = key room) :
      plan'.roomPlans.map key = plan.roomPlans.map key := by
    rw [h_rooms, List.map_map]
    exact List.map_congr_left fun room _ => key_updateIf h room
  refine ⟨h_created, fun _ => h_id, fun room h_room h_other => ?_, h_keep _ h_area,
    h_keep _ h_lane⟩
  rw [h_rooms, List.mem_map]
  refine ⟨room, h_room, updateIf_neg fun h_same => h_other ?_⟩
  rw [of_decide_eq_true h_same]
  exact h_addressed

/-! ### The actions on a room -/

/-- The revision an action builds. -/
theorem reviseRoom_plan {areaId revisionId : String} {createdAt : Instant}
    {change : RoomPlan → RoomPlan} (h : reviseRoom s areaId revisionId createdAt change = .ok s') :
    s'.planRevision.revisionId = revisionId ∧ s'.planRevision.createdAt = createdAt := by
  unfold reviseRoom at h
  simp only [bind_eq_ok, rewriteWhere_eq_ok, PlanRevisionFields.construct_eq_ok,
    PlannerState.construct_eq_ok] at h
  obtain ⟨rooms, -, revision, h_revision, rfl, -⟩ := h
  rw [h_revision]
  exact ⟨rfl, rfl⟩

theorem PlanAdvances.of_reviseRoom {Addressed : String → Prop} {areaId revisionId : String}
    {createdAt : Instant} {change : RoomPlan → RoomPlan} (h_addressed : Addressed areaId)
    (h_area : ∀ room, (change room).areaId = room.areaId)
    (h_lane : ∀ room, (change room).laneId = room.laneId)
    (h_created : s.planRevision.createdAt ≤ createdAt)
    (h_fresh : revisionId ≠ s.planRevision.revisionId)
    (h : reviseRoom s areaId revisionId createdAt change = .ok s') :
    PlanAdvances Addressed s.planRevision s'.planRevision := by
  obtain ⟨h_id, h_at⟩ := reviseRoom_plan h
  refine .of_room h_addressed h_area h_lane (reviseRoom_ok h).2 ?_ ?_
  · rw [h_at]
    exact h_created
  · rw [h_id]
    exact h_fresh

/-- A number entity dates its revision after the current one. -/
theorem setNativeValue_advances {Addressed : String → Prop} {number : RoomNumber}
    {areaId revisionId : String} {value : PyFloat} {now : Instant} (h_addressed : Addressed areaId)
    (h_fresh : revisionId ≠ s.planRevision.revisionId)
    (h : setNativeValue number areaId value now revisionId s = .ok s') :
    PlanAdvances Addressed s.planRevision s'.planRevision := by
  rcases setNativeValue_revises h with rfl | ⟨n, h⟩
  · exact .refl Addressed _
  · have h_later : s.planRevision.createdAt ≤ max now (s.planRevision.createdAt + 1) :=
      le_max_of_le_right (Int.le_add_one le_rfl)
    refine .of_reviseRoom h_addressed (fun room => ?_) (fun room => ?_) h_later h_fresh h
    · cases number <;> rfl
    · cases number <;> rfl

/-! ### Completions -/

/-- A completion keeps the plan when no room has the area of the job. Otherwise it dates the
new revision no earlier than the current one. -/
theorem completeJobAndAdvancePlan_plan {L : QueueLedger} {plan : PlanRevision}
    {jobId nextRevisionId : String} {completedAt : Instant} {result : CompletionResult}
    (h : completeJobAndAdvancePlan L plan jobId completedAt nextRevisionId = .ok result) :
    result.planRevision = plan ∨ result.planRevision.revisionId = nextRevisionId ∧
      result.planRevision.createdAt = max plan.createdAt completedAt := by
  unfold completeJobAndAdvancePlan at h
  obtain ⟨j, -, h⟩ := bind_eq_ok.mp h
  obtain ⟨parent, -, h⟩ := bind_eq_ok.mp h
  obtain ⟨-, h⟩ := seq_eq_ok.mp h
  obtain ⟨C, -, h⟩ := bind_eq_ok.mp h
  obtain ⟨closed, -, h⟩ := bind_eq_ok.mp h
  split at h
  · obtain ⟨rooms, -, h⟩ := bind_eq_ok.mp h
    obtain ⟨-, h⟩ := seq_eq_ok.mp h
    obtain ⟨advanced, h_plan, h⟩ := bind_eq_ok.mp h
    obtain rfl := pure_eq_ok.mp h
    have h_fields := PlanRevisionFields.construct_eq_ok.mp h_plan
    exact Or.inr ⟨congrArg PlanRevisionFields.revisionId h_fields,
      congrArg PlanRevisionFields.createdAt h_fields⟩
  · obtain rfl := pure_eq_ok.mp h
    exact Or.inl rfl

/-- What a sequence of completions does to the plan, apart from its revision id. -/
structure CompletionsAdvance (s s' : PlannerState) : Prop where
  createdAt : s.planRevision.createdAt ≤ s'.planRevision.createdAt
  others : ∀ room ∈ s.planRevision.roomPlans, ¬ CompletedIn s.ledger s'.ledger room.areaId →
    room ∈ s'.planRevision.roomPlans
  areas : s'.planRevision.roomPlans.map (·.areaId) = s.planRevision.roomPlans.map (·.areaId)
  lanes : s'.planRevision.roomPlans.map (·.laneId) = s.planRevision.roomPlans.map (·.laneId)
  completions : Rewrites (JobMoved (movesTo .completed)) s.ledger s'.ledger

theorem completed_of_movesTo {state state' : JobState} (h : (state, state') ∈ movesTo .completed) :
    state' = .completed := by
  unfold movesTo at h
  exact (of_decide_eq_true (List.mem_filter.mp h).2).1

/-- What is completed first stays completed. -/
theorem CompletedIn.trans_left {L L' L'' : QueueLedger} (h : CompletedIn L L' area)
    (h_then : Rewrites (JobMoved (movesTo .completed)) L' L'') : CompletedIn L L'' area := by
  obtain ⟨j, hj, h_area, h_state, j', hj', h_id, h_state'⟩ := h
  obtain ⟨j'', hj'', rfl | h_moved⟩ := h_then.jobs.exists_mem hj'
  · exact ⟨j, hj, h_area, h_state, j'', hj'', h_id, h_state'⟩
  · exact ⟨j, hj, h_area, h_state, j'', hj'', (jobId_of_identity h_moved.identity).trans h_id,
      completed_of_movesTo h_moved.move⟩

/-- What is completed later was not completed before. -/
theorem CompletedIn.trans_right {L L' L'' : QueueLedger}
    (h_first : Rewrites (JobMoved (movesTo .completed)) L L') (h : CompletedIn L' L'' area) :
    CompletedIn L L'' area := by
  obtain ⟨j', hj', h_area, h_state, j'', hj'', h_id, h_state''⟩ := h
  obtain ⟨i, h_i⟩ := List.getElem?_of_mem hj'
  have h_lt : i < L.jobs.length := by
    rw [← h_first.jobCount]
    exact (List.getElem?_eq_some_iff.mp h_i).1
  obtain ⟨j, h_j, rfl | h_moved⟩ := h_first.jobs.getElem?_of_lt h_lt h_i
  · exact ⟨_, List.mem_of_getElem? h_j, h_area, h_state, j'', hj'', h_id, h_state''⟩
  · exact absurd (completed_of_movesTo h_moved.move) h_state

theorem CompletionsAdvance.refl (s : PlannerState) : CompletionsAdvance s s :=
  ⟨le_rfl, fun _ h_room _ => h_room, rfl, rfl, .refl _⟩

theorem CompletionsAdvance.trans (h : CompletionsAdvance s s') (h' : CompletionsAdvance s' s'') :
    CompletionsAdvance s s'' where
  createdAt := h.createdAt.trans h'.createdAt
  others room h_room h_other := by
    have h_first : ¬ CompletedIn s.ledger s'.ledger room.areaId :=
      fun h_done => h_other (h_done.trans_left h'.completions)
    refine h'.others room (h.others room h_room h_first) ?_
    exact fun h_done => h_other (h_done.trans_right h.completions)
  areas := h'.areas.trans h.areas
  lanes := h'.lanes.trans h.lanes
  completions := h.completions.trans h'.completions
    (JobMoved.comp (QueueLedger.movesTo_oneLayer .completed))

/-- One completion. -/
theorem completeRunningJob_advances {observedAt : Instant} {entry : String × String}
    (h : completeRunningJob observedAt s entry = .ok s') :
    CompletionsAdvance s s' ∧
      (s'.planRevision = s.planRevision ∨ s'.planRevision.revisionId = entry.2) := by
  have h_completions := completeRunningJob_rewrites h
  obtain ⟨j₀, hj₀, h_id₀, -, h_jobs, -⟩ := completeRunningJob_ok h
  obtain ⟨result, h_result, h_state⟩ := bind_eq_ok.mp h
  obtain ⟨h_plan, -⟩ := PlannerState.construct_eq_ok.mp h_state
  obtain ⟨j, hj, h_id, h_running, -, -, -, -, -, -, h_rooms⟩ :=
    completeJobAndAdvancePlan_ok h_result
  -- job identities are distinct, so the two readings are of one job
  obtain rfl := eq_of_key s.ledger.valid.jobIds hj hj₀ (h_id.trans h_id₀.symm)
  rw [← h_plan] at h_rooms
  have h_done : CompletedIn s.ledger s'.ledger j.areaId := by
    refine ⟨j, hj, rfl, by rw [h_running]; decide,
      QueueLedger.changedJob .completed observedAt none none none j, ?_,
      jobId_of_identity (QueueLedger.changedJob_identity ..), QueueLedger.changedJob_state ..⟩
    rw [h_jobs, List.mem_map]
    exact ⟨j, hj, updateIf_pos (by simp)⟩
  -- advancing a room changes neither its area nor its lane
  have h_keep (key : RoomPlan → String) (h : ∀ room, key (advanceRoom j observedAt room) = key room) :
      s'.planRevision.roomPlans.map key = s.planRevision.roomPlans.map key := by
    rw [h_rooms, List.map_map]
    exact List.map_congr_left fun room _ => key_updateIf h room
  refine ⟨⟨?_, fun room h_room h_other => ?_, h_keep _ fun _ => rfl, h_keep _ fun _ => rfl,
    h_completions⟩, ?_⟩
  · rw [h_plan]
    rcases completeJobAndAdvancePlan_plan h_result with h_same | ⟨-, h_at⟩
    · rw [h_same]
    · rw [h_at]
      exact le_max_left _ _
  · rw [h_rooms, List.mem_map]
    -- a room that changes is one whose area the job has cleaned
    refine ⟨room, h_room, updateIf_neg fun h_same => h_other ?_⟩
    rw [of_decide_eq_true h_same]
    exact h_done
  · rw [h_plan]
    exact (completeJobAndAdvancePlan_plan h_result).imp_right And.left

/-- The loop of `_completed`. -/
theorem completeRunningJobs_advances {observedAt : Instant} {entries : List (String × String)}
    (h : entries.foldlM (completeRunningJob observedAt) s = .ok s') :
    CompletionsAdvance s s' ∧ (s'.planRevision = s.planRevision ∨
      ∃ entry ∈ entries, s'.planRevision.revisionId = entry.2) := by
  induction entries generalizing s with
  | nil =>
    obtain rfl : s = s' := pure_eq_ok.mp h
    exact ⟨.refl s, Or.inl rfl⟩
  | cons entry entries ih =>
    rw [List.foldlM_cons] at h
    obtain ⟨s₁, h₁, h_rest⟩ := bind_eq_ok.mp h
    obtain ⟨h_advances₁, h_id₁⟩ := completeRunningJob_advances h₁
    obtain ⟨h_advances, h_id⟩ := ih h_rest
    refine ⟨h_advances₁.trans h_advances, ?_⟩
    rcases h_id with h_same | ⟨last, h_last, h_id⟩
    · rw [h_same]
      exact h_id₁.imp_right fun h_id => ⟨entry, List.mem_cons_self, h_id⟩
    · exact Or.inr ⟨last, List.mem_cons_of_mem _ h_last, h_id⟩

/-- Completions under new revision ids. -/
theorem CompletionsAdvance.planAdvances (h : CompletionsAdvance s s')
    (h_id : s'.planRevision = s.planRevision ∨
      s'.planRevision.revisionId ≠ s.planRevision.revisionId) :
    PlanAdvances (CompletedIn s.ledger s'.ledger) s.planRevision s'.planRevision := by
  refine ⟨h.createdAt, fun h_changed => ?_, h.others, h.areas, h.lanes⟩
  exact h_id.resolve_left fun h_same => h_changed (by rw [h_same])

/-! ### Every command -/

/-- The reports that complete nothing leave the plan alone. -/
theorem observe_plan {outcome : ObservationOutcome} {observedAt : Instant}
    {revisionIds : ℕ → String} (h_outcome : outcome ≠ .completed)
    (h : observe outcome observedAt revisionIds s = .ok s') : s'.planRevision = s.planRevision := by
  cases outcome with
  | completed => exact absurd rfl h_outcome
  | running =>
    have h : observeRunning s observedAt = .ok s' := h
    exact (observeRunning_ok h).1
  | failed =>
    have h : observeFailed s observedAt = .ok s' := h
    exact (observeFailed_ok h).plan
  | uncertain =>
    have h : observeUncertain s observedAt = .ok s' := h
    exact (observeUncertain_ok h).plan

/-- **One command.** It moves the plan forward and changes no room it is not about. -/
theorem StateCommand.advances {c : StateCommand} (h_fresh : c.Fresh s)
    (h_stamp : c.StampedInOrder s) (h : c.run s = .ok s') :
    PlanAdvances (fun area => c.Addresses s s' area) s.planRevision s'.planRevision := by
  -- most commands leave the plan alone
  have h_same (h : s'.planRevision = s.planRevision) :
      PlanAdvances (fun area => c.Addresses s s' area) s.planRevision s'.planRevision := by
    rw [h]
    exact .refl _ _
  cases c with
  | ledger command =>
    obtain ⟨L', -, h⟩ := bind_eq_ok.mp h
    exact h_same (PlannerState.construct_eq_ok.mp h).1
  | completeJob jobId completedAt revisionId =>
    obtain ⟨h_advances, h_id⟩ := completeRunningJob_advances h
    -- the id of the revision is the fresh one, or there was no revision
    refine h_advances.planAdvances (h_id.imp_right fun h_new => ?_)
    rw [h_new]
    exact h_fresh
  | observe outcome observedAt revisionIds =>
    by_cases h_outcome : outcome = .completed
    · subst h_outcome
      obtain ⟨h_advances, h_id⟩ := completeRunningJobs_advances h
      refine h_advances.planAdvances (h_id.imp_right ?_)
      rintro ⟨entry, h_entry, h_new⟩
      -- each completion of the report takes the next id of the supply
      obtain ⟨numbered, -, rfl⟩ := List.mem_map.mp h_entry
      rw [h_new]
      exact h_fresh numbered.2
    · exact h_same (observe_plan h_outcome h)
  | cancelPendingBlock =>
    obtain ⟨-, -, -, -, h_plan, -⟩ := cancelPendingBlock_ok h
    exact h_same h_plan
  | recordDispatchAcceptance =>
    obtain ⟨b, -, -, ⟨-, rfl⟩ | ⟨-, h_plan, -⟩⟩ := recordDispatchAcceptance_ok h
    · exact h_same rfl
    · exact h_same h_plan
  | recordUncertain =>
    obtain ⟨b, -, -, ⟨-, rfl⟩ | ⟨h_plan, -⟩⟩ := recordUncertain_ok h
    · exact h_same rfl
    · exact h_same h_plan
  | postponeArea areaId now days revisionId =>
    -- one room is revised, and its area and its lane stay
    obtain ⟨h_days, h_area⟩ := postponeArea_admitted h
    refine .of_reviseRoom rfl (fun room => ?_) (fun room => ?_) (h_stamp h_days h_area) h_fresh
      (postponeArea_revises h)
    · rfl
    · rfl
  | skipAreaToday zoneInfo areaId now timeZone revisionId =>
    obtain ⟨h_zone, h_area⟩ := skipAreaToday_admitted h
    obtain ⟨nextMidnight, -, h⟩ := skipAreaToday_revises h
    refine .of_reviseRoom rfl (fun room => ?_) (fun room => ?_) (h_stamp h_zone h_area) h_fresh h
    · rfl
    · rfl
  | setNativeValue number areaId value now revisionId =>
    exact setNativeValue_advances rfl h_fresh h

/-- **Plan revisions move forward**, from every state of a run to the next, when every
action on an area carries an instant no earlier than that of the revision it replaces. -/
theorem plan_moves_forward (s : PlannerState) (commands : List StateCommand)
    (h_run : EachStep StateCommand.run (fun s c => c.Fresh s ∧ c.StampedInOrder s) s commands)
    (n : ℕ) :
    PlanAdvances
      (fun area => ∃ c ∈ commands[n]?, c.Addresses (stateAt StateCommand.run s commands n)
        (stateAt StateCommand.run s commands (n + 1)) area)
      (stateAt StateCommand.run s commands n).planRevision
      (stateAt StateCommand.run s commands (n + 1)).planRevision := by
  rcases stateAt_succ_cases StateCommand.run s commands n with h_same | ⟨c, h_c, h_step⟩
  · rw [h_same]
    exact .refl _ _
  · obtain ⟨h_fresh, h_stamp⟩ := h_run.at_step h_c
    have h_advances := StateCommand.advances h_fresh h_stamp h_step
    refine { h_advances with others := fun room h_room h_other => ?_ }
    exact h_advances.others room h_room fun h_addressed => h_other ⟨c, h_c, h_addressed⟩

/-- The priority of the kitchen is set at instant 10. Then the kitchen is postponed, by an
action that read the clock at `now`. -/
def prioritizedThenPostponed (now : Instant) : List StateCommand :=
  [.setNativeValue .priority "kitchen" (.finite 1) 10 "first",
    .postponeArea "kitchen" now 1 "second"]

theorem prioritizedThenPostponed_fresh (now : Instant) :
    EachStep StateCommand.run (fun s c => c.Fresh s) kitchenState (prioritizedThenPostponed now) := by
  refine ⟨?_, ?_, trivial⟩
  · change "first" ≠ kitchenState.planRevision.revisionId
    decide
  · change "second" ≠ (attempt (StateCommand.run (.setNativeValue .priority "kitchen" (.finite 1)
      10 "first")) kitchenState).planRevision.revisionId
    decide

/-- An action that read the clock after the revision it replaces. -/
theorem plan_moves_forward_kitchen :
    (stateAt StateCommand.run kitchenState (prioritizedThenPostponed 12) 1).planRevision.createdAt ≤
      (stateAt StateCommand.run kitchenState (prioritizedThenPostponed 12) 2).planRevision.createdAt := by
  obtain ⟨h_first, h_second, -⟩ := prioritizedThenPostponed_fresh 12
  refine (plan_moves_forward kitchenState (prioritizedThenPostponed 12) ⟨⟨h_first, trivial⟩,
    ⟨h_second, fun _ _ => ?_⟩, trivial⟩ 1).createdAt
  decide

/-- **A revision is dated back.** An action that read the clock at instant 5 and waited for
the lock carries an earlier instant than the revision it replaces. -/
theorem revision_dated_back :
    EachStep StateCommand.run (fun s c => c.Fresh s) kitchenState (prioritizedThenPostponed 5) ∧
      ¬ (stateAt StateCommand.run kitchenState (prioritizedThenPostponed 5) 1).planRevision.createdAt ≤
        (stateAt StateCommand.run kitchenState (prioritizedThenPostponed 5) 2).planRevision.createdAt :=
  ⟨prioritizedThenPostponed_fresh 5, by decide⟩

end VacuumPlanner
