import VacuumPlanner.Admission
import VacuumPlanner.Commands

/-!
# Completing a job

`complete_job_and_advance_plan` chains up to three guarded transitions, each of which builds
a whole new ledger, and then rewrites the plan. A transition that raised half way would lose
a completion the vacuum has reported, so none may.

The job needs only its own timestamps. The block needs more, and only once all of its jobs
have ended: it is closed at the latest of their endings, which is no earlier than the
completion itself and therefore no earlier than the commit, and its new state is the one its
jobs call for (`closedState`), so the terminal-result check has nothing to object to
(`BlockAgrees.closed`). A parent that was never seen running takes one more transition on the
way, which changes no timestamp.

`completeJobAndAdvancePlan_isOk` puts the three together, and `complete_job_atomically` states
the effect record by record (`JobFinished`).
-/

namespace VacuumPlanner

open Framework

variable {L L' C : QueueLedger} {b parent : QueueBlock} {j job : QueueJob}
  {completedAt latest : Instant} {children : List QueueJob}

/-! ### The job -/

/-- The rewrite of a completed job. -/
def finishedJob (completedAt : Instant) (job : QueueJob) : QueueJob :=
  { job with
    state := .completed, finishedAt := some completedAt, errorCode := none, errorDetail := none }

theorem changedJob_completed (completedAt : Instant) (j : QueueJob) :
    QueueLedger.changedJob .completed completedAt none none none j = finishedJob completedAt j :=
  rfl

/-- A running job may complete once it has started. -/
theorem JobLifecycle.finished_of_running (h : JobLifecycle j) (h_j : j.state = .running)
    (h_started : Before j.startedAt (some completedAt)) :
    JobLifecycle (finishedJob completedAt j) := by
  obtain ⟨h_attempt, h_sent⟩ := h.dispatched (by rw [h_j]; decide)
  have h_start : j.startedAt ≠ none := h.started (by rw [h_j]; decide)
  obtain ⟨h_ps, h_pst, -, h_sst, -, -⟩ := chronological_four.mp h.chronological
  refine ⟨h.attempt, nofun, fun _ => ⟨h_attempt, h_sent⟩, nofun, fun _ => h_start, nofun, nofun,
    chronological_four.mpr ⟨h_ps, h_pst, ?_, h_sst, ?_, h_started⟩⟩
  · exact h_pst.trans_some h_start h_started
  · exact h_sst.trans_some h_start h_started

/-! ### The block -/

/-- The state a block closes in once all of its jobs have ended. -/
def closedState (children : List QueueJob) : BlockState :=
  if children.all (·.state = .completed) then .completed else .partial'

/-- The rewrite of a block that closes. -/
def closedBlock (children : List QueueJob) (latest : Instant) (b : QueueBlock) : QueueBlock :=
  { b with state := closedState children, completedAt := some latest }

theorem closedState_cases (children : List QueueJob) :
    ((∀ j ∈ children, j.state = .completed) ∧ closedState children = .completed) ∨
      ((∃ j ∈ children, j.state ≠ .completed) ∧ closedState children = .partial') := by
  unfold closedState
  by_cases h : ∀ j ∈ children, j.state = .completed
  · exact Or.inl ⟨h, if_pos (by simpa using h)⟩
  · refine Or.inr ⟨by simpa using h, if_neg (by simpa using h)⟩

theorem closedState_completed (h : ∀ j ∈ children, j.state = .completed) :
    closedState children = .completed := by
  rcases closedState_cases children with ⟨-, h_state⟩ | ⟨⟨j, hj, h_j⟩, -⟩
  · exact h_state
  · exact absurd (h j hj) h_j

theorem closedState_mixed (h : ∃ j ∈ children, j.state ≠ .completed) :
    closedState children = .partial' := by
  obtain ⟨j, hj, h_j⟩ := h
  rcases closedState_cases children with ⟨h_all, -⟩ | ⟨-, h_state⟩
  · exact absurd (h_all j hj) h_j
  · exact h_state

/-- The closing transition writes the closing state and timestamp. -/
theorem changedBlock_closed (children : List QueueJob) (latest : Instant) (b : QueueBlock) :
    QueueLedger.changedBlock (closedState children) latest none b =
      closedBlock children latest b := by
  unfold QueueLedger.changedBlock closedBlock
  rcases closedState_cases children with ⟨-, h⟩ | ⟨-, h⟩ <;> rw [h] <;> simp

/-- A block agrees with its jobs when it closes in the state they call for: one of them was
just completed, so mixed results are at least two. -/
theorem BlockAgrees.closed (h_state : b.state = closedState children)
    (h_ended : ∀ j ∈ children, j.state.terminal = true)
    (h_completed : ∃ j ∈ children, j.state = .completed) : BlockAgrees b children := by
  obtain ⟨j₀, hj₀, h_j₀⟩ := h_completed
  have h_mem : JobState.completed ∈ (children.map (·.state)).toFinset := by
    rw [List.mem_toFinset]
    exact List.mem_map.mpr ⟨j₀, hj₀, h_j₀⟩
  -- a closed block constrains no job by its own state
  have h_none : incompatibleStates b = [] := by
    refine incompatibleStates_of_late ?_
    rw [h_state]
    rcases closedState_cases children with ⟨-, h⟩ | ⟨-, h⟩ <;> rw [h] <;> decide
  refine ⟨fun j _ => by rw [h_none]; exact List.not_mem_nil, ?_, fun _ => h_ended⟩
  unfold validateTerminalBlockResult
  simp only [seq_eq_ok, raiseIf_eq_ok]
  rcases closedState_cases children with ⟨h_all, h⟩ | ⟨⟨k, hk, h_k⟩, h⟩
  · -- all completed: the set of states is a singleton
    have h_states : (children.map (·.state)).toFinset = {.completed} := by
      ext state
      rw [List.mem_toFinset, List.mem_map, Finset.mem_singleton]
      constructor
      · rintro ⟨j, hj, rfl⟩
        exact h_all j hj
      · rintro rfl
        exact ⟨j₀, hj₀, h_j₀⟩
    rw [h_state, h, h_states]
    decide
  · -- mixed: the completed job and another one differ, so there are two states
    have h_two : 2 ≤ (children.map (·.state)).toFinset.card := by
      have h_k_mem : k.state ∈ (children.map (·.state)).toFinset := by
        rw [List.mem_toFinset]
        exact List.mem_map_of_mem hk
      exact Finset.one_lt_card.mpr ⟨_, h_mem, _, h_k_mem, Ne.symm h_k⟩
    have h_terminal : ∀ s ∈ (children.map (·.state)).toFinset, s.terminal = true := by
      intro s hs
      rw [List.mem_toFinset, List.mem_map] at hs
      obtain ⟨j, hj, rfl⟩ := hs
      exact h_ended j hj
    rw [h_state, h]
    refine ⟨nofun, ?_, nofun⟩
    rintro ⟨-, h_empty | h_open | h_few | h_missing⟩
    · rw [h_empty] at h_mem
      exact Finset.notMem_empty _ h_mem
    · exact h_open h_terminal
    · omega
    · exact h_missing h_mem

/-- A committed block takes any state its jobs allow and any completion from its commit
on. -/
theorem BlockLifecycle.closed (h : BlockLifecycle b)
    (h_b : b.state ∈ [BlockState.committed, .running])
    (h_latest : Before b.committedAt (some latest)) :
    BlockLifecycle (closedBlock children latest b) := by
  have h_commit : b.committedAt ≠ none := h.committed (by revert h_b; cases b.state <;> decide)
  have h_sealed : b.sealedAt ≠ none := h.isSealed (by revert h_b; cases b.state <;> decide)
  obtain ⟨h_cs, h_cc, -, h_sc, -, -⟩ := chronological_four.mp h.chronological
  refine ⟨chronological_four.mpr ⟨h_cs, h_cc, ?_, h_sc, ?_, h_latest⟩, fun _ => h_sealed,
    fun _ => h_commit, nofun⟩
  · exact h_cc.trans_some h_commit h_latest
  · exact h_sc.trans_some h_commit h_latest

/-- A committed block may be seen running. -/
theorem BlockLifecycle.runs (h : BlockLifecycle b) (h_b : b.state = .committed) :
    BlockLifecycle { b with state := .running } where
  chronological := h.chronological
  isSealed _ := h.isSealed (by rw [h_b]; decide)
  committed _ := h.committed (by rw [h_b]; decide)
  completed := nofun

/-- The latest of the endings of some jobs. -/
def LatestFinish (children : List QueueJob) (latest : Instant) : Prop :=
  IsGreatest {t | ∃ j ∈ children, j.finishedAt = some t} latest

theorem latestFinish_iff : (children.filterMap (·.finishedAt)).max? = some latest ↔
    LatestFinish children latest := by
  unfold LatestFinish IsGreatest upperBounds
  rw [List.max?_eq_some_iff]
  simp only [List.mem_filterMap, Set.mem_ofPred_eq]

/-- The closing transition of a running block. -/
theorem exists_closed (hb : b ∈ L.blocks) (h_b : b.state = .running)
    (h_children : jobsOf L.jobs b = children)
    (h_ended : ∀ j ∈ children, j.state.terminal = true)
    (h_completed : ∃ j ∈ children, j.state = .completed)
    (h_latest : Before b.committedAt (some latest)) :
    ∃ L', L.replaceBlockState b.blockId (closedState children) latest none = .ok L' ∧
      L'.jobs = L.jobs ∧ L'.blocks = L.blocks.map
        (updateIf (·.blockId = b.blockId) (closedBlock children latest)) := by
  obtain ⟨L', h_L'⟩ : ∃ L',
      L.replaceBlockState b.blockId (closedState children) latest none = .ok L' := by
    refine L.exists_replaceBlockState (closedState children) latest hb ?_ ?_ ?_
    · -- both closed states may follow a running one
      rw [h_b]
      rcases closedState_cases children with ⟨-, h⟩ | ⟨-, h⟩ <;> rw [h] <;> decide
    · rw [changedBlock_closed]
      exact (L.blockLifecycle hb).closed (by rw [h_b]; decide) h_latest
    · rw [h_children]
      exact BlockAgrees.closed (QueueLedger.changedBlock_state ..) h_ended h_completed
  obtain ⟨-, -, -, -, -, -, -, -, h_fields⟩ := QueueLedger.replaceBlockState_eq_ok.mp h_L'
  have h_jobs : L'.jobs = L.jobs := (congrArg LedgerFields.jobs h_fields :)
  refine ⟨L', h_L', h_jobs, ?_⟩
  refine (congrArg LedgerFields.blocks h_fields).trans (List.map_congr_left fun b' _ => ?_)
  unfold updateIf
  rw [changedBlock_closed]

/-- A committed block is seen running first. -/
theorem exists_running (hb : b ∈ L.blocks) (h_b : b.state = .committed) (latest : Instant) :
    ∃ R, L.replaceBlockState b.blockId .running latest none = .ok R ∧ R.jobs = L.jobs ∧
      R.blocks = L.blocks.map (updateIf (·.blockId = b.blockId)
        (QueueLedger.changedBlock .running latest none)) := by
  obtain ⟨R, h_R⟩ := L.exists_replaceBlockState .running latest hb (by rw [h_b]; decide)
    ((L.blockLifecycle hb).runs h_b)
    (BlockAgrees.of_state (by rw [QueueLedger.changedBlock_state]; decide))
  obtain ⟨-, -, -, -, -, -, -, -, h_fields⟩ := QueueLedger.replaceBlockState_eq_ok.mp h_R
  have h_jobs : R.jobs = L.jobs := (congrArg LedgerFields.jobs h_fields :)
  exact ⟨R, h_R, h_jobs, congrArg LedgerFields.blocks h_fields⟩

/-- What `_close_completed_block` computes once the last job has ended. -/
theorem closeCompletedBlock_of_ended
    (h_ended : ∀ k ∈ jobsOf L.jobs parent, k.state.terminal = true)
    (h_latest : LatestFinish (jobsOf L.jobs parent) latest) :
    closeCompletedBlock L parent = (if parent.state = .committed then
        L.replaceBlockState parent.blockId .running latest none >>= fun R =>
          R.replaceBlockState parent.blockId (closedState (jobsOf L.jobs parent)) latest none
      else L.replaceBlockState parent.blockId (closedState (jobsOf L.jobs parent)) latest none) := by
  have h_all : (L.jobs.filter fun x => decide (x.blockId = parent.blockId)).all
      (fun x => x.state.terminal) = true := List.all_eq_true.mpr h_ended
  unfold closeCompletedBlock
  dsimp only
  rw [if_pos h_all]
  show (orRaise (((jobsOf L.jobs parent).filterMap (·.finishedAt)).max?) _ >>= _) = _
  rw [latestFinish_iff.mpr h_latest]
  rfl

/-- The parent of a completed job: left alone while another job of it is open, closed at the
latest ending otherwise. -/
inductive ParentClosed (parent : QueueBlock) (children : List QueueJob)
    (blocks blocks' : List QueueBlock) : Prop where
  | waits (h_open : ∃ k ∈ children, k.state.terminal = false) (same : blocks' = blocks)
  | closes (latest : Instant) (h_ended : ∀ k ∈ children, k.state.terminal = true)
      (h_latest : LatestFinish children latest)
      (closed : blocks' = blocks.map
        (updateIf (·.blockId = parent.blockId) (closedBlock children latest)))

theorem ParentClosed.of_ended {blocks blocks' : List QueueBlock}
    (h : ParentClosed parent children blocks blocks')
    (h_ended : ∀ k ∈ children, k.state.terminal = true) :
    ∃ latest, LatestFinish children latest ∧ blocks' = blocks.map
      (updateIf (·.blockId = parent.blockId) (closedBlock children latest)) := by
  cases h with
  | waits h_open same =>
    obtain ⟨k, hk, h_k⟩ := h_open
    rw [h_ended k hk] at h_k
    exact absurd h_k.symm Bool.false_ne_true
  | closes latest _ h_latest closed => exact ⟨latest, h_latest, closed⟩

theorem ParentClosed.of_open {blocks blocks' : List QueueBlock}
    (h : ParentClosed parent children blocks blocks')
    (h_open : ∃ k ∈ children, k.state.terminal = false) : blocks' = blocks := by
  cases h with
  | waits _ same => exact same
  | closes _ h_ended _ _ =>
    obtain ⟨k, hk, h_k⟩ := h_open
    rw [h_ended k hk] at h_k
    exact absurd h_k.symm Bool.false_ne_true

/-- **Closing the parent** never raises. -/
theorem closeCompletedBlock_isOk (hp : parent ∈ C.blocks)
    (h_state : parent.state ∈ [BlockState.committed, .running])
    (hj : job ∈ jobsOf C.jobs parent) (h_job : job.state = .completed)
    (h_finished : job.finishedAt = some completedAt)
    (h_commit : Before parent.committedAt (some completedAt)) :
    ∃ L', closeCompletedBlock C parent = .ok L' ∧ L'.jobs = C.jobs ∧
      ParentClosed parent (jobsOf C.jobs parent) C.blocks L'.blocks := by
  by_cases h_ended : ∀ k ∈ jobsOf C.jobs parent, k.state.terminal = true
  · -- the completion itself is one of the endings, so there is a latest one
    have h_some : completedAt ∈ (jobsOf C.jobs parent).filterMap (·.finishedAt) :=
      List.mem_filterMap.mpr ⟨job, hj, h_finished⟩
    obtain ⟨latest, h_max⟩ : ∃ latest,
        ((jobsOf C.jobs parent).filterMap (·.finishedAt)).max? = some latest :=
      Option.isSome_iff_exists.mp (List.isSome_max?_of_mem h_some)
    have h_latest : LatestFinish (jobsOf C.jobs parent) latest := latestFinish_iff.mp h_max
    have h_le : completedAt ≤ latest := h_latest.2 ⟨job, hj, h_finished⟩
    have h_committed : Before parent.committedAt (some latest) :=
      h_commit.trans_some nofun (before_some.mpr h_le)
    rw [closeCompletedBlock_of_ended h_ended h_latest]
    -- a block that was only committed is started first, at the instant it ends
    by_cases h_parent : parent.state = .committed
    · rw [if_pos h_parent]
      obtain ⟨R, h_R, h_jobs, h_blocks⟩ := exists_running hp h_parent latest
      have h_mem : QueueLedger.changedBlock .running latest none parent ∈ R.blocks := by
        rw [h_blocks]
        exact List.mem_map.mpr ⟨parent, hp, updateIf_pos (by simp)⟩
      have h_own : jobsOf R.jobs (QueueLedger.changedBlock .running latest none parent) =
          jobsOf C.jobs parent := by
        rw [h_jobs]
        rfl
      obtain ⟨L', h_L', h_jobs', h_blocks'⟩ :=
        exists_closed h_mem rfl h_own h_ended ⟨job, hj, h_job⟩ h_committed
      rw [h_R, ok_bind]
      refine ⟨L', h_L', h_jobs'.trans h_jobs, .closes latest h_ended h_latest ?_⟩
      rw [h_blocks', h_blocks]
      refine map_updateIf_map_updateIf fun b => ?_
      rw [blockId_of_identity (QueueLedger.changedBlock_identity ..)]
    · rw [if_neg h_parent]
      have h_running : parent.state = .running := by
        revert h_state h_parent
        cases parent.state <;> decide
      obtain ⟨L', h_L', h_jobs', h_blocks'⟩ :=
        exists_closed hp h_running rfl h_ended ⟨job, hj, h_job⟩ h_committed
      exact ⟨L', h_L', h_jobs', .closes latest h_ended h_latest h_blocks'⟩
  -- a job is still open, and the ledger stays as it is
  · push Not at h_ended
    obtain ⟨k, hk, h_k⟩ := h_ended
    have h_all : ¬ (C.jobs.filter fun x => decide (x.blockId = parent.blockId)).all
        (fun x => x.state.terminal) = true := by
      rw [List.all_eq_true]
      exact fun h => h_k (h k hk)
    refine ⟨C, ?_, rfl, .waits ⟨k, hk, Bool.eq_false_of_not_eq_true h_k⟩ rfl⟩
    unfold closeCompletedBlock
    dsimp only
    rw [if_neg h_all]
    rfl

/-! ### The plan -/

/-- Advancing a room leaves its rules alone. -/
theorem RoomPlan.postInit_advanceRoom {room : RoomPlan} (h : room.postInit = .ok ()) :
    (advanceRoom job completedAt room).postInit = .ok () := h

/-- The plan after a completion. -/
def advancedPlan (job : QueueJob) (completedAt : Instant) (nextRevisionId : String)
    (plan : PlanRevision) : PlanRevisionFields where
  revisionId := nextRevisionId
  createdAt := max plan.createdAt completedAt
  roomPlans := plan.roomPlans.map (updateIf (·.areaId = job.areaId) (advanceRoom job completedAt))

/-- A plan whose rooms have advanced is a plan. -/
theorem exists_advancedPlan (plan : PlanRevision) (job : QueueJob) (completedAt : Instant)
    {nextRevisionId : String} (h_text : isBlank nextRevisionId = false) :
    ∃ plan', (advancedPlan job completedAt nextRevisionId plan).construct = .ok plan' := by
  obtain ⟨h_rooms, -, h_areas, h_lanes⟩ := plan.checks
  -- an advancing room keeps its area and its lane, which the plan checks across rooms
  have h_keep : ∀ {κ : Type} (key : RoomPlan → κ), (∀ room, key (advanceRoom job completedAt room) =
      key room) → (advancedPlan job completedAt nextRevisionId plan).roomPlans.map key =
        plan.roomPlans.map key := by
    intro κ key h_key
    change (plan.roomPlans.map _).map key = _
    rw [List.map_map]
    exact List.map_congr_left fun room _ => key_updateIf h_key room
  -- so the plan checks what it has checked before, and the new id
  have h_checked : (advancedPlan job completedAt nextRevisionId plan).postInit = .ok () := by
    unfold PlanRevisionFields.postInit
    simp only [seq_eq_ok, raiseIf_eq_ok, checkAll_eq_ok, not_not]
    refine ⟨fun room' h_room' => ?_, ?_, ?_, ?_⟩
    · obtain ⟨room, h_room, rfl⟩ := List.mem_map.mp h_room'
      unfold updateIf
      split
      · exact RoomPlan.postInit_advanceRoom (h_rooms room h_room)
      · exact h_rooms room h_room
    · unfold requireText
      rw [raiseIf_eq_ok]
      change ¬ isBlank nextRevisionId = true
      rw [h_text]
      exact Bool.false_ne_true
    · rw [h_keep (·.areaId) fun _ => rfl]
      exact h_areas
    · rw [h_keep (·.laneId) fun _ => rfl]
      exact h_lanes
  exact ⟨⟨_, h_checked⟩, PlanRevisionFields.construct_eq_ok.mpr rfl⟩

/-- What a completion makes of the plan: it stays when no room has the area of the job, and is
followed by the plan whose rooms have advanced otherwise. -/
inductive PlanAdvanced (job : QueueJob) (completedAt : Instant) (nextRevisionId : String)
    (plan plan' : PlanRevision) : Prop
  | kept (none : ∀ room ∈ plan.roomPlans, room.areaId ≠ job.areaId) (same : plan' = plan)
  | advanced (some : ∃ room ∈ plan.roomPlans, room.areaId = job.areaId)
      (fields : plan'.toPlanRevisionFields = advancedPlan job completedAt nextRevisionId plan)

/-- Either way the rooms of the area have advanced, and no other. -/
theorem PlanAdvanced.roomPlans {plan plan' : PlanRevision} {nextRevisionId : String}
    (h : PlanAdvanced job completedAt nextRevisionId plan plan') :
    plan'.roomPlans =
      plan.roomPlans.map (updateIf (·.areaId = job.areaId) (advanceRoom job completedAt)) := by
  cases h with
  | kept none same =>
    rw [same]
    exact (map_updateIf_none fun room h_room => decide_eq_false (none room h_room)).symm
  | advanced some fields =>
    rw [fields]
    rfl

/-- The end of `complete_job_and_advance_plan`, once queue and parent are settled, never
raises. -/
theorem advancePlan_isOk (D : QueueLedger) (plan : PlanRevision) (job : QueueJob)
    (completedAt : Instant) {nextRevisionId : String} (h_text : isBlank nextRevisionId = false)
    (h_fresh : nextRevisionId ≠ plan.revisionId) :
    ∃ plan', (if plan.roomPlans.any (·.areaId = job.areaId) then do
        let roomPlans ← rewriteWhere RoomPlan.postInit (·.areaId = job.areaId)
          (advanceRoom job completedAt) plan.roomPlans
        raiseIf (roomPlans ≠ plan.roomPlans ∧ nextRevisionId = plan.revisionId)
          (.valueError "next revision ID must differ when room plan changes")
        let advancedPlan ← PlanRevisionFields.construct
          ⟨nextRevisionId, max plan.createdAt completedAt, roomPlans⟩
        return ⟨D, advancedPlan⟩
      else return ⟨D, plan⟩ : Except PyError CompletionResult) = .ok ⟨D, plan'⟩ ∧
      PlanAdvanced job completedAt nextRevisionId plan plan' := by
  by_cases h_area : ∃ room ∈ plan.roomPlans, room.areaId = job.areaId
  · obtain ⟨plan', h_plan'⟩ := exists_advancedPlan plan job completedAt h_text
    refine ⟨plan', ?_, .advanced h_area (PlanRevisionFields.construct_eq_ok.mp h_plan')⟩
    rw [if_pos (by simpa using h_area)]
    -- a room that advances passes its checks, and the fresh id passes the comparison
    have h_sweep : rewriteWhere RoomPlan.postInit (fun room => decide (room.areaId = job.areaId))
        (advanceRoom job completedAt) plan.roomPlans = .ok (plan.roomPlans.map _) :=
      rewriteWhere_eq_ok.mpr ⟨rfl, fun room h_room _ =>
        RoomPlan.postInit_advanceRoom (plan.checks.1 room h_room)⟩
    rw [h_sweep, ok_bind]
    unfold raiseIf
    rw [if_neg fun h => h_fresh h.2, ok_bind]
    change (PlanRevisionFields.construct (advancedPlan job completedAt nextRevisionId plan) >>=
      _) = _
    rw [h_plan']
    rfl
  -- without a room of the area the plan is kept
  · refine ⟨plan, if_neg (by simpa using h_area), .kept (fun room h_room h => ?_) rfl⟩
    exact h_area ⟨room, h_room, h⟩

/-! ### The whole step -/

/-- What the completion of `job` leaves: the job finished, its parent closed with its last
job, and the plan advanced. -/
theorem completeJobAndAdvancePlan_isOk {plan : PlanRevision} {nextRevisionId : String}
    (hj : job ∈ L.jobs) (h_running : job.state = .running) (hp : parent ∈ L.blocks)
    (h_parent : parent.blockId = job.blockId)
    (h_state : parent.state ∈ [BlockState.committed, .running])
    (h_lane : ∀ room ∈ plan.roomPlans.head?, room.laneId = parent.laneId)
    (h_started : Before job.startedAt (some completedAt))
    (h_commit : Before parent.committedAt (some completedAt))
    (h_text : isBlank nextRevisionId = false) (h_fresh : nextRevisionId ≠ plan.revisionId) :
    ∃ result, completeJobAndAdvancePlan L plan job.jobId completedAt nextRevisionId =
        .ok result ∧
      result.ledger.jobs = L.jobs.map (updateIf (·.jobId = job.jobId) (finishedJob completedAt)) ∧
      ParentClosed parent (jobsOf result.ledger.jobs parent) L.blocks result.ledger.blocks ∧
      PlanAdvanced job completedAt nextRevisionId plan result.planRevision := by
  -- the job
  obtain ⟨C, h_C⟩ := L.exists_replaceJobState .completed completedAt (by decide) hj hp
    h_parent.symm h_state (by rw [h_running]; decide)
    ((L.jobLifecycle hj).finished_of_running h_running h_started)
  obtain ⟨-, -, -, -, -, -, -, -, -, -, -, -, h_fields⟩ := QueueLedger.replaceJobState_eq_ok.mp h_C
  have h_blocks : C.blocks = L.blocks := (congrArg LedgerFields.blocks h_fields :)
  have h_jobs : C.jobs = L.jobs.map (updateIf (·.jobId = job.jobId) (finishedJob completedAt)) :=
    congrArg LedgerFields.jobs h_fields
  -- its parent
  have h_own : finishedJob completedAt job ∈ jobsOf C.jobs parent := by
    rw [mem_jobsOf, h_jobs]
    exact ⟨List.mem_map.mpr ⟨job, hj, updateIf_pos (by simp)⟩, h_parent.symm⟩
  obtain ⟨D, h_D, h_D_jobs, h_closed⟩ :=
    closeCompletedBlock_isOk (h_blocks ▸ hp) h_state h_own rfl rfl h_commit
  rw [h_blocks, ← h_D_jobs] at h_closed
  -- the plan
  obtain ⟨plan', h_plan', h_advanced⟩ := advancePlan_isOk D plan job completedAt h_text h_fresh
  refine ⟨⟨D, plan'⟩, ?_, h_D_jobs.trans h_jobs, h_closed, h_advanced⟩
  have h_job : L.jobs.find? (fun k => decide (k.jobId = job.jobId)) = some job :=
    L.find_job.mpr ⟨hj, rfl⟩
  have h_block : L.blocks.find? (fun k => decide (k.blockId = job.blockId)) = some parent :=
    L.find_block.mpr ⟨hp, h_parent⟩
  have h_same_lane : ¬ ∃ room ∈ plan.roomPlans.head?, room.laneId ≠ parent.laneId := by
    rintro ⟨room, h_room, h_ne⟩
    exact h_ne (h_lane room h_room)
  rw [← h_plan']
  unfold completeJobAndAdvancePlan
  rw [h_job]
  change (orRaise (L.blocks.find? _) _ >>= _) = _
  rw [h_block]
  change (raiseIf _ _ >>= _) = _
  unfold raiseIf
  rw [if_neg h_same_lane, ok_bind, h_C, ok_bind, h_D, ok_bind]

/-! ### Record by record -/

/-- What a completion does to the rules of a room: the timestamps of the room of the job
advance to the later of old and new, that for mopping only if the job mopped. -/
structure RoomAdvanced (job : QueueJob) (completedAt : Instant) (room room' : RoomPlan) : Prop where
  rules : room' = { room with
    lastCompletedVacuumAt := room'.lastCompletedVacuumAt
    lastCompletedVacuumAndMopAt := room'.lastCompletedVacuumAndMopAt }
  other : room.areaId ≠ job.areaId → room' = room
  vacuumed : room.areaId = job.areaId → room'.lastCompletedVacuumAt =
    some (room.lastCompletedVacuumAt.elim completedAt (max · completedAt))
  mopped : room.areaId = job.areaId → job.mode = .vacuumAndMop →
    room'.lastCompletedVacuumAndMopAt =
      some (room.lastCompletedVacuumAndMopAt.elim completedAt (max · completedAt))
  unmopped : job.mode = .vacuum →
    room'.lastCompletedVacuumAndMopAt = room.lastCompletedVacuumAndMopAt

/-- The job is finished, its parent is closed with the last of its jobs, the room of the job
has advanced, and nothing else has changed. -/
structure JobFinished (L : QueueLedger) (plan : PlanRevision) (job : QueueJob)
    (parent : QueueBlock) (completedAt : Instant) (nextRevisionId : String)
    (result : CompletionResult) : Prop where
  jobs : result.ledger.jobs = L.jobs.map
    (updateIf (·.jobId = job.jobId) (finishedJob completedAt))
  /-- The parent completes if all its jobs are completed. -/
  completed : (∀ k ∈ jobsOf result.ledger.jobs parent, k.state = .completed) →
    ∃ latest, LatestFinish (jobsOf result.ledger.jobs parent) latest ∧
      result.ledger.blocks = L.blocks.map (updateIf (·.blockId = parent.blockId) fun b =>
        { b with state := .completed, completedAt := some latest })
  /-- It is partial if they have ended otherwise. -/
  mixed : (∀ k ∈ jobsOf result.ledger.jobs parent, k.state.terminal = true) →
    (∃ k ∈ jobsOf result.ledger.jobs parent, k.state ≠ .completed) →
    ∃ latest, LatestFinish (jobsOf result.ledger.jobs parent) latest ∧
      result.ledger.blocks = L.blocks.map (updateIf (·.blockId = parent.blockId) fun b =>
        { b with state := .partial', completedAt := some latest })
  waits : (∃ k ∈ jobsOf result.ledger.jobs parent, k.state.terminal = false) →
    result.ledger.blocks = L.blocks
  planKept : (∀ room ∈ plan.roomPlans, room.areaId ≠ job.areaId) → result.planRevision = plan
  planId : (∃ room ∈ plan.roomPlans, room.areaId = job.areaId) →
    result.planRevision.revisionId = nextRevisionId
  created : plan.createdAt ≤ result.planRevision.createdAt
  roomCount : result.planRevision.roomPlans.length = plan.roomPlans.length
  rooms : ∀ (i : ℕ) (room room' : RoomPlan), plan.roomPlans[i]? = some room →
    result.planRevision.roomPlans[i]? = some room' → RoomAdvanced job completedAt room room'

theorem latestCompletion_eq (last : Option Instant) (completedAt : Instant) :
    latestCompletion last completedAt = last.elim completedAt (max · completedAt) := by
  cases last <;> rfl

theorem roomAdvanced (job : QueueJob) (completedAt : Instant) (room : RoomPlan) :
    RoomAdvanced job completedAt room
      (updateIf (·.areaId = job.areaId) (advanceRoom job completedAt) room) := by
  by_cases h : room.areaId = job.areaId
  · rw [updateIf_pos (by simpa using h)]
    refine ⟨rfl, fun h_ne => absurd h h_ne, fun _ => ?_, fun _ h_mop => ?_, fun h_vacuum => ?_⟩
    · exact congrArg some (latestCompletion_eq ..)
    · unfold advanceRoom
      rw [if_pos h_mop]
      exact congrArg some (latestCompletion_eq ..)
    · unfold advanceRoom
      rw [if_neg (by rw [h_vacuum]; decide)]
  · rw [updateIf_neg (by simpa using h)]
    exact ⟨rfl, fun _ => rfl, fun h_eq => absurd h_eq h, fun h_eq => absurd h_eq h, fun _ => rfl⟩

/-- **Completing a job is one atomic step of queue and plan.** -/
theorem complete_job_atomically (L : QueueLedger) (plan : PlanRevision) (job : QueueJob)
    (parent : QueueBlock) (completedAt : Instant) (nextRevisionId : String)
    (hj : job ∈ L.jobs) (h_running : job.state = .running) (hp : parent ∈ L.blocks)
    (h_parent : parent.blockId = job.blockId)
    (h_state : parent.state ∈ [BlockState.committed, .running])
    (h_lane : ∀ room ∈ plan.roomPlans.head?, room.laneId = parent.laneId)
    (h_started : ∀ t ∈ job.startedAt, t ≤ completedAt)
    (h_commit : ∀ t ∈ parent.committedAt, t ≤ completedAt)
    (h_text : isBlank nextRevisionId = false) (h_fresh : nextRevisionId ≠ plan.revisionId) :
    ∃ result, completeJobAndAdvancePlan L plan job.jobId completedAt nextRevisionId =
        .ok result ∧
      JobFinished L plan job parent completedAt nextRevisionId result := by
  have h_before : ∀ {t : Option Instant}, (∀ x ∈ t, x ≤ completedAt) →
      Before t (some completedAt) := by
    intro t h x hx y hy
    obtain rfl := Option.some.inj hy
    exact h x hx
  -- totality and the shape of the result come together; the rest reads the result
  obtain ⟨result, h_result, h_jobs, h_closed, h_plan⟩ := completeJobAndAdvancePlan_isOk hj
    h_running hp h_parent h_state h_lane (h_before h_started) (h_before h_commit) h_text h_fresh
  refine ⟨result, h_result, ?_⟩
  refine
    { jobs := h_jobs, completed := fun h_all => ?_, mixed := fun h_ended h_other => ?_,
      waits := h_closed.of_open, planKept := fun h_none => ?_, planId := fun h_some => ?_,
      created := ?_, roomCount := ?_, rooms := fun i room room' h_i h_i' => ?_ }
  · -- all siblings completed: the block is completed with them
    obtain ⟨latest, h_latest, h_blocks⟩ :=
      h_closed.of_ended fun k hk => by rw [h_all k hk]; rfl
    refine ⟨latest, h_latest, ?_⟩
    rw [h_blocks]
    unfold closedBlock
    rw [closedState_completed h_all]
  · -- a sibling failed or was cancelled: the block closes as partial
    obtain ⟨latest, h_latest, h_blocks⟩ := h_closed.of_ended h_ended
    refine ⟨latest, h_latest, ?_⟩
    rw [h_blocks]
    unfold closedBlock
    rw [closedState_mixed h_other]
  · -- no room stands for the area: the plan is the one it was
    cases h_plan with
    | kept none same => exact same
    | advanced some fields =>
      obtain ⟨room, h_room, h_area⟩ := some
      exact absurd h_area (h_none room h_room)
  · cases h_plan with
    | kept none same =>
      obtain ⟨room, h_room, h_area⟩ := h_some
      exact absurd h_area (none room h_room)
    | advanced some fields =>
      rw [fields]
      rfl
  · -- a room stands for it: the plan is the next revision
    cases h_plan with
    | kept none same => rw [same]
    | advanced some fields =>
      rw [fields]
      exact le_max_left _ _
  · rw [h_plan.roomPlans]
    exact List.length_map _
  · rw [h_plan.roomPlans, List.getElem?_map, h_i] at h_i'
    obtain rfl := Option.some.inj h_i'
    exact roomAdvanced job completedAt room

/-- The kitchen's job while the vacuum runs it. -/
def kitchenJob : QueueJob :=
  { sealedJob "block" 0 "job" 0 ⟨"kitchen", "Kitchen", .null, .vacuum, 0, 0⟩ with
    state := .running, attempt := 1, sentAt := some 1, startedAt := some 3 }

/-- Its block, which the planner has not seen running yet. -/
def kitchenBlock : QueueBlock :=
  { sealedBlock kitchenSnapshot "robot" "key" 0 kitchenIds .nativeBatch .plannerAtomic with
    state := .committed, committedAt := some 2 }

def runningKitchen : QueueLedger where
  schemaVersion := 1
  revision := 4
  blocks := [kitchenBlock]
  jobs := [kitchenJob]
  activeBlockId := none
  lastReconciledAt := none
  checked := by decide

theorem complete_job_atomically_kitchen :
    ∃ result, completeJobAndAdvancePlan runningKitchen kitchenPlan kitchenJob.jobId 9 "next" =
        .ok result ∧
      JobFinished runningKitchen kitchenPlan kitchenJob kitchenBlock 9 "next" result :=
  complete_job_atomically runningKitchen kitchenPlan kitchenJob kitchenBlock 9 "next"
    (by decide) rfl (by decide) rfl (by decide) (by decide) (by decide) (by decide) (by decide)
    (by decide)

end VacuumPlanner
