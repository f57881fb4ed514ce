import VacuumPlanner.ObserverSpecs
import VacuumPlanner.Actions

/-!
# What the actions and the commands of a dispatch do

The specifications of `Actions`, in the form of those of `Domain.QueueSpecs`. The actions
on the plan leave the ledger alone and keep what a room knows about its past
(`reviseRoom_ok`); the others leave the plan alone and rewrite the ledger.
-/

namespace VacuumPlanner

open Framework

variable {s s' : PlannerState}

/-! ### Actions on the plan -/

/-- An action on the plan rewrites the rules of one room. -/
theorem reviseRoom_ok {areaId revisionId : String} {createdAt : Instant}
    {change : RoomPlan → RoomPlan} (h : reviseRoom s areaId revisionId createdAt change = .ok s') :
    s'.ledger = s.ledger ∧ s'.planRevision.roomPlans =
      s.planRevision.roomPlans.map (updateIf (·.areaId = areaId) change) := by
  unfold reviseRoom at h
  simp only [bind_eq_ok, rewriteWhere_eq_ok, PlanRevisionFields.construct_eq_ok,
    PlannerState.construct_eq_ok] at h
  obtain ⟨-, ⟨rfl, -⟩, revision, h_revision, rfl, h_ledger⟩ := h
  exact ⟨h_ledger, by rw [h_revision]⟩

/-- What a room knows about its past. -/
structure SameCompletions (room room' : RoomPlan) : Prop where
  areaId : room'.areaId = room.areaId
  vacuum : room'.lastCompletedVacuumAt = room.lastCompletedVacuumAt
  mop : room'.lastCompletedVacuumAndMopAt = room.lastCompletedVacuumAndMopAt

/-- A command on the plan: the ledger is untouched, and every room keeps its past. -/
structure PlanRevised (s s' : PlannerState) : Prop where
  ledger : s'.ledger = s.ledger
  count : s'.planRevision.roomPlans.length = s.planRevision.roomPlans.length
  rooms : Extends SameCompletions s.planRevision.roomPlans s'.planRevision.roomPlans

theorem PlanRevised.of_reviseRoom {areaId revisionId : String} {createdAt : Instant}
    {change : RoomPlan → RoomPlan} (h_change : ∀ room, SameCompletions room (change room))
    (h : reviseRoom s areaId revisionId createdAt change = .ok s') : PlanRevised s s' := by
  obtain ⟨h_ledger, h_rooms⟩ := reviseRoom_ok h
  refine ⟨h_ledger, by rw [h_rooms, List.length_map], ?_⟩
  rw [h_rooms]
  refine Extends.map fun room _ => ?_
  unfold updateIf
  split
  · exact h_change room
  · exact ⟨rfl, rfl, rfl⟩

/-! The three actions on an area revise its room, past their own checks. -/

theorem postponeArea_revises {areaId revisionId : String} {now : Instant} {days : ℤ}
    (h : postponeArea s areaId now days revisionId = .ok s') :
    reviseRoom s areaId revisionId now (fun plan =>
      { plan with skipUntil := some (now + days * microsecondsPerDay) }) = .ok s' := by
  unfold postponeArea at h
  obtain ⟨-, h⟩ := seq_eq_ok.mp h
  exact (seq_eq_ok.mp h).2

theorem skipAreaToday_revises {zoneInfo : String → Option (Instant → Instant)}
    {areaId timeZone revisionId : String} {now : Instant}
    (h : skipAreaToday zoneInfo s areaId now timeZone revisionId = .ok s') :
    ∃ nextMidnight, zoneInfo timeZone = some nextMidnight ∧
      reviseRoom s areaId revisionId now (fun plan =>
        { plan with skipUntil := some (nextMidnight now) }) = .ok s' := by
  unfold skipAreaToday at h
  obtain ⟨nextMidnight, h_zone, h⟩ := bind_eq_ok.mp h
  exact ⟨nextMidnight, orRaise_eq_ok.mp h_zone, (seq_eq_ok.mp h).2⟩

/-- Before an action stamps a revision, it has checked what it is asked for. -/
theorem postponeArea_admitted {areaId revisionId : String} {now : Instant} {days : ℤ}
    (h : postponeArea s areaId now days revisionId = .ok s') :
    0 < days ∧ areaId ∈ s.planRevision.roomPlans.map (·.areaId) := by
  unfold postponeArea at h
  obtain ⟨h_days, h⟩ := seq_eq_ok.mp h
  obtain ⟨h_area, -⟩ := seq_eq_ok.mp h
  exact ⟨not_le.mp (raiseIf_eq_ok.mp h_days), not_not.mp (raiseIf_eq_ok.mp h_area)⟩

theorem skipAreaToday_admitted {zoneInfo : String → Option (Instant → Instant)}
    {areaId timeZone revisionId : String} {now : Instant}
    (h : skipAreaToday zoneInfo s areaId now timeZone revisionId = .ok s') :
    zoneInfo timeZone ≠ none ∧ areaId ∈ s.planRevision.roomPlans.map (·.areaId) := by
  unfold skipAreaToday at h
  obtain ⟨nextMidnight, h_zone, h⟩ := bind_eq_ok.mp h
  obtain ⟨h_area, -⟩ := seq_eq_ok.mp h
  rw [orRaise_eq_ok.mp h_zone]
  exact ⟨Option.some_ne_none _, not_not.mp (raiseIf_eq_ok.mp h_area)⟩

/-- A number entity leaves the state alone when the room has the value already. -/
theorem setNativeValue_revises {number : RoomNumber} {areaId revisionId : String}
    {value : PyFloat} {now : Instant}
    (h : setNativeValue number areaId value now revisionId s = .ok s') :
    s' = s ∨ ∃ n, reviseRoom s areaId revisionId (max now (s.planRevision.createdAt + 1))
      (number.replaceRoomValue n) = .ok s' := by
  unfold setNativeValue at h
  obtain ⟨n, -, h⟩ := bind_eq_ok.mp h
  obtain ⟨-, h⟩ := seq_eq_ok.mp h
  dsimp only at h
  split at h
  · exact Or.inl (pure_eq_ok.mp h).symm
  · exact Or.inr ⟨n, h⟩

theorem postponeArea_ok {areaId revisionId : String} {now : Instant} {days : ℤ}
    (h : postponeArea s areaId now days revisionId = .ok s') : PlanRevised s s' := by
  refine .of_reviseRoom (fun _ => ?_) (postponeArea_revises h)
  exact ⟨rfl, rfl, rfl⟩

theorem skipAreaToday_ok {zoneInfo : String → Option (Instant → Instant)}
    {areaId timeZone revisionId : String} {now : Instant}
    (h : skipAreaToday zoneInfo s areaId now timeZone revisionId = .ok s') :
    PlanRevised s s' := by
  obtain ⟨nextMidnight, -, h⟩ := skipAreaToday_revises h
  refine .of_reviseRoom (fun _ => ?_) h
  exact ⟨rfl, rfl, rfl⟩

theorem setNativeValue_ok {number : RoomNumber} {areaId revisionId : String} {value : PyFloat}
    {now : Instant} (h : setNativeValue number areaId value now revisionId s = .ok s') :
    PlanRevised s s' := by
  rcases setNativeValue_revises h with rfl | ⟨n, h⟩
  · exact ⟨rfl, rfl, Extends.refl fun _ _ => ⟨rfl, rfl, rfl⟩⟩
  · refine .of_reviseRoom (fun room => ?_) h
    cases number <;> exact ⟨rfl, rfl, rfl⟩

/-! ### Starting -/

/-- **How `start_next` ends** when it does not raise: a sealed block the runtime cannot dispatch
is cancelled, one it can is handed back, and otherwise the first due job goes to the service.
The state is written only when the service has made another ledger. -/
inductive StartsNext (call : StartNextCall) (s : PlannerState) :
    PlannerState → SealOutcome → Prop
  | cancelled {blockId : String} {s' : PlannerState}
      (h_cancel : cancelPendingBlock s blockId call.evaluatedAt = .ok s') :
    StartsNext call s s' .dryRunBlockCancelled
  | existing {block : QueueBlock} (hb : block ∈ s.ledger.blocks) :
    StartsNext call s s
      (.result ⟨.existing, s.ledger, some block, jobsForBlock s.ledger block⟩)
  | found {snapshot first : PlanSnapshot} {key : String} {result : StartResult}
      (h_plan : call.evaluatePlan s = .ok snapshot) (h_first : first.jobs = snapshot.jobs.take 1)
      (h_start : startDueBlock s.ledger first first.laneId key call.evaluatedAt call.idFactory
        (if call.dryRun then .plannerSequential else .nativeBatch) .plannerAtomic false none =
          .ok result)
      (h_same : result.ledger = s.ledger) : StartsNext call s s (.result result)
  | started {snapshot first : PlanSnapshot} {key : String} {result : StartResult}
      {s' : PlannerState} (h_plan : call.evaluatePlan s = .ok snapshot)
      (h_first : first.jobs = snapshot.jobs.take 1)
      (h_start : startDueBlock s.ledger first first.laneId key call.evaluatedAt call.idFactory
        (if call.dryRun then .plannerSequential else .nativeBatch) .plannerAtomic false none =
          .ok result)
      (h_changed : result.ledger ≠ s.ledger)
      (h_made : PlannerState.construct s.planRevision result.ledger = .ok s') :
    StartsNext call s s' (.result result)

theorem startNextCommand_ok {call : StartNextCall} {outcome : SealOutcome}
    (h : startNextCommand call s = .ok (s', outcome)) : StartsNext call s s' outcome := by
  unfold startNextCommand at h
  obtain ⟨-, h⟩ := seq_eq_ok.mp h
  dsimp only at h
  split at h
  · -- a dry run ends the open block, an open block is found, else one job is started
    obtain ⟨t, h_cancel, h⟩ := bind_eq_ok.mp h
    cases pure_eq_ok.mp h
    exact .cancelled h_cancel
  · next h_found =>
    cases pure_eq_ok.mp h
    exact .existing (List.mem_of_find?_eq_some h_found)
  -- the plan is cut to its first job before the block is started
  · obtain ⟨snapshot, h_plan, h⟩ := bind_eq_ok.mp h
    obtain ⟨first, h_first, h⟩ := bind_eq_ok.mp h
    have h_jobs : first.jobs = snapshot.jobs.take 1 := by
      rw [PlanSnapshotFields.construct_eq_ok.mp h_first]
    obtain ⟨result, h_start, h⟩ := bind_eq_ok.mp h
    split at h
    · next h_same =>
      cases pure_eq_ok.mp h
      exact .found h_plan h_jobs h_start h_same
    · next h_changed =>
      obtain ⟨t, h_made, h⟩ := bind_eq_ok.mp h
      cases pure_eq_ok.mp h
      exact .started h_plan h_jobs h_start h_changed h_made

/-! ### Cancelling -/

/-- **`cancel_pending_block`** cancels a sealed block whose jobs are all pending. -/
theorem cancelPendingBlock_ok {blockId : String} {cancelledAt : Instant}
    (h : cancelPendingBlock s blockId cancelledAt = .ok s') :
    ∃ b ∈ s.ledger.blocks, b.blockId = blockId ∧ b.state = .sealed ∧
      s'.planRevision = s.planRevision ∧
      s'.ledger.blocks = s.ledger.blocks.map (updateIf (·.blockId = blockId)
        (QueueLedger.changedBlock .cancelled cancelledAt none)) ∧
      s'.ledger.jobs = s.ledger.jobs.map (updateIf (·.blockId = blockId)
        (QueueLedger.changedJob .cancelled cancelledAt none none none)) ∧
      Rewrites (JobMoved (movesTo .cancelled)) s.ledger s'.ledger := by
  unfold cancelPendingBlock at h
  simp only [bind_eq_ok, orRaise_eq_ok, raiseIf_eq_ok, QueueLedger.find_block, exists_unit,
    not_not, PlannerState.construct_eq_ok] at h
  obtain ⟨b, ⟨hb, rfl⟩, h_sealed, -, L₁, h_move, L₂, h_block, h_plan, rfl⟩ := h
  -- the jobs are moved one by one, and then the block
  obtain ⟨h_blocks₁, h_jobs₁, -, -⟩ := moveJobs_ok h_move
  obtain ⟨-, -, -, -, -, -, -, -, h_L₂⟩ := QueueLedger.replaceBlockState_eq_ok.mp h_block
  refine ⟨b, hb, rfl, h_sealed, h_plan, ?_, ?_, ?_⟩
  · rw [← h_blocks₁]
    exact congrArg LedgerFields.blocks h_L₂
  · rw [← map_movedJob_filter, ← h_jobs₁]
    exact (congrArg LedgerFields.jobs h_L₂ :)
  · exact (moveJobs_rewrites (by decide) h_move).trans
      (QueueLedger.replaceBlockState_rewrites h_block)
      (JobMoved.comp (QueueLedger.movesTo_oneLayer .cancelled))

/-! ### The commands of a dispatch -/

/-- **The claim** leaves a block that is not sealed alone, and otherwise begins its native
batch commit. -/
theorem nativeDispatchClaim_ok {blockId : String} {now : Instant} {claimed : Bool}
    (h : nativeDispatchClaim blockId now s = .ok (s', claimed)) :
    ∃ b ∈ s.ledger.blocks, b.blockId = blockId ∧
      ((b.state ≠ .sealed ∧ s' = s ∧ claimed = false) ∨
        (b.state = .sealed ∧ s'.planRevision = s.planRevision ∧ claimed = true ∧
          beginNativeBatchCommit s.ledger blockId now = .ok s'.ledger)) := by
  unfold nativeDispatchClaim at h
  simp only [bind_eq_ok, orRaise_eq_ok, QueueLedger.find_block] at h
  obtain ⟨b, ⟨hb, rfl⟩, h⟩ := h
  refine ⟨b, hb, rfl, ?_⟩
  split at h
  · next h_state =>
    obtain ⟨rfl, rfl⟩ := Prod.mk.inj (pure_eq_ok.mp h)
    exact Or.inl ⟨h_state, rfl, rfl⟩
  · next h_state =>
    simp only [bind_eq_ok, PlannerState.construct_eq_ok] at h
    obtain ⟨L', h_L', t, ⟨h_plan, rfl⟩, h⟩ := h
    obtain ⟨rfl, rfl⟩ := Prod.mk.inj (pure_eq_ok.mp h)
    exact Or.inr ⟨not_not.mp h_state, h_plan, rfl, h_L'⟩

/-- **The acceptance** leaves a block an observation has settled alone, and otherwise
commits it and accepts the given jobs. -/
theorem recordDispatchAcceptance_ok {blockId : String} {jobs : List QueueJob}
    {acceptedAt : Instant} (h : recordDispatchAcceptance s blockId jobs acceptedAt = .ok s') :
    ∃ b ∈ s.ledger.blocks, b.blockId = blockId ∧
      ((b.state ∈ settledByObservation ∧ s' = s) ∨
        (b.state = .committing ∧ s'.planRevision = s.planRevision ∧
          s'.ledger.blocks = s.ledger.blocks.map (updateIf (·.blockId = blockId)
            (QueueLedger.changedBlock .committed acceptedAt none)) ∧
          s'.ledger.jobs = s.ledger.jobs.map (movedJob .accepted acceptedAt jobs) ∧
          Rewrites (JobMoved (movesTo .accepted)) s.ledger s'.ledger)) := by
  unfold recordDispatchAcceptance at h
  simp only [bind_eq_ok, orRaise_eq_ok, QueueLedger.find_block] at h
  obtain ⟨b, ⟨hb, rfl⟩, h⟩ := h
  refine ⟨b, hb, rfl, ?_⟩
  -- an observation may have settled the block in the meantime
  split at h
  · next h_state => exact Or.inl ⟨h_state, (pure_eq_ok.mp h).symm⟩
  · simp only [bind_eq_ok, PlannerState.construct_eq_ok] at h
    obtain ⟨L₁, h_block, L₂, h_move, h_plan, rfl⟩ := h
    obtain ⟨h_blocks, h_jobs, -, -⟩ := moveJobs_ok h_move
    obtain ⟨-, b', hb', h_id, h_transition, -, -, -, h_L₁⟩ :=
      QueueLedger.replaceBlockState_eq_ok.mp h_block
    obtain rfl : b' = b := QueueLedger.block_eq hb' hb h_id
    refine Or.inr ⟨?_, h_plan, ?_, ?_, ?_⟩
    · -- only a committing block may become committed
      revert h_transition
      cases b'.state <;> decide
    · rw [h_blocks]
      exact congrArg LedgerFields.blocks h_L₁
    · rw [h_jobs, (congrArg LedgerFields.jobs h_L₁ : L₁.jobs = _)]
    · exact (QueueLedger.replaceBlockState_rewrites h_block).trans
        (moveJobs_rewrites (by decide) h_move)
        (JobMoved.comp (QueueLedger.movesTo_oneLayer .accepted))

/-- Moving the jobs a block was sealed with moves the jobs that name the block. -/
theorem map_movedJob_block {L : QueueLedger} {b : QueueBlock} {jobs : List QueueJob}
    {newState : JobState} {changedAt : Instant} (hb : b ∈ L.blocks)
    (h_ids : jobs.map (·.jobId) = b.jobIds) :
    L.jobs.map (movedJob newState changedAt jobs) = L.jobs.map (updateIf (·.blockId = b.blockId)
      (QueueLedger.changedJob newState changedAt none none none)) := by
  refine map_updateIf_congr fun j hj => ?_
  rw [h_ids, Bool.eq_iff_iff, decide_eq_true_iff, decide_eq_true_iff]
  exact QueueLedger.mem_jobIds hb hj

/-- **The quarantine of a dispatch** leaves a block an observation has settled alone. -/
theorem recordUncertain_ok {blockId : String} {reconciledAt : Instant}
    (h : recordUncertain s blockId reconciledAt = .ok s') :
    ∃ b ∈ s.ledger.blocks, b.blockId = blockId ∧
      ((b.state ∈ settledByObservation ∧ s' = s) ∨
        (s'.planRevision = s.planRevision ∧
          quarantineBlockDispatch s.ledger blockId reconciledAt = .ok s'.ledger)) := by
  unfold recordUncertain at h
  simp only [bind_eq_ok, orRaise_eq_ok, QueueLedger.find_block] at h
  obtain ⟨b, ⟨hb, rfl⟩, h⟩ := h
  refine ⟨b, hb, rfl, ?_⟩
  split at h
  · next h_state => exact Or.inl ⟨h_state, (pure_eq_ok.mp h).symm⟩
  · simp only [bind_eq_ok, PlannerState.construct_eq_ok] at h
    obtain ⟨L', h_L', h_plan, rfl⟩ := h
    exact Or.inr ⟨h_plan, h_L'⟩

theorem resolveUncertainRun_ok {jobId : String} {resolution : UncertainResolution}
    {now : Instant} (h : resolveUncertainRun s jobId resolution now = .ok s') :
    s'.planRevision = s.planRevision ∧
      resolveUncertainJob s.ledger jobId resolution now = .ok s'.ledger := by
  obtain ⟨L', h_L', h⟩ := bind_eq_ok.mp h
  obtain ⟨h_plan, rfl⟩ := PlannerState.construct_eq_ok.mp h
  exact ⟨h_plan, h_L'⟩

end VacuumPlanner
