import VacuumPlanner.Admission
import VacuumPlanner.History

/-!
# When a block can be cancelled

`cancel_pending_block` moves the jobs of a sealed block one by one to `CANCELLED` and the block
after them. Each transition builds a whole ledger, which checks itself, so the command passes
through as many ledgers as the block has jobs. None of them stands in its way: a sealed block
agrees with jobs that are pending or cancelled, whichever they are, and the other blocks and
jobs are as they were. What decides is known before the first transition (`Cancellable`), up to
the chronology of the jobs (`cancelPendingBlock_isOk`).

A cancelled block is terminal, so nothing changes it afterwards, and its jobs go on without a
trace of a dispatch (`QueueLedger.job_of_terminal`).
-/

namespace VacuumPlanner

open Framework

variable {L L' : QueueLedger} {s s' : PlannerState} {b : QueueBlock} {j : QueueJob}
  {blockId : String} {cancelledAt : Instant}

/-! ### One transition -/

/-- The `replace` a cancellation performs on a job. -/
def cancelledJob (cancelledAt : Instant) (j : QueueJob) : QueueJob :=
  { j with
    state := .cancelled, finishedAt := some cancelledAt, errorCode := none, errorDetail := none }

/-- A pending job may be cancelled from its planning on. -/
theorem JobLifecycle.cancelled_iff (h : JobLifecycle j) (h_j : j.state = .pending) :
    JobLifecycle (cancelledJob cancelledAt j) ↔ j.plannedAt ≤ cancelledAt := by
  obtain ⟨h_attempt, -, h_sent, h_started, -⟩ := h.pending h_j
  constructor
  · intro h'
    obtain ⟨-, -, h_planned, -⟩ := chronological_four.mp h'.chronological
    exact before_some.mp h_planned
  · intro h_planned
    refine ⟨h.attempt, nofun, nofun, fun _ h_dispatched => ?_, nofun, nofun, nofun,
      chronological_four.mpr ?_⟩
    · -- it was never dispatched
      have h_zero : 0 < j.attempt := h_dispatched
      rw [h_attempt] at h_zero
      exact absurd h_zero (lt_irrefl 0)
    · change Before _ j.sentAt ∧ Before _ j.startedAt ∧ _ ∧ Before j.sentAt j.startedAt ∧
        Before j.sentAt _ ∧ Before j.startedAt _
      rw [h_sent, h_started]
      exact ⟨before_none _, before_none _, before_some.mpr h_planned, before_none _, nofun, nofun⟩

/-- A sealed block agrees with jobs that are not with the vacuum. -/
theorem BlockAgrees.of_sealed {children : List QueueJob} (h : b.state = .sealed)
    (h_idle : ∀ j ∈ children, j.state ∉ activeStates) : BlockAgrees b children := by
  have h_states : incompatibleStates b = activeStates :=
    incompatibleStates_of_early (by rw [h]; decide)
  refine ⟨fun j hj => by rw [h_states]; exact h_idle j hj, ?_, ?_⟩
  · unfold validateTerminalBlockResult
    rw [h]
    simp [raiseIf]
  · intro h_terminal
    rw [h] at h_terminal
    exact absurd h_terminal (by decide)

/-- A cancelled block agrees with jobs that have ended. -/
theorem BlockAgrees.of_cancelled {children : List QueueJob} (h : b.state = .cancelled)
    (h_ended : ∀ j ∈ children, j.state.terminal = true) : BlockAgrees b children := by
  have h_none : incompatibleStates b = [] := incompatibleStates_of_late (by rw [h]; decide)
  refine ⟨fun j _ => by rw [h_none]; exact List.not_mem_nil, ?_, fun _ => h_ended⟩
  unfold validateTerminalBlockResult
  rw [h]
  simp [raiseIf]

/-- A pending job of a sealed block is cancelled, whatever its siblings are. -/
theorem cancelJob_isOk (cancelledAt : Instant) (hb : b ∈ L.blocks) (h_b : b.state = .sealed)
    (hj : j ∈ L.jobs) (h_parent : j.blockId = b.blockId) (h_j : j.state = .pending) :
    (∃ L', L.replaceJobState j.jobId .cancelled cancelledAt false none none none = .ok L') ↔
      j.plannedAt ≤ cancelledAt := by
  rw [← (L.jobLifecycle hj).cancelled_iff h_j]
  constructor
  · rintro ⟨L', h⟩
    obtain ⟨j', hj', h_id, -, -, -, -, -, -, -, -, h_check, -⟩ :=
      QueueLedger.replaceJobState_eq_ok.mp h
    -- the command checks the lifecycle of the job it has changed
    obtain rfl := eq_of_key L.valid.jobIds hj' hj h_id
    exact (QueueJob.postInit_eq_ok.mp h_check).2
  · intro h_lifecycle
    refine L.exists_jobTransition .cancelled cancelledAt (by decide) hj hb h_parent
      (by rw [h_b]; rfl) (by rw [h_b]; decide) (by rw [h_j]; decide)
      (fun _ => by rw [h_j]; decide) h_lifecycle (BlockAgrees.of_sealed h_b ?_)
    -- no sibling is with the vacuum before the transition, so none is after it
    rw [List.forall_mem_map]
    intro k hk
    unfold updateIf
    split
    · show JobState.cancelled ∉ activeStates
      decide
    · obtain ⟨hk, h_k⟩ := mem_jobsOf.mp hk
      rw [← incompatibleStates_of_early (by rw [h_b]; decide)]
      exact L.compatible hb hk h_k

/-- **The loop** over the pending jobs of a sealed block. -/
theorem cancelJobs_isOk (cancelledAt : Instant) (hb : b ∈ L.blocks) (h_b : b.state = .sealed)
    (h_pending : ∀ j ∈ jobsOf L.jobs b, j.state = .pending) :
    (∃ L', moveJobs .cancelled cancelledAt L (jobsOf L.jobs b) = .ok L') ↔
      ∀ j ∈ L.jobs, j.blockId = b.blockId → j.plannedAt ≤ cancelledAt := by
  have h_nodup : ((jobsOf L.jobs b).map (·.jobId)).Nodup :=
    L.valid.jobIds.sublist (List.filter_sublist.map _)
  have h_own : ∀ job ∈ jobsOf L.jobs b, ∃ j ∈ L.jobs, j.jobId = job.jobId ∧
      j.blockId = b.blockId ∧ j.state = .pending := by
    intro j hj
    obtain ⟨h_mem, h_parent⟩ := mem_jobsOf.mp hj
    exact ⟨j, h_mem, rfl, h_parent, h_pending j hj⟩
  -- the jobs of the block are pending until their turn comes
  have h_loop := moveJobs_isOk_of (Q := fun j => j.plannedAt ≤ cancelledAt)
    (fun L j hb hj h_parent h_j => cancelJob_isOk cancelledAt hb h_b hj h_parent h_j) hb h_nodup
    h_own
  rw [h_loop]
  refine forall₂_congr fun j hj => imp_congr_left ?_
  rw [List.mem_map]
  constructor
  · rintro ⟨k, hk, h_id⟩
    obtain ⟨h_mem, h_parent⟩ := mem_jobsOf.mp hk
    rw [← eq_of_key L.valid.jobIds h_mem hj h_id]
    exact h_parent
  · exact fun h_parent => ⟨j, mem_jobsOf.mpr ⟨hj, h_parent⟩, rfl⟩

/-- The loop leaves no job of the block open. -/
theorem ended_of_cancelJobs (h : moveJobs .cancelled cancelledAt L (jobsOf L.jobs b) = .ok L') :
    ∀ j ∈ jobsOf L'.jobs b, j.state.terminal = true := by
  obtain ⟨-, h_jobs, -, -⟩ := moveJobs_ok h
  have h_moved : L'.jobs = L.jobs.map (updateIf (·.blockId = b.blockId)
      (cancelledJob cancelledAt)) := h_jobs.trans map_movedJob_filter
  have h_kept : ∀ k, (cancelledJob cancelledAt k).identity = k.identity := fun _ => rfl
  rw [h_moved, jobsOf_map (QueueJob.identity_updateIf h_kept), List.forall_mem_map]
  intro k hk
  rw [updateIf_pos (by simpa using (mem_jobsOf.mp hk).2)]
  rfl

/-- A sealed block whose jobs have ended is cancelled. -/
theorem cancelBlock_isOk (cancelledAt : Instant) (hb : b ∈ L.blocks) (h_b : b.state = .sealed)
    (h_ended : ∀ j ∈ jobsOf L.jobs b, j.state.terminal = true) :
    ∃ L', L.replaceBlockState b.blockId .cancelled cancelledAt none = .ok L' := by
  have h_lifecycle := L.blockLifecycle hb
  refine L.exists_replaceBlockState .cancelled cancelledAt hb (by rw [h_b]; decide) ?_
    (BlockAgrees.of_cancelled (QueueLedger.changedBlock_state ..) h_ended)
  exact ⟨h_lifecycle.chronological, fun _ => h_lifecycle.isSealed (by rw [h_b]; decide), nofun,
    nofun⟩

/-! ### The command -/

/-- The block is sealed, it has a job, and none of its jobs has been dispatched. -/
def Cancellable (L : QueueLedger) (blockId : String) : Prop :=
  ∃ b ∈ L.blocks, b.blockId = blockId ∧ b.state = .sealed ∧ jobsOf L.jobs b ≠ [] ∧
    ∀ j ∈ jobsOf L.jobs b, j.state = .pending

instance (L : QueueLedger) (blockId : String) : Decidable (Cancellable L blockId) :=
  inferInstanceAs (Decidable (∃ b ∈ L.blocks, _))

/-- The exception of a refused cancellation. -/
def cancelError (L : QueueLedger) (blockId : String) : PyError :=
  if blockId ∈ L.blocks.map (·.blockId) then cancelRefused else .keyError blockId

/-- A block that cannot be cancelled is refused before the first transition. -/
theorem cancelPendingBlock_refused (cancelledAt : Instant)
    (h : ¬ Cancellable s.ledger blockId) :
    cancelPendingBlock s blockId cancelledAt = .error (cancelError s.ledger blockId) := by
  unfold cancelPendingBlock cancelError
  by_cases h_known : blockId ∈ s.ledger.blocks.map (·.blockId)
  · -- a known block, which is not sealed, or has no job, or one that is not pending
    obtain ⟨b, hb, rfl⟩ := List.mem_map.mp h_known
    have h_find : s.ledger.blocks.find? (fun c => decide (c.blockId = b.blockId)) = some b :=
      s.ledger.find_block.mpr ⟨hb, rfl⟩
    have h_scan : s.ledger.jobs.filter (fun j => decide (j.blockId = b.blockId)) =
        jobsOf s.ledger.jobs b := rfl
    rw [if_pos h_known, h_find, h_scan]
    dsimp only [orRaise]
    rw [ok_bind]
    by_cases h_b : b.state = .sealed
    · have h_jobs : jobsOf s.ledger.jobs b = [] ∨
          ∃ j ∈ jobsOf s.ledger.jobs b, j.state ≠ .pending := by
        by_contra h_none
        push Not at h_none
        exact h ⟨b, hb, rfl, h_b, h_none⟩
      unfold raiseIf
      rw [if_neg (not_not.mpr h_b), ok_bind, if_pos h_jobs]
      rfl
    · unfold raiseIf
      rw [if_pos h_b]
      rfl
  -- and an unknown one is not found
  · have h_find : s.ledger.blocks.find? (fun c => decide (c.blockId = blockId)) = none := by
      rw [List.find?_eq_none]
      intro c hc h_c
      exact h_known (List.mem_map.mpr ⟨c, hc, of_decide_eq_true h_c⟩)
    rw [if_neg h_known, h_find]
    rfl

/-- **Cancelling** goes through exactly for a block that can be cancelled, from the planning of
its jobs on. -/
theorem cancelPendingBlock_isOk (s : PlannerState) (blockId : String) (cancelledAt : Instant) :
    (∃ s', cancelPendingBlock s blockId cancelledAt = .ok s') ↔
      Cancellable s.ledger blockId ∧
        ∀ j ∈ s.ledger.jobs, j.blockId = blockId → j.plannedAt ≤ cancelledAt := by
  by_cases h_cancel : Cancellable s.ledger blockId
  · rw [and_iff_right h_cancel]
    obtain ⟨b, hb, rfl, h_b, h_some, h_pending⟩ := h_cancel
    -- for a block that can be cancelled, cancelling its jobs is the one part that can fail
    rw [← cancelJobs_isOk cancelledAt hb h_b h_pending]
    constructor
    · rintro ⟨s', h⟩
      unfold cancelPendingBlock at h
      simp only [bind_eq_ok, orRaise_eq_ok, QueueLedger.find_block, raiseIf_eq_ok,
        exists_unit] at h
      obtain ⟨-, -, -, -, L₁, h_move, -⟩ := h
      exact ⟨L₁, h_move⟩
    · rintro ⟨L₁, h_move⟩
      obtain ⟨h_blocks, -, -, -⟩ := moveJobs_ok h_move
      -- with all its jobs cancelled, the block and the state go through
      have h_ended := ended_of_cancelJobs h_move
      have hb₁ : b ∈ L₁.blocks := h_blocks ▸ hb
      obtain ⟨L₂, h_L₂⟩ := cancelBlock_isOk cancelledAt hb₁ h_b h_ended
      obtain ⟨-, -, -, -, -, -, -, -, h_fields⟩ := QueueLedger.replaceBlockState_eq_ok.mp h_L₂
      have h_blocks₂ : L₂.blocks = s.ledger.blocks.map (updateIf (·.blockId = b.blockId)
          (QueueLedger.changedBlock .cancelled cancelledAt none)) := by
        rw [← h_blocks]
        exact congrArg LedgerFields.blocks h_fields
      obtain ⟨s', h_s'⟩ := PlannerState.exists_construct h_blocks₂
        (QueueBlock.identity_updateIf (QueueLedger.changedBlock_identity .cancelled cancelledAt none))
      refine ⟨s', ?_⟩
      unfold cancelPendingBlock
      simp only [bind_eq_ok, orRaise_eq_ok, QueueLedger.find_block, raiseIf_eq_ok, exists_unit]
      refine ⟨b, ⟨hb, rfl⟩, not_not.mpr h_b, ?_, L₁, h_move, L₂, h_L₂, h_s'⟩
      rintro (h_none | ⟨j, hj, h_j⟩)
      · exact h_some h_none
      · exact h_j (h_pending j hj)
  · rw [cancelPendingBlock_refused cancelledAt h_cancel]
    refine iff_of_false ?_ fun h => h_cancel h.1
    rintro ⟨s', h⟩
    cases h

/-! ### What it leaves -/

/-- The job is cancelled and bears no trace of a dispatch. -/
structure CancelledUnsent (j : QueueJob) : Prop where
  state : j.state = .cancelled
  attempt : j.attempt = 0
  token : j.adapterToken = none
  sent : j.sentAt = none
  started : j.startedAt = none

/-- What a cancellation leaves: the block and its jobs are cancelled, and nothing else has
changed. -/
structure BlockCancelled (s s' : PlannerState) (blockId : String) (cancelledAt : Instant) :
    Prop where
  plan : s'.planRevision = s.planRevision
  blocks : s'.ledger.blocks = s.ledger.blocks.map
    (updateIf (·.blockId = blockId) fun b => { b with state := .cancelled })
  jobs : s'.ledger.jobs = s.ledger.jobs.map
    (updateIf (·.blockId = blockId) (cancelledJob cancelledAt))
  /-- Its jobs are never dispatched, whatever commands follow. -/
  unsent : ∀ (commands : List QueueCommand),
    ∀ j ∈ (perform QueueCommand.run s'.ledger commands).jobs, j.blockId = blockId →
      CancelledUnsent j
  /-- Its lane is free if no other block held it. -/
  laneFree : ∀ b ∈ s.ledger.blocks, b.blockId = blockId →
    (∀ c ∈ s.ledger.blocks, c.laneId = b.laneId → c.state.terminal = false →
      c.blockId = blockId) →
    ∀ c ∈ s'.ledger.blocks, c.laneId = b.laneId → c.state.terminal = true

theorem BlockCancelled.of_ok (h_cancel : Cancellable s.ledger blockId)
    (h : cancelPendingBlock s blockId cancelledAt = .ok s') :
    BlockCancelled s s' blockId cancelledAt := by
  obtain ⟨b, hb, h_id, h_b, -, h_pending⟩ := h_cancel
  obtain ⟨-, -, -, -, h_plan, h_blocks, h_moved, -⟩ := cancelPendingBlock_ok h
  have h_jobs : s'.ledger.jobs = s.ledger.jobs.map
      (updateIf (·.blockId = blockId) (cancelledJob cancelledAt)) := h_moved
  have h_cancelled : ∀ c ∈ s.ledger.blocks, c.blockId = blockId →
      { c with state := .cancelled } ∈ s'.ledger.blocks := by
    intro c hc h_c
    rw [h_blocks]
    exact List.mem_map.mpr ⟨c, hc, updateIf_pos (by simpa using h_c)⟩
  refine ⟨h_plan, h_blocks, h_jobs, fun commands j hj h_parent => ?_, fun b₀ hb₀ h_b₀ h_only => ?_⟩
  · -- the cancelled block is terminal, so the job is as the command left it
    have h_old : j ∈ s'.ledger.jobs :=
      QueueLedger.job_of_terminal commands (h_cancelled b hb h_id) rfl hj (h_parent.trans h_id.symm)
    rw [h_jobs] at h_old
    obtain ⟨k, hk, rfl⟩ := List.mem_map.mp h_old
    have h_kept : ∀ k, (cancelledJob cancelledAt k).identity = k.identity := fun _ => rfl
    rw [parent_of_identity (QueueJob.identity_updateIf h_kept k)] at h_parent
    rw [updateIf_pos (by simpa using h_parent)]
    have h_k := h_pending k (mem_jobsOf.mpr ⟨hk, h_parent.trans h_id.symm⟩)
    obtain ⟨h_attempt, h_token, h_sent, h_started, -⟩ := (s.ledger.jobLifecycle hk).pending h_k
    exact ⟨rfl, h_attempt, h_token, h_sent, h_started⟩
  · intro c hc h_lane
    -- if it was the only open block of its lane, the lane is free
    rw [h_blocks] at hc
    obtain ⟨c₀, hc₀, rfl⟩ := List.mem_map.mp hc
    by_cases h_c₀ : c₀.blockId = blockId
    · rw [updateIf_pos (by simpa using h_c₀)]
      rfl
    · rw [updateIf_neg (by simpa using h_c₀)] at h_lane ⊢
      by_contra h_open
      exact h_c₀ (h_only c₀ hc₀ h_lane (Bool.eq_false_of_not_eq_true h_open))

/-- **A block is cancelled where it is safe, and nowhere else.** From the planning of its jobs
on, a block is cancelled exactly if it is sealed, has a job and has only pending ones. Any other
is refused, and the state stays as it is. -/
theorem cancelled_iff_safe (s : PlannerState) (blockId : String) (cancelledAt : Instant)
    (h_planned : ∀ j ∈ s.ledger.jobs, j.blockId = blockId → j.plannedAt ≤ cancelledAt) :
    ((∃ s', cancelPendingBlock s blockId cancelledAt = .ok s') ↔ Cancellable s.ledger blockId) ∧
    (∀ s', cancelPendingBlock s blockId cancelledAt = .ok s' →
      BlockCancelled s s' blockId cancelledAt) ∧
    (¬ Cancellable s.ledger blockId →
      cancelPendingBlock s blockId cancelledAt = .error (cancelError s.ledger blockId) ∧
      attempt (fun s => cancelPendingBlock s blockId cancelledAt) s = s) := by
  have h_iff : (∃ s', cancelPendingBlock s blockId cancelledAt = .ok s') ↔
      Cancellable s.ledger blockId := by
    rw [cancelPendingBlock_isOk]
    exact and_iff_left h_planned
  refine ⟨h_iff, fun s' h => .of_ok (h_iff.mp ⟨s', h⟩) h, fun h => ?_⟩
  have h_refused := cancelPendingBlock_refused cancelledAt h
  exact ⟨h_refused, attempt_of_error h_refused⟩

/-- A batch of two rooms of which nothing has been sent. -/
def pendingBatch : PlannerState where
  planRevision := kitchenPlan
  ledger :=
    { schemaVersion := 1
      revision := 1
      blocks := [{ sealedBlock kitchenSnapshot "robot" "key" 0 kitchenIds .nativeBatch
        .plannerAtomic with jobIds := ["job", "hall job"] }]
      jobs := [sealedJob "block" 0 "job" 0 ⟨"kitchen", "Kitchen", .null, .vacuum, 0, 0⟩,
        sealedJob "block" 0 "hall job" 1 ⟨"hall", "Hall", .null, .vacuum, 0, 0⟩]
      activeBlockId := none
      lastReconciledAt := none
      checked := by decide }
  lane := by decide

theorem cancelled_iff_safe_batch :
    ∃ s', cancelPendingBlock pendingBatch "block" 5 = .ok s' ∧
      BlockCancelled pendingBatch s' "block" 5 := by
  obtain ⟨h_iff, h_cancelled, -⟩ := cancelled_iff_safe pendingBatch "block" 5 (by decide)
  obtain ⟨s', h⟩ := h_iff.mpr (by decide)
  exact ⟨s', h, h_cancelled s' h⟩

end VacuumPlanner
