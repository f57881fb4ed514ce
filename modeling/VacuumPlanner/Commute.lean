import VacuumPlanner.Admission
import VacuumPlanner.Commands

/-!
# Acceptance and observation

A dispatched batch and two tasks racing for the coordinator: one records that the vacuum
accepted the call, the other what the vacuum reported. Whichever comes first, the block and
its jobs should end in the same states.

In either order the second command finds what the first one left, and a command that is
refused leaves everything as it was. So the outcome is decided by which of the commands is
admitted in which state (`Admission`), and the two orders are compared by their views of
the block (`dispatchView`), which are uniform: the jobs of the batch move together.

A completed and an uncertain report always commute with the acceptance. A running and a
failed one need not (`RaceAgrees`): the acceptance writes `committed_at`, and a failure
observed before that instant no longer fits into the lifecycle of the block.
-/

namespace VacuumPlanner

open Framework

variable {L L' : QueueLedger} {s s' : PlannerState} {b : QueueBlock} {jobs : List QueueJob}
  {acceptedAt observedAt sentAt : Instant} {outcome : ObservationOutcome}
  {revisionIds : ℕ → String}

/-! ### The two orders -/

/-- The state of a block and the states of its jobs. -/
def dispatchView (L : QueueLedger) (blockId : String) :
    Option BlockState × List (String × JobState) :=
  ((L.blocks.find? (·.blockId = blockId)).map (·.state),
    (L.jobs.filter (·.blockId = blockId)).map fun job => (job.jobId, job.state))

/-- The acceptance as a command of the coordinator. -/
def accept (blockId : String) (jobs : List QueueJob) (acceptedAt : Instant) :
    PlannerState → PlannerState :=
  attempt fun s => recordDispatchAcceptance s blockId jobs acceptedAt

/-- The report as a command of the coordinator. -/
def report (outcome : ObservationOutcome) (observedAt : Instant) (revisionIds : ℕ → String) :
    PlannerState → PlannerState :=
  attempt (observe outcome observedAt revisionIds)

/-- The two orders end with the same states of the block and its jobs. -/
def Commutes (s : PlannerState) (blockId : String) (jobs : List QueueJob)
    (acceptedAt observedAt : Instant) (outcome : ObservationOutcome)
    (revisionIds : ℕ → String) : Prop :=
  dispatchView (accept blockId jobs acceptedAt
      (report outcome observedAt revisionIds s)).ledger blockId =
    dispatchView (report outcome observedAt revisionIds
      (accept blockId jobs acceptedAt s)).ledger blockId

/-- When the two orders agree. A running report reaches the acceptance's result only if it
is admitted without it, and a failed report must be admitted with the acceptance exactly
when it is admitted without. Neither matters when the acceptance is refused anyway, or when
another block refuses the report in both orders. -/
def RaceAgrees (L : QueueLedger) (b : QueueBlock) (acceptedAt observedAt : Instant) :
    ObservationOutcome → Prop
  | .completed | .uncertain => True
  | .running =>
    AcceptanceAdmitted b acceptedAt →
      (∀ b' ∈ L.blocks, b'.blockId ≠ b.blockId →
        RunningAdmitted observedAt b' (jobsOf L.jobs b')) →
        jobsOf L.jobs b ≠ [] ∧ AcceptanceAdmitted b observedAt
  | .failed =>
    AcceptanceAdmitted b acceptedAt →
      (∀ b' ∈ L.blocks, b'.blockId ≠ b.blockId → Affected observedAt b' (jobsOf L.jobs b') →
        FailureAdmitted observedAt b' (jobsOf L.jobs b')) →
        jobsOf L.jobs b ≠ [] →
          (∀ j ∈ jobsOf L.jobs b, Before j.startedAt (some observedAt)) →
            (Before b.sealedAt (some observedAt) ∧ Before b.committedAt (some observedAt) ↔
              acceptedAt ≤ observedAt)

/-! ### Views -/

/-- The view of a block in one state with all its jobs in one state. -/
def uniformView (children : List QueueJob) (state : BlockState) (jobState : JobState) :
    Option BlockState × List (String × JobState) :=
  (some state, children.map fun job => (job.jobId, jobState))

theorem uniformView_ne {children : List QueueJob} {state state' : BlockState}
    {jobState jobState' : JobState} (h : state ≠ state') :
    uniformView children state jobState ≠ uniformView children state' jobState' := by
  intro h_eq
  exact h (Option.some.inj (congrArg Prod.fst h_eq))

/-- The view after a rewrite that leaves the block and its jobs in one state each. -/
theorem dispatchView_rewritten {f : QueueBlock → QueueBlock} {g : QueueJob → QueueJob}
    {state : BlockState} {jobState : JobState} (hb : b ∈ L.blocks)
    (h_blocks : L'.blocks = L.blocks.map f) (h_jobs : L'.jobs = L.jobs.map g)
    (hf : (f b).identity = b.identity) (hg : ∀ j, (g j).identity = j.identity)
    (h_state : (f b).state = state) (h_states : ∀ j ∈ jobsOf L.jobs b, (g j).state = jobState) :
    dispatchView L' b.blockId = uniformView (jobsOf L.jobs b) state jobState := by
  have h_find : L'.blocks.find? (fun b' => decide (b'.blockId = b.blockId)) = some (f b) := by
    rw [QueueLedger.find_block, h_blocks]
    exact ⟨List.mem_map_of_mem hb, blockId_of_identity hf⟩
  have h_filter : L'.jobs.filter (fun j => decide (j.blockId = b.blockId)) =
      (jobsOf L.jobs b).map g := by
    rw [h_jobs]
    exact jobsOf_map hg L.jobs b
  unfold dispatchView uniformView
  rw [h_find, h_filter, Option.map_some, h_state, List.map_map]
  congr 1
  refine List.map_congr_left fun j hj => ?_
  rw [Function.comp_apply, jobId_of_identity (hg j), h_states j hj]

/-- The view of a block that is in one state, as its jobs are. -/
theorem dispatchView_of_mem {state : BlockState} {jobState : JobState} (hb : b ∈ L.blocks)
    (h_state : b.state = state) (h_states : ∀ j ∈ jobsOf L.jobs b, j.state = jobState) :
    dispatchView L b.blockId = uniformView (jobsOf L.jobs b) state jobState :=
  dispatchView_rewritten (f := id) (g := id) hb (List.map_id _).symm (List.map_id _).symm rfl
    (fun _ => rfl) h_state h_states

/-- A condition on all blocks with their jobs, before and after a rewrite of one block. -/
theorem forall_rewritten {P : QueueBlock → List QueueJob → Prop} {f : QueueBlock → QueueBlock}
    {g : QueueJob → QueueJob} (hb : b ∈ L.blocks)
    (h_blocks : L'.blocks = L.blocks.map (updateIf (·.blockId = b.blockId) f))
    (h_jobs : L'.jobs = L.jobs.map (updateIf (·.blockId = b.blockId) g))
    (hf : ∀ b, (f b).identity = b.identity) (hg : ∀ j, (g j).identity = j.identity) :
    (∀ b' ∈ L'.blocks, P b' (jobsOf L'.jobs b')) ↔
      P (f b) ((jobsOf L.jobs b).map g) ∧
        ∀ b' ∈ L.blocks, b'.blockId ≠ b.blockId → P b' (jobsOf L.jobs b') := by
  have h_jobsOf : ∀ b', jobsOf L'.jobs b' =
      (jobsOf L.jobs b').map (updateIf (·.blockId = b.blockId) g) := by
    intro b'
    rw [h_jobs, jobsOf_map (QueueJob.identity_updateIf hg)]
  -- the jobs of the block are rewritten all of them, those of any other block not at all
  have h_own : jobsOf L'.jobs (f b) = (jobsOf L.jobs b).map g := by
    rw [h_jobsOf, jobsOf_congr _ (blockId_of_identity (hf b))]
    refine List.map_congr_left fun j hj => updateIf_pos ?_
    exact decide_eq_true (mem_jobsOf.mp hj).2
  have h_other : ∀ b', b'.blockId ≠ b.blockId → jobsOf L'.jobs b' = jobsOf L.jobs b' := by
    intro b' h_ne
    rw [h_jobsOf]
    refine (List.map_congr_left fun j hj => updateIf_neg ?_).trans (List.map_id _)
    rw [(mem_jobsOf.mp hj).2]
    simpa using h_ne
  rw [h_blocks, List.forall_mem_map]
  constructor
  · intro h
    refine ⟨?_, fun b' hb' h_ne => ?_⟩
    · have h_b := h b hb
      rw [updateIf_pos (by simp), h_own] at h_b
      exact h_b
    · have h_b' := h b' hb'
      rw [updateIf_neg (by simpa using h_ne), h_other b' h_ne] at h_b'
      exact h_b'
  · rintro ⟨h_b, h_others⟩ b' hb'
    -- block identities are distinct in a ledger, so the block with `b`'s is `b`
    by_cases h_id : b'.blockId = b.blockId
    · obtain rfl := L.block_eq hb' hb h_id
      rw [updateIf_pos (by simp), h_own]
      exact h_b
    · rw [updateIf_neg (by simpa using h_id), h_other b' h_id]
      exact h_others b' hb' h_id

/-- A condition on all blocks with their jobs, split at one block. -/
theorem forall_split {P : QueueBlock → List QueueJob → Prop} (hb : b ∈ L.blocks) :
    (∀ b' ∈ L.blocks, P b' (jobsOf L.jobs b')) ↔ P b (jobsOf L.jobs b) ∧
      ∀ b' ∈ L.blocks, b'.blockId ≠ b.blockId → P b' (jobsOf L.jobs b') := by
  constructor
  · exact fun h => ⟨h b hb, fun b' hb' _ => h b' hb'⟩
  · rintro ⟨h_b, h_others⟩ b' hb'
    by_cases h_id : b'.blockId = b.blockId
    · obtain rfl := L.block_eq hb' hb h_id
      exact h_b
    · exact h_others b' hb' h_id

/-! ### The acceptance in either place -/

theorem DispatchedBatch.of_untouched (h : DispatchedBatch L b) (hb : b ∈ L'.blocks)
    (h_jobs : jobsOf L'.jobs b = jobsOf L.jobs b) : DispatchedBatch L' b :=
  ⟨hb, h.strategy, h.state, h_jobs ▸ h.jobs⟩

/-- The accepted block. -/
def acceptedBlock (acceptedAt : Instant) (b : QueueBlock) : QueueBlock :=
  QueueLedger.changedBlock .committed acceptedAt none b

/-- An accepted job. -/
def acceptedJob (acceptedAt : Instant) (j : QueueJob) : QueueJob :=
  QueueLedger.changedJob .accepted acceptedAt none none none j

theorem acceptedBlock_identity (acceptedAt : Instant) (b : QueueBlock) :
    (acceptedBlock acceptedAt b).identity = b.identity :=
  QueueLedger.changedBlock_identity ..

theorem acceptedJob_identity (acceptedAt : Instant) (j : QueueJob) :
    (acceptedJob acceptedAt j).identity = j.identity :=
  QueueLedger.changedJob_identity ..

/-- The block of the batch and its jobs were accepted, and nothing else changed. -/
structure AcceptedBatch (L L' : QueueLedger) (b : QueueBlock) (acceptedAt : Instant) : Prop where
  blocks : L'.blocks = L.blocks.map (updateIf (·.blockId = b.blockId) (acceptedBlock acceptedAt))
  jobs : L'.jobs = L.jobs.map (updateIf (·.blockId = b.blockId) (acceptedJob acceptedAt))

/-- The acceptance of a batch commits it and accepts every job of it. -/
theorem recordDispatchAcceptance_batch (h : DispatchedBatch s.ledger b)
    (h_ids : jobs.map (·.jobId) = b.jobIds)
    (h_run : recordDispatchAcceptance s b.blockId jobs acceptedAt = .ok s') :
    AcceptedBatch s.ledger s'.ledger b acceptedAt := by
  obtain ⟨b', hb', h_id, ⟨h_settled, -⟩ | ⟨-, -, h_blocks, h_jobs, -⟩⟩ :=
    recordDispatchAcceptance_ok h_run
  · rw [QueueLedger.block_eq hb' h.mem h_id, h.state] at h_settled
    exact absurd h_settled (by decide)
  · rw [map_movedJob_block h.mem h_ids] at h_jobs
    exact ⟨h_blocks, h_jobs⟩

theorem accept_refused (h : DispatchedBatch s.ledger b) (h_ids : jobs.map (·.jobId) = b.jobIds)
    (h_not : ¬ AcceptanceAdmitted b acceptedAt) : accept b.blockId jobs acceptedAt s = s := by
  rcases attempt_eq_or_ok (fun s => recordDispatchAcceptance s b.blockId jobs acceptedAt) s with
    h_same | h_ok
  · exact h_same
  · exact absurd ((recordDispatchAcceptance_isOk h h_ids).mp ⟨_, h_ok⟩) h_not

theorem accept_admitted (h : DispatchedBatch s.ledger b) (h_ids : jobs.map (·.jobId) = b.jobIds)
    (h_ok : AcceptanceAdmitted b acceptedAt) :
    recordDispatchAcceptance s b.blockId jobs acceptedAt =
      .ok (accept b.blockId jobs acceptedAt s) := by
  obtain ⟨s', h_run⟩ := (recordDispatchAcceptance_isOk h h_ids).mpr h_ok
  unfold accept
  rw [attempt_of_ok h_run]
  exact h_run

/-- The view after an admitted acceptance. -/
theorem dispatchView_accept (h : DispatchedBatch s.ledger b)
    (h_ids : jobs.map (·.jobId) = b.jobIds) (h_ok : AcceptanceAdmitted b acceptedAt) :
    dispatchView (accept b.blockId jobs acceptedAt s).ledger b.blockId =
      uniformView (jobsOf s.ledger.jobs b) .committed .accepted := by
  have h_batch := recordDispatchAcceptance_batch h h_ids (accept_admitted h h_ids h_ok)
  refine dispatchView_rewritten h.mem h_batch.blocks h_batch.jobs
    (QueueBlock.identity_updateIf (acceptedBlock_identity acceptedAt) b)
    (QueueJob.identity_updateIf (acceptedJob_identity acceptedAt)) ?_ fun j hj => ?_
  · rw [updateIf_pos (by simp)]
    exact QueueLedger.changedBlock_state ..
  · rw [updateIf_pos (by simpa using (mem_jobsOf.mp hj).2)]
    exact QueueLedger.changedJob_state ..

/-- The acceptance leaves a block alone that a report has settled. -/
theorem accept_settled {children : List QueueJob} {state : BlockState} {jobState : JobState}
    {blockId : String} (h_settled : state ∈ settledByObservation)
    (h_view : dispatchView s.ledger blockId = uniformView children state jobState) :
    accept blockId jobs acceptedAt s = s := by
  obtain ⟨b, h_find, h_b⟩ := Option.map_eq_some_iff.mp (congrArg Prod.fst h_view)
  have h_run : recordDispatchAcceptance s blockId jobs acceptedAt = .ok s := by
    unfold recordDispatchAcceptance
    rw [h_find]
    change (if b.state ∈ settledByObservation then _ else _) = _
    rw [h_b, if_pos h_settled]
    rfl
  exact attempt_of_ok h_run

/-- What a report did to a batch: nothing, or it settled the block and its jobs. -/
def Reported (s s' : PlannerState) (b : QueueBlock) (state : BlockState) (jobState : JobState)
    (moved : Prop) : Prop :=
  (¬ moved ∧ b ∈ s'.ledger.blocks ∧ jobsOf s'.ledger.jobs b = jobsOf s.ledger.jobs b) ∨
    (moved ∧ dispatchView s'.ledger b.blockId =
      uniformView (jobsOf s.ledger.jobs b) state jobState)

/-- **The comparison.** With a report that settles the dispatched batch exactly under
`before`, and the accepted batch exactly under `after`, the two orders agree when the
acceptance is refused, and otherwise exactly when `before` and `after` are the same. -/
theorem commutes_iff {state : BlockState} {jobState : JobState} (before after : Prop)
    (h : DispatchedBatch s.ledger b) (h_ids : jobs.map (·.jobId) = b.jobIds)
    (h_settled : state ∈ settledByObservation)
    (h_before : Reported s (report outcome observedAt revisionIds s) b state jobState before)
    (h_after : AcceptanceAdmitted b acceptedAt →
      (¬ after ∧ dispatchView (report outcome observedAt revisionIds
          (accept b.blockId jobs acceptedAt s)).ledger b.blockId =
        uniformView (jobsOf s.ledger.jobs b) .committed .accepted) ∨
      (after ∧ dispatchView (report outcome observedAt revisionIds
          (accept b.blockId jobs acceptedAt s)).ledger b.blockId =
        uniformView (jobsOf s.ledger.jobs b) state jobState)) :
    Commutes s b.blockId jobs acceptedAt observedAt outcome revisionIds ↔
      (AcceptanceAdmitted b acceptedAt → (before ↔ after)) := by
  -- a settled batch and an accepted one differ: what matters is which of the two came out
  have h_ne : state ≠ .committed := by
    rintro rfl
    exact absurd h_settled (by decide)
  unfold Commutes
  by_cases h_ok : AcceptanceAdmitted b acceptedAt
  · rw [imp_iff_right h_ok]
    rcases h_before with ⟨h_not, hb, h_jobs⟩ | ⟨h_moved, h_view⟩
    · rw [dispatchView_accept (h.of_untouched hb h_jobs) h_ids h_ok, h_jobs]
      rcases h_after h_ok with ⟨h_not', h_view'⟩ | ⟨h_moved', h_view'⟩
      · rw [h_view']
        exact iff_of_true rfl (iff_of_false h_not h_not')
      · rw [h_view']
        exact iff_of_false (uniformView_ne h_ne.symm) fun h_iff => h_not (h_iff.mpr h_moved')
    · -- after a report that settles the batch the acceptance does nothing
      rw [accept_settled h_settled h_view, h_view]
      rcases h_after h_ok with ⟨h_not', h_view'⟩ | ⟨h_moved', h_view'⟩
      · rw [h_view']
        exact iff_of_false (uniformView_ne h_ne) fun h_iff => h_not' (h_iff.mp h_moved)
      · rw [h_view']
        exact iff_of_true rfl (iff_of_true h_moved h_moved')
  · -- a refused acceptance does nothing in either order
    rw [accept_refused h h_ids h_ok]
    refine iff_of_true ?_ fun h' => absurd h' h_ok
    rcases h_before with ⟨-, hb, h_jobs⟩ | ⟨-, h_view⟩
    · rw [accept_refused (h.of_untouched hb h_jobs) h_ids h_ok]
    · rw [accept_settled h_settled h_view]

/-! ### Refused reports -/

theorem report_refused (h : ¬ ∃ s', observe outcome observedAt revisionIds s = .ok s') :
    report outcome observedAt revisionIds s = s := by
  rcases attempt_eq_or_ok (observe outcome observedAt revisionIds) s with h_same | h_ok
  · exact h_same
  · exact absurd ⟨_, h_ok⟩ h

/-- A refused report leaves the batch as it is. -/
theorem reported_refused {state : BlockState} {jobState : JobState} {moved : Prop}
    (h : DispatchedBatch s.ledger b) (h_not : ¬ moved)
    (h_run : ¬ ∃ s', observe outcome observedAt revisionIds s = .ok s') :
    Reported s (report outcome observedAt revisionIds s) b state jobState moved := by
  rw [report_refused h_run]
  exact Or.inl ⟨h_not, h.mem, rfl⟩

/-! ### The accepted batch -/

theorem AcceptedBatch.mem (h : AcceptedBatch L L' b acceptedAt) (hb : b ∈ L.blocks) :
    acceptedBlock acceptedAt b ∈ L'.blocks := by
  rw [h.blocks, List.mem_map]
  exact ⟨b, hb, updateIf_pos (by simp)⟩

theorem AcceptedBatch.jobsOf_eq (h : AcceptedBatch L L' b acceptedAt) :
    jobsOf L'.jobs (acceptedBlock acceptedAt b) =
      (jobsOf L.jobs b).map (acceptedJob acceptedAt) := by
  rw [jobsOf_congr _ (blockId_of_identity (acceptedBlock_identity acceptedAt b)), h.jobs,
    jobsOf_map (QueueJob.identity_updateIf (acceptedJob_identity acceptedAt))]
  exact List.map_congr_left fun j hj => updateIf_pos (by simpa using (mem_jobsOf.mp hj).2)

/-- A condition on all blocks with their jobs, after the acceptance. -/
theorem AcceptedBatch.forall_iff {P : QueueBlock → List QueueJob → Prop}
    (h : AcceptedBatch L L' b acceptedAt) (hb : b ∈ L.blocks) :
    (∀ b' ∈ L'.blocks, P b' (jobsOf L'.jobs b')) ↔
      P (acceptedBlock acceptedAt b) ((jobsOf L.jobs b).map (acceptedJob acceptedAt)) ∧
        ∀ b' ∈ L.blocks, b'.blockId ≠ b.blockId → P b' (jobsOf L.jobs b') :=
  forall_rewritten hb h.blocks h.jobs (acceptedBlock_identity acceptedAt)
    (acceptedJob_identity acceptedAt)

theorem uniformView_map {children : List QueueJob} {g : QueueJob → QueueJob}
    (hg : ∀ j, (g j).identity = j.identity) (state : BlockState) (jobState : JobState) :
    uniformView (children.map g) state jobState = uniformView children state jobState := by
  unfold uniformView
  rw [List.map_map]
  congr 1
  exact List.map_congr_left fun j _ => by rw [Function.comp_apply, jobId_of_identity (hg j)]

/-- The view after a rewrite of the accepted batch. -/
theorem AcceptedBatch.dispatchView_rewritten {L'' : QueueLedger} {f : QueueBlock → QueueBlock}
    {g : QueueJob → QueueJob} {state : BlockState} {jobState : JobState}
    (h : AcceptedBatch L L' b acceptedAt) (hb : b ∈ L.blocks)
    (h_blocks : L''.blocks = L'.blocks.map f) (h_jobs : L''.jobs = L'.jobs.map g)
    (hf : ∀ b, (f b).identity = b.identity) (hg : ∀ j, (g j).identity = j.identity)
    (h_state : (f (acceptedBlock acceptedAt b)).state = state)
    (h_states : ∀ j ∈ jobsOf L.jobs b, (g (acceptedJob acceptedAt j)).state = jobState) :
    dispatchView L'' b.blockId = uniformView (jobsOf L.jobs b) state jobState := by
  have h_view := VacuumPlanner.dispatchView_rewritten (h.mem hb) h_blocks h_jobs (hf _) hg h_state
    (by rw [h.jobsOf_eq, List.forall_mem_map]; exact h_states)
  rw [h.jobsOf_eq, uniformView_map (acceptedJob_identity acceptedAt)] at h_view
  rw [← blockId_of_identity (acceptedBlock_identity acceptedAt b)]
  exact h_view

/-! ### Running -/

/-- A batch is dispatching for every report no earlier than its dispatch, unless it is
empty. -/
theorem DispatchedBatch.dispatching_iff (h : DispatchedBatch L b)
    (h_sent : ∀ j ∈ jobsOf L.jobs b, j.sentAt = some sentAt) (h_le : sentAt ≤ observedAt) :
    Dispatching observedAt b (jobsOf L.jobs b) ↔ jobsOf L.jobs b ≠ [] := by
  constructor
  · rintro ⟨-, j, hj, -⟩
    exact List.ne_nil_of_mem hj
  · intro h_some
    obtain ⟨j, hj⟩ := List.exists_mem_of_ne_nil _ h_some
    exact ⟨h.state, j, hj, h.jobs j hj, sentAt, h_sent j hj, h_le⟩

/-- What a running report needs of a dispatched batch. -/
theorem DispatchedBatch.runningAdmitted_iff (h : DispatchedBatch L b)
    (h_sent : ∀ j ∈ jobsOf L.jobs b, j.sentAt = some sentAt) (h_le : sentAt ≤ observedAt) :
    RunningAdmitted observedAt b (jobsOf L.jobs b) ↔
      (jobsOf L.jobs b ≠ [] → AcceptanceAdmitted b observedAt) := by
  rw [← h.dispatching_iff h_sent h_le]
  constructor
  · exact fun h' h_dispatching => (h'.dispatching h_dispatching).1
  · intro h'
    refine ⟨fun h_dispatching => ⟨h' h_dispatching, fun j hj _ => ?_⟩, fun h_state => ?_⟩
    · rw [h_sent j hj]
      exact before_some.mpr h_le
    · rw [h.state] at h_state
      exact absurd h_state (by decide)

/-- A running report of a dispatched batch. -/
theorem reported_running (h : DispatchedBatch s.ledger b)
    (h_sent : ∀ j ∈ jobsOf s.ledger.jobs b, j.sentAt = some sentAt) (h_le : sentAt ≤ observedAt) :
    Reported s (report .running observedAt revisionIds s) b .running .running
      ((jobsOf s.ledger.jobs b ≠ [] ∧ AcceptanceAdmitted b observedAt) ∧
        ∀ b' ∈ s.ledger.blocks, b'.blockId ≠ b.blockId →
          RunningAdmitted observedAt b' (jobsOf s.ledger.jobs b')) := by
  have h_admitted := (observeRunning_isOk s observedAt).trans
    (forall_split h.mem)
  rw [h.runningAdmitted_iff h_sent h_le] at h_admitted
  by_cases h_run : ∃ s', observeRunning s observedAt = .ok s'
  -- the sweep goes through exactly if it does for this block and for the others
  · obtain ⟨h_own, h_others⟩ := h_admitted.mp h_run
    obtain ⟨s', h_s'⟩ := h_run
    have h_report : report .running observedAt revisionIds s = s' := attempt_of_ok h_s'
    obtain ⟨-, h_blocks, h_jobs, -⟩ := observeRunning_ok h_s'
    rw [h_report]
    by_cases h_some : jobsOf s.ledger.jobs b ≠ []
    · have h_in := (dispatching_iff h.mem).mpr ((h.dispatching_iff h_sent h_le).mpr h_some)
      refine Or.inr ⟨⟨⟨h_some, h_own h_some⟩, h_others⟩, ?_⟩
      refine dispatchView_rewritten h.mem h_blocks h_jobs (observedRunningBlock_identity _ _ b)
        (observedRunningJob_identity _ _) ?_ fun j hj => ?_
      · rw [observedRunningBlock_dispatching h_in]
      · rw [observedRunningJob_dispatching ((mem_jobsOf.mp hj).2 ▸ h_in) (h.jobs j hj)]
    · -- an empty batch is neither dispatching nor committed
      have h_out : b.blockId ∉ dispatchingBlockIds s.ledger observedAt := fun h_in =>
        h_some ((h.dispatching_iff h_sent h_le).mp ((dispatching_iff h.mem).mp h_in))
      have h_none := not_not.mp h_some
      refine Or.inl ⟨fun h_moved => h_some h_moved.1.1, ?_, ?_⟩
      · rw [h_blocks, List.mem_map]
        exact ⟨b, h.mem, observedRunningBlock_other h_out (by rw [h.state]; decide)⟩
      · rw [h_jobs, jobsOf_map (observedRunningJob_identity _ _), h_none, List.map_nil]
  · refine reported_refused h (fun h_moved => h_run (h_admitted.mpr ?_)) h_run
    exact ⟨fun _ => h_moved.1.2, h_moved.2⟩

/-- A running report of the accepted batch, which nothing in the batch can refuse. -/
theorem running_after (h : DispatchedBatch s.ledger b) (h_ids : jobs.map (·.jobId) = b.jobIds)
    (h_sent : ∀ j ∈ jobsOf s.ledger.jobs b, j.sentAt = some sentAt) (h_le : sentAt ≤ observedAt)
    (h_ok : AcceptanceAdmitted b acceptedAt) :
    (¬ (∀ b' ∈ s.ledger.blocks, b'.blockId ≠ b.blockId →
          RunningAdmitted observedAt b' (jobsOf s.ledger.jobs b')) ∧
        dispatchView (report .running observedAt revisionIds
          (accept b.blockId jobs acceptedAt s)).ledger b.blockId =
        uniformView (jobsOf s.ledger.jobs b) .committed .accepted) ∨
      ((∀ b' ∈ s.ledger.blocks, b'.blockId ≠ b.blockId →
          RunningAdmitted observedAt b' (jobsOf s.ledger.jobs b')) ∧
        dispatchView (report .running observedAt revisionIds
          (accept b.blockId jobs acceptedAt s)).ledger b.blockId =
        uniformView (jobsOf s.ledger.jobs b) .running .running) := by
  have h_view := dispatchView_accept h h_ids h_ok
  have h_batch := recordDispatchAcceptance_batch h h_ids (accept_admitted h h_ids h_ok)
  set s₁ := accept b.blockId jobs acceptedAt s
  -- the batch itself admits the report: it was sent before it, and accepted
  have h_own : RunningAdmitted observedAt (acceptedBlock acceptedAt b)
      ((jobsOf s.ledger.jobs b).map (acceptedJob acceptedAt)) := by
    refine ⟨fun h_dispatching => (nomatch h_dispatching.1), fun _ => ?_⟩
    rw [List.forall_mem_map]
    intro j hj _
    change Before j.sentAt (some observedAt)
    rw [h_sent j hj]
    exact before_some.mpr h_le
  -- so the report is refused exactly when a block outside the batch refuses it
  have h_admitted := (observeRunning_isOk s₁ observedAt).trans
    (h_batch.forall_iff h.mem)
  rw [and_iff_right h_own] at h_admitted
  by_cases h_run : ∃ s', observeRunning s₁ observedAt = .ok s'
  · -- it goes through, and the accepted jobs of the batch now run
    refine Or.inr ⟨h_admitted.mp h_run, ?_⟩
    obtain ⟨s', h_s'⟩ := h_run
    have h_report : report .running observedAt revisionIds s₁ = s' := attempt_of_ok h_s'
    obtain ⟨-, h_blocks', h_jobs', -⟩ := observeRunning_ok h_s'
    rw [h_report]
    refine h_batch.dispatchView_rewritten h.mem h_blocks' h_jobs'
      (observedRunningBlock_identity _ _) (observedRunningJob_identity _ _) ?_ fun j hj => ?_
    · rw [observedRunningBlock_committed (h_batch.mem h.mem) rfl]
    · have h_parent :
          (acceptedJob acceptedAt j).blockId = (acceptedBlock acceptedAt b).blockId := by
        rw [parent_of_identity (acceptedJob_identity acceptedAt j),
          blockId_of_identity (acceptedBlock_identity acceptedAt b)]
        exact (mem_jobsOf.mp hj).2
      rw [observedRunningJob_accepted (h_batch.mem h.mem) h_parent
        (show BlockState.committed ∈ _ by decide) rfl]
      exact QueueLedger.changedJob_state ..
  · -- it is refused, and the batch stays as it was accepted
    refine Or.inl ⟨fun h_others => h_run (h_admitted.mpr h_others), ?_⟩
    have h_same : report .running observedAt revisionIds s₁ = s₁ := report_refused h_run
    rw [h_same]
    exact h_view

/-! ### Failed and uncertain -/

/-- A batch is affected by every report no earlier than its dispatch, unless it is empty. -/
theorem DispatchedBatch.affected_iff (h : DispatchedBatch L b)
    (h_sent : ∀ j ∈ jobsOf L.jobs b, j.sentAt = some sentAt) (h_le : sentAt ≤ observedAt) :
    Affected observedAt b (jobsOf L.jobs b) ↔ jobsOf L.jobs b ≠ [] := by
  rw [← h.dispatching_iff h_sent h_le]
  refine or_iff_right ?_
  rintro ⟨j, hj, h_j⟩
  rw [h.jobs j hj] at h_j
  exact absurd h_j (by decide)

section AffectedBatch

variable {f : QueueBlock → QueueBlock} {g : QueueJob → QueueJob} {state : BlockState}
  {jobState : JobState}

/-- What a bulk outcome does to a dispatched batch. -/
theorem DispatchedBatch.rewritten (h : DispatchedBatch s.ledger b)
    (h_sent : ∀ j ∈ jobsOf s.ledger.jobs b, j.sentAt = some sentAt) (h_le : sentAt ≤ observedAt)
    (h_run : AffectedRewritten f g observedAt s s') (hf : ∀ b, (f b).identity = b.identity)
    (hg : ∀ j, (g j).identity = j.identity) (h_state : ∀ b, (f b).state = state)
    (h_jobState : ∀ j, (g j).state = jobState) :
    Reported s s' b state jobState (jobsOf s.ledger.jobs b ≠ []) := by
  -- a dispatched batch is affected by the outcome unless it has no job
  have h_affected := (VacuumPlanner.affected_iff h.mem).trans (h.affected_iff h_sent h_le)
  by_cases h_some : jobsOf s.ledger.jobs b ≠ []
  · have h_in := h_affected.mpr h_some
    refine Or.inr ⟨h_some, dispatchView_rewritten h.mem h_run.blocks h_run.jobs
      (QueueBlock.identity_updateIf hf b) (QueueJob.identity_updateIf hg) ?_ fun j hj => ?_⟩
    · rw [updateIf_pos (by simpa using h_in)]
      exact h_state b
    · rw [updateIf_pos]
      · exact h_jobState j
      · rw [decide_eq_true_iff, (mem_jobsOf.mp hj).2, h.jobs j hj]
        exact ⟨h_in, by decide⟩
  · refine Or.inl ⟨h_some, ?_, ?_⟩
    · rw [h_run.blocks, List.mem_map]
      exact ⟨b, h.mem, updateIf_neg (by simpa using fun h_in => h_some (h_affected.mp h_in))⟩
    · rw [h_run.jobs, jobsOf_map (QueueJob.identity_updateIf hg), not_not.mp h_some, List.map_nil]

/-- The accepted batch is affected by every report, unless it is empty. -/
theorem affected_accepted_iff {children : List QueueJob} :
    Affected observedAt (acceptedBlock acceptedAt b) (children.map (acceptedJob acceptedAt)) ↔
      children ≠ [] := by
  constructor
  · rintro (⟨j, hj, -⟩ | ⟨h_committing, -⟩)
    · rintro rfl
      exact absurd hj List.not_mem_nil
    · exact nomatch h_committing
  · intro h_some
    obtain ⟨j, hj⟩ := List.exists_mem_of_ne_nil _ h_some
    exact Or.inl ⟨_, List.mem_map_of_mem hj, List.mem_cons_self⟩

/-- What a bulk outcome does to the accepted batch. -/
theorem AcceptedBatch.rewritten {s₁ : PlannerState} (h : AcceptedBatch L s₁.ledger b acceptedAt)
    (hb : b ∈ L.blocks) (h_run : AffectedRewritten f g observedAt s₁ s')
    (hf : ∀ b, (f b).identity = b.identity) (hg : ∀ j, (g j).identity = j.identity)
    (h_state : ∀ b, (f b).state = state) (h_jobState : ∀ j, (g j).state = jobState) :
    (jobsOf L.jobs b = [] ∧ dispatchView s'.ledger b.blockId =
        uniformView (jobsOf L.jobs b) .committed .accepted) ∨
      (jobsOf L.jobs b ≠ [] ∧
        dispatchView s'.ledger b.blockId = uniformView (jobsOf L.jobs b) state jobState) := by
  have h_id := blockId_of_identity (acceptedBlock_identity acceptedAt b)
  -- an accepted batch is affected by the outcome unless it has no job
  have h_affected : (acceptedBlock acceptedAt b).blockId ∈ affectedBlockIds s₁.ledger observedAt ↔
      jobsOf L.jobs b ≠ [] := by
    rw [VacuumPlanner.affected_iff (h.mem hb), h.jobsOf_eq, affected_accepted_iff]
  by_cases h_some : jobsOf L.jobs b ≠ []
  · have h_in := h_affected.mpr h_some
    refine Or.inr ⟨h_some, h.dispatchView_rewritten hb h_run.blocks h_run.jobs
      (QueueBlock.identity_updateIf hf) (QueueJob.identity_updateIf hg) ?_ fun j hj => ?_⟩
    · rw [updateIf_pos (by simpa using h_in)]
      exact h_state _
    · rw [updateIf_pos]
      · exact h_jobState _
      · rw [decide_eq_true_iff, parent_of_identity (acceptedJob_identity acceptedAt j),
          (mem_jobsOf.mp hj).2, ← h_id]
        exact ⟨h_in, (by decide : JobState.accepted ∈ activeJobStates)⟩
  -- without a job the outcome passes the block over
  · refine Or.inl ⟨not_not.mp h_some, h.dispatchView_rewritten hb h_run.blocks h_run.jobs
      (QueueBlock.identity_updateIf hf) (QueueJob.identity_updateIf hg) ?_ fun j hj => ?_⟩
    · rw [updateIf_neg (by simpa using fun h_in => h_some (h_affected.mp h_in))]
      rfl
    · rw [not_not.mp h_some] at hj
      exact absurd hj List.not_mem_nil

end AffectedBatch

/-- What a failed report needs of a dispatched batch. -/
theorem DispatchedBatch.failureAdmitted_iff (h : DispatchedBatch L b)
    (h_sent : ∀ j ∈ jobsOf L.jobs b, j.sentAt = some sentAt) (h_le : sentAt ≤ observedAt) :
    FailureAdmitted observedAt b (jobsOf L.jobs b) ↔
      (Before b.sealedAt (some observedAt) ∧ Before b.committedAt (some observedAt)) ∧
        ∀ j ∈ jobsOf L.jobs b, Before j.startedAt (some observedAt) := by
  constructor
  · exact fun h' => ⟨h'.block, fun j hj => (h'.jobs j hj (by rw [h.jobs j hj]; decide)).2⟩
  · rintro ⟨h_block, h_started⟩
    refine ⟨h_block, fun j hj _ => ⟨?_, h_started j hj⟩, fun j hj => Or.inl ?_⟩
    · rw [h_sent j hj]
      exact before_some.mpr h_le
    · rw [h.jobs j hj]
      decide

/-- What a failed report needs of the accepted batch. -/
theorem failureAdmitted_accepted_iff
    (h_sent : ∀ j ∈ jobsOf L.jobs b, j.sentAt = some sentAt) (h_le : sentAt ≤ observedAt)
    (h_ok : AcceptanceAdmitted b acceptedAt) :
    FailureAdmitted observedAt (acceptedBlock acceptedAt b)
        ((jobsOf L.jobs b).map (acceptedJob acceptedAt)) ↔
      acceptedAt ≤ observedAt ∧ ∀ j ∈ jobsOf L.jobs b, Before j.startedAt (some observedAt) := by
  constructor
  · intro h'
    refine ⟨before_some.mp h'.block.2, fun j hj => ?_⟩
    exact (h'.jobs _ (List.mem_map_of_mem hj) (by decide : JobState.accepted ∈ activeJobStates)).2
  · rintro ⟨h_accepted, h_started⟩
    have h_commit := before_some.mpr h_accepted
    refine ⟨⟨h_ok.1.trans_some (by simp) h_commit, h_commit⟩, ?_, ?_⟩
    · rw [List.forall_mem_map]
      refine fun j hj _ => ⟨?_, h_started j hj⟩
      change Before j.sentAt _
      rw [h_sent j hj]
      exact before_some.mpr h_le
    · rw [List.forall_mem_map]
      exact fun j _ => Or.inl (by decide : JobState.accepted ∈ activeJobStates)

/-! ### The race -/

/-- Every other affected block admits a failed report. -/
def OthersFail (L : QueueLedger) (b : QueueBlock) (observedAt : Instant) : Prop :=
  ∀ b' ∈ L.blocks, b'.blockId ≠ b.blockId → Affected observedAt b' (jobsOf L.jobs b') →
    FailureAdmitted observedAt b' (jobsOf L.jobs b')

section Race

variable (h : DispatchedBatch s.ledger b) (h_ids : jobs.map (·.jobId) = b.jobIds)
include h h_ids

/-- A completed report is about running jobs, of which neither batch has any. -/
theorem commutes_completed :
    Commutes s b.blockId jobs acceptedAt observedAt .completed revisionIds := by
  -- before the acceptance the jobs are dispatching, and the report skips them
  have h_before : Reported s (report .completed observedAt revisionIds s) b .completed .completed
      False := by
    by_cases h_run : ∃ s', observe .completed observedAt revisionIds s = .ok s'
    · obtain ⟨s', h_s'⟩ := h_run
      have h_report : report .completed observedAt revisionIds s = s' := attempt_of_ok h_s'
      rw [h_report]
      refine Or.inl ⟨not_false, completeRunningJobs_untouched h.mem (fun j hj => ?_) h_s'⟩
      rw [h.jobs j hj]
      decide
    · exact reported_refused h not_false h_run
  refine (commutes_iff False False h h_ids (by decide) h_before fun h_ok => ?_).mpr
    fun _ => Iff.rfl
  refine Or.inl ⟨not_false, ?_⟩
  -- after it they are accepted, and it skips them again
  have h_view := dispatchView_accept h h_ids h_ok
  have h_batch := recordDispatchAcceptance_batch h h_ids (accept_admitted h h_ids h_ok)
  set s₁ := accept b.blockId jobs acceptedAt s
  by_cases h_run : ∃ s', observe .completed observedAt revisionIds s₁ = .ok s'
  · obtain ⟨s', h_s'⟩ := h_run
    have h_report : report .completed observedAt revisionIds s₁ = s' := attempt_of_ok h_s'
    have h_accepted : ∀ j ∈ jobsOf s₁.ledger.jobs (acceptedBlock acceptedAt b),
        j.state = .accepted := by
      rw [h_batch.jobsOf_eq, List.forall_mem_map]
      exact fun j _ => QueueLedger.changedJob_state ..
    obtain ⟨h_mem, h_jobs⟩ := completeRunningJobs_untouched (h_batch.mem h.mem)
      (fun j hj => by rw [h_accepted j hj]; decide) h_s'
    have h_committed : (acceptedBlock acceptedAt b).state = .committed := rfl
    have h_view' := dispatchView_of_mem h_mem h_committed (by rw [h_jobs]; exact h_accepted)
    rw [h_jobs, h_batch.jobsOf_eq, uniformView_map (acceptedJob_identity acceptedAt)] at h_view'
    rw [h_report, ← blockId_of_identity (acceptedBlock_identity acceptedAt b)]
    exact h_view'
  · rw [report_refused h_run]
    exact h_view

variable (h_sent : ∀ j ∈ jobsOf s.ledger.jobs b, j.sentAt = some sentAt)
  (h_le : sentAt ≤ observedAt)
include h_sent h_le

/-- An uncertain report is admitted in both orders. -/
theorem commutes_uncertain :
    Commutes s b.blockId jobs acceptedAt observedAt .uncertain revisionIds := by
  have h_before : Reported s (report .uncertain observedAt revisionIds s) b .uncertain .uncertain
      (jobsOf s.ledger.jobs b ≠ []) := by
    obtain ⟨s', h_s'⟩ := observeUncertain_isOk s observedAt
    have h_report : report .uncertain observedAt revisionIds s = s' := attempt_of_ok h_s'
    rw [h_report]
    exact h.rewritten h_sent h_le (observeUncertain_ok h_s') (fun _ => rfl) (fun _ => rfl)
      (fun _ => rfl) fun _ => rfl
  refine (commutes_iff _ (jobsOf s.ledger.jobs b ≠ []) h h_ids (by decide) h_before
    fun h_ok => ?_).mpr fun _ => Iff.rfl
  have h_batch := recordDispatchAcceptance_batch h h_ids (accept_admitted h h_ids h_ok)
  set s₁ := accept b.blockId jobs acceptedAt s
  obtain ⟨s', h_s'⟩ := observeUncertain_isOk s₁ observedAt
  have h_report : report .uncertain observedAt revisionIds s₁ = s' := attempt_of_ok h_s'
  rw [h_report, not_not]
  exact h_batch.rewritten h.mem (observeUncertain_ok h_s') (fun _ => rfl) (fun _ => rfl)
    (fun _ => rfl) fun _ => rfl

theorem commutes_running_iff :
    Commutes s b.blockId jobs acceptedAt observedAt .running revisionIds ↔
      RaceAgrees s.ledger b acceptedAt observedAt .running := by
  rw [commutes_iff _ _ h h_ids (by decide) (reported_running h h_sent h_le) fun h_ok =>
    running_after h h_ids h_sent h_le h_ok]
  refine imp_congr_right fun _ => ?_
  exact ⟨fun h_iff h_others => (h_iff.mpr h_others).1,
    fun h_own => ⟨And.right, fun h_others => ⟨h_own h_others, h_others⟩⟩⟩

omit h_ids in
/-- A failed report settles the batch as dispatched when the batch and all others admit it. -/
theorem reported_failed : Reported s (report .failed observedAt revisionIds s) b .failed .failed
    (jobsOf s.ledger.jobs b ≠ [] ∧
      ((Before b.sealedAt (some observedAt) ∧ Before b.committedAt (some observedAt)) ∧
        ∀ j ∈ jobsOf s.ledger.jobs b, Before j.startedAt (some observedAt)) ∧
      OthersFail s.ledger b observedAt) := by
  have h_admitted := (observeFailed_isOk s observedAt).trans
    (forall_split (P := fun b' children => Affected observedAt b' children →
      FailureAdmitted observedAt b' children) h.mem)
  rw [h.affected_iff h_sent h_le, h.failureAdmitted_iff h_sent h_le] at h_admitted
  by_cases h_run : ∃ s', observeFailed s observedAt = .ok s'
  · obtain ⟨h_own, h_others⟩ := h_admitted.mp h_run
    obtain ⟨s', h_s'⟩ := h_run
    have h_report : report .failed observedAt revisionIds s = s' := attempt_of_ok h_s'
    rw [h_report]
    rcases h.rewritten h_sent h_le (observeFailed_ok h_s') (fun _ => rfl) (fun _ => rfl)
      (fun _ => rfl) (fun _ => rfl) with ⟨h_none, h_same⟩ | ⟨h_some, h_view⟩
    · exact Or.inl ⟨fun h_moved => h_none h_moved.1, h_same⟩
    · exact Or.inr ⟨⟨h_some, h_own h_some, h_others⟩, h_view⟩
  · refine reported_refused h (fun h_moved => h_run (h_admitted.mpr ?_)) h_run
    exact ⟨fun _ => h_moved.2.1, h_moved.2.2⟩

/-- It settles the accepted batch when it does not come before the acceptance. -/
theorem failed_after (h_ok : AcceptanceAdmitted b acceptedAt) :
    (¬ (jobsOf s.ledger.jobs b ≠ [] ∧ (acceptedAt ≤ observedAt ∧
          ∀ j ∈ jobsOf s.ledger.jobs b, Before j.startedAt (some observedAt)) ∧
          OthersFail s.ledger b observedAt) ∧
        dispatchView (report .failed observedAt revisionIds
          (accept b.blockId jobs acceptedAt s)).ledger b.blockId =
        uniformView (jobsOf s.ledger.jobs b) .committed .accepted) ∨
      ((jobsOf s.ledger.jobs b ≠ [] ∧ (acceptedAt ≤ observedAt ∧
          ∀ j ∈ jobsOf s.ledger.jobs b, Before j.startedAt (some observedAt)) ∧
          OthersFail s.ledger b observedAt) ∧
        dispatchView (report .failed observedAt revisionIds
          (accept b.blockId jobs acceptedAt s)).ledger b.blockId =
        uniformView (jobsOf s.ledger.jobs b) .failed .failed) := by
  have h_view := dispatchView_accept h h_ids h_ok
  have h_batch := recordDispatchAcceptance_batch h h_ids (accept_admitted h h_ids h_ok)
  set s₁ := accept b.blockId jobs acceptedAt s
  -- what the failure asks of the accepted batch, and of every other block
  have h_admitted := (observeFailed_isOk s₁ observedAt).trans
    (h_batch.forall_iff (P := fun b' children => Affected observedAt b' children →
      FailureAdmitted observedAt b' children) h.mem)
  rw [failureAdmitted_accepted_iff h_sent h_le h_ok, affected_accepted_iff] at h_admitted
  by_cases h_run : ∃ s', observeFailed s₁ observedAt = .ok s'
  · obtain ⟨h_own, h_others⟩ := h_admitted.mp h_run
    obtain ⟨s', h_s'⟩ := h_run
    have h_report : report .failed observedAt revisionIds s₁ = s' := attempt_of_ok h_s'
    rw [h_report]
    -- a batch without jobs is not affected, and stays as it was accepted
    rcases h_batch.rewritten h.mem (observeFailed_ok h_s') (fun _ => rfl) (fun _ => rfl)
      (fun _ => rfl) (fun _ => rfl) with ⟨h_none, h_same⟩ | ⟨h_some, h_view'⟩
    · exact Or.inl ⟨fun h_moved => h_moved.1 h_none, h_same⟩
    · exact Or.inr ⟨⟨h_some, h_own h_some, h_others⟩, h_view'⟩
  · refine Or.inl ⟨fun h_moved => h_run (h_admitted.mpr ⟨fun _ => h_moved.2.1, h_moved.2.2⟩), ?_⟩
    have h_same : report .failed observedAt revisionIds s₁ = s₁ := report_refused h_run
    rw [h_same]
    exact h_view

theorem commutes_failed_iff :
    Commutes s b.blockId jobs acceptedAt observedAt .failed revisionIds ↔
      RaceAgrees s.ledger b acceptedAt observedAt .failed := by
  rw [commutes_iff _ _ h h_ids (by decide) (reported_failed h h_sent h_le) fun h_ok =>
    failed_after h h_ids h_sent h_le h_ok]
  refine imp_congr_right fun _ => ?_
  constructor
  · intro h_iff h_others h_some h_started
    exact ⟨fun h_fits => (h_iff.mp ⟨h_some, ⟨h_fits, h_started⟩, h_others⟩).2.1.1,
      fun h_late => (h_iff.mpr ⟨h_some, ⟨h_late, h_started⟩, h_others⟩).2.1.1⟩
  · intro h_agrees
    constructor
    · rintro ⟨h_some, ⟨h_fits, h_started⟩, h_others⟩
      exact ⟨h_some, ⟨(h_agrees h_others h_some h_started).mp h_fits, h_started⟩, h_others⟩
    · rintro ⟨h_some, ⟨h_late, h_started⟩, h_others⟩
      exact ⟨h_some, ⟨(h_agrees h_others h_some h_started).mpr h_late, h_started⟩, h_others⟩

/-- **Acceptance and observation commute** exactly under `RaceAgrees`. -/
theorem acceptance_and_report_commute_iff :
    Commutes s b.blockId jobs acceptedAt observedAt outcome revisionIds ↔
      RaceAgrees s.ledger b acceptedAt observedAt outcome := by
  cases outcome with
  | running => exact commutes_running_iff h h_ids h_sent h_le
  | completed => exact iff_of_true (commutes_completed h h_ids) trivial
  | failed => exact commutes_failed_iff h h_ids h_sent h_le
  | uncertain => exact iff_of_true (commutes_uncertain h h_ids h_sent h_le) trivial

end Race

/-- A batch as the claim leaves it: sealed no later than it was sent, nothing recorded of
its run, and no other block of the ledger open. -/
structure FreshBatch (L : QueueLedger) (b : QueueBlock) (sentAt : Instant) : Prop where
  sealedAt : Before b.sealedAt (some sentAt)
  committedAt : b.committedAt = none
  completedAt : b.completedAt = none
  nonempty : jobsOf L.jobs b ≠ []
  startedAt : ∀ j ∈ jobsOf L.jobs b, j.startedAt = none
  alone : ∀ b' ∈ L.blocks, b'.blockId ≠ b.blockId → b'.state.terminal = true

/-- For a batch fresh from its claim, the one race that is lost is a failure observed
before the acceptance. -/
theorem FreshBatch.raceAgrees_iff (h : FreshBatch L b sentAt) (h_le : sentAt ≤ observedAt)
    (h_le' : sentAt ≤ acceptedAt) : RaceAgrees L b acceptedAt observedAt outcome ↔
      (outcome = .failed → acceptedAt ≤ observedAt) := by
  have h_sealed : ∀ t, sentAt ≤ t → Before b.sealedAt (some t) := fun t h_t =>
    h.sealedAt.trans_some (by simp) (before_some.mpr h_t)
  have h_admitted : ∀ t, sentAt ≤ t → AcceptanceAdmitted b t := by
    intro t h_t
    refine ⟨h_sealed t h_t, ?_⟩
    rw [h.completedAt]
    exact before_none _
  cases outcome with
  | running =>
    exact iff_of_true (fun _ _ => ⟨h.nonempty, h_admitted observedAt h_le⟩) nofun
  | completed => exact iff_of_true trivial nofun
  | uncertain => exact iff_of_true trivial nofun
  | failed =>
    -- all other blocks have ended, so no failure is about them
    have h_others : ∀ b' ∈ L.blocks, b'.blockId ≠ b.blockId →
        ¬ Affected observedAt b' (jobsOf L.jobs b') := by
      intro b' hb' h_ne h_affected
      have h_open := affected_open hb' ((affected_iff hb').mpr h_affected)
      rw [h.alone b' hb' h_ne] at h_open
      exact nomatch h_open
    -- the failure before the acceptance always goes through
    have h_fits : Before b.sealedAt (some observedAt) ∧
        Before b.committedAt (some observedAt) := by
      rw [h.committedAt]
      exact ⟨h_sealed observedAt h_le, nofun⟩
    have h_started : ∀ j ∈ jobsOf L.jobs b, Before j.startedAt (some observedAt) := by
      intro j hj
      rw [h.startedAt j hj]
      exact nofun
    constructor
    · intro h_agrees _
      exact (h_agrees (h_admitted acceptedAt h_le') (fun b' hb' h_ne h_affected =>
        absurd h_affected (h_others b' hb' h_ne)) h.nonempty h_started).mp h_fits
    · exact fun h_late _ _ _ _ => iff_of_true h_fits (h_late rfl)

/-! ### A lost failure -/

/-- One dispatched job: sealed at 0, claimed and sent at 1. -/
def dispatchedState : PlannerState :=
  perform StateCommand.run kitchenState
    [.ledger (.startDueBlock kitchenSnapshot "robot" "key" 0 kitchenIds .nativeBatch
      .plannerAtomic false none), .ledger (.beginNativeBatchCommit "block" 1)]

def dispatchedBlock : QueueBlock :=
  { sealedBlock kitchenSnapshot "robot" "key" 0 kitchenIds .nativeBatch .plannerAtomic with
    state := .committing }

theorem dispatchedBatch : DispatchedBatch dispatchedState.ledger dispatchedBlock :=
  ⟨by decide, rfl, rfl, by decide⟩

theorem dispatchedBatch_sent :
    ∀ j ∈ jobsOf dispatchedState.ledger.jobs dispatchedBlock, j.sentAt = some 1 := by
  decide

/-- A failure observed after the acceptance is kept in either order. -/
theorem acceptance_and_report_commute_failed :
    Commutes dispatchedState "block" (sealedJobs kitchenSnapshot 0 kitchenIds) 2 3 .failed
      kitchenIds :=
  (acceptance_and_report_commute_iff dispatchedBatch (by decide) dispatchedBatch_sent
    (by decide)).mpr fun _ _ _ _ => iff_of_true (by decide) (by decide)

/-- **A failure observed before the acceptance is lost** when the acceptance is recorded
first. -/
theorem acceptance_loses_failure :
    DispatchedBatch dispatchedState.ledger dispatchedBlock ∧
      (∀ j ∈ jobsOf dispatchedState.ledger.jobs dispatchedBlock, j.sentAt = some 1) ∧
      ¬ Commutes dispatchedState "block" (sealedJobs kitchenSnapshot 0 kitchenIds) 3 2 .failed
        kitchenIds := by
  refine ⟨dispatchedBatch, dispatchedBatch_sent, ?_⟩
  unfold Commutes
  decide

end VacuumPlanner
