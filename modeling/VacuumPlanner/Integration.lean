import VacuumPlanner.Commands

/-!
# The integration's commands, block by block

The commands the integration runs on its coordinator keep a block and its jobs in step:
while a block is open, its state determines the state of its jobs up to those that have
ended (`companion`), only a native batch leaves the sealed state, and no job carries an
adapter token.

For blocks in step there are only a few things a command can do to a block and its jobs
together, and `RowStep` lists them: nothing, close the block, move it with all of its jobs
to the next stage, quarantine it with its open jobs, resolve one uncertain job, complete one
running job. One lemma per command says which of them it does (`…_rows`), so an invariant of
the open blocks is shown row by row (`Rows.openBlocks`), without a look at the commands.
-/

namespace VacuumPlanner

open Framework

/-! ### The commands of the integration -/

/-- The commands `__init__.py` and `integration_observer.py` run on the coordinator, and
restart recovery. -/
inductive IntegrationCommand where
  | startDueBlock (snapshot : PlanSnapshot) (laneId idempotencyKey : String) (now : Instant)
      (idFactory : ℕ → String) (dryRun : Bool)
  | cancelPendingBlock (blockId : String) (cancelledAt : Instant)
  | claim (blockId : String) (now : Instant)
  | recordDispatchAcceptance (blockId : String) (jobs : List QueueJob) (acceptedAt : Instant)
  | recordUncertain (blockId : String) (reconciledAt : Instant)
  | observe (outcome : ObservationOutcome) (observedAt : Instant) (revisionIds : ℕ → String)
  | resolveUncertainRun (jobId : String) (resolution : UncertainResolution) (now : Instant)
  | recover (reconciledAt : Instant)

def IntegrationCommand.run : IntegrationCommand → PlannerState → Except PyError PlannerState
  | .startDueBlock snapshot laneId key now idFactory dryRun, s => do
    let result ← VacuumPlanner.startDueBlock s.ledger snapshot laneId key now idFactory
      (if dryRun then .plannerSequential else .nativeBatch) .plannerAtomic false none
    PlannerState.construct s.planRevision result.ledger
  | .cancelPendingBlock blockId cancelledAt, s =>
    VacuumPlanner.cancelPendingBlock s blockId cancelledAt
  | .claim blockId now, s => do
    let claimed ← nativeDispatchClaim blockId now s
    return claimed.1
  | .recordDispatchAcceptance blockId jobs acceptedAt, s =>
    VacuumPlanner.recordDispatchAcceptance s blockId jobs acceptedAt
  | .recordUncertain blockId reconciledAt, s =>
    VacuumPlanner.recordUncertain s blockId reconciledAt
  | .observe outcome observedAt revisionIds, s =>
    VacuumPlanner.observe outcome observedAt revisionIds s
  | .resolveUncertainRun jobId resolution now, s =>
    VacuumPlanner.resolveUncertainRun s jobId resolution now
  | .recover reconciledAt, s => do
    let L ← quarantineAmbiguousDispatches s.ledger reconciledAt
    PlannerState.construct s.planRevision L

/-- What the integration passes: the acceptance of a dispatch names the jobs the block was
sealed with. -/
def Issued (s : PlannerState) : IntegrationCommand → Prop
  | .recordDispatchAcceptance blockId jobs _ =>
    ∀ b ∈ s.ledger.blocks, b.blockId = blockId → jobs.map (·.jobId) = b.jobIds
  | _ => True

/-! ### Blocks in step with their jobs -/

/-- The states of the jobs of an open block. -/
def companion : BlockState → JobState → Bool
  | .sealed, state => state = .pending
  | .committing, state => state = .dispatching
  | .committed, state => state = .accepted
  | .running, state => state = .running || state.terminal
  | .uncertain, state => state = .uncertain || state.terminal
  | _, _ => false

/-- An open block in step with its jobs. -/
structure InStep (b : QueueBlock) (children : List QueueJob) : Prop where
  companions : ∀ j ∈ children, companion b.state j.state = true
  /-- Only a native batch leaves the sealed state. -/
  native : b.state ≠ .sealed → b.dispatchStrategy = .nativeBatch
  tokens : ∀ j ∈ children, j.adapterToken = none

variable {L L' : QueueLedger} {s s' : PlannerState} {b b' : QueueBlock}
  {children : List QueueJob} {g g' : QueueJob → QueueJob} {R : JobState → String → Instant → Prop}
  {P : QueueBlock → List QueueJob → Prop}

/-- The open jobs of a block with the vacuum are active, and carry no correlation. -/
theorem InStep.active (h : InStep b children) (h_state : b.state ∈ activeBlockStates)
    {j : QueueJob} (hj : j ∈ children) (h_open : j.state.terminal = false) :
    isUncorrelatedActive j = true := by
  have h_companion := h.companions j hj
  have h_active : j.state ∈ activeJobStates := by
    revert h_state h_companion h_open
    cases b.state <;> cases j.state <;> decide
  unfold isUncorrelatedActive
  rw [h.tokens j hj, decide_eq_true h_active]
  rfl

theorem companion_inactive {state : BlockState} {jobState : JobState}
    (h : companion state jobState = true) (h_state : state ∉ activeBlockStates) :
    jobState ∉ activeJobStates := by
  revert h h_state
  cases state <;> cases jobState <;> decide

/-- A running job has a running block. -/
theorem InStep.running (h : InStep b children) {j : QueueJob} (hj : j ∈ children)
    (h_j : j.state = .running) : b.state = .running := by
  have h_companion := h.companions j hj
  rw [h_j] at h_companion
  revert h_companion
  cases b.state <;> decide

/-- `P` holds of every open block and its jobs. -/
def OpenBlocks (P : QueueBlock → List QueueJob → Prop) (L : QueueLedger) : Prop :=
  ∀ b ∈ L.blocks, b.state.terminal = false → P b (jobsOf L.jobs b)

theorem OpenBlocks.empty : OpenBlocks P QueueLedger.empty := fun _ h => absurd h List.not_mem_nil

/-- Sealing adds one row and touches no other. -/
theorem OpenBlocks.seals {block : QueueBlock} (h : OpenBlocks P L)
    (h_step : BlockSealed L L' block children) (h_new : P block children) : OpenBlocks P L' := by
  -- the new jobs have a fresh parent
  have h_old : ∀ b ∈ L.blocks, jobsOf L'.jobs b = jobsOf L.jobs b := by
    intro b hb
    unfold jobsOf
    have h_none : children.filter (fun j => decide (j.blockId = b.blockId)) = [] := by
      rw [List.filter_eq_nil_iff]
      intro j hj h_parent
      rw [decide_eq_true_iff, (h_step.pending j hj).1] at h_parent
      exact h_step.fresh hb h_parent.symm
    rw [h_step.jobs, List.filter_append, h_none, List.append_nil]
  -- and no earlier job has it
  have h_block : jobsOf L'.jobs block = children := by
    unfold jobsOf
    have h_none : L.jobs.filter (fun j => decide (j.blockId = block.blockId)) = [] := by
      rw [List.filter_eq_nil_iff]
      intro j hj h_parent
      obtain ⟨b, hb, h_b⟩ := QueueLedger.exists_parent hj
      exact h_step.fresh hb (h_b.trans (of_decide_eq_true h_parent))
    rw [h_step.jobs, List.filter_append, h_none, List.nil_append, List.filter_eq_self]
    exact fun j hj => decide_eq_true (h_step.pending j hj).1
  intro b hb h_open
  rw [h_step.blocks] at hb
  rcases List.mem_append.mp hb with hb | hb
  · rw [h_old b hb]
    exact h b hb h_open
  · obtain rfl := List.mem_singleton.mp hb
    rw [h_block]
    exact h_new

/-- A new block is in step: it is sealed and its jobs are pending. -/
theorem InStep.sealed {block : QueueBlock} (h_step : BlockSealed L L' block children) :
    InStep block children where
  companions j hj := by
    rw [h_step.state, (h_step.pending j hj).2.1]
    rfl
  native h_ne := absurd h_step.state h_ne
  tokens j hj := (h_step.pending j hj).2.2.2

/-! ### Rows -/

/-- The stages a block and all of its jobs reach together. -/
def stages : List (BlockState × JobState) :=
  [(.committing, .dispatching), (.committed, .accepted), (.running, .running)]

/-- The states a command closes a block in. None of them rejects a block. -/
def closedStates : List BlockState := [.completed, .partial', .failed, .cancelled]

theorem closed_terminal {state : BlockState} (h : state ∈ closedStates) :
    state.terminal = true := by
  revert h
  cases state <;> decide

/-- What a command may do to an open block `b` in step with its jobs: `b'` is the block
afterwards, `g` rewrites the jobs. `R` says which jobs may be ended one by one, in which state and
when. -/
inductive RowStep (R : JobState → String → Instant → Prop) (b : QueueBlock)
    (children : List QueueJob) : QueueBlock → (QueueJob → QueueJob) → Prop where
  | same (g : QueueJob → QueueJob) (hg : ∀ j ∈ children, g j = j) : RowStep R b children b g
  | closes (b' : QueueBlock) (g : QueueJob → QueueJob) (h : b'.state ∈ closedStates) :
    RowStep R b children b' g
  | moves (b' : QueueBlock) (g : QueueJob → QueueJob) (target : JobState)
      (stage : (b'.state, target) ∈ stages) (identity : b'.identity = b.identity)
      (native : b.dispatchStrategy = .nativeBatch) (completedAt : b'.completedAt = b.completedAt)
      (hg : ∀ j ∈ children, (g j).state = target ∧ (g j).adapterToken = j.adapterToken) :
    RowStep R b children b' g
  | quarantines (g : QueueJob → QueueJob) (h_state : b.state ∈ activeBlockStates)
      (hg : ∀ j ∈ children, g j = if j.state.terminal then j else { j with state := .uncertain }) :
    RowStep R b children { b with state := .uncertain } g
  | resolves (g : QueueJob → QueueJob) (j : QueueJob) (resolvedAt : Instant) (remaining : Bool)
      (hj : j ∈ children) (h_j : j.state = .uncertain) (h_state : b.state = .uncertain)
      (h_R : R .uncertain j.jobId resolvedAt) (lifecycle : JobLifecycle (resolvedJob resolvedAt j))
      (hg : ∀ k ∈ children, g k = updateIf (·.jobId = j.jobId) (resolvedJob resolvedAt) k)
      (h_remaining : remaining = true ↔
        ∃ k ∈ children, k.jobId ≠ j.jobId ∧ k.state = .uncertain) :
    RowStep R b children (releasedBlock remaining resolvedAt b) g
  | completes (g : QueueJob → QueueJob) (j : QueueJob) (completedAt : Instant)
      (h_state : b.state = .running) (h_R : R .running j.jobId completedAt)
      (hg : ∀ k ∈ children, g k = updateIf (·.jobId = j.jobId)
        (QueueLedger.changedJob .completed completedAt none none none) k)
      (h_open : ∃ k ∈ children, (g k).state.terminal = false) :
    RowStep R b children b g

/-- Only what the rewrite does to the jobs of the block counts. -/
theorem RowStep.congr (h : RowStep R b children b' g) (hg' : ∀ j ∈ children, g' j = g j) :
    RowStep R b children b' g' := by
  cases h with
  | same _ hg => exact .same g' fun j hj => (hg' j hj).trans (hg j hj)
  | closes _ _ h => exact .closes b' g' h
  | moves _ _ target stage identity native completedAt hg =>
    exact .moves b' g' target stage identity native completedAt fun j hj =>
      (hg' j hj).symm ▸ hg j hj
  | quarantines _ h_state hg =>
    exact .quarantines g' h_state fun j hj => (hg' j hj).trans (hg j hj)
  | resolves _ j resolvedAt remaining hj h_j h_state h_R lifecycle hg h_remaining =>
    exact .resolves g' j resolvedAt remaining hj h_j h_state h_R lifecycle
      (fun k hk => (hg' k hk).trans (hg k hk)) h_remaining
  | completes _ j completedAt h_state h_R hg h_open =>
    obtain ⟨k, hk, h_k⟩ := h_open
    exact .completes g' j completedAt h_state h_R (fun k hk => (hg' k hk).trans (hg k hk))
      ⟨k, hk, (hg' k hk).symm ▸ h_k⟩

/-- A command does one of these things to every open block. -/
def Rows (R : JobState → String → Instant → Prop) (L L' : QueueLedger) : Prop :=
  ∃ (f : QueueBlock → QueueBlock) (g : QueueJob → QueueJob),
    L'.blocks = L.blocks.map f ∧ L'.jobs = L.jobs.map g ∧
    (∀ j, (g j).identity = j.identity) ∧ (∀ b ∈ L.blocks, BlockKept b (f b)) ∧
    ∀ b ∈ L.blocks, b.state.terminal = false → RowStep R b (jobsOf L.jobs b) (f b) g

theorem Rows.refl (R : JobState → String → Instant → Prop) (L : QueueLedger) : Rows R L L :=
  ⟨id, id, (List.map_id _).symm, (List.map_id _).symm, fun _ => rfl,
    fun b _ => BlockKept.refl b, fun _ _ _ => .same id fun _ _ => rfl⟩

/-- **Row by row.** What every row step keeps of an open block is kept by the command. -/
theorem Rows.openBlocks (h_rows : Rows R L L') (h : OpenBlocks P L)
    (step : ∀ b ∈ L.blocks, ∀ b' g, RowStep R b (jobsOf L.jobs b) b' g →
      b'.state.terminal = false → P b (jobsOf L.jobs b) → P b' ((jobsOf L.jobs b).map g)) :
    OpenBlocks P L' := by
  obtain ⟨f, g, h_blocks, h_jobs, hg, h_kept, h_row⟩ := h_rows
  intro b' hb' h_open'
  rw [h_blocks] at hb'
  obtain ⟨b, hb, rfl⟩ := List.mem_map.mp hb'
  -- a terminal block is frozen, so the block was open before
  have h_open : b.state.terminal = false := by
    by_contra h_terminal
    rw [(h_kept b hb).frozen (Bool.eq_true_of_not_eq_false h_terminal)] at h_open'
    exact h_terminal h_open'
  have h_children : jobsOf L'.jobs (f b) = (jobsOf L.jobs b).map g := by
    rw [jobsOf_congr _ (blockId_of_identity (h_kept b hb).identity), h_jobs, jobsOf_map hg]
  rw [h_children]
  exact step b hb (f b) g (h_row b hb h_open) h_open' (h b hb h_open)

/-- The rows of a rewrite. -/
theorem Rows.of_rewrites {S : QueueJob → QueueJob → Prop} {f : QueueBlock → QueueBlock}
    (h_step : Rewrites S L L') (h_blocks : L'.blocks = L.blocks.map f)
    (h_jobs : L'.jobs = L.jobs.map g) (hg : ∀ j, (g j).identity = j.identity)
    (row : ∀ b ∈ L.blocks, b.state.terminal = false →
      RowStep R b (jobsOf L.jobs b) (f b) g) : Rows R L L' := by
  refine ⟨f, g, h_blocks, h_jobs, hg, fun b hb => ?_, row⟩
  obtain ⟨i, h_i⟩ := List.getElem?_of_mem hb
  refine h_step.blocks.related i b (f b) h_i ?_
  rw [h_blocks, List.getElem?_map, h_i, Option.map_some]

/-- The rows of a command that rewrites one block with all of its jobs. -/
theorem Rows.of_block {S : QueueJob → QueueJob → Prop} {f : QueueBlock → QueueBlock}
    {blockId : String} (h_step : Rewrites S L L')
    (h_blocks : L'.blocks = L.blocks.map (updateIf (·.blockId = blockId) f))
    (h_jobs : L'.jobs = L.jobs.map (updateIf (·.blockId = blockId) g))
    (hg : ∀ j, (g j).identity = j.identity)
    (row : ∀ b ∈ L.blocks, b.blockId = blockId → b.state.terminal = false →
      RowStep R b (jobsOf L.jobs b) (f b) g) : Rows R L L' := by
  refine .of_rewrites h_step h_blocks h_jobs (QueueJob.identity_updateIf hg) ?_
  intro b hb h_open
  by_cases h_id : b.blockId = blockId
  · rw [updateIf_pos (by simpa using h_id)]
    refine (row b hb h_id h_open).congr fun j hj => updateIf_pos ?_
    simpa [h_id] using (mem_jobsOf.mp hj).2
  · rw [updateIf_neg (by simpa using h_id)]
    refine .same _ fun j hj => updateIf_neg ?_
    rw [(mem_jobsOf.mp hj).2]
    simpa using h_id

/-- A resolution leaves the other jobs uncertain in a block that stays quarantined. Once nothing
uncertain is left they have all ended, whatever state the block resumes. -/
theorem InStep.resolved {j : QueueJob} {resolvedAt : Instant} {remaining : Bool}
    (h_b : InStep b children) (h_state : b.state = .uncertain)
    (h_remaining : remaining = true ↔ ∃ k ∈ children, k.jobId ≠ j.jobId ∧ k.state = .uncertain)
    (h_open' : (releasedBlock remaining resolvedAt b).state.terminal = false) :
    InStep (releasedBlock remaining resolvedAt b)
      (children.map (updateIf (·.jobId = j.jobId) (resolvedJob resolvedAt))) := by
  have h_native : b.dispatchStrategy = .nativeBatch := h_b.native (by rw [h_state]; decide)
  -- with the block uncertain, its jobs are uncertain or have ended
  have h_companion : ∀ k ∈ children, k.state = .uncertain ∨ k.state.terminal = true := by
    intro k hk
    have h_k := h_b.companions k hk
    rw [h_state] at h_k
    exact (Bool.or_eq_true_iff.mp h_k).imp_left fun h => of_decide_eq_true h
  refine ⟨?_, fun _ => ?_, ?_⟩
  · rw [List.forall_mem_map]
    intro k hk
    by_cases h_id : k.jobId = j.jobId
    · rw [updateIf_pos (by simpa using h_id)]
      revert h_open'
      unfold releasedBlock resumedState
      repeat' split
      all_goals simp [companion, resolvedJob, JobState.terminal, BlockState.terminal]
      next h_batch h_commit => exact absurd ⟨h_native, not_not.mp h_commit⟩ h_batch
    · rw [updateIf_neg (by simpa using h_id)]
      unfold releasedBlock at h_open' ⊢
      by_cases h_rem : remaining = true
      · rw [if_pos h_rem]
        exact Bool.or_eq_true_iff.mpr ((h_companion k hk).imp_left fun h => decide_eq_true h)
      · rw [if_neg h_rem] at h_open' ⊢
        have h_ended : k.state.terminal = true := (h_companion k hk).resolve_left fun h =>
          h_rem (h_remaining.mpr ⟨k, hk, h_id, h⟩)
        -- an uncommitted native batch fails with its last job, so this one was committed
        by_cases h_commit : b.committedAt = none
        · rw [if_pos ⟨h_native, h_commit⟩] at h_open'
          have h_closed : BlockState.failed.terminal = false := h_open'
          exact absurd h_closed (by decide)
        · rw [if_neg fun h => h_commit h.2]
          change companion (resumedState b) k.state = true
          unfold resumedState
          rw [if_pos h_commit]
          exact Bool.or_eq_true_iff.mpr (Or.inr h_ended)
  · exact (strategy_of_identity (releasedBlock_identity ..)).trans h_native
  · rw [List.forall_mem_map]
    intro k hk
    unfold updateIf
    split <;> exact h_b.tokens k hk

/-- **Rows stay in step.** -/
theorem RowStep.inStep (h : RowStep R b children b' g) (h_b : InStep b children)
    (h_open' : b'.state.terminal = false) : InStep b' (children.map g) := by
  cases h with
  | same _ hg =>
    rw [(List.map_congr_left hg).trans (List.map_id _)]
    exact h_b
  | closes _ _ h =>
    -- a closed block is not open, so nothing is claimed of it
    rw [closed_terminal h] at h_open'
    exact absurd h_open'.symm Bool.false_ne_true
  | moves _ _ target stage identity native completedAt hg =>
    refine ⟨?_, fun _ => (strategy_of_identity identity).trans native, ?_⟩
    · rw [List.forall_mem_map]
      intro j hj
      rw [(hg j hj).1]
      -- the stage pairs the block's new state with the jobs' target; finitely many pairs
      revert stage
      cases b'.state <;> cases target <;> decide
    · rw [List.forall_mem_map]
      intro j hj
      rw [(hg j hj).2]
      exact h_b.tokens j hj
  | quarantines _ h_state hg =>
    rw [List.map_congr_left hg]
    refine ⟨?_, fun _ => h_b.native ?_, ?_⟩
    · rw [List.forall_mem_map]
      intro j hj
      -- a job that has ended keeps its state, every other is uncertain with its block
      split
      · next h_terminal => exact Bool.or_eq_true_iff.mpr (Or.inr h_terminal)
      · rfl
    · intro h_sealed
      rw [h_sealed] at h_state
      exact absurd h_state (by decide)
    · rw [List.forall_mem_map]
      intro j hj
      split <;> exact h_b.tokens j hj
  | resolves _ j resolvedAt remaining hj h_j h_state h_R lifecycle hg h_remaining =>
    rw [List.map_congr_left hg]
    exact h_b.resolved h_state h_remaining h_open'
  | completes _ j completedAt h_state h_R hg h_open =>
    rw [List.map_congr_left hg]
    refine ⟨?_, h_b.native, ?_⟩
    · rw [List.forall_mem_map, h_state]
      intro k hk
      have h_k := h_b.companions k hk
      rw [h_state] at h_k
      -- the completed job is terminal; its siblings are as they were
      unfold updateIf
      split
      · rfl
      · exact h_k
    · rw [List.forall_mem_map]
      intro k hk
      unfold updateIf
      split <;> exact h_b.tokens k hk

/-! ### The commands, one by one -/

/-- Cancelling closes the block. -/
theorem cancelPendingBlock_rows {blockId : String} {cancelledAt : Instant}
    (h_run : cancelPendingBlock s blockId cancelledAt = .ok s') : Rows R s.ledger s'.ledger := by
  obtain ⟨-, -, -, -, -, h_blocks, h_jobs, h_step⟩ := cancelPendingBlock_ok h_run
  refine .of_block h_step h_blocks h_jobs (fun _ => by simp) fun b _ _ _ => .closes _ _ ?_
  rw [QueueLedger.changedBlock_state]
  decide

/-- The claim commits the block and dispatches its jobs. -/
theorem beginNativeBatchCommit_rows {blockId : String} {sentAt : Instant}
    (h_run : beginNativeBatchCommit L blockId sentAt = .ok L') : Rows R L L' := by
  obtain ⟨b, hb, h_id, -, h_native, -, -, h_blocks, h_jobs, -⟩ := beginNativeBatchCommit_ok h_run
  refine .of_block (beginNativeBatchCommit_rewrites blockId h_run) h_blocks h_jobs
    (fun _ => rfl) ?_
  intro b' hb' h_id' _
  obtain rfl := L.block_eq hb' hb (h_id'.trans h_id.symm)
  exact .moves _ _ .dispatching (by simp [stages]) rfl h_native rfl fun _ _ => ⟨rfl, rfl⟩

/-- Quarantining a dispatch makes the block and its jobs uncertain. -/
theorem quarantineBlockDispatch_rows {blockId : String} {reconciledAt : Instant}
    (h_run : quarantineBlockDispatch L blockId reconciledAt = .ok L') : Rows R L L' := by
  obtain ⟨b, hb, h_id, h_state, -, -, h_sent, h_blocks, h_jobs, -⟩ :=
    quarantineBlockDispatch_ok h_run
  refine .of_block (quarantineBlockDispatch_rewrites h_run) h_blocks h_jobs (fun _ => rfl) ?_
  intro b' hb' h_id' _
  obtain rfl := L.block_eq hb' hb (h_id'.trans h_id.symm)
  refine .quarantines _ (by rw [h_state]; decide) fun j hj => (if_neg ?_).symm
  obtain ⟨h_mem, h_parent⟩ := mem_jobsOf.mp hj
  rw [h_sent j h_mem (h_parent.trans h_id)]
  decide

/-- The acceptance commits the block and accepts every job of it. -/
theorem recordDispatchAcceptance_rows {blockId : String} {jobs : List QueueJob}
    {acceptedAt : Instant} (h : OpenBlocks InStep s.ledger)
    (h_ids : ∀ b ∈ s.ledger.blocks, b.blockId = blockId → jobs.map (·.jobId) = b.jobIds)
    (h_run : recordDispatchAcceptance s blockId jobs acceptedAt = .ok s') :
    Rows R s.ledger s'.ledger := by
  obtain ⟨b, hb, rfl, ⟨-, rfl⟩ | ⟨h_state, -, h_blocks, h_jobs, h_step⟩⟩ :=
    recordDispatchAcceptance_ok h_run
  · exact .refl R _
  rw [map_movedJob_block hb (h_ids b hb rfl)] at h_jobs
  refine .of_block h_step h_blocks h_jobs (fun _ => by simp) ?_
  intro b' hb' h_id' h_open
  obtain rfl := QueueLedger.block_eq hb' hb h_id'
  have h_native := (h b' hb' h_open).native (by rw [h_state]; decide)
  exact .moves _ _ .accepted (by simp [stages]) (QueueLedger.changedBlock_identity ..) h_native rfl
    fun _ _ => ⟨rfl, rfl⟩

/-- A job that is uncertain, or with the vacuum without a correlation, is open. -/
theorem open_of_uncertainty {j : QueueJob}
    (h : (decide (j.state = .uncertain) || isUncorrelatedActive j) = true) :
    j.state.terminal = false := by
  rcases Bool.or_eq_true_iff.mp h with h | h
  · rw [of_decide_eq_true h]
    rfl
  · exact active_open (of_decide_eq_true (Bool.and_eq_true_iff.mp h).1)

/-- In an uncertain block in step, the uncertainty a resolution leaves is that of the other
uncertain jobs. -/
theorem hasRemainingUncertainty_iff {j : QueueJob} {resolvedAt : Instant}
    {jobs' : List QueueJob} (h_state : b.state = .uncertain) (h_b : InStep b (jobsOf L.jobs b))
    (h_jobs : jobs' = L.jobs.map (updateIf (·.jobId = j.jobId) (resolvedJob resolvedAt))) :
    hasRemainingUncertainty jobs' b = true ↔
      ∃ k ∈ jobsOf L.jobs b, k.jobId ≠ j.jobId ∧ k.state = .uncertain := by
  have h_resolved : ∀ k : QueueJob,
      (updateIf (·.jobId = j.jobId) (resolvedJob resolvedAt) k).blockId = k.blockId := fun k =>
    parent_of_identity (QueueJob.identity_updateIf (by exact fun _ => rfl) k)
  unfold hasRemainingUncertainty
  rw [List.any_eq_true]
  constructor
  · rintro ⟨k', hk', h_k'⟩
    rw [h_jobs] at hk'
    obtain ⟨k, hk, rfl⟩ := List.mem_map.mp hk'
    obtain ⟨h_parent, h_open⟩ := Bool.and_eq_true_iff.mp h_k'
    have h_parent : k.blockId = b.blockId := (h_resolved k).symm.trans (of_decide_eq_true h_parent)
    have h_open := open_of_uncertainty h_open
    have hk : k ∈ jobsOf L.jobs b := mem_jobsOf.mpr ⟨hk, h_parent⟩
    -- the job that is resolved has ended
    by_cases h_id : k.jobId = j.jobId
    · rw [updateIf_pos (by simpa using h_id)] at h_open
      exact nomatch h_open
    · rw [updateIf_neg (by simpa using h_id)] at h_open
      -- the block is uncertain, so an open job of it is uncertain too
      have h_companion := h_b.companions k hk
      rw [h_state] at h_companion
      refine ⟨k, hk, h_id, ?_⟩
      revert h_companion h_open
      cases k.state <;> decide
  · rintro ⟨k, hk, h_id, h_k⟩
    obtain ⟨h_mem, h_parent⟩ := mem_jobsOf.mp hk
    refine ⟨k, ?_, by simp [h_parent, h_k]⟩
    rw [h_jobs]
    exact List.mem_map.mpr ⟨k, h_mem, updateIf_neg (by simpa using h_id)⟩

/-- A resolution fails one uncertain job, and lets go of its block with the last of them. -/
theorem resolveUncertainJob_rows {jobId : String} {resolution : UncertainResolution}
    {now : Instant} (h : OpenBlocks InStep L)
    (h_run : resolveUncertainJob L jobId resolution now = .ok L') :
    Rows (fun state id resolvedAt => state = .uncertain ∧ id = jobId ∧ resolvedAt = now) L L' := by
  have h_step := resolveUncertainJob_rewrites h_run
  obtain ⟨j, hj, rfl, h_j, b, hb, h_parent, h_b, h_jobs, h_blocks, -⟩ :=
    resolveUncertainJob_ok h_run
  have h_resolved : resolvedJob now j ∈ L'.jobs := by
    rw [h_jobs, List.mem_map]
    exact ⟨j, hj, updateIf_pos (by simp)⟩
  refine .of_rewrites h_step h_blocks h_jobs (QueueJob.identity_updateIf fun _ => rfl) ?_
  intro b' hb' h_open
  by_cases h_id : b'.blockId = b.blockId
  · obtain rfl := L.block_eq hb' hb h_id
    rw [updateIf_pos (by simp)]
    -- the block of the job, which stays uncertain while another job of it is
    exact .resolves _ j now _ (mem_jobsOf.mpr ⟨hj, h_parent.symm⟩) h_j h_b ⟨rfl, rfl, rfl⟩
      (L'.jobLifecycle h_resolved) (fun _ _ => rfl)
      (hasRemainingUncertainty_iff h_b (h b' hb' h_open) h_jobs)
  · rw [updateIf_neg (by simpa using h_id)]
    refine .same _ fun k hk => updateIf_neg fun h_same => h_id ?_
    obtain ⟨h_mem, h_k⟩ := mem_jobsOf.mp hk
    rw [← h_k, eq_of_key L.valid.jobIds h_mem hj (of_decide_eq_true h_same), h_parent]

/-- Restart recovery makes every block with the vacuum uncertain, with its open jobs. -/
theorem quarantineAmbiguousDispatches_rows {reconciledAt : Instant} (h : OpenBlocks InStep L)
    (h_run : quarantineAmbiguousDispatches L reconciledAt = .ok L') : Rows R L L' := by
  obtain ⟨h_blocks, h_jobs, -⟩ := quarantineAmbiguousDispatches_ok h_run
  refine .of_rewrites (quarantineAmbiguousDispatches_rewrites h_run) h_blocks h_jobs
    (QueueJob.identity_updateIf fun _ => rfl) ?_
  intro b hb h_open
  have h_b := h b hb h_open
  by_cases h_state : b.state ∈ activeBlockStates
  -- an open job of an active block is active, and uncorrelated
  · have h_jobs : ∀ j ∈ jobsOf L.jobs b, updateIf isUncorrelatedActive
        (fun j => { j with state := .uncertain }) j =
          if j.state.terminal then j else { j with state := .uncertain } := by
      intro j hj
      cases h_terminal : j.state.terminal with
      | false => exact updateIf_pos (h_b.active h_state hj h_terminal)
      | true =>
        refine updateIf_neg fun h_active => ?_
        rw [active_open (of_decide_eq_true (Bool.and_eq_true_iff.mp h_active).1)] at h_terminal
        exact Bool.false_ne_true h_terminal
    by_cases h_ambiguous : isAmbiguous L.jobs b = true
    · rw [updateIf_pos (by rw [h_ambiguous, decide_eq_true h_state]; rfl)]
      exact .quarantines _ h_state h_jobs
    · -- a correlated block is left alone, and none of its jobs is open
      rw [updateIf_neg (by rw [Bool.and_eq_true]; exact fun h => h_ambiguous h.1)]
      refine .same _ fun j hj => updateIf_neg fun h_active => h_ambiguous ?_
      obtain ⟨h_mem, h_parent⟩ := mem_jobsOf.mp hj
      refine Bool.or_eq_true_iff.mpr (Or.inr (List.any_eq_true.mpr ⟨j, h_mem, ?_⟩))
      rw [decide_eq_true h_parent, h_active]
      rfl
  · rw [updateIf_neg (by rw [decide_eq_false h_state, Bool.and_false]; exact Bool.false_ne_true)]
    -- under any other block no job is active
    exact .same _ fun j hj => updateIf_neg fun h_active =>
      companion_inactive (h_b.companions j hj) h_state
        (of_decide_eq_true (Bool.and_eq_true_iff.mp h_active).1)

/-! ### Observations -/

/-- A running report starts the dispatching blocks and runs the committed ones. -/
theorem observeRunning_rows {observedAt : Instant} (h : OpenBlocks InStep s.ledger)
    (h_run : observeRunning s observedAt = .ok s') : Rows R s.ledger s'.ledger := by
  obtain ⟨-, h_blocks, h_jobs, h_step⟩ := observeRunning_ok h_run
  refine .of_rewrites h_step h_blocks h_jobs (observedRunningJob_identity _ _) ?_
  intro b hb h_open
  have h_b := h b hb h_open
  by_cases h_sel : b.blockId ∈ dispatchingBlockIds s.ledger observedAt
  · -- the block was committing, so its jobs were dispatching
    have h_state := committing_of_dispatching hb h_sel
    rw [observedRunningBlock_dispatching h_sel]
    refine .moves _ _ .running (by simp [stages]) rfl (h_b.native (by rw [h_state]; decide)) rfl
      fun j hj => ?_
    have h_companion := h_b.companions j hj
    rw [h_state] at h_companion
    rw [observedRunningJob_dispatching ((mem_jobsOf.mp hj).2.symm ▸ h_sel)
      (of_decide_eq_true h_companion)]
    exact ⟨rfl, rfl⟩
  · by_cases h_state : b.state = .committed
    · rw [observedRunningBlock_committed hb h_state]
      refine .moves _ _ .running (by simp [stages]) rfl (h_b.native (by rw [h_state]; decide)) rfl
        fun j hj => ?_
      have h_companion := h_b.companions j hj
      rw [h_state] at h_companion
      rw [observedRunningJob_accepted hb (mem_jobsOf.mp hj).2 (by rw [h_state]; decide)
        (of_decide_eq_true h_companion)]
      exact ⟨rfl, rfl⟩
    -- any other block is as it was, and so are its jobs
    · rw [observedRunningBlock_other h_sel h_state]
      refine .same _ fun j hj => ?_
      obtain ⟨-, h_parent⟩ := mem_jobsOf.mp hj
      refine observedRunningJob_other ?_ ?_
      · rw [h_parent]
        exact fun h_j => h_sel h_j.1
      · rintro ⟨-, h_accepted⟩
        have h_companion := h_b.companions j hj
        rw [h_accepted] at h_companion
        revert h_companion h_state
        cases b.state <;> decide

/-- A failed report closes the blocks it affects. -/
theorem observeFailed_rows {observedAt : Instant} (h_run : observeFailed s observedAt = .ok s') :
    Rows R s.ledger s'.ledger := by
  have h_affected := observeFailed_ok h_run
  refine .of_rewrites (observeFailed_rewrites h_run) h_affected.blocks h_affected.jobs
    (QueueJob.identity_updateIf fun _ => rfl) ?_
  intro b _ _
  by_cases h_sel : b.blockId ∈ affectedBlockIds s.ledger observedAt
  · rw [updateIf_pos (by simpa using h_sel)]
    exact .closes _ _ (show BlockState.failed ∈ closedStates by decide)
  · rw [updateIf_neg (by simpa using h_sel)]
    refine .same _ fun j hj => updateIf_neg ?_
    rw [decide_eq_true_iff, (mem_jobsOf.mp hj).2]
    exact fun h_j => h_sel h_j.1

/-- An affected block is with the vacuum. -/
theorem affected_active {observedAt : Instant} (h : OpenBlocks InStep L) (hb : b ∈ L.blocks)
    (h_sel : b.blockId ∈ affectedBlockIds L observedAt) : b.state ∈ activeBlockStates := by
  obtain ⟨j, hj, h_parent, h_active⟩ := exists_active_of_affected h_sel
  have h_b := h b hb (affected_open hb h_sel)
  by_contra h_state
  exact companion_inactive (h_b.companions j (mem_jobsOf.mpr ⟨hj, h_parent⟩)) h_state h_active

/-- An uncertain report quarantines the blocks it affects with their open jobs. -/
theorem observeUncertain_rows {observedAt : Instant} (h : OpenBlocks InStep s.ledger)
    (h_run : observeUncertain s observedAt = .ok s') : Rows R s.ledger s'.ledger := by
  have h_affected := observeUncertain_ok h_run
  refine .of_rewrites (observeUncertain_rewrites h_run) h_affected.blocks h_affected.jobs
    (QueueJob.identity_updateIf fun _ => rfl) ?_
  intro b hb h_open
  have h_b := h b hb h_open
  by_cases h_sel : b.blockId ∈ affectedBlockIds s.ledger observedAt
  · have h_state := affected_active h hb h_sel
    rw [updateIf_pos (by simpa using h_sel)]
    refine .quarantines _ h_state fun j hj => ?_
    have h_id := (mem_jobsOf.mp hj).2
    -- an open job of an active block is active, an ended one is not
    cases h_terminal : j.state.terminal with
    | false =>
      have h_active := of_decide_eq_true
        (Bool.and_eq_true_iff.mp (h_b.active h_state hj h_terminal)).1
      exact updateIf_pos (by simpa [h_id] using ⟨h_sel, h_active⟩)
    | true =>
      refine updateIf_neg fun h_j => ?_
      rw [active_open (of_decide_eq_true h_j).2] at h_terminal
      exact Bool.false_ne_true h_terminal
  · rw [updateIf_neg (by simpa using h_sel)]
    -- a block that is not affected keeps its jobs
    refine .same _ fun j hj => updateIf_neg ?_
    rw [decide_eq_true_iff, (mem_jobsOf.mp hj).2]
    exact fun h_j => h_sel h_j.1

/-- Completing a running job keeps its block running while a job of it is open, and closes
it with the last one. -/
theorem completeRunningJob_rows {observedAt : Instant} {entry : String × String}
    (h : OpenBlocks InStep s.ledger) (h_run : completeRunningJob observedAt s entry = .ok s') :
    Rows (fun state _ _ => state = .running) s.ledger s'.ledger := by
  have h_step := completeRunningJob_rewrites h_run
  obtain ⟨j, hj, -, h_running, h_jobs, f, h_blocks, h_f⟩ := completeRunningJob_ok h_run
  have h_completed : ∀ k : QueueJob, (QueueLedger.changedJob .completed observedAt none none
      none k).identity = k.identity :=
    QueueLedger.changedJob_identity .completed observedAt none none none
  refine .of_rewrites h_step h_blocks h_jobs (QueueJob.identity_updateIf h_completed) ?_
  intro b hb h_open
  by_cases h_id : b.blockId = j.blockId
  · rw [updateIf_pos (by simpa using h_id)]
    -- an open job keeps the block running; without one it closes
    rcases h_f with ⟨h_same, k, hk, h_k_parent, h_k⟩ | h_closed
    · have h_state := (h b hb h_open).running (mem_jobsOf.mpr ⟨hj, h_id.symm⟩) h_running
      rw [h_same b]
      refine .completes _ j observedAt h_state rfl (fun _ _ => rfl) ?_
      rw [h_jobs] at hk
      obtain ⟨k₀, hk₀, rfl⟩ := List.mem_map.mp hk
      rw [parent_of_identity (QueueJob.identity_updateIf h_completed k₀)] at h_k_parent
      exact ⟨k₀, mem_jobsOf.mpr ⟨hk₀, h_k_parent.trans h_id.symm⟩, h_k⟩
    · refine .closes _ _ ?_
      have h_b := h_closed b
      revert h_b
      cases (f b).state <;> decide
  · rw [updateIf_neg (by simpa using h_id)]
    -- the job is of one block, and the others keep theirs
    refine .same _ fun k hk => updateIf_neg fun h_k => h_id ?_
    obtain ⟨h_mem, h_parent⟩ := mem_jobsOf.mp hk
    rw [← h_parent, eq_of_key s.ledger.valid.jobIds h_mem hj (of_decide_eq_true h_k)]

/-- The loop of `_completed` keeps what every one of its rounds keeps. -/
theorem completeRunningJobs_keeps {I : QueueLedger → Prop} {observedAt : Instant}
    {entries : List (String × String)} (h_inStep : ∀ {L}, I L → OpenBlocks InStep L)
    (rows : ∀ {L L'}, I L → Rows (fun state _ _ => state = .running) L L' → I L')
    (h : I s.ledger)
    (h_run : entries.foldlM (completeRunningJob observedAt) s = .ok s') : I s'.ledger := by
  induction entries generalizing s with
  | nil =>
    obtain rfl : s = s' := pure_eq_ok.mp h_run
    exact h
  | cons entry entries ih =>
    rw [List.foldlM_cons] at h_run
    obtain ⟨s₁, h₁, h_rest⟩ := bind_eq_ok.mp h_run
    exact ih (rows h (completeRunningJob_rows (h_inStep h) h₁)) h_rest

/-! ### Every command -/

/-- The job a command resolves, and when. -/
def IntegrationCommand.Resolves : IntegrationCommand → JobState → String → Instant → Prop
  | .resolveUncertainRun jobId _ now => fun state id resolvedAt =>
    state = .uncertain ∧ id = jobId ∧ resolvedAt = now
  | _ => fun _ _ _ => False

/-- A command seals a new block, completes the running jobs one by one, or does one thing to
every open block. -/
theorem IntegrationCommand.run_rows {c : IntegrationCommand} (h : OpenBlocks InStep s.ledger)
    (h_issued : Issued s c) (h_run : c.run s = .ok s') :
    (∃ block children, BlockSealed s.ledger s'.ledger block children) ∨
      (∃ observedAt revisionIds, c = .observe .completed observedAt revisionIds ∧
        observeCompleted s observedAt revisionIds = .ok s') ∨
      Rows c.Resolves s.ledger s'.ledger := by
  cases c with
  | startDueBlock snapshot laneId key now idFactory dryRun =>
    obtain ⟨result, h_result, h_state⟩ := bind_eq_ok.mp h_run
    obtain ⟨-, h_ledger⟩ := PlannerState.construct_eq_ok.mp h_state
    rw [h_ledger]
    -- only a new block is sealed; the other results leave the ledger
    rcases startDueBlock_ok h_result with
      ⟨b, -, -, -, rfl⟩ | ⟨-, rfl⟩ | ⟨b, children, -, -, -, h_sealed, -⟩
    · exact Or.inr (Or.inr (.refl _ _))
    · exact Or.inr (Or.inr (.refl _ _))
    · exact Or.inl ⟨b, children, h_sealed⟩
  | cancelPendingBlock => exact Or.inr (Or.inr (cancelPendingBlock_rows h_run))
  | claim blockId now =>
    obtain ⟨⟨claimed, flag⟩, h_claim, h_state⟩ := bind_eq_ok.mp h_run
    obtain rfl : claimed = s' := pure_eq_ok.mp h_state
    -- a block that is not claimed stays; one that is starts its commit
    obtain ⟨b, -, -, ⟨-, h_same, -⟩ | ⟨-, -, -, h_commit⟩⟩ := nativeDispatchClaim_ok h_claim
    · rw [h_same]
      exact Or.inr (Or.inr (.refl _ _))
    · exact Or.inr (Or.inr (beginNativeBatchCommit_rows h_commit))
  | recordDispatchAcceptance =>
    exact Or.inr (Or.inr (recordDispatchAcceptance_rows h h_issued h_run))
  | recordUncertain =>
    obtain ⟨b, -, -, ⟨-, rfl⟩ | ⟨-, h_quarantine⟩⟩ := recordUncertain_ok h_run
    · exact Or.inr (Or.inr (.refl _ _))
    · exact Or.inr (Or.inr (quarantineBlockDispatch_rows h_quarantine))
  | observe outcome observedAt revisionIds =>
    cases outcome with
    | running => exact Or.inr (Or.inr (observeRunning_rows h h_run))
    -- the one command that is not one row rewrite, but one for each running job
    | completed => exact Or.inr (Or.inl ⟨observedAt, revisionIds, rfl, h_run⟩)
    | failed => exact Or.inr (Or.inr (observeFailed_rows h_run))
    | uncertain => exact Or.inr (Or.inr (observeUncertain_rows h h_run))
  | resolveUncertainRun =>
    exact Or.inr (Or.inr (resolveUncertainJob_rows h (resolveUncertainRun_ok h_run).2))
  | recover =>
    obtain ⟨L', h_recover, h_state⟩ := bind_eq_ok.mp h_run
    obtain ⟨-, h_ledger⟩ := PlannerState.construct_eq_ok.mp h_state
    rw [h_ledger]
    exact Or.inr (Or.inr (quarantineAmbiguousDispatches_rows h h_recover))

/-- **Keeping an invariant.** What sealing keeps, and every command that does one thing to
every open block, is kept by every command, provided it keeps the blocks in step. -/
theorem IntegrationCommand.keeps {I : QueueLedger → Prop} {c : IntegrationCommand}
    (h_inStep : ∀ {L}, I L → OpenBlocks InStep L)
    (seals : ∀ {L L' block children}, I L → BlockSealed L L' block children → I L')
    (rows : ∀ {R L L'}, I L → Rows R L L' → I L') (h : I s.ledger) (h_issued : Issued s c)
    (h_run : c.run s = .ok s') : I s'.ledger := by
  rcases run_rows (h_inStep h) h_issued h_run with
    ⟨block, children, h_sealed⟩ | ⟨observedAt, revisionIds, -, h_completed⟩ | h_rows
  · exact seals h h_sealed
  · exact completeRunningJobs_keeps h_inStep rows h h_completed
  · exact rows h h_rows

theorem OpenBlocks.inStep_rows (h : OpenBlocks InStep L) (h_rows : Rows R L L') :
    OpenBlocks InStep L' :=
  h_rows.openBlocks h fun _ _ _ _ h_row h_open' h_b => h_row.inStep h_b h_open'

end VacuumPlanner
