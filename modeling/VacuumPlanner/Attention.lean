import VacuumPlanner.Admission
import VacuumPlanner.OpenWork

/-!
# Uncertain work needs the operator, and the operator can settle it

What the integration shows of uncertain work: the planner status and the attention sensor
of `entity.py` look at the blocks, the Repairs issue of `__init__.py` at the blocks and the
jobs. The three agree because an uncertain job has an uncertain block, and because no
command of the integration rejects a block.

The way out is `resolve_uncertain_job`. It has three outcomes for the parent block, each
checked by the ledger as a whole; `InStep` says what the jobs of an uncertain block look
like, and with it every uncertain job can be resolved, in any order
(`resolveUncertainJob_isOk`).
-/

namespace VacuumPlanner

open Framework

/-! ### What the entities show -/

/-- What the entity projections read of the runtime. -/
structure EntityRuntime where
  topologyReady : Bool
  planningEnabled : Bool
  state : Option PlannerState

/-- `any(block.state in {…} for block in state.ledger.blocks)`, of a runtime that has a
state. -/
def EntityRuntime.anyBlock (runtime : EntityRuntime) (states : List BlockState) : Bool :=
  runtime.state.any fun state => state.ledger.blocks.any fun block => decide (block.state ∈ states)

/-- `planner_status`. -/
def plannerStatus (runtime : EntityRuntime) : String :=
  if runtime.topologyReady = false then "attention"
  else if runtime.planningEnabled = false then "paused"
  -- only the blocks are asked, though a job may be uncertain too
  else if runtime.anyBlock [.rejected, .uncertain] then "attention"
  else if runtime.anyBlock [.committing] then "committing"
  else if runtime.anyBlock [.committed, .running] then "running"
  else if runtime.anyBlock [.sealed] then "ready"
  else "idle"

/-- `attention_required`. -/
def attentionRequired (runtime : EntityRuntime) : Bool :=
  !runtime.topologyReady || runtime.anyBlock [.rejected, .uncertain]

/-- The condition of the `UNRESOLVED_EXTERNAL_RUN` issue, as the setup and the listener of
`_subscribe_repairs` evaluate it. -/
def unresolvedExternalRun (state : PlannerState) : Bool :=
  state.ledger.blocks.any (fun block => decide (block.state = .uncertain)) ||
    state.ledger.jobs.any fun job => decide (job.state = .uncertain)

variable {L L' : QueueLedger} {s s' : PlannerState} {b : QueueBlock} {j : QueueJob}
  {R : JobState → String → Instant → Prop}

/-! ### What the commands keep -/

/-- Open blocks are in step with their jobs, and no block is rejected. -/
structure Accountable (L : QueueLedger) : Prop where
  inStep : OpenBlocks InStep L
  accepted : ∀ b ∈ L.blocks, b.state ≠ .rejected

theorem Accountable.empty : Accountable QueueLedger.empty :=
  ⟨OpenBlocks.empty, fun _ hb => absurd hb List.not_mem_nil⟩

theorem Accountable.seals {block : QueueBlock} {children : List QueueJob} (h : Accountable L)
    (h_step : BlockSealed L L' block children) : Accountable L' := by
  refine ⟨h.inStep.seals h_step (.sealed h_step), ?_⟩
  rw [h_step.blocks, List.forall_mem_append]
  refine ⟨h.accepted, fun b hb => ?_⟩
  obtain rfl := List.mem_singleton.mp hb
  rw [h_step.state]
  decide

/-- A row step rejects no block. -/
theorem RowStep.accepted {b' : QueueBlock} {children : List QueueJob} {g : QueueJob → QueueJob}
    (h : RowStep R b children b' g) (h_b : b.state ≠ .rejected) : b'.state ≠ .rejected := by
  cases h with
  | same | completes => exact h_b
  | closes _ _ h_closed =>
    intro h_rejected
    rw [h_rejected] at h_closed
    exact absurd h_closed (by decide)
  | moves _ _ target stage =>
    intro h_rejected
    rw [h_rejected] at stage
    revert stage
    cases target <;> decide
  | quarantines => exact nofun
  | resolves =>
    unfold releasedBlock resumedState
    repeat' split
    all_goals exact nofun

theorem Accountable.rows (h : Accountable L) (h_rows : Rows R L L') : Accountable L' := by
  refine ⟨h.inStep.inStep_rows h_rows, ?_⟩
  obtain ⟨f, g, h_blocks, -, -, h_kept, h_row⟩ := h_rows
  rw [h_blocks, List.forall_mem_map]
  intro b hb
  cases h_state : b.state.terminal with
  | false => exact (h_row b hb h_state).accepted (h.accepted b hb)
  | true =>
    rw [(h_kept b hb).frozen h_state]
    exact h.accepted b hb

theorem Accountable.step {c : IntegrationCommand} (h : Accountable s.ledger)
    (h_issued : Issued s c) (h_run : c.run s = .ok s') : Accountable s'.ledger :=
  IntegrationCommand.keeps Accountable.inStep Accountable.seals Accountable.rows h h_issued h_run

theorem Accountable.stateAt {s : PlannerState} (h_empty : s.ledger = QueueLedger.empty)
    {commands : List IntegrationCommand}
    (h_run : EachStep IntegrationCommand.run Issued s commands) (n : ℕ) :
    Accountable (stateAt IntegrationCommand.run s commands n).ledger := by
  have h_start : Accountable s.ledger := by
    rw [h_empty]
    exact Accountable.empty
  exact EachStep.stateAt (I := fun s => Accountable s.ledger)
    (fun _ _ _ h h_issued h_step => h.step h_issued h_step) h_run h_start n

/-! ### Uncertain jobs -/

/-- An uncertain job has an uncertain block: its block is open, since the jobs of a closed
block have ended, and in step with it. -/
theorem OpenBlocks.uncertain_parent (h : OpenBlocks InStep L) (hj : j ∈ L.jobs)
    (h_j : j.state = .uncertain) (hb : b ∈ L.blocks) (h_parent : j.blockId = b.blockId) :
    b.state = .uncertain := by
  have h_open : b.state.terminal = false := by
    by_contra h_terminal
    have h_ended := L.settled hb (Bool.eq_true_of_not_eq_false h_terminal) hj h_parent
    rw [h_j] at h_ended
    exact nomatch h_ended
  have h_companion := (h b hb h_open).companions j (mem_jobsOf.mpr ⟨hj, h_parent⟩)
  rw [h_j] at h_companion
  revert h_companion
  cases b.state <;> decide

/-- The status, the sensor and the issue say the same of uncertain work. -/
theorem Accountable.attention (h : Accountable s.ledger) (planningEnabled : Bool) :
    attentionRequired ⟨true, planningEnabled, some s⟩ = unresolvedExternalRun s ∧
      (plannerStatus ⟨true, true, some s⟩ = "attention" ↔ unresolvedExternalRun s = true) := by
  have h_any : EntityRuntime.anyBlock ⟨true, planningEnabled, some s⟩ [.rejected, .uncertain] =
      unresolvedExternalRun s := by
    unfold EntityRuntime.anyBlock unresolvedExternalRun
    rw [Bool.eq_iff_iff, Bool.or_eq_true_iff, List.any_eq_true, List.any_eq_true, Option.any_some,
      List.any_eq_true]
    constructor
    · rintro ⟨b, hb, h_b⟩
      refine Or.inl ⟨b, hb, ?_⟩
      -- a rejected block is not among the accountable ones, so only uncertainty counts
      have h_accepted := h.accepted b hb
      revert h_b h_accepted
      cases b.state <;> decide
    · rintro (⟨b, hb, h_b⟩ | ⟨j, hj, h_j⟩)
      · exact ⟨b, hb, by rw [of_decide_eq_true h_b]; decide⟩
      · -- an uncertain job makes its block uncertain
        obtain ⟨b, hb, h_parent⟩ := QueueLedger.exists_parent hj
        refine ⟨b, hb, ?_⟩
        rw [h.inStep.uncertain_parent hj (of_decide_eq_true h_j) hb h_parent.symm]
        decide
  refine ⟨h_any, ?_⟩
  have h_same : EntityRuntime.anyBlock ⟨true, true, some s⟩ [.rejected, .uncertain] =
      unresolvedExternalRun s := h_any
  unfold plannerStatus
  rw [h_same, if_neg (Bool.noConfusion : true ≠ false), if_neg (Bool.noConfusion : true ≠ false)]
  cases unresolvedExternalRun s with
  | true => exact iff_of_true (if_pos rfl) rfl
  | false =>
    refine iff_of_false ?_ Bool.false_ne_true
    rw [if_neg Bool.false_ne_true]
    repeat' split
    all_goals decide

/-! ### Resolving one -/

/-- Letting go of an uncertain block leaves it in order. -/
theorem BlockLifecycle.released {remaining : Bool} {now : Instant} (h : BlockLifecycle b)
    (h_b : b.state = .uncertain) (h_native : b.dispatchStrategy = .nativeBatch)
    (h_now : ∀ x ∈ [some b.createdAt, b.sealedAt, b.committedAt], Before x (some now)) :
    BlockLifecycle (releasedBlock remaining now b) := by
  have h_sealed : b.sealedAt ≠ none := h.isSealed (by rw [h_b]; decide)
  unfold releasedBlock
  split
  · exact ⟨h.chronological, fun _ => h_sealed, nofun, nofun⟩
  · split
    · obtain ⟨h_created, h_committed, -, h_order, -, -⟩ := chronological_four.mp h.chronological
      refine ⟨chronological_four.mpr ⟨h_created, h_committed, ?_, h_order, ?_, ?_⟩,
        fun _ => h_sealed, nofun, nofun⟩
      · exact h_now _ (by simp)
      · exact h_now _ (by simp)
      · exact h_now _ (by simp)
    · next h_resumes =>
      have h_commit : b.committedAt ≠ none := fun h_none => h_resumes ⟨h_native, h_none⟩
      unfold resumedState
      rw [if_pos h_commit]
      exact ⟨h.chronological, fun _ => h_sealed, fun _ => h_commit, nofun⟩

/-- A resolved job is in order. -/
theorem JobLifecycle.resolved {now : Instant} (h : JobLifecycle j) (h_j : j.state = .uncertain)
    (h_now : ∀ x ∈ [some j.plannedAt, j.sentAt, j.startedAt], Before x (some now)) :
    JobLifecycle (resolvedJob now j) := by
  obtain ⟨-, h_sent⟩ := h.dispatched (by rw [h_j]; decide)
  obtain ⟨h_planned, h_started, -, h_order, -, -⟩ := chronological_four.mp h.chronological
  refine ⟨h.attempt, nofun, nofun, fun _ _ => h_sent, nofun, nofun, nofun,
    chronological_four.mpr ⟨h_planned, h_started, ?_, h_order, ?_, ?_⟩⟩
  · exact h_now _ (by simp [resolvedJob])
  · exact h_now _ (by simp [resolvedJob])
  · exact h_now _ (by simp [resolvedJob])

/-- The block agrees with its jobs after a resolution: it is failed only when every other
job has ended. -/
theorem InStep.released_agrees {children : List QueueJob} {remaining : Bool} {now : Instant}
    (h : InStep b children) (h_b : b.state = .uncertain) (hj : j ∈ children)
    (h_remaining : remaining = true ↔
      ∃ k ∈ children, k.jobId ≠ j.jobId ∧ k.state = .uncertain) :
    BlockAgrees (releasedBlock remaining now b)
      (children.map (updateIf (·.jobId = j.jobId) (resolvedJob now))) := by
  -- another job is uncertain: the block stays so, and constrains none of its jobs
  by_cases h_rem : remaining = true
  · refine .of_state ?_
    rw [h_rem]
    exact (by decide : BlockState.uncertain ∈ [BlockState.committed, .running, .uncertain])
  -- never committed: the block fails, so every job must have ended
  by_cases h_commit : b.committedAt = none
  · have h_failed : (releasedBlock remaining now b).state = .failed := by
      unfold releasedBlock
      rw [if_neg h_rem, if_pos ⟨h.native (by rw [h_b]; decide), h_commit⟩]
    refine .of_failed h_failed ?_ ⟨_, List.mem_map_of_mem hj, by rw [updateIf_pos (by simp)]; rfl⟩
    rw [List.forall_mem_map]
    intro k hk
    by_cases h_id : k.jobId = j.jobId
    · rw [updateIf_pos (by simpa using h_id)]
      rfl
    · rw [updateIf_neg (by simpa using h_id)]
      have h_companion := h.companions k hk
      rw [h_b] at h_companion
      refine (Bool.or_eq_true_iff.mp h_companion).resolve_left fun h_k => h_rem ?_
      exact h_remaining.mpr ⟨k, hk, h_id, of_decide_eq_true h_k⟩
  · refine .of_state ?_
    unfold releasedBlock resumedState
    rw [if_neg h_rem, if_neg fun h_fails => h_commit h_fails.2, if_pos h_commit]
    exact (by decide : BlockState.running ∈ [BlockState.committed, .running, .uncertain])

/-- **An uncertain job can be resolved**, at any instant that is not in the past of the
ledger. -/
theorem resolveUncertainJob_isOk {now : Instant} (h : OpenBlocks InStep L) (hj : j ∈ L.jobs)
    (h_j : j.state = .uncertain) (h_now : L.NotBefore now) :
    ∃ L', resolveUncertainJob L j.jobId .retrySafe now = .ok L' := by
  obtain ⟨b, hb, h_parent⟩ := QueueLedger.exists_parent hj
  have h_b := h.uncertain_parent hj h_j hb h_parent.symm
  have h_inStep := h b hb (by rw [h_b]; rfl)
  have h_child : j ∈ jobsOf L.jobs b := mem_jobsOf.mpr ⟨hj, h_parent.symm⟩
  have h_native := h_inStep.native (by rw [h_b]; decide)
  -- what the ledger is rebuilt from
  set jobs := L.jobs.map (updateIf (·.jobId = j.jobId) (resolvedJob now)) with h_jobs
  set remaining := hasRemainingUncertainty jobs b with h_rem
  have h_block : BlockLifecycle (releasedBlock remaining now b) := by
    refine (L.blockLifecycle hb).released h_b h_native fun x hx => h_now.block hb ?_
    exact List.mem_append_left [b.completedAt] hx
  have h_job : JobLifecycle (resolvedJob now j) := by
    refine (L.jobLifecycle hj).resolved h_j fun x hx => h_now.job hj ?_
    exact List.mem_append_left [j.finishedAt] hx
  have h_resolved : ∀ k : QueueJob, (resolvedJob now k).identity = k.identity := fun _ => rfl
  have h_made : ∃ L' : QueueLedger, L'.toLedgerFields = { L.toLedgerFields with
      revision := L.revision + 1
      blocks := L.blocks.map (updateIf (·.blockId = b.blockId) (releasedBlock remaining now))
      jobs := jobs } := by
    refine Iff.mpr (L.exists_bulk (releasedBlock_identity _ _) h_resolved
      (fun b' _ h_out k hk h_same => ?_) rfl rfl rfl rfl rfl) ⟨QueueLedger.block_of_sweep hb h_block,
        QueueLedger.job_of_sweep hj h_job, QueueLedger.block_of_sweep hb ?_⟩
    · -- the job is found under its own block only
      obtain ⟨h_mem, h_k⟩ := mem_jobsOf.mp hk
      rw [eq_of_key L.valid.jobIds h_mem hj (of_decide_eq_true h_same), ← h_parent] at h_k
      exact h_out (decide_eq_true h_k.symm)
    · exact h_inStep.released_agrees h_b h_child (hasRemainingUncertainty_iff h_b h_inStep h_jobs)
  obtain ⟨L', h_L'⟩ := h_made
  refine ⟨L', ?_⟩
  unfold resolveUncertainJob
  simp only [bind_eq_ok, orRaise_eq_ok, raiseIf_eq_ok, QueueLedger.find_block,
    QueueLedger.find_job, rewriteWhere_eq_ok, LedgerFields.construct_eq_ok, exists_unit, not_not]
  refine ⟨j, ⟨hj, rfl⟩, h_j, b, ⟨hb, h_parent⟩, h_b, jobs, ⟨rfl, QueueLedger.job_of_sweep hj ?_⟩,
    _, ⟨rfl, QueueLedger.block_of_sweep hb ?_⟩, h_L'⟩
  · exact (QueueJob.postInit_of_identity (L.valid.jobChecks j hj) (h_resolved j)).mpr h_job
  · exact (QueueBlock.postInit_of_identity (L.valid.blockChecks b hb)
      (releasedBlock_identity _ _ b)).mpr h_block

/-- What resolving an uncertain job does, and nothing else. -/
structure ResolvedExactly (s : PlannerState) (j : QueueJob) (resolvedAt : Instant)
    (s' : PlannerState) : Prop where
  /-- The job has failed, and no other is touched. -/
  jobs : s'.ledger.jobs =
    s.ledger.jobs.map (updateIf (·.jobId = j.jobId) (resolvedJob resolvedAt))
  failed : resolvedJob resolvedAt j ∈ s'.ledger.jobs
  plan : s'.planRevision = s.planRevision
  /-- No block but the parent is touched. -/
  blocks : ∃ f, s'.ledger.blocks = s.ledger.blocks.map (updateIf (·.blockId = j.blockId) f)
  parent : ∀ b ∈ s'.ledger.blocks, b.blockId = j.blockId →
    (b.state = .uncertain ↔
      ∃ k ∈ s'.ledger.jobs, k.blockId = j.blockId ∧ k.state = .uncertain)

/-- A block is uncertain after a resolution exactly while uncertainty remains. -/
theorem releasedBlock_uncertain {remaining : Bool} {now : Instant} :
    (releasedBlock remaining now b).state = .uncertain ↔ remaining = true := by
  unfold releasedBlock resumedState
  split
  · next h_rem => exact iff_of_true rfl h_rem
  · next h_rem =>
    refine iff_of_false ?_ h_rem
    repeat' split
    all_goals exact nofun

theorem resolveUncertainRun_exactly {now : Instant} (h : OpenBlocks InStep s.ledger)
    (hj : j ∈ s.ledger.jobs) (h_run : resolveUncertainRun s j.jobId .retrySafe now = .ok s') :
    ResolvedExactly s j now s' := by
  obtain ⟨h_plan, h_resolve⟩ := resolveUncertainRun_ok h_run
  obtain ⟨j', hj', h_id, h_j, b, hb, h_parent, h_b, h_jobs, h_blocks, -⟩ :=
    resolveUncertainJob_ok h_resolve
  -- the job that is resolved is the one with the id
  obtain rfl := eq_of_key s.ledger.valid.jobIds hj' hj h_id
  have h_inStep := h b hb (by rw [h_b]; rfl)
  refine ⟨h_jobs, ?_, h_plan, ⟨_, h_parent ▸ h_blocks⟩, ?_⟩
  · rw [h_jobs, List.mem_map]
    exact ⟨j', hj, updateIf_pos (by simp)⟩
  · intro b' hb' h_b'
    rw [h_blocks] at hb'
    obtain ⟨b₀, hb₀, rfl⟩ := List.mem_map.mp hb'
    rw [blockId_of_identity (QueueBlock.identity_updateIf (releasedBlock_identity _ _) b₀),
      ← h_parent] at h_b'
    obtain rfl := s.ledger.block_eq hb₀ hb h_b'
    -- its block stays uncertain exactly while another job of it is
    rw [updateIf_pos (by simp), releasedBlock_uncertain,
      hasRemainingUncertainty_iff h_b h_inStep h_jobs, h_jobs]
    have h_resolved : ∀ k : QueueJob, (resolvedJob now k).identity = k.identity := fun _ => rfl
    constructor
    · rintro ⟨k, hk, h_ne, h_k⟩
      obtain ⟨h_mem, h_k_parent⟩ := mem_jobsOf.mp hk
      refine ⟨k, List.mem_map.mpr ⟨k, h_mem, updateIf_neg (by simpa using h_ne)⟩, ?_, h_k⟩
      exact h_k_parent.trans h_parent
    · rintro ⟨k', hk', h_k'_parent, h_k'⟩
      obtain ⟨k, hk, rfl⟩ := List.mem_map.mp hk'
      rw [parent_of_identity (QueueJob.identity_updateIf h_resolved k)] at h_k'_parent
      by_cases h_ne : k.jobId = j'.jobId
      · rw [updateIf_pos (by simpa using h_ne)] at h_k'
        exact nomatch h_k'
      · rw [updateIf_neg (by simpa using h_ne)] at h_k'
        exact ⟨k, mem_jobsOf.mpr ⟨hk, h_k'_parent.trans h_parent.symm⟩, h_ne, h_k'⟩

/-! ### Runs -/

/-- What holds of uncertain work wherever a run of the integration leads. -/
structure UncertaintySettles (s : PlannerState) : Prop where
  /-- The attention sensor and Repairs agree, and so does the status. -/
  sensor : ∀ planningEnabled,
    attentionRequired ⟨true, planningEnabled, some s⟩ = unresolvedExternalRun s
  status : plannerStatus ⟨true, true, some s⟩ = "attention" ↔ unresolvedExternalRun s = true
  parent : ∀ j ∈ s.ledger.jobs, j.state = .uncertain →
    ∃ b ∈ s.ledger.blocks, b.blockId = j.blockId ∧ b.state = .uncertain
  resolvable : ∀ j ∈ s.ledger.jobs, j.state = .uncertain →
    ∀ resolvedAt, s.ledger.NotBefore resolvedAt →
      ∃ s', resolveUncertainRun s j.jobId .retrySafe resolvedAt = .ok s' ∧
        ResolvedExactly s j resolvedAt s'

theorem Accountable.uncertaintySettles (h : Accountable s.ledger) : UncertaintySettles s where
  sensor planningEnabled := (h.attention planningEnabled).1
  status := (h.attention true).2
  parent j hj h_j := by
    obtain ⟨b, hb, h_parent⟩ := QueueLedger.exists_parent hj
    exact ⟨b, hb, h_parent, h.inStep.uncertain_parent hj h_j hb h_parent.symm⟩
  resolvable j hj h_j resolvedAt h_now := by
    obtain ⟨L', h_L'⟩ := resolveUncertainJob_isOk h.inStep hj h_j h_now
    obtain ⟨-, -, -, -, b, -, -, -, -, h_blocks, -⟩ := resolveUncertainJob_ok h_L'
    obtain ⟨s', h_s'⟩ := PlannerState.exists_construct h_blocks
      (QueueBlock.identity_updateIf (releasedBlock_identity _ _))
    have h_resolve : resolveUncertainRun s j.jobId .retrySafe resolvedAt = .ok s' :=
      bind_eq_ok.mpr ⟨L', h_L', h_s'⟩
    exact ⟨s', h_resolve, resolveUncertainRun_exactly h.inStep hj h_resolve⟩

/-- **Every uncertain job can be resolved by the operator.** In every state of every run of
the integration from an empty ledger, the entities and Repairs show uncertain work alike,
every uncertain job has an uncertain block, and its resolution succeeds and touches nothing
but the job and that block. -/
theorem uncertain_jobs_resolvable (s : PlannerState) (h_empty : s.ledger = QueueLedger.empty)
    (commands : List IntegrationCommand)
    (h_run : EachStep IntegrationCommand.run Issued s commands) (n : ℕ) :
    UncertaintySettles (stateAt IntegrationCommand.run s commands n) :=
  (Accountable.stateAt h_empty h_run n).uncertaintySettles

/-- A dispatch that was accepted, of which the vacuum then reported nothing certain. -/
theorem uncertain_jobs_resolvable_kitchen :
    UncertaintySettles (stateAt IntegrationCommand.run kitchenState
      (acceptedThenUncertain.take 4) 4) :=
  uncertain_jobs_resolvable kitchenState rfl (acceptedThenUncertain.take 4)
    ⟨trivial, trivial, by unfold Issued; decide, trivial, trivial⟩ 4

end VacuumPlanner
