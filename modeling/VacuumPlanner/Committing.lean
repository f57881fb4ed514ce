import VacuumPlanner.Malformed
import VacuumPlanner.Naming
import VacuumPlanner.Recovery

/-!
# Between the claim and the outcome

A block is committing from its claim until something becomes of it, and its jobs are
dispatching for as long. Only the claim begins this (`Quiet.committing`,
`nativeDispatchClaim_committing`), and the acceptance and the quarantine of the block end it.

The quarantine is what a dispatch falls back on, so it must not fail itself: on a block that
is committing it never raises (`recordUncertain_isOk`). An acceptance may raise, but nothing a
dispatch takes for the end of its runtime (`recordDispatchAcceptance_raises`). Restart recovery
leaves no block committing (`recovered_not_committing`).

All of this is about ledgers whose open blocks are in step with their jobs and have at least one
(`Staffed`). The empty ledger is one, and every command of the integration keeps it so
(`Updates.staffed`).
-/

namespace VacuumPlanner

open Framework

variable {L L' L'' : QueueLedger} {s s' : PlannerState} {b : QueueBlock} {j : QueueJob}
  {children jobs : List QueueJob} {id blockId : String} {now reconciledAt acceptedAt : Instant}

/-! ### Blocks with jobs -/

/-- An open block in step with its jobs, of which it has at least one. -/
structure Staffed (b : QueueBlock) (children : List QueueJob) : Prop extends
    InStep b children where
  nonempty : children ≠ []

theorem OpenBlocks.inStep (h : OpenBlocks Staffed L) : OpenBlocks InStep L :=
  fun b hb h_open => (h b hb h_open).toInStep

theorem OpenBlocks.staffed_seals (h : OpenBlocks Staffed L)
    (h_sealed : BlockSealed L L' b children) : OpenBlocks Staffed L' :=
  h.seals h_sealed ⟨.sealed h_sealed, h_sealed.nonempty⟩

theorem OpenBlocks.staffed_rows {R : JobState → String → Instant → Prop}
    (h : OpenBlocks Staffed L) (h_rows : Rows R L L') : OpenBlocks Staffed L' := by
  refine h_rows.openBlocks h fun b _ b' g h_row h_open' h_b => ?_
  exact ⟨h_row.inStep h_b.toInStep h_open', by simpa using h_b.nonempty⟩

theorem Updates.staffed (h : Updates s s') (h_staffed : OpenBlocks Staffed s.ledger) :
    OpenBlocks Staffed s'.ledger :=
  h.keeps OpenBlocks.inStep OpenBlocks.staffed_seals OpenBlocks.staffed_rows h_staffed

/-! ### Blocks that are committing -/

/-- The block has been claimed, and nothing has become of it yet. -/
def Committing (L : QueueLedger) (blockId : String) : Prop :=
  ∃ b ∈ L.blocks, b.blockId = blockId ∧ b.state = .committing

/-- A job that is dispatching has a block that is committing. -/
theorem committing_of_job (h : OpenBlocks InStep L) (hj : j ∈ L.jobs)
    (h_j : j.state = .dispatching) : Committing L j.blockId := by
  obtain ⟨b, hb, h_b⟩ := QueueLedger.exists_parent hj
  have h_open : b.state.terminal = false :=
    QueueLedger.parentOpen_of_open hj (by rw [h_j]; rfl) b hb h_b
  have h_companion := (h b hb h_open).companions j (mem_jobsOf.mpr ⟨hj, h_b.symm⟩)
  refine ⟨b, hb, h_b, ?_⟩
  rw [h_j] at h_companion
  revert h_companion
  cases b.state <;> decide

/-- A block that is committing has a job that is dispatching. -/
theorem exists_dispatching (h : OpenBlocks Staffed L) (h_id : Committing L id) :
    ∃ j ∈ L.jobs, j.blockId = id ∧ j.state = .dispatching ∧ j.adapterToken = none := by
  obtain ⟨b, hb, rfl, h_b⟩ := h_id
  have h_staffed : Staffed b (jobsOf L.jobs b) := h b hb (by rw [h_b]; rfl)
  obtain ⟨j, hj⟩ := List.exists_mem_of_ne_nil _ h_staffed.nonempty
  obtain ⟨h_mem, h_parent⟩ := mem_jobsOf.mp hj
  have h_companion := h_staffed.companions j hj
  rw [h_b] at h_companion
  exact ⟨j, h_mem, h_parent, of_decide_eq_true h_companion, h_staffed.tokens j hj⟩

/-- A command that takes the block to another state ends it. -/
theorem not_committing_of_updateIf {f : QueueBlock → QueueBlock}
    (h_blocks : L'.blocks = L.blocks.map (updateIf (·.blockId = blockId) f))
    (h_state : ∀ b, (f b).state ≠ .committing) : ¬ Committing L' blockId := by
  rintro ⟨b', hb', h_own, h_b'⟩
  rw [h_blocks] at hb'
  obtain ⟨b, -, rfl⟩ := List.mem_map.mp hb'
  by_cases h_b : b.blockId = blockId
  · rw [updateIf_pos (by simpa using h_b)] at h_b'
    exact h_state b h_b'
  · rw [updateIf_neg (by simpa using h_b)] at h_own
    exact h_b h_own

/-! ### Only the claim begins it -/

/-- The ledger is rewritten without a dispatch, or a block is sealed. -/
def Quiet (L L' : QueueLedger) : Prop :=
  Rewrites (JobMoved quietMoves) L L' ∨ ∃ block children, BlockSealed L L' block children

theorem Quiet.refl (L : QueueLedger) : Quiet L L := Or.inl (Rewrites.refl L)

theorem Quiet.of_moved {moves : List (JobState × JobState)} (sub : moves ⊆ quietMoves)
    (h : Rewrites (JobMoved moves) L L') : Quiet L L' :=
  Or.inl (h.mono fun _ _ _ _ h_moved => h_moved.mono sub)

/-- No quiet move is a dispatch. -/
theorem not_dispatching_of_quiet {from' to' : JobState} (h : (from', to') ∈ quietMoves) :
    to' ≠ .dispatching := by
  revert h
  cases from' <;> cases to' <;> decide

/-- **Without a dispatch** no block begins to commit. -/
theorem Quiet.committing (h : Quiet L L') (h_before : OpenBlocks InStep L)
    (h_after : OpenBlocks Staffed L') (h_id : Committing L' id) : Committing L id := by
  obtain ⟨j', hj', rfl, h_j', -⟩ := exists_dispatching h_after h_id
  rcases h with h_rewrites | ⟨block, children, h_sealed⟩
  · obtain ⟨j, hj, rfl | h_moved⟩ := h_rewrites.job_before hj'
    · exact committing_of_job h_before hj h_j'
    · exact absurd h_j' (not_dispatching_of_quiet h_moved.move)
  · rw [h_sealed.jobs] at hj'
    rcases List.mem_append.mp hj' with h_old | h_new
    · exact committing_of_job h_before h_old h_j'
    · have h_pending := (h_sealed.pending j' h_new).2.1
      exact nomatch h_j'.symm.trans h_pending

theorem startNextCommand_quiet {call : StartNextCall} {outcome : SealOutcome}
    (h : startNextCommand call s = .ok (s', outcome)) : Quiet s.ledger s'.ledger := by
  rcases startNextCommand_cases h with rfl | ⟨blockId, now, h_cancel⟩ | ⟨block, children, h_sealed⟩
  · exact .refl _
  · obtain ⟨-, -, -, -, -, -, -, h_rewrites⟩ := cancelPendingBlock_ok h_cancel
    exact .of_moved (QueueLedger.movesTo_subset .cancelled) h_rewrites
  · exact Or.inr ⟨block, children, h_sealed⟩

theorem PlanRevised.quiet (h : PlanRevised s s') : Quiet s.ledger s'.ledger := by
  rw [h.ledger]
  exact .refl _

theorem Mutation.run_quiet {mutation : Mutation} (h : mutation.run s = .ok s') :
    Quiet s.ledger s'.ledger := by
  cases mutation with
  | skipAreaToday => exact (skipAreaToday_ok h).quiet
  | postponeArea => exact (postponeArea_ok h).quiet
  | setNativeValue => exact (setNativeValue_ok h).quiet
  | cancelBlock =>
    obtain ⟨-, -, -, -, -, -, -, h_rewrites⟩ := cancelPendingBlock_ok h
    exact .of_moved (QueueLedger.movesTo_subset .cancelled) h_rewrites
  | resolveUncertainRun =>
    exact .of_moved (by decide) (resolveUncertainJob_rewrites (resolveUncertainRun_ok h).2)

theorem observe_quiet {outcome : ObservationOutcome} {observedAt : Instant}
    {revisionIds : ℕ → String} (h : observe outcome observedAt revisionIds s = .ok s') :
    Quiet s.ledger s'.ledger :=
  .of_moved (observationMoves_subset outcome) (observe_rewrites h)

/-- **The claim** begins it for its own block and no other. -/
theorem nativeDispatchClaim_committing {claimed : Bool}
    (h : nativeDispatchClaim blockId now s = .ok (s', claimed)) (h_id : Committing s'.ledger id) :
    Committing s.ledger id ∨ id = blockId := by
  obtain ⟨-, -, -, ⟨-, rfl, -⟩ | ⟨-, -, -, h_begin⟩⟩ := nativeDispatchClaim_ok h
  · exact Or.inl h_id
  · obtain ⟨-, -, -, -, -, -, -, h_blocks, -⟩ := beginNativeBatchCommit_ok h_begin
    obtain ⟨b', hb', rfl, h_b'⟩ := h_id
    rw [h_blocks] at hb'
    obtain ⟨b, hb, rfl⟩ := List.mem_map.mp hb'
    by_cases h_own : b.blockId = blockId
    · right
      rw [updateIf_pos (by simpa using h_own)]
      exact h_own
    · left
      rw [updateIf_neg (by simpa using h_own)] at h_b' ⊢
      exact ⟨b, hb, rfl, h_b'⟩

/-! ### What ends it -/

theorem not_committing_of_settled (hb : b ∈ L.blocks) (h : b.state ∈ settledByObservation) :
    ¬ Committing L b.blockId := by
  rintro ⟨b', hb', h_id, h_b'⟩
  obtain rfl := L.block_eq hb' hb h_id
  rw [h_b'] at h
  exact absurd h (by decide)

/-- **The acceptance** ends it. -/
theorem recordDispatchAcceptance_ends
    (h : recordDispatchAcceptance s blockId jobs acceptedAt = .ok s') :
    Quiet s.ledger s'.ledger ∧ ¬ Committing s'.ledger blockId := by
  obtain ⟨b, hb, rfl, ⟨h_state, rfl⟩ | ⟨-, -, h_blocks, -, h_rewrites⟩⟩ :=
    recordDispatchAcceptance_ok h
  · exact ⟨.refl _, not_committing_of_settled hb h_state⟩
  · refine ⟨.of_moved (QueueLedger.movesTo_subset .accepted) h_rewrites, ?_⟩
    refine not_committing_of_updateIf h_blocks fun b => ?_
    rw [QueueLedger.changedBlock_state]
    decide

/-- **The quarantine** ends it. -/
theorem recordUncertain_ends (h : recordUncertain s blockId reconciledAt = .ok s') :
    Quiet s.ledger s'.ledger ∧ ¬ Committing s'.ledger blockId := by
  obtain ⟨b, hb, rfl, ⟨h_state, rfl⟩ | ⟨-, h_quarantine⟩⟩ := recordUncertain_ok h
  · exact ⟨.refl _, not_committing_of_settled hb h_state⟩
  · obtain ⟨-, -, -, -, -, -, -, h_blocks, -⟩ := quarantineBlockDispatch_ok h_quarantine
    refine ⟨.of_moved (by decide) (quarantineBlockDispatch_rewrites h_quarantine), ?_⟩
    exact not_committing_of_updateIf h_blocks fun _ => (nofun : BlockState.uncertain ≠ .committing)

/-- A block that is committing is a dispatched batch. -/
theorem exists_batch (h : OpenBlocks Staffed L) (h_id : Committing L id) :
    ∃ b, b.blockId = id ∧ DispatchedBatch L b ∧ jobsOf L.jobs b ≠ [] := by
  obtain ⟨b, hb, h_own, h_b⟩ := h_id
  have h_staffed : Staffed b (jobsOf L.jobs b) := h b hb (by rw [h_b]; rfl)
  refine ⟨b, h_own, ⟨hb, h_staffed.native (by rw [h_b]; decide), h_b, fun j hj => ?_⟩,
    h_staffed.nonempty⟩
  have h_companion := h_staffed.companions j hj
  rw [h_b] at h_companion
  exact of_decide_eq_true h_companion

/-- A dispatched batch may become uncertain with all of its jobs. -/
theorem quarantineBlockDispatch_isOk (h : DispatchedBatch L b) (h_jobs : jobsOf L.jobs b ≠ [])
    (reconciledAt : Instant) : ∃ L', quarantineBlockDispatch L b.blockId reconciledAt = .ok L' := by
  -- the block is committing and its jobs are dispatching, so each may become uncertain
  have h_block : ∀ b' ∈ L.blocks, b'.blockId = b.blockId →
      BlockLifecycle { b' with state := .uncertain } := by
    intro b' hb' h_own
    obtain rfl := L.block_eq hb' h.mem h_own
    exact (L.blockLifecycle hb').quarantine (by rw [h.state]; decide)
  have h_sent : ∀ j ∈ L.jobs, j.blockId = b.blockId → j.state = .dispatching :=
    fun j hj h_parent => h.jobs j (mem_jobsOf.mpr ⟨hj, h_parent⟩)
  have h_job : ∀ j ∈ L.jobs, j.blockId = b.blockId → JobLifecycle { j with state := .uncertain } :=
    fun j hj h_parent => (L.jobLifecycle hj).quarantine (by rw [h_sent j hj h_parent]; decide)
  have h_made : (∃ L' : QueueLedger, L'.toLedgerFields = { L.toLedgerFields with
      revision := L.revision + 1
      blocks := L.blocks.map
        (updateIf (·.blockId = b.blockId) fun item => { item with state := .uncertain })
      jobs := L.jobs.map
        (updateIf (·.blockId = b.blockId) fun job => { job with state := .uncertain })
      lastReconciledAt := some reconciledAt }) ↔ _ :=
    L.exists_bulk (f := fun item => { item with state := .uncertain })
      (g := fun job => { job with state := .uncertain }) (fun _ => rfl) (fun _ => rfl)
      (fun b' _ h_other j hj => by rw [(mem_jobsOf.mp hj).2]; exact h_other) rfl rfl rfl rfl rfl
  obtain ⟨L', h_L'⟩ := h_made.mpr
    ⟨fun b' hb' h_own => h_block b' hb' (of_decide_eq_true h_own),
      fun j hj h_own => h_job j hj (of_decide_eq_true h_own),
      -- an uncertain block agrees with any jobs
      fun _ _ _ => BlockAgrees.of_state (show BlockState.uncertain ∈ _ by decide)⟩
  -- each record is checked as it is rewritten, too
  refine ⟨L', ?_⟩
  unfold quarantineBlockDispatch
  simp only [bind_eq_ok, orRaise_eq_ok, raiseIf_eq_ok, QueueLedger.find_block,
    rewriteWhere_eq_ok, LedgerFields.construct_eq_ok, exists_unit, not_not]
  refine ⟨b, ⟨h.mem, rfl⟩, h.state, h.strategy, ?_, _, ⟨rfl, ?_⟩, _, ⟨rfl, ?_⟩, h_L'⟩
  · rintro (h_none | ⟨j, hj, h_j⟩)
    · exact h_jobs h_none
    · exact h_j (h.jobs j hj)
  · intro b' hb' h_own
    exact (QueueBlock.postInit_of_identity (L.valid.blockChecks b' hb') (by rfl)).mpr
      (h_block b' hb' (of_decide_eq_true h_own))
  · intro j hj h_own
    exact (QueueJob.postInit_of_identity (L.valid.jobChecks j hj) (by rfl)).mpr
      (h_job j hj (of_decide_eq_true h_own))

/-- **The quarantine never raises** on a block that is committing. -/
theorem recordUncertain_isOk (h : OpenBlocks Staffed s.ledger) (h_id : Committing s.ledger id)
    (reconciledAt : Instant) : ∃ s', recordUncertain s id reconciledAt = .ok s' := by
  obtain ⟨b, rfl, h_batch, h_jobs⟩ := exists_batch h h_id
  obtain ⟨L', h_L'⟩ := quarantineBlockDispatch_isOk h_batch h_jobs reconciledAt
  obtain ⟨-, -, -, -, -, -, -, h_blocks, -⟩ := quarantineBlockDispatch_ok h_L'
  obtain ⟨s', h_s'⟩ := PlannerState.exists_construct h_blocks
    (QueueBlock.identity_updateIf fun _ => rfl)
  have h_find := QueueLedger.find_block.mpr ⟨h_batch.mem, rfl⟩
  have h_unsettled : b.state ∉ settledByObservation := by
    rw [h_batch.state]
    decide
  refine ⟨s', ?_⟩
  unfold recordUncertain
  simp only [bind_eq_ok, orRaise_eq_ok]
  refine ⟨b, h_find, ?_⟩
  rw [if_neg h_unsettled]
  exact bind_eq_ok.mpr ⟨L', h_L', h_s'⟩

/-! ### What an acceptance raises -/

/-- What the computation raises does not tell a dispatch that its runtime has ended. -/
abbrev Interrupts {α : Type} (x : Except PyError α) : Prop :=
  RaisesOnly (Stage.interrupted · = .ambiguous) x

theorem interrupts_of_malformed {α : Type} {x : Except PyError α} (h : Malformed x) :
    Interrupts x := by
  refine h.mono fun e h_e => ?_
  cases e with
  | valueError | keyError => rfl
  | _ => exact nomatch h_e

theorem malformed_terminalResult {newState : BlockState} :
    Malformed (validateTerminalBlockResult newState jobs) := by
  simp [validateTerminalBlockResult, raisesOnly_bind]

theorem malformed_replaceBlockState {newState : BlockState} {changedAt : Instant}
    {runId : Option String} :
    Malformed (L.replaceBlockState blockId newState changedAt runId) := by
  unfold QueueLedger.replaceBlockState
  refine malformed_raiseIf.bind fun _ => ?_
  refine RaisesOnly.bind (raisesOnly_orRaise (by rfl)) fun current => ?_
  refine malformed_raiseIf.bind fun _ => ?_
  refine malformed_terminalResult.bind fun _ => ?_
  refine malformed_raiseIf.bind fun _ => ?_
  refine (raisesOnly_rewriteWhere fun _ => malformed_blockPostInit).bind fun blocks => ?_
  exact malformed_constructLedger

/-- A transition of a job that is not a dispatch. A job without a parent, which no ledger has,
would end the search for it with `StopIteration`. -/
theorem replaceJobState_interrupts {newState : JobState} {changedAt : Instant} {confirmed : Bool}
    {jobId : String} {token code detail : Option String} (h : newState ≠ .dispatching) :
    Interrupts (L.replaceJobState jobId newState changedAt confirmed token code detail) := by
  unfold QueueLedger.replaceJobState
  refine RaisesOnly.bind (raisesOnly_orRaise (by rfl)) fun current => ?_
  refine RaisesOnly.bind (raisesOnly_orRaise (by rfl)) fun parent => ?_
  refine interrupts_of_malformed (malformed_raiseIf.bind fun _ => ?_)
  refine malformed_raiseIf.bind fun _ => ?_
  simp only [if_neg h]
  refine malformed_raiseIf.bind fun _ => ?_
  refine malformed_raiseIf.bind fun _ => ?_
  refine (raisesOnly_rewriteWhere fun _ => malformed_jobPostInit).bind fun jobs => ?_
  exact malformed_constructLedger

/-- **An acceptance that raises** leads to the quarantine. -/
theorem recordDispatchAcceptance_interrupts (s : PlannerState) (blockId : String)
    (jobs : List QueueJob) (acceptedAt : Instant) :
    Interrupts (recordDispatchAcceptance s blockId jobs acceptedAt) := by
  unfold recordDispatchAcceptance
  refine RaisesOnly.bind (raisesOnly_orRaise (by rfl)) fun block => ?_
  rw [raisesOnly_ite]
  refine ⟨fun _ => raisesOnly_pure s, fun _ => ?_⟩
  refine (interrupts_of_malformed malformed_replaceBlockState).bind fun committed => ?_
  refine RaisesOnly.bind ?_ fun accepted => interrupts_of_malformed malformed_constructState
  exact raisesOnly_foldlM fun _ _ => replaceJobState_interrupts (by decide)

/-! ### Restart recovery -/

/-- **Restart recovery** leaves no block committing: its jobs carry no correlation. -/
theorem recovered_not_committing (h : OpenBlocks Staffed L')
    (h_recovered : quarantineAmbiguousDispatches L reconciledAt = .ok L'')
    (h_jobs : L''.jobs = L'.jobs) : ¬ Committing L' id := by
  intro h_id
  obtain ⟨j, hj, -, h_j, h_token⟩ := exists_dispatching h h_id
  rw [← h_jobs] at hj
  have h_correlated := (recovered_of_ok h_recovered).jobsCorrelated j hj (by rw [h_j]; decide)
  rw [h_token] at h_correlated
  exact nomatch h_correlated

/-- What a setup loads, or saves before it loads it. -/
theorem recover_staffed {saved : Option PlannerState} (h : OpenBlocks Staffed s.ledger)
    (h_recover : recover s reconciledAt = .ok saved) :
    OpenBlocks Staffed (saved.getD s).ledger ∧ ∀ id, ¬ Committing (saved.getD s).ledger id := by
  unfold recover at h_recover
  obtain ⟨L', h_L', h_recover⟩ := bind_eq_ok.mp h_recover
  split at h_recover
  · obtain ⟨t, h_t, h_recover⟩ := bind_eq_ok.mp h_recover
    obtain rfl := pure_eq_ok.mp h_recover
    obtain ⟨-, h_ledger⟩ := PlannerState.construct_eq_ok.mp h_t
    have h_staffed : OpenBlocks Staffed t.ledger := by
      rw [h_ledger]
      have h_rows : Rows (fun _ _ _ => False) s.ledger L' :=
        quarantineAmbiguousDispatches_rows h.inStep h_L'
      exact h.staffed_rows h_rows
    exact ⟨h_staffed, fun id =>
      recovered_not_committing h_staffed h_L' (congrArg (·.jobs) h_ledger.symm)⟩
  · next h_same =>
    obtain rfl := pure_eq_ok.mp h_recover
    rw [not_or, not_not, not_not] at h_same
    exact ⟨h, fun id => recovered_not_committing h h_L' h_same.2⟩

end VacuumPlanner
