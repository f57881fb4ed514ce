import VacuumPlanner.Admission
import VacuumPlanner.System

/-!
# Restart recovery

`quarantine_ambiguous_dispatches` runs on whatever ledger the store holds, so it must not
raise on any of them, and setup must be able to run it again and again. The set of blocks
it quarantines is computed from blocks and jobs, while the two are rewritten under
different conditions.

What makes the two rewrites fit together is the validity of the ledger it starts from. A
block that recovery neither quarantines nor finds quarantined holds no job it rewrites
(`untouched_of_kept`): in an early block no job is active, in a terminal one none is open,
and an active one would have been quarantined with its job. So the rewritten ledger is
valid (`quarantineAmbiguousDispatches_isOk`).

`Recovered` says what has become of every record, and `restart_recovery_settles` adds that
a second recovery finds nothing left to do.
-/

namespace VacuumPlanner

open Framework

variable {L L' : QueueLedger} {s : PlannerState} {b : QueueBlock} {j : QueueJob}
  {reconciledAt : Instant}

/-! ### The two rewrites -/

/-- What recovery does to a block. -/
def recoveredBlock (jobs : List QueueJob) : QueueBlock → QueueBlock :=
  updateIf (fun b => isAmbiguous jobs b && decide (b.state ∈ activeBlockStates))
    fun b => { b with state := .uncertain }

/-- What recovery does to a job. -/
def recoveredJob : QueueJob → QueueJob :=
  updateIf isUncorrelatedActive fun j => { j with state := .uncertain }

theorem recoveredBlock_identity (jobs : List QueueJob) (b : QueueBlock) :
    (recoveredBlock jobs b).identity = b.identity := by
  apply QueueBlock.identity_updateIf
  intro _
  rfl

theorem recoveredJob_identity (j : QueueJob) : (recoveredJob j).identity = j.identity := by
  apply QueueJob.identity_updateIf
  intro _
  rfl

/-- A block is quarantined or kept. -/
theorem recoveredBlock_cases (jobs : List QueueJob) (b : QueueBlock) :
    (isAmbiguous jobs b = true ∧ b.state ∈ activeBlockStates ∧
        recoveredBlock jobs b = { b with state := .uncertain }) ∨
      (¬ (isAmbiguous jobs b = true ∧ b.state ∈ activeBlockStates) ∧
        recoveredBlock jobs b = b) := by
  by_cases h : isAmbiguous jobs b = true ∧ b.state ∈ activeBlockStates
  · exact Or.inl ⟨h.1, h.2, updateIf_pos (by simpa using h)⟩
  · exact Or.inr ⟨h, updateIf_neg (by simpa using h)⟩

/-- A job is quarantined or kept. -/
theorem recoveredJob_cases (j : QueueJob) :
    (isUncorrelatedActive j = true ∧ recoveredJob j = { j with state := .uncertain }) ∨
      (isUncorrelatedActive j = false ∧ recoveredJob j = j) := by
  cases h : isUncorrelatedActive j with
  | true => exact Or.inl ⟨rfl, updateIf_pos h⟩
  | false => exact Or.inr ⟨rfl, updateIf_neg (by rw [h]; exact Bool.false_ne_true)⟩

theorem active_of_uncorrelated (h : isUncorrelatedActive j = true) :
    j.state ∈ activeJobStates :=
  of_decide_eq_true (Bool.and_eq_true_iff.mp h).1

/-- An uncorrelated active job makes its parent ambiguous. -/
theorem isAmbiguous_of_job {jobs : List QueueJob} (hj : j ∈ jobs)
    (h_parent : j.blockId = b.blockId) (h : isUncorrelatedActive j = true) :
    isAmbiguous jobs b = true := by
  have h_any : jobs.any (fun job => decide (job.blockId = b.blockId) &&
      isUncorrelatedActive job) = true :=
    List.any_eq_true.mpr ⟨j, hj, by rw [decide_eq_true h_parent, h]; rfl⟩
  exact Bool.or_eq_true_iff.mpr (Or.inr h_any)

/-- The parent of an uncorrelated active job is with the vacuum or already uncertain. -/
theorem parent_of_uncorrelated (hb : b ∈ L.blocks) (hj : j ∈ L.jobs)
    (h_parent : j.blockId = b.blockId) (h : isUncorrelatedActive j = true) :
    b.state ∈ activeBlockStates ∨ b.state = .uncertain := by
  have h_active : j.state ∈ activeJobStates := active_of_uncorrelated h
  have h_open : b.state.terminal = false := open_of_active hj h_active hb h_parent.symm
  have h_compatible : j.state ∉ incompatibleStates b := L.compatible hb hj h_parent
  unfold incompatibleStates at h_compatible
  revert h_active h_open h_compatible
  cases b.state <;> cases j.state <;> simp [activeJobStates, activeBlockStates, activeStates,
    BlockState.terminal]

/-- A block that is neither quarantined nor uncertain holds no job that is rewritten. -/
theorem untouched_of_kept (hb : b ∈ L.blocks) (h_certain : b.state ≠ .uncertain)
    (h_kept : ¬ (isAmbiguous L.jobs b = true ∧ b.state ∈ activeBlockStates)) :
    ∀ j ∈ jobsOf L.jobs b, recoveredJob j = j := by
  intro j hj
  obtain ⟨h_mem, h_parent⟩ := mem_jobsOf.mp hj
  rcases recoveredJob_cases j with ⟨h, -⟩ | ⟨-, h⟩
  · have h_state := (parent_of_uncorrelated hb h_mem h_parent h).resolve_right h_certain
    exact absurd ⟨isAmbiguous_of_job h_mem h_parent h, h_state⟩ h_kept
  · exact h

/-! ### Recovery never raises -/

/-- An active block may become uncertain: what an uncertain block has to show, an active one
shows. -/
theorem BlockLifecycle.quarantine (h : BlockLifecycle b) (h_state : b.state ∈ activeBlockStates) :
    BlockLifecycle { b with state := .uncertain } where
  chronological := h.chronological
  isSealed _ := h.isSealed (by revert h_state; cases b.state <;> decide)
  committed := nofun
  completed := nofun

/-- So may an active job. -/
theorem JobLifecycle.quarantine (h : JobLifecycle j) (h_state : j.state ∈ activeJobStates) :
    JobLifecycle { j with state := .uncertain } where
  attempt := h.attempt
  pending := nofun
  dispatched _ := h.dispatched (by revert h_state; cases j.state <;> decide)
  failure := nofun
  started := nofun
  unfinished _ := h.unfinished (active_open h_state)
  finished := nofun
  chronological := h.chronological

/-- **Recovery is total.** -/
theorem quarantineAmbiguousDispatches_isOk (L : QueueLedger) (reconciledAt : Instant) :
    ∃ L', quarantineAmbiguousDispatches L reconciledAt = .ok L' := by
  -- what is rewritten is uncertain, and the rest is as it was
  have h_blocks : ∀ b ∈ L.blocks, BlockLifecycle (recoveredBlock L.jobs b) := by
    intro b hb
    rcases recoveredBlock_cases L.jobs b with ⟨-, h_state, h⟩ | ⟨-, h⟩
    · rw [h]
      exact (L.blockLifecycle hb).quarantine h_state
    · rw [h]
      exact L.blockLifecycle hb
  have h_jobs : ∀ j ∈ L.jobs, JobLifecycle (recoveredJob j) := by
    intro j hj
    rcases recoveredJob_cases j with ⟨h_active, h⟩ | ⟨-, h⟩
    · rw [h]
      exact (L.jobLifecycle hj).quarantine (active_of_uncorrelated h_active)
    · rw [h]
      exact L.jobLifecycle hj
  have h_agrees : ∀ b ∈ L.blocks,
      BlockAgrees (recoveredBlock L.jobs b) ((jobsOf L.jobs b).map recoveredJob) := by
    intro b hb
    rcases recoveredBlock_cases L.jobs b with ⟨-, -, h⟩ | ⟨h_kept, h⟩
    · -- an uncertain block agrees with any jobs
      rw [h]
      exact BlockAgrees.of_state (by simp)
    · by_cases h_uncertain : b.state = .uncertain
      · rw [h]
        exact BlockAgrees.of_state (by rw [h_uncertain]; decide)
      · exact BlockAgrees.untouched hb h (untouched_of_kept hb h_uncertain h_kept)
  -- so the ledger of the rewritten records passes its checks
  obtain ⟨L', h_L'⟩ := (@QueueLedger.exists_rewrite L
    { L.toLedgerFields with
      revision := L.revision + 1
      blocks := L.blocks.map (recoveredBlock L.jobs)
      jobs := L.jobs.map recoveredJob
      lastReconciledAt := some reconciledAt }
    _ _ (recoveredBlock_identity L.jobs) recoveredJob_identity rfl rfl rfl rfl rfl).mpr
    ⟨h_blocks, h_jobs, h_agrees⟩
  refine ⟨L', ?_⟩
  unfold quarantineAmbiguousDispatches
  simp only [bind_eq_ok, rewriteWhere_eq_ok, LedgerFields.construct_eq_ok]
  refine ⟨_, ⟨rfl, ?_⟩, _, ⟨rfl, ?_⟩, h_L'⟩
  · intro b hb h_sel
    -- each record is checked as it is rewritten, too
    have h_b : recoveredBlock L.jobs b = { b with state := .uncertain } := updateIf_pos h_sel
    have h_lifecycle := h_blocks b hb
    rw [h_b] at h_lifecycle
    refine (QueueBlock.postInit_of_identity (L.valid.blockChecks b hb) ?_).mpr h_lifecycle
    rfl
  · intro j hj h_sel
    have h_j : recoveredJob j = { j with state := .uncertain } := updateIf_pos h_sel
    have h_lifecycle := h_jobs j hj
    rw [h_j] at h_lifecycle
    refine (QueueJob.postInit_of_identity (L.valid.jobChecks j hj) ?_).mpr h_lifecycle
    rfl

/-! ### What it leaves behind -/

/-- What recovery has made of one block: at most its state has changed, and only if the
block was with the vacuum without a correlation, or holds such a job. -/
structure BlockRecovered (L : QueueLedger) (b b' : QueueBlock) : Prop where
  stateOnly : b' = { b with state := b'.state }
  inactive : b.state ∉ activeBlockStates → b' = b
  correlated : hasExternalCorrelation b.adapterRunId = true →
    (∀ j ∈ L.jobs, j.blockId = b.blockId → isUncorrelatedActive j = false) → b' = b

/-- What recovery has made of one job: at most its state has changed, and only if the job was
active without a correlation; it is never completed. -/
structure JobRecovered (L' : QueueLedger) (j j' : QueueJob) : Prop where
  stateOnly : j' = { j with state := j'.state }
  kept : isUncorrelatedActive j = false → j' = j
  parent : j'.state = .uncertain → j.state ≠ .uncertain →
    ∃ b ∈ L'.blocks, b.blockId = j'.blockId ∧ b.state = .uncertain
  incomplete : j'.state = .completed → j.state = .completed

/-- What recovery has made of a ledger. -/
structure Recovered (L L' : QueueLedger) : Prop where
  /-- No active record is left without a correlation. -/
  blocksCorrelated : ∀ b ∈ L'.blocks, b.state ∈ activeBlockStates →
    hasExternalCorrelation b.adapterRunId = true
  jobsCorrelated : ∀ j ∈ L'.jobs, j.state ∈ activeJobStates →
    hasExternalCorrelation j.adapterToken = true
  blockCount : L'.blocks.length = L.blocks.length
  jobCount : L'.jobs.length = L.jobs.length
  blocks : ∀ (i : ℕ) (b b' : QueueBlock), L.blocks[i]? = some b → L'.blocks[i]? = some b' →
    BlockRecovered L b b'
  jobs : ∀ (i : ℕ) (j j' : QueueJob), L.jobs[i]? = some j → L'.jobs[i]? = some j' →
    JobRecovered L' j j'

theorem recovered_blocks (h : quarantineAmbiguousDispatches L reconciledAt = .ok L') :
    L'.blocks = L.blocks.map (recoveredBlock L.jobs) :=
  (quarantineAmbiguousDispatches_ok h).1

theorem recovered_jobs (h : quarantineAmbiguousDispatches L reconciledAt = .ok L') :
    L'.jobs = L.jobs.map recoveredJob :=
  (quarantineAmbiguousDispatches_ok h).2.1

/-- No job of the recovered ledger is active without a correlation. -/
theorem isUncorrelatedActive_recoveredJob (j : QueueJob) :
    isUncorrelatedActive (recoveredJob j) = false := by
  rcases recoveredJob_cases j with ⟨-, h⟩ | ⟨h_kept, h⟩
  · rw [h]
    rfl
  · rw [h]
    exact h_kept

/-- A block that recovery leaves with the vacuum was found correlated. -/
theorem correlated_of_recoveredBlock {jobs : List QueueJob}
    (h : (recoveredBlock jobs b).state ∈ activeBlockStates) :
    recoveredBlock jobs b = b ∧ hasExternalCorrelation b.adapterRunId = true := by
  rcases recoveredBlock_cases jobs b with ⟨-, -, h_b⟩ | ⟨h_kept, h_b⟩
  · rw [h_b] at h
    exact absurd h (by simp [activeBlockStates])
  · rw [h_b] at h
    refine ⟨h_b, ?_⟩
    by_contra h_uncorrelated
    refine h_kept ⟨Bool.or_eq_true_iff.mpr (Or.inl ?_), h⟩
    rw [decide_eq_true h, Bool.eq_false_of_not_eq_true h_uncorrelated]
    rfl

theorem blockRecovered (b : QueueBlock) : BlockRecovered L b (recoveredBlock L.jobs b) := by
  rcases recoveredBlock_cases L.jobs b with ⟨h_ambiguous, h_state, h⟩ | ⟨-, h⟩
  · rw [h]
    refine ⟨rfl, fun h_inactive => absurd h_state h_inactive, fun h_correlated h_jobs => ?_⟩
    -- an ambiguous block is uncorrelated, or holds an uncorrelated active job
    rcases Bool.or_eq_true_iff.mp h_ambiguous with h_block | h_job
    · rw [h_correlated, Bool.not_true, Bool.and_false] at h_block
      exact absurd h_block Bool.false_ne_true
    · obtain ⟨j, hj, h_j⟩ := List.any_eq_true.mp h_job
      obtain ⟨h_parent, h_active⟩ := Bool.and_eq_true_iff.mp h_j
      rw [h_jobs j hj (of_decide_eq_true h_parent)] at h_active
      exact absurd h_active Bool.false_ne_true
  · rw [h]
    exact ⟨rfl, fun _ => rfl, fun _ _ => rfl⟩

theorem jobRecovered (h : quarantineAmbiguousDispatches L reconciledAt = .ok L')
    (hj : j ∈ L.jobs) : JobRecovered L' j (recoveredJob j) := by
  rcases recoveredJob_cases j with ⟨h_active, h_j⟩ | ⟨h_kept, h_j⟩
  · obtain ⟨b, hb, h_b⟩ := QueueLedger.exists_parent hj
    -- its block was active and is quarantined now, or was uncertain already
    have h_state : (recoveredBlock L.jobs b).state = .uncertain := by
      rcases parent_of_uncorrelated hb hj h_b.symm h_active with h_active_b | h_uncertain
      · rcases recoveredBlock_cases L.jobs b with ⟨-, -, h_eq⟩ | ⟨h_kept, -⟩
        · rw [h_eq]
        · exact absurd ⟨isAmbiguous_of_job hj h_b.symm h_active, h_active_b⟩ h_kept
      · rcases recoveredBlock_cases L.jobs b with ⟨-, -, h_eq⟩ | ⟨-, h_eq⟩
        · rw [h_eq]
        · rw [h_eq, h_uncertain]
    have h_mem : recoveredBlock L.jobs b ∈ L'.blocks := by
      rw [recovered_blocks h]
      exact List.mem_map_of_mem hb
    have h_id : (recoveredBlock L.jobs b).blockId = j.blockId :=
      (blockId_of_identity (recoveredBlock_identity L.jobs b)).trans h_b
    rw [h_j]
    refine ⟨rfl, fun h_not => ?_, fun _ _ => ⟨_, h_mem, h_id, h_state⟩, nofun⟩
    rw [h_active] at h_not
    exact absurd h_not.symm Bool.false_ne_true
  · rw [h_j]
    exact ⟨rfl, fun _ => rfl, fun h_new h_old => absurd h_new h_old, id⟩

theorem recovered_of_ok (h : quarantineAmbiguousDispatches L reconciledAt = .ok L') :
    Recovered L L' where
  blocksCorrelated b' hb' h_state := by
    rw [recovered_blocks h] at hb'
    obtain ⟨b, -, rfl⟩ := List.mem_map.mp hb'
    obtain ⟨h_same, h_correlated⟩ := correlated_of_recoveredBlock h_state
    rw [h_same]
    exact h_correlated
  jobsCorrelated j' hj' h_state := by
    rw [recovered_jobs h] at hj'
    obtain ⟨j, -, rfl⟩ := List.mem_map.mp hj'
    -- an active job without a correlation would have been quarantined
    have h_not : isUncorrelatedActive (recoveredJob j) = false :=
      isUncorrelatedActive_recoveredJob j
    unfold isUncorrelatedActive at h_not
    rw [decide_eq_true h_state, Bool.true_and, Bool.not_eq_false'] at h_not
    exact h_not
  blockCount := by rw [recovered_blocks h, List.length_map]
  jobCount := by rw [recovered_jobs h, List.length_map]
  -- records keep their places, so they are compared one by one
  blocks i b b' hb hb' := by
    rw [recovered_blocks h, List.getElem?_map, hb] at hb'
    obtain rfl : recoveredBlock L.jobs b = b' := Option.some.inj hb'
    exact blockRecovered b
  jobs i j j' hj hj' := by
    rw [recovered_jobs h, List.getElem?_map, hj] at hj'
    obtain rfl : recoveredJob j = j' := Option.some.inj hj'
    exact jobRecovered h (List.mem_of_getElem? hj)

/-! ### Recovering again -/

/-- A ledger that was recovered once is not changed by recovering it again. -/
theorem recovered_again {again : Instant} {L'' : QueueLedger}
    (h : quarantineAmbiguousDispatches L reconciledAt = .ok L')
    (h_again : quarantineAmbiguousDispatches L' again = .ok L'') :
    L''.blocks = L'.blocks ∧ L''.jobs = L'.jobs := by
  have h_recovered := recovered_of_ok h
  -- the first recovery left nothing that it selects
  have h_jobs : ∀ j ∈ L'.jobs, isUncorrelatedActive j = false := by
    rw [recovered_jobs h, List.forall_mem_map]
    exact fun j _ => isUncorrelatedActive_recoveredJob j
  have h_blocks : ∀ b ∈ L'.blocks,
      (isAmbiguous L'.jobs b && decide (b.state ∈ activeBlockStates)) = false := by
    intro b hb
    by_contra h_sel
    obtain ⟨h_ambiguous, h_state⟩ := Bool.and_eq_true_iff.mp (Bool.eq_true_of_not_eq_false h_sel)
    rcases Bool.or_eq_true_iff.mp h_ambiguous with h_block | h_job
    · rw [h_recovered.blocksCorrelated b hb (of_decide_eq_true h_state), Bool.not_true,
        Bool.and_false] at h_block
      exact Bool.false_ne_true h_block
    · obtain ⟨j, hj, h_j⟩ := List.any_eq_true.mp h_job
      rw [h_jobs j hj, Bool.and_false] at h_j
      exact Bool.false_ne_true h_j
  obtain ⟨h_blocks'', h_jobs'', -⟩ := quarantineAmbiguousDispatches_ok h_again
  exact ⟨h_blocks''.trans (map_updateIf_none h_blocks),
    h_jobs''.trans (map_updateIf_none h_jobs)⟩

/-- Recovery of a planner state is total, since it keeps the lane of every block. -/
theorem recover_isOk (s : PlannerState) (reconciledAt : Instant) :
    ∃ L', quarantineAmbiguousDispatches s.ledger reconciledAt = .ok L' ∧
      ((L'.blocks = s.ledger.blocks ∧ L'.jobs = s.ledger.jobs ∧
          recover s reconciledAt = .ok none) ∨
        ∃ s', s'.ledger = L' ∧ recover s reconciledAt = .ok (some s')) := by
  obtain ⟨L', h⟩ := quarantineAmbiguousDispatches_isOk s.ledger reconciledAt
  refine ⟨L', h, ?_⟩
  unfold recover
  rw [h, ok_bind]
  split
  · obtain ⟨s', h_s'⟩ := PlannerState.exists_construct (recovered_blocks h)
      (recoveredBlock_identity s.ledger.jobs)
    rw [h_s', ok_bind]
    exact Or.inr ⟨s', (PlannerState.construct_eq_ok.mp h_s').2, rfl⟩
  · next h_same =>
    rw [not_or, not_not, not_not] at h_same
    exact Or.inl ⟨h_same.1, h_same.2, rfl⟩

/-- A state whose ledger recovery does not change has nothing to save. -/
theorem recover_eq_none {again : Instant}
    (h : ∀ L'', quarantineAmbiguousDispatches s.ledger again = .ok L'' →
      L''.blocks = s.ledger.blocks ∧ L''.jobs = s.ledger.jobs) : recover s again = .ok none := by
  obtain ⟨L'', h_again⟩ := quarantineAmbiguousDispatches_isOk s.ledger again
  obtain ⟨h_blocks, h_jobs⟩ := h L'' h_again
  unfold recover
  rw [h_again, ok_bind, if_neg]
  · rfl
  · rw [h_blocks, h_jobs, not_or, not_not, not_not]
    exact ⟨rfl, rfl⟩

/-- What the load path returns is settled: loading it again saves nothing. -/
theorem recover_again (s : PlannerState) (reconciledAt : Instant) :
    ∃ saved, recover s reconciledAt = .ok saved ∧
      ∀ again, recover (saved.getD s) again = .ok none := by
  obtain ⟨L', h, ⟨h_blocks, h_jobs, h_none⟩ | ⟨s', h_s', h_some⟩⟩ := recover_isOk s reconciledAt
  · refine ⟨none, h_none, fun again => recover_eq_none fun L'' h_again => ?_⟩
    -- recovery reads blocks and jobs only
    change quarantineAmbiguousDispatches s.ledger again = .ok L'' at h_again
    obtain ⟨h_blocks'', h_jobs'', -⟩ := quarantineAmbiguousDispatches_ok h_again
    exact ⟨h_blocks''.trans ((recovered_blocks h).symm.trans h_blocks),
      h_jobs''.trans ((recovered_jobs h).symm.trans h_jobs)⟩
  · refine ⟨some s', h_some, fun again => recover_eq_none fun L'' h_again => ?_⟩
    change quarantineAmbiguousDispatches s'.ledger again = .ok L'' at h_again
    rw [h_s'] at h_again
    rw [Option.getD_some, h_s']
    exact recovered_again h h_again

/-- **Restart recovery is total, complete, minimal and stable.** -/
theorem restart_recovery_settles (L : QueueLedger) (reconciledAt : Instant) :
    ∃ L', quarantineAmbiguousDispatches L reconciledAt = .ok L' ∧ Recovered L L' ∧
      (∀ again, ∃ L'', quarantineAmbiguousDispatches L' again = .ok L'' ∧
        L''.blocks = L'.blocks ∧ L''.jobs = L'.jobs) ∧
      ∀ s : PlannerState, s.ledger = L → ∃ saved, recover s reconciledAt = .ok saved ∧
        ∀ again, recover (saved.getD s) again = .ok none := by
  obtain ⟨L', h⟩ := quarantineAmbiguousDispatches_isOk L reconciledAt
  refine ⟨L', h, recovered_of_ok h, fun again => ?_, fun s _ => recover_again s reconciledAt⟩
  obtain ⟨L'', h_again⟩ := quarantineAmbiguousDispatches_isOk L' again
  exact ⟨L'', h_again, recovered_again h h_again⟩

end VacuumPlanner
