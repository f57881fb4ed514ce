import VacuumPlanner.Reports
import VacuumPlanner.Commute
import VacuumPlanner.Dispatch

/-!
# Repeated reports

Home Assistant repeats the state of the vacuum with every change of an attribute, so the
same report arrives many times. What a report is about it leaves nothing of: after a running
report no block is waiting to be started, after a completed one no job runs, after a failed or
uncertain one no job is active that the report could be about (`Settled`). A report that
finds nothing returns the state it was given (`Settled.observe`), and the coordinator then
neither saves nor publishes (`Coordinator.acquire_unchanged`).

A later report finds no more than the repeated one if no job was sent after the first, since
`sent_at` is what a report at another instant is compared with (`dispatchingBlockIds_subset`).
-/

namespace VacuumPlanner

open Framework

variable {L : QueueLedger} {s s' : PlannerState} {observedAt laterAt : Instant}
  {outcome : ObservationOutcome} {revisionIds revisionIds' : ℕ → String} {b : QueueBlock}
  {j : QueueJob}

/-! ### Nothing to report -/

/-- There is nothing left to start. -/
structure AllStarted (observedAt : Instant) (L : QueueLedger) : Prop where
  dispatching : dispatchingBlockIds L observedAt = []
  committed : ∀ b ∈ L.blocks, b.state ≠ .committed
  accepted : ∀ b ∈ L.blocks, b.state = .running → ∀ j ∈ jobsOf L.jobs b, j.state ≠ .accepted

/-- The ledger holds nothing that a report with this outcome is about. -/
def Settled (outcome : ObservationOutcome) (observedAt : Instant) (L : QueueLedger) : Prop :=
  match outcome with
  | .running => AllStarted observedAt L
  | .completed => ∀ j ∈ L.jobs, j.state ≠ .running
  | .failed | .uncertain => affectedBlockIds L observedAt = []

theorem AllStarted.block (h : AllStarted observedAt L) (hb : b ∈ L.blocks)
    (h_running : b.state = .running) : startActiveBlock observedAt L b.blockId = .ok L := by
  have h_accepted : acceptedJobs L b.blockId = [] := by
    unfold acceptedJobs
    rw [List.filter_eq_nil_iff]
    intro j hj
    rw [decide_eq_true_iff]
    rintro ⟨h_parent, h_j⟩
    exact h.accepted b hb h_running j (mem_jobsOf.mpr ⟨hj, h_parent⟩) h_j
  refine startActiveBlock_eq_ok.mpr ⟨b, hb, rfl, L, ?_, ?_⟩
  · rw [if_neg (h.committed b hb)]
  · rw [h_accepted]
    rfl

theorem AllStarted.loop (h : AllStarted observedAt L) {ids : List String}
    (h_ids : ∀ id ∈ ids, ∃ b ∈ L.blocks, b.blockId = id ∧ b.state = .running) :
    ids.foldlM (startActiveBlock observedAt) L = .ok L := by
  induction ids with
  | nil => rfl
  | cons id ids ih =>
    obtain ⟨⟨b, hb, rfl, h_running⟩, h_rest⟩ := List.forall_mem_cons.mp h_ids
    rw [List.foldlM_cons, h.block hb h_running, ok_bind]
    exact ih h_rest

theorem PlannerState.construct_self (s : PlannerState) :
    PlannerState.construct s.planRevision s.ledger = .ok s :=
  PlannerState.construct_eq_ok.mpr ⟨rfl, rfl⟩

/-- A running report that finds nothing to start returns the state. -/
theorem AllStarted.report (h : AllStarted observedAt s.ledger) :
    observeRunning s observedAt = .ok s := by
  unfold observeRunning
  dsimp only
  rw [h.dispatching]
  split
  · rfl
  · have h_loop : (activeBlockIds s.ledger []).foldlM (startActiveBlock observedAt)
        s.ledger = .ok s.ledger := by
      refine h.loop fun id h_id => ?_
      obtain ⟨b, hb, h_b, h_state⟩ := mem_activeBlockIds.mp h_id
      refine ⟨b, hb, h_b, ?_⟩
      have h_active := h_state.resolve_right List.not_mem_nil
      rcases List.mem_cons.mp h_active with h_committed | h_running
      · exact absurd h_committed (h.committed b hb)
      · exact List.mem_singleton.mp h_running
    have h_bulk : startDispatching s.ledger [] observedAt = .ok s.ledger := rfl
    rw [h_bulk, ok_bind, h_loop, ok_bind]
    exact s.construct_self

/-- **A report that finds nothing** returns the state. -/
theorem Settled.observe (h : Settled outcome observedAt s.ledger) (revisionIds : ℕ → String) :
    observe outcome observedAt revisionIds s = .ok s := by
  cases outcome with
  | running =>
    have h : AllStarted observedAt s.ledger := h
    exact h.report
  | completed =>
    have h : ∀ j ∈ s.ledger.jobs, j.state ≠ .running := h
    -- no job runs, so the loop has nothing to go through
    have h_none : s.ledger.jobs.filter (·.state = .running) = [] := by
      rw [List.filter_eq_nil_iff]
      intro j hj
      rw [decide_eq_true_iff]
      exact h j hj
    change observeCompleted s observedAt revisionIds = .ok s
    unfold observeCompleted
    rw [h_none]
    rfl
  | failed =>
    -- no block is affected, so the report has nothing to rewrite
    have h : affectedBlockIds s.ledger observedAt = [] := h
    change observeFailed s observedAt = .ok s
    unfold observeFailed
    dsimp only
    rw [if_pos h]
    rfl
  | uncertain =>
    have h : affectedBlockIds s.ledger observedAt = [] := h
    change observeUncertain s observedAt = .ok s
    unfold observeUncertain
    dsimp only
    rw [if_pos h]
    rfl

/-! ### What a report leaves -/

/-- A block a running report leaves running was active. -/
theorem active_of_observedRunning (hb : b ∈ L.blocks)
    (h : (observedRunningBlock L observedAt b).state = .running) :
    b.blockId ∈ activeBlockIds L (dispatchingBlockIds L observedAt) := by
  refine mem_activeBlockIds.mpr ⟨b, hb, rfl, ?_⟩
  by_cases h_dispatching : b.blockId ∈ dispatchingBlockIds L observedAt
  · exact Or.inr h_dispatching
  · refine Or.inl ?_
    by_cases h_committed : b.state = .committed
    · rw [h_committed]
      decide
    · rw [observedRunningBlock_other h_dispatching h_committed] at h
      rw [h]
      decide

/-- A running report leaves nothing to start. -/
theorem observeRunning_allStarted (h : observeRunning s observedAt = .ok s') :
    AllStarted observedAt s'.ledger := by
  obtain ⟨-, h_blocks, h_jobs, -⟩ := observeRunning_ok h
  constructor
  · refine List.eq_nil_iff_forall_not_mem.mpr fun id h_id => ?_
    obtain ⟨j', hj', h_parent, h_j, ⟨sentAt, h_sent, h_le⟩, b', hb', h_b, h_committing⟩ :=
      mem_dispatchingBlockIds.mp h_id
    rw [h_jobs] at hj'
    rw [h_blocks] at hb'
    obtain ⟨j, hj, rfl⟩ := List.mem_map.mp hj'
    obtain ⟨b, hb, rfl⟩ := List.mem_map.mp hb'
    -- a job that is still dispatching was not changed, and neither was its block
    have h_job : observedRunningJob s.ledger observedAt j = j := by
      refine (observedRunningJob_cases s.ledger observedAt j).resolve_right ?_
      rintro ⟨h_running, -⟩
      rw [h_running] at h_j
      exact nomatch h_j
    rw [h_job] at h_parent h_j h_sent
    rw [blockId_of_identity (observedRunningBlock_identity s.ledger observedAt b)] at h_b
    by_cases h_dispatching : b.blockId ∈ dispatchingBlockIds s.ledger observedAt
    · rw [observedRunningBlock_dispatching h_dispatching] at h_committing
      exact nomatch h_committing
    · refine h_dispatching (mem_dispatchingBlockIds.mpr
        ⟨j, hj, h_parent.trans h_b.symm, h_j, ⟨sentAt, h_sent, h_le⟩, b, hb, rfl, ?_⟩)
      by_cases h_committed : b.state = .committed
      · rw [observedRunningBlock_committed hb h_committed] at h_committing
        exact nomatch h_committing
      · rw [observedRunningBlock_other h_dispatching h_committed] at h_committing
        exact h_committing
  -- no block is left committed
  · rw [h_blocks, List.forall_mem_map]
    intro b hb h_committed
    by_cases h_dispatching : b.blockId ∈ dispatchingBlockIds s.ledger observedAt
    · rw [observedRunningBlock_dispatching h_dispatching] at h_committed
      exact nomatch h_committed
    · by_cases h_state : b.state = .committed
      · rw [observedRunningBlock_committed hb h_state] at h_committed
        exact nomatch h_committed
      · rw [observedRunningBlock_other h_dispatching h_state] at h_committed
        exact h_state h_committed
  · rw [h_blocks, List.forall_mem_map]
    intro b hb h_running j' hj' h_accepted
    obtain ⟨hj', h_parent⟩ := mem_jobsOf.mp hj'
    rw [h_jobs] at hj'
    obtain ⟨j, -, rfl⟩ := List.mem_map.mp hj'
    have h_active := active_of_observedRunning hb h_running
    rcases observedRunningJob_cases s.ledger observedAt j with h_same | ⟨h_started, -⟩
    · -- an accepted job of an active block would have been started
      rw [h_same] at h_accepted h_parent
      rw [blockId_of_identity (observedRunningBlock_identity s.ledger observedAt b)] at h_parent
      rw [← h_parent] at h_active
      have h_state := congrArg QueueJob.state (observedRunningJob_active h_active h_accepted)
      rw [h_same, QueueLedger.changedJob_state, h_accepted] at h_state
      exact nomatch h_state
    · rw [h_started] at h_accepted
      exact nomatch h_accepted

/-- A bulk outcome leaves no affected block, when what it writes is neither active nor
committing. -/
theorem AffectedRewritten.settles {f : QueueBlock → QueueBlock} {g : QueueJob → QueueJob}
    (h : AffectedRewritten f g observedAt s s')
    (hf : ∀ b, (f b).state ≠ .committing)
    (hg : ∀ j, (g j).state ∉ activeJobStates) :
    affectedBlockIds s'.ledger observedAt = [] := by
  -- an active job that is left belongs to a block that was not affected
  have h_left : ∀ j' ∈ s'.ledger.jobs, j'.state ∈ activeJobStates →
      j' ∈ s.ledger.jobs ∧ j'.blockId ∉ affectedBlockIds s.ledger observedAt := by
    rw [h.jobs, List.forall_mem_map]
    intro j hj h_active
    by_cases h_sel : j.blockId ∈ affectedBlockIds s.ledger observedAt ∧ j.state ∈ activeJobStates
    · rw [updateIf_pos (by simpa using h_sel)] at h_active
      exact absurd h_active (hg j)
    · rw [updateIf_neg (by simpa using h_sel)] at h_active ⊢
      exact ⟨hj, fun h_affected => h_sel ⟨h_affected, h_active⟩⟩
  -- whatever would be affected now was affected before
  refine List.eq_nil_iff_forall_not_mem.mpr fun id h_id => ?_
  rcases mem_affectedBlockIds.mp h_id with ⟨j, hj, rfl, h_j⟩ | h_dispatching
  · obtain ⟨hj₀, h_not⟩ := h_left j hj (List.mem_cons_of_mem _ h_j)
    exact h_not (mem_affectedBlockIds.mpr (Or.inl ⟨j, hj₀, rfl, h_j⟩))
  · obtain ⟨j, hj, rfl, h_j, h_sent, b', hb', h_b, h_committing⟩ :=
      mem_dispatchingBlockIds.mp h_dispatching
    obtain ⟨hj₀, h_not⟩ := h_left j hj (by rw [h_j]; decide)
    rw [h.blocks] at hb'
    obtain ⟨b, hb, rfl⟩ := List.mem_map.mp hb'
    by_cases h_sel : b.blockId ∈ affectedBlockIds s.ledger observedAt
    · rw [updateIf_pos (by simpa using h_sel)] at h_committing
      exact hf b h_committing
    · rw [updateIf_neg (by simpa using h_sel)] at h_b h_committing
      exact h_not (mem_affectedBlockIds.mpr (Or.inr (mem_dispatchingBlockIds.mpr
        ⟨j, hj₀, rfl, h_j, h_sent, b, hb, h_b, h_committing⟩)))

/-- **A report leaves nothing it is about.** -/
theorem observe_settles (h : observe outcome observedAt revisionIds s = .ok s') :
    Settled outcome observedAt s'.ledger := by
  cases outcome with
  | running => exact observeRunning_allStarted h
  | completed => exact observeCompleted_settles h
  | failed =>
    refine (observeFailed_ok h).settles (fun b => nofun) fun j => ?_
    show JobState.failed ∉ activeJobStates
    decide
  | uncertain =>
    refine (observeUncertain_ok h).settles (fun b => nofun) fun j => ?_
    show JobState.uncertain ∉ activeJobStates
    decide

/-! ### At a later instant -/

/-- When no job was sent after an instant, a report at another one is about no more
dispatches. -/
theorem dispatchingBlockIds_subset
    (h : ∀ j ∈ L.jobs, ∀ sentAt ∈ j.sentAt, sentAt ≤ observedAt) :
    dispatchingBlockIds L laterAt ⊆ dispatchingBlockIds L observedAt := by
  intro id h_id
  obtain ⟨j, hj, h_parent, h_j, ⟨sentAt, h_sent, -⟩, h_block⟩ := mem_dispatchingBlockIds.mp h_id
  exact mem_dispatchingBlockIds.mpr
    ⟨j, hj, h_parent, h_j, ⟨sentAt, h_sent, h j hj sentAt h_sent⟩, h_block⟩

/-- So a ledger that is settled stays settled. -/
theorem Settled.later (h : Settled outcome observedAt L)
    (h_sent : ∀ j ∈ L.jobs, ∀ sentAt ∈ j.sentAt, sentAt ≤ observedAt) :
    Settled outcome laterAt L := by
  -- a later report can only find dispatches that the earlier one would have found
  have h_sub : dispatchingBlockIds L laterAt ⊆ dispatchingBlockIds L observedAt :=
    dispatchingBlockIds_subset h_sent
  have h_affected (h_none : affectedBlockIds L observedAt = []) :
      affectedBlockIds L laterAt = [] := by
    refine List.eq_nil_iff_forall_not_mem.mpr fun id h_id => ?_
    have h_mem : id ∈ affectedBlockIds L observedAt := mem_affectedBlockIds.mpr
      ((mem_affectedBlockIds.mp h_id).imp_right fun h_dispatching => h_sub h_dispatching)
    rw [h_none] at h_mem
    exact List.not_mem_nil h_mem
  cases outcome with
  | running =>
    have h : AllStarted observedAt L := h
    refine { h with dispatching := List.eq_nil_iff_forall_not_mem.mpr fun id h_id => ?_ }
    have h_mem := h_sub h_id
    rw [h.dispatching] at h_mem
    exact List.not_mem_nil h_mem
  | completed => exact h
  | failed => exact h_affected h
  | uncertain => exact h_affected h

/-- A report keeps when the jobs were sent. -/
theorem sent_of_observe (h : observe outcome observedAt revisionIds s = .ok s')
    (h_sent : ∀ j ∈ s.ledger.jobs, ∀ sentAt ∈ j.sentAt, sentAt ≤ observedAt) :
    ∀ j ∈ s'.ledger.jobs, ∀ sentAt ∈ j.sentAt, sentAt ≤ observedAt := by
  intro j' hj'
  obtain ⟨j, hj, rfl | h_moved⟩ := (observe_rewrites h).job_before hj'
  · exact h_sent j' hj
  · rw [h_moved.sentAt]
    exact h_sent j hj

/-- **Repeating a report does nothing.** The same report at the same instant, or at a later
one if no job was sent after the first, returns an equal state, and applying it through the
coordinator neither saves nor publishes. -/
theorem repeated_observation_is_noop (s s' : PlannerState) (outcome : ObservationOutcome)
    (observedAt laterAt : Instant) (revisionIds revisionIds' : ℕ → String)
    (h : observe outcome observedAt revisionIds s = .ok s')
    (h_later : laterAt = observedAt ∨ observedAt ≤ laterAt ∧
      ∀ j ∈ s.ledger.jobs, ∀ sentAt ∈ j.sentAt, sentAt ≤ observedAt) :
    observe outcome laterAt revisionIds' s' = .ok s' ∧
      ∀ (c : Coordinator PlannerState RuntimeFlags PyError) (generation : Option ℕ),
        c.stored.state = s' →
          let c' := c.acquire (observationCall outcome laterAt revisionIds' generation)
          c'.stored = c.stored ∧ c'.holder = none ∧ c'.trace = c.trace := by
  -- a report settles what it finds, and an equal state is neither saved nor published
  have h_settled : Settled outcome laterAt s'.ledger := by
    rcases h_later with rfl | ⟨-, h_sent⟩
    · exact observe_settles h
    · exact (observe_settles h).later (sent_of_observe h h_sent)
  have h_same := h_settled.observe revisionIds'
  refine ⟨h_same, fun c generation h_state => Coordinator.acquire_unchanged ?_⟩
  rw [h_state]
  dsimp only [observationCall]
  split
  · rfl
  · exact h_same

/-- The kitchen was sent at 1, and is reported to run at 3 and at 5. -/
theorem repeated_observation_is_noop_kitchen : ∃ s',
    observe .running 3 kitchenIds dispatchedState = .ok s' ∧
      observe .running 5 kitchenIds s' = .ok s' := by
  obtain ⟨s', h⟩ : ∃ s', observe .running 3 kitchenIds dispatchedState = .ok s' := ⟨_, rfl⟩
  refine ⟨s', h, (repeated_observation_is_noop dispatchedState s' .running 3 5 kitchenIds kitchenIds
    h (Or.inr ⟨by decide, ?_⟩)).1⟩
  decide

end VacuumPlanner
