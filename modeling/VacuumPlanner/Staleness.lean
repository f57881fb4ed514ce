import VacuumPlanner.Commute

/-!
# Reports and later dispatches

A report of the vacuum may be applied long after it was made, and by then jobs may have been
sent that it cannot be about. `_dispatching_block_ids` leaves out the committing blocks of
such jobs, but the four commands also act on accepted and running jobs, whose `sent_at` they
never compare with the report.

Three of them write the instant of the report next to `sent_at`: as `started_at`, or as
`finished_at`. There the chronology of the job refuses the whole command
(`not_sentAfter`). `_uncertain` writes no instant, and nothing refuses it: it quarantines a
later dispatch as soon as its block counts as affected, and this is the only case
(`later_dispatch_spared_iff`).
-/

namespace VacuumPlanner

open Framework

variable {L L' : QueueLedger} {s s' : PlannerState} {observedAt : Instant}
  {outcome : ObservationOutcome} {revisionIds : ℕ → String} {b : QueueBlock} {j j' : QueueJob}

/-- The job was sent after the report. -/
def SentAfter (observedAt : Instant) (j : QueueJob) : Prop :=
  ∃ sentAt ∈ j.sentAt, observedAt < sentAt

instance (observedAt : Instant) (j : QueueJob) : Decidable (SentAfter observedAt j) :=
  inferInstanceAs (Decidable (∃ sentAt ∈ j.sentAt, _))

/-- What a report may move a block for: an active job that was not sent later. A running
report moves a committed block whatever its jobs are; then no accepted job of it may have
been sent later. -/
def Grounds (outcome : ObservationOutcome) (observedAt : Instant) (b : QueueBlock)
    (children : List QueueJob) : Prop :=
  (∃ j ∈ children, j.state ∈ activeJobStates ∧ ¬ SentAfter observedAt j) ∨
    outcome = .running ∧ b.state = .committed ∧
      ∀ j ∈ children, j.state = .accepted → ¬ SentAfter observedAt j

/-- The jobs sent after the report are as they were, and no block is moved on account of
them. -/
structure SparesLater (outcome : ObservationOutcome) (observedAt : Instant)
    (L L' : QueueLedger) : Prop where
  jobs : ∀ j ∈ L.jobs, SentAfter observedAt j → j ∈ L'.jobs
  blocks : ∀ b ∈ L.blocks, b ∈ L'.blocks ∨ Grounds outcome observedAt b (jobsOf L.jobs b)

theorem SparesLater.refl (outcome : ObservationOutcome) (observedAt : Instant)
    (L : QueueLedger) : SparesLater outcome observedAt L L where
  jobs _ hj _ := hj
  blocks _ hb := Or.inl hb

/-! ### Refused by the chronology -/

/-- A job that was started or finished at an instant was not sent after it. -/
theorem not_sentAfter (hj : j ∈ L.jobs)
    (h : j.startedAt = some observedAt ∨ j.finishedAt = some observedAt) :
    ¬ SentAfter observedAt j := by
  rintro ⟨sentAt, h_sent, h_lt⟩
  obtain ⟨-, -, -, h_started, h_finished, -⟩ :=
    chronological_four.mp (L.jobLifecycle hj).chronological
  have h_le : sentAt ≤ observedAt := by
    rcases h with h | h
    · exact h_started sentAt h_sent observedAt h
    · exact h_finished sentAt h_sent observedAt h
  exact absurd h_lt (not_lt.mpr h_le)

/-- So a rewrite that records the instant of the report spares the jobs sent later. -/
theorem not_sentAfter_of_rewritten (hj' : j' ∈ L'.jobs) (h_sent : j'.sentAt = j.sentAt)
    (h : j'.startedAt = some observedAt ∨ j'.finishedAt = some observedAt) :
    ¬ SentAfter observedAt j := by
  have h_not := not_sentAfter hj' h
  unfold SentAfter at h_not ⊢
  rw [h_sent] at h_not
  exact h_not

/-- **A running report** spares later dispatches. -/
theorem observeRunning_sparesLater (h : observeRunning s observedAt = .ok s') :
    SparesLater .running observedAt s.ledger s'.ledger := by
  obtain ⟨-, h_blocks, h_jobs, -⟩ := observeRunning_ok h
  have h_mem : ∀ j ∈ s.ledger.jobs, observedRunningJob s.ledger observedAt j ∈ s'.ledger.jobs := by
    intro j hj
    rw [h_jobs]
    exact List.mem_map_of_mem hj
  constructor
  · intro j hj h_late
    have h_new := h_mem j hj
    -- a job that is rewritten has started at the time of the report, so it was sent before it
    rcases observedRunningJob_cases s.ledger observedAt j with h_same | ⟨-, h_sent, h_started⟩
    · rw [h_same] at h_new
      exact h_new
    · exact absurd h_late (not_sentAfter_of_rewritten h_new h_sent (Or.inl h_started))
  · intro b hb
    by_cases h_dispatching : b.blockId ∈ dispatchingBlockIds s.ledger observedAt
    -- a block that starts has a job that was sent before the report
    · obtain ⟨-, j, hj, h_j, sentAt, h_sent, h_le⟩ := (dispatching_iff hb).mp h_dispatching
      refine Or.inr (Or.inl ⟨j, hj, ?_, ?_⟩)
      · rw [h_j]
        decide
      · rintro ⟨t, h_t, h_lt⟩
        obtain rfl := Option.mem_unique h_sent h_t
        exact absurd h_lt (not_lt.mpr h_le)
    · by_cases h_state : b.state = .committed
      · refine Or.inr (Or.inr ⟨rfl, h_state, fun j hj h_j => ?_⟩)
        obtain ⟨hj, h_parent⟩ := mem_jobsOf.mp hj
        have h_new := h_mem j hj
        rw [observedRunningJob_accepted hb h_parent (by rw [h_state]; decide) h_j] at h_new
        exact not_sentAfter_of_rewritten h_new rfl (Or.inl rfl)
      · refine Or.inl ?_
        rw [h_blocks, List.mem_map]
        exact ⟨b, hb, observedRunningBlock_other h_dispatching h_state⟩

/-- A completion spares later dispatches: the completed job was sent in time, and no other
job is touched. -/
theorem completeRunningJob_sparesLater {entry : String × String}
    (h : completeRunningJob observedAt s entry = .ok s') :
    (∀ j ∈ s.ledger.jobs, SentAfter observedAt j → j ∈ s'.ledger.jobs) ∧
      (∀ j ∈ s'.ledger.jobs, j.state = .running → j ∈ s.ledger.jobs) ∧
      ∀ b ∈ s.ledger.blocks, b ∈ s'.ledger.blocks ∨
        ∃ j ∈ jobsOf s.ledger.jobs b, j.state = .running ∧ ¬ SentAfter observedAt j := by
  obtain ⟨k, hk, -, h_running, h_jobs, f, h_blocks, -⟩ := completeRunningJob_ok h
  -- a job sent after the report could not be completed at the time of the report
  have h_in_time : ¬ SentAfter observedAt k := by
    have h_new :
        QueueLedger.changedJob .completed observedAt none none none k ∈ s'.ledger.jobs := by
      rw [h_jobs, List.mem_map]
      exact ⟨k, hk, updateIf_pos (decide_eq_true rfl)⟩
    exact not_sentAfter_of_rewritten h_new rfl (Or.inr rfl)
  refine ⟨fun j hj h_late => ?_, fun j hj h_j => ?_, fun b hb => ?_⟩
  · have h_other : j.jobId ≠ k.jobId := by
      intro h_id
      rw [eq_of_key s.ledger.valid.jobIds hj hk h_id] at h_late
      exact h_in_time h_late
    rw [h_jobs, List.mem_map]
    exact ⟨j, hj, updateIf_neg (by simpa using h_other)⟩
  · rw [h_jobs, List.mem_map] at hj
    obtain ⟨j₀, hj₀, rfl⟩ := hj
    unfold updateIf at h_j ⊢
    split at h_j
    · rw [QueueLedger.changedJob_state] at h_j
      exact nomatch h_j
    · next h_sel =>
      rw [if_neg h_sel]
      exact hj₀
  · -- only the block of the completed job can change
    by_cases h_id : b.blockId = k.blockId
    · exact Or.inr ⟨k, mem_jobsOf.mpr ⟨hk, h_id.symm⟩, h_running, h_in_time⟩
    · refine Or.inl ?_
      rw [h_blocks, List.mem_map]
      exact ⟨b, hb, updateIf_neg (by simpa using h_id)⟩

/-- **A completed report** spares later dispatches. -/
theorem completeRunningJobs_sparesLater {entries : List (String × String)}
    (h : entries.foldlM (completeRunningJob observedAt) s = .ok s') :
    (∀ j ∈ s.ledger.jobs, SentAfter observedAt j → j ∈ s'.ledger.jobs) ∧
      ∀ b ∈ s.ledger.blocks, b ∈ s'.ledger.blocks ∨
        ∃ j ∈ jobsOf s.ledger.jobs b, j.state = .running ∧ ¬ SentAfter observedAt j := by
  induction entries generalizing s with
  | nil =>
    obtain rfl : s = s' := pure_eq_ok.mp h
    exact ⟨fun j hj _ => hj, fun b hb => Or.inl hb⟩
  | cons entry entries ih =>
    rw [List.foldlM_cons] at h
    obtain ⟨s₁, h₁, h_rest⟩ := bind_eq_ok.mp h
    obtain ⟨h_jobs₁, h_running₁, h_blocks₁⟩ := completeRunningJob_sparesLater h₁
    obtain ⟨h_jobs, h_blocks⟩ := ih h_rest
    refine ⟨fun j hj h_late => h_jobs j (h_jobs₁ j hj h_late) h_late, fun b hb => ?_⟩
    rcases h_blocks₁ b hb with hb₁ | h_grounds
    · refine (h_blocks b hb₁).imp_right ?_
      -- what runs after one completion ran before it
      rintro ⟨j, hj, h_running, h_in_time⟩
      obtain ⟨hj, h_parent⟩ := mem_jobsOf.mp hj
      exact ⟨j, mem_jobsOf.mpr ⟨h_running₁ j hj h_running, h_parent⟩, h_running, h_in_time⟩
    · exact Or.inr h_grounds

/-- An active job of a block a bulk outcome affects was not sent later, when the outcome
records its instant in the jobs. -/
theorem AffectedRewritten.sparesLater {f : QueueBlock → QueueBlock} {g : QueueJob → QueueJob}
    (h : AffectedRewritten f g observedAt s s')
    (h_active : ∀ j ∈ s.ledger.jobs, j.blockId ∈ affectedBlockIds s.ledger observedAt →
      j.state ∈ activeJobStates → ¬ SentAfter observedAt j) :
    SparesLater outcome observedAt s.ledger s'.ledger := by
  constructor
  · intro j hj h_late
    rw [h.jobs, List.mem_map]
    refine ⟨j, hj, updateIf_neg ?_⟩
    rw [decide_eq_true_iff]
    exact fun h_sel => h_active j hj h_sel.1 h_sel.2 h_late
  · intro b hb
    by_cases h_affected : b.blockId ∈ affectedBlockIds s.ledger observedAt
    · obtain ⟨j, hj, h_parent, h_j⟩ := exists_active_of_affected h_affected
      refine Or.inr (Or.inl ⟨j, mem_jobsOf.mpr ⟨hj, h_parent⟩, h_j, ?_⟩)
      exact h_active j hj (by rw [h_parent]; exact h_affected) h_j
    · refine Or.inl ?_
      rw [h.blocks, List.mem_map]
      exact ⟨b, hb, updateIf_neg (by simpa using h_affected)⟩

/-- **A failed report** spares later dispatches. -/
theorem observeFailed_sparesLater (h : observeFailed s observedAt = .ok s') :
    SparesLater .failed observedAt s.ledger s'.ledger := by
  have h_rewritten := observeFailed_ok h
  refine h_rewritten.sparesLater fun j hj h_affected h_j => ?_
  have h_new : observedFailedJob observedAt j ∈ s'.ledger.jobs := by
    rw [h_rewritten.jobs, List.mem_map]
    exact ⟨j, hj, updateIf_pos (by simpa using ⟨h_affected, h_j⟩)⟩
  exact not_sentAfter_of_rewritten h_new rfl (Or.inr rfl)

/-! ### Quarantined -/

/-- A job sent after the report that an uncertain report is about: it was accepted or runs, or
it is dispatching next to a job the report is about. -/
def SweptUp (L : QueueLedger) (observedAt : Instant) (j : QueueJob) : Prop :=
  SentAfter observedAt j ∧ (j.state ∈ [JobState.accepted, .running] ∨
    j.state = .dispatching ∧
      ((∃ k ∈ L.jobs, k.blockId = j.blockId ∧ k.state ∈ [JobState.accepted, .running]) ∨
        j.blockId ∈ dispatchingBlockIds L observedAt))

theorem sweptUp_iff (hj : j ∈ L.jobs) : SweptUp L observedAt j ↔
    SentAfter observedAt j ∧ j.blockId ∈ affectedBlockIds L observedAt ∧
      j.state ∈ activeJobStates := by
  unfold SweptUp
  rw [mem_affectedBlockIds]
  refine and_congr_right fun _ => ?_
  constructor
  · rintro (h_state | ⟨h_state, h_affected⟩)
    · exact ⟨Or.inl ⟨j, hj, rfl, h_state⟩, List.mem_cons_of_mem _ h_state⟩
    · exact ⟨h_affected, by rw [h_state]; decide⟩
  · rintro ⟨h_affected, h_active⟩
    rcases List.mem_cons.mp h_active with h_state | h_state
    · exact Or.inr ⟨h_state, h_affected⟩
    · exact Or.inl h_state

/-- **An uncertain report** spares the later dispatches exactly when it is about none. -/
theorem observeUncertain_sparesLater_iff (h : observeUncertain s observedAt = .ok s') :
    SparesLater .uncertain observedAt s.ledger s'.ledger ↔
      ∀ j ∈ s.ledger.jobs, ¬ SweptUp s.ledger observedAt j := by
  have h_rewritten := observeUncertain_ok h
  constructor
  · intro h_spares j hj h_swept
    obtain ⟨h_late, h_affected, h_active⟩ := (sweptUp_iff hj).mp h_swept
    have h_new : { j with state := .uncertain } ∈ s'.ledger.jobs := by
      rw [h_rewritten.jobs, List.mem_map]
      exact ⟨j, hj, updateIf_pos (by simpa using ⟨h_affected, h_active⟩)⟩
    -- the job is there as it was, and quarantined
    have h_same := eq_of_key s'.ledger.valid.jobIds h_new (h_spares.jobs j hj h_late) rfl
    have h_uncertain : j.state = .uncertain := (congrArg QueueJob.state h_same).symm
    rw [h_uncertain] at h_active
    exact absurd h_active (by decide)
  · intro h_none
    refine h_rewritten.sparesLater fun j hj h_affected h_active h_late => ?_
    exact h_none j hj ((sweptUp_iff hj).mpr ⟨h_late, h_affected, h_active⟩)

/-- **When a report spares later dispatches.** Applied by the coordinator, a report changes
no job sent after it and moves no block on account of one, unless it is uncertain and such a
job was accepted, runs, or is dispatching next to a job the report is about; then it does
not. -/
theorem later_dispatch_spared_iff (s : PlannerState) (outcome : ObservationOutcome)
    (observedAt : Instant) (revisionIds : ℕ → String) :
    SparesLater outcome observedAt s.ledger (report outcome observedAt revisionIds s).ledger ↔
      (outcome = .uncertain → ∀ j ∈ s.ledger.jobs, ¬ SweptUp s.ledger observedAt j) := by
  by_cases h_run : ∃ s', observe outcome observedAt revisionIds s = .ok s'
  · obtain ⟨s', h⟩ := h_run
    have h_report : report outcome observedAt revisionIds s = s' := attempt_of_ok h
    rw [h_report]
    cases outcome with
    | running => exact iff_of_true (observeRunning_sparesLater h) nofun
    | completed =>
      obtain ⟨h_jobs, h_blocks⟩ := completeRunningJobs_sparesLater h
      refine iff_of_true ⟨h_jobs, fun b hb => (h_blocks b hb).imp_right ?_⟩ nofun
      rintro ⟨j, hj, h_running, h_in_time⟩
      exact Or.inl ⟨j, hj, by rw [h_running]; decide, h_in_time⟩
    | failed => exact iff_of_true (observeFailed_sparesLater h) nofun
    | uncertain => exact (observeUncertain_sparesLater_iff h).trans ⟨fun h _ => h, fun h => h rfl⟩
  · -- a refused report changes nothing, and an uncertain one is never refused
    rw [report_refused h_run]
    refine iff_of_true (.refl outcome observedAt s.ledger) fun h_outcome => ?_
    subst h_outcome
    exact absurd (observeUncertain_isOk s observedAt) h_run

/-- The kitchen was sent at 1 and accepted at 2. -/
def acceptedState : PlannerState :=
  accept "block" (sealedJobs kitchenSnapshot 0 kitchenIds) 2 dispatchedState

/-- **A later dispatch is quarantined.** The vacuum was unavailable at instant 0, and the
report is applied after the kitchen was sent and accepted. -/
theorem later_dispatch_quarantined :
    ¬ SparesLater .uncertain 0 acceptedState.ledger
      (report .uncertain 0 kitchenIds acceptedState).ledger := by
  intro h
  have h_lost : ¬ ∀ j ∈ acceptedState.ledger.jobs, SentAfter 0 j →
      j ∈ (report .uncertain 0 kitchenIds acceptedState).ledger.jobs := by decide
  exact h_lost h.jobs

end VacuumPlanner
