import VacuumPlanner.Commands

/-!
# Sequential blocks run one job at a time

A `PLANNER_SEQUENTIAL` block hands its jobs to the vacuum one by one, in the order of their
positions. Only the dispatch check says so, and it says it once: what happens afterwards to
the jobs before and after the one dispatched is up to the other commands, which may skip,
cancel, fail, quarantine or retry them in any order.

The invariant is `InTurn`: the jobs before one that was ever dispatched have ended. No quiet
move touches a job that has ended, so it can only be broken by a dispatch, and the two sides
of the check are what the two ways of breaking it need. A job that is dispatched has only
ended jobs before it. And it has only pending jobs after it, none of which was ever
dispatched, so an ended job is not dispatched again under a later one.
-/

namespace VacuumPlanner

open Framework

variable {L L' : QueueLedger} {j j' k k' : QueueJob}

/-- The jobs before one of a sequential block that was ever dispatched have ended. -/
def InTurn (L : QueueLedger) : Prop :=
  ∀ j ∈ L.jobs, L.Sequential j → 0 < j.attempt →
    ∀ k ∈ L.jobs, k.blockId = j.blockId → k.position < j.position → k.state.terminal = true

theorem InTurn.empty : InTurn QueueLedger.empty := fun _ h => absurd h List.not_mem_nil

/-- A later job of its sequential block was already dispatched. -/
structure Overtaken (L : QueueLedger) (k : QueueJob) : Prop where
  sequential : L.Sequential k
  later : ∃ j ∈ L.jobs, j.blockId = k.blockId ∧ k.position < j.position ∧ 0 < j.attempt

/-! ### One command -/

/-- The jobs of one block that a command leaves in the ledger, under the same parent. -/
theorem Sequential.of_identity {R : QueueJob → QueueJob → Prop} (h_step : Rewrites R L L')
    (h_id : j'.identity = j.identity) (h : L'.Sequential j') : L.Sequential j := by
  obtain ⟨b', hb', h_parent, h_sequential⟩ := h
  obtain ⟨i, h_i'⟩ := List.getElem?_of_mem hb'
  obtain ⟨h_lt, -⟩ := List.getElem?_eq_some_iff.mp h_i'
  obtain ⟨b, h_i, h_kept⟩ := h_step.blocks.getElem?_of_lt (h_step.blockCount ▸ h_lt) h_i'
  refine ⟨b, List.mem_of_getElem? h_i, ?_, ?_⟩
  · rw [← parent_of_identity h_id, ← blockId_of_identity h_kept.identity]
    exact h_parent
  · rw [← strategy_of_identity h_kept.identity]
    exact h_sequential

/-- And back. -/
theorem Sequential.kept {R : QueueJob → QueueJob → Prop} (h_step : Follows R L L')
    (h_id : j'.identity = j.identity) (h : L.Sequential j) : L'.Sequential j' := by
  obtain ⟨b, hb, h_parent, h_sequential⟩ := h
  obtain ⟨b', hb', h_kept⟩ := h_step.blocks.exists_mem hb
  refine ⟨b', hb', ?_, ?_⟩
  · rw [blockId_of_identity h_kept.identity, parent_of_identity h_id]
    exact h_parent
  · rw [strategy_of_identity h_kept.identity]
    exact h_sequential

/-- A quiet move leaves a job that has ended alone, and dispatches nothing. -/
theorem InTurn.quiet (h : InTurn L) (h_step : Rewrites (JobMoved quietMoves) L L') :
    InTurn L' := by
  intro j' hj' h_seq' h_sent' k' hk' h_parent h_before
  obtain ⟨j, hj, h_j⟩ := h_step.job_before hj'
  obtain ⟨k, hk, h_k⟩ := h_step.job_before hk'
  have h_id : j'.identity = j.identity ∧ j'.attempt = j.attempt := by
    rcases h_j with rfl | h_moved
    · exact ⟨rfl, rfl⟩
    · exact ⟨h_moved.identity, h_moved.attempt⟩
  have h_id_k : k'.identity = k.identity := by
    rcases h_k with rfl | h_moved
    · rfl
    · exact h_moved.identity
  -- identities, and so places, are kept: the order is that of the jobs before
  rw [parent_of_identity h_id.1, parent_of_identity h_id_k] at h_parent
  rw [position_of_identity h_id.1, position_of_identity h_id_k] at h_before
  have h_ended : k.state.terminal = true :=
    h j hj (Sequential.of_identity h_step h_id.1 h_seq') (h_id.2 ▸ h_sent') k hk h_parent h_before
  rcases h_k with rfl | h_moved
  · exact h_ended
  · rw [h_moved.source_open (List.Subset.refl _)] at h_ended
    exact absurd h_ended Bool.false_ne_true

/-- A dispatch finds the jobs before it ended, and those after it never dispatched. -/
theorem InTurn.dispatches {jobId : String} (h : InTurn L)
    (h_step : Rewrites (DispatchedInTurn L jobId) L L') : InTurn L' := by
  intro j' hj' h_seq' h_sent' k' hk' h_parent h_before
  obtain ⟨j, hj, h_j⟩ := h_step.job_before hj'
  obtain ⟨k, hk, h_k⟩ := h_step.job_before hk'
  have h_identity : ∀ {x x' : QueueJob}, x' = x ∨ DispatchedInTurn L jobId x x' →
      x'.identity = x.identity := by
    intro x x' h_x
    rcases h_x with rfl | h_sent
    · rfl
    · obtain ⟨sentAt, h_dispatched⟩ := h_sent.dispatched
      exact h_dispatched.identity
  rw [parent_of_identity (h_identity h_j), parent_of_identity (h_identity h_k)] at h_parent
  rw [position_of_identity (h_identity h_j), position_of_identity (h_identity h_k)] at h_before
  have h_seq : L.Sequential j := Sequential.of_identity h_step (h_identity h_j) h_seq'
  have h_seq_k : L.Sequential k := by
    obtain ⟨b, hb, h_b, h_sequential⟩ := h_seq
    exact ⟨b, hb, h_b.trans h_parent.symm, h_sequential⟩
  rcases h_j with rfl | h_j
  · have h_ended : k.state.terminal = true := h j' hj h_seq h_sent' k hk h_parent h_before
    rcases h_k with rfl | h_k
    · exact h_ended
    · -- `k` is dispatched below a job that is not pending
      have h_pending : j'.state = .pending := h_k.later h_seq_k j' hj h_parent.symm h_before
      rw [((QueueLedger.jobLifecycle hj).pending h_pending).1] at h_sent'
      exact absurd h_sent' (lt_irrefl 0)
  · rcases h_k with rfl | h_k
    · exact h_j.earlier h_seq k' hk h_parent h_before
    · -- the two are one job
      have h_same : k = j := eq_of_key L.valid.jobIds hk hj
        ((h_k.alone h_seq_k).trans (h_j.alone h_seq).symm)
      rw [h_same] at h_before
      exact absurd h_before (lt_irrefl _)

/-- A new block has only jobs that were never dispatched, and takes no job of an old one. -/
theorem InTurn.seals {block : QueueBlock} {children : List QueueJob} (h : InTurn L)
    (h_step : BlockSealed L L' block children) : InTurn L' := by
  intro j hj h_seq h_sent k hk h_parent h_before
  rw [h_step.jobs] at hj hk
  rcases List.mem_append.mp hj with hj | hj
  · obtain ⟨b₀, hb₀, h_b₀⟩ := QueueLedger.exists_parent hj
    have h_seq_old : L.Sequential j := by
      obtain ⟨b, hb, h_b, h_sequential⟩ := h_seq
      rw [h_step.blocks] at hb
      rcases List.mem_append.mp hb with hb | hb
      · exact ⟨b, hb, h_b, h_sequential⟩
      · rw [List.mem_singleton.mp hb] at h_b
        exact absurd (h_b₀.trans h_b.symm) (h_step.fresh hb₀)
    rcases List.mem_append.mp hk with hk | hk
    · exact h j hj h_seq_old h_sent k hk h_parent h_before
    · exact absurd (h_b₀.trans (h_parent.symm.trans (h_step.pending k hk).1))
        (h_step.fresh hb₀)
  · rw [(h_step.pending j hj).2.2.1] at h_sent
    exact absurd h_sent (lt_irrefl 0)

theorem InTurn.step {c : QueueCommand} (h : InTurn L) (h_run : c.run L = .ok L') : InTurn L' := by
  cases QueueCommand.run_step h_run with
  | quiet rewrites => exact h.quiet rewrites
  | dispatches jobId rewrites => exact h.dispatches rewrites
  | seals block children sealed => exact h.seals sealed

/-! ### Overtaken jobs -/

/-- An overtaken job has ended. -/
theorem Overtaken.ended (h : Overtaken L k) (h_turn : InTurn L) (hk : k ∈ L.jobs) :
    k.state.terminal = true := by
  obtain ⟨j, hj, h_parent, h_before, h_sent⟩ := h.later
  obtain ⟨b, hb, h_b, h_sequential⟩ := h.sequential
  exact h_turn j hj ⟨b, hb, h_b.trans h_parent.symm, h_sequential⟩ h_sent k hk h_parent.symm
    h_before

/-- The old job at a position, and what overtook it, after a command that keeps identities
and attempts. -/
theorem Overtaken.kept {R : QueueJob → QueueJob → Prop} (h : Overtaken L k)
    (h_step : Follows R L L')
    (h_R : ∀ x x', R x x' → x'.identity = x.identity ∧ x.attempt ≤ x'.attempt) :
    Overtaken L' k := by
  obtain ⟨j, hj, h_parent, h_before, h_sent⟩ := h.later
  obtain ⟨j', hj', h_j⟩ := h_step.jobs.exists_mem hj
  have h_kept : j'.identity = j.identity ∧ j.attempt ≤ j'.attempt := by
    rcases h_j with rfl | h_moved
    · exact ⟨rfl, le_rfl⟩
    · exact h_R j j' h_moved
  refine ⟨Sequential.kept h_step rfl h.sequential, j', hj', ?_, ?_, ?_⟩
  · rw [parent_of_identity h_kept.1]
    exact h_parent
  · rw [position_of_identity h_kept.1]
    exact h_before
  · exact lt_of_lt_of_le h_sent h_kept.2

/-- **An overtaken job is frozen.** No command rewrites it, in particular none dispatches it
again. -/
theorem Overtaken.step {c : QueueCommand} {i : ℕ} (h : Overtaken L k) (h_turn : InTurn L)
    (h_i : L.jobs[i]? = some k) (h_run : c.run L = .ok L') :
    L'.jobs[i]? = some k ∧ Overtaken L' k := by
  have hk : k ∈ L.jobs := List.mem_of_getElem? h_i
  have h_ended : k.state.terminal = true := h.ended h_turn hk
  cases QueueCommand.run_step h_run with
  | quiet rewrites =>
    obtain ⟨k', h_i', h_k⟩ := rewrites.jobs.exists_getElem? h_i
    refine ⟨?_, h.kept rewrites.toFollows fun x x' h_x => ⟨h_x.identity, h_x.attempt.ge⟩⟩
    -- a rewritten job was open, and an overtaken one has ended
    rcases h_k with rfl | h_moved
    · exact h_i'
    · rw [h_moved.source_open (List.Subset.refl _)] at h_ended
      exact absurd h_ended Bool.false_ne_true
  | dispatches jobId rewrites =>
    obtain ⟨k', h_i', h_k⟩ := rewrites.jobs.exists_getElem? h_i
    refine ⟨?_, h.kept rewrites.toFollows fun x x' h_x => ?_⟩
    · rcases h_k with rfl | h_sent
      · exact h_i'
      · -- a dispatch out of turn: a later job would be pending, but it has been attempted
        obtain ⟨j, hj, h_parent, h_before, h_attempt⟩ := h.later
        have h_pending : j.state = .pending := h_sent.later h.sequential j hj h_parent h_before
        rw [((QueueLedger.jobLifecycle hj).pending h_pending).1] at h_attempt
        exact absurd h_attempt (lt_irrefl 0)
    · obtain ⟨sentAt, h_dispatched⟩ := h_x.dispatched
      refine ⟨h_dispatched.identity, ?_⟩
      rw [h_dispatched.attempt]
      omega
  | seals block children sealed =>
    -- the new records are appended, so the job keeps its place
    obtain ⟨h_lt, -⟩ := List.getElem?_eq_some_iff.mp h_i
    refine ⟨by rw [sealed.jobs, List.getElem?_append_left h_lt]; exact h_i, ?_, ?_⟩
    · obtain ⟨b, hb, h_b⟩ := h.sequential
      exact ⟨b, by rw [sealed.blocks]; exact List.mem_append_left _ hb, h_b⟩
    · obtain ⟨j, hj, h_j⟩ := h.later
      exact ⟨j, by rw [sealed.jobs]; exact List.mem_append_left _ hj, h_j⟩

/-! ### Runs -/

/-- The positions of the jobs of a block are distinct. -/
theorem QueueLedger.eq_of_position {b : QueueBlock} (hb : b ∈ L.blocks)
    (hj : j ∈ jobsOf L.jobs b) (hk : k ∈ jobsOf L.jobs b) (h : j.position = k.position) :
    j = k := by
  have h_nodup : ((listedJobs L.jobs b).map (·.position)).Nodup := by
    rw [(L.valid.owns b hb).positions]
    exact List.nodup_range.map Int.ofNat_injective
  exact eq_of_key h_nodup ((L.valid.mem_listedJobs hb).mpr hj) ((L.valid.mem_listedJobs hb).mpr hk)
    h

/-- Every sequential block has at most one job with the vacuum or uncertain, and the jobs
before one that was ever dispatched have ended. -/
structure SequentialInOrder (L : QueueLedger) : Prop where
  oneActive : ∀ b ∈ L.blocks, b.dispatchStrategy = .plannerSequential →
    ∀ j ∈ jobsOf L.jobs b, ∀ k ∈ jobsOf L.jobs b, j.state ∈ activeStates →
      k.state ∈ activeStates → j = k
  earlierEnded : ∀ b ∈ L.blocks, b.dispatchStrategy = .plannerSequential →
    ∀ j ∈ jobsOf L.jobs b, 0 < j.attempt →
      ∀ k ∈ jobsOf L.jobs b, k.position < j.position → k.state.terminal = true

/-- A job that is with the vacuum or uncertain was dispatched, and has not ended. -/
theorem sent_of_active (hj : j ∈ L.jobs) (h : j.state ∈ activeStates) :
    0 < j.attempt ∧ j.state.terminal = false := by
  have h_lifecycle : JobLifecycle j := L.jobLifecycle hj
  have h_ne : j.attempt ≠ 0 :=
    (h_lifecycle.dispatched (by revert h; cases j.state <;> decide)).1
  refine ⟨lt_of_le_of_ne h_lifecycle.attempt h_ne.symm, ?_⟩
  revert h
  cases j.state <;> decide

theorem InTurn.inOrder (h : InTurn L) : SequentialInOrder L := by
  have h_ended : ∀ b ∈ L.blocks, b.dispatchStrategy = .plannerSequential →
      ∀ j ∈ jobsOf L.jobs b, 0 < j.attempt →
        ∀ k ∈ jobsOf L.jobs b, k.position < j.position → k.state.terminal = true := by
    intro b hb h_sequential j hj h_sent k hk h_before
    obtain ⟨h_j, h_parent⟩ := mem_jobsOf.mp hj
    obtain ⟨h_k, h_parent_k⟩ := mem_jobsOf.mp hk
    exact h j h_j ⟨b, hb, h_parent.symm, h_sequential⟩ h_sent k h_k
      (h_parent_k.trans h_parent.symm) h_before
  refine ⟨fun b hb h_sequential j hj k hk h_j h_k => ?_, h_ended⟩
  obtain ⟨h_sent_j, h_open_j⟩ := sent_of_active (mem_jobsOf.mp hj).1 h_j
  obtain ⟨h_sent_k, h_open_k⟩ := sent_of_active (mem_jobsOf.mp hk).1 h_k
  -- whichever comes first has ended
  rcases lt_trichotomy j.position k.position with h_lt | h_eq | h_gt
  · rw [h_ended b hb h_sequential k hk h_sent_k j hj h_lt] at h_open_j
    exact absurd h_open_j.symm Bool.false_ne_true
  · exact L.eq_of_position hb hj hk h_eq
  · rw [h_ended b hb h_sequential j hj h_sent_j k hk h_gt] at h_open_k
    exact absurd h_open_k.symm Bool.false_ne_true

/-- The overtaken jobs of `L` are in `L'` as they were, at their old positions. -/
def KeepsOvertaken (L L' : QueueLedger) : Prop :=
  ∀ (i : ℕ) (k : QueueJob), L.jobs[i]? = some k → Overtaken L k → L'.jobs[i]? = some k

/-- **Sequential blocks run strictly one job at a time and in order**, in every state of
every run since the empty ledger; a job that was overtaken is never touched again. -/
theorem sequential_blocks_in_order (commands : List QueueCommand) (n m : ℕ) :
    SequentialInOrder (stateAt QueueCommand.run QueueLedger.empty commands n) ∧
      KeepsOvertaken (stateAt QueueCommand.run QueueLedger.empty commands n)
        (stateAt QueueCommand.run QueueLedger.empty commands (n + m)) := by
  have h_turn : InTurn (stateAt QueueCommand.run QueueLedger.empty commands n) :=
    perform_invariant (fun _ _ _ h h_run => InTurn.step h h_run) InTurn.empty
  refine ⟨h_turn.inOrder, ?_⟩
  intro i k h_i h_overtaken
  have h_later : InTurn (stateAt QueueCommand.run QueueLedger.empty commands (n + m)) ∧
      (stateAt QueueCommand.run QueueLedger.empty commands (n + m)).jobs[i]? = some k ∧
      Overtaken (stateAt QueueCommand.run QueueLedger.empty commands (n + m)) k := by
    refine stateAt_stable (I := fun L => InTurn L ∧ L.jobs[i]? = some k ∧ Overtaken L k)
      (fun L c L' h h_run => ?_) (Nat.le_add_right n m) ⟨h_turn, h_i, h_overtaken⟩
    exact ⟨h.1.step h_run, h.2.2.step h.1 h.2.1 h_run⟩
  exact h_later.2.1

end VacuumPlanner
