import VacuumPlanner.Integration

/-!
# No open block without open work

A block that is open keeps its lane closed. What can still close it is a command on one of
its jobs, so an open block whose jobs are all finished would lock the lane for good.

`BlockHealthy` is an open block in step with its jobs, one of which is open, and
`BlockHealthy.row` goes through the things a command can do to such a block.

One of them breaks it. `resolve_uncertain_job` fails the uncertain job, and when it was
the last one of a block whose commit was recorded, the block resumes `RUNNING` although
nothing of it is left to run; the same function fails the block at once when no commit was
recorded. `open_blocks_have_open_work` is the property of the runs that never resolve the
last uncertain job of a committed block, and `open_block_without_open_work` is a run that
does.
-/

namespace VacuumPlanner

open Framework

/-- A resolution of `jobId` leaves work: when the job is uncertain, may end `now`, and its
block has a recorded commit, another job of the block is uncertain too. -/
def ResolutionLeavesWork (L : QueueLedger) (jobId : String) (now : Instant) : Prop :=
  ∀ j ∈ L.jobs, j.jobId = jobId → j.state = .uncertain →
    Chronological [some j.plannedAt, j.sentAt, j.startedAt, some now] →
      ∀ b ∈ L.blocks, b.blockId = j.blockId → b.committedAt ≠ none →
        ∃ j' ∈ L.jobs, j'.blockId = b.blockId ∧ j'.jobId ≠ jobId ∧ j'.state = .uncertain

/-- The condition: a resolution does not resolve the last uncertain job of a block whose
commit was recorded. -/
def LeavesWork (s : PlannerState) : IntegrationCommand → Prop
  | .resolveUncertainRun jobId _ now => ResolutionLeavesWork s.ledger jobId now
  | _ => True

/-- Every block that is not terminal has a job that is not. -/
def OpenWork (L : QueueLedger) : Prop :=
  ∀ b ∈ L.blocks, b.state.terminal = false →
    ∃ j ∈ L.jobs, j.blockId = b.blockId ∧ j.state.terminal = false

/-- An open block in step with its jobs, one of which is open. -/
structure BlockHealthy (b : QueueBlock) (children : List QueueJob) : Prop extends
    InStep b children where
  work : ∃ j ∈ children, j.state.terminal = false

/-- Every open block is healthy. -/
def Healthy (L : QueueLedger) : Prop :=
  OpenBlocks BlockHealthy L

variable {L L' : QueueLedger} {s s' : PlannerState} {b b' : QueueBlock}
  {children : List QueueJob} {g : QueueJob → QueueJob} {R : JobState → String → Instant → Prop}

theorem Healthy.openWork (h : Healthy L) : OpenWork L := by
  intro b hb h_open
  obtain ⟨j, hj, h_work⟩ := (h b hb h_open).work
  obtain ⟨h_mem, h_parent⟩ := mem_jobsOf.mp hj
  exact ⟨j, h_mem, h_parent, h_work⟩

theorem Healthy.inStep (h : Healthy L) : OpenBlocks InStep L :=
  fun b hb h_open => (h b hb h_open).toInStep

/-- **One row.** A row step leaves open work behind, provided a resolution in a block whose
commit was recorded leaves another job of it uncertain. -/
theorem BlockHealthy.row (h : BlockHealthy b children) (h_row : RowStep R b children b' g)
    (h_leaves : ∀ j ∈ children, ∀ resolvedAt, R .uncertain j.jobId resolvedAt →
      j.state = .uncertain →
      Chronological [some j.plannedAt, j.sentAt, j.startedAt, some resolvedAt] →
        b.committedAt ≠ none → ∃ k ∈ children, k.jobId ≠ j.jobId ∧ k.state = .uncertain)
    (h_open' : b'.state.terminal = false) : BlockHealthy b' (children.map g) := by
  refine ⟨h_row.inStep h.toInStep h_open', ?_⟩
  have h_work : ∀ j ∈ children, (g j).state.terminal = false →
      ∃ k ∈ children.map g, k.state.terminal = false :=
    fun j hj h_j => ⟨g j, List.mem_map_of_mem hj, h_j⟩
  -- the open job there was is followed through the row
  obtain ⟨j₀, hj₀, h_j₀⟩ := h.work
  cases h_row with
  | same _ hg =>
    have h_same : g j₀ = j₀ := hg j₀ hj₀
    exact h_work j₀ hj₀ (h_same.symm ▸ h_j₀)
  | closes _ _ h_closed =>
    rw [closed_terminal h_closed] at h_open'
    exact absurd h_open'.symm Bool.false_ne_true
  | moves _ _ target stage _ _ _ hg =>
    refine h_work j₀ hj₀ ?_
    rw [(hg j₀ hj₀).1]
    revert stage
    cases b'.state <;> cases target <;> decide
  | quarantines _ _ hg =>
    refine h_work j₀ hj₀ ?_
    rw [hg j₀ hj₀, if_neg (by rw [h_j₀]; exact Bool.false_ne_true)]
    rfl
  | resolves _ j resolvedAt remaining hj h_j h_state h_R lifecycle hg h_remaining =>
    -- an uncertain job other than the resolved one is still there
    have h_other : ∃ k ∈ children, k.jobId ≠ j.jobId ∧ k.state = .uncertain := by
      by_contra h_none
      have h_commit : b.committedAt ≠ none := by
        intro h_commit
        have h_native := h.native (by rw [h_state]; decide)
        unfold releasedBlock at h_open'
        rw [if_neg fun h => h_none (h_remaining.mp h), if_pos ⟨h_native, h_commit⟩] at h_open'
        exact nomatch h_open'
      exact h_none (h_leaves j hj resolvedAt h_R h_j lifecycle.chronological h_commit)
    obtain ⟨k, hk, h_id, h_k⟩ := h_other
    refine h_work k hk ?_
    rw [hg k hk, updateIf_neg (by simpa using h_id), h_k]
    rfl
  | completes _ _ _ _ _ _ h_open =>
    obtain ⟨k, hk, h_k⟩ := h_open
    exact h_work k hk h_k

/-! ### Runs -/

/-- **One command.** Every command of the integration keeps the ledger healthy, provided a
resolution leaves work behind in a block whose commit was recorded. -/
theorem Healthy.step {c : IntegrationCommand} (h : Healthy s.ledger)
    (h_ok : Issued s c ∧ LeavesWork s c) (h_run : c.run s = .ok s') : Healthy s'.ledger := by
  obtain ⟨h_issued, h_leaves⟩ := h_ok
  rcases IntegrationCommand.run_rows h.inStep h_issued h_run with
    ⟨block, children, h_sealed⟩ | ⟨observedAt, revisionIds, -, h_completed⟩ | h_rows
  · obtain ⟨j, hj⟩ := List.exists_mem_of_ne_nil _ h_sealed.nonempty
    refine OpenBlocks.seals h h_sealed ⟨.sealed h_sealed, j, hj, ?_⟩
    rw [(h_sealed.pending j hj).2.1]
    rfl
  · refine completeRunningJobs_keeps Healthy.inStep (fun h h_rows => ?_) h h_completed
    refine h_rows.openBlocks h fun b _ b' g h_row h_open' h_b => ?_
    exact h_b.row h_row (fun _ _ _ h_R => nomatch h_R) h_open'
  · refine h_rows.openBlocks h fun b hb b' g h_row h_open' h_b => h_b.row h_row ?_ h_open'
    -- the condition is about the ledger, the row sees the jobs of its block
    intro j hj resolvedAt h_R h_j h_chronological h_commit
    cases c with
    | resolveUncertainRun =>
      obtain ⟨-, rfl, rfl⟩ := h_R
      obtain ⟨h_mem, h_parent⟩ := mem_jobsOf.mp hj
      obtain ⟨k, hk, h_k_parent, h_id, h_k⟩ :=
        h_leaves j h_mem rfl h_j h_chronological b hb h_parent.symm h_commit
      exact ⟨k, mem_jobsOf.mpr ⟨hk, h_k_parent⟩, h_id, h_k⟩
    | _ => exact h_R.elim

/-- **No open block without open work.** In every state of every run from an empty ledger
whose resolutions never resolve the last uncertain job of a block with a recorded
commit. -/
theorem open_blocks_have_open_work (s : PlannerState) (h_empty : s.ledger = QueueLedger.empty)
    (commands : List IntegrationCommand)
    (h_run : EachStep IntegrationCommand.run (fun s c => Issued s c ∧ LeavesWork s c) s commands)
    (n : ℕ) : OpenWork (stateAt IntegrationCommand.run s commands n).ledger := by
  have h_start : Healthy s.ledger := by
    rw [h_empty]
    exact OpenBlocks.empty
  have h_n : Healthy (stateAt IntegrationCommand.run s commands n).ledger :=
    EachStep.stateAt (I := fun s => Healthy s.ledger)
      (fun _ _ _ h h_ok h_step => h.step h_ok h_step) h_run h_start n
  exact h_n.openWork

/-! ### A run that locks the lane -/

/-- A start, its claim and its acceptance, an uncertain report, and the operator's
resolution of the one uncertain job. -/
def acceptedThenUncertain : List IntegrationCommand :=
  [.startDueBlock kitchenSnapshot "robot" "key" 0 kitchenIds false, .claim "block" 1,
    .recordDispatchAcceptance "block" (sealedJobs kitchenSnapshot 0 kitchenIds) 2,
    .observe .uncertain 3 kitchenIds, .resolveUncertainRun "job" .retrySafe 4]

/-- The same dispatch while its outcome is unknown: until the resolution every step leaves
work behind. -/
theorem open_blocks_have_open_work_uncertain :
    OpenWork (stateAt IntegrationCommand.run kitchenState (acceptedThenUncertain.take 4) 4).ledger :=
  open_blocks_have_open_work kitchenState rfl (acceptedThenUncertain.take 4)
    ⟨⟨trivial, trivial⟩, ⟨trivial, trivial⟩, ⟨by unfold Issued; decide, trivial⟩,
      ⟨trivial, trivial⟩, trivial⟩ 4

/-- **The resolution locks the lane.** After it the block is running and its only job has
failed. -/
theorem open_block_without_open_work :
    EachStep IntegrationCommand.run Issued kitchenState acceptedThenUncertain ∧
      kitchenState.ledger = QueueLedger.empty ∧
      ¬ OpenWork (perform IntegrationCommand.run kitchenState acceptedThenUncertain).ledger := by
  refine ⟨⟨trivial, trivial, ?_, trivial, trivial, trivial⟩, rfl, ?_⟩
  · unfold Issued
    decide
  · unfold OpenWork
    decide

end VacuumPlanner
