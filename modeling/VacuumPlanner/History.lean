import VacuumPlanner.Commands

/-!
# The ledger is an append-only history

`AppendOnly L L'` is what a command that returns normally may do to a ledger, read record
by record: old records keep their positions and identities, a terminal block and
everything under it is frozen, finished jobs stay finished unless they failed and are
dispatched again, and the revision never claims less than happened.

Nothing here looks at a single command. `QueueCommand.run_cases` reduces the claim to two
relations, and the only fact about the states is that no quiet move starts in a terminal
one.
-/

namespace VacuumPlanner

open Framework

/-- What a command may do to an old block. -/
structure BlockHistory (b b' : QueueBlock) : Prop where
  identity : b'.identity = b.identity
  frozen : b.state.terminal = true → b' = b

/-- What a command may do to an old job of the ledger `L`. -/
structure JobHistory (L : QueueLedger) (j j' : QueueJob) : Prop where
  identity : j'.identity = j.identity
  /-- The jobs under a terminal block are frozen. -/
  frozen : (∃ b ∈ L.blocks, b.blockId = j.blockId ∧ b.state.terminal = true) → j' = j
  finished : j.state ∈ [JobState.completed, .skipped, .cancelled] → j' = j
  /-- A failed job is retried or left alone. -/
  failed : j.state = .failed →
    j' = j ∨ (j'.state = .dispatching ∧ j'.attempt = j.attempt + 1)
  attempt : j.attempt ≤ j'.attempt

/-- The new ledger continues the old one, and its revision says so. -/
structure AppendOnly (L L' : QueueLedger) : Prop where
  blocks : Extends BlockHistory L.blocks L'.blocks
  jobs : Extends (JobHistory L) L.jobs L'.jobs
  revision : L.revision ≤ L'.revision
  bumped : L'.blocks ≠ L.blocks ∨ L'.jobs ≠ L.jobs → L.revision < L'.revision

variable {L L' : QueueLedger}

theorem JobHistory.refl (L : QueueLedger) (j : QueueJob) : JobHistory L j j :=
  ⟨rfl, fun _ => rfl, fun _ => rfl, fun _ => Or.inl rfl, le_rfl⟩

theorem finished_terminal {state : JobState}
    (h : state ∈ [JobState.completed, .skipped, .cancelled]) : state.terminal = true := by
  revert h
  cases state <;> decide

/-- A quiet move starts in an open job, so none of the clauses on finished jobs applies. -/
theorem JobHistory.of_moved {j j' : QueueJob} (hj : j ∈ L.jobs)
    (h : JobMoved quietMoves j j') : JobHistory L j j' := by
  have h_open : j.state.terminal = false := h.source_open (List.Subset.refl _)
  refine ⟨h.identity, ?_, fun h_fin => ?_, fun h_failed => ?_, h.attempt.ge⟩
  · rintro ⟨b, hb, h_parent, h_terminal⟩
    rw [L.settled hb h_terminal hj h_parent.symm] at h_open
    exact absurd h_open Bool.true_eq_false_eq_False.elim
  · rw [finished_terminal h_fin] at h_open
    exact absurd h_open Bool.true_eq_false_eq_False.elim
  · rw [h_failed] at h_open
    exact absurd h_open Bool.true_eq_false_eq_False.elim

theorem JobHistory.of_dispatched {sentAt : Instant} {j j' : QueueJob}
    (h : Dispatched sentAt j j') (h_open : L.ParentOpen j) : JobHistory L j j' := by
  refine ⟨h.identity, ?_, fun h_fin => ?_, fun _ => Or.inr ⟨h.state, h.attempt⟩, ?_⟩
  · rintro ⟨b, hb, h_parent, h_terminal⟩
    rw [h_open b hb h_parent] at h_terminal
    exact absurd h_terminal Bool.false_ne_true
  · refine absurd h.source ?_
    revert h_fin
    cases j.state <;> decide
  · rw [h.attempt]
    omega

theorem AppendOnly.of_rewrites (h : Rewrites (CommandMove L) L L') : AppendOnly L L' where
  blocks := h.blocks.mono fun _ _ _ _ h_kept => ⟨h_kept.identity, h_kept.frozen⟩
  jobs := by
    refine h.jobs.mono fun j hj j' _ h_move => ?_
    rcases h_move with rfl | h_moved | ⟨⟨sentAt, h_sent⟩, h_open⟩
    · exact JobHistory.refl L _
    · exact JobHistory.of_moved hj h_moved
    · exact JobHistory.of_dispatched h_sent h_open
  revision := h.revision
  bumped := h.bumped

theorem AppendOnly.of_seals {block : QueueBlock} {children : List QueueJob}
    (h : BlockSealed L L' block children) : AppendOnly L L' where
  blocks := by
    rw [h.blocks]
    exact Extends.append (fun _ _ => ⟨rfl, fun _ => rfl⟩) [block]
  jobs := by
    rw [h.jobs]
    exact Extends.append (fun j _ => JobHistory.refl L j) children
  revision := by rw [h.revision]; omega
  bumped _ := by rw [h.revision]; omega

/-! ### Under a terminal block -/

variable {b : QueueBlock} {j : QueueJob}

/-- A command leaves a terminal block where it is and adds no job to it. -/
theorem QueueCommand.keepsTerminal {c : QueueCommand} (h_run : c.run L = .ok L')
    (hb : b ∈ L.blocks) (h_b : b.state.terminal = true) :
    b ∈ L'.blocks ∧ ∀ j ∈ L'.jobs, j.blockId = b.blockId → j ∈ L.jobs := by
  rcases QueueCommand.run_cases h_run with h_step | ⟨block, children, h_step⟩
  · have h_append := AppendOnly.of_rewrites h_step
    constructor
    · obtain ⟨b', hb', h_history⟩ := h_append.blocks.exists_mem hb
      rw [← h_history.frozen h_b]
      exact hb'
    · intro j' hj' h_parent
      obtain ⟨i, h_i'⟩ := List.getElem?_of_mem hj'
      obtain ⟨h_lt, -⟩ := List.getElem?_eq_some_iff.mp h_i'
      obtain ⟨j, h_i, h_history⟩ := h_append.jobs.getElem?_of_lt (h_step.jobCount ▸ h_lt) h_i'
      have h_under : b.blockId = j.blockId :=
        h_parent.symm.trans (parent_of_identity h_history.identity)
      rw [h_history.frozen ⟨b, hb, h_under, h_b⟩]
      exact List.mem_of_getElem? h_i
  · rw [h_step.blocks, h_step.jobs]
    refine ⟨List.mem_append_left _ hb, fun j hj h_parent => ?_⟩
    rcases List.mem_append.mp hj with h_old | h_new
    · exact h_old
    · -- the new jobs belong to the new block
      obtain ⟨h_block, -⟩ := h_step.pending j h_new
      exact absurd (h_parent.symm.trans h_block) (h_step.fresh hb)

/-- **A terminal block is closed for good**: whatever commands follow, its jobs are those it
had. -/
theorem QueueLedger.job_of_terminal (commands : List QueueCommand) (hb : b ∈ L.blocks)
    (h_b : b.state.terminal = true)
    (hj : j ∈ (perform QueueCommand.run L commands).jobs) (h_parent : j.blockId = b.blockId) :
    j ∈ L.jobs := by
  have h_run : b ∈ (perform QueueCommand.run L commands).blocks ∧
      ∀ k ∈ (perform QueueCommand.run L commands).jobs, k.blockId = b.blockId → k ∈ L.jobs := by
    refine perform_invariant (I := fun L' : QueueLedger => b ∈ L'.blocks ∧
      ∀ k ∈ L'.jobs, k.blockId = b.blockId → k ∈ L.jobs) (fun L₁ c L₂ h h_step => ?_)
      ⟨hb, fun _ h _ => h⟩
    obtain ⟨hb₂, h_jobs⟩ := QueueCommand.keepsTerminal h_step h.1 h_b
    exact ⟨hb₂, fun k hk h_k => h.2 k (h_jobs k hk h_k) h_k⟩
  exact h_run.2 j hj h_parent

/-- **The ledger is an append-only history with an honest revision.** Of every ledger and
every command that returns normally. -/
theorem command_appendOnly {command : QueueCommand} (h : command.run L = .ok L') :
    AppendOnly L L' := by
  rcases QueueCommand.run_cases h with h_step | ⟨block, children, h_step⟩
  · exact AppendOnly.of_rewrites h_step
  · exact AppendOnly.of_seals h_step

/-- The start of the kitchen, with the ids it draws. -/
def kitchenSeal (key : String) (ids : ℕ → String) : QueueCommand :=
  .ledger (.startDueBlock kitchenSnapshot "robot" key 0 ids .nativeBatch .plannerAtomic true none)

/-- The kitchen was sealed and cancelled; sealed again, it is about to be sent. -/
def resumedKitchen : QueueLedger :=
  perform QueueCommand.run .empty [kitchenSeal "first" kitchenIds,
    .underPlan kitchenPlan (.cancelPendingBlock "block" 1),
    kitchenSeal "second" fun n => "second " ++ kitchenIds n,
    .ledger (.beginNativeBatchCommit "second block" 2)]

/-- Restart recovery with a cancelled block and one that is being sent. -/
theorem command_appendOnly_recovery :
    resumedKitchen.blocks.map (·.state) = [.cancelled, .committing] ∧
      resumedKitchen.jobs.map (·.state) = [.cancelled, .dispatching] ∧
      ∃ recovered, (QueueCommand.ledger (.quarantineAmbiguousDispatches 3)).run resumedKitchen =
          .ok recovered ∧
        recovered.blocks.map (·.state) = [.cancelled, .uncertain] ∧
        recovered.jobs.map (·.state) = [.cancelled, .uncertain] ∧
        AppendOnly resumedKitchen recovered := by
  refine ⟨by decide, by decide, ?_⟩
  have h_states : ((QueueCommand.ledger (.quarantineAmbiguousDispatches 3)).run
      resumedKitchen).map (fun L => (L.blocks.map (·.state), L.jobs.map (·.state))) =
        .ok ([.cancelled, .uncertain], [.cancelled, .uncertain]) := by decide
  obtain ⟨recovered, h_run, h_recovered⟩ := map_eq_ok.mp h_states
  obtain ⟨h_blocks, h_jobs⟩ := Prod.mk.inj h_recovered
  exact ⟨recovered, h_run, h_blocks, h_jobs, command_appendOnly h_run⟩

end VacuumPlanner
