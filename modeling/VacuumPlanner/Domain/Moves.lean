import VacuumPlanner.Domain.LedgerFacts

/-!
# What a command may do to a ledger

Every command rewrites blocks and jobs in place, and `start_due_block` alone appends
some. `Follows R L L'` says what all of them have in common: the old records are still
there at their positions, a block keeps its identity and is frozen once terminal, a job
is untouched or moved by `R`, and the revision counts the change. `Rewrites` adds that
nothing was appended.

A command is described by the table of the job moves it performs (`JobMoved`). The table
of everything but a dispatch is `quietMoves`: it leaves attempt and `sent_at` alone, and
starts in a state an open block allows only. A dispatch (`Dispatched`) is the one move
that raises the attempt, and the one that may leave `FAILED`, which is why it has to
check that the parent is still open.

A command made of several guarded transitions is the composition of its parts
(`Rewrites.trans`). Its moves compose because no table of a single command leads into a
state it also leads out of.
-/

namespace VacuumPlanner

open Framework

/-- The states of a block before its commit boundary. -/
def BlockState.early : BlockState → Bool
  | .draft | .validating | .sealed => true
  | _ => false

/-- What every command keeps of a block. -/
structure BlockKept (b b' : QueueBlock) : Prop where
  identity : b'.identity = b.identity
  /-- A terminal block is never rewritten. -/
  frozen : b.state.terminal = true → b' = b
  /-- A block that has left the early states does not return to them. -/
  late : b.state.early = false → b'.state.early = false

namespace BlockKept

variable {b b' b'' : QueueBlock}

theorem refl (b : QueueBlock) : BlockKept b b := ⟨rfl, fun _ => rfl, id⟩

theorem trans (h : BlockKept b b') (h' : BlockKept b' b'') : BlockKept b b'' where
  identity := h'.identity.trans h.identity
  frozen ht := by
    obtain rfl := h.frozen ht
    exact h'.frozen ht
  late he := h'.late (h.late he)

/-- A command that rewrites an open block, with a state past the early ones. -/
theorem of_open (h_id : b'.identity = b.identity) (h_open : b.state.terminal = false)
    (h_late : b.state.early = false → b'.state.early = false) : BlockKept b b' :=
  ⟨h_id, fun ht => absurd (h_open.symm.trans ht) Bool.false_ne_true, h_late⟩

theorem updateIf {p : QueueBlock → Bool} {f : QueueBlock → QueueBlock}
    (h : p b = true → BlockKept b (f b)) : BlockKept b (updateIf p f b) := by
  by_cases hp : p b = true
  · rw [updateIf_pos hp]; exact h hp
  · rw [updateIf_neg hp]; exact refl b

end BlockKept

/-! ### Job moves -/

/-- A move of the table `moves`: the state changes, what the job is and how often it was
dispatched does not. -/
structure JobMoved (moves : List (JobState × JobState)) (j j' : QueueJob) : Prop where
  move : (j.state, j'.state) ∈ moves
  identity : j'.identity = j.identity
  attempt : j'.attempt = j.attempt
  sentAt : j'.sentAt = j.sentAt

/-- The dispatch of a job: a new attempt, sent at `sentAt`. -/
structure Dispatched (sentAt : Instant) (j j' : QueueJob) : Prop where
  source : j.state ∈ [JobState.pending, .failed]
  state : j'.state = .dispatching
  identity : j'.identity = j.identity
  attempt : j'.attempt = j.attempt + 1
  sentAt : j'.sentAt = some sentAt

/-- Every move a command makes that is not a dispatch. -/
def quietMoves : List (JobState × JobState) :=
  [(.pending, .failed), (.pending, .skipped), (.pending, .cancelled),
    (.dispatching, .accepted), (.dispatching, .running), (.dispatching, .failed),
    (.dispatching, .uncertain), (.accepted, .running), (.accepted, .failed),
    (.accepted, .uncertain), (.accepted, .cancelled), (.running, .completed),
    (.running, .failed), (.running, .cancelled), (.running, .uncertain),
    (.uncertain, .failed)]

/-- The moves of `jobTransitions` into `target`. -/
def movesTo (target : JobState) : List (JobState × JobState) :=
  quietMoves.filter fun move => decide (move.2 = target ∧ target ∈ jobTransitions move.1)

theorem JobMoved.mono {moves moves' : List (JobState × JobState)} {j j' : QueueJob}
    (h : JobMoved moves j j') (sub : moves ⊆ moves') : JobMoved moves' j j' :=
  { h with move := sub h.move }

/-- No quiet move starts in a terminal state. -/
theorem source_open_of_quiet {s s' : JobState} (h : (s, s') ∈ quietMoves) :
    s.terminal = false := by
  revert h
  cases s <;> cases s' <;> decide

/-- A move of a command that is not a dispatch. -/
theorem JobMoved.source_open {moves : List (JobState × JobState)} {j j' : QueueJob}
    (h : JobMoved moves j j') (sub : moves ⊆ quietMoves) : j.state.terminal = false :=
  source_open_of_quiet (sub h.move)

/-- A table no state of which is both entered and left. -/
def OneLayer (moves : List (JobState × JobState)) : Prop :=
  ∀ m ∈ moves, ∀ m' ∈ moves, m.2 ≠ m'.1

instance (moves : List (JobState × JobState)) : Decidable (OneLayer moves) :=
  inferInstanceAs (Decidable (∀ m ∈ moves, ∀ m' ∈ moves, m.2 ≠ m'.1))

/-! ### Commands on whole ledgers -/

/-- The parent of the job is open. -/
def QueueLedger.ParentOpen (L : QueueLedger) (j : QueueJob) : Prop :=
  ∀ b ∈ L.blocks, b.blockId = j.blockId → b.state.terminal = false

/-- The parent of the job runs its jobs one at a time. -/
def QueueLedger.Sequential (L : QueueLedger) (j : QueueJob) : Prop :=
  ∃ b ∈ L.blocks, b.blockId = j.blockId ∧ b.dispatchStrategy = .plannerSequential

/-- A dispatch under an open parent. If the parent is sequential, the job is the only one
dispatched, and it is its turn: the jobs before it have ended, those after it are pending. -/
structure DispatchedInTurn (L : QueueLedger) (jobId : String) (j j' : QueueJob) : Prop where
  dispatched : ∃ sentAt, Dispatched sentAt j j'
  parentOpen : L.ParentOpen j
  alone : L.Sequential j → j.jobId = jobId
  earlier : L.Sequential j → ∀ k ∈ L.jobs, k.blockId = j.blockId → k.position < j.position →
    k.state.terminal = true
  later : L.Sequential j → ∀ k ∈ L.jobs, k.blockId = j.blockId → j.position < k.position →
    k.state = .pending

/-- The moves of a single command: quiet, or a dispatch under an open parent. -/
def CommandMove (L : QueueLedger) (j j' : QueueJob) : Prop :=
  JobMoved quietMoves j j' ∨ ((∃ sentAt, Dispatched sentAt j j') ∧ L.ParentOpen j)

/-- **What a command may do.** The records of `L` are a prefix of those of `L'`, its
terminal blocks are frozen, its jobs are untouched or moved by `R`, and the revision
grows whenever a record changed. -/
structure Follows (R : QueueJob → QueueJob → Prop) (L L' : QueueLedger) : Prop where
  blocks : Extends BlockKept L.blocks L'.blocks
  jobs : Extends (fun j j' => j' = j ∨ R j j') L.jobs L'.jobs
  revision : L.revision ≤ L'.revision
  bumped : L'.blocks ≠ L.blocks ∨ L'.jobs ≠ L.jobs → L.revision < L'.revision

/-- A command that appends no record. -/
structure Rewrites (R : QueueJob → QueueJob → Prop) (L L' : QueueLedger) : Prop extends
    Follows R L L' where
  blockCount : L'.blocks.length = L.blocks.length
  jobCount : L'.jobs.length = L.jobs.length

theorem Follows.mono {R S : QueueJob → QueueJob → Prop} {L L' : QueueLedger}
    (h : Follows R L L') (imp : ∀ j ∈ L.jobs, ∀ j' ∈ L'.jobs, R j j' → S j j') :
    Follows S L L' where
  blocks := h.blocks
  jobs := h.jobs.mono fun j hj j' hj' h_or => h_or.imp_right (imp j hj j' hj')
  revision := h.revision
  bumped := h.bumped

namespace Rewrites

variable {R S : QueueJob → QueueJob → Prop} {L L' L'' : QueueLedger}

theorem refl (L : QueueLedger) : Rewrites R L L where
  blocks := Extends.refl fun b _ => BlockKept.refl b
  jobs := Extends.refl fun _ _ => Or.inl rfl
  revision := le_rfl
  bumped h := (h.elim (· rfl) (· rfl)).elim
  blockCount := rfl
  jobCount := rfl

theorem mono (h : Rewrites R L L') (imp : ∀ j ∈ L.jobs, ∀ j' ∈ L'.jobs, R j j' → S j j') :
    Rewrites S L L' :=
  { h.toFollows.mono imp with blockCount := h.blockCount, jobCount := h.jobCount }

/-- A job after a rewrite was there before it. -/
theorem job_before {j' : QueueJob} (h_step : Rewrites R L L')
    (hj' : j' ∈ L'.jobs) : ∃ j ∈ L.jobs, j' = j ∨ R j j' := by
  obtain ⟨i, h_i'⟩ := List.getElem?_of_mem hj'
  obtain ⟨h_lt, -⟩ := List.getElem?_eq_some_iff.mp h_i'
  obtain ⟨j, h_i, h_R⟩ := h_step.jobs.getElem?_of_lt (h_step.jobCount ▸ h_lt) h_i'
  exact ⟨j, List.mem_of_getElem? h_i, h_R⟩

theorem trans (h : Rewrites R L L') (h' : Rewrites R L' L'')
    (comp : ∀ x y z, R x y → R y z → R x z) : Rewrites R L L'' where
  blocks := h.blocks.trans h'.blocks fun _ _ _ _ _ _ => BlockKept.trans
  jobs := by
    refine h.jobs.trans h'.jobs fun x _ y _ z _ hxy hyz => ?_
    rcases hxy with rfl | hxy
    · exact hyz
    · rcases hyz with rfl | hyz
      · exact Or.inr hxy
      · exact Or.inr (comp x y z hxy hyz)
  revision := h.revision.trans h'.revision
  bumped hne := by
    by_cases h_same : L'.blocks = L.blocks ∧ L'.jobs = L.jobs
    · rw [← h_same.1, ← h_same.2] at hne
      exact lt_of_le_of_lt h.revision (h'.bumped hne)
    · rw [not_and_or] at h_same
      exact lt_of_lt_of_le (h.bumped h_same) h'.revision
  blockCount := h'.blockCount.trans h.blockCount
  jobCount := h'.jobCount.trans h.jobCount

/-- A command that rewrites records in place and counts itself. -/
theorem of_map {f : QueueBlock → QueueBlock} {g : QueueJob → QueueJob}
    (h_blocks : L'.blocks = L.blocks.map f) (h_jobs : L'.jobs = L.jobs.map g)
    (h_rev : L'.revision = L.revision + 1) (hf : ∀ b ∈ L.blocks, BlockKept b (f b))
    (hg : ∀ j ∈ L.jobs, g j = j ∨ R j (g j)) : Rewrites R L L' where
  blocks := h_blocks ▸ Extends.map hf
  jobs := h_jobs ▸ Extends.map hg
  revision := by rw [h_rev]; omega
  bumped _ := by rw [h_rev]; omega
  blockCount := by rw [h_blocks, List.length_map]
  jobCount := by rw [h_jobs, List.length_map]

/-- A command that sweeps over the blocks and over the jobs, and rewrites those it selects. -/
theorem of_sweeps {p : QueueBlock → Bool} {f : QueueBlock → QueueBlock} {q : QueueJob → Bool}
    {g : QueueJob → QueueJob} (h_blocks : L'.blocks = L.blocks.map (updateIf p f))
    (h_jobs : L'.jobs = L.jobs.map (updateIf q g)) (h_rev : L'.revision = L.revision + 1)
    (hf : ∀ b ∈ L.blocks, p b = true → BlockKept b (f b))
    (hg : ∀ j ∈ L.jobs, q j = true → R j (g j)) : Rewrites R L L' := by
  refine .of_map h_blocks h_jobs h_rev (fun b hb => .updateIf (hf b hb)) fun j hj => ?_
  by_cases h_sel : q j = true
  · rw [updateIf_pos h_sel]
    exact Or.inr (hg j hj h_sel)
  · exact Or.inl (updateIf_neg h_sel)

/-- A command that sweeps over the blocks alone. -/
theorem of_block_sweep {p : QueueBlock → Bool} {f : QueueBlock → QueueBlock}
    (h_blocks : L'.blocks = L.blocks.map (updateIf p f)) (h_jobs : L'.jobs = L.jobs)
    (h_rev : L'.revision = L.revision + 1)
    (hf : ∀ b ∈ L.blocks, p b = true → BlockKept b (f b)) : Rewrites R L L' :=
  .of_map h_blocks (h_jobs.trans (List.map_id _).symm) h_rev
    (fun b hb => .updateIf (hf b hb)) fun _ _ => Or.inl rfl

/-- A command that sweeps over the jobs alone. -/
theorem of_job_sweep {q : QueueJob → Bool} {g : QueueJob → QueueJob}
    (h_blocks : L'.blocks = L.blocks) (h_jobs : L'.jobs = L.jobs.map (updateIf q g))
    (h_rev : L'.revision = L.revision + 1) (hg : ∀ j ∈ L.jobs, q j = true → R j (g j)) :
    Rewrites R L L' :=
  .of_sweeps (h_blocks.trans (map_updateIf_none (f := id) fun _ _ => rfl).symm) h_jobs h_rev
    (fun _ _ h => absurd h Bool.false_ne_true) hg

end Rewrites

/-- A sweep over the blocks of one id finds one block. -/
theorem QueueLedger.block_of_sweep {L : QueueLedger} {P : QueueBlock → Prop} {b : QueueBlock}
    (hb : b ∈ L.blocks)
    (h : P b) : ∀ b' ∈ L.blocks, decide (b'.blockId = b.blockId) = true → P b' := by
  intro b' hb' h_id
  rw [L.block_eq hb' hb (of_decide_eq_true h_id)]
  exact h

/-- A sweep over the jobs of one id finds one job. -/
theorem QueueLedger.job_of_sweep {L : QueueLedger} {P : QueueJob → Prop} {j : QueueJob}
    (hj : j ∈ L.jobs)
    (h : P j) : ∀ j' ∈ L.jobs, decide (j'.jobId = j.jobId) = true → P j' := by
  intro j' hj' h_id
  rw [eq_of_key L.valid.jobIds hj' hj (of_decide_eq_true h_id)]
  exact h

/-- The moves of one command compose: a moved job is not moved again. -/
theorem JobMoved.comp {moves : List (JobState × JobState)} (one : OneLayer moves)
    (x y z : QueueJob) (hxy : JobMoved moves x y) (hyz : JobMoved moves y z) :
    JobMoved moves x z :=
  absurd rfl (one _ hxy.move _ hyz.move)

/-- A job that is not terminal has an open parent. -/
theorem QueueLedger.parentOpen_of_open {L : QueueLedger} {j : QueueJob} (hj : j ∈ L.jobs)
    (h : j.state.terminal = false) : L.ParentOpen j := by
  intro b hb h_parent
  by_contra h_closed
  rw [L.settled hb (Bool.eq_true_of_not_eq_false h_closed) hj h_parent.symm] at h
  exact absurd h Bool.true_eq_false_eq_False.elim

end VacuumPlanner
