import VacuumPlanner.Domain.Moves
import VacuumPlanner.Domain.Queue

/-!
# What the queue commands do

One specification per command of `domain/queue.py` and for the two guarded transitions
of `QueueLedger`. A lemma `…_eq_ok` says when the command returns normally and what it
returns; a lemma `…_rewrites` says the same in the terms of `Domain.Moves`, which is all
the invariants need.

The proofs read the definition from left to right: every check, lookup and sweep is
replaced by its own `…_eq_ok` lemma of `Framework.Checked`, and what remains is the list
of conditions.
-/

namespace VacuumPlanner

open Framework

variable {L L' : QueueLedger}

/-! ### Guarded transitions -/

namespace QueueLedger

theorem transition_open {s s' : BlockState} (h : s' ∈ blockTransitions s) :
    s.terminal = false ∧ (s.early = false → s'.early = false) := by
  revert h
  cases s <;> cases s' <;> decide

@[simp] theorem changedBlock_identity (newState : BlockState) (changedAt : Instant)
    (runId : Option String) (b : QueueBlock) :
    (changedBlock newState changedAt runId b).identity = b.identity := by
  unfold changedBlock
  split
  · rfl
  · split <;> rfl

@[simp] theorem changedBlock_state (newState : BlockState) (changedAt : Instant)
    (runId : Option String) (b : QueueBlock) :
    (changedBlock newState changedAt runId b).state = newState := by
  unfold changedBlock
  split
  · rfl
  · split <;> rfl

@[simp] theorem changedJob_identity (newState : JobState) (changedAt : Instant)
    (token code detail : Option String) (j : QueueJob) :
    (changedJob newState changedAt token code detail j).identity = j.identity := by
  unfold changedJob
  repeat' split
  all_goals rfl

@[simp] theorem changedJob_state (newState : JobState) (changedAt : Instant)
    (token code detail : Option String) (j : QueueJob) :
    (changedJob newState changedAt token code detail j).state = newState := by
  unfold changedJob
  repeat' split
  all_goals rfl

/-- **`replace_block_state`** moves one block along the transition table. -/
theorem replaceBlockState_eq_ok {blockId : String} {newState : BlockState}
    {changedAt : Instant} {runId : Option String} :
    L.replaceBlockState blockId newState changedAt runId = .ok L' ↔
      (¬ ∃ id ∈ runId, isBlank id = true) ∧ ∃ b ∈ L.blocks, b.blockId = blockId ∧
        newState ∈ blockTransitions b.state ∧
        validateTerminalBlockResult newState (jobsOf L.jobs b) = .ok () ∧
        (newState.terminal = true → ∀ j ∈ jobsOf L.jobs b, j.state.terminal = true) ∧
        (changedBlock newState changedAt runId b).postInit = .ok () ∧
        L'.toLedgerFields = { L.toLedgerFields with
          revision := L.revision + 1
          blocks := L.blocks.map
            (updateIf (·.blockId = blockId) (changedBlock newState changedAt runId)) } := by
  unfold replaceBlockState
  simp only [bind_eq_ok, orRaise_eq_ok, raiseIf_eq_ok, find_block, rewriteWhere_eq_ok,
    LedgerFields.construct_eq_ok, exists_unit, not_not]
  -- each guard of the command is one conjunct
  constructor
  · rintro ⟨h_run, b, ⟨hb, rfl⟩, h_move, h_result, h_settled, blocks, ⟨rfl, h_checks⟩, h_L'⟩
    refine ⟨h_run, b, hb, rfl, h_move, h_result, ?_, h_checks b hb (by simp), h_L'⟩
    intro h_term j hj
    by_contra h_open
    exact h_settled ⟨h_term, j, hj, by simpa using h_open⟩
  · rintro ⟨h_run, b, hb, rfl, h_move, h_result, h_settled, h_check, h_L'⟩
    refine ⟨h_run, b, ⟨hb, rfl⟩, h_move, h_result, ?_, _, ⟨rfl, ?_⟩, h_L'⟩
    · rintro ⟨h_term, j, hj, h_open⟩
      exact absurd (h_settled h_term j hj) (by simp [h_open])
    · -- identities are distinct, so the sweep checks the one block
      intro b' hb' h_id
      rw [L.block_eq hb' hb (by simpa using h_id)]
      exact h_check

theorem replaceBlockState_rewrites {blockId : String} {newState : BlockState}
    {changedAt : Instant} {runId : Option String} {R : QueueJob → QueueJob → Prop}
    (h : L.replaceBlockState blockId newState changedAt runId = .ok L') : Rewrites R L L' := by
  obtain ⟨-, b, hb, rfl, h_move, -, -, -, h_L'⟩ := replaceBlockState_eq_ok.mp h
  obtain ⟨h_open, h_late⟩ := transition_open h_move
  refine .of_block_sweep (congrArg LedgerFields.blocks h_L') (congrArg LedgerFields.jobs h_L' :)
    (congrArg LedgerFields.revision h_L') (block_of_sweep hb ?_)
  exact BlockKept.of_open (changedBlock_identity ..) h_open (by simpa using h_late)

/-- **`replace_job_state`** moves one job along the transition table, under an open
parent that is not quarantined. -/
theorem replaceJobState_eq_ok {jobId : String} {newState : JobState} {changedAt : Instant}
    {confirmed : Bool} {token code detail : Option String} :
    L.replaceJobState jobId newState changedAt confirmed token code detail = .ok L' ↔
      ∃ j ∈ L.jobs, j.jobId = jobId ∧ ∃ parent ∈ L.blocks, parent.blockId = j.blockId ∧
        parent.state.terminal = false ∧ parent.state ≠ .uncertain ∧
        (newState = .dispatching → validateJobDispatch parent j L.blocks L.jobs = .ok ()) ∧
        newState ∈ jobTransitions j.state ∧
        ¬ (newState = .cancelled ∧ j.state ∈ [JobState.accepted, .running] ∧
          confirmed = false) ∧
        (changedJob newState changedAt token code detail j).postInit = .ok () ∧
        L'.toLedgerFields = { L.toLedgerFields with
          revision := L.revision + 1
          jobs := L.jobs.map
            (updateIf (·.jobId = jobId) (changedJob newState changedAt token code detail)) } := by
  unfold replaceJobState
  simp only [bind_eq_ok, orRaise_eq_ok, raiseIf_eq_ok, find_block, find_job, ite_seq_eq_ok,
    rewriteWhere_eq_ok, LedgerFields.construct_eq_ok, exists_unit, not_not]
  -- each guard of the command is one conjunct
  constructor
  · rintro ⟨j, ⟨hj, rfl⟩, parent, ⟨hp, h_parent⟩, h_open, h_certain, h_dispatch, h_move, h_conf,
      jobs, ⟨rfl, h_checks⟩, h_L'⟩
    exact ⟨j, hj, rfl, parent, hp, h_parent, by simpa using h_open, h_certain, h_dispatch,
      h_move, h_conf, h_checks j hj (by simp), h_L'⟩
  · rintro ⟨j, hj, rfl, parent, hp, h_parent, h_open, h_certain, h_dispatch, h_move, h_conf,
      h_check, h_L'⟩
    refine ⟨j, ⟨hj, rfl⟩, parent, ⟨hp, h_parent⟩, by simpa using h_open, h_certain, h_dispatch,
      h_move, h_conf, _, ⟨rfl, ?_⟩, h_L'⟩
    -- identities are distinct, so the sweep checks the one job
    intro j' hj' h_id
    rw [eq_of_key L.valid.jobIds hj' hj (by simpa using h_id)]
    exact h_check

theorem mem_movesTo {s s' : JobState} (h : s' ∈ jobTransitions s) (h_ne : s' ≠ .dispatching) :
    (s, s') ∈ movesTo s' := by
  revert h h_ne
  cases s <;> cases s' <;> decide

theorem not_mem_jobTransitions_self (s : JobState) : s ∉ jobTransitions s := by
  cases s <;> decide

theorem movesTo_subset (s : JobState) : movesTo s ⊆ quietMoves :=
  fun _ h => (List.mem_filter.mp h).1

theorem movesTo_oneLayer (s : JobState) : OneLayer (movesTo s) := by
  cases s <;> decide

theorem changedJob_moved {newState : JobState} {j : QueueJob} (h_ne : newState ≠ .dispatching)
    (h : newState ∈ jobTransitions j.state) (changedAt : Instant)
    (token code detail : Option String) :
    JobMoved (movesTo newState) j (changedJob newState changedAt token code detail j) where
  move := by rw [changedJob_state]; exact mem_movesTo h h_ne
  identity := changedJob_identity ..
  attempt := by unfold changedJob; rw [if_neg h_ne]; repeat' split
                all_goals rfl
  sentAt := by unfold changedJob; rw [if_neg h_ne]; repeat' split
               all_goals rfl

/-- A dispatch needs a committed or running parent. -/
theorem changedJob_dispatched {j : QueueJob} (h : JobState.dispatching ∈ jobTransitions j.state)
    (changedAt : Instant) (token code detail : Option String) :
    Dispatched changedAt j (changedJob .dispatching changedAt token code detail j) where
  source := by revert h; cases j.state <;> decide
  state := rfl
  identity := rfl
  attempt := rfl
  sentAt := rfl

/-- A transition that is not a dispatch makes one move of the table. -/
theorem replaceJobState_moves {jobId : String} {newState : JobState} {changedAt : Instant}
    {confirmed : Bool} {token code detail : Option String} (h_ne : newState ≠ .dispatching)
    (h : L.replaceJobState jobId newState changedAt confirmed token code detail = .ok L') :
    Rewrites (JobMoved (movesTo newState)) L L' := by
  obtain ⟨j, hj, rfl, -, -, -, -, -, -, h_move, -, -, h_L'⟩ := replaceJobState_eq_ok.mp h
  exact .of_job_sweep (congrArg LedgerFields.blocks h_L' :) (congrArg LedgerFields.jobs h_L')
    (congrArg LedgerFields.revision h_L') (job_of_sweep hj (changedJob_moved h_ne h_move ..))

/-- What `_validate_job_dispatch` asks of the siblings in a sequential block. -/
theorem validateJobDispatch_turn {parent : QueueBlock} {j : QueueJob} {blocks : List QueueBlock}
    {jobs : List QueueJob} (h : validateJobDispatch parent j blocks jobs = .ok ())
    (h_parent : parent.blockId = j.blockId)
    (h_sequential : parent.dispatchStrategy = .plannerSequential) :
    (∀ k ∈ jobs, k.blockId = j.blockId → k.position < j.position → k.state.terminal = true) ∧
      ∀ k ∈ jobs, k.blockId = j.blockId → j.position < k.position → k.state = .pending := by
  unfold validateJobDispatch at h
  simp only [seq_eq_ok, raiseIf_eq_ok] at h
  obtain ⟨-, -, h_earlier, h_later⟩ := h
  constructor
  · intro k hk h_k h_before
    by_contra h_open
    exact h_earlier ⟨h_sequential, k, hk, h_k.trans h_parent.symm, h_before,
      Bool.eq_false_of_not_eq_true h_open⟩
  · intro k hk h_k h_after
    by_contra h_advanced
    exact h_later ⟨h_sequential, k, hk, h_k.trans h_parent.symm, h_after, h_advanced⟩

/-- A dispatch moves one job, in its turn. -/
theorem replaceJobState_dispatches {jobId : String} {changedAt : Instant}
    {confirmed : Bool} {token code detail : Option String}
    (h : L.replaceJobState jobId .dispatching changedAt confirmed token code detail = .ok L') :
    Rewrites (DispatchedInTurn L jobId) L L' := by
  obtain ⟨j, hj, rfl, parent, hp, h_parent, h_open, -, h_dispatch, h_move, -, -, h_L'⟩ :=
    replaceJobState_eq_ok.mp h
  -- the sequential order is checked at the dispatch, and only for a sequential block
  have h_turn : L.Sequential j →
      (∀ k ∈ L.jobs, k.blockId = j.blockId → k.position < j.position →
          k.state.terminal = true) ∧
        ∀ k ∈ L.jobs, k.blockId = j.blockId → j.position < k.position → k.state = .pending := by
    rintro ⟨b, hb, h_b, h_sequential⟩
    rw [L.block_eq hb hp (h_b.trans h_parent.symm)] at h_sequential
    exact validateJobDispatch_turn (h_dispatch rfl) h_parent h_sequential
  refine .of_job_sweep (congrArg LedgerFields.blocks h_L' :) (congrArg LedgerFields.jobs h_L')
    (congrArg LedgerFields.revision h_L') (job_of_sweep hj ?_)
  exact
    { dispatched := ⟨changedAt, changedJob_dispatched h_move ..⟩
      parentOpen := fun b hb h_b => by
        rw [L.block_eq hb hp (h_b.trans h_parent.symm)]
        exact h_open
      alone := fun _ => rfl
      earlier := fun h_seq => (h_turn h_seq).1
      later := fun h_seq => (h_turn h_seq).2 }

end QueueLedger

/-! ### A loop of job transitions -/

/-- The loop `for job in jobs: ledger = ledger.replace_job_state(job.job_id, …)`. -/
def moveJobs (newState : JobState) (changedAt : Instant) (L : QueueLedger)
    (jobs : List QueueJob) : Except PyError QueueLedger :=
  jobs.foldlM (fun ledger job =>
    ledger.replaceJobState job.jobId newState changedAt false none none none) L

/-- The rewrite the loop performs. -/
def movedJob (newState : JobState) (changedAt : Instant) (jobs : List QueueJob) :
    QueueJob → QueueJob :=
  updateIf (fun j => decide (j.jobId ∈ jobs.map (·.jobId)))
    (QueueLedger.changedJob newState changedAt none none none)

theorem movedJob_nil (newState : JobState) (changedAt : Instant) (j : QueueJob) :
    movedJob newState changedAt [] j = j :=
  updateIf_neg (by simp)

/-- Moving a first job and then others that are not it. -/
theorem movedJob_cons {newState : JobState} {changedAt : Instant} {job : QueueJob}
    {rest : List QueueJob} (h : job.jobId ∉ rest.map (·.jobId)) (j : QueueJob) :
    movedJob newState changedAt rest (updateIf (·.jobId = job.jobId)
        (QueueLedger.changedJob newState changedAt none none none) j) =
      movedJob newState changedAt (job :: rest) j := by
  unfold movedJob
  by_cases h_same : j.jobId = job.jobId
  · have h_id : (QueueLedger.changedJob newState changedAt none none none j).jobId = j.jobId :=
      jobId_of_identity (QueueLedger.changedJob_identity ..)
    rw [updateIf_pos (p := fun x : QueueJob => decide (x.jobId = job.jobId)) (by simpa using h_same),
      updateIf_neg, updateIf_pos (by simp [h_same])]
    rw [h_id, h_same, decide_eq_true_iff]
    exact h
  · rw [updateIf_neg (p := fun x : QueueJob => decide (x.jobId = job.jobId)) (by simpa using h_same)]
    unfold updateIf
    simp [h_same]

/-- The loop moves exactly the listed jobs, each once: a second visit of a job would find
it in the target state, which the table does not lead back to. -/
theorem moveJobs_ok {newState : JobState} {changedAt : Instant} {jobs : List QueueJob}
    (h : moveJobs newState changedAt L jobs = .ok L') :
    L'.blocks = L.blocks ∧ L'.jobs = L.jobs.map (movedJob newState changedAt jobs) ∧
      L'.revision = L.revision + jobs.length ∧
      ∀ job ∈ jobs, ∃ j ∈ L.jobs, j.jobId = job.jobId ∧ newState ∈ jobTransitions j.state := by
  induction jobs generalizing L with
  | nil =>
    obtain rfl : L = L' := pure_eq_ok.mp h
    refine ⟨rfl, ?_, (Int.add_zero _).symm, fun _ h => absurd h List.not_mem_nil⟩
    exact ((List.map_congr_left fun j _ => movedJob_nil ..).trans (List.map_id _)).symm
  | cons job rest ih =>
    unfold moveJobs at h
    rw [List.foldlM_cons] at h
    obtain ⟨L₁, h₁, h_rest⟩ := bind_eq_ok.mp h
    obtain ⟨j, hj, h_id, -, -, -, -, -, -, h_move, -, -, h_L₁⟩ :=
      QueueLedger.replaceJobState_eq_ok.mp h₁
    obtain ⟨h_blocks, h_jobs, h_rev, h_all⟩ := ih h_rest
    have h_blocks₁ : L₁.blocks = L.blocks := (congrArg LedgerFields.blocks h_L₁ :)
    have h_jobs₁ : L₁.jobs = L.jobs.map (updateIf (·.jobId = job.jobId)
        (QueueLedger.changedJob newState changedAt none none none)) :=
      congrArg LedgerFields.jobs h_L₁
    have h_rev₁ : L₁.revision = L.revision + 1 := congrArg LedgerFields.revision h_L₁
    -- a job of `rest` is not the one just moved
    have h_back : ∀ job' ∈ rest, ∃ j' ∈ L.jobs, j'.jobId = job'.jobId ∧
        job'.jobId ≠ job.jobId ∧ newState ∈ jobTransitions j'.state := by
      intro job' h_job'
      obtain ⟨j₁, hj₁, h_id₁, h_move₁⟩ := h_all job' h_job'
      rw [h_jobs₁] at hj₁
      obtain ⟨j', hj', rfl⟩ := List.mem_map.mp hj₁
      by_cases h_same : j'.jobId = job.jobId
      · rw [updateIf_pos (by simpa using h_same), QueueLedger.changedJob_state] at h_move₁
        exact absurd h_move₁ (QueueLedger.not_mem_jobTransitions_self _)
      · rw [updateIf_neg (by simpa using h_same)] at h_id₁ h_move₁
        exact ⟨j', hj', h_id₁, h_id₁ ▸ h_same, h_move₁⟩
    -- so the one just moved is not moved again
    have h_notin : job.jobId ∉ rest.map (·.jobId) := by
      intro h_in
      obtain ⟨job', h_job', h_eq⟩ := List.mem_map.mp h_in
      obtain ⟨-, -, -, h_ne, -⟩ := h_back job' h_job'
      exact h_ne h_eq
    refine ⟨h_blocks.trans h_blocks₁, ?_, ?_, fun job' h_job' => ?_⟩
    · rw [h_jobs, h_jobs₁, List.map_map]
      exact List.map_congr_left fun j' _ => movedJob_cons h_notin j'
    · rw [h_rev, h_rev₁, List.length_cons]
      omega
    · rcases List.mem_cons.mp h_job' with rfl | h_job'
      · exact ⟨j, hj, h_id, h_move⟩
      · obtain ⟨j', hj', h_id', -, h_move'⟩ := h_back job' h_job'
        exact ⟨j', hj', h_id', h_move'⟩

/-- The loop rewrites, unless it dispatches. -/
theorem moveJobs_rewrites {newState : JobState} {changedAt : Instant} {jobs : List QueueJob}
    (h_ne : newState ≠ .dispatching) (h : moveJobs newState changedAt L jobs = .ok L') :
    Rewrites (JobMoved (movesTo newState)) L L' := by
  induction jobs generalizing L with
  | nil =>
    obtain rfl : L = L' := pure_eq_ok.mp h
    exact Rewrites.refl L
  | cons job rest ih =>
    unfold moveJobs at h
    rw [List.foldlM_cons] at h
    obtain ⟨L₁, h₁, h_rest⟩ := bind_eq_ok.mp h
    exact (QueueLedger.replaceJobState_moves h_ne h₁).trans (ih h_rest)
      (JobMoved.comp (QueueLedger.movesTo_oneLayer newState))

/-! ### Bulk commands

A bulk command rewrites one block and its jobs without consulting the transition tables.
Its own guards have to say what the tables would have said. -/

/-- **`fail_block_commit`** fails a committing block that sent nothing. -/
theorem failBlockCommit_ok {blockId code : String} {failedAt : Instant} {detail : Option String}
    (h : failBlockCommit L blockId failedAt code detail = .ok L') :
    ∃ b ∈ L.blocks, b.blockId = blockId ∧ b.state = .committing ∧
      (∀ j ∈ L.jobs, j.blockId = blockId → j.state = .pending) ∧
      L'.blocks = L.blocks.map (updateIf (·.blockId = blockId)
        fun item => { item with state := .failed }) ∧
      L'.jobs = L.jobs.map (updateIf (·.blockId = blockId) fun job =>
        { job with
          state := .failed, finishedAt := some failedAt, errorCode := some code,
          errorDetail := detail }) ∧
      L'.revision = L.revision + 1 := by
  unfold failBlockCommit at h
  simp only [bind_eq_ok, orRaise_eq_ok, raiseIf_eq_ok, QueueLedger.find_block,
    rewriteWhere_eq_ok, LedgerFields.construct_eq_ok, exists_unit, not_not] at h
  obtain ⟨b, ⟨hb, h_id⟩, h_state, h_unsent, -, ⟨rfl, -⟩, -, ⟨rfl, -⟩, h_L'⟩ := h
  refine ⟨b, hb, h_id, h_state, fun j hj h_j => ?_, (congrArg LedgerFields.blocks h_L' :),
    (congrArg LedgerFields.jobs h_L' :), (congrArg LedgerFields.revision h_L' :)⟩
  exact by_contra fun h_ne => h_unsent ⟨j, hj, h_j, h_ne⟩

theorem failBlockCommit_rewrites {blockId code : String} {failedAt : Instant}
    {detail : Option String} (h : failBlockCommit L blockId failedAt code detail = .ok L') :
    Rewrites (JobMoved [(.pending, .failed)]) L L' := by
  obtain ⟨b, hb, rfl, h_state, h_pending, h_blocks, h_jobs, h_rev⟩ := failBlockCommit_ok h
  have h_kept : BlockKept b { b with state := .failed } :=
    .of_open rfl (by rw [h_state]; rfl) fun _ => rfl
  refine .of_sweeps h_blocks h_jobs h_rev (QueueLedger.block_of_sweep hb h_kept) fun j hj h_id => ?_
  have h_id : j.blockId = b.blockId := of_decide_eq_true h_id
  exact ⟨by simp [h_pending j hj h_id], rfl, rfl, rfl⟩

/-- **`begin_native_batch_commit`** claims a sealed native batch: the block commits and
every job of it is dispatched, once. -/
theorem beginNativeBatchCommit_ok {blockId : String} {sentAt : Instant}
    (h : beginNativeBatchCommit L blockId sentAt = .ok L') :
    ∃ b ∈ L.blocks, b.blockId = blockId ∧ b.state = .sealed ∧
      b.dispatchStrategy = .nativeBatch ∧ jobsOf L.jobs b ≠ [] ∧
      (∀ j ∈ L.jobs, j.blockId = blockId → j.state = .pending) ∧
      L'.blocks = L.blocks.map (updateIf (·.blockId = blockId)
        fun item => { item with state := .committing }) ∧
      L'.jobs = L.jobs.map (updateIf (·.blockId = blockId) fun job =>
        { job with state := .dispatching, attempt := job.attempt + 1, sentAt := some sentAt }) ∧
      L'.revision = L.revision + 1 := by
  unfold beginNativeBatchCommit at h
  simp only [bind_eq_ok, orRaise_eq_ok, raiseIf_eq_ok, QueueLedger.find_block,
    rewriteWhere_eq_ok, LedgerFields.construct_eq_ok, exists_unit, not_not] at h
  obtain ⟨b, ⟨hb, rfl⟩, h_state, h_native, -, h_pending, -, ⟨rfl, -⟩, -, ⟨rfl, -⟩, h_L'⟩ := h
  rw [not_or] at h_pending
  refine ⟨b, hb, rfl, h_state, h_native, h_pending.1, fun j hj h_j => ?_,
    (congrArg LedgerFields.blocks h_L' :), (congrArg LedgerFields.jobs h_L' :),
    (congrArg LedgerFields.revision h_L' :)⟩
  exact by_contra fun h_ne => h_pending.2 ⟨j, by simp [hj, h_j], h_ne⟩

/-- The claim dispatches the jobs of a block that is not sequential. -/
theorem beginNativeBatchCommit_rewrites {blockId : String} {sentAt : Instant} (jobId : String)
    (h : beginNativeBatchCommit L blockId sentAt = .ok L') :
    Rewrites (DispatchedInTurn L jobId) L L' := by
  obtain ⟨b, hb, rfl, h_state, h_native, -, h_pending, h_blocks, h_jobs, h_rev⟩ :=
    beginNativeBatchCommit_ok h
  have h_kept : BlockKept b { b with state := .committing } :=
    .of_open rfl (by rw [h_state]; rfl) fun _ => rfl
  refine .of_sweeps h_blocks h_jobs h_rev (QueueLedger.block_of_sweep hb h_kept) fun j hj h_id => ?_
  have h_id : j.blockId = b.blockId := of_decide_eq_true h_id
  have h_j := h_pending j hj h_id
  have h_batch : ¬ L.Sequential j := by
    rintro ⟨b', hb', h_b', h_sequential⟩
    rw [L.block_eq hb' hb (h_b'.trans h_id), h_native] at h_sequential
    exact nomatch h_sequential
  exact
    { dispatched := ⟨sentAt, by simp [h_j], rfl, rfl, rfl, rfl⟩
      parentOpen := QueueLedger.parentOpen_of_open hj (by rw [h_j]; rfl)
      alone := fun h_seq => absurd h_seq h_batch
      earlier := fun h_seq => absurd h_seq h_batch
      later := fun h_seq => absurd h_seq h_batch }

/-- **`quarantine_block_dispatch`** quarantines a committing native batch. -/
theorem quarantineBlockDispatch_ok {blockId : String} {reconciledAt : Instant}
    (h : quarantineBlockDispatch L blockId reconciledAt = .ok L') :
    ∃ b ∈ L.blocks, b.blockId = blockId ∧ b.state = .committing ∧
      b.dispatchStrategy = .nativeBatch ∧ jobsOf L.jobs b ≠ [] ∧
      (∀ j ∈ L.jobs, j.blockId = blockId → j.state = .dispatching) ∧
      L'.blocks = L.blocks.map (updateIf (·.blockId = blockId)
        fun item => { item with state := .uncertain }) ∧
      L'.jobs = L.jobs.map (updateIf (·.blockId = blockId)
        fun job => { job with state := .uncertain }) ∧
      L'.revision = L.revision + 1 := by
  unfold quarantineBlockDispatch at h
  simp only [bind_eq_ok, orRaise_eq_ok, raiseIf_eq_ok, QueueLedger.find_block,
    rewriteWhere_eq_ok, LedgerFields.construct_eq_ok, exists_unit, not_not] at h
  obtain ⟨b, ⟨hb, rfl⟩, h_state, h_native, h_sent, -, ⟨rfl, -⟩, -, ⟨rfl, -⟩, h_L'⟩ := h
  rw [not_or] at h_sent
  refine ⟨b, hb, rfl, h_state, h_native, h_sent.1, fun j hj h_j => ?_,
    (congrArg LedgerFields.blocks h_L' :), (congrArg LedgerFields.jobs h_L' :),
    (congrArg LedgerFields.revision h_L' :)⟩
  exact by_contra fun h_ne => h_sent.2 ⟨j, by simp [hj, h_j], h_ne⟩

theorem quarantineBlockDispatch_rewrites {blockId : String} {reconciledAt : Instant}
    (h : quarantineBlockDispatch L blockId reconciledAt = .ok L') :
    Rewrites (JobMoved [(.dispatching, .uncertain)]) L L' := by
  obtain ⟨b, hb, rfl, h_state, -, -, h_sent, h_blocks, h_jobs, h_rev⟩ :=
    quarantineBlockDispatch_ok h
  have h_kept : BlockKept b { b with state := .uncertain } :=
    .of_open rfl (by rw [h_state]; rfl) fun _ => rfl
  refine .of_sweeps h_blocks h_jobs h_rev (QueueLedger.block_of_sweep hb h_kept) fun j hj h_id => ?_
  have h_id : j.blockId = b.blockId := of_decide_eq_true h_id
  exact ⟨by simp [h_sent j hj h_id], rfl, rfl, rfl⟩

/-! ### Resolution and recovery -/

@[simp] theorem releasedBlock_identity (remaining : Bool) (resolvedAt : Instant)
    (b : QueueBlock) : (releasedBlock remaining resolvedAt b).identity = b.identity := by
  unfold releasedBlock
  split
  · rfl
  · split <;> rfl

theorem releasedBlock_late (remaining : Bool) (resolvedAt : Instant) (b : QueueBlock) :
    (releasedBlock remaining resolvedAt b).state.early = false := by
  unfold releasedBlock resumedState
  repeat' split
  all_goals rfl

/-- **`resolve_uncertain_job`** fails one uncertain job and lets go of its block once no
uncertainty remains. -/
theorem resolveUncertainJob_ok {jobId : String} {resolution : UncertainResolution}
    {resolvedAt : Instant} (h : resolveUncertainJob L jobId resolution resolvedAt = .ok L') :
    ∃ j ∈ L.jobs, j.jobId = jobId ∧ j.state = .uncertain ∧ ∃ b ∈ L.blocks,
      b.blockId = j.blockId ∧ b.state = .uncertain ∧
      L'.jobs = L.jobs.map (updateIf (·.jobId = jobId) (resolvedJob resolvedAt)) ∧
      L'.blocks = L.blocks.map (updateIf (·.blockId = b.blockId)
        (releasedBlock (hasRemainingUncertainty L'.jobs b) resolvedAt)) ∧
      L'.revision = L.revision + 1 := by
  unfold resolveUncertainJob at h
  simp only [bind_eq_ok, orRaise_eq_ok, raiseIf_eq_ok, QueueLedger.find_block,
    QueueLedger.find_job, rewriteWhere_eq_ok, LedgerFields.construct_eq_ok, exists_unit,
    not_not] at h
  obtain ⟨j, ⟨hj, rfl⟩, h_j, b, ⟨hb, h_parent⟩, h_b, -, ⟨rfl, -⟩, -, ⟨rfl, -⟩, h_L'⟩ := h
  have h_jobs : L'.jobs = _ := congrArg LedgerFields.jobs h_L'
  refine ⟨j, hj, rfl, h_j, b, hb, h_parent, h_b, h_jobs, ?_,
    (congrArg LedgerFields.revision h_L' :)⟩
  rw [h_jobs]
  exact congrArg LedgerFields.blocks h_L'

theorem resolveUncertainJob_rewrites {jobId : String} {resolution : UncertainResolution}
    {resolvedAt : Instant} (h : resolveUncertainJob L jobId resolution resolvedAt = .ok L') :
    Rewrites (JobMoved [(.uncertain, .failed)]) L L' := by
  obtain ⟨j, hj, rfl, h_j, b, hb, -, h_b, h_jobs, h_blocks, h_rev⟩ := resolveUncertainJob_ok h
  refine .of_sweeps h_blocks h_jobs h_rev (QueueLedger.block_of_sweep hb ?_)
    (QueueLedger.job_of_sweep hj ?_)
  · exact BlockKept.of_open (releasedBlock_identity ..) (by rw [h_b]; rfl)
      fun _ => releasedBlock_late ..
  · exact ⟨by simp [resolvedJob, h_j], rfl, rfl, rfl⟩

/-- **`resolve_uncertain_block`** lets go of a quarantined block whose jobs are certain. -/
theorem resolveUncertainBlock_rewrites {blockId : String} {resolution : UncertainResolution}
    {R : QueueJob → QueueJob → Prop} (h : resolveUncertainBlock L blockId resolution = .ok L') :
    Rewrites R L L' := by
  unfold resolveUncertainBlock at h
  simp only [bind_eq_ok, orRaise_eq_ok, raiseIf_eq_ok, QueueLedger.find_block,
    rewriteWhere_eq_ok, LedgerFields.construct_eq_ok, exists_unit, not_not] at h
  obtain ⟨b, ⟨hb, rfl⟩, h_b, -, -, -, ⟨rfl, -⟩, h_L'⟩ := h
  refine .of_block_sweep (congrArg LedgerFields.blocks h_L') (congrArg LedgerFields.jobs h_L' :)
    (congrArg LedgerFields.revision h_L') (QueueLedger.block_of_sweep hb ?_)
  refine BlockKept.of_open rfl (by rw [h_b]; rfl) fun _ => ?_
  change (resumedState b).early = false
  unfold resumedState
  split <;> rfl

/-- **`quarantine_ambiguous_dispatches`** quarantines every active external state without
a correlation. -/
theorem quarantineAmbiguousDispatches_ok {reconciledAt : Instant}
    (h : quarantineAmbiguousDispatches L reconciledAt = .ok L') :
    L'.blocks = L.blocks.map (updateIf
        (fun b => isAmbiguous L.jobs b && decide (b.state ∈ activeBlockStates))
        fun b => { b with state := .uncertain }) ∧
      L'.jobs = L.jobs.map (updateIf isUncorrelatedActive
        fun j => { j with state := .uncertain }) ∧
      L'.revision = L.revision + 1 := by
  unfold quarantineAmbiguousDispatches at h
  simp only [bind_eq_ok, rewriteWhere_eq_ok, LedgerFields.construct_eq_ok] at h
  obtain ⟨-, ⟨rfl, -⟩, -, ⟨rfl, -⟩, h_L'⟩ := h
  exact ⟨(congrArg LedgerFields.blocks h_L' :), (congrArg LedgerFields.jobs h_L' :),
    (congrArg LedgerFields.revision h_L' :)⟩

/-- The moves into quarantine. -/
def quarantineMoves : List (JobState × JobState) :=
  [(.dispatching, .uncertain), (.accepted, .uncertain), (.running, .uncertain)]

theorem quarantineAmbiguousDispatches_rewrites {reconciledAt : Instant}
    (h : quarantineAmbiguousDispatches L reconciledAt = .ok L') :
    Rewrites (JobMoved quarantineMoves) L L' := by
  obtain ⟨h_blocks, h_jobs, h_rev⟩ := quarantineAmbiguousDispatches_ok h
  refine .of_sweeps h_blocks h_jobs h_rev (fun b _ h_sel => ?_) fun j _ h_sel => ?_
  · obtain ⟨-, h_active⟩ := Bool.and_eq_true_iff.mp h_sel
    have h_active : b.state ∈ activeBlockStates := of_decide_eq_true h_active
    refine BlockKept.of_open rfl ?_ fun _ => rfl
    revert h_active
    cases b.state <;> decide
  · obtain ⟨h_state, -⟩ := Bool.and_eq_true_iff.mp h_sel
    have h_state : j.state ∈ activeJobStates := of_decide_eq_true h_state
    refine ⟨?_, rfl, rfl, rfl⟩
    revert h_state
    change j.state ∈ activeJobStates → (j.state, JobState.uncertain) ∈ quarantineMoves
    cases j.state <;> decide

/-! ### Completion -/

theorem latestCompletion_idem (last : Option Instant) (completedAt : Instant) :
    latestCompletion (some (latestCompletion last completedAt)) completedAt =
      latestCompletion last completedAt := by
  cases last with
  | none => exact max_self completedAt
  | some t => exact max_eq_left (le_max_right t completedAt)

theorem le_latestCompletion (last : Option Instant) (completedAt : Instant) :
    completedAt ≤ latestCompletion last completedAt := by
  cases last with
  | none => exact le_refl completedAt
  | some t => exact le_max_right t completedAt

/-- Closing the parent of a completed job: nothing happens while a job of it is open;
otherwise the block is completed or partial and keeps its identity. -/
theorem closeCompletedBlock_ok {parent : QueueBlock}
    (h : closeCompletedBlock L parent = .ok L') :
    ((∃ j ∈ jobsOf L.jobs parent, j.state.terminal = false) ∧ L' = L) ∨
      ((∀ j ∈ jobsOf L.jobs parent, j.state.terminal = true) ∧ L'.jobs = L.jobs ∧
        ∃ f : QueueBlock → QueueBlock, (∀ b, (f b).identity = b.identity) ∧
          (∀ b, (f b).state ∈ [BlockState.completed, .partial']) ∧
          L'.blocks = L.blocks.map (updateIf (·.blockId = parent.blockId) f)) := by
  unfold closeCompletedBlock at h
  dsimp only at h
  split at h
  · next h_all =>
    right
    have h_all : ∀ j ∈ jobsOf L.jobs parent, j.state.terminal = true :=
      List.all_eq_true.mp h_all
    obtain ⟨closedAt, -, h⟩ := bind_eq_ok.mp h
    -- completed when every job was completed, else partial
    set final := if (L.jobs.filter fun x => decide (x.blockId = parent.blockId)).all
      (fun x => decide (x.state = .completed)) = true then BlockState.completed else .partial'
    have h_final : final ∈ [BlockState.completed, .partial'] := by
      change (if _ then BlockState.completed else .partial') ∈ [BlockState.completed, .partial']
      split <;> decide
    split at h
    · -- a committed block is first set running, then closed
      obtain ⟨R, h_run, h_close⟩ := bind_eq_ok.mp h
      obtain ⟨-, -, -, -, -, -, -, -, h_R⟩ := QueueLedger.replaceBlockState_eq_ok.mp h_run
      obtain ⟨-, -, -, -, -, -, -, -, h_L'⟩ := QueueLedger.replaceBlockState_eq_ok.mp h_close
      refine ⟨h_all, ?_, fun b => QueueLedger.changedBlock final closedAt none
        (QueueLedger.changedBlock .running closedAt none b), fun b => ?_, fun b => ?_, ?_⟩
      · rw [h_L']
        exact (congrArg LedgerFields.jobs h_R :)
      · rw [QueueLedger.changedBlock_identity, QueueLedger.changedBlock_identity]
      · rw [QueueLedger.changedBlock_state]
        exact h_final
      · rw [← map_updateIf_map_updateIf, h_L', h_R]
        intro b
        rw [blockId_of_identity (QueueLedger.changedBlock_identity ..)]
    · -- a running block is closed at once
      obtain ⟨R, h_run, h_close⟩ := bind_eq_ok.mp h
      obtain rfl := pure_eq_ok.mp h_run
      obtain ⟨-, -, -, -, -, -, -, -, h_L'⟩ := QueueLedger.replaceBlockState_eq_ok.mp h_close
      refine ⟨h_all, (congrArg LedgerFields.jobs h_L' :), _,
        QueueLedger.changedBlock_identity final closedAt none, fun b => ?_,
        (congrArg LedgerFields.blocks h_L' :)⟩
      rw [QueueLedger.changedBlock_state]
      exact h_final
  · next h_some =>
    left
    obtain rfl := pure_eq_ok.mp h
    refine ⟨?_, rfl⟩
    rw [Bool.not_eq_true, List.all_eq_false] at h_some
    obtain ⟨j, hj, h_open⟩ := h_some
    exact ⟨j, hj, Bool.eq_false_of_not_eq_true h_open⟩

theorem closeCompletedBlock_rewrites {parent : QueueBlock} {R : QueueJob → QueueJob → Prop}
    (h : closeCompletedBlock L parent = .ok L') : Rewrites R L L' := by
  suffices h' : Rewrites (fun _ _ => False) L L' from h'.mono fun _ _ _ _ h => h.elim
  unfold closeCompletedBlock at h
  dsimp only at h
  split at h
  · obtain ⟨closedAt, -, h⟩ := bind_eq_ok.mp h
    split at h
    · obtain ⟨R, h_run, h_close⟩ := bind_eq_ok.mp h
      exact (QueueLedger.replaceBlockState_rewrites h_run).trans
        (QueueLedger.replaceBlockState_rewrites h_close) fun _ _ _ h => h.elim
    · obtain ⟨R, h_run, h_close⟩ := bind_eq_ok.mp h
      obtain rfl := pure_eq_ok.mp h_run
      exact QueueLedger.replaceBlockState_rewrites h_close
  · obtain rfl := pure_eq_ok.mp h
    exact Rewrites.refl L

theorem running_of_completed {s : JobState} (h : JobState.completed ∈ jobTransitions s) :
    s = .running := by
  revert h
  cases s <;> decide

/-- **`complete_job_and_advance_plan`** completes one running job, closes its block if that
was the last, and advances the room of the job by the completion. -/
theorem completeJobAndAdvancePlan_ok {plan : PlanRevision} {jobId nextRevisionId : String}
    {completedAt : Instant} {result : CompletionResult}
    (h : completeJobAndAdvancePlan L plan jobId completedAt nextRevisionId = .ok result) :
    ∃ j ∈ L.jobs, j.jobId = jobId ∧ j.state = .running ∧ ∃ parent ∈ L.blocks,
      parent.blockId = j.blockId ∧ ∃ C : QueueLedger,
      L.replaceJobState jobId .completed completedAt false none none none = .ok C ∧
      closeCompletedBlock C parent = .ok result.ledger ∧
      result.planRevision.roomPlans =
        plan.roomPlans.map (updateIf (·.areaId = j.areaId) (advanceRoom j completedAt)) := by
  unfold completeJobAndAdvancePlan at h
  simp only [bind_eq_ok, orRaise_eq_ok, raiseIf_eq_ok, QueueLedger.find_block,
    QueueLedger.find_job, exists_unit] at h
  obtain ⟨j, ⟨hj, rfl⟩, parent, ⟨hp, h_parent⟩, -, C, h_C, closed, h_closed, h⟩ := h
  -- the transition table lets only a running job complete
  have h_running : j.state = .running := by
    obtain ⟨j', hj', h_id, -, -, -, -, -, -, h_move, -⟩ :=
      QueueLedger.replaceJobState_eq_ok.mp h_C
    obtain rfl := eq_of_key L.valid.jobIds hj' hj h_id
    exact running_of_completed h_move
  refine ⟨j, hj, rfl, h_running, parent, hp, h_parent, C, h_C, ?_⟩
  split at h
  · simp only [bind_eq_ok, raiseIf_eq_ok, rewriteWhere_eq_ok, exists_unit,
      PlanRevisionFields.construct_eq_ok, pure_eq_ok] at h
    obtain ⟨rooms, ⟨rfl, -⟩, -, advanced, h_plan, rfl⟩ := h
    exact ⟨h_closed, by rw [h_plan]⟩
  · -- no room stands for the area, so the sweep would change none
    next h_none =>
    obtain rfl := pure_eq_ok.mp h
    rw [Bool.not_eq_true, List.any_eq_false] at h_none
    exact ⟨h_closed, (map_updateIf_none fun room h_room =>
      Bool.eq_false_of_not_eq_true (h_none room h_room)).symm⟩

theorem completeJobAndAdvancePlan_rewrites {plan : PlanRevision}
    {jobId nextRevisionId : String} {completedAt : Instant} {result : CompletionResult}
    (h : completeJobAndAdvancePlan L plan jobId completedAt nextRevisionId = .ok result) :
    Rewrites (JobMoved (movesTo .completed)) L result.ledger := by
  obtain ⟨_, -, -, -, parent, -, -, C, h_C, h_closed, -⟩ := completeJobAndAdvancePlan_ok h
  exact (QueueLedger.replaceJobState_moves (by decide) h_C).trans
    (closeCompletedBlock_rewrites h_closed)
    (JobMoved.comp (QueueLedger.movesTo_oneLayer .completed))

/-! ### Sealing -/

/-- A new block was sealed at the end of the ledger: its lane had no open block, and its
jobs are new, pending, and its own. -/
structure BlockSealed (L L' : QueueLedger) (block : QueueBlock) (children : List QueueJob) :
    Prop where
  blocks : L'.blocks = L.blocks ++ [block]
  jobs : L'.jobs = L.jobs ++ children
  revision : L'.revision = L.revision + 1
  laneFree : ∀ b ∈ L.blocks, b.laneId = block.laneId → b.state.terminal = true
  state : block.state = .sealed
  uncommitted : block.committedAt = none
  unfinished : block.completedAt = none
  listed : block.jobIds = children.map (·.jobId)
  nonempty : children ≠ []
  pending : ∀ j ∈ children, j.blockId = block.blockId ∧ j.state = .pending ∧ j.attempt = 0 ∧
    j.adapterToken = none

/-- The id of a newly sealed block is new. -/
theorem BlockSealed.fresh {block : QueueBlock} {children : List QueueJob}
    (h_step : BlockSealed L L' block children) {b : QueueBlock} (hb : b ∈ L.blocks) :
    b.blockId ≠ block.blockId := by
  have h_nodup := L'.valid.blockIds
  rw [h_step.blocks, List.map_append, List.nodup_append] at h_nodup
  exact h_nodup.2.2 _ (List.mem_map_of_mem hb) _ (by simp)

/-- The jobs of a block, in the order it lists them. -/
theorem map_jobId_jobsForBlock {block : QueueBlock} (hb : block ∈ L.blocks) :
    (jobsForBlock L block).map (·.jobId) = block.jobIds :=
  map_key_byKeys (L.valid.ownership.known block hb)

theorem sealedBlock_jobIds (snapshot : PlanSnapshot) (laneId key : String) (now : Instant)
    (idFactory : ℕ → String) (strategy : DispatchStrategy) (guarantee : BlockGuarantee) :
    (sealedBlock snapshot laneId key now idFactory strategy guarantee).jobIds =
      (sealedJobs snapshot now idFactory).map (·.jobId) := by
  have h_snd : (List.range snapshot.jobs.length) = snapshot.jobs.zipIdx.map Prod.snd := by
    rw [List.zipIdx_map_snd, List.range_eq_range']
  unfold sealedBlock sealedJobs
  rw [h_snd, List.map_map, List.map_map]
  rfl

theorem sealedJobs_pending (snapshot : PlanSnapshot) (now : Instant) (idFactory : ℕ → String) :
    ∀ j ∈ sealedJobs snapshot now idFactory, j.blockId = idFactory 0 ∧ j.state = .pending ∧
      j.attempt = 0 ∧ j.adapterToken = none := by
  intro j hj
  obtain ⟨entry, -, rfl⟩ := List.mem_map.mp hj
  exact ⟨rfl, rfl, rfl, rfl⟩

/-- **`start_due_block`** returns the open block the key names, or finds no work, or seals
a new block. -/
theorem startDueBlock_ok {snapshot : PlanSnapshot} {laneId key : String} {now : Instant}
    {idFactory : ℕ → String} {strategy : DispatchStrategy} {guarantee : BlockGuarantee}
    {atomic : Bool} {expected : Option ℤ} {result : StartResult}
    (h : startDueBlock L snapshot laneId key now idFactory strategy guarantee atomic expected =
      .ok result) :
    (∃ b ∈ L.blocks, b.laneId = laneId ∧ b.state.terminal = false ∧
        result = ⟨.existing, L, some b, jobsForBlock L b⟩) ∨
      (snapshot.jobs = [] ∧ result = ⟨.noWork, L, none, []⟩) ∨
      ∃ b jobs, b.laneId = laneId ∧ b.dispatchStrategy = strategy ∧ b.guarantee = guarantee ∧
        BlockSealed L result.ledger b jobs ∧
        result = ⟨.created, result.ledger, some b, jobs⟩ := by
  unfold startDueBlock at h
  dsimp only at h
  split at h
  · -- the key names an open block of the lane
    next b h_find =>
    cases h
    have h_sel := List.find?_some h_find
    simp only [decide_eq_true_eq] at h_sel
    exact Or.inl ⟨b, List.mem_of_find?_eq_some h_find, h_sel.1, h_sel.2.2, rfl⟩
  · -- no such block: the guards of the lane and of the revision have passed
    right
    simp only [seq_eq_ok, raiseIf_eq_ok] at h
    obtain ⟨-, -, -, -, h_free, h⟩ := h
    split at h
    · next h_empty => exact Or.inl ⟨h_empty, (pure_eq_ok.mp h).symm⟩
    · next h_jobs =>
      -- the identities drawn are new; the ledger's constructor checks what is left
      right
      simp only [seq_eq_ok, raiseIf_eq_ok] at h
      obtain ⟨-, -, -, h⟩ := h
      obtain ⟨updated, h_updated, h⟩ := bind_eq_ok.mp h
      obtain rfl := pure_eq_ok.mp h
      have h_L' := LedgerFields.construct_eq_ok.mp h_updated
      refine ⟨_, _, rfl, rfl, rfl, ?_, rfl⟩
      exact
        { blocks := congrArg LedgerFields.blocks h_L'
          jobs := congrArg LedgerFields.jobs h_L'
          revision := congrArg LedgerFields.revision h_L'
          laneFree := fun b hb h_lane => by
            by_contra h_open
            exact h_free ⟨b, hb, h_lane, Bool.eq_false_of_not_eq_true h_open⟩
          state := rfl
          uncommitted := rfl
          unfinished := rfl
          listed := sealedBlock_jobIds ..
          nonempty := by simpa [sealedJobs] using h_jobs
          pending := sealedJobs_pending snapshot now idFactory }

end VacuumPlanner
