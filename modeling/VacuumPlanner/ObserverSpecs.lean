import VacuumPlanner.Domain.QueueSpecs
import VacuumPlanner.Observer

/-!
# What the observation commands do

One specification per outcome. The bulk outcomes rewrite the blocks a report affects
together with their active jobs; that an affected block is open, which those commands do
not check, follows from the ledger: a block with an active job is not terminal
(`open_of_active`).
-/

namespace VacuumPlanner

open Framework

variable {L L' : QueueLedger} {s s' : PlannerState} {observedAt : Instant}

/-! ### Affected blocks -/

theorem active_open {state : JobState} (h : state ∈ activeJobStates) :
    state.terminal = false := by
  revert h
  cases state <;> decide

/-- A block with an active job is not terminal. -/
theorem open_of_active {j : QueueJob} (hj : j ∈ L.jobs) (h : j.state ∈ activeJobStates)
    {b : QueueBlock} (hb : b ∈ L.blocks) (h_parent : b.blockId = j.blockId) :
    b.state.terminal = false :=
  QueueLedger.parentOpen_of_open hj (active_open h) b hb h_parent

theorem mem_dispatchingBlockIds {id : String} :
    id ∈ dispatchingBlockIds L observedAt ↔
      ∃ j ∈ L.jobs, j.blockId = id ∧ j.state = .dispatching ∧
        (∃ sentAt ∈ j.sentAt, sentAt ≤ observedAt) ∧
        ∃ b ∈ L.blocks, b.blockId = id ∧ b.state = .committing := by
  unfold dispatchingBlockIds
  simp only [List.mem_map, List.mem_filter, decide_eq_true_eq]
  constructor
  · rintro ⟨j, ⟨hj, ⟨b, ⟨hb, h_state⟩, h_parent⟩, h_j, h_sent⟩, rfl⟩
    exact ⟨j, hj, rfl, h_j, h_sent, b, hb, h_parent, h_state⟩
  · rintro ⟨j, hj, rfl, h_j, h_sent, b, hb, h_parent, h_state⟩
    exact ⟨j, ⟨hj, ⟨b, ⟨hb, h_state⟩, h_parent⟩, h_j, h_sent⟩, rfl⟩

/-- A dispatching block is committing. -/
theorem committing_of_dispatching {b : QueueBlock} (hb : b ∈ L.blocks)
    (h : b.blockId ∈ dispatchingBlockIds L observedAt) : b.state = .committing := by
  obtain ⟨-, -, -, -, -, b', hb', h_id, h_state⟩ := mem_dispatchingBlockIds.mp h
  rw [← L.block_eq hb' hb h_id]
  exact h_state

theorem mem_affectedBlockIds {id : String} :
    id ∈ affectedBlockIds L observedAt ↔
      (∃ j ∈ L.jobs, j.blockId = id ∧ j.state ∈ [JobState.accepted, .running]) ∨
        id ∈ dispatchingBlockIds L observedAt := by
  unfold affectedBlockIds
  simp only [List.mem_append, List.mem_map, List.mem_filter, decide_eq_true_eq]
  exact or_congr_left (exists_congr fun j =>
    ⟨fun ⟨⟨h1, h2⟩, h3⟩ => ⟨h1, h3, h2⟩, fun ⟨h1, h3, h2⟩ => ⟨⟨h1, h2⟩, h3⟩⟩)

/-- An affected block holds an active job. -/
theorem exists_active_of_affected {id : String} (h : id ∈ affectedBlockIds L observedAt) :
    ∃ j ∈ L.jobs, j.blockId = id ∧ j.state ∈ activeJobStates := by
  rcases mem_affectedBlockIds.mp h with ⟨j, hj, h_id, h_state⟩ | h
  · exact ⟨j, hj, h_id, List.mem_cons_of_mem _ h_state⟩
  · obtain ⟨j, hj, h_id, h_state, -⟩ := mem_dispatchingBlockIds.mp h
    exact ⟨j, hj, h_id, h_state ▸ List.mem_cons_self⟩

theorem affected_open {b : QueueBlock} (hb : b ∈ L.blocks)
    (h : b.blockId ∈ affectedBlockIds L observedAt) : b.state.terminal = false := by
  obtain ⟨j, hj, h_parent, h_state⟩ := exists_active_of_affected h
  exact open_of_active hj h_state hb h_parent.symm

/-! ### Running -/

theorem startDispatching_ok {dispatching : List String}
    (h : startDispatching L dispatching observedAt = .ok L') :
    L'.blocks = L.blocks.map (updateIf (fun b => decide (b.blockId ∈ dispatching)) fun b =>
        { b with state := .running, committedAt := some observedAt }) ∧
      L'.jobs = L.jobs.map
        (updateIf (fun j => decide (j.blockId ∈ dispatching ∧ j.state = .dispatching)) fun j =>
          { j with state := .running, startedAt := some observedAt }) ∧
      (L' = L ∨ L'.revision = L.revision + 1) := by
  unfold startDispatching at h
  split at h
  · next h_none =>
    cases h
    subst h_none
    exact ⟨(map_updateIf_none (by simp)).symm, (map_updateIf_none (by simp)).symm, Or.inl rfl⟩
  · simp only [bind_eq_ok, rewriteWhere_eq_ok, LedgerFields.construct_eq_ok] at h
    obtain ⟨-, ⟨rfl, -⟩, -, ⟨rfl, -⟩, h_L'⟩ := h
    exact ⟨(congrArg LedgerFields.blocks h_L' :), (congrArg LedgerFields.jobs h_L' :),
      Or.inr (congrArg LedgerFields.revision h_L')⟩

/-- The moves of a report that the vacuum runs. -/
def runningMoves : List (JobState × JobState) := [(.dispatching, .running), (.accepted, .running)]

theorem startDispatching_rewrites
    (h : startDispatching L (dispatchingBlockIds L observedAt) observedAt = .ok L') :
    Rewrites (JobMoved runningMoves) L L' := by
  obtain ⟨h_blocks, h_jobs, rfl | h_rev⟩ := startDispatching_ok h
  · exact Rewrites.refl L'
  · refine .of_sweeps h_blocks h_jobs h_rev (fun b hb h_sel => ?_) fun j _ h_sel => ?_
    · have h_state := committing_of_dispatching hb (of_decide_eq_true h_sel)
      exact BlockKept.of_open rfl (by rw [h_state]; rfl) fun _ => rfl
    · obtain ⟨-, h_state⟩ := of_decide_eq_true h_sel
      exact ⟨by simp [h_state, runningMoves], rfl, rfl, rfl⟩

/-- The rewrite of a committed block the report proves to run. -/
def runningBlock (ids : List String) : QueueBlock → QueueBlock :=
  updateIf (fun b => decide (b.blockId ∈ ids ∧ b.state = .committed)) fun b =>
    { b with state := .running }

/-- The rewrite of an accepted job the report proves to run. -/
def runningJob (ids : List String) (observedAt : Instant) : QueueJob → QueueJob :=
  updateIf (fun j => decide (j.blockId ∈ ids ∧ j.state = .accepted))
    (QueueLedger.changedJob .running observedAt none none none)

theorem runningBlock_identity (ids : List String) (b : QueueBlock) :
    (runningBlock ids b).identity = b.identity :=
  QueueBlock.identity_updateIf (by exact fun _ => rfl) b

theorem runningJob_identity (ids : List String) (observedAt : Instant) (j : QueueJob) :
    (runningJob ids observedAt j).identity = j.identity :=
  QueueJob.identity_updateIf
    (QueueLedger.changedJob_identity .running observedAt none none none) j

/-- Moving the selected jobs of a ledger, one by one, is the rewrite that selects them. -/
theorem map_movedJob_filter {newState : JobState} {changedAt : Instant} {p : QueueJob → Bool} :
    L.jobs.map (movedJob newState changedAt (L.jobs.filter p)) =
      L.jobs.map (updateIf p (QueueLedger.changedJob newState changedAt none none none)) := by
  refine map_updateIf_congr fun j hj => ?_
  rw [Bool.eq_iff_iff, decide_eq_true_iff, List.mem_map]
  constructor
  · rintro ⟨j', hj', h_id⟩
    obtain ⟨h_mem, h_p⟩ := List.mem_filter.mp hj'
    rw [eq_of_key L.valid.jobIds hj h_mem h_id.symm]
    exact h_p
  · exact fun h => ⟨j, List.mem_filter.mpr ⟨hj, h⟩, rfl⟩

/-- The accepted jobs of one block. -/
def acceptedJobs (L : QueueLedger) (id : String) : List QueueJob :=
  L.jobs.filter fun job => decide (job.blockId = id ∧ job.state = .accepted)

/-- The loop body is a block transition, when the block is committed, and a loop of job
transitions. -/
theorem startActiveBlock_eq_ok {id : String} :
    startActiveBlock observedAt L id = .ok L' ↔ ∃ b ∈ L.blocks, b.blockId = id ∧
      ∃ L₁ : QueueLedger, (if b.state = .committed then
          L.replaceBlockState id .running observedAt none = .ok L₁ else L₁ = L) ∧
        moveJobs .running observedAt L₁ (acceptedJobs L₁ id) = .ok L' := by
  unfold startActiveBlock
  simp only [bind_eq_ok, orRaise_eq_ok, QueueLedger.find_block, and_assoc]
  refine exists_congr fun b => and_congr_right fun _ => and_congr_right fun _ => ?_
  split
  · exact bind_eq_ok
  · rw [bind_eq_ok]
    exact exists_congr fun L₁ => and_congr_left fun _ => pure_eq_ok.trans eq_comm

theorem startActiveBlock_ok {id : String} (h : startActiveBlock observedAt L id = .ok L') :
    L'.blocks = L.blocks.map (runningBlock [id]) ∧
      L'.jobs = L.jobs.map (runningJob [id] observedAt) := by
  obtain ⟨b, hb, rfl, L₁, h₁, h_move⟩ := startActiveBlock_eq_ok.mp h
  obtain ⟨h_blocks, h_jobs, -, -⟩ := moveJobs_ok h_move
  obtain ⟨h_blocks₁, h_jobs₁⟩ :
      L₁.blocks = L.blocks.map (runningBlock [b.blockId]) ∧ L₁.jobs = L.jobs := by
    -- a committed block is moved to running; a running one is left, and the map leaves it too
    split at h₁
    · next h_state =>
      obtain ⟨-, -, -, -, -, -, -, -, h_L₁⟩ := QueueLedger.replaceBlockState_eq_ok.mp h₁
      refine ⟨(congrArg LedgerFields.blocks h_L₁ :).trans ?_, (congrArg LedgerFields.jobs h_L₁ :)⟩
      refine map_updateIf_congr fun b' hb' => ?_
      by_cases h_id : b'.blockId = b.blockId
      · rw [L.block_eq hb' hb h_id]
        simp [h_state]
      · simp [h_id]
    · next h_state =>
      subst h₁
      refine ⟨(map_updateIf_none fun b' hb' => ?_).symm, rfl⟩
      by_cases h_id : b'.blockId = b.blockId
      · rw [L₁.block_eq hb' hb h_id]
        simp [h_state]
      · simp [h_id]
  refine ⟨h_blocks.trans h_blocks₁, ?_⟩
  -- its accepted jobs are those that the map moves
  unfold acceptedJobs at h_jobs
  rw [h_jobs, map_movedJob_filter, h_jobs₁]
  exact map_updateIf_congr fun j _ => by simp

theorem startActiveBlock_rewrites {id : String}
    (h : startActiveBlock observedAt L id = .ok L') : Rewrites (JobMoved runningMoves) L L' := by
  obtain ⟨b, -, -, L₁, h₁, h_move⟩ := startActiveBlock_eq_ok.mp h
  have h_L₁ : Rewrites (JobMoved runningMoves) L L₁ := by
    split at h₁
    · exact QueueLedger.replaceBlockState_rewrites h₁
    · rw [h₁]; exact Rewrites.refl L
  refine h_L₁.trans ((moveJobs_rewrites (by decide) h_move).mono fun _ _ _ _ h_moved =>
    h_moved.mono (by decide)) (JobMoved.comp (by decide))

theorem runningBlock_cons (id : String) (ids : List String) (b : QueueBlock) :
    runningBlock ids (runningBlock [id] b) = runningBlock (id :: ids) b := by
  unfold runningBlock
  rw [updateIf_updateIf (by simp)]
  unfold updateIf
  grind

theorem runningJob_cons (id : String) (ids : List String) (j : QueueJob) :
    runningJob ids observedAt (runningJob [id] observedAt j) =
      runningJob (id :: ids) observedAt j := by
  unfold runningJob
  rw [updateIf_updateIf (by simp)]
  unfold updateIf
  grind

/-- The loop of `_running` over the active blocks. -/
theorem startActiveBlocks_ok {ids : List String}
    (h : ids.foldlM (startActiveBlock observedAt) L = .ok L') :
    L'.blocks = L.blocks.map (runningBlock ids) ∧
      L'.jobs = L.jobs.map (runningJob ids observedAt) ∧
      Rewrites (JobMoved runningMoves) L L' := by
  induction ids generalizing L with
  | nil =>
    obtain rfl : L = L' := pure_eq_ok.mp h
    exact ⟨(map_updateIf_none (by simp)).symm, (map_updateIf_none (by simp)).symm,
      Rewrites.refl L⟩
  | cons id ids ih =>
    rw [List.foldlM_cons] at h
    obtain ⟨L₁, h₁, h_rest⟩ := bind_eq_ok.mp h
    obtain ⟨h_blocks₁, h_jobs₁⟩ := startActiveBlock_ok h₁
    obtain ⟨h_blocks, h_jobs, h_rewrites⟩ := ih h_rest
    refine ⟨?_, ?_, (startActiveBlock_rewrites h₁).trans h_rewrites (JobMoved.comp (by decide))⟩
    · rw [h_blocks, h_blocks₁, List.map_map]
      exact List.map_congr_left fun b _ => runningBlock_cons id ids b
    · rw [h_jobs, h_jobs₁, List.map_map]
      exact List.map_congr_left fun j _ => runningJob_cons id ids j

theorem mem_activeBlockIds {ids : List String} {id : String} :
    id ∈ activeBlockIds L ids ↔ ∃ b ∈ L.blocks, b.blockId = id ∧
      (b.state ∈ [BlockState.committed, .running] ∨ b.blockId ∈ ids) := by
  unfold activeBlockIds
  simp only [List.mem_map, List.mem_filter, decide_eq_true_eq]
  refine exists_congr fun b => ?_
  exact ⟨fun ⟨⟨h1, h2⟩, h3⟩ => ⟨h1, h3, h2⟩, fun ⟨h1, h3, h2⟩ => ⟨⟨h1, h2⟩, h3⟩⟩

/-- What a running report does to a block: a dispatching block has started, a committed
block runs. -/
def observedRunningBlock (L : QueueLedger) (observedAt : Instant) (b : QueueBlock) : QueueBlock :=
  runningBlock (activeBlockIds L (dispatchingBlockIds L observedAt))
    (updateIf (fun b => decide (b.blockId ∈ dispatchingBlockIds L observedAt)) (fun b =>
      { b with state := .running, committedAt := some observedAt }) b)

/-- What a running report does to a job: the dispatching jobs of a dispatching block have
started, the accepted jobs of an active block run. -/
def observedRunningJob (L : QueueLedger) (observedAt : Instant) (j : QueueJob) : QueueJob :=
  runningJob (activeBlockIds L (dispatchingBlockIds L observedAt)) observedAt
    (updateIf (fun j => decide (j.blockId ∈ dispatchingBlockIds L observedAt ∧
      j.state = .dispatching)) (fun j =>
        { j with state := .running, startedAt := some observedAt }) j)

theorem observedRunningBlock_identity (L : QueueLedger) (observedAt : Instant)
    (b : QueueBlock) : (observedRunningBlock L observedAt b).identity = b.identity :=
  (runningBlock_identity _ _).trans (QueueBlock.identity_updateIf (by exact fun _ => rfl) b)

theorem observedRunningJob_identity (L : QueueLedger) (observedAt : Instant) (j : QueueJob) :
    (observedRunningJob L observedAt j).identity = j.identity :=
  (runningJob_identity _ _ _).trans (QueueJob.identity_updateIf (by exact fun _ => rfl) j)

section ObservedRunning

variable {b : QueueBlock} {j : QueueJob}

theorem observedRunningBlock_dispatching (h : b.blockId ∈ dispatchingBlockIds L observedAt) :
    observedRunningBlock L observedAt b =
      { b with state := .running, committedAt := some observedAt } := by
  unfold observedRunningBlock runningBlock
  rw [updateIf_pos (p := fun b : QueueBlock => decide (b.blockId ∈ dispatchingBlockIds L observedAt))
    (by simpa using h)]
  exact updateIf_neg (by simp)

theorem observedRunningBlock_committed (hb : b ∈ L.blocks) (h : b.state = .committed) :
    observedRunningBlock L observedAt b = { b with state := .running } := by
  have h_other : b.blockId ∉ dispatchingBlockIds L observedAt := by
    intro h_dispatching
    rw [committing_of_dispatching hb h_dispatching] at h
    exact absurd h (by decide)
  have h_active : b.blockId ∈ activeBlockIds L (dispatchingBlockIds L observedAt) :=
    mem_activeBlockIds.mpr ⟨b, hb, rfl, Or.inl (by rw [h]; decide)⟩
  unfold observedRunningBlock runningBlock
  rw [updateIf_neg (p := fun b : QueueBlock => decide (b.blockId ∈ dispatchingBlockIds L observedAt))
    (by simpa using h_other)]
  exact updateIf_pos (by simpa using ⟨h_active, h⟩)

theorem observedRunningBlock_other (h : b.blockId ∉ dispatchingBlockIds L observedAt)
    (h_state : b.state ≠ .committed) : observedRunningBlock L observedAt b = b := by
  unfold observedRunningBlock runningBlock
  rw [updateIf_neg (p := fun b : QueueBlock => decide (b.blockId ∈ dispatchingBlockIds L observedAt))
    (by simpa using h)]
  exact updateIf_neg (by simp [h_state])

theorem observedRunningJob_dispatching (h : j.blockId ∈ dispatchingBlockIds L observedAt)
    (h_state : j.state = .dispatching) : observedRunningJob L observedAt j =
      { j with state := .running, startedAt := some observedAt } := by
  unfold observedRunningJob runningJob
  rw [updateIf_pos (p := fun j : QueueJob => decide (j.blockId ∈ dispatchingBlockIds L observedAt ∧
    j.state = .dispatching)) (by simpa using ⟨h, h_state⟩)]
  exact updateIf_neg (by simp)

theorem observedRunningJob_active
    (h : j.blockId ∈ activeBlockIds L (dispatchingBlockIds L observedAt))
    (h_state : j.state = .accepted) : observedRunningJob L observedAt j =
      QueueLedger.changedJob .running observedAt none none none j := by
  unfold observedRunningJob runningJob
  rw [updateIf_neg (p := fun j : QueueJob => decide (j.blockId ∈ dispatchingBlockIds L observedAt ∧
    j.state = .dispatching)) (by simp [h_state])]
  exact updateIf_pos (by simpa using ⟨h, h_state⟩)

theorem observedRunningJob_accepted (hb : b ∈ L.blocks) (h_parent : j.blockId = b.blockId)
    (h_block : b.state ∈ [BlockState.committed, .running]) (h_state : j.state = .accepted) :
    observedRunningJob L observedAt j =
      QueueLedger.changedJob .running observedAt none none none j :=
  observedRunningJob_active
    (mem_activeBlockIds.mpr ⟨b, hb, h_parent.symm, Or.inl h_block⟩) h_state

theorem observedRunningJob_other (h : ¬ (j.blockId ∈ dispatchingBlockIds L observedAt ∧
    j.state = .dispatching)) (h_state : ¬ (j.blockId ∈ activeBlockIds L
      (dispatchingBlockIds L observedAt) ∧ j.state = .accepted)) :
    observedRunningJob L observedAt j = j := by
  unfold observedRunningJob runningJob
  rw [updateIf_neg (p := fun j : QueueJob => decide (j.blockId ∈ dispatchingBlockIds L observedAt ∧
    j.state = .dispatching)) (by simpa using h)]
  exact updateIf_neg (by simpa using h_state)

/-- A running report starts every job it changes, at its own instant. -/
theorem observedRunningJob_cases (L : QueueLedger) (observedAt : Instant) (j : QueueJob) :
    observedRunningJob L observedAt j = j ∨
      (observedRunningJob L observedAt j).state = .running ∧
        (observedRunningJob L observedAt j).sentAt = j.sentAt ∧
        (observedRunningJob L observedAt j).startedAt = some observedAt := by
  by_cases h_dispatching : j.blockId ∈ dispatchingBlockIds L observedAt ∧ j.state = .dispatching
  · rw [observedRunningJob_dispatching h_dispatching.1 h_dispatching.2]
    exact Or.inr ⟨rfl, rfl, rfl⟩
  · by_cases h_active : j.blockId ∈ activeBlockIds L (dispatchingBlockIds L observedAt) ∧
        j.state = .accepted
    · rw [observedRunningJob_active h_active.1 h_active.2]
      exact Or.inr ⟨rfl, rfl, rfl⟩
    · exact Or.inl (observedRunningJob_other h_dispatching h_active)

end ObservedRunning

/-- **`_running`** starts the dispatching blocks and runs the committed ones. -/
theorem observeRunning_ok (h : observeRunning s observedAt = .ok s') :
    s'.planRevision = s.planRevision ∧
      s'.ledger.blocks = s.ledger.blocks.map (observedRunningBlock s.ledger observedAt) ∧
      s'.ledger.jobs = s.ledger.jobs.map (observedRunningJob s.ledger observedAt) ∧
      Rewrites (JobMoved runningMoves) s.ledger s'.ledger := by
  unfold observeRunning at h
  dsimp only at h
  split at h
  · next h_none =>
    obtain rfl := pure_eq_ok.mp h
    -- no active block, so no dispatching one either
    have h_dispatching : dispatchingBlockIds s.ledger observedAt = [] := by
      refine List.eq_nil_iff_forall_not_mem.mpr fun id h_id => ?_
      obtain ⟨-, -, -, -, -, b, hb, h_b, -⟩ := mem_dispatchingBlockIds.mp h_id
      have := mem_activeBlockIds.mpr ⟨b, hb, rfl, Or.inr (h_b.symm ▸ h_id)⟩
      rw [h_none] at this
      exact List.not_mem_nil this
    refine ⟨rfl, ?_, ?_, Rewrites.refl _⟩
    · refine ((List.map_congr_left fun b _ => ?_).trans (List.map_id _)).symm
      unfold observedRunningBlock runningBlock
      rw [h_none, updateIf_neg (by simp), updateIf_neg (by simp [h_dispatching]), id]
    · refine ((List.map_congr_left fun j _ => ?_).trans (List.map_id _)).symm
      unfold observedRunningJob runningJob
      rw [h_none, updateIf_neg (by simp), updateIf_neg (by simp [h_dispatching]), id]
  · -- first the dispatching blocks are started, then the active ones run on
    obtain ⟨L₁, h₁, h⟩ := bind_eq_ok.mp h
    obtain ⟨L₂, h₂, h⟩ := bind_eq_ok.mp h
    obtain ⟨h_plan, h_ledger⟩ := PlannerState.construct_eq_ok.mp h
    obtain ⟨h_blocks₁, h_jobs₁, -⟩ := startDispatching_ok h₁
    obtain ⟨h_blocks₂, h_jobs₂, h_rewrites⟩ := startActiveBlocks_ok h₂
    rw [h_ledger]
    refine ⟨h_plan, ?_, ?_, (startDispatching_rewrites h₁).trans h_rewrites
      (JobMoved.comp (by decide))⟩
    · rw [h_blocks₂, h_blocks₁, List.map_map]
      rfl
    · rw [h_jobs₂, h_jobs₁, List.map_map]
      rfl

/-! ### Completed -/

/-- The loop body of `_completed` completes one running job. -/
theorem completeRunningJob_rewrites {entry : String × String}
    (h : completeRunningJob observedAt s entry = .ok s') :
    Rewrites (JobMoved (movesTo .completed)) s.ledger s'.ledger := by
  obtain ⟨result, h_result, h⟩ := bind_eq_ok.mp h
  obtain ⟨-, h_ledger⟩ := PlannerState.construct_eq_ok.mp h
  rw [h_ledger]
  exact completeJobAndAdvancePlan_rewrites h_result

/-- It touches the jobs and the block of the completed job only, and closes the block once
every job of it has ended. -/
theorem completeRunningJob_ok {entry : String × String}
    (h : completeRunningJob observedAt s entry = .ok s') :
    ∃ j ∈ s.ledger.jobs, j.jobId = entry.1 ∧ j.state = .running ∧
      s'.ledger.jobs = s.ledger.jobs.map (updateIf (·.jobId = j.jobId)
        (QueueLedger.changedJob .completed observedAt none none none)) ∧
      ∃ f : QueueBlock → QueueBlock,
        s'.ledger.blocks = s.ledger.blocks.map (updateIf (·.blockId = j.blockId) f) ∧
        (((∀ b, f b = b) ∧ ∃ k ∈ s'.ledger.jobs, k.blockId = j.blockId ∧
            k.state.terminal = false) ∨
          ∀ b, (f b).state ∈ [BlockState.completed, .partial']) := by
  obtain ⟨result, h_result, h_state⟩ := bind_eq_ok.mp h
  obtain ⟨-, h_ledger⟩ := PlannerState.construct_eq_ok.mp h_state
  obtain ⟨j, hj, h_id, h_running, parent, -, h_parent, C, h_C, h_closed, -⟩ :=
    completeJobAndAdvancePlan_ok h_result
  obtain ⟨-, -, -, -, -, -, -, -, -, -, -, -, h_fields⟩ := QueueLedger.replaceJobState_eq_ok.mp h_C
  -- completing the job leaves the blocks to the next step
  have h_blocks : C.blocks = s.ledger.blocks := (congrArg LedgerFields.blocks h_fields :)
  have h_jobs : C.jobs = s.ledger.jobs.map (updateIf (·.jobId = j.jobId)
      (QueueLedger.changedJob .completed observedAt none none none)) := by
    rw [h_id]
    exact congrArg LedgerFields.jobs h_fields
  rw [h_ledger]
  refine ⟨j, hj, h_id, h_running, ?_⟩
  rw [← h_parent]
  -- the block waits for a job that is open, or closes
  rcases closeCompletedBlock_ok h_closed with ⟨⟨k, hk, h_open⟩, h_same⟩ | ⟨-, h_kept, f, -, hf, h_f⟩
  · obtain ⟨h_mem, h_k⟩ := mem_jobsOf.mp hk
    rw [h_same]
    refine ⟨h_jobs, id, ?_, Or.inl ⟨fun _ => rfl, k, h_mem, h_k, h_open⟩⟩
    rw [h_blocks]
    exact ((List.map_congr_left fun b _ => by unfold updateIf; split <;> rfl).trans
      (List.map_id _)).symm
  · exact ⟨h_kept.trans h_jobs, f, h_blocks ▸ h_f, Or.inr hf⟩

/-- A block without a running job is not touched by completions, and neither are its
jobs. -/
theorem completeRunningJobs_untouched {entries : List (String × String)} {b : QueueBlock}
    (hb : b ∈ s.ledger.blocks) (h_none : ∀ j ∈ jobsOf s.ledger.jobs b, j.state ≠ .running)
    (h : entries.foldlM (completeRunningJob observedAt) s = .ok s') :
    b ∈ s'.ledger.blocks ∧ jobsOf s'.ledger.jobs b = jobsOf s.ledger.jobs b := by
  induction entries generalizing s with
  | nil =>
    obtain rfl : s = s' := pure_eq_ok.mp h
    exact ⟨hb, rfl⟩
  | cons entry entries ih =>
    rw [List.foldlM_cons] at h
    obtain ⟨s₁, h₁, h_rest⟩ := bind_eq_ok.mp h
    obtain ⟨j, hj, -, h_running, h_jobs, f, h_blocks, -⟩ := completeRunningJob_ok h₁
    -- the job completed next runs, so it is of another block
    have h_other : j.blockId ≠ b.blockId := fun h_id =>
      h_none j (mem_jobsOf.mpr ⟨hj, h_id⟩) h_running
    have h_mem : b ∈ s₁.ledger.blocks := by
      rw [h_blocks, List.mem_map]
      exact ⟨b, hb, updateIf_neg (by simpa using h_other.symm)⟩
    -- so the block has the children it had
    have h_children : jobsOf s₁.ledger.jobs b = jobsOf s.ledger.jobs b := by
      rw [h_jobs, jobsOf_map (QueueJob.identity_updateIf
        (QueueLedger.changedJob_identity .completed observedAt none none none))]
      refine (List.map_congr_left fun k hk => ?_).trans (List.map_id _)
      refine updateIf_neg fun h_k => h_other ?_
      obtain ⟨h_k_mem, h_k_parent⟩ := mem_jobsOf.mp hk
      rw [← eq_of_key s.ledger.valid.jobIds h_k_mem hj (of_decide_eq_true h_k)]
      exact h_k_parent
    rw [← h_children]
    exact ih h_mem (h_children ▸ h_none) h_rest

theorem completeRunningJobs_rewrites {entries : List (String × String)}
    (h : entries.foldlM (completeRunningJob observedAt) s = .ok s') :
    Rewrites (JobMoved (movesTo .completed)) s.ledger s'.ledger := by
  induction entries generalizing s with
  | nil =>
    obtain rfl : s = s' := pure_eq_ok.mp h
    exact Rewrites.refl _
  | cons entry entries ih =>
    rw [List.foldlM_cons] at h
    obtain ⟨s₁, h₁, h_rest⟩ := bind_eq_ok.mp h
    exact (completeRunningJob_rewrites h₁).trans (ih h_rest)
      (JobMoved.comp (QueueLedger.movesTo_oneLayer .completed))

/-! ### Failed and uncertain

The two bulk outcomes differ in the state they write and in the fields that go with it. -/

/-- What a failed report does to an affected block. -/
def observedFailedBlock (observedAt : Instant) (b : QueueBlock) : QueueBlock :=
  { b with state := .failed, completedAt := some observedAt }

/-- What a failed report does to an active job of an affected block. -/
def observedFailedJob (observedAt : Instant) (j : QueueJob) : QueueJob :=
  { j with
    state := .failed, finishedAt := some observedAt,
    errorCode := some "vacuum_reported_failure" }

/-- A bulk outcome: the blocks a report affects and their active jobs are rewritten. -/
structure AffectedRewritten (f : QueueBlock → QueueBlock) (g : QueueJob → QueueJob)
    (observedAt : Instant) (s s' : PlannerState) : Prop where
  plan : s'.planRevision = s.planRevision
  blocks : s'.ledger.blocks = s.ledger.blocks.map
    (updateIf (fun b => decide (b.blockId ∈ affectedBlockIds s.ledger observedAt)) f)
  jobs : s'.ledger.jobs = s.ledger.jobs.map
    (updateIf (fun j => decide (j.blockId ∈ affectedBlockIds s.ledger observedAt ∧
      j.state ∈ activeJobStates)) g)
  revision : s' = s ∨ s'.ledger.revision = s.ledger.revision + 1

theorem AffectedRewritten.of_none {f : QueueBlock → QueueBlock} {g : QueueJob → QueueJob}
    (h : affectedBlockIds s.ledger observedAt = []) : AffectedRewritten f g observedAt s s where
  plan := rfl
  blocks := (map_updateIf_none fun b _ => by simp [h]).symm
  jobs := (map_updateIf_none fun j _ => by simp [h]).symm
  revision := Or.inl rfl

/-- The sweep the two outcomes share: `_failed` and `_uncertain` are instances of it. -/
def affectedOutcome (f : QueueBlock → QueueBlock) (g : QueueJob → QueueJob) (s : PlannerState)
    (observedAt : Instant) : Except PyError PlannerState := do
  let affected := affectedBlockIds s.ledger observedAt
  if affected = [] then
    return s
  let jobs ← rewriteWhere QueueJob.postInit
    (fun job => decide (job.blockId ∈ affected ∧ job.state ∈ activeJobStates)) g s.ledger.jobs
  let blocks ← rewriteWhere QueueBlock.postInit
    (fun block => decide (block.blockId ∈ affected)) f s.ledger.blocks
  let ledger ← LedgerFields.construct
    { s.ledger.toLedgerFields with
      revision := s.ledger.revision + 1, blocks, jobs,
      lastReconciledAt := some observedAt }
  PlannerState.construct s.planRevision ledger

theorem affectedOutcome_ok {f : QueueBlock → QueueBlock} {g : QueueJob → QueueJob}
    (h : affectedOutcome f g s observedAt = .ok s') : AffectedRewritten f g observedAt s s' := by
  unfold affectedOutcome at h
  dsimp only at h
  split at h
  · next h_none =>
    obtain rfl := pure_eq_ok.mp h
    exact AffectedRewritten.of_none h_none
  · simp only [bind_eq_ok, rewriteWhere_eq_ok, LedgerFields.construct_eq_ok,
      PlannerState.construct_eq_ok] at h
    obtain ⟨-, ⟨rfl, -⟩, -, ⟨rfl, -⟩, L', h_L', h_plan, rfl⟩ := h
    exact ⟨h_plan, (congrArg LedgerFields.blocks h_L' :), (congrArg LedgerFields.jobs h_L' :),
      Or.inr (congrArg LedgerFields.revision h_L' :)⟩

/-- **`_failed`** fails the affected blocks with their active jobs. -/
theorem observeFailed_ok (h : observeFailed s observedAt = .ok s') :
    AffectedRewritten (observedFailedBlock observedAt) (observedFailedJob observedAt)
      observedAt s s' :=
  affectedOutcome_ok h

/-- **`_uncertain`** quarantines the affected blocks with their active jobs. -/
theorem observeUncertain_ok (h : observeUncertain s observedAt = .ok s') :
    AffectedRewritten (fun b => { b with state := .uncertain })
      (fun j => { j with state := .uncertain }) observedAt s s' :=
  affectedOutcome_ok h

/-- A bulk outcome is a rewrite, when what it writes is past the early states. -/
theorem AffectedRewritten.rewrites {f : QueueBlock → QueueBlock} {g : QueueJob → QueueJob}
    {moves : List (JobState × JobState)} (h : AffectedRewritten f g observedAt s s')
    (hf : ∀ b, (f b).identity = b.identity ∧ (f b).state.early = false)
    (hg : ∀ j, j.state ∈ activeJobStates → JobMoved moves j (g j)) :
    Rewrites (JobMoved moves) s.ledger s'.ledger := by
  rcases h.revision with rfl | h_rev
  · exact Rewrites.refl _
  · refine .of_sweeps h.blocks h.jobs h_rev (fun b hb h_sel => ?_) fun j _ h_sel => ?_
    · exact BlockKept.of_open (hf b).1 (affected_open hb (of_decide_eq_true h_sel))
        fun _ => (hf b).2
    · exact hg j (of_decide_eq_true h_sel).2

/-- The moves of a failed report. -/
def failedMoves : List (JobState × JobState) :=
  [(.dispatching, .failed), (.accepted, .failed), (.running, .failed)]

theorem active_cases {state : JobState} (h : state ∈ activeJobStates) :
    (state, JobState.failed) ∈ failedMoves ∧ (state, JobState.uncertain) ∈ quarantineMoves := by
  revert h
  cases state <;> decide

theorem observeFailed_rewrites (h : observeFailed s observedAt = .ok s') :
    Rewrites (JobMoved failedMoves) s.ledger s'.ledger :=
  (observeFailed_ok h).rewrites (fun _ => ⟨rfl, rfl⟩) fun _ h_active =>
    ⟨(active_cases h_active).1, rfl, rfl, rfl⟩

theorem observeUncertain_rewrites (h : observeUncertain s observedAt = .ok s') :
    Rewrites (JobMoved quarantineMoves) s.ledger s'.ledger :=
  (observeUncertain_ok h).rewrites (fun _ => ⟨rfl, rfl⟩) fun _ h_active =>
    ⟨(active_cases h_active).2, rfl, rfl, rfl⟩

/-- The job moves of an observation. -/
def observationMoves : ObservationOutcome → List (JobState × JobState)
  | .running => runningMoves
  | .completed => movesTo .completed
  | .failed => failedMoves
  | .uncertain => quarantineMoves

theorem observationMoves_subset (outcome : ObservationOutcome) :
    observationMoves outcome ⊆ quietMoves := by
  cases outcome <;> decide

/-- **Observations** rewrite blocks and jobs in place, and never dispatch. -/
theorem observe_rewrites {outcome : ObservationOutcome} {revisionIds : ℕ → String}
    (h : observe outcome observedAt revisionIds s = .ok s') :
    Rewrites (JobMoved (observationMoves outcome)) s.ledger s'.ledger := by
  cases outcome with
  | running => exact (observeRunning_ok h).2.2.2
  | completed => exact completeRunningJobs_rewrites h
  | failed => exact observeFailed_rewrites h
  | uncertain => exact observeUncertain_rewrites h

end VacuumPlanner
