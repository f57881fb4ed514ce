import VacuumPlanner.Commands
import VacuumPlanner.Framework.Supply

/-!
# Starting is all or nothing, and idempotent

`start_due_block` either seals one block with a job for every job of the snapshot, or leaves
the ledger as it is. `startDueBlockDrawing` is the same function with the calls of its
`id_factory` counted: it returns what `startDueBlock` returns (`startDueBlockDrawing_result`)
and draws no identity unless every guard before the allocation has passed
(`startDueBlockDrawing_draws`).

A second call finds the block by its lane and key. It is the first open block that has them,
in every ledger commands can make of the first one: the blocks before it in its lane were
terminal when it was sealed and are frozen, and the later ones come after it
(`find_sealed`).
-/

namespace VacuumPlanner

open Framework

/-! ### Counting the identities -/

/-- `start_due_block`, with the calls of `id_factory` counted. -/
def startDueBlockDrawing (ledger : QueueLedger) (snapshot : PlanSnapshot) (laneId : String)
    (idempotencyKey : String) (now : Instant) (idFactory : ℕ → String)
    (dispatchStrategy : DispatchStrategy) (guarantee : BlockGuarantee)
    (atomicDeviceCommit : Bool) (expectedRevision : Option ℤ) : Draws PyError StartResult :=
  let existing := ledger.blocks.find? fun block =>
    block.laneId = laneId ∧ block.idempotencyKey = idempotencyKey ∧
      block.state.terminal = false
  match existing with
  | some block => return ⟨.existing, ledger, some block, jobsForBlock ledger block⟩
  | none => do
    .lift (raiseIf (snapshot.laneId ≠ laneId)
      (.valueError "snapshot lane does not match requested lane"))
    .lift (raiseIf (guarantee = .robotAtomic ∧ dispatchStrategy ≠ .deviceQueue)
      (.valueError "robot_atomic requires device_queue"))
    .lift (raiseIf (guarantee = .robotAtomic ∧ atomicDeviceCommit = false)
      (.valueError "robot_atomic requires atomic device commit proof"))
    .lift (checkExpectedRevision ledger expectedRevision)
    .lift (raiseIf (∃ block ∈ ledger.blocks, block.laneId = laneId ∧ block.state.terminal = false)
      (.laneAlreadyOpenError "lane already has an open block"))
    if snapshot.jobs = [] then return ⟨.noWork, ledger, none, []⟩
    let blockId ← Draws.draw idFactory
    let jobIds ← snapshot.jobs.mapM fun _ => Draws.draw idFactory
    let allocated := blockId :: jobIds
    let existingIds := ledger.blocks.map (·.blockId) ++ ledger.jobs.map (·.jobId)
    .lift (raiseIf (¬ allocated.Nodup ∨ ∃ id ∈ allocated, id ∈ existingIds)
      (.duplicateIdentityError "generated queue identities must be globally unique"))
    let jobs := (jobIds.zip snapshot.jobs).zipIdx.map fun entry =>
      sealedJob blockId now entry.1.1 entry.2 entry.1.2
    .lift (checkAll QueueJob.postInit jobs)
    let block : QueueBlock :=
      { blockId, kind := .scheduled, laneId, planRevision := snapshot.planRevision,
        idempotencyKey, createdAt := now, sealedAt := some now, state := .sealed, jobIds,
        dispatchStrategy, guarantee, committedAt := none, completedAt := none,
        adapterRunId := none }
    .lift block.postInit
    let updated ← .lift (LedgerFields.construct
      { ledger.toLedgerFields with
        revision := ledger.revision + 1,
        blocks := ledger.blocks ++ [block],
        jobs := ledger.jobs ++ jobs })
    return ⟨.created, updated, some block, jobs⟩

variable {L L' : QueueLedger} {snapshot : PlanSnapshot} {laneId key : String} {now : Instant}
  {idFactory : ℕ → String} {strategy : DispatchStrategy} {guarantee : BlockGuarantee}
  {atomic : Bool} {expected : Option ℤ} {result : StartResult} {block : QueueBlock}

/-- The guards that come before the allocation have all passed, and there is work. -/
def Allocates (L : QueueLedger) (snapshot : PlanSnapshot) (laneId : String)
    (strategy : DispatchStrategy) (guarantee : BlockGuarantee) (atomic : Bool)
    (expected : Option ℤ) : Prop :=
  snapshot.laneId = laneId ∧
    (guarantee = .robotAtomic → strategy = .deviceQueue ∧ atomic = true) ∧
    (∀ revision ∈ expected, L.revision = revision) ∧
    (∀ b ∈ L.blocks, b.laneId = laneId → b.state.terminal = true) ∧ snapshot.jobs ≠ []

/-- The jobs are numbered while they are paired with their identities. -/
theorem sealedJobs_eq_zip (snapshot : PlanSnapshot) (now : Instant) (idFactory : ℕ → String) :
    (((List.range' 1 snapshot.jobs.length).map idFactory).zip snapshot.jobs).zipIdx.map
        (fun entry => sealedJob (idFactory 0) now entry.1.1 entry.2 entry.1.2) =
      sealedJobs snapshot now idFactory := by
  -- the pairing gives job `i` the identity after `i`, since the first is the block's
  have h_pair (i : ℕ) : (((List.range' 1 snapshot.jobs.length).map idFactory).zip
      snapshot.jobs)[i]? = snapshot.jobs[i]?.map fun job => (idFactory (i + 1), job) := by
    rw [List.zip, List.getElem?_zipWith, List.getElem?_map]
    rcases lt_or_ge i snapshot.jobs.length with h_lt | h_ge
    · rw [List.getElem?_range' h_lt, List.getElem?_eq_getElem h_lt, Option.map_some,
        Option.map_some, Nat.one_mul, Nat.add_comm]
    · rw [List.getElem?_eq_none h_ge, List.getElem?_eq_none (by simpa using h_ge)]
      rfl
  unfold sealedJobs
  refine List.ext_getElem? fun i => ?_
  rw [List.getElem?_map, List.getElem?_map, List.getElem?_zipIdx, List.getElem?_zipIdx, h_pair]
  cases snapshot.jobs[i]? with
  | none => rfl
  | some job =>
    rw [Option.map_some, Option.map_some, Option.map_some, Option.map_some, Option.map_some,
      Nat.zero_add]

/-- The sealed block, with its identities in the order they were drawn in. -/
theorem sealedBlock_eq (snapshot : PlanSnapshot) (laneId key : String) (now : Instant)
    (idFactory : ℕ → String) (strategy : DispatchStrategy) (guarantee : BlockGuarantee) :
    sealedBlock snapshot laneId key now idFactory strategy guarantee =
      { sealedBlock snapshot laneId key now idFactory strategy guarantee with
        jobIds := (List.range' 1 snapshot.jobs.length).map idFactory } := by
  have h_ids : (sealedBlock snapshot laneId key now idFactory strategy guarantee).jobIds =
      (List.range' 1 snapshot.jobs.length).map idFactory := by
    unfold sealedBlock
    rw [List.range'_eq_map_range, List.map_map]
    refine List.map_congr_left fun i _ => ?_
    rw [Function.comp_apply, Nat.add_comm]
  rw [← h_ids]

/-- **The count changes nothing**: the function returns and raises as without it. -/
theorem startDueBlockDrawing_result :
    ((startDueBlockDrawing L snapshot laneId key now idFactory strategy guarantee atomic
      expected).runFrom 0).1 =
      startDueBlock L snapshot laneId key now idFactory strategy guarantee atomic expected := by
  unfold startDueBlockDrawing startDueBlock
  dsimp only
  generalize List.find? _ L.blocks = existing
  cases existing with
  | some block => rfl
  | none =>
    dsimp only
    -- guard by guard
    rw [Draws.fst_runFrom_lift]
    refine bind_congr fun _ => ?_
    rw [Draws.fst_runFrom_lift]
    refine bind_congr fun _ => ?_
    rw [Draws.fst_runFrom_lift]
    refine bind_congr fun _ => ?_
    rw [Draws.fst_runFrom_lift]
    refine bind_congr fun _ => ?_
    rw [Draws.fst_runFrom_lift]
    refine bind_congr fun _ => ?_
    split
    · rfl
    -- the ids of the block and of its jobs are drawn in this order
    · rw [Draws.runFrom_draw, Draws.runFrom_bind_ok (Draws.runFrom_mapM_draw ..),
        sealedBlock_eq, sealedJobs_eq_zip, Draws.fst_runFrom_lift]
      refine bind_congr fun _ => ?_
      rw [Draws.fst_runFrom_lift]
      refine bind_congr fun _ => ?_
      rw [Draws.fst_runFrom_lift]
      refine bind_congr fun _ => ?_
      rw [Draws.fst_runFrom_lift]
      rfl

/-- **No identity is drawn** unless the guards have passed and there is work. -/
theorem startDueBlockDrawing_draws :
    ((startDueBlockDrawing L snapshot laneId key now idFactory strategy guarantee atomic
      expected).runFrom 0).2 = 0 ∨
    Allocates L snapshot laneId strategy guarantee atomic expected := by
  unfold startDueBlockDrawing
  dsimp only
  split
  · exact Or.inl rfl
  · -- each guard is lifted without a draw, so what follows it may assume it
    refine Draws.draws_lift fun _ h_lane => ?_
    refine Draws.draws_lift fun _ h_queue => ?_
    refine Draws.draws_lift fun _ h_atomic => ?_
    refine Draws.draws_lift fun _ h_expected => ?_
    refine Draws.draws_lift fun _ h_free => ?_
    split
    · exact Or.inl rfl
    · next h_jobs =>
      rw [raiseIf_eq_ok] at h_lane h_queue h_atomic h_free
      refine Or.inr ⟨not_not.mp h_lane, fun h_robot => ⟨?_, ?_⟩, ?_, fun b hb h_b => ?_, h_jobs⟩
      -- a guard that has passed is read back
      · by_contra h_other
        exact h_queue ⟨h_robot, h_other⟩
      · exact Bool.eq_true_of_not_eq_false fun h_none => h_atomic ⟨h_robot, h_none⟩
      · rintro revision rfl
        exact not_not.mp (raiseIf_eq_ok.mp h_expected)
      · exact Bool.eq_true_of_not_eq_false fun h_open => h_free ⟨b, hb, h_b, h_open⟩

/-! ### What was sealed -/

/-- The ledger gained one sealed block at its end, with a new pending job for every job of
the snapshot, in order, and nothing else changed but the revision. -/
structure SealsSnapshot (L L' : QueueLedger) (snapshot : PlanSnapshot) (block : QueueBlock)
    (jobs : List QueueJob) : Prop where
  ledger : L'.toLedgerFields = { L.toLedgerFields with
    revision := L.revision + 1, blocks := L.blocks ++ [block], jobs := L.jobs ++ jobs }
  state : block.state = .sealed
  listed : block.jobIds = jobs.map (·.jobId)
  distinct : (block.blockId :: block.jobIds).Nodup
  unused : ∀ id ∈ block.blockId :: block.jobIds,
    id ∉ L.blocks.map (·.blockId) ∧ id ∉ L.jobs.map (·.jobId)
  count : jobs.length = snapshot.jobs.length
  jobs : ∀ (i : ℕ) (entry : SnapshotJob), snapshot.jobs[i]? = some entry →
    ∃ job, jobs[i]? = some job ∧ job.blockId = block.blockId ∧ job.areaId = entry.areaId ∧
      job.areaNameSnapshot = entry.areaNameSnapshot ∧
      job.adapterTargetSnapshot = entry.adapterTargetSnapshot ∧ job.mode = entry.mode ∧
      job.position = i ∧ job.state = .pending ∧ job.attempt = 0

theorem sealedJobs_getElem? (snapshot : PlanSnapshot) (now : Instant) (idFactory : ℕ → String)
    {i : ℕ} {entry : SnapshotJob} (h : snapshot.jobs[i]? = some entry) :
    (sealedJobs snapshot now idFactory)[i]? =
      some (sealedJob (idFactory 0) now (idFactory (i + 1)) i entry) := by
  unfold sealedJobs
  rw [List.getElem?_map, List.getElem?_zipIdx, h, Option.map_some, Option.map_some, Nat.zero_add]

/-- **A created block** is the snapshot's, under new identities. -/
theorem startDueBlock_created
    (h : startDueBlock L snapshot laneId key now idFactory strategy guarantee atomic expected =
      .ok result) (h_created : result.status = .created) :
    ∃ block, result.block = some block ∧ block.laneId = laneId ∧ block.idempotencyKey = key ∧
      SealsSnapshot L result.ledger snapshot block result.jobs ∧ snapshot.jobs ≠ [] ∧
      ∀ b ∈ L.blocks, b.laneId = laneId → b.state.terminal = true := by
  unfold startDueBlock at h
  dsimp only at h
  split at h
  · obtain rfl := Except.ok.inj h
    exact nomatch h_created
  · simp only [seq_eq_ok, raiseIf_eq_ok] at h
    obtain ⟨-, -, -, -, h_free, h⟩ := h
    split at h
    · obtain rfl := pure_eq_ok.mp h
      exact nomatch h_created
    · next h_jobs =>
      simp only [seq_eq_ok, raiseIf_eq_ok] at h
      obtain ⟨h_ids, -, -, h⟩ := h
      obtain ⟨updated, h_updated, h⟩ := bind_eq_ok.mp h
      obtain rfl := pure_eq_ok.mp h
      -- the guard refused repeated identities and those of the ledger
      rw [not_or, not_not] at h_ids
      refine ⟨_, rfl, rfl, rfl, ?_, h_jobs, fun b hb h_lane => ?_⟩
      · refine
          { ledger := LedgerFields.construct_eq_ok.mp h_updated
            state := rfl
            listed := sealedBlock_jobIds ..
            distinct := h_ids.1
            unused := fun id h_id => ?_
            count := by simp [sealedJobs]
            jobs := fun i entry h_entry =>
              ⟨_, sealedJobs_getElem? snapshot now idFactory h_entry, rfl, rfl, rfl, rfl, rfl, rfl,
                rfl, rfl⟩ }
        have h_new : id ∉ L.blocks.map (·.blockId) ++ L.jobs.map (·.jobId) :=
          fun h_used => h_ids.2 ⟨id, h_id, h_used⟩
        rw [List.mem_append, not_or] at h_new
        exact h_new
      · -- the guard of the lane found no open block in it
        by_contra h_open
        exact h_free ⟨b, hb, h_lane, Bool.eq_false_of_not_eq_true h_open⟩

/-! ### The block in later ledgers -/

/-- A command keeps the old blocks at their positions. -/
theorem QueueCommand.blocksKept {c : QueueCommand} (h : c.run L = .ok L') :
    Extends BlockKept L.blocks L'.blocks := by
  rcases QueueCommand.run_cases h with h_step | ⟨block, children, h_step⟩
  · exact h_step.blocks
  · rw [h_step.blocks]
    exact Extends.append (fun b _ => BlockKept.refl b) [block]

/-- So do commands. -/
theorem blocksKept_perform (L : QueueLedger) (commands : List QueueCommand) :
    Extends BlockKept L.blocks (perform QueueCommand.run L commands).blocks := by
  refine perform_invariant (I := fun L' : QueueLedger => Extends BlockKept L.blocks L'.blocks)
    (fun L₁ c L₂ h h_run => ?_) (Extends.refl fun b _ => BlockKept.refl b)
  exact h.trans (QueueCommand.blocksKept h_run) fun _ _ _ _ _ _ => BlockKept.trans

/-- While the block is open, a lookup by its lane and key finds it: the blocks before it in
its lane were terminal when it was sealed, and are frozen. -/
theorem find_sealed {L₁ : QueueLedger} (h_blocks : L₁.blocks = L.blocks ++ [block])
    (h_free : ∀ b ∈ L.blocks, b.laneId = block.laneId → b.state.terminal = true)
    (h_kept : Extends BlockKept L₁.blocks L'.blocks) {block' : QueueBlock}
    (h_mem : block' ∈ L'.blocks) (h_id : block'.blockId = block.blockId)
    (h_open : block'.state.terminal = false) :
    block'.identity = block.identity ∧
      L'.blocks.find? (fun b => decide (b.laneId = block.laneId ∧
        b.idempotencyKey = block.idempotencyKey ∧ b.state.terminal = false)) = some block' := by
  have h_at : L₁.blocks[L.blocks.length]? = some block := by
    rw [h_blocks, List.getElem?_append_right le_rfl, Nat.sub_self]
    rfl
  -- blocks are kept at their places, so the new one is where it was put
  obtain ⟨b', h_b', h_same⟩ := h_kept.exists_getElem? h_at
  obtain rfl : b' = block' := L'.block_eq (List.mem_of_getElem? h_b') h_mem
    ((blockId_of_identity h_same.identity).trans h_id.symm)
  refine ⟨h_same.identity, ?_⟩
  obtain ⟨h_lt, h_get⟩ := List.getElem?_eq_some_iff.mp h_b'
  rw [List.find?_eq_some_iff_getElem]
  refine ⟨?_, L.blocks.length, h_lt, h_get, fun j h_j => ?_⟩
  · rw [decide_eq_true_iff]
    exact ⟨laneId_of_identity h_same.identity,
      congrArg BlockIdentity.idempotencyKey h_same.identity, h_open⟩
  · -- an earlier block of the lane is terminal
    have h_at_j : L'.blocks[j]? = some L'.blocks[j] := List.getElem?_eq_getElem (h_j.trans h_lt)
    have h_j₁ : j < L₁.blocks.length := by
      rw [h_blocks, List.length_append]
      exact Nat.lt_add_right _ h_j
    obtain ⟨x, h_x, h_x_kept⟩ := h_kept.getElem?_of_lt h_j₁ h_at_j
    have h_x_mem : x ∈ L.blocks := by
      rw [h_blocks, List.getElem?_append_left h_j] at h_x
      exact List.mem_of_getElem? h_x
    rw [Bool.not_eq_true', decide_eq_false_iff_not]
    rintro ⟨h_lane, -, h_j_open⟩
    have h_terminal := h_free x h_x_mem
      ((laneId_of_identity h_x_kept.identity).symm.trans h_lane)
    rw [h_x_kept.frozen h_terminal, h_terminal] at h_j_open
    exact nomatch h_j_open

/-- Whatever commands follow, the same lane and key return the block with its jobs while it
is open, whatever else the call brings, and draw no identity. -/
def FoundWhileOpen (L : QueueLedger) (block : QueueBlock) : Prop :=
  ∀ (commands : List QueueCommand) (L' : QueueLedger),
    perform QueueCommand.run L commands = L' →
    ∀ block' ∈ L'.blocks, block'.blockId = block.blockId → block'.state.terminal = false →
    ∀ (snapshot : PlanSnapshot) (now : Instant) (idFactory : ℕ → String)
      (strategy : DispatchStrategy) (guarantee : BlockGuarantee) (atomic : Bool)
      (expected : Option ℤ), ∃ jobs,
      (startDueBlockDrawing L' snapshot block.laneId block.idempotencyKey now idFactory strategy
        guarantee atomic expected).runFrom 0 = (.ok ⟨.existing, L', some block', jobs⟩, 0) ∧
      jobs.map (·.jobId) = block.jobIds ∧ ∀ j ∈ jobs, j ∈ L'.jobs

theorem SealsSnapshot.foundWhileOpen {jobs : List QueueJob}
    (h : SealsSnapshot L L' snapshot block jobs)
    (h_free : ∀ b ∈ L.blocks, b.laneId = block.laneId → b.state.terminal = true) :
    FoundWhileOpen L' block := by
  rintro commands L₂ rfl block' h_mem h_id h_open snapshot now idFactory strategy guarantee
    atomic expected
  have h_blocks : L'.blocks = L.blocks ++ [block] := congrArg LedgerFields.blocks h.ledger
  obtain ⟨h_same, h_find⟩ := find_sealed h_blocks h_free (blocksKept_perform L' commands) h_mem
    h_id h_open
  refine ⟨jobsForBlock (perform QueueCommand.run L' commands) block', ?_, ?_, fun j hj => ?_⟩
  · unfold startDueBlockDrawing
    dsimp only
    rw [h_find]
    rfl
  · rw [map_jobId_jobsForBlock h_mem, jobIds_of_identity h_same]
  · obtain ⟨id, -, h_j⟩ := List.mem_filterMap.mp hj
    exact (key_of_find? h_j).1

/-- **Starting is all or nothing, and idempotent.** A block is created with exactly the jobs
of the snapshot, and found again while it is open; or the ledger stays as it is. No identity
is drawn for another lane, a stale revision, an open lane or an empty snapshot. -/
theorem start_all_or_nothing (L : QueueLedger) (snapshot : PlanSnapshot) (laneId key : String)
    (now : Instant) (idFactory : ℕ → String) (strategy : DispatchStrategy)
    (guarantee : BlockGuarantee) (atomic : Bool) (expected : Option ℤ) :
    let run := (startDueBlockDrawing L snapshot laneId key now idFactory strategy guarantee
      atomic expected).runFrom 0
    (∀ result, run.1 = .ok result → result.status = .created →
      ∃ block, result.block = some block ∧ block.laneId = laneId ∧
        block.idempotencyKey = key ∧ SealsSnapshot L result.ledger snapshot block result.jobs ∧
        FoundWhileOpen result.ledger block) ∧
    (∀ result, run.1 = .ok result → result.status ≠ .created →
      result.ledger = L ∧ run.2 = 0) ∧
    (∀ e, run.1 = .error e → attempt (LedgerCommand.startDueBlock snapshot laneId key now
      idFactory strategy guarantee atomic expected).run L = L) ∧
    (snapshot.laneId ≠ laneId ∨ (∃ revision ∈ expected, L.revision ≠ revision) ∨
      (∃ b ∈ L.blocks, b.laneId = laneId ∧ b.state.terminal = false) ∨ snapshot.jobs = [] →
      run.2 = 0) := by
  intro run
  have h_result : run.1 = startDueBlock L snapshot laneId key now idFactory strategy guarantee
      atomic expected := startDueBlockDrawing_result
  -- the identities are drawn last, when every check has passed
  have h_draws : snapshot.laneId ≠ laneId ∨ (∃ revision ∈ expected, L.revision ≠ revision) ∨
      (∃ b ∈ L.blocks, b.laneId = laneId ∧ b.state.terminal = false) ∨ snapshot.jobs = [] →
      run.2 = 0 := by
    intro h_stopped
    refine startDueBlockDrawing_draws.resolve_right ?_
    rintro ⟨h_lane, -, h_expected, h_free, h_jobs⟩
    rcases h_stopped with h_other | ⟨revision, h_revision, h_stale⟩ | ⟨b, hb, h_b, h_open⟩ | h_none
    · exact h_other h_lane
    · exact h_stale (h_expected revision h_revision)
    · rw [h_free b hb h_b] at h_open
      exact nomatch h_open
    · exact h_jobs h_none
  rw [h_result]
  refine ⟨fun result h h_created => ?_, fun result h h_other => ?_, fun e h => ?_, h_draws⟩
  · -- a created block, and the lane was free before it
    obtain ⟨block, h_block, rfl, rfl, h_seals, -, h_free⟩ := startDueBlock_created h h_created
    exact ⟨block, h_block, rfl, rfl, h_seals, h_seals.foundWhileOpen h_free⟩
  · -- the other two results leave the ledger, and neither draws
    rcases startDueBlock_ok h with ⟨b, hb, h_b, h_open, rfl⟩ | ⟨h_jobs, rfl⟩ |
      ⟨b, jobs, -, -, -, -, h_eq⟩
    · exact ⟨rfl, h_draws (Or.inr (Or.inr (Or.inl ⟨b, hb, h_b, h_open⟩)))⟩
    · exact ⟨rfl, h_draws (Or.inr (Or.inr (Or.inr h_jobs)))⟩
    · rw [h_eq] at h_other
      exact absurd rfl h_other
  · -- an error leaves the ledger as it was
    unfold attempt LedgerCommand.run
    dsimp only
    rw [h]
    rfl

/-- A start of the kitchen, and another with its key once the block is claimed: the second finds
the block and draws nothing. -/
example :
    let start ids L := (startDueBlockDrawing L kitchenSnapshot "robot" "key" 0 ids .nativeBatch
      .plannerAtomic false none).runFrom 0
    ∃ created found, start kitchenIds .empty = (.ok created, 2) ∧ created.status = .created ∧
      start (fun _ => "unused") (perform QueueCommand.run created.ledger
        [.ledger (.beginNativeBatchCommit "block" 1)]) = (.ok found, 0) ∧
      found.status = .existing ∧ found.jobs.map (·.jobId) = ["job"] :=
  ⟨_, _, rfl, rfl, rfl, rfl, rfl⟩

end VacuumPlanner
