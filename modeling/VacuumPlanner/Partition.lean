import VacuumPlanner.Domain.QueueSpecs
import VacuumPlanner.Framework.Sorting

/-!
# Two ways to the jobs of a block

A job names its block and a block lists its jobs, and the source uses both: the constructor of
the ledger and `_jobs_for_block` look up `job_ids`, `replace_block_state` and
`complete_job_and_advance_plan` scan the jobs for a `block_id`. That they mean the same jobs is
what `_validate_ledger_references` is for, which never compares two blocks: it checks that ids
are distinct, that a block lists its own jobs in the order of their positions, and that no job
is left out. `Ownership` says why this is enough.

The checks of a block read its jobs as a set, or nearly so (`max` and `all` do not see an
order), so they decide alike on either list, and the two commands that scan could look up
instead (`scan_and_lookup_agree`).
-/

namespace VacuumPlanner

open Framework

variable {L : QueueLedger} {b : QueueBlock} {j : QueueJob} {jobs jobs' : List QueueJob}

/-! ### The commands, with a lookup in place of the scan -/

/-- `replace_block_state`, if it used `_jobs_for_block`. -/
def replaceBlockStateListed (ledger : QueueLedger) (blockId : String) (newState : BlockState)
    (changedAt : Instant) (adapterRunId : Option String) : Except PyError QueueLedger := do
  raiseIf (∃ runId ∈ adapterRunId, isBlank runId)
    (.valueError "adapter_run_id must not be empty")
  let current ← orRaise (ledger.blocks.find? (·.blockId = blockId)) (.keyError blockId)
  raiseIf (newState ∉ blockTransitions current.state)
    (.valueError ("invalid block transition: " ++ current.state.value ++ " -> " ++
      newState.value))
  let blockJobs := jobsForBlock ledger current
  validateTerminalBlockResult newState blockJobs
  raiseIf (newState.terminal = true ∧ ∃ job ∈ blockJobs, job.state.terminal = false)
    (.valueError "terminal block requires terminal jobs")
  let blocks ← rewriteWhere QueueBlock.postInit (·.blockId = blockId)
    (QueueLedger.changedBlock newState changedAt adapterRunId) ledger.blocks
  { ledger.toLedgerFields with revision := ledger.revision + 1, blocks }.construct

/-- The part of `complete_job_and_advance_plan` that closes the parent, likewise. -/
def closeCompletedBlockListed (completedLedger : QueueLedger) (parent : QueueBlock) :
    Except PyError QueueLedger := do
  let blockJobs := jobsForBlock completedLedger parent
  if blockJobs.all (·.state.terminal) then do
    let blockCompletedAt ← orRaise (blockJobs.filterMap (·.finishedAt)).max?
      (.valueError "max() arg is an empty sequence")
    let finalState :=
      if blockJobs.all (·.state = .completed) then BlockState.completed else .partial'
    let runningLedger ←
      if parent.state = .committed then
        replaceBlockStateListed completedLedger parent.blockId .running blockCompletedAt none
      else pure completedLedger
    replaceBlockStateListed runningLedger parent.blockId finalState blockCompletedAt none
  else pure completedLedger

/-- `complete_job_and_advance_plan`, likewise. -/
def completeJobAndAdvancePlanListed (ledger : QueueLedger) (currentPlan : PlanRevision)
    (jobId : String) (completedAt : Instant) (nextRevisionId : String) :
    Except PyError CompletionResult := do
  let job ← orRaise (ledger.jobs.find? (·.jobId = jobId)) (.keyError jobId)
  let parent ← orRaise (ledger.blocks.find? (·.blockId = job.blockId)) .stopIteration
  raiseIf (∃ room ∈ currentPlan.roomPlans.head?, room.laneId ≠ parent.laneId)
    (.valueError "plan lane does not match job lane")
  let completedLedger ← ledger.replaceJobState jobId .completed completedAt false none none none
  let closedLedger ← closeCompletedBlockListed completedLedger parent
  if currentPlan.roomPlans.any (·.areaId = job.areaId) then do
    let roomPlans ← rewriteWhere RoomPlan.postInit (·.areaId = job.areaId)
      (advanceRoom job completedAt) currentPlan.roomPlans
    raiseIf (roomPlans ≠ currentPlan.roomPlans ∧ nextRevisionId = currentPlan.revisionId)
      (.valueError "next revision ID must differ when room plan changes")
    let advancedPlan ← PlanRevisionFields.construct
      ⟨nextRevisionId, max currentPlan.createdAt completedAt, roomPlans⟩
    return ⟨closedLedger, advancedPlan⟩
  else return ⟨closedLedger, currentPlan⟩

/-! ### What the checks read -/

/-- The outcome of a block is checked on the set of states of its jobs. -/
theorem validateTerminalBlockResult_perm (h : jobs.Perm jobs') (state : BlockState) :
    validateTerminalBlockResult state jobs = validateTerminalBlockResult state jobs' := by
  have h_states : (jobs.map (·.state)).toFinset = (jobs'.map (·.state)).toFinset :=
    List.toFinset_eq_of_perm _ _ (h.map _)
  unfold validateTerminalBlockResult
  rw [h_states]

theorem validateBlockJobCompatibility_perm (h : jobs.Perm jobs') (block : QueueBlock) :
    validateBlockJobCompatibility block jobs = validateBlockJobCompatibility block jobs' := by
  unfold validateBlockJobCompatibility
  simp only [h.mem_iff]

theorem all_perm (h : jobs.Perm jobs') (p : QueueJob → Bool) : jobs.all p = jobs'.all p := by
  rw [Bool.eq_iff_iff, List.all_eq_true, List.all_eq_true]
  exact forall_congr' fun k => by rw [h.mem_iff]

theorem latestFinish_perm (h : jobs.Perm jobs') :
    (jobs.filterMap (·.finishedAt)).max? = (jobs'.filterMap (·.finishedAt)).max? := by
  have h_finishes := h.filterMap (·.finishedAt)
  ext latest
  rw [List.max?_eq_some_iff, List.max?_eq_some_iff, h_finishes.mem_iff]
  exact and_congr_right fun _ => forall_congr' fun t => by rw [h_finishes.mem_iff]

/-! ### The jobs of one block -/

/-- **A scan finds the listed jobs.** -/
theorem QueueLedger.scan_perm_listed (hb : b ∈ L.blocks) :
    (jobsOf L.jobs b).Perm (jobsForBlock L b) :=
  L.valid.ownership.byOwner_perm_byKeys hb

/-- The job listed at an index has the index as its position. -/
theorem QueueLedger.position_listed (hb : b ∈ L.blocks) {i : ℕ}
    (h : (jobsForBlock L b)[i]? = some j) : j.position = i := by
  have h_listed : (listedJobs L.jobs b)[i]? = some j := h
  obtain ⟨h_lt, -⟩ := List.getElem?_eq_some_iff.mp h_listed
  have h_positions := congrArg (·[i]?) (L.valid.owns b hb).positions
  rw [List.getElem?_map, List.getElem?_map, List.getElem?_range h_lt, h_listed] at h_positions
  exact Option.some.inj h_positions

/-- The listed jobs are in the order of their positions. -/
theorem QueueLedger.listed_sorted (hb : b ∈ L.blocks) :
    (jobsForBlock L b).Pairwise fun j k => j.position < k.position := by
  rw [List.pairwise_iff_getElem]
  intro i k h_i h_k h_lt
  rw [L.position_listed hb (List.getElem?_eq_getElem h_i),
    L.position_listed hb (List.getElem?_eq_getElem h_k)]
  exact Int.ofNat_lt.mpr h_lt

/-- Everything about the two ways to the jobs of a block: the jobs they find, and what is
decided on them. -/
structure FoundAlike (L : QueueLedger) (b : QueueBlock) : Prop where
  perm : (jobsOf L.jobs b).Perm (jobsForBlock L b)
  once : (jobsForBlock L b).Nodup
  /-- No listed id is missed. -/
  ids : (jobsForBlock L b).map (·.jobId) = b.jobIds
  positions : ∀ (i : ℕ) (id : String), b.jobIds[i]? = some id →
    ∃ j ∈ L.jobs, j.jobId = id ∧ j.position = i
  /-- The lookup sorts the scan. -/
  order : jobsForBlock L b = sortBy (·.position) (jobsOf L.jobs b)
  result : ∀ state, validateTerminalBlockResult state (jobsOf L.jobs b) =
    validateTerminalBlockResult state (jobsForBlock L b)
  ended : (∃ j ∈ jobsOf L.jobs b, j.state.terminal = false) ↔
    ∃ j ∈ jobsForBlock L b, j.state.terminal = false
  compatible : ∀ b' : QueueBlock, validateBlockJobCompatibility b' (jobsOf L.jobs b) =
    validateBlockJobCompatibility b' (jobsForBlock L b)

theorem QueueLedger.foundAlike (hb : b ∈ L.blocks) : FoundAlike L b where
  perm := L.scan_perm_listed hb
  once := L.valid.ownership.nodup_byKeys hb
  ids := map_jobId_jobsForBlock hb
  positions i id h_id := by
    rw [← map_jobId_jobsForBlock hb, List.getElem?_map] at h_id
    obtain ⟨j, h_j, rfl⟩ := Option.map_eq_some_iff.mp h_id
    have h_mem := (L.scan_perm_listed hb).mem_iff.mpr (List.mem_of_getElem? h_j)
    exact ⟨j, (mem_jobsOf.mp h_mem).1, rfl, L.position_listed hb h_j⟩
  order := (sortBy_eq (L.listed_sorted hb) (L.scan_perm_listed hb)).symm
  result := validateTerminalBlockResult_perm (L.scan_perm_listed hb)
  ended := exists_congr fun j => by rw [(L.scan_perm_listed hb).mem_iff]
  compatible := validateBlockJobCompatibility_perm (L.scan_perm_listed hb)

/-! ### The commands that scan -/

theorem QueueLedger.replaceBlockState_eq_listed (L : QueueLedger) (blockId : String)
    (newState : BlockState) (changedAt : Instant) (adapterRunId : Option String) :
    L.replaceBlockState blockId newState changedAt adapterRunId =
      replaceBlockStateListed L blockId newState changedAt adapterRunId := by
  unfold replaceBlockState replaceBlockStateListed
  refine bind_congr fun _ => bind_congr_ok fun current h_current => ?_
  obtain ⟨h_mem, rfl⟩ := L.find_block.mp (orRaise_eq_ok.mp h_current)
  have h_alike := L.foundAlike h_mem
  have h_scan : L.jobs.filter (fun j => decide (j.blockId = current.blockId)) =
      jobsOf L.jobs current := rfl
  dsimp only
  simp only [h_scan, h_alike.result, h_alike.ended]

/-- Closing the parent decides on the scan what it would decide on the list. -/
theorem closeCompletedBlock_eq_listed (hb : b ∈ L.blocks) :
    closeCompletedBlock L b = closeCompletedBlockListed L b := by
  have h_perm := L.scan_perm_listed hb
  have h_scan : L.jobs.filter (fun j => decide (j.blockId = b.blockId)) = jobsOf L.jobs b := rfl
  unfold closeCompletedBlock closeCompletedBlockListed
  dsimp only
  rw [h_scan, all_perm h_perm, all_perm h_perm, latestFinish_perm h_perm]
  simp only [QueueLedger.replaceBlockState_eq_listed]

theorem completeJobAndAdvancePlan_eq_listed (L : QueueLedger) (plan : PlanRevision)
    (jobId : String) (completedAt : Instant) (nextRevisionId : String) :
    completeJobAndAdvancePlan L plan jobId completedAt nextRevisionId =
      completeJobAndAdvancePlanListed L plan jobId completedAt nextRevisionId := by
  unfold completeJobAndAdvancePlan completeJobAndAdvancePlanListed
  refine bind_congr fun job => bind_congr_ok fun parent h_parent => ?_
  refine bind_congr fun _ => bind_congr_ok fun C h_C => ?_
  -- the transition of the job leaves the blocks, so the parent is one of the new ledger
  obtain ⟨h_mem, -⟩ := L.find_block.mp (orRaise_eq_ok.mp h_parent)
  obtain ⟨-, -, -, -, -, -, -, -, -, -, -, -, h_fields⟩ :=
    QueueLedger.replaceJobState_eq_ok.mp h_C
  have h_blocks : C.blocks = L.blocks := (congrArg LedgerFields.blocks h_fields :)
  rw [closeCompletedBlock_eq_listed (h_blocks ▸ h_mem)]

/-- **The two ways to the jobs of a block agree** in every ledger, the blocks partition the
jobs, and the commands that scan do what they would do if they looked up. -/
theorem scan_and_lookup_agree (L : QueueLedger) :
    (∀ b ∈ L.blocks, FoundAlike L b) ∧
    (∀ j ∈ L.jobs, ∃! b, b ∈ L.blocks ∧ j.jobId ∈ b.jobIds) ∧
    (L.blocks.flatMap (·.jobIds)).Perm (L.jobs.map (·.jobId)) ∧
    (∀ blockId newState changedAt adapterRunId,
      L.replaceBlockState blockId newState changedAt adapterRunId =
        replaceBlockStateListed L blockId newState changedAt adapterRunId) ∧
    (∀ plan jobId completedAt nextRevisionId,
      completeJobAndAdvancePlan L plan jobId completedAt nextRevisionId =
        completeJobAndAdvancePlanListed L plan jobId completedAt nextRevisionId) := by
  refine ⟨fun b hb => L.foundAlike hb, fun j hj => ?_, ?_, ?_, ?_⟩
  · exact L.valid.ownership.existsUnique_owner hj
  · exact L.valid.ownership.partition
  · exact L.replaceBlockState_eq_listed
  · exact completeJobAndAdvancePlan_eq_listed L

end VacuumPlanner
