import VacuumPlanner.Domain.Ledger
import VacuumPlanner.Framework.Ownership

/-!
# What the ledger checks amount to

`LedgerFields.Valid` lists what `QueueLedger.__post_init__` accepts, one field per
check, and `postInit_eq_ok` says it is exactly that. The reader who wants a fact about
a ledger takes it from `QueueLedger.valid` or from one of the corollaries below it; the
order in which the source runs its checks plays no further part.

The checks fall into two groups. Those of the ownership graph read only what no command
changes about a record: its identity (`QueueBlock.identity`, `QueueJob.identity`). Those
of the lifecycle relate the state of a block to the states of its jobs
(`BlockAgrees`). A command that rewrites records in place keeps the graph, so whether
its result is accepted depends on the lifecycle checks alone (`Valid.rewrite`).
-/

namespace VacuumPlanner

open Framework

/-! ### Identities -/

/-- What a block is, as opposed to how far it has come. -/
structure BlockIdentity where
  blockId : String
  kind : BlockKind
  laneId : String
  planRevision : String
  idempotencyKey : String
  createdAt : Instant
  sealedAt : Option Instant
  jobIds : List String
  dispatchStrategy : DispatchStrategy
  guarantee : BlockGuarantee
  deriving DecidableEq

def QueueBlock.identity (block : QueueBlock) : BlockIdentity where
  blockId := block.blockId
  kind := block.kind
  laneId := block.laneId
  planRevision := block.planRevision
  idempotencyKey := block.idempotencyKey
  createdAt := block.createdAt
  sealedAt := block.sealedAt
  jobIds := block.jobIds
  dispatchStrategy := block.dispatchStrategy
  guarantee := block.guarantee

/-- What a job is, as opposed to how far it has come. -/
structure JobIdentity where
  jobId : String
  blockId : String
  areaId : String
  areaNameSnapshot : String
  adapterTargetSnapshot : JsonValue
  mode : Mode
  position : ℤ
  plannedAt : Instant
  deriving DecidableEq

def QueueJob.identity (job : QueueJob) : JobIdentity where
  jobId := job.jobId
  blockId := job.blockId
  areaId := job.areaId
  areaNameSnapshot := job.areaNameSnapshot
  adapterTargetSnapshot := job.adapterTargetSnapshot
  mode := job.mode
  position := job.position
  plannedAt := job.plannedAt

section Identity

variable {b b' : QueueBlock} {j j' : QueueJob}

theorem blockId_of_identity (h : b'.identity = b.identity) : b'.blockId = b.blockId :=
  congrArg BlockIdentity.blockId h

theorem laneId_of_identity (h : b'.identity = b.identity) : b'.laneId = b.laneId :=
  congrArg BlockIdentity.laneId h

theorem createdAt_of_identity (h : b'.identity = b.identity) : b'.createdAt = b.createdAt :=
  congrArg BlockIdentity.createdAt h

theorem jobIds_of_identity (h : b'.identity = b.identity) : b'.jobIds = b.jobIds :=
  congrArg BlockIdentity.jobIds h

theorem strategy_of_identity (h : b'.identity = b.identity) :
    b'.dispatchStrategy = b.dispatchStrategy :=
  congrArg BlockIdentity.dispatchStrategy h

theorem jobId_of_identity (h : j'.identity = j.identity) : j'.jobId = j.jobId :=
  congrArg JobIdentity.jobId h

theorem parent_of_identity (h : j'.identity = j.identity) : j'.blockId = j.blockId :=
  congrArg JobIdentity.blockId h

theorem position_of_identity (h : j'.identity = j.identity) : j'.position = j.position :=
  congrArg JobIdentity.position h

theorem QueueBlock.identity_updateIf {p : QueueBlock → Bool} {f : QueueBlock → QueueBlock}
    (hf : ∀ b, (f b).identity = b.identity) (b : QueueBlock) :
    (updateIf p f b).identity = b.identity :=
  key_updateIf hf b

theorem QueueJob.identity_updateIf {p : QueueJob → Bool} {g : QueueJob → QueueJob}
    (hg : ∀ j, (g j).identity = j.identity) (j : QueueJob) :
    (updateIf p g j).identity = j.identity :=
  key_updateIf hg j

end Identity

/-! ### The checks of one record

The text and ownership checks of a record read its identity. What is left once the
identity is known to be good is its lifecycle. -/

/-- The lifecycle checks of `QueueBlock.__post_init__`. -/
structure BlockLifecycle (block : QueueBlock) : Prop where
  chronological : Chronological
    [some block.createdAt, block.sealedAt, block.committedAt, block.completedAt]
  isSealed : block.state ∉ [BlockState.draft, .validating] → block.sealedAt ≠ none
  committed : block.state ∈ [BlockState.committed, .running, .completed] →
    block.committedAt ≠ none
  completed : block.state = .completed → block.completedAt ≠ none

/-- The checks of `_validate_job_lifecycle`. -/
structure JobLifecycle (job : QueueJob) : Prop where
  attempt : 0 ≤ job.attempt
  pending : job.state = .pending → job.attempt = 0 ∧ job.adapterToken = none ∧
    job.sentAt = none ∧ job.startedAt = none ∧ job.finishedAt = none
  dispatched : job.state ∈ [JobState.dispatching, .accepted, .running, .completed, .uncertain] →
    job.attempt ≠ 0 ∧ job.sentAt ≠ none
  failure : job.state ∈ [JobState.failed, .cancelled] → 0 < job.attempt → job.sentAt ≠ none
  started : job.state ∈ [JobState.running, .completed] → job.startedAt ≠ none
  unfinished : job.state.terminal = false → job.finishedAt = none
  finished : job.state.terminal = true → job.finishedAt ≠ none
  chronological : Chronological
    [some job.plannedAt, job.sentAt, job.startedAt, job.finishedAt]

theorem validateJobLifecycle_eq_ok {job : QueueJob} :
    validateJobLifecycle job = .ok () ↔ JobLifecycle job := by
  unfold validateJobLifecycle
  simp only [seq_eq_ok, raiseIf_eq_ok]
  constructor
  · rintro ⟨h1, h2, h3, h4, h5, h6, h7, h8⟩
    exact ⟨by simpa using h1, by grind, by grind, by grind, by grind, by grind, by grind,
      by simpa using h8⟩
  · rintro ⟨h1, h2, h3, h4, h5, h6, h7, h8⟩
    exact ⟨by simpa using h1, by grind, by grind, by grind, by grind, by grind, by grind,
      by simpa using h8⟩

/-- The checks of `QueueBlock.__post_init__` that read the identity of the block. -/
def BlockIdentity.Checked (id : BlockIdentity) : Prop :=
  requireText "block_id" id.blockId = .ok () ∧ requireText "lane_id" id.laneId = .ok () ∧
    requireText "plan_revision" id.planRevision = .ok () ∧
    requireText "idempotency_key" id.idempotencyKey = .ok () ∧ id.jobIds.Nodup ∧
    ¬ (id.guarantee = .robotAtomic ∧ id.dispatchStrategy ≠ .deviceQueue)

/-- The checks of `QueueJob.__post_init__` that read the identity of the job. -/
def JobIdentity.Checked (id : JobIdentity) : Prop :=
  requireText "job_id" id.jobId = .ok () ∧ requireText "block_id" id.blockId = .ok () ∧
    requireText "area_id" id.areaId = .ok () ∧
    requireText "area_name_snapshot" id.areaNameSnapshot = .ok () ∧ 0 ≤ id.position

theorem QueueBlock.postInit_eq_ok {b : QueueBlock} :
    b.postInit = .ok () ↔ b.identity.Checked ∧ BlockLifecycle b := by
  unfold QueueBlock.postInit BlockIdentity.Checked
  simp only [seq_eq_ok, raiseIf_eq_ok]
  constructor
  · rintro ⟨h1, h2, h3, h4, h5, h6, h7, h8, h9, h10⟩
    exact ⟨⟨h1, h2, h3, h4, not_not.mp h5, h6⟩, not_not.mp h7, by grind, by grind, by grind⟩
  · rintro ⟨⟨h1, h2, h3, h4, h5, h6⟩, h7, h8, h9, h10⟩
    exact ⟨h1, h2, h3, h4, not_not.mpr h5, h6, not_not.mpr h7, by grind, by grind, by grind⟩

theorem QueueJob.postInit_eq_ok {j : QueueJob} :
    j.postInit = .ok () ↔ j.identity.Checked ∧ JobLifecycle j := by
  unfold QueueJob.postInit JobIdentity.Checked
  simp only [seq_eq_ok, raiseIf_eq_ok, validateJobLifecycle_eq_ok, not_lt]
  apply Iff.intro
  · rintro ⟨h1, h2, h3, h4, h5, h6⟩
    exact ⟨⟨h1, h2, h3, h4, h5⟩, h6⟩
  · rintro ⟨⟨h1, h2, h3, h4, h5⟩, h6⟩
    exact ⟨h1, h2, h3, h4, h5, h6⟩

/-- A rewrite that keeps the identity of a checked block passes exactly when the new
lifecycle is in order. -/
theorem QueueBlock.postInit_of_identity {b b' : QueueBlock} (h : b.postInit = .ok ())
    (h_id : b'.identity = b.identity) : b'.postInit = .ok () ↔ BlockLifecycle b' := by
  rw [postInit_eq_ok, h_id, and_iff_right (postInit_eq_ok.mp h).1]

theorem QueueJob.postInit_of_identity {j j' : QueueJob} (h : j.postInit = .ok ())
    (h_id : j'.identity = j.identity) : j'.postInit = .ok () ↔ JobLifecycle j' := by
  rw [postInit_eq_ok, h_id, and_iff_right (postInit_eq_ok.mp h).1]

/-! ### The checks as properties -/

/-- The blocks of one lane are listed in the order of their creation. -/
def InOrder (earlier later : QueueBlock) : Prop :=
  earlier.laneId = later.laneId → earlier.createdAt ≤ later.createdAt

/-- The block lists known jobs, which are its own and number their positions. -/
structure BlockOwns (jobs : List QueueJob) (block : QueueBlock) : Prop where
  known : ∀ jobId ∈ block.jobIds, jobId ∈ jobs.map (·.jobId)
  owned : ∀ job ∈ listedJobs jobs block, job.blockId = block.blockId
  positions : (listedJobs jobs block).map (·.position) =
    (List.range (listedJobs jobs block).length).map Int.ofNat

/-- Before its commit boundary a block has no job with the vacuum. -/
theorem incompatibleStates_of_early {block : QueueBlock}
    (h : block.state ∈ [BlockState.draft, .validating, .sealed]) :
    incompatibleStates block = activeStates :=
  if_pos h

/-- Past it, the state of a block rules out no state of a job. -/
theorem incompatibleStates_of_late {block : QueueBlock}
    (h : block.state ∉ [BlockState.draft, .validating, .sealed, .committing]) :
    incompatibleStates block = [] := by
  unfold incompatibleStates
  have h_committing : block.state ≠ .committing := by
    rintro h_state
    rw [h_state] at h
    exact h (by decide)
  rw [if_neg fun h_early => h (List.mem_append_left [.committing] h_early),
    if_neg fun h_batch => h_committing h_batch.1, if_neg h_committing]

/-- The state of the block agrees with the states of its jobs. -/
structure BlockAgrees (block : QueueBlock) (blockJobs : List QueueJob) : Prop where
  compatible : ∀ job ∈ blockJobs, job.state ∉ incompatibleStates block
  result : validateTerminalBlockResult block.state blockJobs = .ok ()
  settled : block.state.terminal = true → ∀ job ∈ blockJobs, job.state.terminal = true

/-- What `QueueLedger.__post_init__` accepts. -/
structure LedgerFields.Valid (ledger : LedgerFields) : Prop where
  blockChecks : ∀ block ∈ ledger.blocks, block.postInit = .ok ()
  jobChecks : ∀ job ∈ ledger.jobs, job.postInit = .ok ()
  schema : ledger.schemaVersion = 1
  revision : 0 ≤ ledger.revision
  blockIds : (ledger.blocks.map (·.blockId)).Nodup
  jobIds : (ledger.jobs.map (·.jobId)).Nodup
  disjoint : ∀ id ∈ ledger.blocks.map (·.blockId), id ∉ ledger.jobs.map (·.jobId)
  parents : ∀ job ∈ ledger.jobs, job.blockId ∈ ledger.blocks.map (·.blockId)
  ordered : ledger.blocks.Pairwise InOrder
  owns : ∀ block ∈ ledger.blocks, BlockOwns ledger.jobs block
  agrees : ∀ block ∈ ledger.blocks, BlockAgrees block (listedJobs ledger.jobs block)
  listed : ∀ job ∈ ledger.jobs, job.jobId ∈ ledger.blocks.flatMap (·.jobIds)
  active : ∀ id ∈ ledger.activeBlockId, id ∈ ledger.blocks.map (·.blockId)

/-- The lane check of one block reads only the latest block of the lane. When the blocks
already visited are in order, that one speaks for all of them. -/
theorem latest_inOrder {seen : List QueueBlock} {block : QueueBlock}
    (h_seen : seen.Pairwise fun later earlier => InOrder earlier later) :
    (¬ ∃ earlier ∈ seen.find? (fun earlier => decide (earlier.laneId = block.laneId)),
        block.createdAt < earlier.createdAt) ↔
      ∀ earlier ∈ seen, InOrder earlier block := by
  induction seen with
  | nil => simp
  | cons head tail ih =>
    obtain ⟨h_head, h_tail⟩ := List.pairwise_cons.mp h_seen
    rw [List.forall_mem_cons]
    by_cases h_lane : head.laneId = block.laneId
    · -- the head is the latest block of the lane, and later than all of it in the tail
      rw [List.find?_cons_of_pos (by simpa using h_lane)]
      constructor
      · intro h
        have h_le : head.createdAt ≤ block.createdAt := by simpa using h
        refine ⟨fun _ => h_le, fun earlier h_mem h_same => ?_⟩
        exact (h_head earlier h_mem (h_same.trans h_lane.symm)).trans h_le
      · rintro ⟨h, -⟩
        simpa using h h_lane
    · rw [List.find?_cons_of_neg (by simpa using h_lane), ih h_tail]
      exact ⟨fun h => ⟨fun h_same => absurd h_same h_lane, h⟩, And.right⟩

theorem validateBlocks_eq_ok {jobs : List QueueJob} {seen blocks : List QueueBlock}
    (h_seen : seen.Pairwise fun later earlier => InOrder earlier later) :
    validateBlocks jobs seen blocks = .ok () ↔
      (∀ block ∈ blocks, BlockOwns jobs block) ∧
        (∀ block ∈ blocks, BlockAgrees block (listedJobs jobs block)) ∧
        blocks.Pairwise InOrder ∧ ∀ block ∈ blocks, ∀ earlier ∈ seen, InOrder earlier block := by
  -- the blocks seen grow at each step, and stay ordered by what the step has checked
  induction blocks generalizing seen with
  | nil => simp [validateBlocks]
  | cons block rest ih =>
    unfold validateBlocks validateBlockJobCompatibility
    simp only [seq_eq_ok, raiseIf_eq_ok, latest_inOrder h_seen, List.forall_mem_cons,
      List.pairwise_cons]
    constructor
    · rintro ⟨h_order, h_known, h_owned, h_pos, h_compat, h_result, h_settled, h_rest⟩
      -- the next block comes after all that were seen
      have h_seen' : (block :: seen).Pairwise fun later earlier => InOrder earlier later :=
        List.pairwise_cons.mpr ⟨h_order, h_seen⟩
      obtain ⟨h_owns, h_agrees, h_pair, h_after⟩ := (ih h_seen').mp h_rest
      refine ⟨⟨⟨?_, ?_, ?_⟩, h_owns⟩, ⟨⟨?_, h_result, ?_⟩, h_agrees⟩, ⟨?_, h_pair⟩, h_order, ?_⟩
      · simpa using h_known
      · simpa using h_owned
      · simpa using h_pos
      · simpa using h_compat
      · simpa using h_settled
      · exact fun later h_mem => h_after later h_mem block List.mem_cons_self
      · exact fun later h_mem earlier h_e =>
          h_after later h_mem earlier (List.mem_cons_of_mem _ h_e)
    · rintro ⟨⟨h_own, h_owns⟩, ⟨h_agree, h_agrees⟩, ⟨h_first, h_pair⟩, h_order, h_after⟩
      have h_seen' : (block :: seen).Pairwise fun later earlier => InOrder earlier later :=
        List.pairwise_cons.mpr ⟨h_order, h_seen⟩
      refine ⟨h_order, ?_, ?_, ?_, ?_, h_agree.result, ?_, (ih h_seen').mpr
        ⟨h_owns, h_agrees, h_pair, fun later h_mem => ?_⟩⟩
      · simpa using h_own.known
      · simpa using h_own.owned
      · simpa using h_own.positions
      · simpa using h_agree.compatible
      · simpa using h_agree.settled
      · exact List.forall_mem_cons.mpr ⟨h_first later h_mem, h_after later h_mem⟩

theorem LedgerFields.postInit_eq_ok {ledger : LedgerFields} :
    ledger.postInit = .ok () ↔ ledger.Valid := by
  unfold LedgerFields.postInit validateLedgerReferences validateUniqueQueueIds
  simp only [seq_eq_ok, raiseIf_eq_ok, checkAll_eq_ok, validateBlocks_eq_ok List.Pairwise.nil]
  -- check by check, in the order of the constructor
  constructor
  · rintro ⟨h_blocks, h_jobs, h_schema, h_rev,
      ⟨⟨h_bids, h_jids, h_disj⟩, h_parents, ⟨h_owns, h_agrees, h_ord, -⟩, h_listed⟩, h_active⟩
    exact
      { blockChecks := h_blocks, jobChecks := h_jobs, schema := by simpa using h_schema,
        revision := by simpa using h_rev, blockIds := by simpa using h_bids,
        jobIds := by simpa using h_jids, disjoint := fun id h h' => h_disj ⟨id, h, h'⟩,
        parents := fun job h => by_contra fun h' => h_parents ⟨job, h, h'⟩, ordered := h_ord,
        owns := h_owns, agrees := h_agrees,
        listed := fun job h => by_contra fun h' => h_listed ⟨job, h, h'⟩,
        active := fun id h => by_contra fun h' => h_active ⟨id, h, h'⟩ }
  · intro h
    refine ⟨h.blockChecks, h.jobChecks, by simpa using h.schema, by simpa using h.revision,
      ⟨⟨by simpa using h.blockIds, by simpa using h.jobIds, ?_⟩, ?_,
        ⟨h.owns, h.agrees, h.ordered, by simp⟩, ?_⟩, ?_⟩
    · rintro ⟨id, h_block, h_job⟩; exact h.disjoint id h_block h_job
    · rintro ⟨job, h_mem, h_not⟩; exact h_not (h.parents job h_mem)
    · rintro ⟨job, h_mem, h_not⟩; exact h_not (h.listed job h_mem)
    · rintro ⟨id, h_mem, h_not⟩; exact h_not (h.active id h_mem)

/-! ### The jobs of a block -/

/-- The jobs that name the block as their parent. -/
def jobsOf (jobs : List QueueJob) (block : QueueBlock) : List QueueJob :=
  jobs.filter (·.blockId = block.blockId)

@[simp] theorem mem_jobsOf {jobs : List QueueJob} {block : QueueBlock} {job : QueueJob} :
    job ∈ jobsOf jobs block ↔ job ∈ jobs ∧ job.blockId = block.blockId := by
  unfold jobsOf
  rw [List.mem_filter, decide_eq_true_iff]

/-- The jobs of a block after a rewrite. -/
theorem jobsOf_map {g : QueueJob → QueueJob} (hg : ∀ j, (g j).identity = j.identity)
    (jobs : List QueueJob) (block : QueueBlock) :
    jobsOf (jobs.map g) block = (jobsOf jobs block).map g := by
  unfold jobsOf
  rw [List.filter_map]
  congr 1
  refine List.filter_congr fun j _ => ?_
  rw [Function.comp_apply, parent_of_identity (hg j)]

theorem jobsOf_congr (jobs : List QueueJob) {block block' : QueueBlock}
    (h : block'.blockId = block.blockId) : jobsOf jobs block' = jobsOf jobs block := by
  unfold jobsOf
  rw [h]

/-- The lifecycle checks read the jobs of a block as a set. -/
theorem BlockAgrees.congr {block : QueueBlock} {jobs jobs' : List QueueJob}
    (h : ∀ job, job ∈ jobs ↔ job ∈ jobs') :
    BlockAgrees block jobs ↔ BlockAgrees block jobs' := by
  have h_states : (jobs.map (·.state)).toFinset = (jobs'.map (·.state)).toFinset := by
    ext state
    simp only [List.mem_toFinset, List.mem_map, h]
  have h_result : validateTerminalBlockResult block.state jobs =
      validateTerminalBlockResult block.state jobs' := by
    unfold validateTerminalBlockResult
    rw [h_states]
  constructor
  · exact fun ⟨hc, hr, hs⟩ =>
      ⟨fun j hj => hc j ((h j).mpr hj), h_result ▸ hr, fun ht j hj => hs ht j ((h j).mpr hj)⟩
  · exact fun ⟨hc, hr, hs⟩ =>
      ⟨fun j hj => hc j ((h j).mp hj), h_result ▸ hr, fun ht j hj => hs ht j ((h j).mp hj)⟩

namespace LedgerFields.Valid

variable {ledger : LedgerFields}

theorem block_eq (valid : ledger.Valid) {b b' : QueueBlock} (hb : b ∈ ledger.blocks)
    (hb' : b' ∈ ledger.blocks) (h : b.blockId = b'.blockId) : b = b' :=
  eq_of_key valid.blockIds hb hb' h

/-- The blocks and jobs of a ledger store their ownership twice. -/
theorem ownership (valid : ledger.Valid) :
    Ownership QueueJob.jobId QueueJob.blockId QueueBlock.blockId QueueBlock.jobIds ledger.jobs
      ledger.blocks where
  keys := valid.jobIds
  names := valid.blockIds
  once block h_block := by
    obtain ⟨⟨-, -, -, -, h_nodup, -⟩, -⟩ :=
      QueueBlock.postInit_eq_ok.mp (valid.blockChecks block h_block)
    exact h_nodup
  known block h_block := (valid.owns block h_block).known
  owned block h_block job h_job h_id :=
    (valid.owns block h_block).owned job ((mem_byKeys valid.jobIds).mpr ⟨h_job, h_id⟩)
  listed := valid.listed

theorem mem_listedJobs (valid : ledger.Valid) {block : QueueBlock}
    (h_block : block ∈ ledger.blocks) {job : QueueJob} :
    job ∈ listedJobs ledger.jobs block ↔ job ∈ jobsOf ledger.jobs block :=
  valid.ownership.mem_byKeys_iff h_block

theorem agreesWith (valid : ledger.Valid) {block : QueueBlock}
    (h_block : block ∈ ledger.blocks) : BlockAgrees block (jobsOf ledger.jobs block) :=
  (BlockAgrees.congr fun _ => valid.mem_listedJobs h_block).mp (valid.agrees block h_block)

/-- The jobs a block lists are found by their ids, which a rewrite keeps. -/
theorem listedJobs_rewrite {jobs : List QueueJob} {block block' : QueueBlock}
    {g : QueueJob → QueueJob} (h_block : block'.identity = block.identity)
    (hg : ∀ j, (g j).identity = j.identity) :
    listedJobs (jobs.map g) block' = (listedJobs jobs block).map g := by
  unfold listedJobs
  rw [jobIds_of_identity h_block, List.map_filterMap]
  refine List.filterMap_congr fun jobId _ => ?_
  rw [List.find?_map]
  have h_key : ((fun job => decide (job.jobId = jobId)) ∘ g) =
      fun job : QueueJob => decide (job.jobId = jobId) := by
    funext job
    rw [Function.comp_apply, jobId_of_identity (hg job)]
  rw [h_key]

theorem owns_rewrite {jobs : List QueueJob} {block block' : QueueBlock} {g : QueueJob → QueueJob}
    (h : BlockOwns jobs block) (h_block : block'.identity = block.identity)
    (hg : ∀ j, (g j).identity = j.identity) : BlockOwns (jobs.map g) block' := by
  have h_jids : (jobs.map g).map (·.jobId) = jobs.map (·.jobId) := by
    rw [List.map_map]
    exact List.map_congr_left fun j _ => jobId_of_identity (hg j)
  refine ⟨?_, ?_, ?_⟩
  · rw [jobIds_of_identity h_block, h_jids]
    exact h.known
  · rw [listedJobs_rewrite h_block hg, List.forall_mem_map, blockId_of_identity h_block]
    exact fun j hj => (parent_of_identity (hg j)).trans (h.owned j hj)
  · rw [listedJobs_rewrite h_block hg, List.length_map, List.map_map, ← h.positions]
    exact List.map_congr_left fun j _ => position_of_identity (hg j)

/-- **Rewriting records in place.** The ownership graph reads identities only, so the
result of a rewrite that keeps them is a ledger exactly when every record passes its own
checks and every block still agrees with its jobs. -/
theorem rewrite (valid : ledger.Valid) {ledger' : LedgerFields}
    {f : QueueBlock → QueueBlock} {g : QueueJob → QueueJob}
    (hf : ∀ b, (f b).identity = b.identity) (hg : ∀ j, (g j).identity = j.identity)
    (h_schema : ledger'.schemaVersion = ledger.schemaVersion)
    (h_active : ledger'.activeBlockId = ledger.activeBlockId)
    (h_rev : ledger.revision ≤ ledger'.revision)
    (h_blocks : ledger'.blocks = ledger.blocks.map f)
    (h_jobs : ledger'.jobs = ledger.jobs.map g) :
    ledger'.Valid ↔ (∀ b ∈ ledger.blocks, (f b).postInit = .ok ()) ∧
      (∀ j ∈ ledger.jobs, (g j).postInit = .ok ()) ∧
      ∀ b ∈ ledger.blocks, BlockAgrees (f b) ((jobsOf ledger.jobs b).map g) := by
  -- the graph is read through the identities, and `f` and `g` keep these
  have h_bids : ledger'.blocks.map (·.blockId) = ledger.blocks.map (·.blockId) := by
    rw [h_blocks, List.map_map]
    exact List.map_congr_left fun b _ => blockId_of_identity (hf b)
  have h_jids : ledger'.jobs.map (·.jobId) = ledger.jobs.map (·.jobId) := by
    rw [h_jobs, List.map_map]
    exact List.map_congr_left fun j _ => jobId_of_identity (hg j)
  -- the lifecycle of a block is the one part that reads states as well
  have h_agrees : ∀ b ∈ ledger.blocks, (BlockAgrees (f b) (listedJobs ledger'.jobs (f b)) ↔
      BlockAgrees (f b) ((jobsOf ledger.jobs b).map g)) := by
    intro b hb
    rw [h_jobs, listedJobs_rewrite (hf b) hg]
    refine BlockAgrees.congr fun job => ?_
    simp only [List.mem_map, valid.mem_listedJobs hb]
  constructor
  · intro valid'
    refine ⟨fun b hb => valid'.blockChecks _ ?_, fun j hj => valid'.jobChecks _ ?_,
      fun b hb => (h_agrees b hb).mp (valid'.agrees _ ?_)⟩
    · exact h_blocks ▸ List.mem_map_of_mem hb
    · exact h_jobs ▸ List.mem_map_of_mem hj
    · exact h_blocks ▸ List.mem_map_of_mem hb
  · rintro ⟨h_bchecks, h_jchecks, h_lifecycle⟩
    -- every other field of `Valid` speaks of identities and transports along the two maps
    refine
      { blockChecks := ?_, jobChecks := ?_, schema := h_schema.trans valid.schema,
        revision := valid.revision.trans h_rev, blockIds := h_bids ▸ valid.blockIds,
        jobIds := h_jids ▸ valid.jobIds, disjoint := ?_, parents := ?_, ordered := ?_,
        owns := ?_, agrees := ?_, listed := ?_, active := ?_ }
    · rw [h_blocks, List.forall_mem_map]; exact h_bchecks
    · rw [h_jobs, List.forall_mem_map]; exact h_jchecks
    · rw [h_bids, h_jids]; exact valid.disjoint
    · rw [h_jobs, h_bids, List.forall_mem_map]
      exact fun j hj => parent_of_identity (hg j) ▸ valid.parents j hj
    · rw [h_blocks, List.pairwise_map]
      refine valid.ordered.imp fun {a b} h_order => ?_
      unfold InOrder
      rw [laneId_of_identity (hf a), laneId_of_identity (hf b), createdAt_of_identity (hf a),
        createdAt_of_identity (hf b)]
      exact h_order
    · rw [h_blocks, h_jobs, List.forall_mem_map]
      exact fun b hb => owns_rewrite (valid.owns b hb) (hf b) hg
    · rw [h_blocks, List.forall_mem_map]
      exact fun b hb => (h_agrees b hb).mpr (h_lifecycle b hb)
    · rw [h_jobs, h_blocks, List.forall_mem_map, List.flatMap_map]
      intro j hj
      rw [jobId_of_identity (hg j)]
      simpa only [jobIds_of_identity (hf _)] using valid.listed j hj
    · rw [h_active, h_bids]; exact valid.active

end LedgerFields.Valid

/-! ### Facts of a ledger -/

namespace QueueLedger

variable {L : QueueLedger} {b b' : QueueBlock} {j : QueueJob}

theorem valid (L : QueueLedger) : L.toLedgerFields.Valid :=
  LedgerFields.postInit_eq_ok.mp L.checked

theorem find_block {id : String} : L.blocks.find? (fun b => decide (b.blockId = id)) = some b ↔
    b ∈ L.blocks ∧ b.blockId = id :=
  find?_key L.valid.blockIds

theorem find_job {id : String} : L.jobs.find? (fun j => decide (j.jobId = id)) = some j ↔
    j ∈ L.jobs ∧ j.jobId = id :=
  find?_key L.valid.jobIds

theorem block_eq (hb : b ∈ L.blocks) (hb' : b' ∈ L.blocks) (h : b.blockId = b'.blockId) :
    b = b' :=
  L.valid.block_eq hb hb' h

theorem exists_parent (hj : j ∈ L.jobs) : ∃ b ∈ L.blocks, b.blockId = j.blockId := by
  simpa using L.valid.parents j hj

/-- The jobs of a terminal block are terminal. -/
theorem settled (hb : b ∈ L.blocks) (h : b.state.terminal = true) (hj : j ∈ L.jobs)
    (h_parent : j.blockId = b.blockId) : j.state.terminal = true :=
  (L.valid.agreesWith hb).settled h j (mem_jobsOf.mpr ⟨hj, h_parent⟩)

theorem compatible (hb : b ∈ L.blocks) (hj : j ∈ L.jobs) (h_parent : j.blockId = b.blockId) :
    j.state ∉ incompatibleStates b :=
  (L.valid.agreesWith hb).compatible j (mem_jobsOf.mpr ⟨hj, h_parent⟩)

/-- A block lists the jobs that name it. -/
theorem mem_jobIds (hb : b ∈ L.blocks) (hj : j ∈ L.jobs) :
    j.jobId ∈ b.jobIds ↔ j.blockId = b.blockId :=
  L.valid.ownership.mem_lists hb hj

theorem blockLifecycle (hb : b ∈ L.blocks) : BlockLifecycle b :=
  (QueueBlock.postInit_eq_ok.mp (L.valid.blockChecks b hb)).2

theorem jobLifecycle (hj : j ∈ L.jobs) : JobLifecycle j :=
  (QueueJob.postInit_eq_ok.mp (L.valid.jobChecks j hj)).2

end QueueLedger

/-- What `PlanRevision.__post_init__` and those of its rooms have checked. -/
theorem PlanRevision.checks (plan : PlanRevision) :
    (∀ room ∈ plan.roomPlans, room.postInit = .ok ()) ∧
      requireText "revision_id" plan.revisionId = .ok () ∧
      (plan.roomPlans.map (·.areaId)).Nodup ∧
      ¬ 1 < (plan.roomPlans.map (·.laneId)).toFinset.card := by
  have h : plan.toPlanRevisionFields.postInit = .ok () := plan.checked
  unfold PlanRevisionFields.postInit at h
  simp only [seq_eq_ok, raiseIf_eq_ok, checkAll_eq_ok, not_not] at h
  exact h

theorem LedgerFields.construct_isOk {fields : LedgerFields} :
    (∃ L, fields.construct = .ok L) ↔ fields.Valid := by
  constructor
  · rintro ⟨L, h⟩
    exact LedgerFields.construct_eq_ok.mp h ▸ L.valid
  · intro h
    exact ⟨⟨fields, LedgerFields.postInit_eq_ok.mpr h⟩, LedgerFields.construct_eq_ok.mpr rfl⟩

end VacuumPlanner
