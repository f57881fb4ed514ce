import VacuumPlanner.Attention
import VacuumPlanner.Cancelling
import VacuumPlanner.Evidence
import VacuumPlanner.Lanes
import VacuumPlanner.Normalization
import VacuumPlanner.Partition

/-!
# What the dashboard shows

The entities of an entry look at one state in memory, each in its own way. The status asks, in a
fixed order, whether any block is in some of its states; the phase looks for the last block that
has not ended; the counter counts the jobs that have not; the queue attribute lists these first
and history after them; the cancel button looks for the last sealed block. Nothing in `entity.py`
relates one to another.

They tell one story because of what the commands keep (`Readable`): a lane has one open block, all
blocks are in the lane of the plan, an open block is in step with its jobs and has some, and the
jobs of a block stand in the ledger in the order of their positions. `OneStory` is what follows
for the entities, and `QueueShown` for the rows of the attribute.
-/

namespace VacuumPlanner

open Framework

/-! ### The projections -/

/-- `MAX_QUEUE_PROJECTION_ITEMS`. -/
def maxQueueProjectionItems : ℕ := 20

/-- `MAX_QUEUE_AREA_NAME_LENGTH`. -/
def maxQueueAreaNameLength : ℕ := 80

/-- `QueueProjectionItem`. -/
structure QueueProjectionItem where
  areaName : String
  mode : String
  position : ℤ
  status : String
  deriving DecidableEq

/-- `QueueProjection`. -/
structure QueueProjection where
  items : List QueueProjectionItem
  projectedCount : ℕ
  revision : ℤ
  totalCount : ℕ
  truncated : Bool
  deriving DecidableEq

/-- `_safe_area_name`, for the characters that `str.isprintable` accepts. -/
def safeAreaName (isPrintable : Char → Bool) (value : String) : String :=
  let printable := strip (String.ofList (value.toList.filter isPrintable))
  let bounded := String.ofList (printable.toList.take maxQueueAreaNameLength)
  if bounded = "" then "—" else bounded

/-- The terminal states of the entities' jobs. -/
def endedJobStates : List JobState := [.completed, .failed, .skipped, .cancelled]

/-- The terminal states of the entities' blocks. -/
def endedBlockStates : List BlockState := [.completed, .rejected, .cancelled, .failed, .partial']

/-- One row of the queue. -/
def projectedItem (isPrintable : Char → Bool) (job : QueueJob) : QueueProjectionItem where
  areaName := safeAreaName isPrintable job.areaNameSnapshot
  mode := job.mode.value
  position := job.position
  status := job.state.value

/-- `projected_jobs` of `queue_projection`. -/
def projectedJobs (jobs : List QueueJob) : List QueueJob :=
  let activeJobs := jobs.filter (·.state ∉ endedJobStates)
  let recentHistory := jobs.reverse.filter (·.state ∈ endedJobStates)
  (activeJobs ++ recentHistory).take maxQueueProjectionItems

/-- `queue_projection`. -/
def queueProjection (isPrintable : Char → Bool) : Option PlannerState → QueueProjection
  | none => ⟨[], 0, 0, 0, false⟩
  | some state =>
    let jobs := state.ledger.jobs
    let items := (projectedJobs jobs).map (projectedItem isPrintable)
    { items
      projectedCount := items.length
      revision := state.ledger.revision
      totalCount := jobs.length
      truncated := decide (items.length < jobs.length) }

/-- `pending_count`. -/
def pendingCount : Option PlannerState → ℕ
  | none => 0
  | some state => state.ledger.jobs.countP (·.state ∉ endedJobStates)

/-- `current_phase`. -/
def currentPhase : Option PlannerState → String
  | none => "idle"
  | some state =>
    match state.ledger.blocks.reverse.find? (·.state ∉ endedBlockStates) with
    | none => "idle"
    | some block => block.state.value

/-- `planner_ready`. -/
def plannerReady (runtime : EntityRuntime) : Bool :=
  runtime.planningEnabled && runtime.state.isSome && !attentionRequired runtime

/-- The block for which `VacuumPlannerCancelCurrentBlockButton.async_press` calls `cancel_block`,
if it calls at all. -/
def cancelCurrentBlock : Option PlannerState → Option String
  | none => none
  | some state => (state.ledger.blocks.reverse.find? (·.state = .sealed)).map (·.blockId)

/-- A row of `blocks` in the response of `get_queue`. -/
structure QueueResponseBlock where
  blockId : String
  kind : String
  state : String
  guarantee : String
  jobIds : List String
  deriving DecidableEq

/-- A row of `jobs`. -/
structure QueueResponseJob where
  jobId : String
  blockId : String
  areaId : String
  areaName : String
  mode : String
  state : String
  position : ℤ
  deriving DecidableEq

structure QueueResponse where
  revision : ℤ
  blocks : List QueueResponseBlock
  jobs : List QueueResponseJob
  deriving DecidableEq

/-- `get_queue_response`. -/
def getQueueResponse : Option PlannerState → QueueResponse
  | none => ⟨0, [], []⟩
  | some state =>
    { revision := state.ledger.revision
      blocks := state.ledger.blocks.map fun block =>
        { blockId := block.blockId
          kind := block.kind.value
          state := block.state.value
          guarantee := block.guarantee.value
          jobIds := block.jobIds }
      jobs := state.ledger.jobs.map fun job =>
        { jobId := job.jobId
          blockId := job.blockId
          areaId := job.areaId
          areaName := job.areaNameSnapshot
          mode := job.mode.value
          state := job.state.value
          position := job.position } }

theorem mem_endedJobStates {state : JobState} : state ∈ endedJobStates ↔ state.terminal = true := by
  cases state <;> decide

theorem mem_endedBlockStates {state : BlockState} :
    state ∈ endedBlockStates ↔ state.terminal = true := by
  cases state <;> decide

/-! ### What the commands keep -/

/-- Of two jobs of one block, the one that stands earlier has the lower position. -/
def JobsOrdered (L : QueueLedger) : Prop :=
  L.jobs.Pairwise fun j k => j.blockId = k.blockId → j.position < k.position

/-- What makes the entities agree on a queue. -/
structure QueueReadable (L : QueueLedger) : Prop where
  accountable : Accountable L
  lanes : LanesOrdered L
  ordered : JobsOrdered L
  manned : ∀ b ∈ L.blocks, jobsOf L.jobs b ≠ []

/-- A readable queue of a plan with rooms, whose lane the blocks are in. -/
structure Readable (s : PlannerState) : Prop where
  queue : QueueReadable s.ledger
  rooms : s.planRevision.roomPlans ≠ []

variable {L L' : QueueLedger} {s s' : PlannerState} {b : QueueBlock} {j k : QueueJob}
  {R : JobState → String → Instant → Prop}

theorem QueueReadable.empty : QueueReadable QueueLedger.empty :=
  ⟨.empty, .empty, List.Pairwise.nil, fun _ hb => absurd hb List.not_mem_nil⟩

theorem LanesOrdered.rows (h : LanesOrdered L) (h_rows : Rows R L L') : LanesOrdered L' := by
  obtain ⟨f, -, h_blocks, -, -, h_kept, -⟩ := h_rows
  unfold LanesOrdered
  rw [h_blocks, List.pairwise_map]
  refine h.imp_of_mem fun {a b} ha hb h_ab h_lane => ?_
  rw [laneId_of_identity (h_kept a ha).identity, laneId_of_identity (h_kept b hb).identity]
    at h_lane
  rw [(h_kept a ha).frozen (h_ab h_lane)]
  exact h_ab h_lane

theorem JobsOrdered.rows (h : JobsOrdered L) (h_rows : Rows R L L') : JobsOrdered L' := by
  obtain ⟨-, g, -, h_jobs, hg, -, -⟩ := h_rows
  unfold JobsOrdered
  rw [h_jobs, List.pairwise_map]
  refine h.imp fun {j k} h_jk h_parent => ?_
  rw [parent_of_identity (hg j), parent_of_identity (hg k)] at h_parent
  rw [position_of_identity (hg j), position_of_identity (hg k)]
  exact h_jk h_parent

/-- The jobs of a new block are listed as they are appended. -/
theorem BlockSealed.listedJobs {block : QueueBlock} {children : List QueueJob}
    (h_step : BlockSealed L L' block children) : jobsForBlock L' block = children := by
  have h_block : block ∈ L'.blocks := by
    rw [h_step.blocks]
    exact List.mem_append_right _ List.mem_cons_self
  have h_nodup := L'.valid.jobIds
  rw [h_step.jobs, List.map_append] at h_nodup
  have h_mem : ∀ job ∈ jobsForBlock L' block, job ∈ L'.jobs := fun job h_job =>
    (mem_jobsOf.mp ((L'.scan_perm_listed h_block).mem_iff.mpr h_job)).1
  -- both lists are made of jobs of the ledger, and have the same ids in the same order
  refine List.ext_getElem? fun i => ?_
  have h_ids : ((jobsForBlock L' block).map (·.jobId))[i]? = (children.map (·.jobId))[i]? := by
    rw [map_jobId_jobsForBlock h_block, h_step.listed]
  rw [List.getElem?_map, List.getElem?_map] at h_ids
  cases h_i : (jobsForBlock L' block)[i]? with
  | none =>
    rw [h_i] at h_ids
    exact (Option.map_eq_none_iff.mp h_ids.symm).symm
  | some job =>
    rw [h_i] at h_ids
    obtain ⟨child, h_child, h_id⟩ := Option.map_eq_some_iff.mp h_ids.symm
    have h_child_mem : child ∈ L'.jobs := by
      rw [h_step.jobs]
      exact List.mem_append_right _ (List.mem_of_getElem? h_child)
    -- two jobs of the ledger with one id are the same
    rw [h_child, eq_of_key L'.valid.jobIds h_child_mem (h_mem job (List.mem_of_getElem? h_i)) h_id]

theorem JobsOrdered.seals {block : QueueBlock} {children : List QueueJob} (h : JobsOrdered L)
    (h_step : BlockSealed L L' block children) : JobsOrdered L' := by
  unfold JobsOrdered
  rw [h_step.jobs, List.pairwise_append]
  refine ⟨h, ?_, fun j hj k hk h_parent => ?_⟩
  · have h_block : block ∈ L'.blocks := by
      rw [h_step.blocks]
      exact List.mem_append_right _ List.mem_cons_self
    have h_sorted := L'.listed_sorted h_block
    rw [h_step.listedJobs] at h_sorted
    refine h_sorted.imp ?_
    exact fun h_lt _ => h_lt
  · -- the new block is the parent of none of the old jobs
    obtain ⟨b, hb, h_b⟩ := QueueLedger.exists_parent hj
    rw [(h_step.pending k hk).1] at h_parent
    exact absurd (h_b.trans h_parent) (h_step.fresh hb)

theorem QueueReadable.seals {block : QueueBlock} {children : List QueueJob} (h : QueueReadable L)
    (h_step : BlockSealed L L' block children) : QueueReadable L' := by
  refine ⟨h.accountable.seals h_step, h.lanes.seals h_step, h.ordered.seals h_step, ?_⟩
  rw [h_step.blocks, List.forall_mem_append]
  refine ⟨fun b hb h_none => h.manned b hb ?_, fun b hb h_none => ?_⟩
  · refine List.eq_nil_iff_forall_not_mem.mpr fun j hj => ?_
    obtain ⟨h_mem, h_parent⟩ := mem_jobsOf.mp hj
    have h_new : j ∈ L'.jobs := by
      rw [h_step.jobs]
      exact List.mem_append_left _ h_mem
    exact List.eq_nil_iff_forall_not_mem.mp h_none j (mem_jobsOf.mpr ⟨h_new, h_parent⟩)
  · obtain rfl := List.mem_singleton.mp hb
    obtain ⟨j, hj⟩ := List.exists_mem_of_ne_nil _ h_step.nonempty
    have h_new : j ∈ L'.jobs := by
      rw [h_step.jobs]
      exact List.mem_append_right _ hj
    exact List.eq_nil_iff_forall_not_mem.mp h_none j
      (mem_jobsOf.mpr ⟨h_new, (h_step.pending j hj).1⟩)

theorem QueueReadable.rows (h : QueueReadable L) (h_rows : Rows R L L') : QueueReadable L' := by
  refine ⟨h.accountable.rows h_rows, h.lanes.rows h_rows, h.ordered.rows h_rows, ?_⟩
  obtain ⟨f, g, h_blocks, h_jobs, hg, h_kept, -⟩ := h_rows
  rw [h_blocks, List.forall_mem_map]
  intro b hb
  rw [h_jobs, jobsOf_map hg, jobsOf_congr _ (blockId_of_identity (h_kept b hb).identity)]
  exact mt List.map_eq_nil_iff.mp (h.manned b hb)

theorem Readable.step (h : Readable s) (h_ran : Ran s s') : Readable s' where
  queue := h_ran.updates.keeps (fun h => h.accountable.inStep) (fun h h_step => h.seals h_step)
    (fun h h_rows => h.rows h_rows) h.queue
  rooms := by
    have h_count := h_ran.roomCount
    intro h_none
    rw [h_none] at h_count
    exact h.rooms (List.eq_nil_of_length_eq_zero h_count.symm)

/-- **Readable everywhere.** Every state of a system that began with an empty queue. -/
theorem System.states_readable {disk : PlannerState} (h_empty : disk.ledger = QueueLedger.empty)
    (h_rooms : disk.planRevision.roomPlans ≠ []) (events : List SystemEvent) (n : ℕ) :
    ∀ state ∈ (stateAt System.step (System.start disk) events n).states, Readable state :=
  System.states_keep (fun _ _ h_ran h => h.step h_ran)
    ⟨by rw [h_empty]; exact .empty, h_rooms⟩ events n

/-! ### The one open block -/

/-- The blocks that have not ended. -/
def openBlocks (L : QueueLedger) : List QueueBlock := L.blocks.filter (·.state ∉ endedBlockStates)

/-- The states in which the commands leave an open block. -/
def openStates : List BlockState := [.sealed, .committing, .committed, .running, .uncertain]

theorem mem_openBlocks : b ∈ openBlocks L ↔ b ∈ L.blocks ∧ b.state.terminal = false := by
  unfold openBlocks
  rw [List.mem_filter, decide_eq_true_iff, mem_endedBlockStates, Bool.not_eq_true]

/-- It has jobs, and one of the states that go with them. -/
theorem QueueReadable.open_state (h : QueueReadable L) (hb : b ∈ openBlocks L) :
    b.state ∈ openStates := by
  obtain ⟨h_mem, h_open⟩ := mem_openBlocks.mp hb
  obtain ⟨j, hj⟩ := List.exists_mem_of_ne_nil _ (h.manned b h_mem)
  have h_companion := (h.accountable.inStep b h_mem h_open).companions j hj
  revert h_companion
  cases b.state <;> cases j.state <;> decide

/-- All blocks are in the lane of the plan, and a lane has one open block. -/
theorem Readable.openBlocks_cases (h : Readable s) :
    openBlocks s.ledger = [] ∨ ∃ b ∈ s.ledger.blocks, b.state ∈ openStates ∧
      openBlocks s.ledger = [b] := by
  cases h_open : openBlocks s.ledger with
  | nil => exact Or.inl rfl
  | cons b rest =>
    have hb : b ∈ openBlocks s.ledger := by rw [h_open]; exact List.mem_cons_self
    obtain ⟨h_mem, h_b⟩ := mem_openBlocks.mp hb
    refine Or.inr ⟨b, h_mem, h.queue.open_state hb, ?_⟩
    have h_nodup : (openBlocks s.ledger).Nodup :=
      (List.Nodup.of_map _ s.ledger.valid.blockIds).filter _
    have h_lane := s.lane _ (List.head?_eq_some_head h.rooms)
    cases rest with
    | nil => rfl
    | cons c rest =>
      have hc : c ∈ openBlocks s.ledger := by
        rw [h_open]
        exact List.mem_cons_of_mem _ List.mem_cons_self
      obtain ⟨h_c_mem, h_c⟩ := mem_openBlocks.mp hc
      -- there is one lane, and one open block in it
      have h_same := h.queue.lanes.oneOpen.unique b h_mem c h_c_mem
        ((h_lane b h_mem).trans (h_lane c h_c_mem).symm) h_b h_c
      rw [h_open, h_same] at h_nodup
      exact absurd List.mem_cons_self (List.nodup_cons.mp h_nodup).1

/-- The state of the last open block, if there is one. -/
def openState (L : QueueLedger) : Option BlockState := (openBlocks L).getLast?.map (·.state)

theorem Readable.openState_mem (h : Readable s) :
    openState s.ledger ∈ none :: openStates.map some := by
  unfold openState
  rcases h.openBlocks_cases with h_none | ⟨b, -, h_b, h_one⟩
  · rw [h_none]
    exact List.mem_cons_self
  · rw [h_one]
    exact List.mem_cons_of_mem _ (List.mem_map_of_mem h_b)

theorem currentPhase_eq :
    currentPhase (some s) = ((openState s.ledger).map BlockState.value).getD "idle" := by
  have h_find : s.ledger.blocks.reverse.find? (·.state ∉ endedBlockStates) =
      (openBlocks s.ledger).getLast? :=
    List.getLast?_filter.symm
  unfold currentPhase openState
  dsimp only
  rw [h_find]
  cases (openBlocks s.ledger).getLast? <;> rfl

/-- The block that the button cancels is the open one, if it is sealed. -/
theorem cancelCurrentBlock_eq : cancelCurrentBlock (some s) =
    ((openBlocks s.ledger).reverse.find? (·.state = .sealed)).map (·.blockId) := by
  have h_find : s.ledger.blocks.reverse.find? (·.state = .sealed) =
      (openBlocks s.ledger).reverse.find? (·.state = .sealed) := by
    unfold openBlocks
    rw [← List.filter_reverse, List.find?_filter]
    congr 1
    funext b
    cases b.state <;> decide
  rw [← h_find]
  rfl

/-- A question about open states is one about the open block. -/
theorem Readable.anyBlock_eq (h : Readable s) (topologyReady planningEnabled : Bool)
    (states : List BlockState) (h_states : ∀ state ∈ states, state.terminal = false) :
    EntityRuntime.anyBlock ⟨topologyReady, planningEnabled, some s⟩ states =
      (openState s.ledger).any fun state => decide (state ∈ states) := by
  have h_any : EntityRuntime.anyBlock ⟨topologyReady, planningEnabled, some s⟩ states =
      (openBlocks s.ledger).any fun b => decide (b.state ∈ states) := by
    unfold EntityRuntime.anyBlock openBlocks
    rw [Option.any_some, List.any_filter, Bool.eq_iff_iff]
    simp only [List.any_eq_true, Bool.and_eq_true, decide_eq_true_iff, mem_endedBlockStates,
      Bool.not_eq_true]
    exact ⟨fun ⟨b, hb, h_b⟩ => ⟨b, hb, h_states _ h_b, h_b⟩,
      fun ⟨b, hb, _, h_b⟩ => ⟨b, hb, h_b⟩⟩
  rw [h_any]
  unfold openState
  rcases h.openBlocks_cases with h_none | ⟨b, -, -, h_one⟩
  · rw [h_none]
    rfl
  · rw [h_one, List.any_cons, List.any_nil, Bool.or_false]
    rfl

/-- No block is rejected, so only an uncertain one calls for attention. -/
theorem Readable.anyBlock_attention (h : Readable s) {topologyReady planningEnabled : Bool} :
    EntityRuntime.anyBlock ⟨topologyReady, planningEnabled, some s⟩ [.rejected, .uncertain] =
      (openState s.ledger).any fun state => decide (state ∈ [BlockState.uncertain]) := by
  rw [← h.anyBlock_eq topologyReady planningEnabled _ (by decide)]
  unfold EntityRuntime.anyBlock
  rw [Option.any_some, Option.any_some, Bool.eq_iff_iff, List.any_eq_true, List.any_eq_true]
  refine exists_congr fun b => and_congr_right fun hb => ?_
  have h_accepted := h.queue.accountable.accepted b hb
  revert h_accepted
  cases b.state <;> decide

/-! ### One story -/

/-- The status that goes with a phase, of a planner that is neither paused nor blocked. -/
def statusOfPhase : String → String
  | "sealed" => "ready"
  | "committing" => "committing"
  | "committed" | "running" => "running"
  | "uncertain" => "attention"
  | _ => "idle"

/-- What the entities say of a state, put together. -/
structure OneStory (s : PlannerState) : Prop where
  phase : currentPhase (some s) ∈ "idle" :: openStates.map BlockState.value
  status : plannerStatus ⟨true, true, some s⟩ = statusOfPhase (currentPhase (some s))
  attention : ∀ planningEnabled, attentionRequired ⟨true, planningEnabled, some s⟩ = true ↔
    currentPhase (some s) = "uncertain"
  /-- The condition of the Repairs issue also looks at the jobs. -/
  issue : unresolvedExternalRun s = true ↔ currentPhase (some s) = "uncertain"
  ready : ∀ topologyReady planningEnabled,
    plannerReady ⟨topologyReady, planningEnabled, some s⟩ = true ↔
      plannerStatus ⟨topologyReady, planningEnabled, some s⟩ ∉ ["attention", "paused"]
  /-- The button has a block to cancel in the sealed phase only. -/
  cancel : (∃ blockId, cancelCurrentBlock (some s) = some blockId) ↔
    currentPhase (some s) = "sealed"
  /-- There is no pending work between two blocks, and a block whose last job has ended is one
  that is with the vacuum. -/
  idle : currentPhase (some s) = "idle" → pendingCount (some s) = 0
  pending : pendingCount (some s) = 0 → currentPhase (some s) ∈ ["idle", "running", "uncertain"]
  /-- The response of `get_queue` has one open block at most, with the phase as its state. -/
  response : ((getQueueResponse (some s)).blocks.map (·.state)).filter
    (· ∉ endedBlockStates.map BlockState.value) =
      if currentPhase (some s) = "idle" then [] else [currentPhase (some s)]

/-- The states of the open blocks in the response. -/
theorem getQueueResponse_open : ((getQueueResponse (some s)).blocks.map (·.state)).filter
    (· ∉ endedBlockStates.map BlockState.value) = (openBlocks s.ledger).map (·.state.value) := by
  unfold getQueueResponse openBlocks
  have h_terminal : ∀ state : BlockState, decide (state.value ∉ endedBlockStates.map
      BlockState.value) = decide (state ∉ endedBlockStates) := by
    intro state
    cases state <;> decide
  rw [List.map_map, List.filter_map]
  congr 2
  funext b
  exact h_terminal b.state

/-- A job that has not ended is one of an open block. -/
theorem parent_openBlocks (hj : j ∈ s.ledger.jobs) (h_j : j.state.terminal = false) :
    ∃ b ∈ openBlocks s.ledger, j.blockId = b.blockId := by
  obtain ⟨b, hb, h_parent⟩ := QueueLedger.exists_parent hj
  have h_open := QueueLedger.parentOpen_of_open hj h_j b hb h_parent
  exact ⟨b, mem_openBlocks.mpr ⟨hb, h_open⟩, h_parent.symm⟩

theorem pendingCount_eq_zero : pendingCount (some s) = 0 ↔
    ∀ j ∈ s.ledger.jobs, j.state.terminal = true := by
  unfold pendingCount
  rw [List.countP_eq_zero]
  refine forall_congr' fun j => imp_congr_right fun _ => ?_
  rw [decide_eq_true_iff, not_not, mem_endedJobStates]

/-- Up to its acceptance a block has pending work. -/
theorem QueueReadable.pending (h : QueueReadable L) (hb : b ∈ L.blocks)
    (h_b : b.state ∈ [BlockState.sealed, .committing, .committed]) :
    ∃ j ∈ L.jobs, j.state.terminal = false := by
  obtain ⟨j, hj⟩ := List.exists_mem_of_ne_nil _ (h.manned b hb)
  have h_open : b.state.terminal = false := by
    revert h_b
    cases b.state <;> decide
  have h_companion := (h.accountable.inStep b hb h_open).companions j hj
  refine ⟨j, (mem_jobsOf.mp hj).1, ?_⟩
  revert h_b h_companion
  cases b.state <;> cases j.state <;> decide

/-- What the status, the sensors and the phase say, read off the state of the open block. -/
theorem Readable.status_phase (h : Readable s) :
    plannerStatus ⟨true, true, some s⟩ = statusOfPhase (currentPhase (some s)) ∧
      (plannerStatus ⟨true, true, some s⟩ = "attention" ↔
        currentPhase (some s) = "uncertain") := by
  have h_committing := h.anyBlock_eq true true [.committing] (by decide)
  have h_running := h.anyBlock_eq true true [.committed, .running] (by decide)
  have h_sealed := h.anyBlock_eq true true [.sealed] (by decide)
  simp only [plannerStatus, Bool.true_eq_false, if_false, h.anyBlock_attention, h_committing,
    h_running, h_sealed, currentPhase_eq]
  -- what is left is a question about the state of the open block
  have h_open := h.openState_mem
  generalize openState s.ledger = state at h_open
  revert state
  decide

theorem Readable.attention_phase (h : Readable s) (planningEnabled : Bool) :
    attentionRequired ⟨true, planningEnabled, some s⟩ = true ↔
      currentPhase (some s) = "uncertain" := by
  unfold attentionRequired
  rw [h.anyBlock_attention, currentPhase_eq]
  dsimp only
  have h_open := h.openState_mem
  generalize openState s.ledger = state at h_open
  revert state
  decide

theorem Readable.issue_phase (h : Readable s) :
    unresolvedExternalRun s = true ↔ currentPhase (some s) = "uncertain" := by
  rw [← (h.queue.accountable.attention true).1]
  exact h.attention_phase true

theorem Readable.ready_status (h : Readable s) (topologyReady planningEnabled : Bool) :
    plannerReady ⟨topologyReady, planningEnabled, some s⟩ = true ↔
      plannerStatus ⟨topologyReady, planningEnabled, some s⟩ ∉ ["attention", "paused"] := by
  cases topologyReady with
  | false =>
    unfold plannerReady attentionRequired plannerStatus
    cases planningEnabled <;> simp
  | true =>
    cases planningEnabled with
    | false =>
      unfold plannerReady plannerStatus
      simp
    | true =>
      have h_unpaused : plannerStatus ⟨true, true, some s⟩ ≠ "paused" := by
        rw [h.status_phase.1]
        unfold statusOfPhase
        split <;> decide
      -- set up and enabled, only attention is in the way
      have h_ready : plannerReady ⟨true, true, some s⟩ = true ↔
          ¬ attentionRequired ⟨true, true, some s⟩ = true := by
        unfold plannerReady
        simp
      rw [h_ready, h.attention_phase, ← h.status_phase.2]
      simp [h_unpaused]

theorem Readable.cancel_phase (h : Readable s) :
    (∃ blockId, cancelCurrentBlock (some s) = some blockId) ↔
      currentPhase (some s) = "sealed" := by
  rw [cancelCurrentBlock_eq, currentPhase_eq]
  unfold openState
  rcases h.openBlocks_cases with h_none | ⟨b, -, h_b, h_one⟩
  · rw [h_none]
    simp
  · rw [h_one]
    revert h_b
    cases h_state : b.state <;> simp [h_state, openStates, BlockState.value]

/-- Without an open block every job has ended. -/
theorem Readable.idle_pending (h : Readable s) (h_idle : currentPhase (some s) = "idle") :
    pendingCount (some s) = 0 := by
  rw [pendingCount_eq_zero]
  intro j hj
  by_contra h_j
  obtain ⟨b, hb, -⟩ := parent_openBlocks hj (Bool.eq_false_of_not_eq_true h_j)
  rw [currentPhase_eq] at h_idle
  have h_none : openState s.ledger = none := by
    have h_open := h.openState_mem
    generalize openState s.ledger = state at h_open h_idle
    revert state
    decide
  -- the job that is left would be one of an open block
  unfold openState at h_none
  rw [Option.map_eq_none_iff, List.getLast?_eq_none_iff] at h_none
  exact List.eq_nil_iff_forall_not_mem.mp h_none b hb

theorem Readable.pending_phase (h : Readable s) (h_pending : pendingCount (some s) = 0) :
    currentPhase (some s) ∈ ["idle", "running", "uncertain"] := by
  rw [pendingCount_eq_zero] at h_pending
  rw [currentPhase_eq]
  unfold openState
  rcases h.openBlocks_cases with h_none | ⟨b, hb, h_b, h_one⟩
  · rw [h_none]
    decide
  · -- until its block is accepted, no job of it can end
    have h_late : b.state ∉ [BlockState.sealed, .committing, .committed] := by
      intro h_early
      obtain ⟨j, hj, h_j⟩ := h.queue.pending hb h_early
      exact absurd (h_j.symm.trans (h_pending j hj)) Bool.noConfusion
    rw [h_one]
    revert h_b h_late
    cases h_state : b.state <;> simp [h_state, openStates, BlockState.value]

/-- **One story.** A readable state is read alike by all entities. -/
theorem Readable.oneStory (h : Readable s) : OneStory s where
  phase := by
    rw [currentPhase_eq]
    have h_open := h.openState_mem
    generalize openState s.ledger = state at h_open
    revert state
    decide
  status := h.status_phase.1
  attention := h.attention_phase
  issue := h.issue_phase
  ready := h.ready_status
  cancel := h.cancel_phase
  idle := h.idle_pending
  pending := h.pending_phase
  response := by
    rw [getQueueResponse_open, currentPhase_eq]
    unfold openState
    -- the response has the open block, whose state is the phase
    rcases h.openBlocks_cases with h_none | ⟨b, -, h_b, h_one⟩
    · rw [h_none]
      rfl
    · rw [h_one]
      revert h_b
      cases h_state : b.state <;> simp [h_state, openStates, BlockState.value]

/-- **The entities agree.** Take any run of a config entry from an empty queue, with any
interleaving of calls, reports, unloads, setups, crashes and late saves. In every planner state
there is at any moment, the phase decides the status, the attention sensor, the Repairs issue,
what the cancel button has to cancel and the open block of the `get_queue` response; the ready
sensor is on exactly if the status is neither attention nor paused; and jobs are pending only
while a block is open. -/
theorem entities_agree {disk : PlannerState} (h_empty : disk.ledger = QueueLedger.empty)
    (h_rooms : disk.planRevision.roomPlans ≠ []) (events : List SystemEvent) (n : ℕ) :
    ∀ state ∈ (stateAt System.step (System.start disk) events n).states, OneStory state :=
  fun state h_state => (System.states_readable h_empty h_rooms events n state h_state).oneStory

/-- While the kitchen is cleaned. -/
theorem entities_agree_kitchen :
    ∃ state ∈ (stateAt System.step (System.start kitchenState) completedDispatch 18).states,
      currentPhase (some state) = "running" ∧ OneStory state := by
  obtain ⟨state, h_state, h_phase⟩ :
      ∃ state ∈ (stateAt System.step (System.start kitchenState) completedDispatch 18).states,
        currentPhase (some state) = "running" := by decide
  exact ⟨state, h_state, h_phase, entities_agree rfl (by decide) completedDispatch 18 state h_state⟩

/-! ### The rows of the queue attribute -/

/-- The jobs of the rows: first those that have not ended, then the latest of the others. -/
structure RowsShown (L : QueueLedger) (active history : List QueueJob) : Prop where
  prefixActive : active <+: L.jobs.filter (·.state.terminal = false)
  prefixHistory : history <+: (L.jobs.filter (·.state.terminal)).reverse
  count : (active ++ history).length = min maxQueueProjectionItems L.jobs.length
  /-- No job that has ended is shown in place of one that has not. -/
  first : history ≠ [] → active = L.jobs.filter (·.state.terminal = false)
  ordered : active.Pairwise fun j k => j.position < k.position
  oneBlock : ∀ j ∈ active, ∀ k ∈ active, j.blockId = k.blockId

/-- The attribute as a whole. -/
structure QueueShown (isPrintable : Char → Bool) (s : PlannerState) : Prop where
  rows : ∃ active history, RowsShown s.ledger active history ∧
    (queueProjection isPrintable (some s)).items =
      (active ++ history).map (projectedItem isPrintable)
  total : (queueProjection isPrintable (some s)).totalCount = s.ledger.jobs.length
  projected : (queueProjection isPrintable (some s)).projectedCount =
    min maxQueueProjectionItems s.ledger.jobs.length
  truncated : (queueProjection isPrintable (some s)).truncated = true ↔
    maxQueueProjectionItems < s.ledger.jobs.length
  names : ∀ item ∈ (queueProjection isPrintable (some s)).items, item.areaName ≠ "" ∧
    item.areaName.length ≤ maxQueueAreaNameLength ∧
      ∀ c ∈ item.areaName.toList, isPrintable c = true ∨ c = '—'

theorem projectedJobs_length (jobs : List QueueJob) :
    (projectedJobs jobs).length = min maxQueueProjectionItems jobs.length := by
  have h_split := jobs.length_eq_length_filter_add (fun j => decide (j.state ∉ endedJobStates))
  have h_history : (jobs.reverse.filter fun j => decide (j.state ∈ endedJobStates)).length =
      (jobs.filter fun j => !decide (j.state ∉ endedJobStates)).length := by
    rw [List.filter_reverse, List.length_reverse]
    congr 2
    funext j
    cases j.state <;> decide
  unfold projectedJobs
  rw [List.length_take, List.length_append, h_history, ← h_split]

theorem strip_subset {value : String} {c : Char} (h : c ∈ (strip value).toList) :
    c ∈ value.toList := by
  unfold strip at h
  rw [String.toList_ofList, List.mem_reverse] at h
  exact (List.dropWhile_sublist _).mem (List.mem_reverse.mp ((List.dropWhile_sublist _).mem h))

/-- Whatever the name of an area is, the row has a printable one of bounded length. -/
theorem safeAreaName_bounded (isPrintable : Char → Bool) (value : String) :
    safeAreaName isPrintable value ≠ "" ∧
      (safeAreaName isPrintable value).length ≤ maxQueueAreaNameLength ∧
      ∀ c ∈ (safeAreaName isPrintable value).toList, isPrintable c = true ∨ c = '—' := by
  unfold safeAreaName
  dsimp only
  split
  · refine ⟨by decide, by decide, ?_⟩
    have h_dash : "—".toList = ['—'] := rfl
    rw [h_dash]
    exact fun c hc => Or.inr (List.mem_singleton.mp hc)
  · next h_some =>
    refine ⟨h_some, ?_, fun c hc => Or.inl ?_⟩
    · rw [String.length_ofList, List.length_take]
      exact Nat.min_le_left _ _
    · -- cut and stripped, it has characters of the filtered name only
      rw [String.toList_ofList] at hc
      have h_kept := strip_subset (List.mem_of_mem_take hc)
      rw [String.toList_ofList] at h_kept
      exact (List.mem_filter.mp h_kept).2

/-- The open jobs are jobs of the open block. -/
theorem Readable.active_oneBlock (h : Readable s)
    (hj : j ∈ s.ledger.jobs.filter (·.state.terminal = false))
    (hk : k ∈ s.ledger.jobs.filter (·.state.terminal = false)) : j.blockId = k.blockId := by
  rw [List.mem_filter, decide_eq_true_iff] at hj hk
  obtain ⟨b, hb, h_b⟩ := parent_openBlocks hj.1 hj.2
  obtain ⟨c, hc, h_c⟩ := parent_openBlocks hk.1 hk.2
  rcases h.openBlocks_cases with h_none | ⟨d, -, -, h_d⟩
  · rw [h_none] at hb
    exact absurd hb List.not_mem_nil
  · rw [h_d, List.mem_singleton] at hb hc
    rw [h_b, h_c, hb, hc]

/-- So they stand in the order of their positions. -/
theorem Readable.active_ordered (h : Readable s) :
    (s.ledger.jobs.filter (·.state.terminal = false)).Pairwise
      fun j k => j.position < k.position :=
  (h.queue.ordered.filter _).imp_of_mem fun hj hk h_jk => h_jk (h.active_oneBlock hj hk)

theorem Readable.rowsShown (h : Readable s) : ∃ active history,
    RowsShown s.ledger active history ∧ projectedJobs s.ledger.jobs = active ++ history := by
  -- a job that has not ended is one that may still be worked on
  have h_active : s.ledger.jobs.filter (·.state ∉ endedJobStates) =
      s.ledger.jobs.filter (·.state.terminal = false) := by
    congr 1
    funext j
    cases j.state <;> decide
  have h_history : s.ledger.jobs.reverse.filter (·.state ∈ endedJobStates) =
      (s.ledger.jobs.filter (·.state.terminal)).reverse := by
    rw [List.filter_reverse]
    congr 2
    funext j
    cases j.state <;> decide
  -- the open jobs come first, the latest of the others fill what is left
  have h_rows : projectedJobs s.ledger.jobs =
      (s.ledger.jobs.filter (·.state.terminal = false)).take maxQueueProjectionItems ++
        (s.ledger.jobs.filter (·.state.terminal)).reverse.take (maxQueueProjectionItems -
          (s.ledger.jobs.filter (·.state.terminal = false)).length) := by
    unfold projectedJobs
    dsimp only
    rw [h_active, h_history, List.take_append]
  refine ⟨_, _, ⟨List.take_prefix .., List.take_prefix .., ?_, fun h_some => ?_, ?_, ?_⟩, h_rows⟩
  · rw [← h_rows, projectedJobs_length]
  · -- history is shown only if room is left for it
    refine List.take_of_length_le ?_
    by_contra h_full
    rw [Nat.sub_eq_zero_of_le (by omega), List.take_zero] at h_some
    exact h_some rfl
  · exact h.active_ordered.sublist (List.take_sublist ..)
  · exact fun j hj k hk => h.active_oneBlock (List.mem_of_mem_take hj) (List.mem_of_mem_take hk)

theorem queueProjection_items (isPrintable : Char → Bool) :
    (queueProjection isPrintable (some s)).items =
      (projectedJobs s.ledger.jobs).map (projectedItem isPrintable) := rfl

theorem queueProjection_count (isPrintable : Char → Bool) :
    (queueProjection isPrintable (some s)).items.length =
      min maxQueueProjectionItems s.ledger.jobs.length := by
  rw [queueProjection_items, List.length_map, projectedJobs_length]

/-- The rows, their numbers and their names. -/
theorem Readable.queueShown (h : Readable s) (isPrintable : Char → Bool) :
    QueueShown isPrintable s := by
  have h_total : (queueProjection isPrintable (some s)).totalCount = s.ledger.jobs.length := rfl
  have h_projected : (queueProjection isPrintable (some s)).projectedCount =
      (queueProjection isPrintable (some s)).items.length := rfl
  have h_truncated : (queueProjection isPrintable (some s)).truncated =
      decide ((queueProjection isPrintable (some s)).items.length < s.ledger.jobs.length) := rfl
  refine ⟨?_, h_total, ?_, ?_, fun item h_item => ?_⟩
  · obtain ⟨active, history, h_shown, h_rows⟩ := h.rowsShown
    refine ⟨active, history, h_shown, ?_⟩
    rw [queueProjection_items, h_rows]
  · rw [h_projected, queueProjection_count]
  · rw [h_truncated, queueProjection_count, decide_eq_true_iff]
    omega
  · rw [queueProjection_items] at h_item
    obtain ⟨job, -, rfl⟩ := List.mem_map.mp h_item
    dsimp only [projectedItem]
    exact safeAreaName_bounded isPrintable job.areaNameSnapshot

/-- **The queue attribute.** In every state of every run from an empty queue it has at most twenty
rows, is marked truncated exactly if the queue has more, and begins with the jobs that have not
ended: all of one block, in the order of their positions, and none of them is left out for one that
has ended. After them stand the latest of the others. The name on a row is never empty, never longer
than eighty characters, and has no character that cannot be printed, whatever the area is called. -/
theorem queue_attribute {disk : PlannerState} (h_empty : disk.ledger = QueueLedger.empty)
    (h_rooms : disk.planRevision.roomPlans ≠ []) (events : List SystemEvent) (n : ℕ)
    (isPrintable : Char → Bool) :
    ∀ state ∈ (stateAt System.step (System.start disk) events n).states,
      QueueShown isPrintable state :=
  fun state h_state =>
    (System.states_readable h_empty h_rooms events n state h_state).queueShown isPrintable

/-- A start whose key, block and job have a number for a name. -/
def numberedStart (n : ℕ) : StartNextCall :=
  kitchenStart (toString n) (fun k => toString (2 * n + min k 1)) 0

/-- Twenty starts that are cancelled before they are sent, and one that waits. -/
def cancelledStarts : List SystemEvent :=
  .load 0 false true :: (((List.range 20).flatMap fun n =>
    [.startNext (numberedStart n) 0, .saved, .resumed,
      .mutate (.cancelBlock (toString (2 * n)) 0) 0, .saved, .resumed]) ++
    [.startNext (numberedStart 20) 0, .saved] : List Act).map .act

/-- The job that waits stands first, and the oldest of the cancelled ones is left out. -/
theorem queue_attribute_kitchen :
    ∃ state ∈ (stateAt System.step (System.start kitchenState) cancelledStarts 123).states,
      (queueProjection Char.isAlphanum (some state)).items.map (·.status) =
          "pending" :: List.replicate 19 "cancelled" ∧
        (queueProjection Char.isAlphanum (some state)).truncated = true ∧
          QueueShown Char.isAlphanum state := by
  obtain ⟨state, h_state, h_items, h_truncated⟩ :
      ∃ state ∈ (stateAt System.step (System.start kitchenState) cancelledStarts 123).states,
        (queueProjection Char.isAlphanum (some state)).items.map (·.status) =
            "pending" :: List.replicate 19 "cancelled" ∧
          (queueProjection Char.isAlphanum (some state)).truncated = true := by decide +kernel
  exact ⟨state, h_state, h_items, h_truncated,
    queue_attribute rfl (by decide) cancelledStarts 123 _ state h_state⟩

/-! ### The cancel button -/

/-- With the one open block cancelled, none is open. -/
theorem Readable.cancelled_none (h : Readable s) {blockId : String} {now : Instant}
    (h_block : cancelCurrentBlock (some s) = some blockId)
    (h_cancelled : BlockCancelled s s' blockId now) : openBlocks s'.ledger = [] := by
  refine List.eq_nil_iff_forall_not_mem.mpr fun c' hc' => ?_
  obtain ⟨h_mem, h_open⟩ := mem_openBlocks.mp hc'
  rw [h_cancelled.blocks, List.mem_map] at h_mem
  obtain ⟨c, hc, rfl⟩ := h_mem
  by_cases h_c : c.blockId = blockId
  · rw [updateIf_pos (by simpa using h_c)] at h_open
    exact nomatch h_open
  · rw [updateIf_neg (by simpa using h_c)] at h_open
    -- the button names the open block, and there is no other
    have h_c_open : c ∈ openBlocks s.ledger := mem_openBlocks.mpr ⟨hc, h_open⟩
    rw [cancelCurrentBlock_eq] at h_block
    rcases h.openBlocks_cases with h_none | ⟨b, -, -, h_one⟩
    · rw [h_none] at h_c_open
      exact List.not_mem_nil h_c_open
    · rw [h_one] at h_c_open h_block
      obtain ⟨b', h_find, h_id⟩ := Option.map_eq_some_iff.mp h_block
      have h_b' := List.mem_of_find?_eq_some h_find
      rw [List.reverse_singleton, List.mem_singleton] at h_b'
      rw [List.mem_singleton] at h_c_open
      exact h_c (by rw [h_c_open, ← h_b', h_id])

/-- The block that the button names can be cancelled. -/
theorem Readable.button_cancellable (h : Readable s) {blockId : String}
    (h_block : cancelCurrentBlock (some s) = some blockId) : Cancellable s.ledger blockId := by
  obtain ⟨b, h_find, rfl⟩ := Option.map_eq_some_iff.mp h_block
  have hb : b ∈ s.ledger.blocks := List.mem_reverse.mp (List.mem_of_find?_eq_some h_find)
  have h_b : b.state = .sealed := by simpa using List.find?_some h_find
  refine ⟨b, hb, rfl, h_b, h.queue.manned b hb, fun j hj => ?_⟩
  have h_companion := (h.queue.accountable.inStep b hb (by rw [h_b]; rfl)).companions j hj
  rw [h_b] at h_companion
  exact of_decide_eq_true h_companion

/-- What a press of the button leaves. -/
structure ButtonClears (s s' : PlannerState) (blockId : String) (now : Instant) : Prop where
  cancelled : BlockCancelled s s' blockId now
  phase : currentPhase (some s') = "idle"
  pending : pendingCount (some s') = 0
  status : plannerStatus ⟨true, true, some s'⟩ = "idle"
  /-- A second press calls nothing. -/
  again : cancelCurrentBlock (some s') = none

theorem Readable.button_clears (h : Readable s) {blockId : String} {now : Instant}
    (h_block : cancelCurrentBlock (some s) = some blockId)
    (h_planned : ∀ j ∈ s.ledger.jobs, j.blockId = blockId → j.plannedAt ≤ now) :
    ∃ s', (Mutation.cancelBlock blockId now).run s = .ok s' ∧ ButtonClears s s' blockId now := by
  have h_cancel := h.button_cancellable h_block
  obtain ⟨s', h_run⟩ := (cancelPendingBlock_isOk s blockId now).mpr ⟨h_cancel, h_planned⟩
  have h_cancelled := BlockCancelled.of_ok h_cancel h_run
  have h' : Readable s' := h.step ⟨.mutate (.cancelBlock blockId now), trivial, h_run⟩
  have h_none := h.cancelled_none h_block h_cancelled
  have h_phase : currentPhase (some s') = "idle" := by
    rw [currentPhase_eq]
    unfold openState
    rw [h_none]
    rfl
  refine ⟨s', h_run, h_cancelled, h_phase, h'.idle_pending h_phase, ?_, ?_⟩
  · rw [h'.status_phase.1, h_phase]
    rfl
  · rw [cancelCurrentBlock_eq, h_none]
    rfl

/-- **The cancel button is never refused.** In every state of every run from an empty queue in which
the button has a block to name, which is when the phase is `sealed`, the call it makes goes through
as long as the state is still that when the call has its turn, and the clock has not gone back
since the block was planned. The block and its jobs are cancelled unsent, nothing else changes,
and the planner is idle with nothing pending. -/
theorem cancel_button_clears {disk : PlannerState} (h_empty : disk.ledger = QueueLedger.empty)
    (h_rooms : disk.planRevision.roomPlans ≠ []) (events : List SystemEvent) (n : ℕ) :
    ∀ state ∈ (stateAt System.step (System.start disk) events n).states,
      ∀ blockId now, cancelCurrentBlock (some state) = some blockId →
        (∀ j ∈ state.ledger.jobs, j.blockId = blockId → j.plannedAt ≤ now) →
          ∃ cancelled, (Mutation.cancelBlock blockId now).run state = .ok cancelled ∧
            ButtonClears state cancelled blockId now :=
  fun state h_state _ _ h_block h_planned =>
    (System.states_readable h_empty h_rooms events n state h_state).button_clears h_block h_planned

/-- The block on disk after the start, before it is claimed. -/
theorem cancel_button_clears_kitchen :
    ∃ cancelled, (Mutation.cancelBlock "block" 1).run
        (stateAt System.step (System.start kitchenState) completedDispatch 3).disk = .ok cancelled ∧
      ButtonClears (stateAt System.step (System.start kitchenState) completedDispatch 3).disk
        cancelled "block" 1 :=
  cancel_button_clears rfl (by decide) completedDispatch 3 _ List.mem_cons_self "block" 1 (by decide)
    (by decide)

end VacuumPlanner
