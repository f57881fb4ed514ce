import VacuumPlanner.ActionSpecs

/-!
# When the racing commands are admitted

A report of the vacuum and the acceptance of a dispatch come from independent tasks, so
either may reach the coordinator first. The specifications of `ObserverSpecs` and
`ActionSpecs` say what the two commands do when they return normally; here is when they
do, block by block.

A command that rewrites records in place returns normally exactly when every rewritten
record is in order and every block agrees with its jobs (`QueueLedger.exists_rewrite`).
The second part is no condition for a block that is left committed, running or uncertain
(`BlockAgrees.of_state`), so what remains is the chronology of the rewritten records,
stated with `Before`.
-/

namespace VacuumPlanner

open Framework

variable {L L' : QueueLedger} {s s' : PlannerState} {observedAt : Instant}
  {b : QueueBlock} {j : QueueJob}

/-! ### Chronology -/

/-- Two timestamps that are both present are in order. -/
def Before (earlier later : Option Instant) : Prop :=
  ∀ t ∈ earlier, ∀ t' ∈ later, t ≤ t'

instance (earlier later : Option Instant) : Decidable (Before earlier later) :=
  inferInstanceAs (Decidable (∀ t ∈ earlier, ∀ t' ∈ later, t ≤ t'))

theorem before_none (earlier : Option Instant) : Before earlier none := nofun

theorem before_some {t t' : Instant} : Before (some t) (some t') ↔ t ≤ t' := by
  simp [Before]

/-- Being in order passes through a timestamp that is present. -/
theorem Before.trans_some {x y z : Option Instant} (h : Before x y) (h_y : y ≠ none)
    (h' : Before y z) : Before x z := by
  obtain ⟨t, h_t⟩ := Option.ne_none_iff_exists'.mp h_y
  intro t₁ h₁ t₂ h₂
  exact (h t₁ h₁ t h_t).trans (h' t h_t t₂ h₂)

/-- The chronology of a record with a first timestamp and three optional ones. -/
theorem chronological_four {x : Instant} {y z w : Option Instant} :
    Chronological [some x, y, z, w] ↔ Before (some x) y ∧ Before (some x) z ∧
      Before (some x) w ∧ Before y z ∧ Before y w ∧ Before z w := by
  unfold Chronological Before
  cases y <;> cases z <;> cases w <;> simp [and_assoc]

/-- The timestamps a ledger holds. -/
def QueueLedger.timestamps (L : QueueLedger) : List Instant :=
  (L.blocks.flatMap (fun b => [some b.createdAt, b.sealedAt, b.committedAt, b.completedAt]) ++
    L.jobs.flatMap (fun j => [some j.plannedAt, j.sentAt, j.startedAt, j.finishedAt]) ++
    [L.lastReconciledAt]).filterMap id

/-- `now` is not earlier than any timestamp of the ledger. -/
def QueueLedger.NotBefore (L : QueueLedger) (now : Instant) : Prop :=
  ∀ t ∈ L.timestamps, t ≤ now

theorem QueueLedger.NotBefore.block {now : Instant} (h : L.NotBefore now) (hb : b ∈ L.blocks)
    {x : Option Instant}
    (hx : x ∈ [some b.createdAt, b.sealedAt, b.committedAt, b.completedAt]) :
    Before x (some now) := by
  rintro t h_t t' ⟨⟩
  have h_mem : x ∈ L.blocks.flatMap
      (fun b => [some b.createdAt, b.sealedAt, b.committedAt, b.completedAt]) :=
    List.mem_flatMap.mpr ⟨b, hb, hx⟩
  refine h t (List.mem_filterMap.mpr ⟨x, ?_, h_t⟩)
  exact List.mem_append_left _ (List.mem_append_left _ h_mem)

theorem QueueLedger.NotBefore.job {now : Instant} (h : L.NotBefore now) (hj : j ∈ L.jobs)
    {x : Option Instant}
    (hx : x ∈ [some j.plannedAt, j.sentAt, j.startedAt, j.finishedAt]) :
    Before x (some now) := by
  rintro t h_t t' ⟨⟩
  have h_mem : x ∈ L.jobs.flatMap
      (fun j => [some j.plannedAt, j.sentAt, j.startedAt, j.finishedAt]) :=
    List.mem_flatMap.mpr ⟨j, hj, hx⟩
  refine h t (List.mem_filterMap.mpr ⟨x, ?_, h_t⟩)
  exact List.mem_append_left _ (List.mem_append_right _ h_mem)

/-! ### Rewriting in place -/

/-- A ledger with rewritten records exists exactly when the records are in order and the
blocks agree with their jobs. -/
theorem QueueLedger.exists_rewrite (L : QueueLedger) {fields : LedgerFields}
    {f : QueueBlock → QueueBlock} {g : QueueJob → QueueJob}
    (hf : ∀ b, (f b).identity = b.identity) (hg : ∀ j, (g j).identity = j.identity)
    (h_schema : fields.schemaVersion = L.schemaVersion)
    (h_active : fields.activeBlockId = L.activeBlockId)
    (h_rev : fields.revision = L.revision + 1)
    (h_blocks : fields.blocks = L.blocks.map f) (h_jobs : fields.jobs = L.jobs.map g) :
    (∃ L' : QueueLedger, L'.toLedgerFields = fields) ↔
      (∀ b ∈ L.blocks, BlockLifecycle (f b)) ∧ (∀ j ∈ L.jobs, JobLifecycle (g j)) ∧
        ∀ b ∈ L.blocks, BlockAgrees (f b) ((jobsOf L.jobs b).map g) := by
  have h_ok : (∃ L' : QueueLedger, L'.toLedgerFields = fields) ↔ fields.Valid := by
    rw [← LedgerFields.construct_isOk]
    exact exists_congr fun L' => LedgerFields.construct_eq_ok.symm
  rw [h_ok, L.valid.rewrite hf hg h_schema h_active (by rw [h_rev]; omega) h_blocks h_jobs]
  refine and_congr ?_ (and_congr ?_ Iff.rfl)
  · exact forall₂_congr fun b hb =>
      QueueBlock.postInit_of_identity (L.valid.blockChecks b hb) (hf b)
  · exact forall₂_congr fun j hj =>
      QueueJob.postInit_of_identity (L.valid.jobChecks j hj) (hg j)

/-- A block that is committed, running or uncertain agrees with any jobs. -/
theorem BlockAgrees.of_state {children : List QueueJob}
    (h : b.state ∈ [BlockState.committed, .running, .uncertain]) : BlockAgrees b children := by
  have h_none : incompatibleStates b = [] := by
    refine incompatibleStates_of_late ?_
    revert h
    cases b.state <;> decide
  refine ⟨fun j _ => by rw [h_none]; exact List.not_mem_nil, ?_, ?_⟩
  · unfold validateTerminalBlockResult
    revert h
    cases b.state <;> simp [raiseIf, seq_eq_ok]
  · revert h
    cases b.state <;> simp [BlockState.terminal]

/-- A failed block agrees with jobs that have ended, one of them by failing. -/
theorem BlockAgrees.of_failed {children : List QueueJob} (h : b.state = .failed)
    (h_ended : ∀ j ∈ children, j.state.terminal = true)
    (h_failed : ∃ j ∈ children, j.state = .failed) : BlockAgrees b children := by
  have h_none : incompatibleStates b = [] := incompatibleStates_of_late (by rw [h]; decide)
  refine ⟨fun j _ => by rw [h_none]; exact List.not_mem_nil, ?_, fun _ => h_ended⟩
  have h_mem : JobState.failed ∈ (children.map (·.state)).toFinset := by
    rw [List.mem_toFinset, List.mem_map]
    exact h_failed
  unfold validateTerminalBlockResult
  rw [h]
  simp only [seq_eq_ok, raiseIf_eq_ok]
  exact ⟨nofun, nofun, fun h_none => h_none.2.2 h_mem⟩

/-- A block that is not rewritten, with none of its jobs rewritten, agrees as before. -/
theorem BlockAgrees.untouched {f : QueueBlock → QueueBlock} {g : QueueJob → QueueJob}
    (hb : b ∈ L.blocks) (hf : f b = b) (hg : ∀ j ∈ jobsOf L.jobs b, g j = j) :
    BlockAgrees (f b) ((jobsOf L.jobs b).map g) := by
  rw [hf, (List.map_congr_left hg).trans (List.map_id _)]
  exact L.valid.agreesWith hb

/-- A bulk rewrite, which selects a job only together with its block: what was not
selected needs no check. -/
theorem QueueLedger.exists_bulk (L : QueueLedger) {fields : LedgerFields}
    {p : QueueBlock → Bool} {q : QueueJob → Bool} {f : QueueBlock → QueueBlock}
    {g : QueueJob → QueueJob} (hf : ∀ b, (f b).identity = b.identity)
    (hg : ∀ j, (g j).identity = j.identity)
    (h_sel : ∀ b ∈ L.blocks, ¬ p b = true → ∀ j ∈ jobsOf L.jobs b, ¬ q j = true)
    (h_schema : fields.schemaVersion = L.schemaVersion)
    (h_active : fields.activeBlockId = L.activeBlockId)
    (h_rev : fields.revision = L.revision + 1)
    (h_blocks : fields.blocks = L.blocks.map (updateIf p f))
    (h_jobs : fields.jobs = L.jobs.map (updateIf q g)) :
    (∃ L' : QueueLedger, L'.toLedgerFields = fields) ↔
      (∀ b ∈ L.blocks, p b = true → BlockLifecycle (f b)) ∧
        (∀ j ∈ L.jobs, q j = true → JobLifecycle (g j)) ∧
        ∀ b ∈ L.blocks, p b = true →
          BlockAgrees (f b) ((jobsOf L.jobs b).map (updateIf q g)) := by
  -- each check is asked of a selected record, and the ledger has made it of the others
  rw [L.exists_rewrite (QueueBlock.identity_updateIf hf) (QueueJob.identity_updateIf hg) h_schema
    h_active h_rev h_blocks h_jobs]
  refine and_congr (forall₂_congr fun b hb => ?_) (and_congr (forall₂_congr fun j hj => ?_)
    (forall₂_congr fun b hb => ?_))
  · by_cases h_b : p b = true
    · rw [updateIf_pos h_b]
      exact ⟨fun h _ => h, fun h => h h_b⟩
    · rw [updateIf_neg h_b]
      exact iff_of_true (L.blockLifecycle hb) fun h => absurd h h_b
  · by_cases h_j : q j = true
    · rw [updateIf_pos h_j]
      exact ⟨fun h _ => h, fun h => h h_j⟩
    · rw [updateIf_neg h_j]
      exact iff_of_true (L.jobLifecycle hj) fun h => absurd h h_j
  · by_cases h_b : p b = true
    · rw [updateIf_pos h_b]
      exact ⟨fun h _ => h, fun h => h h_b⟩
    -- under a block that is not selected no job is either
    · refine iff_of_true (BlockAgrees.untouched hb (updateIf_neg h_b) fun j hj => ?_)
        fun h => absurd h h_b
      exact updateIf_neg (h_sel b hb h_b j hj)

/-- The checks of a sweep over the blocks are those of their new lifecycles. -/
theorem QueueLedger.blockChecks_iff {p : QueueBlock → Bool} {f : QueueBlock → QueueBlock}
    (hf : ∀ b, (f b).identity = b.identity) :
    (∀ b ∈ L.blocks, p b = true → (f b).postInit = .ok ()) ↔
      ∀ b ∈ L.blocks, p b = true → BlockLifecycle (f b) :=
  forall₂_congr fun b hb => imp_congr_right fun _ =>
    QueueBlock.postInit_of_identity (L.valid.blockChecks b hb) (hf b)

/-- The checks of a sweep over the jobs are those of their new lifecycles. -/
theorem QueueLedger.jobChecks_iff {q : QueueJob → Bool} {g : QueueJob → QueueJob}
    (hg : ∀ j, (g j).identity = j.identity) :
    (∀ j ∈ L.jobs, q j = true → (g j).postInit = .ok ()) ↔
      ∀ j ∈ L.jobs, q j = true → JobLifecycle (g j) :=
  forall₂_congr fun j hj => imp_congr_right fun _ =>
    QueueJob.postInit_of_identity (L.valid.jobChecks j hj) (hg j)

/-- A planner state keeps its lane when the blocks keep theirs. -/
theorem PlannerState.exists_construct {f : QueueBlock → QueueBlock}
    (h : L.blocks = s.ledger.blocks.map f) (hf : ∀ b, (f b).identity = b.identity) :
    ∃ s', PlannerState.construct s.planRevision L = .ok s' := by
  have h_lane : ∀ room ∈ s.planRevision.roomPlans.head?, ∀ b ∈ L.blocks,
      b.laneId = room.laneId := by
    intro room h_room b hb
    rw [h] at hb
    obtain ⟨b₀, hb₀, rfl⟩ := List.mem_map.mp hb
    rw [laneId_of_identity (hf b₀)]
    exact s.lane room h_room b₀ hb₀
  exact ⟨⟨s.planRevision, L, h_lane⟩, PlannerState.construct_eq_ok.mpr ⟨rfl, rfl⟩⟩

/-! ### Guarded transitions -/

/-- The timestamps a started or accepted job needs. -/
theorem JobLifecycle.changedJob_iff {newState : JobState} {changedAt : Instant}
    (h : JobLifecycle j) (h_new : newState ∈ [JobState.accepted, .running])
    (h_move : newState ∈ jobTransitions j.state) :
    JobLifecycle (QueueLedger.changedJob newState changedAt none none none j) ↔
      (newState = .running → Before j.sentAt (some changedAt)) := by
  -- only a job that has been sent may be accepted or start
  have h_dispatched : j.state ∈ [JobState.dispatching, .accepted] := by
    revert h_new h_move
    cases newState <;> cases j.state <;> decide
  obtain ⟨h_attempt, h_sent⟩ := h.dispatched (by
    revert h_dispatched; cases j.state <;> decide)
  have h_unfinished : j.finishedAt = none := h.unfinished (by
    revert h_dispatched; cases j.state <;> decide)
  obtain ⟨h_planned, -, -, -, -, -⟩ := chronological_four.mp h.chronological
  rcases List.mem_cons.mp h_new with rfl | h_running
  · -- an acceptance leaves the timestamps alone
    refine iff_of_true ?_ nofun
    exact ⟨h.attempt, nofun, fun _ => ⟨h_attempt, h_sent⟩, nofun, nofun, fun _ => h_unfinished,
      nofun, h.chronological⟩
  -- a start adds a timestamp, which has to come after that of the sending
  · obtain rfl := List.mem_singleton.mp h_running
    constructor
    · intro h' _
      obtain ⟨-, -, -, h_started, -⟩ := chronological_four.mp h'.chronological
      exact h_started
    · intro h_started
      refine ⟨h.attempt, nofun, fun _ => ⟨h_attempt, h_sent⟩, nofun, nofun,
        fun _ => h_unfinished, nofun, chronological_four.mpr ?_⟩
      change Before _ j.sentAt ∧ _ ∧ Before _ j.finishedAt ∧ _ ∧ Before _ j.finishedAt ∧
        Before _ j.finishedAt
      rw [h_unfinished]
      exact ⟨h_planned, h_planned.trans_some h_sent (h_started rfl), before_none _,
        h_started rfl, before_none _, before_none _⟩

/-- A transition of a job under a block that admits transitions, other than a dispatch,
returns normally when the changed job is in order and the block agrees with it. -/
theorem QueueLedger.exists_jobTransition (newState : JobState) (changedAt : Instant)
    (h_new : newState ≠ .dispatching) (hj : j ∈ L.jobs) (hb : b ∈ L.blocks)
    (h_parent : j.blockId = b.blockId) (h_open : b.state.terminal = false)
    (h_certain : b.state ≠ .uncertain) (h_move : newState ∈ jobTransitions j.state)
    (h_confirm : newState = .cancelled → j.state ∉ [JobState.accepted, .running])
    (h_lifecycle : JobLifecycle (changedJob newState changedAt none none none j))
    (h_agrees : BlockAgrees b ((jobsOf L.jobs b).map (updateIf (·.jobId = j.jobId)
      (changedJob newState changedAt none none none)))) :
    ∃ L', L.replaceJobState j.jobId newState changedAt false none none none = .ok L' := by
  have h_check := (QueueJob.postInit_of_identity (L.valid.jobChecks j hj)
    (changedJob_identity newState changedAt none none none j)).mpr h_lifecycle
  -- of the ledger checks, only those of the job and of its block see the change
  have h_exists : ∃ L' : QueueLedger, L'.toLedgerFields = { L.toLedgerFields with
      revision := L.revision + 1
      jobs := L.jobs.map (updateIf (·.jobId = j.jobId)
        (changedJob newState changedAt none none none)) } := by
    refine Iff.mpr (L.exists_rewrite (f := id) (g := updateIf (·.jobId = j.jobId)
      (changedJob newState changedAt none none none)) (fun _ => rfl)
      (QueueJob.identity_updateIf (changedJob_identity newState changedAt none none none)) rfl
      rfl rfl (List.map_id _).symm rfl)
      ⟨fun b hb => L.blockLifecycle hb, fun j' hj' => ?_, fun b' hb' => ?_⟩
    · by_cases h_id : j'.jobId = j.jobId
      · rw [eq_of_key L.valid.jobIds hj' hj h_id, updateIf_pos (by simp)]
        exact h_lifecycle
      · rw [updateIf_neg (by simpa using h_id)]
        exact L.jobLifecycle hj'
    · by_cases h_id : b'.blockId = b.blockId
      · rw [L.block_eq hb' hb h_id]
        exact h_agrees
      · refine BlockAgrees.untouched hb' rfl fun k hk => updateIf_neg fun h_k => h_id ?_
        obtain ⟨h_mem, h_k'⟩ := mem_jobsOf.mp hk
        rw [← h_k', eq_of_key L.valid.jobIds h_mem hj (of_decide_eq_true h_k), h_parent]
  obtain ⟨L', h_L'⟩ := h_exists
  refine ⟨L', replaceJobState_eq_ok.mpr ⟨j, hj, rfl, b, hb, h_parent.symm, h_open, h_certain,
    fun h_dispatch => absurd h_dispatch h_new, h_move, ?_, h_check, h_L'⟩⟩
  -- the confirmation is asked for a cancellation of active work alone
  rintro ⟨h_cancel, h_active, -⟩
  exact h_confirm h_cancel h_active

/-- Under a committed or running block, which agrees with any jobs, the order of the changed
job is all there is to it. -/
theorem QueueLedger.exists_replaceJobState (newState : JobState) (changedAt : Instant)
    (h_new : newState ∉ [JobState.dispatching, .cancelled]) (hj : j ∈ L.jobs)
    (hb : b ∈ L.blocks) (h_parent : j.blockId = b.blockId)
    (h_b : b.state ∈ [BlockState.committed, .running])
    (h_move : newState ∈ jobTransitions j.state)
    (h_lifecycle : JobLifecycle (changedJob newState changedAt none none none j)) :
    ∃ L', L.replaceJobState j.jobId newState changedAt false none none none = .ok L' := by
  obtain ⟨h_open, h_certain⟩ : b.state.terminal = false ∧ b.state ≠ .uncertain := by
    revert h_b
    cases b.state <;> decide
  refine L.exists_jobTransition newState changedAt ?_ hj hb h_parent h_open h_certain h_move ?_
    h_lifecycle (BlockAgrees.of_state (by revert h_b; cases b.state <;> decide))
  · rintro rfl
    exact absurd (by decide) h_new
  · rintro rfl
    exact absurd (by decide) h_new

/-- A job under a committed or running block is accepted or started when its move is on
the table and its timestamps allow it. -/
theorem QueueLedger.replaceJobState_isOk {newState : JobState} (changedAt : Instant)
    (h_new : newState ∈ [JobState.accepted, .running]) (hj : j ∈ L.jobs) (hb : b ∈ L.blocks)
    (h_parent : j.blockId = b.blockId) (h_b : b.state ∈ [BlockState.committed, .running])
    (h_move : newState ∈ jobTransitions j.state) :
    (∃ L', L.replaceJobState j.jobId newState changedAt false none none none = .ok L') ↔
      (newState = .running → Before j.sentAt (some changedAt)) := by
  rw [← (L.jobLifecycle hj).changedJob_iff h_new h_move]
  constructor
  · rintro ⟨L', h⟩
    obtain ⟨j', hj', h_id, -, -, -, -, -, -, -, -, h_check, -⟩ := replaceJobState_eq_ok.mp h
    obtain rfl := eq_of_key L.valid.jobIds hj' hj h_id
    exact (QueueJob.postInit_eq_ok.mp h_check).2
  · refine L.exists_replaceJobState newState changedAt ?_ hj hb h_parent h_b h_move
    revert h_new
    cases newState <;> decide

/-- A transition of a job leaves the blocks and the other jobs. -/
theorem QueueLedger.replaceJobState_others {jobId : String} {newState : JobState}
    {changedAt : Instant}
    (h : L.replaceJobState jobId newState changedAt false none none none = .ok L') :
    L'.blocks = L.blocks ∧ ∀ k : QueueJob, k.jobId ≠ jobId → (k ∈ L'.jobs ↔ k ∈ L.jobs) := by
  obtain ⟨-, -, -, -, -, -, -, -, -, -, -, -, h_L'⟩ := replaceJobState_eq_ok.mp h
  refine ⟨(congrArg LedgerFields.blocks h_L' :), fun k h_ne => ?_⟩
  rw [(congrArg LedgerFields.jobs h_L' : L'.jobs = _), List.mem_map]
  constructor
  · rintro ⟨k₀, hk₀, rfl⟩
    rw [jobId_of_identity (QueueJob.identity_updateIf
      (changedJob_identity newState changedAt none none none) k₀)] at h_ne
    rw [updateIf_neg (by simpa using h_ne)]
    exact hk₀
  · exact fun h_k => ⟨k, h_k, updateIf_neg (by simpa using h_ne)⟩

/-- **The loop of transitions** of some jobs of a block goes through when each transition
does, which may be asked of the jobs as they are before the loop: a transition leaves the
others, and no job has two. `P` is what a transition needs of its job to be decided by `Q`. -/
theorem moveJobs_isOk_of {newState : JobState} {changedAt : Instant} {P Q : QueueJob → Prop}
    (h_step : ∀ (L : QueueLedger) (j : QueueJob), b ∈ L.blocks → j ∈ L.jobs →
      j.blockId = b.blockId → P j →
      ((∃ L', L.replaceJobState j.jobId newState changedAt false none none none = .ok L') ↔
        Q j))
    {jobs : List QueueJob} (hb : b ∈ L.blocks) (h_nodup : (jobs.map (·.jobId)).Nodup)
    (h_own : ∀ job ∈ jobs, ∃ j ∈ L.jobs, j.jobId = job.jobId ∧ j.blockId = b.blockId ∧ P j) :
    (∃ L', moveJobs newState changedAt L jobs = .ok L') ↔
      ∀ j ∈ L.jobs, j.jobId ∈ jobs.map (·.jobId) → Q j := by
  induction jobs generalizing L with
  | nil =>
    exact iff_of_true ⟨L, rfl⟩ fun j _ h => absurd h List.not_mem_nil
  | cons job rest ih =>
    obtain ⟨h_notin, h_rest⟩ := List.nodup_cons.mp h_nodup
    obtain ⟨j, hj, h_id, h_parent, h_ready⟩ := h_own job List.mem_cons_self
    have h_first := h_step L j hb hj h_parent h_ready
    rw [h_id] at h_first
    -- the move leaves the jobs of the rest alone
    have h_ne : ∀ k : QueueJob, k.jobId ∈ rest.map (·.jobId) → k.jobId ≠ job.jobId := by
      intro k hk h_k
      rw [h_k] at hk
      exact h_notin hk
    -- the jobs still to move are as they were
    have h_tail : ∀ L₁ : QueueLedger,
        L.replaceJobState job.jobId newState changedAt false none none none = .ok L₁ →
          ((∃ L', moveJobs newState changedAt L₁ rest = .ok L') ↔
            ∀ k ∈ L.jobs, k.jobId ∈ rest.map (·.jobId) → Q k) := by
      intro L₁ h₁
      obtain ⟨h_blocks, h_jobs⟩ := QueueLedger.replaceJobState_others h₁
      rw [ih (h_blocks ▸ hb) h_rest fun job' h_job' => ?_]
      · refine forall_congr' fun k => ?_
        constructor
        · exact fun h hk h_in => h ((h_jobs k (h_ne k h_in)).mpr hk) h_in
        · exact fun h hk h_in => h ((h_jobs k (h_ne k h_in)).mp hk) h_in
      · obtain ⟨k, hk, h_k, h_own_k⟩ := h_own job' (List.mem_cons_of_mem _ h_job')
        have h_in : k.jobId ∈ rest.map (·.jobId) := h_k ▸ List.mem_map_of_mem h_job'
        exact ⟨k, (h_jobs k (h_ne k h_in)).mpr hk, h_k, h_own_k⟩
    constructor
    -- the first job is moved, then the rest
    · rintro ⟨L', h⟩ k hk h_in
      unfold moveJobs at h
      rw [List.foldlM_cons] at h
      obtain ⟨L₁, h₁, h_moved⟩ := bind_eq_ok.mp h
      rcases List.mem_cons.mp h_in with h_k | h_k
      · rw [eq_of_key L.valid.jobIds hk hj (h_k.trans h_id.symm)]
        exact h_first.mp ⟨L₁, h₁⟩
      · exact (h_tail L₁ h₁).mp ⟨L', h_moved⟩ k hk h_k
    · intro h
      obtain ⟨L₁, h₁⟩ := h_first.mpr (h j hj (h_id ▸ List.mem_cons_self))
      obtain ⟨L', h_moved⟩ := (h_tail L₁ h₁).mpr fun k hk h_k =>
        h k hk (List.mem_cons_of_mem _ h_k)
      refine ⟨L', ?_⟩
      unfold moveJobs
      rw [List.foldlM_cons]
      exact bind_eq_ok.mpr ⟨L₁, h₁, h_moved⟩

/-- Under a committed or running block the loop goes through when the timestamps of every
listed job allow it. -/
theorem moveJobs_isOk {newState : JobState} (changedAt : Instant) {jobs : List QueueJob}
    (h_new : newState ∈ [JobState.accepted, .running]) (hb : b ∈ L.blocks)
    (h_b : b.state ∈ [BlockState.committed, .running])
    (h_nodup : (jobs.map (·.jobId)).Nodup)
    (h_own : ∀ job ∈ jobs, ∃ j ∈ L.jobs, j.jobId = job.jobId ∧ j.blockId = b.blockId ∧
      newState ∈ jobTransitions j.state) :
    (∃ L', moveJobs newState changedAt L jobs = .ok L') ↔
      (newState = .running → ∀ j ∈ L.jobs, j.jobId ∈ jobs.map (·.jobId) →
        Before j.sentAt (some changedAt)) := by
  rw [moveJobs_isOk_of (P := fun j => newState ∈ jobTransitions j.state)
    (Q := fun j => newState = .running → Before j.sentAt (some changedAt))
    (fun _ _ hb hj h_parent => QueueLedger.replaceJobState_isOk changedAt h_new hj hb h_parent h_b)
    hb h_nodup h_own]
  exact ⟨fun h h_running j hj h_in => h j hj h_in h_running,
    fun h j hj h_in h_running => h h_running j hj h_in⟩

/-- A transition of a block returns normally when the changed block is in order and agrees
with its jobs. -/
theorem QueueLedger.exists_replaceBlockState (newState : BlockState) (changedAt : Instant)
    (hb : b ∈ L.blocks) (h_move : newState ∈ blockTransitions b.state)
    (h_lifecycle : BlockLifecycle (changedBlock newState changedAt none b))
    (h_agrees : BlockAgrees (changedBlock newState changedAt none b) (jobsOf L.jobs b)) :
    ∃ L', L.replaceBlockState b.blockId newState changedAt none = .ok L' := by
  have h_check := (QueueBlock.postInit_of_identity (L.valid.blockChecks b hb)
    (changedBlock_identity newState changedAt none b)).mpr h_lifecycle
  have h_exists : ∃ L' : QueueLedger, L'.toLedgerFields = { L.toLedgerFields with
      revision := L.revision + 1
      blocks := L.blocks.map (updateIf (·.blockId = b.blockId)
        (changedBlock newState changedAt none)) } := by
    refine Iff.mpr (L.exists_rewrite (f := updateIf (·.blockId = b.blockId)
      (changedBlock newState changedAt none)) (g := id)
      (QueueBlock.identity_updateIf (changedBlock_identity newState changedAt none))
      (fun _ => rfl) rfl rfl rfl rfl (List.map_id _).symm)
      ⟨fun b' hb' => ?_, fun j hj => L.jobLifecycle hj, fun b' hb' => ?_⟩
    · -- the lifecycle is checked of the changed block, and agreement with its jobs too
      by_cases h_id : b'.blockId = b.blockId
      · rw [L.block_eq hb' hb h_id, updateIf_pos (by simp)]
        exact h_lifecycle
      · rw [updateIf_neg (by simpa using h_id)]
        exact L.blockLifecycle hb'
    · by_cases h_id : b'.blockId = b.blockId
      · rw [L.block_eq hb' hb h_id, updateIf_pos (by simp), List.map_id]
        exact h_agrees
      · exact BlockAgrees.untouched hb' (updateIf_neg (by simpa using h_id)) fun _ _ => rfl
  obtain ⟨L', h_L'⟩ := h_exists
  -- what the command asks of the jobs is part of the agreement
  refine ⟨L', replaceBlockState_eq_ok.mpr ⟨by simp, b, hb, rfl, h_move, ?_, ?_, h_check, h_L'⟩⟩
  · have h_result := h_agrees.result
    rwa [changedBlock_state] at h_result
  · have h_settled := h_agrees.settled
    rwa [changedBlock_state] at h_settled

/-- A block is committed or started when the move is on the table and its timestamps
allow it. -/
theorem QueueLedger.replaceBlockState_isOk {newState : BlockState} (changedAt : Instant)
    (h_new : newState ∈ [BlockState.committed, .running]) (hb : b ∈ L.blocks)
    (h_move : newState ∈ blockTransitions b.state) :
    (∃ L', L.replaceBlockState b.blockId newState changedAt none = .ok L') ↔
      BlockLifecycle (changedBlock newState changedAt none b) := by
  constructor
  · rintro ⟨L', h⟩
    obtain ⟨-, b', hb', h_id, -, -, -, h_check, -⟩ := replaceBlockState_eq_ok.mp h
    obtain rfl := L.block_eq hb' hb h_id
    exact (QueueBlock.postInit_eq_ok.mp h_check).2
  · intro h_lifecycle
    refine L.exists_replaceBlockState newState changedAt hb h_move h_lifecycle
      (BlockAgrees.of_state ?_)
    rw [changedBlock_state]
    revert h_new
    cases newState <;> decide

/-! ### The acceptance -/

/-- A native batch with the vacuum: committing, every job of it dispatching. -/
structure DispatchedBatch (L : QueueLedger) (b : QueueBlock) : Prop where
  mem : b ∈ L.blocks
  strategy : b.dispatchStrategy = .nativeBatch
  state : b.state = .committing
  jobs : ∀ j ∈ jobsOf L.jobs b, j.state = .dispatching

/-- The acceptance at `acceptedAt` fits into the lifecycle of the block. -/
def AcceptanceAdmitted (b : QueueBlock) (acceptedAt : Instant) : Prop :=
  Before b.sealedAt (some acceptedAt) ∧ Before (some acceptedAt) b.completedAt

theorem BlockLifecycle.sealedAt_ne_none (h : BlockLifecycle b) (h_late : b.state.early = false) :
    b.sealedAt ≠ none := by
  refine h.isSealed ?_
  revert h_late
  cases b.state <;> decide

/-- A block takes a commit timestamp that fits between its sealing and its completion. -/
theorem BlockLifecycle.commit_iff {newState : BlockState} {committedAt : Instant}
    {runId : Option String} (h : BlockLifecycle b) (h_late : b.state.early = false)
    (h_new : newState ∈ [BlockState.committed, .running]) :
    BlockLifecycle { b with
        state := newState, committedAt := some committedAt, adapterRunId := runId } ↔
      AcceptanceAdmitted b committedAt := by
  obtain ⟨h_sealed, -, h_completed, -, h_end, -⟩ := chronological_four.mp h.chronological
  have h_sealedAt := h.sealedAt_ne_none h_late
  constructor
  · intro h'
    obtain ⟨-, -, -, h_commit, -, h_close⟩ := chronological_four.mp h'.chronological
    exact ⟨h_commit, h_close⟩
  · rintro ⟨h_commit, h_close⟩
    refine ⟨chronological_four.mpr ⟨h_sealed, h_sealed.trans_some h_sealedAt h_commit,
      h_completed, h_commit, h_end, h_close⟩, fun _ => h_sealedAt, nofun, ?_⟩
    rintro rfl
    exact absurd h_new (by decide)

/-- **The acceptance of a dispatched batch** is admitted exactly when it fits into the
lifecycle of the block. -/
theorem recordDispatchAcceptance_isOk {acceptedAt : Instant} {jobs : List QueueJob}
    (h : DispatchedBatch s.ledger b) (h_ids : jobs.map (·.jobId) = b.jobIds) :
    (∃ s', recordDispatchAcceptance s b.blockId jobs acceptedAt = .ok s') ↔
      AcceptanceAdmitted b acceptedAt := by
  have h_lifecycle : BlockLifecycle (QueueLedger.changedBlock .committed acceptedAt none b) ↔
      AcceptanceAdmitted b acceptedAt :=
    (s.ledger.blockLifecycle h.mem).commit_iff (by rw [h.state]; rfl) (by decide)
  have h_block := QueueLedger.replaceBlockState_isOk acceptedAt
    (by decide : BlockState.committed ∈ [BlockState.committed, .running]) h.mem
    (by rw [h.state]; decide)
  rw [← h_lifecycle]
  -- once the block is committed, its jobs follow without another condition
  refine Iff.trans ?_ h_block
  have h_find := QueueLedger.find_block.mpr ⟨h.mem, rfl⟩
  -- the block is committing, so no observation has settled it
  have h_unsettled : b.state ∉ settledByObservation := by
    rw [h.state]
    decide
  unfold recordDispatchAcceptance
  rw [h_find]
  change (∃ s', (if b.state ∈ settledByObservation then _ else _) = _) ↔ _
  rw [if_neg h_unsettled]
  constructor
  · rintro ⟨s', h_run⟩
    obtain ⟨L₁, h₁, -⟩ := bind_eq_ok.mp h_run
    exact ⟨L₁, h₁⟩
  · rintro ⟨L₁, h₁⟩
    obtain ⟨-, b', hb', h_id, -, -, -, -, h_L₁⟩ := QueueLedger.replaceBlockState_eq_ok.mp h₁
    obtain rfl := QueueLedger.block_eq hb' h.mem h_id
    have h_jobs₁ : L₁.jobs = s.ledger.jobs := (congrArg LedgerFields.jobs h_L₁ :)
    have h_blocks₁ : L₁.blocks = s.ledger.blocks.map (updateIf (·.blockId = b'.blockId)
      (QueueLedger.changedBlock .committed acceptedAt none)) := congrArg LedgerFields.blocks h_L₁
    have h_committed : QueueLedger.changedBlock .committed acceptedAt none b' ∈ L₁.blocks := by
      rw [h_blocks₁, List.mem_map]
      exact ⟨b', h.mem, updateIf_pos (by simp)⟩
    -- every listed job is a dispatching job of the block
    have h_own : ∀ job ∈ jobs, ∃ j ∈ L₁.jobs, j.jobId = job.jobId ∧
        j.blockId = (QueueLedger.changedBlock .committed acceptedAt none b').blockId ∧
          JobState.accepted ∈ jobTransitions j.state := by
      intro job h_job
      have h_listed : job.jobId ∈ b'.jobIds := h_ids ▸ List.mem_map_of_mem h_job
      obtain ⟨j, hj, h_j⟩ := List.mem_map.mp ((s.ledger.valid.owns b' h.mem).known _ h_listed)
      have h_parent := (QueueLedger.mem_jobIds h.mem hj).mp (h_j.symm ▸ h_listed)
      refine ⟨j, h_jobs₁ ▸ hj, h_j, ?_, ?_⟩
      · rw [blockId_of_identity (QueueLedger.changedBlock_identity ..)]
        exact h_parent
      · rw [h.jobs j (mem_jobsOf.mpr ⟨hj, h_parent⟩)]
        decide
    -- the ids of a block are distinct, so no job is moved twice
    have h_nodup : (jobs.map (·.jobId)).Nodup := by
      rw [h_ids]
      exact (QueueBlock.postInit_eq_ok.mp (s.ledger.valid.blockChecks b' h.mem)).1.2.2.2.2.1
    obtain ⟨L₂, h₂⟩ := (moveJobs_isOk acceptedAt (by decide) h_committed
      (by rw [QueueLedger.changedBlock_state]; decide) h_nodup h_own).mpr nofun
    obtain ⟨h_blocks₂, -⟩ := moveJobs_ok h₂
    obtain ⟨s', h'⟩ := PlannerState.exists_construct (h_blocks₂.trans h_blocks₁)
      (QueueBlock.identity_updateIf (QueueLedger.changedBlock_identity .committed acceptedAt none))
    exact ⟨s', bind_eq_ok.mpr ⟨L₁, h₁, bind_eq_ok.mpr ⟨L₂, h₂, h'⟩⟩⟩

/-! ### Reports, block by block -/

/-- The block and its jobs are a dispatch a report at `observedAt` can be about. -/
def Dispatching (observedAt : Instant) (b : QueueBlock) (children : List QueueJob) : Prop :=
  b.state = .committing ∧
    ∃ j ∈ children, j.state = .dispatching ∧ ∃ sentAt ∈ j.sentAt, sentAt ≤ observedAt

/-- A failed or uncertain report at `observedAt` affects the block. -/
def Affected (observedAt : Instant) (b : QueueBlock) (children : List QueueJob) : Prop :=
  (∃ j ∈ children, j.state ∈ [JobState.accepted, .running]) ∨ Dispatching observedAt b children

theorem dispatching_iff (hb : b ∈ L.blocks) : b.blockId ∈ dispatchingBlockIds L observedAt ↔
    Dispatching observedAt b (jobsOf L.jobs b) := by
  rw [mem_dispatchingBlockIds]
  constructor
  · rintro ⟨j, hj, h_parent, h_j, h_sent, b', hb', h_id, h_b⟩
    obtain rfl := L.block_eq hb' hb h_id
    exact ⟨h_b, j, mem_jobsOf.mpr ⟨hj, h_parent⟩, h_j, h_sent⟩
  · rintro ⟨h_b, j, hj, h_j, h_sent⟩
    obtain ⟨h_mem, h_parent⟩ := mem_jobsOf.mp hj
    exact ⟨j, h_mem, h_parent, h_j, h_sent, b, hb, rfl, h_b⟩

theorem affected_iff (hb : b ∈ L.blocks) : b.blockId ∈ affectedBlockIds L observedAt ↔
    Affected observedAt b (jobsOf L.jobs b) := by
  rw [mem_affectedBlockIds, dispatching_iff hb]
  refine or_congr_left (exists_congr fun j => ?_)
  rw [mem_jobsOf, and_assoc]

/-- What a running report needs of a block. -/
structure RunningAdmitted (observedAt : Instant) (b : QueueBlock) (children : List QueueJob) :
    Prop where
  /-- A dispatch the report proves to have started takes the instant as its commit. -/
  dispatching : Dispatching observedAt b children → AcceptanceAdmitted b observedAt ∧
    ∀ j ∈ children, j.state = .dispatching → Before j.sentAt (some observedAt)
  /-- An accepted job was sent before it ran. -/
  accepted : b.state ∈ [BlockState.committed, .running] → ∀ j ∈ children,
    j.state = .accepted → Before j.sentAt (some observedAt)

/-- How the loop body of `_running` begins: a committed block is made to run. -/
def Runs (observedAt : Instant) (b : QueueBlock) (L L₁ : QueueLedger) : Prop :=
  if b.state = .committed then L.replaceBlockState b.blockId .running observedAt none = .ok L₁
  else L₁ = L

theorem exists_runs (observedAt : Instant) (hb : b ∈ L.blocks) : ∃ L₁, Runs observedAt b L L₁ := by
  unfold Runs
  split
  · next h_state =>
    refine (QueueLedger.replaceBlockState_isOk observedAt (by decide) hb
      (by rw [h_state]; decide)).mpr ?_
    obtain ⟨h_chronological, h_sealed, h_commit, -⟩ := L.blockLifecycle hb
    rw [h_state] at h_sealed h_commit
    exact ⟨h_chronological, fun _ => h_sealed (by decide), fun _ => h_commit (by decide), nofun⟩
  · exact ⟨L, rfl⟩

/-- In either case the block runs before its jobs are started. -/
theorem Runs.running {L₁ : QueueLedger} (h : Runs observedAt b L L₁) (hb : b ∈ L.blocks)
    (h_b : b.state ∈ [BlockState.committed, .running]) :
    L₁.jobs = L.jobs ∧ ∃ b₁ ∈ L₁.blocks, b₁.blockId = b.blockId ∧ b₁.state = .running := by
  unfold Runs at h
  split at h
  · obtain ⟨-, -, -, -, -, -, -, -, h_L₁⟩ := QueueLedger.replaceBlockState_eq_ok.mp h
    refine ⟨(congrArg LedgerFields.jobs h_L₁ :), QueueLedger.changedBlock .running observedAt
      none b, ?_, blockId_of_identity (QueueLedger.changedBlock_identity ..),
      QueueLedger.changedBlock_state ..⟩
    rw [(congrArg LedgerFields.blocks h_L₁ : L₁.blocks = _), List.mem_map]
    exact ⟨b, hb, updateIf_pos (by simp)⟩
  · next h_state =>
    subst h
    refine ⟨rfl, b, hb, rfl, ?_⟩
    revert h_b h_state
    cases b.state <;> decide

/-- The accepted jobs of a block that runs are started when they were sent in time. -/
theorem Runs.moveJobs_isOk {L₁ : QueueLedger} (h : Runs observedAt b L L₁) (hb : b ∈ L.blocks)
    (h_b : b.state ∈ [BlockState.committed, .running]) :
    (∃ L', moveJobs .running observedAt L₁ (acceptedJobs L₁ b.blockId) = .ok L') ↔
      ∀ j ∈ jobsOf L.jobs b, j.state = .accepted → Before j.sentAt (some observedAt) := by
  obtain ⟨h_jobs, b₁, hb₁, h_id, h_b₁⟩ := h.running hb h_b
  -- the loop lists the accepted jobs of the block, as they were before it
  have h_accepted : ∀ j, j ∈ acceptedJobs L₁ b.blockId ↔
      j ∈ jobsOf L.jobs b ∧ j.state = .accepted := by
    intro j
    unfold acceptedJobs
    rw [mem_jobsOf, List.mem_filter, decide_eq_true_iff, h_jobs, and_assoc]
  -- a job that is listed twice would be moved twice, so the sweep needs it listed once
  have h_nodup : ((acceptedJobs L₁ b.blockId).map (·.jobId)).Nodup :=
    L₁.valid.jobIds.sublist (List.filter_sublist.map _)
  rw [VacuumPlanner.moveJobs_isOk observedAt (by decide) hb₁ (by rw [h_b₁]; decide) h_nodup
    fun j hj => ?_]
  · constructor
    · intro h j hj h_j
      have h_mem := (h_accepted j).mpr ⟨hj, h_j⟩
      exact h rfl j (List.mem_of_mem_filter h_mem) (List.mem_map_of_mem h_mem)
    · rintro h - j hj h_in
      obtain ⟨j', hj', h_eq⟩ := List.mem_map.mp h_in
      obtain rfl := eq_of_key L₁.valid.jobIds (List.mem_of_mem_filter hj') hj h_eq
      obtain ⟨h_mem, h_j⟩ := (h_accepted j').mp hj'
      exact h j' h_mem h_j
  · obtain ⟨h_mem, h_j⟩ := (h_accepted j).mp hj
    refine ⟨j, List.mem_of_mem_filter hj, rfl, (mem_jobsOf.mp h_mem).2.trans h_id.symm, ?_⟩
    rw [h_j]
    decide

/-- The loop body of `_running` is admitted when the accepted jobs were sent in time. -/
theorem startActiveBlock_isOk (observedAt : Instant) (hb : b ∈ L.blocks)
    (h_b : b.state ∈ [BlockState.committed, .running]) :
    (∃ L', startActiveBlock observedAt L b.blockId = .ok L') ↔
      ∀ j ∈ jobsOf L.jobs b, j.state = .accepted → Before j.sentAt (some observedAt) := by
  constructor
  · rintro ⟨L', h⟩
    obtain ⟨b', hb', h_id, L₁, h₁, h_moved⟩ := startActiveBlock_eq_ok.mp h
    obtain rfl := L.block_eq hb' hb h_id
    have h_runs : Runs observedAt b' L L₁ := h₁
    exact (h_runs.moveJobs_isOk hb h_b).mp ⟨L', h_moved⟩
  · intro h
    obtain ⟨L₁, h_runs⟩ := exists_runs observedAt hb
    obtain ⟨L', h_moved⟩ := (h_runs.moveJobs_isOk hb h_b).mpr h
    exact ⟨L', startActiveBlock_eq_ok.mpr ⟨b, hb, rfl, L₁, h_runs, h_moved⟩⟩

/-- The loop of `_running` over committed and running blocks. -/
theorem startActiveBlocks_isOk {ids : List String}
    (h_ids : ∀ id ∈ ids, ∃ b ∈ L.blocks, b.blockId = id ∧
      b.state ∈ [BlockState.committed, .running]) :
    (∃ L', ids.foldlM (startActiveBlock observedAt) L = .ok L') ↔
      ∀ j ∈ L.jobs, j.blockId ∈ ids → j.state = .accepted →
        Before j.sentAt (some observedAt) := by
  induction ids generalizing L with
  | nil => exact iff_of_true ⟨L, rfl⟩ fun _ _ h => absurd h List.not_mem_nil
  | cons id ids ih =>
    obtain ⟨b, hb, rfl, h_b⟩ := h_ids id List.mem_cons_self
    have h_first := startActiveBlock_isOk observedAt hb h_b
    -- the accepted jobs of the other blocks are as they were
    have h_tail : ∀ L₁, startActiveBlock observedAt L b.blockId = .ok L₁ →
        ((∃ L', ids.foldlM (startActiveBlock observedAt) L₁ = .ok L') ↔
          ∀ j ∈ L.jobs, j.blockId ∈ ids → j.blockId ≠ b.blockId → j.state = .accepted →
            Before j.sentAt (some observedAt)) := by
      intro L₁ h₁
      obtain ⟨h_blocks, h_jobs⟩ := startActiveBlock_ok h₁
      rw [ih fun id h_id => ?_, h_jobs, List.forall_mem_map]
      · refine forall₂_congr fun j hj => ?_
        rw [parent_of_identity (runningJob_identity [b.blockId] observedAt j)]
        refine imp_congr_right fun h_in => ?_
        unfold runningJob
        by_cases h_sel : j.blockId = b.blockId ∧ j.state = .accepted
        · rw [updateIf_pos (by simpa using h_sel)]
          exact iff_of_true nofun fun h_ne => absurd h_sel.1 h_ne
        · rw [updateIf_neg (by simpa using h_sel)]
          exact ⟨fun h _ => h, fun h h_j => h (fun h_id => h_sel ⟨h_id, h_j⟩) h_j⟩
      · obtain ⟨b', hb', rfl, h_b'⟩ := h_ids id (List.mem_cons_of_mem _ h_id)
        refine ⟨runningBlock [b.blockId] b', h_blocks ▸ List.mem_map_of_mem hb', ?_, ?_⟩
        · exact blockId_of_identity (runningBlock_identity _ b')
        · unfold runningBlock updateIf
          split
          · change BlockState.running ∈ _
            decide
          · exact h_b'
    constructor
    -- a job of the first block starts with it, any other with the rest
    · rintro ⟨L', h⟩ j hj h_in h_j
      rw [List.foldlM_cons] at h
      obtain ⟨L₁, h₁, h_rest⟩ := bind_eq_ok.mp h
      by_cases h_id : j.blockId = b.blockId
      · exact h_first.mp ⟨L₁, h₁⟩ j (mem_jobsOf.mpr ⟨hj, h_id⟩) h_j
      · exact (h_tail L₁ h₁).mp ⟨L', h_rest⟩ j hj
          (List.mem_of_ne_of_mem h_id h_in) h_id h_j
    · intro h
      obtain ⟨L₁, h₁⟩ := h_first.mpr fun j hj h_j => by
        obtain ⟨h_mem, h_parent⟩ := mem_jobsOf.mp hj
        exact h j h_mem (h_parent ▸ List.mem_cons_self) h_j
      obtain ⟨L', h_rest⟩ := (h_tail L₁ h₁).mpr fun j hj h_in _ h_j =>
        h j hj (List.mem_cons_of_mem _ h_in) h_j
      rw [List.foldlM_cons]
      exact ⟨L', bind_eq_ok.mpr ⟨L₁, h₁, h_rest⟩⟩

/-- A dispatching job takes a start timestamp no earlier than its dispatch. -/
theorem JobLifecycle.start_iff (h : JobLifecycle j) (h_j : j.state = .dispatching) :
    JobLifecycle { j with state := .running, startedAt := some observedAt } ↔
      Before j.sentAt (some observedAt) := by
  obtain ⟨h_attempt, h_sent⟩ := h.dispatched (by rw [h_j]; decide)
  have h_unfinished : j.finishedAt = none := h.unfinished (by rw [h_j]; rfl)
  obtain ⟨h_planned, -⟩ := chronological_four.mp h.chronological
  constructor
  · intro h'
    obtain ⟨-, -, -, h_started, -⟩ := chronological_four.mp h'.chronological
    exact h_started
  · intro h_started
    refine ⟨h.attempt, nofun, fun _ => ⟨h_attempt, h_sent⟩, nofun, nofun, fun _ => h_unfinished,
      nofun, chronological_four.mpr ?_⟩
    change Before _ j.sentAt ∧ _ ∧ Before _ j.finishedAt ∧ _ ∧ Before _ j.finishedAt ∧
      Before _ j.finishedAt
    rw [h_unfinished]
    exact ⟨h_planned, h_planned.trans_some h_sent h_started, before_none _, h_started,
      before_none _, before_none _⟩

/-- The bulk part of `_running`. -/
theorem startDispatching_isOk :
    (∃ L', startDispatching L (dispatchingBlockIds L observedAt) observedAt = .ok L') ↔
      ∀ b ∈ L.blocks, Dispatching observedAt b (jobsOf L.jobs b) →
        AcceptanceAdmitted b observedAt ∧ ∀ j ∈ jobsOf L.jobs b, j.state = .dispatching →
          Before j.sentAt (some observedAt) := by
  set ids := dispatchingBlockIds L observedAt with h_ids
  let f : QueueBlock → QueueBlock := fun b =>
    { b with state := .running, committedAt := some observedAt }
  let g : QueueJob → QueueJob := fun j =>
    { j with state := .running, startedAt := some observedAt }
  -- the records the sweep rebuilds are in order exactly when the timestamps allow it
  have h_block : ∀ b ∈ L.blocks, b.blockId ∈ ids →
      (BlockLifecycle (f b) ↔ AcceptanceAdmitted b observedAt) := by
    intro b hb h_in
    have h_state := committing_of_dispatching hb h_in
    exact (L.blockLifecycle hb).commit_iff (by rw [h_state]; rfl) (by decide)
  -- the sweep succeeds exactly when every record it makes passes its checks
  have h_exists : (∃ L', startDispatching L ids observedAt = .ok L') ↔
      (∀ b ∈ L.blocks, b.blockId ∈ ids → BlockLifecycle (f b)) ∧
        ∀ j ∈ L.jobs, (j.blockId ∈ ids ∧ j.state = .dispatching) → JobLifecycle (g j) := by
    unfold startDispatching
    split
    · next h_none =>
      exact iff_of_true ⟨L, rfl⟩ ⟨fun b _ h => absurd (h_none ▸ h) List.not_mem_nil,
        fun j _ h => absurd (h_none ▸ h.1) List.not_mem_nil⟩
    · simp only [bind_eq_ok, rewriteWhere_eq_ok, LedgerFields.construct_eq_ok]
      rw [QueueLedger.blockChecks_iff (by exact fun _ => rfl),
        QueueLedger.jobChecks_iff (by exact fun _ => rfl)]
      constructor
      · rintro ⟨L', -, ⟨rfl, h_blocks⟩, -, ⟨rfl, h_jobs⟩, -⟩
        exact ⟨fun b hb h_in => h_blocks b hb (decide_eq_true h_in),
          fun j hj h_in => h_jobs j hj (decide_eq_true h_in)⟩
      · rintro ⟨h_blocks, h_jobs⟩
        have h_made : ∃ L' : QueueLedger, L'.toLedgerFields = { L.toLedgerFields with
            revision := L.revision + 1
            blocks := L.blocks.map (updateIf (fun b => decide (b.blockId ∈ ids)) f)
            jobs := L.jobs.map
              (updateIf (fun j => decide (j.blockId ∈ ids ∧ j.state = .dispatching)) g)
            lastReconciledAt := some observedAt } := by
          refine Iff.mpr (L.exists_bulk (by exact fun _ => rfl) (by exact fun _ => rfl) ?_ rfl rfl
            rfl rfl rfl) ⟨fun b hb h_in => h_blocks b hb (of_decide_eq_true h_in),
              fun j hj h_in => h_jobs j hj (of_decide_eq_true h_in), fun b _ _ => ?_⟩
          · intro b _ h_out j hj h_in
            have h_in := (of_decide_eq_true h_in).1
            rw [(mem_jobsOf.mp hj).2] at h_in
            exact h_out (decide_eq_true h_in)
          · exact BlockAgrees.of_state (show BlockState.running ∈ _ by decide)
        obtain ⟨L', h_L'⟩ := h_made
        exact ⟨L', _, ⟨rfl, fun b hb h_in => h_blocks b hb (of_decide_eq_true h_in)⟩, _,
          ⟨rfl, fun j hj h_in => h_jobs j hj (of_decide_eq_true h_in)⟩, h_L'⟩
  -- block by block, the ids are those of the dispatching blocks
  rw [h_exists]
  constructor
  · rintro ⟨h_blocks, h_jobs⟩ b hb h_dispatching
    have h_in := (dispatching_iff hb).mpr h_dispatching
    refine ⟨(h_block b hb h_in).mp (h_blocks b hb h_in), fun j hj h_j => ?_⟩
    obtain ⟨h_mem, h_parent⟩ := mem_jobsOf.mp hj
    exact ((L.jobLifecycle h_mem).start_iff h_j).mp (h_jobs j h_mem ⟨h_parent ▸ h_in, h_j⟩)
  · intro h
    refine ⟨fun b hb h_in => ?_, fun j hj h_in => ?_⟩
    · exact (h_block b hb h_in).mpr (h b hb ((dispatching_iff hb).mp h_in)).1
    · obtain ⟨b, hb, h_b⟩ := QueueLedger.exists_parent hj
      have h_dispatching := (dispatching_iff hb).mp (h_b ▸ h_in.1)
      exact ((L.jobLifecycle hj).start_iff h_in.2).mpr
        ((h b hb h_dispatching).2 j (mem_jobsOf.mpr ⟨hj, h_b.symm⟩) h_in.2)

/-- A block that a bulk start leaves is committed, running or started by it. -/
theorem mem_activeBlockIds_iff (hb : b ∈ L.blocks) :
    b.blockId ∈ activeBlockIds L (dispatchingBlockIds L observedAt) ↔
      b.state ∈ [BlockState.committed, .running] ∨
        Dispatching observedAt b (jobsOf L.jobs b) := by
  rw [mem_activeBlockIds, ← dispatching_iff hb]
  constructor
  · rintro ⟨b', hb', h_id, h⟩
    obtain rfl := L.block_eq hb' hb h_id
    exact h
  · exact fun h => ⟨b, hb, rfl, h⟩

/-- After the bulk part the blocks of the loop are committed or running, and their accepted jobs
are those from before. -/
theorem startDispatching_loop_isOk {L₁ : QueueLedger}
    (h₁ : startDispatching L (dispatchingBlockIds L observedAt) observedAt = .ok L₁) :
    (∃ L', (activeBlockIds L (dispatchingBlockIds L observedAt)).foldlM
        (startActiveBlock observedAt) L₁ = .ok L') ↔
      ∀ b ∈ L.blocks, b.state ∈ [BlockState.committed, .running] →
        ∀ j ∈ jobsOf L.jobs b, j.state = .accepted → Before j.sentAt (some observedAt) := by
  set ids := dispatchingBlockIds L observedAt with h_ids
  obtain ⟨h_blocks, h_jobs, -⟩ := startDispatching_ok h₁
  rw [startActiveBlocks_isOk fun id h_id => ?_, h_jobs, List.forall_mem_map]
  · constructor
    · intro h b hb h_b j hj h_j
      obtain ⟨h_mem, h_parent⟩ := mem_jobsOf.mp hj
      -- an accepted job is not one that the first sweep has started
      have h_kept := h j h_mem
      rw [updateIf_neg (by simp [h_j])] at h_kept
      refine h_kept ?_ h_j
      rw [h_parent]
      exact (mem_activeBlockIds_iff hb).mpr (Or.inl h_b)
    · intro h j hj h_in h_j
      by_cases h_sel : j.blockId ∈ ids ∧ j.state = .dispatching
      · rw [updateIf_pos (by simpa using h_sel)] at h_j
        exact nomatch h_j
      · rw [updateIf_neg (by simpa using h_sel)] at h_in h_j ⊢
        obtain ⟨b, hb, h_b⟩ := QueueLedger.exists_parent hj
        rw [← h_b] at h_in
        rcases (mem_activeBlockIds_iff hb).mp h_in with h_state | ⟨h_state, -⟩
        · exact h b hb h_state j (mem_jobsOf.mpr ⟨hj, h_b.symm⟩) h_j
        · -- an accepted job is incompatible with a committing block
          refine absurd (QueueLedger.compatible hb hj h_b.symm) (not_not.mpr ?_)
          rw [h_j]
          unfold incompatibleStates
          rw [h_state]
          cases b.dispatchStrategy <;> decide
  · obtain ⟨b, hb, rfl, h_b⟩ := mem_activeBlockIds.mp h_id
    refine ⟨_, h_blocks ▸ List.mem_map_of_mem hb,
      blockId_of_identity (QueueBlock.identity_updateIf (by exact fun _ => rfl) b), ?_⟩
    by_cases h_in : b.blockId ∈ ids
    · rw [updateIf_pos (by simpa using h_in)]
      exact (by decide : BlockState.running ∈ [BlockState.committed, .running])
    · rw [updateIf_neg (by simpa using h_in)]
      exact h_b.resolve_right h_in

/-- A running report raises in its bulk part or in its loop: the state it makes at the end is
always one. -/
theorem observeRunning_phases (s : PlannerState) (observedAt : Instant) :
    (∃ s', observeRunning s observedAt = .ok s') ↔
      ∃ L₁, startDispatching s.ledger (dispatchingBlockIds s.ledger observedAt) observedAt =
          .ok L₁ ∧
        ∃ L', (activeBlockIds s.ledger (dispatchingBlockIds s.ledger observedAt)).foldlM
          (startActiveBlock observedAt) L₁ = .ok L' := by
  unfold observeRunning
  set ids := dispatchingBlockIds s.ledger observedAt with h_ids
  dsimp only
  split
  · next h_none =>
    refine iff_of_true ⟨s, rfl⟩ ⟨s.ledger, ?_, s.ledger, by rw [h_none]; rfl⟩
    -- a block the bulk part starts would be listed for the loop
    have h_nil : ids = [] := by
      refine List.eq_nil_iff_forall_not_mem.mpr fun id h_id => ?_
      obtain ⟨-, -, -, -, -, b, hb, h_b, -⟩ := mem_dispatchingBlockIds.mp h_id
      have h_active := mem_activeBlockIds.mpr ⟨b, hb, rfl, Or.inr (h_b.symm ▸ h_id)⟩
      rw [h_none] at h_active
      exact List.not_mem_nil h_active
    unfold startDispatching
    rw [h_nil, if_pos rfl]
  · constructor
    · rintro ⟨s', h⟩
      obtain ⟨L₁, h₁, h⟩ := bind_eq_ok.mp h
      obtain ⟨L₂, h₂, -⟩ := bind_eq_ok.mp h
      exact ⟨L₁, h₁, L₂, h₂⟩
    · rintro ⟨L₁, h₁, L₂, h₂⟩
      -- the blocks keep their lanes, so the state can be built
      obtain ⟨h_blocks₁, -⟩ := startDispatching_ok h₁
      obtain ⟨h_blocks₂, -⟩ := startActiveBlocks_ok h₂
      rw [h_blocks₁, List.map_map] at h_blocks₂
      obtain ⟨s', h'⟩ := PlannerState.exists_construct h_blocks₂ fun b =>
        (runningBlock_identity _ _).trans (QueueBlock.identity_updateIf (by exact fun _ => rfl) b)
      exact ⟨s', bind_eq_ok.mpr ⟨L₁, h₁, bind_eq_ok.mpr ⟨L₂, h₂, h'⟩⟩⟩

/-- **A running report** is admitted exactly when every block admits it. -/
theorem observeRunning_isOk (s : PlannerState) (observedAt : Instant) :
    (∃ s', observeRunning s observedAt = .ok s') ↔
    ∀ b ∈ s.ledger.blocks, RunningAdmitted observedAt b (jobsOf s.ledger.jobs b) := by
  rw [observeRunning_phases]
  constructor
  · rintro ⟨L₁, h₁, h₂⟩ b hb
    exact ⟨startDispatching_isOk.mp ⟨L₁, h₁⟩ b hb, (startDispatching_loop_isOk h₁).mp h₂ b hb⟩
  · intro h
    obtain ⟨L₁, h₁⟩ := startDispatching_isOk.mpr fun b hb => (h b hb).dispatching
    exact ⟨L₁, h₁, (startDispatching_loop_isOk h₁).mpr fun b hb => (h b hb).accepted⟩

/-! ### Failed and uncertain reports -/

/-- The sweep of a failed or uncertain report is admitted when every affected block and its
active jobs are in order afterwards, and agree. -/
theorem affectedOutcome_isOk {f : QueueBlock → QueueBlock} {g : QueueJob → QueueJob}
    (hf : ∀ b, (f b).identity = b.identity) (hg : ∀ j, (g j).identity = j.identity) :
    (∃ s', affectedOutcome f g s observedAt = .ok s') ↔
      ∀ b ∈ s.ledger.blocks, Affected observedAt b (jobsOf s.ledger.jobs b) →
        BlockLifecycle (f b) ∧
        (∀ j ∈ jobsOf s.ledger.jobs b, j.state ∈ activeJobStates → JobLifecycle (g j)) ∧
        BlockAgrees (f b) ((jobsOf s.ledger.jobs b).map
          (updateIf (fun j => decide (j.state ∈ activeJobStates)) g)) := by
  set L := s.ledger with h_L
  set ids := affectedBlockIds L observedAt with h_ids
  -- under an affected block the sweep selects the active jobs
  have h_children : ∀ b : QueueBlock, b.blockId ∈ ids →
      (jobsOf L.jobs b).map
        (updateIf (fun j => decide (j.blockId ∈ ids ∧ j.state ∈ activeJobStates)) g) =
      (jobsOf L.jobs b).map (updateIf (fun j => decide (j.state ∈ activeJobStates)) g) := by
    intro b h_in
    refine map_updateIf_congr fun j hj => ?_
    rw [(mem_jobsOf.mp hj).2, Bool.eq_iff_iff, decide_eq_true_iff, decide_eq_true_iff]
    exact and_iff_right h_in
  -- the sweep succeeds exactly when every record it makes passes its checks
  have h_bulk : (∃ s', affectedOutcome f g s observedAt = .ok s') ↔
      (∀ b ∈ L.blocks, b.blockId ∈ ids → BlockLifecycle (f b)) ∧
        (∀ j ∈ L.jobs, j.blockId ∈ ids ∧ j.state ∈ activeJobStates → JobLifecycle (g j)) ∧
        ∀ b ∈ L.blocks, b.blockId ∈ ids → BlockAgrees (f b) ((jobsOf L.jobs b).map
          (updateIf (fun j => decide (j.blockId ∈ ids ∧ j.state ∈ activeJobStates)) g)) := by
    have h_made : (∃ L' : QueueLedger, L'.toLedgerFields = { L.toLedgerFields with
        revision := L.revision + 1
        blocks := L.blocks.map (updateIf (fun b => decide (b.blockId ∈ ids)) f)
        jobs := L.jobs.map
          (updateIf (fun j => decide (j.blockId ∈ ids ∧ j.state ∈ activeJobStates)) g)
        lastReconciledAt := some observedAt }) ↔ _ :=
      L.exists_bulk hf hg (fun b _ h_out j hj h_in => by
        have h_in := (of_decide_eq_true h_in).1
        rw [(mem_jobsOf.mp hj).2] at h_in
        exact h_out (decide_eq_true h_in)) rfl rfl rfl rfl rfl
    simp only [decide_eq_true_iff] at h_made
    unfold affectedOutcome
    rw [← h_L, ← h_ids]
    dsimp only
    split
    · next h_none =>
      refine iff_of_true ⟨s, rfl⟩ ?_
      simp only [h_none, List.not_mem_nil, false_and, IsEmpty.forall_iff, implies_true, and_self]
    · simp only [bind_eq_ok, rewriteWhere_eq_ok, LedgerFields.construct_eq_ok]
      rw [QueueLedger.blockChecks_iff hf, QueueLedger.jobChecks_iff hg]
      simp only [decide_eq_true_iff]
      constructor
      · rintro ⟨s', -, ⟨rfl, -⟩, -, ⟨rfl, -⟩, L', h_L', -⟩
        exact h_made.mp ⟨L', h_L'⟩
      · intro h
        obtain ⟨L', h_L'⟩ := h_made.mpr h
        obtain ⟨s', h'⟩ := PlannerState.exists_construct
          (congrArg LedgerFields.blocks h_L' : L'.blocks = _) (QueueBlock.identity_updateIf hf)
        exact ⟨s', _, ⟨rfl, h.2.1⟩, _, ⟨rfl, h.1⟩, L', h_L', h'⟩
  -- block by block, the conditions on the ids are those on the children
  rw [h_bulk]
  constructor
  · rintro ⟨h_blocks, h_jobs, h_agrees⟩ b hb h_affected
    have h_in := (affected_iff hb).mpr h_affected
    refine ⟨h_blocks b hb h_in, fun j hj h_j => ?_, h_children b h_in ▸ h_agrees b hb h_in⟩
    obtain ⟨h_mem, h_parent⟩ := mem_jobsOf.mp hj
    exact h_jobs j h_mem ⟨h_parent ▸ h_in, h_j⟩
  · intro h
    refine ⟨fun b hb h_in => (h b hb ((affected_iff hb).mp h_in)).1, fun j hj h_in => ?_,
      fun b hb h_in => ?_⟩
    · obtain ⟨b, hb, h_b⟩ := QueueLedger.exists_parent hj
      exact (h b hb ((affected_iff hb).mp (h_b ▸ h_in.1))).2.1 j
        (mem_jobsOf.mpr ⟨hj, h_b.symm⟩) h_in.2
    · rw [h_children b h_in]
      exact (h b hb ((affected_iff hb).mp h_in)).2.2

/-- An affected block holds an active job, so it is past its early states. -/
theorem Affected.exists_active (h : Affected observedAt b (jobsOf L.jobs b)) :
    ∃ j ∈ jobsOf L.jobs b, j.state ∈ activeJobStates := by
  rcases h with ⟨j, hj, h_j⟩ | ⟨-, j, hj, h_j, -⟩
  · exact ⟨j, hj, List.mem_cons_of_mem _ h_j⟩
  · exact ⟨j, hj, by rw [h_j]; decide⟩

theorem Affected.late (h : Affected observedAt b (jobsOf L.jobs b)) (hb : b ∈ L.blocks) :
    b.state.early = false := by
  obtain ⟨j, hj, h_j⟩ := h.exists_active
  have h_compatible := (L.valid.agreesWith hb).compatible j hj
  by_contra h_early
  have h_incompatible : incompatibleStates b = activeStates := by
    refine incompatibleStates_of_early ?_
    revert h_early
    cases b.state <;> decide
  rw [h_incompatible] at h_compatible
  refine h_compatible ?_
  revert h_j
  cases j.state <;> decide

/-- What a failed report needs of an affected block. -/
structure FailureAdmitted (observedAt : Instant) (b : QueueBlock) (children : List QueueJob) :
    Prop where
  block : Before b.sealedAt (some observedAt) ∧ Before b.committedAt (some observedAt)
  jobs : ∀ j ∈ children, j.state ∈ activeJobStates →
    Before j.sentAt (some observedAt) ∧ Before j.startedAt (some observedAt)
  /-- No job of it is left pending or uncertain. -/
  settled : ∀ j ∈ children, j.state ∈ activeJobStates ∨ j.state.terminal = true

theorem BlockLifecycle.failed_iff (h : BlockLifecycle b) (h_late : b.state.early = false) :
    BlockLifecycle (observedFailedBlock observedAt b) ↔
      Before b.sealedAt (some observedAt) ∧ Before b.committedAt (some observedAt) := by
  obtain ⟨h_sealed, h_committed, -, h_order, -, -⟩ := chronological_four.mp h.chronological
  have h_sealedAt := h.sealedAt_ne_none h_late
  constructor
  · intro h'
    obtain ⟨-, -, -, -, h_end, h_end'⟩ := chronological_four.mp h'.chronological
    exact ⟨h_end, h_end'⟩
  · rintro ⟨h_end, h_end'⟩
    exact ⟨chronological_four.mpr ⟨h_sealed, h_committed, h_sealed.trans_some h_sealedAt h_end,
      h_order, h_end, h_end'⟩, fun _ => h_sealedAt, nofun, nofun⟩

theorem JobLifecycle.failed_iff (h : JobLifecycle j) (h_active : j.state ∈ activeJobStates) :
    JobLifecycle (observedFailedJob observedAt j) ↔
      Before j.sentAt (some observedAt) ∧ Before j.startedAt (some observedAt) := by
  obtain ⟨-, h_sent⟩ := h.dispatched (by revert h_active; cases j.state <;> decide)
  obtain ⟨h_planned, h_started, -, h_order, -, -⟩ := chronological_four.mp h.chronological
  constructor
  · intro h'
    obtain ⟨-, -, -, -, h_end, h_end'⟩ := chronological_four.mp h'.chronological
    exact ⟨h_end, h_end'⟩
  · rintro ⟨h_end, h_end'⟩
    exact ⟨h.attempt, nofun, nofun, fun _ _ => h_sent, nofun, nofun, nofun,
      chronological_four.mpr ⟨h_planned, h_started, h_planned.trans_some h_sent h_end, h_order,
        h_end, h_end'⟩⟩

/-- A failed block agrees with its jobs when every one of them has ended. -/
theorem BlockAgrees.failed_iff {children : List QueueJob}
    (h_active : ∃ j ∈ children, j.state ∈ activeJobStates) :
    BlockAgrees (observedFailedBlock observedAt b) (children.map (updateIf
        (fun j => decide (j.state ∈ activeJobStates)) (observedFailedJob observedAt))) ↔
      ∀ j ∈ children, j.state ∈ activeJobStates ∨ j.state.terminal = true := by
  -- a job has ended after the report exactly if it was active or had ended
  have h_job : ∀ j : QueueJob, (updateIf (fun j => decide (j.state ∈ activeJobStates))
      (observedFailedJob observedAt) j).state.terminal = true ↔
        j.state ∈ activeJobStates ∨ j.state.terminal = true := by
    intro j
    by_cases h_j : j.state ∈ activeJobStates
    · rw [updateIf_pos (by simpa using h_j)]
      exact iff_of_true rfl (Or.inl h_j)
    · rw [updateIf_neg (by simpa using h_j)]
      exact (or_iff_right h_j).symm
  constructor
  · intro h j hj
    exact (h_job j).mp (h.settled rfl _ (List.mem_map_of_mem hj))
  · intro h
    refine .of_failed rfl ?_ ?_
    · rw [List.forall_mem_map]
      exact fun j hj => (h_job j).mpr (h j hj)
    · -- an active job has become the failed job the block needs
      obtain ⟨j, hj, h_j⟩ := h_active
      refine ⟨_, List.mem_map_of_mem hj, ?_⟩
      rw [updateIf_pos (by simpa using h_j)]
      rfl

/-- **A failed report** is admitted exactly when every affected block admits it. -/
theorem observeFailed_isOk (s : PlannerState) (observedAt : Instant) :
    (∃ s', observeFailed s observedAt = .ok s') ↔
    ∀ b ∈ s.ledger.blocks, Affected observedAt b (jobsOf s.ledger.jobs b) →
      FailureAdmitted observedAt b (jobsOf s.ledger.jobs b) := by
  refine (affectedOutcome_isOk (f := observedFailedBlock observedAt)
    (g := observedFailedJob observedAt) (fun _ => rfl) fun _ => rfl).trans ?_
  refine forall₂_congr fun b hb => imp_congr_right fun h_affected => ?_
  rw [(s.ledger.blockLifecycle hb).failed_iff (h_affected.late hb),
    BlockAgrees.failed_iff h_affected.exists_active]
  have h_jobs : (∀ j ∈ jobsOf s.ledger.jobs b, j.state ∈ activeJobStates →
      JobLifecycle (observedFailedJob observedAt j)) ↔
        ∀ j ∈ jobsOf s.ledger.jobs b, j.state ∈ activeJobStates →
          Before j.sentAt (some observedAt) ∧ Before j.startedAt (some observedAt) :=
    forall₂_congr fun j hj => imp_congr_right fun h_j =>
      (s.ledger.jobLifecycle (mem_jobsOf.mp hj).1).failed_iff h_j
  rw [h_jobs]
  exact ⟨fun ⟨h_block, h_jobs, h_settled⟩ => ⟨h_block, h_jobs, h_settled⟩,
    fun ⟨h_block, h_jobs, h_settled⟩ => ⟨h_block, h_jobs, h_settled⟩⟩

/-- **An uncertain report** is always admitted. -/
theorem observeUncertain_isOk (s : PlannerState) (observedAt : Instant) :
    ∃ s', observeUncertain s observedAt = .ok s' := by
  refine (affectedOutcome_isOk (f := fun b => { b with state := .uncertain })
    (g := fun j => { j with state := .uncertain }) (fun _ => rfl) fun _ => rfl).mpr ?_
  intro b hb h_affected
  have h_block := s.ledger.blockLifecycle hb
  have h_sealedAt := h_block.sealedAt_ne_none (h_affected.late hb)
  refine ⟨⟨h_block.chronological, fun _ => h_sealedAt, nofun, nofun⟩, fun j hj h_j => ?_,
    BlockAgrees.of_state (show BlockState.uncertain ∈ _ by decide)⟩
  have h_job := s.ledger.jobLifecycle (mem_jobsOf.mp hj).1
  refine ⟨h_job.attempt, nofun, fun _ => h_job.dispatched ?_, nofun, nofun,
    fun _ => h_job.unfinished (active_open h_j), nofun, h_job.chronological⟩
  revert h_j
  cases j.state <;> decide

end VacuumPlanner
