import VacuumPlanner.Finishing
import VacuumPlanner.Integration

/-!
# Reports are never refused

A report of the vacuum is translated into one command, and that command rewrites every
block and job the report is about. It must not raise, or the planner would lose what the
robot did; and it must change what the robot reported and no more.

What it needs is `Lockstep`: the open blocks are in step with their jobs, are not yet
finished, and a running block either runs all of its jobs or has none left to run. Then a
block the report is about has all of its open jobs in the states the report is about
(`concerned_block`), the timestamps fit because the report is not in the past of the ledger
(`QueueLedger.NotBefore`), and the conditions of `Admission` and `Finishing` are met.

The completed report is a loop. `Completing` relates its state after some of the running
jobs to the state it started from, and says which blocks and rooms these jobs settle.
-/

namespace VacuumPlanner

open Framework

variable {L L' : QueueLedger} {s s' : PlannerState} {b b' : QueueBlock} {j : QueueJob}
  {children : List QueueJob} {g : QueueJob → QueueJob} {observedAt : Instant}
  {R : JobState → String → Instant → Prop}

/-! ### Lockstep -/

/-- An open block in step with its jobs, with the records of an unfinished one. -/
structure BlockSteady (b : QueueBlock) (children : List QueueJob) : Prop extends
    InStep b children where
  unfinished : b.completedAt = none
  nonempty : children ≠ []

/-- A running block runs all of its jobs, or nothing of it is left to run. -/
def BlockUniform (b : QueueBlock) (children : List QueueJob) : Prop :=
  b.state = .running →
    (∀ j ∈ children, j.state = .running) ∨ ∀ j ∈ children, j.state.terminal = true

theorem BlockSteady.sealed {block : QueueBlock} (h_step : BlockSealed L L' block children) :
    BlockSteady block children :=
  ⟨.sealed h_step, h_step.unfinished, h_step.nonempty⟩

theorem BlockSteady.row (h : BlockSteady b children) (h_row : RowStep R b children b' g)
    (h_open' : b'.state.terminal = false) : BlockSteady b' (children.map g) := by
  refine ⟨h_row.inStep h.toInStep h_open', ?_, by simpa using h.nonempty⟩
  cases h_row with
  | same | quarantines | completes => exact h.unfinished
  | closes _ _ h_closed =>
    rw [closed_terminal h_closed] at h_open'
    exact absurd h_open'.symm Bool.false_ne_true
  | moves _ _ _ _ _ _ completedAt => exact completedAt.trans h.unfinished
  | resolves =>
    -- only the failed outcome writes the timestamp, and it closes the block
    revert h_open'
    unfold releasedBlock
    split
    · exact fun _ => h.unfinished
    · split
      · exact nofun
      · exact fun _ => h.unfinished

theorem OpenBlocks.steady_rows (h : OpenBlocks BlockSteady L) (h_rows : Rows R L L') :
    OpenBlocks BlockSteady L' :=
  h_rows.openBlocks h fun _ _ _ _ h_row h_open' h_b => h_b.row h_row h_open'

/-- A row step keeps a block uniform unless it completes one job of it. -/
theorem BlockUniform.row (h : BlockUniform b children) (h_b : InStep b children)
    (h_row : RowStep R b children b' g) (h_R : ∀ id t, ¬ R .running id t)
    (h_open' : b'.state.terminal = false) : BlockUniform b' (children.map g) := by
  intro h_running
  have h_step := h_row.inStep h_b h_open'
  -- a block that runs after the row was running before, or its jobs have moved with it
  cases h_row with
  | same _ hg =>
    rw [(List.map_congr_left hg).trans (List.map_id _)]
    exact h h_running
  | closes _ _ h_closed =>
    rw [h_running] at h_closed
    exact absurd h_closed (by decide)
  | moves _ _ target stage _ _ _ hg =>
    refine Or.inl ?_
    rw [List.forall_mem_map]
    intro j hj
    rw [(hg j hj).1]
    rw [h_running] at stage
    revert stage
    cases target <;> decide
  | quarantines => exact nomatch h_running
  | resolves _ j _ _ hj h_j h_state _ _ hg =>
    -- the jobs of the uncertain block were uncertain or had ended, so none of them runs
    refine Or.inr ?_
    rw [List.forall_mem_map]
    intro k hk
    have h_companion := h_step.companions _ (List.mem_map_of_mem hk)
    have h_before := h_b.companions k hk
    rw [h_running] at h_companion
    rw [h_state] at h_before
    refine (Bool.or_eq_true_iff.mp h_companion).resolve_left fun h_k => ?_
    have h_k := of_decide_eq_true h_k
    rw [hg k hk] at h_k
    by_cases h_id : k.jobId = j.jobId
    · rw [updateIf_pos (by simpa using h_id)] at h_k
      exact nomatch h_k
    · rw [updateIf_neg (by simpa using h_id)] at h_k
      rw [h_k] at h_before
      exact nomatch h_before
  | completes _ j completedAt _ h_R' => exact absurd h_R' (h_R _ _)

/-- The invariant of the integration's runs. -/
structure Lockstep (L : QueueLedger) : Prop where
  steady : OpenBlocks BlockSteady L
  uniform : OpenBlocks BlockUniform L

theorem Lockstep.empty : Lockstep QueueLedger.empty := ⟨OpenBlocks.empty, OpenBlocks.empty⟩

theorem Lockstep.inStep (h : Lockstep L) : OpenBlocks InStep L :=
  fun b hb h_open => (h.steady b hb h_open).toInStep

/-- After the loop of `_completed` no job is running. -/
theorem completeRunningJobs_settles {entries : List (String × String)}
    (h_run : entries.foldlM (completeRunningJob observedAt) s = .ok s') :
    ∀ j ∈ s'.ledger.jobs, j.state = .running →
      j ∈ s.ledger.jobs ∧ j.jobId ∉ entries.map Prod.fst := by
  induction entries generalizing s with
  | nil =>
    obtain rfl : s = s' := pure_eq_ok.mp h_run
    exact fun j hj _ => ⟨hj, List.not_mem_nil⟩
  | cons entry entries ih =>
    rw [List.foldlM_cons] at h_run
    obtain ⟨s₁, h₁, h_rest⟩ := bind_eq_ok.mp h_run
    obtain ⟨k, hk, h_id, -, h_jobs, -⟩ := completeRunningJob_ok h₁
    intro j hj h_j
    -- induction on the entries: what runs after the rest has not been completed by it
    obtain ⟨h_mem, h_later⟩ := ih h_rest j hj h_j
    rw [h_jobs] at h_mem
    obtain ⟨j₀, hj₀, rfl⟩ := List.mem_map.mp h_mem
    -- the job just completed does not run, so a running one is another
    by_cases h_same : j₀.jobId = k.jobId
    · rw [updateIf_pos (by simpa using h_same), changedJob_completed] at h_j
      exact nomatch h_j
    · rw [updateIf_neg (by simpa using h_same)] at h_later ⊢
      refine ⟨hj₀, fun h_mem => ?_⟩
      rcases List.mem_cons.mp h_mem with h_eq | h_in
      · exact h_same (h_eq.trans h_id.symm)
      · exact h_later h_in

/-- The jobs a completed report completes, each with the revision id it may use. -/
def runningEntries (L : QueueLedger) (revisionIds : ℕ → String) : List (String × String) :=
  (L.jobs.filter (·.state = .running)).zipIdx.map fun entry => (entry.1.jobId, revisionIds entry.2)

theorem observeCompleted_eq (s : PlannerState) (observedAt : Instant) (revisionIds : ℕ → String) :
    observeCompleted s observedAt revisionIds =
      (runningEntries s.ledger revisionIds).foldlM (completeRunningJob observedAt) s := rfl

/-- After a completed report no job is running. -/
theorem observeCompleted_settles {revisionIds : ℕ → String}
    (h : observeCompleted s observedAt revisionIds = .ok s') :
    ∀ j ∈ s'.ledger.jobs, j.state ≠ .running := by
  intro j hj h_j
  rw [observeCompleted_eq] at h
  obtain ⟨h_mem, h_later⟩ := completeRunningJobs_settles h j hj h_j
  refine h_later ?_
  unfold runningEntries
  rw [List.map_map, List.mem_map]
  have h_running : j ∈ s.ledger.jobs.filter (fun j => decide (j.state = .running)) :=
    List.mem_filter.mpr ⟨h_mem, decide_eq_true h_j⟩
  rw [← List.zipIdx_map_fst 0 (s.ledger.jobs.filter _)] at h_running
  obtain ⟨entry, h_entry, rfl⟩ := List.mem_map.mp h_running
  exact ⟨entry, h_entry, rfl⟩

theorem Lockstep.step {c : IntegrationCommand} (h : Lockstep s.ledger) (h_issued : Issued s c)
    (h_run : c.run s = .ok s') : Lockstep s'.ledger := by
  -- the blocks stay steady, whatever the command
  have h_steady : OpenBlocks BlockSteady s'.ledger :=
    IntegrationCommand.keeps
      (fun h b hb h_open => (h b hb h_open : BlockSteady b (jobsOf _ b)).toInStep)
      (fun h h_step => h.seals h_step (.sealed h_step)) OpenBlocks.steady_rows h.steady h_issued
      h_run
  refine ⟨h_steady, ?_⟩
  rcases IntegrationCommand.run_rows h.inStep h_issued h_run with
    ⟨block, children, h_sealed⟩ | ⟨observedAt, revisionIds, -, h_completed⟩ | h_rows
  · refine h.uniform.seals h_sealed fun h_running => ?_
    rw [h_sealed.state] at h_running
    exact nomatch h_running
  · -- nothing runs any more, so the jobs of a running block have ended
    intro b hb h_open h_running
    refine Or.inr fun j hj => ?_
    have h_companion := (h_steady b hb h_open).companions j hj
    rw [h_running] at h_companion
    refine (Bool.or_eq_true_iff.mp h_companion).resolve_left fun h_j => ?_
    exact observeCompleted_settles h_completed j (mem_jobsOf.mp hj).1 (of_decide_eq_true h_j)
  · intro b' hb' h_open'
    refine h_rows.openBlocks (P := fun b children => InStep b children ∧ BlockUniform b children)
      (fun b hb h_open => ⟨h.inStep b hb h_open, h.uniform b hb h_open⟩)
      (fun b hb b' g h_row h_open' h_b => ⟨h_row.inStep h_b.1 h_open',
        h_b.2.row h_b.1 h_row ?_ h_open'⟩) b' hb' h_open' |>.2
    cases c <;> simp [IntegrationCommand.Resolves]

theorem Lockstep.stateAt {s : PlannerState} (h_empty : s.ledger = QueueLedger.empty)
    {commands : List IntegrationCommand}
    (h_run : EachStep IntegrationCommand.run Issued s commands) (n : ℕ) :
    Lockstep (stateAt IntegrationCommand.run s commands n).ledger := by
  have h_start : Lockstep s.ledger := by
    rw [h_empty]
    exact Lockstep.empty
  exact EachStep.stateAt (I := fun s => Lockstep s.ledger)
    (fun _ _ _ h h_issued h_step => h.step h_issued h_step) h_run h_start n

/-! ### What a report says -/

namespace ObservationOutcome

/-- The states of the jobs a report is about. -/
def concerned : ObservationOutcome → List JobState
  | .running => [.dispatching, .accepted]
  | .completed => [.running]
  | .failed | .uncertain => activeJobStates

/-- What it says of these jobs. -/
def jobState : ObservationOutcome → JobState
  | .running => .running
  | .completed => .completed
  | .failed => .failed
  | .uncertain => .uncertain

/-- What it says of their blocks. -/
def blockState : ObservationOutcome → BlockState
  | .running => .running
  | .completed => .completed
  | .failed => .failed
  | .uncertain => .uncertain

end ObservationOutcome

/-- A room after some jobs in it completed at one instant. -/
def completedRoom (done : List QueueJob) (completedAt : Instant) (room : RoomPlan) : RoomPlan :=
  if ∃ j ∈ done, j.areaId = room.areaId then
    { room with
      lastCompletedVacuumAt := some (latestCompletion room.lastCompletedVacuumAt completedAt)
      lastCompletedVacuumAndMopAt :=
        if ∃ j ∈ done, j.areaId = room.areaId ∧ j.mode = .vacuumAndMop then
          some (latestCompletion room.lastCompletedVacuumAndMopAt completedAt)
        else room.lastCompletedVacuumAndMopAt }
  else room

/-- Exactly what the robot reported. -/
structure ReportApplied (outcome : ObservationOutcome) (observedAt : Instant)
    (s s' : PlannerState) : Prop where
  /-- The jobs the report is about take the state it reports, and no other job changes. -/
  jobs : ∃ g, s'.ledger.jobs = s.ledger.jobs.map g ∧ (∀ j, (g j).identity = j.identity) ∧
    ∀ j ∈ s.ledger.jobs,
      (j.state ∈ outcome.concerned → (g j).state = outcome.jobState) ∧
      (j.state ∉ outcome.concerned → g j = j)
  /-- So do their blocks. -/
  blocks : ∃ f, s'.ledger.blocks = s.ledger.blocks.map f ∧ (∀ b, (f b).identity = b.identity) ∧
    ∀ b ∈ s.ledger.blocks,
      ((∃ j ∈ jobsOf s.ledger.jobs b, j.state ∈ outcome.concerned) →
        (f b).state = outcome.blockState) ∧
      ((∀ j ∈ jobsOf s.ledger.jobs b, j.state ∉ outcome.concerned) → f b = b)
  /-- A completed report advances the rooms of its jobs. -/
  rooms : outcome = .completed → s'.planRevision.roomPlans = s.planRevision.roomPlans.map
    (completedRoom (s.ledger.jobs.filter (·.state = .running)) observedAt)
  plan : outcome ≠ .completed → s'.planRevision = s.planRevision

/-! ### The blocks a report is about -/

theorem concerned_active (outcome : ObservationOutcome) {state : JobState}
    (h : state ∈ outcome.concerned) : state ∈ activeJobStates := by
  revert h
  cases outcome <;> cases state <;> decide

/-- A block with an active job is with the vacuum. -/
theorem OpenBlocks.active_parent (h : OpenBlocks InStep L) (hb : b ∈ L.blocks)
    (hj : j ∈ jobsOf L.jobs b) (h_active : j.state ∈ activeJobStates) :
    b.state.terminal = false ∧ b.state ∈ activeBlockStates := by
  obtain ⟨h_mem, h_parent⟩ := mem_jobsOf.mp hj
  have h_open : b.state.terminal = false := by
    by_contra h_terminal
    have h_ended := L.settled hb (Bool.eq_true_of_not_eq_false h_terminal) h_mem h_parent
    rw [active_open h_active] at h_ended
    exact Bool.false_ne_true h_ended
  refine ⟨h_open, ?_⟩
  by_contra h_state
  exact companion_inactive ((h b hb h_open).companions j hj) h_state h_active

/-- A committing block dispatches its jobs, and the report comes after they were sent. -/
theorem Lockstep.dispatching (h : Lockstep L) (h_now : L.NotBefore observedAt)
    (hb : b ∈ L.blocks) (h_b : b.state = .committing) :
    Dispatching observedAt b (jobsOf L.jobs b) := by
  have h_steady := h.steady b hb (by rw [h_b]; rfl)
  obtain ⟨j, hj⟩ := List.exists_mem_of_ne_nil _ h_steady.nonempty
  have h_companion := h_steady.companions j hj
  rw [h_b] at h_companion
  have h_j : j.state = .dispatching := of_decide_eq_true h_companion
  have h_mem := (mem_jobsOf.mp hj).1
  obtain ⟨-, h_sent⟩ := (L.jobLifecycle h_mem).dispatched (by rw [h_j]; decide)
  obtain ⟨sentAt, h_sentAt⟩ := Option.ne_none_iff_exists'.mp h_sent
  have h_le : Before j.sentAt (some observedAt) := h_now.job h_mem (by simp)
  exact ⟨h_b, j, hj, h_j, sentAt, h_sentAt, h_le sentAt h_sentAt observedAt rfl⟩

/-! ### Running -/

/-- A running report is about the committing and the committed blocks. -/
theorem Lockstep.concerned_running (h : Lockstep L) (hb : b ∈ L.blocks) :
    (∃ j ∈ jobsOf L.jobs b, j.state ∈ [JobState.dispatching, .accepted]) ↔
      b.state ∈ [BlockState.committing, .committed] := by
  constructor
  · rintro ⟨j, hj, h_j⟩
    obtain ⟨h_open, -⟩ := h.inStep.active_parent hb hj
      (concerned_active .running h_j)
    have h_companion := (h.inStep b hb h_open).companions j hj
    revert h_companion h_j
    cases b.state <;> cases j.state <;> decide
  · intro h_b
    have h_steady := h.steady b hb (by revert h_b; cases b.state <;> decide)
    obtain ⟨j, hj⟩ := List.exists_mem_of_ne_nil _ h_steady.nonempty
    have h_companion := h_steady.companions j hj
    refine ⟨j, hj, ?_⟩
    revert h_companion h_b
    cases b.state <;> cases j.state <;> decide

/-- Every dispatched or accepted job of a committing, committed or running block runs. -/
theorem Lockstep.observedRunningJob_state (h : Lockstep L) (h_now : L.NotBefore observedAt)
    (hj : j ∈ L.jobs) (h_j : j.state ∈ [JobState.dispatching, .accepted]) :
    (observedRunningJob L observedAt j).state = .running := by
  obtain ⟨b, hb, h_parent⟩ := QueueLedger.exists_parent hj
  have h_child : j ∈ jobsOf L.jobs b := mem_jobsOf.mpr ⟨hj, h_parent.symm⟩
  obtain ⟨h_open, -⟩ := h.inStep.active_parent hb h_child (concerned_active .running h_j)
  have h_companion := (h.inStep b hb h_open).companions j h_child
  -- a dispatched job is of a committing block, an accepted one of a committed or running
  by_cases h_dispatching : j.state = .dispatching
  · have h_b : b.state = .committing := by
      rw [h_dispatching] at h_companion
      revert h_companion
      cases b.state <;> decide
    have h_sel := (dispatching_iff hb).mpr (h.dispatching h_now hb h_b)
    rw [observedRunningJob_dispatching (h_parent ▸ h_sel) h_dispatching]
  · have h_accepted : j.state = .accepted := by
      revert h_j h_dispatching
      cases j.state <;> decide
    have h_b : b.state ∈ [BlockState.committed, .running] := by
      rw [h_accepted] at h_companion
      revert h_companion
      cases b.state <;> decide
    rw [observedRunningJob_accepted hb h_parent.symm h_b h_accepted]
    rfl

/-- So does every committing or committed block. -/
theorem Lockstep.observedRunningBlock_state (h : Lockstep L) (h_now : L.NotBefore observedAt)
    (hb : b ∈ L.blocks) (h_b : b.state ∈ [BlockState.committing, .committed]) :
    (observedRunningBlock L observedAt b).state = .running := by
  by_cases h_committing : b.state = .committing
  · have h_sel := (dispatching_iff hb).mpr (h.dispatching h_now hb h_committing)
    rw [observedRunningBlock_dispatching h_sel]
  · have h_committed : b.state = .committed := by
      revert h_b h_committing
      cases b.state <;> decide
    rw [observedRunningBlock_committed hb h_committed]

/-- The others are left alone, in any ledger. -/
theorem observedRunningJob_unconcerned (h_j : j.state ∉ [JobState.dispatching, .accepted]) :
    observedRunningJob L observedAt j = j := by
  refine observedRunningJob_other (fun h_sel => h_j ?_) fun h_sel => h_j ?_
  · exact List.mem_cons.mpr (Or.inl h_sel.2)
  · exact List.mem_cons_of_mem _ (List.mem_singleton.mpr h_sel.2)

theorem observedRunningBlock_unconcerned (hb : b ∈ L.blocks)
    (h_b : b.state ∉ [BlockState.committing, .committed]) :
    observedRunningBlock L observedAt b = b := by
  refine observedRunningBlock_other (fun h_sel => h_b ?_) fun h_committed => h_b ?_
  · rw [committing_of_dispatching hb h_sel]
    decide
  · rw [h_committed]
    decide

/-- **A running report** starts what was dispatched or accepted. -/
theorem observeRunning_total (h : Lockstep s.ledger) (h_now : s.ledger.NotBefore observedAt) :
    ∃ s', observeRunning s observedAt = .ok s' ∧ ReportApplied .running observedAt s s' := by
  set L := s.ledger with h_L
  have h_sent : ∀ b ∈ L.blocks, ∀ j ∈ jobsOf L.jobs b, Before j.sentAt (some observedAt) :=
    fun b _ j hj => h_now.job (mem_jobsOf.mp hj).1 (by simp)
  -- nothing was sent or sealed after the report, so no transition is refused
  obtain ⟨s', h_run⟩ : ∃ s', observeRunning s observedAt = .ok s' := by
    refine (observeRunning_isOk s observedAt).mpr fun b hb => ⟨fun h_dispatching => ?_,
      fun _ j hj _ => h_sent b hb j hj⟩
    have h_open : b.state.terminal = false := by
      rw [h_dispatching.1]
      rfl
    refine ⟨⟨h_now.block hb (by simp), ?_⟩, fun j hj _ => h_sent b hb j hj⟩
    rw [(h.steady b hb h_open).unfinished]
    exact before_none _
  obtain ⟨h_plan, h_blocks, h_jobs, -⟩ := observeRunning_ok h_run
  -- each record has the state that its block and the report give it
  refine ⟨s', h_run, ⟨_, h_jobs, observedRunningJob_identity _ _, fun j hj => ⟨fun h_j => ?_,
    fun h_j => ?_⟩⟩, ⟨_, h_blocks, observedRunningBlock_identity _ _, fun b hb =>
      ⟨fun h_concerned => ?_, fun h_none => ?_⟩⟩, nofun, fun _ => h_plan⟩
  · exact h.observedRunningJob_state h_now hj h_j
  · exact observedRunningJob_unconcerned h_j
  · exact h.observedRunningBlock_state h_now hb ((h.concerned_running hb).mp h_concerned)
  · refine observedRunningBlock_unconcerned hb fun h_b => ?_
    obtain ⟨j, hj, h_j⟩ := (h.concerned_running hb).mpr h_b
    exact h_none j hj h_j

/-! ### Failed and uncertain -/

/-- Such a report affects the blocks with an active job. -/
theorem Lockstep.affected (h : Lockstep L) (h_now : L.NotBefore observedAt) (hb : b ∈ L.blocks) :
    b.blockId ∈ affectedBlockIds L observedAt ↔
      ∃ j ∈ jobsOf L.jobs b, j.state ∈ activeJobStates := by
  rw [affected_iff hb]
  constructor
  · exact Affected.exists_active
  · rintro ⟨j, hj, h_active⟩
    obtain ⟨h_open, -⟩ := h.inStep.active_parent hb hj h_active
    by_cases h_j : j.state = .dispatching
    · have h_companion := (h.inStep b hb h_open).companions j hj
      rw [h_j] at h_companion
      refine Or.inr (h.dispatching h_now hb ?_)
      revert h_companion
      cases b.state <;> decide
    · refine Or.inl ⟨j, hj, ?_⟩
      revert h_active h_j
      cases j.state <;> decide

/-- The sweep of an affected report does what the report says. -/
theorem AffectedRewritten.applied {outcome : ObservationOutcome} {f : QueueBlock → QueueBlock}
    (h : Lockstep s.ledger) (h_now : s.ledger.NotBefore observedAt)
    (h_run : AffectedRewritten f g observedAt s s') (h_outcome : outcome ≠ .completed)
    (h_concerned : outcome.concerned = activeJobStates)
    (hf : ∀ b, (f b).identity = b.identity) (hg : ∀ j, (g j).identity = j.identity)
    (h_block : ∀ b, (f b).state = outcome.blockState)
    (h_job : ∀ j, (g j).state = outcome.jobState) : ReportApplied outcome observedAt s s' := by
  refine ⟨⟨_, h_run.jobs, QueueJob.identity_updateIf hg, fun j hj => ?_⟩,
    ⟨_, h_run.blocks, QueueBlock.identity_updateIf hf, fun b hb => ?_⟩,
    fun h_completed => absurd h_completed h_outcome, fun _ => h_run.plan⟩
  · rw [h_concerned]
    constructor
    · intro h_active
      -- in lockstep an active job has a block that is affected
      obtain ⟨b, hb, h_parent⟩ := QueueLedger.exists_parent hj
      have h_sel := (h.affected h_now hb).mpr ⟨j, mem_jobsOf.mpr ⟨hj, h_parent.symm⟩, h_active⟩
      rw [updateIf_pos (by simpa [← h_parent] using ⟨h_sel, h_active⟩)]
      exact h_job j
    · exact fun h_idle => updateIf_neg (by simp [h_idle])
  · rw [h_concerned, ← h.affected h_now hb]
    constructor
    · intro h_sel
      rw [updateIf_pos (by simpa using h_sel)]
      exact h_block b
    · intro h_idle
      refine updateIf_neg fun h_sel => ?_
      -- and an affected block has an active job
      obtain ⟨j, hj, h_active⟩ := (h.affected h_now hb).mp (of_decide_eq_true h_sel)
      exact h_idle j hj h_active

/-- **A failed report** fails what is with the vacuum. -/
theorem observeFailed_total (h : Lockstep s.ledger) (h_now : s.ledger.NotBefore observedAt) :
    ∃ s', observeFailed s observedAt = .ok s' ∧ ReportApplied .failed observedAt s s' := by
  obtain ⟨s', h_run⟩ : ∃ s', observeFailed s observedAt = .ok s' := by
    refine (observeFailed_isOk s observedAt).mpr fun b hb h_affected => ?_
    refine ⟨⟨h_now.block hb (by simp), h_now.block hb (by simp)⟩, fun j hj _ => ?_, fun j hj => ?_⟩
    · have h_mem := (mem_jobsOf.mp hj).1
      exact ⟨h_now.job h_mem (by simp), h_now.job h_mem (by simp)⟩
    · -- the block is with the vacuum, so a job of it is active or has ended
      obtain ⟨k, hk, h_active⟩ := h_affected.exists_active
      obtain ⟨h_open, h_state⟩ := h.inStep.active_parent hb hk h_active
      have h_companion := (h.inStep b hb h_open).companions j hj
      revert h_companion h_state
      cases b.state <;> cases j.state <;> decide
  exact ⟨s', h_run, (observeFailed_ok h_run).applied h h_now nofun rfl (fun _ => rfl)
    (fun _ => rfl) (fun _ => rfl) fun _ => rfl⟩

/-- **An uncertain report** quarantines it. -/
theorem observeUncertain_total (h : Lockstep s.ledger) (h_now : s.ledger.NotBefore observedAt) :
    ∃ s', observeUncertain s observedAt = .ok s' ∧ ReportApplied .uncertain observedAt s s' := by
  obtain ⟨s', h_run⟩ := observeUncertain_isOk s observedAt
  exact ⟨s', h_run, (observeUncertain_ok h_run).applied h h_now nofun rfl (fun _ => rfl)
    (fun _ => rfl) (fun _ => rfl) fun _ => rfl⟩

/-! ### Completed -/

/-- Revision ids as `uuid4` hands them out: none is blank, none is handed out twice, and none
is the one in use. -/
structure FreshIds (revisionIds : ℕ → String) (plan : PlanRevision) : Prop where
  text : ∀ i, isBlank (revisionIds i) = false
  distinct : Function.Injective revisionIds
  new : ∀ i, revisionIds i ≠ plan.revisionId

/-- The rewrite of a block whose jobs have all completed. -/
def finishedBlock (completedAt : Instant) (b : QueueBlock) : QueueBlock :=
  { b with state := .completed, completedAt := some completedAt }

/-- The jobs of a block are all among some jobs. -/
def settledBy (L : QueueLedger) (done : List QueueJob) (b : QueueBlock) : Bool :=
  decide (jobsOf L.jobs b ≠ [] ∧ ∀ j ∈ jobsOf L.jobs b, j ∈ done)

/-- The loop of `_completed` after `k` rounds, which completed the jobs `done` of `s`. -/
structure Completing (s : PlannerState) (observedAt : Instant) (revisionIds : ℕ → String)
    (k : ℕ) (done : List QueueJob) (plan : PlanRevision) (L : QueueLedger) : Prop where
  jobs : L.jobs = s.ledger.jobs.map (updateIf (fun j => decide (j ∈ done)) (finishedJob observedAt))
  blocks : L.blocks = s.ledger.blocks.map
    (updateIf (settledBy s.ledger done) (finishedBlock observedAt))
  rooms : plan.roomPlans = s.planRevision.roomPlans.map (completedRoom done observedAt)
  revision : plan.revisionId = s.planRevision.revisionId ∨ ∃ i < k, plan.revisionId = revisionIds i

/-- One more job at the same instant. -/
theorem completedRoom_cons (j : QueueJob) (done : List QueueJob) (completedAt : Instant)
    (room : RoomPlan) : completedRoom (j :: done) completedAt room =
      updateIf (·.areaId = j.areaId) (advanceRoom j completedAt)
        (completedRoom done completedAt room) := by
  have h_area : (completedRoom done completedAt room).areaId = room.areaId := by
    unfold completedRoom
    split <;> rfl
  by_cases h : j.areaId = room.areaId
  · rw [updateIf_pos (by rw [h_area, decide_eq_true_iff]; exact h.symm)]
    unfold completedRoom advanceRoom
    simp only [List.exists_mem_cons_iff, h, true_and, true_or, if_true]
    -- another job of the area has brought the room to the same instant already
    by_cases h_done : ∃ k ∈ done, k.areaId = room.areaId
    · by_cases h_mop : ∃ k ∈ done, k.areaId = room.areaId ∧ k.mode = .vacuumAndMop
      · simp only [h_done, h_mop, or_true, if_true, latestCompletion_idem, ite_self]
      · simp only [h_done, h_mop, or_false, if_true, if_false, latestCompletion_idem]
    · have h_mop : ¬ ∃ k ∈ done, k.areaId = room.areaId ∧ k.mode = .vacuumAndMop := by
        rintro ⟨k, hk, h_k, -⟩
        exact h_done ⟨k, hk, h_k⟩
      simp only [h_done, h_mop, or_false, if_false]
  · rw [updateIf_neg (by rw [h_area, decide_eq_true_iff]; exact Ne.symm h)]
    unfold completedRoom
    simp only [List.exists_mem_cons_iff, h, false_and, false_or]

theorem Completing.start (s : PlannerState) (observedAt : Instant) (revisionIds : ℕ → String) :
    Completing s observedAt revisionIds 0 [] s.planRevision s.ledger where
  jobs := (map_updateIf_none fun _ _ => by simp).symm
  blocks := by
    refine (map_updateIf_none fun b _ => ?_).symm
    unfold settledBy
    rw [decide_eq_false_iff_not]
    rintro ⟨h_some, h_none⟩
    obtain ⟨j, hj⟩ := List.exists_mem_of_ne_nil _ h_some
    exact List.not_mem_nil (h_none j hj)
  rooms := by
    refine ((List.map_congr_left fun room _ => ?_).trans (List.map_id _)).symm
    unfold completedRoom
    rw [if_neg (by simp)]
    rfl
  revision := Or.inl rfl

/-- What a round of the loop leaves is a planner state. -/
theorem Completing.exists_state {revisionIds : ℕ → String} {k : ℕ} {done : List QueueJob}
    {plan : PlanRevision} (h : Completing s observedAt revisionIds k done plan L) :
    ∃ s', PlannerState.construct plan L = .ok s' := by
  have h_lane : ∀ room ∈ plan.roomPlans.head?, ∀ b ∈ L.blocks, b.laneId = room.laneId := by
    intro room h_room b hb
    rw [h.rooms, List.head?_map] at h_room
    obtain ⟨room₀, h_room₀, rfl⟩ := Option.mem_map.mp h_room
    rw [h.blocks] at hb
    obtain ⟨b₀, hb₀, rfl⟩ := List.mem_map.mp hb
    have h_same : (completedRoom done observedAt room₀).laneId = room₀.laneId := by
      unfold completedRoom
      split <;> rfl
    have h_kept : (updateIf (settledBy s.ledger done) (finishedBlock observedAt) b₀).laneId =
        b₀.laneId := by
      unfold updateIf
      split <;> rfl
    rw [h_same, h_kept]
    exact s.lane room₀ h_room₀ b₀ hb₀
  exact ⟨⟨plan, L, h_lane⟩, PlannerState.construct_eq_ok.mpr ⟨rfl, rfl⟩⟩

/-- The sweep of a round after the sweeps of the earlier ones. -/
theorem map_finishedJob_cons {done : List QueueJob} (hj : j ∈ L.jobs) (h_new : j ∉ done)
    (completedAt : Instant) :
    (L.jobs.map (updateIf (fun d => decide (d ∈ done)) (finishedJob completedAt))).map
        (updateIf (·.jobId = j.jobId) (finishedJob completedAt)) =
      L.jobs.map (updateIf (fun d => decide (d ∈ j :: done)) (finishedJob completedAt)) := by
  -- `done` is a list of jobs and the sweep asks for identities: these are distinct
  have h_same_id : ∀ d ∈ L.jobs, d.jobId = j.jobId → d = j :=
    fun d hd h_same => eq_of_key L.valid.jobIds hd hj h_same
  rw [List.map_map]
  refine List.map_congr_left fun d hd => ?_
  rw [Function.comp_apply]
  by_cases h_d : d ∈ done
  · have h_ne : d.jobId ≠ j.jobId := fun h_same => h_new (h_same_id d hd h_same ▸ h_d)
    rw [updateIf_pos (p := fun d => decide (d ∈ done)) (by simpa using h_d),
      updateIf_neg (by rw [decide_eq_true_iff]; exact h_ne), updateIf_pos (by simp [h_d])]
  · rw [updateIf_neg (p := fun d => decide (d ∈ done)) (by simpa using h_d)]
    by_cases h_same : d.jobId = j.jobId
    · rw [updateIf_pos (by simpa using h_same),
        updateIf_pos (by simp [h_same_id d hd h_same])]
    · have h_ne : d ≠ j := fun h_eq => h_same (congrArg QueueJob.jobId h_eq)
      rw [updateIf_neg (by simpa using h_same), updateIf_neg (by simp [h_ne, h_d])]

/-- One more job settles no block but its own. -/
theorem settledBy_cons_other {b' : QueueBlock} {done : List QueueJob}
    (h_parent : b.blockId = j.blockId) (h_ne : b'.blockId ≠ b.blockId) :
    settledBy L (j :: done) b' = settledBy L done b' := by
  unfold settledBy
  refine decide_eq_decide.mpr (and_congr_right fun _ => forall₂_congr fun d hd => ?_)
  refine ⟨fun h_in => (List.mem_cons.mp h_in).resolve_left ?_, List.mem_cons_of_mem j⟩
  rintro rfl
  exact h_ne ((mem_jobsOf.mp hd).2.symm.trans h_parent.symm)

/-- Jobs that all completed at one instant close their block as completed then. -/
theorem closedBlock_finishedJob {children : List QueueJob} {completedAt latest : Instant}
    (h_latest : LatestFinish (children.map (finishedJob completedAt)) latest) (b : QueueBlock) :
    closedBlock (children.map (finishedJob completedAt)) latest b =
      finishedBlock completedAt b := by
  obtain ⟨⟨d', hd', h_d'⟩, -⟩ := h_latest
  obtain ⟨d, -, rfl⟩ := List.mem_map.mp hd'
  obtain rfl : completedAt = latest := Option.some.inj h_d'
  unfold closedBlock finishedBlock
  rw [closedState_completed (List.forall_mem_map.mpr fun _ _ => rfl)]

/-- Closing the parent of the job of a round settles the blocks that the round settles. -/
theorem ParentClosed.settles {blocks' : List QueueBlock} {done : List QueueJob}
    (h_lockstep : Lockstep L) (hb : b ∈ L.blocks) (h_open : b.state.terminal = false)
    (h_b : b.state = .running) (h_child : j ∈ jobsOf L.jobs b) (h_j : j.state = .running)
    (h_new : j ∉ done)
    (h : ParentClosed b
      ((jobsOf L.jobs b).map (updateIf (fun d => decide (d ∈ j :: done)) (finishedJob observedAt)))
      (L.blocks.map (updateIf (settledBy L done) (finishedBlock observedAt))) blocks') :
    blocks' = L.blocks.map (updateIf (settledBy L (j :: done)) (finishedBlock observedAt)) := by
  have h_parent : b.blockId = j.blockId := (mem_jobsOf.mp h_child).2.symm
  have h_unsettled : ¬ settledBy L done b = true := fun h_settled =>
    h_new ((of_decide_eq_true h_settled).2 j h_child)
  cases h with
  | waits h_some h_kept =>
    -- a job of the block is still open, so the round settles nothing
    have h_still : settledBy L (j :: done) b = false := by
      refine decide_eq_false ?_
      rintro ⟨-, h_all⟩
      obtain ⟨d', hd', h_d'⟩ := h_some
      obtain ⟨d, hd, rfl⟩ := List.mem_map.mp hd'
      rw [updateIf_pos (by simpa using h_all d hd)] at h_d'
      cases h_d'
    rw [h_kept]
    refine map_updateIf_congr fun b' hb' => ?_
    by_cases h_b' : b'.blockId = b.blockId
    · rw [L.block_eq hb' hb h_b', h_still]
      exact Bool.eq_false_of_not_eq_true h_unsettled
    · exact (settledBy_cons_other h_parent h_b').symm
  | closes latest h_ended h_latest h_kept =>
    -- every job of the block ran, so every one has been completed by now
    have h_running : ∀ d ∈ jobsOf L.jobs b, d.state = .running := by
      refine (h_lockstep.uniform b hb h_open h_b).resolve_right fun h_terminal => ?_
      have h_j_ended := h_terminal j h_child
      rw [h_j] at h_j_ended
      cases h_j_ended
    -- a job that is not done yet would still run
    have h_all : ∀ d ∈ jobsOf L.jobs b, d ∈ j :: done := by
      intro d hd
      by_contra h_out
      have h_d := h_ended d (List.mem_map.mpr ⟨d, hd, updateIf_neg (by simpa using h_out)⟩)
      rw [h_running d hd] at h_d
      cases h_d
    have h_finished : (jobsOf L.jobs b).map
        (updateIf (fun d => decide (d ∈ j :: done)) (finishedJob observedAt)) =
          (jobsOf L.jobs b).map (finishedJob observedAt) :=
      List.map_congr_left fun d hd => updateIf_pos (by simpa using h_all d hd)
    have h_settled : settledBy L (j :: done) b = true :=
      decide_eq_true ⟨List.ne_nil_of_mem h_child, h_all⟩
    rw [h_finished] at h_latest h_kept
    rw [h_kept, List.map_map]
    refine List.map_congr_left fun b' hb' => ?_
    rw [Function.comp_apply]
    by_cases h_b' : b'.blockId = b.blockId
    · rw [L.block_eq hb' hb h_b', updateIf_neg h_unsettled, updateIf_pos (by simp),
        updateIf_pos h_settled]
      exact closedBlock_finishedJob h_latest b
    · have h_id : (updateIf (settledBy L done) (finishedBlock observedAt) b').blockId =
          b'.blockId := by
        unfold updateIf
        split <;> rfl
      rw [updateIf_neg (by rw [h_id]; simpa using h_b')]
      unfold updateIf
      rw [settledBy_cons_other h_parent h_b']

/-- **One round** completes one running job, and its block with the last one. -/
theorem Completing.round {revisionIds : ℕ → String} {k : ℕ} {done : List QueueJob}
    {s₁ : PlannerState} (h_lockstep : Lockstep s.ledger) (h_now : s.ledger.NotBefore observedAt)
    (h_fresh : FreshIds revisionIds s.planRevision)
    (h : Completing s observedAt revisionIds k done s₁.planRevision s₁.ledger)
    (hj : j ∈ s.ledger.jobs) (h_j : j.state = .running) (h_new : j ∉ done) :
    ∃ s₂, completeRunningJob observedAt s₁ (j.jobId, revisionIds k) = .ok s₂ ∧
      Completing s observedAt revisionIds (k + 1) (j :: done) s₂.planRevision s₂.ledger := by
  obtain ⟨b, hb, h_parent⟩ := QueueLedger.exists_parent hj
  have h_child : j ∈ jobsOf s.ledger.jobs b := mem_jobsOf.mpr ⟨hj, h_parent.symm⟩
  obtain ⟨h_open, -⟩ := h_lockstep.inStep.active_parent hb h_child (by rw [h_j]; decide)
  have h_b : b.state = .running := (h_lockstep.inStep b hb h_open).running h_child h_j
  -- the job and its block are as they were
  have hj₁ : j ∈ s₁.ledger.jobs := by
    rw [h.jobs]
    exact List.mem_map.mpr ⟨j, hj, updateIf_neg (by simpa using h_new)⟩
  have hb₁ : b ∈ s₁.ledger.blocks := by
    rw [h.blocks]
    exact List.mem_map.mpr ⟨b, hb, updateIf_neg fun h_settled =>
      h_new ((of_decide_eq_true h_settled).2 j h_child)⟩
  -- the id of this round is new: the plan still has its first id or one of an earlier round
  have h_id : revisionIds k ≠ s₁.planRevision.revisionId := by
    intro h_eq
    rcases h.revision with h_same | ⟨i, h_lt, h_i⟩
    · exact h_fresh.new k (h_eq.trans h_same)
    · exact h_lt.ne (h_fresh.distinct (h_eq.trans h_i)).symm
  have h_lane : ∀ room ∈ s₁.planRevision.roomPlans.head?, room.laneId = b.laneId :=
    fun room h_room => (s₁.lane room h_room b hb₁).symm
  obtain ⟨result, h_result, h_jobs, h_closed, h_plan⟩ := completeJobAndAdvancePlan_isOk
    hj₁ h_j hb₁ h_parent (by rw [h_b]; decide) h_lane (h_now.job hj (by simp))
    (h_now.block hb (by simp)) (h_fresh.text k) h_id
  -- so the round completes it, with one job more that is done
  have h_jobs' : result.ledger.jobs = s.ledger.jobs.map
      (updateIf (fun d => decide (d ∈ j :: done)) (finishedJob observedAt)) := by
    rw [h_jobs, h.jobs, map_finishedJob_cons hj h_new]
  have h_blocks' : result.ledger.blocks = s.ledger.blocks.map
      (updateIf (settledBy s.ledger (j :: done)) (finishedBlock observedAt)) := by
    have h_kept : ∀ d : QueueJob, (finishedJob observedAt d).identity = d.identity := fun _ => rfl
    rw [h_jobs', jobsOf_map (QueueJob.identity_updateIf h_kept), h.blocks] at h_closed
    exact h_closed.settles h_lockstep hb h_open h_b h_child h_j h_new
  have h_rooms' : result.planRevision.roomPlans = s.planRevision.roomPlans.map
      (completedRoom (j :: done) observedAt) := by
    rw [h_plan.roomPlans, h.rooms, List.map_map]
    refine List.map_congr_left fun room _ => ?_
    rw [Function.comp_apply, completedRoom_cons]
  have h_completing : Completing s observedAt revisionIds (k + 1) (j :: done)
      result.planRevision result.ledger := by
    refine ⟨h_jobs', h_blocks', h_rooms', ?_⟩
    -- the revision has the id of this round if a room has changed
    cases h_plan with
    | kept none same =>
      rw [same]
      exact h.revision.imp_right fun ⟨i, h_lt, h_i⟩ => ⟨i, h_lt.trans (Nat.lt_succ_self k), h_i⟩
    | advanced some fields =>
      refine Or.inr ⟨k, Nat.lt_succ_self k, ?_⟩
      rw [fields]
      rfl
  obtain ⟨s₂, h_s₂⟩ := h_completing.exists_state
  obtain ⟨h_p, h_L⟩ := PlannerState.construct_eq_ok.mp h_s₂
  refine ⟨s₂, bind_eq_ok.mpr ⟨result, h_result, h_s₂⟩, ?_⟩
  rw [h_p, h_L]
  exact h_completing

/-- **The loop** completes the running jobs it is given, whatever it has completed before. -/
theorem Completing.run {revisionIds : ℕ → String} (rest : List QueueJob) {done : List QueueJob}
    {k : ℕ} {s₁ : PlannerState} (h_lockstep : Lockstep s.ledger)
    (h_now : s.ledger.NotBefore observedAt)
    (h_fresh : FreshIds revisionIds s.planRevision)
    (h : Completing s observedAt revisionIds k done s₁.planRevision s₁.ledger)
    (h_rest : ∀ j ∈ rest, j ∈ s.ledger.jobs ∧ j.state = .running ∧ j ∉ done)
    (h_nodup : rest.Nodup) :
    ∃ s', ((rest.zipIdx k).map fun entry => (entry.1.jobId, revisionIds entry.2)).foldlM
        (completeRunningJob observedAt) s₁ = .ok s' ∧
      Completing s observedAt revisionIds (k + rest.length) (rest.reverse ++ done)
        s'.planRevision s'.ledger := by
  induction rest generalizing k done s₁ with
  | nil => exact ⟨s₁, rfl, h⟩
  | cons j rest ih =>
    obtain ⟨⟨hj, h_j, h_new⟩, h_rest⟩ := List.forall_mem_cons.mp h_rest
    obtain ⟨h_once, h_nodup⟩ := List.nodup_cons.mp h_nodup
    -- one round completes the first job; the rest is still running, none of it done
    obtain ⟨s₂, h_round, h₂⟩ := h.round h_lockstep h_now h_fresh hj h_j h_new
    have h_rest₂ : ∀ d ∈ rest, d ∈ s.ledger.jobs ∧ d.state = .running ∧ d ∉ j :: done := by
      intro d hd
      obtain ⟨h_mem, h_d, h_out⟩ := h_rest d hd
      refine ⟨h_mem, h_d, fun h_in => h_out ((List.mem_cons.mp h_in).resolve_left ?_)⟩
      rintro rfl
      exact h_once hd
    -- the later rounds start from there
    obtain ⟨s', h_s', h'⟩ := ih h₂ h_rest₂ h_nodup
    refine ⟨s', ?_, ?_⟩
    · rw [List.zipIdx_cons, List.map_cons, List.foldlM_cons]
      exact bind_eq_ok.mpr ⟨s₂, h_round, h_s'⟩
    · have h_length : k + (rest.length + 1) = k + 1 + rest.length := by omega
      rw [List.length_cons, List.reverse_cons, List.append_assoc, h_length]
      exact h'

/-- **A completed report** completes what runs, and advances the rooms. -/
theorem observeCompleted_total {revisionIds : ℕ → String} (h : Lockstep s.ledger)
    (h_now : s.ledger.NotBefore observedAt) (h_fresh : FreshIds revisionIds s.planRevision) :
    ∃ s', observeCompleted s observedAt revisionIds = .ok s' ∧
      ReportApplied .completed observedAt s s' := by
  set running := s.ledger.jobs.filter (·.state = .running) with h_running
  have h_mem : ∀ j, j ∈ running ↔ j ∈ s.ledger.jobs ∧ j.state = .running := by
    intro j
    rw [h_running, List.mem_filter, decide_eq_true_iff]
  -- the report runs through the jobs that are running, each of them once
  have h_nodup : running.Nodup := (List.Nodup.of_map _ s.ledger.valid.jobIds).filter _
  obtain ⟨s', h_run, h'⟩ := (Completing.start s observedAt revisionIds).run running h h_now
    h_fresh (fun j hj => ⟨((h_mem j).mp hj).1, ((h_mem j).mp hj).2, List.not_mem_nil⟩)
    h_nodup
  rw [List.append_nil] at h'
  -- what is completed at the end is exactly what was running at the start
  have h_done : ∀ j, j ∈ running.reverse ↔ j ∈ s.ledger.jobs ∧ j.state = .running := by
    intro j
    rw [List.mem_reverse, h_mem]
  refine ⟨s', h_run, ⟨_, h'.jobs, QueueJob.identity_updateIf fun _ => rfl, fun j hj => ⟨?_, ?_⟩⟩,
    ⟨_, h'.blocks, QueueBlock.identity_updateIf fun _ => rfl, fun b hb => ⟨?_, ?_⟩⟩,
    fun _ => ?_, fun h_ne => absurd rfl h_ne⟩
  · intro h_j
    have h_j : j.state = .running := List.mem_singleton.mp h_j
    rw [updateIf_pos (by rw [decide_eq_true_iff, h_done]; exact ⟨hj, h_j⟩)]
    rfl
  · intro h_j
    have h_j : j.state ≠ .running := fun h_eq => h_j (List.mem_singleton.mpr h_eq)
    refine updateIf_neg fun h_in => h_j ?_
    exact ((h_done j).mp (of_decide_eq_true h_in)).2
  · -- a block with a running job runs, so all its jobs do, and all are completed
    rintro ⟨j, hj, h_j⟩
    have h_j : j.state = .running := List.mem_singleton.mp h_j
    obtain ⟨h_open, -⟩ := h.inStep.active_parent hb hj (by rw [h_j]; decide)
    have h_b := (h.inStep b hb h_open).running hj h_j
    have h_all : ∀ d ∈ jobsOf s.ledger.jobs b, d.state = .running := by
      refine (h.uniform b hb h_open h_b).resolve_right fun h_ended => ?_
      have h_j_ended := h_ended j hj
      rw [h_j] at h_j_ended
      exact nomatch h_j_ended
    have h_settled : settledBy s.ledger running.reverse b = true :=
      decide_eq_true ⟨List.ne_nil_of_mem hj, fun d hd =>
        (h_done d).mpr ⟨(mem_jobsOf.mp hd).1, h_all d hd⟩⟩
    rw [updateIf_pos h_settled]
    rfl
  · -- a block none of whose jobs runs is not settled by the report
    intro h_none
    refine updateIf_neg fun h_settled => ?_
    obtain ⟨h_some, h_in⟩ := of_decide_eq_true h_settled
    obtain ⟨j, hj⟩ := List.exists_mem_of_ne_nil _ h_some
    exact h_none j hj (List.mem_singleton.mpr ((h_done j).mp (h_in j hj)).2)
  · rw [h'.rooms]
    refine List.map_congr_left fun room _ => ?_
    unfold completedRoom
    simp only [List.mem_reverse, h_running]

/-! ### Every report -/

/-- **Observations are total, and do exactly what the robot reported.** In every state of
every run of the integration from an empty ledger, every report that is not in the past of
the ledger is accepted, and changes the jobs it is about, their blocks and their rooms, and
nothing else. -/
theorem observations_total (s : PlannerState) (h_empty : s.ledger = QueueLedger.empty)
    (commands : List IntegrationCommand)
    (h_run : EachStep IntegrationCommand.run Issued s commands) (n : ℕ)
    (outcome : ObservationOutcome) (observedAt : Instant) (revisionIds : ℕ → String)
    (h_now : (stateAt IntegrationCommand.run s commands n).ledger.NotBefore observedAt)
    (h_fresh : FreshIds revisionIds (stateAt IntegrationCommand.run s commands n).planRevision) :
    ∃ s', observe outcome observedAt revisionIds (stateAt IntegrationCommand.run s commands n) =
        .ok s' ∧
      ReportApplied outcome observedAt (stateAt IntegrationCommand.run s commands n) s' := by
  have h_lockstep := Lockstep.stateAt h_empty h_run n
  cases outcome with
  | running => exact observeRunning_total h_lockstep h_now
  | completed => exact observeCompleted_total h_lockstep h_now h_fresh
  | failed => exact observeFailed_total h_lockstep h_now
  | uncertain => exact observeUncertain_total h_lockstep h_now

/-- Revision ids of one letter, longer each time. -/
def letterIds (n : ℕ) : String := String.ofList (List.replicate (n + 1) 'a')

theorem letterIds_fresh : FreshIds letterIds kitchenPlan where
  text n := by
    unfold letterIds isBlank
    rw [String.toList_ofList, List.replicate_succ, List.all_cons]
    rfl
  distinct m n h := by
    have h_length := congrArg String.length h
    simpa [letterIds] using h_length
  new n h := by
    have h_head := congrArg (fun id => id.toList.head?) h
    unfold letterIds at h_head
    rw [String.toList_ofList, List.replicate_succ, List.head?_cons] at h_head
    exact absurd h_head (by decide)

/-- The kitchen's dispatch until the vacuum runs it. -/
def dispatchedKitchen : List IntegrationCommand :=
  [.startDueBlock kitchenSnapshot "robot" "key" 0 kitchenIds false, .claim "block" 1,
    .recordDispatchAcceptance "block" (sealedJobs kitchenSnapshot 0 kitchenIds) 2,
    .observe .running 3 kitchenIds]

theorem observations_total_kitchen :
    ∃ s', observe .completed 9 letterIds
        (stateAt IntegrationCommand.run kitchenState dispatchedKitchen 4) = .ok s' ∧
      ReportApplied .completed 9 (stateAt IntegrationCommand.run kitchenState dispatchedKitchen 4)
        s' := by
  refine observations_total kitchenState rfl dispatchedKitchen
    ⟨trivial, trivial, by unfold Issued; decide, trivial, trivial⟩ 4 .completed 9 letterIds ?_ ?_
  · unfold QueueLedger.NotBefore
    decide
  · exact letterIds_fresh

end VacuumPlanner
