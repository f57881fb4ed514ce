import VacuumPlanner.Completion
import VacuumPlanner.Reached
import VacuumPlanner.SendOnce

/-!
# The plan is a projection of the ledger

What the planner knows of the past it keeps twice: the ledger has every job with the time it was
finished, and every room of the plan has the time of its last completion. The two are written by
different commands, the plan is replaced as a whole by every setting a user changes, and the
ledger by every step of a dispatch. Yet the second copy is always the one the first calls for
(`Projects`): no completion is lost, and none is made up.

`SameCompleted` is what all commands but one keep of the ledger, and `CompletesJob` what one
completion adds; the timestamps depend on the set of completions only (`latest_congr`,
`latest_insert`), so neither the order of the jobs nor that of the reports matters.
-/

namespace VacuumPlanner

open Framework

/-! ### The latest completion -/

/-- The latest of some completions and of what there was before them. -/
def latest (base : Option Instant) (completions : List Instant) : Option Instant :=
  (base.toList ++ completions).max?

variable {base : Option Instant} {completions completions' : List Instant} {t : Instant}

theorem latest_eq_some : latest base completions = some t ↔
    (base = some t ∨ t ∈ completions) ∧ (∀ u ∈ base, u ≤ t) ∧ ∀ u ∈ completions, u ≤ t := by
  unfold latest
  rw [List.max?_eq_some_iff, List.mem_append, Option.mem_toList, List.forall_mem_append]
  simp only [Option.mem_toList, Option.mem_def]

/-- It depends on the set of completions only. -/
theorem latest_congr (h : ∀ u, u ∈ completions' ↔ u ∈ completions) :
    latest base completions' = latest base completions := by
  ext t
  rw [latest_eq_some, latest_eq_some, h t]
  simp only [h]

/-- One more completion. -/
theorem latest_insert (h : ∀ u, u ∈ completions' ↔ u ∈ completions ∨ u = t) :
    latest base completions' = some (latestCompletion (latest base completions) t) := by
  rw [latest_eq_some]
  cases h_last : latest base completions with
  | none =>
    -- nothing before it
    have h_nil : base.toList ++ completions = [] := List.max?_eq_none_iff.mp h_last
    obtain ⟨h_base, h_completions⟩ := List.append_eq_nil_iff.mp h_nil
    obtain rfl := Option.toList_eq_nil_iff.mp h_base
    subst h_completions
    refine ⟨Or.inr ((h t).mpr (Or.inr rfl)), nofun, fun u h_u => ?_⟩
    exact (((h u).mp h_u).resolve_left List.not_mem_nil).le
  | some last =>
    obtain ⟨h_mem, h_base, h_le⟩ := latest_eq_some.mp h_last
    show (base = some (max last t) ∨ max last t ∈ completions') ∧
      (∀ u ∈ base, u ≤ max last t) ∧ ∀ u ∈ completions', u ≤ max last t
    -- the later of the two is a bound, and one of them
    refine ⟨?_, fun u h_u => (h_base u h_u).trans (le_max_left ..), fun u h_u => ?_⟩
    · rcases max_choice last t with h_max | h_max
      · rw [h_max, h last]
        exact h_mem.imp_right Or.inl
      · rw [h_max]
        exact Or.inr ((h t).mpr (Or.inr rfl))
    · rcases (h u).mp h_u with h_old | rfl
      · exact (h_le u h_old).trans (le_max_left ..)
      · exact le_max_right ..

/-! ### The completions of a ledger -/

/-- When the completed jobs of an area were finished, in the modes that count. -/
def areaCompletions (L : QueueLedger) (areaId : String) (modes : List Mode) : List Instant :=
  (L.jobs.filter fun job => job.state = .completed ∧ job.areaId = areaId ∧ job.mode ∈ modes).filterMap
    (·.finishedAt)

variable {L L' : QueueLedger} {s s' : PlannerState} {areaId : String} {modes : List Mode}

theorem mem_areaCompletions : t ∈ areaCompletions L areaId modes ↔
    ∃ job ∈ L.jobs, job.state = .completed ∧ job.areaId = areaId ∧ job.mode ∈ modes ∧
      job.finishedAt = some t := by
  unfold areaCompletions
  simp only [List.mem_filterMap, List.mem_filter, decide_eq_true_eq, and_assoc]

/-- The completed jobs are the same. -/
def SameCompleted (L L' : QueueLedger) : Prop :=
  ∀ job : QueueJob, job.state = .completed → (job ∈ L'.jobs ↔ job ∈ L.jobs)

theorem SameCompleted.mem_areaCompletions (h : SameCompleted L L') :
    t ∈ areaCompletions L' areaId modes ↔ t ∈ areaCompletions L areaId modes := by
  rw [VacuumPlanner.mem_areaCompletions, VacuumPlanner.mem_areaCompletions]
  refine exists_congr fun job => ⟨?_, ?_⟩
  · rintro ⟨h_job, h_completed, h_rest⟩
    exact ⟨(h job h_completed).mp h_job, h_completed, h_rest⟩
  · rintro ⟨h_job, h_completed, h_rest⟩
    exact ⟨(h job h_completed).mpr h_job, h_completed, h_rest⟩

/-- A rewrite that moves no job to or from `COMPLETED`. -/
theorem SameCompleted.of_rewrites {R : QueueJob → QueueJob → Prop} (h : Rewrites R L L')
    (h_R : ∀ j j', R j j' → j.state ≠ .completed ∧ j'.state ≠ .completed) : SameCompleted L L' := by
  intro job h_completed
  constructor
  · intro h_job
    obtain ⟨i, h_i⟩ := List.getElem?_of_mem h_job
    have h_lt : i < L.jobs.length := by
      rw [← h.jobCount]
      exact (List.getElem?_eq_some_iff.mp h_i).1
    obtain ⟨j, h_j, rfl | h_moved⟩ := h.jobs.getElem?_of_lt h_lt h_i
    · exact List.mem_of_getElem? h_j
    · exact absurd h_completed (h_R _ _ h_moved).2
  · intro h_job
    obtain ⟨j', h_j', rfl | h_moved⟩ := h.jobs.exists_mem h_job
    · exact h_j'
    · exact absurd h_completed (h_R _ _ h_moved).1

theorem SameCompleted.of_moved {moves : List (JobState × JobState)}
    (h : Rewrites (JobMoved moves) L L')
    (h_moves : ∀ move ∈ moves, move.1 ≠ .completed ∧ move.2 ≠ .completed) : SameCompleted L L' :=
  .of_rewrites h fun _ _ h_moved => h_moves _ h_moved.move

/-- A new block brings pending jobs only. -/
theorem SameCompleted.of_seals {block : QueueBlock} {children : List QueueJob}
    (h : BlockSealed L L' block children) : SameCompleted L L' := by
  intro job h_completed
  rw [h.jobs, List.mem_append, or_iff_left]
  intro h_new
  rw [(h.pending job h_new).2.1] at h_completed
  exact absurd h_completed (by decide)

/-! ### The projection -/

/-- What a plan says of the past of a room before the ledger begins. -/
abbrev Past := String → Option Instant × Option Instant

/-- The plan says of every room what the ledger has of it, after the past `before`. -/
structure Projects (before : Past) (s : PlannerState) : Prop where
  vacuum : ∀ room ∈ s.planRevision.roomPlans, room.lastCompletedVacuumAt =
    latest (before room.areaId).1
      (areaCompletions s.ledger room.areaId [.vacuum, .vacuumAndMop])
  mop : ∀ room ∈ s.planRevision.roomPlans, room.lastCompletedVacuumAndMopAt =
    latest (before room.areaId).2 (areaCompletions s.ledger room.areaId [.vacuumAndMop])

variable {before : Past}

/-- The completed jobs and the past of the rooms are the same. -/
structure NoneCompleted (s s' : PlannerState) : Prop where
  jobs : SameCompleted s.ledger s'.ledger
  count : s'.planRevision.roomPlans.length = s.planRevision.roomPlans.length
  rooms : ∀ room' ∈ s'.planRevision.roomPlans, ∃ room ∈ s.planRevision.roomPlans,
    SameCompletions room room'

theorem NoneCompleted.refl (s : PlannerState) : NoneCompleted s s :=
  ⟨fun _ _ => Iff.rfl, rfl, fun room h_room => ⟨room, h_room, rfl, rfl, rfl⟩⟩

theorem NoneCompleted.of_ledger (h_jobs : SameCompleted s.ledger s'.ledger)
    (h_plan : s'.planRevision = s.planRevision) : NoneCompleted s s' :=
  ⟨h_jobs, by rw [h_plan], fun room h_room => ⟨room, h_plan ▸ h_room, rfl, rfl, rfl⟩⟩

theorem NoneCompleted.of_revised (h : PlanRevised s s') : NoneCompleted s s' := by
  refine ⟨fun job _ => by rw [h.ledger], h.count, fun room' h_room' => ?_⟩
  obtain ⟨i, h_i⟩ := List.getElem?_of_mem h_room'
  have h_lt : i < s.planRevision.roomPlans.length := by
    rw [← h.count]
    exact (List.getElem?_eq_some_iff.mp h_i).1
  obtain ⟨room, h_room, h_same⟩ := h.rooms.getElem?_of_lt h_lt h_i
  exact ⟨room, List.mem_of_getElem? h_room, h_same⟩

theorem Projects.noneCompleted (h : Projects before s) (h_same : NoneCompleted s s') :
    Projects before s' where
  vacuum room' h_room' := by
    obtain ⟨room, h_room, h_same'⟩ := h_same.rooms room' h_room'
    rw [h_same'.vacuum, h_same'.areaId, h.vacuum room h_room]
    exact (latest_congr fun _ => h_same.jobs.mem_areaCompletions).symm
  mop room' h_room' := by
    obtain ⟨room, h_room, h_same'⟩ := h_same.rooms room' h_room'
    rw [h_same'.mop, h_same'.areaId, h.mop room h_room]
    exact (latest_congr fun _ => h_same.jobs.mem_areaCompletions).symm

/-! ### A completion -/

/-- One job of an area has completed at `t`, and nothing else has. -/
structure CompletesJob (L L' : QueueLedger) (job : QueueJob) (t : Instant) : Prop where
  completed : ∀ areaId modes u, u ∈ areaCompletions L' areaId modes ↔
    u ∈ areaCompletions L areaId modes ∨ u = t ∧ job.areaId = areaId ∧ job.mode ∈ modes

/-- The rooms of a completion. -/
theorem Projects.completes {job : QueueJob} (h : Projects before s)
    (h_job : CompletesJob s.ledger s'.ledger job t)
    (h_rooms : s'.planRevision.roomPlans =
      s.planRevision.roomPlans.map (updateIf (·.areaId = job.areaId) (advanceRoom job t))) :
    Projects before s' := by
  -- a timestamp whose completions are the same, or one more
  have h_same {areaId : String} {modes : List Mode} {base : Option Instant}
      (h_not : ¬ (job.areaId = areaId ∧ job.mode ∈ modes)) :
      latest base (areaCompletions s'.ledger areaId modes) =
        latest base (areaCompletions s.ledger areaId modes) :=
    latest_congr fun u => by rw [h_job.completed, or_iff_left fun h => h_not h.2]
  have h_more {areaId : String} {modes : List Mode} {base : Option Instant}
      (h_area : job.areaId = areaId) (h_mode : job.mode ∈ modes) :
      latest base (areaCompletions s'.ledger areaId modes) =
        some (latestCompletion (latest base (areaCompletions s.ledger areaId modes)) t) :=
    latest_insert fun u => by
      rw [h_job.completed, and_iff_left (⟨h_area, h_mode⟩ : job.areaId = areaId ∧ job.mode ∈ modes)]
  have h_any : job.mode ∈ [Mode.vacuum, .vacuumAndMop] := by
    cases job.mode <;> decide
  -- the room that is advanced has one completion more, in each mode that counts
  have h_each : ∀ room ∈ s.planRevision.roomPlans,
      (updateIf (·.areaId = job.areaId) (advanceRoom job t) room).lastCompletedVacuumAt =
        latest (before room.areaId).1
          (areaCompletions s'.ledger room.areaId [.vacuum, .vacuumAndMop]) ∧
      (updateIf (·.areaId = job.areaId) (advanceRoom job t) room).lastCompletedVacuumAndMopAt =
        latest (before room.areaId).2
          (areaCompletions s'.ledger room.areaId [.vacuumAndMop]) := by
    intro room h_room
    by_cases h_area : room.areaId = job.areaId
    · rw [updateIf_pos (by simpa using h_area), h_more h_area.symm h_any, ← h.vacuum room h_room]
      refine ⟨rfl, ?_⟩
      by_cases h_mode : job.mode = .vacuumAndMop
      · rw [h_more h_area.symm (h_mode ▸ List.mem_singleton_self _), ← h.mop room h_room]
        exact if_pos h_mode
      · rw [h_same fun h => h_mode (List.mem_singleton.mp h.2), ← h.mop room h_room]
        exact if_neg h_mode
    · rw [updateIf_neg (by simpa using h_area),
        h_same fun h => h_area h.1.symm, h_same fun h => h_area h.1.symm]
      exact ⟨h.vacuum room h_room, h.mop room h_room⟩
  have h_area (room : RoomPlan) :
      (updateIf (·.areaId = job.areaId) (advanceRoom job t) room).areaId = room.areaId := by
    unfold updateIf
    split <;> rfl
  constructor
  · rw [h_rooms, List.forall_mem_map]
    intro room h_room
    rw [h_area]
    exact (h_each room h_room).1
  · rw [h_rooms, List.forall_mem_map]
    intro room h_room
    rw [h_area]
    exact (h_each room h_room).2

/-- What `replace_job_state` makes of a running job that completes. -/
theorem completesJob_of_map {job : QueueJob} (h_job : job ∈ L.jobs) (h_running : job.state = .running)
    (h : L'.jobs = L.jobs.map (updateIf (·.jobId = job.jobId)
      (QueueLedger.changedJob .completed t none none none))) : CompletesJob L L' job t := by
  refine ⟨fun areaId modes u => ?_⟩
  rw [mem_areaCompletions, mem_areaCompletions, h]
  constructor
  · rintro ⟨j', h_j', h_completed, h_area, h_mode, h_finished⟩
    obtain ⟨j, h_j, rfl⟩ := List.mem_map.mp h_j'
    by_cases h_id : j.jobId = job.jobId
    · obtain rfl := eq_of_key L.valid.jobIds h_j h_job h_id
      rw [updateIf_pos (by simp)] at h_area h_mode h_finished
      exact Or.inr ⟨(Option.some.inj h_finished).symm, h_area, h_mode⟩
    · rw [updateIf_neg (by simpa using h_id)] at h_completed h_area h_mode h_finished
      exact Or.inl ⟨j, h_j, h_completed, h_area, h_mode, h_finished⟩
  · rintro (⟨j, h_j, h_completed, h_rest⟩ | ⟨rfl, h_area, h_mode⟩)
    · refine ⟨j, List.mem_map.mpr ⟨j, h_j, updateIf_neg fun h_id => ?_⟩, h_completed, h_rest⟩
      -- a completed job is not the running one
      obtain rfl := eq_of_key L.valid.jobIds h_j h_job (of_decide_eq_true h_id)
      rw [h_running] at h_completed
      exact absurd h_completed (by decide)
    · refine ⟨_, List.mem_map_of_mem h_job, ?_⟩
      rw [updateIf_pos (by simp)]
      exact ⟨rfl, h_area, h_mode, rfl⟩

/-- **One completion**: one running job is finished at `t`, and the rooms of its area advance. -/
structure JobCompletes (t : Instant) (job : QueueJob) (s s' : PlannerState) : Prop where
  mem : job ∈ s.ledger.jobs
  running : job.state = .running
  jobs : s'.ledger.jobs = s.ledger.jobs.map (updateIf (·.jobId = job.jobId)
    (QueueLedger.changedJob .completed t none none none))
  rooms : s'.planRevision.roomPlans =
    s.planRevision.roomPlans.map (updateIf (·.areaId = job.areaId) (advanceRoom job t))

theorem completeRunningJob_completes {entry : String × String}
    (h_run : completeRunningJob t s entry = .ok s') : ∃ job, JobCompletes t job s s' := by
  obtain ⟨result, h_result, h_state⟩ := bind_eq_ok.mp h_run
  obtain ⟨h_plan, h_ledger⟩ := PlannerState.construct_eq_ok.mp h_state
  obtain ⟨job, h_job, h_id, h_running, parent, -, -, C, h_C, h_closed, h_rooms⟩ :=
    completeJobAndAdvancePlan_ok h_result
  obtain ⟨-, -, -, -, -, -, -, -, -, -, -, -, h_fields⟩ := QueueLedger.replaceJobState_eq_ok.mp h_C
  refine ⟨job, h_job, h_running, ?_, h_plan ▸ h_rooms⟩
  rw [h_ledger, h_id]
  refine Eq.trans (b := C.jobs) ?_ (congrArg LedgerFields.jobs h_fields)
  -- closing the block touches no job
  rcases closeCompletedBlock_ok h_closed with ⟨-, h_same⟩ | ⟨-, h_jobs, -⟩
  · rw [h_same]
  · exact h_jobs

theorem Projects.completeRunningJob {entry : String × String} (h : Projects before s)
    (h_run : completeRunningJob t s entry = .ok s') : Projects before s' := by
  obtain ⟨job, h_job⟩ := completeRunningJob_completes h_run
  exact h.completes (completesJob_of_map h_job.mem h_job.running h_job.jobs) h_job.rooms

/-- What is completed after a completion was so before, or is finished at its time. -/
theorem JobCompletes.finished {job : QueueJob} (h : JobCompletes t job s s') :
    ∀ job' ∈ s'.ledger.jobs, job'.state = .completed →
      job' ∈ s.ledger.jobs ∨ job'.finishedAt = some t := by
  rw [h.jobs, List.forall_mem_map]
  intro job' h_job' _
  by_cases h_id : job'.jobId = job.jobId
  · rw [updateIf_pos (by simpa using h_id)]
    exact Or.inr rfl
  · rw [updateIf_neg (by simpa using h_id)]
    exact Or.inl h_job'

theorem Projects.completeRunningJobs {entries : List (String × String)} (h : Projects before s)
    (h_run : entries.foldlM (VacuumPlanner.completeRunningJob t) s = .ok s') :
    Projects before s' := by
  induction entries generalizing s with
  | nil =>
    obtain rfl : s = s' := pure_eq_ok.mp h_run
    exact h
  | cons entry entries ih =>
    rw [List.foldlM_cons] at h_run
    obtain ⟨s₁, h₁, h_rest⟩ := bind_eq_ok.mp h_run
    exact ih (h.completeRunningJob h₁) h_rest

theorem completeRunningJobs_finished {entries : List (String × String)}
    (h_run : entries.foldlM (VacuumPlanner.completeRunningJob t) s = .ok s') :
    ∀ job ∈ s'.ledger.jobs, job.state = .completed →
      job ∈ s.ledger.jobs ∨ job.finishedAt = some t := by
  induction entries generalizing s with
  | nil =>
    obtain rfl : s = s' := pure_eq_ok.mp h_run
    exact fun job h_job _ => Or.inl h_job
  | cons entry entries ih =>
    rw [List.foldlM_cons] at h_run
    obtain ⟨s₁, h₁, h_rest⟩ := bind_eq_ok.mp h_run
    obtain ⟨_, h_first⟩ := completeRunningJob_completes h₁
    intro job h_job h_completed
    rcases ih h_rest job h_job h_completed with h_before | h_finished
    · exact h_first.finished job h_before h_completed
    · exact Or.inr h_finished

/-! ### Every command -/

theorem cancelPendingBlock_noneCompleted {blockId : String} {now : Instant}
    (h_run : cancelPendingBlock s blockId now = .ok s') : NoneCompleted s s' := by
  obtain ⟨b, -, -, -, h_plan, -, -, h_rewrites⟩ := cancelPendingBlock_ok h_run
  exact .of_ledger (.of_moved h_rewrites (by decide)) h_plan

theorem resolveUncertainRun_noneCompleted {jobId : String} {resolution : UncertainResolution}
    {now : Instant} (h_run : resolveUncertainRun s jobId resolution now = .ok s') :
    NoneCompleted s s' := by
  obtain ⟨h_plan, h_resolve⟩ := resolveUncertainRun_ok h_run
  exact .of_ledger (.of_moved (resolveUncertainJob_rewrites h_resolve) (by decide)) h_plan

/-- A report that does not complete. -/
theorem observe_noneCompleted {outcome : ObservationOutcome} {revisionIds : ℕ → String}
    (h_run : observe outcome t revisionIds s = .ok s') (h_not : outcome ≠ .completed) :
    NoneCompleted s s' := by
  cases outcome with
  | running =>
    exact .of_ledger (.of_moved (observeRunning_ok h_run).2.2.2 (by decide))
      (observeRunning_ok h_run).1
  | completed => exact absurd rfl h_not
  | failed =>
    exact .of_ledger (.of_moved (observeFailed_rewrites h_run) (by decide))
      (observeFailed_ok h_run).plan
  | uncertain =>
    exact .of_ledger (.of_moved (observeUncertain_rewrites h_run) (by decide))
      (observeUncertain_ok h_run).plan

/-- **Only a report completes.** Any other command leaves the completed jobs and the past of the
rooms alone. -/
theorem RanAs.noneCompleted (h : RanAs none s s') : NoneCompleted s s' := by
  obtain ⟨c, -, h_run, h_none⟩ := h
  cases c with
  | integration command =>
    cases command with
    | startDueBlock snapshot laneId key now idFactory dryRun =>
      obtain ⟨result, h_result, h_made⟩ := bind_eq_ok.mp h_run
      obtain ⟨h_plan, h_ledger⟩ := PlannerState.construct_eq_ok.mp h_made
      refine .of_ledger ?_ h_plan
      rw [h_ledger]
      -- nothing is due, the block exists, or a new one is sealed
      rcases startDueBlock_ok h_result with ⟨b, -, -, -, rfl⟩ | ⟨-, rfl⟩ | ⟨b, jobs, -, -, -, h, -⟩
      · exact fun _ _ => Iff.rfl
      · exact fun _ _ => Iff.rfl
      · exact .of_seals h
    | cancelPendingBlock blockId cancelledAt => exact cancelPendingBlock_noneCompleted h_run
    | claim blockId now =>
      obtain ⟨⟨t, claimed⟩, h_claim, h_made⟩ := bind_eq_ok.mp h_run
      obtain rfl := Except.ok.inj h_made
      obtain ⟨b, -, -, ⟨-, rfl, -⟩ | ⟨-, h_plan, -, h_begin⟩⟩ := nativeDispatchClaim_ok h_claim
      · exact .refl _
      · -- a job that is claimed was pending and is dispatching
        refine .of_ledger (.of_rewrites (beginNativeBatchCommit_rewrites blockId h_begin)
          fun j j' h_sent => ?_) h_plan
        obtain ⟨sentAt, h_dispatched⟩ := h_sent.dispatched
        refine ⟨fun h_completed => ?_, fun h_completed => ?_⟩
        · have h_source := h_dispatched.source
          rw [h_completed] at h_source
          exact absurd h_source (by decide)
        · exact nomatch h_dispatched.state.symm.trans h_completed
    | recordDispatchAcceptance blockId jobs acceptedAt =>
      obtain ⟨b, -, -, ⟨-, rfl⟩ | ⟨-, h_plan, -, -, h_rewrites⟩⟩ := recordDispatchAcceptance_ok h_run
      · exact .refl _
      · exact .of_ledger (.of_moved h_rewrites (by decide)) h_plan
    | recordUncertain blockId reconciledAt =>
      obtain ⟨b, -, -, ⟨-, rfl⟩ | ⟨h_plan, h_quarantine⟩⟩ := recordUncertain_ok h_run
      · exact .refl _
      · exact .of_ledger (.of_moved (quarantineBlockDispatch_rewrites h_quarantine) (by decide))
          h_plan
    | observe outcome observedAt revisionIds =>
      -- a report that completes is no command without a time
      refine observe_noneCompleted h_run ?_
      rintro rfl
      exact nomatch h_none
    | resolveUncertainRun jobId resolution now => exact resolveUncertainRun_noneCompleted h_run
    | recover reconciledAt =>
      obtain ⟨L, h_L, h_made⟩ := bind_eq_ok.mp h_run
      obtain ⟨h_plan, rfl⟩ := PlannerState.construct_eq_ok.mp h_made
      exact .of_ledger (.of_moved (quarantineAmbiguousDispatches_rewrites h_L) (by decide)) h_plan
  | mutate mutation =>
    -- the actions revise the plan, but no completion
    cases mutation with
    | skipAreaToday => exact .of_revised (skipAreaToday_ok h_run)
    | postponeArea => exact .of_revised (postponeArea_ok h_run)
    | setNativeValue => exact .of_revised (setNativeValue_ok h_run)
    | cancelBlock blockId now => exact cancelPendingBlock_noneCompleted h_run
    | resolveUncertainRun jobId resolution now => exact resolveUncertainRun_noneCompleted h_run

/-- A command that completes jobs is a report of that time. -/
theorem RanAs.completed (h : RanAs (some t) s s') :
    ∃ revisionIds, observe .completed t revisionIds s = .ok s' := by
  obtain ⟨c, -, h_run, h_at⟩ := h
  cases c with
  | integration command =>
    cases command with
    | observe outcome observedAt revisionIds =>
      cases outcome with
      | completed =>
        obtain rfl := Option.some.inj h_at
        exact ⟨revisionIds, h_run⟩
      | running | failed | uncertain => exact nomatch h_at
    | startDueBlock | cancelPendingBlock | claim | recordDispatchAcceptance | recordUncertain |
      resolveUncertainRun | recover => exact nomatch h_at
  | mutate mutation => exact nomatch h_at

/-- No command adds or drops a room. -/
theorem Ran.roomCount (h : Ran s s') :
    s'.planRevision.roomPlans.length = s.planRevision.roomPlans.length := by
  obtain ⟨c, h_issued, h_run⟩ := h
  have h_ran : RanAs c.completesAt s s' := ⟨c, h_issued, h_run, rfl⟩
  cases h_at : c.completesAt with
  | none => exact (h_at ▸ h_ran).noneCompleted.count
  | some t =>
    obtain ⟨revisionIds, h_completed⟩ := (h_at ▸ h_ran).completed
    exact (completeRunningJobs_witnessed h_completed).count

/-- **Every command** keeps the plan a projection of the ledger. -/
theorem Projects.step (h : Projects before s) (h_ran : Ran s s') : Projects before s' := by
  obtain ⟨c, h_issued, h_run⟩ := h_ran
  have h_ran : RanAs c.completesAt s s' := ⟨c, h_issued, h_run, rfl⟩
  cases h_at : c.completesAt with
  | none => exact h.noneCompleted (h_at ▸ h_ran).noneCompleted
  | some t =>
    obtain ⟨revisionIds, h_completed⟩ := (h_at ▸ h_ran).completed
    exact h.completeRunningJobs h_completed

/-- A plan whose ledger is still empty. -/
theorem Projects.of_empty (h_ledger : s.ledger = QueueLedger.empty)
    (h_vacuum : ∀ room ∈ s.planRevision.roomPlans,
      room.lastCompletedVacuumAt = (before room.areaId).1)
    (h_mop : ∀ room ∈ s.planRevision.roomPlans,
      room.lastCompletedVacuumAndMopAt = (before room.areaId).2) : Projects before s := by
  have h_none (base : Option Instant) (areaId : String) (modes : List Mode) :
      latest base (areaCompletions s.ledger areaId modes) = base := by
    rw [h_ledger]
    cases base <;> rfl
  exact ⟨fun room h_room => by rw [h_none]; exact h_vacuum room h_room,
    fun room h_room => by rw [h_none]; exact h_mop room h_room⟩

/-- **The plan is a projection of the ledger**, in every planner state of every run: on disk, in
memory, pending or recovered, the last completion of a room is the latest of what the plan said
before the ledger began and of the times its completed jobs were finished, and the last mopping
the same of those that mopped. -/
theorem plan_projects_ledger (before : Past) (disk : PlannerState) (h_disk : Projects before disk)
    (events : List SystemEvent) (n : ℕ) :
    ∀ state ∈ (stateAt System.step (System.start disk) events n).states, Projects before state :=
  System.states_keep (fun _ _ h_ran h => h.step h_ran) h_disk events n

/-- A dispatch that the vacuum runs and completes, with its save still pending. -/
def completedDispatch : List SystemEvent :=
  .load 0 false true :: dispatched (kitchenStart "key" kitchenIds 0) ++
    ([.callService 0, .serviceReturned 0, .accept 0 1, .saved, .resumed,
      .observe .running 2 kitchenIds 0, .saved, .resumed,
      .observe .completed 3 laterIds 0] : List Act).map .act

theorem completedDispatch_completes :
    ∃ state ∈ (stateAt System.step (System.start kitchenState) completedDispatch 18).states,
      state.planRevision.roomPlans.map (·.lastCompletedVacuumAt) = [some 3] ∧
        areaCompletions state.ledger "kitchen" [.vacuum] = [3] := by decide

/-- What waits for its save says that the kitchen was cleaned, and has the job to show for it. -/
theorem plan_projects_ledger_kitchen :
    ∃ state ∈ (stateAt System.step (System.start kitchenState) completedDispatch 18).states,
      state.planRevision.roomPlans.map (·.lastCompletedVacuumAt) = [some 3] ∧
        Projects (fun _ => (none, none)) state := by
  obtain ⟨state, h_state, h_cleaned, -⟩ := completedDispatch_completes
  exact ⟨state, h_state, h_cleaned, plan_projects_ledger (fun _ => (none, none)) kitchenState
    (.of_empty rfl (by decide) (by decide)) completedDispatch 18 state h_state⟩

end VacuumPlanner
