import VacuumPlanner.Due
import VacuumPlanner.Finishing

/-!
# A cleaned room is not due

A completion and the next evaluation of the plan meet in two timestamps of the room. The
completion raises the one its mode satisfies, or both (`advanceRoom`); the evaluation takes
the latest completion that satisfies the preferred mode. So after a completion that
satisfies it the room is due an interval after the completion at the earliest, whatever was
stored before (`not_due_after_completion`), and the due rooms of the advanced plan are those
of the plan before without it (`dueRooms_advanced`).
-/

namespace VacuumPlanner

open Framework

variable {plan plan' : PlanRevision} {room : RoomPlan} {job : QueueJob} {t now : Instant}
  {bindings : String → Option AreaBinding}

/-- The last satisfying completion is the latest of them. -/
theorem RoomPlan.le_lastSatisfied (h : t ∈ room.satisfying) :
    ∃ last, room.lastSatisfied = some last ∧ t ≤ last := by
  obtain ⟨last, h_last⟩ := Option.isSome_iff_exists.mp (List.isSome_max?_of_mem h)
  exact ⟨last, h_last, (List.max?_eq_some_iff.mp h_last).2 t h⟩

/-- A completion satisfies the preferred mode of a room when the room prefers vacuuming, or
the job mopped. -/
def Satisfies (job : QueueJob) (room : RoomPlan) : Prop :=
  room.preferredMode = .vacuum ∨ room.preferredMode = .vacuumAndMop ∧ job.mode = .vacuumAndMop

/-- **A room that was just cleaned** is not due before its interval has passed. -/
theorem not_due_after_completion (h : Satisfies job room)
    (h_now : now < t + room.intervalDays * day) : ¬ (advanceRoom job t room).IsDue now := by
  -- the completion is among the ones that satisfy the preferred mode
  have h_mem : ∃ t' ∈ (advanceRoom job t room).satisfying, t ≤ t' := by
    unfold RoomPlan.satisfying
    rcases h with h_vacuum | ⟨h_mop, h_job⟩
    · have h_mode : (advanceRoom job t room).preferredMode = .vacuum := h_vacuum
      rw [h_mode]
      refine ⟨latestCompletion room.lastCompletedVacuumAt t, ?_, le_latestCompletion _ _⟩
      exact List.mem_filterMap.mpr ⟨_, List.mem_cons_self, rfl⟩
    · have h_mode : (advanceRoom job t room).preferredMode = .vacuumAndMop := h_mop
      rw [h_mode]
      refine ⟨latestCompletion room.lastCompletedVacuumAndMopAt t, ?_, le_latestCompletion _ _⟩
      refine List.mem_filterMap.mpr ⟨_, List.mem_singleton_self _, ?_⟩
      exact if_pos h_job
  obtain ⟨t', h_t', h_le⟩ := h_mem
  obtain ⟨last, h_last, h_le'⟩ := RoomPlan.le_lastSatisfied h_t'
  rintro ⟨-, -, h_due⟩
  unfold RoomPlan.dueTime at h_due
  rw [h_last] at h_due
  have h_interval : last + room.intervalDays * day ≤ now := h_due
  have h_late : t ≤ last := h_le.trans h_le'
  linarith

/-- **The due rooms of the advanced plan** are those of the plan before, without the room
that was cleaned. -/
theorem dueRooms_advanced (h_room : room ∈ plan.roomPlans) (h_area : room.areaId = job.areaId)
    (h : Satisfies job room) (h_now : now < t + room.intervalDays * day)
    (h_plan : plan'.roomPlans =
      plan.roomPlans.map (updateIf (·.areaId = job.areaId) (advanceRoom job t))) :
    dueRooms plan' now = (dueRooms plan now).filter fun r => !decide (r.areaId = job.areaId) := by
  unfold dueRooms
  rw [h_plan]
  refine filter_map_updateIf fun r h_r h_same => ?_
  have h_eq : r = room :=
    eq_of_key plan.checks.2.2.1 h_r h_room ((of_decide_eq_true h_same).trans h_area.symm)
  rw [h_eq]
  exact decide_eq_false (not_due_after_completion h h_now)

/-- The jobs of some rooms of a plan are the jobs of all of them that are in their areas. -/
theorem dueJobs_filter (p : String → Bool) :
    dueJobs bindings now ((dueRooms plan now).filter fun r => p r.areaId) =
      (dueJobs bindings now (dueRooms plan now)).filter fun j => p j.areaId := by
  unfold dueJobs
  rw [sortBy_filter _ (dueRooms_nodup plan now), List.filterMap_filter, List.filter_filterMap]
  refine List.filterMap_congr fun r _ => ?_
  cases bindings r.areaId with
  | none => cases p r.areaId <;> rfl
  | some binding =>
    have h_area : (dueJob r now binding).areaId = r.areaId := rfl
    rw [Option.map_some, Option.filter_some, h_area]

/-- **A room that was just cleaned is not planned again before its interval**, and the work
planned for the other rooms stays as it was. -/
theorem cleaned_room_not_planned (L : QueueLedger) (plan : PlanRevision) (job : QueueJob)
    (hj : job ∈ L.jobs) (t : Instant) (nextRevisionId : String) (result : CompletionResult)
    (h_completed : completeJobAndAdvancePlan L plan job.jobId t nextRevisionId = .ok result)
    (room : RoomPlan) (h_room : room ∈ plan.roomPlans) (h_area : room.areaId = job.areaId)
    (e : Instant)
    (h_recent : (room.preferredMode = .vacuum ∧ e < t + room.vacuumIntervalDays * day) ∨
      (room.preferredMode = .vacuumAndMop ∧ job.mode = .vacuumAndMop ∧
        ∃ days ∈ room.vacuumAndMopIntervalDays, e < t + days * day))
    (bindings : String → Option AreaBinding) (offsets offsets' : Offsets) :
    (∀ snapshot', buildDueSnapshot offsets' result.planRevision bindings e = .ok snapshot' →
      (∀ j ∈ snapshot'.jobs, j.areaId ≠ job.areaId) ∧
        ∀ snapshot, buildDueSnapshot offsets plan bindings e = .ok snapshot →
          snapshot'.jobs = snapshot.jobs.filter fun j => j.areaId ≠ job.areaId) ∧
    ((∀ r ∈ result.planRevision.roomPlans, r.Datable offsets') →
      ∀ snapshot, buildDueSnapshot offsets plan bindings e = .ok snapshot →
        ∃ snapshot', buildDueSnapshot offsets' result.planRevision bindings e = .ok snapshot') := by
  obtain ⟨j, hj', h_id, -, -, -, -, -, -, -, h_rooms⟩ := completeJobAndAdvancePlan_ok h_completed
  obtain rfl := eq_of_key L.valid.jobIds hj' hj h_id
  -- the job is one that the mode of the room asks for
  have h_satisfies : Satisfies j room := by
    rcases h_recent with ⟨h_vacuum, -⟩ | ⟨h_mop, h_job, -⟩
    · exact Or.inl h_vacuum
    · exact Or.inr ⟨h_mop, h_job⟩
  have h_now : e < t + room.intervalDays * day := by
    unfold RoomPlan.intervalDays
    rcases h_recent with ⟨h_vacuum, h_lt⟩ | ⟨h_mop, -, days, h_days, h_lt⟩
    · rw [h_vacuum]
      exact h_lt
    · rw [h_mop, Option.mem_def.mp h_days]
      exact h_lt
  -- the room drops out of what is due, and nothing else changes
  have h_due := dueRooms_advanced h_room h_area h_satisfies h_now h_rooms
  constructor
  · intro snapshot' h_run'
    have h_jobs' := (buildDueSnapshot_ok h_run').2
    rw [h_due, dueJobs_filter fun area => !decide (area = j.areaId)] at h_jobs'
    rw [h_jobs']
    constructor
    · intro k hk h_same
      have h_kept := (List.mem_filter.mp hk).2
      rw [h_same, decide_eq_true rfl] at h_kept
      exact Bool.false_ne_true h_kept
    · intro snapshot h_run
      rw [(buildDueSnapshot_ok h_run).2]
      refine List.filter_congr fun k _ => ?_
      rw [← decide_not]
  · intro h_datable snapshot h_run
    have h_usable := (buildDueSnapshot_ok h_run).1
    have h_nonempty : result.planRevision.roomPlans ≠ [] := by
      rw [h_rooms]
      exact List.ne_nil_of_mem (List.mem_map_of_mem h_room)
    -- what is due of the advanced plan was due of the plan before
    have h_usable' : ∀ r ∈ dueRooms result.planRevision e, Usable bindings r := by
      intro r h_r
      rw [h_due] at h_r
      exact h_usable r (List.mem_filter.mp h_r).1
    obtain ⟨snapshot', h_run', -⟩ := buildDueSnapshot_isOk h_nonempty
      (fun r h_r _ => (h_datable r h_r).inRange) h_usable'
    exact ⟨snapshot', h_run'⟩

/-- The kitchen is due every day, and was cleaned an instant ago. -/
theorem cleaned_room_not_planned_kitchen :
    ∃ result, completeJobAndAdvancePlan runningKitchen kitchenPlan kitchenJob.jobId 9 "next" =
        .ok result ∧
      ∃ snapshot', buildDueSnapshot .utc result.planRevision houseBindings 10 = .ok snapshot' ∧
        ∀ j ∈ snapshot'.jobs, j.areaId ≠ kitchenJob.areaId := by
  have h_start : Before kitchenJob.startedAt (some (9 : Instant)) := by decide
  have h_commit : Before kitchenBlock.committedAt (some (9 : Instant)) := by decide
  have h_text : isBlank "next" = false := by decide
  have h_id : "next" ≠ kitchenPlan.revisionId := by decide
  have h_lane : ∀ room ∈ kitchenPlan.roomPlans.head?, room.laneId = kitchenBlock.laneId := by
    decide
  -- the kitchen has been cleaned at nine
  obtain ⟨result, h_result, -, -, h_plan⟩ := completeJobAndAdvancePlan_isOk (L := runningKitchen)
    (by decide) rfl (by decide) rfl (by decide) h_lane h_start h_commit h_text h_id
  have h_rooms : result.planRevision.roomPlans =
      (advancedPlan kitchenJob 9 "next" kitchenPlan).roomPlans := h_plan.roomPlans
  obtain ⟨h_not, h_total⟩ := cleaned_room_not_planned runningKitchen kitchenPlan kitchenJob
    (by decide) 9 "next" result h_result _ List.mem_cons_self rfl 10 (Or.inl ⟨rfl, by decide⟩)
    houseBindings .utc .utc
  -- and is evaluated at ten, with a binding for every room
  have h_usable : ∀ room ∈ dueRooms kitchenPlan 10, Usable houseBindings room := by decide
  have h_inRange : ∀ room ∈ kitchenPlan.roomPlans, room.Datable .utc := by decide
  obtain ⟨snapshot, h_run, -⟩ := buildDueSnapshot_isOk (by decide)
    (fun room h_room _ => (h_inRange room h_room).inRange) h_usable
  have h_datable : ∀ r ∈ result.planRevision.roomPlans, r.Datable .utc := by
    rw [h_rooms]
    decide
  obtain ⟨snapshot', h_run'⟩ := h_total h_datable snapshot h_run
  exact ⟨result, h_result, snapshot', h_run', (h_not snapshot' h_run').1⟩

end VacuumPlanner
