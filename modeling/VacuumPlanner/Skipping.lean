import VacuumPlanner.Cleaned
import VacuumPlanner.Overflow

/-!
# Skipping an area today

`skip_area_today` writes the next midnight into `skip_until` of one room, over whatever was
there. At an instant before that midnight the room drops out of the due rooms, and the jobs of
the others stay as they were (`dueRooms_skipped`); from midnight on the room is due as if it
had never been skipped (`dueRooms_woken`).

So the action removes work as long as it does not end an earlier skip: when the room was
postponed further, the midnight wakes it before its time (`WokenEarly`), and that is the only
way work can appear (`skip_only_removes`).
-/

namespace VacuumPlanner

open Framework

variable {offsets : Offsets} {s s' : PlannerState} {plan plan' : PlanRevision} {room : RoomPlan}
  {bindings : String → Option AreaBinding} {snapshot snapshot' : PlanSnapshot}
  {areaId timeZone revisionId : String} {zoneInfo : String → Option (Instant → Instant)}
  {nextMidnight : Instant → Instant} {now e midnight : Instant}

/-! ### A room with another skip -/

/-- The room with a new `skip_until`. -/
def RoomPlan.skipTo (midnight : Instant) (room : RoomPlan) : RoomPlan :=
  { room with skipUntil := some midnight }

@[simp] theorem RoomPlan.skipTo_areaId : (room.skipTo midnight).areaId = room.areaId := rfl

@[simp] theorem RoomPlan.skipTo_dueTime : (room.skipTo midnight).dueTime e = room.dueTime e := rfl

theorem RoomPlan.skipTo_inRange :
    (room.skipTo midnight).InRange offsets ↔ room.InRange offsets :=
  ⟨fun h => ⟨h.vacuum, h.mop⟩, fun h => ⟨h.vacuum, h.mop⟩⟩

theorem RoomPlan.skipTo_awake :
    (room.skipTo midnight).Awake e ↔ room.enabled = true ∧ midnight ≤ e := by
  unfold Awake skipTo
  simp only [Option.mem_some_iff, forall_eq']

theorem RoomPlan.skipTo_isDue : (room.skipTo midnight).IsDue e ↔
    room.enabled = true ∧ midnight ≤ e ∧ room.dueTime e ≤ e := by
  have h_awake : (room.skipTo midnight).Awake e ↔ room.enabled = true ∧ midnight ≤ e :=
    RoomPlan.skipTo_awake
  unfold Awake at h_awake
  unfold IsDue
  rw [← and_assoc, h_awake, and_assoc, skipTo_dueTime]

/-- The plan after the action: one room has a new `skip_until`. -/
theorem skipAreaToday_rooms (h_zone : zoneInfo timeZone = some nextMidnight)
    (h : skipAreaToday zoneInfo s areaId now timeZone revisionId = .ok s') :
    s'.planRevision.roomPlans = s.planRevision.roomPlans.map
      (updateIf (·.areaId = areaId) (RoomPlan.skipTo (nextMidnight now))) := by
  obtain ⟨next, h_next, h⟩ := skipAreaToday_revises h
  obtain rfl : nextMidnight = next := Option.some.inj (h_zone.symm.trans h_next)
  exact (reviseRoom_ok h).2

/-! ### The due rooms after it -/

/-- Before midnight the room drops out. -/
theorem dueRooms_skipped
    (h_plan : plan'.roomPlans =
      plan.roomPlans.map (updateIf (·.areaId = areaId) (RoomPlan.skipTo midnight)))
    (h : e < midnight) :
    dueRooms plan' e = (dueRooms plan e).filter fun r => !decide (r.areaId = areaId) := by
  unfold dueRooms
  rw [h_plan]
  refine filter_map_updateIf fun r _ _ => ?_
  refine decide_eq_false fun h_due => ?_
  exact absurd (RoomPlan.skipTo_isDue.mp h_due).2.1 (not_le.mpr h)

/-- From midnight on it is due as if it had not been skipped. -/
theorem dueRooms_woken
    (h_plan : plan'.roomPlans =
      plan.roomPlans.map (updateIf (·.areaId = areaId) (RoomPlan.skipTo midnight)))
    (h : midnight ≤ e)
    (h_same : ∀ r ∈ plan.roomPlans, r.areaId = areaId → r.enabled = true → r.dueTime e ≤ e →
      ∀ t ∈ r.skipUntil, t ≤ e) :
    dueRooms plan' e =
      (dueRooms plan e).map (updateIf (·.areaId = areaId) (RoomPlan.skipTo midnight)) := by
  unfold dueRooms
  rw [h_plan, List.filter_map]
  refine congrArg _ (List.filter_congr fun r h_r => ?_)
  rw [Function.comp_apply, decide_eq_decide]
  -- from midnight on the skip is over, and the room is due by its interval
  by_cases h_area : r.areaId = areaId
  · have h_changed : updateIf (·.areaId = areaId) (RoomPlan.skipTo midnight) r =
        r.skipTo midnight := updateIf_pos (decide_eq_true h_area)
    rw [h_changed, RoomPlan.skipTo_isDue]
    constructor
    · rintro ⟨h_enabled, -, h_due⟩
      exact ⟨h_enabled, h_same r h_r h_area h_enabled h_due, h_due⟩
    · rintro ⟨h_enabled, -, h_due⟩
      exact ⟨h_enabled, h, h_due⟩
  · rw [updateIf_neg (by rw [decide_eq_true_iff]; exact h_area)]

/-- The jobs of due rooms do not depend on how long they were skipped. -/
theorem dueJobs_skipTo (p : RoomPlan → Bool) (rooms : List RoomPlan) :
    dueJobs bindings e (rooms.map (updateIf p (RoomPlan.skipTo midnight))) =
      dueJobs bindings e rooms := by
  have h_key : ∀ r ∈ rooms,
      (updateIf p (RoomPlan.skipTo midnight) r).dueKey e = r.dueKey e := by
    intro r _
    unfold updateIf
    split <;> rfl
  unfold dueJobs
  rw [← sortBy_map h_key, List.filterMap_map]
  refine List.filterMap_congr fun r _ => ?_
  rw [Function.comp_apply]
  unfold updateIf
  split <;> rfl

/-! ### Only removes -/

/-- At any later instant, with any bindings, the work is what it was without at most the job
of one area; and there is none for the area if there was none. -/
def OnlyRemoves (offsets : Offsets) (areaId : String) (now : Instant)
    (plan plan' : PlanRevision) : Prop :=
  ∀ e, now ≤ e → ∀ bindings snapshot snapshot',
    buildDueSnapshot offsets plan bindings e = .ok snapshot →
    buildDueSnapshot offsets plan' bindings e = .ok snapshot' →
    (snapshot'.jobs = snapshot.jobs ∨
      snapshot'.jobs = snapshot.jobs.filter fun job => job.areaId ≠ areaId) ∧
    ((∀ job ∈ snapshot.jobs, job.areaId ≠ areaId) →
      ∀ job ∈ snapshot'.jobs, job.areaId ≠ areaId)

/-- At the instant the area is due but for an earlier skip, which midnight has ended, and the
plan can be evaluated. -/
def WokenEarly (offsets : Offsets) (areaId : String) (midnight : Instant)
    (plan : PlanRevision) (e : Instant) : Prop :=
  midnight ≤ e ∧
    (∃ room ∈ plan.roomPlans, room.areaId = areaId ∧ room.enabled = true ∧
      room.dueTime e ≤ e ∧ ∃ t ∈ room.skipUntil, e < t) ∧
    ∀ room ∈ plan.roomPlans, room.areaId = areaId ∧ room.enabled = true ∨ room.Awake e →
      room.InRange offsets

/-- The work for an area that only lost its own job. -/
theorem onlyRemoves_of_jobs {areaId : String} {jobs jobs' : List SnapshotJob}
    (h : jobs' = jobs ∨ jobs' = jobs.filter fun job => job.areaId ≠ areaId) :
    (jobs' = jobs ∨ jobs' = jobs.filter fun job => job.areaId ≠ areaId) ∧
      ((∀ job ∈ jobs, job.areaId ≠ areaId) → ∀ job ∈ jobs', job.areaId ≠ areaId) := by
  refine ⟨h, fun h_none job h_job => ?_⟩
  rcases h with rfl | rfl
  · exact h_none job h_job
  · exact h_none job (List.mem_filter.mp h_job).1

/-- A binding for any area a room may have. -/
def ownBinding (areaId : String) : Option AreaBinding :=
  if h : (AreaBindingFields.mk areaId areaId .null true).postInit = .ok () then some ⟨_, h⟩
  else none

theorem usable_ownBinding (h_room : room ∈ plan.roomPlans) : Usable ownBinding room := by
  have h_check := plan.checks.1 room h_room
  unfold RoomPlan.postInit at h_check
  have h_text := (seq_eq_ok.mp h_check).1
  have h_binding : (AreaBindingFields.mk room.areaId room.areaId .null true).postInit = .ok () := by
    unfold AreaBindingFields.postInit
    rw [seq_eq_ok]
    exact ⟨requireText_eq_ok.mpr (requireText_eq_ok.mp h_text),
      requireText_eq_ok.mpr (requireText_eq_ok.mp h_text)⟩
  exact ⟨_, dif_pos h_binding, rfl, fun _ => rfl⟩

/-- In range, a plan with rooms is evaluated with these bindings. -/
theorem buildDueSnapshot_ownBinding (h_rooms : plan.roomPlans ≠ [])
    (h : ∀ room ∈ plan.roomPlans, room.Awake e → room.InRange offsets) :
    ∃ snapshot, buildDueSnapshot offsets plan ownBinding e = .ok snapshot ∧
      ∀ areaId, (∃ job ∈ snapshot.jobs, job.areaId = areaId) ↔
        ∃ room ∈ dueRooms plan e, room.areaId = areaId := by
  have h_usable : ∀ room ∈ dueRooms plan e, Usable ownBinding room := fun room h_room =>
    usable_ownBinding (List.mem_filter.mp h_room).1
  obtain ⟨snapshot, h_run, h_jobs, -⟩ := buildDueSnapshot_isOk h_rooms h h_usable
  refine ⟨snapshot, h_run, fun areaId => ?_⟩
  have h_areas : (dueJobs ownBinding e (dueRooms plan e)).map (·.areaId) =
      (sortBy (RoomPlan.dueKey e) (dueRooms plan e)).map (·.areaId) :=
    dueJobs_areas fun room h_room => (h_usable room h_room).ne_none
  rw [← h_jobs] at h_areas
  have h_perm := (sortBy_perm (RoomPlan.dueKey e) (dueRooms plan e)).map (·.areaId)
  rw [← List.mem_map, h_areas, h_perm.mem_iff, List.mem_map]

/-- **When skipping today only removes work.** The action takes nothing but the job of its
area out of the work of every later instant exactly when it ends no earlier skip of an area
that is due. -/
theorem skip_only_removes (offsets : Offsets) (zoneInfo : String → Option (Instant → Instant))
    (nextMidnight : Instant → Instant) (s s' : PlannerState)
    (areaId timeZone revisionId : String) (now : Instant)
    (h_zone : zoneInfo timeZone = some nextMidnight)
    (h : skipAreaToday zoneInfo s areaId now timeZone revisionId = .ok s') :
    OnlyRemoves offsets areaId now s.planRevision s'.planRevision ↔
      ∀ e, now ≤ e → ¬ WokenEarly offsets areaId (nextMidnight now) s.planRevision e := by
  have h_rooms := skipAreaToday_rooms h_zone h
  constructor
  · rintro h_removes e h_now ⟨h_midnight, ⟨room, h_room, h_area, h_enabled, h_due, t, h_t, h_lt⟩,
      h_inRange⟩
    -- the area is due after the action, and was not before
    have h_mem : room.skipTo (nextMidnight now) ∈ s'.planRevision.roomPlans := by
      rw [h_rooms, List.mem_map]
      exact ⟨room, h_room, updateIf_pos (decide_eq_true h_area)⟩
    have h_is_due : room.skipTo (nextMidnight now) ∈ dueRooms s'.planRevision e :=
      List.mem_filter.mpr ⟨h_mem, decide_eq_true
        (RoomPlan.skipTo_isDue.mpr ⟨h_enabled, h_midnight, h_due⟩)⟩
    have h_was_not : ¬ ∃ r ∈ dueRooms s.planRevision e, r.areaId = areaId := by
      rintro ⟨r, h_r, h_same⟩
      obtain ⟨h_r, h_r_due⟩ := List.mem_filter.mp h_r
      obtain rfl : r = room :=
        eq_of_key s.planRevision.checks.2.2.1 h_r h_room (h_same.trans h_area.symm)
      exact absurd ((of_decide_eq_true h_r_due).2.1 t h_t) (not_le.mpr h_lt)
    -- both evaluations come to their end
    have h_inRange' : ∀ r ∈ s'.planRevision.roomPlans, r.Awake e → r.InRange offsets := by
      rw [h_rooms, List.forall_mem_map]
      intro r h_r
      by_cases h_same : r.areaId = areaId
      · have h_changed : updateIf (·.areaId = areaId) (RoomPlan.skipTo (nextMidnight now)) r =
            r.skipTo (nextMidnight now) := updateIf_pos (decide_eq_true h_same)
        rw [h_changed, RoomPlan.skipTo_inRange]
        intro h_awake
        exact h_inRange r h_r (Or.inl ⟨h_same, (RoomPlan.skipTo_awake.mp h_awake).1⟩)
      · rw [updateIf_neg (by rw [decide_eq_true_iff]; exact h_same)]
        intro h_awake
        exact h_inRange r h_r (Or.inr h_awake)
    obtain ⟨snapshot, h_run, h_jobs⟩ := buildDueSnapshot_ownBinding (e := e)
      (List.ne_nil_of_mem h_room) fun r h_r h_awake => h_inRange r h_r (Or.inr h_awake)
    obtain ⟨snapshot', h_run', h_jobs'⟩ :=
      buildDueSnapshot_ownBinding (List.ne_nil_of_mem h_mem) h_inRange'
    obtain ⟨job, h_job, h_job_area⟩ := (h_jobs' areaId).mpr ⟨_, h_is_due, h_area⟩
    refine (h_removes e h_now _ snapshot snapshot' h_run h_run').2 ?_ job h_job h_job_area
    intro j h_j h_j_area
    exact h_was_not ((h_jobs areaId).mp ⟨j, h_j, h_j_area⟩)
  · intro h_never e h_now bindings snapshot snapshot' h_run h_run'
    refine onlyRemoves_of_jobs ?_
    rw [(buildDueSnapshot_ok h_run).2, (buildDueSnapshot_ok h_run').2]
    -- before midnight the area drops out, from midnight on it is due as before
    rcases lt_or_ge e (nextMidnight now) with h_before | h_after
    · refine Or.inr ?_
      rw [dueRooms_skipped h_rooms h_before, dueJobs_filter fun area => !decide (area = areaId)]
      refine List.filter_congr fun job _ => ?_
      rw [← decide_not]
    · refine Or.inl ?_
      rw [dueRooms_woken h_rooms h_after ?_, dueJobs_skipTo]
      intro room h_room h_area h_enabled h_due t h_t
      by_contra h_lt
      refine h_never e h_now ⟨h_after, ⟨room, h_room, h_area, h_enabled, h_due, t, h_t,
        not_le.mp h_lt⟩, fun r h_r h_awake => ?_⟩
      rcases h_awake with ⟨h_same, h_on⟩ | h_awake
      · -- it is evaluated after the action, from midnight on
        have h_mem : r.skipTo (nextMidnight now) ∈ s'.planRevision.roomPlans := by
          rw [h_rooms, List.mem_map]
          exact ⟨r, h_r, updateIf_pos (decide_eq_true h_same)⟩
        exact RoomPlan.skipTo_inRange.mp (inRange_of_buildDueSnapshot h_run' _ h_mem
          (RoomPlan.skipTo_awake.mpr ⟨h_on, h_after⟩))
      · exact inRange_of_buildDueSnapshot h_run r h_r h_awake

/-! ### A kitchen that was postponed -/

/-- A time zone whose days begin at the epoch. -/
def utc (timeZone : String) : Option (Instant → Instant) :=
  if timeZone = "UTC" then some fun now => (now / day + 1) * day else none

/-- The kitchen was postponed by five days. -/
def postponedState : PlannerState :=
  attempt (fun s => postponeArea s "kitchen" 0 5 "postponed") kitchenState

/-- A kitchen that was not skipped before. -/
theorem skip_only_removes_kitchen : ∃ s',
    skipAreaToday utc kitchenState "kitchen" 0 "UTC" "skipped" = .ok s' ∧
      OnlyRemoves .utc "kitchen" 0 kitchenState.planRevision s'.planRevision := by
  obtain ⟨s', h_skip⟩ : ∃ s', skipAreaToday utc kitchenState "kitchen" 0 "UTC" "skipped" = .ok s' :=
    ⟨_, rfl⟩
  refine ⟨s', h_skip, (skip_only_removes .utc utc (fun now => (now / day + 1) * day) kitchenState s'
    "kitchen" "UTC" "skipped" 0 rfl h_skip).mpr ?_⟩
  rintro e - ⟨-, ⟨room, h_room, -, -, -, t, h_t, -⟩, -⟩
  obtain rfl := List.mem_singleton.mp h_room
  exact nomatch h_t

/-- **A skip wakes a postponed area.** The kitchen was postponed to day 5. Skipping it today
makes it due on day 1, when it was not due before. -/
theorem skip_wakes_postponed : ∃ s',
    skipAreaToday utc postponedState "kitchen" 0 "UTC" "skipped" = .ok s' ∧
      ¬ OnlyRemoves .utc "kitchen" 0 postponedState.planRevision s'.planRevision := by
  obtain ⟨s', h_skip, snapshot', h_run', h_jobs'⟩ : ∃ s',
      skipAreaToday utc postponedState "kitchen" 0 "UTC" "skipped" = .ok s' ∧ ∃ snapshot',
        buildDueSnapshot .utc s'.planRevision houseBindings day = .ok snapshot' ∧
          snapshot'.jobs.map (·.areaId) = ["kitchen"] := ⟨_, rfl, _, rfl, rfl⟩
  obtain ⟨snapshot, h_run, h_jobs⟩ : ∃ snapshot,
      buildDueSnapshot .utc postponedState.planRevision houseBindings day = .ok snapshot ∧
        snapshot.jobs = [] := ⟨_, rfl, rfl⟩
  refine ⟨s', h_skip, fun h => ?_⟩
  rcases (h day (by decide) houseBindings snapshot snapshot' h_run h_run').1 with h_same | h_less
  · rw [h_same, h_jobs] at h_jobs'
    exact List.cons_ne_nil _ _ h_jobs'.symm
  · rw [h_less, h_jobs] at h_jobs'
    exact List.cons_ne_nil _ _ h_jobs'.symm

end VacuumPlanner
