import VacuumPlanner.Due

/-!
# Due planning and the range of dates

`_select_due` adds an interval to the last completion of a room, on the wall clock of that
completion, and the sum may lie outside the range of `datetime`. The constructors of the plan
and its loader accept any positive interval and any timestamp in any offset; only the number
entities and the options flow bound the interval. So a plan the store accepts can make the
evaluation raise `OverflowError`, which neither `next_action` nor `start_next` catches.

`selectDue_raises` says that this is all that can go wrong in the loop, and
`planning_in_range` when it does not: the sums of every room the loop does not pass over are
in range. After the loop only `PlanningValidationError` is left.
-/

namespace VacuumPlanner

open Framework

variable {offsets : Offsets} {plan : PlanRevision} {bindings : String → Option AreaBinding}
  {now : Instant} {room : RoomPlan} {snapshot : PlanSnapshot}

/-! ### One room -/

/-- A due time that cannot be formed raises `OverflowError`. -/
theorem dueAt_raises {last : Option Timestamp} {days : ℤ} {e : PyError}
    (h : dueAt last days now = .error e) :
    e = .overflowError ∧ ¬ ∀ t ∈ last, Representable t days := by
  cases last with
  | none => exact nomatch h
  | some last =>
    unfold dueAt addDays raiseIf at h
    dsimp only at h
    split at h
    · next h_range =>
      obtain rfl : .overflowError = e := Except.error.inj h
      exact ⟨rfl, fun h_all => h_range (h_all last rfl)⟩
    · exact nomatch h

/-- **`_select_due`** raises nothing but `OverflowError`, and only out of range. -/
theorem selectDue_raises {e : PyError} (h : selectDue offsets room now = .error e) :
    e = .overflowError ∧ ¬ room.InRange offsets := by
  unfold selectDue at h
  dsimp only at h
  -- `due_at` is called for vacuuming first, then for mopping if that has an interval
  cases h_vacuum : dueAt (maxOptional (room.completedVacuum offsets)
      (room.completedVacuumAndMop offsets)) room.vacuumIntervalDays now with
  | error e' =>
    rw [h_vacuum, error_bind] at h
    obtain rfl := Except.error.inj h
    obtain ⟨rfl, h_range⟩ := dueAt_raises h_vacuum
    exact ⟨rfl, fun h_all => h_range h_all.vacuum⟩
  | ok vacuumDue =>
    rw [h_vacuum, ok_bind] at h
    cases h_days : room.vacuumAndMopIntervalDays with
    | none =>
      rw [h_days] at h
      cases h_mode : room.preferredMode <;> rw [h_mode] at h <;> exact nomatch h
    | some days =>
      rw [h_days] at h
      cases h_mop : dueAt (room.completedVacuumAndMop offsets) days now with
      | error e' =>
        obtain ⟨rfl, h_range⟩ := dueAt_raises h_mop
        -- `_select_due` raises whatever the mopping date raises
        have h_raised : (some days).mapM (fun days =>
            dueAt (room.completedVacuumAndMop offsets) days now) = .error .overflowError := by
          change (dueAt (room.completedVacuumAndMop offsets) days now).map some = _
          rw [h_mop]
          rfl
        rw [h_raised, error_bind] at h
        obtain rfl := Except.error.inj h
        exact ⟨rfl, fun h_all => h_range fun t h_t => h_all.mop t h_t days h_days⟩
      | ok mopDue =>
        -- with both dates formed, the choice between them raises nothing
        have h_formed : (some days).mapM (fun days =>
            dueAt (room.completedVacuumAndMop offsets) days now) = .ok (some mopDue) := by
          change (dueAt (room.completedVacuumAndMop offsets) days now).map some = _
          rw [h_mop]
          rfl
        rw [h_formed, ok_bind] at h
        cases h_mode : room.preferredMode <;> rw [h_mode] at h <;> exact nomatch h

/-- What can be selected is in range. -/
theorem inRange_of_selectDue {selected : Option (Mode × Instant)}
    (h : selectDue offsets room now = .ok selected) : room.InRange offsets := by
  obtain ⟨vacuumDue, h_vacuum, h⟩ := bind_eq_ok.mp h
  obtain ⟨mopDue, h_mop, -⟩ := bind_eq_ok.mp h
  refine ⟨(dueAt_eq_ok.mp h_vacuum).1, fun last h_last days h_days => ?_⟩
  rw [h_days] at h_mop
  obtain ⟨due, h_due, -⟩ := map_eq_ok.mp h_mop
  exact (dueAt_eq_ok.mp h_due).1 last h_last

/-! ### The loop -/

theorem visitRoom_raises {found : List DueCandidate × List String} {e : PyError}
    (h : visitRoom offsets bindings now found room = .error e) : e = .overflowError := by
  unfold visitRoom at h
  split at h
  · exact nomatch h
  · cases h_selected : selectDue offsets room now with
    | error e' =>
      rw [h_selected, error_bind] at h
      obtain rfl := Except.error.inj h
      exact (selectDue_raises h_selected).1
    | ok selected =>
      rw [h_selected, ok_bind] at h
      cases selected <;> exact nomatch h

theorem visitRooms_raises {rooms : List RoomPlan} {found : List DueCandidate × List String}
    {e : PyError} (h : rooms.foldlM (visitRoom offsets bindings now) found = .error e) :
    e = .overflowError := by
  induction rooms generalizing found with
  | nil => exact nomatch h
  | cons room rooms ih =>
    rw [List.foldlM_cons] at h
    cases h_room : visitRoom offsets bindings now found room with
    | error e' =>
      rw [h_room, error_bind] at h
      obtain rfl := Except.error.inj h
      exact visitRoom_raises h_room
    | ok found₁ =>
      rw [h_room, ok_bind] at h
      exact ih h

/-- When the loop comes to its end, every room it did not pass over is in range. -/
theorem inRange_of_visitRooms {rooms : List RoomPlan}
    {found found' : List DueCandidate × List String}
    (h : rooms.foldlM (visitRoom offsets bindings now) found = .ok found') :
    ∀ room ∈ rooms, room.Awake now → room.InRange offsets := by
  induction rooms generalizing found with
  | nil => exact fun _ h_room => absurd h_room List.not_mem_nil
  | cons room rooms ih =>
    rw [List.foldlM_cons] at h
    obtain ⟨found₁, h_room, h_rest⟩ := bind_eq_ok.mp h
    rw [List.forall_mem_cons]
    refine ⟨fun h_awake => ?_, ih h_rest⟩
    unfold visitRoom at h_room
    rw [if_neg (awake_iff.mp h_awake)] at h_room
    obtain ⟨selected, h_selected, -⟩ := bind_eq_ok.mp h_room
    exact inRange_of_selectDue h_selected

/-! ### The evaluation -/

/-- The evaluation returns a snapshot or raises `PlanningValidationError`. -/
def Evaluates (offsets : Offsets) (plan : PlanRevision)
    (bindings : String → Option AreaBinding) (now : Instant) : Prop :=
  (∃ snapshot, buildDueSnapshot offsets plan bindings now = .ok snapshot) ∨
    ∃ errors, buildDueSnapshot offsets plan bindings now = .error (.planningValidationError errors)

/-- In range, nothing but an unusable binding stops the evaluation. -/
theorem Evaluates.of_inRange (h : ∀ room ∈ plan.roomPlans, room.Awake now → room.InRange offsets) :
    Evaluates offsets plan bindings now := by
  by_cases h_rooms : plan.roomPlans = []
  · refine Or.inr ⟨["plan revision has no lane-bound room plans"], ?_⟩
    unfold buildDueSnapshot
    rw [h_rooms]
  · by_cases h_usable : ∀ room ∈ dueRooms plan now, Usable bindings room
    · obtain ⟨snapshot, h_run, -⟩ := buildDueSnapshot_isOk h_rooms h h_usable
      exact Or.inl ⟨snapshot, h_run⟩
    · push Not at h_usable
      exact Or.inr ⟨_, buildDueSnapshot_error h_rooms h h_usable⟩

/-- What can be evaluated is in range. -/
theorem inRange_of_buildDueSnapshot (h : buildDueSnapshot offsets plan bindings now = .ok snapshot) :
    ∀ room ∈ plan.roomPlans, room.Awake now → room.InRange offsets := by
  unfold buildDueSnapshot at h
  split at h
  · exact nomatch h
  · next first rest h_first =>
    obtain ⟨found, h_found, -⟩ := bind_eq_ok.mp h
    exact inRange_of_visitRooms h_found

/-- **When planning does not overflow.** The evaluation returns a snapshot or raises
`PlanningValidationError` exactly when the sums of every enabled room that is not skipped
past the instant are in the range of `datetime`, on the wall clocks of its last completions. -/
theorem planning_in_range (offsets : Offsets) (plan : PlanRevision)
    (bindings : String → Option AreaBinding) (now : Instant) :
    Evaluates offsets plan bindings now ↔
      ∀ room ∈ plan.roomPlans, room.Awake now → room.InRange offsets := by
  constructor
  · intro h
    cases h_rooms : plan.roomPlans with
    | nil => exact fun _ h_room => absurd h_room List.not_mem_nil
    | cons first rest =>
      rw [← h_rooms]
      cases h_found : plan.roomPlans.foldlM (visitRoom offsets bindings now) ([], []) with
      | ok found => exact inRange_of_visitRooms h_found
      | error e =>
        -- what the loop raises the evaluation raises
        obtain rfl := visitRooms_raises h_found
        have h_raises : buildDueSnapshot offsets plan bindings now = .error .overflowError := by
          unfold buildDueSnapshot
          split
          · next h_nil => exact absurd (h_rooms.symm.trans h_nil) (List.cons_ne_nil _ _)
          · rw [h_found]
            rfl
        rcases h with ⟨snapshot, h⟩ | ⟨errors, h⟩
        · exact nomatch h_raises.symm.trans h
        · exact nomatch h_raises.symm.trans h
  · exact Evaluates.of_inRange

/-- A kitchen that was cleaned in 1970 and is to be cleaned again in ten thousand years. -/
def patientPlan : PlanRevision where
  revisionId := "revision"
  createdAt := 0
  roomPlans := [⟨"kitchen", "robot", true, 3652500, none, .vacuum, 0, none, some 0, none⟩]
  checked := rfl

/-- **An accepted plan crashes.** The constructors accept it, and the evaluation raises
`OverflowError` with any bindings. -/
theorem planning_overflows :
    ¬ ∀ (offsets : Offsets) (plan : PlanRevision) (bindings : String → Option AreaBinding)
      (now : Instant), plan.roomPlans ≠ [] → Evaluates offsets plan bindings now := by
  intro h
  have h_kitchen := h .utc patientPlan houseBindings day (by decide)
  have h_raises : buildDueSnapshot .utc patientPlan houseBindings day = .error .overflowError := by
    decide
  rcases h_kitchen with ⟨snapshot, h_run⟩ | ⟨errors, h_run⟩
  · exact nomatch h_raises.symm.trans h_run
  · exact nomatch h_raises.symm.trans h_run

/-- A kitchen that is cleaned every day. -/
def lateRoom (last : Instant) : RoomPlan :=
  ⟨"kitchen", "robot", true, 1, none, .vacuum, 0, none, some last, none⟩

/-- It is the wall clock that counts: fourteen hours east of UTC a sum overflows that is in range
as an instant, ten hours west of it one is formed that is not. -/
example :
    selectDue ⟨fun _ => 14 * 3600000000, fun _ => 0⟩ (lateRoom (maxInstant - 37 * 3600000000))
        maxInstant = .error .overflowError ∧
      selectDue ⟨fun _ => -10 * 3600000000, fun _ => 0⟩ (lateRoom (maxInstant - 18 * 3600000000))
        maxInstant = .ok none := by decide

end VacuumPlanner
