import VacuumPlanner.Domain.Planning
import VacuumPlanner.Domain.LedgerFacts

/-!
# Due planning computes the due rooms

What it means for a room to be due is stated by `RoomPlan.IsDue`: it is enabled, not
skipped past the instant, and the interval of its preferred mode has passed since it was
last cleaned in a way that satisfies this mode (`RoomPlan.lastSatisfied`). The order of the
jobs is `SnapshotJob.Precedes`.

`selectDue_ok` and `visitRooms_ok` read the loop of `build_due_snapshot` back into these
terms, and `buildDueSnapshot_eq_ok` says when it returns a snapshot and which. The order is
strict since a valid plan lists an area once, so the jobs do not depend on the order in
which the plan lists its rooms (`due_planning_exact`).
-/

namespace VacuumPlanner

open Framework

/-! ### Due rooms -/

namespace RoomPlan

/-- The mode a room is cleaned in. -/
def mode (room : RoomPlan) : Mode :=
  match room.preferredMode with
  | .vacuum => .vacuum
  | .vacuumAndMop => .vacuumAndMop

/-- The completions that satisfy the preferred mode: mopping vacuums, too. -/
def satisfying (room : RoomPlan) : List Instant :=
  match room.preferredMode with
  | .vacuum => [room.lastCompletedVacuumAt, room.lastCompletedVacuumAndMopAt].filterMap id
  | .vacuumAndMop => [room.lastCompletedVacuumAndMopAt].filterMap id

/-- The last of them. -/
def lastSatisfied (room : RoomPlan) : Option Instant :=
  room.satisfying.max?

/-- The interval of the preferred mode, in days. -/
def intervalDays (room : RoomPlan) : ℤ :=
  match room.preferredMode with
  | .vacuum => room.vacuumIntervalDays
  | .vacuumAndMop => room.vacuumAndMopIntervalDays.getD 0

/-- Since when the room is due, at the instant `now`. -/
def dueTime (room : RoomPlan) (now : Instant) : Instant :=
  room.lastSatisfied.elim now fun last => last + room.intervalDays * day

/-- The room is due. -/
def IsDue (now : Instant) (room : RoomPlan) : Prop :=
  room.enabled = true ∧ (∀ t ∈ room.skipUntil, t ≤ now) ∧ room.dueTime now ≤ now

instance (now : Instant) (room : RoomPlan) : Decidable (room.IsDue now) :=
  inferInstanceAs (Decidable (_ ∧ _ ∧ _))

/-- Every last completion plus interval is a `datetime`. -/
def Datable (offsets : Offsets) (room : RoomPlan) : Prop :=
  (∀ last ∈ room.completedVacuum offsets, Representable last room.vacuumIntervalDays) ∧
    ∀ last ∈ room.completedVacuumAndMop offsets, Representable last room.vacuumIntervalDays ∧
      ∀ days ∈ room.vacuumAndMopIntervalDays, Representable last days

instance (offsets : Offsets) (room : RoomPlan) : Decidable (room.Datable offsets) :=
  inferInstanceAs (Decidable ((∀ last ∈ room.completedVacuum offsets, _) ∧ _))

/-- The room is evaluated: it is enabled and not skipped past the instant. -/
def Awake (now : Instant) (room : RoomPlan) : Prop :=
  room.enabled = true ∧ ∀ t ∈ room.skipUntil, t ≤ now

instance (now : Instant) (room : RoomPlan) : Decidable (room.Awake now) :=
  inferInstanceAs (Decidable (_ ∧ _))

/-- The two sums `_select_due` forms are `datetime`s. -/
structure InRange (offsets : Offsets) (room : RoomPlan) : Prop where
  vacuum : ∀ last ∈ maxOptional (room.completedVacuum offsets)
    (room.completedVacuumAndMop offsets), Representable last room.vacuumIntervalDays
  mop : ∀ last ∈ room.completedVacuumAndMop offsets, ∀ days ∈ room.vacuumAndMopIntervalDays,
    Representable last days

end RoomPlan

/-- The binding of a due room can be used: it is for its own area, and supports the mode. -/
def Usable (bindings : String → Option AreaBinding) (room : RoomPlan) : Prop :=
  ∃ binding ∈ bindings room.areaId, binding.areaId = room.areaId ∧
    (room.mode = .vacuumAndMop → binding.supportsVacuumAndMop = true)

instance (bindings : String → Option AreaBinding) (room : RoomPlan) :
    Decidable (Usable bindings room) :=
  inferInstanceAs (Decidable (∃ binding ∈ bindings room.areaId, _ ∧ _))

/-- Why it cannot. -/
def offence (bindings : String → Option AreaBinding) (room : RoomPlan) : String :=
  if bindings room.areaId = none then "missing area binding"
  else if ∃ binding ∈ bindings room.areaId, binding.areaId ≠ room.areaId then
    "mismatched area binding"
  else "vacuum_and_mop is not supported"

/-- The job a due room becomes. -/
def dueJob (room : RoomPlan) (now : Instant) (binding : AreaBinding) : SnapshotJob where
  areaId := room.areaId
  areaNameSnapshot := binding.areaName
  adapterTargetSnapshot := binding.adapterTarget
  mode := room.mode
  priority := room.priority
  dueAt := room.dueTime now

/-- Descending priority, then due time, then area. -/
def SnapshotJob.Precedes (a b : SnapshotJob) : Prop :=
  b.priority < a.priority ∨ b.priority = a.priority ∧
    (a.dueAt < b.dueAt ∨ a.dueAt = b.dueAt ∧ a.areaId < b.areaId)

variable {offsets : Offsets} {plan : PlanRevision} {bindings : String → Option AreaBinding}
  {now : Instant} {room : RoomPlan} {snapshot : PlanSnapshot}

/-! ### One room -/

theorem addDays_eq_ok {last due : Timestamp} {days : ℤ} :
    addDays last days = .ok due ↔ Representable last days ∧
      due = { last with instant := last.instant + days * day } := by
  unfold addDays
  rw [seq_eq_ok, raiseIf_eq_ok, not_not, pure_eq_ok, eq_comm]

/-- The later of two optional timestamps denotes the maximum of the instants present. -/
theorem maxOptional_eq (first second : Option Timestamp) :
    (maxOptional first second).map (·.instant) =
      ([first.map (·.instant), second.map (·.instant)].filterMap id).max? := by
  match first, second with
  | none, none | none, some _ | some _, none => rfl
  | some first, some second =>
    have h_max : (if first.instant < second.instant then second else first).instant =
        max first.instant second.instant := by
      split
      · next h_lt => exact (max_eq_right h_lt.le).symm
      · next h_ge => exact (max_eq_left (not_lt.mp h_ge)).symm
    exact congrArg some h_max

/-- It is one of the two. -/
theorem mem_of_maxOptional {first second : Option Timestamp} {last : Timestamp}
    (h : last ∈ maxOptional first second) : last ∈ first ∨ last ∈ second := by
  match first, second with
  | none, second => exact Or.inr h
  | some first, none => exact Or.inl h
  | some first, some second =>
    obtain rfl := Option.some.inj h
    split
    · exact Or.inr rfl
    · exact Or.inl rfl

theorem RoomPlan.completedVacuum_instant (offsets : Offsets) (room : RoomPlan) :
    (room.completedVacuum offsets).map (·.instant) = room.lastCompletedVacuumAt := by
  unfold completedVacuum
  rw [Option.map_map]
  exact Option.map_id'

theorem RoomPlan.completedVacuumAndMop_instant (offsets : Offsets) (room : RoomPlan) :
    (room.completedVacuumAndMop offsets).map (·.instant) = room.lastCompletedVacuumAndMopAt := by
  unfold completedVacuumAndMop
  rw [Option.map_map]
  exact Option.map_id'

theorem RoomPlan.lastSatisfied_vacuum (offsets : Offsets) (h : room.preferredMode = .vacuum) :
    room.lastSatisfied = (maxOptional (room.completedVacuum offsets)
      (room.completedVacuumAndMop offsets)).map (·.instant) := by
  unfold lastSatisfied satisfying
  rw [h, maxOptional_eq, completedVacuum_instant, completedVacuumAndMop_instant]

theorem RoomPlan.lastSatisfied_mop (offsets : Offsets) (h : room.preferredMode = .vacuumAndMop) :
    room.lastSatisfied = (room.completedVacuumAndMop offsets).map (·.instant) := by
  unfold lastSatisfied satisfying
  rw [h, completedVacuumAndMop_instant]
  cases room.lastCompletedVacuumAndMopAt <;> rfl

/-- The due time the code computes, when it can be computed. -/
theorem dueAt_eq_ok {last : Option Timestamp} {days : ℤ} {due : Instant} :
    dueAt last days now = .ok due ↔ (∀ t ∈ last, Representable t days) ∧
      due = (last.map (·.instant)).elim now fun last => last + days * day := by
  cases last with
  | none => exact ⟨fun h => ⟨nofun, (Except.ok.inj h).symm⟩, fun h => congrArg _ h.2.symm⟩
  | some last =>
    unfold dueAt
    simp only [bind_eq_ok, addDays_eq_ok, pure_eq_ok]
    constructor
    · rintro ⟨sum, ⟨h_range, rfl⟩, rfl⟩
      exact ⟨fun t h_t => Option.some.inj h_t ▸ h_range, rfl⟩
    · rintro ⟨h_range, rfl⟩
      exact ⟨_, ⟨h_range last rfl, rfl⟩, rfl⟩

theorem dueAt_isOk (now : Instant) {last : Option Timestamp} {days : ℤ}
    (h : ∀ t ∈ last, Representable t days) : ∃ due, dueAt last days now = .ok due :=
  ⟨_, dueAt_eq_ok.mpr ⟨h, rfl⟩⟩

/-- A valid room that prefers mopping has an interval for it. -/
theorem RoomPlan.mopInterval (h : room.postInit = .ok ())
    (h_mode : room.preferredMode = .vacuumAndMop) :
    ∃ days, room.vacuumAndMopIntervalDays = some days := by
  unfold postInit at h
  simp only [seq_eq_ok, raiseIf_eq_ok, not_and] at h
  exact Option.ne_none_iff_exists'.mp (h.2.2.2.2 h_mode)

/-- **`_select_due`** selects the room when its due time has come. -/
theorem selectDue_ok (h_room : room.postInit = .ok ()) {selected : Option (Mode × Instant)}
    (h : selectDue offsets room now = .ok selected) :
    selected = if room.dueTime now ≤ now then some (room.mode, room.dueTime now) else none := by
  obtain ⟨vacuumDue, h_vacuum, h⟩ := bind_eq_ok.mp h
  obtain ⟨mopDue, h_mop, h⟩ := bind_eq_ok.mp h
  -- the preferred mode decides which interval counts, and from which completion
  cases h_mode : room.preferredMode with
  | vacuum =>
    have h_due : room.dueTime now = vacuumDue := by
      rw [(dueAt_eq_ok.mp h_vacuum).2]
      unfold RoomPlan.dueTime RoomPlan.intervalDays
      rw [room.lastSatisfied_vacuum offsets h_mode, h_mode]
    have h_same : room.mode = .vacuum := by
      unfold RoomPlan.mode
      rw [h_mode]
    rw [h_mode] at h
    rw [h_due, h_same, pure_eq_ok.mp h]
  | vacuumAndMop =>
    -- a room that mops has a mopping interval: its constructor checks it
    obtain ⟨days, h_days⟩ := RoomPlan.mopInterval h_room h_mode
    rw [h_days] at h_mop
    obtain ⟨due, h_dueAt, rfl⟩ := map_eq_ok.mp h_mop
    have h_due : room.dueTime now = due := by
      rw [(dueAt_eq_ok.mp h_dueAt).2]
      unfold RoomPlan.dueTime RoomPlan.intervalDays
      rw [room.lastSatisfied_mop offsets h_mode, h_mode, h_days]
      rfl
    have h_same : room.mode = .vacuumAndMop := by
      unfold RoomPlan.mode
      rw [h_mode]
    rw [h_mode] at h
    rw [h_due, h_same, ← pure_eq_ok.mp h]
    rfl

theorem RoomPlan.Datable.inRange (h : room.Datable offsets) : room.InRange offsets := by
  obtain ⟨h_vacuum, h_mop⟩ := h
  refine ⟨fun t h_t => ?_, fun t h_t => (h_mop t h_t).2⟩
  rcases mem_of_maxOptional h_t with h_first | h_second
  · exact h_vacuum t h_first
  · exact (h_mop t h_second).1

theorem selectDue_isOk (now : Instant) (h : room.InRange offsets) :
    ∃ selected, selectDue offsets room now = .ok selected := by
  obtain ⟨vacuumDue, h_vacuumDue⟩ := dueAt_isOk now h.vacuum
  obtain ⟨mopDue, h_mopDue⟩ : ∃ mopDue, (room.vacuumAndMopIntervalDays.mapM fun days =>
      dueAt (room.completedVacuumAndMop offsets) days now) = .ok mopDue := by
    cases h_days : room.vacuumAndMopIntervalDays with
    | none => exact ⟨none, rfl⟩
    | some days =>
      obtain ⟨due, h_due⟩ := dueAt_isOk now fun t h_t => h.mop t h_t days h_days
      exact ⟨some due, map_eq_ok.mpr ⟨due, h_due, rfl⟩⟩
  unfold selectDue
  dsimp only
  rw [h_vacuumDue, ok_bind, h_mopDue, ok_bind]
  cases room.preferredMode <;> exact ⟨_, rfl⟩

/-! ### The loop -/

/-- The candidate a due room becomes. -/
def candidate (now : Instant) (room : RoomPlan) : DueCandidate where
  plan := room
  mode := room.mode
  dueAt := room.dueTime now

theorem usable_none (h : bindings room.areaId = none) : ¬ Usable bindings room := by
  rintro ⟨binding, h_binding, -⟩
  rw [h] at h_binding
  exact nomatch h_binding

theorem usable_some {binding : AreaBinding} (h : bindings room.areaId = some binding) :
    Usable bindings room ↔ binding.areaId = room.areaId ∧
      (room.mode = .vacuumAndMop → binding.supportsVacuumAndMop = true) := by
  unfold Usable
  simp only [h, Option.mem_some_iff, exists_eq_left']

/-- The binding errors are those of the unusable bindings. -/
theorem bindingError_eq : bindingError bindings room room.mode =
    if Usable bindings room then none else some (room.areaId ++ ": " ++ offence bindings room) := by
  unfold bindingError offence
  -- without a binding the area is missing
  rcases h_binding : bindings room.areaId with _ | binding
  · rw [if_neg (usable_none h_binding), if_pos rfl, String.append_assoc]
    rfl
  · rw [if_neg (Option.some_ne_none binding)]
    simp only [Option.mem_some_iff, exists_eq_left']
    -- the area is compared first, and the mode only when it agrees
    by_cases h_area : binding.areaId = room.areaId
    · rw [if_neg (not_not.mpr h_area), if_neg (not_not.mpr h_area)]
      by_cases h_mop : room.mode = .vacuumAndMop ∧ binding.supportsVacuumAndMop = false
      · have h_unusable : ¬ Usable bindings room := fun h_usable => by
          have h_supports := ((usable_some h_binding).mp h_usable).2 h_mop.1
          rw [h_mop.2] at h_supports
          exact Bool.false_ne_true h_supports
        rw [if_pos h_mop, if_neg h_unusable, String.append_assoc]
        rfl
      · have h_usable : Usable bindings room := (usable_some h_binding).mpr
          ⟨h_area, fun h_mode => Bool.eq_true_of_not_eq_false fun h => h_mop ⟨h_mode, h⟩⟩
        rw [if_neg h_mop, if_pos h_usable]
    · have h_unusable : ¬ Usable bindings room :=
        fun h_usable => h_area ((usable_some h_binding).mp h_usable).1
      rw [if_pos h_area, if_pos h_area, if_neg h_unusable, String.append_assoc]
      rfl

/-- The messages of some rooms, in their order. -/
def offences (bindings : String → Option AreaBinding) (rooms : List RoomPlan) : List String :=
  (rooms.filter fun room => ¬ Usable bindings room).map fun room =>
    room.areaId ++ ": " ++ offence bindings room

/-- One room is found if it is due, with the error of its binding. -/
theorem visitRoom_ok (h_room : room.postInit = .ok ()) {found found' : List DueCandidate × List String}
    (h : visitRoom offsets bindings now found room = .ok found') :
    found' = (found.1 ++ ([room].filter (RoomPlan.IsDue now)).map (candidate now),
      found.2 ++ offences bindings ([room].filter (RoomPlan.IsDue now))) := by
  unfold visitRoom at h
  split at h
  · next h_skip =>
    -- a room that is disabled or postponed is not due
    have h_idle : ¬ room.IsDue now := by
      rintro ⟨h_enabled, h_until, -⟩
      rcases h_skip with h_disabled | ⟨t, h_t, h_lt⟩
      · rw [h_disabled] at h_enabled
        exact Bool.false_ne_true h_enabled
      · exact absurd (h_until t h_t) (not_le.mpr h_lt)
    rw [← pure_eq_ok.mp h]
    simp [h_idle, offences]
  · next h_awake =>
    obtain ⟨selected, h_selected, h⟩ := bind_eq_ok.mp h
    rw [selectDue_ok h_room h_selected] at h
    -- of the room that is left only the date has to be compared
    have h_due : room.IsDue now ↔ room.dueTime now ≤ now := by
      refine ⟨fun h => h.2.2, fun h => ⟨?_, fun t h_t => ?_, h⟩⟩
      · exact Bool.eq_true_of_not_eq_false fun h_disabled => h_awake (Or.inl h_disabled)
      · exact not_lt.mp fun h_lt => h_awake (Or.inr ⟨t, h_t, h_lt⟩)
    by_cases h_time : room.dueTime now ≤ now
    · rw [if_pos h_time] at h
      rw [← pure_eq_ok.mp h, bindingError_eq]
      unfold offences
      by_cases h_usable : Usable bindings room
      · simp [h_due, h_time, h_usable, candidate]
      · simp [h_due, h_time, h_usable, candidate]
    · rw [if_neg h_time] at h
      rw [← pure_eq_ok.mp h]
      simp [h_due, h_time, offences]

/-- **The loop** finds the due rooms in the order of the plan, and their errors. -/
theorem visitRooms_ok {rooms : List RoomPlan} (h_rooms : ∀ room ∈ rooms, room.postInit = .ok ())
    {found found' : List DueCandidate × List String}
    (h : rooms.foldlM (visitRoom offsets bindings now) found = .ok found') :
    found' = (found.1 ++ (rooms.filter (RoomPlan.IsDue now)).map (candidate now),
      found.2 ++ offences bindings (rooms.filter (RoomPlan.IsDue now))) := by
  induction rooms generalizing found with
  | nil =>
    rw [← pure_eq_ok.mp h]
    simp [offences]
  | cons room rooms ih =>
    obtain ⟨h_room, h_rooms⟩ := List.forall_mem_cons.mp h_rooms
    rw [List.foldlM_cons] at h
    obtain ⟨found₁, h₁, h_rest⟩ := bind_eq_ok.mp h
    have h_cons : (room :: rooms).filter (RoomPlan.IsDue now) =
        [room].filter (RoomPlan.IsDue now) ++ rooms.filter (RoomPlan.IsDue now) := by
      rw [← List.filter_append]
      rfl
    rw [ih h_rooms h_rest, visitRoom_ok h_room h₁, h_cons]
    unfold offences
    simp only [List.map_append, List.filter_append, List.append_assoc]

/-- The rooms the loop passes over. -/
theorem awake_iff : room.Awake now ↔
    ¬ (room.enabled = false ∨ ∃ skipUntil ∈ room.skipUntil, now < skipUntil) := by
  unfold RoomPlan.Awake
  rw [not_or, Bool.not_eq_false]
  push Not
  exact Iff.rfl

theorem visitRooms_isOk (bindings : String → Option AreaBinding) (now : Instant)
    {rooms : List RoomPlan} (h : ∀ room ∈ rooms, room.Awake now → room.InRange offsets)
    (found : List DueCandidate × List String) :
    ∃ found', rooms.foldlM (visitRoom offsets bindings now) found = .ok found' := by
  induction rooms generalizing found with
  | nil => exact ⟨found, rfl⟩
  | cons room rooms ih =>
    obtain ⟨h_room, h_rooms⟩ := List.forall_mem_cons.mp h
    obtain ⟨found₁, h₁⟩ : ∃ found₁, visitRoom offsets bindings now found room = .ok found₁ := by
      unfold visitRoom
      split
      · exact ⟨_, rfl⟩
      · next h_awake =>
        obtain ⟨selected, h_selected⟩ := selectDue_isOk now (h_room (awake_iff.mpr h_awake))
        rw [h_selected, ok_bind]
        cases selected <;> exact ⟨_, rfl⟩
    obtain ⟨found', h_rest⟩ := ih h_rooms found₁
    exact ⟨found', by rw [List.foldlM_cons]; exact bind_eq_ok.mpr ⟨found₁, h₁, h_rest⟩⟩

/-! ### The snapshot -/

/-- The due rooms of a plan. -/
def dueRooms (plan : PlanRevision) (now : Instant) : List RoomPlan :=
  plan.roomPlans.filter (RoomPlan.IsDue now)

/-- The sort key of a due room. -/
def RoomPlan.dueKey (now : Instant) (room : RoomPlan) : ℤ ×ₗ Instant ×ₗ String :=
  (candidate now room).key

/-- The jobs of some due rooms, in order. -/
def dueJobs (bindings : String → Option AreaBinding) (now : Instant) (rooms : List RoomPlan) :
    List SnapshotJob :=
  (sortBy (RoomPlan.dueKey now) rooms).filterMap fun room =>
    (bindings room.areaId).map (dueJob room now)

/-- Two rooms of a plan have different keys, since they have different areas. -/
theorem dueKeys_nodup (plan : PlanRevision) (now : Instant) :
    (plan.roomPlans.map (RoomPlan.dueKey now)).Nodup := by
  have h_areas := plan.checks.2.2.1
  refine List.Nodup.of_map (fun key => (ofLex (ofLex key).2).2) ?_
  rw [List.map_map]
  exact h_areas

theorem dueRooms_nodup (plan : PlanRevision) (now : Instant) :
    ((dueRooms plan now).map (RoomPlan.dueKey now)).Nodup :=
  (dueKeys_nodup plan now).sublist (List.filter_sublist.map _)

theorem dueKey_lt {a b : RoomPlan} : a.dueKey now < b.dueKey now ↔
    b.priority < a.priority ∨ b.priority = a.priority ∧
      (a.dueTime now < b.dueTime now ∨ a.dueTime now = b.dueTime now ∧ a.areaId < b.areaId) := by
  unfold RoomPlan.dueKey DueCandidate.key candidate
  rw [Prod.Lex.toLex_lt_toLex, Prod.Lex.toLex_lt_toLex]
  dsimp only
  rw [neg_lt_neg_iff, neg_inj, eq_comm (a := a.priority)]

/-- The jobs the sorted candidates become. -/
theorem snapshotJobs_eq_ok {rooms : List RoomPlan} {jobs : List SnapshotJob} :
    (sortBy DueCandidate.key (rooms.map (candidate now))).mapM (snapshotJob bindings) = .ok jobs ↔
      (∀ room ∈ rooms, bindings room.areaId ≠ none) ∧ jobs = dueJobs bindings now rooms := by
  have h_job : ∀ item job, snapshotJob bindings item = .ok job ↔
      ((bindings item.plan.areaId).map fun binding => SnapshotJob.mk item.plan.areaId
        binding.areaName binding.adapterTarget item.mode item.plan.priority item.dueAt) =
          some job := by
    intro item job
    unfold snapshotJob
    cases bindings item.plan.areaId with
    | none => exact iff_of_false nofun nofun
    | some binding => exact pure_eq_ok.trans Option.some_inj.symm
  have h_sorted : (sortBy (RoomPlan.dueKey now) rooms).map (candidate now) =
      sortBy DueCandidate.key (rooms.map (candidate now)) := sortBy_map fun room _ => rfl
  rw [mapM_eq_ok h_job, ← h_sorted, List.filterMap_map, List.forall_mem_map]
  refine and_congr ?_ Iff.rfl
  simp only [mem_sortBy, candidate, ne_eq, Option.map_eq_none_iff]

/-- What the jobs say of their rooms, when every room has a binding. -/
theorem dueJobs_map {β : Type} {f : SnapshotJob → β} {g : RoomPlan → β}
    (hf : ∀ room binding, f (dueJob room now binding) = g room) {rooms : List RoomPlan}
    (h : ∀ room ∈ rooms, bindings room.areaId ≠ none) :
    (dueJobs bindings now rooms).map f = (sortBy (RoomPlan.dueKey now) rooms).map g := by
  unfold dueJobs
  rw [List.map_filterMap, ← List.filterMap_eq_map]
  refine List.filterMap_congr fun room h_room => ?_
  obtain ⟨binding, h_binding⟩ := Option.ne_none_iff_exists'.mp (h room (mem_sortBy.mp h_room))
  rw [h_binding]
  exact congrArg some (hf room binding)

/-- Distinct areas, so distinct jobs. -/
theorem dueJobs_areas {rooms : List RoomPlan} (h : ∀ room ∈ rooms, bindings room.areaId ≠ none) :
    (dueJobs bindings now rooms).map (·.areaId) =
      (sortBy (RoomPlan.dueKey now) rooms).map (·.areaId) :=
  dueJobs_map (fun _ _ => rfl) h

theorem dueJobs_sorted (plan : PlanRevision) (now : Instant) :
    (dueJobs bindings now (dueRooms plan now)).Pairwise SnapshotJob.Precedes := by
  unfold dueJobs
  rw [List.pairwise_filterMap]
  refine (sortBy_pairwise (dueRooms_nodup plan now)).imp fun {a b} h_lt job h_job job' h_job' => ?_
  obtain ⟨_, -, rfl⟩ := Option.map_eq_some_iff.mp h_job
  obtain ⟨_, -, rfl⟩ := Option.map_eq_some_iff.mp h_job'
  exact dueKey_lt.mp h_lt

/-- What follows the loop. -/
theorem buildDueSnapshot_eq {first : RoomPlan} {rest : List RoomPlan}
    (h_rooms : plan.roomPlans = first :: rest) {found : List DueCandidate × List String}
    (h_found : plan.roomPlans.foldlM (visitRoom offsets bindings now) ([], []) = .ok found) :
    buildDueSnapshot offsets plan bindings now = (do
      raiseIf (offences bindings (dueRooms plan now) ≠ [])
        (.planningValidationError (offences bindings (dueRooms plan now)))
      let jobs ← (sortBy DueCandidate.key ((dueRooms plan now).map (candidate now))).mapM
        (snapshotJob bindings)
      PlanSnapshotFields.construct ⟨plan.revisionId, first.laneId, now, jobs⟩) := by
  have h_split := visitRooms_ok plan.checks.1 h_found
  unfold buildDueSnapshot
  split
  · next h_none => exact absurd (h_rooms.symm.trans h_none) (List.cons_ne_nil _ _)
  · next first' rest' h_first =>
    obtain ⟨rfl, rfl⟩ := List.cons.inj (h_rooms.symm.trans h_first)
    rw [h_found, ok_bind, h_split]
    rfl

theorem offences_eq_nil {rooms : List RoomPlan} :
    offences bindings rooms = [] ↔ ∀ room ∈ rooms, Usable bindings room := by
  unfold offences
  rw [List.map_eq_nil_iff, List.filter_eq_nil_iff]
  simp only [decide_eq_true_eq, not_not]

theorem Usable.ne_none (h : Usable bindings room) : bindings room.areaId ≠ none :=
  fun h_none => usable_none h_none h

/-- **`build_due_snapshot`**, when it returns: every due room has a usable binding, and the
jobs are those of the due rooms. -/
theorem buildDueSnapshot_ok (h : buildDueSnapshot offsets plan bindings now = .ok snapshot) :
    (∀ room ∈ dueRooms plan now, Usable bindings room) ∧
      snapshot.jobs = dueJobs bindings now (dueRooms plan now) := by
  have h' := h
  unfold buildDueSnapshot at h'
  split at h'
  · exact nomatch h'
  · next first rest h_first =>
    obtain ⟨found, h_found, -⟩ := bind_eq_ok.mp h'
    rw [buildDueSnapshot_eq h_first h_found, seq_eq_ok, raiseIf_eq_ok, not_not,
      bind_eq_ok] at h
    obtain ⟨h_usable, jobs, h_jobs, h_snapshot⟩ := h
    obtain ⟨-, rfl⟩ := snapshotJobs_eq_ok.mp h_jobs
    refine ⟨offences_eq_nil.mp h_usable, ?_⟩
    rw [PlanSnapshotFields.construct_eq_ok.mp h_snapshot]

/-- The jobs of usable bindings make a snapshot. -/
theorem exists_snapshot (h_room : room ∈ plan.roomPlans)
    (h : ∀ room ∈ dueRooms plan now, Usable bindings room) :
    ∃ snapshot, PlanSnapshotFields.construct ⟨plan.revisionId, room.laneId, now,
      dueJobs bindings now (dueRooms plan now)⟩ = .ok snapshot := by
  obtain ⟨h_rooms, h_revision, h_areas, -⟩ := plan.checks
  -- what the snapshot checks the plan has checked before
  have h_texts : ∀ room ∈ plan.roomPlans, requireText "area_id" room.areaId = .ok () ∧
      requireText "lane_id" room.laneId = .ok () := by
    intro room h_mem
    have h_check := h_rooms room h_mem
    unfold RoomPlan.postInit at h_check
    simp only [seq_eq_ok] at h_check
    exact ⟨h_check.1, h_check.2.1⟩
  have h_checked : (PlanSnapshotFields.mk plan.revisionId room.laneId now
      (dueJobs bindings now (dueRooms plan now))).postInit = .ok () := by
    unfold PlanSnapshotFields.postInit
    simp only [seq_eq_ok, raiseIf_eq_ok, checkAll_eq_ok, not_not]
    refine ⟨fun job h_job => ?_, requireText_eq_ok.mpr (requireText_eq_ok.mp h_revision),
      (h_texts room h_room).2, ?_⟩
    · obtain ⟨due, h_due, h_job⟩ := List.mem_filterMap.mp h_job
      obtain ⟨binding, -, rfl⟩ := Option.map_eq_some_iff.mp h_job
      have h_mem := (List.mem_filter.mp (mem_sortBy.mp h_due)).1
      have h_binding : binding.toAreaBindingFields.postInit = .ok () := binding.checked
      unfold AreaBindingFields.postInit at h_binding
      unfold SnapshotJob.postInit
      rw [seq_eq_ok] at h_binding ⊢
      -- the two checks of the name differ in their message only
      exact ⟨(h_texts due h_mem).1, requireText_eq_ok.mpr (requireText_eq_ok.mp h_binding.2)⟩
    -- sorting keeps the areas distinct
    · rw [dueJobs_areas fun room h_due => (h room h_due).ne_none]
      have h_perm := (sortBy_perm (RoomPlan.dueKey now) (dueRooms plan now)).map (·.areaId)
      exact h_perm.nodup_iff.mpr (h_areas.sublist (List.filter_sublist.map _))
  exact ⟨⟨_, h_checked⟩, PlanSnapshotFields.construct_eq_ok.mpr rfl⟩

/-! ### Exactly the due rooms, in a canonical order -/

/-- What a snapshot of a plan is to hold. -/
structure ExactlyDue (plan : PlanRevision) (bindings : String → Option AreaBinding)
    (now : Instant) (snapshot : PlanSnapshot) : Prop where
  /-- One job for every due room, and no other. -/
  jobs : ∀ job, job ∈ snapshot.jobs ↔ ∃ room ∈ plan.roomPlans, room.IsDue now ∧
    ∃ binding ∈ bindings room.areaId, job = dueJob room now binding
  once : (snapshot.jobs.map (·.areaId)).Perm
    ((plan.roomPlans.filter (RoomPlan.IsDue now)).map (·.areaId))
  sorted : snapshot.jobs.Pairwise SnapshotJob.Precedes
  header : snapshot.planRevision = plan.revisionId ∧ snapshot.evaluatedAt = now ∧
    ∀ room ∈ plan.roomPlans, snapshot.laneId = room.laneId

/-- All rooms of a plan are in one lane. -/
theorem PlanRevision.lane_eq {a b : RoomPlan} (ha : a ∈ plan.roomPlans) (hb : b ∈ plan.roomPlans) :
    a.laneId = b.laneId := by
  by_contra h_ne
  refine plan.checks.2.2.2 (Finset.one_lt_card.mpr ⟨a.laneId, ?_, b.laneId, ?_, h_ne⟩)
  · exact List.mem_toFinset.mpr (List.mem_map_of_mem ha)
  · exact List.mem_toFinset.mpr (List.mem_map_of_mem hb)

/-- With usable bindings the evaluation returns a snapshot. -/
theorem buildDueSnapshot_isOk (h_rooms : plan.roomPlans ≠ [])
    (h_inRange : ∀ room ∈ plan.roomPlans, room.Awake now → room.InRange offsets)
    (h_usable : ∀ room ∈ dueRooms plan now, Usable bindings room) :
    ∃ snapshot, buildDueSnapshot offsets plan bindings now = .ok snapshot ∧
      snapshot.jobs = dueJobs bindings now (dueRooms plan now) ∧
      snapshot.planRevision = plan.revisionId ∧ snapshot.evaluatedAt = now ∧
      ∀ room ∈ plan.roomPlans, snapshot.laneId = room.laneId := by
  obtain ⟨first, rest, h_first⟩ := List.exists_cons_of_ne_nil h_rooms
  have h_mem : first ∈ plan.roomPlans := by
    rw [h_first]
    exact List.mem_cons_self
  obtain ⟨found, h_found⟩ := visitRooms_isOk bindings now h_inRange ([], [])
  obtain ⟨snapshot, h_snapshot⟩ := exists_snapshot h_mem h_usable
  -- no due room has an offence, so each of them becomes a job
  have h_jobs : (sortBy DueCandidate.key ((dueRooms plan now).map (candidate now))).mapM
      (snapshotJob bindings) = .ok (dueJobs bindings now (dueRooms plan now)) :=
    snapshotJobs_eq_ok.mpr ⟨fun room h_due => (h_usable room h_due).ne_none, rfl⟩
  refine ⟨snapshot, ?_, ?_⟩
  · rw [buildDueSnapshot_eq h_first h_found, seq_eq_ok, raiseIf_eq_ok, not_not, bind_eq_ok]
    exact ⟨offences_eq_nil.mpr h_usable, _, h_jobs, h_snapshot⟩
  · rw [PlanSnapshotFields.construct_eq_ok.mp h_snapshot]
    exact ⟨rfl, rfl, rfl, fun room h_room => plan.lane_eq h_mem h_room⟩

/-- With an unusable one it raises, and names the rooms. -/
theorem buildDueSnapshot_error (h_rooms : plan.roomPlans ≠ [])
    (h_inRange : ∀ room ∈ plan.roomPlans, room.Awake now → room.InRange offsets)
    (h_unusable : ∃ room ∈ dueRooms plan now, ¬ Usable bindings room) :
    buildDueSnapshot offsets plan bindings now =
      .error (.planningValidationError (offences bindings (dueRooms plan now))) := by
  obtain ⟨first, rest, h_first⟩ := List.exists_cons_of_ne_nil h_rooms
  obtain ⟨found, h_found⟩ := visitRooms_isOk bindings now h_inRange ([], [])
  have h_some : offences bindings (dueRooms plan now) ≠ [] := by
    rw [ne_eq, offences_eq_nil]
    push Not
    exact h_unusable
  rw [buildDueSnapshot_eq h_first h_found]
  unfold raiseIf
  rw [if_pos h_some]
  rfl

/-- **Due planning computes exactly the due rooms in a canonical order.** With a usable
binding for every due room the snapshot holds one job for each of them and no other, in the
order of priority, due time and area, and a plan that lists its rooms in another order gives
the same jobs; otherwise the evaluation raises, naming every room that stands in its way. -/
theorem due_planning_exact (offsets : Offsets) (plan : PlanRevision)
    (bindings : String → Option AreaBinding) (now : Instant) (h_rooms : plan.roomPlans ≠ [])
    (h_datable : ∀ room ∈ plan.roomPlans, room.Datable offsets) :
    ((∀ room ∈ plan.roomPlans, room.IsDue now → Usable bindings room) →
      ∃ snapshot, buildDueSnapshot offsets plan bindings now = .ok snapshot ∧
        ExactlyDue plan bindings now snapshot ∧
        ∀ plan' : PlanRevision, plan'.roomPlans.Perm plan.roomPlans →
          ∃ snapshot', buildDueSnapshot offsets plan' bindings now = .ok snapshot' ∧
            snapshot'.jobs = snapshot.jobs) ∧
    ((∃ room ∈ plan.roomPlans, room.IsDue now ∧ ¬ Usable bindings room) →
      buildDueSnapshot offsets plan bindings now = .error (.planningValidationError
        ((plan.roomPlans.filter fun room => room.IsDue now ∧ ¬ Usable bindings room).map
          fun room => room.areaId ++ ": " ++ offence bindings room))) := by
  have h_due : ∀ (plan : PlanRevision) (room : RoomPlan), room ∈ dueRooms plan now ↔
      room ∈ plan.roomPlans ∧ room.IsDue now := by
    intro plan room
    unfold dueRooms
    rw [List.mem_filter, decide_eq_true_iff]
  have h_inRange : ∀ room ∈ plan.roomPlans, room.Awake now → room.InRange offsets :=
    fun room h_room _ => (h_datable room h_room).inRange
  constructor
  · intro h_usable
    have h_usable : ∀ room ∈ dueRooms plan now, Usable bindings room := fun room h_room =>
      h_usable room ((h_due plan room).mp h_room).1 ((h_due plan room).mp h_room).2
    obtain ⟨snapshot, h_run, h_jobs, h_header⟩ := buildDueSnapshot_isOk h_rooms h_inRange h_usable
    refine ⟨snapshot, h_run, ⟨fun job => ?_, ?_, ?_, h_header⟩, fun plan' h_perm => ?_⟩
    · rw [h_jobs]
      unfold dueJobs
      simp only [List.mem_filterMap, mem_sortBy, h_due, Option.map_eq_some_iff, Option.mem_def,
        and_assoc, eq_comm (a := job)]
    -- sorting permutes the areas
    · rw [h_jobs, dueJobs_areas fun room h_room => (h_usable room h_room).ne_none]
      exact (sortBy_perm _ _).map _
    · rw [h_jobs]
      exact dueJobs_sorted plan now
    · -- the same rooms are due, and their keys are distinct
      have h_rooms' : plan'.roomPlans ≠ [] := fun h_nil => h_rooms (by
        rw [h_nil] at h_perm
        exact h_perm.nil_eq.symm)
      have h_dueRooms : (dueRooms plan' now).Perm (dueRooms plan now) := h_perm.filter _
      obtain ⟨snapshot', h_run', h_jobs', -⟩ := buildDueSnapshot_isOk h_rooms'
        (fun room h_room => h_inRange room (h_perm.mem_iff.mp h_room))
        fun room h_room => h_usable room (h_dueRooms.mem_iff.mp h_room)
      refine ⟨snapshot', h_run', ?_⟩
      rw [h_jobs', h_jobs]
      unfold dueJobs
      rw [sortBy_congr h_dueRooms (dueRooms_nodup plan' now)]
  · rintro ⟨room, h_room, h_is_due, h_unusable⟩
    rw [buildDueSnapshot_error h_rooms h_inRange
      ⟨room, (h_due plan room).mpr ⟨h_room, h_is_due⟩, h_unusable⟩]
    unfold offences dueRooms
    rw [List.filter_filter]
    simp only [Bool.decide_and, Bool.and_comm]

/-! ### A house with two rooms -/

/-- What the planner completes itself is stored in UTC. -/
def Offsets.utc : Offsets := ⟨fun _ => 0, fun _ => 0⟩

/-- The kitchen was never cleaned; the bath was, and comes first. -/
def housePlan : PlanRevision where
  revisionId := "revision"
  createdAt := 0
  roomPlans := [⟨"kitchen", "robot", true, 1, none, .vacuum, 0, none, none, none⟩,
    ⟨"bath", "robot", true, 1, some 7, .vacuumAndMop, 5, none, some 0, some 0⟩]
  checked := rfl

def houseBindings (areaId : String) : Option AreaBinding :=
  if areaId = "kitchen" then some ⟨⟨"kitchen", "Kitchen", .null, false⟩, rfl⟩
  else if areaId = "bath" then some ⟨⟨"bath", "Bath", .null, true⟩, rfl⟩
  else none

theorem due_planning_exact_house :
    (∃ snapshot, buildDueSnapshot .utc housePlan houseBindings (8 * day) = .ok snapshot ∧
      ExactlyDue housePlan houseBindings (8 * day) snapshot) ∧
    buildDueSnapshot .utc housePlan (fun _ => none) (8 * day) = .error (.planningValidationError
      ["kitchen: missing area binding", "bath: missing area binding"]) := by
  constructor
  · obtain ⟨snapshot, h_run, h_exact, -⟩ :=
      (due_planning_exact .utc housePlan houseBindings (8 * day) (by decide) (by decide)).1
        (by decide)
    exact ⟨snapshot, h_run, h_exact⟩
  · exact (due_planning_exact .utc housePlan (fun _ => none) (8 * day) (by decide) (by decide)).2
      (by decide)

example : (buildDueSnapshot .utc housePlan houseBindings (8 * day)).map
    (fun snapshot => snapshot.jobs.map (·.areaId)) = .ok ["bath", "kitchen"] := by decide

end VacuumPlanner
