import VacuumPlanner.Domain.Models
import VacuumPlanner.Framework.Sorting

/-!
# Due planning

`domain/planning.py`: which rooms of a plan are due at an instant, and the snapshot they
become. `buildDueSnapshot` walks over the rooms once, collecting the due ones
(`DueCandidate`) and a message for each due room whose binding is unusable; then it either
raises all the messages at once or sorts the candidates and builds the snapshot.

Two `datetime`s are compared by the instants they denote, but a sum is formed on the wall clock,
in the offset the `datetime` carries, and it is the wall clock that may leave the range of
`datetime`. So the last completions of a room are read with their offsets here (`Timestamp`).
The offsets of a plan are a parameter (`Offsets`) and everything is proved for all of them;
they are fixed ones, as those that `fromisoformat` reads and that the planner writes.
-/

namespace VacuumPlanner

open Framework

/-! ### Sums of instants and intervals -/

/-- One day, in microseconds. -/
def day : ℤ := 86400000000

/-- `datetime.min`. -/
def minInstant : Instant := -62135596800000000

/-- `datetime.max`. -/
def maxInstant : Instant := 253402300799999999

/-- A `datetime` with its offset from UTC, in microseconds. -/
structure Timestamp where
  instant : Instant
  utcoffset : ℤ
  deriving DecidableEq

/-- What its year, month, day and time show, as if it were in UTC. -/
def Timestamp.wallClock (t : Timestamp) : ℤ := t.instant + t.utcoffset

/-- `last + timedelta(days=days)` can be formed. -/
def Representable (last : Timestamp) (days : ℤ) : Prop :=
  |days| ≤ 999999999 ∧ minInstant ≤ last.wallClock + days * day ∧
    last.wallClock + days * day ≤ maxInstant

instance (last : Timestamp) (days : ℤ) : Decidable (Representable last days) :=
  inferInstanceAs (Decidable (_ ∧ _ ∧ _))

/-- `last + timedelta(days=days)`. The sum keeps the offset. -/
def addDays (last : Timestamp) (days : ℤ) : Except PyError Timestamp := do
  raiseIf (¬ Representable last days) .overflowError
  return { last with instant := last.instant + days * day }

/-- The offsets in which the last completions of each area are stored. -/
structure Offsets where
  vacuum : String → ℤ
  vacuumAndMop : String → ℤ

namespace RoomPlan

/-- `last_completed_vacuum_at`. -/
def completedVacuum (offsets : Offsets) (plan : RoomPlan) : Option Timestamp :=
  plan.lastCompletedVacuumAt.map fun t => ⟨t, offsets.vacuum plan.areaId⟩

/-- `last_completed_vacuum_and_mop_at`. -/
def completedVacuumAndMop (offsets : Offsets) (plan : RoomPlan) : Option Timestamp :=
  plan.lastCompletedVacuumAndMopAt.map fun t => ⟨t, offsets.vacuumAndMop plan.areaId⟩

end RoomPlan

/-! ### Which rooms are due -/

/-- `_due_at`, as the instant it is compared by. -/
def dueAt (lastCompleted : Option Timestamp) (intervalDays : ℤ) (now : Instant) :
    Except PyError Instant :=
  match lastCompleted with
  | none => .ok now
  | some last => return (← addDays last intervalDays).instant

/-- `_max_optional`. -/
def maxOptional (first second : Option Timestamp) : Option Timestamp :=
  match first, second with
  | none, second => second
  | first, none => first
  -- of two at one instant, `max` takes the first
  | some first, some second => some (if first.instant < second.instant then second else first)

/-- `_select_due`. Both due times are computed, whichever mode is preferred. -/
def selectDue (offsets : Offsets) (plan : RoomPlan) (now : Instant) :
    Except PyError (Option (Mode × Instant)) := do
  let effectiveVacuum :=
    maxOptional (plan.completedVacuum offsets) (plan.completedVacuumAndMop offsets)
  let vacuumDue ← dueAt effectiveVacuum plan.vacuumIntervalDays now
  let mopDue ← plan.vacuumAndMopIntervalDays.mapM fun days =>
    dueAt (plan.completedVacuumAndMop offsets) days now
  match plan.preferredMode with
  | .vacuum => return if vacuumDue ≤ now then some (.vacuum, vacuumDue) else none
  | .vacuumAndMop =>
    return mopDue.bind fun due => if due ≤ now then some (.vacuumAndMop, due) else none

/-! ### The snapshot -/

structure AreaBindingFields where
  areaId : String
  areaName : String
  adapterTarget : JsonValue
  supportsVacuumAndMop : Bool
  deriving DecidableEq

def AreaBindingFields.postInit (binding : AreaBindingFields) : Except PyError Unit := do
  requireText "area_id" binding.areaId
  requireText "area_name" binding.areaName

/-- Resolved area data, injected by the adapter layer. -/
structure AreaBinding extends AreaBindingFields where
  checked : toAreaBindingFields.postInit = .ok ()
  deriving DecidableEq

def AreaBindingFields.construct (binding : AreaBindingFields) : Except PyError AreaBinding :=
  match h : binding.postInit with
  | .ok () => .ok ⟨binding, h⟩
  | .error e => .error e

theorem AreaBindingFields.construct_eq_ok {fields : AreaBindingFields} {binding : AreaBinding} :
    fields.construct = .ok binding ↔ binding.toAreaBindingFields = fields := by
  unfold AreaBindingFields.construct
  constructor
  · intro h
    split at h
    · cases h; rfl
    · cases h
  · rintro rfl
    split
    · rfl
    · next e h => rw [binding.checked] at h; cases h

/-- A due room with the mode it is due in and since when. -/
structure DueCandidate where
  plan : RoomPlan
  mode : Mode
  dueAt : Instant
  deriving DecidableEq

/-- What is wrong with the binding of a due room. -/
def bindingError (areaBindings : String → Option AreaBinding) (plan : RoomPlan) (mode : Mode) :
    Option String :=
  match areaBindings plan.areaId with
  | none => some (plan.areaId ++ ": missing area binding")
  | some binding =>
    if binding.areaId ≠ plan.areaId then some (plan.areaId ++ ": mismatched area binding")
    else if mode = .vacuumAndMop ∧ binding.supportsVacuumAndMop = false then
      some (plan.areaId ++ ": vacuum_and_mop is not supported")
    else none

/-- The loop body of `build_due_snapshot`, over the candidates and the errors so far. -/
def visitRoom (offsets : Offsets) (areaBindings : String → Option AreaBinding)
    (evaluatedAt : Instant) (found : List DueCandidate × List String) (plan : RoomPlan) :
    Except PyError (List DueCandidate × List String) := do
  if plan.enabled = false ∨ ∃ skipUntil ∈ plan.skipUntil, evaluatedAt < skipUntil then
    return found
  -- a room that sleeps is not dated, so it cannot overflow
  let selected ← selectDue offsets plan evaluatedAt
  match selected with
  | none => return found
  | some (mode, dueAt) =>
    return (found.1 ++ [⟨plan, mode, dueAt⟩],
      found.2 ++ (bindingError areaBindings plan mode).toList)

/-- The sort key of a candidate: descending priority, then due time, then area. -/
def DueCandidate.key (item : DueCandidate) : ℤ ×ₗ Instant ×ₗ String :=
  toLex (-item.plan.priority, toLex (item.dueAt, item.plan.areaId))

/-- The job a candidate becomes. -/
def snapshotJob (areaBindings : String → Option AreaBinding) (item : DueCandidate) :
    Except PyError SnapshotJob := do
  let binding ← orRaise (areaBindings item.plan.areaId) (.keyError item.plan.areaId)
  return {
    areaId := item.plan.areaId
    areaNameSnapshot := binding.areaName
    adapterTargetSnapshot := binding.adapterTarget
    mode := item.mode
    priority := item.plan.priority
    dueAt := item.dueAt }

/-- `build_due_snapshot`. -/
def buildDueSnapshot (offsets : Offsets) (revision : PlanRevision)
    (areaBindings : String → Option AreaBinding) (evaluatedAt : Instant) :
    Except PyError PlanSnapshot :=
  match revision.roomPlans with
  | [] => .error (.planningValidationError ["plan revision has no lane-bound room plans"])
  | first :: _ => do
    let (candidates, errors) ←
      revision.roomPlans.foldlM (visitRoom offsets areaBindings evaluatedAt) ([], [])
    -- all errors are reported at once, and then no job is made
    raiseIf (errors ≠ []) (.planningValidationError errors)
    let jobs ← (sortBy DueCandidate.key candidates).mapM (snapshotJob areaBindings)
    PlanSnapshotFields.construct ⟨revision.revisionId, first.laneId, evaluatedAt, jobs⟩

end VacuumPlanner
