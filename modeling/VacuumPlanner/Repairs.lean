import VacuumPlanner.Framework.Cleanup
import VacuumPlanner.Malformed

/-!
# Repairs issues

`repairs.py` over Home Assistant's issue registry. An issue is known by one string, made of the
config entry's id and the condition, so nothing but the text keeps the issues of two entries
apart, and the fix flow has nothing but the text to tell a topology issue from the others. Both
work for the same reason: no condition is the end of another (`IssueCondition.suffix_eq`).

With the ids kept apart (`issueId_injective`), every operation is exact: what it does to the
issues of its entry is a set operation on their conditions (`openConditions`), and the issues of
other entries are not touched (`SameElsewhere`).
-/

namespace VacuumPlanner

open Framework

inductive IssueCondition where
  | missingRegistry
  | missingMapping
  | lostCapability
  | removedAreas
  | unresolvedExternalRun
  | corruptStore
  | futureStore
  deriving DecidableEq

namespace IssueCondition

def value : IssueCondition → String
  | .missingRegistry => "missing_registry"
  | .missingMapping => "missing_mapping"
  | .lostCapability => "lost_capability"
  | .removedAreas => "removed_areas"
  | .unresolvedExternalRun => "unresolved_external_run"
  | .corruptStore => "corrupt_store"
  | .futureStore => "future_store"

/-- The conditions `is_fixable` and the setup compare with: the topology has to be repaired. -/
def topology : IssueCondition → Bool
  | .missingRegistry | .missingMapping | .lostCapability | .removedAreas => true
  | .unresolvedExternalRun | .corruptStore | .futureStore => false

end IssueCondition

/-- `ISSUE_CONDITIONS`. -/
def issueConditions : List IssueCondition :=
  [.missingRegistry, .missingMapping, .lostCapability, .removedAreas, .unresolvedExternalRun,
    .corruptStore, .futureStore]

/-- What `store_issue_condition` returns, as a condition. -/
def StoreIssue.condition : StoreIssue → IssueCondition
  | .corruptStore => .corruptStore
  | .futureStore => .futureStore

/-- `issue_id`. -/
def issueId (entryId : String) (condition : IssueCondition) : String :=
  entryId ++ "_" ++ condition.value

structure Issue where
  isFixable : Bool
  translationKey : String
  /-- The `entry_id` of its data. -/
  entryId : String
  deriving DecidableEq

/-- The issues of the integration's domain, by their ids. -/
abbrev IssueRegistry := String → Option Issue

/-- What `async_create_entry_issue` registers. -/
def entryIssue (entryId : String) (condition : IssueCondition) : Issue where
  isFixable := condition.topology
  translationKey := condition.value
  entryId

namespace IssueRegistry

/-- `async_create_entry_issue`. -/
def createEntryIssue (issues : IssueRegistry) (entryId : String) (condition : IssueCondition) :
    IssueRegistry :=
  Function.update issues (issueId entryId condition) (some (entryIssue entryId condition))

/-- `async_delete_issue` of the issue registry, and `async_clear_entry_issue`. -/
def clearEntryIssue (issues : IssueRegistry) (entryId : String) (condition : IssueCondition) :
    IssueRegistry :=
  Function.update issues (issueId entryId condition) none

/-- The loop body of `async_reconcile_entry_issues`. -/
def reconcileCondition (entryId : String) (active : Finset IssueCondition)
    (issues : IssueRegistry) (condition : IssueCondition) : IssueRegistry :=
  if condition ∈ active then issues.createEntryIssue entryId condition
  else issues.clearEntryIssue entryId condition

/-- `async_reconcile_entry_issues`. -/
def reconcileEntryIssues (issues : IssueRegistry) (entryId : String)
    (active : Finset IssueCondition) : IssueRegistry :=
  issueConditions.foldl (reconcileCondition entryId active) issues

/-- `async_reconcile_unresolved_external_run`. -/
def reconcileUnresolvedExternalRun (issues : IssueRegistry) (entryId : String) (active : Bool) :
    IssueRegistry :=
  if active then issues.createEntryIssue entryId .unresolvedExternalRun
  else issues.clearEntryIssue entryId .unresolvedExternalRun

/-- One deletion of `async_clear_entry_issues`. `raises` is what the issue registry raises for
an id, if it raises. -/
def deleteIssue (raises : String → Option PyError) (entryId : String)
    (condition : IssueCondition) (issues : IssueRegistry) :
    Except (Failure PyError) Unit × IssueRegistry :=
  match raises (issueId entryId condition) with
  | some e => (.error (.error e), issues)
  | none => (.ok (), issues.clearEntryIssue entryId condition)

/-- `async_clear_entry_issues`. -/
def clearEntryIssues (raises : String → Option PyError) (entryId : String)
    (issues : IssueRegistry) : Except (Failure PyError) Unit × IssueRegistry :=
  attemptAll "Vacuum Planner Repairs cleanup failed"
    (issueConditions.map (deleteIssue raises entryId)) issues

end IssueRegistry

/-- `async_create_fix_flow`: the reason the flow aborts with. -/
def fixFlowReason (issueIdValue : String) : String :=
  if [IssueCondition.missingRegistry, .missingMapping, .lostCapability, .removedAreas].any
      fun condition => condition.value.toList <:+ issueIdValue.toList
  then "reload_or_recreate_required" else "manual_store_repair_required"

/-! ### The ids -/

namespace IssueCondition

variable {condition condition' : IssueCondition}

/-- No condition is the end of another. -/
theorem suffix_eq (h : condition.value.toList <:+ condition'.value.toList) :
    condition = condition' := by
  revert h
  cases condition <;> cases condition' <;> decide

/-- Two conditions at the end of one text are the same. -/
theorem eq_of_suffix {text : List Char} (h : condition.value.toList <:+ text)
    (h' : condition'.value.toList <:+ text) : condition = condition' := by
  -- of two ends of one text, the shorter is an end of the longer
  rcases le_total condition.value.toList.length condition'.value.toList.length with h_le | h_le
  · exact suffix_eq (List.suffix_of_suffix_length_le h h' h_le)
  · exact (suffix_eq (List.suffix_of_suffix_length_le h' h h_le)).symm

theorem mem_issueConditions (condition : IssueCondition) : condition ∈ issueConditions := by
  cases condition <;> decide

theorem value_suffix_issueId (entryId : String) (condition : IssueCondition) :
    condition.value.toList <:+ (issueId entryId condition).toList := by
  unfold issueId
  rw [String.toList_append]
  exact List.suffix_append _ _

end IssueCondition

/-- **Issue ids are not shared**, whatever the entries are called. -/
theorem issueId_injective {entryId entryId' : String} {condition condition' : IssueCondition}
    (h : issueId entryId condition = issueId entryId' condition') :
    entryId = entryId' ∧ condition = condition' := by
  have h_suffix := IssueCondition.value_suffix_issueId entryId condition
  rw [h] at h_suffix
  obtain rfl := IssueCondition.eq_of_suffix h_suffix
    (IssueCondition.value_suffix_issueId entryId' condition')
  unfold issueId at h
  rw [String.append_left_inj, String.append_left_inj] at h
  exact ⟨h, rfl⟩

/-! ### The conditions of an entry -/

namespace IssueRegistry

variable {issues issues' : IssueRegistry} {entryId : String} {condition : IssueCondition}
  {active : Finset IssueCondition}

/-- The conditions of which the entry has an issue. -/
def openConditions (issues : IssueRegistry) (entryId : String) : Finset IssueCondition :=
  (issueConditions.filter fun condition => (issues (issueId entryId condition)).isSome).toFinset

theorem mem_openConditions : condition ∈ issues.openConditions entryId ↔
    (issues (issueId entryId condition)).isSome = true := by
  unfold openConditions
  rw [List.mem_toFinset, List.mem_filter]
  exact and_iff_right condition.mem_issueConditions

/-- What the operations on an entry change: issues of its own, deleted or registered anew. -/
def Touches (issues issues' : IssueRegistry) (entryId : String) : Prop :=
  ∀ id, issues' id = issues id ∨ ∃ condition, id = issueId entryId condition ∧
    issues' id ∈ [none, some (entryIssue entryId condition)]

theorem Touches.refl (issues : IssueRegistry) (entryId : String) :
    Touches issues issues entryId := fun _ => Or.inl rfl

theorem Touches.trans {issues'' : IssueRegistry} (h : Touches issues issues' entryId)
    (h' : Touches issues' issues'' entryId) : Touches issues issues'' entryId := by
  intro id
  rcases h' id with h_same | h_own
  · rw [h_same]
    exact h id
  · exact Or.inr h_own

theorem touches_update {issue : Option Issue}
    (h : issue ∈ [none, some (entryIssue entryId condition)]) :
    Touches issues (Function.update issues (issueId entryId condition) issue) entryId := by
  intro id
  by_cases h_id : id = issueId entryId condition
  · refine Or.inr ⟨condition, h_id, ?_⟩
    rw [h_id, Function.update_self]
    exact h
  · exact Or.inl (Function.update_of_ne h_id _ _)

theorem createEntryIssue_touches :
    Touches issues (issues.createEntryIssue entryId condition) entryId :=
  touches_update (List.mem_cons_of_mem _ List.mem_cons_self)

theorem clearEntryIssue_touches :
    Touches issues (issues.clearEntryIssue entryId condition) entryId :=
  touches_update List.mem_cons_self

/-- A pass of operations on the entry. -/
theorem Touches.foldl {α : Type} {f : IssueRegistry → α → IssueRegistry}
    (h : ∀ issues a, Touches issues (f issues a) entryId) (items : List α)
    (issues : IssueRegistry) : Touches issues (items.foldl f issues) entryId := by
  induction items generalizing issues with
  | nil => exact .refl issues entryId
  | cons a items ih => exact (h issues a).trans (ih (f issues a))

/-- Other entries keep their conditions. -/
theorem Touches.openConditions {other : String} (h : Touches issues issues' entryId)
    (h_ne : other ≠ entryId) : issues'.openConditions other = issues.openConditions other := by
  ext condition
  rw [mem_openConditions, mem_openConditions]
  rcases h (issueId other condition) with h_same | ⟨condition', h_id, -⟩
  · rw [h_same]
  · -- the ids keep the entries apart
    exact absurd (issueId_injective h_id).1 h_ne

/-! ### One issue -/

theorem createEntryIssue_open : (issues.createEntryIssue entryId condition).openConditions entryId =
    insert condition (issues.openConditions entryId) := by
  ext condition'
  rw [Finset.mem_insert, mem_openConditions, mem_openConditions]
  unfold createEntryIssue
  by_cases h : condition' = condition
  · rw [h, Function.update_self]
    exact iff_of_true rfl (Or.inl rfl)
  · rw [Function.update_of_ne fun h_id => h (issueId_injective h_id).2]
    exact (or_iff_right h).symm

theorem clearEntryIssue_open : (issues.clearEntryIssue entryId condition).openConditions entryId =
    (issues.openConditions entryId).erase condition := by
  ext condition'
  rw [Finset.mem_erase, mem_openConditions, mem_openConditions]
  unfold clearEntryIssue
  by_cases h : condition' = condition
  · rw [h, Function.update_self]
    exact iff_of_false Bool.false_ne_true fun h' => h'.1 rfl
  · rw [Function.update_of_ne fun h_id => h (issueId_injective h_id).2]
    exact (and_iff_right h).symm

theorem reconcileUnresolvedExternalRun_open (isActive : Bool) :
    (issues.reconcileUnresolvedExternalRun entryId isActive).openConditions entryId =
      if isActive then insert .unresolvedExternalRun (issues.openConditions entryId)
      else (issues.openConditions entryId).erase .unresolvedExternalRun := by
  unfold reconcileUnresolvedExternalRun
  cases isActive with
  | true => exact createEntryIssue_open
  | false => exact clearEntryIssue_open

/-! ### All issues of an entry -/

/-- A pass over some conditions settles these and leaves the others. -/
theorem reconcile_pass (conditions : List IssueCondition) (condition : IssueCondition) :
    condition ∈ (conditions.foldl (reconcileCondition entryId active) issues).openConditions
        entryId ↔
      if condition ∈ conditions then condition ∈ active
      else condition ∈ issues.openConditions entryId := by
  induction conditions generalizing issues with
  | nil => exact (if_neg List.not_mem_nil).symm ▸ Iff.rfl
  | cons first conditions ih =>
    rw [List.foldl_cons, ih]
    -- the last operation on a condition settles it
    by_cases h_rest : condition ∈ conditions
    · rw [if_pos h_rest, if_pos (List.mem_cons_of_mem _ h_rest)]
    rw [if_neg h_rest]
    -- the first condition is created or cleared, and no other touched
    have h_first : condition ∈ (reconcileCondition entryId active issues first).openConditions
        entryId ↔ if condition = first then condition ∈ active
          else condition ∈ issues.openConditions entryId := by
      unfold reconcileCondition
      split
      · next h_active =>
        rw [createEntryIssue_open, Finset.mem_insert]
        split
        · next h => exact iff_of_true (Or.inl h) (h ▸ h_active)
        · next h => exact or_iff_right h
      · next h_active =>
        rw [clearEntryIssue_open, Finset.mem_erase]
        split
        · next h => exact iff_of_false (fun h' => h'.1 h) (h ▸ h_active)
        · next h => exact and_iff_right h
    rw [h_first]
    by_cases h : condition = first
    · rw [if_pos h, if_pos (h ▸ List.mem_cons_self)]
    · rw [if_neg h, if_neg fun h' => (List.mem_cons.mp h').elim h h_rest]

/-- **Reconciling is exact.** -/
theorem reconcileEntryIssues_open :
    (issues.reconcileEntryIssues entryId active).openConditions entryId = active := by
  ext condition
  unfold reconcileEntryIssues
  rw [reconcile_pass, if_pos condition.mem_issueConditions]

theorem reconcileEntryIssues_touches :
    Touches issues (issues.reconcileEntryIssues entryId active) entryId := by
  refine Touches.foldl (fun issues condition => ?_) issueConditions issues
  unfold reconcileCondition
  split
  · exact createEntryIssue_touches
  · exact clearEntryIssue_touches

/-! ### The final clean-up -/

/-- A pass of deletions leaves the issues whose deletion raises. -/
theorem clear_pass {raises : String → Option PyError} (conditions : List IssueCondition)
    (condition : IssueCondition) :
    condition ∈ (conditions.foldl (fun issues condition =>
        (deleteIssue raises entryId condition issues).2) issues).openConditions entryId ↔
      condition ∈ issues.openConditions entryId ∧
        (condition ∈ conditions → (raises (issueId entryId condition)).isSome = true) := by
  induction conditions generalizing issues with
  | nil => exact (and_iff_left fun h => absurd h List.not_mem_nil).symm
  | cons first conditions ih =>
    rw [List.foldl_cons, ih, List.mem_cons]
    -- the first deletion takes its condition, unless it raises
    have h_first : condition ∈ (deleteIssue raises entryId first issues).2.openConditions
        entryId ↔ condition ∈ issues.openConditions entryId ∧
          (condition = first → (raises (issueId entryId condition)).isSome = true) := by
      unfold deleteIssue
      split
      · next e h_raises =>
        refine (and_iff_left ?_).symm
        rintro rfl
        rw [h_raises]
        rfl
      · next h_raises =>
        rw [clearEntryIssue_open, Finset.mem_erase, and_comm]
        refine and_congr_right fun _ => ⟨fun h h' => absurd h' h, fun h h' => ?_⟩
        have h_some := h h'
        rw [h', h_raises] at h_some
        exact Bool.false_ne_true h_some
    rw [h_first, and_assoc, or_imp]

theorem clearEntryIssues_snd {raises : String → Option PyError} :
    (issues.clearEntryIssues raises entryId).2 = issueConditions.foldl (fun issues condition =>
      (deleteIssue raises entryId condition issues).2) issues := by
  unfold clearEntryIssues
  rw [attemptAll_state, List.foldl_map]

theorem clearEntryIssues_open {raises : String → Option PyError} :
    (issues.clearEntryIssues raises entryId).2.openConditions entryId =
      (issues.openConditions entryId).filter fun condition =>
        (raises (issueId entryId condition)).isSome := by
  ext condition
  rw [clearEntryIssues_snd, clear_pass, Finset.mem_filter]
  exact and_congr_right fun _ => forall_prop_of_true condition.mem_issueConditions

theorem clearEntryIssues_touches {raises : String → Option PyError} :
    Touches issues (issues.clearEntryIssues raises entryId).2 entryId := by
  rw [clearEntryIssues_snd]
  refine Touches.foldl (fun issues condition => ?_) issueConditions issues
  unfold deleteIssue
  split
  · exact .refl issues entryId
  · exact clearEntryIssue_touches

/-- What could not be deleted is reported, all of it. -/
theorem clearEntryIssues_errors (raises : String → Option PyError) (entryId : String)
    (issues : IssueRegistry) : errorsOf (issues.clearEntryIssues raises entryId).1 =
      issueConditions.filterMap fun condition => raises (issueId entryId condition) := by
  have h_raised (condition : IssueCondition) (issues : IssueRegistry) :
      errorsOf (deleteIssue raises entryId condition issues).1 =
        (raises (issueId entryId condition)).toList := by
    unfold deleteIssue
    split
    · next e h => rw [h]; rfl
    · next h => rw [h]; rfl
  unfold clearEntryIssues
  rw [errorsOf_attemptAll h_raised, List.filterMap_eq_flatMap_toList]

end IssueRegistry

/-! ### Any number of entries -/

/-- What the integration asks of `repairs.py`, for one entry. -/
inductive RepairsCall where
  | create (condition : IssueCondition)
  | reconcile (active : Finset IssueCondition)
  | reconcileRun (isActive : Bool)
  | clear (condition : IssueCondition)
  | clearAll (raises : String → Option PyError)

/-- The call as the issue registry sees it. -/
def RepairsCall.apply (issues : IssueRegistry) (entryId : String) : RepairsCall → IssueRegistry
  | .create condition => issues.createEntryIssue entryId condition
  | .reconcile active => issues.reconcileEntryIssues entryId active
  | .reconcileRun isActive => issues.reconcileUnresolvedExternalRun entryId isActive
  | .clear condition => issues.clearEntryIssue entryId condition
  | .clearAll raises => (issues.clearEntryIssues raises entryId).2

/-- The call as what it says about the conditions of its entry. -/
def RepairsCall.effect (conditions : Finset IssueCondition) (entryId : String) :
    RepairsCall → Finset IssueCondition
  | .create condition => insert condition conditions
  | .reconcile active => active
  | .reconcileRun isActive =>
    if isActive then insert .unresolvedExternalRun conditions
    else conditions.erase .unresolvedExternalRun
  | .clear condition => conditions.erase condition
  -- an issue whose deletion raises stays
  | .clearAll raises =>
    conditions.filter fun condition => (raises (issueId entryId condition)).isSome

/-- The registry after the calls, each with its entry. -/
def IssueRegistry.run (issues : IssueRegistry) (calls : List (String × RepairsCall)) :
    IssueRegistry :=
  calls.foldl (fun issues call => call.2.apply issues call.1) issues

/-- Every issue is the one its own entry and condition call for. -/
def IssueRegistry.Faithful (issues : IssueRegistry) : Prop :=
  ∀ id issue, issues id = some issue → ∃ condition,
    id = issueId issue.entryId condition ∧ issue = entryIssue issue.entryId condition

variable {issues : IssueRegistry} {entryId : String}

theorem RepairsCall.apply_open (issues : IssueRegistry) (entryId : String) (call : RepairsCall) :
    (call.apply issues entryId).openConditions entryId =
      call.effect (issues.openConditions entryId) entryId := by
  cases call with
  | create condition => exact IssueRegistry.createEntryIssue_open
  | reconcile active => exact IssueRegistry.reconcileEntryIssues_open
  | reconcileRun isActive => exact IssueRegistry.reconcileUnresolvedExternalRun_open isActive
  | clear condition => exact IssueRegistry.clearEntryIssue_open
  | clearAll raises => exact IssueRegistry.clearEntryIssues_open

theorem RepairsCall.apply_touches (issues : IssueRegistry) (entryId : String)
    (call : RepairsCall) : issues.Touches (call.apply issues entryId) entryId := by
  cases call with
  | create condition => exact IssueRegistry.createEntryIssue_touches
  | reconcile active => exact IssueRegistry.reconcileEntryIssues_touches
  | reconcileRun isActive =>
    unfold RepairsCall.apply IssueRegistry.reconcileUnresolvedExternalRun
    cases isActive with
    | true => exact IssueRegistry.createEntryIssue_touches
    | false => exact IssueRegistry.clearEntryIssue_touches
  | clear condition => exact IssueRegistry.clearEntryIssue_touches
  | clearAll raises => exact IssueRegistry.clearEntryIssues_touches

/-- Issues stay what they are called. -/
theorem IssueRegistry.Faithful.touches {issues' : IssueRegistry} (h : issues.Faithful)
    (h_touches : issues.Touches issues' entryId) : issues'.Faithful := by
  intro id issue h_issue
  rcases h_touches id with h_same | ⟨condition, h_id, h_own⟩
  · exact h id issue (h_same ▸ h_issue)
  · rw [h_issue, List.mem_pair] at h_own
    obtain rfl := Option.some.inj (h_own.resolve_left nofun)
    exact ⟨condition, h_id, rfl⟩

theorem IssueRegistry.Faithful.run (h : issues.Faithful)
    (calls : List (String × RepairsCall)) : (issues.run calls).Faithful := by
  unfold IssueRegistry.run
  induction calls generalizing issues with
  | nil => exact h
  | cons call calls ih => exact ih (h.touches (call.2.apply_touches issues call.1))

/-- The conditions of an entry are what its own calls make of them. -/
theorem IssueRegistry.run_open (issues : IssueRegistry) (calls : List (String × RepairsCall))
    (entryId : String) : (issues.run calls).openConditions entryId =
      (calls.filter fun call => call.1 = entryId).foldl
        (fun conditions call => call.2.effect conditions entryId)
        (issues.openConditions entryId) := by
  unfold IssueRegistry.run
  induction calls generalizing issues with
  | nil => rfl
  | cons call calls ih =>
    rw [List.foldl_cons, ih, List.filter_cons]
    by_cases h : call.1 = entryId
    · rw [if_pos (decide_eq_true h), List.foldl_cons, h, RepairsCall.apply_open]
    · -- a call of another entry touches none of these
      rw [if_neg fun h' => h (of_decide_eq_true h'),
        (call.2.apply_touches issues call.1).openConditions (Ne.symm h)]

/-- The reason a fix flow gives is the one its condition calls for. -/
theorem fixFlowReason_issueId (entryId : String) (condition : IssueCondition) :
    fixFlowReason (issueId entryId condition) =
      if condition.topology then "reload_or_recreate_required"
      else "manual_store_repair_required" := by
  have h_any : ([IssueCondition.missingRegistry, .missingMapping, .lostCapability,
      .removedAreas].any fun condition' =>
        condition'.value.toList <:+ (issueId entryId condition).toList) = true ↔
      condition.topology = true := by
    rw [List.any_eq_true]
    constructor
    · rintro ⟨condition', h_mem, h_suffix⟩
      -- the text ends in the condition it was made of, and in no other
      have h_same := IssueCondition.eq_of_suffix (of_decide_eq_true h_suffix)
        (condition.value_suffix_issueId entryId)
      rw [← h_same]
      revert h_mem
      cases condition' <;> decide
    -- and one of the topology is found by its own text
    · intro h_topology
      refine ⟨condition, ?_, decide_eq_true (condition.value_suffix_issueId entryId)⟩
      revert h_topology
      cases condition <;> decide
  unfold fixFlowReason
  by_cases h : condition.topology = true
  · rw [if_pos h, if_pos (h_any.mpr h)]
  · rw [if_neg h, if_neg fun h' => h (h_any.mp h')]

/-- **Repairs are kept per entry.** Whatever the entries are called and however their calls
interleave, the conditions of an entry are what its own calls make of them; every issue is the
one its entry and condition call for, and its fix flow tells the user to reload or recreate the
entry exactly when the issue is fixable. -/
theorem repairs_per_entry (issues : IssueRegistry) (calls : List (String × RepairsCall)) :
    (∀ entryId, (issues.run calls).openConditions entryId =
      (calls.filter fun call => call.1 = entryId).foldl
        (fun conditions call => call.2.effect conditions entryId)
        (issues.openConditions entryId)) ∧
      (issues.Faithful → ∀ id issue, issues.run calls id = some issue → ∃ condition,
        id = issueId issue.entryId condition ∧ issue = entryIssue issue.entryId condition ∧
          (issue.isFixable = true ↔ fixFlowReason id = "reload_or_recreate_required")) := by
  refine ⟨issues.run_open calls, fun h_faithful id issue h_issue => ?_⟩
  obtain ⟨condition, h_id, h_own⟩ := h_faithful.run calls id issue h_issue
  refine ⟨condition, h_id, h_own, ?_⟩
  rw [h_id, fixFlowReason_issueId, h_own]
  show condition.topology = true ↔ _
  cases condition.topology with
  | true => exact iff_of_true rfl (if_pos rfl)
  | false => exact iff_of_false Bool.false_ne_true (by decide)

/-- Two entries, the second with a name that could be taken for an issue of the first. -/
def interleavedCalls : List (String × RepairsCall) :=
  [("home", .create .missingRegistry), ("home_missing", .create .corruptStore),
    ("home", .reconcileRun true), ("home_missing", .reconcile {.lostCapability, .removedAreas}),
    ("home", .clear .missingRegistry), ("home_missing", .clear .removedAreas)]

/-- The call that clears one entry's issue leaves that of the other. -/
theorem repairs_per_entry_one_issue :
    (IssueRegistry.run (fun _ => none) interleavedCalls).openConditions "home" =
        {.unresolvedExternalRun} ∧
      (IssueRegistry.run (fun _ => none) interleavedCalls).openConditions "home_missing" =
        {.lostCapability} ∧
      ∃ condition, "home_missing_lost_capability" = issueId "home_missing" condition ∧
        entryIssue "home_missing" .lostCapability = entryIssue "home_missing" condition ∧
          ((entryIssue "home_missing" .lostCapability).isFixable = true ↔
            fixFlowReason "home_missing_lost_capability" = "reload_or_recreate_required") := by
  obtain ⟨h_open, h_faithful⟩ := repairs_per_entry (fun _ => none) interleavedCalls
  refine ⟨(h_open "home").trans (by decide), (h_open "home_missing").trans (by decide), ?_⟩
  exact h_faithful nofun "home_missing_lost_capability"
    (entryIssue "home_missing" .lostCapability) (by decide)

end VacuumPlanner
