import VacuumPlanner.Observer
import VacuumPlanner.Domain.Serialization

/-!
# Normalized observations

`adapters/observation.py`: what a state of the vacuum, with the details its integration attaches
to it, means to the planner. The rules are asked in an order of their own: a failure before
anything else, then doubt, then a run, then a run that is interrupted; only what none of them
claims can be the end of a run.

`VacuumReport.outcome_spec` says for every outcome exactly which observations it stands for. The
one that matters most is the last: a run counts as completed on a plain `idle` or `docked` only,
with no detail at all and no sign of an error.
-/

namespace VacuumPlanner

open Framework Serialization

/-- `str.strip`. -/
def strip (value : String) : String :=
  String.ofList (((value.toList.dropWhile isSpace).reverse.dropWhile isSpace).reverse)

/-- The lower case of a character, as far as a comparison with ASCII text can tell: of the other
characters only the Kelvin sign has the lower case of an ASCII letter. -/
def lowerChar (c : Char) : Char := if c.toNat = 8490 then 'k' else c.toLower

/-- `str.lower`, up to comparisons with ASCII text. -/
def lower (value : String) : String := String.ofList (value.toList.map lowerChar)

/-- `_normalized_text`. -/
def normalizedText : Json → Option String
  | .str value => if isBlank value then none else some (lower (strip value))
  | _ => none

/-- `_RUNNING_STATES`. -/
def runningTexts : List String := ["cleaning", "zone_cleaning", "segment_cleaning"]

/-- `_INTERMEDIATE_STATES`. -/
def intermediateTexts : List String :=
  ["paused", "washing", "mop_washing", "drying", "returning", "returning_home", "docking"]

/-- `_FAILED_STATES`. -/
def failedTexts : List String := ["error", "failed"]

/-- `_UNCERTAIN_STATES`. -/
def uncertainTexts : List String := ["unknown", "unavailable"]

/-- `_COMPLETED_STATES`. -/
def completedTexts : List String := ["idle", "docked"]

/-- The detail attributes, in the order of the source. -/
def detailKeys : List String := ["activity", "status", "task_status"]

/-- What `normalize_observation` reads of a state and its attributes. -/
structure VacuumReport where
  /-- The state, stripped and lowered. -/
  state : String
  details : List String
  error : Option String
  errorCode : Option ℤ
  deriving DecidableEq

def VacuumReport.read (state : String) (attributes : Payload) : VacuumReport where
  -- a blank state is an unknown one
  state := (normalizedText (.str state)).getD "unknown"
  details := detailKeys.filterMap fun key => normalizedText (attributes.get key)
  error := normalizedText (attributes.get "error")
  errorCode := match attributes.get "error_code" with
    -- `type(error_code) is int`, so a `bool` is no code
    | .int code => some code
    | _ => none

namespace VacuumReport

/-- The vacuum says that it has failed. -/
def Failed (report : VacuumReport) : Prop :=
  report.state ∈ failedTexts ∨ (∃ text ∈ report.error, text ∈ failedTexts) ∨
    ∃ code ∈ report.errorCode, code ≠ 0

/-- The state or one of the details is among the texts. -/
def Mentions (report : VacuumReport) (texts : List String) : Prop :=
  report.state ∈ texts ∨ ∃ detail ∈ report.details, detail ∈ texts

instance (report : VacuumReport) : Decidable report.Failed :=
  inferInstanceAs (Decidable (_ ∨ _ ∨ _))

instance (report : VacuumReport) (texts : List String) : Decidable (report.Mentions texts) :=
  inferInstanceAs (Decidable (_ ∨ _))

/-- The outcome of a report; `none` is `NO_CHANGE`. -/
def outcome (report : VacuumReport) : Option ObservationOutcome :=
  if report.Failed then some .failed
  else if report.Mentions uncertainTexts then some .uncertain
  else if report.Mentions runningTexts then some .running
  else if report.Mentions intermediateTexts then none
  else if report.state ∈ completedTexts ∧ report.details = [] then some .completed
  else some .uncertain

end VacuumReport

/-- `normalize_observation`. -/
def normalizeObservation (state : String) (attributes : Payload) : Option ObservationOutcome :=
  (VacuumReport.read state attributes).outcome

/-! ### What each outcome stands for -/

variable {report : VacuumReport}

/-- The texts that end a run are none of the others. -/
theorem not_mentions_of_completed (h_state : report.state ∈ completedTexts)
    (h_details : report.details = []) :
    ¬ report.Mentions uncertainTexts ∧ ¬ report.Mentions runningTexts ∧
      ¬ report.Mentions intermediateTexts := by
  have h_not (texts : List String) (h_apart : ∀ text ∈ completedTexts, text ∉ texts) :
      ¬ report.Mentions texts := by
    rintro (h | ⟨detail, h_detail, -⟩)
    · exact h_apart _ h_state h
    · rw [h_details] at h_detail
      exact absurd h_detail List.not_mem_nil
  exact ⟨h_not _ (by decide), h_not _ (by decide), h_not _ (by decide)⟩

/-- **What each outcome stands for.** -/
theorem VacuumReport.outcome_spec (report : VacuumReport) :
    (report.outcome = some .failed ↔ report.Failed) ∧
      (report.outcome = some .running ↔ ¬ report.Failed ∧ ¬ report.Mentions uncertainTexts ∧
        report.Mentions runningTexts) ∧
      (report.outcome = none ↔ ¬ report.Failed ∧ ¬ report.Mentions uncertainTexts ∧
        ¬ report.Mentions runningTexts ∧ report.Mentions intermediateTexts) ∧
      (report.outcome = some .completed ↔ ¬ report.Failed ∧ report.state ∈ completedTexts ∧
        report.details = []) := by
  unfold outcome
  by_cases h_failed : report.Failed
  · simp [h_failed]
  -- a report that says completed mentions none of the texts asked for before
  by_cases h_uncertain : report.Mentions uncertainTexts
  · simp only [h_failed, h_uncertain, if_false, if_true]
    refine ⟨by simp, by simp, by simp, iff_of_false (by simp) ?_⟩
    rintro ⟨-, h_state, h_details⟩
    exact (not_mentions_of_completed h_state h_details).1 h_uncertain
  by_cases h_running : report.Mentions runningTexts
  · simp only [h_failed, h_uncertain, h_running, if_false, if_true]
    refine ⟨by simp, by simp, by simp, iff_of_false (by simp) ?_⟩
    rintro ⟨-, h_state, h_details⟩
    exact (not_mentions_of_completed h_state h_details).2.1 h_running
  by_cases h_intermediate : report.Mentions intermediateTexts
  · simp only [h_failed, h_uncertain, h_running, h_intermediate, if_false, if_true]
    refine ⟨by simp, by simp, by simp, iff_of_false (by simp) ?_⟩
    rintro ⟨-, h_state, h_details⟩
    exact (not_mentions_of_completed h_state h_details).2.2 h_intermediate
  · simp only [h_failed, h_uncertain, h_running, h_intermediate, if_false]
    by_cases h_completed : report.state ∈ completedTexts ∧ report.details = []
    · simp [h_completed]
    · simp [h_completed]

end VacuumPlanner
