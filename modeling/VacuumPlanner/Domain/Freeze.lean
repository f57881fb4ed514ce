import VacuumPlanner.Domain.Models
import VacuumPlanner.Framework.Dict

/-!
# Freezing and thawing

`freeze_json` and `thaw_json` of `domain/models.py`, and `_json_value` of
`domain/serialization.py`. A frozen array is a tuple and a frozen object a mapping proxy
there; `Json` has one constructor for both forms, and `JsonValue` is the type of the frozen
ones. A frozen value passes `_json_value` and is frozen to itself, so what a job thaws into a
payload is what it is given back (`freezeJson_thawJson`).
-/

namespace VacuumPlanner

open Framework

/-! ### `freeze_json` and `thaw_json` -/

namespace Json

mutual

/-- `freeze_json`, into a value whose keys increase. -/
def freeze : Json → Except PyError Json
  | .float (.finite q) => .ok (.float (.finite q))
  | .float _ => .error (.valueError "JSON numbers must be finite")
  | .array items => do
    let frozen ← freezeItems items
    return .array frozen
  | .object fields => do
    -- every error is the same, so the order in which the values are frozen does not show
    let frozen ← freezeFields fields
    return .object (Dict.sorted frozen)
  | value => .ok value

def freezeItems : List Json → Except PyError (List Json)
  | [] => .ok []
  | item :: items => do
    let frozen ← freeze item
    let rest ← freezeItems items
    return frozen :: rest

def freezeFields : List (String × Json) → Except PyError (List (String × Json))
  | [] => .ok []
  | (key, value) :: fields => do
    let frozen ← freeze value
    let rest ← freezeFields fields
    return (key, frozen) :: rest

end

mutual

/-- `thaw_json`. -/
def thaw : Json → Json
  | .array items => .array (thawItems items)
  | .object fields => .object (thawFields fields)
  | value => value

def thawItems : List Json → List Json
  | [] => []
  | item :: items => thaw item :: thawItems items

def thawFields : List (String × Json) → List (String × Json)
  | [] => []
  | (key, value) :: fields => (key, thaw value) :: thawFields fields

end

mutual

/-- `_json_value`. -/
def checkedValue (field : String) : Json → Except PyError Json
  | .float (.finite q) => .ok (.float (.finite q))
  | .float _ => .error (.valueError (field ++ " must contain finite JSON numbers"))
  | .array items => do
    let values ← checkedItems field items
    return .array values
  | .object fields => do
    let values ← checkedFields field fields
    return .object values
  | value => .ok value

def checkedItems (field : String) : List Json → Except PyError (List Json)
  | [] => .ok []
  | item :: items => do
    let value ← checkedValue field item
    let rest ← checkedItems field items
    return value :: rest

def checkedFields (field : String) :
    List (String × Json) → Except PyError (List (String × Json))
  | [] => .ok []
  | (key, value) :: fields => do
    let checked ← checkedValue field value
    let rest ← checkedFields field fields
    return (key, checked) :: rest

end

/-! ### What is frozen -/

theorem frozenFields_iff {fields : List (String × Json)} :
    frozenFields fields = true ↔ ∀ entry ∈ fields, entry.2.frozen = true := by
  induction fields with
  | nil => exact iff_of_true rfl fun _ h => absurd h List.not_mem_nil
  | cons entry fields ih =>
    obtain ⟨key, value⟩ := entry
    unfold frozenFields
    rw [Bool.and_eq_true, ih, List.forall_mem_cons]

/-- An object is frozen when its keys increase and its values are frozen. -/
theorem frozen_object {fields : List (String × Json)} : (object fields).frozen = true ↔
    (fields.Pairwise fun a b => a.1 < b.1) ∧ frozenFields fields = true := by
  unfold frozen
  rw [Bool.and_eq_true, decide_eq_true_iff, List.pairwise_map]

mutual

/-- `freeze_json` returns frozen values. -/
theorem freeze_frozen : ∀ {value w : Json}, value.freeze = .ok w → w.frozen = true
  | .null, w, h => by cases h; rfl
  | .bool _, w, h => by cases h; rfl
  | .int _, w, h => by cases h; rfl
  | .float (.finite _), w, h => by cases h; rfl
  | .float (.infinity _), w, h => nomatch h
  | .float .nan, w, h => nomatch h
  | .str _, w, h => by cases h; rfl
  | .array items, w, h => by
    unfold freeze at h
    obtain ⟨frozen, h_items, h_w⟩ := bind_eq_ok.mp h
    cases h_w
    exact freezeItems_frozen h_items
  | .object fields, w, h => by
    unfold freeze at h
    obtain ⟨frozen, h_fields, h_w⟩ := bind_eq_ok.mp h
    cases h_w
    have h_values := frozenFields_iff.mp (freezeFields_frozen h_fields)
    refine frozen_object.mpr ⟨Dict.sorted_pairwise _, frozenFields_iff.mpr fun entry h_mem => ?_⟩
    exact h_values entry (Dict.mem_sorted h_mem)

theorem freezeItems_frozen : ∀ {items ws : List Json},
    freezeItems items = .ok ws → frozenItems ws = true
  | [], ws, h => by cases h; rfl
  | item :: items, ws, h => by
    unfold freezeItems at h
    obtain ⟨frozen, h_item, h⟩ := bind_eq_ok.mp h
    obtain ⟨rest, h_rest, h⟩ := bind_eq_ok.mp h
    cases h
    exact Bool.and_eq_true_iff.mpr ⟨freeze_frozen h_item, freezeItems_frozen h_rest⟩

theorem freezeFields_frozen : ∀ {fields ws : List (String × Json)},
    freezeFields fields = .ok ws → frozenFields ws = true
  | [], ws, h => by cases h; rfl
  | (key, value) :: fields, ws, h => by
    unfold freezeFields at h
    obtain ⟨frozen, h_value, h⟩ := bind_eq_ok.mp h
    obtain ⟨rest, h_rest, h⟩ := bind_eq_ok.mp h
    cases h
    exact Bool.and_eq_true_iff.mpr ⟨freeze_frozen h_value, freezeFields_frozen h_rest⟩

end

mutual

/-- A frozen value is frozen to itself. -/
theorem freeze_of_frozen : ∀ {value : Json}, value.frozen = true → value.freeze = .ok value
  | .null, _ => rfl
  | .bool _, _ => rfl
  | .int _, _ => rfl
  | .float (.finite _), _ => rfl
  | .float (.infinity _), h => nomatch h
  | .float .nan, h => nomatch h
  | .str _, _ => rfl
  | .array items, h => by
    unfold freeze
    rw [freezeItems_of_frozen h]
    rfl
  | .object fields, h => by
    obtain ⟨h_keys, h_values⟩ := frozen_object.mp h
    unfold freeze
    rw [freezeFields_of_frozen h_values, ok_bind, Dict.sorted_of_pairwise h_keys]
    rfl

theorem freezeItems_of_frozen : ∀ {items : List Json},
    frozenItems items = true → freezeItems items = .ok items
  | [], _ => rfl
  | item :: items, h => by
    obtain ⟨h_item, h_rest⟩ := Bool.and_eq_true_iff.mp h
    unfold freezeItems
    rw [freeze_of_frozen h_item, ok_bind, freezeItems_of_frozen h_rest]
    rfl

theorem freezeFields_of_frozen : ∀ {fields : List (String × Json)},
    frozenFields fields = true → freezeFields fields = .ok fields
  | [], _ => rfl
  | (key, value) :: fields, h => by
    obtain ⟨h_value, h_rest⟩ := Bool.and_eq_true_iff.mp h
    unfold freezeFields
    rw [freeze_of_frozen h_value, ok_bind, freezeFields_of_frozen h_rest]
    rfl

end

mutual

/-- A frozen value has finite numbers only. -/
theorem checkedValue_of_frozen (field : String) :
    ∀ {value : Json}, value.frozen = true → checkedValue field value = .ok value
  | .null, _ => rfl
  | .bool _, _ => rfl
  | .int _, _ => rfl
  | .float (.finite _), _ => rfl
  | .float (.infinity _), h => nomatch h
  | .float .nan, h => nomatch h
  | .str _, _ => rfl
  | .array items, h => by
    unfold checkedValue
    rw [checkedItems_of_frozen field h]
    rfl
  | .object fields, h => by
    unfold checkedValue
    rw [checkedFields_of_frozen field (frozen_object.mp h).2]
    rfl

theorem checkedItems_of_frozen (field : String) :
    ∀ {items : List Json}, frozenItems items = true → checkedItems field items = .ok items
  | [], _ => rfl
  | item :: items, h => by
    obtain ⟨h_item, h_rest⟩ := Bool.and_eq_true_iff.mp h
    unfold checkedItems
    rw [checkedValue_of_frozen field h_item, ok_bind, checkedItems_of_frozen field h_rest]
    rfl

theorem checkedFields_of_frozen (field : String) : ∀ {fields : List (String × Json)},
    frozenFields fields = true → checkedFields field fields = .ok fields
  | [], _ => rfl
  | (key, value) :: fields, h => by
    obtain ⟨h_value, h_rest⟩ := Bool.and_eq_true_iff.mp h
    unfold checkedFields
    rw [checkedValue_of_frozen field h_value, ok_bind, checkedFields_of_frozen field h_rest]
    rfl

end

mutual

/-- The two forms of a container are one constructor here. -/
theorem thaw_eq : ∀ value : Json, value.thaw = value
  | .null | .bool _ | .int _ | .float _ | .str _ => rfl
  | .array items => congrArg array (thawItems_eq items)
  | .object fields => congrArg object (thawFields_eq fields)

theorem thawItems_eq : ∀ items : List Json, thawItems items = items
  | [] => rfl
  | item :: items => congrArg₂ List.cons (thaw_eq item) (thawItems_eq items)

theorem thawFields_eq : ∀ fields : List (String × Json), thawFields fields = fields
  | [] => rfl
  | (key, value) :: fields =>
    congrArg₂ List.cons (congrArg (Prod.mk key) (thaw_eq value)) (thawFields_eq fields)

end

end Json

/-! ### The frozen type -/

/-- `freeze_json`. -/
def freezeJson (value : Json) : Except PyError JsonValue :=
  match h : value.freeze with
  | .ok frozen => .ok ⟨frozen, Json.freeze_frozen h⟩
  | .error e => .error e

/-- `thaw_json`. -/
def thawJson (value : JsonValue) : Json :=
  value.json.thaw

theorem freezeJson_eq_ok {value : Json} {frozen : JsonValue} :
    freezeJson value = .ok frozen ↔ value.freeze = .ok frozen.json := by
  unfold freezeJson
  split
  · next w h =>
    constructor
    · intro h_eq
      cases h_eq
      exact h
    · intro h_eq
      have h_same : w = frozen.json := Except.ok.inj (h.symm.trans h_eq)
      subst h_same
      rfl
  · next e h =>
    refine iff_of_false nofun fun h_eq => ?_
    exact nomatch h.symm.trans h_eq

theorem thawJson_frozen (value : JsonValue) : (thawJson value).frozen = true := by
  unfold thawJson
  rw [Json.thaw_eq]
  exact value.frozen

/-- **What was thawed freezes to what it was.** -/
theorem freezeJson_thawJson (value : JsonValue) : freezeJson (thawJson value) = .ok value := by
  rw [freezeJson_eq_ok, Json.freeze_of_frozen (thawJson_frozen value)]
  unfold thawJson
  rw [Json.thaw_eq]

end VacuumPlanner
