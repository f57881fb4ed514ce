import Mathlib

/-!
# JSON values

An adapter target is an arbitrary JSON value. `Json` is what the storage backend
and the adapters hand over; `JsonValue` is the frozen form a job keeps, in which
every number is finite and every object lists its keys in increasing order, so that
two targets are equal exactly when they are the same value.
-/

namespace VacuumPlanner

/-- A Python float, read as the real number it denotes. -/
inductive PyFloat where
  | finite (q : ℚ)
  | infinity (negative : Bool)
  | nan
  deriving DecidableEq

inductive Json where
  | null
  | bool (b : Bool)
  | int (n : ℤ)
  | float (x : PyFloat)
  | str (s : String)
  | array (items : List Json)
  | object (fields : List (String × Json))

namespace Json

/-! ### Equality of JSON values is decidable -/

mutual

def beq : Json → Json → Bool
  | .null, .null => true
  | .bool a, .bool b => a == b
  | .int a, .int b => a == b
  | .float a, .float b => decide (a = b)
  | .str a, .str b => a == b
  | .array as, .array bs => beqItems as bs
  | .object as, .object bs => beqFields as bs
  | _, _ => false

def beqItems : List Json → List Json → Bool
  | [], [] => true
  | a :: as, b :: bs => beq a b && beqItems as bs
  | _, _ => false

def beqFields : List (String × Json) → List (String × Json) → Bool
  | [], [] => true
  | (k, a) :: as, (l, b) :: bs => k == l && beq a b && beqFields as bs
  | _, _ => false

end

mutual

theorem beq_iff : ∀ a b : Json, beq a b = true ↔ a = b
  | .null, b => by cases b <;> simp [beq]
  | .bool _, b => by cases b <;> simp [beq]
  | .int _, b => by cases b <;> simp [beq]
  | .float _, b => by cases b <;> simp [beq]
  | .str _, b => by cases b <;> simp [beq]
  | .array as, b => by
    cases b with
    | array bs => simpa [beq] using beqItems_iff as bs
    | _ => simp [beq]
  | .object as, b => by
    cases b with
    | object bs => simpa [beq] using beqFields_iff as bs
    | _ => simp [beq]

theorem beqItems_iff : ∀ as bs : List Json, beqItems as bs = true ↔ as = bs
  | [], bs => by cases bs <;> simp [beqItems]
  | a :: as, bs => by
    cases bs with
    | nil => simp [beqItems]
    | cons b bs => simp [beqItems, beq_iff a b, beqItems_iff as bs]

theorem beqFields_iff : ∀ as bs : List (String × Json), beqFields as bs = true ↔ as = bs
  | [], bs => by cases bs <;> simp [beqFields]
  | (k, a) :: as, bs => by
    cases bs with
    | nil => simp [beqFields]
    | cons b bs =>
      obtain ⟨l, b⟩ := b
      simp [beqFields, beq_iff a b, beqFields_iff as bs, and_assoc]

end

instance : DecidableEq Json := fun a b => decidable_of_iff (beq a b = true) (beq_iff a b)

/-! ### Frozen values -/

mutual

/-- What `freeze_json` guarantees of its result: finite numbers, and objects whose
keys increase, at every depth. -/
def frozen : Json → Bool
  | .float (.finite _) => true
  | .float _ => false
  | .array items => frozenItems items
  | .object fields =>
    decide ((fields.map Prod.fst).Pairwise (· < ·)) && frozenFields fields
  | _ => true

def frozenItems : List Json → Bool
  | [] => true
  | item :: items => frozen item && frozenItems items

def frozenFields : List (String × Json) → Bool
  | [] => true
  | (_, value) :: fields => frozen value && frozenFields fields

end

end Json

/-- A frozen JSON value: what `adapter_target_snapshot` holds once constructed. -/
structure JsonValue where
  json : Json
  frozen : json.frozen = true
  deriving DecidableEq

def JsonValue.null : JsonValue := ⟨.null, rfl⟩

end VacuumPlanner
