import VacuumPlanner.Framework.Checked

/-!
# Computations that draw from a supply

A program that asks a factory for fresh names does more than return or raise: it uses names
up. `Draws ε α` is a computation that may raise and counts its draws; `runFrom n` runs it when
`n` names have been drawn before.

A computation that draws nothing is lifted (`lift`). A check that raises ends the computation
before the draws that follow it (`draws_lift`), and a sequence of draws takes consecutive
names (`runFrom_mapM_draw`).
-/

namespace Framework

variable {ε α β : Type}

/-- A computation that may raise, and counts its draws. -/
abbrev Draws (ε α : Type) := ExceptT ε (StateM ℕ) α

namespace Draws

/-- The result, and how many names have been drawn then. -/
def runFrom (n : ℕ) (x : Draws ε α) : Except ε α × ℕ := x.run.run n

/-- A computation that draws nothing. -/
def lift (x : Except ε α) : Draws ε α := ExceptT.mk (pure x)

/-- The next name of the factory. -/
def draw (factory : ℕ → α) : Draws ε α := ExceptT.mk fun n => (.ok (factory n), n + 1)

variable {n : ℕ}

@[simp] theorem runFrom_pure (a : α) : runFrom n (pure a : Draws ε α) = (.ok a, n) := rfl

@[simp] theorem runFrom_draw (factory : ℕ → α) (f : α → Draws ε β) :
    runFrom n (draw factory >>= f) = runFrom (n + 1) (f (factory n)) := rfl

theorem runFrom_bind_ok {x : Draws ε α} {a : α} {m : ℕ} (h : runFrom n x = (.ok a, m))
    (f : α → Draws ε β) : runFrom n (x >>= f) = runFrom m (f a) := by
  unfold runFrom at h ⊢
  rw [ExceptT.run_bind]
  change (StateT.run (ExceptT.run x >>= _) n : Id _) = _
  rw [StateT.run_bind, h]
  rfl

/-- As many draws as there are elements take consecutive names. -/
theorem runFrom_mapM_draw (factory : ℕ → α) (xs : List β) (n : ℕ) :
    runFrom n (xs.mapM fun _ => (draw factory : Draws ε α)) =
      (.ok ((List.range' n xs.length).map factory), n + xs.length) := by
  induction xs generalizing n with
  | nil => rfl
  | cons x xs ih =>
    rw [List.mapM_cons, runFrom_draw, runFrom_bind_ok (ih (n + 1)), runFrom_pure,
      List.length_cons, List.range'_succ, List.map_cons, Nat.add_right_comm]
    rfl

/-- The result of a lifted computation and what follows it. -/
theorem fst_runFrom_lift (x : Except ε α) (f : α → Draws ε β) :
    (runFrom n (lift x >>= f)).1 = x >>= fun a => (runFrom n (f a)).1 := by
  cases x <;> rfl

/-- Nothing is drawn before a check that raises: what holds of the draws after it may assume
that it passed. -/
theorem draws_lift {x : Except ε α} {f : α → Draws ε β} {P : Prop}
    (h : ∀ a, x = .ok a → (runFrom n (f a)).2 = n ∨ P) :
    (runFrom n (lift x >>= f)).2 = n ∨ P := by
  cases x with
  | error e => exact Or.inl rfl
  | ok a => exact h a rfl

end Draws

end Framework
