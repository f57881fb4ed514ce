import VacuumPlanner.Framework.Checked

/-!
# Clean-ups that attempt everything

A clean-up is a list of actions each of which may raise, and none of which may keep the
others from running. `collect` runs them all and keeps what they raise; `attemptAll` then
raises it: nothing, the one error, or all of them in a group (`raiseAll`). What is cleaned up was
built by actions in turn, of which one that raises is the last (`inTurn`).

Groups nest, since an action may be a clean-up itself. `Failure.errors` flattens them, and
the one lemma a caller needs is that flattening what is raised gives back everything the
actions raised, in their order (`errorsOf_attemptAll`), while the state is the one all the
actions lead to (`attemptAll_state`).
-/

namespace Framework

/-- What a clean-up raises. -/
inductive Failure (ε : Type) where
  | error (e : ε)
  | group (message : String) (failures : List (Failure ε))

variable {σ ε : Type}

mutual

/-- The errors of a failure, however deep they are. -/
def Failure.errors : Failure ε → List ε
  | .error e => [e]
  | .group _ failures => Failure.allErrors failures

def Failure.allErrors : List (Failure ε) → List ε
  | [] => []
  | failure :: failures => failure.errors ++ Failure.allErrors failures

end

theorem Failure.allErrors_eq (failures : List (Failure ε)) :
    Failure.allErrors failures = failures.flatMap Failure.errors := by
  induction failures with
  | nil => rfl
  | cons failure failures ih =>
    rw [Failure.allErrors, ih, List.flatMap_cons]

mutual

/-- What is left of a failure when the errors with `p` are split off; a group that has lost all of
its errors is gone. -/
def Failure.without (p : ε → Bool) : Failure ε → Option (Failure ε)
  | .error e => if p e then none else some (.error e)
  | .group message failures =>
    match Failure.allWithout p failures with
    | [] => none
    | failure :: rest => some (.group message (failure :: rest))

def Failure.allWithout (p : ε → Bool) : List (Failure ε) → List (Failure ε)
  | [] => []
  | failure :: failures => (failure.without p).toList ++ Failure.allWithout p failures

end

mutual

/-- Splitting errors off leaves the others, in their order. -/
theorem Failure.errors_without (p : ε → Bool) : ∀ failure : Failure ε,
    (failure.without p).elim [] Failure.errors = failure.errors.filter fun e => !p e
  | .error e => by
    unfold Failure.without Failure.errors
    cases h : p e <;> simp [h, Failure.errors]
  | .group message failures => by
    have h_all := Failure.allErrors_allWithout p failures
    unfold Failure.without
    rw [Failure.errors, ← h_all]
    cases Failure.allWithout p failures <;> rfl

theorem Failure.allErrors_allWithout (p : ε → Bool) : ∀ failures : List (Failure ε),
    Failure.allErrors (Failure.allWithout p failures) =
      (Failure.allErrors failures).filter fun e => !p e
  | [] => rfl
  | failure :: failures => by
    rw [Failure.allWithout, Failure.allErrors, List.filter_append,
      ← Failure.allErrors_allWithout p failures, ← Failure.errors_without p failure]
    cases failure.without p <;> rfl

end

/-- The errors of an outcome. -/
def errorsOf : Except (Failure ε) Unit → List ε
  | .ok () => []
  | .error failure => failure.errors

/-- Raise what was collected: nothing, the one failure, or a group. -/
def raiseAll (message : String) : List (Failure ε) → Except (Failure ε) Unit
  | [] => .ok ()
  | [failure] => .error failure
  | failures => .error (.group message failures)

/-- Run every action, whatever the earlier ones raise. -/
def collect : List (σ → Except (Failure ε) Unit × σ) → σ → List (Failure ε) × σ
  | [], s => ([], s)
  | action :: actions, s =>
    match action s with
    | (.ok (), s') => collect actions s'
    | (.error failure, s') =>
      let (failures, s'') := collect actions s'
      (failure :: failures, s'')

/-- A clean-up. -/
def attemptAll (message : String) (actions : List (σ → Except (Failure ε) Unit × σ)) (s : σ) :
    Except (Failure ε) Unit × σ :=
  let (failures, s') := collect actions s
  (raiseAll message failures, s')

/-- Run the actions one after the other, up to the first that raises. -/
def inTurn : List (σ → Except (Failure ε) Unit × σ) → σ → Except (Failure ε) Unit × σ
  | [], s => (.ok (), s)
  | action :: actions, s =>
    match action s with
    | (.ok (), s') => inTurn actions s'
    | (.error failure, s') => (.error failure, s')

variable {message : String} {action : σ → Except (Failure ε) Unit × σ}
  {actions : List (σ → Except (Failure ε) Unit × σ)} {s : σ}

/-- Raising a collection loses none of its errors. -/
theorem errorsOf_raiseAll (failures : List (Failure ε)) :
    errorsOf (raiseAll message failures) = failures.flatMap Failure.errors := by
  match failures with
  | [] => rfl
  | [failure] => exact (List.append_nil _).symm
  | first :: second :: rest => exact Failure.allErrors_eq (first :: second :: rest)

theorem collect_cons_snd : (collect (action :: actions) s).2 = (collect actions (action s).2).2 := by
  rw [collect]
  rcases action s with ⟨_ | _, _⟩ <;> rfl

theorem collect_cons_errors : (collect (action :: actions) s).1.flatMap Failure.errors =
    errorsOf (action s).1 ++ (collect actions (action s).2).1.flatMap Failure.errors := by
  rw [collect]
  rcases action s with ⟨_ | _, _⟩ <;> rfl

/-- **Every action runs.** -/
theorem attemptAll_state :
    (attemptAll message actions s).2 = actions.foldl (fun s action => (action s).2) s := by
  show (collect actions s).2 = _
  induction actions generalizing s with
  | nil => rfl
  | cons action actions ih => rw [collect_cons_snd, ih, List.foldl_cons]

/-- **Nothing that was raised is lost.** The errors of a clean-up are those of its first action,
followed by those of the rest. -/
theorem errorsOf_attemptAll_cons : errorsOf (attemptAll message (action :: actions) s).1 =
    errorsOf (action s).1 ++ errorsOf (attemptAll message actions (action s).2).1 := by
  have h_collect (actions : List (σ → Except (Failure ε) Unit × σ)) (s : σ) :
      errorsOf (attemptAll message actions s).1 =
        (collect actions s).1.flatMap Failure.errors :=
    errorsOf_raiseAll _
  rw [h_collect, h_collect, collect_cons_errors]

/-- A clean-up of actions that do not read what the others write: each raises what it raises
on its own. -/
theorem errorsOf_attemptAll {α : Type} {run : α → σ → Except (Failure ε) Unit × σ}
    {raised : α → List ε} (h : ∀ a s, errorsOf (run a s).1 = raised a) (items : List α) (s : σ) :
    errorsOf (attemptAll message (items.map run) s).1 = items.flatMap raised := by
  induction items generalizing s with
  | nil => rfl
  | cons a items ih =>
    rw [List.map_cons, errorsOf_attemptAll_cons, h, ih, List.flatMap_cons]

/-- A clean-up that raises has something to raise, if its actions have. -/
theorem errors_of_attemptAll
    (h : ∀ action ∈ actions, ∀ s failure s', action s = (.error failure, s') → failure.errors ≠ [])
    {failure : Failure ε} (h_run : (attemptAll message actions s).1 = .error failure) :
    failure.errors ≠ [] := by
  -- induction on the actions: each failure collected is that of one of them
  have h_collected : ∀ failure ∈ (collect actions s).1, failure.errors ≠ [] := by
    clear h_run
    induction actions generalizing s with
    | nil => exact fun _ h_mem => absurd h_mem List.not_mem_nil
    | cons action actions ih =>
      have h_rest := fun s => ih (s := s) fun action h_action =>
        h action (List.mem_cons_of_mem _ h_action)
      rw [collect]
      rcases h_first : action s with ⟨e | _, s₁⟩
      · intro failure h_mem
        rcases List.mem_cons.mp h_mem with rfl | h_mem
        · exact h action List.mem_cons_self s _ s₁ h_first
        · exact h_rest s₁ failure h_mem
      · exact h_rest s₁
  -- so the group is raised from at least one of them
  have h_raised : raiseAll message (collect actions s).1 = .error failure := h_run
  have h_errors : errorsOf (raiseAll message (collect actions s).1) = _ := errorsOf_raiseAll _
  rw [h_raised] at h_errors
  rw [show failure.errors = errorsOf (.error failure : Except (Failure ε) Unit) from rfl, h_errors]
  intro h_none
  cases h_list : (collect actions s).1 with
  | nil =>
    rw [h_list] at h_raised
    exact nomatch h_raised
  | cons first rest =>
    rw [h_list] at h_none h_collected
    exact h_collected first List.mem_cons_self (List.append_eq_nil_iff.mp h_none).1

/-! ### Actions that raise -/

/-- From a state with `P` the action returns with `Q`, or raises with `E`. -/
structure Leads (P : σ → Prop) (action : σ → Except (Failure ε) Unit × σ) (Q : σ → Prop)
    (E : Failure ε → σ → Prop) : Prop where
  returns : ∀ s s', P s → action s = (.ok (), s') → Q s'
  raises : ∀ s failure s', P s → action s = (.error failure, s') → E failure s'

variable {P Q R : σ → Prop} {E : Failure ε → σ → Prop}

theorem Leads.nil : Leads P (inTurn ([] : List (σ → Except (Failure ε) Unit × σ))) P E :=
  ⟨fun _ _ h h_run => (Prod.mk.inj h_run).2 ▸ h, fun _ _ _ _ h_run => nomatch h_run⟩

/-- In turn: each action begins where the one before it returned. -/
theorem Leads.cons (h : Leads P action Q E) (h_rest : Leads Q (inTurn actions) R E) :
    Leads P (inTurn (action :: actions)) R E := by
  refine ⟨fun s s' h_s h_run => ?_, fun s failure s' h_s h_run => ?_⟩
  · rw [inTurn] at h_run
    rcases h_first : action s with ⟨_ | _, s₁⟩
    · rw [h_first] at h_run
      exact nomatch h_run
    · rw [h_first] at h_run
      exact h_rest.returns s₁ s' (h.returns s s₁ h_s h_first) h_run
  · rw [inTurn] at h_run
    rcases h_first : action s with ⟨e | _, s₁⟩
    · rw [h_first] at h_run
      cases h_run
      exact h.raises s failure s' h_s h_first
    · rw [h_first] at h_run
      exact h_rest.raises s₁ failure s' (h.returns s s₁ h_s h_first) h_run

end Framework
