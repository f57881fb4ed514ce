import VacuumPlanner.Framework.Checked

/-!
# Runs of commands that may raise

A store changes by commands, and a command that raises leaves it as it was (`attempt`).
`perform` is the effect of a list of commands, `stateAt` the state after the first `n` of
them, so a property of runs is a property of all lists and all positions.

Every invariant argument goes through one of two rules. `perform_invariant` asks that
each command that returns normally keeps the invariant. `EachStep.invariant` asks the same
of the steps that meet a condition, and concludes for the runs all of whose steps do.
-/

namespace Framework

variable {σ γ ε : Type}

/-- One command of a store. A command that raises has no effect. -/
def attempt (command : σ → Except ε σ) (s : σ) : σ :=
  match command s with
  | .ok s' => s'
  | .error _ => s

theorem attempt_of_ok {command : σ → Except ε σ} {s s' : σ} (h : command s = .ok s') :
    attempt command s = s' := by
  unfold attempt
  rw [h]

theorem attempt_of_error {command : σ → Except ε σ} {s : σ} {e : ε}
    (h : command s = .error e) : attempt command s = s := by
  unfold attempt
  rw [h]

/-- An attempt that leaves a mark was a command that returned normally. -/
theorem attempt_eq_or_ok (command : σ → Except ε σ) (s : σ) :
    attempt command s = s ∨ command s = .ok (attempt command s) := by
  cases h : command s with
  | ok s' => exact Or.inr (by rw [attempt_of_ok h])
  | error e => exact Or.inl (attempt_of_error h)

/-- The state after the commands of a list. -/
def perform (exec : γ → σ → Except ε σ) (s : σ) (commands : List γ) : σ :=
  commands.foldl (fun s c => attempt (exec c) s) s

/-- The state after the first `n` commands of a list. -/
def stateAt (exec : γ → σ → Except ε σ) (s : σ) (commands : List γ) (n : ℕ) : σ :=
  perform exec s (commands.take n)

section Rules

variable {exec : γ → σ → Except ε σ} {s : σ} {commands : List γ} {I : σ → Prop}

@[simp] theorem perform_nil : perform exec s [] = s := rfl

@[simp] theorem perform_cons (c : γ) :
    perform exec s (c :: commands) = perform exec (attempt (exec c) s) commands := rfl

theorem perform_append (commands' : List γ) :
    perform exec s (commands ++ commands') = perform exec (perform exec s commands) commands' :=
  List.foldl_append

/-- **Invariants.** What every command that returns normally keeps, every run keeps. -/
theorem perform_invariant (step : ∀ s c s', I s → exec c s = .ok s' → I s') (h : I s) :
    I (perform exec s commands) := by
  induction commands generalizing s with
  | nil => exact h
  | cons c commands ih =>
    rw [perform_cons]
    refine ih ?_
    rcases attempt_eq_or_ok (exec c) s with h_same | h_ok
    · rw [h_same]; exact h
    · exact step s c _ h h_ok

theorem stateAt_succ {n : ℕ} {c : γ} (h : commands[n]? = some c) :
    stateAt exec s commands (n + 1) = attempt (exec c) (stateAt exec s commands n) := by
  unfold stateAt
  rw [List.take_add_one, h, perform_append]
  rfl

/-- The next state is the same, or the next command returned normally. -/
theorem stateAt_succ_cases (exec : γ → σ → Except ε σ) (s : σ) (commands : List γ) (n : ℕ) :
    stateAt exec s commands (n + 1) = stateAt exec s commands n ∨
      ∃ c, commands[n]? = some c ∧
        exec c (stateAt exec s commands n) = .ok (stateAt exec s commands (n + 1)) := by
  cases h : commands[n]? with
  | none =>
    left
    have h_len : commands.length ≤ n := List.getElem?_eq_none_iff.mp h
    unfold stateAt
    rw [List.take_of_length_le h_len, List.take_of_length_le (h_len.trans (Nat.le_succ n))]
  | some c =>
    rw [stateAt_succ h]
    rcases attempt_eq_or_ok (exec c) (stateAt exec s commands n) with h_same | h_ok
    · exact Or.inl h_same
    · exact Or.inr ⟨c, rfl, h_ok⟩

theorem stateAt_of_le {m n : ℕ} (h : m ≤ n) :
    stateAt exec s commands n =
      perform exec (stateAt exec s commands m) ((commands.take n).drop m) := by
  unfold stateAt
  rw [← perform_append]
  congr 1
  rw [← Nat.min_eq_left h, ← List.take_take, Nat.min_eq_left h, List.take_append_drop]

/-- What holds at some position and is kept by every command holds from there on. -/
theorem stateAt_stable (step : ∀ s c s', I s → exec c s = .ok s' → I s') {m n : ℕ}
    (h_le : m ≤ n) (h : I (stateAt exec s commands m)) : I (stateAt exec s commands n) := by
  rw [stateAt_of_le h_le]
  exact perform_invariant step h

/-- What holds at one position and fails at a later one is left by a step in between. -/
theorem exists_leaving_step {P : ℕ → Prop} {m n : ℕ} (h_le : m ≤ n) (h_m : P m)
    (h_n : ¬ P n) : ∃ k, m ≤ k ∧ k < n ∧ P k ∧ ¬ P (k + 1) := by
  induction n, h_le using Nat.le_induction with
  | base => exact absurd h_m h_n
  | succ n h_le ih =>
    by_cases h : P n
    · exact ⟨n, h_le, Nat.lt_succ_self n, h, h_n⟩
    · obtain ⟨k, h_mk, h_kn, h_k⟩ := ih h
      exact ⟨k, h_mk, h_kn.trans (Nat.lt_succ_self n), h_k⟩

/-- **Simulation.** A translation of states and commands that every single command
respects, runs respect. -/
theorem perform_map {σ' γ' : Type} {exec' : γ' → σ' → Except ε σ'} {f : γ → γ'} {g : σ → σ'}
    (step : ∀ c s, exec' (f c) (g s) = (exec c s).map g) :
    perform exec' (g s) (commands.map f) = g (perform exec s commands) := by
  induction commands generalizing s with
  | nil => rfl
  | cons c commands ih =>
    rw [List.map_cons, perform_cons, perform_cons, ← ih]
    congr 1
    unfold attempt
    rw [step]
    cases exec c s <;> rfl

/-- Every step of the run meets `ok`. -/
def EachStep (exec : γ → σ → Except ε σ) (ok : σ → γ → Prop) : σ → List γ → Prop
  | _, [] => True
  | s, c :: commands => ok s c ∧ EachStep exec ok (attempt (exec c) s) commands

instance decidableEachStep {ok : σ → γ → Prop} [∀ s c, Decidable (ok s c)] :
    (s : σ) → (commands : List γ) → Decidable (EachStep exec ok s commands)
  | _, [] => isTrue trivial
  | s, c :: commands =>
    have : Decidable (EachStep exec ok (attempt (exec c) s) commands) :=
      decidableEachStep _ commands
    inferInstanceAs (Decidable (ok s c ∧ EachStep exec ok (attempt (exec c) s) commands))

/-- **Conditional invariants.** What every step that meets `ok` keeps, every run of such
steps keeps. -/
theorem EachStep.invariant {ok : σ → γ → Prop}
    (step : ∀ s c s', I s → ok s c → exec c s = .ok s' → I s')
    (h_run : EachStep exec ok s commands) (h : I s) : I (perform exec s commands) := by
  induction commands generalizing s with
  | nil => exact h
  | cons c commands ih =>
    obtain ⟨h_ok, h_rest⟩ := h_run
    rw [perform_cons]
    refine ih h_rest ?_
    rcases attempt_eq_or_ok (exec c) s with h_same | h_step
    · rw [h_same]; exact h
    · exact step s c _ h h_ok h_step

/-- The invariant holds in every state of the run. -/
theorem EachStep.stateAt {ok : σ → γ → Prop}
    (step : ∀ s c s', I s → ok s c → exec c s = .ok s' → I s')
    (h_run : EachStep exec ok s commands) (h : I s) (n : ℕ) :
    I (stateAt exec s commands n) := by
  refine EachStep.invariant step ?_ h
  induction commands generalizing s n with
  | nil => rw [List.take_nil]; trivial
  | cons c commands ih =>
    cases n with
    | zero => trivial
    | succ n =>
      refine ⟨h_run.1, ih h_run.2 ?_ n⟩
      rcases attempt_eq_or_ok (exec c) s with h_same | h_step
      · rw [h_same]; exact h
      · exact step s c _ h h_run.1 h_step

/-- Every step of such a run meets the condition in the state it is taken from. -/
theorem EachStep.at_step {ok : σ → γ → Prop} (h_run : EachStep exec ok s commands) {n : ℕ} {c : γ}
    (h_c : commands[n]? = some c) : ok (Framework.stateAt exec s commands n) c := by
  induction commands generalizing s n with
  | nil => exact nomatch h_c
  | cons first commands ih =>
    cases n with
    | zero =>
      obtain rfl := Option.some.inj h_c
      exact h_run.1
    | succ n => exact ih h_run.2 h_c

/-- One more step at the end. -/
theorem EachStep.concat {ok : σ → γ → Prop} {c : γ} (h_run : EachStep exec ok s commands)
    (h_c : ok (perform exec s commands) c) : EachStep exec ok s (commands ++ [c]) := by
  induction commands generalizing s with
  | nil => exact ⟨h_c, trivial⟩
  | cons first commands ih => exact ⟨h_run.1, ih h_run.2 h_c⟩

/-- A condition on the commands alone. -/
theorem EachStep.of_forall {ok : σ → γ → Prop} (h : ∀ c ∈ commands, ∀ s, ok s c) :
    EachStep exec ok s commands := by
  induction commands generalizing s with
  | nil => trivial
  | cons first commands ih =>
    exact ⟨h first List.mem_cons_self s, ih fun c h_c => h c (List.mem_cons_of_mem _ h_c)⟩

end Rules

/-! ### Logs -/

section Logs

variable {α : Type} {P Q : List α → α → Prop} {log : List α}

/-- `P` holds of every entry of the log, after the entries before it. -/
def EachEntry (P : List α → α → Prop) (log : List α) : Prop :=
  ∀ before x later, log = before ++ x :: later → P before x

theorem EachEntry.nil : EachEntry P [] := by
  intro before x later h
  exact absurd h.symm (List.append_ne_nil_of_right_ne_nil _ (List.cons_ne_nil x later))

theorem EachEntry.of_mem {x : α} (h : EachEntry P log) (h_x : x ∈ log) :
    ∃ before, P before x := by
  obtain ⟨before, later, h_split⟩ := List.append_of_mem h_x
  exact ⟨before, h before x later h_split⟩

/-- A log that grows keeps what it has, and the new entry comes after all of it. -/
theorem EachEntry.concat {x : α} (h : EachEntry P log) (h_x : P log x) :
    EachEntry P (log ++ [x]) := by
  intro before y later h_split
  rcases List.eq_nil_or_concat later with rfl | ⟨later', z, rfl⟩
  · obtain ⟨rfl, h_y⟩ := List.append_inj' h_split rfl
    cases h_y
    exact h_x
  · rw [List.concat_eq_append, ← List.cons_append, ← List.append_assoc] at h_split
    obtain ⟨h_log, -⟩ := List.append_inj' h_split rfl
    exact h before y later' h_log

theorem EachEntry.mono (imp : ∀ before x, P before x → Q before x) (h : EachEntry P log) :
    EachEntry Q log :=
  fun before x later h_split => imp before x (h before x later h_split)

end Logs

end Framework
