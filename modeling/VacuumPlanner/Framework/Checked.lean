import Mathlib

/-!
# Computations that may raise

The commands of a store of frozen records are straight-line programs of three
shapes: a check that raises (`raiseIf`), a lookup that raises when it finds
nothing (`orRaise`), and a sweep that rebuilds the records it selects and keeps
the others, each rebuilt record being checked again (`rewriteWhere`).

A caller never unfolds them. Each has one lemma that says when it returns
normally and with what: `raiseIf_eq_ok`, `orRaise_eq_ok`, `rewriteWhere_eq_ok`,
and `bind_eq_ok` composes them, so the specification of a command is read off its
definition by rewriting.
-/

namespace Framework

variable {ε α β : Type}

/-- `if bad: raise e`. -/
def raiseIf (bad : Prop) [Decidable bad] (e : ε) : Except ε Unit :=
  if bad then .error e else .ok ()

/-- A lookup whose miss raises. -/
def orRaise (o : Option α) (e : ε) : Except ε α :=
  match o with
  | some a => .ok a
  | none => .error e

/-- Rebuild the record if `p` selects it. -/
def updateIf (p : α → Bool) (f : α → α) (x : α) : α :=
  if p x then f x else x

/-- Rebuild the records `p` selects with `f`, keep the others, and run `check` on
every rebuilt record. -/
def rewriteWhere (check : α → Except ε Unit) (p : α → Bool) (f : α → α) :
    List α → Except ε (List α)
  | [] => .ok []
  | x :: xs =>
    if p x then do
      check (f x)
      let ys ← rewriteWhere check p f xs
      return f x :: ys
    else do
      let ys ← rewriteWhere check p f xs
      return x :: ys

/-- Check every element of a list, in order. -/
def checkAll (check : α → Except ε Unit) : List α → Except ε Unit
  | [] => .ok ()
  | x :: xs => do
    check x
    checkAll check xs

/-! ### When they return normally -/

theorem bind_eq_ok {x : Except ε α} {f : α → Except ε β} {b : β} :
    (x >>= f) = .ok b ↔ ∃ a, x = .ok a ∧ f a = .ok b := by
  cases x with
  | error e => exact ⟨fun h => (nomatch h), fun ⟨_, h, _⟩ => (nomatch h)⟩
  | ok a =>
    refine ⟨fun h => ⟨a, rfl, h⟩, ?_⟩
    rintro ⟨a', h, h'⟩
    cases h
    exact h'

@[simp] theorem ok_bind (a : α) (f : α → Except ε β) : (Except.ok a >>= f) = f a := rfl

@[simp] theorem error_bind (e : ε) (f : α → Except ε β) :
    (Except.error e >>= f) = .error e := rfl

@[simp] theorem pure_eq_ok {a b : α} : (pure a : Except ε α) = .ok b ↔ a = b :=
  ⟨fun h => Except.ok.inj h, fun h => by rw [h]; rfl⟩

theorem map_eq_ok {x : Except ε α} {f : α → β} {b : β} :
    x.map f = .ok b ↔ ∃ a, x = .ok a ∧ f a = b := by
  cases x with
  | error e => exact ⟨fun h => (nomatch h), fun ⟨_, h, _⟩ => (nomatch h)⟩
  | ok a =>
    constructor
    · intro h
      exact ⟨a, rfl, Except.ok.inj h⟩
    · rintro ⟨_, ⟨⟩, rfl⟩
      rfl

@[simp] theorem raiseIf_eq_ok {bad : Prop} [Decidable bad] {e : ε} {u : Unit} :
    raiseIf bad e = .ok u ↔ ¬ bad := by
  unfold raiseIf
  split <;> simp_all

@[simp] theorem orRaise_eq_ok {o : Option α} {e : ε} {a : α} :
    orRaise o e = .ok a ↔ o = some a := by
  unfold orRaise
  cases o <;> simp

/-- A check followed by a computation returns normally exactly when both do. -/
theorem seq_eq_ok {x : Except ε Unit} {y : Except ε β} {b : β} :
    (x >>= fun _ => y) = .ok b ↔ x = .ok () ∧ y = .ok b := by
  rw [bind_eq_ok]
  exact ⟨fun ⟨_, hx, hy⟩ => ⟨hx, hy⟩, fun ⟨hx, hy⟩ => ⟨_, hx, hy⟩⟩

/-- Computations that go on alike from what the first one returns. -/
theorem bind_congr_ok {x : Except ε α} {f g : α → Except ε β} (h : ∀ a, x = .ok a → f a = g a) :
    (x >>= f) = (x >>= g) := by
  cases x with
  | error e => rfl
  | ok a => exact h a rfl

/-- A check that only some cases run. -/
theorem ite_seq_eq_ok {c : Prop} [Decidable c] {x : Except ε Unit} {y : Except ε β} {b : β} :
    (if c then x >>= fun _ => y else y) = .ok b ↔ (c → x = .ok ()) ∧ y = .ok b := by
  by_cases hc : c
  · rw [if_pos hc, seq_eq_ok]
    exact and_congr_left fun _ => ⟨fun h _ => h, fun h => h hc⟩
  · rw [if_neg hc]
    exact ⟨fun h => ⟨fun h' => absurd h' hc, h⟩, And.right⟩

@[simp] theorem updateIf_pos {p : α → Bool} {f : α → α} {x : α} (h : p x = true) :
    updateIf p f x = f x := if_pos h

@[simp] theorem updateIf_neg {p : α → Bool} {f : α → α} {x : α} (h : ¬ p x = true) :
    updateIf p f x = x := if_neg h

/-- The value of a check says nothing. -/
theorem exists_unit {p : Unit → Prop} : (∃ u, p u) ↔ p () :=
  ⟨fun ⟨_, h⟩ => h, fun h => ⟨(), h⟩⟩

theorem checkAll_eq_ok {check : α → Except ε Unit} {xs : List α} :
    checkAll check xs = .ok () ↔ ∀ x ∈ xs, check x = .ok () := by
  induction xs with
  | nil => simp [checkAll]
  | cons x xs ih =>
    unfold checkAll
    rw [seq_eq_ok, ih, List.forall_mem_cons]

/-- A computation over a list returns normally when every step does. -/
theorem mapM_eq_ok_iff {f : α → Except ε β} {xs : List α} {ys : List β} :
    xs.mapM f = .ok ys ↔ List.Forall₂ (fun x y => f x = .ok y) xs ys := by
  induction xs generalizing ys with
  | nil =>
    rw [List.mapM_nil, pure_eq_ok, List.forall₂_nil_left_iff, eq_comm]
  | cons x xs ih =>
    rw [List.mapM_cons, bind_eq_ok]
    constructor
    · rintro ⟨y, h_y, h_rest⟩
      obtain ⟨zs, h_zs, h_ys⟩ := bind_eq_ok.mp h_rest
      rw [← pure_eq_ok.mp h_ys]
      exact List.Forall₂.cons h_y (ih.mp h_zs)
    · intro h
      cases h with
      | cons h_y h_rest => exact ⟨_, h_y, bind_eq_ok.mpr ⟨_, ih.mpr h_rest, rfl⟩⟩

/-- What a pass has made of an element. -/
theorem mem_of_mapM_eq_ok {f : α → Except ε β} {xs : List α} {ys : List β} {x : α}
    (h : xs.mapM f = .ok ys) (h_x : x ∈ xs) : ∃ y ∈ ys, f x = .ok y := by
  have h_each := mapM_eq_ok_iff.mp h
  clear h
  induction h_each with
  | nil => exact absurd h_x List.not_mem_nil
  | @cons first y xs ys h_first _ ih =>
    rcases List.mem_cons.mp h_x with rfl | h_rest
    · exact ⟨y, List.mem_cons_self, h_first⟩
    · obtain ⟨found, h_found, h_own⟩ := ih h_rest
      exact ⟨found, List.mem_cons_of_mem _ h_found, h_own⟩

theorem mapM_isOk {f : α → Except ε β} {xs : List α} (h : ∀ x ∈ xs, ∃ y, f x = .ok y) :
    ∃ ys, xs.mapM f = .ok ys := by
  induction xs with
  | nil => exact ⟨[], rfl⟩
  | cons x xs ih =>
    obtain ⟨⟨y, h_y⟩, h_xs⟩ := List.forall_mem_cons.mp h
    obtain ⟨ys, h_ys⟩ := ih h_xs
    refine ⟨y :: ys, ?_⟩
    rw [List.mapM_cons, h_y, ok_bind, h_ys]
    rfl

/-- A computation over a list whose every step either finds a value or raises. -/
theorem mapM_eq_ok {f : α → Except ε β} {g : α → Option β}
    (h : ∀ x y, f x = .ok y ↔ g x = some y) {xs : List α} {ys : List β} :
    xs.mapM f = .ok ys ↔ (∀ x ∈ xs, g x ≠ none) ∧ ys = xs.filterMap g := by
  induction xs generalizing ys with
  | nil =>
    rw [List.mapM_nil, pure_eq_ok, eq_comm]
    exact ⟨fun h => ⟨fun _ hx => absurd hx List.not_mem_nil, h⟩, And.right⟩
  | cons x xs ih =>
    rw [List.mapM_cons, bind_eq_ok, List.forall_mem_cons]
    constructor
    · rintro ⟨y, hy, h_rest⟩
      obtain ⟨zs, hzs, h_ys⟩ := bind_eq_ok.mp h_rest
      obtain ⟨h_all, rfl⟩ := ih.mp hzs
      have h_y : g x = some y := (h x y).mp hy
      rw [List.filterMap_cons_some h_y]
      exact ⟨⟨by rw [h_y]; exact Option.some_ne_none y, h_all⟩, (pure_eq_ok.mp h_ys).symm⟩
    · rintro ⟨⟨h_x, h_all⟩, rfl⟩
      obtain ⟨y, h_y⟩ := Option.ne_none_iff_exists'.mp h_x
      refine ⟨y, (h x y).mpr h_y, bind_eq_ok.mpr ⟨_, ih.mpr ⟨h_all, rfl⟩, ?_⟩⟩
      rw [List.filterMap_cons_some h_y]
      rfl

/-- **What a sweep does.** It returns normally exactly when every rebuilt record
passes its check, and then its value is the pointwise update. -/
theorem rewriteWhere_eq_ok {check : α → Except ε Unit} {p : α → Bool} {f : α → α}
    {xs ys : List α} :
    rewriteWhere check p f xs = .ok ys ↔
      ys = xs.map (updateIf p f) ∧ ∀ x ∈ xs, p x = true → check (f x) = .ok () := by
  induction xs generalizing ys with
  | nil =>
    change Except.ok [] = Except.ok ys ↔ _
    rw [Except.ok.injEq, List.map_nil, eq_comm]
    exact ⟨fun h => ⟨h, fun x hx => absurd hx List.not_mem_nil⟩, And.left⟩
  | cons x xs ih =>
    unfold rewriteWhere
    -- a record that is not selected is kept without a check
    by_cases hp : p x = true
    · rw [if_pos hp, seq_eq_ok, bind_eq_ok, List.map_cons, updateIf_pos hp,
        List.forall_mem_cons]
      constructor
      · rintro ⟨hx, zs, hzs, hys⟩
        obtain ⟨rfl, hxs⟩ := ih.mp hzs
        obtain rfl := pure_eq_ok.mp hys
        exact ⟨rfl, fun _ => hx, hxs⟩
      · rintro ⟨rfl, hx, hxs⟩
        exact ⟨hx hp, _, ih.mpr ⟨rfl, hxs⟩, rfl⟩
    -- and the condition does not ask for one
    · rw [if_neg hp, bind_eq_ok, List.map_cons, updateIf_neg hp, List.forall_mem_cons]
      constructor
      · rintro ⟨zs, hzs, hys⟩
        obtain ⟨rfl, hxs⟩ := ih.mp hzs
        obtain rfl := pure_eq_ok.mp hys
        exact ⟨rfl, fun h => absurd h hp, hxs⟩
      · rintro ⟨rfl, -, hxs⟩
        exact ⟨_, ih.mpr ⟨rfl, hxs⟩, rfl⟩

/-! ### What they raise -/

/-- Whatever the computation raises is an error of the kind `p`. -/
def RaisesOnly (p : ε → Prop) (x : Except ε α) : Prop := ∀ e, x = .error e → p e

section RaisesOnly

variable {p : ε → Prop} {x : Except ε α} {e : ε}

@[simp] theorem raisesOnly_ok (a : α) : RaisesOnly p (.ok a : Except ε α) := by
  intro e h
  cases h

@[simp] theorem raisesOnly_pure (a : α) : RaisesOnly p (pure a : Except ε α) :=
  raisesOnly_ok a

@[simp] theorem raisesOnly_error : RaisesOnly p (.error e : Except ε α) ↔ p e := by
  constructor
  · intro h
    exact h e rfl
  · intro h e' h_eq
    cases h_eq
    exact h

/-- A sequence raises what its first step raises, or what the rest raises on its value. -/
theorem raisesOnly_bind {f : α → Except ε β} (h_x : RaisesOnly p x) :
    RaisesOnly p (x >>= f) ↔ ∀ a, x = .ok a → RaisesOnly p (f a) := by
  cases x with
  | error e =>
    refine iff_of_true (fun e' h => ?_) fun a h => by cases h
    cases h
    exact h_x e rfl
  | ok a =>
    rw [ok_bind]
    exact ⟨fun h a' h_eq => by cases h_eq; exact h, fun h => h a rfl⟩

theorem RaisesOnly.bind {f : α → Except ε β} (h_x : RaisesOnly p x)
    (h : ∀ a, RaisesOnly p (f a)) : RaisesOnly p (x >>= f) :=
  (raisesOnly_bind h_x).mpr fun a _ => h a

@[simp] theorem raisesOnly_map {f : α → β} : RaisesOnly p (x.map f) ↔ RaisesOnly p x := by
  cases x with
  | error e =>
    show RaisesOnly p (.error e) ↔ _
    rw [raisesOnly_error, raisesOnly_error]
  | ok a => exact iff_of_true (raisesOnly_ok (f a)) (raisesOnly_ok a)

@[simp] theorem raisesOnly_functor_map {f : α → β} :
    RaisesOnly p (f <$> x) ↔ RaisesOnly p x :=
  raisesOnly_map

theorem RaisesOnly.mono {q : ε → Prop} (h : RaisesOnly p x) (h_pq : ∀ e, p e → q e) :
    RaisesOnly q x :=
  fun e h_e => h_pq e (h e h_e)

/-- An error of another kind comes out of the first step. -/
theorem bind_eq_error_iff_left {f : α → Except ε β} (h : ∀ a, RaisesOnly p (f a)) (h_e : ¬ p e) :
    (x >>= f) = .error e ↔ x = .error e := by
  cases x with
  | error e' =>
    rw [error_bind]
    exact ⟨fun h_eq => by cases h_eq; rfl, fun h_eq => by cases h_eq; rfl⟩
  | ok a =>
    rw [ok_bind]
    exact iff_of_false (fun h_eq => h_e (h a e h_eq)) fun h_eq => by cases h_eq

/-- An error of another kind comes out of the rest. -/
theorem RaisesOnly.bind_eq_error {f : α → Except ε β} (h : RaisesOnly p x) (h_e : ¬ p e) :
    (x >>= f) = .error e ↔ ∃ a, x = .ok a ∧ f a = .error e := by
  cases x with
  | error e' =>
    rw [error_bind]
    refine iff_of_false (fun h_eq => ?_) fun ⟨_, h_eq, _⟩ => by cases h_eq
    cases h_eq
    exact h_e (h e rfl)
  | ok a =>
    rw [ok_bind]
    exact ⟨fun h_eq => ⟨a, rfl, h_eq⟩, fun ⟨_, h_ok, h_eq⟩ => by cases h_ok; exact h_eq⟩

@[simp] theorem raisesOnly_ite {c : Prop} [Decidable c] {y : Except ε α} :
    RaisesOnly p (if c then x else y) ↔ (c → RaisesOnly p x) ∧ (¬ c → RaisesOnly p y) := by
  split
  · next h => exact ⟨fun h' => ⟨fun _ => h', fun h_not => absurd h h_not⟩, fun h' => h'.1 h⟩
  · next h => exact ⟨fun h' => ⟨fun h_yes => absurd h_yes h, fun _ => h'⟩, fun h' => h'.2 h⟩

theorem raisesOnly_raiseIf {bad : Prop} [Decidable bad] (h : p e) :
    RaisesOnly p (raiseIf bad e) := by
  unfold raiseIf
  rw [raisesOnly_ite]
  exact ⟨fun _ => raisesOnly_error.mpr h, fun _ => raisesOnly_ok ()⟩

theorem raisesOnly_orRaise {o : Option α} (h : p e) : RaisesOnly p (orRaise o e) := by
  cases o with
  | none => exact raisesOnly_error.mpr h
  | some a => exact raisesOnly_ok a

theorem raisesOnly_checkAll {check : α → Except ε Unit} {xs : List α}
    (h : ∀ x, RaisesOnly p (check x)) : RaisesOnly p (checkAll check xs) := by
  induction xs with
  | nil => exact raisesOnly_ok ()
  | cons x xs ih =>
    unfold checkAll
    exact (h x).bind fun _ => ih

theorem raisesOnly_mapM {f : α → Except ε β} {xs : List α} (h : ∀ x, RaisesOnly p (f x)) :
    RaisesOnly p (xs.mapM f) := by
  induction xs with
  | nil =>
    rw [List.mapM_nil]
    exact raisesOnly_pure []
  | cons x xs ih =>
    rw [List.mapM_cons]
    refine (h x).bind fun y => ?_
    exact ih.bind fun ys => raisesOnly_pure (y :: ys)

theorem raisesOnly_foldlM {f : β → α → Except ε β} {xs : List α} {b : β}
    (h : ∀ b x, RaisesOnly p (f b x)) : RaisesOnly p (xs.foldlM f b) := by
  induction xs generalizing b with
  | nil => exact raisesOnly_pure b
  | cons x xs ih =>
    rw [List.foldlM_cons]
    exact (h b x).bind fun _ => ih

/-- A sweep raises what the checks of the rebuilt records raise. -/
theorem raisesOnly_rewriteWhere {check : α → Except ε Unit} {select : α → Bool} {f : α → α}
    {xs : List α} (h : ∀ x, RaisesOnly p (check x)) :
    RaisesOnly p (rewriteWhere check select f xs) := by
  induction xs with
  | nil => exact raisesOnly_ok []
  | cons x xs ih =>
    unfold rewriteWhere
    rw [raisesOnly_ite]
    refine ⟨fun _ => (h (f x)).bind fun _ => ?_, fun _ => ?_⟩
    · exact ih.bind fun ys => raisesOnly_pure (f x :: ys)
    · exact ih.bind fun ys => raisesOnly_pure (x :: ys)

end RaisesOnly

end Framework
