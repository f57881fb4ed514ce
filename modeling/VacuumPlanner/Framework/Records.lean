import VacuumPlanner.Framework.Checked

/-!
# Keyed records and append-only histories

Two general facts about a store that keeps its records in lists.

A list whose keys are distinct is a finite map: the first record with a key is the
only one (`find?_key`), so a lookup by key and membership say the same.

`Extends R xs ys` says that `ys` is an append-only continuation of `xs`: its first
records are those of `xs`, position by position, each related to its old value by `R`,
and the others are new. A sweep that rewrites records in place and an append that adds
new ones both extend, and extensions compose when `R` does.
-/

namespace Framework

variable {α κ : Type}

/-! ### Keyed lookups -/

section Keyed

variable {key : α → κ} {xs : List α} {k : κ} {x y : α}

/-- Distinct keys: two records with one key are one record. -/
theorem eq_of_key (nodup : (xs.map key).Nodup) (hx : x ∈ xs) (hy : y ∈ xs)
    (h : key x = key y) : x = y :=
  List.inj_on_of_nodup_map nodup hx hy h

variable [DecidableEq κ]

theorem key_of_find? (h : xs.find? (fun y => decide (key y = k)) = some x) :
    x ∈ xs ∧ key x = k :=
  ⟨List.mem_of_find?_eq_some h, of_decide_eq_true (List.find?_some h :)⟩

theorem find?_key_isSome : (xs.find? (fun y => decide (key y = k))).isSome = true ↔
    k ∈ xs.map key := by
  rw [List.find?_isSome, List.mem_map]
  exact exists_congr fun y => and_congr_right fun _ => decide_eq_true_iff

/-- With distinct keys, a lookup finds the record that has the key. -/
theorem find?_key (nodup : (xs.map key).Nodup) :
    xs.find? (fun y => decide (key y = k)) = some x ↔ x ∈ xs ∧ key x = k := by
  refine ⟨fun h => key_of_find? h, ?_⟩
  rintro ⟨hx, rfl⟩
  obtain ⟨y, hy⟩ := Option.isSome_iff_exists.mp
    (find?_key_isSome.mpr (List.mem_map_of_mem hx : key x ∈ xs.map key))
  obtain ⟨h_mem, h_key⟩ := key_of_find? hy
  rw [hy, eq_of_key nodup h_mem hx h_key]

end Keyed

/-- What a rewrite keeps of the records it selects, it keeps of every record. -/
theorem key_updateIf {key : α → κ} {p : α → Bool} {f : α → α}
    (h : ∀ x, key (f x) = key x) (x : α) : key (updateIf p f x) = key x := by
  by_cases hp : p x = true
  · rw [updateIf_pos hp]
    exact h x
  · rw [updateIf_neg hp]

/-- Two rewrites of the same records are one. -/
theorem map_updateIf_map_updateIf {p : α → Bool} {f g : α → α} {xs : List α}
    (h : ∀ x, p (f x) = p x) :
    (xs.map (updateIf p f)).map (updateIf p g) = xs.map (updateIf p fun x => g (f x)) := by
  rw [List.map_map]
  refine List.map_congr_left fun x _ => ?_
  by_cases hp : p x = true
  · rw [Function.comp_apply, updateIf_pos hp, updateIf_pos hp, updateIf_pos ((h x).trans hp)]
  · rw [Function.comp_apply, updateIf_neg hp, updateIf_neg hp, updateIf_neg hp]

/-- A rewrite followed by one of the same kind that no rewritten record is selected for. -/
theorem updateIf_updateIf {p q : α → Bool} {f : α → α} {x : α} (h : q (f x) = false) :
    updateIf q f (updateIf p f x) = updateIf (fun x => p x || q x) f x := by
  by_cases hp : p x = true
  · rw [updateIf_pos hp, updateIf_neg (by rw [h]; exact Bool.false_ne_true),
      updateIf_pos (by rw [hp]; rfl)]
  · rw [updateIf_neg hp]
    unfold updateIf
    simp only [Bool.eq_false_iff.mpr hp, Bool.false_or]

/-- A rewrite that selects nothing. -/
theorem map_updateIf_none {p : α → Bool} {f : α → α} {xs : List α}
    (h : ∀ x ∈ xs, p x = false) : xs.map (updateIf p f) = xs := by
  refine (List.map_congr_left fun x hx => ?_).trans (List.map_id xs)
  exact updateIf_neg (by rw [h x hx]; exact Bool.false_ne_true)

/-- Rewrites that select the same records are the same. -/
theorem map_updateIf_congr {p q : α → Bool} {f : α → α} {xs : List α}
    (h : ∀ x ∈ xs, p x = q x) : xs.map (updateIf p f) = xs.map (updateIf q f) := by
  refine List.map_congr_left fun x hx => ?_
  unfold updateIf
  rw [h x hx]

/-- Filtering after a rewrite whose results the filter drops. -/
theorem filter_map_updateIf {p q : α → Bool} {f : α → α} {xs : List α}
    (h : ∀ x ∈ xs, q x = true → p (f x) = false) :
    (xs.map (updateIf q f)).filter p = (xs.filter p).filter fun x => !q x := by
  induction xs with
  | nil => rfl
  | cons x xs ih =>
    obtain ⟨h_x, h_xs⟩ := List.forall_mem_cons.mp h
    rw [List.map_cons, List.filter_cons, ih h_xs, List.filter_cons]
    cases hq : q x with
    | true =>
      rw [updateIf_pos hq, h_x hq, if_neg Bool.false_ne_true]
      split
      · rw [List.filter_cons, hq, Bool.not_true, if_neg Bool.false_ne_true]
      · rfl
    | false =>
      rw [updateIf_neg (by rw [hq]; exact Bool.false_ne_true)]
      split
      · rw [List.filter_cons, hq, Bool.not_false, if_pos rfl]
      · rfl

/-! ### Append-only histories -/

/-- `ys` continues `xs`: no record is lost, and the record at an old position is related
by `R` to what it was. -/
structure Extends (R : α → α → Prop) (xs ys : List α) : Prop where
  length_le : xs.length ≤ ys.length
  related : ∀ (i : ℕ) (x y : α), xs[i]? = some x → ys[i]? = some y → R x y

namespace Extends

variable {R S T : α → α → Prop} {xs ys zs : List α}

theorem refl (h : ∀ x ∈ xs, R x x) : Extends R xs xs where
  length_le := le_rfl
  related i x y hx hy := by
    obtain rfl : x = y := Option.some.inj (hx.symm.trans hy)
    exact h x (List.mem_of_getElem? hx)

/-- A rewrite in place extends. -/
theorem map {f : α → α} (h : ∀ x ∈ xs, R x (f x)) : Extends R xs (xs.map f) where
  length_le := (List.length_map f).ge
  related i x y hx hy := by
    rw [List.getElem?_map, hx] at hy
    obtain rfl : f x = y := Option.some.inj hy
    exact h x (List.mem_of_getElem? hx)

/-- An append extends. -/
theorem append (h : ∀ x ∈ xs, R x x) (ws : List α) : Extends R xs (xs ++ ws) where
  length_le := by rw [List.length_append]; exact Nat.le_add_right _ _
  related i x y hx hy := by
    obtain ⟨h_lt, -⟩ := List.getElem?_eq_some_iff.mp hx
    rw [List.getElem?_append_left h_lt, hx] at hy
    obtain rfl : x = y := Option.some.inj hy
    exact h x (List.mem_of_getElem? hx)

/-- The record now at an old position. -/
theorem exists_getElem? (h : Extends R xs ys) {i : ℕ} {x : α} (hx : xs[i]? = some x) :
    ∃ y, ys[i]? = some y ∧ R x y := by
  obtain ⟨h_lt, -⟩ := List.getElem?_eq_some_iff.mp hx
  have hy : ys[i]? = some (ys.get ⟨i, h_lt.trans_le h.length_le⟩) :=
    List.getElem?_eq_getElem (h_lt.trans_le h.length_le)
  exact ⟨_, hy, h.related i x _ hx hy⟩

/-- Every old record is still there, related to its old value. -/
theorem exists_mem (h : Extends R xs ys) {x : α} (hx : x ∈ xs) : ∃ y ∈ ys, R x y := by
  obtain ⟨i, hi⟩ := List.getElem?_of_mem hx
  obtain ⟨y, hy, hxy⟩ := h.exists_getElem? hi
  exact ⟨y, List.mem_of_getElem? hy, hxy⟩

theorem mono (h : Extends R xs ys) (imp : ∀ x ∈ xs, ∀ y ∈ ys, R x y → S x y) :
    Extends S xs ys where
  length_le := h.length_le
  related i x y hx hy :=
    imp x (List.mem_of_getElem? hx) y (List.mem_of_getElem? hy) (h.related i x y hx hy)

theorem trans (hxy : Extends R xs ys) (hyz : Extends S ys zs)
    (comp : ∀ x ∈ xs, ∀ y ∈ ys, ∀ z ∈ zs, R x y → S y z → T x z) : Extends T xs zs where
  length_le := hxy.length_le.trans hyz.length_le
  related i x z hx hz := by
    obtain ⟨y, hy, h_R⟩ := hxy.exists_getElem? hx
    exact comp x (List.mem_of_getElem? hx) y (List.mem_of_getElem? hy) z
      (List.mem_of_getElem? hz) h_R (hyz.related i y z hy hz)

/-- The old value of a record at an old position. -/
theorem getElem?_of_lt (h : Extends R xs ys) {i : ℕ} (h_lt : i < xs.length) {y : α}
    (hy : ys[i]? = some y) : ∃ x, xs[i]? = some x ∧ R x y :=
  ⟨_, List.getElem?_eq_getElem h_lt, h.related i _ y (List.getElem?_eq_getElem h_lt) hy⟩

/-- Without new records, a property of all pairs of records carries over when `R` carries
it over. -/
theorem pairwise {P Q : α → α → Prop} (h : Extends R xs ys) (h_len : ys.length = xs.length)
    (carry : ∀ a a' b b', R a a' → R b b' → P a b → Q a' b') (hP : xs.Pairwise P) :
    ys.Pairwise Q := by
  rw [List.pairwise_iff_getElem] at hP ⊢
  intro i j hi hj h_lt
  obtain ⟨x, hx, h_i⟩ := h.getElem?_of_lt (h_len ▸ hi) (List.getElem?_eq_getElem hi)
  obtain ⟨y, hy, h_j⟩ := h.getElem?_of_lt (h_len ▸ hj) (List.getElem?_eq_getElem hj)
  obtain ⟨hi', rfl⟩ := List.getElem?_eq_some_iff.mp hx
  obtain ⟨hj', rfl⟩ := List.getElem?_eq_some_iff.mp hy
  exact carry _ _ _ _ h_i h_j (hP i j hi' hj' h_lt)

end Extends

end Framework
