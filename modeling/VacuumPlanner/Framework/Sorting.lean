import Mathlib

/-!
# Sorting by a key

`sortBy key xs` is `sorted(xs, key=key)`. When no two elements share a key the result is
strictly increasing, and it depends on the elements alone: any strictly increasing list of
the same elements is it (`sortBy_eq`). So a permutation of the input changes nothing
(`sortBy_congr`), and neither does it matter whether elements are dropped before or after
(`sortBy_filter`).
-/

namespace Framework

variable {α κ : Type} [LinearOrder κ] {key : α → κ} {xs ys : List α}

/-- `sorted(xs, key=key)`. -/
def sortBy (key : α → κ) (xs : List α) : List α :=
  xs.insertionSort fun x y => key x ≤ key y

theorem sortBy_perm (key : α → κ) (xs : List α) : (sortBy key xs).Perm xs :=
  List.perm_insertionSort _ xs

@[simp] theorem mem_sortBy {x : α} : x ∈ sortBy key xs ↔ x ∈ xs :=
  (sortBy_perm key xs).mem_iff

theorem sortBy_pairwise_le (key : α → κ) (xs : List α) :
    (sortBy key xs).Pairwise fun x y => key x ≤ key y := by
  have : Std.Total fun x y : α => key x ≤ key y := ⟨fun x y => le_total (key x) (key y)⟩
  have : IsTrans α fun x y => key x ≤ key y := ⟨fun _ _ _ => le_trans⟩
  exact List.pairwise_insertionSort _ xs

/-- With distinct keys the result is strictly increasing. -/
theorem sortBy_pairwise (h : (xs.map key).Nodup) :
    (sortBy key xs).Pairwise fun x y => key x < key y := by
  have h_keys : ((sortBy key xs).map key).Nodup :=
    ((sortBy_perm key xs).map key).nodup_iff.mpr h
  have h_ne : (sortBy key xs).Pairwise fun x y => key x ≠ key y := List.pairwise_map.mp h_keys
  exact ((sortBy_pairwise_le key xs).and h_ne).imp fun ⟨h_le, h_ne⟩ => lt_of_le_of_ne h_le h_ne

/-- A strictly increasing list of the same elements is the result. -/
theorem sortBy_eq (h_sorted : ys.Pairwise fun x y => key x < key y) (h : xs.Perm ys) :
    sortBy key xs = ys := by
  have h_nodup : (xs.map key).Nodup := by
    rw [(h.map key).nodup_iff, List.Nodup, List.pairwise_map]
    exact h_sorted.imp ne_of_lt
  refine List.Perm.eq_of_pairwise (fun x y _ _ h_xy h_yx => absurd h_xy (lt_asymm h_yx))
    (sortBy_pairwise h_nodup) h_sorted ((sortBy_perm key xs).trans h)

/-- The order of the input does not matter. -/
theorem sortBy_congr (h : xs.Perm ys) (h_nodup : (xs.map key).Nodup) :
    sortBy key xs = sortBy key ys := by
  have h_keys : (ys.map key).Nodup := (h.map key).nodup_iff.mp h_nodup
  exact sortBy_eq (sortBy_pairwise h_keys) (h.trans (sortBy_perm key ys).symm)

/-- Dropping elements commutes with sorting. -/
theorem sortBy_filter (p : α → Bool) (h_nodup : (xs.map key).Nodup) :
    sortBy key (xs.filter p) = (sortBy key xs).filter p :=
  sortBy_eq ((sortBy_pairwise h_nodup).filter p) ((sortBy_perm key xs).symm.filter p)

/-- Sorting records by a key they keep. -/
theorem sortBy_map {β : Type} {f : α → β} {key' : β → κ} (h : ∀ x ∈ xs, key' (f x) = key x) :
    (sortBy key xs).map f = sortBy key' (xs.map f) := by
  refine List.map_insertionSort _ _ f xs fun x hx y hy => ?_
  rw [h x hx, h y hy]

end Framework
