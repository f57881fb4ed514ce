import Mathlib

/-!
# Dictionaries as lists of entries

A dictionary is the list of its entries in insertion order, and `List.lookup` reads it: of
several entries of one key the first counts. `set` is `{**d, k: v}`. `sorted` rebuilds a
dictionary in the order of its keys, which changes nothing of one that is in order already
(`sorted_of_pairwise`).

`Drops p d d'` says that `d'` lacks some of the entries of `d`, all of which satisfy `p`. A
reader that takes a missing key for the value of such an entry cannot tell the two apart
(`Drops.lookup_getD`).
-/

namespace Framework.Dict

variable {κ α : Type}

/-! ### Reading -/

section Lookup

variable [DecidableEq κ] {d d' : List (κ × α)} {k k' : κ} {v : α}

/-- An entry is what its key looks up. -/
theorem lookup_of_mem (h_keys : (d.map Prod.fst).Nodup) (h : (k, v) ∈ d) :
    d.lookup k = some v := by
  induction d with
  | nil => exact absurd h List.not_mem_nil
  | cons entry d ih =>
    obtain ⟨l, w⟩ := entry
    rw [List.map_cons, List.nodup_cons] at h_keys
    rcases List.mem_cons.mp h with h_head | h_tail
    · cases h_head
      exact List.lookup_cons_self
    · -- the head has another key
      have h_ne : k ≠ l := by
        intro h_same
        exact h_keys.1 (List.mem_map.mpr ⟨(k, v), h_tail, h_same⟩)
      rw [List.lookup_cons, beq_false_of_ne h_ne]
      exact ih h_keys.2 h_tail

theorem mem_of_lookup (h : d.lookup k = some v) : (k, v) ∈ d := by
  obtain ⟨before, after, rfl, -⟩ := List.lookup_eq_some_iff.mp h
  exact List.mem_append_right _ List.mem_cons_self

theorem lookup_ne_none : d.lookup k ≠ none ↔ k ∈ d.map Prod.fst := by
  rw [ne_eq, List.lookup_eq_none_iff]
  simp only [bne_iff_ne, not_forall, ne_eq, not_not, exists_prop, List.mem_map]
  exact exists_congr fun entry => and_congr_right fun _ => eq_comm

/-! ### Setting a key -/

/-- `{**d, k: v}`. -/
def set (d : List (κ × α)) (k : κ) (v : α) : List (κ × α) :=
  match d with
  | [] => [(k, v)]
  | (l, w) :: d => if l = k then (k, v) :: d else (l, w) :: set d k v

theorem lookup_set_self (d : List (κ × α)) (k : κ) (v : α) : (set d k v).lookup k = some v := by
  induction d with
  | nil => exact List.lookup_cons_self
  | cons entry d ih =>
    unfold set
    split
    · exact List.lookup_cons_self
    · next h_ne =>
      rw [List.lookup_cons, beq_false_of_ne (Ne.symm h_ne)]
      exact ih

theorem lookup_set_of_ne (d : List (κ × α)) (v : α) (h : k' ≠ k) :
    (set d k v).lookup k' = d.lookup k' := by
  induction d with
  | nil =>
    unfold set
    rw [List.lookup_cons, beq_false_of_ne h]
  | cons entry d ih =>
    unfold set
    split
    · next h_same =>
      rw [List.lookup_cons, List.lookup_cons, h_same]
      simp only [beq_false_of_ne h]
    · rw [List.lookup_cons, List.lookup_cons, ih]

theorem lookup_set (d : List (κ × α)) (k k' : κ) (v : α) :
    (set d k v).lookup k' = if k' = k then some v else d.lookup k' := by
  by_cases h : k' = k
  · rw [if_pos h, h, lookup_set_self]
  · rw [if_neg h, lookup_set_of_ne d v h]

/-- Setting a key to what it has changes nothing. -/
theorem set_of_lookup (h : d.lookup k = some v) : set d k v = d := by
  induction d with
  | nil => exact nomatch h
  | cons entry d ih =>
    obtain ⟨l, w⟩ := entry
    unfold set
    rw [List.lookup_cons] at h
    by_cases h_same : l = k
    · subst h_same
      rw [beq_self_eq_true] at h
      cases h
      exact if_pos rfl
    · rw [beq_false_of_ne (Ne.symm h_same)] at h
      rw [if_neg h_same, ih h]

/-- A new key goes to the end. -/
theorem set_of_not_mem (h : k ∉ d.map Prod.fst) : set d k v = d ++ [(k, v)] := by
  induction d with
  | nil => rfl
  | cons entry d ih =>
    rw [List.map_cons, List.mem_cons, not_or] at h
    unfold set
    rw [if_neg (Ne.symm h.1), ih h.2]
    rfl

/-- A key that is present stays where it is. -/
theorem keys_set (h : k ∈ d.map Prod.fst) : (set d k v).map Prod.fst = d.map Prod.fst := by
  induction d with
  | nil => exact absurd h List.not_mem_nil
  | cons entry d ih =>
    unfold set
    split
    · next h_same => rw [List.map_cons, List.map_cons, h_same]
    · next h_ne =>
      rw [List.map_cons, List.map_cons, ih ((List.mem_cons.mp h).resolve_left (Ne.symm h_ne))]

/-- Setting a key changes no other entry. -/
theorem forall₂_set {R : α → α → Prop} (h_refl : ∀ x, R x x) (h_key : k ∈ d.map Prod.fst)
    (h : ∀ w, d.lookup k = some w → R w v) :
    List.Forall₂ (fun a b => a.1 = b.1 ∧ R a.2 b.2) d (set d k v) := by
  have h_same : ∀ d : List (κ × α), List.Forall₂ (fun a b => a.1 = b.1 ∧ R a.2 b.2) d d :=
    fun d => List.forall₂_same.mpr fun entry _ => ⟨rfl, h_refl entry.2⟩
  induction d with
  | nil => exact absurd h_key List.not_mem_nil
  | cons entry d ih =>
    obtain ⟨l, w⟩ := entry
    unfold set
    rw [List.lookup_cons] at h
    by_cases h_l : l = k
    · rw [if_pos h_l]
      rw [h_l, beq_self_eq_true] at h
      exact List.Forall₂.cons ⟨h_l, h w rfl⟩ (h_same d)
    · rw [if_neg h_l]
      rw [beq_false_of_ne (Ne.symm h_l)] at h
      have h_rest : k ∈ d.map Prod.fst := (List.mem_cons.mp h_key).resolve_left (Ne.symm h_l)
      exact List.Forall₂.cons ⟨rfl, h_refl w⟩ (ih h_rest h)

/-! ### Missing entries -/

/-- `d'` is `d` without some entries that satisfy `p`. -/
structure Drops (p : κ × α → Prop) (d d' : List (κ × α)) : Prop where
  sublist : d'.Sublist d
  dropped : ∀ entry ∈ d, entry ∈ d' ∨ p entry

variable {p : κ × α → Prop}

omit [DecidableEq κ] in
theorem Drops.refl (p : κ × α → Prop) (d : List (κ × α)) : Drops p d d :=
  ⟨List.Sublist.refl d, fun _ h => Or.inl h⟩

/-- A key is looked up as before, or its entry is gone. -/
theorem Drops.lookup (h : Drops p d d') (h_keys : (d.map Prod.fst).Nodup) (k : κ) :
    d'.lookup k = d.lookup k ∨ d'.lookup k = none ∧ ∃ v, d.lookup k = some v ∧ p (k, v) := by
  have h_keys' : (d'.map Prod.fst).Nodup := h_keys.sublist (h.sublist.map Prod.fst)
  cases h_v : d.lookup k with
  | none =>
    left
    by_contra h_ne
    have h_mem := (h.sublist.map Prod.fst).subset (lookup_ne_none.mp h_ne)
    exact lookup_ne_none.mpr h_mem h_v
  | some v =>
    have h_entry : (k, v) ∈ d := mem_of_lookup h_v
    rcases h.dropped _ h_entry with h_kept | h_p
    · exact Or.inl (lookup_of_mem h_keys' h_kept)
    · by_cases h_none : d'.lookup k = none
      · exact Or.inr ⟨h_none, v, rfl, h_p⟩
      · -- what is there is an entry of `d`, so the one of `k`
        obtain ⟨w, h_w⟩ := Option.ne_none_iff_exists'.mp h_none
        have h_mem : (k, w) ∈ d := h.sublist.subset (mem_of_lookup h_w)
        rw [h_w, ← h_v, lookup_of_mem h_keys h_mem]
        exact Or.inl rfl

/-- Keys whose entries cannot be dropped. -/
theorem Drops.lookup_of_not (h : Drops p d d') (h_keys : (d.map Prod.fst).Nodup)
    (h_not : ∀ v, ¬ p (k, v)) : d'.lookup k = d.lookup k := by
  rcases h.lookup h_keys k with h_same | ⟨-, v, -, h_p⟩
  · exact h_same
  · exact absurd h_p (h_not v)

/-- A reader with a default cannot tell that an entry with the default is missing. -/
theorem Drops.lookup_getD (h : Drops p d d') (h_keys : (d.map Prod.fst).Nodup) {default : α}
    (h_default : ∀ entry, p entry → entry.2 = default) (k : κ) :
    (d'.lookup k).getD default = (d.lookup k).getD default := by
  rcases h.lookup h_keys k with h_same | ⟨h_none, v, h_v, h_p⟩
  · rw [h_same]
  · have h_eq : v = default := h_default _ h_p
    rw [h_none, h_v, h_eq]
    rfl

end Lookup

/-! ### Sorting the keys -/

section Sorted

variable [LinearOrder κ] {d : List (κ × α)} {k : κ} {v : α} {entry : κ × α}

/-- Insertion in order of the keys. An entry of the same key is replaced. -/
def insert (k : κ) (v : α) : List (κ × α) → List (κ × α)
  | [] => [(k, v)]
  | (l, w) :: d =>
    if k < l then (k, v) :: (l, w) :: d
    else if k = l then (k, v) :: d
    else (l, w) :: insert k v d

/-- `{k: d[k] for k in sorted(d)}`. -/
def sorted (d : List (κ × α)) : List (κ × α) :=
  d.foldr (fun entry d => insert entry.1 entry.2 d) []

theorem mem_insert (h : entry ∈ insert k v d) : entry = (k, v) ∨ entry ∈ d := by
  induction d with
  | nil => exact Or.inl (List.mem_singleton.mp h)
  | cons head d ih =>
    obtain ⟨l, w⟩ := head
    unfold insert at h
    split at h
    · exact List.mem_cons.mp h
    · split at h
      · exact (List.mem_cons.mp h).imp_right (List.mem_cons_of_mem _)
      · rcases List.mem_cons.mp h with rfl | h_rest
        · exact Or.inr List.mem_cons_self
        · exact (ih h_rest).imp_right (List.mem_cons_of_mem _)

theorem mem_sorted (h : entry ∈ sorted d) : entry ∈ d := by
  induction d with
  | nil => exact h
  | cons head d ih =>
    rcases mem_insert h with rfl | h_rest
    · exact List.mem_cons_self
    · exact List.mem_cons_of_mem _ (ih h_rest)

theorem insert_pairwise (k : κ) (v : α) (h : d.Pairwise fun a b => a.1 < b.1) :
    (insert k v d).Pairwise fun a b => a.1 < b.1 := by
  induction d with
  | nil => exact List.pairwise_singleton _ _
  | cons head d ih =>
    obtain ⟨l, w⟩ := head
    obtain ⟨h_head, h_rest⟩ := List.pairwise_cons.mp h
    unfold insert
    split
    · next h_lt =>
      -- the key goes first: it is below the head, and so below the rest
      refine List.Pairwise.cons (fun entry h_mem => ?_) h
      rcases List.mem_cons.mp h_mem with rfl | h_mem
      · exact h_lt
      · exact h_lt.trans (h_head entry h_mem)
    · next h_not_lt =>
      split
      · next h_same =>
        subst h_same
        exact List.Pairwise.cons h_head h_rest
      · next h_ne =>
        -- the key goes further down: the head stays below whatever comes out
        refine List.Pairwise.cons (fun entry h_mem => ?_) (ih h_rest)
        rcases mem_insert h_mem with rfl | h_mem
        · exact lt_of_le_of_ne (not_lt.mp h_not_lt) (Ne.symm h_ne)
        · exact h_head entry h_mem

/-- The keys of the result increase. -/
theorem sorted_pairwise (d : List (κ × α)) : (sorted d).Pairwise fun a b => a.1 < b.1 := by
  induction d with
  | nil => exact List.Pairwise.nil
  | cons head d ih => exact insert_pairwise head.1 head.2 ih

/-- A dictionary that is in order stays as it is. -/
theorem sorted_of_pairwise (h : d.Pairwise fun a b => a.1 < b.1) : sorted d = d := by
  induction d with
  | nil => rfl
  | cons head d ih =>
    obtain ⟨h_head, h_rest⟩ := List.pairwise_cons.mp h
    show insert head.1 head.2 (sorted d) = head :: d
    rw [ih h_rest]
    cases d with
    | nil => rfl
    | cons next d => exact if_pos (h_head next List.mem_cons_self)

end Sorted

end Framework.Dict
