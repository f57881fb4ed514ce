import VacuumPlanner.Framework.Records

/-!
# Ownership stored twice

A store may keep in two places who owns what: a record names its owner (`parent`), and an
owner lists the keys of its records (`lists`). The records of an owner are then found in
two ways, by looking up the listed keys (`byKeys`) or by scanning for the name of the owner
(`byOwner`).

`Ownership` collects the checks that are usually made of such a store: keys and names are
distinct, an owner lists no key twice and only keys of its own records, and no record is
left unlisted. None of them compares two owners with each other. Together they are enough:
the two ways find the same records (`Ownership.byOwner_perm_byKeys`), and the lists
partition the keys (`Ownership.partition`), so each record has one owner
(`Ownership.existsUnique_owner`).
-/

namespace Framework

variable {α β κ π : Type}

/-! ### The two ways -/

section Selections

variable [DecidableEq κ] [DecidableEq π]

/-- The records with the given keys, in the order of the keys. -/
def byKeys (key : α → κ) (xs : List α) (keys : List κ) : List α :=
  keys.filterMap fun k => xs.find? fun x => decide (key x = k)

/-- The records that name the owner, in the order of the records. -/
def byOwner (parent : α → π) (xs : List α) (name : π) : List α :=
  xs.filter fun x => decide (parent x = name)

variable {key : α → κ} {parent : α → π} {xs : List α} {keys : List κ} {name : π} {x : α}

theorem mem_byOwner : x ∈ byOwner parent xs name ↔ x ∈ xs ∧ parent x = name := by
  unfold byOwner
  rw [List.mem_filter, decide_eq_true_iff]

/-- With distinct keys, a lookup finds the records whose keys are asked for. -/
theorem mem_byKeys (nodup : (xs.map key).Nodup) :
    x ∈ byKeys key xs keys ↔ x ∈ xs ∧ key x ∈ keys := by
  unfold byKeys
  rw [List.mem_filterMap]
  constructor
  · rintro ⟨k, hk, h_find⟩
    obtain ⟨hx, rfl⟩ := key_of_find? h_find
    exact ⟨hx, hk⟩
  · rintro ⟨hx, hk⟩
    exact ⟨key x, hk, (find?_key nodup).mpr ⟨hx, rfl⟩⟩

/-- A lookup that misses nothing answers key by key. -/
theorem map_key_byKeys (known : ∀ k ∈ keys, k ∈ xs.map key) :
    (byKeys key xs keys).map key = keys := by
  induction keys with
  | nil => rfl
  | cons k keys ih =>
    obtain ⟨h_k, h_keys⟩ := List.forall_mem_cons.mp known
    obtain ⟨x, h_find⟩ := Option.isSome_iff_exists.mp (find?_key_isSome.mpr h_k)
    have h_cons : byKeys key xs (k :: keys) = x :: byKeys key xs keys :=
      List.filterMap_cons_some h_find
    rw [h_cons, List.map_cons, ih h_keys, (key_of_find? h_find).2]

end Selections

/-! ### The checks and what they force -/

/-- Each record names its owner and each owner lists its records. -/
structure Ownership (key : α → κ) (parent : α → π) (name : β → π) (lists : β → List κ)
    (xs : List α) (owners : List β) : Prop where
  keys : (xs.map key).Nodup
  names : (owners.map name).Nodup
  once : ∀ o ∈ owners, (lists o).Nodup
  known : ∀ o ∈ owners, ∀ k ∈ lists o, k ∈ xs.map key
  owned : ∀ o ∈ owners, ∀ x ∈ xs, key x ∈ lists o → parent x = name o
  listed : ∀ x ∈ xs, key x ∈ owners.flatMap lists

namespace Ownership

variable {key : α → κ} {parent : α → π} {name : β → π} {lists : β → List κ} {xs : List α}
  {owners : List β} {x : α} {o o' : β}

/-- An owner lists the records that name it. -/
theorem mem_lists (h : Ownership key parent name lists xs owners) (ho : o ∈ owners)
    (hx : x ∈ xs) : key x ∈ lists o ↔ parent x = name o := by
  constructor
  · exact h.owned o ho x hx
  · intro h_parent
    -- whoever lists the record has the name it gives, and names are distinct
    obtain ⟨o', ho', h_lists⟩ := List.mem_flatMap.mp (h.listed x hx)
    have h_name : name o = name o' := h_parent.symm.trans (h.owned o' ho' x hx h_lists)
    rw [eq_of_key h.names ho ho' h_name]
    exact h_lists

/-- **One owner.** Each record is listed by exactly one owner. -/
theorem existsUnique_owner (h : Ownership key parent name lists xs owners) (hx : x ∈ xs) :
    ∃! o, o ∈ owners ∧ key x ∈ lists o := by
  obtain ⟨o, ho, h_lists⟩ := List.mem_flatMap.mp (h.listed x hx)
  refine ⟨o, ⟨ho, h_lists⟩, ?_⟩
  rintro o' ⟨ho', h_lists'⟩
  refine eq_of_key h.names ho' ho ?_
  exact (h.owned o' ho' x hx h_lists').symm.trans (h.owned o ho x hx h_lists)

/-- Owners with different names list different keys. -/
theorem lists_disjoint (h : Ownership key parent name lists xs owners) (ho : o ∈ owners)
    (ho' : o' ∈ owners) (h_ne : name o ≠ name o') : (lists o).Disjoint (lists o') := by
  intro k hk hk'
  obtain ⟨x, hx, rfl⟩ := List.mem_map.mp (h.known o ho k hk)
  exact h_ne ((h.owned o ho x hx hk).symm.trans (h.owned o' ho' x hx hk'))

/-- **A partition.** The lists of all owners together hold each key once. -/
theorem partition (h : Ownership key parent name lists xs owners) :
    (owners.flatMap lists).Perm (xs.map key) := by
  have h_disjoint : owners.Pairwise fun o o' => (lists o).Disjoint (lists o') :=
    (List.pairwise_map.mp h.names).imp_of_mem fun ho ho' h_ne => h.lists_disjoint ho ho' h_ne
  have h_nodup : (owners.flatMap lists).Nodup :=
    List.nodup_flatMap.mpr ⟨h.once, h_disjoint⟩
  refine (List.perm_ext_iff_of_nodup h_nodup h.keys).mpr fun k => ?_
  constructor
  · intro hk
    obtain ⟨o, ho, h_lists⟩ := List.mem_flatMap.mp hk
    exact h.known o ho k h_lists
  · intro hk
    obtain ⟨x, hx, rfl⟩ := List.mem_map.mp hk
    exact h.listed x hx

variable [DecidableEq κ]

/-- A lookup finds no record twice. -/
theorem nodup_byKeys (h : Ownership key parent name lists xs owners) (ho : o ∈ owners) :
    (byKeys key xs (lists o)).Nodup := by
  refine List.Nodup.of_map key ?_
  rw [map_key_byKeys (h.known o ho)]
  exact h.once o ho

variable [DecidableEq π]

theorem mem_byKeys_iff (h : Ownership key parent name lists xs owners) (ho : o ∈ owners) :
    x ∈ byKeys key xs (lists o) ↔ x ∈ byOwner parent xs (name o) := by
  rw [mem_byKeys h.keys, mem_byOwner]
  exact and_congr_right fun hx => h.mem_lists ho hx

/-- **The two ways agree.** A scan for an owner finds what a lookup of its list finds, up to
the order. -/
theorem byOwner_perm_byKeys (h : Ownership key parent name lists xs owners) (ho : o ∈ owners) :
    (byOwner parent xs (name o)).Perm (byKeys key xs (lists o)) := by
  have h_scan : (byOwner parent xs (name o)).Nodup := (List.Nodup.of_map key h.keys).filter _
  refine (List.perm_ext_iff_of_nodup h_scan (h.nodup_byKeys ho)).mpr fun x => ?_
  exact (h.mem_byKeys_iff ho).symm

end Ownership

end Framework
