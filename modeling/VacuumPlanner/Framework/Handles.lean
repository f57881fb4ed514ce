import Mathlib.Data.List.Nodup
import Mathlib.Data.List.Perm.Basic
import Mathlib.Data.List.Range

/-!
# Handles that are released once

A pool hands out handles, and a handle is given back by calling its release. Whoever holds
handles keeps them in variables of its own, which it may overwrite, clear twice or forget.

`Accounted` says that none of this has gone wrong: what has been released, together with what
is held, is everything that was handed out, each handle once. Attaching, releasing and moving
handles between variables keep it, and a handle that is no longer held has been released exactly
once (`Accounted.once`).
-/

namespace Framework

structure Pool where
  /-- How many handles have been handed out. -/
  handed : ℕ
  /-- The releases that were called, in order. -/
  released : List ℕ
  deriving DecidableEq

namespace Pool

variable {p : Pool} {held held' : List ℕ} {handle : ℕ}

/-- A pool that has handed out nothing. -/
def empty : Pool := ⟨0, []⟩

/-- Hand out the next handle. -/
def attach (p : Pool) : Pool := { p with handed := p.handed + 1 }

/-- Call the release of a handle. -/
def release (p : Pool) (handle : ℕ) : Pool := { p with released := p.released ++ [handle] }

/-- Releasing several handles, one after the other. -/
theorem released_foldl (p : Pool) (handles : List ℕ) :
    (handles.foldl Pool.release p).released = p.released ++ handles := by
  induction handles generalizing p with
  | nil => exact (List.append_nil _).symm
  | cons handle handles ih =>
    rw [List.foldl_cons, ih]
    exact List.append_assoc ..

theorem handed_foldl (p : Pool) (handles : List ℕ) :
    (handles.foldl Pool.release p).handed = p.handed := by
  induction handles generalizing p with
  | nil => rfl
  | cons handle handles ih => exact ih (p.release handle)

/-- Every handle is held, or has been released, once. -/
def Accounted (p : Pool) (held : List ℕ) : Prop :=
  (p.released ++ held).Perm (List.range p.handed)

theorem accounted_empty : empty.Accounted [] := .refl []

namespace Accounted

theorem perm (h : p.Accounted held) (h_perm : held'.Perm held) : p.Accounted held' :=
  (h_perm.append_left p.released).trans h

theorem attach (h : p.Accounted held) : p.attach.Accounted (p.handed :: held) := by
  have h_new : (p.released ++ p.handed :: held).Perm ((p.released ++ held) ++ [p.handed]) :=
    List.perm_middle.trans (List.perm_append_singleton _ _).symm
  unfold Accounted
  show (p.released ++ p.handed :: held).Perm (List.range (p.handed + 1))
  rw [List.range_succ]
  exact h_new.trans (h.append_right _)

theorem release (h : p.Accounted (handle :: held)) : (p.release handle).Accounted held := by
  unfold Accounted Pool.release
  rw [List.append_assoc]
  exact h

theorem releaseAll {handles : List ℕ} (h : p.Accounted (handles ++ held)) :
    (handles.foldl Pool.release p).Accounted held := by
  induction handles generalizing p with
  | nil => exact h
  | cons handle handles ih => exact ih h.release

/-- More handles have been handed out, in turn, and those that are not held have been released. -/
theorem given {p' : Pool} {k : ℕ} (h : p.Accounted held) (h_handed : p'.handed = p.handed + k)
    (h_perm : (p'.released ++ held').Perm
      (p.released ++ List.range' p.handed k ++ held)) : p'.Accounted held' := by
  unfold Accounted
  have h_swap : (p.released ++ List.range' p.handed k ++ held).Perm
      ((p.released ++ held) ++ List.range' p.handed k) := by
    rw [List.append_assoc, List.append_assoc]
    exact List.perm_append_comm.append_left _
  refine (h_perm.trans h_swap).trans ((h.append_right _).trans ?_)
  rw [h_handed, List.range_eq_range', List.range_eq_range']
  have h_range := List.range'_append_1 (s := 0) (m := p.handed) (n := k)
  rw [Nat.zero_add] at h_range
  rw [h_range]

/-- **Once.** Every handle is held once, or has been released once. -/
theorem once (h : p.Accounted held) {handle : ℕ} (h_handed : handle < p.handed) :
    p.released.count handle + held.count handle = 1 := by
  unfold Accounted at h
  rw [← List.count_append, h.count_eq]
  exact List.count_eq_one_of_mem List.nodup_range (List.mem_range.mpr h_handed)

end Accounted

end Pool

end Framework
