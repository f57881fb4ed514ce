import Mathlib

/-!
# Counters with a switch

A holder of a token asks an epoch whether its token is still good, and the epoch accepts a
token while it is switched on and has the token's value. Work that is still under way when
its epoch ends is stopped this way, provided no later epoch accepts an old token.

The next token an epoch may issue is not its value but `Epoch.next`: an open epoch has
issued its value already, a closed one has not. A change that moves the value to `next` or
past it (`Epoch.Supersedes`) leaves every token behind that was ever good
(`not_accepts_of_supersedes`), and the three ways of ending an epoch do: closing it,
advancing it, and opening it anew.
-/

namespace Framework

structure Epoch where
  value : ℕ
  active : Bool
  deriving DecidableEq

namespace Epoch

/-- The token is good. -/
def Accepts (e : Epoch) (token : ℕ) : Prop := e.active = true ∧ e.value = token

/-- The least value no token has been issued for. -/
def next (e : Epoch) : ℕ := if e.active then e.value + 1 else e.value

/-- End the epoch, if it is open. -/
def close (e : Epoch) : Epoch := ⟨e.next, false⟩

/-- Begin another epoch, whether or not one is open. -/
def advance (e : Epoch) : Epoch := ⟨e.value + 1, true⟩

/-- End the epoch, if it is open, and begin another one. -/
def reopen (e : Epoch) : Epoch := ⟨e.next, true⟩

/-- `e'` accepts no token that `e` or an epoch before it has accepted. -/
def Supersedes (e' e : Epoch) : Prop := e.next ≤ e'.value

variable {e e' e'' : Epoch} {token : ℕ}

theorem value_le_next (e : Epoch) : e.value ≤ e.next := by
  unfold next
  split
  · exact Nat.le_succ _
  · exact le_refl _

theorem next_le_succ (e : Epoch) : e.next ≤ e.value + 1 := by
  unfold next
  split
  · exact le_refl _
  · exact Nat.le_succ _

theorem Accepts.lt_next (h : e.Accepts token) : token < e.next := by
  obtain ⟨h_active, rfl⟩ := h
  unfold next
  rw [if_pos h_active]
  exact Nat.lt_succ_self _

theorem close_supersedes (e : Epoch) : e.close.Supersedes e := le_refl e.next

theorem advance_supersedes (e : Epoch) : e.advance.Supersedes e := e.next_le_succ

theorem Supersedes.value_le (h : e'.Supersedes e) : e.value ≤ e'.value :=
  e.value_le_next.trans h

/-- **No revival.** Once an epoch is superseded, no later one accepts its token. -/
theorem not_accepts_of_supersedes (h : e.Accepts token) (h_ended : e'.Supersedes e)
    (h_later : e'.value ≤ e''.value) : ¬ e''.Accepts token := by
  rintro ⟨-, h_value⟩
  have h_lt : token < e'.value := h.lt_next.trans_le h_ended
  omega

/-- Closing issues no token. -/
theorem next_close (e : Epoch) : e.close.next = e.next := rfl

/-- Opening anew issues one. -/
theorem next_reopen (e : Epoch) : e.reopen.next = e.next + 1 := rfl

end Epoch

end Framework
