import Mathlib.Data.Nat.Basic
import Mathlib.Tactic.Ring

/-!
# Waiting with `select`

A call of `select` on one descriptor, as Linux has it: it counts the timeout it was given down by
the time it waited, and when the timeout runs out it leaves the set empty. A program that fills
the set and sets the timeout once has so much time for all of its calls together.

When there is something to read after the same time in each call, and a call that ran out of time
starts afresh, every call has its place in a period (`late_iff`).
-/

namespace Select

/-- What a call is given: whether the descriptor is in the set, and the time that is left. -/
structure Wait where
  watched : Bool
  timeout : Nat
  deriving DecidableEq

/-- When there is something to read, counted from the call. -/
inductive Ready where
  | error
  | never
  | after (time : Nat)

/-- `select`, with the value it returns. -/
def select (w : Wait) : Ready → Wait × Int
  | .error => (w, -1)
  | .never => (⟨false, 0⟩, 0)
  | .after time =>
    if w.watched = true ∧ time ≤ w.timeout then ({ w with timeout := w.timeout - time }, 1)
    else (⟨false, 0⟩, 0)

/-- An empty set stays empty, and nothing is ever ready. -/
theorem select_unwatched {w : Wait} (h : w.watched = false) (r : Ready) :
    (select w r).1.watched = false ∧ ((select w r).2 = -1 ∨ (select w r).2 = 0) := by
  cases r with
  | error => exact ⟨h, .inl rfl⟩
  | never => exact ⟨rfl, .inr rfl⟩
  | after time =>
    simp only [select, h, Bool.false_eq_true, false_and, if_false]
    exact ⟨trivial, .inr trivial⟩

/-- What a call that ran out of time leaves. -/
theorem select_timeout {w : Wait} {r : Ready} (h : (select w r).2 = 0) :
    (select w r).1.watched = false := by
  cases r with
  | error => exact absurd (show (-1 : Int) = 0 from h) (by decide)
  | never => rfl
  | after time =>
    simp only [select] at h ⊢
    split at h
    next => exact absurd (show (1 : Int) = 0 from h) (by decide)
    next hlate => rw [if_neg hlate]

/-! ## Periods -/

variable {time : Nat}

/-- The place of a call in its period: the last one is late. -/
theorem late_iff (total : Nat) (h : 0 < time) (i : Nat) :
    (time ≤ total - time * (i % (total / time + 1)) ↔ (i + 1) % (total / time + 1) ≠ 0) ∧
      ((i + 1) % (total / time + 1) ≠ 0 →
        (i + 1) % (total / time + 1) = i % (total / time + 1) + 1) := by
  have hlt : i % (total / time + 1) < total / time + 1 := Nat.mod_lt _ (Nat.succ_pos _)
  have hnext : (i + 1) % (total / time + 1) =
      (i % (total / time + 1) + 1) % (total / time + 1) := (Nat.mod_add_mod ..).symm
  rw [hnext]
  generalize i % (total / time + 1) = k at *
  have hfits : k < total / time ↔ time ≤ total - time * k := by
    rw [← Nat.succ_le_iff, Nat.le_div_iff_mul_le h, Nat.succ_mul, mul_comm k]
    omega
  rw [← hfits]
  rcases Nat.lt_or_ge k (total / time) with hk | hk
  · rw [Nat.mod_eq_of_lt (by omega)]
    exact ⟨iff_of_true hk (Nat.succ_ne_zero k), fun _ => rfl⟩
  · have hlast : k + 1 = total / time + 1 := by omega
    rw [hlast, Nat.mod_self]
    exact ⟨iff_of_false (by omega) fun hc => hc rfl, fun hc => absurd rfl hc⟩

end Select
