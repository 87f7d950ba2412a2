import Mathlib.Data.List.Basic
import Mathlib.Tactic.Common

/-!
# Checksums that see a single error

A checksum that is built up a symbol at a time is a fold. When each symbol acts injectively on
the sum, and in each sum different symbols act differently, the checksums of two texts that
differ in one place are different (`foldl_ne_of_differAt`).
-/

namespace Checksums

variable {σ α : Type*}

/-- Two texts differ at `i`, and nowhere else. -/
structure DifferAt (i : Nat) (as bs : List α) : Prop where
  length : as.length = bs.length
  here : as[i]? ≠ bs[i]?
  elsewhere : ∀ j, j ≠ i → as[j]? = bs[j]?

namespace DifferAt

variable {i : Nat} {as bs : List α}

theorem cons (h : DifferAt i as bs) (a : α) : DifferAt (i + 1) (a :: as) (a :: bs) where
  length := congrArg Nat.succ h.length
  here := h.here
  elsewhere := by
    intro j hj
    cases j with
    | zero => rfl
    | succ j => exact h.elsewhere j fun hi => hj (congrArg Nat.succ hi)

/-- What is in front of the place, and what is behind it, is the same. -/
theorem split (h : DifferAt i as bs) :
    ∃ pre x y post, as = pre ++ x :: post ∧ bs = pre ++ y :: post ∧ x ≠ y := by
  induction i generalizing as bs with
  | zero =>
    match as, bs, h with
    | [], [], h => exact absurd rfl h.here
    | [], _ :: _, h => exact absurd h.length (by simp)
    | _ :: _, [], h => exact absurd h.length (by simp)
    | x :: as, y :: bs, h =>
      have htail : as = bs := List.ext_getElem? fun j => h.elsewhere (j + 1) j.succ_ne_zero
      exact ⟨[], x, y, as, rfl, by rw [htail]; rfl, fun hxy => h.here (congrArg some hxy)⟩
  | succ i ih =>
    match as, bs, h with
    | [], [], h => exact absurd rfl h.here
    | [], _ :: _, h => exact absurd h.length (by simp)
    | _ :: _, [], h => exact absurd h.length (by simp)
    | a :: as, b :: bs, h =>
      have hhead : a = b := Option.some.inj (h.elsewhere 0 (Nat.succ_ne_zero i).symm)
      have htail : DifferAt i as bs :=
        { length := Nat.succ.inj h.length
          here := h.here
          elsewhere := fun j hj => h.elsewhere (j + 1) fun hi => hj (Nat.succ.inj hi) }
      obtain ⟨pre, x, y, post, rfl, rfl, hxy⟩ := ih htail
      exact ⟨a :: pre, x, y, post, rfl, by rw [hhead]; rfl, hxy⟩

end DifferAt

variable {step : σ → α → σ}

theorem foldl_injective (hsum : ∀ a, Function.Injective fun s => step s a) :
    ∀ as : List α, Function.Injective fun s => as.foldl step s
  | [], _, _, h => h
  | a :: as, _, _, h => hsum a (foldl_injective hsum as h)

/-- **A single error is seen.** -/
theorem foldl_ne_of_differAt (hsum : ∀ a, Function.Injective fun s => step s a)
    (hsymbol : ∀ s, Function.Injective (step s)) {i : Nat} {as bs : List α} (h : DifferAt i as bs)
    (s : σ) : as.foldl step s ≠ bs.foldl step s := by
  obtain ⟨pre, x, y, post, rfl, rfl, hxy⟩ := h.split
  rw [List.foldl_append, List.foldl_append, List.foldl_cons, List.foldl_cons]
  intro heq
  have hstep : step (pre.foldl step s) x = step (pre.foldl step s) y :=
    foldl_injective hsum post heq
  exact hxy (hsymbol _ hstep)

end Checksums
