import Mathlib.Data.List.Basic
import Mathlib.Data.List.Perm.Basic
import Mathlib.Tactic.Common

/-!
# Dealing into buckets

A loop that goes over the elements of a list and pushes each into the bucket that a function
says. Each bucket grows by the elements that belong to it, in their order, and all buckets
together by all elements.
-/

namespace Buckets

variable {α : Type*}

/-- `buckets[k].push_back(a)`. -/
def push (buckets : List (List α)) (k : Nat) (a : α) : List (List α) :=
  buckets.modify k (· ++ [a])

@[simp] theorem push_length (buckets : List (List α)) (k : Nat) (a : α) :
    (push buckets k a).length = buckets.length := List.length_modify _ _ _

theorem push_getElem? (buckets : List (List α)) (k : Nat) (a : α) (i : Nat) :
    (push buckets k a)[i]? = buckets[i]?.map fun bucket => if k = i then bucket ++ [a] else bucket := by
  rw [push, List.getElem?_modify]
  rfl

theorem push_flatten {buckets : List (List α)} {k : Nat} (h : k < buckets.length) (a : α) :
    (push buckets k a).flatten.Perm (buckets.flatten ++ [a]) := by
  induction buckets generalizing k with
  | nil => exact absurd h (Nat.not_lt_zero k)
  | cons bucket buckets ih =>
    cases k with
    | zero =>
      show ((bucket ++ [a]) ++ buckets.flatten).Perm ((bucket ++ buckets.flatten) ++ [a])
      rw [List.append_assoc, List.append_assoc]
      exact List.Perm.append_left bucket List.perm_append_comm
    | succ k =>
      show (bucket ++ (push buckets k a).flatten).Perm ((bucket ++ buckets.flatten) ++ [a])
      rw [List.append_assoc]
      exact (ih (Nat.lt_of_succ_lt_succ h)).append_left bucket

variable (place : α → Nat)

/-- Each element goes where `place` says. -/
def deal (buckets : List (List α)) (l : List α) : List (List α) :=
  l.foldl (fun buckets a => push buckets (place a) a) buckets

theorem deal_append (buckets : List (List α)) (l m : List α) :
    deal place buckets (l ++ m) = deal place (deal place buckets l) m := List.foldl_append

@[simp] theorem deal_length (buckets : List (List α)) (l : List α) :
    (deal place buckets l).length = buckets.length := by
  induction l generalizing buckets with
  | nil => rfl
  | cons a l ih => exact (ih _).trans (push_length _ _ _)

/-- **A bucket grows by its elements**, in their order. -/
theorem deal_getElem? (buckets : List (List α)) (l : List α) (i : Nat) :
    (deal place buckets l)[i]? = buckets[i]?.map (· ++ l.filter fun a => place a = i) := by
  induction l generalizing buckets with
  | nil => simp [deal]
  | cons a l ih =>
    have hstep : deal place buckets (a :: l) = deal place (push buckets (place a) a) l := rfl
    rw [hstep, ih, push_getElem?, Option.map_map]
    refine congrArg (fun f => buckets[i]?.map f) (funext fun bucket => ?_)
    show (if place a = i then bucket ++ [a] else bucket) ++ _ = _
    by_cases hi : place a = i
    · rw [if_pos hi, List.filter_cons, if_pos (decide_eq_true hi), List.append_assoc]
      rfl
    · rw [if_neg hi, List.filter_cons, if_neg (by simpa using hi)]

/-- **Nothing is lost or duplicated.** -/
theorem deal_flatten {buckets : List (List α)} {l : List α}
    (h : ∀ a ∈ l, place a < buckets.length) :
    (deal place buckets l).flatten.Perm (buckets.flatten ++ l) := by
  induction l generalizing buckets with
  | nil => rw [List.append_nil]; exact List.Perm.refl _
  | cons a l ih =>
    have hpush := push_flatten (h a List.mem_cons_self) a
    have hrest : ∀ b ∈ l, place b < (push buckets (place a) a).length := by
      intro b hb
      rw [push_length]
      exact h b (List.mem_cons_of_mem _ hb)
    have hdeal := (ih hrest).trans (hpush.append_right l)
    rw [List.append_assoc] at hdeal
    exact hdeal

end Buckets
