import Mathlib.Data.List.Basic
import Mathlib.Data.List.Induction
import Mathlib.Tactic.Common

/-!
# Working on a buffer block by block

`mapBlocks n f k buf` replaces the first `k` blocks of `n` elements of a buffer by
their images under `f` and leaves what follows alone. It is a functor on the blocks
(`mapBlocks_append`), and an inverse of `f` on blocks is one of `mapBlocks`
(`mapBlocks_cancel`). `foldl_undo` is the corresponding fact about a loop whose
steps are undone in the opposite order.
-/

namespace Blocks

variable {α σ ι : Type*}

/-- The first `k` blocks of `n` elements, one after the other. -/
def mapBlocks (n : Nat) (f : List α → List α) : Nat → List α → List α
  | 0, buf => buf
  | k + 1, buf => f (buf.take n) ++ mapBlocks n f k (buf.drop n)

variable {n : Nat} {f g : List α → List α}

/-- Blocks further back do not see those in front. -/
theorem mapBlocks_append (k j : Nat) :
    ∀ {buf rest : List α}, buf.length = k * n →
      mapBlocks n f (k + j) (buf ++ rest) = mapBlocks n f k buf ++ mapBlocks n f j rest := by
  induction k with
  | zero =>
    intro buf rest h
    rw [Nat.zero_mul, List.length_eq_zero_iff] at h
    rw [h, Nat.zero_add]
    rfl
  | succ k ih =>
    intro buf rest h
    rw [Nat.succ_mul] at h
    have hdrop : (buf.drop n).length = k * n := by
      rw [List.length_drop]
      omega
    rw [show k + 1 + j = (k + j) + 1 by omega, mapBlocks, mapBlocks,
      List.take_append_of_le_length (by omega), List.drop_append_of_le_length (by omega), ih hdrop,
      List.append_assoc]

theorem mapBlocks_length (hf : ∀ b, b.length = n → (f b).length = n) (k : Nat) :
    ∀ {buf : List α}, k * n ≤ buf.length → (mapBlocks n f k buf).length = buf.length := by
  induction k with
  | zero => exact fun _ => rfl
  | succ k ih =>
    intro buf h
    rw [Nat.succ_mul] at h
    have htake : (buf.take n).length = n := by
      rw [List.length_take]
      omega
    rw [mapBlocks, List.length_append, hf _ htake, ih (by rw [List.length_drop]; omega),
      List.length_drop]
    omega

/-- What undoes `f` on a block undoes `mapBlocks n f`. -/
theorem mapBlocks_cancel (hf : ∀ b, b.length = n → (f b).length = n)
    (hgf : ∀ b, b.length = n → g (f b) = b) (k : Nat) :
    ∀ {buf : List α}, k * n ≤ buf.length → mapBlocks n g k (mapBlocks n f k buf) = buf := by
  induction k with
  | zero => exact fun _ => rfl
  | succ k ih =>
    intro buf h
    rw [Nat.succ_mul] at h
    have htake : (buf.take n).length = n := by
      rw [List.length_take]
      omega
    have hfirst := hf _ htake
    rw [mapBlocks, mapBlocks, List.take_append_of_le_length (by omega),
      List.drop_append_of_le_length (by omega), List.take_of_length_le (by omega),
      List.drop_of_length_le (by omega), List.nil_append, hgf _ htake,
      ih (by rw [List.length_drop]; omega), List.take_append_drop]

/-- A loop whose steps are undone one by one, the last first. -/
theorem foldl_undo {f g : σ → ι → σ} (h : ∀ s i, g (f s i) i = s) (is : List ι) (s : σ) :
    is.reverse.foldl g (is.foldl f s) = s := by
  induction is using List.reverseRecOn with
  | nil => rfl
  | append_singleton is i ih =>
    rw [List.reverse_append, List.foldl_append, List.reverse_singleton, List.foldl_append]
    show is.reverse.foldl g (g (f (is.foldl f s) i) i) = s
    rw [h, ih]

end Blocks
