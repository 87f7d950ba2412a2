import Mathlib.Order.Bounds.Basic

/-!
# A running minimum

A loop that keeps the smallest value it has seen, among those that pass a test. The values are
compared by a key, so that the loop can keep them as the machine has them.
-/

namespace Minimum

variable {α β γ : Type*} [LinearOrder γ] (p : α → Prop) [DecidablePred p] (value : α → β)
  (key : β → γ)

/-- One round. -/
def keep (b : β) (a : α) : β := if p a ∧ key (value a) < key b then value a else b

/-- The values that pass the test. -/
def values (l : List α) : Set γ := {x | ∃ a ∈ l, p a ∧ key (value a) = x}

/-- **The loop ends with the least** of what it began with and the values. -/
theorem isLeast_foldl (l : List α) (b : β) :
    IsLeast (insert (key b) (values p value key l)) (key (l.foldl (keep p value key) b)) := by
  induction l generalizing b with
  | nil =>
    refine ⟨Set.mem_insert _ _, fun x hx => ?_⟩
    rcases hx with rfl | ⟨a, ha, -⟩
    · exact le_refl _
    · exact absurd ha List.not_mem_nil
  | cons a l ih =>
    obtain ⟨hmem, hle⟩ := ih (keep p value key b a)
    have hround : key (keep p value key b a) ≤ key b ∧
        (p a → key (keep p value key b a) ≤ key (value a)) ∧
        (key (keep p value key b a) = key b ∨ p a ∧ key (keep p value key b a) = key (value a)) := by
      unfold keep
      split
      next h => exact ⟨le_of_lt h.2, fun _ => le_refl _, .inr ⟨h.1, rfl⟩⟩
      next h => exact ⟨le_refl _, fun ha => not_lt.mp fun hlt => h ⟨ha, hlt⟩, .inl rfl⟩
    obtain ⟨hb, ha, hcases⟩ := hround
    rw [List.foldl_cons]
    constructor
    · rcases hmem with hx | ⟨c, hc, hpc, hx⟩
      · rcases hcases with h | ⟨hpa, h⟩
        · exact .inl (hx.trans h)
        · exact .inr ⟨a, List.mem_cons_self, hpa, (hx.trans h).symm⟩
      · exact .inr ⟨c, List.mem_cons_of_mem _ hc, hpc, hx⟩
    · rintro x (rfl | ⟨c, hc, hpc, rfl⟩)
      · exact (hle (Set.mem_insert _ _)).trans hb
      · rcases List.mem_cons.mp hc with rfl | hc
        · exact (hle (Set.mem_insert _ _)).trans (ha hpc)
        · exact hle (.inr ⟨c, hc, hpc, rfl⟩)

end Minimum
