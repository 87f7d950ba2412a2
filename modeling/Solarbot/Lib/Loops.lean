import Mathlib.Data.List.Basic
import Mathlib.Data.List.Range

/-!
# Invariants of counting loops

A loop `for (i = a; i < b; i++)` is a fold over `List.range' a (b - a)`; one whose
body may fault is a `foldlM` in `Except`. The rules here carry an invariant through such a
loop; it may speak of the counter.
-/

namespace Loops

variable {β φ : Type*}

/-- The invariant at the first counter value and its preservation by the body give
the invariant at the end. -/
theorem foldl_range' {f : β → Nat → β} (I : Nat → β → Prop) {a : Nat} (k : Nat) {b : β}
    (hI : I a b) (hstep : ∀ i b, a ≤ i → i < a + k → I i b → I (i + 1) (f b i)) :
    I (a + k) ((List.range' a k).foldl f b) := by
  induction k with
  | zero => exact hI
  | succ k ih =>
    rw [List.range'_concat, List.foldl_append]
    have hk := ih fun i b hle hlt => hstep i b hle (by omega)
    simpa [Nat.add_assoc] using hstep (a + k) _ (by omega) (by omega) hk

/-- The counter values before, at and behind one of them. -/
theorem range'_split (a m n : Nat) :
    List.range' a (m + (1 + n)) = List.range' a m ++ (a + m) :: List.range' (a + m + 1) n := by
  rw [← List.range'_append_1, Nat.add_comm 1 n, List.range'_succ]

/-- The same for a body that may fault: it never does, when it does not fault where
the invariant holds. -/
theorem foldlM_range {f : β → Nat → Except φ β} (I : Nat → β → Prop) (k : Nat) {b : β}
    (hI : I 0 b) (hstep : ∀ i b, i < k → I i b → ∃ b', f b i = .ok b' ∧ I (i + 1) b') :
    ∃ b', (List.range k).foldlM f b = .ok b' ∧ I k b' := by
  induction k with
  | zero => exact ⟨b, rfl, hI⟩
  | succ k ih =>
    obtain ⟨m, hm, hIm⟩ := ih fun i b hi => hstep i b (by omega)
    obtain ⟨b', hb', hIb'⟩ := hstep k m (by omega) hIm
    refine ⟨b', ?_, hIb'⟩
    rw [List.range_succ, List.foldlM_append, hm]
    show (f m k).bind _ = _
    rw [hb']
    rfl

/-- A step that does not fault, behind one that does not. -/
theorem bind_ok {α : Type*} {x : Except φ α} {f : α → Except φ β} {b : β} (h : x.bind f = .ok b) :
    ∃ a, x = .ok a ∧ f a = .ok b := by
  cases x with
  | error e => exact absurd h (by simp [Except.bind])
  | ok a => exact ⟨a, rfl, h⟩

theorem map_ok {α : Type*} {x : Except φ α} {f : α → β} {b : β} (h : x.map f = .ok b) :
    ∃ a, x = .ok a ∧ f a = b := by
  cases x with
  | error e => exact absurd h (by simp [Except.map])
  | ok a => exact ⟨a, rfl, Except.ok.inj h⟩

/-- What every round that does not fault preserves holds after a loop that does not. -/
theorem foldlM_ok {α : Type*} {f : β → α → Except φ β} {I : β → Prop}
    (hstep : ∀ b a b', f b a = .ok b' → I b → I b') :
    ∀ {l : List α} {b b' : β}, l.foldlM f b = .ok b' → I b → I b'
  | [], _, _, h, hI => Except.ok.inj h ▸ hI
  | a :: l, b, b', h, hI => by
    rw [List.foldlM_cons] at h
    obtain ⟨m, hm, hl⟩ := bind_ok h
    exact foldlM_ok hstep hl (hstep b a m hm hI)

end Loops
