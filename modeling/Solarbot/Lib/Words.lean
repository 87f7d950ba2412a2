import Mathlib

/-!
# Numbers in words

An integer fits into `w` bits behind a sign when it is between `-2 ^ w` and `2 ^ w`. A machine
word made of an integer is that integer exactly when it fits; an integer that does not fit is in
no word at all, so it makes no difference how the machine wraps it around.
-/

namespace Words

/-- `n` fits into a sign and `w` bits. -/
def Fits (w : Nat) (n : Int) : Prop := -2 ^ w ≤ n ∧ n < 2 ^ w

instance (w : Nat) (n : Int) : Decidable (Fits w n) := inferInstanceAs (Decidable (_ ∧ _))

theorem Fits.mono {w v : Nat} {n : Int} (h : Fits w n) (hle : w ≤ v) : Fits v n := by
  have hpow : (2 : Int) ^ w ≤ 2 ^ v := pow_le_pow_right₀ (by decide) hle
  obtain ⟨hlower, hupper⟩ := h
  exact ⟨by omega, by omega⟩

theorem fits_int16 (x : Int16) : Fits 15 x.toInt := ⟨x.le_toInt, x.toInt_lt⟩

theorem fits_int32 (x : Int32) : Fits 31 x.toInt := ⟨x.le_toInt, x.toInt_lt⟩

theorem toInt_ofInt_iff (n : Int) : (Int32.ofInt n).toInt = n ↔ Fits 31 n :=
  ⟨fun h => h ▸ fits_int32 _, fun h => Int32.toInt_ofInt_of_le h.1 h.2⟩

/-- The lower half of a word that holds a number that fits there. -/
theorem toInt_toInt16 {x : Int32} (h : Fits 15 x.toInt) : x.toInt16.toInt = x.toInt := by
  rw [Int32.toInt_toInt16]
  exact Int.bmod_eq_of_le h.1 h.2

theorem toInt16_ofInt_iff (n : Int) : (Int32.ofInt n).toInt16.toInt = n ↔ Fits 15 n := by
  refine ⟨fun h => h ▸ fits_int16 _, fun h => ?_⟩
  have hword : (Int32.ofInt n).toInt = n := (toInt_ofInt_iff n).mpr (h.mono (by decide))
  rw [toInt_toInt16 (by rwa [hword]), hword]

end Words
