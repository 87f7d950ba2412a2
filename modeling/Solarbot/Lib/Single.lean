import Mathlib.Tactic.Ring

/-!
# A whole number as a `float`

A `float` has 24 bits. `Single.ofInt` is the one nearest to a whole number, and of two that are
as near the one with an even last bit. It is off by less than one part in 2^24
(`ofInt_near`), so that up to 2^24 it is the number itself.
-/

namespace Single

/-- `n / d`, to the nearest whole number, and to an even one from halfway. -/
def divEven (n d : Nat) : Nat :=
  if 2 * (n % d) < d ∨ 2 * (n % d) = d ∧ n / d % 2 = 0 then n / d else n / d + 1

/-- The last of the 24 bits of `n`. -/
def lastBit (n : Nat) : Nat := 2 ^ (n.log2 - 23)

def ofNat (n : Nat) : Nat := divEven n (lastBit n) * lastBit n

def ofInt : Int → Int
  | .ofNat n => ofNat n
  | .negSucc n => -ofNat (n + 1)

/-- At most half of the divisor is lost or gained. -/
theorem divEven_near (n : Nat) {d : Nat} (hd : 0 < d) :
    2 * n ≤ 2 * (divEven n d * d) + d ∧ 2 * (divEven n d * d) ≤ 2 * n + d := by
  have hdiv := Nat.div_add_mod n d
  have hmod := Nat.mod_lt n hd
  have hcomm : n / d * d = d * (n / d) := Nat.mul_comm ..
  unfold divEven
  split
  next h => omega
  next h =>
    rw [Nat.add_mul, Nat.one_mul]
    omega

/-- The other 23 bits are above the last. -/
theorem lastBit_le {n : Nat} (h : 2 ^ 24 ≤ n) : 2 ^ 23 * lastBit n ≤ n := by
  have hne : n ≠ 0 := by omega
  have hlog : 24 ≤ n.log2 := (Nat.le_log2 hne).mpr h
  rw [lastBit, ← Nat.pow_add, Nat.add_sub_of_le (by omega)]
  exact Nat.log2_self_le hne

theorem ofNat_of_lt {n : Nat} (h : n < 2 ^ 24) : ofNat n = n := by
  have hbit : lastBit n = 1 := by
    by_cases hzero : n = 0
    · rw [hzero]
      decide
    · have hlog : n.log2 < 24 := (Nat.log2_lt hzero).mpr h
      rw [lastBit, Nat.sub_eq_zero_of_le (by omega), Nat.pow_zero]
  rw [ofNat, hbit, divEven, Nat.mod_one, Nat.div_one, Nat.mul_one]
  exact if_pos (.inl (by decide))

theorem ofNat_near (n : Nat) : 2 ^ 24 * n ≤ 2 ^ 24 * ofNat n + n ∧
    2 ^ 24 * ofNat n ≤ 2 ^ 24 * n + n := by
  by_cases h : n < 2 ^ 24
  · rw [ofNat_of_lt h]
    omega
  · have hbit := lastBit_le (not_lt.mp h)
    have hnear := divEven_near n (show 0 < lastBit n from Nat.two_pow_pos _)
    unfold ofNat
    omega

/-- **How near it is.** -/
theorem ofInt_near (n : Int) : 2 ^ 24 * (ofInt n - n).natAbs ≤ n.natAbs := by
  cases n with
  | ofNat n =>
    have h := ofNat_near n
    show 2 ^ 24 * ((ofNat n : Int) - (n : Int)).natAbs ≤ n
    omega
  | negSucc n =>
    have h := ofNat_near (n + 1)
    show 2 ^ 24 * (-(ofNat (n + 1) : Int) - Int.negSucc n).natAbs ≤ n + 1
    omega

/-- Halfway between two floats. -/
example : ofInt (2 ^ 24 + 1) = 2 ^ 24 ∧ ofInt (-(2 ^ 24 + 3)) = -(2 ^ 24 + 4) := by decide

end Single
