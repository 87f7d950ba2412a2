import Solarbot.Lib.Numerals

/-!
# Numbers as texts

What `printf` makes of a number: an integer with `%d` (`Numeral.ofInt`), and so many decimal
digits with leading zeros (`places`). A number that was printed is a numeral with its value, so
`atoi` reads it back.
-/

namespace CText

/-! ## Digits -/

/-- The characters of the digits follow each other. -/
theorem digitChar_toNat : ∀ {n : Nat}, n < 10 → n.digitChar.toNat = 48 + n := by decide

theorem digitChar_digit {n : Nat} (h : n < 10) : n.digitChar.isDigit = true := by
  rw [Nat.isDigit_digitChar]
  exact decide_eq_true h

theorem digitsVal_concat (ds : List Char) (d : Char) :
    digitsVal (ds ++ [d]) = 10 * digitsVal ds + (d.toNat - 48) := by
  rw [digitsVal, List.foldl_append]
  rfl

/-- The value of two rows of digits. -/
theorem digitsVal_append (ds es : List Char) :
    digitsVal (ds ++ es) = digitsVal ds * 10 ^ es.length + digitsVal es := by
  induction es using List.reverseRecOn with
  | nil => simp [digitsVal]
  | append_singleton es e ih =>
    rw [← List.append_assoc, digitsVal_concat, digitsVal_concat, ih, List.length_append,
      List.length_singleton, Nat.pow_succ]
    ring

/-- The digits of a number have its value. -/
theorem digitsVal_toDigits (n : Nat) : digitsVal (Nat.toDigits 10 n) = n :=
  Nat.ofDigitChars_ten_toDigits

/-- The last `k` digits of a number. -/
def places : Nat → Nat → List Char
  | 0, _ => []
  | k + 1, n => places k (n / 10) ++ [(n % 10).digitChar]

/-- There are as many digits as places. -/
@[simp] theorem places_length (k n : Nat) : (places k n).length = k := by
  induction k generalizing n with
  | zero => rfl
  | succ k ih => rw [places, List.length_append, ih, List.length_singleton]

/-- All of them are digits. -/
theorem places_digit (k n : Nat) : ∀ d ∈ places k n, d.isDigit = true := by
  induction k generalizing n with
  | zero => exact fun d hd => absurd hd List.not_mem_nil
  | succ k ih =>
    intro d hd
    rcases List.mem_append.mp hd with hd | hd
    · exact ih _ d hd
    · rw [List.mem_singleton.mp hd]
      exact digitChar_digit (Nat.mod_lt n (by decide))

/-- They have the value modulo the power of ten. -/
theorem digitsVal_places (k n : Nat) : digitsVal (places k n) = n % 10 ^ k := by
  induction k generalizing n with
  | zero => rw [Nat.pow_zero, Nat.mod_one]; rfl
  | succ k ih =>
    rw [places, digitsVal_concat, ih, digitChar_toNat (Nat.mod_lt n (by decide)), Nat.pow_succ',
      Nat.mod_mul]
    omega

theorem digitsVal_places_of_lt {k n : Nat} (h : n < 10 ^ k) : digitsVal (places k n) = n := by
  rw [digitsVal_places, Nat.mod_eq_of_lt h]

/-! ## Integers -/

namespace Numeral

/-- `%d`. -/
def ofInt (n : Int) : Numeral where
  sign := if n < 0 then .minus else .none
  digits := Nat.toDigits 10 n.natAbs
  digits_digit := fun _ hd => Nat.isDigit_of_mem_toDigits (by decide) (by decide) hd
  digits_ne := Nat.toDigits_ne_nil

/-- The numeral of an integer has its value. -/
theorem ofInt_value (n : Int) : (ofInt n).value = n := by
  unfold value ofInt
  dsimp only
  rw [digitsVal_toDigits]
  split
  · simp only [Sign.factor]
    omega
  · simp only [Sign.factor]
    omega

/-- It is what `%d` prints. -/
theorem ofInt_text (n : Int) : (ofInt n).text = (toString n).toList := by
  unfold text ofInt
  dsimp only
  cases n with
  | ofNat m =>
    rw [if_neg (by simp)]
    exact Nat.toList_repr.symm
  | negSucc m =>
    rw [if_pos (Int.negSucc_lt_zero m)]
    show _ = ("-" ++ Nat.repr (m + 1)).toList
    rw [String.toList_append, Nat.toList_repr]
    rfl

end Numeral

/-- What is printed in front of the point: the sign, and at least one digit. -/
def frontWidth (negative : Bool) (whole : Nat) : Nat :=
  (if negative then 1 else 0) + (Nat.toDigits 10 whole).length

/-- How long an integer is in print. -/
theorem toString_length (n : Int) :
    (toString n).toList.length = frontWidth (decide (n < 0)) n.natAbs := by
  rw [← Numeral.ofInt_text, Numeral.text, List.length_append]
  unfold Numeral.ofInt frontWidth
  dsimp only
  split
  next h => simp [h, Sign.text]
  next h => simp [h, Sign.text]

/-! ## Fixed decimals -/

section Fixed

variable {K : Type*} [Field K] [LinearOrder K] [FloorRing K]

/-- The integer nearest to a number, and the even one of two. -/
def roundHalfEven (x : K) : Int :=
  if x - ⌊x⌋ < ⌊x⌋ + 1 - x then ⌊x⌋
  else if ⌊x⌋ + 1 - x < x - ⌊x⌋ then ⌊x⌋ + 1
  else if ⌊x⌋ % 2 = 0 then ⌊x⌋ else ⌊x⌋ + 1

/-- The digits of `%.kf`, as an integer: the number without its sign, in units of the last
digit. -/
def units (k : Nat) (x : K) : Nat := (roundHalfEven (|x| * ((10 ^ k : ℕ) : K))).toNat

/-- `%.kf`, with a point. -/
def fixed (k : Nat) (x : K) : List Char :=
  (if x < 0 then ['-'] else []) ++
    Nat.toDigits 10 (units k x / 10 ^ k) ++ '.' :: places k (units k x)

/-- How long a number is in print. -/
theorem fixed_length (k : Nat) (x : K) :
    (fixed k x).length = frontWidth (decide (x < 0)) (units k x / 10 ^ k) + (k + 1) := by
  unfold fixed frontWidth
  rw [List.length_append, List.length_append, List.length_cons, places_length]
  by_cases h : x < 0
  · rw [if_pos h, if_pos (decide_eq_true h)]
    rfl
  · rw [if_neg h, if_neg (by simpa using h)]
    rfl

/-- A printed number has a sign, digits and a point. -/
theorem mem_fixed {k : Nat} {x : K} {c : Char} (h : c ∈ fixed k x) :
    c = '-' ∨ c = '.' ∨ c.isDigit = true := by
  unfold fixed at h
  rcases List.mem_append.mp h with h | h
  · rcases List.mem_append.mp h with h | h
    · split at h
      · exact .inl (List.mem_singleton.mp h)
      · exact absurd h List.not_mem_nil
    · exact .inr (.inr (Nat.isDigit_of_mem_toDigits (by decide) (by decide) h))
  · rcases List.mem_cons.mp h with h | h
    · exact .inr (.inl h)
    · exact .inr (.inr (places_digit _ _ _ h))

variable [IsStrictOrderedRing K]

/-- An integer is not rounded. -/
theorem roundHalfEven_intCast (n : Int) : roundHalfEven (n : K) = n := by
  have hnearer : (n : K) - n < n + 1 - n := by simp
  unfold roundHalfEven
  rw [Int.floor_intCast, if_pos hnearer]

/-- Rounding does not pass an integer. -/
theorem roundHalfEven_le {x : K} {n : Int} (h : x ≤ n) : roundHalfEven x ≤ n := by
  rcases h.lt_or_eq with hlt | rfl
  · have hfloor : ⌊x⌋ < n := Int.floor_lt.mpr hlt
    unfold roundHalfEven
    split
    · omega
    · split
      · omega
      · split <;> omega
  · rw [roundHalfEven_intCast]

/-- A bounded number has bounded digits. -/
theorem units_le {k n : Nat} {x : K} (h : |x| ≤ n) : units k x ≤ n * 10 ^ k := by
  have hscaled : |x| * ((10 ^ k : ℕ) : K) ≤ ((n * 10 ^ k : ℕ) : ℤ) := by
    rw [Int.cast_natCast, Nat.cast_mul]
    exact mul_le_mul_of_nonneg_right h (Nat.cast_nonneg _)
  have hround := roundHalfEven_le hscaled
  unfold units
  omega

/-- How much is printed of a number with at most `j` digits in front of its point. -/
theorem fixed_length_le {k j n : Nat} {x : K} (hj : 0 < j) (hn : n < 10 ^ j) (h : |x| ≤ n) :
    (fixed k x).length ≤ 1 + j + (k + 1) := by
  have hwhole : units k x / 10 ^ k < 10 ^ j :=
    lt_of_le_of_lt (Nat.div_le_of_le_mul (by rw [Nat.mul_comm]; exact units_le h)) hn
  have hdigits := (Nat.length_toDigits_le_iff (b := 10) (by decide) hj).mpr hwhole
  rw [fixed_length]
  unfold frontWidth
  split <;> omega

/-- The digits of an integer end in zeros. -/
theorem units_natCast (k n : Nat) : units k (n : K) = n * 10 ^ k := by
  have hcast : |(n : K)| * ((10 ^ k : ℕ) : K) = ((n * 10 ^ k : ℕ) : ℤ) := by
    rw [Nat.abs_cast, Int.cast_natCast, Nat.cast_mul]
  rw [units, hcast, roundHalfEven_intCast, Int.toNat_natCast]

end Fixed

example : fixed 2 (-1 / 8 : ℚ) = "-0.12".toList := by decide +kernel

end CText
