import Solarbot.Lib.CText

/-!
# The arithmetic of the navigator

The navigator computes with `double` and the functions of `<math.h>`. The model
takes both as a parameter: `Dbl D` is the arithmetic the source uses, by its
operations only. What the source decides by comparing two doubles goes through
`Dbl.lt` and `Dbl.eq`, which a not-a-number may answer any way it likes, so that
a theorem about every `D` holds of the machine's doubles as well.

The instance on `ℝ` reads the doubles as exact real numbers.
-/

namespace Solarbot.Nav

/-- The operations of `double` and `<math.h>` the source uses. -/
class Dbl (D : Type) extends Add D, Sub D, Mul D, Div D, Neg D where
  /-- A literal, or an `int` converted to `double`. -/
  num : Rat → D
  /-- `M_PI`. -/
  pi : D
  /-- `DBL_MAX`. -/
  max : D
  sin : D → D
  cos : D → D
  asin : D → D
  sqrt : D → D
  atan2 : D → D → D
  /-- `pow(x, 2)`: the source raises to no other power. -/
  sq : D → D
  abs : D → D
  /-- `x < y`. -/
  lt : D → D → Bool
  /-- `x == y`. -/
  eq : D → D → Bool
  /-- `(int) x`: the fraction is dropped. -/
  toInt : D → Int
  /-- `strtold(s, NULL)`, stored in a `double`. -/
  strtold : List Char → D

export Dbl (num)

/-- `DBL_MAX` of the IEEE 754 binary64 format. -/
def dblMax : Rat := (2 ^ 53 - 1) * 2 ^ 971

/-- Truncation towards zero. -/
noncomputable def truncReal (x : ℝ) : Int := if x < 0 then ⌈x⌉ else ⌊x⌋

noncomputable instance : Dbl ℝ where
  num q := q
  pi := Real.pi
  max := dblMax
  sin := Real.sin
  cos := Real.cos
  asin := Real.arcsin
  sqrt := Real.sqrt
  atan2 y x := Complex.arg ⟨x, y⟩
  sq x := x ^ 2
  abs x := |x|
  lt x y := decide (x < y)
  eq x y := decide (x = y)
  toInt := truncReal
  strtold s := CText.atof s

/-! ## Reading the operations back on `ℝ` -/

section Real

variable (x y : ℝ)

@[simp] theorem real_num (q : Rat) : (num q : ℝ) = q := rfl

@[simp] theorem real_pi : (Dbl.pi : ℝ) = Real.pi := rfl

@[simp] theorem real_max : (Dbl.max : ℝ) = dblMax := rfl

@[simp] theorem real_sin : Dbl.sin x = Real.sin x := rfl

@[simp] theorem real_cos : Dbl.cos x = Real.cos x := rfl

@[simp] theorem real_asin : Dbl.asin x = Real.arcsin x := rfl

@[simp] theorem real_sqrt : Dbl.sqrt x = Real.sqrt x := rfl

@[simp] theorem real_sq : Dbl.sq x = x ^ 2 := rfl

@[simp] theorem real_abs : Dbl.abs x = |x| := rfl

@[simp] theorem real_lt : Dbl.lt x y = decide (x < y) := rfl

@[simp] theorem real_eq : Dbl.eq x y = decide (x = y) := rfl

@[simp] theorem real_toInt : Dbl.toInt x = truncReal x := rfl

theorem truncReal_of_nonneg {x : ℝ} (h : 0 ≤ x) : truncReal x = ⌊x⌋ := if_neg (not_lt.mpr h)

/-- The sign does not matter to what is cut off. -/
theorem truncReal_neg : truncReal (-x) = -truncReal x := by
  unfold truncReal
  rcases lt_trichotomy x 0 with h | rfl | h
  · rw [if_neg (by linarith), if_pos h, Int.floor_neg]
  · simp
  · rw [if_pos (by linarith), if_neg (by linarith), Int.ceil_neg]

/-- Nothing becomes negative. -/
theorem truncReal_nonneg {x : ℝ} (h : 0 ≤ x) : 0 ≤ truncReal x := by
  rw [truncReal_of_nonneg h]
  exact Int.floor_nonneg.mpr h

/-- A bound by an integer is one on the number itself. -/
theorem truncReal_le_iff {x : ℝ} (h : 0 ≤ x) (n : Int) : truncReal x ≤ n ↔ x < n + 1 := by
  rw [truncReal_of_nonneg h, ← Int.lt_add_one_iff, Int.floor_lt]
  push_cast
  exact Iff.rfl

end Real

end Solarbot.Nav
