import Solarbot.Nav.Steering

/-!
# Points on one meridian

On `ℝ`, the distance of two points of the meridian of Greenwich is the length of the arc
between them, and the bearing is due north or due south. The runs on fixed places that
need exact distances take place here.
-/

namespace Solarbot.Nav

/-- The point at this latitude. -/
def onMeridian (lat : ℝ) : Point ℝ := ⟨lat, 0⟩

/-- Half an angle of at most half a turn comes back from the square of its sine. -/
theorem arcsin_sqrt_sin_sq {x : ℝ} (h : |x| ≤ Real.pi / 2) :
    Real.arcsin (Real.sqrt (Real.sin x ^ 2)) = |x| := by
  have hx := abs_nonneg x
  have hsin : |Real.sin x| = Real.sin |x| :=
    Real.abs_sin_eq_sin_abs_of_abs_le_pi (by linarith [Real.pi_pos])
  rw [Real.sqrt_sq_eq_abs, hsin, Real.arcsin_sin (by linarith) h]

/-- The length of the arc, in metres. -/
theorem getDestination_onMeridian {a b : ℝ} (h : |b - a| ≤ 180) :
    (getDestination (onMeridian a) (onMeridian b)).distance =
      |b - a| * Real.pi / 180 * 6371000 := by
  have hpi := Real.pi_pos
  have hhalf : (b * Real.pi / 180 - a * Real.pi / 180) / 2 = (b - a) * (Real.pi / 360) := by ring
  have habs : |(b - a) * (Real.pi / 360)| = |b - a| * (Real.pi / 360) := by
    rw [abs_mul, abs_of_pos (div_pos hpi (by norm_num))]
  have hle : |(b - a) * (Real.pi / 360)| ≤ Real.pi / 2 := by
    rw [habs]
    nlinarith
  simp only [getDestination, degrees2Radians, onMeridian, earthRadius, real_num, real_pi, real_sin,
    real_cos, real_sq, real_asin, real_sqrt]
  push_cast
  rw [hhalf, zero_mul, zero_div, sub_self, zero_div, Real.sin_zero, zero_pow two_ne_zero, mul_zero,
    add_zero, arcsin_sqrt_sin_sq hle, habs]
  ring

/-- Due north. -/
theorem bearing_north {a b : ℝ} (h : a < b) :
    (getDestination (onMeridian a) (onMeridian b)).bearing = 0 := by
  have hlt : a * Real.pi / 180 < b * Real.pi / 180 := by
    have := Real.pi_pos
    gcongr
  simp only [getDestination, getBearing, degrees2Radians, onMeridian, real_num, real_pi, real_sin,
    real_cos, real_eq, real_lt]
  push_cast
  rw [zero_mul, zero_div, sub_self, Real.sin_zero, mul_zero, if_pos (by simp),
    if_pos (decide_eq_true hlt)]

/-- Due south. -/
theorem bearing_south {a b : ℝ} (h : b < a) :
    (getDestination (onMeridian a) (onMeridian b)).bearing = 180 := by
  have hle : b * Real.pi / 180 ≤ a * Real.pi / 180 := by
    have := Real.pi_pos
    gcongr
  simp only [getDestination, getBearing, degrees2Radians, onMeridian, real_num, real_pi, real_sin,
    real_cos, real_eq, real_lt]
  push_cast
  rw [zero_mul, zero_div, sub_self, Real.sin_zero, mul_zero, if_pos (by simp),
    if_neg (by simpa using hle)]

end Solarbot.Nav
