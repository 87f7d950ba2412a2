import Solarbot.Nav.DestinationPoint

/-!
# How far off a bearing is

`GetBearing` drops the fraction of an angle that is counted from north to either side, so what
it returns lies between the direction of the great circle and north, less than a degree off
(`getBearing_near`). That is the heading the main loop computes of its two antennas. The
condition is that they are in two places: for one place twice the answer is 180.
-/

namespace Solarbot.Nav

open Sphere

/-- The direction of the great circle from one point to another, in degrees from north. -/
noncomputable def direction (p q : Point ℝ) : ℝ :=
  Complex.arg ⟨north (degrees2Radians p.lat) (degrees2Radians q.lat)
      (degrees2Radians q.lon - degrees2Radians p.lon),
    east (degrees2Radians q.lat) (degrees2Radians q.lon - degrees2Radians p.lon)⟩ *
      (180 : ℕ) / Real.pi

/-- Dropping the fraction, an angle stays on its side and is less than one off. -/
theorem truncReal_near (x : ℝ) : |(truncReal x : ℝ)| ≤ |x| ∧ |x - truncReal x| < 1 := by
  unfold truncReal
  split
  next hneg =>
    have hle := Int.le_ceil x
    have hlt := Int.ceil_lt_add_one x
    have hnonpos : (⌈x⌉ : ℝ) ≤ 0 := by exact_mod_cast Int.ceil_le.mpr (by simpa using hneg.le)
    rw [abs_of_nonpos hnonpos, abs_of_neg hneg, abs_lt]
    exact ⟨by linarith, by linarith, by linarith⟩
  next hpos =>
    have hle := Int.floor_le x
    have hlt := Int.lt_floor_add_one x
    have hnonneg : (0 : ℝ) ≤ ⌊x⌋ := by exact_mod_cast Int.floor_nonneg.mpr (not_lt.mp hpos)
    rw [abs_of_nonneg hnonneg, abs_of_nonneg (not_lt.mp hpos), abs_lt]
    exact ⟨by linarith, by linarith, by linarith⟩

theorem direction_mem (p q : Point ℝ) : -180 < direction p q ∧ direction p q ≤ 180 := by
  obtain ⟨hlo, hhi⟩ := Complex.arg_mem_Ioc ⟨north (degrees2Radians p.lat) (degrees2Radians q.lat)
      (degrees2Radians q.lon - degrees2Radians p.lon),
    east (degrees2Radians q.lat) (degrees2Radians q.lon - degrees2Radians p.lon)⟩
  have hpi := Real.pi_pos
  rw [direction, Nat.cast_ofNat, lt_div_iff₀ hpi, div_le_iff₀ hpi]
  exact ⟨by nlinarith, by nlinarith⟩

/-- Two places on one meridian: the direction is due north or due south. -/
theorem direction_meridian {p q : Point ℝ} (hlat : |p.lat| < 90) (hlat' : |q.lat| < 90)
    (hlon : degrees2Radians q.lon - degrees2Radians p.lon = 0) (hne : p.lat ≠ q.lat) :
    direction p q = if p.lat < q.lat then 0 else 180 := by
  have hpi := Real.pi_pos
  obtain ⟨hlo, hhi⟩ := abs_lt.mp hlat
  obtain ⟨hlo', hhi'⟩ := abs_lt.mp hlat'
  have hnorth : north (degrees2Radians p.lat) (degrees2Radians q.lat) 0 =
      Real.sin ((q.lat - p.lat) * (Real.pi / 180)) := by
    rw [north, Real.cos_zero, mul_one, degrees2Radians_eq, degrees2Radians_eq, sub_mul,
      Real.sin_sub]
    ring
  have heast : east (degrees2Radians q.lat) 0 = 0 := by rw [east, Real.sin_zero, mul_zero]
  rw [direction, Nat.cast_ofNat, hlon, hnorth, heast]
  split
  next hlt =>
    have hpos : 0 ≤ Real.sin ((q.lat - p.lat) * (Real.pi / 180)) :=
      Real.sin_nonneg_of_nonneg_of_le_pi (by nlinarith) (by nlinarith)
    rw [show (⟨_, 0⟩ : ℂ) = ((Real.sin ((q.lat - p.lat) * (Real.pi / 180)) : ℝ) : ℂ) from rfl,
      Complex.arg_ofReal_of_nonneg hpos]
    simp
  next hge =>
    have hlt : q.lat < p.lat := lt_of_le_of_ne (not_lt.mp hge) (Ne.symm hne)
    have hneg : Real.sin ((q.lat - p.lat) * (Real.pi / 180)) < 0 :=
      Real.sin_neg_of_neg_of_neg_pi_lt (by nlinarith) (by nlinarith)
    rw [show (⟨_, 0⟩ : ℂ) = ((Real.sin ((q.lat - p.lat) * (Real.pi / 180)) : ℝ) : ℂ) from rfl,
      Complex.arg_ofReal_of_neg hneg]
    field_simp

/-- **A bearing is less than a degree off.** Between two places off the poles and on one side of
the antimeridian, `GetBearing` is in `[0, 360)`, and it is the direction of the great circle with
the fraction of its angle to north dropped. -/
theorem getBearing_near {p q : Point ℝ} (hlat : |p.lat| < 90) (hlat' : |q.lat| < 90)
    (hlon : |q.lon - p.lon| < 180) (hne : ¬ (p.lat = q.lat ∧ p.lon = q.lon)) :
    ∃ c : Int, |(c : ℝ)| ≤ |direction p q| ∧ |direction p q - c| < 1 ∧
      getBearing p q = ((c + 360) % 360 : Int) := by
  have hpi := Real.pi_pos
  by_cases heast : east (degrees2Radians q.lat) (degrees2Radians q.lon - degrees2Radians p.lon) = 0
  · -- on one meridian
    have hcos := cos_degrees_pos hlat'
    have hsin : Real.sin (degrees2Radians q.lon - degrees2Radians p.lon) = 0 :=
      (mul_eq_zero.mp heast).resolve_left hcos.ne'
    have hscale : degrees2Radians q.lon - degrees2Radians p.lon =
        (q.lon - p.lon) * (Real.pi / 180) := by
      rw [degrees2Radians_eq, degrees2Radians_eq, sub_mul]
    obtain ⟨hlo, hhi⟩ := abs_lt.mp hlon
    have hzero : degrees2Radians q.lon - degrees2Radians p.lon = 0 := by
      refine (Real.sin_eq_zero_iff_of_lt_of_lt ?_ ?_).mp hsin
      · rw [hscale]
        nlinarith
      · rw [hscale]
        nlinarith
    have hsame : q.lon - p.lon = 0 := by
      rw [hscale] at hzero
      exact (mul_eq_zero.mp hzero).resolve_right (by positivity)
    have hdiffer : p.lat ≠ q.lat := fun h => hne ⟨h, by linarith⟩
    have horder : degrees2Radians p.lat < degrees2Radians q.lat ↔ p.lat < q.lat := by
      rw [degrees2Radians_eq, degrees2Radians_eq]
      exact mul_lt_mul_iff_left₀ (by positivity)
    rw [getBearing_eq, if_pos heast, direction_meridian hlat hlat' hzero hdiffer]
    by_cases hlt : p.lat < q.lat
    · rw [if_pos (horder.mpr hlt), if_pos hlt]
      exact ⟨0, by norm_num, by norm_num, by norm_num⟩
    · rw [if_neg (fun h => hlt (horder.mp h)), if_neg hlt]
      exact ⟨180, by norm_num, by norm_num, by norm_num⟩
  · -- otherwise the arc tangent is cut to a whole degree, towards zero
    obtain ⟨hle, hlt⟩ := truncReal_near (direction p q)
    obtain ⟨hlo, hhi⟩ := direction_mem p q
    refine ⟨truncReal (direction p q), hle, hlt, ?_⟩
    have hnonneg : 0 ≤ truncReal (direction p q) + 360 := by
      have : (-181 : ℝ) < truncReal (direction p q) := by
        have := (abs_lt.mp hlt).2
        linarith
      have : (-181 : Int) < truncReal (direction p q) := by exact_mod_cast this
      omega
    rw [getBearing_eq, if_neg heast, ← Int.tmod_eq_emod_of_nonneg hnonneg]
    rfl

/-- The antennas of a rover that faces north-east. -/
theorem getBearing_near_northEast : ∃ c : Int, |(c : ℝ)| ≤ |direction ⟨0, 0⟩ ⟨1, 1⟩| ∧
    |direction ⟨0, 0⟩ ⟨1, 1⟩ - c| < 1 ∧ getBearing ⟨0, 0⟩ ⟨1, 1⟩ = (((c + 360) % 360 : Int) : ℝ) :=
  getBearing_near (by norm_num) (by norm_num) (by norm_num) (by norm_num)

end Solarbot.Nav
