import Mathlib

/-!
# Going along a great circle

Two points on the sphere are at latitudes `a` and `b`, and `l` is the difference of their
longitudes, all in radians. `cosArc` is the cosine of the arc between them, and `north` and
`east` are the components of the direction in which the arc leaves the first point, scaled by
the sine of the arc.

`latitude` and `longitude` are where one gets to from the latitude `a` along an arc `d` in the
direction `t`. The theorems say that this is so: the arc to that point is `d`
(`cosArc_destination`) and it leaves in the direction `t` (`north_destination`,
`east_destination`).
-/

namespace Sphere

open Real

noncomputable section

/-- The cosine of the arc. -/
def cosArc (a b l : ℝ) : ℝ := sin a * sin b + cos a * cos b * cos l

def north (a b l : ℝ) : ℝ := sin b * cos a - sin a * cos b * cos l

def east (b l : ℝ) : ℝ := cos b * sin l

/-- The sine of the latitude at the end of the arc. -/
def sinLatitude (a d t : ℝ) : ℝ := sin a * cos d + cos a * sin d * cos t

def latitude (a d t : ℝ) : ℝ := arcsin (sinLatitude a d t)

/-- The difference of longitude at the end of the arc. -/
def longitude (a d t : ℝ) : ℝ :=
  Complex.arg ⟨cos d - sin a * sin (latitude a d t), sin t * sin d * cos a⟩

/-! ## The end of an arc -/

variable {a d t : ℝ}

theorem sinLatitude_sq_le (a d t : ℝ) : sinLatitude a d t ^ 2 ≤ 1 := by
  have ha := sin_sq_add_cos_sq a
  have hd := sin_sq_add_cos_sq d
  have ht := sin_sq_add_cos_sq t
  have hrest : 1 - sinLatitude a d t ^ 2 =
      (cos a * cos d - sin a * sin d * cos t) ^ 2 + (sin d * sin t) ^ 2 := by
    unfold sinLatitude
    linear_combination (-(cos d ^ 2) - sin d ^ 2 * cos t ^ 2) * ha - hd - sin d ^ 2 * ht
  nlinarith [sq_nonneg (cos a * cos d - sin a * sin d * cos t), sq_nonneg (sin d * sin t)]

theorem sin_latitude (a d t : ℝ) : sin (latitude a d t) = sinLatitude a d t := by
  obtain ⟨hlo, hhi⟩ := abs_le.mp (sq_le_one_iff_abs_le_one _ |>.mp (sinLatitude_sq_le a d t))
  exact sin_arcsin hlo hhi

theorem cos_latitude_nonneg (a d t : ℝ) : 0 ≤ cos (latitude a d t) := cos_arcsin_nonneg _

theorem cos_latitude_sq (a d t : ℝ) : cos (latitude a d t) ^ 2 = 1 - sinLatitude a d t ^ 2 := by
  rw [cos_sq', sin_latitude]

/-- The legs of the difference of longitude have the product of the cosines for their
hypotenuse. -/
theorem norm_longitude (ha : 0 ≤ cos a) :
    ‖(⟨cos d - sin a * sin (latitude a d t), sin t * sin d * cos a⟩ : ℂ)‖ =
      cos a * cos (latitude a d t) := by
  have hsquare : (cos d - sin a * sinLatitude a d t) ^ 2 + (sin t * sin d * cos a) ^ 2 =
      (cos a * cos (latitude a d t)) ^ 2 := by
    have ha' := sin_sq_add_cos_sq a
    have hd := sin_sq_add_cos_sq d
    have ht := sin_sq_add_cos_sq t
    rw [mul_pow (cos a), cos_latitude_sq]
    unfold sinLatitude
    linear_combination ((sin a * cos d + cos a * sin d * cos t) ^ 2 - cos d ^ 2) * ha' +
      cos a ^ 2 * sin d ^ 2 * ht + cos a ^ 2 * hd
  rw [Complex.norm_eq_sqrt_sq_add_sq, sin_latitude, hsquare]
  exact sqrt_sq (mul_nonneg ha (cos_latitude_nonneg ..))

theorem cos_longitude (ha : 0 ≤ cos a) : cos a * cos (latitude a d t) * cos (longitude a d t) =
    cos d - sin a * sinLatitude a d t := by
  rw [← norm_longitude ha, longitude, Complex.norm_mul_cos_arg, sin_latitude]

theorem sin_longitude (ha : 0 ≤ cos a) : cos a * cos (latitude a d t) * sin (longitude a d t) =
    sin t * sin d * cos a := by
  rw [← norm_longitude ha, longitude, Complex.norm_mul_sin_arg]

/-- **The arc to its end.** -/
theorem cosArc_destination (ha : 0 ≤ cos a) (d t : ℝ) :
    cosArc a (latitude a d t) (longitude a d t) = cos d := by
  rw [cosArc, cos_longitude ha, sin_latitude]
  ring

theorem east_destination (ha : 0 < cos a) (d t : ℝ) :
    east (latitude a d t) (longitude a d t) = sin d * sin t := by
  have h := sin_longitude (d := d) (t := t) ha.le
  unfold east
  apply mul_left_cancel₀ ha.ne'
  linear_combination h

theorem north_destination (ha : 0 < cos a) (d t : ℝ) :
    north a (latitude a d t) (longitude a d t) = sin d * cos t := by
  have h := cos_longitude (d := d) (t := t) ha.le
  have ha' := sin_sq_add_cos_sq a
  unfold north
  rw [sin_latitude]
  apply mul_left_cancel₀ ha.ne'
  have hlat : sinLatitude a d t = sin a * cos d + cos a * sin d * cos t := rfl
  linear_combination -sin a * h + sinLatitude a d t * ha' + hlat

/-- **Two places on one great circle** are as far apart as their arcs from the beginning
differ. -/
theorem cosArc_along (ha : 0 < cos a) (d e t : ℝ) :
    cosArc (latitude a d t) (latitude a e t) (longitude a e t - longitude a d t) = cos (e - d) := by
  -- seen from the axis, the longitude of the end of an arc
  have hlong : ∀ d, cos (latitude a d t) * cos (longitude a d t) =
      cos a * cos d - sin a * sin d * cos t := by
    intro d
    have h := cos_longitude (d := d) (t := t) ha.le
    have ha' := sin_sq_add_cos_sq a
    apply mul_left_cancel₀ ha.ne'
    unfold sinLatitude at h
    linear_combination h - cos d * ha'
  have hd := east_destination ha d t
  have he := east_destination ha e t
  have ha' := sin_sq_add_cos_sq a
  have ht := sin_sq_add_cos_sq t
  unfold east at hd he
  rw [cosArc, cos_sub, cos_sub, sin_latitude, sin_latitude]
  have hcos : cos (latitude a d t) * cos (latitude a e t) * (cos (longitude a e t) *
      cos (longitude a d t) + sin (longitude a e t) * sin (longitude a d t)) =
      (cos a * cos d - sin a * sin d * cos t) * (cos a * cos e - sin a * sin e * cos t) +
        sin d * sin t * (sin e * sin t) := by
    rw [← hlong d, ← hlong e, ← hd, ← he]
    ring
  rw [hcos]
  unfold sinLatitude
  linear_combination (cos d * cos e + sin d * sin e * cos t ^ 2) * ha' + sin d * sin e * ht

/-! ## Directions -/

/-- The direction, from its components. -/
theorem arg_direction {d t : ℝ} (hd : 0 < sin d) (ht : t ∈ Set.Ioc (-π) π) :
    Complex.arg ⟨sin d * cos t, sin d * sin t⟩ = t := by
  have hpolar : (⟨sin d * cos t, sin d * sin t⟩ : ℂ) =
      (sin d : ℂ) * (Complex.cos t + Complex.sin t * Complex.I) := by
    apply Complex.ext <;> simp [← Complex.ofReal_sin, ← Complex.ofReal_cos]
  rw [hpolar]
  exact Complex.arg_mul_cos_add_sin_mul_I hd ht

/-- Due north, short of the pole. -/
theorem latitude_north (h : |a| + d ≤ π / 2) (hd : 0 ≤ d) : latitude a d 0 = a + d := by
  obtain ⟨hlo, hhi⟩ := abs_le.mp (le_of_add_le_of_nonneg_left h hd)
  have hle := le_abs_self a
  rw [latitude, sinLatitude, cos_zero, mul_one, ← sin_add]
  exact arcsin_sin (by linarith) (by linarith)

/-- Due south. -/
theorem latitude_south (h : |a| + d ≤ π / 2) (hd : 0 ≤ d) : latitude a d π = a - d := by
  have hle := neg_abs_le a
  have hle' := le_abs_self a
  rw [latitude, sinLatitude, cos_pi, mul_neg_one, ← sub_eq_add_neg, ← sin_sub]
  exact arcsin_sin (by linarith) (by linarith)

/-- Neither north nor south, short of the pole, does one leave the meridian. -/
theorem longitude_meridian (h : |a| + d ≤ π / 2) (hd : 0 ≤ d) (ht : t = 0 ∨ t = π) :
    longitude a d t = 0 := by
  have hle := neg_abs_le a
  have hle' := le_abs_self a
  have hcos : 0 ≤ cos a := cos_nonneg_of_mem_Icc ⟨by linarith, by linarith⟩
  have hsin : sin t = 0 := by
    rcases ht with rfl | rfl
    · exact sin_zero
    · exact sin_pi
  have hreal : 0 ≤ cos d - sin a * sin (latitude a d t) := by
    rcases ht with rfl | rfl
    · have hsplit : cos d = cos (a + d) * cos a + sin (a + d) * sin a := by
        rw [← cos_sub, add_sub_cancel_left]
      have hend : 0 ≤ cos (a + d) := cos_nonneg_of_mem_Icc ⟨by linarith, by linarith⟩
      rw [latitude_north h hd, hsplit]
      nlinarith [mul_nonneg hend hcos]
    · have hsplit : cos d = cos a * cos (a - d) + sin a * sin (a - d) := by
        rw [← cos_sub, sub_sub_cancel]
      have hend : 0 ≤ cos (a - d) := cos_nonneg_of_mem_Icc ⟨by linarith, by linarith⟩
      rw [latitude_south h hd, hsplit]
      nlinarith [mul_nonneg hcos hend]
  have hpoint : (⟨cos d - sin a * sin (latitude a d t), sin t * sin d * cos a⟩ : ℂ) =
      ((cos d - sin a * sin (latitude a d t) : ℝ) : ℂ) := by
    apply Complex.ext
    · rfl
    · rw [hsin, zero_mul, zero_mul]
      rfl
  rw [longitude, hpoint, Complex.arg_ofReal_of_nonneg hreal]

end

end Sphere
