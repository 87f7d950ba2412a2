import Solarbot.Nav.Meridian

/-!
# Three functions for one distance

`DistanceBetweenTwoPoint` on four numbers, its overload on two points and
`GetDestination` are all haversine distances, of an angle whose cosine is `cosAngle`
(`distanceBetweenTwoPoint_eq`). The overload on two points converts to radians and calls the
one on four numbers, which converts again: it is the distance of two other points
(`radians`).

`distances_agree_iff` says for which points that makes no difference: the same point twice, and
those places close to a pole or on either side of the antimeridian where the angle comes
out as if by accident. Anywhere else the overload falls short (`cosAngle_lt_radians`).
-/

namespace Solarbot.Nav

/-- The cosine of the angle between two points, seen from the centre of the Earth. -/
noncomputable def cosAngle (p q : Point ℝ) : ℝ :=
  Real.sin (degrees2Radians p.lat) * Real.sin (degrees2Radians q.lat) +
    Real.cos (degrees2Radians p.lat) * Real.cos (degrees2Radians q.lat) *
      Real.cos (degrees2Radians q.lon - degrees2Radians p.lon)

/-- The coordinates in radians, taken for degrees. -/
noncomputable def radians (p : Point ℝ) : Point ℝ :=
  ⟨degrees2Radians p.lat, degrees2Radians p.lon⟩

/-- The angle between the two points is what it is when their coordinates are converted twice. -/
def SameAngle (p q : Point ℝ) : Prop := cosAngle p q = cosAngle (radians p) (radians q)

theorem degrees2Radians_eq (x : ℝ) : degrees2Radians x = x * (Real.pi / 180) := by
  simp only [degrees2Radians, real_pi, real_num]
  push_cast
  ring

/-- The cosine, by the differences of the coordinates. -/
theorem cosAngle_eq (p q : Point ℝ) : cosAngle p q =
    Real.cos (degrees2Radians q.lat - degrees2Radians p.lat) -
      Real.cos (degrees2Radians p.lat) * Real.cos (degrees2Radians q.lat) *
        (1 - Real.cos (degrees2Radians q.lon - degrees2Radians p.lon)) := by
  rw [cosAngle, Real.cos_sub (degrees2Radians q.lat)]
  ring

/-! ## The haversine -/

theorem cosAngle_mem (p q : Point ℝ) : -1 ≤ cosAngle p q ∧ cosAngle p q ≤ 1 := by
  unfold cosAngle
  generalize degrees2Radians p.lat = a
  generalize degrees2Radians q.lat = b
  generalize degrees2Radians q.lon - degrees2Radians p.lon = c
  have ha := Real.sin_sq_add_cos_sq a
  have hb := Real.sin_sq_add_cos_sq b
  have hc := Real.sin_sq_add_cos_sq c
  have hbc : (Real.cos b * Real.cos c) ^ 2 ≤ Real.cos b ^ 2 := by
    rw [mul_pow]
    nlinarith [mul_nonneg (sq_nonneg (Real.cos b)) (sq_nonneg (Real.sin c))]
  constructor
  · nlinarith [sq_nonneg (Real.sin a + Real.sin b),
      sq_nonneg (Real.cos a + Real.cos b * Real.cos c)]
  · nlinarith [sq_nonneg (Real.sin a - Real.sin b),
      sq_nonneg (Real.cos a - Real.cos b * Real.cos c)]

/-- What is under the root. -/
theorem haversine_eq (a b c : ℝ) :
    Real.sin ((b - a) / 2) ^ 2 + Real.cos a * Real.cos b * Real.sin (c / 2) ^ 2 =
      (1 - (Real.cos (b - a) - Real.cos a * Real.cos b * (1 - Real.cos c))) / 2 := by
  have hhalf : ∀ x : ℝ, Real.sin (x / 2) ^ 2 = (1 - Real.cos x) / 2 := by
    intro x
    rw [Real.sin_sq_eq_half_sub, mul_div_cancel₀ x two_ne_zero]
    ring
  rw [hhalf, hhalf]
  ring

/-- The distance of an angle with this cosine. -/
noncomputable def arcLength (c : ℝ) : ℝ := 12742000 * Real.arcsin (Real.sqrt ((1 - c) / 2))

theorem arcLength_inj {c c' : ℝ} (h : -1 ≤ c ∧ c ≤ 1) (h' : -1 ≤ c' ∧ c' ≤ 1) :
    arcLength c = arcLength c' ↔ c = c' := by
  have hroot : ∀ x : ℝ, -1 ≤ x ∧ x ≤ 1 → -1 ≤ Real.sqrt ((1 - x) / 2) ∧
      Real.sqrt ((1 - x) / 2) ≤ 1 := by
    intro x hx
    refine ⟨by linarith [Real.sqrt_nonneg ((1 - x) / 2)], ?_⟩
    rw [Real.sqrt_le_one]
    linarith [hx.1]
  obtain ⟨hlo, hhi⟩ := hroot c h
  obtain ⟨hlo', hhi'⟩ := hroot c' h'
  rw [arcLength, arcLength, mul_right_inj' (by norm_num), Real.arcsin_inj hlo hhi hlo' hhi',
    Real.sqrt_inj (by linarith [h.2]) (by linarith [h'.2])]
  constructor
  · intro heq
    linarith
  · rintro rfl
    rfl

theorem distanceBetweenTwoPoint_eq (p q : Point ℝ) :
    distanceBetweenTwoPoint p.lat p.lon q.lat q.lon = arcLength (cosAngle p q) := by
  rw [cosAngle_eq, arcLength, ← haversine_eq]
  simp only [distanceBetweenTwoPoint, degrees2Radians, earthRadius, real_num, real_pi, real_sin,
    real_cos, real_asin, real_sqrt]
  push_cast
  rw [show (2 : ℝ) * 6371000 = 12742000 by norm_num, mul_assoc _ (Real.sin _), ← sq, ← sq]

theorem getDestination_distance_eq (p q : Point ℝ) :
    (getDestination p q).distance = arcLength (cosAngle p q) := by
  rw [cosAngle_eq, arcLength, ← haversine_eq]
  simp only [getDestination, degrees2Radians, earthRadius, real_num, real_pi, real_sin,
    real_cos, real_sq, real_asin, real_sqrt]
  push_cast
  ring

theorem distanceBetweenPoints_eq (p q : Point ℝ) :
    distanceBetweenPoints p q = arcLength (cosAngle (radians p) (radians q)) :=
  distanceBetweenTwoPoint_eq (radians p) (radians q)

/-! ## The angle between points that are far from the poles -/

/-- The cosine of a latitude of at most 88 degrees. -/
theorem cos_latitude {lat : ℝ} (h : |lat| ≤ 88) : 0.034 ≤ Real.cos (degrees2Radians lat) := by
  have hpi := Real.pi_gt_d2
  have hpi' := Real.pi_lt_d2
  have habs : |lat * (Real.pi / 180)| = |lat| * (Real.pi / 180) := by
    rw [abs_mul, abs_of_pos (div_pos Real.pi_pos (by norm_num))]
  have hle : |lat * (Real.pi / 180)| ≤ Real.pi / 2 - Real.pi / 90 := by
    rw [habs]
    nlinarith
  have hcube : (Real.pi / 90) ^ 3 / 6 ≤ 0.00001 := by
    have hbound : Real.pi / 90 ≤ 0.035 := by linarith
    have hpow : (Real.pi / 90) ^ 3 ≤ 0.035 ^ 3 := pow_le_pow_left₀ (by positivity) hbound 3
    norm_num at hpow ⊢
    linarith
  rw [degrees2Radians_eq, ← Real.cos_abs]
  calc (0.034 : ℝ) ≤ Real.pi / 90 - (Real.pi / 90) ^ 3 / 6 := by linarith
    _ ≤ Real.sin (Real.pi / 90) := (Real.sin_gt_sub_cube (by positivity)).le
    _ = Real.cos (Real.pi / 2 - Real.pi / 90) := (Real.cos_pi_div_two_sub _).symm
    _ ≤ Real.cos |lat * (Real.pi / 180)| :=
      Real.cos_le_cos_of_nonneg_of_le_pi (abs_nonneg _) (by linarith) hle

/-- The chord bounds the cosine from above. -/
theorem cos_degrees_le {x : ℝ} (h : |x| ≤ 180) :
    Real.cos (x * (Real.pi / 180)) ≤ 1 - x ^ 2 / 16200 := by
  have hpi := Real.pi_pos
  have hle : |x * (Real.pi / 180)| ≤ Real.pi := by
    rw [abs_mul, abs_of_pos (div_pos hpi (by norm_num))]
    nlinarith
  have hscale : 2 / Real.pi ^ 2 * (x * (Real.pi / 180)) ^ 2 = x ^ 2 / 16200 := by
    field_simp
    ring
  have hcos := Real.cos_le_one_sub_mul_cos_sq hle
  rwa [hscale] at hcos

/-- The parabola bounds the cosine of a doubly converted angle from below. -/
theorem le_cos_radians (x : ℝ) :
    1 - x ^ 2 / 20000000 ≤ Real.cos (x * (Real.pi / 180) * (Real.pi / 180)) := by
  have hpi : Real.pi ^ 2 ≤ 10 := by
    have hlt := Real.pi_lt_d2
    have hpos := Real.pi_pos
    nlinarith
  have hfour : Real.pi ^ 4 ≤ 100 := by
    have hpos := sq_nonneg Real.pi
    calc Real.pi ^ 4 = Real.pi ^ 2 * Real.pi ^ 2 := by ring
      _ ≤ 10 * 10 := mul_le_mul hpi hpi hpos (by norm_num)
      _ = 100 := by norm_num
  have hx := sq_nonneg x
  have hcos : 1 - (x * (Real.pi / 180) * (Real.pi / 180)) ^ 2 / 2 ≤
      Real.cos (x * (Real.pi / 180) * (Real.pi / 180)) := Real.one_sub_sq_div_two_le_cos
  have hscale : (x * (Real.pi / 180) * (Real.pi / 180)) ^ 2 / 2 =
      x ^ 2 * Real.pi ^ 4 / 2099520000 := by ring
  rw [hscale] at hcos
  nlinarith

/-- **The second conversion shortens the angle**, unless one of the points is within two degrees
of a pole or their longitudes differ by more than half a turn. -/
theorem cosAngle_lt_radians {p q : Point ℝ} (hp : |p.lat| ≤ 88) (hq : |q.lat| ≤ 88)
    (hlon : |q.lon - p.lon| ≤ 180) (hne : ¬ (p.lat = q.lat ∧ p.lon = q.lon)) :
    cosAngle p q < cosAngle (radians p) (radians q) := by
  have hcosp := cos_latitude hp
  have hcosq := cos_latitude hq
  have hlat : |q.lat - p.lat| ≤ 180 := by
    have := abs_sub q.lat p.lat
    linarith
  rw [cosAngle_eq p q, cosAngle_eq (radians p) (radians q)]
  simp only [radians, degrees2Radians_eq] at hcosp hcosq ⊢
  rw [← sub_mul, ← sub_mul, ← sub_mul, ← sub_mul, ← sub_mul, ← sub_mul]
  -- `x` and `y` are the differences of the coordinates, in degrees
  have hsome : 0 < (q.lat - p.lat) ^ 2 + (q.lon - p.lon) ^ 2 := by
    by_contra hzero
    refine hne ⟨?_, ?_⟩
    · nlinarith [sq_nonneg (q.lat - p.lat), sq_nonneg (q.lon - p.lon)]
    · nlinarith [sq_nonneg (q.lat - p.lat), sq_nonneg (q.lon - p.lon)]
  generalize q.lat - p.lat = x at *
  generalize q.lon - p.lon = y at *
  have hx := cos_degrees_le hlat
  have hy := cos_degrees_le hlon
  have hx' := le_cos_radians x
  have hy' := le_cos_radians y
  -- the product of the cosines is at least this, and after the second conversion at most one
  have hproduct : (0.034 : ℝ) * 0.034 ≤
      Real.cos (p.lat * (Real.pi / 180)) * Real.cos (q.lat * (Real.pi / 180)) :=
    mul_le_mul hcosp hcosq (by norm_num) (by linarith)
  have hproduct' : Real.cos (p.lat * (Real.pi / 180) * (Real.pi / 180)) *
      Real.cos (q.lat * (Real.pi / 180) * (Real.pi / 180)) ≤ 1 :=
    (le_abs_self _).trans ((abs_mul ..).trans_le
      (mul_le_one₀ (Real.abs_cos_le_one _) (abs_nonneg _) (Real.abs_cos_le_one _)))
  have hlong := Real.cos_le_one (y * (Real.pi / 180))
  have hlong' := Real.cos_le_one (y * (Real.pi / 180) * (Real.pi / 180))
  have hleft : (0.034 : ℝ) * 0.034 * (y ^ 2 / 16200) ≤
      Real.cos (p.lat * (Real.pi / 180)) * Real.cos (q.lat * (Real.pi / 180)) *
        (1 - Real.cos (y * (Real.pi / 180))) :=
    mul_le_mul hproduct (by linarith) (by positivity) (by linarith)
  have hright : Real.cos (p.lat * (Real.pi / 180) * (Real.pi / 180)) *
      Real.cos (q.lat * (Real.pi / 180) * (Real.pi / 180)) *
        (1 - Real.cos (y * (Real.pi / 180) * (Real.pi / 180))) ≤
      1 - Real.cos (y * (Real.pi / 180) * (Real.pi / 180)) :=
    mul_le_of_le_one_left (by linarith) hproduct'
  nlinarith [sq_nonneg x, sq_nonneg y]

/-! ## Agreement -/

/-- The three functions agree on the two points. -/
structure Agree (p q : Point ℝ) : Prop where
  points : distanceBetweenPoints p q = distanceBetweenTwoPoint p.lat p.lon q.lat q.lon
  destination : (getDestination p q).distance = distanceBetweenTwoPoint p.lat p.lon q.lat q.lon

/-- One of the points is within two degrees of a pole, or the antimeridian is between
them. -/
def Marginal (p q : Point ℝ) : Prop := 88 < |p.lat| ∨ 88 < |q.lat| ∨ 180 < |q.lon - p.lon|

/-- The distances agree when the second conversion keeps the angle. -/
theorem agree_iff_sameAngle (p q : Point ℝ) : Agree p q ↔ SameAngle p q := by
  have hpoints : distanceBetweenPoints p q = distanceBetweenTwoPoint p.lat p.lon q.lat q.lon ↔
      SameAngle p q := by
    rw [distanceBetweenPoints_eq, distanceBetweenTwoPoint_eq,
      arcLength_inj (cosAngle_mem ..) (cosAngle_mem ..)]
    exact eq_comm
  constructor
  · exact fun h => hpoints.mp h.points
  · refine fun h => ⟨hpoints.mpr h, ?_⟩
    rw [getDestination_distance_eq, distanceBetweenTwoPoint_eq]

/-- From a point to itself there is no angle to keep. -/
theorem sameAngle_self (p : Point ℝ) : SameAngle p p := by
  have hself : ∀ r : Point ℝ, cosAngle r r = 1 := by
    intro r
    rw [cosAngle_eq, sub_self, sub_self, Real.cos_zero]
    ring
  rw [SameAngle, hself, hself]

/-- **The distances agree** on the same point twice, and on marginal places whose angle survives
the second conversion; nowhere else. -/
theorem distances_agree_iff (p q : Point ℝ) :
    Agree p q ↔ (p.lat = q.lat ∧ p.lon = q.lon) ∨ (Marginal p q ∧ SameAngle p q) := by
  rw [agree_iff_sameAngle]
  constructor
  · intro hangle
    by_cases hsame : p.lat = q.lat ∧ p.lon = q.lon
    · exact .inl hsame
    · refine .inr ⟨?_, hangle⟩
      -- anywhere else the second conversion shortens the angle
      by_contra hmarginal
      obtain ⟨hp, hq, hlon⟩ : ¬ 88 < |p.lat| ∧ ¬ 88 < |q.lat| ∧ ¬ 180 < |q.lon - p.lon| := by
        simpa only [Marginal, not_or] using hmarginal
      exact absurd hangle
        (cosAngle_lt_radians (not_lt.mp hp) (not_lt.mp hq) (not_lt.mp hlon) hsame).ne
  · intro h
    rcases h with ⟨hlat, hlon⟩ | ⟨-, hangle⟩
    · obtain ⟨lat, lon⟩ := p
      obtain rfl : lat = q.lat := hlat
      obtain rfl : lon = q.lon := hlon
      exact sameAngle_self q
    · exact hangle

/-- On the meridian, in metres. -/
theorem distanceBetweenTwoPoint_onMeridian {a b : ℝ} (h : |b - a| ≤ 180) :
    distanceBetweenTwoPoint a 0 b 0 = |b - a| * Real.pi / 180 * 6371000 := by
  rw [← getDestination_onMeridian h, getDestination_distance_eq, ← distanceBetweenTwoPoint_eq]
  rfl

/-- The other overload converts twice. -/
theorem distanceBetweenPoints_onMeridian {a b : ℝ} (h : |b - a| ≤ 180) :
    distanceBetweenPoints (onMeridian a) (onMeridian b) =
      |b - a| * (Real.pi / 180) ^ 2 * 6371000 := by
  have hpi := Real.pi_pos
  have hpi' := Real.pi_le_four
  have hradians : |b * (Real.pi / 180) - a * (Real.pi / 180)| = |b - a| * (Real.pi / 180) := by
    rw [← sub_mul, abs_mul, abs_of_pos (show 0 < Real.pi / 180 by positivity)]
  have hle : |b - a| * (Real.pi / 180) ≤ 180 := by nlinarith [abs_nonneg (b - a)]
  unfold distanceBetweenPoints onMeridian
  simp only [degrees2Radians_eq, zero_mul]
  rw [distanceBetweenTwoPoint_onMeridian (hradians.trans_le hle), hradians]
  ring

/-- One degree on the equator's meridian: 111 kilometres by one overload, two by the other. -/
theorem distances_differ :
    distanceBetweenTwoPoint (0 : ℝ) 0 1 0 = Real.pi / 180 * 6371000 ∧
      distanceBetweenPoints (onMeridian 0) (onMeridian 1) =
        (Real.pi / 180) ^ 2 * 6371000 ∧
      ¬ Agree (onMeridian 0) (onMeridian 1) := by
  have hone : distanceBetweenTwoPoint (0 : ℝ) 0 1 0 = Real.pi / 180 * 6371000 := by
    rw [distanceBetweenTwoPoint_onMeridian (by norm_num)]
    norm_num
  have hpi := Real.pi_pos
  have hpi' := Real.pi_le_four
  have htwo : distanceBetweenPoints (onMeridian 0) (onMeridian 1) =
      (Real.pi / 180) ^ 2 * 6371000 := by
    rw [distanceBetweenPoints_onMeridian (by norm_num)]
    norm_num
  refine ⟨hone, htwo, ?_⟩
  intro hagree
  have hpoints := hagree.points
  rw [htwo] at hpoints
  have hequal : (Real.pi / 180) ^ 2 * 6371000 = Real.pi / 180 * 6371000 := hpoints.trans hone
  nlinarith

end Solarbot.Nav
