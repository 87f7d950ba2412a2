import Solarbot.Lib.Sphere
import Solarbot.Nav.Distances
import Solarbot.Nav.Path

/-!
# There and back

`GetDestinationPoint` goes from a point along a great circle, and `GetDestination` says how far
it is to a point and in which direction. Both have the radius of the Earth, and on exact numbers
they are inverse to each other, for directions in whole degrees and short of the poles
(`getDestination_getDestinationPoint`). The samples that `FindClosestPathPoint` takes of a segment
are on one great circle, and a metre apart (`samplePoint_spacing`).
-/

namespace Solarbot.Nav

open Sphere

/-- The distance, as the arc it spans. -/
noncomputable def arc (distance : ℝ) : ℝ := distance / 6371000

theorem degrees2Radians_degrees (x : ℝ) : degrees2Radians (x * 180 / Real.pi) = x := by
  have hpi := Real.pi_ne_zero
  rw [degrees2Radians_eq]
  field_simp

/-- A latitude in degrees has a cosine that is not negative. -/
theorem cos_degrees_nonneg {lat : ℝ} (h : |lat| ≤ 90) : 0 ≤ Real.cos (degrees2Radians lat) := by
  have hpi := Real.pi_pos
  obtain ⟨hlo, hhi⟩ := abs_le.mp h
  rw [degrees2Radians_eq]
  exact Real.cos_nonneg_of_mem_Icc ⟨by nlinarith, by nlinarith⟩

theorem cos_degrees_pos {lat : ℝ} (h : |lat| < 90) : 0 < Real.cos (degrees2Radians lat) := by
  have hpi := Real.pi_pos
  obtain ⟨hlo, hhi⟩ := abs_lt.mp h
  rw [degrees2Radians_eq]
  exact Real.cos_pos_of_mem_Ioo ⟨by nlinarith, by nlinarith⟩

/-- What `GetDestinationPoint` returns, in radians. -/
theorem getDestinationPoint_radians (p : Point ℝ) (distance bearing : ℝ) :
    degrees2Radians (getDestinationPoint p distance bearing).lat =
        latitude (degrees2Radians p.lat) (arc distance) (degrees2Radians bearing) ∧
      degrees2Radians (getDestinationPoint p distance bearing).lon - degrees2Radians p.lon =
        longitude (degrees2Radians p.lat) (arc distance) (degrees2Radians bearing) := by
  have hdegrees : ∀ x : ℝ, x * Real.pi / ((180 : ℚ) : ℝ) = degrees2Radians x := fun _ => rfl
  have hback : ∀ x : ℝ, degrees2Radians (x * ((180 : ℚ) : ℝ) / Real.pi) = x := by
    intro x
    push_cast
    exact degrees2Radians_degrees x
  have harc : distance / ((6371000 : ℚ) : ℝ) = arc distance := by
    rw [arc]
    push_cast
    rfl
  simp only [getDestinationPoint, earthRadius, real_num, real_pi, real_sin, real_cos, real_asin,
    hdegrees, harc, hback]
  refine ⟨rfl, ?_⟩
  rw [add_sub_cancel_left]
  rfl

/-- The distance of an angle of at most half a turn. -/
theorem arcLength_cos {x : ℝ} (h : |x| ≤ Real.pi) : arcLength (Real.cos x) = 6371000 * |x| := by
  have hsquare : (1 - Real.cos x) / 2 = Real.sin (x / 2) ^ 2 := by
    rw [Real.sin_sq_eq_half_sub, mul_div_cancel₀ _ two_ne_zero]
    ring
  have hhalf : |x / 2| = |x| / 2 := by rw [abs_div, abs_of_pos (show (0 : ℝ) < 2 by norm_num)]
  have hle : |x / 2| ≤ Real.pi / 2 := by linarith
  rw [arcLength, hsquare, arcsin_sqrt_sin_sq hle, hhalf]
  ring

/-- **The distance to where one went**, on the whole sphere. -/
theorem getDestinationPoint_distance {p : Point ℝ} (hlat : |p.lat| ≤ 90) {distance : ℝ}
    (h0 : 0 ≤ distance) (hhalf : arc distance ≤ Real.pi) (bearing : ℝ) :
    (getDestination p (getDestinationPoint p distance bearing)).distance = distance := by
  obtain ⟨hlat', hlon⟩ := getDestinationPoint_radians p distance bearing
  have hangle : cosAngle p (getDestinationPoint p distance bearing) = Real.cos (arc distance) := by
    unfold cosAngle
    rw [hlat', hlon]
    exact cosArc_destination (cos_degrees_nonneg hlat) _ _
  have harc : 0 ≤ arc distance := div_nonneg h0 (by norm_num)
  rw [getDestination_distance_eq, hangle, arcLength_cos (by rwa [abs_of_nonneg harc]),
    abs_of_nonneg harc, arc]
  ring

/-! ## The bearing -/

/-- The components of the direction, as `GetBearing` computes them. -/
theorem getBearing_eq (p q : Point ℝ) : getBearing p q =
    if east (degrees2Radians q.lat) (degrees2Radians q.lon - degrees2Radians p.lon) = 0 then
      if degrees2Radians p.lat < degrees2Radians q.lat then 0 else 180
    else
      (wholeDegrees (Complex.arg ⟨north (degrees2Radians p.lat) (degrees2Radians q.lat)
        (degrees2Radians q.lon - degrees2Radians p.lon),
        east (degrees2Radians q.lat) (degrees2Radians q.lon - degrees2Radians p.lon)⟩) : ℝ) := by
  simp only [getBearing, real_eq, real_lt, real_num, real_sin, real_cos, decide_eq_true_eq,
    Rat.cast_zero, Rat.cast_intCast]
  push_cast
  rfl

/-- An angle of whole degrees, up to half a turn on either side. -/
theorem wholeDegrees_cast (b : Int) : wholeDegrees ((b : ℝ) * (Real.pi / 180)) =
    (b + 360).tmod 360 := by
  have hpi := Real.pi_ne_zero
  have hback : (b : ℝ) * (Real.pi / 180) * 180 / Real.pi = b := by field_simp
  have htrunc : truncReal (b : ℝ) = b := by
    unfold truncReal
    split
    · exact Int.ceil_intCast b
    · exact Int.floor_intCast b
  unfold wholeDegrees
  simp only [real_toInt, real_num, real_pi]
  push_cast
  rw [hback, htrunc]

/-- A direction that is neither north nor south, by its components: of `b` whole degrees, and
counted from the other side past half a turn. -/
theorem getBearing_direction {p q : Point ℝ} {d : ℝ} (hd : 0 < Real.sin d) {b c : Int}
    (hc : -180 < c ∧ c < 180 ∧ c ≠ 0) (hcb : b = (c + 360) % 360)
    (hnorth : north (degrees2Radians p.lat) (degrees2Radians q.lat)
      (degrees2Radians q.lon - degrees2Radians p.lon) = Real.sin d * Real.cos (c * (Real.pi / 180)))
    (heast : east (degrees2Radians q.lat) (degrees2Radians q.lon - degrees2Radians p.lon) =
      Real.sin d * Real.sin (c * (Real.pi / 180))) : getBearing p q = b := by
  have hpi := Real.pi_pos
  obtain ⟨hlo, hhi, hzero⟩ := hc
  have hlo' : (-180 : ℝ) < c := by exact_mod_cast hlo
  have hhi' : (c : ℝ) < 180 := by exact_mod_cast hhi
  have hrange : (c : ℝ) * (Real.pi / 180) ∈ Set.Ioc (-Real.pi) Real.pi :=
    ⟨by nlinarith, by nlinarith⟩
  have hsin : Real.sin (c * (Real.pi / 180)) ≠ 0 := by
    rcases lt_or_gt_of_ne hzero with hneg | hpos
    · have hneg' : (c : ℝ) < 0 := by exact_mod_cast hneg
      exact (Real.sin_neg_of_neg_of_neg_pi_lt (by nlinarith) (by nlinarith)).ne
    · have hpos' : (0 : ℝ) < c := by exact_mod_cast hpos
      exact (Real.sin_pos_of_pos_of_lt_pi (by positivity) (by nlinarith)).ne'
  rw [getBearing_eq, hnorth, heast, if_neg (mul_ne_zero hd.ne' hsin), arg_direction hd hrange,
    wholeDegrees_cast, hcb, Int.tmod_eq_emod_of_nonneg (by omega)]

/-- **The bearing of where one went**, in whole degrees and short of the poles. -/
theorem getBearing_getDestinationPoint {p : Point ℝ} {distance : ℝ} (h0 : 0 < distance)
    (hpole : |degrees2Radians p.lat| + arc distance < Real.pi / 2) {b : Int} (hb : 0 ≤ b ∧ b < 360) :
    getBearing p (getDestinationPoint p distance b) = b := by
  obtain ⟨hlat, hlon⟩ := getDestinationPoint_radians p distance b
  have hpi := Real.pi_pos
  have harc : 0 < arc distance := div_pos h0 (by norm_num)
  have habs := abs_nonneg (degrees2Radians p.lat)
  have hcos : 0 < Real.cos (degrees2Radians p.lat) := by
    obtain ⟨hlo, hhi⟩ := abs_lt.mp (show |degrees2Radians p.lat| < Real.pi / 2 by linarith)
    exact Real.cos_pos_of_mem_Ioo ⟨hlo, hhi⟩
  have hsin : 0 < Real.sin (arc distance) := Real.sin_pos_of_pos_of_lt_pi harc (by linarith)
  -- the two components of the direction to the destination
  have heast := east_destination hcos (arc distance) (degrees2Radians b)
  have hnorth := north_destination hcos (arc distance) (degrees2Radians b)
  rw [← hlat, ← hlon] at hnorth heast
  rw [degrees2Radians_eq (b : ℝ)] at hnorth heast hlat
  have hcases : b = 0 ∨ b = 180 ∨ (0 < b ∧ b < 180) ∨ (180 < b ∧ b < 360) := by omega
  rcases hcases with rfl | rfl | ⟨hlo, hhi⟩ | ⟨hlo, hhi⟩
  · -- due north
    rw [Int.cast_zero, zero_mul] at hlat heast
    rw [latitude_north hpole.le harc.le] at hlat
    rw [Real.sin_zero, mul_zero] at heast
    rw [Int.cast_zero, getBearing_eq, if_pos heast, hlat, if_pos (by linarith)]
  · -- due south
    have hturn : ((180 : Int) : ℝ) * (Real.pi / 180) = Real.pi := by
      push_cast
      ring
    rw [hturn] at hlat heast
    rw [latitude_south hpole.le harc.le] at hlat
    rw [Real.sin_pi, mul_zero] at heast
    rw [getBearing_eq, if_pos heast, hlat, if_neg (by linarith)]
    norm_num
  · exact getBearing_direction hsin (c := b) (by omega) (by omega) hnorth heast
  · -- the direction is counted from the other side
    have hturn : (b : ℝ) * (Real.pi / 180) = ((b - 360 : Int) : ℝ) * (Real.pi / 180) + 2 * Real.pi := by
      push_cast
      ring
    rw [hturn, Real.cos_add_two_pi] at hnorth
    rw [hturn, Real.sin_add_two_pi] at heast
    exact getBearing_direction hsin (by omega) (by omega) hnorth heast

/-- **There and back.** Short of the poles, `GetDestination` gives the distance and the whole
degrees that `GetDestinationPoint` was given. -/
theorem getDestination_getDestinationPoint {p : Point ℝ} {distance : ℝ} (h0 : 0 < distance)
    (hpole : |degrees2Radians p.lat| + arc distance < Real.pi / 2) {b : Int} (hb : 0 ≤ b ∧ b < 360) :
    getDestination p (getDestinationPoint p distance b) = ⟨b, distance⟩ := by
  have hbearing := getBearing_getDestinationPoint h0 hpole hb
  have habs := abs_nonneg (degrees2Radians p.lat)
  have hpi := Real.pi_pos
  have harc : 0 < arc distance := div_pos h0 (by norm_num)
  have hlat : |p.lat| ≤ 90 := by
    have hscale : |degrees2Radians p.lat| = |p.lat| * (Real.pi / 180) := by
      rw [degrees2Radians_eq, abs_mul, abs_of_pos (div_pos hpi (by norm_num))]
    by_contra hover
    have hover' : 90 * (Real.pi / 180) < |p.lat| * (Real.pi / 180) :=
      mul_lt_mul_of_pos_right (not_le.mp hover) (by positivity)
    linarith
  have hdistance := getDestinationPoint_distance hlat h0.le (by linarith) b
  calc getDestination p (getDestinationPoint p distance b)
      = ⟨getBearing p (getDestinationPoint p distance b),
          (getDestination p (getDestinationPoint p distance b)).distance⟩ := rfl
    _ = ⟨b, distance⟩ := by rw [hbearing, hdistance]

/-- A kilometre to the east, from the equator. -/
theorem getDestination_getDestinationPoint_east :
    getDestination (onMeridian 0) (getDestinationPoint (onMeridian 0) 1000 (90 : Int)) =
      ⟨(90 : Int), 1000⟩ := by
  have hpi := Real.pi_gt_three
  have hzero : degrees2Radians (onMeridian 0).lat = 0 := by
    rw [degrees2Radians_eq]
    exact zero_mul _
  refine getDestination_getDestinationPoint (by norm_num) ?_ (by decide)
  rw [hzero, abs_zero, arc]
  linarith

/-- Along the meridian, to the north and to the south. -/
theorem getDestinationPoint_onMeridian {lat distance : ℝ} (h0 : 0 ≤ distance)
    (hpole : |degrees2Radians lat| + arc distance ≤ Real.pi / 2) :
    getDestinationPoint (onMeridian lat) distance 0 =
        onMeridian (lat + arc distance * (180 / Real.pi)) ∧
      getDestinationPoint (onMeridian lat) distance 180 =
        onMeridian (lat - arc distance * (180 / Real.pi)) := by
  have hpi := Real.pi_ne_zero
  have harc : 0 ≤ arc distance := div_nonneg h0 (by norm_num)
  have hinj : ∀ x y : ℝ, degrees2Radians x = degrees2Radians y → x = y := by
    intro x y h
    rw [degrees2Radians_eq, degrees2Radians_eq] at h
    exact mul_right_cancel₀ (div_ne_zero hpi (by norm_num)) h
  have hsame : ∀ p : Point ℝ, ∀ x : ℝ, degrees2Radians p.lat = degrees2Radians x →
      degrees2Radians p.lon = degrees2Radians 0 → p = onMeridian x :=
    fun p x hx h0 => congrArg₂ Point.mk (hinj _ _ hx) (hinj _ _ h0)
  have hzero : degrees2Radians (0 : ℝ) = 0 := by rw [degrees2Radians_eq, zero_mul]
  have hturn : degrees2Radians (180 : ℝ) = Real.pi := by
    rw [degrees2Radians_eq]
    ring
  obtain ⟨hlat, hlon⟩ := getDestinationPoint_radians (onMeridian lat) distance 0
  obtain ⟨hlat', hlon'⟩ := getDestinationPoint_radians (onMeridian lat) distance 180
  simp only [onMeridian, hzero, hturn, sub_zero] at hlat hlon hlat' hlon' ⊢
  rw [latitude_north hpole harc] at hlat
  rw [longitude_meridian hpole harc (.inl rfl)] at hlon
  rw [latitude_south hpole harc] at hlat'
  rw [longitude_meridian hpole harc (.inr rfl)] at hlon'
  have hback : arc distance * (180 / Real.pi) * (Real.pi / 180) = arc distance := by field_simp
  constructor
  · refine hsame _ _ (hlat.trans ?_) (hlon.trans hzero.symm)
    rw [degrees2Radians_eq, degrees2Radians_eq, add_mul, hback]
  · refine hsame _ _ (hlat'.trans ?_) (hlon'.trans hzero.symm)
    rw [degrees2Radians_eq, degrees2Radians_eq, sub_mul, hback]

/-! ## The samples of a segment -/

/-- **The samples are a metre apart**: two of them are as many metres from each other as their
numbers differ, up to half the circumference. -/
theorem samplePoint_spacing {org : Point ℝ} (hlat : |org.lat| < 90) (dest : Point ℝ) (i j : Nat)
    (hhalf : arc |(j : ℝ) - i| ≤ Real.pi) :
    (getDestination (samplePoint org dest i) (samplePoint org dest j)).distance =
      |(j : ℝ) - i| := by
  have hmetres : ∀ k : Nat, (num (k : Rat) * increment : ℝ) = k := by
    intro k
    simp [increment]
  have hpoint : ∀ k : Nat, samplePoint org dest k =
      getDestinationPoint org k (getDestination org dest).bearing := by
    intro k
    rw [samplePoint, hmetres]
  obtain ⟨hlati, hloni⟩ := getDestinationPoint_radians org i (getDestination org dest).bearing
  obtain ⟨hlatj, hlonj⟩ := getDestinationPoint_radians org j (getDestination org dest).bearing
  have hangle : cosAngle (samplePoint org dest i) (samplePoint org dest j) =
      Real.cos (arc j - arc i) := by
    rw [← cosArc_along (cos_degrees_pos hlat) _ _ (degrees2Radians (getDestination org dest).bearing),
      ← hlati, ← hlatj, ← hloni, ← hlonj, hpoint, hpoint, sub_sub_sub_cancel_right]
    rfl
  have hdifference : |arc j - arc i| = arc |(j : ℝ) - i| := by
    rw [arc, arc, arc, ← sub_div, abs_div, abs_of_pos (show (0 : ℝ) < 6371000 by norm_num)]
  rw [getDestination_distance_eq, hangle, arcLength_cos (by rwa [hdifference]), hdifference, arc]
  ring

/-- The fifth and the second sample of a segment along the meridian. -/
theorem samplePoint_spacing_meridian :
    (getDestination (samplePoint (onMeridian 0) (onMeridian 1) 2)
      (samplePoint (onMeridian 0) (onMeridian 1) 5)).distance = |((5 : Nat) : ℝ) - (2 : Nat)| := by
  have hpi := Real.pi_gt_three
  refine samplePoint_spacing (by simp [onMeridian]) _ 2 5 ?_
  rw [arc]
  norm_num
  linarith

end Solarbot.Nav
