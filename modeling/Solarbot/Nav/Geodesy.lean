import Solarbot.Nav.Double

/-!
# Points, distances and bearings

The geodesy of `Navigator.cpp`, expression by expression. The two overloads of
`DistanceBetweenTwoPoint` differ in what they expect: the one on four numbers
converts them to radians itself, and the one on two points converts *before* it
calls the other, so that its coordinates are converted twice.
-/

namespace Solarbot.Nav

structure Point (D : Type) where
  lat : D
  lon : D

/-- Bearing and distance to a point. -/
structure Destination (D : Type) where
  bearing : D
  distance : D

variable {D : Type} [Dbl D]

/-- The Earth's radius in metres, as the source has it. -/
def earthRadius : D := num 6371000

def degrees2Radians (degree : D) : D := degree * Dbl.pi / num 180

/-- `DistanceBetweenTwoPoint(lat1, long1, lat2, long2)`. -/
def distanceBetweenTwoPoint (lat1 long1 lat2 long2 : D) : D :=
  let lat1r := lat1 * Dbl.pi / num 180
  let lon1r := long1 * Dbl.pi / num 180
  let lat2r := lat2 * Dbl.pi / num 180
  let lon2r := long2 * Dbl.pi / num 180
  let u := Dbl.sin ((lat2r - lat1r) / num 2)
  let v := Dbl.sin ((lon2r - lon1r) / num 2)
  num 2 * earthRadius * Dbl.asin (Dbl.sqrt (u * u + Dbl.cos lat1r * Dbl.cos lat2r * v * v))

/-- `DistanceBetweenTwoPoint(p1, p2)`: the coordinates are radians when the other
overload converts them again. -/
def distanceBetweenPoints (p1 p2 : Point D) : D :=
  distanceBetweenTwoPoint (degrees2Radians p1.lat) (degrees2Radians p1.lon)
    (degrees2Radians p2.lat) (degrees2Radians p2.lon)

/-- `((int)(angle * 180 / M_PI) + 360) % 360`. -/
def wholeDegrees (angle : D) : Int := (Dbl.toInt (angle * num 180 / Dbl.pi) + 360).tmod 360

def getBearing (fromPoint toPoint : Point D) : D :=
  let lat1 := degrees2Radians fromPoint.lat
  let long1 := degrees2Radians fromPoint.lon
  let lat2 := degrees2Radians toPoint.lat
  let long2 := degrees2Radians toPoint.lon
  if Dbl.eq (Dbl.cos lat2 * Dbl.sin (long2 - long1)) (num 0) then
    if Dbl.lt lat1 lat2 then num 0 else num 180
  else
    num (wholeDegrees (Dbl.atan2 (Dbl.cos lat2 * Dbl.sin (long2 - long1))
      (Dbl.sin lat2 * Dbl.cos lat1 -
        Dbl.sin lat1 * Dbl.cos lat2 * Dbl.cos (long2 - long1))))

/-- The haversine distance, and the bearing computed as in `getBearing` (the
source writes that code out again). -/
def getDestination (fromPoint toPoint : Point D) : Destination D :=
  let lat1 := degrees2Radians fromPoint.lat
  let long1 := degrees2Radians fromPoint.lon
  let lat2 := degrees2Radians toPoint.lat
  let long2 := degrees2Radians toPoint.lon
  let dlong := long2 - long1
  let dlat := lat2 - lat1
  let ans := Dbl.sq (Dbl.sin (dlat / num 2)) +
    Dbl.cos lat1 * Dbl.cos lat2 * Dbl.sq (Dbl.sin (dlong / num 2))
  let ans := num 2 * Dbl.asin (Dbl.sqrt ans)
  { bearing := getBearing fromPoint toPoint
    distance := ans * earthRadius }

/-- `GetDestinationPoint(latitude, longitude, distance, bearing)`; the overloads
on a `Point` and on a `Destination` hand their fields to this one. -/
def getDestinationPoint (fromPoint : Point D) (distance bearing : D) : Point D :=
  let rr := distance / earthRadius
  let lat1 := fromPoint.lat * Dbl.pi / num 180
  let lon1 := fromPoint.lon * Dbl.pi / num 180
  let angle := bearing * Dbl.pi / num 180
  let lat2 := Dbl.asin (Dbl.sin lat1 * Dbl.cos rr + Dbl.cos lat1 * Dbl.sin rr * Dbl.cos angle)
  let lon2 := lon1 + Dbl.atan2 (Dbl.sin angle * Dbl.sin rr * Dbl.cos lat1)
    (Dbl.cos rr - Dbl.sin lat1 * Dbl.sin lat2)
  { lat := lat2 * num 180 / Dbl.pi
    lon := lon2 * num 180 / Dbl.pi }

/-! ## The distances are finite on `ℝ` -/

theorem lt_dblMax : (25484000 : ℝ) < dblMax := by
  have hone : (1 : ℝ) ≤ 2 ^ 971 := one_le_pow₀ (by norm_num)
  rw [dblMax]
  push_cast
  calc (25484000 : ℝ) < (2 ^ 53 - 1) * 1 := by norm_num
    _ ≤ (2 ^ 53 - 1) * 2 ^ 971 := mul_le_mul_of_nonneg_left hone (by norm_num)

/-- On `ℝ` no distance exceeds half the Earth's circumference, so the test
against `DBL_MAX` succeeds. -/
theorem distanceBetweenTwoPoint_lt_max (lat1 long1 lat2 long2 : ℝ) :
    Dbl.lt (distanceBetweenTwoPoint lat1 long1 lat2 long2) Dbl.max = true := by
  have hbound : ∀ x : ℝ, ((2 : ℚ) : ℝ) * ((6371000 : ℚ) : ℝ) * Real.arcsin x ≤ 25484000 := by
    intro x
    have hasin := Real.arcsin_le_pi_div_two x
    have hpi := Real.pi_le_four
    push_cast
    linarith
  simp only [distanceBetweenTwoPoint, earthRadius, real_num, real_asin, real_lt, real_max,
    decide_eq_true_eq]
  exact lt_of_le_of_lt (hbound _) lt_dblMax

theorem distanceBetweenPoints_lt_max (p1 p2 : Point ℝ) :
    Dbl.lt (distanceBetweenPoints p1 p2) Dbl.max = true :=
  distanceBetweenTwoPoint_lt_max ..

end Solarbot.Nav
