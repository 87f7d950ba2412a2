import Solarbot.Nav.Meridian
import Solarbot.Nav.Turning

/-!
# Arrival by misalignment

Close to a waypoint and facing away from it, the rover counts as arrived, "to avoid
oscillations". `GotoWaypoint` tests the plain difference of bearing and heading, which is
not the angle between them when north is between the two: `Move` takes a turn off it,
`GotoWaypoint` does not. `gotoWaypoint_misaligned_iff` is the exact extent of that.
-/

namespace Solarbot.Nav.Navigator

/-- The smaller of the two angles between two directions. -/
noncomputable def angleBetween (bearing heading : ℝ) : ℝ :=
  min |bearing - heading| (360 - |bearing - heading|)

/-- Close to the waypoint, and not going away from it: the rules for the distance alone
leave the decision to the angle. -/
structure LeftToAngle (n : Navigator ℝ) (location : Location ℝ) (waypoint : Waypoint ℝ) :
    Prop where
  not_there : 0.1 ≤ (destinationTo location waypoint).distance
  close : (destinationTo location waypoint).distance < 1
  approaching : (destinationTo location waypoint).distance ≤ 1.2 * n.lastDistance

variable (n : Navigator ℝ) (location : Location ℝ) (heading : ℝ) (waypoint : Waypoint ℝ)

/-- The law: the waypoint is reported as reached exactly when it is more than 45 degrees off the
heading. Otherwise the rover moves towards it, with a turn of at most 45 degrees. -/
structure JudgesAngle : Prop where
  reached : (n.gotoWaypoint location heading waypoint).2.1 = 0 ↔
    45 < angleBetween (destinationTo location waypoint).bearing heading
  moves : angleBetween (destinationTo location waypoint).bearing heading ≤ 45 →
    (n.gotoWaypoint location heading waypoint).2.1 = 1 ∧
      |shortAngle ((destinationTo location waypoint).bearing - heading)| ≤ 45 ∧
      (n.gotoWaypoint location heading waypoint).1 =
        { n with lastDistance := (destinationTo location waypoint).distance }.move waypoint.speed
          ((destinationTo location waypoint).bearing - heading)
          (destinationTo location waypoint).distance

variable {n location waypoint}

/-- What the code decides by. -/
theorem arrival_leftToAngle (h : n.LeftToAngle location waypoint) :
    arrival n.lastDistance heading (destinationTo location waypoint) =
      if 45 < |(destinationTo location waypoint).bearing - heading| then (0, n.lastDistance)
      else (1, (destinationTo location waypoint).distance) := by
  obtain ⟨hfar, hclose, happroaching⟩ := h
  unfold arrival
  simp only [real_lt, real_num, real_abs, decide_eq_true_eq]
  push_cast
  rw [if_neg (by norm_num at hfar ⊢; exact hfar), if_pos hclose]
  split
  · rfl
  · rw [if_neg (by norm_num at happroaching ⊢; exact happroaching)]

/-- **Misalignment is judged on the circle** exactly when bearing and heading differ by less
than 315 degrees. -/
theorem gotoWaypoint_misaligned_iff (h : n.LeftToAngle location waypoint) :
    n.JudgesAngle location heading waypoint ↔
      |(destinationTo location waypoint).bearing - heading| < 315 := by
  have harrival := arrival_leftToAngle heading h
  have hresult : (n.gotoWaypoint location heading waypoint).2.1 =
      (arrival n.lastDistance heading (destinationTo location waypoint)).1 := rfl
  rw [harrival] at hresult
  by_cases hoff : 45 < |(destinationTo location waypoint).bearing - heading|
  · -- the code takes the waypoint for reached
    rw [if_pos hoff] at hresult
    constructor
    · intro hlaw
      have hangle := hlaw.reached.mp hresult
      have := lt_min_iff.mp hangle
      linarith
    · intro hless
      have hangle : 45 < angleBetween (destinationTo location waypoint).bearing heading :=
        lt_min hoff (by linarith)
      exact ⟨iff_of_true hresult hangle, fun hle => absurd hangle (not_lt.mpr hle)⟩
  · have hle : |(destinationTo location waypoint).bearing - heading| ≤ 45 := not_lt.mp hoff
    have hangle : angleBetween (destinationTo location waypoint).bearing heading ≤ 45 :=
      (min_le_left ..).trans hle
    rw [if_neg hoff] at hresult
    refine iff_of_true ⟨iff_of_false ?_ (not_lt.mpr hangle), fun _ => ⟨hresult, ?_, ?_⟩⟩
      (by linarith)
    · rw [hresult]
      exact one_ne_zero
    · rwa [shortAngle_of_abs_le (by linarith)]
    · simp only [gotoWaypoint, harrival, if_neg hoff, if_true]

/-! ## A waypoint in the north -/

/-- About half a metre north of the equator. -/
noncomputable def northward : Waypoint ℝ := ⟨1 / 200000, 0, 1000⟩

/-- On the equator. -/
noncomputable def equator : Location ℝ := ⟨0, 0, 4⟩

theorem destinationTo_northward : (destinationTo equator northward).bearing = 0 ∧
    0.5 < (destinationTo equator northward).distance ∧
    (destinationTo equator northward).distance < 0.6 := by
  have hpoints : destinationTo equator northward =
      getDestination (onMeridian 0) (onMeridian (1 / 200000)) := rfl
  have hlo := Real.pi_gt_three
  have hdistance : (destinationTo equator northward).distance =
      1 / 200000 * Real.pi / 180 * 6371000 := by
    rw [hpoints, getDestination_onMeridian (by norm_num)]
    norm_num
  have hpi := Real.pi_lt_d2
  refine ⟨?_, ?_, ?_⟩
  · rw [hpoints, bearing_north (by norm_num)]
  · rw [hdistance]
    linarith
  · rw [hdistance]
    linarith

theorem leftToAngle_northward : fresh.LeftToAngle equator northward := by
  obtain ⟨-, hlo, hhi⟩ := destinationTo_northward
  have hlast : fresh.lastDistance = 1 := by
    show (num 1 : ℝ) = 1
    norm_num
  refine ⟨by linarith, by linarith, ?_⟩
  rw [hlast]
  linarith

/-- To the right of north the angle is judged as it should. -/
theorem gotoWaypoint_misaligned_right : fresh.JudgesAngle equator 30 northward := by
  refine (gotoWaypoint_misaligned_iff 30 leftToAngle_northward).mpr ?_
  rw [destinationTo_northward.1]
  norm_num

/-- To the left of north, 30 degrees off, the rover does not move: the waypoint counts as
reached. -/
theorem gotoWaypoint_misaligned_left :
    fresh.LeftToAngle equator northward ∧
      angleBetween (destinationTo equator northward).bearing 330 = 30 ∧
      (fresh.gotoWaypoint equator 330 northward).2.1 = 0 ∧
      ¬ fresh.JudgesAngle equator 330 northward := by
  have hangle : angleBetween (destinationTo equator northward).bearing 330 = 30 := by
    rw [destinationTo_northward.1]
    norm_num [angleBetween]
  have hresult : (fresh.gotoWaypoint equator 330 northward).2.1 = 0 := by
    show (arrival _ _ _).1 = 0
    rw [arrival_leftToAngle 330 leftToAngle_northward, destinationTo_northward.1,
      if_pos (by norm_num)]
  refine ⟨leftToAngle_northward, hangle, hresult, ?_⟩
  intro hlaw
  have habove := hlaw.reached.mp hresult
  rw [hangle] at habove
  norm_num at habove

end Solarbot.Nav.Navigator
