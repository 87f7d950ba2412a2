import Solarbot.Nav.Motion
import Solarbot.Nav.Search

/-!
# Arriving

What a call of `GotoNextWaypoint` does at its target: it leaves the search for the
path, or it goes on to the next waypoint. On exact numbers the rover is at the
target when it stands on it (`atTarget_here`), so a path that is not a loop can be
driven to its end.
-/

namespace Solarbot.Nav

variable {D : Type} [Dbl D]

namespace Navigator

variable {n : Navigator D} {location : Location D} {heading : D} {res : Navigator D × Int × D}

/-- No call changes whether the path is a loop. -/
theorem gotoNextWaypoint_loopNavigate (h : n.gotoNextWaypoint location heading = .ok res) :
    res.1.loopNavigate = n.loopNavigate := by
  have hgoto : ∀ (m : Navigator D) (w : Waypoint D),
      (m.gotoWaypoint location heading w).1.loopNavigate = m.loopNavigate := by
    intro m w
    obtain ⟨last, hroute⟩ := m.gotoWaypoint_toRoute location heading w
    rw [hroute]
  rcases gotoNextWaypoint_cases h with ⟨-, m, hm, rfl⟩ | ⟨-, w, -, rfl⟩
  · have hstart : m.loopNavigate = n.loopNavigate := by
      rcases findStart_cases hm with ⟨-, rfl⟩ | ⟨-, c, -, rfl⟩
      · rfl
      · rfl
    have hslow : (m.slowNearStart location).loopNavigate = m.loopNavigate := by
      unfold slowNearStart
      split <;> rfl
    simp only [approachStart]
    split
    · exact (hgoto _ _).trans (hslow.trans hstart)
    · exact (hgoto _ _).trans (hslow.trans hstart)
  · have hadvance : ∀ m : Navigator D, m.advance.1.loopNavigate = m.loopNavigate := by
      intro m
      simp only [advance]
      split
      · split <;> rfl
      · rfl
    simp only [followPath]
    split
    · exact (hadvance _).trans (hgoto _ _)
    · exact hgoto _ _

/-- At the start point the rover is on the path. -/
theorem gotoNextWaypoint_start (hfinding : n.findingPath = true) (hidx : n.waypointsIndex ≠ -1)
    (hat : n.AtTarget location heading) (h : n.gotoNextWaypoint location heading = .ok res) :
    res.1.findingPath = false := by
  obtain ⟨w, hw, hreached⟩ := hat
  have hfound : n.findStart location = .ok n := if_neg hidx
  rw [target, if_pos hfinding, hfound] at hw
  rw [gotoNextWaypoint, if_pos hfinding, hfound] at h
  obtain rfl := Except.ok.inj hw
  obtain rfl := Except.ok.inj h
  have hslow : (n.slowNearStart location).Reached location heading
      (n.slowNearStart location).startWaypoint := by
    rw [Reached, (n.slowNearStart_quiet location).2]
    exact hreached
  rcases (n.slowNearStart location).gotoWaypoint_motion location heading
      (n.slowNearStart location).startWaypoint with ⟨-, -, hr⟩ | ⟨hno, -, -⟩
  · simp only [approachStart, hr, if_true]
  · exact absurd hslow hno

/-- At a waypoint that is not the last one the rover goes on to the next. -/
theorem gotoNextWaypoint_next (hfinding : n.findingPath = false)
    (hbefore : n.waypointsIndex + 1 < n.waypointsSize) (hat : n.AtTarget location heading)
    (h : n.gotoNextWaypoint location heading = .ok res) :
    res.1.findingPath = false ∧ res.1.waypointsSize = n.waypointsSize ∧
      res.1.waypointsIndex = n.waypointsIndex + 1 := by
  have hoff : ¬ n.findingPath = true := by simp [hfinding]
  obtain ⟨w, hw, hreached⟩ := hat
  rw [target, if_neg hoff] at hw
  rw [gotoNextWaypoint, if_neg hoff, hw] at h
  obtain rfl := Except.ok.inj h
  obtain ⟨last, hroute⟩ := n.gotoWaypoint_toRoute location heading w
  rcases n.gotoWaypoint_motion location heading w with ⟨-, -, hr⟩ | ⟨hno, -, -⟩
  · simp only [followPath, hr, if_true, advance, hroute, if_neg (not_le.mpr hbefore)]
    exact ⟨hfinding, trivial, trivial⟩
  · exact absurd hreached hno

/-! ## Standing on the target -/

/-- A point is at distance zero from itself. -/
theorem getDestination_self (p : Point ℝ) : (getDestination p p).distance = 0 := by
  simp only [getDestination, sub_self, real_num, real_sin, real_cos, real_sq, real_asin, real_sqrt,
    zero_div, Real.sin_zero]
  norm_num

theorem reached_here (n : Navigator ℝ) (w : Waypoint ℝ) (quality : Int) (heading : ℝ) :
    n.Reached ⟨w.latitude, w.longitude, quality⟩ heading w := by
  have hnear : Dbl.lt (destinationTo ⟨w.latitude, w.longitude, quality⟩ w).distance
      (num 0.1 : ℝ) = true := by
    rw [destinationTo, getDestination_self, real_num, real_lt]
    norm_num
  rw [Reached, arrival, if_pos hnear]

/-- There is a place that is the target of the next call. -/
theorem atTarget_here {n : Navigator ℝ} (h : n.Located) :
    ∃ latitude longitude, ∀ quality heading,
      n.AtTarget ⟨latitude, longitude, quality⟩ heading := by
  by_cases hfinding : n.findingPath = true
  · -- slowing down changes the speed of the start point, not its place
    have hidx : n.waypointsIndex ≠ -1 := by
      have hlower := h.lower
      omega
    refine ⟨n.startWaypoint.latitude, n.startWaypoint.longitude, ?_⟩
    intro quality heading
    let here : Location ℝ := ⟨n.startWaypoint.latitude, n.startWaypoint.longitude, quality⟩
    have hfound : n.findStart here = .ok n := if_neg hidx
    refine ⟨(n.slowNearStart here).startWaypoint, ?_, ?_⟩
    · rw [target, if_pos hfinding, hfound]
      rfl
    unfold slowNearStart
    split
    · exact n.reached_here { n.startWaypoint with speed := 300 } quality heading
    · exact n.reached_here n.startWaypoint quality heading
  · obtain ⟨w, hw⟩ := h.waypointAt
    refine ⟨w.latitude, w.longitude, fun quality heading => ⟨w, ?_, n.reached_here w quality heading⟩⟩
    rw [target, if_neg hfinding]
    exact hw

end Navigator

end Solarbot.Nav
