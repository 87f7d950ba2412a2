import Solarbot.Nav.Motion
import Solarbot.Nav.Turning

/-!
# The speeds the navigator asks for

Nothing the navigator does changes its work speeds (`SameSpeeds`), and all it moves at is one
of them, the speed of a waypoint, or one of the two speeds on the way to the start point. With
a bound on those, `Limited` says that the motors are within it, and a call of
`GotoNextWaypoint` keeps that (`gotoNextWaypoint_limited`).
-/

namespace Solarbot.Nav

variable {D : Type}

/-- A speed forward, up to a bound. -/
def SpeedWithin (bound speed : Int) : Prop := 0 ≤ speed ∧ speed ≤ bound

/-- The speeds of a path: of its waypoints, and of the start point once it was looked for. -/
structure Route.Limited (r : Route D) (bound : Int) : Prop where
  waypoints : ∀ w ∈ r.waypoints, SpeedWithin bound w.speed
  start : r.findingPath = true → r.waypointsIndex ≠ -1 → SpeedWithin bound r.startWaypoint.speed

namespace Navigator

/-- The work speeds are those of before. -/
structure SameSpeeds (n n' : Navigator D) : Prop where
  cam : n'.camWorkSpeed = n.camWorkSpeed
  line : n'.lineWorkSpeed = n.lineWorkSpeed

theorem SameSpeeds.refl (n : Navigator D) : SameSpeeds n n := ⟨rfl, rfl⟩

theorem SameSpeeds.trans {n m k : Navigator D} (h : SameSpeeds n m) (h' : SameSpeeds m k) :
    SameSpeeds n k := ⟨h'.cam.trans h.cam, h'.line.trans h.line⟩

variable [Dbl D] {n m : Navigator D}

theorem move_speeds (n : Navigator D) (speed : Int) (angle distance : D) :
    SameSpeeds n (n.move speed angle distance) := by
  unfold move aim
  split
  · exact ⟨rfl, rfl⟩
  · simp only [bend, spin]
    split
    · split <;> exact ⟨rfl, rfl⟩
    · split <;> exact ⟨rfl, rfl⟩

theorem gotoWaypoint_speeds (n : Navigator D) (location : Location D) (heading : D)
    (w : Waypoint D) : SameSpeeds n (n.gotoWaypoint location heading w).1 := by
  obtain ⟨n', last, rfl, ⟨-, hn, -⟩ | ⟨-, speed, angle, distance, hn, -⟩⟩ :=
    n.gotoWaypoint_cases location heading w
  · rw [hn]
    exact ⟨rfl, rfl⟩
  · rw [hn]
    exact SameSpeeds.trans (m := { n with lastDistance := last }) ⟨rfl, rfl⟩ (move_speeds ..)

theorem gotoNextWaypoint_speeds {location : Location D} {heading : D}
    {res : Navigator D × Int × D} (h : n.gotoNextWaypoint location heading = .ok res) :
    SameSpeeds n res.1 := by
  rcases gotoNextWaypoint_cases h with ⟨-, m, hm, rfl⟩ | ⟨-, w, -, rfl⟩
  · have hstart : SameSpeeds n m := by
      rcases findStart_cases hm with ⟨-, rfl⟩ | ⟨-, c, -, rfl⟩ <;> exact ⟨rfl, rfl⟩
    have hslow : SameSpeeds m (m.slowNearStart location) := by
      unfold slowNearStart
      split <;> exact ⟨rfl, rfl⟩
    have hgoto := (hstart.trans hslow).trans
      (gotoWaypoint_speeds _ location heading (m.slowNearStart location).startWaypoint)
    simp only [approachStart]
    split
    · exact ⟨hgoto.cam, hgoto.line⟩
    · exact hgoto
  · have hgoto := n.gotoWaypoint_speeds location heading w
    simp only [followPath]
    split
    · simp only [advance]
      split
      · split <;> exact ⟨hgoto.cam, hgoto.line⟩
      · exact ⟨hgoto.cam, hgoto.line⟩
    · exact hgoto

end Navigator

/-! ## Bounds, on exact numbers -/

/-- The work speeds, the path and the motors are within a bound. -/
structure Navigator.Limited (n : Navigator ℝ) (bound : Int) : Prop where
  route : n.toRoute.Limited bound
  cam : SpeedWithin bound n.camWorkSpeed
  line : SpeedWithin bound n.lineWorkSpeed
  motors : n.WithinSpeed bound

namespace Navigator

variable {n m : Navigator ℝ} {bound : Int}

/-- `Move` at a speed within the bound, which is no lower than that of a spin. -/
theorem move_within (hbound : spinSpeed ≤ bound) (n : Navigator ℝ) {speed : Int}
    (hspeed : SpeedWithin bound speed) (angle distance : ℝ) :
    (n.move speed angle distance).WithinSpeed bound := by
  cases hstop : n.doNotMove with
  | true =>
    obtain ⟨hleft, hright⟩ := move_halts hstop speed angle distance
    have hpos : 0 ≤ bound := hspeed.1.trans hspeed.2
    rw [WithinSpeed, hleft, hright, abs_zero]
    exact ⟨hpos, hpos⟩
  | false =>
    obtain ⟨hleft, hright⟩ := move_withinSpeed hstop hspeed.1 angle distance
    have hmax : max speed 500 ≤ bound := max_le hspeed.2 hbound
    exact ⟨hleft.trans hmax, hright.trans hmax⟩

theorem WithinSpeed.congr (h : n.WithinSpeed bound) (hleft : m.motorLeft = n.motorLeft)
    (hright : m.motorRight = n.motorRight) : m.WithinSpeed bound := by
  rw [WithinSpeed, hleft, hright]
  exact h

/-- `GotoWaypoint` moves at the speed of the waypoint. -/
theorem gotoWaypoint_within (hbound : spinSpeed ≤ bound) (h : n.WithinSpeed bound)
    (location : Location ℝ) (heading : ℝ) {w : Waypoint ℝ} (hw : SpeedWithin bound w.speed) :
    (n.gotoWaypoint location heading w).1.WithinSpeed bound := by
  simp only [gotoWaypoint]
  split
  · exact move_within hbound _ hw _ _
  · exact h

/-- The start point, once it was looked for. -/
theorem findStart_limited (hbound : 1000 ≤ bound) (h : n.toRoute.Limited bound)
    {location : Location ℝ} (hm : n.findStart location = .ok m) (hfinding : n.findingPath = true) :
    m.waypoints = n.waypoints ∧ SpeedWithin bound m.startWaypoint.speed := by
  rcases findStart_cases hm with ⟨hidx, rfl⟩ | ⟨-, c, -, rfl⟩
  · exact ⟨rfl, h.start hfinding hidx⟩
  · exact ⟨rfl, show (0 : Int) ≤ 1000 by decide, hbound⟩

theorem slowNearStart_limited (hbound : 1000 ≤ bound) (location : Location ℝ)
    (h : SpeedWithin bound n.startWaypoint.speed) :
    (n.slowNearStart location).waypoints = n.waypoints ∧
      SpeedWithin bound (n.slowNearStart location).startWaypoint.speed := by
  unfold slowNearStart
  split
  · exact ⟨rfl, show (0 : Int) ≤ 300 by decide, show (300 : Int) ≤ bound by omega⟩
  · exact ⟨rfl, h⟩

/-- On the way to the start point. -/
theorem approachStart_limited (hbound : 1000 ≤ bound)
    (hwaypoints : ∀ w ∈ n.waypoints, SpeedWithin bound w.speed)
    (hstart : SpeedWithin bound n.startWaypoint.speed) (hmotors : n.WithinSpeed bound)
    (location : Location ℝ) (heading : ℝ) :
    (n.approachStart location heading).1.toRoute.Limited bound ∧
      (n.approachStart location heading).1.WithinSpeed bound := by
  obtain ⟨hsame, hslow⟩ := slowNearStart_limited hbound location hstart
  obtain ⟨hquiet, -⟩ := n.slowNearStart_quiet location
  obtain ⟨last, hroute⟩ := (n.slowNearStart location).gotoWaypoint_toRoute location heading
    (n.slowNearStart location).startWaypoint
  have hspin : spinSpeed ≤ bound := le_trans (by decide) hbound
  have hwithin := gotoWaypoint_within hspin (hmotors.congr hquiet.motorLeft hquiet.motorRight)
    location heading hslow
  have hlimited : ((n.slowNearStart location).gotoWaypoint location heading
      (n.slowNearStart location).startWaypoint).1.toRoute.Limited bound := by
    rw [hroute]
    refine ⟨?_, fun _ _ => hslow⟩
    rw [show _ = n.waypoints from hsame]
    exact hwaypoints
  simp only [approachStart]
  split
  · exact ⟨⟨hlimited.waypoints, fun hc => absurd hc Bool.false_ne_true⟩, hwithin⟩
  · exact ⟨hlimited, hwithin⟩

/-- On the path. -/
theorem followPath_limited (hbound : 1000 ≤ bound) (h : n.toRoute.Limited bound)
    (hfinding : n.findingPath = false) (hmotors : n.WithinSpeed bound) (location : Location ℝ)
    (heading : ℝ) {w : Waypoint ℝ} (hw : SpeedWithin bound w.speed) :
    (n.followPath location heading w).1.toRoute.Limited bound ∧
      (n.followPath location heading w).1.WithinSpeed bound := by
  obtain ⟨last, hroute⟩ := n.gotoWaypoint_toRoute location heading w
  have hspin : spinSpeed ≤ bound := le_trans (by decide) hbound
  have hwithin := gotoWaypoint_within hspin hmotors location heading hw
  obtain ⟨hquiet, -⟩ := (n.gotoWaypoint location heading w).1.advance_quiet
  have hlimited : ∀ r : Route ℝ, r.waypoints = (n.gotoWaypoint location heading w).1.waypoints →
      r.findingPath = (n.gotoWaypoint location heading w).1.findingPath → r.Limited bound := by
    intro r hwaypoints hoff
    rw [hroute] at hwaypoints hoff
    refine ⟨?_, fun hc => ?_⟩
    · rw [hwaypoints]
      exact h.waypoints
    · rw [hoff] at hc
      exact absurd (hfinding.symm.trans hc) (by decide)
  simp only [followPath]
  split
  · refine ⟨?_, hwithin.congr hquiet.motorLeft hquiet.motorRight⟩
    simp only [advance]
    split
    · split <;> exact hlimited _ rfl rfl
    · exact hlimited _ rfl rfl
  · exact ⟨hlimited _ rfl rfl, hwithin⟩

/-- What is read is a waypoint of the path. -/
theorem waypointAt_mem {r : Route ℝ} {index : Int} {w : Waypoint ℝ}
    (h : r.waypointAt index = .ok w) : w ∈ r.waypoints := by
  unfold Route.waypointAt at h
  split at h
  next hrange =>
    rw [← Except.ok.inj h]
    exact List.getElem_mem hrange.2
  next => cases h

/-- **A call of `GotoNextWaypoint` keeps to the bound.** -/
theorem gotoNextWaypoint_limited (hbound : 1000 ≤ bound) (h : n.Limited bound)
    {location : Location ℝ} {heading : ℝ} {res : Navigator ℝ × Int × ℝ}
    (hres : n.gotoNextWaypoint location heading = .ok res) : res.1.Limited bound := by
  have hspeeds := gotoNextWaypoint_speeds hres
  have hboth : res.1.toRoute.Limited bound ∧ res.1.WithinSpeed bound := by
    rcases gotoNextWaypoint_cases hres with ⟨hfinding, m, hm, rfl⟩ | ⟨hfinding, w, hw, rfl⟩
    · obtain ⟨hwaypoints, hstart⟩ := findStart_limited hbound h.route hm hfinding
      obtain ⟨hquiet, -⟩ := findStart_quiet hm
      exact approachStart_limited hbound (hwaypoints ▸ h.route.waypoints) hstart
        (h.motors.congr hquiet.motorLeft hquiet.motorRight) location heading
    · exact followPath_limited hbound h.route hfinding h.motors location heading
        (h.route.waypoints w (waypointAt_mem hw))
  exact ⟨hboth.1, hspeeds.cam ▸ h.cam, hspeeds.line ▸ h.line, hboth.2⟩

end Navigator

end Solarbot.Nav
