import Solarbot.Nav.Path

/-!
# What the motors are told

Seen from the driver, a call of the navigator does one of two things: it moves,
and then its motor command is written (`Moved`), or it is quiet (`Quiet`).
`gotoNextWaypoint_motion` says which, for a call of `GotoNextWaypoint`: it is quiet
exactly when the rover is at the target of the call.
-/

namespace Solarbot.Nav

variable {D : Type} [Dbl D]

namespace Navigator

/-- Nothing was written, and the last motor command is the same. -/
structure Quiet (n n' : Navigator D) : Prop where
  mode : n'.mode = n.mode
  doNotMove : n'.doNotMove = n.doNotMove
  driver : n'.driver = n.driver
  motorLeft : n'.motorLeft = n.motorLeft
  motorRight : n'.motorRight = n.motorRight

/-- A motor command was written; with `DoNotMove` it is zero. -/
structure Moved (n n' : Navigator D) : Prop where
  mode : n'.mode = n.mode
  doNotMove : n'.doNotMove = n.doNotMove
  driver : n'.driver = n.driver.write n'.motorLeft n'.motorRight
  halts : n.doNotMove = true → n'.motorLeft = 0 ∧ n'.motorRight = 0

variable {n m k : Navigator D}

omit [Dbl D] in
theorem Quiet.refl (n : Navigator D) : Quiet n n := ⟨rfl, rfl, rfl, rfl, rfl⟩

omit [Dbl D] in
theorem Quiet.trans (h : Quiet n m) (h' : Quiet m k) : Quiet n k :=
  ⟨h'.mode.trans h.mode, h'.doNotMove.trans h.doNotMove, h'.driver.trans h.driver,
    h'.motorLeft.trans h.motorLeft, h'.motorRight.trans h.motorRight⟩

omit [Dbl D] in
theorem Quiet.moved (h : Quiet n m) (h' : Moved m k) : Moved n k :=
  ⟨h'.mode.trans h.mode, h'.doNotMove.trans h.doNotMove, h.driver ▸ h'.driver,
    fun hd => h'.halts (h.doNotMove.trans hd)⟩

omit [Dbl D] in
theorem Moved.quiet (h : Moved n m) (h' : Quiet m k) : Moved n k :=
  ⟨h'.mode.trans h.mode, h'.doNotMove.trans h.doNotMove,
    by rw [h'.driver, h'.motorLeft, h'.motorRight]; exact h.driver,
    fun hd => by rw [h'.motorLeft, h'.motorRight]; exact h.halts hd⟩

/-- `Move` writes to the driver. -/
theorem move_moved (n : Navigator D) (speed : Int) (angle distance : D) :
    Moved n (n.move speed angle distance) :=
  ⟨n.move_mode .., n.move_doNotMove .., n.move_driver .., fun hd => move_halts hd ..⟩

/-- `GotoWaypoint` is quiet at the waypoint, and moves otherwise. -/
theorem gotoWaypoint_motion (n : Navigator D) (location : Location D) (heading : D)
    (waypoint : Waypoint D) :
    (n.Reached location heading waypoint ∧
        Quiet n (n.gotoWaypoint location heading waypoint).1 ∧
        (n.gotoWaypoint location heading waypoint).2.1 = 0) ∨
      (¬ n.Reached location heading waypoint ∧
        Moved n (n.gotoWaypoint location heading waypoint).1 ∧
        (n.gotoWaypoint location heading waypoint).2.1 = 1) := by
  obtain ⟨n', last, rfl, ⟨hreached, hn, hr⟩ | ⟨hreached, speed, angle, distance, hn, hr⟩⟩ :=
    n.gotoWaypoint_cases location heading waypoint
  · refine .inl ⟨hreached, ?_, hr⟩
    rw [hn]
    exact ⟨rfl, rfl, rfl, rfl, rfl⟩
  · refine .inr ⟨hreached, ?_, hr⟩
    have hlast : Quiet n { n with lastDistance := last } := ⟨rfl, rfl, rfl, rfl, rfl⟩
    rw [hn]
    exact hlast.moved (move_moved ..)

/-! ## The target of `GotoNextWaypoint` -/

/-- The waypoint a call of `GotoNextWaypoint` heads for. -/
def target (n : Navigator D) (location : Location D) : Except Fault (Waypoint D) :=
  if n.findingPath then
    (n.findStart location).map fun n => (n.slowNearStart location).startWaypoint
  else n.waypointAt n.waypointsIndex

/-- The rover is at the target of the call. -/
def AtTarget (n : Navigator D) (location : Location D) (heading : D) : Prop :=
  ∃ w, n.target location = .ok w ∧ n.Reached location heading w

/-- The path ends with the current waypoint. -/
def OnLastLeg (n : Navigator D) : Prop :=
  n.findingPath = false ∧ n.waypointsSize ≤ n.waypointsIndex + 1 ∧ n.loopNavigate = false

/-- Where the start point is depends on the route alone. -/
theorem slowNearStart_congr (h : m.toRoute = n.toRoute) (location : Location D) :
    (m.slowNearStart location).startWaypoint = (n.slowNearStart location).startWaypoint := by
  have hstart : m.startWaypoint = n.startWaypoint := congrArg Route.startWaypoint h
  unfold slowNearStart
  rw [hstart]
  split
  · rfl
  · exact hstart

/-- Where a call heads for is a matter of the route alone. -/
theorem atTarget_congr (h : m.toRoute = n.toRoute) (location : Location D) (heading : D) :
    m.AtTarget location heading ↔ n.AtTarget location heading := by
  have htarget : m.target location = n.target location := by
    simp only [target, findStart, h]
    split
    · split
      · cases n.findClosestPathPoint location with
        | error f => rfl
        | ok c => exact congrArg Except.ok (slowNearStart_congr (by rfl) location)
      · exact congrArg Except.ok (slowNearStart_congr h location)
    · rfl
  simp only [AtTarget, Reached, htarget, h]

/-- How the search for the start ends: the start is known, or it was looked for. -/
theorem findStart_cases {location : Location D} (h : n.findStart location = .ok m) :
    (n.waypointsIndex ≠ -1 ∧ m = n) ∨
      (n.waypointsIndex = -1 ∧ ∃ c, n.findClosestPathPoint location = .ok c ∧
        m = { n with
          waypointsIndex := c.startWaypointIndex
          startWaypoint := ⟨c.closestPoint.lat, c.closestPoint.lon, 1000⟩ }) := by
  unfold findStart at h
  split at h
  next hidx =>
    obtain ⟨c, hc, hm⟩ := Loops.bind_ok h
    exact .inr ⟨hidx, c, hc, (Except.ok.inj hm).symm⟩
  next hidx => exact .inl ⟨hidx, (Except.ok.inj h).symm⟩

/-- The two calls behind `GotoNextWaypoint`. -/
theorem gotoNextWaypoint_cases {location : Location D} {heading : D}
    {res : Navigator D × Int × D} (h : n.gotoNextWaypoint location heading = .ok res) :
    (n.findingPath = true ∧
        ∃ m, n.findStart location = .ok m ∧ res = m.approachStart location heading) ∨
      (n.findingPath = false ∧
        ∃ w, n.waypointAt n.waypointsIndex = .ok w ∧ res = n.followPath location heading w) := by
  unfold gotoNextWaypoint at h
  split at h
  next hfinding =>
    obtain ⟨m, hm, hres⟩ := Loops.map_ok h
    exact .inl ⟨hfinding, m, hm, hres.symm⟩
  next hfinding =>
    obtain ⟨w, hw, hres⟩ := Loops.map_ok h
    exact .inr ⟨Bool.eq_false_iff.mpr hfinding, w, hw, hres.symm⟩

/-- What the search for the start leaves alone. -/
theorem findStart_quiet {location : Location D} (h : n.findStart location = .ok m) :
    Quiet n m ∧ m.lastDistance = n.lastDistance := by
  rcases findStart_cases h with ⟨-, rfl⟩ | ⟨-, c, -, rfl⟩
  · exact ⟨Quiet.refl m, rfl⟩
  · exact ⟨⟨rfl, rfl, rfl, rfl, rfl⟩, rfl⟩

/-- Slowing down writes nothing. -/
theorem slowNearStart_quiet (n : Navigator D) (location : Location D) :
    Quiet n (n.slowNearStart location) ∧
      (n.slowNearStart location).lastDistance = n.lastDistance := by
  unfold slowNearStart
  split
  · exact ⟨⟨rfl, rfl, rfl, rfl, rfl⟩, rfl⟩
  · exact ⟨Quiet.refl n, rfl⟩

omit [Dbl D] in
/-- Neither does going on to the next waypoint, which ends at the last one of an open path. -/
theorem advance_quiet (n : Navigator D) :
    Quiet n n.advance.1 ∧
      (n.advance.2 = Err.navigatorDone ↔
        n.waypointsSize ≤ n.waypointsIndex + 1 ∧ n.loopNavigate = false) := by
  simp only [advance]
  split
  next hend =>
    split
    next hloop =>
      exact ⟨⟨rfl, rfl, rfl, rfl, rfl⟩, iff_of_false Err.zero_ne_navigatorDone (by simp [hloop])⟩
    next hloop =>
      exact ⟨⟨rfl, rfl, rfl, rfl, rfl⟩, iff_of_true rfl ⟨hend, by simpa using hloop⟩⟩
  next hend => exact ⟨⟨rfl, rfl, rfl, rfl, rfl⟩, iff_of_false Err.zero_ne_navigatorDone fun h => hend h.1⟩

/-- On the way to the start point the rover moves until it is there. -/
theorem approachStart_motion (n : Navigator D) (location : Location D) (heading : D) :
    (n.Reached location heading (n.slowNearStart location).startWaypoint ∧
        Quiet n (n.approachStart location heading).1) ∨
      (¬ n.Reached location heading (n.slowNearStart location).startWaypoint ∧
        Moved n (n.approachStart location heading).1) := by
  obtain ⟨hslow, hlast⟩ := n.slowNearStart_quiet location
  have hsame : ∀ w, (n.slowNearStart location).Reached location heading w ↔
      n.Reached location heading w := by
    intro w
    simp only [Reached, hlast]
  simp only [approachStart]
  rcases (n.slowNearStart location).gotoWaypoint_motion location heading
      (n.slowNearStart location).startWaypoint with ⟨hreached, hq, hr⟩ | ⟨hreached, hm, hr⟩
  · rw [hr, if_pos rfl]
    refine .inl ⟨(hsame _).mp hreached, hslow.trans (hq.trans ⟨rfl, rfl, rfl, rfl, rfl⟩)⟩
  · rw [hr, if_neg (by decide)]
    exact .inr ⟨fun h => hreached ((hsame _).mpr h), hslow.moved hm⟩

/-- On its path it moves until it is at the waypoint. -/
theorem followPath_motion (n : Navigator D) (location : Location D) (heading : D)
    (w : Waypoint D) :
    (n.Reached location heading w ∧ Quiet n (n.followPath location heading w).1 ∧
        ((n.followPath location heading w).2.1 = Err.navigatorDone ↔
          n.waypointsSize ≤ n.waypointsIndex + 1 ∧ n.loopNavigate = false)) ∨
      (¬ n.Reached location heading w ∧ Moved n (n.followPath location heading w).1 ∧
        (n.followPath location heading w).2.1 = 0) := by
  simp only [followPath]
  rcases n.gotoWaypoint_motion location heading w with ⟨hreached, hq, hr⟩ | ⟨hreached, hm, hr⟩
  · obtain ⟨hadv, hdone⟩ := (n.gotoWaypoint location heading w).1.advance_quiet
    rw [hr, if_pos rfl]
    obtain ⟨last, hroute⟩ := n.gotoWaypoint_toRoute location heading w
    rw [hroute] at hdone
    exact .inl ⟨hreached, hq.trans hadv, hdone⟩
  · rw [hr, if_neg (by decide)]
    exact .inr ⟨hreached, hm, rfl⟩

/-- **What a call of `GotoNextWaypoint` tells the motors.** At its target it is
quiet, and it reports the end of the path exactly on the last leg. Anywhere else it
moves. -/
theorem gotoNextWaypoint_motion {location : Location D} {heading : D}
    {res : Navigator D × Int × D} (h : n.gotoNextWaypoint location heading = .ok res) :
    (n.AtTarget location heading ∧ Quiet n res.1 ∧
        (res.2.1 = Err.navigatorDone ↔ n.OnLastLeg)) ∨
      (¬ n.AtTarget location heading ∧ Moved n res.1 ∧ res.2.1 ≠ Err.navigatorDone) := by
  rcases gotoNextWaypoint_cases h with ⟨hfinding, m, hm, rfl⟩ | ⟨hfinding, w, hw, rfl⟩
  · -- on the way to the start point the path is never finished
    obtain ⟨hstart, hlast⟩ := findStart_quiet hm
    have htarget : n.AtTarget location heading ↔
        m.Reached location heading (m.slowNearStart location).startWaypoint := by
      simp only [AtTarget, target, if_pos hfinding, hm, Except.map, Except.ok.injEq,
        exists_eq_left', Reached, hlast]
    have hleg : ¬ n.OnLastLeg := fun hl => by simp [hl.1] at hfinding
    rw [htarget]
    rcases m.approachStart_motion location heading with ⟨hr, hq⟩ | ⟨hr, hmv⟩
    · exact .inl ⟨hr, hstart.trans hq, iff_of_false Err.zero_ne_navigatorDone hleg⟩
    · exact .inr ⟨hr, hstart.moved hmv, Err.zero_ne_navigatorDone⟩
  · have htarget : n.AtTarget location heading ↔ n.Reached location heading w := by
      simp only [AtTarget, target, if_neg (Bool.eq_false_iff.mp hfinding), hw, Except.ok.injEq,
        exists_eq_left']
    rw [htarget]
    rcases n.followPath_motion location heading w with ⟨hr, hq, hdone⟩ | ⟨hr, hmv, hdone⟩
    · refine .inl ⟨hr, hq, hdone.trans ?_⟩
      exact ⟨fun h => ⟨hfinding, h⟩, fun h => h.2⟩
    · exact .inr ⟨hr, hmv, hdone ▸ Err.zero_ne_navigatorDone⟩

/-- Beyond the slow sector the robot turns on the spot. -/
theorem spin_right_angle {n : Navigator ℝ} (hmode : n.mode = .modeLine)
    (hmove : n.doNotMove = false) (hfree : n.driver.remoteControllerActivate = false)
    (speed : Int) : (n.move speed 90 defaultDistance).driver.lastCommand = some (500, -500) ∧
      (n.move speed 90 defaultDistance).driver.remoteControllerActivate = false := by
  have hfar : steering n.mode speed (defaultDistance : ℝ) =
      (num (speed - speed.tdiv 2), num 15) := by
    have hlt : Dbl.lt (defaultDistance : ℝ) (num 1) = false := by
      simp only [defaultDistance, real_num, real_lt]
      norm_num
    rw [steering, if_neg (by simp [hmode]), if_neg (Bool.eq_false_iff.mp hlt)]
  have hshort : shortAngle (90 : ℝ) = 90 := by
    simp only [shortAngle, real_num, real_lt]
    norm_num
  have hsector : (Dbl.lt (-num 15) (90 : ℝ) && Dbl.lt (90 : ℝ) (num 15)) = false := by
    simp only [real_num, real_lt]
    norm_num
  have hright : Dbl.lt (num 0) (90 : ℝ) = true := by
    simp only [real_num, real_lt]
    norm_num
  simp only [move, aim, hmove, Bool.false_eq_true, if_false, hfar, hshort, hsector, spin, hright,
    if_true, spinSpeed]
  exact ⟨ControlUnit.lastCommand_write hfree 500 (-500),
    (ControlUnit.write_remoteControllerActivate ..).trans hfree⟩

end Navigator

end Solarbot.Nav
