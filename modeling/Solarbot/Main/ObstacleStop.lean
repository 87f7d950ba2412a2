import Solarbot.Main.Step

/-!
# Does the obstacle stop reach the motors?

`DoNotMove` only becomes a motor command inside `Move`, and an iteration may not
get there: a poor fix, a waypoint that was just reached and a failed read of the
line sensor all end it before. `obstacle_stop_iff` says exactly which runs keep the
law that a robot which is navigating and was told to stop has commanded its motors
to stop.

The invariant is `Obeyed`: without remote control the last command on the wire is
the navigator's `MotorLeft` and `MotorRight`.
-/

namespace Solarbot.Main

open Nav Nav.Navigator

variable {D : Type} [Dbl D]

/-! ## The law and its condition -/

/-- The remote controller does not take over. -/
def NotRemote (_ : Robot D) : Event D → Prop
  | .remote frame => ¬ frame.Drives
  | _ => True

/-- An iteration that ends navigating and told to stop ends with the command
`(0, 0)`. -/
def StopReachesMotors (_ : Robot D) (e : Event D) (s' : Robot D) : Prop :=
  ∀ rd, e = .iterate rd → s'.navigating = true → s'.navigator.doNotMove = true →
    s'.lastCommand = some (0, 0)

/-- The detection of this iteration orders a stop, or upholds one. -/
def StopInForce (d : Detection) (clock : Int) (criticalObjectDetectedCount : Nat) : Prop :=
  if 0 < criticalObjectDetectedCount then
    d.doNotMove = true ∨ objectDetectionTimeToStop < clock - d.lastObjectDetectionStopFilter
  else d.doNotMove = true ∧ clock - d.lastObjectDetectionStop ≤ objectDetectionTimeToStart

/-- `GotoNextWaypoint` is called, and the rover is not at its target, or there the
path ends. -/
def Robot.HeadsOn (s : Robot D) (rd : Readings D) : Prop :=
  s.CallsGotoNext rd ∧
    (s.navigator.AtTarget rd.location rd.gpsHeading → s.navigator.OnLastLeg)

/-- A stop that is in force finds the iteration moving, or the motors told to
stop. -/
def StopIsHeard (s : Robot D) (e : Event D) (_ : Robot D) : Prop :=
  ∀ rd, e = .iterate rd → s.navigating = true →
    StopInForce s.detection rd.clock (criticalObjectDetectedCount rd.results) →
    s.SteersByImage rd ∨ s.HeadsOn rd ∨
      (s.navigator.motorLeft = 0 ∧ s.navigator.motorRight = 0)

/-- The invariant. -/
structure Robot.Obeyed (s : Robot D) : Prop where
  free : s.navigator.driver.remoteControllerActivate = false
  last : s.lastCommand = some (s.navigator.motorLeft, s.navigator.motorRight)

/-! ## One step -/

theorem update_doNotMove (d : Detection) (clock : Int) (count : Nat) :
    (d.update clock count).doNotMove = true ↔ StopInForce d clock count := by
  unfold Detection.update StopInForce
  split
  · split
    next h => exact iff_of_true rfl (.inr h)
    next h => exact ⟨.inl, fun hd => hd.resolve_right h⟩
  · simp only
    split
    next h => exact iff_of_false (by simp) fun hd => absurd h.2 (not_lt.mpr hd.2)
    next h => exact ⟨fun hd => ⟨hd, not_lt.mp fun hlt => h ⟨hd, hlt⟩⟩, fun hd => hd.1⟩

namespace Robot

variable {s s' : Robot D}

omit [Dbl D] in
theorem Obeyed.congr (h : s.Obeyed) (hm : SameMotors s.navigator s'.navigator) : s'.Obeyed := by
  refine ⟨by rw [hm.driver]; exact h.free, ?_⟩
  rw [lastCommand, hm.driver, hm.motorLeft, hm.motorRight]
  exact h.last

omit [Dbl D] in
theorem Obeyed.quiet (h : s.Obeyed) (hq : Quiet s.navigator s'.navigator) : s'.Obeyed :=
  h.congr ⟨hq.doNotMove, hq.driver, hq.motorLeft, hq.motorRight⟩

omit [Dbl D] in
theorem Obeyed.moved (h : s.Obeyed) (hm : Moved s.navigator s'.navigator) : s'.Obeyed := by
  constructor
  · rw [hm.driver, ControlUnit.write_remoteControllerActivate]
    exact h.free
  · rw [lastCommand, hm.driver]
    exact ControlUnit.lastCommand_write h.free ..

omit [Dbl D] in
theorem Obeyed.sense (h : s.Obeyed) (rd : Readings D) : (s.sense rd).Obeyed :=
  ⟨h.free, h.last⟩

/-- An iteration keeps the invariant. -/
theorem iterate_obeyed {rd : Readings D} (h : s.Obeyed) (hs : s.iterate rd = .ok s') :
    s'.Obeyed := by
  rcases iterate_motion hs with ⟨-, -, hm⟩ | ⟨-, -, -, hq⟩
  · exact (h.sense rd).moved hm
  · exact (h.sense rd).quiet hq

/-- The law holds of an iteration exactly when the stop is heard. -/
theorem iterate_stop_iff {rd : Readings D} (h : s.Obeyed) (hs : s.iterate rd = .ok s') :
    (s'.navigating = true → s'.navigator.doNotMove = true → s'.lastCommand = some (0, 0)) ↔
      (s.navigating = true →
        StopInForce s.detection rd.clock (criticalObjectDetectedCount rd.results) →
        s.SteersByImage rd ∨ s.HeadsOn rd ∨
          (s.navigator.motorLeft = 0 ∧ s.navigator.motorRight = 0)) := by
  have hstop : (s.sense rd).navigator.doNotMove = true ↔
      StopInForce s.detection rd.clock (criticalObjectDetectedCount rd.results) :=
    update_doNotMove ..
  have hobeyed := iterate_obeyed h hs
  rcases iterate_motion hs with ⟨hmoves, -, hm⟩ | ⟨himage, htarget, hnav, hq⟩
  · -- the iteration writes: with the stop, it writes zeros
    refine iff_of_true (fun _ hd => ?_) (fun _ _ => ?_)
    · obtain ⟨hl, hr⟩ := hm.halts (hm.doNotMove.symm.trans hd)
      rw [hobeyed.last, hl, hr]
    · rcases hmoves with hi | ⟨hcall, hat⟩
      · exact .inl hi
      · exact .inr (.inl ⟨hcall, fun hc => absurd hc hat⟩)
  · -- the iteration does not write: what was written before decides
    have hzero : s'.lastCommand = some (0, 0) ↔
        s.navigator.motorLeft = 0 ∧ s.navigator.motorRight = 0 := by
      rw [hobeyed.last, hq.motorLeft, hq.motorRight, Option.some.injEq, Prod.mk.injEq]
      rfl
    have hheads : s.HeadsOn rd ↔ s.CallsGotoNext rd ∧ s.navigator.OnLastLeg :=
      ⟨fun hc => ⟨hc.1, hc.2 (htarget hc.1)⟩, fun hc => ⟨hc.1, fun _ => hc.2⟩⟩
    rw [hnav, hq.doNotMove, hstop, hzero, hheads]
    constructor
    · intro hlaw hn hforce
      by_cases hend : s.CallsGotoNext rd ∧ s.navigator.OnLastLeg
      · exact .inr (.inl hend)
      · exact .inr (.inr (hlaw ⟨hn, hend⟩ hforce))
    · intro hheard hn hforce
      rcases hheard hn.1 hforce with hi | hend | hz
      · exact absurd hi himage
      · exact absurd hend hn.2
      · exact hz

end Robot

/-- Without a remote driver, every step keeps the invariant. -/
theorem step_obeyed (s : Robot D) (e : Event D) (s' : Robot D) (h : s.Obeyed)
    (he : NotRemote s e) (hs : Runs.Graph step s e s') : s'.Obeyed := by
  cases e with
  | iterate rd => exact Robot.iterate_obeyed h hs
  | telemetry => exact telemetry_eq hs ▸ h
  | goto file =>
    obtain rfl := Except.ok.inj hs
    rcases Robot.goto_cases s file with hsame | ⟨_, _, _, hm, _⟩
    · exact hsame.symm ▸ h
    · exact h.congr hm
  | setMode arg init =>
    obtain rfl := Except.ok.inj hs
    exact h.congr (Robot.setMode_cases s arg init).1
  | remote frame =>
    obtain rfl := Except.ok.inj hs
    obtain ⟨d, hd, ⟨hdrives, -⟩ | ⟨-, rfl⟩ | ⟨-, -, rfl⟩⟩ := Robot.readRxController_cases s frame
    · exact absurd hdrives he
    · rw [hd]
      exact ⟨rfl, h.last⟩
    · rw [hd]
      exact ⟨h.free, h.last⟩

theorem startUp_obeyed {c : Config D} {s : Robot D} (h : startUp c = some s) : s.Obeyed := by
  obtain ⟨hm, -⟩ := startUp_cases h
  have hconstructed : c.constructed.Obeyed := ⟨rfl, rfl⟩
  exact hconstructed.congr hm

/-! ## Whole runs -/

/-- **Which runs stop for an obstacle.** In a run without remote control, every
iteration that ends navigating and told to stop ends with the command `(0, 0)`, if
and only if every stop is heard: whenever it is in force while the robot navigates,
the iteration gets to `Move`, or finishes the path, or the motors were at zero. -/
theorem obstacle_stop_iff {c : Config D} {s : Robot D} (hstart : startUp c = some s)
    {es : List (Event D)} (hes : Runs.Along (Runs.Graph step) NotRemote s es) :
    Runs.Steps (Runs.Graph step) StopReachesMotors s es ↔
      Runs.Steps (Runs.Graph step) StopIsHeard s es := by
  refine Runs.Steps.congr step_obeyed ?_ hes (startUp_obeyed hstart)
  intro s e s' h _ hs
  refine forall_congr' fun rd => forall_congr' fun he => ?_
  subst he
  exact Robot.iterate_stop_iff h hs

/-! ## A stop that is not heard -/

/-- An obstacle, and the line sensor does not answer. -/
noncomputable def obstacleUnread : Readings ℝ :=
  { clearFix 600000 with results := [[100]], lineResult := -20 }

/-- By the line, an iteration whose sensor does not answer ends after the sensing. -/
theorem iterate_unread {s : Robot D} {rd : Readings D} (hnav : s.navigating = true)
    (hmode : s.navigator.mode = .modeLine) (hread : rd.lineResult ≠ 0) :
    s.iterate rd = .ok (s.sense rd) := by
  have hmode' : (s.sense rd).navigator.mode = .modeLine := hmode
  unfold Robot.iterate Robot.navigate
  rw [if_pos (show (s.sense rd).navigating = true from hnav), hmode']
  simp only [gotoByLine, if_neg hread]
  rfl

/-- The stop comes while the robot turns on the spot, and the robot turns on. -/
theorem stop_not_heard : ∃ s s', startUp (plainConfig "line".toList none) = some s ∧
    Runs.run step s [.iterate sharpTurn, .iterate obstacleUnread] = .ok s' ∧
    s'.navigating = true ∧ s'.navigator.doNotMove = true ∧
    s'.lastCommand = some (500, -500) := by
  refine ⟨_, _, rfl, (Runs.run_cons_ok rfl).trans (Runs.run_cons_ok (iterate_unread ?_ ?_ ?_)),
    ?_, ?_, ?_⟩
  · rfl
  · exact move_mode ..
  · show (-20 : Int) ≠ 0
    decide
  · rfl
  · rfl
  · exact (spin_right_angle rfl rfl rfl 1000).1

/-- The same run, measured by `obstacle_stop_iff`. -/
theorem obstacle_stop_iff_line : ∃ s, startUp (plainConfig "line".toList none) = some s ∧
    (Runs.Steps (Runs.Graph step) StopReachesMotors s
        [.iterate sharpTurn, .iterate obstacleUnread] ↔
      Runs.Steps (Runs.Graph step) StopIsHeard s
        [.iterate sharpTurn, .iterate obstacleUnread]) := by
  obtain ⟨s, hs⟩ : ∃ s, startUp (plainConfig "line".toList none) = some s := ⟨_, rfl⟩
  exact ⟨s, hs, obstacle_stop_iff hs ⟨trivial, fun _ _ => ⟨trivial, fun _ _ => trivial⟩⟩⟩

end Solarbot.Main
