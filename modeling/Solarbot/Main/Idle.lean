import Solarbot.Main.Step

/-!
# When nobody drives

Four things end driving: a path that is finished, a `SETMODE` that goes or falls
back to standby, and a controller that gives the robot back. Each of them only
changes a flag; none tells the motors to stop. So the motors of an undriven robot
stand still exactly as long as each of these finds them standing still, which is
what `EndsStill` asks of a step and `idle_is_stopped` draws the conclusion from.
-/

namespace Solarbot.Main

open Nav Nav.Navigator

variable {D : Type} [Dbl D]

namespace Robot

/-- The last command written to the driver stops both motors. -/
def Still (s : Robot D) : Prop := s.lastCommand = some (0, 0)

/-- The remote controller has the robot. -/
def Remote (s : Robot D) : Prop := s.navigator.driver.remoteControllerActivate = true

/-- Nobody drives, and the motors are not told to stop. -/
def Idle (s : Robot D) : Prop := s.navigating = false ∧ ¬ s.Remote

/-- The iteration finishes the path. -/
def FinishesPath (s : Robot D) (rd : Readings D) : Prop :=
  s.CallsGotoNext rd ∧ s.navigator.AtTarget rd.location rd.gpsHeading ∧ s.navigator.OnLastLeg

/-- `SETMODE` goes to standby, because it is asked to or because the mode cannot be
set. -/
def GoesStandby (s : Robot D) (arg : List Char) (i : InitResults) : Prop :=
  match string2Mode arg with
  | .modeWaypoints => s.navigator.waypoints = []
  | .modeVisual => s.modeVisualInitialized = false ∧ ¬ (i.camInit = true ∧ i.foundCamera = true)
  | .modeLine => s.modeLineInitialized = false ∧ i.lineInit ≠ 0
  | .standby => True

end Robot

/-- The condition on a step: what ends driving finds the motors still. -/
def EndsStill (s : Robot D) : Event D → Prop
  | .iterate rd => s.FinishesPath rd → ¬ s.Remote → s.Still
  | .setMode arg i => s.navigating = true → s.GoesStandby arg i → ¬ s.Remote → s.Still
  | .remote frame => frame.Releases → s.navigating = false → s.Still
  | _ => True

/-- The law: an iteration that ends with nobody driving ends with the command
`(0, 0)`. -/
def IdleIsStopped (_ : Robot D) (e : Event D) (s' : Robot D) : Prop :=
  ∀ rd, e = .iterate rd → s'.Idle → s'.Still

/-! ## One step -/

namespace Robot

variable {s s' : Robot D}

omit [Dbl D] in
/-- Whether the driver is still depends on the driver. -/
theorem Still.congr (h : s.Still) (hd : s'.navigator.driver = s.navigator.driver) :
    s'.Still := by
  rw [Still, lastCommand, hd]
  exact h

omit [Dbl D] in
/-- When the camera's mode cannot be entered. -/
theorem initModeVisual_fails (s : Robot D) (i : InitResults) :
    (s.initModeVisual i).2 ≠ 0 ↔
      s.modeVisualInitialized = false ∧ ¬ (i.camInit = true ∧ i.foundCamera = true) := by
  unfold initModeVisual
  split
  next h => simp [h]
  next h =>
    split
    next hc => simp [h, hc, Err.openingNavigationVisual]
    next hc =>
      split
      next hf => simp [hc, hf]
      next hf => simp [h, hf, Err.notFound]

omit [Dbl D] in
/-- When the line's cannot. -/
theorem initModeLine_fails (s : Robot D) (i : InitResults) :
    (s.initModeLine i).2 ≠ 0 ↔ s.modeLineInitialized = false ∧ i.lineInit ≠ 0 := by
  unfold initModeLine
  split
  next h => simp [h]
  next h =>
    split
    next hl => simp [h, hl, Err.openingNavigationLine]
    next hl => simp [not_not.mp hl]

omit [Dbl D] in
/-- `SETMODE` ends the navigation when the mode is not entered. -/
theorem setMode_standby_iff (s : Robot D) (arg : List Char) (i : InitResults) :
    (s.executeCommandSetMode arg i).1.navigating = false ↔ s.GoesStandby arg i := by
  unfold executeCommandSetMode GoesStandby
  cases string2Mode arg with
  | modeWaypoints =>
    dsimp only
    split
    next h => exact iff_of_false (by simp [goNavigate]) (List.ne_nil_of_length_pos h)
    next h => exact iff_of_true rfl (List.length_eq_zero_iff.mp (Nat.eq_zero_of_not_pos h))
  | modeVisual =>
    dsimp only
    rw [← initModeVisual_fails]
    split
    next h => exact iff_of_false (by simp [goNavigate]) (not_not_intro h)
    next h => exact iff_of_true rfl h
  | modeLine =>
    dsimp only
    rw [← initModeLine_fails]
    split
    next h => exact iff_of_false (by simp [goNavigate]) (not_not_intro h)
    next h => exact iff_of_true rfl h
  | standby => exact iff_of_true rfl trivial

/-- The invariant: an idle robot stands still. -/
def Settled (s : Robot D) : Prop := s.Idle → s.Still

/-- An iteration keeps it: where it ends the path, the condition has the driver still. -/
theorem iterate_settled {rd : Readings D} (h : s.Settled) (he : EndsStill s (.iterate rd))
    (hs : s.iterate rd = .ok s') : s'.Settled := by
  intro hboth
  obtain ⟨hnav, hremote⟩ := hboth
  rcases iterate_motion hs with ⟨-, hnav', -⟩ | ⟨-, htarget, hnav', hq⟩
  · rw [hnav] at hnav'
    exact absurd hnav' (by decide)
  · have hdriver : s'.navigator.driver = s.navigator.driver := hq.driver
    have hfree : ¬ s.Remote := by
      rw [Remote, ← hdriver]
      exact hremote
    refine Still.congr ?_ hdriver
    by_cases hn : s.navigating = true
    · -- driving ended in this iteration: the path is finished
      have hend : s.CallsGotoNext rd ∧ s.navigator.OnLastLeg := by
        by_contra hgo
        rw [hnav'.mpr ⟨hn, hgo⟩] at hnav
        exact absurd hnav (by decide)
      exact he ⟨hend.1, htarget hend.1, hend.2⟩ hfree
    · exact h ⟨by simpa using hn, hfree⟩

/-- And so does `SETMODE`, to whatever mode. -/
theorem setMode_settled (h : s.Settled) {arg : List Char} {i : InitResults}
    (he : EndsStill s (.setMode arg i)) : (s.executeCommandSetMode arg i).1.Settled := by
  intro hboth
  obtain ⟨hnav, hremote⟩ := hboth
  have hdriver := (setMode_cases s arg i).1.driver
  have hfree : ¬ s.Remote := by
    rw [Remote, ← hdriver]
    exact hremote
  refine Still.congr ?_ hdriver
  by_cases hn : s.navigating = true
  · exact he hn ((setMode_standby_iff s arg i).mp hnav) hfree
  · exact h ⟨by simpa using hn, hfree⟩

/-- `GOTO` changes nothing, or the robot navigates. -/
theorem goto_settled (h : s.Settled) (file : Option (List Char)) :
    (s.executeCommandGoto file).1.Settled := by
  rcases goto_cases s file with hs | ⟨_, _, _, _, _, hnav, _⟩
  · rw [hs]
    exact h
  · intro hidle
    rw [hidle.1] at hnav
    exact absurd hnav (by decide)

/-- The frame that hands the robot back finds it still. -/
theorem readRxController_settled (h : s.Settled) {f : ControlFrame}
    (he : EndsStill s (.remote f)) : (s.readRxController f).Settled := by
  obtain ⟨d, hd, ⟨-, rfl⟩ | ⟨hrel, rfl⟩ | ⟨-, -, rfl⟩⟩ := readRxController_cases s f
  · rw [hd]
    exact fun hidle => absurd rfl hidle.2
  · rw [hd]
    exact fun hidle => he hrel hidle.1
  · rw [hd]
    exact h

end Robot

/-- Every step that ends driving only on a still robot leaves no idle robot
moving. -/
theorem step_settled (s : Robot D) (e : Event D) (s' : Robot D) (h : s.Settled)
    (he : EndsStill s e) (hs : Runs.Graph step s e s') : s'.Settled := by
  cases e with
  | iterate rd => exact Robot.iterate_settled h he hs
  | telemetry => exact telemetry_eq hs ▸ h
  | goto file => exact Except.ok.inj hs ▸ Robot.goto_settled h file
  | setMode arg init => exact Except.ok.inj hs ▸ Robot.setMode_settled h he
  | remote frame => exact Except.ok.inj hs ▸ Robot.readRxController_settled h he

/-- At start-up nothing has been driven. -/
theorem startUp_settled {c : Config D} {s : Robot D} (h : startUp c = some s) : s.Settled := by
  intro _
  obtain ⟨hm, -⟩ := startUp_cases h
  have hconstructed : c.constructed.Still := rfl
  exact hconstructed.congr hm.driver

/-! ## Whole runs -/

/-- **Nobody driving means stopped**, in every run in which what ends driving finds
the motors still. -/
theorem idle_is_stopped {c : Config D} {s : Robot D} (hstart : startUp c = some s)
    {es : List (Event D)} (hes : Runs.Along (Runs.Graph step) EndsStill s es) :
    Runs.Steps (Runs.Graph step) IdleIsStopped s es := by
  refine Runs.Steps.guarded step_settled ?_ hes (startUp_settled hstart)
  intro s e s' h he hs rd _
  exact step_settled s e s' h he hs

/-! ## A robot left moving, and one that is not -/

/-- Told to go to standby while it turns on the spot, the robot turns on. -/
theorem standby_turns_on : ∃ s s', startUp (plainConfig "line".toList none) = some s ∧
    Runs.run step s [.iterate sharpTurn, .setMode "standby".toList ⟨true, true, 0⟩,
      .iterate (clearFix 2)] = .ok s' ∧
    s'.navigating = false ∧ s'.navigator.driver.remoteControllerActivate = false ∧
    s'.lastCommand = some (500, -500) := by
  refine ⟨_, _, rfl, (Runs.run_cons_ok rfl).trans ((Runs.run_cons_ok rfl).trans
    (Runs.run_cons_ok rfl)), ?_, ?_, ?_⟩
  · rfl
  · exact (spin_right_angle rfl rfl rfl 1000).2
  · exact (spin_right_angle rfl rfl rfl 1000).1

/-- A controller that stops the robot before it gives it back. -/
theorem idle_is_stopped_remote : ∃ s, startUp (plainConfig "standby".toList none) = some s ∧
    Runs.Steps (Runs.Graph step) IdleIsStopped s
      [.remote ⟨100, 100, 0x7302, 1⟩, .remote ⟨0, 0, 0x7302, 1⟩, .remote ⟨0, 0, 0x7302, 0⟩,
        .iterate (clearFix 1)] := by
  obtain ⟨s, hs⟩ : ∃ s, startUp (plainConfig "standby".toList none) = some s := ⟨_, rfl⟩
  refine ⟨s, hs, idle_is_stopped hs ⟨fun hrel => absurd rfl hrel.2, fun m hm => ?_⟩⟩
  obtain rfl := Except.ok.inj hm
  refine ⟨fun hrel => absurd rfl hrel.2, fun m hm => ?_⟩
  obtain rfl := Except.ok.inj hm
  refine ⟨fun _ _ => rfl, fun m hm => ?_⟩
  obtain rfl := Except.ok.inj hm
  exact ⟨fun _ _ => rfl, fun _ _ => trivial⟩

end Solarbot.Main
