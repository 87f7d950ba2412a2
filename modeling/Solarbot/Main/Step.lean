import Solarbot.Main.Robot
import Solarbot.Nav.Motion

/-!
# What a step can do

One lemma for each kind of event; the properties of whole runs are derived from
these and do not look into `step`.
-/

namespace Solarbot.Main

open Nav Nav.Navigator

variable {D : Type} [Dbl D]

/-- Neither a motor command nor the obstacle stop changed. -/
structure SameMotors (n n' : Navigator D) : Prop where
  doNotMove : n'.doNotMove = n.doNotMove
  driver : n'.driver = n.driver
  motorLeft : n'.motorLeft = n.motorLeft
  motorRight : n'.motorRight = n.motorRight

/-- Neither the waypoints nor the place on the path changed. -/
structure SamePath (r r' : Route D) : Prop where
  waypoints : r'.waypoints = r.waypoints
  waypointsSize : r'.waypointsSize = r.waypointsSize
  waypointsIndex : r'.waypointsIndex = r.waypointsIndex
  findingPath : r'.findingPath = r.findingPath

namespace Robot

variable {s s' : Robot D} {rd : Readings D}

/-- The robot is navigating by waypoints. -/
def ByWaypoints (s : Robot D) : Prop :=
  s.navigating = true ∧ s.navigator.mode = .modeWaypoints

/-- Both antennas have a precise fix. -/
def GoodFix (rd : Readings D) : Prop := rd.location.quality = 4 ∧ rd.location2.quality = 4

/-- The iteration calls `GotoNextWaypoint`. -/
def CallsGotoNext (s : Robot D) (rd : Readings D) : Prop := s.ByWaypoints ∧ GoodFix rd

/-- The iteration calls `Move` for the camera or the line sensor. -/
def SteersByImage (s : Robot D) (rd : Readings D) : Prop :=
  s.navigating = true ∧ (s.navigator.mode = .modeVisual ∨
    s.navigator.mode = .modeLine ∧ rd.lineResult = 0)

omit [Dbl D] in
theorem isLocationGood_sense (s : Robot D) (rd : Readings D) :
    (s.sense rd).isLocationGood = true ↔ GoodFix rd := by
  rw [isLocationGood, Bool.and_eq_true, decide_eq_true_iff, decide_eq_true_iff]
  rfl

/-- An iteration only faults in `GotoNextWaypoint`. -/
theorem iterate_total
    (h : s.CallsGotoNext rd → ∃ res,
      (s.sense rd).navigator.gotoNextWaypoint rd.location rd.gpsHeading = .ok res) :
    ∃ s', s.iterate rd = .ok s' := by
  unfold iterate navigate
  split
  next hn =>
    split
    next hm =>
      unfold navigateWaypoints
      split
      next => exact ⟨_, rfl⟩
      next hgood =>
        have hfix : GoodFix rd := (isLocationGood_sense s rd).mp (by simpa using hgood)
        obtain ⟨res, hres⟩ := h ⟨⟨hn, hm⟩, hfix⟩
        rw [show (s.sense rd).location = rd.location from rfl, hres]
        exact ⟨_, rfl⟩
    next => exact ⟨_, rfl⟩
    next => exact ⟨_, rfl⟩
    next => exact ⟨_, rfl⟩
  next => exact ⟨_, rfl⟩

/-- **What an iteration does** after the sensing: it calls `GotoNextWaypoint`, or it
moves for an image, or it is quiet and keeps the route. -/
theorem iterate_cases (h : s.iterate rd = .ok s') :
    (s.CallsGotoNext rd ∧ ∃ res,
        (s.sense rd).navigator.gotoNextWaypoint rd.location rd.gpsHeading = .ok res ∧
        s' = { s.sense rd with
          navigator := res.1
          navigating := if res.2.1 = Err.navigatorDone then false else s.navigating }) ∨
      (∃ n, s' = { s.sense rd with navigator := n } ∧ n.toRoute = s.navigator.toRoute ∧
        ((s.SteersByImage rd ∧ Moved (s.sense rd).navigator n) ∨
          (¬ s.SteersByImage rd ∧ ¬ s.CallsGotoNext rd ∧ Quiet (s.sense rd).navigator n))) := by
  -- the branches that end without a motor command
  have hquiet : ¬ s.SteersByImage rd → ¬ s.CallsGotoNext rd → s' = s.sense rd →
      ∃ n, s' = { s.sense rd with navigator := n } ∧ n.toRoute = s.navigator.toRoute ∧
        ((s.SteersByImage rd ∧ Moved (s.sense rd).navigator n) ∨
          (¬ s.SteersByImage rd ∧ ¬ s.CallsGotoNext rd ∧ Quiet (s.sense rd).navigator n)) := by
    intro hi hg hs
    exact ⟨_, hs, rfl, .inr ⟨hi, hg, Quiet.refl _⟩⟩
  have hnav : (s.sense rd).navigating = s.navigating := rfl
  have hmode : (s.sense rd).navigator.mode = s.navigator.mode := rfl
  unfold iterate navigate at h
  rw [hnav, hmode] at h
  by_cases hn : s.navigating = true
  · rw [if_pos hn] at h
    cases hm : s.navigator.mode with
    | modeWaypoints =>
      simp only [hm] at h
      unfold navigateWaypoints at h
      split at h
      next hgood =>
        -- without a precise fix only the eyes change
        refine .inr ⟨_, (Except.ok.inj h).symm, rfl, .inr ⟨?_, ?_, ⟨rfl, rfl, rfl, rfl, rfl⟩⟩⟩
        · simp [SteersByImage, hm]
        · intro hcall
          rw [(isLocationGood_sense s rd).mpr hcall.2] at hgood
          exact absurd hgood (by decide)
      next hgood =>
        obtain ⟨res, hres, hs'⟩ := Loops.map_ok h
        have hcall : s.CallsGotoNext rd :=
          ⟨⟨hn, hm⟩, (isLocationGood_sense s rd).mp (by simpa using hgood)⟩
        exact .inl ⟨hcall, res, hres, hs'.symm⟩
    | modeVisual =>
      simp only [hm] at h
      refine .inr ⟨_, (Except.ok.inj h).symm, ?_, .inl ⟨⟨hn, .inl hm⟩, move_moved ..⟩⟩
      exact move_toRoute ..
    | modeLine =>
      simp only [hm, gotoByLine] at h
      split at h
      next hr =>
        refine .inr ⟨_, (Except.ok.inj h).symm, ?_, .inl ⟨⟨hn, .inr ⟨hm, hr⟩⟩, move_moved ..⟩⟩
        exact move_toRoute ..
      next hr =>
        -- the sensor could not be read
        refine .inr (hquiet ?_ ?_ (Except.ok.inj h).symm)
        · simp [SteersByImage, hm, hr]
        · simp [CallsGotoNext, ByWaypoints, hm]
    | standby =>
      simp only [hm] at h
      refine .inr (hquiet ?_ ?_ (Except.ok.inj h).symm)
      · simp [SteersByImage, hm]
      · simp [CallsGotoNext, ByWaypoints, hm]
  · rw [if_neg hn] at h
    refine .inr (hquiet ?_ ?_ (Except.ok.inj h).symm)
    · exact fun hi => hn hi.1
    · exact fun hg => hn hg.1.1

/-- Seen from the driver, an iteration either writes, and goes on navigating, or
it leaves the last command alone. The second case is that of an iteration that does
not get to `Move`, and the only one in which driving can end. -/
theorem iterate_motion (h : s.iterate rd = .ok s') :
    ((s.SteersByImage rd ∨ s.CallsGotoNext rd ∧
          ¬ s.navigator.AtTarget rd.location rd.gpsHeading) ∧
        s'.navigating = true ∧ Moved (s.sense rd).navigator s'.navigator) ∨
      (¬ s.SteersByImage rd ∧
        (s.CallsGotoNext rd → s.navigator.AtTarget rd.location rd.gpsHeading) ∧
        (s'.navigating = true ↔ s.navigating = true ∧
          ¬ (s.CallsGotoNext rd ∧ s.navigator.OnLastLeg)) ∧
        Quiet (s.sense rd).navigator s'.navigator) := by
  rcases iterate_cases h with ⟨hcall, res, hres, rfl⟩ |
    ⟨n, rfl, -, ⟨himage, hm⟩ | ⟨himage, hcall, hq⟩⟩
  · have himage : ¬ s.SteersByImage rd := by
      intro hi
      rcases hi.2 with hmode | ⟨hmode, -⟩ <;> simp [hcall.1.2] at hmode
    -- sensing does not change where the rover is sent
    have hsame : (s.sense rd).navigator.AtTarget rd.location rd.gpsHeading ↔
        s.navigator.AtTarget rd.location rd.gpsHeading := atTarget_congr (by rfl) _ _
    rcases gotoNextWaypoint_motion hres with ⟨hat, hq, hdone⟩ | ⟨hat, hm, hdone⟩
    · refine .inr ⟨himage, fun _ => hsame.mp hat, ?_, hq⟩
      dsimp only
      split
      next hl => exact iff_of_false (by simp) fun hc => hc.2 ⟨hcall, hdone.mp hl⟩
      next hl => exact ⟨fun hn => ⟨hn, fun hc => hl (hdone.mpr hc.2)⟩, fun hc => hc.1⟩
    · refine .inl ⟨.inr ⟨hcall, fun hc => hat (hsame.mpr hc)⟩, ?_, hm⟩
      exact (if_neg hdone).trans hcall.1.1
  · exact .inl ⟨.inl himage, himage.1, hm⟩
  · refine .inr ⟨himage, fun hc => absurd hc hcall, ?_, hq⟩
    exact ⟨fun hn => ⟨hn, fun hc => hcall hc.1⟩, fun hc => hc.1⟩

/-- The detection of an iteration is one update. -/
theorem iterate_detection (h : s.iterate rd = .ok s') :
    s'.detection = s.detection.update rd.clock (criticalObjectDetectedCount rd.results) := by
  have hstop : s'.navigator.doNotMove = (s.sense rd).navigator.doNotMove := by
    rcases iterate_motion h with ⟨-, -, hm⟩ | ⟨-, -, -, hq⟩
    · exact hm.doNotMove
    · exact hq.doNotMove
  rcases iterate_cases h with ⟨-, res, -, rfl⟩ | ⟨n, rfl, -⟩
  · exact congrArg (fun b => { (s.sense rd).detection with doNotMove := b }) hstop
  · exact congrArg (fun b => { (s.sense rd).detection with doNotMove := b }) hstop

/-! ## The commands and the remote controller -/

omit [Dbl D] in
theorem initModeVisual_frame (s : Robot D) (i : InitResults) :
    ∃ b, (s.initModeVisual i).1 = { s with modeVisualInitialized := b } := by
  unfold initModeVisual
  split
  · exact ⟨_, rfl⟩
  · split
    · exact ⟨_, rfl⟩
    · split <;> exact ⟨_, rfl⟩

omit [Dbl D] in
theorem initModeLine_frame (s : Robot D) (i : InitResults) :
    ∃ b, (s.initModeLine i).1 = { s with modeLineInitialized := b } := by
  unfold initModeLine
  split
  · exact ⟨_, rfl⟩
  · split <;> exact ⟨_, rfl⟩

omit [Dbl D] in
/-- **What `SETMODE` does**: it touches neither the motors nor the path. It ends in
standby, or navigating in a mode of its own; by waypoints only when there are
some. -/
theorem setMode_cases (s : Robot D) (arg : List Char) (i : InitResults) :
    SameMotors s.navigator (s.executeCommandSetMode arg i).1.navigator ∧
      SamePath s.navigator.toRoute (s.executeCommandSetMode arg i).1.navigator.toRoute ∧
      (((s.executeCommandSetMode arg i).1.navigating = false ∧
          (s.executeCommandSetMode arg i).1.navigator.mode = .standby) ∨
        ((s.executeCommandSetMode arg i).1.navigating = true ∧
          (s.executeCommandSetMode arg i).1.navigator.mode ≠ .standby ∧
          ((s.executeCommandSetMode arg i).1.navigator.mode = .modeWaypoints →
            s.navigator.waypoints ≠ []))) := by
  unfold executeCommandSetMode
  cases string2Mode arg with
  | modeWaypoints =>
    dsimp only
    split
    next hpos =>
      exact ⟨⟨rfl, rfl, rfl, rfl⟩, ⟨rfl, rfl, rfl, rfl⟩, .inr ⟨rfl, by simp [goNavigate],
        fun _ => List.ne_nil_of_length_pos hpos⟩⟩
    next => exact ⟨⟨rfl, rfl, rfl, rfl⟩, ⟨rfl, rfl, rfl, rfl⟩, .inl ⟨rfl, rfl⟩⟩
  | modeVisual =>
    obtain ⟨b, hb⟩ := initModeVisual_frame s i
    dsimp only
    split
    · simp only [goNavigate, hb]
      exact ⟨⟨rfl, rfl, rfl, rfl⟩, ⟨rfl, rfl, rfl, rfl⟩, .inr (by simp)⟩
    · simp only [goStandby, hb]
      exact ⟨⟨rfl, rfl, rfl, rfl⟩, ⟨rfl, rfl, rfl, rfl⟩, .inl ⟨trivial, trivial⟩⟩
  | modeLine =>
    obtain ⟨b, hb⟩ := initModeLine_frame s i
    dsimp only
    split
    · simp only [goNavigate, hb]
      exact ⟨⟨rfl, rfl, rfl, rfl⟩, ⟨rfl, rfl, rfl, rfl⟩, .inr (by simp)⟩
    · simp only [goStandby, hb]
      exact ⟨⟨rfl, rfl, rfl, rfl⟩, ⟨rfl, rfl, rfl, rfl⟩, .inl ⟨trivial, trivial⟩⟩
  | standby => exact ⟨⟨rfl, rfl, rfl, rfl⟩, ⟨rfl, rfl, rfl, rfl⟩, .inl ⟨rfl, rfl⟩⟩

/-- **What `GOTO` does**: nothing, or it puts the robot on the path of the file it
read. -/
theorem goto_cases (s : Robot D) (file : Option (List Char)) :
    (s.executeCommandGoto file).1 = s ∨
      ∃ text, file = some text ∧ s.isLocationGood = true ∧
        SameMotors s.navigator (s.executeCommandGoto file).1.navigator ∧
        SamePath (s.navigator.loadWaypoints (some text)).1
          (s.executeCommandGoto file).1.navigator.toRoute ∧
        (s.executeCommandGoto file).1.navigating = true ∧
        (s.executeCommandGoto file).1.navigator.mode = .modeWaypoints := by
  unfold executeCommandGoto
  split
  next hgood =>
    cases file with
    | none => exact .inl rfl
    | some text =>
      exact .inr ⟨text, rfl, hgood, ⟨rfl, rfl, rfl, rfl⟩, ⟨rfl, rfl, rfl, rfl⟩, rfl, rfl⟩
  next => exact .inl rfl

omit [Dbl D] in
/-- The commands leave the detection alone. -/
theorem setMode_detection (s : Robot D) (arg : List Char) (i : InitResults) :
    (s.executeCommandSetMode arg i).1.detection = s.detection := by
  unfold executeCommandSetMode
  cases string2Mode arg with
  | modeWaypoints =>
    dsimp only
    split <;> rfl
  | modeVisual =>
    obtain ⟨b, hb⟩ := initModeVisual_frame s i
    simp only [hb]
    split <;> rfl
  | modeLine =>
    obtain ⟨b, hb⟩ := initModeLine_frame s i
    simp only [hb]
    split <;> rfl
  | standby => rfl

theorem goto_detection (s : Robot D) (file : Option (List Char)) :
    (s.executeCommandGoto file).1.detection = s.detection := by
  unfold executeCommandGoto
  split
  · cases file <;> rfl
  · rfl

/-- The frame drives the robot. -/
def ControlFrame.Drives (f : ControlFrame) : Prop := f.command = 0x7302 ∧ f.value = 1

/-- The frame gives the robot back. -/
def ControlFrame.Releases (f : ControlFrame) : Prop := f.command = 0x7302 ∧ f.value ≠ 1

omit [Dbl D] in
/-- **What a controller frame does**: only the control unit sees it. -/
theorem readRxController_cases (s : Robot D) (f : ControlFrame) :
    ∃ d, s.readRxController f = { s with navigator := { s.navigator with driver := d } } ∧
      ((f.Drives ∧ d = s.navigator.driver.remoteControllerWrite f.leftSpeed f.rightSpeed) ∨
        (f.Releases ∧ d = s.navigator.driver.release) ∨
        (¬ f.Drives ∧ ¬ f.Releases ∧ d = s.navigator.driver)) := by
  unfold readRxController
  split
  next hc =>
    split
    next hv => exact ⟨_, rfl, .inl ⟨⟨hc, hv⟩, rfl⟩⟩
    next hv => exact ⟨_, rfl, .inr (.inl ⟨⟨hc, hv⟩, rfl⟩)⟩
  next hc =>
    exact ⟨_, rfl, .inr (.inr ⟨fun h => hc h.1, fun h => hc h.1, rfl⟩)⟩

/-! ## The start -/

/-- A waypoints file that was set and could be opened is loaded. -/
theorem initModeWaypoint_cases {s : Robot D} {file : Option (Option (List Char))}
    (hs : s.modeWaypointInitialized = false) (h : (s.initModeWaypoint file).2 = 0) :
    ∃ text, file = some (some text) ∧ (s.initModeWaypoint file).1.navigator =
      { s.navigator with toRoute := (s.navigator.loadWaypoints (some text)).1 } := by
  unfold initModeWaypoint at h ⊢
  simp only [hs, Bool.false_eq_true, if_false] at h ⊢
  cases file with
  | none =>
    have h : Err.notFound = 0 := h
    exact absurd h (by decide)
  | some file =>
    cases file with
    | none =>
      have h : Err.navigatorOpeningFile = 0 := h
      exact absurd h (by decide)
    | some text => exact ⟨text, rfl, rfl⟩

/-- The modes other than `ModeWaypoints` leave the navigator alone. -/
theorem initMode_cases {s : Robot D} {file : Option (Option (List Char))} {i : InitResults}
    (hs : s.modeWaypointInitialized = false) (h : (s.initMode file i).2 = 0) :
    (s.navigator.mode ≠ .modeWaypoints ∧ (s.initMode file i).1.navigator = s.navigator) ∨
      s.navigator.mode = .modeWaypoints ∧ ∃ text, file = some (some text) ∧
        (s.initMode file i).1.navigator =
          { s.navigator with toRoute := (s.navigator.loadWaypoints (some text)).1 } := by
  unfold initMode at h ⊢
  cases hm : s.navigator.mode with
  | modeVisual =>
    obtain ⟨b, hb⟩ := initModeVisual_frame s i
    exact .inl ⟨by simp, by simp only [hb]⟩
  | modeLine =>
    obtain ⟨b, hb⟩ := initModeLine_frame s i
    exact .inl ⟨by simp, by simp only [hb]⟩
  | modeWaypoints =>
    simp only [hm] at h
    exact .inr ⟨rfl, initModeWaypoint_cases hs h⟩
  | standby => exact .inl ⟨by simp, rfl⟩

end Robot

/-- **What `run` starts from**: the driver was told to stop, the robot navigates
unless it is in standby, and by waypoints it has read their file. -/
theorem startUp_cases {c : Config D} {s : Robot D} (h : startUp c = some s) :
    SameMotors c.constructed.navigator s.navigator ∧
      s.navigating = decide (s.navigator.mode ≠ Modes.standby) ∧
      ((s.navigator.mode ≠ .modeWaypoints ∧
          s.navigator.toRoute = c.constructed.navigator.toRoute) ∨
        string2Mode c.mode = .modeWaypoints ∧ ∃ text, c.waypointsFile = some (some text) ∧
          s.navigator.toRoute = (c.constructed.navigator.loadWaypoints (some text)).1) := by
  simp only [startUp] at h
  split at h
  next hr =>
    obtain rfl := Option.some.inj h
    simp only [Robot.setDetection]
    rcases Robot.initMode_cases rfl hr with ⟨hmode, hnav⟩ | ⟨hmode, text, hfile, hnav⟩
    · rw [hnav]
      exact ⟨⟨rfl, rfl, rfl, rfl⟩, rfl, .inl ⟨hmode, rfl⟩⟩
    · rw [hnav]
      exact ⟨⟨rfl, rfl, rfl, rfl⟩, rfl, .inr ⟨hmode, text, hfile, rfl⟩⟩
  next => exact absurd h (by simp)

/-- Telemetry changes nothing. -/
theorem telemetry_eq {s s' : Robot D} (h : Runs.Graph step s .telemetry s') : s = s' := by
  rw [Runs.Graph, step] at h
  obtain ⟨_, -, hs'⟩ := Loops.map_ok h
  exact hs'

end Solarbot.Main
