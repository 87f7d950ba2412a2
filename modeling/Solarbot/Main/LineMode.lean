import Solarbot.Line.Sensor
import Solarbot.Main.Step
import Solarbot.Nav.Speeds

/-!
# Driving by the line sensor

The robot together with its `LineNavigator`: an iteration in `ModeLine` reads the sensor, and
the navigator moves with what was read. `InitModeLine` gives the sensor its factors; before, it
has those of the class, with an angle factor of 25.

`line_mode_bends` is what comes of it, over whole runs and whatever the sensor sends: the sensor
is never read without the factors of `InitModeLine`, the angle stays inside the slow sector, and
the robot neither turns on the spot nor drives a wheel slower than 784.
-/

namespace Solarbot.Main

open Nav Nav.Navigator

variable {D : Type} [Dbl D]

/-- The robot, and `navigator->line` with `navigator->line_data`. -/
structure WithLine (D : Type) where
  robot : Robot D
  line : Line.LineNavigator D
  lineData : Line.Data D

/-- What the sensor answers to a read: the value of `select`, and what there is to be read. -/
structure Answer where
  rv : Int
  text : List Char

/-- How a step can end the program. -/
inductive LineFault where
  | read
  | path (fault : Nav.Fault)

namespace WithLine

/-- What `InitModeLine` does to the sensor; `Init` stores its arguments before it opens the
port. -/
def initModeLine (s : WithLine D) : WithLine D :=
  if s.robot.modeLineInitialized then s
  else { s with line := .initModeLine s.line.portRxBuffer }

/-- An event of the robot, in which a read of the sensor gets `answer`. -/
def step (s : WithLine D) : Event D × Answer → Except LineFault (WithLine D)
  | (.iterate rd, answer) =>
    if s.robot.navigating = true ∧ s.robot.navigator.mode = .modeLine then
      match s.line.read s.lineData answer.rv answer.text with
      | none => .error .read
      | some (line, data, r) =>
        match s.robot.iterate { rd with lineResult := r, lineAngle := data.angle } with
        | .error fault => .error (.path fault)
        | .ok robot => .ok ⟨robot, line, data⟩
    else
      match s.robot.iterate rd with
      | .error fault => .error (.path fault)
      | .ok robot => .ok { s with robot := robot }
  | (.setMode arg init, _) =>
    let s := if string2Mode arg = .modeLine then s.initModeLine else s
    .ok { s with robot := (s.robot.executeCommandSetMode arg init).1 }
  | (e, _) =>
    match Main.step s.robot e with
    | .error fault => .error (.path fault)
    | .ok robot => .ok { s with robot := robot }

end WithLine

/-- The start, over memory that holds anything. -/
def startUpWithLine (c : Config D) (portRxBuffer : List Char) (lineData : Line.Data D) :
    Option (WithLine D) :=
  (startUp c).map fun robot =>
    { robot
      line :=
        if robot.navigator.mode = .modeLine then .initModeLine portRxBuffer
        else .init portRxBuffer 0 0 (num 1) (num 1) (num 25)
      lineData }

/-! ## The slow sector -/

/-- One wheel has the work speed, and the other is not much slower. -/
def Bends (left right : Int) : Prop :=
  left = 1000 ∧ (784 ≤ right ∧ right ≤ 1000) ∨ right = 1000 ∧ (800 ≤ left ∧ left ≤ 1000)

/-- What the angles of the sensor come to. -/
theorem move_bends {n : Navigator ℝ} (hmode : n.mode = .modeLine) (hmove : n.doNotMove = false)
    {angle : ℝ} (h : -6 ≤ angle ∧ angle ≤ 13 / 2) :
    Bends (n.move 1000 angle defaultDistance).motorLeft
      (n.move 1000 angle defaultDistance).motorRight := by
  obtain ⟨hlo, hhi⟩ := h
  -- in this mode the sector is 15 degrees, and half of the speed can be lost
  have hsteering : steering n.mode 1000 (defaultDistance : ℝ) = (500, 15) := by
    rcases steering_cases n.mode 1000 (defaultDistance : ℝ) with ⟨h, -⟩ | ⟨-, h, -⟩ | ⟨-, -, h⟩
    · rw [hmode] at h
      cases h
    · norm_num [defaultDistance] at h
    · have hhalf : (1000 : Int) - Int.tdiv 1000 2 = 500 := by decide
      rw [h, hhalf, Int.cast_ofNat]
  have hshort : shortAngle angle = angle := shortAngle_of_abs_le (abs_le.mpr ⟨by linarith, by linarith⟩)
  have hsector : |angle| < (15 : ℝ) := abs_lt.mpr ⟨by linarith, by linarith⟩
  have hlost : ∀ lost : Int, slowdown angle 15 500 ≤ lost ↔ 500 * |angle| < (lost + 1) * 15 :=
    slowdown_le_iff (by norm_num) (by norm_num)
  have hnonneg : 0 ≤ slowdown angle 15 500 := slowdown_nonneg (by norm_num) (by norm_num)
  have hmotors := move_motors hmove 1000 angle defaultDistance
  dsimp only at hmotors
  rw [hsteering, hshort] at hmotors
  dsimp only at hmotors
  rw [if_pos hsector] at hmotors
  by_cases hside : 0 < angle
  · have hbound : slowdown angle 15 500 ≤ 216 := by
      -- 13 / 2 of 15 degrees lose 216
      rw [hlost, abs_of_pos hside]
      norm_num
      linarith
    rw [if_pos hside, Prod.mk.injEq] at hmotors
    exact .inl ⟨hmotors.1, by omega, by omega⟩
  · have hbound : slowdown angle 15 500 ≤ 200 := by
      rw [hlost, abs_of_nonpos (not_lt.mp hside)]
      norm_num
      linarith
    rw [if_neg hside, Prod.mk.injEq] at hmotors
    exact .inr ⟨hmotors.2, by omega, by omega⟩

/-! ## The sensor is ready when it is read -/

namespace Robot

variable {s s' : Robot D} {rd : Readings D}

/-- What an iteration leaves alone. -/
theorem iterate_keeps (h : s.iterate rd = .ok s') :
    s'.modeLineInitialized = s.modeLineInitialized ∧ s'.navigator.mode = s.navigator.mode ∧
      s'.navigator.lineWorkSpeed = s.navigator.lineWorkSpeed := by
  unfold iterate navigate at h
  split at h
  next =>
    split at h
    next =>
      -- by waypoints
      unfold navigateWaypoints at h
      split at h
      next =>
        rw [← Except.ok.inj h]
        exact ⟨rfl, rfl, rfl⟩
      next =>
        obtain ⟨res, hres, hs'⟩ := Loops.map_ok h
        rw [← hs']
        refine ⟨rfl, ?_, (gotoNextWaypoint_speeds hres).line⟩
        rcases gotoNextWaypoint_motion hres with ⟨-, hq, -⟩ | ⟨-, hm, -⟩
        · exact hq.mode
        · exact hm.mode
    next =>
      rw [← Except.ok.inj h]
      exact ⟨rfl, move_mode .., (move_speeds ..).line⟩
    next =>
      rw [← Except.ok.inj h]
      -- by the line
      unfold gotoByLine
      split
      · exact ⟨rfl, move_mode .., (move_speeds ..).line⟩
      · exact ⟨rfl, rfl, rfl⟩
    next =>
      rw [← Except.ok.inj h]
      exact ⟨rfl, rfl, rfl⟩
  next =>
    rw [← Except.ok.inj h]
    exact ⟨rfl, rfl, rfl⟩

omit [Dbl D] in
/-- `SETMODE` only ends in `ModeLine` when the sensor was initialised, and only initialises it
when it was asked for that mode. -/
theorem setMode_line (s : Robot D) (arg : List Char) (i : InitResults) :
    ((s.executeCommandSetMode arg i).1.navigator.mode = .modeLine →
        (s.executeCommandSetMode arg i).1.modeLineInitialized = true) ∧
      (string2Mode arg ≠ .modeLine →
        (s.executeCommandSetMode arg i).1.modeLineInitialized = s.modeLineInitialized) ∧
      (s.executeCommandSetMode arg i).1.navigator.lineWorkSpeed = s.navigator.lineWorkSpeed := by
  unfold executeCommandSetMode
  cases harg : string2Mode arg with
  | modeWaypoints =>
    dsimp only
    split
    · exact ⟨fun hc => (by cases hc), fun _ => rfl, rfl⟩
    · exact ⟨fun hc => (by cases hc), fun _ => rfl, rfl⟩
  | modeVisual =>
    obtain ⟨b, hb⟩ := initModeVisual_frame s i
    dsimp only
    rw [hb]
    split
    · exact ⟨fun hc => (by cases hc), fun _ => rfl, rfl⟩
    · exact ⟨fun hc => (by cases hc), fun _ => rfl, rfl⟩
  | modeLine =>
    dsimp only
    refine ⟨?_, fun hc => absurd rfl hc, ?_⟩
    · -- it is only entered when the sensor is initialized
      unfold initModeLine
      split
      next hinit =>
        intro _
        exact hinit
      next =>
        split
        · intro hc
          cases hc
        · intro _
          rfl
    · obtain ⟨b, hb⟩ := initModeLine_frame s i
      rw [hb]
      split <;> rfl
  | standby => exact ⟨fun hc => (by cases hc), fun _ => rfl, rfl⟩

/-- `GOTO` does not end in `ModeLine`, unless it did nothing. -/
theorem goto_line (s : Robot D) (file : Option (List Char)) :
    (s.executeCommandGoto file).1.modeLineInitialized = s.modeLineInitialized ∧
      (s.executeCommandGoto file).1.navigator.lineWorkSpeed = s.navigator.lineWorkSpeed ∧
      ((s.executeCommandGoto file).1.navigator.mode = .modeLine → s.navigator.mode = .modeLine) := by
  unfold executeCommandGoto
  split
  · cases file with
    | none => exact ⟨rfl, rfl, id⟩
    | some text => exact ⟨rfl, rfl, fun hc => (by cases hc)⟩
  · exact ⟨rfl, rfl, id⟩

end Robot

namespace WithLine

/-- The invariant: in `ModeLine` the sensor was initialised, and then it has the factors of
`InitModeLine`. -/
structure Ready (s : WithLine D) : Prop where
  initialized : s.robot.navigator.mode = .modeLine → s.robot.modeLineInitialized = true
  plain : s.robot.modeLineInitialized = true → s.line.Plain
  workSpeed : s.robot.navigator.lineWorkSpeed = 1000

variable {s s' : WithLine D}

/-- The robot after an iteration, with a sensor that is as plain as before. -/
theorem Ready.iterate (h : s.Ready) {rd : Readings D} {robot : Robot D}
    (hs : s.robot.iterate rd = .ok robot) {line : Line.LineNavigator D}
    (hline : s.line.Plain → line.Plain) (data : Line.Data D) :
    (⟨robot, line, data⟩ : WithLine D).Ready := by
  obtain ⟨hflag, hmode, hspeed⟩ := Robot.iterate_keeps hs
  refine ⟨?_, ?_, hspeed.trans h.workSpeed⟩
  · dsimp only
    rw [hmode, hflag]
    exact h.initialized
  · dsimp only
    rw [hflag]
    exact fun hinit => hline (h.plain hinit)

theorem initModeLine_plain (h : s.Ready) : s.initModeLine.line.Plain := by
  unfold initModeLine
  split
  next hinit => exact h.plain hinit
  next => exact rfl

/-- **What an iteration in `ModeLine` is**: a read of the sensor, and an iteration of the robot
with what was read. -/
theorem step_line {rd : Readings D} {answer : Answer}
    (hline : s.robot.navigating = true ∧ s.robot.navigator.mode = .modeLine)
    (h : s.step (.iterate rd, answer) = .ok s') :
    ∃ r, s.line.read s.lineData answer.rv answer.text = some (s'.line, s'.lineData, r) ∧
      s.robot.iterate { rd with lineResult := r, lineAngle := s'.lineData.angle } =
        .ok s'.robot := by
  simp only [step, if_pos hline] at h
  split at h
  next => cases h
  next line data r hread =>
    split at h
    next => cases h
    next robot hrobot =>
      obtain rfl := Except.ok.inj h
      exact ⟨r, hread, hrobot⟩

theorem step_of_read {rd : Readings D} {answer : Answer} {line : Line.LineNavigator D}
    {data : Line.Data D} {r : Int} {robot : Robot D}
    (hline : s.robot.navigating = true ∧ s.robot.navigator.mode = .modeLine)
    (hread : s.line.read s.lineData answer.rv answer.text = some (line, data, r))
    (hrobot : s.robot.iterate { rd with lineResult := r, lineAngle := data.angle } = .ok robot) :
    s.step (.iterate rd, answer) = .ok ⟨robot, line, data⟩ := by
  simp only [step, if_pos hline, hread, hrobot]

/-- Every step keeps the sensor ready. -/
theorem step_ready (s : WithLine D) (e : Event D × Answer) (s' : WithLine D) (h : s.Ready)
    (hs : Runs.Graph step s e s') : s'.Ready := by
  obtain ⟨e, answer⟩ := e
  unfold Runs.Graph at hs
  cases e with
  | iterate rd =>
    by_cases hline : s.robot.navigating = true ∧ s.robot.navigator.mode = .modeLine
    · -- only this iteration reads the sensor
      obtain ⟨r, hread, hrobot⟩ := step_line hline hs
      exact h.iterate hrobot (fun hplain => Line.LineNavigator.read_plain hplain hread) _
    · simp only [step, if_neg hline] at hs
      split at hs
      next => cases hs
      next robot hrobot =>
        obtain rfl := Except.ok.inj hs
        exact h.iterate hrobot id _
  | telemetry =>
    simp only [step] at hs
    split at hs
    next => cases hs
    next robot hrobot =>
      obtain rfl := Except.ok.inj hs
      rw [← telemetry_eq hrobot]
      exact h
  | goto file =>
    obtain rfl := Except.ok.inj hs
    obtain ⟨hflag, hspeed, hmode⟩ := s.robot.goto_line file
    refine ⟨fun hc => hflag.trans (h.initialized (hmode hc)), ?_, hspeed.trans h.workSpeed⟩
    exact fun hc => h.plain (hflag.symm.trans hc)
  | setMode arg init =>
    obtain rfl := Except.ok.inj hs
    by_cases harg : string2Mode arg = .modeLine
    · -- `InitModeLine` runs when the sensor has not been initialized
      rw [if_pos harg]
      have hrobot : s.initModeLine.robot = s.robot := by
        unfold initModeLine
        split <;> rfl
      obtain ⟨hmode, -, hspeed⟩ := s.robot.setMode_line arg init
      rw [hrobot]
      exact ⟨hmode, fun _ => initModeLine_plain h, hspeed.trans h.workSpeed⟩
    · rw [if_neg harg]
      obtain ⟨hmode, hflag, hspeed⟩ := s.robot.setMode_line arg init
      exact ⟨hmode, fun hc => h.plain ((hflag harg).symm.trans hc), hspeed.trans h.workSpeed⟩
  | remote frame =>
    obtain rfl := Except.ok.inj hs
    obtain ⟨d, hd, -⟩ := s.robot.readRxController_cases frame
    rw [hd]
    exact ⟨h.initialized, h.plain, h.workSpeed⟩

end WithLine

theorem Robot.initModeWaypoint_frame (s : Robot D) (file : Option (Option (List Char))) :
    ∃ route b, (s.initModeWaypoint file).1 = { s with
      navigator := { s.navigator with toRoute := route }, modeWaypointInitialized := b } := by
  unfold Robot.initModeWaypoint
  split
  · exact ⟨_, _, rfl⟩
  · split
    · exact ⟨_, _, rfl⟩
    · dsimp only
      split
      · exact ⟨_, _, rfl⟩
      · exact ⟨_, _, rfl⟩

/-- The initialisation of the mode keeps it, and initialises the sensor in `ModeLine` only. -/
theorem Robot.initMode_line {s : Robot D} (hflag : s.modeLineInitialized = false)
    {file : Option (Option (List Char))} {i : Robot.InitResults} (h : (s.initMode file i).2 = 0) :
    (s.initMode file i).1.navigator.mode = s.navigator.mode ∧
      ((s.initMode file i).1.modeLineInitialized = true ↔ s.navigator.mode = .modeLine) ∧
      (s.initMode file i).1.navigator.lineWorkSpeed = s.navigator.lineWorkSpeed := by
  have hoff : ¬ s.modeLineInitialized = true := by simp [hflag]
  unfold Robot.initMode at h ⊢
  cases hm : s.navigator.mode with
  | modeVisual =>
    obtain ⟨b, hb⟩ := Robot.initModeVisual_frame s i
    dsimp only
    rw [hb]
    exact ⟨hm, iff_of_false hoff (by decide), rfl⟩
  | modeLine =>
    simp only [hm] at h
    dsimp only
    unfold Robot.initModeLine at h ⊢
    rw [if_neg hoff] at h ⊢
    split at h
    next =>
      have h : Err.openingNavigationLine = 0 := h
      exact absurd h (by decide)
    next hline =>
      rw [if_neg hline]
      exact ⟨hm, iff_of_true rfl rfl, rfl⟩
  | modeWaypoints =>
    obtain ⟨route, b, hb⟩ := s.initModeWaypoint_frame file
    dsimp only
    rw [hb]
    exact ⟨hm, iff_of_false hoff (by decide), rfl⟩
  | standby => exact ⟨hm, iff_of_false hoff (by decide), rfl⟩

theorem startUp_line {c : Config D} {s : Robot D} (h : startUp c = some s) :
    (s.modeLineInitialized = true ↔ s.navigator.mode = .modeLine) ∧
      s.navigator.lineWorkSpeed = 1000 := by
  simp only [startUp] at h
  split at h
  next hr =>
    obtain ⟨hmode, hflag, hspeed⟩ := Robot.initMode_line rfl hr
    obtain rfl := Option.some.inj h
    simp only [Robot.setDetection]
    rw [hmode]
    exact ⟨hflag, hspeed⟩
  next => cases h

theorem startUpWithLine_ready {c : Config D} {portRxBuffer : List Char} {lineData : Line.Data D}
    {s : WithLine D} (h : startUpWithLine c portRxBuffer lineData = some s) : s.Ready := by
  obtain ⟨robot, hrobot, rfl⟩ := Option.map_eq_some_iff.mp h
  obtain ⟨hflag, hspeed⟩ := startUp_line hrobot
  refine ⟨hflag.mpr, fun hc => ?_, hspeed⟩
  dsimp only
  rw [if_pos (hflag.mp hc)]
  rfl

/-! ## Whole runs -/

/-- An iteration in `ModeLine` is one call of `GotoByLine`. -/
theorem Robot.iterate_byLine {s s' : Robot D} {rd : Readings D}
    (hline : s.navigating = true ∧ s.navigator.mode = .modeLine) (h : s.iterate rd = .ok s') :
    s'.navigator = ((s.sense rd).navigator.gotoByLine rd.lineResult rd.lineAngle).1 := by
  unfold Robot.iterate Robot.navigate at h
  rw [show (s.sense rd).navigating = true from hline.1,
    show (s.sense rd).navigator.mode = .modeLine from hline.2] at h
  rw [← Except.ok.inj h]

/-- **Driving by the line bends and never turns on the spot.** From start-up, over every run on
exact numbers and whatever the sensor sends: an iteration that navigates in `ModeLine` leaves
the motors alone when the sensor could not be read, tells them to stop while the robot must not
move, and otherwise writes a command in which one wheel has the work speed and the other at
least 784. -/
theorem line_mode_bends {c : Config ℝ} {portRxBuffer : List Char} {lineData : Line.Data ℝ}
    {s m s' : WithLine ℝ} (hstart : startUpWithLine c portRxBuffer lineData = some s)
    {es : List (Event ℝ × Answer)} (hrun : Runs.run WithLine.step s es = .ok m)
    {rd : Readings ℝ} {answer : Answer}
    (hline : m.robot.navigating = true ∧ m.robot.navigator.mode = .modeLine)
    (hstep : m.step (.iterate rd, answer) = .ok s') :
    ∃ r left right, m.line.read m.lineData answer.rv answer.text =
        some (s'.line, s'.lineData, r) ∧
      ((r ≠ 0 ∧ s'.robot.navigator.driver = m.robot.navigator.driver) ∨
        (r = 0 ∧ s'.robot.navigator.driver = m.robot.navigator.driver.write left right ∧
          if s'.robot.navigator.doNotMove then left = 0 ∧ right = 0 else Bends left right)) := by
  have hready : m.Ready := Runs.Path.guarded (G := fun _ _ => True)
    (fun s e s' h _ hs => WithLine.step_ready s e s' h hs) (Runs.run_ok_iff.mp hrun)
    (Runs.Along.of_forall (fun _ _ => trivial) es s) (startUpWithLine_ready hstart)
  obtain ⟨r, hread, hrobot⟩ := WithLine.step_line hline hstep
  refine ⟨r, s'.robot.navigator.motorLeft, s'.robot.navigator.motorRight, hread, ?_⟩
  have hnavigator := Robot.iterate_byLine hline hrobot
  rw [hnavigator]
  by_cases hr : r = 0
  · obtain rfl := hr
    have hplain : m.line.Plain := hready.plain (hready.initialized hline.2)
    obtain ⟨⟨hllo, hlhi⟩, ⟨hrlo, hrhi⟩, hangle⟩ := Line.read_range hplain hread
    have hspeed : (m.robot.sense { rd with
        lineResult := 0, lineAngle := s'.lineData.angle }).navigator.lineWorkSpeed = 1000 :=
      hready.workSpeed
    -- the tables keep the angle within these
    have hlimits : -6 ≤ s'.lineData.angle ∧ s'.lineData.angle ≤ 13 / 2 := by
      rw [hangle]
      exact ⟨by linarith, by linarith⟩
    simp only [gotoByLine, if_pos, hspeed]
    refine .inr ⟨trivial, by rw [move_driver]; rfl, ?_⟩
    rw [move_doNotMove]
    split
    next hstop => exact move_halts hstop ..
    next hfree =>
      have hmove := Bool.eq_false_iff.mpr hfree
      exact move_bends (n := (m.robot.sense _).navigator) hline.2 hmove hlimits
  · refine .inl ⟨hr, ?_⟩
    simp only [gotoByLine, if_neg hr]
    rfl

/-- The robot in `ModeLine`, before its first iteration. -/
theorem sampleWithLine_start : ∃ s : WithLine ℝ,
    startUpWithLine (plainConfig "line".toList none) (List.replicate 101 '\x00') Line.sampleData =
      some s ∧ s.line = Line.sampleLineNavigator ∧ s.lineData = Line.sampleData ∧
      s.robot.navigating = true ∧ s.robot.navigator.mode = .modeLine := ⟨_, rfl, rfl, rfl, rfl, rfl⟩

theorem line_mode_bends_sample : ∃ s s' : WithLine ℝ,
    startUpWithLine (plainConfig "line".toList none) (List.replicate 101 '\x00') Line.sampleData =
      some s ∧
    s.step (.iterate (clearFix 1), ⟨1, Line.sampleSensorLine.text⟩) = .ok s' ∧
    ∃ r left right, s.line.read s.lineData 1 Line.sampleSensorLine.text =
        some (s'.line, s'.lineData, r) ∧
      ((r ≠ 0 ∧ s'.robot.navigator.driver = s.robot.navigator.driver) ∨
        (r = 0 ∧ s'.robot.navigator.driver = s.robot.navigator.driver.write left right ∧
          if s'.robot.navigator.doNotMove then left = 0 ∧ right = 0 else Bends left right)) := by
  obtain ⟨s, hstart, hsensor, hdata, hline⟩ := sampleWithLine_start
  obtain ⟨line, data, hread⟩ := Line.sampleSensorLine_read
  have hiterate : ∃ robot, s.robot.iterate { clearFix 1 with
      lineResult := 0, lineAngle := data.angle } = .ok robot :=
    Robot.iterate_total fun hcall => absurd (hline.2.symm.trans hcall.1.2) (by decide)
  obtain ⟨robot, hrobot⟩ := hiterate
  rw [← hsensor, ← hdata] at hread
  have hstep : s.step (.iterate (clearFix 1), ⟨1, Line.sampleSensorLine.text⟩) =
      .ok ⟨robot, line, data⟩ := WithLine.step_of_read hline hread hrobot
  have hrun : Runs.run WithLine.step s [] = .ok s := rfl
  have hbends := line_mode_bends hstart hrun hline hstep
  exact ⟨s, ⟨robot, line, data⟩, hstart, hstep, hbends⟩

end Solarbot.Main
