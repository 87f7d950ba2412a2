import Solarbot.Main.Step
import Solarbot.Nav.Speeds

/-!
# The speed limit of the robot

What reaches the wire comes from the navigator or from the remote controller. Where the
waypoint files keep to a limit, and the quality of an image is a percentage, all the navigator
ever has transmitted is within the limit (`speed_limit`); the controller is not limited.

The invariant is `Tame`: the navigator is within the limit, and each transmitted command is, or
is one that the controller was allowed.
-/

namespace Solarbot.Main

open Nav Nav.Navigator

/-- Both wheels are within a bound. -/
def CommandWithin (bound : Int) (command : Int × Int) : Prop := |command.1| ≤ bound ∧ |command.2| ≤ bound

/-- The speeds of a file, when it is loaded over a route. -/
def FileWithin (bound : Int) (r : Route ℝ) (text : List Char) : Prop :=
  ∀ w ∈ (r.loadWaypoints (some text)).1.waypoints, SpeedWithin bound w.speed

/-- The condition on an event: the speeds of a file are within the limit, and the quality of an
image is a percentage. -/
def KeepsLimit (bound : Int) (s : Robot ℝ) : Event ℝ → Prop
  | .iterate rd => 0 ≤ rd.camQuality ∧ rd.camQuality ≤ 100
  | .goto (some text) => FileWithin bound s.navigator.toRoute text
  | _ => True

/-- The controller asks for what it is allowed. -/
def Allows (allowed : Int × Int → Prop) (e : Event ℝ) : Prop :=
  ∀ frame : Robot.ControlFrame, e = .remote frame → frame.Drives →
    allowed (frame.leftSpeed, frame.rightSpeed)

namespace Robot

/-- The invariant. -/
structure Tame (bound : Int) (allowed : Int × Int → Prop) (s : Robot ℝ) : Prop where
  navigator : s.navigator.Limited bound
  written : ∀ command ∈ s.navigator.driver.written, CommandWithin bound command ∨ allowed command

variable {bound : Int} {allowed : Int × Int → Prop} {s s' : Robot ℝ}

/-! ## One step -/

/-- What is written of motors within the limit. -/
theorem write_tame {d : ControlUnit} {left right : Int}
    (h : ∀ command ∈ d.written, CommandWithin bound command ∨ allowed command)
    (hleft : |left| ≤ bound) (hright : |right| ≤ bound) :
    ∀ command ∈ (d.write left right).written, CommandWithin bound command ∨ allowed command := by
  unfold ControlUnit.write
  split
  · intro command hmem
    rcases List.mem_cons.mp hmem with rfl | hmem
    · exact .inl ⟨hleft, hright⟩
    · exact h command hmem
  · exact h

/-- The navigator after a call that moved within the limit. -/
theorem Tame.moved (h : s.Tame bound allowed) {n : Navigator ℝ} (hn : n.Limited bound)
    (hm : Moved s.navigator n) : ({ s with navigator := n } : Robot ℝ).Tame bound allowed := by
  refine ⟨hn, ?_⟩
  rw [hm.driver]
  exact write_tame h.written hn.motors.1 hn.motors.2

theorem Tame.quiet (h : s.Tame bound allowed) {n : Navigator ℝ} (hn : n.Limited bound)
    (hq : Quiet s.navigator n) : ({ s with navigator := n } : Robot ℝ).Tame bound allowed := by
  refine ⟨hn, ?_⟩
  rw [hq.driver]
  exact h.written

/-- `Move` at a speed within the limit. -/
theorem Tame.move (hbound : 1000 ≤ bound) (h : s.Tame bound allowed) {speed : Int}
    (hspeed : SpeedWithin bound speed) (angle distance : ℝ) :
    ({ s with navigator := s.navigator.move speed angle distance } : Robot ℝ).Tame bound
      allowed := by
  have hspin : spinSpeed ≤ bound := le_trans (by decide) hbound
  have hspeeds := s.navigator.move_speeds speed angle distance
  refine h.moved ⟨?_, hspeeds.cam ▸ h.navigator.cam, hspeeds.line ▸ h.navigator.line,
    move_within hspin _ hspeed _ _⟩ (move_moved ..)
  rw [move_toRoute]
  exact h.navigator.route

/-- The work speed, times a percentage. -/
theorem camSpeed_within {quality camWorkSpeed : Int} (hquality : 0 ≤ quality ∧ quality ≤ 100)
    (hcam : SpeedWithin bound camWorkSpeed) :
    SpeedWithin bound (Dbl.toInt (num (quality * camWorkSpeed) / num 100 : ℝ)) := by
  obtain ⟨hlo, hhi⟩ := hquality
  obtain ⟨hcam0, hcam1⟩ := hcam
  have hlo' : (0 : ℝ) ≤ quality := by exact_mod_cast hlo
  have hhi' : (quality : ℝ) ≤ 100 := by exact_mod_cast hhi
  have hcam0' : (0 : ℝ) ≤ camWorkSpeed := by exact_mod_cast hcam0
  have hcam1' : (camWorkSpeed : ℝ) ≤ bound := by exact_mod_cast hcam1
  have hnonneg : (0 : ℝ) ≤ quality * camWorkSpeed / 100 := by positivity
  have hle : (quality : ℝ) * camWorkSpeed / 100 < bound + 1 := by
    have : (quality : ℝ) * camWorkSpeed ≤ 100 * bound :=
      mul_le_mul hhi' hcam1' hcam0' (by norm_num)
    linarith
  rw [real_toInt, real_num, real_num]
  push_cast
  exact ⟨truncReal_nonneg hnonneg, (truncReal_le_iff hnonneg bound).mpr hle⟩

/-- An iteration keeps the limit. -/
theorem iterate_tame (hbound : 1000 ≤ bound) (h : s.Tame bound allowed) {rd : Readings ℝ}
    (hg : KeepsLimit bound s (.iterate rd)) (hs : s.iterate rd = .ok s') :
    s'.Tame bound allowed := by
  have hsense : (s.sense rd).Tame bound allowed :=
    ⟨⟨h.navigator.route, h.navigator.cam, h.navigator.line, h.navigator.motors⟩, h.written⟩
  unfold iterate navigate at hs
  split at hs
  next hn =>
    split at hs
    next hm =>
      unfold navigateWaypoints at hs
      split at hs
      next =>
        -- without a precise fix only the eyes change
        rw [← Except.ok.inj hs]
        exact ⟨⟨hsense.navigator.route, hsense.navigator.cam, hsense.navigator.line,
          hsense.navigator.motors⟩, hsense.written⟩
      next =>
        obtain ⟨res, hres, hs'⟩ := Loops.map_ok hs
        have hlimited := gotoNextWaypoint_limited hbound hsense.navigator hres
        have htame : ({ s.sense rd with navigator := res.1 } : Robot ℝ).Tame bound allowed := by
          rcases gotoNextWaypoint_motion hres with ⟨-, hq, -⟩ | ⟨-, hmoved, -⟩
          · exact hsense.quiet hlimited hq
          · exact hsense.moved hlimited hmoved
        rw [← hs']
        exact ⟨htame.navigator, htame.written⟩
    next =>
      rw [← Except.ok.inj hs]
      exact hsense.move hbound (camSpeed_within hg hsense.navigator.cam) _ _
    next =>
      rw [← Except.ok.inj hs]
      simp only [gotoByLine]
      split
      · exact hsense.move hbound hsense.navigator.line _ _
      · exact hsense
    next =>
      rw [← Except.ok.inj hs]
      exact hsense
  next =>
    rw [← Except.ok.inj hs]
    exact hsense

/-- A file within the limit. -/
theorem load_limited {r : Route ℝ} {text : List Char} (h : FileWithin bound r text) :
    (r.loadWaypoints (some text)).1.Limited bound :=
  ⟨h, fun _ hidx => absurd (loadWaypoints_some r text).2.2 hidx⟩

/-- `SETMODE` writes nothing, and changes no speed. -/
theorem setMode_tame (h : s.Tame bound allowed) (arg : List Char) (i : InitResults) :
    (s.executeCommandSetMode arg i).1.Tame bound allowed := by
  have hsame : ∀ s' : Robot ℝ, s'.navigator.toRoute.waypoints = s.navigator.waypoints →
      s'.navigator.findingPath = s.navigator.findingPath →
      s'.navigator.waypointsIndex = s.navigator.waypointsIndex →
      s'.navigator.startWaypoint = s.navigator.startWaypoint →
      SameMotors s.navigator s'.navigator → SameSpeeds s.navigator s'.navigator →
      s'.Tame bound allowed := by
    intro s' hwaypoints hfinding hidx hstart hmotors hspeeds
    refine ⟨⟨⟨?_, ?_⟩, hspeeds.cam ▸ h.navigator.cam, hspeeds.line ▸ h.navigator.line,
      h.navigator.motors.congr hmotors.motorLeft hmotors.motorRight⟩, ?_⟩
    · rw [hwaypoints]
      exact h.navigator.route.waypoints
    · rw [hfinding, hidx, hstart]
      exact h.navigator.route.start
    · rw [hmotors.driver]
      exact h.written
  unfold executeCommandSetMode
  cases string2Mode arg with
  | modeWaypoints =>
    dsimp only
    split <;> exact hsame _ rfl rfl rfl rfl ⟨rfl, rfl, rfl, rfl⟩ ⟨rfl, rfl⟩
  | modeVisual =>
    obtain ⟨b, hb⟩ := initModeVisual_frame s i
    simp only [hb]
    split <;> exact hsame _ rfl rfl rfl rfl ⟨rfl, rfl, rfl, rfl⟩ ⟨rfl, rfl⟩
  | modeLine =>
    obtain ⟨b, hb⟩ := initModeLine_frame s i
    simp only [hb]
    split <;> exact hsame _ rfl rfl rfl rfl ⟨rfl, rfl, rfl, rfl⟩ ⟨rfl, rfl⟩
  | standby => exact hsame _ rfl rfl rfl rfl ⟨rfl, rfl, rfl, rfl⟩ ⟨rfl, rfl⟩

/-- `GOTO` changes the path only. -/
theorem goto_tame (h : s.Tame bound allowed) {file : Option (List Char)}
    (hg : KeepsLimit bound s (.goto file)) :
    (s.executeCommandGoto file).1.Tame bound allowed := by
  unfold executeCommandGoto
  split
  next =>
    cases file with
    | none => exact h
    | some text =>
      obtain ⟨hwaypoints, hstart⟩ := load_limited hg
      exact ⟨⟨⟨hwaypoints, hstart⟩, h.navigator.cam, h.navigator.line, h.navigator.motors⟩,
        h.written⟩
  next => exact h

/-- A controller frame writes what it asks for. -/
theorem readRxController_tame (h : s.Tame bound allowed) {f : ControlFrame}
    (hg : Allows allowed (.remote f)) : (s.readRxController f).Tame bound allowed := by
  obtain ⟨d, hd, hcases⟩ := readRxController_cases s f
  rw [hd]
  refine ⟨⟨h.navigator.route, h.navigator.cam, h.navigator.line, h.navigator.motors⟩, ?_⟩
  rcases hcases with ⟨hdrives, rfl⟩ | ⟨-, rfl⟩ | ⟨-, -, rfl⟩
  · intro command hmem
    rcases List.mem_cons.mp hmem with rfl | hmem
    · exact .inr (hg f rfl hdrives)
    · exact h.written command hmem
  · exact h.written
  · exact h.written

end Robot

variable {bound : Int} {allowed : Int × Int → Prop}

/-- **Every step keeps the limit.** -/
theorem step_tame (hbound : 1000 ≤ bound) (s : Robot ℝ) (e : Event ℝ) (s' : Robot ℝ)
    (h : s.Tame bound allowed) (hg : KeepsLimit bound s e ∧ Allows allowed e)
    (hs : Runs.Graph step s e s') : s'.Tame bound allowed := by
  cases e with
  | iterate rd => exact Robot.iterate_tame hbound h hg.1 hs
  | telemetry =>
    rw [← telemetry_eq hs]
    exact h
  | goto file =>
    rw [← Except.ok.inj hs]
    exact Robot.goto_tame h hg.1
  | setMode arg init =>
    rw [← Except.ok.inj hs]
    exact Robot.setMode_tame h arg init
  | remote frame =>
    rw [← Except.ok.inj hs]
    exact Robot.readRxController_tame h hg.2

/-! ## Whole runs -/

/-- The robot starts with one command, to stop. -/
theorem startUp_tame (hbound : 1000 ≤ bound) {c : Config ℝ} {s : Robot ℝ}
    (hstart : startUp c = some s) (hcam : SpeedWithin bound c.camWorkSpeed)
    (hfile : string2Mode c.mode = .modeWaypoints → ∀ text, c.waypointsFile = some (some text) →
      FileWithin bound c.constructed.navigator.toRoute text) : s.Tame bound allowed := by
  obtain ⟨hmotors, -, hroute⟩ := startUp_cases hstart
  have hspeeds : SameSpeeds c.constructed.navigator s.navigator := by
    simp only [startUp] at hstart
    split at hstart
    next hr =>
      obtain rfl := Option.some.inj hstart
      simp only [Robot.setDetection]
      rcases Robot.initMode_cases rfl hr with ⟨-, hnav⟩ | ⟨-, text, -, hnav⟩
      · rw [hnav]
        exact ⟨rfl, rfl⟩
      · rw [hnav]
        exact ⟨rfl, rfl⟩
    next => exact absurd hstart (by simp)
  have hzero : |(0 : Int)| ≤ bound := by
    rw [abs_zero]
    omega
  refine ⟨⟨?_, hspeeds.cam ▸ hcam, hspeeds.line ▸ ⟨show (0 : Int) ≤ 1000 by decide, hbound⟩, ?_⟩, ?_⟩
  · rcases hroute with ⟨-, hroute⟩ | ⟨hmode, text, htext, hroute⟩
    · rw [hroute]
      exact ⟨fun w hw => absurd hw List.not_mem_nil, fun hc => absurd hc Bool.false_ne_true⟩
    · rw [hroute]
      exact Robot.load_limited (hfile hmode text htext)
  · have hstill : c.constructed.navigator.WithinSpeed bound := ⟨hzero, hzero⟩
    exact hstill.congr hmotors.motorLeft hmotors.motorRight
  · rw [hmotors.driver]
    exact Robot.write_tame (d := {}) (fun _ hc => absurd hc List.not_mem_nil) hzero hzero

/-- **The speed limit.** From start-up with a `CamWorkSpeed` within a limit of at least 1000,
over every run on exact numbers that reads speeds within this limit and image qualities that are
percentages, each command that was ever transmitted is within the limit, or it is what a driving
frame of the remote controller asked for. -/
theorem speed_limit (hbound : 1000 ≤ bound) {c : Config ℝ} {s s' : Robot ℝ}
    (hstart : startUp c = some s) (hcam : SpeedWithin bound c.camWorkSpeed)
    (hfile : string2Mode c.mode = .modeWaypoints → ∀ text, c.waypointsFile = some (some text) →
      FileWithin bound c.constructed.navigator.toRoute text) {es : List (Event ℝ)}
    (hes : Runs.Along (Runs.Graph step) (KeepsLimit bound) s es)
    (hrun : Runs.run step s es = .ok s') :
    ∀ command ∈ s'.navigator.driver.written, CommandWithin bound command ∨
      ∃ frame : Robot.ControlFrame, .remote frame ∈ es ∧ frame.Drives ∧
        command = (frame.leftSpeed, frame.rightSpeed) := by
  have hallows : ∀ e ∈ es, Allows (fun command => ∃ frame : Robot.ControlFrame,
      .remote frame ∈ es ∧ frame.Drives ∧ command = (frame.leftSpeed, frame.rightSpeed)) e := by
    intro e he frame hframe hdrives
    exact ⟨frame, hframe ▸ he, hdrives, rfl⟩
  exact (Runs.Path.guarded (step_tame hbound) (Runs.run_ok_iff.mp hrun) (hes.and_mem hallows)
    (startUp_tame hbound hstart hcam hfile)).written

/-- The controller asks for more than the limit. -/
def fastFrame : Robot.ControlFrame := ⟨2000, -2000, 0x7302, 1⟩

/-- An iteration and then the controller. -/
noncomputable def fastEvents : List (Event ℝ) := [.iterate sharpTurn, .remote fastFrame]

theorem speed_limit_fast : ∃ s s', startUp (plainConfig "line".toList none) = some s ∧
    Runs.run step s fastEvents = .ok s' ∧
    ∀ command ∈ s'.navigator.driver.written, CommandWithin 1000 command ∨
      ∃ frame : Robot.ControlFrame, .remote frame ∈ fastEvents ∧ frame.Drives ∧
        command = (frame.leftSpeed, frame.rightSpeed) := by
  have hes : ∀ s, Runs.Along (Runs.Graph step) (KeepsLimit 1000) s fastEvents := by
    intro s
    exact ⟨⟨le_rfl, by decide⟩, fun _ _ => ⟨trivial, fun _ _ => trivial⟩⟩
  refine ⟨_, _, rfl, rfl, ?_⟩
  exact speed_limit le_rfl (c := plainConfig "line".toList none) rfl
    ⟨show (0 : Int) ≤ 1000 by decide, le_rfl⟩ (fun hmode => absurd hmode (by decide))
    (hes _) rfl

end Solarbot.Main
