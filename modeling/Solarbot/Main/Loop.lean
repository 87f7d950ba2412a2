import Solarbot.Lib.Printing
import Solarbot.Main.SendTelemetry
import Solarbot.Main.Step

/-!
# The main loop

A turn of the loop of `Solarbot::run` reads the devices, drives, and in its last region,
`Telemetry`, reports to the ground and moves the eyes. What it keeps in local variables is here,
beside the robot that the other threads share with it. Seen from the robot a turn is the
iteration and the telemetry of `Robot.step` (`step_refines`), so what holds of every run of the
robot holds of the loop. A turn begins with the position as a text, in a buffer of 64 characters
that a large one overruns.

Mirroring notes vs `Solarbot.cpp`:
- The other threads can act between the two parts of a turn, `drive` and `telemetry`.
- The course of a good fix is that from the second antenna to the first, `Solarbot::GetBearing`,
  which is `Navigator::GetBearing` written out again.
- The power unit and the control unit are asked a second time when the first answer is an error.
  `PowerUnit::Read` stores its result as the status of its data, `ControlUnit::Read` need not.
- The faces of the region `Telemetry` have a list of their own.
- Of the fix that goes to the remote controller the text is here, and that it is sent is not. The
  coordinates are exact, and a zero has no sign.
- The fix that goes to the GPS consumers, the second opening of a head that failed, the pictures
  for the cropmapping processes and what is printed are left out.
-/

namespace Solarbot.Main

open Nav

/-- The faces of the region `Telemetry`. -/
inductive Faces where
  | neutral | blink | wink | lookL | lookR
  deriving DecidableEq, Repr

/-- A call of `SetEyes` there. -/
structure FaceCommand where
  face : Faces
  autoReverseAnimation : Bool := false
  continueAnimation : Bool := false
  returnToNeutral : Bool := false
  deriving DecidableEq, Repr

/-- What a turn reads until it navigates. -/
structure Turn (D : Type) where
  location : Gps.Location
  location2 : Gps.Location
  /-- The result of `Head::ReadSensors` and the heading it read. -/
  headResult : Int
  headHeading : Rat
  clock : Int
  /-- The name of its camera and what `search` returned, for each detector. -/
  detectors : List (String × List UInt16)
  camQuality : Int
  camAngle : D
  lineResult : Int
  lineAngle : D

/-- What the devices answer in the region `Telemetry`, with what the stack holds. -/
structure Answers where
  powerUnit : Power.PowerUnitData
  powerUnitAgain : Power.PowerUnitData
  driver : Int × Driver.DriverData
  driverAgain : Int × Driver.DriverData
  memory : TelemetryFrame

/-- How a turn can end the program: outside the vector of waypoints, or behind `location_text`. -/
inductive LoopFault where
  | path (fault : Nav.Fault)
  | locationText (length : Nat)
  deriving DecidableEq, Repr

/-- The loop with the robot. -/
structure Loop (D : Type) where
  robot : Robot D
  location : Gps.Location
  location2 : Gps.Location
  gpsHeading : D
  compassHeading : D
  heading : D
  lookLeft : Bool := false
  lookRight : Bool := false
  toTxTelemetry : Int := 4
  eyeBlinkCount : Int := 0
  lastWhereToLook : Int := -2
  frameID : UInt8 := 0
  /-- The frames that were sent. -/
  sent : List TelemetryFrame := []
  /-- The faces that were asked for. -/
  faces : List FaceCommand := [⟨.neutral, false, false, false⟩]

variable {D : Type} [Dbl D]

/-- `GetBearing`, whose answers are whole numbers. -/
def wholeBearing (fromPoint toPoint : Point D) : Int :=
  let lat1 := degrees2Radians fromPoint.lat
  let long1 := degrees2Radians fromPoint.lon
  let lat2 := degrees2Radians toPoint.lat
  let long2 := degrees2Radians toPoint.lon
  if Dbl.eq (Dbl.cos lat2 * Dbl.sin (long2 - long1)) (num 0) then
    if Dbl.lt lat1 lat2 then 0 else 180
  else
    wholeDegrees (Dbl.atan2 (Dbl.cos lat2 * Dbl.sin (long2 - long1))
      (Dbl.sin lat2 * Dbl.cos lat1 -
        Dbl.sin lat1 * Dbl.cos lat2 * Dbl.cos (long2 - long1)))

theorem getBearing_whole (p q : Point D) : getBearing p q = num (wholeBearing p q : Int) := by
  unfold getBearing wholeBearing
  dsimp only
  split
  · split <;> rfl
  · rfl

/-- A fix, as the navigator is given it. -/
def fixOf (location : Gps.Location) : Location D :=
  ⟨num location.latitude, num location.longitude, location.quality.toNat⟩

/-- The antenna of a fix. -/
def antenna (location : Gps.Location) : Point D := ⟨num location.latitude, num location.longitude⟩

/-- What `sprintf` writes into `location_text`, without the zero behind it. -/
def locationText (location : Gps.Location) : List Char :=
  CText.fixed 8 location.latitude ++ ", ".toList ++ CText.fixed 8 location.longitude

abbrev locationTextSize : Nat := 64

/-- The loop over the detectors: how many of them see something, and if it is in the left and in
the right camera. -/
def detectLoop : List (String × List UInt16) → Nat × Bool × Bool → Nat × Bool × Bool
  | [], seen => seen
  | (cameraName, results) :: detectors, (count, lookLeft, lookRight) =>
    if results.any (· ≠ 65535) then
      detectLoop detectors (count + 1, lookLeft || cameraName = "Left",
        lookRight || cameraName = "Right")
    else detectLoop detectors (count, lookLeft, lookRight)

namespace Turn

variable (t : Turn D)

/-- `IsLocationGood`, of the fixes of a turn. -/
def good : Bool := t.location.quality = 4 && t.location2.quality = 4

/-- The readings of the iteration, with the heading that was computed. -/
def readings (gpsHeading : D) : Readings D where
  location := fixOf t.location
  location2 := fixOf t.location2
  gpsHeading := gpsHeading
  clock := t.clock
  results := t.detectors.map Prod.snd
  camQuality := t.camQuality
  camAngle := t.camAngle
  lineResult := t.lineResult
  lineAngle := t.lineAngle

end Turn

namespace Answers

variable (a : Answers)

/-- The power unit after its second chance. -/
def power : Power.PowerUnitData := if a.powerUnit.status ≠ 0 then a.powerUnitAgain else a.powerUnit

/-- The driver after its own. -/
def motors : Int × Driver.DriverData := if a.driver.1 ≠ 0 then a.driverAgain else a.driver

/-- Both have answered. -/
def complete : Bool := a.power.status = 0 && a.motors.1 = 0

end Answers

namespace Loop

/-- The loop before its first turn. -/
def start (robot : Robot D) (location location2 : Gps.Location) : Loop D where
  robot := robot
  location := location
  location2 := location2
  gpsHeading := num (-1)
  compassHeading := num (-1)
  heading := num (-1)

variable (s : Loop D)

/-! ## Driving -/

/-- The region `Read GPSs`. -/
def readGps (t : Turn D) : Loop D :=
  let s := { s with
    robot := { s.robot with location := fixOf t.location, location2 := fixOf t.location2 }
    location := t.location
    location2 := t.location2 }
  if s.robot.isLocationGood then
    let bearing := wholeBearing (antenna t.location2 : Point D) (antenna t.location)
    { s with
      gpsHeading := num bearing
      location := { s.location with course := bearing, status := 'R' } }
  else { s with gpsHeading := num (-1) }

/-- The region `Read Head Sensors`. -/
def readHead (t : Turn D) : Loop D :=
  { s with compassHeading := if t.headResult = 0 then num t.headHeading else num (-1) }

/-- The region `Select best heading`. -/
def selectHeading : Loop D :=
  { s with heading := if Dbl.lt (num (-1)) s.gpsHeading then s.gpsHeading else s.compassHeading }

/-- The region `DETECT OBJECT`. -/
def detectObjects (t : Turn D) : Loop D :=
  let (count, lookLeft, lookRight) := detectLoop t.detectors (0, false, false)
  { s with
    robot := s.robot.setDetection (s.robot.detection.update t.clock count)
    lookLeft := lookLeft
    lookRight := lookRight }

/-- A turn up to the region `Navigating`. -/
def sense (t : Turn D) : Loop D := (((s.readGps t).readHead t).selectHeading).detectObjects t

/-- A turn up to the region `Telemetry`. -/
def drive (t : Turn D) : Except LoopFault (Loop D) :=
  if locationTextSize ≤ (locationText t.location).length then
    .error (.locationText (locationText t.location).length)
  else
    let s := s.sense t
    match s.robot.navigate (t.readings s.gpsHeading) with
    | .error fault => .error (.path fault)
    | .ok robot => .ok { s with robot := robot }

/-! ## Reporting -/

/-- The call of `SendTelemetry`. -/
def send (undefined : D → Int32) (a : Answers) : Except Fault (Loop D) := do
  let (frame, frameID) ← s.robot.sendTelemetryFrame undefined
    ⟨a.power, a.motors.2, s.frameID, a.memory⟩ s.location s.compassHeading s.location2.quality
  return { s with sent := s.sent ++ [frame], frameID := frameID }

/-- `SetEyes`. -/
def setEyes (c : FaceCommand) : Loop D := { s with faces := s.faces ++ [c] }

/-- `where_to_look`. -/
def whereToLook : Int := if s.lookLeft && s.lookRight then 0 else if s.lookLeft then -1 else 1

/-- The eyes that look at an obstacle, or blink. -/
def lookAround : Loop D :=
  if s.lookLeft || s.lookRight then
    let s := { s with eyeBlinkCount := 0 }
    if s.whereToLook ≠ s.lastWhereToLook then
      let s := { s with lastWhereToLook := s.whereToLook }
      if s.lookLeft && s.lookRight then s.setEyes ⟨.wink, false, true, false⟩
      else if s.lookLeft then s.setEyes ⟨.lookL, false, true, false⟩
      else s.setEyes ⟨.lookR, false, true, false⟩
    else s
  else
    let s := { s with lastWhereToLook := -2, eyeBlinkCount := s.eyeBlinkCount + 1 }
    if 5 < s.eyeBlinkCount then
      { s with eyeBlinkCount := 0 }.setEyes ⟨.blink, true, false, true⟩
    else s.setEyes ⟨.neutral, false, false, false⟩

/-- The eyes, which are the navigator's while the robot navigates. -/
def moveEyes : Loop D :=
  if !s.robot.navigating && Dbl.lt (num (-1)) s.heading then s.lookAround else s

/-- What the region `Telemetry` does in each third turn. -/
def report (undefined : D → Int32) (a : Answers) : Except Fault (Loop D) :=
  let s := { s with toTxTelemetry := 0 }
  (if a.complete then s.send undefined a else .ok s).map moveEyes

/-- The region `Telemetry`. -/
def telemetry (undefined : D → Int32) (a : Answers) : Except Fault (Loop D) :=
  (if 2 < s.toTxTelemetry then s.report undefined a else .ok s).map fun s =>
    { s with toTxTelemetry := s.toTxTelemetry + 1 }

end Loop

/-- The two parts of a turn, and what the other threads do. -/
inductive LoopEvent (D : Type) where
  | drive (t : Turn D)
  | telemetry (a : Answers)
  | goto (file : Option (List Char))
  | setMode (arg : List Char) (init : Robot.InitResults)
  | remote (frame : Robot.ControlFrame)

namespace Loop

/-- One event. -/
def step (undefined : D → Int32) (s : Loop D) : LoopEvent D → Except LoopFault (Loop D)
  | .drive t => s.drive t
  | .telemetry a => (s.telemetry undefined a).mapError .path
  | .goto file => .ok { s with robot := (s.robot.executeCommandGoto file).1 }
  | .setMode arg init => .ok { s with robot := (s.robot.executeCommandSetMode arg init).1 }
  | .remote frame => .ok { s with robot := s.robot.readRxController frame }

/-! ## The robot in the loop -/

/-- The two nested loops over the detectors count as the iteration of the robot does. -/
theorem detectLoop_count : ∀ (detectors : List (String × List UInt16)) (count : Nat)
    (lookLeft lookRight : Bool), (detectLoop detectors (count, lookLeft, lookRight)).1 =
      count + criticalObjectDetectedCount (detectors.map Prod.snd)
  | [], _, _, _ => rfl
  | (cameraName, results) :: detectors, count, lookLeft, lookRight => by
    have hcount : criticalObjectDetectedCount (((cameraName, results) :: detectors).map Prod.snd) =
        criticalObjectDetectedCount (detectors.map Prod.snd) +
          if results.any (· ≠ 65535) then 1 else 0 := List.countP_cons
    rw [hcount, detectLoop]
    split
    next => rw [detectLoop_count, add_assoc, add_comm 1]
    next => rw [detectLoop_count, add_zero]

variable (s : Loop D)

theorem readGps_robot (t : Turn D) : (s.readGps t).robot =
    { s.robot with location := fixOf t.location, location2 := fixOf t.location2 } := by
  unfold readGps
  dsimp only
  split <;> rfl

theorem sense_robot (t : Turn D) :
    (s.sense t).robot = s.robot.sense (t.readings (s.sense t).gpsHeading) := by
  have hrobot : (((s.readGps t).readHead t).selectHeading).robot = (s.readGps t).robot := rfl
  show (((s.readGps t).readHead t).selectHeading).robot.setDetection
    (Detection.update _ t.clock (detectLoop t.detectors (0, false, false)).1) = _
  rw [hrobot, readGps_robot, detectLoop_count, Nat.zero_add]
  rfl

/-- The first part of a turn is an iteration of the robot, if the position fits its text. -/
theorem drive_ok_iff {s : Loop D} {t : Turn D} {r : Robot D} :
    (∃ s', s.drive t = .ok s' ∧ s'.robot = r) ↔
      (locationText t.location).length < locationTextSize ∧
        s.robot.iterate (t.readings (s.sense t).gpsHeading) = .ok r := by
  unfold drive Robot.iterate
  rw [← sense_robot]
  dsimp only
  by_cases hfits : (locationText t.location).length < locationTextSize
  · rw [if_neg (not_le.mpr hfits), and_iff_right hfits]
    cases (s.sense t).robot.navigate (t.readings (s.sense t).gpsHeading) with
    | error fault => simp
    | ok robot =>
      constructor
      · rintro ⟨s', hs', rfl⟩
        obtain rfl := Except.ok.inj hs'
        rfl
      · intro h
        obtain rfl := Except.ok.inj h
        exact ⟨_, rfl, rfl⟩
  · rw [if_pos (not_lt.mp hfits)]
    simp [hfits]

/-- Coordinates of less than twenty digits fit. -/
theorem locationText_fits {location : Gps.Location} (hlat : |location.latitude| < 10 ^ 19)
    (hlon : |location.longitude| < 10 ^ 19) :
    (locationText location).length < locationTextSize := by
  have hwidth : ∀ x : Rat, |x| < 10 ^ 19 → (CText.fixed 8 x).length ≤ 30 := by
    intro x hx
    have hle : |x| ≤ ((10 ^ 19 : Nat) : Rat) := by exact_mod_cast hx.le
    exact CText.fixed_length_le (k := 8) (j := 20) (by decide) (by decide) hle
  have hfirst := hwidth _ hlat
  have hsecond := hwidth _ hlon
  have hcomma : ", ".toList.length = 2 := rfl
  have hsize : locationTextSize = 64 := rfl
  rw [locationText, List.length_append, List.length_append, hcomma]
  omega

/-- The eyes are not the robot. -/
theorem moveEyes_robot : s.moveEyes.robot = s.robot := by
  unfold moveEyes
  split
  · unfold lookAround
    dsimp only
    split
    · split
      · split
        · rfl
        · split <;> rfl
      · rfl
    · split <;> rfl
  · rfl

/-- A frame asks the navigator for the current waypoint. -/
theorem send_refines (undefined : D → Int32) (a : Answers) :
    (s.send undefined a).map robot = s.robot.sendTelemetry.map fun _ => s.robot := by
  unfold send Robot.sendTelemetryFrame Robot.sendTelemetry
  cases s.robot.navigator.getCurrentWaypoint <;> rfl

omit [Dbl D] in
/-- What changes nothing of the robot does not show behind a step. -/
theorem map_robot {f : Loop D → Loop D} (hf : ∀ s : Loop D, (f s).robot = s.robot)
    (x : Except Fault (Loop D)) : (x.map f).map robot = x.map robot := by
  cases x with
  | error _ => rfl
  | ok s => exact congrArg Except.ok (hf s)

/-- The second part of a turn is a telemetry of the robot, or nothing. -/
theorem telemetry_refines (undefined : D → Int32) (a : Answers) :
    (s.telemetry undefined a).map robot =
      if 2 < s.toTxTelemetry ∧ a.complete = true then Main.step s.robot .telemetry
      else .ok s.robot := by
  unfold telemetry
  rw [map_robot (by exact fun _ => rfl)]
  by_cases hdue : 2 < s.toTxTelemetry
  · rw [if_pos hdue, report, map_robot moveEyes_robot]
    by_cases ha : a.complete = true
    · rw [if_pos ha, if_pos ⟨hdue, ha⟩, send_refines]
      rfl
    · rw [if_neg ha, if_neg fun h => ha h.2]
      rfl
  · rw [if_neg hdue, if_neg fun h => hdue h.1]
    rfl

theorem mapError_ok {φ φ' α : Type} {f : φ → φ'} {x : Except φ α} {a : α} :
    x.mapError f = .ok a ↔ x = .ok a := by
  cases x with
  | error e => exact iff_of_false (fun h => by cases h) (fun h => by cases h)
  | ok b => exact ⟨fun h => by cases h; rfl, fun h => by cases h; rfl⟩

end Loop

end Solarbot.Main
