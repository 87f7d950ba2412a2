import Solarbot.Lib.Runs
import Solarbot.Nav.Search

/-!
# The robot: `Solarbot::run` and what acts on it

The state is what the main loop, the command client and the remote-controller
thread share. `step` is one of the events that change it; a run of the robot is a
list of events (`Runs.run`), in any order, from a state that `startUp` returned.

Mirroring notes vs `Solarbot.cpp` and `MasterApp.cpp`:
- An iteration of the main loop, a command and a controller frame are each one
  step.
- What an iteration reads from the devices is its `Readings`. The calls of
  `clock()` in one iteration see one time. `gps_heading` is computed from the two
  antennas by `Solarbot::GetBearing`; the model takes it as a reading, so that what
  holds here holds for any heading.
- `last_object_detection_stop` and its filter are `double`s that hold values of
  `clock()`; these are exact.
- In `ExecuteCommand_GOTO` the planner is a program that writes a file; what it
  wrote is the argument of the command.
- When a path is finished, `navigator->Mode == Navigator::Modes::Standby;` compares
  and drops the result: the mode stays as it is.
- The reply of a command is the text it hands to `SendCommandACK`.
-/

namespace Solarbot.Main

open Nav

/-- `CLOCKS_PER_SEC`. -/
def clocksPerSec : Int := 1000000

/-- `object_detection_time_to_stop`. -/
def objectDetectionTimeToStop : Int := clocksPerSec / 2

/-- `object_detection_time_to_start`. -/
def objectDetectionTimeToStart : Int := 3 * clocksPerSec

/-- The object detection of the main loop: the flag it commands and its two
timers. -/
structure Detection where
  doNotMove : Bool
  lastObjectDetectionStop : Int
  lastObjectDetectionStopFilter : Int
  deriving DecidableEq, Repr

/-- The detection at the beginning of `run`, at the time `clock`. -/
def Detection.start (clock : Int) : Detection :=
  { doNotMove := false
    lastObjectDetectionStop := clock
    lastObjectDetectionStopFilter := clock - 5 * clocksPerSec }

/-- The region `DETECT OBJECT` of one iteration. -/
def Detection.update (d : Detection) (clock : Int) (criticalObjectDetectedCount : Nat) :
    Detection :=
  if 0 < criticalObjectDetectedCount then
    if objectDetectionTimeToStop < clock - d.lastObjectDetectionStopFilter then
      { d with doNotMove := true, lastObjectDetectionStop := clock }
    else d
  else
    let d := { d with lastObjectDetectionStopFilter := clock }
    if d.doNotMove = true ∧ objectDetectionTimeToStart < clock - d.lastObjectDetectionStop then
      { d with doNotMove := false }
    else d

/-- `critical_object_detected_count`: the detectors with a zone that saw something.
`65535` is the distance of an empty zone. -/
def criticalObjectDetectedCount (results : List (List UInt16)) : Nat :=
  results.countP fun zones => zones.any (· ≠ 65535)

/-- What one iteration of the main loop reads. -/
structure Readings (D : Type) where
  location : Location D
  location2 : Location D
  gpsHeading : D
  clock : Int
  /-- The distances `Detect_object::search` returned, for each detector. -/
  results : List (List UInt16)
  /-- `quality` and `angle` of `CamNavigator::ProcessImage`. -/
  camQuality : Int
  camAngle : D
  /-- The result of `LineNavigator::Read`, and the angle it read. -/
  lineResult : Int
  lineAngle : D

/-- The state of the robot. -/
structure Robot (D : Type) where
  navigator : Navigator D
  navigating : Bool := false
  location : Location D
  location2 : Location D
  lastObjectDetectionStop : Int := 0
  lastObjectDetectionStopFilter : Int := 0
  modeWaypointInitialized : Bool := false
  modeVisualInitialized : Bool := false
  modeLineInitialized : Bool := false

variable {D : Type} [Dbl D]

namespace Robot

variable (s : Robot D)

/-! ## The main loop -/

/-- `Solarbot::IsLocationGood`. -/
def isLocationGood : Bool := s.location.quality = 4 && s.location2.quality = 4

def detection : Detection :=
  ⟨s.navigator.doNotMove, s.lastObjectDetectionStop, s.lastObjectDetectionStopFilter⟩

def setDetection (d : Detection) : Robot D :=
  { s with
    navigator := { s.navigator with doNotMove := d.doNotMove }
    lastObjectDetectionStop := d.lastObjectDetectionStop
    lastObjectDetectionStopFilter := d.lastObjectDetectionStopFilter }

/-- The iteration up to the region `Navigating`. -/
def sense (rd : Readings D) : Robot D :=
  { s with location := rd.location, location2 := rd.location2 }.setDetection
    (s.detection.update rd.clock (criticalObjectDetectedCount rd.results))

/-- The region `Navigating` in `ModeWaypoints`. -/
def navigateWaypoints (rd : Readings D) : Except Fault (Robot D) :=
  if s.isLocationGood = false then
    return { s with
      navigator := { s.navigator with head := s.navigator.head.setEyes { emotion := .x } } }
  else
    (s.navigator.gotoNextWaypoint s.location rd.gpsHeading).map fun (n, r, _) =>
      { s with
        navigator := n
        navigating := if r = Err.navigatorDone then false else s.navigating }

/-- The region `Navigating`. -/
def navigate (rd : Readings D) : Except Fault (Robot D) :=
  if s.navigating then
    match s.navigator.mode with
    | .modeWaypoints => s.navigateWaypoints rd
    | .modeVisual => return { s with navigator := s.navigator.gotoNextCam rd.camQuality rd.camAngle }
    | .modeLine => return { s with navigator := (s.navigator.gotoByLine rd.lineResult rd.lineAngle).1 }
    | .standby => return s
  else return s

/-- One iteration of the main loop. -/
def iterate (rd : Readings D) : Except Fault (Robot D) := (s.sense rd).navigate rd

/-- The part of `SendTelemetry` that asks the navigator. -/
def sendTelemetry : Except Fault (Waypoint D) := s.navigator.getCurrentWaypoint

/-! ## The modes and their initialisation -/

/-- How the devices of a mode answer when the mode is initialised. -/
structure InitResults where
  /-- `cam.Init(424, 240)`. -/
  camInit : Bool
  /-- A camera has the name `NavigationCamera`. -/
  foundCamera : Bool
  /-- `line.Init(...)`. -/
  lineInit : Int
  deriving DecidableEq, Repr

/-- `Solarbot::InitModeWaypoint`. `waypointsFile` is `none` when no file was set,
and otherwise what opening it gives. -/
def initModeWaypoint (waypointsFile : Option (Option (List Char))) : Robot D × Int :=
  if s.modeWaypointInitialized then (s, 0)
  else
    match waypointsFile with
    | none => (s, Err.notFound)
    | some file =>
      let (route, r) := s.navigator.loadWaypoints file
      let s := { s with navigator := { s.navigator with toRoute := route } }
      if r = 0 then ({ s with modeWaypointInitialized := true }, 0) else (s, r)

/-- `Solarbot::InitModeVisual`. -/
def initModeVisual (i : InitResults) : Robot D × Int :=
  if s.modeVisualInitialized then (s, 0)
  else if i.camInit = false then (s, Err.openingNavigationVisual)
  else if i.foundCamera then ({ s with modeVisualInitialized := true }, 0)
  else (s, Err.notFound)

/-- `Solarbot::InitModeLine`. -/
def initModeLine (i : InitResults) : Robot D × Int :=
  if s.modeLineInitialized then (s, 0)
  else if i.lineInit ≠ 0 then (s, Err.openingNavigationLine)
  else ({ s with modeLineInitialized := true }, 0)

/-- The region `Init Mode`, from the selected mode. -/
def initMode (waypointsFile : Option (Option (List Char))) (i : InitResults) : Robot D × Int :=
  match s.navigator.mode with
  | .modeVisual => s.initModeVisual i
  | .modeLine => s.initModeLine i
  | .modeWaypoints => s.initModeWaypoint waypointsFile
  | .standby => (s, 0)

/-- `Solarbot::setNavigationMode`. -/
def setNavigationMode (mode : List Char) : Robot D :=
  { s with navigator := { s.navigator with mode := string2Mode mode } }

/-! ## The commands -/

/-- Stop navigating, as the failing branches of `ExecuteCommand_SETMODE` do. -/
def goStandby : Robot D :=
  { s with navigator := { s.navigator with mode := .standby }, navigating := false }

/-- Navigate in a mode. -/
def goNavigate (mode : Modes) : Robot D :=
  { s with navigator := { s.navigator with mode := mode }, navigating := true }

/-- `MasterApp::ExecuteCommand_SETMODE` on its argument, with the reply. -/
def executeCommandSetMode (arg : List Char) (i : InitResults) : Robot D × String :=
  match string2Mode arg with
  | .modeWaypoints =>
    if s.navigator.waypoints.length > 0 then
      let s := { s with navigator := { s.navigator with startWaypointIndex := -1 } }
      (s.goNavigate .modeWaypoints, "OK")
    else (s.goStandby, "ERROR: There is not any waypoints")
  | .modeVisual =>
    let (s, r) := s.initModeVisual i
    if r = 0 then (s.goNavigate .modeVisual, "OK")
    else (s.goStandby, "ERROR: InitModeVisual")
  | .modeLine =>
    let (s, r) := s.initModeLine i
    if r = 0 then (s.goNavigate .modeLine, "OK")
    else (s.goStandby, "ERROR: InitModeLine")
  | .standby => (s.goStandby, "OK")

/-- `MasterApp::ExecuteCommand_GOTO`, given what the planner's file holds when it
is opened. -/
def executeCommandGoto (file : Option (List Char)) : Robot D × String :=
  if s.isLocationGood then
    let (route, r) := s.navigator.loadWaypoints file
    let s := { s with navigator := { s.navigator with toRoute := route } }
    if r = Err.ok then
      let s := { s with navigator := { s.navigator with startWaypointIndex := -1 } }
      ({ s.setNavigationMode "waypoints".toList with navigating := true }, "OK")
    else (s, "ERROR: Loading generated waypoints file")
  else (s, "ERROR: Current Location is not good")

/-! ## The remote controller -/

/-- The fields of `ControlFrame` that are read. -/
structure ControlFrame where
  leftSpeed : Int
  rightSpeed : Int
  command : Nat
  value : Nat
  deriving DecidableEq, Repr

/-- A datagram in `Solarbot::ReadRxControllerThread`. -/
def readRxController (f : ControlFrame) : Robot D :=
  if f.command = 0x7302 then
    if f.value = 1 then
      { s with navigator := { s.navigator with
          driver := s.navigator.driver.remoteControllerWrite f.leftSpeed f.rightSpeed } }
    else { s with navigator := { s.navigator with driver := s.navigator.driver.release } }
  else s

/-- The most recent motor command written to the driver. -/
def lastCommand : Option (Int × Int) := s.navigator.driver.lastCommand

end Robot

/-! ## Runs -/

/-- What `main` and the configuration give a run of the robot. -/
structure Config (D : Type) where
  /-- The mode that was asked for. -/
  mode : List Char
  waypointsFile : Option (Option (List Char))
  camWorkSpeed : Int
  init : Robot.InitResults
  /-- `clock()` when the main loop is about to start. -/
  clock : Int
  /-- What the members that the constructor does not set hold. -/
  startWaypoint : Waypoint D
  startWaypointIndex : Int
  location : Location D
  location2 : Location D

/-- The robot before `run` selects the mode: the driver has been told to stop. -/
def Config.constructed (c : Config D) : Robot D :=
  { navigator := { Navigator.new c.startWaypoint c.startWaypointIndex with
      mode := string2Mode c.mode
      camWorkSpeed := c.camWorkSpeed
      driver := ControlUnit.write {} 0 0 }
    location := c.location
    location2 := c.location2 }

/-- `Solarbot::run` up to the main loop; `none` when it quits. -/
def startUp (c : Config D) : Option (Robot D) :=
  let (s, r) := c.constructed.initMode c.waypointsFile c.init
  if r = 0 then
    some ({ s with navigating := decide (s.navigator.mode ≠ Modes.standby) }.setDetection
      (Detection.start c.clock))
  else none

/-- What can happen to the robot. -/
inductive Event (D : Type) where
  | iterate (rd : Readings D)
  | telemetry
  | goto (file : Option (List Char))
  | setMode (arg : List Char) (init : Robot.InitResults)
  | remote (frame : Robot.ControlFrame)

/-- One event. -/
def step (s : Robot D) : Event D → Except Fault (Robot D)
  | .iterate rd => s.iterate rd
  | .telemetry => s.sendTelemetry.map fun _ => s
  | .goto file => return (s.executeCommandGoto file).1
  | .setMode arg init => return (s.executeCommandSetMode arg init).1
  | .remote frame => return s.readRxController frame

/-! ## A robot on exact numbers -/

/-- A configuration on exact numbers, with devices that all answer. -/
noncomputable def plainConfig (mode : List Char) (waypointsFile : Option (Option (List Char))) :
    Config ℝ where
  mode := mode
  waypointsFile := waypointsFile
  camWorkSpeed := 1000
  init := ⟨true, true, 0⟩
  clock := 0
  startWaypoint := ⟨0, 0, 0⟩
  startWaypointIndex := 0
  location := ⟨0, 0, 0⟩
  location2 := ⟨0, 0, 0⟩

/-- A precise fix at the origin, at the time `clock`, with nothing in sight. -/
noncomputable def clearFix (clock : Int) : Readings ℝ where
  location := ⟨0, 0, 4⟩
  location2 := ⟨0, 0, 4⟩
  gpsHeading := 0
  clock := clock
  results := []
  camQuality := 0
  camAngle := 0
  lineResult := 0
  lineAngle := 0

/-- The line is at a right angle. -/
noncomputable def sharpTurn : Readings ℝ := { clearFix 1 with lineAngle := 90 }

end Solarbot.Main
