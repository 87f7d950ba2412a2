import Solarbot.Lib.CText
import Solarbot.Lib.Runs

/-!
# `Solarbot::ReadConf` and the cameras of the main loop

`ReadConf` reads the configuration file line by line. A line adds an object detector, a
cropmapping process, or it sets a key: `Camera` adds a camera, `ROI` adds a zone to the
last detector, `CROP` sets the parameters of the last process. When the robot starts it
looks for the camera of each detector and process by its name, and the main loop uses
the index it found.

Mirroring notes vs `Solarbot.cpp`:
- The vectors are empty when `ReadConf` is called. A file that does not open leaves them
  so, and is the empty text.
- The windows of the debug mode open, and no constructor throws.
- The keys that only set a member are `settingKeys`; their values are kept as texts.
- The cameras open; with one that does not the main loop is not entered.
-/

namespace Solarbot.Config

/-- `Detect_object::Zone`; the first four numbers are its `cv::Rect`. -/
structure Zone where
  x : Int
  y : Int
  width : Int
  height : Int
  minDistance : UInt16
  maxDistance : UInt16
  minArea : Int
  deriving DecidableEq, Repr

structure DetectObject where
  cameraName : List Char
  cameraId : Int := -1
  zones : List Zone := []
  deriving DecidableEq, Repr

structure CropmappingProcess where
  name : List Char
  cameraIndex : Int := -1
  parameters : List Char := []
  deriving DecidableEq, Repr

structure CamRealsense where
  name : List Char
  idCam : List Char
  deriving DecidableEq, Repr

/-- The host and the port of a `GPSConsumer`. -/
structure GpsConsumer where
  host : List Char
  port : List Char
  deriving DecidableEq, Repr

/-- The members of `Solarbot` that the file sets. -/
structure Conf where
  realsenseCameras : List CamRealsense := []
  objectDetectors : List DetectObject := []
  cropmappingProcesses : List CropmappingProcess := []
  gpsConsumers : List GpsConsumer := []
  settings : List (List Char × List Char) := []
  deriving DecidableEq, Repr

/-- What has no defined result. -/
inductive ConfFault where
  /-- `strchr(p, ',') + 1` without a comma -/
  | noComma (p : List Char)
  /-- `back()` of an empty vector -/
  | emptyBack
  deriving DecidableEq, Repr

/-- `boost::trim`. -/
def trim (s : List Char) : List Char :=
  ((s.dropWhile CText.isSpace).reverse.dropWhile CText.isSpace).reverse

/-- The keys whose value is stored in a member. -/
def settingKeys : List String :=
  ["NavigationCamera", "UdpServerHost", "UdpServerPort", "CamWorkSpeed",
    "CamNavigation_angle_factor", "CamNavigation_rows", "CamNavigation_row_width",
    "CamNavigation_img_zoom", "CamNavigation_perspective_diff", "CamNavigation_horizontal_offset",
    "CamNavigation_vertical_offset", "H_MIN", "H_MAX", "S_MIN", "S_MAX", "V_MIN", "V_MAX",
    "RTKServer_host", "RTKServer_port", "RTKServer_password", "RTKServer_asking_base",
    "Telemetry_localport", "Telemetry_server_host", "Telemetry_server_port",
    "Telemetry_server_user", "Telemetry_server_password", "CMD_version", "CMD_user",
    "CMD_password"]

/-! ## A line -/

/-- `boost::split` at a separator, when it gives two texts that are not empty without the
spaces around them. -/
def twoFields (separator : Char) (value : List Char) : Option (List Char × List Char) :=
  match value.splitOn separator with
  | [first, second] =>
    if trim first ≠ [] ∧ trim second ≠ [] then some (trim first, trim second) else none
  | _ => none

/-- What a line of the file is. -/
inductive Entry where
  /-- empty, a comment, or a line without a value -/
  | skipped
  | detector (name : List Char)
  | mapping (name : List Char)
  | keyed (key value : List Char)
  deriving DecidableEq, Repr

/-- The two `getline`s on a line: the key before the first `=`, and the value behind it. -/
def keyValue (line : List Char) : Entry :=
  match line.dropWhile (· ≠ '=') with
  | _ :: c :: value => .keyed (line.takeWhile (· ≠ '=')) (c :: value)
  | _ => .skipped

/-- The tests of `ReadConf` on a line. -/
def entry (line : List Char) : Entry :=
  let line := line.filter (· ≠ ' ')
  if line = [] ∨ line.head? = some '#' then .skipped
  else if line.take 21 = "ObjectDetectionCamera".toList then .detector (trim (line.drop 21))
  else if line.take 11 = "Cropmapping".toList then .mapping (trim (line.drop 11))
  else keyValue line

/-- `p = strchr(p, ',') + 1`. -/
def nextField (p : List Char) : Except ConfFault (List Char) :=
  match CText.strchr ',' p with
  | some q => .ok q.tail
  | none => .error (.noComma p)

/-- The zone of a `ROI`. -/
def readZone (value : List Char) : Except ConfFault Zone := do
  let p := value
  let x := CText.atoi p
  let p ← nextField p
  let y := CText.atoi p
  let p ← nextField p
  let w := CText.atoi p
  let p ← nextField p
  let h := CText.atoi p
  let p ← nextField p
  let minDist := CText.atoi p
  let p ← nextField p
  let maxDist := CText.atoi p
  let p ← nextField p
  let minArea := CText.atoi p
  return ⟨x, y, w, h, .ofInt minDist, .ofInt maxDist, minArea⟩

namespace Conf

/-- `object_detectors.back()->zones.push_back(_zone)`. -/
def pushZone (conf : Conf) (zone : Zone) : Except ConfFault Conf :=
  match conf.objectDetectors.getLast? with
  | some detector =>
    .ok { conf with
      objectDetectors := conf.objectDetectors.dropLast ++
        [{ detector with zones := detector.zones ++ [zone] }] }
  | none => .error .emptyBack

/-- `cropmapping_processes.back()->parameters = value`. -/
def setParameters (conf : Conf) (value : List Char) : Except ConfFault Conf :=
  match conf.cropmappingProcesses.getLast? with
  | some proc =>
    .ok { conf with
      cropmappingProcesses := conf.cropmappingProcesses.dropLast ++ [{ proc with parameters := value }] }
  | none => .error .emptyBack

/-- The keys. -/
def readKey (conf : Conf) (key value : List Char) : Except ConfFault Conf :=
  if key = "MyID".toList then .ok { conf with settings := conf.settings ++ [(key, trim value)] }
  else if key = "Camera".toList then
    match twoFields ',' value with
    | some (name, idCam) =>
      .ok { conf with realsenseCameras := conf.realsenseCameras ++ [⟨name, idCam⟩] }
    | none => .ok conf
  else if key = "ROI".toList then (readZone value).bind conf.pushZone
  else if key = "CROP".toList then conf.setParameters value
  else if key = "GPSConsumer".toList then
    match twoFields ':' value with
    | some (host, port) => .ok { conf with gpsConsumers := conf.gpsConsumers ++ [⟨host, port⟩] }
    | none => .ok conf
  else if key ∈ settingKeys.map String.toList then
    .ok { conf with settings := conf.settings ++ [(key, value)] }
  else .ok conf

/-- One pass of the loop of `ReadConf`. -/
def readLine (conf : Conf) (line : List Char) : Except ConfFault Conf :=
  match entry line with
  | .skipped => .ok conf
  | .detector name =>
    .ok { conf with objectDetectors := conf.objectDetectors ++ [{ cameraName := name }] }
  | .mapping name =>
    .ok { conf with cropmappingProcesses := conf.cropmappingProcesses ++ [{ name := name }] }
  | .keyed key value => conf.readKey key value

/-- `ReadConf`. -/
def readConf (text : List Char) : Except ConfFault Conf := Runs.run readLine {} (CText.lines text)

/-! ## The cameras -/

/-- The first camera with a name. -/
def cameraIndex (conf : Conf) (name : List Char) : Option Nat :=
  conf.realsenseCameras.findIdx? (·.name = name)

/-- `run` looks for the cameras of the detectors and of the processes. -/
def lookUp (conf : Conf) : Conf :=
  { conf with
    objectDetectors := conf.objectDetectors.map fun d =>
      { d with cameraId := (conf.cameraIndex d.cameraName).elim d.cameraId (↑) }
    cropmappingProcesses := conf.cropmappingProcesses.map fun p =>
      { p with cameraIndex := (conf.cameraIndex p.name).elim p.cameraIndex (↑) } }

/-- The indices of `realsense_cameras` in one iteration of the main loop: of every
detector, and of every process when the iteration navigates. -/
def accesses (conf : Conf) (navigates : Bool) : List Int :=
  conf.objectDetectors.map (·.cameraId) ++
    if navigates then conf.cropmappingProcesses.map (·.cameraIndex) else []

end Conf

example : entry "Object DetectionCamera Left\r".toList = .detector "Left".toList := by decide

example : entry "ROI = 1,2".toList = .keyed "ROI".toList "1,2".toList := by decide

end Solarbot.Config
