import Solarbot.Driver.Read
import Solarbot.Gps.Nmea
import Solarbot.Lib.Words
import Solarbot.Main.Robot
import Solarbot.Nav.Turning
import Solarbot.Power.Read

/-!
# `Solarbot::SendTelemetry`

What the robot knows goes into a frame of small integers: a `double` is scaled, cut to an `int`,
and most of these are cut again to a `short`. A number that does not fit is cut all the same, and
the receiver cannot tell (`sendTelemetry_exact_iff`).

Mirroring notes vs `Solarbot.cpp` and `Telemetry.h`:
- The frame is on the stack: a member that is not assigned keeps what was in the memory. The
  reserved members, which nothing assigns, are left out.
- A conversion to `short` goes through an `int`, of which it keeps the lower half. What the
  machine makes of a `double` that is in no `int` is not defined, and a parameter, `undefined`.
- `float` is read as exact rationals.
- The answer of `SendFrame` is not looked at; the frame it is given is what is returned here, with
  the `FrameID` of the next one.
-/

namespace Solarbot.Main

open Gps Nav Words

/-- `Telemetry::Frame`. -/
structure TelemetryFrame where
  frameID : UInt8
  gpsStatus : UInt8
  frameValid1 : UInt8
  frameValid2 : UInt8
  gpsLatitude : Int32
  gpsLongitude : Int32
  gpsAltitude : Int16
  gpsSpeed : Int16
  gpsBearing : Int16
  gpsBaseID : UInt16
  magneticBearing : Int16
  pitchAngle : Int16
  rollAngle : Int16
  powerSensorsStatus : UInt8
  powerSensorsIdFrame : UInt8
  panelVoltage : Int16
  batteryVoltage : Int16
  panelPower : Int16
  stopPressed : UInt8
  remoteControlled : UInt8
  batteryPower : Int16
  electronicPower : Int16
  leftPower : Int16
  rightPower : Int16
  leftMotorSpeed : Int16
  rightMotorSpeed : Int16
  leftAlarm : UInt8
  rightAlarm : UInt8
  leftMotorCommand : Int16
  rightMotorCommand : Int16
  currentDestinationPointIndex : Int32
  currentDestinationPointLatitude : Int32
  currentDestinationPointLongitude : Int32
  currentDestinationPointSpeed : Int16
  deriving DecidableEq, Inhabited

variable {D : Type} [Dbl D]

/-- `(int)` of a `double`. -/
def castInt (undefined : D → Int32) (x : D) : Int32 :=
  if Fits 31 (Dbl.toInt x) then Int32.ofInt (Dbl.toInt x) else undefined x

/-- `(short)` of a `double`. -/
def castShort (undefined : D → Int32) (x : D) : Int16 := (castInt undefined x).toInt16

namespace TelemetryFrame

variable (undefined : D → Int32) (frame : TelemetryFrame)

/-- The part `Telemetry GPS`. -/
def putGps (location : Gps.Location) (gps2Quality : UInt8) : TelemetryFrame :=
  { frame with
    gpsLatitude := castInt undefined (num 10000000 * num location.latitude)
    gpsLongitude := castInt undefined (num 10000000 * num location.longitude)
    gpsAltitude := castShort undefined (num 10 * num location.altitude)
    gpsSpeed := castShort undefined (num 10 * num location.speed)
    gpsBearing := castShort undefined (num 10 * num location.course)
    gpsStatus := 10 * location.quality + gps2Quality
    gpsBaseID := UInt16.ofInt location.stationID }

/-- The part `Telemetry Sensors`. -/
def putSensors (heading : D) : TelemetryFrame :=
  { frame with
    magneticBearing := castShort undefined (num 10 * heading)
    pitchAngle := 0
    rollAngle := 0 }

/-- The part `Telemetry Power Sensors Data`, but for the driver. -/
def putPower (data : Power.PowerUnitData) : TelemetryFrame :=
  let frame := { frame with powerSensorsStatus := UInt8.ofInt data.status }
  if data.status = 0 then
    { frame with
      powerSensorsIdFrame := data.idFrame
      panelVoltage := castShort undefined (num (10 * data.panelVoltage))
      batteryVoltage := castShort undefined (num (10 * data.batteryVoltage))
      panelPower := data.panelPower
      batteryPower := data.batteryPower
      electronicPower := data.electronicPower
      leftPower := data.leftPower
      rightPower := data.rightPower
      stopPressed := data.stopPressed.toUInt8 }
  else frame

/-- What the driver of the motors said. -/
def putDriver (data : Driver.DriverData) : TelemetryFrame :=
  if data.status = 0 then
    { frame with
      leftMotorSpeed := castShort undefined (num (data.leftSpeed * 100))
      rightMotorSpeed := castShort undefined (num (data.rightSpeed * 100))
      leftAlarm := data.leftAlarm.toUInt8
      rightAlarm := data.rightAlarm.toUInt8
      remoteControlled := data.remoteControlled.toUInt8 }
  else frame

/-- The part `Telemetry Navigation`, with the current waypoint. -/
def putNavigation (n : Navigator D) (waypoint : Waypoint D) : TelemetryFrame :=
  { frame with
    leftMotorCommand := (Int32.ofInt n.motorLeft).toInt16
    rightMotorCommand := (Int32.ofInt n.motorRight).toInt16
    currentDestinationPointIndex := Int32.ofInt n.waypointsIndex
    currentDestinationPointLatitude := castInt undefined (num 10000000 * waypoint.latitude)
    currentDestinationPointLongitude := castInt undefined (num 10000000 * waypoint.longitude)
    currentDestinationPointSpeed := (10 * Int32.ofInt waypoint.speed).toInt16 }

end TelemetryFrame

/-- What `SendTelemetry` asks the other devices for, with what the stack holds. -/
structure Devices where
  powerUnit : Power.PowerUnitData
  controlUnit : Driver.DriverData
  frameID : UInt8
  memory : TelemetryFrame
  deriving Inhabited

/-- `SendTelemetry`: the frame it sends, and the `FrameID` of the next one. -/
def Robot.sendTelemetryFrame (s : Robot D) (undefined : D → Int32) (devices : Devices)
    (location : Gps.Location) (heading : D) (gps2Quality : UInt8) :
    Except Fault (TelemetryFrame × UInt8) := do
  let frame := { devices.memory with frameValid1 := 0x73, frameValid2 := 0x02 }
  let frame := frame.putGps undefined location gps2Quality
  let frame := frame.putSensors undefined heading
  let frame := frame.putPower undefined devices.powerUnit
  let frame := frame.putDriver undefined devices.controlUnit
  let waypoint ← s.navigator.getCurrentWaypoint
  let frame := frame.putNavigation undefined s.navigator waypoint
  return ({ frame with frameID := devices.frameID }, devices.frameID + 1)

/-- Of all that, only the current waypoint can fail. -/
theorem Robot.sendTelemetryFrame_fault (s : Robot D) (undefined : D → Int32) (devices : Devices)
    (location : Gps.Location) (heading : D) (gps2Quality : UInt8) :
    (s.sendTelemetryFrame undefined devices location heading gps2Quality).map (fun _ => ()) =
      s.sendTelemetry.map fun _ => () := by
  unfold sendTelemetryFrame sendTelemetry
  cases s.navigator.getCurrentWaypoint <;> rfl

/-! ## What becomes of the numbers -/

/-- A cast is exact where the number fits. -/
theorem castInt_exact_iff (undefined : D → Int32) (x : D) :
    (castInt undefined x).toInt = Dbl.toInt x ↔ Fits 31 (Dbl.toInt x) := by
  refine ⟨fun h => h ▸ fits_int32 _, fun h => ?_⟩
  rw [castInt, if_pos h]
  exact (toInt_ofInt_iff _).mpr h

/-- The same for 16 bits. -/
theorem castShort_exact_iff (undefined : D → Int32) (x : D) :
    (castShort undefined x).toInt = Dbl.toInt x ↔ Fits 15 (Dbl.toInt x) := by
  refine ⟨fun h => h ▸ fits_int16 _, fun h => ?_⟩
  have hint : (castInt undefined x).toInt = Dbl.toInt x :=
    (castInt_exact_iff undefined x).mpr (h.mono (by decide))
  rw [castShort, toInt_toInt16 (by rwa [hint]), hint]

/-- A product that is too large is wrapped twice. -/
theorem toInt16_mul_iff (n : Int) : (10 * Int32.ofInt n).toInt16.toInt = 10 * n ↔
    -3276 ≤ n ∧ n ≤ 3276 := by
  have hmul : 10 * Int32.ofInt n = Int32.ofInt (10 * n) := (Int32.ofInt_mul 10 n).symm
  rw [hmul, toInt16_ofInt_iff]
  unfold Fits
  omega

namespace TelemetryFrame

/-- The scaled numbers of the location, each cut to an integer and to nothing less. -/
@[mk_iff]
structure ExactGps (D : Type) [Dbl D] (frame : TelemetryFrame) (location : Gps.Location) :
    Prop where
  gpsLatitude : frame.gpsLatitude.toInt = Dbl.toInt (num 10000000 * num location.latitude : D)
  gpsLongitude : frame.gpsLongitude.toInt = Dbl.toInt (num 10000000 * num location.longitude : D)
  gpsAltitude : frame.gpsAltitude.toInt = Dbl.toInt (num 10 * num location.altitude : D)
  gpsSpeed : frame.gpsSpeed.toInt = Dbl.toInt (num 10 * num location.speed : D)
  gpsBearing : frame.gpsBearing.toInt = Dbl.toInt (num 10 * num location.course : D)

/-- The same of the motor command and of the current waypoint. -/
structure ExactNavigation (frame : TelemetryFrame) (n : Navigator D) (waypoint : Waypoint D) :
    Prop where
  leftMotorCommand : frame.leftMotorCommand.toInt = n.motorLeft
  rightMotorCommand : frame.rightMotorCommand.toInt = n.motorRight
  destinationLatitude : frame.currentDestinationPointLatitude.toInt =
    Dbl.toInt (num 10000000 * waypoint.latitude)
  destinationLongitude : frame.currentDestinationPointLongitude.toInt =
    Dbl.toInt (num 10000000 * waypoint.longitude)
  destinationSpeed : frame.currentDestinationPointSpeed.toInt = 10 * waypoint.speed

/-- The numbers of the location fit into their fields. -/
structure HoldsGps (D : Type) [Dbl D] (location : Gps.Location) : Prop where
  latitude : Fits 31 (Dbl.toInt (num 10000000 * num location.latitude : D))
  longitude : Fits 31 (Dbl.toInt (num 10000000 * num location.longitude : D))
  altitude : Fits 15 (Dbl.toInt (num 10 * num location.altitude : D))
  speed : Fits 15 (Dbl.toInt (num 10 * num location.speed : D))
  course : Fits 15 (Dbl.toInt (num 10 * num location.course : D))

/-- The motor command and the current waypoint fit. -/
structure HoldsNavigation (n : Navigator D) (waypoint : Waypoint D) : Prop where
  motorLeft : Fits 15 n.motorLeft
  motorRight : Fits 15 n.motorRight
  latitude : Fits 31 (Dbl.toInt (num 10000000 * waypoint.latitude))
  longitude : Fits 31 (Dbl.toInt (num 10000000 * waypoint.longitude))
  speed : -3276 ≤ waypoint.speed ∧ waypoint.speed ≤ 3276

variable (undefined : D → Int32) (frame : TelemetryFrame) (location : Gps.Location)

/-- The fields of the fix are exact when its numbers fit. -/
theorem putGps_exact_iff (gps2Quality : UInt8) :
    (frame.putGps undefined location gps2Quality).ExactGps D location ↔ HoldsGps D location := by
  have hint := castInt_exact_iff undefined
  have hshort := castShort_exact_iff undefined
  refine ⟨fun h => ?_, fun h => ?_⟩
  · exact
      { latitude := (hint _).mp h.gpsLatitude
        longitude := (hint _).mp h.gpsLongitude
        altitude := (hshort _).mp h.gpsAltitude
        speed := (hshort _).mp h.gpsSpeed
        course := (hshort _).mp h.gpsBearing }
  · exact
      { gpsLatitude := (hint _).mpr h.latitude
        gpsLongitude := (hint _).mpr h.longitude
        gpsAltitude := (hshort _).mpr h.altitude
        gpsSpeed := (hshort _).mpr h.speed
        gpsBearing := (hshort _).mpr h.course }

/-- The fields of the way are. -/
theorem putNavigation_exact_iff (n : Navigator D) (waypoint : Waypoint D) :
    (frame.putNavigation undefined n waypoint).ExactNavigation n waypoint ↔
      HoldsNavigation n waypoint := by
  have hint := castInt_exact_iff undefined
  refine ⟨fun h => ?_, fun h => ?_⟩
  · exact
      { motorLeft := (toInt16_ofInt_iff _).mp h.leftMotorCommand
        motorRight := (toInt16_ofInt_iff _).mp h.rightMotorCommand
        latitude := (hint _).mp h.destinationLatitude
        longitude := (hint _).mp h.destinationLongitude
        speed := (toInt16_mul_iff _).mp h.destinationSpeed }
  · exact
      { leftMotorCommand := (toInt16_ofInt_iff _).mpr h.motorLeft
        rightMotorCommand := (toInt16_ofInt_iff _).mpr h.motorRight
        destinationLatitude := (hint _).mpr h.latitude
        destinationLongitude := (hint _).mpr h.longitude
        destinationSpeed := (toInt16_mul_iff _).mpr h.speed }

/-- The sensors, the power and the driver leave the location alone. -/
theorem putPower_exact_iff (data : Power.PowerUnitData) :
    (frame.putPower undefined data).ExactGps D location ↔ frame.ExactGps D location := by
  rw [exactGps_iff, exactGps_iff]
  unfold putPower
  dsimp only
  split <;> exact Iff.rfl

/-- The driver's fields leave those of the fix as they are. -/
theorem putDriver_exact_iff (data : Driver.DriverData) :
    (frame.putDriver undefined data).ExactGps D location ↔ frame.ExactGps D location := by
  rw [exactGps_iff, exactGps_iff]
  unfold putDriver
  split <;> exact Iff.rfl

end TelemetryFrame

open TelemetryFrame

/-- **Exact where the numbers fit**, whatever the arithmetic. -/
theorem Robot.sendTelemetryFrame_spec (s : Robot D) (undefined : D → Int32) (devices : Devices)
    (location : Gps.Location) (heading : D) (gps2Quality : UInt8) {waypoint : Waypoint D}
    (hwaypoint : s.navigator.getCurrentWaypoint = .ok waypoint) :
    ∃ frame next, s.sendTelemetryFrame undefined devices location heading gps2Quality =
        .ok (frame, next) ∧
      (frame.ExactGps D location ↔ HoldsGps D location) ∧
        (frame.ExactNavigation s.navigator waypoint ↔ HoldsNavigation s.navigator waypoint) := by
  unfold sendTelemetryFrame
  rw [hwaypoint]
  let started := { devices.memory with frameValid1 := 0x73, frameValid2 := 0x02 }
  let located := started.putGps undefined location gps2Quality
  let powered := (located.putSensors undefined heading).putPower undefined devices.powerUnit
  let driven := powered.putDriver undefined devices.controlUnit
  have hdriven : driven.ExactGps D location ↔ HoldsGps D location := by
    rw [putDriver_exact_iff, putPower_exact_iff, ← putGps_exact_iff undefined started location
      gps2Quality, exactGps_iff, exactGps_iff]
    exact Iff.rfl
  refine ⟨_, _, rfl, ?_, ?_⟩
  · rw [← hdriven, exactGps_iff, exactGps_iff]
    exact Iff.rfl
  · rw [← putNavigation_exact_iff undefined driven]
    exact ⟨fun h => ⟨h.1, h.2, h.3, h.4, h.5⟩, fun h => ⟨h.1, h.2, h.3, h.4, h.5⟩⟩

/-! ## On exact numbers -/

/-- `x` is less than one beyond what a sign and `w` bits can hold. -/
def Within (w : Nat) (x : ℝ) : Prop := ((-2 ^ w - 1 : ℤ) : ℝ) < x ∧ x < ((2 ^ w : ℤ) : ℝ)

/-- A number below zero is cut upwards, so that the bound has the other sign as well. -/
theorem truncReal_le_natCast_iff (x : ℝ) (n : Nat) : truncReal x ≤ n ↔ x < n + 1 := by
  rcases le_or_gt 0 x with hx | hx
  · exact_mod_cast truncReal_le_iff hx n
  · have hcut : truncReal x ≤ 0 := by
      rw [truncReal, if_pos hx]
      exact_mod_cast Int.ceil_le.mpr (by exact_mod_cast hx.le)
    exact iff_of_true (hcut.trans n.cast_nonneg) (by linarith [n.cast_nonneg (α := ℝ)])

/-- A number fits when it is within the bounds of its type. -/
theorem fits_truncReal_iff (w : Nat) (x : ℝ) : Fits w (truncReal x) ↔ Within w x := by
  have hpow : (0 : ℤ) < 2 ^ w := by positivity
  have hupper : truncReal x < 2 ^ w ↔ x < ((2 ^ w : ℤ) : ℝ) := by
    have hle := truncReal_le_natCast_iff x (2 ^ w - 1)
    rw [Nat.cast_sub Nat.one_le_two_pow, Nat.cast_sub Nat.one_le_two_pow] at hle
    push_cast at hle ⊢
    rw [← Int.le_sub_one_iff, hle, sub_add_cancel]
  have hlower : -2 ^ w ≤ truncReal x ↔ ((-2 ^ w - 1 : ℤ) : ℝ) < x := by
    have hle := truncReal_le_natCast_iff (-x) (2 ^ w)
    rw [truncReal_neg] at hle
    push_cast at hle ⊢
    rw [neg_le, hle]
    exact ⟨fun h => by linarith, fun h => by linarith⟩
  exact and_congr hlower hupper

/-- Where a robot can be, and how fast. -/
structure InRange (location : Gps.Location) : Prop where
  latitude : -90 ≤ location.latitude ∧ location.latitude ≤ 90
  longitude : -180 ≤ location.longitude ∧ location.longitude ≤ 180
  altitude : -500 ≤ location.altitude ∧ location.altitude ≤ 9000
  speed : 0 ≤ location.speed ∧ location.speed ≤ 100

/-- The numbers the fields can hold. -/
structure Representable (location : Gps.Location) (n : Navigator ℝ) (waypoint : Waypoint ℝ) :
    Prop where
  altitude : 10 * location.altitude < 32768
  course : -32769 < 10 * location.course ∧ 10 * location.course < 32768
  motorLeft : Fits 15 n.motorLeft
  motorRight : Fits 15 n.motorRight
  latitude : Within 31 (num 10000000 * waypoint.latitude)
  longitude : Within 31 (num 10000000 * waypoint.longitude)
  speed : -3276 ≤ waypoint.speed ∧ waypoint.speed ≤ 3276

/-- A scaled rational. -/
theorem fits_scaled_iff (w : Nat) (k q : ℚ) :
    Fits w (Dbl.toInt (num k * num q : ℝ)) ↔ -2 ^ w - 1 < k * q ∧ k * q < 2 ^ w := by
  rw [real_toInt, fits_truncReal_iff, real_num, real_num]
  unfold Within
  exact_mod_cast Iff.rfl

/-- For a location in range, all fields fit exactly when the way is representable. -/
theorem holds_iff {location : Gps.Location} (h : InRange location) (n : Navigator ℝ)
    (waypoint : Waypoint ℝ) :
    HoldsGps ℝ location ∧ HoldsNavigation n waypoint ↔ Representable location n waypoint := by
  obtain ⟨hlatitude, hlongitude, haltitude, hspeed⟩ := h
  refine ⟨fun ⟨hg, hn⟩ => ?_, fun hr => ⟨?_, ?_⟩⟩
  · exact
      { altitude := by
          have hfits := ((fits_scaled_iff ..).mp hg.altitude).2
          linarith
        course := by
          have hfits := (fits_scaled_iff ..).mp hg.course
          exact ⟨by linarith [hfits.1], by linarith [hfits.2]⟩
        motorLeft := hn.motorLeft
        motorRight := hn.motorRight
        latitude := (fits_truncReal_iff ..).mp hn.latitude
        longitude := (fits_truncReal_iff ..).mp hn.longitude
        speed := hn.speed }
  · exact
      { latitude := (fits_scaled_iff ..).mpr ⟨by linarith, by linarith⟩
        longitude := (fits_scaled_iff ..).mpr ⟨by linarith, by linarith⟩
        altitude := (fits_scaled_iff ..).mpr ⟨by linarith, by linarith [hr.altitude]⟩
        speed := (fits_scaled_iff ..).mpr ⟨by linarith, by linarith⟩
        course := (fits_scaled_iff ..).mpr ⟨by linarith [hr.course.1], by linarith [hr.course.2]⟩ }
  · exact
      { motorLeft := hr.motorLeft
        motorRight := hr.motorRight
        latitude := (fits_truncReal_iff ..).mpr hr.latitude
        longitude := (fits_truncReal_iff ..).mpr hr.longitude
        speed := hr.speed }

/-- A motor command `Move` makes of a speed that fits, fits. -/
theorem move_fits (n : Navigator ℝ) {speed : Int} (hspeed : 0 ≤ speed) (hfits : speed < 32768)
    (angle distance : ℝ) : Fits 15 (n.move speed angle distance).motorLeft ∧
      Fits 15 (n.move speed angle distance).motorRight := by
  by_cases hmove : n.doNotMove = true
  · obtain ⟨hleft, hright⟩ := Navigator.move_halts hmove speed angle distance
    rw [hleft, hright]
    decide
  · obtain ⟨hleft, hright⟩ :=
      Navigator.move_withinSpeed (by simpa using hmove) hspeed angle distance
    rw [abs_le] at hleft hright
    unfold Fits
    omega

/-- Below 3276.8 metres, on the way to a place on the globe at a speed of at most 3276. -/
theorem representable_move {location : Gps.Location} {waypoint : Waypoint ℝ}
    (haltitude : 10 * location.altitude < 32768)
    (hcourse : 0 ≤ location.course ∧ location.course ≤ 360)
    (hlatitude : |waypoint.latitude| ≤ 90) (hlongitude : |waypoint.longitude| ≤ 180)
    (hspeed : 0 ≤ waypoint.speed ∧ waypoint.speed ≤ 3276) (n : Navigator ℝ) (angle distance : ℝ) :
    Representable location (n.move waypoint.speed angle distance) waypoint := by
  have hmotors := move_fits n hspeed.1 (by omega) angle distance
  rw [abs_le] at hlatitude hlongitude
  have hwithin : ∀ x : ℝ, -180 ≤ x → x ≤ 180 → Within 31 (num 10000000 * x) := by
    intro x hlower hupper
    rw [Within, real_num]
    push_cast
    exact ⟨by linarith, by linarith⟩
  exact
    { altitude := haltitude
      course := ⟨by linarith, by linarith⟩
      motorLeft := hmotors.1
      motorRight := hmotors.2
      latitude := hwithin _ (by linarith) (by linarith)
      longitude := hwithin _ (by linarith) (by linarith)
      speed := ⟨by omega, by omega⟩ }

/-- **When the telemetry is exact**: the fields of 32 bits hold every place on the globe, but not
every waypoint of a file; those of 16 bits do not hold every altitude, nor every speed. -/
theorem sendTelemetry_exact_iff (s : Robot ℝ) (undefined : ℝ → Int32) (devices : Devices)
    {location : Gps.Location} (heading : ℝ) (gps2Quality : UInt8) {waypoint : Waypoint ℝ}
    (hlocation : InRange location)
    (hwaypoint : s.navigator.getCurrentWaypoint = .ok waypoint) :
    ∃ frame next, s.sendTelemetryFrame undefined devices location heading gps2Quality =
        .ok (frame, next) ∧
      (frame.ExactGps ℝ location ∧ frame.ExactNavigation s.navigator waypoint ↔
        Representable location s.navigator waypoint) := by
  obtain ⟨frame, next, hframe, hgps, hnavigation⟩ :=
    s.sendTelemetryFrame_spec undefined devices location heading gps2Quality hwaypoint
  refine ⟨frame, next, hframe, ?_⟩
  rw [hgps, hnavigation]
  exact holds_iff hlocation _ _

/-! ## A robot on its way -/

/-- Driving does not change the waypoint. -/
theorem getCurrentWaypoint_move (n : Navigator ℝ) (speed : Int) (angle distance : ℝ) :
    (n.move speed angle distance).getCurrentWaypoint = n.getCurrentWaypoint := by
  unfold Navigator.getCurrentWaypoint
  rw [Navigator.move_toRoute]

/-- The only waypoint of a path. -/
noncomputable def destination : Waypoint ℝ := ⟨(43 : ℕ), (-8 : ℤ), 1000⟩

/-- A robot that has just moved towards it. -/
noncomputable def underway : Robot ℝ where
  navigator :=
    { Navigator.fresh with waypoints := [destination], waypointsSize := 1, waypointsIndex := 0 }.move
      destination.speed (0 : ℕ) (5 : ℕ)
  location := ⟨(43 : ℕ), (-8 : ℤ), 4⟩
  location2 := ⟨(43 : ℕ), (-8 : ℤ), 4⟩

/-- A fix that far above the sea. -/
def fixAt (altitude : ℚ) : Gps.Location where
  date := 0
  time := 0
  latitude := 43
  longitude := -8
  speed := 2
  course := 90
  status := 'A'
  quality := 4
  satellites := 12
  hdop := 1
  altitude := altitude
  ondulation := 50
  age := 0
  stationID := 0

theorem fixAt_inRange {altitude : ℚ} (h : -500 ≤ altitude ∧ altitude ≤ 9000) :
    InRange (fixAt altitude) where
  latitude := by norm_num [fixAt]
  longitude := by norm_num [fixAt]
  altitude := h
  speed := by norm_num [fixAt]

theorem underway_waypoint : underway.navigator.getCurrentWaypoint = .ok destination := by
  rw [underway, getCurrentWaypoint_move]
  rfl

theorem sendTelemetry_exact_sea :
    ∃ frame next, underway.sendTelemetryFrame (fun _ => Int32.minValue) default (fixAt 100)
        (0 : ℕ) 4 = .ok (frame, next) ∧
      frame.ExactGps ℝ (fixAt 100) ∧ frame.ExactNavigation underway.navigator destination := by
  obtain ⟨frame, next, hframe, hexact⟩ := sendTelemetry_exact_iff underway (fun _ => Int32.minValue)
    default (0 : ℕ) 4 (fixAt_inRange (by norm_num : (-500 : ℚ) ≤ 100 ∧ (100 : ℚ) ≤ 9000))
    underway_waypoint
  refine ⟨frame, next, hframe, hexact.mpr ?_⟩
  refine representable_move (by decide +kernel) (by decide +kernel) ?_ ?_ (by decide) _ _ _
  · rw [destination, Nat.abs_cast]
    norm_num
  · rw [destination, ← Int.cast_abs]
    norm_num

/-- At 4000 metres the altitude in the frame is -2553.6. -/
theorem sendTelemetry_wraps :
    InRange (fixAt 4000) ∧ underway.navigator.getCurrentWaypoint = .ok destination ∧
    ∃ frame next, underway.sendTelemetryFrame (fun _ => Int32.minValue) default (fixAt 4000)
        (0 : ℕ) 4 = .ok (frame, next) ∧
      frame.gpsAltitude = -25536 ∧ ¬ frame.ExactGps ℝ (fixAt 4000) := by
  have hcut : Dbl.toInt (num 10 * num 4000 : ℝ) = 40000 := by
    rw [real_toInt, real_num, real_num, truncReal_of_nonneg (by norm_num)]
    norm_num
  refine ⟨fixAt_inRange (by norm_num), underway_waypoint, ?_⟩
  unfold Robot.sendTelemetryFrame
  rw [underway_waypoint]
  refine ⟨_, _, rfl, ?_, fun h => ?_⟩
  · show (castShort (fun _ => Int32.minValue) (num 10 * num 4000 : ℝ)) = -25536
    rw [castShort, castInt, hcut]
    decide
  · have hfits : Fits 15 (Dbl.toInt (num 10 * num 4000 : ℝ)) :=
      (castShort_exact_iff (fun _ => Int32.minValue) _).mp h.gpsAltitude
    rw [hcut] at hfits
    revert hfits
    decide

end Solarbot.Main
