import Solarbot.Gps.Nmea

/-!
# `ControlUnit::RealRead`

The driver of the motors answers each command with a line: `$C01` is its status, `$A01` that
of the arm, and `$ER` an error. `RealRead` reads one, puts a zero behind it, and takes the
numbers of a status into `data`. `VerifyChecksum` is the loop of the GPS sentences over at
most 24 bytes.

Mirroring notes vs `ControlUnit.cpp`:
- `portRxBuffer` is the buffer and what is behind it in memory. `stores` are the indices of the
  buffer that a call stores to.
- `select` says whether there is anything to read; `line` is what the read returns, `none` when
  it fails and returns `-1`.
- A search that finds nothing kills the program: `none`.
- The numbers of `$A01` are printed, and kept nowhere.
- `float` is read as exact rationals, and the clock as a number.
-/

namespace Solarbot.Driver

open CText Gps

/-- `port_rx_buffer_size`. -/
abbrev portRxBufferSize : Nat := 32

namespace Err

def invalidChecksum : Int := -16
def readError : Int := -19
def readTimeout : Int := -20
def invalidFrame : Int := -22

end Err

/-- `SpeedFactor`. -/
def speedFactor : Rat := 67272727272727 / 10 ^ 16

structure DriverData where
  status : Int
  idFrame : UInt8
  leftSpeedPulses : Int
  rightSpeedPulses : Int
  leftSpeed : Rat
  rightSpeed : Rat
  leftAlarm : Bool
  rightAlarm : Bool
  remoteControlled : Bool
  lastUpdate : Nat
  deriving DecidableEq, Inhabited

structure ControlUnit where
  portRxBuffer : List Char
  data : DriverData

/-- What a call leaves behind, and what it returns. -/
structure Outcome where
  unit : ControlUnit
  result : Int
  stores : List Int

/-- `VerifyChecksum`. -/
def verifyChecksum (message : List Char) : Int :=
  let (sum, message) := checksumLoop (portRxBufferSize - 8) 0 message.tail
  let checksum := UInt8.ofInt (strtol16 message)
  if sum ≠ checksum then Err.invalidChecksum else 0

/-- The `$C01` branch. -/
def readC01With (scan : Scan) (line : List Char) (now : Nat) (data : DriverData) :
    Option DriverData := do
  let idFrame ← scan.comma line
  let leftSpeedPulses ← scan.comma idFrame
  let rightSpeedPulses ← scan.comma leftSpeedPulses
  let leftAlarm ← scan.comma rightSpeedPulses
  let rightAlarm ← scan.comma leftAlarm
  let remoteControlled ← scan.comma rightAlarm
  return { data with
    idFrame := UInt8.ofInt (← scan.atoi idFrame)
    leftSpeedPulses := ← scan.atoi leftSpeedPulses
    rightSpeedPulses := ← scan.atoi rightSpeedPulses
    leftAlarm := (← scan.atoi leftAlarm) = 1
    rightAlarm := (← scan.atoi rightAlarm) = 1
    remoteControlled := (← scan.atoi remoteControlled) = 1
    leftSpeed := (← scan.atoi leftSpeedPulses) * speedFactor
    rightSpeed := (← scan.atoi rightSpeedPulses) * speedFactor
    lastUpdate := now }

def readC01 : List Char → Nat → DriverData → Option DriverData := readC01With .memory

/-- What the `$A01` branch prints. -/
structure ArmReport where
  idFrame : UInt8
  id : Int
  verticalAngle : Int16
  horizontalAngle : Int16
  deriving DecidableEq

/-- The `$A01` branch. -/
def readA01With (scan : Scan) (line : List Char) : Option ArmReport := do
  let idFrame ← scan.comma line
  let id ← scan.comma idFrame
  let verticalAngle ← scan.comma id
  let horizontalAngle ← scan.comma verticalAngle
  return {
    idFrame := UInt8.ofInt (← scan.atoi idFrame)
    id := ← scan.atoi id
    verticalAngle := Int16.ofInt (← scan.atoi verticalAngle)
    horizontalAngle := Int16.ofInt (← scan.atoi horizontalAngle) }

def readA01 : List Char → Option ArmReport := readA01With .memory

namespace ControlUnit

/-- `read(port_fd, port_rx_buffer, port_rx_buffer_size)` and `port_rx_buffer[r] = 0x00`. -/
def receive (u : ControlUnit) (line : List Char) : ControlUnit :=
  let received := line.take portRxBufferSize
  { u with portRxBuffer :=
      (received ++ u.portRxBuffer.drop received.length).set received.length '\x00' }

/-- The branches for a line with a good checksum. -/
def parse (u : ControlUnit) (now : Nat) : Option ControlUnit := do
  let data ←
    if "$C01".toList <+: u.portRxBuffer then readC01 u.portRxBuffer now u.data else some u.data
  if "$A01".toList <+: u.portRxBuffer then
    let _ ← readA01 u.portRxBuffer
    return { u with data := data }
  else return { u with data := data }

/-- `RealRead` at the time `now`, where `select` returned `rv`. -/
def realRead (u : ControlUnit) (now : Nat) (rv : Int) (line : Option (List Char)) :
    Option Outcome :=
  let finish := fun (u : ControlUnit) result stores =>
    ({ unit := { u with data := { u.data with status := result } }, result, stores } : Outcome)
  if rv = -1 then some (finish u Err.readError [])
  else if rv = 0 then some (finish u Err.readTimeout [])
  else
    match line with
    | none => some (finish u Err.invalidFrame [-1])
    | some line =>
      let u := u.receive line
      let r := (line.take portRxBufferSize).length
      let stores := (List.range (r + 1)).map Int.ofNat
      if 4 < r then
        if "$ER".toList <+: u.portRxBuffer then some (finish u 0 stores)
        else if verifyChecksum u.portRxBuffer = 0 then
          (u.parse now).map fun u => finish u 0 stores
        else some (finish u (verifyChecksum u.portRxBuffer) stores)
      else some (finish u Err.invalidFrame stores)

end ControlUnit

end Solarbot.Driver
