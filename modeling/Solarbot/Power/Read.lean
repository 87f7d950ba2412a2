import Solarbot.Gps.Nmea

/-!
# `PowerUnit::Read`

The power unit is asked with a command and answers with a line, a `#` line being a
comment. What its numbers are is stored in `data`, when the line has a good checksum;
`VerifyChecksum` is the loop of the GPS sentences with a smaller limit.

Mirroring notes vs `PowerUnit.cpp`:
- `portRxBuffer` is the buffer and what is behind it in memory, as for the GPS.
- `select` says whether there is anything to read. The reads of a call return the lines
  that come, and nothing behind them; a read that fails is the empty line.
- A search that finds nothing kills the program: `none`.
- `float` is read as exact rationals.
-/

namespace Solarbot.Power

open CText Gps

/-- `port_rx_buffer_size`. -/
abbrev portRxBufferSize : Nat := 100

namespace Err

def invalidChecksum : Int := -16
def readError : Int := -19
def readTimeout : Int := -20
def checksumError : Int := -21
def invalidFrame : Int := -22

end Err

/-- `PowerUnitData`. -/
structure PowerUnitData where
  status : Int
  idFrame : UInt8
  panelVoltage : Rat
  batteryVoltage : Rat
  panelPower : Int16
  batteryPower : Int16
  electronicPower : Int16
  leftPower : Int16
  rightPower : Int16
  accessoriesPower : Int16
  stopPressed : Bool
  deriving DecidableEq, Inhabited

structure PowerUnit where
  portRxBuffer : List Char
  data : PowerUnitData

/-- `VerifyChecksum`. -/
def verifyChecksum (message : List Char) : Int :=
  let (sum, message) := checksumLoop (portRxBufferSize - 8) 0 message.tail
  let checksum := UInt8.ofInt (strtol16 message)
  if sum ≠ checksum then Err.invalidChecksum else 0

/-- The numbers of a line, over the data of the line before. -/
def readDataWith (scan : Scan) (line : List Char) (data : PowerUnitData) :
    Option PowerUnitData := do
  let idFrame ← scan.comma line
  let panelVoltage ← scan.comma idFrame
  let batteryVoltage ← scan.comma panelVoltage
  let panelPower ← scan.comma batteryVoltage
  let batteryPower ← scan.comma panelPower
  let electronicPower ← scan.comma batteryPower
  let leftPower ← scan.comma electronicPower
  let rightPower ← scan.comma leftPower
  let accessoriesPower ← scan.comma rightPower
  let stopPressed ← scan.comma accessoriesPower
  return { data with
    idFrame := UInt8.ofInt (← scan.atoi idFrame)
    panelVoltage := (← scan.atoi panelVoltage) / 10
    batteryVoltage := (← scan.atoi batteryVoltage) / 10
    panelPower := Int16.ofInt (← scan.atoi panelPower)
    batteryPower := Int16.ofInt (← scan.atoi batteryPower)
    electronicPower := Int16.ofInt (← scan.atoi electronicPower)
    leftPower := Int16.ofInt (← scan.atoi leftPower)
    rightPower := Int16.ofInt (← scan.atoi rightPower)
    accessoriesPower := Int16.ofInt (← scan.atoi accessoriesPower)
    stopPressed := (← scan.atoi stopPressed) = 1 }

def readData : List Char → PowerUnitData → Option PowerUnitData := readDataWith .memory

namespace PowerUnit

/-- `read(port_fd, port_rx_buffer, port_rx_buffer_size)`. -/
def receive (u : PowerUnit) (line : List Char) : PowerUnit :=
  let received := line.take portRxBufferSize
  { u with portRxBuffer := received ++ u.portRxBuffer.drop received.length }

/-- The reads of one call: comments are ignored. The unit, and `r` of the last read. -/
def readLine (u : PowerUnit) : List (List Char) → PowerUnit × Nat
  | [] => (u, 0)
  | line :: lines =>
    let u := u.receive line
    let r := (line.take portRxBufferSize).length
    if 1 < r ∧ u.portRxBuffer.head? = some '#' then u.readLine lines else (u, r)

/-- `Read`, where `select` returned `rv`; `none` when the program is killed. -/
def read (u : PowerUnit) (rv : Int) (lines : List (List Char)) : Option (PowerUnit × Int) :=
  let finish := fun (u : PowerUnit) result =>
    ({ u with data := { u.data with status := result } }, result)
  if rv = -1 then some (finish u Err.readError)
  else if rv = 0 then some (finish u Err.readTimeout)
  else
    let (u, r) := u.readLine lines
    if 4 < r then
      if verifyChecksum u.portRxBuffer = 0 then
        (readData u.portRxBuffer u.data).map fun data => finish { u with data := data } 0
      else some (finish u Err.checksumError)
    else some (finish u Err.invalidFrame)

end PowerUnit

end Solarbot.Power
