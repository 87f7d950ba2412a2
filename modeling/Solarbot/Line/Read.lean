import Solarbot.Nav.Path
import Solarbot.Power.Read

/-!
# `LineNavigator::Read`

The line sensor has two probes. It answers a `$` with a line that holds an identifier and what
either probe measured; a table for each probe turns that into a distance, and the angle is the
difference of the two distances, with factors.

Mirroring notes vs `LineNavigator.cpp`:
- `portRxBuffer` is the buffer and what is behind it in memory, as for the power unit; nothing
  puts a zero behind a line.
- `select` says whether there is anything to read; a read that fails is the empty line.
- A search that finds nothing kills the program, and an access outside a table is undefined:
  both are `none`.
- `VerifyChecksum` is the one of the power unit, whose buffer has the same size.
-/

namespace Solarbot.Line

open CText Gps Nav

/-- `left_table`. -/
def leftTable : List Rat := [
  10.0, 9.5, 9.3, 9.0, 8.5, 8.3, 8.0, 7.8, 7.7, 7.5, 7.4, 7.3, 7.1, 7.0, 6.9, 6.8, 6.8, 6.7, 6.6,
  6.5, 6.4, 6.4, 6.3, 6.3, 6.2, 6.1, 6.1, 6.0, 6.0, 5.9, 5.9, 5.8, 5.8, 5.8, 5.7, 5.7, 5.6, 5.6,
  5.5, 5.5, 5.5, 5.5, 5.4, 5.4, 5.4, 5.4, 5.3, 5.3, 5.3, 5.3, 5.2, 5.2, 5.2, 5.2, 5.1, 5.1, 5.1,
  5.1, 5.0, 5.0, 5.0, 4.9, 4.9, 4.9, 4.9, 4.8, 4.8, 4.8, 4.8, 4.7, 4.7, 4.7, 4.6, 4.6, 4.6, 4.6,
  4.5, 4.5, 4.5, 4.5, 4.5, 4.5, 4.4, 4.4, 4.4, 4.4, 4.4, 4.4, 4.4, 4.4, 4.4, 4.4, 4.3, 4.3, 4.3,
  4.3, 4.3, 4.3, 4.3, 4.3, 4.3, 4.3, 4.2, 4.2, 4.2, 4.2, 4.2, 4.2, 4.2, 4.2, 4.2, 4.2, 4.1, 4.1,
  4.1, 4.1, 4.1, 4.1, 4.1, 4.1, 4.1, 4.1, 4.0, 4.0, 4.0, 4.0, 4.0, 4.0, 4.0, 4.0, 4.0, 4.0, 4.0,
  4.0, 4.0, 4.0, 3.9, 3.9, 3.9, 3.9, 3.9, 3.9, 3.9, 3.9, 3.9, 3.9, 3.9, 3.9, 3.9, 3.9, 3.9, 3.9,
  3.9, 3.9, 3.9, 3.9, 3.8, 3.8, 3.8, 3.8, 3.8, 3.8, 3.8, 3.8, 3.8, 3.8, 3.8, 3.8, 3.8, 3.8, 3.8,
  3.8, 3.8, 3.8, 3.8, 3.8, 3.7, 3.7, 3.7, 3.7, 3.7, 3.7, 3.7, 3.7, 3.7, 3.7, 3.7, 3.7, 3.7, 3.7,
  3.7, 3.7, 3.7, 3.7, 3.7, 3.7, 3.6, 3.6, 3.6, 3.6, 3.6, 3.6, 3.6, 3.6, 3.6, 3.6, 3.6, 3.6, 3.6,
  3.6, 3.6, 3.6, 3.6, 3.6, 3.6, 3.6, 3.5, 3.5, 3.5, 3.5, 3.5, 3.5, 3.5, 3.5, 3.5]

/-- `right_table`. -/
def rightTable : List Rat := [
  9.5, 9.0, 8.5, 8.0, 7.5, 7.0, 6.5, 6.0, 5.5, 5.5, 5.4, 5.4, 5.4, 5.4, 5.0, 5.0, 5.0, 5.0, 5.0,
  4.9, 4.9, 4.9, 4.9, 4.9, 4.9, 4.9, 4.9, 4.8, 4.8, 4.8, 4.8, 4.8, 4.8, 4.8, 4.8, 4.8, 4.7, 4.7,
  4.7, 4.7, 4.7, 4.7, 4.7, 4.7, 4.6, 4.6, 4.6, 4.6, 4.6, 4.6, 4.6, 4.6, 4.5, 4.5, 4.5, 4.5, 4.5,
  4.5, 4.5, 4.5, 4.4, 4.4, 4.4, 4.4, 4.4, 4.4, 4.4, 4.4, 4.3, 4.3, 4.3, 4.3, 4.3, 4.3, 4.3, 4.3,
  4.2, 4.2, 4.2, 4.2, 4.2, 4.2, 4.2, 4.1, 4.1, 4.1, 4.1, 4.1, 4.1, 4.1, 4.1, 4.0, 4.0, 4.0, 4.0,
  4.0, 4.0, 4.0, 4.0, 4.0, 4.0, 4.0, 4.0, 3.9, 3.9, 3.9, 3.9, 3.9, 3.9, 3.9, 3.9, 3.9, 3.9, 3.9,
  3.9, 3.9, 3.9, 3.9, 3.9, 3.8, 3.8, 3.8, 3.8, 3.8, 3.8, 3.8, 3.8, 3.8, 3.8, 3.8, 3.8, 3.8, 3.8,
  3.8, 3.8, 3.7, 3.7, 3.7, 3.7, 3.7, 3.7, 3.7, 3.7, 3.7, 3.7, 3.7, 3.7, 3.7, 3.7, 3.7, 3.7, 3.6,
  3.6, 3.6, 3.6, 3.6, 3.6, 3.6, 3.6, 3.6, 3.6, 3.6, 3.6, 3.6, 3.6, 3.6, 3.6, 3.5, 3.5, 3.5, 3.5,
  3.5, 3.5, 3.5, 3.5]

def leftRawLow : Int := 541
def leftRawHigh : Int := 766
def rightRawLow : Int := 588
def rightRawHigh : Int := 763

/-- `LineNavigator::Data`. -/
structure Data (D : Type) where
  status : Int
  idFrame : UInt8
  rawLeft : Int
  rawRight : Int
  left : D
  right : D
  angle : D

structure LineNavigator (D : Type) where
  portRxBuffer : List Char
  leftOffset : Int
  rightOffset : Int
  leftFactor : D
  rightFactor : D
  angleFactor : D

/-- `VerifyChecksum`. -/
def verifyChecksum (message : List Char) : Int := Power.verifyChecksum message

/-- A raw value, limited to the interval of a table. -/
def limitRaw (low high raw : Int) : Int :=
  if raw < low then low else if high ≤ raw then high - 1 else raw

variable {D : Type} [Dbl D]

/-- `factor * (table[raw - low] + offset)`, with the raw value limited. -/
def distance (table : List Rat) (low high : Int) (factor : D) (offset raw : Int) : Option D :=
  let index := limitRaw low high raw - low
  if 0 ≤ index then
    (table[index.toNat]?).map fun item => factor * (num item + num (offset : Rat))
  else none

/-- The limits of the angle. -/
def limitAngle (angle : D) : D :=
  let angle := if Dbl.lt (num 80) angle then num 80 else angle
  if Dbl.lt angle (num (-80)) then num (-80) else angle

namespace LineNavigator

variable (n : LineNavigator D)

/-- What `Init` stores, over a buffer that holds anything. -/
def init (portRxBuffer : List Char) (leftOffset rightOffset : Int)
    (leftFactor rightFactor angleFactor : D) : LineNavigator D :=
  { portRxBuffer, leftOffset, rightOffset, leftFactor, rightFactor, angleFactor }

/-- The sensor as `Solarbot::InitModeLine` initialises it. -/
def initModeLine (portRxBuffer : List Char) : LineNavigator D :=
  .init portRxBuffer 0 0 (num 1) (num 1) (num 1)

/-- `read(port_fd, port_rx_buffer, port_rx_buffer_size)`. -/
def receive (line : List Char) : LineNavigator D :=
  let received := line.take Power.portRxBufferSize
  { n with portRxBuffer := received ++ n.portRxBuffer.drop received.length }

/-- The distance of the left probe. -/
def leftDistance (raw : Int) : Option D :=
  distance leftTable leftRawLow leftRawHigh n.leftFactor n.leftOffset raw

/-- The distance of the right probe. -/
def rightDistance (raw : Int) : Option D :=
  distance rightTable rightRawLow rightRawHigh n.rightFactor n.rightOffset raw

/-- The numbers of a line with a good checksum. -/
def readData (line : List Char) : Option (Data D) := do
  let idFrame ← comma line
  let rawLeft ← comma idFrame
  let left ← n.leftDistance (atoi rawLeft)
  let rawRight ← comma rawLeft
  let right ← n.rightDistance (atoi rawRight)
  return {
    status := 0
    idFrame := UInt8.ofInt (atoi idFrame)
    rawLeft := atoi rawLeft
    rawRight := atoi rawRight
    left := left
    right := right
    angle := limitAngle (n.angleFactor * (left - right)) }

/-- `Read(data)`, where `select` returned `rv` and `read` the line; `none` when the program is
killed. -/
def read (data : Data D) (rv : Int) (line : List Char) :
    Option (LineNavigator D × Data D × Int) :=
  let finish := fun (n : LineNavigator D) (data : Data D) result =>
    (n, { data with status := result }, result)
  if rv = -1 then some (finish n data Power.Err.readError)
  else if rv = 0 then some (finish n data Power.Err.readTimeout)
  else
    let n := n.receive line
    if 4 < (line.take Power.portRxBufferSize).length then
      if verifyChecksum n.portRxBuffer = 0 then
        (n.readData n.portRxBuffer).map fun data => finish n data 0
      else some (finish n data Power.Err.checksumError)
    else some (finish n data Power.Err.invalidFrame)

end LineNavigator

end Solarbot.Line
