import Solarbot.Lib.CText

/-!
# `GPS`: the sentences of a receiver

The receiver sends a line of text for each kind of information. `getLocation` reads
lines until it has seen a GGA and an RMC sentence with a good checksum, and takes a part
of the `Location` from each: `Gprmc` and `Gpgga` are these parts.

The parsers go from comma to comma with `p = strchr(p, ',') + 1`, all of it on
`port_rx_buffer`, where each read stores a line over the front of what was there. They are
written over what they ask of the text at their pointer (`Scan`); in the source that is
the memory from there on (`Scan.memory`).

Mirroring notes vs `GPS.cpp`:
- `portRxBuffer` is the buffer and what is behind it in memory: nothing puts a zero
  behind a line, and nothing keeps a search inside the buffer. A new one holds anything.
- A search that finds nothing makes `p` an invalid pointer, and each is used at once:
  the program is killed, `none`.
- `double` and `float` are read as exact rationals, and `char` as unsigned.
- A read that returns nothing, or fails, is the empty line.
-/

namespace Solarbot.Gps

open CText

abbrev serialPortRxBufferSize : Nat := 255

abbrev nmeaEmpty : UInt8 := 0x00
abbrev nmeaGprmc : UInt8 := 0x01
abbrev nmeaGpgga : UInt8 := 0x02
abbrev nmeaUnknown : UInt8 := 0x00
abbrev nmeaCompleted : UInt8 := 0x03
abbrev nmeaChecksumErr : UInt8 := 0x80

/-- `NMEA_GPRMC_STR` and `NMEA_GPGGA_STR`. -/
def nmeaGprmcStr : List Char := "$GNRMC".toList
def nmeaGpggaStr : List Char := "$GNGGA".toList

/-- What an RMC sentence says. -/
structure Gprmc where
  date : UInt32
  time : UInt32
  latitude : Rat
  longitude : Rat
  speed : Rat
  course : Rat
  status : Char
  deriving DecidableEq

/-- What a GGA sentence says. -/
structure Gpgga where
  quality : UInt8
  satellites : UInt8
  hdop : Rat
  altitude : Rat
  ondulation : Rat
  age : Int
  stationID : Int
  deriving DecidableEq

/-- `GPS::Location`. -/
structure Location extends Gprmc, Gpgga
  deriving DecidableEq

/-! ## The checksum and the type -/

/-- The loop of `nmea_valid_checksum`: the sum and where `message` points to when it ends;
`n` is `c - i`. -/
def checksumLoop : Nat → UInt8 → List Char → UInt8 × List Char
  | _, sum, [] => (sum, [])
  | n, sum, p :: message =>
    if p ≠ '*' ∧ 0 < n then checksumLoop (n - 1) (sum ^^^ UInt8.ofNat p.toNat) message
    else (sum, message)

def nmeaValidChecksum (message : List Char) : UInt8 :=
  let (sum, message) := checksumLoop (serialPortRxBufferSize - 8) 0 message.tail
  let checksum := UInt8.ofInt (strtol16 message)
  if sum ≠ checksum then nmeaChecksumErr else nmeaEmpty

def nmeaGetMessageType (message : List Char) : UInt8 :=
  if nmeaValidChecksum message ≠ nmeaEmpty then nmeaChecksumErr
  else if strstr message nmeaGpggaStr then nmeaGpgga
  else if strstr message nmeaGprmcStr then nmeaGprmc
  else nmeaUnknown

/-! ## The parsers -/

/-- `p = strchr(p, ',') + 1`. -/
def comma (p : List Char) : Option (List Char) := (strchr ',' p).map List.tail

/-- `gps_to_degree`. -/
def gpsToDegree (buffer : List Char) (sing : Char) : Rat :=
  let digit := fun i => ((buffer.getD i '\x00').toNat : Rat) - 48
  if sing = 'N' ∨ sing = 'S' then
    let result := 10 * digit 0 + digit 1 + atof (buffer.drop 2) / 60
    if sing = 'S' then -result else result
  else if sing = 'E' ∨ sing = 'W' then
    let result := 100 * digit 0 + 10 * digit 1 + digit 2 + atof (buffer.drop 3) / 60
    if sing = 'W' then -result else result
  else 0

/-- The centiseconds behind the digits of the time, with the two places that are there. -/
def centiseconds : List Char → UInt32
  | '.' :: d :: s =>
    if d.isDigit then
      10 * UInt32.ofNat (d.toNat - 48) +
        match s with
        | e :: _ => if e.isDigit then UInt32.ofNat (e.toNat - 48) else 0
        | [] => 0
    else 0
  | _ => 0

/-- What a parser asks of the text at its pointer. -/
structure Scan where
  comma : List Char → Option (List Char)
  /-- `*p` -/
  head : List Char → Option Char
  atoi : List Char → Option Int
  atol : List Char → Option Int
  atof : List Char → Option Rat
  centiseconds : List Char → Option UInt32
  gpsToDegree : List Char → Char → Option Rat

/-- The memory does not end: only a search can fail. -/
abbrev Scan.memory : Scan where
  comma := Gps.comma
  head p := some (p.headD '\x00')
  atoi p := some (CText.atoi p)
  atol p := some (CText.atol p)
  atof p := some (CText.atof p)
  centiseconds p := some (Gps.centiseconds p)
  gpsToDegree p sing := some (Gps.gpsToDegree p sing)

/-- What `nmea_parse_gpgga` takes from the text. -/
def readGpggaWith (scan : Scan) (nmea : List Char) : Option Gpgga := do
  let p ← scan.comma nmea -- time
  let p ← scan.comma p -- latitude
  let p ← scan.comma p -- latitude dir
  let p ← scan.comma p -- longitude
  let p ← scan.comma p -- longitude dir
  let quality ← scan.comma p
  let satellites ← scan.comma quality
  let hdop ← scan.comma satellites
  let altitude ← scan.comma hdop
  let p ← scan.comma altitude -- altitude units
  let ondulation ← scan.comma p
  let p ← scan.comma ondulation -- undulation units
  let age ← scan.comma p
  let stationID ← scan.comma age
  return {
    quality := UInt8.ofInt (← scan.atoi quality)
    satellites := UInt8.ofInt (← scan.atoi satellites)
    hdop := ← scan.atof hdop
    altitude := ← scan.atof altitude
    ondulation := ← scan.atof ondulation
    age := ← scan.atoi age
    stationID := ← scan.atoi stationID }

def readGpgga : List Char → Option Gpgga := readGpggaWith .memory

/-- A coordinate of a good fix; `dir` is where its direction is. -/
def coordinateWith (scan : Scan) (status : Char) (start dir : List Char) : Option Rat :=
  if status = 'A' then do scan.gpsToDegree start (← scan.head dir) else some 0

/-- What `nmea_parse_gprmc` takes from the text. -/
def readGprmcWith (scan : Scan) (nmea : List Char) : Option Gprmc := do
  let timeStart ← scan.comma nmea
  let p := timeStart.dropWhile Char.isDigit
  let statusStart ← scan.comma p
  let latStart ← scan.comma statusStart
  let latDir ← scan.comma latStart
  let lonStart ← scan.comma latDir
  let lonDir ← scan.comma lonStart
  let speed ← scan.comma lonDir
  let course ← scan.comma speed
  let date ← scan.comma course
  let time := 100 * UInt32.ofInt (← scan.atol timeStart) + (← scan.centiseconds p)
  let status ← scan.head statusStart
  return {
    date := UInt32.ofInt (← scan.atol date)
    time
    latitude := ← coordinateWith scan status latStart latDir
    longitude := ← coordinateWith scan status lonStart lonDir
    speed := ← scan.atof speed
    course := ← scan.atof course
    status }

def readGprmc : List Char → Option Gprmc := readGprmcWith .memory

theorem coordinateWith_memory (status : Char) (start dir : List Char) :
    coordinateWith .memory status start dir =
      some (if status = 'A' then gpsToDegree start (dir.headD '\x00') else 0) := by
  unfold coordinateWith
  split
  · rfl
  · rfl

def nmeaParseGpgga (nmea : List Char) (loc : Location) : Option Location :=
  (readGpgga nmea).map fun gga => { loc with toGpgga := gga }

def nmeaParseGprmc (nmea : List Char) (loc : Location) : Option Location :=
  (readGprmc nmea).map fun rmc => { loc with toGprmc := rmc }

/-! ## `getLocation` -/

structure GPS where
  portRxBuffer : List Char

/-- How a call of `getLocation` goes on a stream that brings these lines. -/
inductive Call
  /-- It waits for more lines. -/
  | waits
  /-- The program is killed. -/
  | killed
  /-- It returns, with these lines still to come. -/
  | returned (location : Location) (gps : GPS) (rest : List (List Char))

namespace GPS

/-- `read(port_fd, port_rx_buffer, SERIAL_PORT_RX_BUFFER_SIZE)`. -/
def read (g : GPS) (line : List Char) : GPS :=
  let received := line.take serialPortRxBufferSize
  { g with portRxBuffer := received ++ g.portRxBuffer.drop received.length }

/-- The loop of `getLocation`. -/
def locationLoop (g : GPS) (location : Location) (status : UInt8) : List (List Char) → Call
  | [] => if status = nmeaCompleted then .returned location g [] else .waits
  | line :: lines =>
    if status = nmeaCompleted then .returned location g (line :: lines)
    else
      let g := g.read line
      if line = [] then g.locationLoop location status lines
      else
        let type := nmeaGetMessageType g.portRxBuffer
        if type = nmeaGpgga then
          match nmeaParseGpgga g.portRxBuffer location with
          | some location => g.locationLoop location (status ||| nmeaGpgga) lines
          | none => .killed
        else if type = nmeaGprmc then
          match nmeaParseGprmc g.portRxBuffer location with
          | some location => g.locationLoop location (status ||| nmeaGprmc) lines
          | none => .killed
        else g.locationLoop location status lines

def getLocation (g : GPS) (location : Location) (lines : List (List Char)) : Call :=
  g.locationLoop { location with status := 'I' } nmeaEmpty lines

end GPS

end Solarbot.Gps
