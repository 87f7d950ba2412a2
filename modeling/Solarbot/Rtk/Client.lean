import Solarbot.Lib.Printing
import Solarbot.Lib.Runs
import Solarbot.Link.Aes128Inverse
import Solarbot.Nav.Geodesy
import Solarbot.Telemetry.Exchange

/-!
# The client of the RTK server

`Solarbot::ReadRTCMThread` receives one datagram after the other into the same buffer. A
correction is handed to both GPS receivers, a challenge (`ROV`) gives the key the client
authenticates itself with, and after five receptions that brought nothing it authenticates
itself again without being asked. `step` is one pass of the loop.

Mirroring notes vs `Solarbot.cpp`:
- `recvfrom` stores the front of a datagram, returns how much it stored, and leaves the rest
  of the buffer as it is; `none` is a reception that fails or times out.
- The buffer is one of plain `char`, which is unsigned on ARM and signed on x86. What the
  source compares and divides is the value of a `char` (`PlainChar.value`).
- An access outside the buffer, and a text that does not fit the 128 bytes of
  `SendAuthenticationToRTKServer`, are faults.
- The location is read when the message is written, so it comes with the event.
- The loop that makes up the first key stores every byte in `RTKServer_AES_Key[0]`.
-/

namespace Solarbot.Rtk

open Link

/-- `MAX_UDP_SIZE`. -/
abbrev maxUdpSize : Nat := 1024

/-- The size of `buff` in `SendAuthenticationToRTKServer`. -/
def authBufferSize : Nat := 128

/-- Plain `char`, as the target has it. -/
inductive PlainChar where
  | signed | unsigned
  deriving DecidableEq, Repr

/-- The value of a `char`. -/
def PlainChar.value : PlainChar → UInt8 → Int
  | .signed, b => b.toInt8.toInt
  | .unsigned, b => b.toNat

/-- What undefined behaviour of the thread there is. -/
inductive Fault where
  | outOfRange (index : Int)
  | overflow (length : Nat)
  deriving DecidableEq, Repr

/-- What the configuration gives. -/
structure Settings where
  myID : List UInt8
  rtkServerPassword : List UInt8
  rtkServerAskingBase : List UInt8

structure Client where
  /-- `gps_rtcm_rx_buffer`. -/
  rxBuffer : List UInt8
  /-- `RTKServer_AES_Key`. -/
  aesKey : List UInt8
  /-- `RTKServer_AES`. -/
  aes : List UInt8
  tickToSendAloha : Nat
  rtcmCount : Nat
  /-- What was written to `gps` and `gps2`. -/
  gps : List (List UInt8)
  gps2 : List (List UInt8)
  /-- The datagrams sent to the server. -/
  sent : List (List UInt8)
  size : rxBuffer.length = maxUdpSize

/-- One reception, and the location at that time. -/
structure Event (K : Type) where
  datagram : Option (List UInt8)
  location : Nav.Point K

variable {K : Type} [Field K] [LinearOrder K] [FloorRing K]

/-- The text of the message: `ROV,%s,%s,%s,%0.6f,%0.6f`. -/
def authText (s : Settings) (location : Nav.Point K) : List UInt8 :=
  let number := fun x : K => (CText.fixed 6 x).map fun c => UInt8.ofNat c.toNat
  Telemetry.ascii "ROV," ++ Telemetry.cString s.myID ++ Telemetry.ascii "," ++
    Telemetry.cString s.rtkServerPassword ++ Telemetry.ascii "," ++
    Telemetry.cString s.rtkServerAskingBase ++ Telemetry.ascii "," ++
    number location.lat ++ Telemetry.ascii "," ++ number location.lon

/-- The number of blocks for a text of this length. -/
def blocks (c : Nat) : Nat := 1 + c / 16

/-- The text, with zeros up to the end of its last block. -/
def padded (text : List UInt8) : List UInt8 :=
  text ++ List.replicate (16 * blocks text.length - text.length) 0

namespace Client

variable (char : PlainChar) (s : Settings) (c : Client)

/-- `gps_rtcm_rx_buffer[index]`. -/
def byteAt (index : Int) : Except Fault UInt8 :=
  if 0 ≤ index ∧ index.toNat < maxUdpSize then .ok (c.rxBuffer.getD index.toNat 0)
  else .error (.outOfRange index)

theorem stored_length {buffer : List UInt8} (h : buffer.length = maxUdpSize)
    (datagram : List UInt8) :
    (datagram.take maxUdpSize ++ buffer.drop datagram.length).length = maxUdpSize := by
  rw [List.length_append, List.length_take, List.length_drop, h]
  omega

/-- `recvfrom(...)` with a datagram. -/
def recvfrom (datagram : List UInt8) : Client :=
  { c with
    rxBuffer := datagram.take maxUdpSize ++ c.rxBuffer.drop datagram.length
    size := stored_length c.size datagram }

/-- `SendAuthenticationToRTKServer`. -/
def sendAuthenticationToRTKServer (location : Nav.Point K) : Except Fault Client :=
  let text := authText s location
  if text.length < authBufferSize then
    .ok { c with sent := c.sent ++ [Aes128.encrypt c.aes (padded text) (blocks text.length)] }
  else .error (.overflow text.length)

/-- The loop that extracts the key, with `sv` as it is before the pass. -/
def extractKey : Nat → Int → Except Fault (List UInt8)
  | 0, _ => .ok []
  | n + 1, sv => do
    let b ← c.byteAt (sv + 4)
    let key ← extractKey n ((char.value b).tdiv 4)
    return b :: key

/-- A challenge. -/
def answer (location : Nav.Point K) : Except Fault Client := do
  let key ← c.extractKey char 16 11
  sendAuthenticationToRTKServer s { c with aesKey := key, aes := Aes128.setKey key } location

/-- A correction of `n` bytes. -/
def forward (n : Nat) : Client :=
  { c with
    rtcmCount := c.rtcmCount + 1
    gps := c.gps ++ [c.rxBuffer.take n]
    gps2 := c.gps2 ++ [c.rxBuffer.take n] }

/-- A reception of at most four bytes, or none. -/
def silent (location : Nav.Point K) : Except Fault Client :=
  let tick := c.tickToSendAloha + 1
  if 4 < tick then sendAuthenticationToRTKServer s { c with tickToSendAloha := 0 } location
  else .ok { c with tickToSendAloha := tick }

/-- One pass of the loop. -/
def step (e : Event K) : Except Fault Client :=
  match e.datagram with
  | none => c.silent s e.location
  | some datagram =>
    let n := (datagram.take maxUdpSize).length
    let c := c.recvfrom datagram
    if 4 < n then
      if char.value (c.rxBuffer.getD 0 0) = 0xD3 then .ok (c.forward n)
      else if c.rxBuffer.take 3 = Telemetry.ascii "ROV" then c.answer char s e.location
      else .ok c
    else c.silent s e.location

/-- The thread up to the loop: a made-up key, and the first message. `memory` and `key` are
what the two arrays hold before. -/
def start (memory : Vector UInt8 maxUdpSize) (key : Vector UInt8 16) (location : Nav.Point K) :
    Except Fault Client :=
  let aesKey := (List.range 16).foldl (fun key i => key.set 0 (UInt8.ofNat (0x45 + i))) key.toList
  sendAuthenticationToRTKServer s
    { rxBuffer := memory.toList
      aesKey := aesKey
      aes := Aes128.setKey aesKey
      tickToSendAloha := 0
      rtcmCount := 0
      gps := []
      gps2 := []
      sent := []
      size := memory.length_toList }
    location

end Client

end Solarbot.Rtk
