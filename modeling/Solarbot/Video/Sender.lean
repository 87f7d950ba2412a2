import Solarbot.Link.Frame

/-!
# `UdpVideoSender`: the datagrams of a video frame

`Send` cuts one frame into datagrams. The first one begins with the start mark and
the escaped header; then payload bytes are added while there is room for an escape
and the CRC; the CRC goes into the datagram of the last payload byte.

Mirroring notes vs `UdpVideoSender.cpp`:
- `tx_buffer` is written at consecutive positions from `0` in each datagram, so its
  written prefix is a list and `tx_buffer_index` is the list's length. `put` is the
  store, and faults outside the `UdpServerPacketSize` bytes of `tx_buffer`.
- `payload` stands for the `PayloadLength` bytes at the pointer; the bytes from
  `data_index` on are the list `data`, so `data_index < PayloadLength` is
  `data ≠ []`.
- The `for` loop over the datagrams takes fuel; running out of it is a fault.
- `sendTo` hands the datagram over. The JPEG bytes are the argument of `sendImage`.
-/

namespace Solarbot.Video

open Link

/-- `UdpVideoSender::Header`. -/
structure Header where
  payloadLength : Int32
  frameType : UInt8
  reserved : UInt8
  frameId : UInt16
  deriving DecidableEq

/-- The `sizeof(Header)` bytes from `pHeader` on. -/
def Header.bytes (header : Header) : List UInt8 :=
  let length := header.payloadLength.toUInt32
  [length.toUInt8, (length >>> 8).toUInt8, (length >>> 16).toUInt8, (length >>> 24).toUInt8,
    header.frameType, header.reserved, loByte header.frameId, hiByte header.frameId]

inductive Fault where
  /-- A store at this index of `tx_buffer`. -/
  | overrun (index : Nat)
  | outOfFuel
  deriving DecidableEq, Repr

variable (size : Int)

/-- `tx_buffer[tx_buffer_index] = a`, and the index goes up. -/
def put (txBuffer : List UInt8) (a : UInt8) : Except Fault (List UInt8) :=
  if (txBuffer.length : Int) < size then .ok (txBuffer ++ [a]) else .error (.overrun txBuffer.length)

/-- One byte of the header, the payload or the CRC. -/
def addByte (txBuffer : List UInt8) (a : UInt8) : Except Fault (List UInt8) :=
  if a = 0x7E ∨ a = 0x7D then do
    let txBuffer ← put size txBuffer 0x7D
    put size txBuffer (a ^^^ 0x20)
  else put size txBuffer a

/-- The loops over the bytes of the header and of the CRC. -/
def addBytes (txBuffer : List UInt8) (bytes : List UInt8) : Except Fault (List UInt8) :=
  bytes.foldlM (addByte size) txBuffer

/-- Add payload to `tx_buffer`, to leave space for an escape sequence: the buffer
and what is left of the payload. -/
def addPayload : List UInt8 → List UInt8 → Except Fault (List UInt8 × List UInt8)
  | txBuffer, [] => return (txBuffer, [])
  | txBuffer, a :: data =>
    if (txBuffer.length : Int) < size - 6 then do
      let txBuffer ← addByte size txBuffer a
      addPayload txBuffer data
    else return (txBuffer, a :: data)

/-- The two bytes at `pa`. -/
def crcBytes (payload : List UInt8) : List UInt8 :=
  [loByte (calculate payload), hiByte (calculate payload)]

variable (header : Header) (payload : List UInt8)

/-- The start mark and the header of the first datagram. -/
def addHeader : Except Fault (List UInt8) := do
  let txBuffer ← put size [] 0x7E
  addBytes size txBuffer header.bytes

/-- The payload of a datagram, and the CRC when the payload ends in it. -/
def addData (txBuffer data : List UInt8) : Except Fault (List UInt8 × List UInt8) := do
  let (txBuffer, data) ← addPayload size txBuffer data
  if data = [] then do
    let txBuffer ← addBytes size txBuffer (crcBytes payload)
    return (txBuffer, data)
  else return (txBuffer, data)

/-- The loop over the datagrams, from `pack_index` on: the datagrams sent. -/
def sendPacks : Nat → Nat → List UInt8 → List UInt8 → Except Fault (List (List UInt8))
  | 0, _, _, _ => .error .outOfFuel
  | fuel + 1, packIndex, txBuffer, data =>
    if data = [] then return []
    else do
      let (txBuffer, data) ←
        if packIndex = 0 then do
          let txBuffer ← addHeader size header
          addData size payload txBuffer payload
        else addData size payload txBuffer data
      let sent ← sendPacks fuel (packIndex + 1) [] data
      return txBuffer :: sent

/-- `UdpVideoSender::Send`. -/
def send (fuel : Nat) (header : Header) (payload : List UInt8) :
    Except Fault (List (List UInt8)) :=
  let payload := payload.take header.payloadLength.toNatClampNeg
  sendPacks size header payload fuel 0 [] payload

/-- The header `SendImage` builds from the last one. -/
def Header.next (header : Header) (encoded : List UInt8) : Header :=
  { header with
    frameType := 0x01
    frameId := header.frameId + 1
    payloadLength := Int32.ofNat encoded.length }

/-- `UdpVideoSender::SendImage`: the new `header`, and what is sent. -/
def sendImage (fuel : Nat) (header : Header) (encoded : List UInt8) :
    Header × Except Fault (List (List UInt8)) :=
  (header.next encoded, send size fuel (header.next encoded) encoded)

/-- The header of an image says how long its JPEG bytes are. -/
theorem Header.next_payloadLength (header : Header) {encoded : List UInt8}
    (h : encoded.length < 2 ^ 31) :
    (header.next encoded).payloadLength.toInt = encoded.length :=
  Int32.toInt_ofNat_of_lt h

end Solarbot.Video
