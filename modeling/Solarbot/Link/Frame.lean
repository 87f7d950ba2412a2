import Solarbot.Lib.ByteStuffing
import Solarbot.Link.Crc16

/-!
# `Frame`: the encoder and the byte-at-a-time decoder

The command link of `Frame.cpp`. A frame on the wire is a random byte, the start
mark `0x7E`, and the stuffed bytes of an eight byte header (type, id, payload
length, CRC of these six bytes), the payload and the payload's CRC. Both
directions are embedded as the source computes them; `crc` stands for
`CRC16::calculate` and nothing below depends on which function it is.

Mirroring notes vs `Frame.cpp`:
- `buffer` is written at consecutive positions from `0`, so its written prefix is
  a list and `buffer_index` is the list's length; the value `GenerateFrame`
  returns is that length too (`[]` where it returns `0`).
- `rand()` is the argument `rndByte`; the loop that draws it again while it is
  `0x7E` is the hypothesis `rndByte ≠ 0x7E` of whoever calls.
- `frame_buffer` is a `Vector` of its 1024 bytes: the store after the overflow
  test and the loads of the CRCs carry the proof that they are inside it.

What the later modules use of the encoder is `TxFrame.wire_eq`: a frame is its
random byte, the mark and the stuffing of its raw bytes.
-/

namespace Solarbot.Link

open ByteStuffing

variable (crc : List UInt8 → UInt16)

/-! ## The encoder -/

/-- `FramesTypes::FramesTypes`. -/
inductive FramesTypes
  | ping | pingACK | command | commandACK
  deriving DecidableEq, Repr

/-- The enumerator as the `uint16_t` of a header. -/
def FramesTypes.code : FramesTypes → UInt16
  | .ping => 0
  | .pingACK => 1
  | .command => 2
  | .commandACK => 3

/-- `Frame::AddWithEscape`. -/
def addWithEscape (buffer : List UInt8) (b : UInt8) : List UInt8 :=
  if b = 0x7E ∨ b = 0x7D then buffer ++ [0x7D] ++ [b ^^^ 0x20]
  else buffer ++ [b]

/-- The six header bytes before the header's CRC. -/
def headerFields (frameType frameId payloadLength : UInt16) : List UInt8 :=
  [loByte frameType, hiByte frameType, loByte frameId, hiByte frameId,
    loByte payloadLength, hiByte payloadLength]

/-- `header_bytes`, the packed `Header`. -/
def headerBytes (frameType frameId payloadLength : UInt16) : List UInt8 :=
  let fields := headerFields frameType frameId payloadLength
  let headerCRC := crc fields
  fields ++ [loByte headerCRC, hiByte headerCRC]

/-- `Frame::GenerateFrame`. `payload` is what the pointer `Payload` points at. -/
def generateFrame (bufferSize : Int) (frameType frameId : UInt16) (payload : List UInt8)
    (payloadLength : UInt16) (rndByte : UInt8) : List UInt8 :=
  if bufferSize < 2 * (10 + payloadLength.toNat) then []
  else
    let payload := payload.take payloadLength.toNat
    let buffer := [rndByte, 0x7E]
    let buffer := (headerBytes crc frameType frameId payloadLength).foldl addWithEscape buffer
    let buffer := payload.foldl addWithEscape buffer
    let payloadCrc16 := crc payload
    let buffer := addWithEscape buffer (loByte payloadCrc16)
    addWithEscape buffer (hiByte payloadCrc16)

/-! ## The decoder -/

/-- `Frame::frame_buffer_size`. -/
abbrev frameBufferSize : Nat := 1024

/-- The data members of the class `Frame`. -/
structure Frame where
  rxFrameType : UInt16
  rxFrameId : UInt16
  rxPayloadLength : UInt16
  frameBuffer : Vector UInt8 frameBufferSize
  frameBufferIndex : Nat
  escaping : Bool
  decoding : Bool

/-- A newly constructed `Frame`: the members with an initialiser have it, the
others hold whatever the memory held. -/
def Frame.new (frameType frameId payloadLength : UInt16)
    (frameBuffer : Vector UInt8 frameBufferSize) : Frame :=
  { rxFrameType := frameType, rxFrameId := frameId, rxPayloadLength := payloadLength,
    frameBuffer := frameBuffer, frameBufferIndex := 0, escaping := false, decoding := false }

namespace Frame

/-- The first `n` bytes from `frame_buffer + i`. -/
def bytes (f : Frame) (i n : Nat) : List UInt8 := (f.frameBuffer.toList.drop i).take n

/-- `frame_buffer_index == 7`: decode the header and verify its CRC16. -/
def decodeHeader (f : Frame) : Frame :=
  let b := fun (i : Fin 8) => f.frameBuffer.get (i.castLE (by decide))
  if le16 (b 6) (b 7) = crc (f.bytes 0 6) then
    { f with
      rxFrameType := le16 (b 0) (b 1)
      rxFrameId := le16 (b 2) (b 3)
      rxPayloadLength := le16 (b 4) (b 5) }
  else { f with decoding := false }

/-- The end of the payload is reached: verify the payload CRC16. A wrong one
leaves `decoding` set. -/
def checkPayload (f : Frame) (h : 8 + f.rxPayloadLength.toNat + 1 < frameBufferSize) :
    Frame × Bool :=
  let n := f.rxPayloadLength.toNat
  let rxCrc := le16 (f.frameBuffer.get ⟨8 + n, by omega⟩) (f.frameBuffer.get ⟨8 + n + 1, h⟩)
  let calculateCrc := crc (f.bytes 8 n)
  if calculateCrc = rxCrc then ({ f with decoding := false }, true) else (f, false)

/-- `frame_buffer[frame_buffer_index] = a`. -/
def put (f : Frame) (a : UInt8) (h : f.frameBufferIndex < frameBufferSize) : Frame :=
  { f with frameBuffer := f.frameBuffer.set f.frameBufferIndex a h }

/-- The tests on `frame_buffer_index` after a byte was stored there. -/
def afterStore (f : Frame) (h : f.frameBufferIndex < frameBufferSize) : Frame × Bool :=
  if f.frameBufferIndex = 7 then (f.decodeHeader crc, false)
  else if 7 < f.frameBufferIndex then
    if he : f.frameBufferIndex = f.rxPayloadLength.toNat + 9 then
      f.checkPayload crc (by omega)
    else (f, false)
  else (f, false)

/-- The part of `DecodeFrame` after the escape handling: `a` is unescaped. -/
def storeByte (f : Frame) (a : UInt8) : Frame × Bool :=
  if h : f.frameBufferIndex < frameBufferSize then -- To avoid Overflow
    let (f', result) := (f.put a h).afterStore crc h
    ({ f' with frameBufferIndex := f'.frameBufferIndex + 1 }, result)
  else ({ f with decoding := false }, false)

/-- `Frame::DecodeFrame`. -/
def decodeFrame (f : Frame) (a : UInt8) : Frame × Bool :=
  if a = 0x7E then
    ({ f with frameBufferIndex := 0, rxPayloadLength := 0, decoding := true }, false)
  else if f.decoding then
    if a = 0x7D then ({ f with escaping := true }, false)
    else if f.escaping then
      { f with escaping := false }.storeByte crc (a ^^^ 0x20)
    else f.storeByte crc a
  else (f, false)

end Frame

/-- What a caller of `DecodeFrame` finds in the decoder when it returns true. -/
structure Message where
  frameType : UInt16
  frameId : UInt16
  payloadLength : UInt16
  payload : List UInt8
  deriving DecidableEq, Repr

/-- `rx_FrameType`, `rx_FrameId`, `rx_PayloadLength` and
`frame_buffer[8 .. 8 + rx_PayloadLength)`. -/
def Frame.message (f : Frame) : Message :=
  ⟨f.rxFrameType, f.rxFrameId, f.rxPayloadLength, f.bytes 8 f.rxPayloadLength.toNat⟩

/-- One call of `DecodeFrame`, with the message it reports. -/
def Frame.receive (f : Frame) (a : UInt8) : Frame × Option Message :=
  let (f', result) := f.decodeFrame crc a
  (f', if result then some f'.message else none)

/-! ## What the encoder puts on the wire -/

theorem escape_ne_mark : (0x7D : UInt8) ≠ 0x7E := by decide

/-- The reserved bytes of the command link. -/
def linkCode : Code where
  flag := 0x7E
  esc := 0x7D
  mask := 0x20
  esc_ne := escape_ne_mark
  flag_masked := by decide
  esc_masked := by decide

theorem linkCode_reserved {b : UInt8} : linkCode.Reserved b ↔ b = 0x7E ∨ b = 0x7D := Iff.rfl

/-- `AddWithEscape` appends the stuffed byte. -/
theorem addWithEscape_eq (buffer : List UInt8) (b : UInt8) :
    addWithEscape buffer b = buffer ++ stuff linkCode b := by
  unfold addWithEscape stuff
  rw [List.append_assoc]
  exact (apply_ite (buffer ++ ·) _ _ _).symm

/-- Bytes added one by one are stuffed. -/
theorem foldl_addWithEscape (bs : List UInt8) (buffer : List UInt8) :
    bs.foldl addWithEscape buffer = buffer ++ stuffAll linkCode bs := by
  induction bs generalizing buffer with
  | nil => simp
  | cons b bs ih =>
    rw [List.foldl_cons, ih, addWithEscape_eq, stuffAll_cons, List.append_assoc]

/-- A frame as the senders of the link build it: a payload the decoder's buffer
can hold, a buffer `GenerateFrame` accepts, and a random byte it can have drawn. -/
structure TxFrame where
  bufferSize : Int
  frameType : UInt16
  frameId : UInt16
  payload : List UInt8
  rndByte : UInt8
  payload_le : payload.length ≤ 1014
  large : 2 * (10 + payload.length) ≤ bufferSize
  rnd_ne : rndByte ≠ 0x7E

namespace TxFrame

/-- A `Ping`, which has no payload. -/
def ping (frameId : UInt16) {rndByte : UInt8} (h : rndByte ≠ 0x7E) : TxFrame where
  bufferSize := 512
  frameType := FramesTypes.ping.code
  frameId := frameId
  payload := []
  rndByte := rndByte
  payload_le := by decide
  large := by decide
  rnd_ne := h

/-- The header's `PayloadLength`. -/
def payloadLength (t : TxFrame) : UInt16 := UInt16.ofNat t.payload.length

/-- The length in the header is that of the payload. -/
theorem payloadLength_toNat (t : TxFrame) : t.payloadLength.toNat = t.payload.length := by
  have := t.payload_le
  rw [payloadLength, UInt16.toNat_ofNat']
  omega

/-- The bytes `GenerateFrame` leaves in `buffer`. -/
def wire (t : TxFrame) : List UInt8 :=
  generateFrame crc t.bufferSize t.frameType t.frameId t.payload t.payloadLength t.rndByte

/-- What the receiver of the frame should find. -/
def message (t : TxFrame) : Message := ⟨t.frameType, t.frameId, t.payloadLength, t.payload⟩

/-- Header, payload and payload CRC before escaping. -/
def raw (t : TxFrame) : List UInt8 :=
  headerBytes crc t.frameType t.frameId t.payloadLength
    ++ (t.payload ++ [loByte (crc t.payload), hiByte (crc t.payload)])

theorem headerBytes_length (a b c : UInt16) : (headerBytes crc a b c).length = 8 := rfl

/-- Header, payload and CRC. -/
theorem raw_length (t : TxFrame) : (t.raw crc).length = t.payload.length + 10 := by
  rw [raw, List.length_append, headerBytes_length, List.length_append]
  simp only [List.length_cons, List.length_nil]
  omega

/-- **A frame is its random byte, the start mark and the stuffed raw bytes.** -/
theorem wire_eq (t : TxFrame) :
    t.wire crc = t.rndByte :: 0x7E :: stuffAll linkCode (t.raw crc) := by
  have hlarge := t.large
  rw [wire, generateFrame, payloadLength_toNat, if_neg (by omega)]
  simp only [List.take_length, foldl_addWithEscape, addWithEscape_eq, raw, stuffAll_append,
    stuffAll_cons, stuffAll_nil, List.append_nil, List.append_assoc, List.cons_append,
    List.nil_append]

end TxFrame

end Solarbot.Link
