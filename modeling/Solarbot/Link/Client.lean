import Solarbot.Lib.Chunks
import Solarbot.Link.Aes128Inverse
import Solarbot.Link.RoundTrip

/-!
# `ThreadClient` and `ParseRawRx`

The command session of `MasterApp` once a client is authenticated. Each `read()` is
decrypted in place, as many whole blocks of it as there are, and all of its bytes
go to the framer, which carries over from one read to the next. A frame that is
complete is answered (`Ping`) or executed (`Command`).

Mirroring notes vs `MasterApp.cpp`:
- the sequence of what was done for the peer is `log`; the acknowledgements a
  command sends itself are part of executing it;
- `ExecuteCommand` can throw (`popen() failed!`), and `ThreadClient` catches
  everything around one read. Whether the command just logged throws is the
  parameter `raises`, which may depend on all that was done before;
- a read of `0` bytes or an error leaves the buffer and the framer alone, so it is
  the empty list.
-/

namespace Solarbot.Link

open ByteStuffing

variable (crc : List UInt8 → UInt16)

/-- What a complete frame makes the robot do. -/
inductive Action
  | pingACK (frameId : UInt16)
  | command (cmd : List UInt8) (frameId : UInt16)
  deriving DecidableEq, Repr

/-- The framer and what was done so far. -/
structure Client where
  framer : Frame
  log : List Action

variable (raises : List Action → Bool)

namespace Frame

/-- `frame_buffer[rx_PayloadLength + 8] = 0x00`. It is inside the buffer whenever
`DecodeFrame` has returned true. -/
def terminate (f : Frame) : Frame :=
  { f with frameBuffer := f.frameBuffer.setIfInBounds (f.rxPayloadLength.toNat + 8) 0 }

/-- `std::string((char*)(frame_buffer + 8))`. -/
def text (f : Frame) : List UInt8 := (f.frameBuffer.toList.drop 8).takeWhile (· ≠ 0)

end Frame

namespace Client

/-- The frame in the framer is complete; `true` where executing it throws. -/
def dispatch (c : Client) : Client × Bool :=
  if c.framer.rxFrameType = FramesTypes.ping.code then
    ({ c with log := c.log ++ [.pingACK c.framer.rxFrameId] }, false)
  else if c.framer.rxFrameType = FramesTypes.command.code then
    let framer := c.framer.terminate
    let log := c.log ++ [.command framer.text framer.rxFrameId]
    (⟨framer, log⟩, raises log)
  else (c, false)

/-- One pass of the loop of `ParseRawRx`. -/
def decodeByte (c : Client) (a : UInt8) : Client × Bool :=
  let (framer, result) := c.framer.decodeFrame crc a
  let c := { c with framer := framer }
  if result then c.dispatch raises else (c, false)

/-- `ParseRawRx`: a loop over the bytes, left early by an exception. -/
def parseRawRx (c : Client) (buffer : List UInt8) : Client :=
  Chunks.chunk (decodeByte crc raises) c buffer

/-- One pass of the loop of `ThreadClient`. `Client_Rx_Buffer` holds the bytes read. -/
def readOnce (keys : List UInt8) (c : Client) (buffer : List UInt8) : Client :=
  if 0 < buffer.length then
    c.parseRawRx crc raises (Aes128.decrypt keys buffer (buffer.length / 16))
  else c

/-- `ThreadClient`, over the results of its successive `read()`s. -/
def threadClient (keys : List UInt8) (c : Client) (reads : List (List UInt8)) : Client :=
  reads.foldl (readOnce crc raises keys) c

end Client

/-! ## The sender -/

/-- A frame of the command session: a `Ping` or a `Command`, padded with zeros to
whole blocks that the receiver's buffer can take. -/
structure Packet where
  frame : TxFrame
  blocks : Nat
  type_ok : frame.frameType = FramesTypes.ping.code ∨ frame.frameType = FramesTypes.command.code
  fits : (frame.wire crc).length ≤ 16 * blocks
  max : 16 * blocks ≤ 496

namespace Packet

variable {crc}

/-- The zeros behind the frame. -/
def padding (p : Packet crc) : List UInt8 :=
  List.replicate (16 * p.blocks - (p.frame.wire crc).length) 0

def plain (p : Packet crc) : List UInt8 := p.frame.wire crc ++ p.padding

/-- What is sent. -/
def cipher (keys : List UInt8) (p : Packet crc) : List UInt8 :=
  Aes128.encrypt keys p.plain p.blocks

/-- What the robot should do. -/
def action (p : Packet crc) : Action :=
  if p.frame.frameType = FramesTypes.ping.code then .pingACK p.frame.frameId
  else .command (p.frame.payload.takeWhile (· ≠ 0)) p.frame.frameId

/-- Executing the frame when `log` was done before throws. -/
def throws (log : List Action) (p : Packet crc) : Bool :=
  if p.frame.frameType = FramesTypes.ping.code then false else raises (log ++ [p.action])

/-- A packet has whole blocks. -/
theorem plain_length (p : Packet crc) : p.plain.length = 16 * p.blocks := by
  have := p.fits
  rw [plain, padding, List.length_append, List.length_replicate]
  omega

/-- Encrypted, too. -/
theorem cipher_length (keys : List UInt8) (p : Packet crc) :
    (p.cipher keys).length = 16 * p.blocks := by
  rw [cipher, Aes128.encrypt_length keys (Nat.le_of_eq p.plain_length.symm), plain_length]

/-- No mark is in the padding. -/
theorem padding_ne (p : Packet crc) : ∀ b ∈ p.padding, b ≠ 0x7E := by
  intro b hb
  rw [List.eq_of_mem_replicate hb]
  decide

end Packet

/-! ## One complete frame -/

namespace Frame

/-- Outside a frame with no escape pending: a new framer, or one that has just
delivered. -/
structure Between (f : Frame) : Prop where
  decoding : f.decoding = false
  escaping : f.escaping = false

variable {crc}

/-- `DecodeFrame` returns whether `receive` reports. -/
theorem decodeFrame_of_none {f f' : Frame} {a : UInt8} (h : f.receive crc a = (f', none)) :
    f.decodeFrame crc a = (f', false) := by
  unfold receive at h
  cases hr : (f.decodeFrame crc a).2 with
  | true => simp [hr] at h
  | false =>
    simp only [hr, Prod.mk.injEq] at h
    exact Prod.ext h.1 hr

/-- A frame that is complete is one for `DecodeFrame`. -/
theorem decodeFrame_of_some {f f' : Frame} {a : UInt8} {m : Message}
    (h : f.receive crc a = (f', some m)) : f.decodeFrame crc a = (f', true) := by
  unfold receive at h
  cases hr : (f.decodeFrame crc a).2 with
  | false => simp [hr] at h
  | true =>
    simp only [hr, Prod.mk.injEq] at h
    exact Prod.ext h.1 hr

/-- The text of a terminated payload is the payload up to its first zero byte. -/
theorem terminate_text {f : Frame} (hlen : f.rxPayloadLength.toNat + 8 < frameBufferSize) :
    f.terminate.text = f.message.payload.takeWhile (· ≠ 0) := by
  have hbuf : f.rxPayloadLength.toNat + 8 < f.frameBuffer.toList.length := by
    rw [Vector.length_toList]
    exact hlen
  have hsplit : f.terminate.frameBuffer.toList.drop 8
      = f.message.payload ++ 0 :: f.frameBuffer.toList.drop (f.rxPayloadLength.toNat + 9) := by
    unfold terminate message bytes
    rw [Vector.toList_setIfInBounds, List.drop_set]
    rw [if_neg (by omega), Nat.add_sub_cancel, List.set_eq_take_append_cons_drop,
      if_pos (by rw [List.length_drop]; omega), List.drop_drop]
    rw [show 8 + (f.rxPayloadLength.toNat + 1) = f.rxPayloadLength.toNat + 9 by omega]
  rw [text, hsplit, List.takeWhile_append]
  split
  · rw [List.takeWhile_cons, if_neg (by simp), List.append_nil]
    next h => exact ((List.takeWhile_prefix _).eq_of_length h).symm
  · rfl

end Frame

namespace Client

variable {crc}

/-- A byte that completes no frame only goes to the decoder. -/
theorem decodeByte_of_none {f f' : Frame} {a : UInt8} (h : f.receive crc a = (f', none))
    (log : List Action) : decodeByte crc raises ⟨f, log⟩ a = (⟨f', log⟩, false) := by
  simp [decodeByte, Frame.decodeFrame_of_none h]

/-- One that does is dispatched. -/
theorem decodeByte_of_some {f f' : Frame} {a : UInt8} {m : Message}
    (h : f.receive crc a = (f', some m)) (log : List Action) :
    decodeByte crc raises ⟨f, log⟩ a = dispatch raises ⟨f', log⟩ := by
  simp [decodeByte, Frame.decodeFrame_of_some h]

/-- Bytes that complete no frame are parsed to the end. -/
theorem quiet_of_feed {f : Frame} {bs : List UInt8}
    (h : (feed (Frame.receive crc) f bs).2 = List.replicate bs.length none) (log : List Action) :
    Chunks.Quiet (decodeByte crc raises) ⟨f, log⟩ bs
      ⟨(feed (Frame.receive crc) f bs).1, log⟩ := by
  induction bs generalizing f with
  | nil => exact .nil _
  | cons b bs ih =>
    rw [feed_cons, List.length_cons, List.replicate_succ, List.cons.injEq] at h
    have hrecv : f.receive crc b = ((f.receive crc b).1, none) := Prod.ext rfl h.1
    have hb := decodeByte_of_none raises hrecv log
    refine .cons (by rw [hb]) ?_
    rw [hb, feed_cons]
    exact ih h.2

/-- The frame of a packet is answered or executed, and the framer is between frames
again. -/
theorem dispatch_packet {p : Packet crc} {f : Frame} (hm : f.message = p.frame.message)
    (hf : f.Between) (log : List Action) :
    ∃ f', f'.Between ∧
      dispatch raises ⟨f, log⟩ = (⟨f', log ++ [p.action]⟩, p.throws raises log) := by
  have htype : f.rxFrameType = p.frame.frameType := congrArg Message.frameType hm
  have hid : f.rxFrameId = p.frame.frameId := congrArg Message.frameId hm
  have hlen : f.rxPayloadLength = p.frame.payloadLength := congrArg Message.payloadLength hm
  unfold dispatch Packet.throws Packet.action
  rw [htype, hid]
  by_cases hping : p.frame.frameType = FramesTypes.ping.code
  · rw [if_pos hping, if_pos hping, if_pos hping]
    exact ⟨f, hf, rfl⟩
  · have hcmd : p.frame.frameType = FramesTypes.command.code := p.type_ok.resolve_left hping
    -- a payload of 1014 bytes leaves room for the terminating zero
    have hroom : f.rxPayloadLength.toNat + 8 < frameBufferSize := by
      have := p.frame.payload_le
      rw [hlen, TxFrame.payloadLength_toNat, frameBufferSize]
      omega
    have htext : f.terminate.text = p.frame.payload.takeWhile (· ≠ 0) := by
      rw [Frame.terminate_text hroom, hm]
      rfl
    rw [if_neg hping, if_pos hcmd, if_neg hping, if_neg hping]
    refine ⟨f.terminate, ⟨hf.decoding, hf.escaping⟩, ?_⟩
    simp only [htext]
    rw [show f.terminate.rxFrameId = p.frame.frameId from hid]

end Client

end Solarbot.Link
