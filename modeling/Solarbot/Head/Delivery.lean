import Solarbot.Head.Port

/-!
# The head's frames are delivered

Whatever the receiver holds, the start mark puts it at the beginning of a frame. The
length byte and the payload leave it in `Stored`, by `feed_stored`, with the escapes
taken care of by `feed_behind_mark`; the CRC byte then meets the running CRC
(`feed_wire`). As the receiver depends on the processed bytes alone, so it is in every
run whose bytes end in the frame, however they came (`frame_delivered`).
-/

namespace Solarbot.Head

open ByteStuffing Link

/-- The length byte of a payload. -/
def lengthByte (payload : List UInt8) : UInt8 := UInt8.ofNat payload.length

/-- What the head sends for a payload. -/
def wire (payload : List UInt8) : List UInt8 :=
  0x7E :: stuffAll linkCode
    (lengthByte payload :: payload ++ [getCRC (lengthByte payload :: payload)])

theorem lengthByte_toNat {payload : List UInt8} (h : payload.length ≤ 99) :
    (lengthByte payload).toNat = payload.length := by
  rw [lengthByte, UInt8.toNat_ofNat']
  omega

namespace Receiver

/-- **A frame is received in every state**: its last byte is the one that sets the
flag, and the payload is at the beginning of `RxRawFrame`. -/
theorem feed_wire (r : Receiver) {payload : List UInt8} (hpos : 1 ≤ payload.length)
    (hlen : payload.length ≤ 99) :
    (feed receive r (wire payload)).2.getLast? = some .frame ∧
      (feed receive r (wire payload)).1.rxRawFrame.toList.take payload.length = payload := by
  have hn := lengthByte_toNat hlen
  let crc := getCRC (lengthByte payload :: payload)
  -- up to the CRC
  let s := (feed Receiver.store r.start (lengthByte payload :: payload)).1
  have hbody : (feed receive r (0x7E :: stuffAll linkCode (lengthByte payload :: payload))).1 = s := by
    rw [feed_behind_mark r (flag_notMem_stuffAll linkCode _), unstuff_stuffAll]
    rfl
  obtain ⟨hstored, -⟩ := feed_stored r payload (by omega : payload.length ≤ (lengthByte payload).toNat)
  have hstored : Stored (lengthByte payload) payload s := hstored
  have hplain : s.Plain := feed_plain (show Plain r.start from rfl) _
  -- the CRC
  have hfits : (lengthByte payload).toNat < 100 := by omega
  have hphase : ¬ (s.rxRawFrameIndex = 0 ∧ s.rxRawFrameLength = 0) := by
    intro hzero
    have hlength := hstored.length
    omega
  have hlast : s.rxRawFrameIndex = s.rxRawFrameLength := by
    rw [hstored.index hfits, hstored.length, hn]
  have hsignal : (s.store crc).2 = .frame := (store_frame_iff crc).mpr ⟨hphase, hlast, hstored.crc⟩
  have hframe : (s.store crc).1.rxRawFrame = s.rxRawFrame := by
    unfold Receiver.store
    rw [if_neg hphase, if_pos hlast]
  have hcrc := feed_stuff (receive_unescapes hplain) crc
  have hwire : wire payload =
      (0x7E :: stuffAll linkCode (lengthByte payload :: payload)) ++ stuff linkCode crc := by
    rw [wire, stuffAll_append, stuffAll_cons linkCode crc, stuffAll_nil, List.append_nil]
    rfl
  rw [hwire, feed_append, hbody, hcrc]
  constructor
  · rw [hsignal, ← List.append_assoc, List.getLast?_append]
    rfl
  · rw [hframe]
    exact hstored.frame hfits

end Receiver

open Port in
/-- **Delivery from any state.** No run of a new head leaves `RxRawFrame`. When the next
byte to process is the last one of a frame with 1 to 99 payload bytes, processing it
sets `rxflag`, and the payload is at the beginning of `RxRawFrame`; whatever was
processed before the frame, and however the bytes were cut into reads. -/
theorem frame_delivered (rxRawFrame : Vector UInt8 rxRawFrameSize) (crc : UInt8)
    (data : List UInt8) (es : List Event) :
    ∃ p, Runs.run step (new rxRawFrame crc data) es = .ok p ∧
      p.rx.rxRawFrameIndex < rxRawFrameSize ∧
      ∀ a rest before payload, p.rest = a :: rest → 1 ≤ payload.length → payload.length ≤ 99 →
        p.seen ++ [a] = before ++ wire payload →
          ∃ p', step p .byte = .ok p' ∧ p'.rxflag = true ∧
            p'.rx.rxRawFrame.toList.take payload.length = payload := by
  obtain ⟨p, hrun, hsound⟩ := run_sound rxRawFrame crc data es
  refine ⟨p, hrun, hsound.inside, ?_⟩
  intro a rest before payload hrest hpos hlen hseen
  obtain ⟨hlast, hframe⟩ := Receiver.feed_wire
    (feed Receiver.receive (.new rxRawFrame crc) before).1 hpos hlen
  -- the last byte ends what the receiver makes of the frame
  have hfeed : feed Receiver.receive (.new rxRawFrame crc) (p.seen ++ [a]) =
      ((p.rx.receive a).1, (feed Receiver.receive (.new rxRawFrame crc) p.seen).2 ++
        [(p.rx.receive a).2]) := by
    rw [feed_append, ← hsound.rx]
    rfl
  have hrx : (p.rx.receive a).1 = (feed Receiver.receive
      (feed Receiver.receive (.new rxRawFrame crc) before).1 (wire payload)).1 := by
    have hfst := congrArg Prod.fst hfeed
    rw [hseen, feed_append] at hfst
    exact hfst.symm
  have hsignal : (p.rx.receive a).2 = .frame := by
    have hend := congrArg (fun r => r.2.getLast?) hfeed
    simp only [hseen, feed_append, List.getLast?_append, hlast,
      List.getLast?_singleton] at hend
    exact (Option.some.inj hend).symm
  refine ⟨_, by rw [step, hrest]; exact byteStep_ok hsound.inside a rest, ?_, ?_⟩
  · simp only [hsignal, decide_true, Bool.or_true]
  · rw [← hrx] at hframe
    exact hframe

open Port in
/-- The two reserved bytes as a payload, behind half a frame: all but the last byte are
processed. -/
def reservedRun : List Event :=
  .read [0x7E, 0x05, 0x7D] :: List.replicate 3 .byte ++
    .read (wire [0x7E, 0x7D]) :: List.replicate 6 .byte

open Port in
theorem frame_delivered_reserved : ∃ p p',
    Runs.run step (new (Vector.replicate 100 0) 0 []) reservedRun = .ok p ∧
      step p .byte = .ok p' ∧ p'.rxflag = true ∧
      p'.rx.rxRawFrame.toList.take 2 = [0x7E, 0x7D] := by
  obtain ⟨p, hrun, -, hdeliver⟩ := frame_delivered (Vector.replicate 100 0) 0 [] reservedRun
  have hfields : (Runs.run step (new (Vector.replicate 100 0) 0 []) reservedRun).toOption.map
      (fun p => (p.rest, p.seen)) =
        some ([0xFD], [0x7E, 0x05, 0x7D, 0x7E, 0x02, 0x7D, 0x5E, 0x7D, 0x5D]) := by
    decide +kernel
  rw [hrun] at hfields
  obtain ⟨hrest, hseen⟩ := Prod.mk.inj (Option.some.inj hfields)
  obtain ⟨p', hp'⟩ := hdeliver 0xFD [] [0x7E, 0x05, 0x7D] [0x7E, 0x7D] hrest (by decide) (by decide)
    (by rw [hseen]; decide)
  exact ⟨p, p', hrun, hp'⟩

end Solarbot.Head
