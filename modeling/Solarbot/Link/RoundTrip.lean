import Solarbot.Link.Decoder

/-!
# The frame stream round trip

Whatever list of frames is sent, with any filler that is not a start mark between
them, the decoder reports each of them once, at its last byte, with the fields
and the payload that were encoded (`feed_stream`).

The argument is a fold at two levels. Inside a frame, `Receiving t k` is carried
over the raw bytes by `ByteStuffing.feed_stuffAll`, so escaping never appears in
it; the last raw byte delivers (`feed_raw`) and leaves the decoder outside a
frame with no escape pending. Between frames that state ignores the filler and
the random byte, so the frames of a list are received one after the other
(`feed_segment`, `feed_stream`).
-/

namespace Solarbot.Link

open ByteStuffing

variable {crc : List UInt8 → UInt16}

/-- `n` calls that report nothing and then one that reports `m`. -/
def reportsLast (n : Nat) (m : Message) : List (Option Message) :=
  List.replicate n none ++ [some m]

/-- **One frame, from the start mark on.** The stuffed raw bytes are reported
once, at the last of them. -/
theorem feed_raw {t : TxFrame} {f : Frame} (h : Receiving crc t 0 f) :
    ∃ f', feed (Frame.receive crc) f (stuffAll linkCode (t.raw crc))
        = (f', reportsLast ((stuffAll linkCode (t.raw crc)).length - 1) t.message) ∧
      f'.message = t.message ∧ f'.decoding = false ∧ f'.escaping = false := by
  have hlen := t.raw_length crc
  have hlast : t.payload.length + 9 < (t.raw crc).length := by omega
  have hsplit : t.raw crc = (t.raw crc).take (t.payload.length + 9)
      ++ [(t.raw crc)[t.payload.length + 9]] := by
    rw [← List.take_succ_eq_append_getElem hlast, List.take_of_length_le (by omega)]
  have hinit : ((t.raw crc).take (t.payload.length + 9)).length = t.payload.length + 9 := by
    rw [List.length_take]
    omega
  -- all raw bytes but the last are stored silently
  have hfold := feed_stuffAll (c := linkCode) (J := fun k f => Receiving crc t k f)
    ((t.raw crc).take (t.payload.length + 9))
    (fun k f _ hr => Frame.receive_unescapes crc hr.decoding hr.escaping)
    (fun k f hk hr => by
      obtain ⟨f', hf', hr'⟩ := hr.store (by omega) (by
        rw [List.getElem?_eq_getElem (by omega)])
      rw [List.getElem_take, hf']
      exact ⟨rfl, hr'⟩) h
  rw [hinit] at hfold
  obtain ⟨hrecv, hsilent⟩ := hfold
  -- the last one delivers
  obtain ⟨f', hf', hm, hd, he⟩ := hrecv.store_last (List.getElem?_eq_getElem hlast)
  refine ⟨f', ?_, hm, hd, he⟩
  have hb := feed_stuff (Frame.receive_unescapes crc hrecv.decoding hrecv.escaping)
    (t.raw crc)[t.payload.length + 9]
  rw [hf'] at hb
  have hstuff := stuff_length linkCode (t.raw crc)[t.payload.length + 9]
  conv_lhs => rw [hsplit, stuffAll_append, stuffAll_cons, stuffAll_nil, List.append_nil,
    feed_append, hb, hsilent]
  conv_rhs => rw [hsplit, stuffAll_append, stuffAll_cons, stuffAll_nil, List.append_nil,
    reportsLast, List.length_append]
  rw [← List.append_assoc, List.replicate_append_replicate,
    Nat.add_sub_assoc hstuff.1]

/-- The start mark outside a frame, with no escape pending, begins any frame. -/
theorem receiving_start {f : Frame} (he : f.escaping = false) (t : TxFrame) :
    Receiving crc t 0 f.start :=
  ⟨⟨rfl, rfl, he, fun i hi => absurd hi (Nat.not_lt_zero i)⟩, fun h => absurd h (by omega)⟩

/-- Bytes that are not a start mark are ignored outside a frame. -/
theorem feed_filler {f : Frame} (hd : f.decoding = false) {bs : List UInt8}
    (hbs : ∀ b ∈ bs, b ≠ 0x7E) :
    feed (Frame.receive crc) f bs = (f, List.replicate bs.length none) :=
  feed_idle (fun _ ha => Frame.receive_idle crc hd ha) hbs

/-- **One frame of a stream**: filler and the bytes of `GenerateFrame`. -/
theorem feed_segment {f : Frame} (hd : f.decoding = false) (he : f.escaping = false)
    {filler : List UInt8} (hfill : ∀ b ∈ filler, b ≠ 0x7E) (t : TxFrame) :
    ∃ f', feed (Frame.receive crc) f (filler ++ t.wire crc)
        = (f', reportsLast (filler.length + (t.wire crc).length - 1) t.message) ∧
      f'.message = t.message ∧ f'.decoding = false ∧ f'.escaping = false := by
  obtain ⟨f', hraw, hm, hd', he'⟩ := feed_raw (@receiving_start crc f he t)
  refine ⟨f', ?_, hm, hd', he'⟩
  have hpos : 1 ≤ (stuffAll linkCode (t.raw crc)).length := by
    have h1 := length_le_stuffAll linkCode (t.raw crc)
    have h2 := t.raw_length crc
    omega
  rw [feed_append, feed_filler hd hfill, t.wire_eq crc, feed_cons,
    Frame.receive_idle crc hd t.rnd_ne, feed_cons, Frame.receive_start, hraw]
  simp only [reportsLast, List.length_cons, Prod.mk.injEq, true_and]
  rw [show filler.length + ((stuffAll linkCode (t.raw crc)).length + 1 + 1) - 1
      = filler.length + (2 + ((stuffAll linkCode (t.raw crc)).length - 1)) by omega,
    ← List.replicate_append_replicate, ← List.replicate_append_replicate]
  simp [List.replicate_succ]

/-! ## The stream -/

/-- A frame and the filler before it. -/
structure Segment where
  filler : List UInt8
  frame : TxFrame
  filler_ne : ∀ b ∈ filler, b ≠ 0x7E

/-- The bytes of a list of segments. -/
def streamBytes (crc : List UInt8 → UInt16) (segs : List Segment) : List UInt8 :=
  segs.flatMap fun s => s.filler ++ s.frame.wire crc

/-- What the calls of `DecodeFrame` on the bytes of the segments should report:
nothing, except the frame of each segment at the segment's last byte. -/
def streamReports (crc : List UInt8 → UInt16) (segs : List Segment) : List (Option Message) :=
  segs.flatMap fun s =>
    reportsLast (s.filler.length + (s.frame.wire crc).length - 1) s.frame.message

/-- **The frame stream round trip.** From any state outside a frame with no
escape pending, feeding the segments and trailing filler byte by byte reports
each frame exactly once, at its last byte and in order. -/
theorem feed_stream (crc : List UInt8 → UInt16) (f : Frame) (segs : List Segment)
    (trailer : List UInt8) (hd : f.decoding = false) (he : f.escaping = false)
    (htrail : ∀ b ∈ trailer, b ≠ 0x7E) :
    (feed (Frame.receive crc) f (streamBytes crc segs ++ trailer)).2
      = streamReports crc segs ++ List.replicate trailer.length none := by
  induction segs generalizing f with
  | nil =>
    show (feed _ f trailer).2 = _
    rw [feed_filler hd htrail]
    rfl
  | cons s segs ih =>
    obtain ⟨f', hseg, -, hd', he'⟩ := @feed_segment crc f hd he _ s.filler_ne s.frame
    have hrest := ih f' hd' he'
    rw [streamBytes, List.flatMap_cons, List.append_assoc, feed_append, hseg]
    rw [streamReports, List.flatMap_cons, List.append_assoc]
    exact congrArg (_ ++ ·) hrest

/-- A command frame with both reserved bytes in its payload. -/
def sampleCommand : TxFrame where
  bufferSize := 512
  frameType := FramesTypes.command.code
  frameId := 0x7E7D
  payload := [0x7E, 0x00, 0x7D]
  rndByte := 0x7D
  payload_le := by decide
  large := by decide
  rnd_ne := escape_ne_mark

/-- The hypotheses are those of a new decoder: two frames with filler around
them. -/
theorem feed_stream_new :
    (feed (Frame.receive calculate) (Frame.new 0 0 0 (Vector.replicate 1024 0))
      (streamBytes calculate [⟨[], sampleCommand, by simp⟩, ⟨[0x7D, 0x00], sampleCommand, by simp⟩]
        ++ [0x00])).2
      = streamReports calculate
          [⟨[], sampleCommand, by simp⟩, ⟨[0x7D, 0x00], sampleCommand, by simp⟩] ++ [none] :=
  feed_stream calculate (Frame.new 0 0 0 (Vector.replicate 1024 0)) _ [0x00] rfl rfl (by simp)

end Solarbot.Link
