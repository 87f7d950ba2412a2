import Solarbot.Link.Decoder

/-!
# What `DecodeFrame` accepts

The stream is any bytes at all. `accesses` lists the places of `frame_buffer` one call
touches, in the source's order; `Accepted` is what a caller finds when the call
returns true. `Sound` ties the index, the stored header and the decoded
fields together: from the ninth byte of a frame on, the first eight are the
header with these fields and a right CRC, for any other header has ended the frame.

The index only grows until the next mark, so a payload whose CRC is wrong leaves the
decoder behind the one index at which it could return true.
-/

namespace Solarbot.Link

open ByteStuffing

namespace Frame

variable (crc : List UInt8 → UInt16)

/-! ## The places a call touches -/

/-- The stores and loads of the part behind the escape handling. -/
def storeAccesses (f : Frame) : List Nat :=
  if f.frameBufferIndex < frameBufferSize then
    f.frameBufferIndex ::
      if f.frameBufferIndex = 7 then
        -- the CRC over six bytes and the header they belong to
        List.range 6 ++ List.range 8
      else if 7 < f.frameBufferIndex ∧ f.frameBufferIndex = f.rxPayloadLength.toNat + 9 then
        let n := f.rxPayloadLength.toNat
        [8 + n, 8 + n + 1] ++ List.range' 8 n
      else []
  else []

/-- The places of `frame_buffer` that `DecodeFrame` stores to or loads from. -/
def accesses (f : Frame) (a : UInt8) : List Nat :=
  if a = 0x7E then []
  else if f.decoding then if a = 0x7D then [] else f.storeAccesses
  else []

theorem accesses_lt (f : Frame) (a : UInt8) : ∀ i ∈ f.accesses a, i < frameBufferSize := by
  unfold accesses storeAccesses
  intro i hi
  split at hi
  · exact absurd hi List.not_mem_nil
  · split at hi
    · split at hi
      · exact absurd hi List.not_mem_nil
      · split at hi
        next hlt =>
          rcases List.mem_cons.mp hi with rfl | hi
          · exact hlt
          · split at hi
            · simp only [List.mem_append, List.mem_range] at hi
              rw [frameBufferSize]
              omega
            · split at hi
              next hend =>
                have hend := hend.2
                simp only [List.mem_append, List.mem_cons, List.not_mem_nil, or_false,
                  List.mem_range'_1] at hi
                omega
              next => exact absurd hi List.not_mem_nil
        next => exact absurd hi List.not_mem_nil
    · exact absurd hi List.not_mem_nil

/-! ## What is accepted -/

/-- What a caller finds when `DecodeFrame` has returned true. -/
structure Accepted (f : Frame) : Prop where
  length_le : f.rxPayloadLength.toNat ≤ 1014
  /-- The header has these fields, and the CRC16 of its first six bytes. -/
  header : f.bytes 0 8 = headerBytes crc f.rxFrameType f.rxFrameId f.rxPayloadLength
  /-- Behind the payload is its CRC16. -/
  payload : f.bytes (8 + f.rxPayloadLength.toNat) 2 =
    [loByte (crc (f.bytes 8 f.rxPayloadLength.toNat)),
      hiByte (crc (f.bytes 8 f.rxPayloadLength.toNat))]

/-- In the payload, the first eight bytes are the header with the decoded fields. -/
def Sound (f : Frame) : Prop :=
  f.decoding = true → 7 < f.frameBufferIndex →
    f.bytes 0 8 = headerBytes crc f.rxFrameType f.rxFrameId f.rxPayloadLength

variable {crc} {f : Frame}

theorem loByte_le16 (lo hi : UInt8) : loByte (le16 lo hi) = lo :=
  (le16_inj (le16_lo_hi (le16 lo hi))).1

theorem hiByte_le16 (lo hi : UInt8) : hiByte (le16 lo hi) = hi :=
  (le16_inj (le16_lo_hi (le16 lo hi))).2

/-- The buffer has eight bytes at least. -/
theorem buffer_header (f : Frame) : ∃ r0 r1 r2 r3 r4 r5 r6 r7 rest,
    f.frameBuffer.toList = r0 :: r1 :: r2 :: r3 :: r4 :: r5 :: r6 :: r7 :: rest := by
  have hlen : f.frameBuffer.toList.length = 1024 := Vector.length_toList
  match f.frameBuffer.toList, hlen with
  | r0 :: r1 :: r2 :: r3 :: r4 :: r5 :: r6 :: r7 :: rest, _ =>
    exact ⟨r0, r1, r2, r3, r4, r5, r6, r7, rest, rfl⟩

theorem bytes_two {i : Nat} (h : i + 1 < frameBufferSize) :
    f.bytes i 2 = [f.frameBuffer.get ⟨i, by omega⟩, f.frameBuffer.get ⟨i + 1, h⟩] := by
  have hlen : f.frameBuffer.toList.length = frameBufferSize := Vector.length_toList
  rw [bytes, List.drop_eq_getElem_cons (by omega), List.drop_eq_getElem_cons (by omega),
    List.take_succ_cons, List.take_succ_cons, List.take_zero, Vector.getElem_toList,
    Vector.getElem_toList]
  rfl

/-- A store behind some bytes leaves them. -/
theorem bytes_put {a : UInt8} {i n : Nat} (h : f.frameBufferIndex < frameBufferSize)
    (hle : i + n ≤ f.frameBufferIndex) : (f.put a h).bytes i n = f.bytes i n := by
  apply List.ext_getElem?
  intro j
  rw [bytes, bytes, List.getElem?_take, List.getElem?_take]
  split
  next hj =>
    rw [put, List.getElem?_drop, List.getElem?_drop, Vector.toList_set,
      List.getElem?_set_ne (by omega)]
  next => rfl

/-! ## One byte -/

/-- A header whose CRC is right is the header of the fields taken from it, and any other
ends the frame. -/
theorem decodeHeader_sound : ((f.decodeHeader crc).decoding = true →
    (f.decodeHeader crc).bytes 0 8 = headerBytes crc (f.decodeHeader crc).rxFrameType
      (f.decodeHeader crc).rxFrameId (f.decodeHeader crc).rxPayloadLength) := by
  obtain ⟨r0, r1, r2, r3, r4, r5, r6, r7, rest, hbuf⟩ := f.buffer_header
  rw [decodeHeader_eq crc (fun i _ => by rw [hbuf])]
  split
  next hcrc =>
    intro _
    show ((f.frameBuffer.toList).drop 0).take 8 = _
    rw [hbuf, headerBytes, headerFields]
    simp only [loByte_le16, hiByte_le16, ← hcrc]
    rfl
  next =>
    intro h
    exact absurd h Bool.false_ne_true

/-- A stored byte of the payload leaves the header. -/
theorem header_put (hf : f.Sound crc) (hd : f.decoding = true) {a : UInt8}
    (hlt : f.frameBufferIndex < frameBufferSize) (h7 : 7 < f.frameBufferIndex) :
    (f.put a hlt).bytes 0 8 = headerBytes crc f.rxFrameType f.rxFrameId f.rxPayloadLength := by
  rw [bytes_put hlt (by omega), hf hd h7]

/-- The payload's CRC decides. -/
theorem checkPayload_cases (h : 8 + f.rxPayloadLength.toNat + 1 < frameBufferSize)
    (hheader : f.bytes 0 8 = headerBytes crc f.rxFrameType f.rxFrameId f.rxPayloadLength) :
    (f.checkPayload crc h = (f, false)) ∨
      (f.checkPayload crc h = ({ f with decoding := false }, true) ∧ f.Accepted crc) := by
  unfold checkPayload
  dsimp only
  split
  next hcrc =>
    refine Or.inr ⟨rfl, ?_, hheader, ?_⟩
    · rw [frameBufferSize] at h
      omega
    · rw [bytes_two h, hcrc, loByte_le16, hiByte_le16]
  next => exact Or.inl rfl

/-- A decoder that is not in a frame has nothing to keep. -/
theorem sound_idle (h : f.decoding = false) : f.Sound crc :=
  fun hd => absurd (h.symm.trans hd) Bool.false_ne_true

/-- A byte that completes no frame has to keep the invariant only. -/
theorem Sound.pending (h : f.Sound crc) :
    f.Sound crc ∧ (false = true → f.Accepted crc ∧ f.decoding = false) :=
  ⟨h, fun hdone => absurd hdone Bool.false_ne_true⟩

/-- **Storing a byte** keeps the invariant. When it completes a frame, the frame is
accepted with all of it in the buffer, and the decoder is done with it. -/
theorem storeByte_sound (hf : f.Sound crc) (hd : f.decoding = true) (a : UInt8) :
    (f.storeByte crc a).1.Sound crc ∧
      ((f.storeByte crc a).2 = true →
        (f.storeByte crc a).1.Accepted crc ∧ (f.storeByte crc a).1.decoding = false) := by
  by_cases hlt : f.frameBufferIndex < frameBufferSize
  · rcases Nat.lt_trichotomy f.frameBufferIndex 7 with h7 | h7 | h7
    · -- the first bytes of the header
      have hix : ¬ (f.put a hlt).frameBufferIndex = 7 := Nat.ne_of_lt h7
      have hix' : ¬ 7 < (f.put a hlt).frameBufferIndex := Nat.not_lt_of_gt h7
      simp only [storeByte, dif_pos hlt, afterStore, if_neg hix, if_neg hix']
      refine Sound.pending ?_
      intro _ h
      exact absurd (show 7 < f.frameBufferIndex + 1 from h) (by omega)
    · have hix : (f.put a hlt).frameBufferIndex = 7 := h7
      simp only [storeByte, dif_pos hlt, afterStore, if_pos hix]
      refine Sound.pending ?_
      intro h _
      exact decodeHeader_sound h
    · -- behind the header: the payload, or the end of the frame
      have hix : ¬ (f.put a hlt).frameBufferIndex = 7 := Nat.ne_of_gt h7
      have hix' : 7 < (f.put a hlt).frameBufferIndex := h7
      have hheader := header_put hf hd (a := a) hlt h7
      simp only [storeByte, dif_pos hlt, afterStore, if_neg hix, if_pos hix']
      split
      next hend =>
        have hroom : 8 + (f.put a hlt).rxPayloadLength.toNat + 1 < frameBufferSize := by
          have hlt' : (f.put a hlt).frameBufferIndex < frameBufferSize := hlt
          omega
        -- the CRC of the payload decides
        rcases checkPayload_cases hroom hheader with hcheck | ⟨hcheck, hacc⟩
        · rw [hcheck]
          exact Sound.pending fun _ _ => hheader
        · rw [hcheck]
          refine ⟨sound_idle rfl, ?_⟩
          intro _
          exact ⟨⟨hacc.1, hacc.2, hacc.3⟩, rfl⟩
      next => exact Sound.pending fun _ _ => hheader
  · -- no room is left
    rw [storeByte, dif_neg hlt]
    exact Sound.pending (sound_idle rfl)

/-- One call, with any byte. -/
theorem decodeFrame_sound (hf : f.Sound crc) (a : UInt8) :
    (f.decodeFrame crc a).1.Sound crc ∧
      ((f.decodeFrame crc a).2 = true →
        (f.decodeFrame crc a).1.Accepted crc ∧ (f.decodeFrame crc a).1.decoding = false) := by
  unfold decodeFrame
  split
  · -- a mark
    refine Sound.pending ?_
    intro _ h
    exact absurd h (Nat.not_lt_zero 7)
  · split
    next hd =>
      split
      · -- the escape mark
        exact Sound.pending (f := { f with escaping := true }) hf
      · split
        · exact storeByte_sound (f := f.disarm) hf hd _
        · exact storeByte_sound hf hd a
    next => exact hf.pending

/-! ## Any stream -/

theorem feed_sound (hf : f.Sound crc) (as : List UInt8) :
    (feed (decodeFrame crc) f as).1.Sound crc :=
  feed_invariant (I := Sound crc) (P := fun _ => True) (fun _ a hs _ => (decodeFrame_sound hs a).1)
    (fun _ _ => trivial) hf

/-- Between two marks, a decoder that is done reports nothing. -/
theorem feed_done {as : List UInt8} (hmark : 0x7E ∉ as) (hd : f.decoding = false) :
    feed (decodeFrame crc) f as = (f, List.replicate as.length false) := by
  refine feed_idle (P := (· ≠ 0x7E)) ?_ fun a ha hmem => hmark (hmem ▸ ha)
  intro a ha
  rw [decodeFrame, if_neg ha, if_neg (by rw [hd]; exact Bool.false_ne_true)]

/-- Between two marks, at most one frame is accepted. -/
theorem feed_once {as : List UInt8} (hmark : 0x7E ∉ as) :
    ∀ {f : Frame}, f.Sound crc → (feed (decodeFrame crc) f as).2.count true ≤ 1 := by
  induction as with
  | nil => exact fun _ => Nat.zero_le 1
  | cons a as ih =>
    intro f hf
    have hmark' : 0x7E ∉ as := fun h => hmark (List.mem_cons_of_mem _ h)
    obtain ⟨hnext, haccept⟩ := decodeFrame_sound hf a
    rw [feed_cons]
    cases hres : (f.decodeFrame crc a).2 with
    | false =>
      rw [List.count_cons_of_ne Bool.false_ne_true]
      exact ih hmark' hnext
    | true =>
      rw [feed_done hmark' (haccept hres).2, List.count_cons_self,
        List.count_eq_zero_of_not_mem (fun h => ?_)]
      exact absurd (List.eq_of_mem_replicate h).symm Bool.false_ne_true

theorem new_sound (frameType frameId payloadLength : UInt16)
    (frameBuffer : Vector UInt8 frameBufferSize) :
    (Frame.new frameType frameId payloadLength frameBuffer).Sound crc :=
  fun h => absurd h Bool.false_ne_true

end Frame

/-- **Acceptance is sound and in bounds.** On any stream, from a new `Frame` on any
memory: the next call touches only places of the buffer, what it returns true for is a
frame with right CRCs, and between two marks it returns true at most once. -/
theorem decodeFrame_accepts (frameType frameId payloadLength : UInt16)
    (frameBuffer : Vector UInt8 frameBufferSize) (stream : List UInt8) :
    let f := (feed (Frame.decodeFrame calculate)
      (.new frameType frameId payloadLength frameBuffer) stream).1
    (∀ a, (∀ i ∈ f.accesses a, i < frameBufferSize) ∧
        ((f.decodeFrame calculate a).2 = true → (f.decodeFrame calculate a).1.Accepted calculate)) ∧
      ∀ as, 0x7E ∉ as → (feed (Frame.decodeFrame calculate) f as).2.count true ≤ 1 := by
  intro f
  have hf : f.Sound calculate :=
    Frame.feed_sound (Frame.new_sound frameType frameId payloadLength frameBuffer) stream
  constructor
  · intro a
    refine ⟨f.accesses_lt a, ?_⟩
    intro h
    exact ((Frame.decodeFrame_sound hf a).2 h).1
  · intro as hmark
    exact Frame.feed_once hmark hf

end Solarbot.Link
