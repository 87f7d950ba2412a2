import Solarbot.Link.Frame

/-!
# What `DecodeFrame` does with a byte

One lemma for each thing a byte can be to the decoder. Outside a frame it is
ignored (`receive_idle`); the start mark re-initialises (`receive_start`); while
decoding, the decoder unescapes in the sense of `ByteStuffing`
(`receive_unescapes`), so what is left is the unescaped byte `store` puts at
`frame_buffer_index`. `Prefix raw k f` says that the decoder holds the first `k`
bytes of `raw`; the lemmas from `store_header` on say what storing the next one
does in each range of `k`.

The header is decoded at index 7 whatever the bytes are (`store_header_ok`,
`store_header_bad`); that the stored header is the frame's is only used where a
whole frame is received (`feed_raw`).
-/

namespace Solarbot.Link

open ByteStuffing

variable (crc : List UInt8 → UInt16)


namespace Frame

/-- `storeByte`, with the message it reports. -/
def store (f : Frame) (a : UInt8) : Frame × Option Message :=
  ((f.storeByte crc a).1,
    if (f.storeByte crc a).2 then some (f.storeByte crc a).1.message else none)

/-- `0x7D` only sets `escaping`. -/
def arm (f : Frame) : Frame := { f with escaping := true }

/-- The start mark. -/
def start (f : Frame) : Frame :=
  { f with frameBufferIndex := 0, rxPayloadLength := 0, decoding := true }

/-- A mark starts a frame. -/
theorem receive_start (f : Frame) : f.receive crc 0x7E = (f.start, none) := rfl

/-- Between frames every byte but the start mark is ignored. -/
theorem receive_idle {f : Frame} (hd : f.decoding = false) {a : UInt8} (ha : a ≠ 0x7E) :
    f.receive crc a = (f, none) := by
  simp [receive, decodeFrame, ha, hd]

/-- The pending escape is consumed. -/
def disarm (f : Frame) : Frame := { f with escaping := false }

theorem disarm_of_not {f : Frame} (he : f.escaping = false) : f.disarm = f := by
  cases f
  simp_all [disarm]

theorem disarm_arm {f : Frame} (he : f.escaping = false) : f.arm.disarm = f :=
  disarm_of_not he

theorem receive_esc {f : Frame} (hd : f.decoding = true) : f.receive crc 0x7D = (f.arm, none) := by
  simp [receive, decodeFrame, hd, arm]

/-- An escape waits for the next byte. -/
theorem feed_esc {f : Frame} (hd : f.decoding = true) (as : List UInt8) :
    feed (Frame.receive crc) f (0x7D :: as)
      = ((feed (Frame.receive crc) f.arm as).1, none :: (feed (Frame.receive crc) f.arm as).2) := by
  rw [feed_cons, receive_esc crc hd]

/-- With an escape pending, an unreserved byte is unmasked and stored. -/
theorem receive_armed {f : Frame} (hd : f.decoding = true) (he : f.escaping = true) {a : UInt8}
    (ha : ¬ linkCode.Reserved a) : f.receive crc a = f.disarm.store crc (a ^^^ 0x20) := by
  rw [linkCode_reserved, not_or] at ha
  unfold receive decodeFrame
  rw [if_neg ha.1, if_pos hd, if_neg ha.2, if_pos he]
  rfl

/-- With none pending it is stored as it is. -/
theorem receive_plain {f : Frame} (hd : f.decoding = true) (he : f.escaping = false) {a : UInt8}
    (ha : ¬ linkCode.Reserved a) : f.receive crc a = f.store crc a := by
  rw [linkCode_reserved, not_or] at ha
  unfold receive decodeFrame
  rw [if_neg ha.1, if_pos hd, if_neg ha.2, if_neg (by simp [he])]
  rfl

/-- **What a byte other than the start mark can do**: nothing, set `escaping`, or
be stored, as it is or unmasked, with no escape pending afterwards. -/
theorem receive_cases (f : Frame) {a : UInt8} (ha : a ≠ 0x7E) :
    (f.decoding = false ∧ f.receive crc a = (f, none)) ∨
    (f.decoding = true ∧ a = 0x7D ∧ f.receive crc a = (f.arm, none)) ∨
    (f.decoding = true ∧ a ≠ 0x7D ∧ ∃ b, f.receive crc a = f.disarm.store crc b) := by
  cases hd : f.decoding with
  | false => exact Or.inl ⟨rfl, receive_idle crc hd ha⟩
  | true =>
    by_cases h7D : a = 0x7D
    · subst h7D
      exact Or.inr (Or.inl ⟨rfl, rfl, receive_esc crc hd⟩)
    · have hres : ¬ linkCode.Reserved a := by
        rw [linkCode_reserved, not_or]
        exact ⟨ha, h7D⟩
      refine Or.inr (Or.inr ⟨rfl, h7D, ?_⟩)
      cases he : f.escaping with
      | true => exact ⟨_, receive_armed crc hd he hres⟩
      | false => exact ⟨a, by rw [receive_plain crc hd he hres, disarm_of_not he]⟩

/-- While decoding, with no escape pending, the decoder unescapes. -/
theorem receive_unescapes {f : Frame} (hd : f.decoding = true) (he : f.escaping = false) :
    Unescapes linkCode (Frame.receive crc) (Frame.store crc) arm none f where
  esc := receive_esc crc hd
  armed a ha := by
    rw [receive_armed crc (f := f.arm) hd rfl ha, disarm_arm he]
    rfl
  plain a ha := receive_plain crc hd he ha

/-- The decoder holds the first `k` raw bytes of a frame and waits for the next. -/
structure Prefix (raw : List UInt8) (k : Nat) (f : Frame) : Prop where
  index : f.frameBufferIndex = k
  decoding : f.decoding = true
  escaping : f.escaping = false
  buf : ∀ i, i < k → f.frameBuffer.toList[i]? = raw[i]?

/-- The buffer has the bytes that came, wherever they are taken out. -/
theorem Prefix.bytes_eq {raw : List UInt8} {k i n : Nat} {f : Frame} (h : Prefix raw k f)
    (hk : i + n ≤ k) : f.bytes i n = (raw.drop i).take n := by
  apply List.ext_getElem?
  intro j
  rw [bytes, List.getElem?_take, List.getElem?_take]
  split
  next hj => rw [List.getElem?_drop, List.getElem?_drop, h.buf _ (by omega)]
  next => rfl

/-- And each of them is there. -/
theorem Prefix.get_eq {raw : List UInt8} {k i : Nat} {f : Frame} (h : Prefix raw k f)
    (hi : i < k) (hb : i < frameBufferSize) : some (f.frameBuffer.get ⟨i, hb⟩) = raw[i]? := by
  rw [← h.buf i hi]
  simp [Vector.get]

/-- The state in which the tests on the index are made holds one more byte. -/
theorem Prefix.put {raw : List UInt8} {k : Nat} {f : Frame} {a : UInt8} (h : Prefix raw k f)
    (hlt : f.frameBufferIndex < frameBufferSize) (ha : raw[k]? = some a) :
    Prefix raw (k + 1) { f.put a hlt with frameBufferIndex := k + 1 } := by
  refine ⟨rfl, h.decoding, h.escaping, ?_⟩
  intro i hi
  show (f.frameBuffer.set f.frameBufferIndex a hlt).toList[i]? = raw[i]?
  rw [Vector.toList_set, List.getElem?_set, h.index]
  split
  next hik => rw [← hik, ha, if_pos (by simpa [h.index] using hlt)]
  next hik => exact h.buf i (by omega)

/-- The first seven header bytes are only stored. -/
theorem store_header {raw : List UInt8} {k : Nat} {f : Frame} {a : UInt8} (h : Prefix raw k f)
    (hk : k < 7) (ha : raw[k]? = some a) :
    ∃ f', f.store crc a = (f', none) ∧ Prefix raw (k + 1) f' := by
  have hlt : f.frameBufferIndex < frameBufferSize := by rw [h.index, frameBufferSize]; omega
  refine ⟨{ f.put a hlt with frameBufferIndex := k + 1 }, ?_, h.put hlt ha⟩
  have h7 : (f.put a hlt).frameBufferIndex ≠ 7 := by show f.frameBufferIndex ≠ 7; rw [h.index]; omega
  have h7' : ¬ 7 < (f.put a hlt).frameBufferIndex := by
    show ¬ 7 < f.frameBufferIndex; rw [h.index]; omega
  simp only [store, storeByte, dif_pos hlt, afterStore, if_neg h7, if_neg h7']
  simp [Frame.put, h.index]

/-- After the eighth byte the header is decoded from the stored bytes. -/
theorem decodeHeader_eq {r0 r1 r2 r3 r4 r5 r6 r7 : UInt8} {rest : List UInt8} {f : Frame}
    (h : ∀ i, i < 8 →
      f.frameBuffer.toList[i]? = (r0 :: r1 :: r2 :: r3 :: r4 :: r5 :: r6 :: r7 :: rest)[i]?) :
    f.decodeHeader crc =
      if le16 r6 r7 = crc [r0, r1, r2, r3, r4, r5] then
        { f with rxFrameType := le16 r0 r1, rxFrameId := le16 r2 r3, rxPayloadLength := le16 r4 r5 }
      else { f with decoding := false } := by
  -- what is loaded depends on the stored bytes only, so the index may be said to be 8
  have hp : Prefix (r0 :: r1 :: r2 :: r3 :: r4 :: r5 :: r6 :: r7 :: rest) 8
      { f with frameBufferIndex := 8, decoding := true, escaping := false } :=
    ⟨rfl, rfl, rfl, h⟩
  have hget : ∀ (i : Fin 8),
      some (f.frameBuffer.get (i.castLE (by decide)))
        = (r0 :: r1 :: r2 :: r3 :: r4 :: r5 :: r6 :: r7 :: rest)[i.val]? :=
    fun i => hp.get_eq i.isLt (by have := i.isLt; rw [frameBufferSize]; omega)
  have hbytes : f.bytes 0 6 = [r0, r1, r2, r3, r4, r5] := hp.bytes_eq (by omega)
  have h0 := Option.some.inj (hget 0)
  have h1 := Option.some.inj (hget 1)
  have h2 := Option.some.inj (hget 2)
  have h3 := Option.some.inj (hget 3)
  have h4 := Option.some.inj (hget 4)
  have h5 := Option.some.inj (hget 5)
  have h6 := Option.some.inj (hget 6)
  have h7 := Option.some.inj (hget 7)
  simp only [decodeHeader, hbytes, h0, h1, h2, h3, h4, h5, h6, h7]

/-- The eighth byte of a header whose CRC is right: the fields are taken. -/
theorem store_header_ok {r0 r1 r2 r3 r4 r5 r6 r7 : UInt8} {rest : List UInt8} {f : Frame}
    (h : Prefix (r0 :: r1 :: r2 :: r3 :: r4 :: r5 :: r6 :: r7 :: rest) 7 f)
    (hcrc : le16 r6 r7 = crc [r0, r1, r2, r3, r4, r5]) :
    ∃ f', f.store crc r7 = (f', none) ∧
      Prefix (r0 :: r1 :: r2 :: r3 :: r4 :: r5 :: r6 :: r7 :: rest) 8 f' ∧
      f'.rxFrameType = le16 r0 r1 ∧ f'.rxFrameId = le16 r2 r3 ∧
      f'.rxPayloadLength = le16 r4 r5 := by
  have hlt : f.frameBufferIndex < frameBufferSize := by rw [h.index, frameBufferSize]; omega
  have h7 : (f.put r7 hlt).frameBufferIndex = 7 := h.index
  have hput := h.put hlt (a := r7) rfl
  have hdec := decodeHeader_eq crc (f := f.put r7 hlt) (fun i hi => hput.buf i hi)
  rw [if_pos hcrc] at hdec
  refine ⟨{ (f.put r7 hlt).decodeHeader crc with frameBufferIndex := 8 }, ?_, ?_, ?_⟩
  · simp only [store, storeByte, dif_pos hlt, afterStore, if_pos h7, hdec]
    simp [h7]
  · rw [hdec]
    exact ⟨rfl, hput.decoding, hput.escaping, hput.buf⟩
  · rw [hdec]
    exact ⟨rfl, rfl, rfl⟩

/-- The eighth byte of a header whose CRC is wrong: the frame is given up. -/
theorem store_header_bad {r0 r1 r2 r3 r4 r5 r6 r7 : UInt8} {rest : List UInt8} {f : Frame}
    (h : Prefix (r0 :: r1 :: r2 :: r3 :: r4 :: r5 :: r6 :: r7 :: rest) 7 f)
    (hcrc : le16 r6 r7 ≠ crc [r0, r1, r2, r3, r4, r5]) :
    ∃ f', f.store crc r7 = (f', none) ∧ f'.decoding = false := by
  have hlt : f.frameBufferIndex < frameBufferSize := by rw [h.index, frameBufferSize]; omega
  have h7 : (f.put r7 hlt).frameBufferIndex = 7 := h.index
  have hput := h.put hlt (a := r7) rfl
  have hdec := decodeHeader_eq crc (f := f.put r7 hlt) (fun i hi => hput.buf i hi)
  rw [if_neg hcrc] at hdec
  refine ⟨{ (f.put r7 hlt).decodeHeader crc with frameBufferIndex := 8 }, ?_, ?_⟩
  · simp only [store, storeByte, dif_pos hlt, afterStore, if_pos h7, hdec]
    simp [h7]
  · rw [hdec]

/-- Before the last CRC byte a payload byte is only stored. -/
theorem store_payload {raw : List UInt8} {k : Nat} {f : Frame} {a : UInt8} (h : Prefix raw k f)
    (hk : 7 < k) (hlen : k < f.rxPayloadLength.toNat + 9) (hmax : k < frameBufferSize)
    (ha : raw[k]? = some a) :
    ∃ f', f.store crc a = (f', none) ∧ Prefix raw (k + 1) f' ∧
      f'.rxFrameType = f.rxFrameType ∧ f'.rxFrameId = f.rxFrameId ∧
      f'.rxPayloadLength = f.rxPayloadLength := by
  have hlt : f.frameBufferIndex < frameBufferSize := by rw [h.index]; exact hmax
  have hix : (f.put a hlt).frameBufferIndex = k := h.index
  have h7 : ¬ (f.put a hlt).frameBufferIndex = 7 := by omega
  have h7' : 7 < (f.put a hlt).frameBufferIndex := by omega
  have hne : ¬ (f.put a hlt).frameBufferIndex = (f.put a hlt).rxPayloadLength.toNat + 9 := by
    show ¬ (f.put a hlt).frameBufferIndex = f.rxPayloadLength.toNat + 9
    omega
  refine ⟨{ f.put a hlt with frameBufferIndex := k + 1 }, ?_, h.put hlt ha, rfl, rfl, rfl⟩
  simp only [store, storeByte, dif_pos hlt, afterStore, if_neg h7, if_pos h7', dif_neg hne]
  simp [hix]

/-- The last CRC byte of a payload whose CRC is right delivers the frame. -/
theorem store_last {raw : List UInt8} {n : Nat} {f : Frame} {a lo : UInt8}
    (h : Prefix raw (n + 9) f) (hlen : f.rxPayloadLength.toNat = n) (hmax : n ≤ 1014)
    (hlo : raw[n + 8]? = some lo) (ha : raw[n + 9]? = some a)
    (hcrc : crc ((raw.drop 8).take n) = le16 lo a) :
    ∃ f', f.store crc a = (f', some f'.message) ∧ f'.decoding = false ∧ f'.escaping = false ∧
      f'.message = ⟨f.rxFrameType, f.rxFrameId, f.rxPayloadLength, (raw.drop 8).take n⟩ := by
  have hlt : f.frameBufferIndex < frameBufferSize := by rw [h.index, frameBufferSize]; omega
  have hix : (f.put a hlt).frameBufferIndex = n + 9 := h.index
  have h7 : ¬ (f.put a hlt).frameBufferIndex = 7 := by omega
  have h7' : 7 < (f.put a hlt).frameBufferIndex := by omega
  have hln : (f.put a hlt).rxPayloadLength.toNat = n := hlen
  have heq : (f.put a hlt).frameBufferIndex = (f.put a hlt).rxPayloadLength.toNat + 9 := by omega
  have hput := h.put hlt ha
  have hb : 8 + n + 1 < frameBufferSize := by rw [frameBufferSize]; omega
  -- the CRC and the payload, as they lie in the buffer
  have hlo' : raw[8 + n]? = some lo := by rw [Nat.add_comm]; exact hlo
  have ha' : raw[8 + n + 1]? = some a := by rw [show 8 + n + 1 = n + 9 by omega]; exact ha
  have hg1 : (f.put a hlt).frameBuffer.get ⟨8 + n, by omega⟩ = lo :=
    Option.some.inj ((hput.get_eq (by omega) (by omega)).trans hlo')
  have hg2 : (f.put a hlt).frameBuffer.get ⟨8 + n + 1, hb⟩ = a :=
    Option.some.inj ((hput.get_eq (by omega) hb).trans ha')
  have hbytes : (f.put a hlt).bytes 8 n = (raw.drop 8).take n := hput.bytes_eq (by omega)
  have hchk : (f.put a hlt).checkPayload crc (by rw [hln]; exact hb)
      = ({ f.put a hlt with decoding := false }, true) := by
    unfold checkPayload
    simp only [hln, hg1, hg2, hbytes]
    rw [if_pos hcrc]
  refine ⟨{ f.put a hlt with decoding := false, frameBufferIndex := n + 10 }, ?_, rfl,
    h.escaping, ?_⟩
  · simp only [store, storeByte, dif_pos hlt, afterStore, if_neg h7, if_pos h7', dif_pos heq, hchk]
    simp [hix]
  · show Message.mk f.rxFrameType f.rxFrameId f.rxPayloadLength
      ((f.put a hlt).bytes 8 f.rxPayloadLength.toNat) = _
    rw [hlen, hbytes]

end Frame

/-! ## A whole frame -/

/-- The decoder holds the first `k` raw bytes of the frame `t`, and its header
fields once it has them. -/
structure Receiving (t : TxFrame) (k : Nat) (f : Frame) : Prop extends
    Frame.Prefix (t.raw crc) k f where
  fields : 8 ≤ k → f.rxFrameType = t.frameType ∧ f.rxFrameId = t.frameId ∧
    f.rxPayloadLength = t.payloadLength

variable {crc}

/-- The payload is behind the header. -/
theorem TxFrame.raw_payload (t : TxFrame) :
    ((t.raw crc).drop 8).take t.payload.length = t.payload := by
  rw [raw, List.drop_left' (headerBytes_length crc _ _ _), List.take_left']
  rfl

/-- And its CRC is behind it. -/
theorem TxFrame.raw_crc (t : TxFrame) :
    (t.raw crc)[t.payload.length + 8]? = some (loByte (crc t.payload)) ∧
    (t.raw crc)[t.payload.length + 9]? = some (hiByte (crc t.payload)) := by
  have h8 := headerBytes_length crc t.frameType t.frameId t.payloadLength
  constructor
  · rw [raw, List.getElem?_append_right (by omega), List.getElem?_append_right (by omega), h8]
    simp
  · rw [raw, List.getElem?_append_right (by omega), List.getElem?_append_right (by omega), h8]
    simp

/-- Every raw byte but the last is stored silently. -/
theorem Receiving.store {t : TxFrame} {k : Nat} {f : Frame} {a : UInt8}
    (h : Receiving crc t k f) (hk : k < t.payload.length + 9) (ha : (t.raw crc)[k]? = some a) :
    ∃ f', f.store crc a = (f', none) ∧ Receiving crc t (k + 1) f' := by
  have hpl := t.payload_le
  rcases Nat.lt_trichotomy k 7 with h7 | rfl | h7
  · obtain ⟨f', hf', hp⟩ := Frame.store_header crc h.toPrefix h7 ha
    exact ⟨f', hf', hp, fun h8 => absurd h8 (by omega)⟩
  · -- the header is complete, and its CRC is the encoder's
    have hr7 : hiByte (crc (headerFields t.frameType t.frameId t.payloadLength)) = a :=
      Option.some.inj ha
    obtain ⟨f', hf', hp, h1, h2, h3⟩ := Frame.store_header_ok crc h.toPrefix (le16_lo_hi _)
    rw [hr7] at hf'
    refine ⟨f', hf', hp, fun _ => ⟨?_, ?_, ?_⟩⟩
    · rw [h1, le16_lo_hi]
    · rw [h2, le16_lo_hi]
    · rw [h3, le16_lo_hi]
  · have hf := h.fields h7
    obtain ⟨f', hf', hp, h1, h2, h3⟩ := Frame.store_payload crc h.toPrefix h7
      (by rw [hf.2.2, t.payloadLength_toNat]; exact hk) (by rw [frameBufferSize]; omega) ha
    exact ⟨f', hf', hp, fun _ => ⟨h1.trans hf.1, h2.trans hf.2.1, h3.trans hf.2.2⟩⟩

/-- The last raw byte delivers the frame. -/
theorem Receiving.store_last {t : TxFrame} {f : Frame} {a : UInt8}
    (h : Receiving crc t (t.payload.length + 9) f)
    (ha : (t.raw crc)[t.payload.length + 9]? = some a) :
    ∃ f', f.store crc a = (f', some t.message) ∧ f'.message = t.message ∧
      f'.decoding = false ∧ f'.escaping = false := by
  have hf := h.fields (by omega)
  have hn : f.rxPayloadLength.toNat = t.payload.length := by rw [hf.2.2, t.payloadLength_toNat]
  have hae : a = hiByte (crc t.payload) := Option.some.inj (ha.symm.trans t.raw_crc.2)
  obtain ⟨f', hf', hd, he, hm⟩ := Frame.store_last crc h.toPrefix hn t.payload_le t.raw_crc.1 ha
    (by rw [t.raw_payload, hae, le16_lo_hi])
  rw [t.raw_payload, hf.1, hf.2.1, hf.2.2] at hm
  exact ⟨f', by rw [hf', hm]; rfl, hm, hd, he⟩

end Solarbot.Link
