import Solarbot.Link.Frame

/-!
# The receiver of the head

The head answers with frames of its own: the start mark `0x7E`, a length byte, that
many payload bytes and a CRC8, with the escapes of the command link. `port_read`
decodes them a byte at a time; `Receiver` holds the members it keeps from byte to
byte, without `rxflag`, which other threads change too (`Port`).

What a byte does is said twice. `receive` is the code; a byte that makes it set
`rxflag` is signalled by `frame`. `Stored n payload` is the phase it is in when, since
the last mark, it has been given a length byte `n` and then `payload`, no longer than
that; `feed_stored` carries it through a frame.

Mirroring notes vs `Head.cpp`:
- A store outside `RxRawFrame` is signalled by `overrun`.
- The index is compared with the length before and after the frame alike, so behind a
  complete frame the receiver goes on as if a frame of the same length had begun,
  with the old CRC.
- The constructor leaves `RxRawFrame` and `rx_crc8.crc` as they are.
-/

namespace Solarbot.Head

open ByteStuffing Link

/-! ## CRC8 -/

/-- `CRC8_Lookup`. -/
def crc8Lookup : List UInt8 := [
  0x00, 0x07, 0x0E, 0x09, 0x1C, 0x1B, 0x12, 0x15,
  0x38, 0x3F, 0x36, 0x31, 0x24, 0x23, 0x2A, 0x2D]

/-- `CRC8::CRC_Update`: the new `crc`. -/
def crcUpdate (crc val : UInt8) : UInt8 :=
  let crc := (crc <<< 4) ^^^ crc8Lookup.getD ((crc ^^^ val) >>> 4).toNat 0
  (crc <<< 4) ^^^ crc8Lookup.getD (((crc >>> 4) ^^^ val) &&& 0x0F).toNat 0

/-- The `crc` that `CRC8::CRC_Init` sets. -/
def crcInit : UInt8 := 0xFF

/-- `CRC8::GetCRC`. -/
def getCRC (buff : List UInt8) : UInt8 := buff.foldl crcUpdate crcInit

/-- The CRC goes on byte by byte. -/
theorem getCRC_append (bs : List UInt8) (b : UInt8) :
    getCRC (bs ++ [b]) = crcUpdate (getCRC bs) b := by
  rw [getCRC, List.foldl_append]
  rfl

/-! ## The receiver -/

/-- `rx_raw_frame_size`. -/
abbrev rxRawFrameSize : Nat := 100

/-- `port_rx_buffer_size`. -/
abbrev portRxBufferSize : Nat := 100

/-- The members of `Head` that `port_read` keeps from byte to byte. -/
structure Receiver where
  rxRawFrame : Vector UInt8 rxRawFrameSize
  rxRawFrameIndex : Nat
  rxRawFrameLength : Nat
  crc : UInt8
  escaping : Bool
  deriving DecidableEq

/-- What one byte makes `port_read` do besides. -/
inductive Signal
  | idle
  /-- `rxflag = true`. -/
  | frame
  /-- A store outside `RxRawFrame`. -/
  | overrun
  deriving DecidableEq, Repr

namespace Receiver

/-- The receiver of a newly constructed `Head`, on what the memory held. -/
def new (rxRawFrame : Vector UInt8 rxRawFrameSize) (crc : UInt8) : Receiver :=
  { rxRawFrame, rxRawFrameIndex := 0, rxRawFrameLength := 0, crc, escaping := false }

/-- The start mark. -/
def start (r : Receiver) : Receiver :=
  { r with rxRawFrameIndex := 0, escaping := false, rxRawFrameLength := 0, crc := crcInit }

/-- A payload byte: the store, the CRC and the index. -/
def put (r : Receiver) (a : UInt8) (h : r.rxRawFrameIndex < rxRawFrameSize) : Receiver :=
  { r with
    rxRawFrame := r.rxRawFrame.set r.rxRawFrameIndex a h
    crc := crcUpdate r.crc a
    rxRawFrameIndex :=
      if portRxBufferSize ≤ r.rxRawFrameIndex + 1 then 0 else r.rxRawFrameIndex + 1 }

/-- An unescaped byte. -/
def store (r : Receiver) (a : UInt8) : Receiver × Signal :=
  if r.rxRawFrameIndex = 0 ∧ r.rxRawFrameLength = 0 then
    ({ r with rxRawFrameLength := a.toNat, crc := crcUpdate r.crc a }, .idle)
  else if r.rxRawFrameIndex = r.rxRawFrameLength then
    ({ r with rxRawFrameIndex := 0 }, if r.crc = a then .frame else .idle)
  else if h : r.rxRawFrameIndex < rxRawFrameSize then (r.put a h, .idle)
  else (r, .overrun)

/-- The body of the loop over the bytes of a read. -/
def receive (r : Receiver) (a : UInt8) : Receiver × Signal :=
  if a = 0x7E then (r.start, .idle)
  else if a = 0x7D then ({ r with escaping := true }, .idle)
  else if r.escaping then { r with escaping := false }.store (a ^^^ 0x20)
  else r.store a

variable {r : Receiver} {a : UInt8}

/-- A mark starts a frame. -/
theorem receive_mark (r : Receiver) : r.receive 0x7E = (r.start, .idle) := if_pos rfl

theorem receive_esc (r : Receiver) : r.receive 0x7D = ({ r with escaping := true }, .idle) := rfl

/-- Behind an escape the byte is turned back. -/
theorem receive_escaped (hmark : a ≠ 0x7E) (hesc : a ≠ 0x7D) (h : r.escaping = true) :
    r.receive a = { r with escaping := false }.store (a ^^^ 0x20) := by
  rw [receive, if_neg hmark, if_neg hesc, if_pos h]

theorem receive_plain (hmark : a ≠ 0x7E) (hesc : a ≠ 0x7D) (h : r.escaping = false) :
    r.receive a = r.store a := by
  rw [receive, if_neg hmark, if_neg hesc, if_neg (by rw [h]; decide)]

/-! ## The index stays in the buffer -/

/-- The invariant of every state: the next store is inside `RxRawFrame`. -/
def Inside (r : Receiver) : Prop := r.rxRawFrameIndex < rxRawFrameSize

/-- A start is inside the buffer. -/
theorem start_inside (r : Receiver) : r.start.Inside := show 0 < 100 by decide

/-- The index wraps before it leaves the buffer. -/
theorem put_inside (a : UInt8) (h : r.rxRawFrameIndex < rxRawFrameSize) : (r.put a h).Inside := by
  have hbelow : r.rxRawFrameIndex < 100 := h
  show (if 100 ≤ r.rxRawFrameIndex + 1 then 0 else r.rxRawFrameIndex + 1) < 100
  split <;> omega

/-- **One byte** stays inside the buffer. -/
theorem store_inside (h : r.Inside) (a : UInt8) :
    (r.store a).1.Inside ∧ (r.store a).2 ≠ .overrun := by
  have hidle : Signal.idle ≠ .overrun := by decide
  unfold store
  by_cases hlen : r.rxRawFrameIndex = 0 ∧ r.rxRawFrameLength = 0
  · rw [if_pos hlen]
    exact ⟨h, hidle⟩
  · rw [if_neg hlen]
    by_cases hend : r.rxRawFrameIndex = r.rxRawFrameLength
    · rw [if_pos hend]
      refine ⟨show 0 < 100 by decide, ?_⟩
      show (if r.crc = a then Signal.frame else Signal.idle) ≠ .overrun
      split <;> decide
    · have hbelow : r.rxRawFrameIndex < rxRawFrameSize := h
      rw [if_neg hend, dif_pos hbelow]
      exact ⟨put_inside a hbelow, hidle⟩

/-- **No byte leads out of the buffer.** -/
theorem receive_inside (h : r.Inside) (a : UInt8) :
    (r.receive a).1.Inside ∧ (r.receive a).2 ≠ .overrun := by
  have hidle : Signal.idle ≠ .overrun := by decide
  unfold receive
  split
  · exact ⟨r.start_inside, hidle⟩
  · split
    · exact ⟨h, hidle⟩
    · split
      · exact store_inside (r := { r with escaping := false }) h _
      · exact store_inside h a

/-! ## Escapes -/

/-- With no escape pending. -/
def Plain (r : Receiver) : Prop := r.escaping = false

/-- An escape. -/
def arm (r : Receiver) : Receiver := { r with escaping := true }

theorem store_plain (h : r.Plain) (a : UInt8) : (r.store a).1.Plain := by
  unfold store
  split
  · exact h
  · split
    · exact h
    · split <;> exact h

/-- Stored bytes leave no escape pending. -/
theorem feed_plain (h : r.Plain) (bytes : List UInt8) : (feed store r bytes).1.Plain :=
  feed_invariant (I := Plain) (P := fun _ => True) (fun _ b hs _ => store_plain hs b)
    (fun _ _ => trivial) h

/-- The receiver is a decoder of stuffed bytes. -/
theorem receive_unescapes (h : r.Plain) :
    Unescapes linkCode receive store arm .idle r where
  esc := r.receive_esc
  armed := by
    intro a ha
    have hback : { r.arm with escaping := false } = r := by
      have hplain : r.escaping = false := h
      cases r
      cases hplain
      rfl
    rw [receive_escaped (fun h => ha (.inl h)) (fun h => ha (.inr h)) rfl, hback]
    rfl
  plain := by
    intro a ha
    exact receive_plain (fun h => ha (.inl h)) (fun h => ha (.inr h)) h

/-- The bytes behind a mark, as they are stored. -/
theorem feed_behind_mark (r : Receiver) {after : List UInt8} (hflag : 0x7E ∉ after) :
    (feed receive r (0x7E :: after)).1 =
      armed arm (unstuff linkCode false after).2
        (feed store r.start (unstuff linkCode false after).1).1 := by
  rw [feed_cons, receive_mark]
  exact feed_unstuff (c := linkCode) (fun s hs => receive_unescapes (r := s) hs)
    (fun _ _ => rfl) (fun s b hs => store_plain (r := s) hs b) hflag
    (show Plain r.start from rfl) false

/-! ## A frame, byte by byte -/

/-- Since the mark the length byte `n` was given, and then `payload`. A payload of 100
bytes or more wraps the index, which then never meets the length. -/
structure Stored (n : UInt8) (payload : List UInt8) (r : Receiver) : Prop where
  length : r.rxRawFrameLength = n.toNat
  crc : r.crc = getCRC (n :: payload)
  index : n.toNat < rxRawFrameSize → r.rxRawFrameIndex = payload.length
  frame : n.toNat < rxRawFrameSize → r.rxRawFrame.toList.take payload.length = payload

variable {n : UInt8} {payload : List UInt8}

/-- The length byte behind the mark. -/
theorem stored_length (r : Receiver) (n : UInt8) : Stored n [] (r.start.store n).1 where
  length := rfl
  crc := rfl
  index := fun _ => rfl
  frame := fun _ => rfl

/-- A prefix of a vector grows by the element set behind it. -/
theorem take_set_succ {k : Nat} {v : Vector UInt8 rxRawFrameSize} {a : UInt8}
    (h : k < rxRawFrameSize) :
    (v.set k a h).toList.take (k + 1) = v.toList.take k ++ [a] := by
  have hlen : v.toList.length = rxRawFrameSize := v.length_toList
  have hk : k < (v.toList.set k a).length := by
    rw [List.length_set, hlen]
    exact h
  rw [Vector.toList_set, List.take_succ_eq_append_getElem hk, List.getElem_set_self,
    List.take_set_of_le (le_refl k)]

/-- Inside the payload the index does not meet the length. -/
theorem Stored.inner (h : Stored n payload r) (hin : r.Inside) (hlen : payload.length < n.toNat) :
    r.rxRawFrameIndex ≠ r.rxRawFrameLength := by
  rw [h.length]
  by_cases hfits : n.toNat < rxRawFrameSize
  · have hindex := h.index hfits
    omega
  · exact Nat.ne_of_lt (Nat.lt_of_lt_of_le hin (Nat.le_of_not_lt hfits))

/-- A payload byte behind `payload`. -/
theorem Stored.store (hin : r.Inside) (h : Stored n payload r)
    (hlen : payload.length < n.toNat) (a : UInt8) : Stored n (payload ++ [a]) (r.store a).1 := by
  have hphase : ¬ (r.rxRawFrameIndex = 0 ∧ r.rxRawFrameLength = 0) := by
    intro hzero
    have hlength := h.length
    omega
  have hrun := h.inner hin hlen
  have hbelow : r.rxRawFrameIndex < rxRawFrameSize := hin
  have hput : (r.store a).1 = r.put a hbelow := by
    unfold Receiver.store
    rw [if_neg hphase, if_neg hrun, dif_pos hbelow]
  rw [hput]
  constructor
  · exact h.length
  · show crcUpdate r.crc a = _
    rw [h.crc, ← getCRC_append]
    rfl
  · intro hfits
    have hindex := h.index hfits
    have hfits' : n.toNat < 100 := hfits
    show (if 100 ≤ r.rxRawFrameIndex + 1 then 0 else r.rxRawFrameIndex + 1) = _
    rw [if_neg (by omega), hindex, List.length_append]
    rfl
  · intro hfits
    have hindex := h.index hfits
    rw [List.length_append]
    show ((r.rxRawFrame.set r.rxRawFrameIndex a hbelow).toList).take (payload.length + 1) = _
    simp only [hindex]
    rw [take_set_succ, h.frame hfits]

/-- **A length byte and its payload** behind the mark, whole or in part. -/
theorem feed_stored (r : Receiver) (payload : List UInt8)
    (hlen : payload.length ≤ n.toNat) :
    Stored n payload (feed Receiver.store r.start (n :: payload)).1 ∧
      (feed Receiver.store r.start (n :: payload)).1.Inside := by
  induction payload using List.reverseRecOn with
  | nil =>
    exact ⟨stored_length r n, (store_inside r.start_inside n).1⟩
  | append_singleton payload a ih =>
    rw [List.length_append] at hlen
    have hlt : payload.length < n.toNat := hlen
    obtain ⟨hstored, hin⟩ := ih (Nat.le_of_lt hlt)
    have hlast : (feed Receiver.store r.start (n :: (payload ++ [a]))).1 =
        ((feed Receiver.store r.start (n :: payload)).1.store a).1 := by
      rw [← List.cons_append, feed_append, feed_singleton]
    rw [hlast]
    exact ⟨hstored.store hin hlt a, (store_inside hin a).1⟩

/-! ## The byte that completes a frame -/

/-- The byte `a` as the receiver takes it. -/
def unescaped (r : Receiver) (a : UInt8) : UInt8 := if r.escaping then a ^^^ 0x20 else a

/-- A byte completes a frame when it is the running CRC at the end of the length. -/
theorem store_frame_iff (a : UInt8) :
    (r.store a).2 = .frame ↔ ¬ (r.rxRawFrameIndex = 0 ∧ r.rxRawFrameLength = 0) ∧
      r.rxRawFrameIndex = r.rxRawFrameLength ∧ r.crc = a := by
  unfold Receiver.store
  split
  next hphase => exact iff_of_false (by simp) (fun h => h.1 hphase)
  next hphase =>
    split
    next hlast =>
      split
      next hcrc => exact iff_of_true rfl ⟨hphase, hlast, hcrc⟩
      next hcrc => exact iff_of_false (by simp) (fun h => hcrc h.2.2)
    next hlast =>
      split <;> exact iff_of_false (by simp) (fun h => hlast h.2.1)

end Receiver

end Solarbot.Head
