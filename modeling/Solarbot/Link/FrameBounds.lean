import Solarbot.Link.Frame

/-!
# `GenerateFrame` and the size of its buffer

`GenerateFrame` refuses a buffer of less than `2 * (10 + PayloadLength)` bytes: each
byte of header, payload and payload CRC may take two. The random byte and the start
mark are not in the count, so a frame overruns its buffer when at most one of its
bytes needs no escape. The header's CRC leaves one header with so few, and there the
frame is one byte too long for the smallest buffer that is accepted
(`generateFrame_respects_iff`).

The header is found by a search that the kernel evaluates: `allSparse` goes through
the words of six bytes with at most one that needs no escape, and `crcStep` is the
step of `CRC16` on numbers (`crcByte_toNat`).
-/

namespace Solarbot.Link

open ByteStuffing

/-! ## The length of a frame -/

/-- How many bytes need no escape. -/
def plainCount (bs : List UInt8) : Nat := bs.countP (¬ linkCode.Reserved ·)

/-- The bytes without an escape are counted part by part. -/
theorem plainCount_append (as bs : List UInt8) :
    plainCount (as ++ bs) = plainCount as + plainCount bs := List.countP_append

theorem plainCount_cons (b : UInt8) (bs : List UInt8) :
    plainCount (b :: bs) = plainCount bs + if linkCode.Reserved b then 0 else 1 := by
  unfold plainCount
  rw [List.countP_cons]
  by_cases h : linkCode.Reserved b <;> simp [h]

/-- There are none when all bytes are escaped. -/
theorem plainCount_eq_zero {bs : List UInt8} :
    plainCount bs = 0 ↔ ∀ b ∈ bs, linkCode.Reserved b := by
  unfold plainCount
  rw [List.countP_eq_zero]
  simp

/-- The bytes of `CRC16::calculate`, as a frame has them. -/
def crcBytes (bs : List UInt8) : List UInt8 := [loByte (calculate bs), hiByte (calculate bs)]

/-- Header, payload and payload CRC before escaping. -/
def rawBytes (frameType frameId : UInt16) (payload : List UInt8) (payloadLength : UInt16) :
    List UInt8 :=
  headerBytes calculate frameType frameId payloadLength ++
    (payload.take payloadLength.toNat ++ crcBytes (payload.take payloadLength.toNat))

variable {bufferSize : Int} (frameType frameId : UInt16) (payload : List UInt8)
  (payloadLength : UInt16) (rndByte : UInt8)

/-- Eight bytes of header, the payload, and two of its CRC. -/
theorem rawBytes_length : (rawBytes frameType frameId payload payloadLength).length
    = 10 + (payload.take payloadLength.toNat).length := by
  rw [rawBytes, List.length_append, TxFrame.headerBytes_length, List.length_append]
  simp only [crcBytes, List.length_cons, List.length_nil]
  omega

/-- A frame that is not refused has its two leading bytes and two for each raw byte, less
one for each that needs no escape. -/
theorem generateFrame_length (h : 2 * (10 + payloadLength.toNat) ≤ bufferSize) :
    (generateFrame calculate bufferSize frameType frameId payload payloadLength rndByte).length
      + plainCount (rawBytes frameType frameId payload payloadLength)
      = 22 + 2 * (payload.take payloadLength.toNat).length := by
  have hraw := rawBytes_length frameType frameId payload payloadLength
  have hstuff := stuffAll_length linkCode (rawBytes frameType frameId payload payloadLength)
  have hframe : generateFrame calculate bufferSize frameType frameId payload payloadLength rndByte
      = [rndByte, 0x7E] ++ stuffAll linkCode
          (rawBytes frameType frameId payload payloadLength) := by
    rw [generateFrame, if_neg (by omega)]
    simp only [foldl_addWithEscape, addWithEscape_eq, rawBytes, crcBytes, stuffAll_append,
      stuffAll_cons, stuffAll_nil, List.append_nil, List.append_assoc]
  rw [hframe, List.length_append]
  simp only [List.length_cons, List.length_nil]
  unfold plainCount
  omega

/-- A frame that is made is not empty. -/
theorem generateFrame_ne_nil (h : 2 * (10 + payloadLength.toNat) ≤ bufferSize) :
    generateFrame calculate bufferSize frameType frameId payload payloadLength rndByte ≠ [] := by
  have hlen := generateFrame_length frameType frameId payload payloadLength rndByte h
  have hraw := rawBytes_length frameType frameId payload payloadLength
  have hplain : plainCount (rawBytes frameType frameId payload payloadLength) ≤ _ :=
    List.countP_le_length
  intro hnil
  rw [hnil, List.length_nil] at hlen
  omega

/-! ## The step of the CRC on numbers -/

/-- One pass of the loop of `CRC16::calculate`. -/
def crcByte (crc : UInt16) (b : UInt8) : UInt16 :=
  (crc <<< 8) ^^^ crc16Table.getD (((crc >>> 8) ^^^ b.toUInt16) &&& 0x00FF).toNat 0

theorem calculate_eq (bs : List UInt8) : calculate bs = bs.foldl crcByte 0 := rfl

/-- A table of words in one number, the first word in the low bits. -/
def packed (words : List UInt16) : Nat := words.foldr (fun w bits => w.toNat + 65536 * bits) 0

/-- A packed word is taken out where it was put in. -/
theorem packed_word (words : List UInt16) (i : Nat) :
    packed words >>> (16 * i) % 65536 = (words.getD i 0).toNat := by
  induction words generalizing i with
  | nil => simp [packed]
  | cons w words ih =>
    have hw := w.toNat_lt
    have hcons : packed (w :: words) = w.toNat + 65536 * packed words := rfl
    cases i with
    | zero =>
      rw [hcons, Nat.mul_zero, Nat.shiftRight_zero, List.getD_cons_zero]
      omega
    | succ i =>
      rw [List.getD_cons_succ, ← ih, hcons, Nat.mul_succ, Nat.add_comm (16 * i),
        Nat.shiftRight_add]
      congr 2
      rw [Nat.shiftRight_eq_div_pow]
      omega

/-- `crcByte` on numbers. The operations are the ones the kernel evaluates itself. -/
def crcStep (crc b : Nat) : Nat :=
  Nat.xor (Nat.mod (Nat.mul crc 256) 65536)
    (Nat.mod (Nat.shiftRight (packed crc16Table) (Nat.mul 16 (Nat.xor (Nat.div crc 256) b))) 65536)

/-- A step of the CRC in the numbers of the search. -/
theorem crcByte_toNat (crc : UInt16) (b : UInt8) :
    (crcByte crc b).toNat = crcStep crc.toNat b.toNat := by
  have hc := crc.toNat_lt
  have hb := b.toNat_lt
  have hshift : (crc >>> 8).toNat = crc.toNat / 256 := by
    rw [UInt16.toNat_shiftRight, Nat.shiftRight_eq_div_pow]
    rfl
  have hidx : (((crc >>> 8) ^^^ b.toUInt16) &&& 0x00FF).toNat = crc.toNat / 256 ^^^ b.toNat := by
    rw [UInt16.toNat_and, UInt16.toNat_xor, hshift, UInt8.toNat_toUInt16]
    rw [show (0x00FF : UInt16).toNat = 2 ^ 8 - 1 from rfl, Nat.and_two_pow_sub_one_eq_mod]
    exact Nat.mod_eq_of_lt (Nat.xor_lt_two_pow (by omega) hb)
  have hleft : (crc <<< 8).toNat = crc.toNat * 256 % 65536 := by
    rw [UInt16.toNat_shiftLeft, Nat.shiftLeft_eq]
    rfl
  unfold crcByte
  rw [UInt16.toNat_xor, hidx, hleft, ← packed_word]
  rfl

/-! ## The header with the fewest plain bytes -/

/-- `1` for a byte that needs no escape. -/
def plainBit (b : Nat) : Nat := bif Nat.beq b 0x7D || Nat.beq b 0x7E then 0 else 1

/-- A byte counts there when it is not escaped. -/
theorem plainBit_toNat (b : UInt8) :
    plainBit b.toNat = if linkCode.Reserved b then 0 else 1 := by
  unfold plainBit
  by_cases h : linkCode.Reserved b
  · rw [if_pos h]
    rcases h with rfl | rfl <;> rfl
  · rw [if_neg h]
    have hne : b.toNat ≠ 0x7D ∧ b.toNat ≠ 0x7E := by
      refine ⟨fun he => h (.inr ?_), fun he => h (.inl ?_)⟩ <;> exact UInt8.toNat.inj he
    have h1 : Nat.beq b.toNat 0x7D = false :=
      Bool.eq_false_iff.mpr fun he => hne.1 (Nat.eq_of_beq_eq_true he)
    have h2 : Nat.beq b.toNat 0x7E = false :=
      Bool.eq_false_iff.mpr fun he => hne.2 (Nat.eq_of_beq_eq_true he)
    rw [h1, h2]
    rfl

theorem plainCount_word (w : UInt16) :
    plainCount [loByte w, hiByte w]
      = Nat.add (plainBit (Nat.mod w.toNat 256)) (plainBit (Nat.div w.toNat 256)) := by
  have hw := w.toNat_lt
  have hlo : (loByte w).toNat = w.toNat % 256 := by
    rw [loByte, UInt8.toNat_ofNat']
    omega
  have hhi : (hiByte w).toNat = w.toNat / 256 := by
    rw [hiByte, UInt8.toNat_ofNat']
    omega
  rw [plainCount_cons, plainCount_cons, ← plainBit_toNat, ← plainBit_toNat, hlo, hhi,
    show plainCount [] = 0 from rfl, Nat.zero_add]
  exact Nat.add_comm _ _

/-- `p` holds of every number below `n`. -/
def allBelow (p : Nat → Bool) : Nat → Bool
  | 0 => true
  | n + 1 => p n && allBelow p n

/-- What the search says of all numbers, it says of each. -/
theorem of_allBelow {p : Nat → Bool} {n i : Nat} (h : allBelow p n = true) (hi : i < n) :
    p i = true := by
  induction n with
  | zero => omega
  | succ n ih =>
    rw [allBelow, Bool.and_eq_true] at h
    rcases Nat.lt_succ_iff_lt_or_eq.mp hi with hlt | rfl
    · exact ih h.2 hlt
    · exact h.1

/-- `p` holds of every word that continues `word` by `n` bytes of which, with the two
of the CRC, at most `budget` need no escape. -/
def allSparse (p : List Nat → Bool) : Nat → Nat → Nat → List Nat → Bool
  | 0, budget, crc, word =>
    !Nat.ble (Nat.add (plainBit (Nat.mod crc 256)) (plainBit (Nat.div crc 256))) budget || p word
  | n + 1, budget, crc, word =>
    allSparse p n budget (crcStep crc 0x7D) (word ++ [0x7D]) &&
      (allSparse p n budget (crcStep crc 0x7E) (word ++ [0x7E]) &&
        match budget with
        | 0 => true
        | budget + 1 =>
          allBelow (fun b => allSparse p n budget (crcStep crc b) (word ++ [b])) 256)

section

variable {p : List Nat → Bool} {n budget crc : Nat} {word : List Nat}

/-- The search goes on behind a byte that is escaped. -/
theorem allSparse_reserved (h : allSparse p (n + 1) budget crc word = true) {b : UInt8}
    (hb : linkCode.Reserved b) :
    allSparse p n budget (crcStep crc b.toNat) (word ++ [b.toNat]) = true := by
  unfold allSparse at h
  rw [Bool.and_eq_true, Bool.and_eq_true] at h
  rcases hb with rfl | rfl
  · exact h.2.1
  · exact h.1

/-- Behind any other byte it has one less to spend. -/
theorem allSparse_any (h : allSparse p (n + 1) (budget + 1) crc word = true) (b : UInt8) :
    allSparse p n budget (crcStep crc b.toNat) (word ++ [b.toNat]) = true := by
  rw [allSparse, Bool.and_eq_true, Bool.and_eq_true] at h
  exact of_allBelow h.2.2 b.toNat_lt

end

/-- What a search that succeeds says of each of its words. -/
theorem of_allSparse {p : List Nat → Bool} (bs : List UInt8) {budget : Nat} {crc : UInt16}
    {word : List Nat} (h : allSparse p bs.length budget crc.toNat word = true)
    (hb : plainCount bs + plainCount [loByte (bs.foldl crcByte crc), hiByte (bs.foldl crcByte crc)]
      ≤ budget) : p (word ++ bs.map UInt8.toNat) = true := by
  induction bs generalizing budget crc word with
  | nil =>
    rw [List.length_nil, allSparse, ← plainCount_word, Bool.or_eq_true, Bool.not_eq_true'] at h
    rw [List.map_nil, List.append_nil]
    apply h.resolve_left
    intro hlt
    have hle : Nat.ble (plainCount [loByte crc, hiByte crc]) budget = true :=
      Nat.ble_eq.mpr (le_trans (Nat.le_add_left _ _) hb)
    exact Bool.false_ne_true (hlt.symm.trans hle)
  | cons b bs ih =>
    rw [plainCount_cons, List.foldl_cons] at hb
    rw [List.map_cons, List.append_cons]
    by_cases hr : linkCode.Reserved b
    · rw [if_pos hr] at hb
      have hrest := allSparse_reserved h hr
      rw [← crcByte_toNat] at hrest
      exact ih hrest (by omega)
    · -- a byte of the budget
      rw [if_neg hr] at hb
      obtain ⟨k, rfl⟩ : ∃ k, budget = k + 1 := ⟨budget - 1, by omega⟩
      have hrest := allSparse_any h b
      rw [← crcByte_toNat] at hrest
      exact ih hrest (by omega)

/-- One header alone has at most one byte without an escape. -/
theorem allSparse_header :
    allSparse (· == [0x7D, 0x33, 0x7D, 0x7E, 0x7D, 0x7E]) 6 1 0 [] = true := by decide +kernel

/-- **The header with the fewest plain bytes.** No other has less than two. -/
theorem header_of_plainCount
    (h : plainCount (headerBytes calculate frameType frameId payloadLength) ≤ 1) :
    frameType = 0x337D ∧ frameId = 0x7E7D ∧ payloadLength = 0x7E7D := by
  have hsearch : allSparse (· == [0x7D, 0x33, 0x7D, 0x7E, 0x7D, 0x7E])
      (headerFields frameType frameId payloadLength).length 1 (0 : UInt16).toNat [] = true := by
    rw [show (headerFields frameType frameId payloadLength).length = 6 from rfl,
      show (0 : UInt16).toNat = 0 from rfl]
    exact allSparse_header
  rw [headerBytes, plainCount_append] at h
  have hword := of_allSparse _ hsearch h
  have hbytes : (headerFields frameType frameId payloadLength).map UInt8.toNat
      = [0x7D, 0x33, 0x7D, 0x7E, 0x7D, 0x7E] := beq_iff_eq.mp hword
  have hfields : headerFields frameType frameId payloadLength
      = [0x7D, 0x33, 0x7D, 0x7E, 0x7D, 0x7E] :=
    List.map_injective_iff.mpr (fun _ _ => UInt8.toNat.inj) hbytes
  simp only [headerFields, List.cons.injEq, and_true] at hfields
  obtain ⟨h0, h1, h2, h3, h4, h5⟩ := hfields
  refine ⟨?_, ?_, ?_⟩
  · rw [← le16_lo_hi frameType, h0, h1]
    rfl
  · rw [← le16_lo_hi frameId, h2, h3]
    rfl
  · rw [← le16_lo_hi payloadLength, h4, h5]
    rfl

/-! ## The frames that overrun their buffer -/

/-- The positions `GenerateFrame` writes and the length it returns are inside the
buffer, or it returns `0` and writes nothing. -/
def Respects (bufferSize : Int) (buffer : List UInt8) : Prop :=
  buffer = [] ∨
    (∀ position < buffer.length, (position : Int) < bufferSize) ∧ buffer.length ≤ bufferSize

/-- The frames all of whose bytes but one are escaped. -/
structure Longest (frameType frameId : UInt16) (payload : List UInt8) : Prop where
  frameType_eq : frameType = 0x337D
  frameId_eq : frameId = 0x7E7D
  payload_length : payload.length = 0x7E7D
  payload_escaped : ∀ b ∈ payload, linkCode.Reserved b
  crc_escaped : ∀ b ∈ crcBytes payload, linkCode.Reserved b

/-- The bytes without an escape are in the header, the payload or its CRC. -/
theorem plainCount_rawBytes : plainCount (rawBytes frameType frameId payload payloadLength)
    = plainCount (headerBytes calculate frameType frameId payloadLength)
      + (plainCount (payload.take payloadLength.toNat)
        + plainCount (crcBytes (payload.take payloadLength.toNat))) := by
  rw [rawBytes, plainCount_append, plainCount_append]

/-- The one buffer size that is accepted and too small, and what fills it. -/
theorem generateFrame_overruns (h : 2 * (10 + payloadLength.toNat) ≤ bufferSize) :
    bufferSize < (generateFrame calculate bufferSize frameType frameId payload payloadLength
      rndByte).length ↔
    bufferSize = 64782 ∧ payloadLength = 0x7E7D ∧
      Longest frameType frameId (payload.take payloadLength.toNat) := by
  have hlen := generateFrame_length frameType frameId payload payloadLength rndByte h
  have htake := List.length_take_le payloadLength.toNat payload
  rw [plainCount_rawBytes] at hlen
  have hone : plainCount (headerBytes calculate 0x337D 0x7E7D 0x7E7D) = 1 := by decide
  constructor
  · intro hover
    obtain ⟨rfl, rfl, rfl⟩ := header_of_plainCount frameType frameId payloadLength (by omega)
    rw [hone] at hlen
    have hn : (0x7E7D : UInt16).toNat = 0x7E7D := rfl
    exact ⟨by omega, rfl, rfl, rfl, by omega,
      plainCount_eq_zero.mp (by omega), plainCount_eq_zero.mp (by omega)⟩
  · intro hcond
    obtain ⟨hsize, hlength, hlongest⟩ := hcond
    obtain ⟨rfl, rfl, hn, hpayload, hcrc⟩ := hlongest
    subst hsize hlength
    rw [hone, plainCount_eq_zero.mpr hpayload, plainCount_eq_zero.mpr hcrc] at hlen
    omega

/-- **The frame fits, but for one size.** -/
theorem generateFrame_length_le (h0 : 0 ≤ bufferSize) (hsize : bufferSize ≠ 64782) :
    (generateFrame calculate bufferSize frameType frameId payload payloadLength rndByte).length
      ≤ bufferSize := by
  by_cases h : 2 * (10 + payloadLength.toNat) ≤ bufferSize
  · exact not_lt.mp fun hover => hsize ((generateFrame_overruns _ _ _ _ _ h).mp hover).1
  · rw [generateFrame, if_pos (by omega)]
    exact h0

/-- **`GenerateFrame` respects its buffer**, unless the buffer has 64782 bytes and all
bytes of the frame but one are escaped. -/
theorem generateFrame_respects_iff (bufferSize : Int) (frameType frameId : UInt16)
    (payload : List UInt8) (rndByte : UInt8) (hpayload : payload.length < 65536) :
    Respects bufferSize (generateFrame calculate bufferSize frameType frameId payload
      (UInt16.ofNat payload.length) rndByte) ↔
    ¬ (bufferSize = 64782 ∧ Longest frameType frameId payload) := by
  have hn : (UInt16.ofNat payload.length).toNat = payload.length := by
    rw [UInt16.toNat_ofNat']
    omega
  by_cases h : 2 * (10 + (UInt16.ofNat payload.length).toNat) ≤ bufferSize
  · have hover := generateFrame_overruns frameType frameId payload _ rndByte h
    have hne := generateFrame_ne_nil frameType frameId payload _ rndByte h
    rw [hn, List.take_length] at hover
    constructor
    · intro hrespects
      rcases hrespects with hnil | ⟨-, hle⟩
      · exact absurd hnil hne
      · intro hcond
        obtain ⟨hsize, hlongest⟩ := hcond
        have hw : UInt16.ofNat payload.length = 0x7E7D := by
          rw [hlongest.payload_length]
          rfl
        exact not_lt.mpr hle (hover.mpr ⟨hsize, hw, hlongest⟩)
    · intro hcond
      have hle := not_lt.mp fun hlt => hcond ⟨(hover.mp hlt).1, (hover.mp hlt).2.2⟩
      exact Or.inr ⟨fun position hp => by omega, hle⟩
  · rw [generateFrame, if_pos (by omega)]
    refine iff_of_true (Or.inl rfl) ?_
    intro hcond
    obtain ⟨hsize, hlongest⟩ := hcond
    have := hlongest.payload_length
    omega

/-- A `Command` in the smallest buffer it is accepted for, with two bytes that are escaped: of its 26
bytes the frame takes 17. -/
theorem generateFrame_respects_escapes :
    Respects 26 (generateFrame calculate 26 FramesTypes.command.code 1 [0x7E, 0x41, 0x7D] 3 0) ∧
      (generateFrame calculate 26 FramesTypes.command.code 1 [0x7E, 0x41, 0x7D] 3 0).length = 17 :=
  ⟨(generateFrame_respects_iff 26 FramesTypes.command.code 1 [0x7E, 0x41, 0x7D] 0 (by decide)).mpr
    fun h => absurd h.1 (by decide), by decide +kernel⟩

/-! A payload of escaped bytes alone with the CRC `0x7E7E`: a word with the CRC `0`
over and over, and an end. -/

def cycle : List UInt8 :=
  [0x7E, 0x7E, 0x7E, 0x7D, 0x7D, 0x7D, 0x7D, 0x7D, 0x7D, 0x7E, 0x7D, 0x7E, 0x7E, 0x7D]

def ending : List UInt8 :=
  [0x7E, 0x7E, 0x7D, 0x7D, 0x7D, 0x7D, 0x7D, 0x7D, 0x7E, 0x7D, 0x7E, 0x7E, 0x7D]

def escapedPayload : List UInt8 := (List.replicate 2312 cycle).flatten ++ ending

/-- The word leaves the CRC at zero, however often it comes. -/
theorem foldl_cycle (n : Nat) : (List.replicate n cycle).flatten.foldl crcByte 0 = 0 := by
  induction n with
  | zero => rfl
  | succ n ih =>
    rw [List.replicate_succ, List.flatten_cons, List.foldl_append,
      show cycle.foldl crcByte 0 = 0 by decide, ih]

/-- The payload is one of the longest. -/
theorem longest_escapedPayload : Longest 0x337D 0x7E7D escapedPayload where
  frameType_eq := rfl
  frameId_eq := rfl
  payload_length := by
    rw [escapedPayload, List.length_append, List.length_flatten, List.map_replicate,
      List.sum_replicate]
    rfl
  payload_escaped := by
    intro b hb
    rcases List.mem_append.mp hb with hb | hb
    · obtain ⟨w, hw, hbw⟩ := List.mem_flatten.mp hb
      rw [List.eq_of_mem_replicate hw] at hbw
      exact plainCount_eq_zero.mp (show plainCount cycle = 0 by decide) b hbw
    · exact plainCount_eq_zero.mp (show plainCount ending = 0 by decide) b hb
  crc_escaped := by
    have hcrc : calculate escapedPayload = 0x7E7E := by
      rw [calculate_eq, escapedPayload, List.foldl_append, foldl_cycle]
      decide
    rw [crcBytes, hcrc]
    exact plainCount_eq_zero.mp (by decide)

/-- One byte too many for a buffer of 64782. -/
theorem generateFrame_escapedPayload :
    (generateFrame calculate 64782 0x337D 0x7E7D escapedPayload
        (UInt16.ofNat escapedPayload.length) 0).length = 64783 ∧
    ¬ Respects 64782 (generateFrame calculate 64782 0x337D 0x7E7D escapedPayload
        (UInt16.ofNat escapedPayload.length) 0) := by
  have hw : UInt16.ofNat escapedPayload.length = 0x7E7D := by
    rw [longest_escapedPayload.payload_length]
    rfl
  have htake : escapedPayload.take (0x7E7D : UInt16).toNat = escapedPayload :=
    List.take_of_length_le longest_escapedPayload.payload_length.le
  rw [hw]
  have hlen : (generateFrame calculate 64782 0x337D 0x7E7D escapedPayload 0x7E7D 0).length
      = 64783 := by
    have hsum := generateFrame_length 0x337D 0x7E7D escapedPayload 0x7E7D 0
      (show 2 * (10 + ((0x7E7D : UInt16).toNat : Int)) ≤ 64782 by decide)
    rw [plainCount_rawBytes, htake, longest_escapedPayload.payload_length,
      plainCount_eq_zero.mpr longest_escapedPayload.payload_escaped,
      plainCount_eq_zero.mpr longest_escapedPayload.crc_escaped,
      show plainCount (headerBytes calculate 0x337D 0x7E7D 0x7E7D) = 1 by decide] at hsum
    omega
  refine ⟨hlen, ?_⟩
  intro hrespects
  rcases hrespects with hnil | ⟨-, hle⟩
  · rw [hnil, List.length_nil] at hlen
    omega
  · rw [hlen] at hle
    omega

end Solarbot.Link
