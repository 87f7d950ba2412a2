import Solarbot.Lib.CyclicCodes
import Solarbot.Link.Acceptance
import Solarbot.Link.FrameBounds

/-!
# Damaged frames of the command link

`CRC16::calculate` works with a table, a byte at a time. What it computes is the remainder of the
text, behind which 16 places are free, modulo `X^16 + X^15 + X^2 + 1` (`calculate_remainder`). So a
header or a payload with its CRC is a word of a cyclic code, whatever the order of the two bytes of
the CRC, and two of them differ in four bits at least (`checked_distance`).

What `DecodeFrame` returns true for is a frame: the bytes since the mark, unescaped, are a header
and a payload with their CRCs (`feed_frames`). So a frame that was damaged in up to three bits is
never taken for another (`flipped_bits_rejected`).
-/

namespace Solarbot.Link

open ByteStuffing CyclicCodes Polynomial

/-! ## The CRC is a remainder -/

/-- `X^16 + X^15 + X^2 + 1`. -/
def generator : Nat := 0x18005

/-- It generates a code with sixteen bits of redundancy. -/
theorem generator_generates : Generates 16 generator where
  high := by norm_num [generator]
  below := by norm_num [generator]
  low := rfl

/-- The polynomial of the CRC. -/
theorem poly_generator : poly generator = X ^ 16 + (X ^ 15 + (X ^ 2 + 1)) := by
  have hbits : generator = 1 * 2 ^ 16 ^^^ (1 * 2 ^ 15 ^^^ (1 * 2 ^ 2 ^^^ 1)) := rfl
  rw [hbits, poly_xor, poly_xor, poly_xor, poly_mul_two_pow, poly_mul_two_pow, poly_mul_two_pow,
    poly_one, one_mul, one_mul, one_mul]

/-- It has an even number of terms, so that one is a root. -/
theorem generator_root : (poly generator).IsRoot 1 := by
  rw [IsRoot, poly_generator]
  simp only [eval_add, eval_pow, eval_X, eval_one, one_pow]
  rfl

/-- The entries of the table are eight steps of the register. -/
theorem crc16Table_eq : ∀ k < 256,
    (crc16Table.getD k 0).toNat = (mulX 16 generator)^[8] (k * 2 ^ 8) := by
  decide +kernel

/-- The CRC goes on byte by byte. -/
theorem calculate_concat (bs : List UInt8) (b : UInt8) :
    calculate (bs ++ [b]) = crcByte (calculate bs) b := by
  rw [calculate_eq, calculate_eq, List.foldl_append]
  rfl

/-- A byte of the loop: the upper half of the CRC goes through the register. -/
theorem crcByte_steps (crc : UInt16) (b : UInt8) : (crcByte crc b).toNat =
    crc.toNat % 2 ^ 8 * 2 ^ 8 ^^^
      (mulX 16 generator)^[8] ((crc.toNat / 2 ^ 8 ^^^ b.toNat) * 2 ^ 8) := by
  have hcrc := crc.toNat_lt
  have hb := b.toNat_lt
  have hhigh : crc.toNat / 2 ^ 8 < 2 ^ 8 := by omega
  have hindex : (((crc >>> 8) ^^^ b.toUInt16) &&& (0x00FF : UInt16)).toNat =
      crc.toNat / 2 ^ 8 ^^^ b.toNat := by
    rw [UInt16.toNat_and, UInt16.toNat_xor, UInt16.toNat_shiftRight, UInt8.toNat_toUInt16,
      show (0x00FF : UInt16).toNat = 2 ^ 8 - 1 by rfl, Nat.and_two_pow_sub_one_eq_mod,
      show (8 : UInt16).toNat % 16 = 8 by rfl, Nat.shiftRight_eq_div_pow]
    exact Nat.mod_eq_of_lt (Nat.xor_lt_two_pow hhigh hb)
  have hshift : (crc <<< 8).toNat = crc.toNat % 2 ^ 8 * 2 ^ 8 := by
    rw [UInt16.toNat_shiftLeft, show (8 : UInt16).toNat % 16 = 8 by rfl, Nat.shiftLeft_eq]
    omega
  rw [crcByte, UInt16.toNat_xor, hindex, hshift, crc16Table_eq _ (Nat.xor_lt_two_pow hhigh hb)]

/-- **One byte**: eight more places, the byte in front of the free ones, and the new CRC. -/
theorem dvd_crcByte (crc : UInt16) (b : UInt8) : poly generator ∣
    poly crc.toNat * X ^ 8 + poly b.toNat * X ^ 16 + poly (crcByte crc b).toNat := by
  have htable := dvd_mulX_iterate 16 generator ((crc.toNat / 2 ^ 8 ^^^ b.toNat) * 2 ^ 8) 8
  rw [poly_mul_two_pow, poly_xor] at htable
  have hdouble := add_self (poly (crc.toNat % 2 ^ 8) * X ^ 8)
  have heq : poly crc.toNat * X ^ 8 + poly b.toNat * X ^ 16 + poly (crcByte crc b).toNat =
      X ^ 8 * ((poly (crc.toNat / 2 ^ 8) + poly b.toNat) * X ^ 8) +
        poly ((mulX 16 generator)^[8] ((crc.toNat / 2 ^ 8 ^^^ b.toNat) * 2 ^ 8)) +
        (poly (crc.toNat % 2 ^ 8) * X ^ 8 + poly (crc.toNat % 2 ^ 8) * X ^ 8) := by
    rw [crcByte_steps, poly_xor, poly_mul_two_pow, poly_div_mod crc.toNat 8]
    ring
  rw [heq, hdouble, add_zero]
  exact htable

/-- The polynomial of some bytes, the first at the top. -/
noncomputable def text (bs : List UInt8) : (ZMod 2)[X] := word 8 (bs.map UInt8.toNat)

/-- A byte more in the polynomial of a text. -/
theorem text_concat (bs : List UInt8) (b : UInt8) :
    text (bs ++ [b]) = text bs * X ^ 8 + poly b.toNat := by
  rw [text, List.map_append]
  exact word_concat ..

/-- A text and its CRC are a multiple of the generator. -/
theorem dvd_calculate (bs : List UInt8) :
    poly generator ∣ text bs * X ^ 16 + poly (calculate bs).toNat := by
  induction bs using List.reverseRecOn with
  | nil =>
    have hnil : text [] * X ^ 16 + poly (calculate []).toNat = 0 := by
      rw [show text [] = 0 by rfl, zero_mul, zero_add]
      rfl
    rw [hnil]
    exact dvd_zero _
  | append_singleton bs b ih =>
    have hdouble := add_self (poly (calculate bs).toNat * X ^ 8)
    have heq : text (bs ++ [b]) * X ^ 16 + poly (calculate (bs ++ [b])).toNat +
        (poly (calculate bs).toNat * X ^ 8 + poly (calculate bs).toNat * X ^ 8) =
        (text bs * X ^ 16 + poly (calculate bs).toNat) * X ^ 8 +
          (poly (calculate bs).toNat * X ^ 8 + poly b.toNat * X ^ 16 +
            poly (crcByte (calculate bs) b).toNat) := by
      rw [text_concat, calculate_concat]
      ring
    rw [hdouble, add_zero] at heq
    rw [heq]
    exact dvd_add (ih.mul_right _) (dvd_crcByte _ b)

/-- **What the CRC is.** -/
theorem calculate_remainder (bs : List UInt8) :
    poly (calculate bs).toNat = (text bs * X ^ 16) %ₘ poly generator :=
  generator_generates.remainder (calculate bs).toNat_lt (dvd_calculate bs)

/-! ## The distance of two texts -/

/-- In how many bits two texts differ. -/
def bitErrors (as bs : List UInt8) : Nat :=
  (as.zipWith (fun a b => ones 8 (a.toNat ^^^ b.toNat)) bs).sum

/-- A text with its CRC behind it. -/
def checked (bs : List UInt8) : List UInt8 := bs ++ crcBytes bs

/-- Errors are counted part by part. -/
theorem bitErrors_append {as bs cs ds : List UInt8} (h : as.length = bs.length) :
    bitErrors (as ++ cs) (bs ++ ds) = bitErrors as bs + bitErrors cs ds := by
  rw [bitErrors, List.zipWith_append h, List.sum_append]
  rfl

/-- A text has no errors against itself. -/
theorem bitErrors_self (bs : List UInt8) : bitErrors bs bs = 0 := by
  induction bs with
  | nil => rfl
  | cons b bs ih =>
    have hcons : bitErrors (b :: bs) (b :: bs) = ones 8 (b.toNat ^^^ b.toNat) + bitErrors bs bs :=
      List.sum_cons
    rw [hcons, ih, Nat.xor_self]
    rfl

/-- The bits of a word are those of its bytes. -/
theorem ones_word {a b : Nat} : ones 16 (a ^^^ b) =
    ones 8 (a % 256 ^^^ b % 256) + ones 8 (a / 256 ^^^ b / 256) := by
  have hrange : List.range 16 = List.range 8 ++ (List.range 8).map (· + 8) := by decide
  have hlow : ∀ i ∈ List.range 8,
      (a ^^^ b).testBit i = true ↔ (a % 256 ^^^ b % 256).testBit i = true := by
    intro i hi
    have hi := List.mem_range.mp hi
    rw [Nat.testBit_xor, Nat.testBit_xor, show 256 = 2 ^ 8 by rfl, Nat.testBit_mod_two_pow,
      Nat.testBit_mod_two_pow]
    simp [hi]
  have hhigh : ∀ i ∈ List.range 8, ((fun i => (a ^^^ b).testBit i) ∘ (· + 8)) i = true ↔
      (a / 256 ^^^ b / 256).testBit i = true := by
    intro i _
    rw [Function.comp_apply, Nat.testBit_xor, Nat.testBit_xor, show 256 = 2 ^ 8 by rfl,
      Nat.testBit_div_two_pow, Nat.testBit_div_two_pow]
  rw [ones, hrange, List.countP_append, List.countP_map, List.countP_congr hlow,
    List.countP_congr hhigh]
  rfl

/-- The order of the two bytes makes no difference. -/
theorem bitErrors_crc (a b : UInt16) : bitErrors [loByte a, hiByte a] [loByte b, hiByte b] =
    ones 16 (a.toNat ^^^ b.toNat) := by
  have hlo : ∀ w : UInt16, (loByte w).toNat = w.toNat % 256 := by
    intro w
    rw [loByte, UInt8.toNat_ofNat']
    omega
  have hhi : ∀ w : UInt16, (hiByte w).toNat = w.toNat / 256 := by
    intro w
    have hw := w.toNat_lt
    rw [hiByte, UInt8.toNat_ofNat']
    omega
  rw [ones_word, ← hlo, ← hlo, ← hhi, ← hhi]
  rfl

/-- The register passes through `n` more values without a one. -/
def passes : Nat → Nat → Bool
  | 0, _ => true
  | n + 1, r => mulX 16 generator r != 1 && passes n (mulX 16 generator r)

/-- A search that passes has seen no power of `X` return to one. -/
theorem passes_iterate : ∀ {n r : Nat}, passes n r = true → ∀ i, 0 < i → i ≤ n →
    (mulX 16 generator)^[i] r ≠ 1
  | 0, _, _, _, hpos, hle => absurd hle (by omega)
  | n + 1, r, h, i, hpos, hle => by
    obtain ⟨hne, hrest⟩ := Bool.and_eq_true_iff.mp h
    cases i with
    | zero => exact absurd hpos (lt_irrefl 0)
    | succ i =>
      rw [Function.iterate_succ_apply]
      rcases Nat.eq_zero_or_pos i with rfl | hi
      · exact bne_iff_ne.mp hne
      · exact passes_iterate hrest i hi (by omega)

/-- The bits of the longest payload and its CRC. -/
abbrev codeLength : Nat := 8 * 1014 + 16

/-- Below the length of the code no power of `X` is one. -/
theorem generator_noReturn : NoReturn 16 generator codeLength := by
  have hpasses : passes codeLength 1 = true := by decide +kernel
  intro n hpos hlt
  exact passes_iterate hpasses n hpos hlt.le

/-- The flipped bits, byte by byte. -/
def flips (as bs : List UInt8) : List Nat := as.zipWith (fun a b => a.toNat ^^^ b.toNat) bs

theorem flips_symbols (as bs : List UInt8) : Symbols 8 (flips as bs) := by
  intro n hn
  rw [flips] at hn
  obtain ⟨i, hi, rfl⟩ := List.getElem_of_mem hn
  rw [List.getElem_zipWith]
  exact Nat.xor_lt_two_pow (UInt8.toNat_lt _) (UInt8.toNat_lt _)

theorem flips_length {as bs : List UInt8} (h : as.length = bs.length) :
    (flips as bs).length = as.length := by
  rw [flips, List.length_zipWith, h, min_self]

/-- The errors are the bits that are flipped. -/
theorem bitErrors_flips (as bs : List UInt8) :
    bitErrors as bs = ((flips as bs).map (ones 8)).sum := by
  rw [bitErrors, flips, List.map_zipWith]

/-- Texts of one length without a flipped bit are the same. -/
theorem eq_of_flips {as bs : List UInt8} (hlen : as.length = bs.length)
    (h : ∀ n ∈ flips as bs, n = 0) : as = bs := by
  refine List.ext_getElem hlen fun i hi hi' => ?_
  have hmem : as[i].toNat ^^^ bs[i].toNat ∈ flips as bs :=
    List.mem_iff_getElem.mpr
      ⟨i, (flips_length hlen).symm ▸ hi, List.getElem_zipWith⟩
  exact UInt8.toNat.inj (Nat.xor_eq_zero_iff.mp (h _ hmem))

/-- What two texts with their CRCs differ in, as one polynomial. -/
noncomputable def difference (as bs : List UInt8) : (ZMod 2)[X] :=
  word 8 (flips as bs) * X ^ 16 + poly ((calculate as).toNat ^^^ (calculate bs).toNat)

section Difference

variable {as bs : List UInt8}

theorem crc_xor_lt (as bs : List UInt8) :
    (calculate as).toNat ^^^ (calculate bs).toNat < 2 ^ 16 :=
  Nat.xor_lt_two_pow (calculate as).toNat_lt (calculate bs).toNat_lt

/-- The difference of two words of the code is one. -/
theorem dvd_difference (hlen : as.length = bs.length) : poly generator ∣ difference as bs := by
  have hsum : text as + text bs = word 8 (flips as bs) := by
    rw [flips, ← List.zipWith_map (f := (· ^^^ ·))]
    exact word_add (by simpa using hlen)
  have heq : difference as bs = (text as * X ^ 16 + poly (calculate as).toNat) +
      (text bs * X ^ 16 + poly (calculate bs).toNat) := by
    rw [difference, poly_xor, ← hsum]
    ring
  rw [heq]
  exact dvd_add (dvd_calculate as) (dvd_calculate bs)

/-- The difference of two checked texts has a term for each error. -/
theorem difference_weight (hlen : as.length = bs.length) :
    weight (difference as bs) = bitErrors (checked as) (checked bs) := by
  have hcrc := crc_xor_lt as bs
  rw [difference, weight_append (poly_degree_lt hcrc), word_weight (flips_symbols as bs),
    weight_poly hcrc, checked, checked, bitErrors_append hlen, crcBytes, crcBytes, bitErrors_crc,
    bitErrors_flips]

/-- The difference is no longer than the code. -/
theorem difference_degree_lt (hlen : as.length = bs.length) (hmax : as.length ≤ 1014) :
    (difference as bs).degree < ((codeLength : Nat) : WithBot Nat) := by
  refine (append_degree_lt (word_degree_lt (flips_symbols as bs))
    (poly_degree_lt (crc_xor_lt as bs))).trans_le ?_
  have hcount := flips_length hlen
  have hcode : codeLength = 8 * 1014 + 16 := rfl
  exact_mod_cast (by omega : 8 * (flips as bs).length + 16 ≤ codeLength)

/-- **The distance of two texts with their CRCs is four**, up to the longest payload. -/
theorem checked_distance (hlen : as.length = bs.length) (hmax : as.length ≤ 1014)
    (h : bitErrors (checked as) (checked bs) ≤ 3) : as = bs := by
  -- with three terms at most there is none
  have hnone : difference as bs = 0 := by
    by_contra hne
    have hfour := four_le_weight generator_generates (by norm_num) generator_root
      generator_noReturn (dvd_difference hlen) (difference_degree_lt hlen hmax) hne
    rw [difference_weight hlen] at hfour
    omega
  have hsplit : weight (difference as bs) = weight (word 8 (flips as bs)) + weight _ :=
    weight_append (poly_degree_lt (crc_xor_lt as bs))
  have hzero : weight (word 8 (flips as bs)) = 0 := by
    rw [hnone] at hsplit
    exact Nat.eq_zero_of_add_eq_zero_right hsplit.symm
  exact eq_of_flips hlen (word_eq_zero (flips_symbols as bs) (eq_zero_of_weight hzero))

end Difference

/-! ## What is returned true for is a frame -/

/-- The bytes of a frame before escaping. -/
def IsRaw (crc : List UInt8 → UInt16) (raw : List UInt8) : Prop :=
  ∃ frameType frameId payloadLength payload, List.length payload = UInt16.toNat payloadLength ∧
    payload.length ≤ 1014 ∧ raw = headerBytes crc frameType frameId payloadLength ++
      (payload ++ [loByte (crc payload), hiByte (crc payload)])

namespace Frame

variable {crc : List UInt8 → UInt16} {f : Frame} {stored wire : List UInt8} {pending : Bool}
  {a : UInt8}

/-- The buffer holds these bytes, up to the index. -/
structure Holds (stored : List UInt8) (f : Frame) : Prop where
  index : f.frameBufferIndex = stored.length
  buf : ∀ i < stored.length, f.frameBuffer.toList[i]? = stored[i]?

/-- What the buffer holds is what was stored. -/
theorem Holds.bytes_eq (h : Holds stored f) {i n : Nat} (hn : i + n ≤ stored.length) :
    f.bytes i n = (stored.drop i).take n := by
  have hprefix : Prefix stored stored.length { f with decoding := true, escaping := false } :=
    ⟨h.index, rfl, rfl, h.buf⟩
  exact hprefix.bytes_eq hn

/-- The tests on the index leave the buffer, the index and the escape. -/
theorem afterStore_same (h : f.frameBufferIndex < frameBufferSize) :
    (f.afterStore crc h).1.frameBuffer = f.frameBuffer ∧
      (f.afterStore crc h).1.frameBufferIndex = f.frameBufferIndex ∧
      (f.afterStore crc h).1.escaping = f.escaping := by
  unfold afterStore decodeHeader checkPayload
  dsimp only
  split
  · split <;> exact ⟨rfl, rfl, rfl⟩
  · split
    · split
      · split <;> exact ⟨rfl, rfl, rfl⟩
      · exact ⟨rfl, rfl, rfl⟩
    · exact ⟨rfl, rfl, rfl⟩

/-- They are passed at the end of the payload only. -/
theorem afterStore_true (h : f.frameBufferIndex < frameBufferSize)
    (htrue : (f.afterStore crc h).2 = true) :
    f.frameBufferIndex = (f.afterStore crc h).1.rxPayloadLength.toNat + 9 := by
  unfold afterStore at htrue ⊢
  split at htrue
  next => exact absurd htrue Bool.false_ne_true
  next h7 =>
    rw [if_neg h7]
    split at htrue
    next h7' =>
      rw [if_pos h7']
      split at htrue
      next hend =>
        rw [dif_pos hend]
        unfold checkPayload
        dsimp only
        split <;> exact hend
      next => exact absurd htrue Bool.false_ne_true
    next => exact absurd htrue Bool.false_ne_true

/-- One byte more is stored behind the others. -/
theorem storeByte_holds (h : Holds stored f) (hlt : f.frameBufferIndex < frameBufferSize) :
    Holds (stored ++ [a]) (f.storeByte crc a).1 ∧ (f.storeByte crc a).1.escaping = f.escaping := by
  obtain ⟨hbuf, hindex, hescaping⟩ := @afterStore_same crc (f.put a hlt) hlt
  rw [storeByte, dif_pos hlt]
  refine ⟨⟨?_, ?_⟩, hescaping⟩
  · show ((f.put a hlt).afterStore crc hlt).1.frameBufferIndex + 1 = _
    rw [hindex, List.length_append]
    exact congrArg (· + 1) h.index
  · intro i hi
    show ((f.put a hlt).afterStore crc hlt).1.frameBuffer.toList[i]? = _
    rw [List.length_append, List.length_singleton] at hi
    rw [hbuf, put, Vector.toList_set, List.getElem?_set, h.index]
    split
    next heq =>
      rw [← heq, List.getElem?_concat_length, if_pos]
      rw [Vector.length_toList, ← h.index]
      exact hlt
    next hne =>
      rw [h.buf i (by omega), List.getElem?_append_left (by omega)]

/-- What is accepted at the end of its payload is a frame. -/
theorem Accepted.isRaw (hf : f.Accepted crc) (h : Holds stored f)
    (hend : f.frameBufferIndex = f.rxPayloadLength.toNat + 10) : IsRaw crc stored := by
  have hlen : stored.length = f.rxPayloadLength.toNat + 10 := h.index.symm.trans hend
  have hpayload : (f.bytes 8 f.rxPayloadLength.toNat).length = f.rxPayloadLength.toNat := by
    rw [h.bytes_eq (by omega), List.length_take, List.length_drop]
    omega
  refine ⟨f.rxFrameType, f.rxFrameId, f.rxPayloadLength, f.bytes 8 f.rxPayloadLength.toNat,
    hpayload, hpayload.le.trans hf.length_le, ?_⟩
  rw [← hf.header, ← hf.payload, h.bytes_eq (by omega), h.bytes_eq (by omega),
    h.bytes_eq (by omega), List.drop_zero]
  have hlast : (stored.drop (8 + f.rxPayloadLength.toNat)).take 2 =
      stored.drop (8 + f.rxPayloadLength.toNat) :=
    List.take_of_length_le (by rw [List.length_drop]; omega)
  rw [hlast, ← List.drop_drop, List.take_append_drop, List.take_append_drop]

/-- A decoder in a frame holds what the bytes since the mark stand for. -/
def Tracks (pending : Bool) (wire : List UInt8) (f : Frame) : Prop :=
  f.decoding = true →
    (unstuff linkCode pending wire).2 = f.escaping ∧ Holds (unstuff linkCode pending wire).1 f

/-- A byte that is stored. -/
theorem storeByte_tracks (hs : f.Sound crc) (hd : f.decoding = true) (h : Holds stored f)
    (hescaping : f.escaping = false) :
    ((f.storeByte crc a).1.decoding = true → false = (f.storeByte crc a).1.escaping ∧
      Holds (stored ++ [a]) (f.storeByte crc a).1) ∧
      ((f.storeByte crc a).2 = true → IsRaw crc (stored ++ [a])) := by
  by_cases hlt : f.frameBufferIndex < frameBufferSize
  · obtain ⟨hholds, hsame⟩ := @storeByte_holds crc f stored a h hlt
    refine ⟨fun _ => ⟨(hsame.trans hescaping).symm, hholds⟩, fun htrue => ?_⟩
    refine ((storeByte_sound hs hd a).2 htrue).1.isRaw hholds ?_
    rw [storeByte, dif_pos hlt] at htrue ⊢
    obtain ⟨-, hindex, -⟩ := @afterStore_same crc (f.put a hlt) hlt
    have hend := @afterStore_true crc (f.put a hlt) hlt htrue
    exact congrArg (· + 1) (hindex.trans hend)
  · rw [storeByte, dif_neg hlt]
    exact ⟨fun h => absurd h Bool.false_ne_true, fun h => absurd h Bool.false_ne_true⟩

/-- **One byte behind the mark.** -/
theorem decodeFrame_tracks (hs : f.Sound crc) (h : Tracks pending wire f) (ha : a ≠ 0x7E) :
    Tracks pending (wire ++ [a]) (f.decodeFrame crc a).1 ∧
      ((f.decodeFrame crc a).2 = true →
        IsRaw crc (unstuff linkCode pending (wire ++ [a])).1) := by
  unfold decodeFrame
  rw [if_neg ha]
  split
  next hd =>
    obtain ⟨hpending, hholds⟩ := h hd
    by_cases hesc : a = 0x7D
    · have hwire : unstuff linkCode pending (wire ++ [a]) =
          ((unstuff linkCode pending wire).1, true) := by
        rw [unstuff_append, hesc, show (0x7D : UInt8) = linkCode.esc from rfl, unstuff_esc]
        simp [unstuff]
      rw [if_pos hesc]
      refine ⟨fun _ => ?_, fun h => absurd h Bool.false_ne_true⟩
      rw [hwire]
      exact ⟨rfl, ⟨hholds.index, hholds.buf⟩⟩
    · have hwire : unstuff linkCode pending (wire ++ [a]) = ((unstuff linkCode pending wire).1 ++
          [if f.escaping then a ^^^ 0x20 else a], false) := by
        rw [unstuff_append, unstuff_cons linkCode hesc, hpending]
        rfl
      rw [if_neg hesc, Tracks, hwire]
      cases hescaping : f.escaping with
      | true =>
        exact storeByte_tracks (f := { f with escaping := false }) hs hd
          ⟨hholds.index, hholds.buf⟩ rfl
      | false => exact storeByte_tracks hs hd hholds hescaping
  next hd => exact ⟨fun h => absurd h hd, fun h => absurd h Bool.false_ne_true⟩

/-- **A frame is reported behind a frame.** When one of the calls returns true, the bytes behind the
mark, up to that of the call, stand for a frame. -/
theorem feed_frames : ∀ {as wire : List UInt8} {f : Frame}, f.Sound crc → Tracks pending wire f →
    0x7E ∉ as → true ∈ (feed (decodeFrame crc) f as).2 →
      ∃ front, front <+: as ∧ IsRaw crc (unstuff linkCode pending (wire ++ front)).1
  | [], _, _, _, _, _, htrue => absurd htrue List.not_mem_nil
  | a :: as, wire, f, hs, h, hmark, htrue => by
    have ha : a ≠ 0x7E := fun heq => hmark (heq ▸ List.mem_cons_self ..)
    obtain ⟨htracks, hraw⟩ := decodeFrame_tracks (a := a) hs h ha
    rw [feed_cons] at htrue
    rcases List.mem_cons.mp htrue with hnow | hlater
    · exact ⟨[a], List.prefix_append [a] as, hraw hnow.symm⟩
    · obtain ⟨front, hfront, hlast⟩ := feed_frames (decodeFrame_sound hs a).1 htracks
        (fun hmem => hmark (List.mem_cons_of_mem a hmem)) hlater
      refine ⟨a :: front, List.cons_prefix_cons.mpr ⟨rfl, hfront⟩, ?_⟩
      rwa [List.append_assoc] at hlast

end Frame

/-! ## Damage -/

/-- The length in a header. -/
theorem headerFields_payloadLength {a b c a' b' c' : UInt16}
    (h : headerFields a b c = headerFields a' b' c') : c = c' := by
  unfold headerFields at h
  simp only [List.cons.injEq, and_true] at h
  rw [← le16_lo_hi c, ← le16_lo_hi c', h.2.2.2.2.1, h.2.2.2.2.2]

/-- The damage of a frame is that of its header and that of its payload. -/
theorem bitErrors_raw (t : TxFrame) {raw : List UInt8}
    (hlen : raw.length = (t.raw calculate).length) : bitErrors (t.raw calculate) raw =
      bitErrors (headerBytes calculate t.frameType t.frameId t.payloadLength) (raw.take 8) +
        bitErrors (checked t.payload) (raw.drop 8) := by
  have hraw := t.raw_length calculate
  conv_lhs => rw [← List.take_append_drop 8 raw]
  refine bitErrors_append ?_
  rw [TxFrame.headerBytes_length, List.length_take]
  omega

/-- A frame in front of what arrives of another, damaged in three bits at most, is that frame, and
there is no damage. -/
theorem undamaged {t : TxFrame} {raw rest front : List UInt8}
    (hlen : raw.length = (t.raw calculate).length)
    (h : bitErrors (t.raw calculate) raw ≤ 3) (hraw : IsRaw calculate front)
    (hfront : front <+: raw ++ rest) : bitErrors (t.raw calculate) raw = 0 := by
  obtain ⟨frameType, frameId, payloadLength, payload, hpayload, hmax, rfl⟩ := hraw
  have hraw := t.raw_length calculate
  have hheader := TxFrame.headerBytes_length calculate
  have hsplit := bitErrors_raw t hlen
  -- the header is a frame's, so it is the header that was sent
  have htake : raw.take 8 = headerBytes calculate frameType frameId payloadLength := by
    obtain ⟨r, hr⟩ := hfront
    have heq := congrArg (List.take 8) hr
    rw [List.append_assoc, List.take_left' (hheader ..),
      List.take_append_of_le_length (by omega)] at heq
    exact heq.symm
  have hfields : headerFields t.frameType t.frameId t.payloadLength =
      headerFields frameType frameId payloadLength := by
    refine checked_distance rfl (show 6 ≤ 1014 by norm_num) ?_
    show bitErrors (headerBytes calculate t.frameType t.frameId t.payloadLength)
      (headerBytes calculate frameType frameId payloadLength) ≤ 3
    rw [← htake]
    omega
  have hlength : t.payload.length = payload.length := by
    rw [hpayload, ← headerFields_payloadLength hfields, t.payloadLength_toNat]
  -- so the frame ends where the other did
  have hall : raw = headerBytes calculate frameType frameId payloadLength ++ checked payload := by
    refine ((List.prefix_of_prefix_length_le (List.prefix_append raw rest) hfront ?_).eq_of_length
      ?_)
    · rw [List.length_append, hheader, List.length_append]
      simp only [List.length_cons, List.length_nil]
      omega
    · rw [List.length_append, hheader, List.length_append]
      simp only [List.length_cons, List.length_nil]
      omega
  have hbehind : raw.drop 8 = checked payload := by
    rw [hall, List.drop_left' (hheader ..)]
  rw [hsplit, htake, hbehind] at h ⊢
  have hsame := checked_distance hlength t.payload_le (by omega)
  rw [hsame, headerBytes, headerBytes, hfields, bitErrors_self, bitErrors_self]

/-- **Three flipped bits are detected.** After any bytes, let what comes behind a mark stand for a
frame in which one, two or three bits are flipped, anywhere in header, payload and CRCs, and for
anything behind it. Then no call of `DecodeFrame` returns true before the next mark. -/
theorem flipped_bits_rejected (frameType frameId payloadLength : UInt16)
    (frameBuffer : Vector UInt8 frameBufferSize) (stream : List UInt8) {f : Frame}
    (hf : f = (feed (Frame.decodeFrame calculate)
      (.new frameType frameId payloadLength frameBuffer) stream).1)
    (t : TxFrame) {wire raw rest : List UInt8} (hmark : 0x7E ∉ wire)
    (hwire : (unstuff linkCode f.escaping wire).1 = raw ++ rest)
    (hlen : raw.length = (t.raw calculate).length)
    (hflipped : 1 ≤ bitErrors (t.raw calculate) raw ∧ bitErrors (t.raw calculate) raw ≤ 3) :
    true ∉ (feed (Frame.decodeFrame calculate) f (0x7E :: wire)).2 := by
  have hsound : f.Sound calculate :=
    hf ▸ Frame.feed_sound (Frame.new_sound frameType frameId payloadLength frameBuffer) stream
  obtain ⟨hstart, -⟩ := Frame.decodeFrame_sound hsound 0x7E
  have htracks : Frame.Tracks f.escaping [] (f.decodeFrame calculate 0x7E).1 :=
    fun _ => ⟨rfl, ⟨rfl, fun i hi => absurd hi (Nat.not_lt_zero i)⟩⟩
  intro htrue
  rw [feed_cons] at htrue
  have hlater : true ∈ (feed (Frame.decodeFrame calculate)
      (f.decodeFrame calculate 0x7E).1 wire).2 := by
    rcases List.mem_cons.mp htrue with hnow | hlater
    · exact absurd hnow.symm Bool.false_ne_true
    · exact hlater
  obtain ⟨front, hfront, hraw⟩ := Frame.feed_frames hstart htracks hmark hlater
  have hprefix : (unstuff linkCode f.escaping front).1 <+: raw ++ rest := by
    obtain ⟨r, rfl⟩ := hfront
    rw [← hwire, unstuff_append]
    exact List.prefix_append _ _
  have hzero := undamaged hlen hflipped.2 hraw hprefix
  omega

/-- A ping whose frame type has become one. -/
def flippedPing : List UInt8 := 1 :: ((TxFrame.ping 1 escape_ne_mark).raw calculate).tail

theorem flipped_bits_rejected_ping : true ∉ (feed (Frame.decodeFrame calculate)
    (.new 0 0 0 (Vector.replicate 1024 0)) (0x7E :: stuffAll linkCode flippedPing)).2 := by
  have herrors : bitErrors ((TxFrame.ping 1 escape_ne_mark).raw calculate) flippedPing = 1 := by
    decide +kernel
  have hwire : (unstuff linkCode false (stuffAll linkCode flippedPing)).1 = flippedPing ++ [] := by
    rw [unstuff_stuffAll, List.append_nil]
  refine flipped_bits_rejected 0 0 0 (Vector.replicate 1024 0) [] rfl
    (.ping 1 escape_ne_mark) (flag_notMem_stuffAll linkCode flippedPing) hwire rfl ?_
  omega

end Solarbot.Link
