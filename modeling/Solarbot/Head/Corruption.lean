import Solarbot.Head.Delivery
import Solarbot.Lib.Checksums

/-!
# Damaged frames of the head

One step of the CRC depends on the exclusive or of the CRC and the byte (`crcUpdate_xor`), and
no two of these give the same CRC. So it is injective in the CRC and in the byte, and the CRC of a
frame sees a single damaged byte. A receiver compares the CRC with what comes behind a
payload, so it does not take such a frame, when it is still a frame (`damaged_rejected`).
-/

namespace Solarbot.Head

open ByteStuffing Link Checksums

/-! ## CRC8 is injective -/

/-- The high nibble goes out. -/
theorem shift_shift (a t : UInt8) : (a <<< 4 ^^^ t) <<< 4 = t <<< 4 := by
  apply UInt8.toBitVec_inj.mp
  ext i hi
  have hbelow : i - 4 < 4 := by omega
  simp [hbelow]

/-- The second index is the low nibble of the byte and of what was left of the CRC. -/
theorem index_xor (a b t : UInt8) :
    ((a <<< 4 ^^^ t) >>> 4 ^^^ b) &&& (0x0F : UInt8) =
      (((a ^^^ b) <<< 4 ^^^ t) >>> 4 ^^^ 0) &&& (0x0F : UInt8) := by
  apply UInt8.toBitVec_inj.mp
  ext i hi
  interval_cases i
  all_goals simp
  all_goals exact bne_comm

theorem crcUpdate_xor (crc val : UInt8) : crcUpdate crc val = crcUpdate (crc ^^^ val) 0 := by
  unfold crcUpdate
  dsimp only
  rw [shift_shift, shift_shift, index_xor, UInt8.xor_zero (a := crc ^^^ val)]

/-- The index of the entry of `CRC8_Lookup` with this low nibble. -/
def lowIndex (low : UInt8) : UInt8 :=
  [0x0, 0xB, 0x6, 0xD, 0xC, 0x7, 0xA, 0x1, 0x8, 0x3, 0xE, 0x5, 0x4, 0xF, 0x2, 0x9].getD
    (low &&& 0x0F).toNat 0

/-- What the CRC was before an update with a zero. -/
def crcUndo (crc : UInt8) : UInt8 :=
  let low := lowIndex crc
  let high := lowIndex ((crc ^^^ crc8Lookup.getD low.toNat 0) >>> 4)
  (high <<< 4) ^^^ low ^^^ (crc8Lookup.getD high.toNat 0 >>> 4)

theorem crcUndo_crcUpdate : ∀ n < 256, crcUndo (crcUpdate (UInt8.ofNat n) 0) = UInt8.ofNat n := by
  decide +kernel

theorem crcUpdate_zero_injective : Function.Injective fun crc => crcUpdate crc 0 := by
  have hundo : ∀ crc, crcUndo (crcUpdate crc 0) = crc := by
    intro crc
    have h := crcUndo_crcUpdate crc.toNat crc.toNat_lt
    rwa [UInt8.ofNat_toNat] at h
  exact Function.LeftInverse.injective hundo

theorem crcUpdate_crc_injective (val : UInt8) : Function.Injective fun crc => crcUpdate crc val := by
  intro a b h
  dsimp only at h
  rw [crcUpdate_xor a, crcUpdate_xor b] at h
  exact UInt8.xor_left_inj val |>.mp (crcUpdate_zero_injective h)

theorem crcUpdate_val_injective (crc : UInt8) : Function.Injective (crcUpdate crc) := by
  intro a b h
  rw [crcUpdate_xor crc a, crcUpdate_xor crc b] at h
  exact UInt8.xor_right_inj crc |>.mp (crcUpdate_zero_injective h)

theorem getCRC_ne {i : Nat} {as bs : List UInt8} (h : DifferAt i as bs) : getCRC as ≠ getCRC bs :=
  foldl_ne_of_differAt crcUpdate_crc_injective crcUpdate_val_injective h crcInit

/-! ## The receiver -/

namespace Receiver

variable {r : Receiver} {n b : UInt8} {payload : List UInt8}

/-- The bytes of a frame with a wrong CRC, or some of them, are not taken. -/
theorem store_wrong (r : Receiver) {crc : UInt8} (hlen : payload.length = n.toNat)
    (hcrc : crc ≠ getCRC (n :: payload)) {stored : List UInt8}
    (hfront : stored ++ [b] <+: n :: payload ++ [crc]) :
    ((feed Receiver.store r.start stored).1.store b).2 ≠ .frame := by
  rw [Ne, store_frame_iff]
  rintro ⟨hphase, hlast, hequal⟩
  cases stored with
  | nil => exact hphase ⟨rfl, rfl⟩
  | cons m front =>
    have hcons : m :: (front ++ [b]) <+: n :: (payload ++ [crc]) := hfront
    obtain ⟨rfl, htail⟩ := List.cons_prefix_cons.mp hcons
    have hle : front.length + 1 ≤ payload.length + 1 := by
      simpa using htail.length_le
    obtain ⟨hstored, hin⟩ := feed_stored r (n := m) front (by omega)
    rcases Nat.lt_or_ge front.length m.toNat with hlt | hge
    · exact hstored.inner hin hlt hlast
    · -- the last byte is the CRC
      have hwhole : front ++ [b] = payload ++ [crc] :=
        htail.eq_of_length (by simp; omega)
      obtain ⟨rfl, hb⟩ := List.append_inj' hwhole rfl
      obtain rfl : b = crc := List.cons.inj hb |>.1
      exact hcrc (hequal.symm.trans hstored.crc)

/-- What the receiver does with a byte behind the mark. -/
theorem receive_behind_mark (r : Receiver) {after : List UInt8} (hflag : 0x7E ∉ after) {a : UInt8}
    (hmark : a ≠ 0x7E) (hesc : a ≠ 0x7D) :
    ((feed receive r (0x7E :: after)).1.receive a).2 =
      ((feed store r.start (unstuff linkCode false after).1).1.store
        (if (unstuff linkCode false after).2 then a ^^^ 0x20 else a)).2 := by
  have hplain : Plain (feed store r.start (unstuff linkCode false after).1).1 :=
    feed_plain (show Plain r.start from rfl) _
  have hunescapes := receive_unescapes hplain
  have hreserved : ¬ linkCode.Reserved a := fun h => h.elim hmark hesc
  rw [feed_behind_mark r hflag]
  cases (unstuff linkCode false after).2 with
  | true => exact congrArg Prod.snd (hunescapes.armed a hreserved)
  | false => exact congrArg Prod.snd (hunescapes.plain a hreserved)

/-- **No byte of a frame with a wrong CRC sets the flag.** -/
theorem receive_wrong (r : Receiver) {crc : UInt8} (hlen : payload.length = n.toNat)
    (hcrc : crc ≠ getCRC (n :: payload)) {wire after : List UInt8} {a : UInt8} (hflag : 0x7E ∉ wire)
    (hwire : (unstuff linkCode false wire).1 = n :: payload ++ [crc])
    (hfront : after ++ [a] <+: wire) :
    ((feed receive r (0x7E :: after)).1.receive a).2 ≠ .frame := by
  obtain ⟨rest, rfl⟩ := hfront
  have hafter : 0x7E ∉ after := fun h => hflag (by simp [h])
  have hmark : a ≠ 0x7E := fun h => hflag (by simp [h])
  by_cases hesc : a = 0x7D
  · have hidle : Signal.idle ≠ .frame := by decide
    rw [hesc, receive_esc]
    exact hidle
  · rw [receive_behind_mark r hafter hmark hesc]
    refine store_wrong r hlen hcrc ?_
    rw [← hwire, unstuff_append, unstuff_append, unstuff_cons linkCode hesc]
    exact List.prefix_append _ _

end Receiver

/-- What arrives of a frame in which one byte of the payload was altered, or only the CRC, and
that is still a frame. -/
structure Damaged (wire : List UInt8) : Prop where
  flag : 0x7E ∉ wire
  altered : ∃ n payload payload' crc', payload.length = UInt8.toNat n ∧
    (unstuff linkCode false wire).1 = n :: payload' ++ [crc'] ∧
    ((∃ i, DifferAt i payload payload') ∧ crc' = getCRC (n :: payload) ∨
      payload' = payload ∧ crc' ≠ getCRC (n :: payload))

/-- Its CRC is not that of what arrives. -/
theorem Damaged.wrong {wire : List UInt8} (h : Damaged wire) :
    ∃ n payload crc, payload.length = UInt8.toNat n ∧ crc ≠ getCRC (n :: payload) ∧
      (unstuff linkCode false wire).1 = n :: payload ++ [crc] := by
  obtain ⟨n, payload, payload', crc', hlen, hwire, ⟨⟨i, hi⟩, rfl⟩ | ⟨rfl, hcrc⟩⟩ := h.altered
  · exact ⟨n, payload', _, hi.length.symm.trans hlen, getCRC_ne (hi.cons n), hwire⟩
  · exact ⟨n, payload', crc', hlen, hcrc, hwire⟩

open Port in
/-- **A single damaged byte is detected.** The CRCs of two sequences are different when the
sequences differ in one place. And in any run of a new head, no byte of a damaged frame sets
`rxflag`, whatever was processed before its mark. -/
theorem damaged_rejected :
    (∀ i (as bs : List UInt8), DifferAt i as bs → getCRC as ≠ getCRC bs) ∧
    ∀ (rxRawFrame : Vector UInt8 rxRawFrameSize) (crc : UInt8) (data : List UInt8)
      (es : List Event), ∃ p, Runs.run step (new rxRawFrame crc data) es = .ok p ∧
        ∀ a rest before after wire, p.rest = a :: rest →
          p.seen ++ [a] = before ++ 0x7E :: after → Damaged wire → after <+: wire →
            ∃ p', step p .byte = .ok p' ∧ p'.rxflag = p.rxflag := by
  refine ⟨fun i as bs => getCRC_ne, fun rxRawFrame crc data es => ?_⟩
  obtain ⟨p, hrun, hsound⟩ := run_sound rxRawFrame crc data es
  refine ⟨p, hrun, ?_⟩
  intro a rest before after wire hrest hseen hdamaged hfront
  obtain ⟨n, payload, crc', hlen, hcrc, hwire⟩ := hdamaged.wrong
  have hsignal : (p.rx.receive a).2 ≠ .frame := by
    induction after using List.reverseRecOn with
    | nil =>
      have hidle : Signal.idle ≠ .frame := by decide
      obtain ⟨-, ha⟩ := List.append_inj' hseen rfl
      rw [(List.cons.inj ha).1, Receiver.receive_mark]
      exact hidle
    | append_singleton after b _ =>
      rw [← List.cons_append, ← List.append_assoc] at hseen
      obtain ⟨hseen, hb⟩ := List.append_inj' hseen rfl
      rw [← (List.cons.inj hb).1] at hfront
      rw [hsound.rx, hseen, feed_append]
      exact Receiver.receive_wrong _ hlen hcrc hdamaged.flag hwire hfront
  refine ⟨_, by rw [step, hrest]; exact byteStep_ok hsound.inside a rest, ?_⟩
  simp [hsignal]

open Port in
/-- A frame with the payload `AB`, in which the `B` has become a `C`, up to its CRC. -/
def damagedRun : List Event := .read [0x7E, 0x02, 0x41, 0x43, 0x7A] :: List.replicate 4 .byte

open Port in
theorem damaged_rejected_payload :
    getCRC [0x41, 0x42] ≠ getCRC [0x41, 0x43] ∧ ∃ p p',
      Runs.run step (new (Vector.replicate 100 0) 0 []) damagedRun = .ok p ∧
        step p .byte = .ok p' ∧ p'.rxflag = false := by
  have hdiffer : DifferAt 1 [0x41, (0x42 : UInt8)] [0x41, 0x43] :=
    { length := rfl
      here := by decide
      elsewhere := by
        intro j hj
        match j, hj with
        | 0, _ => rfl
        | j + 2, _ => rfl }
  have hdamaged : Damaged [0x02, 0x41, 0x43, 0x7A] :=
    { flag := by decide
      altered := ⟨2, [0x41, 0x42], [0x41, 0x43], 0x7A, rfl, by decide,
        .inl ⟨⟨1, hdiffer⟩, by decide +kernel⟩⟩ }
  refine ⟨damaged_rejected.1 1 _ _ hdiffer, ?_⟩
  obtain ⟨p, hrun, hreject⟩ := damaged_rejected.2 (Vector.replicate 100 0) 0 [] damagedRun
  have hfields : (Runs.run step (new (Vector.replicate 100 0) 0 []) damagedRun).toOption.map
      (fun p => (p.rest, p.seen, p.rxflag)) =
        some ([0x7A], [0x7E, 0x02, 0x41, 0x43], false) := by
    decide +kernel
  rw [hrun] at hfields
  obtain ⟨hrest, hpair⟩ := Prod.mk.inj (Option.some.inj hfields)
  obtain ⟨hseen, hflag⟩ := Prod.mk.inj hpair
  obtain ⟨p', hstep, hkeep⟩ := hreject 0x7A [] [] _ _ hrest (by rw [hseen]; rfl) hdamaged
    (List.prefix_refl _)
  exact ⟨p, p', hrun, hstep, hkeep.trans hflag⟩

end Solarbot.Head
