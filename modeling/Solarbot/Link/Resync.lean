import Solarbot.Link.RoundTrip

/-!
# Resynchronisation on the start mark

Whatever bytes came before, a frame should be received. The start mark resets
`frame_buffer_index`, `rx_PayloadLength` and `decoding`, but not `escaping`; what
saves most frames is that an escape is only ever pending *inside* a frame
(`EscapeInside`) and that the random byte in front of the mark then consumes it.
The random byte can be `0x7D` itself, though. Inside a frame that arms the
escape, the mark keeps it, and the first header byte is unmasked by mistake.

`resync_iff` is the exact boundary. The frame is lost precisely when the decoder
was inside a frame, the random byte was `0x7D`, and the first header byte is not
one of the two that are escaped on the wire (for these the escape is armed
anyway). In the lost case either the header CRC rejects the frame or the decoder
goes on with another frame type; `Astray` is what then survives to the last byte.
-/

namespace Solarbot.Link

open ByteStuffing

variable (crc : List UInt8 → UInt16)

/-- The last byte of `t` is reported, with the type, the id and the payload of
`t`. -/
def Delivers (f : Frame) (t : TxFrame) : Prop :=
  (feed (Frame.receive crc) f (t.wire crc)).2.getLast? = some (some t.message)

instance (f : Frame) (t : TxFrame) : Decidable (Delivers crc f t) :=
  inferInstanceAs (Decidable (_ = _))

/-- The decoder after the bytes `garbage`. -/
def after (f : Frame) (garbage : List UInt8) : Frame :=
  (feed (Frame.receive crc) f garbage).1

namespace Frame

/-! ## Where an escape can be pending -/

theorem store_escaping (f : Frame) (a : UInt8) : (f.store crc a).1.escaping = f.escaping := by
  simp only [store, storeByte, afterStore, decodeHeader, checkPayload]
  split
  · split
    · split <;> rfl
    · split
      · split
        · split <;> rfl
        · rfl
      · rfl
  · rfl

/-- An escape is only pending inside a frame. -/
def EscapeInside (f : Frame) : Prop := f.escaping = true → f.decoding = true

theorem receive_escapeInside {f : Frame} (h : EscapeInside f) (a : UInt8) :
    EscapeInside (f.receive crc a).1 := by
  by_cases h7E : a = 0x7E
  · subst h7E
    exact fun _ => rfl
  · rcases f.receive_cases crc h7E with ⟨-, hr⟩ | ⟨hd, -, hr⟩ | ⟨-, -, b, hr⟩
    · rw [hr]
      exact h
    · rw [hr]
      exact fun _ => hd
    · rw [hr]
      intro he
      rw [store_escaping] at he
      exact absurd he (by simp [disarm])

/-- The random byte in front of the mark leaves an escape pending exactly when it
is `0x7D` inside a frame. -/
theorem receive_random {f : Frame} (h : EscapeInside f) {r : UInt8} (hr : r ≠ 0x7E) :
    (f.receive crc r).1.escaping = true ↔ f.decoding = true ∧ r = 0x7D := by
  rcases f.receive_cases crc hr with ⟨hd, he⟩ | ⟨hd, h7D, he⟩ | ⟨hd, h7D, b, he⟩
  · rw [he]
    constructor
    · intro hesc
      exact absurd (h hesc) (by simp [hd])
    · intro hc
      exact absurd hc.1 (by simp [hd])
  · rw [he]
    exact iff_of_true rfl ⟨hd, h7D⟩
  · rw [he, store_escaping]
    exact iff_of_false (by simp [disarm]) (fun hc => h7D hc.2)

/-! ## A frame that started with the wrong byte -/

/-- The decoder cannot report a frame of type `ty` before the next mark: it is
outside a frame, or inside one whose header gave another type. -/
def Astray (ty : UInt16) (f : Frame) : Prop :=
  f.decoding = false ∨ 8 ≤ f.frameBufferIndex ∧ f.rxFrameType ≠ ty

/-- Past the header, storing keeps the type and does not go back. -/
theorem store_past_header {f : Frame} (h : 8 ≤ f.frameBufferIndex) (a : UInt8) :
    (f.store crc a).1.rxFrameType = f.rxFrameType ∧
      8 ≤ (f.store crc a).1.frameBufferIndex := by
  simp only [store, storeByte, afterStore, checkPayload]
  have h7 : ∀ hlt, ¬ (f.put a hlt).frameBufferIndex = 7 := by
    intro _
    show ¬ f.frameBufferIndex = 7
    omega
  split
  next hlt =>
    rw [if_neg (h7 hlt)]
    split
    · split
      · split
        · exact ⟨rfl, Nat.le_succ_of_le h⟩
        · exact ⟨rfl, Nat.le_succ_of_le h⟩
      · exact ⟨rfl, Nat.le_succ_of_le h⟩
    · exact ⟨rfl, Nat.le_succ_of_le h⟩
  next => exact ⟨rfl, h⟩

/-- A report carries the type the decoder holds. -/
theorem store_report {f : Frame} {a : UInt8} {m : Message} (h : (f.store crc a).2 = some m) :
    m.frameType = (f.store crc a).1.rxFrameType := by
  simp only [store] at h ⊢
  split at h
  next => rw [← Option.some.inj h]; rfl
  next => exact absurd h (by simp)

theorem store_astray {ty : UInt16} {f : Frame} (h : 8 ≤ f.frameBufferIndex)
    (hty : f.rxFrameType ≠ ty) (a : UInt8) :
    Astray ty (f.store crc a).1 ∧ ∀ m, (f.store crc a).2 = some m → m.frameType ≠ ty := by
  obtain ⟨h1, h2⟩ := store_past_header crc h a
  refine ⟨Or.inr ⟨h2, by rw [h1]; exact hty⟩, ?_⟩
  intro m hm
  rw [store_report crc hm, h1]
  exact hty

theorem receive_astray {ty : UInt16} {f : Frame} (h : Astray ty f) {a : UInt8} (ha : a ≠ 0x7E) :
    Astray ty (f.receive crc a).1 ∧ ∀ m, (f.receive crc a).2 = some m → m.frameType ≠ ty := by
  rcases f.receive_cases crc ha with ⟨-, hr⟩ | ⟨-, -, hr⟩ | ⟨hd, -, b, hr⟩
  · rw [hr]
    exact ⟨h, fun m hm => absurd hm (by simp)⟩
  · rw [hr]
    exact ⟨h, fun m hm => absurd hm (by simp)⟩
  · rw [hr]
    rcases h with hn | hp
    · exact absurd hd (by simp [hn])
    · exact store_astray crc (f := f.disarm) hp.1 hp.2 b

end Frame

variable {crc}

theorem after_escapeInside (a b c : UInt16) (buf : Vector UInt8 frameBufferSize)
    (garbage : List UInt8) : Frame.EscapeInside (after crc (Frame.new a b c buf) garbage) :=
  feed_invariant (I := Frame.EscapeInside) (P := fun _ => True)
    (fun _ x hf _ => Frame.receive_escapeInside crc hf x) (fun _ _ => trivial)
    (fun he => absurd he (by simp [Frame.new]))

/-- The decoder when the first header byte comes. -/
def started (crc : List UInt8 → UInt16) (f : Frame) (t : TxFrame) : Frame :=
  (f.receive crc t.rndByte).1.start

theorem stuffAll_ne_nil {bs : List UInt8} (h : bs ≠ []) : stuffAll linkCode bs ≠ [] := by
  have := length_le_stuffAll linkCode bs
  intro hnil
  rw [hnil] at this
  exact h (List.length_eq_zero_iff.mp (Nat.le_zero.mp this))

/-- The report at the last byte of a frame is the one at its last stuffed byte. -/
theorem delivers_iff_started (f : Frame) (t : TxFrame) :
    Delivers crc f t ↔
      (feed (Frame.receive crc) (started crc f t) (stuffAll linkCode (t.raw crc))).2.getLast?
        = some (some t.message) := by
  have hwire : t.wire crc = [t.rndByte, 0x7E] ++ stuffAll linkCode (t.raw crc) := t.wire_eq crc
  have hne : stuffAll linkCode (t.raw crc) ≠ [] := stuffAll_ne_nil (List.cons_ne_nil _ _)
  rw [Delivers, hwire, feed_getLast? _ _ _ hne]
  rfl

/-- With no escape pending the frame is delivered. -/
theorem delivers_of_not_armed {f : Frame} {t : TxFrame}
    (he : (f.receive crc t.rndByte).1.escaping = false) : Delivers crc f t := by
  obtain ⟨f', hf', -⟩ := feed_raw (@receiving_start crc _ he t)
  rw [delivers_iff_started, started, hf', reportsLast, List.getLast?_concat]

/-- A pending escape makes no difference when the first raw byte is escaped on
the wire: the escape is armed again. -/
theorem delivers_of_reserved {f : Frame} {t : TxFrame}
    (hres : linkCode.Reserved (loByte t.frameType)) : Delivers crc f t := by
  obtain ⟨f', hf', -⟩ := feed_raw
    (@receiving_start crc (f.receive crc t.rndByte).1.disarm rfl t)
  have hwire : stuffAll linkCode (t.raw crc) = 0x7D :: (loByte t.frameType ^^^ 0x20)
      :: stuffAll linkCode (t.raw crc).tail := by
    conv_lhs =>
      rw [show t.raw crc = loByte t.frameType :: (t.raw crc).tail from rfl, stuffAll_cons, stuff,
        if_pos hres]
    rfl
  have hsame : feed (Frame.receive crc) (started crc f t) (stuffAll linkCode (t.raw crc))
      = feed (Frame.receive crc) (f.receive crc t.rndByte).1.disarm.start
          (stuffAll linkCode (t.raw crc)) := by
    rw [hwire, Frame.feed_esc crc (f := started crc f t) rfl,
      Frame.feed_esc crc (f := (f.receive crc t.rndByte).1.disarm.start) rfl]
    rfl
  rw [delivers_iff_started, hsame, hf', reportsLast, List.getLast?_concat]

/-! ### The lost frame -/

/-- The raw bytes as the decoder takes them when it unmasks the first by mistake. -/
def misread (crc : List UInt8 → UInt16) (t : TxFrame) : List UInt8 :=
  (loByte t.frameType ^^^ 0x20) :: (t.raw crc).tail

/-- After the first header byte the decoder holds the misread one. -/
theorem misread_first {f : Frame} {t : TxFrame}
    (he : (f.receive crc t.rndByte).1.escaping = true)
    (hres : ¬ linkCode.Reserved (loByte t.frameType)) :
    Frame.Prefix (misread crc t) 1
      ((started crc f t).receive crc (loByte t.frameType)).1 := by
  rw [Frame.receive_armed crc (f := started crc f t) rfl he hres]
  have hstart : Frame.Prefix (misread crc t) 0 (started crc f t).disarm :=
    ⟨rfl, rfl, rfl, fun i hi => absurd hi (Nat.not_lt_zero i)⟩
  obtain ⟨f', hf', hp⟩ := Frame.store_header crc hstart (by omega) rfl
  rw [hf']
  exact hp

/-- The misread header is rejected, or gives another type. -/
theorem misread_header {f : Frame} {t : TxFrame} (h : Frame.Prefix (misread crc t) 7 f) :
    Frame.Astray t.frameType
      (f.store crc (hiByte (crc (headerFields t.frameType t.frameId t.payloadLength)))).1 := by
  have hcrc := Classical.em (crc (headerFields t.frameType t.frameId t.payloadLength)
    = crc ((loByte t.frameType ^^^ 0x20) ::
        (headerFields t.frameType t.frameId t.payloadLength).tail))
  rcases hcrc with hok | hbad
  · obtain ⟨f', hf', hp, hty, -⟩ := Frame.store_header_ok crc h
      (by rw [le16_lo_hi]; exact hok)
    rw [hf']
    -- accepted by accident, but the low byte of the type is unmasked
    refine Or.inr ⟨Nat.le_of_eq hp.index.symm, ?_⟩
    rw [hty]
    intro hcon
    have hlo := (le16_inj (hcon.trans (le16_lo_hi t.frameType).symm)).1
    have hmask : (0x20 : UInt8) = 0 := calc
      0x20 = loByte t.frameType ^^^ (loByte t.frameType ^^^ 0x20) := by
        rw [← UInt8.xor_assoc, UInt8.xor_self, UInt8.zero_xor]
      _ = 0 := by rw [hlo, UInt8.xor_self]
    exact absurd hmask (by decide)
  · obtain ⟨f', hf', hd⟩ := Frame.store_header_bad crc h
      (by rw [le16_lo_hi]; exact hbad)
    rw [hf']
    exact Or.inl hd

/-- The eighth header byte, the high byte of the header CRC. -/
def lastHeaderByte (crc : List UInt8 → UInt16) (t : TxFrame) : UInt8 :=
  hiByte (crc (headerFields t.frameType t.frameId t.payloadLength))

/-- The raw bytes after the header. -/
def body (crc : List UInt8 → UInt16) (t : TxFrame) : List UInt8 :=
  t.payload ++ [loByte (crc t.payload), hiByte (crc t.payload)]

/-- A frame whose first header byte is sent as it is, cut at the end of its
header. -/
theorem stuffed_split {t : TxFrame} (hres : ¬ linkCode.Reserved (loByte t.frameType)) :
    stuffAll linkCode (t.raw crc) = loByte t.frameType ::
      (stuffAll linkCode ((t.raw crc).tail.take 6)
        ++ (stuff linkCode (lastHeaderByte crc t) ++ stuffAll linkCode (body crc t))) := by
  conv_lhs =>
    rw [show t.raw crc = loByte t.frameType ::
        ((t.raw crc).tail.take 6 ++ (lastHeaderByte crc t :: body crc t)) from rfl,
      stuffAll_cons, stuff, if_neg hres, stuffAll_append, stuffAll_cons]
  rfl

/-- The decoder at the end of the misread header is astray. -/
theorem misread_astray {f : Frame} {t : TxFrame} (h : Frame.Prefix (misread crc t) 1 f) :
    Frame.Astray t.frameType
      (feed (Frame.receive crc) (feed (Frame.receive crc) f
        (stuffAll linkCode ((t.raw crc).tail.take 6))).1
        (stuff linkCode (lastHeaderByte crc t))).1 := by
  have hlen : ((t.raw crc).tail.take 6).length = 6 := rfl
  have hfold := (feed_stuffAll (c := linkCode) (J := fun k f => Frame.Prefix (misread crc t) (k + 1) f)
    ((t.raw crc).tail.take 6)
    (fun k f _ hr => Frame.receive_unescapes crc hr.decoding hr.escaping)
    (fun k f hk hr => by
      obtain ⟨f', hf', hr'⟩ := Frame.store_header crc hr (by omega)
        (a := ((t.raw crc).tail.take 6)[k]) (by
          show (t.raw crc).tail[k]? = _
          rw [List.getElem_take, List.getElem?_eq_getElem])
      rw [hf']
      exact ⟨rfl, hr'⟩) h).1
  rw [hlen] at hfold
  rw [feed_stuff (Frame.receive_unescapes crc hfold.decoding hfold.escaping)]
  exact misread_header hfold

/-- With an escape pending and a first raw byte that is sent as it is, that byte
is unmasked by mistake and the frame is lost. -/
theorem not_delivers_of_armed {f : Frame} {t : TxFrame}
    (he : (f.receive crc t.rndByte).1.escaping = true)
    (hres : ¬ linkCode.Reserved (loByte t.frameType)) : ¬ Delivers crc f t := by
  have hastray := misread_astray (misread_first he hres)
  -- no report after the header has the type of the frame
  have hmark : ∀ a ∈ stuffAll linkCode (body crc t), a ≠ 0x7E := by
    intro a ha h7E
    subst h7E
    exact flag_notMem_stuffAll linkCode (body crc t) ha
  have hrest := feed_outputs (I := Frame.Astray t.frameType)
    (P := fun a => a ≠ 0x7E) (Q := fun o => ∀ m, o = some m → m.frameType ≠ t.frameType)
    (fun _ _ hI ha => (Frame.receive_astray crc hI ha).1)
    (fun _ _ hI ha => (Frame.receive_astray crc hI ha).2) hmark hastray
  have hbody : stuffAll linkCode (body crc t) ≠ [] := stuffAll_ne_nil (by simp [body])
  rw [delivers_iff_started, stuffed_split hres, ← List.singleton_append,
    feed_getLast? _ _ _ (by simp [hbody]), feed_getLast? _ _ _ (by simp [hbody]),
    feed_getLast? _ _ _ hbody]
  intro hlast
  exact hrest _ (List.mem_of_getLast? hlast) t.message rfl rfl

/-- **Resynchronisation, exactly.** After any bytes, a frame is reported at its
last byte if and only if the decoder was outside a frame, or the random byte is
not `0x7D`, or the first header byte is one that is escaped on the wire. -/
theorem resync_iff (crc : List UInt8 → UInt16) (a b c : UInt16)
    (buf : Vector UInt8 frameBufferSize) (garbage : List UInt8) (t : TxFrame) :
    Delivers crc (after crc (Frame.new a b c buf) garbage) t ↔
      (after crc (Frame.new a b c buf) garbage).decoding = false ∨ t.rndByte ≠ 0x7D ∨
        linkCode.Reserved (loByte t.frameType) := by
  have hrnd := Frame.receive_random crc (@after_escapeInside crc a b c buf garbage) t.rnd_ne
  cases he : ((after crc (Frame.new a b c buf) garbage).receive crc t.rndByte).1.escaping with
  | false =>
    refine iff_of_true (delivers_of_not_armed he) ?_
    rw [he] at hrnd
    by_cases hd : (after crc (Frame.new a b c buf) garbage).decoding = true
    · exact Or.inr (Or.inl fun h7D => absurd (hrnd.mpr ⟨hd, h7D⟩) (by simp))
    · exact Or.inl (by simpa using hd)
  | true =>
    obtain ⟨hd, h7D⟩ := hrnd.mp he
    by_cases hres : linkCode.Reserved (loByte t.frameType)
    · exact iff_of_true (delivers_of_reserved hres) (Or.inr (Or.inr hres))
    · refine iff_of_false (not_delivers_of_armed he hres) ?_
      rw [not_or, not_or, not_not]
      exact ⟨by simp [hd], h7D, hres⟩

/-- A ping whose random byte is `0x7D`. -/
def pingAfterEscape : TxFrame := .ping 1 escape_ne_mark

/-- The start mark of a frame that was cut short, and then a ping: the ping is
lost. -/
theorem resync_lost :
    ¬ Delivers calculate (after calculate (Frame.new 0 0 0 (Vector.replicate 1024 0)) [0x7E])
      pingAfterEscape := by
  decide

end Solarbot.Link
