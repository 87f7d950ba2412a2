import Solarbot.Head.Framed

/-!
# Is a delivered frame left alone?

`port_read` looks at `rxflag` before it reads, not before it processes a byte. So the
bytes that the same read has brought behind the frame are processed with the flag up,
and the first payload byte among them goes where the payload of the delivered frame
is. Marks and length bytes do not: a read may go on with these (`harmless`), and
`frame_intact` says that nothing else can spoil a frame.
-/

namespace Solarbot.Head

open ByteStuffing Link Port

/-- No payload byte is among these: behind a frame only marks and escapes, and behind a mark a
length byte. `fresh` says that a length byte is due, `pending` that an escape is. -/
def harmless : Bool → Bool → List UInt8 → Bool
  | _, _, [] => true
  | fresh, pending, b :: bs =>
    if b = 0x7E then harmless true false bs
    else if b = 0x7D then harmless fresh true bs
    else fresh && harmless ((if pending then b ^^^ 0x20 else b) = 0) false bs

/-- The law: while the flag is up, `RxRawFrame` does not change. -/
def FrameKept (p : Port) (_ : Event) (p' : Port) : Prop :=
  p.rxflag = true → p'.rx.rxRawFrame = p.rx.rxRawFrame

/-- The condition: behind a byte that completes a frame, the same read has no payload byte. -/
def EndsRead (crc : UInt8) (p : Port) (e : Event) : Prop :=
  ∀ a rest, e = .byte → p.rest = a :: rest → ∀ q, MatchesAt crc p.seen a q →
    harmless false false rest = true

variable {rxRawFrame : Vector UInt8 rxRawFrameSize} {crc : UInt8} {p p' : Port}

/-- What is left of a read whose frame is delivered. -/
structure Left (fresh : Bool) (p : Port) : Prop where
  silent : harmless fresh p.rx.escaping p.rest = true
  due : fresh = true → p.rx.rxRawFrameIndex = 0 ∧ p.rx.rxRawFrameLength = 0

/-- The invariant. -/
structure Spared (rxRawFrame : Vector UInt8 rxRawFrameSize) (crc : UInt8) (p : Port) : Prop where
  sound : p.Sound (.new rxRawFrame crc)
  left : p.rxflag = true → ∃ fresh, Left fresh p

/-- **A byte of such a rest** stores nothing and completes nothing, and the rest behind it is one
again. -/
theorem Left.byte {fresh : Bool} (h : Left fresh p) {a : UInt8} {rest : List UInt8}
    (hrest : p.rest = a :: rest) (seen : List UInt8) :
    (p.rx.receive a).1.rxRawFrame = p.rx.rxRawFrame ∧ (p.rx.receive a).2 = .idle ∧
      ∃ fresh', Left fresh' { p with rx := (p.rx.receive a).1, rest, seen } := by
  have hharmless := h.silent
  rw [hrest, harmless] at hharmless
  by_cases hmark : a = 0x7E
  · subst hmark
    rw [if_pos rfl] at hharmless
    rw [Receiver.receive_mark]
    exact ⟨rfl, rfl, true, hharmless, fun _ => ⟨rfl, rfl⟩⟩
  rw [if_neg hmark] at hharmless
  by_cases hesc : a = 0x7D
  · subst hesc
    rw [if_pos rfl] at hharmless
    rw [Receiver.receive_esc]
    exact ⟨rfl, rfl, fresh, hharmless, h.due⟩
  rw [if_neg hesc, Bool.and_eq_true] at hharmless
  obtain ⟨rfl, hrest'⟩ := hharmless
  have hlength : p.rx.receive a = ({ p.rx with
      rxRawFrameLength := (p.rx.unescaped a).toNat
      crc := crcUpdate p.rx.crc (p.rx.unescaped a)
      escaping := false }, .idle) := by
    unfold Receiver.unescaped
    cases hescaping : p.rx.escaping with
    | true =>
      rw [Receiver.receive_escaped hmark hesc hescaping]
      exact if_pos (h.due rfl)
    | false =>
      rw [Receiver.receive_plain hmark hesc hescaping, Receiver.store, if_pos (h.due rfl)]
      simp [hescaping]
  rw [hlength]
  refine ⟨rfl, rfl, _, hrest', fun hzero => ⟨(h.due rfl).1, ?_⟩⟩
  have hzero : p.rx.unescaped a = 0 := of_decide_eq_true hzero
  show (p.rx.unescaped a).toNat = 0
  rw [hzero]
  rfl

/-- A byte of the frame takes a pending escape with it. -/
theorem Receiver.receive_plainly {r : Receiver} {a : UInt8} (hmark : a ≠ 0x7E) (hesc : a ≠ 0x7D) :
    (r.receive a).1.escaping = false := by
  cases hescaping : r.escaping with
  | true =>
    rw [receive_escaped hmark hesc hescaping]
    exact store_plain (r := { r with escaping := false }) rfl _
  | false =>
    rw [receive_plain hmark hesc hescaping]
    exact store_plain hescaping _

/-- **One byte.** A delivered frame is left alone, and the byte that delivers one leaves such a
rest. -/
theorem byte_spared (h : Spared rxRawFrame crc p) {a : UInt8} {rest : List UInt8}
    (hrest : p.rest = a :: rest) (hends : EndsRead crc p .byte)
    (hstep : Runs.Graph step p .byte p') : FrameKept p .byte p' ∧ Spared rxRawFrame crc p' := by
  have hsound := graph_sound h.sound hstep
  rw [Runs.Graph, step, hrest] at hstep
  dsimp only at hstep
  rw [byteStep_ok h.sound.inside a rest, Except.ok.injEq] at hstep
  subst hstep
  by_cases hflag : p.rxflag = true
  · obtain ⟨fresh, hleft⟩ := h.left hflag
    obtain ⟨hkept, -, fresh', hleft'⟩ := hleft.byte hrest (p.seen ++ [a])
    exact ⟨fun _ => hkept, hsound, fun _ => ⟨fresh', hleft'.silent, hleft'.due⟩⟩
  · refine ⟨fun hup => absurd hup hflag, hsound, fun hup => ?_⟩
    -- this byte completes a frame
    have hsignal : (p.rx.receive a).2 = .frame := by simpa [hflag] using hup
    obtain ⟨q, hq⟩ := (frame_iff h.sound a).mp hsignal
    refine ⟨false, ?_, fun hc => absurd hc Bool.false_ne_true⟩
    show harmless false (p.rx.receive a).1.escaping rest = true
    rw [Receiver.receive_plainly hq.mark hq.esc]
    exact hends a rest rfl hrest q hq

/-- **One step.** -/
theorem step_spared {e : Event} (h : Spared rxRawFrame crc p) (hends : EndsRead crc p e)
    (hstep : Runs.Graph step p e p') : FrameKept p e p' ∧ Spared rxRawFrame crc p' := by
  have hsound := graph_sound h.sound hstep
  -- the other steps do not touch the receiver
  have hother : p'.rx = p.rx → (p'.rxflag = true → p.rxflag = true ∧ p'.rest = p.rest) →
      FrameKept p e p' ∧ Spared rxRawFrame crc p' := by
    intro hrx hup
    refine ⟨fun _ => by rw [hrx], hsound, fun hflag => ?_⟩
    obtain ⟨hflag, hrest⟩ := hup hflag
    obtain ⟨fresh, hleft⟩ := h.left hflag
    exact ⟨fresh, by rw [hrx, hrest]; exact hleft.silent, by rw [hrx]; exact hleft.due⟩
  cases e with
  | byte =>
    cases hrest : p.rest with
    | nil =>
      rw [Runs.Graph, step, hrest] at hstep
      obtain rfl := Except.ok.inj hstep
      exact ⟨fun _ => rfl, h⟩
    | cons a rest => exact byte_spared h hrest hends hstep
  | read bytes =>
    rw [Runs.Graph, step] at hstep
    split at hstep
    next hread =>
      obtain rfl := Except.ok.inj hstep
      exact hother rfl fun hup => absurd (hread.1.symm.trans hup) Bool.false_ne_true
    next =>
      obtain rfl := Except.ok.inj hstep
      exact hother rfl fun hup => ⟨hup, rfl⟩
  | request =>
    obtain rfl := Except.ok.inj hstep
    exact hother rfl fun hup => absurd hup Bool.false_ne_true
  | copy =>
    rw [Runs.Graph, step] at hstep
    split at hstep
    next =>
      obtain rfl := Except.ok.inj hstep
      exact hother rfl fun hup => ⟨hup, rfl⟩
    next =>
      obtain rfl := Except.ok.inj hstep
      exact hother rfl fun hup => ⟨hup, rfl⟩

/-- **When a delivered frame is left alone.** In every run of a new head in which no read has a
payload byte behind a byte that completes a frame, `RxRawFrame` stays as it is while the flag is
up. -/
theorem frame_intact (rxRawFrame : Vector UInt8 rxRawFrameSize) (crc : UInt8)
    (data : List UInt8) {es : List Event}
    (hes : Runs.Along (Runs.Graph step) (EndsRead crc) (new rxRawFrame crc data) es) :
    Runs.Steps (Runs.Graph step) FrameKept (new rxRawFrame crc data) es := by
  refine Runs.Steps.guarded (I := Spared rxRawFrame crc) ?_ ?_ hes
    ⟨⟨rfl, show 0 < 100 by decide⟩, fun hup => absurd hup Bool.false_ne_true⟩
  · exact fun p e p' h hends hstep => (step_spared h hends hstep).2
  · exact fun p e p' h hends hstep => (step_spared h hends hstep).1

/-- The condition, as the receiver sees it. -/
def EndsReadHere (p : Port) (_ : Event) : Prop :=
  ∀ a ∈ p.rest.head?, (p.rx.receive a).2 = .frame → harmless false false p.rest.tail = true

instance (p : Port) (e : Event) : Decidable (EndsReadHere p e) :=
  inferInstanceAs (Decidable (∀ a ∈ p.rest.head?, _ → _))

theorem EndsReadHere.endsRead {e : Event} (hsound : p.Sound (.new rxRawFrame crc))
    (h : EndsReadHere p e) : EndsRead crc p e := by
  intro a rest _ hrest q hq
  rw [EndsReadHere, hrest] at h
  exact h a rfl ((frame_iff hsound a).mpr ⟨q, hq⟩)

/-- A frame of the payload `05` and the next mark, the copy, and the next request. -/
def markedRun : List Event :=
  .read [0x7E, 0x01, 0x05, 0xD9, 0x7E] :: List.replicate 5 .byte ++ [.copy, .request]

theorem frame_intact_marked :
    Runs.Steps (Runs.Graph step) FrameKept (new (Vector.replicate 100 0) 0 []) markedRun ∧
      (Runs.run step (new (Vector.replicate 100 0) 0 []) markedRun).toOption.map
        (fun p => p.data.head?) = some (some 0x05) := by
  have hes : Runs.Along (Runs.Graph step) EndsReadHere (new (Vector.replicate 100 0) 0 [])
      markedRun := by
    decide +kernel
  refine ⟨frame_intact _ _ _ (hes.of_invariant (I := Sound (.new (Vector.replicate 100 0) 0))
    (fun _ _ _ h hstep => graph_sound h hstep) (fun _ _ h hG => hG.endsRead h)
    ⟨rfl, show 0 < 100 by decide⟩), by decide +kernel⟩

/-- The byte behind a frame of the payload `05`, in the same read, replaces it. -/
theorem frame_replaced : ∃ p p',
    Runs.run step (new (Vector.replicate 100 0) 0 [])
      (.read [0x7E, 0x01, 0x05, 0xD9, 0x09] :: List.replicate 4 .byte) = .ok p ∧
      p.rxflag = true ∧ p.rx.rxRawFrame.toList.take 1 = [0x05] ∧
      step p .byte = .ok p' ∧ p'.rx.rxRawFrame.toList.take 1 = [0x09] := by
  let es : List Event := .read [0x7E, 0x01, 0x05, 0xD9, 0x09] :: List.replicate 4 .byte
  obtain ⟨p, hrun, hsound⟩ := run_sound (Vector.replicate 100 0) 0 [] es
  obtain ⟨p', hp', -⟩ := step_sound hsound .byte
  have hfields : (Runs.run step (new (Vector.replicate 100 0) 0 []) es).toOption.map
      (fun p => (p.rxflag, p.rx.rxRawFrame.toList.take 1,
        (step p .byte).toOption.map fun p' => p'.rx.rxRawFrame.toList.take 1)) =
        some (true, [0x05], some [0x09]) := by
    decide +kernel
  rw [hrun] at hfields
  obtain ⟨hflag, hframe, hframe'⟩ : p.rxflag = true ∧ p.rx.rxRawFrame.toList.take 1 = [0x05] ∧
      (step p .byte).toOption.map (fun p' => p'.rx.rxRawFrame.toList.take 1) = some [0x09] := by
    have hpair := Option.some.inj hfields
    simpa using hpair
  rw [hp'] at hframe'
  exact ⟨p, p', hrun, hflag, hframe, hp', Option.some.inj hframe'⟩

end Solarbot.Head
