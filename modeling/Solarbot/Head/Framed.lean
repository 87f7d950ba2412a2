import Solarbot.Head.Delivery

/-!
# What the head's receiver accepts

A frame should be accepted only when the bytes behind the last start mark are a frame.
`port_read` has no flag that says so (the command link's `DecodeFrame` has one,
`decoding`): the phase it is in is worked out from the index and the length. Three
kinds of bytes pass as a frame without being one: bytes before the first mark, bytes
behind a length byte zero, which is taken for no length at all, and bytes behind a
complete or rejected frame, where index and length say that a frame of the same length
has just begun.

So any bytes are taken apart into zeros, a length byte and rounds of a payload and a byte
that is compared with the running CRC (`Place`), and only the first round behind a mark and
no zeros is a frame. `accepts_framed` says which streams make no other byte match.
-/

namespace Solarbot.Head

open ByteStuffing Link

/-! ## Rounds -/

/-- Zeros, a length byte, complete rounds, and the payload of the next one as far as it goes. -/
structure Place where
  zeros : Nat
  n : UInt8
  /-- A payload, and the byte that is compared. -/
  rounds : List (List UInt8 × UInt8)
  payload : List UInt8
  pos : n ≠ 0
  fits : n.toNat < rxRawFrameSize
  whole : ∀ r ∈ rounds, r.1.length = n.toNat
  upTo : payload.length ≤ n.toNat

namespace Place

def bytes (q : Place) : List UInt8 :=
  List.replicate q.zeros 0 ++ q.n :: (q.rounds.flatMap (fun r => r.1 ++ [r.2]) ++ q.payload)

/-- The CRC over all of them but the compared ones. -/
def crc (q : Place) (c₀ : UInt8) : UInt8 :=
  (List.replicate q.zeros 0 ++ q.n :: (q.rounds.flatMap Prod.fst ++ q.payload)).foldl crcUpdate c₀

/-- The next byte is compared. -/
def Complete (q : Place) : Prop := q.payload.length = q.n.toNat

/-- In the first round, with the length byte in front. -/
def First (q : Place) : Prop := q.zeros = 0 ∧ q.rounds = []

/-- One payload byte more. -/
def push (q : Place) (b : UInt8) (h : q.payload.length < q.n.toNat) : Place :=
  { q with
    payload := q.payload ++ [b]
    upTo := by
      rw [List.length_append]
      exact h }

/-- The byte that is compared. -/
def turn (q : Place) (b : UInt8) (h : q.Complete) : Place :=
  { q with
    rounds := q.rounds ++ [(q.payload, b)]
    payload := []
    whole := by
      intro r hr
      rcases List.mem_append.mp hr with hr | hr
      · exact q.whole r hr
      · rw [List.mem_singleton.mp hr]
        exact h
    upTo := Nat.zero_le _ }

variable (q : Place) (b c₀ : UInt8)

/-- A payload byte is one more of the bytes. -/
theorem push_bytes (h : q.payload.length < q.n.toNat) : (q.push b h).bytes = q.bytes ++ [b] := by
  simp [bytes, push]

/-- And it is in the CRC. -/
theorem push_crc (h : q.payload.length < q.n.toNat) :
    (q.push b h).crc c₀ = crcUpdate (q.crc c₀) b := by
  simp [crc, push, List.foldl_append]

/-- So is the byte that is compared. -/
theorem turn_bytes (h : q.Complete) : (q.turn b h).bytes = q.bytes ++ [b] := by
  simp [bytes, turn]

/-- But it is not in the CRC. -/
theorem turn_crc (h : q.Complete) : (q.turn b h).crc c₀ = q.crc c₀ := by
  simp [crc, turn]

/-- A length byte behind zeros. -/
def begin (zeros : Nat) (n : UInt8) (pos : n ≠ 0) (fits : n.toNat < rxRawFrameSize) : Place :=
  ⟨zeros, n, [], [], pos, fits, fun _ h => absurd h List.not_mem_nil, Nat.zero_le _⟩

/-- How the last byte of a place came there. -/
inductive Last (q : Place) : Prop
  | begin (zeros : Nat) (n : UInt8) (pos : n ≠ 0) (fits : n.toNat < rxRawFrameSize)
      (h : q = .begin zeros n pos fits)
  | push (q' : Place) (b : UInt8) (h' : q'.payload.length < q'.n.toNat) (h : q = q'.push b h')
  | turn (q' : Place) (b : UInt8) (h' : q'.Complete) (h : q = q'.turn b h')

/-- **Every place has a last byte.** -/
theorem last : q.Last := by
  obtain ⟨zeros, n, rounds, payload, pos, fits, whole, upTo⟩ := q
  rcases List.eq_nil_or_concat' payload with rfl | ⟨payload, b, rfl⟩
  · rcases List.eq_nil_or_concat' rounds with rfl | ⟨rounds, r, rfl⟩
    · exact .begin zeros n pos fits rfl
    · refine .turn ⟨zeros, n, rounds, r.1, pos, fits, fun r' hr' => whole r' ?_, ?_⟩ r.2 ?_ rfl
      · exact List.mem_append_left _ hr'
      · exact le_of_eq (whole r (List.mem_append_right _ List.mem_cons_self))
      · exact whole r (List.mem_append_right _ List.mem_cons_self)
  · have hlt : payload.length < n.toNat := by
      rw [List.length_append] at upTo
      exact upTo
    exact .push ⟨zeros, n, rounds, payload, pos, fits, whole, hlt.le⟩ b hlt rfl

/-- Where the bytes are a length byte and no more than its payload, they are the first round. -/
theorem first_of_bytes {n : UInt8} {payload : List UInt8} (hcomplete : q.Complete)
    (hbytes : q.bytes = n :: payload) (hn : n ≠ 0) (hlen : payload.length ≤ n.toNat) : q.First := by
  cases hzeros : q.zeros with
  | succ k =>
    rw [bytes, hzeros, List.replicate_succ, List.cons_append] at hbytes
    exact absurd (List.cons.inj hbytes).1.symm hn
  | zero =>
    rw [bytes, hzeros, List.replicate_zero, List.nil_append] at hbytes
    obtain ⟨hq, hrest⟩ := List.cons.inj hbytes
    have hlength := congrArg List.length hrest
    rw [List.length_append, hcomplete, hq] at hlength
    have hnone : q.rounds.flatMap (fun r => r.1 ++ [r.2]) = [] :=
      List.length_eq_zero_iff.mp (by omega)
    rw [List.flatMap_eq_nil_iff] at hnone
    refine ⟨hzeros, List.eq_nil_iff_forall_not_mem.mpr fun r hr => ?_⟩
    exact absurd (hnone r hr) (by simp)

theorem First.bytes_eq (h : q.First) : q.bytes = q.n :: q.payload := by
  rw [bytes, h.1, h.2]
  rfl

/-- In the first round the CRC is that of length and payload. -/
theorem First.crc_eq (h : q.First) : q.crc crcInit = getCRC (q.n :: q.payload) := by
  rw [crc, h.1, h.2]
  rfl

end Place

/-- Any bytes are zeros, or at a place, or behind a length byte that is too large for one. -/
theorem bytes_cases (us : List UInt8) : (∃ k, us = List.replicate k 0) ∨
    (∃ q : Place, q.bytes = us) ∨
    ∃ k n rest, us = List.replicate k 0 ++ n :: rest ∧ rxRawFrameSize ≤ n.toNat := by
  induction us using List.reverseRecOn with
  | nil => exact .inl ⟨0, rfl⟩
  | append_singleton us b ih =>
    rcases ih with ⟨k, rfl⟩ | ⟨q, rfl⟩ | ⟨k, n, rest, rfl, hn⟩
    · by_cases hb : b = 0
      · exact .inl ⟨k + 1, by rw [hb, List.replicate_succ']⟩
      · by_cases hfits : b.toNat < rxRawFrameSize
        · exact .inr (.inl ⟨.begin k b hb hfits, rfl⟩)
        · exact .inr (.inr ⟨k, b, [], rfl, not_lt.mp hfits⟩)
    · rcases q.upTo.lt_or_eq with hlt | heq
      · exact .inr (.inl ⟨q.push b hlt, q.push_bytes b hlt⟩)
      · exact .inr (.inl ⟨q.turn b heq, q.turn_bytes b heq⟩)
    · exact .inr (.inr ⟨k, n, rest ++ [b], by rw [List.append_assoc]; rfl, hn⟩)

/-! ## The receiver at a place -/

namespace Receiver

variable {r : Receiver} {c₀ : UInt8}

/-- Without a length yet. -/
structure Fresh (c₀ : UInt8) (r : Receiver) : Prop where
  index : r.rxRawFrameIndex = 0
  length : r.rxRawFrameLength = 0
  crc : r.crc = c₀

structure At (c₀ : UInt8) (q : Place) (r : Receiver) : Prop where
  length : r.rxRawFrameLength = q.n.toNat
  index : r.rxRawFrameIndex = q.payload.length
  crc : r.crc = q.crc c₀

/-- Any byte is the length. -/
theorem store_fresh (h : r.Fresh c₀) (n : UInt8) :
    r.store n = ({ r with rxRawFrameLength := n.toNat, crc := crcUpdate r.crc n }, .idle) :=
  if_pos ⟨h.index, h.length⟩

/-- Zeros leave it without a length. -/
theorem feed_zeros (h : r.Fresh c₀) (k : Nat) :
    Fresh ((List.replicate k 0).foldl crcUpdate c₀) (feed store r (List.replicate k 0)).1 := by
  induction k with
  | zero => exact h
  | succ k ih =>
    rw [List.replicate_succ', feed_append, feed_singleton, store_fresh ih, List.foldl_append]
    exact ⟨ih.index, rfl, congrArg (crcUpdate · 0) ih.crc⟩

/-- At a place the receiver has a length. -/
theorem At.phase {q : Place} (h : At c₀ q r) :
    ¬ (r.rxRawFrameIndex = 0 ∧ r.rxRawFrameLength = 0) := by
  intro hzero
  exact q.pos (UInt8.toNat_inj.mp (h.length.symm.trans hzero.2))

/-- The length byte leads to a place. -/
theorem at_begin (h : r.Fresh c₀) (k : Nat) (n : UInt8) (pos : n ≠ 0)
    (fits : n.toNat < rxRawFrameSize) :
    At c₀ (.begin k n pos fits) (feed store r (List.replicate k 0 ++ [n])).1 := by
  have hzeros := feed_zeros h k
  rw [feed_append, feed_singleton, store_fresh hzeros]
  refine ⟨rfl, hzeros.index, ?_⟩
  show crcUpdate (feed store r (List.replicate k 0)).1.crc n = _
  rw [hzeros.crc, Place.crc, List.foldl_append]
  rfl

/-- A payload byte leads from place to place. -/
theorem at_push {q : Place} (h : At c₀ q r) (b : UInt8) (hlt : q.payload.length < q.n.toNat) :
    At c₀ (q.push b hlt) (r.store b).1 := by
  have hinner : r.rxRawFrameIndex ≠ r.rxRawFrameLength := by
    rw [h.index, h.length]
    exact hlt.ne
  have hbelow : r.rxRawFrameIndex < rxRawFrameSize := by
    rw [h.index]
    exact hlt.trans q.fits
  have hput : (r.store b).1 = r.put b hbelow := by
    unfold store
    rw [if_neg h.phase, if_neg hinner, dif_pos hbelow]
  rw [hput]
  refine ⟨h.length, ?_, ?_⟩
  · have hfits : q.n.toNat < 100 := q.fits
    show (if 100 ≤ r.rxRawFrameIndex + 1 then 0 else r.rxRawFrameIndex + 1) = (_ ++ [b]).length
    rw [h.index, if_neg (by omega), List.length_append]
    rfl
  · show crcUpdate r.crc b = _
    rw [h.crc, Place.push_crc]

/-- And so does the byte that is compared. -/
theorem at_turn {q : Place} (h : At c₀ q r) (b : UInt8) (heq : q.Complete) :
    At c₀ (q.turn b heq) (r.store b).1 := by
  have hlast : r.rxRawFrameIndex = r.rxRawFrameLength := by
    rw [h.index, h.length]
    exact heq
  have hturn : (r.store b).1 = { r with rxRawFrameIndex := 0 } := by
    unfold store
    rw [if_neg h.phase, if_pos hlast]
  rw [hturn]
  exact ⟨h.length, rfl, h.crc.trans (q.turn_crc b c₀ heq).symm⟩

/-- **The receiver is where its bytes are.** -/
theorem feed_place (h : r.Fresh c₀) (us : List UInt8) :
    ∀ q : Place, q.bytes = us → At c₀ q (feed store r us).1 := by
  induction us using List.reverseRecOn with
  | nil => exact fun q hq => absurd hq (by simp [Place.bytes])
  | append_singleton us b ih =>
    intro q hq
    cases q.last with
    | begin k n pos fits hlast =>
      subst hlast
      exact hq ▸ at_begin h k n pos fits
    | push q' b' hlt hlast =>
      subst hlast
      rw [Place.push_bytes] at hq
      obtain ⟨hbytes, hb⟩ := List.append_inj' hq rfl
      obtain rfl := (List.cons.inj hb).1
      rw [feed_append, feed_singleton]
      exact at_push (ih q' hbytes) b' hlt
    | turn q' b' heq hlast =>
      subst hlast
      rw [Place.turn_bytes] at hq
      obtain ⟨hbytes, hb⟩ := List.append_inj' hq rfl
      obtain rfl := (List.cons.inj hb).1
      rw [feed_append, feed_singleton]
      exact at_turn (ih q' hbytes) b' heq

/-- Behind a length that is too large the index does not meet it. -/
theorem feed_large (h : r.Fresh c₀) (hin : r.Inside) (k : Nat) {n : UInt8}
    (hn : rxRawFrameSize ≤ n.toNat) (rest : List UInt8) :
    let s := (feed store r (List.replicate k 0 ++ n :: rest)).1
    s.rxRawFrameIndex ≠ s.rxRawFrameLength := by
  have hzeros := feed_zeros h k
  have hstart : (feed store r (List.replicate k 0)).1.Inside :=
    feed_invariant (I := Inside) (P := fun _ => True) (fun _ b hs _ => (store_inside hs b).1)
      (fun _ _ => trivial) hin
  have hlarge : ∀ (s : Receiver) (b : UInt8), (s.Inside ∧ rxRawFrameSize ≤ s.rxRawFrameLength) →
      True → (s.store b).1.Inside ∧ rxRawFrameSize ≤ (s.store b).1.rxRawFrameLength := by
    intro s b hs _
    refine ⟨(store_inside hs.1 b).1, ?_⟩
    have hbelow : s.rxRawFrameIndex < rxRawFrameSize := hs.1
    have hphase : ¬ (s.rxRawFrameIndex = 0 ∧ s.rxRawFrameLength = 0) := fun hzero =>
      absurd hs.2 (by rw [hzero.2]; decide)
    unfold store
    rw [if_neg hphase, if_neg (hbelow.trans_le hs.2).ne, dif_pos hbelow]
    exact hs.2
  have hbegin : rxRawFrameSize ≤
      ((feed store r (List.replicate k 0)).1.store n).1.rxRawFrameLength := by
    rw [store_fresh hzeros]
    exact hn
  have hrest : (feed store ((feed store r (List.replicate k 0)).1.store n).1 rest).1.Inside ∧
      rxRawFrameSize ≤
        (feed store ((feed store r (List.replicate k 0)).1.store n).1 rest).1.rxRawFrameLength :=
    feed_invariant (I := fun s : Receiver => s.Inside ∧ rxRawFrameSize ≤ s.rxRawFrameLength)
      (P := fun _ => True) hlarge (fun _ _ => trivial) ⟨(store_inside hstart n).1, hbegin⟩
  rw [feed_append, feed_cons]
  exact (lt_of_lt_of_le hrest.1 hrest.2).ne

/-- **Where the receiver compares a byte, and finds it equal.** -/
theorem compares_iff (h : r.Fresh c₀) (hin : r.Inside) (us : List UInt8) (b : UInt8) :
    ((feed store r us).1.store b).2 = .frame ↔
      ∃ q : Place, q.bytes = us ∧ q.Complete ∧ q.crc c₀ = b := by
  rw [store_frame_iff]
  constructor
  · intro hframe
    obtain ⟨hphase, hlast, hcrc⟩ := hframe
    rcases bytes_cases us with ⟨k, rfl⟩ | ⟨q, hq⟩ | ⟨k, n, rest, rfl, hn⟩
    · have hzeros := feed_zeros h k
      exact absurd ⟨hzeros.index, hzeros.length⟩ hphase
    · have hat := feed_place h us q hq
      refine ⟨q, hq, ?_, hat.crc.symm.trans hcrc⟩
      exact hat.index.symm.trans (hlast.trans hat.length)
    · exact absurd hlast (feed_large h hin k hn rest)
  · intro hplace
    obtain ⟨q, hq, hcomplete, hcrc⟩ := hplace
    have hat := feed_place h us q hq
    exact ⟨hat.phase, hat.index.trans (hcomplete.trans hat.length.symm), hat.crc.trans hcrc⟩

end Receiver

/-! ## The stream -/

/-- The bytes since the last mark, or all of them when there has been none. -/
def behindMark (seen : List UInt8) : List UInt8 := (sinceFlag linkCode seen).getD seen

/-- There has been a mark. -/
def Marked (seen : List UInt8) : Prop := (sinceFlag linkCode seen).isSome

/-- The byte `a` behind these bytes is compared with a CRC at the place `q`, and equals it. `crc`
is what the running CRC held before the first mark. -/
structure MatchesAt (crc : UInt8) (seen : List UInt8) (a : UInt8) (q : Place) : Prop where
  mark : a ≠ 0x7E
  esc : a ≠ 0x7D
  bytes : q.bytes = (unstuff linkCode false (behindMark seen)).1
  complete : q.Complete
  crc : q.crc (if (sinceFlag linkCode seen).isSome then crcInit else crc) =
    if (unstuff linkCode false (behindMark seen)).2 then a ^^^ 0x20 else a

/-- A match that is no end of a frame: in front of the first mark, behind a length byte zero, or
in a later round. -/
def Stray (crc : UInt8) (seen : List UInt8) (a : UInt8) : Prop :=
  ∃ q, MatchesAt crc seen a q ∧ ¬ (Marked seen ∧ q.First)

variable {rxRawFrame : Vector UInt8 rxRawFrameSize} {crc : UInt8} {p : Port} {a : UInt8}

/-- What the receiver holds, by the bytes since the last mark. -/
theorem rx_behindMark (hsound : p.Sound (.new rxRawFrame crc)) : ∃ r : Receiver,
    r.Fresh (if (sinceFlag linkCode p.seen).isSome then crcInit else crc) ∧ r.Inside ∧ r.Plain ∧
      p.rx = armed Receiver.arm (unstuff linkCode false (behindMark p.seen)).2
        (feed Receiver.store r (unstuff linkCode false (behindMark p.seen)).1).1 := by
  have hnew : (Receiver.new rxRawFrame crc).Inside := show 0 < 100 by decide
  unfold behindMark
  cases hsince : sinceFlag linkCode p.seen with
  | some after =>
    obtain ⟨hflag, before, hseen⟩ := sinceFlag_spec linkCode hsince
    refine ⟨(feed Receiver.receive (.new rxRawFrame crc) before).1.start, ⟨rfl, rfl, rfl⟩,
      Receiver.start_inside _, rfl, ?_⟩
    rw [hsound.rx, hseen, feed_append]
    exact Receiver.feed_behind_mark _ hflag
  | none =>
    refine ⟨.new rxRawFrame crc, ⟨rfl, rfl, rfl⟩, hnew, rfl, ?_⟩
    rw [hsound.rx]
    have hplain : (Receiver.new rxRawFrame crc).Plain := rfl
    exact feed_unstuff (c := linkCode) (fun s hs => Receiver.receive_unescapes (r := s) hs)
      (fun _ _ => rfl) (fun s b hs => Receiver.store_plain (r := s) hs b)
      (notMem_of_sinceFlag linkCode hsince) hplain false

/-- **The bytes that set `rxflag`**, by the stream. -/
theorem frame_iff (hsound : p.Sound (.new rxRawFrame crc)) (a : UInt8) :
    (p.rx.receive a).2 = .frame ↔ ∃ q, MatchesAt crc p.seen a q := by
  have hidle : Signal.idle ≠ .frame := by decide
  obtain ⟨r, hfresh, hinside, hplain, hrx⟩ := rx_behindMark hsound
  by_cases hmark : a = 0x7E
  · subst hmark
    rw [Receiver.receive_mark]
    exact iff_of_false hidle fun ⟨q, hq⟩ => hq.mark rfl
  by_cases hesc : a = 0x7D
  · subst hesc
    rw [Receiver.receive_esc]
    exact iff_of_false hidle fun ⟨q, hq⟩ => hq.esc rfl
  have hstores : (p.rx.receive a).2 =
      ((feed Receiver.store r (unstuff linkCode false (behindMark p.seen)).1).1.store
        (if (unstuff linkCode false (behindMark p.seen)).2 then a ^^^ 0x20 else a)).2 := by
    have hstored := Receiver.feed_plain hplain (unstuff linkCode false (behindMark p.seen)).1
    have hun := Receiver.receive_unescapes hstored
    have hreserved : ¬ linkCode.Reserved a := fun h => h.elim hmark hesc
    rw [hrx]
    cases (unstuff linkCode false (behindMark p.seen)).2 with
    | true => exact congrArg Prod.snd (hun.armed a hreserved)
    | false => exact congrArg Prod.snd (hun.plain a hreserved)
  rw [hstores, Receiver.compares_iff hfresh hinside]
  exact ⟨fun ⟨q, hbytes, hcomplete, hcrc⟩ => ⟨q, hmark, hesc, hbytes, hcomplete, hcrc⟩,
    fun ⟨q, hq⟩ => ⟨q, hq.bytes, hq.complete, hq.crc⟩⟩

/-! ## The law and its condition -/

/-- The bytes behind the last mark are a length byte that is not zero, that many payload
bytes and their CRC. -/
def EndsFramed (bytes : List UInt8) : Prop :=
  ∃ after n payload, sinceFlag linkCode bytes = some after ∧
    (unstuff linkCode false after).1 = n :: payload ++ [getCRC (n :: payload)] ∧
    n ≠ 0 ∧ payload.length = n.toNat

/-- The law: a byte that sets `rxflag` is the last of a frame. -/
def AcceptsFramed (p : Port) (e : Port.Event) (_ : Port) : Prop :=
  ∀ a rest, e = .byte → p.rest = a :: rest → (p.rx.receive a).2 = .frame →
    EndsFramed (p.seen ++ [a])

/-- The condition: the next byte of the stream is no stray match. -/
def NoStray (crc : UInt8) (p : Port) (e : Port.Event) : Prop :=
  ∀ a rest, e = .byte → p.rest = a :: rest → ¬ Stray crc p.seen a

/-- The last byte unstuffed. -/
theorem unstuff_last (h : a ≠ 0x7D) (pending : Bool) :
    unstuff linkCode pending [a] = ([if pending then a ^^^ 0x20 else a], false) :=
  unstuff_cons linkCode h pending []

/-- A match in the first round behind a mark ends a frame. -/
theorem endsFramed_of_first {seen : List UInt8} {q : Place} (hq : MatchesAt crc seen a q)
    (hmarked : Marked seen) (hfirst : q.First) : EndsFramed (seen ++ [a]) := by
  obtain ⟨after, hsince⟩ := Option.isSome_iff_exists.mp hmarked
  have hbytes := hq.bytes
  have hcrc := hq.crc
  rw [if_pos (show (sinceFlag linkCode seen).isSome = true from hmarked), hfirst.crc_eq] at hcrc
  rw [hfirst.bytes_eq] at hbytes
  rw [behindMark, hsince, Option.getD_some] at hbytes hcrc
  refine ⟨after ++ [a], q.n, q.payload, ?_, ?_, q.pos, hq.complete⟩
  · rw [sinceFlag_append_singleton linkCode hq.mark, hsince]
    rfl
  · rw [unstuff_append, unstuff_last hq.esc, ← hbytes, hcrc]

/-- A match that ends a frame is in the first round behind a mark. -/
theorem first_of_endsFramed {seen : List UInt8} {q : Place} (hq : MatchesAt crc seen a q)
    (h : EndsFramed (seen ++ [a])) : Marked seen ∧ q.First := by
  obtain ⟨after, n, payload, hsince, hframe, hn, hlen⟩ := h
  rw [sinceFlag_append_singleton linkCode hq.mark] at hsince
  obtain ⟨before, hbefore, rfl⟩ := Option.map_eq_some_iff.mp hsince
  rw [unstuff_append, unstuff_last hq.esc] at hframe
  have hbytes := hq.bytes
  rw [behindMark, hbefore, Option.getD_some, (List.append_inj' hframe rfl).1] at hbytes
  exact ⟨Option.isSome_of_eq_some hbefore, q.first_of_bytes hq.complete hbytes hn hlen.le⟩

/-- Streams of frames have none: since the last mark there is no more than a length byte, not zero,
and its payload. -/
theorem not_stray_inFrame {seen after : List UInt8} (hsince : sinceFlag linkCode seen = some after)
    {n : UInt8} {payload : List UInt8} (hbytes : (unstuff linkCode false after).1 = n :: payload)
    (hn : n ≠ 0) (hlen : payload.length ≤ n.toNat) : ¬ Stray crc seen a := by
  rintro ⟨q, hq, hno⟩
  have hplace := hq.bytes
  rw [behindMark, hsince, Option.getD_some, hbytes] at hplace
  exact hno ⟨Option.isSome_of_eq_some hsince, q.first_of_bytes hq.complete hplace hn hlen⟩

/-- **One step** meets the law exactly under the condition. -/
theorem acceptsFramed_iff (e : Port.Event) (p' : Port) (hsound : p.Sound (.new rxRawFrame crc)) :
    AcceptsFramed p e p' ↔ NoStray crc p e := by
  refine forall_congr' fun a => forall_congr' fun rest => forall_congr' fun _ =>
    forall_congr' fun _ => ?_
  rw [frame_iff hsound]
  constructor
  · intro hlaw hstray
    obtain ⟨q, hq, hno⟩ := hstray
    exact hno (first_of_endsFramed hq (hlaw ⟨q, hq⟩))
  · intro hno hmatch
    obtain ⟨q, hq⟩ := hmatch
    obtain ⟨hmarked, hfirst⟩ := by_contra fun hother => hno ⟨q, hq, hother⟩
    exact endsFramed_of_first hq hmarked hfirst

/-- **When the receiver accepts frames only.** In every run of a new head, each byte that sets
`rxflag` is the last of a frame exactly when the stream has no stray match: no byte that equals the
CRC in front of the first mark, behind a length byte zero or in a later round. -/
theorem accepts_framed (rxRawFrame : Vector UInt8 rxRawFrameSize) (crc : UInt8)
    (data : List UInt8) (es : List Port.Event) :
    Runs.Steps (Runs.Graph Port.step) AcceptsFramed (.new rxRawFrame crc data) es ↔
      Runs.Steps (Runs.Graph Port.step) (fun p e _ => NoStray crc p e)
        (.new rxRawFrame crc data) es := by
  refine Runs.Steps.iff_of_invariant (I := Port.Sound (.new rxRawFrame crc))
    (fun p e p' h _ => acceptsFramed_iff e p' h) ?_ ⟨rfl, show 0 < 100 by decide⟩
  intro p e p' h hstep _
  exact Port.graph_sound h hstep

/-- A length byte zero is not taken for a length, but it is in the CRC: a frame behind
it is accepted. -/
theorem zero_length_accepted :
    ¬ Runs.Steps (Runs.Graph Port.step) AcceptsFramed (.new (Vector.replicate 100 0) 0 [])
      (.read [0x7E, 0x00, 0x01, 0x05, 0x25] :: List.replicate 5 .byte) := by
  intro h
  -- up to the last byte
  let es : List Port.Event := .read [0x7E, 0x00, 0x01, 0x05, 0x25] :: List.replicate 4 .byte
  obtain ⟨p, hrun, hsound⟩ := Port.run_sound (Vector.replicate 100 0) 0 [] es
  have hfields : (Runs.run Port.step (.new (Vector.replicate 100 0) 0 []) es).toOption.map
      (fun p => (p.rest, p.seen, (p.rx.receive 0x25).2)) =
        some ([0x25], [0x7E, 0x00, 0x01, 0x05], .frame) := by
    decide +kernel
  rw [hrun] at hfields
  obtain ⟨hrest, hseen, hsignal⟩ : p.rest = [0x25] ∧ p.seen = [0x7E, 0x00, 0x01, 0x05] ∧
      (p.rx.receive 0x25).2 = .frame := by
    have hpair := Option.some.inj hfields
    simpa using hpair
  obtain ⟨p', hp', -⟩ := Port.step_sound hsound .byte
  have hlast : Runs.Steps (Runs.Graph Port.step) AcceptsFramed p [.byte] :=
    h.behind (Runs.run_ok_iff.mp hrun)
  obtain ⟨after, n, payload, hsince, hframe, hn, -⟩ := (hlast p' hp').1 0x25 [] rfl hrest hsignal
  rw [hseen] at hsince
  obtain rfl : [0x00, 0x01, 0x05, 0x25] = after := Option.some.inj hsince
  exact hn (List.cons.inj hframe).1.symm

end Solarbot.Head
