import Solarbot.Link.Client

/-!
# The command session and the cuts of its stream

A stream of encrypted frames is cut into reads as the network likes. While every
read is a whole number of blocks, the cuts do not show: the decrypted reads are the
plain stream, cut at the same places (`decrypt_flatten`), and the framer carries
over. What shows is an exception, since it drops the rest of its read; `SparesNext`
says that the rest holds nothing of the next frame. Where it does, the frame's start
mark is dropped with it, and there are fewer marks left than frames to answer
(`chunks_lost`).

A read that is not a whole number of blocks leaves its last bytes as they are, and
the next read is decrypted from the middle of a block on.
`Session.log_eq_ownLog_iff`: for given lengths of the reads, the same is done as with
one read a frame, for every key and every list of frames, if and only if all the
lengths are multiples of sixteen. For the converse one key and one `Ping`, sent over and over, are enough, whatever the
lengths are: sixteen bytes from anywhere in its ciphertext never decrypt to more than
one start mark (`sample_sparse`), so a read of `l` bytes brings at most `l / 16`
answers.
-/

namespace Solarbot.Link

open ByteStuffing

variable {crc : List UInt8 → UInt16} {raises : List Action → Bool}

/-! ## Exceptions and the end of their read -/

/-- No read that completes a command that throws reaches into the next frame: what
is `leftover` of it is padding. The `k` bytes in front of the packets are behind the
framer. -/
def SparesNext (raises : List Action → Bool) (ls : List Nat) :
    List Action → List (Packet crc) → Nat → Prop
  | _, [], _ => True
  | log, p :: ps, k =>
    (p.throws raises log = true →
      Chunks.leftover ls (k + (p.frame.wire crc).length) ≤ p.padding.length) ∧
    SparesNext raises ls (log ++ [p.action]) ps (k + p.plain.length)

/-- A frame has bytes on the wire. -/
theorem wire_pos (t : TxFrame) : 0 < (t.wire crc).length := by
  rw [t.wire_eq]
  exact Nat.succ_pos _

/-- The condition only looks at the reads from position `j` on. -/
theorem sparesNext_shift {ls ls' : List Nat} {j : Nat}
    (h : ∀ n, 0 < n → Chunks.leftover ls (j + n) = Chunks.leftover ls' n) {log : List Action}
    {sent : List (Packet crc)} {k : Nat} :
    SparesNext raises ls log sent (j + k) ↔ SparesNext raises ls' log sent k := by
  induction sent generalizing log k with
  | nil => exact Iff.rfl
  | cons p ps ih =>
    have hpos : 0 < (p.frame.wire crc).length := wire_pos p.frame
    unfold SparesNext
    rw [Nat.add_assoc, Nat.add_assoc, ih, h _ (by omega)]

/-- One read a packet. -/
theorem sparesNext_own (log : List Action) (sent : List (Packet crc)) :
    SparesNext raises (sent.map fun p => p.plain.length) log sent 0 := by
  induction sent generalizing log with
  | nil => trivial
  | cons p ps ih =>
    refine ⟨fun _ => ?_, ?_⟩
    · have hplain : p.plain.length = (p.frame.wire crc).length + p.padding.length := by
        rw [Packet.plain, List.length_append]
      rw [List.map_cons, Chunks.leftover, if_pos (by omega)]
      omega
    · rw [Nat.add_comm]
      refine (sparesNext_shift ?_).mpr (ih _)
      intro n hn
      rw [List.map_cons, Chunks.leftover, if_neg (by omega), Nat.add_sub_cancel_left]

/-- Every read ends where a packet can, seen from `k` bytes in front of one. -/
def EndsAt (ls : List Nat) (k : Nat) : Prop :=
  ∀ n, 0 < n → n ≤ ls.sum → (n + Chunks.leftover ls n) % 16 = k % 16

/-- Whole blocks leave nothing over. -/
theorem endsAt_of_dvd {ls : List Nat} (h : ∀ l ∈ ls, 16 ∣ l) : EndsAt ls 0 := by
  intro n _ hn
  exact Nat.mod_eq_zero_of_dvd (Chunks.dvd_add_leftover h hn)

/-- The cuts behind a part of the reads are those of the rest. -/
theorem EndsAt.shift {ls ls' : List Nat} {j k k' : Nat} (hal : EndsAt ls k)
    (h : ∀ n, 0 < n → Chunks.leftover ls (j + n) = Chunks.leftover ls' n)
    (hsum : ls.sum = j + ls'.sum) (hk : (j + k') % 16 = k % 16) : EndsAt ls' k' := by
  intro n hn hle
  have := hal (j + n) (by omega) (by omega)
  rw [h n hn] at this
  omega

namespace Client

/-! ## Start marks -/

/-- A report ends the frame. -/
theorem storeByte_reports {f : Frame} {a : UInt8} (h : (f.storeByte crc a).2 = true) :
    (f.storeByte crc a).1.decoding = false := by
  have hcheck : ∀ (g : Frame) hg, (g.checkPayload crc hg).2 = true →
      (g.checkPayload crc hg).1.decoding = false := by
    intro g hg
    unfold Frame.checkPayload
    dsimp only
    split
    · exact fun _ => rfl
    · exact fun h => absurd h (by simp)
  have hafter : ∀ (g : Frame) hg, (g.afterStore crc hg).2 = true →
      (g.afterStore crc hg).1.decoding = false := by
    intro g hg
    unfold Frame.afterStore
    split
    · exact fun h => absurd h (by simp)
    · split
      · split
        · exact hcheck g _
        · exact fun h => absurd h (by simp)
      · exact fun h => absurd h (by simp)
  unfold Frame.storeByte at h ⊢
  split
  next hlt =>
    rw [dif_pos hlt] at h
    exact hafter (f.put a hlt) hlt h
  next hlt => rfl

/-- A frame that is reported ends the decoding. -/
theorem store_reports {f f' : Frame} {a : UInt8} {m : Message}
    (h : f.store crc a = (f', some m)) : f'.decoding = false := by
  rw [Frame.store, Prod.mk.injEq] at h
  obtain ⟨rfl, hm⟩ := h
  refine storeByte_reports ?_
  by_contra hr
  rw [if_neg hr] at hm
  exact absurd hm (by simp)

/-- What was done, and one more for a frame that is being decoded. -/
def credit (c : Client) : Nat := c.log.length + c.framer.decoding.toNat

/-- A dispatch adds one to the credit at most. -/
theorem dispatch_credit (c : Client) : (c.dispatch raises).1.credit ≤ c.credit + 1 := by
  unfold dispatch
  split
  · simp only [credit, List.length_append, List.length_singleton]
    omega
  · split
    · simp only [credit, List.length_append, List.length_singleton, Frame.terminate]
      omega
    · exact Nat.le_succ _

/-- Only a start mark can add to it. -/
theorem decodeByte_credit (c : Client) (a : UInt8) :
    (decodeByte crc raises c a).1.credit ≤ c.credit + [a].count 0x7E := by
  obtain ⟨f, log⟩ := c
  by_cases ha : a = 0x7E
  · subst ha
    rw [decodeByte_of_none raises (f.receive_start crc) log]
    simp only [credit, Frame.start, List.count_singleton_self]
    simp
  · rw [List.count_singleton, if_neg (by simpa using ha), Nat.add_zero]
    -- a stored byte can only turn the frame that is being decoded into an action
    rcases f.receive_cases crc ha with ⟨hd, hr⟩ | ⟨hd, -, hr⟩ | ⟨hd, -, b, hr⟩
    · rw [decodeByte_of_none raises hr]
    · rw [decodeByte_of_none raises hr]
      exact Nat.le_refl _
    · cases hs : f.disarm.store crc b with
      | mk f' o =>
        rw [hs] at hr
        cases o with
        | none =>
          rw [decodeByte_of_none raises hr]
          have := f'.decoding.toNat_le
          simp only [credit, hd, Bool.toNat_true]
          omega
        | some m =>
          have hcredit := @dispatch_credit raises ⟨f', log⟩
          rw [decodeByte_of_some raises hr]
          simp only [credit, store_reports hs, hd, Bool.toNat_true, Bool.toNat_false] at hcredit ⊢
          omega

/-- One read adds to the credit no more than its marks. -/
theorem chunk_credit (c : Client) (bs : List UInt8) :
    (Chunks.chunk (decodeByte crc raises) c bs).credit ≤ c.credit + bs.count 0x7E := by
  induction bs generalizing c with
  | nil => exact Nat.le_refl _
  | cons b bs ih =>
    have hb := @decodeByte_credit crc raises c b
    have hcount : (b :: bs).count 0x7E = [b].count 0x7E + bs.count 0x7E := by
      rw [← List.count_append, List.singleton_append]
    rw [Chunks.chunk]
    split
    · omega
    · have := ih (decodeByte crc raises c b).1
      omega

/-- And so does a row of reads. -/
theorem chunks_credit (c : Client) (css : List (List UInt8)) :
    (Chunks.chunks (decodeByte crc raises) c css).credit ≤ c.credit + css.flatten.count 0x7E := by
  induction css generalizing c with
  | nil => exact Nat.le_refl _
  | cons cs css ih =>
    have hread := @chunk_credit crc raises c cs
    have hrest := ih (Chunks.chunk (decodeByte crc raises) c cs)
    rw [List.flatten_cons, List.count_append]
    rw [Chunks.chunks] at hrest ⊢
    rw [List.foldl_cons]
    omega

/-- A packet has one start mark, its second byte. -/
theorem count_plain_append (p : Packet crc) (bs : List UInt8) :
    ((p.plain ++ bs).drop 2).count 0x7E = bs.count 0x7E := by
  have hraw : (stuffAll linkCode (p.frame.raw crc)).count 0x7E = 0 :=
    List.count_eq_zero.mpr (flag_notMem_stuffAll _ _)
  have hpad : p.padding.count 0x7E = 0 :=
    List.count_eq_zero.mpr fun h => p.padding_ne _ h rfl
  rw [Packet.plain, TxFrame.wire_eq, List.cons_append, List.cons_append, List.cons_append,
    List.cons_append, List.drop_succ_cons, List.drop_succ_cons, List.drop_zero, List.count_append,
    List.count_append, hraw, hpad, Nat.zero_add]

/-- A packet brings one mark. -/
theorem count_packets_le (ps : List (Packet crc)) :
    (ps.flatMap Packet.plain).count 0x7E ≤ ps.length := by
  induction ps with
  | nil => exact Nat.le_refl _
  | cons p ps ih =>
    have hmark := count_plain_append p (ps.flatMap Packet.plain)
    rw [Packet.plain, TxFrame.wire_eq, List.cons_append, List.cons_append, List.cons_append,
      List.cons_append, List.drop_succ_cons, List.drop_succ_cons, List.drop_zero] at hmark
    rw [List.flatMap_cons, Packet.plain, TxFrame.wire_eq, List.cons_append, List.cons_append,
      List.cons_append, List.cons_append, List.count_cons_of_ne p.frame.rnd_ne,
      List.count_cons_self, hmark, List.length_cons]
    omega

/-- Without the mark of the first packet there is one less. -/
theorem count_drop_packets (p : Packet crc) (ps : List (Packet crc)) {d : Nat} (hd : 2 ≤ d) :
    (((p :: ps).flatMap Packet.plain).drop d).count 0x7E ≤ ps.length := by
  rw [List.flatMap_cons]
  calc ((p.plain ++ ps.flatMap Packet.plain).drop d).count 0x7E
      ≤ ((p.plain ++ ps.flatMap Packet.plain).drop 2).count 0x7E :=
        (List.drop_sublist_drop_left _ hd).count_le _
    _ = (ps.flatMap Packet.plain).count 0x7E := count_plain_append p _
    _ ≤ ps.length := count_packets_le ps

/-! ## The plain stream -/

/-- Filler and the frame of a packet: parsed to the end but for the last byte, which
dispatches. -/
theorem quiet_segment {f : Frame} (hf : f.Between) {filler : List UInt8}
    (hfill : ∀ b ∈ filler, b ≠ 0x7E) (p : Packet crc) (log : List Action) :
    ∃ init last c f', filler ++ p.frame.wire crc = init ++ [last] ∧
      Chunks.Quiet (decodeByte crc raises) ⟨f, log⟩ init c ∧ f'.Between ∧
      decodeByte crc raises c last = (⟨f', log ++ [p.action]⟩, p.throws raises log) := by
  have hpos : 0 < (p.frame.wire crc).length := wire_pos p.frame
  obtain ⟨f', hfeed, hm, hd, he⟩ := @feed_segment crc f hf.decoding hf.escaping _ hfill p.frame
  have hne : filler ++ p.frame.wire crc ≠ [] := by
    intro hnil
    rw [(List.append_eq_nil_iff.mp hnil).2] at hpos
    exact absurd hpos (by simp)
  obtain ⟨init, last, hsplit⟩ := (List.eq_nil_or_concat' _).resolve_left hne
  have hlen : init.length = filler.length + (p.frame.wire crc).length - 1 := by
    have := congrArg List.length hsplit
    rw [List.length_append, List.length_append, List.length_singleton] at this
    omega
  rw [hsplit, feed_append, reportsLast, ← hlen, Prod.mk.injEq] at hfeed
  obtain ⟨hstate, hout⟩ := hfeed
  -- one output a byte: the silent ones are those of `init`
  obtain ⟨hsilent, hlast⟩ := List.append_inj hout (by
    rw [feed_length, List.length_replicate])
  rw [feed_singleton] at hstate hlast
  have hrecv : ((feed (Frame.receive crc) f init).1).receive crc last
      = (f', some p.frame.message) := Prod.ext hstate (List.cons.inj hlast).1
  obtain ⟨f'', hbetween, hdisp⟩ := dispatch_packet raises (p := p) hm ⟨hd, he⟩ log
  refine ⟨init, last, _, f'', hsplit, quiet_of_feed raises hsilent log, hbetween, ?_⟩
  rw [decodeByte_of_some raises hrecv, hdisp]

/-- **The next packet.** It is answered or executed inside a read of which `r` is left
then; `rs` are the reads behind. -/
theorem chunks_packet {f : Frame} (hf : f.Between) {filler : List UInt8}
    (hfill : ∀ b ∈ filler, b ≠ 0x7E) (p : Packet crc) (log : List Action) {rest : List UInt8}
    {css : List (List UInt8)} (hflat : css.flatten = filler ++ (p.plain ++ rest)) :
    ∃ f' r rs, f'.Between ∧ r ++ rs.flatten = p.padding ++ rest ∧
      Chunks.chunks (decodeByte crc raises) ⟨f, log⟩ css
        = Chunks.chunks (decodeByte crc raises) ⟨f', log ++ [p.action]⟩
            (if p.throws raises log then rs else r :: rs) ∧
      ∀ n, Chunks.leftover (css.map List.length) (filler.length + (p.frame.wire crc).length + n)
        = Chunks.leftover ((r :: rs).map List.length) n := by
  obtain ⟨init, last, c₁, f', hsplit, hq, hf', hlast⟩ := quiet_segment hf hfill p log
  rw [Packet.plain, List.append_assoc, ← List.append_assoc, hsplit, List.append_assoc,
    List.singleton_append] at hflat
  -- up to the last byte of the frame, and that byte
  obtain ⟨css₁, hflat₁, hrun₁, hleft₁⟩ := Chunks.chunks_append hq hflat
  obtain ⟨r, rs, hflat₂, hrun₂, hleft₂⟩ := Chunks.chunks_cons c₁ hflat₁
  refine ⟨f', r, rs, hf', hflat₂, ?_, fun n => ?_⟩
  · rw [hrun₁, hrun₂, hlast]
  · have hlen := congrArg List.length hsplit
    rw [List.length_append, List.length_append, List.length_singleton] at hlen
    rw [hlen, Nat.add_assoc, Nat.add_comm 1, hleft₁, hleft₂]

/-- A packet that lost its mark with the read `r` is not made up for. -/
theorem chunks_lost {c : Client} {ps : List (Packet crc)} {padding r : List UInt8}
    {rs : List (List UInt8)} (hd : c.framer.decoding = false)
    (hflat : r ++ rs.flatten = padding ++ ps.flatMap Packet.plain)
    (hr : padding.length + 2 ≤ r.length) :
    (Chunks.chunks (decodeByte crc raises) c rs).log ≠ c.log ++ ps.map Packet.action := by
  have hrest : rs.flatten = (ps.flatMap Packet.plain).drop (r.length - padding.length) := by
    have := congrArg (List.drop r.length) hflat
    rwa [List.drop_left, List.drop_append, List.drop_eq_nil_of_le (by omega),
      List.nil_append] at this
  intro hlog
  have hlen := congrArg List.length hlog
  rw [List.length_append, List.length_map] at hlen
  cases ps with
  | nil =>
    have := congrArg List.length hflat
    simp only [List.flatMap_nil, List.length_append, List.length_nil] at this
    omega
  | cons q qs =>
    have hcredit := @chunks_credit crc raises c rs
    have hmarks := count_drop_packets q qs (show 2 ≤ r.length - padding.length by omega)
    rw [hrest] at hcredit
    simp only [credit, hd, Bool.toNat_false] at hcredit
    rw [List.length_cons] at hlen
    omega

/-- **The plain stream, in any chunks that end at blocks.** From between two frames,
behind some filler, every packet is answered or executed once and in order, if and
only if no exception drops a part of the next one. -/
theorem chunks_packets_iff (sent : List (Packet crc)) :
    ∀ {c : Client} {filler : List UInt8} {css : List (List UInt8)}, c.framer.Between →
      (∀ b ∈ filler, b ≠ 0x7E) → css.flatten = filler ++ sent.flatMap Packet.plain →
      EndsAt (css.map List.length) filler.length →
      ((Chunks.chunks (decodeByte crc raises) c css).log = c.log ++ sent.map Packet.action ↔
        SparesNext raises (css.map List.length) c.log sent filler.length) := by
  induction sent with
  | nil =>
    intro c filler css hc hfill hflat _
    obtain ⟨f, log⟩ := c
    have hidle := @feed_filler crc f hc.decoding _ hfill
    have hq : Chunks.Quiet (decodeByte crc raises) ⟨f, log⟩ filler _ :=
      quiet_of_feed raises (by rw [hidle]) log
    obtain ⟨css', hflat', hrun, -⟩ := Chunks.chunks_append hq hflat
    rw [hrun, Chunks.chunks_nil _ hflat', List.map_nil, List.append_nil]
    exact iff_of_true rfl trivial
  | cons p ps ih =>
    intro c filler css hc hfill hflat hends
    obtain ⟨f, log⟩ := c
    rw [List.flatMap_cons] at hflat
    -- the first packet is dispatched within some read, of which `r` is left
    obtain ⟨f', r, rs, hf', hrest, hrun, hleft⟩ := chunks_packet hc hfill p log hflat
    have hplain : p.plain.length = (p.frame.wire crc).length + p.padding.length := by
      rw [Packet.plain, List.length_append]
    have hblocks := p.plain_length
    have hsum : (css.map List.length).sum
        = filler.length + (p.frame.wire crc).length + ((r :: rs).map List.length).sum := by
      have htotal := congrArg List.length hflat
      have hsuffix := congrArg List.length hrest
      rw [List.length_append, List.length_append, List.length_flatten] at htotal hsuffix
      rw [List.map_cons, List.sum_cons]
      omega
    -- so the condition is one on `r` and one on the packets behind
    have hspare : SparesNext raises (css.map List.length) log (p :: ps) filler.length ↔
        (p.throws raises log = true → r.length ≤ p.padding.length) ∧
          SparesNext raises ((r :: rs).map List.length) (log ++ [p.action]) ps
            p.padding.length := by
      have hzero := hleft 0
      rw [Nat.add_zero, Chunks.leftover_zero] at hzero
      rw [SparesNext, hzero, hplain, ← Nat.add_assoc, sparesNext_shift fun n _ => hleft n]
    have hends' : EndsAt ((r :: rs).map List.length) p.padding.length :=
      hends.shift (fun n _ => hleft n) hsum (by omega)
    rw [hrun, hspare, List.map_cons, List.append_cons log p.action (ps.map Packet.action)]
    cases hthrow : p.throws raises log with
    | false =>
      have := @ih ⟨f', log ++ [p.action]⟩ _ (r :: rs) hf' p.padding_ne hrest hends'
      simpa using this
    | true =>
      by_cases hr : r.length ≤ p.padding.length
      · -- the rest of the read is dropped, and it is padding
        have hdrop : rs.flatten = p.padding.drop r.length ++ ps.flatMap Packet.plain := by
          have := congrArg (List.drop r.length) hrest
          rwa [List.drop_left, List.drop_append_of_le_length hr] at this
        have hk : p.padding.length = r.length + (p.padding.drop r.length).length := by
          rw [List.length_drop]
          omega
        have hskip := fun n (hn : 0 < n) => Chunks.leftover_skip r rs hn
        have := @ih ⟨f', log ++ [p.action]⟩ _ rs hf'
          (fun b hb => p.padding_ne b (List.mem_of_mem_drop hb)) hdrop
          (hends'.shift hskip (by rw [List.map_cons, List.sum_cons]) (by rw [← hk]))
        rw [hk, sparesNext_shift hskip]
        exact this.trans ⟨fun h => ⟨fun _ => by omega, h⟩, fun h => h.2⟩
      · -- it reaches a block into the next packet, whose mark is dropped with it
        refine iff_of_false ?_ fun h => hr (h.1 rfl)
        have hzero := hleft 0
        rw [Nat.add_zero, Chunks.leftover_zero] at hzero
        have hmod := hends (filler.length + (p.frame.wire crc).length)
          (Nat.add_pos_right _ (wire_pos p.frame)) (by omega)
        rw [hzero] at hmod
        exact @chunks_lost crc raises ⟨f', log ++ [p.action]⟩ ps p.padding r rs hf'.decoding hrest
          (by omega)

/-! ## Whole blocks -/

/-- One read, whatever its length. -/
theorem readOnce_eq (keys : List UInt8) (c : Client) (buffer : List UInt8) :
    readOnce crc raises keys c buffer
      = Chunks.chunk (decodeByte crc raises) c
          (Aes128.decrypt keys buffer (buffer.length / 16)) := by
  unfold readOnce
  split
  · rfl
  · next h =>
    rw [List.length_eq_zero_iff.mp (Nat.eq_zero_of_not_pos h)]
    rfl

/-- The thread decodes what it decrypts, read by read. -/
theorem threadClient_eq (keys : List UInt8) (c : Client) (reads : List (List UInt8)) :
    threadClient crc raises keys c reads
      = Chunks.chunks (decodeByte crc raises) c
          (reads.map fun r => Aes128.decrypt keys r (r.length / 16)) := by
  induction reads generalizing c with
  | nil => rfl
  | cons r reads ih =>
    rw [threadClient, List.foldl_cons, readOnce_eq]
    exact ih _

/-- Reads of whole blocks are decrypted to the decrypted stream. -/
theorem decrypt_flatten (keys : List UInt8) {reads : List (List UInt8)}
    (h : ∀ r ∈ reads, 16 ∣ r.length) :
    (reads.map fun r => Aes128.decrypt keys r (r.length / 16)).flatten
      = Aes128.decrypt keys reads.flatten (reads.flatten.length / 16) := by
  induction reads with
  | nil => rfl
  | cons r reads ih =>
    obtain ⟨k, hk⟩ := h r (List.mem_cons_self ..)
    rw [List.map_cons, List.flatten_cons, ih fun r' hr' => h r' (List.mem_cons_of_mem _ hr'),
      List.flatten_cons, List.length_append, hk, Nat.mul_add_div (by omega),
      Nat.mul_div_cancel_left _ (by omega), Aes128.decrypt_append keys _ _ (by omega)]

/-- What the packets decrypt to is their plain stream. -/
theorem decrypt_packets (keys : List UInt8) (sent : List (Packet crc)) :
    (sent.map (Packet.cipher keys)).map (fun r => Aes128.decrypt keys r (r.length / 16))
      = sent.map Packet.plain := by
  rw [List.map_map]
  refine List.map_congr_left ?_
  intro p _
  show Aes128.decrypt keys (p.cipher keys) ((p.cipher keys).length / 16) = p.plain
  rw [Packet.cipher_length, Nat.mul_div_cancel_left _ (by omega)]
  exact Aes128.decrypt_encrypt keys (Nat.le_of_eq p.plain_length.symm)

/-- Reads of whole blocks decrypt to the packets that were sent. -/
theorem decrypt_stream (keys : List UInt8) {sent : List (Packet crc)} {reads : List (List UInt8)}
    (hflat : reads.flatten = sent.flatMap (Packet.cipher keys))
    (h : ∀ r ∈ reads, 16 ∣ r.length) :
    (reads.map fun r => Aes128.decrypt keys r (r.length / 16)).flatten
      = sent.flatMap Packet.plain := by
  have hown : ∀ r ∈ sent.map (Packet.cipher keys), 16 ∣ r.length := by
    intro r hr
    obtain ⟨p, -, rfl⟩ := List.mem_map.mp hr
    exact ⟨p.blocks, p.cipher_length keys⟩
  have := decrypt_flatten keys hown
  rw [decrypt_packets, ← List.flatMap_def, ← List.flatMap_def, ← hflat] at this
  rw [decrypt_flatten keys h, this]

theorem decrypt_lengths (keys : List UInt8) (reads : List (List UInt8)) :
    (reads.map fun r => Aes128.decrypt keys r (r.length / 16)).map List.length
      = reads.map List.length := by
  rw [List.map_map]
  refine List.map_congr_left ?_
  intro r _
  exact Aes128.decrypt_length keys (by omega)

/-- **Reads of whole blocks.** From between two frames everything that was sent is done,
in order, if and only if no exception drops a part of a frame. -/
theorem threadClient_log {keys : List UInt8} {c : Client} {sent : List (Packet crc)}
    {reads : List (List UInt8)} (hc : c.framer.Between)
    (hflat : reads.flatten = sent.flatMap (Packet.cipher keys))
    (h : ∀ r ∈ reads, 16 ∣ r.length) :
    (threadClient crc raises keys c reads).log = c.log ++ sent.map Packet.action ↔
      SparesNext raises (reads.map List.length) c.log sent 0 := by
  have hends : EndsAt (reads.map List.length) 0 := endsAt_of_dvd fun l hl => by
    obtain ⟨r, hr, rfl⟩ := List.mem_map.mp hl
    exact h r hr
  have hlens := decrypt_lengths keys reads
  have := @chunks_packets_iff crc raises sent c [] _ hc (fun b hb => absurd hb (by simp))
    (decrypt_stream keys hflat h) (by rwa [hlens])
  rwa [← threadClient_eq, hlens] at this

/-- One read a packet. -/
theorem threadClient_own {keys : List UInt8} {c : Client} (hc : c.framer.Between)
    (sent : List (Packet crc)) :
    (threadClient crc raises keys c (sent.map (Packet.cipher keys))).log
      = c.log ++ sent.map Packet.action := by
  have hlens : (sent.map (Packet.cipher keys)).map List.length
      = sent.map fun p => p.plain.length := by
    rw [List.map_map]
    exact List.map_congr_left fun p _ => (p.cipher_length keys).trans p.plain_length.symm
  refine (threadClient_log hc List.flatMap_def.symm fun r hr => ?_).mpr ?_
  · obtain ⟨p, -, rfl⟩ := List.mem_map.mp hr
    exact ⟨p.blocks, p.cipher_length keys⟩
  · rw [hlens]
    exact sparesNext_own c.log sent

end Client

/-! ## Reads that are not whole blocks -/

/-- Sixteen bytes from anywhere in the ciphertext decrypt to at most one start mark,
and it has none itself. -/
structure Sparse (keys bytes : List UInt8) : Prop where
  raw : bytes.count 0x7E = 0
  window : ∀ k, k + 16 ≤ bytes.length →
    (Aes128.decryptBlock keys (.ofBytes ((bytes.drop k).take 16))).toBytes.count 0x7E ≤ 1

/-- A part of a sparse stream is sparse. -/
theorem Sparse.left {keys as bs : List UInt8} (h : Sparse keys (as ++ bs)) : Sparse keys as := by
  have hraw := h.raw
  rw [List.count_append] at hraw
  refine ⟨by omega, ?_⟩
  intro k hk
  have := h.window k (by rw [List.length_append]; omega)
  rwa [List.drop_append_of_le_length (by omega),
    List.take_append_of_le_length (by rw [List.length_drop]; omega)] at this

theorem Sparse.right {keys as bs : List UInt8} (h : Sparse keys (as ++ bs)) : Sparse keys bs := by
  have hraw := h.raw
  rw [List.count_append] at hraw
  refine ⟨by omega, ?_⟩
  intro k hk
  have := h.window (as.length + k) (by rw [List.length_append]; omega)
  rwa [← List.drop_drop, List.drop_left] at this

/-- A read brings at most one start mark a block. -/
theorem Sparse.count_decrypt {keys : List UInt8} (k : Nat) :
    ∀ {bytes : List UInt8}, Sparse keys bytes → 16 * k ≤ bytes.length →
      (Aes128.decrypt keys bytes k).count 0x7E ≤ k := by
  induction k with
  | zero =>
    intro bytes h _
    exact Nat.le_of_eq h.raw
  | succ k ih =>
    intro bytes h hk
    have hrest : Sparse keys (bytes.drop 16) := by
      have := h
      rw [← List.take_append_drop 16 bytes] at this
      exact this.right
    have hwindow := h.window 0 (by omega)
    have := ih hrest (by rw [List.length_drop]; omega)
    unfold Aes128.decrypt at this ⊢
    rw [Blocks.mapBlocks, List.count_append]
    rw [List.drop_zero] at hwindow
    omega

/-- Over a sparse stream the credit grows by one for each block at most. -/
theorem threadClient_credit {keys : List UInt8} (reads : List (List UInt8)) :
    ∀ {c : Client}, Sparse keys reads.flatten →
      (c.threadClient crc raises keys reads).credit
        ≤ c.credit + (reads.map fun r => r.length / 16).sum := by
  induction reads with
  | nil => exact fun _ => Nat.le_refl _
  | cons r reads ih =>
    intro c h
    rw [List.flatten_cons] at h
    have hread := @Client.chunk_credit crc raises c
      (Aes128.decrypt keys r (r.length / 16))
    have hmarks := h.left.count_decrypt (r.length / 16) (by omega)
    have hrest := ih (c := c.readOnce crc raises keys r) h.right
    rw [Client.threadClient, List.foldl_cons, List.map_cons, List.sum_cons]
    rw [Client.threadClient] at hrest
    rw [Client.readOnce_eq] at hrest ⊢
    omega

/-- The whole blocks are not longer than the reads. -/
theorem sum_blocks_le (ls : List Nat) : 16 * (ls.map (· / 16)).sum ≤ ls.sum := by
  induction ls with
  | nil => exact Nat.le_refl _
  | cons l ls ih =>
    rw [List.map_cons, List.sum_cons, List.sum_cons]
    omega

/-- A length that is not a multiple of sixteen costs a block. -/
theorem sum_blocks_lt {ls : List Nat} (h : ¬ ∀ l ∈ ls, 16 ∣ l) :
    16 * (ls.map (· / 16)).sum < ls.sum := by
  induction ls with
  | nil => exact absurd (fun l hl => absurd hl (by simp)) h
  | cons l ls ih =>
    rw [List.map_cons, List.sum_cons, List.sum_cons]
    by_cases hl : 16 ∣ l
    · have := ih fun hls => h (List.forall_mem_cons.mpr ⟨hl, hls⟩)
      omega
    · have := sum_blocks_le ls
      omega

/-! ## One ping over and over -/

def sampleKey : List UInt8 := List.replicate 16 0

def samplePing : Packet calculate where
  frame := .ping 1 (show 0x00 ≠ 0x7E by decide)
  blocks := 1
  type_ok := Or.inl rfl
  fits := by decide +kernel
  max := by decide

/-- The ciphertext of the ping. -/
def sampleBlock : List UInt8 := samplePing.cipher (Aes128.setKey sampleKey)

theorem sampleBlock_length : sampleBlock.length = 16 := samplePing.cipher_length _

theorem sampleBlock_count : sampleBlock.count 0x7E = 0 := by decide +kernel

/-- Wherever the sample is cut, a wrong block has one mark at most. -/
theorem sampleBlock_rotate : ∀ k ∈ List.range 16,
    (Aes128.decryptBlock (Aes128.setKey sampleKey)
      (.ofBytes (sampleBlock.rotate k))).toBytes.count 0x7E ≤ 1 := by decide +kernel

/-- However often the ping is sent. -/
theorem sample_sparse (n : Nat) :
    Sparse (Aes128.setKey sampleKey) (List.replicate n sampleBlock).flatten := by
  have hlen := sampleBlock_length
  induction n with
  | zero => exact ⟨rfl, fun k hk => absurd hk (by simp)⟩
  | succ n ih =>
    have hcons : (List.replicate (n + 1) sampleBlock).flatten
        = sampleBlock ++ (List.replicate n sampleBlock).flatten := by
      rw [List.replicate_succ, List.flatten_cons]
    rw [hcons]
    refine ⟨by rw [List.count_append, sampleBlock_count, ih.raw], ?_⟩
    intro k hk
    rw [List.length_append, hlen] at hk
    by_cases hk16 : 16 ≤ k
    · -- behind the first block
      obtain ⟨j, rfl⟩ := Nat.exists_eq_add_of_le hk16
      have := ih.window j (by omega)
      rwa [← List.drop_drop, ← hlen, List.drop_left]
    · -- across its end: the end of the block and the start of the next, which is its start
      have hwindow : ((sampleBlock ++ (List.replicate n sampleBlock).flatten).drop k).take 16
          = sampleBlock.rotate k := by
        rw [List.rotate_eq_drop_append_take (by omega), List.drop_append_of_le_length (by omega),
          List.take_append, List.take_of_length_le (by rw [List.length_drop]; omega),
          List.length_drop, hlen, Nat.sub_sub_self (by omega)]
        cases n with
        | zero =>
          have hk0 : k = 0 := by simpa using hk
          rw [hk0]
          rfl
        | succ n =>
          rw [List.replicate_succ, List.flatten_cons, List.take_append_of_le_length (by omega)]
      rw [hwindow]
      exact sampleBlock_rotate k (List.mem_range.mpr (by omega))

/-! ## The cuts do not show if and only if they are between blocks -/

/-- Without exceptions, from any state of the framer. -/
theorem threadClient_log_of_never (hnever : ∀ log, raises log = false) {keys : List UInt8}
    (c : Client) {sent : List (Packet crc)} {reads : List (List UInt8)}
    (hflat : reads.flatten = sent.flatMap (Packet.cipher keys))
    (h : ∀ r ∈ reads, 16 ∣ r.length) :
    c.threadClient crc raises keys reads
      = c.threadClient crc raises keys (sent.map (Packet.cipher keys)) := by
  have hquiet : ∀ (c : Client) a, (c.decodeByte crc raises a).2 = false := by
    intro c a
    unfold Client.decodeByte Client.dispatch
    dsimp only
    split
    · split
      · rfl
      · split
        · exact hnever _
        · rfl
    · rfl
  rw [Client.threadClient_eq, Client.threadClient_eq, Chunks.chunks_eq_chunk hquiet,
    Chunks.chunks_eq_chunk hquiet, Client.decrypt_stream keys hflat h, Client.decrypt_packets,
    List.flatMap_def]

/-- A stream of one ping over and over, in reads of these lengths. -/
theorem sample_lost {ls : List Nat} {n : Nat} (hsum : ls.sum = 16 * n) (h : ¬ ∀ l ∈ ls, 16 ∣ l)
    {c : Client} (hc : c.framer.Between) {reads : List (List UInt8)}
    (hlens : reads.map List.length = ls)
    (hflat : reads.flatten = (List.replicate n sampleBlock).flatten) :
    (c.threadClient calculate raises (Aes128.setKey sampleKey) reads).log.length
      < c.log.length + n := by
  have hcredit := @threadClient_credit calculate raises _ reads c
    (by rw [hflat]; exact sample_sparse n)
  have hlt := sum_blocks_lt h
  rw [← hlens, List.map_map] at hlt
  rw [← hlens] at hsum
  have hblocks : (reads.map fun r => r.length / 16).sum < n := by
    simp only [Function.comp_def] at hlt
    omega
  simp only [Client.credit, hc.decoding, Bool.toNat_false] at hcredit
  omega

/-- A session: what is sent, and the reads its ciphertext is cut into. -/
structure Session (ls : List Nat) where
  key : List UInt8
  client : Client
  sent : List (Packet calculate)
  reads : List (List UInt8)
  key_length : key.length = 16
  lengths : reads.map List.length = ls
  stream : reads.flatten = sent.flatMap (Packet.cipher (Aes128.setKey key))

namespace Session

variable {ls : List Nat}

/-- What is done for the peer. -/
def log (raises : List Action → Bool) (s : Session ls) : List Action :=
  (s.client.threadClient calculate raises (Aes128.setKey s.key) s.reads).log

/-- What is done when every packet arrives in a read of its own. -/
def ownLog (raises : List Action → Bool) (s : Session ls) : List Action :=
  (s.client.threadClient calculate raises (Aes128.setKey s.key)
    (s.sent.map (Packet.cipher (Aes128.setKey s.key)))).log

/-- No read that completes a command that throws reaches into the next frame. -/
def Spares (raises : List Action → Bool) (s : Session ls) : Prop :=
  SparesNext raises ls s.client.log s.sent 0

/-- The ping `n` times, cut at any lengths. -/
def pings {n : Nat} (hsum : ls.sum = 16 * n) : Session ls :=
  have hlen : (List.replicate n sampleBlock).flatten.length = ls.sum := by
    rw [List.length_flatten, List.map_replicate, List.sum_replicate_nat, sampleBlock_length, hsum,
      Nat.mul_comm]
  { key := sampleKey
    client := ⟨Frame.new 0 0 0 (Vector.replicate 1024 0), []⟩
    sent := List.replicate n samplePing
    reads := ls.splitLengths (List.replicate n sampleBlock).flatten
    key_length := rfl
    lengths := List.map_splitLengths_length _ _ (Nat.le_of_eq hlen.symm)
    stream := by
      rw [List.flatten_splitLengths _ _ (Nat.le_of_eq hlen), List.flatMap_def, List.map_replicate]
      rfl }

theorem pings_between {n : Nat} (hsum : ls.sum = 16 * n) :
    (pings hsum).client.framer.Between := ⟨rfl, rfl⟩

/-- A ping throws nothing. -/
theorem pings_spares {n : Nat} (hsum : ls.sum = 16 * n) : (pings hsum).Spares raises := by
  have hpings : ∀ m log k, SparesNext raises ls log (List.replicate m samplePing) k := by
    intro m
    induction m with
    | zero => exact fun _ _ => trivial
    | succ m ih =>
      intro log k
      refine ⟨fun ht => ?_, ih _ _⟩
      exact absurd ht (by simp [Packet.throws, samplePing, TxFrame.ping])
  exact hpings n _ _

/-- Reads that are not whole blocks lose a ping. -/
theorem pings_lost {n : Nat} (hsum : ls.sum = 16 * n) (h : ¬ ∀ l ∈ ls, 16 ∣ l) :
    (pings hsum).log raises ≠ (pings hsum).ownLog raises := by
  intro heq
  have hflat : (pings hsum).reads.flatten = (List.replicate n sampleBlock).flatten := by
    rw [(pings hsum).stream, List.flatMap_def]
    show ((List.replicate n samplePing).map _).flatten = _
    rw [List.map_replicate]
    rfl
  have hlost : ((pings hsum).log raises).length < (pings hsum).client.log.length + n :=
    sample_lost hsum h (pings_between hsum) (pings hsum).lengths hflat
  have hown : (pings hsum).ownLog raises = _ := Client.threadClient_own (pings_between hsum) _
  have hlen : (pings hsum).sent.length = n := List.length_replicate
  rw [heq, hown, List.length_append, List.length_map, hlen] at hlost
  exact absurd hlost (Nat.lt_irrefl _)

theorem whole_reads {s : Session ls} (h : ∀ l ∈ ls, 16 ∣ l) : ∀ r ∈ s.reads, 16 ∣ r.length :=
  fun _ hr => h _ (s.lengths ▸ List.mem_map_of_mem hr)

/-- Reads of whole blocks, from between two frames. -/
theorem log_iff_spares {s : Session ls} (h : ∀ l ∈ ls, 16 ∣ l) (hc : s.client.framer.Between) :
    s.log raises = s.ownLog raises ↔ s.Spares raises := by
  have hlog := @Client.threadClient_log calculate raises _ _ _ _ hc s.stream (whole_reads h)
  rw [s.lengths] at hlog
  rw [ownLog, Client.threadClient_own hc]
  exact hlog

/-- **The cuts of the stream.** For reads of given lengths, adding up to whole blocks,
every session whose exceptions spare the next frame does what one read a frame does,
if and only if every read is a whole number of blocks. Where every read is, no other
session from between two frames does. -/
theorem log_eq_ownLog_iff (raises : List Action → Bool) {n : Nat} (hsum : ls.sum = 16 * n) :
    ((∀ s : Session ls,
        (∀ log, raises log = false) ∨ s.client.framer.Between ∧ s.Spares raises →
        s.log raises = s.ownLog raises) ↔ ∀ l ∈ ls, 16 ∣ l) ∧
    ((∀ l ∈ ls, 16 ∣ l) → ∀ s : Session ls, s.client.framer.Between →
      (s.log raises = s.ownLog raises ↔ s.Spares raises)) := by
  refine ⟨⟨fun h => ?_, fun h s hs => ?_⟩, fun h s hc => log_iff_spares h hc⟩
  · by_contra hls
    exact pings_lost hsum hls (h _ (Or.inr ⟨pings_between hsum, pings_spares hsum⟩))
  · rcases hs with hnever | ⟨hc, hspare⟩
    · rw [log, ownLog, threadClient_log_of_never hnever s.client s.stream (whole_reads h)]
    · exact (log_iff_spares h hc).mpr hspare

/-- Three pings in two reads: the cut is between two blocks. -/
theorem pings_in_two_reads :
    (pings (show [32, 16].sum = 16 * 3 from rfl)).log (fun _ => false)
      = (pings (show [32, 16].sum = 16 * 3 from rfl)).ownLog (fun _ => false) :=
  (log_eq_ownLog_iff (fun _ => false) (show [32, 16].sum = 16 * 3 from rfl)).1.mpr (by decide) _
    (Or.inl fun _ => rfl)

end Session

/-- One ping in two reads of eight bytes: no block is ever decrypted, and nothing is
answered. -/
theorem ping_in_halves :
    let keys := Aes128.setKey sampleKey
    let c : Client := ⟨Frame.new 0 0 0 (Vector.replicate 1024 0), []⟩
    let reads := [sampleBlock.take 8, sampleBlock.drop 8]
    reads.map List.length = [8, 8] ∧ reads.flatten = [samplePing].flatMap (Packet.cipher keys) ∧
      (c.threadClient calculate (fun _ => false) keys reads).log = [] ∧
      (c.threadClient calculate (fun _ => false) keys
        ([samplePing].map (Packet.cipher keys))).log = [.pingACK 1] := by
  intro keys c reads
  have hlens : reads.map List.length = [8, 8] := by
    simp [reads, sampleBlock_length]
  have hflat : reads.flatten = sampleBlock := by
    simp [reads]
  have hlost := @sample_lost (fun _ => false) [8, 8] 1 rfl (by decide) c ⟨rfl, rfl⟩ reads hlens
    (by simpa using hflat)
  refine ⟨hlens, ?_, ?_, ?_⟩
  · rw [hflat, List.flatMap_singleton]
    rfl
  · exact List.length_eq_zero_iff.mp (Nat.lt_one_iff.mp hlost)
  · exact Client.threadClient_own (c := c) ⟨rfl, rfl⟩ [samplePing]

end Solarbot.Link
