import Solarbot.Rtk.Passes

/-!
# What the RTK server gets

The client answers a challenge with a message under the key that is in the challenge, and goes
on writing under this key until the next one. The indices of the key loop are four more than
those of the other two clients, so the key is the one the server extracts from its 64 bytes
when these stand behind four others (`extractKey_unsigned`), and the server reads the fields of
every message it gets from then on (`challenge_answered`).

`thread_never_faults` is about all runs: with an unsigned `char`, no access leaves the buffer
whatever was received; a message fits its buffer as long as the three configured texts are
short; and how many messages there are is a matter of how many challenges and silences there
were.
-/

namespace Solarbot.Rtk

open Link

variable {K : Type} [Field K] [LinearOrder K] [FloorRing K]

/-! ## The text -/

/-- A coordinate as it is written. -/
def numberText (x : K) : List UInt8 := (CText.fixed 6 x).map fun c => UInt8.ofNat c.toNat

/-- The fields of the message. -/
def authFields (s : Settings) (location : Nav.Point K) : List (List UInt8) :=
  [Telemetry.ascii "ROV", Telemetry.cString s.myID, Telemetry.cString s.rtkServerPassword,
    Telemetry.cString s.rtkServerAskingBase, numberText location.lat, numberText location.lon]

theorem authText_eq (s : Settings) (location : Nav.Point K) :
    authText s location = List.intercalate [0x2C] (authFields s location) := by
  have hhead : Telemetry.ascii "ROV," = Telemetry.ascii "ROV" ++ [0x2C] := rfl
  have hcomma : Telemetry.ascii "," = [0x2C] := rfl
  unfold authText authFields numberText
  rw [hhead, hcomma]
  simp [List.intercalate]

/-- A coordinate has neither a comma nor a zero in it. -/
theorem numberText_plain {x : K} {b : UInt8} (h : b ∈ numberText x) : b ≠ 0x2C ∧ b ≠ 0 := by
  obtain ⟨c, hc, rfl⟩ := List.mem_map.mp h
  rcases CText.mem_fixed hc with rfl | rfl | hdigit
  · decide
  · decide
  · obtain ⟨hlo, hhi⟩ := CText.isDigit_range hdigit
    have hbyte : (UInt8.ofNat c.toNat).toNat = c.toNat := by
      rw [UInt8.toNat_ofNat']
      exact Nat.mod_eq_of_lt (by omega)
    refine ⟨fun hb => ?_, fun hb => ?_⟩
    · rw [hb] at hbyte
      have : (0x2C : UInt8).toNat = 44 := rfl
      omega
    · rw [hb] at hbyte
      have : (0 : UInt8).toNat = 0 := rfl
      omega

theorem zero_notMem_cString (t : List UInt8) : 0 ∉ Telemetry.cString t := by
  intro h
  have hne := List.mem_takeWhile_imp h
  simp at hne

theorem zero_notMem_authText (s : Settings) (location : Nav.Point K) : 0 ∉ authText s location := by
  have hcomma : (0 : UInt8) ∉ Telemetry.ascii "," := by decide
  have hnumber : ∀ x : K, 0 ∉ (CText.fixed 6 x).map fun c => UInt8.ofNat c.toNat :=
    fun x h => (numberText_plain (x := x) h).2 rfl
  unfold authText
  simp only [List.mem_append, not_or]
  exact ⟨⟨⟨⟨⟨⟨⟨⟨⟨by decide, zero_notMem_cString _⟩, hcomma⟩, zero_notMem_cString _⟩, hcomma⟩,
    zero_notMem_cString _⟩, hcomma⟩, hnumber _⟩, hcomma⟩, hnumber _⟩

theorem padded_length (text : List UInt8) : (padded text).length = 16 * blocks text.length := by
  unfold padded blocks
  rw [List.length_append, List.length_replicate]
  omega

/-- The text is what a C function sees of the padded one. -/
theorem cString_padded {text : List UInt8} (h : 0 ∉ text) :
    Telemetry.cString (padded text) = text := by
  have hroom : 16 * blocks text.length - text.length = 15 - text.length % 16 + 1 := by
    unfold blocks
    omega
  have hall : ∀ b ∈ text, decide (b ≠ 0) = true :=
    fun b hb => decide_eq_true fun he => h (he ▸ hb)
  unfold Telemetry.cString padded
  rw [hroom, List.replicate_succ, List.takeWhile_append_of_pos hall]
  simp

/-! ## The message -/

/-- What a server with this key makes of a message: it takes whole blocks, at most as many as
the buffer of the client has, and reads the fields of what the blocks decrypt to. -/
structure Reads (key : List UInt8) (m : List UInt8) (fields : List (List UInt8)) : Prop where
  blocks : m.length % 16 = 0
  fits : m.length ≤ authBufferSize
  fields : Telemetry.splitFields
    (Telemetry.cString (Aes128.decrypt (Aes128.setKey key) m (m.length / 16))) = fields

/-- A configured text without a comma. -/
structure Settings.CommaFree (s : Settings) : Prop where
  myID : 0x2C ∉ s.myID
  rtkServerPassword : 0x2C ∉ s.rtkServerPassword
  rtkServerAskingBase : 0x2C ∉ s.rtkServerAskingBase

theorem splitFields_authText {s : Settings} (hs : s.CommaFree) (location : Nav.Point K) :
    Telemetry.splitFields (authText s location) = authFields s location := by
  have hc : ∀ {t : List UInt8}, 0x2C ∉ t → 0x2C ∉ Telemetry.cString t :=
    fun ht hmem => ht (List.takeWhile_subset _ hmem)
  have hfree : ∀ field ∈ authFields s location, 0x2C ∉ field := by
    intro field hfield
    simp only [authFields, List.mem_cons, List.not_mem_nil, or_false] at hfield
    rcases hfield with rfl | rfl | rfl | rfl | rfl | rfl
    · decide
    · exact hc hs.myID
    · exact hc hs.rtkServerPassword
    · exact hc hs.rtkServerAskingBase
    · exact fun h => (numberText_plain h).1 rfl
    · exact fun h => (numberText_plain h).1 rfl
  rw [Telemetry.splitFields, authText_eq]
  exact List.splitOn_intercalate _ hfree (by simp [authFields])

theorem message_reads {s : Settings} (hs : s.CommaFree) (key : List UInt8)
    {location : Nav.Point K} (hfits : (authText s location).length < authBufferSize) :
    Reads key (message (Aes128.setKey key) s location) (authFields s location) := by
  have hplain := padded_length (authText s location)
  have hlength : (message (Aes128.setKey key) s location).length =
      16 * blocks (authText s location).length := by
    rw [message, Aes128.encrypt_length _ (by omega), hplain]
  have hblocks : blocks (authText s location).length ≤ 8 := by
    unfold blocks
    unfold authBufferSize at hfits
    omega
  refine ⟨by omega, ?_, ?_⟩
  · unfold authBufferSize
    omega
  · rw [hlength, Nat.mul_div_cancel_left _ (by decide), message,
      Aes128.decrypt_encrypt _ (by omega), cString_padded (zero_notMem_authText s location),
      splitFields_authText hs]

namespace Client

variable {s : Settings} {c c' : Client} {e : Event K}

/-! ## From one challenge to the next -/

/-- Between two challenges every message is written under the key of the first. -/
theorem run_sent {es : List (Event K)} (hes : ∀ e ∈ es, e.kind .unsigned ≠ .challenge) :
    ∀ {c c' : Client}, Runs.run (step .unsigned s) c es = .ok c' →
      ∃ new, c'.sent = c.sent ++ new ∧ ∀ m ∈ new, ∃ e ∈ es,
        (authText s e.location).length < authBufferSize ∧ m = message c.aes s e.location := by
  induction es with
  | nil =>
    intro c c' h
    obtain rfl := Except.ok.inj h
    exact ⟨[], (List.append_nil _).symm, fun m hm => absurd hm List.not_mem_nil⟩
  | cons e es ih =>
    intro c c' h
    obtain ⟨m, hm, hrest⟩ := Loops.bind_ok h
    obtain ⟨behind, hbehind, hmessages⟩ := ih (fun e he => hes e (List.mem_cons_of_mem _ he)) hrest
    -- what is sent behind the first pass, under the same key
    have hlater : m.aes = c.aes → ∀ x ∈ behind, ∃ e' ∈ e :: es,
        (authText s e'.location).length < authBufferSize ∧ x = message c.aes s e'.location := by
      intro haes x hx
      obtain ⟨e', he', hfits, hx⟩ := hmessages x hx
      exact ⟨e', List.mem_cons_of_mem _ he', hfits, by rw [hx, haes]⟩
    rcases step_messages hm with ⟨hkind, -⟩ | ⟨-, -, -, haes, hsent⟩ |
      ⟨-, -, -, haes, hfits, hsent⟩ | ⟨-, -, -, haes, hsent⟩
    · exact absurd hkind (hes e List.mem_cons_self)
    · exact ⟨behind, by rw [hbehind, hsent], hlater haes⟩
    · refine ⟨message c.aes s e.location :: behind, ?_, fun x hx => ?_⟩
      · rw [hbehind, hsent, List.append_assoc]
        rfl
      · rcases List.mem_cons.mp hx with rfl | hx
        · exact ⟨e, List.mem_cons_self, hfits, rfl⟩
        · exact hlater haes x hx
    · exact ⟨behind, by rw [hbehind, hsent], hlater haes⟩

/-- A datagram of the server: `ROV` and another byte, the 64 bytes of its key, and whatever
else. -/
def challenge (fourth : UInt8) (serverKey : Vector UInt8 64) (rest : List UInt8) : List UInt8 :=
  Telemetry.ascii "ROV" ++ fourth :: (serverKey.toList ++ rest)

omit [Field K] [LinearOrder K] [FloorRing K] in
theorem challenge_received (fourth : UInt8) (serverKey : Vector UInt8 64) (rest : List UInt8)
    (location : Nav.Point K) :
    ∃ behind, Event.received ⟨some (challenge fourth serverKey rest), location⟩ =
      Telemetry.ascii "ROV" ++ fourth :: (serverKey.toList ++ behind) := by
  refine ⟨rest.take (maxUdpSize - 68), ?_⟩
  have hlength : (Telemetry.ascii "ROV" ++ fourth :: serverKey.toList).length = 68 := by
    rw [List.length_append, List.length_cons, Vector.length_toList]
    rfl
  have hsplit : ∀ t, Telemetry.ascii "ROV" ++ fourth :: (serverKey.toList ++ t) =
      (Telemetry.ascii "ROV" ++ fourth :: serverKey.toList) ++ t := fun t => by simp
  have hwhole : (Telemetry.ascii "ROV" ++ fourth :: serverKey.toList).take 1024 =
      Telemetry.ascii "ROV" ++ fourth :: serverKey.toList := List.take_of_length_le (by omega)
  rw [Event.received, Option.getD_some, challenge, hsplit, hsplit, List.take_append, hlength,
    hwhole]

omit [Field K] [LinearOrder K] [FloorRing K] in
theorem challenge_kind (fourth : UInt8) (serverKey : Vector UInt8 64) (rest : List UInt8)
    (location : Nav.Point K) :
    Event.kind .unsigned ⟨some (challenge fourth serverKey rest), location⟩ = .challenge := by
  obtain ⟨behind, hreceived⟩ := challenge_received fourth serverKey rest location
  have hlong : ¬ (Telemetry.ascii "ROV" ++ fourth :: (serverKey.toList ++ behind)).length ≤ 4 := by
    rw [List.length_append, List.length_cons, List.length_append, Vector.length_toList]
    have : (Telemetry.ascii "ROV").length = 3 := rfl
    omega
  unfold Event.kind
  rw [hreceived, if_neg hlong]
  rfl

/-- A challenge is answered under its key. -/
theorem step_challenge {fourth : UInt8} {serverKey : Vector UInt8 64} {rest : List UInt8}
    {location : Nav.Point K}
    (h : c.step .unsigned s ⟨some (challenge fourth serverKey rest), location⟩ = .ok c') :
    c'.aes = Aes128.setKey (Telemetry.extractKey serverKey.toList) ∧
      (authText s location).length < authBufferSize ∧
      c'.sent = c.sent ++ [message c'.aes s location] := by
  have hkind := challenge_kind fourth serverKey rest location
  obtain ⟨behind, hreceived⟩ := challenge_received fourth serverKey rest location
  rcases step_messages h with ⟨-, -, hfits, hsent, key, hkey, haes⟩ | ⟨hsilence, -⟩ |
    ⟨hsilence, -⟩ | ⟨hno, -⟩
  · have hdrop : ∀ t : List UInt8, (Telemetry.ascii "ROV" ++ fourth ::
        (serverKey.toList ++ behind) ++ t).drop 4 = serverKey.toList ++ (behind ++ t) := by
      intro t
      have hfour : (Telemetry.ascii "ROV" ++ [fourth]).length = 4 := rfl
      rw [show Telemetry.ascii "ROV" ++ fourth :: (serverKey.toList ++ behind) ++ t =
        (Telemetry.ascii "ROV" ++ [fourth]) ++ (serverKey.toList ++ (behind ++ t)) by simp,
        List.drop_left' hfour]
    rw [extractKey_unsigned, listen_rxBuffer, hreceived, hdrop,
      Telemetry.extractKey_append Vector.length_toList] at hkey
    obtain rfl := Except.ok.inj hkey
    exact ⟨haes, hfits, hsent⟩
  · exact absurd (hkind.symm.trans hsilence) (by decide)
  · exact absurd (hkind.symm.trans hsilence) (by decide)
  · exact absurd hkind hno

/-- **Whoever challenges the client can read it.** In a run in which a challenge is received at
some point, whatever was received before, every message from the challenge on, up to the next
one, is read by a server that extracts the key from its own 64 bytes; and there is at least the
answer to the challenge. -/
theorem challenge_answered (s : Settings) (hs : s.CommaFree) (memory : Vector UInt8 maxUdpSize)
    (key : Vector UInt8 16) (location here : Nav.Point K) (before after : List (Event K))
    (fourth : UInt8) (serverKey : Vector UInt8 64) (rest : List UInt8)
    (hafter : ∀ e ∈ after, e.kind .unsigned ≠ .challenge) (c' : Client)
    (h : thread .unsigned s memory key location
      (before ++ ⟨some (challenge fourth serverKey rest), here⟩ :: after) = .ok c') :
    ∃ c new, thread .unsigned s memory key location before = .ok c ∧ c'.sent = c.sent ++ new ∧
      (∃ answer later, new = answer :: later ∧
        Reads (Telemetry.extractKey serverKey.toList) answer (authFields s here)) ∧
      ∀ m ∈ new, ∃ e ∈ ⟨some (challenge fourth serverKey rest), here⟩ :: after,
        Reads (Telemetry.extractKey serverKey.toList) m (authFields s e.location) := by
  obtain ⟨c0, hstart, hrun⟩ := Loops.bind_ok h
  obtain ⟨c, hbefore, hbehind⟩ := Runs.path_append (Runs.run_ok_iff.mp hrun)
  obtain ⟨d, hstep, hafterRun⟩ := hbehind
  obtain ⟨haes, hfits, hsent⟩ := step_challenge hstep
  obtain ⟨later, hlater, hmessages⟩ := run_sent hafter (Runs.run_ok_iff.mpr hafterRun)
  have hanswer : Reads (Telemetry.extractKey serverKey.toList) (message d.aes s here)
      (authFields s here) := by
    rw [haes]
    exact message_reads hs _ hfits
  refine ⟨c, message d.aes s here :: later, ?_, ?_, ⟨_, _, rfl, hanswer⟩, ?_⟩
  · rw [thread, hstart]
    exact Runs.run_ok_iff.mpr hbefore
  · rw [hlater, hsent, List.append_assoc]
    rfl
  · intro m hm
    rcases List.mem_cons.mp hm with rfl | hm
    · exact ⟨_, List.mem_cons_self, hanswer⟩
    · obtain ⟨e, he, hfits, rfl⟩ := hmessages m hm
      rw [haes]
      exact ⟨e, List.mem_cons_of_mem _ he, message_reads hs _ hfits⟩

/-- A challenge with a key of zeros, and a silence behind it. -/
theorem challenge_answered_sample :
    ∃ c c' new, thread .unsigned sampleSettings (Vector.replicate maxUdpSize 0)
        (Vector.replicate 16 0) origin [] = .ok c ∧
      thread .unsigned sampleSettings (Vector.replicate maxUdpSize 0) (Vector.replicate 16 0)
        origin [⟨some (challenge 0x2C (Vector.replicate 64 0) []), origin⟩, ⟨none, origin⟩] =
          .ok c' ∧
      c'.sent = c.sent ++ new ∧ new ≠ [] ∧
      ∀ m ∈ new, Reads (Telemetry.extractKey (List.replicate 64 0)) m
        (authFields sampleSettings origin) := by
  have hes : ∀ e ∈ [(⟨some (challenge 0x2C (Vector.replicate 64 0) []), origin⟩ : Event ℚ),
      ⟨none, origin⟩], e.location = origin := by
    intro e he
    rcases List.mem_pair.mp he with rfl | rfl <;> rfl
  have hsilence : ∀ e ∈ [(⟨none, origin⟩ : Event ℚ)], e.kind .unsigned ≠ .challenge := by
    intro e he
    rw [List.mem_singleton.mp he]
    decide
  obtain ⟨-, c', -, -, -, -, h⟩ := thread_total (Vector.replicate maxUdpSize 0)
    (Vector.replicate 16 0) authText_sample fun e he => by
      rw [hes e he]
      exact authText_sample
  obtain ⟨c, new, hc, hsent, ⟨answer, later, hnew, -⟩, hreads⟩ :=
    challenge_answered sampleSettings ⟨List.not_mem_nil, List.not_mem_nil, List.not_mem_nil⟩
      _ _ origin origin [] _ 0x2C (Vector.replicate 64 0) [] hsilence c' h
  refine ⟨c, c', new, hc, h, hsent, ?_, fun m hm => ?_⟩
  · rw [hnew]
    exact List.cons_ne_nil _ _
  · obtain ⟨e, he, hread⟩ := hreads m hm
    rw [hes e he] at hread
    exact hread

/-! ## Every run -/

/-- How often a run receives something of this kind. -/
def count (kind : Kind) (es : List (Event K)) : Nat := es.countP fun e => e.kind .unsigned = kind

/-- A challenge is a message, and so is every fifth silence. -/
theorem run_counts : ∀ {es : List (Event K)} {c c' : Client}, c.tickToSendAloha ≤ 4 →
    Runs.run (step .unsigned s) c es = .ok c' →
      c'.sent.length = c.sent.length + count .challenge es +
        (c.tickToSendAloha + count .silence es) / 5 ∧
      c'.tickToSendAloha = (c.tickToSendAloha + count .silence es) % 5
  | [], c, c', htick, h => by
    obtain rfl := Except.ok.inj h
    have hzero : ∀ kind, count kind ([] : List (Event K)) = 0 := fun _ => rfl
    rw [hzero, hzero]
    exact ⟨by omega, by omega⟩
  | e :: es, c, c', htick, h => by
    obtain ⟨m, hm, hrest⟩ := Loops.bind_ok h
    have hcons : ∀ kind, count kind (e :: es) =
        count kind es + if e.kind .unsigned = kind then 1 else 0 := by
      intro kind
      rw [count, List.countP_cons]
      simp only [decide_eq_true_eq]
      rfl
    rw [hcons, hcons]
    -- a challenge, a silence below the fifth, the fifth, or nothing that is answered
    rcases step_messages hm with ⟨hkind, htick', -, hsent, -⟩ | ⟨hkind, hlow, htick', -, hsent⟩ |
      ⟨hkind, hhigh, htick', -, -, hsent⟩ | ⟨hchallenge, hsilence, htick', -, hsent⟩
    · obtain ⟨hlength, hend⟩ := run_counts (by omega) hrest
      rw [hsent, List.length_append, List.length_singleton] at hlength
      rw [hkind, if_pos rfl, if_neg (by decide)]
      exact ⟨by omega, by omega⟩
    · obtain ⟨hlength, hend⟩ := run_counts (by omega) hrest
      rw [hsent] at hlength
      rw [hkind, if_neg (by decide), if_pos rfl]
      exact ⟨by omega, by omega⟩
    · obtain ⟨hlength, hend⟩ := run_counts (by omega) hrest
      rw [hsent, List.length_append, List.length_singleton] at hlength
      rw [hkind, if_neg (by decide), if_pos rfl]
      exact ⟨by omega, by omega⟩
    · obtain ⟨hlength, hend⟩ := run_counts (by omega) hrest
      rw [hsent] at hlength
      rw [if_neg hchallenge, if_neg hsilence]
      exact ⟨by omega, by omega⟩

end Client

/-- Coordinates in degrees. -/
def OnEarth (location : Nav.Point K) : Prop :=
  |location.lat| ≤ ((90 : ℕ) : K) ∧ |location.lon| ≤ ((180 : ℕ) : K)

/-- The configured texts leave room for the coordinates. -/
def Settings.Short (s : Settings) : Prop :=
  (Telemetry.cString s.myID).length + (Telemetry.cString s.rtkServerPassword).length +
    (Telemetry.cString s.rtkServerAskingBase).length ≤ 98

theorem authText_fits [IsStrictOrderedRing K] {s : Settings} (hs : s.Short)
    {location : Nav.Point K} (h : OnEarth location) :
    (authText s location).length < authBufferSize := by
  have hlat := CText.fixed_length_le (k := 6) (j := 2) (by decide) (by decide) h.1
  have hlon := CText.fixed_length_le (k := 6) (j := 3) (by decide) (by decide) h.2
  have hrov : (Telemetry.ascii "ROV,").length = 4 := rfl
  have hcomma : (Telemetry.ascii ",").length = 1 := rfl
  unfold Settings.Short at hs
  unfold authText authBufferSize
  simp only [List.length_append, List.length_map, hrov, hcomma]
  omega

/-- **The thread never leaves its buffers**, and keeps its schedule: in every run with short
texts and locations on the Earth, and with any datagrams at all, there is one message at the
beginning, one for each challenge, and one for five silences. -/
theorem thread_never_faults [IsStrictOrderedRing K] (s : Settings) (hs : s.Short)
    (memory : Vector UInt8 maxUdpSize) (key : Vector UInt8 16) (location : Nav.Point K)
    (hlocation : OnEarth location) (es : List (Event K)) (hes : ∀ e ∈ es, OnEarth e.location) :
    ∃ c', Client.thread .unsigned s memory key location es = .ok c' ∧
      c'.sent.length = 1 + Client.count .challenge es + Client.count .silence es / 5 ∧
      c'.tickToSendAloha = Client.count .silence es % 5 := by
  obtain ⟨c, c', -, htick, hsent, hrun, hthread⟩ :=
    Client.thread_total memory key (authText_fits hs hlocation)
      fun e he => authText_fits hs (hes e he)
  obtain ⟨hlength, hend⟩ := Client.run_counts (by omega) hrun
  exact ⟨c', hthread, by omega, by omega⟩

/-- Five silences. -/
theorem thread_never_faults_sample :
    ∃ c', Client.thread .unsigned sampleSettings (Vector.replicate maxUdpSize 0)
        (Vector.replicate 16 0) origin (List.replicate 5 ⟨none, origin⟩) = .ok c' ∧
      c'.sent.length = 2 ∧ c'.tickToSendAloha = 0 := by
  have hearth : OnEarth origin := by
    refine ⟨?_, ?_⟩
    · norm_num [origin]
    · norm_num [origin]
  have hes : ∀ e ∈ List.replicate 5 (⟨none, origin⟩ : Event ℚ), OnEarth e.location := by
    intro e he
    rw [List.eq_of_mem_replicate he]
    exact hearth
  exact thread_never_faults sampleSettings (Nat.zero_le 98) _ _ origin hearth _ hes

end Solarbot.Rtk
