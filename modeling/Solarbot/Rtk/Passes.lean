import Solarbot.Lib.Loops
import Solarbot.Rtk.Client

/-!
# One pass of the loop

What a pass does is decided by the received bytes alone (`Event.kind`): `step_eq` has one case
for each kind, and `step_messages` says what a pass sends. With an unsigned `char` a pass only
faults where the text does not fit (`step_total`), since the indices of the key loop come out of
bytes divided by four (`extractKey_unsigned`).
-/

namespace Solarbot.Rtk

open Link

variable {K : Type} [Field K] [LinearOrder K] [FloorRing K]

/-- What the reception leaves at the start of the buffer. -/
def Event.received (e : Event K) : List UInt8 := (e.datagram.getD []).take maxUdpSize

/-- What a reception is taken for. -/
inductive Kind where
  | correction | challenge | unknown | silence
  deriving DecidableEq, Repr

def Event.kind (char : PlainChar) (e : Event K) : Kind :=
  if e.received.length ≤ 4 then .silence
  else if char.value (e.received.getD 0 0) = 0xD3 then .correction
  else if e.received.take 3 = Telemetry.ascii "ROV" then .challenge
  else .unknown

omit [Field K] [LinearOrder K] [FloorRing K] in
theorem Event.kind_correction_iff {char : PlainChar} {e : Event K} : e.kind char = .correction ↔
    4 < e.received.length ∧ char.value (e.received.getD 0 0) = 0xD3 := by
  unfold Event.kind
  by_cases hshort : e.received.length ≤ 4
  · rw [if_pos hshort]
    exact iff_of_false (by decide) fun h => by omega
  · rw [if_neg hshort]
    by_cases hfirst : char.value (e.received.getD 0 0) = 0xD3
    · rw [if_pos hfirst]
      exact iff_of_true rfl ⟨not_le.mp hshort, hfirst⟩
    · rw [if_neg hfirst]
      refine iff_of_false ?_ fun h => hfirst h.2
      split
      · decide
      · decide

/-- The message, encrypted. -/
def message (aes : List UInt8) (s : Settings) (location : Nav.Point K) : List UInt8 :=
  Aes128.encrypt aes (padded (authText s location)) (blocks (authText s location).length)

namespace Client

variable {char : PlainChar} {s : Settings} {c c' : Client} {e : Event K}

/-- The client with what was received. -/
def listen (c : Client) (e : Event K) : Client := (e.datagram.map c.recvfrom).getD c

omit [Field K] [LinearOrder K] [FloorRing K] in
theorem listen_rxBuffer (c : Client) (e : Event K) :
    (c.listen e).rxBuffer = e.received ++ c.rxBuffer.drop e.received.length := by
  obtain ⟨_ | datagram, location⟩ := e
  · rfl
  · show datagram.take maxUdpSize ++ c.rxBuffer.drop datagram.length = _
    rw [Event.received, Option.getD_some]
    rcases le_total datagram.length maxUdpSize with h | h
    · rw [List.take_of_length_le h]
    · -- the datagram fills the buffer
      rw [List.length_take_of_le h, List.drop_of_length_le (by rw [c.size]; exact h),
        List.drop_of_length_le (by rw [c.size])]

omit [Field K] [LinearOrder K] [FloorRing K] in
/-- Nothing but the buffer changes. -/
theorem listen_eq (c : Client) (e : Event K) :
    c.listen e = { c with rxBuffer := (c.listen e).rxBuffer, size := (c.listen e).size } := by
  obtain ⟨_ | datagram, location⟩ := e <;> rfl

omit [Field K] [LinearOrder K] [FloorRing K] in
theorem take_listen (c : Client) (e : Event K) {n : Nat} (h : n ≤ e.received.length) :
    (c.listen e).rxBuffer.take n = e.received.take n := by
  rw [listen_rxBuffer, List.take_append_of_le_length h]

/-! ## One pass, by kinds -/

/-- A pass of the loop, once what was received is in the buffer. -/
theorem step_eq (char : PlainChar) (s : Settings) (c : Client) (e : Event K) :
    c.step char s e = match e.kind char with
      | .correction => .ok ((c.listen e).forward e.received.length)
      | .challenge => (c.listen e).answer char s e.location
      | .unknown => .ok (c.listen e)
      | .silence => (c.listen e).silent s e.location := by
  obtain ⟨_ | datagram, location⟩ := e
  · rfl
  · have hlisten : c.recvfrom datagram = c.listen ⟨some datagram, location⟩ := rfl
    have hreceived : datagram.take maxUdpSize = Event.received ⟨some datagram, location⟩ := rfl
    simp only [step, hlisten, hreceived]
    generalize Event.mk (some datagram) location = e
    unfold Event.kind
    by_cases hlong : 4 < e.received.length
    · have hfirst : (c.listen e).rxBuffer.getD 0 0 = e.received.getD 0 0 := by
        rw [listen_rxBuffer, List.getD_append _ _ _ _ (by omega)]
      rw [hfirst, take_listen c e (by omega), if_pos hlong, if_neg (not_le.mpr hlong)]
      split
      · rfl
      · split <;> rfl
    · rw [if_neg hlong, if_pos (not_lt.mp hlong)]

theorem send_ok {location : Nav.Point K}
    (h : c.sendAuthenticationToRTKServer s location = .ok c') :
    (authText s location).length < authBufferSize ∧
      c' = { c with sent := c.sent ++ [message c.aes s location] } := by
  unfold sendAuthenticationToRTKServer at h
  dsimp only at h
  split at h
  next hfits => exact ⟨hfits, (Except.ok.inj h).symm⟩
  next => cases h

/-- An answer changes the key and nothing that the receivers see. -/
theorem answer_ok {location : Nav.Point K} (h : c.answer char s location = .ok c') :
    ∃ key, c.extractKey char 16 11 = .ok key ∧ (authText s location).length < authBufferSize ∧
      c' = { c with
        aesKey := key
        aes := Aes128.setKey key
        sent := c.sent ++ [message (Aes128.setKey key) s location] } := by
  obtain ⟨key, hkey, hsend⟩ := Loops.bind_ok h
  obtain ⟨hfits, hc'⟩ := send_ok hsend
  exact ⟨key, hkey, hfits, hc'⟩

/-- Every fifth silence is a message. -/
theorem silent_ok {location : Nav.Point K} (h : c.silent s location = .ok c') :
    (c.tickToSendAloha < 4 ∧ c' = { c with tickToSendAloha := c.tickToSendAloha + 1 }) ∨
      (4 ≤ c.tickToSendAloha ∧ (authText s location).length < authBufferSize ∧
        c' = { c with
          tickToSendAloha := 0
          sent := c.sent ++ [message c.aes s location] }) := by
  unfold silent at h
  dsimp only at h
  split at h
  next htick =>
    obtain ⟨hfits, hc'⟩ := send_ok h
    exact .inr ⟨by omega, hfits, hc'⟩
  next htick => exact .inl ⟨by omega, (Except.ok.inj h).symm⟩

/-- **What a pass sends**: an answer, under the new key; the fifth of five silences; or
nothing. -/
theorem step_messages {char : PlainChar} (h : c.step char s e = .ok c') :
    (e.kind char = .challenge ∧ c'.tickToSendAloha = c.tickToSendAloha ∧
        (authText s e.location).length < authBufferSize ∧
        c'.sent = c.sent ++ [message c'.aes s e.location] ∧
        ∃ key, (c.listen e).extractKey char 16 11 = .ok key ∧ c'.aes = Aes128.setKey key) ∨
      (e.kind char = .silence ∧ c.tickToSendAloha < 4 ∧
        c'.tickToSendAloha = c.tickToSendAloha + 1 ∧ c'.aes = c.aes ∧ c'.sent = c.sent) ∨
      (e.kind char = .silence ∧ 4 ≤ c.tickToSendAloha ∧ c'.tickToSendAloha = 0 ∧
        c'.aes = c.aes ∧ (authText s e.location).length < authBufferSize ∧
        c'.sent = c.sent ++ [message c.aes s e.location]) ∨
      (e.kind char ≠ .challenge ∧ e.kind char ≠ .silence ∧
        c'.tickToSendAloha = c.tickToSendAloha ∧ c'.aes = c.aes ∧ c'.sent = c.sent) := by
  -- what was received changes none of it
  have hlisten := c.listen_eq e
  have htick : (c.listen e).tickToSendAloha = c.tickToSendAloha := by rw [hlisten]
  have haes : (c.listen e).aes = c.aes := by rw [hlisten]
  have hsent : (c.listen e).sent = c.sent := by rw [hlisten]
  rw [step_eq] at h
  cases hkind : e.kind char with
  | correction =>
    rw [hkind] at h
    obtain rfl := Except.ok.inj h
    exact .inr (.inr (.inr ⟨by decide, by decide, htick, haes, hsent⟩))
  | challenge =>
    rw [hkind] at h
    obtain ⟨key, hkey, hfits, rfl⟩ := answer_ok h
    refine .inl ⟨rfl, htick, hfits, ?_, key, hkey, rfl⟩
    show (c.listen e).sent ++ _ = _
    rw [hsent]
  | unknown =>
    rw [hkind] at h
    obtain rfl := Except.ok.inj h
    exact .inr (.inr (.inr ⟨by decide, by decide, htick, haes, hsent⟩))
  | silence =>
    rw [hkind] at h
    rcases silent_ok h with ⟨hlow, rfl⟩ | ⟨hhigh, hfits, rfl⟩
    · exact .inr (.inl ⟨rfl, by omega, by rw [← htick], haes, hsent⟩)
    · refine .inr (.inr (.inl ⟨rfl, by omega, rfl, haes, hfits, ?_⟩))
      show (c.listen e).sent ++ [message (c.listen e).aes s e.location] = _
      rw [hsent, haes]

/-! ## The key -/

/-- With an unsigned `char` the key loop stays inside the first 68 bytes. -/
theorem extractKey_eq (c : Client) : ∀ (n : Nat) {sv : Nat}, sv < 64 →
    c.extractKey .unsigned n sv =
      .ok ((Telemetry.keyIndices (c.rxBuffer.drop 4) n sv).map fun i =>
        (c.rxBuffer.drop 4).getD i 0) := by
  intro n
  induction n with
  | zero => exact fun _ => rfl
  | succ n ih =>
    intro sv hsv
    have hread : (c.rxBuffer.drop 4).getD sv 0 = c.rxBuffer.getD (sv + 4) 0 := by
      rw [List.getD_eq_getElem?_getD, List.getElem?_drop, ← List.getD_eq_getElem?_getD, add_comm]
    have hbyte : c.byteAt ((sv : Int) + 4) = .ok (c.rxBuffer.getD (sv + 4) 0) := by
      have hindex : ((sv : Int) + 4).toNat = sv + 4 := by omega
      have hinside : sv + 4 < 1024 := by omega
      rw [byteAt, hindex, if_pos ⟨by omega, hinside⟩]
    have hlt := (c.rxBuffer.getD (sv + 4) 0).toNat_lt
    have hdiv : (PlainChar.unsigned.value (c.rxBuffer.getD (sv + 4) 0)).tdiv 4 =
        (((c.rxBuffer.getD (sv + 4) 0).toNat / 4 : Nat) : Int) := rfl
    unfold extractKey
    rw [hbyte]
    show ((c.extractKey .unsigned n _).bind _) = _
    rw [hdiv, ih (by omega), Telemetry.keyIndices, hread, List.map_cons, hread]
    rfl

/-- The key is the one of the 64 bytes behind the first four. -/
theorem extractKey_unsigned (c : Client) :
    c.extractKey .unsigned 16 11 = .ok (Telemetry.extractKey (c.rxBuffer.drop 4)) :=
  c.extractKey_eq 16 (by decide)

/-! ## Runs -/

theorem step_total (c : Client) {e : Event K} (hfits : (authText s e.location).length < authBufferSize) :
    ∃ c', c.step .unsigned s e = .ok c' := by
  have hsend : ∀ c : Client, ∃ c', c.sendAuthenticationToRTKServer s e.location = .ok c' := by
    intro c
    unfold sendAuthenticationToRTKServer
    rw [if_pos hfits]
    exact ⟨_, rfl⟩
  rw [step_eq]
  cases e.kind .unsigned with
  | correction => exact ⟨_, rfl⟩
  | challenge =>
    dsimp only
    unfold answer
    rw [extractKey_unsigned]
    exact hsend _
  | unknown => exact ⟨_, rfl⟩
  | silence =>
    dsimp only
    unfold silent
    dsimp only
    split
    · exact hsend _
    · exact ⟨_, rfl⟩

/-- The thread: the beginning, and then one pass after the other. -/
def thread (char : PlainChar) (s : Settings) (memory : Vector UInt8 maxUdpSize)
    (key : Vector UInt8 16) (location : Nav.Point K) (es : List (Event K)) : Except Fault Client :=
  (start s memory key location).bind fun c => Runs.run (step char s) c es

/-- Where every text fits, a run does not fault. -/
theorem run_total : ∀ {es : List (Event K)},
    (∀ e ∈ es, (authText s e.location).length < authBufferSize) → ∀ c : Client,
      ∃ c', Runs.run (step .unsigned s) c es = .ok c'
  | [], _, c => ⟨c, rfl⟩
  | e :: es, h, c => by
    obtain ⟨m, hm⟩ := c.step_total (h e List.mem_cons_self)
    obtain ⟨c', hc'⟩ := run_total (fun e he => h e (List.mem_cons_of_mem _ he)) m
    exact ⟨c', (Runs.run_cons_ok hm).trans hc'⟩

/-- The thread faults at most where a text does not fit. -/
theorem thread_total (memory : Vector UInt8 maxUdpSize) (key : Vector UInt8 16)
    {location : Nav.Point K} (hlocation : (authText s location).length < authBufferSize)
    {es : List (Event K)} (hes : ∀ e ∈ es, (authText s e.location).length < authBufferSize) :
    ∃ c c', start s memory key location = .ok c ∧ c.tickToSendAloha = 0 ∧ c.sent.length = 1 ∧
      Runs.run (step .unsigned s) c es = .ok c' ∧
      thread .unsigned s memory key location es = .ok c' := by
  have hstart : ∃ c, start s memory key location = .ok c ∧ c.tickToSendAloha = 0 ∧
      c.sent.length = 1 := by
    unfold start sendAuthenticationToRTKServer
    rw [if_pos hlocation]
    exact ⟨_, rfl, rfl, rfl⟩
  obtain ⟨c, hc, htick, hsent⟩ := hstart
  obtain ⟨c', hc'⟩ := run_total hes c
  refine ⟨c, c', hc, htick, hsent, hc', ?_⟩
  rw [thread, hc]
  exact hc'

end Client

/-! ## A client without texts -/

def sampleSettings : Settings := ⟨[], [], []⟩

def origin : Nav.Point ℚ := ⟨0, 0⟩

theorem authText_sample : (authText sampleSettings origin).length < authBufferSize := by
  decide +kernel

end Solarbot.Rtk
