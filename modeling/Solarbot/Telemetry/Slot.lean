import Solarbot.Lib.Runs
import Solarbot.Telemetry.Sender

/-!
# The transmit slot

`Telemetry_Server_Tx_Buffer` carries the handshake and the frames, and one flag says
both that a frame is in it and that the handshake has it. Here the calls of `SendFrame`
come between the socket operations of the thread in any order, and the operations
return anything.

What can be seen of a run is its `history`, the latest first. `session` reads from it
whose key the present connection has, if its authentication is complete. `SlotInv`
relates the members to the history; its last field is the slot: while a connection is
authenticated and the flag is up, the buffer is what the last call that filled it put
together with the connection's key (`SentFrom`). `slot_faithful` is what follows for
every write.
-/

namespace Solarbot.Telemetry

open Link

/-- What can be seen of a step. -/
inductive Obs where
  /-- a call of `SendFrame` -/
  | built (frame : Vector UInt8 80)
  /-- `connect` succeeded -/
  | opened
  | closed
  /-- the authentication with this session key is complete -/
  | authenticated (key : List UInt8)
  | written (buffer : List UInt8)
  deriving DecidableEq

/-- The session key of the present connection once it is authenticated. -/
def session : List Obs → Option (List UInt8)
  | [] => none
  | .authenticated key :: _ => some key
  | .opened :: _ => none
  | .closed :: _ => none
  | _ :: history => session history

/-- A step of the main loop or of the thread. -/
inductive Event where
  | sendFrame (frame : Vector UInt8 80)
  | thread (o : Outcome)

namespace Sender

/-- What the step shows, the latest first. -/
def observe (s : Sender) : Event → List Obs
  | .sendFrame frame => [.built frame]
  | .thread o =>
    let buffers := s.writes.toList.map Obs.written
    match s.pc with
    | .connect => if o.ok then [.opened] else []
    | .auth _ => .authenticated s.aesKey :: buffers
    | .reject => [.closed]
    | .drop => [.closed]
    | _ => buffers

def step (c : Credentials) (s : Sender) : Event → Sender
  | .sendFrame frame => s.sendFrame frame
  | .thread o => s.resume c o

end Sender

/-- The members and what was seen so far. -/
structure Observed where
  sender : Sender
  history : List Obs

namespace Observed

/-- One step of an interleaving. -/
def step (c : Credentials) (w : Observed) (e : Event) : Observed :=
  ⟨w.sender.step c e, w.sender.observe e ++ w.history⟩

end Observed

/-! ## The frame in the slot -/

/-- `buffer` is what the call of `SendFrame` after `before` made of its frame with the
session key `key`, under which the connection was authenticated then; and since then,
up to `history`, there were only calls of `SendFrame`. -/
def SentFrom (key buffer : List UInt8) (history before : List Obs) : Prop :=
  ∃ frame later, history = later ++ .built frame :: before ∧
    (∀ o ∈ later, ∃ f, o = .built f) ∧ session before = some key ∧
    buffer = frameBytes (Aes128.setKey key) frame

theorem SentFrom.built {key buffer : List UInt8} {history before : List Obs}
    (h : SentFrom key buffer history before) (frame : Vector UInt8 80) :
    SentFrom key buffer (.built frame :: history) before := by
  obtain ⟨f, later, rfl, hlater, hsession, hbuffer⟩ := h
  refine ⟨f, .built frame :: later, rfl, fun o ho => ?_, hsession, hbuffer⟩
  rcases List.mem_cons.mp ho with rfl | ho
  · exact ⟨frame, rfl⟩
  · exact hlater o ho

/-- A call has one write at most: behind it there are only calls up to the write. -/
theorem SentFrom.unique {key key' buffer buffer' : List UInt8}
    {history later later' earlier earlier' before : List Obs}
    (hw : history = later ++ .written buffer :: earlier)
    (hw' : history = later' ++ .written buffer' :: earlier')
    (h : SentFrom key buffer earlier before) (h' : SentFrom key' buffer' earlier' before) :
    earlier = earlier' := by
  -- of two writes of one call, the earlier one would be among the calls behind it
  have hlt : ∀ {k k' b b' : List UInt8} {l l' e e' : List Obs},
      l ++ .written b :: e = l' ++ .written b' :: e' → SentFrom k b e before →
      SentFrom k' b' e' before → ¬ e.length < e'.length := by
    rintro k k' b b' l l' e e' heq ⟨f, m, rfl, -⟩ ⟨f', m', rfl, hm', -⟩ hlen
    have hsuffix : .written b :: (m ++ .built f :: before) <:+ m' ++ .built f' :: before := by
      refine List.suffix_of_suffix_length_le (List.suffix_append l _) ?_ hlen
      rw [heq]
      exact (List.suffix_cons _ _).trans (List.suffix_append l' _)
    obtain ⟨t, ht⟩ := hsuffix
    have hcancel : (t ++ .written b :: m) ++ [.built f] = m' ++ [.built f'] := by
      apply List.append_cancel_right
      show _ ++ before = _ ++ before
      simpa using ht
    have hmem : Obs.written b ∈ m' := by
      rw [← (List.append_inj' hcancel rfl).1]
      simp
    obtain ⟨g, hg⟩ := hm' _ hmem
    exact absurd hg (by simp)
  have hflat := hw.symm.trans hw'
  have h₁ := hlt hflat h h'
  have h₂ := hlt hflat.symm h' h
  have hsize : (Obs.written buffer :: earlier).length = (Obs.written buffer' :: earlier').length := by
    rw [List.length_cons, List.length_cons]
    omega
  exact (List.cons.inj (List.append_inj' hflat hsize).2).2

/-! ## The invariant -/

/-- What the members are when the thread is in an operation. -/
def AtPc (s : Sender) : Prop :=
  match s.pc with
  | .loop => True
  | .create => s.isConnected = false
  | .connect => s.socketValid = true ∧ s.isConnected = false
  | .hello | .serverKey | .auth _ | .reject => s.isConnected = true ∧ s.isAutenticated = false
  | .send | .ack | .drop => s.isConnected = true ∧ s.isAutenticated = true ∧ s.flag = true

/-- The buffer holds a frame that was not written yet. -/
def Full (s : Sender) : Prop := s.flag = true ∧ s.pc ≠ .ack ∧ s.pc ≠ .drop

structure SlotInv (w : Observed) : Prop where
  atPc : AtPc w.sender
  socketValid : w.sender.isConnected = true → w.sender.socketValid = true
  disconnected : w.sender.isConnected = false → session w.history = none
  handshaking : w.sender.isConnected = true → w.sender.isAutenticated = false →
    w.sender.flag = true ∧ session w.history = none
  working : w.sender.isConnected = true → w.sender.isAutenticated = true →
    ∃ key, session w.history = some key ∧ w.sender.keys = Aes128.setKey key ∧
      (Full w.sender →
        ∃ before, SentFrom key (w.sender.txBuffer.take txBufferLength) w.history before)

/-- Every write to an authenticated connection so far was a frame of its own. -/
def Faithful (history : List Obs) : Prop :=
  ∀ later buffer earlier key, history = later ++ .written buffer :: earlier →
    session earlier = some key → ∃ before, SentFrom key buffer earlier before

namespace SlotInv

variable {s : Sender} {history : List Obs}

theorem of_disconnected (hc : s.isConnected = false) (hs : session history = none)
    (hpc : AtPc s) : SlotInv ⟨s, history⟩ where
  atPc := hpc
  socketValid h := absurd (hc.symm.trans h) (by simp)
  disconnected _ := hs
  handshaking h := absurd (hc.symm.trans h) (by simp)
  working h := absurd (hc.symm.trans h) (by simp)

theorem of_handshaking (hv : s.socketValid = true) (hc : s.isConnected = true)
    (ha : s.isAutenticated = false) (hf : s.flag = true) (hs : session history = none)
    (hpc : AtPc s) : SlotInv ⟨s, history⟩ where
  atPc := hpc
  socketValid _ := hv
  disconnected h := absurd (hc.symm.trans h) (by simp)
  handshaking _ _ := ⟨hf, hs⟩
  working _ h := absurd (ha.symm.trans h) (by simp)

theorem of_working (hv : s.socketValid = true) (hc : s.isConnected = true)
    (ha : s.isAutenticated = true) {key : List UInt8} (hs : session history = some key)
    (hk : s.keys = Aes128.setKey key)
    (hfull : Full s → ∃ before, SentFrom key (s.txBuffer.take txBufferLength) history before)
    (hpc : AtPc s) : SlotInv ⟨s, history⟩ where
  atPc := hpc
  socketValid _ := hv
  disconnected h := absurd (hc.symm.trans h) (by simp)
  handshaking _ h := absurd (ha.symm.trans h) (by simp)
  working _ _ := ⟨key, hs, hk, hfull⟩

/-- The connection is being authenticated. -/
theorem isHandshaking (h : SlotInv ⟨s, history⟩) (hc : s.isConnected = true ∧ s.isAutenticated = false) :
    s.socketValid = true ∧ s.flag = true ∧ session history = none :=
  ⟨h.socketValid hc.1, h.handshaking hc.1 hc.2⟩

end SlotInv

theorem Faithful.cons {history : List Obs} (h : Faithful history) {o : Obs}
    (ho : ∀ buffer key, o = .written buffer → session history = some key →
      ∃ before, SentFrom key buffer history before) : Faithful (o :: history) := by
  intro later buffer earlier key heq hs
  cases later with
  | nil =>
    obtain ⟨rfl, rfl⟩ := List.cons.inj heq
    exact ho buffer key rfl hs
  | cons o' later => exact h later buffer earlier key (List.cons.inj heq).2 hs

/-! ## The steps -/

/-- A call of `SendFrame`, wherever the thread is. -/
theorem sendFrame_inv {s : Sender} {history : List Obs} (h : SlotInv ⟨s, history⟩)
    (frame : Vector UInt8 80) : SlotInv ⟨s.sendFrame frame, .built frame :: history⟩ := by
  unfold Sender.sendFrame
  split
  next hflag =>
    refine ⟨h.atPc, h.socketValid, h.disconnected, h.handshaking, ?_⟩
    intro hc ha
    obtain ⟨key, hs, hk, hfull⟩ := h.working hc ha
    refine ⟨key, hs, hk, ?_⟩
    intro hF
    obtain ⟨before, hsent⟩ := hfull hF
    exact ⟨before, hsent.built frame⟩
  next hflag =>
    -- the slot was free, so no handshake is under way and nothing is being written
    have hpc : AtPc { s with
        txBuffer := overwrite s.txBuffer (frameBytes s.keys frame), flag := true } := by
      have := h.atPc
      unfold AtPc at this ⊢
      cases hp : s.pc <;> simp_all
    refine ⟨hpc, h.socketValid, h.disconnected, fun hc ha => ⟨rfl, (h.handshaking hc ha).2⟩,
      fun hc ha => ?_⟩
    obtain ⟨key, hs, hk, -⟩ := h.working hc ha
    refine ⟨key, hs, hk, fun _ => ⟨history, frame, [], rfl, by simp, hs, ?_⟩⟩
    show (overwrite s.txBuffer (frameBytes s.keys frame)).take txBufferLength = _
    rw [overwrite, List.take_left' (frameBytes_length _ _), hk]

/-- The head of the loop. -/
theorem loopHead_inv {s : Sender} {history : List Obs} (h : SlotInv ⟨s, history⟩)
    (hpc : s.pc = .loop) : SlotInv ⟨s.loopHead, history⟩ := by
  unfold Sender.loopHead
  rcases Bool.eq_false_or_eq_true s.isConnected with hc | hc
  · have hv : s.socketValid = true := h.socketValid hc
    rw [if_neg (by simp [hv]), if_neg (by simp [hc])]
    rcases Bool.eq_false_or_eq_true s.isAutenticated with ha | ha
    · rw [if_neg (by simp [ha])]
      split
      next hf =>
        obtain ⟨key, hs, hk, hfull⟩ := h.working hc ha
        refine .of_working hv hc ha hs hk (fun _ => ?_) ⟨hc, ha, hf⟩
        exact hfull ⟨hf, by simp [hpc], by simp [hpc]⟩
      next => exact h
    · rw [if_pos (by simp [ha])]
      exact .of_handshaking hv hc ha rfl (h.handshaking hc ha).2 ⟨hc, ha⟩
  · have hs := h.disconnected hc
    split
    next => exact .of_disconnected hc hs hc
    next hv =>
      rw [if_pos (by simp [hc])]
      exact .of_disconnected hc hs ⟨by simpa using hv, hc⟩

/-- **One step of the thread**, and what it writes. -/
theorem resume_inv (c : Credentials) {s : Sender} {history : List Obs}
    (h : SlotInv ⟨s, history⟩) (hF : Faithful history) (o : Outcome) :
    SlotInv ⟨s.resume c o, s.observe (.thread o) ++ history⟩ ∧
      Faithful (s.observe (.thread o) ++ history) := by
  have hat := h.atPc
  unfold AtPc at hat
  cases hpc : s.pc with
  | loop =>
    simp only [Sender.resume, Sender.observe, Sender.writes, hpc]
    exact ⟨loopHead_inv h hpc, hF⟩
  | create =>
    simp only [hpc] at hat
    simp only [Sender.resume, Sender.observe, Sender.writes, hpc]
    exact ⟨.of_disconnected hat (h.disconnected hat) trivial, hF⟩
  | connect =>
    simp only [hpc] at hat
    obtain ⟨hv, hc⟩ := hat
    have hs := h.disconnected hc
    simp only [Sender.resume, Sender.observe, hpc]
    cases ho : o.ok with
    | false => exact ⟨.of_disconnected rfl hs trivial, hF⟩
    | true =>
      exact ⟨.of_handshaking hv rfl rfl rfl rfl trivial, hF.cons fun _ _ ho => absurd ho (by simp)⟩
  | hello =>
    simp only [hpc] at hat
    obtain ⟨hv, hf, hs⟩ := h.isHandshaking hat
    simp only [Sender.resume, Sender.observe, Sender.writes, hpc]
    refine ⟨.of_handshaking hv hat.1 hat.2 hf hs hat, hF.cons ?_⟩
    intro _ _ _ hkey
    exact absurd (hs.symm.trans hkey) (by simp)
  | serverKey =>
    simp only [hpc] at hat
    obtain ⟨hv, hf, hs⟩ := h.isHandshaking hat
    simp only [Sender.resume, Sender.observe, Sender.writes, hpc]
    refine ⟨?_, hF⟩
    split
    · exact .of_handshaking hv hat.1 hat.2 hf hs hat
    · exact .of_handshaking hv hat.1 hat.2 hf hs hat
  | auth n =>
    simp only [hpc] at hat
    obtain ⟨hv, hf, hs⟩ := h.isHandshaking hat
    simp only [Sender.resume, Sender.observe, Sender.writes, hpc]
    -- the slot is free again, and the session has its key
    refine ⟨.of_working hv hat.1 rfl rfl rfl (fun hfull => ?_) trivial, ?_⟩
    · exact absurd hfull.1 (by simp)
    · refine (hF.cons fun _ _ _ hkey => ?_).cons fun _ _ ho => ?_
      · exact absurd (hs.symm.trans hkey) (by simp)
      · exact absurd ho (by simp)
  | reject =>
    simp only [Sender.resume, Sender.observe, hpc]
    exact ⟨.of_disconnected rfl rfl trivial, hF.cons fun _ _ ho => absurd ho (by simp)⟩
  | send =>
    simp only [hpc] at hat
    obtain ⟨key, hs, hk, hfull⟩ := h.working hat.1 hat.2.1
    have hsent := hfull ⟨hat.2.2, by simp [hpc], by simp [hpc]⟩
    simp only [Sender.resume, Sender.observe, Sender.writes, hpc]
    refine ⟨.of_working (h.socketValid hat.1) hat.1 hat.2.1 hs hk (fun hF => ?_) hat, ?_⟩
    · exact absurd rfl hF.2.1
    · refine hF.cons ?_
      intro buffer key' ho hkey
      obtain rfl : key = key' := Option.some.inj (hs.symm.trans hkey)
      obtain rfl := Obs.written.inj ho
      exact hsent
  | ack =>
    simp only [hpc] at hat
    obtain ⟨key, hs, hk, -⟩ := h.working hat.1 hat.2.1
    simp only [Sender.resume, Sender.observe, Sender.writes, hpc]
    refine ⟨?_, hF⟩
    split
    · refine .of_working (h.socketValid hat.1) hat.1 hat.2.1 hs hk (fun hF => ?_) hat
      exact absurd rfl hF.2.2
    · refine .of_working (h.socketValid hat.1) hat.1 hat.2.1 hs hk (fun hF => ?_) trivial
      exact absurd hF.1 (by simp)
  | drop =>
    simp only [Sender.resume, Sender.observe, hpc]
    exact ⟨.of_disconnected rfl rfl trivial, hF.cons fun _ _ ho => absurd ho (by simp)⟩

/-- **The transmit slot.** In every interleaving of calls of `SendFrame` with the pieces
of the thread, whatever the socket operations return, a buffer written to a connection
after its authentication is one frame, put together with the connection's key by a call
made since, and no call has two writes. -/
theorem slot_faithful (c : Credentials) (txBuffer rxBuffer aesKey keys : List UInt8)
    (es : List Event) :
    let history := (es.foldl (Observed.step c) ⟨.new txBuffer rxBuffer aesKey keys, []⟩).history
    (∀ later buffer earlier key, history = later ++ .written buffer :: earlier →
      session earlier = some key → ∃ before, SentFrom key buffer earlier before) ∧
    (∀ later buffer earlier key later' buffer' earlier' key' before,
      history = later ++ .written buffer :: earlier →
      history = later' ++ .written buffer' :: earlier' →
      SentFrom key buffer earlier before → SentFrom key' buffer' earlier' before →
      earlier = earlier') := by
  intro history
  have hinv : ∀ (w : Observed) e, SlotInv w ∧ Faithful w.history →
      SlotInv (w.step c e) ∧ Faithful (w.step c e).history := by
    rintro ⟨s, h⟩ e ⟨hI, hF⟩
    cases e with
    | sendFrame frame => exact ⟨sendFrame_inv hI frame, hF.cons fun _ _ ho => absurd ho (by simp)⟩
    | thread o => exact resume_inv c hI hF o
  have hstart : SlotInv ⟨.new txBuffer rxBuffer aesKey keys, []⟩ ∧ Faithful [] :=
    ⟨.of_disconnected rfl rfl trivial, fun _ _ _ _ heq => absurd heq (by simp)⟩
  refine ⟨(Runs.foldl_invariant hinv es hstart).2, ?_⟩
  intro later buffer earlier key later' buffer' earlier' key' before hw hw' h h'
  exact SentFrom.unique hw hw' h h'

/-- A connection is made and authenticated, and a frame is written to it. -/
example (c : Credentials) (frame : Vector UInt8 80) (rnd : Vector UInt8 16) :
    let o : Outcome := ⟨true, List.replicate 64 0, rnd⟩
    let es := List.replicate 8 (Event.thread o) ++ [.sendFrame frame] ++
      List.replicate 2 (Event.thread o)
    ∃ buffer earlier, session earlier = some rnd.toList ∧
      (es.foldl (Observed.step c) ⟨.new [] [] [] [], []⟩).history = .written buffer :: earlier :=
  ⟨_, _, rfl, rfl⟩

end Solarbot.Telemetry
