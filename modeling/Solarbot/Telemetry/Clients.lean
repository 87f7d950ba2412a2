import Solarbot.Lib.Runs
import Solarbot.Telemetry.Handshake

/-!
# `ThreadServer` and `SendFrame`

`SendFrame` writes to the local client when `client_socket` is valid and
`client_is_authenticated` is up. `ThreadServer` puts a new connection into
`client_socket` with `accept` and takes the flag down *after* that; when a connection
ends it closes the socket and leaves the flag. So between the two a frame can go to a
client that has said nothing yet. `frames_authenticated` is the exact statement: frames
go to authenticated clients only, exactly when no call of `SendFrame` comes while the
thread is between connections (`Between`) with the flag still up and a socket there.

The thread is cut at its socket operations and at its writes to the members it shares
with `SendFrame`: `pc` is the piece that comes next, and `resume` is what it does, given
what its operation returns. A call of `SendFrame` is one step.

Mirroring notes vs `Telemetry.cpp`:
- `m_sock` is `none` where it is `-1`. `accept` stores its result before it looks at
  it, so a descriptor `0`, which counts as a failure, is left in a valid socket.
- An exception in a read or a write ends the connection, and so does
  `IsConnected = false`; the head of the loop then goes on to `Close`.
- The socket that listens is made again after a failed `accept`.
- `server_working` stays up. The other half of `SendFrame` is `Sender.sendFrame`.
- `Server.serve` is one pass of the loop over a connection as a whole; without a call
  of `SendFrame` in between the pieces make that pass (`pass_serve`).
-/

namespace Solarbot.Telemetry

open Link

/-- The next piece of the thread. -/
inductive ServerPc where
  /-- makes the socket that listens -/
  | bind
  | accept
  /-- a client was accepted: `IsConnected`, `client_is_authenticated`, `ClientStatus` -/
  | clear
  /-- the head of the loop over the connection -/
  | head
  /-- reads `SOLARBOT` -/
  | hello
  /-- writes the 64 bytes -/
  | serverKey
  /-- reads the authentication message -/
  | auth
  /-- sets the session key, in hexadecimal in this field -/
  | setKey (field : List UInt8)
  /-- sets `ClientStatus` and `client_is_authenticated` -/
  | setFlag
  /-- closes the socket -/
  | close
  deriving DecidableEq

/-- What the operation of a piece returns: success, the descriptor, the bytes read; and
what `rand()` makes of the 64 bytes. -/
structure ServerOutcome where
  ok : Bool := true
  fd : Option Nat := none
  received : List UInt8 := []
  serverKey : Vector UInt8 64 := Vector.replicate 64 0

/-- The members of `Telemetry` the two use, and where the thread is. -/
structure ServerThread extends Server where
  /-- `client_socket.m_sock` -/
  socket : Option Nat
  pc : ServerPc
  /-- The connection of `client_socket` has completed the step `Authenticating`. -/
  completed : Bool

/-- The fifth field of the message, when the client may come in. -/
def Server.sessionField (s : Server) (received : List UInt8) : Option (List UInt8) :=
  let buffer := received.take serverRxBufferSize
  let str := Aes128.decrypt s.keys buffer (buffer.length / 16)
  let fields := splitFields str
  let field := fun i => fields.getD i []
  if fields.length > 5 ∧ field 0 = ascii "SolarBot" ∧ (field 4).length = 32 then
    if authenticateClient (field 0) (field 1) (field 2) (field 3) then some (field 4) else none
  else none

namespace ServerThread

/-- A new `Telemetry` whose thread was just started. -/
def new (keys : List UInt8) : ServerThread :=
  { isConnected := false, clientIsAuthenticated := false, clientStatus := .starting, keys
    socket := none, pc := .bind, completed := false }

variable (s : ServerThread)

/-- The rest of a pass when the connection has ended. -/
def hangUp : ServerThread := { s with toServer := s.toServer.disconnect, pc := .head }

/-- From the head of the loop to the next operation. -/
def loopHead : ServerThread :=
  if s.isConnected && s.socket.isSome then
    match s.clientStatus with
    | .working => s
    | .authenticating => { s with pc := .auth }
    | .starting => { s with clientIsAuthenticated := false, pc := .hello }
  else { s with pc := .close }

/-- The next piece of the thread, when its operation returns `o`. -/
def resume (o : ServerOutcome) : ServerThread :=
  match s.pc with
  | .bind => if o.ok then { s with pc := .accept } else s
  | .accept =>
    let s := { s with socket := o.fd, completed := false }
    match o.fd with
    | some (_ + 1) => { s with pc := .clear }
    | _ => { s with pc := .bind }
  | .clear => { s with toServer := s.toServer.accept, pc := .head }
  | .head => s.loopHead
  | .hello =>
    if o.received = [] then s.hangUp
    else if cString (o.received.take maxRecv) = ascii "SOLARBOT" then
      { s with toServer := s.toServer.generateServerKey o.serverKey, pc := .serverKey }
    else s.hangUp
  | .serverKey => if o.ok then { s with clientStatus := .authenticating, pc := .head } else s.hangUp
  | .auth =>
    if o.received = [] then s.hangUp
    else
      match s.sessionField o.received with
      | some field => { s with pc := .setKey field }
      | none => s.hangUp
  | .setKey field => { s with keys := Aes128.setKey (readKey field), pc := .setFlag }
  | .setFlag =>
    { s with clientStatus := .working, clientIsAuthenticated := true, pc := .head, completed := true }
  | .close => { s with socket := none, pc := .accept }

/-- What `SendFrame(1, frame, sizeof(frame))` writes to the client. -/
def clientWrite (frame : Vector UInt8 80) : Option (List UInt8) :=
  if s.socket.isSome && s.clientIsAuthenticated then some (frameBytes s.keys frame) else none

/-- The half of `SendFrame` for the client: a write that fails closes the socket. -/
def sendFrame (frame : Vector UInt8 80) (written : Bool) : ServerThread :=
  match s.clientWrite frame with
  | some _ => if written then s else { s with socket := none }
  | none => s

/-- A piece of the thread, or a call of `SendFrame`. -/
inductive Event where
  | thread (o : ServerOutcome)
  | sendFrame (frame : Vector UInt8 80) (written : Bool)

def step : Event → ServerThread
  | .thread o => s.resume o
  | .sendFrame frame written => s.sendFrame frame written

/-- The steps of the two, as a relation. -/
def Step (s : ServerThread) (e : Event) (s' : ServerThread) : Prop := s' = s.step e

end ServerThread

/-! ## A pass without interruption -/

/-- `Authenticating` is the reading of the field and the two pieces behind it. -/
theorem Server.authenticating_eq (s : Server) (received : List UInt8) :
    s.authenticating received =
      if received = [] then s.disconnect
      else match s.sessionField received with
        | some field =>
          { s with
            keys := Aes128.setKey (readKey field)
            clientStatus := .working
            clientIsAuthenticated := true }
        | none => s.disconnect := by
  unfold Server.authenticating Server.sessionField
  dsimp only
  split
  · rfl
  · split
    · split <;> rfl
    · rfl

namespace ServerThread

variable {s s' : ServerThread}

/-- **The pieces make the pass**: from the head of the loop on a live connection, the
thread alone gets to the head again with what `serve` makes of the server. -/
theorem pass_serve (hpc : s.pc = .head) (hconnected : s.isConnected = true)
    (hsocket : s.socket.isSome = true) (received : List UInt8) (serverKey : Vector UInt8 64)
    (delivered : Bool) :
    let o : ServerOutcome := { ok := delivered, received, serverKey }
    ∃ n, ((List.replicate n o).foldl resume s).pc = .head ∧
      ((List.replicate n o).foldl resume s).toServer =
        (s.toServer.serve received serverKey delivered).1 ∧
      ((List.replicate n o).foldl resume s).socket = s.socket := by
  intro o
  have hhead : s.resume o = s.loopHead := by rw [resume, hpc]
  cases hstatus : s.clientStatus with
  | working =>
    refine ⟨0, hpc, ?_, rfl⟩
    rw [Server.serve, hstatus]
    rfl
  | authenticating =>
    have hread : s.loopHead = { s with pc := .auth } := by
      rw [loopHead, hconnected, hsocket, hstatus]
      rfl
    rw [Server.serve, hstatus]
    by_cases hfail : received = []
    · -- the read fails, and the thread hangs up
      refine ⟨2, ?_⟩
      rw [List.replicate_succ, List.foldl_cons, hhead, hread]
      simp [resume, o, hfail, hangUp, Server.authenticating_eq]
    · cases hfield : s.sessionField received with
      | none =>
        refine ⟨2, ?_⟩
        rw [List.replicate_succ, List.foldl_cons, hhead, hread]
        simp [resume, o, hfail, hangUp, Server.authenticating_eq, hfield]
      | some field =>
        -- the key is decrypted, compared and answered
        refine ⟨4, ?_⟩
        rw [List.replicate_succ, List.foldl_cons, hhead, hread]
        simp [resume, o, hfail, Server.authenticating_eq, hfield, List.replicate_succ]
  | starting =>
    have hread : s.loopHead = { s with clientIsAuthenticated := false, pc := .hello } := by
      rw [loopHead, hconnected, hsocket, hstatus]
      rfl
    rw [Server.serve, hstatus]
    by_cases hfail : received = []
    · refine ⟨2, ?_⟩
      rw [List.replicate_succ, List.foldl_cons, hhead, hread]
      simp [resume, o, hfail, hangUp, Server.starting, Server.disconnect]
    · by_cases hdata : cString (received.take maxRecv) = ascii "SOLARBOT"
      · refine ⟨3, ?_⟩
        rw [List.replicate_succ, List.foldl_cons, hhead, hread]
        cases delivered with
        | true =>
          simp [resume, o, hfail, hdata, Server.starting, Server.generateServerKey,
            List.replicate_succ]
        | false =>
          simp [resume, o, hfail, hdata, hangUp, Server.starting, Server.disconnect,
            Server.generateServerKey, List.replicate_succ]
      · refine ⟨2, ?_⟩
        rw [List.replicate_succ, List.foldl_cons, hhead, hread]
        simp [resume, o, hfail, hdata, hangUp, Server.starting, Server.disconnect]

/-! ## What the flag says of the connection -/

/-- The thread is between two connections: the flag is still that of the last one. -/
def Between (s : ServerThread) : Prop := s.pc = .bind ∨ s.pc = .accept ∨ s.pc = .clear

/-- Outside `Between` the flag is that of the connection; within it the connection, if
there is one, has not completed anything. -/
structure Inv (s : ServerThread) : Prop where
  flag : ¬ s.Between → s.clientIsAuthenticated = true → s.completed = true
  between : s.Between → s.socket.isSome = true → s.completed = false

/-- Where the flag is down the invariant only asks for the connection. -/
theorem Inv.of_flag (hflag : s.clientIsAuthenticated = false)
    (hbetween : s.Between → s.socket.isSome = true → s.completed = false) : s.Inv :=
  ⟨fun _ h => absurd (hflag.symm.trans h) (by simp), hbetween⟩

/-- A piece that stays outside `Between` and does not touch flag and connection. -/
theorem Inv.stay (h : s.Inv) (hs : ¬ s.Between) (hs' : ¬ s'.Between)
    (hflag : s'.clientIsAuthenticated = s.clientIsAuthenticated)
    (hcompleted : s'.completed = s.completed) : s'.Inv :=
  ⟨fun _ hf => hcompleted.trans (h.flag hs (hflag.symm.trans hf)), fun hb => absurd hb hs'⟩

theorem new_inv (keys : List UInt8) : (new keys).Inv :=
  .of_flag rfl fun _ h => absurd h (by simp [new])

/-- A connection that has ended. -/
theorem hangUp_inv (h : s.Inv) (hs : ¬ s.Between) : s.hangUp.Inv :=
  h.stay hs (by simp [Between, hangUp]) rfl rfl

theorem loopHead_inv (h : s.Inv) (hpc : s.pc = .head) : s.loopHead.Inv := by
  have hs : ¬ s.Between := by simp [Between, hpc]
  unfold loopHead
  split
  · split
    · exact h
    · exact h.stay hs (by simp [Between]) rfl rfl
    · exact .of_flag rfl fun hb => absurd hb (by simp [Between])
  · exact h.stay hs (by simp [Between]) rfl rfl

theorem generateServerKey_flag (t : Server) (serverKey : Vector UInt8 64) :
    (t.generateServerKey serverKey).clientIsAuthenticated = t.clientIsAuthenticated := by
  rw [Server.generateServerKey]

/-- **One piece** of the thread keeps the invariant. -/
theorem resume_inv (h : s.Inv) (o : ServerOutcome) : (s.resume o).Inv := by
  unfold resume
  split
  next hpc =>
    split
    · refine ⟨fun hb => absurd (Or.inr (Or.inl rfl)) hb, fun _ => ?_⟩
      exact h.between (Or.inl hpc)
    · exact h
  next hpc =>
    -- whatever `accept` stores is a connection that has completed nothing
    split
    · exact ⟨fun hb => absurd (Or.inr (Or.inr rfl)) hb, fun _ _ => rfl⟩
    · exact ⟨fun hb => absurd (Or.inl rfl) hb, fun _ _ => rfl⟩
  next hpc => exact .of_flag rfl fun hb => absurd hb (by simp [Between])
  next hpc => exact loopHead_inv h hpc
  next hpc =>
    have hs : ¬ s.Between := by simp [Between, hpc]
    split
    · exact hangUp_inv h hs
    · split
      · exact h.stay hs (by simp [Between]) (generateServerKey_flag _ _) rfl
      · exact hangUp_inv h hs
  next hpc =>
    have hs : ¬ s.Between := by simp [Between, hpc]
    split
    · exact h.stay hs (by simp [Between]) rfl rfl
    · exact hangUp_inv h hs
  next hpc =>
    have hs : ¬ s.Between := by simp [Between, hpc]
    split
    · exact hangUp_inv h hs
    · split
      · exact h.stay hs (by simp [Between]) rfl rfl
      · exact hangUp_inv h hs
  next field hpc => exact h.stay (by simp [Between, hpc]) (by simp [Between]) rfl rfl
  next hpc => exact ⟨fun _ _ => rfl, fun hb => absurd hb (by simp [Between])⟩
  next hpc =>
    exact ⟨fun hb => absurd (Or.inr (Or.inl rfl)) hb, fun _ hsocket => absurd hsocket (by simp)⟩

/-- A call of `SendFrame` can only take the socket away. -/
theorem sendFrame_inv (h : s.Inv) (frame : Vector UInt8 80) (written : Bool) :
    (s.sendFrame frame written).Inv := by
  unfold sendFrame
  split
  · split
    · exact h
    · exact ⟨h.flag, fun _ hsocket => absurd hsocket (by simp)⟩
  · exact h

theorem step_inv {e : Event} (h : s.Inv) (hstep : Step s e s') : s'.Inv := by
  rw [Step] at hstep
  subst hstep
  cases e with
  | thread o => exact resume_inv h o
  | sendFrame frame written => exact sendFrame_inv h frame written

/-! ## The law and its condition -/

/-- The law: a frame is only written to a connection that has completed
`Authenticating`. -/
def ToAuthenticated (s : ServerThread) (e : Event) : Prop :=
  ∀ frame written, e = .sendFrame frame written → s.clientWrite frame ≠ none → s.completed = true

/-- The condition: no call of `SendFrame` meets the thread between connections with the
flag up and something in `client_socket`. -/
def OffBetween (s : ServerThread) (e : Event) : Prop :=
  ∀ frame written, e = .sendFrame frame written →
    ¬ (s.Between ∧ s.socket.isSome = true ∧ s.clientIsAuthenticated = true)

theorem clientWrite_ne_none (frame : Vector UInt8 80) :
    s.clientWrite frame ≠ none ↔ s.socket.isSome = true ∧ s.clientIsAuthenticated = true := by
  unfold clientWrite
  split
  next hboth => simpa using hboth
  next hnot => simpa using hnot

/-- **One step** meets the law exactly under the condition. -/
theorem toAuthenticated_iff {e : Event} (h : s.Inv) :
    ToAuthenticated s e ↔ OffBetween s e := by
  refine forall_congr' fun frame => forall_congr' fun written => imp_congr_right fun _ => ?_
  rw [clientWrite_ne_none]
  constructor
  · intro hlaw hgood
    obtain ⟨hbetween, hboth⟩ := hgood
    have hnot := h.between hbetween hboth.1
    rw [hlaw hboth] at hnot
    exact absurd hnot (by simp)
  · intro hcond hboth
    by_cases hbetween : s.Between
    · exact absurd ⟨hbetween, hboth⟩ hcond
    · exact h.flag hbetween hboth.2

end ServerThread

open ServerThread

/-- **When frames go to authenticated clients only.** In every run, whatever the clients
send and whichever operations fail, and however the calls of `SendFrame` fall between the
pieces of the thread, each frame goes to a connection that has completed
`Authenticating` exactly when no call comes between connections with the flag up and
something in `client_socket`. -/
theorem frames_authenticated (keys : List UInt8) (es : List Event) :
    Runs.Steps Step (fun s e _ => ToAuthenticated s e) (new keys) es ↔
      Runs.Steps Step (fun s e _ => OffBetween s e) (new keys) es :=
  Runs.Steps.iff_of_invariant (I := Inv) (fun _ _ _ h _ => toAuthenticated_iff h)
    (fun _ _ _ h hstep _ => step_inv h hstep) (new_inv keys)

/-! ## A client comes in and goes away -/

/-- A server that waits for the authentication message finds the session key in it. -/
theorem Server.sessionField_message {s : Server} {c : Credentials} {rnd : List UInt8}
    (hid : 0x2C ∉ c.telemetryID) (huser : 0x2C ∉ c.serverUser) (hpw : 0x2C ∉ c.serverPassword)
    (hrnd : rnd.length = 16) (hfits : (authMessage c rnd).length + 1 ≤ serverRxBufferSize) :
    let message := padded (authMessage c rnd)
    let received := Aes128.encrypt s.keys message (message.length / 16)
    received ≠ [] ∧ s.sessionField received = some (rnd.flatMap hexByte) := by
  intro message received
  obtain ⟨hpos, hbuffer, rest, hfields⟩ := received_fields s.keys hid huser hpw hfits
  have hfield : (rnd.flatMap hexByte).length = 32 := by rw [hex_length, hrnd]
  refine ⟨hpos, ?_⟩
  unfold sessionField
  dsimp only
  rw [hbuffer, hfields, if_pos ⟨by simp, rfl, hfield⟩, if_pos (by rfl)]
  rfl

namespace ServerThread

/-- A client that keeps to the protocol, from `accept` to `setFlag`. -/
def admission (c : Credentials) (rnd : Vector UInt8 16) (serverKey : Vector UInt8 64) (fd : Nat) :
    List Event :=
  let key := extractKey serverKey.toList
  let message := padded (authMessage c rnd.toList)
  [.thread { fd := some (fd + 1) }, .thread {}, .thread {},
    .thread { received := ascii "SOLARBOT", serverKey }, .thread {}, .thread {},
    .thread { received := Aes128.encrypt (Aes128.setKey key) message (message.length / 16) },
    .thread {}, .thread {}]

/-- Such a client comes in. -/
theorem admission_spec {c : Credentials} {rnd : Vector UInt8 16} {serverKey : Vector UInt8 64}
    {fd : Nat} (hid : 0x2C ∉ c.telemetryID) (huser : 0x2C ∉ c.serverUser)
    (hpw : 0x2C ∉ c.serverPassword)
    (hfits : (authMessage c rnd.toList).length + 1 ≤ serverRxBufferSize) (hpc : s.pc = .accept) :
    (admission c rnd serverKey fd).foldl step s =
      { isConnected := true, clientIsAuthenticated := true, clientStatus := .working
        keys := Aes128.setKey rnd.toList, socket := some (fd + 1), pc := .head, completed := true } := by
  -- the key of the handshake is set when the server waits for the message
  let waiting : Server :=
    ⟨true, false, .authenticating, Aes128.setKey (extractKey serverKey.toList)⟩
  obtain ⟨hread, hfield⟩ :=
    @Server.sessionField_message waiting c rnd.toList hid huser hpw (by simp) hfits
  have hkey : readKey (rnd.toList.flatMap hexByte) = rnd.toList := readKey_hex (by simp)
  have hhello : cString ((ascii "SOLARBOT").take maxRecv) = ascii "SOLARBOT" := by decide
  have hdata : ascii "SOLARBOT" ≠ [] := by decide
  simp only [admission, List.foldl_cons, step, resume, hpc]
  simp [loopHead, Server.accept, hhello, hdata, Server.generateServerKey, hread, hfield, hkey, waiting]

/-- The client is gone: the write fails, the thread closes the socket and accepts the
next client. -/
def succession (frame : Vector UInt8 80) (fd : Nat) : List Event :=
  [.sendFrame frame false, .thread {}, .thread {}, .thread { fd := some (fd + 1) }]

/-- The next client finds the flag up. -/
theorem succession_spec {frame : Vector UInt8 80} {fd : Nat} (hpc : s.pc = .head)
    (hsocket : s.socket.isSome = true) (hflag : s.clientIsAuthenticated = true) :
    (succession frame fd).foldl step s =
      { s with socket := some (fd + 1), pc := .clear, completed := false } := by
  have hclosed : s.sendFrame frame false = { s with socket := none } := by
    rw [sendFrame, clientWrite, hsocket, hflag]
    rfl
  simp [succession, step, hclosed, resume, hpc, loopHead]

end ServerThread

/-- A client comes in and goes away; the next one has not said a word when `SendFrame`
writes to it. -/
theorem next_client_served :
    let frame : Vector UInt8 80 := Vector.replicate 80 0
    ¬ Runs.Steps Step (fun s e _ => ToAuthenticated s e) (new [])
      ((.thread {} :: admission Session.sampleCredentials (Vector.replicate 16 7)
          (Vector.replicate 64 0) 4 ++ succession frame 5) ++ [.sendFrame frame true]) := by
  intro frame h
  let bound : ServerThread := { new [] with pc := .accept }
  have hin : (admission Session.sampleCredentials (Vector.replicate 16 7)
      (Vector.replicate 64 0) 4).foldl step bound = _ :=
    admission_spec (by decide) (by decide) (by decide) (by decide) rfl
  have hsteps : ∀ s e, Step s e (s.step e) := fun _ _ => rfl
  have hend := h.behind (Runs.path_foldl hsteps _ _)
  have hbound : (new []).step (.thread {}) = bound := rfl
  rw [List.cons_append, List.foldl_cons, hbound, List.foldl_append, hin,
    succession_spec rfl rfl rfl] at hend
  have hlaw := (hend _ rfl).1 frame true rfl
  rw [clientWrite_ne_none] at hlaw
  exact absurd (hlaw ⟨rfl, rfl⟩) (by simp)

end Solarbot.Telemetry
