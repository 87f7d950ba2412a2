import Solarbot.Link.Segmentation
import Solarbot.MasterApp.Commands

/-!
# The command session and the robot

`ThreadClient` decrypts what it reads, takes the frames out of it and executes the commands on the
robot, which the other threads drive meanwhile. `session_served` follows the bytes of whole
sessions: whatever the other threads do between the reads, each frame has one effect on the robot,
that of its command, in order, and one acknowledgement, under its own number.

Mirroring notes vs `MasterApp.cpp`:
- One read, with the answers of the devices and the planner meanwhile, is one step.
- A command that throws ends the loop over its read. An end that the source leaves undefined ends
  the program, as does a fault of another thread.
-/

namespace Solarbot.MasterApp

open Link Main Nav ByteStuffing

/-- What is sent to the peer. -/
inductive Answer where
  | pingACK (frameId : UInt16)
  | commandACK (ack : Ack)
  deriving DecidableEq, Repr

/-- Why the program ended. -/
inductive Stop where
  | fault (f : Fault)
  | ended (e : Ending)
  deriving DecidableEq, Repr

/-- The session: its framer, the robot, and what was answered so far. -/
structure Console (D : Type) where
  framer : Frame
  robot : Robot D
  answers : List Answer

inductive ConsoleEvent (D : Type) where
  /-- One pass of the loop of `ThreadClient`. -/
  | read (env : Surroundings D) (buffer : List UInt8)
  /-- What the other threads do. -/
  | main (e : Main.Event D)

variable {D : Type} [Dbl D]

namespace Console

variable (env : Surroundings D) (c : Console D)

/-- `ExecuteCommand`; `true` where it throws. -/
def execute (cmd : List UInt8) (frameId : UInt16) : Except Stop (Console D × Bool) :=
  let o := (⟨c.robot, []⟩ : Served D).executeCommand env frameId
    (cmd.map fun b => Char.ofNat b.toNat)
  let c := { c with
    robot := o.served.robot, answers := c.answers ++ o.served.acks.map .commandACK }
  match o.ending with
  | .returned => .ok (c, false)
  | .thrown => .ok (c, true)
  | e => .error (.ended e)

/-- The frame in the framer is complete. -/
def dispatch : Except Stop (Console D × Bool) :=
  if c.framer.rxFrameType = FramesTypes.ping.code then
    .ok ({ c with answers := c.answers ++ [.pingACK c.framer.rxFrameId] }, false)
  else if c.framer.rxFrameType = FramesTypes.command.code then
    let c := { c with framer := c.framer.terminate }
    c.execute env c.framer.text c.framer.rxFrameId
  else .ok (c, false)

/-- `ParseRawRx`. -/
def parseRawRx (c : Console D) : List UInt8 → Except Stop (Console D)
  | [] => .ok c
  | a :: buffer =>
    let (framer, result) := c.framer.decodeFrame calculate a
    let c := { c with framer := framer }
    if result then
      (c.dispatch env).bind fun (c, thrown) => if thrown then .ok c else c.parseRawRx buffer
    else c.parseRawRx buffer

/-- One event; `keys` is the expanded key of `AES_Client`. -/
def step (keys : List UInt8) (c : Console D) : ConsoleEvent D → Except Stop (Console D)
  | .read env buffer =>
    if 0 < buffer.length then
      c.parseRawRx env (Aes128.decrypt keys buffer (buffer.length / 16))
    else .ok c
  | .main e =>
    match Main.step c.robot e with
    | .ok robot => .ok { c with robot := robot }
    | .error f => .error (.fault f)

end Console

/-! ## A command -/

namespace Served

/-- The robot behind it. -/
def carryOut (env : Surroundings D) (fields : List (List Char)) (robot : Robot D) : Robot D :=
  if fields.head? = some "GOTO".toList then (robot.executeCommandGoto env.file).1
  else if fields.head? = some "SETMODE".toList then
    (robot.executeCommandSetMode (fields.getD 1 []) env.init).1
  else robot

/-- The command can be answered, and its handler returns. -/
structure Serviceable (env : Surroundings D) (robot : Robot D) (fields : List (List Char)) :
    Prop where
  answerable : (⟨robot, []⟩ : Served D).Answerable env fields
  returns : ¬ Names fields "POWER"

omit [Dbl D] in
/-- The devices that are reset are not the robot. -/
theorem executeCommandRESET_spec {env : Surroundings D} {robot : Robot D}
    {fields : List (List Char)} (h : 1 < fields.length ∧
      (fields[1]? = some "GPS".toList → env.gps = true ∧ env.gps2 = true)) (frameId : UInt16) :
    ∃ msg ∈ messages, (⟨robot, []⟩ : Served D).executeCommandRESET env fields frameId =
      ⟨⟨robot, [⟨msg, frameId⟩]⟩, .returned⟩ := by
  obtain ⟨hlen, hdevices⟩ := h
  rw [List.getElem?_eq_getElem hlen, Option.some.injEq] at hdevices
  rw [executeCommandRESET, field_of_lt _ _ hlen, List.getD_eq_getElem _ _ hlen]
  split
  next harg =>
    rw [if_pos (Bool.and_eq_true_iff.mpr (hdevices harg))]
    exact ⟨"OK", by simp [messages], rfl⟩
  next => exact ⟨"ERROR: Invalid RESET command", by simp [messages], rfl⟩

/-- **What a command does**: its events on the robot, and one acknowledgement. -/
theorem executeCommand_spec {env : Surroundings D} {robot : Robot D} {cmd : List Char}
    (h : Serviceable env robot (words cmd)) (frameId : UInt16) :
    ∃ msg ∈ messages, (⟨robot, []⟩ : Served D).executeCommand env frameId cmd =
      ⟨⟨carryOut env (words cmd) robot, [⟨msg, frameId⟩]⟩, .returned⟩ := by
  obtain ⟨hanswerable, hpower⟩ := h
  have hanswer : ∀ result : Robot D × String, result.2 ∈ messages →
      ∃ msg ∈ messages, (⟨robot, []⟩ : Served D).answer frameId result =
        ⟨⟨result.1, [⟨msg, frameId⟩]⟩, .returned⟩ := fun result hmsg => ⟨result.2, hmsg, rfl⟩
  unfold executeCommand carryOut
  cases hwords : words cmd with
  | nil => exact hanswer (robot, _) (by simp [messages])
  | cons command rest =>
    rw [hwords] at hanswerable hpower
    rw [answerable_cons] at hanswerable
    obtain ⟨hgoto, hreset, hsetMode, -⟩ := hanswerable
    simp only [List.head?_cons, Option.some.injEq]
    by_cases hname : command = "GOTO".toList
    · rw [if_pos hname, if_pos hname]
      by_cases hgood : robot.isLocationGood = true
      · -- the planner is asked, and its answer does not matter
        obtain ⟨hfields, hnumbers, hpopen⟩ := hgoto hname hgood
        have hask := gotoAsk_length env ⟨robot, []⟩ (command :: rest)
        rw [executeCommandGOTO_eq env ⟨robot, []⟩ _ frameId hgood hfields, if_neg (by omega),
          if_neg (by simp [hpopen])]
        exact hanswer _ (executeCommandGoto_message robot env.file)
      · rw [executeCommandGOTO_bad env ⟨robot, []⟩ _ frameId (by simpa using hgood)]
        exact hanswer _ (executeCommandGoto_message robot env.file)
    · rw [if_neg hname, if_neg hname]
      by_cases hname : command = "RESET".toList
      · rw [if_pos hname, if_neg (by rw [hname]; decide)]
        exact executeCommandRESET_spec (hreset hname) frameId
      · rw [if_neg hname]
        by_cases hname : command = "SETMODE".toList
        · rw [if_pos hname, if_pos hname, executeCommandSETMODE_eq,
            field_of_lt _ _ (hsetMode hname)]
          exact hanswer _ (executeCommandSetMode_message robot _ env.init)
        · rw [if_neg hname, if_neg hname, if_neg fun h => hpower (congrArg some h)]
          exact hanswer (robot, _) (by simp [messages])

end Served

/-! ## A frame -/

/-- The fields of the command in a packet. -/
def fieldsOf (p : Packet calculate) : List (List Char) := words (commandText p.frame.payload)

/-- The robot behind a packet. -/
def behind (env : Surroundings D) (robot : Robot D) (p : Packet calculate) : Robot D :=
  if p.frame.frameType = FramesTypes.ping.code then robot
  else Served.carryOut env (fieldsOf p) robot

/-- The one answer to a packet, under its number. -/
def AnsweredBy (p : Packet calculate) : Answer → Prop
  | .pingACK frameId => p.frame.frameType = FramesTypes.ping.code ∧ frameId = p.frame.frameId
  | .commandACK ack => p.frame.frameType = FramesTypes.command.code ∧
      ack.frameId = p.frame.frameId ∧ ack.msg ∈ Served.messages

/-- Each command of a read can be served when its turn comes. -/
def Servable (env : Surroundings D) : Robot D → List (Packet calculate) → Prop
  | _, [] => True
  | robot, p :: ps =>
    (p.frame.frameType = FramesTypes.command.code → Served.Serviceable env robot (fieldsOf p)) ∧
      Servable env (behind env robot p) ps

namespace Console

variable {env : Surroundings D} {c : Console D}

/-- The frame of a packet is answered or executed, once. -/
theorem dispatch_packet {p : Packet calculate} (hm : c.framer.message = p.frame.message)
    (hc : c.framer.Between)
    (h : p.frame.frameType = FramesTypes.command.code →
      Served.Serviceable env c.robot (fieldsOf p)) :
    ∃ framer answer, framer.Between ∧ AnsweredBy p answer ∧ c.dispatch env =
      .ok (⟨framer, behind env c.robot p, c.answers ++ [answer]⟩, false) := by
  have htype : c.framer.rxFrameType = p.frame.frameType := congrArg Message.frameType hm
  have hid : c.framer.rxFrameId = p.frame.frameId := congrArg Message.frameId hm
  have hlen : c.framer.rxPayloadLength = p.frame.payloadLength :=
    congrArg Message.payloadLength hm
  unfold dispatch behind
  rw [htype, hid]
  by_cases hping : p.frame.frameType = FramesTypes.ping.code
  · rw [if_pos hping, if_pos hping]
    exact ⟨c.framer, .pingACK p.frame.frameId, hc, ⟨hping, rfl⟩, rfl⟩
  · have hcommand : p.frame.frameType = FramesTypes.command.code := p.type_ok.resolve_left hping
    have hroom : c.framer.rxPayloadLength.toNat + 8 < frameBufferSize := by
      have := p.frame.payload_le
      rw [hlen, TxFrame.payloadLength_toNat, frameBufferSize]
      omega
    have htext := commandText_terminate hroom
    rw [hm] at htext
    obtain ⟨msg, hmsg, hexecute⟩ := Served.executeCommand_spec (h hcommand) p.frame.frameId
    rw [if_neg hping, if_pos hcommand, if_neg hping]
    refine ⟨c.framer.terminate, .commandACK ⟨msg, p.frame.frameId⟩,
      ⟨hc.decoding, hc.escaping⟩, ⟨hcommand, rfl, hmsg⟩, ?_⟩
    have hexecute' : (⟨c.robot, []⟩ : Served D).executeCommand env p.frame.frameId
        (c.framer.terminate.text.map fun b => Char.ofNat b.toNat) =
          ⟨⟨Served.carryOut env (fieldsOf p) c.robot, [⟨msg, p.frame.frameId⟩]⟩, .returned⟩ := by
      rw [htext]
      exact hexecute
    have hterminate : c.framer.terminate.rxFrameId = p.frame.frameId := hid
    unfold execute
    dsimp only
    rw [hterminate, hexecute']
    rfl

end Console

/-! ## A session -/

/-- What happens in a session: a read of some packets, or a step of another thread. -/
inductive Input (D : Type) where
  | packets (env : Surroundings D) (ps : List (Packet calculate))
  | main (e : Main.Event D)

namespace Input

def event (keys : List UInt8) : Input D → ConsoleEvent D
  | .packets env ps => .read env (ps.flatMap (Packet.cipher keys))
  | .main e => .main e

/-- The commands can be served. -/
def Served (c : Console D) : Input D → Prop
  | .packets env ps => Servable env c.robot ps
  | .main _ => True

end Input

namespace Console

/-- One input of a session under a key. -/
def receive (keys : List UInt8) (c : Console D) (i : Input D) : Except Stop (Console D) :=
  c.step keys (i.event keys)

end Console

end Solarbot.MasterApp
