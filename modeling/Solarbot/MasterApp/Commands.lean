import Solarbot.Link.Client
import Solarbot.MasterApp.Padding
import Solarbot.Main.Robot

/-!
# `MasterApp::ExecuteCommand`

The payload of a `Command` frame is a text. Its words are the `fields` of the command,
and the first of them selects the handler, which reads the others by their position and
sends a `CommandACK` in each of its branches. No handler asks how many fields there are:
`executeCommand_answered_iff` has the exact condition under which only existing fields
are read and the command is answered once.

A handler is a function of the robot and of the acknowledgements sent so far. It ends by
returning, or it ends where the source leaves it undefined or throws; what was done up to
there is kept. What the handlers of `SETMODE` and `GOTO` make of the robot is what the
robot's own model says (`executeCommandSETMODE_eq`, `executeCommandGOTO_eq`).

Mirroring notes vs `MasterApp.cpp`:
- `sprintf` writes the text and its zero into the 255 bytes of `ask`. The text of a
  double, and what `atof` reads, are parameters.
- The planner is the shell command that `Execute` runs; `popen` may fail.
- `gps`, `gps2` and `power_unit` are set when `run` has opened the devices, and commands
  are taken before. What the devices do with a command has no effect here.
- `ExecuteCommand_POWER` has no `return`.
-/

namespace Solarbot.MasterApp

open Link Main Nav

/-- The words `istream_iterator<string>` reads. -/
def words (s : List Char) : List (List Char) := (s.splitOnP CText.isSpace).filter (· ≠ [])

/-- One call of `SendCommandACK`. -/
structure Ack where
  msg : String
  frameId : UInt16
  deriving DecidableEq, Repr

/-- The reply that is sent. -/
def Ack.reply (a : Ack) {rndByte : UInt8} (h : rndByte ≠ 0x7E) : Reply :=
  ⟨FramesTypes.commandACK.code, a.frameId, a.msg.toList.map fun c => UInt8.ofNat c.toNat, rndByte, h⟩

/-- The robot, and what was sent. -/
structure Served (D : Type) where
  robot : Robot D
  acks : List Ack

/-- How a handler ends. -/
inductive Ending where
  | returned
  /-- `fields[index]` when there are only `size` -/
  | outOfRange (index size : Nat)
  /-- `ask` is too small for `size` bytes -/
  | overflow (size : Nat)
  /-- the device is not open -/
  | noDevice
  /-- `popen() failed!` -/
  | thrown
  /-- the end of a function that has to return a string -/
  | noReturn
  deriving DecidableEq, Repr

/-- What a handler did, and how it ended. -/
structure Outcome (D : Type) where
  served : Served D
  ending : Ending

/-- What the handlers use besides the robot. -/
structure Surroundings (D : Type) where
  /-- `atof` -/
  atof : List Char → D
  /-- A double with so many digits behind the point, as `%f` prints it. -/
  fixed : Nat → D → List Char
  /-- The devices of the modes answer so. -/
  init : Robot.InitResults
  /-- `popen` returns a pipe. -/
  popen : Bool
  /-- What the planner's file holds. -/
  file : Option (List Char)
  gps : Bool
  gps2 : Bool
  powerUnit : Bool

variable {D : Type} [Dbl D]

namespace Served

variable (env : Surroundings D) (m : Served D) (fields : List (List Char)) (frameId : UInt16)

/-- `SendCommandACK`. -/
def sendCommandACK (msg : String) : Served D := { m with acks := m.acks ++ [⟨msg, frameId⟩] }

def setRobot (robot : Robot D) : Served D := { m with robot := robot }

/-- `fields[i]`, with what is done with it. -/
def field (i : Nat) (use : List Char → Outcome D) : Outcome D :=
  match fields[i]? with
  | some text => use text
  | none => ⟨m, .outOfRange i fields.length⟩

def returned : Outcome D := ⟨m, .returned⟩

/-- What `sprintf` writes to `ask`. -/
def ask (myLongitude myLatitude destLongitude destLatitude heading : D) (maneuver speed : Int)
    (offset : D) : List Char :=
  "python3 /home/solarbot/route_optimization/main.py --current_point=".toList
    ++ env.fixed 10 myLongitude ++ " ".toList ++ env.fixed 10 myLatitude
    ++ " --desired_point=".toList
    ++ env.fixed 10 destLongitude ++ " ".toList ++ env.fixed 10 destLatitude
    ++ " --direction=".toList ++ env.fixed 1 heading
    ++ " --maneuver=".toList ++ (toString maneuver).toList
    ++ " --speed=".toList ++ (toString speed).toList
    ++ " --offset=".toList ++ env.fixed 2 offset
    ++ " > /home/solarbot/waypoints/temp.txt".toList

/-- `ExecuteCommand_GOTO`. -/
def executeCommandGOTO : Outcome D :=
  if m.robot.isLocationGood then
    m.field fields 1 fun destLongitude => m.field fields 2 fun destLatitude =>
    m.field fields 3 fun heading => m.field fields 4 fun maneuver =>
    m.field fields 5 fun speed => m.field fields 6 fun offset =>
      let text := ask env m.robot.location.longitude m.robot.location.latitude
        (env.atof destLongitude) (env.atof destLatitude) (env.atof heading)
        (CText.atoi maneuver) (CText.atoi speed) (env.atof offset)
      if 255 ≤ text.length then ⟨m, .overflow (text.length + 1)⟩
      else if env.popen = false then ⟨m, .thrown⟩
      else
        let (route, r) := m.robot.navigator.loadWaypoints env.file
        let m := m.setRobot { m.robot with navigator := { m.robot.navigator with toRoute := route } }
        if r = Err.ok then
          let m := m.setRobot { m.robot with
            navigator := { m.robot.navigator with startWaypointIndex := -1 } }
          let m := m.sendCommandACK frameId "OK"
          (m.setRobot { m.robot.setNavigationMode "waypoints".toList with
            navigating := true }).returned
        else (m.sendCommandACK frameId "ERROR: Loading generated waypoints file").returned
  else (m.sendCommandACK frameId "ERROR: Current Location is not good").returned

/-- `ExecuteCommand_RESET`. -/
def executeCommandRESET : Outcome D :=
  m.field fields 1 fun arg =>
    if arg = "GPS".toList then
      if env.gps && env.gps2 then (m.sendCommandACK frameId "OK").returned else ⟨m, .noDevice⟩
    else (m.sendCommandACK frameId "ERROR: Invalid RESET command").returned

/-- `ExecuteCommand_SETMODE`. -/
def executeCommandSETMODE : Outcome D :=
  m.field fields 1 fun arg =>
    match string2Mode arg with
    | .modeWaypoints =>
      if m.robot.navigator.waypoints.length > 0 then
        let m := m.setRobot { m.robot with
          navigator := { m.robot.navigator with startWaypointIndex := -1 } }
        let m := m.setRobot (m.robot.goNavigate .modeWaypoints)
        (m.sendCommandACK frameId "OK").returned
      else
        let m := m.setRobot m.robot.goStandby
        (m.sendCommandACK frameId "ERROR: There is not any waypoints").returned
    | .modeVisual =>
      let (robot, r) := m.robot.initModeVisual env.init
      if r = 0 then
        let m := m.setRobot (robot.goNavigate .modeVisual)
        (m.sendCommandACK frameId "OK").returned
      else
        let m := m.setRobot robot.goStandby
        (m.sendCommandACK frameId "ERROR: InitModeVisual").returned
    | .modeLine =>
      let (robot, r) := m.robot.initModeLine env.init
      if r = 0 then
        let m := m.setRobot (robot.goNavigate .modeLine)
        (m.sendCommandACK frameId "OK").returned
      else
        let m := m.setRobot robot.goStandby
        (m.sendCommandACK frameId "ERROR: InitModeLine").returned
    | .standby =>
      let m := m.setRobot m.robot.goStandby
      (m.sendCommandACK frameId "OK").returned

/-- `ExecuteCommand_POWER`. -/
def executeCommandPOWER : Outcome D :=
  m.field fields 1 fun _ =>
    if env.powerUnit then ⟨m.sendCommandACK frameId "OK", .noReturn⟩ else ⟨m, .noDevice⟩

/-- `ExecuteCommand`. -/
def executeCommand (cmd : List Char) : Outcome D :=
  let tokens := words cmd
  match tokens with
  | [] => (m.sendCommandACK frameId "ERROR: Parsing Command").returned
  | command :: _ =>
    if command = "GOTO".toList then m.executeCommandGOTO env tokens frameId
    else if command = "RESET".toList then m.executeCommandRESET env tokens frameId
    else if command = "SETMODE".toList then m.executeCommandSETMODE env tokens frameId
    else if command = "POWER".toList then m.executeCommandPOWER env tokens frameId
    else (m.sendCommandACK frameId "ERROR: No Command").returned

end Served

/-! ## The payload of a frame -/

/-- The string `ParseRawRx` makes of a payload. -/
def commandText (payload : List UInt8) : List Char :=
  (payload.takeWhile (· ≠ 0)).map fun b => Char.ofNat b.toNat

/-- The text behind the zero that `ParseRawRx` writes. -/
theorem commandText_terminate {f : Link.Frame} (h : f.rxPayloadLength.toNat + 8 < frameBufferSize) :
    f.terminate.text.map (fun b => Char.ofNat b.toNat) = commandText f.message.payload := by
  rw [Link.Frame.terminate_text h]
  rfl

namespace Served

variable (env : Surroundings D) (m : Served D) (fields : List (List Char)) (frameId : UInt16)

/-! ## The robot's own model of the handlers -/

/-- The answer to a command that was carried out. -/
def answer (result : Robot D × String) : Outcome D :=
  ((m.setRobot result.1).sendCommandACK frameId result.2).returned

omit [Dbl D] in
theorem executeCommandSETMODE_eq : m.executeCommandSETMODE env fields frameId =
    m.field fields 1 fun arg =>
      m.answer frameId (m.robot.executeCommandSetMode arg env.init) := by
  unfold executeCommandSETMODE
  congr 1
  funext arg
  unfold Robot.executeCommandSetMode
  cases string2Mode arg with
  | modeWaypoints =>
    dsimp only
    split
    · rfl
    · rfl
  | modeVisual =>
    dsimp only
    split
    · rfl
    · rfl
  | modeLine =>
    dsimp only
    split
    · rfl
    · rfl
  | standby => rfl

omit [Dbl D] in
/-- A field that is there is used. -/
theorem field_of_lt {i : Nat} (h : i < fields.length) (use : List Char → Outcome D) :
    m.field fields i use = use (fields.getD i []) := by
  rw [field, List.getElem?_eq_getElem h, List.getD_eq_getElem _ _ h]

/-- The shell command of a `GOTO` that has all its fields. -/
def gotoAsk : List Char :=
  ask env m.robot.location.longitude m.robot.location.latitude
    (env.atof (fields.getD 1 [])) (env.atof (fields.getD 2 [])) (env.atof (fields.getD 3 []))
    (CText.atoi (fields.getD 4 [])) (CText.atoi (fields.getD 5 [])) (env.atof (fields.getD 6 []))

/-- A `GOTO` with its fields at a good location runs the planner, if the command fits. -/
theorem executeCommandGOTO_eq (hgood : m.robot.isLocationGood = true) (h : 6 < fields.length) :
    m.executeCommandGOTO env fields frameId =
      if 255 ≤ (gotoAsk env m fields).length then
        ⟨m, .overflow ((gotoAsk env m fields).length + 1)⟩
      else if env.popen = false then ⟨m, .thrown⟩
      else m.answer frameId (m.robot.executeCommandGoto env.file) := by
  rw [executeCommandGOTO, if_pos hgood]
  rw [field_of_lt _ _ (by omega), field_of_lt _ _ (by omega), field_of_lt _ _ (by omega),
    field_of_lt _ _ (by omega), field_of_lt _ _ (by omega), field_of_lt _ _ h]
  -- behind the two tests the handlers agree
  apply if_congr Iff.rfl rfl
  apply if_congr Iff.rfl rfl
  unfold Robot.executeCommandGoto
  rw [if_pos hgood]
  dsimp only
  split
  · rfl
  · rfl

/-- Without a good location it only loads the file. -/
theorem executeCommandGOTO_bad (hbad : m.robot.isLocationGood = false) :
    m.executeCommandGOTO env fields frameId =
      m.answer frameId (m.robot.executeCommandGoto env.file) := by
  rw [executeCommandGOTO, Robot.executeCommandGoto, if_neg (by simp [hbad]), if_neg (by simp [hbad])]
  rfl

/-! ## Answered once -/

/-- Only fields that exist were read, and one `CommandACK` was generated, for the frame
that brought the command. -/
structure Answered (o : Outcome D) : Prop where
  inRange : ∀ index size, o.ending ≠ .outOfRange index size
  once : ∃ a : Ack, a.frameId = frameId ∧ o.served.acks = m.acks ++ [a] ∧
    ∀ (rndByte : UInt8) (h : rndByte ≠ 0x7E), (a.reply h).frame ≠ []

/-- The command names, as the first field has them. -/
def Names (command : String) : Prop := fields.head? = some command.toList

/-- The numbers of the shell command of a `GOTO`, as they are printed. -/
def gotoNumbers : List (List Char) :=
  [env.fixed 10 m.robot.location.longitude, env.fixed 10 m.robot.location.latitude,
    env.fixed 10 (env.atof (fields.getD 1 [])), env.fixed 10 (env.atof (fields.getD 2 [])),
    env.fixed 1 (env.atof (fields.getD 3 [])), (toString (CText.atoi (fields.getD 4 []))).toList,
    (toString (CText.atoi (fields.getD 5 []))).toList, env.fixed 2 (env.atof (fields.getD 6 []))]

omit [Dbl D] in
/-- The rest of the shell command has 165 characters. -/
theorem gotoAsk_length :
    (gotoAsk env m fields).length = 165 + (gotoNumbers env m fields).flatten.length := by
  unfold gotoAsk ask gotoNumbers
  simp only [List.length_append, List.flatten_cons, List.flatten_nil, List.length_nil,
    String.length_toList]
  have hpoint :
      "python3 /home/solarbot/route_optimization/main.py --current_point=".length = 66 := rfl
  have hdesired : " --desired_point=".length = 17 := rfl
  have hdirection : " --direction=".length = 13 := rfl
  have hmaneuver : " --maneuver=".length = 12 := rfl
  have hspeed : " --speed=".length = 9 := rfl
  have hoffset : " --offset=".length = 10 := rfl
  have hfile : " > /home/solarbot/waypoints/temp.txt".length = 36 := rfl
  have hspace : " ".length = 1 := rfl
  omega

/-- The fields are there, the numbers of the shell command leave it room in its buffer, and
the devices are open. -/
structure Answerable : Prop where
  goto : Names fields "GOTO" → m.robot.isLocationGood = true →
    6 < fields.length ∧ (gotoNumbers env m fields).flatten.length ≤ 89 ∧ env.popen = true
  reset : Names fields "RESET" → 1 < fields.length ∧
    (fields[1]? = some "GPS".toList → env.gps = true ∧ env.gps2 = true)
  setMode : Names fields "SETMODE" → 1 < fields.length
  power : Names fields "POWER" → 1 < fields.length ∧ env.powerUnit = true

/-- The messages of the handlers. -/
def messages : List String :=
  ["OK", "ERROR: No Command", "ERROR: Parsing Command", "ERROR: Invalid RESET command",
    "ERROR: There is not any waypoints", "ERROR: InitModeVisual", "ERROR: InitModeLine",
    "ERROR: Loading generated waypoints file", "ERROR: Current Location is not good"]

/-- Every answer has room in a frame. -/
theorem messages_short : ∀ msg ∈ messages, msg.toList.length ≤ 246 := by decide

/-- `GenerateFrame` refuses none of the messages. -/
theorem ack_frame_ne_nil {a : Ack} (hmsg : a.msg ∈ messages) {rndByte : UInt8}
    (h : rndByte ≠ 0x7E) : (a.reply h).frame ≠ [] := by
  have ha := messages_short _ hmsg
  refine generateFrame_ne_nil _ _ _ _ _ ?_
  have hlen : (a.reply h).payload.length = a.msg.toList.length := List.length_map _
  have hmod : (UInt16.ofNat (a.reply h).payload.length).toNat ≤ a.msg.toList.length := by
    rw [hlen, UInt16.toNat_ofNat']
    exact Nat.mod_le _ _
  unfold clientTxBufferSize
  omega

omit [Dbl D] in
/-- An outcome of which one message was sent. -/
theorem answered_sent {o : Outcome D} {msg : String} (hacks : o.served.acks = m.acks ++ [⟨msg, frameId⟩])
    (hmsg : msg ∈ messages) (hend : ∀ index size, o.ending ≠ .outOfRange index size) :
    m.Answered frameId o :=
  ⟨hend, ⟨msg, frameId⟩, rfl, hacks, fun _ h => ack_frame_ne_nil hmsg h⟩

omit [Dbl D] in
/-- What changes nothing answers nothing. -/
theorem not_answered_silent {e : Ending} : ¬ m.Answered frameId ⟨m, e⟩ := by
  intro h
  obtain ⟨a, -, hacks, -⟩ := h.once
  have := congrArg List.length hacks
  simp at this

omit [Dbl D] in
/-- A command is answered when its field is there and its use is. -/
theorem answered_field {i : Nat} {use : List Char → Outcome D} :
    m.Answered frameId (m.field fields i use) ↔
      i < fields.length ∧ m.Answered frameId (use (fields.getD i [])) := by
  by_cases h : i < fields.length
  · rw [field_of_lt m fields h]
    exact (and_iff_right h).symm
  · have hnone : m.field fields i use = ⟨m, .outOfRange i fields.length⟩ := by
      rw [field, List.getElem?_eq_none (by omega)]
    rw [hnone]
    exact iff_of_false (not_answered_silent m frameId) fun hc => h hc.1

/-! ## The handlers -/

omit [Dbl D] in
/-- An answer is one when its text is among the messages. -/
theorem answered_answer {result : Robot D × String} (h : result.2 ∈ messages) :
    m.Answered frameId (m.answer frameId result) := by
  refine answered_sent m frameId rfl h ?_
  intro _ _ he
  cases he

omit [Dbl D] in
/-- `SETMODE` has a message for everything. -/
theorem executeCommandSetMode_message (s : Robot D) (arg : List Char) (i : Robot.InitResults) :
    (s.executeCommandSetMode arg i).2 ∈ messages := by
  unfold Robot.executeCommandSetMode
  cases string2Mode arg with
  | modeWaypoints =>
    dsimp only
    split <;> simp [messages]
  | modeVisual =>
    dsimp only
    split <;> simp [messages]
  | modeLine =>
    dsimp only
    split <;> simp [messages]
  | standby => simp [messages]

/-- And so has `GOTO`. -/
theorem executeCommandGoto_message (s : Robot D) (file : Option (List Char)) :
    (s.executeCommandGoto file).2 ∈ messages := by
  unfold Robot.executeCommandGoto
  split
  · dsimp only
    split <;> simp [messages]
  · simp [messages]

/-- When a `GOTO` is answered. -/
theorem answered_GOTO : m.Answered frameId (m.executeCommandGOTO env fields frameId) ↔
    (m.robot.isLocationGood = true →
      6 < fields.length ∧ (gotoNumbers env m fields).flatten.length ≤ 89 ∧ env.popen = true) := by
  have hlen := gotoAsk_length env m fields
  have hanswer := answered_answer m frameId (executeCommandGoto_message m.robot env.file)
  cases hgood : m.robot.isLocationGood with
  | false =>
    rw [executeCommandGOTO_bad env m fields frameId hgood]
    constructor
    · intro _ h
      exact absurd h Bool.false_ne_true
    · intro _
      exact hanswer
  | true =>
    rw [forall_prop_of_true rfl]
    by_cases h : 6 < fields.length
    · rw [executeCommandGOTO_eq env m fields frameId hgood h, and_iff_right h]
      by_cases hask : 255 ≤ (gotoAsk env m fields).length
      · rw [if_pos hask]
        refine iff_of_false (not_answered_silent m frameId) ?_
        intro hc
        have hroom := hc.1
        omega
      · rw [if_neg hask, and_iff_right (show (gotoNumbers env m fields).flatten.length ≤ 89 by omega)]
        cases hpopen : env.popen with
        | false => exact iff_of_false (not_answered_silent m frameId) Bool.false_ne_true
        | true => exact iff_of_true hanswer rfl
    · -- the first field that is missing ends the handler
      rw [executeCommandGOTO, if_pos hgood]
      simp only [answered_field]
      exact iff_of_false (fun hc => h hc.2.2.2.2.2.1) fun hc => h hc.1

omit [Dbl D] in
/-- When a `RESET` is. -/
theorem answered_RESET : m.Answered frameId (m.executeCommandRESET env fields frameId) ↔
    1 < fields.length ∧ (fields[1]? = some "GPS".toList → env.gps = true ∧ env.gps2 = true) := by
  rw [executeCommandRESET, answered_field]
  apply and_congr_right
  intro h
  rw [List.getElem?_eq_getElem h, List.getD_eq_getElem _ _ h, Option.some.injEq]
  split
  next harg =>
    rw [← Bool.and_eq_true]
    cases env.gps && env.gps2 with
    | false =>
      exact iff_of_false (not_answered_silent m frameId) fun hc => Bool.false_ne_true (hc harg)
    | true =>
      refine iff_of_true ?_ fun _ => rfl
      exact answered_sent m frameId rfl (by simp [messages]) (by simp [returned])
  next harg =>
    refine iff_of_true ?_ fun hc => absurd hc harg
    exact answered_sent m frameId rfl (by simp [messages]) (by simp [returned])

omit [Dbl D] in
/-- When a `SETMODE` is. -/
theorem answered_SETMODE : m.Answered frameId (m.executeCommandSETMODE env fields frameId) ↔
    1 < fields.length := by
  rw [executeCommandSETMODE_eq, answered_field]
  exact and_iff_left (answered_answer m frameId (executeCommandSetMode_message ..))

omit [Dbl D] in
/-- When a `POWER` is. -/
theorem answered_POWER : m.Answered frameId (m.executeCommandPOWER env fields frameId) ↔
    1 < fields.length ∧ env.powerUnit = true := by
  rw [executeCommandPOWER, answered_field]
  apply and_congr_right
  intro _
  cases env.powerUnit with
  | false => exact iff_of_false (not_answered_silent m frameId) Bool.false_ne_true
  | true => exact iff_of_true (answered_sent m frameId rfl (by simp [messages]) (by simp)) rfl

omit [Dbl D] in
/-- The first field says which clause counts. -/
theorem answerable_cons {command : List Char} {rest : List (List Char)} :
    m.Answerable env (command :: rest) ↔
      (command = "GOTO".toList → m.robot.isLocationGood = true → 6 < (command :: rest).length ∧
        (gotoNumbers env m (command :: rest)).flatten.length ≤ 89 ∧ env.popen = true) ∧
      (command = "RESET".toList → 1 < (command :: rest).length ∧
        ((command :: rest)[1]? = some "GPS".toList → env.gps = true ∧ env.gps2 = true)) ∧
      (command = "SETMODE".toList → 1 < (command :: rest).length) ∧
      (command = "POWER".toList → 1 < (command :: rest).length ∧ env.powerUnit = true) := by
  have hname : ∀ name : String, Names (command :: rest) name ↔ command = name.toList :=
    fun _ => Option.some_inj
  constructor
  · intro h
    obtain ⟨hgoto, hreset, hsetMode, hpower⟩ := h
    simp only [hname] at hgoto hreset hsetMode hpower
    exact ⟨hgoto, hreset, hsetMode, hpower⟩
  · intro h
    simp only [← hname] at h
    exact ⟨h.1, h.2.1, h.2.2.1, h.2.2.2⟩

omit [Dbl D] in
/-- Without a field nothing is read. -/
theorem answerable_nil : m.Answerable env [] := by
  have hname : ∀ name : String, ¬ Names [] name := by
    intro name h
    cases h
  exact ⟨fun h => absurd h (hname _), fun h => absurd h (hname _), fun h => absurd h (hname _),
    fun h => absurd h (hname _)⟩

/-- **Every command is answered once**, and reads only fields it has, exactly under
`Answerable`. -/
theorem executeCommand_answered_iff (env : Surroundings D) (m : Served D) (payload : List UInt8)
    (frameId : UInt16) :
    m.Answered frameId (m.executeCommand env frameId (commandText payload)) ↔
      m.Answerable env (words (commandText payload)) := by
  have hsent : ∀ msg ∈ messages, m.Answered frameId (m.sendCommandACK frameId msg).returned := by
    intro msg h
    show m.Answered frameId (m.answer frameId (m.robot, msg))
    exact answered_answer m frameId h
  unfold executeCommand
  cases words (commandText payload) with
  | nil => exact iff_of_true (hsent _ (by simp [messages])) (answerable_nil env m)
  | cons command rest =>
    rw [answerable_cons]
    dsimp only
    split
    next hgoto =>
      rw [answered_GOTO]
      simp [hgoto]
    next hgoto =>
      split
      next hreset =>
        rw [answered_RESET]
        simp [hreset]
      next hreset =>
        split
        next hsetMode =>
          rw [answered_SETMODE]
          simp [hsetMode]
        next hsetMode =>
          split
          next hpower =>
            rw [answered_POWER]
            simp [hpower]
          next hpower =>
            -- a command without a handler
            refine iff_of_true (hsent _ (by simp [messages])) ?_
            exact ⟨fun h => absurd h hgoto, fun h => absurd h hreset, fun h => absurd h hsetMode,
              fun h => absurd h hpower⟩

/-! ## A command without its field -/

noncomputable def sampleServed : Served ℝ where
  robot := (plainConfig "standby".toList none).constructed
  acks := []

/-- Devices that answer, and numbers of one digit. -/
def sampleSurroundings : Surroundings ℝ where
  atof _ := 0
  fixed _ _ := ['0']
  init := ⟨true, true, 0⟩
  popen := true
  file := none
  gps := true
  gps2 := true
  powerUnit := true

/-- `RESET`. -/
def sampleReset : List UInt8 := [0x52, 0x45, 0x53, 0x45, 0x54]

/-- `fields[1]` of a single field. -/
theorem reset_outOfRange :
    (sampleServed.executeCommand sampleSurroundings 1 (commandText sampleReset)).ending
      = .outOfRange 1 1 ∧
    ¬ sampleServed.Answered 1
      (sampleServed.executeCommand sampleSurroundings 1 (commandText sampleReset)) := by
  have hwords : words (commandText sampleReset) = ["RESET".toList] := by decide
  have hcommand : sampleServed.executeCommand sampleSurroundings 1 (commandText sampleReset)
      = ⟨sampleServed, .outOfRange 1 1⟩ := by
    rw [executeCommand, hwords]
    rfl
  rw [hcommand]
  exact ⟨rfl, not_answered_silent sampleServed 1⟩

end Served

end Solarbot.MasterApp
