import Solarbot.Link.Aes128Inverse
import Solarbot.Telemetry.Exchange

/-!
# `ThreadTelemetricServer` and `SendFrame`

The side of `Telemetry` that sends to the telemetry server. The thread works through
one loop: make a socket, connect, authenticate, and then write whatever is in
`Telemetry_Server_Tx_Buffer`. The main loop puts frames there with `SendFrame`, unless
`Telemetry_Server_Tx_Buffer_Flag` is up.

The thread is cut at its socket operations: `pc` is the operation it is in, and
`resume` is what it does from the return of that operation to the call of the next
one. What an operation returns is an `Outcome`, anything at all. Between two pieces of
the thread the main loop can call `SendFrame`, as a whole.

Mirroring notes vs `Telemetry.cpp`:
- `SendFrame` is the half that fills the buffer for the telemetry server; the other
  half writes to the local client and uses none of these members;
- `read_with_status` returns `-1`, `0` or a number of bytes. Only `== 64` and `<= 0`
  are asked, so both failures are the empty list;
- what `write` returns is not looked at; no member function of `Socket` throws, so
  the `catch` blocks are not reached;
- `is_valid` and `set_read_timeout` do not change anything here and are no cuts;
- the indeterminate values of a new object are the arguments of `Sender.new`.
-/

namespace Solarbot.Telemetry

open Link

/-- `sizeof(Telemetry::Frame) + 6`. -/
abbrev txBufferLength : Nat := 86

/-- `memcpy` or `sprintf` to the front of a buffer. -/
def overwrite (buffer bytes : List UInt8) : List UInt8 := bytes ++ buffer.drop bytes.length

/-- What `SendFrame` puts together around a `Telemetry::Frame`: mark, length, type, the
five encrypted blocks and `0x0273` for a CRC. -/
def frameBytes (keys : List UInt8) (frame : Vector UInt8 80) : List UInt8 :=
  [0x7E, 80, 0, 0x01] ++ Aes128.encrypt keys frame.toList 5 ++ [0x73, 0x02]

theorem frameBytes_length (keys : List UInt8) (frame : Vector UInt8 80) :
    (frameBytes keys frame).length = txBufferLength := by
  have h := @Aes128.encrypt_length keys frame.toList 5 (by simp)
  rw [frameBytes, List.length_append, List.length_append, h]
  simp

/-- The socket operation the thread is in; `loop` is the head of its loop. -/
inductive Pc where
  | loop
  | create
  | connect
  /-- writes `SOLARBOT` -/
  | hello
  /-- reads the 64 bytes -/
  | serverKey
  /-- writes the authentication message, `c` bytes -/
  | auth (c : Nat)
  /-- closes the socket after another answer -/
  | reject
  /-- writes the frame -/
  | send
  /-- reads the acknowledgement -/
  | ack
  /-- closes the socket without one -/
  | drop
  deriving DecidableEq, Repr

/-- What the operation returns: success, the bytes read, and what the calls of `rand()`
behind it return. -/
structure Outcome where
  ok : Bool
  received : List UInt8
  rnd : Vector UInt8 16

/-- The members of `Telemetry` the two threads use, and where the thread is. -/
structure Sender where
  socketValid : Bool
  isConnected : Bool
  isAutenticated : Bool
  /-- `Telemetry_Server_Tx_Buffer_Flag` -/
  flag : Bool
  txBuffer : List UInt8
  rxBuffer : List UInt8
  /-- `Telemetry_Server_AES_Key` -/
  aesKey : List UInt8
  /-- the expanded keys of `AES_Telemetry_Server` -/
  keys : List UInt8
  pc : Pc

namespace Sender

/-- A new `Telemetry` whose thread was just started. -/
def new (txBuffer rxBuffer aesKey keys : List UInt8) : Sender :=
  { socketValid := false, isConnected := false, isAutenticated := true, flag := false,
    txBuffer := txBuffer, rxBuffer := rxBuffer, aesKey := aesKey, keys := keys, pc := .loop }

/-- `SendFrame(1, frame, sizeof(frame))`. -/
def sendFrame (s : Sender) (frame : Vector UInt8 80) : Sender :=
  if s.flag then s
  else { s with txBuffer := overwrite s.txBuffer (frameBytes s.keys frame), flag := true }

/-- From the head of the loop to the first socket operation, if the pass has one. -/
def loopHead (s : Sender) : Sender :=
  if !s.socketValid then { s with pc := .create }
  else if !s.isConnected then { s with pc := .connect }
  else if !s.isAutenticated then
    { s with flag := true, txBuffer := overwrite s.txBuffer (ascii "SOLARBOT" ++ [0]), pc := .hello }
  else if s.flag then { s with pc := .send }
  else s

/-- The 64 bytes are in `rxBuffer`: extract the key, make the message, encrypt it. -/
def makeAuth (s : Sender) (c : Credentials) (rnd : Vector UInt8 16) : Sender :=
  let keys := Aes128.setKey (extractKey s.rxBuffer)
  let message := authMessage c rnd.toList
  let buffer := overwrite (overwrite s.txBuffer (message ++ [0])) (padded message)
  { s with
    keys := keys
    aesKey := rnd.toList
    txBuffer := Aes128.encrypt keys buffer ((padded message).length / 16)
    pc := .auth (padded message).length }

/-- What the thread does when the operation it is in returns `o`. -/
def resume (c : Credentials) (s : Sender) (o : Outcome) : Sender :=
  match s.pc with
  | .loop => s.loopHead
  | .create => { s with socketValid := o.ok, pc := .loop }
  | .connect => { s with isConnected := o.ok, isAutenticated := false, flag := true, pc := .loop }
  | .hello => { s with pc := .serverKey }
  | .serverKey =>
    let s := { s with rxBuffer := overwrite s.rxBuffer o.received }
    if o.received.length = 64 then s.makeAuth c o.rnd else { s with pc := .reject }
  | .auth _ =>
    { s with keys := Aes128.setKey s.aesKey, isAutenticated := true, flag := false, pc := .loop }
  | .reject => { s with socketValid := false, isConnected := false, pc := .loop }
  | .send => { s with pc := .ack }
  | .ack =>
    let s := { s with rxBuffer := overwrite s.rxBuffer o.received }
    if o.received.length ≤ 0 then { s with pc := .drop } else { s with flag := false, pc := .loop }
  | .drop => { s with socketValid := false, isConnected := false, flag := false, pc := .loop }

/-- The buffer the operation passes to `write`. -/
def writes (s : Sender) : Option (List UInt8) :=
  match s.pc with
  | .hello => some (s.txBuffer.take 8)
  | .auth c => some (s.txBuffer.take c)
  | .send => some (s.txBuffer.take txBufferLength)
  | _ => none

end Sender

end Solarbot.Telemetry
