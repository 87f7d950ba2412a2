import Solarbot.Lib.Runs
import Solarbot.Telemetry.Handshake

/-!
# `ThreadServer` and `ThreadClient` of `MasterApp`

The command server takes one client after the other through the handshake. A client it
authenticates gets a thread that reads `aunthenticated_client_socket_fd` over and over,
and the server goes on to the next one. The new thread is to replace the one before:
the server sets `client_running` and closes the old socket "to try to quit the thread".
Nothing reads `client_running`, a read that fails only makes the thread try again, and
`while (ctrl)` asks for the pointer, not for what it points to. So no thread ever ends
(`Inv`), each reads whatever socket is the current one (`reads_iff`), and
`one_consumer` is what is left of the rule: there is one consumer as long as there is
one authenticated client in the life of the process.

The server is cut at its system calls and at its writes to the members it shares with
the threads; a thread is cut around its `read`.

Mirroring notes vs `MasterApp.cpp`:
- `IsConnected`, `ClientStatus` and `new_client_socket_fd` are in the `pc`.
- A read that fails throws in the constructor of the string and ends the connection. So
  does an empty one, and both are the empty list.
- `socket`, `bind` and `listen` are one piece; where one of them fails the process exits.
- `close` has no effect on the members. That a read of a closed descriptor fails makes no
  difference to the thread: what it does with the bytes is `Link.Client.read`.
- `aunthenticated_client_socket_fd` is indeterminate in a new object.
-/

namespace Solarbot.MasterApp

open Link Telemetry

/-- The members of `Solarbot` that `AuthenticateClient` compares with. -/
structure Accounts where
  cmdVersion : List UInt8
  myID : List UInt8
  cmdUser : List UInt8
  cmdPassword : List UInt8

def authenticateClient (a : Accounts) (version frota user password : List UInt8) : Bool :=
  version == a.cmdVersion && frota == a.myID && user == a.cmdUser && password == a.cmdPassword

/-- The next piece of `ThreadServer`; `fd` is `new_client_socket_fd`. -/
inductive ServerPc where
  /-- makes the socket that listens -/
  | create
  | accept
  /-- reads `SOLARBOT` -/
  | hello (fd : Int)
  /-- writes the 64 bytes -/
  | serverKey (fd : Int)
  /-- reads the authentication message -/
  | auth (fd : Int)
  /-- `client_running = false` -/
  | quitClient (fd : Int) (field : List UInt8)
  /-- closes the socket of the client before -/
  | closeClient (fd : Int) (field : List UInt8)
  /-- sets the session key, in hexadecimal in this field -/
  | setKey (fd : Int) (field : List UInt8)
  /-- `aunthenticated_client_socket_fd = new_client_socket_fd` -/
  | saveSocket (fd : Int)
  /-- `pthread_create` -/
  | createClient
  | ended
  deriving DecidableEq

/-- Where a `ThreadClient` is. -/
inductive ClientPc where
  /-- the head of the loop -/
  | loop
  /-- in `read` on this descriptor -/
  | reading (fd : Int)
  | sleeping
  | ended
  deriving DecidableEq

/-- What the system call of a piece returns: success, the descriptor, the bytes read; and
what `rand()` makes of the 64 bytes. -/
structure ServerOutcome where
  ok : Bool := true
  fd : Int := -1
  received : List UInt8 := []
  serverKey : Vector UInt8 64 := Vector.replicate 64 0

/-- The members of `MasterApp` the threads use, and where each of them is. -/
structure Sessions where
  accounts : Accounts
  /-- The pointer: null, or to a variable with this value. -/
  ctrl : Option Int
  /-- the expanded keys of `AES_Server` and `AES_Client` -/
  serverKeys : List UInt8
  clientKeys : List UInt8
  clientRunning : Bool
  aunthenticatedClientSocketFd : Int
  server : ServerPc
  /-- The threads `pthread_create` has made, the last one in `client_thread`. -/
  clients : List ClientPc

inductive Event where
  /-- A piece of `ThreadServer`. -/
  | server (o : ServerOutcome)
  /-- A piece of a `ThreadClient`. -/
  | client (i : Nat)
  /-- The program writes the variable `ctrl` points to. -/
  | setCtrl (v : Int)

namespace Sessions

/-- A new `MasterApp` whose server thread was just started. -/
def new (accounts : Accounts) (ctrl : Int) (serverKeys clientKeys : List UInt8) (fd : Int) :
    Sessions :=
  { accounts, ctrl := some ctrl, serverKeys, clientKeys, clientRunning := false
    aunthenticatedClientSocketFd := fd, server := .create, clients := [] }

variable (s : Sessions)

/-- The fifth field of the message, when the client may come in. -/
def sessionField (received : List UInt8) : Option (List UInt8) :=
  let buffer := received.take serverRxBufferSize
  let str := Aes128.decrypt s.serverKeys buffer (buffer.length / 16)
  let fields := splitFields str
  let field := fun i => fields.getD i []
  if fields.length > 5 ∧ (field 4).length = 32 then
    if authenticateClient s.accounts (field 0) (field 1) (field 2) (field 3) then some (field 4)
    else none
  else none

/-- The next piece of `ThreadServer`, when its system call returns `o`. -/
def resume (o : ServerOutcome) : Sessions :=
  match s.server with
  | .create => { s with server := if s.ctrl.isSome && o.ok then .accept else .ended }
  | .accept =>
    if s.ctrl.isSome then
      if o.fd > -1 then { s with server := .hello o.fd } else s
    else { s with server := .ended }
  | .hello fd =>
    if o.received.take (serverRxBufferSize - 1) = ascii "SOLARBOT" then
      { s with
        serverKeys := Aes128.setKey (extractKey o.serverKey.toList)
        server := .serverKey fd }
    else { s with server := .accept }
  | .serverKey fd => { s with server := .auth fd }
  | .auth fd =>
    match s.sessionField o.received with
    | some field => { s with server := .quitClient fd field }
    | none => { s with server := .accept }
  | .quitClient fd field => { s with clientRunning := false, server := .closeClient fd field }
  | .closeClient fd field => { s with server := .setKey fd field }
  | .setKey fd field =>
    { s with clientKeys := Aes128.setKey (readKey field), server := .saveSocket fd }
  | .saveSocket fd => { s with aunthenticatedClientSocketFd := fd, server := .createClient }
  | .createClient =>
    { s with clients := if o.ok then s.clients ++ [.loop] else s.clients, server := .accept }
  | .ended => s

/-- The next piece of a `ThreadClient`. -/
def resumeClient : ClientPc → ClientPc
  | .loop => if s.ctrl.isSome then .reading s.aunthenticatedClientSocketFd else .ended
  | .reading _ => .sleeping
  | .sleeping => .loop
  | .ended => .ended

def step : Event → Sessions
  | .server o => s.resume o
  | .client i => { s with clients := s.clients.modify i s.resumeClient }
  | .setCtrl v => { s with ctrl := s.ctrl.map fun _ => v }

/-- The steps of the threads, as a relation. -/
def Step (s : Sessions) (e : Event) (s' : Sessions) : Prop := s' = s.step e

/-- Thread `i`, left alone, gets to a `read` of `aunthenticated_client_socket_fd`. -/
def Reads (i : Nat) : Prop :=
  ∃ n, ((List.replicate n (.client i)).foldl step s).clients[i]? =
    some (.reading s.aunthenticatedClientSocketFd)

end Sessions

end Solarbot.MasterApp
