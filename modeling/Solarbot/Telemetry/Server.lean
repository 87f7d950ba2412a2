import Solarbot.Link.Aes128
import Solarbot.Telemetry.Exchange

/-!
# `ThreadServer`

The side of `Telemetry` that accepts a client: `SOLARBOT` is answered with 64 random
bytes, the authentication message sets the session key. One pass of the loop over a
connection is `serve`; `received` is what its `read` returns, the empty list where the
read fails and throws, and `delivered` is whether its `write` succeeds. Either exception
ends the connection.
-/

namespace Solarbot.Telemetry

open Link

/-- `Telemetry::ProcessorStatus`. -/
inductive ProcessorStatus where
  | starting | authenticating | working
  deriving DecidableEq, Repr

structure Server where
  isConnected : Bool
  clientIsAuthenticated : Bool
  clientStatus : ProcessorStatus
  /-- the expanded keys of `AES_Server` -/
  keys : List UInt8

/-- `MAXRECV`, the most a read into a string takes. -/
abbrev maxRecv : Nat := 500

/-- `Server_Rx_Buffer_Size`. -/
abbrev serverRxBufferSize : Nat := 512

/-- `AuthenticateClient` only looks at the first argument. -/
def authenticateClient (version _frota _user _password : List UInt8) : Bool :=
  version == ascii "SolarBot"

namespace Server

/-- A client was accepted. -/
def accept (s : Server) : Server :=
  { s with isConnected := true, clientIsAuthenticated := false, clientStatus := .starting }

/-- `IsConnected = false`, also by way of an exception. -/
def disconnect (s : Server) : Server := { s with isConnected := false }

/-- `GenerateServerKey`; `serverKey` is what `rand()` makes of the 64 bytes. -/
def generateServerKey (s : Server) (serverKey : Vector UInt8 64) : Server :=
  { s with keys := Aes128.setKey (extractKey serverKey.toList) }

/-- `ClientStatus == Starting`, with the bytes written. -/
def starting (s : Server) (received : List UInt8) (serverKey : Vector UInt8 64)
    (delivered : Bool) : Server × Option (List UInt8) :=
  let s := { s with clientIsAuthenticated := false }
  let data := cString (received.take maxRecv)
  if received = [] then (s.disconnect, none)
  else if data = ascii "SOLARBOT" then
    let s := s.generateServerKey serverKey
    if delivered then ({ s with clientStatus := .authenticating }, some serverKey.toList)
    else (s.disconnect, none)
  else (s.disconnect, none)

/-- `ClientStatus == Authenticating`. -/
def authenticating (s : Server) (received : List UInt8) : Server :=
  let buffer := received.take serverRxBufferSize
  let str := Aes128.decrypt s.keys buffer (buffer.length / 16)
  let fields := splitFields str
  let field := fun i => fields.getD i []
  if received = [] then s.disconnect
  else if fields.length > 5 ∧ field 0 = ascii "SolarBot" ∧ (field 4).length = 32 then
    if authenticateClient (field 0) (field 1) (field 2) (field 3) then
      { s with
        keys := Aes128.setKey (readKey (field 4))
        clientStatus := .working
        clientIsAuthenticated := true }
    else s.disconnect
  else s.disconnect

/-- One pass of `while (IsConnected && client_socket.is_valid())`. -/
def serve (s : Server) (received : List UInt8) (serverKey : Vector UInt8 64) (delivered : Bool) :
    Server × Option (List UInt8) :=
  match s.clientStatus with
  | .working => (s, none)
  | .authenticating => (s.authenticating received, none)
  | .starting => s.starting received serverKey delivered

end Server

end Solarbot.Telemetry
