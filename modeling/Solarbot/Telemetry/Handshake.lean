import Solarbot.Telemetry.Sender
import Solarbot.Telemetry.Server

/-!
# The handshake

The two sides of `Telemetry`, put together: what one writes is what the other reads,
each message whole. `hello` is `SOLARBOT` and the 64 bytes, `auth` is the
authentication message. After the first both have extracted the same key
(`hello_spec`), so the server decrypts the message the client made, finds its fields
and takes the same session key from it (`auth_spec`).
-/

namespace Solarbot.Telemetry

open Link

/-- The authentication message, encrypted: it fits the buffer it is read into, and its six
fields are what comes out of it again. -/
theorem received_fields {c : Credentials} {rnd : List UInt8} (keys : List UInt8)
    (hid : 0x2C ∉ c.telemetryID) (huser : 0x2C ∉ c.serverUser) (hpw : 0x2C ∉ c.serverPassword)
    (hfits : (authMessage c rnd).length + 1 ≤ serverRxBufferSize) :
    let message := padded (authMessage c rnd)
    let received := Aes128.encrypt keys message (message.length / 16)
    received ≠ [] ∧ received.take serverRxBufferSize = received ∧
      ∃ rest, splitFields (Aes128.decrypt keys received (received.length / 16)) =
        [ascii "SolarBot", cString c.telemetryID, cString c.serverUser, cString c.serverPassword,
          rnd.flatMap hexByte, rest] := by
  intro message received
  obtain ⟨⟨k, hk⟩, hlt⟩ := padded_length (authMessage c rnd)
  obtain ⟨rest, hfields⟩ := splitFields_authMessage hid huser hpw rnd
  have hmessage : message.length = 16 * k := hk
  -- the message is whole blocks, and the read takes all of it
  have hcipher : received.length = message.length := Aes128.encrypt_length _ (by omega)
  have hbuffer : received.length ≤ serverRxBufferSize := by
    rw [serverRxBufferSize] at hfits ⊢
    omega
  have hplain : Aes128.decrypt keys received (received.length / 16) = message := by
    rw [hcipher]
    exact Aes128.decrypt_encrypt _ (by omega)
  refine ⟨?_, List.take_of_length_le hbuffer, rest, ?_⟩
  · -- nothing has no fields
    intro hnil
    rw [hnil] at hcipher
    have hempty : padded (authMessage c rnd) = [] := List.length_eq_zero_iff.mp hcipher.symm
    rw [hempty] at hfields
    exact absurd (congrArg List.length hfields) (by simp [splitFields])
  · rw [hplain]
    exact hfields

/-- A server that waits for the authentication message takes the session key from it,
when it comes encrypted with the key the server has extracted, fits the buffer and has
no comma in a field. -/
theorem Server.authenticating_message {s : Server} {c : Credentials} {rnd key : List UInt8}
    (hid : 0x2C ∉ c.telemetryID) (huser : 0x2C ∉ c.serverUser) (hpw : 0x2C ∉ c.serverPassword)
    (hrnd : rnd.length = 16) (hfits : (authMessage c rnd).length + 1 ≤ serverRxBufferSize)
    (hkeys : s.keys = Aes128.setKey key) :
    s.authenticating (Aes128.encrypt (Aes128.setKey key) (padded (authMessage c rnd))
        ((padded (authMessage c rnd)).length / 16)) =
      { s with
        keys := Aes128.setKey rnd
        clientStatus := .working
        clientIsAuthenticated := true } := by
  obtain ⟨hpos, hbuffer, rest, hfields⟩ :=
    received_fields (Aes128.setKey key) hid huser hpw hfits
  have hfield : (rnd.flatMap hexByte).length = 32 := by rw [hex_length, hrnd]
  unfold Server.authenticating
  dsimp only
  rw [hbuffer, hkeys, hfields, if_neg hpos, if_pos ⟨by simp, rfl, hfield⟩, if_pos (by rfl),
    List.getD_cons_succ, List.getD_cons_succ, List.getD_cons_succ, List.getD_cons_succ,
    List.getD_cons_zero, readKey_hex hrnd]

/-- A client and the server it is connected to. -/
structure Session where
  client : Sender
  server : Server

namespace Session

variable (c : Credentials) (serverKey : Vector UInt8 64) (rnd : Vector UInt8 16)

/-- The client is connected and not authenticated, the server has accepted it. -/
structure Start (p : Session) : Prop where
  socketValid : p.client.socketValid = true
  isConnected : p.client.isConnected = true
  isAutenticated : p.client.isAutenticated = false
  pc : p.client.pc = .loop
  server : p.server.isConnected = true
  clientStatus : p.server.clientStatus = .starting

/-- A successful operation that reads `received`. -/
def returns (received : List UInt8) : Outcome := ⟨true, received, rnd⟩

/-- `SOLARBOT` goes one way and the 64 bytes the other. -/
def hello (p : Session) : Session :=
  let client := p.client.resume c (returns rnd [])
  let (server, reply) := p.server.serve (client.writes.getD []) serverKey true
  let client := client.resume c (returns rnd [])
  ⟨client.resume c (returns rnd (reply.getD [])), server⟩

/-- The authentication message goes out. -/
def auth (p : Session) : Session :=
  let (server, _) := p.server.serve (p.client.writes.getD []) serverKey true
  ⟨p.client.resume c (returns rnd []), server⟩

variable {c serverKey rnd}

/-- After `hello` the server waits for the message, and the client is about to write
it, encrypted with the key both have extracted. -/
theorem hello_spec {p : Session} (h : p.Start) :
    let q := p.hello c serverKey rnd
    let key := extractKey serverKey.toList
    let message := padded (authMessage c rnd.toList)
    (∃ rest, q.client.rxBuffer = serverKey.toList ++ rest) ∧
      q.client.keys = Aes128.setKey key ∧ q.client.aesKey = rnd.toList ∧
      q.client.pc = .auth message.length ∧
      q.client.writes = some (Aes128.encrypt (Aes128.setKey key) message (message.length / 16)) ∧
      q.server = { p.server with
        clientIsAuthenticated := false
        keys := Aes128.setKey key
        clientStatus := .authenticating } := by
  intro q key message
  obtain ⟨⟨k, hk⟩, -⟩ := padded_length (authMessage c rnd.toList)
  have hblocks : message.length = message.length / 16 * 16 := by
    show (padded _).length = (padded _).length / 16 * 16
    omega
  -- the server reads `SOLARBOT` and answers
  have hserve : p.server.serve (ascii "SOLARBOT") serverKey true
      = ({ p.server with
            clientIsAuthenticated := false
            keys := Aes128.setKey key
            clientStatus := .authenticating }, some serverKey.toList) := by
    rw [Server.serve, h.clientStatus]
    rfl
  have hloop : p.client.resume c (returns rnd []) = { p.client with
      flag := true
      txBuffer := overwrite p.client.txBuffer (ascii "SOLARBOT" ++ [0])
      pc := .hello } := by
    rw [Sender.resume, h.pc]
    simp [Sender.loopHead, h.socketValid, h.isConnected, h.isAutenticated]
  have hkey : extractKey (overwrite p.client.rxBuffer serverKey.toList) = key :=
    extractKey_append (by simp) _
  have hq : q = ⟨Sender.makeAuth { p.client with
      flag := true
      txBuffer := overwrite p.client.txBuffer (ascii "SOLARBOT" ++ [0])
      rxBuffer := overwrite p.client.rxBuffer serverKey.toList
      pc := .serverKey } c rnd, { p.server with
        clientIsAuthenticated := false
        keys := Aes128.setKey key
        clientStatus := .authenticating }⟩ := by
    show p.hello c serverKey rnd = _
    unfold hello
    have hlen : (serverKey.toList).length = 64 := by simp
    have htake : (overwrite p.client.txBuffer (ascii "SOLARBOT" ++ [0])).take 8
        = ascii "SOLARBOT" := rfl
    rw [hloop]
    simp only [Sender.writes, htake, Option.getD_some, hserve, Sender.resume, returns, hlen, if_true]
  rw [hq]
  refine ⟨⟨_, rfl⟩, ?_, rfl, rfl, ?_, rfl⟩
  · show Aes128.setKey (extractKey (overwrite _ _)) = _
    rw [hkey]
  · show some (List.take message.length (Aes128.encrypt
      (Aes128.setKey (extractKey (overwrite p.client.rxBuffer serverKey.toList)))
      (overwrite _ message) (message.length / 16))) = _
    rw [hkey, overwrite, Aes128.encrypt_append _ _ hblocks, List.take_left']
    exact Aes128.encrypt_length _ (by omega)

/-- **After `auth` both hold the session key**, if the message fits the buffers with
the zero `sprintf` puts behind it, and no field of it contains a comma. -/
theorem auth_spec {q : Session} {key : List UInt8}
    (hid : 0x2C ∉ c.telemetryID) (huser : 0x2C ∉ c.serverUser) (hpw : 0x2C ∉ c.serverPassword)
    (hfits : (authMessage c rnd.toList).length + 1 ≤ serverRxBufferSize)
    (haes : q.client.aesKey = rnd.toList)
    (hpc : q.client.pc = .auth (padded (authMessage c rnd.toList)).length)
    (hwrites : q.client.writes = some (Aes128.encrypt (Aes128.setKey key)
      (padded (authMessage c rnd.toList)) ((padded (authMessage c rnd.toList)).length / 16)))
    (hkeys : q.server.keys = Aes128.setKey key)
    (hstatus : q.server.clientStatus = .authenticating) :
    q.auth c serverKey rnd =
      ⟨{ q.client with
          keys := Aes128.setKey rnd.toList, isAutenticated := true, flag := false, pc := .loop },
        { q.server with
          keys := Aes128.setKey rnd.toList
          clientStatus := .working
          clientIsAuthenticated := true }⟩ := by
  have hserver := Server.authenticating_message hid huser hpw (by simp) hfits hkeys
  unfold auth
  rw [hwrites, Server.serve, hstatus]
  simp only [Option.getD_some, hserver, Sender.resume, hpc, haes]

/-- **The two sides agree.** Every index of the two walks is inside the 64 bytes, both
extract the same sixteen bytes as handshake key, and in the end both hold the key the
client drew and the client is authenticated. -/
theorem handshake_agrees {p : Session} (h : p.Start)
    (hid : 0x2C ∉ c.telemetryID) (huser : 0x2C ∉ c.serverUser) (hpw : 0x2C ∉ c.serverPassword)
    (hfits : (authMessage c rnd.toList).length + 1 ≤ serverRxBufferSize) :
    let key := extractKey serverKey.toList
    let q := p.hello c serverKey rnd
    let r := q.auth c serverKey rnd
    (∀ i ∈ keyIndices serverKey.toList 16 11, i < 64) ∧
      (∀ i ∈ keyIndices q.client.rxBuffer 16 11, i < 64) ∧
      key.length = 16 ∧ extractKey q.client.rxBuffer = key ∧
      q.client.keys = Aes128.setKey key ∧ q.server.keys = Aes128.setKey key ∧
      r.server.clientStatus = .working ∧ r.server.clientIsAuthenticated = true ∧
      r.server.isConnected = true ∧ r.client.isAutenticated = true ∧
      r.client.keys = Aes128.setKey rnd.toList ∧ r.server.keys = Aes128.setKey rnd.toList := by
  intro key q r
  obtain ⟨⟨rest, hrx⟩, hkeys, haes, hpc, hwrites, hserver⟩ :=
    @hello_spec c serverKey rnd p h
  have hr : r = _ := @auth_spec c serverKey rnd _ _ hid huser hpw hfits haes hpc hwrites
    (by rw [hserver]) (by rw [hserver])
  refine ⟨keyIndices_lt _ (by omega), keyIndices_lt _ (by omega), extractKey_length _, ?_, hkeys,
    ?_, ?_⟩
  · show extractKey (p.hello c serverKey rnd).client.rxBuffer = key
    rw [hrx, extractKey_append (by simp)]
  · show (p.hello c serverKey rnd).server.keys = _
    rw [hserver]
  · rw [hr, hserver]
    exact ⟨rfl, rfl, h.server, rfl, rfl, rfl⟩

/-- A short set of credentials, against a server key of zeros. -/
def sampleCredentials : Credentials := ⟨ascii "0000", ascii "user", []⟩

theorem handshake_agrees_sample :
    let p : Session := ⟨{ Sender.new [] [] [] [] with
      socketValid := true, isConnected := true, isAutenticated := false, flag := true },
      ⟨true, false, .starting, []⟩⟩
    let r := (p.hello sampleCredentials (Vector.replicate 64 0) (Vector.replicate 16 7)).auth
      sampleCredentials (Vector.replicate 64 0) (Vector.replicate 16 7)
    r.server.clientStatus = .working ∧ r.server.clientIsAuthenticated = true ∧
      r.client.keys = r.server.keys := by
  obtain ⟨-, -, -, -, -, -, hstatus, hauth, -, -, hclient, hserver⟩ :=
    @handshake_agrees sampleCredentials (Vector.replicate 64 0) (Vector.replicate 16 7)
      ⟨{ Sender.new [] [] [] [] with
        socketValid := true, isConnected := true, isAutenticated := false, flag := true },
        ⟨true, false, .starting, []⟩⟩
      ⟨rfl, rfl, rfl, rfl, rfl, rfl⟩ (by decide) (by decide) (by decide) (by decide)
  exact ⟨hstatus, hauth, hclient.trans hserver.symm⟩

end Session

end Solarbot.Telemetry
