import Solarbot.MasterApp.Sessions

/-!
# One consumer of the command socket

A `ThreadClient` goes round for ever, so the threads that read are the threads that were
made (`reads_iff`). A second one is made as soon as a second client is authenticated.
-/

namespace Solarbot.MasterApp

open Link Telemetry

namespace Sessions

variable {s s' : Sessions} {i : Nat}

/-! ## A thread left alone -/

/-- A thread that has ended, or is not there, stays so. -/
theorem client_stuck (h : ∀ t, s.clients[i]? = some t → t = .ended) :
    ∀ n t, ((List.replicate n (.client i)).foldl step s).clients[i]? = some t → t = .ended := by
  intro n
  induction n generalizing s with
  | zero => exact h
  | succ n ih =>
    rw [List.replicate_succ, List.foldl_cons]
    refine ih ?_
    intro t ht
    have hmodify : (s.step (.client i)).clients[i]? = s.clients[i]?.map s.resumeClient := by
      simp [step]
    rw [hmodify] at ht
    obtain ⟨t', ht', rfl⟩ := Option.map_eq_some_iff.mp ht
    rw [h t' ht']
    rfl

/-- The next piece of a thread. -/
theorem client_step {t : ClientPc} (hi : s.clients[i]? = some t) :
    (s.step (.client i)).clients[i]? = some (s.resumeClient t) := by
  simp [step, hi]

/-- **Who reads**: while `ctrl` is not null, every thread that has not ended, whatever
happened to the socket it was made for. -/
theorem reads_iff (hctrl : s.ctrl.isSome = true) :
    s.Reads i ↔ ∃ t, s.clients[i]? = some t ∧ t ≠ .ended := by
  constructor
  · intro hsome
    obtain ⟨n, hn⟩ := hsome
    by_contra hnot
    have hended : ∀ t, s.clients[i]? = some t → t = .ended := by
      intro t ht
      by_contra hne
      exact hnot ⟨t, ht, hne⟩
    exact absurd (client_stuck hended n _ hn) (by simp)
  · intro hsome
    obtain ⟨t, ht, hne⟩ := hsome
    have hloop : s.resumeClient .loop = .reading s.aunthenticatedClientSocketFd := by
      rw [resumeClient, hctrl]
      rfl
    -- from the head of the loop it is one piece to the read
    have hhead : ∀ s₁ : Sessions, s₁.ctrl = s.ctrl →
        s₁.aunthenticatedClientSocketFd = s.aunthenticatedClientSocketFd →
        s₁.clients[i]? = some .loop →
        (s₁.step (.client i)).clients[i]? = some (.reading s.aunthenticatedClientSocketFd) := by
      intro s₁ hc hfd hi
      rw [client_step hi, resumeClient, hc, hctrl, hfd]
      rfl
    cases t with
    | loop => exact ⟨1, hhead s rfl rfl ht⟩
    | reading fd =>
      have h₁ := client_step ht
      have h₂ := client_step h₁
      exact ⟨3, hhead _ rfl rfl h₂⟩
    | sleeping => exact ⟨2, hhead _ rfl rfl (client_step ht)⟩
    | ended => exact absurd rfl hne

/-! ## No thread ends -/

/-- `ctrl` is not null, and no thread has ended. -/
structure Inv (s : Sessions) : Prop where
  ctrl : s.ctrl.isSome = true
  running : ∀ t ∈ s.clients, t ≠ .ended

theorem new_inv (accounts : Accounts) (ctrl : Int) (serverKeys clientKeys : List UInt8) (fd : Int) :
    (new accounts ctrl serverKeys clientKeys fd).Inv :=
  ⟨rfl, fun _ ht => absurd ht (by simp [new])⟩

/-- Every piece of the server but `pthread_create` leaves `ctrl` and the threads alone. -/
theorem resume_keeps (h : s.server ≠ .createClient) (o : ServerOutcome) :
    (s.resume o).ctrl = s.ctrl ∧ (s.resume o).clients = s.clients := by
  cases hpc : s.server with
  | createClient => exact absurd hpc h
  | accept =>
    rw [resume, hpc]
    dsimp only
    split
    · split
      · exact ⟨rfl, rfl⟩
      · exact ⟨rfl, rfl⟩
    · exact ⟨rfl, rfl⟩
  | hello fd =>
    rw [resume, hpc]
    dsimp only
    split
    · exact ⟨rfl, rfl⟩
    · exact ⟨rfl, rfl⟩
  | auth fd =>
    rw [resume, hpc]
    dsimp only
    split
    · exact ⟨rfl, rfl⟩
    · exact ⟨rfl, rfl⟩
  | _ =>
    rw [resume, hpc]
    exact ⟨rfl, rfl⟩

/-- What a piece of the server does to `ctrl` and to the threads. -/
theorem resume_cases (s : Sessions) (o : ServerOutcome) :
    (s.resume o).ctrl = s.ctrl ∧
      (s.server = .createClient ∧ o.ok = true ∧ (s.resume o).clients = s.clients ++ [.loop] ∨
        ¬ (s.server = .createClient ∧ o.ok = true) ∧ (s.resume o).clients = s.clients) := by
  by_cases hpc : s.server = .createClient
  · have hresume : s.resume o =
        { s with clients := if o.ok then s.clients ++ [.loop] else s.clients, server := .accept } := by
      rw [resume, hpc]
    rw [hresume]
    refine ⟨rfl, ?_⟩
    by_cases hok : o.ok = true
    · exact Or.inl ⟨hpc, hok, if_pos hok⟩
    · exact Or.inr ⟨fun hboth => hok hboth.2, if_neg hok⟩
  · obtain ⟨hctrl, hclients⟩ := resume_keeps hpc o
    exact ⟨hctrl, Or.inr ⟨fun hboth => hpc hboth.1, hclients⟩⟩

/-- A piece of a thread that runs leaves it running. -/
theorem resumeClient_running (hctrl : s.ctrl.isSome = true) {t : ClientPc} (ht : t ≠ .ended) :
    s.resumeClient t ≠ .ended := by
  cases t with
  | loop =>
    rw [resumeClient, hctrl]
    simp
  | reading fd => simp [resumeClient]
  | sleeping => simp [resumeClient]
  | ended => exact absurd rfl ht

theorem step_inv {e : Event} (h : s.Inv) (hstep : Step s e s') : s'.Inv := by
  rw [Step] at hstep
  subst hstep
  cases e with
  | server o =>
    obtain ⟨hctrl, ⟨-, -, hclients⟩ | ⟨-, hclients⟩⟩ := resume_cases s o
    · refine ⟨by rw [step, hctrl, h.ctrl], ?_⟩
      rw [step, hclients]
      intro t ht
      rcases List.mem_append.mp ht with ht | ht
      · exact h.running t ht
      · rw [List.mem_singleton.mp ht]
        simp
    · exact ⟨by rw [step, hctrl, h.ctrl], by rw [step, hclients]; exact h.running⟩
  | client i =>
    refine ⟨h.ctrl, ?_⟩
    intro t ht
    obtain ⟨j, hj⟩ := List.mem_iff_getElem?.mp ht
    simp only [step, List.getElem?_modify] at hj
    obtain ⟨t', ht', rfl⟩ := Option.map_eq_some_iff.mp hj
    have hrunning := h.running t' (List.mem_of_getElem? ht')
    split
    · exact resumeClient_running h.ctrl hrunning
    · exact hrunning
  | setCtrl v =>
    refine ⟨?_, h.running⟩
    rw [step, Option.isSome_map, h.ctrl]

/-! ## The law and its condition -/

/-- The law: two threads that read are one. -/
def OneConsumer (s : Sessions) : Prop := ∀ i j, s.Reads i → s.Reads j → i = j

/-- The condition: `pthread_create` makes no second thread. -/
def NoSecond (s : Sessions) (e : Event) : Prop :=
  ∀ o, e = .server o → s.server = .createClient → o.ok = true → s.clients = []

/-- While no thread ends there is one consumer as long as there is one thread. -/
theorem oneConsumer_iff (h : s.Inv) : s.OneConsumer ↔ s.clients.length ≤ 1 := by
  have hreads : ∀ i, s.Reads i ↔ i < s.clients.length := by
    intro i
    rw [reads_iff h.ctrl]
    constructor
    · intro hsome
      obtain ⟨t, ht, -⟩ := hsome
      exact (List.getElem?_eq_some_iff.mp ht).1
    · intro hi
      exact ⟨_, List.getElem?_eq_getElem hi, h.running _ (List.getElem_mem hi)⟩
  unfold OneConsumer
  simp only [hreads]
  constructor
  · intro hone
    by_contra hlong
    exact absurd (hone 0 1 (by omega) (by omega)) (by omega)
  · intro hlen i j hi hj
    omega

/-- **One step** from a state with at most one thread meets the law exactly under the
condition. -/
theorem oneConsumer_step {e : Event} (h : s.Inv) (hone : s.clients.length ≤ 1)
    (hstep : Step s e s') : s'.OneConsumer ↔ s.NoSecond e := by
  rw [oneConsumer_iff (step_inv h hstep)]
  rw [Step] at hstep
  subst hstep
  cases e with
  | server o =>
    obtain ⟨-, ⟨hpc, hok, hclients⟩ | ⟨hnot, hclients⟩⟩ := resume_cases s o
    · rw [step, hclients, List.length_append, List.length_singleton]
      constructor
      · intro hlen o' ho' _ _
        exact List.length_eq_zero_iff.mp (by omega)
      · intro hcond
        rw [hcond o rfl hpc hok]
        simp
    · rw [step, hclients]
      refine iff_of_true hone ?_
      intro o' ho' hpc hok
      obtain rfl := Event.server.inj ho'
      exact absurd ⟨hpc, hok⟩ hnot
  | client i =>
    refine iff_of_true ?_ fun o ho => absurd ho (by simp)
    rw [step, List.length_modify]
    exact hone
  | setCtrl v => exact iff_of_true hone fun o ho => absurd ho (by simp)

end Sessions

open Sessions

/-- **When there is one consumer.** In every run, whatever the clients send and
whichever calls fail, and however the pieces of the threads fall, at most one thread reads
the socket of the authenticated client exactly when no thread is made after the first
one. -/
theorem one_consumer (accounts : Accounts) (ctrl : Int) (serverKeys clientKeys : List UInt8)
    (fd : Int) (es : List Event) :
    Runs.Steps Step (fun _ _ s' => s'.OneConsumer)
        (new accounts ctrl serverKeys clientKeys fd) es ↔
      Runs.Steps Step (fun s e _ => s.NoSecond e)
        (new accounts ctrl serverKeys clientKeys fd) es := by
  refine Runs.Steps.iff_of_invariant (I := fun s => s.Inv ∧ s.clients.length ≤ 1) ?_ ?_
    ⟨new_inv _ _ _ _ _, Nat.zero_le 1⟩
  · exact fun s e s' h hstep => oneConsumer_step h.1 h.2 hstep
  · intro s e s' h hstep hone
    have hinv := step_inv h.1 hstep
    exact ⟨hinv, (oneConsumer_iff hinv).mp hone⟩

/-! ## A client comes in -/

namespace Sessions

/-- A server that waits for the authentication message finds the session key in it. -/
theorem sessionField_message {s : Sessions} {c : Credentials} {rnd : List UInt8}
    (haccounts : s.accounts = ⟨ascii "SolarBot", cString c.telemetryID, cString c.serverUser,
      cString c.serverPassword⟩)
    (hid : 0x2C ∉ c.telemetryID) (huser : 0x2C ∉ c.serverUser) (hpw : 0x2C ∉ c.serverPassword)
    (hrnd : rnd.length = 16) (hfits : (authMessage c rnd).length + 1 ≤ serverRxBufferSize) :
    let message := padded (authMessage c rnd)
    let received := Aes128.encrypt s.serverKeys message (message.length / 16)
    s.sessionField received = some (rnd.flatMap hexByte) := by
  intro message received
  obtain ⟨-, hbuffer, rest, hfields⟩ := received_fields s.serverKeys hid huser hpw hfits
  have hfield : (rnd.flatMap hexByte).length = 32 := by rw [hex_length, hrnd]
  have haccount : authenticateClient s.accounts (ascii "SolarBot") (cString c.telemetryID)
      (cString c.serverUser) (cString c.serverPassword) = true := by
    rw [haccounts]
    simp [authenticateClient]
  unfold sessionField
  dsimp only
  rw [hbuffer, hfields, if_pos ⟨by simp, hfield⟩]
  exact if_pos haccount

/-- A client that keeps to the protocol, from `accept` to `pthread_create`. -/
def admission (c : Credentials) (rnd : Vector UInt8 16) (serverKey : Vector UInt8 64) (fd : Nat) :
    List Event :=
  let key := extractKey serverKey.toList
  let message := padded (authMessage c rnd.toList)
  [.server { fd }, .server { received := ascii "SOLARBOT", serverKey }, .server {},
    .server { received := Aes128.encrypt (Aes128.setKey key) message (message.length / 16) },
    .server {}, .server {}, .server {}, .server {}, .server {}]

/-- Such a client gets a thread, besides those there are. -/
theorem admission_spec {s : Sessions} {c : Credentials} {rnd : Vector UInt8 16}
    {serverKey : Vector UInt8 64} {fd : Nat}
    (haccounts : s.accounts = ⟨ascii "SolarBot", cString c.telemetryID, cString c.serverUser,
      cString c.serverPassword⟩)
    (hid : 0x2C ∉ c.telemetryID) (huser : 0x2C ∉ c.serverUser) (hpw : 0x2C ∉ c.serverPassword)
    (hfits : (authMessage c rnd.toList).length + 1 ≤ serverRxBufferSize)
    (hctrl : s.ctrl.isSome = true) (hpc : s.server = .accept) :
    (admission c rnd serverKey fd).foldl step s =
      { s with
        serverKeys := Aes128.setKey (extractKey serverKey.toList)
        clientKeys := Aes128.setKey rnd.toList
        clientRunning := false
        aunthenticatedClientSocketFd := fd
        clients := s.clients ++ [.loop] } := by
  have hread : (ascii "SOLARBOT").length = 8 := rfl
  have hfd : (fd : Int) > -1 := by omega
  -- the key of the handshake is set when the server waits for the message
  let waiting : Sessions := { s with
    serverKeys := Aes128.setKey (extractKey serverKey.toList), server := .auth fd }
  have hfield : waiting.sessionField _ = _ :=
    @sessionField_message waiting c rnd.toList haccounts hid huser hpw (by simp) hfits
  have hkey : readKey (rnd.toList.flatMap hexByte) = rnd.toList := readKey_hex (by simp)
  simp only [admission, List.foldl_cons, step, resume, hpc]
  simp [hctrl, hfd, hread, hfield, hkey, waiting]

end Sessions

/-- The accounts of a robot without a configuration file. -/
def defaultAccounts : Accounts :=
  ⟨ascii "SolarBot", ascii "0000", ascii "user", ascii "password"⟩

/-- Two clients come in, one after the other: each has a thread that reads. -/
theorem second_client_served :
    let c : Credentials := ⟨ascii "0000", ascii "user", ascii "password"⟩
    let rnd : Vector UInt8 16 := Vector.replicate 16 7
    let serverKey : Vector UInt8 64 := Vector.replicate 64 0
    ¬ Runs.Steps Step (fun _ _ s' => s'.OneConsumer) (new defaultAccounts 1 [] [] 0)
      (.server {} :: (admission c rnd serverKey 4 ++ (admission c rnd serverKey 5 ++
        [.client 0]))) := by
  intro c rnd serverKey h
  have hsteps : ∀ s e, Step s e (s.step e) := fun _ _ => rfl
  have hlisten : (new defaultAccounts 1 [] [] 0).step (.server {}) =
      { new defaultAccounts 1 [] [] 0 with server := .accept } := rfl
  have hlistening := (h _ rfl).2
  rw [hlisten] at hlistening
  have hfirst := hlistening.behind (Runs.path_foldl hsteps _ _)
  rw [admission_spec rfl (by decide) (by decide) (by decide) (by decide) rfl rfl] at hfirst
  have hsecond := hfirst.behind (Runs.path_foldl hsteps _ _)
  rw [admission_spec rfl (by decide) (by decide) (by decide) (by decide) rfl rfl] at hsecond
  have hone := (hsecond _ rfl).1
  have hzero := hone 0 1 ((reads_iff rfl).mpr ⟨_, rfl, by decide⟩)
    ((reads_iff rfl).mpr ⟨_, rfl, by decide⟩)
  exact absurd hzero (by decide)

end Solarbot.MasterApp
