import Solarbot.Driver.Command
import Solarbot.Driver.Read
import Solarbot.Lib.Loops
import Solarbot.Lib.Runs
import Solarbot.Lib.Select

/-!
# The port of the control unit

`DirectWrite` sends a command and reads the answer with `RealRead`; `Read` asks for a status when
the last one is older than 800 milliseconds. `RealRead` sets the timeout each time, but only
`Open` fills the set. So once an answer was late, no later answer is looked at until the port is
opened again: each call waits for the whole timeout and fails, and the data stay as they were
(`timeout_lasts`).

Mirroring notes vs `ControlUnit.cpp`:
- The clock counts microseconds.
- `result` is what the last call returned. The command that is sent is in `sent`; `write` to the
  port is taken to succeed.
- A command that is too long for `port_tx_buffer` writes behind it, and ends the run.
- The locks are left out: a call is one step.
-/

namespace Solarbot.Driver

open Select

/-- The unit with its port. -/
structure Exchange where
  unit : ControlUnit
  wait : Wait
  result : Int
  sent : List (List Char)

/-- What `Open` leaves. -/
def opened : Wait := ⟨true, 1001000⟩

/-- What the port does in a call. -/
structure Answer where
  now : Nat
  ready : Ready
  line : Option (List Char)

inductive Call where
  | directWrite (left right : Int32)
  | read
  /-- `Close` and `Open`, which may fail. -/
  | reopen (opens : Bool)

/-- What ends the program. -/
inductive Killed where
  /-- A line without the commas of its kind. -/
  | line
  /-- A command that is too long for `port_tx_buffer`. -/
  | command

namespace Exchange

variable (x : Exchange)

/-- `RealRead`. -/
def realRead (answer : Answer) : Except Killed Exchange :=
  let (wait, rv) := select { x.wait with timeout := 1001000 } answer.ready
  match x.unit.realRead answer.now rv answer.line with
  | none => .error .line
  | some outcome => .ok { x with unit := outcome.unit, wait := wait, result := outcome.result }

/-- Storing `data.Status`. -/
def setStatus (status : Int) : Exchange :=
  { x with unit := { x.unit with data := { x.unit.data with status := status } } }

/-- The status is older than 800 milliseconds. -/
def Old (now : Nat) : Prop := 800 < (now - x.unit.data.lastUpdate) / 1000

instance (now : Nat) : Decidable (x.Old now) := inferInstanceAs (Decidable (_ < _))

/-- One call. -/
def step (x : Exchange) : Call × Answer → Except Killed Exchange
  | (.directWrite left right, answer) =>
    if portTxBufferSize < (Driver.directWrite left right).length + 1 then .error .command
    else do
      let x ← { x with sent := Driver.directWrite left right :: x.sent }.realRead answer
      return x.setStatus x.result
  | (.read, answer) =>
    if x.Old answer.now then { x with sent := "$GET*56\n".toList :: x.sent }.realRead answer
    else .ok { x with result := 0 }
  | (.reopen opens, _) => .ok { x with wait := if opens then opened else x.wait, result := 0 }

/-! ## After a timeout -/

/-- The call reads the port. -/
def Reads : Call × Answer → Prop
  | (.directWrite _ _, _) => True
  | (.read, answer) => x.Old answer.now
  | (.reopen _, _) => False

/-- All the data but the status are those of another unit. -/
structure SameData (x x' : Exchange) : Prop where
  lastUpdate : x'.unit.data.lastUpdate = x.unit.data.lastUpdate
  data : { x'.unit.data with status := x.unit.data.status } = x.unit.data

variable {x}

theorem SameData.trans {y z : Exchange} (h : SameData x y) (h' : SameData y z) : SameData x z := by
  refine ⟨h'.lastUpdate.trans h.lastUpdate, ?_⟩
  rw [← h.data, ← h'.data]

/-- `RealRead` with an empty set fails, and keeps the set empty. -/
theorem realRead_unwatched (h : x.wait.watched = false) (answer : Answer) :
    ∃ x', x.realRead answer = .ok x' ∧ x'.wait.watched = false ∧ x'.result ≠ 0 ∧
      SameData x x' := by
  obtain ⟨hempty, hrv⟩ := select_unwatched (w := { x.wait with timeout := 1001000 }) h answer.ready
  unfold realRead
  dsimp only
  rcases hrv with hrv | hrv
  · rw [hrv]
    exact ⟨_, rfl, hempty, show Err.readError ≠ 0 by decide, rfl, rfl⟩
  · rw [hrv]
    exact ⟨_, rfl, hempty, show Err.readTimeout ≠ 0 by decide, rfl, rfl⟩

/-- Only `select` tells of a timeout. -/
theorem readTimeout_result {u : ControlUnit} {now : Nat} {rv : Int} {line : Option (List Char)}
    {outcome : Outcome} (h : u.realRead now rv line = some outcome)
    (hr : outcome.result = Err.readTimeout) : rv = 0 := by
  by_contra hrv
  have hother : ∀ {v : ControlUnit} {result : Int} {stores : List Int}, result ≠ Err.readTimeout →
      some (⟨v, result, stores⟩ : Outcome) = some outcome → False := by
    intro v result stores hne heq
    rw [← Option.some.inj heq] at hr
    exact hne hr
  have hchecksum : ∀ message, verifyChecksum message ≠ Err.readTimeout := by
    intro message
    unfold verifyChecksum
    dsimp only
    split <;> decide
  unfold ControlUnit.realRead at h
  dsimp only at h
  split at h
  next => exact hother (by decide) h
  next =>
    split at h
    next => exact hother (by decide) h
    next =>
      split at h
      next =>
        split at h
        next => exact hother (by decide) h
        next =>
          split at h
          next =>
            obtain ⟨v, -, hv⟩ := Option.map_eq_some_iff.mp h
            rw [← hv] at hr
            exact absurd hr (show (0 : Int) ≠ Err.readTimeout by decide)
          next => exact hother (hchecksum _) h
      next => exact hother (by decide) h

/-- A `RealRead` that is told of a timeout empties the set. -/
theorem realRead_timeout {x' : Exchange} {answer : Answer} (h : x.realRead answer = .ok x')
    (hr : x'.result = Err.readTimeout) : x'.wait.watched = false := by
  unfold realRead at h
  dsimp only at h
  split at h
  next => cases h
  next outcome houtcome =>
    obtain rfl := Except.ok.inj h
    exact select_timeout (readTimeout_result houtcome hr)

/-! ## One call -/

/-- The call opens the port. -/
def Opens (e : Call × Answer) : Prop := e.1 = .reopen true

/-- The command of the call has room in the buffer: not both of its numbers have eleven
characters. -/
def Fits : Call × Answer → Prop
  | (.directWrite left right, _) => ¬ (left.toInt ≤ -10 ^ 9 ∧ right.toInt ≤ -10 ^ 9)
  | _ => True

/-- What a call does while the set is empty: it fails when it reads the port, and it keeps the
data. -/
structure Deaf (x : Exchange) (e : Call × Answer) (x' : Exchange) : Prop where
  fails : x.Reads e → x'.result ≠ 0
  data : SameData x x'

theorem step_unwatched (h : x.wait.watched = false) {e : Call × Answer} (he : ¬ Opens e)
    (hfits : Fits e) : ∃ x', x.step e = .ok x' ∧ x'.wait.watched = false ∧ Deaf x e x' := by
  obtain ⟨call, answer⟩ := e
  cases call with
  | directWrite left right =>
    obtain ⟨x', hx', hempty, hr, hdata⟩ := realRead_unwatched
      (x := { x with sent := Driver.directWrite left right :: x.sent }) h answer
    refine ⟨x'.setStatus x'.result, ?_, hempty, fun _ => hr, hdata.lastUpdate, hdata.data⟩
    have hroom := (directWrite_fits_iff left right).mpr hfits
    rw [step, if_neg (by omega), hx']
    rfl
  | read =>
    by_cases hold : x.Old answer.now
    · obtain ⟨x', hx', hempty, hr, hdata⟩ := realRead_unwatched
        (x := { x with sent := "$GET*56\n".toList :: x.sent }) h answer
      exact ⟨x', by rw [step, if_pos hold, hx'], hempty, fun _ => hr, hdata.lastUpdate, hdata.data⟩
    · exact ⟨{ x with result := 0 }, by rw [step, if_neg hold], h, fun hc => absurd hc hold, rfl,
        rfl⟩
  | reopen opens =>
    cases opens with
    | true => exact absurd rfl he
    | false => exact ⟨_, rfl, h, fun hc => absurd hc id, rfl, rfl⟩

/-- A call that returns a timeout has emptied the set. -/
theorem step_timeout {x' : Exchange} {e : Call × Answer} (h : x.step e = .ok x')
    (hr : x'.result = Err.readTimeout) : x'.wait.watched = false := by
  obtain ⟨call, answer⟩ := e
  cases call with
  | directWrite left right =>
    simp only [step] at h
    split at h
    next => cases h
    obtain ⟨y, hy, hx'⟩ := Loops.bind_ok h
    obtain rfl := Except.ok.inj hx'
    have hempty : y.wait.watched = false := realRead_timeout hy hr
    exact hempty
  | read =>
    simp only [step] at h
    split at h
    next => exact realRead_timeout h hr
    next =>
      obtain rfl := Except.ok.inj h
      exact absurd hr (show (0 : Int) ≠ Err.readTimeout by decide)
  | reopen opens =>
    obtain rfl := Except.ok.inj h
    exact absurd hr (show (0 : Int) ≠ Err.readTimeout by decide)

end Exchange

/-! ## Runs -/

/-- **A timeout lasts until the port is opened again.** After a call that returned a timeout, no
list of calls that does not open the port ends the program, as long as their commands have room
in the buffer; each of them that reads the port fails, whatever the driver sends, and the data are
those of before, but for the status. -/
theorem timeout_lasts {x₀ x : Exchange} {e₀ : Call × Answer} (h₀ : x₀.step e₀ = .ok x)
    (htimeout : x.result = Err.readTimeout) {es : List (Call × Answer)}
    (hes : ∀ e ∈ es, ¬ Exchange.Opens e ∧ Exchange.Fits e) :
    ∃ x', Runs.run Exchange.step x es = .ok x' ∧ Exchange.SameData x x' ∧
      Runs.Steps (Runs.Graph Exchange.step) Exchange.Deaf x es := by
  -- the invariant: the set is empty, and the data are those after the timeout
  have hsafe : ∀ y e, (y.wait.watched = false ∧ Exchange.SameData x y) → (True ∧ ¬ Exchange.Opens e ∧ Exchange.Fits e) →
      ∃ y', y.step e = .ok y' ∧ (y'.wait.watched = false ∧ Exchange.SameData x y') ∧
        Exchange.Deaf y e y' := by
    intro y e hy he
    obtain ⟨y', hy', hempty, hdeaf⟩ := Exchange.step_unwatched hy.1 he.2.1 he.2.2
    exact ⟨y', hy', ⟨hempty, hy.2.trans hdeaf.data⟩, hdeaf⟩
  have hstep : ∀ y e y', (y.wait.watched = false ∧ Exchange.SameData x y) →
      (True ∧ ¬ Exchange.Opens e ∧ Exchange.Fits e) → Runs.Graph Exchange.step y e y' →
      (y'.wait.watched = false ∧ Exchange.SameData x y') ∧ Exchange.Deaf y e y' := by
    intro y e y' hy he hgraph
    obtain ⟨z, hz, hboth⟩ := hsafe y e hy he
    obtain rfl := Except.ok.inj (hz.symm.trans hgraph)
    exact hboth
  have hx : x.wait.watched = false ∧ Exchange.SameData x x :=
    ⟨Exchange.step_timeout h₀ htimeout, rfl, rfl⟩
  have halong := (Runs.Along.of_forall (R := Runs.Graph Exchange.step) (G := fun _ _ => True)
    (fun _ _ => trivial) es x).and_mem hes
  obtain ⟨x', hrun, hx'⟩ := Runs.run_safe (fun y e hy he =>
    (hsafe y e hy he).imp fun y' h => ⟨h.1, h.2.1⟩) halong hx
  exact ⟨x', hrun, hx'.2, Runs.Steps.guarded (fun y e y' hy he h => (hstep y e y' hy he h).1)
    (fun y e y' hy he h => (hstep y e y' hy he h).2) halong hx⟩

/-- A unit that has just been opened. -/
def sampleExchange : Exchange :=
  ⟨⟨List.replicate 33 '\x00', default⟩, opened, 0, []⟩

/-- An answer after two seconds. -/
def lateCall : Call × Answer :=
  (.directWrite 300 300, ⟨0, .after 2000000, some "$C01,1,0,0,0,0,0*43\n".toList⟩)

/-- Two calls whose answers come at once. -/
def laterCalls : List (Call × Answer) := [
  (.directWrite 0 0, ⟨3000000, .after 1000, some "$C01,2,0,0,0,0,0*40\n".toList⟩),
  (.read, ⟨4000000, .after 1000, some "$C01,3,0,0,0,0,0*41\n".toList⟩)]

theorem timeout_lasts_sample : ∃ x x', sampleExchange.step lateCall = .ok x ∧
    x.result = Err.readTimeout ∧ Runs.run Exchange.step x laterCalls = .ok x' ∧
    Exchange.SameData x x' ∧ Runs.Steps (Runs.Graph Exchange.step) Exchange.Deaf x laterCalls := by
  have hes : ∀ e ∈ laterCalls, ¬ Exchange.Opens e ∧ Exchange.Fits e := by
    intro e he
    rcases List.mem_cons.mp he with rfl | he
    · exact ⟨fun h => (by cases h),
        show ¬ ((0 : Int32).toInt ≤ -10 ^ 9 ∧ (0 : Int32).toInt ≤ -10 ^ 9) by decide⟩
    · rcases List.mem_cons.mp he with rfl | he
      · exact ⟨fun h => (by cases h), trivial⟩
      · cases he
  have hlate : sampleExchange.step lateCall =
      .ok { (sampleExchange.setStatus Err.readTimeout) with
        wait := ⟨false, 0⟩, result := Err.readTimeout, sent := [directWrite 300 300] } := rfl
  obtain ⟨x', hrun, hdata, hdeaf⟩ := timeout_lasts hlate rfl hes
  exact ⟨_, x', hlate, rfl, hrun, hdata, hdeaf⟩

end Solarbot.Driver
