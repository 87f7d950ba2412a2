import Solarbot.Lib.Runs
import Solarbot.Head.Receiver

/-!
# `port_read` and `ReadSensors`

The thread of the head's port reads what has arrived, if `rxflag` is down, and then
processes the bytes of that read one after the other. `ReadSensors`, in another
thread, takes `rxflag` down when it asks for a frame and copies `RxRawFrame` when it
sees the flag up. `Port.step` is one step of either of the two, so that a run is any
interleaving of them and any cut of the stream into reads. An event that cannot
happen changes nothing.

What the receiver holds is a matter of the bytes processed so far alone
(`Sound`): the cuts and the flag only decide when they are processed.
-/

namespace Solarbot.Head

open ByteStuffing

/-- What the two threads share, and the bytes processed so far. -/
structure Port where
  rx : Receiver
  rxflag : Bool
  /-- `port_rx_buffer[i .. r)`. -/
  rest : List UInt8
  /-- The bytes of the structure `data`. -/
  data : List UInt8
  /-- The bytes processed so far. -/
  seen : List UInt8
  deriving DecidableEq

/-- The length of the members of `struct Data`. -/
def dataSize : Nat := 14

namespace Port

/-- A newly constructed `Head`, on what the memory held. -/
def new (rxRawFrame : Vector UInt8 rxRawFrameSize) (crc : UInt8) (data : List UInt8) : Port :=
  { rx := .new rxRawFrame crc, rxflag := false, rest := [], data, seen := [] }

inductive Event
  /-- `read` returns these bytes. -/
  | read (bytes : List UInt8)
  /-- The body of the loop over the bytes of the read. -/
  | byte
  /-- `ReadSensors` takes the flag down and asks for a frame. -/
  | request
  /-- `ReadSensors` has seen the flag up, and copies. -/
  | copy
  deriving DecidableEq

/-- A store at this index of `RxRawFrame`. -/
structure Fault where
  index : Nat
  deriving DecidableEq, Repr

/-- The next byte of the read. -/
def byteStep (p : Port) (a : UInt8) (rest : List UInt8) : Except Fault Port :=
  let (rx, signal) := p.rx.receive a
  let p := { p with rx, rest, seen := p.seen ++ [a] }
  match signal with
  | .idle => return p
  | .frame => return { p with rxflag := true }
  | .overrun => throw ⟨p.rx.rxRawFrameIndex⟩

def step (p : Port) : Event → Except Fault Port
  | .read bytes =>
    if p.rxflag = false ∧ p.rest = [] ∧ bytes.length ≤ portRxBufferSize then
      return { p with rest := bytes }
    else return p
  | .byte =>
    match p.rest with
    | [] => return p
    | a :: rest => p.byteStep a rest
  | .request => return { p with rxflag := false }
  | .copy =>
    if p.rxflag then return { p with data := p.rx.rxRawFrame.toList.take dataSize } else return p

variable {p p' : Port} {a : UInt8} {rest : List UInt8}

/-! ## What a step can do -/

/-- A byte that stays inside the buffer is processed; the flag goes up when it
completes a frame. -/
theorem byteStep_ok (h : p.rx.Inside) (a : UInt8) (rest : List UInt8) :
    p.byteStep a rest = .ok { p with
      rx := (p.rx.receive a).1
      rest := rest
      seen := p.seen ++ [a]
      rxflag := p.rxflag || (p.rx.receive a).2 = .frame } := by
  obtain ⟨-, hsignal⟩ := Receiver.receive_inside h a
  unfold byteStep
  cases hr : p.rx.receive a with
  | mk rx signal =>
    rw [hr] at hsignal
    cases signal with
    | idle => simp [pure, Except.pure]
    | frame => simp [pure, Except.pure]
    | overrun => exact absurd rfl hsignal

/-- What the receiver holds is what the bytes so far make of it. -/
structure Sound (r₀ : Receiver) (p : Port) : Prop where
  rx : p.rx = (feed Receiver.receive r₀ p.seen).1
  inside : p.rx.Inside

theorem step_sound {r₀ : Receiver} (h : p.Sound r₀) (e : Event) :
    ∃ p', p.step e = .ok p' ∧ p'.Sound r₀ := by
  cases e with
  | read bytes =>
    rw [step]
    split
    · exact ⟨_, rfl, h.rx, h.inside⟩
    · exact ⟨_, rfl, h⟩
  | byte =>
    rw [step]
    cases hrest : p.rest with
    | nil => exact ⟨_, rfl, h⟩
    | cons a rest =>
      refine ⟨_, byteStep_ok h.inside a rest, ?_, (Receiver.receive_inside h.inside a).1⟩
      show (p.rx.receive a).1 = (feed Receiver.receive r₀ (p.seen ++ [a])).1
      rw [feed_append, feed_singleton, ← h.rx]
  | request => exact ⟨_, rfl, h.rx, h.inside⟩
  | copy =>
    rw [step]
    split
    · exact ⟨_, rfl, h.rx, h.inside⟩
    · exact ⟨_, rfl, h⟩

theorem graph_sound {r₀ : Receiver} {e : Event} (h : p.Sound r₀)
    (hstep : Runs.Graph step p e p') : p'.Sound r₀ := by
  obtain ⟨q, hq, hsound⟩ := step_sound h e
  rw [Runs.Graph, hq, Except.ok.injEq] at hstep
  exact hstep ▸ hsound

/-- **No run leaves the buffer**, and the receiver holds what the bytes so far make
of it. -/
theorem run_sound (rxRawFrame : Vector UInt8 rxRawFrameSize) (crc : UInt8) (data : List UInt8)
    (es : List Event) :
    ∃ p, Runs.run step (new rxRawFrame crc data) es = .ok p ∧
      p.Sound (.new rxRawFrame crc) :=
  Runs.run_total (fun _ e h => step_sound h e) es ⟨rfl, show 0 < 100 by decide⟩

end Port

end Solarbot.Head
