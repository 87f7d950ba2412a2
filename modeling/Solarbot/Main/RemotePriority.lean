import Solarbot.Lib.Runs
import Solarbot.Nav.Driver

/-!
# Two writers on one driver

The main loop writes with `ControlUnit::Write`, the controller thread with
`RemoteControllerWrite`. Only the transmission itself is under the mutex: the first
tests `RemoteControllerActivate` before it, the second sets it before it. Here each
of these is a step of its own, and the two threads take theirs in any order.
`write_alone` and `remoteControllerWrite_alone` say that a call whose steps nothing
comes between is the call of the sequential model.

A main-loop command that was tested before the controller took over can be
transmitted after the controller's first one. `controller_has_priority` says that the
priority is kept where the controller never transmits between the two.
-/

namespace Solarbot.Main

open Nav

inductive Writer where
  | mainLoop | controller
  deriving DecidableEq, Repr

/-- The control unit and where the two threads are in their calls. -/
structure Shared where
  unit : ControlUnit := {}
  /-- Who transmitted the commands of `unit.written`. -/
  senders : List Writer := []
  /-- A command of `Write` that passed the test and is not transmitted yet. -/
  writing : Option (Int × Int) := none
  /-- A command of `RemoteControllerWrite` that is not transmitted yet. -/
  remoteWriting : Option (Int × Int) := none
  /-- The controller has transmitted a command since it was last released. -/
  held : Bool := false

inductive WriteEvent where
  /-- `Write` tests `RemoteControllerActivate`. -/
  | test (left right : Int)
  /-- `DirectWrite` transmits the command of `Write`. -/
  | transmit
  /-- `RemoteControllerWrite` sets `RemoteControllerActivate`. -/
  | remoteSet (left right : Int)
  /-- `DirectWrite` transmits the command of `RemoteControllerWrite`. -/
  | remoteTransmit
  /-- The controller thread clears `RemoteControllerActivate`. -/
  | release
  deriving DecidableEq, Repr

namespace Shared

/-- One step of one thread; `none` when the thread is not there. -/
def step (w : Shared) : WriteEvent → Option Shared
  | .test left right =>
    if w.writing = none then
      some (if w.unit.remoteControllerActivate = false then { w with writing := some (left, right) }
        else w)
    else none
  | .transmit => w.writing.map fun (left, right) =>
      { w with
        unit := w.unit.directWrite left right
        senders := .mainLoop :: w.senders
        writing := none }
  | .remoteSet left right =>
    if w.remoteWriting = none then
      some { w with
        unit := { w.unit with remoteControllerActivate := true }
        remoteWriting := some (left, right) }
    else none
  | .remoteTransmit => w.remoteWriting.map fun (left, right) =>
      { w with
        unit := w.unit.directWrite left right
        senders := .controller :: w.senders
        remoteWriting := none
        held := true }
  | .release =>
    if w.remoteWriting = none then some { w with unit := w.unit.release, held := false } else none

/-- The step, as a relation. -/
def Step (w : Shared) (e : WriteEvent) (w' : Shared) : Prop := w.step e = some w'

variable {w w' : Shared}

/-! ## Calls that nothing comes between -/

theorem write_alone (hw : w.writing = none) (left right : Int) :
    ∃ es w', Runs.Path Step w es w' ∧ w'.unit = w.unit.write left right := by
  by_cases hfree : w.unit.remoteControllerActivate = false
  · refine ⟨[.test left right, .transmit], _,
      ⟨{ w with writing := some (left, right) }, ?_, _, rfl, rfl⟩, ?_⟩
    · rw [Step, step, if_pos hw, if_pos hfree]
    · rw [ControlUnit.write, if_pos hfree]
  · refine ⟨[.test left right], w, ⟨w, ?_, rfl⟩, ?_⟩
    · rw [Step, step, if_pos hw, if_neg hfree]
    · rw [ControlUnit.write, if_neg hfree]

theorem remoteControllerWrite_alone (hw : w.remoteWriting = none) (left right : Int) :
    ∃ w', Runs.Path Step w [.remoteSet left right, .remoteTransmit] w' ∧
      w'.unit = w.unit.remoteControllerWrite left right := by
  refine ⟨_, ⟨{ w with
    unit := { w.unit with remoteControllerActivate := true }
    remoteWriting := some (left, right) }, ?_, _, rfl, rfl⟩, rfl⟩
  rw [Step, step, if_pos hw]

/-! ## Priority -/

/-- Once the controller has transmitted a command, and until it is released, the
last command on the wire is the controller's. -/
def Priority (w : Shared) : Prop := w.held = true → w.senders.head? = some .controller

/-- The controller does not transmit between the main loop's test and its
transmission. -/
def Unraced (w : Shared) (e : WriteEvent) : Prop := e = .remoteTransmit → w.writing = none

/-- The invariant. While the controller holds the driver its flag is up and no
command of the main loop is under way, and the flag is up as soon as the controller
is in a call. -/
structure Guarded (w : Shared) : Prop where
  flag : w.remoteWriting ≠ none → w.unit.remoteControllerActivate = true
  held : w.held = true → w.unit.remoteControllerActivate = true ∧ w.writing = none ∧
    w.senders.head? = some .controller

theorem step_guarded (w : Shared) (e : WriteEvent) (w' : Shared) (h : w.Guarded)
    (he : w.Unraced e) (hs : w.Step e w') : w'.Guarded := by
  cases e with
  | test left right =>
    simp only [Step, step] at hs
    split at hs
    next hw =>
      obtain rfl := Option.some.inj hs
      split
      next hfree =>
        -- the test only succeeds while the flag is down
        refine ⟨h.flag, ?_⟩
        intro hheld
        rw [(h.held hheld).1] at hfree
        exact absurd hfree (by decide)
      next => exact h
    next => exact absurd hs (by simp)
  | transmit =>
    simp only [Step, step, Option.map_eq_some_iff] at hs
    obtain ⟨⟨left, right⟩, hw, rfl⟩ := hs
    -- there is nothing to transmit while the controller holds the driver
    refine ⟨h.flag, ?_⟩
    intro hheld
    rw [(h.held hheld).2.1] at hw
    exact absurd hw (by simp)
  | remoteSet left right =>
    simp only [Step, step] at hs
    split at hs
    next hw =>
      obtain rfl := Option.some.inj hs
      exact ⟨fun _ => rfl, fun hheld => ⟨rfl, (h.held hheld).2⟩⟩
    next => exact absurd hs (by simp)
  | remoteTransmit =>
    simp only [Step, step, Option.map_eq_some_iff] at hs
    obtain ⟨⟨left, right⟩, hw, rfl⟩ := hs
    -- here the guard says that no command of the main loop is under way
    exact ⟨fun hne => absurd rfl hne, fun _ => ⟨h.flag (by simp [hw]), he rfl, rfl⟩⟩
  | release =>
    simp only [Step, step] at hs
    split at hs
    next hw =>
      obtain rfl := Option.some.inj hs
      exact ⟨fun hne => absurd hw hne, fun hheld => absurd hheld (by simp)⟩
    next => exact absurd hs (by simp)

theorem new_guarded : Guarded {} := ⟨fun h => absurd rfl h, fun h => absurd h (by decide)⟩

/-- **The controller has priority** in every state of every interleaving in which it
never transmits between the main loop's test and its transmission. -/
theorem controller_has_priority {es : List WriteEvent} {w : Shared}
    (hrun : Runs.Path Step {} es w) (hes : Runs.Along Step Unraced {} es) : w.Priority :=
  fun hheld => ((hrun.guarded step_guarded hes new_guarded).held hheld).2.2

/-- The main loop writes before and, in vain, during the controller's call. -/
theorem controller_has_priority_turns :
    ∃ w, Runs.Path Step {} [.test 1 1, .transmit, .remoteSet 2 2, .test 3 3, .remoteTransmit] w ∧
      w.Priority := by
  obtain ⟨w, hw⟩ : ∃ w, Runs.Path Step {}
      [.test 1 1, .transmit, .remoteSet 2 2, .test 3 3, .remoteTransmit] w :=
    ⟨_, _, rfl, _, rfl, _, rfl, _, rfl, _, rfl, rfl⟩
  refine ⟨w, hw, controller_has_priority hw
    ⟨nofun, fun _ h₁ => ⟨nofun, fun _ h₂ => ⟨nofun, fun _ h₃ => ⟨nofun, fun m h₄ =>
      ⟨fun _ => ?_, fun _ _ => trivial⟩⟩⟩⟩⟩⟩
  obtain rfl := Option.some.inj h₁
  obtain rfl := Option.some.inj h₂
  obtain rfl := Option.some.inj h₃
  obtain rfl := Option.some.inj h₄
  rfl

/-- The main loop's command was tested before the controller took over, and comes
out after the controller's. -/
theorem main_loop_overtakes :
    ∃ w, Runs.Path Step {} [.test 100 100, .remoteSet 0 0, .remoteTransmit, .transmit] w ∧
      ¬ w.Priority :=
  ⟨_, ⟨_, rfl, _, rfl, _, rfl, _, rfl, rfl⟩, fun h => absurd (h rfl) (by decide)⟩

end Shared

end Solarbot.Main
