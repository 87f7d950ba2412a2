import Mathlib

/-!
# The control unit and the head

The two devices the navigator drives. Of the `ControlUnit` the model keeps who may
write (`RemoteControllerActivate`) and the commands that were written; of the
`Head`, the faces it was asked to show. The status `DirectWrite` reads back is left
out: none of the callers here looks at it.
-/

namespace Solarbot.Nav

structure ControlUnit where
  remoteControllerActivate : Bool := false
  /-- The commands `DirectWrite` has transmitted, newest first. -/
  written : List (Int × Int) := []

namespace ControlUnit

def directWrite (c : ControlUnit) (left right : Int) : ControlUnit :=
  { c with written := (left, right) :: c.written }

/-- `ControlUnit::Write`: nothing is sent while the remote controller drives. -/
def write (c : ControlUnit) (left right : Int) : ControlUnit :=
  if c.remoteControllerActivate = false then c.directWrite left right else c

def remoteControllerWrite (c : ControlUnit) (left right : Int) : ControlUnit :=
  { c with remoteControllerActivate := true }.directWrite left right

/-- `RemoteControllerActivate = false`, from the controller thread. -/
def release (c : ControlUnit) : ControlUnit := { c with remoteControllerActivate := false }

/-- The most recent command written to the driver. -/
def lastCommand (c : ControlUnit) : Option (Int × Int) := c.written.head?

@[simp] theorem write_remoteControllerActivate (c : ControlUnit) (l r : Int) :
    (c.write l r).remoteControllerActivate = c.remoteControllerActivate := by
  unfold write
  split <;> rfl

theorem lastCommand_write {c : ControlUnit} (h : c.remoteControllerActivate = false)
    (l r : Int) : (c.write l r).lastCommand = some (l, r) := by
  rw [write, if_pos h]
  rfl

end ControlUnit

/-- The faces the navigator and the main loop ask for. -/
inductive Emotions where
  | neutral | lookL | lookR | angry | x | arrowLeft | arrowRight
  deriving DecidableEq, Repr

/-- One call of `Head::SetEyes`. -/
structure EyesCommand where
  emotion : Emotions
  autoReverseAnimation : Bool := false
  continueAnimation : Bool := false
  returnToNeutral : Bool := false
  deriving DecidableEq, Repr

structure Head where
  /-- The faces asked for, newest first. -/
  shown : List EyesCommand := []

def Head.setEyes (h : Head) (c : EyesCommand) : Head := { h with shown := c :: h.shown }

end Solarbot.Nav
