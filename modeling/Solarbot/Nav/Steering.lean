import Solarbot.Nav.Driver
import Solarbot.Nav.Waypoints

/-!
# Steering: `Move` and `GotoWaypoint`

`Navigator.move` turns a speed and an angle into a motor command and writes it;
`Navigator.gotoWaypoint` decides whether a waypoint was reached and moves when it
was not. Both leave the route alone, but for `last_distance`.

Mirroring notes vs `Navigator::Move`:
- The three bodies (stop, same direction, opposite directions) are the
  definitions `halt`, `bend` and `spin`; all of them end in the one
  `driver->Write` of `move`.
- `(int)` truncates towards zero, and so does `speed / 2`.
- The value of `driver->Write` is returned by `Move` and read by no caller.
-/

namespace Solarbot.Nav

inductive Modes where
  | standby | modeWaypoints | modeVisual | modeLine
  deriving DecidableEq, Repr

/-- What `Navigator` reads of a `GPS::Location`, with the quality the main loop
tests. -/
structure Location (D : Type) where
  latitude : D
  longitude : D
  quality : Int

structure Navigator (D : Type) extends Route D where
  mode : Modes := .modeWaypoints
  doNotMove : Bool := false
  motorLeft : Int := 0
  motorRight : Int := 0
  camWorkSpeed : Int := 1000
  lineWorkSpeed : Int := 1000
  eyesRight : Bool := false
  eyesLeft : Bool := false
  fastEyesRight : Bool := false
  fastEyesLeft : Bool := false
  eyesAngry : Bool := false
  driver : ControlUnit := {}
  head : Head := {}

variable {D : Type} [Dbl D]

/-- A newly constructed `Navigator`, after `Init` gave it the devices. The
arguments are what the memory of the two members without an initial value
holds. -/
def Navigator.new (startWaypoint : Waypoint D) (startWaypointIndex : Int) : Navigator D :=
  { lastDistance := num 1, startWaypoint, startWaypointIndex }

namespace Navigator

variable (n : Navigator D)

/-- The `DoNotMove` branch of `Move`. -/
def halt : Navigator D :=
  { n with
    motorLeft := 0
    motorRight := 0
    head := if n.eyesAngry then n.head
      else n.head.setEyes ⟨.angry, true, true, false⟩
    eyesAngry := true
    eyesLeft := false
    eyesRight := false
    fastEyesLeft := false
    fastEyesRight := false }

/-- `SteeringSpeed` and `slow_Angle`. -/
def steering (mode : Modes) (speed : Int) (distance : D) : D × D :=
  if mode = .modeVisual then (num 400, num 90)
  else if Dbl.lt distance (num 1) then (num 400, num 45)
  else (num (speed - speed.tdiv 2), num 15)

/-- One turn is taken off an angle that is more than half a turn. -/
def shortAngle (angle : D) : D :=
  if Dbl.lt (num 180) angle then angle - num 360
  else if Dbl.lt angle (num (-180)) then angle + num 360
  else angle

/-- Same direction with a different factor: the wheels on the inner side of the
bend are slower. -/
def bend (speed : Int) (angle slowAngle steeringSpeed : D) : Navigator D :=
  let slower := Dbl.toInt ((angle / slowAngle) * steeringSpeed)
  if Dbl.lt (num 0) angle then
    { n with
      motorLeft := speed
      motorRight := speed - slower
      head := if n.eyesRight then n.head else n.head.setEyes ⟨.lookR, false, true, false⟩
      eyesRight := true
      eyesLeft := false
      fastEyesLeft := false
      fastEyesRight := false }
  else
    { n with
      motorLeft := speed + slower
      motorRight := speed
      head := if n.eyesLeft then n.head else n.head.setEyes ⟨.lookL, false, true, false⟩
      eyesLeft := true
      eyesRight := false
      fastEyesLeft := false
      fastEyesRight := false }

/-- `speed_dir_contrarias`, one wheel forward and the other backward. -/
def spinSpeed : Int := 500

/-- Opposite directions. -/
def spin (angle : D) : Navigator D :=
  if Dbl.lt (num 0) angle then
    { n with
      motorLeft := spinSpeed
      motorRight := -spinSpeed
      head := if n.fastEyesRight then n.head
        else n.head.setEyes ⟨.arrowRight, false, true, false⟩
      fastEyesRight := true
      fastEyesLeft := false
      eyesLeft := false
      eyesRight := false }
  else
    { n with
      motorLeft := -spinSpeed
      motorRight := spinSpeed
      head := if n.fastEyesLeft then n.head
        else n.head.setEyes ⟨.arrowLeft, false, true, false⟩
      fastEyesLeft := true
      fastEyesRight := false
      eyesLeft := false
      eyesRight := false }

/-- The motor command and the eyes of `Move`, before the command is written. -/
def aim (speed : Int) (angle distance : D) : Navigator D :=
  if n.doNotMove then n.halt
  else
    let n := { n with eyesAngry := false }
    let (steeringSpeed, slowAngle) := steering n.mode speed distance
    let angle := shortAngle angle
    if Dbl.lt (-slowAngle) angle && Dbl.lt angle slowAngle then
      n.bend speed angle slowAngle steeringSpeed
    else n.spin angle

/-- `Navigator::Move`. -/
def move (speed : Int) (angle distance : D) : Navigator D :=
  let n := n.aim speed angle distance
  { n with driver := n.driver.write n.motorLeft n.motorRight }

/-- The value of the default argument `distance` of `Move`. -/
def defaultDistance : D := num 5

/-! ## What `Move` changes -/

theorem aim_frame (speed : Int) (angle distance : D) :
    (n.aim speed angle distance).toRoute = n.toRoute ∧
      (n.aim speed angle distance).mode = n.mode ∧
      (n.aim speed angle distance).doNotMove = n.doNotMove ∧
      (n.aim speed angle distance).driver = n.driver := by
  unfold aim
  split
  · exact ⟨rfl, rfl, rfl, rfl⟩
  · simp only [bend, spin]
    split
    · split <;> exact ⟨rfl, rfl, rfl, rfl⟩
    · split <;> exact ⟨rfl, rfl, rfl, rfl⟩

@[simp] theorem move_toRoute (speed : Int) (angle distance : D) :
    (n.move speed angle distance).toRoute = n.toRoute :=
  (n.aim_frame speed angle distance).1

@[simp] theorem move_mode (speed : Int) (angle distance : D) :
    (n.move speed angle distance).mode = n.mode :=
  (n.aim_frame speed angle distance).2.1

@[simp] theorem move_doNotMove (speed : Int) (angle distance : D) :
    (n.move speed angle distance).doNotMove = n.doNotMove :=
  (n.aim_frame speed angle distance).2.2.1

/-- `Move` writes its motor command, and nothing else. -/
theorem move_driver (speed : Int) (angle distance : D) :
    (n.move speed angle distance).driver =
      n.driver.write (n.move speed angle distance).motorLeft
        (n.move speed angle distance).motorRight := by
  show ((n.aim speed angle distance).driver).write _ _ = _
  rw [(n.aim_frame speed angle distance).2.2.2]
  rfl

/-- With `DoNotMove` the motor command is zero. -/
theorem move_halts {n : Navigator D} (h : n.doNotMove = true) (speed : Int)
    (angle distance : D) :
    (n.move speed angle distance).motorLeft = 0 ∧
      (n.move speed angle distance).motorRight = 0 := by
  simp only [move, aim, h, if_true, halt]
  exact ⟨trivial, trivial⟩

/-! ## Reaching a waypoint -/

/-- The rules of `GotoWaypoint`: 0 when the waypoint counts as reached and 1 when
the rover has to move, with the new `last_distance`. -/
def arrival (lastDistance heading : D) (destination : Destination D) : Int × D :=
  let distToCompare := num 1.2 * lastDistance
  if Dbl.lt destination.distance (num 0.1) then (0, num 1)
  else if Dbl.lt destination.distance (num 1) then
    -- close but facing away: reached, to avoid oscillations
    if Dbl.lt (num 45) (Dbl.abs (destination.bearing - heading)) then (0, lastDistance)
    else if Dbl.lt distToCompare destination.distance then (0, num 1)
    else (1, destination.distance)
  else (1, num 1)

/-- The destination `GotoWaypoint` computes for a waypoint. -/
def destinationTo (location : Location D) (waypoint : Waypoint D) : Destination D :=
  getDestination ⟨location.latitude, location.longitude⟩ ⟨waypoint.latitude, waypoint.longitude⟩

/-- `Navigator::GotoWaypoint`: the result, and what it stores in
`*remaining_distance`. -/
def gotoWaypoint (location : Location D) (heading : D) (waypoint : Waypoint D) :
    Navigator D × Int × D :=
  let destination := destinationTo location waypoint
  let (result, lastDistance) := arrival n.lastDistance heading destination
  let n := { n with lastDistance := lastDistance }
  let n :=
    if result = 1 then
      n.move waypoint.speed (destination.bearing - heading) destination.distance
    else n
  (n, result, destination.distance)

/-- The waypoint counts as reached. -/
def Reached (location : Location D) (heading : D) (waypoint : Waypoint D) : Prop :=
  (arrival n.lastDistance heading (destinationTo location waypoint)).1 = 0

instance (location : Location D) (heading : D) (waypoint : Waypoint D) :
    Decidable (n.Reached location heading waypoint) :=
  inferInstanceAs (Decidable (_ = _))

theorem arrival_zero_or_one (lastDistance heading : D) (destination : Destination D) :
    (arrival lastDistance heading destination).1 = 0 ∨
      (arrival lastDistance heading destination).1 = 1 := by
  simp only [arrival]
  split
  · exact .inl rfl
  · split
    · split
      · exact .inl rfl
      · split
        · exact .inl rfl
        · exact .inr rfl
    · exact .inr rfl

/-- What one call of `GotoWaypoint` does: either the waypoint was reached and only
`last_distance` changed, or the rover moved. -/
theorem gotoWaypoint_cases (location : Location D) (heading : D) (waypoint : Waypoint D) :
    ∃ n' last, n' = { n with lastDistance := last } ∧
      ((n.Reached location heading waypoint ∧
          (n.gotoWaypoint location heading waypoint).1 = n' ∧
          (n.gotoWaypoint location heading waypoint).2.1 = 0) ∨
        (¬ n.Reached location heading waypoint ∧
          ∃ speed angle distance,
            (n.gotoWaypoint location heading waypoint).1 = n'.move speed angle distance ∧
            (n.gotoWaypoint location heading waypoint).2.1 = 1)) := by
  refine ⟨_, (arrival n.lastDistance heading (destinationTo location waypoint)).2, rfl, ?_⟩
  rcases arrival_zero_or_one n.lastDistance heading (destinationTo location waypoint) with h | h
  · refine .inl ⟨h, ?_, h⟩
    simp [gotoWaypoint, h]
  · refine .inr ⟨by simp [Reached, h], waypoint.speed,
      (destinationTo location waypoint).bearing - heading,
      (destinationTo location waypoint).distance, ?_, h⟩
    simp [gotoWaypoint, h]

/-- Of the route only `last_distance` changes. -/
theorem gotoWaypoint_toRoute (location : Location D) (heading : D) (waypoint : Waypoint D) :
    ∃ last, (n.gotoWaypoint location heading waypoint).1.toRoute =
      { n.toRoute with lastDistance := last } := by
  obtain ⟨n', last, rfl, ⟨-, hn, -⟩ | ⟨-, speed, angle, distance, hn, -⟩⟩ :=
    n.gotoWaypoint_cases location heading waypoint
  · exact ⟨last, by rw [hn]⟩
  · exact ⟨last, by rw [hn, move_toRoute]⟩

end Navigator

end Solarbot.Nav
