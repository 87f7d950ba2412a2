import Solarbot.Lib.Loops
import Solarbot.Nav.Steering

/-!
# Following the path: `FindClosestPathPoint` and `GotoNextWaypoint`

Every access to the vector of waypoints goes through `Navigator.waypointAt`, which
faults outside the vector; what the C++ program does there is undefined.

`FindClosestPathPoint` looks at sample points one metre apart on every segment
(`Closest.visit` is the body of its inner loop) and stores the index of the segment's
end through the pointer it was given, which is `waypoints_index`. It stores nothing
when no sample is nearer than the initial `DBL_MAX`: `findClosestPathPoint_spec`
says that this is exactly the case `¬ PathSampled`.

Mirroring notes: the argument `heading` of `FindClosestPathPoint` is not read there;
`remaining_distance` is handed out as a value; the printed lines are left out.
-/

namespace Solarbot.Nav

/-- An access outside the vector of waypoints. -/
inductive Fault where
  | outOfRange (index : Int) (size : Nat)
  deriving DecidableEq, Repr

variable {D : Type} [Dbl D]

/-- `waypoints[index]`. -/
def Route.waypointAt (r : Route D) (index : Int) : Except Fault (Waypoint D) :=
  if h : 0 ≤ index ∧ index.toNat < r.waypoints.length then .ok r.waypoints[index.toNat]
  else .error (.outOfRange index r.waypoints.length)

def Waypoint.point (w : Waypoint D) : Point D := ⟨w.latitude, w.longitude⟩

/-- The local variables `FindClosestPathPoint` keeps, and `*start_waypoint_index`. -/
structure Closest (D : Type) where
  closestPoint : Point D
  closestDistance : D
  closestDistanceToNextWaypoint : D
  startWaypointIndex : Int

/-- In metres. -/
def increment : D := num 1

/-- The number of points on the segment. -/
def steps (org dest : Point D) : Int := Dbl.toInt ((getDestination org dest).distance / increment)

/-- The `i`-th sample point of the segment. -/
def samplePoint (org dest : Point D) (i : Nat) : Point D :=
  getDestinationPoint org (num i * increment) (getDestination org dest).bearing

namespace Closest

/-- The body of the inner loop: the `i`-th sample of the segment that ends in the
waypoint `next`. -/
def visit (myPoint org dest : Point D) (next : Int) (c : Closest D) (i : Nat) : Closest D :=
  let destinationPoint := samplePoint org dest i
  let d := distanceBetweenPoints myPoint destinationPoint
  if Dbl.lt d c.closestDistance then
    let dn := distanceBetweenPoints destinationPoint dest
    if Dbl.lt dn c.closestDistanceToNextWaypoint then
      { closestPoint := destinationPoint
        closestDistance := d
        closestDistanceToNextWaypoint := dn
        startWaypointIndex := next }
    else c
  else c

/-- The body of the outer loop, once the two waypoints were read. -/
def segment (myPoint org dest : Point D) (next : Int) (c : Closest D) : Closest D :=
  (List.range' 1 ((steps org dest).toNat - 1)).foldl (visit myPoint org dest next)
    { c with closestDistanceToNextWaypoint := Dbl.max }

end Closest

namespace Route

variable (r : Route D)

/-- `next_waypoint_index`: the path is closed. -/
def nextIndex (index : Nat) : Int := if r.waypointsSize ≤ (index : Int) + 1 then 0 else index + 1

/-- The body of the outer loop. -/
def visitSegment (myPoint : Point D) (c : Closest D) (index : Nat) : Except Fault (Closest D) := do
  let org ← r.waypointAt index
  let dest ← r.waypointAt (r.nextIndex index)
  return c.segment myPoint org.point dest.point (r.nextIndex index)

/-- `Navigator::FindClosestPathPoint`, called with `&waypoints_index`. -/
def findClosestPathPoint (location : Location D) : Except Fault (Closest D) :=
  let myPoint : Point D := ⟨location.latitude, location.longitude⟩
  (List.range r.waypointsSize.toNat).foldlM (r.visitSegment myPoint)
    { closestPoint := myPoint
      closestDistance := Dbl.max
      closestDistanceToNextWaypoint := Dbl.max
      startWaypointIndex := r.waypointsIndex }

end Route

namespace Navigator

variable (n : Navigator D)

/-- The search at the beginning of `GotoNextWaypoint`. -/
def findStart (location : Location D) : Except Fault (Navigator D) :=
  if n.waypointsIndex = -1 then do
    let c ← n.findClosestPathPoint location
    return { n with
      waypointsIndex := c.startWaypointIndex
      startWaypoint := ⟨c.closestPoint.lat, c.closestPoint.lon, 1000⟩ }
  else return n

/-- Near the start point the rover goes slower. -/
def slowNearStart (location : Location D) : Navigator D :=
  if Dbl.lt (distanceBetweenTwoPoint location.latitude location.longitude
      n.startWaypoint.latitude n.startWaypoint.longitude) (num 3) then
    { n with startWaypoint := { n.startWaypoint with speed := 300 } }
  else n

/-- The step to the next waypoint, when the current one was reached. -/
def advance : Navigator D × Int :=
  let n := { n with waypointsIndex := n.waypointsIndex + 1 }
  if n.waypointsSize ≤ n.waypointsIndex then
    if n.loopNavigate then ({ n with waypointsIndex := 0 }, 0)
    else ({ n with waypointsIndex := n.waypointsIndex - 1 }, Err.navigatorDone)
  else (n, 0)

/-- `GotoNextWaypoint` while the path is being looked for: the rover heads for the
start point, and is on the path when it gets there. -/
def approachStart (location : Location D) (heading : D) : Navigator D × Int × D :=
  let n := n.slowNearStart location
  let (n, r, remaining) := n.gotoWaypoint location heading n.startWaypoint
  (if r = 0 then { n with findingPath := false } else n, 0, remaining)

/-- `GotoNextWaypoint` on the path, with `waypoints[waypoints_index]`. -/
def followPath (location : Location D) (heading : D) (waypoint : Waypoint D) :
    Navigator D × Int × D :=
  let (n, r, remaining) := n.gotoWaypoint location heading waypoint
  let (n, done) := if r = 0 then n.advance else (n, 0)
  (n, done, remaining)

/-- `Navigator::GotoNextWaypoint`: the value it returns, and `*remaining_distance`. -/
def gotoNextWaypoint (location : Location D) (heading : D) :
    Except Fault (Navigator D × Int × D) :=
  if n.findingPath then
    (n.findStart location).map fun n => n.approachStart location heading
  else
    (n.waypointAt n.waypointsIndex).map fun w => n.followPath location heading w

/-- `Navigator::GetCurrentWaypoint`. -/
def getCurrentWaypoint : Except Fault (Waypoint D) :=
  if -1 < n.waypointsIndex then n.waypointAt n.waypointsIndex
  else return ⟨num 0, num 0, 0⟩

/-- `Navigator::GotoNextCam`, given what `cam.ProcessImage` found. -/
def gotoNextCam (quality : Int) (angle : D) : Navigator D :=
  n.move (Dbl.toInt (num (quality * n.camWorkSpeed) / num 100 : D)) angle defaultDistance

/-- `Navigator::GotoByLine`, given what `line.Read` returned. A failed read closes
and reopens the sensor, and does not move. -/
def gotoByLine (r : Int) (angle : D) : Navigator D × Int :=
  if r = 0 then (n.move n.lineWorkSpeed angle defaultDistance, 0) else (n, r)

end Navigator

/-- `Navigator::String2Mode`. -/
def string2Mode (mode : List Char) : Modes :=
  if mode = "line".toList then .modeLine
  else if mode = "visual".toList then .modeVisual
  else if mode = "waypoints".toList then .modeWaypoints
  else .standby

end Solarbot.Nav
