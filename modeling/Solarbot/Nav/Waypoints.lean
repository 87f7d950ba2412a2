import Solarbot.Nav.Geodesy

/-!
# The waypoints and their file

`Route` is the part of `Navigator` that says where to go: the list of waypoints,
the index of the current one, and the search for the point of the path to start
from. `Route.loadWaypoints` is `LoadWaypoints`, on the text of the file.

Mirroring notes vs `Navigator::LoadWaypoints`:
- A file that cannot be opened is `none`. The text is read with `std::getline`
  (`CText.lines`); only the first character of a line selects the record.
- The P record is read by one pass over the line that acts on every comma and on
  the last character. `last_comma_index` starts at 0, the letter itself.
- The S record computes a local `start_waypoint` that nothing reads afterwards;
  what remains of it is `finding_path = false`.
- `start_waypoint` and `start_waypoint_index` have no initial value in the source,
  so the fresh route takes them as arguments.
-/

namespace Solarbot.Nav

structure Waypoint (D : Type) where
  latitude : D
  longitude : D
  speed : Int

namespace Err

/-- `err::OK`. -/
def ok : Int := 0

/-- `err::ERR_NAVIGATOR_OPENING_FILE`. -/
def navigatorOpeningFile : Int := -23

/-- `err::ERR_OPENING_NAVIGATION_VISUAL`. -/
def openingNavigationVisual : Int := -26

/-- `err::ERR_OPENING_NAVIGATION_LINE`. -/
def openingNavigationLine : Int := -27

/-- `err::ERR_NOT_FOUND`. -/
def notFound : Int := -29

/-- `err::NAVIGATOR_DONE`. -/
def navigatorDone : Int := -99

theorem zero_ne_navigatorDone : (0 : Int) ≠ navigatorDone := by decide

end Err

/-- The fields of `Navigator` that describe the path. -/
structure Route (D : Type) where
  waypoints : List (Waypoint D) := []
  waypointsSize : Int := 0
  waypointsIndex : Int := -1
  loopNavigate : Bool := false
  lastDistance : D
  /-- The closest point of the path, to reach at the beginning. -/
  startWaypoint : Waypoint D
  startWaypointIndex : Int
  /-- The rover is still going to the closest point of the path. -/
  findingPath : Bool := false

variable {D : Type} [Dbl D]

/-- The variables of the pass over a P record. -/
structure PRecord (D : Type) where
  lastCommaIndex : Nat := 0
  commaCount : Nat := 0
  latitude : D
  longitude : D
  waypoints : List (Waypoint D)

/-- The body of the loop over the characters of a P record. -/
def PRecord.step (text : List Char) (p : PRecord D) (i : Nat) : PRecord D :=
  if text[i]? = some ',' ∨ i + 1 = text.length then
    let field := text.drop (p.lastCommaIndex + 1)
    let p := { p with commaCount := p.commaCount + 1, lastCommaIndex := i }
    if p.commaCount = 1 then { p with latitude := Dbl.strtold field }
    else if p.commaCount = 2 then { p with longitude := Dbl.strtold field }
    else if p.commaCount = 3 then
      { p with waypoints := p.waypoints ++ [⟨p.latitude, p.longitude, CText.atoi field⟩] }
    else p
  else p

/-- The waypoints after a P record. The two coordinates are always read before
the waypoint is stored, so what they were does not matter. -/
def readPRecord (line : List Char) (waypoints : List (Waypoint D)) : List (Waypoint D) :=
  ((List.range' 1 (line.length - 1)).foldl (PRecord.step line)
    { latitude := num 0, longitude := num 0, waypoints := waypoints }).waypoints

/-- The body of the loop over the lines. -/
def Route.readLine (r : Route D) (line : List Char) : Route D :=
  match line.head? with
  | some 'P' => { r with waypoints := readPRecord line r.waypoints }
  | some 'S' => { r with findingPath := false }
  | some 'L' => { r with loopNavigate := true }
  | _ => r

/-- The route when the file has just been opened. -/
def Route.reset (r : Route D) : Route D :=
  { r with
    waypointsIndex := -1
    waypointsSize := 0
    waypoints := []
    loopNavigate := false
    findingPath := true }

/-- `Navigator::LoadWaypoints`, with the value it returns. -/
def Route.loadWaypoints (r : Route D) (file : Option (List Char)) : Route D × Int :=
  match file with
  | none => (r, Err.navigatorOpeningFile)
  | some text =>
    let r := (CText.lines text).foldl Route.readLine r.reset
    ({ r with waypointsSize := r.waypoints.length }, Err.ok)

/-! ## What a load leaves behind -/

/-- The file has an S record. -/
def HasStartRecord (text : List Char) : Prop :=
  ∃ line ∈ CText.lines text, line.head? = some 'S'

instance (text : List Char) : Decidable (HasStartRecord text) :=
  inferInstanceAs (Decidable (∃ line ∈ CText.lines text, line.head? = some 'S'))

/-- No line selects a waypoint. -/
theorem readLine_waypointsIndex (r : Route D) (line : List Char) :
    (r.readLine line).waypointsIndex = r.waypointsIndex := by
  unfold Route.readLine
  split <;> rfl

/-- Only an S record ends the search for the path. -/
theorem readLine_findingPath {r : Route D} {line : List Char} (h : r.findingPath = true) :
    (r.readLine line).findingPath = true ↔ line.head? ≠ some 'S' := by
  unfold Route.readLine
  split
  next hP => simp [hP, h]
  next hS => simp [hS]
  next hL => simp [hL, h]
  next _ _ hS _ => exact iff_of_true h hS

/-- No line turns the search on again. -/
theorem readLine_findingPath_false {r : Route D} {line : List Char} (h : r.findingPath = false) :
    (r.readLine line).findingPath = false := by
  unfold Route.readLine
  split
  next => exact h
  next => rfl
  next => exact h
  next => exact h

theorem foldl_readLine_waypointsIndex (ls : List (List Char)) (r : Route D) :
    (ls.foldl Route.readLine r).waypointsIndex = r.waypointsIndex := by
  induction ls generalizing r with
  | nil => rfl
  | cons l ls ih => rw [List.foldl_cons, ih, readLine_waypointsIndex]

/-- The search stays on when there is no `S` line. -/
theorem foldl_readLine_findingPath {ls : List (List Char)} :
    ∀ {r : Route D}, r.findingPath = true →
      ((ls.foldl Route.readLine r).findingPath = true ↔ ¬ ∃ l ∈ ls, l.head? = some 'S') := by
  induction ls with
  | nil =>
    intro r h
    simp [h]
  | cons l ls ih =>
    intro r h
    rw [List.foldl_cons]
    by_cases hl : l.head? = some 'S'
    · -- the flag is down for good
      have hdown : ∀ (ls : List (List Char)) (r : Route D), r.findingPath = false →
          (ls.foldl Route.readLine r).findingPath = false := by
        intro ls
        induction ls with
        | nil => exact fun _ hr => hr
        | cons m ls ihls => exact fun r hr => ihls _ (readLine_findingPath_false hr)
      have hfalse : (r.readLine l).findingPath = false := by
        rw [← Bool.not_eq_true, readLine_findingPath h]
        exact not_not_intro hl
      rw [hdown ls _ hfalse]
      exact iff_of_false (by simp) (not_not_intro ⟨l, List.mem_cons_self .., hl⟩)
    · rw [ih ((readLine_findingPath h).mpr hl)]
      simp [hl]

/-- After a file was read, the size is that of the list and there is no current
waypoint. -/
theorem loadWaypoints_some (r : Route D) (text : List Char) :
    (r.loadWaypoints (some text)).2 = Err.ok ∧
      (r.loadWaypoints (some text)).1.waypointsSize =
        (r.loadWaypoints (some text)).1.waypoints.length ∧
      (r.loadWaypoints (some text)).1.waypointsIndex = -1 :=
  ⟨rfl, rfl, foldl_readLine_waypointsIndex _ r.reset⟩

/-- The search for the path is on after a load exactly when the file has no S
record. -/
theorem loadWaypoints_findingPath (r : Route D) (text : List Char) :
    (r.loadWaypoints (some text)).1.findingPath = true ↔ ¬ HasStartRecord text :=
  foldl_readLine_findingPath (r := r.reset) rfl

/-- A file with an S record leaves no current waypoint and no search. -/
theorem loadWaypoints_startRecord (r : Route D) {text : List Char} (h : HasStartRecord text) :
    (r.loadWaypoints (some text)).1.waypointsIndex = -1 ∧
      (r.loadWaypoints (some text)).1.findingPath = false := by
  refine ⟨(loadWaypoints_some r text).2.2, ?_⟩
  rw [← Bool.not_eq_true, loadWaypoints_findingPath]
  exact not_not_intro h

end Solarbot.Nav
