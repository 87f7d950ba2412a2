import Solarbot.Main.WaypointIndex

/-!
# `SETMODE waypoints` and the search for the path

`ExecuteCommand_SETMODE` sets `start_waypoint_index` to `-1`, "to find the closest
point again". `GotoNextWaypoint` never looks at that member: it searches when
`finding_path` is set and `waypoints_index` is `-1`, and the command writes neither
of the two.

That a call asks `FindClosestPathPoint` is stated by leaving the search open
(`gotoNextWaypointWith`): the call restarts the search when its result is the one
that follows from the answer of the search, whatever that answer is. With the
search of the source this is the function of the source
(`gotoNextWaypointWith_findClosestPathPoint`).
-/

namespace Solarbot

namespace Nav.Navigator

variable {D : Type} [Dbl D]

/-- What `GotoNextWaypoint` stores of the answer of the search. -/
def startAt (n : Navigator D) (c : Closest D) : Navigator D :=
  { n with
    waypointsIndex := c.startWaypointIndex
    startWaypoint := ⟨c.closestPoint.lat, c.closestPoint.lon, 1000⟩ }

/-- `GotoNextWaypoint` over any search for the closest point. -/
def gotoNextWaypointWith (search : Route D → Location D → Except Fault (Closest D))
    (n : Navigator D) (location : Location D) (heading : D) :
    Except Fault (Navigator D × Int × D) :=
  if n.findingPath then
    (if n.waypointsIndex = -1 then (search n.toRoute location).map n.startAt else return n).map
      fun n => n.approachStart location heading
  else
    (n.waypointAt n.waypointsIndex).map fun w => n.followPath location heading w

variable {n : Navigator D}

theorem gotoNextWaypointWith_findClosestPathPoint (location : Location D) (heading : D) :
    n.gotoNextWaypointWith Route.findClosestPathPoint location heading =
      n.gotoNextWaypoint location heading := by
  have hstart : n.findStart location =
      if n.waypointsIndex = -1 then (n.findClosestPathPoint location).map n.startAt
      else return n := by
    unfold findStart
    split
    · cases n.findClosestPathPoint location <;> rfl
    · rfl
  rw [gotoNextWaypointWith, gotoNextWaypoint, hstart]

/-- The call searches for the closest point from the location, and heads for it. -/
def Restarts (n : Navigator D) (location : Location D) (heading : D) : Prop :=
  ∀ search, n.gotoNextWaypointWith search location heading =
    (search n.toRoute location).map fun c => (n.startAt c).approachStart location heading

/-- The call restarts the search only when no start point was found yet. -/
theorem restarts_iff (location : Location D) (heading : D) :
    n.Restarts location heading ↔ n.findingPath = true ∧ n.waypointsIndex = -1 := by
  constructor
  · intro h
    -- a search that fails, in a way in which no access to the vector fails
    have hfail := h fun _ _ => .error (.outOfRange (n.waypointsIndex - 1) 0)
    by_cases hfinding : n.findingPath = true
    · refine ⟨hfinding, ?_⟩
      by_contra hidx
      rw [gotoNextWaypointWith, if_pos hfinding, if_neg hidx] at hfail
      exact absurd hfail (by simp [Except.map, pure, Except.pure])
    · rw [gotoNextWaypointWith, if_neg hfinding] at hfail
      unfold Route.waypointAt at hfail
      split at hfail
      · exact absurd hfail (by simp [Except.map])
      · have hindex := congrArg (fun | .error (.outOfRange i _) => i | .ok _ => 0) hfail
        have hindex : n.waypointsIndex = n.waypointsIndex - 1 := hindex
        omega
  · intro hoff search
    obtain ⟨hfinding, hidx⟩ := hoff
    rw [gotoNextWaypointWith, if_pos hfinding, if_pos hidx]
    cases search n.toRoute location <;> rfl

end Nav.Navigator

namespace Main

open Nav

variable {D : Type} [Dbl D]

/-- The law: after a `SETMODE waypoints` that is answered `OK`, the next call of
`GotoNextWaypoint` restarts the search, wherever the rover is. -/
def RestartsSearch (s : Robot D) (e : Event D) (s' : Robot D) : Prop :=
  ∀ i, e = .setMode "waypoints".toList i →
    (s.executeCommandSetMode "waypoints".toList i).2 = "OK" →
      ∀ (location : Location D) (heading : D), s'.navigator.Restarts location heading

/-- The condition: a robot that has waypoints gets the command while it looks for
the path and has not found its start. -/
def SearchesAlready (s : Robot D) (e : Event D) : Prop :=
  ∀ i, e = .setMode "waypoints".toList i → s.navigator.waypoints ≠ [] →
    s.navigator.findingPath = true ∧ s.navigator.waypointsIndex = -1

omit [Dbl D] in
theorem setMode_waypoints_ok_iff (s : Robot D) (i : Robot.InitResults) :
    (s.executeCommandSetMode "waypoints".toList i).2 = "OK" ↔ s.navigator.waypoints ≠ [] := by
  have hmode : string2Mode "waypoints".toList = .modeWaypoints := by decide
  rw [Robot.executeCommandSetMode, hmode]
  dsimp only
  split
  next hpos => exact iff_of_true rfl (List.ne_nil_of_length_pos hpos)
  next hzero =>
    have hreply : "ERROR: There is not any waypoints" ≠ "OK" := by decide
    refine iff_of_false hreply (not_not_intro ?_)
    exact List.length_eq_zero_iff.mp (Nat.eq_zero_of_not_pos hzero)

/-- One step meets the law exactly under the condition: the command keeps the two
members that decide. -/
theorem restartsSearch_iff (s : Robot D) (e : Event D) (s' : Robot D)
    (h : Runs.Graph step s e s') : RestartsSearch s e s' ↔ SearchesAlready s e := by
  refine forall_congr' fun i => forall_congr' fun he => ?_
  subst he
  obtain rfl := Except.ok.inj h
  obtain ⟨-, hpath, -⟩ := s.setMode_cases "waypoints".toList i
  rw [setMode_waypoints_ok_iff]
  apply forall_congr'
  intro _
  simp only [Navigator.restarts_iff, hpath.findingPath, hpath.waypointsIndex]
  exact ⟨fun h => h ⟨num 0, num 0, 0⟩ (num 0), fun h _ _ => h⟩

/-- **When `SETMODE waypoints` restarts the search.** In every run from every state
it does so exactly when each of these commands finds the search where it starts. -/
theorem setMode_restarts_search (s : Robot D) (es : List (Event D)) :
    Runs.Steps (Runs.Graph step) RestartsSearch s es ↔
      Runs.Steps (Runs.Graph step) (fun s e _ => SearchesAlready s e) s es :=
  Runs.Steps.iff_of_invariant (I := fun _ => True) (fun s e s' _ h => restartsSearch_iff s e s' h)
    (fun _ _ _ _ _ _ => trivial) trivial

/-- A robot that has found the start of its path keeps to it. -/
theorem setMode_keeps_start :
    ∃ s s', startUp (plainConfig "waypoints".toList (some (some polesFile))) = some s ∧
      Runs.run step s [.iterate (clearFix 1)] = .ok s' ∧ s'.navigator.waypoints ≠ [] ∧
      ¬ Runs.Steps (Runs.Graph step) RestartsSearch s'
        [.setMode "waypoints".toList ⟨true, true, 0⟩] := by
  obtain ⟨s, s', hs, hrun, hloc⟩ := poles_located
  have hway : s'.navigator.waypoints ≠ [] := by
    intro hnil
    have hupper := hloc.upper
    rw [hloc.size, hnil] at hupper
    exact absurd (lt_of_le_of_lt hloc.lower hupper) (by decide)
  refine ⟨s, s', hs, hrun, hway, ?_⟩
  intro h
  -- the command has an answer, and the index is that of a waypoint
  have hm : Runs.Graph step s' (.setMode "waypoints".toList ⟨true, true, 0⟩)
      (s'.executeCommandSetMode "waypoints".toList ⟨true, true, 0⟩).1 := rfl
  have hlaw := (restartsSearch_iff _ _ _ hm).mp (h _ hm).1
  have hlower := hloc.lower
  rw [(hlaw ⟨true, true, 0⟩ rfl hway).2] at hlower
  exact absurd hlower (by decide)

end Main

end Solarbot
