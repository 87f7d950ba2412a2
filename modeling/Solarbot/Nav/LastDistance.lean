import Solarbot.Lib.Runs
import Solarbot.Nav.Arrival
import Solarbot.Nav.Misalignment

/-!
# `last_distance` from target to target

`GotoWaypoint` remembers in `last_distance` how far the waypoint was, and takes it for
reached when the rover gets away from it again. The member is one for all targets. The
other exits that report an arrival put it back to 1.0, but the exit for a rover that faces
away does not: what was measured to one target is then compared with the distance to the next.

A `Trip` is a navigator with the distances that were measured to the target it has now.
The law is that `last_distance` is 1.0 or among these whenever the distance rule reports an
arrival (`Traced`). `trip_traced` says that it holds along every run in which the angle rule
leaves no distance behind (`Resets`), and `trip_leaks` is a run that breaks it.
-/

namespace Solarbot.Nav

/-- What a call of `GotoNextWaypoint` heads for. -/
inductive Goal
  | start
  | waypoint (index : Int)
  deriving DecidableEq, Repr

namespace Navigator

section Calls

variable {D : Type} [Dbl D] {n : Navigator D} {location : Location D} {heading : D}

def goal (n : Navigator D) : Goal :=
  if n.findingPath then .start else .waypoint n.waypointsIndex

omit [Dbl D] in
theorem goal_ne {m n : Navigator D} (hm : m.findingPath = false) (hn : n.findingPath = false)
    (h : m.waypointsIndex ≠ n.waypointsIndex) : m.goal ≠ n.goal := by
  simp [goal, hm, hn, h]

/-- An arrival takes the navigator to another target. -/
def MovesOn (n : Navigator D) : Prop :=
  n.findingPath = true ∨ n.advance.1.waypointsIndex ≠ n.waypointsIndex

/-- The route after a call of `GotoWaypoint`. -/
theorem gotoWaypoint_route (n : Navigator D) (location : Location D) (heading : D)
    (w : Waypoint D) : (n.gotoWaypoint location heading w).1.toRoute =
      { n.toRoute with
        lastDistance := (arrival n.lastDistance heading (destinationTo location w)).2 } := by
  simp only [gotoWaypoint]
  split
  · rw [move_toRoute]
  · rfl

/-- A call on the way to the start point. -/
theorem approachStart_spec (n : Navigator D) (location : Location D) (heading : D) :
    let w := (n.slowNearStart location).startWaypoint
    let a := arrival n.lastDistance heading (destinationTo location w)
    (n.approachStart location heading).1.lastDistance = a.2 ∧
      (n.approachStart location heading).1.waypointsIndex = n.waypointsIndex ∧
      (n.approachStart location heading).1.findingPath =
        (if a.1 = 0 then false else n.findingPath) ∧
      (n.approachStart location heading).2.2 = (destinationTo location w).distance := by
  intro w a
  have hslow : (n.slowNearStart location).lastDistance = n.lastDistance ∧
      (n.slowNearStart location).waypointsIndex = n.waypointsIndex ∧
      (n.slowNearStart location).findingPath = n.findingPath := by
    unfold slowNearStart
    split <;> exact ⟨rfl, rfl, rfl⟩
  have hroute := (n.slowNearStart location).gotoWaypoint_route location heading w
  have hresult : ((n.slowNearStart location).gotoWaypoint location heading w).2.1 = a.1 := by
    show (arrival _ _ _).1 = _
    rw [hslow.1]
  rw [hslow.1] at hroute
  simp only [approachStart]
  rw [show (n.slowNearStart location).startWaypoint = w from rfl, hresult]
  by_cases harrived : a.1 = 0
  · rw [if_pos harrived, if_pos harrived]
    dsimp only
    rw [hroute]
    exact ⟨rfl, hslow.2.1, rfl, rfl⟩
  · rw [if_neg harrived, if_neg harrived, hroute]
    exact ⟨rfl, hslow.2.1, hslow.2.2, rfl⟩

omit [Dbl D] in
/-- Only the index changes when the navigator moves on. -/
theorem advance_route (n : Navigator D) :
    n.advance.1.toRoute = { n.toRoute with waypointsIndex := n.advance.1.waypointsIndex } := by
  simp only [advance]
  split
  · split <;> rfl
  · rfl

/-- A call on the path. -/
theorem followPath_route (n : Navigator D) (location : Location D) (heading : D) (w : Waypoint D) :
    let a := arrival n.lastDistance heading (destinationTo location w)
    (n.followPath location heading w).1.toRoute =
      { n.toRoute with
        lastDistance := a.2
        waypointsIndex := if a.1 = 0 then n.advance.1.waypointsIndex else n.waypointsIndex } := by
  intro a
  have hroute := n.gotoWaypoint_route location heading w
  have hresult : (n.gotoWaypoint location heading w).2.1 = a.1 := rfl
  have hadvance : (n.gotoWaypoint location heading w).1.advance.1.waypointsIndex =
      n.advance.1.waypointsIndex := by
    simp only [advance, hroute]
    split
    · split <;> rfl
    · rfl
  simp only [followPath]
  rw [hresult]
  by_cases harrived : a.1 = 0
  · rw [if_pos harrived, if_pos harrived, advance_route, hadvance, hroute]
  · rw [if_neg harrived, if_neg harrived, hroute]

/-- **What a call does to the distances.** Of the rules of `GotoWaypoint` it remembers what
they say, and the target is the same unless the rover arrived and moves on. -/
theorem gotoNextWaypoint_spec {res : Navigator D × Int × D}
    (h : n.gotoNextWaypoint location heading = .ok res) :
    ∃ w, n.target location = .ok w ∧
      res.1.lastDistance = (arrival n.lastDistance heading (destinationTo location w)).2 ∧
      res.2.2 = (destinationTo location w).distance ∧
      ((arrival n.lastDistance heading (destinationTo location w)).1 = 1 ∨ ¬ n.MovesOn →
        res.1.goal = n.goal) := by
  rcases gotoNextWaypoint_cases h with ⟨hfinding, m, hm, rfl⟩ | ⟨hfinding, w, hw, rfl⟩
  · -- on the way to the start point
    have hlast := (findStart_quiet hm).2
    have hsearching : m.findingPath = n.findingPath := by
      rcases findStart_cases hm with ⟨-, rfl⟩ | ⟨-, c, -, rfl⟩
      · rfl
      · rfl
    obtain ⟨hdistance, -, hgoal, hremaining⟩ := m.approachStart_spec location heading
    rw [hlast] at hdistance hgoal
    refine ⟨(m.slowNearStart location).startWaypoint, ?_, hdistance, hremaining, ?_⟩
    · rw [target, if_pos hfinding, hm]
      rfl
    · intro hsame
      rcases hsame with hmoves | hstays
      · rw [if_neg (by rw [hmoves]; decide)] at hgoal
        unfold goal
        rw [hgoal, hsearching, if_pos hfinding, if_pos hfinding]
      · exact absurd (.inl hfinding) hstays
  · -- on the path
    have hroute := n.followPath_route location heading w
    dsimp only at hroute
    refine ⟨w, ?_, ?_, rfl, ?_⟩
    · rw [target, if_neg (Bool.eq_false_iff.mp hfinding)]
      exact hw
    · rw [hroute]
    · intro hsame
      have hindex : (if (arrival n.lastDistance heading (destinationTo location w)).1 = 0 then
          n.advance.1.waypointsIndex else n.waypointsIndex) = n.waypointsIndex := by
        rcases hsame with hmoves | hstays
        · exact if_neg (by rw [hmoves]; decide)
        · rw [MovesOn, not_or, not_not] at hstays
          rw [hstays.2]
          exact ite_self _
      unfold goal
      rw [hroute, hindex]

end Calls

/-! ## The rules of `GotoWaypoint`, on exact numbers -/

section Rules

variable (n : Navigator ℝ) (location : Location ℝ) (heading : ℝ) (w : Waypoint ℝ)

/-- An arrival by the angle: close to the target, and facing away from it. -/
structure ByAngle : Prop where
  not_there : 0.1 ≤ (destinationTo location w).distance
  close : (destinationTo location w).distance < 1
  away : 45 < |(destinationTo location w).bearing - heading|

/-- An arrival by the distance: the rover gets away from the target again. -/
structure ByDistance : Prop where
  not_there : 0.1 ≤ (destinationTo location w).distance
  close : (destinationTo location w).distance < 1
  ahead : |(destinationTo location w).bearing - heading| ≤ 45
  exceeds : 1.2 * n.lastDistance < (destinationTo location w).distance

/-- What a call leaves in `last_distance`. -/
theorem arrival_cases :
    (arrival n.lastDistance heading (destinationTo location w)).2 = 1 ∨
    (ByAngle location heading w ∧
      arrival n.lastDistance heading (destinationTo location w) = (0, n.lastDistance)) ∨
    arrival n.lastDistance heading (destinationTo location w) =
      (1, (destinationTo location w).distance) := by
  unfold arrival
  simp only [real_lt, real_num, real_abs, decide_eq_true_eq]
  push_cast
  split
  · exact .inl rfl
  next hfar =>
    split
    next hclose =>
      split
      next haway =>
        refine .inr (.inl ⟨⟨?_, hclose, haway⟩, rfl⟩)
        norm_num at hfar ⊢
        exact hfar
      next =>
        split
        · exact .inl rfl
        · exact .inr (.inr rfl)
    next => exact .inl rfl

end Rules

/-- The search that stores nothing returns the place of the rover. -/
theorem findClosestPathPoint_none {r : Route ℝ} {location : Location ℝ} {c : Closest ℝ}
    (h : r.findClosestPathPoint location = .ok c) (hindex : c.startWaypointIndex = -1) :
    c.closestPoint = ⟨location.latitude, location.longitude⟩ := by
  refine Loops.foldlM_ok (I := fun c : Closest ℝ => c.startWaypointIndex = -1 →
    c.closestPoint = ⟨location.latitude, location.longitude⟩) ?_ h (fun _ => rfl) hindex
  intro c index c' hc' hc
  unfold Route.visitSegment at hc'
  obtain ⟨org, horg, hc'⟩ := Loops.bind_ok hc'
  obtain ⟨dest, hdest, hc'⟩ := Loops.bind_ok hc'
  obtain rfl := Except.ok.inj hc'
  have hnext : r.nextIndex index ≠ -1 := by
    unfold Route.nextIndex
    split <;> omega
  refine Loops.foldl_range' (fun _ (c : Closest ℝ) => c.startWaypointIndex = -1 →
    c.closestPoint = ⟨location.latitude, location.longitude⟩) _ hc ?_
  intro i c _ _ hinv hnone
  rcases @Closest.visit_keeps _ _ ⟨location.latitude, location.longitude⟩ _ _ _ c i with hk | hk
  · rw [hk] at hnone ⊢
    exact hinv hnone
  · exact absurd (hk.symm.trans hnone) hnext

/-- A rover that goes on looking for the path has found its start: standing on the start point,
it would be on the path. -/
theorem start_found {n : Navigator ℝ} {location : Location ℝ} {heading : ℝ}
    {res : Navigator ℝ × Int × ℝ} (h : n.gotoNextWaypoint location heading = .ok res)
    (hstill : res.1.findingPath = true) : res.1.waypointsIndex ≠ -1 := by
  rcases gotoNextWaypoint_cases h with ⟨-, m, hm, rfl⟩ | ⟨hfinding, w, -, rfl⟩
  · obtain ⟨-, hindex, hgoal, -⟩ := m.approachStart_spec location heading
    rw [hindex]
    intro hnone
    -- the search stored nothing, so the start point is where the rover is
    have hhere : m.startWaypoint.latitude = location.latitude ∧
        m.startWaypoint.longitude = location.longitude := by
      rcases findStart_cases hm with ⟨hne, rfl⟩ | ⟨-, c, hc, rfl⟩
      · exact absurd hnone hne
      · have hpoint := findClosestPathPoint_none hc hnone
        exact ⟨congrArg Point.lat hpoint, congrArg Point.lon hpoint⟩
    have hplace : (m.slowNearStart location).startWaypoint.latitude = location.latitude ∧
        (m.slowNearStart location).startWaypoint.longitude = location.longitude := by
      unfold slowNearStart
      split <;> exact hhere
    have hreached : (arrival m.lastDistance heading (destinationTo location
        (m.slowNearStart location).startWaypoint)).1 = 0 := by
      have hat := m.reached_here (m.slowNearStart location).startWaypoint location.quality heading
      rw [hplace.1, hplace.2] at hat
      exact hat
    rw [if_pos hreached] at hgoal
    exact absurd (hgoal.symm.trans hstill) (by simp)
  · rw [n.followPath_route location heading w] at hstill
    exact absurd hstill (Bool.eq_false_iff.mp hfinding)

end Navigator

/-! ## Trips -/

/-- A navigator, and the distances its calls have measured to the target it has now, since that
is the target. -/
structure Trip (D : Type) where
  navigator : Navigator D
  measured : List D

/-- One call of `GotoNextWaypoint`. -/
structure Call (D : Type) where
  location : Location D
  heading : D

namespace Trip

variable {D : Type} [Dbl D]

/-- What was measured to the target of the next call, which may find a start point first. -/
def earlier (t : Trip D) : List D :=
  if t.navigator.findingPath = true ∧ t.navigator.waypointsIndex = -1 then [] else t.measured

/-- The call, with what it measures. -/
def step (t : Trip D) (call : Call D) : Except Fault (Trip D) :=
  (t.navigator.gotoNextWaypoint call.location call.heading).map fun res =>
    { navigator := res.1
      measured := if res.1.goal = t.navigator.goal then t.earlier ++ [res.2.2] else [] }

open Navigator

/-- The law: when the distance rule reports an arrival, the distance it compares with is 1.0 or was
measured to the same target. -/
def Traced (t : Trip ℝ) (call : Call ℝ) (_ : Trip ℝ) : Prop :=
  ∀ w, t.navigator.target call.location = .ok w →
    t.navigator.ByDistance call.location call.heading w →
      t.navigator.lastDistance = 1 ∨ t.navigator.lastDistance ∈ t.earlier

/-- The condition: where the angle rule takes the navigator to another target, `last_distance` is
1.0 already. -/
def Resets (t : Trip ℝ) (call : Call ℝ) : Prop :=
  ∀ w, t.navigator.target call.location = .ok w → ByAngle call.location call.heading w →
    t.navigator.MovesOn → t.navigator.lastDistance = 1

/-- The invariant. -/
def Owned (t : Trip ℝ) : Prop :=
  t.navigator.lastDistance = 1 ∨ t.navigator.lastDistance ∈ t.earlier

/-- **One call** keeps the invariant. -/
theorem step_owned {t t' : Trip ℝ} {call : Call ℝ} (ht : t.Owned) (hresets : t.Resets call)
    (hstep : Runs.Graph step t call t') : t'.Owned := by
  unfold Runs.Graph step at hstep
  obtain ⟨res, hres, rfl⟩ := Loops.map_ok hstep
  obtain ⟨w, hw, hlast, hremaining, hgoal⟩ := gotoNextWaypoint_spec hres
  -- the calls to come find no new start point
  have hearlier : ∀ ds : List ℝ, Trip.earlier ⟨res.1, ds⟩ = ds := by
    intro ds
    exact if_neg fun hsearch => start_found hres hsearch.1 hsearch.2
  unfold Owned
  rw [hearlier]
  dsimp only
  rcases t.navigator.arrival_cases call.location call.heading w with
    hone | ⟨hangle, harrival⟩ | harrival
  · exact .inl (hlast.trans hone)
  · rw [harrival] at hlast hgoal
    by_cases hmoves : t.navigator.MovesOn
    · exact .inl (hlast.trans (hresets w hw hangle hmoves))
    · -- at the end of the path the target stays
      rw [hlast, if_pos (hgoal (.inr hmoves))]
      exact ht.imp id (List.mem_append_left _)
  · rw [harrival] at hlast hgoal
    rw [hlast, if_pos (hgoal (.inl rfl)), hremaining]
    exact .inr (List.mem_append_right _ (List.mem_singleton.mpr rfl))

end Trip

open Trip in
/-- **No distance leaks to the next target** along a run of calls in which the angle rule leaves
none behind. -/
theorem trip_traced {n : Navigator ℝ} (h : n.lastDistance = 1) {calls : List (Call ℝ)}
    (hcalls : Runs.Along (Runs.Graph step) Resets ⟨n, []⟩ calls) :
    Runs.Steps (Runs.Graph step) Traced ⟨n, []⟩ calls := by
  refine Runs.Steps.guarded (I := Owned) (fun t call t' ht hG hR => step_owned ht hG hR) ?_ hcalls
    (.inl h)
  intro t call t' ht _ _ w _ _
  exact ht

/-! ## Two waypoints less than half a metre apart -/

namespace Trip

open Navigator

/-- About twenty centimetres north of the equator. -/
noncomputable def nearby : Waypoint ℝ := ⟨1 / 500000, 0, 1000⟩

/-- A navigator on its path, on the way to the waypoint nearby, with one before it and one
behind. -/
noncomputable def onPath : Navigator ℝ where
  waypoints := [⟨-1, 0, 1000⟩, nearby, northward]
  waypointsSize := 3
  waypointsIndex := 1
  lastDistance := 1
  startWaypoint := ⟨0, 0, 1000⟩
  startWaypointIndex := 0

/-- The rover stands on the equator. -/
noncomputable def facing (heading : ℝ) : Call ℝ := ⟨equator, heading⟩

/-- The rover has rolled back, as far behind the equator as the waypoint is in front of it. -/
noncomputable def rolledBack : Call ℝ := ⟨⟨-1 / 500000, 0, 4⟩, 0⟩

/-- The waypoint nearby from a place in the south of it. -/
theorem destinationTo_nearby_from {a : ℝ} (ha : a < 1 / 500000) (hfar : -1 ≤ a) (quality : Int) :
    (destinationTo ⟨a, 0, quality⟩ nearby).bearing = 0 ∧
      (destinationTo ⟨a, 0, quality⟩ nearby).distance =
        (1 / 500000 - a) * Real.pi / 180 * 6371000 := by
  have hpoints : destinationTo ⟨a, 0, quality⟩ nearby =
      getDestination (onMeridian a) (onMeridian (1 / 500000)) := rfl
  have hpos : 0 < 1 / 500000 - a := sub_pos.mpr ha
  refine ⟨?_, ?_⟩
  · rw [hpoints, bearing_north ha]
  · rw [hpoints, getDestination_onMeridian (abs_le.mpr ⟨by linarith, by linarith⟩),
      abs_of_pos hpos]

theorem destinationTo_nearby : (destinationTo equator nearby).bearing = 0 ∧
    0.2 < (destinationTo equator nearby).distance ∧
    (destinationTo equator nearby).distance < 0.25 := by
  obtain ⟨hbearing, hdistance⟩ := destinationTo_nearby_from (a := 0) (by norm_num) (by norm_num) 4
  have hlo := Real.pi_gt_three
  have hhi := Real.pi_lt_d2
  refine ⟨hbearing, ?_, ?_⟩
  · refine lt_of_lt_of_eq ?_ hdistance.symm
    linarith
  · refine lt_of_eq_of_lt hdistance ?_
    linarith

/-- From there it is twice as far. -/
theorem destinationTo_rolledBack : (destinationTo rolledBack.location nearby).bearing = 0 ∧
    (destinationTo rolledBack.location nearby).distance =
      2 * (destinationTo equator nearby).distance := by
  obtain ⟨hbearing, hdistance⟩ :=
    destinationTo_nearby_from (a := -1 / 500000) (by norm_num) (by norm_num) 4
  obtain ⟨-, hhalf⟩ := destinationTo_nearby_from (a := 0) (by norm_num) (by norm_num) 4
  have hhalf : (destinationTo equator nearby).distance =
      (1 / 500000 - 0) * Real.pi / 180 * 6371000 := hhalf
  refine ⟨hbearing, hdistance.trans ?_⟩
  rw [hhalf]
  ring

/-- A call on the path. -/
theorem step_followPath {t : Trip ℝ} (hfinding : t.navigator.findingPath = false) {w : Waypoint ℝ}
    (hw : t.navigator.waypointAt t.navigator.waypointsIndex = .ok w) (call : Call ℝ) :
    ∃ t', step t call = .ok t' ∧
      t'.navigator = (t.navigator.followPath call.location call.heading w).1 ∧
      (t'.navigator.waypointsIndex ≠ t.navigator.waypointsIndex → t'.measured = []) := by
  have hcall : t.navigator.gotoNextWaypoint call.location call.heading =
      .ok (t.navigator.followPath call.location call.heading w) := by
    rw [gotoNextWaypoint, if_neg (by simp [hfinding]), hw]
    rfl
  unfold step
  rw [hcall]
  refine ⟨_, rfl, rfl, fun hne => if_neg (goal_ne ?_ hfinding hne)⟩
  rw [t.navigator.followPath_route call.location call.heading w]
  exact hfinding

/-- Facing it, the rover measures the distance to the waypoint nearby. -/
theorem arrival_ahead : arrival 1 0 (destinationTo equator nearby) =
    (1, (destinationTo equator nearby).distance) := by
  obtain ⟨hbearing, hlo, hhi⟩ := destinationTo_nearby
  unfold arrival
  simp only [real_lt, real_num, real_abs, decide_eq_true_eq, hbearing]
  rw [if_neg (by norm_num; linarith), if_pos (by norm_num; linarith), if_neg (by norm_num),
    if_neg (by norm_num; linarith)]

/-- Facing away from it, the rover has arrived, and nothing is measured. -/
theorem arrival_away (last : ℝ) : arrival last 180 (destinationTo equator nearby) = (0, last) := by
  obtain ⟨hbearing, hlo, hhi⟩ := destinationTo_nearby
  unfold arrival
  simp only [real_lt, real_num, real_abs, decide_eq_true_eq, hbearing]
  rw [if_neg (by norm_num; linarith), if_pos (by norm_num; linarith), if_pos (by norm_num)]

/-- Behind it the distance exceeds what was measured. -/
theorem arrival_rolledBack :
    arrival (destinationTo equator nearby).distance 0 (destinationTo rolledBack.location nearby) =
      (0, 1) := by
  obtain ⟨-, hlo, hhi⟩ := destinationTo_nearby
  obtain ⟨hbearing, hdouble⟩ := destinationTo_rolledBack
  unfold arrival
  simp only [real_lt, real_num, real_abs, decide_eq_true_eq, hbearing, hdouble]
  rw [if_neg (by norm_num; linarith), if_pos (by norm_num; linarith), if_neg (by norm_num),
    if_pos (by norm_num; linarith)]
  norm_num

/-- The first call sees the waypoint nearby, and measures its distance. -/
theorem sees_nearby : ∃ t, step ⟨onPath, []⟩ (facing 0) = .ok t ∧ t.navigator.toRoute =
    { onPath.toRoute with lastDistance := (destinationTo equator nearby).distance } := by
  obtain ⟨t, hstep, hnav, -⟩ := step_followPath (t := ⟨onPath, []⟩) rfl (w := nearby) rfl (facing 0)
  refine ⟨t, hstep, ?_⟩
  have hroute := onPath.followPath_route equator 0 nearby
  dsimp only at hroute
  rw [show onPath.lastDistance = 1 from rfl, arrival_ahead, if_neg one_ne_zero] at hroute
  rw [hnav]
  exact hroute

/-- A call that reports its arrival goes on to the last waypoint. -/
theorem goes_on {t : Trip ℝ} {last last' : ℝ}
    (hroute : t.navigator.toRoute = { onPath.toRoute with lastDistance := last }) (call : Call ℝ)
    (harrival : arrival last call.heading (destinationTo call.location nearby) = (0, last')) :
    ∃ t', step t call = .ok t' ∧ t'.measured = [] ∧ t'.navigator.toRoute =
      { onPath.toRoute with lastDistance := last', waypointsIndex := 2 } := by
  obtain ⟨t', hstep, hnav, hmeasured⟩ := step_followPath (t := t) (by rw [hroute]; rfl)
    (w := nearby) (by rw [hroute]; rfl) call
  have hnext := t.navigator.followPath_route call.location call.heading nearby
  have hmoves : t.navigator.advance.1.waypointsIndex = 2 := by
    simp only [advance, hroute]
    rfl
  rw [show t.navigator.lastDistance = last by rw [hroute], harrival] at hnext
  dsimp only at hnext
  rw [← hnav, if_pos rfl, hmoves, hroute] at hnext
  refine ⟨t', hstep, hmeasured ?_, hnext⟩
  have hhere : t.navigator.waypointsIndex = 1 := by
    rw [hroute]
    rfl
  have hthere : t'.navigator.waypointsIndex = 2 := by rw [hnext]
  rw [hhere, hthere]
  decide

/-- On the way to the last waypoint. -/
theorem target_northward {t : Trip ℝ} {last : ℝ} (hroute : t.navigator.toRoute =
      { onPath.toRoute with lastDistance := last, waypointsIndex := 2 }) (location : Location ℝ) :
    t.navigator.target location = .ok northward ∧
      t.navigator.waypointAt t.navigator.waypointsIndex = .ok northward := by
  have hat : t.navigator.waypointAt t.navigator.waypointsIndex = .ok northward := by
    rw [hroute]
    rfl
  have hfinding : t.navigator.findingPath = false := by
    rw [hroute]
    rfl
  rw [target, if_neg (by simp [hfinding])]
  exact ⟨hat, hat⟩

/-- On the way to the waypoint nearby. -/
theorem target_nearby {t : Trip ℝ} {last : ℝ}
    (hroute : t.navigator.toRoute = { onPath.toRoute with lastDistance := last })
    (location : Location ℝ) : t.navigator.target location = .ok nearby := by
  have hfinding : t.navigator.findingPath = false := by
    rw [hroute]
    rfl
  rw [target, if_neg (by simp [hfinding]), hroute]
  rfl

/-- Whoever faces the target does not arrive by the angle. -/
theorem resets_of_facing {t : Trip ℝ} {call : Call ℝ} {w : Waypoint ℝ}
    (hw : t.navigator.target call.location = .ok w)
    (hbearing : (destinationTo call.location w).bearing = call.heading) : t.Resets call := by
  intro w' hw' hangle
  obtain rfl : w = w' := Except.ok.inj (hw.symm.trans hw')
  have haway := hangle.away
  rw [hbearing, sub_self, abs_zero] at haway
  norm_num at haway

/-- The rover sees the waypoint nearby, rolls back, which counts as getting away from it, and goes
on to the next one with a `last_distance` of 1.0. -/
theorem trip_traced_rolledBack : ∃ t₁ t₂ : Trip ℝ, step ⟨onPath, []⟩ (facing 0) = .ok t₁ ∧
    t₁.navigator.ByDistance rolledBack.location rolledBack.heading nearby ∧
    step t₁ rolledBack = .ok t₂ ∧ t₂.navigator.waypointsIndex = 2 ∧
    Runs.Steps (Runs.Graph step) Traced ⟨onPath, []⟩ [facing 0, rolledBack, facing 0] := by
  obtain ⟨hnearby, hlo, hhi⟩ := destinationTo_nearby
  obtain ⟨hrolled, hdouble⟩ := destinationTo_rolledBack
  obtain ⟨t₁, hstep₁, hroute₁⟩ := sees_nearby
  obtain ⟨t₂, hstep₂, -, hroute₂⟩ := goes_on hroute₁ rolledBack arrival_rolledBack
  refine ⟨t₁, t₂, hstep₁, ⟨?_, ?_, ?_, ?_⟩, hstep₂, by rw [hroute₂], ?_⟩
  · rw [hdouble]
    linarith
  · rw [hdouble]
    linarith
  · rw [hrolled]
    norm_num [rolledBack]
  · rw [hdouble, hroute₁]
    norm_num
    linarith
  · refine trip_traced rfl ⟨resets_of_facing rfl hnearby, fun m hm => ?_⟩
    obtain rfl : t₁ = m := Except.ok.inj (hstep₁.symm.trans hm)
    refine ⟨resets_of_facing (target_nearby hroute₁ _) hrolled, fun m hm => ?_⟩
    obtain rfl : t₂ = m := Except.ok.inj (hstep₂.symm.trans hm)
    exact ⟨resets_of_facing (target_northward hroute₂ _).1 destinationTo_northward.1,
      fun _ _ => trivial⟩

/-- The rover sees the waypoint nearby at twenty centimetres, turns round, which counts as an
arrival, and turns back: the next waypoint is at half a metre, which counts as getting
away from it. -/
theorem trip_leaks : onPath.lastDistance = 1 ∧
    ¬ Runs.Steps (Runs.Graph step) Traced ⟨onPath, []⟩ [facing 0, facing 180, facing 0] := by
  refine ⟨rfl, ?_⟩
  intro htraced
  obtain ⟨-, hlo, hhi⟩ := destinationTo_nearby
  obtain ⟨hbearing', hlo', hhi'⟩ := destinationTo_northward
  obtain ⟨t₁, hstep₁, hroute₁⟩ := sees_nearby
  -- the second call moves on, and keeps the distance
  obtain ⟨t₂, hstep₂, hmeasured, hroute₂⟩ := goes_on hroute₁ (facing 180) (arrival_away _)
  obtain ⟨htarget, hat⟩ := target_northward hroute₂ equator
  have hfinding : t₂.navigator.findingPath = false := by
    rw [hroute₂]
    rfl
  have hlast : t₂.navigator.lastDistance = (destinationTo equator nearby).distance := by
    rw [hroute₂]
  -- the third call compares it with the distance to the next waypoint
  obtain ⟨t₃, hstep₃, -, -⟩ := step_followPath hfinding hat (facing 0)
  have hdistance : t₂.navigator.ByDistance equator 0 northward := by
    refine ⟨by linarith, by linarith, ?_, ?_⟩
    · rw [hbearing']
      norm_num
    · rw [hlast]
      linarith
  have hlaw := ((((htraced t₁ hstep₁).2 t₂ hstep₂).2 t₃ hstep₃).1) northward htarget hdistance
  have hearlier : t₂.earlier = [] := by
    rw [earlier, if_neg (by simp [hfinding])]
    exact hmeasured
  rw [hearlier, hlast] at hlaw
  rcases hlaw with hone | hmem
  · linarith
  · exact absurd hmem List.not_mem_nil

end Trip

end Solarbot.Nav
