import Solarbot.Nav.Search

/-!
# Waypoints in order

A row of calls of `GotoNextWaypoint` from a rover that is on its path. `drive` makes the
calls one after the other, until one returns `NAVIGATOR_DONE`, and keeps of each
the navigator before and after it. `InOrder` is what such a call may do to the
index: nothing unless `GotoWaypoint` says that the current waypoint was reached, and then the
one step that the order of the file gives.
-/

namespace Solarbot.Nav

variable {D : Type} [Dbl D]

/-- A call of `GotoNextWaypoint`. -/
structure Visit (D : Type) where
  before : Navigator D
  location : Location D
  heading : D
  after : Navigator D
  /-- The value it returned. -/
  returned : Int

namespace Navigator

/-- The calls of `GotoNextWaypoint`, ended by the first `NAVIGATOR_DONE`. -/
def drive (n : Navigator D) : List (Location D × D) → Except Fault (List (Visit D))
  | [] => return []
  | (location, heading) :: calls => do
    let (n', r, _) ← n.gotoNextWaypoint location heading
    let visit : Visit D := { before := n, location, heading, after := n', returned := r }
    if r = Err.navigatorDone then return [visit]
    else return visit :: (← n'.drive calls)

/-- The visits of a row of calls: each is the call it is named for, from the state that the one before
it left, and the row is cut off behind the first `NAVIGATOR_DONE` alone. -/
structure Makes (n : Navigator D) (calls : List (Location D × D)) (visits : List (Visit D)) :
    Prop where
  made : visits.map (fun v => (v.location, v.heading)) <+: calls
  first : ∀ v ∈ visits.head?, v.before = n
  chained : visits.IsChain fun v v' => v'.before = v.after
  call : ∀ v ∈ visits, ∃ remaining,
    v.before.gotoNextWaypoint v.location v.heading = .ok (v.after, v.returned, remaining)
  goesOn : ∀ v ∈ visits.dropLast, v.returned ≠ Err.navigatorDone
  ends : visits.length < calls.length → ∃ v ∈ visits.getLast?, v.returned = Err.navigatorDone

end Navigator

/-- The rover follows the path that this route describes, and has a current waypoint. -/
structure Follows (r : Route D) (n : Navigator D) : Prop where
  located : n.Located
  findingPath : n.findingPath = false
  waypoints : n.waypoints = r.waypoints
  loopNavigate : n.loopNavigate = r.loopNavigate

namespace Visit

variable (v : Visit D)

/-- `GotoWaypoint` says that the current waypoint is reached. -/
def Arrived : Prop :=
  ∃ w, v.before.waypointAt v.before.waypointsIndex = .ok w ∧
    (v.before.gotoWaypoint v.location v.heading w).2.1 = 0

/-- The current waypoint is the last one of the file. -/
def AtLast : Prop := v.before.waypointsIndex + 1 = v.before.waypoints.length

structure InOrder (r : Route D) : Prop where
  before : Follows r v.before
  after : Follows r v.after
  moves : v.after.waypointsIndex ≠ v.before.waypointsIndex → v.Arrived
  next : v.Arrived → ¬ v.AtLast → v.after.waypointsIndex = v.before.waypointsIndex + 1
  wraps : v.Arrived → v.AtLast → r.loopNavigate = true → v.after.waypointsIndex = 0
  done : v.returned = Err.navigatorDone ↔ v.Arrived ∧ v.AtLast ∧ r.loopNavigate = false
  stays : v.returned = Err.navigatorDone → v.after.waypointsIndex + 1 = r.waypoints.length

namespace InOrder

variable {v} {r : Route D}

/-- The rover is still on its way, and the index stays. -/
theorem of_underway (hbefore : Follows r v.before) (hafter : Follows r v.after)
    (hno : ¬ v.Arrived) (hindex : v.after.waypointsIndex = v.before.waypointsIndex)
    (hreturned : v.returned = 0) : v.InOrder r := by
  have hdone : ¬ v.returned = Err.navigatorDone :=
    fun h => Err.zero_ne_navigatorDone (hreturned.symm.trans h)
  exact
    { before := hbefore
      after := hafter
      moves := fun h => absurd hindex h
      next := fun h => absurd h hno
      wraps := fun h => absurd h hno
      done := iff_of_false hdone fun h => hno h.1
      stays := fun h => absurd h hdone }

/-- At a waypoint the rover goes on to the next one, starts over behind the last, or is done. -/
theorem of_arrived (hbefore : Follows r v.before) (hafter : Follows r v.after) (harrived : v.Arrived)
    (h : (v.before.waypointsIndex + 1 < v.before.waypoints.length ∧
        v.after.waypointsIndex = v.before.waypointsIndex + 1 ∧ v.returned = 0) ∨
      (v.AtLast ∧ r.loopNavigate = true ∧ v.after.waypointsIndex = 0 ∧ v.returned = 0) ∨
      (v.AtLast ∧ r.loopNavigate = false ∧
        v.after.waypointsIndex = v.before.waypointsIndex ∧ v.returned = Err.navigatorDone)) :
    v.InOrder r := by
  have hdone : v.returned = 0 → ¬ v.returned = Err.navigatorDone :=
    fun hreturned h => Err.zero_ne_navigatorDone (hreturned.symm.trans h)
  rcases h with ⟨hmiddle, hnext, hreturned⟩ | ⟨hlast, hloop, hnext, hreturned⟩ |
    ⟨hlast, hloop, hnext, hreturned⟩
  · have hno : ¬ v.AtLast := ne_of_lt hmiddle
    exact
      { before := hbefore
        after := hafter
        moves := fun _ => harrived
        next := fun _ _ => hnext
        wraps := fun _ h => absurd h hno
        done := iff_of_false (hdone hreturned) fun h => hno h.2.1
        stays := fun h => absurd h (hdone hreturned) }
  · exact
      { before := hbefore
        after := hafter
        moves := fun _ => harrived
        next := fun _ h => absurd hlast h
        wraps := fun _ _ _ => hnext
        done := iff_of_false (hdone hreturned) fun h =>
          Bool.false_ne_true (h.2.2.symm.trans hloop)
        stays := fun h => absurd h (hdone hreturned) }
  · have hend : v.after.waypointsIndex + 1 = r.waypoints.length := by
      rw [hnext, ← hbefore.waypoints]
      exact hlast
    exact
      { before := hbefore
        after := hafter
        moves := fun _ => harrived
        next := fun _ h => absurd hlast h
        wraps := fun _ _ h => absurd (hloop.symm.trans h) Bool.false_ne_true
        done := iff_of_true hreturned ⟨harrived, hlast, hloop⟩
        stays := fun _ => hend }

end InOrder

end Visit

namespace Navigator

variable {n : Navigator D} {r : Route D}

omit [Dbl D] in
/-- Where `advance` goes. -/
theorem advance_follows (h : Follows r n) :
    Follows r n.advance.1 ∧
      ((n.waypointsIndex + 1 < n.waypoints.length ∧
          n.advance.1.waypointsIndex = n.waypointsIndex + 1 ∧ n.advance.2 = 0) ∨
        (n.waypointsIndex + 1 = n.waypoints.length ∧ r.loopNavigate = true ∧
          n.advance.1.waypointsIndex = 0 ∧ n.advance.2 = 0) ∨
        (n.waypointsIndex + 1 = n.waypoints.length ∧ r.loopNavigate = false ∧
          n.advance.1.waypointsIndex = n.waypointsIndex ∧ n.advance.2 = Err.navigatorDone)) := by
  have hloc := advance_located h.located
  have hsize := h.located.size
  have hupper := h.located.upper
  have hloop := h.loopNavigate
  revert hloc
  simp only [advance]
  split
  next hend =>
    have hlast : n.waypointsIndex + 1 = n.waypoints.length := by omega
    split
    next hl =>
      intro hloc
      exact ⟨⟨hloc, h.findingPath, h.waypoints, hloop⟩,
        .inr (.inl ⟨hlast, hloop ▸ hl, rfl, rfl⟩)⟩
    next hl =>
      intro hloc
      refine ⟨⟨hloc, h.findingPath, h.waypoints, hloop⟩, .inr (.inr ⟨hlast, ?_, ?_, rfl⟩)⟩
      · rw [← hloop]
        exact Bool.not_eq_true _ ▸ hl
      · exact Int.add_sub_cancel _ _
  next hend =>
    intro hloc
    exact ⟨⟨hloc, h.findingPath, h.waypoints, hloop⟩, .inl ⟨by omega, rfl, rfl⟩⟩

/-- Of the route `GotoWaypoint` changes `last_distance` alone. -/
theorem gotoWaypoint_follows (h : Follows r n) (location : Location D) (heading : D)
    (w : Waypoint D) :
    Follows r (n.gotoWaypoint location heading w).1 ∧
      (n.gotoWaypoint location heading w).1.waypointsIndex = n.waypointsIndex ∧
      (n.gotoWaypoint location heading w).1.waypoints = n.waypoints := by
  obtain ⟨last, hroute⟩ := n.gotoWaypoint_toRoute location heading w
  refine ⟨⟨gotoWaypoint_located h.located location heading w, ?_, ?_, ?_⟩, ?_, ?_⟩
  · rw [hroute]
    exact h.findingPath
  · rw [hroute]
    exact h.waypoints
  · rw [hroute]
    exact h.loopNavigate
  · rw [hroute]
  · rw [hroute]

/-- **One call** is in order. -/
theorem gotoNextWaypoint_inOrder (h : Follows r n) (location : Location D) (heading : D) :
    ∃ n' returned remaining, n.gotoNextWaypoint location heading = .ok (n', returned, remaining) ∧
      Visit.InOrder { before := n, location, heading, after := n', returned } r := by
  obtain ⟨w, hw⟩ := h.located.waypointAt
  obtain ⟨hgoto, hindex, hwaypoints⟩ := gotoWaypoint_follows h location heading w
  have hoff : ¬ n.findingPath = true := by
    rw [h.findingPath]
    exact Bool.false_ne_true
  have hcall : n.gotoNextWaypoint location heading = .ok (n.followPath location heading w) := by
    rw [gotoNextWaypoint, if_neg hoff, hw]
    rfl
  by_cases hr : (n.gotoWaypoint location heading w).2.1 = 0
  · obtain ⟨hadvance, hcases⟩ := advance_follows hgoto
    rw [hindex, hwaypoints] at hcases
    have hfollow : n.followPath location heading w =
        ((n.gotoWaypoint location heading w).1.advance.1,
          (n.gotoWaypoint location heading w).1.advance.2,
          (n.gotoWaypoint location heading w).2.2) := by
      simp only [followPath, if_pos hr]
    rw [hfollow] at hcall
    exact ⟨_, _, _, hcall, .of_arrived h hadvance ⟨w, hw, hr⟩ hcases⟩
  · have hfollow : n.followPath location heading w =
        ((n.gotoWaypoint location heading w).1, 0, (n.gotoWaypoint location heading w).2.2) := by
      simp only [followPath, if_neg hr]
    rw [hfollow] at hcall
    refine ⟨_, _, _, hcall, .of_underway h hgoto ?_ hindex rfl⟩
    rintro ⟨w', hw', hr'⟩
    obtain rfl : w = w' := Except.ok.inj (hw.symm.trans hw')
    exact hr hr'

theorem Makes.nil (n : Navigator D) : n.Makes [] [] where
  made := List.prefix_rfl
  first _ hv := absurd hv (by simp)
  chained := .nil
  call _ hv := absurd hv List.not_mem_nil
  goesOn _ hv := absurd hv List.not_mem_nil
  ends h := absurd h (Nat.lt_irrefl 0)

section Calls

variable {location : Location D} {heading : D} {calls : List (Location D × D)} {n' : Navigator D}
  {returned : Int} {remaining : D}

/-- The row is over. -/
theorem Makes.done (h : n.gotoNextWaypoint location heading = .ok (n', returned, remaining))
    (hdone : returned = Err.navigatorDone) :
    n.Makes ((location, heading) :: calls) [⟨n, location, heading, n', returned⟩] where
  made := List.cons_prefix_cons.mpr ⟨rfl, List.nil_prefix⟩
  first v hv := (Option.some.inj hv) ▸ rfl
  chained := .singleton _
  call v hv := ⟨remaining, by rw [List.mem_singleton.mp hv]; exact h⟩
  goesOn _ hv := absurd hv List.not_mem_nil
  ends _ := ⟨_, rfl, hdone⟩

/-- The row goes on behind a call. -/
theorem Makes.cons (h : n.gotoNextWaypoint location heading = .ok (n', returned, remaining))
    (hgoes : returned ≠ Err.navigatorDone) {visits : List (Visit D)}
    (hrest : n'.Makes calls visits) :
    n.Makes ((location, heading) :: calls) (⟨n, location, heading, n', returned⟩ :: visits) where
  made := List.cons_prefix_cons.mpr ⟨rfl, hrest.made⟩
  first v hv := (Option.some.inj hv) ▸ rfl
  chained := List.isChain_cons.mpr ⟨hrest.first, hrest.chained⟩
  call v hv := by
    rcases List.mem_cons.mp hv with rfl | hv
    · exact ⟨remaining, h⟩
    · exact hrest.call v hv
  goesOn v hv := by
    cases visits with
    | nil => exact absurd hv List.not_mem_nil
    | cons v' visits =>
      rw [List.dropLast_cons_cons] at hv
      rcases List.mem_cons.mp hv with rfl | hv
      · exact hgoes
      · exact hrest.goesOn v hv
  ends hshort := by
    obtain ⟨v, hv, hdone⟩ := hrest.ends (Nat.lt_of_succ_lt_succ hshort)
    cases visits with
    | nil => exact absurd hv (by simp)
    | cons v' visits => exact ⟨v, by rw [List.getLast?_cons_cons]; exact hv, hdone⟩

end Calls

/-- A row of calls, up to the first `NAVIGATOR_DONE`. -/
theorem drive_inOrder (h : Follows r n) (calls : List (Location D × D)) :
    ∃ visits, n.drive calls = .ok visits ∧ n.Makes calls visits ∧ ∀ v ∈ visits, v.InOrder r := by
  induction calls generalizing n with
  | nil => exact ⟨[], rfl, .nil n, fun v hv => absurd hv List.not_mem_nil⟩
  | cons call calls ih =>
    obtain ⟨location, heading⟩ := call
    obtain ⟨n', returned, remaining, hcall, horder⟩ := gotoNextWaypoint_inOrder h location heading
    obtain ⟨visits, hvisits, hmakes, hrest⟩ := ih horder.after
    by_cases hdone : returned = Err.navigatorDone
    · refine ⟨[⟨n, location, heading, n', returned⟩], ?_, .done hcall hdone, ?_⟩
      · simp [drive, hcall, hdone, bind, Except.bind, pure, Except.pure]
      · intro v hv
        rw [List.mem_singleton.mp hv]
        exact horder
    · refine ⟨⟨n, location, heading, n', returned⟩ :: visits, ?_, hmakes.cons hcall hdone, ?_⟩
      · simp [drive, hcall, hdone, hvisits, bind, Except.bind, pure, Except.pure]
      · intro v hv
        rcases List.mem_cons.mp hv with rfl | hv
        · exact horder
        · exact hrest v hv

/-- **Waypoints are followed in order.** From any navigator that is on its path with its index
in range, for any row of calls with any locations and headings: the calls are made one after the
other up to the first `NAVIGATOR_DONE`, and each is in order. -/
theorem waypoints_in_order (n : Navigator D) (hfinding : n.findingPath = false)
    (hsize : n.waypointsSize = n.waypoints.length)
    (hindex : 0 ≤ n.waypointsIndex ∧ n.waypointsIndex < n.waypointsSize)
    (calls : List (Location D × D)) :
    ∃ visits, n.drive calls = .ok visits ∧ n.Makes calls visits ∧
      ∀ v ∈ visits, v.InOrder n.toRoute :=
  drive_inOrder ⟨⟨hsize, hindex.1, hindex.2⟩, hfinding, rfl, rfl⟩ calls

/-- A rover with two waypoints, on its way to the second. -/
noncomputable def onLastLeg : Navigator ℝ :=
  { Navigator.new ⟨0, 0, 1000⟩ 0 with
    waypoints := [⟨0, 0, 1000⟩, ⟨0, 1, 1000⟩]
    waypointsSize := 2
    waypointsIndex := 1 }

theorem waypoints_in_order_lastLeg : ∃ visits,
    onLastLeg.drive [(⟨0, 0, 4⟩, 90), (⟨0, 1, 4⟩, 90)] = .ok visits ∧
      onLastLeg.Makes [(⟨0, 0, 4⟩, 90), (⟨0, 1, 4⟩, 90)] visits ∧
      ∀ v ∈ visits, v.InOrder onLastLeg.toRoute :=
  waypoints_in_order onLastLeg rfl rfl ⟨by decide, by decide⟩ _

end Navigator

end Solarbot.Nav
