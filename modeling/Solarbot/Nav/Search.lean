import Solarbot.Nav.Path

/-!
# What the search for the path can store

`findClosestPathPoint_spec`: on a route whose size is that of its list, the search
never leaves the vector, and it stores an index exactly when the path has a sample
point at a finite distance (`PathSampled`). The invariant of both loops is
`Searching`: nothing found yet and the two minima untouched, or the index in range.
-/

namespace Solarbot.Nav

variable {D : Type} [Dbl D]

/-- The `i`-th sample of a segment is at a finite distance from the rover and from
the segment's end. -/
def Finite (myPoint org dest : Point D) (i : Nat) : Prop :=
  Dbl.lt (distanceBetweenPoints myPoint (samplePoint org dest i)) Dbl.max = true ∧
    Dbl.lt (distanceBetweenPoints (samplePoint org dest i) dest) Dbl.max = true

/-- Some sample of the segment is at a finite distance. -/
def SegmentSampled (myPoint org dest : Point D) : Prop :=
  ∃ i : Nat, 1 ≤ i ∧ (i : Int) < steps org dest ∧ Finite myPoint org dest i

/-- Nothing is stored yet and the minimum is where it started, or the index of a
waypoint is stored. -/
def Searching (index size : Int) (found : Prop) (c : Closest D) : Prop :=
  (¬ found ∧ c.closestDistance = Dbl.max ∧ c.startWaypointIndex = index) ∨
    (found ∧ 0 ≤ c.startWaypointIndex ∧ c.startWaypointIndex < size)

namespace Closest

variable {myPoint org dest : Point D} {next : Int} {c : Closest D}

/-- A round keeps the candidate, or takes the next waypoint. -/
theorem visit_keeps (i : Nat) : c.visit myPoint org dest next i = c ∨
    (c.visit myPoint org dest next i).startWaypointIndex = next := by
  simp only [visit]
  split
  · split
    · exact .inr rfl
    · exact .inl rfl
  · exact .inl rfl

/-- The first finite sample is stored. -/
theorem visit_finite (hd : c.closestDistance = Dbl.max)
    (hn : c.closestDistanceToNextWaypoint = Dbl.max) {i : Nat} (h : Finite myPoint org dest i) :
    (c.visit myPoint org dest next i).startWaypointIndex = next := by
  simp only [visit, hd, hn, h.1, h.2, if_true]

/-- A sample at no finite distance is skipped. -/
theorem visit_infinite (hd : c.closestDistance = Dbl.max)
    (hn : c.closestDistanceToNextWaypoint = Dbl.max) {i : Nat} (h : ¬ Finite myPoint org dest i) :
    c.visit myPoint org dest next i = c := by
  simp only [visit, hd, hn]
  split
  next h1 => exact if_neg fun h2 => h ⟨h1, h2⟩
  next => rfl

/-- The samples `1 .. i - 1` of a segment, as the inner loop has left them. -/
theorem segment_searching {index size : Int} {found : Prop} (h0 : 0 ≤ next) (hnext : next < size)
    (hc : Searching index size found c) :
    Searching index size (found ∨ SegmentSampled myPoint org dest)
      (c.segment myPoint org dest next) := by
  rcases hc with ⟨hnf, hd, hi⟩ | ⟨hf, hlo, hhi⟩
  · -- nothing found before this segment: the first finite sample of it decides
    let seen (k : Nat) : Prop := ∃ i, 1 ≤ i ∧ i < k ∧ Finite myPoint org dest i
    have hloop := Loops.foldl_range' (f := visit myPoint org dest next)
      (fun k c => (¬ seen k ∧ c.closestDistance = Dbl.max ∧
          c.closestDistanceToNextWaypoint = Dbl.max ∧ c.startWaypointIndex = index) ∨
        (seen k ∧ c.startWaypointIndex = next))
      (a := 1) ((steps org dest).toNat - 1)
      (b := { c with closestDistanceToNextWaypoint := Dbl.max })
      (.inl ⟨by rintro ⟨i, h1, h2, -⟩; omega, hd, rfl, hi⟩) ?_
    · rcases hloop with ⟨hns, hdist, -, hidx⟩ | ⟨⟨i, h1, hlt, hfin⟩, hidx⟩
      · refine .inl ⟨?_, hdist, hidx⟩
        intro hor
        rcases hor with hf | ⟨i, h1, hlt, hfin⟩
        · exact hnf hf
        · exact hns ⟨i, h1, by omega, hfin⟩
      · have hseg : (c.segment myPoint org dest next).startWaypointIndex = next := hidx
        rw [Searching, hseg]
        exact .inr ⟨.inr ⟨i, h1, by omega, hfin⟩, h0, hnext⟩
    · intro k c hk1 _ hinv
      -- what this round adds to the samples seen
      have hsucc : seen (k + 1) ↔ seen k ∨ Finite myPoint org dest k := by
        constructor
        · intro hsampled
          obtain ⟨i, h1, hlt, hfin⟩ := hsampled
          rcases Nat.lt_succ_iff_lt_or_eq.mp hlt with hlt | rfl
          · exact .inl ⟨i, h1, hlt, hfin⟩
          · exact .inr hfin
        · intro hor
          rcases hor with ⟨i, h1, hlt, hfin⟩ | hfin
          · exact ⟨i, h1, by omega, hfin⟩
          · exact ⟨k, hk1, by omega, hfin⟩
      rw [hsucc]
      rcases hinv with ⟨hns, hd, hn, hi⟩ | ⟨hs, hi⟩
      · by_cases hfin : Finite myPoint org dest k
        · exact .inr ⟨.inr hfin, visit_finite hd hn hfin⟩
        · rw [visit_infinite hd hn hfin]
          exact .inl ⟨not_or.mpr ⟨hns, hfin⟩, hd, hn, hi⟩
      · refine .inr ⟨.inl hs, ?_⟩
        rcases c.visit_keeps k with hk | hk
        · rw [hk]
          exact hi
        · exact hk
  · -- an index was stored before: it stays one
    have hloop := Loops.foldl_range' (f := visit myPoint org dest next)
      (fun _ c => 0 ≤ c.startWaypointIndex ∧ c.startWaypointIndex < size)
      (a := 1) ((steps org dest).toNat - 1)
      (b := { c with closestDistanceToNextWaypoint := Dbl.max }) ⟨hlo, hhi⟩ ?_
    · exact .inr ⟨.inl hf, hloop⟩
    · intro k c _ _ hinv
      rcases c.visit_keeps k with hk | hk
      · rw [hk]
        exact hinv
      · rw [hk]
        exact ⟨h0, hnext⟩

end Closest

namespace Route

variable (r : Route D)

omit [Dbl D] in
/-- The accesses that do not fault are those inside the vector. -/
theorem waypointAt_ok_iff {index : Int} :
    (∃ w, r.waypointAt index = .ok w) ↔ 0 ≤ index ∧ index < r.waypoints.length := by
  unfold waypointAt
  split
  next h => exact iff_of_true ⟨_, rfl⟩ ⟨h.1, by omega⟩
  next h => exact iff_of_false (by simp) (by omega)

omit [Dbl D] in
theorem waypointAt_getElem {index : Int} {w : Waypoint D} (h : 0 ≤ index)
    (hw : r.waypoints[index.toNat]? = some w) : r.waypointAt index = .ok w := by
  obtain ⟨hlt, hget⟩ := List.getElem?_eq_some_iff.mp hw
  rw [waypointAt, dif_pos ⟨h, hlt⟩, hget]

omit [Dbl D] in
/-- The end of a segment is a waypoint. -/
theorem nextIndex_range {index : Nat} (h : (index : Int) < r.waypointsSize) :
    0 ≤ r.nextIndex index ∧ r.nextIndex index < r.waypointsSize := by
  unfold nextIndex
  split
  · exact ⟨le_refl 0, by omega⟩
  · exact ⟨by omega, by omega⟩

/-- A segment between two waypoints is searched. -/
theorem visitSegment_ok {index : Nat} {org dest : Waypoint D} (horg : r.waypointAt index = .ok org)
    (hdest : r.waypointAt (r.nextIndex index) = .ok dest) (myPoint : Point D) (c : Closest D) :
    r.visitSegment myPoint c index =
      .ok (c.segment myPoint org.point dest.point (r.nextIndex index)) := by
  unfold visitSegment
  rw [horg, hdest]
  rfl

/-- The segment from waypoint `index` has a sample at a finite distance. -/
def SampledAt (location : Location D) (index : Nat) : Prop :=
  ∃ org dest, r.waypointAt index = .ok org ∧ r.waypointAt (r.nextIndex index) = .ok dest ∧
    SegmentSampled ⟨location.latitude, location.longitude⟩ org.point dest.point

/-- Some segment of the closed path has a sample at a finite distance: the search
from `location` has something to find. -/
def PathSampled (location : Location D) : Prop :=
  ∃ index : Nat, (index : Int) < r.waypointsSize ∧ r.SampledAt location index

/-- **The search stays inside the vector**, and it stores an index exactly when
the path is sampled; otherwise it stores nothing. -/
theorem findClosestPathPoint_spec (hsize : r.waypointsSize = r.waypoints.length)
    (location : Location D) :
    ∃ c, r.findClosestPathPoint location = .ok c ∧
      Searching r.waypointsIndex r.waypointsSize (r.PathSampled location) c := by
  -- the invariant of the outer loop speaks of the segments it has been to
  let sampledBelow (k : Nat) : Prop := ∃ index : Nat, index < k ∧ r.SampledAt location index
  have hloop := Loops.foldlM_range
    (f := r.visitSegment ⟨location.latitude, location.longitude⟩)
    (fun k c => Searching r.waypointsIndex r.waypointsSize (sampledBelow k) c)
    r.waypointsSize.toNat
    (b := ⟨⟨location.latitude, location.longitude⟩, Dbl.max, Dbl.max, r.waypointsIndex⟩)
    (.inl ⟨by rintro ⟨i, hi, -⟩; omega, rfl, rfl⟩) ?_
  · obtain ⟨c, hc, hs⟩ := hloop
    refine ⟨c, hc, ?_⟩
    have hfound : sampledBelow r.waypointsSize.toNat ↔ r.PathSampled location := by
      refine exists_congr fun index => and_congr_left fun _ => ?_
      omega
    rw [← hfound]
    exact hs
  · intro k c hk hc
    have hk' : (k : Int) < r.waypointsSize := by omega
    obtain ⟨h0, hnext⟩ := r.nextIndex_range hk'
    obtain ⟨org, horg⟩ := (@Route.waypointAt_ok_iff _ r k).mpr ⟨by omega, by omega⟩
    obtain ⟨dest, hdest⟩ := r.waypointAt_ok_iff.mpr ⟨h0, by omega⟩
    refine ⟨_, r.visitSegment_ok horg hdest _ c, ?_⟩
    have hsucc : sampledBelow (k + 1) ↔ sampledBelow k ∨
        SegmentSampled ⟨location.latitude, location.longitude⟩ org.point dest.point := by
      constructor
      · intro hsampled
        obtain ⟨i, hi, hsi⟩ := hsampled
        rcases Nat.lt_succ_iff_lt_or_eq.mp hi with hi | rfl
        · exact .inl ⟨i, hi, hsi⟩
        · obtain ⟨o, d, ho, hd, hs⟩ := hsi
          rw [horg, Except.ok.injEq] at ho
          rw [hdest, Except.ok.injEq] at hd
          rw [ho, hd]
          exact .inr hs
      · intro hor
        rcases hor with ⟨i, hi, hsi⟩ | hs
        · exact ⟨i, by omega, hsi⟩
        · exact ⟨k, by omega, org, dest, horg, hdest, hs⟩
    rw [hsucc]
    exact Closest.segment_searching h0 hnext hc

end Route

/-- On `ℝ` all distances are finite: a segment of two metres has a sample. -/
theorem segmentSampled_real {myPoint org dest : Point ℝ} (h : 1 < steps org dest) :
    SegmentSampled myPoint org dest :=
  ⟨1, le_refl 1, h, distanceBetweenPoints_lt_max .., distanceBetweenPoints_lt_max ..⟩

/-! ## One step of the path -/

namespace Route

/-- The size is that of the list, and the index is that of a waypoint or `-1`. -/
structure Sound (r : Route D) : Prop where
  size : r.waypointsSize = r.waypoints.length
  lower : -1 ≤ r.waypointsIndex
  upper : r.waypointsIndex < r.waypointsSize

/-- The route has a current waypoint. -/
structure Located (r : Route D) : Prop where
  size : r.waypointsSize = r.waypoints.length
  lower : 0 ≤ r.waypointsIndex
  upper : r.waypointsIndex < r.waypointsSize

variable {r : Route D}

omit [Dbl D] in
theorem Located.sound (h : r.Located) : r.Sound :=
  ⟨h.size, by have := h.lower; omega, h.upper⟩

omit [Dbl D] in
theorem Sound.located (h : r.Sound) (hidx : r.waypointsIndex ≠ -1) : r.Located :=
  ⟨h.size, by have := h.lower; omega, h.upper⟩

omit [Dbl D] in
/-- Where there is a current waypoint, it can be read. -/
theorem Located.waypointAt (h : r.Located) : ∃ w, r.waypointAt r.waypointsIndex = .ok w :=
  r.waypointAt_ok_iff.mpr ⟨h.lower, h.size ▸ h.upper⟩

end Route

namespace Navigator

variable {n : Navigator D}

/-- The current waypoint stays one on the way to it. -/
theorem gotoWaypoint_located (h : n.Located) (location : Location D) (heading : D)
    (waypoint : Waypoint D) : (n.gotoWaypoint location heading waypoint).1.Located := by
  obtain ⟨last, hroute⟩ := n.gotoWaypoint_toRoute location heading waypoint
  rw [hroute]
  exact ⟨h.size, h.lower, h.upper⟩

omit [Dbl D] in
/-- Past the last waypoint the index goes back to the first one, or stays. -/
theorem advance_located (h : n.Located) : n.advance.1.Located := by
  obtain ⟨hsize, hlower, hupper⟩ := h
  simp only [advance]
  split
  next hend =>
    split
    · exact ⟨hsize, le_refl 0, lt_of_le_of_lt hlower hupper⟩
    · exact ⟨hsize, by dsimp only; omega, by dsimp only; omega⟩
  next hend => exact ⟨hsize, by dsimp only; omega, not_le.mp hend⟩

/-- And while the rover slows down. -/
theorem slowNearStart_located (h : n.Located) (location : Location D) :
    (n.slowNearStart location).Located := by
  unfold slowNearStart
  split
  · exact ⟨h.size, h.lower, h.upper⟩
  · exact h

/-- The search finds the start of a path that can be searched. -/
theorem findStart_located (h : n.Sound) {location : Location D}
    (hstart : n.waypointsIndex = -1 → n.PathSampled location) :
    ∃ n', n.findStart location = .ok n' ∧ n'.Located := by
  unfold findStart
  split
  next hidx =>
    obtain ⟨c, hc, ⟨hns, -, -⟩ | ⟨-, hlo, hhi⟩⟩ := n.findClosestPathPoint_spec h.size location
    · exact absurd (hstart hidx) hns
    · rw [hc]
      exact ⟨_, rfl, h.size, hlo, hhi⟩
  next hidx => exact ⟨n, rfl, h.located hidx⟩

/-- And on the way to the start point. -/
theorem approachStart_located (h : n.Located) (location : Location D) (heading : D) :
    (n.approachStart location heading).1.Located := by
  have hgoto := gotoWaypoint_located (slowNearStart_located h location) location heading
    (n.slowNearStart location).startWaypoint
  simp only [approachStart]
  split
  · exact ⟨hgoto.size, hgoto.lower, hgoto.upper⟩
  · exact hgoto

/-- And when the next one becomes current. -/
theorem followPath_located (h : n.Located) (location : Location D) (heading : D)
    (waypoint : Waypoint D) : (n.followPath location heading waypoint).1.Located := by
  have hgoto := gotoWaypoint_located h location heading waypoint
  simp only [followPath]
  split
  · exact advance_located hgoto
  · exact hgoto

/-- **A call of `GotoNextWaypoint` stays inside the vector** when there is a
current waypoint, or else a path that can be searched; it leaves a current
waypoint. -/
theorem gotoNextWaypoint_located (h : n.Sound) {location : Location D} (heading : D)
    (hstart : n.waypointsIndex = -1 → n.findingPath = true ∧ n.PathSampled location) :
    ∃ res, n.gotoNextWaypoint location heading = .ok res ∧ res.1.Located := by
  by_cases hfinding : n.findingPath = true
  · obtain ⟨m, hm, hloc⟩ := findStart_located h fun hidx => (hstart hidx).2
    rw [gotoNextWaypoint, if_pos hfinding, hm]
    exact ⟨_, rfl, approachStart_located hloc location heading⟩
  · have hloc : n.Located := h.located fun hidx => hfinding (hstart hidx).1
    obtain ⟨w, hw⟩ := hloc.waypointAt
    rw [gotoNextWaypoint, if_neg hfinding, hw]
    exact ⟨_, rfl, followPath_located hloc location heading w⟩

/-- Without a current waypoint and off the search, the next call leaves the
vector. -/
theorem gotoNextWaypoint_faults (hidx : n.waypointsIndex = -1) (hfinding : n.findingPath = false)
    (location : Location D) (heading : D) :
    n.gotoNextWaypoint location heading = .error (.outOfRange (-1) n.waypoints.length) := by
  have hat : n.waypointAt n.waypointsIndex = .error (.outOfRange (-1) n.waypoints.length) := by
    rw [hidx, Route.waypointAt, dif_neg (by omega)]
  rw [gotoNextWaypoint, if_neg (by simp [hfinding]), hat]
  rfl

/-- `GetCurrentWaypoint` stays inside the vector. -/
theorem getCurrentWaypoint_ok (h : n.Sound) : ∃ w, n.getCurrentWaypoint = .ok w := by
  unfold getCurrentWaypoint
  split
  next hidx => exact (h.located (by omega)).waypointAt
  next => exact ⟨_, rfl⟩

end Navigator

end Solarbot.Nav
