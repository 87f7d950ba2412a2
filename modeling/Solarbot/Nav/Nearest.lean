import Solarbot.Nav.Search

/-!
# The closest point of the path

`FindClosestPathPoint` keeps two minima. The one over all segments is the distance from the
rover. The other is the distance from the end of the segment, and starts anew with each
segment. A candidate has to pass both tests.

Here the three functions of the geodesy are left open (`Geodesy`): with those of the source the
search is the one of the source (`source_findClosestPathPoint`). When the samples of a segment
come closer and closer to its end, no candidate ever fails the second test, and the search is
the first minimum of a list (`findClosestPathPoint_argmin`).
-/

namespace Solarbot.Nav

/-- `DistanceBetweenTwoPoint(p1, p2)`, `GetDestination` and `GetDestinationPoint`. -/
structure Geodesy (D : Type) where
  distance : Point D → Point D → D
  destination : Point D → Point D → Destination D
  destinationPoint : Point D → D → D → Point D

namespace Geodesy

section Search

variable {D : Type} [Dbl D] (g : Geodesy D)

/-- The functions of the source. -/
def source : Geodesy D := ⟨distanceBetweenPoints, getDestination, getDestinationPoint⟩

def steps (org dest : Point D) : Int := Dbl.toInt ((g.destination org dest).distance / increment)

def samplePoint (org dest : Point D) (i : Nat) : Point D :=
  g.destinationPoint org (num i * increment) (g.destination org dest).bearing

/-- The body of the inner loop. -/
def visit (myPoint org dest : Point D) (next : Int) (c : Closest D) (i : Nat) : Closest D :=
  let destinationPoint := g.samplePoint org dest i
  let d := g.distance myPoint destinationPoint
  if Dbl.lt d c.closestDistance then
    let dn := g.distance destinationPoint dest
    if Dbl.lt dn c.closestDistanceToNextWaypoint then
      { closestPoint := destinationPoint
        closestDistance := d
        closestDistanceToNextWaypoint := dn
        startWaypointIndex := next }
    else c
  else c

def segment (myPoint org dest : Point D) (next : Int) (c : Closest D) : Closest D :=
  (List.range' 1 ((g.steps org dest).toNat - 1)).foldl (g.visit myPoint org dest next)
    { c with closestDistanceToNextWaypoint := Dbl.max }

/-- The body of the outer loop. -/
def visitSegment (r : Route D) (myPoint : Point D) (c : Closest D) (index : Nat) :
    Except Fault (Closest D) := do
  let org ← r.waypointAt index
  let dest ← r.waypointAt (r.nextIndex index)
  return g.segment myPoint org.point dest.point (r.nextIndex index) c

/-- Where the rover is. -/
def myPoint (location : Location D) : Point D := ⟨location.latitude, location.longitude⟩

/-- The variables in front of the loop. -/
def initial (r : Route D) (location : Location D) : Closest D :=
  { closestPoint := myPoint location
    closestDistance := Dbl.max
    closestDistanceToNextWaypoint := Dbl.max
    startWaypointIndex := r.waypointsIndex }

/-- `FindClosestPathPoint` over this geodesy. -/
def findClosestPathPoint (r : Route D) (location : Location D) : Except Fault (Closest D) :=
  (List.range r.waypointsSize.toNat).foldlM (g.visitSegment r (myPoint location))
    (initial r location)

theorem source_findClosestPathPoint (r : Route D) (location : Location D) :
    source.findClosestPathPoint r location = r.findClosestPathPoint location := rfl

/-! ## The samples -/

/-- The point is a sample of the segment from waypoint `index`. -/
def SampleOf (r : Route D) (index : Nat) (p : Point D) : Prop :=
  ∃ (org dest : Waypoint D) (i : Nat), r.waypointAt index = .ok org ∧
    r.waypointAt (r.nextIndex index) = .ok dest ∧ 1 ≤ i ∧
    (i : Int) < g.steps org.point dest.point ∧ p = g.samplePoint org.point dest.point i

/-- The samples of the segment from waypoint `index`, each with the index of the segment's
end. -/
def segmentSamples (r : Route D) (index : Nat) : List (Point D × Int) :=
  match r.waypointAt index, r.waypointAt (r.nextIndex index) with
  | .ok org, .ok dest =>
    (List.range' 1 ((g.steps org.point dest.point).toNat - 1)).map fun i =>
      (g.samplePoint org.point dest.point i, r.nextIndex index)
  | _, _ => []

/-- The samples of the first segments, in the order of the search. -/
def samples (r : Route D) (segments : Nat) : List (Point D × Int) :=
  (List.range segments).flatMap (g.segmentSamples r)

variable {g} {r : Route D}

theorem samples_succ (k : Nat) : g.samples r (k + 1) = g.samples r k ++ g.segmentSamples r k := by
  rw [samples, List.range_succ, List.flatMap_append, List.flatMap_singleton]
  rfl

theorem segmentSamples_ok {index : Nat} {org dest : Waypoint D}
    (horg : r.waypointAt index = .ok org) (hdest : r.waypointAt (r.nextIndex index) = .ok dest) :
    g.segmentSamples r index =
      (List.range' 1 ((g.steps org.point dest.point).toNat - 1)).map fun i =>
        (g.samplePoint org.point dest.point i, r.nextIndex index) := by
  rw [segmentSamples, horg, hdest]

theorem mem_samples {s : Point D × Int} {k : Nat} : s ∈ g.samples r k ↔
    ∃ index : Nat, index < k ∧ g.SampleOf r index s.1 ∧ s.2 = r.nextIndex index := by
  unfold samples
  rw [List.mem_flatMap]
  constructor
  · intro h
    obtain ⟨index, hindex, hmem⟩ := h
    unfold segmentSamples at hmem
    split at hmem
    next org dest horg hdest =>
      obtain ⟨i, hi, rfl⟩ := List.mem_map.mp hmem
      rw [List.mem_range'_1] at hi
      exact ⟨index, List.mem_range.mp hindex, ⟨org, dest, i, horg, hdest, hi.1, by omega, rfl⟩, rfl⟩
    next => exact absurd hmem List.not_mem_nil
  · intro h
    obtain ⟨index, hindex, ⟨org, dest, i, horg, hdest, h1, hlt, hp⟩, hnext⟩ := h
    refine ⟨index, List.mem_range.mpr hindex, ?_⟩
    rw [segmentSamples_ok horg hdest, List.mem_map]
    refine ⟨i, ?_, Prod.ext hp.symm hnext.symm⟩
    rw [List.mem_range'_1]
    omega

theorem visitSegment_ok {index : Nat} {org dest : Waypoint D}
    (horg : r.waypointAt index = .ok org) (hdest : r.waypointAt (r.nextIndex index) = .ok dest)
    (myPoint : Point D) (c : Closest D) :
    g.visitSegment r myPoint c index =
      .ok (g.segment myPoint org.point dest.point (r.nextIndex index) c) := by
  unfold visitSegment
  rw [horg, hdest]
  rfl

omit [Dbl D] in
/-- Both ends of a segment are waypoints. -/
theorem segment_ends (hsize : r.waypointsSize = r.waypoints.length) {index : Nat}
    (h : index < r.waypointsSize.toNat) : ∃ org dest, r.waypointAt index = .ok org ∧
      r.waypointAt (r.nextIndex index) = .ok dest := by
  have hlt : (index : Int) < r.waypointsSize := by omega
  obtain ⟨h0, hnext⟩ := r.nextIndex_range hlt
  obtain ⟨org, horg⟩ := (@Route.waypointAt_ok_iff _ r index).mpr ⟨by omega, by omega⟩
  obtain ⟨dest, hdest⟩ := r.waypointAt_ok_iff.mpr ⟨h0, by omega⟩
  exact ⟨org, dest, horg, hdest⟩

end Search

/-! ## Without the second test -/

variable {g : Geodesy ℝ} {r : Route ℝ} {location : Location ℝ}

/-- No distance is `DBL_MAX`. -/
def Bounded (g : Geodesy ℝ) : Prop := ∀ p q, g.distance p q < dblMax

/-- Along each segment the samples come closer to its end. -/
def Approaching (g : Geodesy ℝ) (r : Route ℝ) : Prop :=
  ∀ (index : Nat) (org dest : Waypoint ℝ), r.waypointAt index = .ok org →
    r.waypointAt (r.nextIndex index) = .ok dest →
      StrictAntiOn (fun i => g.distance (g.samplePoint org.point dest.point i) dest.point)
        (Set.Ico 1 (g.steps org.point dest.point).toNat)

/-- The variables of the loop hold a sample, or still what was in front of the loop. -/
def Holds (g : Geodesy ℝ) (r : Route ℝ) (location : Location ℝ) (c : Closest ℝ) :
    Option (Point ℝ × Int) → Prop
  | none => c.closestPoint = myPoint location ∧ c.closestDistance = dblMax ∧
      c.startWaypointIndex = r.waypointsIndex
  | some s => c.closestPoint = s.1 ∧ c.closestDistance = g.distance (myPoint location) s.1 ∧
      c.startWaypointIndex = s.2

/-- The distance of a sample from the rover. -/
def fromRover (g : Geodesy ℝ) (location : Location ℝ) (s : Point ℝ × Int) : ℝ :=
  g.distance (myPoint location) s.1

/-- A sample that passes the second test is kept when it is nearer than all before it. -/
theorem visit_holds (hbounded : g.Bounded) {org dest : Point ℝ} {next : Int} {c : Closest ℝ}
    {l : List (Point ℝ × Int)} (hc : g.Holds r location c (l.argmin (g.fromRover location)))
    {i : Nat} (hnext : g.distance (g.samplePoint org dest i) dest <
      c.closestDistanceToNextWaypoint) :
    g.Holds r location (g.visit (myPoint location) org dest next c i)
      ((l ++ [(g.samplePoint org dest i, next)]).argmin (g.fromRover location)) := by
  have htest : Dbl.lt (g.distance (g.samplePoint org dest i) dest)
      c.closestDistanceToNextWaypoint = true := decide_eq_true hnext
  rw [List.argmin_concat]
  unfold visit
  dsimp only
  cases hbest : l.argmin (g.fromRover location) with
  | none =>
    rw [hbest] at hc
    obtain ⟨-, hdistance, -⟩ := hc
    -- the first finite sample is always nearer
    have hfirst : Dbl.lt (g.distance (myPoint location) (g.samplePoint org dest i))
        c.closestDistance = true := by
      rw [hdistance]
      exact decide_eq_true (hbounded _ _)
    rw [if_pos hfirst, if_pos htest]
    exact ⟨rfl, rfl, rfl⟩
  | some s =>
    rw [hbest] at hc
    have hdistance : c.closestDistance = g.fromRover location s := hc.2.1
    dsimp only
    by_cases hnearer : g.fromRover location (g.samplePoint org dest i, next) <
        g.fromRover location s
    · have hfirst : Dbl.lt (g.distance (myPoint location) (g.samplePoint org dest i))
          c.closestDistance = true := by
        rw [hdistance]
        exact decide_eq_true hnearer
      rw [if_pos hnearer, if_pos hfirst, if_pos htest]
      exact ⟨rfl, rfl, rfl⟩
    · have hfirst : Dbl.lt (g.distance (myPoint location) (g.samplePoint org dest i))
          c.closestDistance = false := by
        rw [hdistance]
        exact decide_eq_false hnearer
      rw [if_neg hnearer, if_neg (Bool.eq_false_iff.mp hfirst)]
      exact hc

/-- What the second minimum is afterwards. -/
theorem visit_toNext (myPoint org dest : Point ℝ) (next : Int) (c : Closest ℝ) (i : Nat) :
    (g.visit myPoint org dest next c i).closestDistanceToNextWaypoint =
        c.closestDistanceToNextWaypoint ∨
      (g.visit myPoint org dest next c i).closestDistanceToNextWaypoint =
        g.distance (g.samplePoint org dest i) dest := by
  unfold visit
  dsimp only
  split
  · split
    · exact .inr rfl
    · exact .inl rfl
  · exact .inl rfl

/-- The inner loop: the second minimum is behind every sample to come. -/
theorem segment_holds (hbounded : g.Bounded) {org dest : Point ℝ} {next : Int} {c : Closest ℝ}
    (happroaching : StrictAntiOn (fun i => g.distance (g.samplePoint org dest i) dest)
      (Set.Ico 1 (g.steps org dest).toNat))
    {l : List (Point ℝ × Int)} (hc : g.Holds r location c (l.argmin (g.fromRover location))) :
    g.Holds r location (g.segment (myPoint location) org dest next c)
      ((l ++ (List.range' 1 ((g.steps org dest).toNat - 1)).map fun i =>
        (g.samplePoint org dest i, next)).argmin (g.fromRover location)) := by
  let seen (k : Nat) : List (Point ℝ × Int) :=
    l ++ (List.range' 1 (k - 1)).map fun i => (g.samplePoint org dest i, next)
  -- the invariant: the best of what was seen, and every sample to come passes the second test
  have hloop := Loops.foldl_range' (f := g.visit (myPoint location) org dest next)
    (fun k c => g.Holds r location c ((seen k).argmin (g.fromRover location)) ∧
      ∀ j, k ≤ j → j < (g.steps org dest).toNat →
        g.distance (g.samplePoint org dest j) dest < c.closestDistanceToNextWaypoint)
    (a := 1) ((g.steps org dest).toNat - 1)
    (b := { c with closestDistanceToNextWaypoint := Dbl.max }) ⟨?_, ?_⟩ ?_
  · have hseen : seen (1 + ((g.steps org dest).toNat - 1)) =
        l ++ (List.range' 1 ((g.steps org dest).toNat - 1)).map fun i =>
          (g.samplePoint org dest i, next) := by
      dsimp only [seen]
      rw [Nat.add_sub_cancel_left]
    rw [← hseen]
    exact hloop.1
  · have hseen : seen 1 = l := List.append_nil l
    rw [hseen]
    cases hbest : l.argmin (g.fromRover location) with
    | none =>
      rw [hbest] at hc
      exact hc
    | some s =>
      rw [hbest] at hc
      exact hc
  · exact fun j _ _ => hbounded _ _
  · intro k c hlo hhi hinv
    obtain ⟨hholds, hahead⟩ := hinv
    have hseen : seen (k + 1) = seen k ++ [(g.samplePoint org dest k, next)] := by
      have hcount : k + 1 - 1 = k - 1 + 1 := by omega
      have hlast : 1 + 1 * (k - 1) = k := by omega
      dsimp only [seen]
      rw [hcount, List.range'_concat, List.map_append, ← List.append_assoc, hlast]
      rfl
    rw [hseen]
    refine ⟨visit_holds hbounded hholds (hahead k le_rfl (by omega)), ?_⟩
    intro j hj hlt
    rcases g.visit_toNext (myPoint location) org dest next c k with h | h
    · rw [h]
      exact hahead j (by omega) hlt
    · rw [h]
      -- a sample that is taken is farther from the end than those to come
      exact happroaching ⟨hlo, by omega⟩ ⟨by omega, hlt⟩ (by omega)

/-- **The search is a first minimum** over all samples. -/
theorem findClosestPathPoint_argmin (hsize : r.waypointsSize = r.waypoints.length)
    (hbounded : g.Bounded) (happroaching : g.Approaching r) (location : Location ℝ) :
    ∃ c, g.findClosestPathPoint r location = .ok c ∧
      g.Holds r location c
        ((g.samples r r.waypointsSize.toNat).argmin (g.fromRover location)) := by
  refine Loops.foldlM_range (fun k c =>
    g.Holds r location c ((g.samples r k).argmin (g.fromRover location))) _ ⟨rfl, rfl, rfl⟩ ?_
  intro k c hk hc
  obtain ⟨org, dest, horg, hdest⟩ := segment_ends hsize hk
  refine ⟨_, visitSegment_ok horg hdest _ c, ?_⟩
  rw [samples_succ, segmentSamples_ok horg hdest]
  exact segment_holds hbounded (happroaching k org dest horg hdest) hc

/-! ## The nearest sample -/

/-- The answer is a sample with the end of its segment, and no sample of any segment is nearer to
the rover. -/
structure Nearest (g : Geodesy ℝ) (r : Route ℝ) (location : Location ℝ) (c : Closest ℝ) : Prop where
  sample : ∃ index : Nat, (index : Int) < r.waypointsSize ∧
    g.SampleOf r index c.closestPoint ∧ c.startWaypointIndex = r.nextIndex index
  least : ∀ index : Nat, (index : Int) < r.waypointsSize → ∀ p, g.SampleOf r index p →
    g.distance (myPoint location) c.closestPoint ≤ g.distance (myPoint location) p

/-- The path has a sample. -/
def Sampled (g : Geodesy ℝ) (r : Route ℝ) : Prop :=
  ∃ index : Nat, (index : Int) < r.waypointsSize ∧ ∃ p, g.SampleOf r index p

/-- **`FindClosestPathPoint` returns a nearest sample**, and stores the end of its segment. On a
path without a sample it returns the location, and stores nothing. -/
theorem findClosestPathPoint_nearest (g : Geodesy ℝ) (r : Route ℝ)
    (hsize : r.waypointsSize = r.waypoints.length) (hbounded : g.Bounded)
    (happroaching : g.Approaching r) (location : Location ℝ) :
    ∃ c, g.findClosestPathPoint r location = .ok c ∧
      (g.Sampled r → g.Nearest r location c) ∧
      (¬ g.Sampled r → c.closestPoint = myPoint location ∧
        c.startWaypointIndex = r.waypointsIndex) := by
  obtain ⟨c, hc, hholds⟩ := findClosestPathPoint_argmin hsize hbounded happroaching location
  refine ⟨c, hc, ?_⟩
  cases hbest : (g.samples r r.waypointsSize.toNat).argmin (g.fromRover location) with
  | none =>
    rw [hbest] at hholds
    refine ⟨?_, fun _ => ⟨hholds.1, hholds.2.2⟩⟩
    intro hsampled
    obtain ⟨index, hindex, p, hp⟩ := hsampled
    have hmem : (p, r.nextIndex index) ∈ g.samples r r.waypointsSize.toNat :=
      mem_samples.mpr ⟨index, by omega, hp, rfl⟩
    rw [List.argmin_eq_none.mp hbest] at hmem
    exact absurd hmem List.not_mem_nil
  | some s =>
    rw [hbest] at hholds
    obtain ⟨index, hindex, hsample, hnext⟩ := mem_samples.mp (List.argmin_mem hbest)
    refine ⟨fun _ => ⟨⟨index, by omega, ?_, ?_⟩, ?_⟩, ?_⟩
    · rw [hholds.1]
      exact hsample
    · rw [hholds.2.2, hnext]
    · intro index' hindex' p hp
      have hmem : (p, r.nextIndex index') ∈ g.samples r r.waypointsSize.toNat :=
        mem_samples.mpr ⟨index', by omega, hp, rfl⟩
      have hleast : g.fromRover location s ≤ g.fromRover location (p, r.nextIndex index') :=
        List.le_of_mem_argmin hmem hbest
      rw [hholds.1]
      exact hleast
    · intro hno
      exact absurd ⟨index, by omega, s.1, hsample⟩ hno

/-! ## On a straight line -/

/-- Places on a line, in metres, with distances measured up to a kilometre. -/
noncomputable def ruler : Geodesy ℝ where
  distance p q := min |q.lat - p.lat| 1000
  destination p q := ⟨if p.lat ≤ q.lat then 1 else -1, |q.lat - p.lat|⟩
  destinationPoint p distance bearing := ⟨p.lat + distance * bearing, p.lon⟩

/-- Three metres and back. -/
noncomputable def threeMetres : Route ℝ where
  waypoints := [⟨0, 0, 1000⟩, ⟨3, 0, 1000⟩]
  waypointsSize := 2
  lastDistance := 1
  startWaypoint := ⟨0, 0, 0⟩
  startWaypointIndex := 0

theorem ruler_bounded : ruler.Bounded := fun _ _ =>
  lt_of_le_of_lt ((min_le_right _ _).trans (by norm_num)) lt_dblMax

/-- Each sample is one metre closer to the end. -/
theorem ruler_sample {org dest : Point ℝ} (hshort : |dest.lat - org.lat| ≤ 1000) {i : Nat}
    (hi : i < (ruler.steps org dest).toNat) :
    ruler.distance (ruler.samplePoint org dest i) dest = |dest.lat - org.lat| - i := by
  have hsteps : ruler.steps org dest = ⌊|dest.lat - org.lat|⌋ := by
    have hlength : (ruler.destination org dest).distance / increment = |dest.lat - org.lat| := by
      simp [ruler, increment]
    rw [steps, hlength, real_toInt, truncReal_of_nonneg (abs_nonneg _)]
  have hle : (i : ℝ) ≤ |dest.lat - org.lat| := by
    have hfloor : (i : Int) ≤ ⌊|dest.lat - org.lat|⌋ := by
      rw [← hsteps]
      omega
    exact_mod_cast Int.le_floor.mp hfloor
  have hlat : (ruler.samplePoint org dest i).lat =
      org.lat + i * if org.lat ≤ dest.lat then 1 else -1 := by
    simp [samplePoint, ruler, increment]
  have hpos : (0 : ℝ) ≤ i := Nat.cast_nonneg i
  show min |dest.lat - (ruler.samplePoint org dest i).lat| 1000 = _
  rw [hlat]
  by_cases h : org.lat ≤ dest.lat
  · rw [abs_of_nonneg (sub_nonneg.mpr h)] at hle hshort ⊢
    rw [if_pos h, abs_of_nonneg (by linarith), min_eq_left (by linarith)]
    ring
  · rw [abs_of_neg (sub_neg.mpr (not_le.mp h))] at hle hshort ⊢
    rw [if_neg h, abs_of_nonpos (by linarith), min_eq_left (by linarith)]
    ring

theorem ruler_approaching : ruler.Approaching threeMetres := by
  have hplace : ∀ {index : Int} {w : Waypoint ℝ}, threeMetres.waypointAt index = .ok w →
      w.latitude = 0 ∨ w.latitude = 3 := by
    intro index w hw
    unfold Route.waypointAt at hw
    split at hw
    next h =>
      have hmem : w ∈ threeMetres.waypoints := Except.ok.inj hw ▸ List.getElem_mem _
      rcases List.mem_cons.mp hmem with rfl | hmem
      · exact .inl rfl
      · exact .inr (by rw [List.mem_singleton.mp hmem])
    next => exact absurd hw (by simp)
  intro index org dest horg hdest i hi j hj hij
  have hshort : |dest.point.lat - org.point.lat| ≤ 1000 := by
    rw [show dest.point.lat = dest.latitude from rfl, show org.point.lat = org.latitude from rfl]
    rcases hplace horg with ho | ho <;> rcases hplace hdest with hd | hd <;>
      rw [ho, hd] <;> norm_num
  dsimp only
  rw [ruler_sample hshort hi.2, ruler_sample hshort hj.2]
  have hcast : (i : ℝ) < j := by exact_mod_cast hij
  linarith

theorem threeMetres_sampled : ruler.Sampled threeMetres := by
  refine ⟨0, by decide, ruler.samplePoint ⟨0, 0⟩ ⟨3, 0⟩ 1, ⟨0, 0, 1000⟩, ⟨3, 0, 1000⟩, 1, rfl, rfl,
    le_rfl, ?_, rfl⟩
  simp [steps, ruler, increment, Waypoint.point, truncReal]

/-- From any place the search finds the nearest of the samples at one and two metres. -/
theorem threeMetres_nearest : ∃ c, ruler.findClosestPathPoint threeMetres ⟨5, 0, 4⟩ = .ok c ∧
    ruler.Nearest threeMetres ⟨5, 0, 4⟩ c := by
  obtain ⟨c, hc, hnearest, -⟩ := findClosestPathPoint_nearest ruler threeMetres rfl ruler_bounded
    ruler_approaching ⟨5, 0, 4⟩
  exact ⟨c, hc, hnearest threeMetres_sampled⟩

end Geodesy

end Solarbot.Nav
