import Solarbot.Nav.Counting
import Solarbot.Nav.DestinationPoint

/-!
# The search on an open path

Without an L record the robot is to stop at the last waypoint, and `GotoNextWaypoint` does.
`FindClosestPathPoint` does not look at `LoopNavigate`: its last round searches the line
from the last waypoint back to the first. `openPath_iff` says when that does no harm: when
each sample of the closing line is at least as far from the rover as one of the samples of the
open path that count. Where the samples of each segment come closer to its end, that is to say as
one of the samples of the open path (`openPath_iff_nearest`).
-/

namespace Solarbot.Nav

namespace Geodesy

section Rounds

variable {g : Geodesy ℝ} {r : Route ℝ} {location : Location ℝ}

/-- A round of the inner loop keeps the candidate, or takes the sample. -/
theorem visit_kept (g : Geodesy ℝ) (myPoint org dest : Point ℝ) (next : Int) (c : Closest ℝ) (i : Nat) :
    g.visit myPoint org dest next c i = c ∨
      ((g.visit myPoint org dest next c i).closestPoint = g.samplePoint org dest i ∧
        (g.visit myPoint org dest next c i).startWaypointIndex = next) := by
  unfold visit
  dsimp only
  split
  · split
    · exact .inr ⟨rfl, rfl⟩
    · exact .inl rfl
  · exact .inl rfl

/-- What the candidate is after a segment. -/
theorem segment_kept (g : Geodesy ℝ) (myPoint org dest : Point ℝ) (next : Int) (c : Closest ℝ) :
    ((g.segment myPoint org dest next c).closestPoint = c.closestPoint ∧
        (g.segment myPoint org dest next c).startWaypointIndex = c.startWaypointIndex) ∨
      ∃ i : Nat, 1 ≤ i ∧ (i : Int) < g.steps org dest ∧
        (g.segment myPoint org dest next c).closestPoint = g.samplePoint org dest i ∧
        (g.segment myPoint org dest next c).startWaypointIndex = next := by
  refine Loops.foldl_range' (f := g.visit myPoint org dest next)
    (fun _ c' => (c'.closestPoint = c.closestPoint ∧
        c'.startWaypointIndex = c.startWaypointIndex) ∨
      ∃ i : Nat, 1 ≤ i ∧ (i : Int) < g.steps org dest ∧
        c'.closestPoint = g.samplePoint org dest i ∧ c'.startWaypointIndex = next)
    (a := 1) ((g.steps org dest).toNat - 1)
    (b := { c with closestDistanceToNextWaypoint := Dbl.max }) (.inl ⟨rfl, rfl⟩) ?_
  intro k c' hlo hhi hinv
  rcases g.visit_kept myPoint org dest next c' k with h | ⟨hpoint, hindex⟩
  · rw [h]
    exact hinv
  · exact .inr ⟨k, hlo, by omega, hpoint, hindex⟩

/-- A segment whose samples are all as far as the candidate changes nothing. -/
theorem segment_far {org dest myPoint : Point ℝ} {c : Closest ℝ} (next : Int)
    (hfar : ∀ i : Nat, 1 ≤ i → (i : Int) < g.steps org dest →
      c.closestDistance ≤ g.distance myPoint (g.samplePoint org dest i)) :
    g.segment myPoint org dest next c = { c with closestDistanceToNextWaypoint := Dbl.max } := by
  refine Loops.foldl_range' (f := g.visit myPoint org dest next)
    (fun _ c' => c' = { c with closestDistanceToNextWaypoint := Dbl.max })
    (a := 1) ((g.steps org dest).toNat - 1) rfl ?_
  intro k c' hlo hhi hinv
  have hno : Dbl.lt (g.distance myPoint (g.samplePoint org dest k)) c'.closestDistance = false := by
    rw [hinv]
    exact decide_eq_false (not_lt.mpr (hfar k hlo (by omega)))
  unfold visit
  dsimp only
  rw [if_neg (Bool.eq_false_iff.mp hno), hinv]

/-- A segment with a sample nearer than the candidate leaves one of its own. -/
theorem segment_near (hbounded : g.Bounded) {org dest myPoint : Point ℝ} {c : Closest ℝ}
    (next : Int) {i : Nat} (h1 : 1 ≤ i) (hlt : (i : Int) < g.steps org dest)
    (hnear : g.distance myPoint (g.samplePoint org dest i) < c.closestDistance) :
    (g.segment myPoint org dest next c).startWaypointIndex = next := by
  have hloop := Loops.foldl_range' (f := g.visit myPoint org dest next)
    (fun k c' => (k ≤ i ∧ c' = { c with closestDistanceToNextWaypoint := Dbl.max }) ∨
      c'.startWaypointIndex = next)
    (a := 1) ((g.steps org dest).toNat - 1)
    (b := { c with closestDistanceToNextWaypoint := Dbl.max }) (.inl ⟨h1, rfl⟩) ?_
  · exact hloop.resolve_left fun hbefore => by omega
  · intro k c' hlo hhi hinv
    rcases hinv with ⟨hk, hc'⟩ | hindex
    · rcases Nat.lt_or_eq_of_le hk with hk | hk
      · rcases g.visit_kept myPoint org dest next c' k with h | h
        · exact .inl ⟨hk, h.trans hc'⟩
        · exact .inr h.2
      · -- this is the sample, if no earlier one was taken
        have hfirst : Dbl.lt (g.distance myPoint (g.samplePoint org dest k))
            c'.closestDistance = true := by
          rw [hc', hk]
          exact decide_eq_true hnear
        have hsecond : Dbl.lt (g.distance (g.samplePoint org dest k) dest)
            c'.closestDistanceToNextWaypoint = true := by
          rw [hc']
          exact decide_eq_true (hbounded _ _)
        right
        unfold visit
        dsimp only
        rw [if_pos hfirst, if_pos hsecond]
    · rcases g.visit_kept myPoint org dest next c' k with h | h
      · rw [h]
        exact .inr hindex
      · exact .inr h.2

/-- Nothing is stored yet, or a sample of one of these segments with the segment's end. -/
def Stored (g : Geodesy ℝ) (r : Route ℝ) (segments : Nat) (c : Closest ℝ) : Prop :=
  c.startWaypointIndex = r.waypointsIndex ∨
    ∃ index : Nat, index < segments ∧ g.SampleOf r index c.closestPoint ∧
      c.startWaypointIndex = r.nextIndex index

theorem search_stored (hsize : r.waypointsSize = r.waypoints.length) (location : Location ℝ)
    (segments : Nat) (h : segments ≤ r.waypointsSize.toNat) :
    ∃ c, g.search r location segments = .ok c ∧ g.Stored r segments c := by
  refine Loops.foldlM_range (g.Stored r) segments (.inl rfl) ?_
  intro k c hk hc
  obtain ⟨org, dest, horg, hdest⟩ := segment_ends hsize (lt_of_lt_of_le hk h)
  refine ⟨_, visitSegment_ok horg hdest _ c, ?_⟩
  rcases g.segment_kept (myPoint location) org.point dest.point (r.nextIndex k) c with
    ⟨hpoint, hindex⟩ | ⟨i, h1, hlt, hpoint, hindex⟩
  · rcases hc with hnone | ⟨index, hlt, hsample, hnext⟩
    · exact .inl (hindex.trans hnone)
    · exact .inr ⟨index, by omega, hpoint ▸ hsample, hindex.trans hnext⟩
  · exact .inr ⟨k, by omega, ⟨org, dest, i, horg, hdest, h1, hlt, hpoint⟩, hindex⟩

/-- Where there is no sample, the search changes nothing. -/
theorem search_unsampled (hsize : r.waypointsSize = r.waypoints.length) {segments : Nat}
    (h : segments ≤ r.waypointsSize.toNat)
    (hno : ∀ index < segments, ∀ p, ¬ g.SampleOf r index p) :
    g.search r location segments = .ok (initial r location) := by
  have hstep : ∀ k c, k < segments → c = initial r location →
      ∃ c', g.visitSegment r (myPoint location) c k = .ok c' ∧ c' = initial r location := by
    intro k c hk hc
    obtain ⟨org, dest, horg, hdest⟩ := segment_ends hsize (lt_of_lt_of_le hk h)
    refine ⟨_, visitSegment_ok horg hdest _ c, ?_⟩
    rw [segment_far _ fun i h1 hlt =>
      absurd ⟨org, dest, i, horg, hdest, h1, hlt, rfl⟩ (hno k hk _), hc]
    rfl
  obtain ⟨c, hc, rfl⟩ := Loops.foldlM_range (fun _ c => c = initial r location) segments rfl hstep
  exact hc

/-- The last round. -/
theorem search_succ {k : Nat} {c : Closest ℝ} {org dest : Waypoint ℝ}
    (hc : g.search r location k = .ok c) (horg : r.waypointAt k = .ok org)
    (hdest : r.waypointAt (r.nextIndex k) = .ok dest) :
    g.search r location (k + 1) =
      .ok (g.segment (myPoint location) org.point dest.point (r.nextIndex k) c) := by
  unfold search at hc ⊢
  rw [List.range_succ, List.foldlM_append, hc]
  show (g.visitSegment r (myPoint location) c k).bind _ = _
  rw [visitSegment_ok horg hdest]
  rfl

end Rounds

end Geodesy

open Geodesy

/-- The law for a path of `n` waypoints that is not a loop: the point that is found is a
sample of a segment between two consecutive waypoints, and the index that is stored that of a
waypoint behind the first. -/
def StaysOpen (r : Route ℝ) (location : Location ℝ) : Prop :=
  ∀ c, r.findClosestPathPoint location = .ok c → c.startWaypointIndex ≠ -1 →
    (∃ index : Nat, (index : Int) < r.waypointsSize - 1 ∧
      source.SampleOf r index c.closestPoint) ∧
    1 ≤ c.startWaypointIndex ∧ c.startWaypointIndex ≤ r.waypointsSize - 1

/-- Each sample of the closing line is at least as far from the rover as a sample of the open
path that counts. -/
def ClosingLineFar (r : Route ℝ) (location : Location ℝ) : Prop :=
  ∀ p, source.SampleOf r (r.waypointsSize.toNat - 1) p →
    ∃ s ∈ counting (source.pathSamples r location (r.waypointsSize.toNat - 1)),
      s.fromRover ≤ distanceBetweenPoints (myPoint location) p

theorem source_bounded : source.Bounded := fun p q =>
  of_decide_eq_true (distanceBetweenPoints_lt_max p q)

/-- The last round is on the closing line, which ends in the first waypoint. -/
theorem findClosestPathPoint_closing {r : Route ℝ} {location : Location ℝ} {n : Nat}
    (hn : r.waypointsSize.toNat = n + 1) {c : Closest ℝ} {org dest : Waypoint ℝ}
    (hc : source.search r location n = .ok c) (horg : r.waypointAt n = .ok org)
    (hdest : r.waypointAt (r.nextIndex n) = .ok dest) :
    r.findClosestPathPoint location =
      .ok (source.segment (myPoint location) org.point dest.point 0 c) := by
  have hclosing : r.nextIndex n = 0 := if_pos (by omega)
  rw [← source_findClosestPathPoint, Geodesy.findClosestPathPoint, hn]
  have hlast := search_succ hc horg hdest
  rwa [hclosing] at hlast

/-- What the search holds is at most as far as a place exactly when a sample that counts is. -/
theorem closest_le_iff {x : ℝ} {kept : List Sample}
    (h : ∀ d, d < x ↔ d < dblMax ∧ ∀ t ∈ kept, d < t.fromRover) (p q : Point ℝ) :
    x ≤ distanceBetweenPoints p q ↔ ∃ t ∈ kept, t.fromRover ≤ distanceBetweenPoints p q := by
  rw [← not_lt, h, not_and_or, not_forall]
  constructor
  · rintro (hmax | ⟨t, ht⟩)
    · exact absurd (source_bounded p q) hmax
    · obtain ⟨hmem, hle⟩ := not_forall.mp ht
      exact ⟨t, hmem, not_lt.mp hle⟩
  · rintro ⟨t, hmem, hle⟩
    exact .inr ⟨t, fun hlt => absurd (hlt hmem) (not_lt.mpr hle)⟩

/-- **An open path stays open** exactly when each sample of the closing line is at least as far
from the rover as a sample of the open path that counts. -/
theorem openPath_iff (r₀ : Route ℝ) {text : List Char}
    (h : 2 ≤ (r₀.loadWaypoints (some text)).1.waypoints.length) (location : Location ℝ) :
    StaysOpen (r₀.loadWaypoints (some text)).1 location ↔
      ClosingLineFar (r₀.loadWaypoints (some text)).1 location := by
  obtain ⟨-, hsize, hindex⟩ := loadWaypoints_some r₀ text
  generalize (r₀.loadWaypoints (some text)).1 = r at *
  have hlength : r.waypointsSize.toNat = r.waypointsSize.toNat - 1 + 1 := by omega
  unfold ClosingLineFar
  generalize r.waypointsSize.toNat - 1 = n at *
  obtain ⟨c, hc, hstored⟩ := source.search_stored hsize location n (by omega)
  obtain ⟨c', hc', hclosest⟩ := search_closest hsize source_bounded location n (by omega)
  obtain rfl := Except.ok.inj (hc.symm.trans hc')
  obtain ⟨org, dest, horg, hdest⟩ := segment_ends hsize (show n < _ by omega)
  have hfound := findClosestPathPoint_closing hlength hc horg hdest
  have hsamples : ∀ i : Nat, 1 ≤ i → (i : Int) < source.steps org.point dest.point →
      source.SampleOf r n (source.samplePoint org.point dest.point i) :=
    fun i h1 hlt => ⟨org, dest, i, horg, hdest, h1, hlt, rfl⟩
  constructor
  · intro hopen p hp
    rw [← closest_le_iff hclosest]
    by_contra hnear
    obtain ⟨org', dest', i, horg', hdest', h1, hlt, rfl⟩ := hp
    obtain rfl := Except.ok.inj (horg.symm.trans horg')
    obtain rfl := Except.ok.inj (hdest.symm.trans hdest')
    -- the last round stores the first waypoint
    have hzero := segment_near source_bounded 0 h1 hlt (not_le.mp hnear)
    obtain ⟨-, hone, -⟩ := hopen _ hfound (by rw [hzero]; decide)
    rw [hzero] at hone
    exact absurd hone (by decide)
  · intro hfar c' hc' hne
    obtain rfl := Except.ok.inj (hfound.symm.trans hc')
    have hsame := segment_far (g := source) 0 fun i h1 hlt =>
      (closest_le_iff hclosest _ _).mpr (hfar _ (hsamples i h1 hlt))
    rw [hsame] at hne ⊢
    rcases hstored with hnone | ⟨index, hlt, hsample, hnext⟩
    · exact absurd (hnone.trans hindex) hne
    · have hopen : r.nextIndex index = index + 1 := if_neg (by omega)
      rw [hopen] at hnext
      exact ⟨⟨index, by omega, hsample⟩, by dsimp only; omega, by dsimp only; omega⟩

/-- The same by all samples, where those of each segment come closer to its end. -/
theorem openPath_iff_nearest (r₀ : Route ℝ) {text : List Char}
    (h : 2 ≤ (r₀.loadWaypoints (some text)).1.waypoints.length)
    (happroaching : source.Approaching (r₀.loadWaypoints (some text)).1) (location : Location ℝ) :
    StaysOpen (r₀.loadWaypoints (some text)).1 location ↔
      ∀ p, source.SampleOf (r₀.loadWaypoints (some text)).1
          ((r₀.loadWaypoints (some text)).1.waypointsSize.toNat - 1) p →
        ∃ index < (r₀.loadWaypoints (some text)).1.waypointsSize.toNat - 1,
          ∃ q, source.SampleOf (r₀.loadWaypoints (some text)).1 index q ∧
            distanceBetweenPoints (myPoint location) q ≤
              distanceBetweenPoints (myPoint location) p := by
  rw [openPath_iff r₀ h]
  generalize (r₀.loadWaypoints (some text)).1 = r at *
  constructor
  · intro hfar p hp
    obtain ⟨s, hs, hle⟩ := hfar p hp
    obtain ⟨hlt, hsample, hrover⟩ := sampleOf_of_mem (mem_of_mem_counting hs)
    exact ⟨s.segment, hlt, s.point, hsample, hrover.symm.trans_le hle⟩
  · intro hfar p hp
    obtain ⟨index, hlt, q, hq, hle⟩ := hfar p hp
    obtain ⟨s, hs, -, hrover⟩ := mem_of_sampleOf location hlt hq
    obtain ⟨t, ht, hnear⟩ := exists_counting_le
      (pathSamples_pairwise happroaching location _) s hs
    exact ⟨t, ht, hnear.trans (hrover.trans_le hle)⟩

/-! ## Short paths on a meridian -/

/-- Two waypoints on a meridian, three and a half metres apart. -/
def twoPoints : List Char := "P0,0,1000\nP0.0000315,0,1000\n".toList

/-- Three waypoints on a meridian, each a metre and a half from the next. -/
def shortPath : List Char := "P0,0,1000\nP0.0000144,0,1000\nP0.0000288,0,1000\n".toList

/-- A route as a new navigator has it. -/
noncomputable def newRoute : Route ℝ :=
  { lastDistance := 1, startWaypoint := ⟨0, 0, 0⟩, startWaypointIndex := 0 }

theorem steps_onMeridian {a b : ℝ} (h : |b - a| ≤ 180) :
    Solarbot.Nav.steps (onMeridian a) (onMeridian b) =
      ⌊|b - a| * Real.pi / 180 * 6371000⌋ := by
  have hpos : 0 ≤ |b - a| * Real.pi / 180 * 6371000 := by positivity
  rw [Solarbot.Nav.steps, getDestination_onMeridian h, increment, real_num, real_toInt]
  push_cast
  rw [div_one, truncReal_of_nonneg hpos]

theorem twoPoints_waypoints : (newRoute.loadWaypoints (some twoPoints)).1.waypoints =
    [⟨0, 0, 1000⟩, ⟨315 / 10000000, 0, 1000⟩] := by
  have hfirst : CText.atof "0,0,1000".toList = 0 := by decide +kernel
  have hsecond : CText.atof "0.0000315,0,1000".toList = 315 / 10000000 := by decide +kernel
  have hlon : CText.atof "0,1000".toList = 0 := by decide +kernel
  have hload : (newRoute.loadWaypoints (some twoPoints)).1.waypoints =
      [⟨num (CText.atof "0,0,1000".toList), num (CText.atof "0,1000".toList), 1000⟩,
        ⟨num (CText.atof "0.0000315,0,1000".toList), num (CText.atof "0,1000".toList), 1000⟩] := rfl
  rw [hload, hfirst, hsecond, hlon]
  norm_num

theorem shortPath_waypoints : (newRoute.loadWaypoints (some shortPath)).1.waypoints =
    [⟨0, 0, 1000⟩, ⟨144 / 10000000, 0, 1000⟩, ⟨288 / 10000000, 0, 1000⟩] := by
  have hfirst : CText.atof "0,0,1000".toList = 0 := by decide +kernel
  have hsecond : CText.atof "0.0000144,0,1000".toList = 144 / 10000000 := by decide +kernel
  have hthird : CText.atof "0.0000288,0,1000".toList = 288 / 10000000 := by decide +kernel
  have hlon : CText.atof "0,1000".toList = 0 := by decide +kernel
  have hload : (newRoute.loadWaypoints (some shortPath)).1.waypoints =
      [⟨num (CText.atof "0,0,1000".toList), num (CText.atof "0,1000".toList), 1000⟩,
        ⟨num (CText.atof "0.0000144,0,1000".toList), num (CText.atof "0,1000".toList), 1000⟩,
        ⟨num (CText.atof "0.0000288,0,1000".toList), num (CText.atof "0,1000".toList), 1000⟩] := rfl
  rw [hload, hfirst, hsecond, hthird, hlon]
  norm_num

/-- A segment of less than two metres has no sample. -/
theorem not_sampleOf {r : Route ℝ} {index : Nat} {org dest : Waypoint ℝ}
    (horg : r.waypointAt index = .ok org) (hdest : r.waypointAt (r.nextIndex index) = .ok dest)
    (hshort : Solarbot.Nav.steps org.point dest.point ≤ 1) (p : Point ℝ) :
    ¬ source.SampleOf r index p := by
  intro hsample
  obtain ⟨org', dest', i, horg', hdest', h1, hlt, -⟩ := hsample
  obtain rfl := Except.ok.inj (horg.symm.trans horg')
  obtain rfl := Except.ok.inj (hdest.symm.trans hdest')
  have hsteps : (i : Int) < Solarbot.Nav.steps org.point dest.point := hlt
  omega

/-- The samples of a line to the north. -/
theorem samplePoint_north {a b : ℝ} (h : a < b) {i : Nat}
    (hpole : |degrees2Radians a| + arc i ≤ Real.pi / 2) :
    source.samplePoint (onMeridian a) (onMeridian b) i =
      onMeridian (a + arc i * (180 / Real.pi)) := by
  have hmetres : (num (i : Rat) * increment : ℝ) = i := by simp [increment]
  show getDestinationPoint _ (num (i : Rat) * increment) (getDestination _ _).bearing = _
  rw [hmetres, bearing_north h]
  exact (getDestinationPoint_onMeridian (Nat.cast_nonneg i) hpole).1

/-- And to the south. -/
theorem samplePoint_south {a b : ℝ} (h : b < a) {i : Nat}
    (hpole : |degrees2Radians a| + arc i ≤ Real.pi / 2) :
    source.samplePoint (onMeridian a) (onMeridian b) i =
      onMeridian (a - arc i * (180 / Real.pi)) := by
  have hmetres : (num (i : Rat) * increment : ℝ) = i := by simp [increment]
  show getDestinationPoint _ (num (i : Rat) * increment) (getDestination _ _).bearing = _
  rw [hmetres, bearing_south h]
  exact (getDestinationPoint_onMeridian (Nat.cast_nonneg i) hpole).2

/-- Seen from the first of the two points, every sample on the way back is at least as far as the
first sample on the way there. -/
theorem twoPoints_far {i : Nat} (h1 : 1 ≤ i)
    (hlt : (i : Int) < Solarbot.Nav.steps (onMeridian (315 / 10000000)) (onMeridian 0)) :
    distanceBetweenPoints (onMeridian 0)
        (source.samplePoint (onMeridian 0) (onMeridian (315 / 10000000)) 1) ≤
      distanceBetweenPoints (onMeridian 0)
        (source.samplePoint (onMeridian (315 / 10000000)) (onMeridian 0) i) := by
  have hpi := Real.pi_gt_three
  have hpi' := Real.pi_le_four
  have hpos : (1 : ℝ) ≤ i := by exact_mod_cast h1
  -- `i` metres and one are at most the whole line
  have hline : ((i : ℝ) + 1) ≤ 315 / 10000000 * Real.pi / 180 * 6371000 := by
    rw [steps_onMeridian (by norm_num), ← Int.add_one_le_iff, Int.le_floor] at hlt
    push_cast at hlt
    rwa [zero_sub, abs_neg, abs_of_pos (by norm_num)] at hlt
  have harc : arc i * (180 / Real.pi) + arc 1 * (180 / Real.pi) ≤ 315 / 10000000 := by
    rw [← add_mul, arc, arc, ← add_div, div_mul_div_comm, div_le_iff₀ (by positivity)]
    nlinarith
  have hone : 0 ≤ arc 1 * (180 / Real.pi) := by
    rw [arc]
    positivity
  have hsmall : arc i ≤ 0.0001 := by
    rw [arc, div_le_iff₀ (by norm_num)]
    nlinarith
  have hzero : |degrees2Radians (0 : ℝ)| + arc ((1 : Nat) : ℝ) ≤ Real.pi / 2 := by
    rw [degrees2Radians_eq, zero_mul, abs_zero, arc]
    push_cast
    linarith
  have hfar : |degrees2Radians (315 / 10000000 : ℝ)| + arc i ≤ Real.pi / 2 := by
    rw [degrees2Radians_eq, abs_of_nonneg (by positivity)]
    nlinarith
  rw [samplePoint_north (by norm_num) hzero, samplePoint_south (by norm_num) hfar,
    Nat.cast_one, zero_add]
  have hi : 0 ≤ arc i * (180 / Real.pi) := by
    rw [arc]
    positivity
  rw [distanceBetweenPoints_onMeridian (by rw [abs_le]; constructor <;> linarith),
    distanceBetweenPoints_onMeridian (by rw [abs_le]; constructor <;> linarith), sub_zero, sub_zero,
    abs_of_nonneg hone, abs_of_nonneg (by linarith)]
  have hle : arc 1 * (180 / Real.pi) ≤ 315 / 10000000 - arc i * (180 / Real.pi) := by linarith
  gcongr

/-- Three and a half metres are long enough to have a sample. -/
theorem twoPoints_steps :
    1 < Solarbot.Nav.steps (onMeridian 0) (onMeridian (315 / 10000000)) := by
  have hpi := Real.pi_gt_three
  rw [steps_onMeridian (by norm_num), ← Int.add_one_le_iff, Int.le_floor]
  norm_num
  linarith

/-- Between the two points the rover is sent to the second. -/
theorem openPath_twoPoints :
    StaysOpen (newRoute.loadWaypoints (some twoPoints)).1 ⟨0, 0, 4⟩ ∧
      ∃ c, (newRoute.loadWaypoints (some twoPoints)).1.findClosestPathPoint ⟨0, 0, 4⟩ = .ok c ∧
        c.startWaypointIndex = 1 := by
  have hwaypoints := twoPoints_waypoints
  have hlaw := (openPath_iff newRoute (by rw [hwaypoints]; decide) ⟨0, 0, 4⟩).mpr
  obtain ⟨-, hlength, -⟩ := loadWaypoints_some newRoute twoPoints
  have hsize : (newRoute.loadWaypoints (some twoPoints)).1.waypointsSize = 2 := by
    rw [hlength, hwaypoints]
    rfl
  generalize (newRoute.loadWaypoints (some twoPoints)).1 = r at *
  have h0 : r.waypointAt (0 : Nat) = .ok ⟨0, 0, 1000⟩ :=
    r.waypointAt_getElem (by decide) (by rw [hwaypoints]; rfl)
  have h1 : r.waypointAt (1 : Nat) = .ok ⟨315 / 10000000, 0, 1000⟩ :=
    r.waypointAt_getElem (by decide) (by rw [hwaypoints]; rfl)
  have hnext : r.nextIndex 0 = (1 : Nat) := if_neg (by rw [hsize]; decide)
  have hclosing : r.nextIndex 1 = (0 : Nat) := if_pos (by rw [hsize]; decide)
  have hend0 : r.waypointAt (r.nextIndex 0) = .ok ⟨315 / 10000000, 0, 1000⟩ := by rwa [hnext]
  have hend1 : r.waypointAt (r.nextIndex 1) = .ok ⟨0, 0, 1000⟩ := by rwa [hclosing]
  have hsteps := twoPoints_steps
  have hfar : ClosingLineFar r ⟨0, 0, 4⟩ := by
    intro p hp
    rw [hsize] at hp ⊢
    obtain ⟨org, dest, i, horg, hdest, hi, hlt, rfl⟩ := hp
    obtain rfl := Except.ok.inj (h1.symm.trans horg)
    obtain rfl := Except.ok.inj (hend1.symm.trans hdest)
    refine ⟨source.sampleAt ⟨0, 0, 4⟩ 0 (onMeridian 0) (onMeridian (315 / 10000000)) 1, ?_,
      twoPoints_far hi hlt⟩
    have hcount : (source.steps (onMeridian 0) (onMeridian (315 / 10000000))).toNat - 1 =
        (source.steps (onMeridian 0) (onMeridian (315 / 10000000))).toNat - 2 + 1 := by
      have hsome : 1 < source.steps (onMeridian 0) (onMeridian (315 / 10000000)) := hsteps
      omega
    have hpath : source.pathSamples r ⟨0, 0, 4⟩ 1 = source.lineSamples r ⟨0, 0, 4⟩ 0 :=
      List.flatMap_singleton ..
    show _ ∈ counting (source.pathSamples r ⟨0, 0, 4⟩ 1)
    rw [hpath, lineSamples_ok h0 hend0]
    show _ ∈ counting ((List.range' 1 ((source.steps (onMeridian 0)
      (onMeridian (315 / 10000000))).toNat - 1)).map _)
    rw [hcount, List.range'_succ, List.map_cons]
    exact head_mem_counting ..
  have hopen := hlaw hfar
  -- something is found, and the law leaves it one index
  have hsampled : r.PathSampled ⟨0, 0, 4⟩ :=
    ⟨0, by rw [hsize]; decide, _, _, h0, hend0, segmentSampled_real hsteps⟩
  obtain ⟨c, hc, ⟨hno, -, -⟩ | ⟨-, hlo, -⟩⟩ := r.findClosestPathPoint_spec hlength ⟨0, 0, 4⟩
  · exact absurd hsampled hno
  · obtain ⟨-, hone, hlast⟩ := hopen c hc (by omega)
    exact ⟨hopen, c, hc, by omega⟩

/-- The three lines between the waypoints of the short path. -/
theorem shortPath_steps :
    Solarbot.Nav.steps (onMeridian 0) (onMeridian (144 / 10000000)) ≤ 1 ∧
    Solarbot.Nav.steps (onMeridian (144 / 10000000)) (onMeridian (288 / 10000000)) ≤ 1 ∧
    1 < Solarbot.Nav.steps (onMeridian (288 / 10000000)) (onMeridian 0) := by
  have hlo := Real.pi_gt_three
  have hhi := Real.pi_lt_d2
  refine ⟨?_, ?_, ?_⟩
  · rw [steps_onMeridian (by norm_num), ← Int.lt_add_one_iff, Int.floor_lt]
    norm_num
    linarith
  · rw [steps_onMeridian (by norm_num), ← Int.lt_add_one_iff, Int.floor_lt]
    norm_num
    linarith
  · rw [steps_onMeridian (by norm_num), ← Int.add_one_le_iff, Int.le_floor]
    norm_num
    linarith

/-- On the short path only the closing line is long enough to have a sample: the search sends the
rover there, to the first waypoint. -/
theorem shortPath_closes : (newRoute.loadWaypoints (some shortPath)).1.loopNavigate = false ∧
    ∃ c, (newRoute.loadWaypoints (some shortPath)).1.findClosestPathPoint ⟨0, 0, 4⟩ = .ok c ∧
      c.startWaypointIndex = 0 ∧
      ¬ StaysOpen (newRoute.loadWaypoints (some shortPath)).1 ⟨0, 0, 4⟩ := by
  refine ⟨rfl, ?_⟩
  have hwaypoints := shortPath_waypoints
  have hsize : (newRoute.loadWaypoints (some shortPath)).1.waypointsSize = 3 := by
    rw [(loadWaypoints_some newRoute shortPath).2.1, hwaypoints]
    rfl
  generalize (newRoute.loadWaypoints (some shortPath)).1 = r at *
  obtain ⟨hfirst, hsecond, hclosing⟩ := shortPath_steps
  have h0 : r.waypointAt (0 : Nat) = .ok ⟨0, 0, 1000⟩ :=
    r.waypointAt_getElem (by decide) (by rw [hwaypoints]; rfl)
  have h1 : r.waypointAt (1 : Nat) = .ok ⟨144 / 10000000, 0, 1000⟩ :=
    r.waypointAt_getElem (by decide) (by rw [hwaypoints]; rfl)
  have h2 : r.waypointAt (2 : Nat) = .ok ⟨288 / 10000000, 0, 1000⟩ :=
    r.waypointAt_getElem (by decide) (by rw [hwaypoints]; rfl)
  have hend0 : r.waypointAt (r.nextIndex 0) = .ok ⟨144 / 10000000, 0, 1000⟩ := by
    rw [show r.nextIndex 0 = (1 : Nat) from if_neg (by rw [hsize]; decide)]
    exact h1
  have hend1 : r.waypointAt (r.nextIndex 1) = .ok ⟨288 / 10000000, 0, 1000⟩ := by
    rw [show r.nextIndex 1 = (2 : Nat) from if_neg (by rw [hsize]; decide)]
    exact h2
  have hend2 : r.waypointAt (r.nextIndex 2) = .ok ⟨0, 0, 1000⟩ := by
    rw [show r.nextIndex 2 = (0 : Nat) from if_pos (by rw [hsize]; decide)]
    exact h0
  -- no sample on the first two lines
  have hno : ∀ index < 2, ∀ p, ¬ source.SampleOf r index p := by
    intro index hindex
    rcases Nat.lt_succ_iff_lt_or_eq.mp hindex with hlt | rfl
    · obtain rfl := Nat.lt_one_iff.mp hlt
      exact not_sampleOf h0 hend0 hfirst
    · exact not_sampleOf h1 hend1 hsecond
  have hlength : r.waypointsSize = r.waypoints.length := by
    rw [hsize, hwaypoints]
    rfl
  have hopen : source.search r ⟨0, 0, 4⟩ 2 = .ok (initial r ⟨0, 0, 4⟩) :=
    search_unsampled hlength (by rw [hsize]; decide) hno
  have hfound := findClosestPathPoint_closing (by rw [hsize]; rfl) hopen h2 hend2
  have hnear : source.distance (myPoint ⟨0, 0, 4⟩)
      (source.samplePoint (onMeridian (288 / 10000000)) (onMeridian 0) 1) <
        (initial r ⟨0, 0, 4⟩).closestDistance := source_bounded _ _
  have hzero := segment_near source_bounded 0 le_rfl hclosing hnear
  obtain ⟨c, hc, hfirst⟩ : ∃ c, r.findClosestPathPoint ⟨0, 0, 4⟩ = .ok c ∧
      c.startWaypointIndex = 0 := ⟨_, hfound, hzero⟩
  refine ⟨c, hc, hfirst, ?_⟩
  intro hstays
  obtain ⟨-, hone, -⟩ := hstays c hc (by rw [hfirst]; decide)
  rw [hfirst] at hone
  exact absurd hone (by decide)

end Solarbot.Nav
