import Solarbot.Nav.Nearest

/-!
# The samples that count

The search of the closest point passes over a sample that is not nearer to the rover than the one
it holds, or not nearer to the end of the segment. So what it holds after some segments is the
nearest of the samples that *count* (`counting`): those that are nearer to the rover than all
that counted before, and nearer to the end of their segment than those of the segment.
`search_closest` says so. Where the samples of a segment come closer and closer to its end, every
sample has one that counts and is as near (`exists_counting_le`).
-/

namespace Solarbot.Nav

namespace Geodesy

/-- A sample of the segment from a waypoint, with its distances from the rover and from the end of
the segment. -/
structure Sample where
  point : Point ℝ
  segment : Nat
  fromRover : ℝ
  toEnd : ℝ

/-- The sample is nearer to the rover than all of these, and nearer to the end of its segment than
those of its segment. -/
def Sample.Improves (s : Sample) (kept : List Sample) : Prop :=
  ∀ t ∈ kept, s.fromRover < t.fromRover ∧ (t.segment = s.segment → s.toEnd < t.toEnd)

open Classical in
/-- The sample is kept when it improves on those kept before. -/
noncomputable def keep (kept : List Sample) (s : Sample) : List Sample :=
  if s.Improves kept then kept ++ [s] else kept

/-- Those of the samples that count. -/
noncomputable def counting (l : List Sample) : List Sample := l.foldl keep []

/-- The search, over the first segments only. -/
def search {D : Type} [Dbl D] (g : Geodesy D) (r : Route D) (location : Location D)
    (segments : Nat) : Except Fault (Closest D) :=
  (List.range segments).foldlM (g.visitSegment r (myPoint location)) (initial r location)

section Samples

variable (g : Geodesy ℝ) (r : Route ℝ) (location : Location ℝ)

/-- The `i`-th sample of the line from `org` to `dest`. -/
noncomputable def sampleAt (index : Nat) (org dest : Point ℝ) (i : Nat) : Sample where
  point := g.samplePoint org dest i
  segment := index
  fromRover := g.distance (myPoint location) (g.samplePoint org dest i)
  toEnd := g.distance (g.samplePoint org dest i) dest

/-- The samples of the segment from waypoint `index`, in the order of the search. -/
noncomputable def lineSamples (index : Nat) : List Sample :=
  match r.waypointAt index, r.waypointAt (r.nextIndex index) with
  | .ok org, .ok dest =>
    (List.range' 1 ((g.steps org.point dest.point).toNat - 1)).map
      (g.sampleAt location index org.point dest.point)
  | _, _ => []

/-- The samples of the first segments. -/
noncomputable def pathSamples (segments : Nat) : List Sample :=
  (List.range segments).flatMap (g.lineSamples r location)

variable {g r location}

theorem pathSamples_succ (k : Nat) :
    g.pathSamples r location (k + 1) = g.pathSamples r location k ++ g.lineSamples r location k := by
  rw [pathSamples, List.range_succ, List.flatMap_append, List.flatMap_singleton]
  rfl

/-- The samples between two waypoints. -/
theorem lineSamples_ok {index : Nat} {org dest : Waypoint ℝ}
    (horg : r.waypointAt index = .ok org) (hdest : r.waypointAt (r.nextIndex index) = .ok dest) :
    g.lineSamples r location index =
      (List.range' 1 ((g.steps org.point dest.point).toNat - 1)).map
        (g.sampleAt location index org.point dest.point) := by
  rw [lineSamples, horg, hdest]

/-- A sample is one of the source's. -/
theorem mem_lineSamples {s : Sample} {index : Nat} : s ∈ g.lineSamples r location index ↔
    ∃ (org dest : Waypoint ℝ) (i : Nat), r.waypointAt index = .ok org ∧
      r.waypointAt (r.nextIndex index) = .ok dest ∧ 1 ≤ i ∧
      (i : Int) < g.steps org.point dest.point ∧
      s = g.sampleAt location index org.point dest.point i := by
  constructor
  · intro h
    unfold lineSamples at h
    split at h
    next org dest horg hdest =>
      obtain ⟨i, hi, rfl⟩ := List.mem_map.mp h
      rw [List.mem_range'_1] at hi
      exact ⟨org, dest, i, horg, hdest, hi.1, by omega, rfl⟩
    next => exact absurd h List.not_mem_nil
  · intro h
    obtain ⟨org, dest, i, horg, hdest, h1, hlt, rfl⟩ := h
    rw [lineSamples_ok horg hdest]
    refine List.mem_map_of_mem ?_
    rw [List.mem_range'_1]
    omega

/-- A sample of the path is one of a segment. -/
theorem mem_pathSamples {s : Sample} {segments : Nat} : s ∈ g.pathSamples r location segments ↔
    ∃ index < segments, s ∈ g.lineSamples r location index := by
  rw [pathSamples, List.mem_flatMap]
  constructor
  · rintro ⟨index, hindex, hmem⟩
    exact ⟨index, List.mem_range.mp hindex, hmem⟩
  · rintro ⟨index, hindex, hmem⟩
    exact ⟨index, List.mem_range.mpr hindex, hmem⟩

/-- It knows its segment. -/
theorem segment_of_mem {s : Sample} {index : Nat} (h : s ∈ g.lineSamples r location index) :
    s.segment = index := by
  obtain ⟨org, dest, i, -, -, -, -, rfl⟩ := mem_lineSamples.mp h
  rfl

/-- A sample of the path is a sample of a segment, with its distance from the rover. -/
theorem sampleOf_of_mem {s : Sample} {segments : Nat} (h : s ∈ g.pathSamples r location segments) :
    s.segment < segments ∧ g.SampleOf r s.segment s.point ∧
      s.fromRover = g.distance (myPoint location) s.point := by
  obtain ⟨index, hindex, hmem⟩ := mem_pathSamples.mp h
  obtain ⟨org, dest, i, horg, hdest, h1, hlt, rfl⟩ := mem_lineSamples.mp hmem
  exact ⟨hindex, ⟨org, dest, i, horg, hdest, h1, hlt, rfl⟩, rfl⟩

/-- Every sample of a segment is among them. -/
theorem mem_of_sampleOf (location : Location ℝ) {p : Point ℝ} {index segments : Nat}
    (hindex : index < segments) (h : g.SampleOf r index p) :
    ∃ s ∈ g.pathSamples r location segments,
      s.segment = index ∧ s.fromRover = g.distance (myPoint location) p := by
  obtain ⟨org, dest, i, horg, hdest, h1, hlt, rfl⟩ := h
  refine ⟨g.sampleAt location index org.point dest.point i, ?_, rfl, rfl⟩
  exact mem_pathSamples.mpr
    ⟨index, hindex, mem_lineSamples.mpr ⟨org, dest, i, horg, hdest, h1, hlt, rfl⟩⟩

end Samples

/-! ## What counts -/

theorem counting_concat (l : List Sample) (s : Sample) :
    counting (l ++ [s]) = keep (counting l) s := List.foldl_concat ..

/-- What counts is a sample. -/
theorem mem_of_mem_counting {l : List Sample} {s : Sample} (h : s ∈ counting l) : s ∈ l := by
  induction l using List.reverseRecOn with
  | nil => exact h
  | append_singleton l t ih =>
    rw [counting_concat, keep] at h
    split at h
    · rcases List.mem_append.mp h with hl | ht
      · exact List.mem_append_left _ (ih hl)
      · exact List.mem_append_right _ ht
    · exact List.mem_append_left _ (ih h)

/-- What counted goes on to count. -/
theorem mem_keep {kept : List Sample} {s : Sample} (h : s ∈ kept) (t : Sample) : s ∈ keep kept t := by
  unfold keep
  split
  · exact List.mem_append_left _ h
  · exact h

theorem mem_foldl_keep {kept : List Sample} {s : Sample} (h : s ∈ kept) (l : List Sample) :
    s ∈ l.foldl keep kept := by
  induction l generalizing kept with
  | nil => exact h
  | cons t l ih => exact ih (mem_keep h t)

/-- The first sample counts. -/
theorem head_mem_counting (s : Sample) (l : List Sample) : s ∈ counting (s :: l) := by
  have hfirst : keep [] s = [s] := if_pos fun t ht => absurd ht List.not_mem_nil
  show s ∈ l.foldl keep (keep [] s)
  rw [hfirst]
  exact mem_foldl_keep (List.mem_singleton_self s) l

/-- When the samples of a segment come closer to its end, each sample has one that counts and is
as near to the rover. -/
theorem exists_counting_le {l : List Sample}
    (h : l.Pairwise fun t s => t.segment = s.segment → s.toEnd < t.toEnd) :
    ∀ s ∈ l, ∃ t ∈ counting l, t.fromRover ≤ s.fromRover := by
  induction l using List.reverseRecOn with
  | nil => exact fun s hs => absurd hs List.not_mem_nil
  | append_singleton l u ih =>
    obtain ⟨hl, -, hlast⟩ := List.pairwise_append.mp h
    intro s hs
    rw [counting_concat]
    rcases List.mem_append.mp hs with hs | hs
    · obtain ⟨t, ht, hle⟩ := ih hl s hs
      exact ⟨t, mem_keep ht u, hle⟩
    · obtain rfl := List.mem_singleton.mp hs
      by_cases himproves : s.Improves (counting l)
      · refine ⟨s, ?_, le_rfl⟩
        rw [keep, if_pos himproves]
        exact List.mem_append_right _ (List.mem_singleton_self s)
      · -- one that counts is as near to the rover, since none is as near to the end
        unfold Sample.Improves at himproves
        push Not at himproves
        obtain ⟨t, ht, hnot⟩ := himproves
        refine ⟨t, mem_keep ht s, ?_⟩
        by_contra hnear
        obtain ⟨hsegment, hend⟩ := hnot (not_le.mp hnear)
        exact absurd (hlast t (mem_of_mem_counting ht) s (List.mem_singleton_self s) hsegment)
          (not_lt.mpr hend)

/-! ## What the search holds -/

variable {g : Geodesy ℝ} {r : Route ℝ} {location : Location ℝ}

/-- The two minima of the search, by the samples that count: `segment` is the one it is on. -/
structure Tracks (segment : Nat) (c : Closest ℝ) (kept : List Sample) : Prop where
  fromRover : ∀ d, d < c.closestDistance ↔ d < dblMax ∧ ∀ t ∈ kept, d < t.fromRover
  toEnd : ∀ d, d < c.closestDistanceToNextWaypoint ↔
    d < dblMax ∧ ∀ t ∈ kept, t.segment = segment → d < t.toEnd

/-- A sample that improves on those kept before holds both minima itself. -/
theorem Tracks.append {index : Nat} {c : Closest ℝ} {kept : List Sample} {s : Sample}
    (himproves : s.Improves kept) (hsegment : s.segment = index) (hrover : s.fromRover < dblMax)
    (hend : s.toEnd < dblMax) (hdistance : c.closestDistance = s.fromRover)
    (hnext : c.closestDistanceToNextWaypoint = s.toEnd) : Tracks index c (kept ++ [s]) := by
  have hlast : s ∈ kept ++ [s] := List.mem_append_right _ (List.mem_singleton_self s)
  constructor
  · intro d
    rw [hdistance]
    constructor
    · intro hd
      refine ⟨lt_trans hd hrover, ?_⟩
      intro t ht
      rcases List.mem_append.mp ht with ht | ht
      · exact lt_trans hd (himproves t ht).1
      · rwa [List.mem_singleton.mp ht]
    · exact fun hd => hd.2 s hlast
  · intro d
    rw [hnext]
    constructor
    · intro hd
      refine ⟨lt_trans hd hend, ?_⟩
      intro t ht hsame
      rcases List.mem_append.mp ht with ht | ht
      · exact lt_trans hd ((himproves t ht).2 (hsame.trans hsegment.symm))
      · rwa [List.mem_singleton.mp ht]
    · exact fun hd => hd.2 s hlast hsegment

/-- A round of the inner loop. -/
theorem visit_tracks (hbounded : g.Bounded) {org dest : Point ℝ} (next : Int) {index : Nat}
    {c : Closest ℝ} {kept : List Sample} (h : Tracks index c kept) (i : Nat) :
    Tracks index (g.visit (myPoint location) org dest next c i)
      (keep kept (g.sampleAt location index org dest i)) := by
  have hrover := hbounded (myPoint location) (g.samplePoint org dest i)
  have hend := hbounded (g.samplePoint org dest i) dest
  have himproves : (g.sampleAt location index org dest i).Improves kept ↔
      g.distance (myPoint location) (g.samplePoint org dest i) < c.closestDistance ∧
        g.distance (g.samplePoint org dest i) dest < c.closestDistanceToNextWaypoint := by
    rw [h.fromRover, h.toEnd]
    constructor
    · exact fun hall => ⟨⟨hrover, fun t ht => (hall t ht).1⟩, hend, fun t ht => (hall t ht).2⟩
    · exact fun hboth t ht => ⟨hboth.1.2 t ht, hboth.2.2 t ht⟩
  unfold visit keep
  simp only [real_lt, decide_eq_true_eq]
  by_cases hfirst : g.distance (myPoint location) (g.samplePoint org dest i) < c.closestDistance
  · by_cases hsecond : g.distance (g.samplePoint org dest i) dest < c.closestDistanceToNextWaypoint
    · have hall := himproves.mpr ⟨hfirst, hsecond⟩
      rw [if_pos hfirst, if_pos hsecond, if_pos hall]
      exact Tracks.append hall rfl hrover hend rfl rfl
    · rw [if_pos hfirst, if_neg hsecond, if_neg fun hall => hsecond (himproves.mp hall).2]
      exact h
  · rw [if_neg hfirst, if_neg fun hall => hfirst (himproves.mp hall).1]
    exact h

/-- The rounds of a segment, one after the other. -/
theorem foldl_visit_tracks (hbounded : g.Bounded) {org dest : Point ℝ} (next : Int) {index : Nat}
    (l : List Nat) {c : Closest ℝ} {kept : List Sample} (h : Tracks index c kept) :
    Tracks index (l.foldl (g.visit (myPoint location) org dest next) c)
      ((l.map (g.sampleAt location index org dest)).foldl keep kept) := by
  induction l generalizing c kept with
  | nil => exact h
  | cons i l ih => exact ih (visit_tracks hbounded next h i)

/-- The inner loop: the second minimum starts anew. -/
theorem segment_tracks (hbounded : g.Bounded) {index : Nat} {org dest : Waypoint ℝ}
    (horg : r.waypointAt index = .ok org) (hdest : r.waypointAt (r.nextIndex index) = .ok dest)
    {c : Closest ℝ} (hc : ∀ d, d < c.closestDistance ↔
      d < dblMax ∧ ∀ t ∈ counting (g.pathSamples r location index), d < t.fromRover) :
    Tracks index (g.segment (myPoint location) org.point dest.point (r.nextIndex index) c)
      (counting (g.pathSamples r location (index + 1))) := by
  rw [pathSamples_succ, counting, List.foldl_append, lineSamples_ok horg hdest]
  refine foldl_visit_tracks hbounded _ _ ⟨hc, ?_⟩
  intro d
  constructor
  · refine fun hd => ⟨hd, ?_⟩
    intro t ht hsegment
    have hlt := (sampleOf_of_mem (mem_of_mem_counting ht)).1
    omega
  · exact fun hd => hd.1

/-- **The search holds the nearest sample that counts**, and `DBL_MAX` when there is none. -/
theorem search_closest (hsize : r.waypointsSize = r.waypoints.length) (hbounded : g.Bounded)
    (location : Location ℝ) (segments : Nat) (h : segments ≤ r.waypointsSize.toNat) :
    ∃ c, g.search r location segments = .ok c ∧ ∀ d, d < c.closestDistance ↔
      d < dblMax ∧ ∀ t ∈ counting (g.pathSamples r location segments), d < t.fromRover := by
  refine Loops.foldlM_range (fun k (c : Closest ℝ) => ∀ d, d < c.closestDistance ↔
    d < dblMax ∧ ∀ t ∈ counting (g.pathSamples r location k), d < t.fromRover) segments ?_ ?_
  · refine fun d => ⟨fun hd => ⟨hd, fun t ht => ?_⟩, fun hd => hd.1⟩
    exact absurd (mem_of_mem_counting ht) List.not_mem_nil
  · intro k c hk hc
    obtain ⟨org, dest, horg, hdest⟩ := segment_ends hsize (lt_of_lt_of_le hk h)
    exact ⟨_, visitSegment_ok horg hdest _ c, (segment_tracks hbounded horg hdest hc).fromRover⟩

/-- Along the path, the samples of each segment come closer to its end. -/
theorem pathSamples_pairwise (happroaching : g.Approaching r) (location : Location ℝ)
    (segments : Nat) : (g.pathSamples r location segments).Pairwise
      fun t s => t.segment = s.segment → s.toEnd < t.toEnd := by
  rw [pathSamples, List.pairwise_flatMap]
  constructor
  · intro index _
    unfold lineSamples
    split
    next org dest horg hdest =>
      rw [List.pairwise_map]
      refine List.Pairwise.imp_of_mem ?_ (List.pairwise_lt_range' (s := 1) 1)
      intro i j hi hj hij _
      rw [List.mem_range'_1] at hi hj
      exact happroaching index org dest horg hdest ⟨hi.1, by omega⟩ ⟨hj.1, by omega⟩ hij
    next => exact List.Pairwise.nil
  · refine List.pairwise_lt_range.imp ?_
    intro index index' hlt t ht s hs hsegment
    rw [segment_of_mem ht, segment_of_mem hs] at hsegment
    omega

end Geodesy

end Solarbot.Nav
