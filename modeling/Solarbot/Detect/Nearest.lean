import Mathlib.Data.List.Forall2
import Solarbot.Detect.Search

/-!
# Is the nearest obstacle found?

A zone asks for the smallest depth of the pixels that are in its range and in a contour, or
65535 when there is none (`IsNearest`). The loops keep depths in 16 bits with a sign, and begin
with 10000. So a contour with a pixel from 32768 on keeps a negative depth and is not looked at
in the end, and any other keeps at most 10000, also when none of its pixels is as near, or when
all of them count for other contours. `search_iff` says exactly when the results are right in
spite of this.
-/

namespace Solarbot.Detect

/-! ## What is kept for a contour -/

section Choice

variable {P : Type*} {depth : P → Int}

/-- A depth as the loops see it. -/
def signed (x : Int) : Int := if x < 32768 then x else x - 65536

/-- All of these are seen as they are. -/
def Clean (depth : P → Int) (counts : P → Prop) : Prop := ∀ p, counts p → depth p < 32768

/-- What the loops keep for a contour, of the pixels that count for it. -/
def Kept (depth : P → Int) (counts : P → Prop) (w : Int) : Prop :=
  IsLeast (insert 10000 {x | ∃ p, counts p ∧ signed (depth p) = x}) w

variable {counts : P → Prop} {w : Int}

/-- It is 10000 at most, where the search starts. -/
theorem Kept.le (h : Kept depth counts w) : w ≤ 10000 := h.2 (Set.mem_insert _ _)

/-- A contour with a pixel that is not clean ends below zero. -/
theorem Kept.negative (h : Kept depth counts w) (hdepth : ∀ p, depth p ≤ 65535)
    (hclean : ¬ Clean depth counts) : w < 0 := by
  obtain ⟨p, hp⟩ := not_forall.mp hclean
  obtain ⟨hcounts, hfar⟩ := Classical.not_imp.mp hp
  have hle : w ≤ signed (depth p) := h.2 (.inr ⟨p, hcounts, rfl⟩)
  have hmax := hdepth p
  rw [signed, if_neg hfar] at hle
  omega

/-- A clean contour keeps the least of 10000 and its depths. -/
theorem Kept.clean (h : Kept depth counts w) (hclean : Clean depth counts) :
    (w = 10000 ∨ ∃ p, counts p ∧ depth p = w) ∧ ∀ p, counts p → w ≤ depth p := by
  have hsigned : ∀ p, counts p → signed (depth p) = depth p := fun p hp => if_pos (hclean p hp)
  constructor
  · rcases h.1 with hw | ⟨p, hp, hw⟩
    · exact .inl hw
    · exact .inr ⟨p, hp, (hsigned p hp).symm.trans hw⟩
  · intro p hp
    exact h.2 (.inr ⟨p, hp, hsigned p hp⟩)

variable {n : Nat} {pixels : Nat → P → Prop} {lower upper r d : Int} {w : Nat → Int}

/-- The condition, for the depth `d` that is looked for. One below 10000 is the depth of a pixel
of a clean contour. For 10000 some contour is clean. And for none at all, 10000 is out of the
range, or no contour is clean. -/
def Found (depth : P → Int) (n : Nat) (pixels : Nat → P → Prop) (lower upper d : Int) : Prop :=
  (d < 10000 ∧ ∃ i < n, Clean depth (pixels i) ∧ ∃ p, pixels i p ∧ depth p = d) ∨
    (d = 10000 ∧ ∃ i < n, Clean depth (pixels i)) ∨
    (d = 65535 ∧ (lower ≤ 10000 → 10000 ≤ upper → ∀ i < n, ¬ Clean depth (pixels i)))

/-- A zone with `n` contours: what was kept for them, the least `r` of these that is in the range,
and the depth `d` that is looked for. -/
structure Choice (depth : P → Int) (n : Nat) (pixels : Nat → P → Prop) (lower upper : Int)
    (w : Nat → Int) (r d : Int) : Prop where
  depth_le : ∀ p, depth p ≤ 65535
  lower_nonneg : 0 ≤ lower
  range : ∀ i p, i < n → pixels i p → lower ≤ depth p ∧ depth p ≤ upper
  kept : ∀ i < n, Kept depth (pixels i) (w i)
  result : IsLeast (insert 65535 {x | ∃ i < n, (lower ≤ w i ∧ w i ≤ upper) ∧ w i = x}) r
  nearest : IsLeast (insert 65535 {x | ∃ i < n, ∃ p, pixels i p ∧ depth p = x}) d

namespace Choice

variable (h : Choice depth n pixels lower upper w r d)
include h

/-- The nearest distance is below each depth. -/
theorem le_depth {i : Nat} {p : P} (hi : i < n) (hp : pixels i p) : d ≤ depth p :=
  h.nearest.2 (.inr ⟨i, hi, p, hp, rfl⟩)

/-- The result is below each value that is kept. -/
theorem le_kept {i : Nat} (hi : i < n) (hlo : lower ≤ w i) (hhi : w i ≤ upper) : r ≤ w i :=
  h.result.2 (.inr ⟨i, hi, ⟨hlo, hhi⟩, rfl⟩)

/-- The value of a clean contour is 10000, or not below the depth that is looked for. -/
theorem kept_cases {i : Nat} (hi : i < n) (hclean : Clean depth (pixels i)) :
    w i = 10000 ∨ w i ≤ 10000 ∧ d ≤ w i ∧ ∃ p, pixels i p ∧ depth p = w i := by
  have hkept := h.kept i hi
  rcases (hkept.clean hclean).1 with hw | ⟨p, hp, hw⟩
  · exact .inl hw
  · exact .inr ⟨hkept.le, hw ▸ h.le_depth hi hp, p, hp, hw⟩

/-- A contour whose value is in the range is clean. -/
theorem clean {i : Nat} (hi : i < n) (hlo : lower ≤ w i) : Clean depth (pixels i) := by
  by_contra hdirty
  have hneg := (h.kept i hi).negative h.depth_le hdirty
  have hnonneg := h.lower_nonneg
  omega

/-- The result is 65535, or the value of a clean contour. -/
theorem result_cases : r = 65535 ∨ ∃ i < n, Clean depth (pixels i) ∧ w i = r := by
  rcases h.result.1 with hr | ⟨i, hi, ⟨hlo, -⟩, hr⟩
  · exact .inl hr
  · exact .inr ⟨i, hi, h.clean hi hlo, hr⟩

/-- A depth below 65535 is in the range. -/
theorem nearest_range (hd : d ≠ 65535) : lower ≤ d ∧ d ≤ upper := by
  rcases h.nearest.1 with hmax | ⟨i, hi, p, hp, rfl⟩
  · exact absurd hmax hd
  · exact h.range i p hi hp

/-- The result is no less than the nearest distance. -/
theorem le_result (hd : d ≤ 10000) : d ≤ r := by
  rcases h.result_cases with hr | ⟨i, hi, hclean, hr⟩
  · omega
  · rcases h.kept_cases hi hclean with hkept | ⟨-, hkept, -⟩
    · omega
    · omega

/-- A result that is the distance has found it. -/
theorem found (heq : r = d) : Found depth n pixels lower upper d := by
  rcases h.result_cases with hr | ⟨i, hi, hclean, hr⟩
  · -- no value is in the range, so none is 10000
    refine .inr (.inr ⟨heq.symm.trans hr, fun hlo hhi i hi hclean => ?_⟩)
    have hkept : w i = 10000 := by
      rcases h.kept_cases hi hclean with hkept | ⟨hle, hge, -⟩
      · exact hkept
      · omega
    have hle := h.le_kept hi (by omega) (by omega)
    omega
  · rcases h.kept_cases hi hclean with hkept | ⟨hle, -, p, hp, hw⟩
    · exact .inr (.inl ⟨by omega, i, hi, hclean⟩)
    · rcases Int.lt_or_eq_of_le hle with hlt | hten
      · exact .inl ⟨by omega, i, hi, hclean, p, hp, by omega⟩
      · exact .inr (.inl ⟨by omega, i, hi, hclean⟩)

/-- What is found is the result. -/
theorem eq_of_found (hfound : Found depth n pixels lower upper d) : r = d := by
  rcases hfound with ⟨hd, i, hi, hclean, p, hp, hw⟩ | ⟨hd, i, hi, hclean⟩ | ⟨hd, hnone⟩
  · -- the contour keeps this depth
    have hle := ((h.kept i hi).clean hclean).2 p hp
    have hkept : w i = d := by
      rcases h.kept_cases hi hclean with hkept | ⟨-, hge, -⟩
      · omega
      · omega
    obtain ⟨hlo, hhi⟩ := h.nearest_range (by omega)
    have hresult := h.le_kept hi (by omega) (by omega)
    have hge := h.le_result (by omega)
    omega
  · -- it keeps 10000
    have hkept : w i = 10000 := by
      rcases h.kept_cases hi hclean with hkept | ⟨hle, hge, -⟩
      · exact hkept
      · omega
    obtain ⟨hlo, hhi⟩ := h.nearest_range (by omega)
    have hresult := h.le_kept hi (by omega) (by omega)
    have hge := h.le_result (by omega)
    omega
  · -- a value in the range would be 10000
    rcases h.result.1 with hr | ⟨i, hi, ⟨hlo, hhi⟩, hr⟩
    · omega
    · have hclean := h.clean hi hlo
      rcases h.kept_cases hi hclean with hkept | ⟨hle, hge, -⟩
      · exact absurd hclean (hnone (by omega) (by omega) i hi)
      · omega

end Choice

end Choice

/-! ## What a zone asks for -/

namespace Zone

variable {Contour : Type} (cv : OpenCV Contour) (m : Mat UInt16) (zone : Zone)

/-- The pixels in the range. -/
def mask : Mat UInt8 := inRange (m.view zone.roi) zone.minDistance zone.maxDistance

/-- The contours above the area. -/
def countours : List Contour := filteredCountours cv (zone.mask m) zone.minArea

def depth (p : Nat × Nat) : Int := ((m.view zone.roi).pixel p.1 p.2).toNat

/-- The pixel of the region is in the range, and in a contour above the area or on it. -/
structure Reaches (p : Nat × Nat) : Prop where
  row : p.1 < (m.view zone.roi).rows
  col : p.2 < (m.view zone.roi).cols
  lower : (zone.minDistance.toNat : Int) ≤ zone.depth m p
  upper : zone.depth m p ≤ zone.maxDistance.toNat
  countour : ∃ countour ∈ cv.findContours (zone.mask m),
    (zone.minArea : ℚ) < cv.contourArea countour ∧ 0 ≤ cv.pointPolygonTest countour p.2 p.1

/-- The smallest depth of these pixels, or `UINT16_MAX`. -/
def IsNearest (d : Int) : Prop :=
  IsLeast (insert 65535 {x | ∃ p, zone.Reaches cv m p ∧ zone.depth m p = x}) d

/-- The pixel of the region counts for the contour `i`, as the first that it is in. -/
def Pixel (i : Nat) (p : Nat × Nat) : Prop :=
  p ∈ (m.view zone.roi).points ∧ Counts cv (zone.mask m) (zone.countours cv m) i p

/-- The loops find the depth that the zone asks for. -/
def Finds : Prop :=
  ∃ d, zone.IsNearest cv m d ∧ Found (zone.depth m) (zone.countours cv m).length
    (zone.Pixel cv m) zone.minDistance.toNat zone.maxDistance.toNat d

variable {cv m zone}

/-- The mask has the pixels between the two distances of the zone. -/
theorem mask_iff (p : Nat × Nat) : (zone.mask m).pixel p.1 p.2 = 255 ↔
    (zone.minDistance.toNat : Int) ≤ zone.depth m p ∧ zone.depth m p ≤ zone.maxDistance.toNat := by
  unfold mask inRange depth
  dsimp only
  rw [Int.ofNat_le, Int.ofNat_le, ← UInt16.le_iff_toNat_le, ← UInt16.le_iff_toNat_le]
  split
  next h => exact iff_of_true rfl h
  next h => exact iff_of_false (by decide) h

/-- A pixel is in one of the contours when it counts for one. -/
theorem owner_iff {countours : List Contour} {r c : Nat} :
    (∃ i < countours.length, owner cv countours r c = some i) ↔
      ∃ countour ∈ countours, 0 ≤ cv.pointPolygonTest countour c r := by
  unfold owner
  constructor
  · rintro ⟨i, -, hi⟩
    obtain ⟨hlt, htest, -⟩ := List.findIdx?_eq_some_iff_getElem.mp hi
    exact ⟨countours[i], List.getElem_mem hlt, of_decide_eq_true htest⟩
  · rintro ⟨countour, hmem, htest⟩
    let holds := fun countour => decide (0 ≤ cv.pointPolygonTest countour c r)
    have hfirst : countours.findIdx? holds = some (countours.findIdx holds) :=
      List.findIdx?_eq_some_of_exists ⟨countour, hmem, decide_eq_true htest⟩
    exact ⟨_, (List.findIdx?_eq_some_iff_getElem.mp hfirst).1, hfirst⟩

/-- A pixel is reached when a contour has it. -/
theorem reaches_iff (p : Nat × Nat) :
    zone.Reaches cv m p ↔ ∃ i < (zone.countours cv m).length, zone.Pixel cv m i p := by
  have hcountour : (∃ countour ∈ cv.findContours (zone.mask m),
      (zone.minArea : ℚ) < cv.contourArea countour ∧ 0 ≤ cv.pointPolygonTest countour p.2 p.1) ↔
        ∃ countour ∈ zone.countours cv m, 0 ≤ cv.pointPolygonTest countour p.2 p.1 := by
    simp only [countours, filteredCountours, List.mem_filter, decide_eq_true_eq, and_assoc]
  constructor
  · intro h
    obtain ⟨i, hi, howner⟩ := owner_iff.mpr (hcountour.mp h.countour)
    exact ⟨i, hi, Mat.mem_points.mpr ⟨h.row, h.col⟩, (mask_iff p).mpr ⟨h.lower, h.upper⟩, howner⟩
  · rintro ⟨i, hi, hpoint, hmask, howner⟩
    obtain ⟨hrow, hcol⟩ := Mat.mem_points.mp hpoint
    obtain ⟨hlower, hupper⟩ := (mask_iff p).mp hmask
    exact ⟨hrow, hcol, hlower, hupper, hcountour.mpr (owner_iff.mp ⟨i, hi, howner⟩)⟩

/-- What the loops keep for the contour `i`. -/
def keptValue (cv : OpenCV Contour) (m : Mat UInt16) (zone : Zone) (i : Nat) : Int16 :=
  (m.view zone.roi).points.foldl
    (Minimum.keep (Counts cv (zone.mask m) (zone.countours cv m) i) (m.view zone.roi).value
      Int16.toInt) 10000

/-- What the loop over a contour keeps. -/
theorem kept_keptValue (i : Nat) :
    Kept (zone.depth m) (zone.Pixel cv m i) (zone.keptValue cv m i).toInt := by
  have hvalue : ∀ p, ((m.view zone.roi).value p).toInt = signed (zone.depth m p) := by
    intro p
    rw [Mat.value, toInt16_toInt, signed, depth]
    exact if_congr (by omega) rfl rfl
  have hvalues : {x | ∃ p, zone.Pixel cv m i p ∧ signed (zone.depth m p) = x} =
      Minimum.values (Counts cv (zone.mask m) (zone.countours cv m) i) (m.view zone.roi).value
        Int16.toInt (m.view zone.roi).points := by
    ext x
    refine exists_congr fun p => ?_
    rw [hvalue]
    exact and_assoc
  rw [Kept, hvalues]
  exact Minimum.isLeast_foldl _ _ _ _ (10000 : Int16)

/-- The values that the last loop goes over. -/
theorem mem_closest (value : Int16) :
    value ∈ closestPointsValue cv (m.view zone.roi) (zone.mask m) (zone.countours cv m) ↔
      ∃ i < (zone.countours cv m).length, zone.keptValue cv m i = value := by
  rw [List.mem_iff_getElem?]
  refine exists_congr fun i => ?_
  rw [closestPointsValue_getElem?]
  by_cases hi : i < (zone.countours cv m).length
  · rw [if_pos hi, Option.some.injEq]
    exact ⟨fun h => ⟨hi, h⟩, fun h => h.2⟩
  · rw [if_neg hi]
    exact iff_of_false (by simp) fun h => hi h.1

/-- What `search` returns for the zone. -/
def result (cv : OpenCV Contour) (m : Mat UInt16) (zone : Zone) : UInt16 :=
  zoneResult zone (closestPointsValue cv (m.view zone.roi) (zone.mask m) (zone.countours cv m))

/-- The zone and its contours, as a choice. -/
theorem choice {d : Int} (hd : zone.IsNearest cv m d) :
    Choice (zone.depth m) (zone.countours cv m).length (zone.Pixel cv m) zone.minDistance.toNat
      zone.maxDistance.toNat (fun i => (zone.keptValue cv m i).toInt) (zone.result cv m).toNat d where
  depth_le := by
    intro p
    have hlt := ((m.view zone.roi).pixel p.1 p.2).toNat_lt
    unfold depth
    omega
  lower_nonneg := Int.natCast_nonneg _
  range := fun i p hi hp => (mask_iff p).mp hp.2.1
  kept := fun i _ => kept_keptValue i
  result := by
    have hleast := zoneResult_isLeast zone
      (closestPointsValue cv (m.view zone.roi) (zone.mask m) (zone.countours cv m))
    -- the values of the closest points are those that the loops keep
    have hvalues : ∀ x, (∃ value ∈ closestPointsValue cv (m.view zone.roi) (zone.mask m)
        (zone.countours cv m), zone.Takes value ∧ value.toInt = x) ↔
        ∃ i < (zone.countours cv m).length, zone.Takes (zone.keptValue cv m i) ∧
          (zone.keptValue cv m i).toInt = x := by
      intro x
      simp only [mem_closest]
      constructor
      · rintro ⟨_, ⟨i, hi, rfl⟩, h⟩
        exact ⟨i, hi, h⟩
      · rintro ⟨i, hi, h⟩
        exact ⟨_, ⟨i, hi, rfl⟩, h⟩
    simp only [hvalues] at hleast
    exact hleast
  nearest := by
    -- and the pixels that are reached are those of the contours
    have hdepths : ∀ x, (∃ p, zone.Reaches cv m p ∧ zone.depth m p = x) ↔
        ∃ i < (zone.countours cv m).length, ∃ p, zone.Pixel cv m i p ∧ zone.depth m p = x := by
      intro x
      simp only [reaches_iff]
      constructor
      · rintro ⟨p, ⟨i, hi, hp⟩, h⟩
        exact ⟨i, hi, p, hp, h⟩
      · rintro ⟨i, hi, p, hp, h⟩
        exact ⟨p, ⟨i, hi, hp⟩, h⟩
    rw [IsNearest] at hd
    simp only [hdepths] at hd
    exact hd

/-- **One zone.** -/
theorem isNearest_iff : zone.IsNearest cv m (zone.result cv m).toNat ↔ zone.Finds cv m := by
  constructor
  · intro h
    exact ⟨_, h, (choice h).found rfl⟩
  · rintro ⟨d, hd, hfound⟩
    exact (choice hd).eq_of_found hfound ▸ hd

/-- A zone is searched when it is in the picture. -/
theorem searchZone_eq :
    searchZone cv m zone = if zone.roi.Inside m then some (zone.result cv m) else none := by
  unfold searchZone Mat.region
  split
  next => rfl
  next => rfl

end Zone

/-! ## All zones -/

variable {Contour : Type}

/-- An exception in one zone ends the search. -/
theorem search_eq (cv : OpenCV Contour) (zones : List Zone) (m : Mat UInt16) :
    search cv zones m =
      if ∀ zone ∈ zones, zone.roi.Inside m then some (zones.map (Zone.result cv m)) else none := by
  induction zones with
  | nil => rfl
  | cons zone zones ih =>
    rw [search, List.mapM_cons, Zone.searchZone_eq]
    rw [search] at ih
    have hcons : (∀ z ∈ zone :: zones, z.roi.Inside m) ↔
        zone.roi.Inside m ∧ ∀ z ∈ zones, z.roi.Inside m := List.forall_mem_cons
    by_cases hzone : zone.roi.Inside m
    · rw [if_pos hzone, ih]
      by_cases hzones : ∀ zone ∈ zones, zone.roi.Inside m
      · rw [if_pos hzones, if_pos (hcons.mpr ⟨hzone, hzones⟩)]
        rfl
      · rw [if_neg hzones, if_neg fun h => hzones (hcons.mp h).2]
        rfl
    · rw [if_neg hzone, if_neg fun h => hzone (hcons.mp h).1]
      rfl

/-- **When `search` finds the nearest obstacles**: the result of each zone is the depth that it
asks for exactly when each has its region inside the image, and the loops find what it asks for. -/
theorem search_iff (cv : OpenCV Contour) (zones : List Zone) (m : Mat UInt16) :
    (∃ results, search cv zones m = some results ∧
      List.Forall₂ (fun zone result => zone.IsNearest cv m (UInt16.toNat result)) zones results) ↔
      ∀ zone ∈ zones, zone.roi.Inside m ∧ zone.Finds cv m := by
  have hforall : List.Forall₂ (fun zone result => zone.IsNearest cv m (UInt16.toNat result)) zones
      (zones.map (Zone.result cv m)) ↔ ∀ zone ∈ zones, zone.Finds cv m := by
    rw [List.forall₂_map_right_iff, List.forall₂_same]
    exact forall₂_congr fun zone _ => Zone.isNearest_iff
  rw [search_eq, forall₂_and, ← hforall]
  constructor
  · rintro ⟨results, hsome, hnearest⟩
    split at hsome
    next hinside =>
      obtain rfl := Option.some.inj hsome
      exact ⟨hinside, hnearest⟩
    next => exact absurd hsome (by simp)
  · rintro ⟨hinside, hnearest⟩
    exact ⟨_, if_pos hinside, hnearest⟩

/-! ## A wall that is not found -/

/-- A wall in 12 metres. -/
def wall : Mat UInt16 where
  rows := 3
  cols := 3
  pixel := fun _ _ => 12000

/-- The zone looks from 9 to 20 metres. -/
def farZone : Zone where
  roi := { x := 0, y := 0, width := 3, height := 3 }
  minDistance := 9000
  maxDistance := 20000
  minArea := 1

/-- One contour, around all pixels of an image of this size. -/
def square : OpenCV Unit where
  findContours := fun _ => [()]
  contourArea := fun _ => 4
  pointPolygonTest := fun _ c r => if 0 < c ∧ c < 2 ∧ 0 < r ∧ r < 2 then 1 else 0

theorem search_wall :
    ¬ ∃ results, search square [farZone] wall = some results ∧
      List.Forall₂ (fun zone result => zone.IsNearest square wall (UInt16.toNat result)) [farZone]
        results := by
  rintro ⟨results, hsearch, hnearest⟩
  have hten : search square [farZone] wall = some [10000] := by decide +kernel
  obtain rfl := Option.some.inj (hten.symm.trans hsearch)
  rcases (List.forall₂_cons.mp hnearest).1.1 with h | ⟨p, -, h⟩
  · exact absurd h (by decide)
  · have hdepth : (12000 : Int) = 10000 := h
    exact absurd hdepth (by decide)

end Solarbot.Detect
