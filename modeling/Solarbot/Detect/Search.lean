import Mathlib.Data.Rat.Defs
import Mathlib.Order.Basic
import Mathlib.Tactic.Common
import Solarbot.Lib.Minimum

/-!
# `Detect_object`: the search for obstacles

For each of its zones `search` looks at a part of a depth image. It marks the pixels with a
depth in the range of the zone, finds the contours of what is marked, and keeps those with an
area above the one of the zone. Then it goes over the marked pixels and keeps the smallest depth
for each contour: a pixel counts for the first contour that it is in. The smallest of these
depths that is in the range is the result.

Mirroring notes vs `Detect_object.cpp`:
- `findContours`, `contourArea` and `pointPolygonTest` are any functions (`OpenCV`). `inRange`
  and the view of a region are as they are documented; a region that is not inside the image is
  an exception, `none`.
- The depths are read with `at<int16_t>`, and kept so.
- The hierarchy of the contours and `closest_points` are for the debug window, and left out.
-/

namespace Solarbot.Detect

/-- `cv::Mat`, with one channel. -/
structure Mat (α : Type) where
  rows : Nat
  cols : Nat
  pixel : Nat → Nat → α

/-- `cv::Rect`. -/
structure Rect where
  x : Int
  y : Int
  width : Int
  height : Int

/-- `Detect_object::Zone`. -/
structure Zone where
  roi : Rect
  minDistance : UInt16
  maxDistance : UInt16
  minArea : Int

/-- The functions of OpenCV that are taken as they come. -/
structure OpenCV (Contour : Type) where
  findContours : Mat UInt8 → List Contour
  contourArea : Contour → ℚ
  pointPolygonTest : Contour → Nat → Nat → ℚ

/-- The rectangle is inside an image. -/
def Rect.Inside (rect : Rect) {α : Type} (m : Mat α) : Prop :=
  0 ≤ rect.x ∧ 0 ≤ rect.width ∧ rect.x + rect.width ≤ m.cols ∧
    0 ≤ rect.y ∧ 0 ≤ rect.height ∧ rect.y + rect.height ≤ m.rows

instance (rect : Rect) {α : Type} (m : Mat α) : Decidable (rect.Inside m) :=
  inferInstanceAs (Decidable (_ ∧ _))

/-- The pixels of a rectangle. -/
def Mat.view {α : Type} (m : Mat α) (rect : Rect) : Mat α where
  rows := rect.height.toNat
  cols := rect.width.toNat
  pixel := fun r c => m.pixel (rect.y.toNat + r) (rect.x.toNat + c)

/-- `(*mat_depth)(zone.ROI)`. -/
def Mat.region {α : Type} (m : Mat α) (rect : Rect) : Option (Mat α) :=
  if rect.Inside m then some (m.view rect) else none

/-- `cv::inRange`. -/
def inRange (roi : Mat UInt16) (lower upper : UInt16) : Mat UInt8 where
  rows := roi.rows
  cols := roi.cols
  pixel := fun r c => if lower ≤ roi.pixel r c ∧ roi.pixel r c ≤ upper then 255 else 0

section Search

variable {Contour : Type} (cv : OpenCV Contour)

/-- The contours with enough area. -/
def filteredCountours (mask : Mat UInt8) (minArea : Int) : List Contour :=
  (cv.findContours mask).filter fun countour => (minArea : ℚ) < cv.contourArea countour

/-- The contour that the pixel counts for: the loop over them stops at the first. -/
def owner (countours : List Contour) (r c : Nat) : Option Nat :=
  countours.findIdx? fun countour => 0 ≤ cv.pointPolygonTest countour c r

/-- What one pixel does to `closest_points_value`. -/
def visit (roi : Mat UInt16) (mask : Mat UInt8) (countours : List Contour) (closest : List Int16)
    (r c : Nat) : List Int16 :=
  if mask.pixel r c = 255 then
    match owner cv countours r c with
    | some i =>
      let v := (roi.pixel r c).toInt16
      closest.modify i fun value => if v < value then v else value
    | none => closest
  else closest

/-- `closest_points_value` after the loops over the rows and the columns. -/
def closestPointsValue (roi : Mat UInt16) (mask : Mat UInt8) (countours : List Contour) :
    List Int16 :=
  (List.range roi.rows).foldl
    (fun closest r => (List.range roi.cols).foldl
      (fun closest c => visit cv roi mask countours closest r c) closest)
    (List.replicate countours.length 10000)

/-- The smallest value that is in the range of the zone. -/
def zoneResult (zone : Zone) (closest : List Int16) : UInt16 :=
  closest.foldl
    (fun result value =>
      if ((zone.minDistance.toNat : Int) ≤ value.toInt ∧
          value.toInt ≤ (zone.maxDistance.toNat : Int)) ∧ value.toInt < (result.toNat : Int) then
        value.toUInt16
      else result)
    65535

/-- One round of the loop over the zones. -/
def searchZone (matDepth : Mat UInt16) (zone : Zone) : Option UInt16 := do
  let roi ← matDepth.region zone.roi
  let mask := inRange roi zone.minDistance zone.maxDistance
  let countours := filteredCountours cv mask zone.minArea
  return zoneResult zone (closestPointsValue cv roi mask countours)

/-- `search`. -/
def search (zones : List Zone) (matDepth : Mat UInt16) : Option (List UInt16) :=
  zones.mapM (searchZone cv matDepth)

end Search

/-! ## The pixels, one by one -/

/-- The pixels of an image, in the order of the loops. -/
def Mat.points {α : Type} (m : Mat α) : List (Nat × Nat) :=
  (List.range m.rows).flatMap fun r => (List.range m.cols).map fun c => (r, c)

theorem Mat.mem_points {α : Type} {m : Mat α} {p : Nat × Nat} :
    p ∈ m.points ↔ p.1 < m.rows ∧ p.2 < m.cols := by
  obtain ⟨r, c⟩ := p
  simp [points]

section Loops

variable {Contour : Type} (cv : OpenCV Contour) (roi : Mat UInt16) (mask : Mat UInt8)
  (countours : List Contour)

theorem closestPointsValue_eq :
    closestPointsValue cv roi mask countours =
      roi.points.foldl (fun closest p => visit cv roi mask countours closest p.1 p.2)
        (List.replicate countours.length 10000) := by
  unfold closestPointsValue Mat.points
  rw [List.foldl_flatMap]
  simp only [List.foldl_map]

/-- The pixel counts for the contour `i`. -/
def Counts (i : Nat) (p : Nat × Nat) : Prop :=
  mask.pixel p.1 p.2 = 255 ∧ owner cv countours p.1 p.2 = some i

instance (i : Nat) (p : Nat × Nat) : Decidable (Counts cv mask countours i p) :=
  inferInstanceAs (Decidable (_ ∧ _))

/-- The depth of a pixel, as the loops read it. -/
def Mat.value (p : Nat × Nat) : Int16 := (roi.pixel p.1 p.2).toInt16

/-- One pixel changes the value of its contour, if any. -/
theorem visit_getElem? (closest : List Int16) (p : Nat × Nat) (i : Nat) :
    (visit cv roi mask countours closest p.1 p.2)[i]? =
      closest[i]?.map fun value =>
        Minimum.keep (Counts cv mask countours i) roi.value Int16.toInt value p := by
  have hkeep : ¬ Counts cv mask countours i p → closest[i]? = closest[i]?.map fun value =>
      Minimum.keep (Counts cv mask countours i) roi.value Int16.toInt value p := by
    intro h
    have hsame : ∀ value,
        Minimum.keep (Counts cv mask countours i) roi.value Int16.toInt value p = value :=
      fun value => if_neg fun hp => h hp.1
    simp only [hsame, Option.map_id']
  unfold visit
  by_cases hmask : mask.pixel p.1 p.2 = 255
  · rw [if_pos hmask]
    cases howner : owner cv countours p.1 p.2 with
    | none => exact hkeep fun h => absurd (howner.symm.trans h.2) (by simp)
    | some j =>
      by_cases hj : j = i
      · subst hj
        have hcounts : Counts cv mask countours j p := ⟨hmask, howner⟩
        dsimp only
        rw [List.getElem?_modify_eq]
        refine congrArg (fun f => closest[j]?.map f) (funext fun value => ?_)
        unfold Minimum.keep
        simp only [hcounts, true_and, Int16.lt_iff_toInt_lt]
        rfl
      · have hne : ¬ Counts cv mask countours i p :=
          fun h => hj (Option.some.inj (howner.symm.trans h.2))
        dsimp only
        rw [List.getElem?_modify_ne _ _ hj]
        exact hkeep hne
  · rw [if_neg hmask]
    exact hkeep fun h => hmask h.1

/-- All pixels. -/
theorem foldl_visit_getElem? (points : List (Nat × Nat)) (closest : List Int16) (i : Nat) :
    (points.foldl (fun closest p => visit cv roi mask countours closest p.1 p.2) closest)[i]? =
      closest[i]?.map fun value =>
        points.foldl (Minimum.keep (Counts cv mask countours i) roi.value Int16.toInt) value := by
  induction points generalizing closest with
  | nil => simp
  | cons p points ih =>
    rw [List.foldl_cons, ih, visit_getElem?, Option.map_map]
    rfl

/-- **What is kept for a contour**: the smallest of 10000 and the depths of its pixels. -/
theorem closestPointsValue_getElem? (i : Nat) :
    (closestPointsValue cv roi mask countours)[i]? =
      if i < countours.length then
        some (roi.points.foldl
          (Minimum.keep (Counts cv mask countours i) roi.value Int16.toInt) 10000)
      else none := by
  rw [closestPointsValue_eq, foldl_visit_getElem?, List.getElem?_replicate]
  split
  next => rfl
  next => rfl

end Loops

/-! ## Signed and unsigned -/

/-- A depth as it is read: from 32768 on it is negative. -/
theorem toInt16_toInt (d : UInt16) :
    d.toInt16.toInt = if d.toNat < 32768 then (d.toNat : Int) else d.toNat - 65536 := by
  show d.toBitVec.toInt = _
  rw [BitVec.toInt_eq_toNat_cond]
  show (if 2 * d.toNat < 65536 then (d.toNat : Int) else d.toNat - 65536) = _
  split
  next h => rw [if_pos (by omega)]
  next h => rw [if_neg (by omega)]

theorem toUInt16_toNat {value : Int16} (h : 0 ≤ value.toInt) :
    (value.toUInt16.toNat : Int) = value.toInt := by
  have hsigned := toInt16_toInt value.toUInt16
  have hlt := value.toUInt16.toNat_lt
  rw [Int16.toInt16_toUInt16] at hsigned
  split at hsigned
  next => exact hsigned.symm
  next => omega

/-- The value is in the range of the zone. -/
def Zone.Takes (zone : Zone) (value : Int16) : Prop :=
  (zone.minDistance.toNat : Int) ≤ value.toInt ∧ value.toInt ≤ (zone.maxDistance.toNat : Int)

instance (zone : Zone) (value : Int16) : Decidable (zone.Takes value) :=
  inferInstanceAs (Decidable (_ ∧ _))

/-- The result is the smallest of the values in the range, or 65535. -/
theorem zoneResult_isLeast (zone : Zone) (closest : List Int16) :
    IsLeast (insert (65535 : Int) {x | ∃ value ∈ closest, zone.Takes value ∧ value.toInt = x})
      ((zoneResult zone closest).toNat : Int) := by
  let key : UInt16 → Int := fun result => result.toNat
  have hkey : ∀ {value : Int16}, zone.Takes value → key value.toUInt16 = value.toInt :=
    fun h => toUInt16_toNat (by have := h.1; omega)
  have hround : zoneResult zone closest =
      closest.foldl (Minimum.keep zone.Takes Int16.toUInt16 key) 65535 := by
    unfold zoneResult
    refine congrArg (fun f => closest.foldl f 65535) (funext fun result => funext fun value => ?_)
    refine if_congr (and_congr_right fun h => ?_) rfl rfl
    rw [hkey h]
  have hvalues : {x | ∃ value ∈ closest, zone.Takes value ∧ value.toInt = x} =
      Minimum.values zone.Takes Int16.toUInt16 key closest := by
    ext x
    refine exists_congr fun value => and_congr_right fun _ => and_congr_right fun h => ?_
    rw [hkey h]
  rw [hround, hvalues]
  exact Minimum.isLeast_foldl zone.Takes Int16.toUInt16 key closest 65535

end Solarbot.Detect
