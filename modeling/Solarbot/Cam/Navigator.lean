import Mathlib.Data.Int.Range
import Solarbot.Detect.Search
import Solarbot.Lib.Buckets
import Solarbot.Lib.Single

/-!
# `CamNavigator`: the region of the image, and the rows in it

The camera looks at the rows of a crop from above. `Init` lays a search region into the zoomed
image and separation lines between the rows into the region. For each image `ProcessImage`
looks for centers of plants in the region, puts them into a bucket for each row (`separator`)
and takes the best row that is next to the rover (`selectRow`).

Mirroring notes vs `CamNavigator.cpp`:
- The members are of 32 bits, and the region is computed with them.
- The numbers of the rows, the lines and the reference are read in two ways (`Numbers`): as exact
  numbers, and as those of the machine, where an `int` wraps and a line, as a `Point2f`, has
  coordinates of 24 bits.
- `double` is exact, and so are the `float`s of a center; a number that is too large for an `int`
  becomes the smallest one.
- `Init` fails in the end when the video file cannot be opened: `opened` says if it can.
- An index outside a vector is a `Fault`.
- The interest region and the perspective transform are left out: nothing here reads them.
-/

namespace Solarbot.Cam

open Detect

/-- `cv::Point2f`. -/
structure Point2f where
  x : ℚ
  y : ℚ
  deriving DecidableEq

/-- A line is a vector of its two ends. -/
abbrev Line : Type := Point2f × Point2f

abbrev searchWidth : Int32 := 420

abbrev searchHeight : Int32 := 256

structure CamNavigator where
  rowWidth : Int32 := 124
  rows : Int32 := 6
  imgZoom : ℚ := 13 / 10
  horizontalOffset : Int32 := 40
  verticalOffset : Int32 := 0
  saveCamNavigator : Bool := false
  rowLines : List Line := []
  captureWidth : Int32 := 424
  captureHeight : Int32 := 240
  imgWidth : Int32
  imgHeight : Int32
  hasCenterRow : Bool := true
  searchLeft : Int32
  searchTop : Int32
  searchRect : Rect := { x := 0, y := 0, width := 0, height := 0 }
  separationLines : List Line := []

/-- How numbers are read: what an `int` has of a result, and a `float` of an `int`. -/
structure Numbers where
  int : Int → Int
  float : Int → Int
  /-- A sum does not depend on when it was cut. -/
  int_add : ∀ m n, int (int m + n) = int (m + n)
  /-- Nothing is cut of an `int`. -/
  int_small : ∀ n, -2147483648 ≤ n → n < 2147483648 → int n = n
  /-- A `float` is off by at most one part in 2^24. -/
  float_near : ∀ n, 2 ^ 24 * (float n - n).natAbs ≤ n.natAbs

namespace Numbers

/-- Exact numbers. -/
def exact : Numbers where
  int n := n
  float n := n
  int_add _ _ := rfl
  int_small _ _ _ := rfl
  float_near n := by simp

theorem bmod_small (n : Int) (hlo : -2147483648 ≤ n) (hhi : n < 2147483648) :
    n.bmod (2 ^ 32) = n := Int.bmod_eq_of_le (by norm_num; omega) (by norm_num; omega)

/-- The numbers of the machine. -/
def machine : Numbers where
  int n := n.bmod (2 ^ 32)
  float := Single.ofInt
  int_add _ _ := Int.bmod_add_bmod
  int_small := bmod_small
  float_near := Single.ofInt_near

/-- A number that wraps is off by a multiple of 2^32. -/
theorem machine_int (x : Int) : ∃ k, machine.int x = x + 4294967296 * k ∧
    -2147483648 ≤ machine.int x ∧ machine.int x < 2147483648 := by
  have hlo := Int.le_bmod (x := x) (m := 2 ^ 32) (by decide)
  have hhi := Int.bmod_lt (x := x) (m := 2 ^ 32) (by decide)
  have hmod := Int.bmod_emod (x := x) (m := 2 ^ 32)
  norm_num at hlo hhi hmod
  refine ⟨(x.bmod 4294967296 - x) / 4294967296, ?_⟩
  norm_num [machine]
  omega

variable (numbers : Numbers)

/-- A `float` stays left of what is far enough to the right. -/
theorem float_le {n x : Int} (h : n.natAbs < 2 ^ 24 * (x - n)) : numbers.float n ≤ x := by
  have hnear := numbers.float_near n
  omega

theorem lt_float {n x : Int} (h : n.natAbs < 2 ^ 24 * (n - x)) : x < numbers.float n := by
  have hnear := numbers.float_near n
  omega

/-- A small number is a `float`. -/
theorem float_small {n : Int} (h : n.natAbs < 2 ^ 24) : numbers.float n = n := by
  have hnear := numbers.float_near n
  omega

end Numbers

/-- A `double` as an `int`. -/
def castInt (x : ℚ) : Int32 :=
  let n := x.num.tdiv x.den
  if -2 ^ 31 ≤ n ∧ n < 2 ^ 31 then Int32.ofInt n else Int32.minValue

namespace CamNavigator

variable (numbers : Numbers) (nav : CamNavigator)

/-! ## `Init` -/

/-- The line at `x` from the middle of the region. -/
def lineAt (x : Int) : Line :=
  let xm := searchWidth.toInt.tdiv 2
  (⟨numbers.float (numbers.int (xm + x)), 0⟩,
    ⟨numbers.float (numbers.int (xm + x)), numbers.float searchHeight.toInt⟩)

/-- `(rows % 2) != 0`. -/
def oddRows : Bool := nav.rows.toInt.tmod 2 ≠ 0

/-- The loops over the separation lines. -/
def newLines : List Line :=
  let rows := nav.rows.toInt
  let rowWidth := nav.rowWidth.toInt
  let halfWidth := rowWidth.tdiv 2
  if nav.oddRows then
    let iStop := (numbers.int (rows - 1)).tdiv 2
    (Int.range (-iStop) iStop).map fun i =>
      lineAt numbers (numbers.int (numbers.int (i * rowWidth) + halfWidth))
  else
    let iStop := (numbers.int (rows - 2)).tdiv 2
    (Int.range (-iStop) (iStop + 1)).map fun i => lineAt numbers (numbers.int (i * rowWidth))

/-- The rest of `Init`, behind the checks. -/
def fill : CamNavigator :=
  { nav with
    searchRect :=
      { x := nav.searchLeft.toInt
        y := nav.searchTop.toInt
        width := searchWidth.toInt
        height := searchHeight.toInt }
    rowLines := nav.rowLines ++ List.replicate nav.rows.toInt.toNat (⟨0, 0⟩, ⟨0, 0⟩)
    hasCenterRow := nav.oddRows
    separationLines := nav.separationLines ++ newLines numbers nav }

def init (captureWidth captureHeight : Int32) (opened : Bool) : CamNavigator × Bool :=
  let nav := { nav with captureWidth, captureHeight }
  let nav := { nav with
    imgWidth := castInt (nav.imgZoom * captureWidth.toInt)
    imgHeight := castInt (nav.imgZoom * captureHeight.toInt) }
  if nav.imgWidth < searchWidth then (nav, false)
  else if nav.imgHeight < searchHeight then (nav, false)
  else
    let nav := { nav with searchTop := nav.imgHeight - searchHeight - nav.verticalOffset }
    if nav.searchTop < 0 then (nav, false)
    else
      let nav := { nav with
        searchLeft := nav.imgWidth / 2 - searchWidth / 2 + nav.horizontalOffset }
      if nav.searchLeft < 0 then (nav, false)
      else if nav.imgWidth < nav.searchLeft + searchWidth then (nav, false)
      else if nav.saveCamNavigator && !opened then (fill numbers nav, false)
      else (fill numbers nav, true)

/-! ## `separator` -/

/-- An index outside a vector. -/
structure Fault where
  index : Int
  deriving DecidableEq

/-- `v[i]`. -/
def elementAt {α : Type} (v : List α) (i : Int) : Except Fault α :=
  if 0 ≤ i then
    match v[i.toNat]? with
    | some a => return a
    | none => throw ⟨i⟩
  else throw ⟨i⟩

/-- `v[i].push_back(a)`. -/
def pushAt {α : Type} (v : List (List α)) (i : Int) (a : α) : Except Fault (List (List α)) := do
  let _ ← elementAt v i
  return Buckets.push v i.toNat a

/-- `find_place` and `separatedCenters`. -/
abbrev Separated : Type := Bool × List (List Point2f)

/-- The loop over the `n` rows from `r` on. -/
def rowLoop (center : Point2f) : Nat → Int → Separated → Except Fault Separated
  | 0, _, s => return s
  | n + 1, r, s => do
    let line ← elementAt nav.separationLines r
    if center.x < line.1.x then
      let separated ← pushAt s.2 r center
      return (true, separated)
    else rowLoop center n (r + 1) (false, s.2)

/-- One center. -/
def place (s : Separated) (center : Point2f) : Except Fault Separated := do
  let rCount := numbers.int (nav.rows.toInt - 1)
  let s ← nav.rowLoop center rCount.toNat 0 s
  if s.1 then return s
  else
    let separated ← pushAt s.2 rCount center
    return (s.1, separated)

def separator (centers separatedCenters : List (List Point2f)) :
    Except Fault (List (List Point2f)) := do
  let s ← centers.foldlM (fun s centers => centers.foldlM (place numbers nav) s) (false, separatedCenters)
  return s.2

/-! ## The best row -/

/-- `used_row` and `x_center_reference`, as `ProcessImage` takes them. -/
def selectRow (separatedCenters : List (List Point2f)) : Except Fault (Int × Int) := do
  let rows := nav.rows.toInt
  let rowWidth := nav.rowWidth.toInt
  let middle := searchWidth.toInt.tdiv 2
  if nav.hasCenterRow then
    let centerRowIndex := (numbers.int (rows - 1)).tdiv 2
    let center ← elementAt separatedCenters centerRowIndex
    if 4 < center.length then return (centerRowIndex, middle)
    else
      let left ← elementAt separatedCenters (centerRowIndex - 1)
      let right ← elementAt separatedCenters (centerRowIndex + 1)
      if right.length < left.length then
        return (centerRowIndex - 1, numbers.int (middle - rowWidth))
      else return (centerRowIndex + 1, numbers.int (middle + rowWidth))
  else
    let centerRowIndex := (numbers.int (rows - 2)).tdiv 2
    let left ← elementAt separatedCenters centerRowIndex
    let right ← elementAt separatedCenters (centerRowIndex + 1)
    if right.length < left.length then
      return (centerRowIndex, numbers.int (middle - rowWidth.tdiv 2))
    else return (centerRowIndex + 1, numbers.int (middle + rowWidth.tdiv 2))

end CamNavigator

end Solarbot.Cam
