import Solarbot.Cam.Rows

/-!
# Is the search region inside the image?

The region is 420 wide and 256 high. `Init` checks all of its sides but the lower one: a negative
`vertical_offset` moves the region out of the image below. And what it checks on the right is
computed in 32 bits. `contained_iff` says that these are all the ways out.
-/

namespace Solarbot.Cam.CamNavigator

variable {numbers : Numbers} {nav nav' : CamNavigator}

/-- `search_rect` is inside the zoomed image. -/
structure Contained (nav : CamNavigator) : Prop where
  left : 0 ≤ nav.searchRect.x
  right : nav.searchRect.x + nav.searchRect.width ≤ nav.imgWidth.toInt
  top : 0 ≤ nav.searchRect.y
  bottom : nav.searchRect.y + nav.searchRect.height ≤ nav.imgHeight.toInt

/-! ## 32 bits -/

section Offsets

variable {width height : Int32}

/-- The upper side of the region. -/
theorem top_spec (hheight : ¬ height < searchHeight) (vertical : Int32) :
    ∃ k, (height - searchHeight - vertical).toInt =
        height.toInt - 256 - vertical.toInt + 4294967296 * k ∧
      -2147483648 ≤ (height - searchHeight - vertical).toInt ∧
      (height - searchHeight - vertical).toInt < 2147483648 := by
  have hlo : searchHeight.toInt ≤ height.toInt := Int32.le_iff_toInt_le.mp (Int32.not_lt.mp hheight)
  have hhi := height.toInt_lt
  have hsize : searchHeight.toInt = 256 := by decide
  have hinner : (height - searchHeight).toInt = height.toInt - 256 := by
    rw [Int32.toInt_sub, hsize]
    exact Int.bmod_eq_of_le (by norm_num; omega) (by norm_num; omega)
  rw [Int32.toInt_sub, hinner]
  exact Numbers.machine_int _

/-- The left side. -/
theorem left_spec (hwidth : ¬ width < searchWidth) (horizontal : Int32) :
    ∃ k, (width / 2 - searchWidth / 2 + horizontal).toInt =
        width.toInt / 2 - 210 + horizontal.toInt + 4294967296 * k ∧
      -2147483648 ≤ (width / 2 - searchWidth / 2 + horizontal).toInt ∧
      (width / 2 - searchWidth / 2 + horizontal).toInt < 2147483648 := by
  have hlo : searchWidth.toInt ≤ width.toInt := Int32.le_iff_toInt_le.mp (Int32.not_lt.mp hwidth)
  have hhi := width.toInt_lt
  have hsize : searchWidth.toInt = 420 := by decide
  have hhalf : (width / 2).toInt = width.toInt / 2 := by
    rw [Int32.toInt_div_of_ne_right _ _ (by decide)]
    exact Int.tdiv_eq_ediv_of_nonneg (by omega)
  have hmiddle : (searchWidth / 2).toInt = 210 := by decide
  have hinner : (width / 2 - searchWidth / 2).toInt = width.toInt / 2 - 210 := by
    rw [Int32.toInt_sub, hhalf, hmiddle]
    exact Int.bmod_eq_of_le (by norm_num; omega) (by norm_num; omega)
  rw [Int32.toInt_add, hinner]
  exact Numbers.machine_int _

end Offsets

/-- The sides as numbers: a region that passes the checks is inside exactly when none of them is
off by a multiple of 2^32, and it does not end below the image. -/
theorem sides_iff {width height top left vertical horizontal i j k : Int}
    (hwidth : 420 ≤ width ∧ width < 2147483648) (hheight : 256 ≤ height ∧ height < 2147483648)
    (hvertical : -2147483648 ≤ vertical ∧ vertical < 2147483648)
    (hhorizontal : -2147483648 ≤ horizontal ∧ horizontal < 2147483648)
    (htop : top = height - 256 - vertical + 4294967296 * i) (htop' : 0 ≤ top ∧ top < 2147483648)
    (hleft : left = width / 2 - 210 + horizontal + 4294967296 * j)
    (hleft' : 0 ≤ left ∧ left < 2147483648)
    (hright : -2147483648 ≤ left + 420 + 4294967296 * k ∧ left + 420 + 4294967296 * k ≤ width) :
    ((0 ≤ left ∧ left + 420 ≤ width) ∧ 0 ≤ top ∧ top + 256 ≤ height) ↔
      0 ≤ vertical ∧ width / 2 - 210 + horizontal + 420 < 2147483648 := by
  constructor
  · omega
  · omega

/-- **When the region is inside the image**, for a navigator that `Init` accepts: the vertical
offset is not negative, and the right side of the region is below 2^31. -/
theorem contained_iff {captureWidth captureHeight : Int32} {opened : Bool}
    (hinit : nav.init numbers captureWidth captureHeight opened = (nav', true)) :
    nav'.Contained ↔ 0 ≤ nav.verticalOffset.toInt ∧
      (castInt (nav.imgZoom * captureWidth.toInt)).toInt / 2 - 210 + nav.horizontalOffset.toInt + 420
        < 2147483648 := by
  obtain ⟨hchecked, rfl⟩ := init_true hinit
  let n := nav.region captureWidth captureHeight
  have hwidth : 420 ≤ n.imgWidth.toInt :=
    Int32.le_iff_toInt_le.mp (Int32.not_lt.mp hchecked.imgWidth)
  have hheight : 256 ≤ n.imgHeight.toInt :=
    Int32.le_iff_toInt_le.mp (Int32.not_lt.mp hchecked.imgHeight)
  have htop : 0 ≤ n.searchTop.toInt := Int32.le_iff_toInt_le.mp (Int32.not_lt.mp hchecked.searchTop)
  have hleft : 0 ≤ n.searchLeft.toInt :=
    Int32.le_iff_toInt_le.mp (Int32.not_lt.mp hchecked.searchLeft)
  have hright := Int32.le_iff_toInt_le.mp (Int32.not_lt.mp hchecked.searchRight)
  obtain ⟨i, hi, -, hi'⟩ := top_spec hchecked.imgHeight nav.verticalOffset
  obtain ⟨j, hj, -, hj'⟩ := left_spec hchecked.imgWidth nav.horizontalOffset
  obtain ⟨k, hk, hk', -⟩ := Numbers.machine_int (n.searchLeft.toInt + 420)
  have hsum : (n.searchLeft + searchWidth).toInt = n.searchLeft.toInt + 420 + 4294967296 * k := by
    have hwide : searchWidth.toInt = 420 := by decide
    rw [Int32.toInt_add, hwide, ← hk]
    rfl
  rw [hk] at hk'
  have hcontained : (n.fill numbers).Contained ↔ (0 ≤ n.searchLeft.toInt ∧
      n.searchLeft.toInt + 420 ≤ n.imgWidth.toInt) ∧ 0 ≤ n.searchTop.toInt ∧
        n.searchTop.toInt + 256 ≤ n.imgHeight.toInt :=
    ⟨fun h => ⟨⟨h.left, h.right⟩, h.top, h.bottom⟩, fun h => ⟨h.1.1, h.1.2, h.2.1, h.2.2⟩⟩
  rw [hcontained]
  exact sides_iff ⟨hwidth, n.imgWidth.toInt_lt⟩ ⟨hheight, n.imgHeight.toInt_lt⟩
    ⟨nav.verticalOffset.le_toInt, nav.verticalOffset.toInt_lt⟩
    ⟨nav.horizontalOffset.le_toInt, nav.horizontalOffset.toInt_lt⟩ hi ⟨htop, hi'⟩ hj ⟨hleft, hj'⟩
    ⟨hk', hsum ▸ hright⟩

theorem contained_default : (default.init .machine 424 240 true).1.Contained :=
  (contained_iff (Prod.ext rfl (by decide +kernel))).mpr (by decide +kernel)

/-- The default configuration, one pixel lower. -/
def lowered : CamNavigator := { default with verticalOffset := -1 }

/-- It is accepted, and the last line of its region is below the image. -/
theorem contained_lowered :
    (lowered.init .machine 424 240 true).2 = true ∧ ¬ (lowered.init .machine 424 240 true).1.Contained := by
  have haccepted : (lowered.init .machine 424 240 true).2 = true := by decide +kernel
  exact ⟨haccepted, fun h => absurd h.bottom (by decide +kernel)⟩

open Detect in
/-- A frame of the image's size is cut exactly when the region is inside the image. -/
theorem region_isSome_iff {captureWidth captureHeight : Int32} {opened : Bool}
    (hinit : nav.init numbers captureWidth captureHeight opened = (nav', true)) {α : Type} (frame : Mat α)
    (hcols : (frame.cols : Int) = nav'.imgWidth.toInt)
    (hrows : (frame.rows : Int) = nav'.imgHeight.toInt) :
    (frame.region nav'.searchRect).isSome ↔ nav'.Contained := by
  have hinside : nav'.searchRect.Inside frame ↔ nav'.Contained := by
    obtain ⟨-, rfl⟩ := init_true hinit
    rw [Rect.Inside, hcols, hrows]
    constructor
    · rintro ⟨hleft, -, hright, htop, -, hbottom⟩
      exact ⟨hleft, hright, htop, hbottom⟩
    · intro h
      have hwide : 0 ≤ searchWidth.toInt := by decide
      have hhigh : 0 ≤ searchHeight.toInt := by decide
      exact ⟨h.left, hwide, h.right, h.top, hhigh, h.bottom⟩
  rw [← hinside, Mat.region]
  split
  next h => exact iff_of_true rfl h
  next h => exact iff_of_false (fun h => absurd h (by simp)) h

end Solarbot.Cam.CamNavigator
