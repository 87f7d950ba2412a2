import Mathlib.Tactic.FieldSimp
import Solarbot.Cam.Selection

/-!
# What `ProcessImage` makes of the centers

The centers of the row that is taken are fitted by a line. How many they are is the quality, and
where the line leaves the region below is how far the rover is off. A line without a slope, or
with an infinite one, is not intersected; its row line stays at the origin, as that of a row with
less than two centers does. So a row that lies straight ahead steers to the left edge of the
region, and a leaning one to where it is (`steers_by_row`).

Mirroring notes vs `CamNavigator.cpp`:
- The image up to the centers is left out, as is what is drawn.
- `fitLine` is a parameter: a direction and a point of the line.
- `navigation_angle_factor` is an argument. An angle that is not a number is `none`; one that is
  infinite is cut like any other.
- `float` is read as exact rationals but in the lines, and an `int` difference wraps.
-/

namespace Solarbot.Cam

open Detect

/-- `cv::Vec4f`, as `fitLine` fills it. -/
structure Vec4f where
  vx : ℚ
  vy : ℚ
  x0 : ℚ
  y0 : ℚ
  deriving DecidableEq

/-- `CamNavigator::Result`. -/
structure Result where
  angle : Option ℚ
  quality : Int
  usedRow : Int
  deriving DecidableEq

namespace CamNavigator

/-- One row of `getRowLines`. -/
def rowLine (fitLine : List Point2f → Vec4f) (centers : List Point2f) : Line :=
  let gap := 60
  if 2 ≤ centers.length then
    let fit := fitLine centers
    let vx := fit.x0 - gap * fit.vx
    let vy := fit.y0 - gap * fit.vy
    let x := fit.x0 + gap * fit.vx
    let y := fit.y0 + gap * fit.vy
    let md := x - vx
    if md ≠ 0 then
      let m := (y - vy) / md
      if m ≠ 0 then
        let b := vy - m * vx
        (⟨-b / m, 0⟩, ⟨((searchHeight.toInt : ℚ) - b) / m, (searchHeight.toInt : ℚ)⟩)
      else (⟨0, 0⟩, ⟨0, 0⟩)
    else (⟨0, 0⟩, ⟨0, 0⟩)
  else (⟨0, 0⟩, ⟨0, 0⟩)

/-- `Limit the correction angle`. -/
def limitAngle (angle : ℚ) : ℚ :=
  let angle := if 80 < angle then 80 else angle
  if angle < -80 then -80 else angle

/-- The quotient of two `float`s, limited. -/
def limitQuotient (n : ℚ) (d : Int) : Option ℚ :=
  if d = 0 then
    if 0 < n then some 80 else if n < 0 then some (-80) else none
  else some (limitAngle (n / d))

variable (nav : CamNavigator)

/-- `ProcessImage`, from the centers of the strips on. -/
def processImage (numbers : Numbers) (navigationAngleFactor : ℚ) (fitLine : List Point2f → Vec4f)
    (centers : List (List Point2f)) : Except Fault (CamNavigator × Result) := do
  let separatedCenters ← nav.separator numbers centers (List.replicate nav.rowLines.length [])
  let nav := { nav with rowLines := separatedCenters.map (rowLine fitLine) }
  let (usedRow, xCenterReference) ← nav.selectRow numbers separatedCenters
  let used ← elementAt separatedCenters usedRow
  let pointsCount := if 16 < used.length then 16 else used.length
  let line ← elementAt nav.rowLines usedRow
  let xRow := castInt line.2.x
  let offset := (xRow - Int32.ofInt xCenterReference).toInt
  return (nav,
    { angle := limitQuotient (navigationAngleFactor * offset) (nav.rowWidth.toInt.tdiv 2)
      quality := (castInt (25 / 4 * pointsCount)).toInt
      usedRow := usedRow })

/-! ## The line of a row -/

/-- The centers are on the line `x = p + q * y`, and not all at one height. -/
structure Straight (centers : List Point2f) (p q : ℚ) : Prop where
  on : ∀ c ∈ centers, c.x = p + q * c.y
  apart : ∃ c ∈ centers, ∃ d ∈ centers, c.y ≠ d.y

/-- `fitLine` finds the line of centers that are on one. -/
def FindsLines (fitLine : List Point2f → Vec4f) : Prop :=
  ∀ centers p q, Straight centers p q → (fitLine centers).vy ≠ 0 ∧
    (fitLine centers).vx = q * (fitLine centers).vy ∧
    (fitLine centers).x0 = p + q * (fitLine centers).y0

variable {nav : CamNavigator} {fitLine : List Point2f → Vec4f} {centers : List Point2f}

theorem Straight.two_le {p q : ℚ} (h : Straight centers p q) : 2 ≤ centers.length := by
  obtain ⟨c, hc, d, hd, hne⟩ := h.apart
  match centers, hc, hd with
  | [e], hc, hd =>
    rw [List.mem_singleton] at hc hd
    exact absurd (hc.trans hd.symm ▸ rfl) hne
  | _ :: _ :: centers, _, _ => exact Nat.le_add_left 2 centers.length

theorem rowLine_few (h : centers.length < 2) : rowLine fitLine centers = (⟨0, 0⟩, ⟨0, 0⟩) := by
  unfold rowLine
  dsimp only
  rw [if_neg (by omega)]

/-- **Where a row ends**: at the lower side of the region, unless it goes straight ahead. -/
theorem rowLine_straight {p q : ℚ} (hfit : FindsLines fitLine) (h : Straight centers p q) :
    (rowLine fitLine centers).2.x = if q = 0 then 0 else p + q * 256 := by
  obtain ⟨hvy, hvx, hx0⟩ := hfit centers p q h
  have hheight : (searchHeight.toInt : ℚ) = 256 := by
    rw [show searchHeight.toInt = 256 by decide]
    norm_num
  unfold rowLine
  dsimp only
  rw [if_pos h.two_le, hvx, hx0, hheight]
  generalize (fitLine centers).vy = vy at *
  generalize (fitLine centers).y0 = y0 at *
  by_cases hq : q = 0
  · rw [if_pos hq, hq, if_neg (by simp)]
  · have hmd : p + q * y0 + 60 * (q * vy) - (p + q * y0 - 60 * (q * vy)) ≠ 0 := by
      have : p + q * y0 + 60 * (q * vy) - (p + q * y0 - 60 * (q * vy)) = 120 * (q * vy) := by ring
      rw [this]
      exact mul_ne_zero (by norm_num) (mul_ne_zero hq hvy)
    have hm : (y0 + 60 * vy - (y0 - 60 * vy)) /
        (p + q * y0 + 60 * (q * vy) - (p + q * y0 - 60 * (q * vy))) = 1 / q := by
      rw [div_eq_div_iff hmd hq]
      ring
    rw [if_neg hq, if_pos hmd, hm, if_pos (one_div_ne_zero hq)]
    field_simp
    ring

theorem limitAngle_mem (angle : ℚ) : |limitAngle angle| ≤ 80 := by
  have hlower : ∀ x : ℚ, x ≤ 80 → |if x < -80 then -80 else x| ≤ 80 := by
    intro x hx
    split
    · norm_num
    · exact abs_le.mpr ⟨by linarith, hx⟩
  unfold limitAngle
  dsimp only
  split
  · exact hlower 80 le_rfl
  · exact hlower angle (by linarith)

/-- A quarter of 25 for each center, without the fraction. -/
theorem quality_eq (n : Nat) : (castInt (25 / 4 * (if 16 < n then 16 else n : Nat))).toInt =
    25 * min 16 n / 4 := by
  have hall : ∀ k : Fin 17, (castInt (25 / 4 * (k : Nat))).toInt = 25 * (k : Nat) / 4 := by
    decide +kernel
  have hmin : (if 16 < n then 16 else n) = min 16 n := by
    split <;> omega
  rw [hmin]
  exact_mod_cast hall ⟨min 16 n, by omega⟩

/-! ## The image -/

/-- What is returned, when the row `usedRow` is taken. -/
theorem processImage_eq {numbers : Numbers} {nav : CamNavigator} (factor : ℚ) {centers buckets : List (List Point2f)}
    {usedRow : Nat} {reference : Int}
    (hseparator : nav.separator numbers centers (List.replicate nav.rowLines.length []) = .ok buckets)
    (hselect : nav.selectRow numbers buckets = .ok ((usedRow : Int), reference))
    (hlt : usedRow < buckets.length) : nav.processImage numbers factor fitLine centers =
      .ok ({ nav with rowLines := buckets.map (rowLine fitLine) },
        { angle := limitQuotient (factor * (castInt (rowLine fitLine buckets[usedRow]).2.x -
            Int32.ofInt reference).toInt) (nav.rowWidth.toInt.tdiv 2)
          quality := (castInt (25 / 4 * (if 16 < buckets[usedRow].length then 16
            else buckets[usedRow].length : Nat))).toInt
          usedRow := usedRow }) := by
  have hline : elementAt (buckets.map (rowLine fitLine)) usedRow =
      .ok (rowLine fitLine buckets[usedRow]) := by
    rw [elementAt_nat (by rwa [List.length_map]), List.getElem_map]
  unfold processImage
  rw [hseparator]
  show (nav.selectRow numbers buckets).bind _ = _
  rw [hselect]
  show (elementAt buckets (usedRow : Int)).bind _ = _
  rw [elementAt_nat hlt]
  show (elementAt (buckets.map (rowLine fitLine)) (usedRow : Int)).bind _ = _
  rw [hline]
  rfl

/-- `result` is what the centers `used` of its row make of it, when their line ends at `xRow` and
the middle of the row is at `reference`. -/
structure SteersBy (nav : CamNavigator) (factor : ℚ) (used : List Point2f) (xRow : ℚ)
    (reference : Int) (result : Result) : Prop where
  row : InRow nav.separationLines result.usedRow.toNat reference
  quality : result.quality = 25 * min 16 used.length / 4
  angle : result.angle = some (limitAngle
    (factor * (castInt xRow - Int32.ofInt reference).toInt / nav.rowWidth.toInt.tdiv 2))
  limited : ∀ angle ∈ result.angle, |angle| ≤ 80
  few : used.length < 2 → xRow = 0
  straight : ∀ p q, Straight used p q → xRow = if q = 0 then 0 else p + q * 256

/-- **Where the rover is steered.** From two rows on that together are not too wide, and whatever
centers are seen, a row is taken; its centers are counted by the quality, and the angle is what the
end of its line is off the middle of the row. A line through centers that are on one ends where they
lead to at the lower side of the region, but for one that goes straight ahead: that one ends in the
corner on the left, as a row of less than two centers does. -/
theorem steers_by_row {nav nav' : CamNavigator} {captureWidth captureHeight : Int32} {opened : Bool}
    (hfresh : nav.Fresh) (hrows : 2 ≤ nav.rows.toInt) (hwidth : 2 ≤ nav.rowWidth.toInt)
    (hsize : nav.rows.toInt * nav.rowWidth.toInt ≤ 16000000)
    (hinit : nav.init .machine captureWidth captureHeight opened = (nav', true))
    {fitLine : List Point2f → Vec4f} (hfit : FindsLines fitLine) (factor : ℚ)
    (centers : List (List Point2f)) :
    ∃ nav'' result xRow reference,
      nav'.processImage .machine factor fitLine centers = .ok (nav'', result) ∧
      nav'.SteersBy factor (centers.flatten.filter fun center =>
        InRow nav'.separationLines result.usedRow.toNat center.x) xRow reference result := by
  have hready := Ready.of_init hfresh hinit
  obtain ⟨-, -, -, hrows', hrowWidth⟩ := init_lines hfresh hinit
  obtain ⟨buckets, hseparator, hlength, hbuckets, -⟩ :=
    separator_rows hfresh (keeps_of_width _ hwidth hsize) (by omega) hwidth hinit centers
  rw [← hrows'] at hlength hrows
  rw [← hrowWidth] at hwidth
  rw [← hrows', ← hrowWidth] at hsize
  obtain ⟨usedRow, reference, hselect, hlo, hhi, hreference⟩ : nav'.Chooses buckets := by
    cases hodd : nav'.oddRows with
    | true =>
      have hrem : nav'.rows.toInt.tmod 2 ≠ 0 := of_decide_eq_true hodd
      have hrem' := Int.tmod_eq_emod_of_nonneg (a := nav'.rows.toInt) (b := 2) (by omega)
      exact (chooses_odd hready hlength hwidth hodd (by omega)).mpr (.of_size hrows hwidth hsize)
    | false =>
      exact (chooses_even hready hlength hwidth hodd hrows).mpr (.of_size hrows hwidth hsize)
  lift usedRow to Nat using hlo
  have hlt : usedRow < buckets.length := by omega
  have hused : buckets[usedRow] = centers.flatten.filter fun center =>
      InRow nav'.separationLines usedRow center.x :=
    Option.some.inj ((List.getElem?_eq_getElem hlt).symm.trans (hbuckets usedRow hlt))
  have hhalf := Int.tdiv_eq_ediv_of_nonneg (a := nav'.rowWidth.toInt) (b := 2) (by omega)
  have hwide : nav'.rowWidth.toInt.tdiv 2 ≠ 0 := by omega
  have hangle : ∀ n : ℚ, limitQuotient n (nav'.rowWidth.toInt.tdiv 2) =
      some (limitAngle (n / (nav'.rowWidth.toInt.tdiv 2 : Int))) := fun _ => if_neg hwide
  refine ⟨_, _, (rowLine fitLine buckets[usedRow]).2.x, reference,
    processImage_eq factor hseparator hselect hlt, ?_⟩
  dsimp only
  rw [Int.toNat_natCast, ← hused, hangle]
  exact
    { row := hreference
      quality := quality_eq buckets[usedRow].length
      angle := rfl
      limited := fun angle h => Option.some.inj h ▸ limitAngle_mem _
      few := fun hfew => by rw [rowLine_few hfew]
      straight := fun p q h => rowLine_straight hfit h }

/-! ## A row straight ahead -/

/-- The line from the first center to another one at another height. -/
def firstLine : List Point2f → Vec4f
  | [] => ⟨1, 0, 0, 0⟩
  | c :: centers =>
    match centers.find? (·.y ≠ c.y) with
    | some d => ⟨d.x - c.x, d.y - c.y, c.x, c.y⟩
    | none => ⟨1, 0, c.x, c.y⟩

theorem firstLine_findsLines : FindsLines firstLine := by
  intro centers p q h
  obtain ⟨hon, a, ha, b, hb, hne⟩ := h
  match centers, hon, ha, hb with
  | c :: centers, hon, ha, hb =>
    have hc := hon c List.mem_cons_self
    unfold firstLine
    dsimp only
    split
    next d hfind =>
      have hd := hon d (List.mem_cons_of_mem c (List.mem_of_find?_eq_some hfind))
      have hdy : d.y ≠ c.y := by simpa using List.find?_some hfind
      refine ⟨sub_ne_zero.mpr hdy, ?_, hc⟩
      show d.x - c.x = q * (d.y - c.y)
      rw [hd, hc]
      ring
    next hnone =>
      -- then all are at the height of the first
      have hall : ∀ e ∈ c :: centers, e.y = c.y := by
        intro e he
        rcases List.mem_cons.mp he with rfl | he
        · rfl
        · simpa using List.find?_eq_none.mp hnone e he
      exact absurd ((hall a ha).trans (hall b hb).symm) hne

/-- Two plants ahead, in the middle of their row. -/
def ahead : List (List Point2f) := [[⟨272, 31 / 2⟩], [⟨272, 33 / 2⟩]]

/-- The rover is turned to the left as far as it goes. -/
theorem steers_by_row_ahead : ∃ nav'' result xRow reference,
    (default.init .machine 424 240 true).1.processImage .machine 25 firstLine ahead = .ok (nav'', result) ∧
      (default.init .machine 424 240 true).1.SteersBy 25 (ahead.flatten.filter fun center =>
        InRow (default.init .machine 424 240 true).1.separationLines result.usedRow.toNat center.x)
        xRow reference result ∧
      result.angle = some (-80) := by
  have hinit : default.init .machine 424 240 true = ((default.init .machine 424 240 true).1, true) :=
    Prod.ext rfl (by decide +kernel)
  have heval : ((default.init .machine 424 240 true).1.processImage .machine 25 firstLine ahead).toOption.map
      (·.2.angle) = some (some (-80)) := by decide +kernel
  obtain ⟨nav'', result, xRow, reference, hresult, hsteers⟩ :=
    steers_by_row ⟨rfl, rfl⟩ (by decide) (by decide) (by decide) hinit firstLine_findsLines 25 ahead
  rw [hresult] at heval
  exact ⟨nav'', result, xRow, reference, hresult, hsteers, Option.some.inj heval⟩

end CamNavigator

end Solarbot.Cam
