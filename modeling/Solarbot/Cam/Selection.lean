import Solarbot.Cam.Rows

/-!
# Is the chosen row a row?

With an odd number of rows the one in the middle is taken when it has enough centers, and the
better of its neighbours otherwise; with an even number, the better of the two in the middle.
`Init` accepts any number of rows, and rows of any width. From two rows on, all of these exist,
and the reference is in the strip of the row that is taken, unless a line of the strip or the
reference itself has come out on the other side because the rows are too wide for an `int`. A
single row has no neighbours, and with less there is nothing to choose from (`chooses_iff`).
-/

namespace Solarbot.Cam.CamNavigator

variable {nav nav' : CamNavigator}

/-- The choice reads buckets that exist, takes a row, and its reference is between the lines of
the row. -/
def Chooses (nav : CamNavigator) (buckets : List (List Point2f)) : Prop :=
  ∃ usedRow xCenterReference, nav.selectRow .machine buckets = .ok (usedRow, xCenterReference) ∧
    0 ≤ usedRow ∧ usedRow < nav.rows.toInt ∧
    InRow nav.separationLines usedRow.toNat (xCenterReference : Int)

/-- How many centers the bucket of a row has. -/
def count (buckets : List (List Point2f)) (row : Int) : Nat := (buckets.getD row.toNat []).length

/-- There are enough rows to choose from, and they are not too wide: the row that is taken has no
line and no reference beyond the 32 bits. -/
def Selectable (nav : CamNavigator) (buckets : List (List Point2f)) : Prop :=
  let rows := nav.rows.toInt
  let rowWidth := nav.rowWidth.toInt
  if nav.oddRows then
    let middle := (rows - 1).tdiv 2
    4 < count buckets middle ∨ 3 ≤ rows ∧
      if count buckets (middle + 1) < count buckets (middle - 1) then
        rows = 3 ∨ -2147483648 ≤ 210 - 2 * rowWidth + rowWidth / 2
      else
        210 + rowWidth < 2147483648 ∧
          (rows = 3 ∨ 210 + rowWidth + rowWidth / 2 < 2147483648)
  else
    let middle := (rows - 2).tdiv 2
    2 ≤ rows ∧ (count buckets (middle + 1) < count buckets middle ∨ rows = 2 ∨
      210 + rowWidth < 2147483648)

/-- Rows that together are not too wide are selectable. -/
theorem Selectable.of_size {buckets : List (List Point2f)} (hrows : 2 ≤ nav.rows.toInt)
    (hwidth : 2 ≤ nav.rowWidth.toInt) (hsize : nav.rows.toInt * nav.rowWidth.toInt ≤ 16000000) :
    nav.Selectable buckets := by
  have hmul : 2 * nav.rowWidth.toInt ≤ nav.rows.toInt * nav.rowWidth.toInt :=
    mul_le_mul_of_nonneg_right hrows (by omega)
  unfold Selectable
  dsimp only
  split
  next hodd =>
    have hrem : nav.rows.toInt.tmod 2 ≠ 0 := of_decide_eq_true hodd
    have hrem' := Int.tmod_eq_emod_of_nonneg (a := nav.rows.toInt) (b := 2) (by omega)
    refine .inr ⟨by omega, ?_⟩
    split
    · exact .inr (by omega)
    · exact ⟨by omega, .inr (by omega)⟩
  next => exact ⟨hrows, .inr (.inr (by omega))⟩

/-! ## Buckets that exist -/

theorem elementAt_count (buckets : List (List Point2f)) {row : Int} (hlo : 0 ≤ row)
    (hhi : row < buckets.length) :
    ∃ bucket, elementAt buckets row = .ok bucket ∧ bucket.length = count buckets row := by
  lift row to Nat using hlo
  have hlt : row < buckets.length := by omega
  refine ⟨buckets[row], elementAt_nat hlt, ?_⟩
  rw [count, Int.toNat_natCast, List.getD_eq_getElem?_getD, List.getElem?_eq_getElem hlt]
  rfl

theorem elementAt_nil {α : Type} (i : Int) : elementAt ([] : List α) i = .error ⟨i⟩ := by
  unfold elementAt
  split
  next => rfl
  next => rfl

/-- Without a bucket there is no choice. -/
theorem selectRow_nil (nav : CamNavigator) :
    ∃ fault, nav.selectRow .machine [] = .error fault := by
  unfold selectRow
  dsimp only
  split
  next => exact ⟨_, by rw [elementAt_nil]; rfl⟩
  next => exact ⟨_, by rw [elementAt_nil]; rfl⟩

/-! ## Between the lines -/

/-- Where the machine puts a line that belongs at `x`. -/
def position (x : Int) : Int := Numbers.machine.float (Numbers.machine.int x)

theorem position_le {n x : Int} (hlo : -2147483648 ≤ n) (hhi : n < 2147483648)
    (h : n.natAbs < 2 ^ 24 * (x - n)) : position n ≤ x := by
  rw [position, Numbers.machine.int_small n hlo hhi]
  exact Numbers.machine.float_le h

theorem lt_position {n x : Int} (hlo : -2147483648 ≤ n) (hhi : n < 2147483648)
    (h : n.natAbs < 2 ^ 24 * (n - x)) : x < position n := by
  rw [position, Numbers.machine.int_small n hlo hhi]
  exact Numbers.machine.lt_float h

/-- A line that belongs further to the left than an `int` reaches comes out on the right. -/
theorem lt_position_wrapped {n x : Int} (hlo : -4294967296 ≤ n) (hhi : n < -2147483648)
    (h : x < 0) : x < position n := by
  obtain ⟨k, hk, hlo', hhi'⟩ := Numbers.machine_int n
  have hback : Numbers.machine.int n = n + 4294967296 := by omega
  rw [position, hback]
  exact Numbers.machine.lt_float (by omega)

/-- And the other way round. -/
theorem position_wrapped_le {n x : Int} (hlo : 2147483648 ≤ n) (hhi : n < 4294967296)
    (h : 0 ≤ x) : position n ≤ x := by
  obtain ⟨k, hk, hlo', hhi'⟩ := Numbers.machine_int n
  have hback : Numbers.machine.int n = n - 4294967296 := by omega
  rw [position, hback]
  exact Numbers.machine.float_le (by omega)

/-- In the strip of a row, from the places of its lines. -/
theorem inRow_newLines (hrows : 1 ≤ nav.rows.toInt) {row : Int} (hlo : 0 ≤ row)
    (hhi : row < nav.rows.toInt) (x : Int) :
    InRow (nav.newLines .machine) row.toNat (x : ℚ) ↔
      (1 ≤ row → position (210 + (nav.start + (row - 1) * nav.rowWidth.toInt)) ≤ x) ∧
      (row < nav.rows.toInt - 1 → x < position (210 + (nav.start + row * nav.rowWidth.toInt))) := by
  lift row to Nat using hlo
  -- the line in front of row `row` is number `row - 1`
  have hline : ∀ i : Nat, (nav.newLines .machine)[i]? =
      if (i : Int) < nav.rows.toInt - 1 then
        some (lineAt .machine (nav.start + i * nav.rowWidth.toInt))
      else none := by
    intro i
    rw [newLines_eq .machine hrows, List.getElem?_map]
    split
    next h => rw [List.getElem?_range (by omega)]; rfl
    next h => rw [List.getElem?_eq_none (by rw [List.length_range]; omega)]; rfl
  rw [InRow, Int.toNat_natCast, hline, hline]
  constructor
  · rintro ⟨hfront, hbehind⟩
    constructor
    · intro hpos
      have hcast : ((row - 1 : Nat) : Int) = row - 1 := by omega
      rw [hcast, if_pos (by omega)] at hfront
      exact Rat.intCast_le_intCast.mp (hfront (by omega) _ rfl)
    · intro hlast
      rw [if_pos hlast] at hbehind
      exact Rat.intCast_lt_intCast.mp (hbehind _ rfl)
  · rintro ⟨hfront, hbehind⟩
    constructor
    · intro hpos line hmem
      have hcast : ((row - 1 : Nat) : Int) = row - 1 := by omega
      rw [hcast, if_pos (by omega)] at hmem
      obtain rfl := Option.some.inj hmem
      exact Rat.intCast_le_intCast.mpr (hfront (by omega))
    · intro line hmem
      split at hmem
      next hlast =>
        obtain rfl := Option.some.inj hmem
        exact Rat.intCast_lt_intCast.mpr (hbehind hlast)
      next => exact absurd hmem (by simp)

/-- The lines are those of the configuration. -/
structure Ready (nav : CamNavigator) : Prop where
  lines : nav.separationLines = nav.newLines .machine
  center : nav.hasCenterRow = nav.oddRows

theorem Ready.of_init {captureWidth captureHeight : Int32} {opened : Bool} (hfresh : nav.Fresh)
    (h : nav.init .machine captureWidth captureHeight opened = (nav', true)) : nav'.Ready := by
  obtain ⟨hlines, -, hcenter, -, -⟩ := init_lines hfresh h
  obtain ⟨-, rfl⟩ := init_true h
  exact ⟨hlines, hcenter⟩

/-- A choice that was made is good when the reference is between the lines of the row. -/
theorem chooses_of_select (hready : nav.Ready) {buckets : List (List Point2f)} {usedRow x : Int}
    (hselect : nav.selectRow .machine buckets = .ok (usedRow, x)) (hlo : 0 ≤ usedRow)
    (hhi : usedRow < nav.rows.toInt) : nav.Chooses buckets ↔
      (1 ≤ usedRow → position (210 + (nav.start + (usedRow - 1) * nav.rowWidth.toInt)) ≤ x) ∧
      (usedRow < nav.rows.toInt - 1 →
        x < position (210 + (nav.start + usedRow * nav.rowWidth.toInt))) := by
  rw [← inRow_newLines (by omega) hlo hhi, ← hready.lines]
  constructor
  · rintro ⟨usedRow', x', hselect', -, -, hrow⟩
    obtain ⟨rfl, rfl⟩ := Prod.mk.inj (Except.ok.inj (hselect.symm.trans hselect'))
    exact hrow
  · exact fun hrow => ⟨usedRow, x, hselect, hlo, hhi, hrow⟩

/-! ## The reference and its lines -/

section Places

variable {width : Int} (hwidth : 2 ≤ width) (hmost : width < 2147483648)
include hwidth hmost

/-- The row in the middle has a line half a width to each side. -/
theorem middle_between : position (210 + (-width + width / 2)) ≤ 210 ∧
    210 < position (210 + width / 2) :=
  ⟨position_le (by omega) (by omega) (by omega), lt_position (by omega) (by omega) (by omega)⟩

/-- The row on its left; the line further left is there from five rows on. -/
theorem left_between_iff {rows : Int} (hrows : 3 ≤ rows) (hodd : rows % 2 = 1) :
    (4 ≤ rows → position (210 + (-2 * width + width / 2)) ≤ 210 - width) ∧
        210 - width < position (210 + (-width + width / 2)) ↔
      rows = 3 ∨ -2147483648 ≤ 210 - 2 * width + width / 2 := by
  have hbehind : 210 - width < position (210 + (-width + width / 2)) :=
    lt_position (by omega) (by omega) (by omega)
  rcases Int.lt_or_le (210 - 2 * width + width / 2) (-2147483648) with hwrap | hfits
  · have hright : 210 - width < position (210 + (-2 * width + width / 2)) :=
      lt_position_wrapped (by omega) (by omega) (by omega)
    omega
  · have hleft : position (210 + (-2 * width + width / 2)) ≤ 210 - width :=
      position_le (by omega) (by omega) (by omega)
    omega

/-- The row on its right, with the reference `x`. -/
theorem right_between_iff {rows x : Int} (hrows : 3 ≤ rows) (hodd : rows % 2 = 1)
    (hx : x = Numbers.machine.int (210 + width)) :
    position (210 + width / 2) ≤ x ∧
        (4 ≤ rows → x < position (210 + (width + width / 2))) ↔
      210 + width < 2147483648 ∧ (rows = 3 ∨ 210 + width + width / 2 < 2147483648) := by
  rcases Int.lt_or_le (210 + width) 2147483648 with hfits | hwrap
  · rw [Numbers.machine.int_small _ (by omega) hfits] at hx
    have hfront : position (210 + width / 2) ≤ x := position_le (by omega) (by omega) (by omega)
    rcases Int.lt_or_le (210 + width + width / 2) 2147483648 with hfits' | hwrap'
    · have hbehind : x < position (210 + (width + width / 2)) :=
        lt_position (by omega) (by omega) (by omega)
      omega
    · have hleft : position (210 + (width + width / 2)) ≤ x :=
        position_wrapped_le (by omega) (by omega) (by omega)
      omega
  · obtain ⟨k, hk, hlo, hhi⟩ := Numbers.machine_int (210 + width)
    have hleft : x < position (210 + width / 2) := lt_position (by omega) (by omega) (by omega)
    omega

/-- Of two rows in the middle, the left one. -/
theorem left_between : position (210 + -width) ≤ 210 - width / 2 ∧
    210 - width / 2 < position (210 + 0) :=
  ⟨position_le (by omega) (by omega) (by omega), lt_position (by omega) (by omega) (by omega)⟩

/-- And the right one; the line further right is there from four rows on. -/
theorem right_between_iff_even {rows : Int} (hrows : 2 ≤ rows) (heven : rows % 2 = 0) :
    position (210 + 0) ≤ 210 + width / 2 ∧
        (3 ≤ rows → 210 + width / 2 < position (210 + width)) ↔
      rows = 2 ∨ 210 + width < 2147483648 := by
  have hfront : position (210 + 0) ≤ 210 + width / 2 :=
    position_le (by omega) (by omega) (by omega)
  rcases Int.lt_or_le (210 + width) 2147483648 with hfits | hwrap
  · have hbehind : 210 + width / 2 < position (210 + width) :=
      lt_position (by omega) (by omega) (by omega)
    omega
  · have hleft : position (210 + width) ≤ 210 + width / 2 :=
      position_wrapped_le (by omega) (by omega) (by omega)
    omega

end Places

/-! ## The choice -/

section Choice

variable {buckets : List (List Point2f)} (hready : nav.Ready)
  (hbuckets : (buckets.length : Int) = nav.rows.toInt) (hwidth : 2 ≤ nav.rowWidth.toInt)
include hready hbuckets hwidth

/-- With a row in the middle, and one on each side of it from three rows on. -/
theorem chooses_odd (hodd : nav.oddRows = true) (hrows : 3 ≤ nav.rows.toInt) :
    nav.Chooses buckets ↔ nav.Selectable buckets := by
  have hrem : nav.rows.toInt.tmod 2 ≠ 0 := of_decide_eq_true hodd
  have hrem' := Int.tmod_eq_emod_of_nonneg (a := nav.rows.toInt) (b := 2) (by omega)
  have hmiddle := Int.tdiv_eq_ediv_of_nonneg (a := nav.rows.toInt - 1) (b := 2) (by omega)
  have hhalf := Int.tdiv_eq_ediv_of_nonneg (a := nav.rowWidth.toInt) (b := 2) (by omega)
  have hmost := nav.rowWidth.toInt_lt
  have hmany := nav.rows.toInt_lt
  have hcount := Numbers.machine.int_small (nav.rows.toInt - 1) (by omega) (by omega)
  have hleftwards := Numbers.machine.int_small (210 - nav.rowWidth.toInt) (by omega) (by omega)
  obtain ⟨center, hcenter, hcenters⟩ := elementAt_count buckets
    (show 0 ≤ (nav.rows.toInt - 1).tdiv 2 by omega) (by omega)
  obtain ⟨left, hleft, hlefts⟩ := elementAt_count buckets
    (show 0 ≤ (nav.rows.toInt - 1).tdiv 2 - 1 by omega) (by omega)
  obtain ⟨right, hright, hrights⟩ := elementAt_count buckets
    (show 0 ≤ (nav.rows.toInt - 1).tdiv 2 + 1 by omega) (by omega)
  have hselect : nav.selectRow .machine buckets =
      if 4 < center.length then .ok ((nav.rows.toInt - 1).tdiv 2, 210)
      else if right.length < left.length then
        .ok ((nav.rows.toInt - 1).tdiv 2 - 1, 210 - nav.rowWidth.toInt)
      else .ok ((nav.rows.toInt - 1).tdiv 2 + 1, Numbers.machine.int (210 + nav.rowWidth.toInt)) := by
    rw [← hleftwards]
    unfold selectRow
    dsimp only
    rw [hready.center, if_pos hodd, hcount, hcenter, hleft, hright]
    rfl
  -- where the lines beside the middle are
  have hplace : ∀ i : Int, nav.start + ((nav.rows.toInt - 1).tdiv 2 + i) * nav.rowWidth.toInt =
      i * nav.rowWidth.toInt + nav.rowWidth.toInt / 2 := by
    intro i
    rw [start, if_pos hodd, ← hhalf]
    ring
  unfold Selectable
  dsimp only
  rw [if_pos hodd, ← hcenters, ← hlefts, ← hrights]
  generalize (nav.rows.toInt - 1).tdiv 2 = middle at *
  have hback : ∀ i : Int, nav.start + (middle - i) * nav.rowWidth.toInt =
      -i * nav.rowWidth.toInt + nav.rowWidth.toInt / 2 := fun i => hplace (-i)
  have hzero : nav.start + middle * nav.rowWidth.toInt = nav.rowWidth.toInt / 2 := by
    simpa using hplace 0
  split at hselect
  next hmuch =>
    refine iff_of_true ?_ (.inl hmuch)
    rw [chooses_of_select hready hselect (by omega) (by omega), hback, hzero, neg_one_mul]
    obtain ⟨hfront, hbehind⟩ := middle_between hwidth hmost
    exact ⟨fun _ => hfront, fun _ => hbehind⟩
  next hfew =>
    rw [or_iff_right hfew, and_iff_right hrows]
    split at hselect
    next hmore =>
      have hiff := left_between_iff hwidth hmost hrows (by omega)
      rw [if_pos hmore, ← hiff, chooses_of_select hready hselect (by omega) (by omega), sub_sub,
        hback, hback, neg_one_mul]
      exact and_congr (imp_congr_left (by omega)) (imp_iff_right (by omega))
    next hless =>
      have hiff := right_between_iff hwidth hmost hrows (by omega) rfl
      rw [if_neg hless, ← hiff, chooses_of_select hready hselect (by omega) (by omega),
        add_sub_cancel_right, hplace, hzero, one_mul]
      exact and_congr (imp_iff_right (by omega)) (imp_congr_left (by omega))

/-- With two rows in the middle. -/
theorem chooses_even (heven : nav.oddRows = false) (hrows : 2 ≤ nav.rows.toInt) :
    nav.Chooses buckets ↔ nav.Selectable buckets := by
  have hrem : nav.rows.toInt.tmod 2 = 0 := by simpa [oddRows] using heven
  have hrem' := Int.tmod_eq_emod_of_nonneg (a := nav.rows.toInt) (b := 2) (by omega)
  have hmiddle := Int.tdiv_eq_ediv_of_nonneg (a := nav.rows.toInt - 2) (b := 2) (by omega)
  have hhalf := Int.tdiv_eq_ediv_of_nonneg (a := nav.rowWidth.toInt) (b := 2) (by omega)
  have hmost := nav.rowWidth.toInt_lt
  have hmany := nav.rows.toInt_lt
  have hcount := Numbers.machine.int_small (nav.rows.toInt - 2) (by omega) (by omega)
  have hleftwards := Numbers.machine.int_small (210 - nav.rowWidth.toInt / 2) (by omega) (by omega)
  have hrightwards := Numbers.machine.int_small (210 + nav.rowWidth.toInt / 2) (by omega) (by omega)
  have hnot : ¬ nav.oddRows = true := by rw [heven]; decide
  obtain ⟨left, hleft, hlefts⟩ := elementAt_count buckets
    (show 0 ≤ (nav.rows.toInt - 2).tdiv 2 by omega) (by omega)
  obtain ⟨right, hright, hrights⟩ := elementAt_count buckets
    (show 0 ≤ (nav.rows.toInt - 2).tdiv 2 + 1 by omega) (by omega)
  have hselect : nav.selectRow .machine buckets =
      if right.length < left.length then
        .ok ((nav.rows.toInt - 2).tdiv 2, 210 - nav.rowWidth.toInt / 2)
      else .ok ((nav.rows.toInt - 2).tdiv 2 + 1, 210 + nav.rowWidth.toInt / 2) := by
    rw [← hleftwards, ← hrightwards, ← hhalf]
    unfold selectRow
    dsimp only
    rw [hready.center, if_neg hnot, hcount, hleft, hright]
    rfl
  -- where the lines beside the middle are
  have hplace : ∀ i : Int, nav.start + ((nav.rows.toInt - 2).tdiv 2 + i) * nav.rowWidth.toInt =
      i * nav.rowWidth.toInt := by
    intro i
    rw [start, if_neg hnot]
    ring
  unfold Selectable
  dsimp only
  rw [if_neg hnot, ← hlefts, ← hrights, and_iff_right hrows]
  generalize (nav.rows.toInt - 2).tdiv 2 = middle at *
  have hzero : nav.start + middle * nav.rowWidth.toInt = 0 := by simpa using hplace 0
  have hback : nav.start + (middle - 1) * nav.rowWidth.toInt = -nav.rowWidth.toInt := by
    simpa [sub_eq_add_neg] using hplace (-1)
  split at hselect
  next hmore =>
    refine iff_of_true ?_ (.inl hmore)
    rw [chooses_of_select hready hselect (by omega) (by omega), hback, hzero]
    obtain ⟨hfront, hbehind⟩ := left_between hwidth hmost
    exact ⟨fun _ => hfront, fun _ => hbehind⟩
  next hless =>
    have hiff := right_between_iff_even hwidth hmost hrows (by omega)
    rw [or_iff_right hless, ← hiff, chooses_of_select hready hselect (by omega) (by omega),
      add_sub_cancel_right, hplace, hzero, one_mul]
    exact and_congr (imp_iff_right (by omega)) (imp_congr_left (by omega))

end Choice

/-- A single row is taken when it has enough centers; else its neighbours are looked at. -/
theorem chooses_single (hready : nav.Ready) (hrows : nav.rows.toInt = 1) (bucket : List Point2f) :
    nav.Chooses [bucket] ↔ nav.Selectable [bucket] := by
  have hodd : nav.oddRows = true := by
    rw [oddRows, hrows]
    rfl
  have hselect : nav.selectRow .machine [bucket] =
      if 4 < bucket.length then .ok (0, 210) else .error ⟨-1⟩ := by
    unfold selectRow
    dsimp only
    rw [hready.center, if_pos hodd, hrows]
    rfl
  have hselectable : nav.Selectable [bucket] ↔ 4 < bucket.length := by
    unfold Selectable
    dsimp only
    rw [if_pos hodd, hrows, or_iff_left (fun h => absurd h.1 (by decide))]
    rfl
  rw [hselectable]
  constructor
  · rintro ⟨usedRow, x, hsome, -⟩
    by_contra hfew
    rw [hselect, if_neg hfew] at hsome
    exact absurd hsome (by simp)
  · intro hmany
    rw [if_pos hmany] at hselect
    rw [chooses_of_select hready hselect (le_refl _) (by omega)]
    exact ⟨fun h => absurd h (by decide), fun h => absurd h (by omega)⟩

/-- **When the choice is good.** On a fresh navigator that `Init` accepts, and whatever centers are
in the buckets of the rows: with a row to take, and no line of it nor its reference beyond the 32
bits. -/
theorem chooses_iff {captureWidth captureHeight : Int32} {opened : Bool} (hfresh : nav.Fresh)
    (hwidth : 2 ≤ nav.rowWidth.toInt)
    (hinit : nav.init .machine captureWidth captureHeight opened = (nav', true))
    {buckets : List (List Point2f)} (hbuckets : buckets.length = nav'.rowLines.length) :
    nav'.Chooses buckets ↔ nav.Selectable buckets := by
  have hready := Ready.of_init hfresh hinit
  obtain ⟨-, hrowLines, -, hrows, hrowWidth⟩ := init_lines hfresh hinit
  have hsame : nav.Selectable buckets ↔ nav'.Selectable buckets := by
    unfold Selectable oddRows
    rw [hrows, hrowWidth]
  rw [hrowLines] at hbuckets
  rw [← hrowWidth] at hwidth
  rw [← hrows] at hbuckets
  rw [hsame]
  rcases Int.lt_trichotomy nav'.rows.toInt 1 with hnone | hone | hmore
  · -- there is no bucket
    obtain rfl : buckets = [] := List.length_eq_zero_iff.mp (by omega)
    obtain ⟨fault, hfault⟩ := selectRow_nil nav'
    refine iff_of_false ?_ ?_
    · rintro ⟨usedRow, x, hsome, -⟩
      rw [hfault] at hsome
      exact absurd hsome (by simp)
    · unfold Selectable
      dsimp only
      split
      · rintro (h | ⟨h, -⟩)
        · exact absurd h (by simp [count])
        · omega
      · rintro ⟨h, -⟩
        omega
  · obtain ⟨bucket, rfl⟩ := List.length_eq_one_iff.mp (show buckets.length = 1 by omega)
    exact chooses_single hready hone bucket
  · -- the neighbours exist
    cases hodd : nav'.oddRows with
    | true =>
      have hrem : nav'.rows.toInt.tmod 2 ≠ 0 := of_decide_eq_true hodd
      have hrem' := Int.tmod_eq_emod_of_nonneg (a := nav'.rows.toInt) (b := 2) (by omega)
      exact chooses_odd hready (by omega) hwidth hodd (by omega)
    | false => exact chooses_even hready (by omega) hwidth hodd (by omega)

/-- Six rows, with two plants in the third and one in the fourth. -/
def seen : List (List Point2f) := [[], [], [⟨150, 8⟩, ⟨152, 24⟩], [⟨270, 8⟩], [], []]

/-- The third row is taken. -/
theorem chooses_default : (default.init .machine 424 240 true).1.Chooses seen := by
  have hinit : default.init .machine 424 240 true = ((default.init .machine 424 240 true).1, true) :=
    Prod.ext rfl (by decide +kernel)
  have hbuckets : seen.length = (default.init .machine 424 240 true).1.rowLines.length := by
    decide +kernel
  refine (chooses_iff ⟨rfl, rfl⟩ (by decide) hinit hbuckets).mpr ?_
  unfold Selectable
  decide

/-- The default configuration, with a single row. -/
def singleRow : CamNavigator := { default with rows := 1 }

/-- It is accepted, and no plant is seen. -/
theorem chooses_singleRow :
    (singleRow.init .machine 424 240 true).2 = true ∧
      ¬ (singleRow.init .machine 424 240 true).1.Chooses [[]] := by
  have haccepted : (singleRow.init .machine 424 240 true).2 = true := by decide +kernel
  have hready : (singleRow.init .machine 424 240 true).1.Ready :=
    .of_init ⟨rfl, rfl⟩ (Prod.ext rfl haccepted)
  have hrows : (singleRow.init .machine 424 240 true).1.rows.toInt = 1 := by decide +kernel
  refine ⟨haccepted, fun h => absurd ((chooses_single hready hrows []).mp h) ?_⟩
  unfold Selectable
  decide +kernel

/-- Three rows, as wide as an `int` can say. -/
def wideRows : CamNavigator := { default with rows := 3, rowWidth := 2147483647 }

/-- The reference of the row on the right comes out on the left of the region. -/
example : (wideRows.init .machine 424 240 true).2 = true ∧
    (wideRows.init .machine 424 240 true).1.selectRow .machine [[], [], []] =
      .ok (2, -2147483439) := by decide +kernel

end Solarbot.Cam.CamNavigator
