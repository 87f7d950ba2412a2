import Mathlib.Tactic.Linarith
import Mathlib.Tactic.Ring
import Solarbot.Cam.Navigator

/-!
# The rows of the region

With at least one row and a width of two or more, `Init` puts the lines one width apart, from left
to right (`newLines_eq`). Then the first line that a center is left of says which row it is in,
and `separator` deals the centers into the buckets by it. As each center gets to its bucket in the
order of the vectors, the bucket of a row is what is in the row (`row_partition`).
-/

namespace Solarbot.Cam

open Buckets

namespace CamNavigator

variable {numbers : Numbers} {nav nav' : CamNavigator}

/-! ## What `Init` leaves -/

/-- The navigator with its region. -/
def region (nav : CamNavigator) (captureWidth captureHeight : Int32) : CamNavigator :=
  let imgWidth := castInt (nav.imgZoom * captureWidth.toInt)
  let imgHeight := castInt (nav.imgZoom * captureHeight.toInt)
  { nav with
    captureWidth, captureHeight, imgWidth, imgHeight
    searchTop := imgHeight - searchHeight - nav.verticalOffset
    searchLeft := imgWidth / 2 - searchWidth / 2 + nav.horizontalOffset }

/-- What the checks have seen. -/
structure Checked (nav : CamNavigator) : Prop where
  imgWidth : ¬ nav.imgWidth < searchWidth
  imgHeight : ¬ nav.imgHeight < searchHeight
  searchTop : ¬ nav.searchTop < 0
  searchLeft : ¬ nav.searchLeft < 0
  searchRight : ¬ nav.imgWidth < nav.searchLeft + searchWidth

/-- `Init` that returns true. -/
theorem init_true {captureWidth captureHeight : Int32} {opened : Bool}
    (h : nav.init numbers captureWidth captureHeight opened = (nav', true)) :
    (nav.region captureWidth captureHeight).Checked ∧
      nav' = (nav.region captureWidth captureHeight).fill numbers := by
  have hfalse : ∀ {n : CamNavigator}, (n, false) ≠ (nav', true) := by simp
  unfold init at h
  dsimp only at h
  split at h
  next => exact absurd h hfalse
  next hwidth =>
  split at h
  next => exact absurd h hfalse
  next hheight =>
  split at h
  next => exact absurd h hfalse
  next htop =>
  split at h
  next => exact absurd h hfalse
  next hleft =>
  split at h
  next => exact absurd h hfalse
  next hright =>
  split at h
  next => exact absurd h hfalse
  next => exact ⟨⟨hwidth, hheight, htop, hleft, hright⟩, (Prod.mk.inj h).1.symm⟩

/-- A navigator that was not initialised. -/
structure Fresh (nav : CamNavigator) : Prop where
  rowLines : nav.rowLines = []
  separationLines : nav.separationLines = []

/-! ## The lines -/

/-- The leftmost line, from the middle of the region. -/
def start (nav : CamNavigator) : Int :=
  if nav.oddRows then
    -(nav.rows.toInt - 1).tdiv 2 * nav.rowWidth.toInt + nav.rowWidth.toInt.tdiv 2
  else -(nav.rows.toInt - 2).tdiv 2 * nav.rowWidth.toInt

/-- Cutting a coordinate earlier makes no difference. -/
theorem lineAt_int (x : Int) : lineAt numbers (numbers.int x) = lineAt numbers x := by
  have hcut : ∀ m : Int, numbers.int (m + numbers.int x) = numbers.int (m + x) := by
    intro m
    rw [Int.add_comm, numbers.int_add, Int.add_comm]
  unfold lineAt
  dsimp only
  rw [hcut]

/-- **The lines are one width apart**, one less than the rows. -/
theorem newLines_eq (numbers : Numbers) (hrows : 1 ≤ nav.rows.toInt) :
    nav.newLines numbers = (List.range (nav.rows.toInt - 1).toNat).map fun k : Nat =>
      lineAt numbers (nav.start + k * nav.rowWidth.toInt) := by
  have hrem := Int.tmod_eq_emod_of_nonneg (a := nav.rows.toInt) (b := 2) (by omega)
  have hmost := nav.rows.toInt_lt
  unfold newLines start
  dsimp only
  rw [numbers.int_small (nav.rows.toInt - 1) (by omega) (by omega),
    numbers.int_small (nav.rows.toInt - 2) (by omega) (by omega)]
  split
  next hodd =>
    have hhalf := Int.tdiv_eq_ediv_of_nonneg (a := nav.rows.toInt - 1) (b := 2) (by omega)
    have hrem' : nav.rows.toInt.tmod 2 ≠ 0 := of_decide_eq_true hodd
    have hcount : (nav.rows.toInt - 1).tdiv 2 - -(nav.rows.toInt - 1).tdiv 2 =
        nav.rows.toInt - 1 := by omega
    rw [Int.range, hcount, List.map_map]
    refine List.map_congr_left fun k _ => ?_
    dsimp only [Function.comp]
    rw [lineAt_int, ← lineAt_int (numbers.int _ + _), numbers.int_add, lineAt_int]
    refine congrArg (lineAt numbers) ?_
    ring
  next heven =>
    have hrem' : nav.rows.toInt.tmod 2 = 0 := by simpa [oddRows] using heven
    have hhalf := Int.tdiv_eq_ediv_of_nonneg (a := nav.rows.toInt - 2) (b := 2) (by omega)
    have hcount : (nav.rows.toInt - 2).tdiv 2 + 1 - -(nav.rows.toInt - 2).tdiv 2 =
        nav.rows.toInt - 1 := by omega
    rw [Int.range, hcount, List.map_map]
    refine List.map_congr_left fun k _ => ?_
    dsimp only [Function.comp]
    rw [lineAt_int]
    refine congrArg (lineAt numbers) ?_
    ring

/-- A line lies left of another. -/
def LeftOf (a b : Line) : Prop := a.1.x < b.1.x

theorem lineAt_x (x : Int) :
    (lineAt numbers x).1.x = (numbers.float (numbers.int (210 + x)) : Int) := rfl

/-- The numbers are fit for the lines. -/
def Keeps (numbers : Numbers) (nav : CamNavigator) : Prop :=
  ∀ k : Nat, (k : Int) < nav.rows.toInt - 1 →
    numbers.float (numbers.int (210 + (nav.start + k * nav.rowWidth.toInt))) =
      210 + (nav.start + k * nav.rowWidth.toInt)

/-- Exact numbers keep everything. -/
theorem exact_keeps (nav : CamNavigator) : Keeps .exact nav := fun _ _ => rfl

/-- All the rows together are less wide than 2^24. -/
theorem keeps_of_width (numbers : Numbers) (hwidth : 2 ≤ nav.rowWidth.toInt)
    (hsize : nav.rows.toInt * nav.rowWidth.toInt ≤ 16000000) : Keeps numbers nav := by
  intro k hk
  have hrem := Int.tmod_eq_emod_of_nonneg (a := nav.rows.toInt) (b := 2) (by omega)
  have hhalf := Int.tdiv_eq_ediv_of_nonneg (a := nav.rowWidth.toInt) (b := 2) (by omega)
  have hlow : -nav.rows.toInt * nav.rowWidth.toInt ≤ nav.start := by
    unfold start
    split
    next =>
      have hmiddle := Int.tdiv_eq_ediv_of_nonneg (a := nav.rows.toInt - 1) (b := 2) (by omega)
      have hmul : -nav.rows.toInt * nav.rowWidth.toInt ≤
          -(nav.rows.toInt - 1).tdiv 2 * nav.rowWidth.toInt :=
        mul_le_mul_of_nonneg_right (by omega) (by omega)
      omega
    next heven =>
      have heven' : nav.rows.toInt.tmod 2 = 0 := by simpa [oddRows] using heven
      have hmiddle := Int.tdiv_eq_ediv_of_nonneg (a := nav.rows.toInt - 2) (b := 2) (by omega)
      exact mul_le_mul_of_nonneg_right (by omega) (by omega)
  have hhigh : nav.start ≤ nav.rowWidth.toInt := by
    unfold start
    split
    next =>
      have hmiddle := Int.tdiv_eq_ediv_of_nonneg (a := nav.rows.toInt - 1) (b := 2) (by omega)
      have hmul : -(nav.rows.toInt - 1).tdiv 2 * nav.rowWidth.toInt ≤ 0 :=
        mul_nonpos_of_nonpos_of_nonneg (by omega) (by omega)
      omega
    next heven =>
      have heven' : nav.rows.toInt.tmod 2 = 0 := by simpa [oddRows] using heven
      have hmiddle := Int.tdiv_eq_ediv_of_nonneg (a := nav.rows.toInt - 2) (b := 2) (by omega)
      have hmul : -(nav.rows.toInt - 2).tdiv 2 * nav.rowWidth.toInt ≤ 0 :=
        mul_nonpos_of_nonpos_of_nonneg (by omega) (by omega)
      omega
  -- so each line is within the bounds of a `float`
  have hk0 : (0 : Int) ≤ k * nav.rowWidth.toInt := by positivity
  have hkn : k * nav.rowWidth.toInt ≤ (nav.rows.toInt - 1) * nav.rowWidth.toInt :=
    mul_le_mul_of_nonneg_right (by omega) (by omega)
  rw [neg_mul] at hlow
  rw [sub_one_mul] at hkn
  rw [numbers.int_small _ (by omega) (by omega), numbers.float_small (by omega)]

/-- **The lines** go from left to right. -/
theorem newLines_ordered (hkeeps : Keeps numbers nav) (hrows : 1 ≤ nav.rows.toInt)
    (hwidth : 2 ≤ nav.rowWidth.toInt) : (nav.newLines numbers).Pairwise LeftOf := by
  rw [newLines_eq numbers hrows, List.pairwise_map]
  refine List.Pairwise.imp_of_mem ?_ List.pairwise_lt_range
  intro a b ha hb hab
  rw [List.mem_range] at ha hb
  have hmul : (a : Int) * nav.rowWidth.toInt < b * nav.rowWidth.toInt :=
    mul_lt_mul_of_pos_right (by exact_mod_cast hab) (by omega)
  rw [LeftOf, lineAt_x, lineAt_x, hkeeps a (by omega), hkeeps b (by omega)]
  exact Rat.intCast_lt_intCast.mpr (by omega)

/-- There is a line between each two rows. -/
theorem newLines_length (numbers : Numbers) (hrows : 1 ≤ nav.rows.toInt) :
    (nav.newLines numbers).length = (nav.rows.toInt - 1).toNat := by
  rw [newLines_eq numbers hrows, List.length_map, List.length_range]

/-! ## The row of a center -/

/-- At or right of the line in front of row `k` and left of the line behind it, if there are any. -/
def InRow (lines : List Line) (k : Nat) (x : ℚ) : Prop :=
  (0 < k → ∀ line ∈ lines[k - 1]?, line.1.x ≤ x) ∧ ∀ line ∈ lines[k]?, x < line.1.x

instance (lines : List Line) (k : Nat) (x : ℚ) : Decidable (InRow lines k x) :=
  inferInstanceAs (Decidable (_ ∧ _))

/-- The first line that `x` is left of, or behind the last. -/
def rowOf (lines : List Line) (x : ℚ) : Nat := lines.findIdx fun line => x < line.1.x

theorem rowOf_le (lines : List Line) (x : ℚ) : rowOf lines x ≤ lines.length :=
  List.findIdx_le_length

/-- A place is in the row that the loop finds for it. -/
theorem inRow_rowOf (lines : List Line) (x : ℚ) : InRow lines (rowOf lines x) x := by
  constructor
  · intro hpos line hline
    obtain ⟨hlt, rfl⟩ := List.getElem?_eq_some_iff.mp hline
    have hbefore : decide (x < lines[rowOf lines x - 1].1.x) = false :=
      @List.not_of_lt_findIdx _ (fun line => x < line.1.x) lines _ (by unfold rowOf at *; omega)
    exact not_lt.mp (of_decide_eq_false hbefore)
  · intro line hline
    obtain ⟨hlt, rfl⟩ := List.getElem?_eq_some_iff.mp hline
    have hfirst : decide (x < lines[rowOf lines x].1.x) = true := List.findIdx_getElem (w := hlt)
    exact of_decide_eq_true hfirst

/-- Rows do not overlap: the line behind one is not right of the line in front of a later one. -/
theorem InRow.not_lt {lines : List Line} (h : lines.Pairwise LeftOf) {i j : Nat} {x : ℚ}
    (hi : InRow lines i x) (hj : InRow lines j x) (hle : j ≤ lines.length) : ¬ i < j := by
  intro hij
  have hbehind : x < lines[i].1.x := hi.2 _ (List.getElem?_eq_getElem (by omega))
  have hfront : lines[j - 1].1.x ≤ x := hj.1 (by omega) _ (List.getElem?_eq_getElem (by omega))
  have hordered : lines[i].1.x ≤ lines[j - 1].1.x := by
    rcases Nat.lt_or_ge i (j - 1) with hlt | hge
    · exact le_of_lt (List.pairwise_iff_getElem.mp h i (j - 1) (by omega) (by omega) hlt)
    · have hsame : i = j - 1 := by omega
      subst hsame
      exact le_refl _
  exact absurd (hbehind.trans_le (hordered.trans hfront)) (lt_irrefl x)

/-- **A center is in one row.** -/
theorem inRow_iff {lines : List Line} (h : lines.Pairwise LeftOf) {k : Nat} (hk : k ≤ lines.length)
    (x : ℚ) : InRow lines k x ↔ rowOf lines x = k := by
  constructor
  · intro hrow
    have hbelow := (inRow_rowOf lines x).not_lt h hrow hk
    have habove := hrow.not_lt h (inRow_rowOf lines x) (rowOf_le lines x)
    omega
  · rintro rfl
    exact inRow_rowOf lines x

/-! ## The loops of `separator` -/

/-- A bucket that exists is found. -/
theorem elementAt_nat {α : Type} {v : List α} {i : Nat} (h : i < v.length) :
    elementAt v i = .ok v[i] := by
  unfold elementAt
  rw [if_pos (Int.natCast_nonneg i), Int.toNat_natCast, List.getElem?_eq_getElem h]
  rfl

/-- And a center can be put into it. -/
theorem pushAt_nat {α : Type} {v : List (List α)} {i : Nat} (h : i < v.length) (a : α) :
    pushAt v i a = .ok (push v i a) := by
  unfold pushAt
  rw [elementAt_nat h, Int.toNat_natCast]
  rfl

/-- The loop from `r` on finds the first line that the center is left of, if there is one. -/
theorem rowLoop_eq {lines : List Line} (hlines : nav.separationLines = lines) (center : Point2f)
    {buckets : List (List Point2f)} (hbuckets : lines.length < buckets.length) (n r : Nat)
    (hr : r + n = lines.length) (found : Bool) :
    nav.rowLoop center n r (found, buckets) =
      .ok (if rowOf (lines.drop r) center.x < n then
          (true, push buckets (r + rowOf (lines.drop r) center.x) center)
        else (if n = 0 then found else false, buckets)) := by
  induction n generalizing r found with
  | zero => rfl
  | succ n ih =>
    have hr' : r < lines.length := by omega
    have hdrop : lines.drop r = lines[r] :: lines.drop (r + 1) := List.drop_eq_getElem_cons hr'
    have hfirst : rowOf (lines.drop r) center.x =
        if center.x < lines[r].1.x then 0 else rowOf (lines.drop (r + 1)) center.x + 1 := by
      rw [hdrop, rowOf, List.findIdx_cons]
      by_cases hleft : center.x < lines[r].1.x
      · rw [if_pos hleft, decide_eq_true hleft]
        rfl
      · rw [if_neg hleft, decide_eq_false hleft]
        rfl
    rw [rowLoop, hlines, elementAt_nat hr', hfirst]
    show (if center.x < lines[r].1.x then _ else nav.rowLoop center n ((r + 1 : Nat) : Int) _) = _
    by_cases hleft : center.x < lines[r].1.x
    · rw [if_pos hleft, if_pos hleft, if_pos (Nat.succ_pos n)]
      show (pushAt buckets r center).bind _ = _
      rw [pushAt_nat (hr'.trans hbuckets)]
      rfl
    · rw [if_neg hleft, if_neg hleft, ih (r + 1) (by omega)]
      by_cases hrest : rowOf (lines.drop (r + 1)) center.x < n
      · rw [if_pos hrest, if_pos (Nat.succ_lt_succ hrest), Nat.add_right_comm, Nat.add_assoc]
      · have hrest' : ¬ rowOf (lines.drop (r + 1)) center.x + 1 < n + 1 :=
          fun h => hrest (Nat.lt_of_succ_lt_succ h)
        rw [if_neg hrest, if_neg hrest', if_neg (Nat.succ_ne_zero n), ite_self]

/-- One center gets to its row. The flag of the row before does not matter, unless there are no
lines. -/
theorem place_eq {lines : List Line} (hlines : nav.separationLines = lines)
    (hrows : numbers.int (nav.rows.toInt - 1) = lines.length) {found : Bool} (hfound : lines = [] → found = false)
    {buckets : List (List Point2f)} (hbuckets : lines.length < buckets.length) (center : Point2f) :
    ∃ found', (lines = [] → found' = false) ∧
      nav.place numbers (found, buckets) center = .ok (found', push buckets (rowOf lines center.x) center) := by
  have hle := rowOf_le lines center.x
  have hloop := rowLoop_eq hlines center hbuckets lines.length 0 (Nat.zero_add _) found
  rw [List.drop_zero, Nat.zero_add] at hloop
  unfold place
  dsimp only
  rw [hrows, Int.toNat_natCast]
  show ∃ found', _ ∧ (nav.rowLoop center lines.length ((0 : Nat) : Int) (found, buckets)).bind _ = _
  rw [hloop]
  by_cases hrow : rowOf lines center.x < lines.length
  · refine ⟨true, fun hnil => ?_, ?_⟩
    · rw [hnil] at hrow
      exact absurd hrow (Nat.not_lt_zero _)
    · rw [if_pos hrow]
      rfl
  · have hlast : rowOf lines center.x = lines.length := by omega
    have hflag : (if lines.length = 0 then found else false) = false := by
      split
      next h => exact hfound (List.length_eq_zero_iff.mp h)
      next => rfl
    refine ⟨false, fun _ => rfl, ?_⟩
    rw [if_neg hrow, hflag, hlast]
    show (pushAt buckets lines.length center).bind _ = _
    rw [pushAt_nat hbuckets]
    rfl

/-- All centers of one strip. -/
theorem foldlM_place {lines : List Line} (hlines : nav.separationLines = lines)
    (hrows : numbers.int (nav.rows.toInt - 1) = lines.length) (centers : List Point2f) {found : Bool}
    (hfound : lines = [] → found = false) {buckets : List (List Point2f)}
    (hbuckets : lines.length < buckets.length) :
    ∃ found', (lines = [] → found' = false) ∧ centers.foldlM (place numbers nav) (found, buckets) =
      .ok (found', deal (fun center => rowOf lines center.x) buckets centers) := by
  induction centers generalizing found buckets with
  | nil => exact ⟨found, hfound, rfl⟩
  | cons center centers ih =>
    obtain ⟨found₁, hfound₁, hplace⟩ := place_eq hlines hrows hfound hbuckets center
    obtain ⟨found₂, hfound₂, hrest⟩ := ih hfound₁ (hbuckets.trans_eq
      (push_length buckets (rowOf lines center.x) center).symm)
    refine ⟨found₂, hfound₂, ?_⟩
    rw [List.foldlM_cons, hplace]
    exact hrest

/-- **`separator` deals the centers into their rows.** -/
theorem separator_eq {lines : List Line} (hlines : nav.separationLines = lines)
    (hrows : numbers.int (nav.rows.toInt - 1) = lines.length) (centers : List (List Point2f))
    {buckets : List (List Point2f)} (hbuckets : lines.length < buckets.length) :
    nav.separator numbers centers buckets =
      .ok (deal (fun center => rowOf lines center.x) buckets centers.flatten) := by
  have hstrips : ∀ {found : Bool}, (lines = [] → found = false) → ∀ {buckets : List (List Point2f)},
      lines.length < buckets.length →
      ∃ found', centers.foldlM (fun s centers => centers.foldlM (place numbers nav) s) (found, buckets) =
        .ok (found', deal (fun center => rowOf lines center.x) buckets centers.flatten) := by
    induction centers with
    | nil => exact fun _ _ _ => ⟨_, rfl⟩
    | cons strip centers ih =>
      intro found hfound buckets hbuckets
      obtain ⟨found₁, hfound₁, hstrip⟩ := foldlM_place hlines hrows strip hfound hbuckets
      obtain ⟨found₂, hrest⟩ := ih hfound₁ (hbuckets.trans_eq
        (deal_length (fun center => rowOf lines center.x) buckets strip).symm)
      refine ⟨found₂, ?_⟩
      rw [List.foldlM_cons, hstrip, List.flatten_cons, deal_append]
      exact hrest
  obtain ⟨found, h⟩ := @hstrips false (fun _ => rfl) _ hbuckets
  unfold separator
  rw [h]
  rfl

/-! ## The partition -/

/-- What `Init` leaves of a fresh navigator for the other functions. -/
theorem init_lines {captureWidth captureHeight : Int32} {opened : Bool} (hfresh : nav.Fresh)
    (h : nav.init numbers captureWidth captureHeight opened = (nav', true)) :
    nav'.separationLines = nav.newLines numbers ∧ nav'.rowLines.length = nav.rows.toInt.toNat ∧
      nav'.hasCenterRow = nav.oddRows ∧ nav'.rows = nav.rows ∧ nav'.rowWidth = nav.rowWidth := by
  obtain ⟨-, rfl⟩ := init_true h
  refine ⟨?_, ?_, rfl, rfl, rfl⟩
  · show nav.separationLines ++ nav.newLines numbers = _
    rw [hfresh.separationLines, List.nil_append]
  · show (nav.rowLines ++ List.replicate nav.rows.toInt.toNat _).length = _
    rw [hfresh.rowLines, List.nil_append, List.length_replicate]

/-- The buckets hold the centers of the rows. -/
theorem separator_rows {captureWidth captureHeight : Int32} {opened : Bool} (hfresh : nav.Fresh)
    (hkeeps : Keeps numbers nav) (hrows : 1 ≤ nav.rows.toInt) (hwidth : 2 ≤ nav.rowWidth.toInt)
    (hinit : nav.init numbers captureWidth captureHeight opened = (nav', true))
    (centers : List (List Point2f)) : ∃ buckets,
      nav'.separator numbers centers (List.replicate nav'.rowLines.length []) = .ok buckets ∧
      (buckets.length : Int) = nav.rows.toInt ∧
      (∀ k < buckets.length, buckets[k]? =
        some (centers.flatten.filter fun center => InRow nav'.separationLines k center.x)) ∧
      buckets.flatten.Perm centers.flatten := by
  obtain ⟨hlines, hrowLines, -, hrows', -⟩ := init_lines hfresh hinit
  have hordered := newLines_ordered hkeeps hrows hwidth
  have hlength := newLines_length numbers hrows
  have hmost := nav.rows.toInt_lt
  have hcount : numbers.int (nav'.rows.toInt - 1) = (nav.newLines numbers).length := by
    rw [hrows', numbers.int_small _ (by omega) (by omega)]
    omega
  have hroom : (nav.newLines numbers).length <
      (List.replicate nav'.rowLines.length ([] : List Point2f)).length := by
    rw [List.length_replicate]
    omega
  rw [hlines]
  refine ⟨_, separator_eq hlines hcount centers hroom, ?_, ?_, ?_⟩
  · rw [deal_length, List.length_replicate]
    omega
  · intro k hk
    rw [deal_length, List.length_replicate] at hk
    rw [deal_getElem?, List.getElem?_replicate, if_pos hk]
    refine congrArg some (List.filter_congr fun center _ => ?_)
    exact decide_eq_decide.mpr (inRow_iff hordered (by omega) center.x).symm
  · -- dealing loses nothing
    have hdeal : (deal (fun center => rowOf (nav.newLines numbers) center.x)
        (List.replicate nav'.rowLines.length []) centers.flatten).flatten.Perm
          ((List.replicate nav'.rowLines.length []).flatten ++ centers.flatten) :=
      deal_flatten _ fun center _ => lt_of_le_of_lt (rowOf_le _ _) hroom
    rw [List.flatten_replicate_nil, List.nil_append] at hdeal
    exact hdeal

/-- **The rows are a partition.** `Init` makes one line less than rows, from left to right.
`separator` finds a bucket for each row, leaves in it the centers of the row in their order, and
loses and duplicates none. -/
theorem row_partition {captureWidth captureHeight : Int32} {opened : Bool} (hfresh : nav.Fresh)
    (hrows : 1 ≤ nav.rows.toInt) (hwidth : 2 ≤ nav.rowWidth.toInt)
    (hinit : nav.init .exact captureWidth captureHeight opened = (nav', true)) :
    (nav'.separationLines.length : Int) = nav.rows.toInt - 1 ∧
      nav'.separationLines.Pairwise LeftOf ∧
      ∀ centers, ∃ buckets,
        nav'.separator .exact centers (List.replicate nav'.rowLines.length []) = .ok buckets ∧
        (buckets.length : Int) = nav.rows.toInt ∧
        (∀ k < buckets.length, buckets[k]? =
          some (centers.flatten.filter fun center => InRow nav'.separationLines k center.x)) ∧
        (∀ x, ∃! k, k < buckets.length ∧ InRow nav'.separationLines k x) ∧
        buckets.flatten.Perm centers.flatten := by
  obtain ⟨hlines, -⟩ := init_lines hfresh hinit
  have hordered := newLines_ordered (exact_keeps nav) hrows hwidth
  have hlength := newLines_length .exact hrows
  refine ⟨by rw [hlines]; omega, by rwa [hlines], fun centers => ?_⟩
  obtain ⟨buckets, hseparator, hcount, hrow, hperm⟩ :=
    separator_rows hfresh (exact_keeps nav) hrows hwidth hinit centers
  refine ⟨buckets, hseparator, hcount, hrow, ?_, hperm⟩
  intro x
  rw [hlines]
  have hle := rowOf_le (nav.newLines .exact) x
  refine ⟨rowOf (nav.newLines .exact) x, ⟨by omega, inRow_rowOf _ _⟩, ?_⟩
  rintro k ⟨hk, hinRow⟩
  exact ((inRow_iff hordered (by omega) x).mp hinRow).symm

/-- The default configuration. -/
def default : CamNavigator :=
  { imgWidth := 0, imgHeight := 0, searchLeft := 0, searchTop := 0 }

theorem row_partition_default :
    let nav := (default.init .exact 424 240 true).1
    nav.separationLines.length = 5 ∧ nav.separationLines.Pairwise LeftOf ∧
      ∃ buckets, nav.separator .exact [[⟨300, 5⟩, ⟨20, 7⟩], [⟨210, 20⟩]] (List.replicate 6 []) = .ok buckets ∧
        buckets.flatten.Perm [⟨300, 5⟩, ⟨20, 7⟩, ⟨210, 20⟩] := by
  have hinit : default.init .exact 424 240 true = ((default.init .exact 424 240 true).1, true) :=
    Prod.ext rfl (by decide +kernel)
  have hrowLines : (default.init .exact 424 240 true).1.rowLines.length = 6 := by decide +kernel
  have hfive : default.rows.toInt - 1 = 5 := by decide
  obtain ⟨hlength, hordered, hseparator⟩ := row_partition ⟨rfl, rfl⟩ (by decide) (by decide) hinit
  obtain ⟨buckets, hbuckets, -, -, -, hperm⟩ := hseparator [[⟨300, 5⟩, ⟨20, 7⟩], [⟨210, 20⟩]]
  rw [hrowLines] at hbuckets
  exact ⟨by omega, hordered, buckets, hbuckets, hperm⟩

end CamNavigator

end Solarbot.Cam
