import Solarbot.Lib.Printing
import Solarbot.Line.Read
import Solarbot.Serial.Lines

/-!
# What the line sensor reports

Either table has an item for each value of its interval, so the limited raw value is always one
of its indices (`distance_eq`): a read that ends has looked up two items, and only a missing
comma can end the program. A line as the sensor writes it is read for what it says, whatever is
left in the buffer (`read_text`), and with the factors `Solarbot` gives, the distances are those
of the tables and the angle is their difference, far from its limits (`read_range`).
-/

namespace Solarbot.Line

open CText Gps Nav Serial

/-! ## The tables -/

theorem limitRaw_mem {low high : Int} (h : low < high) (raw : Int) :
    low ≤ limitRaw low high raw ∧ limitRaw low high raw < high := by
  unfold limitRaw
  split
  · omega
  · split <;> omega

variable {D : Type} [Dbl D]

/-- A table that covers its interval is never left. -/
theorem distance_eq {table : List Rat} {low high : Int} (h : low < high)
    (hlength : (table.length : Int) = high - low) (factor : D) (offset raw : Int) :
    ∃ item ∈ table, table[(limitRaw low high raw - low).toNat]? = some item ∧
      distance table low high factor offset raw = some (factor * (num item + num (offset : Rat))) := by
  obtain ⟨hlo, hhi⟩ := limitRaw_mem h raw
  have hindex : (limitRaw low high raw - low).toNat < table.length := by omega
  refine ⟨table[(limitRaw low high raw - low).toNat], List.getElem_mem hindex,
    List.getElem?_eq_getElem hindex, ?_⟩
  unfold distance
  dsimp only
  rw [if_pos (by omega), List.getElem?_eq_getElem hindex]
  rfl

theorem leftTable_range : ∀ item ∈ leftTable, 7 / 2 ≤ item ∧ item ≤ 10 := by decide +kernel

theorem rightTable_range : ∀ item ∈ rightTable, 7 / 2 ≤ item ∧ item ≤ 19 / 2 := by decide +kernel

namespace LineNavigator

variable (n : LineNavigator D)

/-- The item of the left probe. -/
theorem leftDistance_eq (raw : Int) : ∃ item ∈ leftTable,
    leftTable[(limitRaw leftRawLow leftRawHigh raw - leftRawLow).toNat]? = some item ∧
      n.leftDistance raw = some (n.leftFactor * (num item + num (n.leftOffset : Rat))) :=
  distance_eq (by decide) (by decide +kernel) _ _ raw

/-- The item of the right probe. -/
theorem rightDistance_eq (raw : Int) : ∃ item ∈ rightTable,
    rightTable[(limitRaw rightRawLow rightRawHigh raw - rightRawLow).toNat]? = some item ∧
      n.rightDistance raw = some (n.rightFactor * (num item + num (n.rightOffset : Rat))) :=
  distance_eq (by decide) (by decide +kernel) _ _ raw

end LineNavigator

/-! ## A line of the sensor -/

/-- A line as the sensor writes it: a name, an identifier, the two raw values, and whatever may
stand behind them. -/
structure SensorLine extends CheckedLine where
  name : List Char
  idFrame : Numeral
  left : Numeral
  right : Numeral
  behind : List Char
  body_eq : body = name ++ (commaFields [idFrame, left, right] ++ behind)
  name_comma : ',' ∉ name
  name_zero : '\x00' ∉ name
  behind_digits : DigitsEnd behind
  idFrame_range : -2 ^ 31 ≤ idFrame.value ∧ idFrame.value < 2 ^ 31
  left_range : -2 ^ 31 ≤ left.value ∧ left.value < 2 ^ 31
  right_range : -2 ^ 31 ≤ right.value ∧ right.value < 2 ^ 31

namespace LineNavigator

variable (n : LineNavigator D) (f : SensorLine)

/-- The numbers of a line, with anything behind it in the buffer. -/
theorem readData_text (r : List Char) {left right : D}
    (hleft : n.leftDistance f.left.value = some left)
    (hright : n.rightDistance f.right.value = some right) :
    n.readData (f.text ++ r) = some {
      status := 0
      idFrame := UInt8.ofInt f.idFrame.value
      rawLeft := f.left.value
      rawRight := f.right.value
      left := left
      right := right
      angle := limitAngle (n.angleFactor * (left - right)) } := by
  have hcomma : ',' ∉ '$' :: f.name := by simp [f.name_comma]
  have hzero : '\x00' ∉ '$' :: f.name := by simp [f.name_zero]
  have htext : f.text ++ r = ('$' :: f.name) ++ (commaFields [f.idFrame, f.left, f.right] ++
      (f.behind ++ '*' :: f.hi :: f.lo :: '\n' :: r)) := by
    rw [f.text_append, f.body_eq]
    simp
  have hend : DigitsEnd (f.behind ++ '*' :: f.hi :: f.lo :: '\n' :: r) := by
    cases hbehind : f.behind with
    | nil => exact digitsEnd_cons rfl _
    | cons c s =>
      have hdigits := f.behind_digits
      rw [hbehind] at hdigits
      exact hdigits
  have hid := f.idFrame.atoi_text (digitsEnd_commaFields [f.left, f.right] hend)
    f.idFrame_range.1 f.idFrame_range.2
  have hl := f.left.atoi_text (digitsEnd_commaFields [f.right] hend) f.left_range.1 f.left_range.2
  have hr := f.right.atoi_text (digitsEnd_commaFields [] hend) f.right_range.1 f.right_range.2
  unfold readData
  rw [htext, bind_some (comma_name hcomma hzero _ _ _), bind_some (comma_commaFields _ _ _ _), hl,
    bind_some hleft, bind_some (comma_commaFields _ _ _ _), hr, bind_some hright, hid]
  rfl

/-- A read of a line, with what its two values come to. -/
theorem read_line (hlength : f.text.length ≤ 97) (data : Data D) {left right : D}
    (hleft : n.leftDistance f.left.value = some left)
    (hright : n.rightDistance f.right.value = some right) :
    n.read data 1 f.text = some (n.receive f.text, {
      status := 0
      idFrame := UInt8.ofInt f.idFrame.value
      rawLeft := f.left.value
      rawRight := f.right.value
      left := left
      right := right
      angle := limitAngle (n.angleFactor * (left - right)) }, 0) := by
  have htake : f.text.take Power.portRxBufferSize = f.text :=
    List.take_of_length_le (hlength.trans (by decide))
  have hlong : 4 < f.text.length := by
    rw [f.text_length]
    omega
  have hbuffer : (n.receive f.text).portRxBuffer = f.text ++ n.portRxBuffer.drop f.text.length := by
    unfold receive
    rw [htake]
  have hsum : verifyChecksum (n.receive f.text).portRxBuffer = 0 := by
    rw [hbuffer]
    exact f.verifyChecksum_text hlength _
  have hdata := (n.receive f.text).readData_text f (n.portRxBuffer.drop f.text.length) hleft hright
  unfold read
  rw [if_neg (by decide), if_neg (by decide)]
  dsimp only
  rw [htake, if_pos hlong, if_pos hsum, hbuffer, hdata]
  rfl

/-- **A line of the sensor is read for what it says**: whatever the buffer holds, a read of a
line of at most 97 bytes returns 0, takes the identifier and the raw values out of it, and looks
each raw value up in its table, limited to the interval of the table. -/
theorem read_text (hlength : f.text.length ≤ 97) (data : Data D) :
    ∃ leftItem rightItem left right,
      leftTable[(limitRaw leftRawLow leftRawHigh f.left.value - leftRawLow).toNat]? =
        some leftItem ∧
      rightTable[(limitRaw rightRawLow rightRawHigh f.right.value - rightRawLow).toNat]? =
        some rightItem ∧
      left = n.leftFactor * (num leftItem + num (n.leftOffset : Rat)) ∧
      right = n.rightFactor * (num rightItem + num (n.rightOffset : Rat)) ∧
      n.read data 1 f.text = some (n.receive f.text, {
        status := 0
        idFrame := UInt8.ofInt f.idFrame.value
        rawLeft := f.left.value
        rawRight := f.right.value
        left := left
        right := right
        angle := limitAngle (n.angleFactor * (left - right)) }, 0) := by
  obtain ⟨leftItem, -, hleftItem, hleft⟩ := n.leftDistance_eq f.left.value
  obtain ⟨rightItem, -, hrightItem, hright⟩ := n.rightDistance_eq f.right.value
  exact ⟨leftItem, rightItem, _, _, hleftItem, hrightItem, rfl, rfl,
    n.read_line f hlength data hleft hright⟩

end LineNavigator

/-- `$LS,7,600,700` with its checksum. -/
def sampleSensorLine : SensorLine where
  body := "LS,7,600,700".toList
  star := by decide +kernel
  hi := '0'
  lo := '5'
  hexadecimal := by decide
  checksum := by decide +kernel
  name := "LS".toList
  idFrame := .ofInt 7
  left := .ofInt 600
  right := .ofInt 700
  behind := []
  body_eq := by decide +kernel
  name_comma := by decide +kernel
  name_zero := by decide +kernel
  behind_digits := digitsEnd_nil
  idFrame_range := by rw [Numeral.ofInt_value]; decide
  left_range := by rw [Numeral.ofInt_value]; decide
  right_range := by rw [Numeral.ofInt_value]; decide

/-- The sensor of `Solarbot`, over memory that is zero. -/
noncomputable def sampleLineNavigator : LineNavigator ℝ := .initModeLine (List.replicate 101 '\x00')

noncomputable def sampleData : Data ℝ := ⟨0, 0, 0, 0, 0, 0, 0⟩

theorem sampleSensorLine_length : sampleSensorLine.text.length ≤ 97 := by decide

/-- The line can be read. -/
theorem sampleSensorLine_read : ∃ n data,
    sampleLineNavigator.read sampleData 1 sampleSensorLine.text = some (n, data, 0) := by
  obtain ⟨leftItem, -, -, hleft⟩ := sampleLineNavigator.leftDistance_eq sampleSensorLine.left.value
  obtain ⟨rightItem, -, -, hright⟩ :=
    sampleLineNavigator.rightDistance_eq sampleSensorLine.right.value
  exact ⟨_, _, sampleLineNavigator.read_line sampleSensorLine sampleSensorLine_length sampleData
    hleft hright⟩

theorem read_text_sample : ∃ data,
    sampleLineNavigator.read sampleData 1 sampleSensorLine.text =
      some (sampleLineNavigator.receive sampleSensorLine.text, data, 0) ∧
    data.rawLeft = 600 ∧ data.rawRight = 700 := by
  obtain ⟨leftItem, rightItem, left, right, -, -, -, -, h⟩ :=
    sampleLineNavigator.read_text sampleSensorLine sampleSensorLine_length sampleData
  exact ⟨_, h, Numeral.ofInt_value 600, Numeral.ofInt_value 700⟩

/-! ## The angle -/

namespace LineNavigator

/-- The sensor as it was initialised, with anything in its buffer. -/
def Plain (n : LineNavigator D) : Prop := n = .initModeLine n.portRxBuffer

variable {n n' : LineNavigator D} {data data' : Data D} {rv r : Int} {line : List Char}

/-- **What a read does**: it fails and leaves the data of the read before, or it takes all of
them from the line. -/
theorem read_cases (h : n.read data rv line = some (n', data', r)) :
    (r ≠ 0 ∧ (n' = n ∨ n' = n.receive line) ∧ data' = { data with status := r }) ∨
      (r = 0 ∧ n' = n.receive line ∧
        ∃ d, (n.receive line).readData (n.receive line).portRxBuffer = some d ∧
          data' = { d with status := 0 }) := by
  have hfail : ∀ {m : LineNavigator D} {code : Int}, code ≠ 0 → (m = n ∨ m = n.receive line) →
      some (m, { data with status := code }, code) = some (n', data', r) →
      r ≠ 0 ∧ (n' = n ∨ n' = n.receive line) ∧ data' = { data with status := r } := by
    intro m code hcode hm heq
    obtain ⟨hsensor, hrest⟩ := Prod.mk.inj (Option.some.inj heq)
    obtain ⟨hdata, hresult⟩ := Prod.mk.inj hrest
    rw [← hsensor, ← hdata, ← hresult]
    exact ⟨hcode, hm, rfl⟩
  unfold read at h
  dsimp only at h
  split at h
  next => exact .inl (hfail (by decide) (.inl rfl) h)
  next =>
    split at h
    next => exact .inl (hfail (by decide) (.inl rfl) h)
    next =>
      split at h
      next =>
        split at h
        next =>
          obtain ⟨d, hd, heq⟩ := Option.map_eq_some_iff.mp h
          obtain ⟨hsensor, hrest⟩ := Prod.mk.inj heq
          obtain ⟨hdata, hresult⟩ := Prod.mk.inj hrest
          exact .inr ⟨hresult.symm, hsensor.symm, d, hd, hdata.symm⟩
        next => exact .inl (hfail (by decide) (.inr rfl) h)
      next => exact .inl (hfail (by decide) (.inr rfl) h)

/-- A read changes the buffer and nothing else of the sensor. -/
theorem read_plain (hn : n.Plain) (h : n.read data rv line = some (n', data', r)) : n'.Plain := by
  have hreceive : (n.receive line).Plain := by
    rw [hn]
    rfl
  rcases read_cases h with ⟨-, rfl | rfl, -⟩ | ⟨-, rfl, -⟩
  · exact hn
  · exact hreceive
  · exact hreceive

/-- A read that returns 0 has looked up both distances. -/
theorem read_ok (h : n.read data rv line = some (n', data', 0)) :
    ∃ rawLeft rawRight, n.leftDistance rawLeft = some data'.left ∧
      n.rightDistance rawRight = some data'.right ∧
      data'.angle = limitAngle (n.angleFactor * (data'.left - data'.right)) := by
  rcases read_cases h with ⟨hzero, -⟩ | ⟨-, -, d, hd, rfl⟩
  · exact absurd rfl hzero
  · unfold readData at hd
    obtain ⟨idFrame, -, hd⟩ := Option.bind_eq_some_iff.mp hd
    obtain ⟨rawLeft, -, hd⟩ := Option.bind_eq_some_iff.mp hd
    obtain ⟨left, hleft, hd⟩ := Option.bind_eq_some_iff.mp hd
    obtain ⟨rawRight, -, hd⟩ := Option.bind_eq_some_iff.mp hd
    obtain ⟨right, hright, hd⟩ := Option.bind_eq_some_iff.mp hd
    obtain rfl := Option.some.inj hd
    exact ⟨_, _, hleft, hright, rfl⟩

end LineNavigator

/-- An angle within the limits is left alone. -/
theorem limitAngle_of_abs_le {angle : ℝ} (h : |angle| ≤ 80) : limitAngle angle = angle := by
  obtain ⟨hlower, hupper⟩ := abs_le.mp h
  have hhigh : (if (80 : ℝ) < angle then (80 : ℝ) else angle) = angle :=
    if_neg (not_lt.mpr hupper)
  unfold limitAngle
  simp only [real_lt, real_num, decide_eq_true_eq]
  push_cast
  rw [hhigh, if_neg (not_lt.mpr hlower)]

theorem cast_range {lo hi item : Rat} (h : lo ≤ item ∧ item ≤ hi) :
    (lo : ℝ) ≤ item ∧ (item : ℝ) ≤ hi :=
  ⟨Rat.cast_le.mpr h.1, Rat.cast_le.mpr h.2⟩

/-- **The range of what is read.** With the factors of `Solarbot`, on exact numbers: whatever
line was accepted, the distances are those of the tables, and the angle is their difference and
no more than six and a half degrees. -/
theorem read_range {n n' : LineNavigator ℝ} (hn : n.Plain) {data data' : Data ℝ} {rv : Int}
    {line : List Char} (h : n.read data rv line = some (n', data', 0)) :
    (7 / 2 ≤ data'.left ∧ data'.left ≤ 10) ∧ (7 / 2 ≤ data'.right ∧ data'.right ≤ 19 / 2) ∧
      data'.angle = data'.left - data'.right := by
  obtain ⟨rawLeft, rawRight, hleft, hright, hangle⟩ := LineNavigator.read_ok h
  obtain ⟨leftItem, hleftMem, -, hleftEq⟩ := n.leftDistance_eq rawLeft
  obtain ⟨rightItem, hrightMem, -, hrightEq⟩ := n.rightDistance_eq rawRight
  -- the factors are one and the offsets zero
  have hplain : ∀ item : Rat, (num 1 : ℝ) * (num item + num ((0 : Int) : Rat)) = (item : ℝ) := by
    intro item
    simp
  have hfactor : n.angleFactor = num 1 := by
    rw [hn]
    rfl
  rw [hleftEq, Option.some.injEq, hn] at hleft
  rw [hrightEq, Option.some.injEq, hn] at hright
  have hl : data'.left = (leftItem : ℝ) := hleft.symm.trans (hplain leftItem)
  have hr : data'.right = (rightItem : ℝ) := hright.symm.trans (hplain rightItem)
  obtain ⟨hllo, hlhi⟩ := cast_range (leftTable_range leftItem hleftMem)
  obtain ⟨hrlo, hrhi⟩ := cast_range (rightTable_range rightItem hrightMem)
  rw [← hl] at hllo hlhi
  rw [← hr] at hrlo hrhi
  push_cast at hllo hlhi hrlo hrhi
  refine ⟨⟨hllo, hlhi⟩, ⟨hrlo, hrhi⟩, ?_⟩
  have hdifference : n.angleFactor * (data'.left - data'.right) = data'.left - data'.right := by
    rw [hfactor, real_num, Rat.cast_one, one_mul]
  rw [hangle, hdifference]
  apply limitAngle_of_abs_le
  rw [abs_le]
  exact ⟨by linarith, by linarith⟩

end Solarbot.Line
