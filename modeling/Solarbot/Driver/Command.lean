import Solarbot.Gps.Sentences
import Solarbot.Lib.HexNumber
import Solarbot.Lib.Printing

/-!
# `ControlUnit`: the commands that are written

`DirectWrite` and `WriteArm` print two numbers behind the name of the command, and a checksum
behind them, into a buffer of 32 bytes. The names, the commas, the checksum and the zero at the
end leave 21 characters for the two numbers of `DirectWrite`. One number of 32 bits takes up to
11, so the text is too long for two of the longest, and for no others
(`directWrite_wellFormed_iff`). The numbers of `WriteArm` have 16 bits, and fit
(`writeArm_wellFormed`).

Mirroring notes vs `ControlUnit.cpp`:
- `sprintf` is its text: one that is too long for the buffer goes on behind it.
-/

namespace Solarbot.Driver

open CText Gps

abbrev portTxBufferSize : Nat := 32

/-! ## The text -/

/-- `sprintf(.., "%02X", chk)`. -/
def hexByte (chk : UInt8) : List Char := [hexChar (chk.toNat / 16), hexChar (chk.toNat % 16)]

/-- A command with two numbers: `front` is the format up to the first of them. -/
def message (front : List Char) (first second : Int) : List Char :=
  let buffer := front ++ (toString first).toList ++ ',' :: (toString second).toList
  let chk := buffer.tail.foldl (fun chk p => chk ^^^ UInt8.ofNat p.toNat) 0
  buffer ++ '*' :: (hexByte chk ++ ['\n'])

/-- What `DirectWrite` transmits. -/
def directWrite (left right : Int32) : List Char :=
  message "$CMD,".toList left.toInt right.toInt

/-- What `WriteArm` transmits. -/
def writeArm (verticalSpeed horizontalSpeed : Int16) : List Char :=
  message "$CAM,0,".toList verticalSpeed.toInt horizontalSpeed.toInt

/-! ## A good command -/

/-- A text that is a command with these two numbers behind `front`, and has room in the buffer
with its zero. -/
structure WellFormed (front : List Char) (first second : Int) (text : List Char) : Prop where
  fits : text.length + 1 ≤ portTxBufferSize
  /-- What is behind `front` and behind the next comma reads as the numbers. -/
  numbers : ∃ p q, text = front ++ p ∧ atoi p = first ∧ comma p = some q ∧ atoi q = second
  checksum : ∃ body hi lo, text = '$' :: (body ++ ['*', hi, lo, '\n']) ∧ '*' ∉ body ∧
    (hexDigit hi).isSome ∧ (hexDigit lo).isSome ∧ hexVal [hi, lo] = (bodySum body).toNat

/-! ## What is printed -/

theorem star_foreign : Foreign '*' := ⟨by decide, by decide, by decide, by decide⟩

/-- A printed integer is read back. -/
theorem atoi_toString {n : Int} (hlo : -2 ^ 31 ≤ n) (hhi : n < 2 ^ 31) {c : Char}
    (hc : c.isDigit = false) (r : List Char) : atoi ((toString n).toList ++ c :: r) = n := by
  have hvalue := Numeral.ofInt_value n
  rw [← Numeral.ofInt_text, (Numeral.ofInt n).atoi_text (digitsEnd_cons hc r), hvalue]
  · omega
  · omega

/-- The comma behind it is the next one. -/
theorem comma_toString (n : Int) (s : List Char) :
    comma ((toString n).toList ++ ',' :: s) = some s := by
  rw [← Numeral.ofInt_text]
  exact comma_numeral _ s

theorem star_toString (n : Int) : '*' ∉ (toString n).toList := by
  rw [← Numeral.ofInt_text]
  exact Numeral.not_mem_text _ star_foreign

section Message

variable {front : List Char} {first second : Int}

/-- The text has what is in front of the numbers, the numbers, and five characters more. -/
theorem message_length :
    (message front first second).length =
      front.length + (toString first).toList.length + (toString second).toList.length + 5 := by
  simp [message, hexByte]
  omega

/-- Both numbers are read back. -/
theorem message_numbers (hfirst : -2 ^ 31 ≤ first ∧ first < 2 ^ 31)
    (hsecond : -2 ^ 31 ≤ second ∧ second < 2 ^ 31) :
    ∃ p q, message front first second = front ++ p ∧ atoi p = first ∧ comma p = some q ∧
      atoi q = second := by
  have htext : ∀ r, front ++ (toString first).toList ++ ',' :: (toString second).toList ++ r =
      front ++ ((toString first).toList ++ ',' :: ((toString second).toList ++ r)) := by
    intro r
    simp only [List.append_assoc, List.cons_append]
  exact ⟨_, _, htext _, atoi_toString hfirst.1 hfirst.2 (by decide) _, comma_toString _ _,
    atoi_toString hsecond.1 hsecond.2 (by decide) _⟩

/-- The checksum is that of what is between the dollar and the star. -/
theorem message_checksum {name : List Char} (hname : '*' ∉ name) :
    ∃ body hi lo, message ('$' :: name) first second = '$' :: (body ++ ['*', hi, lo, '\n']) ∧
      '*' ∉ body ∧ (hexDigit hi).isSome ∧ (hexDigit lo).isSome ∧
      hexVal [hi, lo] = (bodySum body).toNat := by
  have hstar : '*' ∉ name ++ (toString first).toList ++ ',' :: (toString second).toList := by
    intro h
    rcases List.mem_append.mp h with h | h
    · rcases List.mem_append.mp h with h | h
      · exact hname h
      · exact star_toString first h
    · rcases List.mem_cons.mp h with h | h
      · exact absurd h (by decide)
      · exact star_toString second h
  have hsum := (bodySum (name ++ (toString first).toList ++ ',' :: (toString second).toList)).toNat_lt
  have hhex := hex_two hsum
  refine ⟨_, _, _, rfl, hstar, hhex _ List.mem_cons_self, ?_, hexVal_two hsum⟩
  exact hhex _ (List.mem_cons_of_mem _ List.mem_cons_self)

/-- A message is a good one when it has room. -/
theorem message_wellFormed_iff {name : List Char} (hname : '*' ∉ name)
    (hfirst : -2 ^ 31 ≤ first ∧ first < 2 ^ 31) (hsecond : -2 ^ 31 ≤ second ∧ second < 2 ^ 31) :
    WellFormed ('$' :: name) first second (message ('$' :: name) first second) ↔
      (message ('$' :: name) first second).length + 1 ≤ portTxBufferSize :=
  ⟨fun h => h.fits, fun h => ⟨h, message_numbers hfirst hsecond, message_checksum hname⟩⟩

end Message

/-! ## How long a number is -/

/-- A number with a sign has one character more. -/
theorem toString_length_le_iff (n : Int) {k : Nat} (hk : 0 < k) :
    (toString n).toList.length ≤ k + 1 ↔ -10 ^ k < n ∧ n < 10 ^ (k + 1) := by
  rw [toString_length]
  unfold frontWidth
  by_cases hneg : n < 0
  · have hdigits := Nat.length_toDigits_le_iff (b := 10) (n := n.natAbs) (by decide) hk
    rw [if_pos (decide_eq_true hneg), Nat.add_comm 1, Nat.succ_le_succ_iff, hdigits]
    have hcast : ((10 ^ k : ℕ) : Int) = 10 ^ k := by norm_num
    have hcast' : (0 : Int) < 10 ^ (k + 1) := by positivity
    omega
  · have hdigits := Nat.length_toDigits_le_iff (b := 10) (n := n.natAbs) (by decide) k.succ_pos
    rw [if_neg (by simpa using hneg), Nat.zero_add, hdigits]
    have hcast : ((10 ^ (k + 1) : ℕ) : Int) = 10 ^ (k + 1) := by norm_num
    have hcast' : (0 : Int) < 10 ^ k := by positivity
    omega

/-! ## The commands -/

/-- Only two numbers of eleven characters are too long for the buffer. -/
theorem directWrite_fits_iff (left right : Int32) :
    (directWrite left right).length + 1 ≤ portTxBufferSize ↔
      ¬ (left.toInt ≤ -10 ^ 9 ∧ right.toInt ≤ -10 ^ 9) := by
  have hleft := toString_length_le_iff left.toInt (k := 9) (by decide)
  have hright := toString_length_le_iff right.toInt (k := 9) (by decide)
  have hleft' := toString_length_le_iff left.toInt (k := 10) (by decide)
  have hright' := toString_length_le_iff right.toInt (k := 10) (by decide)
  have hl := left.le_toInt
  have hr := right.le_toInt
  have hl' := left.toInt_lt
  have hr' := right.toInt_lt
  have hname : "$CMD,".toList.length = 5 := rfl
  rw [directWrite, message_length, hname, portTxBufferSize]
  norm_num at *
  omega

/-- **A command has room unless both numbers have eleven characters.** -/
theorem directWrite_wellFormed_iff (left right : Int32) :
    WellFormed "$CMD,".toList left.toInt right.toInt (directWrite left right) ↔
      ¬ (left.toInt ≤ -10 ^ 9 ∧ right.toInt ≤ -10 ^ 9) := by
  have hwell := @message_wellFormed_iff left.toInt right.toInt "CMD,".toList (by decide)
    ⟨left.le_toInt, left.toInt_lt⟩ ⟨right.le_toInt, right.toInt_lt⟩
  exact hwell.trans (directWrite_fits_iff left right)

example : directWrite (-500) 500 = "$CMD,-500,500*67\n".toList := by decide +kernel

theorem directWrite_lowest :
    ¬ WellFormed "$CMD,".toList Int32.minValue.toInt Int32.minValue.toInt
      (directWrite Int32.minValue Int32.minValue) :=
  fun h => absurd h.fits (by decide +kernel)

/-- The numbers for the arm are short. -/
theorem writeArm_wellFormed (verticalSpeed horizontalSpeed : Int16) :
    WellFormed "$CAM,0,".toList verticalSpeed.toInt horizontalSpeed.toInt
      (writeArm verticalSpeed horizontalSpeed) := by
  have hvertical := toString_length_le_iff verticalSpeed.toInt (k := 5) (by decide)
  have hhorizontal := toString_length_le_iff horizontalSpeed.toInt (k := 5) (by decide)
  have hv := verticalSpeed.le_toInt
  have hh := horizontalSpeed.le_toInt
  have hv' := verticalSpeed.toInt_lt
  have hh' := horizontalSpeed.toInt_lt
  have hname : "$CAM,0,".toList.length = 7 := rfl
  have hwell := @message_wellFormed_iff verticalSpeed.toInt horizontalSpeed.toInt "CAM,0,".toList
    (by decide) (by omega) (by omega)
  refine hwell.mpr ?_
  have hlength : (message "$CAM,0,".toList verticalSpeed.toInt horizontalSpeed.toInt).length = _ :=
    message_length
  show (message "$CAM,0,".toList verticalSpeed.toInt horizontalSpeed.toInt).length + 1 ≤ 32
  rw [hlength, hname]
  norm_num at *
  omega

end Solarbot.Driver
