import Solarbot.Lib.Printing
import Solarbot.MasterApp.Commands

/-!
# Does the planner's command fit?

`ExecuteCommand_GOTO` prints eight numbers into a shell command, in a buffer of 255 bytes. The
text around them and the zero at the end leave 89 characters for them. Two of the numbers are the
location of the robot. The others are what `atof` and `atoi` make of the words of a client, who
can write a number of any size with a few characters (`goto_fits_iff`).

Doubles are any type whose elements have a `Double` as their value, under any arithmetic. The
magnitudes are exact: `atof` does not round.
-/

namespace Solarbot.MasterApp

open CText Main Nav

/-! ## Doubles as they are read and printed -/

/-- The value of a double. A zero has a sign, too. -/
inductive Double
  | finite (negative : Bool) (magnitude : ℝ)
  | infinite (negative : Bool)
  | nan (negative : Bool)

namespace Double

/-- `atof` and `strtold`, with the forms that are no numeral. -/
noncomputable def read (s : List Char) : Double :=
  let (negative, word) := spanSign (s.dropWhile isSpace)
  if (word.take 3).map Char.toLower = "inf".toList then .infinite negative
  else if (word.take 3).map Char.toLower = "nan".toList then .nan negative
  else
    let (negative, magnitude) := readNumber s
    .finite negative magnitude

/-- `%.kf`. -/
noncomputable def fixed (k : Nat) : Double → List Char
  | finite negative x => (if negative then ['-'] else []) ++ CText.fixed k |x|
  | infinite negative => (if negative then ['-'] else []) ++ "inf".toList
  | nan negative => (if negative then ['-'] else []) ++ "nan".toList

/-- The characters of a printed number: its sign and the digits in front of the point, the point
and `k` digits. -/
noncomputable def width (k : Nat) : Double → Nat
  | finite negative x => frontWidth negative (units k x / 10 ^ k) + (k + 1)
  | infinite negative | nan negative => negative.toNat + 3

theorem sign_length (negative : Bool) :
    (if negative then ['-'] else []).length = negative.toNat := by
  cases negative
  · rfl
  · rfl

/-- How long a double is in print. -/
theorem fixed_length (k : Nat) (x : Double) : (x.fixed k).length = x.width k := by
  cases x with
  | finite negative x =>
    have hplain : decide (|x| < 0) = false := decide_eq_false (not_lt.mpr (abs_nonneg x))
    have hunits : units k |x| = units k x := by rw [units, abs_abs, units]
    rw [fixed, List.length_append, CText.fixed_length, hplain, hunits, sign_length]
    unfold width frontWidth
    cases negative
    · simp
    · simp [Nat.add_assoc]
  | infinite negative => rw [fixed, List.length_append, sign_length]; rfl
  | nan negative => rw [fixed, List.length_append, sign_length]; rfl

end Double

/-- Doubles of a type, by their values: what `atof` reads is there exactly. -/
structure Values (D : Type) where
  value : D → Double
  ofValue : Double → D
  value_ofValue : ∀ x, value (ofValue x) = x

namespace Served

variable {D : Type} [Dbl D] (v : Values D)

/-- The C library on these doubles. -/
noncomputable def exactly (env : Surroundings D) : Surroundings D :=
  { env with
    atof := fun s => v.ofValue (.read s)
    fixed := fun k x => (v.value x).fixed k }

/-- The characters of a printed integer. -/
def widthInt (n : Int) : Nat := frontWidth (decide (n < 0)) n.natAbs

variable (env : Surroundings D) (m : Served D) (fields : List (List Char)) (frameId : UInt16)

/-- The characters of all eight numbers. -/
noncomputable def gotoWidth : Nat :=
  (v.value m.robot.location.longitude).width 10 + (v.value m.robot.location.latitude).width 10 +
    (Double.read (fields.getD 1 [])).width 10 + (Double.read (fields.getD 2 [])).width 10 +
    (Double.read (fields.getD 3 [])).width 1 + widthInt (CText.atoi (fields.getD 4 [])) +
    widthInt (CText.atoi (fields.getD 5 [])) + (Double.read (fields.getD 6 [])).width 2

omit [Dbl D] in
/-- The command is the text around the numbers, and the numbers. -/
theorem gotoAsk_exactly :
    (gotoAsk (exactly v env) m fields).length = 165 + gotoWidth v m fields := by
  have hread : ∀ k s, ((exactly v env).fixed k ((exactly v env).atof s)).length =
      (Double.read s).width k := by
    intro k s
    show ((v.value (v.ofValue (.read s))).fixed k).length = _
    rw [v.value_ofValue, Double.fixed_length]
  have hplace : ∀ k x, ((exactly v env).fixed k x).length = (v.value x).width k :=
    fun k x => Double.fixed_length k (v.value x)
  have hint : ∀ n : Int, (toString n).toList.length = widthInt n := toString_length
  rw [gotoAsk_length]
  unfold gotoNumbers gotoWidth
  simp only [List.flatten_cons, List.flatten_nil, List.length_append, List.length_nil, hread,
    hplace, hint]
  omega

/-- **When the command fits**: for a `GOTO` with its fields and a good location, exactly when the
eight numbers have at most 89 characters. -/
theorem goto_fits_iff (hgood : m.robot.isLocationGood = true) (h : 6 < fields.length) :
    (∀ size, (m.executeCommandGOTO (exactly v env) fields frameId).ending ≠ .overflow size) ↔
      gotoWidth v m fields ≤ 89 := by
  have hlength := gotoAsk_exactly v env m fields
  rw [executeCommandGOTO_eq _ _ _ _ hgood h]
  by_cases hask : 255 ≤ (gotoAsk (exactly v env) m fields).length
  · rw [if_pos hask]
    exact iff_of_false (fun hfits => hfits _ rfl) (by omega)
  · rw [if_neg hask]
    refine iff_of_true (fun size => ?_) (by omega)
    split
    next => simp
    next => simp [answer, returned]

end Served

/-! ## A number that is too long -/

namespace Double

/-- The number, with the sign of zero left out. -/
noncomputable def real? : Double → Option ℝ
  | finite negative x => some (if negative then -|x| else |x|)
  | infinite _ | nan _ => none

noncomputable def ofReal (x : ℝ) : Double := .finite (decide (x < 0)) |x|

noncomputable def map (f : ℝ → ℝ) (x : Double) : Double :=
  match x.real? with
  | some a => ofReal (f a)
  | none => .nan false

noncomputable def map₂ (f : ℝ → ℝ → ℝ) (x y : Double) : Double :=
  match x.real?, y.real? with
  | some a, some b => ofReal (f a b)
  | _, _ => .nan false

/-- An arithmetic on these values: that of the real numbers. -/
noncomputable instance : Dbl Double where
  add := map₂ (· + ·)
  sub := map₂ (· - ·)
  mul := map₂ (· * ·)
  div := map₂ (· / ·)
  neg := map fun a => -a
  num q := ofReal q
  pi := ofReal Real.pi
  max := ofReal dblMax
  sin := map Real.sin
  cos := map Real.cos
  asin := map Real.arcsin
  sqrt := map Real.sqrt
  atan2 := map₂ Dbl.atan2
  sq := map (· ^ 2)
  abs := map (|·|)
  lt x y := match x.real?, y.real? with
    | some a, some b => decide (a < b)
    | _, _ => false
  eq x y := match x.real?, y.real? with
    | some a, some b => decide (a = b)
    | _, _ => false
  toInt x := (x.real?.map truncReal).getD 0
  strtold := read

def values : Values Double := ⟨id, id, fun _ => rfl⟩

/-- How long a natural number is in print. -/
theorem width_natCast (negative : Bool) (k n : Nat) :
    (finite negative (n : ℝ)).width k =
      negative.toNat + (Nat.toDigits 10 n).length + (k + 1) := by
  rw [width, units_natCast, Nat.mul_div_cancel _ (Nat.pow_pos (by decide)), frontWidth]
  cases negative
  · rfl
  · rfl

/-- No infinity, and not `nan`. -/
def Numeral (s : List Char) : Prop :=
  ((spanSign (s.dropWhile isSpace)).2.take 3).map Char.toLower ≠ "inf".toList ∧
    ((spanSign (s.dropWhile isSpace)).2.take 3).map Char.toLower ≠ "nan".toList

instance (s : List Char) : Decidable (Numeral s) := inferInstanceAs (Decidable (_ ∧ _))

/-- A numeral of this value. -/
theorem read_width {s : List Char} {negative : Bool} {n : Nat} (hword : Numeral s)
    (h : readNumber s = (negative, (n : Rat))) (k : Nat) :
    (read s).width k = negative.toNat + (Nat.toDigits 10 n).length + (k + 1) := by
  unfold read
  dsimp only
  rw [if_neg hword.1, if_neg hword.2, h]
  dsimp only
  rw [Rat.cast_natCast, width_natCast]

end Double

namespace Served

/-- A robot with a good location. -/
noncomputable def locatedServed : Served Double where
  robot := (⟨"standby".toList, none, 1000, ⟨true, true, 0⟩, 0, ⟨num 0, num 0, 0⟩, 0,
    ⟨.finite false (0 : ℕ), .finite false (0 : ℕ), 4⟩,
    ⟨.finite false (0 : ℕ), .finite false (0 : ℕ), 4⟩⟩ : Config Double).constructed
  acks := []

noncomputable def plannerSurroundings : Surroundings Double :=
  { sampleSurroundings with atof := .read, fixed := Double.fixed }

/-- `GOTO`, with this heading. -/
def gotoWords (heading : List Char) : List (List Char) :=
  ["GOTO".toList, ['0'], ['0'], heading, ['0'], ['0'], ['0']]

theorem locatedServed_good : locatedServed.robot.isLocationGood = true := rfl

/-- All numbers but the heading are zero. -/
theorem gotoWidth_sample {heading : List Char} {negative : Bool} {n : Nat}
    (hword : Double.Numeral heading) (h : readNumber heading = (negative, (n : Rat))) :
    gotoWidth Double.values locatedServed (gotoWords heading) =
      56 + negative.toNat + (Nat.toDigits 10 n).length := by
  have hzero : ∀ k, (Double.read ['0']).width k = k + 2 := by
    intro k
    have hread : readNumber ['0'] = (false, ((0 : ℕ) : Rat)) := by decide +kernel
    rw [Double.read_width (by decide) hread]
    exact Nat.add_comm 1 (k + 1)
  have hplace : (Double.finite false (0 : ℕ)).width 10 = 12 := Double.width_natCast false 10 0
  have hint : widthInt (CText.atoi ['0']) = 1 := by decide +kernel
  show (Double.finite false (0 : ℕ)).width 10 + (Double.finite false (0 : ℕ)).width 10 +
    (Double.read ['0']).width 10 + (Double.read ['0']).width 10 + (Double.read heading).width 1 +
    widthInt (CText.atoi ['0']) + widthInt (CText.atoi ['0']) + (Double.read ['0']).width 2 = _
  rw [hplace, hzero, hint, hzero, Double.read_width hword h]
  omega

/-- The minus of a zero is printed, too, and `atof` reads hexadecimal numerals. -/
theorem goto_fits_zero :
    (gotoWidth Double.values locatedServed (gotoWords "-0".toList) = 58 ∧
      ∀ size, (locatedServed.executeCommandGOTO (exactly Double.values plannerSurroundings)
        (gotoWords "-0".toList) 1).ending ≠ .overflow size) ∧
    (gotoWidth Double.values locatedServed (gotoWords "0x1p20".toList) = 63 ∧
      ∀ size, (locatedServed.executeCommandGOTO (exactly Double.values plannerSurroundings)
        (gotoWords "0x1p20".toList) 1).ending ≠ .overflow size) := by
  have hminus : readNumber "-0".toList = (true, ((0 : ℕ) : Rat)) := by decide +kernel
  have hpower : readNumber "0x1p20".toList = (false, ((1048576 : ℕ) : Rat)) := by decide +kernel
  have hzero : gotoWidth Double.values locatedServed (gotoWords "-0".toList) = 58 :=
    gotoWidth_sample (by decide +kernel) hminus
  have hhex : gotoWidth Double.values locatedServed (gotoWords "0x1p20".toList) = 63 :=
    gotoWidth_sample (by decide +kernel) hpower
  exact ⟨⟨hzero, (goto_fits_iff _ _ _ _ _ locatedServed_good (by decide)).mpr (by omega)⟩,
    hhex, (goto_fits_iff _ _ _ _ _ locatedServed_good (by decide)).mpr (by omega)⟩

/-- A heading of 61 digits, in four characters. -/
theorem goto_overflow_heading :
    ¬ ∀ size, (locatedServed.executeCommandGOTO (exactly Double.values plannerSurroundings)
      (gotoWords "1e60".toList) 1).ending ≠ .overflow size := by
  have hheading : readNumber "1e60".toList = (false, ((10 ^ 60 : ℕ) : Rat)) := by decide +kernel
  have hdigits : (Nat.toDigits 10 (10 ^ 60)).length = 61 := by decide +kernel
  have hwidth : gotoWidth Double.values locatedServed (gotoWords "1e60".toList) = 117 := by
    rw [gotoWidth_sample (by decide +kernel) hheading, hdigits]
    rfl
  have hlength := gotoAsk_exactly Double.values plannerSurroundings locatedServed
    (gotoWords "1e60".toList)
  rw [executeCommandGOTO_eq _ _ _ _ locatedServed_good (by decide), if_pos (by omega)]
  exact fun hfits => hfits _ rfl

end Served

end Solarbot.MasterApp
