import Solarbot.Lib.CText

/-!
# Numerals and what the C library reads from them

A numeral is a text with a value: `Numeral` for integers, `Decimal` for numbers with a
fraction. `atoi` and `atof` read the value of a numeral when what is behind it does not
go on with the number.
-/

namespace CText

/-! ## Digits -/

/-- What is behind a row of digits does not begin with another. -/
def DigitsEnd (r : List Char) : Prop := ∀ c ∈ r.head?, c.isDigit = false

theorem digitsEnd_nil : DigitsEnd [] := by
  intro c hc
  cases hc

theorem digitsEnd_cons {c : Char} (hc : c.isDigit = false) (r : List Char) : DigitsEnd (c :: r) := by
  intro d hd
  rwa [← Option.some.inj hd]

/-- Digits are taken up to what ends them. -/
theorem spanDigits_append {ds r : List Char} (hds : ∀ d ∈ ds, d.isDigit = true)
    (hr : DigitsEnd r) : spanDigits (ds ++ r) = (ds, r) := by
  have hend : r.takeWhile Char.isDigit = [] ∧ r.dropWhile Char.isDigit = r := by
    cases r with
    | nil => exact ⟨rfl, rfl⟩
    | cons c r =>
      have hc : c.isDigit = false := hr c rfl
      exact ⟨List.takeWhile_cons_of_neg (by simp [hc]), List.dropWhile_cons_of_neg (by simp [hc])⟩
  rw [spanDigits, List.span_eq_takeWhile_dropWhile, List.takeWhile_append_of_pos hds,
    List.dropWhile_append_of_pos hds, hend.1, hend.2, List.append_nil]

/-- Where the digits are among the characters. -/
theorem isDigit_range {c : Char} (h : c.isDigit = true) : 48 ≤ c.toNat ∧ c.toNat ≤ 57 :=
  Char.isDigit_iff_toNat.mp h

/-! ## Signs -/

inductive Sign
  | none | plus | minus
  deriving DecidableEq, Repr

namespace Sign

def text : Sign → List Char
  | none => []
  | plus => ['+']
  | minus => ['-']

/-- Its effect on a value. -/
def factor : Sign → Int
  | minus => -1
  | _ => 1

end Sign

/-- The front of a number is not a space, and no sign. -/
structure NumberFront (c : Char) : Prop where
  space : isSpace c = false
  minus : c ≠ '-'
  plus : c ≠ '+'

/-- A number can begin with a digit. -/
theorem digit_front {c : Char} (h : c.isDigit = true) : NumberFront c := by
  obtain ⟨hlo, -⟩ := isDigit_range h
  refine ⟨?_, ?_, ?_⟩
  · by_contra hspace
    have := isSpace_le ((Bool.not_eq_false _).mp hspace)
    omega
  · rintro rfl
    exact absurd hlo (by decide)
  · rintro rfl
    exact absurd hlo (by decide)

theorem point_front : NumberFront '.' := ⟨rfl, by decide, by decide⟩

/-- The sign is read, and nothing else. -/
theorem spanSign_text (s : Sign) {c : Char} (hc : NumberFront c) (r : List Char) :
    spanSign ((s.text ++ c :: r).dropWhile isSpace) = (decide (s = .minus), c :: r) := by
  cases s with
  | none =>
    have hdrop : (c :: r).dropWhile isSpace = c :: r :=
      List.dropWhile_cons_of_neg (by simp [hc.space])
    rw [Sign.text, List.nil_append, hdrop, spanSign.eq_3]
    · rfl
    · exact fun _ h => hc.minus (List.cons.inj h).1
    · exact fun _ h => hc.plus (List.cons.inj h).1
  | plus => rfl
  | minus => rfl

/-! ## Integers -/

/-- An integer, as a text. -/
structure Numeral where
  sign : Sign
  digits : List Char
  digits_digit : ∀ d ∈ digits, d.isDigit = true
  digits_ne : digits ≠ []

namespace Numeral

variable (n : Numeral)

def text : List Char := n.sign.text ++ n.digits

def value : Int := n.sign.factor * digitsVal n.digits

/-- The text of a numeral is read as its value. -/
theorem readInt_text {r : List Char} (hr : DigitsEnd r) : readInt (n.text ++ r) = n.value := by
  obtain ⟨d, ds, hds⟩ := List.exists_cons_of_ne_nil n.digits_ne
  have hfront : NumberFront d := digit_front (n.digits_digit d (hds ▸ List.mem_cons_self))
  have hsign : spanSign ((n.text ++ r).dropWhile isSpace) =
      (decide (n.sign = .minus), n.digits ++ r) := by
    rw [text, List.append_assoc, hds]
    exact spanSign_text n.sign hfront (ds ++ r)
  rw [readInt, hsign]
  dsimp only
  rw [spanDigits_append n.digits_digit hr, value]
  cases n.sign with
  | none => simp [Sign.factor]
  | plus => simp [Sign.factor]
  | minus => simp [Sign.factor]

/-- An `int` is read as what it is. -/
theorem atoi_text {r : List Char} (hr : DigitsEnd r) (hlo : -2 ^ 31 ≤ n.value)
    (hhi : n.value < 2 ^ 31) : atoi (n.text ++ r) = n.value := by
  have hclamp : clampLong n.value = n.value := by
    unfold clampLong
    omega
  rw [atoi, n.readInt_text hr, hclamp]
  exact Int.bmod_eq_of_le (by norm_num; omega) (by norm_num; omega)

/-- A `long` is read as it is. -/
theorem atol_text {r : List Char} (hr : DigitsEnd r) (hlo : -2 ^ 63 ≤ n.value)
    (hhi : n.value < 2 ^ 63) : atol (n.text ++ r) = n.value := by
  rw [atol, n.readInt_text hr]
  unfold clampLong
  omega

/-- The characters of an integer. -/
theorem mem_text {c : Char} (h : c ∈ n.text) : c = '+' ∨ c = '-' ∨ c.isDigit = true := by
  rcases List.mem_append.mp h with hsign | hdigit
  · cases hs : n.sign with
    | none => simp [hs, Sign.text] at hsign
    | plus => exact .inl (by simpa [hs, Sign.text] using hsign)
    | minus => exact .inr (.inl (by simpa [hs, Sign.text] using hsign))
  · exact .inr (.inr (n.digits_digit c hdigit))

theorem text_ne : n.text ≠ [] := fun h => n.digits_ne (List.append_eq_nil_iff.mp h).2

end Numeral

/-! ## Decimal fractions -/

/-- Without a point there is no fraction. -/
theorem spanFraction_pointless {digit : Char → Bool} {c : Char} (hc : c ≠ '.') (r : List Char) :
    spanFraction digit (c :: r) = ([], c :: r) := by
  unfold spanFraction
  split
  next s hs => exact absurd (List.cons.inj hs).1 hc
  next => rfl

/-- Digits, a point and what ends a number make no hexadecimal numeral. -/
theorem hexNumeral_none {s : List Char} (h : ∀ x ∈ s[1]?, ¬ (x = 'x' ∨ x = 'X')) :
    hexNumeral s = none := by
  unfold hexNumeral
  split
  next x s => exact if_neg fun hx => h x rfl hx.1
  next => rfl

/-- A number with a decimal point or without, as a text. -/
structure Decimal where
  sign : Sign
  whole : List Char
  /-- The digits behind the point, when there is one. -/
  fraction : Option (List Char)
  whole_digit : ∀ d ∈ whole, d.isDigit = true
  fraction_digit : ∀ d ∈ fraction.getD [], d.isDigit = true
  digits_ne : whole ++ fraction.getD [] ≠ []

namespace Decimal

variable (n : Decimal)

/-- The point and what is behind it. -/
def behind : List Char :=
  match n.fraction with
  | none => []
  | some f => '.' :: f

def text : List Char := n.sign.text ++ (n.whole ++ n.behind)

def value : ℚ :=
  n.sign.factor * (digitsVal (n.whole ++ n.fraction.getD []) : ℚ) /
    10 ^ (n.fraction.getD []).length

/-- The digits and the point begin with the front of a number. -/
theorem front : ∃ c s, n.whole ++ n.behind = c :: s ∧ NumberFront c := by
  cases hwhole : n.whole with
  | cons d ds =>
    exact ⟨d, ds ++ n.behind, rfl,
      digit_front (n.whole_digit d (hwhole ▸ List.mem_cons_self))⟩
  | nil =>
    cases hfraction : n.fraction with
    | none => exact absurd (by rw [hwhole, hfraction]; rfl) n.digits_ne
    | some f => exact ⟨'.', f, by rw [behind, hfraction]; rfl, point_front⟩

/-- The characters of a decimal fraction. -/
theorem mem_text {c : Char} (h : c ∈ n.text) :
    c = '+' ∨ c = '-' ∨ c = '.' ∨ c.isDigit = true := by
  rcases List.mem_append.mp h with hsign | hbody
  · cases hs : n.sign with
    | none => simp [hs, Sign.text] at hsign
    | plus => exact .inl (by simpa [hs, Sign.text] using hsign)
    | minus => exact .inr (.inl (by simpa [hs, Sign.text] using hsign))
  rcases List.mem_append.mp hbody with hwhole | hbehind
  · exact .inr (.inr (.inr (n.whole_digit c hwhole)))
  · have hfraction := n.fraction_digit
    unfold behind at hbehind
    cases hf : n.fraction with
    | none =>
      rw [hf] at hbehind
      cases hbehind
    | some f =>
      rw [hf] at hbehind hfraction
      rcases List.mem_cons.mp hbehind with hpoint | hdigit
      · exact .inr (.inr (.inl hpoint))
      · exact .inr (.inr (.inr (hfraction c hdigit)))

/-- **A decimal fraction is read as what it is.** -/
theorem atof_text {c : Char} (hc : Stop c) (r : List Char) : atof (n.text ++ c :: r) = n.value := by
  obtain ⟨d, s, hbody, hfront⟩ := n.front
  have hsign : spanSign ((n.text ++ c :: r).dropWhile isSpace) =
      (decide (n.sign = .minus), n.whole ++ (n.behind ++ c :: r)) := by
    rw [text, List.append_assoc, hbody, List.cons_append, spanSign_text n.sign hfront,
      ← List.cons_append, ← hbody, List.append_assoc]
  have hexponent : readExponent 'e' 'E' (c :: r) = 0 := if_neg hc.exponent
  have hbehind : DigitsEnd (n.behind ++ c :: r) := by
    unfold behind
    cases n.fraction with
    | none => exact digitsEnd_cons hc.digit r
    | some f => exact digitsEnd_cons (by decide) _
  have hfraction : spanFraction Char.isDigit (n.behind ++ c :: r) =
      (n.fraction.getD [], c :: r) := by
    unfold behind
    cases hf : n.fraction with
    | none => exact spanFraction_pointless hc.point r
    | some f =>
      have hdigits : ∀ d ∈ f, d.isDigit = true := by
        have h := n.fraction_digit
        rwa [hf] at h
      exact spanDigits_append hdigits (digitsEnd_cons hc.digit r)
  -- the second character is one of the number, or ends it
  have hdecimal : hexNumeral (n.whole ++ (n.behind ++ c :: r)) = none := by
    rw [← List.append_assoc, hbody]
    refine hexNumeral_none fun x hx hmark => ?_
    cases s with
    | nil =>
      obtain rfl : c = x := Option.some.inj hx
      exact hc.hexMark hmark
    | cons e s =>
      obtain rfl : e = x := Option.some.inj hx
      have hmem : e ∈ n.text := by
        rw [text, hbody]
        simp
      rcases hmark with rfl | rfl
      · rcases n.mem_text hmem with h | h | h | h <;> exact absurd h (by decide)
      · rcases n.mem_text hmem with h | h | h | h <;> exact absurd h (by decide)
  rw [atof, readNumber, hsign]
  dsimp only
  rw [hdecimal]
  dsimp only
  rw [spanDigits_append n.whole_digit hbehind]
  dsimp only
  rw [hfraction]
  dsimp only
  rw [hexponent, if_neg n.digits_ne, value, zero_sub, zpow_neg, zpow_natCast]
  cases n.sign with
  | none => simp [Sign.factor, div_eq_mul_inv]
  | plus => simp [Sign.factor, div_eq_mul_inv]
  | minus => simp [Sign.factor, div_eq_mul_inv]

end Decimal

/-! ## Characters that are in no numeral -/

structure Foreign (c : Char) : Prop where
  plus : c ≠ '+'
  minus : c ≠ '-'
  point : c ≠ '.'
  digit : c.isDigit = false

/-- A comma ends any number. -/
theorem comma_stop : Stop ',' :=
  ⟨rfl, rfl, by decide, by decide, by decide, by decide, rfl, by decide, by decide⟩

theorem comma_foreign : Foreign ',' := ⟨by decide, by decide, by decide, by decide⟩

theorem lineFeed_foreign : Foreign '\n' := ⟨by decide, by decide, by decide, by decide⟩

theorem zero_foreign : Foreign '\x00' := ⟨by decide, by decide, by decide, by decide⟩

/-- What is in no numeral is not in this one. -/
theorem Numeral.not_mem_text (n : Numeral) {c : Char} (hc : Foreign c) : c ∉ n.text := by
  intro h
  rcases n.mem_text h with h | h | h
  · exact hc.plus h
  · exact hc.minus h
  · exact absurd (h.symm.trans hc.digit) (by decide)

/-- Nor in a number with a point. -/
theorem Decimal.not_mem_text (n : Decimal) {c : Char} (hc : Foreign c) : c ∉ n.text := by
  intro h
  rcases n.mem_text h with h | h | h | h
  · exact hc.plus h
  · exact hc.minus h
  · exact hc.point h
  · exact absurd (h.symm.trans hc.digit) (by decide)

/-! ## Lines -/

/-- A line of a text. -/
theorem lines_line {l : List Char} (hl : '\n' ∉ l) (r : List Char) :
    lines (l ++ '\n' :: r) = l :: lines r := by
  induction l with
  | nil => exact if_pos rfl
  | cons c l ih =>
    have hc : c ≠ '\n' := fun h => hl (by rw [h]; exact List.mem_cons_self)
    rw [List.cons_append, lines, if_neg hc, ih fun h => hl (List.mem_cons_of_mem _ h)]

end CText
