import Mathlib

/-!
# The text functions of the C library

A text is a list of characters, each one a byte. Only what a program reads *from*
a text is here: `lines` is the loop over `std::getline`, `atoi` reads a decimal
integer, `strtol16` a hexadecimal one and `atof` a decimal number, all from the front of
the text and up to the first character that does not fit. `strchr` and `strstr` look for
a character and for a text. What these functions make of a text up to a character that
is in no number (`Stop`) does not depend on what is behind it.

Reading notes:
- A text in memory goes on behind its zero; `strchr` and `strstr` do not.
- `atoi` is the C library's `(int) strtol(s, NULL, 10)` on a 64-bit `long`: the
  number read is clamped to `long` and then cut to 32 bits.
- `atof` is the exact value of the numeral, decimal or hexadecimal; the rounding to a
  floating-point number belongs to the arithmetic that uses it. `readNumber` keeps the
  sign of a zero. The infinite and not-a-number forms have no rational value and are not
  read.
-/

namespace CText

/-- The characters `isspace` accepts in the C locale. -/
def isSpace (c : Char) : Bool :=
  c = ' ' || c = '\t' || c = '\n' || c = '\r' || c.toNat = 11 || c.toNat = 12

/-- The lines `std::getline` returns one after the other: the line feeds are
dropped, and a last line that no line feed ends counts when it is not empty. -/
def lines : List Char → List (List Char)
  | [] => []
  | c :: cs =>
    if c = '\n' then [] :: lines cs
    else
      match lines cs with
      | [] => [[c]]
      | l :: ls => (c :: l) :: ls

/-- The digits at the front of a text, and what follows them. -/
def spanDigits (s : List Char) : List Char × List Char := s.span Char.isDigit

/-- The value of a row of digits. -/
def digitsVal (ds : List Char) : Nat := ds.foldl (fun n d => 10 * n + (d.toNat - 48)) 0

/-- An optional sign at the front of a text: whether it is a minus, and the
rest. -/
def spanSign : List Char → Bool × List Char
  | '-' :: s => (true, s)
  | '+' :: s => (false, s)
  | s => (false, s)

/-- The sign and the value of the integer at the front of a text. -/
def readInt (s : List Char) : Int :=
  let (neg, s) := spanSign (s.dropWhile isSpace)
  let n : Int := digitsVal (spanDigits s).1
  if neg then -n else n

/-- Clamping to a 64-bit `long`. -/
def clampLong (n : Int) : Int := max (-2 ^ 63) (min (2 ^ 63 - 1) n)

/-- `atoi`. -/
def atoi (s : List Char) : Int := (clampLong (readInt s)).bmod (2 ^ 32)

example : atoi " -4294967297x".toList = -1 := by decide

/-- `atol`. -/
def atol (s : List Char) : Int := clampLong (readInt s)

/-- The value of a hexadecimal digit. -/
def hexDigit (c : Char) : Option Nat :=
  if c.isDigit then some (c.toNat - 48)
  else if 'a' ≤ c ∧ c ≤ 'f' then some (c.toNat - 87)
  else if 'A' ≤ c ∧ c ≤ 'F' then some (c.toNat - 55)
  else none

/-- The value of a row of hexadecimal digits. -/
def hexVal (ds : List Char) : Nat := ds.foldl (fun n d => 16 * n + (hexDigit d).getD 0) 0

/-- A hexadecimal digit. -/
def isHex (c : Char) : Bool := (hexDigit c).isSome

/-- The digits behind a point, and what follows them. -/
def spanFraction (digit : Char → Bool) : List Char → List Char × List Char
  | '.' :: s => s.span digit
  | s => ([], s)

/-- The exponent of a numeral, when its mark and at least one digit follow. -/
def readExponent (lower upper : Char) : List Char → Int
  | e :: s =>
    if e = lower ∨ e = upper then
      let (neg, s) := spanSign s
      let n : Int := digitsVal (spanDigits s).1
      if neg then -n else n
    else 0
  | [] => 0

/-- A hexadecimal numeral without its `0x`, which counts as such only when a digit follows, perhaps
behind a point. -/
def hexNumeral : List Char → Option (List Char)
  | '0' :: x :: s =>
    if (x = 'x' ∨ x = 'X') ∧ (s.span isHex).1 ++ (spanFraction isHex (s.span isHex).2).1 ≠ [] then
      some s
    else none
  | _ => none

/-- The sign and the magnitude of the number at the front of a text. -/
def readNumber (s : List Char) : Bool × Rat :=
  let (neg, s) := spanSign (s.dropWhile isSpace)
  match hexNumeral s with
  | some s =>
    let (whole, s) := s.span isHex
    let (frac, s) := spanFraction isHex s
    (neg, (hexVal (whole ++ frac) : Nat) * (2 : Rat) ^ (readExponent 'p' 'P' s - 4 * frac.length))
  | none =>
    let (whole, s) := spanDigits s
    let (frac, s) := spanFraction Char.isDigit s
    if whole ++ frac = [] then (false, 0)
    else
      (neg, (digitsVal (whole ++ frac) : Nat) * (10 : Rat) ^ (readExponent 'e' 'E' s - frac.length))

/-- `atof` and `strtold`. -/
def atof (s : List Char) : Rat :=
  let (neg, v) := readNumber s
  if neg then -v else v

example : atof "-0x1.8p3".toList = -12 := by decide +kernel

/-- A `0x` is skipped when a digit follows it. -/
def dropHexPrefix : List Char → List Char
  | '0' :: x :: d :: s =>
    if (x = 'x' ∨ x = 'X') ∧ (hexDigit d).isSome then d :: s else '0' :: x :: d :: s
  | s => s

/-- `strtol(s, NULL, 16)`. -/
def strtol16 (s : List Char) : Int :=
  let (neg, s) := spanSign (s.dropWhile isSpace)
  let n : Int := hexVal ((dropHexPrefix s).takeWhile fun d => (hexDigit d).isSome)
  clampLong (if neg then -n else n)

/-- `strchr(s, c)` for a `c` that is not the zero. -/
def strchr (c : Char) : List Char → Option (List Char)
  | [] => none
  | a :: s => if a = c then some (a :: s) else if a = '\x00' then none else strchr c s

/-- `strstr(s, needle) != NULL`. -/
def strstr (s needle : List Char) : Bool := decide (needle <:+: s.takeWhile (· ≠ '\x00'))

/-! ## Searches -/

/-- The first of the characters is found. -/
theorem strchr_append {c : Char} {q : List Char} (hq : c ∉ q) (hz : '\x00' ∉ q) (s : List Char) :
    strchr c (q ++ c :: s) = some (c :: s) := by
  induction q with
  | nil => exact if_pos rfl
  | cons a q ih =>
    have hne : a ≠ c := fun h => hq (by rw [h]; exact List.mem_cons_self)
    have hzero : a ≠ '\x00' := fun h => hz (by rw [h]; exact List.mem_cons_self)
    rw [List.cons_append, strchr, if_neg hne, if_neg hzero]
    exact ih (fun h => hq (List.mem_cons_of_mem _ h)) fun h => hz (List.mem_cons_of_mem _ h)

/-- A needle whose first character is only at the front of the text is nowhere else. -/
theorem strstr_front {d : Char} (hd : d ≠ '\x00') {s : List Char} (hs : d ∉ s) (needle : List Char) :
    strstr (d :: s) (d :: needle) = decide (needle <+: s.takeWhile (· ≠ '\x00')) := by
  have hfront : (d :: s).takeWhile (· ≠ '\x00') = d :: s.takeWhile (· ≠ '\x00') :=
    List.takeWhile_cons_of_pos (by simp [hd])
  have hbehind : ¬ d :: needle <:+: s.takeWhile (· ≠ '\x00') := by
    intro h
    have hmem : d ∈ s.takeWhile (· ≠ '\x00') := h.subset List.mem_cons_self
    exact hs (List.takeWhile_subset _ hmem)
  rw [strstr, hfront]
  refine decide_eq_decide.mpr ?_
  rw [List.infix_cons_iff, List.cons_prefix_cons, or_iff_left hbehind]
  exact and_iff_right rfl

/-! ## Hexadecimal digits -/

/-- The digits are behind the spaces and the signs. -/
theorem hexDigit_range {c : Char} {n : Nat} (h : hexDigit c = some n) :
    48 ≤ c.toNat ∧ n < 16 := by
  unfold hexDigit at h
  split at h
  next hd =>
    have hlo : 48 ≤ c.toNat := (Char.isDigit_iff_toNat.mp hd).1
    have hhi : c.toNat ≤ 57 := (Char.isDigit_iff_toNat.mp hd).2
    rw [Option.some.injEq] at h
    omega
  next =>
    split at h
    next hd =>
      have hlo : 97 ≤ c.toNat := hd.1
      have hhi : c.toNat ≤ 102 := hd.2
      rw [Option.some.injEq] at h
      omega
    next =>
      split at h
      next hd =>
        have hlo : 65 ≤ c.toNat := hd.1
        have hhi : c.toNat ≤ 70 := hd.2
        rw [Option.some.injEq] at h
        omega
      next => exact absurd h (by simp)

/-- White space is at the front of the characters. -/
theorem isSpace_le {c : Char} (h : isSpace c = true) : c.toNat ≤ 32 := by
  simp only [isSpace, Bool.or_eq_true, decide_eq_true_eq] at h
  rcases h with ((((rfl | rfl) | rfl) | rfl) | h) | h
  · decide
  · decide
  · decide
  · decide
  · omega
  · omega

/-- Two hexadecimal digits with something else behind them. -/
theorem strtol16_pair {hi lo c : Char} (hhi : (hexDigit hi).isSome = true)
    (hlo : (hexDigit lo).isSome = true) (hc : hexDigit c = none) (r : List Char) :
    strtol16 (hi :: lo :: c :: r) = hexVal [hi, lo] := by
  obtain ⟨m, hm⟩ := Option.isSome_iff_exists.mp hhi
  obtain ⟨n, hn⟩ := Option.isSome_iff_exists.mp hlo
  obtain ⟨hfront, hm16⟩ := hexDigit_range hm
  obtain ⟨-, hn16⟩ := hexDigit_range hn
  have hspace : isSpace hi = false := by
    by_contra h
    have := isSpace_le ((Bool.not_eq_false _).mp h)
    omega
  have hdrop : (hi :: lo :: c :: r).dropWhile isSpace = hi :: lo :: c :: r :=
    List.dropWhile_cons_of_neg (by simp [hspace])
  have hsign : spanSign (hi :: lo :: c :: r) = (false, hi :: lo :: c :: r) := by
    rw [spanSign.eq_3]
    · intro s hs
      rw [(List.cons.inj hs).1] at hfront
      exact absurd hfront (by decide)
    · intro s hs
      rw [(List.cons.inj hs).1] at hfront
      exact absurd hfront (by decide)
  -- an `x` is no digit
  have hskip : dropHexPrefix (hi :: lo :: c :: r) = hi :: lo :: c :: r := by
    unfold dropHexPrefix
    split
    next x d s hs =>
      obtain ⟨rfl, rfl, rfl, rfl⟩ : '0' = hi ∧ x = lo ∧ d = c ∧ s = r := by
        simpa [eq_comm] using hs
      rw [if_neg]
      intro hprefix
      obtain ⟨-, hd⟩ := hprefix
      rw [hc] at hd
      exact absurd hd (by simp)
    next => rfl
  have hval : hexVal [hi, lo] < 256 := by
    simp only [hexVal, List.foldl_cons, List.foldl_nil, hm, hn, Option.getD_some]
    omega
  have hdigits : (hi :: lo :: c :: r).takeWhile (fun d => (hexDigit d).isSome) = [hi, lo] := by
    simp [hhi, hlo, hc]
  unfold strtol16
  rw [hdrop, hsign]
  dsimp only
  rw [hskip, hdigits]
  show clampLong (hexVal [hi, lo]) = _
  unfold clampLong
  omega

/-! ## A zero behind a hexadecimal number -/

/-- The digits that `strtol(s, NULL, 16)` reads. -/
def hexDigits (s : List Char) : List Char :=
  (dropHexPrefix (spanSign (s.dropWhile isSpace)).2).takeWhile fun d => (hexDigit d).isSome

theorem strtol16_eq (s : List Char) : strtol16 s =
    clampLong (if (spanSign (s.dropWhile isSpace)).1 then -(hexVal (hexDigits s) : Int)
      else hexVal (hexDigits s)) := rfl

/-- The sign of a text does not depend on what is behind it. -/
theorem spanSign_append {q : List Char} (hq : q ≠ []) (r : List Char) :
    spanSign (q ++ r) = ((spanSign q).1, (spanSign q).2 ++ r) := by
  obtain ⟨a, q, rfl⟩ := List.exists_cons_of_ne_nil hq
  by_cases hminus : a = '-'
  · subst hminus
    rfl
  by_cases hplus : a = '+'
  · subst hplus
    rfl
  have hsign : ∀ s : List Char, spanSign (a :: s) = (false, a :: s) := by
    intro s
    rw [spanSign.eq_3]
    · exact fun _ h => hminus (List.cons.inj h).1
    · exact fun _ h => hplus (List.cons.inj h).1
  rw [List.cons_append, hsign, hsign]
  rfl

theorem spanSign_zero (q r : List Char) : spanSign (q ++ '\x00' :: r) =
    ((spanSign q).1, (spanSign q).2 ++ '\x00' :: r) := by
  cases q with
  | nil => rfl
  | cons a q => exact spanSign_append (List.cons_ne_nil a q) _

/-- A text without the prefix. -/
theorem dropHexPrefix_keep {s : List Char} (h : ∀ x d s', s = '0' :: x :: d :: s' →
    ¬ ((x = 'x' ∨ x = 'X') ∧ (hexDigit d).isSome = true)) : dropHexPrefix s = s := by
  unfold dropHexPrefix
  split
  next x d s' => exact if_neg (h x d s' rfl)
  next => rfl

/-- The prefix is skipped, or it is not, with a zero behind as without. -/
theorem dropHexPrefix_zero (q r : List Char) :
    dropHexPrefix (q ++ '\x00' :: r) = dropHexPrefix q ++ '\x00' :: r := by
  match q with
  | [] => exact dropHexPrefix_keep fun x d s' h => absurd (List.cons.inj h).1 (by decide)
  | [a] =>
    rw [dropHexPrefix_keep (s := [a]) fun x d s' h => by simp at h]
    apply dropHexPrefix_keep
    intro x d s' h
    obtain ⟨-, rfl, -⟩ : a = '0' ∧ '\x00' = x ∧ r = d :: s' := by simpa using h
    rintro ⟨hx | hx, -⟩ <;> exact absurd hx (by decide)
  | [a, b] =>
    rw [dropHexPrefix_keep (s := [a, b]) fun x d s' h => by simp at h]
    apply dropHexPrefix_keep
    intro x d s' h
    obtain ⟨-, -, rfl, -⟩ : a = '0' ∧ b = x ∧ '\x00' = d ∧ r = s' := by simpa using h
    intro hprefix
    obtain ⟨-, hd⟩ := hprefix
    exact absurd hd (by decide)
  | a :: b :: d :: q =>
    by_cases hskip : a = '0' ∧ (b = 'x' ∨ b = 'X') ∧ (hexDigit d).isSome = true
    · obtain ⟨rfl, hskip⟩ := hskip
      show (if _ then _ else _) = (if _ then _ else _) ++ _
      rw [if_pos hskip, if_pos hskip]
      rfl
    · have hno : ∀ q', dropHexPrefix (a :: b :: d :: q') = a :: b :: d :: q' := by
        intro q'
        apply dropHexPrefix_keep
        intro x e s' h
        obtain ⟨rfl, rfl, rfl, -⟩ : a = '0' ∧ b = x ∧ d = e ∧ q' = s' := by simpa using h
        exact fun hx => hskip ⟨rfl, hx⟩
      rw [hno q]
      exact hno _

/-! ## Characters that end a number -/

/-- A character that ends a number wherever it stands. -/
structure Stop (c : Char) : Prop where
  space : isSpace c = false
  digit : c.isDigit = false
  minus : c ≠ '-'
  plus : c ≠ '+'
  point : c ≠ '.'
  exponent : ¬ (c = 'e' ∨ c = 'E')
  hex : hexDigit c = none
  hexMark : ¬ (c = 'x' ∨ c = 'X')
  binary : ¬ (c = 'p' ∨ c = 'P')

section Stop

variable {c : Char} {p : Char → Bool}

/-- A loop over characters ends at one that does not fit. -/
theorem takeWhile_stop (hc : p c = false) (q r : List Char) :
    (q ++ c :: r).takeWhile p = q.takeWhile p := by
  induction q with
  | nil => exact List.takeWhile_cons_of_neg (by simp [hc])
  | cons a q ih =>
    rw [List.cons_append, List.takeWhile_cons, List.takeWhile_cons, ih]

theorem dropWhile_stop (hc : p c = false) (q r : List Char) :
    (q ++ c :: r).dropWhile p = q.dropWhile p ++ c :: r := by
  induction q with
  | nil => exact List.dropWhile_cons_of_neg (by simp [hc])
  | cons a q ih =>
    rw [List.cons_append, List.dropWhile_cons, List.dropWhile_cons, ih]
    split
    · rfl
    · rfl

theorem span_stop (hc : p c = false) (q r : List Char) :
    (q ++ c :: r).span p = (q.takeWhile p, q.dropWhile p ++ c :: r) := by
  rw [List.span_eq_takeWhile_dropWhile, takeWhile_stop hc, dropWhile_stop hc]

theorem spanDigits_stop (hc : Stop c) (q r : List Char) :
    spanDigits (q ++ c :: r) = (q.takeWhile Char.isDigit, q.dropWhile Char.isDigit ++ c :: r) :=
  span_stop hc.digit q r

/-- A sign is there, or is not, whatever comes behind. -/
theorem spanSign_stop (hc : Stop c) (q : List Char) :
    ∃ neg q', ∀ r, spanSign (q ++ c :: r) = (neg, q' ++ c :: r) := by
  cases q with
  | nil =>
    refine ⟨false, [], ?_⟩
    intro r
    rw [List.nil_append, spanSign.eq_3]
    · exact fun s hs => hc.minus (List.cons.inj hs).1
    · exact fun s hs => hc.plus (List.cons.inj hs).1
  | cons a q => exact ⟨_, _, fun r => spanSign_append (List.cons_ne_nil a q) _⟩

/-- An integer does not depend on what is behind its end. -/
theorem readInt_stop (hc : Stop c) (q r : List Char) :
    readInt (q ++ c :: r) = readInt (q ++ [c]) := by
  obtain ⟨neg, q', hsign⟩ := spanSign_stop hc (q.dropWhile isSpace)
  rw [readInt, readInt, dropWhile_stop hc.space, dropWhile_stop hc.space, hsign, hsign]
  dsimp only
  rw [spanDigits_stop hc, spanDigits_stop hc]

theorem atoi_stop (hc : Stop c) (q r : List Char) : atoi (q ++ c :: r) = atoi (q ++ [c]) := by
  rw [atoi, atoi, readInt_stop hc]

theorem atol_stop (hc : Stop c) (q r : List Char) : atol (q ++ c :: r) = atol (q ++ [c]) := by
  rw [atol, atol, readInt_stop hc]

/-- Neither does an exponent. -/
theorem readExponent_stop (hc : Stop c) {lower upper : Char} (hmark : ¬ (c = lower ∨ c = upper))
    (q r : List Char) :
    readExponent lower upper (q ++ c :: r) = readExponent lower upper (q ++ [c]) := by
  cases q with
  | nil =>
    show (if c = lower ∨ c = upper then _ else 0) = if c = lower ∨ c = upper then _ else 0
    rw [if_neg hmark, if_neg hmark]
  | cons a q =>
    by_cases he : a = lower ∨ a = upper
    · obtain ⟨neg, q', hsign⟩ := spanSign_stop hc q
      rw [List.cons_append, List.cons_append, readExponent, readExponent, if_pos he, if_pos he,
        hsign, hsign]
      dsimp only
      rw [spanDigits_stop hc, spanDigits_stop hc]
    · rw [List.cons_append, List.cons_append, readExponent, readExponent, if_neg he, if_neg he]

/-- Behind the digits there is a point, or there is none. -/
theorem spanFraction_stop (hc : Stop c) {digit : Char → Bool} (hdigit : digit c = false)
    (q : List Char) :
    ∃ frac q', ∀ r, spanFraction digit (q ++ c :: r) = (frac, q' ++ c :: r) := by
  cases q with
  | nil =>
    refine ⟨[], [], ?_⟩
    intro r
    unfold spanFraction
    split
    next s hs => exact absurd (List.cons.inj hs).1 hc.point
    next s hs => rfl
  | cons a q =>
    by_cases hpoint : a = '.'
    · subst hpoint
      exact ⟨_, _, fun r => span_stop hdigit q r⟩
    · refine ⟨[], a :: q, ?_⟩
      intro r
      unfold spanFraction
      split
      next s hs => exact absurd (List.cons.inj hs).1 hpoint
      next s hs => rfl

/-- Whether a numeral is hexadecimal does not depend on what is behind it. -/
theorem hexNumeral_stop (hc : Stop c) (q : List Char) :
    (∃ q', ∀ r, hexNumeral (q ++ c :: r) = some (q' ++ c :: r)) ∨
      ∀ r, hexNumeral (q ++ c :: r) = none := by
  have hhex : isHex c = false := by
    rw [isHex, hc.hex]
    rfl
  match q with
  | [] =>
    refine .inr fun r => ?_
    unfold hexNumeral
    split
    next hs => exact absurd ((List.cons.inj hs).1 ▸ hc.digit) (by decide)
    next => rfl
  | [a] =>
    refine .inr fun r => ?_
    unfold hexNumeral
    split
    next x s hs =>
      obtain ⟨rfl, -⟩ := List.cons.inj (List.cons.inj hs).2
      exact if_neg fun h => hc.hexMark h.1
    next => rfl
  | a :: b :: q =>
    -- a `0x` counts when a digit follows it, and `c` is none
    obtain ⟨frac, behind, hfrac⟩ := spanFraction_stop hc hhex (q.dropWhile isHex)
    by_cases hfront : a = '0' ∧ (b = 'x' ∨ b = 'X') ∧ q.takeWhile isHex ++ frac ≠ []
    · obtain ⟨rfl, hx, hdigits⟩ := hfront
      refine .inl ⟨q, fun r => if_pos ⟨hx, ?_⟩⟩
      show ((q ++ c :: r).span isHex).1 ++ (spanFraction isHex ((q ++ c :: r).span isHex).2).1 ≠ []
      rw [span_stop hhex, hfrac]
      exact hdigits
    · refine .inr fun r => ?_
      unfold hexNumeral
      split
      next x s hs =>
        obtain ⟨rfl, rfl⟩ : b = x ∧ q ++ c :: r = s := List.cons.inj (List.cons.inj hs).2
        refine if_neg fun h => hfront ⟨(List.cons.inj hs).1, h.1, ?_⟩
        have hdigits := h.2
        rwa [span_stop hhex, hfrac] at hdigits
      next => rfl

/-- A number is read up to the character that ends it. -/
theorem readNumber_stop (hc : Stop c) (q r : List Char) :
    readNumber (q ++ c :: r) = readNumber (q ++ [c]) := by
  have hhex : isHex c = false := by
    rw [isHex, hc.hex]
    rfl
  obtain ⟨neg, body, hsign⟩ := spanSign_stop hc (q.dropWhile isSpace)
  unfold readNumber
  rw [dropWhile_stop hc.space, dropWhile_stop hc.space, hsign, hsign]
  dsimp only
  rcases hexNumeral_stop hc body with ⟨digits, hnumeral⟩ | hnumeral
  · rw [hnumeral, hnumeral]
    dsimp only
    rw [span_stop hhex, span_stop hhex]
    dsimp only
    obtain ⟨frac, behind, hfrac⟩ := spanFraction_stop hc hhex (digits.dropWhile isHex)
    rw [hfrac, hfrac]
    dsimp only
    rw [readExponent_stop hc hc.binary]
  · rw [hnumeral, hnumeral]
    dsimp only
    rw [spanDigits_stop hc, spanDigits_stop hc]
    dsimp only
    obtain ⟨frac, behind, hfrac⟩ := spanFraction_stop hc hc.digit (body.dropWhile Char.isDigit)
    rw [hfrac, hfrac]
    dsimp only
    rw [readExponent_stop hc hc.exponent]

/-- Nor a real number. -/
theorem atof_stop (hc : Stop c) (q r : List Char) : atof (q ++ c :: r) = atof (q ++ [c]) := by
  rw [atof, atof, readNumber_stop hc]

end Stop

/-- Behind a zero there is nothing for `strtol`. -/
theorem strtol16_zero (q r : List Char) : strtol16 (q ++ '\x00' :: r) = strtol16 q := by
  have hspace : isSpace '\x00' = false := by decide
  have hdigit : (hexDigit '\x00').isSome = false := by decide
  rw [strtol16_eq, strtol16_eq, hexDigits, hexDigits, dropWhile_stop hspace, spanSign_zero,
    dropHexPrefix_zero, takeWhile_stop hdigit]

end CText
