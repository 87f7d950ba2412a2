import Solarbot.Lib.CText

/-!
# A hexadecimal number that is not at its end

`strtol(s, NULL, 16)` reads a number as far as it goes, so at the end of a text it goes
on with what is behind the text in memory. The last byte of the number is what a program
sees of it in a `uint8_t`. `continues_iff` says which bytes this can be, whatever is behind
the text: those of the number as it stands, or with one or two digits behind it. More
digits leave the last two of them in the byte, or clamp the number.
-/

namespace CText

/-- The value with its sign, as a `long`. -/
def signed (neg : Bool) (n : Nat) : Int := clampLong (if neg then -n else n)

theorem strtol16_signed (s : List Char) :
    strtol16 s = signed (spanSign (s.dropWhile isSpace)).1 (hexVal (hexDigits s)) := rfl

/-! ## Digits -/

/-- A digit from its value. -/
def hexChar (n : Nat) : Char := Char.ofNat (if n < 10 then 48 + n else 55 + n)

theorem hexDigit_hexChar : ∀ n < 16, hexDigit (hexChar n) = some n := by decide

/-- All of these are hexadecimal digits. -/
def Hex (t : List Char) : Prop := ∀ c ∈ t, (hexDigit c).isSome = true

/-- A digit more. -/
theorem hexVal_concat (t : List Char) (c : Char) :
    hexVal (t ++ [c]) = 16 * hexVal t + (hexDigit c).getD 0 := by
  rw [hexVal, List.foldl_append]
  rfl

/-- The value of two rows of digits. -/
theorem hexVal_append (p t : List Char) :
    hexVal (p ++ t) = hexVal p * 16 ^ t.length + hexVal t := by
  induction t using List.reverseRecOn with
  | nil => simp [hexVal]
  | append_singleton t c ih =>
    rw [← List.append_assoc, hexVal_concat, hexVal_concat, ih, List.length_append,
      List.length_singleton, Nat.pow_succ]
    ring

/-- A row of digits has a value below its power of sixteen. -/
theorem hexVal_lt {t : List Char} (h : Hex t) : hexVal t < 16 ^ t.length := by
  induction t using List.reverseRecOn with
  | nil => exact Nat.one_pos
  | append_singleton t c ih =>
    obtain ⟨n, hn⟩ := Option.isSome_iff_exists.mp (h c (by simp))
    have hfront := ih fun d hd => h d (List.mem_append_left _ hd)
    have hn16 := (hexDigit_range hn).2
    rw [hexVal_concat, hn, Option.getD_some, List.length_append, List.length_singleton,
      Nat.pow_succ]
    omega

/-- At most two digits. -/
def completions : List (List Char) :=
  [] :: ((List.range 16).map fun n => [hexChar n]) ++
    (List.range 256).map fun n => [hexChar (n / 16), hexChar (n % 16)]

theorem nil_mem_completions : [] ∈ completions := List.mem_cons_self

theorem one_mem_completions {n : Nat} (h : n < 16) : [hexChar n] ∈ completions :=
  List.mem_append_left _
    (List.mem_cons_of_mem _ (List.mem_map.mpr ⟨n, List.mem_range.mpr h, rfl⟩))

theorem two_mem_completions {n : Nat} (h : n < 256) :
    [hexChar (n / 16), hexChar (n % 16)] ∈ completions :=
  List.mem_append_right _ (List.mem_map.mpr ⟨n, List.mem_range.mpr h, rfl⟩)

theorem hex_one {n : Nat} (h : n < 16) : Hex [hexChar n] := by
  intro c hc
  rw [List.mem_singleton.mp hc, hexDigit_hexChar n h]
  rfl

/-- The two digits of a byte are digits. -/
theorem hex_two {n : Nat} (h : n < 256) : Hex [hexChar (n / 16), hexChar (n % 16)] := by
  intro c hc
  rcases List.mem_cons.mp hc with rfl | hc
  · exact hex_one (show n / 16 < 16 by omega) _ (List.mem_singleton_self _)
  · exact hex_one (show n % 16 < 16 by omega) _ hc

theorem hexVal_one {n : Nat} (h : n < 16) : hexVal [hexChar n] = n := by
  simp [hexVal, hexDigit_hexChar n h]

/-- They have the value of the byte. -/
theorem hexVal_two {n : Nat} (h : n < 256) :
    hexVal [hexChar (n / 16), hexChar (n % 16)] = n := by
  rw [← List.singleton_append, hexVal_append, hexVal_one (by omega), hexVal_one (by omega)]
  simp only [List.length_singleton, Nat.pow_one]
  omega

/-! ## The last byte -/

/-- A byte is what is left modulo 256. -/
theorem ofInt_congr {a b : Int} (h : a % 256 = b % 256) : UInt8.ofInt a = UInt8.ofInt b := by
  unfold UInt8.ofInt
  rw [show (2 : Int) ^ 8 = 256 from rfl, h]

/-- Of two or more digits the last two are in the byte, or the number is clamped, and two
digits have the byte of the clamped number. -/
theorem ofInt_signed_long (neg : Bool) (v : Nat) {w k : Nat} (hk : 2 ≤ k) (hw : w < 16 ^ k) :
    ∃ y < 256, UInt8.ofInt (signed neg (v * 16 ^ k + w)) = UInt8.ofInt (signed neg (v * 256 + y)) := by
  obtain ⟨j, rfl⟩ := Nat.exists_eq_add_of_le hk
  have hpow : v * 16 ^ (2 + j) = 256 * (v * 16 ^ j) := by
    rw [Nat.pow_add]
    ring
  have hle : v ≤ v * 16 ^ j := Nat.le_mul_of_pos_right v (Nat.pow_pos (by decide))
  rw [hpow]
  generalize v * 16 ^ j = u at hle
  by_cases hbig : 256 * u + w < 2 ^ 63
  · refine ⟨w % 256, Nat.mod_lt _ (by decide), ?_⟩
    apply ofInt_congr
    unfold signed clampLong
    cases neg with
    | false =>
      simp only [Bool.false_eq_true, if_false]
      omega
    | true =>
      simp only [if_true]
      omega
  · cases neg with
    | false =>
      refine ⟨255, by decide, ?_⟩
      apply ofInt_congr
      unfold signed clampLong
      simp only [Bool.false_eq_true, if_false]
      omega
    | true =>
      refine ⟨0, by decide, ?_⟩
      apply ofInt_congr
      unfold signed clampLong
      simp only [if_true]
      omega

/-- Two digits have any byte. -/
theorem ofInt_signed_any (neg : Bool) (b : UInt8) :
    ∃ y < 256, UInt8.ofInt (signed neg y) = b := by
  cases neg with
  | false =>
    refine ⟨b.toNat, b.toNat_lt, ?_⟩
    revert b
    decide +kernel
  | true =>
    refine ⟨(-b).toNat, (-b).toNat_lt, ?_⟩
    revert b
    decide +kernel

/-! ## What is behind the text -/

section Behind

variable {t : List Char}

/-- No digit is white space. -/
theorem dropWhile_hex (ht : Hex t) : t.dropWhile isSpace = t := by
  cases t with
  | nil => rfl
  | cons c t =>
    obtain ⟨n, hn⟩ := Option.isSome_iff_exists.mp (ht c List.mem_cons_self)
    have hfront := (hexDigit_range hn).1
    refine List.dropWhile_cons_of_neg ?_
    intro h
    have := isSpace_le h
    omega

/-- None is a sign. -/
theorem spanSign_hex (ht : Hex t) : spanSign t = (false, t) := by
  have hno : ∀ c s, t = c :: s → c ≠ '-' ∧ c ≠ '+' := by
    intro c s hs
    obtain ⟨n, hn⟩ := Option.isSome_iff_exists.mp (ht c (hs ▸ List.mem_cons_self))
    have hfront := (hexDigit_range hn).1
    constructor
    · intro hc
      rw [hc] at hfront
      exact absurd hfront (by decide)
    · intro hc
      rw [hc] at hfront
      exact absurd hfront (by decide)
  rw [spanSign.eq_3]
  · intro s hs
    exact (hno _ s hs).1 rfl
  · intro s hs
    exact (hno _ s hs).2 rfl

/-- And two of them are no `0x`. -/
theorem dropHexPrefix_hex (ht : Hex t) : dropHexPrefix t = t := by
  apply dropHexPrefix_keep
  intro x d s hs hx
  have hx' := ht x (by rw [hs]; simp)
  rcases hx.1 with rfl | rfl
  · exact absurd hx' (by decide)
  · exact absurd hx' (by decide)

/-- All digits are taken. -/
theorem takeWhile_hex (ht : Hex t) : (t.takeWhile fun d => (hexDigit d).isSome) = t :=
  List.takeWhile_eq_self_iff.mpr ht

end Behind

/-- The digits behind a text are those of its number, or a prefix is not complete. -/
theorem dropHexPrefix_append (q : List Char) :
    (∃ s, ∀ r, dropHexPrefix (q ++ r) = s ++ r) ∨
      ∀ t, Hex t →
        hexVal ((dropHexPrefix (q ++ t)).takeWhile fun d => (hexDigit d).isSome) = hexVal t := by
  match q with
  | [] =>
    refine .inr ?_
    intro t ht
    rw [List.nil_append, dropHexPrefix_hex ht, takeWhile_hex ht]
  | [a] =>
    by_cases ha : a = '0'
    · -- a zero that may be the front of a `0x`
      refine .inr ?_
      intro t ht
      have hzero : Hex ('0' :: t) := List.forall_mem_cons.mpr ⟨rfl, ht⟩
      rw [ha, List.singleton_append, dropHexPrefix_hex hzero, takeWhile_hex hzero]
      rfl
    · refine .inl ⟨[a], ?_⟩
      intro r
      apply dropHexPrefix_keep
      intro x d s hs
      exact absurd (List.cons.inj hs).1 ha
  | [a, b] =>
    by_cases hx : a = '0' ∧ (b = 'x' ∨ b = 'X')
    · obtain ⟨rfl, hb⟩ := hx
      refine .inr ?_
      intro t ht
      cases t with
      | nil => rcases hb with rfl | rfl <;> rfl
      | cons c t =>
        have hskip : dropHexPrefix ('0' :: b :: c :: t) = c :: t :=
          if_pos ⟨hb, ht c List.mem_cons_self⟩
        rw [List.cons_append, List.singleton_append, hskip, takeWhile_hex ht]
    · refine .inl ⟨[a, b], ?_⟩
      intro r
      apply dropHexPrefix_keep
      intro x d s hs hd
      obtain ⟨rfl, rfl, -⟩ : a = '0' ∧ b = x ∧ r = d :: s := by simpa using hs
      exact hx ⟨rfl, hd.1⟩
  | a :: b :: d :: q =>
    by_cases hskip : a = '0' ∧ (b = 'x' ∨ b = 'X') ∧ (hexDigit d).isSome = true
    · obtain ⟨rfl, hskip⟩ := hskip
      exact .inl ⟨d :: q, fun r => if_pos hskip⟩
    · refine .inl ⟨a :: b :: d :: q, ?_⟩
      intro r
      apply dropHexPrefix_keep
      intro x e s hs hx
      obtain ⟨rfl, rfl, rfl, -⟩ : a = '0' ∧ b = x ∧ d = e ∧ q ++ r = s := by simpa using hs
      exact hskip ⟨rfl, hx⟩

/-- **The end of a text and a number.** The number ends inside the text, or the digits
behind the text are its last ones. A text that has the value `0` so far may also be in
front of a sign or of a prefix. -/
theorem strtol16_append_cases (q : List Char) :
    (∀ r, strtol16 (q ++ r) = strtol16 q) ∨
      ∃ neg v, (∀ t, Hex t → strtol16 (q ++ t) = signed neg (v * 16 ^ t.length + hexVal t)) ∧
        (v = 0 ∨ ∀ r, ∃ t, Hex t ∧ strtol16 (q ++ r) = strtol16 (q ++ t)) := by
  by_cases hspaces : q.dropWhile isSpace = []
  · -- nothing but white space
    refine .inr ⟨false, 0, ?_, .inl rfl⟩
    intro t ht
    have hdrop : (q ++ t).dropWhile isSpace = t := by
      rw [List.dropWhile_append, hspaces]
      exact dropWhile_hex ht
    rw [strtol16_signed, hexDigits, hdrop, spanSign_hex ht, dropHexPrefix_hex ht, takeWhile_hex ht,
      Nat.zero_mul, Nat.zero_add]
  have hread : ∀ r, strtol16 (q ++ r) = signed (spanSign (q.dropWhile isSpace)).1
      (hexVal ((dropHexPrefix ((spanSign (q.dropWhile isSpace)).2 ++ r)).takeWhile
        fun d => (hexDigit d).isSome)) := by
    intro r
    have hdrop : (q ++ r).dropWhile isSpace = q.dropWhile isSpace ++ r := by
      rw [List.dropWhile_append, if_neg (by simpa using hspaces)]
    rw [strtol16_signed, hexDigits, hdrop, spanSign_append hspaces]
  generalize spanSign (q.dropWhile isSpace) = p at hread
  obtain ⟨neg, s⟩ := p
  dsimp only at hread
  rcases dropHexPrefix_append s with ⟨ds, hds⟩ | hopen
  · simp only [hds] at hread
    by_cases hall : Hex ds
    · have hlen : (ds.takeWhile fun d => (hexDigit d).isSome).length = ds.length := by
        rw [takeWhile_hex hall]
      simp only [List.takeWhile_append, if_pos hlen] at hread
      -- the digits go on in what follows
      refine .inr ⟨neg, hexVal ds, ?_, .inr ?_⟩
      · intro t ht
        rw [hread, takeWhile_hex ht, hexVal_append]
      · intro r
        have hrun : Hex (r.takeWhile fun d => (hexDigit d).isSome) := by
          intro c hc
          exact List.mem_takeWhile_imp (p := fun d => (hexDigit d).isSome) hc
        refine ⟨_, hrun, ?_⟩
        rw [hread, hread, List.takeWhile_takeWhile]
        simp only [and_self, Bool.decide_eq_true]
    · -- a character that is no digit
      have hlen : ¬ (ds.takeWhile fun d => (hexDigit d).isSome).length = ds.length := by
        intro h
        have hself := (List.takeWhile_prefix _).eq_of_length h
        exact hall (List.takeWhile_eq_self_iff.mp hself)
      simp only [List.takeWhile_append, if_neg hlen] at hread
      refine .inl ?_
      intro r
      rw [hread, ← hread [], List.append_nil]
  · -- the text ends in the middle of a `0x`
    refine .inr ⟨neg, 0, ?_, .inl rfl⟩
    intro t ht
    rw [hread, hopen t ht, Nat.zero_mul, Nat.zero_add]

/-- **The bytes of a number that goes on** are those it has with at most two digits behind
the text. -/
theorem continues_iff (q : List Char) (b : UInt8) :
    (∃ r, UInt8.ofInt (strtol16 (q ++ r)) = b) ↔
      ∃ t ∈ completions, UInt8.ofInt (strtol16 (q ++ t)) = b := by
  constructor
  · intro hr
    obtain ⟨r, hr⟩ := hr
    rcases strtol16_append_cases q with hsame | ⟨neg, v, hdigits, hopen⟩
    · refine ⟨[], nil_mem_completions, ?_⟩
      rw [hsame, ← hsame r, hr]
    -- two digits with the value `y` behind the text
    have htwo : ∀ y < 256, UInt8.ofInt (signed neg (v * 256 + y)) = b →
        ∃ t ∈ completions, UInt8.ofInt (strtol16 (q ++ t)) = b := by
      intro y hy hb
      refine ⟨_, two_mem_completions hy, ?_⟩
      rw [hdigits _ (hex_two hy), hexVal_two hy]
      exact hb
    rcases hopen with rfl | hopen
    · obtain ⟨y, hy, hb⟩ := ofInt_signed_any neg b
      exact htwo y hy (by rw [Nat.zero_mul, Nat.zero_add, hb])
    obtain ⟨t, ht, hrt⟩ := hopen r
    rw [hrt, hdigits t ht] at hr
    rcases t with _ | ⟨c, _ | ⟨d, t⟩⟩
    · refine ⟨[], nil_mem_completions, ?_⟩
      rw [hdigits [] ht, hr]
    · obtain ⟨n, hn⟩ := Option.isSome_iff_exists.mp (ht c List.mem_cons_self)
      have hn16 := (hexDigit_range hn).2
      have hval : hexVal [c] = n := by simp [hexVal, hn]
      refine ⟨_, one_mem_completions hn16, ?_⟩
      rw [hdigits _ (hex_one hn16), hexVal_one hn16, ← hval]
      exact hr
    · obtain ⟨y, hy, hb⟩ := ofInt_signed_long neg v (by simp) (hexVal_lt ht)
      exact htwo y hy (hb ▸ hr)
  · intro ht
    obtain ⟨t, -, ht⟩ := ht
    exact ⟨t, ht⟩

end CText
