import Mathlib

/-!
# Cyclic codes over bits

The bits of a number are the coefficients of a polynomial over the field of two elements (`poly`),
and a list of symbols of `w` bits is one long polynomial (`word`). A cyclic code consists of the
multiples of a generator. `mulX` multiplies by `X` modulo the generator, as a shift register does;
how long it takes to come back to one says which multiples have two terms. With a generator whose
terms are even in number, so that no multiple has one or three, a word of the code that is not
zero has four terms at least (`four_le_weight`).
-/

namespace CyclicCodes

open Polynomial

/-! ## Numbers as polynomials -/

/-- The polynomial of the bits of a number. -/
noncomputable def poly (n : Nat) : (ZMod 2)[X] :=
  ∑ i ∈ Finset.range n, if n.testBit i then X ^ i else 0

/-- The bits of a number are the coefficients. -/
theorem poly_coeff (n k : Nat) : (poly n).coeff k = if n.testBit k then 1 else 0 := by
  have hterm : ∀ i ∈ Finset.range n, (if n.testBit i then (X : (ZMod 2)[X]) ^ i else 0).coeff k =
      if i = k then (if n.testBit k then 1 else 0) else 0 := by
    intro i _
    by_cases hi : i = k
    · rw [hi, if_pos rfl]
      split
      · exact coeff_X_pow_self k
      · exact coeff_zero k
    · rw [if_neg hi]
      split
      · rw [coeff_X_pow, if_neg fun h => hi h.symm]
      · exact coeff_zero k
  rw [poly, finsetSum_coeff, Finset.sum_congr rfl hterm, Finset.sum_ite_eq']
  split
  · rfl
  next hk =>
    -- a bit that is set is a place below the number
    rw [if_neg]
    intro hbit
    have hle := Nat.ge_two_pow_of_testBit hbit
    have hlt : k < 2 ^ k := Nat.lt_two_pow_self
    exact hk (Finset.mem_range.mpr (by omega))

theorem poly_zero : poly 0 = 0 := rfl

theorem poly_one : poly 1 = 1 := by
  rw [poly, Finset.sum_range_one]
  rfl

/-- The exclusive or is the sum. -/
theorem poly_xor (a b : Nat) : poly (a ^^^ b) = poly a + poly b := by
  ext k
  rw [coeff_add, poly_coeff, poly_coeff, poly_coeff, Nat.testBit_xor]
  cases a.testBit k <;> cases b.testBit k <;> rfl

/-- A shift is a product with `X`. -/
theorem poly_double (n : Nat) : poly (2 * n) = X * poly n := by
  ext k
  rw [poly_coeff]
  cases k with
  | zero => rw [coeff_X_mul_zero, Nat.testBit_zero, Nat.mul_mod_right]; rfl
  | succ k => rw [coeff_X_mul, poly_coeff, Nat.testBit_succ, Nat.mul_div_cancel_left n two_pos]

/-- And so are several. -/
theorem poly_mul_two_pow (n k : Nat) : poly (n * 2 ^ k) = poly n * X ^ k := by
  induction k with
  | zero => rw [pow_zero, pow_zero, mul_one, mul_one]
  | succ k ih =>
    rw [pow_succ, pow_succ', ← mul_assoc, mul_comm (n * 2 ^ k), poly_double, ih]
    ring

/-- The bits from the `k`-th on, and those below it. -/
theorem poly_div_mod (n k : Nat) : poly n = poly (n / 2 ^ k) * X ^ k + poly (n % 2 ^ k) := by
  ext i
  rw [coeff_add, coeff_mul_X_pow', poly_coeff, poly_coeff (n % 2 ^ k), Nat.testBit_mod_two_pow]
  by_cases hi : k ≤ i
  · rw [if_pos hi, poly_coeff, Nat.testBit_div_two_pow, Nat.sub_add_cancel hi]
    simp [Nat.not_lt.mpr hi]
  · rw [if_neg hi, zero_add]
    simp [Nat.lt_of_not_le hi]

/-- A number of `w` bits has none from there on. -/
theorem testBit_of_lt {n w k : Nat} (h : n < 2 ^ w) (hk : w ≤ k) : n.testBit k = false :=
  Nat.testBit_lt_two_pow (lt_of_lt_of_le h (Nat.pow_le_pow_right two_pos hk))

/-- A number of `w` bits has a degree below `w`. -/
theorem poly_degree_lt {n w : Nat} (h : n < 2 ^ w) : (poly n).degree < w := by
  rw [degree_lt_iff_coeff_zero]
  intro k hk
  rw [poly_coeff, testBit_of_lt h hk]
  rfl

/-- Only zero has no bits. -/
theorem poly_eq_zero_iff {n : Nat} : poly n = 0 ↔ n = 0 := by
  refine ⟨fun h => ?_, fun h => h ▸ poly_zero⟩
  apply Nat.eq_of_testBit_eq
  intro k
  have hcoeff : (poly n).coeff k = 0 := by rw [h, coeff_zero]
  rw [poly_coeff] at hcoeff
  rw [Nat.zero_testBit]
  by_contra hbit
  rw [if_pos (by simpa using hbit)] at hcoeff
  exact one_ne_zero hcoeff

/-- What is added twice is gone. -/
theorem add_self (p : (ZMod 2)[X]) : p + p = 0 := CharTwo.add_self_eq_zero p

/-! ## The register -/

variable {w g : Nat}

/-- A step of the register of `w` bits with the generator `g`. -/
def mulX (w g r : Nat) : Nat := if (2 * r).testBit w then (2 * r) ^^^ g else 2 * r

/-- The generator has its highest and its lowest term. -/
structure Generates (w g : Nat) : Prop where
  high : 2 ^ w ≤ g
  below : g < 2 ^ (w + 1)
  low : g.testBit 0 = true

/-- The generator has its highest bit. -/
theorem Generates.testBit (h : Generates w g) : g.testBit w = true := by
  rw [Nat.testBit_eq_decide_div_mod_eq, Nat.div_eq_of_lt_le (k := 1)]
  · rfl
  · rw [one_mul]
    exact h.high
  · rw [show (1 + 1) * 2 ^ w = 2 ^ (w + 1) by ring]
    exact h.below

/-- What has fewer bits than the register is smaller. -/
theorem Generates.degree_lt (h : Generates w g) {n : Nat} (hn : n < 2 ^ w) :
    (poly n).degree < (poly g).degree := by
  refine (poly_degree_lt hn).trans_le (le_degree_of_ne_zero ?_)
  rw [poly_coeff, if_pos h.testBit]
  exact one_ne_zero

/-- Its polynomial is monic. -/
theorem Generates.monic (h : Generates w g) : (poly g).Monic := by
  have hdegree : (poly g).degree ≤ (w : Nat) :=
    Order.lt_succ_iff.mp (by exact_mod_cast poly_degree_lt h.below)
  refine monic_of_degree_le w hdegree ?_
  rw [poly_coeff, if_pos h.testBit]

/-- What makes a polynomial a multiple, and fits into the register, is the remainder. -/
theorem Generates.remainder (h : Generates w g) {p : (ZMod 2)[X]} {n : Nat} (hn : n < 2 ^ w)
    (hdvd : poly g ∣ p + poly n) : poly n = p %ₘ poly g := by
  have hzero := (modByMonic_eq_zero_iff_dvd h.monic).mpr hdvd
  rw [add_modByMonic, (modByMonic_eq_self_iff h.monic).mpr (h.degree_lt hn)] at hzero
  exact (CharTwo.add_eq_zero.mp hzero).symm

/-- A step stays within the register. -/
theorem mulX_lt (hg : Generates w g) {r : Nat} (hr : r < 2 ^ w) : mulX w g r < 2 ^ w := by
  have hdouble : 2 * r < 2 ^ (w + 1) := by
    rw [pow_succ]
    omega
  have hlt : mulX w g r < 2 ^ (w + 1) := by
    unfold mulX
    split
    · exact Nat.xor_lt_two_pow hdouble hg.below
    · exact hdouble
  have htop : (mulX w g r).testBit w = false := by
    unfold mulX
    split
    next h => rw [Nat.testBit_xor, h, hg.testBit]; rfl
    next h => simpa using h
  refine Nat.lt_pow_two_of_testBit _ fun i hi => ?_
  rcases Nat.eq_or_lt_of_le hi with rfl | hi
  · exact htop
  · exact testBit_of_lt hlt hi

/-- A step multiplies by `X`, modulo the generator. -/
theorem dvd_mulX (w g r : Nat) : poly g ∣ X * poly r + poly (mulX w g r) := by
  unfold mulX
  split
  · rw [poly_xor, poly_double, ← add_assoc, add_self, zero_add]
  · rw [poly_double, add_self]
    exact dvd_zero _

/-- So do several. -/
theorem mulX_iterate_lt (hg : Generates w g) {r : Nat} (hr : r < 2 ^ w) :
    ∀ n, (mulX w g)^[n] r < 2 ^ w
  | 0 => hr
  | n + 1 => by
    rw [Function.iterate_succ_apply']
    exact mulX_lt hg (mulX_iterate_lt hg hr n)

/-- The steps are products with `X`, up to multiples of the generator. -/
theorem dvd_mulX_iterate (w g r : Nat) :
    ∀ n, poly g ∣ X ^ n * poly r + poly ((mulX w g)^[n] r)
  | 0 => by
    rw [pow_zero, one_mul, Function.iterate_zero_apply, add_self]
    exact dvd_zero _
  | n + 1 => by
    have hone := dvd_mulX w g ((mulX w g)^[n] r)
    have hsum := (dvd_mulX_iterate w g r n).mul_left X
    rw [Function.iterate_succ_apply']
    have heq : X ^ (n + 1) * poly r + poly (mulX w g ((mulX w g)^[n] r)) =
        X * (X ^ n * poly r + poly ((mulX w g)^[n] r)) +
          (X * poly ((mulX w g)^[n] r) + poly (mulX w g ((mulX w g)^[n] r))) := by
      rw [mul_add, add_assoc, ← add_assoc (X * poly ((mulX w g)^[n] r)), add_self, zero_add]
      ring
    rw [heq]
    exact dvd_add hsum hone

/-! ## The weight -/

/-- The number of terms. -/
def weight (p : (ZMod 2)[X]) : Nat := p.support.card

theorem eq_one {c : ZMod 2} (h : c ≠ 0) : c = 1 := by
  revert c
  decide

/-- A multiple of a polynomial with an even number of terms has an even number of them. -/
theorem even_weight {q p : (ZMod 2)[X]} (hq : q.IsRoot 1) (h : q ∣ p) : Even (weight p) := by
  have hroot : p.eval 1 = 0 := (hq.dvd h).eq_zero
  rw [eval_eq_sum, sum_def, Finset.sum_congr rfl fun k hk => by
    rw [eq_one (mem_support_iff.mp hk), one_pow, mul_one]] at hroot
  rw [Finset.sum_const, nsmul_eq_mul, mul_one, ZMod.natCast_eq_zero_iff] at hroot
  exact even_iff_two_dvd.mpr hroot

/-- The register does not come back to one in less than `period` steps. -/
def NoReturn (w g period : Nat) : Prop := ∀ n, 0 < n → n < period → (mulX w g)^[n] 1 ≠ 1

/-- The generator has nothing in common with the powers of `X`. -/
theorem Generates.isCoprime (hg : Generates w g) (n : Nat) : IsCoprime (poly g) (X ^ n) := by
  have hlow : (poly g).coeff 0 = 1 := by rw [poly_coeff, if_pos hg.low]
  have hsplit := divX_mul_X_add (poly g)
  rw [hlow, C_1] at hsplit
  refine IsCoprime.pow_right ⟨1, -(poly g).divX, ?_⟩
  rw [one_mul, neg_mul]
  nth_rewrite 1 [← hsplit]
  ring

/-- No word of less than `period` bits that is a multiple has two terms. -/
theorem weight_ne_two (hg : Generates w g) (hw : 0 < w) {period : Nat}
    (hperiod : NoReturn w g period) {p : (ZMod 2)[X]} (h : poly g ∣ p) (hlt : p.degree < period) :
    weight p ≠ 2 := by
  intro htwo
  obtain ⟨k, m, hkm, x, y, hx, hy, rfl⟩ := card_support_eq_two.mp htwo
  obtain rfl := eq_one hx
  obtain rfl := eq_one hy
  rw [C_1, one_mul, one_mul] at h hlt
  have hm : m < period := by
    have hcoeff : ((X : (ZMod 2)[X]) ^ k + X ^ m).coeff m = 1 := by
      rw [coeff_add, coeff_X_pow, if_neg (by omega), coeff_X_pow_self, zero_add]
    by_contra hge
    rw [coeff_eq_zero_of_degree_lt (lt_of_lt_of_le hlt (by exact_mod_cast not_lt.mp hge))] at hcoeff
    exact zero_ne_one hcoeff
  -- the power that is left is one modulo the generator
  have hpower : poly g ∣ 1 + X ^ (m - k) := by
    refine (hg.isCoprime k).dvd_of_dvd_mul_left ?_
    rw [mul_add, mul_one, ← pow_add, Nat.add_sub_cancel' hkm.le]
    exact h
  have hiterate := dvd_mulX_iterate w g 1 (m - k)
  rw [poly_one, mul_one] at hiterate
  have hdvd : poly g ∣ poly (1 ^^^ (mulX w g)^[m - k] 1) := by
    rw [poly_xor, poly_one]
    have hsum := dvd_add hpower hiterate
    rwa [add_assoc, ← add_assoc (X ^ (m - k)), add_self, zero_add] at hsum
  have hone : 1 < 2 ^ w := Nat.one_lt_two_pow hw.ne'
  have hbelow : (poly (1 ^^^ (mulX w g)^[m - k] 1)).degree < (poly g).degree :=
    hg.degree_lt (Nat.xor_lt_two_pow hone (mulX_iterate_lt hg hone (m - k)))
  have hzero := poly_eq_zero_iff.mp (eq_zero_of_dvd_of_degree_lt hdvd hbelow)
  exact hperiod (m - k) (by omega) (by omega) (Nat.xor_eq_zero_iff.mp hzero).symm

/-- **The distance.** A word of the code with less than `period` bits that is not zero has four
terms at least. -/
theorem four_le_weight (hg : Generates w g) (hw : 0 < w) (hroot : (poly g).IsRoot 1) {period : Nat}
    (hperiod : NoReturn w g period) {p : (ZMod 2)[X]} (h : poly g ∣ p) (hlt : p.degree < period)
    (hp : p ≠ 0) : 4 ≤ weight p := by
  obtain ⟨n, hn⟩ := even_weight hroot h
  have hpos : 0 < weight p := Finset.card_pos.mpr (nonempty_support_iff.mpr hp)
  have htwo := weight_ne_two hg hw hperiod h hlt
  omega

/-! ## Words of symbols -/

/-- The polynomial of a list of symbols of `w` bits, the first of them at the top. -/
noncomputable def word (w : Nat) (ns : List Nat) : (ZMod 2)[X] :=
  ns.foldl (fun p n => p * X ^ w + poly n) 0

/-- A symbol more shifts the word. -/
theorem word_concat (w : Nat) (ns : List Nat) (n : Nat) :
    word w (ns ++ [n]) = word w ns * X ^ w + poly n := by
  rw [word, List.foldl_append]
  rfl

/-- The bits of a symbol that are set. -/
def ones (w n : Nat) : Nat := (List.range w).countP fun i => n.testBit i

/-- The weight counts the bits. -/
theorem weight_poly {n : Nat} (h : n < 2 ^ w) : weight (poly n) = ones w n := by
  have hsupport : (poly n).support = (Finset.range w).filter fun i => n.testBit i = true := by
    ext k
    rw [mem_support_iff, poly_coeff, Finset.mem_filter, Finset.mem_range]
    cases hbit : n.testBit k with
    | false => simp
    | true =>
      have hk : k < w := by
        by_contra hge
        rw [testBit_of_lt h (not_lt.mp hge)] at hbit
        exact absurd hbit Bool.false_ne_true
      simp [hk]
  rw [weight, hsupport, ones, List.countP_eq_length_filter, Finset.card_def, Finset.filter_val,
    Finset.range_val, Multiset.range, Multiset.filter_coe, Multiset.coe_card]
  simp

/-- Behind `w` free places there is room for a polynomial of as many terms. -/
theorem weight_append {p q : (ZMod 2)[X]} (hq : q.degree < w) :
    weight (p * X ^ w + q) = weight p + weight q := by
  have hhigh : ∀ k, w ≤ k → q.coeff k = 0 := (degree_lt_iff_coeff_zero q w).mp hq
  have hsupport : (p * X ^ w + q).support =
      (p.support.map (addRightEmbedding w)) ∪ q.support := by
    ext k
    simp only [mem_support_iff, coeff_add, coeff_mul_X_pow', Finset.mem_union, Finset.mem_map,
      addRightEmbedding_apply]
    by_cases hk : w ≤ k
    · rw [if_pos hk, hhigh k hk, add_zero]
      refine ⟨fun h => .inl ⟨k - w, h, Nat.sub_add_cancel hk⟩, ?_⟩
      rintro (⟨i, hi, rfl⟩ | h)
      · rwa [Nat.add_sub_cancel]
      · exact absurd rfl h
    · rw [if_neg hk, zero_add]
      refine ⟨.inr, ?_⟩
      rintro (⟨i, -, rfl⟩ | h)
      · exact absurd (Nat.le_add_left w i) hk
      · exact h
  have hdisjoint : Disjoint (p.support.map (addRightEmbedding w)) q.support := by
    rw [Finset.disjoint_left]
    intro k hk hkq
    obtain ⟨i, -, rfl⟩ := Finset.mem_map.mp hk
    exact mem_support_iff.mp hkq (hhigh _ (Nat.le_add_left w i))
  rw [weight, hsupport, Finset.card_union_of_disjoint hdisjoint, Finset.card_map]
  rfl

theorem append_degree_lt {p q : (ZMod 2)[X]} {m : Nat} (hp : p.degree < m) (hq : q.degree < w) :
    (p * X ^ w + q).degree < ((m + w : Nat) : WithBot Nat) := by
  have hhigh := (degree_lt_iff_coeff_zero _ _).mp hp
  have hlow := (degree_lt_iff_coeff_zero _ _).mp hq
  rw [degree_lt_iff_coeff_zero]
  intro k hk
  rw [coeff_add, coeff_mul_X_pow', if_pos (by omega), hhigh _ (by omega), hlow _ (by omega),
    add_zero]

/-- A word without weight is zero. -/
theorem eq_zero_of_weight {p : (ZMod 2)[X]} (h : weight p = 0) : p = 0 := card_support_eq_zero.mp h

/-- The symbols are of `w` bits. -/
def Symbols (w : Nat) (ns : List Nat) : Prop := ∀ n ∈ ns, n < 2 ^ w

/-- The weights of the symbols add up. -/
theorem word_weight {ns : List Nat} (h : Symbols w ns) :
    weight (word w ns) = (ns.map (ones w)).sum := by
  induction ns using List.reverseRecOn with
  | nil => rfl
  | append_singleton ns n ih =>
    have hn : n < 2 ^ w := h n (by simp)
    rw [word_concat, weight_append (poly_degree_lt hn), ih fun m hm => h m (by simp [hm]),
      weight_poly hn]
    simp

/-- A word is as long as its symbols. -/
theorem word_degree_lt {ns : List Nat} (h : Symbols w ns) :
    (word w ns).degree < (w * ns.length : Nat) := by
  induction ns using List.reverseRecOn with
  | nil => exact degree_zero.trans_lt (WithBot.bot_lt_coe _)
  | append_singleton ns n ih =>
    rw [word_concat, List.length_append, List.length_singleton, mul_add, mul_one]
    exact append_degree_lt (ih fun m hm => h m (by simp [hm])) (poly_degree_lt (h n (by simp)))

/-- Words of one length differ by a word. -/
theorem word_add : ∀ {ns ms : List Nat}, ns.length = ms.length →
    word w ns + word w ms = word w (ns.zipWith (· ^^^ ·) ms) := by
  intro ns
  induction ns using List.reverseRecOn with
  | nil =>
    intro ms h
    rw [List.length_eq_zero_iff.mp h.symm]
    exact zero_add _
  | append_singleton ns n ih =>
    intro ms h
    cases ms using List.reverseRecOn with
    | nil => exact absurd h (by simp)
    | append_singleton ms m =>
      have hlen : ns.length = ms.length := by simpa using h
      rw [List.zipWith_append hlen, List.zipWith_cons_cons, List.zipWith_nil_left, word_concat,
        word_concat, word_concat, ← ih hlen, poly_xor]
      ring

/-- The zero word has zero symbols only. -/
theorem word_eq_zero {ns : List Nat} (h : Symbols w ns) (hzero : word w ns = 0) :
    ∀ n ∈ ns, n = 0 := by
  have hsum : (ns.map (ones w)).sum = 0 := by
    rw [← word_weight h, hzero]
    rfl
  intro n hn
  have hones : ones w n = 0 :=
    Nat.eq_zero_of_le_zero (hsum ▸ List.single_le_sum (by simp) _ (List.mem_map_of_mem hn))
  rw [← weight_poly (h n hn)] at hones
  exact poly_eq_zero_iff.mp (eq_zero_of_weight hones)

end CyclicCodes
