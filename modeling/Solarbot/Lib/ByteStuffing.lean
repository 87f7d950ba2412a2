import Mathlib.Data.List.Basic
import Mathlib.Tactic.Common

/-!
# Byte stuffing over a byte-at-a-time receiver

A framed byte link reserves one byte value as the *flag* that starts a frame and
one as the *escape*; a payload byte that collides with either is sent as the
escape followed by the byte xored with a *mask*. `Code` holds the three values
with the side conditions that make this unambiguous, so they are never proved
again; `stuff` is the encoder of one byte.

A receiver is a function of one byte on a state, with an output a byte (`feed`).
`feed_stuff` is the one fact about stuffing a receiver proof needs: whatever the
receiver does with a byte once unescaped (`store`), it does exactly that on the
one or two wire bytes of `stuff`. `feed_stuffAll` is its fold. `feed_unstuff` says
what a receiver makes of *any* bytes between two flags, well stuffed or not.
-/

namespace ByteStuffing

/-! ## Receivers -/

section Feed

variable {σ α β : Type*}

/-- Feed a list of symbols to a receiver: the state after them, and the output
at each. -/
def feed (step : σ → α → σ × β) : σ → List α → σ × List β
  | s, [] => (s, [])
  | s, a :: as =>
    let r := step s a
    let t := feed step r.1 as
    (t.1, r.2 :: t.2)

@[simp] theorem feed_nil (step : σ → α → σ × β) (s : σ) : feed step s [] = (s, []) := rfl

/-- The first byte, and the others. -/
theorem feed_cons (step : σ → α → σ × β) (s : σ) (a : α) (as : List α) :
    feed step s (a :: as)
      = ((feed step (step s a).1 as).1, (step s a).2 :: (feed step (step s a).1 as).2) := rfl

theorem feed_singleton (step : σ → α → σ × β) (s : σ) (a : α) :
    feed step s [a] = ((step s a).1, [(step s a).2]) := rfl

/-- The state carries across a cut of the input, and the outputs concatenate. -/
theorem feed_append (step : σ → α → σ × β) (s : σ) (as bs : List α) :
    feed step s (as ++ bs)
      = ((feed step (feed step s as).1 bs).1,
          (feed step s as).2 ++ (feed step (feed step s as).1 bs).2) := by
  induction as generalizing s with
  | nil => rfl
  | cons a as ih =>
    rw [List.cons_append, feed_cons, ih, feed_cons]
    rfl

/-- There is one output a symbol. -/
theorem feed_length (step : σ → α → σ × β) (s : σ) (as : List α) :
    (feed step s as).2.length = as.length := by
  induction as generalizing s with
  | nil => rfl
  | cons a as ih => rw [feed_cons, List.length_cons, ih, List.length_cons]

/-- The last output is the last output of a non-empty tail of the input. -/
theorem feed_getLast? (step : σ → α → σ × β) (s : σ) (as : List α) {bs : List α} (hbs : bs ≠ []) :
    (feed step s (as ++ bs)).2.getLast? = (feed step (feed step s as).1 bs).2.getLast? := by
  rw [feed_append]
  apply List.getLast?_append_of_ne_nil
  intro hnil
  have hlen := feed_length step (feed step s as).1 bs
  rw [hnil] at hlen
  exact hbs (List.length_eq_zero_iff.mp hlen.symm)

/-- What every admissible symbol preserves holds after any list of them. -/
theorem feed_invariant {step : σ → α → σ × β} {I : σ → Prop} {P : α → Prop}
    (hstep : ∀ s a, I s → P a → I (step s a).1) :
    ∀ {as : List α} {s : σ}, (∀ a ∈ as, P a) → I s → I (feed step s as).1
  | [], _, _, hs => hs
  | a :: as, s, hP, hs => by
    rw [feed_cons]
    exact feed_invariant hstep (fun b hb => hP b (List.mem_cons_of_mem _ hb))
      (hstep s a hs (hP a (List.mem_cons_self ..)))

/-- What every admissible symbol makes the receiver say under an invariant, it
says throughout. -/
theorem feed_outputs {step : σ → α → σ × β} {I : σ → Prop} {P : α → Prop} {Q : β → Prop}
    (hstep : ∀ s a, I s → P a → I (step s a).1) (hout : ∀ s a, I s → P a → Q (step s a).2) :
    ∀ {as : List α} {s : σ}, (∀ a ∈ as, P a) → I s → ∀ o ∈ (feed step s as).2, Q o
  | [], _, _, _, _, ho => absurd ho (List.not_mem_nil)
  | a :: as, s, hP, hs, o, ho => by
    have ha := hP a (List.mem_cons_self ..)
    rw [feed_cons] at ho
    rcases List.mem_cons.mp ho with rfl | ho'
    · exact hout s a hs ha
    · exact feed_outputs hstep hout (fun b hb => hP b (List.mem_cons_of_mem _ hb))
        (hstep s a hs ha) o ho'

/-- A receiver in a state that every admissible symbol leaves alone, at a fixed
output. -/
theorem feed_idle {step : σ → α → σ × β} {s : σ} {o : β} {P : α → Prop}
    (hstep : ∀ a, P a → step s a = (s, o)) :
    ∀ {as : List α}, (∀ a ∈ as, P a) → feed step s as = (s, List.replicate as.length o)
  | [], _ => rfl
  | a :: as, hP => by
    rw [feed_cons, hstep a (hP a (List.mem_cons_self ..)),
      feed_idle hstep fun b hb => hP b (List.mem_cons_of_mem _ hb)]
    rfl

/-- Two receivers that answer alike wherever their states are related, and stay related,
give the same outputs on any input. -/
theorem feed_simulates {τ : Type*} {step : σ → α → σ × β} {step' : τ → α → τ × β}
    {R : σ → τ → Prop}
    (hstep : ∀ s t a, R s t → R (step s a).1 (step' t a).1 ∧ (step s a).2 = (step' t a).2) :
    ∀ (as : List α) {s : σ} {t : τ}, R s t →
      R (feed step s as).1 (feed step' t as).1 ∧ (feed step s as).2 = (feed step' t as).2
  | [], _, _, h => ⟨h, rfl⟩
  | a :: as, s, t, h => by
    obtain ⟨hR, hout⟩ := hstep s t a h
    obtain ⟨hend, houts⟩ := feed_simulates hstep as hR
    rw [feed_cons, feed_cons, hout, houts]
    exact ⟨hend, rfl⟩

end Feed

/-! ## The code -/

/-- The reserved bytes of a link. An escaped byte is neither of them. -/
structure Code where
  flag : UInt8
  esc : UInt8
  mask : UInt8
  esc_ne : esc ≠ flag
  flag_masked : flag ^^^ mask ≠ flag ∧ flag ^^^ mask ≠ esc
  esc_masked : esc ^^^ mask ≠ flag ∧ esc ^^^ mask ≠ esc

variable (c : Code)

/-- The bytes that must be escaped. -/
def Code.Reserved (b : UInt8) : Prop := b = c.flag ∨ b = c.esc

instance (b : UInt8) : Decidable (c.Reserved b) := inferInstanceAs (Decidable (_ ∨ _))

/-- One byte on the wire. -/
def stuff (b : UInt8) : List UInt8 :=
  if c.Reserved b then [c.esc, b ^^^ c.mask] else [b]

/-- A list of bytes on the wire. -/
def stuffAll (bs : List UInt8) : List UInt8 := bs.flatMap (stuff c)

@[simp] theorem stuffAll_nil : stuffAll c [] = [] := rfl

theorem stuffAll_cons (b : UInt8) (bs : List UInt8) :
    stuffAll c (b :: bs) = stuff c b ++ stuffAll c bs := by
  simp [stuffAll]

/-- Bytes are stuffed one by one. -/
theorem stuffAll_append (as bs : List UInt8) :
    stuffAll c (as ++ bs) = stuffAll c as ++ stuffAll c bs := by
  simp [stuffAll]

/-- Masking twice gives the byte back. -/
theorem mask_mask (b : UInt8) : (b ^^^ c.mask) ^^^ c.mask = b := by
  rw [UInt8.xor_assoc, UInt8.xor_self, UInt8.xor_zero]

/-- A masked reserved byte is not reserved. -/
theorem not_reserved_masked {b : UInt8} (h : c.Reserved b) : ¬ c.Reserved (b ^^^ c.mask) := by
  rcases h with rfl | rfl
  · exact fun h => h.elim c.flag_masked.1 c.flag_masked.2
  · exact fun h => h.elim c.esc_masked.1 c.esc_masked.2

/-- The flag never occurs in stuffed bytes. -/
theorem flag_notMem_stuff (b : UInt8) : c.flag ∉ stuff c b := by
  unfold stuff
  split
  next h =>
    simp only [List.mem_cons, List.not_mem_nil, or_false, not_or]
    exact ⟨c.esc_ne.symm, fun he => not_reserved_masked c h (Or.inl he.symm)⟩
  next h => simpa using fun he => h (Or.inl he.symm)

/-- No flag is left among stuffed bytes. -/
theorem flag_notMem_stuffAll (bs : List UInt8) : c.flag ∉ stuffAll c bs := by
  unfold stuffAll
  rw [List.mem_flatMap]
  intro hmem
  obtain ⟨b, -, hb⟩ := hmem
  exact flag_notMem_stuff c b hb

theorem stuffAll_flatten (bss : List (List UInt8)) :
    stuffAll c bss.flatten = (bss.map (stuffAll c)).flatten := by
  induction bss with
  | nil => rfl
  | cons bs bss ih => rw [List.flatten_cons, stuffAll_append, ih, List.map_cons, List.flatten_cons]

/-- Stuffed bytes do not end in the escape: the last stuffed byte is whole. -/
theorem esc_ne_getLast_stuffAll (bs : List UInt8) : (stuffAll c bs).getLast? ≠ some c.esc := by
  induction bs with
  | nil => simp
  | cons b bs ih =>
    rw [stuffAll_cons]
    by_cases hnil : stuffAll c bs = []
    · rw [hnil, List.append_nil]
      unfold stuff
      split
      next hb =>
        intro h
        exact not_reserved_masked c hb (.inr (Option.some.inj h))
      next hb =>
        intro h
        exact hb (.inr (Option.some.inj h))
    · rw [List.getLast?_append_of_ne_nil _ hnil]
      exact ih

/-- A byte takes one byte or two. -/
theorem stuff_length (b : UInt8) : 1 ≤ (stuff c b).length ∧ (stuff c b).length ≤ 2 := by
  unfold stuff
  split <;> simp

/-- Stuffing doubles the length, less one byte for each that needs no escape. -/
theorem stuffAll_length (bs : List UInt8) :
    (stuffAll c bs).length + bs.countP (¬ c.Reserved ·) = 2 * bs.length := by
  induction bs with
  | nil => rfl
  | cons b bs ih =>
    rw [stuffAll_cons, List.length_append, List.countP_cons, List.length_cons]
    unfold stuff
    by_cases hb : c.Reserved b
    · simp only [hb, if_true, List.length_cons, List.length_nil]
      simp only [not_true_eq_false, decide_false, Bool.false_eq_true, if_false]
      omega
    · simp only [hb, if_false, List.length_cons, List.length_nil]
      simp only [not_false_eq_true, decide_true, if_true]
      omega

/-- Stuffing at most doubles the length. -/
theorem stuffAll_length_le (bs : List UInt8) : (stuffAll c bs).length ≤ 2 * bs.length := by
  have hlen := stuffAll_length c bs
  omega

/-- Stuffing does not shorten. -/
theorem length_le_stuffAll (bs : List UInt8) : bs.length ≤ (stuffAll c bs).length := by
  have hlen := stuffAll_length c bs
  have hplain : bs.countP (¬ c.Reserved ·) ≤ bs.length := List.countP_le_length
  omega

/-! ## Unstuffing -/

/-- The bytes that wire bytes without a flag stand for, and whether an escape is
pending behind them; `pending` says whether one is before them. Of several escapes in
a row the last one counts. -/
def unstuff : Bool → List UInt8 → List UInt8 × Bool
  | pending, [] => ([], pending)
  | pending, b :: bs =>
    if b = c.esc then unstuff true bs
    else ((if pending then b ^^^ c.mask else b) :: (unstuff false bs).1, (unstuff false bs).2)

/-- An escape waits for the next byte. -/
theorem unstuff_esc (pending : Bool) (bs : List UInt8) :
    unstuff c pending (c.esc :: bs) = unstuff c true bs := by
  rw [unstuff, if_pos rfl]

/-- Any other byte is taken, with the mask behind an escape. -/
theorem unstuff_cons {b : UInt8} (hb : b ≠ c.esc) (pending : Bool) (bs : List UInt8) :
    unstuff c pending (b :: bs) =
      ((if pending then b ^^^ c.mask else b) :: (unstuff c false bs).1,
        (unstuff c false bs).2) := by
  rw [unstuff, if_neg hb]

/-- The wire is unstuffed from left to right. -/
theorem unstuff_append (pending : Bool) (as bs : List UInt8) :
    unstuff c pending (as ++ bs) =
      ((unstuff c pending as).1 ++ (unstuff c (unstuff c pending as).2 bs).1,
        (unstuff c (unstuff c pending as).2 bs).2) := by
  induction as generalizing pending with
  | nil => rfl
  | cons a as ih =>
    rw [List.cons_append]
    by_cases ha : a = c.esc
    · rw [ha, unstuff_esc, unstuff_esc, ih]
    · rw [unstuff_cons c ha, unstuff_cons c ha, ih]
      rfl

/-- Unstuffing gives the stuffed bytes back. -/
theorem unstuff_stuffAll (bs : List UInt8) : unstuff c false (stuffAll c bs) = (bs, false) := by
  induction bs with
  | nil => rfl
  | cons b bs ih =>
    rw [stuffAll_cons]
    unfold stuff
    split
    next hb =>
      have hmasked : b ^^^ c.mask ≠ c.esc := fun h => not_reserved_masked c hb (.inr h)
      rw [List.cons_append, List.cons_append, List.nil_append, unstuff_esc,
        unstuff_cons c hmasked, if_pos rfl, mask_mask, ih]
    next hb =>
      have hplain : b ≠ c.esc := fun h => hb (.inr h)
      rw [List.cons_append, List.nil_append, unstuff_cons c hplain, if_neg (by decide), ih]

/-- The bytes behind the last flag, if there is one. -/
def sinceFlag : List UInt8 → Option (List UInt8)
  | [] => none
  | b :: bs => (sinceFlag bs).orElse fun _ => if b = c.flag then some bs else none

/-- A byte that is not a flag comes behind the same one. -/
theorem sinceFlag_append_singleton {b : UInt8} (hb : b ≠ c.flag) (bs : List UInt8) :
    sinceFlag c (bs ++ [b]) = (sinceFlag c bs).map (· ++ [b]) := by
  induction bs with
  | nil =>
    show (sinceFlag c []).orElse (fun _ => if b = c.flag then some [] else none) = _
    rw [if_neg hb]
    rfl
  | cons a bs ih =>
    rw [List.cons_append, sinceFlag, sinceFlag, ih]
    cases sinceFlag c bs with
    | some after => rfl
    | none =>
      show (if a = c.flag then some (bs ++ [b]) else none) = _
      by_cases ha : a = c.flag
      · rw [if_pos ha]
        show _ = Option.map (· ++ [b]) (if a = c.flag then some bs else none)
        rw [if_pos ha]
        rfl
      · rw [if_neg ha]
        show _ = Option.map (· ++ [b]) (if a = c.flag then some bs else none)
        rw [if_neg ha]
        rfl

/-- Without a last flag there is none. -/
theorem notMem_of_sinceFlag {bs : List UInt8} (h : sinceFlag c bs = none) : c.flag ∉ bs := by
  induction bs with
  | nil => simp
  | cons b bs ih =>
    rw [sinceFlag] at h
    cases hbs : sinceFlag c bs with
    | some after =>
      rw [hbs] at h
      exact absurd h (by simp)
    | none =>
      rw [hbs] at h
      have h : (if b = c.flag then some bs else none) = none := h
      split at h
      next => exact absurd h (by simp)
      next hb => exact fun hmem => (List.mem_cons.mp hmem).elim (fun he => hb he.symm) (ih hbs)

/-- Behind the last flag there is no other. -/
theorem sinceFlag_spec {bs after : List UInt8} (h : sinceFlag c bs = some after) :
    c.flag ∉ after ∧ ∃ before, bs = before ++ c.flag :: after := by
  induction bs with
  | nil => exact absurd h (by simp [sinceFlag])
  | cons b bs ih =>
    rw [sinceFlag] at h
    cases hbs : sinceFlag c bs with
    | some after' =>
      rw [hbs] at h
      obtain rfl : after' = after := Option.some.inj h
      obtain ⟨hflag, before, hbefore⟩ := ih hbs
      exact ⟨hflag, b :: before, by rw [hbefore]; rfl⟩
    | none =>
      rw [hbs] at h
      have h : (if b = c.flag then some bs else none) = some after := h
      split at h
      next hb =>
        obtain rfl : bs = after := Option.some.inj h
        exact ⟨notMem_of_sinceFlag c hbs, [], by rw [hb]; rfl⟩
      next => exact absurd h (by simp)

/-! ## Receiving stuffed bytes -/

section Receive

variable {σ β : Type*}

/-- What it is for a receiver to unescape in the state `s`: on the escape it
arms itself and says `idle`; the next byte is unmasked and stored; an unreserved
byte is stored as it is. -/
structure Unescapes (step : σ → UInt8 → σ × β) (store : σ → UInt8 → σ × β)
    (arm : σ → σ) (idle : β) (s : σ) : Prop where
  esc : step s c.esc = (arm s, idle)
  armed : ∀ a, ¬ c.Reserved a → step (arm s) a = store s (a ^^^ c.mask)
  plain : ∀ a, ¬ c.Reserved a → step s a = store s a

variable {c} {step store : σ → UInt8 → σ × β} {arm : σ → σ} {idle : β} {s : σ}

/-- A stuffed byte has the effect of storing the byte, and says nothing before
its last wire byte. -/
theorem feed_stuff (h : Unescapes c step store arm idle s) (b : UInt8) :
    feed step s (stuff c b)
      = ((store s b).1, List.replicate ((stuff c b).length - 1) idle ++ [(store s b).2]) := by
  unfold stuff
  split
  next hb =>
    rw [feed_cons, h.esc, feed_singleton, h.armed _ (not_reserved_masked c hb), mask_mask]
    rfl
  next hb =>
    rw [feed_singleton, h.plain b hb]
    rfl

/-- Stuffed bytes that are stored silently leave the state of storing them one
by one. -/
theorem feed_stuffAll {J : ℕ → σ → Prop} (bs : List UInt8)
    (hun : ∀ k s, k < bs.length → J k s → Unescapes c step store arm idle s)
    (hst : ∀ k s (hk : k < bs.length), J k s → (store s bs[k]).2 = idle ∧ J (k + 1) (store s bs[k]).1)
    (h0 : J 0 s) :
    J bs.length (feed step s (stuffAll c bs)).1 ∧
      (feed step s (stuffAll c bs)).2 = List.replicate (stuffAll c bs).length idle := by
  induction bs generalizing s J with
  | nil => exact ⟨h0, rfl⟩
  | cons b bs ih =>
    obtain ⟨hidle, h1⟩ := hst 0 s (by simp) h0
    have hb := feed_stuff (hun 0 s (by simp) h0) b
    have hrest := ih (J := fun k => J (k + 1))
      (fun k s hk => hun (k + 1) s (by simpa using hk))
      (fun k s hk => hst (k + 1) s (by simpa using hk)) h1
    rw [List.getElem_cons_zero] at hidle hrest
    rw [stuffAll_cons, feed_append, hb]
    refine ⟨hrest.1, ?_⟩
    rw [hrest.2, hidle, List.length_append, ← List.replicate_succ', List.replicate_append_replicate,
      Nat.sub_add_cancel (stuff_length c b).1]

/-- A receiver with an escape pending, or without. -/
def armed (arm : σ → σ) (pending : Bool) (s : σ) : σ := if pending then arm s else s

/-- **What a receiver makes of any bytes without a flag**: it stores what they stand
for, and is left with an escape pending when they end in one. -/
theorem feed_unstuff {J : σ → Prop} (hun : ∀ s, J s → Unescapes c step store arm idle s)
    (hrearm : ∀ s, J s → step (arm s) c.esc = (arm s, idle))
    (hstore : ∀ s b, J s → J (store s b).1) {bs : List UInt8} (hflag : c.flag ∉ bs)
    (hs : J s) (pending : Bool) :
    (feed step (armed arm pending s) bs).1 =
      armed arm (unstuff c pending bs).2 (feed store s (unstuff c pending bs).1).1 := by
  induction bs generalizing s pending with
  | nil => rfl
  | cons b bs ih =>
    have hne : b ≠ c.flag := fun h => hflag (h ▸ List.mem_cons_self ..)
    have hrest : c.flag ∉ bs := fun h => hflag (List.mem_cons_of_mem _ h)
    by_cases hb : b = c.esc
    · have hstep : step (armed arm pending s) b = (armed arm true s, idle) := by
        rw [hb]
        cases pending with
        | true => exact hrearm s hs
        | false => exact (hun s hs).esc
      rw [feed_cons, hstep, hb, unstuff_esc]
      exact ih hrest hs true
    · have hplain : ¬ c.Reserved b := fun h => h.elim hne hb
      have hstep : step (armed arm pending s) b =
          store s (if pending then b ^^^ c.mask else b) := by
        cases pending with
        | true => exact (hun s hs).armed b hplain
        | false => exact (hun s hs).plain b hplain
      rw [feed_cons, hstep, unstuff_cons c hb, feed_cons]
      exact ih hrest (hstore s _ hs) false

end Receive

end ByteStuffing
