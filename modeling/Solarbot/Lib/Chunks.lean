import Mathlib

/-!
# A stream that arrives in chunks

A stream is handed over chunk by chunk, and each chunk is worked through symbol by
symbol. A symbol can make the rest of its chunk be dropped (`step` returns `true`
with the new state; in a program, an exception that leaves the loop over the chunk).

Where nothing is dropped the chunks do not matter (`chunks_eq_chunk`). In general
the stream is followed one symbol at a time by `chunks_cons` and over a stretch that
drops nothing by `chunks_append`; both keep account of where the chunks end, in
terms of `leftover`: how much of its chunk is left after the `n`-th symbol.
-/

namespace Chunks

variable {σ α : Type*} {step : σ → α → σ × Bool}

/-- One chunk, up to a symbol that drops the rest of it. -/
def chunk (step : σ → α → σ × Bool) : σ → List α → σ
  | s, [] => s
  | s, a :: as => if (step s a).2 then (step s a).1 else chunk step (step s a).1 as

/-- The chunks, one after the other. -/
def chunks (step : σ → α → σ × Bool) (s : σ) (css : List (List α)) : σ :=
  css.foldl (chunk step) s

/-- How much of its chunk is left after the first `n` symbols, for chunks of these
lengths. -/
def leftover : List Nat → Nat → Nat
  | [], _ => 0
  | l :: ls, n => if n ≤ l then l - n else leftover ls (n - l)

theorem chunk_append (h : ∀ s a, (step s a).2 = false) (s : σ) (as bs : List α) :
    chunk step s (as ++ bs) = chunk step (chunk step s as) bs := by
  induction as generalizing s with
  | nil => rfl
  | cons a as ih => rw [List.cons_append, chunk, chunk, h s a, if_neg (by simp), if_neg (by simp), ih]

/-- Where no symbol drops anything, the chunks are as good as the whole stream. -/
theorem chunks_eq_chunk (h : ∀ s a, (step s a).2 = false) (s : σ) (css : List (List α)) :
    chunks step s css = chunk step s css.flatten := by
  induction css generalizing s with
  | nil => rfl
  | cons as css ih => rw [List.flatten_cons, chunk_append h, ← ih, chunks, List.foldl_cons, chunks]

/-- An empty stream does nothing, in however many chunks it comes. -/
theorem chunks_nil (s : σ) {css : List (List α)} (h : css.flatten = []) :
    chunks step s css = s := by
  induction css with
  | nil => rfl
  | cons as css ih =>
    rw [List.flatten_cons, List.append_eq_nil_iff] at h
    rw [chunks, List.foldl_cons, h.1]
    exact ih h.2

/-- **The next symbol.** It is the first of a chunk `a :: r`, of which `r` is left;
`rs` are the chunks behind. -/
theorem chunks_cons (s : σ) {css : List (List α)} {a : α} {as : List α}
    (h : css.flatten = a :: as) :
    ∃ r rs, r ++ rs.flatten = as ∧
      chunks step s css = chunks step (step s a).1 (if (step s a).2 then rs else r :: rs) ∧
      ∀ n, leftover (css.map List.length) (n + 1) = leftover ((r :: rs).map List.length) n := by
  induction css with
  | nil => exact absurd h (by simp)
  | cons c css ih =>
    cases c with
    | nil =>
      -- an empty chunk: the symbol is in one behind it
      obtain ⟨r, rs, hflat, hrun, hleft⟩ := ih h
      refine ⟨r, rs, hflat, hrun, ?_⟩
      intro n
      rw [← hleft n]
      simp [leftover]
    | cons b r =>
      rw [List.flatten_cons, List.cons_append, List.cons.injEq] at h
      obtain ⟨rfl, hflat⟩ := h
      refine ⟨r, css, hflat, ?_, fun n => ?_⟩
      · rw [chunks, List.foldl_cons, chunk]
        split <;> rfl
      · simp only [List.map_cons, List.length_cons, leftover, Nat.add_le_add_iff_right,
          Nat.add_sub_add_right]

/-- **A stretch that drops nothing.** `Q s as s'`: the symbols `as` take `s` to `s'`
without dropping anything. -/
inductive Quiet (step : σ → α → σ × Bool) : σ → List α → σ → Prop
  | nil (s : σ) : Quiet step s [] s
  | cons {s s' : σ} {a : α} {as : List α} (hstop : (step s a).2 = false)
      (h : Quiet step (step s a).1 as s') : Quiet step s (a :: as) s'

theorem chunks_append {s s' : σ} {as : List α} (hq : Quiet step s as s') {css : List (List α)}
    {bs : List α} (h : css.flatten = as ++ bs) :
    ∃ css', css'.flatten = bs ∧ chunks step s css = chunks step s' css' ∧
      ∀ n, leftover (css.map List.length) (as.length + n) = leftover (css'.map List.length) n := by
  induction hq generalizing css with
  | nil s =>
    refine ⟨css, h, rfl, ?_⟩
    intro n
    rw [List.length_nil, Nat.zero_add]
  | cons hstop _ ih =>
    obtain ⟨r, rs, hflat, hrun, hleft⟩ := chunks_cons _ h
    rw [hstop] at hrun
    obtain ⟨css', hflat', hrun', hleft'⟩ := @ih (r :: rs) hflat
    refine ⟨css', hflat', hrun.trans hrun', ?_⟩
    intro n
    rw [List.length_cons, Nat.add_right_comm, hleft, hleft']

/-- What is left of the first chunk of a list. -/
theorem leftover_zero (r : List α) (rs : List (List α)) :
    leftover ((r :: rs).map List.length) 0 = r.length := rfl

/-- Behind the first chunk of a list. -/
theorem leftover_skip (r : List α) (rs : List (List α)) {n : Nat} (hn : 0 < n) :
    leftover ((r :: rs).map List.length) (r.length + n) = leftover (rs.map List.length) n := by
  rw [List.map_cons, leftover, if_neg (by omega), Nat.add_sub_cancel_left]

/-- Where all the chunks are multiples of `d` long, they end at multiples of `d`. -/
theorem dvd_add_leftover {d : Nat} {ls : List Nat} (h : ∀ l ∈ ls, d ∣ l) {n : Nat}
    (hn : n ≤ ls.sum) : d ∣ n + leftover ls n := by
  induction ls generalizing n with
  | nil =>
    have hn0 : n = 0 := Nat.le_zero.mp hn
    rw [hn0]
    exact Nat.dvd_zero d
  | cons l ls ih =>
    obtain ⟨hl, hls⟩ := List.forall_mem_cons.mp h
    rw [List.sum_cons] at hn
    unfold leftover
    split
    · rwa [Nat.add_sub_cancel' (by assumption)]
    · have := Nat.dvd_add hl (@ih hls (n - l) (by omega))
      rwa [← Nat.add_assoc, Nat.add_sub_cancel' (by omega)] at this

end Chunks
