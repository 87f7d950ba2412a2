import Mathlib.Data.List.Basic
import Mathlib.Data.Nat.ModEq

/-!
# Bounded queues, and a ring of slots that holds one

`Bounded α cap` is a first-in first-out queue with room for `cap` items.

`window` is how a ring of `n` slots holds a row of items: the first one at the slot
`tail % n`, each further one at the next slot. The counter may be any number with the
right remainder (`window_congr`), so it may be one that runs freely and wraps. The other
lemmas are the three things that happen to a row: an item is put behind it
(`window_set`), it is cut (`window_add`), and its first item is read (`window_cons`).
-/

namespace Queues

/-! ## The queue -/

/-- A queue, the oldest item first. -/
@[ext] structure Bounded (α : Type*) (cap : Nat) where
  items : List α
  fits : items.length ≤ cap

namespace Bounded

variable {α : Type*} {cap : Nat}

def empty : Bounded α cap := ⟨[], Nat.zero_le _⟩

/-- An item goes behind the others, while there is room. -/
def put (q : Bounded α cap) (item : α) : Bounded α cap × Bool :=
  if h : q.items.length < cap then
    (⟨q.items ++ [item], by rw [List.length_append]; exact h⟩, true)
  else (q, false)

/-- The oldest items leave. -/
def drop (q : Bounded α cap) (n : Nat) : Bounded α cap :=
  ⟨q.items.drop n, by rw [List.length_drop]; exact (Nat.sub_le _ _).trans q.fits⟩

@[simp] theorem drop_items (q : Bounded α cap) (n : Nat) : (q.drop n).items = q.items.drop n := rfl

theorem drop_zero (q : Bounded α cap) : q.drop 0 = q := rfl

theorem drop_drop (q : Bounded α cap) (m n : Nat) : (q.drop m).drop n = q.drop (m + n) :=
  Bounded.ext List.drop_drop

end Bounded

/-! ## The ring -/

section Ring

variable {α : Type*} {n : Nat} [NeZero n]

/-- The slot a counter stands for. -/
def slot (n : Nat) [NeZero n] (i : Nat) : Fin n := Fin.ofNat n i

/-- A place depends on the counter modulo the size. -/
theorem slot_congr {i j : Nat} (h : i ≡ j [MOD n]) : slot n i = slot n j :=
  Fin.ext h

/-- Counters less than a round apart stand for different slots. -/
theorem slot_ne {tail i j : Nat} (hij : i < j) (hj : j < n) : slot n (tail + i) ≠ slot n (tail + j) := by
  intro h
  have hmod : tail + i ≡ tail + j [MOD n] := congrArg Fin.val h
  have hsame : i ≡ j [MOD n] := Nat.ModEq.add_left_cancel' tail hmod
  rw [Nat.ModEq, Nat.mod_eq_of_lt (hij.trans hj), Nat.mod_eq_of_lt hj] at hsame
  exact absurd hsame (Nat.ne_of_lt hij)

variable (buf : Vector α n)

/-- The row of `count` items that begins at the slot of `tail`. -/
def window (tail count : Nat) : List α := (List.range count).map fun i => buf.get (slot n (tail + i))

@[simp] theorem window_zero (tail : Nat) : window buf tail 0 = [] := rfl

/-- A window has as many items as it is long. -/
@[simp] theorem length_window (tail count : Nat) : (window buf tail count).length = count := by
  rw [window, List.length_map, List.length_range]

/-- It depends on where it begins modulo the size. -/
theorem window_congr {tail tail' : Nat} (h : tail ≡ tail' [MOD n]) (count : Nat) :
    window buf tail count = window buf tail' count := by
  refine List.map_congr_left ?_
  intro i _
  rw [slot_congr (h.add_right i)]

/-- A row is cut into its front and the rest. -/
theorem window_add (tail k m : Nat) :
    window buf tail (k + m) = window buf tail k ++ window buf (tail + k) m := by
  unfold window
  rw [List.range_add, List.map_append, List.map_map]
  congr 1
  refine List.map_congr_left ?_
  intro i _
  rw [Function.comp_apply, Nat.add_assoc]

/-- Its first item, and the others. -/
theorem window_cons (tail count : Nat) :
    window buf tail (count + 1) = buf.get (slot n tail) :: window buf (tail + 1) count := by
  rw [Nat.add_comm, window_add]
  rfl

/-- The slot behind a row that does not fill the ring is free for one more item. -/
theorem window_set {tail count : Nat} (hcount : count < n) (item : α) :
    window (buf.set (slot n (tail + count)) item) tail (count + 1) =
      window buf tail count ++ [item] := by
  rw [window_add]
  congr 1
  · refine List.map_congr_left ?_
    intro i hi
    have hne : slot n (tail + i) ≠ slot n (tail + count) := slot_ne (List.mem_range.mp hi) hcount
    exact Vector.getElem_set_ne _ _ fun h => hne (Fin.ext h.symm)
  · exact congrArg (fun a => [a]) (Vector.getElem_set_self _)

end Ring

end Queues
