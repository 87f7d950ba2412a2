import Solarbot.Lib.ByteStuffing
import Solarbot.Lib.Queues

/-!
# `Fast512BytesCircularBuffer`

A ring of 512 bytes with two `size_t` counters that run freely and are masked when a
slot is accessed. `full` compares the masked counters, `empty` and `len` the counters
themselves. `Holds` says that a buffer holds a queue of at most 511 bytes; every
call keeps it, whatever the counters are, for `2 ^ 64` is a multiple of 512.

Mirroring notes vs `Fast512BytesCircularBuffer.cpp`:
- Each call is one step; the mutex, which is taken behind the tests, has no part in it.
- `get` returns the byte it stores in `*item`, and `fillBuffer` the bytes it
  stores in `buff`, beside its result.
- `fillBuffer` stores `len()` in an `int`.
-/

namespace Solarbot.CircularBuffer

open Queues

/-- `Fast512BytesCircularBuffer_SIZE`. -/
abbrev size : Nat := 512

/-- `Fast512BytesCircularBuffer_MASK`. -/
def mask : UInt64 := UInt64.ofNat (size - 1)

/-- The mask takes the rest modulo the size. -/
theorem mask_toNat (i : UInt64) : (i &&& mask).toNat = i.toNat % size := by
  rw [UInt64.toNat_and]
  exact Nat.and_two_pow_sub_one_eq_mod i.toNat 9

structure Fast512BytesCircularBuffer where
  buf : Vector UInt8 size
  head : UInt64
  tail : UInt64

namespace Fast512BytesCircularBuffer

/-- A newly constructed one, on what the memory held. -/
def new (buf : Vector UInt8 size) : Fast512BytesCircularBuffer := { buf, head := 0, tail := 0 }

/-- The index `i & MASK` of `buf_`. -/
def slotOf (i : UInt64) : Fin size :=
  ⟨(i &&& mask).toNat, by rw [mask_toNat]; exact Nat.mod_lt _ (by decide)⟩

variable (b : Fast512BytesCircularBuffer)

def empty : Bool := b.head == b.tail

def full : Bool := (b.head + 1) &&& mask == b.tail &&& mask

def len : UInt64 := b.head - b.tail

def put (item : UInt8) : Fast512BytesCircularBuffer × Bool :=
  if b.full then (b, false)
  else ({ b with buf := b.buf.set (slotOf b.head) item, head := b.head + 1 }, true)

/-- `buf_[(tail_++) & MASK]`. -/
def next : Fast512BytesCircularBuffer × UInt8 := ({ b with tail := b.tail + 1 }, b.buf.get (slotOf b.tail))

def get : Fast512BytesCircularBuffer × Option UInt8 :=
  if b.empty then (b, none) else (b.next.1, some b.next.2)

/-- The loop of `fillBuffer`, for `i` from `c` rounds on. -/
def fillLoop (b : Fast512BytesCircularBuffer) : Nat → Fast512BytesCircularBuffer × List UInt8
  | 0 => (b, [])
  | c + 1 =>
    let (b', rest) := b.next.1.fillLoop c
    (b', b.next.2 :: rest)

def fillBuffer (length : Int) : Fast512BytesCircularBuffer × List UInt8 × Int :=
  let c : Int := b.len.toUInt32.toInt32.toInt
  if 0 < c then
    let c := if length < c then length else c
    let (b, buff) := b.fillLoop c.toNat
    (b, buff, c)
  else (b, [], c)

def reset : Fast512BytesCircularBuffer := { b with head := b.tail }

end Fast512BytesCircularBuffer

inductive Call
  | put (item : UInt8)
  | get
  | fillBuffer (length : Nat)
  | reset
  deriving DecidableEq, Repr

/-- What a call returns and stores for its caller. -/
inductive Answer
  | put (ok : Bool)
  | get (item : Option UInt8)
  | fillBuffer (buff : List UInt8) (c : Int)
  | reset
  deriving DecidableEq, Repr

def Fast512BytesCircularBuffer.call (b : Fast512BytesCircularBuffer) :
    Call → Fast512BytesCircularBuffer × Answer
  | .put item => ((b.put item).1, .put (b.put item).2)
  | .get => (b.get.1, .get b.get.2)
  | .fillBuffer length =>
    let (b, buff, c) := b.fillBuffer length
    (b, .fillBuffer buff c)
  | .reset => (b.reset, .reset)

/-! ## What the buffer is for -/

/-- The queue a buffer should behave as. One of the 512 slots always stays free. -/
abbrev Queue : Type := Bounded UInt8 511

def Queue.call (q : Queue) : Call → Queue × Answer
  | .put item => ((q.put item).1, .put (q.put item).2)
  | .get => (q.drop 1, .get q.items.head?)
  | .fillBuffer length =>
    (q.drop length, .fillBuffer (q.items.take length) (q.items.take length).length)
  | .reset => (.empty, .reset)

/-- The slots from `tail` to `head` have the items of the queue. -/
structure Holds (b : Fast512BytesCircularBuffer) (q : Queue) : Prop where
  len : b.len.toNat = q.items.length
  items : window b.buf b.tail.toNat q.items.length = q.items

namespace Fast512BytesCircularBuffer

variable {b : Fast512BytesCircularBuffer} {q : Queue}

/-! ## The counters -/

theorem slotOf_eq (i : UInt64) : slotOf i = slot size i.toNat := Fin.ext (mask_toNat i)

/-- A counter that wraps stays where it is on the ring. -/
theorem wrap_modEq (k : Nat) : k % 2 ^ 64 ≡ k [MOD size] :=
  Nat.mod_mod_of_dvd k ⟨2 ^ 55, by decide⟩

/-- A counter that wraps goes on modulo the size. -/
theorem succ_modEq (i : UInt64) : (i + 1).toNat ≡ i.toNat + 1 [MOD size] := by
  rw [UInt64.toNat_add]
  exact wrap_modEq _

/-- The head is as far in front of the tail as there are items. -/
theorem head_eq (h : Holds b q) : b.head.toNat = (b.tail.toNat + q.items.length) % 2 ^ 64 := by
  have hlen := h.len
  rw [Fast512BytesCircularBuffer.len, UInt64.toNat_sub] at hlen
  have hhead := b.head.toNat_lt
  have htail := b.tail.toNat_lt
  omega

/-- `head` is at the slot behind the queue. -/
theorem head_modEq (h : Holds b q) : b.head.toNat ≡ b.tail.toNat + q.items.length [MOD size] := by
  rw [head_eq h]
  exact wrap_modEq _

/-- `empty` tells whether there are items. -/
theorem empty_iff (h : Holds b q) : b.empty = true ↔ q.items.length = 0 := by
  have hhead := head_eq h
  have hfits : q.items.length ≤ 511 := q.fits
  have htail := b.tail.toNat_lt
  rw [empty, beq_iff_eq, ← UInt64.toNat_inj]
  omega

/-- The masked counters agree in the same states in which 511 bytes are stored. -/
theorem full_iff (h : Holds b q) : b.full = true ↔ q.items.length = 511 := by
  have hsucc : (b.head + 1).toNat % 512 = (b.tail.toNat + (q.items.length + 1)) % 512 :=
    (succ_modEq b.head).trans ((head_modEq h).add_right 1)
  have hfits : q.items.length ≤ 511 := q.fits
  rw [full, beq_iff_eq, ← UInt64.toNat_inj, mask_toNat, mask_toNat, hsucc]
  show _ = b.tail.toNat % 512 ↔ _
  omega

/-! ## One call -/

/-- **`put`** is the queue's. -/
theorem put_holds (h : Holds b q) (item : UInt8) :
    Holds (b.put item).1 (q.put item).1 ∧ (b.put item).2 = (q.put item).2 := by
  by_cases hroom : q.items.length < 511
  · have hslot : slotOf b.head = slot size (b.tail.toNat + q.items.length) := by
      rw [slotOf_eq]
      exact slot_congr (head_modEq h)
    have hfull : ¬ b.full = true := fun hf => absurd ((full_iff h).mp hf) (by omega)
    rw [put, if_neg hfull, Bounded.put, dif_pos hroom]
    refine ⟨⟨?_, ?_⟩, rfl⟩
    · have hlen := h.len
      show (b.head + 1 - b.tail).toNat = (q.items ++ [item]).length
      rw [len, UInt64.toNat_sub] at hlen
      rw [UInt64.toNat_sub, UInt64.toNat_add, List.length_append, List.length_singleton,
        UInt64.toNat_one]
      omega
    · show window (b.buf.set (slotOf b.head) item) b.tail.toNat (q.items ++ [item]).length =
        q.items ++ [item]
      simp only [hslot, List.length_append, List.length_singleton]
      rw [window_set b.buf (Nat.lt_of_lt_of_le hroom (by decide)), h.items]
  · have hfits : q.items.length ≤ 511 := q.fits
    have hfull : b.full = true := (full_iff h).mpr (by omega)
    rw [put, if_pos hfull, Bounded.put, dif_neg hroom]
    exact ⟨h, rfl⟩

/-- Reading at `tail` takes the oldest byte. -/
theorem next_holds {a : UInt8} {as : List UInt8} (h : Holds b q) (hq : q.items = a :: as) :
    Holds b.next.1 (q.drop 1) ∧ b.next.2 = a := by
  have hitems := h.items
  rw [hq, List.length_cons, window_cons, List.cons.injEq] at hitems
  have hdrop : (q.drop 1).items = as := by rw [Bounded.drop_items, hq, List.drop_one, List.tail_cons]
  refine ⟨⟨?_, ?_⟩, ?_⟩
  · have hhead := head_eq h
    have hfits : q.items.length ≤ 511 := q.fits
    have htail := b.tail.toNat_lt
    rw [hq, List.length_cons] at hhead hfits
    rw [hdrop]
    show (b.head - (b.tail + 1)).toNat = as.length
    rw [UInt64.toNat_sub, UInt64.toNat_add, UInt64.toNat_one]
    omega
  · rw [hdrop]
    show window b.buf (b.tail + 1).toNat as.length = as
    rw [window_congr b.buf (succ_modEq b.tail), hitems.2]
  · rw [← hitems.1, ← slotOf_eq]
    rfl

/-- **`get`** is the queue's. -/
theorem get_holds (h : Holds b q) :
    Holds b.get.1 (q.drop 1) ∧ b.get.2 = q.items.head? := by
  cases hq : q.items with
  | nil =>
    have hempty : b.empty = true := (empty_iff h).mpr (by rw [hq]; rfl)
    have hdrop : q.drop 1 = q := Bounded.ext (by rw [Bounded.drop_items, hq]; rfl)
    rw [get, if_pos hempty, hdrop]
    exact ⟨h, rfl⟩
  | cons a as =>
    have hempty : ¬ b.empty = true := by
      rw [empty_iff h, hq]
      exact Nat.succ_ne_zero _
    obtain ⟨hnext, hitem⟩ := next_holds h hq
    rw [get, if_neg hempty, hitem]
    exact ⟨hnext, rfl⟩

/-- The loop takes the items one after the other. -/
theorem fillLoop_holds (c : Nat) : ∀ {b : Fast512BytesCircularBuffer} {q : Queue}, Holds b q →
    c ≤ q.items.length → Holds (b.fillLoop c).1 (q.drop c) ∧ (b.fillLoop c).2 = q.items.take c := by
  induction c with
  | zero =>
    intro b q h _
    exact ⟨h, rfl⟩
  | succ c ih =>
    intro b q h hc
    cases hq : q.items with
    | nil =>
      rw [hq] at hc
      exact absurd hc (Nat.not_succ_le_zero c)
    | cons a as =>
      rw [hq] at hc
      obtain ⟨hnext, hitem⟩ := next_holds h hq
      have hlen : c ≤ (q.drop 1).items.length := by
        rw [Bounded.drop_items, hq]
        exact Nat.le_of_succ_le_succ hc
      obtain ⟨hend, hrest⟩ := ih hnext hlen
      rw [Bounded.drop_drop, Nat.add_comm] at hend
      refine ⟨hend, ?_⟩
      show b.next.2 :: (b.next.1.fillLoop c).2 = _
      rw [hitem, hrest, Bounded.drop_items, hq]
      rfl

/-- `len()` fits the `int` of `fillBuffer`. -/
theorem len_int (h : Holds b q) : b.len.toUInt32.toInt32.toInt = q.items.length := by
  have hfits : q.items.length ≤ 511 := q.fits
  have hlen : b.len = UInt64.ofNat q.items.length := by rw [← h.len, UInt64.ofNat_toNat]
  rw [hlen, UInt64.toUInt32_ofNat', UInt32.toInt32_ofNat']
  exact Int32.toInt_ofNat_of_lt (by omega)

/-- **`fillBuffer`** takes as many items as there are, up to the length. -/
theorem fillBuffer_holds (h : Holds b q) (length : Nat) :
    Holds (b.fillBuffer length).1 (q.drop length) ∧
      (b.fillBuffer length).2 = (q.items.take length, ((q.items.take length).length : Int)) := by
  have hcount : (q.items.take length).length = min length q.items.length := List.length_take
  have hdrop : q.drop (min length q.items.length) = q.drop length :=
    Bounded.ext List.drop_eq_drop_min.symm
  rw [hcount, fillBuffer, len_int h]
  by_cases hpos : 0 < q.items.length
  · have hc : (if (length : Int) < q.items.length then (length : Int) else q.items.length) =
        (min length q.items.length : Nat) := by
      split <;> omega
    obtain ⟨hend, hbuff⟩ := fillLoop_holds (min length q.items.length) h (Nat.min_le_right _ _)
    rw [hdrop] at hend
    rw [if_pos (by omega), hc]
    dsimp only
    rw [Int.toNat_natCast, hbuff, ← List.take_eq_take_min]
    exact ⟨hend, rfl⟩
  · have hzero : q.items.length = 0 := by omega
    rw [if_neg (by omega), hzero, Nat.min_zero, ← hdrop, hzero, Nat.min_zero, Bounded.drop_zero,
      List.length_eq_zero_iff.mp hzero, List.take_nil]
    exact ⟨h, rfl⟩

/-- A reset empties the queue. -/
theorem reset_holds : Holds b.reset .empty := by
  refine ⟨?_, rfl⟩
  show (b.tail - b.tail).toNat = 0
  rw [UInt64.sub_self]
  rfl

/-- **Every call** answers what the queue answers, and keeps its bytes. -/
theorem call_holds (b : Fast512BytesCircularBuffer) (q : Queue) (c : Call) (h : Holds b q) :
    Holds (b.call c).1 (q.call c).1 ∧ (b.call c).2 = (q.call c).2 := by
  cases c with
  | put item =>
    obtain ⟨hput, hok⟩ := put_holds h item
    exact ⟨hput, congrArg Answer.put hok⟩
  | get =>
    obtain ⟨hget, hitem⟩ := get_holds h
    exact ⟨hget, congrArg Answer.get hitem⟩
  | fillBuffer length =>
    obtain ⟨hfill, hbuff⟩ := fillBuffer_holds h length
    exact ⟨hfill, congrArg (fun r : List UInt8 × Int => Answer.fillBuffer r.1 r.2) hbuff⟩
  | reset => exact ⟨reset_holds, rfl⟩

/-- A new buffer is empty. -/
theorem new_holds (buf : Vector UInt8 size) : Holds (new buf) .empty :=
  ⟨UInt64.toNat_inj.mpr (UInt64.sub_self 0), rfl⟩

end Fast512BytesCircularBuffer

open ByteStuffing in
/-- **The buffer is a queue of 511 bytes.** Whatever is called, and however often, it answers
what the queue answers, and `len` is the number of bytes in the queue. -/
theorem buffer_is_queue (buf : Vector UInt8 size) (calls : List Call) :
    (feed Fast512BytesCircularBuffer.call (.new buf) calls).2 = (feed Queue.call .empty calls).2 ∧
      (feed Fast512BytesCircularBuffer.call (.new buf) calls).1.len.toNat =
        (feed Queue.call .empty calls).1.items.length := by
  obtain ⟨hend, hanswers⟩ := feed_simulates Fast512BytesCircularBuffer.call_holds calls
    (Fast512BytesCircularBuffer.new_holds buf)
  exact ⟨hanswers, hend.len⟩

end Solarbot.CircularBuffer
