import Solarbot.Link.Aes128

/-!
# `Decrypt` inverts `Encrypt`

Every step of a round has its inverse in the source, and the rounds are undone in
the opposite order, with the same round keys. Two facts are about the tables: the
two S-boxes are inverse permutations, and the multiplication tables are sums of
powers of one additive map, `xtime` (doubling in the field of the cipher). From the
second, the product of the two column matrices is the identity; that `xtime` is
additive and that `a ^^^ a = 0` is all it takes, the field's polynomial is not used.
-/

namespace Solarbot.Link.Aes128

/-! ## The tables -/

/-- The table of the values of `f`. -/
def tabulate (f : UInt8 → UInt8) : Table :=
  (List.range 16).map fun i => (List.range 16).map fun j => f (UInt8.ofNat (16 * i + j))

theorem lookup_tabulate (f : UInt8 → UInt8) (b : UInt8) : lookup (tabulate f) b = f b := by
  have hb := b.toNat_lt
  have hrow : b.toNat / 16 < 16 := by omega
  have hcol : b.toNat % 16 < 16 := by omega
  have hget : ∀ {β : Type} (g : Nat → β) (d : β) {i : Nat}, i < 16 →
      ((List.range 16).map g).getD i d = g i := by
    intro β g d i hi
    rw [List.getD_eq_getElem?_getD, List.getElem?_map, List.getElem?_range hi]
    rfl
  rw [lookup, tabulate, hget _ _ hrow, hget _ _ hcol, Nat.div_add_mod, UInt8.ofNat_toNat]

/-- A table that lists the values of `f` is `f`. -/
theorem lookup_eq {table : Table} {f : UInt8 → UInt8} (h : table = tabulate f) :
    lookup table = f := by
  rw [h]
  exact funext (lookup_tabulate f)

/-- Two tables one after the other, checked entry by entry. -/
theorem lookup_lookup {t u : Table} {f : UInt8 → UInt8}
    (h : (tabulate fun b => lookup u (lookup t b)) = tabulate f) (b : UInt8) :
    lookup u (lookup t b) = f b := by
  rw [← lookup_tabulate f, ← h, lookup_tabulate]

/-- The two boxes are inverse to each other. -/
theorem invSBox_sBox : ∀ b, lookup invSBox (lookup sBox b) = b :=
  lookup_lookup (f := id) (by decide +kernel)

/-- Doubling: a shift, and the reduction when a bit falls out. -/
def xtime (b : UInt8) : UInt8 := (b <<< 1) ^^^ (if b.toBitVec.msb then 0x1B else 0)

/-- Doubling is linear. -/
theorem xtime_xor (a b : UInt8) : xtime (a ^^^ b) = xtime a ^^^ xtime b := by
  have hred : ∀ p q : Bool, (if (p ^^ q) = true then (0x1B : UInt8) else 0) =
      (if p = true then 0x1B else 0) ^^^ (if q = true then 0x1B else 0) := by decide
  unfold xtime
  rw [UInt8.toBitVec_xor, BitVec.msb_xor, UInt8.shiftLeft_xor, hred]
  ac_rfl

/-- The tables of the multiplications hold what their names say. -/
theorem mul2_eq : lookup mul2 = xtime := lookup_eq (by decide +kernel)

theorem mul3_eq : lookup mul3 = fun b => xtime b ^^^ b := lookup_eq (by decide +kernel)

theorem mul9_eq : lookup mul9 = fun b => xtime (xtime (xtime b)) ^^^ b :=
  lookup_eq (by decide +kernel)

theorem mul11_eq : lookup mul11 = fun b => xtime (xtime (xtime b)) ^^^ xtime b ^^^ b :=
  lookup_eq (by decide +kernel)

theorem mul13_eq : lookup mul13 = fun b => xtime (xtime (xtime b)) ^^^ xtime (xtime b) ^^^ b :=
  lookup_eq (by decide +kernel)

theorem mul14_eq :
    lookup mul14 = fun b => xtime (xtime (xtime b)) ^^^ xtime (xtime b) ^^^ xtime b :=
  lookup_eq (by decide +kernel)

/-! ## The columns -/

theorem xor_left_comm (a b c : UInt8) : a ^^^ (b ^^^ c) = b ^^^ (a ^^^ c) := by
  rw [← UInt8.xor_assoc, UInt8.xor_comm a b, UInt8.xor_assoc]

theorem xor_cancel_left (a b : UInt8) : a ^^^ (a ^^^ b) = b := by
  rw [← UInt8.xor_assoc, UInt8.xor_self, UInt8.zero_xor]

theorem xor_cancel_right (a b : UInt8) : a ^^^ b ^^^ b = a := by
  rw [UInt8.xor_assoc, UInt8.xor_self, UInt8.xor_zero]

/-- A row of the circulant matrix is the one above it, on the rotated column. -/
theorem mix_rotate (t0 t1 t2 t3 : UInt8 → UInt8) (a b c d : UInt8) :
    mix t3 t0 t1 t2 a b c d = mix t0 t1 t2 t3 b c d a := by
  unfold mix
  ac_rfl

/-- A mixing of columns goes through the four columns. -/
theorem mixWith_eq (t0 t1 t2 t3 : UInt8 → UInt8) (st : Block) :
    mixWith t0 t1 t2 t3 st =
      let m := mix t0 t1 t2 t3
      ⟨m st.b0 st.b1 st.b2 st.b3, m st.b1 st.b2 st.b3 st.b0,
        m st.b2 st.b3 st.b0 st.b1, m st.b3 st.b0 st.b1 st.b2,
        m st.b4 st.b5 st.b6 st.b7, m st.b5 st.b6 st.b7 st.b4,
        m st.b6 st.b7 st.b4 st.b5, m st.b7 st.b4 st.b5 st.b6,
        m st.b8 st.b9 st.b10 st.b11, m st.b9 st.b10 st.b11 st.b8,
        m st.b10 st.b11 st.b8 st.b9, m st.b11 st.b8 st.b9 st.b10,
        m st.b12 st.b13 st.b14 st.b15, m st.b13 st.b14 st.b15 st.b12,
        m st.b14 st.b15 st.b12 st.b13, m st.b15 st.b12 st.b13 st.b14⟩ := by
  unfold mixWith
  simp only [mix_rotate t0 t1 t2 t3, mix_rotate t3 t0 t1 t2, mix_rotate t2 t3 t0 t1]

/-- The first byte of a mixed column, in terms of `xtime`. -/
def mixed (a b c d : UInt8) : UInt8 := mix (lookup mul2) (lookup mul3) id id a b c d

/-- The first byte of a column that `InverseMixColumns` computes. -/
def unmixed (a b c d : UInt8) : UInt8 :=
  mix (lookup mul14) (lookup mul11) (lookup mul13) (lookup mul9) a b c d

/-- What mixing twice does: only every other byte is left of the four. -/
def mixedTwice (a c : UInt8) : UInt8 := xtime (xtime a) ^^^ a ^^^ xtime (xtime c)

/-- A mixed byte, by doublings. -/
theorem mixed_eq (a b c d : UInt8) :
    mixed a b c d = xtime a ^^^ (xtime b ^^^ b) ^^^ c ^^^ d := by
  unfold mixed mix
  rw [mul2_eq, mul3_eq]
  rfl

/-- Mixed twice, a byte depends on two of its column only. -/
theorem mixed_mixed (a b c d : UInt8) :
    mixed (mixed a b c d) (mixed b c d a) (mixed c d a b) (mixed d a b c) = mixedTwice a c := by
  unfold mixedTwice
  simp only [mixed_eq, xtime_xor, UInt8.xor_assoc, UInt8.xor_comm, xor_left_comm, xor_cancel_left]

/-- `14 11 13 9` is `2 3 1 1` times `5 0 4 0`. -/
theorem unmixed_eq (a b c d : UInt8) :
    unmixed a b c d =
      mixed (mixedTwice a c) (mixedTwice b d) (mixedTwice c a) (mixedTwice d b) := by
  unfold unmixed mix mixedTwice
  rw [mul9_eq, mul11_eq, mul13_eq, mul14_eq]
  simp only [mixed_eq, xtime_xor, UInt8.xor_assoc, UInt8.xor_comm, xor_left_comm, xor_cancel_left]

/-- The two kinds of mixing commute. -/
theorem mixedTwice_mixed (a b c d : UInt8) :
    mixedTwice (mixed a b c d) (mixed c d a b) =
      mixed (mixedTwice a c) (mixedTwice b d) (mixedTwice c a) (mixedTwice d b) := by
  unfold mixedTwice
  simp only [mixed_eq, xtime_xor]
  ac_rfl

/-- Mixing four times is not mixing at all. -/
theorem mixedTwice_mixedTwice (a c : UInt8) : mixedTwice (mixedTwice a c) (mixedTwice c a) = a := by
  unfold mixedTwice
  simp only [xtime_xor, UInt8.xor_assoc, UInt8.xor_comm, xor_left_comm, xor_cancel_left,
    UInt8.xor_self, UInt8.xor_zero]

/-- The inverse mixing undoes it. -/
theorem unmixed_mixed (a b c d : UInt8) :
    unmixed (mixed a b c d) (mixed b c d a) (mixed c d a b) (mixed d a b c) = a := by
  rw [unmixed_eq, mixedTwice_mixed, mixedTwice_mixed, mixedTwice_mixed, mixedTwice_mixed,
    mixed_mixed, mixedTwice_mixedTwice]

/-! ## The rounds -/

/-- The columns are back. -/
theorem inverseMixColumns_mixColumns (st : Block) : inverseMixColumns (mixColumns st) = st := by
  have h := unmixed_mixed
  unfold unmixed mixed at h
  unfold inverseMixColumns mixColumns
  simp only [mixWith_eq, h]

/-- The rows are back. -/
theorem shiftRowsDescrytion_encryption (st : Block) :
    shiftRowsDescrytion (shiftRowsEncryption st) = st := rfl

/-- The bytes are back. -/
theorem subBytesDescrytion_encryption (st : Block) :
    subBytesDescrytion (subBytesEncryption st) = st := by
  unfold subBytesDescrytion subBytesEncryption Block.map
  simp only [invSBox_sBox]

/-- A key that is added twice is gone. -/
theorem addRoundKey_addRoundKey (st key : Block) : addRoundKey (addRoundKey st key) key = st := by
  unfold addRoundKey
  simp only [xor_cancel_right]

/-- A round is undone under the same key. -/
theorem roundDescription_roundEncrytion (st key : Block) :
    roundDescription (roundEncrytion st key) key = st := by
  unfold roundDescription roundEncrytion
  rw [addRoundKey_addRoundKey, inverseMixColumns_mixColumns, shiftRowsDescrytion_encryption,
    subBytesDescrytion_encryption]

/-- And so is the last round, which mixes no columns. -/
theorem initialRound_finalRound (st key : Block) : initialRound (finalRound st key) key = st := by
  unfold initialRound finalRound
  rw [addRoundKey_addRoundKey, shiftRowsDescrytion_encryption, subBytesDescrytion_encryption]

/-- All rounds are undone in reverse order. -/
theorem decryptBlock_encryptBlock (keys : List UInt8) (message : Block) :
    decryptBlock keys (encryptBlock keys message) = message := by
  unfold decryptBlock encryptBlock
  dsimp only
  rw [initialRound_finalRound,
    Blocks.foldl_undo (fun st i => roundDescription_roundEncrytion st (roundKey keys (i + 1))),
    addRoundKey_addRoundKey]

/-! ## The buffers -/

theorem Block.ofBytes_toBytes (st : Block) : Block.ofBytes st.toBytes = st := rfl

theorem Block.toBytes_length (st : Block) : st.toBytes.length = 16 := rfl

/-- A block has its sixteen bytes. -/
theorem Block.toBytes_ofBytes {l : List UInt8} (h : l.length = 16) :
    (Block.ofBytes l).toBytes = l := by
  match l, h with
  | [_, _, _, _, _, _, _, _, _, _, _, _, _, _, _, _], _ => rfl

/-- Whatever the keys are, the front of a buffer that was encrypted decrypts to what
it was. -/
theorem decrypt_encrypt (keys : List UInt8) {message : List UInt8} {blocks : Nat}
    (h : 16 * blocks ≤ message.length) :
    decrypt keys (encrypt keys message blocks) blocks = message := by
  refine Blocks.mapBlocks_cancel (fun _ _ => Block.toBytes_length _) ?_ blocks (by omega)
  intro b hb
  rw [Block.ofBytes_toBytes, decryptBlock_encryptBlock, Block.toBytes_ofBytes hb]

/-- `Encrypt` changes no length. -/
theorem encrypt_length (keys : List UInt8) {message : List UInt8} {blocks : Nat}
    (h : 16 * blocks ≤ message.length) : (encrypt keys message blocks).length = message.length :=
  Blocks.mapBlocks_length (fun _ _ => Block.toBytes_length _) blocks (by omega)

/-- Neither does `Decrypt`. -/
theorem decrypt_length (keys : List UInt8) {message : List UInt8} {blocks : Nat}
    (h : 16 * blocks ≤ message.length) : (decrypt keys message blocks).length = message.length :=
  Blocks.mapBlocks_length (fun _ _ => Block.toBytes_length _) blocks (by omega)

/-- What is behind the blocks stays as it is. -/
theorem encrypt_append (keys : List UInt8) {front : List UInt8} (rest : List UInt8) {k : Nat}
    (h : front.length = k * 16) : encrypt keys (front ++ rest) k = encrypt keys front k ++ rest :=
  Blocks.mapBlocks_append k 0 h

/-- Whole blocks at the front are decrypted as if nothing followed. -/
theorem decrypt_append (keys : List UInt8) {front : List UInt8} (rest : List UInt8) {k : Nat}
    (j : Nat) (h : front.length = k * 16) :
    decrypt keys (front ++ rest) (k + j) = decrypt keys front k ++ decrypt keys rest j :=
  Blocks.mapBlocks_append k j h

end Solarbot.Link.Aes128
