import Solarbot.Lib.Runs
import Solarbot.Link.Aes128Inverse
import Solarbot.Link.FrameBounds

/-!
# `MasterApp::Send` and its padding

`GenerateFrame` writes a frame to the front of `Client_Tx_Buffer`, and `Send` encrypts
as many blocks of it as the frame needs, in place, and sends them. The loop that is to
fill the last block with zeros starts where that block starts, which is never behind the
frame, so it writes nothing (`padLoop_skipped`): the last block is filled with what the
buffer held, and that is the ciphertext of earlier frames. `send_clean_iff` has the exact
condition, over every history of replies. No reply reaches outside the buffer.

Mirroring notes vs `MasterApp.cpp`:
- `Send` is always given `Client_Tx_Buffer`, so its parameter `buffer` is that member.
- The random byte is an argument of the reply, and `GenerateFrame` draws it until it is
  not the start mark.
- `msg.length()` is converted to `uint16_t` at the call of `GenerateFrame`.
-/

namespace Solarbot.MasterApp

open Link Runs

/-- `Client_Tx_Buffer_Size`. -/
def clientTxBufferSize : Nat := 512

/-- `Client_Tx_Buffer`. -/
structure TxBuffer where
  bytes : List UInt8
  size : bytes.length = clientTxBufferSize + 16

/-- The buffer and what the last `send()` was given. -/
structure ClientTx where
  buffer : TxBuffer
  sent : List UInt8

/-- A load or a store outside `Client_Tx_Buffer`. -/
inductive TxFault
  | outside (position : Nat)
  deriving DecidableEq, Repr

/-- The arguments of a call of `GenerateFrame`: a `PingACK`, a `CommandACK`, or any
other frame. -/
structure Reply where
  frameType : UInt16
  frameId : UInt16
  payload : List UInt8
  rndByte : UInt8
  rnd_ne : rndByte ≠ 0x7E

/-- The reply to a `Ping`. -/
def Reply.pingACK (frameId : UInt16) {rndByte : UInt8} (h : rndByte ≠ 0x7E) : Reply :=
  ⟨FramesTypes.pingACK.code, frameId, [], rndByte, h⟩

/-- `GenerateFrame(Client_Tx_Buffer, Client_Tx_Buffer_Size, ...)`. -/
def Reply.frame (r : Reply) : List UInt8 :=
  generateFrame calculate clientTxBufferSize r.frameType r.frameId r.payload
    (UInt16.ofNat r.payload.length) r.rndByte

namespace TxBuffer

/-- The frame in the buffer. -/
def writeFrame (buffer : TxBuffer) (frame : List UInt8) : Except TxFault TxBuffer :=
  if h : frame.length ≤ clientTxBufferSize + 16 then
    .ok ⟨frame ++ buffer.bytes.drop frame.length, by
      rw [List.length_append, List.length_drop, buffer.size]
      omega⟩
  else .error (.outside (clientTxBufferSize + 16))

/-- The loop `while (length < pad_index_start)`, with `rounds` passes left. -/
def padLoop (buffer : TxBuffer) (length : Nat) : Nat → Except TxFault TxBuffer
  | 0 => .ok buffer
  | rounds + 1 =>
    if length < clientTxBufferSize + 16 then
      padLoop ⟨buffer.bytes.set length 0x00, by rw [List.length_set, buffer.size]⟩
        (length + 1) rounds
    else .error (.outside length)

/-- `AES_Client.Encrypt(Client_Tx_Buffer, Client_Tx_Buffer, blocks)`. -/
def encryptFront (keys : List UInt8) (buffer : TxBuffer) (blocks : Nat) :
    Except TxFault TxBuffer :=
  if h : 16 * blocks ≤ buffer.bytes.length then
    .ok ⟨Aes128.encrypt keys buffer.bytes blocks, by rw [Aes128.encrypt_length keys h, buffer.size]⟩
  else .error (.outside (clientTxBufferSize + 16))

end TxBuffer

namespace ClientTx

/-- The blocks `Send` encrypts: always at least one. -/
def blocks (length : Nat) : Nat := 1 + length / 16

/-- `MasterApp::Send`. -/
def send (keys : List UInt8) (tx : ClientTx) (length : Nat) : Except TxFault ClientTx := do
  let padIndexStart := 16 * (blocks length - 1)
  let buffer ← tx.buffer.padLoop length (padIndexStart - length)
  let buffer ← buffer.encryptFront keys (blocks length)
  return ⟨buffer, buffer.bytes.take (16 * blocks length)⟩

/-- `GenerateFrame` into the buffer and `Send`, as `ParseRawRx` and `SendCommandACK` do. -/
def reply (keys : List UInt8) (tx : ClientTx) (r : Reply) : Except TxFault ClientTx := do
  let buffer ← tx.buffer.writeFrame r.frame
  send keys { tx with buffer := buffer } r.frame.length

/-- The bytes of the buffer that are sent behind the frame. -/
def tail (tx : ClientTx) (r : Reply) : List UInt8 :=
  (tx.buffer.bytes.drop r.frame.length).take (16 * blocks r.frame.length - r.frame.length)

/-- What is sent decrypts to the frame and zeros, in whole blocks. -/
def Clean (keys : List UInt8) (_ : ClientTx) (r : Reply) (tx' : ClientTx) : Prop :=
  0 < r.frame.length → ∃ n padding, tx'.sent.length = 16 * n ∧
    Aes128.decrypt keys tx'.sent n = r.frame ++ List.replicate padding 0

/-- The buffer has zeros between the frame and the end of its last block. -/
def ZeroTail (tx : ClientTx) (r : Reply) (_ : ClientTx) : Prop :=
  0 < r.frame.length → ∀ b ∈ tx.tail r, b = 0

end ClientTx

theorem Reply.frame_length_le (r : Reply) : r.frame.length ≤ clientTxBufferSize := by
  have h := generateFrame_length_le r.frameType r.frameId r.payload
    (UInt16.ofNat r.payload.length) r.rndByte (Int.natCast_nonneg clientTxBufferSize) (by decide)
  exact_mod_cast h

/-- The loop starts behind the last block's start. -/
theorem TxBuffer.padLoop_skipped (buffer : TxBuffer) (length : Nat) :
    buffer.padLoop length (16 * (ClientTx.blocks length - 1) - length) = .ok buffer := by
  have hzero : 16 * (ClientTx.blocks length - 1) - length = 0 := by
    unfold ClientTx.blocks
    omega
  rw [hzero]
  rfl

namespace ClientTx

variable (keys : List UInt8) (tx : ClientTx) (r : Reply)

theorem tail_length : (tx.tail r).length = 16 * blocks r.frame.length - r.frame.length := by
  have hframe := r.frame_length_le
  have hsize := tx.buffer.size
  rw [tail, List.length_take, List.length_drop]
  unfold blocks clientTxBufferSize at *
  omega

/-- The front of the buffer that `Send` encrypts. -/
theorem front_length : (r.frame ++ tx.tail r).length = 16 * blocks r.frame.length := by
  rw [List.length_append, tail_length]
  unfold blocks
  omega

/-- **One reply.** It stays inside the buffer. The frame is encrypted together with the
bytes that were behind it, and the ciphertext stays in the buffer. -/
theorem reply_ok : ∃ tx', tx.reply keys r = .ok tx' ∧
    tx'.sent = Aes128.encrypt keys (r.frame ++ tx.tail r) (blocks r.frame.length) ∧
    tx'.buffer.bytes = tx'.sent ++ tx.buffer.bytes.drop (16 * blocks r.frame.length) := by
  have hframe := r.frame_length_le
  have hfront := front_length tx r
  have hcipher := Aes128.encrypt_length keys hfront.ge
  -- what `writeFrame` leaves, cut where the last block ends
  have hsplit : r.frame ++ tx.buffer.bytes.drop r.frame.length
      = (r.frame ++ tx.tail r) ++ tx.buffer.bytes.drop (16 * blocks r.frame.length) := by
    have hdrop : 16 * blocks r.frame.length
        = r.frame.length + (16 * blocks r.frame.length - r.frame.length) := by
      unfold blocks
      omega
    rw [List.append_assoc, tail]
    conv_rhs => rw [hdrop, ← List.drop_drop, Nat.add_sub_cancel_left]
    rw [List.take_append_drop]
  have hencrypt : Aes128.encrypt keys (r.frame ++ tx.buffer.bytes.drop r.frame.length)
      (blocks r.frame.length)
      = Aes128.encrypt keys (r.frame ++ tx.tail r) (blocks r.frame.length)
        ++ tx.buffer.bytes.drop (16 * blocks r.frame.length) := by
    rw [hsplit]
    exact Aes128.encrypt_append keys _ (by rw [hfront, Nat.mul_comm])
  have hfits : 16 * blocks r.frame.length
      ≤ (r.frame ++ tx.buffer.bytes.drop r.frame.length).length := by
    rw [hsplit, List.length_append, hfront]
    exact Nat.le_add_right _ _
  have htake : (Aes128.encrypt keys (r.frame ++ tx.buffer.bytes.drop r.frame.length)
      (blocks r.frame.length)).take (16 * blocks r.frame.length)
      = Aes128.encrypt keys (r.frame ++ tx.tail r) (blocks r.frame.length) := by
    rw [hencrypt, ← hfront, ← hcipher, List.take_left]
  unfold reply TxBuffer.writeFrame
  rw [dif_pos (by unfold clientTxBufferSize at *; omega)]
  simp only [send, bind, Except.bind, TxBuffer.padLoop_skipped, TxBuffer.encryptFront, hfits,
    dif_pos, pure, Except.pure]
  exact ⟨_, rfl, htake, by rw [htake]; exact hencrypt⟩

/-- What is sent is clean when the bytes behind the frame were zeros, and only then. -/
theorem clean_iff_zeroTail {tx' : ClientTx} (h : tx.reply keys r = .ok tx') :
    Clean keys tx r tx' ↔ ZeroTail tx r tx' := by
  obtain ⟨m, hm, hsent, -⟩ := reply_ok keys tx r
  obtain rfl : m = tx' := Except.ok.inj (hm.symm.trans h)
  have hfront := front_length tx r
  have hcipher := Aes128.encrypt_length keys hfront.ge
  have hplain := Aes128.decrypt_encrypt keys hfront.ge
  apply forall_congr'
  intro _
  rw [hsent]
  constructor
  · intro hclean b hb
    obtain ⟨n, padding, hn, hdecrypt⟩ := hclean
    rw [hcipher, hfront] at hn
    obtain rfl : n = blocks r.frame.length := by omega
    rw [hplain] at hdecrypt
    rw [List.append_cancel_left hdecrypt] at hb
    exact List.eq_of_mem_replicate hb
  · intro hzero
    refine ⟨blocks r.frame.length, (tx.tail r).length, by rw [hcipher, hfront], ?_⟩
    rw [hplain, List.eq_replicate_of_mem hzero, List.length_replicate]

/-- **Outgoing padding.** Whatever the buffer holds and whatever was sent before, no reply
reaches outside the buffer, and the replies are sent clean as long as each finds zeros
behind its frame. -/
theorem replies_clean_iff (keys : List UInt8) (tx : ClientTx) (replies : List Reply) :
    (∃ tx', run (reply keys) tx replies = .ok tx') ∧
    (Steps (Graph (reply keys)) (Clean keys) tx replies ↔
      Steps (Graph (reply keys)) ZeroTail tx replies) := by
  constructor
  · have hstep : ∀ (s : ClientTx) (e : Reply), True → ∃ s', reply keys s e = .ok s' ∧ True := by
      intro s e _
      obtain ⟨s', hs', -⟩ := reply_ok keys s e
      exact ⟨s', hs', trivial⟩
    obtain ⟨tx', hrun, -⟩ := run_total hstep replies (s := tx) trivial
    exact ⟨tx', hrun⟩
  · exact Steps.congr_all (fun s e _ h => clean_iff_zeroTail keys s e h) tx replies

/-! ## The same reply twice -/

/-- A session key of zeros. -/
def sampleKeys : List UInt8 := Aes128.setKey (List.replicate 16 0)

/-- A buffer that was never used. -/
def unused : ClientTx where
  buffer := ⟨List.replicate (clientTxBufferSize + 16) 0, List.length_replicate⟩
  sent := []

theorem sampleRndByte : (0x00 : UInt8) ≠ 0x7E := by decide

def samplePingACK : Reply := .pingACK 1 sampleRndByte

theorem samplePingACK_length : samplePingACK.frame.length = 12 := by decide +kernel

theorem samplePingACK_tail : unused.tail samplePingACK = List.replicate 4 0 := by
  rw [tail, samplePingACK_length, unused, List.drop_replicate, List.take_replicate]
  rfl

theorem samplePingACK_cipher :
    ((Aes128.encrypt sampleKeys (samplePingACK.frame ++ List.replicate 4 0) 1).drop 12).take 4
      ≠ List.replicate 4 0 := by decide +kernel

/-- The second of two equal replies is padded with the ciphertext of the first. -/
theorem pingACK_twice : ¬ Steps (Graph (reply sampleKeys)) (Clean sampleKeys) unused
    [samplePingACK, samplePingACK] := by
  intro h
  obtain ⟨tx₁, h₁, hsent, hbuffer⟩ := reply_ok sampleKeys unused samplePingACK
  obtain ⟨tx₂, h₂, -, -⟩ := reply_ok sampleKeys tx₁ samplePingACK
  have hclean := ((h tx₁ h₁).2 tx₂ h₂).1
  rw [clean_iff_zeroTail sampleKeys tx₁ samplePingACK h₂] at hclean
  have hzero := hclean (by rw [samplePingACK_length]; decide)
  have hblocks : blocks samplePingACK.frame.length = 1 := by
    rw [samplePingACK_length]
    rfl
  have hlen : tx₁.sent.length = 16 := by
    rw [hsent, Aes128.encrypt_length _ (front_length _ _).ge, front_length, hblocks]
  -- the bytes behind the second frame are the end of the block just sent
  have htail : tx₁.tail samplePingACK = (tx₁.sent.drop 12).take 4 := by
    rw [tail, hbuffer, hblocks, samplePingACK_length,
      List.drop_append_of_le_length (by rw [hlen]; decide),
      List.take_append_of_le_length (by rw [List.length_drop, hlen])]
  refine samplePingACK_cipher ?_
  rw [hblocks, samplePingACK_tail] at hsent
  rw [htail, hsent] at hzero
  refine List.eq_replicate_iff.mpr ⟨?_, hzero⟩
  rw [← hsent, List.length_take, List.length_drop, hlen]
  rfl

end ClientTx

end Solarbot.MasterApp
