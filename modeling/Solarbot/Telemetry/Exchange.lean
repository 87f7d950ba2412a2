import Mathlib

/-!
# What the two sides of the telemetry link tell each other

The client sends `SOLARBOT`, the server answers with 64 random bytes, and both pick
the same sixteen of them as a key (`extractKey`). Under that key the client sends
one line of six fields, the fifth being the session key in hexadecimal, and pads it
with zeros to whole blocks; the server splits it at the commas.

Both sides are in `Telemetry.cpp`, each with a loop of its own for the key, so
`extractKey` is the embedding of two pieces of code. The indices of that loop come out
of the received bytes; `keyIndices_lt` says that they never leave the 64.
-/

namespace Solarbot.Telemetry

/-- The bytes of a text of the source. -/
def ascii (s : String) : List UInt8 := s.toList.map fun c => UInt8.ofNat c.toNat

/-- What a C function sees of a string: the bytes before the first zero. -/
def cString (s : List UInt8) : List UInt8 := s.takeWhile (· ≠ 0)

/-! ## The handshake key -/

/-- The values of `sv` in `n` passes of the loop, from the first on. -/
def keyIndices (buffer : List UInt8) : Nat → Nat → List Nat
  | 0, _ => []
  | n + 1, sv => sv :: keyIndices buffer n ((buffer.getD sv 0).toNat / 4)

/-- `key[i] = server_key[sv]; sv = server_key[sv] / 4;` sixteen times, from `sv = 11`. -/
def extractKey (buffer : List UInt8) : List UInt8 :=
  (keyIndices buffer 16 11).map fun sv => buffer.getD sv 0

/-- There are as many places as the walk has steps. -/
theorem keyIndices_length (buffer : List UInt8) (n sv : Nat) :
    (keyIndices buffer n sv).length = n := by
  induction n generalizing sv with
  | zero => rfl
  | succ n ih => rw [keyIndices, List.length_cons, ih]

/-- A byte divided by four is an index into 64 bytes. -/
theorem keyIndices_lt (buffer : List UInt8) {n sv : Nat} (hsv : sv < 64) :
    ∀ i ∈ keyIndices buffer n sv, i < 64 := by
  induction n generalizing sv with
  | zero =>
    intro i hi
    exact absurd hi (by simp [keyIndices])
  | succ n ih =>
    intro i hi
    rcases List.mem_cons.mp hi with rfl | hi
    · exact hsv
    · have := (buffer.getD sv 0).toNat_lt
      exact ih (by omega) i hi

/-- The loop only looks at the first 64 bytes. -/
theorem keyIndices_congr {b b' : List UInt8} (h : ∀ i, i < 64 → b.getD i 0 = b'.getD i 0) :
    ∀ {n sv : Nat}, sv < 64 → keyIndices b n sv = keyIndices b' n sv := by
  intro n
  induction n with
  | zero => exact fun _ => rfl
  | succ n ih =>
    intro sv hsv
    have := (b'.getD sv 0).toNat_lt
    rw [keyIndices, keyIndices, h sv hsv, ih (by omega)]

/-- What is behind the 64 received bytes in the buffer does not matter. -/
theorem extractKey_append {b : List UInt8} (hb : b.length = 64) (rest : List UInt8) :
    extractKey (b ++ rest) = extractKey b := by
  have hget : ∀ i, i < 64 → (b ++ rest).getD i 0 = b.getD i 0 := by
    intro i hi
    rw [List.getD_eq_getElem?_getD, List.getElem?_append_left (by omega),
      List.getD_eq_getElem?_getD]
  unfold extractKey
  rw [keyIndices_congr hget (by omega)]
  exact List.map_congr_left fun i hi => hget i (keyIndices_lt b (by omega) i hi)

/-- A key has sixteen bytes. -/
theorem extractKey_length (buffer : List UInt8) : (extractKey buffer).length = 16 := by
  rw [extractKey, List.length_map, keyIndices_length]

/-! ## Hexadecimal -/

/-- A digit of `%X`. -/
def hexDigit (n : Nat) : UInt8 := UInt8.ofNat (if n < 10 then 0x30 + n else 0x37 + n)

/-- `%02X`. -/
def hexByte (b : UInt8) : List UInt8 := [hexDigit (b.toNat / 16), hexDigit (b.toNat % 16)]

/-- Half of `Hex2Byte`: the value of a digit, and nothing for any other byte. -/
def hexValue (c : UInt8) : Option Nat :=
  let i : Int := (c.toNat : Int) - 0x30
  if 0 ≤ i ∧ i < 0x0A then some i.toNat
  else if 0x10 < i ∧ i < 0x17 then some (i - 0x07).toNat
  else none

/-- `Hex2Byte` on the two bytes at `buff`. -/
def hex2Byte (hi lo : UInt8) : UInt8 :=
  let b := match hexValue hi with
    | some i => UInt8.ofNat (i <<< 4)
    | none => 0
  match hexValue lo with
  | some i => b + UInt8.ofNat i
  | none => b

/-- `key[i] = Hex2Byte(fields[4].c_str() + (i * 2))` for sixteen `i`. -/
def readKey (field : List UInt8) : List UInt8 :=
  (List.range 16).map fun i => hex2Byte (field.getD (2 * i) 0) (field.getD (2 * i + 1) 0)

/-- A digit is read back. -/
theorem hexValue_hexDigit : ∀ n, n < 16 → hexValue (hexDigit n) = some n := by decide

/-- And so is a byte of two digits. -/
theorem hex2Byte_hexByte (b : UInt8) :
    hex2Byte (hexDigit (b.toNat / 16)) (hexDigit (b.toNat % 16)) = b := by
  have hb := b.toNat_lt
  unfold hex2Byte
  rw [hexValue_hexDigit _ (by omega), hexValue_hexDigit _ (by omega)]
  apply UInt8.toNat_inj.mp
  rw [UInt8.toNat_add, UInt8.toNat_ofNat', UInt8.toNat_ofNat', Nat.shiftLeft_eq]
  omega

theorem hexDigit_ne_comma : ∀ n, n < 16 → hexDigit n ≠ 0x2C := by decide

/-- The key the server reads is the key the client wrote. -/
theorem readKey_hex {key : List UInt8} (h : key.length = 16) :
    readKey (key.flatMap hexByte) = key := by
  match key, h with
  | [_, _, _, _, _, _, _, _, _, _, _, _, _, _, _, _], _ =>
    simp [readKey, List.range_succ, hexByte, hex2Byte_hexByte]

/-- Two characters for each byte. -/
theorem hex_length (key : List UInt8) : (key.flatMap hexByte).length = 2 * key.length := by
  induction key with
  | nil => rfl
  | cons b key ih =>
    rw [List.flatMap_cons, List.length_append, ih, List.length_cons]
    simp only [hexByte, List.length_cons, List.length_nil]
    omega

/-! ## The authentication message -/

/-- What the configuration gives to `Start`. -/
structure Credentials where
  telemetryID : List UInt8
  serverUser : List UInt8
  serverPassword : List UInt8

/-- The text the calls of `sprintf` put together, without the zero behind it. -/
def authMessage (c : Credentials) (key : List UInt8) : List UInt8 :=
  ascii "SolarBot," ++ cString c.telemetryID ++ ascii "," ++ cString c.serverUser ++ ascii "," ++
    cString c.serverPassword ++ ascii "," ++ key.flatMap hexByte ++ ascii ",END"

/-- `while (c % 16 != 0) Telemetry_Server_Tx_Buffer[c++] = 0x00;` -/
def padded (message : List UInt8) : List UInt8 :=
  message ++ List.replicate ((16 - message.length % 16) % 16) 0

/-- The loop over `getline(ss, substr, ',')`: as many fields as commas and one more. -/
def splitFields (str : List UInt8) : List (List UInt8) := str.splitOn 0x2C

/-- Padding goes up to the next block. -/
theorem padded_length (message : List UInt8) :
    16 ∣ (padded message).length ∧ (padded message).length < message.length + 16 := by
  unfold padded
  rw [List.length_append, List.length_replicate]
  omega

/-- The server finds the six fields of the client. -/
theorem splitFields_authMessage {c : Credentials} (hid : 0x2C ∉ c.telemetryID)
    (huser : 0x2C ∉ c.serverUser) (hpw : 0x2C ∉ c.serverPassword) (key : List UInt8) :
    ∃ rest, splitFields (padded (authMessage c key)) =
      [ascii "SolarBot", cString c.telemetryID, cString c.serverUser, cString c.serverPassword,
        key.flatMap hexByte, rest] := by
  have hc : ∀ {s : List UInt8}, 0x2C ∉ s → 0x2C ∉ cString s :=
    fun hs hmem => hs (List.takeWhile_subset _ hmem)
  have hkey : 0x2C ∉ key.flatMap hexByte := by
    intro hmem
    obtain ⟨b, -, hb⟩ := List.mem_flatMap.mp hmem
    have := b.toNat_lt
    rcases List.mem_cons.mp hb with h | h
    · exact hexDigit_ne_comma _ (by omega) h.symm
    · exact hexDigit_ne_comma _ (by omega) (List.mem_singleton.mp h).symm
  let zeros := List.replicate ((16 - (authMessage c key).length % 16) % 16) (0 : UInt8)
  have hzeros : 0x2C ∉ zeros := fun hmem => absurd (List.eq_of_mem_replicate hmem) (by decide)
  refine ⟨ascii "END" ++ zeros, ?_⟩
  -- the message is six fields with commas between them, and no commas inside
  have hjoin : padded (authMessage c key) = List.intercalate [0x2C]
      [ascii "SolarBot", cString c.telemetryID, cString c.serverUser, cString c.serverPassword,
        key.flatMap hexByte, ascii "END" ++ zeros] := by
    show authMessage c key ++ zeros = _
    have hhead : ascii "SolarBot," = ascii "SolarBot" ++ [0x2C] := rfl
    have hcomma : ascii "," = [0x2C] := rfl
    have htail : ascii ",END" = 0x2C :: ascii "END" := rfl
    rw [authMessage, hhead, hcomma, htail]
    simp [List.intercalate]
  have hfree : ∀ field ∈ [ascii "SolarBot", cString c.telemetryID, cString c.serverUser,
      cString c.serverPassword, key.flatMap hexByte, ascii "END" ++ zeros], 0x2C ∉ field := by
    intro field hfield
    simp only [List.mem_cons, List.not_mem_nil, or_false] at hfield
    rcases hfield with rfl | rfl | rfl | rfl | rfl | rfl
    · decide
    · exact hc hid
    · exact hc huser
    · exact hc hpw
    · exact hkey
    · intro hmem
      rcases List.mem_append.mp hmem with h | h
      · exact absurd h (by decide)
      · exact hzeros h
  rw [splitFields, hjoin]
  exact List.splitOn_intercalate _ hfree (by simp)

end Solarbot.Telemetry
