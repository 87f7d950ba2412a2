import Solarbot.Driver.Read
import Solarbot.Gps.Sentences
import Solarbot.Lib.Numerals

/-!
# Status frames

A `StatusFrame` is a `$C01` line as the driver sends it. The receive buffer has 32 bytes, the
checksum runs over 24 of them, and the zero goes behind the last one that was received. So a
frame of 29 bytes is the longest that is taken for what it is (`realRead_accepts_iff`): in
one of 30 or 31 bytes the checksum ends in front of the `*`, and a frame of 32 bytes leaves no
room for the zero.
-/

namespace Solarbot.Driver

open CText Gps

/-! ## The checksum beyond its limit -/

/-- The sum over a text. -/
def sumFrom (sum : UInt8) (q : List Char) : UInt8 :=
  q.foldl (fun sum p => sum ^^^ UInt8.ofNat p.toNat) sum

/-- At its limit the loop drops one more byte, and stops. -/
theorem checksumLoop_limit {q : List Char} (hstar : '*' ∉ q) (sum : UInt8) (p : Char)
    (r : List Char) : checksumLoop q.length sum (q ++ p :: r) = (sumFrom sum q, r) := by
  induction q generalizing sum with
  | nil =>
    rw [List.nil_append, List.length_nil, checksumLoop, if_neg (fun h => absurd h.2 (by decide))]
    rfl
  | cons a q ih =>
    have ha : a ≠ '*' := fun h => hstar (by rw [h]; exact List.mem_cons_self)
    rw [List.cons_append, checksumLoop, if_pos ⟨ha, Nat.succ_pos _⟩]
    exact ih (fun h => hstar (List.mem_cons_of_mem _ h)) _

/-- Characters in front of `@` do not touch the bit 64. -/
theorem sumFrom_testBit {q : List Char} (hq : ∀ c ∈ q, c.toNat < 64) (sum : UInt8) :
    (sumFrom sum q).toNat.testBit 6 = sum.toNat.testBit 6 := by
  induction q generalizing sum with
  | nil => rfl
  | cons c q ih =>
    have hc : c.toNat < 64 := hq c List.mem_cons_self
    have hbyte : (UInt8.ofNat c.toNat).toNat = c.toNat := by
      rw [UInt8.toNat_ofNat']
      exact Nat.mod_eq_of_lt (by omega)
    have hbit : c.toNat.testBit 6 = false := Nat.testBit_lt_two_pow hc
    have hstep : sumFrom sum (c :: q) = sumFrom (sum ^^^ UInt8.ofNat c.toNat) q := rfl
    rw [hstep, ih (fun d hd => hq d (List.mem_cons_of_mem _ hd)), UInt8.toNat_xor,
      Nat.testBit_xor, hbyte, hbit, Bool.xor_false]

/-! ## Frames -/

/-- A flag as it is written. -/
def flagChar (b : Bool) : Char := if b then '1' else '0'

/-- What the driver reports, as it writes it. -/
structure Status where
  idFrame : Numeral
  left : Numeral
  right : Numeral
  leftAlarm : Bool
  rightAlarm : Bool
  remoteControlled : Bool
  idFrame_lower : 0 ≤ idFrame.value
  idFrame_upper : idFrame.value ≤ 255
  left_lower : -2 ^ 31 ≤ left.value
  left_upper : left.value < 2 ^ 31
  right_lower : -2 ^ 31 ≤ right.value
  right_upper : right.value < 2 ^ 31

namespace Status

variable (s : Status)

/-- The flags, each with the comma in front. -/
def flags : List Char :=
  [',', flagChar s.leftAlarm, ',', flagChar s.rightAlarm, ',', flagChar s.remoteControlled]

def fields : List Char :=
  s.idFrame.text ++ ',' :: (s.left.text ++ ',' :: (s.right.text ++ s.flags))

/-- What is between `$` and `*`. -/
def body : List Char := "C01,".toList ++ s.fields

/-- `data` holds what the driver reports. -/
structure Decoded (s : Status) (data : DriverData) : Prop where
  idFrame : (data.idFrame.toNat : Int) = s.idFrame.value
  leftSpeedPulses : data.leftSpeedPulses = s.left.value
  rightSpeedPulses : data.rightSpeedPulses = s.right.value
  leftAlarm : data.leftAlarm = s.leftAlarm
  rightAlarm : data.rightAlarm = s.rightAlarm
  remoteControlled : data.remoteControlled = s.remoteControlled

/-- The characters behind the letter. -/
theorem fields_plain {c : Char} (h : c ∈ s.fields) : c.toNat < 64 ∧ c ≠ '*' ∧ c ≠ '\x00' := by
  have hnumeral : ∀ n : Numeral, c ∈ n.text → c.toNat < 64 ∧ c ≠ '*' ∧ c ≠ '\x00' := by
    intro n hc
    rcases n.mem_text hc with rfl | rfl | hdigit
    · decide
    · decide
    · obtain ⟨hlo, hhi⟩ := isDigit_range hdigit
      refine ⟨by omega, ?_, ?_⟩
      · rintro rfl
        exact absurd hlo (by decide)
      · rintro rfl
        exact absurd hlo (by decide)
  have hflag : ∀ b, c = flagChar b → c.toNat < 64 ∧ c ≠ '*' ∧ c ≠ '\x00' := by
    intro b hb
    rw [hb]
    cases b <;> decide
  have hcomma : c = ',' → c.toNat < 64 ∧ c ≠ '*' ∧ c ≠ '\x00' := by
    rintro rfl
    decide
  simp only [fields, flags, List.mem_append, List.mem_cons, List.not_mem_nil, or_false] at h
  rcases h with h | h | h | h | h | h | h | h | h | h | h
  · exact hnumeral _ h
  · exact hcomma h
  · exact hnumeral _ h
  · exact hcomma h
  · exact hnumeral _ h
  · exact hcomma h
  · exact hflag _ h
  · exact hcomma h
  · exact hflag _ h
  · exact hcomma h
  · exact hflag _ h

theorem body_star : '*' ∉ s.body := by
  intro h
  rcases List.mem_append.mp h with h | h
  · exact absurd h (by decide)
  · exact (s.fields_plain h).2.1 rfl

end Status

/-- A status line, with a checksum that is right. -/
structure StatusFrame extends Status where
  hi : Char
  lo : Char
  hexadecimal : (hexDigit hi).isSome ∧ (hexDigit lo).isSome
  checksum : hexVal [hi, lo] = (bodySum toStatus.body).toNat

namespace StatusFrame

variable (f : StatusFrame)

def text : List Char := '$' :: (f.body ++ ['*', f.hi, f.lo, '\n'])

theorem text_length : f.text.length = f.body.length + 5 := by
  rw [text, List.length_cons, List.length_append]
  rfl

/-- The line, with anything behind it. -/
theorem text_append (r : List Char) :
    f.text ++ r = '$' :: (f.body ++ '*' :: f.hi :: f.lo :: '\n' :: r) := by
  simp [text]

/-! ## The checksum of a frame -/

/-- Up to 24 bytes the loop stops at the `*`, and the number behind it is the sum. -/
theorem verifyChecksum_short (h : f.body.length ≤ portRxBufferSize - 8) (r : List Char) :
    verifyChecksum (f.text ++ r) = 0 := by
  have hnone : hexDigit '\n' = none := by decide
  unfold verifyChecksum
  rw [f.text_append, List.tail_cons, Sentence.checksumLoop_body f.body_star _ _ h]
  dsimp only
  rw [strtol16_pair f.hexadecimal.1 f.hexadecimal.2 hnone, f.checksum, Sentence.ofInt_toNat]
  exact if_neg (fun h => h rfl)

/-- The sum over the first 24 bytes has the bit of the letter. -/
theorem sumFrom_take (s : Status) : (sumFrom 0 (s.body.take 24)).toNat.testBit 6 = true := by
  have hletter : s.body.take 24 = 'C' :: ("01,".toList ++ s.fields).take 23 := rfl
  have hfront : ∀ c ∈ "01,".toList, c.toNat < 64 := by simp
  have hbehind : ∀ c ∈ ("01,".toList ++ s.fields).take 23, c.toNat < 64 := by
    intro c hc
    rcases List.mem_append.mp (List.take_subset _ _ hc) with h | h
    · exact hfront c h
    · exact (s.fields_plain h).1
  have hstep : ∀ q, sumFrom 0 ('C' :: q) = sumFrom 67 q := fun _ => rfl
  rw [hletter, hstep, sumFrom_testBit hbehind]
  decide

/-- Behind a flag there is nothing for `strtol`. -/
theorem strtol16_flag (b : Bool) (r : List Char) :
    strtol16 (flagChar b :: '*' :: r) = 0 ∨ strtol16 (flagChar b :: '*' :: r) = 1 := by
  cases b with
  | true => exact .inr rfl
  | false =>
    have hkeep : dropHexPrefix ('0' :: '*' :: r) = '0' :: '*' :: r := by
      apply dropHexPrefix_keep
      intro x d s h
      obtain ⟨rfl, -⟩ : '*' = x ∧ r = d :: s := by simpa using h
      rintro ⟨hx | hx, -⟩ <;> exact absurd hx (by decide)
    have hdigits : hexDigits ('0' :: '*' :: r) = ['0'] := by
      show (dropHexPrefix ('0' :: '*' :: r)).takeWhile _ = _
      rw [hkeep]
      rfl
    refine .inl ?_
    show strtol16 ('0' :: '*' :: r) = 0
    rw [strtol16_eq, hdigits]
    rfl

/-- A frame of 30 or 31 bytes: the loop stops in front of the `*`, or one character before. -/
theorem body_split (h : f.body.length = 25 ∨ f.body.length = 26) : ∃ front p behind,
    f.body = front ++ p :: behind ∧ front.length = portRxBufferSize - 8 ∧
      ∀ r, strtol16 (behind ++ '*' :: r) = 0 ∨ strtol16 (behind ++ '*' :: r) = 1 := by
  obtain ⟨q, hq⟩ : ∃ q, f.body = q ++ [',', flagChar f.remoteControlled] := by
    refine ⟨"C01,".toList ++ (f.idFrame.text ++ ',' :: (f.left.text ++ ',' :: (f.right.text ++
      [',', flagChar f.leftAlarm, ',', flagChar f.rightAlarm]))), ?_⟩
    simp [Status.body, Status.fields, Status.flags]
  have hlength : f.body.length = q.length + 2 := by
    rw [hq, List.length_append]
    rfl
  rcases h with h | h
  · refine ⟨q ++ [','], flagChar f.remoteControlled, [], ?_, ?_, fun r => .inl rfl⟩
    · rw [hq, List.append_assoc]
      rfl
    · rw [List.length_append]
      show q.length + 1 = 24
      omega
  · refine ⟨q, ',', [flagChar f.remoteControlled], hq, ?_, fun r => ?_⟩
    · show q.length = 24
      omega
    · exact strtol16_flag f.remoteControlled r

/-- Neither number has the bit of the letter. -/
theorem verifyChecksum_long (h : f.body.length = 25 ∨ f.body.length = 26) (r : List Char) :
    verifyChecksum (f.text ++ r) = Err.invalidChecksum := by
  obtain ⟨front, p, behind, hbody, hlen, hvalue⟩ := f.body_split h
  have hfront : f.body.take 24 = front := by
    rw [hbody]
    exact List.take_left' hlen
  have hstar : '*' ∉ front := by
    rw [← hfront]
    exact fun h => f.body_star (List.take_subset _ _ h)
  have hloop : ∀ r, checksumLoop (portRxBufferSize - 8) 0 (front ++ p :: r) = (sumFrom 0 front, r) := by
    rw [← hlen]
    exact checksumLoop_limit hstar 0 p
  have hbit := sumFrom_take f.toStatus
  rw [hfront] at hbit
  unfold verifyChecksum
  rw [f.text_append, List.tail_cons, hbody, List.append_assoc, List.cons_append, hloop]
  dsimp only
  rw [if_pos]
  intro hsum
  rw [hsum] at hbit
  rcases hvalue (f.hi :: f.lo :: '\n' :: r) with hv | hv
  · rw [hv] at hbit
    exact absurd hbit (by decide)
  · rw [hv] at hbit
    exact absurd hbit (by decide)

/-! ## The fields of a frame -/

end StatusFrame

theorem comma_flag (b : Bool) (s : List Char) : comma (flagChar b :: ',' :: s) = some s := by
  cases b <;> rfl

/-- A flag, as a number. -/
theorem flagChar_digit (b : Bool) : (flagChar b).isDigit = true := by
  cases b <;> rfl

def flagNumeral (b : Bool) : Numeral where
  sign := .none
  digits := [flagChar b]
  digits_digit := fun _ hd => List.mem_singleton.mp hd ▸ flagChar_digit b
  digits_ne := List.cons_ne_nil _ []

theorem flagNumeral_value (b : Bool) : (flagNumeral b).value = if b then 1 else 0 := by
  cases b <;> rfl

theorem atoi_flag (b : Bool) {s : List Char} (hs : DigitsEnd s) :
    decide (atoi (flagChar b :: s) = 1) = b := by
  have hread : atoi (flagChar b :: s) = (flagNumeral b).value := by
    refine (flagNumeral b).atoi_text hs ?_ ?_
    · rw [flagNumeral_value]
      cases b <;> decide
    · rw [flagNumeral_value]
      cases b <;> decide
  rw [hread, flagNumeral_value]
  cases b <;> rfl

namespace StatusFrame

variable (f : StatusFrame)

theorem text_fields (r : List Char) : f.text ++ r = "$C01".toList ++ ',' :: (f.idFrame.text ++ ',' ::
    (f.left.text ++ ',' :: (f.right.text ++ ',' :: flagChar f.leftAlarm :: ',' ::
      flagChar f.rightAlarm :: ',' :: flagChar f.remoteControlled :: '*' :: f.hi :: f.lo ::
        '\n' :: r))) := by
  simp [text, Status.body, Status.fields, Status.flags]

theorem idFrame_value (n : Numeral) (hlo : 0 ≤ n.value) (hhi : n.value ≤ 255) (s : List Char) :
    ((UInt8.ofInt (atoi (n.text ++ ',' :: s))).toNat : Int) = n.value := by
  rw [n.atoi_text (digitsEnd_cons rfl s) (by omega) (by omega), UInt8.ofInt, UInt8.toNat_ofNat']
  omega

/-- The parser takes the fields for what they are. -/
theorem readC01_text (r : List Char) (now : Nat) (data : DriverData) :
    ∃ data', readC01 (f.text ++ r) now data = some data' ∧ f.Decoded data' := by
  have hend : ∀ s, DigitsEnd (',' :: s) := digitsEnd_cons rfl
  rw [f.text_fields]
  unfold readC01 readC01With
  rw [bind_some (comma_field (by decide) (by decide) _), bind_some (comma_numeral _ _),
    bind_some (comma_numeral _ _), bind_some (comma_numeral _ _), bind_some (comma_flag _ _),
    bind_some (comma_flag _ _)]
  refine ⟨_, rfl, ?_, ?_, ?_, ?_, ?_, ?_⟩
  · exact idFrame_value _ f.idFrame_lower f.idFrame_upper _
  · exact f.left.atoi_text (hend _) f.left_lower f.left_upper
  · exact f.right.atoi_text (hend _) f.right_lower f.right_upper
  · exact atoi_flag _ (hend _)
  · exact atoi_flag _ (hend _)
  · exact atoi_flag _ (digitsEnd_cons rfl _)

/-! ## `RealRead` -/

/-- What is in the buffer behind a read. -/
theorem receive_text (u : ControlUnit) (h : f.text.length ≤ portRxBufferSize) :
    ∃ r, (u.receive f.text).portRxBuffer = f.text ++ r := by
  have htake : f.text.take portRxBufferSize = f.text := List.take_of_length_le h
  refine ⟨(u.portRxBuffer.drop f.text.length).set 0 '\x00', ?_⟩
  unfold ControlUnit.receive
  dsimp only
  rw [htake, List.set_append_right _ _ le_rfl, Nat.sub_self]

/-- A frame is a status for `RealRead`. -/
theorem parse_text {u : ControlUnit} {r : List Char} (hbuffer : u.portRxBuffer = f.text ++ r)
    (now : Nat) : ∃ u', u.parse now = some u' ∧ f.Decoded u'.data := by
  obtain ⟨data, hread, hdecoded⟩ := f.readC01_text r now u.data
  have hstatus : "$C01".toList <+: u.portRxBuffer := by
    rw [hbuffer, f.text_fields]
    exact List.prefix_append _ _
  have harm : ¬ "$A01".toList <+: u.portRxBuffer := by
    intro h
    have hsame := List.prefix_of_prefix_length_le h hstatus (by decide)
    exact absurd hsame (by decide)
  refine ⟨{ u with data := data }, ?_, hdecoded⟩
  unfold ControlUnit.parse
  rw [if_pos hstatus, hbuffer, bind_some hread, ← hbuffer, if_neg harm]
  rfl

/-- The frame is no error line. -/
theorem text_error (r : List Char) : ¬ "$ER".toList <+: f.text ++ r := by
  rw [f.text_fields]
  intro h
  have hsame := List.prefix_of_prefix_length_le h (List.prefix_append "$C01".toList _) (by decide)
  exact absurd hsame (by decide)

end StatusFrame

/-- The frame is taken for what it is: one read stores it inside the buffer, returns 0, and
leaves what the driver reports in `data`. -/
def Accepts (u : ControlUnit) (now : Nat) (f : StatusFrame) : Prop :=
  ∃ o, u.realRead now 1 (some f.text) = some o ∧
    (∀ i ∈ o.stores, 0 ≤ i ∧ i < portRxBufferSize) ∧ o.result = 0 ∧
    f.Decoded o.unit.data

theorem stores_inside {r : Nat} (hr : r < portRxBufferSize) :
    ∀ i ∈ (List.range (r + 1)).map Int.ofNat, 0 ≤ i ∧ i < portRxBufferSize := by
  intro i hi
  obtain ⟨n, hn, rfl⟩ := List.mem_map.mp hi
  have hlt : n < r + 1 := List.mem_range.mp hn
  refine ⟨Int.natCast_nonneg n, ?_⟩
  show (n : Int) < portRxBufferSize
  omega

/-- A frame up to the checksum. -/
theorem realRead_text (f : StatusFrame) (hlen : f.text.length ≤ portRxBufferSize) (u : ControlUnit)
    (now : Nat) : u.realRead now 1 (some f.text) =
      if verifyChecksum (u.receive f.text).portRxBuffer = 0 then
        ((u.receive f.text).parse now).map fun u =>
          { unit := { u with data := { u.data with status := 0 } }, result := 0
            stores := (List.range (f.text.length + 1)).map Int.ofNat }
      else some {
        unit := { u.receive f.text with
          data := { u.data with status := verifyChecksum (u.receive f.text).portRxBuffer } }
        result := verifyChecksum (u.receive f.text).portRxBuffer
        stores := (List.range (f.text.length + 1)).map Int.ofNat } := by
  obtain ⟨r, hbuffer⟩ := f.receive_text u hlen
  have hlong : 4 < (f.text.take portRxBufferSize).length := by
    rw [List.take_of_length_le hlen, f.text_length]
    have hbody : 4 ≤ f.body.length := by simp [Status.body]
    omega
  have herror : ¬ "$ER".toList <+: (u.receive f.text).portRxBuffer := hbuffer ▸ f.text_error r
  unfold ControlUnit.realRead
  rw [if_neg (by decide), if_neg (by decide)]
  dsimp only
  rw [if_pos hlong, if_neg herror, List.take_of_length_le hlen]
  rfl

/-- A read stores what it received, and the zero. -/
theorem realRead_stores {f : StatusFrame} (hlen : f.text.length ≤ portRxBufferSize)
    {u : ControlUnit} {now : Nat} {o : Outcome} (h : u.realRead now 1 (some f.text) = some o) :
    (f.text.length : Int) ∈ o.stores := by
  have hmem : (f.text.length : Int) ∈ (List.range (f.text.length + 1)).map Int.ofNat :=
    List.mem_map_of_mem (List.mem_range.mpr (Nat.lt_succ_self _))
  rw [realRead_text f hlen] at h
  split at h
  next =>
    obtain ⟨u', -, rfl⟩ := Option.map_eq_some_iff.mp h
    exact hmem
  next =>
    obtain rfl := Option.some.inj h
    exact hmem

/-- **A frame of at most 29 bytes is accepted, and no longer one**. -/
theorem realRead_accepts_iff (f : StatusFrame) (hlen : f.text.length ≤ portRxBufferSize)
    (u : ControlUnit) (now : Nat) : Accepts u now f ↔ f.text.length ≤ 29 := by
  obtain ⟨r, hbuffer⟩ := f.receive_text u hlen
  have hbody := f.text_length
  constructor
  · rintro ⟨o, hread, hstores, hresult, -⟩
    -- the zero is inside the buffer, so there are at most 31 bytes
    have hroom : (f.text.length : Int) < portRxBufferSize :=
      (hstores _ (realRead_stores hlen hread)).2
    have hroom : f.text.length < 32 := by exact_mod_cast hroom
    by_contra hlong
    have hwrong := f.verifyChecksum_long (by omega) r
    rw [realRead_text f hlen, hbuffer, hwrong, if_neg (by decide)] at hread
    obtain rfl := Option.some.inj hread
    have hcode : Err.invalidChecksum = 0 := hresult
    exact absurd hcode (by decide)
  · intro hshort
    obtain ⟨u', hparse, hdecoded⟩ := f.parse_text hbuffer now
    let o : Outcome :=
      { unit := { u' with data := { u'.data with status := 0 } }, result := 0
        stores := (List.range (f.text.length + 1)).map Int.ofNat }
    have hread : u.realRead now 1 (some f.text) = some o := by
      rw [realRead_text f hlen, hbuffer, if_pos (f.verifyChecksum_short _ r), hparse]
      · rfl
      · show f.body.length ≤ 24
        omega
    refine ⟨o, hread, stores_inside (lt_of_le_of_lt hshort (by decide)), rfl, ?_⟩
    exact ⟨hdecoded.1, hdecoded.2, hdecoded.3, hdecoded.4, hdecoded.5, hdecoded.6⟩

/-! ## A short frame and a long one -/

def sampleFrame : StatusFrame where
  idFrame := ⟨.none, ['7'], by simp, List.cons_ne_nil _ _⟩
  left := ⟨.none, ['1', '2'], by simp, List.cons_ne_nil _ _⟩
  right := ⟨.minus, ['8'], by simp, List.cons_ne_nil _ _⟩
  leftAlarm := false
  rightAlarm := false
  remoteControlled := true
  idFrame_lower := by decide
  idFrame_upper := by decide
  left_lower := by decide
  left_upper := by decide
  right_lower := by decide
  right_upper := by decide
  hi := '5'
  lo := '2'
  hexadecimal := by decide
  checksum := by decide

/-- `$C01,255,-1000,-1000,0,0,0*40`: both motors run backwards. -/
def sampleLongFrame : StatusFrame where
  idFrame := ⟨.none, ['2', '5', '5'], by simp, List.cons_ne_nil _ _⟩
  left := ⟨.minus, ['1', '0', '0', '0'], by simp, List.cons_ne_nil _ _⟩
  right := ⟨.minus, ['1', '0', '0', '0'], by simp, List.cons_ne_nil _ _⟩
  leftAlarm := false
  rightAlarm := false
  remoteControlled := false
  idFrame_lower := by decide
  idFrame_upper := by decide
  left_lower := by decide
  left_upper := by decide
  right_lower := by decide
  right_upper := by decide
  hi := '4'
  lo := '0'
  hexadecimal := by decide
  checksum := by decide

/-- A new unit, on memory that was zero. -/
def sampleUnit : ControlUnit := ⟨List.replicate 40 '\x00', default⟩

theorem realRead_accepts_short : Accepts sampleUnit 5 sampleFrame :=
  (realRead_accepts_iff sampleFrame (by decide) sampleUnit 5).mpr (by decide)

/-- A frame of 30 bytes, inside the buffer with its zero, is not accepted. -/
theorem realRead_refuses_long : sampleLongFrame.text = "$C01,255,-1000,-1000,0,0,0*40\n".toList ∧
    sampleLongFrame.text.length ≤ portRxBufferSize ∧
    (sampleUnit.realRead 5 1 (some sampleLongFrame.text)).map Outcome.result =
      some Err.invalidChecksum ∧
    ¬ Accepts sampleUnit 5 sampleLongFrame := by
  have hresult : (sampleUnit.realRead 5 1 (some sampleLongFrame.text)).map Outcome.result =
      some Err.invalidChecksum := by decide +kernel
  refine ⟨by decide, by decide, hresult, ?_⟩
  rintro ⟨o, hread, -, hzero, -⟩
  rw [hread, Option.map_some, hzero] at hresult
  exact absurd hresult (by decide)

end Solarbot.Driver
