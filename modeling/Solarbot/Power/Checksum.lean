import Solarbot.Gps.Sentences
import Solarbot.Lib.HexNumber
import Solarbot.Power.Read

/-!
# The checksum of a received line

`GPS::nmea_valid_checksum` and `PowerUnit::VerifyChecksum` add up what is between the
first byte and a `*`, and compare with the number behind it. The loop ends at the `*` or
after so many bytes, but not where the received line ends, and `strtol` reads on as long
as there are digits: what the buffer still holds of earlier lines is as good as what was
received. `checksum_sound_iff` says for which lines a success means what it should,
whatever the buffer held: for those that carry their checksum, and for those where the
loop ends inside the line at a number that is wrong and stays so with digits behind it.
-/

namespace Solarbot.Power

open CText Gps

/-- The text a function sees of a buffer with this in it, when a line was stored at its
start. -/
def stored (line before : List Char) : List Char := line ++ before.drop line.length

/-- The loop and the comparison of the two functions, which run over at most `limit`
bytes. -/
def Accepts (limit : Nat) (message : List Char) : Prop :=
  (checksumLoop limit 0 message.tail).1
    = UInt8.ofInt (strtol16 (checksumLoop limit 0 message.tail).2)

theorem nmeaValidChecksum_iff (message : List Char) :
    nmeaValidChecksum message = nmeaEmpty ↔ Accepts (serialPortRxBufferSize - 8) message := by
  unfold nmeaValidChecksum Accepts
  dsimp only
  split
  next h => exact iff_of_false (by decide) h
  next h => exact iff_of_true rfl (not_not.mp h)

theorem verifyChecksum_iff (message : List Char) :
    verifyChecksum message = 0 ↔ Accepts (portRxBufferSize - 8) message := by
  unfold verifyChecksum Accepts
  dsimp only
  split
  next h => exact iff_of_false (by decide) h
  next h => exact iff_of_true rfl (not_not.mp h)

/-! ## A line -/

/-- The line carries its checksum: it has a `*` behind its first byte, and the number
behind that is the sum of what is between. -/
def Carries (line : List Char) : Prop :=
  ∃ first body number, line = first :: (body ++ '*' :: number) ∧ '*' ∉ body ∧
    hexDigits number ≠ [] ∧ strtol16 number = (bodySum body).toNat

/-- The loop on the line alone: the sum, and what is behind the byte it ends at; `none`
when the line ends first. -/
def scan : Nat → UInt8 → List Char → Option (UInt8 × List Char)
  | _, _, [] => none
  | n, sum, p :: line =>
    if p ≠ '*' ∧ 0 < n then scan (n - 1) (sum ^^^ UInt8.ofNat p.toNat) line else some (sum, line)

/-- The loop ends inside the line, and the number there is wrong, as it stands and with
one or two digits behind it. -/
def Refused (limit : Nat) (line : List Char) : Prop :=
  ∃ sum number, scan limit 0 line.tail = some (sum, number) ∧
    ∀ t ∈ completions, UInt8.ofInt (strtol16 (number ++ t)) ≠ sum

instance (limit : Nat) (line : List Char) : Decidable (Refused limit line) :=
  match h : scan limit 0 line.tail with
  | none => isFalse (by simp [Refused, h])
  | some (sum, number) =>
    decidable_of_iff (∀ t ∈ completions, UInt8.ofInt (strtol16 (number ++ t)) ≠ sum)
      (by simp [Refused, h])

example : Refused 92 "$A*40\r\n".toList ∧ ¬ Refused 92 "$A*4".toList := by decide +kernel

theorem scan_some {q number : List Char} {s : UInt8} :
    ∀ {n : Nat} {sum : UInt8}, scan n sum q = some (s, number) → ∀ r : List Char,
      checksumLoop n sum (q ++ r) = (s, number ++ r) := by
  induction q with
  | nil =>
    intro n sum h
    cases h
  | cons p q ih =>
    intro n sum h r
    unfold scan at h
    rw [List.cons_append, checksumLoop]
    split at h
    next hp =>
      rw [if_pos hp]
      exact ih h r
    next hp =>
      rw [if_neg hp]
      obtain ⟨rfl, rfl⟩ := Prod.mk.inj (Option.some.inj h)
      rfl

/-- A line that ends first has no `*`, and the loop goes on behind it. -/
theorem scan_none {q : List Char} : ∀ {n : Nat} {sum : UInt8}, scan n sum q = none →
    '*' ∉ q ∧ ∃ s, ∀ r : List Char, checksumLoop n sum (q ++ '*' :: r) = (s, r) := by
  induction q with
  | nil =>
    intro n sum _
    refine ⟨List.not_mem_nil, sum, fun r => ?_⟩
    rw [List.nil_append, checksumLoop, if_neg (fun h => h.1 rfl)]
  | cons p q ih =>
    intro n sum h
    unfold scan at h
    split at h
    next hp =>
      obtain ⟨hstar, s, hs⟩ := ih h
      refine ⟨?_, s, fun r => ?_⟩
      · rw [List.mem_cons, not_or]
        exact ⟨fun he => hp.1 he.symm, hstar⟩
      · rw [List.cons_append, checksumLoop, if_pos hp, hs]
    next => cases h

/-- The byte, as two digits. -/
def twoDigits (b : UInt8) : List Char := [hexChar (b.toNat / 16), hexChar (b.toNat % 16)]

theorem strtol16_twoDigits (b : UInt8) (r : List Char) :
    UInt8.ofInt (strtol16 (twoDigits b ++ '\x00' :: r)) = b := by
  rw [strtol16_zero]
  revert b
  decide +kernel

/-! ## Soundness -/

/-- **The two functions in general.** Over any buffer of at least `size` bytes, what is
accepted carries its checksum, exactly when the line does or is refused. -/
theorem sound_iff (limit size : Nat) {line : List Char} (hline : line ≠ []) :
    (∀ before : List Char, size ≤ before.length → Accepts limit (stored line before) →
      Carries line) ↔ Carries line ∨ Refused limit line := by
  obtain ⟨first, rest, rfl⟩ := List.exists_cons_of_ne_nil hline
  have htail : ∀ before, (stored (first :: rest) before).tail
      = rest ++ before.drop (rest.length + 1) := fun before => rfl
  -- a buffer that has `behind` after the line
  have hbuffer : ∀ behind : List Char, ∃ before : List Char, size ≤ before.length ∧
      (stored (first :: rest) before).tail
        = rest ++ (behind ++ '\x00' :: List.replicate size '\x00') := by
    intro behind
    refine ⟨List.replicate (rest.length + 1) ' ' ++
      (behind ++ '\x00' :: List.replicate size '\x00'), ?_, ?_⟩
    · simp only [List.length_append, List.length_cons, List.length_replicate]
      omega
    · rw [htail, List.drop_left' List.length_replicate]
  constructor
  · intro h
    by_contra hcond
    obtain ⟨hcarries, hrefused⟩ := not_or.mp hcond
    cases hscan : scan limit 0 rest with
    | none =>
      obtain ⟨-, s, hloop⟩ := scan_none hscan
      obtain ⟨before, hsize, hbefore⟩ := hbuffer ('*' :: twoDigits s)
      refine hcarries (h before hsize ?_)
      rw [Accepts, hbefore, List.cons_append, hloop]
      exact (strtol16_twoDigits s _).symm
    | some result =>
      obtain ⟨sum, number⟩ := result
      -- digits that make the number right
      obtain ⟨t, hnumber⟩ : ∃ t, UInt8.ofInt (strtol16 (number ++ t)) = sum := by
        by_contra hno
        exact hrefused ⟨sum, number, hscan, fun t _ ht => hno ⟨t, ht⟩⟩
      obtain ⟨before, hsize, hbefore⟩ := hbuffer t
      refine hcarries (h before hsize ?_)
      rw [Accepts, hbefore, scan_some hscan, ← List.append_assoc]
      dsimp only
      rw [strtol16_zero, hnumber]
  · intro hcond before _ haccepts
    rcases hcond with hcarries | ⟨sum, number, hscan, hno⟩
    · exact hcarries
    · rw [List.tail_cons] at hscan
      rw [Accepts, htail, scan_some hscan] at haccepts
      obtain ⟨t, ht, hsum⟩ := (continues_iff number sum).mp ⟨_, haccepts.symm⟩
      exact absurd hsum (hno t ht)

theorem read_stored {line : List Char} (hlen : line.length ≤ serialPortRxBufferSize) (g : GPS) :
    (g.read line).portRxBuffer = stored line g.portRxBuffer := by
  rw [GPS.read, List.take_of_length_le hlen]
  rfl

theorem receive_stored {line : List Char} (hlen : line.length ≤ portRxBufferSize)
    (u : PowerUnit) : (u.receive line).portRxBuffer = stored line u.portRxBuffer := by
  rw [PowerUnit.receive, List.take_of_length_le hlen]
  rfl

/-- `nmea_valid_checksum` after a read of `getLocation`. -/
def GpsSound (line : List Char) : Prop :=
  ∀ g : GPS, serialPortRxBufferSize + 1 ≤ g.portRxBuffer.length →
    nmeaValidChecksum (g.read line).portRxBuffer = nmeaEmpty → Carries line

/-- `VerifyChecksum` after a read of `PowerUnit::Read`. -/
def PowerUnitSound (line : List Char) : Prop :=
  ∀ u : PowerUnit, portRxBufferSize + 1 ≤ u.portRxBuffer.length →
    verifyChecksum (u.receive line).portRxBuffer = 0 → Carries line

/-- **Checksum soundness.** A success of either function means that the line carries its
checksum, whatever the buffer held, exactly for the lines that do and for those that are
refused by themselves. -/
theorem checksum_sound_iff (line : List Char) (hline : line ≠ []) :
    (line.length ≤ serialPortRxBufferSize →
      (GpsSound line ↔ Carries line ∨ Refused (serialPortRxBufferSize - 8) line)) ∧
    (line.length ≤ portRxBufferSize →
      (PowerUnitSound line ↔ Carries line ∨ Refused (portRxBufferSize - 8) line)) := by
  constructor
  · intro hlen
    rw [← sound_iff _ (serialPortRxBufferSize + 1) hline]
    simp only [GpsSound, read_stored hlen, nmeaValidChecksum_iff]
    exact ⟨fun h before => h ⟨before⟩, fun h g => h g.portRxBuffer⟩
  · intro hlen
    rw [← sound_iff _ (portRxBufferSize + 1) hline]
    simp only [PowerUnitSound, receive_stored hlen, verifyChecksum_iff]
    exact ⟨fun h before => h ⟨before, default⟩, fun h u => h u.portRxBuffer⟩

/-- The line `$A` with its checksum, and with another one. -/
theorem checksum_sound_sample :
    (GpsSound "$A*41\r\n".toList ∧ PowerUnitSound "$A*41\r\n".toList) ∧
      GpsSound "$A*40\r\n".toList ∧ PowerUnitSound "$A*40\r\n".toList := by
  have hcarries : Carries "$A*41\r\n".toList :=
    ⟨'$', ['A'], "41\r\n".toList, rfl, by decide, by decide, by decide⟩
  have hsound := checksum_sound_iff "$A*41\r\n".toList (by decide)
  have hwrong := checksum_sound_iff "$A*40\r\n".toList (by decide)
  refine ⟨⟨(hsound.1 (by decide)).mpr (.inl hcarries), (hsound.2 (by decide)).mpr (.inl hcarries)⟩,
    (hwrong.1 (by decide)).mpr (.inr ?_), (hwrong.2 (by decide)).mpr (.inr ?_)⟩
  · decide +kernel
  · decide +kernel

/-- A buffer that has received `$ABC*40`. -/
def sampleBuffer : List Char := "$ABC*40\r\n".toList ++ List.replicate 256 '\x00'

/-- A line without a `*` has the checksum of the line before. -/
theorem leftover_accepted :
    nmeaValidChecksum (GPS.read ⟨sampleBuffer⟩ "$0z\n".toList).portRxBuffer = nmeaEmpty ∧
    verifyChecksum (PowerUnit.receive ⟨sampleBuffer, default⟩ "$0z\n".toList).portRxBuffer = 0 ∧
    ¬ Carries "$0z\n".toList := by
  refine ⟨by decide, by decide, ?_⟩
  intro hcarries
  obtain ⟨first, body, number, hline, -⟩ := hcarries
  have hstar : '*' ∈ "$0z\n".toList := by
    rw [hline]
    simp
  exact absurd hstar (by decide)

end Solarbot.Power
