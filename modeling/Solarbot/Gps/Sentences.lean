import Solarbot.Gps.Nmea
import Solarbot.Lib.Numerals

/-!
# Sentences with a good checksum

A `Sentence` is a line as a receiver sends it, with a checksum that is right and all the
fields its parser goes to. Whatever is behind it in the buffer, if only no `$` is
there, the sentence is taken for what it is (`messageType_sentence`), and the parsers read
from it what they read from the line alone (`readGpgga_line`, `readGprmc_line`): each
field is followed by the `*` of the line, where every number ends.
-/

namespace Solarbot.Gps

open CText

/-! ## Reading up to the `*` -/

theorem star_stop : Stop '*' :=
  ⟨rfl, rfl, by decide, by decide, by decide, by decide, rfl, by decide, by decide⟩

/-- There are `n` commas ahead in the text, and no zero. -/
structure Ahead (n : Nat) (q : List Char) : Prop where
  zero : '\x00' ∉ q
  commas : n ≤ q.count ','

namespace Ahead

variable {n : Nat} {q : List Char}

theorem length (h : Ahead n q) : n ≤ q.length := h.commas.trans List.count_le_length

/-- `p = strchr(p, ',') + 1` stays in front of the `*`. -/
theorem comma (h : Ahead (n + 1) q) :
    ∃ q', Ahead n q' ∧ ∀ r, comma (q ++ '*' :: r) = some (q' ++ '*' :: r) := by
  have hmem : ',' ∈ q := List.count_pos_iff.mp (by have := h.commas; omega)
  obtain ⟨pre, q', rfl, hpre⟩ := List.eq_append_cons_of_mem hmem
  refine ⟨q', ⟨?_, ?_⟩, fun r => ?_⟩
  · exact fun hz => h.zero (List.mem_append_right _ (List.mem_cons_of_mem _ hz))
  · have hcommas := h.commas
    rw [List.count_append, List.count_eq_zero_of_not_mem hpre, List.count_cons_self] at hcommas
    omega
  · have hz : '\x00' ∉ pre := fun hz => h.zero (List.mem_append_left _ hz)
    rw [Gps.comma, List.append_assoc, List.cons_append, strchr_append hpre hz]
    rfl

/-- Digits are no commas. -/
theorem dropDigits (h : Ahead n q) : Ahead n (q.dropWhile Char.isDigit) := by
  refine ⟨fun hz => h.zero ((List.dropWhile_sublist _).subset hz), ?_⟩
  have hcount : (q.takeWhile Char.isDigit).count ',' = 0 := by
    refine List.count_eq_zero_of_not_mem ?_
    intro hmem
    exact absurd (List.mem_takeWhile_imp hmem) (by decide)
  have hsplit : q.count ',' = _ :=
    congrArg (List.count ',') (List.takeWhile_append_dropWhile (p := Char.isDigit) (l := q)).symm
  rw [List.count_append, hcount, Nat.zero_add] at hsplit
  exact hsplit ▸ h.commas

end Ahead

/-- The first character. -/
theorem head_stop (q r : List Char) : (q ++ '*' :: r).headD '\x00' = (q ++ ['*']).headD '\x00' := by
  cases q with
  | nil => rfl
  | cons a q => rfl

theorem centiseconds_stop (q r : List Char) :
    centiseconds (q ++ '*' :: r) = centiseconds (q ++ ['*']) := by
  match q with
  | [] => rfl
  | [a] =>
    by_cases hpoint : a = '.'
    · subst hpoint
      rfl
    · simp [centiseconds, hpoint]
  | [a, d] =>
    by_cases hpoint : a = '.'
    · subst hpoint
      rfl
    · simp [centiseconds, hpoint]
  | a :: d :: e :: q =>
    by_cases hpoint : a = '.'
    · subst hpoint
      rfl
    · simp [centiseconds, hpoint]

/-- The degrees are three characters, and the minutes a number behind them. -/
theorem gpsToDegree_stop {q : List Char} (h : 3 ≤ q.length) (sing : Char) (r : List Char) :
    gpsToDegree (q ++ '*' :: r) sing = gpsToDegree (q ++ ['*']) sing := by
  have hdigit : ∀ i, i < 3 → ∀ s, (q ++ s).getD i '\x00' = q.getD i '\x00' :=
    fun i hi s => List.getD_append q s _ i (by omega)
  have hdrop : ∀ i, i ≤ 3 → ∀ s, (q ++ s).drop i = q.drop i ++ s :=
    fun i hi s => List.drop_append_of_le_length (by omega)
  unfold gpsToDegree
  dsimp only
  rw [hdigit 0 (by omega), hdigit 1 (by omega), hdigit 2 (by omega), hdigit 0 (by omega),
    hdigit 1 (by omega), hdigit 2 (by omega), hdrop 2 (by omega), hdrop 3 (by omega),
    hdrop 2 (by omega), hdrop 3 (by omega), atof_stop star_stop (q.drop 2) r,
    atof_stop star_stop (q.drop 3) r]

/-- A search goes behind the next comma. -/
theorem comma_field {q : List Char} (hq : ',' ∉ q) (hz : '\x00' ∉ q) (s : List Char) :
    comma (q ++ ',' :: s) = some s := by
  rw [comma, strchr_append hq hz]
  rfl

theorem comma_numeral (n : Numeral) (s : List Char) : comma (n.text ++ ',' :: s) = some s :=
  comma_field (n.not_mem_text comma_foreign) (n.not_mem_text zero_foreign) s

/-- One step of a parser. -/
theorem bind_some {α β : Type} {x : Option α} {a : α} (h : x = some a) (f : α → Option β) :
    (do let y ← x; f y) = f a := by
  rw [h]
  rfl

/-- What `nmea_parse_gpgga` takes is in front of the `*`. -/
theorem readGpgga_stop {q : List Char} (h : Ahead 14 q) :
    ∃ gga, ∀ r, readGpgga (q ++ '*' :: r) = some gga := by
  obtain ⟨time, h, htime⟩ := h.comma
  obtain ⟨latitude, h, hlatitude⟩ := h.comma
  obtain ⟨latitudeDir, h, hlatitudeDir⟩ := h.comma
  obtain ⟨longitude, h, hlongitude⟩ := h.comma
  obtain ⟨longitudeDir, h, hlongitudeDir⟩ := h.comma
  obtain ⟨quality, h, hquality⟩ := h.comma
  obtain ⟨satellites, h, hsatellites⟩ := h.comma
  obtain ⟨hdop, h, hhdop⟩ := h.comma
  obtain ⟨altitude, h, haltitude⟩ := h.comma
  obtain ⟨altitudeUnits, h, haltitudeUnits⟩ := h.comma
  obtain ⟨ondulation, h, hondulation⟩ := h.comma
  obtain ⟨ondulationUnits, h, hondulationUnits⟩ := h.comma
  obtain ⟨age, h, hage⟩ := h.comma
  obtain ⟨stationID, h, hstationID⟩ := h.comma
  have hread : ∀ r, readGpgga (q ++ '*' :: r) = some
      { quality := UInt8.ofInt (atoi (quality ++ '*' :: r))
        satellites := UInt8.ofInt (atoi (satellites ++ '*' :: r))
        hdop := atof (hdop ++ '*' :: r)
        altitude := atof (altitude ++ '*' :: r)
        ondulation := atof (ondulation ++ '*' :: r)
        age := atoi (age ++ '*' :: r)
        stationID := atoi (stationID ++ '*' :: r) } := by
    intro r
    unfold readGpgga readGpggaWith
    rw [bind_some (htime r), bind_some (hlatitude r), bind_some (hlatitudeDir r),
      bind_some (hlongitude r), bind_some (hlongitudeDir r), bind_some (hquality r),
      bind_some (hsatellites r), bind_some (hhdop r), bind_some (haltitude r),
      bind_some (haltitudeUnits r), bind_some (hondulation r), bind_some (hondulationUnits r),
      bind_some (hage r), bind_some (hstationID r)]
    rfl
  have hsame : ∀ r, readGpgga (q ++ '*' :: r) = readGpgga (q ++ ['*']) := by
    intro r
    rw [hread r, hread [], atoi_stop star_stop quality r, atoi_stop star_stop satellites r,
      atof_stop star_stop hdop r, atof_stop star_stop altitude r, atof_stop star_stop ondulation r,
      atoi_stop star_stop age r, atoi_stop star_stop stationID r]
  exact ⟨_, fun r => (hsame r).trans (hread [])⟩

/-- What `nmea_parse_gprmc` takes is in front of the `*`. -/
theorem readGprmc_stop {q : List Char} (h : Ahead 9 q) :
    ∃ rmc, ∀ r, readGprmc (q ++ '*' :: r) = some rmc := by
  obtain ⟨time, h, htime⟩ := h.comma
  obtain ⟨status, h, hstatus⟩ := h.dropDigits.comma
  obtain ⟨latStart, hlat, hlatStart⟩ := h.comma
  obtain ⟨latDir, h, hlatDir⟩ := hlat.comma
  obtain ⟨lonStart, hlon, hlonStart⟩ := h.comma
  obtain ⟨lonDir, h, hlonDir⟩ := hlon.comma
  obtain ⟨speed, h, hspeed⟩ := h.comma
  obtain ⟨course, h, hcourse⟩ := h.comma
  obtain ⟨date, h, hdate⟩ := h.comma
  have hlatitude := gpsToDegree_stop (le_trans (by omega) hlat.length)
  have hlongitude := gpsToDegree_stop (le_trans (by omega) hlon.length)
  have hdigits : ∀ r, (time ++ '*' :: r).dropWhile Char.isDigit =
      time.dropWhile Char.isDigit ++ '*' :: r := fun r => dropWhile_stop (by rfl) time r
  -- what is read of each field ends at the star
  have hread : ∀ r, readGprmc (q ++ '*' :: r) = some
      { date := UInt32.ofInt (atol (date ++ '*' :: r))
        time := 100 * UInt32.ofInt (atol (time ++ '*' :: r)) +
          centiseconds (time.dropWhile Char.isDigit ++ '*' :: r)
        latitude := if (status ++ '*' :: r).headD '\x00' = 'A' then
          gpsToDegree (latStart ++ '*' :: r) ((latDir ++ '*' :: r).headD '\x00') else 0
        longitude := if (status ++ '*' :: r).headD '\x00' = 'A' then
          gpsToDegree (lonStart ++ '*' :: r) ((lonDir ++ '*' :: r).headD '\x00') else 0
        speed := atof (speed ++ '*' :: r)
        course := atof (course ++ '*' :: r)
        status := (status ++ '*' :: r).headD '\x00' } := by
    intro r
    unfold readGprmc readGprmcWith
    rw [bind_some (htime r), hdigits, bind_some (hstatus r), bind_some (hlatStart r),
      bind_some (hlatDir r), bind_some (hlonStart r), bind_some (hlonDir r), bind_some (hspeed r),
      bind_some (hcourse r), bind_some (hdate r)]
    simp only [coordinateWith_memory]
    rfl
  have hsame : ∀ r, readGprmc (q ++ '*' :: r) = readGprmc (q ++ ['*']) := by
    intro r
    rw [hread r, hread [], atol_stop star_stop date r, atol_stop star_stop time r,
      centiseconds_stop _ r, head_stop status r, head_stop latDir r, head_stop lonDir r,
      hlatitude _ r, hlongitude _ r, atof_stop star_stop speed r, atof_stop star_stop course r]
  exact ⟨_, fun r => (hsame r).trans (hread [])⟩

/-! ## Sentences -/

inductive Kind
  | gprmc | gpgga | other
  deriving DecidableEq, Repr

namespace Kind

/-- What `nmea_get_message_type` has for it. -/
def type : Kind → UInt8
  | .gprmc => nmeaGprmc
  | .gpgga => nmeaGpgga
  | .other => nmeaUnknown

/-- The commas its parser goes to. -/
def commas : Kind → Nat
  | .gprmc => 9
  | .gpgga => 14
  | .other => 0

/-- The kind of the sentence with this between `$` and `*`. -/
def ofBody (body : List Char) : Kind :=
  if "GNGGA".toList <+: body then .gpgga
  else if "GNRMC".toList <+: body then .gprmc
  else .other

end Kind

/-- The sum over what is between `$` and `*`. -/
def bodySum (body : List Char) : UInt8 :=
  body.foldl (fun sum p => sum ^^^ UInt8.ofNat p.toNat) 0

/-- A sentence the checksum test of the source can accept, complete as far as its parser
goes, and the epoch it belongs to. -/
structure Sentence where
  epoch : Nat
  body : List Char
  hi : Char
  lo : Char
  dollar : '$' ∉ body
  star : '*' ∉ body
  zero : '\x00' ∉ body
  fits : body.length ≤ serialPortRxBufferSize - 8
  hexadecimal : (hexDigit hi).isSome ∧ (hexDigit lo).isSome
  checksum : hexVal [hi, lo] = (bodySum body).toNat
  complete : (Kind.ofBody body).commas ≤ body.count ','

namespace Sentence

variable (s : Sentence)

def kind : Kind := .ofBody s.body

/-- The line the receiver sends. -/
def line : List Char := '$' :: s.body ++ ['*', s.hi, s.lo, '\r', '\n']

/-- The first field behind the type: hhmmss.cc. -/
def utc : List Char := (s.body.splitOn ',').getD 1 []

variable {s}

/-- The line in the buffer, with anything behind it. -/
theorem line_append (r : List Char) :
    s.line ++ r = '$' :: (s.body ++ '*' :: s.hi :: s.lo :: '\r' :: '\n' :: r) := by
  simp [line]

/-- The only `$` of a line is at its front. -/
theorem tail_plain (s : Sentence) {r : List Char} (hr : '$' ∉ r) : '$' ∉ (s.line ++ r).tail := by
  have hdigit : ∀ c, (hexDigit c).isSome = true → '$' ≠ c := by
    rintro c hc rfl
    exact absurd hc (by decide)
  rw [line_append, List.tail_cons]
  intro h
  rcases List.mem_append.mp h with h | h
  · exact s.dollar h
  · simp only [List.mem_cons] at h
    rcases h with h | h | h | h | h | h
    · exact absurd h (by decide)
    · exact hdigit _ s.hexadecimal.1 h
    · exact hdigit _ s.hexadecimal.2 h
    · exact absurd h (by decide)
    · exact absurd h (by decide)
    · exact hr h

theorem line_length : s.line.length ≤ serialPortRxBufferSize := by
  have hfits : s.body.length ≤ 247 := s.fits
  have hlength : s.line.length = s.body.length + 6 := by simp [line]
  rw [hlength]
  show _ ≤ 255
  omega

/-! ## The checksum -/

/-- The loop stops at the `*`. -/
theorem checksumLoop_body {body : List Char} (hstar : '*' ∉ body) :
    ∀ {n : Nat} (sum : UInt8) (r : List Char), body.length ≤ n →
      checksumLoop n sum (body ++ '*' :: r) =
        (body.foldl (fun sum p => sum ^^^ UInt8.ofNat p.toNat) sum, r) := by
  induction body with
  | nil =>
    intro n sum r _
    rw [List.nil_append, checksumLoop, if_neg (fun h => h.1 rfl)]
    rfl
  | cons p body ih =>
    intro n sum r hn
    have hp : p ≠ '*' := fun h => hstar (by rw [h]; exact List.mem_cons_self)
    rw [List.length_cons] at hn
    rw [List.cons_append, checksumLoop, if_pos ⟨hp, by omega⟩]
    exact ih (fun h => hstar (List.mem_cons_of_mem _ h)) _ _ (by omega)

/-- The number of a byte, as a byte. -/
theorem ofInt_toNat (b : UInt8) : UInt8.ofInt (b.toNat : Int) = b := by
  have hlt := b.toNat_lt
  rw [UInt8.ofInt, Int.emod_eq_of_lt (by omega) (by omega), Int.toNat_natCast, UInt8.ofNat_toNat]

theorem validChecksum (r : List Char) : nmeaValidChecksum (s.line ++ r) = nmeaEmpty := by
  have hnone : hexDigit '\r' = none := by decide
  unfold nmeaValidChecksum
  rw [line_append, List.tail_cons, checksumLoop_body s.star _ _ s.fits]
  dsimp only
  rw [strtol16_pair s.hexadecimal.1 s.hexadecimal.2 hnone, s.checksum, ofInt_toNat]
  exact if_neg (fun h => h rfl)

/-! ## The type -/

/-- A text without a `*` is at the front of the line when it is at the front of the body. -/
theorem front_iff {front : List Char} (hfront : '*' ∉ front) (r : List Char) :
    front <+: (s.body ++ '*' :: r).takeWhile (· ≠ '\x00') ↔ front <+: s.body := by
  have hzero : ∀ c ∈ s.body, decide (c ≠ '\x00') = true := by
    intro c hc
    have hne : c ≠ '\x00' := fun h => s.zero (h ▸ hc)
    exact decide_eq_true hne
  rw [List.takeWhile_append_of_pos hzero, List.takeWhile_cons_of_pos (by decide)]
  constructor
  · intro h
    by_cases hlen : front.length ≤ s.body.length
    · exact List.prefix_of_prefix_length_le h (List.prefix_append _ _) hlen
    · -- a longer one would have the `*` in it
      have hstar : s.body ++ ['*'] <+: front := by
        refine List.prefix_of_prefix_length_le ?_ h ?_
        · exact ⟨_, by rw [List.append_assoc]; rfl⟩
        · rw [List.length_append, List.length_singleton]
          omega
      exact absurd (hstar.subset (List.mem_append_right _ List.mem_cons_self)) hfront
  · exact fun h => h.trans (List.prefix_append _ _)

/-- **The sentence is taken for what it is**, when no `$` is behind it. -/
theorem messageType_sentence {r : List Char} (hr : '$' ∉ r) :
    nmeaGetMessageType (s.line ++ r) = s.kind.type := by
  have hdollar := s.tail_plain hr
  rw [line_append, List.tail_cons] at hdollar
  have hsearch : ∀ front : List Char, '*' ∉ front →
      strstr (s.line ++ r) ('$' :: front) = decide (front <+: s.body) := by
    intro front hfront
    rw [line_append, strstr_front (by decide) hdollar]
    exact decide_eq_decide.mpr (front_iff hfront _)
  have hgga : strstr (s.line ++ r) nmeaGpggaStr = decide ("GNGGA".toList <+: s.body) :=
    hsearch _ (by decide)
  have hrmc : strstr (s.line ++ r) nmeaGprmcStr = decide ("GNRMC".toList <+: s.body) :=
    hsearch _ (by decide)
  unfold nmeaGetMessageType
  rw [validChecksum, if_neg (fun h => h rfl), hgga, hrmc]
  unfold kind Kind.ofBody
  by_cases h₁ : "GNGGA".toList <+: s.body
  · rw [if_pos (decide_eq_true h₁), if_pos h₁]
    rfl
  · rw [if_neg (by rw [decide_eq_false h₁]; decide), if_neg h₁]
    by_cases h₂ : "GNRMC".toList <+: s.body
    · rw [if_pos (decide_eq_true h₂), if_pos h₂]
      rfl
    · rw [if_neg (by rw [decide_eq_false h₂]; decide), if_neg h₂]
      rfl

/-! ## The parsers -/

/-- The commas of the body are ahead of the parser. -/
theorem ahead : Ahead s.kind.commas ('$' :: s.body) := by
  refine ⟨fun h => ?_, ?_⟩
  · rcases List.mem_cons.mp h with h | h
    · exact absurd h (by decide)
    · exact s.zero h
  · rw [List.count_cons_of_ne (by decide)]
    exact s.complete

/-- **What is behind the line does not matter** to `nmea_parse_gpgga`, which finds all its
commas. -/
theorem readGpgga_line (h : s.kind = .gpgga) :
    ∃ gga, readGpgga s.line = some gga ∧ ∀ r, readGpgga (s.line ++ r) = some gga := by
  have hahead := s.ahead
  rw [h] at hahead
  obtain ⟨gga, hgga⟩ := readGpgga_stop hahead
  have hline : ∀ r, readGpgga (s.line ++ r) = some gga := by
    intro r
    rw [line_append]
    exact hgga _
  exact ⟨gga, List.append_nil s.line ▸ hline [], hline⟩

/-- Nor to `nmea_parse_gprmc`. -/
theorem readGprmc_line (h : s.kind = .gprmc) :
    ∃ rmc, readGprmc s.line = some rmc ∧ ∀ r, readGprmc (s.line ++ r) = some rmc := by
  have hahead := s.ahead
  rw [h] at hahead
  obtain ⟨rmc, hrmc⟩ := readGprmc_stop hahead
  have hline : ∀ r, readGprmc (s.line ++ r) = some rmc := by
    intro r
    rw [line_append]
    exact hrmc _
  exact ⟨rmc, List.append_nil s.line ▸ hline [], hline⟩

end Sentence

end Solarbot.Gps
