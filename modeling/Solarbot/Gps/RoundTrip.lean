import Solarbot.Gps.Sentences
import Solarbot.Lib.Printing

/-!
# What is written into a sentence comes back

`Rmc` and `Gga` are sentences by their values, and `text` is how a receiver writes them. Numbers
have any number of digits where the format leaves that open, and the fields that nobody reads hold
anything but a comma and a zero. Parsing both sentences into one location gives the values back
(`parse_roundTrip`), in whichever order they come and whatever the location held.

Mirroring notes vs `GPS.cpp`:
- `year`, `month` and so on take a date or a time apart, as `uint8_t` and `uint16_t`.
-/

namespace Solarbot.Gps

open CText

/-! ## Dates and times -/

section Calendar

variable (date time : UInt32)

def year : UInt16 := 2000 + (date % 100).toUInt16

def month : UInt8 := (date / 100 % 100).toUInt8

def day : UInt8 := (date / 10000).toUInt8

def hour : UInt8 := (time / 1000000).toUInt8

def minute : UInt8 := (time / 10000 % 100).toUInt8

def second : UInt8 := (time / 100 % 100).toUInt8

def centisecond : UInt8 := (time % 100).toUInt8

end Calendar

/-! ## The values -/

/-- Three numbers of two digits in a row. -/
def pairs (a b c : Fin 100) : List Char := places 2 a ++ places 2 b ++ places 2 c

theorem pairs_digit (a b c : Fin 100) : ∀ d ∈ pairs a b c, d.isDigit = true := by
  intro d hd
  rcases List.mem_append.mp hd with hd | hd
  · rcases List.mem_append.mp hd with hd | hd
    · exact places_digit 2 a d hd
    · exact places_digit 2 b d hd
  · exact places_digit 2 c d hd

theorem pairs_ne (a b c : Fin 100) : pairs a b c ≠ [] := by
  intro h
  have hlength := congrArg List.length h
  simp [pairs] at hlength

/-- Three pairs of digits are read as one number. -/
theorem digitsVal_pairs (a b c : Fin 100) :
    digitsVal (pairs a b c) = 10000 * a + 100 * b + c := by
  rw [pairs, digitsVal_append, digitsVal_append, digitsVal_places_of_lt a.isLt,
    digitsVal_places_of_lt b.isLt, digitsVal_places_of_lt c.isLt, places_length, places_length]
  omega

/-- A time of the day, two digits for each part. -/
structure Utc where
  hour : Fin 100
  minute : Fin 100
  second : Fin 100
  centisecond : Fin 100

/-- hhmmss.cc -/
def Utc.text (t : Utc) : List Char :=
  pairs t.hour t.minute t.second ++ '.' :: places 2 t.centisecond

structure Date where
  day : Fin 100
  month : Fin 100
  year : Fin 100

/-- ddmmyy -/
def Date.text (d : Date) : List Char := pairs d.day d.month d.year

/-- Degrees with `k` digits, and minutes with two digits in front of the point. -/
structure Angle (k : Nat) where
  degrees : Fin (10 ^ k)
  minutes : Fin 100
  fraction : List Char
  fraction_digit : ∀ d ∈ fraction, d.isDigit = true

namespace Angle

variable {k : Nat} (a : Angle k)

theorem whole_ne (fraction : List Char) : places 2 a.minutes ++ fraction ≠ [] := by
  intro h
  have hlength := congrArg List.length h
  simp at hlength

/-- The minutes as a number. -/
def minutesText : Decimal where
  sign := .none
  whole := places 2 a.minutes
  fraction := some a.fraction
  whole_digit := places_digit 2 a.minutes
  fraction_digit := a.fraction_digit
  digits_ne := a.whole_ne a.fraction

/-- ddmm.m -/
def text : List Char := places k a.degrees ++ a.minutesText.text

/-- In degrees. -/
def value : ℚ := (a.degrees : ℕ) + a.minutesText.value / 60

end Angle

/-- The text of a field that nobody reads. -/
structure Unused where
  text : List Char
  comma : ',' ∉ text
  zero : '\x00' ∉ text

/-- An RMC sentence. -/
structure Rmc where
  header : Unused
  utc : Utc
  latitude : Angle 2
  north : Bool
  longitude : Angle 3
  east : Bool
  speed : Decimal
  course : Decimal
  date : Date
  /-- What is behind the date, in the sentence and in memory. -/
  rest : List Char
  rest_end : DigitsEnd rest

/-- A GGA sentence. -/
structure Gga where
  header : Unused
  utc : Unused
  latitude : Unused
  latitudeDir : Unused
  longitude : Unused
  longitudeDir : Unused
  quality : Numeral
  satellites : Numeral
  hdop : Decimal
  altitude : Decimal
  altitudeUnits : Unused
  undulation : Decimal
  undulationUnits : Unused
  age : Numeral
  stationID : Numeral
  /-- What is behind the station, in the sentence and in memory. -/
  rest : List Char
  rest_end : DigitsEnd rest
  quality_range : 0 ≤ quality.value ∧ quality.value ≤ 255
  satellites_range : 0 ≤ satellites.value ∧ satellites.value ≤ 255
  age_range : -2 ^ 31 ≤ age.value ∧ age.value < 2 ^ 31
  stationID_range : -2 ^ 31 ≤ stationID.value ∧ stationID.value < 2 ^ 31

def Rmc.text (s : Rmc) : List Char :=
  s.header.text ++ ',' :: (s.utc.text ++ ',' :: 'A' :: ',' :: (s.latitude.text ++ ',' ::
    (if s.north then 'N' else 'S') :: ',' :: (s.longitude.text ++ ',' ::
    (if s.east then 'E' else 'W') :: ',' :: (s.speed.text ++ ',' :: (s.course.text ++ ',' ::
    (s.date.text ++ s.rest))))))

def Gga.text (s : Gga) : List Char :=
  s.header.text ++ ',' :: (s.utc.text ++ ',' :: (s.latitude.text ++ ',' :: (s.latitudeDir.text ++
    ',' :: (s.longitude.text ++ ',' :: (s.longitudeDir.text ++ ',' :: (s.quality.text ++ ',' ::
    (s.satellites.text ++ ',' :: (s.hdop.text ++ ',' :: (s.altitude.text ++ ',' ::
    (s.altitudeUnits.text ++ ',' :: (s.undulation.text ++ ',' :: (s.undulationUnits.text ++ ',' ::
    (s.age.text ++ ',' :: (s.stationID.text ++ s.rest))))))))))))))

/-! ## Dates and times as numbers -/

/-- The digits in front of the point. -/
def Utc.clock (t : Utc) : Numeral where
  sign := .none
  digits := pairs t.hour t.minute t.second
  digits_digit := pairs_digit _ _ _
  digits_ne := pairs_ne _ _ _

def Date.number (d : Date) : Numeral where
  sign := .none
  digits := pairs d.day d.month d.year
  digits_digit := pairs_digit _ _ _
  digits_ne := pairs_ne _ _ _

/-- The time in front of its point, as a number. -/
theorem Utc.clock_value (t : Utc) :
    t.clock.value = (10000 * t.hour + 100 * t.minute + t.second : ℕ) := by
  rw [← digitsVal_pairs]
  exact one_mul _

theorem Date.number_value (d : Date) :
    d.number.value = (10000 * d.day + 100 * d.month + d.year : ℕ) := by
  rw [← digitsVal_pairs]
  exact one_mul _

theorem Utc.text_append (t : Utc) (r : List Char) :
    t.text ++ r = t.clock.text ++ '.' :: (places 2 t.centisecond ++ r) := by
  simp [text, Numeral.text, clock, Sign.text]

theorem Date.text_eq (d : Date) : d.text = d.number.text := rfl

/-- The centiseconds behind the point. -/
theorem centiseconds_text (c : Fin 100) (r : List Char) :
    (centiseconds ('.' :: (places 2 c ++ r))).toNat = c := by
  have hc := c.isLt
  have hten : (c : ℕ) / 10 % 10 < 10 := Nat.mod_lt _ (by decide)
  have hone : (c : ℕ) % 10 < 10 := Nat.mod_lt _ (by decide)
  show (if (Nat.digitChar _).isDigit = true then _ else _ : UInt32).toNat = _
  rw [if_pos (digitChar_digit hten)]
  show (_ + if (Nat.digitChar _).isDigit = true then _ else _ : UInt32).toNat = _
  rw [if_pos (digitChar_digit hone), digitChar_toNat hten, digitChar_toNat hone,
    Nat.add_sub_cancel_left, Nat.add_sub_cancel_left, UInt32.toNat_add, UInt32.toNat_mul,
    UInt32.toNat_ofNat', UInt32.toNat_ofNat']
  have hsplit : 10 * ((c : ℕ) / 10 % 10) + (c : ℕ) % 10 = c := by omega
  show (10 * ((c : ℕ) / 10 % 10 % _) % _ + (c : ℕ) % 10 % _) % 2 ^ 32 = _
  generalize (c : ℕ) / 10 % 10 = d at *
  generalize (c : ℕ) % 10 = e at *
  omega

/-- The time of a location, as it is packed. -/
theorem time_toNat (t : Utc) (r : List Char) :
    (100 * UInt32.ofInt t.clock.value + centiseconds ('.' :: (places 2 t.centisecond ++ r))).toNat =
      1000000 * t.hour + 10000 * t.minute + 100 * t.second + t.centisecond := by
  have hh := t.hour.isLt
  have hm := t.minute.isLt
  have hs := t.second.isLt
  have hc := t.centisecond.isLt
  rw [UInt32.toNat_add, UInt32.toNat_mul, centiseconds_text, Utc.clock_value, UInt32.ofInt,
    UInt32.toNat_ofNat']
  show (100 * _ % _ + _) % 2 ^ 32 = _
  omega

/-- A date fits the 32 bits it is kept in. -/
theorem date_toNat (d : Date) :
    (UInt32.ofInt d.number.value).toNat = 10000 * d.day + 100 * d.month + d.year := by
  have hd := d.day.isLt
  have hm := d.month.isLt
  have hy := d.year.isLt
  rw [Date.number_value, UInt32.ofInt, UInt32.toNat_ofNat']
  omega

/-- The parts of a packed time. -/
theorem time_parts {time : UInt32} {h m s c : Nat} (hh : h < 100) (hm : m < 100) (hs : s < 100)
    (hc : c < 100) (htime : time.toNat = 1000000 * h + 10000 * m + 100 * s + c) :
    (hour time).toNat = h ∧ (minute time).toNat = m ∧ (second time).toNat = s ∧
      (centisecond time).toNat = c := by
  unfold hour minute second centisecond
  simp only [UInt32.toNat_toUInt8, UInt32.toNat_div, UInt32.toNat_mod, UInt32.reduceToNat]
  omega

/-- Day, month and year are taken out of the date again. -/
theorem date_parts {date : UInt32} {d m y : Nat} (hd : d < 100) (hm : m < 100) (hy : y < 100)
    (hdate : date.toNat = 10000 * d + 100 * m + y) :
    (day date).toNat = d ∧ (month date).toNat = m ∧ (year date).toNat = 2000 + y := by
  unfold day month year
  simp only [UInt32.toNat_toUInt8, UInt32.toNat_toUInt16, UInt16.toNat_add, UInt32.toNat_div,
    UInt32.toNat_mod, UInt32.reduceToNat, UInt16.reduceToNat]
  omega

/-! ## Degrees -/

/-- A digit of the degrees. -/
theorem digit_value {n : Nat} (h : n < 10) : ((n.digitChar.toNat : ℕ) : ℚ) - 48 = n := by
  rw [digitChar_toNat h]
  push_cast
  ring

/-- A latitude is read back, with its sign. -/
theorem gpsToDegree_latitude (a : Angle 2) (north : Bool) (r : List Char) :
    gpsToDegree (a.text ++ ',' :: r) (if north then 'N' else 'S') =
      if north then a.value else -a.value := by
  have hten : (a.degrees : ℕ) / 10 % 10 < 10 := Nat.mod_lt _ (by decide)
  have hone : (a.degrees : ℕ) % 10 < 10 := Nat.mod_lt _ (by decide)
  have hdegrees : 10 * ((a.degrees / 10 % 10 : ℕ) : ℚ) + ((a.degrees % 10 : ℕ) : ℚ) =
      (a.degrees : ℕ) := by
    have hlt : (a.degrees : ℕ) < 100 := a.degrees.isLt
    norm_cast
    omega
  have hminutes : atof ((a.text ++ ',' :: r).drop 2) = a.minutesText.value :=
    a.minutesText.atof_text comma_stop r
  have hfirst : (a.text ++ ',' :: r).getD 0 '\x00' = ((a.degrees : ℕ) / 10 % 10).digitChar := rfl
  have hsecond : (a.text ++ ',' :: r).getD 1 '\x00' = ((a.degrees : ℕ) % 10).digitChar := rfl
  unfold gpsToDegree
  dsimp only
  rw [hminutes, hfirst, hsecond, digit_value hten, digit_value hone, hdegrees]
  cases north with
  | true => rfl
  | false => rfl

/-- And so is a longitude. -/
theorem gpsToDegree_longitude (a : Angle 3) (east : Bool) (r : List Char) :
    gpsToDegree (a.text ++ ',' :: r) (if east then 'E' else 'W') =
      if east then a.value else -a.value := by
  have hhundred : (a.degrees : ℕ) / 10 / 10 % 10 < 10 := Nat.mod_lt _ (by decide)
  have hten : (a.degrees : ℕ) / 10 % 10 < 10 := Nat.mod_lt _ (by decide)
  have hone : (a.degrees : ℕ) % 10 < 10 := Nat.mod_lt _ (by decide)
  have hdegrees : 100 * ((a.degrees / 10 / 10 % 10 : ℕ) : ℚ) + 10 * ((a.degrees / 10 % 10 : ℕ) : ℚ) +
      ((a.degrees % 10 : ℕ) : ℚ) = (a.degrees : ℕ) := by
    have hlt : (a.degrees : ℕ) < 1000 := a.degrees.isLt
    norm_cast
    omega
  have hminutes : atof ((a.text ++ ',' :: r).drop 3) = a.minutesText.value :=
    a.minutesText.atof_text comma_stop r
  have hfirst : (a.text ++ ',' :: r).getD 0 '\x00' =
      ((a.degrees : ℕ) / 10 / 10 % 10).digitChar := rfl
  have hsecond : (a.text ++ ',' :: r).getD 1 '\x00' = ((a.degrees : ℕ) / 10 % 10).digitChar := rfl
  have hthird : (a.text ++ ',' :: r).getD 2 '\x00' = ((a.degrees : ℕ) % 10).digitChar := rfl
  unfold gpsToDegree
  dsimp only
  rw [hminutes, hfirst, hsecond, hthird, digit_value hhundred, digit_value hten, digit_value hone,
    hdegrees]
  cases east with
  | true => rfl
  | false => rfl

/-! ## From comma to comma -/

theorem comma_decimal (n : Decimal) (s : List Char) : comma (n.text ++ ',' :: s) = some s :=
  comma_field (n.not_mem_text comma_foreign) (n.not_mem_text zero_foreign) s

theorem comma_unused (f : Unused) (s : List Char) : comma (f.text ++ ',' :: s) = some s :=
  comma_field f.comma f.zero s

/-- A character that is no digit is in no row of digits. -/
theorem digits_foreign {ds : List Char} (hds : ∀ d ∈ ds, d.isDigit = true) {c : Char}
    (hc : Foreign c) : c ∉ ds := by
  intro h
  exact absurd ((hds c h).symm.trans hc.digit) (by decide)

/-- The next comma is behind the angle. -/
theorem comma_angle {k : Nat} (a : Angle k) (s : List Char) :
    comma (a.text ++ ',' :: s) = some s := by
  have hforeign : ∀ {c : Char}, Foreign c → c ∉ a.text := by
    intro c hc h
    rcases List.mem_append.mp h with h | h
    · exact digits_foreign (places_digit k a.degrees) hc h
    · exact a.minutesText.not_mem_text hc h
  exact comma_field (hforeign comma_foreign) (hforeign zero_foreign) s

/-- The parser passes the digits of the time, and the point is next. -/
theorem dropWhile_utc (t : Utc) (s : List Char) :
    (t.text ++ s).dropWhile Char.isDigit = '.' :: (places 2 t.centisecond ++ s) := by
  have hsplit : t.text ++ s = pairs t.hour t.minute t.second ++ '.' :: (places 2 t.centisecond ++ s) := by
    simp [Utc.text]
  rw [hsplit, List.dropWhile_append_of_pos (pairs_digit _ _ _)]
  rfl

/-- Behind the digits of the time comes its fraction. -/
theorem comma_utc (t : Utc) (s : List Char) :
    comma ('.' :: (places 2 t.centisecond ++ ',' :: s)) = some s := by
  have hforeign : ∀ {c : Char}, Foreign c → c ∉ '.' :: places 2 t.centisecond := by
    intro c hc h
    rcases List.mem_cons.mp h with h | h
    · exact hc.point h
    · exact digits_foreign (places_digit 2 t.centisecond) hc h
  exact comma_field (hforeign comma_foreign) (hforeign zero_foreign) s

/-- One character between two commas. -/
theorem comma_char {c : Char} (hc : c ≠ ',') (hz : c ≠ '\x00') (s : List Char) :
    comma (c :: ',' :: s) = some s :=
  comma_field (q := [c]) (fun h => hc (List.mem_singleton.mp h).symm)
    (fun h => hz (List.mem_singleton.mp h).symm) s

/-! ## The sentences -/

/-- The value of an angle to one side or the other. -/
def Angle.signed {k : Nat} (a : Angle k) (side : Bool) : ℚ := if side then a.value else -a.value

/-- A location has what the RMC sentence says. -/
structure Rmc.Recovered (s : Rmc) (loc : Gprmc) : Prop where
  hour : (hour loc.time).toNat = s.utc.hour
  minute : (minute loc.time).toNat = s.utc.minute
  second : (second loc.time).toNat = s.utc.second
  centisecond : (centisecond loc.time).toNat = s.utc.centisecond
  day : (day loc.date).toNat = s.date.day
  month : (month loc.date).toNat = s.date.month
  year : (year loc.date).toNat = 2000 + s.date.year
  status : loc.status = 'A'
  latitude : loc.latitude = s.latitude.signed s.north
  longitude : loc.longitude = s.longitude.signed s.east
  speed : loc.speed = s.speed.value
  course : loc.course = s.course.value

/-- It has what the GGA sentence says. -/
structure Gga.Recovered (s : Gga) (loc : Gpgga) : Prop where
  quality : (loc.quality.toNat : Int) = s.quality.value
  satellites : (loc.satellites.toNat : Int) = s.satellites.value
  hdop : loc.hdop = s.hdop.value
  altitude : loc.altitude = s.altitude.value
  ondulation : loc.ondulation = s.undulation.value
  age : loc.age = s.age.value
  stationID : loc.stationID = s.stationID.value

/-- The time is read up to its point. -/
theorem atol_utc (t : Utc) (r : List Char) : atol (t.text ++ r) = t.clock.value := by
  have hh := t.hour.isLt
  have hm := t.minute.isLt
  have hs := t.second.isLt
  have hvalue := t.clock_value
  rw [t.text_append]
  exact t.clock.atol_text (digitsEnd_cons (by decide) _) (by omega) (by omega)

/-- The date is read whole. -/
theorem atol_date (d : Date) {r : List Char} (hr : DigitsEnd r) :
    atol (d.text ++ r) = d.number.value := by
  have hd := d.day.isLt
  have hm := d.month.isLt
  have hy := d.year.isLt
  have hvalue := d.number_value
  rw [d.text_eq]
  exact d.number.atol_text hr (by omega) (by omega)

/-- A number in the range of a byte. -/
theorem ofInt_value {n : Int} (hlo : 0 ≤ n) (hhi : n ≤ 255) : ((UInt8.ofInt n).toNat : Int) = n := by
  rw [UInt8.ofInt, UInt8.toNat_ofNat']
  omega

/-- A sentence with course and date is read back. -/
theorem readGprmc_text (s : Rmc) : ∃ loc, readGprmc s.text = some loc ∧ s.Recovered loc := by
  have hnorth : (if s.north then 'N' else 'S') ≠ ',' ∧ (if s.north then 'N' else 'S') ≠ '\x00' := by
    cases s.north with
    | true => decide
    | false => decide
  have heast : (if s.east then 'E' else 'W') ≠ ',' ∧ (if s.east then 'E' else 'W') ≠ '\x00' := by
    cases s.east with
    | true => decide
    | false => decide
  -- each field is read up to its comma
  have hread : ∃ r, readGprmc s.text = some
      { date := UInt32.ofInt s.date.number.value
        time := 100 * UInt32.ofInt s.utc.clock.value +
          centiseconds ('.' :: (places 2 s.utc.centisecond ++ r))
        latitude := s.latitude.signed s.north
        longitude := s.longitude.signed s.east
        speed := s.speed.value
        course := s.course.value
        status := 'A' } := by
    unfold Rmc.text readGprmc readGprmcWith
    rw [bind_some (comma_unused _ _), dropWhile_utc]
    dsimp only
    rw [bind_some (comma_utc _ _),
      bind_some (comma_char (by decide) (by decide) _), bind_some (comma_angle _ _),
      bind_some (comma_char hnorth.1 hnorth.2 _), bind_some (comma_angle _ _),
      bind_some (comma_char heast.1 heast.2 _), bind_some (comma_decimal _ _),
      bind_some (comma_decimal _ _)]
    simp only [coordinateWith_memory, List.headD_cons, Option.bind_eq_bind, Option.bind_some]
    rw [atol_utc, atol_date _ s.rest_end, s.speed.atof_text comma_stop,
      s.course.atof_text comma_stop, gpsToDegree_latitude, gpsToDegree_longitude]
    exact ⟨_, rfl⟩
  obtain ⟨r, hr⟩ := hread
  -- and taken apart again
  obtain ⟨hhour, hminute, hsecond, hcentisecond⟩ := time_parts s.utc.hour.isLt s.utc.minute.isLt
    s.utc.second.isLt s.utc.centisecond.isLt (time_toNat s.utc r)
  obtain ⟨hday, hmonth, hyear⟩ := date_parts s.date.day.isLt s.date.month.isLt s.date.year.isLt
    (date_toNat s.date)
  exact ⟨_, hr, hhour, hminute, hsecond, hcentisecond, hday, hmonth, hyear, rfl, rfl, rfl, rfl, rfl⟩

/-- A sentence with satellites and altitude is read back. -/
theorem readGpgga_text (s : Gga) : ∃ loc, readGpgga s.text = some loc ∧ s.Recovered loc := by
  have hread : readGpgga s.text = some
      { quality := UInt8.ofInt s.quality.value
        satellites := UInt8.ofInt s.satellites.value
        hdop := s.hdop.value
        altitude := s.altitude.value
        ondulation := s.undulation.value
        age := s.age.value
        stationID := s.stationID.value } := by
    have hcomma : ∀ r, DigitsEnd (',' :: r) := digitsEnd_cons (by decide)
    have hbyte : ∀ {n : Int}, 0 ≤ n ∧ n ≤ 255 → -2 ^ 31 ≤ n ∧ n < 2 ^ 31 := by omega
    have hquality := hbyte s.quality_range
    have hsatellites := hbyte s.satellites_range
    unfold Gga.text readGpgga readGpggaWith
    rw [bind_some (comma_unused _ _), bind_some (comma_unused _ _), bind_some (comma_unused _ _),
      bind_some (comma_unused _ _), bind_some (comma_unused _ _), bind_some (comma_unused _ _),
      bind_some (comma_numeral _ _), bind_some (comma_numeral _ _), bind_some (comma_decimal _ _),
      bind_some (comma_decimal _ _), bind_some (comma_unused _ _), bind_some (comma_decimal _ _),
      bind_some (comma_unused _ _), bind_some (comma_numeral _ _)]
    simp only [Option.bind_eq_bind, Option.bind_some]
    rw [s.quality.atoi_text (hcomma _) hquality.1 hquality.2,
      s.satellites.atoi_text (hcomma _) hsatellites.1 hsatellites.2,
      s.hdop.atof_text comma_stop, s.altitude.atof_text comma_stop,
      s.undulation.atof_text comma_stop, s.age.atoi_text (hcomma _) s.age_range.1 s.age_range.2,
      s.stationID.atoi_text s.rest_end s.stationID_range.1 s.stationID_range.2]
    rfl
  have hquality := ofInt_value s.quality_range.1 s.quality_range.2
  have hsatellites := ofInt_value s.satellites_range.1 s.satellites_range.2
  exact ⟨_, hread, hquality, hsatellites, rfl, rfl, rfl, rfl, rfl⟩

/-- **Both sentences come back as they were written**, in either order. -/
theorem parse_roundTrip (rmc : Rmc) (gga : Gga) (loc : Location) :
    (∃ loc', (nmeaParseGprmc rmc.text loc).bind (nmeaParseGpgga gga.text) = some loc' ∧
      rmc.Recovered loc'.toGprmc ∧ gga.Recovered loc'.toGpgga) ∧
    ∃ loc', (nmeaParseGpgga gga.text loc).bind (nmeaParseGprmc rmc.text) = some loc' ∧
      rmc.Recovered loc'.toGprmc ∧ gga.Recovered loc'.toGpgga := by
  obtain ⟨gprmc, hgprmc, hrmc⟩ := readGprmc_text rmc
  obtain ⟨gpgga, hgpgga, hgga⟩ := readGpgga_text gga
  unfold nmeaParseGprmc nmeaParseGpgga
  rw [hgprmc, hgpgga]
  exact ⟨⟨⟨gprmc, gpgga⟩, rfl, hrmc, hgga⟩, ⟨⟨gprmc, gpgga⟩, rfl, hrmc, hgga⟩⟩

end Solarbot.Gps
