import Solarbot.Driver.Read
import Solarbot.Power.Read

/-!
# The searches of the parsers

All parsers of the serial lines go from comma to comma with `p = strchr(p, ',') + 1`, and none
looks at what the search returns. What they rely on is that each search, and each number read
where it ends, stays in the line that was received. For that the line has to have as many commas
as the parser has searches, in front of its first zero, and something that ends the last number
(`inLine_iff`): the checksum says nothing about it.

`line` is the look at a line alone: what looks behind its end fails. A parser that does not
fail over it takes from the memory what it takes from the line (`readWith_memory`).

Reading notes:
- `atoi` looks at the character that ends the number, also behind white space.
- `atof` is taken to look at all characters that any number has, up to the first that is none.
  The parsers read a real number in front of a comma only, where this makes no difference.
- Behind a line, `RealRead` puts a zero, which counts as one of the line's.
-/

namespace Solarbot.Serial

open CText Gps Driver Power

/-! ## A look that stays in the line -/

/-- Where `atoi` and `atol` stop. -/
def integerEnd (p : List Char) : List Char := (spanDigits (spanSign (p.dropWhile isSpace)).2).2

/-- The characters of any number, and the white space in front of it. -/
def inNumber (c : Char) : Bool :=
  isSpace c || c.isAlphanum || isHex c || "+-.()_".toList.contains c

/-- Where `atof` stops, at the latest. -/
def numberEnd (p : List Char) : List Char := p.dropWhile inNumber

/-- The last character that is looked at for the centiseconds. -/
def centisecondsEnd : List Char → List Char
  | '.' :: d :: s => if d.isDigit then s else d :: s
  | ['.'] => []
  | s => s

def gpsToDegreeEnd (p : List Char) (sing : Char) : List Char :=
  if sing = 'N' ∨ sing = 'S' then numberEnd (p.drop 2)
  else if sing = 'E' ∨ sing = 'W' then numberEnd (p.drop 3)
  else p

/-- What was read, when the last character that was looked at is in the line. -/
def within {α : Type} (stop : List Char) (a : α) : Option α := if stop = [] then none else some a

/-- The line ends. -/
def line : Scan where
  comma := comma
  head := List.head?
  atoi p := within (integerEnd p) (atoi p)
  atol p := within (integerEnd p) (atol p)
  atof p := within (numberEnd p) (atof p)
  centiseconds p := within (centisecondsEnd p) (centiseconds p)
  gpsToDegree p sing := within (gpsToDegreeEnd p sing) (gpsToDegree p sing)

theorem within_some {α : Type} {stop : List Char} {a b : α} (h : within stop a = some b) :
    stop ≠ [] ∧ a = b := by
  unfold within at h
  split at h
  · cases h
  next hstop => exact ⟨hstop, Option.some.inj h⟩

theorem within_of_ne {α : Type} {stop : List Char} (h : stop ≠ []) (a : α) :
    within stop a = some a := if_neg h

/-- A read succeeds when it stops in the line. -/
theorem within_isSome_iff {α : Type} {stop : List Char} {a : α} :
    (within stop a).isSome ↔ stop ≠ [] := by
  unfold within
  split
  next h => simp [h]
  next h => simp [h]

/-! ## The memory behind the line -/

section Memory

variable {rest : List Char}

/-- A loop that ends in the line. -/
theorem dropWhile_within {p : Char → Bool} {q : List Char} (h : q.dropWhile p ≠ []) :
    (q ++ rest).dropWhile p = q.dropWhile p ++ rest ∧ (q ++ rest).takeWhile p = q.takeWhile p := by
  induction q with
  | nil => exact absurd rfl h
  | cons a q ih =>
    by_cases ha : p a = true
    · rw [List.dropWhile_cons_of_pos ha] at h
      obtain ⟨hdrop, htake⟩ := ih h
      rw [List.cons_append, List.dropWhile_cons_of_pos ha, List.dropWhile_cons_of_pos ha,
        List.takeWhile_cons_of_pos ha, List.takeWhile_cons_of_pos ha, hdrop, htake]
      exact ⟨rfl, rfl⟩
    · rw [List.cons_append, List.dropWhile_cons_of_neg ha, List.dropWhile_cons_of_neg ha,
        List.takeWhile_cons_of_neg ha, List.takeWhile_cons_of_neg ha]
      exact ⟨rfl, rfl⟩

/-- A number that ends in the line is the same in memory. -/
theorem readInt_within {q : List Char} (h : integerEnd q ≠ []) :
    readInt (q ++ rest) = readInt q := by
  unfold integerEnd spanDigits at h
  rw [List.span_eq_takeWhile_dropWhile] at h
  dsimp only at h
  have hbody : (spanSign (q.dropWhile isSpace)).2 ≠ [] := by
    intro hnil
    rw [hnil] at h
    exact h rfl
  have hspace : q.dropWhile isSpace ≠ [] := by
    intro hnil
    rw [hnil] at hbody
    exact hbody rfl
  unfold readInt spanDigits
  rw [(dropWhile_within hspace).1, spanSign_append hspace]
  dsimp only
  rw [List.span_eq_takeWhile_dropWhile, List.span_eq_takeWhile_dropWhile]
  dsimp only
  rw [(dropWhile_within h).2]

/-- What no number has ends each of them. -/
theorem stop_of_not_inNumber {c : Char} (h : inNumber c = false) : Stop c := by
  have hne : ∀ d : Char, inNumber d = true → c ≠ d := by
    rintro d hd rfl
    exact Bool.false_ne_true (h.symm.trans hd)
  unfold inNumber at h
  simp only [Bool.or_eq_false_iff] at h
  obtain ⟨⟨⟨hspace, halnum⟩, hhex⟩, -⟩ := h
  have hdigit : c.isDigit = false := by
    unfold Char.isAlphanum at halnum
    exact (Bool.or_eq_false_iff.mp halnum).2
  refine ⟨hspace, hdigit, hne _ rfl, hne _ rfl, hne _ rfl, ?_, ?_, ?_, ?_⟩
  · exact fun h => h.elim (hne _ rfl) (hne _ rfl)
  · exact Option.isNone_iff_eq_none.mp (by simpa [isHex] using hhex)
  · exact fun h => h.elim (hne _ rfl) (hne _ rfl)
  · exact fun h => h.elim (hne _ rfl) (hne _ rfl)

/-- So does a real number. -/
theorem atof_within {q : List Char} (h : numberEnd q ≠ []) : atof (q ++ rest) = atof q := by
  unfold numberEnd at h
  obtain ⟨c, s, hs⟩ := List.exists_cons_of_ne_nil h
  have hc : inNumber c = false := by
    have hhead := List.head_dropWhile_not inNumber h
    simpa [hs] using hhead
  have hsplit : q = q.takeWhile inNumber ++ c :: s := by
    rw [← hs, List.takeWhile_append_dropWhile]
  have hstop := stop_of_not_inNumber hc
  rw [hsplit, List.append_assoc, List.cons_append, atof_stop hstop, ← atof_stop hstop _ s]

/-- And so do the centiseconds. -/
theorem centiseconds_within {q : List Char} (h : centisecondsEnd q ≠ []) :
    centiseconds (q ++ rest) = centiseconds q := by
  match q with
  | [] => exact absurd rfl h
  | [a] =>
    by_cases ha : a = '.'
    · subst ha
      exact absurd rfl h
    · simp [centiseconds, ha]
  | [a, d] =>
    by_cases ha : a = '.'
    · subst ha
      by_cases hd : d.isDigit = true
      · exact absurd (if_pos hd) h
      · simp [centiseconds, hd]
    · simp [centiseconds, ha]
  | a :: d :: e :: q =>
    by_cases ha : a = '.'
    · subst ha
      rfl
    · simp [centiseconds, ha]

/-- The degrees are in front of a number that ends in the line. -/
theorem gpsToDegree_within {q : List Char} {sing : Char} (h : gpsToDegreeEnd q sing ≠ []) :
    gpsToDegree (q ++ rest) sing = gpsToDegree q sing := by
  have hlength : ∀ {k}, numberEnd (q.drop k) ≠ [] → k < q.length := by
    intro k hk
    by_contra hle
    rw [List.drop_of_length_le (not_lt.mp hle)] at hk
    exact hk rfl
  have hnumber : ∀ {k}, numberEnd (q.drop k) ≠ [] →
      atof ((q ++ rest).drop k) = atof (q.drop k) := by
    intro k hk
    rw [List.drop_append_of_le_length (hlength hk).le, atof_within hk]
  have hdigit : ∀ {k i}, numberEnd (q.drop k) ≠ [] → i < k →
      (q ++ rest).getD i '\x00' = q.getD i '\x00' :=
    fun hk hi => List.getD_append q rest _ _ (hi.trans (hlength hk))
  unfold gpsToDegreeEnd at h
  unfold gpsToDegree
  dsimp only
  split at h
  next hlat =>
    rw [if_pos hlat, if_pos hlat, hnumber h, hdigit h (by decide), hdigit h (by decide)]
  next hlat =>
    split at h
    next hlon =>
      rw [if_neg hlat, if_neg hlat, if_pos hlon, if_pos hlon, hnumber h, hdigit h (by decide),
        hdigit h (by decide), hdigit h (by decide)]
    next hlon => rw [if_neg hlat, if_neg hlat, if_neg hlon, if_neg hlon]

/-- A character that is found in the line is the one that is found in memory. -/
theorem strchr_within {c : Char} {q p : List Char} (h : strchr c q = some p) :
    strchr c (q ++ rest) = some (p ++ rest) ∧ p ≠ [] := by
  induction q with
  | nil => cases h
  | cons a q ih =>
    rw [strchr] at h
    rw [List.cons_append, strchr]
    split at h
    next ha =>
      obtain rfl := Option.some.inj h
      exact ⟨if_pos ha, List.cons_ne_nil a q⟩
    next ha =>
      split at h
      next => cases h
      next hz =>
        rw [if_neg ha, if_neg hz]
        exact ih h

theorem comma_within {q p : List Char} (h : comma q = some p) :
    comma (q ++ rest) = some (p ++ rest) := by
  obtain ⟨s, hs, rfl⟩ := Option.map_eq_some_iff.mp h
  obtain ⟨hfound, hne⟩ : strchr ',' (q ++ rest) = some (s ++ rest) ∧ s ≠ [] := strchr_within hs
  rw [comma, hfound, Option.map_some, List.tail_append_of_ne_nil hne]

/-- What succeeds over the line gives in memory what is related to it. -/
def Follows {α β : Type} (R : α → β → Prop) (x : Option α) (y : Option β) : Prop :=
  ∀ a, x = some a → ∃ b, y = some b ∧ R a b

/-- Steps of a parser follow each other. -/
theorem Follows.bind {α β γ δ : Type} {R : α → β → Prop} {S : γ → δ → Prop} {x : Option α}
    {y : Option β} (h : Follows R x y) {f : α → Option γ} {g : β → Option δ}
    (hf : ∀ a b, R a b → Follows S (f a) (g b)) : Follows S (x >>= f) (y >>= g) := by
  intro c hc
  obtain ⟨a, ha, hfa⟩ := Option.bind_eq_some_iff.mp hc
  obtain ⟨b, rfl, hb⟩ := h a ha
  exact hf a b hb c hfa

/-- The same pointer, with the memory behind the line. -/
def Behind (rest q p : List Char) : Prop := p = q ++ rest

/-- A search of the line is one of the memory. -/
theorem follows_comma {q p : List Char} (h : Behind rest q p) :
    Follows (Behind rest) (line.comma q) (Scan.memory.comma p) :=
  fun _ ha => ⟨_, h ▸ comma_within ha, rfl⟩

/-- Whatever is read to a stop in the line. -/
theorem follows_within {α : Type} {stop : List Char} {a b : α} (h : stop ≠ [] → b = a) :
    Follows Eq (within stop a) (some b) := by
  intro c hc
  obtain ⟨hstop, rfl⟩ := within_some hc
  exact ⟨b, rfl, (h hstop).symm⟩

theorem follows_atoi {q p : List Char} (h : Behind rest q p) :
    Follows Eq (line.atoi q) (Scan.memory.atoi p) :=
  follows_within fun hstop => by rw [h, atoi, atoi, readInt_within hstop]

theorem follows_atol {q p : List Char} (h : Behind rest q p) :
    Follows Eq (line.atol q) (Scan.memory.atol p) :=
  follows_within fun hstop => by rw [h, atol, atol, readInt_within hstop]

theorem follows_atof {q p : List Char} (h : Behind rest q p) :
    Follows Eq (line.atof q) (Scan.memory.atof p) :=
  follows_within fun hstop => by rw [h, atof_within hstop]

theorem follows_centiseconds {q p : List Char} (h : Behind rest q p) :
    Follows Eq (line.centiseconds q) (Scan.memory.centiseconds p) :=
  follows_within fun hstop => by rw [h, centiseconds_within hstop]

/-- The character that is there. -/
theorem follows_head {q p : List Char} (h : Behind rest q p) :
    Follows Eq (line.head q) (Scan.memory.head p) := by
  intro a ha
  cases q with
  | nil => cases ha
  | cons c q => exact ⟨c, by rw [h]; rfl, (Option.some.inj ha).symm⟩

/-- A coordinate and its direction. -/
theorem follows_coordinate {q p q' p' : List Char} (h : Behind rest q p) (h' : Behind rest q' p')
    (status : Char) : Follows Eq (coordinateWith line status q q')
      (coordinateWith .memory status p p') := by
  unfold coordinateWith
  split
  · refine (follows_head h').bind ?_
    rintro sing _ rfl
    exact follows_within fun hstop => by rw [h, gpsToDegree_within hstop]
  · exact fun a ha => ⟨a, ha, rfl⟩

/-- A value that is read is the same in memory. -/
theorem Follows.value {α γ δ : Type} {S : γ → δ → Prop} {x y : Option α} (h : Follows Eq x y)
    {f : α → Option γ} {g : α → Option δ} (hf : ∀ a, Follows S (f a) (g a)) :
    Follows S (x >>= f) (y >>= g) := by
  refine h.bind ?_
  rintro a _ rfl
  exact hf a

theorem Follows.done {α : Type} (a : α) : Follows Eq (pure a : Option α) (pure a) :=
  fun b hb => ⟨b, hb, rfl⟩

/-- Each search and each number of the parsers, one after the other. -/
theorem readGpgga_follows {q p : List Char} (h : Behind rest q p) :
    Follows Eq (readGpggaWith line q) (readGpgga p) := by
  unfold readGpgga readGpggaWith
  refine (follows_comma h).bind fun _ _ time => ?_
  refine (follows_comma time).bind fun _ _ latitude => ?_
  refine (follows_comma latitude).bind fun _ _ latDir => ?_
  refine (follows_comma latDir).bind fun _ _ longitude => ?_
  refine (follows_comma longitude).bind fun _ _ lonDir => ?_
  refine (follows_comma lonDir).bind fun _ _ quality => ?_
  refine (follows_comma quality).bind fun _ _ satellites => ?_
  refine (follows_comma satellites).bind fun _ _ hdop => ?_
  refine (follows_comma hdop).bind fun _ _ altitude => ?_
  refine (follows_comma altitude).bind fun _ _ units => ?_
  refine (follows_comma units).bind fun _ _ ondulation => ?_
  refine (follows_comma ondulation).bind fun _ _ units => ?_
  refine (follows_comma units).bind fun _ _ age => ?_
  refine (follows_comma age).bind fun _ _ stationID => ?_
  refine (follows_atoi quality).value fun _ => ?_
  refine (follows_atoi satellites).value fun _ => ?_
  refine (follows_atof hdop).value fun _ => ?_
  refine (follows_atof altitude).value fun _ => ?_
  refine (follows_atof ondulation).value fun _ => ?_
  refine (follows_atoi age).value fun _ => ?_
  exact (follows_atoi stationID).value fun _ => .done _

/-- The search behind the digits at the front: it fails when the line ends with them. -/
theorem follows_digits {q p : List Char} (h : Behind rest q p) {β γ : Type} {S : β → γ → Prop}
    {f : List Char → Option β} {g : List Char → Option γ}
    (hf : Behind rest (q.dropWhile Char.isDigit) (p.dropWhile Char.isDigit) →
      ∀ a b, Behind rest a b → Follows S (f a) (g b)) :
    Follows S (line.comma (q.dropWhile Char.isDigit) >>= f)
      (Scan.memory.comma (p.dropWhile Char.isDigit) >>= g) := by
  by_cases hq : q.dropWhile Char.isDigit = []
  · rw [hq]
    intro a ha
    cases ha
  · have hdigits : Behind rest (q.dropWhile Char.isDigit) (p.dropWhile Char.isDigit) := by
      rw [h]
      exact (dropWhile_within hq).1
    exact (follows_comma hdigits).bind (hf hdigits)

/-- The same for the other sentence. -/
theorem readGprmc_follows {q p : List Char} (h : Behind rest q p) :
    Follows Eq (readGprmcWith line q) (readGprmc p) := by
  unfold readGprmc readGprmcWith
  refine (follows_comma h).bind fun _ _ time => ?_
  refine follows_digits time fun digits _ _ status => ?_
  refine (follows_comma status).bind fun _ _ latStart => ?_
  refine (follows_comma latStart).bind fun _ _ latDir => ?_
  refine (follows_comma latDir).bind fun _ _ lonStart => ?_
  refine (follows_comma lonStart).bind fun _ _ lonDir => ?_
  refine (follows_comma lonDir).bind fun _ _ speed => ?_
  refine (follows_comma speed).bind fun _ _ course => ?_
  refine (follows_comma course).bind fun _ _ date => ?_
  refine (follows_atol time).value fun _ => ?_
  refine (follows_centiseconds digits).value fun _ => ?_
  refine (follows_head status).value fun _ => ?_
  refine (follows_atol date).value fun _ => ?_
  refine (follows_coordinate latStart latDir _).value fun _ => ?_
  refine (follows_coordinate lonStart lonDir _).value fun _ => ?_
  refine (follows_atof speed).value fun _ => ?_
  exact (follows_atof course).value fun _ => .done _

/-- The status of the driver. -/
theorem readC01_follows {q p : List Char} (h : Behind rest q p) (now : Nat) (data : DriverData) :
    Follows Eq (readC01With line q now data) (readC01 p now data) := by
  unfold readC01 readC01With
  refine (follows_comma h).bind fun _ _ idFrame => ?_
  refine (follows_comma idFrame).bind fun _ _ left => ?_
  refine (follows_comma left).bind fun _ _ right => ?_
  refine (follows_comma right).bind fun _ _ leftAlarm => ?_
  refine (follows_comma leftAlarm).bind fun _ _ rightAlarm => ?_
  refine (follows_comma rightAlarm).bind fun _ _ remote => ?_
  refine (follows_atoi idFrame).value fun _ => ?_
  refine (follows_atoi left).value fun _ => ?_
  refine (follows_atoi right).value fun _ => ?_
  refine (follows_atoi leftAlarm).value fun _ => ?_
  refine (follows_atoi rightAlarm).value fun _ => ?_
  refine (follows_atoi remote).value fun _ => ?_
  refine (follows_atoi left).value fun _ => ?_
  exact (follows_atoi right).value fun _ => .done _

theorem readA01_follows {q p : List Char} (h : Behind rest q p) :
    Follows Eq (readA01With line q) (readA01 p) := by
  unfold readA01 readA01With
  refine (follows_comma h).bind fun _ _ idFrame => ?_
  refine (follows_comma idFrame).bind fun _ _ id => ?_
  refine (follows_comma id).bind fun _ _ vertical => ?_
  refine (follows_comma vertical).bind fun _ _ horizontal => ?_
  refine (follows_atoi idFrame).value fun _ => ?_
  refine (follows_atoi id).value fun _ => ?_
  refine (follows_atoi vertical).value fun _ => ?_
  exact (follows_atoi horizontal).value fun _ => .done _

/-- The line of the power unit. -/
theorem readData_follows {q p : List Char} (h : Behind rest q p) (data : PowerUnitData) :
    Follows Eq (readDataWith line q data) (readData p data) := by
  unfold readData readDataWith
  refine (follows_comma h).bind fun _ _ idFrame => ?_
  refine (follows_comma idFrame).bind fun _ _ panelVoltage => ?_
  refine (follows_comma panelVoltage).bind fun _ _ batteryVoltage => ?_
  refine (follows_comma batteryVoltage).bind fun _ _ panel => ?_
  refine (follows_comma panel).bind fun _ _ battery => ?_
  refine (follows_comma battery).bind fun _ _ electronic => ?_
  refine (follows_comma electronic).bind fun _ _ left => ?_
  refine (follows_comma left).bind fun _ _ right => ?_
  refine (follows_comma right).bind fun _ _ accessories => ?_
  refine (follows_comma accessories).bind fun _ _ stop => ?_
  refine (follows_atoi idFrame).value fun _ => ?_
  refine (follows_atoi panelVoltage).value fun _ => ?_
  refine (follows_atoi batteryVoltage).value fun _ => ?_
  refine (follows_atoi panel).value fun _ => ?_
  refine (follows_atoi battery).value fun _ => ?_
  refine (follows_atoi electronic).value fun _ => ?_
  refine (follows_atoi left).value fun _ => ?_
  refine (follows_atoi right).value fun _ => ?_
  refine (follows_atoi accessories).value fun _ => ?_
  exact (follows_atoi stop).value fun _ => .done _

end Memory

/-! ## The commas of a line -/

/-- The commas a search can see. -/
def commasOf (q : List Char) : Nat := (q.takeWhile (· ≠ '\x00')).count ','

/-- What is behind the next comma. -/
def behindComma (q : List Char) : List Char := (q.dropWhile (· ≠ ',')).tail

def behindCommas (n : Nat) (q : List Char) : List Char := behindComma^[n] q

theorem commasOf_cons {a : Char} (ha : a ≠ ',') (hz : a ≠ '\x00') (q : List Char) :
    commasOf (a :: q) = commasOf q := by
  unfold commasOf
  rw [List.takeWhile_cons_of_pos (by simpa using hz), List.count_cons_of_ne ha]

/-- A comma counts. -/
theorem commasOf_comma (q : List Char) : commasOf (',' :: q) = commasOf q + 1 := by
  unfold commasOf
  rw [List.takeWhile_cons_of_pos (by decide), List.count_cons_self]

theorem behindComma_cons {a : Char} (ha : a ≠ ',') (q : List Char) :
    behindComma (a :: q) = behindComma q := by
  unfold behindComma
  rw [List.dropWhile_cons_of_pos (by simpa using ha)]

/-- A search goes behind the next comma. -/
theorem comma_found {q : List Char} (h : 1 ≤ commasOf q) :
    comma q = some (behindComma q) ∧ commasOf (behindComma q) + 1 = commasOf q := by
  induction q with
  | nil => cases h
  | cons a q ih =>
    by_cases ha : a = ','
    · subst ha
      exact ⟨rfl, (commasOf_comma q).symm⟩
    by_cases hz : a = '\x00'
    · subst hz
      cases h
    · rw [commasOf_cons ha hz] at h ⊢
      obtain ⟨hfound, hcount⟩ := ih h
      rw [behindComma_cons ha, comma, strchr, if_neg ha, if_neg hz]
      exact ⟨hfound, hcount⟩

/-- A line without commas has none to be found. -/
theorem comma_missing {q : List Char} (h : commasOf q = 0) : comma q = none := by
  induction q with
  | nil => rfl
  | cons a q ih =>
    by_cases ha : a = ','
    · subst ha
      rw [commasOf_comma] at h
      cases h
    by_cases hz : a = '\x00'
    · subst hz
      rfl
    · rw [commasOf_cons ha hz] at h
      rw [comma, strchr, if_neg ha, if_neg hz]
      exact ih h

/-- Without a character at the front there is a comma less at most. -/
theorem commasOf_drop (k : Nat) (q : List Char) : commasOf q ≤ commasOf (q.drop k) + k := by
  induction k generalizing q with
  | zero => exact le_rfl
  | succ k ih =>
    cases q with
    | nil => exact Nat.zero_le _
    | cons a q =>
      have hq := ih q
      rw [List.drop_succ_cons]
      by_cases ha : a = ','
      · rw [ha, commasOf_comma]
        omega
      by_cases hz : a = '\x00'
      · rw [hz]
        exact Nat.zero_le _
      · rw [commasOf_cons ha hz]
        omega

/-- A loop that does not go over commas stops at the next one, if not before. -/
theorem dropWhile_ahead {p : Char → Bool} (hp : p ',' = false) {q : List Char}
    (h : 1 ≤ commasOf q) : q.dropWhile p ≠ [] := by
  have hmem : ',' ∈ q := (List.takeWhile_subset _) (List.count_pos_iff.mp h)
  intro hnil
  have hall := List.dropWhile_eq_nil_iff.mp hnil ',' hmem
  rw [hp] at hall
  cases hall

section Ahead

variable {q : List Char} (h : 1 ≤ commasOf q)

include h

/-- A number ends at the next comma, if not before. -/
theorem integerEnd_ahead : integerEnd q ≠ [] := by
  have hmem : ∀ {s : List Char}, ',' ∈ s → ∀ {p : Char → Bool}, p ',' = false →
      ',' ∈ s.dropWhile p := by
    intro s hs p hp
    rw [← List.takeWhile_append_dropWhile (p := p) (l := s)] at hs
    rcases List.mem_append.mp hs with hs | hs
    · exact absurd (List.mem_takeWhile_imp hs) (by simp [hp])
    · exact hs
  have hq : ',' ∈ q := (List.takeWhile_subset _) (List.count_pos_iff.mp h)
  have hspace := hmem hq (p := isSpace) (by decide)
  have hsign : ',' ∈ (spanSign (q.dropWhile isSpace)).2 := by
    unfold spanSign
    split
    next s hs =>
      rw [hs] at hspace
      exact (List.mem_cons.mp hspace).resolve_left (by decide)
    next s hs =>
      rw [hs] at hspace
      exact (List.mem_cons.mp hspace).resolve_left (by decide)
    next => exact hspace
  unfold integerEnd spanDigits
  rw [List.span_eq_takeWhile_dropWhile]
  exact List.ne_nil_of_mem (hmem hsign (by decide))

theorem atoi_ahead : (line.atoi q).isSome := within_isSome_iff.mpr (integerEnd_ahead h)

theorem atol_ahead : (line.atol q).isSome := within_isSome_iff.mpr (integerEnd_ahead h)

theorem atof_ahead : (line.atof q).isSome := within_isSome_iff.mpr (dropWhile_ahead (by decide) h)

theorem head_ahead : (line.head q).isSome := by
  cases q with
  | nil => cases h
  | cons a q => rfl

/-- The point, the digit and what ends it are in front of the comma. -/
theorem centiseconds_ahead : (line.centiseconds q).isSome := by
  refine within_isSome_iff.mpr ?_
  unfold centisecondsEnd
  split
  next d s =>
    split
    next hd =>
      rintro rfl
      have hcommas : commasOf ['.', d] = 0 := by
        rw [commasOf_cons (by decide) (by decide)]
        by_cases hz : d = '\x00'
        · rw [hz]
          rfl
        · rw [commasOf_cons _ hz]
          · rfl
          · rintro rfl
            cases hd
      omega
    next => exact List.cons_ne_nil d s
  next => cases h
  next => exact fun hnil => by rw [hnil] at h; cases h

end Ahead

/-- A coordinate with enough commas ahead: three characters are degrees. -/
theorem coordinate_ahead {q p : List Char} (hq : 4 ≤ commasOf q) (hp : 1 ≤ commasOf p)
    (status : Char) : (coordinateWith line status q p).isSome := by
  obtain ⟨sing, hsing⟩ := Option.isSome_iff_exists.mp (head_ahead hp)
  have htwo := commasOf_drop 2 q
  have hthree := commasOf_drop 3 q
  unfold coordinateWith
  rw [hsing]
  split
  · refine within_isSome_iff.mpr ?_
    unfold gpsToDegreeEnd
    split
    · exact dropWhile_ahead (by decide) (by omega)
    · split
      · exact dropWhile_ahead (by decide) (by omega)
      · rintro rfl
        cases hq
  · rfl

/-! ## A row of searches -/

section Row

variable {β : Type} {n : Nat}

/-- The parser makes `n` searches. -/
def Searches (n : Nat) (f : List Char → Option β) : Prop := ∀ q, commasOf q < n → f q = none

/-- Behind `n` searches, all of which have a comma, it reads a number that ends in the line. -/
def Ends (n : Nat) (f : List Char → Option β) : Prop :=
  ∀ q, n ≤ commasOf q → ((f q).isSome ↔ integerEnd (behindCommas n q) ≠ [])

theorem Searches.none (f : List Char → Option β) : Searches 0 f :=
  fun _ h => absurd h (Nat.not_lt_zero _)

/-- One search more. -/
theorem Searches.next {f : List Char → List Char → Option β} (h : ∀ p, Searches n (f p)) :
    Searches (n + 1) fun p => line.comma p >>= f p := by
  intro q hq
  show comma q >>= f q = Option.none
  by_cases hzero : commasOf q = 0
  · rw [comma_missing hzero]
    rfl
  · obtain ⟨hfound, hcount⟩ := comma_found (Nat.pos_of_ne_zero hzero)
    rw [hfound]
    exact h q _ (by omega)

/-- A search, and the values behind it. -/
theorem Ends.next {f : List Char → List Char → Option β}
    (h : ∀ p, n + 1 ≤ commasOf p → Ends n (f p)) : Ends (n + 1) fun p => line.comma p >>= f p := by
  intro q hq
  obtain ⟨hfound, hcount⟩ := comma_found (q := q) (by omega)
  show (comma q >>= f q).isSome ↔ _
  rw [hfound]
  exact h q hq _ (by omega)

/-- Digits at the front have no commas. -/
theorem commasOf_dropDigits (q : List Char) :
    commasOf (q.dropWhile Char.isDigit) = commasOf q ∧
      behindComma (q.dropWhile Char.isDigit) = behindComma q := by
  induction q with
  | nil => exact ⟨rfl, rfl⟩
  | cons a q ih =>
    by_cases ha : a.isDigit = true
    · have hcomma : a ≠ ',' := by
        rintro rfl
        cases ha
      have hzero : a ≠ '\x00' := by
        rintro rfl
        cases ha
      rw [List.dropWhile_cons_of_pos ha, ih.1, ih.2, commasOf_cons hcomma hzero,
        behindComma_cons hcomma]
      exact ⟨rfl, rfl⟩
    · rw [List.dropWhile_cons_of_neg ha]
      exact ⟨rfl, rfl⟩

/-- The parser may skip digits before it searches on. -/
theorem Searches.digits {f : List Char → List Char → Option β} (h : ∀ p, Searches n (f p)) :
    Searches (n + 1) fun p => line.comma (p.dropWhile Char.isDigit) >>= f p := by
  intro q hq
  exact Searches.next (fun _ => h q) _ ((commasOf_dropDigits q).1 ▸ hq)

/-- Digits that are skipped leave the commas. -/
theorem Ends.digits {f : List Char → List Char → Option β}
    (h : ∀ p, n + 1 ≤ commasOf p → Ends n (f p)) :
    Ends (n + 1) fun p => line.comma (p.dropWhile Char.isDigit) >>= f p := by
  intro q hq
  obtain ⟨hcommas, hbehind⟩ := commasOf_dropDigits q
  have hends := Ends.next (f := fun _ => f q) (fun _ _ => h q hq) (q.dropWhile Char.isDigit)
    (hcommas ▸ hq)
  have hlast : behindCommas (n + 1) (q.dropWhile Char.isDigit) = behindCommas (n + 1) q :=
    congrArg behindComma^[n] hbehind
  rwa [hlast] at hends

/-- A value that is read in the line. -/
theorem Ends.value {α : Type} {x : Option α} (hx : x.isSome) {f : α → List Char → Option β}
    (h : ∀ a, Ends n (f a)) : Ends n fun q => x >>= fun a => f a q := by
  obtain ⟨a, rfl⟩ := Option.isSome_iff_exists.mp hx
  exact h a

/-- What is read behind a value that is read. -/
theorem value_isSome {α : Type} {x : Option α} (hx : x.isSome) {f : α → Option β}
    (h : ∀ a, (f a).isSome) : (x >>= f).isSome := by
  obtain ⟨a, rfl⟩ := Option.isSome_iff_exists.mp hx
  exact h a

/-- The last number is the one that may run out of the line. -/
theorem Ends.last {α : Type} {a : List Char → α} {f : List Char → α → Option β}
    (h : ∀ q v, (f q v).isSome) : Ends 0 fun q => within (integerEnd q) (a q) >>= f q := by
  intro q _
  show (within (integerEnd q) (a q) >>= f q).isSome ↔ integerEnd q ≠ []
  by_cases hstop : integerEnd q = []
  · simp [within, hstop]
  · rw [within_of_ne hstop]
    exact ⟨fun _ => hstop, fun _ => h q (a q)⟩

end Row

/-! ## The parsers -/

/-- It searches for fourteen commas. -/
theorem readGpgga_searches : Searches 14 (readGpggaWith line) := by
  unfold readGpggaWith
  refine .next fun _ => .next fun _ => .next fun _ => .next fun _ => .next fun _ => ?_
  refine .next fun _ => .next fun _ => .next fun _ => .next fun _ => .next fun _ => ?_
  exact .next fun _ => .next fun _ => .next fun _ => .next fun _ => .none _

/-- All numbers but the last are in front of a comma. -/
theorem readGpgga_ends : Ends 14 (readGpggaWith line) := by
  unfold readGpggaWith
  refine .next fun _ _ => .next fun _ _ => .next fun _ _ => .next fun _ _ => .next fun _ _ => ?_
  refine .next fun _ _ => .next fun _ _ => .next fun _ _ => .next fun _ _ => .next fun _ _ => ?_
  refine .next fun _ _ => .next fun _ _ => .next fun _ _ => .next fun _ _ => ?_
  refine .value (atoi_ahead (by omega)) fun _ => .value (atoi_ahead (by omega)) fun _ => ?_
  refine .value (atof_ahead (by omega)) fun _ => .value (atof_ahead (by omega)) fun _ => ?_
  refine .value (atof_ahead (by omega)) fun _ => .value (atoi_ahead (by omega)) fun _ => ?_
  exact .last fun _ _ => rfl

/-- It searches for nine, behind the digits of the time. -/
theorem readGprmc_searches : Searches 9 (readGprmcWith line) := by
  unfold readGprmcWith
  refine .next fun _ => .digits fun _ => .next fun _ => .next fun _ => .next fun _ => ?_
  exact .next fun _ => .next fun _ => .next fun _ => .next fun _ => .none _

/-- The date is the last, and the other numbers are read behind it. -/
theorem readGprmc_ends : Ends 9 (readGprmcWith line) := by
  unfold readGprmcWith
  refine .next fun _ _ => .digits fun time htime => ?_
  refine .next fun _ _ => .next fun _ _ => .next fun _ _ => .next fun _ _ => ?_
  refine .next fun _ _ => .next fun _ _ => .next fun _ _ => ?_
  have hdigits := (commasOf_dropDigits time).1
  refine .value (atol_ahead (by omega)) fun _ => .value (centiseconds_ahead (by omega)) fun _ => ?_
  refine .value (head_ahead (by omega)) fun _ => .last fun _ _ => ?_
  refine value_isSome (coordinate_ahead (by omega) (by omega) _) fun _ => ?_
  refine value_isSome (coordinate_ahead (by omega) (by omega) _) fun _ => ?_
  refine value_isSome (atof_ahead (by omega)) fun _ => ?_
  exact value_isSome (atof_ahead (by omega)) fun _ => rfl

/-- It searches for six. -/
theorem readC01_searches (now : Nat) (data : DriverData) :
    Searches 6 fun q => readC01With line q now data := by
  unfold readC01With
  exact .next fun _ => .next fun _ => .next fun _ => .next fun _ => .next fun _ => .next fun _ =>
    .none _

/-- The numbers in front of a comma end there. -/
theorem readC01_ends (now : Nat) (data : DriverData) :
    Ends 6 fun q => readC01With line q now data := by
  unfold readC01With
  refine .next fun _ _ => .next fun _ _ => .next fun _ _ => ?_
  refine .next fun _ _ => .next fun _ _ => .next fun _ _ => ?_
  refine .value (atoi_ahead (by omega)) fun _ => .value (atoi_ahead (by omega)) fun _ => ?_
  refine .value (atoi_ahead (by omega)) fun _ => .value (atoi_ahead (by omega)) fun _ => ?_
  refine .value (atoi_ahead (by omega)) fun _ => .last fun _ _ => ?_
  refine value_isSome (atoi_ahead (by omega)) fun _ => ?_
  exact value_isSome (atoi_ahead (by omega)) fun _ => rfl

/-- It searches for four. -/
theorem readA01_searches : Searches 4 (readA01With line) := by
  unfold readA01With
  exact .next fun _ => .next fun _ => .next fun _ => .next fun _ => .none _

theorem readA01_ends : Ends 4 (readA01With line) := by
  unfold readA01With
  refine .next fun _ _ => .next fun _ _ => .next fun _ _ => .next fun _ _ => ?_
  refine .value (atoi_ahead (by omega)) fun _ => .value (atoi_ahead (by omega)) fun _ => ?_
  exact .value (atoi_ahead (by omega)) fun _ => .last fun _ _ => rfl

/-- It searches for ten. -/
theorem readData_searches (data : PowerUnitData) :
    Searches 10 fun q => readDataWith line q data := by
  unfold readDataWith
  refine .next fun _ => .next fun _ => .next fun _ => .next fun _ => .next fun _ => ?_
  exact .next fun _ => .next fun _ => .next fun _ => .next fun _ => .next fun _ => .none _

/-- Only the flag of the stop button has no comma behind it. -/
theorem readData_ends (data : PowerUnitData) : Ends 10 fun q => readDataWith line q data := by
  unfold readDataWith
  refine .next fun _ _ => .next fun _ _ => .next fun _ _ => .next fun _ _ => .next fun _ _ => ?_
  refine .next fun _ _ => .next fun _ _ => .next fun _ _ => .next fun _ _ => .next fun _ _ => ?_
  refine .value (atoi_ahead (by omega)) fun _ => .value (atoi_ahead (by omega)) fun _ => ?_
  refine .value (atoi_ahead (by omega)) fun _ => .value (atoi_ahead (by omega)) fun _ => ?_
  refine .value (atoi_ahead (by omega)) fun _ => .value (atoi_ahead (by omega)) fun _ => ?_
  refine .value (atoi_ahead (by omega)) fun _ => .value (atoi_ahead (by omega)) fun _ => ?_
  exact .value (atoi_ahead (by omega)) fun _ => .last fun _ _ => rfl

/-- What the searches and the last number need. -/
theorem isSome_iff_of_ends {β : Type} {n : Nat} {f : List Char → Option β} (hs : Searches n f)
    (he : Ends n f) (q : List Char) :
    (f q).isSome ↔ n ≤ commasOf q ∧ integerEnd (behindCommas n q) ≠ [] := by
  by_cases hn : n ≤ commasOf q
  · rw [he q hn]
    exact ⟨fun h => ⟨hn, h⟩, And.right⟩
  · rw [hs q (not_le.mp hn)]
    exact ⟨fun h => absurd h Bool.false_ne_true, fun h => absurd h.1 hn⟩

/-! ## A line in its buffer -/

/-- The objects that read a serial line, and the clock. -/
structure Units where
  gps : GPS
  driver : ControlUnit
  power : PowerUnit
  now : Nat

inductive Parser
  | gpgga | gprmc | c01 | a01 | power
  deriving DecidableEq, Repr

/-- What a parser takes from the line. -/
inductive Reading
  | gpgga (gga : Gpgga)
  | gprmc (rmc : Gprmc)
  | c01 (data : DriverData)
  | a01 (arm : ArmReport)
  | power (data : PowerUnitData)

namespace Parser

variable (parser : Parser) (u : Units) (line : List Char)

/-- The size of its `port_rx_buffer`. -/
def size : Parser → Nat
  | gpgga | gprmc => serialPortRxBufferSize
  | c01 | a01 => Driver.portRxBufferSize
  | power => Power.portRxBufferSize

/-- The commas it searches for. -/
def commas : Parser → Nat
  | gpgga => 14
  | gprmc => 9
  | c01 => 6
  | a01 => 4
  | power => 10

/-- What one read takes of the line. -/
def received : List Char := line.take parser.size

/-- What the unit itself puts behind it. -/
def ending : Parser → List Char
  | c01 | a01 => ['\x00']
  | gpgga | gprmc | power => []

/-- The line, as the parser gets it. -/
def text : List Char := parser.received line ++ parser.ending

/-- `port_rx_buffer` when the line is read, and what is behind it in memory. -/
def buffer : List Char :=
  match parser with
  | gpgga | gprmc => (u.gps.read line).portRxBuffer
  | c01 | a01 => (u.driver.receive line).portRxBuffer
  | power => (u.power.receive line).portRxBuffer

/-- The line passes the tests in front of the parser. -/
def Passes : Prop :=
  let buffer := parser.buffer u line
  match parser with
  | gpgga => nmeaGetMessageType buffer = nmeaGpgga
  | gprmc => nmeaGetMessageType buffer = nmeaGprmc
  | c01 => 4 < (received c01 line).length ∧ ¬ "$ER".toList <+: buffer ∧
      Driver.verifyChecksum buffer = 0 ∧ "$C01".toList <+: buffer
  | a01 => 4 < (received a01 line).length ∧ ¬ "$ER".toList <+: buffer ∧
      Driver.verifyChecksum buffer = 0 ∧ "$A01".toList <+: buffer
  | power => 4 < (received power line).length ∧ buffer.head? ≠ some '#' ∧
      Power.verifyChecksum buffer = 0

instance : Decidable (parser.Passes u line) :=
  match parser with
  | gpgga => inferInstanceAs (Decidable (nmeaGetMessageType (gpgga.buffer u line) = nmeaGpgga))
  | gprmc => inferInstanceAs (Decidable (nmeaGetMessageType (gprmc.buffer u line) = nmeaGprmc))
  | c01 => inferInstanceAs (Decidable (_ < _ ∧ ¬ _ <+: _ ∧ _ = (0 : Int) ∧ _ <+: _))
  | a01 => inferInstanceAs (Decidable (_ < _ ∧ ¬ _ <+: _ ∧ _ = (0 : Int) ∧ _ <+: _))
  | power => inferInstanceAs (Decidable (_ < _ ∧ _ ≠ some '#' ∧ _ = (0 : Int)))

/-- The parser of the source, with its looks at `q`. -/
def readWith (scan : Scan) (q : List Char) : Option Reading :=
  match parser with
  | gpgga => (readGpggaWith scan q).map .gpgga
  | gprmc => (readGprmcWith scan q).map .gprmc
  | c01 => (readC01With scan q u.now u.driver.data).map .c01
  | a01 => (readA01With scan q).map .a01
  | power => (readDataWith scan q u.power.data).map .power

/-- All looks of the parser stay in the line. -/
def InLine : Prop := (parser.readWith u Serial.line (parser.text line)).isSome

instance : Decidable (parser.InLine u line) := inferInstanceAs (Decidable (_ = true))

/-- The zero takes the place of what is in memory behind the line. -/
theorem set_terminator {received memory : List Char}
    (h : received.length < (received ++ memory).length) :
    ∃ rest, (received ++ memory).set received.length '\x00' = received ++ ['\x00'] ++ rest := by
  cases memory with
  | nil => simp at h
  | cons a rest =>
    refine ⟨rest, ?_⟩
    rw [List.set_append_right _ _ le_rfl, Nat.sub_self, List.set_cons_zero, List.append_assoc]
    rfl

/-- What is behind the line, in memory. -/
theorem buffer_eq (hmem : parser.size < (parser.buffer u line).length) :
    ∃ rest, parser.buffer u line = parser.text line ++ rest := by
  have hplain : ∀ rest, ∃ tail, parser.received line ++ rest = parser.received line ++ [] ++ tail :=
    fun rest => ⟨rest, by rw [List.append_nil]⟩
  have hreceived : (parser.received line).length ≤ parser.size := List.length_take_le _ _
  cases parser with
  | gpgga => exact hplain _
  | gprmc => exact hplain _
  | c01 => exact set_terminator (hreceived.trans_lt (hmem.trans_eq (List.length_set ..)))
  | a01 => exact set_terminator (hreceived.trans_lt (hmem.trans_eq (List.length_set ..)))
  | power => exact hplain _

/-- **Looks that stay in the line find in memory what is in it**: what is there from older lines
makes no difference. -/
theorem readWith_memory (hmem : parser.size < (parser.buffer u line).length) {reading : Reading}
    (h : parser.readWith u Serial.line (parser.text line) = some reading) :
    parser.readWith u .memory (parser.buffer u line) = some reading := by
  obtain ⟨rest, hrest⟩ := parser.buffer_eq u line hmem
  have hmap : ∀ {α : Type} {x y : Option α} {f : α → Reading}, Follows Eq x y →
      x.map f = some reading → y.map f = some reading := by
    intro α x y f hxy hx
    obtain ⟨a, ha, rfl⟩ := Option.map_eq_some_iff.mp hx
    obtain ⟨b, rfl, rfl⟩ := hxy a ha
    rfl
  cases parser with
  | gpgga => exact hmap (readGpgga_follows hrest) h
  | gprmc => exact hmap (readGprmc_follows hrest) h
  | c01 => exact hmap (readC01_follows hrest u.now u.driver.data) h
  | a01 => exact hmap (readA01_follows hrest) h
  | power => exact hmap (readData_follows hrest u.power.data) h

/-- **The parser stays in the line exactly when it has the commas**, in front of its first zero,
**and something ends the number behind the last of them.** -/
theorem inLine_iff : parser.InLine u line ↔ parser.commas ≤ commasOf (parser.text line) ∧
    integerEnd (behindCommas parser.commas (parser.text line)) ≠ [] := by
  unfold InLine
  cases parser with
  | gpgga =>
    rw [readWith, Option.isSome_map]
    exact isSome_iff_of_ends readGpgga_searches readGpgga_ends _
  | gprmc =>
    rw [readWith, Option.isSome_map]
    exact isSome_iff_of_ends readGprmc_searches readGprmc_ends _
  | c01 =>
    rw [readWith, Option.isSome_map]
    exact isSome_iff_of_ends (readC01_searches _ _) (readC01_ends u.now u.driver.data) _
  | a01 =>
    rw [readWith, Option.isSome_map]
    exact isSome_iff_of_ends readA01_searches readA01_ends _
  | power =>
    rw [readWith, Option.isSome_map]
    exact isSome_iff_of_ends (readData_searches _) (readData_ends u.power.data) _

/-- The line passes the tests, and its parser leaves it. -/
def Escapes : Prop := parser.Passes u line ∧ ¬ parser.InLine u line

instance : Decidable (parser.Escapes u line) := inferInstanceAs (Decidable (_ ∧ _))

end Parser

/-- New objects, on memory that was zero. -/
def sampleUnits : Units :=
  ⟨⟨List.replicate 300 '\x00'⟩, ⟨List.replicate 40 '\x00', default⟩,
    ⟨List.replicate 110 '\x00', default⟩, 0⟩

/-- Lines without a comma, and one whose last number has nothing behind it but white space. -/
theorem bareLines_escape : Parser.gpgga.Escapes sampleUnits "$GNGGA*48\n".toList ∧
    Parser.gprmc.Escapes sampleUnits "$GNRMC*55\n".toList ∧
    Parser.c01.Escapes sampleUnits "$C01*42\n".toList ∧
    Parser.a01.Escapes sampleUnits "$A01*40\n".toList ∧
    Parser.power.Escapes sampleUnits "$A*41\r\n".toList ∧
    Parser.power.Escapes sampleUnits "$*00,1,2,3,4,5,6,7,8,9,\n".toList := by
  decide +kernel

end Solarbot.Serial
