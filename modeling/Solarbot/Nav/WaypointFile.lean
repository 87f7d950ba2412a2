import Solarbot.Lib.Numerals
import Solarbot.Nav.StartRecord

/-!
# A waypoints file and what `LoadWaypoints` makes of it

A file as its description has it, written line by line (`FileLine`): the points, with anything
in between that is not a point and not an S record. `loadWaypoints_roundTrip` says that the
points come back as they were written, whatever the navigator had loaded before.
-/

namespace Solarbot.Nav

open CText

/-! ## The lines -/

/-- A P record, with its numbers as they are written. -/
structure PointRecord where
  latitude : Decimal
  longitude : Decimal
  speed : Numeral
  speed_lower : -2 ^ 31 ≤ speed.value
  speed_upper : speed.value < 2 ^ 31

/-- What a line of the file says. -/
inductive Entry
  | point (p : PointRecord)
  | empty
  | comment (text : List Char) (plain : '\n' ∉ text)
  | loop (text : List Char) (plain : '\n' ∉ text)
  | count (text : List Char) (plain : '\n' ∉ text)

namespace Entry

def text : Entry → List Char
  | point p =>
    'P' :: (p.latitude.text ++ ',' :: (p.longitude.text ++ ',' :: p.speed.text))
  | empty => []
  | comment text _ => '#' :: text
  | loop text _ => 'L' :: text
  | count text _ => 'C' :: text

/-- The point of the line, when it is one. -/
def point? : Entry → Option PointRecord
  | point p => some p
  | _ => none

/-- The line is an L record. -/
def isLoop : Entry → Bool
  | loop _ _ => true
  | _ => false

end Entry

/-- A line of the file, with a carriage return at its end or without. -/
structure FileLine where
  entry : Entry
  carriageReturn : Bool

namespace FileLine

def lineEnd (l : FileLine) : List Char := if l.carriageReturn then ['\r'] else []

def text (l : FileLine) : List Char := l.entry.text ++ l.lineEnd

def point? (l : FileLine) : Option PointRecord := l.entry.point?

end FileLine

/-- The text of the file: each line is ended by a line feed. -/
def fileText (ls : List FileLine) : List Char := ls.flatMap fun l => l.text ++ ['\n']

/-- The points of the file, in their order. -/
def points (ls : List FileLine) : List PointRecord := ls.filterMap FileLine.point?

/-- The waypoint of a record. -/
noncomputable def PointRecord.waypoint (p : PointRecord) : Waypoint ℝ :=
  ⟨p.latitude.value, p.longitude.value, p.speed.value⟩

/-! ## The text is cut into its lines -/

namespace FileLine

variable (l : FileLine)

theorem lineEnd_plain {c : Char} (hc : c ≠ '\r') : c ∉ l.lineEnd := by
  unfold lineEnd
  split
  · exact fun h => hc (List.mem_singleton.mp h)
  · exact List.not_mem_nil

theorem text_plain : '\n' ∉ l.text := by
  have hentry : '\n' ∉ l.entry.text := by
    cases l.entry with
    | point p =>
      have hlatitude := p.latitude.not_mem_text lineFeed_foreign
      have hlongitude := p.longitude.not_mem_text lineFeed_foreign
      have hspeed := p.speed.not_mem_text lineFeed_foreign
      simp [Entry.text, hlatitude, hlongitude, hspeed]
    | empty => exact List.not_mem_nil
    | comment text plain => simp [Entry.text, plain]
    | loop text plain => simp [Entry.text, plain]
    | count text plain => simp [Entry.text, plain]
  intro h
  rcases List.mem_append.mp h with h | h
  · exact hentry h
  · exact l.lineEnd_plain (by decide) h

end FileLine

theorem lines_fileText (ls : List FileLine) : lines (fileText ls) = ls.map FileLine.text := by
  induction ls with
  | nil => rfl
  | cons l ls ih =>
    have hcons : fileText (l :: ls) = l.text ++ '\n' :: fileText ls := by
      rw [fileText, List.flatMap_cons, List.append_assoc]
      rfl
    rw [hcons, lines_line l.text_plain, ih, List.map_cons]

/-! ## The points -/

/-- The three fields of the record, with what is at the end of the line. -/
def PointRecord.fields (p : PointRecord) (l : FileLine) : PFields where
  latitude := p.latitude.text
  longitude := p.longitude.text
  speed := p.speed.text ++ l.lineEnd
  latitude_plain := p.latitude.not_mem_text comma_foreign
  longitude_plain := p.longitude.not_mem_text comma_foreign
  speed_plain h := (List.mem_append.mp h).elim (p.speed.not_mem_text comma_foreign)
    (l.lineEnd_plain (by decide))
  speed_ne h := p.speed.text_ne (List.append_eq_nil_iff.mp h).1

/-- The numbers are read up to the comma or the end of the line. -/
theorem PointRecord.fields_waypoint (p : PointRecord) (l : FileLine) :
    (p.fields l).waypoint = p.waypoint := by
  have hlatitude : atof (p.fields l).fromLatitude = p.latitude.value :=
    p.latitude.atof_text comma_stop _
  have hlongitude : atof (p.fields l).fromLongitude = p.longitude.value :=
    p.longitude.atof_text comma_stop _
  have hend : DigitsEnd l.lineEnd := by
    unfold FileLine.lineEnd
    split
    · exact digitsEnd_cons (by decide) _
    · exact digitsEnd_nil
  have hspeed : atoi (p.fields l).speed = p.speed.value :=
    p.speed.atoi_text hend p.speed_lower p.speed_upper
  unfold PFields.waypoint PointRecord.waypoint
  rw [hspeed, ← hlatitude, ← hlongitude]
  rfl

namespace FileLine

/-- The record of the line, when it is a P record. -/
def fields (l : FileLine) : Option PFields := l.point?.map fun p => p.fields l

variable {l : FileLine}

theorem text_of_fields {f : PFields} (h : l.fields = some f) : l.text = f.line := by
  obtain ⟨entry, cr⟩ := l
  cases entry with
  | point p =>
    obtain rfl := Option.some.inj h
    simp [text, Entry.text, PFields.line, PFields.fromLatitude, PFields.fromLongitude,
      PointRecord.fields, lineEnd]
  | empty => cases h
  | comment text plain => cases h
  | loop text plain => cases h
  | count text plain => cases h

/-- The kind of a line is in its first character. -/
theorem head_text (l : FileLine) :
    (l.text.head? = some 'P' ↔ l.fields.isSome = true) ∧
      (l.text.head? = some 'L' ↔ l.entry.isLoop = true) := by
  obtain ⟨entry, cr⟩ := l
  cases entry with
  | point p => exact ⟨iff_of_true rfl rfl, iff_of_false (by simp [text, Entry.text]) (by simp [Entry.isLoop])⟩
  | empty =>
    cases cr with
    | false => exact ⟨iff_of_false (by decide) (by decide), iff_of_false (by decide) (by decide)⟩
    | true => exact ⟨iff_of_false (by decide) (by decide), iff_of_false (by decide) (by decide)⟩
  | comment t plain =>
    exact ⟨iff_of_false (by simp [text, Entry.text]) (by simp [fields, point?, Entry.point?]),
      iff_of_false (by simp [text, Entry.text]) (by simp [Entry.isLoop])⟩
  | loop t plain =>
    exact ⟨iff_of_false (by simp [text, Entry.text]) (by simp [fields, point?, Entry.point?]),
      iff_of_true rfl rfl⟩
  | count t plain =>
    exact ⟨iff_of_false (by simp [text, Entry.text]) (by simp [fields, point?, Entry.point?]),
      iff_of_false (by simp [text, Entry.text]) (by simp [Entry.isLoop])⟩

end FileLine

/-- The P records of the file are its points. -/
theorem records_fileText (ls : List FileLine) :
    records 'P' (fileText ls) = (ls.filterMap FileLine.fields).map PFields.line := by
  rw [records, lines_fileText]
  induction ls with
  | nil => rfl
  | cons l ls ih =>
    cases hfields : l.fields with
    | none =>
      have hhead : ¬ l.text.head? = some 'P' := by
        rw [(FileLine.head_text l).1, hfields]
        decide
      rw [List.map_cons, List.filter_cons, if_neg (by simpa using hhead), ih,
        List.filterMap_cons_none hfields]
    | some f =>
      have hhead : l.text.head? = some 'P' := by
        rw [(FileLine.head_text l).1, hfields]
        rfl
      rw [List.map_cons, List.filter_cons, if_pos (decide_eq_true hhead), ih,
        List.filterMap_cons_some hfields, List.map_cons, FileLine.text_of_fields hfields]

theorem waypoints_fields (ls : List FileLine) :
    (ls.filterMap FileLine.fields).map PFields.waypoint =
      (points ls).map PointRecord.waypoint := by
  unfold points
  induction ls with
  | nil => rfl
  | cons l ls ih =>
    cases hpoint : l.point? with
    | none =>
      have hfields : l.fields = none := by rw [FileLine.fields, hpoint]; rfl
      rw [List.filterMap_cons_none hfields, List.filterMap_cons_none hpoint, ih]
    | some p =>
      have hfields : l.fields = some (p.fields l) := by rw [FileLine.fields, hpoint]; rfl
      rw [List.filterMap_cons_some hfields, List.filterMap_cons_some hpoint, List.map_cons,
        List.map_cons, ih, p.fields_waypoint]

/-! ## The loop -/

/-- An L record, and nothing else, makes the path a loop. -/
theorem foldl_readLine_loopNavigate {D : Type} [Dbl D] (ls : List (List Char)) (r : Route D) :
    (ls.foldl Route.readLine r).loopNavigate = true ↔
      r.loopNavigate = true ∨ ∃ l ∈ ls, l.head? = some 'L' := by
  induction ls generalizing r with
  | nil => simp
  | cons l ls ih =>
    have hline : (r.readLine l).loopNavigate = true ↔
        r.loopNavigate = true ∨ l.head? = some 'L' := by
      unfold Route.readLine
      split
      next h => simp [h]
      next h => simp [h]
      next h => simp [h]
      next h => exact (or_iff_left h).symm
    rw [List.foldl_cons, ih, hline, or_assoc]
    simp

/-- **The round trip of a waypoints file.** `LoadWaypoints` returns `OK`, with the points of the
file as they were written and in their order; the path is a loop exactly when the file has an L
record. -/
theorem loadWaypoints_roundTrip (ls : List FileLine) (r : Route ℝ) :
    (r.loadWaypoints (some (fileText ls))).2 = Err.ok ∧
    (r.loadWaypoints (some (fileText ls))).1.waypoints =
      (points ls).map PointRecord.waypoint ∧
    (r.loadWaypoints (some (fileText ls))).1.waypointsSize =
      (points ls).length ∧
    ((r.loadWaypoints (some (fileText ls))).1.loopNavigate = true ↔
      ∃ l ∈ ls, l.entry.isLoop = true) := by
  have hwaypoints : (r.loadWaypoints (some (fileText ls))).1.waypoints =
      (points ls).map PointRecord.waypoint := by
    rw [loadWaypoints_points r (records_fileText ls), waypoints_fields]
  refine ⟨rfl, hwaypoints, ?_, ?_⟩
  · rw [(loadWaypoints_some r _).2.1, hwaypoints, List.length_map]
  · have hloop : (r.loadWaypoints (some (fileText ls))).1.loopNavigate = true ↔
        r.reset.loopNavigate = true ∨ ∃ l ∈ lines (fileText ls), l.head? = some 'L' :=
      foldl_readLine_loopNavigate _ r.reset
    rw [hloop, or_iff_right (by simp [Route.reset]), lines_fileText]
    simp only [List.mem_map, exists_exists_and_eq_and]
    exact exists_congr fun l => and_congr_right fun _ => (FileLine.head_text l).2

end Solarbot.Nav
