import Solarbot.Nav.Motion
import Solarbot.Nav.Search

/-!
# The start record of a waypoints file

The description of the file format in `LoadWaypoints` says that an S record selects the waypoint
to start with. A `StartFile` is a file as it is described there, with one such record.
`loadWaypoints_points` says that the waypoints a load leaves are the P records of the
file, so the selected one is known; `startRecord_ignored` says that the first call of
`GotoNextWaypoint` never heads for it.
-/

namespace Solarbot.Nav

variable {D : Type} [Dbl D]

/-! ## One P record -/

/-- The three fields of a P record. -/
structure PFields where
  latitude : List Char
  longitude : List Char
  speed : List Char
  latitude_plain : ',' ∉ latitude
  longitude_plain : ',' ∉ longitude
  speed_plain : ',' ∉ speed
  speed_ne : speed ≠ []

namespace PFields

variable (p : PFields)

/-- The line from the second field on. -/
def fromLongitude : List Char := p.longitude ++ ',' :: p.speed

/-- The line behind the letter. -/
def fromLatitude : List Char := p.latitude ++ ',' :: p.fromLongitude

def line : List Char := 'P' :: p.fromLatitude

/-- The waypoint of the record. Each number is read up to the end of its field, or to the
first character that is in no number. -/
def waypoint : Waypoint D :=
  ⟨Dbl.strtold p.fromLatitude, Dbl.strtold p.fromLongitude, CText.atoi p.speed⟩

end PFields

namespace PRecord

variable {text q field rest : List Char}

/-- Inside a field nothing happens. -/
theorem foldl_field (htext : text = q ++ (field ++ rest)) (hfield : ',' ∉ field) (hrest : rest ≠ [])
    (p : PRecord D) : (List.range' q.length field.length).foldl (step text) p = p := by
  refine Loops.foldl_range' (fun _ p' => p' = p) field.length rfl ?_
  rintro i p' hlo hhi rfl
  have hpos := List.length_pos_iff.mpr hrest
  have hend : ¬ i + 1 = text.length := by
    rw [htext, List.length_append, List.length_append]
    omega
  have hchar : ¬ text[i]? = some ',' := by
    rw [htext, List.getElem?_append_right hlo, List.getElem?_append_left (by omega)]
    exact fun h => hfield (List.mem_of_getElem? h)
  rw [step, if_neg (fun h => h.elim hchar hend)]

/-- A comma ends a field. -/
theorem step_comma (htext : text = q ++ ',' :: rest) (p : PRecord D) :
    step text p q.length =
      (let field := text.drop (p.lastCommaIndex + 1)
        let p := { p with commaCount := p.commaCount + 1, lastCommaIndex := q.length }
        if p.commaCount = 1 then { p with latitude := Dbl.strtold field }
        else if p.commaCount = 2 then { p with longitude := Dbl.strtold field }
        else if p.commaCount = 3 then
          { p with waypoints := p.waypoints ++ [⟨p.latitude, p.longitude, CText.atoi field⟩] }
        else p) := by
  have hchar : text[q.length]? = some ',' := by
    rw [htext, List.getElem?_append_right (le_refl _), Nat.sub_self]
    rfl
  rw [step, if_pos (Or.inl hchar)]

end PRecord

namespace PFields

variable (p : PFields)

/-- The line up to the first comma. -/
def upToLatitude : List Char := 'P' :: p.latitude

/-- The line up to the second comma. -/
def upToLongitude : List Char := p.upToLatitude ++ ',' :: p.longitude

/-- The first comma is behind the latitude. -/
theorem line_latitude : p.line = p.upToLatitude ++ ',' :: p.fromLongitude := rfl

/-- The second is behind the longitude. -/
theorem line_longitude : p.line = p.upToLongitude ++ ',' :: p.speed := by
  rw [line_latitude, fromLongitude, upToLongitude, List.append_assoc]
  rfl

theorem upToLatitude_length : p.upToLatitude.length = 1 + p.latitude.length := Nat.add_comm _ _

theorem upToLongitude_length :
    p.upToLongitude.length = p.upToLatitude.length + 1 + p.longitude.length := by
  rw [upToLongitude, List.length_append, List.length_cons]
  omega

theorem line_length : p.line.length = p.upToLongitude.length + 1 + p.speed.length := by
  rw [line_longitude, List.length_append, List.length_cons]
  omega

/-- What is behind the first comma. -/
theorem drop_latitude : p.line.drop (p.upToLatitude.length + 1) = p.fromLongitude := by
  rw [line_latitude, List.drop_length_add_append]
  rfl

/-- What is behind the second. -/
theorem drop_longitude : p.line.drop (p.upToLongitude.length + 1) = p.speed := by
  rw [line_longitude, List.drop_length_add_append]
  rfl

end PFields

/-- **A P record** adds its waypoint. -/
theorem readPRecord_line (p : PFields) (waypoints : List (Waypoint D)) :
    readPRecord p.line waypoints = waypoints ++ [p.waypoint] := by
  obtain ⟨front, last, hspeed⟩ := (List.eq_nil_or_concat' p.speed).resolve_left p.speed_ne
  have hfront : ',' ∉ front := fun h => p.speed_plain (hspeed ▸ List.mem_append_left _ h)
  have hlength : p.line.length = p.upToLongitude.length + 1 + front.length + 1 := by
    rw [p.line_length, hspeed, List.length_append]
    rfl
  -- what the pass has read behind each of the two commas
  let p₀ : PRecord D := { latitude := num 0, longitude := num 0, waypoints }
  let p₁ : PRecord D := { p₀ with
    commaCount := 1
    lastCommaIndex := p.upToLatitude.length
    latitude := Dbl.strtold p.fromLatitude }
  let p₂ : PRecord D := { p₁ with
    commaCount := 2
    lastCommaIndex := p.upToLongitude.length
    longitude := Dbl.strtold p.fromLongitude }
  have hlatitude : (List.range' 1 p.latitude.length).foldl (PRecord.step p.line) p₀ = p₀ :=
    PRecord.foldl_field (show p.line = ['P'] ++ (p.latitude ++ ',' :: p.fromLongitude) from rfl)
      p.latitude_plain (List.cons_ne_nil _ _) p₀
  have hcomma : PRecord.step p.line p₀ p.upToLatitude.length = p₁ :=
    PRecord.step_comma p.line_latitude p₀
  have hlongitude : (List.range' (p.upToLatitude.length + 1) p.longitude.length).foldl
      (PRecord.step p.line) p₁ = p₁ := by
    have hline : p.line = (p.upToLatitude ++ [',']) ++ (p.longitude ++ ',' :: p.speed) := by
      rw [p.line_latitude, List.append_assoc]
      rfl
    have h := PRecord.foldl_field hline p.longitude_plain (List.cons_ne_nil _ _) p₁
    rwa [List.length_append] at h
  have hcomma' : PRecord.step p.line p₁ p.upToLongitude.length = p₂ := by
    rw [PRecord.step_comma p.line_longitude]
    dsimp only [p₁]
    rw [p.drop_latitude]
    rfl
  have hspeed' : (List.range' (p.upToLongitude.length + 1) front.length).foldl
      (PRecord.step p.line) p₂ = p₂ := by
    have hline : p.line = (p.upToLongitude ++ [',']) ++ (front ++ [last]) := by
      rw [p.line_longitude, hspeed, List.append_assoc]
      rfl
    have h := PRecord.foldl_field hline hfront (List.cons_ne_nil _ _) p₂
    rwa [List.length_append] at h
  have hlast : (PRecord.step p.line p₂ (p.upToLongitude.length + 1 + front.length)).waypoints =
      waypoints ++ [p.waypoint] := by
    rw [PRecord.step, if_pos (Or.inr hlength.symm)]
    dsimp only [p₂]
    rw [p.drop_longitude]
    rfl
  have hrange : List.range' 1 (p.line.length - 1) =
      List.range' 1 p.latitude.length ++ p.upToLatitude.length ::
        (List.range' (p.upToLatitude.length + 1) p.longitude.length ++ p.upToLongitude.length ::
          (List.range' (p.upToLongitude.length + 1) front.length ++
            [p.upToLongitude.length + 1 + front.length])) := by
    have hcount : p.line.length - 1 =
        p.latitude.length + (1 + (p.longitude.length + (1 + (front.length + (1 + 0))))) := by
      rw [hlength, p.upToLongitude_length, p.upToLatitude_length]
      omega
    rw [hcount, Loops.range'_split, ← p.upToLatitude_length, Loops.range'_split,
      ← p.upToLongitude_length, Loops.range'_split]
    rfl
  rw [readPRecord, hrange, List.foldl_append, hlatitude, List.foldl_cons, hcomma,
    List.foldl_append, hlongitude, List.foldl_cons, hcomma', List.foldl_append, hspeed']
  exact hlast

/-! ## A file -/

/-- The lines of a text that are records of a kind. -/
def records (letter : Char) (text : List Char) : List (List Char) :=
  (CText.lines text).filter fun line => line.head? = some letter

/-- The waypoints are those of the `P` lines, in their order. -/
theorem foldl_readLine_waypoints {ls : List (List Char)} :
    ∀ {points : List PFields} (r : Route D),
      (ls.filter fun line => line.head? = some 'P') = points.map PFields.line →
      (ls.foldl Route.readLine r).waypoints = r.waypoints ++ points.map PFields.waypoint := by
  induction ls with
  | nil =>
    intro points r h
    rw [List.filter_nil] at h
    rw [List.map_eq_nil_iff.mp h.symm]
    simp
  | cons line ls ih =>
    intro points r h
    rw [List.foldl_cons]
    by_cases hP : line.head? = some 'P'
    · rw [List.filter_cons, if_pos (decide_eq_true hP)] at h
      cases points with
      | nil => exact absurd h (List.cons_ne_nil _ _)
      | cons p points =>
        rw [List.map_cons, List.cons.injEq] at h
        have hread : r.readLine line = { r with waypoints := r.waypoints ++ [p.waypoint] } := by
          rw [Route.readLine, hP, h.1, readPRecord_line]
          rfl
        rw [ih _ h.2, hread, List.map_cons, List.append_assoc]
        rfl
    · rw [List.filter_cons, if_neg (by simpa using hP)] at h
      have hread : (r.readLine line).waypoints = r.waypoints := by
        unfold Route.readLine
        split
        next hline => exact absurd hline hP
        all_goals rfl
      rw [ih _ h, hread]

/-- **The waypoints of a file** are its P records, in their order. -/
theorem loadWaypoints_points (r : Route D) {text : List Char} {points : List PFields}
    (h : records 'P' text = points.map PFields.line) :
    (r.loadWaypoints (some text)).1.waypoints = points.map PFields.waypoint :=
  foldl_readLine_waypoints r.reset h

/-- A file as `LoadWaypoints` describes it, with the P records `points` and one S record, for the
`k`-th of them. The records may stand in any order. -/
structure StartFile (text : List Char) (points : List PFields) (k : Nat) : Prop where
  pRecords : records 'P' text = points.map PFields.line
  sRecord : ∃ number, records 'S' text = ['S' :: number] ∧ CText.atoi number = k
  others : ∀ line ∈ CText.lines text,
    line.head? ∈ [none, some 'P', some 'S', some 'L', some 'C', some '#']
  lower : 1 ≤ k
  upper : k ≤ points.length

namespace Navigator

variable (n : Navigator D)

/-- The navigator after `LoadWaypoints`. -/
def load (text : List Char) : Navigator D :=
  { n with toRoute := (n.loadWaypoints (some text)).1 }

/-- The next call of `GotoNextWaypoint` returns, and heads for this waypoint. -/
def HeadsFor (location : Location D) (heading : D) (w : Waypoint D) : Prop :=
  n.target location = .ok w ∧ ∃ res, n.gotoNextWaypoint location heading = .ok res

/-- It heads for the `k`-th P record. -/
def StartsAt (points : List PFields) (k : Nat) (location : Location D) (heading : D) : Prop :=
  ∃ p, points[k - 1]? = some p ∧ n.HeadsFor location heading p.waypoint

end Navigator

/-- The S record leaves a navigator that is off the search and has no current waypoint. -/
theorem StartFile.load_faults {text : List Char} {points : List PFields} {k : Nat}
    (h : StartFile text points k) (n : Navigator D) (location : Location D) (heading : D) :
    (n.load text).gotoNextWaypoint location heading =
      .error (.outOfRange (-1) points.length) := by
  have hstart : HasStartRecord text := by
    obtain ⟨number, hrecords, -⟩ := h.sRecord
    have hmem : 'S' :: number ∈ records 'S' text := by
      rw [hrecords]
      exact List.mem_cons_self
    obtain ⟨hline, hhead⟩ := List.mem_filter.mp hmem
    exact ⟨_, hline, of_decide_eq_true hhead⟩
  have hlength : (n.load text).waypoints.length = points.length := by
    rw [show (n.load text).waypoints = _ from loadWaypoints_points n.toRoute h.pRecords,
      List.length_map]
  obtain ⟨hindex, hoff⟩ := loadWaypoints_startRecord n.toRoute hstart
  rw [← hlength]
  exact Navigator.gotoNextWaypoint_faults hindex hoff location heading

/-- **The S record does not select.** Whatever the file, the record, the place of the rover and
its heading, the first call does not head for the selected waypoint: it reads
`waypoints[-1]`. -/
theorem startRecord_ignored {text : List Char} {points : List PFields} {k : Nat}
    (h : StartFile text points k) (n : Navigator D) (location : Location D) (heading : D) :
    ¬ (n.load text).StartsAt points k location heading := by
  intro hstarts
  obtain ⟨p, -, -, res, hres⟩ := hstarts
  rw [h.load_faults n location heading] at hres
  exact absurd hres (by simp)

/-! ## The file of the description, with two points -/

def southPole : PFields where
  latitude := "-90".toList
  longitude := "0".toList
  speed := "1000\r".toList
  latitude_plain := by decide
  longitude_plain := by decide
  speed_plain := by decide
  speed_ne := by decide

def northPole : PFields := { southPole with
  latitude := "90".toList
  latitude_plain := by decide }

def polesFromNorth : List Char := "#Poles\r\nS2\r\nL\r\nC2\r\nP-90,0,1000\r\nP90,0,1000\r\n".toList

theorem polesFromNorth_start : StartFile polesFromNorth [southPole, northPole] 2 where
  pRecords := by decide
  sRecord := ⟨"2\r".toList, by decide, by decide⟩
  others := by decide
  lower := by decide
  upper := by decide

/-- A new navigator that has read it. -/
noncomputable def fromNorth : Navigator ℝ := (Navigator.new ⟨0, 0, 0⟩ 0).load polesFromNorth

theorem startRecord_ignored_poles : ¬ fromNorth.StartsAt [southPole, northPole] 2 ⟨0, 0, 4⟩ 0 :=
  startRecord_ignored polesFromNorth_start _ _ _

/-- It does not start at the north pole, but reads in front of the vector. -/
theorem polesFromNorth_faults :
    fromNorth.gotoNextWaypoint ⟨0, 0, 4⟩ 0 = .error (.outOfRange (-1) 2) ∧
      ¬ fromNorth.StartsAt [southPole, northPole] 2 ⟨0, 0, 4⟩ 0 := by
  have hfault : fromNorth.gotoNextWaypoint ⟨0, 0, 4⟩ 0 = .error (.outOfRange (-1) 2) :=
    polesFromNorth_start.load_faults (Navigator.new ⟨0, 0, 0⟩ 0) ⟨0, 0, 4⟩ 0
  refine ⟨hfault, ?_⟩
  intro hstarts
  obtain ⟨p, -, -, res, hres⟩ := hstarts
  exact absurd (hfault.symm.trans hres) (by simp)

end Solarbot.Nav
