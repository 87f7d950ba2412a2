import Solarbot.Main.Step

/-!
# The waypoint index over whole runs

Every access to the vector of waypoints is inside it, in every run in which

- no file that is read has an S record (the configured one is read when the robot starts in
  `ModeWaypoints`), and
- `GotoNextWaypoint` is only asked to search a path that has a sample point at a
  finite distance (`PathSampled`), that is, one with two consecutive waypoints
  two metres apart.

`waypoints_in_range` is that theorem. Both conditions are needed: an S record
switches the search off without setting the index, and a search that finds nothing
leaves the index at `-1`, where the rover is soon sent to the current waypoint
(`Navigator.gotoNextWaypoint_faults`).

The invariant is `Indexed`. Its one subtle clause is that a robot without a current
waypoint is either still looking for the path or has no waypoints at all; in the
latter case it does not navigate by waypoints, since `SETMODE` refuses to.
-/

namespace Solarbot.Main

open Nav

variable {D : Type} [Dbl D]

namespace Robot

/-- The invariant. -/
structure Indexed (s : Robot D) : Prop where
  sound : s.navigator.Sound
  searching : s.navigator.waypointsIndex = -1 →
    s.navigator.findingPath = true ∨ s.navigator.waypoints = [] ∧ ¬ s.ByWaypoints

end Robot

/-- The condition on a step: a file that is read has no S record, and a path that
is searched has a sample. -/
def Searchable (s : Robot D) : Event D → Prop
  | .iterate rd => s.CallsGotoNext rd → s.navigator.waypointsIndex = -1 →
      s.navigator.PathSampled rd.location
  | .goto (some text) => s.isLocationGood = true → ¬ HasStartRecord text
  | _ => True

/-! ## One step -/

namespace Robot

variable {s : Robot D}

omit [Dbl D] in
theorem Indexed.of_located (h : s.navigator.Located) : s.Indexed :=
  ⟨h.sound, fun hidx => absurd h.lower (by rw [hidx]; decide)⟩

omit [Dbl D] in
theorem Sound.congr {r r' : Route D} (h : r.Sound) (hp : SamePath r r') : r'.Sound := by
  constructor
  · rw [hp.waypointsSize, hp.waypoints]
    exact h.size
  · rw [hp.waypointsIndex]
    exact h.lower
  · rw [hp.waypointsIndex, hp.waypointsSize]
    exact h.upper

/-- A file without an S record puts the robot on the search for its path. -/
theorem indexed_load {r : Route D} {text : List Char} (h : ¬ HasStartRecord text)
    (hp : SamePath (r.loadWaypoints (some text)).1 s.navigator.toRoute) : s.Indexed := by
  obtain ⟨-, hsize, hidx⟩ := loadWaypoints_some r text
  refine ⟨Sound.congr ⟨hsize, by omega, by omega⟩ hp, fun _ => .inl ?_⟩
  rw [hp.findingPath, loadWaypoints_findingPath]
  exact h

/-- A call of `GotoNextWaypoint` leaves a current waypoint. -/
theorem callsGotoNext_located (h : s.Indexed) {rd : Readings D}
    (hg : Searchable s (.iterate rd)) (hcall : s.CallsGotoNext rd) :
    ∃ res, (s.sense rd).navigator.gotoNextWaypoint rd.location rd.gpsHeading = .ok res ∧
      res.1.Located := by
  refine Navigator.gotoNextWaypoint_located (n := (s.sense rd).navigator) h.sound rd.gpsHeading
    fun hidx => ⟨?_, hg hcall hidx⟩
  exact (h.searching hidx).resolve_right fun hempty => hempty.2 hcall.1

/-- An iteration stays inside the vector. -/
theorem iterate_indexed (h : s.Indexed) {rd : Readings D} (hg : Searchable s (.iterate rd)) :
    ∃ s', s.iterate rd = .ok s' ∧ s'.Indexed := by
  have hnext := callsGotoNext_located h hg
  obtain ⟨s', hs'⟩ := iterate_total fun hcall => (hnext hcall).imp fun _ hres => hres.1
  refine ⟨s', hs', ?_⟩
  rcases iterate_cases hs' with ⟨hcall, res, hres, rfl⟩ | ⟨n, rfl, hroute, hmotion⟩
  · obtain ⟨res', hres', hloc⟩ := hnext hcall
    rw [hres, Except.ok.injEq] at hres'
    exact .of_located (hres' ▸ hloc)
  · -- the route is the same, and so is the mode
    have hmode : n.mode = s.navigator.mode := by
      rcases hmotion with ⟨-, hm⟩ | ⟨-, -, hq⟩
      · exact hm.mode
      · exact hq.mode
    refine ⟨?_, fun hidx => ?_⟩
    · rw [show n.toRoute = _ from hroute]
      exact h.sound
    · rw [show n.toRoute = _ from hroute] at hidx ⊢
      refine (h.searching hidx).imp id fun hempty => ⟨hempty.1, fun hby => hempty.2 ?_⟩
      exact ⟨hby.1, hmode ▸ hby.2⟩

/-- After an iteration that calls `GotoNextWaypoint` there is a current waypoint. -/
theorem iterate_located {s' : Robot D} (h : s.Indexed) {rd : Readings D}
    (hg : Searchable s (.iterate rd)) (hcall : s.CallsGotoNext rd)
    (hs : s.iterate rd = .ok s') : s'.navigator.Located := by
  obtain ⟨res, hres, hloc⟩ := callsGotoNext_located h hg hcall
  rcases iterate_cases hs with ⟨-, res', hres', rfl⟩ | ⟨n, -, -, ⟨hi, -⟩ | ⟨-, hno, -⟩⟩
  · rw [hres, Except.ok.injEq] at hres'
    exact hres' ▸ hloc
  · -- in this mode there is no image to steer by
    rcases hi.2 with hmode | ⟨hmode, -⟩ <;> simp [hcall.1.2] at hmode
  · exact absurd hcall hno

omit [Dbl D] in
/-- `SETMODE` keeps the route, and refuses to navigate by no waypoints. -/
theorem setMode_indexed (h : s.Indexed) (arg : List Char) (i : InitResults) :
    (s.executeCommandSetMode arg i).1.Indexed := by
  obtain ⟨-, hpath, hmode⟩ := setMode_cases s arg i
  refine ⟨Sound.congr h.sound hpath, ?_⟩
  intro hidx
  rw [hpath.waypointsIndex] at hidx
  rw [hpath.findingPath, hpath.waypoints]
  refine (h.searching hidx).imp id fun hempty => ⟨hempty.1, fun hby => ?_⟩
  rcases hmode with ⟨hoff, -⟩ | ⟨-, -, hway⟩
  · rw [hby.1] at hoff
    exact absurd hoff (by decide)
  · exact hway hby.2 hempty.1

/-- `GOTO` keeps the route or loads one. -/
theorem goto_indexed (h : s.Indexed) {file : Option (List Char)}
    (hg : Searchable s (.goto file)) : (s.executeCommandGoto file).1.Indexed := by
  rcases goto_cases s file with hs | ⟨text, rfl, hgood, -, hpath, -⟩
  · rw [hs]
    exact h
  · exact indexed_load (hg hgood) hpath

omit [Dbl D] in
theorem readRxController_indexed (h : s.Indexed) (f : ControlFrame) :
    (s.readRxController f).Indexed := by
  obtain ⟨d, hd, -⟩ := readRxController_cases s f
  rw [hd]
  exact ⟨h.sound, h.searching⟩

end Robot

/-- **Every step stays inside the vector** and keeps the invariant. -/
theorem step_indexed (s : Robot D) (e : Event D) (h : s.Indexed) (hg : Searchable s e) :
    ∃ s', step s e = .ok s' ∧ s'.Indexed := by
  cases e with
  | iterate rd => exact Robot.iterate_indexed h hg
  | telemetry =>
    obtain ⟨w, hw⟩ := Navigator.getCurrentWaypoint_ok h.sound
    refine ⟨s, ?_, h⟩
    rw [step, Robot.sendTelemetry, hw]
    rfl
  | goto file => exact ⟨_, rfl, Robot.goto_indexed h hg⟩
  | setMode arg init => exact ⟨_, rfl, Robot.setMode_indexed h arg init⟩
  | remote frame => exact ⟨_, rfl, Robot.readRxController_indexed h frame⟩

/-! ## Whole runs -/

/-- The robot starts with a route that was read without an S record, or with
none. -/
theorem startUp_indexed {c : Config D} {s : Robot D} (hstart : startUp c = some s)
    (hfile : string2Mode c.mode = .modeWaypoints →
      ∀ text, c.waypointsFile = some (some text) → ¬ HasStartRecord text) : s.Indexed := by
  obtain ⟨-, -, ⟨hmode, hroute⟩ | ⟨hmode, text, htext, hroute⟩⟩ := startUp_cases hstart
  · -- the fresh navigator: no waypoints, and another mode
    refine ⟨?_, fun _ => .inr ⟨?_, fun hby => hmode hby.2⟩⟩
    · rw [hroute]
      exact ⟨rfl, le_refl _, Int.negSucc_lt_zero 0⟩
    · rw [hroute]
      rfl
  · refine Robot.indexed_load (r := c.constructed.navigator.toRoute) (hfile hmode text htext) ?_
    rw [hroute]
    exact ⟨rfl, rfl, rfl, rfl⟩

/-- **Waypoint index safety.** From start-up, over every run that reads no file
with an S record and searches only paths that have a sample, no access leaves the
vector of waypoints: the run does not fault. -/
theorem waypoints_in_range {c : Config D} {s : Robot D} (hstart : startUp c = some s)
    (hfile : string2Mode c.mode = .modeWaypoints →
      ∀ text, c.waypointsFile = some (some text) → ¬ HasStartRecord text)
    {es : List (Event D)} (hes : Runs.Along (Runs.Graph step) Searchable s es) :
    ∃ s', Runs.run step s es = .ok s' ∧ s'.navigator.Sound := by
  obtain ⟨s', hs', h⟩ := Runs.run_safe step_indexed hes (startUp_indexed hstart hfile)
  exact ⟨s', hs', h.sound⟩

/-! ## A run that is safe, and one that is not -/

/-- From pole to pole. -/
def polesFile : List Char := "P-90,0,1000\nP90,0,1000\n".toList

/-- The same with the first waypoint selected. -/
def startRecordFile : List Char := "S1\nP-90,0,1000\nP90,0,1000\n".toList

/-- The poles are half a circumference apart. -/
theorem poles_distance :
    (getDestination (⟨num (-90), num 0⟩ : Point ℝ) ⟨num 90, num 0⟩).distance =
      6371000 * Real.pi := by
  have hlat : ((90 : ℚ) : ℝ) * Real.pi / ((180 : ℚ) : ℝ) -
      ((-90 : ℚ) : ℝ) * Real.pi / ((180 : ℚ) : ℝ) = Real.pi := by
    push_cast
    ring
  have hcos : Real.cos (((-90 : ℚ) : ℝ) * Real.pi / ((180 : ℚ) : ℝ)) = 0 := by
    rw [show ((-90 : ℚ) : ℝ) * Real.pi / ((180 : ℚ) : ℝ) = -(Real.pi / 2) by push_cast; ring,
      Real.cos_neg, Real.cos_pi_div_two]
  have hsin : Real.sin (Real.pi / ((2 : ℚ) : ℝ)) = 1 := by
    push_cast
    exact Real.sin_pi_div_two
  simp only [getDestination, degrees2Radians, earthRadius, real_num, real_pi, real_sin, real_cos,
    real_sq, real_asin, real_sqrt, hlat, hcos, hsin]
  norm_num
  ring

/-- The robot that has read the poles can search its path. -/
theorem poles_start : ∃ s, startUp (plainConfig "waypoints".toList (some (some polesFile))) = some s ∧
    s.navigator.PathSampled ⟨0, 0, 4⟩ := by
  have hsouth : CText.atof "-90,0,1000".toList = -90 := by decide +kernel
  have hnorth : CText.atof "90,0,1000".toList = 90 := by decide +kernel
  have hzero : CText.atof "0,1000".toList = 0 := by decide +kernel
  have hsteps : 1 < steps (⟨num (-90), num 0⟩ : Point ℝ) ⟨num 90, num 0⟩ := by
    have hpi := Real.two_le_pi
    rw [steps, poles_distance, increment, real_num, real_toInt,
      truncReal_of_nonneg (by push_cast; linarith), Int.lt_iff_add_one_le, Int.le_floor]
    push_cast
    linarith
  refine ⟨_, rfl, 0, by decide, ⟨num (-90), num 0, 1000⟩, ⟨num 90, num 0, 1000⟩, ?_, ?_,
    segmentSampled_real hsteps⟩
  · rw [← hsouth, ← hzero]
    rfl
  · rw [← hnorth, ← hzero]
    rfl

/-- Once it has looked around, the robot between the poles has a current waypoint. -/
theorem poles_located : ∃ s s',
    startUp (plainConfig "waypoints".toList (some (some polesFile))) = some s ∧
      Runs.run step s [.iterate (clearFix 1)] = .ok s' ∧ s'.navigator.Located := by
  obtain ⟨s, hs, hsampled⟩ := poles_start
  have hfile : ¬ HasStartRecord polesFile := by decide
  have hindexed := startUp_indexed hs
    fun _ text htext => Option.some.inj (Option.some.inj htext) ▸ hfile
  have hcall : s.CallsGotoNext (clearFix 1) := by
    obtain rfl := Option.some.inj hs
    exact ⟨⟨rfl, rfl⟩, rfl, rfl⟩
  have hg : Searchable s (.iterate (clearFix 1)) := fun _ _ => hsampled
  obtain ⟨s', hs', -⟩ := Robot.iterate_indexed hindexed hg
  have hstep : step s (.iterate (clearFix 1)) = .ok s' := hs'
  exact ⟨s, s', hs, (Runs.run_cons_ok hstep).trans rfl,
    Robot.iterate_located hindexed hg hcall hs'⟩

/-- A run over the poles does not leave the vector. -/
theorem waypoints_in_range_poles :
    ∃ s s', startUp (plainConfig "waypoints".toList (some (some polesFile))) = some s ∧
      Runs.run step s [.iterate (clearFix 1), .telemetry] = .ok s' ∧ s'.navigator.Sound := by
  obtain ⟨s, hs, hsampled⟩ := poles_start
  have hfile : ¬ HasStartRecord polesFile := by decide
  have hes : Runs.Along (Runs.Graph step) Searchable s [.iterate (clearFix 1), .telemetry] :=
    ⟨fun _ _ => hsampled, fun _ _ => ⟨trivial, fun _ _ => trivial⟩⟩
  obtain ⟨s', hrun, hsound⟩ := waypoints_in_range hs
    (fun _ text htext => Option.some.inj (Option.some.inj htext) ▸ hfile) hes
  exact ⟨s, s', hs, hrun, hsound⟩

/-- The first iteration of a robot that has read a file with an S record asks for
the waypoint `-1`. -/
theorem startRecord_faults :
    (startUp (plainConfig "waypoints".toList (some (some startRecordFile)))).map
        (fun s => Runs.run step s [.iterate (clearFix 1)]) =
      some (.error (.outOfRange (-1) 2)) := rfl

end Solarbot.Main
