import Solarbot.Main.Idle
import Solarbot.Main.WaypointIndex
import Solarbot.Nav.Arrival

/-!
# The mode and the flag `navigating`

`navigating` is meant to say that the mode is not standby. The start-up and the
commands set the two together. The main loop, when a path is finished, clears the
flag and *compares* the mode with standby where it means to set it, so from then on
they disagree until a command sets both again.

`mode_agrees` is the exact statement: the two agree after every step exactly when
no iteration of the run finishes a path.
-/

namespace Solarbot.Main

open Nav Nav.Navigator

variable {D : Type} [Dbl D]

namespace Robot

/-- The robot navigates exactly when its mode is not standby. -/
def Agree (s : Robot D) : Prop := s.navigating = true ↔ s.navigator.mode ≠ .standby

/-- The event is the iteration that finishes the path. -/
def Finishes (s : Robot D) : Event D → Prop
  | .iterate rd => s.FinishesPath rd
  | _ => False

variable {s s' : Robot D}

/-- An iteration stops navigating only at the end of the path. -/
theorem iterate_navigating {rd : Readings D} (h : s.iterate rd = .ok s') :
    s'.navigating = true ↔ s.navigating = true ∧ ¬ s.FinishesPath rd := by
  rcases iterate_motion h with ⟨hdrives, hnav, -⟩ | ⟨-, htarget, hnav, -⟩
  · refine iff_of_true hnav ?_
    rcases hdrives with himage | ⟨hcall, hat⟩
    · refine ⟨himage.1, ?_⟩
      intro hfin
      -- the modes that steer by an image do not call `GotoNextWaypoint`
      have hmode := hfin.1.1.2
      rcases himage.2 with hvisual | ⟨hline, -⟩
      · rw [hvisual] at hmode
        exact absurd hmode (by decide)
      · rw [hline] at hmode
        exact absurd hmode (by decide)
    · exact ⟨hcall.1.1, fun hfin => hat hfin.2.1⟩
  · rw [hnav]
    refine and_congr_right fun _ => not_congr ?_
    exact ⟨fun hend => ⟨hend.1, htarget hend.1, hend.2⟩, fun hfin => ⟨hfin.1, hfin.2.2⟩⟩

/-- No iteration changes the mode. -/
theorem iterate_mode {rd : Readings D} (h : s.iterate rd = .ok s') :
    s'.navigator.mode = s.navigator.mode := by
  rcases iterate_motion h with ⟨-, -, hm⟩ | ⟨-, -, -, hq⟩
  · exact hm.mode
  · exact hq.mode

/-- No iteration changes whether the path is a loop. -/
theorem iterate_loopNavigate {rd : Readings D} (h : s.iterate rd = .ok s') :
    s'.navigator.loopNavigate = s.navigator.loopNavigate := by
  rcases iterate_cases h with ⟨-, res, hres, rfl⟩ | ⟨n, rfl, hroute, -⟩
  · exact gotoNextWaypoint_loopNavigate (n := (s.sense rd).navigator) hres
  · exact congrArg Route.loopNavigate hroute

theorem iterate_agree_iff (h : s.Agree) {rd : Readings D} (hs : s.iterate rd = .ok s') :
    s'.Agree ↔ ¬ s.FinishesPath rd := by
  have hflag : s.navigating = true ↔ s.navigator.mode ≠ .standby := h
  rw [Agree, iterate_navigating hs, iterate_mode hs, ← hflag]
  constructor
  · intro hand hfin
    exact (hand.mpr hfin.1.1.1).2 hfin
  · exact fun hno => ⟨fun hand => hand.1, fun hnav => ⟨hnav, hno⟩⟩

omit [Dbl D] in
/-- `SETMODE` sets the two together, whatever its argument is and whether the mode
could be initialised or not. -/
theorem setMode_agree (s : Robot D) (arg : List Char) (i : InitResults) :
    (s.executeCommandSetMode arg i).1.Agree := by
  rcases (setMode_cases s arg i).2.2 with ⟨hnav, hmode⟩ | ⟨hnav, hmode, -⟩
  · exact iff_of_false (by rw [hnav]; decide) (not_not_intro hmode)
  · exact iff_of_true hnav hmode

theorem goto_agree (h : s.Agree) (file : Option (List Char)) :
    (s.executeCommandGoto file).1.Agree := by
  rcases goto_cases s file with hs | ⟨_, -, -, -, -, hnav, hmode⟩
  · rw [hs]
    exact h
  · exact iff_of_true hnav (by rw [hmode]; decide)

end Robot

/-- **One step** from an agreeing robot ends in one, unless it finishes the path. -/
theorem step_agree_iff (s : Robot D) (e : Event D) (s' : Robot D) (h : s.Agree)
    (hs : Runs.Graph step s e s') : s'.Agree ↔ ¬ s.Finishes e := by
  cases e with
  | iterate rd => exact Robot.iterate_agree_iff h hs
  | telemetry => exact iff_of_true (telemetry_eq hs ▸ h) id
  | goto file => exact iff_of_true (Except.ok.inj hs ▸ Robot.goto_agree h file) id
  | setMode arg init => exact iff_of_true (Except.ok.inj hs ▸ Robot.setMode_agree s arg init) id
  | remote frame =>
    obtain ⟨d, hd, -⟩ := s.readRxController_cases frame
    obtain rfl := Except.ok.inj hs
    rw [hd]
    exact iff_of_true h id

theorem startUp_agree {c : Config D} {s : Robot D} (h : startUp c = some s) : s.Agree := by
  obtain ⟨-, hnav, -⟩ := startUp_cases h
  rw [Robot.Agree, hnav, decide_eq_true_iff]

/-! ## Whole runs -/

/-- **Mode and flag.** They agree when the main loop starts, and in every state of a
run exactly when no iteration finishes the path. -/
theorem mode_agrees {c : Config D} {s : Robot D} (hstart : startUp c = some s)
    (es : List (Event D)) :
    s.Agree ∧ (Runs.Steps (Runs.Graph step) (fun _ _ s' => s'.Agree) s es ↔
      Runs.Steps (Runs.Graph step) (fun s e _ => ¬ s.Finishes e) s es) :=
  ⟨startUp_agree hstart,
    Runs.Steps.iff_of_invariant step_agree_iff (fun _ _ _ _ _ h => h) (startUp_agree hstart)⟩

/-- A run of commands only. -/
theorem mode_agrees_commands : ∃ s, startUp (plainConfig "standby".toList none) = some s ∧
    Runs.Steps (Runs.Graph step) (fun _ _ s' => s'.Agree) s
      [.setMode "line".toList ⟨true, true, 0⟩, .goto none] := by
  obtain ⟨s, hs⟩ : ∃ s, startUp (plainConfig "standby".toList none) = some s := ⟨_, rfl⟩
  exact ⟨s, hs, ((mode_agrees hs _).2).mpr fun _ _ => ⟨id, fun _ _ => ⟨id, trivial⟩⟩⟩

/-! ## A path that is finished -/

namespace Robot

/-- Wherever the robot is sent, it can be told that it is there. -/
theorem iterate_here {s : Robot ℝ} (hby : s.ByWaypoints) (hloc : s.navigator.Located) :
    ∃ rd s' res, s.iterate rd = .ok s' ∧ s.CallsGotoNext rd ∧
      s.navigator.AtTarget rd.location rd.gpsHeading ∧ s'.navigator = res.1 ∧
      (s.sense rd).navigator.gotoNextWaypoint rd.location rd.gpsHeading = .ok res ∧
      res.1.Located := by
  obtain ⟨latitude, longitude, hat⟩ := atTarget_here hloc
  let rd : Readings ℝ := { clearFix 1 with location := ⟨latitude, longitude, 4⟩ }
  have hcall : s.CallsGotoNext rd := ⟨hby, rfl, rfl⟩
  obtain ⟨res, hres, hloc'⟩ := @gotoNextWaypoint_located ℝ _ (s.sense rd).navigator
    hloc.sound rd.location rd.gpsHeading fun hidx => by
      have hlower := hloc.lower
      have hidx : s.navigator.waypointsIndex = -1 := hidx
      omega
  obtain ⟨s', hs'⟩ := iterate_total fun _ => ⟨res, hres⟩
  refine ⟨rd, s', res, hs', hcall, hat _ _, ?_, hres, hloc'⟩
  rcases iterate_cases hs' with ⟨-, res', hres', rfl⟩ | ⟨n, -, -, ⟨hi, -⟩ | ⟨-, hno, -⟩⟩
  · rw [hres, Except.ok.injEq] at hres'
    exact congrArg Prod.fst hres'.symm
  · rcases hi.2 with hmode | ⟨hmode, -⟩ <;> simp [hby.2] at hmode
  · exact absurd hcall hno

/-- A robot on a path that is no loop can finish it: by induction on the waypoints
that are left. -/
theorem can_finish_from (k : Nat) {s : Robot ℝ} (hby : s.ByWaypoints)
    (hloc : s.navigator.Located) (hfinding : s.navigator.findingPath = false)
    (hloop : s.navigator.loopNavigate = false)
    (hleft : s.navigator.waypointsSize = s.navigator.waypointsIndex + 1 + k) :
    ∃ es s', Runs.run step s es = .ok s' ∧ s'.navigating = false ∧
      s'.navigator.mode = .modeWaypoints := by
  obtain ⟨rd, s', res, hs', hcall, hat, hnav, hres, hloc'⟩ := iterate_here hby hloc
  have hrun : Runs.run step s [.iterate rd] = .ok s' :=
    Runs.run_cons_ok (show step s (.iterate rd) = .ok s' from hs')
  have hmode : s'.navigator.mode = .modeWaypoints := (iterate_mode hs').trans hby.2
  cases k with
  | zero =>
    -- the last leg
    have hfin : s.FinishesPath rd := ⟨hcall, hat, hfinding, by omega, hloop⟩
    refine ⟨[.iterate rd], s', hrun, ?_, hmode⟩
    rw [← Bool.not_eq_true, iterate_navigating hs']
    exact fun hand => hand.2 hfin
  | succ k =>
    have hnofin : ¬ s.FinishesPath rd := by
      intro hfin
      have hlast := hfin.2.2.2.1
      omega
    have hby' : s'.ByWaypoints := ⟨(iterate_navigating hs').mpr ⟨hby.1, hnofin⟩, hmode⟩
    have hbefore : (s.sense rd).navigator.waypointsIndex + 1 <
        (s.sense rd).navigator.waypointsSize := by
      show s.navigator.waypointsIndex + 1 < s.navigator.waypointsSize
      omega
    have hat' : (s.sense rd).navigator.AtTarget rd.location rd.gpsHeading :=
      (atTarget_congr (by rfl) _ _).mpr hat
    obtain ⟨hfinding', hsize', hidx'⟩ :=
      gotoNextWaypoint_next (n := (s.sense rd).navigator) hfinding hbefore hat' hres
    have hloop' : s'.navigator.loopNavigate = s.navigator.loopNavigate := iterate_loopNavigate hs'
    rw [← hnav] at hfinding' hsize' hidx' hloc'
    have hleft' : s'.navigator.waypointsSize = s'.navigator.waypointsIndex + 1 + k := by
      rw [hsize', hidx']
      show s.navigator.waypointsSize = s.navigator.waypointsIndex + 1 + 1 + k
      omega
    obtain ⟨es, t, ht, hend⟩ := can_finish_from k hby' hloc' hfinding' (hloop'.trans hloop) hleft'
    refine ⟨.iterate rd :: es, t, ?_, hend⟩
    rw [Runs.run_cons_ok (show step s (.iterate rd) = .ok s' from hs')]
    exact ht

/-- A path that is no loop can be driven to its end. -/
theorem can_finish {s : Robot ℝ} (hby : s.ByWaypoints) (hloc : s.navigator.Located)
    (hloop : s.navigator.loopNavigate = false) :
    ∃ es s', Runs.run step s es = .ok s' ∧ s'.navigating = false ∧
      s'.navigator.mode = .modeWaypoints := by
  -- the induction is on the waypoints that are left
  have hleft : ∀ {t : Robot ℝ}, t.navigator.Located →
      ∃ k : Nat, t.navigator.waypointsSize = t.navigator.waypointsIndex + 1 + k := by
    intro t ht
    have hupper := ht.upper
    exact ⟨(t.navigator.waypointsSize - t.navigator.waypointsIndex - 1).toNat, by omega⟩
  by_cases hfinding : s.navigator.findingPath = true
  · -- first to the start point
    obtain ⟨rd, s', res, hs', hcall, hat, hnav, hres, hloc'⟩ := iterate_here hby hloc
    have hidx : (s.sense rd).navigator.waypointsIndex ≠ -1 := by
      have hlower := hloc.lower
      show s.navigator.waypointsIndex ≠ -1
      omega
    have hat' : (s.sense rd).navigator.AtTarget rd.location rd.gpsHeading :=
      (atTarget_congr (by rfl) _ _).mpr hat
    have hfinding' := gotoNextWaypoint_start (n := (s.sense rd).navigator) hfinding hidx hat' hres
    have hloop' : s'.navigator.loopNavigate = s.navigator.loopNavigate := iterate_loopNavigate hs'
    rw [← hnav] at hfinding' hloc'
    have hnofin : ¬ s.FinishesPath rd := by
      intro hfin
      rw [hfin.2.2.1] at hfinding
      exact absurd hfinding (by decide)
    have hby' : s'.ByWaypoints :=
      ⟨(iterate_navigating hs').mpr ⟨hby.1, hnofin⟩, (iterate_mode hs').trans hby.2⟩
    obtain ⟨k, hk⟩ := hleft hloc'
    obtain ⟨es, t, ht, hend⟩ := can_finish_from k hby' hloc' hfinding' (hloop'.trans hloop) hk
    refine ⟨.iterate rd :: es, t, ?_, hend⟩
    rw [Runs.run_cons_ok (show step s (.iterate rd) = .ok s' from hs')]
    exact ht
  · obtain ⟨k, hk⟩ := hleft hloc
    exact can_finish_from k hby hloc (by simpa using hfinding) hloop hk

end Robot

/-- A robot that has driven from pole to pole: it does not navigate, and its mode is
still `ModeWaypoints`. -/
theorem poles_disagree : ∃ s es s',
    startUp (plainConfig "waypoints".toList (some (some polesFile))) = some s ∧
      Runs.run step s es = .ok s' ∧ s'.navigating = false ∧
      s'.navigator.mode = .modeWaypoints := by
  obtain ⟨s, m, hs, hm, hloc⟩ := poles_located
  obtain ⟨m', hstep, rfl⟩ := Runs.run_ok_iff.mp hm
  have hiterate : s.iterate (clearFix 1) = .ok m := hstep
  have hstart : s.ByWaypoints ∧ s.navigator.findingPath = true ∧
      s.navigator.loopNavigate = false := by
    obtain rfl := Option.some.inj hs
    exact ⟨⟨rfl, rfl⟩, rfl, rfl⟩
  obtain ⟨hby, hfinding, hloop⟩ := hstart
  have hby' : m.ByWaypoints := by
    refine ⟨(Robot.iterate_navigating hiterate).mpr ⟨hby.1, fun hfin => ?_⟩,
      (Robot.iterate_mode hiterate).trans hby.2⟩
    rw [hfin.2.2.1] at hfinding
    exact absurd hfinding (by decide)
  obtain ⟨es, s', hrun, hend⟩ := Robot.can_finish hby' hloc
    ((Robot.iterate_loopNavigate hiterate).trans hloop)
  exact ⟨s, .iterate (clearFix 1) :: es, s', hs, (Runs.run_cons_ok hstep).trans hrun, hend⟩

end Solarbot.Main
