import Solarbot.Main.Step

/-!
# When the robot may move again

`DoNotMove` goes down at an iteration that sees nothing, three seconds after
`last_object_detection_stop`. That timer is only refreshed by a detection that
passes the stop filter, so an object seen less than half a second after a clear
iteration does not count: a flicker stops nothing, and does not keep the robot
stopped either. `Confirmed` says which detections count, in terms of what the
iterations saw, and `resume_after_clear` that none of them is in the last three
seconds when the robot is released.
-/

namespace Solarbot.Main

open Nav

variable {D : Type} [Dbl D]

/-! ## The detection alone -/

/-- What an iteration saw: its time, and how many detectors saw an object. -/
abbrev Observation := Int × Nat

/-- The detection after some iterations. -/
def Detection.detect (d : Detection) (obs : List Observation) : Detection :=
  obs.foldl (fun d o => d.update o.1 o.2) d

/-- The time of the last iteration that saw nothing. The main loop starts as if
there had been one five seconds before. -/
def lastClear (start : Int) (obs : List Observation) : Int :=
  obs.foldl (fun t o => if 0 < o.2 then t else o.1) (start - 5 * clocksPerSec)

/-- The iteration `o`, after `before`, saw an object, and passes the stop filter. -/
def Confirmed (start : Int) (before : List Observation) (o : Observation) : Prop :=
  0 < o.2 ∧ objectDetectionTimeToStop < o.1 - lastClear start before

theorem detect_concat (d : Detection) (obs : List Observation) (o : Observation) :
    d.detect (obs ++ [o]) = (d.detect obs).update o.1 o.2 := by
  rw [Detection.detect, List.foldl_append]
  rfl

theorem update_filter (d : Detection) (o : Observation) :
    (d.update o.1 o.2).lastObjectDetectionStopFilter =
      if 0 < o.2 then d.lastObjectDetectionStopFilter else o.1 := by
  unfold Detection.update
  split
  · split <;> rfl
  · dsimp only
    split <;> rfl

/-- The filter holds the time of the last clear iteration. -/
theorem detect_filter (start : Int) (obs : List Observation) :
    ((Detection.start start).detect obs).lastObjectDetectionStopFilter = lastClear start obs := by
  induction obs using List.reverseRecOn with
  | nil => rfl
  | append_singleton obs o ih =>
    rw [detect_concat, update_filter, ih, lastClear, lastClear, List.foldl_append]
    rfl

/-- An update keeps the resume timer, or sets it to the time of the iteration. -/
theorem update_lastStop (d : Detection) (o : Observation) :
    (d.update o.1 o.2).lastObjectDetectionStop = d.lastObjectDetectionStop ∨
      (d.update o.1 o.2).lastObjectDetectionStop = o.1 := by
  unfold Detection.update
  split
  · split
    · exact .inr rfl
    · exact .inl rfl
  · dsimp only
    split <;> exact .inl rfl

/-- A confirmed detection sets the resume timer. -/
theorem update_confirmed {start : Int} {before : List Observation} {o : Observation}
    (h : Confirmed start before o) :
    (((Detection.start start).detect before).update o.1 o.2).lastObjectDetectionStop = o.1 := by
  unfold Detection.update
  rw [if_pos h.1, detect_filter, if_pos h.2]

/-- The resume timer is never before a confirmed detection. -/
theorem confirmed_le_lastStop {start : Int} {before after : List Observation} {o : Observation}
    (hclock : (before ++ o :: after).Pairwise fun a b => a.1 ≤ b.1)
    (h : Confirmed start before o) :
    o.1 ≤ ((Detection.start start).detect (before ++ o :: after)).lastObjectDetectionStop := by
  induction after using List.reverseRecOn with
  | nil =>
    rw [detect_concat, update_confirmed h]
  | append_singleton after p ih =>
    have hsplit : before ++ o :: (after ++ [p]) = (before ++ o :: after) ++ [p] := by simp
    rw [hsplit, List.pairwise_append] at hclock
    rw [hsplit, detect_concat]
    rcases update_lastStop ((Detection.start start).detect (before ++ o :: after)) p with hl | hl
    · rw [hl]
      exact ih hclock.1
    · rw [hl]
      exact hclock.2.2 o (by simp) p (by simp)

/-- The flag goes down only at a clear iteration, three seconds after the timer. -/
theorem update_resume {d : Detection} {o : Observation} (hon : d.doNotMove = true)
    (hoff : (d.update o.1 o.2).doNotMove = false) :
    o.2 = 0 ∧ objectDetectionTimeToStart < o.1 - d.lastObjectDetectionStop := by
  unfold Detection.update at hoff
  split at hoff
  next hseen =>
    split at hoff
    · exact absurd hoff (by simp)
    · exact absurd hoff (by simp [hon])
  next hclear =>
    dsimp only at hoff
    split at hoff
    next h => exact ⟨Nat.eq_zero_of_not_pos hclear, h.2⟩
    next => exact absurd hoff (by simp [hon])

/-! ## The main loop -/

/-- What the iterations of a run saw. -/
def observations (es : List (Event D)) : List Observation :=
  es.filterMap fun e =>
    match e with
    | .iterate rd => some (rd.clock, criticalObjectDetectedCount rd.results)
    | _ => none

theorem step_detection {s s' : Robot D} {e : Event D} (h : step s e = .ok s') :
    s'.detection = s.detection.detect (observations [e]) := by
  cases e with
  | iterate rd => exact Robot.iterate_detection h
  | telemetry => exact telemetry_eq h ▸ rfl
  | goto file => exact Except.ok.inj h ▸ Robot.goto_detection s file
  | setMode arg init => exact Except.ok.inj h ▸ Robot.setMode_detection s arg init
  | remote frame =>
    obtain ⟨d, hd, -⟩ := Robot.readRxController_cases s frame
    rw [← Except.ok.inj h, hd]
    rfl

/-- The detection of a run is that of what its iterations saw. -/
theorem run_detection : ∀ {es : List (Event D)} {s s' : Robot D},
    Runs.run step s es = .ok s' → s'.detection = s.detection.detect (observations es)
  | [], _, _, h => congrArg Robot.detection (Except.ok.inj h).symm
  | e :: es, s, s', h => by
    obtain ⟨m, hm, hp⟩ := Runs.run_ok_iff.mp h
    have hrest := run_detection (Runs.run_ok_iff.mpr hp)
    have hsplit : observations (e :: es) = observations [e] ++ observations es :=
      List.filterMap_append (l := [e])
    rw [hrest, step_detection hm, hsplit, Detection.detect, Detection.detect, Detection.detect,
      List.foldl_append]

theorem startUp_detection {c : Config D} {s : Robot D} (h : startUp c = some s) :
    s.detection = Detection.start c.clock := by
  simp only [startUp] at h
  split at h
  · exact Option.some.inj h ▸ rfl
  · exact absurd h (by simp)

/-- **Resume only after a clear interval.** When an iteration at the time `t` lets
the robot move again, it saw nothing, and no iteration in the three seconds before
`t` made a confirmed detection. -/
theorem resume_after_clear {c : Config D} {s m s' : Robot D} {es : List (Event D)}
    {rd : Readings D} (hstart : startUp c = some s) (hrun : Runs.run step s es = .ok m)
    (hclock : (observations es).Pairwise fun a b => a.1 ≤ b.1)
    (hstep : step m (.iterate rd) = .ok s') (hon : m.navigator.doNotMove = true)
    (hoff : s'.navigator.doNotMove = false) :
    criticalObjectDetectedCount rd.results = 0 ∧
      ∀ before o after, observations es = before ++ o :: after →
        rd.clock - objectDetectionTimeToStart < o.1 → ¬ Confirmed c.clock before o := by
  have hdet : m.detection = (Detection.start c.clock).detect (observations es) := by
    rw [run_detection hrun, startUp_detection hstart]
  have hup : (m.detection.update rd.clock
      (criticalObjectDetectedCount rd.results)).doNotMove = false := by
    rw [← Robot.iterate_detection hstep]
    exact hoff
  obtain ⟨hclear, htime⟩ := update_resume
    (o := (rd.clock, criticalObjectDetectedCount rd.results)) hon hup
  refine ⟨hclear, ?_⟩
  intro before o after hobs hrecent hconf
  rw [hobs] at hclock hdet
  have hle := confirmed_le_lastStop hclock hconf
  rw [← hdet] at hle
  omega

/-! ## Two releases -/

/-- One detector sees an object, one metre away. -/
noncomputable def objectFix (clock : Int) : Readings ℝ := { clearFix clock with results := [[1000]] }

/-- Three seconds after a confirmed detection the robot is released. -/
theorem resume_after_clear_three_seconds : ∃ s m s',
    startUp (plainConfig "standby".toList none) = some s ∧
      Runs.run step s [.iterate (objectFix 1)] = .ok m ∧
      step m (.iterate (clearFix 3000002)) = .ok s' ∧
      criticalObjectDetectedCount (clearFix 3000002).results = 0 ∧
      ∀ before o after, observations [.iterate (objectFix 1)] = before ++ o :: after →
        3000002 - objectDetectionTimeToStart < o.1 → ¬ Confirmed 0 before o := by
  obtain ⟨s, m, s', hs, hm, hs', hon, hoff⟩ : ∃ s m s',
      startUp (plainConfig "standby".toList none) = some s ∧
        Runs.run step s [.iterate (objectFix 1)] = .ok m ∧
        step m (.iterate (clearFix 3000002)) = .ok s' ∧
        m.navigator.doNotMove = true ∧ s'.navigator.doNotMove = false :=
    ⟨_, _, _, rfl, rfl, rfl, rfl, rfl⟩
  have hclock : (observations [.iterate (objectFix 1)]).Pairwise fun a b => a.1 ≤ b.1 :=
    List.pairwise_singleton ..
  exact ⟨s, m, s', hs, hm, hs', resume_after_clear hs hm hclock hs' hon hoff⟩

/-- An object that was seen a microsecond after a clear iteration does not keep the
robot stopped: two microseconds after it, the robot is released. -/
theorem resume_after_flicker : ∃ s m s',
    startUp (plainConfig "standby".toList none) = some s ∧
      Runs.run step s [.iterate (objectFix 1), .iterate (clearFix 3000000),
        .iterate (objectFix 3000001)] = .ok m ∧
      step m (.iterate (clearFix 3000002)) = .ok s' ∧
      m.navigator.doNotMove = true ∧ s'.navigator.doNotMove = false ∧
      3000002 - objectDetectionTimeToStart < (objectFix 3000001).clock ∧
      0 < criticalObjectDetectedCount (objectFix 3000001).results :=
  ⟨_, _, _, rfl, rfl, rfl, rfl, rfl, by decide, by decide⟩

end Solarbot.Main
