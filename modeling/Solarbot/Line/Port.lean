import Solarbot.Lib.Select
import Solarbot.Line.Sensor

/-!
# The port of the line sensor

`LineNavigator::Open` sets the timeout of two seconds and fills the set; `Read` uses them as the
calls before left them. `GotoByLine` closes and opens the port after a read that failed. So the
two seconds are for all reads since the port was opened, and a sensor that answers each `$` after
the same time is given up on after so many reads, however quick it is.

The answer to the `$` of the read that was given up is still on its way. When it comes before the
port is open again, `Open` throws it away, and the same goes on from the beginning. When it comes
later it is there for the next read, whose own answer is then there for the one behind it: no read
ever waits again, and each takes the line that the read before has asked for
(`sensor_given_up`).

Mirroring notes:
- The sensor answers each `$` with a line, and all answers take the same time. A `read` of the
  terminal takes one line.
- The time is in microseconds. `gap` is what a turn of the main loop takes besides the read.
-/

namespace Solarbot.Line

open Select

variable {D : Type} [Nav.Dbl D]

/-- A line on its way, with the time until it is there. -/
abbrev Coming : Type := Nat × List Char

/-- The sensor, `line_data`, what `select` is called with, and the lines on their way. -/
structure LinePort (D : Type) where
  sensor : LineNavigator D
  data : Data D
  wait : Wait
  coming : List Coming

/-- What `Open` leaves of two seconds. -/
def opened : Wait := ⟨true, 2000000⟩

/-- Time goes by. -/
def elapse (time : Nat) (coming : List Coming) : List Coming :=
  coming.map fun c => (c.1 - time, c.2)

/-- `tcflush`: the lines that are there are thrown away. -/
def flush (coming : List Coming) : List Coming := coming.filter fun c => 0 < c.1

/-- The data are those of the line. -/
structure Says (data : Data D) (f : SensorLine) : Prop where
  status : data.status = 0
  idFrame : data.idFrame = UInt8.ofInt f.idFrame.value
  rawLeft : data.rawLeft = f.left.value
  rawRight : data.rawRight = f.right.value

namespace LinePort

/-- `GotoByLine` up to the call of `Move`: the `$`, a read, and `Close` and `Open` when it failed.
The answer to the `$` is `line`, and comes after `time`; the port is open again after
`reopening`. -/
def gotoByLine (p : LinePort D) (time reopening : Nat) (line : List Char) :
    Option (LinePort D × Int) :=
  let (next, rest) : Coming × List Coming :=
    match p.coming with
    | [] => ((time, line), [])
    | c :: coming => (c, coming ++ [(time, line)])
  let (wait, rv) := select p.wait (.after next.1)
  let coming := if rv = 1 then elapse next.1 rest else elapse p.wait.timeout (next :: rest)
  (p.sensor.read p.data rv next.2).map fun (sensor, data, r) =>
    if r = 0 then (⟨sensor, data, wait, coming⟩, r)
    else (⟨sensor, data, opened, flush (elapse reopening coming)⟩, r)

/-- The port before the `i`-th call. -/
def before (p : LinePort D) (time reopening : Nat) (gap : Nat → Nat) (line : Nat → List Char) :
    Nat → Option (LinePort D)
  | 0 => some p
  | i + 1 => do
    let q ← before p time reopening gap line i
    let (q, _) ← q.gotoByLine time reopening (line i)
    return { q with coming := elapse (gap i) q.coming }

/-! ## One call -/

section Call

variable {p : LinePort D} (time reopening : Nat) {f : SensorLine}

theorem read_says (n : LineNavigator D) (hlength : f.text.length ≤ 97) (data : Data D) :
    ∃ sensor data', n.read data 1 f.text = some (sensor, data', 0) ∧ Says data' f := by
  obtain ⟨leftItem, -, -, hleft⟩ := n.leftDistance_eq f.left.value
  obtain ⟨rightItem, -, -, hright⟩ := n.rightDistance_eq f.right.value
  exact ⟨_, _, n.read_line f hlength data hleft hright, rfl, rfl, rfl, rfl⟩

/-- Nothing is on its way, and the answer comes in time. -/
theorem gotoByLine_answer (hnone : p.coming = []) (hwatched : p.wait.watched = true)
    (hintime : time ≤ p.wait.timeout) (hlength : f.text.length ≤ 97) :
    ∃ q, p.gotoByLine time reopening f.text = some (q, 0) ∧ Says q.data f ∧
      q.wait = ⟨true, p.wait.timeout - time⟩ ∧ q.coming = [] := by
  obtain ⟨sensor, data, hread, hsays⟩ := read_says p.sensor hlength p.data
  unfold gotoByLine select
  rw [hnone]
  dsimp only
  rw [if_pos ⟨hwatched, hintime⟩]
  dsimp only
  rw [hread]
  refine ⟨_, rfl, hsays, ?_, rfl⟩
  rw [hwatched]

/-- Nothing is on its way, and the answer is late. -/
theorem gotoByLine_late (hnone : p.coming = []) (hlate : p.wait.timeout < time)
    (line : List Char) :
    ∃ q, p.gotoByLine time reopening line = some (q, Power.Err.readTimeout) ∧ q.wait = opened ∧
      q.coming = flush [(time - p.wait.timeout - reopening, line)] := by
  unfold gotoByLine select
  rw [hnone]
  dsimp only
  rw [if_neg (fun h => absurd h.2 (not_le.mpr hlate))]
  exact ⟨_, rfl, rfl, rfl⟩

/-- The answer to an earlier call is there. -/
theorem gotoByLine_earlier (line : List Char) (hthere : p.coming = [(0, f.text)])
    (hopened : p.wait = opened) (hlength : f.text.length ≤ 97) :
    ∃ q, p.gotoByLine time reopening line = some (q, 0) ∧ Says q.data f ∧ q.wait = opened ∧
      q.coming = [(time, line)] := by
  obtain ⟨sensor, data, hread, hsays⟩ := read_says p.sensor hlength p.data
  unfold gotoByLine select
  rw [hthere, hopened]
  dsimp only
  rw [if_pos ⟨rfl, Nat.zero_le _⟩]
  dsimp only
  rw [hread]
  exact ⟨_, rfl, hsays, rfl, rfl⟩

end Call

/-! ## The calls of a run -/

section Run

variable {p : LinePort D} (hopened : p.wait = opened) (hnone : p.coming = []) {time : Nat}
  (h : 0 < time) {reopening : Nat} {f : Nat → SensorLine} (hlength : ∀ i, (f i).text.length ≤ 97)
include hopened hnone h hlength

/-- When the late answer is thrown away, every call finds the port with nothing on its way. -/
theorem before_thrown (hthrown : time - 2000000 % time ≤ reopening) (gap : Nat → Nat) (i : Nat) :
    ∃ q, p.before time reopening gap (fun i => (f i).text) i = some q ∧ q.coming = [] ∧
      q.wait = ⟨true, 2000000 - time * (i % (2000000 / time + 1))⟩ := by
  induction i with
  | zero => exact ⟨p, rfl, hnone, by rw [hopened]; simp [opened]⟩
  | succ i ih =>
    obtain ⟨q, hq, hcoming, hwait⟩ := ih
    obtain ⟨hlate, hnext⟩ := late_iff 2000000 h i
    rw [before, hq, Option.bind_eq_bind, Option.bind_some]
    by_cases hzero : (i + 1) % (2000000 / time + 1) = 0
    · have hover : ¬ time ≤ 2000000 - time * (i % (2000000 / time + 1)) :=
        fun hc => hlate.mp hc hzero
      obtain ⟨q', hq', hwait', hcoming'⟩ := gotoByLine_late time reopening hcoming
        (by rw [hwait]; exact not_le.mp hover) (f i).text
      rw [hq']
      -- the port was opened again when the answer had come
      refine ⟨_, rfl, ?_, ?_⟩
      · -- what was left of the two seconds
        have hleft : 2000000 % time ≤ q.wait.timeout := by
          rw [hwait]
          have hlt : i % (2000000 / time + 1) ≤ 2000000 / time :=
            Nat.lt_succ_iff.mp (Nat.mod_lt _ (Nat.succ_pos _))
          have hmul : time * (i % (2000000 / time + 1)) ≤ time * (2000000 / time) :=
            Nat.mul_le_mul_left _ hlt
          have hdiv := Nat.div_add_mod 2000000 time
          dsimp only
          omega
        have hthere : time - q.wait.timeout - reopening = 0 := by omega
        rw [hcoming', hthere]
        rfl
      · rw [hwait', hzero]
        rfl
    · obtain ⟨q', hq', -, hwait', hcoming'⟩ := gotoByLine_answer time reopening hcoming
        (by rw [hwait]) (by rw [hwait]; exact hlate.mpr hzero) (hlength i)
      rw [hq']
      refine ⟨_, rfl, ?_, ?_⟩
      · rw [hcoming']
        rfl
      · rw [hwait', hwait, hnext hzero, Nat.mul_succ, Nat.sub_sub]

/-- When it is not, every call behind the late one finds the answer to the one before it. -/
theorem before_earlier (hkept : reopening < time - 2000000 % time) {gap : Nat → Nat}
    (hgap : ∀ i, time ≤ gap i) (i : Nat) :
    ∃ q, p.before time reopening gap (fun i => (f i).text) i = some q ∧
      (i ≤ 2000000 / time ∧ q.coming = [] ∧ q.wait = ⟨true, 2000000 - time * i⟩ ∨
        2000000 / time < i ∧ q.coming = [(0, (f (i - 1)).text)] ∧ q.wait = opened) := by
  have hdiv := Nat.div_add_mod 2000000 time
  have hmod := Nat.mod_lt 2000000 h
  induction i with
  | zero => exact ⟨p, rfl, .inl ⟨Nat.zero_le _, hnone, by rw [hopened]; simp [opened]⟩⟩
  | succ i ih =>
    obtain ⟨q, hq, hcase⟩ := ih
    rw [before, hq, Option.bind_eq_bind, Option.bind_some]
    rcases hcase with ⟨hle, hcoming, hwait⟩ | ⟨hlt, hcoming, hwait⟩
    · rcases Nat.lt_or_eq_of_le hle with hbefore | hlast
      · -- the answer is in time, and the two seconds go down by it
        have hfits : time * (i + 1) ≤ time * (2000000 / time) := Nat.mul_le_mul_left _ hbefore
        rw [Nat.mul_succ] at hfits
        obtain ⟨q', hq', -, hwait', hcoming'⟩ := gotoByLine_answer time reopening hcoming
          (by rw [hwait]) (by rw [hwait]; dsimp only; omega) (hlength i)
        rw [hq']
        refine ⟨_, rfl, .inl ⟨hbefore, ?_, ?_⟩⟩
        · rw [hcoming']
          rfl
        · rw [hwait', hwait, Nat.mul_succ, Nat.sub_sub]
      · -- the late one
        have hleft : q.wait.timeout = 2000000 % time := by
          rw [hwait, hlast]
          dsimp only
          omega
        obtain ⟨q', hq', hwait', hcoming'⟩ := gotoByLine_late time reopening hcoming
          (by omega) (f i).text
        rw [hq']
        refine ⟨_, rfl, .inr ⟨by omega, ?_, hwait'⟩⟩
        have hcome : 0 < time - q.wait.timeout - reopening := by omega
        have hthere : time - q.wait.timeout - reopening - gap i = 0 := by
          have := hgap i
          omega
        have hflush : flush [(time - q.wait.timeout - reopening, (f i).text)] =
            [(time - q.wait.timeout - reopening, (f i).text)] :=
          List.filter_cons_of_pos (decide_eq_true hcome)
        dsimp only
        rw [hcoming', hflush, Nat.add_sub_cancel]
        show [(time - q.wait.timeout - reopening - gap i, (f i).text)] = _
        rw [hthere]
    · -- the late answer came first, and now each answer is one call behind
      obtain ⟨q', hq', -, hwait', hcoming'⟩ := gotoByLine_earlier time reopening (f i).text
        hcoming hwait (hlength (i - 1))
      rw [hq']
      refine ⟨_, rfl, .inr ⟨by omega, ?_, hwait'⟩⟩
      have hthere : time - gap i = 0 := Nat.sub_eq_zero_of_le (hgap i)
      dsimp only
      rw [hcoming', Nat.add_sub_cancel]
      show [(time - gap i, (f i).text)] = _
      rw [hthere]

end Run

/-- **A sensor that answers is given up on.** Each answer comes the same time after its `$` and is
a line of the sensor, and the rest of a turn takes no less. Then no call kills the program. In the
two seconds there is time for so many calls; the next one is told of a timeout.

When its answer comes before the port is open again, this goes on so, and each other call takes
its own line. When it comes later, no other call is told of a timeout, and each call behind that
one takes the line that the call before has asked for. -/
theorem sensor_given_up {p : LinePort D} (hopened : p.wait = opened) (hnone : p.coming = [])
    {time : Nat} (h : 0 < time) (reopening : Nat) (gap : Nat → Nat) (hgap : ∀ i, time ≤ gap i)
    {f : Nat → SensorLine} (hlength : ∀ i, (f i).text.length ≤ 97) (i : Nat) :
    ∃ q q' r, p.before time reopening gap (fun i => (f i).text) i = some q ∧
      q.gotoByLine time reopening (f i).text = some (q', r) ∧
      (time - 2000000 % time ≤ reopening →
        if (i + 1) % (2000000 / time + 1) = 0 then r = Power.Err.readTimeout
        else r = 0 ∧ Says q'.data (f i)) ∧
      (reopening < time - 2000000 % time →
        if i = 2000000 / time then r = Power.Err.readTimeout
        else r = 0 ∧ Says q'.data (f (if i < 2000000 / time then i else i - 1))) := by
  rcases Nat.lt_or_ge reopening (time - 2000000 % time) with hkept | hthrown
  · obtain ⟨q, hq, hcase⟩ := before_earlier hopened hnone h hlength hkept hgap i
    have hdiv := Nat.div_add_mod 2000000 time
    have hmod := Nat.mod_lt 2000000 h
    rcases hcase with ⟨hle, hcoming, hwait⟩ | ⟨hlt, hcoming, hwait⟩
    · rcases Nat.lt_or_eq_of_le hle with hbefore | hlast
      · have hfits : time * (i + 1) ≤ time * (2000000 / time) := Nat.mul_le_mul_left _ hbefore
        rw [Nat.mul_succ] at hfits
        obtain ⟨q', hq', hsays, -⟩ := gotoByLine_answer time reopening hcoming
          (by rw [hwait]) (by rw [hwait]; dsimp only; omega) (hlength i)
        refine ⟨q, q', 0, hq, hq', fun hno => absurd hno (by omega), fun _ => ?_⟩
        rw [if_neg (by omega), if_pos hbefore]
        exact ⟨rfl, hsays⟩
      · obtain ⟨q', hq', -⟩ := gotoByLine_late time reopening hcoming
          (by rw [hwait, hlast]; dsimp only; omega) (f i).text
        refine ⟨q, q', _, hq, hq', fun hno => absurd hno (by omega), fun _ => ?_⟩
        rw [if_pos hlast]
    · -- the line that the call before asked for
      obtain ⟨q', hq', hsays, -⟩ := gotoByLine_earlier time reopening (f i).text
        hcoming hwait (hlength (i - 1))
      refine ⟨q, q', 0, hq, hq', fun hno => absurd hno (by omega), fun _ => ?_⟩
      rw [if_neg (by omega), if_neg (by omega)]
      exact ⟨rfl, hsays⟩
  · obtain ⟨q, hq, hcoming, hwait⟩ := before_thrown hopened hnone h hlength hthrown gap i
    obtain ⟨hlate, -⟩ := late_iff 2000000 h i
    by_cases hzero : (i + 1) % (2000000 / time + 1) = 0
    · obtain ⟨q', hq', -⟩ := gotoByLine_late time reopening hcoming
        (by rw [hwait]; exact not_le.mp fun hc => hlate.mp hc hzero) (f i).text
      refine ⟨q, q', _, hq, hq', fun _ => ?_, fun hno => absurd hno (by omega)⟩
      rw [if_pos hzero]
    · obtain ⟨q', hq', hsays, -⟩ := gotoByLine_answer time reopening hcoming (by rw [hwait])
        (by rw [hwait]; exact hlate.mpr hzero) (hlength i)
      refine ⟨q, q', 0, hq, hq', fun _ => ?_, fun hno => absurd hno (by omega)⟩
      rw [if_neg hzero]
      exact ⟨rfl, hsays⟩

/-- Answers after 30 milliseconds, a turn of a fifth of a second, and a millisecond to open the
port: the call number 67 is told of a timeout. -/
theorem sensor_given_up_thirty : ∃ q q' : LinePort ℝ,
    (⟨sampleLineNavigator, sampleData, opened, []⟩ : LinePort ℝ).before 30000 1000
        (fun _ => 200000) (fun _ => sampleSensorLine.text) 66 = some q ∧
      q.gotoByLine 30000 1000 sampleSensorLine.text = some (q', Power.Err.readTimeout) := by
  obtain ⟨q, q', r, hq, hq', -, hkept⟩ := sensor_given_up
    (p := (⟨sampleLineNavigator, sampleData, opened, []⟩ : LinePort ℝ)) rfl rfl
    (show 0 < 30000 by decide) 1000 (fun _ => 200000) (fun _ => by decide)
    (f := fun _ => sampleSensorLine) (fun _ => sampleSensorLine_length) 66
  have hr : r = Power.Err.readTimeout := hkept (by decide)
  rw [hr] at hq'
  exact ⟨q, q', hq, hq'⟩

end LinePort

end Solarbot.Line
