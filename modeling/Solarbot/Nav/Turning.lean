import Solarbot.Nav.Path

/-!
# How `Move` turns

`Move` takes one turn off an angle of more than half a turn, and then has three regimes:
the slow sector, in which both wheels go the same way and the inner one goes slower, and a
spin to either side of it. In the slow sector the inner wheel loses `slowdown`, which is
at most `SteeringSpeed`.

- `move_turns`: the rover turns to the side the reduced angle is on, and no wheel is
  faster than the speed asked for, or that of a spin;
- `move_slowSector_iff`: in the slow sector the inner wheel goes backward as soon as its
  loss is more than the speed. `SteeringSpeed` follows the speed in one regime only.
-/

namespace Solarbot.Nav.Navigator

/-- What the inner wheel loses of its speed. -/
noncomputable def slowdown (angle slowAngle steeringSpeed : ℝ) : Int :=
  truncReal (|angle| / slowAngle * steeringSpeed)

variable (n : Navigator ℝ)

/-! ## The regimes -/

/-- `SteeringSpeed` is a constant near the waypoint and in `ModeVisual`. -/
theorem steering_cases (mode : Modes) (speed : Int) (distance : ℝ) :
    (mode = .modeVisual ∧ steering mode speed distance = (400, 90)) ∨
    (mode ≠ .modeVisual ∧ distance < 1 ∧ steering mode speed distance = (400, 45)) ∨
    (mode ≠ .modeVisual ∧ 1 ≤ distance ∧
      steering mode speed distance = (((speed - speed.tdiv 2 : Int) : ℝ), 15)) := by
  unfold steering
  simp only [real_lt, real_num, decide_eq_true_eq]
  by_cases hmode : mode = .modeVisual
  · refine .inl ⟨hmode, ?_⟩
    rw [if_pos hmode]
    norm_num
  · rw [if_neg hmode]
    by_cases hdistance : distance < 1
    · refine .inr (.inl ⟨hmode, hdistance, ?_⟩)
      rw [if_pos (by exact_mod_cast hdistance)]
      norm_num
    · refine .inr (.inr ⟨hmode, not_lt.mp hdistance, ?_⟩)
      rw [if_neg (by exact_mod_cast hdistance)]
      push_cast
      norm_num

theorem slowAngle_pos (mode : Modes) (speed : Int) (distance : ℝ) :
    0 < (steering mode speed distance).2 := by
  rcases steering_cases mode speed distance with ⟨-, h⟩ | ⟨-, -, h⟩ | ⟨-, -, h⟩ <;>
    rw [h] <;> norm_num

variable {n}

/-- What `Move` tells the motors, inside the slow sector and outside. -/
theorem move_motors (hmove : n.doNotMove = false) (speed : Int) (angle distance : ℝ) :
    let slowAngle := (steering n.mode speed distance).2
    let lost := slowdown (shortAngle angle) slowAngle (steering n.mode speed distance).1
    ((n.move speed angle distance).motorLeft, (n.move speed angle distance).motorRight) =
      if |shortAngle angle| < slowAngle then
        if 0 < shortAngle angle then (speed, speed - lost) else (speed - lost, speed)
      else if 0 < shortAngle angle then (spinSpeed, -spinSpeed) else (-spinSpeed, spinSpeed) := by
  intro slowAngle lost
  have hsector : (Dbl.lt (-slowAngle) (shortAngle angle) && Dbl.lt (shortAngle angle) slowAngle) =
      decide (|shortAngle angle| < slowAngle) := by
    rw [Bool.eq_iff_iff]
    simp [abs_lt]
  have hside : Dbl.lt (num 0) (shortAngle angle) = decide (0 < shortAngle angle) := by simp
  simp only [move, aim, hmove, Bool.false_eq_true, if_false]
  rw [hsector]
  by_cases hslow : |shortAngle angle| < slowAngle
  · rw [if_pos (decide_eq_true hslow), if_pos hslow]
    unfold bend
    dsimp only
    rw [hside]
    by_cases hright : 0 < shortAngle angle
    · rw [if_pos (decide_eq_true hright), if_pos hright]
      simp only [lost, slowdown, abs_of_pos hright, real_toInt, slowAngle]
    · rw [if_neg (by simpa using hright), if_neg hright]
      -- to the left the loss is cut towards zero as well
      have hneg : |shortAngle angle| / slowAngle * (steering n.mode speed distance).1 =
          -(shortAngle angle / slowAngle * (steering n.mode speed distance).1) := by
        rw [abs_of_nonpos (not_lt.mp hright)]
        ring
      simp only [lost, slowdown, hneg, truncReal_neg, sub_neg_eq_add, real_toInt, slowAngle]
  · rw [if_neg (by simpa using hslow), if_neg hslow]
    unfold spin
    rw [hside]
    by_cases hright : 0 < shortAngle angle
    · rw [if_pos (decide_eq_true hright), if_pos hright]
    · rw [if_neg (by simpa using hright), if_neg hright]

/-! ## What the inner wheel loses -/

theorem slowdown_nonneg {angle slowAngle steeringSpeed : ℝ} (hslow : 0 < slowAngle)
    (hsteering : 0 ≤ steeringSpeed) : 0 ≤ slowdown angle slowAngle steeringSpeed :=
  truncReal_nonneg (mul_nonneg (div_nonneg (abs_nonneg angle) hslow.le) hsteering)

/-- The loss is at most a number when the fraction of `SteeringSpeed` is below the next. -/
theorem slowdown_le_iff {angle slowAngle steeringSpeed : ℝ} (hslow : 0 < slowAngle)
    (hsteering : 0 ≤ steeringSpeed) (speed : Int) :
    slowdown angle slowAngle steeringSpeed ≤ speed ↔
      steeringSpeed * |angle| < (speed + 1) * slowAngle := by
  rw [slowdown, truncReal_le_iff (mul_nonneg (div_nonneg (abs_nonneg angle) hslow.le) hsteering),
    div_mul_eq_mul_div, div_lt_iff₀ hslow, mul_comm |angle|]

/-- In the slow sector the loss is at most `SteeringSpeed`. -/
theorem slowdown_le {angle slowAngle : ℝ} {steeringSpeed : Int} (hslow : |angle| < slowAngle)
    (hsteering : 0 ≤ steeringSpeed) : slowdown angle slowAngle steeringSpeed ≤ steeringSpeed := by
  have hpos : 0 < slowAngle := lt_of_le_of_lt (abs_nonneg angle) hslow
  have hnonneg : (0 : ℝ) ≤ steeringSpeed := by exact_mod_cast hsteering
  rw [slowdown_le_iff hpos hnonneg]
  calc (steeringSpeed : ℝ) * |angle| ≤ steeringSpeed * slowAngle :=
        mul_le_mul_of_nonneg_left hslow.le hnonneg
    _ < (steeringSpeed + 1) * slowAngle := by linarith

/-- `SteeringSpeed` is a whole number, and at most the speed or that of a spin. -/
theorem steeringSpeed_eq (mode : Modes) {speed : Int} (hspeed : 0 ≤ speed) (distance : ℝ) :
    ∃ s : Int, (steering mode speed distance).1 = s ∧ 0 ≤ s ∧ (s ≤ speed ∨ s ≤ spinSpeed) := by
  rcases steering_cases mode speed distance with ⟨-, h⟩ | ⟨-, -, h⟩ | ⟨-, -, h⟩
  · exact ⟨400, by rw [h]; norm_num, by decide, .inr (by decide)⟩
  · exact ⟨400, by rw [h]; norm_num, by decide, .inr (by decide)⟩
  · have hhalf : speed.tdiv 2 = speed / 2 := Int.tdiv_eq_ediv_of_nonneg hspeed
    exact ⟨speed - speed.tdiv 2, by rw [h], by omega, .inl (by omega)⟩

/-- The loss of the inner wheel, in the slow sector. -/
theorem lost_bounds {mode : Modes} {speed : Int} (hspeed : 0 ≤ speed) {angle distance : ℝ}
    (hslow : |angle| < (steering mode speed distance).2) :
    0 ≤ slowdown angle (steering mode speed distance).2 (steering mode speed distance).1 ∧
      (slowdown angle (steering mode speed distance).2 (steering mode speed distance).1 ≤ speed ∨
        slowdown angle (steering mode speed distance).2 (steering mode speed distance).1
          ≤ spinSpeed) := by
  obtain ⟨s, hs, hnonneg, hle⟩ := steeringSpeed_eq mode hspeed distance
  have hlost := slowdown_le hslow hnonneg
  rw [hs]
  refine ⟨slowdown_nonneg (slowAngle_pos ..) (by exact_mod_cast hnonneg), ?_⟩
  exact hle.imp hlost.trans hlost.trans

/-! ## The side of the turn -/

/-- The angle reduced modulo a full turn, to less than half a turn on either side. -/
structure Reduced (angle r : ℝ) : Prop where
  lower : -180 < r
  upper : r < 180
  turns : ∃ k : ℤ, angle = r + 360 * k

/-- Two directions differ by less than a turn, so taking one turn off is enough. -/
theorem shortAngle_eq {bearing heading r : ℝ} (hbearing : bearing ∈ Set.Ico (0 : ℝ) 360)
    (hheading : heading ∈ Set.Ico (0 : ℝ) 360) (h : Reduced (bearing - heading) r) :
    shortAngle (bearing - heading) = r := by
  obtain ⟨hlower, hupper, k, hk⟩ := h
  obtain ⟨hb0, hb⟩ := hbearing
  obtain ⟨hh0, hh⟩ := hheading
  have hlo : (-2 : ℝ) < k := by linarith
  have hhi : (k : ℝ) < 2 := by linarith
  have hlo' : -2 < k := by exact_mod_cast hlo
  have hhi' : k < 2 := by exact_mod_cast hhi
  have hturns : k = -1 ∨ k = 0 ∨ k = 1 := by omega
  unfold shortAngle
  simp only [real_lt, real_num, decide_eq_true_eq]
  push_cast
  rcases hturns with rfl | rfl | rfl
  · push_cast at hk
    rw [if_neg (by linarith), if_pos (by linarith)]
    linarith
  · push_cast at hk
    rw [if_neg (by linarith), if_neg (by linarith)]
    linarith
  · push_cast at hk
    rw [if_pos (by linarith)]
    linarith

/-- The motors turn the rover to the side of the angle, and to that side only. -/
structure TurnsTo (n : Navigator ℝ) (r slowAngle : ℝ) : Prop where
  right : 0 < r → n.motorRight ≤ n.motorLeft
  left : r < 0 → n.motorLeft ≤ n.motorRight
  rightBeyond : slowAngle ≤ r → n.motorRight < n.motorLeft
  leftBeyond : r ≤ -slowAngle → n.motorLeft < n.motorRight

/-- Neither wheel is faster than this, forward or backward. -/
def WithinSpeed (n : Navigator ℝ) (bound : Int) : Prop :=
  |n.motorLeft| ≤ bound ∧ |n.motorRight| ≤ bound

theorem move_turnsTo (hmove : n.doNotMove = false) {speed : Int} (hspeed : 0 ≤ speed)
    (angle distance : ℝ) : (n.move speed angle distance).TurnsTo (shortAngle angle)
      (steering n.mode speed distance).2 := by
  have hpos := slowAngle_pos n.mode speed distance
  have hmotors := move_motors hmove speed angle distance
  dsimp only at hmotors
  by_cases hslow : |shortAngle angle| < (steering n.mode speed distance).2
  · obtain ⟨hlost, -⟩ := lost_bounds hspeed hslow
    obtain ⟨hleft, hright⟩ := abs_lt.mp hslow
    rw [if_pos hslow] at hmotors
    by_cases hside : 0 < shortAngle angle
    · rw [if_pos hside, Prod.mk.injEq] at hmotors
      exact ⟨fun _ => by omega, fun h => by linarith, fun h => by linarith, fun h => by linarith⟩
    · rw [if_neg hside, Prod.mk.injEq] at hmotors
      exact ⟨fun h => absurd h hside, fun _ => by omega, fun h => by linarith,
        fun h => by linarith⟩
  · rw [if_neg hslow] at hmotors
    have hspin : spinSpeed = 500 := rfl
    by_cases hside : 0 < shortAngle angle
    · rw [if_pos hside, Prod.mk.injEq] at hmotors
      exact ⟨fun _ => by omega, fun h => by linarith, fun _ => by omega, fun h => by linarith⟩
    · rw [if_neg hside, Prod.mk.injEq] at hmotors
      exact ⟨fun h => absurd h hside, fun _ => by omega, fun h => by linarith, fun _ => by omega⟩

theorem move_withinSpeed (hmove : n.doNotMove = false) {speed : Int} (hspeed : 0 ≤ speed)
    (angle distance : ℝ) : (n.move speed angle distance).WithinSpeed (max speed 500) := by
  have hmotors := move_motors hmove speed angle distance
  dsimp only at hmotors
  have hspin : spinSpeed = 500 := rfl
  unfold WithinSpeed
  rw [abs_le, abs_le]
  by_cases hslow : |shortAngle angle| < (steering n.mode speed distance).2
  · obtain ⟨hlost, hbound⟩ := lost_bounds hspeed hslow
    rw [if_pos hslow] at hmotors
    by_cases hside : 0 < shortAngle angle
    · rw [if_pos hside, Prod.mk.injEq] at hmotors
      omega
    · rw [if_neg hside, Prod.mk.injEq] at hmotors
      omega
  · rw [if_neg hslow] at hmotors
    by_cases hside : 0 < shortAngle angle
    · rw [if_pos hside, Prod.mk.injEq] at hmotors
      omega
    · rw [if_neg hside, Prod.mk.injEq] at hmotors
      omega

/-- **`Move` turns the short way**, for two directions that are not opposite, and no wheel is
faster than the speed asked for or that of a spin. -/
theorem move_turns (n : Navigator ℝ) (hmove : n.doNotMove = false) {speed : Int}
    (hspeed : 0 ≤ speed) (distance : ℝ) :
    (∀ bearing ∈ Set.Ico (0 : ℝ) 360, ∀ heading ∈ Set.Ico (0 : ℝ) 360, ∀ r,
      Reduced (bearing - heading) r →
        (n.move speed (bearing - heading) distance).TurnsTo r
          (steering n.mode speed distance).2) ∧
    ∀ angle, (n.move speed angle distance).WithinSpeed (max speed 500) := by
  refine ⟨?_, fun angle => move_withinSpeed hmove hspeed angle distance⟩
  intro bearing hbearing heading hheading r hr
  have hturns := move_turnsTo hmove hspeed (bearing - heading) distance
  rwa [shortAngle_eq hbearing hheading hr] at hturns

/-- A new navigator. -/
noncomputable def fresh : Navigator ℝ := .new ⟨0, 0, 0⟩ 0

/-- To a bearing of 10 degrees from a heading of 350 the rover turns right by 20. -/
theorem move_turns_north :
    (fresh.move 1000 (10 - 350) 5).TurnsTo 20 (steering fresh.mode 1000 (5 : ℝ)).2 ∧
      (fresh.move 1000 (10 - 350) 5).WithinSpeed (max 1000 500) := by
  have hturns := move_turns fresh rfl (show (0 : Int) ≤ 1000 by decide) 5
  refine ⟨hturns.1 10 (by norm_num) 350 (by norm_num) 20 ⟨by norm_num, by norm_num, -1, ?_⟩,
    hturns.2 _⟩
  norm_num

/-! ## The slow sector -/

/-- Both wheels go forward, and no faster than the speed asked for. -/
structure GoesForward (n : Navigator ℝ) (speed : Int) : Prop where
  left_nonneg : 0 ≤ n.motorLeft
  left_le : n.motorLeft ≤ speed
  right_nonneg : 0 ≤ n.motorRight
  right_le : n.motorRight ≤ speed

/-- `SteeringSpeed` follows the speed, or the angle is small for its constant value. -/
def SteersGently (mode : Modes) (speed : Int) (distance angle : ℝ) : Prop :=
  (mode ≠ .modeVisual ∧ 1 ≤ distance) ∨
    400 * |angle| < (speed + 1) * (if mode = .modeVisual then 90 else 45 : Int)

/-- The loss of the inner wheel is no more than the speed, in the three regimes. -/
theorem slowdown_le_speed_iff (mode : Modes) {speed : Int} (hspeed : 0 ≤ speed)
    {angle distance : ℝ} (hslow : |angle| < (steering mode speed distance).2) :
    slowdown angle (steering mode speed distance).2 (steering mode speed distance).1 ≤ speed ↔
      SteersGently mode speed distance angle := by
  unfold SteersGently
  rcases steering_cases mode speed distance with ⟨hmode, h⟩ | ⟨hmode, hd, h⟩ | ⟨hmode, hd, h⟩
  · rw [h, slowdown_le_iff (by norm_num) (by norm_num), if_pos hmode,
      or_iff_right (fun hfar => hfar.1 hmode), Int.cast_ofNat]
  · rw [h, slowdown_le_iff (by norm_num) (by norm_num), if_neg hmode,
      or_iff_right (fun hfar => absurd hfar.2 (not_le.mpr hd)), Int.cast_ofNat]
  · rw [h] at hslow ⊢
    have hhalf : speed.tdiv 2 = speed / 2 := Int.tdiv_eq_ediv_of_nonneg hspeed
    have hlost : slowdown angle 15 ((speed - speed.tdiv 2 : Int) : ℝ) ≤ speed - speed.tdiv 2 :=
      slowdown_le hslow (by omega)
    exact iff_of_true (by dsimp only; omega) (.inl ⟨hmode, hd⟩)

/-- **The slow sector without reversing.** Both wheels keep going forward exactly when the
rover steers gently. -/
theorem move_slowSector_iff (n : Navigator ℝ) (hmove : n.doNotMove = false) {speed : Int}
    (hspeed : 0 ≤ speed) {angle distance : ℝ}
    (hslow : |shortAngle angle| < (steering n.mode speed distance).2) :
    (n.move speed angle distance).GoesForward speed ↔
      SteersGently n.mode speed distance (shortAngle angle) := by
  have hmotors := move_motors hmove speed angle distance
  dsimp only at hmotors
  obtain ⟨hlost, -⟩ := lost_bounds hspeed hslow
  rw [if_pos hslow] at hmotors
  rw [← slowdown_le_speed_iff n.mode hspeed hslow]
  by_cases hside : 0 < shortAngle angle
  · rw [if_pos hside, Prod.mk.injEq] at hmotors
    constructor
    · intro hforward
      have := hforward.right_nonneg
      omega
    · intro hle
      exact ⟨by omega, by omega, by omega, by omega⟩
  · rw [if_neg hside, Prod.mk.injEq] at hmotors
    constructor
    · intro hforward
      have := hforward.left_nonneg
      omega
    · intro hle
      exact ⟨by omega, by omega, by omega, by omega⟩

theorem shortAngle_of_abs_le {angle : ℝ} (h : |angle| ≤ 180) : shortAngle angle = angle := by
  obtain ⟨hlower, hupper⟩ := abs_le.mp h
  unfold shortAngle
  simp only [real_lt, real_num, decide_eq_true_eq]
  push_cast
  rw [if_neg (by linarith), if_neg (by linarith)]

/-- Ten degrees at the speed of a waypoint are gentle. -/
theorem move_slowSector_gentle : (fresh.move 1000 10 5).GoesForward 1000 := by
  have hmode : fresh.mode ≠ .modeVisual := by decide
  have hshort : shortAngle (10 : ℝ) = 10 := shortAngle_of_abs_le (by norm_num)
  have hslow : |shortAngle (10 : ℝ)| < (steering fresh.mode 1000 (5 : ℝ)).2 := by
    rcases steering_cases fresh.mode 1000 (5 : ℝ) with ⟨h, -⟩ | ⟨-, h, -⟩ | ⟨-, -, h⟩
    · exact absurd h hmode
    · norm_num at h
    · rw [h, hshort]
      norm_num
  exact (move_slowSector_iff fresh rfl (by decide) hslow).mpr (.inl ⟨hmode, by norm_num⟩)

/-- With no crop row in sight the speed is zero, and an angle of 45 degrees drives the right
wheel backward. -/
theorem gotoNextCam_reverses :
    (({ fresh with mode := .modeVisual } : Navigator ℝ).gotoNextCam 0 45).motorLeft = 0 ∧
    (({ fresh with mode := .modeVisual } : Navigator ℝ).gotoNextCam 0 45).motorRight = -200 ∧
    |shortAngle (45 : ℝ)| < (steering .modeVisual 0 (defaultDistance : ℝ)).2 ∧
    ¬ (({ fresh with mode := .modeVisual } : Navigator ℝ).gotoNextCam 0 45).GoesForward 0 := by
  have hshort : shortAngle (45 : ℝ) = 45 := shortAngle_of_abs_le (by norm_num)
  have hsteering : steering .modeVisual 0 (defaultDistance : ℝ) = (400, 90) := by
    norm_num [steering]
  have hspeed : (({ fresh with mode := .modeVisual } : Navigator ℝ).gotoNextCam 0 45) =
      ({ fresh with mode := .modeVisual } : Navigator ℝ).move 0 45 defaultDistance := by
    have hzero : Dbl.toInt (num (0 * 1000) / num 100 : ℝ) = 0 := by simp [truncReal]
    unfold gotoNextCam
    rw [show ({ fresh with mode := .modeVisual } : Navigator ℝ).camWorkSpeed = 1000 from rfl]
    exact congrArg (fun s => ({ fresh with mode := .modeVisual } : Navigator ℝ).move s 45
      defaultDistance) (by exact_mod_cast hzero)
  have hsector : |shortAngle (45 : ℝ)| < (steering .modeVisual 0 (defaultDistance : ℝ)).2 := by
    rw [hshort, hsteering]
    norm_num
  have hlost : slowdown (shortAngle 45) (steering .modeVisual 0 (defaultDistance : ℝ)).2
      (steering .modeVisual 0 (defaultDistance : ℝ)).1 = 200 := by
    rw [hshort, hsteering]
    norm_num [slowdown, truncReal]
  have hmotors := move_motors (n := { fresh with mode := .modeVisual }) rfl 0 45 defaultDistance
  dsimp only at hmotors
  rw [if_pos hsector, if_pos (by rw [hshort]; norm_num), hlost, Prod.mk.injEq] at hmotors
  rw [hspeed]
  refine ⟨hmotors.1, hmotors.2, hsector, ?_⟩
  intro hforward
  have := hforward.right_nonneg
  rw [hmotors.2] at this
  omega

end Solarbot.Nav.Navigator
