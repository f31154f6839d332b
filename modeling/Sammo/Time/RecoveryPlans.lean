import Mathlib.Tactic.Linarith
import Mathlib.Tactic.Ring
import Sammo.Time.ClockAlignment
import Sammo.Time.GameClockLaws

/-! What a plan for lost turns promises, and when its window can be stored. -/

namespace Sammo

theorem ceilDiv_bounds (numerator : Int) {denominator : Int} (positive : 0 < denominator) :
    numerator ≤ ceilDiv numerator denominator * denominator ∧
      ceilDiv numerator denominator * denominator < numerator + denominator := by
  -- The remainder of the negated numerator is what the rounding added.
  have split := Int.mul_ediv_add_emod (-numerator) denominator
  have low := Int.emod_nonneg (-numerator) (show denominator ≠ 0 by omega)
  have high := Int.emod_lt_of_pos (-numerator) positive
  have product : ceilDiv numerator denominator * denominator = -(denominator * (-numerator / denominator)) := by
    unfold ceilDiv
    ring
  constructor <;> omega

theorem ceilDiv_le_iff {numerator denominator bound : Int} (positive : 0 < denominator) :
    ceilDiv numerator denominator ≤ bound ↔ numerator ≤ bound * denominator := by
  unfold ceilDiv
  rw [neg_le, Int.le_ediv_iff_mul_le positive, neg_mul, neg_le_neg_iff]

theorem safe_of_requireSafeTick {tick result : Int} (accepted : requireSafeTick tick = .ok result) :
    isSafeInteger tick := by
  unfold requireSafeTick at accepted
  split at accepted
  · assumption
  · cases accepted

/-- The ticks that the clock lags behind the schedule when whole years have been skipped. -/
def overdueTicks (observedTick normalTick : Int) : Int := (normalTick - observedTick) % (12 * gameTicksPerTurn)

theorem overdueTicks_bounds (observedTick normalTick : Int) :
    0 ≤ overdueTicks observedTick normalTick ∧
      overdueTicks observedTick normalTick < 12 * gameTicksPerTurn := by
  simp only [overdueTicks, gameTicksPerTurn]
  omega

/-- The ticks from a point to the next turn boundary. -/
def ticksToBoundary (tick : Int) : Int := -tick % gameTicksPerTurn

theorem ticksToBoundary_bounds (tick : Int) : 0 ≤ ticksToBoundary tick ∧ ticksToBoundary tick < gameTicksPerTurn := by
  simp only [ticksToBoundary, gameTicksPerTurn]
  omega

theorem nextTurnBoundary_ok {tick boundary : Int} (found : nextTurnBoundary tick = .ok boundary) :
    boundary = tick + ticksToBoundary tick ∧ isSafeInteger boundary := by
  -- Rounding up to a turn adds what is missing to it.
  simp only [nextTurnBoundary, Bind.bind, Except.bind] at found
  split at found
  · cases found
  rename_i accepted safe
  rw [GameClock.requireSafeTick_ok safe] at found
  have value := GameClock.requireSafeTick_ok found
  refine ⟨?_, value ▸ safe_of_requireSafeTick found⟩
  simp only [value, ceilDiv, ticksToBoundary, gameTicksPerTurn]
  omega

theorem turnShiftTicks_ok {turns ticks : Int} (shifted : turnShiftTicks turns = .ok ticks) :
    ticks = turns * gameTicksPerTurn := by
  unfold turnShiftTicks at shifted
  split at shifted
  · exact GameClock.requireSafeTick_ok shifted
  · cases shifted

/-- The milliseconds that are waited before a lag is made up for by the next boundary at double speed. -/
def recoveryWait (lag slack rate : Int) : Int :=
  ceilDiv ((lag + slack) * 1000) rate - ceilDiv ((2 * lag + slack) * 1000) (2 * rate)

theorem recoveryWait_nonneg (lag : Int) {slack rate : Int} (later : 0 ≤ slack) (positive : 0 < rate) :
    0 ≤ recoveryWait lag slack rate := by
  have enough := (ceilDiv_bounds ((lag + slack) * 1000) positive).1
  have doubled : ceilDiv ((lag + slack) * 1000) rate * (2 * rate) =
      2 * (ceilDiv ((lag + slack) * 1000) rate * rate) := by ring
  have shorter : ceilDiv ((2 * lag + slack) * 1000) (2 * rate) ≤ ceilDiv ((lag + slack) * 1000) rate := by
    rw [ceilDiv_le_iff (by omega)]
    omega
  unfold recoveryWait
  omega

/-- A turn length whose rate is a whole number of ticks in a second. -/
def Representable (turnSeconds : ℚ) : Prop :=
  turnSeconds.den = 1 ∧ 0 < turnSeconds.num ∧ (gameTicksPerTurn : Int) % turnSeconds.num = 0

theorem Representable.rate_pos {turnSeconds : ℚ} (representable : Representable turnSeconds) :
    0 < (gameTicksPerTurn : Int) / turnSeconds.num := by
  obtain ⟨_, seconds, divides⟩ := representable
  -- A turn's ticks are the rate times its seconds, and both are positive.
  have whole := Int.ediv_mul_cancel (Int.dvd_of_emod_eq_zero divides)
  refine pos_of_mul_pos_left ?_ seconds.le
  rw [whole]
  decide

theorem wholeYears_bounds {delay : Int} (late : 0 ≤ delay) :
    0 ≤ delay / (12 * gameTicksPerTurn) * 12 ∧ delay / (12 * gameTicksPerTurn) * 12 * gameTicksPerTurn ≤ delay := by
  simp only [gameTicksPerTurn]
  omega

theorem observedTick_add_wholeYears (observedTick normalTick : Int) :
    observedTick + (normalTick - observedTick) / (12 * gameTicksPerTurn) * 12 * gameTicksPerTurn =
      normalTick - overdueTicks observedTick normalTick := by
  simp only [overdueTicks, gameTicksPerTurn]
  omega

/-- The plan that waits and then runs at double speed up to a turn boundary. -/
def recoveringPlan (observedTick normalTick wallNow rate : Int) : TurnRecoveryPlan :=
  let lag := overdueTicks observedTick normalTick
  let endTick := normalTick + lag + ticksToBoundary (normalTick + lag)
  { skippedTurns := (normalTick - observedTick) / (12 * gameTicksPerTurn) * 12
    recoveryTurns := (lag : ℚ) / gameTicksPerTurn
    initialTick := normalTick - lag
    recovery := some ⟨normalTick - lag, endTick, wallNow + ceilDiv ((endTick - normalTick) * 1000) rate -
      ceilDiv ((endTick - (normalTick - lag)) * 1000) (2 * rate)⟩ }

theorem planTurnRecovery_cases {observedTick normalTick wallNow : Int} {turnSeconds : ℚ} {plan : TurnRecoveryPlan}
    (planned : planTurnRecovery observedTick normalTick wallNow turnSeconds = .ok plan) :
    Representable turnSeconds ∧ isSafeInteger observedTick ∧ isSafeInteger normalTick ∧ ValidDate wallNow ∧
      ((max 0 (normalTick - observedTick) ≤
            immediateRecoveryLimitSeconds * ((gameTicksPerTurn : Int) / turnSeconds.num) ∧
          plan = ⟨0, 0, max observedTick normalTick, none⟩) ∨
        (immediateRecoveryLimitSeconds * ((gameTicksPerTurn : Int) / turnSeconds.num) <
            max 0 (normalTick - observedTick) ∧ overdueTicks observedTick normalTick = 0 ∧
          plan = ⟨(normalTick - observedTick) / (12 * gameTicksPerTurn) * 12, 0, normalTick, none⟩) ∨
        (immediateRecoveryLimitSeconds * ((gameTicksPerTurn : Int) / turnSeconds.num) <
            max 0 (normalTick - observedTick) ∧ overdueTicks observedTick normalTick ≠ 0 ∧
          (isSafeInteger (normalTick - overdueTicks observedTick normalTick) ∧
            isSafeInteger (normalTick + overdueTicks observedTick normalTick +
              ticksToBoundary (normalTick + overdueTicks observedTick normalTick))) ∧
          plan = recoveringPlan observedTick normalTick wallNow ((gameTicksPerTurn : Int) / turnSeconds.num))) := by
  -- The checks leave the arguments as they are, and three ways to go on.
  simp only [planTurnRecovery, Bind.bind, Except.bind] at planned
  split at planned
  · cases planned
  rename_i observed observedSafe
  split at planned
  · cases planned
  rename_i normal normalSafe
  rw [GameClock.requireSafeTick_ok observedSafe, GameClock.requireSafeTick_ok normalSafe] at planned
  split at planned
  · cases planned
  rename_i representable
  simp only [ne_eq, not_or, not_not, not_le] at representable
  split at planned
  · cases planned
  rename_i date
  refine ⟨representable, safe_of_requireSafeTick observedSafe, safe_of_requireSafeTick normalSafe,
    not_not.mp date, ?_⟩
  split at planned
  · -- A short delay is caught up at once.
    rename_i short
    split at planned
    · cases planned
    rename_i initial initialSafe
    rw [← Except.ok.inj planned, GameClock.requireSafeTick_ok initialSafe]
    exact .inl ⟨short, rfl⟩
  rename_i long
  have longer := not_le.mp long
  have ahead : max 0 (normalTick - observedTick) = normalTick - observedTick := by
    have limit : 0 ≤ immediateRecoveryLimitSeconds * ((gameTicksPerTurn : Int) / turnSeconds.num) :=
      Int.mul_nonneg (by decide) (Representable.rate_pos representable).le
    omega
  rw [ahead] at planned longer ⊢
  split at planned
  · cases planned
  rename_i shift shifted
  split at planned
  · cases planned
  rename_i initial initialSafe
  rw [turnShiftTicks_ok shifted, observedTick_add_wholeYears] at initialSafe
  rw [GameClock.requireSafeTick_ok initialSafe,
    show normalTick - (normalTick - overdueTicks observedTick normalTick) =
      overdueTicks observedTick normalTick by omega] at planned
  split at planned
  · rename_i ended
    refine .inr (.inl ⟨longer, ended, ?_⟩)
    rw [← Except.ok.inj planned, ended, sub_zero]
  rename_i lagging
  split at planned
  · cases planned
  rename_i endTick boundary
  obtain ⟨ends, safe⟩ := nextTurnBoundary_ok boundary
  rw [ends] at safe
  rw [← Except.ok.inj planned, ends]
  exact .inr (.inr ⟨longer, lagging, ⟨safe_of_requireSafeTick initialSafe, safe⟩, rfl⟩)

/-- What is promised of a plan; its window passes the check that a clock makes of it. -/
structure KeepsPromise (observedTick normalTick wallNow : Int) (plan : TurnRecoveryPlan) : Prop where
  years : 0 ≤ plan.skippedTurns ∧ plan.skippedTurns % 12 = 0
  between : observedTick ≤ normalTick → observedTick ≤ plan.initialTick ∧ plan.initialTick ≤ normalTick
  lag : normalTick - plan.initialTick < 12 * gameTicksPerTurn
  window : ∀ window, plan.recovery = some window → window.Valid ∧ wallNow ≤ window.startWallAt

/-- The wall time up to which a plan waits is a date, if it waits at all. -/
def WaitsWithinDates (observedTick normalTick wallNow rate : Int) : Prop :=
  immediateRecoveryLimitSeconds * rate < normalTick - observedTick → overdueTicks observedTick normalTick ≠ 0 →
    ValidDate (wallNow + recoveryWait (overdueTicks observedTick normalTick)
      (ticksToBoundary (normalTick + overdueTicks observedTick normalTick)) rate)

theorem recoveringPlan_recovery (observedTick normalTick wallNow rate : Int) :
    (recoveringPlan observedTick normalTick wallNow rate).recovery =
      some ⟨normalTick - overdueTicks observedTick normalTick,
        normalTick + overdueTicks observedTick normalTick +
          ticksToBoundary (normalTick + overdueTicks observedTick normalTick),
        wallNow + recoveryWait (overdueTicks observedTick normalTick)
          (ticksToBoundary (normalTick + overdueTicks observedTick normalTick)) rate⟩ := by
  -- The window ends a lag and a slack behind the schedule, and starts a lag before it.
  simp only [recoveringPlan, recoveryWait]
  generalize overdueTicks observedTick normalTick = lag
  generalize ticksToBoundary (normalTick + lag) = slack
  rw [show normalTick + lag + slack - normalTick = lag + slack by omega,
    show normalTick + lag + slack - (normalTick - lag) = 2 * lag + slack by omega, add_sub_assoc]

theorem recoveringPlan_window (wallNow : Int) {observedTick normalTick rate : Int} (positive : 0 < rate)
    (lagging : overdueTicks observedTick normalTick ≠ 0)
    (safe : isSafeInteger (normalTick - overdueTicks observedTick normalTick) ∧
      isSafeInteger (normalTick + overdueTicks observedTick normalTick +
        ticksToBoundary (normalTick + overdueTicks observedTick normalTick))) :
    (∀ window, (recoveringPlan observedTick normalTick wallNow rate).recovery = some window →
        window.Valid ∧ wallNow ≤ window.startWallAt) ↔
      ValidDate (wallNow + recoveryWait (overdueTicks observedTick normalTick)
        (ticksToBoundary (normalTick + overdueTicks observedTick normalTick)) rate) := by
  have lag := overdueTicks_bounds observedTick normalTick
  have slack := ticksToBoundary_bounds (normalTick + overdueTicks observedTick normalTick)
  have waits := recoveryWait_nonneg (overdueTicks observedTick normalTick) slack.1 positive
  have boundary : (normalTick + overdueTicks observedTick normalTick +
      ticksToBoundary (normalTick + overdueTicks observedTick normalTick)) % gameTicksPerTurn = 0 := by
    simp only [ticksToBoundary, gameTicksPerTurn]
    omega
  rw [recoveringPlan_recovery]
  constructor
  · intro promised
    exact (promised _ rfl).1.2.2.1
  · intro date window found
    rw [← Option.some.inj found]
    -- Twice a lag of less than a year and a turn at most are less than twenty-five turns.
    exact ⟨⟨safe.1, safe.2, date, boundary, by dsimp only; omega, by dsimp only; omega⟩, by dsimp only; omega⟩

/-- A plan keeps its promise exactly when the wall time up to which it waits is a date. -/
theorem planTurnRecovery_keeps_promise {observedTick normalTick wallNow : Int} {turnSeconds : ℚ}
    {plan : TurnRecoveryPlan}
    (planned : planTurnRecovery observedTick normalTick wallNow turnSeconds = .ok plan) :
    KeepsPromise observedTick normalTick wallNow plan ↔
      WaitsWithinDates observedTick normalTick wallNow ((gameTicksPerTurn : Int) / turnSeconds.num) := by
  obtain ⟨representable, _, _, _, cases⟩ := planTurnRecovery_cases planned
  have positive := representable.rate_pos
  generalize (gameTicksPerTurn : Int) / turnSeconds.num = rate at cases positive
  have limit : 0 ≤ immediateRecoveryLimitSeconds * rate := Int.mul_nonneg (by decide) positive.le
  have lag := overdueTicks_bounds observedTick normalTick
  rcases cases with ⟨short, rfl⟩ | ⟨long, ended, rfl⟩ | ⟨long, lagging, safe, rfl⟩
  · -- A short delay needs no window, and no years are skipped.
    refine iff_of_true ⟨⟨le_rfl, rfl⟩, ?_, ?_, ?_⟩ ?_
    · intro ahead
      show observedTick ≤ max observedTick normalTick ∧ max observedTick normalTick ≤ normalTick
      omega
    · show normalTick - max observedTick normalTick < _
      simp only [gameTicksPerTurn]
      omega
    · intro window found
      cases found
    · intro longer
      omega
  · -- Whole years lead back to the schedule without a window.
    have years := wholeYears_bounds (show 0 ≤ normalTick - observedTick by omega)
    refine iff_of_true ⟨⟨years.1, Int.mul_emod_left _ _⟩, ?_, ?_, ?_⟩ ?_
    · intro ahead
      exact ⟨ahead, le_rfl⟩
    · show normalTick - normalTick < _
      simp only [gameTicksPerTurn]
      omega
    · intro window found
      cases found
    · intro _ lagging
      exact absurd ended lagging
  · -- The window is the one that the check of a clock is made of.
    have window := recoveringPlan_window wallNow positive lagging safe
    have longer : immediateRecoveryLimitSeconds * rate < normalTick - observedTick := by omega
    have years := wholeYears_bounds (show 0 ≤ normalTick - observedTick by omega)
    constructor
    · intro promised _ _
      exact window.mp promised.window
    · intro waits
      refine ⟨⟨years.1, Int.mul_emod_left _ _⟩, ?_, ?_, window.mpr (waits longer lagging)⟩
      · intro ahead
        show observedTick ≤ normalTick - overdueTicks observedTick normalTick ∧
          normalTick - overdueTicks observedTick normalTick ≤ normalTick
        simp only [overdueTicks, gameTicksPerTurn] at lag ⊢
        omega
      · show normalTick - (normalTick - overdueTicks observedTick normalTick) < _
        omega

/-- A delay of an hour and a quarter that ends at the last instant of all. -/
theorem planTurnRecovery_keeps_promise_hourly :
    ∃ plan, planTurnRecovery 0 45000000 4500000 3600 = .ok plan ∧
      (KeepsPromise 0 45000000 4500000 plan ↔ WaitsWithinDates 0 45000000 4500000 10000) := by
  have planned : (planTurnRecovery 0 45000000 4500000 3600).isOk = true := by decide +kernel
  cases found : planTurnRecovery 0 45000000 4500000 3600 with
  | error message => simp [found, Except.isOk, Except.toBool] at planned
  | ok plan => exact ⟨plan, rfl, planTurnRecovery_keeps_promise found⟩

/-- At the last instant of all a plan waits beyond all dates, and its window does not pass the check. -/
theorem planTurnRecovery_waits_beyond_dates :
    ValidDate 8640000000000000 ∧ ∃ plan, planTurnRecovery 0 45000000 8640000000000000 3600 = .ok plan ∧
      ¬ KeepsPromise 0 45000000 8640000000000000 plan := by
  refine ⟨by decide, ?_⟩
  have planned : ((planTurnRecovery 0 45000000 8640000000000000 3600).map TurnRecoveryPlan.recovery) =
      .ok (some ⟨0, 108000000, 8640000000900000⟩) := by decide +kernel
  cases found : planTurnRecovery 0 45000000 8640000000000000 3600 with
  | error message => simp [found, Except.map] at planned
  | ok plan =>
    -- The window starts a quarter of an hour later, which no date object holds.
    refine ⟨plan, rfl, fun promised => ?_⟩
    rw [found] at planned
    exact absurd (promised.window _ (Except.ok.inj planned)).1 (by decide)

end Sammo
