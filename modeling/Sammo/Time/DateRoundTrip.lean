import Mathlib.Algebra.Order.Ring.Abs
import Sammo.Time.TurnRecoveryLaws

/-! What is left of an instant that is stored as a tick, and of a tick that is stored as an instant. -/

namespace Sammo

/-- A turn term in minutes that operators may choose. -/
def isAllowedTurnTerm (value : Int) : Prop := 0 < value ∧ 120 % value = 0

instance (value : Int) : Decidable (isAllowedTurnTerm value) := inferInstanceAs (Decidable (_ ∧ _))

namespace GameClock

variable {clock : GameClock} {date tick : Int}

theorem whole_of_isAllowedTurnTerm {value : Int} (allowed : isAllowedTurnTerm value)
    (term : (clock.turnSeconds : Int) = value * 60) : 1000 ∣ clock.ticksPerSecond := by
  obtain ⟨positive, divides⟩ := allowed
  obtain ⟨terms, cycle⟩ := Int.dvd_of_emod_eq_zero divides
  -- Two hours have as many ticks as five thousand ticks in each of their seconds.
  refine ⟨5 * terms, ?_⟩
  have turn := clock.ticksPerSecond_mul
  rw [term] at turn
  have product : clock.ticksPerSecond * (value * 60) = 1000 * (5 * terms) * (value * 60) := by
    rw [turn, show 1000 * (5 * terms) * (value * 60) = value * terms * 300000 by ring, ← cycle]
    rfl
  exact mul_right_cancel₀ (by omega) product

theorem tickToDate_bounds (stored : clock.tickToDate tick = .ok date) :
    (date - clock.baseTime) * clock.ticksPerSecond ≤ 1000 * tick ∧
      1000 * tick < (date - clock.baseTime) * clock.ticksPerSecond + clock.ticksPerSecond := by
  -- A quotient that is rounded down is less than one step below the exact one.
  have positive := clock.ticksPerSecond_pos
  have offset : date - clock.baseTime = tick * 1000 / clock.ticksPerSecond := by
    have value := tickToDate_ok stored
    omega
  rw [offset]
  have below := Int.ediv_mul_le (tick * 1000) positive.ne'
  have above := Int.lt_ediv_add_one_mul_self (tick * 1000) positive
  rw [add_mul, one_mul] at above
  omega

theorem dateToTick_bounds (stored : clock.dateToTick date = .ok tick) :
    (clock.baseTime ≤ date → 1000 * tick ≤ (date - clock.baseTime) * clock.ticksPerSecond ∧
        (date - clock.baseTime) * clock.ticksPerSecond < 1000 * tick + 1000) ∧
      (date ≤ clock.baseTime → (date - clock.baseTime) * clock.ticksPerSecond ≤ 1000 * tick ∧
        1000 * tick < (date - clock.baseTime) * clock.ticksPerSecond + 1000) := by
  -- Behind the base the cut is a division that rounds down.
  have positive := clock.ticksPerSecond_pos
  rw [dateToTick_ok stored]
  constructor
  · intro after
    rw [Int.tdiv_eq_ediv_of_nonneg (Int.mul_nonneg (by omega) positive.le)]
    omega
  · -- An instant before the base is cut like the opposite one.
    intro before
    have opposite : 0 ≤ -((date - clock.baseTime) * clock.ticksPerSecond) := by
      rw [← neg_mul]
      exact Int.mul_nonneg (by omega) positive.le
    have cut : (-((date - clock.baseTime) * clock.ticksPerSecond)).tdiv 1000 =
        -((date - clock.baseTime) * clock.ticksPerSecond) / 1000 := Int.tdiv_eq_ediv_of_nonneg opposite
    rw [Int.neg_tdiv] at cut
    omega

theorem safe_of_dateToTick (stored : clock.dateToTick date = .ok tick) :
    isSafeInteger tick ∧ isSafeInteger (date - clock.baseTime) := by
  -- The distance is checked before it is multiplied, and the tick at the end.
  simp only [dateToTick, Bind.bind, Except.bind] at stored
  split at stored
  · cases stored
  rename_i between computed
  have safe := safe_of_requireSafeTick stored
  rw [← GameClock.requireSafeTick_ok stored] at safe
  refine ⟨safe, ?_⟩
  simp only [ticksBetween] at computed
  split at computed
  · assumption
  · cases computed

theorem tickToDate_of_offset (safe : isSafeInteger tick) (near : isSafeInteger (date - clock.baseTime))
    (valid : ValidDate date) (whole : tick * 1000 / clock.ticksPerSecond = date - clock.baseTime) :
    clock.tickToDate tick = .ok date := by
  have positive := clock.ticksPerSecond_pos
  have back : clock.baseTime + (date - clock.baseTime) = date := by omega
  -- The dates lie inside the safe integers.
  have representable : isSafeInteger date := by
    obtain ⟨low, high⟩ := valid
    exact ⟨by omega, by omega⟩
  simp only [tickToDate, requireSafeTick, safe, if_true, tickOffsetMilliseconds, ediv_parts tick positive, whole,
    near, Bind.bind, Except.bind, back, representable, valid, not_true_eq_false, if_false]

theorem date_comes_back (whole : 1000 ∣ clock.ticksPerSecond) (valid : ValidDate date)
    (stored : clock.dateToTick date = .ok tick) : clock.tickToDate tick = .ok date := by
  obtain ⟨rate, ticks⟩ := whole
  have positive := rate_pos ticks
  obtain ⟨safe, near⟩ := safe_of_dateToTick stored
  refine tickToDate_of_offset safe near valid ?_
  rw [dateToTick_eq ticks stored, ticks, mul_comm 1000 rate, mul_assoc]
  exact Int.mul_ediv_cancel _ (mul_pos positive (by decide)).ne'

theorem tick_comes_near {again : Int} (shown : clock.tickToDate tick = .ok date)
    (stored : clock.dateToTick date = .ok again) :
    again ≤ tick ∧ 1000 * tick < 1000 * again + clock.ticksPerSecond + 1000 ∧
      (1000 ∣ clock.ticksPerSecond ∨ tick < 0 → 1000 * tick < 1000 * again + clock.ticksPerSecond) := by
  -- The instant lies below the tick by less than a millisecond, and its tick is cut towards the base.
  have positive := clock.ticksPerSecond_pos
  obtain ⟨low, high⟩ := tickToDate_bounds shown
  obtain ⟨after, before⟩ := dateToTick_bounds stored
  rcases le_total clock.baseTime date with later | earlier
  · obtain ⟨below, above⟩ := after later
    refine ⟨by omega, by omega, ?_⟩
    intro either
    rcases either with ⟨rate, ticks⟩ | negative
    · -- Whole ticks in a millisecond leave nothing to be cut.
      have exactly := dateToTick_eq ticks stored
      have distance : (date - clock.baseTime) * clock.ticksPerSecond = 1000 * again := by
        rw [exactly, ticks]
        ring
      omega
    · -- A tick before the base is not shown after it.
      have nonnegative : 0 ≤ (date - clock.baseTime) * clock.ticksPerSecond :=
        Int.mul_nonneg (by omega) positive.le
      omega
  · obtain ⟨above, below⟩ := before earlier
    exact ⟨by omega, by omega, fun _ => by omega⟩

theorem date_comes_near {back : Int} (stored : clock.dateToTick date = .ok tick)
    (shown : clock.tickToDate tick = .ok back) :
    |back - date| * clock.ticksPerSecond < clock.ticksPerSecond + 1000 := by
  -- The instants are compared by the ticks from the base to each of them.
  have positive := clock.ticksPerSecond_pos
  obtain ⟨low, high⟩ := tickToDate_bounds shown
  obtain ⟨after, before⟩ := dateToTick_bounds stored
  have difference : (back - date) * clock.ticksPerSecond =
      (back - clock.baseTime) * clock.ticksPerSecond - (date - clock.baseTime) * clock.ticksPerSecond := by ring
  have scaled : |back - date| * clock.ticksPerSecond = |(back - date) * clock.ticksPerSecond| := by
    rw [abs_mul, abs_of_pos positive]
  rw [scaled, difference, abs_lt]
  rcases le_total clock.baseTime date with later | earlier
  · have cut := after later
    omega
  · have cut := before earlier
    omega

end GameClock

end Sammo
