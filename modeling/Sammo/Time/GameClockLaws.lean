import Mathlib.Tactic.Linarith
import Mathlib.Tactic.Ring
import Sammo.Time.GameClock

/-! What the clock's conversions between instants and ticks compute. -/

namespace Sammo

namespace GameClock

variable {clock : GameClock} {rate : Int}

theorem requireSafeTick_ok {tick result : Int} (accepted : requireSafeTick tick = .ok result) : result = tick := by
  -- The check either passes the tick on or fails.
  unfold requireSafeTick at accepted
  split at accepted
  · exact (Except.ok.inj accepted).symm
  · cases accepted

theorem tdiv_parts (distance : Int) {unit rate : Int} (units : 0 < unit) (positive : 0 < rate) :
    distance.tdiv unit * rate + ((distance - distance.tdiv unit * unit) * rate).tdiv unit =
      (distance * rate).tdiv unit := by
  have forward : ∀ value : Int, 0 ≤ value →
      value.tdiv unit * rate + ((value - value.tdiv unit * unit) * rate).tdiv unit =
        (value * rate).tdiv unit := by
    intro value nonnegative
    rw [Int.tdiv_eq_ediv_of_nonneg nonnegative]
    have left : 0 ≤ value - value / unit * unit := by
      have below := Int.ediv_mul_le value units.ne'
      omega
    rw [Int.tdiv_eq_ediv_of_nonneg (Int.mul_nonneg left positive.le),
      Int.tdiv_eq_ediv_of_nonneg (Int.mul_nonneg nonnegative positive.le)]
    -- Whole units convert without a rest, so they come out of the division.
    rw [show value * rate = (value - value / unit * unit) * rate + value / unit * rate * unit by ring,
      Int.add_mul_ediv_right _ _ units.ne']
    ring
  rcases Int.le_total 0 distance with after | before
  · exact forward distance after
  · -- A distance into the past is converted like the opposite one.
    have opposite := forward (-distance) (by omega)
    rw [Int.neg_tdiv] at opposite
    have rest : (-distance - -distance.tdiv unit * unit) * rate =
        -((distance - distance.tdiv unit * unit) * rate) := by ring
    rw [rest, Int.neg_tdiv, show -distance * rate = -(distance * rate) by ring, Int.neg_tdiv] at opposite
    linarith

theorem ticksBetween_eq {origin target ticks : Int} (computed : clock.ticksBetween origin target = .ok ticks) :
    ticks = ((target - origin) * clock.ticksPerSecond).tdiv 1000 := by
  simp only [ticksBetween] at computed
  split at computed
  · have value := requireSafeTick_ok computed
    rw [value, tdiv_parts _ (by decide) clock.ticksPerSecond_pos]
  · cases computed

theorem addTicks_ok {tick delta result : Int} (added : addTicks tick delta = .ok result) : result = tick + delta := by
  simp only [addTicks, Bind.bind, Except.bind] at added
  split at added
  · cases added
  · rename_i accepted safe
    rw [requireSafeTick_ok added, requireSafeTick_ok safe]

/-- The fields a clock is built with. -/
structure BuiltFrom (state : GameClockState) (clock : GameClock) : Prop where
  baseTime : clock.baseTime = state.baseTime
  tick : clock.tick = state.tick
  mode : clock.mode = state.mode
  wallAnchor : clock.wallAnchor = state.wallAnchor
  turnSeconds : clock.turnSeconds = state.turnSeconds.toNat
  phase : clock.phase = state.phase.getD (inferClockPhase state.mode)
  revision : clock.revision = state.revision.getD 1
  recovery : clock.recovery = state.recovery

theorem create_ok {state : GameClockState} (created : create state = .ok clock) : BuiltFrom state clock := by
  unfold create at created
  -- Each check either fails or leads on to the next one.
  repeat' split at created
  all_goals first
    | cases created
      done
    | rw [← Except.ok.inj created]
      exact ⟨rfl, rfl, rfl, rfl, rfl, rfl, rfl, rfl⟩

theorem ticksPerSecond_mul (clock : GameClock) : clock.ticksPerSecond * clock.turnSeconds = gameTicksPerTurn := by
  have whole : gameTicksPerTurn / clock.turnSeconds * clock.turnSeconds = gameTicksPerTurn :=
    Nat.div_mul_cancel clock.divides
  unfold ticksPerSecond
  exact_mod_cast whole

theorem dateToTick_ok {date tick : Int} (converted : clock.dateToTick date = .ok tick) :
    tick = ((date - clock.baseTime) * clock.ticksPerSecond).tdiv 1000 := by
  simp only [dateToTick, Bind.bind, Except.bind] at converted
  split at converted
  · cases converted
  · rename_i between computed
    rw [requireSafeTick_ok converted, ticksBetween_eq computed]

theorem ediv_parts (tick : Int) (positive : 0 < rate) :
    tick / rate * 1000 + (tick - tick / rate * rate) * 1000 / rate = tick * 1000 / rate := by
  -- Whole seconds are whole milliseconds, so they come out of the division.
  have seconds : tick * 1000 = (tick - tick / rate * rate) * 1000 + tick / rate * 1000 * rate := by ring
  rw [seconds, Int.add_mul_ediv_right _ _ positive.ne', add_comm]

theorem tickOffsetMilliseconds_ok {tick offset : Int} (positive : 0 < rate)
    (computed : tickOffsetMilliseconds tick rate = .ok offset) : offset = tick * 1000 / rate := by
  simp only [tickOffsetMilliseconds, ediv_parts tick positive] at computed
  split at computed
  · exact (Except.ok.inj computed).symm
  · cases computed

theorem tickToDate_ok {tick date : Int} (converted : clock.tickToDate tick = .ok date) :
    date = clock.baseTime + tick * 1000 / clock.ticksPerSecond := by
  simp only [tickToDate, Bind.bind, Except.bind] at converted
  split at converted
  · cases converted
  rename_i accepted safe
  split at converted
  · cases converted
  rename_i offset computed
  have value := tickOffsetMilliseconds_ok clock.ticksPerSecond_pos computed
  rw [requireSafeTick_ok safe] at value
  split at converted
  · cases converted
  split at converted
  · cases converted
  rw [← Except.ok.inj converted, value]

theorem rate_pos (whole : clock.ticksPerSecond = 1000 * rate) : 0 < rate := by
  have positive := clock.ticksPerSecond_pos
  omega

theorem dateToTick_eq {date tick : Int} (whole : clock.ticksPerSecond = 1000 * rate)
    (converted : clock.dateToTick date = .ok tick) : tick = (date - clock.baseTime) * rate := by
  -- A whole number of ticks in each millisecond leaves no remainder.
  rw [dateToTick_ok converted, whole,
    show (date - clock.baseTime) * (1000 * rate) = (date - clock.baseTime) * rate * 1000 by ring]
  exact Int.mul_tdiv_cancel _ (by decide)

end GameClock

end Sammo
