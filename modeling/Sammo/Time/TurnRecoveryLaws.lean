import Mathlib.Tactic.Linarith
import Mathlib.Tactic.Ring
import Sammo.Time.RecoveryPlans

/-! A clock that recovers lost turns keeps to the normal schedule and is back on it when its window ends. -/

namespace Sammo

theorem tdiv_thousand_bounds (value : Int) :
    value - 1000 < 1000 * value.tdiv 1000 ∧ 1000 * value.tdiv 1000 < value + 1000 := by
  rcases Int.le_total 0 value with positive | negative
  · rw [Int.tdiv_eq_ediv_of_nonneg positive]
    omega
  · -- A negative value is cut like its opposite.
    have opposite : value.tdiv 1000 = -((-value) / 1000) := by
      rw [← Int.tdiv_eq_ediv_of_nonneg (show 0 ≤ -value by omega), Int.neg_tdiv, neg_neg]
    rw [opposite]
    omega

theorem tdiv_thousand_nonpos {value : Int} (negative : value ≤ 0) : value.tdiv 1000 ≤ 0 := by
  have bounds := tdiv_thousand_bounds value
  omega

/-- The whole ticks of one millisecond, a started one included. -/
def millisecondTicks (ticksPerSecond : Int) : Int := ceilDiv ticksPerSecond 1000

namespace GameClock

variable {clock : GameClock}

/-- The wall time at which a recovery window ends. -/
def windowEnd (clock : GameClock) (window : TurnRecoveryWindow) : Int :=
  window.startWallAt + ceilDiv ((window.endTick - window.startTick) * 1000) (2 * clock.ticksPerSecond)

/-- The wall time from which on the clock runs at its normal speed. -/
def joinsAt (clock : GameClock) : Int :=
  match clock.recovery with
  | some window => clock.windowEnd window
  | none => clock.wallAnchor

/-- The normal schedule at a wall time, in thousandths of a tick. -/
def scheduleAt (clock : GameClock) (wall : Int) : Int :=
  match clock.recovery with
  | some window => 1000 * window.endTick + (wall - clock.windowEnd window) * clock.ticksPerSecond
  | none => 1000 * clock.tick + (wall - clock.wallAnchor) * clock.ticksPerSecond

variable {wall : Int} {window : TurnRecoveryWindow} {tick : Int}

theorem projectRecoveryDeadline_end (positive : window.Valid)
    (projected : projectRecoveryDeadline window window.endTick clock.ticksPerSecond = .ok wall) :
    wall = clock.windowEnd window := by
  simp only [projectRecoveryDeadline, Bind.bind, Except.bind] at projected
  split at projected
  · cases projected
  · rename_i accepted safe
    have same := requireSafeTick_ok safe
    subst same
    -- The last tick lies neither behind the window nor before it.
    have span : 0 < window.endTick - window.startTick := positive.2.2.2.2.1
    rw [if_neg (by omega), if_neg (by omega)] at projected
    exact (Except.ok.inj projected).symm

theorem nowTick_plain (realtime : clock.mode = .realtime) (running : clock.phase = .running)
    (plain : clock.recovery = none) (shown : clock.nowTick wall = .ok tick) :
    tick = max clock.tick (clock.tick + ((wall - clock.wallAnchor) * clock.ticksPerSecond).tdiv 1000) := by
  simp only [nowTick, realtime, running, plain, reduceCtorEq, or_self, if_false, decide_true, Bind.bind,
    Except.bind] at shown
  split at shown
  · cases shown
  · rename_i elapsed between
    split at shown
    · cases shown
    · rename_i projected added
      rw [← Except.ok.inj shown, addTicks_ok added, ticksBetween_eq between]

theorem nowTick_window (realtime : clock.mode = .realtime) (running : clock.phase = .running)
    (recovering : clock.recovery = some window) (shown : clock.nowTick wall = .ok tick) :
    tick = max clock.tick (if clock.windowEnd window ≤ wall then
        window.endTick + ((wall - clock.windowEnd window) * clock.ticksPerSecond).tdiv 1000
      else min window.endTick (window.startTick +
        ((wall - window.startWallAt) * clock.ticksPerSecond *
          (if wall < window.startWallAt then 1 else 2)).tdiv 1000)) := by
  have valid := clock.validRecovery window recovering
  simp only [nowTick, realtime, running, recovering, reduceCtorEq, or_self, if_false, decide_true, Bind.bind,
    Except.bind] at shown
  split at shown
  · cases shown
  · rename_i observed looked
    rw [← Except.ok.inj shown]
    simp only [observeTurnRecovery, Bind.bind, Except.bind] at looked
    split at looked
    · cases looked
    · rename_i elapsed safe
      split at looked
      · cases looked
      · rename_i endWall projected
        rw [projectRecoveryDeadline_end valid projected] at looked
        split at looked
        · rename_i past
          rw [requireSafeTick_ok looked, if_pos past]
        · rename_i inside
          rw [requireSafeTick_ok looked, requireSafeTick_ok safe, if_neg inside]

theorem normalNowTick_near (shown : clock.normalNowTick wall = .ok tick) :
    clock.scheduleAt wall - 1000 < 1000 * tick ∧ 1000 * tick < clock.scheduleAt wall + 1000 := by
  unfold normalNowTick at shown
  unfold scheduleAt
  cases found : clock.recovery with
  | none =>
    simp only [found, Bind.bind, Except.bind] at shown
    split at shown
    · cases shown
    · rename_i elapsed between
      have bounds := tdiv_thousand_bounds ((wall - clock.wallAnchor) * clock.ticksPerSecond)
      rw [← ticksBetween_eq between] at bounds
      have sum := addTicks_ok shown
      simp only
      omega
  | some window =>
    simp only [found, Bind.bind, Except.bind] at shown
    split at shown
    · cases shown
    · rename_i endWall projected
      split at shown
      · cases shown
      · rename_i elapsed between
        simp only [tickToWallDate, found] at projected
        have ending := projectRecoveryDeadline_end (clock.validRecovery window found) projected
        have bounds := tdiv_thousand_bounds ((wall - endWall) * clock.ticksPerSecond)
        rw [← ticksBetween_eq between, ending] at bounds
        have sum := addTicks_ok shown
        simp only
        omega

end GameClock

theorem rate_of_turnSeconds {rate : Int} (positive : 0 < rate)
    (whole : ((gameTicksPerTurn : ℚ) / rate).den = 1) :
    (gameTicksPerTurn : Int) / ((gameTicksPerTurn : ℚ) / rate).num = rate := by
  generalize quotient : (gameTicksPerTurn : ℚ) / rate = seconds at whole
  have nonzero : (rate : ℚ) ≠ 0 := by
    have differs : rate ≠ 0 := by omega
    exact_mod_cast differs
  -- A rational with denominator one is its numerator.
  have product : (seconds.num : ℚ) * rate = gameTicksPerTurn := by
    rw [Rat.coe_int_num_of_den_eq_one whole, ← quotient, div_mul_cancel₀ _ nonzero]
  have exactly : seconds.num * rate = (gameTicksPerTurn : Int) := by exact_mod_cast product
  have numerator : seconds.num ≠ 0 := by
    intro zero
    rw [zero] at exactly
    simp [gameTicksPerTurn] at exactly
  rw [← exactly]
  exact Int.mul_ediv_cancel_left rate numerator

/-- Either the clock is at once where it should be, or a window leads from behind the schedule back to it. -/
def PlanShape (observedTick normalTick wallNow rate : Int) (plan : TurnRecoveryPlan) : Prop :=
  (plan.recovery = none ∧ plan.initialTick = max observedTick normalTick) ∨
    ∃ endTick, plan.initialTick < normalTick ∧ 2 * normalTick - plan.initialTick ≤ endTick ∧
      plan.recovery = some ⟨plan.initialTick, endTick, wallNow + ceilDiv ((endTick - normalTick) * 1000) rate -
        ceilDiv ((endTick - plan.initialTick) * 1000) (2 * rate)⟩

theorem planTurnRecovery_shape {observedTick normalTick wallNow rate : Int} {plan : TurnRecoveryPlan}
    (positive : 0 < rate)
    (planned : planTurnRecovery observedTick normalTick wallNow ((gameTicksPerTurn : ℚ) / rate) = .ok plan) :
    PlanShape observedTick normalTick wallNow rate plan := by
  obtain ⟨⟨whole, _, _⟩, _, _, _, cases⟩ := planTurnRecovery_cases planned
  rw [rate_of_turnSeconds positive whole] at cases
  have limit : 0 ≤ immediateRecoveryLimitSeconds * rate := Int.mul_nonneg (by decide) positive.le
  rcases cases with ⟨_, rfl⟩ | ⟨long, ended, rfl⟩ | ⟨long, lagging, _, rfl⟩
  · exact .inl ⟨rfl, rfl⟩
  · refine .inl ⟨rfl, ?_⟩
    show normalTick = max observedTick normalTick
    omega
  · -- The window leads to the boundary behind the point where the lag has been made up for.
    have lag := overdueTicks_bounds observedTick normalTick
    have slack := ticksToBoundary_bounds (normalTick + overdueTicks observedTick normalTick)
    refine .inr ⟨_, ?_, ?_, rfl⟩
    · show normalTick - overdueTicks observedTick normalTick < normalTick
      omega
    · show 2 * normalTick - (normalTick - overdueTicks observedTick normalTick) ≤ _
      omega

namespace GameClock

variable {clock next : GameClock} {suspension : ClockSuspension} {resumeWallAt : Int}

/-- What a resumed clock looks like, given the plan it was made from. -/
structure Resumed (clock next : GameClock) (suspension : ClockSuspension) (resumeWallAt : Int)
    (plan : TurnRecoveryPlan) : Prop where
  mode : next.mode = clock.mode
  phase : next.phase = .running
  rate : next.ticksPerSecond = clock.ticksPerSecond
  shape : PlanShape suspension.cutTick (suspension.normalTick resumeWallAt) resumeWallAt clock.ticksPerSecond plan
  tick : next.tick = plan.initialTick
  recovery : next.recovery = plan.recovery
  anchor : next.wallAnchor = if suspension.normalTick resumeWallAt < plan.initialTick then
      resumeWallAt + ceilDiv ((plan.initialTick - suspension.normalTick resumeWallAt) * 1000) clock.ticksPerSecond
    else (plan.recovery.map TurnRecoveryWindow.startWallAt).getD resumeWallAt

theorem resume_planned (policy : suspension.policy = .recoverTurns)
    (rate : suspension.rateTicksPerSecond = clock.ticksPerSecond)
    (resumed : clock.resume suspension resumeWallAt = .ok next) :
    ∃ plan, Resumed clock next suspension resumeWallAt plan := by
  simp only [resume, ClockSuspension.plan, buildClockAlignmentPlan, policy, Option.getD_some, Bind.bind,
    Except.bind] at resumed
  split at resumed
  · cases resumed
  rename_i aligned alignment
  split at alignment
  · cases alignment
  split at alignment
  · cases alignment
  rename_i exactly _
  split at alignment
  · cases alignment
  rename_i plan planned
  rw [rate] at planned
  have shape := planTurnRecovery_shape clock.ticksPerSecond_pos planned
  split at alignment
  · cases alignment
  split at alignment
  · cases alignment
  have built := create_ok resumed
  rw [← Except.ok.inj alignment] at built
  refine ⟨plan, built.mode, built.phase, ?_, shape, built.tick, built.recovery, ?_⟩
  · -- The turn length is kept, and the rate follows from it.
    have seconds := built.turnSeconds
    simp only [Int.toNat_natCast] at seconds
    simp only [ticksPerSecond, seconds]
  · rw [built.wallAnchor]
    simp only [rate]
    split
    · rfl
    · rfl

/-- A resumed clock without a window: it waits at its tick until the schedule has come up to it. -/
structure Waits (next : GameClock) (normalTick resumeWallAt wait : Int) : Prop where
  plain : next.recovery = none
  ahead : normalTick ≤ next.tick
  anchor : next.wallAnchor = resumeWallAt + wait
  enough : 1000 * (next.tick - normalTick) ≤ wait * next.ticksPerSecond
  tight : wait * next.ticksPerSecond < 1000 * (next.tick - normalTick) + next.ticksPerSecond

/-- A resumed clock with a window: it is behind the schedule and meets it at the window's end. -/
structure CatchesUp (next : GameClock) (normalTick resumeWallAt endTick wait length : Int) : Prop where
  window : next.recovery = some ⟨next.tick, endTick, resumeWallAt + wait - length⟩
  behind : next.tick < normalTick
  reach : 2 * normalTick - next.tick ≤ endTick
  enough : 1000 * (endTick - normalTick) ≤ wait * next.ticksPerSecond
  tight : wait * next.ticksPerSecond < 1000 * (endTick - normalTick) + next.ticksPerSecond
  long : 1000 * (endTick - next.tick) ≤ length * (2 * next.ticksPerSecond)
  short : length * (2 * next.ticksPerSecond) < 1000 * (endTick - next.tick) + 2 * next.ticksPerSecond
  ends : next.windowEnd ⟨next.tick, endTick, resumeWallAt + wait - length⟩ = resumeWallAt + wait
  anchor : next.wallAnchor = resumeWallAt + wait - length

variable {plan : TurnRecoveryPlan} {wall tick : Int} {start : Int} {outage : ClockOutage}
  {outages : List ClockOutage}

theorem Resumed.cases (resumed : Resumed clock next suspension resumeWallAt plan) :
    (next.tick = max suspension.cutTick (suspension.normalTick resumeWallAt) ∧
        ∃ wait, Waits next (suspension.normalTick resumeWallAt) resumeWallAt wait) ∨
      ∃ endTick wait length, CatchesUp next (suspension.normalTick resumeWallAt) resumeWallAt endTick wait length := by
  have positive := clock.ticksPerSecond_pos
  have tick := resumed.tick
  have anchor := resumed.anchor
  rcases resumed.shape with ⟨plain, initial⟩ | ⟨endTick, behind, reach, window⟩
  · refine .inl ⟨tick.trans initial, ?_⟩
    split at anchor
    · -- The clock is ahead, and its anchor is rounded up to a whole millisecond.
      have bounds := ceilDiv_bounds ((plan.initialTick - suspension.normalTick resumeWallAt) * 1000) positive
      refine ⟨_, resumed.recovery.trans plain, by omega, anchor, ?_, ?_⟩
      · rw [resumed.rate]
        omega
      · rw [resumed.rate]
        omega
    · rw [plain, Option.map_none, Option.getD_none] at anchor
      refine ⟨0, resumed.recovery.trans plain, by omega, by omega, by omega, ?_⟩
      rw [resumed.rate]
      omega
  · have ending := ceilDiv_bounds ((endTick - suspension.normalTick resumeWallAt) * 1000) positive
    have lasting := ceilDiv_bounds ((endTick - plan.initialTick) * 1000)
      (show 0 < 2 * clock.ticksPerSecond by omega)
    refine .inr ⟨endTick, ceilDiv ((endTick - suspension.normalTick resumeWallAt) * 1000) clock.ticksPerSecond,
      ceilDiv ((endTick - plan.initialTick) * 1000) (2 * clock.ticksPerSecond), ?_, ?_, ?_, ?_, ?_, ?_, ?_, ?_,
      ?_⟩
    · rw [resumed.recovery, window, tick]
    · rwa [tick]
    · rwa [tick]
    · rw [resumed.rate]
      omega
    · rw [resumed.rate]
      omega
    · rw [resumed.rate, tick]
      omega
    · rw [resumed.rate, tick]
      omega
    · simp only [windowEnd, resumed.rate, tick]
      omega
    · rw [anchor, if_neg (by omega), window]
      rfl

theorem Resumed.le_anchor (resumed : Resumed clock next suspension resumeWallAt plan) :
    resumeWallAt ≤ next.wallAnchor := by
  have positive := next.ticksPerSecond_pos
  rcases resumed.cases with ⟨_, wait, waits⟩ | ⟨endTick, wait, length, catches⟩
  · have nonnegative : 0 ≤ wait * next.ticksPerSecond := by
      have enough := waits.enough
      have ahead := waits.ahead
      omega
    have waited : 0 ≤ wait := nonneg_of_mul_nonneg_left nonnegative positive
    rw [waits.anchor]
    omega
  · -- The window is no longer than the wait, since the schedule runs at half its speed.
    obtain ⟨_, behind, reach, enough, _, _, short, _, anchor⟩ := catches
    have shorter : length * (2 * next.ticksPerSecond) < (wait + 1) * (2 * next.ticksPerSecond) := by
      have doubled : (wait + 1) * (2 * next.ticksPerSecond) =
          2 * (wait * next.ticksPerSecond) + 2 * next.ticksPerSecond := by ring
      omega
    have bounded : length < wait + 1 := lt_of_mul_lt_mul_right shorter (by omega)
    rw [anchor]
    omega

theorem scheduleAt_sub (clock : GameClock) (wall origin : Int) :
    clock.scheduleAt wall = clock.scheduleAt origin + (wall - origin) * clock.ticksPerSecond := by
  unfold scheduleAt
  split
  · ring
  · ring

theorem Resumed.scheduleAt_near (resumed : Resumed clock next suspension resumeWallAt plan) :
    1000 * suspension.normalTick resumeWallAt - next.ticksPerSecond < next.scheduleAt resumeWallAt ∧
      next.scheduleAt resumeWallAt ≤ 1000 * suspension.normalTick resumeWallAt := by
  rcases resumed.cases with ⟨_, wait, waits⟩ | ⟨endTick, wait, length, catches⟩
  · have back : (resumeWallAt - (resumeWallAt + wait)) * next.ticksPerSecond = -(wait * next.ticksPerSecond) := by
      ring
    have enough := waits.enough
    have tight := waits.tight
    simp only [scheduleAt, waits.plain, waits.anchor, back]
    omega
  · have back : (resumeWallAt - (resumeWallAt + wait)) * next.ticksPerSecond = -(wait * next.ticksPerSecond) := by
      ring
    have enough := catches.enough
    have tight := catches.tight
    simp only [scheduleAt, catches.window, catches.ends, back]
    omega

theorem Resumed.joined (resumed : Resumed clock next suspension resumeWallAt plan)
    (realtime : clock.mode = .realtime) (joined : next.joinsAt ≤ wall) (shown : next.nowTick wall = .ok tick) :
    1000 * tick ≤ next.scheduleAt wall ∧ next.scheduleAt wall < 1000 * tick + 1000 := by
  have positive := next.ticksPerSecond_pos
  rcases resumed.cases with ⟨_, wait, waits⟩ | ⟨endTick, wait, length, catches⟩
  · have value := nowTick_plain (resumed.mode.trans realtime) resumed.phase waits.plain shown
    simp only [joinsAt, waits.plain] at joined
    have nonnegative : 0 ≤ (wall - next.wallAnchor) * next.ticksPerSecond :=
      Int.mul_nonneg (by omega) positive.le
    rw [Int.tdiv_eq_ediv_of_nonneg nonnegative] at value
    simp only [scheduleAt, waits.plain]
    omega
  · have value := nowTick_window (resumed.mode.trans realtime) resumed.phase catches.window shown
    simp only [joinsAt, catches.window] at joined
    rw [if_pos joined] at value
    have nonnegative : 0 ≤ (wall - next.windowEnd ⟨next.tick, endTick, resumeWallAt + wait - length⟩) *
        next.ticksPerSecond := Int.mul_nonneg (by omega) positive.le
    rw [Int.tdiv_eq_ediv_of_nonneg nonnegative] at value
    have behind := catches.behind
    have reach := catches.reach
    simp only [scheduleAt, catches.window] at value ⊢
    omega

theorem Resumed.notAhead (resumed : Resumed clock next suspension resumeWallAt plan)
    (realtime : clock.mode = .realtime) (later : resumeWallAt ≤ wall) (shown : next.nowTick wall = .ok tick) :
    1000 * tick ≤ next.scheduleAt wall + next.ticksPerSecond ∨
      (tick = next.tick ∧ suspension.normalTick resumeWallAt < next.tick) := by
  have positive := next.ticksPerSecond_pos
  rcases resumed.cases with ⟨_, wait, waits⟩ | ⟨endTick, wait, length, catches⟩
  · have value := nowTick_plain (resumed.mode.trans realtime) resumed.phase waits.plain shown
    by_cases waiting : wall < next.wallAnchor
    · -- Until the anchor the clock shows the tick it resumed with, which the schedule has not reached.
      have negative : (wall - next.wallAnchor) * next.ticksPerSecond ≤ 0 :=
        Int.mul_nonpos_of_nonpos_of_nonneg (by omega) positive.le
      have cut := tdiv_thousand_nonpos negative
      have longer : next.ticksPerSecond ≤ wait * next.ticksPerSecond :=
        le_mul_of_one_le_left positive.le (by have anchor := waits.anchor; omega)
      have tight := waits.tight
      exact .inr ⟨by omega, by omega⟩
    · have nonnegative : 0 ≤ (wall - next.wallAnchor) * next.ticksPerSecond :=
        Int.mul_nonneg (by omega) positive.le
      rw [Int.tdiv_eq_ediv_of_nonneg nonnegative] at value
      refine .inl ?_
      simp only [scheduleAt, waits.plain]
      omega
  · have value := nowTick_window (resumed.mode.trans realtime) resumed.phase catches.window shown
    refine .inl ?_
    obtain ⟨window, behind, reach, enough, tight, long, short, ends, _⟩ := catches
    simp only [ends] at value
    simp only [scheduleAt, window, ends]
    split at value
    · -- Behind the window the clock runs with its schedule.
      have nonnegative : 0 ≤ (wall - (resumeWallAt + wait)) * next.ticksPerSecond :=
        Int.mul_nonneg (by omega) positive.le
      rw [Int.tdiv_eq_ediv_of_nonneg nonnegative] at value
      omega
    · have left : (wall - (resumeWallAt + wait)) * next.ticksPerSecond =
          -((resumeWallAt + wait - wall) * next.ticksPerSecond) := by ring
      rw [left]
      split at value
      · -- Before the window the clock waits, and the schedule is ahead of it.
        have negative : (wall - (resumeWallAt + wait - length)) * next.ticksPerSecond * 1 ≤ 0 := by
          rw [mul_one]
          exact Int.mul_nonpos_of_nonpos_of_nonneg (by omega) positive.le
        have cut := tdiv_thousand_nonpos negative
        have remaining : (resumeWallAt + wait - wall) * next.ticksPerSecond ≤ wait * next.ticksPerSecond :=
          Int.mul_le_mul_of_nonneg_right (by omega) positive.le
        omega
      · -- In the window twice the distance to its end is left to run, at least one millisecond of it.
        have nonnegative : 0 ≤ (wall - (resumeWallAt + wait - length)) * next.ticksPerSecond * 2 :=
          Int.mul_nonneg (Int.mul_nonneg (by omega) positive.le) (by decide)
        have twice : (wall - (resumeWallAt + wait - length)) * next.ticksPerSecond * 2 =
            length * (2 * next.ticksPerSecond) - 2 * ((resumeWallAt + wait - wall) * next.ticksPerSecond) := by
          ring
        have distance : next.ticksPerSecond ≤ (resumeWallAt + wait - wall) * next.ticksPerSecond :=
          le_mul_of_one_le_left positive.le (by omega)
        rw [Int.tdiv_eq_ediv_of_nonneg nonnegative, twice] at value
        omega

theorem tick_le_nowTick (realtime : clock.mode = .realtime) (running : clock.phase = .running)
    (shown : clock.nowTick wall = .ok tick) : clock.tick ≤ tick := by
  cases found : clock.recovery with
  | none =>
    rw [nowTick_plain realtime running found shown]
    exact Int.le_max_left _ _
  | some window =>
    rw [nowTick_window realtime running found shown]
    exact Int.le_max_left _ _

/-- The tick of the normal schedule at a wall time after the resumption. -/
def normalTimeline (suspension : ClockSuspension) (resumeWallAt wall : Int) : Int :=
  suspension.normalTick resumeWallAt + (wall - resumeWallAt) * suspension.rateTicksPerSecond / 1000

/-- What is promised of the tick that a resumed clock shows, against the normal tick. -/
structure Follows (next : GameClock) (normal wall tick : Int) : Prop where
  notBefore : next.tick ≤ tick
  notAhead : tick ≤ max next.tick (normal + millisecondTicks next.ticksPerSecond)
  joined : next.joinsAt ≤ wall → |tick - normal| ≤ millisecondTicks next.ticksPerSecond

theorem millisecondTicks_bounds (rate : Int) :
    rate ≤ 1000 * millisecondTicks rate ∧ 1000 * millisecondTicks rate < rate + 1000 := by
  have bounds := ceilDiv_bounds rate (show (0 : Int) < 1000 by decide)
  unfold millisecondTicks
  omega

theorem Resumed.follows (resumed : Resumed clock next suspension resumeWallAt plan)
    (rate : suspension.rateTicksPerSecond = clock.ticksPerSecond) (realtime : clock.mode = .realtime)
    (later : resumeWallAt ≤ wall) (shown : next.nowTick wall = .ok tick) :
    Follows next (normalTimeline suspension resumeWallAt wall) wall tick := by
  -- The schedule is the normal one less a part of a millisecond, and readings are cut to whole ticks.
  have near := resumed.scheduleAt_near
  have moved := scheduleAt_sub next wall resumeWallAt
  have milliseconds := millisecondTicks_bounds next.ticksPerSecond
  unfold normalTimeline
  rw [rate, ← resumed.rate]
  constructor
  · exact tick_le_nowTick (resumed.mode.trans realtime) resumed.phase shown
  · rcases resumed.notAhead realtime later shown with bounded | ⟨waiting, _⟩
    · omega
    · omega
  · intro joined
    have reads := resumed.joined realtime joined shown
    rw [abs_le]
    omega

/-- The wall time of a cut. -/
def cutWall (clock : GameClock) : ClockCut → Int
  | .wall wallAt => wallAt
  | .durable => clock.wallAnchor

/-- Outages whose wall times never go back, beginning at a wall time. -/
def Forward (start : Int) (clock : GameClock) : List ClockOutage → Prop
  | [] => True
  | outage :: rest =>
    start ≤ clock.cutWall outage.cut ∧ clock.cutWall outage.cut ≤ outage.resumeWallAt ∧
      ∀ next, clock.recover outage = .ok next → Forward outage.resumeWallAt next rest

/-- A running clock that from a wall time on is at most a millisecond ahead of its schedule. -/
structure OnSchedule (clock : GameClock) (start : Int) : Prop where
  realtime : clock.mode = .realtime
  running : clock.phase = .running
  stored : 1000 * clock.tick ≤ clock.scheduleAt clock.wallAnchor + clock.ticksPerSecond
  shown : ∀ wall tick, start ≤ wall → clock.nowTick wall = .ok tick →
    1000 * tick ≤ clock.scheduleAt wall + clock.ticksPerSecond

theorem onSchedule_plain (realtime : clock.mode = .realtime) (running : clock.phase = .running)
    (plain : clock.recovery = none) : clock.OnSchedule clock.wallAnchor := by
  have positive := clock.ticksPerSecond_pos
  refine ⟨realtime, running, ?_, ?_⟩
  · simp only [scheduleAt, plain, sub_self, zero_mul]
    omega
  · intro wall tick later shown
    have value := nowTick_plain realtime running plain shown
    have nonnegative : 0 ≤ (wall - clock.wallAnchor) * clock.ticksPerSecond :=
      Int.mul_nonneg (by omega) positive.le
    rw [Int.tdiv_eq_ediv_of_nonneg nonnegative] at value
    simp only [scheduleAt, plain]
    omega

theorem suspend_ok {cut : ClockCut} (suspended : clock.suspend .recoverTurns 0 cut = .ok suspension) :
    suspension.policy = .recoverTurns ∧ suspension.rateTicksPerSecond = clock.ticksPerSecond ∧
      suspension.cutWallAt = clock.cutWall cut ∧
      (clock.nowTick (clock.cutWall cut) = .ok suspension.cutTick ∨
        (suspension.cutTick = clock.tick ∧ clock.cutWall cut = clock.wallAnchor)) ∧
      ∃ normalTick, clock.normalNowTick (clock.cutWall cut) = .ok normalTick ∧
        suspension.normalTickAtCutWall = some (max suspension.cutTick normalTick) := by
  unfold suspend at suspended
  split at suspended
  · cases suspended
  split at suspended
  · cases suspended
  split at suspended
  · cases suspended
  cases cut with
  | wall wallAt =>
    simp only [Bind.bind, Except.bind] at suspended
    split at suspended
    · cases suspended
    rename_i observed shown
    split at suspended
    · cases suspended
    rename_i normalTick normal
    rw [← Except.ok.inj suspended]
    exact ⟨rfl, rfl, rfl, .inl shown, normalTick, normal, rfl⟩
  | durable =>
    simp only [Bind.bind, Except.bind] at suspended
    split at suspended
    · cases suspended
    rename_i normalTick normal
    rw [← Except.ok.inj suspended]
    exact ⟨rfl, rfl, rfl, .inr ⟨rfl, rfl⟩, normalTick, normal, rfl⟩

theorem OnSchedule.cut {cut : ClockCut} (held : clock.OnSchedule start) (forward : start ≤ clock.cutWall cut)
    (suspended : clock.suspend .recoverTurns 0 cut = .ok suspension) :
    1000 * suspension.cutTick ≤ clock.scheduleAt (clock.cutWall cut) + clock.ticksPerSecond := by
  obtain ⟨_, _, _, observed, _⟩ := suspend_ok suspended
  rcases observed with shown | ⟨stored, anchored⟩
  · exact held.shown _ _ forward shown
  · rw [stored, anchored]
    exact held.stored

theorem recover_ok (recovered : clock.recover outage = .ok next) :
    ∃ suspension plan, clock.suspend .recoverTurns 0 outage.cut = .ok suspension ∧
      Resumed clock next suspension outage.resumeWallAt plan := by
  simp only [recover, Bind.bind, Except.bind] at recovered
  split at recovered
  · cases recovered
  rename_i suspension suspended
  obtain ⟨policy, rate, _⟩ := suspend_ok suspended
  obtain ⟨plan, resumed⟩ := resume_planned policy rate recovered
  exact ⟨suspension, plan, suspended, resumed⟩

theorem recover_drift (held : clock.OnSchedule start) (forward : start ≤ clock.cutWall outage.cut)
    (recovered : clock.recover outage = .ok next) (wall : Int) :
    |next.scheduleAt wall - clock.scheduleAt wall| ≤ clock.ticksPerSecond + 2000 := by
  obtain ⟨suspension, plan, suspended, resumed⟩ := recover_ok recovered
  obtain ⟨_, rate, cutAt, _, normalTick, normal, stored⟩ := suspend_ok suspended
  have bounded := held.cut forward suspended
  have near := resumed.scheduleAt_near
  have cutNear := normalNowTick_near normal
  -- The ticks of the gap are cut once, those of the cut before it, and the end of the window is rounded up.
  have gap := tdiv_thousand_bounds ((outage.resumeWallAt - clock.cutWall outage.cut) * clock.ticksPerSecond)
  have resumedTick : suspension.normalTick outage.resumeWallAt = max suspension.cutTick normalTick +
      ((outage.resumeWallAt - clock.cutWall outage.cut) * clock.ticksPerSecond).tdiv 1000 := by
    simp only [ClockSuspension.normalTick, stored, Option.getD_some, cutAt, rate]
  have before := scheduleAt_sub clock outage.resumeWallAt (clock.cutWall outage.cut)
  have nextMoved := scheduleAt_sub next wall outage.resumeWallAt
  have clockMoved := scheduleAt_sub clock wall outage.resumeWallAt
  have positive := clock.ticksPerSecond_pos
  rw [resumed.rate] at near nextMoved
  rw [abs_le]
  omega

theorem recover_onSchedule (held : clock.OnSchedule start)
    (ordered : clock.cutWall outage.cut ≤ outage.resumeWallAt) (recovered : clock.recover outage = .ok next) :
    next.OnSchedule outage.resumeWallAt := by
  obtain ⟨suspension, plan, suspended, resumed⟩ := recover_ok recovered
  obtain ⟨_, rate, cutAt, _, normalTick, normal, stored⟩ := suspend_ok suspended
  -- The wall did not go back, so the schedule is not behind the tick of the cut.
  have elapsed : 0 ≤ (outage.resumeWallAt - clock.cutWall outage.cut) * clock.ticksPerSecond :=
    Int.mul_nonneg (by omega) clock.ticksPerSecond_pos.le
  have reached : suspension.cutTick ≤ suspension.normalTick outage.resumeWallAt := by
    simp only [ClockSuspension.normalTick, stored, Option.getD_some, cutAt, rate]
    rw [Int.tdiv_eq_ediv_of_nonneg elapsed]
    omega
  have caughtUp : next.tick ≤ suspension.normalTick outage.resumeWallAt := by
    rcases resumed.cases with ⟨tick, _⟩ | ⟨_, _, _, catches⟩
    · omega
    · exact catches.behind.le
  refine ⟨resumed.mode.trans held.realtime, resumed.phase, ?_, ?_⟩
  · -- The anchor is not before the resumption, and there the schedule was not yet behind.
    have near := resumed.scheduleAt_near
    have moved := scheduleAt_sub next next.wallAnchor outage.resumeWallAt
    have later := resumed.le_anchor
    have nonnegative : 0 ≤ (next.wallAnchor - outage.resumeWallAt) * next.ticksPerSecond :=
      Int.mul_nonneg (by omega) next.ticksPerSecond_pos.le
    omega
  · intro wall tick later shown
    rcases resumed.notAhead held.realtime later shown with bounded | ⟨_, waiting⟩
    · exact bounded
    · omega

theorem recoverAll_drift {final : GameClock} (held : clock.OnSchedule start)
    (forward : Forward start clock outages) (recovered : clock.recoverAll outages = .ok final) (wall : Int) :
    |final.scheduleAt wall - clock.scheduleAt wall| ≤ outages.length * (clock.ticksPerSecond + 2000) := by
  -- The induction is on the outages; the clock behind the first one is on its schedule from its resumption on.
  induction outages generalizing clock start with
  | nil =>
    have same : clock = final := Except.ok.inj recovered
    simp [same]
  | cons outage rest ih =>
    simp only [recoverAll, List.foldlM_cons, Bind.bind, Except.bind] at recovered
    split at recovered
    · cases recovered
    rename_i next first
    obtain ⟨afterStart, ordered, later⟩ := forward
    have drift := recover_drift held afterStart first wall
    have remaining := ih (recover_onSchedule held ordered first) (later next first) recovered
    obtain ⟨_, _, _, resumed⟩ := recover_ok first
    rw [resumed.rate] at remaining
    have total : ((outage :: rest).length : Int) * (clock.ticksPerSecond + 2000) =
        rest.length * (clock.ticksPerSecond + 2000) + (clock.ticksPerSecond + 2000) := by
      push_cast [List.length_cons]
      ring
    calc |final.scheduleAt wall - clock.scheduleAt wall|
        ≤ |final.scheduleAt wall - next.scheduleAt wall| + |next.scheduleAt wall - clock.scheduleAt wall| :=
          abs_sub_le _ _ _
      _ ≤ rest.length * (clock.ticksPerSecond + 2000) + (clock.ticksPerSecond + 2000) := by omega
      _ = (outage :: rest).length * (clock.ticksPerSecond + 2000) := total.symm

theorem recoverAll_resumed {final : GameClock} (some : outages ≠ []) (realtime : clock.mode = .realtime)
    (recovered : clock.recoverAll outages = .ok final) :
    ∃ before suspension resumeWallAt plan, before.mode = .realtime ∧
      Resumed before final suspension resumeWallAt plan := by
  induction outages generalizing clock with
  | nil => exact absurd rfl some
  | cons outage rest ih =>
    simp only [recoverAll, List.foldlM_cons, Bind.bind, Except.bind] at recovered
    split at recovered
    · cases recovered
    rename_i next first
    obtain ⟨suspension, plan, _, resumed⟩ := recover_ok first
    cases rest with
    | nil =>
      have same : next = final := Except.ok.inj recovered
      exact ⟨clock, suspension, _, plan, realtime, same ▸ resumed⟩
    | cons other later => exact ih (by simp) (resumed.mode.trans realtime) recovered

end GameClock

/--
A clock that recovers its lost turns rejoins the normal schedule.

From the resumption on it never shows less than the tick it resumed with, and never more than the normal tick by
over a started millisecond's worth of ticks, except while it waits at that first tick for the schedule to reach it.
From the end of its window on it is within a started millisecond's worth of ticks of the normal tick.
Over outages whose wall times never go back the schedule moves by at most a millisecond's worth of ticks and two
ticks for each, and the clock shows it in whole ticks.
-/
theorem turn_recovery_rejoins :
    (∀ (clock next : GameClock) (suspension : ClockSuspension) (resumeWallAt : Int), clock.mode = .realtime →
      suspension.policy = .recoverTurns → suspension.rateTicksPerSecond = clock.ticksPerSecond →
      clock.resume suspension resumeWallAt = .ok next →
      ∀ wall tick, resumeWallAt ≤ wall → next.nowTick wall = .ok tick →
        next.Follows (GameClock.normalTimeline suspension resumeWallAt wall) wall tick) ∧
    ∀ (clock final : GameClock) (start : Int) (outages : List ClockOutage), clock.OnSchedule start →
      GameClock.Forward start clock outages → clock.recoverAll outages = .ok final →
      (∀ wall, |final.scheduleAt wall - clock.scheduleAt wall| ≤
        outages.length * (clock.ticksPerSecond + 2000)) ∧
      (outages ≠ [] → ∀ wall tick, final.joinsAt ≤ wall → final.nowTick wall = .ok tick →
        1000 * tick ≤ final.scheduleAt wall ∧ final.scheduleAt wall < 1000 * tick + 1000) := by
  refine ⟨?_, ?_⟩
  · intro clock next suspension resumeWallAt realtime policy rate resumed wall tick later shown
    obtain ⟨plan, planned⟩ := GameClock.resume_planned policy rate resumed
    exact planned.follows rate realtime later shown
  · intro clock final start outages held forward recovered
    refine ⟨GameClock.recoverAll_drift held forward recovered, ?_⟩
    intro some wall tick joined shown
    obtain ⟨before, suspension, resumeWallAt, plan, realtime, resumed⟩ :=
      GameClock.recoverAll_resumed some held.realtime recovered
    exact resumed.joined realtime joined shown

theorem validDate_zero : ValidDate 0 := by decide

theorem safeRevision_one : isSafeInteger 1 ∧ (1 : Int) ≤ 1 := by decide

theorem validRecovery_none (window : TurnRecoveryWindow) (given : none = some window) : window.Valid := by
  cases given

/-- A running realtime clock that shows a tick from the first instant on. -/
def clockRunningAt (tick : Int) (turnSeconds : Nat) (positive : 0 < turnSeconds)
    (divides : turnSeconds ∣ gameTicksPerTurn) (safeTick : isSafeInteger tick) : GameClock :=
  { baseTime := 0, tick, mode := .realtime, wallAnchor := 0, turnSeconds, phase := .running, revision := 1
    recovery := none, positive, divides, validBase := validDate_zero, validAnchor := validDate_zero, safeTick
    safeRevision := safeRevision_one, validRecovery := validRecovery_none }

/-- A clock whose window is over after an outage of eleven minutes, by both parts of the theorem. -/
theorem turn_recovery_rejoins_short :
    ∃ clock next : GameClock, ∃ suspension, clock.resume suspension 660000 = .ok next ∧
      (∀ wall tick, 660000 ≤ wall → next.nowTick wall = .ok tick →
        next.Follows (GameClock.normalTimeline suspension 660000 wall) wall tick) ∧
      clock.recoverAll [⟨.wall 1, 660000⟩] = .ok next ∧
      ∀ wall, |next.scheduleAt wall - clock.scheduleAt wall| ≤ 12000 := by
  -- The checker runs the outage on a clock with turns of an hour.
  let clock := clockRunningAt 0 3600 (by decide) (by decide) (by decide)
  let suspension : ClockSuspension := ⟨.recoverTurns, 1, 10, 1, 10000, 0, some 10⟩
  have suspended : clock.suspend .recoverTurns 0 (.wall 1) = .ok suspension := by decide +kernel
  have resumes : (clock.resume suspension 660000).isOk = true := by decide +kernel
  cases resumed : clock.resume suspension 660000 with
  | error message => simp [resumed, Except.isOk, Except.toBool] at resumes
  | ok next =>
    have recovered : clock.recover ⟨.wall 1, 660000⟩ = .ok next := by
      simp only [GameClock.recover, suspended, Bind.bind, Except.bind]
      exact resumed
    have recoveredAll : clock.recoverAll [⟨.wall 1, 660000⟩] = .ok next := by
      simp only [GameClock.recoverAll, List.foldlM_cons, recovered, Bind.bind, Except.bind]
      rfl
    have held : clock.OnSchedule 0 := GameClock.onSchedule_plain rfl rfl rfl
    have forward : GameClock.Forward 0 clock [⟨.wall 1, 660000⟩] :=
      ⟨by decide, by decide, fun _ _ => trivial⟩
    refine ⟨clock, next, suspension, resumed, ?_, recoveredAll, ?_⟩
    · exact turn_recovery_rejoins.1 clock next suspension 660000 rfl rfl (by decide) resumed
    · intro wall
      have drift := (turn_recovery_rejoins.2 clock next 0 _ held forward recoveredAll).1 wall
      have rate : clock.ticksPerSecond = 10000 := by decide
      rw [rate] at drift
      simpa using drift

/--
A clock can be further from the normal schedule than the milliseconds alone allow.

Cut ahead of the schedule it waits more than a millisecond ahead of it, a rate that is no whole number of ticks in a
millisecond leaves it two ticks behind at the end of its window, and one outage can cost three ticks where a
millisecond is less than one.
-/
theorem turn_recovery_leaves_schedule :
    (do
      let waiting ← (clockRunningAt 0 3600 (by decide) (by decide) (by decide)).resume
        ⟨.recoverTurns, 1, 100000, 10000, 10000, 0, none⟩ 0
      waiting.nowTick 0) = Except.ok 100000 ∧
    GameClock.normalTimeline ⟨.recoverTurns, 1, 100000, 10000, 10000, 0, none⟩ 0 0 = 0 ∧
    ¬ 1000 * (100000 - 0) ≤ 10000 ∧
    (do
      let behind ← (clockRunningAt 0 22500 (by decide) (by decide) (by decide)).resume
        ⟨.recoverTurns, 1, 0, 0, 1600, 0, some 960003⟩ 0
      let shown ← behind.nowTick 21900000
      .ok (behind.joinsAt, behind.ticksPerSecond, shown)) =
        (.ok (21899999, 1600, 36000001) : Except String (Int × Int × Int)) ∧
    GameClock.normalTimeline ⟨.recoverTurns, 1, 0, 0, 1600, 0, some 960003⟩ 0 21900000 = 36000003 ∧
    ¬ 1000 * (36000003 - 36000001) ≤ 1600 ∧
    (do
      let final ← (clockRunningAt 23 37500 (by decide) (by decide) (by decide)).recoverAll [⟨.wall 1, 600027⟩]
      let shown ← final.nowTick 37499980
      .ok (final.ticksPerSecond, shown)) = (.ok (960, 36000000) : Except String (Int × Int)) ∧
    (clockRunningAt 23 37500 (by decide) (by decide) (by decide)).normalNowTick 37499980 = .ok 36000003 ∧
    ¬ 1000 * (36000003 - 36000000) ≤ 1 * (960 + 1000) := by
  decide +kernel

end Sammo
