import Sammo.Time.TurnRecovery

/-! How a suspended clock is brought back: alignment plans, the plan for lost turns, and the resumed clock. -/

namespace Sammo

/-- The ways of bringing a suspended clock back. -/
inductive ClockAlignmentPolicy where
  | exact
  | legacyCompleteTurns
  | catchUp
  | preserveSchedule
  | recoverTurns
  | turnBoundary
  deriving DecidableEq

/-- What is done about turns that were lost. -/
structure TurnRecoveryPlan where
  skippedTurns : Int
  recoveryTurns : ℚ
  initialTick : Int
  recovery : Option TurnRecoveryWindow

/-- The first turn boundary at or after a tick. -/
def nextTurnBoundary (tick : Int) : Except String Int := do
  let tick ← requireSafeTick tick
  requireSafeTick (ceilDiv tick gameTicksPerTurn * gameTicksPerTurn)

/-- The ticks of a whole number of turns. -/
def turnShiftTicks (turns : Int) : Except String Int :=
  if isSafeInteger turns then requireSafeTick (turns * gameTicksPerTurn)
  else .error "Schedule movement requires an integer number of turns."

/-- The longest delay that is caught up at once. -/
def immediateRecoveryLimitSeconds : Int := 600

/--
Plans how the clock gets from the last tick it showed back to the normal schedule.

A short delay is caught up at once, whole years are skipped, and the rest is run at double speed.
-/
def planTurnRecovery (observedTick normalTick wallNow : Int) (turnSeconds : ℚ) :
    Except String TurnRecoveryPlan := do
  let observedTick ← requireSafeTick observedTick
  let normalTick ← requireSafeTick normalTick
  if turnSeconds.den ≠ 1 ∨ turnSeconds.num ≤ 0 ∨ (gameTicksPerTurn : Int) % turnSeconds.num ≠ 0 then
    .error "Recovery requires a representable positive turn length."
  else if ¬ ValidDate wallNow then .error "Recovery wall instant is invalid."
  else
    let gap := max 0 (normalTick - observedTick)
    let ticksPerSecond := (gameTicksPerTurn : Int) / turnSeconds.num
    if gap ≤ immediateRecoveryLimitSeconds * ticksPerSecond then do
      let initialTick ← requireSafeTick (max observedTick normalTick)
      .ok { skippedTurns := 0, recoveryTurns := 0, initialTick, recovery := none }
    else do
      let skippedTurns := gap / (12 * gameTicksPerTurn) * 12
      let initialTick ← requireSafeTick (observedTick + (← turnShiftTicks skippedTurns))
      let remaining := normalTick - initialTick
      if remaining = 0 then .ok { skippedTurns, recoveryTurns := 0, initialTick, recovery := none }
      else do
        let endTick ← nextTurnBoundary (normalTick + remaining)
        -- Rounding up to milliseconds keeps the end of the window and moves its start.
        let endWall := wallNow + ceilDiv ((endTick - normalTick) * 1000) ticksPerSecond
        let duration := ceilDiv ((endTick - initialTick) * 1000) (2 * ticksPerSecond)
        .ok
          { skippedTurns, initialTick
            recoveryTurns := (remaining : ℚ) / gameTicksPerTurn
            recovery := some ⟨initialTick, endTick, endWall - duration⟩ }

/-- How a suspended clock is brought back, and by how much schedules move. -/
structure ClockAlignmentPlan where
  policy : ClockAlignmentPolicy
  sourceRevision : Int
  targetRevision : Int
  cutTick : Int
  gapTicks : Int
  catchUpTicks : Int
  shiftTicks : Int
  alignedTick : Int
  recovery : Option TurnRecoveryWindow
  resumeAnchor : Option Int

/-- What a plan is made from. -/
structure ClockAlignmentInput where
  policy : ClockAlignmentPolicy
  sourceRevision : Int
  cutTick : Int
  cutWall : Int
  resumeWall : Int
  ticksPerSecond : Int
  catchUpTicks : Option Int
  normalTick : Option Int

/-- The plan that moves schedules by the wall time that passed, less what is caught up. -/
def buildAlignmentPlan (input : ClockAlignmentInput) : Except String ClockAlignmentPlan := do
  let sourceRevision ← asClockRevision input.sourceRevision
  let cutTick ← requireSafeTick input.cutTick
  if ¬ (ValidDate input.cutWall ∧ ValidDate input.resumeWall) then .error "Wall instant must be a valid date."
  else if ¬ (isSafeInteger input.ticksPerSecond ∧ 0 < input.ticksPerSecond) then
    .error s!"ticksPerSecond must be a positive safe integer: {input.ticksPerSecond}"
  else do
    let elapsedMilliseconds := max 0 (input.resumeWall - input.cutWall)
    if ¬ isSafeInteger elapsedMilliseconds then
      .error "Clock suspension wall gap is outside the safe integer range."
    else do
      let wholeSeconds := elapsedMilliseconds / 1000
      let remainingMilliseconds := elapsedMilliseconds - wholeSeconds * 1000
      let gapTicks ← requireSafeTick (wholeSeconds * input.ticksPerSecond +
        remainingMilliseconds * input.ticksPerSecond / 1000)
      let catchUpTicks ← requireSafeTick (input.catchUpTicks.getD 0)
      if catchUpTicks < 0 ∨ gapTicks < catchUpTicks then
        .error s!"catchUpTicks must be between 0 and the wall gap ({gapTicks}): {catchUpTicks}"
      else do
        let shiftTicks ← requireSafeTick (gapTicks - catchUpTicks)
        let targetRevision ← asClockRevision (sourceRevision + 1)
        let alignedTick ← requireSafeTick (cutTick + gapTicks)
        .ok
          { policy := input.policy, sourceRevision, targetRevision, cutTick, gapTicks, catchUpTicks
            shiftTicks, alignedTick, recovery := none, resumeAnchor := none }

/-- The plan of a policy. -/
def buildClockAlignmentPlan (input : ClockAlignmentInput) : Except String ClockAlignmentPlan :=
  let exactly := buildAlignmentPlan { input with catchUpTicks := some 0 }
  let hasCatchUp := input.catchUpTicks.getD 0 ≠ 0
  match input.policy with
  | .turnBoundary =>
    if input.cutTick % gameTicksPerTurn ≠ 0 ∨ hasCatchUp then
      .error "Planned resume requires a suspended turn boundary and no catch-up."
    else do
      let plan ← exactly
      let normalTick := input.normalTick.getD plan.alignedTick
      let alignedTick ← nextTurnBoundary (max input.cutTick normalTick)
      let shiftTicks ← requireSafeTick (alignedTick - input.cutTick)
      .ok
        { plan with
          alignedTick, shiftTicks, catchUpTicks := 0, recovery := none
          resumeAnchor := some (input.resumeWall +
            ceilDiv ((alignedTick - normalTick) * 1000) input.ticksPerSecond) }
  | .recoverTurns =>
    if hasCatchUp then .error "Turn recovery derives its backlog from the saved observation."
    else do
      let plan ← exactly
      let normalTick := input.normalTick.getD plan.alignedTick
      let recovery ← planTurnRecovery input.cutTick normalTick input.resumeWall
        ((gameTicksPerTurn : ℚ) / input.ticksPerSecond)
      let shiftTicks ← requireSafeTick (recovery.skippedTurns * gameTicksPerTurn)
      let catchUpTicks ← requireSafeTick (max 0 (normalTick - input.cutTick - shiftTicks))
      .ok
        { plan with
          shiftTicks, catchUpTicks, alignedTick := recovery.initialTick, recovery := recovery.recovery
          resumeAnchor :=
            -- A clock that is ahead of the schedule waits until the schedule has come up to it.
            if normalTick < recovery.initialTick then
              some (input.resumeWall +
                ceilDiv ((recovery.initialTick - normalTick) * 1000) input.ticksPerSecond)
            else recovery.recovery.map TurnRecoveryWindow.startWallAt }
  | .preserveSchedule =>
    if hasCatchUp then .error "PRESERVE_SCHEDULE derives catch-up from the complete wall gap."
    else do
      let plan ← exactly
      .ok { plan with shiftTicks := 0, catchUpTicks := plan.gapTicks }
  | .exact =>
    if hasCatchUp then .error "EXACT alignment does not allow catch-up ticks."
    else exactly
  | .catchUp => buildAlignmentPlan input
  | .legacyCompleteTurns => do
    let plan ← exactly
    let shiftTicks ← requireSafeTick (plan.gapTicks / gameTicksPerTurn * gameTicksPerTurn)
    let catchUpTicks ← requireSafeTick (plan.gapTicks - shiftTicks)
    .ok { plan with catchUpTicks, shiftTicks }

/-- What is stored about a clock that was suspended, with the policy that holds when it resumes. -/
structure ClockSuspension where
  policy : ClockAlignmentPolicy
  sourceRevision : Int
  cutTick : Int
  cutWallAt : Int
  rateTicksPerSecond : Int
  catchUpTicks : Int
  normalTickAtCutWall : Option Int
  deriving DecidableEq

/-- The tick of the normal schedule at a wall time after the cut. -/
def ClockSuspension.normalTick (suspension : ClockSuspension) (wallAt : Int) : Int :=
  suspension.normalTickAtCutWall.getD suspension.cutTick +
    ((wallAt - suspension.cutWallAt) * suspension.rateTicksPerSecond).tdiv 1000

/-- The plan for resuming at a wall time. -/
def ClockSuspension.plan (suspension : ClockSuspension) (resumeWallAt : Int) : Except String ClockAlignmentPlan :=
  buildClockAlignmentPlan
    { policy := suspension.policy, sourceRevision := suspension.sourceRevision
      cutTick := suspension.cutTick, cutWall := suspension.cutWallAt, resumeWall := resumeWallAt
      ticksPerSecond := suspension.rateTicksPerSecond, catchUpTicks := some suspension.catchUpTicks
      normalTick := some (suspension.normalTick resumeWallAt) }

/-- Where a clock is cut: at a wall time, or at the observation it was last stored with. -/
inductive ClockCut where
  | wall (wallAt : Int)
  | durable
  deriving DecidableEq

namespace GameClock

/-- Suspends a running clock. -/
def suspend (clock : GameClock) (policy : ClockAlignmentPolicy) (catchUpTicks : Int) (cut : ClockCut) :
    Except String ClockSuspension :=
  if catchUpTicks < 0 ∨ ¬ isSafeInteger catchUpTicks then
    .error "Clock suspension catch-up ticks must be a non-negative safe integer."
  else if clock.phase ≠ .running then
    .error s!"Clock suspension can start only from RUNNING; current phase is {clock.phase.code}."
  else if cut = .durable ∧ policy ≠ .recoverTurns then
    .error "Only daemon outage recovery may use the durable observation."
  else do
    let cutWallAt := match cut with
      | .wall wallAt => wallAt
      | .durable => clock.wallAnchor
    let cutTick ← match cut with
      | .wall wallAt => clock.nowTick wallAt
      | .durable => .ok clock.tick
    let normalTick ← clock.normalNowTick cutWallAt
    .ok
      { policy, sourceRevision := clock.revision, cutTick, cutWallAt
        rateTicksPerSecond := clock.ticksPerSecond, catchUpTicks
        normalTickAtCutWall := some (max cutTick normalTick) }

/-- The running clock after a suspension. -/
def resume (clock : GameClock) (suspension : ClockSuspension) (resumeWallAt : Int) : Except String GameClock := do
  let plan ← suspension.plan resumeWallAt
  create
    { baseTime := clock.baseTime, tick := plan.alignedTick, mode := clock.mode
      wallAnchor := plan.resumeAnchor.getD resumeWallAt, turnSeconds := clock.turnSeconds
      phase := some .running, revision := some plan.targetRevision, recovery := plan.recovery }

end GameClock

/-- One outage: where the clock was cut and when it was resumed. -/
structure ClockOutage where
  cut : ClockCut
  resumeWallAt : Int
  deriving DecidableEq

namespace GameClock

/-- The clock after an outage whose lost turns are recovered. -/
def recover (clock : GameClock) (outage : ClockOutage) : Except String GameClock := do
  let suspension ← clock.suspend .recoverTurns 0 outage.cut
  clock.resume suspension outage.resumeWallAt

/-- The clock after outages one after another. -/
def recoverAll (clock : GameClock) (outages : List ClockOutage) : Except String GameClock :=
  outages.foldlM recover clock

end GameClock

end Sammo
