import Sammo.Time.GameClock

/-! What a clock shows at a wall time, with and without a recovery window. -/

namespace Sammo

/-- Division that rounds up. -/
def ceilDiv (numerator denominator : Int) : Int := -(-numerator / denominator)

/-- The wall time at which a tick comes round under a recovery window. -/
def projectRecoveryDeadline (window : TurnRecoveryWindow) (tick ticksPerSecond : Int) : Except String Int := do
  let tick ← requireSafeTick tick
  let offset := tick - window.startTick
  let span := window.endTick - window.startTick
  if span < offset then
    -- Behind the window the clock is back at its normal speed.
    .ok (window.startWallAt + ceilDiv (span * 1000) (2 * ticksPerSecond) +
      ceilDiv ((offset - span) * 1000) ticksPerSecond)
  else if offset < 0 then .ok (window.startWallAt + ceilDiv (offset * 1000) ticksPerSecond)
  else .ok (window.startWallAt + ceilDiv (offset * 1000) (2 * ticksPerSecond))

/-- The tick at a wall time under a recovery window: double speed inside, normal speed outside. -/
def observeTurnRecovery (window : TurnRecoveryWindow) (wallNow ticksPerSecond : Int) : Except String Int := do
  let speed := if wallNow < window.startWallAt then 1 else 2
  let elapsed ← requireSafeTick (((wallNow - window.startWallAt) * ticksPerSecond * speed).tdiv 1000)
  let endWallAt ← projectRecoveryDeadline window window.endTick ticksPerSecond
  if endWallAt ≤ wallNow then
    requireSafeTick (window.endTick + ((wallNow - endWallAt) * ticksPerSecond).tdiv 1000)
  else requireSafeTick (min window.endTick (window.startTick + elapsed))

namespace GameClock

variable (clock : GameClock)

/-- The tick the clock shows at a wall time. -/
def nowTick (wallNow : Int) : Except String Int :=
  if clock.mode = .manual ∨ clock.phase = .manual ∨ clock.phase = .suspended ∨
      clock.phase = .reconciling ∨ clock.phase = .completed then .ok clock.tick
  else
    match clock.recovery, decide (clock.phase = .running) with
    | some window, true => do
      let observed ← observeTurnRecovery window wallNow clock.ticksPerSecond
      .ok (max clock.tick observed)
    | _, _ => do
      let projected ← addTicks clock.tick (← clock.ticksBetween clock.wallAnchor wallNow)
      -- Only before the opening may the clock show less than it has stored.
      .ok (if clock.phase = .preopen then projected else max clock.tick projected)

/-- The wall time at which a tick comes round. -/
def tickToWallDate (tick : Int) : Except String Int :=
  match clock.recovery with
  | some window => projectRecoveryDeadline window tick clock.ticksPerSecond
  | none => do
    let offset ← tickOffsetMilliseconds (tick - clock.tick) clock.ticksPerSecond
    .ok (clock.wallAnchor + offset)

/-- The tick of the schedule that holds without any recovery. -/
def normalNowTick (wallNow : Int) : Except String Int :=
  match clock.recovery with
  | some window => do
    let endWallAt ← clock.tickToWallDate window.endTick
    addTicks window.endTick (← clock.ticksBetween endWallAt wallNow)
  | none => do addTicks clock.tick (← clock.ticksBetween clock.wallAnchor wallNow)

/-- The instant the clock shows at a wall time. -/
def now (wallNow : Int) : Except String Int := do clock.tickToDate (← clock.nowTick wallNow)

end GameClock

end Sammo
