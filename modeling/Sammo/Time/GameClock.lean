import Mathlib.Data.Int.Basic
import Sammo.Data.Json

/-! The game clock: integer ticks over a wall anchor, with the range checks the program makes. -/

namespace Sammo

/-- Where the game clock stands in its life cycle. -/
inductive GameClockPhase where
  | preopen
  | running
  | suspended
  | reconciling
  | manual
  | completed
  deriving DecidableEq

/-- The name of a phase. -/
def GameClockPhase.code : GameClockPhase → String
  | .preopen => "PREOPEN"
  | .running => "RUNNING"
  | .suspended => "SUSPENDED"
  | .reconciling => "RECONCILING"
  | .manual => "MANUAL"
  | .completed => "COMPLETED"

/-- Whether the clock follows the wall or only moves by hand. -/
inductive GameClockMode where
  | realtime
  | manual
  deriving DecidableEq

/-- Ticks in one game turn. -/
def gameTicksPerTurn : Nat := 36000000

/-- An instant in milliseconds that a date object can hold. -/
def ValidDate (milliseconds : Int) : Prop := -8640000000000000 ≤ milliseconds ∧ milliseconds ≤ 8640000000000000

instance (milliseconds : Int) : Decidable (ValidDate milliseconds) := inferInstanceAs (Decidable (_ ∧ _))

/-- Accepts a safe tick. -/
def requireSafeTick (tick : Int) : Except String Int :=
  if isSafeInteger tick then .ok tick else .error s!"Game tick must be a safe integer: {tick}"

/-- Accepts a positive safe revision. -/
def asClockRevision (revision : Int) : Except String Int :=
  if isSafeInteger revision ∧ 1 ≤ revision then .ok revision
  else .error s!"Clock revision must be a positive safe integer: {revision}"

/-- The phase a clock has when none is stored. -/
def inferClockPhase : GameClockMode → GameClockPhase
  | .manual => .manual
  | .realtime => .running

/-- A window in which the clock runs at double speed until it joins the normal schedule. -/
structure TurnRecoveryWindow where
  startTick : Int
  endTick : Int
  startWallAt : Int
  deriving DecidableEq

/-- A recovery window ends at a turn boundary after a span of under twenty-five turns. -/
def TurnRecoveryWindow.Valid (window : TurnRecoveryWindow) : Prop :=
  isSafeInteger window.startTick ∧ isSafeInteger window.endTick ∧ ValidDate window.startWallAt ∧
    window.endTick % gameTicksPerTurn = 0 ∧ 0 < window.endTick - window.startTick ∧
    window.endTick - window.startTick < 25 * gameTicksPerTurn

instance (window : TurnRecoveryWindow) : Decidable window.Valid :=
  inferInstanceAs (Decidable (_ ∧ _ ∧ _ ∧ _ ∧ _ ∧ _))

/-- A clock whose anchors, rate and revision have been validated. -/
structure GameClock where
  baseTime : Int
  tick : Int
  mode : GameClockMode
  wallAnchor : Int
  turnSeconds : Nat
  phase : GameClockPhase
  revision : Int
  recovery : Option TurnRecoveryWindow
  positive : 0 < turnSeconds
  divides : turnSeconds ∣ gameTicksPerTurn
  validBase : ValidDate baseTime
  validAnchor : ValidDate wallAnchor
  safeTick : isSafeInteger tick
  safeRevision : isSafeInteger revision ∧ 1 ≤ revision
  validRecovery : ∀ window, recovery = some window → window.Valid

/-- The values a clock is built from. -/
structure GameClockState where
  baseTime : Int
  tick : Int
  mode : GameClockMode
  wallAnchor : Int
  turnSeconds : Int
  phase : Option GameClockPhase
  revision : Option Int
  recovery : Option TurnRecoveryWindow
  deriving DecidableEq

/-- The smallest whole millisecond offset at or before a tick. -/
def tickOffsetMilliseconds (tick ticksPerSecond : Int) : Except String Int :=
  let wholeSeconds := tick / ticksPerSecond
  let remainingTicks := tick - wholeSeconds * ticksPerSecond
  let milliseconds := wholeSeconds * 1000 + remainingTicks * 1000 / ticksPerSecond
  if isSafeInteger milliseconds then .ok milliseconds
  else .error s!"Game tick offset is outside the safe millisecond range: {milliseconds}"

namespace GameClock

/-- Builds a clock, refusing the first value that is out of range. -/
def create (state : GameClockState) : Except String GameClock :=
  if positive : 0 < state.turnSeconds then
    if divides : state.turnSeconds.toNat ∣ gameTicksPerTurn then
      if dates : ValidDate state.baseTime ∧ ValidDate state.wallAnchor then
        if safeTick : isSafeInteger state.tick then
          if safeRevision : isSafeInteger (state.revision.getD 1) ∧ 1 ≤ state.revision.getD 1 then
            if validRecovery : ∀ window, state.recovery = some window → window.Valid then
              .ok
                { baseTime := state.baseTime, tick := state.tick, mode := state.mode
                  wallAnchor := state.wallAnchor, turnSeconds := state.turnSeconds.toNat
                  phase := state.phase.getD (inferClockPhase state.mode)
                  revision := state.revision.getD 1, recovery := state.recovery
                  positive := by omega, divides, validBase := dates.1, validAnchor := dates.2
                  safeTick, safeRevision, validRecovery }
            else .error ("Recovery must end at a turn boundary with a positive span below " ++
              "twenty-five turns.")
          else .error s!"Clock revision must be a positive safe integer: {state.revision.getD 1}"
        else .error s!"Game tick must be a safe integer: {state.tick}"
      else .error "Game clock anchors must be valid dates."
    else .error s!"turnSeconds {state.turnSeconds} cannot be represented as integer game ticks."
  else .error "turnSeconds must be a positive integer."

variable (clock : GameClock)

/-- The clock's rate, a whole number because the turn length divides the ticks of a turn. -/
def ticksPerSecond : Int := (gameTicksPerTurn / clock.turnSeconds : Nat)

/-- The signed ticks between two instants, rounded towards zero. -/
def ticksBetween (origin target : Int) : Except String Int :=
  let milliseconds := target - origin
  if isSafeInteger milliseconds then
    let wholeSeconds := milliseconds.tdiv 1000
    let remainingMilliseconds := milliseconds - wholeSeconds * 1000
    requireSafeTick (wholeSeconds * clock.ticksPerSecond +
      (remainingMilliseconds * clock.ticksPerSecond).tdiv 1000)
  else .error "Game clock date difference is outside the safe integer range."

/-- The tick of an instant. -/
def dateToTick (date : Int) : Except String Int := do
  requireSafeTick (← clock.ticksBetween clock.baseTime date)

/-- The instant of a tick. -/
def tickToDate (tick : Int) : Except String Int := do
  let tick ← requireSafeTick tick
  let milliseconds ← tickOffsetMilliseconds tick clock.ticksPerSecond
  let projected := clock.baseTime + milliseconds
  -- The date range lies inside the safe integers, so one failing range decides the message.
  if ¬ isSafeInteger projected then
    .error s!"Projected game time is outside the safe Date range: {projected}"
  else if ¬ ValidDate projected then .error s!"Projected game time is invalid: {projected}"
  else .ok projected

/-- Moves a tick by a safe amount to a safe tick. -/
def addTicks (tick delta : Int) : Except String Int := do
  let delta ← requireSafeTick delta
  requireSafeTick (tick + delta)

end GameClock

theorem GameClock.ticksPerSecond_pos (clock : GameClock) : 0 < clock.ticksPerSecond := by
  -- A positive divisor of a positive number has a positive cofactor.
  have below : clock.turnSeconds ≤ gameTicksPerTurn := Nat.le_of_dvd (by decide) clock.divides
  have quotient : 0 < gameTicksPerTurn / clock.turnSeconds := Nat.div_pos below clock.positive
  exact Int.natCast_pos.mpr quotient

end Sammo
