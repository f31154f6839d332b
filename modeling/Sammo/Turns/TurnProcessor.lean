import Mathlib.Data.Prod.Lex
import Sammo.World.GeneralTurn

/-! The grid of the turns, counted out from the night before, and worlds that agree on the clock. -/

namespace Sammo

/-- One in the night of the day before, in local time, from which the months are counted out. -/
def getCutTurnBase (zoneMinutes time : Int) : Int :=
  -- The local clock is ahead of the stored instants by the zone's minutes.
  let localDay := (time + zoneMinutes * 60000) / 86400000
  (localDay - 1) * 86400000 + 3600000 - zoneMinutes * 60000

/-- The first boundary of the turn grid after an instant. -/
def getNextTickTime (zoneMinutes lastTurnTime turnTermMinutes : Int) : Int :=
  let base := getCutTurnBase zoneMinutes lastTurnTime
  let elapsedMinutes := (lastTurnTime - base) / 60000
  -- The minutes since the last boundary are cut off before one term is added.
  let alignedMinutes := elapsedMinutes - elapsedMinutes % turnTermMinutes
  base + (alignedMinutes + turnTermMinutes) * 60000

/-- The clock and the last turn are where they were. -/
structure SameClock (before after : TurnWorld) : Prop where
  clock : after.state.clock = before.state.clock
  lastTurnTick : after.state.lastTurnTick = before.state.lastTurnTick
  lastTurnTime : after.state.lastTurnTime = before.state.lastTurnTime

end Sammo
