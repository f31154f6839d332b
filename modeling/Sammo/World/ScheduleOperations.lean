import Sammo.World.ClockOperations

/-! The operations that redraw the schedule of the world: another turn length, a shift, a long backlog. -/

namespace Sammo

/-- The base under which a tick is shown at a given instant when turns have a given length. -/
def GameClock.baseTimeForProjection (projectedTime tick turnSeconds : Int) : Except String Int := do
  let tick ← requireSafeTick tick
  if ¬ (0 < turnSeconds ∧ turnSeconds ∣ (gameTicksPerTurn : Int)) then
    .error s!"turnSeconds {turnSeconds} cannot be represented as integer game ticks."
  else do
    let offset ← tickOffsetMilliseconds tick (gameTicksPerTurn / turnSeconds)
    let baseTime := projectedTime - offset
    if ¬ isSafeInteger baseTime then
      .error s!"Projected game clock base is outside the safe Date range: {baseTime}"
    else if ¬ ValidDate baseTime then .error s!"Projected game clock base is invalid: {baseTime}"
    else .ok baseTime

/-- What a change of the turn length reports. -/
structure TurnTermChange where
  changed : Bool
  previousTurnTermMinutes : ℚ
  turnTermMinutes : Int
  previousClockBaseTime : Int
  clockBaseTime : Int
  shiftedGenerals : Nat
  lastTurnTime : Int
  deriving DecidableEq

/-- What a shift of the schedule reports. -/
structure ScheduleShift where
  shiftedGenerals : Nat
  lastTurnTime : Int
  deriving DecidableEq

/-- The ticks of a general's next turn and of its last war, as a clock sees them. -/
def generalTicks (clock : GameClock) (general : General) : Except String (Int × Option Int) := do
  let turnTick ← match general.turnTick with
    | some tick => .ok tick
    | none => clock.dateToTick general.turnTime
  let recentWarTick ← match general.recentWarTick, general.recentWarTime with
    | some (some tick), _ => .ok (some tick)
    | _, some time => (clock.dateToTick time).map some
    | _, none => .ok none
  .ok (turnTick, recentWarTick)

/-- The patch that shows a general's ticks on another clock. -/
def projectGeneralTicks (clock : GameClock) (turnTick : Int) (recentWarTick : Option Int) :
    Except String GeneralPatch := do
  let turnTime ← clock.tickToDate turnTick
  let recentWarTime ← match recentWarTick with
    | some tick => (clock.tickToDate tick).map some
    | none => .ok none
  .ok { turnTick := some turnTick, turnTime := some turnTime
        recentWarTick := some recentWarTick, recentWarTime := some recentWarTime }

/-- A checkpoint with its tick shown on another clock. -/
def reprojectCheckpoint (previous next : GameClock) (checkpoint : TurnCheckpoint) :
    Except String TurnCheckpoint := do
  let turnTick ← match checkpoint.turnTick with
    | some tick => .ok tick
    | none => previous.dateToTick checkpoint.turnTime
  let turnTime ← next.tickToDate turnTick
  .ok { checkpoint with turnTick := some turnTick, turnTime }

namespace TurnWorld

/-- Shows every general's ticks on another clock. -/
def reprojectGenerals (previous next : GameClock) (generals : List (Int × General)) : WorldM Unit :=
  generals.forM fun (id, general) => do
    let (turnTick, recentWarTick) ← Effect.ofExcept (generalTicks previous general)
    let patch ← Effect.ofExcept (projectGeneralTicks next turnTick recentWarTick)
    discard (updateGeneral id patch)

/-- The recovery window of a clock is not over at a wall time. -/
def recoveryActive (clock : GameClock) (wallNow : Int) : Except String Bool :=
  match clock.recovery with
  | none => .ok false
  | some window => do
    let endWallAt ← clock.tickToWallDate window.endTick
    .ok (wallNow < endWallAt)

/--
Gives the turns another length.

The present tick keeps the instant it is shown at, and all other ticks are shown relative to it. The copies of the
times that the metadata keeps as texts are left out.
-/
def changeTurnTerm (tickMinutes wallNow : Int) : WorldM TurnTermChange := do
  if tickMinutes ≤ 0 then throw "Turn term must be a positive integer."
  else
    let world ← get
    let previous := world.state.clock
    let nextTickSeconds := tickMinutes * 60
    if (previous.turnSeconds : Int) = nextTickSeconds then
      updateWorldConfig [("turnTermMinutes", .num tickMinutes)]
      return ⟨false, (previous.turnSeconds : ℚ) / 60, tickMinutes, previous.baseTime, previous.baseTime, 0,
        world.state.lastTurnTime⟩
    else
      if ← Effect.ofExcept (recoveryActive previous wallNow) then
        throw "복구가 끝난 뒤 기본 턴 길이를 변경할 수 있습니다."
      else
        let anchorWall := if wallNow < previous.wallAnchor then previous.wallAnchor else wallNow
        let anchorTick ← Effect.ofExcept (previous.nowTick anchorWall)
        let anchorDisplay ← Effect.ofExcept (previous.tickToDate anchorTick)
        let nextBaseTime ← Effect.ofExcept
          (GameClock.baseTimeForProjection anchorDisplay anchorTick nextTickSeconds)
        let next ← Effect.ofExcept (GameClock.create
          { baseTime := nextBaseTime, tick := anchorTick, mode := previous.mode, wallAnchor := anchorWall
            turnSeconds := nextTickSeconds, phase := some previous.phase
            revision := some previous.revision, recovery := none })
        let lastTurnTime ← Effect.ofExcept (next.tickToDate world.state.lastTurnTick)
        modify fun world => { world with
          schedule := ⟨⟨0, tickMinutes⟩, []⟩
          state := { world.state with
            clock := next, lastTurnTime
            metadata := world.state.metadata.set "turnterm" (.num tickMinutes) } }
        updateWorldConfig [("turnTermMinutes", .num tickMinutes)]
        reprojectGenerals previous next world.generals.rows.entries
        match world.checkpoint with
        | none => pure ()
        | some checkpoint =>
          let checkpoint ← Effect.ofExcept (reprojectCheckpoint previous next checkpoint)
          modify fun world => { world with checkpoint := some checkpoint }
        return ⟨true, (previous.turnSeconds : ℚ) / 60, tickMinutes, previous.baseTime, nextBaseTime,
          world.generals.rows.entries.length, lastTurnTime⟩

/-- The clock of a schedule that has been shifted; only what is shown moves until the state takes it over. -/
def shiftedBase (clock : GameClock) (deltaMilliseconds : Int) : GameClockState :=
  { baseTime := clock.baseTime + deltaMilliseconds, tick := clock.tick, mode := clock.mode
    wallAnchor := clock.wallAnchor, turnSeconds := clock.turnSeconds, phase := some clock.phase
    revision := some clock.revision, recovery := clock.recovery }

/-- The clock the world keeps after a shift: its base, its anchor and its window have all moved. -/
def shiftedAnchors (clock : GameClock) (deltaMilliseconds : Int) : GameClockState :=
  { shiftedBase clock deltaMilliseconds with
    wallAnchor := clock.wallAnchor + deltaMilliseconds
    recovery := clock.recovery.map fun window =>
      { window with startWallAt := window.startWallAt + deltaMilliseconds } }

/--
Shifts the schedule by whole turns.

The ticks stay, and the instants at which they are shown move. The copies of the times that the metadata keeps as
texts are left out.
-/
def shiftSchedule (deltaMinutes : Int) : WorldM ScheduleShift := do
  let world ← get
  let previous := world.state.clock
  if deltaMinutes = 0 then throw "Schedule shift must be a non-zero integer number of minutes."
  else if (deltaMinutes * 60).tmod previous.turnSeconds ≠ 0 then
    throw "일정 이동은 현재 턴 길이의 정수 배수여야 합니다."
  else
    let deltaMilliseconds := deltaMinutes * 60000
    let ticks ← Effect.ofExcept (world.generals.rows.entries.mapM fun entry => generalTicks previous entry.2)
    let shifted ← Effect.ofExcept (GameClock.create (shiftedBase previous deltaMilliseconds))
    let lastTurnTime ← Effect.ofExcept (shifted.tickToDate world.state.lastTurnTick)
    -- A clock whose moved anchors are no dates is refused when it is next read.
    let kept ← Effect.ofExcept (GameClock.create (shiftedAnchors previous deltaMilliseconds))
    modify fun world => { world with state := { world.state with clock := kept, lastTurnTime } }
    (world.generals.rows.keys.zip ticks).forM fun (id, turnTick, recentWarTick) => do
      let patch ← Effect.ofExcept (projectGeneralTicks shifted turnTick recentWarTick)
      discard (updateGeneral id patch)
    modify fun world => { world with
      pendingNeutralAuctions := world.pendingNeutralAuctions.map fun auction =>
        { auction with closeAt := auction.closeAt + deltaMilliseconds }
      generalPoolEntries := world.generalPoolEntries.map fun entries => entries.map fun entry =>
        { entry with reservedUntil := entry.reservedUntil.map (· + deltaMilliseconds) }
      checkpoint := world.checkpoint.map fun checkpoint =>
        { checkpoint with turnTime := checkpoint.turnTime + deltaMilliseconds } }
    return ⟨world.generals.rows.entries.length, lastTurnTime⟩

end TurnWorld

end Sammo
