import Sammo.World.ClockOperations

/-! A running daemon catches up with the reconciliations that the database has made of its clock. -/

namespace Sammo.RuntimeClockAuthority

open TurnWorld

/-- The columns of a recovery window; a text of an instant stands for the instant. -/
structure RecoveryColumns where
  clockRecoveryStartTick : Option Int
  clockRecoveryEndTick : Option Int
  clockRecoveryStartWallAt : Option Int
  deriving DecidableEq

/-- A recovery window that has passed its check. -/
abbrev CheckedRecovery := { recovery : Option TurnRecoveryWindow // ∀ window, recovery = some window → window.Valid }

theorem noWindow_valid (window : TurnRecoveryWindow) (same : none = some window) : window.Valid := by
  cases same

/-- Reads the window from its columns, all of which are set or none. -/
def readTurnRecovery (row : RecoveryColumns) : Except String CheckedRecovery :=
  match row.clockRecoveryStartTick, row.clockRecoveryEndTick, row.clockRecoveryStartWallAt with
  | none, none, none => .ok ⟨none, noWindow_valid⟩
  | some startTick, some endTick, some startWallAt => do
    let startTick ← requireSafeTick startTick
    let endTick ← requireSafeTick endTick
    if valid : (⟨startTick, endTick, startWallAt⟩ : TurnRecoveryWindow).Valid then
      .ok ⟨some ⟨startTick, endTick, startWallAt⟩, fun _ same => Option.some.inj same ▸ valid⟩
    else .error "Recovery must end at a turn boundary with a positive span below twenty-five turns."
  | _, _, _ => .error "Incomplete durable turn recovery window."

/-- Reads the window from the detail of a ledger. -/
def readSerializedTurnRecovery (detail : RecoveryColumns) : Except String CheckedRecovery :=
  match detail.clockRecoveryStartTick, detail.clockRecoveryEndTick, detail.clockRecoveryStartWallAt with
  | none, none, none => .ok ⟨none, noWindow_valid⟩
  | some _, some _, some _ => readTurnRecovery detail
  | _, _, _ => .error "Incomplete serialized recovery window."

/-- The phase that a column names. -/
def parseGameClockPhase : String → Except String GameClockPhase
  | "PREOPEN" => .ok .preopen
  | "RUNNING" => .ok .running
  | "SUSPENDED" => .ok .suspended
  | "RECONCILING" => .ok .reconciling
  | "MANUAL" => .ok .manual
  | "COMPLETED" => .ok .completed
  | value => .error s!"Unknown game clock phase: {value}"

/-- The clock columns of the world's row. -/
structure WorldClockRow where
  id : Int
  clockBaseTime : Option Int
  clockTick : Option Int
  clockMode : String
  clockWallAnchor : Option Int
  recovery : RecoveryColumns
  lastTurnTick : Option Int
  clockPhase : String
  clockRevision : Int
  deadlineGeneration : Int
  validBase : ∀ date ∈ clockBaseTime, ValidDate date
  validAnchor : ∀ date ∈ clockWallAnchor, ValidDate date

/-- The ledger of a suspension, which is completed when it is reconciled. -/
structure ClockSuspensionRow where
  id : String
  worldStateId : Int
  status : String
  sourceRevision : Int
  targetRevision : Int
  shiftTicks : Option Int
  alignedTick : Option Int
  resumeWallAt : Option Int
  detail : RecoveryColumns
  validResume : ∀ date ∈ resumeWallAt, ValidDate date

/-- What the database holds of the clock: the first row of the world, and the ledgers in any order. -/
structure ClockDatabase where
  worldState : Option WorldClockRow
  clockSuspensions : List ClockSuspensionRow

/-- A number that fits the safe integers. -/
def safeNumber (value : Int) (label : String) : Except String { number : Int // isSafeInteger number } :=
  if safe : isSafeInteger value then .ok ⟨value, safe⟩
  else .error s!"{label} is outside the JavaScript safe integer range: {value}."

/-- The columns of a clock that is fully initialized. -/
structure DurableClock where
  row : WorldClockRow
  baseTime : Int
  tick : Int
  wallAnchor : Int
  lastTurnTick : Int
  sameBase : row.clockBaseTime = some baseTime
  sameTick : row.clockTick = some tick
  sameAnchor : row.clockWallAnchor = some wallAnchor
  sameLastTurn : row.lastTurnTick = some lastTurnTick

/-- The clock of the first row, if none of its columns is missing. -/
def initializedClock (worldState : Option WorldClockRow) : Except String DurableClock :=
  match worldState with
  | none => .error "Runtime clock synchronization requires one fully initialized world clock."
  | some row =>
    match sameBase : row.clockBaseTime, sameTick : row.clockTick, sameAnchor : row.clockWallAnchor,
      sameLastTurn : row.lastTurnTick with
    | some baseTime, some tick, some wallAnchor, some lastTurnTick =>
      .ok ⟨row, baseTime, tick, wallAnchor, lastTurnTick, sameBase, sameTick, sameAnchor, sameLastTurn⟩
    | _, _, _, _ => .error "Runtime clock synchronization requires one fully initialized world clock."

/-- The ledgers behind a revision and up to the database's, by their source. -/
def findLedgers (db : ClockDatabase) (durable : WorldClockRow) (revision : Int) : List ClockSuspensionRow :=
  (db.clockSuspensions.filter fun ledger => ledger.worldStateId = durable.id ∧ revision ≤ ledger.sourceRevision ∧
    ledger.targetRevision ≤ durable.clockRevision ∧
    (ledger.status = "RECONCILING" ∨ ledger.status = "APPLIED")).insertionSort fun left right =>
      left.sourceRevision ≤ right.sourceRevision

/-- The reconciliation that a ledger records, at the revision that is expected next. -/
def ledgerAlignment (expectedRevision expectedGeneration : Int) (positive : 1 ≤ expectedRevision)
    (ledger : ClockSuspensionRow) : Except String DurableClockReconciliationAlignment := do
  let sourceRevision ← safeNumber ledger.sourceRevision s!"clock suspension {ledger.id} source revision"
  let targetRevision ← safeNumber ledger.targetRevision s!"clock suspension {ledger.id} target revision"
  if continuous : sourceRevision.1 = expectedRevision ∧ targetRevision.1 = sourceRevision.1 + 1 then
    match ledger.shiftTicks, ledger.alignedTick, resumed : ledger.resumeWallAt with
    | some shiftTicks, some alignedTick, some resumeWallAt => do
      let alignedTick ← safeNumber alignedTick s!"clock suspension {ledger.id} aligned tick"
      let shiftTicks ← safeNumber shiftTicks s!"clock suspension {ledger.id} shift ticks"
      let recovery ← readSerializedTurnRecovery ledger.detail
      .ok
        { suspensionId := ledger.id
          sourceRevision := sourceRevision.1
          targetRevision := targetRevision.1
          deadlineGeneration := expectedGeneration + 1
          alignedTick := alignedTick.1
          shiftTicks := shiftTicks.1
          resumeWallAt
          resumeAnchor := none
          recovery := recovery.1
          positiveTarget := by omega
          validAnchor := ledger.validResume resumeWallAt resumed
          validRecovery := recovery.2 }
    | _, _, _ => .error s!"Clock suspension {ledger.id} has no completed reconciliation coordinate."
  else
    .error (s!"Clock suspension ledger chain is discontinuous at {ledger.id}: expected {expectedRevision}->" ++
      s!"{expectedRevision + 1}, found {sourceRevision.1}->{targetRevision.1}.")

theorem nextRevision_pos {revision : Int} (positive : 1 ≤ revision) : 1 ≤ revision + 1 := by
  omega

/-- Replays ledgers one after another; each leads to the next revision and generation. -/
def replayLedgers (expectedRevision expectedGeneration : Int) (positive : 1 ≤ expectedRevision) :
    List ClockSuspensionRow → WorldM (Int × Int)
  | [] => return (expectedRevision, expectedGeneration)
  | ledger :: rest => do
    applyDurableClockReconciliation
      (← Effect.ofExcept (ledgerAlignment expectedRevision expectedGeneration positive ledger))
    replayLedgers (expectedRevision + 1) (expectedGeneration + 1) (nextRevision_pos positive) rest

/-- The snapshot that the world takes over, at a revision and a generation that have been read. -/
def durableSnapshot (durable : DurableClock) (revision generation : Int)
    (safeRevision : isSafeInteger revision ∧ 1 ≤ revision) : Except String DurableGameClockSnapshot := do
  let tick ← safeNumber durable.tick "durable clock tick"
  let recovery ← readTurnRecovery durable.row.recovery
  let lastTurnTick ← safeNumber durable.lastTurnTick "durable last turn tick"
  let phase ← parseGameClockPhase durable.row.clockPhase
  .ok
    { baseTime := durable.baseTime
      tick := tick.1
      mode := if durable.row.clockMode = "manual" then .manual else .realtime
      wallAnchor := durable.wallAnchor
      recovery := recovery.1
      lastTurnTick := lastTurnTick.1
      phase
      revision
      deadlineGeneration := generation
      validBase := durable.row.validBase _ durable.sameBase
      validAnchor := durable.row.validAnchor _ durable.sameAnchor
      safeTick := tick.2
      safeRevision
      validRecovery := recovery.2 }

/-- Replays the ledgers that are missing up to the database's revision and generation. -/
def replayMissing (db : ClockDatabase) (durable : DurableClock) (revision generation : Int) : WorldM Unit := do
  let world ← get
  let before := world.state.clock
  if before.revision < revision then do
    let ended ← replayLedgers before.revision world.state.deadlineGeneration before.safeRevision.2
      (findLedgers db durable.row before.revision)
    if ended.1 ≠ revision ∨ ended.2 ≠ generation then
      throw (s!"Clock suspension ledger chain ended at {ended.1}/{ended.2}, " ++
        s!"but durable clock is {revision}/{generation}.")
    else return ()
  else return ()

/-- The clocks differ in what a daemon reacts to. -/
def clockChanged (before after : TurnWorldState) : Bool :=
  before.clock.phase ≠ after.clock.phase ∨ before.clock.revision ≠ after.clock.revision ∨
    before.deadlineGeneration ≠ after.deadlineGeneration ∨ before.clock.tick ≠ after.clock.tick ∨
    before.clock.wallAnchor ≠ after.clock.wallAnchor

/-- Brings the world to the database's clock, and tells whether it has changed. -/
def synchronizeRuntimeClockAuthorityUnderHeldLock (db : ClockDatabase) : WorldM Bool := do
  let durable ← Effect.ofExcept (initializedClock db.worldState)
  let world ← get
  let durableRevision ← Effect.ofExcept (safeNumber durable.row.clockRevision "durable clock revision")
  let durableGeneration ← Effect.ofExcept (safeNumber durable.row.deadlineGeneration "durable deadline generation")
  if notAhead : world.state.clock.revision ≤ durableRevision.1 then do
    replayMissing db durable durableRevision.1 durableGeneration.1
    synchronizeDurableClockSnapshot (← Effect.ofExcept (durableSnapshot durable durableRevision.1
      durableGeneration.1 ⟨durableRevision.2, world.state.clock.safeRevision.2.trans notAhead⟩))
    let final ← get
    return clockChanged world.state final.state
  else
    throw (s!"In-memory clock revision {world.state.clock.revision} is ahead of durable revision " ++
      s!"{durableRevision.1}.")

end Sammo.RuntimeClockAuthority
