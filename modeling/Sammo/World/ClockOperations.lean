import Sammo.Time.TurnRecovery
import Sammo.World.InMemoryWorld
import Sammo.World.OfficeRequest

/-! The operations that move the clock of the world kept in memory. -/

namespace Sammo

/-- A reconciliation as the database has decided it. -/
structure DurableClockReconciliationAlignment where
  suspensionId : String
  sourceRevision : Int
  targetRevision : Int
  deadlineGeneration : Int
  alignedTick : Int
  shiftTicks : Int
  resumeWallAt : Int
  resumeAnchor : Option Int
  recovery : Option TurnRecoveryWindow
  positiveTarget : 1 ≤ targetRevision
  validAnchor : ValidDate (resumeAnchor.getD resumeWallAt)
  validRecovery : ∀ window, recovery = some window → window.Valid

/-- The clock columns of the database, as they have been read and checked. -/
structure DurableGameClockSnapshot where
  baseTime : Int
  tick : Int
  mode : GameClockMode
  wallAnchor : Int
  recovery : Option TurnRecoveryWindow
  lastTurnTick : Int
  phase : GameClockPhase
  revision : Int
  deadlineGeneration : Int
  validBase : ValidDate baseTime
  validAnchor : ValidDate wallAnchor
  safeTick : isSafeInteger tick
  safeRevision : isSafeInteger revision ∧ 1 ≤ revision
  validRecovery : ∀ window, recovery = some window → window.Valid

/-- The clock after a reconciliation, waiting for its projection. -/
def GameClock.realign (clock : GameClock) (input : DurableClockReconciliationAlignment)
    (safeTick : isSafeInteger input.alignedTick) (safeTarget : isSafeInteger input.targetRevision) :
    GameClock :=
  { clock with
    tick := input.alignedTick
    wallAnchor := input.resumeAnchor.getD input.resumeWallAt
    recovery := input.recovery
    phase := .reconciling
    revision := input.targetRevision
    validAnchor := input.validAnchor
    safeTick
    safeRevision := ⟨safeTarget, input.positiveTarget⟩
    validRecovery := input.validRecovery }

/-- The clock after it has taken over the database's columns. -/
def GameClock.takeOver (clock : GameClock) (input : DurableGameClockSnapshot) : GameClock :=
  { clock with
    baseTime := input.baseTime
    tick := input.tick
    mode := input.mode
    wallAnchor := input.wallAnchor
    recovery := input.recovery
    phase := input.phase
    revision := input.revision
    validBase := input.validBase
    validAnchor := input.validAnchor
    safeTick := input.safeTick
    safeRevision := input.safeRevision
    validRecovery := input.validRecovery }

/-- The clock in another phase. -/
def GameClock.inPhase (clock : GameClock) (phase : GameClockPhase) : GameClock := { clock with phase }

/-- A general after its deadlines have moved. -/
def shiftGeneral (clock : GameClock) (shiftTicks : Int) (general : General) : Except String General := do
  let turnTick ← match general.turnTick with
    | some tick => GameClock.addTicks tick shiftTicks
    | none => do GameClock.addTicks (← clock.dateToTick general.turnTime) shiftTicks
  let metadata ← shiftOfficeRequestDeadline general.metadata shiftTicks (some clock.tick)
  let turnTime ← clock.tickToDate turnTick
  .ok { general with metadata, turnTick := some turnTick, turnTime }

/-- A candidate after its reservation has moved. -/
def shiftPoolEntry (clock : GameClock) (shiftTicks shiftedMilliseconds : Int)
    (entry : TurnGeneralPoolEntry) : Except String TurnGeneralPoolEntry :=
  match entry.reservedUntilTick with
  | some tick => do
    let reservedUntilTick ← GameClock.addTicks tick shiftTicks
    let reservedUntil ← clock.tickToDate reservedUntilTick
    .ok { entry with reservedUntilTick := some reservedUntilTick, reservedUntil := some reservedUntil }
  | none => .ok { entry with reservedUntil := entry.reservedUntil.map (· + shiftedMilliseconds) }

/-- A checkpoint after it has moved. -/
def shiftCheckpoint (clock : GameClock) (shiftTicks : Int) (checkpoint : TurnCheckpoint) :
    Except String TurnCheckpoint := do
  let turnTick ← match checkpoint.turnTick with
    | some tick => GameClock.addTicks tick shiftTicks
    | none => do GameClock.addTicks (← clock.dateToTick checkpoint.turnTime) shiftTicks
  let turnTime ← clock.tickToDate turnTick
  .ok { checkpoint with turnTick := some turnTick, turnTime }

namespace TurnWorld

/-- Opens the game once the wall has reached the opening. -/
def promotePreopenAtOpening (wallNow : Int) : WorldM Bool := do
  let world ← get
  let clock := world.state.clock
  if clock.phase ≠ .preopen ∨ wallNow < clock.wallAnchor then return false
  else if clock.tick ≠ 0 then
    throw s!"PREOPEN opening invariant requires clock tick zero, found {clock.tick}."
  else
    modify fun world => { world with state := { world.state with clock := world.state.clock.inPhase .running } }
    return true

/-- The suspension the world waits in after its unification. -/
def unificationSuspension (world : TurnWorld) : Option String :=
  (world.state.metadata.get? "unificationClockSuspensionId").bind Json.string?

/-- Suspends the clock until the unified world has chosen how to go on. -/
def beginUnificationWait (suspensionId : String) : WorldM Unit := do
  let world ← get
  let phase := world.state.clock.phase
  if phase = .suspended ∧ world.unificationSuspension = some suspensionId then return ()
  else if phase ≠ .running then
    throw s!"UNIFICATION_WAIT can start only from RUNNING; current phase is {phase.code}."
  else modify fun world => { world with
    state := { world.state with
      clock := world.state.clock.inPhase .suspended
      metadata := world.state.metadata.set "unificationClockSuspensionId" (.str suspensionId) } }

/-- Ends the game. -/
def completeGameClock : WorldM Unit := do
  let world ← get
  let phase := world.state.clock.phase
  if phase = .completed then return ()
  else if phase ≠ .running then
    throw s!"Game clock can complete only from RUNNING; current phase is {phase.code}."
  else modify fun world => { world with state := { world.state with clock := world.state.clock.inPhase .completed } }

/-- Ends a reconciliation. -/
def completeClockReconciliation : WorldM Unit :=
  modify fun world =>
    if world.state.clock.phase = .reconciling then
      { world with state := { world.state with clock := world.state.clock.inPhase .running } }
    else world

/-- Moves every candidate's reservation, one after another. -/
def shiftPoolEntries (clock : GameClock) (shiftTicks shiftedMilliseconds : Int)
    (entries : List TurnGeneralPoolEntry) : Except String (List TurnGeneralPoolEntry) :=
  entries.mapM (shiftPoolEntry clock shiftTicks shiftedMilliseconds)

/-- Moves the clock to a reconciled tick, and every deadline along with it. -/
def applyClockReconciliationAlignment (input : DurableClockReconciliationAlignment) : WorldM Unit := do
  if safe : isSafeInteger input.alignedTick ∧ isSafeInteger input.shiftTicks ∧ 0 ≤ input.shiftTicks ∧
      isSafeInteger input.sourceRevision ∧ isSafeInteger input.targetRevision ∧
      input.targetRevision = input.sourceRevision + 1 ∧ isSafeInteger input.deadlineGeneration then
    let world ← get
    let clock := world.state.clock
    let shiftedMilliseconds := (input.shiftTicks * 1000).tdiv clock.ticksPerSecond
    if ¬ isSafeInteger shiftedMilliseconds then
      throw "In-memory clock reconciliation projection delta is unsafe."
    else
      let lastTurnTick ← Effect.ofExcept (GameClock.addTicks world.state.lastTurnTick input.shiftTicks)
      let lastTurnTime ← Effect.ofExcept (clock.tickToDate lastTurnTick)
      modify fun world => { world with
        state := { world.state with
          clock := clock.realign input safe.1 safe.2.2.2.2.1
          lastTurnTick, lastTurnTime, deadlineGeneration := input.deadlineGeneration } }
      world.generals.rows.entries.forM fun (id, general) => do
        let shifted ← Effect.ofExcept (shiftGeneral clock input.shiftTicks general)
        -- The rows of the database move by themselves, so nothing is marked.
        modify fun world => { world with
          generals := { world.generals with rows := world.generals.rows.set id shifted } }
      match world.generalPoolEntries with
      | none => pure ()
      | some entries =>
        let entries ← Effect.ofExcept (shiftPoolEntries clock input.shiftTicks shiftedMilliseconds entries)
        modify fun world => { world with generalPoolEntries := some entries }
      modify fun world => { world with
        pendingNeutralAuctions := world.pendingNeutralAuctions.map fun auction =>
          { auction with closeAt := auction.closeAt + shiftedMilliseconds } }
      match world.checkpoint with
      | none => pure ()
      | some checkpoint =>
        let checkpoint ← Effect.ofExcept (shiftCheckpoint clock input.shiftTicks checkpoint)
        modify fun world => { world with checkpoint := some checkpoint }
  else throw "In-memory clock reconciliation received an unsafe coordinate."

/-- Reconciles the wait after a unification. -/
def applyClockReconciliation (input : DurableClockReconciliationAlignment) : WorldM Unit := do
  let world ← get
  if world.state.clock.phase ≠ .suspended ∨ world.unificationSuspension ≠ some input.suspensionId then
    throw "In-memory clock reconciliation requires the matching UNIFICATION_WAIT suspension."
  else applyClockReconciliationAlignment { input with sourceRevision := world.state.clock.revision }

/-- Follows a reconciliation of the database. -/
def applyDurableClockReconciliation (input : DurableClockReconciliationAlignment) : WorldM Unit := do
  let world ← get
  let clock := world.state.clock
  if clock.revision = input.targetRevision ∧ clock.phase = .reconciling then return ()
  else if clock.revision ≠ input.sourceRevision then
    throw (s!"Durable clock reconciliation source mismatch: memory {clock.revision}, " ++
      s!"ledger {input.sourceRevision}.")
  else if clock.phase ≠ .running ∧ clock.phase ≠ .suspended then
    throw s!"Durable clock reconciliation cannot apply from in-memory phase {clock.phase.code}."
  else applyClockReconciliationAlignment input

/-- The memory has not opened yet, and the database has, at the same coordinate. -/
def openingTransition (state : TurnWorldState) (input : DurableGameClockSnapshot) : Bool :=
  state.clock.phase = .preopen ∧ input.phase = .running ∧ state.clock.mode = .realtime ∧
    input.mode = .realtime ∧ state.clock.tick = 0 ∧ input.tick = 0 ∧ state.lastTurnTick = 0 ∧
    state.clock.wallAnchor = input.wallAnchor ∧ state.clock.recovery = none ∧ input.recovery = none

/-- The phases the memory may follow the database through. -/
def validTransition (state : TurnWorldState) (input : DurableGameClockSnapshot) : Bool :=
  state.clock.phase = input.phase ∨ openingTransition state input ∨
    (state.clock.phase = .running ∧ input.phase = .suspended) ∨
    (state.clock.phase = .reconciling ∧ input.phase = .running)

/-- Takes over the database's clock, if the memory is at the same turn of the same clock. -/
def synchronizeDurableClockSnapshot (input : DurableGameClockSnapshot) : WorldM Unit := do
  let world ← get
  let state := world.state
  if state.clock.revision ≠ input.revision ∨ state.deadlineGeneration ≠ input.deadlineGeneration then
    throw (s!"Durable clock snapshot generation mismatch: memory {state.clock.revision}/" ++
      s!"{state.deadlineGeneration}, database {input.revision}/{input.deadlineGeneration}.")
  else if state.lastTurnTick ≠ input.lastTurnTick then
    throw (s!"Durable clock snapshot turn cursor mismatch: memory {state.lastTurnTick}, " ++
      s!"database {input.lastTurnTick}.")
  else if state.clock.baseTime ≠ input.baseTime then
    throw (s!"Durable clock snapshot base mismatch: memory {state.clock.baseTime}, " ++
      s!"database {input.baseTime}.")
  else if ¬ validTransition state input then
    throw (s!"Durable clock snapshot phase mismatch: memory {state.clock.phase.code}, " ++
      s!"database {input.phase.code}.")
  else modify fun world => { world with
    state := { world.state with
      clock := world.state.clock.takeOver input, deadlineGeneration := input.deadlineGeneration } }

/-- Moves the clock on to a target, or to what the wall shows if that is later. -/
def advanceGameClockTo (target wallNow : Int) (validWall : ValidDate wallNow) : WorldM Unit := do
  let world ← get
  let clock := world.state.clock
  Effect.ofExcept (assertGameplayCommitAllowed clock.phase)
  let targetTick ← Effect.ofExcept (clock.dateToTick target)
  let observedTick ← if clock.mode = .realtime then Effect.ofExcept (clock.nowTick wallNow)
    else pure clock.tick
  -- Both ticks have been checked, so the later one is safe as well.
  if safe : isSafeInteger (max observedTick targetTick) then
    modify fun world => { world with
      state := { world.state with
        clock := { clock with
          tick := max observedTick targetTick, wallAnchor := wallNow
          safeTick := safe, validAnchor := validWall } } }
  else throw s!"Game tick must be a safe integer: {max observedTick targetTick}"

end TurnWorld

end Sammo
