import Sammo.Clock.ProjectionOutbox
import Sammo.World.ScheduleOperations

/-! The deadlines of the tournament kept in Redis: everyone who writes them, and the clocks they are written under. -/

namespace Sammo

/-- The tournament's record in Redis, with the clock shifts it has taken so far. -/
structure TournamentRecord extends TournamentState where
  runtimeClockShiftActionIds : List String
  deriving DecidableEq

/-- The clock a writer of the record works under, as it was read from the database. -/
structure TournamentClockContext where
  clock : GameClock
  deadlineGeneration : Int

/-- The Redis keys that fence the writers of the record. -/
structure ClockFenceKeys where
  activeRevision : Option Int
  deadlineGeneration : Option Int
  phase : Option GameClockPhase
  deriving DecidableEq

/-- The keys that stand for a context. -/
def TournamentClockContext.fence (context : TournamentClockContext) : ClockFenceKeys :=
  ⟨some context.clock.revision, some context.deadlineGeneration, some context.clock.phase⟩

/-- The fence keys after their bootstrap, if a context may write behind them. -/
def ensureActiveRedisClockFence (keys : ClockFenceKeys) (context : TournamentClockContext) :
    Option ClockFenceKeys :=
  if context.clock.phase ≠ .running then none
  else if keys = ⟨none, none, none⟩ then some context.fence
  else if keys = context.fence then some keys
  else none

/-- The tick of a deadline; an instant that is missing stands for a text that is no date. -/
def parseDeadlineTick (value : Option Int) (context : TournamentClockContext) (field : String) :
    Except String Int :=
  match value with
  | some date => context.clock.dateToTick date
  | none => .error s!"Tournament {field} is not a valid instant."

/-- The tick of the closing of the bets, where there is one. -/
def stampBettingClose (bettingCloseAt : Option Int) (context : TournamentClockContext) :
    Except String (Option Int) :=
  match bettingCloseAt with
  | some _ => (parseDeadlineTick bettingCloseAt context "bettingCloseAt").map some
  | none => .ok none

/-- The record with the ticks of its dates, and with the clock that computed them. -/
def stampTournamentClock (state : TournamentRecord) (context : TournamentClockContext) :
    Except String TournamentRecord := do
  let nextTick ← parseDeadlineTick state.nextAt context "nextAt"
  let bettingCloseTick ← stampBettingClose state.bettingCloseAt context
  .ok { state with
    nextTick := some nextTick, bettingCloseTick
    clockRevision := some context.clock.revision
    deadlineGeneration := some context.deadlineGeneration }

/-- Writes the record under a context: stamped, and only while the fence still stands for the context. -/
def TournamentStore.setState (keys : ClockFenceKeys) (context : TournamentClockContext)
    (state : TournamentRecord) : Except String TournamentRecord := do
  let stamped ← stampTournamentClock state context
  if keys = context.fence then .ok stamped
  else .error "Tournament projection clock revision fence failed."

/-- What the writers under a context hand to the store; `rest` stands for the fields without a deadline. -/
inductive TournamentEdit where
  | start (gameNow : Int) (rest : String)
  | setState (stage : Int) (nextAt bettingCloseAt : Option Int) (rest : String)
  | patchState (stage : Option Int) (nextAt bettingCloseAt : Option (Option Int)) (rest : String)
  | cancel (gameNow : Int) (rest : String)
  | workerTick (stage : Int) (nextAt bettingCloseAt : Option Int) (rest : String)
  deriving DecidableEq

/-- A record that is written anew, without ticks and without the shifts of the record before it. -/
def newRecord (stage : Int) (nextAt bettingCloseAt : Option Int) (rest : String) : TournamentRecord :=
  { stage, nextAt, nextTick := none, bettingCloseAt, bettingCloseTick := none, clockRevision := none
    deadlineGeneration := none, rest, runtimeClockShiftActionIds := [] }

/-- The record that an edit makes of the current one. -/
def TournamentEdit.edited (current : Option TournamentRecord) : TournamentEdit → Except String TournamentRecord
  | .start gameNow rest => .ok (newRecord 1 (some (gameNow + 60000)) none rest)
  | .setState stage nextAt bettingCloseAt rest => .ok (newRecord stage nextAt bettingCloseAt rest)
  | .patchState stage nextAt bettingCloseAt rest =>
    match current with
    | some current =>
      .ok { current with
        stage := stage.getD current.stage, nextAt := nextAt.getD current.nextAt
        bettingCloseAt := bettingCloseAt.getD current.bettingCloseAt, rest }
    | none => .error "Tournament state not found."
  | .cancel gameNow rest =>
    match current with
    | some current => .ok { current with stage := 0, bettingCloseAt := none, nextAt := some gameNow, rest }
    | none => .error "Tournament state not found."
  | .workerTick stage nextAt bettingCloseAt rest =>
    -- The worker spreads the record it has read, so the shifts taken so far stay on it.
    match current with
    | some current => .ok { current with stage, nextAt, bettingCloseAt, rest }
    | none => .error "Tournament state not found."

/-- A deadline's date, moved by minutes. -/
def shiftDateText (value : Option Int) (deltaMinutes : Int) : Option Int :=
  value.map (· + deltaMinutes * 60000)

/-- The record after a runtime clock shift; a shift it has already taken leaves it as it is. -/
def shiftTournamentClock (actionId : String) (deltaMinutes : Int) (state : TournamentRecord) :
    TournamentRecord :=
  if actionId ∈ state.runtimeClockShiftActionIds then state
  else { state with
    nextAt := shiftDateText state.nextAt deltaMinutes
    bettingCloseAt := shiftDateText state.bettingCloseAt deltaMinutes
    runtimeClockShiftActionIds := state.runtimeClockShiftActionIds ++ [actionId] }

/-- The record of a tournament that starts by itself at the turn of a month. -/
def autoStartRecord (clock : GameClock) (generation now termSeconds : Int) (rest : String) :
    Except String TournamentRecord := do
  let nextAt := now + termSeconds * 60000
  let nextTick ← clock.dateToTick nextAt
  .ok { newRecord 1 (some nextAt) none rest with
    nextTick := some nextTick
    clockRevision := some clock.revision
    deadlineGeneration := some generation }

/-- The clock after a shift of the schedule: its dates move and its revision stays. -/
def GameClock.shiftSchedule (clock : GameClock) (deltaMinutes : Int) : Except String GameClock :=
  if deltaMinutes = 0 then .error "Schedule shift must be a non-zero integer number of minutes."
  else if (deltaMinutes * 60).tmod clock.turnSeconds ≠ 0 then
    .error "일정 이동은 현재 턴 길이의 정수 배수여야 합니다."
  else GameClock.create (TurnWorld.shiftedAnchors clock (deltaMinutes * 60000))

/-- The record after the projection of a reconciliation. -/
def projectRecord (record : Option TournamentRecord) (payload : ProjectionPayload) (clock : GameClock) :
    Except String (Option TournamentRecord) := do
  let projected ← projectTournamentState (record.map (·.toTournamentState)) payload clock
  match record, projected with
  | some record, some (_, next) => .ok (some { record with toTournamentState := next })
  | record, _ => .ok record

/-- The outbox row that a reconciliation leaves. -/
def reconciliationPayload (clock : GameClock) (generation : Int)
    (input : DurableClockReconciliationAlignment) : ProjectionPayload :=
  { profileName := "", suspensionId := input.suspensionId, sourceRevision := input.sourceRevision
    targetRevision := input.targetRevision, deadlineGeneration := generation, shiftTicks := input.shiftTicks
    projectionDeltaMilliseconds := (input.shiftTicks * 1000).tdiv clock.ticksPerSecond
    clockBaseTime := clock.baseTime, ticksPerSecond := clock.ticksPerSecond }

/-- The clock that the projection's worker builds from its row and from the world's. -/
def recordProjectionClock (payload : ProjectionPayload) (clock : GameClock) : Except String GameClock :=
  GameClock.create
    { baseTime := payload.clockBaseTime, tick := clock.tick, mode := clock.mode
      wallAnchor := clock.wallAnchor, turnSeconds := clock.turnSeconds
      phase := some .reconciling, revision := some payload.targetRevision, recovery := none }

/--
The clock, the record and everyone at work on it.

`shifts` lists the shifts that the engine has carried out; `clocks` remembers the latest clock of each revision.
-/
structure DeadlineWorld (ι : Type) where
  clock : GameClock
  deadlineGeneration : Int
  outbox : Option ProjectionPayload
  shifts : List (String × Int)
  keys : ClockFenceKeys
  record : Option TournamentRecord
  contexts : ι → Option TournamentClockContext
  clocks : Int → Option GameClock

/-- What can happen next. -/
inductive DeadlineEvent (ι : Type) where
  | openContext (writer : ι)
  | write (writer : ι) (edit : TournamentEdit)
  | closeContext (writer : ι)
  | autoStart (now termSeconds : Int) (rest : String)
  | shiftSchedule (actionId : String) (deltaMinutes : Int)
  | shiftTournamentClock (actionId : String) (deltaMinutes : Int)
  | moveClock (clock : GameClock)
  | publishFence (keys : ClockFenceKeys)
  | reconcile (input : DurableClockReconciliationAlignment)
  | project
  | finalize

/-- How a step ended. -/
inductive DeadlineReply where
  | done
  | refused (message : String)
  deriving DecidableEq

namespace DeadlineWorld

variable {ι : Type} [DecidableEq ι]

/-- The world with another clock, which is from now on the clock of its revision. -/
def setClock (world : DeadlineWorld ι) (clock : GameClock) : DeadlineWorld ι :=
  { world with clock, clocks := Function.update world.clocks clock.revision (some clock) }

/-- The world with the record that was written, or unchanged when the write was refused. -/
def writeRecord (world : DeadlineWorld ι) :
    Except String (Option TournamentRecord) → DeadlineWorld ι × DeadlineReply
  | .ok record => ({ world with record }, .done)
  | .error message => (world, .refused message)

/-- The context a writer reads from the database. -/
def readContext (world : DeadlineWorld ι) : TournamentClockContext := ⟨world.clock, world.deadlineGeneration⟩

/-- A tournament is under way. -/
def underWay (record : Option TournamentRecord) : Bool :=
  match record with
  | some record => 0 < record.stage
  | none => false

/-- The start of a tournament at the turn of a month; the fence counts only while the clock runs. -/
def autoStarted (world : DeadlineWorld ι) (now termSeconds : Int) (rest : String) :
    Except String (Option TournamentRecord) := do
  let record ← autoStartRecord world.clock world.deadlineGeneration now termSeconds rest
  if world.clock.phase = .running ∧ world.keys ≠ world.readContext.fence then
    .error "Tournament projection clock revision fence failed."
  else .ok (some record)

/-- The checks of the projection's worker and its work on the record. -/
def projected (world : DeadlineWorld ι) (payload : ProjectionPayload) :
    Except String (Option TournamentRecord) :=
  if world.clock.phase ≠ .reconciling ∨ world.clock.revision ≠ payload.targetRevision ∨
      world.deadlineGeneration ≠ payload.deadlineGeneration then
    .error "Clock projection DB phase/revision/generation fence failed."
  else do
    let clock ← recordProjectionClock payload world.clock
    if clock.ticksPerSecond ≠ payload.ticksPerSecond then
      .error "Clock projection rate differs from the durable outbox payload."
    else if world.keys.activeRevision ≠ none ∧ world.keys.activeRevision ≠ some payload.sourceRevision then
      .error "Redis active clock revision does not match the outbox source revision."
    else projectRecord world.record payload clock

/-- One event; each writer's step on the record is atomic. -/
def step (world : DeadlineWorld ι) : DeadlineEvent ι → Option (DeadlineWorld ι × DeadlineReply)
  | .openContext writer =>
    match world.contexts writer, ensureActiveRedisClockFence world.keys world.readContext with
    | none, some keys =>
      some ({ world with
        keys, contexts := Function.update world.contexts writer (some world.readContext) }, .done)
    | _, _ => none
  | .write writer edit =>
    match world.contexts writer with
    | some context =>
      some (world.writeRecord do
        let state ← edit.edited world.record
        .ok (some (← TournamentStore.setState world.keys context state)))
    | none => none
  | .closeContext writer =>
    some ({ world with contexts := Function.update world.contexts writer none }, .done)
  | .autoStart now termSeconds rest =>
    if underWay world.record then none
    else some (world.writeRecord (world.autoStarted now termSeconds rest))
  | .shiftSchedule actionId deltaMinutes =>
    match world.clock.shiftSchedule deltaMinutes with
    | .ok clock =>
      some ({ world.setClock clock with shifts := world.shifts ++ [(actionId, deltaMinutes)] }, .done)
    | .error message => some (world, .refused message)
  | .shiftTournamentClock actionId deltaMinutes =>
    -- The gateway moves the record only after the engine has reported its own shift.
    if (actionId, deltaMinutes) ∈ world.shifts then
      some ({ world with
        record := world.record.map (Sammo.shiftTournamentClock actionId deltaMinutes) }, .done)
    else none
  | .moveClock clock =>
    -- Turns, suspensions and the opening move the tick, the anchor and the phase, and nothing else.
    if clock.baseTime = world.clock.baseTime ∧ clock.turnSeconds = world.clock.turnSeconds ∧
        clock.revision = world.clock.revision then some (world.setClock clock, .done)
    else none
  | .publishFence keys => some ({ world with keys }, .done)
  | .reconcile input =>
    if safe : isSafeInteger input.alignedTick ∧ isSafeInteger input.targetRevision then
      if world.clock.phase = .suspended ∧ input.sourceRevision = world.clock.revision ∧
          input.targetRevision = world.clock.revision + 1 ∧
          input.deadlineGeneration = world.deadlineGeneration + 1 then
        some ({ world.setClock (world.clock.realign input safe.1 safe.2) with
          deadlineGeneration := input.deadlineGeneration
          outbox := some (reconciliationPayload world.clock input.deadlineGeneration input) }, .done)
      else none
    else none
  | .project =>
    match world.outbox with
    | some payload =>
      match world.projected payload with
      | .ok record =>
        some ({ world with
          record
          keys := ⟨some payload.targetRevision, some payload.deadlineGeneration, some .running⟩ }, .done)
      | .error message => some (world, .refused message)
    | none => none
  | .finalize =>
    match world.outbox with
    | some payload =>
      if world.clock.phase = .reconciling ∧ world.keys.activeRevision = some payload.targetRevision then
        some ({ world.setClock (world.clock.inPhase .running) with outbox := none }, .done)
      else none
    | none => none

end DeadlineWorld

/-- The writers of the tournament's deadlines as a machine. -/
def deadlineMachine (ι : Type) [DecidableEq ι] : StateMachine (DeadlineWorld ι) (DeadlineEvent ι) DeadlineReply :=
  ⟨DeadlineWorld.step⟩

end Sammo
