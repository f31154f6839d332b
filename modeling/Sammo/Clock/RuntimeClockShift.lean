import Sammo.Clock.TournamentDeadlines
import Sammo.Lib.StateMachine

/-! A runtime clock shift: the command for the engine, the timers of the auctions, and the tournament's record. -/

namespace Sammo.RuntimeClockShift

/-! ### The action -/

/-- A runtime action of the gateway. -/
structure GatewayAdminAction where
  id : String
  action : String
  durationMinutes : Option Int

/-- How an attempt at an action ends for the gateway, which tries again after the first two. -/
inductive GatewayActionStatus where
  | requested
  | partlyApplied
  | applied
  | failed
  | ignored
  deriving DecidableEq

/-- What an attempt is answered. -/
structure GatewayActionResult where
  status : GatewayActionStatus
  detail : String
  deriving DecidableEq

/-- The minutes that an action moves the clock by. -/
def resolveDelta (action : GatewayAdminAction) : Except GatewayActionResult Int :=
  if action.id = "" then .error ⟨.failed, "시간 조정 action ID가 없습니다."⟩
  else
    match action.durationMinutes.filter (1 ≤ ·) with
    | none => .error ⟨.failed, "시간 조정 분은 1 이상의 정수여야 합니다."⟩
    | some durationMinutes =>
      if action.action = "ACCELERATE" then .ok (-durationMinutes)
      else if action.action = "DELAY" then .ok durationMinutes
      else .error ⟨.ignored, s!"지원하지 않는 시간 조정 action입니다: {action.action}"⟩

/-! ### The command for the engine -/

/-- How far a command has come; with a shift that is done stands how many tournaments had started by then. -/
inductive InputEventStatus where
  | pending
  | succeeded (startedBefore : Nat)
  | failed (reason : String)
  deriving DecidableEq

/-- The row of a command, which the request id of its action makes unique. -/
structure InputEventRow where
  deltaMinutes : Int
  status : InputEventStatus
  deriving DecidableEq

/-- The commands by the ids of their actions. -/
abbrev InputEvents := OrderedMap String InputEventRow

/-- What an attempt learns of its command. -/
inductive EngineCommandReply where
  | waiting
  | succeeded
  | failed (reason : String)
  deriving DecidableEq

/-- Creates the command unless it is there, and reads how far it has come. -/
def ensureEngineCommand (events : InputEvents) (actionId : String) (deltaMinutes : Int) :
    InputEvents × EngineCommandReply :=
  match events.get? actionId with
  | none => (events.set actionId ⟨deltaMinutes, .pending⟩, .waiting)
  | some row =>
    if row.deltaMinutes ≠ deltaMinutes then (events, .failed "같은 action ID에 다른 시간 조정 payload가 이미 존재합니다.")
    else
      match row.status with
      | .pending => (events, .waiting)
      | .succeeded _ => (events, .succeeded)
      | .failed reason => (events, .failed reason)

/-! ### The tournament -/

/--
A tournament: its record, which one it is, and the actions that have moved its dates.

The actions are kept for what is proved; what the code remembers of them stands in the record.
-/
structure Tournament where
  record : TournamentRecord
  number : Nat
  moved : List String

/-- The shift of a tournament's dates, unless the record says that it has been made. -/
def Tournament.shift (actionId : String) (deltaMinutes : Int) (tournament : Tournament) : Tournament :=
  { tournament with
    record := shiftTournamentClock actionId deltaMinutes tournament.record
    moved := if actionId ∈ tournament.record.runtimeClockShiftActionIds then tournament.moved
      else tournament.moved ++ [actionId] }

/-- The clock that a writer of the record works under, with the keys that fence it; older worlds have none. -/
abbrev WriterFence := Option (ClockFenceKeys × TournamentClockContext)

/-- Writes a record, stamped and fenced where the writer works under a clock. -/
def writeState (fence : WriterFence) (state : TournamentRecord) : Except String TournamentRecord :=
  match fence with
  | none => .ok state
  | some (keys, context) => TournamentStore.setState keys context state

/-- An edit that writes the record anew. -/
def startsAnew : TournamentEdit → Bool
  | .start .. => true
  | .setState .. => true
  | _ => false

/--
The tournament that an edit makes of the current one, and how many have started then.

A record that is written anew is another tournament.
-/
def editTournament (fence : WriterFence) (started : Nat) (current : Option Tournament) (edit : TournamentEdit) :
    Except String (Tournament × Nat) := do
  let state ← edit.edited (current.map Tournament.record)
  let record ← writeState fence state
  match current.filter fun _ => ¬ startsAnew edit with
  | some tournament => return ({ tournament with record }, started)
  | none => return (⟨record, started + 1, []⟩, started + 1)

/-! ### What happens -/

/-- The timers, after the closing ticks of the open auctions have been set as their scores. -/
def syncAuctionTimers (auctions timers : OrderedMap Nat Int) : OrderedMap Nat Int :=
  auctions.entries.foldl (fun timers entry => timers.set entry.1 entry.2) timers

/--
The clock, the commands, the auctions with their timers, the tournament and everyone at work on it.

`snapshots` has what a worker has read outside the lock and may still write back.
-/
structure ShiftWorld (ι : Type) where
  clock : GameClock
  events : InputEvents
  auctions : OrderedMap Nat Int
  timers : OrderedMap Nat Int
  tournament : Option Tournament
  started : Nat
  snapshots : ι → Option Tournament

/-- How many tournaments had started when the engine made the shift of an action, if it has. -/
def InputEvents.startedBefore (events : InputEvents) (actionId : String) : Option Nat :=
  (events.get? actionId).bind fun row =>
    match row.status with
    | .succeeded startedBefore => some startedBefore
    | _ => none

/--
What can happen next.

An attempt at an action takes its three parts one after the other, and may end after each of them.
-/
inductive ShiftEvent (ι : Type) where
  | ensure (action : GatewayAdminAction) (redis : Bool)
  | syncAuctionTimers (action : GatewayAdminAction)
  | shiftTournament (action : GatewayAdminAction)
  | engine (actionId : String)
  | changeAuctions (auctions : OrderedMap Nat Int)
  | moveClock (clock : GameClock)
  /-- Under the lock of the record: a tick of the worker, or an administrator. -/
  | edit (fence : WriterFence) (edit : TournamentEdit)
  /-- Without the lock: the worker stamps the record, or notes an error in it. -/
  | readUnlocked (writer : ι)
  | writeUnlocked (writer : ι) (fence : WriterFence) (rest : String)
  | autoStart (keys : ClockFenceKeys) (generation now termSeconds : Int) (rest : String)

/-- How a step ended. -/
inductive ShiftReply where
  | done
  | refused (reason : String)
  | answered (result : GatewayActionResult)
  | scheduleShifted (actionId : String)
  | applied (actionId : String) (active : Bool)
  deriving DecidableEq

namespace ShiftWorld

variable {ι : Type} [DecidableEq ι]

/-- The minutes of an action whose command the engine has carried out, as an attempt finds out. -/
def engineDone (world : ShiftWorld ι) (action : GatewayAdminAction) : Option Int :=
  match resolveDelta action with
  | .error _ => none
  | .ok deltaMinutes =>
    if (ensureEngineCommand world.events action.id deltaMinutes).2 = .succeeded then some deltaMinutes else none

/-- The first part of an attempt, which goes on only if the engine is done. -/
def ensured (world : ShiftWorld ι) (action : GatewayAdminAction) (redis : Bool) : ShiftWorld ι × ShiftReply :=
  match resolveDelta action with
  | .error result => (world, .answered result)
  | .ok deltaMinutes =>
    let (events, reply) := ensureEngineCommand world.events action.id deltaMinutes
    let requestId := s!"gateway-runtime:{action.id}"
    ({ world with events },
      match reply with
      | .failed reason => .answered ⟨.failed, reason⟩
      | .waiting => .answered ⟨.requested, s!"게임 엔진 처리 대기 중: {requestId}"⟩
      | .succeeded =>
        if redis then .done
        else .answered
          ⟨.partlyApplied, s!"DB 시간 조정은 적용됐지만 Redis timer 동기화를 기다리는 중입니다: {requestId}"⟩)

/-- The engine carries out a command and notes that in one transaction. -/
def engineShift (world : ShiftWorld ι) (actionId : String) (deltaMinutes : Int) : ShiftWorld ι × ShiftReply :=
  match world.clock.shiftSchedule deltaMinutes with
  | .ok clock =>
    ({ world with
        clock, events := world.events.set actionId ⟨deltaMinutes, .succeeded world.started⟩ },
      .scheduleShifted actionId)
  | .error reason =>
    ({ world with events := world.events.set actionId ⟨deltaMinutes, .failed reason⟩ }, .refused reason)

/-- A tournament that starts by itself; the fence counts only while the clock runs. -/
def autoStarted (world : ShiftWorld ι) (keys : ClockFenceKeys) (generation now termSeconds : Int) (rest : String) :
    Except String TournamentRecord := do
  let record ← autoStartRecord world.clock generation now termSeconds rest
  let context : TournamentClockContext := ⟨world.clock, generation⟩
  if world.clock.phase = .running ∧ keys ≠ context.fence then
    .error "Tournament projection clock revision fence failed."
  else .ok record

/-- One event; what is done under the lock of the record, or in a transaction, is one step. -/
def step (world : ShiftWorld ι) : ShiftEvent ι → Option (ShiftWorld ι × ShiftReply)
  | .ensure action redis => some (world.ensured action redis)
  | .syncAuctionTimers action =>
    if (world.engineDone action).isSome then
      some ({ world with timers := syncAuctionTimers world.auctions world.timers }, .done)
    else none
  | .shiftTournament action =>
    match world.engineDone action with
    | none => none
    | some deltaMinutes =>
      some ({ world with tournament := world.tournament.map (Tournament.shift action.id deltaMinutes) },
        .applied action.id world.tournament.isSome)
  | .engine actionId =>
    match world.events.get? actionId with
    | some ⟨deltaMinutes, .pending⟩ => some (world.engineShift actionId deltaMinutes)
    | _ => none
  | .changeAuctions auctions => some ({ world with auctions }, .done)
  | .moveClock clock => some ({ world with clock }, .done)
  | .edit fence edit =>
    match editTournament fence world.started world.tournament edit with
    | .ok (tournament, started) => some ({ world with tournament := some tournament, started }, .done)
    | .error reason => some (world, .refused reason)
  | .readUnlocked writer =>
    some ({ world with snapshots := Function.update world.snapshots writer world.tournament }, .done)
  | .writeUnlocked writer fence rest =>
    match world.snapshots writer with
    | none => none
    | some snapshot =>
      match writeState fence { snapshot.record with rest } with
      | .ok record => some ({ world with tournament := some { snapshot with record } }, .done)
      | .error reason => some (world, .refused reason)
  | .autoStart keys generation now termSeconds rest =>
    if DeadlineWorld.underWay (world.tournament.map Tournament.record) then none
    else
      match world.autoStarted keys generation now termSeconds rest with
      | .ok record =>
        some ({ world with tournament := some ⟨record, world.started + 1, []⟩, started := world.started + 1 }, .done)
      | .error reason => some (world, .refused reason)

end ShiftWorld

/-- The shifts of the clock, and everything that comes between their parts, as a machine. -/
def shiftMachine (ι : Type) [DecidableEq ι] : StateMachine (ShiftWorld ι) (ShiftEvent ι) ShiftReply :=
  ⟨ShiftWorld.step⟩

end Sammo.RuntimeClockShift
