import Sammo.Lib.StateMachine
import Sammo.Time.GameClock

/-! The durable input-event queue: claiming, lease recovery, completion and the commit fence. -/

namespace Sammo

/-- Where an input event stands. -/
inductive InputEventStatus where
  | pending
  | processing
  | succeeded
  | failed
  deriving DecidableEq

/-- Which service an input event is for. -/
inductive InputEventTarget where
  | api
  | engine
  deriving DecidableEq

/-- One row of the input-event table. -/
structure InputEvent where
  sequence : Nat
  requestId : String
  target : InputEventTarget
  eventType : String
  payload : Record
  acceptedGameTick : Option Int
  acceptedClockRevision : Option Int
  acceptedDeadlineGeneration : Option Int
  processingGameTick : Option Int
  processingClockRevision : Option Int
  processingDeadlineGeneration : Option Int
  status : InputEventStatus
  result : Option Json
  error : Option String
  attempts : Nat
  lockedBy : Option String
  leaseUntil : Option Int
  createdAt : Int
  processingAt : Option Int
  completedAt : Option Int

/-- A status no statement of the queue may leave. -/
def InputEventStatus.Terminal (status : InputEventStatus) : Prop := status = .succeeded ∨ status = .failed

/-- How often one row may be tried. -/
def maxAttempts : Nat := 3

/-- How long one claim lasts, in milliseconds. -/
def commandLeaseDurationMs : Int := 60000

/-- An applied clock suspension as the claim reads it. -/
structure AppliedSuspension where
  sourceRevision : Int
  targetRevision : Int
  shiftTicks : Option Int
  deriving DecidableEq

/-- Everything a claiming transaction reads besides the event rows. -/
structure ClaimContext where
  now : Int
  clockPhase : GameClockPhase
  clockRevision : Int
  deadlineGeneration : Int
  gameTick : Int
  united : Bool
  maintenanceSuspended : Bool
  unificationWait : Bool
  pendingActions : List Nat
  raiseInvaderActions : List Nat
  appliedSuspensions : List AppliedSuspension
  lockedRows : List Nat

namespace ClaimContext

/-- Phases in which every user command is processed. -/
def gameplayAllowed (context : ClaimContext) : Bool :=
  context.clockPhase = .preopen ∨ context.clockPhase = .running ∨ context.clockPhase = .manual

/-- The message a response names, when its identifier is well formed. -/
def respondedMessage (row : InputEvent) : Option Nat :=
  (row.payload.text? "messageId").bind identifierText?

/-- The claiming query's condition on the event type and payload. -/
def admits (context : ClaimContext) (row : InputEvent) : Bool :=
  context.gameplayAllowed ||
  row.eventType == "getStatus" ||
  ((context.clockPhase == .suspended || context.clockPhase == .completed) &&
    ["joinCreateGeneral", "npcPossessGeneral", "selectPoolReserve", "selectPoolCreate",
      "selectPoolReselect"].contains row.eventType) ||
  ((context.clockPhase == .suspended || context.clockPhase == .completed) && context.united &&
    row.eventType == "voteReward") ||
  (context.clockPhase == .suspended &&
    ["adjustGeneralResources", "adjustGeneralMeta", "tournamentAdjustGeneral"].contains row.eventType &&
    (row.payload.text? "reason").any
      (["tournamentBet", "tournamentBetRollback"].contains ·)) ||
  (context.clockPhase == .suspended && context.maintenanceSuspended &&
    ["inheritanceAction", "dropItem", "changePermission", "appoint", "setNationSetting",
      "setNpcPolicy", "shiftSchedule"].contains row.eventType) ||
  (context.clockPhase == .suspended && context.maintenanceSuspended &&
    row.eventType == "messageRespond" && (respondedMessage row).any (context.pendingActions.contains ·)) ||
  (context.clockPhase == .suspended && row.eventType == "messageRespond" &&
    (respondedMessage row).any (context.raiseInvaderActions.contains ·) && context.unificationWait)

/-- The rows the claiming query selects: pending engine rows it admits and nobody else has locked. -/
def selects (context : ClaimContext) (row : InputEvent) : Bool :=
  row.target == .engine && row.status == .pending && context.admits row &&
    !context.lockedRows.contains row.sequence

/-- Carries a tick across `count` applied suspensions; nothing when the chain breaks. -/
def walkSuspensions (context : ClaimContext) : Nat → Int → Int → Option Int
  | 0, _, tick => some tick
  | count + 1, revision, tick =>
    -- The ledger of this revision must exist, carry a shift and lead to the very next revision.
    match context.appliedSuspensions.find? fun entry => entry.sourceRevision = revision with
    | none => none
    | some entry =>
      match entry.shiftTicks with
      | none => none
      | some shift =>
        if entry.targetRevision = revision + 1 then
          walkSuspensions context count (revision + 1) (tick + shift)
        else none

/-- The game tick a row is processed at, or nothing when it cannot be converted yet. -/
def convertTick (context : ClaimContext) (row : InputEvent) : Option Int :=
  if row.eventType = "getStatus" then some (row.acceptedGameTick.getD context.gameTick)
  else match row.acceptedGameTick, row.acceptedClockRevision with
  | some tick, some revision =>
    if context.clockRevision < revision then none
    else context.walkSuspensions (context.clockRevision - revision).toNat revision tick
  | _, _ => some context.gameTick

end ClaimContext

namespace InputEvent

/-- Fails a row with a message, ending its claim. -/
def reject (row : InputEvent) (now : Int) (message : String) : InputEvent :=
  { row with
    status := .failed, error := some message, completedAt := some now, lockedBy := none
    leaseUntil := none }

/-- The row after the claiming update, before its payload is looked at. -/
def startProcessing (row : InputEvent) (workerId : String) (context : ClaimContext) (tick : Int) :
    InputEvent :=
  { row with
    status := .processing
    processingAt := some context.now
    acceptedGameTick := some (row.acceptedGameTick.getD tick)
    acceptedClockRevision := some (row.acceptedClockRevision.getD context.clockRevision)
    acceptedDeadlineGeneration := some (row.acceptedDeadlineGeneration.getD context.deadlineGeneration)
    processingGameTick := some tick
    processingClockRevision := some context.clockRevision
    processingDeadlineGeneration := some context.deadlineGeneration
    lockedBy := some workerId
    leaseUntil := some (context.now + commandLeaseDurationMs)
    attempts := row.attempts + 1 }

/-- The row the whole claiming transaction leaves; `normalize` is the command parser's verdict. -/
def claim (normalize : InputEvent → Bool) (row : InputEvent) (workerId : String)
    (context : ClaimContext) (tick : Int) : InputEvent :=
  let started := row.startProcessing workerId context tick
  if ¬ normalize row then started.reject context.now s!"Invalid command payload for {row.eventType}"
  else if ¬ isSafeInteger tick then
    started.reject context.now "Converted processing game tick is outside the safe integer range."
  else started

/-- The row is being processed under a lease that ran out before `now`. -/
def Expired (row : InputEvent) (now : Int) : Prop :=
  row.target = .engine ∧ row.status = .processing ∧ ∃ deadline, row.leaseUntil = some deadline ∧ deadline < now

instance (row : InputEvent) (now : Int) : Decidable (row.Expired now) :=
  match found : row.leaseUntil with
  | none => .isFalse (by rintro ⟨_, _, _, present, _⟩; rw [found] at present; cases present)
  | some deadline => decidable_of_iff (row.target = .engine ∧ row.status = .processing ∧ deadline < now)
      ⟨fun ⟨target, status, past⟩ => ⟨target, status, deadline, found, past⟩, fun ⟨target, status, _, present, past⟩ => by
        rw [found] at present; cases present; exact ⟨target, status, past⟩⟩

/-- Puts an expired row back in the queue. -/
def recover (row : InputEvent) (now : Int) : InputEvent :=
  if row.Expired now then
    { row with status := .pending, processingAt := none, lockedBy := none, leaseUntil := none }
  else row

/-- The worker still owns the row it is processing. -/
def OwnedBy (row : InputEvent) (requestId workerId : String) : Prop :=
  row.requestId = requestId ∧ row.target = .engine ∧ row.status = .processing ∧
    row.lockedBy = some workerId

instance (row : InputEvent) (requestId workerId : String) : Decidable (row.OwnedBy requestId workerId) :=
  inferInstanceAs (Decidable (_ ∧ _ ∧ _ ∧ _))

end InputEvent

/-- A failure report between its read and its write. -/
structure ErrorReport where
  workerId : String
  requestId : String
  attempts : Nat
  message : String
  deriving DecidableEq

/-- What a finished command reports, as far as the commit fence reads it. -/
structure CommandResult where
  type : String
  ok : Bool
  action : Option String
  json : Json

/-- The in-memory clock a commit expects the row to have been processed under. -/
structure CommitFence where
  requestId : String
  result : CommandResult
  expectedPhase : GameClockPhase
  expectedRevision : Int
  expectedGeneration : Int
  now : Int

/-- A revision change made by the command itself: answering with an invasion resumes the clock. -/
def CommitFence.RevisionTransition (fence : CommitFence) (row : InputEvent) : Prop :=
  fence.result.type = "messageRespond" ∧ fence.result.ok = true ∧
    fence.result.action = some "raiseInvader" ∧ fence.expectedPhase = .reconciling ∧
    row.processingClockRevision = some (fence.expectedRevision - 1) ∧
    row.processingDeadlineGeneration = some (fence.expectedGeneration - 1)

/-- The row may be committed under the fence. -/
def CommitFence.Passes (fence : CommitFence) (row : InputEvent) : Prop :=
  row.status = .processing ∧
    (fence.RevisionTransition row ∨
      (row.processingClockRevision = some fence.expectedRevision ∧
        row.processingDeadlineGeneration = some fence.expectedGeneration))

instance (fence : CommitFence) (row : InputEvent) : Decidable (fence.RevisionTransition row) :=
  inferInstanceAs (Decidable (_ ∧ _ ∧ _ ∧ _ ∧ _ ∧ _))

instance (fence : CommitFence) (row : InputEvent) : Decidable (fence.Passes row) :=
  inferInstanceAs (Decidable (_ ∧ (_ ∨ (_ ∧ _))))

/-- The table in sequence order, and the statements each worker has half done. -/
structure CommandQueue where
  table : List InputEvent
  errorReports : List ErrorReport
  clearing : List (String × String)

/-- What can happen to the queue. -/
inductive QueueEvent where
  | enqueue (row : InputEvent)
  | recoverExpiredLeases (now : Int)
  | claimPending (workerId : String) (limit : Nat) (context : ClaimContext)
  | readCommandError (workerId requestId message : String)
  | writeCommandError (index : Nat) (now : Int)
  | complete (workerId requestId : String) (result : Json) (now : Int)
  | clearClaim (index : Nat)
  | commit (fence : CommitFence)

/-- What the outside sees of one queue event. -/
inductive QueueOutput where
  | quiet
  | claimed (requestIds : List String)
  | committed (requestId : String)
  | threw (message : String)
  deriving DecidableEq

namespace CommandQueue

/-- Claims the first `limit` selected rows. -/
def claimRows (normalize : InputEvent → Bool) (workerId : String) (context : ClaimContext) :
    Nat → List InputEvent → List InputEvent
  | 0, rows => rows
  | _, [] => []
  | limit + 1, row :: rest =>
    if context.selects row then
      -- A row that cannot be converted yet is left alone but still counts against the limit.
      let claimed := match context.convertTick row with
        | some tick => row.claim normalize workerId context tick
        | none => row
      claimed :: claimRows normalize workerId context limit rest
    else row :: claimRows normalize workerId context (limit + 1) rest

/-- The requests the first `limit` selected rows are claimed for. -/
def claimedRequests (context : ClaimContext) : Nat → List InputEvent → List String
  | 0, _ => []
  | _, [] => []
  | limit + 1, row :: rest =>
    if context.selects row then
      match context.convertTick row with
      | some _ => row.requestId :: claimedRequests context limit rest
      | none => claimedRequests context limit rest
    else claimedRequests context (limit + 1) rest

/-- A row as the services insert it. -/
def Insertable (queue : CommandQueue) (row : InputEvent) : Prop :=
  row.target = .engine ∧ row.status = .pending ∧ row.attempts = 0 ∧ row.lockedBy = none ∧
    ∀ other ∈ queue.table, other.requestId ≠ row.requestId ∧ other.sequence < row.sequence

instance (queue : CommandQueue) (row : InputEvent) : Decidable (queue.Insertable row) :=
  inferInstanceAs (Decidable (_ ∧ _ ∧ _ ∧ _ ∧ _))

/-- The failure a worker records: the last allowed attempt ends the row, an earlier one requeues it. -/
def settleError (report : ErrorReport) (now : Int) (row : InputEvent) : InputEvent :=
  if row.OwnedBy report.requestId report.workerId ∧ row.attempts = report.attempts then
    let terminal : Bool := maxAttempts ≤ report.attempts
    { row with
      status := if terminal then .failed else .pending
      processingAt := none, lockedBy := none, leaseUntil := none
      completedAt := if terminal then some now else none
      result := none, error := some report.message }
  else row

/-- Marks the row succeeded with a result. -/
def succeed (row : InputEvent) (result : Json) (now : Int) : InputEvent :=
  { row with
    status := .succeeded, result := some result, completedAt := some now, error := none
    lockedBy := none, leaseUntil := none }

/-- One event of the queue. -/
def step (normalize : InputEvent → Bool) (queue : CommandQueue) :
    QueueEvent → Option (CommandQueue × QueueOutput)
  | .enqueue row =>
    if queue.Insertable row then some ({ queue with table := queue.table ++ [row] }, .quiet) else none
  | .recoverExpiredLeases now =>
    some ({ queue with table := queue.table.map (·.recover now) }, .quiet)
  | .claimPending workerId limit context =>
    some ({ queue with table := claimRows normalize workerId context limit queue.table },
      .claimed (claimedRequests context limit queue.table))
  | .readCommandError workerId requestId message =>
    match queue.table.find? fun row => row.requestId = requestId with
    | none => some (queue, .quiet)
    | some row =>
      if row.OwnedBy requestId workerId then
        some ({ queue with errorReports := ⟨workerId, requestId, row.attempts, message⟩ :: queue.errorReports },
          .quiet)
      else some (queue, .quiet)
  | .writeCommandError index now =>
    match queue.errorReports[index]? with
    | none => none
    | some report =>
      some ({ queue with
        table := queue.table.map (settleError report now)
        errorReports := queue.errorReports.eraseIdx index }, .quiet)
  | .complete workerId requestId result now =>
    if queue.table.any fun row => row.OwnedBy requestId workerId then
      some ({ queue with
        table := queue.table.map fun row =>
          if row.OwnedBy requestId workerId then succeed row result now else row }, .quiet)
    else some ({ queue with clearing := (workerId, requestId) :: queue.clearing }, .quiet)
  | .clearClaim index =>
    match queue.clearing[index]? with
    | none => none
    | some (workerId, requestId) =>
      some ({ queue with
        table := queue.table.map fun row =>
          if row.requestId = requestId ∧ row.target = .engine ∧ row.status = .succeeded ∧
              row.lockedBy = some workerId then
            { row with lockedBy := none, leaseUntil := none } else row
        clearing := queue.clearing.eraseIdx index }, .quiet)
  | .commit fence =>
    -- The row is locked from the check to the commit, so the two are one step.
    match queue.table.find? fun row => row.requestId = fence.requestId ∧ row.target = .engine with
    | none =>
      some (queue, .threw s!"Input event processing clock fence changed before commit: {fence.requestId}.")
    | some row =>
      if fence.Passes row then
        some ({ queue with
          table := queue.table.map fun other =>
            if other.requestId = fence.requestId then succeed other fence.result.json fence.now
            else other }, .committed fence.requestId)
      else
        some (queue, .threw s!"Input event processing clock fence changed before commit: {fence.requestId}.")

end CommandQueue

/-- The command queue as a machine. -/
def commandQueueMachine (normalize : InputEvent → Bool) :
    StateMachine CommandQueue QueueEvent QueueOutput :=
  ⟨CommandQueue.step normalize⟩

/-- A queue of events nobody has touched yet; rows of the other service may stand in any state. -/
structure CommandQueue.Queued (queue : CommandQueue) : Prop where
  unique : (queue.table.map (·.requestId)).Nodup
  fresh : ∀ row ∈ queue.table, row.target = .engine → row.status = .pending ∧ row.attempts = 0
  noReports : queue.errorReports = []
  noClearing : queue.clearing = []

end Sammo
