import Mathlib.Algebra.Order.Field.Rat
import Mathlib.Data.PNat.Basic
import Sammo.Lib.Increments
import Sammo.Time.GameClock

/-!
Responses to messages that ask for one: letters of recruitment, and prompts to raise invaders.

The command of a general, the reconciliation of clocks and the invasion itself are known by what they leave.
-/

namespace Sammo.ActionableMessage

/-! ### Messages -/

/-- Who sends a message, or whom it is for. -/
structure Target where
  generalId : Int
  nationId : Int
  generalName : String
  nationName : String
  deriving DecidableEq

/-- What a message says of its use. -/
inductive UsedMark where
  | absent
  | bool (value : Bool)
  | number (value : ℚ)
  | text (value : String)
  | list (length : ℕ)
  | record
  deriving DecidableEq

/-- A mark that has always counted as one. -/
def isLegacyTruthy : UsedMark → Bool
  | .absent => false
  | .bool value => value
  | .number value => value ≠ 0
  | .text value => value ≠ "" && value ≠ "0"
  | .list length => 0 < length
  | .record => true

/-- What a message asks for; an argument that is no number is nothing. -/
structure MessageOption where
  action : Option String
  used : UsedMark
  args : Option (List (Option ℚ))
  deriving DecidableEq

/-- A message that can be read. -/
structure MessagePayload where
  src : Target
  dest : Target
  option : MessageOption
  deriving DecidableEq

/-- How far the action of a message has come. -/
inductive ActionStatus where
  | pending
  | resolved
  deriving DecidableEq

/-- A message with its action. -/
structure MessageRow where
  mailbox : Int
  dest : Int
  type : String
  validUntil : Int
  validUntilTick : Option Int
  /-- The message, if it can be read. -/
  message : Option MessagePayload
  actionType : String
  actionStatus : ActionStatus
  createdGameTick : Int
  expiresGameTick : Option Int
  resolvedGameTick : Option Int
  deriving DecidableEq

/-- The messages that have an action. -/
abbrev MessageTable := OrderedMap ℕ+ MessageRow

/-- An action waits for a response at a tick. -/
def MessageRow.waits (row : MessageRow) (tick : Int) : Bool :=
  row.actionStatus = .pending && row.expiresGameTick.all fun expires => tick < expires

/-- The message of a number, if its action waits for a response. -/
def fetchMessageForUpdate (messages : MessageTable) (messageId : ℕ+) (currentGameTick : Int) : Option MessageRow :=
  (messages.get? messageId).filter fun row => row.waits currentGameTick

/-- The letters of recruitment in a mailbox that wait for a response, but for one. -/
def otherLetters (messages : MessageTable) (mailbox : Int) (messageId : ℕ+) (tick : Int) : List ℕ+ :=
  (messages.entries.filter fun entry =>
    entry.2.mailbox = mailbox && entry.2.type = "private" && entry.2.dest = entry.2.mailbox && entry.1 ≠ messageId &&
      entry.2.waits tick && entry.2.actionType = "scout").map Prod.fst

/-- The prompts to raise invaders that have been made at a tick and wait for a response. -/
def promptRows (messages : MessageTable) (createdGameTick : Int) : List ℕ+ :=
  (messages.entries.filter fun entry =>
    entry.2.actionType = "raiseInvader" && entry.2.actionStatus = .pending &&
      entry.2.createdGameTick = createdGameTick).map Prod.fst

/-- A message whose action is resolved, if it waited, and which is not valid any longer. -/
def MessageRow.invalidate (row : MessageRow) (now resolvedGameTick : Int) : MessageRow :=
  { row with
    validUntil := now
    validUntilTick := some resolvedGameTick
    actionStatus := .resolved
    resolvedGameTick := if row.actionStatus = .pending then some resolvedGameTick else row.resolvedGameTick }

/-- Resolves the actions of some messages. -/
def invalidateMessageIds (messages : MessageTable) (ids : List ℕ+) (now resolvedGameTick : Int) : MessageTable :=
  messages.mapValues fun id row => if id ∈ ids then row.invalidate now resolvedGameTick else row

/-! ### The world -/

/-- A general belongs to a user. -/
structure General (γ : Type) where
  userId : Option String
  data : γ

/-- A message that waits to be sent, in place of one that it deletes. -/
structure QueuedMessage where
  src : Option Target
  dest : Target
  text : String
  time : Int
  delete : Option ℕ+
  deriving DecidableEq

/-- A line in the log of a general. -/
structure LogLine where
  generalId : Int
  text : String
  deriving DecidableEq

/-- The world in memory. -/
structure World (γ ν σ : Type) where
  generals : OrderedMap Int (General γ)
  nations : OrderedMap Int ν
  clock : GameClock
  isunited : Int
  unificationClockSuspensionId : Option String
  rest : σ
  messages : List QueuedMessage
  logs : List LogLine

variable {γ ν σ : Type}

/-- Queues a message. -/
def World.queueMessage (world : World γ ν σ) (message : QueuedMessage) : World γ ν σ :=
  { world with messages := world.messages ++ [message] }

/-- Writes to the log of a general. -/
def World.pushLog (world : World γ ν σ) (line : LogLine) : World γ ν σ :=
  { world with logs := world.logs ++ [line] }

/-- How a clock that has stood still is to go on. -/
structure Alignment where
  cutTick : Int
  alignedTick : Int
  shiftTicks : Int
  projectionDeltaMilliseconds : Int
  deriving DecidableEq

/-- Moves the expiry of an action that waits and has not expired when the clock stood still. -/
def Alignment.shift (alignment : Alignment) (row : MessageRow) : MessageRow :=
  match row.expiresGameTick with
  | none => row
  | some expires =>
    if row.actionStatus = .pending ∧ alignment.cutTick ≤ expires then
      { row with
        expiresGameTick := some (expires + alignment.shiftTicks)
        validUntilTick := some (expires + alignment.shiftTicks)
        validUntil := row.validUntil + alignment.projectionDeltaMilliseconds }
    else row

/-- What responses rely on. -/
structure Environment (γ ν σ : Type) where
  /-- The particle that follows a name. -/
  josa : String → String → String
  /-- Accepts a recruitment at once: of a general, to a nation, by the general who recruits, as the letter draws. -/
  execute : World γ ν σ → (generalId destNationId destGeneralId : Int) → (letter : ℕ+) →
    Except (Option String) Unit × World γ ν σ
  /-- Reconciles the clock of a suspension in the database, unless there is an error. -/
  reconcile : World γ ν σ → (suspensionId : String) → Option Alignment
  /-- Takes the reconciled clock over, unless there is an error. -/
  applyClockReconciliation : Alignment → World γ ν σ → Option (World γ ν σ)
  /-- Raises invaders, unless there is an error. -/
  raiseInvader : List ℚ → Alignment → World γ ν σ → Option (World γ ν σ)

/-! ### Responses -/

/-- The world and the messages. -/
structure Service (γ ν σ : Type) where
  world : World γ ν σ
  messages : MessageTable

/-- The two kinds of actions. -/
inductive ActionableMessageType where
  | scout
  | raiseInvader
  deriving DecidableEq

/-- What a response comes to. -/
structure Result where
  ok : Bool
  action : Option ActionableMessageType
  reason : String
  deriving DecidableEq

/-- The row of a request. -/
structure InputEvent where
  actorUserId : String
  target : String
  eventType : String
  processingGameTick : Option Int
  deriving DecidableEq

/-- A response to a message. -/
structure Response where
  requestId : Option String
  event : Option InputEvent
  userId : String
  generalId : Int
  messageId : ℕ+
  response : Bool
  /-- The daemon holds the authority over the clock. -/
  authorized : Bool
  deriving DecidableEq

/-- The tick at which a response is processed, if it is that of the general's user; `none` is an error. -/
def validateActor (world : World γ ν σ) (response : Response) : Option Int := do
  let actor ← world.generals.get? response.generalId
  if actor.userId ≠ some response.userId ∨ response.requestId.getD "" = "" then none
  let event ← response.event
  if event.actorUserId ≠ response.userId ∨ event.target ≠ "ENGINE" ∨ event.eventType ≠ "messageRespond" then none
  event.processingGameTick.filter fun tick => isSafeInteger tick

/-- The tick of an instant on the clock of a world; `none` is an error. -/
def World.dateToGameTick (world : World γ ν σ) (now : Int) : Option Int := (world.clock.dateToTick now).toOption

/-- A message is in the mailbox of the general it is for. -/
def addressed (row : MessageRow) (payload : MessagePayload) (actorId : Int) : Bool :=
  row.type = "private" && row.mailbox = actorId && payload.dest.generalId = actorId

/-- Resolves a letter and the others of a mailbox once a recruitment has been accepted. -/
def acceptScout (env : Environment γ ν σ) (service : Service γ ν σ) (world : World γ ν σ) (messageId : ℕ+)
    (payload : MessagePayload) (now : Int) : Option (Result × Service γ ν σ) := do
  let tick ← world.dateToGameTick now
  -- The mailbox is that of the general who recruits.
  let others := otherLetters service.messages payload.src.generalId messageId tick
  let text := payload.src.nationName ++ env.josa payload.src.nationName "로" ++ " 등용 제의 수락"
  pure (⟨true, some .scout, "success"⟩,
    { world := world.queueMessage ⟨some payload.src, payload.dest, text, now, some messageId⟩
      messages := invalidateMessageIds service.messages (messageId :: others) now tick })

/-- Declines a recruitment. -/
def declineScout (env : Environment γ ν σ) (service : Service γ ν σ) (actorId : Int) (messageId : ℕ+)
    (payload : MessagePayload) (now : Int) : Option (Result × Service γ ν σ) := do
  let tick ← service.world.dateToGameTick now
  let nation := payload.src.nationName ++ env.josa payload.src.nationName "로"
  let general := "<Y>" ++ payload.dest.generalName ++ "</>" ++ env.josa payload.dest.generalName "이"
  let world := (service.world.pushLog ⟨actorId, nation ++ " 망명을 거부했습니다."⟩).pushLog
    ⟨payload.src.generalId, general ++ " 등용을 거부했습니다."⟩
  pure (⟨true, some .scout, "success"⟩,
    { world := world.queueMessage ⟨some payload.src, payload.dest, nation ++ " 등용 제의 거부", now, some messageId⟩
      messages := invalidateMessageIds service.messages [messageId] now tick })

/-- Responds to a letter of recruitment. -/
def respondToScout (env : Environment γ ν σ) (service : Service γ ν σ) (actorId : Int) (response : Bool)
    (messageId : ℕ+) (row : MessageRow) (payload : MessagePayload) (now : Int) : Option (Result × Service γ ν σ) :=
  if !addressed row payload actorId then some (⟨false, some .scout, "올바른 수신자가 아닙니다."⟩, service)
  else if row.actionStatus ≠ .pending ∨ row.actionType ≠ "scout" ∨ isLegacyTruthy payload.option.used then
    some (⟨false, some .scout, "유효하지 않은 등용장입니다."⟩, service)
  else if !service.world.nations.has payload.src.nationId then
    -- The letter of a nation that has fallen expires for good.
    (service.world.dateToGameTick now).map fun tick =>
      (⟨false, some .scout, "등용장을 보낸 국가가 멸망했습니다."⟩,
        { service with messages := invalidateMessageIds service.messages [messageId] now tick })
  else if response then
    let execution := env.execute service.world actorId payload.src.nationId payload.src.generalId messageId
    match execution.1 with
    | .error reason =>
      some (⟨true, some .scout, reason.getD "등용 수락 불가."⟩, { service with world := execution.2 })
    | .ok _ => acceptScout env service execution.2 messageId payload now
  else declineScout env service actorId messageId payload now

/-- The arguments of an invasion, if they are four numbers. -/
def invaderArgs (option : MessageOption) : Option (List ℚ) :=
  (option.args.bind fun args => args.mapM id).filter fun args => args.length = 4

/-- Raises invaders once the clock has been reconciled. -/
def summonInvaders (env : Environment γ ν σ) (alignment : Alignment) (aligned : Service γ ν σ) (row : MessageRow)
    (payload : MessagePayload) : Option (Result × Service γ ν σ) :=
  match invaderArgs payload.option with
  | none => some (⟨false, some .raiseInvader, "이민족 소환 인자가 올바르지 않습니다."⟩, aligned)
  | some args => do
    let world ← env.raiseInvader args alignment aligned.world
    if alignment.alignedTick < row.createdGameTick then none
    let date ← (world.clock.tickToDate alignment.alignedTick).toOption
    pure (⟨true, some .raiseInvader, "success"⟩,
      { world
        messages :=
          invalidateMessageIds aligned.messages (promptRows aligned.messages row.createdGameTick) date
            alignment.alignedTick })

/-- The world after the end of a unification, with the time in which nothing has happened. -/
def reconcileUnification (env : Environment γ ν σ) (service : Service γ ν σ) (authorized : Bool) :
    Option (Alignment × Service γ ν σ) := do
  let suspensionId ← service.world.unificationClockSuspensionId
  if suspensionId = "" ∨ !authorized then none
  let alignment ← env.reconcile service.world suspensionId
  let world ← env.applyClockReconciliation alignment service.world
  pure (alignment, ⟨world, service.messages.mapValues fun _ row => alignment.shift row⟩)

/-- Responds to a prompt to raise invaders. -/
def respondToRaiseInvader (env : Environment γ ν σ) (service : Service γ ν σ) (actorId : Int)
    (response authorized : Bool) (messageId : ℕ+) (row : MessageRow) (payload : MessagePayload) (now : Int) :
    Option (Result × Service γ ν σ) :=
  if !addressed row payload actorId then some (⟨false, some .raiseInvader, "올바른 수신자가 아닙니다."⟩, service)
  else if payload.option.used = .bool true then some (⟨false, some .raiseInvader, "이미 사용하였습니다."⟩, service)
  else if !response then
    (service.world.dateToGameTick now).map fun tick =>
      (⟨true, some .raiseInvader, "success"⟩,
        { service with messages := invalidateMessageIds service.messages [messageId] now tick })
  else if service.world.isunited ≠ 2 then
    some (⟨false, some .raiseInvader, "천하통일이 되지 않았습니다."⟩,
      { service with
        world := service.world.queueMessage
          ⟨none, payload.dest, "천하통일이 되지 않았습니다. 이민족 등장 불가.", now, none⟩ })
  else
    match reconcileUnification env service authorized with
    | none => none
    | some (alignment, aligned) => summonInvaders env alignment aligned row payload

/-- Responds to a message; `none` is an error, which undoes everything. -/
def respondToActionableMessage (env : Environment γ ν σ) (service : Service γ ν σ) (response : Response) :
    Option (Result × Service γ ν σ) :=
  match validateActor service.world response with
  | none => none
  | some tick =>
    match (service.world.clock.tickToDate tick).toOption with
    | none => none
    | some now =>
      match fetchMessageForUpdate service.messages response.messageId tick with
      | none => some (⟨false, none, "존재하지 않는 메시지입니다."⟩, service)
      | some row =>
        match row.message with
        | none => some (⟨false, none, "응답할 수 없는 메시지입니다."⟩, service)
        | some payload =>
          if payload.option.action ≠ some row.actionType then
            some (⟨false, none, "메시지 행동 상태가 일치하지 않습니다."⟩, service)
          else if row.actionType = "scout" then
            respondToScout env service response.generalId response.response response.messageId row payload now
          else if row.actionType = "raiseInvader" then
            respondToRaiseInvader env service response.generalId response.response response.authorized
              response.messageId row payload now
          else some (⟨false, none, "응답할 수 없는 메시지입니다."⟩, service)

/-- The messages whose actions are resolved from one table to another. -/
def resolvedBetween (before after : MessageTable) : List ℕ+ :=
  before.keys.filter fun id =>
    (before.get? id).any (fun row => row.actionStatus = .pending) &&
      (after.get? id).any fun row => row.actionStatus = .resolved

/-- What happens to the service. -/
inductive ServiceEvent (γ ν σ : Type) where
  | respond (response : Response)
  /-- A message comes in. -/
  | deliver (id : ℕ+) (row : MessageRow)
  /-- The world goes on. -/
  | proceed (world : World γ ν σ)

/-- What is told of an event. -/
inductive Outcome where
  | answered (result : Result) (resolved : List ℕ+)
  | failed
  | done
  deriving DecidableEq

/-- The service, event by event. -/
def messageService (env : Environment γ ν σ) : StateMachine (Service γ ν σ) (ServiceEvent γ ν σ) Outcome where
  step service
    | .respond response =>
      match respondToActionableMessage env service response with
      | none => some (service, .failed)
      | some (result, next) => some (next, .answered result (resolvedBetween service.messages next.messages))
    | .deliver id row =>
      if service.messages.has id ∨ row.actionStatus ≠ .pending then none
      else some ({ service with messages := service.messages.set id row }, .done)
    | .proceed world => some ({ service with world }, .done)

end Sammo.ActionableMessage
