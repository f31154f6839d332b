import Mathlib.Logic.Function.Basic
import Sammo.Lib.StateMachine
import Sammo.Time.GameClock

/-! The clock projection outbox: workers that carry a reconciled clock from the database into Redis. -/

namespace Sammo

/-- The content of one outbox row. -/
structure ProjectionPayload where
  profileName : String
  suspensionId : String
  sourceRevision : Int
  targetRevision : Int
  deadlineGeneration : Int
  shiftTicks : Int
  projectionDeltaMilliseconds : Int
  clockBaseTime : Int
  ticksPerSecond : Int
  deriving DecidableEq

/-- Where an outbox row stands. -/
inductive OutboxStatus where
  | pending
  | applying
  | applied
  | failed
  deriving DecidableEq

/-- One row of the outbox; its target revision is unique. -/
structure OutboxRow where
  id : Nat
  targetRevision : Int
  payload : ProjectionPayload
  checksum : String
  status : OutboxStatus
  attempts : Nat
  availableAt : Int
  lockedAt : Option Int
  lockedBy : Option String
  appliedAt : Option Int
  lastError : Option String
  deriving DecidableEq

namespace OutboxRow

/-- The row while a worker is at it. -/
def claim (row : OutboxRow) (workerId : String) (now : Int) : OutboxRow :=
  { row with
    status := .applying, attempts := row.attempts + 1, lockedAt := some now, lockedBy := some workerId
    lastError := none }

/-- The row after its projection has been finalized. -/
def apply (row : OutboxRow) (now : Int) : OutboxRow :=
  { row with
    status := .applied, appliedAt := some now, lockedAt := none, lockedBy := none, lastError := none }

/-- The row after a failure, to be tried again in a second. -/
def fail (row : OutboxRow) (message : String) (now : Int) : OutboxRow :=
  if row.status = .applying then
    { row with
      status := .failed, lockedAt := none, lockedBy := none
      lastError := some (String.ofList (message.toList.take 4000)), availableAt := now + 1000 }
  else row

end OutboxRow

/-- The clock columns of the world row. -/
structure WorldClockRow where
  clockPhase : GameClockPhase
  clockRevision : Int
  deadlineGeneration : Int
  clockBaseTime : Option Int
  clockTick : Int
  clockMode : GameClockMode
  clockWallAnchor : Option Int
  tickSeconds : Int
  deriving DecidableEq

/-- An open or finalizing auction and its deadline. -/
structure AuctionDeadline where
  id : Nat
  closeTick : Option Int
  deriving DecidableEq

/-- The tournament state kept under one Redis key; `rest` stands for the fields not looked at here. -/
structure TournamentState where
  stage : Int
  nextAt : Option Int
  nextTick : Option Int
  bettingCloseAt : Option Int
  bettingCloseTick : Option Int
  clockRevision : Option Int
  deadlineGeneration : Option Int
  rest : String
  deriving DecidableEq

/-- The Redis keys the projection script reads and writes. -/
structure ProjectionRedis where
  activeRevision : Option Int
  deadlineGeneration : Option Int
  timers : List (Int × Nat)
  tournament : Option TournamentState
  checksum : Option String
  phase : Option GameClockPhase
  deriving DecidableEq

/-- The arguments one worker hands to the script. -/
structure ScriptArguments where
  sourceRevision : Int
  targetRevision : Int
  deadlineGeneration : Int
  checksum : String
  tournament : Option (TournamentState × TournamentState)
  timers : List (Int × Nat)
  deriving DecidableEq

/-- What the script returns. -/
inductive ScriptResult where
  | applied
  | alreadyApplied
  | wrongSource
  | tournamentChanged
  | wrongChecksum
  deriving DecidableEq

/-- The projection script, which Redis runs atomically. -/
def applyClockProjectionScript (redis : ProjectionRedis) (arguments : ScriptArguments) :
    ProjectionRedis × ScriptResult :=
  if redis.activeRevision = some arguments.targetRevision then
    if redis.checksum = some arguments.checksum ∧
        redis.deadlineGeneration = some arguments.deadlineGeneration then (redis, .alreadyApplied)
    else (redis, .wrongChecksum)
  else if redis.activeRevision ≠ none ∧ redis.activeRevision ≠ some arguments.sourceRevision then
    (redis, .wrongSource)
  else if arguments.tournament ≠ none ∧
      redis.tournament ≠ arguments.tournament.map Prod.fst then (redis, .tournamentChanged)
  else
    ({ activeRevision := some arguments.targetRevision
       deadlineGeneration := some arguments.deadlineGeneration
       timers := arguments.timers
       tournament := match arguments.tournament with
         | some (_, next) => some next
         | none => redis.tournament
       checksum := some arguments.checksum
       phase := some .running }, .applied)

/-- The tick of a tournament deadline after the shift, with its date. -/
def shiftDeadline (clock : GameClock) (shiftTicks : Int) (tick instant : Option Int) :
    Except String (Option Int × Option Int) :=
  match tick with
  | none => .ok (none, instant)
  | some tick =>
    -- Only a safe tick is moved; anything else is left as it was stored.
    if isSafeInteger tick then do
      let date ← clock.tickToDate (tick + shiftTicks)
      .ok (some (tick + shiftTicks), some date)
    else .ok (some tick, instant)

/-- The tick is stored and safe. -/
def isSafeTick : Option Int → Bool
  | some tick => isSafeInteger tick
  | none => false

/-- The tournament state after the shift, with the state it was read from. -/
def projectTournamentState (raw : Option TournamentState) (payload : ProjectionPayload)
    (clock : GameClock) : Except String (Option (TournamentState × TournamentState)) :=
  match raw with
  | none => .ok none
  | some parsed =>
    if 0 < parsed.stage ∧ parsed.nextAt.isSome ∧ ¬ isSafeTick parsed.nextTick then
      .error "Active tournament nextAt lacks the authoritative nextTick dual-write."
    else if 0 < parsed.stage ∧ parsed.bettingCloseAt.isSome ∧ ¬ isSafeTick parsed.bettingCloseTick then
      .error "Active tournament bettingCloseAt lacks the authoritative bettingCloseTick dual-write."
    else do
      let (nextTick, nextAt) ← shiftDeadline clock payload.shiftTicks parsed.nextTick parsed.nextAt
      let (bettingCloseTick, bettingCloseAt) ←
        shiftDeadline clock payload.shiftTicks parsed.bettingCloseTick parsed.bettingCloseAt
      .ok (some (parsed, { parsed with
        nextTick, nextAt, bettingCloseTick, bettingCloseAt
        clockRevision := some payload.targetRevision
        deadlineGeneration := some payload.deadlineGeneration }))

/-- The auction timers a worker rebuilds from the database. -/
def auctionTimers : List AuctionDeadline → Except String (List (Int × Nat))
  | [] => .ok []
  | auction :: rest =>
    match auction.closeTick with
    | none => .error s!"Active auction {auction.id} lacks closeTick during projection rebuild."
    | some tick =>
      if isSafeInteger tick then do
        let timers ← auctionTimers rest
        .ok ((tick, auction.id) :: timers)
      else .error s!"auction {auction.id} closeTick must be a safe integer."

/-- How far one worker has come with the row it claimed. -/
inductive ProjectionStage where
  | idle
  | claimed (outbox : OutboxRow)
  | fenced (outbox : OutboxRow) (clock : GameClock)
  | timed (outbox : OutboxRow) (clock : GameClock) (timers : List (Int × Nat))
  | projected (outbox : OutboxRow) (arguments : ScriptArguments)
  | evaluated (outbox : OutboxRow) (recovered : Bool)
  | failing (outboxId : Nat) (message : String)

/-- The database, Redis and every worker; `source` remembers the tournament at the last reconciliation. -/
structure ProjectionWorld (ι : Type) where
  clock : WorldClockRow
  outbox : List OutboxRow
  auctions : List AuctionDeadline
  appliedSuspensions : List String
  redis : ProjectionRedis
  workers : ι → ProjectionStage
  source : Option TournamentState

/-- What can happen next: one step of a worker, its crash, or the clock's own life. -/
inductive ProjectionEvent (ι : Type) where
  | claimNext (worker : ι) (workerId : String) (now : Int) (locked : List Nat)
  | checkFence (worker : ι) (now : Int)
  | readAuctions (worker : ι)
  | readTournament (worker : ι)
  | evaluate (worker : ι)
  | finalize (worker : ι) (now : Int)
  | recordFailure (worker : ι) (now : Int)
  | crash (worker : ι)
  | suspend
  | reconcile (clock : WorldClockRow) (auctions : List AuctionDeadline) (payload : ProjectionPayload) (now : Int)
  | gameplay (auctions : List AuctionDeadline) (timers : List (Int × Nat)) (tournament : Option TournamentState)

/-- What the outside sees of one projection event. -/
inductive ProjectionOutput where
  | quiet
  | scriptApplied (targetRevision : Int)
  | running (revision generation : Int)
  deriving DecidableEq

namespace ProjectionWorld

variable {ι : Type} [DecidableEq ι]

/-- Moves one worker to a stage. -/
def setStage (world : ProjectionWorld ι) (worker : ι) (stage : ProjectionStage) : ProjectionWorld ι :=
  { world with workers := Function.update world.workers worker stage }

/-- The claiming query's condition on a row. -/
def Claimable (now : Int) (row : OutboxRow) : Prop :=
  row.availableAt ≤ now ∧ (row.status = .pending ∨ row.status = .failed ∨
    (row.status = .applying ∧ ∃ lockedAt ∈ row.lockedAt, lockedAt < now - 30000))

instance (now : Int) (row : OutboxRow) : Decidable (Claimable now row) :=
  inferInstanceAs (Decidable (_ ∧ (_ ∨ _ ∨ (_ ∧ _))))

/-- Changes the row with an id. -/
def updateRow (rows : List OutboxRow) (id : Nat) (change : OutboxRow → OutboxRow) : List OutboxRow :=
  rows.map fun row => if row.id = id then change row else row

/-- The clock a worker projects with: the payload's base and the world's rate. -/
def projectionClock (payload : ProjectionPayload) (row : WorldClockRow) (now : Int) :
    Except String GameClock :=
  GameClock.create
    { baseTime := payload.clockBaseTime, tick := row.clockTick, mode := row.clockMode
      wallAnchor := row.clockWallAnchor.getD now, turnSeconds := row.tickSeconds
      phase := some .reconciling, revision := some payload.targetRevision, recovery := none }

/-- The checks a worker makes on its row and on the world before it reads anything else. -/
def fenceClock (checksum : ProjectionPayload → String) (outbox : OutboxRow) (row : WorldClockRow)
    (now : Int) : Except String GameClock :=
  let payload := outbox.payload
  if checksum payload ≠ outbox.checksum then
    .error "Clock projection outbox checksum verification failed."
  else if outbox.targetRevision ≠ payload.targetRevision then
    .error "Clock projection payload revision differs from its outbox row."
  else if row.clockPhase ≠ .reconciling ∨ row.clockRevision ≠ outbox.targetRevision ∨
      row.deadlineGeneration ≠ payload.deadlineGeneration ∨ row.clockBaseTime = none then
    .error "Clock projection DB phase/revision/generation fence failed."
  else do
    let clock ← projectionClock payload row now
    if clock.ticksPerSecond ≠ payload.ticksPerSecond then
      .error "Clock projection rate differs from the durable outbox payload."
    else .ok clock

/-- The script's arguments for one row. -/
def scriptArguments (outbox : OutboxRow) (timers : List (Int × Nat))
    (tournament : Option (TournamentState × TournamentState)) : ScriptArguments :=
  { sourceRevision := outbox.payload.sourceRevision, targetRevision := outbox.payload.targetRevision
    deadlineGeneration := outbox.payload.deadlineGeneration, checksum := outbox.checksum
    tournament, timers }

/-- A worker goes on with a result, or turns to recording its failure. -/
def advance {α : Type} (world : ProjectionWorld ι) (worker : ι) (outbox : OutboxRow)
    (result : Except String α) (next : α → ProjectionStage) : ProjectionWorld ι :=
  match result with
  | .ok value => world.setStage worker (next value)
  | .error message => world.setStage worker (.failing outbox.id message)

/-- The message of a refused script. -/
def ScriptResult.failure : ScriptResult → Option String
  | .wrongSource => some "Redis active clock revision does not match the outbox source revision."
  | .tournamentChanged => some "Redis tournament state changed while rebuilding its projection."
  | .wrongChecksum => some "Redis target revision exists without the expected projection checksum."
  | .applied => none
  | .alreadyApplied => none

/-- One event of the projection. -/
def step (checksum : ProjectionPayload → String) (world : ProjectionWorld ι) :
    ProjectionEvent ι → Option (ProjectionWorld ι × ProjectionOutput)
  | .claimNext worker workerId now locked =>
    -- Rows another transaction has locked are skipped.
    match world.workers worker, world.outbox.find? fun row => Claimable now row ∧ row.id ∉ locked with
    | .idle, some row =>
      some ({ world with outbox := updateRow world.outbox row.id (·.claim workerId now) }.setStage worker
        (.claimed (row.claim workerId now)), .quiet)
    | _, _ => none
  | .checkFence worker now =>
    match world.workers worker with
    | .claimed outbox =>
      some (world.advance worker outbox (fenceClock checksum outbox world.clock now) (.fenced outbox),
        .quiet)
    | _ => none
  | .readAuctions worker =>
    match world.workers worker with
    | .fenced outbox clock =>
      some (world.advance worker outbox (auctionTimers world.auctions) (.timed outbox clock), .quiet)
    | _ => none
  | .readTournament worker =>
    match world.workers worker with
    | .timed outbox clock timers =>
      some (world.advance worker outbox
        (projectTournamentState world.redis.tournament outbox.payload clock)
        (fun tournament => .projected outbox (scriptArguments outbox timers tournament)), .quiet)
    | _ => none
  | .evaluate worker =>
    match world.workers worker with
    | .projected outbox arguments =>
      let (redis, result) := applyClockProjectionScript world.redis arguments
      let stage := match ScriptResult.failure result with
        | some message => .failing outbox.id message
        | none => .evaluated outbox (result = .alreadyApplied)
      some ({ world with redis }.setStage worker stage,
        if result = .applied then .scriptApplied arguments.targetRevision else .quiet)
    | _ => none
  | .finalize worker now =>
    match world.workers worker with
    | .evaluated outbox _ =>
      let row := world.clock
      -- The transition, the outbox and the ledger change in one transaction, or not at all.
      if row.clockPhase = .reconciling ∧ row.clockRevision = outbox.targetRevision ∧
          row.deadlineGeneration = outbox.payload.deadlineGeneration then
        some ({ world with
          clock := { row with clockPhase := .running }
          outbox := updateRow world.outbox outbox.id (·.apply now)
          appliedSuspensions := outbox.payload.suspensionId :: world.appliedSuspensions }.setStage worker .idle,
          .running row.clockRevision row.deadlineGeneration)
      else
        some (world.setStage worker
          (.failing outbox.id "Clock projection final RUNNING transition fence failed."), .quiet)
    | _ => none
  | .recordFailure worker now =>
    match world.workers worker with
    | .failing outboxId message =>
      some ({ world with
        outbox := updateRow world.outbox outboxId (·.fail message now) }.setStage worker .idle, .quiet)
    | _ => none
  | .crash worker => some (world.setStage worker .idle, .quiet)
  | .suspend =>
    if world.clock.clockPhase = .running then
      some ({ world with clock := { world.clock with clockPhase := .suspended } }, .quiet)
    else none
  | .reconcile clock auctions payload now =>
    -- One reconciliation per suspension: the revision and the generation both move on by one.
    if world.clock.clockPhase = .suspended ∧ clock.clockPhase = .reconciling ∧
        clock.clockRevision = world.clock.clockRevision + 1 ∧
        clock.deadlineGeneration = world.clock.deadlineGeneration + 1 ∧
        payload.sourceRevision = world.clock.clockRevision ∧
        payload.targetRevision = clock.clockRevision ∧
        payload.deadlineGeneration = clock.deadlineGeneration then
      let row : OutboxRow :=
        { id := world.outbox.length, targetRevision := payload.targetRevision, payload
          checksum := checksum payload, status := .pending, attempts := 0, availableAt := now
          lockedAt := none, lockedBy := none, appliedAt := none, lastError := none }
      some ({ world with
        clock, auctions, outbox := world.outbox ++ [row], source := world.redis.tournament }, .quiet)
    else none
  | .gameplay auctions timers tournament =>
    -- Nobody plays, and nobody else touches the projection, while a reconciliation is under way.
    if world.clock.clockPhase = .running ∨ world.clock.clockPhase = .suspended then
      some ({ world with auctions, redis := { world.redis with timers, tournament } }, .quiet)
    else none

end ProjectionWorld

/-- The projection as a machine; `checksum` is the digest of a payload. -/
def projectionMachine (ι : Type) [DecidableEq ι] (checksum : ProjectionPayload → String) :
    StateMachine (ProjectionWorld ι) (ProjectionEvent ι) ProjectionOutput :=
  ⟨ProjectionWorld.step checksum⟩

/-- A running clock with nothing to project; Redis is empty or holds the clock's revision. -/
structure ProjectionWorld.Initial {ι : Type} (world : ProjectionWorld ι) : Prop where
  running : world.clock.clockPhase = .running
  noOutbox : world.outbox = []
  idle : ∀ worker, world.workers worker = .idle
  redis : world.redis.activeRevision = none ∨
    world.redis.activeRevision = some world.clock.clockRevision

end Sammo
