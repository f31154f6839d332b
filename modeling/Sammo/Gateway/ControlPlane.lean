import Mathlib.Data.List.Sort
import Sammo.Gateway.Operations

/-! The tables of the control plane, and what each call does to them in one transaction. -/

namespace Sammo.Gateway

/-- What a release does to the gateway. -/
inductive GatewayReleaseOperationType where
  | deploy
  | rollback
  deriving DecidableEq

/-- A row of the table of the gateway's own releases. -/
structure GatewayReleaseOperation extends OperationColumns where
  type : GatewayReleaseOperationType
  payload : Record

/-- A line in the log of an operation. -/
structure OperationLog where
  operationId : String
  level : String
  phase : String
  message : String
  deriving DecidableEq

/-- The lease that an orchestrator asks for. -/
structure Lease where
  ownerId : String
  durationMs : Nat
  deriving DecidableEq

/-- The tables that the calls read and write. -/
structure ControlPlane where
  operations : List GatewayOperation
  operationLogs : List OperationLog
  releases : List GatewayReleaseOperation
  releaseLogs : List OperationLog
  /-- The version that the targets of a bulk release have in common. -/
  bulkReleases : String → Option String

/-- Why a call throws. -/
inductive ControlPlaneError where
  | operationConflict
  | leaseLost (id : String)
  | bulkReleaseMissing
  deriving DecidableEq

namespace OperationColumns

/-- The lease of a running operation has run out. -/
def isStale (running : OperationColumns) (now : Int) (durationMs : Nat) : Bool :=
  match running.leaseUntil with
  | some leaseUntil => leaseUntil < now
  -- Without a lease, the operation counts from its start.
  | none => running.startedAt.any fun startedAt => startedAt ≤ now - durationMs

/-- One row is older than another; the database orders rows of the same age in some way. -/
def IsOlder (ties : String → Nat) (left right : OperationColumns) : Prop :=
  left.createdAt < right.createdAt ∨ left.createdAt = right.createdAt ∧ ties left.id ≤ ties right.id

/-- A bulk order comes before another one, and before none. -/
def bulkOrderBefore : Option Int → Option Int → Bool
  | some left, some right => left < right
  | some _, none => true
  | none, _ => false

/-- One row comes before another in the queue. -/
def QueuesBefore (ties : String → Nat) (left right : OperationColumns) : Prop :=
  left.createdAt < right.createdAt ∨ left.createdAt = right.createdAt ∧
    (bulkOrderBefore left.bulkOrder right.bulkOrder ∨ left.bulkOrder = right.bulkOrder ∧ ties left.id ≤ ties right.id)

instance (ties : String → Nat) : DecidableRel (IsOlder ties) := fun _ _ => inferInstanceAs (Decidable (_ ∨ _))

instance (ties : String → Nat) : DecidableRel (QueuesBefore ties) := fun _ _ => inferInstanceAs (Decidable (_ ∨ _))

/-- Another target of the same bulk release comes before a row. -/
def Precedes (other row : OperationColumns) : Prop :=
  (∃ release ∈ row.bulkReleaseId, other.bulkReleaseId = some release) ∧
    ∃ order ∈ row.bulkOrder, ∃ earlier ∈ other.bulkOrder, earlier < order

instance (other row : OperationColumns) : Decidable (other.Precedes row) := inferInstanceAs (Decidable (_ ∧ _))

/-- Every target that comes before a row in its bulk release has succeeded. -/
def Unblocked (rows : List OperationColumns) (row : OperationColumns) : Prop :=
  ∀ other ∈ rows, other.Precedes row → other.status = .succeeded

instance (rows : List OperationColumns) : DecidablePred (Unblocked rows) := fun _ => List.decidableBAll _ _

/-- The running row that a claim looks at. -/
def firstRunning (ties : String → Nat) (rows : List OperationColumns) : Option OperationColumns :=
  ((rows.filter fun row => row.status = .running).insertionSort (IsOlder ties)).head?

/-- The first row in the queue that may start. -/
def nextQueued (ties : String → Nat) (rows queued : List OperationColumns) : Option OperationColumns :=
  ((queued.insertionSort (QueuesBefore ties)).take 200).find? fun row => Unblocked rows row

/-- The row is still as the claim has found it. -/
def claimable (candidate : OperationColumns) (now : Int) (row : OperationColumns) : Bool :=
  row.id = candidate.id ∧
    if candidate.status = .queued then row.status = .queued
    else row.status = .running ∧
      if candidate.leaseUntil.isSome then ∃ leaseUntil ∈ row.leaseUntil, leaseUntil < now else row.leaseUntil = none

/-- A row that has been claimed. -/
def claimed (candidate : OperationColumns) (lease : Option Lease) (now : Int) (row : OperationColumns) :
    OperationColumns :=
  { row with
    status := .running
    startedAt := some (candidate.startedAt.getD now)
    completedAt := none
    error := none
    leaseOwner := (lease.map Lease.ownerId).or row.leaseOwner
    leaseUntil := (lease.map fun lease => now + lease.durationMs).or row.leaseUntil
    heartbeatAt := (lease.map fun _ => now).or row.heartbeatAt
    attempts := row.attempts + 1 }

/-- A row that nobody works on any more. -/
def settled (status : GatewayOperationStatus) (completedAt : Option Int) (row : OperationColumns) : OperationColumns :=
  { row with status, completedAt, leaseOwner := none, leaseUntil := none, heartbeatAt := none }

/-- An owner holds the row with an id. -/
def isHeldBy (id leaseOwner : String) (row : OperationColumns) : Bool :=
  row.id = id ∧ row.status = .running ∧ row.leaseOwner = some leaseOwner

/-- An owner holds a row whose version is open, or is the one to be fixed. -/
def canPin (id leaseOwner resolvedCommitSha : String) (row : OperationColumns) : Bool :=
  row.isHeldBy id leaseOwner ∧ (row.resolvedCommitSha = none ∨ row.resolvedCommitSha = some resolvedCommitSha)

/-- A row whose target is tried again, at the version of its bulk release. -/
def requeuedInBulk (resolvedCommitSha requestedBy : String) (row : OperationColumns) : OperationColumns :=
  { row.settled .queued none with
    sourceMode := some .commit
    sourceRef := some resolvedCommitSha
    resolvedCommitSha := none
    requestedBy
    startedAt := none
    error := none }

end OperationColumns

/-- An operation with other columns. -/
def GatewayOperation.withColumns (change : OperationColumns → OperationColumns) (operation : GatewayOperation) :
    GatewayOperation :=
  { operation with toOperationColumns := change operation.toOperationColumns }

/-- A release with other columns. -/
def GatewayReleaseOperation.withColumns (change : OperationColumns → OperationColumns)
    (operation : GatewayReleaseOperation) : GatewayReleaseOperation :=
  { operation with toOperationColumns := change operation.toOperationColumns }

/-- The name of a type, as the logs show it. -/
def GatewayOperationType.text : GatewayOperationType → String
  | .reset => "RESET"
  | .deploy => "DEPLOY"
  | .cancelGame => "CANCEL_GAME"
  | .start => "START"
  | .stop => "STOP"

/-- The phases in which a running deployment has only built something. -/
def buildPhases : List String := ["claim", "resolve", "workspace", "build"]

/-- The two tables of operations. -/
inductive Lane where
  | profile
  | release
  deriving DecidableEq

/-- The other table. -/
def Lane.other : Lane → Lane
  | .profile => .release
  | .release => .profile

/-- What a completion stores besides the status; what is missing stays as it is. -/
structure CompletionFields where
  resolvedCommitSha : Option (Option String)
  error : Option (Option String)

/-- What a retry writes. -/
inductive RetryWrite (ρ : Type) where
  | nothing
  /-- A target of a bulk release waits again, at the version of the release. -/
  | requeue (id resolvedCommitSha requestedBy : String)
  | insert (row : ρ) (previousId : String)

namespace ControlPlane

variable (db : ControlPlane)

/-- The columns of the rows of one table. -/
def rows : Lane → List OperationColumns
  | .profile => db.operations.map GatewayOperation.toOperationColumns
  | .release => db.releases.map GatewayReleaseOperation.toOperationColumns

/-- The columns of both tables. -/
def columns : List OperationColumns := db.rows .release ++ db.rows .profile

/-- The operations of a profile that are waiting or at work. -/
def activeOperations (profileName : String) : List GatewayOperation :=
  db.operations.filter fun operation => operation.profileName = profileName ∧ operation.status.Active

/-- Changes the operations that meet a condition. -/
def updateOperations (condition : GatewayOperation → Bool) (change : GatewayOperation → GatewayOperation) :
    ControlPlane :=
  { db with operations := db.operations.map fun operation =>
      if condition operation then change operation else operation }

/-- Changes the rows of one table that meet a condition. -/
def updateRows (lane : Lane) (condition : OperationColumns → Bool) (change : OperationColumns → OperationColumns) :
    ControlPlane :=
  match lane with
  | .profile =>
    db.updateOperations (fun operation => condition operation.toOperationColumns) (GatewayOperation.withColumns change)
  | .release =>
    { db with releases := db.releases.map fun release =>
        if condition release.toOperationColumns then release.withColumns change else release }

/-- Stores a new operation. -/
def insertOperation (operation : GatewayOperation) : ControlPlane :=
  { db with operations := db.operations ++ [operation] }

/-- Stores a line of an operation's log. -/
def log (id phase message : String) : ControlPlane :=
  { db with operationLogs := db.operationLogs ++ [⟨id, "INFO", phase, message⟩] }

/-- A line that an orchestrator reports; a long phase or message is cut. -/
def reportedLog (id level phase message : String) : OperationLog :=
  ⟨id, level, String.ofList (phase.toList.take 64), String.ofList (message.toList.take 4000)⟩

/-- Stores a line that an orchestrator reports. -/
def appendOperationLog (id level phase message : String) : Lane → ControlPlane
  | .profile => { db with operationLogs := db.operationLogs ++ [reportedLog id level phase message] }
  | .release => { db with releaseLogs := db.releaseLogs ++ [reportedLog id level phase message] }

/-- An operator asks for an operation. -/
def createOperation (input : GatewayOperationCreateInput) (newId : String) (createdAt processNow : Int) :
    Except ControlPlaneError ControlPlane :=
  if canQueueAlongsideActiveOperations input.type input.scheduledAt (db.activeOperations input.profileName)
      processNow then
    .ok ((db.insertOperation (input.row newId createdAt)).log newId "queue" s!"{input.type.text} 작업이 등록되었습니다.")
  else .error .operationConflict

/-- A reset that is due ends a deployment of its profile that still waits. -/
def expires (now : Int) (deploy : GatewayOperation) : Bool :=
  deploy.status = .queued ∧ deploy.type = .deploy ∧ ∃ reset ∈ db.operations,
    reset.profileName = deploy.profileName ∧ reset.status = .queued ∧ reset.type = .reset ∧
      ∃ scheduledAt ∈ reset.scheduledAt, scheduledAt ≤ now

/-- The deployments that a reset has overtaken are cancelled. -/
def expireInterimDeploys (now : Int) : ControlPlane :=
  { db.updateOperations (db.expires now) (GatewayOperation.withColumns (OperationColumns.settled .cancelled (some now))) with
    operationLogs := db.operationLogs ++ (db.operations.filter (db.expires now)).map fun deploy =>
      ⟨deploy.id, "INFO", "cancel", "예약 시나리오 초기화 시각이 되어 실행 전 중간 버전 업데이트를 자동 취소했습니다."⟩ }

/-- The columns of the operations of one table that wait and are due. -/
def queuedRows (now : Int) : Lane → List OperationColumns
  | .profile =>
    (db.operations.filter fun operation =>
      operation.status = .queued ∧ ∀ scheduledAt ∈ operation.scheduledAt, scheduledAt ≤ now).map
        GatewayOperation.toOperationColumns
  | .release => (db.rows .release).filter fun row => row.status = .queued

/-- The candidate of a claim is claimed, unless it has changed. -/
def claimOperation (candidate : OperationColumns) (lease : Option Lease) (now : Int) :
    ControlPlane × Option GatewayOperation :=
  let next := db.updateRows .profile (candidate.claimable now) (candidate.claimed lease now)
  if ((db.rows .profile).filter (candidate.claimable now)).length = 1 then
    (next, next.operations.find? fun operation => operation.id = candidate.id)
  else (next, none)

/-- An orchestrator claims the next operation: one whose owner has been lost, or one that is due. -/
def claimNextOperation (ties : String → Nat) (lease : Option Lease) (now : Int) :
    ControlPlane × Option GatewayOperation :=
  if ∃ release ∈ db.releases, release.status = .running then (db, none)
  else
    let running := OperationColumns.firstRunning ties (db.rows .profile)
    if ∃ row ∈ running, ¬ ∃ wanted ∈ lease, row.isStale now wanted.durationMs then (db, none)
    else
      let swept := db.expireInterimDeploys now
      match running.or (OperationColumns.nextQueued ties swept.columns (swept.queuedRows now .profile)) with
      | none => (swept, none)
      | some candidate => swept.claimOperation candidate lease now

/-- The owner of an operation ends it. -/
def completeOperation (lane : Lane) (id : String) (status : GatewayOperationStatus) (fields : CompletionFields)
    (leaseOwner : String) (processNow : Int) : Except ControlPlaneError ControlPlane :=
  if ((db.rows lane).filter (OperationColumns.isHeldBy id leaseOwner)).length = 1 then
    .ok (db.updateRows lane (OperationColumns.isHeldBy id leaseOwner) fun row =>
      { row.settled status (some processNow) with
        resolvedCommitSha := fields.resolvedCommitSha.getD row.resolvedCommitSha
        error := fields.error.getD row.error })
  else .error (.leaseLost id)

/-- The owner of an operation puts it back into the queue, perhaps for a later time. -/
def requeueOperation (id : String) (detail : Option String) (retryAt : Option Int) (leaseOwner : String) :
    Except ControlPlaneError ControlPlane :=
  if (db.operations.filter fun operation => operation.isHeldBy id leaseOwner).length = 1 then
    .ok (db.updateOperations (fun operation => operation.isHeldBy id leaseOwner) fun operation =>
      { operation.withColumns fun row =>
          { row.settled .queued row.completedAt with startedAt := none, error := detail.or row.error } with
        scheduledAt := retryAt.or operation.scheduledAt })
  else .error (.leaseLost id)

/-- The phase that the log of an operation ends with. -/
def latestPhase (logs : List OperationLog) (id : String) : Option String :=
  (logs.filter fun log => log.operationId = id).getLast?.map OperationLog.phase

/-- An operation that can be cancelled: it waits, or it is a deployment that is still being built. -/
def cancellable (operation : GatewayOperation) : Bool :=
  operation.status = .queued ∨ operation.status = .running ∧ operation.type = .deploy ∧
    ∃ phase ∈ latestPhase db.operationLogs operation.id, phase ∈ buildPhases

/-- An operator cancels an operation. -/
def cancelOperation (id : String) (processNow : Int) : ControlPlane × Bool :=
  match db.operations.find? fun operation => operation.id = id with
  | none => (db, false)
  | some operation =>
    if db.cancellable operation then
      let next := db.updateOperations (fun row => row.id = id ∧ row.status = operation.status)
        (GatewayOperation.withColumns (OperationColumns.settled .cancelled (some processNow)))
      (next.log id "cancel" (if operation.status = .running then "실행 중인 빌드를 중단했습니다. 기존 runtime과 DB는 유지됩니다."
        else "대기 중인 작업이 취소되었습니다."), true)
    else (db, false)

/-- What a retry of an operation is made of. -/
def retryInput (previous : GatewayOperation) (requestedBy : String) : GatewayOperationCreateInput where
  profileName := previous.profileName
  type := previous.type
  sourceMode := (buildRetryOperationSource previous.toOperationColumns).1
  sourceRef := (buildRetryOperationSource previous.toOperationColumns).2
  payload := buildRetryOperationPayload previous.payload previous.id
  reason := previous.reason
  requestedBy
  scheduledAt := none

/-- A retry reads the operation and the active ones beside it, and decides what to write. -/
def readRetry (id requestedBy newId : String) (createdAt processNow : Int) :
    Except ControlPlaneError (RetryWrite GatewayOperation) :=
  match db.operations.find? fun operation => operation.id = id with
  | none => .ok .nothing
  | some previous =>
    if previous.status ≠ .failed ∧ previous.status ≠ .cancelled then .ok .nothing
    else if canQueueAlongsideActiveOperations previous.type none (db.activeOperations previous.profileName) processNow then
      match previous.bulkReleaseId with
      | some bulkReleaseId =>
        match db.bulkReleases bulkReleaseId with
        | none => .error .bulkReleaseMissing
        | some resolvedCommitSha => .ok (.requeue id resolvedCommitSha requestedBy)
      | none => .ok (.insert ((retryInput previous requestedBy).row newId createdAt) previous.id)
    else .error .operationConflict

/-- A retry is written, and says whether it has been registered. -/
def writeRetry : RetryWrite GatewayOperation → ControlPlane × Bool
  | .nothing => (db, false)
  | .requeue id resolvedCommitSha requestedBy =>
    ((db.updateRows .profile (fun row => row.id = id)
      (OperationColumns.requeuedInBulk resolvedCommitSha requestedBy)).log id "queue"
        "일괄 업데이트의 고정 커밋으로 재시도가 등록되었습니다.", true)
  | .insert row previousId =>
    ((db.insertOperation row).log row.id "queue" s!"작업 {previousId}의 재시도가 등록되었습니다.", true)

/-- An operation that has failed or was cancelled is tried again; a target of a bulk release keeps its row. -/
def retryOperation (id requestedBy newId : String) (createdAt processNow : Int) :
    Except ControlPlaneError (ControlPlane × Bool) :=
  (db.readRetry id requestedBy newId createdAt processNow).map db.writeRetry

/-- The owner of a running row extends the lease. -/
def renewOperationLease (lane : Lane) (id ownerId : String) (now : Int) (durationMs : Nat) : ControlPlane × Bool :=
  (db.updateRows lane (OperationColumns.isHeldBy id ownerId) fun row =>
    { row with leaseUntil := some (now + durationMs), heartbeatAt := some now },
   ((db.rows lane).filter (OperationColumns.isHeldBy id ownerId)).length = 1)

/-- The owner of a running row fixes the version; one that is fixed does not change. -/
def pinOperationResolvedCommit (lane : Lane) (id ownerId resolvedCommitSha : String) : ControlPlane × Bool :=
  (db.updateRows lane (OperationColumns.canPin id ownerId resolvedCommitSha) fun row =>
    { row with resolvedCommitSha := some resolvedCommitSha },
   ((db.rows lane).filter (OperationColumns.canPin id ownerId resolvedCommitSha)).length = 1)

/-- Stores a line of a release's log. -/
def releaseLog (id phase message : String) : ControlPlane :=
  { db with releaseLogs := db.releaseLogs ++ [⟨id, "INFO", phase, message⟩] }

/-- An operator cancels a release that waits or is still being built. -/
def cancelRelease (id : String) (processNow : Int) : ControlPlane × Bool :=
  match (db.rows .release).find? fun row => row.id = id with
  | none => (db, false)
  | some row =>
    if row.status = .queued ∨ row.status = .running ∧ ∃ phase ∈ latestPhase db.releaseLogs id, phase ∈ buildPhases then
      let next := db.updateRows .release (fun stored => stored.id = id ∧ stored.status = row.status)
        (OperationColumns.settled .cancelled (some processNow))
      (next.releaseLog id "cancel" (if row.status = .running then
        "실행 중인 Gateway 빌드를 중단했습니다. 현재 active release는 유지됩니다." else "대기 중인 Gateway 릴리스를 취소했습니다."), true)
    else (db, false)

/-- The row of a release that is tried again. -/
def retryRelease (previous : GatewayReleaseOperation) (requestedBy newId : String) (createdAt : Int) :
    GatewayReleaseOperation where
  id := newId
  status := .queued
  sourceMode := if (previous.resolvedCommitSha.filter (· ≠ "")).isSome then some .commit else previous.sourceMode
  sourceRef := previous.resolvedCommitSha.or previous.sourceRef
  resolvedCommitSha := none
  reason := previous.reason
  requestedBy
  startedAt := none
  completedAt := none
  error := none
  leaseOwner := none
  leaseUntil := none
  heartbeatAt := none
  attempts := 0
  bulkReleaseId := none
  bulkOrder := none
  createdAt
  type := previous.type
  payload := previous.payload

/-- A retry of a release reads it and decides what to write. -/
def readReleaseRetry (id requestedBy newId : String) (createdAt : Int) :
    Except ControlPlaneError (RetryWrite GatewayReleaseOperation) :=
  match db.releases.find? fun release => release.id = id with
  | none => .ok .nothing
  | some previous =>
    if previous.status ≠ .failed ∧ previous.status ≠ .cancelled then .ok .nothing
    else
      match previous.bulkReleaseId with
      | some bulkReleaseId =>
        match db.bulkReleases bulkReleaseId with
        | none => .error .bulkReleaseMissing
        | some resolvedCommitSha => .ok (.requeue id resolvedCommitSha requestedBy)
      | none => .ok (.insert (retryRelease previous requestedBy newId createdAt) previous.id)

/-- A retry of a release is written, whatever the release has become since it was read. -/
def writeReleaseRetry : RetryWrite GatewayReleaseOperation → ControlPlane × Bool
  | .nothing => (db, false)
  | .requeue id resolvedCommitSha requestedBy =>
    ((db.updateRows .release (fun row => row.id = id)
      (OperationColumns.requeuedInBulk resolvedCommitSha requestedBy)).releaseLog id "queue"
        "일괄 업데이트의 고정 커밋으로 재시도가 등록되었습니다.", true)
  | .insert row _ => ({ db with releases := db.releases ++ [row] }, true)

end ControlPlane

end Sammo.Gateway
