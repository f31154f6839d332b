import Sammo.Gateway.ControlPlane
import Sammo.Lib.StateMachine

/-! The transactions of the orchestrators and operators on the control plane, statement by statement. -/

namespace Sammo.Gateway.Transactions

/-- How far a profile's build is. -/
inductive GatewayBuildStatus where
  | idle
  | queued
  | running
  | failed
  | succeeded
  deriving DecidableEq

/-- A row of the table of profiles. -/
structure GatewayProfileRow where
  profileName : String
  currentScenario : Option String
  scenario : String
  status : GatewayProfileStatus
  buildStatus : GatewayBuildStatus
  buildCommitSha : Option String
  buildWorkspace : Option String
  buildLastUsedAt : Option Int
  preopenAt : Option Int
  openAt : Option Int
  scheduledStartAt : Option Int
  buildRequestedAt : Option Int
  buildStartedAt : Option Int
  buildCompletedAt : Option Int
  buildError : Option String
  lastError : Option String
  metaRecord : Record

/-- What the owner of an operation changes of its profile; what is missing stays as it is. -/
structure GatewayClaimedProfileUpdate where
  currentScenario : Option (Option String)
  status : Option GatewayProfileStatus
  buildStatus : Option GatewayBuildStatus
  buildCommitSha : Option (Option String)
  buildWorkspace : Option (Option String)
  buildLastUsedAt : Option (Option Int)
  preopenAt : Option (Option Int)
  openAt : Option (Option Int)
  scheduledStartAt : Option (Option Int)
  buildRequestedAt : Option (Option Int)
  buildStartedAt : Option (Option Int)
  buildCompletedAt : Option (Option Int)
  buildError : Option (Option String)
  lastError : Option (Option String)
  metaRecord : Option Record

/-- A profile after such a change. -/
def GatewayClaimedProfileUpdate.apply (patch : GatewayClaimedProfileUpdate) (row : GatewayProfileRow) :
    GatewayProfileRow where
  profileName := row.profileName
  currentScenario := patch.currentScenario.getD row.currentScenario
  scenario := (patch.currentScenario.map fun scenario => scenario.getD "default").getD row.scenario
  status := patch.status.getD row.status
  buildStatus := patch.buildStatus.getD row.buildStatus
  buildCommitSha := patch.buildCommitSha.getD row.buildCommitSha
  buildWorkspace := patch.buildWorkspace.getD row.buildWorkspace
  buildLastUsedAt := patch.buildLastUsedAt.getD row.buildLastUsedAt
  preopenAt := patch.preopenAt.getD row.preopenAt
  openAt := patch.openAt.getD row.openAt
  scheduledStartAt := patch.scheduledStartAt.getD row.scheduledStartAt
  buildRequestedAt := patch.buildRequestedAt.getD row.buildRequestedAt
  buildStartedAt := patch.buildStartedAt.getD row.buildStartedAt
  buildCompletedAt := patch.buildCompletedAt.getD row.buildCompletedAt
  buildError := patch.buildError.getD row.buildError
  lastError := patch.lastError.getD row.lastError
  metaRecord := patch.metaRecord.getD row.metaRecord

/-- A profile whose running build has been cancelled. -/
def GatewayProfileRow.buildCancelled (row : GatewayProfileRow) : GatewayProfileRow :=
  { row with
    buildStatus := .succeeded
    buildRequestedAt := none
    buildStartedAt := none
    buildCompletedAt := none
    buildError := none }

/-- What the gateway itself runs. -/
structure GatewayReleaseState where
  activeCommitSha : Option String
  activeWorkspace : Option String
  previousCommitSha : Option String
  previousWorkspace : Option String
  lastSuccessfulAt : Option Int
  lastError : Option String
  deriving DecidableEq

/-- A release that goes live; a missing version or workspace stays as it is. -/
structure PublishedRelease where
  commitSha : String
  workspace : String
  previousCommitSha : Option String
  previousWorkspace : Option String

/-- The state of the gateway once a release is live. -/
def PublishedRelease.apply (release : PublishedRelease) (publishedAt : Int) (before : GatewayReleaseState) :
    GatewayReleaseState where
  activeCommitSha := some release.commitSha
  activeWorkspace := some release.workspace
  previousCommitSha := release.previousCommitSha.or before.previousCommitSha
  previousWorkspace := release.previousWorkspace.or before.previousWorkspace
  lastSuccessfulAt := some publishedAt
  lastError := none

/-- How far the transaction of a claim is. -/
inductive ClaimPhase where
  /-- It waits for the lock on the control plane. -/
  | waiting
  | locked
  /-- Nothing of the other table was running. -/
  | alone
  /-- Nothing of the own table was running, or something whose owner has been lost. -/
  | looked (running : Option OperationColumns)
  /-- The deployments that a reset has overtaken are cancelled. -/
  | swept (running : Option OperationColumns)
  /-- Those candidates are left. -/
  | searching (queue : List OperationColumns)
  /-- So many releases stand in the way of a candidate; the operations of profiles are still to be counted. -/
  | counting (candidate : OperationColumns) (rest : List OperationColumns) (blocking : Nat)
  | chosen (candidate : OperationColumns)

/-- A claim on one of the tables; the transaction's time is when it began. -/
structure Claim where
  lane : Lane
  lease : Lease
  ties : String → Nat
  now : Int
  phase : ClaimPhase

/-- How far the retry of a profile's operation is. -/
inductive RetryPhase where
  | waiting
  | locked
  | writing (write : RetryWrite GatewayOperation)

/-- A transaction that has begun. -/
inductive Transaction where
  | claim (claim : Claim)
  /-- The owner's operation is locked, and the profile is about to be written. -/
  | updateProfile (id ownerId profileName : String) (patch : GatewayClaimedProfileUpdate)
  /-- The owner was found to hold the release. -/
  | publish (operationId leaseOwner : String) (release : PublishedRelease) (processNow : Int)
  | retryOperation (id requestedBy newId : String) (createdAt processNow : Int) (phase : RetryPhase)
  /-- The release was read, and is about to be written. -/
  | retryRelease (write : RetryWrite GatewayReleaseOperation)

/-- The database, its lock on the control plane, and the transactions that are under way. -/
structure State where
  now : Int
  db : ControlPlane
  profiles : List GatewayProfileRow
  releaseState : GatewayReleaseState
  lock : Option Nat
  transactions : List (Nat × Transaction)

/-- Something of a table is running. -/
def isRunning (rows : List OperationColumns) : Bool := rows.any fun row => row.status = .running

/-- How many targets of one table stand in the way of a candidate. -/
def countBlocking (rows : List OperationColumns) (candidate : OperationColumns) : Nat :=
  (rows.filter fun other => other.Precedes candidate ∧ other.status ≠ .succeeded).length

/-- The next statement of a claim that has the lock: what it writes, and how it goes on, if it does. -/
def Claim.next (claim : Claim) (db : ControlPlane) : ControlPlane × Option ClaimPhase :=
  match claim.phase with
  | .waiting => (db, some .locked)
  | .locked => (db, if isRunning (db.rows claim.lane.other) then none else some .alone)
  | .alone =>
    let running := OperationColumns.firstRunning claim.ties (db.rows claim.lane)
    (db, if ∃ row ∈ running, ¬ row.isStale claim.now claim.lease.durationMs then none else some (.looked running))
  | .looked running =>
    (match claim.lane with
      | .profile => db.expireInterimDeploys claim.now
      | .release => db, some (.swept running))
  | .swept (some running) => (db, some (.chosen running))
  | .swept none =>
    (db, some (.searching
      (((db.queuedRows claim.now claim.lane).insertionSort (OperationColumns.QueuesBefore claim.ties)).take 200)))
  | .searching [] => (db, none)
  | .searching (candidate :: rest) =>
    if candidate.bulkReleaseId = none ∨ candidate.bulkOrder = none then (db, some (.chosen candidate))
    else (db, some (.counting candidate rest (countBlocking (db.rows .release) candidate)))
  | .counting candidate rest blocking =>
    (db, some (if blocking + countBlocking (db.rows .profile) candidate = 0 then .chosen candidate else .searching rest))
  | .chosen candidate =>
    (db.updateRows claim.lane (candidate.claimable claim.now) (candidate.claimed (some claim.lease) claim.now), none)

/-- The operation that a transaction has locked. -/
def Transaction.lockedRow : Transaction → Option String
  | .updateProfile id .. => some id
  | _ => none

/-- A call whose transaction takes several statements. -/
inductive Call where
  | claimNextOperation (lane : Lane) (lease : Lease) (ties : String → Nat)
  | updateProfileForOperation (id ownerId profileName : String) (patch : GatewayClaimedProfileUpdate)
  | publishRelease (operationId leaseOwner : String) (release : PublishedRelease) (processNow : Int)
  | retryOperation (id requestedBy newId : String) (processNow : Int)
  | retryRelease (id requestedBy newId : String)

/-- What happens to the control plane; a call with one statement, or one that locks its row first, is one event. -/
inductive Event where
  | advance (milliseconds : Nat)
  | start (transaction : Nat) (call : Call)
  | proceed (transaction : Nat)
  | renewOperationLease (lane : Lane) (id ownerId : String) (durationMs : Nat)
  | pinOperationResolvedCommit (lane : Lane) (id ownerId resolvedCommitSha : String)
  | completeOperation (lane : Lane) (id : String) (succeeded : Bool) (fields : CompletionFields) (leaseOwner : String)
    (processNow : Int)
  | requeueOperation (id : String) (detail : Option String) (retryAt : Option Int) (leaseOwner : String)
  | cancelOperation (lane : Lane) (id : String) (processNow : Int)
  | appendOperationLog (lane : Lane) (id level phase message : String)
  /-- An operator or an open request queues an operation. -/
  | queueOperation (input : GatewayOperationCreateInput) (newId : String)

/-- What is answered. -/
inductive Output where
  | done
  | answered (succeeded : Bool)
  | failed (error : ControlPlaneError)

namespace State

variable (state : State)

/-- The transaction with a number. -/
def transaction? (number : Nat) : Option Transaction := (state.transactions.find? fun entry => entry.1 = number).map Prod.snd

/-- A transaction has locked an operation of a profile. -/
def rowLocked (lane : Lane) (id : String) : Bool :=
  lane = .profile ∧ ∃ entry ∈ state.transactions, entry.2.lockedRow = some id

/-- The state with other tables. -/
def withDb (db : ControlPlane) : State := { state with db }

/-- A transaction goes on. -/
def goOn (number : Nat) (transaction : Transaction) : State :=
  { state with transactions := (number, transaction) :: state.transactions.filter fun entry => entry.1 ≠ number }

/-- A transaction ends, and gives its lock back. -/
def finish (number : Nat) : State :=
  { state with
    transactions := state.transactions.filter fun entry => entry.1 ≠ number
    lock := if state.lock = some number then none else state.lock }

/-- An owner holds a row of a table. -/
def holds (lane : Lane) (id ownerId : String) : Bool := (state.db.rows lane).any (OperationColumns.isHeldBy id ownerId)

/-- An owner holds the operation of a profile. -/
def holdsOf (id ownerId profileName : String) : Bool :=
  state.db.operations.any fun operation => operation.isHeldBy id ownerId ∧ operation.profileName = profileName

/-- A transaction begins with its first statement; one that waits for a locked row has not begun. -/
def start (number : Nat) : Call → Option (State × Output)
  | .claimNextOperation lane lease ties =>
    some (state.goOn number (.claim ⟨lane, lease, ties, state.now, .waiting⟩), .done)
  | .updateProfileForOperation id ownerId profileName patch =>
    if state.rowLocked .profile id then none
    else if state.holdsOf id ownerId profileName then
      some (state.goOn number (.updateProfile id ownerId profileName patch), .done)
    else some (state, .answered false)
  | .publishRelease operationId leaseOwner release processNow =>
    if state.holds .release operationId leaseOwner then
      some (state.goOn number (.publish operationId leaseOwner release processNow), .done)
    else some (state, .failed (.leaseLost operationId))
  | .retryOperation id requestedBy newId processNow =>
    some (state.goOn number (.retryOperation id requestedBy newId state.now processNow .waiting), .done)
  | .retryRelease id requestedBy newId =>
    match state.db.readReleaseRetry id requestedBy newId state.now with
    | .error error => some (state, .failed error)
    | .ok .nothing => some (state, .answered false)
    | .ok write => some (state.goOn number (.retryRelease write), .done)

/-- A claim waits for the row that it is about to write. -/
def waitsForRow (lane : Lane) : ClaimPhase → Bool
  | .chosen candidate => state.rowLocked lane candidate.id
  | _ => false

/-- A claim takes the lock, or executes its next statement. -/
def proceedClaim (number : Nat) (claim : Claim) : Option (State × Output) :=
  match claim.phase with
  | .waiting =>
    if state.lock = none then
      some ({ state with lock := some number }.goOn number (.claim { claim with phase := .locked }), .done)
    else none
  | phase =>
    if state.waitsForRow claim.lane phase then none
    else
      match claim.next state.db with
      | (db, some next) => some ((state.withDb db).goOn number (.claim { claim with phase := next }), .done)
      | (db, none) => some ((state.withDb db).finish number, .done)

/-- The row that a retry stores has a new id. -/
def storesFresh : RetryWrite GatewayOperation → Bool
  | .insert row _ => row.id ∉ operationIds state.db.operations
  | _ => true

/-- The row that a retry of a release stores has a new id. -/
def storesFreshRelease : RetryWrite GatewayReleaseOperation → Bool
  | .insert row _ => ∀ other ∈ state.db.rows .release, other.id ≠ row.id
  | _ => true

/-- A retry writes what it has decided. -/
def proceedRetry (number : Nat) (write : RetryWrite GatewayOperation) : Option (State × Output) :=
  if state.storesFresh write then some ((state.withDb (state.db.writeRetry write).1).finish number, .answered true)
  else none

/-- A retry of a release writes what it has decided. -/
def proceedReleaseRetry (number : Nat) (write : RetryWrite GatewayReleaseOperation) : Option (State × Output) :=
  if state.storesFreshRelease write then
    some ((state.withDb (state.db.writeReleaseRetry write).1).finish number, .answered true)
  else none

/-- A profile with a change. -/
def updateProfile (profileName : String) (patch : GatewayClaimedProfileUpdate) : State :=
  { state with profiles := state.profiles.map fun row => if row.profileName = profileName then patch.apply row else row }

/-- A transaction executes its next statement. -/
def proceed (number : Nat) : Transaction → Option (State × Output)
  | .claim claim => state.proceedClaim number claim
  | .updateProfile _ _ profileName patch => some ((state.updateProfile profileName patch).finish number, .answered true)
  | .publish _ _ release processNow =>
    some ({ state with releaseState := release.apply processNow state.releaseState }.finish number, .answered true)
  | .retryOperation id requestedBy newId createdAt processNow .waiting =>
    if state.lock = none then
      some ({ state with lock := some number }.goOn number
        (.retryOperation id requestedBy newId createdAt processNow .locked), .done)
    else none
  | .retryOperation id requestedBy newId createdAt processNow .locked =>
    match state.db.readRetry id requestedBy newId createdAt processNow with
    | .error error => some (state.finish number, .failed error)
    | .ok write => some (state.goOn number (.retryOperation id requestedBy newId createdAt processNow (.writing write)), .done)
  | .retryOperation _ _ _ _ _ (.writing write) => state.proceedRetry number write
  | .retryRelease write => state.proceedReleaseRetry number write

/-- The profile whose running build an operator is about to cancel. -/
def buildCancelled (id : String) : Option String :=
  (state.db.operations.find? fun operation => operation.id = id ∧ operation.status = .running ∧
    state.db.cancellable operation).map GatewayOperation.profileName

/-- An operator cancels an operation or a release. -/
def cancelOperation (id : String) (processNow : Int) : Lane → State × Output
  | .profile =>
    let result := state.db.cancelOperation id processNow
    ({ state with
        db := result.1
        profiles := state.profiles.map fun row =>
          if state.buildCancelled id = some row.profileName then row.buildCancelled else row }, .answered result.2)
  | .release =>
    let result := state.db.cancelRelease id processNow
    (state.withDb result.1, .answered result.2)

/-- What a call leaves; a call that throws is rolled back. -/
def answer : Except ControlPlaneError ControlPlane → State × Output
  | .ok db => (state.withDb db, .answered true)
  | .error error => (state, .failed error)

end State

/-- Any number of orchestrators and operators on the control plane, whose statements come in any order. -/
def machine : StateMachine State Event Output where
  step state
    | .advance milliseconds => some ({ state with now := state.now + milliseconds }, .done)
    | .start number call => if (state.transaction? number).isSome then none else state.start number call
    | .proceed number => (state.transaction? number).bind (state.proceed number)
    | .renewOperationLease lane id ownerId durationMs =>
      if state.rowLocked lane id then none
      else
        let result := state.db.renewOperationLease lane id ownerId state.now durationMs
        some (state.withDb result.1, .answered result.2)
    | .pinOperationResolvedCommit lane id ownerId resolvedCommitSha =>
      if state.rowLocked lane id then none
      else
        let result := state.db.pinOperationResolvedCommit lane id ownerId resolvedCommitSha
        some (state.withDb result.1, .answered result.2)
    | .completeOperation lane id succeeded fields leaseOwner processNow =>
      if state.rowLocked lane id then none
      else some (state.answer (state.db.completeOperation lane id (if succeeded then .succeeded else .failed) fields
        leaseOwner processNow))
    | .requeueOperation id detail retryAt leaseOwner =>
      if state.rowLocked .profile id then none
      else some (state.answer (state.db.requeueOperation id detail retryAt leaseOwner))
    | .cancelOperation lane id processNow =>
      if state.rowLocked lane id then none else some (state.cancelOperation id processNow lane)
    | .appendOperationLog lane id level phase message =>
      if state.rowLocked lane id then none
      else some (state.withDb (state.db.appendOperationLog id level phase message lane), .done)
    | .queueOperation input newId =>
      if newId ∈ operationIds state.db.operations then none
      else some (state.withDb (state.db.insertOperation (input.row newId state.now)), .done)

end Sammo.Gateway.Transactions
