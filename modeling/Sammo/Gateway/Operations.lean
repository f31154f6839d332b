import Mathlib.Data.List.Nodup
import Sammo.Data.Json

/-! The operations that the control plane carries out on the profiles, as the gateway database stores them. -/

namespace Sammo.Gateway

/-- The state a game profile is in. -/
inductive GatewayProfileStatus where
  | reserved
  | preopen
  | running
  | paused
  | completed
  | cancelled
  | stopped
  | disabled
  deriving DecidableEq

/-- What an operation does to its profile. -/
inductive GatewayOperationType where
  | reset
  | deploy
  | cancelGame
  | start
  | stop
  deriving DecidableEq

/-- How far an operation is. -/
inductive GatewayOperationStatus where
  | queued
  | running
  | succeeded
  | failed
  | cancelled
  deriving DecidableEq

/-- Where the version of an operation comes from. -/
inductive GatewaySourceMode where
  | branch
  | commit
  deriving DecidableEq

/-- A version, or the branch whose newest version is meant. -/
structure ProfileReleaseSource where
  mode : GatewaySourceMode
  ref : String
  deriving DecidableEq

/-- What users' generals do on their own. -/
structure AutorunUser where
  limitMinutes : Nat
  options : List String
  deriving DecidableEq

/-- The settings of a game that is to be opened; the two instants are texts. -/
structure OpeningInstall where
  scenarioId : Nat
  turnTermMinutes : Nat
  sync : Bool
  fiction : Nat
  extend : Bool
  blockGeneralCreate : Nat
  npcMode : Nat
  showImgLevel : Nat
  tournamentTrig : Bool
  joinMode : String
  autorunUser : Option AutorunUser
  preopenAt : String
  openAt : String
  deriving DecidableEq

/-- The season of a profile: the scenario that is played, and when it was opened. -/
structure SeasonKey where
  currentScenario : Option String
  openAt : Option Int
  deriving DecidableEq

/-- What an operation that comes from an open request carries. -/
structure OpeningPayload where
  install : OpeningInstall
  releaseSource : ProfileReleaseSource
  openRequestId : String
  openRequestSeasonKey : SeasonKey

/-- The payload of an operation. -/
structure OperationPayload where
  installOperationId : Option String
  opening : Option OpeningPayload
  /-- The fields that are only handed on. -/
  other : Record

/-- The columns that the two tables of operations have in common. -/
structure OperationColumns where
  id : String
  status : GatewayOperationStatus
  sourceMode : Option GatewaySourceMode
  sourceRef : Option String
  resolvedCommitSha : Option String
  reason : Option String
  requestedBy : String
  startedAt : Option Int
  completedAt : Option Int
  error : Option String
  leaseOwner : Option String
  leaseUntil : Option Int
  heartbeatAt : Option Int
  attempts : Nat
  bulkReleaseId : Option String
  bulkOrder : Option Int
  createdAt : Int

/-- A row of the operation table. -/
structure GatewayOperation extends OperationColumns where
  profileName : String
  type : GatewayOperationType
  payload : OperationPayload
  scheduledAt : Option Int

/-- The ids of some operations. -/
def operationIds (operations : List GatewayOperation) : List String := operations.map fun operation => operation.id

theorem operationIds_append {operations : List GatewayOperation} {operation : GatewayOperation}
    (distinct : (operationIds operations).Nodup) (fresh : operation.id ∉ operationIds operations) :
    (operationIds (operations ++ [operation])).Nodup := by
  rw [operationIds, List.map_append, List.nodup_append]
  refine ⟨distinct, List.nodup_singleton _, ?_⟩
  intro id inside other last same
  rw [same, List.mem_singleton.mp last] at inside
  exact fresh inside

theorem operationIds_map {change : GatewayOperation → GatewayOperation}
    (same : ∀ operation, (change operation).id = operation.id) (operations : List GatewayOperation) :
    operationIds (operations.map change) = operationIds operations := by
  rw [operationIds, List.map_map]
  exact List.map_congr_left fun operation _ => same operation

/-- An operation is waiting or at work. -/
def GatewayOperationStatus.Active (status : GatewayOperationStatus) : Prop := status = .queued ∨ status = .running

instance (status : GatewayOperationStatus) : Decidable status.Active := inferInstanceAs (Decidable (_ ∨ _))

/-- What a new operation is made of. -/
structure GatewayOperationCreateInput where
  profileName : String
  type : GatewayOperationType
  sourceMode : Option GatewaySourceMode
  sourceRef : Option String
  payload : OperationPayload
  reason : Option String
  requestedBy : String
  scheduledAt : Option Int

/-- The row of a new operation. -/
def GatewayOperationCreateInput.row (input : GatewayOperationCreateInput) (id : String) (createdAt : Int) :
    GatewayOperation where
  id := id
  profileName := input.profileName
  type := input.type
  status := .queued
  sourceMode := input.sourceMode
  sourceRef := input.sourceRef
  resolvedCommitSha := none
  payload := input.payload
  reason := input.reason
  requestedBy := input.requestedBy
  scheduledAt := input.scheduledAt
  startedAt := none
  completedAt := none
  error := none
  leaseOwner := none
  leaseUntil := none
  heartbeatAt := none
  attempts := 0
  bulkReleaseId := none
  bulkOrder := none
  createdAt := createdAt

/-- The payload of a retry names the operation that was tried first. -/
def buildRetryOperationPayload (previousPayload : OperationPayload) (previousOperationId : String) : OperationPayload :=
  { previousPayload with
    installOperationId := some (previousPayload.installOperationId.getD previousOperationId) }

/-- The source of a retry: the version that was resolved, or the one that was asked for. -/
def buildRetryOperationSource (previous : OperationColumns) : Option GatewaySourceMode × Option String :=
  -- An empty version counts as none.
  match previous.resolvedCommitSha.filter (· ≠ "") with
  | some resolved => (some .commit, some resolved)
  | none => (previous.sourceMode, previous.sourceRef)

/-- An operation of some type may be queued beside the active ones: a deployment beside a reset that is still to come. -/
def canQueueAlongsideActiveOperations (type : GatewayOperationType) (scheduledAt : Option Int)
    (activeOperations : List GatewayOperation) (now : Int) : Bool :=
  match activeOperations with
  | [] => true
  | [reservedReset] =>
    type = .deploy ∧ scheduledAt = none ∧ reservedReset.type = .reset ∧ reservedReset.status = .queued ∧
      ∃ due ∈ reservedReset.scheduledAt, now < due
  | _ => false

end Sammo.Gateway
