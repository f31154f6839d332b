import Mathlib.Data.List.Dedup
import Mathlib.Data.List.Sort
import Mathlib.Logic.Function.Basic
import Sammo.Gateway.Operations
import Sammo.Lib.StateMachine

/-! Requests of the members of a closed profile to open it again, and the consensus that reserves one of them. -/

namespace Sammo.Gateway.OpenRequests

/-- How a profile takes open requests. -/
structure OpenRequestPolicy where
  enabled : Bool
  lifetimeDays : Nat
  buildLeadMinutes : Nat
  /-- How many endorsements reserve a request; without a number, only an opener accepts it. -/
  endorsementThreshold : Option Nat
  deriving DecidableEq

/-- What the service reads of the profile. -/
structure Profile where
  profileName : String
  status : GatewayProfileStatus
  currentScenario : Option String
  openAt : Option Int
  policy : OpenRequestPolicy
  /-- The stored source of new versions, if it is a valid one. -/
  releaseSource : Option ProfileReleaseSource
  /-- The version that is deployed; a blank one counts as none. -/
  buildCommitSha : Option String
  deriving DecidableEq

/-- A profile can be opened again once it is closed. -/
def canRequestOpening (status : GatewayProfileStatus) : Bool :=
  status = .completed ∨ status = .stopped ∨ status = .cancelled

/-- The season that a profile is in. -/
def openingSeasonKey (profile : Profile) : SeasonKey := ⟨profile.currentScenario, profile.openAt⟩

/-- The source of a profile's versions: the stored one, or the deployed version. -/
def readProfileReleaseSource (profile : Profile) : Option ProfileReleaseSource :=
  profile.releaseSource.or (profile.buildCommitSha.map fun sha => ⟨.commit, sha⟩)

/-- How far a request is. -/
inductive OpenRequestStatus where
  | pending
  | reserved
  | expired
  | withdrawn
  | rejected
  | superseded
  deriving DecidableEq

/-- What is announced of a request. -/
structure Announcement where
  scenarioTitle : String
  defaultStatTotal : Nat
  deriving DecidableEq

/-- A row of the request table. -/
structure OpenRequest where
  id : String
  requestedBy : String
  status : OpenRequestStatus
  install : OpeningInstall
  announcement : Announcement
  seasonKey : SeasonKey
  expiresAt : Int
  preopenAt : Int
  openAt : Int
  operationId : Option String
  decidedBy : Option String
  decidedAt : Option Int
  createdAt : Int
  deriving DecidableEq

/-- The gateway database, as far as it is about one profile. -/
structure State (User : Type) where
  now : Int
  profile : Profile
  users : String → Option User
  requests : List OpenRequest
  /-- Who has endorsed which request. -/
  endorsements : List (String × String)
  operations : List GatewayOperation

/-- The rules that the service takes from elsewhere. -/
structure OpeningRules (User : Type) where
  /-- Whether a user is a full member of the profile. -/
  isOpeningMember : User → Profile → Int → Bool
  /-- The instant that a text denotes. -/
  instantOf : String → Int

/-- A scenario of some version. -/
structure ScenarioPreview where
  title : String
  defaultStatTotal : Nat

/-- What the repository of the game's versions answers. -/
structure Versions where
  resolve : ProfileReleaseSource → Option String
  scenario : String → Nat → Option ScenarioPreview
  supportsProfileReleaseBuild : String → Bool

/-- The kind of a failure. -/
inductive FailureCode where
  | badRequest
  | conflict
  | forbidden
  | notFound
  | preconditionFailed
  | internal
  deriving DecidableEq

/-- Why a request was refused. -/
structure Failure where
  code : FailureCode
  message : String
  deriving DecidableEq

/-- What the service answers. -/
structure OpenRequestResult where
  id : String
  status : OpenRequestStatus
  deriving DecidableEq

/-- When the build of a game begins. -/
def buildAt (preopenAt : Int) (lead : Nat) : Int := preopenAt - lead * 60000

/-- The status of a request; one that is over without having been touched is still stored as pending. -/
def activeStatus (request : OpenRequest) (profile : Profile) (now : Int) : OpenRequestStatus :=
  if request.status ≠ .pending then request.status
  else if ¬ canRequestOpening profile.status ∨ request.seasonKey ≠ openingSeasonKey profile then .superseded
  else if request.expiresAt ≤ now ∨ buildAt request.preopenAt profile.policy.buildLeadMinutes ≤ now then .expired
  else request.status

/-- The version whose scenarios are offered. -/
def resolveOpeningCatalogCommit (versions : Versions) (profile : Profile) : Except Failure String :=
  match profile.buildCommitSha with
  | some sha => .ok sha
  | none =>
    match readProfileReleaseSource profile with
    | none => .error ⟨.preconditionFailed, "서버의 배포 버전 또는 패치 정책이 필요합니다."⟩
    | some source =>
      match versions.resolve source with
      | none => .error ⟨.preconditionFailed, "서버 패치 정책의 시나리오 버전을 확인하지 못했습니다."⟩
      | some commit => .ok commit

/-- The requests in the order of their age. -/
def comesFirst (left right : OpenRequest) : Prop :=
  left.createdAt < right.createdAt ∨ left.createdAt = right.createdAt ∧ left.id ≤ right.id

instance : DecidableRel comesFirst := fun _ _ => inferInstanceAs (Decidable (_ ∨ _))

/-- What a transaction brings along: fresh ids, the clock when an operation is admitted, and the versions there are. -/
structure Surroundings where
  versions : Versions
  newId : String
  startedAt : Int
  admissionNow : Int

section service

variable {User : Type} (rules : OpeningRules User) (surroundings : Surroundings) (state : State User)

namespace State

/-- Whether the user with an id is a full member. -/
def isMember (userId : String) : Bool :=
  (state.users userId).any fun user => rules.isOpeningMember user state.profile state.now

/-- An operation on the profile is waiting or at work. -/
def hasActiveOperation : Bool := state.operations.any fun operation => operation.status.Active

/-- Who has endorsed a request. -/
def endorsers (requestId : String) : List String :=
  (state.endorsements.filter fun endorsement => endorsement.1 = requestId).map Prod.snd

/-- How many of the endorsers are full members now. -/
def validEndorsements (requestId : String) : Nat :=
  ((state.endorsers requestId).dedup.filter (state.isMember rules)).length

/-- A request in another status. -/
def updateRequest (id : String) (change : OpenRequest → OpenRequest) : State User :=
  { state with requests := state.requests.map fun request => if request.id = id then change request else request }

/-- The requests of the profile that are stored as pending. -/
def pending : List OpenRequest := state.requests.filter fun request => request.status = .pending

/-- The pending requests are looked through before a new one: those that are over are marked, an own one ends it. -/
def sweep (userId : String) (install : OpeningInstall) :
    State User → List OpenRequest → Except Failure (State User × Option OpenRequestResult)
  | current, [] => .ok (current, none)
  | current, request :: rest =>
    let status := activeStatus request state.profile state.now
    if status ≠ .pending then
      sweep userId install (current.updateRequest request.id fun stored => { stored with status }) rest
    else if request.requestedBy = userId then
      if request.install = install then .ok (current, some ⟨request.id, request.status⟩)
      else .error ⟨.conflict, "기존 요청을 철회한 뒤 새 요청을 등록해 주세요."⟩
    else sweep userId install current rest

/-- The row of a new request. -/
def newRequest (userId : String) (install : OpeningInstall) (scenario : ScenarioPreview) : OpenRequest :=
  let preopenAt := rules.instantOf install.preopenAt
  { id := surroundings.newId
    requestedBy := userId
    status := .pending
    install
    announcement := ⟨scenario.title, scenario.defaultStatTotal⟩
    seasonKey := openingSeasonKey state.profile
    expiresAt := min (state.now + state.profile.policy.lifetimeDays * 86400000)
      (buildAt preopenAt state.profile.policy.buildLeadMinutes)
    preopenAt
    openAt := rules.instantOf install.openAt
    operationId := none
    decidedBy := none
    decidedAt := none
    createdAt := surroundings.startedAt }

/-- Stores a new request. -/
def insertRequest (request : OpenRequest) : State User := { state with requests := state.requests ++ [request] }

/-- The automatic play of a request is set up in full or not at all. -/
def autorunComplete (install : OpeningInstall) : Bool :=
  install.autorunUser.all fun autorun => (0 < autorun.limitMinutes) = (autorun.options ≠ [])

/-- A member asks for the profile to be opened. -/
def createOpenRequest (userId : String) (install : OpeningInstall) : Except Failure (State User × OpenRequestResult) :=
  let policy := state.profile.policy
  let preopenAt := rules.instantOf install.preopenAt
  if ¬ state.isMember rules userId then
    .error ⟨.forbidden, "카카오 인증 또는 이 서버의 정식 접근 허용이 필요합니다."⟩
  else if ¬ policy.enabled ∨ ¬ canRequestOpening state.profile.status then
    .error ⟨.conflict, "통일되었거나 닫힌 서버에만 오픈 요청을 할 수 있습니다."⟩
  else if buildAt preopenAt policy.buildLeadMinutes ≤ state.now ∨ rules.instantOf install.openAt ≤ preopenAt then
    .error ⟨.badRequest, "가오픈은 빌드 선행 시간 이후, 정식 오픈은 가오픈 이후여야 합니다."⟩
  else if ¬ autorunComplete install then .error ⟨.badRequest, "자율행동 시간과 항목을 함께 지정해 주세요."⟩
  else if state.hasActiveOperation then .error ⟨.conflict, "진행 중이거나 예약된 서버 작업이 있습니다."⟩
  else
    match state.sweep userId install state state.pending with
    | .error failure => .error failure
    | .ok (swept, some found) => .ok (swept, found)
    | .ok (swept, none) =>
      if 100 ≤ (state.pending.filter fun request => activeStatus request state.profile state.now = .pending).length then
        .error ⟨.conflict, "이 서버의 대기 요청이 너무 많습니다."⟩
      else
        match resolveOpeningCatalogCommit surroundings.versions state.profile with
        | .error failure => .error failure
        | .ok commit =>
          match surroundings.versions.scenario commit install.scenarioId with
          | none => .error ⟨.badRequest, "현재 서버에 없는 시나리오입니다."⟩
          | some scenario =>
            .ok (swept.insertRequest (state.newRequest rules surroundings userId install scenario),
              ⟨surroundings.newId, .pending⟩)

/-- What an operation that opens the profile is made of. -/
def openingInput (request : OpenRequest) (actorId : String) (source : ProfileReleaseSource) (commit : String) :
    GatewayOperationCreateInput where
  profileName := state.profile.profileName
  type := .reset
  sourceMode := some source.mode
  sourceRef := some (if source.mode = .commit then commit else source.ref)
  payload := ⟨none, some ⟨request.install, source, request.id, request.seasonKey⟩, []⟩
  reason := some "사용자 오픈 요청 수락"
  requestedBy := actorId
  scheduledAt := some (buildAt request.preopenAt state.profile.policy.buildLeadMinutes)

/-- A request once an operation has been queued for it, or for another one. -/
def decide (request : OpenRequest) (actorId : String) (stored : OpenRequest) : OpenRequest :=
  if stored.id = request.id then
    { stored with
      status := .reserved, operationId := some surroundings.newId, decidedBy := some actorId
      decidedAt := some state.now }
  else if stored.status = .pending then { stored with status := .superseded, decidedAt := some state.now }
  else stored

/-- The state once a request is reserved. -/
def reserved (request : OpenRequest) (actorId : String) (source : ProfileReleaseSource) (commit : String) : State User :=
  { state with
    operations := state.operations ++
      [(state.openingInput request actorId source commit).row surroundings.newId surroundings.startedAt]
    requests := state.requests.map (state.decide surroundings request actorId) }

/-- Reserves a request: an operation is queued for it, and the other requests are superseded. -/
def reserve (request : OpenRequest) (actorId : String) : Except Failure (State User × OpenRequestResult) :=
  if ¬ state.isMember rules request.requestedBy then
    .error ⟨.conflict, "요청자의 정식 참여 자격을 확인해 주세요."⟩
  else if state.hasActiveOperation then .error ⟨.conflict, "진행 중이거나 예약된 서버 작업이 있습니다."⟩
  else
    match readProfileReleaseSource state.profile with
    | none => .error ⟨.badRequest, "서버 패치 정책이 준비되지 않았습니다."⟩
    | some source =>
      match surroundings.versions.resolve source with
      | none => .error ⟨.internal, "the version cannot be resolved"⟩
      | some commit =>
        if (surroundings.versions.scenario commit request.install.scenarioId).isNone ∨
            ¬ surroundings.versions.supportsProfileReleaseBuild commit then
          .error ⟨.badRequest, "패치 정책의 버전에서 시나리오 또는 배포 빌드를 사용할 수 없습니다."⟩
        else if buildAt request.preopenAt state.profile.policy.buildLeadMinutes ≤ surroundings.admissionNow ∨
            request.expiresAt ≤ surroundings.admissionNow then
          .error ⟨.conflict, "빌드 시작 시각이 지나 요청을 수락할 수 없습니다."⟩
        else .ok (state.reserved surroundings request actorId source commit, ⟨request.id, .reserved⟩)

end State

/-- What can be done about a request. -/
inductive OpenRequestAction where
  | endorse
  | withdraw
  | accept
  | reject
  deriving DecidableEq

namespace State

/-- The state with one more endorsement; a repeated one changes nothing. -/
def endorse (requestId userId : String) : State User :=
  if (requestId, userId) ∈ state.endorsements then state
  else { state with endorsements := state.endorsements ++ [(requestId, userId)] }

/-- An endorsement is stored, and reserves the request once there are enough valid ones. -/
def endorseAndReserve (request : OpenRequest) (userId : String) (threshold : Nat) :
    Except Failure (State User × OpenRequestResult) :=
  let endorsed := state.endorse request.id userId
  if threshold ≤ (endorsed.endorsers request.id).length ∧ threshold ≤ endorsed.validEndorsements rules request.id then
    endorsed.reserve rules surroundings request userId
  else .ok (endorsed, ⟨request.id, .pending⟩)

/-- What is done about a pending request, apart from ending it. -/
def advanceRequest (request : OpenRequest) (userId : String) (action : OpenRequestAction) :
    Except Failure (State User × OpenRequestResult) :=
  if ¬ state.profile.policy.enabled then .error ⟨.conflict, "이 서버는 오픈 요청을 받지 않습니다."⟩
  else if action = .accept then state.reserve rules surroundings request userId
  else if request.requestedBy = userId then
    .error ⟨.badRequest, "요청자는 자신의 요청에 동의할 수 없습니다."⟩
  else
    match state.profile.policy.endorsementThreshold with
    | none => .error ⟨.badRequest, "이 서버는 오프너 수락으로만 예약할 수 있습니다."⟩
    | some threshold => state.endorseAndReserve rules surroundings request userId threshold

/-- A request that its requester or an operator has ended. -/
def ended (request : OpenRequest) (userId : String) (status : OpenRequestStatus) : State User :=
  state.updateRequest request.id fun stored =>
    { stored with status, decidedBy := some userId, decidedAt := some state.now }

/-- Somebody endorses, withdraws, accepts or rejects a request. -/
def actOnRequest (request : OpenRequest) (userId : String) (action : OpenRequestAction) :
    Except Failure (State User × OpenRequestResult) :=
  if action = .endorse ∧ ¬ state.isMember rules userId then
    .error ⟨.forbidden, "카카오 인증 또는 이 서버의 정식 접근 허용이 필요합니다."⟩
  else if action = .withdraw ∧ request.requestedBy ≠ userId then
    .error ⟨.forbidden, "자신의 요청만 철회할 수 있습니다."⟩
  else if request.status = .reserved ∧ (action = .accept ∨ action = .endorse) then
    .ok (state, ⟨request.id, request.status⟩)
  else if action = .withdraw ∧ request.status = .withdrawn then .ok (state, ⟨request.id, request.status⟩)
  else if activeStatus request state.profile state.now ≠ .pending then
    .error ⟨.conflict, "만료되었거나 이미 처리된 요청입니다."⟩
  else if action = .withdraw then .ok (state.ended request userId .withdrawn, ⟨request.id, .withdrawn⟩)
  else if action = .reject then .ok (state.ended request userId .rejected, ⟨request.id, .rejected⟩)
  else state.advanceRequest rules surroundings request userId action

/-- Somebody acts on the request with an id. -/
def actOnOpenRequest (userId id : String) (action : OpenRequestAction) :
    Except Failure (State User × OpenRequestResult) :=
  match state.requests.find? fun request => request.id = id with
  | none => .error ⟨.notFound, "오픈 요청을 찾을 수 없습니다."⟩
  | some request => state.actOnRequest rules surroundings request userId action

/-- The profile under another policy. -/
def withPolicy (policy : OpenRequestPolicy) : State User := { state with profile := { state.profile with policy } }

/-- A request has the endorsements that reserve it. -/
def Supported (threshold : Nat) (request : OpenRequest) : Prop :=
  activeStatus request state.profile state.now = .pending ∧ threshold ≤ (state.endorsers request.id).length ∧
    threshold ≤ state.validEndorsements rules request.id

instance (threshold : Nat) : DecidablePred (state.Supported rules threshold) :=
  fun _ => inferInstanceAs (Decidable (_ ∧ _ ∧ _))

/-- The first request that has the endorsements is reserved, if there is one. -/
def reserveOldest (threshold : Nat) (actorId : String) : List OpenRequest → Except Failure (State User)
  | [] => .ok state
  | request :: rest =>
    if state.Supported rules threshold request then
      match state.reserve rules surroundings request actorId with
      | .error failure => .error failure
      | .ok (next, _) => .ok next
    else reserveOldest threshold actorId rest

/-- The policy is changed, and the oldest request is reserved that the new one gives enough endorsements. -/
def updateOpenRequestPolicy (policy : OpenRequestPolicy) (actorId : String) :
    Except Failure (State User × OpenRequestPolicy) :=
  let updated := state.withPolicy policy
  match policy.endorsementThreshold with
  | none => .ok (updated, policy)
  | some threshold =>
    if policy.enabled ∧ canRequestOpening updated.profile.status then
      -- The oldest request comes first; two of the same age come by their ids.
      match updated.reserveOldest rules surroundings threshold actorId (updated.pending.insertionSort comesFirst) with
      | .error failure => .error failure
      | .ok next => .ok (next, policy)
    else .ok (updated, policy)

end State

/-- What happens to the requests of a profile. -/
inductive Event (User : Type) where
  | advance (milliseconds : Nat)
  /-- A membership is granted or revoked, or an account changes in another way. -/
  | setUser (id : String) (user : Option User)
  /-- The profile's status, season or source of versions changes. -/
  | setProfile (status : GatewayProfileStatus) (currentScenario : Option String) (openAt : Option Int)
    (releaseSource : Option ProfileReleaseSource) (buildCommitSha : Option String)
  /-- An operator queues an operation. -/
  | queueOperation (operation : GatewayOperation)
  /-- An operation goes on, whoever has queued it. -/
  | setOperationStatus (id : String) (status : GatewayOperationStatus)
  | create (userId : String) (install : OpeningInstall) (surroundings : Surroundings)
  | act (userId id : String) (action : OpenRequestAction) (surroundings : Surroundings)
  | updatePolicy (policy : OpenRequestPolicy) (actorId : String) (surroundings : Surroundings)

/-- What a call answers. -/
inductive Output where
  | done
  | answered (result : OpenRequestResult)
  | changed (policy : OpenRequestPolicy)
  | failed (failure : Failure)

/-- The state after a call; a call that fails is rolled back. -/
def answer (state : State User) {α : Type} (output : α → Output) : Except Failure (State User × α) → State User × Output
  | .ok (next, result) => (next, output result)
  | .error failure => (state, .failed failure)

/-- An id that the database has just made up. -/
def Fresh (state : State User) (id : String) : Prop :=
  id ∉ state.requests.map OpenRequest.id ∧ id ∉ operationIds state.operations

instance (state : State User) (id : String) : Decidable (Fresh state id) := inferInstanceAs (Decidable (_ ∧ _))

/-- An operation of an operator: it is a new one, and does not come from an open request. -/
def FromOperator (state : State User) (operation : GatewayOperation) : Prop :=
  Fresh state operation.id ∧ operation.payload.opening.isNone

instance (state : State User) (operation : GatewayOperation) : Decidable (FromOperator state operation) :=
  inferInstanceAs (Decidable (_ ∧ _))

/-- The requests of one profile, whose calls the admission lock takes one after another. -/
def machine (rules : OpeningRules User) : StateMachine (State User) (Event User) Output where
  step state
    | .advance milliseconds => some ({ state with now := state.now + milliseconds }, .done)
    | .setUser id user => some ({ state with users := Function.update state.users id user }, .done)
    | .setProfile status currentScenario openAt releaseSource buildCommitSha =>
      some ({ state with profile := { state.profile with
        status, currentScenario, openAt, releaseSource, buildCommitSha } }, .done)
    | .queueOperation operation =>
      if FromOperator state operation then
        some ({ state with operations := state.operations ++ [operation] }, .done)
      else none
    | .setOperationStatus id status =>
      some ({ state with operations := state.operations.map fun operation =>
        if operation.id = id then { operation with status } else operation }, .done)
    | .create userId install surroundings =>
      if Fresh state surroundings.newId then
        some (answer state .answered (state.createOpenRequest rules surroundings userId install))
      else none
    | .act userId id action surroundings =>
      if Fresh state surroundings.newId then
        some (answer state .answered (state.actOnOpenRequest rules surroundings userId id action))
      else none
    | .updatePolicy policy actorId surroundings =>
      if Fresh state surroundings.newId then
        some (answer state .changed (state.updateOpenRequestPolicy rules surroundings policy actorId))
      else none

end service

end Sammo.Gateway.OpenRequests
