import Mathlib.Logic.Function.Basic
import Sammo.Data.Json
import Sammo.Lib.StateMachine

/-! The journal of input events: a mutation of the game API runs in one transaction with the row of its request. -/

namespace Sammo.InputEvents

/-- Who an input event is for. -/
inductive InputEventTarget where
  | api
  | engine
  deriving DecidableEq

/-- How far an input event is. -/
inductive InputEventStatus where
  | pending
  | processing
  | succeeded
  | failed
  deriving DecidableEq

/-- What stands for the payload of a request: the digest of its canonical form. -/
structure ApiInputPayloadIdentity where
  version : Nat
  digest : String
  deriving DecidableEq

/-- The identity as it is stored. -/
def ApiInputPayloadIdentity.toJson (identity : ApiInputPayloadIdentity) : Json :=
  .obj [("version", .num identity.version), ("digest", .str identity.digest)]

/-- A row of the journal; `β` are the values a mutation returns. -/
structure InputEventRow (β : Type) where
  sequence : Nat
  target : InputEventTarget
  eventType : String
  payload : Json
  actorUserId : Option String
  status : InputEventStatus
  result : Option β
  error : Option String
  attempts : Nat

/-- What a call is made with. -/
structure InputEventOptions where
  requestId : String
  eventType : String
  actorUserId : Option String
  payloadIdentity : ApiInputPayloadIdentity
  acquireClockFence : Bool
  deriving DecidableEq

/-- A stored payload is empty, as the rows of the earlier boundary are. -/
def isLegacyEmptyPayload : Json → Bool
  | .obj fields => fields.isEmpty
  | _ => false

/-- A stored payload is an identity; the order of the two fields does not matter. -/
def sameJson (stored : Json) (identity : ApiInputPayloadIdentity) : Bool :=
  match stored with
  | .obj fields =>
    fields.length = 2 ∧ (fields.lookup "version").bind Json.number? = some (identity.version : ℚ) ∧
      (fields.lookup "digest").bind Json.string? = some identity.digest
  | _ => false

variable {β : Type}

namespace InputEventRow

/-- The row a request is entered with. -/
def entered (sequence : Nat) (options : InputEventOptions) : InputEventRow β :=
  { sequence, target := .api, eventType := options.eventType, payload := options.payloadIdentity.toJson
    actorUserId := options.actorUserId, status := .pending, result := none, error := none, attempts := 0 }

/-- A row belongs to the same kind of event of the same actor. -/
def hasMatchingBaseIdentity (row : InputEventRow β) (options : InputEventOptions) : Bool :=
  row.target = .api ∧ row.eventType = options.eventType ∧ row.actorUserId = options.actorUserId

/-- A failed row of the earlier boundary may be taken over. -/
def canAdoptLegacyFailedPayload (row : InputEventRow β) (options : InputEventOptions) : Bool :=
  row.status = .failed ∧ row.result.isNone ∧ isLegacyEmptyPayload row.payload ∧ row.hasMatchingBaseIdentity options

/-- A row belongs to the same request. -/
def isMatchingIdentity (row : InputEventRow β) (options : InputEventOptions) : Bool :=
  row.hasMatchingBaseIdentity options ∧ sameJson row.payload options.payloadIdentity

/-- A row whose request is being carried out. -/
def claimed (row : InputEventRow β) (options : InputEventOptions) : InputEventRow β :=
  { row with
    payload := options.payloadIdentity.toJson, status := .processing, result := none, error := none
    attempts := row.attempts + 1 }

/-- A row whose request has been carried out, or has failed in its business part. -/
def settled (row : InputEventRow β) : Except String β → InputEventRow β
  | .ok durable => { row with status := .succeeded, result := some durable, error := none }
  | .error message => { row with status := .failed, result := none, error := some message }

/-- A row whose transaction has failed. -/
def failedUnexpectedly (row : InputEventRow β) (options : InputEventOptions) (message : String) : InputEventRow β :=
  { row with
    payload := options.payloadIdentity.toJson, status := .failed, result := none, error := some message
    attempts := row.attempts + 1 }

end InputEventRow

/-- What a call is answered with. -/
inductive Answer (β : Type) where
  | executed (value : β)
  | replayed (result : Option β)
  | failed (error : String)
  /-- The request conflicts with another one of the same id. -/
  | duplicate
  deriving DecidableEq

/-- How far a call is. -/
inductive Call (β : Type) where
  | opened (options : InputEventOptions)
  /-- The business part runs, in a transaction that has the lock on the row. -/
  | working (options : InputEventOptions) (row : InputEventRow β)
  /-- All that is left is the commit. -/
  | committing (options : InputEventOptions) (row : InputEventRow β) (outcome : Except String β)
  /-- The transaction failed after the business part had begun. -/
  | unwinding (options : InputEventOptions) (error : String)
  | ended (options : InputEventOptions) (answer : Answer β)

/-- A business part that has been committed. -/
structure Performed (β : Type) where
  call : Nat
  options : InputEventOptions
  sequence : Nat
  attempt : Nat
  value : β

/-- The journal, the locks on it, the calls, and every business part that has been committed. -/
structure Boundary (β : Type) where
  rows : String → Option (InputEventRow β)
  nextSequence : Nat
  rowLock : String → Option Nat
  clockFence : Option Nat
  calls : Nat → Option (Call β)
  performed : List (Performed β)

/-- What happens at the boundary. -/
inductive Event (β : Type) where
  | call (number : Nat) (options : InputEventOptions)
  | enter (number : Nat)
  | work (number : Nat) (outcome : Except String β)
  /-- A commit of which the caller may not hear. -/
  | commit (number : Nat) (heard : Bool)
  /-- The transaction fails. -/
  | abort (number : Nat) (error : String)
  /-- The failure is recorded, unless the recording fails as well. -/
  | record (number : Nat) (stored : Bool)
  /-- The process of the caller ends. -/
  | crash (number : Nat)

namespace Boundary

/-- The boundary at the start. -/
def initial (rows : String → Option (InputEventRow β)) (nextSequence : Nat) : Boundary β :=
  { rows, nextSequence, rowLock := fun _ => none, clockFence := none, calls := fun _ => none, performed := [] }

/-- A call that goes on. -/
def goOn (state : Boundary β) (number : Nat) (call : Call β) : Boundary β :=
  { state with calls := Function.update state.calls number (some call) }

/-- Nobody holds the locks that a call needs. -/
def free (state : Boundary β) (options : InputEventOptions) : Bool :=
  (state.rowLock options.requestId).isNone ∧ (options.acquireClockFence → state.clockFence.isNone)

/-- The locks of a call are taken, or given back. -/
def lockedBy (state : Boundary β) (options : InputEventOptions) (holder : Option Nat) : Boundary β :=
  { state with
    rowLock := Function.update state.rowLock options.requestId holder
    clockFence := if options.acquireClockFence then holder else state.clockFence }

/-- The row that a transaction sees after it has entered its request unless there is a row. -/
def insertPendingIfAbsent (state : Boundary β) (options : InputEventOptions) : InputEventRow β :=
  (state.rows options.requestId).getD (.entered state.nextSequence options)

/-- A call enters: it is answered from the row, is refused, or begins its business part. -/
def enter (state : Boundary β) (number : Nat) (options : InputEventOptions) : Boundary β :=
  let next := { state with nextSequence := state.nextSequence + 1 }
  let row := state.insertPendingIfAbsent options
  let identityMatches := row.isMatchingIdentity options
  if row.status = .succeeded then
    next.goOn number (.ended options (if identityMatches then .replayed row.result else .duplicate))
  else if row.status = .processing then next.goOn number (.ended options .duplicate)
  else if ¬ identityMatches ∧ ¬ row.canAdoptLegacyFailedPayload options then
    next.goOn number (.ended options .duplicate)
  else (next.lockedBy options (some number)).goOn number (.working options (row.claimed options))

/-- What a commit leaves in the journal, and among what has been committed. -/
def committed (state : Boundary β) (number : Nat) (options : InputEventOptions) (row : InputEventRow β)
    (outcome : Except String β) : Boundary β :=
  { state with
    rows := Function.update state.rows options.requestId (some row)
    performed := match outcome with
      | .ok value => state.performed ++ [⟨number, options, row.sequence, row.attempts, value⟩]
      | .error _ => state.performed }

/-- What the caller is told about its business part. -/
def answerOf : Except String β → Answer β
  | .ok value => .executed value
  | .error message => .failed message

/-- Records that a transaction has failed, unless another call has carried the request out or may still do so. -/
def markUnexpectedFailure (state : Boundary β) (options : InputEventOptions) (error : String) : Boundary β :=
  let next := { state with nextSequence := state.nextSequence + 1 }
  let row := state.insertPendingIfAbsent options
  let identityMatches := row.isMatchingIdentity options ∨ row.canAdoptLegacyFailedPayload options
  if ¬ identityMatches ∨ row.status = .succeeded ∨ row.status = .processing then
    -- A row that was entered for this has the identity of the call and is pending.
    next
  else
    { next with
      rows := Function.update state.rows options.requestId (some (row.failedUnexpectedly options error)) }

/-- One event; `durable` is a value as it is read back from the journal. -/
def step (durable : β → β) (state : Boundary β) : Event β → Option (Boundary β × Unit)
  | .call number options =>
    match state.calls number with
    | none => some (state.goOn number (.opened options), ⟨⟩)
    | some _ => none
  | .enter number =>
    match state.calls number with
    | some (.opened options) => if state.free options then some (state.enter number options, ⟨⟩) else none
    | _ => none
  | .work number outcome =>
    match state.calls number with
    | some (.working options row) =>
      some (state.goOn number (.committing options (row.settled (outcome.map durable)) outcome), ⟨⟩)
    | _ => none
  | .commit number heard =>
    match state.calls number with
    | some (.committing options row outcome) =>
      let next := (state.committed number options row outcome).lockedBy options none
      some (next.goOn number
        (if heard then .ended options (answerOf outcome) else .unwinding options "The connection was lost."), ⟨⟩)
    | _ => none
  | .abort number error =>
    match state.calls number with
    | some (.opened options) => some (state.goOn number (.ended options (.failed error)), ⟨⟩)
    | some (.working options _) | some (.committing options _ _) =>
      some ((state.lockedBy options none).goOn number (.unwinding options error), ⟨⟩)
    | _ => none
  | .record number stored =>
    match state.calls number with
    | some (.unwinding options error) =>
      if ¬ stored then some (state.goOn number (.ended options (.failed error)), ⟨⟩)
      else if state.free options then
        some ((state.markUnexpectedFailure options error).goOn number (.ended options (.failed error)), ⟨⟩)
      else none
    | _ => none
  | .crash number =>
    match state.calls number with
    | some (.working options _) | some (.committing options _ _) =>
      some ((state.lockedBy options none).goOn number (.ended options (.failed "")), ⟨⟩)
    | some (.opened options) | some (.unwinding options _) =>
      some (state.goOn number (.ended options (.failed "")), ⟨⟩)
    | _ => none

/-- The boundary under calls, losses and crashes in any order. -/
def machine (durable : β → β) : StateMachine (Boundary β) (Event β) Unit where
  step := step durable

end Boundary

end Sammo.InputEvents
