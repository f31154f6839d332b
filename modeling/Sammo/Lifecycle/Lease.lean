import Mathlib.Data.Rat.Floor
import Mathlib.Logic.Function.Basic
import Sammo.Lib.StateMachine

/-! The turn-daemon lease: one fenced row per profile, its statements, and the daemons that issue them. -/

namespace Sammo

/-- What a daemon keeps of the lease row it acquired. -/
structure TurnDaemonLeaseToken where
  profile : String
  ownerId : String
  fencingEpoch : Nat
  deriving DecidableEq

/-- One row of the lease table, whose key is the profile. -/
structure LeaseRow where
  ownerId : String
  clockReady : Bool
  leaseUntil : Int
  fencingEpoch : Nat
  heartbeatAt : Int
  deriving DecidableEq

/-- The lease length in whole milliseconds, never under one second. -/
def normalizeLeaseDuration (value : Option ℚ) : Int :=
  -- An absent option means thirty seconds.
  max 1000 ⌊value.getD 30000⌋

/-- The local state of one lease client. -/
structure DatabaseTurnDaemonLease where
  profile : String
  ownerId : String
  leaseDurationMs : Int
  token : Option TurnDaemonLeaseToken
  lost : Bool
  lossReason : Option String
  renewalInFlight : Bool
  deriving DecidableEq

namespace DatabaseTurnDaemonLease

/-- A client that has just connected holds nothing. -/
def connect (profile ownerId : String) (leaseDurationMs : Option ℚ) : DatabaseTurnDaemonLease :=
  { profile, ownerId, leaseDurationMs := normalizeLeaseDuration leaseDurationMs, token := none
    lost := false, lossReason := none, renewalInFlight := false }

/-- Marks the lease lost, keeping the first reason given. -/
def markLost (lease : DatabaseTurnDaemonLease) (reason : String) : DatabaseTurnDaemonLease :=
  -- A lease already lost keeps its reason.
  if lease.lost then lease else { lease with lossReason := some reason, lost := true }

/-- The message of the error a lost lease raises. -/
def getLossError (lease : DatabaseTurnDaemonLease) : String :=
  "Turn daemon lease was lost for profile \"" ++ lease.profile ++ "\"." ++
    (match lease.lossReason with | some reason => " " ++ reason | none => "")

end DatabaseTurnDaemonLease

/-- The row the acquiring upsert leaves, or nothing when its conflict condition fails. -/
def acquireRow (ownerId : String) (leaseDurationMs now : Int) : Option LeaseRow → Option LeaseRow
  | none =>
    some { ownerId, clockReady := false, leaseUntil := now + leaseDurationMs, fencingEpoch := 1
           heartbeatAt := now }
  | some row =>
    -- Only the same owner, or anyone once the lease has run out, may take the row.
    if row.ownerId = ownerId ∨ row.leaseUntil ≤ now then
      some { ownerId, clockReady := false, leaseUntil := now + leaseDurationMs
             fencingEpoch := if row.ownerId = ownerId then row.fencingEpoch else row.fencingEpoch + 1
             heartbeatAt := now }
    else none

/-- The row carries the token's owner and epoch. -/
def LeaseRow.Matches (row : LeaseRow) (token : TurnDaemonLeaseToken) : Prop :=
  row.ownerId = token.ownerId ∧ row.fencingEpoch = token.fencingEpoch

instance (row : LeaseRow) (token : TurnDaemonLeaseToken) : Decidable (row.Matches token) :=
  inferInstanceAs (Decidable (_ ∧ _))

/-- A statement on its way to the database, with the values read when it was issued. -/
inductive LeaseRequest (ι : Type) where
  | acquire (daemon : ι)
  | renew (daemon : ι) (token : TurnDaemonLeaseToken)
  | assertActive (daemon : ι) (token : TurnDaemonLeaseToken) (transaction : Option Nat)
  | release (token : TurnDaemonLeaseToken)

/-- A statement's result on its way back to the daemon. -/
inductive LeaseReply (ι : Type) where
  | acquired (daemon : ι) (row : Option TurnDaemonLeaseToken)
  | renewed (daemon : ι) (matched : Bool)
  | asserted (daemon : ι) (token : TurnDaemonLeaseToken) (transaction : Option Nat) (matched : Bool)
  | released

/-- A database transaction and the tokens it has asserted. -/
structure FencedTransaction where
  asserted : List TurnDaemonLeaseToken
  failed : Bool
  clockReady : List String
  deriving DecidableEq

/-- A transaction that has done nothing yet. -/
def FencedTransaction.idle : FencedTransaction := { asserted := [], failed := false, clockReady := [] }

/-- Every daemon, the lease table with its row locks, and the statements in flight. -/
structure LeaseWorld (ι : Type) where
  daemons : ι → DatabaseTurnDaemonLease
  table : String → Option LeaseRow
  locks : String → Option Nat
  transactions : Nat → FencedTransaction
  requests : List (LeaseRequest ι)
  replies : List (LeaseReply ι)

/-- What can happen next: a call, a statement served at some database time, or a failure. -/
inductive LeaseEvent (ι : Type) where
  | acquire (daemon : ι)
  | renew (daemon : ι)
  | assertActive (daemon : ι) (transaction : Option Nat)
  | release (daemon : ι)
  | execute (index : Nat) (now : Int)
  | respond (index : Nat)
  | dropRequest (index : Nat)
  | dropReply (index : Nat)
  | watchdog (daemon : ι)
  | markClockReady (transaction : Nat) (profile : String)
  | commit (transaction : Nat)
  | rollback (transaction : Nat)

/-- What the outside sees of one event. -/
inductive LeaseOutput (ι : Type) where
  | quiet
  | acquired (daemon : ι) (token : TurnDaemonLeaseToken)
  | passed (daemon : ι) (token : TurnDaemonLeaseToken)
  | committed (tokens : List TurnDaemonLeaseToken)
  | threw (message : String)
  deriving DecidableEq

/-- The transaction a request belongs to. -/
def LeaseRequest.transaction {ι : Type} : LeaseRequest ι → Option Nat
  | .assertActive _ _ transaction => transaction
  | _ => none

/-- The transaction a reply belongs to. -/
def LeaseReply.transaction {ι : Type} : LeaseReply ι → Option Nat
  | .asserted _ _ transaction _ => transaction
  | _ => none

namespace LeaseWorld

variable {ι : Type} [DecidableEq ι]

/-- Changes one daemon's local state. -/
def updateDaemon (world : LeaseWorld ι) (daemon : ι)
    (change : DatabaseTurnDaemonLease → DatabaseTurnDaemonLease) : LeaseWorld ι :=
  { world with daemons := Function.update world.daemons daemon (change (world.daemons daemon)) }

/-- Changes one transaction. -/
def updateTransaction (world : LeaseWorld ι) (transaction : Nat)
    (change : FencedTransaction → FencedTransaction) : LeaseWorld ι :=
  { world with
    transactions := Function.update world.transactions transaction
      (change (world.transactions transaction)) }

/-- Writes one row. -/
def writeRow (world : LeaseWorld ι) (profile : String) (row : LeaseRow) : LeaseWorld ι :=
  { world with table := Function.update world.table profile (some row) }

/-- Puts a statement in flight. -/
def send (world : LeaseWorld ι) (request : LeaseRequest ι) : LeaseWorld ι :=
  { world with requests := world.requests ++ [request] }

/-- Puts a result in flight. -/
def reply (world : LeaseWorld ι) (result : LeaseReply ι) : LeaseWorld ι :=
  { world with replies := world.replies ++ [result] }

/-- A failed assertion makes the transaction that issued it fail. -/
def failTransaction (world : LeaseWorld ι) : Option Nat → LeaseWorld ι
  | some transaction => world.updateTransaction transaction fun state => { state with failed := true }
  | none => world

/-- Issues the acquiring upsert. -/
def acquire (world : LeaseWorld ι) (daemon : ι) : LeaseWorld ι :=
  world.send (.acquire daemon)

/-- Issues a renewal, unless there is no lease to renew or one renewal is already in flight. -/
def renew (world : LeaseWorld ι) (daemon : ι) : LeaseWorld ι :=
  let lease := world.daemons daemon
  match lease.token with
  | none => world
  | some token =>
    if lease.lost ∨ lease.renewalInFlight then world
    else (world.updateDaemon daemon fun lease => { lease with renewalInFlight := true }).send
      (.renew daemon token)

/-- Issues the fencing check, or raises at once when the lease is absent or already lost. -/
def assertActive (world : LeaseWorld ι) (daemon : ι) (transaction : Option Nat) :
    LeaseWorld ι × LeaseOutput ι :=
  let lease := world.daemons daemon
  match lease.token with
  | none => (world.failTransaction transaction, .threw lease.getLossError)
  | some token =>
    if lease.lost then (world.failTransaction transaction, .threw lease.getLossError)
    else (world.send (.assertActive daemon token transaction), .quiet)

/-- Forgets the token and, unless the lease was lost, issues the expiring update. -/
def release (world : LeaseWorld ι) (daemon : ι) : LeaseWorld ι :=
  let lease := world.daemons daemon
  let forgotten := world.updateDaemon daemon fun lease => { lease with token := none }
  match lease.token with
  | none => forgotten
  | some token => if lease.lost then forgotten else forgotten.send (.release token)

/-- Serves one statement at a database time; nothing when it waits for another transaction's lock. -/
def serve (world : LeaseWorld ι) (now : Int) :
    LeaseRequest ι → Option (LeaseWorld ι × LeaseOutput ι)
  | .acquire daemon =>
    let lease := world.daemons daemon
    -- The upsert locks the row it conflicts with before it looks at the condition.
    if (world.locks lease.profile).isSome then none
    else match acquireRow lease.ownerId lease.leaseDurationMs now (world.table lease.profile) with
    | none => some (world.reply (.acquired daemon none), .quiet)
    | some row =>
      let token := ⟨lease.profile, row.ownerId, row.fencingEpoch⟩
      some ((world.writeRow lease.profile row).reply (.acquired daemon (some token)), .acquired daemon token)
  | .renew daemon token =>
    match world.table token.profile with
    | none => some (world.reply (.renewed daemon false), .quiet)
    | some row =>
      if row.Matches token ∧ now < row.leaseUntil then
        if (world.locks token.profile).isSome then none
        else some ((world.writeRow token.profile
          { row with leaseUntil := now + (world.daemons daemon).leaseDurationMs, heartbeatAt := now }).reply
            (.renewed daemon true), .quiet)
      else some (world.reply (.renewed daemon false), .quiet)
  | .assertActive daemon token transaction =>
    match world.table token.profile with
    | none => some (world.reply (.asserted daemon token transaction false), .quiet)
    | some row =>
      if row.Matches token ∧ now < row.leaseUntil then
        -- The row stays locked until the asserting transaction ends.
        if world.locks token.profile = none ∨ world.locks token.profile = transaction then
          some ({ world with locks := Function.update world.locks token.profile transaction }.reply
            (.asserted daemon token transaction true), .passed daemon token)
        else none
      else some (world.reply (.asserted daemon token transaction false), .quiet)
  | .release token =>
    match world.table token.profile with
    | none => some (world.reply .released, .quiet)
    | some row =>
      if row.Matches token then
        if (world.locks token.profile).isSome then none
        else some ((world.writeRow token.profile
          { row with leaseUntil := now, heartbeatAt := now }).reply .released, .quiet)
      else some (world.reply .released, .quiet)

/-- Hands one result to the daemon that waits for it. -/
def receive (world : LeaseWorld ι) : LeaseReply ι → LeaseWorld ι × LeaseOutput ι
  | .acquired _ none => (world, .quiet)
  | .acquired daemon (some token) =>
    (world.updateDaemon daemon fun lease =>
      { lease with token := some token, lost := false, lossReason := none }, .quiet)
  | .renewed daemon matched =>
    (world.updateDaemon daemon fun lease =>
      let settled := if matched then lease else
        lease.markLost "Heartbeat renewal rejected: lease expired or owner/epoch changed."
      { settled with renewalInFlight := false }, .quiet)
  | .asserted _ token (some transaction) true =>
    (world.updateTransaction transaction fun state =>
      { state with asserted := token :: state.asserted }, .quiet)
  | .asserted _ _ none true => (world, .quiet)
  | .asserted daemon _ transaction false =>
    let marked := world.updateDaemon daemon fun lease =>
      lease.markLost "Transaction fencing rejected: lease expired or owner/epoch changed."
    (marked.failTransaction transaction, .threw (marked.daemons daemon).getLossError)
  | .released => (world, .quiet)

/-- What a daemon does when a statement's result never reaches it. -/
def abandon (world : LeaseWorld ι) : LeaseRequest ι → LeaseWorld ι
  | .renew daemon _ =>
    world.updateDaemon daemon fun lease =>
      { lease.markLost "Heartbeat database request failed (unknown error)." with renewalInFlight := false }
  | .assertActive _ _ transaction => world.failTransaction transaction
  | _ => world

/-- What a daemon does when a statement was served but its result is lost on the way back. -/
def abandonReply (world : LeaseWorld ι) : LeaseReply ι → LeaseWorld ι
  | .renewed daemon _ =>
    world.updateDaemon daemon fun lease =>
      { lease.markLost "Heartbeat database request failed (unknown error)." with renewalInFlight := false }
  | .asserted _ _ transaction _ => world.failTransaction transaction
  | _ => world

/-- Ends a transaction: its locks are freed and its state is forgotten. -/
def endTransaction (world : LeaseWorld ι) (transaction : Nat) : LeaseWorld ι :=
  { world with
    locks := fun profile => if world.locks profile = some transaction then none else world.locks profile
    transactions := Function.update world.transactions transaction .idle }

/-- The clock-ready flags a transaction wrote become visible. -/
def publishClockReady (world : LeaseWorld ι) (profiles : List String) : LeaseWorld ι :=
  { world with
    table := fun profile => if profile ∈ profiles then
      (world.table profile).map fun row => { row with clockReady := true } else world.table profile }

/-- No statement of the transaction is still in flight. -/
def Settled (world : LeaseWorld ι) (transaction : Nat) : Prop :=
  (∀ request ∈ world.requests, request.transaction ≠ some transaction) ∧
    ∀ reply ∈ world.replies, reply.transaction ≠ some transaction

instance (world : LeaseWorld ι) (transaction : Nat) : Decidable (world.Settled transaction) :=
  inferInstanceAs (Decidable (_ ∧ _))

/-- One event of the lease protocol. -/
def step (world : LeaseWorld ι) : LeaseEvent ι → Option (LeaseWorld ι × LeaseOutput ι)
  | .acquire daemon => some (world.acquire daemon, .quiet)
  | .renew daemon => some (world.renew daemon, .quiet)
  | .assertActive daemon transaction => some (world.assertActive daemon transaction)
  | .release daemon => some (world.release daemon, .quiet)
  | .execute index now =>
    match world.requests[index]? with
    | none => none
    | some request => { world with requests := world.requests.eraseIdx index }.serve now request
  | .respond index =>
    match world.replies[index]? with
    | none => none
    | some result => some ({ world with replies := world.replies.eraseIdx index }.receive result)
  | .dropRequest index =>
    match world.requests[index]? with
    | none => none
    | some request =>
      some ({ world with requests := world.requests.eraseIdx index }.abandon request, .quiet)
  | .dropReply index =>
    match world.replies[index]? with
    | none => none
    | some result =>
      some ({ world with replies := world.replies.eraseIdx index }.abandonReply result, .quiet)
  | .watchdog daemon =>
    some (world.updateDaemon daemon fun lease => lease.markLost "Heartbeat deadline exceeded.", .quiet)
  | .markClockReady transaction profile =>
    -- The update follows a passed assertion in the same transaction.
    if (∃ token ∈ (world.transactions transaction).asserted, token.profile = profile) ∧
        (world.transactions transaction).failed = false then
      some (world.updateTransaction transaction fun state =>
        { state with clockReady := profile :: state.clockReady }, .quiet)
    else none
  | .commit transaction =>
    let state := world.transactions transaction
    -- A guarded transaction commits only after an assertion passed and none failed.
    if state.failed = false ∧ state.asserted ≠ [] ∧ world.Settled transaction then
      some ((world.publishClockReady state.clockReady).endTransaction transaction,
        .committed state.asserted)
    else none
  | .rollback transaction =>
    -- Losing the connection also drops whatever the transaction still had in flight.
    some ({ world with
      requests := world.requests.filter fun request => request.transaction ≠ some transaction
      replies := world.replies.filter fun reply => reply.transaction ≠ some transaction }.endTransaction
        transaction, .quiet)

end LeaseWorld

/-- The lease protocol as a machine. -/
def leaseMachine (ι : Type) [DecidableEq ι] : StateMachine (LeaseWorld ι) (LeaseEvent ι) (LeaseOutput ι) :=
  ⟨LeaseWorld.step⟩

/-- A start with nothing in flight: any rows may be left over from earlier daemons. -/
structure LeaseWorld.Initial {ι : Type} (world : LeaseWorld ι) : Prop where
  noTokens : ∀ daemon, (world.daemons daemon).token = none
  unlocked : ∀ profile, world.locks profile = none
  idle : ∀ transaction, world.transactions transaction = .idle
  noRequests : world.requests = []
  noReplies : world.replies = []

end Sammo
