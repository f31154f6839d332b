import Mathlib.Algebra.Ring.Int.Defs
import Mathlib.Data.List.Dedup
import Mathlib.Data.List.Sort
import Sammo.Lib.LockedCounters
import Sammo.Lib.StateMachine

/-! The change journal of the read models: writers that raise revisions, and dispatchers that deliver what they wrote. -/

namespace Sammo.ReadModelOutbox

/-- What a revision is about. -/
inductive ReadModelDomain where
  | generalContent
  | cityContent
  | nationContent
  | dashboardGlobal
  | worldContent
  | mapWorld
  | mapGeneral
  | recordsGeneral
  | recordsGlobal
  | recordsHistory
  | frontGeneral
  | frontNation
  | frontGlobal
  | accessGeneral
  | lobbyWorld
  | lobbyGeneral
  | contactsWorld
  | reservedGeneral
  | messagesMailbox
  | messagesDiplomacyMailbox
  | tournament
  | betting
  deriving DecidableEq

/-- The name under which a domain is stored. -/
def ReadModelDomain.name : ReadModelDomain → String
  | generalContent => "general.content"
  | cityContent => "city.content"
  | nationContent => "nation.content"
  | dashboardGlobal => "dashboard.global"
  | worldContent => "world.content"
  | mapWorld => "map.world"
  | mapGeneral => "map.general"
  | recordsGeneral => "records.general"
  | recordsGlobal => "records.global"
  | recordsHistory => "records.history"
  | frontGeneral => "front.general"
  | frontNation => "front.nation"
  | frontGlobal => "front.global"
  | accessGeneral => "access.general"
  | lobbyWorld => "lobby.world"
  | lobbyGeneral => "lobby.general"
  | contactsWorld => "contacts.world"
  | reservedGeneral => "reserved.general"
  | messagesMailbox => "messages.mailbox"
  | messagesDiplomacyMailbox => "messages.diplomacyMailbox"
  | tournament => "tournament"
  | betting => "betting"

/-- The key of a revision. -/
structure ReadModelRevisionKey where
  domain : ReadModelDomain
  entityId : Nat
  deriving DecidableEq

/-- The order in which revisions are locked. -/
def comesFirst (left right : ReadModelRevisionKey) : Prop :=
  left.domain.name < right.domain.name ∨ left.domain.name = right.domain.name ∧ left.entityId ≤ right.entityId

instance : DecidableRel comesFirst := fun _ _ => inferInstanceAs (Decidable (_ ∨ _))

/-- The keys of a write: each once, in the order in which they are locked. -/
def normalizeReadModelRevisionKeys (keys : List ReadModelRevisionKey) : List ReadModelRevisionKey :=
  keys.dedup.insertionSort comesFirst

/-- Revisions that were raised by one write. -/
abbrev Changes := List (ReadModelRevisionKey × Nat)

/-- A row of the outbox. -/
structure OutboxRow where
  id : Nat
  changes : Changes
  attempts : Nat
  availableAt : Int
  lockedAt : Option Int
  lockOwner : Option String
  deliveredAt : Option Int
  lastError : Option String
  deriving DecidableEq

/-- A transaction that writes to the journal: the write it is at, and the rows it has inserted. -/
structure Writer where
  openedAt : Int
  remaining : List ReadModelRevisionKey
  bumped : Changes
  rows : List OutboxRow

/-- How far a dispatcher is with a row it has claimed. -/
inductive Stage where
  | claimed
  | published
  | failed (error : String)
  deriving DecidableEq

/-- A row that a dispatcher has claimed, with the attempt it is. -/
structure Claim where
  id : Nat
  attempts : Nat
  stage : Stage
  deriving DecidableEq

/-- The settings of a dispatcher. -/
structure DispatchOptions where
  limit : Option Int
  leaseMs : Option Int
  retryBaseMs : Option Int
  retryMaxMs : Option Int

/-- How many rows are claimed at once at most. -/
def normalizeLimit (value : Option Int) : Int := min 500 (max 1 (value.getD 50))

/-- A duration of at least a millisecond. -/
def normalizeDuration (value : Option Int) (fallback : Int) : Int := max 1 (value.getD fallback)

/-- How long a row waits after a failed attempt. -/
def retryDelayMs (attempts : Nat) (baseMs maxMs : Int) : Int := min maxMs (baseMs * 2 ^ min 20 (attempts - 1))

/-- The wait that a dispatcher's settings give a row. -/
def DispatchOptions.delay (options : DispatchOptions) (attempts : Nat) : Int :=
  let base := normalizeDuration options.retryBaseMs 1000
  retryDelayMs attempts base (max base (normalizeDuration options.retryMaxMs 60000))

/-- The journal with its writers and dispatchers, and what has been published and committed so far. -/
structure Journal where
  now : Int
  counters : LockedCounters ReadModelRevisionKey Nat
  writers : Nat → Option Writer
  nextId : Nat
  outbox : List OutboxRow
  dispatchers : String → List Claim
  /-- The rows that some dispatcher has published. -/
  published : List Nat
  /-- The committed writes, in the order of their commits. -/
  commits : List Changes

/-- A row can be claimed: it waits for delivery, and nobody holds a lease on it. -/
def Claimable (row : OutboxRow) (now leaseMs : Int) : Prop :=
  row.deliveredAt = none ∧ row.availableAt ≤ now ∧ ∀ lockedAt ∈ row.lockedAt, lockedAt < now - leaseMs

instance (row : OutboxRow) (now leaseMs : Int) : Decidable (Claimable row now leaseMs) :=
  inferInstanceAs (Decidable (_ ∧ _ ∧ ∀ lockedAt ∈ row.lockedAt, _))

/-- A row that a dispatcher claims. -/
def OutboxRow.claim (row : OutboxRow) (owner : String) (now : Int) : OutboxRow :=
  { row with attempts := row.attempts + 1, lockedAt := some now, lockOwner := some owner, lastError := none }

/-- A row that is delivered. -/
def OutboxRow.deliver (row : OutboxRow) (now : Int) : OutboxRow :=
  { row with deliveredAt := some now, lockedAt := none, lockOwner := none, lastError := none }

/-- A row that is given back for a later attempt. -/
def OutboxRow.release (row : OutboxRow) (availableAt : Int) (error : String) : OutboxRow :=
  { row with availableAt, lockedAt := none, lockOwner := none, lastError := some error }

/-- A dispatcher's update reaches a row: the dispatcher holds it, and it is not delivered. -/
def Holds (owner : String) (id : Nat) (row : OutboxRow) : Prop :=
  row.id = id ∧ row.lockOwner = some owner ∧ row.deliveredAt = none

instance (owner : String) (id : Nat) : DecidablePred (Holds owner id) := fun _ => inferInstanceAs (Decidable (_ ∧ _ ∧ _))

/-- The rows after a dispatcher's update of the one it holds. -/
def updateHeld (outbox : List OutboxRow) (owner : String) (id : Nat) (change : OutboxRow → OutboxRow) : List OutboxRow :=
  outbox.map fun row => if Holds owner id row then change row else row

/-- What happens around the journal. -/
inductive Event where
  /-- Database time goes on. -/
  | advance (milliseconds : Nat)
  /-- A transaction opens. -/
  | start (transaction : Nat)
  /-- It begins to write changed keys to the journal. -/
  | write (transaction : Nat) (candidates : List ReadModelRevisionKey)
  /-- It raises its next revision, once nobody else has locked it; after the last one it inserts the outbox row. -/
  | bump (transaction : Nat)
  | commit (transaction : Nat)
  | rollback (transaction : Nat)
  /-- A dispatcher claims rows; rows that another session works at are skipped. -/
  | claim (owner : String) (ids : List Nat)
  | publish (owner : String)
  /-- Publishing a row, or marking it, throws. -/
  | fail (owner : String) (error : String)
  /-- A dispatcher marks its row; the answer may be lost. -/
  | markDelivered (owner : String) (answered : Bool)
  | release (owner : String)
  /-- A dispatcher crashes, or gives its batch up because the database does not answer. -/
  | crash (owner : String)
  /-- Old delivered rows are deleted. -/
  | prune (deliveredBefore : Int) (ids : List Nat)

/-- A character that `trim` takes off. -/
def isTrimmed (character : Char) : Bool :=
  let code := character.toNat
  (9 ≤ code && code ≤ 13) || (0x2000 ≤ code && code ≤ 0x200A) ||
    [0x20, 0xA0, 0x1680, 0x2028, 0x2029, 0x202F, 0x205F, 0x3000, 0xFEFF].contains code

/-- Nothing of a text is left by `trim`. -/
def isBlank (text : String) : Bool := text.toList.all isTrimmed

namespace Journal

/-- Nothing has been written. -/
def opening (now : Int) : Journal :=
  ⟨now, .opening, fun _ => none, 1, [], fun _ => [], [], []⟩

variable (journal : Journal)

/-- A transaction's writer in another state, or gone. -/
def setWriter (transaction : Nat) (writer : Option Writer) : Journal :=
  { journal with writers := Function.update journal.writers transaction writer }

/-- A dispatcher's batch in another state. -/
def setBatch (owner : String) (batch : List Claim) : Journal :=
  { journal with dispatchers := Function.update journal.dispatchers owner batch }

/-- A row that has just been inserted. -/
def newRow (writer : Writer) (changes : Changes) : OutboxRow :=
  { id := journal.nextId, changes, attempts := 0, availableAt := writer.openedAt, lockedAt := none, lockOwner := none
    deliveredAt := none, lastError := none }

/-- A write goes on with its next key; the last one completes it. -/
def bump (transaction : Nat) (writer : Writer) (key : ReadModelRevisionKey) (rest : List ReadModelRevisionKey) :
    Option Journal :=
  (journal.counters.raise transaction key).map fun raised =>
    let bumped := writer.bumped ++ [(key, raised.2)]
    let locked := { journal with counters := raised.1 }
    if rest = [] then
      { locked.setWriter transaction (some { writer with
          remaining := [], bumped := [], rows := writer.rows ++ [journal.newRow writer bumped] }) with
        nextId := journal.nextId + 1 }
    else locked.setWriter transaction (some { writer with remaining := rest, bumped })

/-- A transaction commits what it has written. -/
def commit (transaction : Nat) (writer : Writer) : Journal :=
  { journal.setWriter transaction none with
    counters := journal.counters.commit transaction
    outbox := journal.outbox ++ writer.rows
    commits := journal.commits ++ writer.rows.map OutboxRow.changes }

/-- The rows after a dispatcher has claimed some. -/
def claimRows (owner : String) (ids : List Nat) : List OutboxRow :=
  journal.outbox.map fun row => if row.id ∈ ids then row.claim owner journal.now else row

/-- A dispatcher claims rows. -/
def claim (owner : String) (ids : List Nat) : Journal :=
  let rows := journal.claimRows owner ids
  { journal.setBatch owner ((rows.filter fun row => row.id ∈ ids).map fun row => ⟨row.id, row.attempts, .claimed⟩) with
    outbox := rows }

/-- A dispatcher marks a row as delivered; a row it has lost, and a lost answer, are failures. -/
def markDelivered (owner : String) (item : Claim) (rest : List Claim) (answered : Bool) : Journal :=
  let marked : Bool := journal.outbox.any fun row => Holds owner item.id row
  let outcome :=
    if marked ∧ answered then rest
    else { item with stage := .failed (if marked then "the database does not answer"
      else s!"Read-model outbox {item.id} lost its delivery lease.") } :: rest
  { journal.setBatch owner outcome with
    outbox := updateHeld journal.outbox owner item.id fun row => row.deliver journal.now }

/-- A dispatcher gives a row back. -/
def release (options : DispatchOptions) (owner : String) (item : Claim) (rest : List Claim) (error : String) : Journal :=
  { journal.setBatch owner rest with
    outbox := updateHeld journal.outbox owner item.id fun row =>
      row.release (journal.now + options.delay item.attempts) error }

/-- The dispatcher may claim rows: it is done with its last batch, and each of them can be claimed. -/
def MayClaim (options : DispatchOptions) (owner : String) (ids : List Nat) : Prop :=
  ¬ isBlank owner ∧ journal.dispatchers owner = [] ∧ (ids.length : Int) ≤ normalizeLimit options.limit ∧
    ∀ id ∈ ids, ∃ row ∈ journal.outbox, row.id = id ∧
      Claimable row journal.now (normalizeDuration options.leaseMs 30000)

instance (options : DispatchOptions) (owner : String) (ids : List Nat) : Decidable (journal.MayClaim options owner ids) :=
  inferInstanceAs (Decidable (_ ∧ _ ∧ _ ∧ ∀ id ∈ ids, ∃ row ∈ journal.outbox, _))

/-- What happens to a dispatcher's row. -/
def dispatch (options : DispatchOptions) (owner : String) (item : Claim) (rest : List Claim) : Event → Option Journal
  | .publish _ =>
    if item.stage = .claimed then
      some { journal.setBatch owner ({ item with stage := .published } :: rest) with
        published := item.id :: journal.published }
    else none
  | .fail _ error =>
    if item.stage = .claimed ∨ item.stage = .published then
      some (journal.setBatch owner ({ item with stage := .failed error } :: rest))
    else none
  | .markDelivered _ answered =>
    if item.stage = .published then some (journal.markDelivered owner item rest answered) else none
  | .release _ =>
    match item.stage with
    | .failed error => some (journal.release options owner item rest error)
    | _ => none
  | _ => none

/-- The row a dispatcher is at, and those after it. -/
def batch (options : DispatchOptions) (owner : String) (event : Event) : Option Journal :=
  match journal.dispatchers owner with
  | [] => none
  | item :: rest => journal.dispatch options owner item rest event

end Journal

/-- The journal with any number of writers, and with dispatchers by their owner ids. -/
def machine (options : String → DispatchOptions) : StateMachine Journal Event Unit where
  step journal event := Option.map (fun next => (next, ())) <|
    match event with
    | .advance milliseconds => some { journal with now := journal.now + milliseconds }
    | .start transaction =>
      if (journal.writers transaction).isNone then
        some (journal.setWriter transaction (some ⟨journal.now, [], [], []⟩))
      else none
    | .write transaction candidates => do
      let writer ← journal.writers transaction
      if writer.remaining = [] then
        some (journal.setWriter transaction (some { writer with
          remaining := normalizeReadModelRevisionKeys candidates }))
      else none
    | .bump transaction => do
      let writer ← journal.writers transaction
      match writer.remaining with
      | [] => none
      | key :: rest => journal.bump transaction writer key rest
    | .commit transaction => do
      let writer ← journal.writers transaction
      if writer.remaining = [] then some (journal.commit transaction writer) else none
    | .rollback transaction =>
      (journal.writers transaction).map fun _ =>
        { journal.setWriter transaction none with counters := journal.counters.rollback transaction }
    | .claim owner ids => if journal.MayClaim (options owner) owner ids then some (journal.claim owner ids) else none
    | .publish owner => journal.batch (options owner) owner (.publish owner)
    | .fail owner error => journal.batch (options owner) owner (.fail owner error)
    | .markDelivered owner answered => journal.batch (options owner) owner (.markDelivered owner answered)
    | .release owner => journal.batch (options owner) owner (.release owner)
    | .crash owner => some (journal.setBatch owner [])
    | .prune deliveredBefore ids =>
      some { journal with
        outbox := journal.outbox.filter fun row =>
          ¬ (row.id ∈ ids ∧ ∃ deliveredAt ∈ row.deliveredAt, deliveredAt < deliveredBefore) }

end Sammo.ReadModelOutbox
