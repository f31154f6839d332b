import Mathlib.Data.Prod.Lex
import Mathlib.Data.String.Basic
import Sammo.Data.Json
import Sammo.Lib.OrderedMap
import Sammo.Realtime.ReadModelOutbox

/-! The journal in which a transaction collects what it changed, its normal form, and the payload made of it. -/

namespace Sammo.ReadModelOutbox

/-! ### Keys -/

/-- The domains in the order of their declaration. -/
def readModelDomains : List ReadModelDomain :=
  [.generalContent, .cityContent, .nationContent, .dashboardGlobal, .worldContent, .mapWorld, .mapGeneral,
    .recordsGeneral, .recordsGlobal, .recordsHistory, .frontGeneral, .frontNation, .frontGlobal, .accessGeneral,
    .lobbyWorld, .lobbyGeneral, .contactsWorld, .reservedGeneral, .messagesMailbox, .messagesDiplomacyMailbox,
    .tournament, .betting]

/-- The domain with this name. -/
def readModelDomain? (value : String) : Option ReadModelDomain :=
  readModelDomains.find? fun domain => domain.name == value

/-- The number of an entity, which numbers of the program represent exactly. -/
abbrev EntityId := { id : Nat // id ≤ 9007199254740991 }

/-- The number of an entity that a value is. -/
def entityId? (value : Json) : Option EntityId :=
  match value.safeInteger? with
  | some id => if small : 0 ≤ id ∧ id.toNat ≤ 9007199254740991 then some ⟨id.toNat, small.2⟩ else none
  | none => none

/-- A key as it is handed to the journal. -/
structure MarkedKey where
  domain : String
  entityId : ℚ

/-- Why a key is not accepted, with the value that the error shows. -/
inductive KeyError where
  | unknownDomain (domain : String)
  | entityId (value : ℚ)
  deriving DecidableEq

/-- A key that has been checked. -/
abbrev CheckedKey := ReadModelDomain × EntityId

/-- What a checked key identifies. -/
def CheckedKey.key (checked : CheckedKey) : ReadModelRevisionKey := ⟨checked.1, checked.2⟩

/-- Checks the domain and the entity of a key. -/
def assertRevisionKey (key : MarkedKey) : Except KeyError CheckedKey :=
  match readModelDomain? key.domain with
  | none => .error (.unknownDomain key.domain)
  | some domain =>
    match entityId? (.num key.entityId) with
    | none => .error (.entityId key.entityId)
    | some id => .ok (domain, id)

/-- A key that has been checked, as it is handed on. -/
def CheckedKey.marked (checked : CheckedKey) : MarkedKey := ⟨checked.1.name, (checked.2 : Nat)⟩

/-! ### The journal -/

/-- What a transaction has changed so far: the entities of each domain. -/
abbrev ChangeJournal := OrderedMap ReadModelDomain (OrderedSet EntityId)

namespace ChangeJournal

/-- Adds an entity to those of its domain. -/
def record (journal : ChangeJournal) (checked : CheckedKey) : ChangeJournal :=
  journal.set checked.1 (((journal.get? checked.1).getD .empty).add checked.2)

/-- Marks a key that passes the checks. -/
def markKey (journal : ChangeJournal) (key : MarkedKey) : Except KeyError ChangeJournal :=
  (assertRevisionKey key).map journal.record

/-- Marks keys in turn; the first that fails the checks ends it, and those before it stay marked. -/
def markAll (journal : ChangeJournal) : List MarkedKey → ChangeJournal × Option KeyError
  | [] => (journal, none)
  | key :: rest =>
    match journal.markKey key with
    | .ok marked => markAll marked rest
    | .error error => (journal, some error)

/-- The keys of the journal, domain by domain. -/
def listed (journal : ChangeJournal) : List CheckedKey :=
  journal.entries.flatMap fun entry => entry.2.items.map fun id => (entry.1, id)

/-- The keys to lock: each once, in the order in which they are locked. -/
def normalizeReadModelRevisionKeys (keys : List MarkedKey) : Except KeyError (List ReadModelRevisionKey) :=
  (keys.foldlM markKey OrderedMap.empty).map fun byDomain =>
    (byDomain.listed.map CheckedKey.key).insertionSort comesFirst

/-- The journal in normal form. -/
def snapshot (journal : ChangeJournal) : Except KeyError (List ReadModelRevisionKey) :=
  normalizeReadModelRevisionKeys (journal.listed.map CheckedKey.marked)

/-- Marks what another journal has. -/
def merge (journal other : ChangeJournal) : ChangeJournal × Option KeyError :=
  match other.snapshot with
  | .ok keys => journal.markAll (keys.map fun key => ⟨key.domain.name, key.entityId⟩)
  | .error error => (journal, some error)

end ChangeJournal

/-! ### The payload -/

/-- A revision that a payload announces, with its number as a text. -/
structure OutboxChange where
  domain : ReadModelDomain
  entityId : EntityId
  revision : String
  deriving DecidableEq

/-- The payload made of committed revisions, which count the writes to their keys. -/
def createReadModelOutboxPayload (revisions : List (CheckedKey × Nat)) : List OutboxChange :=
  (revisions.insertionSort fun left right => comesFirst left.1.key right.1.key).map fun entry =>
    ⟨entry.1.1, entry.1.2, toString entry.2⟩

/-- A payload as it is stored. -/
def payloadJson (changes : List OutboxChange) : Json :=
  .obj
    [("version", .num 1),
      ("changes", .arr (changes.map fun change =>
        .arr [.str change.domain.name, .num (change.entityId : Nat), .str change.revision]))]

/-- A number without a sign and without leading zeros. -/
def isRevision (text : String) : Bool :=
  match text.toList with
  | [] => false
  | first :: rest => if first = '0' then rest.isEmpty else first.isDigit && rest.all Char.isDigit

/-- Reads a revision of a payload. -/
def parseChange (item : Json) : Option OutboxChange :=
  match item with
  | .arr [.str name, id, .str revision] =>
    match readModelDomain? name, entityId? id with
    | some domain, some entityId => if isRevision revision then some ⟨domain, entityId, revision⟩ else none
    | _, _ => none
  | _ => none

/-- Reads a payload. -/
def parseReadModelOutboxPayload (value : Json) : Option (List OutboxChange) :=
  match value with
  | .obj fields =>
    match Record.get? fields "version", Record.get? fields "changes" with
    | some (.num version), some (.arr items) => if version = 1 then items.mapM parseChange else none
    | _, _ => none
  | _ => none

end Sammo.ReadModelOutbox
