import Sammo.Data.Json

/-! The reserved turns of a general as the game API stores and edits them. -/

namespace Sammo

/-- Turns a general can reserve. -/
def maxGeneralTurns : Nat := 30

/-- The command of a turn nobody has reserved. -/
def defaultTurnAction : String := "휴식"

/-- One reserved turn; its command always has a name. -/
structure ReservedTurnEntry where
  action : String
  args : Record
  named : action ≠ ""

/-- The command of a stored turn, with the default in place of an empty one. -/
def normalizeAction (action : String) : String :=
  if action = "" then defaultTurnAction else action

theorem normalizeAction_named (action : String) : normalizeAction action ≠ "" := by
  unfold normalizeAction
  split
  · decide
  · assumption

/-- The entry a command and its arguments give; arguments that are no object are dropped. -/
def normalizeEntry (action : String) (args : Json) : ReservedTurnEntry :=
  ⟨normalizeAction action, asRecord args, normalizeAction_named action⟩

/-- The entry of a turn nobody has reserved. -/
def createDefaultEntry : ReservedTurnEntry := ⟨defaultTurnAction, [], by decide⟩

/-- A queue with nothing reserved. -/
def buildDefaultTurns (length : Nat) : List ReservedTurnEntry := List.replicate length createDefaultEntry

/-- Moves the queue back by a positive amount, or forward by a negative one. -/
def applyShift (turns : List ReservedTurnEntry) (amount : Int) : List ReservedTurnEntry :=
  if amount = 0 then turns
  else if 0 < amount then
    buildDefaultTurns amount.toNat ++ turns.take (turns.length - amount.toNat)
  else
    let shift := min turns.length amount.natAbs
    turns.drop shift ++ buildDefaultTurns shift

/-- The positions that repeat one of the leading turns. -/
def repeatTargets (length sourceIndex amount : Nat) : List Nat :=
  (List.range ((length - 1 - sourceIndex) / amount)).map fun count => sourceIndex + (count + 1) * amount

/-- Repeats the leading turns over the rest of the queue. -/
def applyRepeat (turns : List ReservedTurnEntry) (amount : Int) : List ReservedTurnEntry :=
  if amount ≤ 0 ∨ (turns.length : Int) ≤ amount then turns
  else
    let step := amount.toNat
    let sourceCount := if turns.length < step * 2 then turns.length - step else step
    (List.range sourceCount).foldl (fun repeated sourceIndex =>
      let source := turns.getD sourceIndex createDefaultEntry
      (repeatTargets turns.length sourceIndex step).foldl
        (fun repeated targetIndex => repeated.set targetIndex source) repeated) turns

/-- A position as the bulk editor accepts it: a turn, or one of the three groups. -/
abbrev BulkTurnIndex := { index : Int // -3 ≤ index ∧ index ≤ 29 }

/-- The turns one position of the bulk editor stands for. -/
def bulkTurnIndices (raw : BulkTurnIndex) : List (Fin maxGeneralTurns) :=
  if raw.val < 0 then
    let start := if raw.val = -2 then 1 else 0
    let step := if raw.val = -3 then 1 else 2
    (List.finRange maxGeneralTurns).filter fun index => start ≤ index.val ∧ (index.val - start) % step = 0
  else [⟨raw.val.toNat, by have := raw.property; simp only [maxGeneralTurns]; omega⟩]

/-- The turns a list of positions stands for, each once and in the order they are met. -/
def expandGeneralTurnIndices (rawTurnIndices : List BulkTurnIndex) : List (Fin maxGeneralTurns) :=
  (rawTurnIndices.flatMap bulkTurnIndices).foldl
    (fun expanded index => if index ∈ expanded then expanded else expanded ++ [index]) []

/-- One command written to several turns. -/
structure ReservedTurnUpdate where
  turnIndices : List (Fin maxGeneralTurns)
  action : String
  args : Json

/-- Writes the updates in order, so that the last one to name a turn wins. -/
def applyUpdates (turns : List ReservedTurnEntry) (updates : List ReservedTurnUpdate) :
    List ReservedTurnEntry :=
  updates.foldl (fun turns update =>
    update.turnIndices.foldl
      (fun turns index => turns.set index.val (normalizeEntry update.action update.args)) turns) turns

/-- A stored turn. -/
structure GeneralTurnRow where
  turnIdx : Int
  actionCode : String
  arg : Json

/-- The revision and the lease of a general's queue. -/
structure GeneralTurnRevision where
  revision : Nat
  leaseOwner : Option String
  leaseExpiresAt : Option Int
  deriving DecidableEq

/-- What the database holds for one general's queue. -/
structure TurnQueueTables where
  revisionRow : Option GeneralTurnRevision
  rows : List GeneralTurnRow

/-- Puts one row in its place; a row outside the queue is passed over. -/
def placeRow (maxTurns : Nat) (result : List ReservedTurnEntry) (row : GeneralTurnRow) :
    List ReservedTurnEntry :=
  if row.turnIdx < 0 ∨ (maxTurns : Int) ≤ row.turnIdx then result
  else result.set row.turnIdx.toNat (normalizeEntry row.actionCode row.arg)

/-- The queue that stored rows denote. -/
def buildTurnListFromRows (rows : List GeneralTurnRow) (maxTurns : Nat) : List ReservedTurnEntry :=
  rows.foldl (placeRow maxTurns) (buildDefaultTurns maxTurns)

/-- The rows that store a queue. -/
def turnRows (turns : List ReservedTurnEntry) : List GeneralTurnRow :=
  turns.mapIdx fun turnIdx entry => ⟨turnIdx, normalizeAction entry.action, .obj entry.args⟩

namespace TurnQueueTables

/-- The revision readers see; a queue without a revision row is at zero. -/
def revision (tables : TurnQueueTables) : Nat := (tables.revisionRow.map (·.revision)).getD 0

/-- The daemon whose lease is stored, expired or not. -/
def leaseOwner (tables : TurnQueueTables) : Option String :=
  tables.revisionRow.bind (·.leaseOwner)

/-- The queue that is stored. -/
def loadGeneralTurns (tables : TurnQueueTables) : List ReservedTurnEntry :=
  buildTurnListFromRows tables.rows maxGeneralTurns

/-- Replaces the stored rows. -/
def persistGeneralTurns (tables : TurnQueueTables) (turns : List ReservedTurnEntry) :
    TurnQueueTables :=
  { tables with rows := turnRows turns }

end TurnQueueTables

/-- Nobody holds the queue at an instant. -/
def GeneralTurnRevision.Unleased (row : GeneralTurnRevision) (now : Int) : Prop :=
  row.leaseOwner = none ∨ ∃ expiresAt ∈ row.leaseExpiresAt, expiresAt ≤ now

instance (row : GeneralTurnRevision) (now : Int) : Decidable (row.Unleased now) :=
  inferInstanceAs (Decidable (_ ∨ _))

/-- The edit was made against a revision that is not the current one, or the queue is leased. -/
structure ReservedTurnRevisionConflictError where
  expectedRevision : Nat
  currentRevision : Nat
  deriving DecidableEq

/-- The text of the conflict. -/
def ReservedTurnRevisionConflictError.message (error : ReservedTurnRevisionConflictError) : String :=
  s!"Reserved turn queue revision conflict: expected {error.expectedRevision}, " ++
    s!"current {error.currentRevision}."

/-- Moves the revision on by one, if it is the expected one and nobody holds the queue. -/
def claimGeneralRevision (tables : TurnQueueTables) (expectedRevision : Nat) (now : Int) :
    Except ReservedTurnRevisionConflictError (TurnQueueTables × Nat) :=
  let claimed : TurnQueueTables × Nat :=
    ({ tables with
      revisionRow := some { revision := expectedRevision + 1, leaseOwner := none, leaseExpiresAt := none } },
      expectedRevision + 1)
  match tables.revisionRow with
  | some row =>
    if row.revision = expectedRevision ∧ row.Unleased now then .ok claimed
    else .error ⟨expectedRevision, row.revision⟩
  | none =>
    -- The first edit of a queue creates its revision row.
    if expectedRevision = 0 then .ok claimed else .error ⟨expectedRevision, 0⟩

/-- Accepts the expected revision without changing anything. -/
def assertGeneralRevision (tables : TurnQueueTables) (expectedRevision : Nat) :
    Except ReservedTurnRevisionConflictError (TurnQueueTables × Nat) :=
  if tables.revision = expectedRevision then .ok (tables, expectedRevision)
  else .error ⟨expectedRevision, tables.revision⟩

/-- Claims the revision, then rewrites the queue. -/
def rewriteGeneralTurns (tables : TurnQueueTables) (expectedRevision : Nat) (now : Int)
    (change : List ReservedTurnEntry → List ReservedTurnEntry) :
    Except ReservedTurnRevisionConflictError (TurnQueueTables × Nat) := do
  let (claimed, revision) ← claimGeneralRevision tables expectedRevision now
  .ok (claimed.persistGeneralTurns (change claimed.loadGeneralTurns), revision)

/-- Writes reserved turns. -/
def setGeneralTurns (tables : TurnQueueTables) (updates : List ReservedTurnUpdate)
    (expectedRevision : Nat) (now : Int) :
    Except ReservedTurnRevisionConflictError (TurnQueueTables × Nat) :=
  rewriteGeneralTurns tables expectedRevision now (applyUpdates · updates)

/-- Moves the reserved turns; moving them all away only checks the revision. -/
def shiftGeneralTurns (tables : TurnQueueTables) (amount : Int) (expectedRevision : Nat) (now : Int) :
    Except ReservedTurnRevisionConflictError (TurnQueueTables × Nat) :=
  if maxGeneralTurns ≤ amount.natAbs then assertGeneralRevision tables expectedRevision
  else rewriteGeneralTurns tables expectedRevision now (applyShift · amount)

/-- Repeats the reserved turns; a repeat longer than the queue only checks the revision. -/
def repeatGeneralTurns (tables : TurnQueueTables) (amount : Int) (expectedRevision : Nat) (now : Int) :
    Except ReservedTurnRevisionConflictError (TurnQueueTables × Nat) :=
  if (maxGeneralTurns : Int) ≤ amount then assertGeneralRevision tables expectedRevision
  else rewriteGeneralTurns tables expectedRevision now (applyRepeat · amount)

/-- An entry of the bulk editor. -/
structure BulkEntry where
  turnList : List BulkTurnIndex
  action : String
  args : Json

/-- An edit as the router lets it through, with its arguments already parsed. -/
inductive GeneralTurnEdit where
  | setGeneral (turnIndex : Fin maxGeneralTurns) (action : String) (args : Json)
  | setGeneralBulk (entries : List BulkEntry)
  | shiftGeneral (amount : { amount : Int // -12 ≤ amount ∧ amount ≤ 12 ∧ amount ≠ 0 })
  | repeatGeneral (amount : { amount : Int // 1 ≤ amount ∧ amount ≤ 12 })

namespace GeneralTurnEdit

/-- Runs an edit as one transaction, giving the new tables and the revision it reports. -/
def run (tables : TurnQueueTables) (expectedRevision : Nat) (now : Int) :
    GeneralTurnEdit → Except ReservedTurnRevisionConflictError (TurnQueueTables × Nat)
  | .setGeneral turnIndex action args =>
    setGeneralTurns tables [⟨[turnIndex], action, args⟩] expectedRevision now
  | .setGeneralBulk entries =>
    setGeneralTurns tables
      (entries.map fun entry => ⟨expandGeneralTurnIndices entry.turnList, entry.action, entry.args⟩)
      expectedRevision now
  | .shiftGeneral amount => shiftGeneralTurns tables amount.val expectedRevision now
  | .repeatGeneral amount => repeatGeneralTurns tables amount.val expectedRevision now

/-- What an edit asks for, as a change of the queue. -/
def effect : GeneralTurnEdit → List ReservedTurnEntry → List ReservedTurnEntry
  | .setGeneral turnIndex action args, turns => turns.set turnIndex.val (normalizeEntry action args)
  | .setGeneralBulk entries, turns =>
    entries.foldl (fun turns entry =>
      (expandGeneralTurnIndices entry.turnList).foldl
        (fun turns index => turns.set index.val (normalizeEntry entry.action entry.args)) turns) turns
  | .shiftGeneral amount, turns => applyShift turns amount.val
  | .repeatGeneral amount, turns => applyRepeat turns amount.val

end GeneralTurnEdit

end Sammo
