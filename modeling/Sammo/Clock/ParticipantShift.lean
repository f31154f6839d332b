import Sammo.Auction.Auctions
import Sammo.Messages.ActionableMessage
import Sammo.World.InMemoryWorld
import Sammo.World.OfficeRequest

/-! A reconciliation moves the deadlines in the database, statement by statement. -/

namespace Sammo.ClockReconciliation

/-! ### Statements -/

/-- A number that the database's wide integers can hold. -/
def bigint (value : Int) : Except String Int :=
  if -9223372036854775808 ≤ value ∧ value ≤ 9223372036854775807 then .ok value else .error "bigint out of range"

/-- An instant that the database's timestamps can hold. -/
def timestamp (value : Int) : Except String Int :=
  if -210866803200000 ≤ value ∧ value < 9224318016000000 then .ok value else .error "timestamp out of range"

/-- Changes the rows that a statement selects, and counts them; a row that cannot be changed ends the statement. -/
def updateRows {ρ : Type} (change : ρ → Except String (Option ρ)) (rows : List ρ) : Except String (List ρ × Nat) := do
  let changes ← rows.mapM fun row => (change row).map fun changed => (changed.getD row, changed.isSome.toNat)
  .ok (changes.map Prod.fst, (changes.map Prod.snd).sum)

/-- The integer of a field whose text is digits with an optional minus sign. -/
def sqlInteger? : Json → Option Int
  | .num value => if value.den = 1 then some value.num else none
  | .str text => integerText? text
  | _ => none

/-- The texts of instants, as the database and the program read and write them. -/
structure ClockTexts where
  /-- A text as a timestamp, moved by milliseconds, as a text again. -/
  movedTimestamp : String → Int → Option String
  /-- The instant that a text of the metadata denotes. -/
  parseDate : String → Option Int
  isoString : Int → String

/-! ### Rows -/

/-- The schedule of a general. -/
structure GeneralScheduleRow where
  id : Int
  turnTick : Option Int
  turnTime : Int
  metadata : Record

/-- The deadline of an auction. -/
structure AuctionScheduleRow where
  status : Auction.AuctionStatus
  closeAt : Int
  closeTick : Option Int
  deriving DecidableEq

/-- The deadline of a message's action, and the clock it was last set by. -/
structure MessageActionRow where
  messageId : Int
  status : ActionableMessage.ActionStatus
  expiresGameTick : Option Int
  clockRevision : Int
  deadlineGeneration : Int
  deriving DecidableEq

/-- How long a message is valid. -/
structure MessageValidityRow where
  id : Int
  validUntil : Int
  validUntilTick : Option Int
  deriving DecidableEq

/-- The end of a poll. -/
structure VotePollRow where
  closedAt : Option Int
  endAt : Option Int
  endTick : Option Int
  deriving DecidableEq

/-- A candidate of the pool, with his reservation. -/
structure SelectPoolRow where
  id : Int
  generalId : Option Int
  reservedUntil : Option Int
  reservedUntilTick : Option Int
  deriving DecidableEq

/-- The window in which a user may pick a general. -/
structure NpcSelectionTokenRow where
  validUntil : Int
  validUntilTick : Option Int
  pickMoreFrom : Int
  pickMoreFromTick : Option Int
  deriving DecidableEq

/-- The clock of the world. -/
structure WorldScheduleRow where
  lastTurnTick : Option Int
  clockTick : Option Int
  clockWallAnchor : Option Int
  clockPhase : GameClockPhase
  clockRevision : Int
  deadlineGeneration : Int
  metadata : Json

/-- The tables that a reconciliation moves. -/
structure ScheduleTables where
  worldState : WorldScheduleRow
  generals : List GeneralScheduleRow
  auctions : List AuctionScheduleRow
  messageActions : List MessageActionRow
  messages : List MessageValidityRow
  votePolls : List VotePollRow
  selectPool : List SelectPoolRow
  npcSelectionTokens : List NpcSelectionTokenRow

/-! ### The statements -/

variable (texts : ClockTexts) (cutTick shiftTicks deltaMilliseconds : Int)

/-- Moves the next turn of a general that has a tick. -/
def moveNextTurn (row : GeneralScheduleRow) : Except String (Option GeneralScheduleRow) :=
  match row.turnTick with
  | none => .ok none
  | some tick => do
    let turnTick ← bigint (tick + shiftTicks)
    let turnTime ← timestamp (row.turnTime + deltaMilliseconds)
    .ok (some { row with turnTick := some turnTick, turnTime })

/-- The text of a field of instants after it has been moved. -/
def movedField (metadata : Record) (key : String) : Except String String :=
  match metadata.text? key with
  -- A document that is set to nothing is nothing, which the column refuses.
  | none => .error "null value in column meta of relation general violates not-null constraint"
  | some text =>
    match texts.movedTimestamp text deltaMilliseconds with
    | some moved => .ok moved
    | none => .error s!"invalid input syntax for type timestamp: {text}"

/-- Moves the end of the wait before a general may be selected anew, if it lies at or after the cut. -/
def moveReselection (row : GeneralScheduleRow) : Except String (Option GeneralScheduleRow) :=
  match (row.metadata.get? "next_change_tick").bind sqlInteger? with
  | none => .ok none
  | some tick => do
    let tick ← bigint tick
    if cutTick ≤ tick then do
      let nextTick ← bigint (tick + shiftTicks)
      let nextChange ← movedField texts deltaMilliseconds row.metadata "next_change"
      let nextChangeAt ← movedField texts deltaMilliseconds row.metadata "nextChangeAt"
      .ok (some { row with
        metadata := ((row.metadata.set "next_change_tick" (.num nextTick)).set "next_change" (.str nextChange)).set
          "nextChangeAt" (.str nextChangeAt) })
    else .ok none

/-- The request for an office in a general's metadata, well-formed or not. -/
def storedRequest (metadata : Record) : Record := asRecord ((metadata.get? officeRequestKey).getD .null)

/-- Moves the deadline of a pending request for an office, if it lies at or after the cut. -/
def moveOfficeRequest (row : GeneralScheduleRow) : Except String (Option GeneralScheduleRow) :=
  let request := storedRequest row.metadata
  if request.text? "status" = some "pending" then
    match (request.get? "dueTick").bind sqlInteger? with
    | none => .ok none
    | some tick => do
      let tick ← bigint tick
      if cutTick ≤ tick then do
        let dueTick ← bigint (tick + shiftTicks)
        .ok (some { row with
          metadata := row.metadata.set officeRequestKey (.obj (request.set "dueTick" (.num dueTick))) })
      else .ok none
  else .ok none

/-- Moves the deadline of an auction that is open or being finalized. -/
def moveAuction (row : AuctionScheduleRow) : Except String (Option AuctionScheduleRow) :=
  match row.closeTick with
  | none => .ok none
  | some tick =>
    if row.status = .opened ∨ row.status = .finalizing then do
      let closeTick ← bigint (tick + shiftTicks)
      let closeAt ← timestamp (row.closeAt + deltaMilliseconds)
      .ok (some { row with closeTick := some closeTick, closeAt })
    else .ok none

/-- Sets the clock of an action that is pending. -/
def restampAction (targetRevision targetGeneration : Int) (row : MessageActionRow) :
    Except String (Option MessageActionRow) :=
  if row.status = .pending then
    .ok (some { row with clockRevision := targetRevision, deadlineGeneration := targetGeneration })
  else .ok none

/-- Moves the deadline of a pending action, if it lies at or after the cut. -/
def moveExpiry (targetRevision targetGeneration : Int) (row : MessageActionRow) :
    Except String (Option MessageActionRow) :=
  match row.expiresGameTick with
  | none => .ok none
  | some tick =>
    if row.status = .pending ∧ cutTick ≤ tick then do
      let expiresGameTick ← bigint (tick + shiftTicks)
      .ok (some { row with
        expiresGameTick := some expiresGameTick, clockRevision := targetRevision
        deadlineGeneration := targetGeneration })
    else .ok none

/-- Makes a message valid up to the deadline of its action, if that was moved. -/
def moveValidity (shifted : List (Int × Int)) (row : MessageValidityRow) :
    Except String (Option MessageValidityRow) :=
  match shifted.lookup row.id with
  | none => .ok none
  | some tick => do
    let validUntil ← timestamp (row.validUntil + deltaMilliseconds)
    .ok (some { row with validUntilTick := some tick, validUntil })

/-- The tick of a column after it has been moved, if it has one. -/
def movedTick : Option Int → Except String (Option Int)
  | none => .ok none
  | some tick => (bigint (tick + shiftTicks)).map some

/-- The instant of a column after it has been moved, if it has one. -/
def movedInstant : Option Int → Except String (Option Int)
  | none => .ok none
  | some instant => (timestamp (instant + deltaMilliseconds)).map some

/-- Moves the end of a poll that is not closed. -/
def movePoll (row : VotePollRow) : Except String (Option VotePollRow) :=
  match row.endTick with
  | none => .ok none
  | some tick =>
    if row.closedAt = none then do
      let endTick ← bigint (tick + shiftTicks)
      let endAt ← movedInstant deltaMilliseconds row.endAt
      .ok (some { row with endTick := some endTick, endAt })
    else .ok none

/-- Moves the reservation of a candidate who has not become a general. -/
def moveReservation (row : SelectPoolRow) : Except String (Option SelectPoolRow) :=
  match row.reservedUntilTick with
  | none => .ok none
  | some tick =>
    if row.generalId = none then do
      let reservedUntilTick ← bigint (tick + shiftTicks)
      let reservedUntil ← movedInstant deltaMilliseconds row.reservedUntil
      .ok (some { row with reservedUntilTick := some reservedUntilTick, reservedUntil })
    else .ok none

/-- A tick and its instant after they have been moved; without a tick the instant stays. -/
def movedEnd (tick : Option Int) (instant : Int) : Except String (Option Int × Int) :=
  match tick with
  | none => .ok (none, instant)
  | some tick => do .ok (some (← bigint (tick + shiftTicks)), ← timestamp (instant + deltaMilliseconds))

/-- Moves both ends of a window that have a tick. -/
def moveToken (row : NpcSelectionTokenRow) : Except String (Option NpcSelectionTokenRow) :=
  if row.validUntilTick = none ∧ row.pickMoreFromTick = none then .ok none
  else do
    let valid ← movedEnd shiftTicks deltaMilliseconds row.validUntilTick row.validUntil
    let pickMore ← movedEnd shiftTicks deltaMilliseconds row.pickMoreFromTick row.pickMoreFrom
    .ok (some
      { validUntilTick := valid.1
        validUntil := valid.2
        pickMoreFromTick := pickMore.1
        pickMoreFrom := pickMore.2 })

/-- A date of the world's metadata after it has been moved; what is no date stays. -/
def shiftMetaDate (value : Json) : Except String Json :=
  match value with
  | .str text =>
    if text.trimAscii.isEmpty then .ok value
    else
      match texts.parseDate text with
      | none => .ok value
      | some instant =>
        if ValidDate (instant + deltaMilliseconds) then .ok (.str (texts.isoString (instant + deltaMilliseconds)))
        else .error "Invalid time value"
  | _ => .ok value

/-- The world's metadata with its dates moved. -/
def shiftedMeta (value : Json) : Except String Json := do
  let moved ← ["lastTurnTime", "turntime", "starttime", "tnmt_time"].foldlM (fun (record : Record) key =>
    match record.get? key with
    | none => .ok record
    | some date => (shiftMetaDate texts deltaMilliseconds date).map (record.set key)) (asRecord value)
  .ok (.obj moved)

/-- The rows that a statement on actions has moved, with their new deadlines. -/
def movedExpiries (before after : List MessageActionRow) : List (Int × Int) :=
  (before.zip after).filterMap fun row =>
    if row.1.status = .pending ∧ (row.1.expiresGameTick.any fun tick => cutTick ≤ tick) then
      row.2.expiresGameTick.map fun tick => (row.1.messageId, tick)
    else none

/-- Moves every deadline of the tables, and tells how many rows of each kind it has touched. -/
def applyParticipantShift (alignedTick targetRevision targetGeneration resumeWallAt : Int) (db : ScheduleTables) :
    Except String (ScheduleTables × List (String × Nat)) := do
  let lastTurnTick ← movedTick shiftTicks db.worldState.lastTurnTick
  let turned ← updateRows (moveNextTurn shiftTicks deltaMilliseconds) db.generals
  let reselected ← updateRows (moveReselection texts cutTick shiftTicks deltaMilliseconds) turned.1
  let requested ← updateRows (moveOfficeRequest cutTick shiftTicks) reselected.1
  let auctions ← updateRows (moveAuction shiftTicks deltaMilliseconds) db.auctions
  let restamped ← updateRows (restampAction targetRevision targetGeneration) db.messageActions
  let expiries ← updateRows (moveExpiry cutTick shiftTicks targetRevision targetGeneration) restamped.1
  let shifted := movedExpiries cutTick restamped.1 expiries.1
  let messages ← updateRows (moveValidity deltaMilliseconds shifted) db.messages
  let votePolls ← updateRows (movePoll shiftTicks deltaMilliseconds) db.votePolls
  let selectPool ← updateRows (moveReservation shiftTicks deltaMilliseconds) db.selectPool
  let tokens ← updateRows (moveToken shiftTicks deltaMilliseconds) db.npcSelectionTokens
  let metadata ← shiftedMeta texts deltaMilliseconds db.worldState.metadata
  .ok
    ({ worldState :=
        { lastTurnTick
          clockTick := some alignedTick
          clockWallAnchor := some resumeWallAt
          clockPhase := .reconciling
          clockRevision := targetRevision
          deadlineGeneration := targetGeneration
          metadata }
       generals := requested.1
       auctions := auctions.1
       messageActions := expiries.1
       messages := messages.1
       votePolls := votePolls.1
       selectPool := selectPool.1
       npcSelectionTokens := tokens.1 },
      [("turn-cursor", db.worldState.lastTurnTick.isSome.toNat), ("general-next-turn", turned.2),
        ("selection-reselection-deadline", reselected.2), ("city-office-request-deadline", requested.2),
        ("auction-deadline", auctions.2), ("message-action-clock-coordinate", restamped.2),
        ("message-action-expiry", messages.2), ("vote-end-deadline", votePolls.2),
        ("select-pool-reservation", selectPool.2), ("npc-selection-window", tokens.2), ("world-clock", 1),
        ("movable-json-rule-anchors", 1), ("auction-finalizing-recovery", 0)])

/-! ### The flush of a general -/

/-- The metadata that a flush writes, whole. -/
def buildPersistedGeneralMeta (itemInventory : Json) (metadata : Record) : Record :=
  normalizeGeneralMetaDatabaseIntegers (metadata.set "itemInventory" itemInventory)

/-- Writes a general's schedule over his row. -/
def buildGeneralUpdate (itemInventory : Json) (general : General) (row : GeneralScheduleRow) : GeneralScheduleRow :=
  { row with
    turnTick := some (general.turnTick.getD 0)
    turnTime := general.turnTime
    metadata := buildPersistedGeneralMeta itemInventory general.metadata }

end Sammo.ClockReconciliation
