import Sammo.Lib.StateMachine
import Sammo.Selection.WorldRow
import Sammo.Turns.ReservedTurns
import Sammo.World.Operations

/-! The selection pool: reserving candidates, starting with one of them, and changing to another. -/

namespace Sammo

/-- The kinds of refusal a player is shown. -/
inductive SelectPoolErrorCode where
  | badRequest
  | preconditionFailed
  | conflict
  | internalServerError
  deriving DecidableEq

/-- How a call comes to no good end. -/
inductive SelectPoolFailure where
  /-- A refusal, which is an ordinary result and keeps what the call has done. -/
  | refused (code : SelectPoolErrorCode) (message : String)
  /-- An error that nobody expects, which takes the call back. -/
  | thrown (message : String)
  deriving DecidableEq

/-- Candidates reserved at a time. -/
def reservationCount : Nat := 14

/-- Turns a reservation is good for. -/
def reservationTurnMultiplier : Nat := 2

/-- Turns between two choices of one player. -/
def reselectionTurnMultiplier : Nat := 12

/-- The pool of the ordinary selection. -/
def legacySelectionPool : String := "SPoolUnderU30"

/-- The pool of the centennial selection. -/
def centennialAllStarPool : String := "SPoolUnderU100"

/-- A row of the pool. -/
structure SelectPoolRow where
  id : Int
  uniqueName : String
  ownerUserId : Option String
  generalId : Option Int
  reservedUntil : Option Int
  reservedUntilTick : Option Int
  info : Json

/-- What a row says about its candidate, once it has been read. -/
structure SelectPoolCandidateInfo where
  uniqueName : String
  generalName : String
  leadership : ℚ
  strength : ℚ
  intel : ℚ
  specialDomestic : Option String
  specialWar : Option String
  ego : Option String
  experience : Option ℚ
  dedication : Option ℚ
  dex : List ℚ
  imgsvr : ℚ
  picture : String

/-- A candidate as a player is shown it. -/
structure SelectPoolCandidateDto where
  uniqueName : String
  generalName : String
  leadership : ℚ
  strength : ℚ
  intel : ℚ
  specialDomestic : Option String
  specialDomesticName : Option String
  specialDomesticInfo : String
  specialWar : Option String
  specialWarName : Option String
  specialWarInfo : String
  ego : Option String
  dex : List ℚ
  imageServer : ℚ
  picture : String

/-- What a player is shown of a reservation. -/
structure SelectPoolReservationDto where
  poolName : String
  hasGeneral : Bool
  validUntil : Int
  candidates : List SelectPoolCandidateDto

/-- The three abilities a candidate starts with. -/
structure CandidateStats where
  leadership : ℚ
  strength : ℚ
  intel : ℚ

/-- What the growth of the centennial pool makes of a general. -/
structure CentennialGrowth where
  stats : CandidateStats
  role : Record
  metadata : Record

/-- The growth rules of the centennial pool, which decide abilities only. -/
structure CentennialRules where
  initialStats : WorldStateRow → SelectPoolCandidateInfo → CandidateStats
  currentTargetStats : WorldStateRow → SelectPoolCandidateInfo → Except String CandidateStats
  initialAux : WorldStateRow → SelectPoolCandidateInfo → CandidateStats → Json
  applyTarget : WorldStateRow → General → SelectPoolCandidateInfo → Except String CentennialGrowth

/-- The last visit of a user to a general. -/
structure SelectionAccessLog where
  userId : String
  lastRefresh : Int
  deriving DecidableEq

/-- The tables the selection works on. -/
structure SelectionDatabase where
  pool : List SelectPoolRow
  generals : OrderedMap Int General
  cities : OrderedMap Int City
  generalTurns : List (Int × GeneralTurnRow)
  generalTurnRevisions : OrderedMap Int Nat
  accessLogs : OrderedMap Int SelectionAccessLog
  logEntries : List LogEntryDraft

/-- The world in memory, the tables, and the tick of the last call. -/
structure SelectionServer where
  world : InMemoryTurnWorld
  db : SelectionDatabase
  tick : Int

/-- A call on the server. -/
abbrev SelectM := Effect SelectPoolFailure SelectionServer

namespace SelectM

/-- Refuses the call. -/
def refuse {α : Type} (code : SelectPoolErrorCode) (message : String) : SelectM α :=
  throw (.refused code message)

/-- A result that nobody expects to fail. -/
def expect {α : Type} (result : Except String α) : SelectM α :=
  match result with
  | .ok value => pure value
  | .error message => throw (.thrown message)

/-- Runs an operation of the world. -/
def onWorld {α : Type} (operation : Effect String InMemoryTurnWorld α) : SelectM α := do
  let server ← get
  let (result, world) := operation.perform server.world
  set { server with world }
  expect result

/-- Changes the tables. -/
def changeDb (change : SelectionDatabase → SelectionDatabase) : SelectM Unit :=
  modify fun server => { server with db := change server.db }

/-- Changes the rows a condition picks and counts them; no two rows may end up with one general. -/
def updatePool (wanted : SelectPoolRow → Bool) (change : SelectPoolRow → SelectPoolRow) : SelectM Nat := do
  let server ← get
  let pool := server.db.pool.map fun row => if wanted row then change row else row
  if (pool.filterMap SelectPoolRow.generalId).Nodup then
    changeDb fun db => { db with pool }
    return (server.db.pool.filter wanted).length
  else throw (.thrown "Unique constraint failed on general_id")

end SelectM

open SelectM

/-- A record of the world's settings. -/
def WorldStateRow.section_ (row : WorldStateRow) (key : String) : Record :=
  asRecord ((row.config.get? key).getD .null)

/-- The name of the pool candidates come from. -/
def resolvePoolName (row : WorldStateRow) : Option String :=
  (Record.get? (row.section_ "map") "targetGeneralPool").bind Json.string?

/-- What a player may choose besides the candidate. -/
def resolvePoolAllowOptions (row : WorldStateRow) : List String :=
  match Record.get? (row.section_ "map") "generalPoolAllowOption" with
  | some (.arr options) => options.filterMap Json.string?
  | _ => []

/-- Only a world of the second mode with a known pool has a selection. -/
def isSelectionPoolWorld (row : WorldStateRow) : Bool :=
  asNumber (row.config.get? "npcMode") 0 = 2 ∧
    (resolvePoolName row = some legacySelectionPool ∨ resolvePoolName row = some centennialAllStarPool)

/-- The largest number of generals. -/
def resolveSelectionMaxGeneral (row : WorldStateRow) : Int :=
  maxGeneralOf [row.config.get? "maxGeneral", Record.get? (row.section_ "const") "defaultMaxGeneral",
    Record.get? (row.section_ "const") "maxGeneral"]

/-- Refuses a world without a selection. -/
def requirePoolWorld (row : WorldStateRow) : SelectM Unit :=
  if isSelectionPoolWorld row then pure () else refuse .preconditionFailed "선택 가능한 서버가 아닙니다"

/-- A text that is not empty. -/
def filledText? (value : Option Json) : Option String :=
  (value.bind Json.string?).filter fun text => text ≠ ""

/-- A whole number. -/
def wholeNumber? (value : Option Json) : Option ℚ :=
  (value.bind Json.number?).filter fun number => number.den = 1

/-- A field that may be missing; `none` if it is there and is not what it should be. -/
def optionalField? {α : Type} (read : Option Json → Option α) (value : Option Json) : Option (Option α) :=
  match value with
  | none => some none
  | some present => (read (some present)).map some

/-- The candidate a row describes, if every field of it is as it should be. -/
def readCandidateInfo (info : Json) : Option SelectPoolCandidateInfo := do
  let fields := asRecord info
  let uniqueName ← filledText? (Record.get? fields "uniqueName")
  let generalName ← filledText? (Record.get? fields "generalName")
  let leadership ← wholeNumber? (Record.get? fields "leadership")
  let strength ← wholeNumber? (Record.get? fields "strength")
  let intel ← wholeNumber? (Record.get? fields "intel")
  let specialDomestic ← match Record.get? fields "specialDomestic" with
    | some .null => some none
    | other => (filledText? other).map some
  let specialWar ← optionalField? filledText? (Record.get? fields "specialWar")
  let ego ← optionalField? filledText? (Record.get? fields "ego")
  let experience ← optionalField? wholeNumber? (Record.get? fields "experience")
  let dedication ← optionalField? wholeNumber? (Record.get? fields "dedication")
  let dex ← match Record.get? fields "dex" with
    | some (.arr values) => (values.mapM Json.number?).filter fun dex => dex.length = 5
    | _ => none
  let imgsvr ← ((Record.get? fields "imgsvr").bind Json.number?).filter fun value => value = 0 ∨ value = 1
  let picture ← (Record.get? fields "picture").bind Json.string?
  some
    { uniqueName, generalName, leadership, strength, intel, specialDomestic, specialWar, ego, experience
      dedication, dex, imgsvr, picture }

/-- The candidate of a row, which must be described under the row's own name. -/
def parseCandidate (row : SelectPoolRow) : Except SelectPoolFailure SelectPoolCandidateInfo :=
  match (readCandidateInfo row.info).filter fun info => info.uniqueName = row.uniqueName with
  | some info => .ok info
  | none => .error (.refused .internalServerError ("장수 선택 후보 정보가 올바르지 않습니다: " ++ row.uniqueName))

/-- How likely a candidate is drawn. -/
def calculateSelectionCandidateWeight (poolName : String) (candidate : SelectPoolCandidateInfo)
    (ownerIsUser : Bool) : ℚ :=
  let dexWeight := candidate.dex.sum
  if poolName ≠ centennialAllStarPool then dexWeight
  else
    let eligibleDexWeight := max 100000 dexWeight
    if ¬ ownerIsUser then eligibleDexWeight
    else
      let statTotal := candidate.leadership + candidate.strength + candidate.intel
      eligibleDexWeight * (1 + 1 / 2 * min 1 (max 0 ((statTotal - 160) / 30)))

/-- A code without its leading mark. -/
def dropMark (mark code : String) : String :=
  if mark.toList.isPrefixOf code.toList then String.ofList (code.toList.drop mark.length) else code

/-- A candidate with the texts of its traits. -/
def toCandidateDto (services : SelectionServices) (candidate : SelectPoolCandidateInfo) :
    SelectPoolCandidateDto :=
  let trait := candidate.specialDomestic.bind (services.trait .eventDomestic)
  let warTrait := candidate.specialWar.bind (services.trait .war)
  let dropWarMark (code : String) : String :=
    -- The longer mark is tried first.
    if "che_event_".toList.isPrefixOf code.toList then dropMark "che_event_" code else dropMark "che_" code
  { uniqueName := candidate.uniqueName, generalName := candidate.generalName
    leadership := candidate.leadership, strength := candidate.strength, intel := candidate.intel
    specialDomestic := candidate.specialDomestic
    specialDomesticName := (trait.map Prod.fst).or (candidate.specialDomestic.map (dropMark "che_event_"))
    specialDomesticInfo := (trait.map Prod.snd).getD ""
    specialWar := candidate.specialWar
    specialWarName := (warTrait.map Prod.fst).or (candidate.specialWar.map dropWarMark)
    specialWarInfo := (warTrait.map Prod.snd).getD ""
    ego := candidate.ego, dex := candidate.dex, imageServer := candidate.imgsvr
    picture := candidate.picture }

/-- A tick that numbers represent exactly. -/
def toSafeReservationTick (value : Int) (uniqueName : String) : Except SelectPoolFailure Int :=
  if isSafeInteger value then .ok value
  else .error (.refused .internalServerError
    ("장수 선택 후보 " ++ uniqueName ++ "의 예약 tick이 안전한 정수 범위를 벗어났습니다."))

/-- The pool's own rules for a candidate that is shown, with an error of theirs as one nobody expects. -/
def shownStats (rules : CentennialRules) (row : WorldStateRow) (hasGeneral : Bool)
    (info : SelectPoolCandidateInfo) : Except SelectPoolFailure SelectPoolCandidateInfo :=
  if resolvePoolName row ≠ some centennialAllStarPool then .ok info
  else
    let display : Except String CandidateStats :=
      if hasGeneral then rules.currentTargetStats row info else .ok (rules.initialStats row info)
    match display with
    | .ok stats =>
      .ok { info with leadership := stats.leadership, strength := stats.strength, intel := stats.intel }
    | .error message => .error (.thrown message)

/-- Shows some reserved rows. -/
def toReservationDto (services : SelectionServices) (rules : CentennialRules) (rows : List SelectPoolRow)
    (hasGeneral : Bool) (row : WorldStateRow) (clock : GameClock) :
    Except SelectPoolFailure SelectPoolReservationDto := do
  match rows.head?.bind fun first => first.reservedUntilTick.map fun tick => (first, tick) with
  | none => .error (.refused .internalServerError "장수 선택 후보의 유효기간이 없습니다.")
  | some (first, tick) =>
    let tick ← toSafeReservationTick tick first.uniqueName
    let expiresAt ← (clock.tickToDate tick).mapError SelectPoolFailure.thrown
    let infos ← rows.mapM fun row' => do
      let raw ← parseCandidate row'
      let shown ← shownStats rules row hasGeneral raw
      .ok (row'.id, shown)
    let sorted := infos.insertionSort fun left right =>
      if left.2.dex.sum = right.2.dex.sum then left.1 ≤ right.1 else left.2.dex.sum ≤ right.2.dex.sum
    .ok
      { poolName := (resolvePoolName row).getD "", hasGeneral, validUntil := expiresAt
        candidates := sorted.map fun entry => toCandidateDto services entry.2 }


/-- The instant from which another candidate may be chosen, as it is shown. -/
def readNextChangeAt (services : SelectionServices) (metadata : Record) : Option Int :=
  ((firstPresent [metadata.get? "next_change", metadata.get? "nextChangeAt"]).bind Json.string?).bind
    services.parseDate

/-- The tick from which another candidate may be chosen. -/
def readNextChangeTick (metadata : Record) : Option Int :=
  match metadata.get? "next_change_tick" with
  | some (.num value) => (Json.num value).safeInteger?
  | some (.str text) =>
    if text.trimAscii.toString = "" then none
    else (numberText? text).bind fun value => (Json.num value).safeInteger?
  | _ => none

/-- Refuses a choice before its time. -/
def assertReselectionCooldown (services : SelectionServices) (metadata : Record) (tick : Int) :
    Except SelectPoolFailure Unit :=
  match readNextChangeTick metadata with
  | none =>
    if (readNextChangeAt services metadata).isSome then
      .error (.refused .internalServerError "장수 재선택 cooldown의 GAME_TIME authority가 없습니다.")
    else .ok ()
  | some deadline =>
    if tick < deadline then .error (.refused .preconditionFailed "아직 다시 고를 수 없습니다") else .ok ()

/-- The secret seed, without which nothing is drawn. -/
def getWorldHiddenSeed (row : WorldStateRow) : Except SelectPoolFailure SeedPart :=
  match hiddenSeed? row with
  | some seed => .ok seed
  | none => .error (.refused .internalServerError "장수 선택 비밀 seed가 설정되지 않았습니다.")

namespace SelectPoolRow

/-- A reservation is good up to its last tick. -/
def activeAt (row : SelectPoolRow) (tick : Int) : Bool :=
  match row.reservedUntilTick with
  | some limit => tick ≤ limit
  | none => false

/-- A reservation that has run out, or that has no tick at all. -/
def expiredAt (row : SelectPoolRow) (tick : Int) : Bool :=
  match row.reservedUntilTick with
  | some limit => limit < tick
  | none => row.reservedUntil.isSome

/-- Nobody has reserved or taken the candidate. -/
def isFree (row : SelectPoolRow) : Bool :=
  row.ownerUserId = none ∧ row.reservedUntil = none ∧ row.reservedUntilTick = none ∧ row.generalId = none

/-- A user has reserved the candidate, and the reservation is good. -/
def isReservedBy (row : SelectPoolRow) (userId : String) (tick : Int) : Bool :=
  row.ownerUserId = some userId ∧ row.generalId = none ∧ row.activeAt tick

/-- Nobody has the candidate any more. -/
def release (row : SelectPoolRow) : SelectPoolRow :=
  { row with ownerUserId := none, reservedUntil := none, reservedUntilTick := none }

/-- The candidate belongs to a general. -/
def bind (row : SelectPoolRow) (generalId : Int) : SelectPoolRow :=
  { row.release with generalId := some generalId }

end SelectPoolRow

/-- The good reservation of a user for a candidate. -/
def requireSelectionToken (db : SelectionDatabase) (userId uniqueName : String) (tick : Int) :
    Except SelectPoolFailure SelectPoolRow :=
  match db.pool.find? fun row => row.isReservedBy userId tick ∧ row.uniqueName = uniqueName with
  | some token => .ok token
  | none => .error (.refused .preconditionFailed "유효한 장수 목록이 없습니다.")

/-- A candidate as the world keeps it in memory; fields that cannot be read are left out. -/
def parseScenarioGeneralPoolCandidate (id : Int) (uniqueName : String) (info : Json) : Record :=
  let fields := asRecord info
  let number (key : String) : Option Json := ((Record.get? fields key).bind Json.number?).map .num
  let text (key : String) : Option Json := (Record.get? fields key).filter fun
    | .null => true
    | .str _ => true
    | _ => false
  let picture : Option Json := (Record.get? fields "picture").filter fun
    | .null => true
    | .str _ => true
    | .num _ => true
    | _ => false
  let stats : Option Json :=
    match number "leadership", number "strength", number "intel" with
    | some leadership, some strength, some intelligence =>
      some (.obj [("leadership", leadership), ("strength", strength), ("intelligence", intelligence)])
    | _, _, _ => none
  let dex : Option Json :=
    match Record.get? fields "dex" with
    | some (.arr values) =>
      ((values.mapM Json.number?).filter fun dex => dex.length = 5).map fun dex => .arr (dex.map .num)
    | _ => none
  let optional (key : String) (value : Option Json) : Record := (value.map fun value => (key, value)).toList
  [("poolEntryId", .num id), ("uniqueName", .str uniqueName),
    ("name", .str ((filledText? (Record.get? fields "generalName")).getD uniqueName)),
    ("sourceInfo", .obj fields)] ++
    optional "stats" stats ++ optional "dex" dex ++ optional "specialDomestic" (text "specialDomestic") ++
    optional "specialWar" (text "specialWar") ++ optional "imageServer" (number "imgsvr") ++
    optional "picture" picture ++ optional "experience" (number "experience") ++
    optional "dedication" (number "dedication") ++ optional "weight" (number "weight")

/-- The note a general carries about the candidate it was made from. -/
def buildScenarioGeneralPoolClaimMeta (services : SelectionServices) (candidate : Record) (claimedAt : Int) :
    Record :=
  [("scenarioGeneralPoolClaim", .obj
    [("poolEntryId", (candidate.get? "poolEntryId").getD .null),
      ("uniqueName", (candidate.get? "uniqueName").getD .null),
      ("claimedAt", .str (services.isoString claimedAt))])]

/-- The row a general's note names, if the note is as it should be, with the instant of the claim. -/
def readScenarioGeneralPoolClaim (services : SelectionServices) (metadata : Record) :
    Option (Int × String × Int) := do
  let raw := asRecord ((metadata.get? "scenarioGeneralPoolClaim").getD .null)
  let poolEntryId ← ((Record.get? raw "poolEntryId").bind Json.safeInteger?).filter fun id => 0 < id
  let uniqueName ← filledText? (Record.get? raw "uniqueName")
  let claimedAt ← ((Record.get? raw "claimedAt").bind Json.string?).bind services.parseDate
  some (poolEntryId, uniqueName, claimedAt)

/-- A row as the world keeps it in memory. -/
def mapSelectionPoolRow (row : SelectPoolRow) : Except SelectPoolFailure TurnGeneralPoolEntry := do
  let reservedUntilTick ← match row.reservedUntilTick with
    | none => .ok none
    | some tick => (toSafeReservationTick tick row.uniqueName).map some
  .ok
    { id := row.id, uniqueName := row.uniqueName, ownerUserId := row.ownerUserId, generalId := row.generalId
      reservedUntil := row.reservedUntil, reservedUntilTick
      candidate := .obj (parseScenarioGeneralPoolCandidate row.id row.uniqueName row.info) }

/-- Shows the world the pool as it is stored, and gives its rows in the order of their ids. -/
def synchronizeSelectionPoolWorld : SelectM (List SelectPoolRow) := do
  let server ← get
  let rows := server.db.pool.insertionSort fun left right => left.id ≤ right.id
  let entries ← Effect.ofExcept (rows.mapM mapSelectionPoolRow)
  onWorld (InMemoryTurnWorld.onWorld (TurnWorld.replaceGeneralPoolEntries entries))
  return rows

/-- The mark in front of the name of a general that is not a player's. -/
def npcNamePrefix (npcState : ℚ) : Option String :=
  if npcState = 1 ∨ npcState = 2 then some "ⓝ"
  else if npcState = 3 then some "ⓜ"
  else if npcState = 4 then some "ⓖ"
  else if npcState = 5 then some "㉥"
  else if npcState = 6 then some "ⓤ"
  else if npcState = 9 then some "ⓞ"
  else none

/-- The candidates of the world in memory that can be claimed at a tick. -/
def listGeneralPoolCandidates (services : SelectionServices) (world : TurnWorld) (claimedAt claimedAtTick : Int) :
    Option (List Json) :=
  world.generalPoolEntries.map fun entries =>
    let generals := world.generals.rows.entries.map Prod.snd
    let claimed := generals.filterMap fun general =>
      (readScenarioGeneralPoolClaim services general.metadata).map Prod.fst
    let currentNames := generals.map fun general =>
      ((npcNamePrefix general.npcState).map fun mark => dropMark mark general.name).getD general.name
    let claimable (entry : TurnGeneralPoolEntry) : Bool :=
      let name := ((Record.get? (asRecord entry.candidate) "name").bind Json.string?).getD ""
      let unreserved : Bool :=
        entry.ownerUserId = none ∧ entry.reservedUntil = none ∧ entry.reservedUntilTick = none
      let expired : Bool :=
        match entry.reservedUntilTick with
        | some limit => limit < claimedAtTick
        | none => entry.reservedUntil.any fun limit => limit < claimedAt
      (entry.generalId.all fun id => id ∈ world.generals.deleted) ∧ entry.id ∉ claimed ∧
        entry.uniqueName ∉ currentNames ∧ name ∉ currentNames ∧ (unreserved ∨ expired)
    (entries.filter claimable).map TurnGeneralPoolEntry.candidate

/-- A player asks for candidates. -/
structure ReserveSelectionRequest where
  userId : String
  now : Int
  processingGameTick : Int
  seedOwnerIdentity : SeedPart

/-- Draws rows until there are enough of them, as often as allowed; the draws are numbered. -/
def claimWeightedSelectionCandidates (draw : Nat → Except String SelectPoolRow) (count : Nat) :
    Nat → Nat → List SelectPoolRow → Except String (List SelectPoolRow)
  | 0, _, claimed => .ok claimed
  | attempts + 1, attempt, claimed => do
    if claimed.length < count then
      let candidate ← draw attempt
      -- A row drawn again is passed over.
      if claimed.any fun row => row.id = candidate.id then
        claimWeightedSelectionCandidates draw count attempts (attempt + 1) claimed
      else claimWeightedSelectionCandidates draw count attempts (attempt + 1) (claimed ++ [candidate])
    else .ok claimed

/-- The seed of the draws of a reservation. -/
def buildSelectPoolSeed (hiddenSeed ownerIdentity : SeedPart) (tick : Int) : String :=
  simpleSerialize [hiddenSeed, .text "selectPool", ownerIdentity, .number tick]

/-- The rows chosen for a reservation, its last tick and instant, and what the player is shown. -/
structure ChosenReservation where
  selected : List SelectPoolRow
  reservedUntilTick : Int
  reservedUntil : Int
  shown : SelectPoolReservationDto

/-- Chooses the rows of a reservation out of those that are free. -/
def chooseReservation (services : SelectionServices) (rules : CentennialRules) (row : WorldStateRow)
    (request : ReserveSelectionRequest) (hasGeneral : Bool) (world : InMemoryTurnWorld)
    (currentRows : List SelectPoolRow) : Except SelectPoolFailure ChosenReservation := do
  let tick := request.processingGameTick
  let candidates := (listGeneralPoolCandidates services world.toTurnWorld request.now tick).getD []
  let availableIds := candidates.filterMap fun candidate =>
    (Record.get? (asRecord candidate) "poolEntryId").bind Json.safeInteger?
  let available := currentRows.filter fun row => row.id ∈ availableIds ∧ row.isFree
  if available.length < reservationCount then .error (.refused .preconditionFailed "pool 부족")
  let hiddenSeed ← getWorldHiddenSeed row
  let seed := buildSelectPoolSeed hiddenSeed request.seedOwnerIdentity tick
  let weighted ← available.mapM fun candidate => do
    let info ← parseCandidate candidate
    .ok (candidate, calculateSelectionCandidateWeight ((resolvePoolName row).getD "") info true)
  let reservedUntilTick := tick + (reservationTurnMultiplier * gameTicksPerTurn : Nat)
  if ¬ isSafeInteger reservedUntilTick then
    .error (.refused .internalServerError "장수 선택 예약 tick이 안전한 정수 범위를 벗어났습니다.")
  let reservedUntil ← (world.state.clock.tickToDate reservedUntilTick).mapError SelectPoolFailure.thrown
  let selected ← (claimWeightedSelectionCandidates
    (fun attempt => choiceUsingWeight weighted (services.nextFloat1 seed attempt)) reservationCount
    (max (weighted.length * 8) 1000) 0 []).mapError SelectPoolFailure.thrown
  if selected.length ≠ reservationCount then
    .error (.refused .conflict "장수 선택 후보를 예약하지 못했습니다. 다시 시도해 주세요.")
  let reserved := selected.map fun candidate => { candidate with
    ownerUserId := some request.userId, reservedUntil := some reservedUntil
    reservedUntilTick := some reservedUntilTick }
  let shown ← toReservationDto services rules reserved hasGeneral row world.state.clock
  .ok ⟨selected, reservedUntilTick, reservedUntil, shown⟩

/-- Reserves candidates for a player, or shows those that are reserved already. -/
def reserveSelectionPool (services : SelectionServices) (rules : CentennialRules) (row : WorldStateRow)
    (request : ReserveSelectionRequest) : SelectM SelectPoolReservationDto := do
  requirePoolWorld row
  let tick := request.processingGameTick
  if ¬ isSafeInteger tick then
    refuse .internalServerError "장수 선택 처리 tick이 안전한 정수 범위를 벗어났습니다."
  let server ← get
  let general := server.db.generals.entries.find? fun entry => entry.2.userId? = some request.userId
  Effect.ofExcept (match general with
    | some (_, general) => assertReselectionCooldown services general.metadata tick
    | none => .ok ())
  let currentRows ← synchronizeSelectionPoolWorld
  let existing := currentRows.filter fun row => row.isReservedBy request.userId tick
  if existing.isEmpty then
    -- Reservations that have run out are taken back for everybody.
    let _ ← updatePool (fun row => row.generalId = none ∧ row.expiredAt tick) SelectPoolRow.release
    let currentRows ← synchronizeSelectionPoolWorld
    let server ← get
    let chosen ← Effect.ofExcept
      (chooseReservation services rules row request general.isSome server.world currentRows)
    let selectedIds := chosen.selected.map SelectPoolRow.id
    let claimed ← updatePool (fun row => row.id ∈ selectedIds ∧ row.isFree) fun row => { row with
      ownerUserId := some request.userId, reservedUntil := some chosen.reservedUntil
      reservedUntilTick := some chosen.reservedUntilTick }
    if claimed ≠ reservationCount then
      throw (.thrown "장수 선택 후보의 DB 점유 수가 턴 데몬 선택 결과와 일치하지 않습니다.")
    let _ ← synchronizeSelectionPoolWorld
    return chosen.shown
  else
    Effect.ofExcept (toReservationDto services rules existing general.isSome row server.world.state.clock)

/-- The generals in the tables must be those of the world. -/
def assertGeneralIdSnapshotMatches (server : SelectionServer) : Except SelectPoolFailure Unit :=
  let persistedIds := server.db.generals.keys.insertionSort fun left right => left ≤ right
  let runtimeIds := server.world.generals.rows.keys.insertionSort fun left right => left ≤ right
  if persistedIds = runtimeIds then .ok ()
  else .error (.thrown "DB와 턴 데몬의 장수 번호 목록이 일치하지 않아 장수를 생성할 수 없습니다.")

/-- Takes back the reservations of a user, and those that have run out. -/
def clearUnusedReservations (userId : String) (tick : Int) : SelectM Unit := do
  let _ ← updatePool
    (fun row => row.generalId = none ∧ (row.ownerUserId = some userId ∨ row.expiredAt tick)) SelectPoolRow.release

/-- The ages at which a general finds its specialities. -/
def resolveSpecialityAges (row : WorldStateRow) (age : Int) : Int × Int :=
  let retirementYear := asNumber (Record.get? (row.section_ "const") "retirementYear") 80
  let scenarioMeta := asRecord ((row.metadata.get? "scenarioMeta").getD .null)
  let startYear := asNumber (Record.get? scenarioMeta "startYear") row.currentYear
  let relativeYear := max (row.currentYear - startYear) 0
  let build (divisor : ℚ) : Int := max (roundHalfUp ((retirementYear - age) / divisor - relativeYear / 2)) 3 + age
  (build 12, build 6)

/-- The personality of a new general. -/
def resolveSelectedPersonality (services : SelectionServices) (row : WorldStateRow) (ownerIdentity : SeedPart)
    (uniqueName requested : String) : Except SelectPoolFailure String := do
  if "ego" ∉ resolvePoolAllowOptions row then .ok "None"
  else if requested = "Random" then
    let hiddenSeed ← getWorldHiddenSeed row
    let seed := simpleSerialize
      [hiddenSeed, .text "selectPickedGeneralPersonality", ownerIdentity, .text uniqueName]
    match services.personalityKeys[services.nextInt seed [] (services.personalityKeys.length - 1)]? with
    | some key => .ok key
    | none => .error (.thrown "Empty items")
  else if requested ∈ services.personalityKeys then .ok requested
  else .error (.refused .badRequest "올바르지 않은 성격입니다.")

/-- The instant new turns are counted from. -/
def resolveTurnTimeBase (services : SelectionServices) (row : WorldStateRow) (now : Int) : Int :=
  (((row.metadata.get? "turntime").bind Json.string?).bind services.parseDate).getD now

/-- The instant of a new general's first turn, from the draws for its seconds and microseconds. -/
def buildInitialTurnTime (services : SelectionServices) (row : WorldStateRow) (seconds microseconds : Nat)
    (now notBefore : Int) : Int :=
  let base := resolveTurnTimeBase services row now
  let safeBase := if base < notBefore then notBefore else base
  truncate (safeBase + seconds * 1000 + microseconds / 1000 : ℚ)

/-- The instant from which a general may be given up before the opening. -/
def buildPrestartDeleteAfter (row : WorldStateRow) (base : Int) : Int :=
  let minTurns := max 0 ⌊asNumber (Record.get? (row.section_ "const") "minTurnDieOnPrestart") 2⌋
  base + max 1 ⌊row.tickSeconds⌋ * minTurns * 1000

/-- The text of an instant, which must be one. -/
def dateText (services : SelectionServices) (date : Int) : Except SelectPoolFailure String :=
  if ValidDate date then .ok (services.isoString date) else .error (.thrown "Invalid time value")

/-- The picture of a player's general: the account's own one if it may be shown. -/
def resolveSelectionPoolUserIcon (showImgLevel : ℚ) (ownerPicture : Option String)
    (ownerImageServer : Option ℚ) : String × ℚ :=
  match ownerPicture with
  | some picture =>
    if 1 ≤ showImgLevel ∧ picture ≠ "default.jpg" then (picture, ownerImageServer.getD 1) else ("default.jpg", 0)
  | none => ("default.jpg", 0)

/-- A player starts with a reserved candidate. -/
structure CreateFromPoolRequest where
  userId : String
  ownerDisplayName : String
  uniqueName : String
  personality : String
  now : Int
  turnScheduleAt : Int
  operationalAcceptedAt : Int
  processingGameTick : Int
  seedOwnerIdentity : SeedPart
  ownerPicture : Option String
  ownerImageServer : Option ℚ
  ownerIconRevision : Option String

/-- The age of a new general. -/
def initialAge : Int := 20

/-- The tick from which a player may choose again. -/
def nextChangeTick (tick : Int) : Int := tick + (reselectionTurnMultiplier * gameTicksPerTurn : Nat)

/-- The fields of a general that hold when its player may choose again. -/
def nextChangeFields (text : String) (tick : Int) : Record :=
  [("next_change", .str text), ("nextChangeAt", .str text), ("next_change_tick", .num (nextChangeTick tick))]

/-- The cities a new general may appear in. -/
def startingCities (row : WorldStateRow) (cities : OrderedMap Int City) : List (Int × City) :=
  let all := cities.entries.insertionSort fun left right => left.1 ≤ right.1
  if resolvePoolName row ≠ some centennialAllStarPool then all
  else
    let level (city : City) : ℚ := asNumber (city.columns.get? "level") 0
    let small := all.filter fun entry => 5 ≤ level entry.2 ∧ level entry.2 ≤ 6
    let neutral := small.filter fun entry => entry.2.nationId = 0
    if neutral.isEmpty then small else neutral

/-- A row and the general that is to be made of it. -/
structure PreparedGeneral where
  token : SelectPoolRow
  info : SelectPoolCandidateInfo
  cityName : String
  general : General

/-- Makes the general of a reserved candidate, once everything that speaks against it is ruled out. -/
def prepareGeneral (services : SelectionServices) (rules : CentennialRules) (row : WorldStateRow)
    (request : CreateFromPoolRequest) (server : SelectionServer) : Except SelectPoolFailure PreparedGeneral := do
  assertGeneralIdSnapshotMatches server
  let owned (entry : Int × General) : Bool := entry.2.userId? = some request.userId
  if server.world.generals.rows.entries.any owned ∨ server.db.generals.entries.any owned then
    .error (.refused .preconditionFailed "이미 장수를 생성했습니다.")
  let tick := request.processingGameTick
  let token ← requireSelectionToken server.db request.userId request.uniqueName tick
  let info ← parseCandidate token
  let isCentennial := resolvePoolName row = some centennialAllStarPool
  let initialStats := if isCentennial then some (rules.initialStats row info) else none
  let activeCount : Int := (server.db.generals.entries.filter fun entry => entry.2.npcState < 2).length
  if resolveSelectionMaxGeneral row ≤ activeCount then
    .error (.refused .preconditionFailed "더 이상 등록 할 수 없습니다.")
  let hiddenSeed ← getWorldHiddenSeed row
  let seed := simpleSerialize
    [hiddenSeed, .text "selectPickedGeneral", request.seedOwnerIdentity, .text request.uniqueName]
  let affinity := services.nextInt seed [] 149 + 1
  let cities := startingCities row server.db.cities
  if cities.isEmpty then
    .error (.refused .preconditionFailed
      (if isCentennial then "장수를 생성할 소·중성이 없습니다." else "생성 가능한 도시가 없습니다."))
  let lastCity := cities.length - 1
  match cities[services.nextInt seed [149] lastCity]? with
  | none => .error (.thrown "Empty items")
  | some (cityId, city) =>
    let lastSecond := resolveTurnTermMinutes row * 60 - 1
    let turnTime := buildInitialTurnTime services row (services.nextInt seed [149, lastCity] lastSecond)
      (services.nextInt seed [149, lastCity, lastSecond] 999999) request.now request.turnScheduleAt
    let (domesticAge, warAge) := resolveSpecialityAges row initialAge
    let nextChangeAt ← (server.world.state.clock.tickToDate (nextChangeTick tick)).mapError SelectPoolFailure.thrown
    let (picture, imageServer) := resolveSelectionPoolUserIcon (asNumber (row.config.get? "showImgLevel") 0)
      request.ownerPicture request.ownerImageServer
    let defaultOf (key : String) : Json :=
      .str (((Record.get? (row.section_ "const") key).bind Json.string?).getD "None")
    let personality ← resolveSelectedPersonality services row request.seedOwnerIdentity request.uniqueName
      request.personality
    let nextChangeText ← dateText services nextChangeAt
    let prestartText ← dateText services (buildPrestartDeleteAfter row request.operationalAcceptedAt)
    let _ ← dateText services request.now
    let dex (position : Nat) : Json := .num (if isCentennial then 0 else info.dex.getD position 0)
    let iconFields : Record :=
      match request.ownerIconRevision with
      | some revision =>
        if picture ≠ "default.jpg" ∧ revision ≠ "" then [("accountIconUpdatedAt", .str revision)] else []
      | none => []
    let auxFields : Record :=
      match initialStats with
      | some stats => [("event100_allstar", rules.initialAux row info stats)]
      | none => []
    let fields : Record :=
      [("createdBy", .str "select_pool"), ("ownerName", .str request.ownerDisplayName),
        ("owner_name", .str request.ownerDisplayName), ("killturn", .num 5), ("specage", .num domesticAge),
        ("specage2", .num warAge), ("dex1", dex 0), ("dex2", dex 1), ("dex3", dex 2), ("dex4", dex 3),
        ("dex5", dex 4)] ++ nextChangeFields nextChangeText tick ++
        [("prestart_delete_after", .str prestartText)] ++ iconFields ++ [("npc_org", .num 0)] ++
        buildScenarioGeneralPoolClaimMeta services
          (parseScenarioGeneralPoolCandidate token.id token.uniqueName token.info) request.now ++ auxFields
    .ok
      { token, info, cityName := ((city.columns.get? "name").bind Json.string?).getD ""
        general :=
          { name := info.generalName, nationId := 0, cityId, troopId := 0
            leadership := (initialStats.map CandidateStats.leadership).getD info.leadership
            strength := (initialStats.map CandidateStats.strength).getD info.strength
            intelligence := (initialStats.map CandidateStats.intel).getD info.intel
            experience := info.experience.getD (initialAge * 100)
            dedication := info.dedication.getD (initialAge * 100)
            officerLevel := 0, injury := 0, gold := 1000, rice := 1000, crew := 0, crewTypeId := 1100
            train := 0, atmos := 0, age := initialAge, npcState := 0
            role :=
              [("personality", .str personality),
                ("specialDomestic", if isCentennial then defaultOf "defaultSpecialDomestic"
                  else (info.specialDomestic.map .str).getD .null),
                ("specialWar", if isCentennial then defaultOf "defaultSpecialWar"
                  else (info.specialWar.map .str).getD (defaultOf "defaultSpecialWar")),
                ("items", .obj [("horse", .null), ("weapon", .null), ("book", .null), ("item", .null)])]
            triggerState := [("flags", .obj []), ("counters", .obj []), ("modifiers", .obj []), ("meta", .obj [])]
            metadata := fields, turnTime, turnTick := none, recentWarTime := none, recentWarTick := none
            columns :=
              [("userId", .str request.userId), ("affinity", .num affinity),
                ("bornYear", .num (row.currentYear - initialAge)), ("deadYear", .num (row.currentYear + 60)),
                ("picture", .str picture), ("imageServer", .num imageServer), ("startAge", .num initialAge),
                ("lastTurn", .obj [("command", .str defaultTurnAction)]), ("penalty", .obj []),
                ("refreshScoreTotal", .num 0)] } }

/-- The lines a choice leaves in the general's history and in the news. -/
def appendSelectionLogs (row : WorldStateRow) (generalId : Int) (ownerUserId generalText globalText : String) :
    SelectM Unit :=
  let serverId : Json :=
    match (row.metadata.get? "serverId").bind Json.string? with
    | some id => if id.trimAscii.toString = "" then .null else .str id
    | none => .null
  let columns : Record :=
    [("serverId", serverId), ("nationId", .null), ("userId", .null),
      ("meta", .obj [("ownerUserId", .str ownerUserId)])]
  changeDb fun db => { db with logEntries := db.logEntries ++
    [{ scope := .general, category := .history, format := none, generalId := some generalId, text := generalText
       year := some row.currentYear, month := some row.currentMonth, occurredAt := none, columns },
      { scope := .system, category := .action, format := none, generalId := none, text := globalText
        year := some row.currentYear, month := some row.currentMonth, occurredAt := none, columns }] }

/-- Creates the list of turns of a new general, and its revision. -/
def createGeneralTurns (generalId : Int) : SelectM Unit := do
  let server ← get
  if server.db.generalTurns.any fun turn => turn.1 = generalId then
    throw (.thrown "Unique constraint failed on general_id, turn_idx")
  if server.db.generalTurnRevisions.has generalId then
    throw (.thrown "Unique constraint failed on general_id")
  changeDb fun db => { db with
    generalTurns := db.generalTurns ++
      (List.range maxGeneralTurns).map fun turnIdx => (generalId, ⟨turnIdx, defaultTurnAction, .obj []⟩)
    generalTurnRevisions := db.generalTurnRevisions.set generalId 0 }

/-- Adds a prepared general to the world, gives it its row, and takes back the player's other reservations. -/
def registerGeneral (services : SelectionServices) (row : WorldStateRow) (request : CreateFromPoolRequest)
    (prepared : PreparedGeneral) : SelectM Int := do
  let tick := request.processingGameTick
  let generalId ← onWorld (InMemoryTurnWorld.onWorld TurnWorld.getNextGeneralId)
  if ¬ (← onWorld (InMemoryTurnWorld.addGeneral generalId prepared.general)) then
    throw (.thrown s!"장수 번호 {generalId}를 할당할 수 없습니다.")
  createGeneralTurns generalId
  let occupied ← updatePool
    (fun row => row.id = prepared.token.id ∧ row.isReservedBy request.userId tick) fun row => row.bind generalId
  if occupied = 0 then throw (.thrown "장수 등록 중 선택 후보 점유에 실패했습니다.")
  changeDb fun db => { db with
    accessLogs := db.accessLogs.set generalId ⟨request.userId, request.operationalAcceptedAt⟩ }
  clearUnusedReservations request.userId tick
  let _ ← synchronizeSelectionPoolWorld
  let name := "<Y>" ++ prepared.info.generalName ++ "</>"
  let josaYi := services.josaPick request.ownerDisplayName "이"
  let josaRo := services.josaPick prepared.info.generalName "로"
  appendSelectionLogs row generalId request.userId (name ++ ", <G>" ++ prepared.cityName ++ "</>에서 등장")
    ("<G><b>" ++ prepared.cityName ++ "</b></>에서 <Y>" ++ request.ownerDisplayName ++ "</>" ++ josaYi ++ " " ++
      name ++ josaRo ++ " 등장합니다.")
  return generalId

/-- Lets a player start with a reserved candidate. -/
def createGeneralFromSelectionPool (services : SelectionServices) (rules : CentennialRules) (row : WorldStateRow)
    (request : CreateFromPoolRequest) : SelectM Int := do
  requirePoolWorld row
  if ¬ isSafeInteger request.processingGameTick then
    refuse .internalServerError "장수 생성 처리 tick이 안전한 정수 범위를 벗어났습니다."
  let _ ← synchronizeSelectionPoolWorld
  let server ← get
  let prepared ← Effect.ofExcept (prepareGeneral services rules row request server)
  registerGeneral services row request prepared

/-- A player changes to a reserved candidate. -/
structure ReselectRequest where
  userId : String
  ownerDisplayName : String
  uniqueName : String
  now : Int
  processingGameTick : Int

/-- The general of a player and the row it is to change to. -/
structure PreparedReselection where
  generalId : Int
  general : General
  token : SelectPoolRow
  info : SelectPoolCandidateInfo

/-- Finds a player's general and the reserved candidate, once everything that speaks against it is ruled out. -/
def prepareReselection (services : SelectionServices) (request : ReselectRequest) (server : SelectionServer) :
    Except SelectPoolFailure PreparedReselection := do
  let owned (entry : Int × General) : Bool := entry.2.userId? = some request.userId
  match server.db.generals.entries.find? owned, server.world.generals.rows.entries.find? owned with
  | some (persistedId, _), some (generalId, general) =>
    if persistedId ≠ generalId then
      .error (.refused .internalServerError "DB와 턴 데몬의 장수 소유 정보가 일치하지 않습니다.")
    assertReselectionCooldown services general.metadata request.processingGameTick
    let token ← requireSelectionToken server.db request.userId request.uniqueName request.processingGameTick
    let info ← parseCandidate token
    .ok { generalId, general, token, info }
  | _, _ =>
    .error (.refused .preconditionFailed "장수가 생성하지 않았습니다. 이미 사망하지 않았는지 확인해보세요.")

/-- Moves a general from the row it has to a reserved one, by way of a number no general has. -/
def rebindRow (userId : String) (tick : Int) (generalId tokenId : Int) : SelectM Unit := do
  let provisional := -generalId
  let claimed ← updatePool (fun row => row.id = tokenId ∧ row.isReservedBy userId tick)
    fun row => row.bind provisional
  if claimed = 0 then throw (.thrown "장수 재선택 중 선택 후보 점유에 실패했습니다.")
  let _ ← updatePool (fun row => row.generalId = some generalId) fun row => { row.release with generalId := none }
  let finalized ← updatePool (fun row => row.id = tokenId ∧ row.generalId = some provisional)
    fun row => { row with generalId := some generalId }
  if finalized = 0 then throw (.thrown "장수 재선택 중 선택 후보 확정에 실패했습니다.")

/-- What the centennial pool makes of a general that changes to another candidate. -/
def targetGrowth (rules : CentennialRules) (row : WorldStateRow) (prepared : PreparedReselection) :
    Except SelectPoolFailure (Option CentennialGrowth) :=
  if resolvePoolName row = some centennialAllStarPool then
    ((rules.applyTarget row prepared.general prepared.info).mapError SelectPoolFailure.thrown).map some
  else .ok none

/-- What a change to another candidate changes of the general. -/
def reselectionPatch (services : SelectionServices) (rules : CentennialRules) (row : WorldStateRow)
    (request : ReselectRequest) (prepared : PreparedReselection) (clock : GameClock) :
    Except SelectPoolFailure GeneralPatch := do
  let info := prepared.info
  let general := prepared.general
  let tick := request.processingGameTick
  let cooldown ← (clock.tickToDate (nextChangeTick tick)).mapError SelectPoolFailure.thrown
  let growth ← targetGrowth rules row prepared
  let cooldownText ← dateText services cooldown
  let _ ← dateText services request.now
  let dex (position : Nat) : Json := .num (info.dex.getD position 0)
  let dexFields : Record :=
    if growth.isSome then []
    else [("dex1", dex 0), ("dex2", dex 1), ("dex3", dex 2), ("dex4", dex 3), ("dex5", dex 4)]
  let fields : Record :=
    [("ownerName", .str request.ownerDisplayName), ("owner_name", .str request.ownerDisplayName)] ++
      dexFields ++ nextChangeFields cooldownText tick ++
      buildScenarioGeneralPoolClaimMeta services
        (parseScenarioGeneralPoolCandidate prepared.token.id prepared.token.uniqueName prepared.token.info)
        request.now
  let role : Record :=
    ((info.ego.map fun ego => ("personality", Json.str ego)).toList ++
      [("specialDomestic", (info.specialDomestic.map .str).getD .null)] ++
      (info.specialWar.map fun war => ("specialWar", Json.str war)).toList)
  let stats := (growth.map CentennialGrowth.stats).getD ⟨info.leadership, info.strength, info.intel⟩
  let (picture, imageServer) := resolveSelectionPoolUserIcon 0 none none
  .ok
    { name := some info.generalName, leadership := some stats.leadership, strength := some stats.strength
      intelligence := some stats.intel
      role := some ((growth.map CentennialGrowth.role).getD (Record.merge general.role role))
      columns := [("picture", .str picture), ("imageServer", .num imageServer)]
      metadata := some (Record.merge ((growth.map CentennialGrowth.metadata).getD general.metadata) fields) }

/-- Lets a player change to another reserved candidate. -/
def reselectGeneralFromSelectionPool (services : SelectionServices) (rules : CentennialRules)
    (row : WorldStateRow) (request : ReselectRequest) : SelectM Int := do
  requirePoolWorld row
  let tick := request.processingGameTick
  if ¬ isSafeInteger tick then
    refuse .internalServerError "장수 재선택 처리 tick이 안전한 정수 범위를 벗어났습니다."
  let _ ← synchronizeSelectionPoolWorld
  let server ← get
  let prepared ← Effect.ofExcept (prepareReselection services request server)
  rebindRow request.userId tick prepared.generalId prepared.token.id
  let patch ← Effect.ofExcept
    (reselectionPatch services rules row request prepared server.world.state.clock)
  if (← onWorld (InMemoryTurnWorld.onWorld (TurnWorld.updateGeneral prepared.generalId patch))).isNone then
    throw (.thrown "턴 데몬에서 장수 정보를 갱신하지 못했습니다.")
  clearUnusedReservations request.userId tick
  let _ ← synchronizeSelectionPoolWorld
  let change := "장수를 <Y>" ++ prepared.general.name ++ "</>에서 <Y>" ++ prepared.info.generalName ++ "</>" ++
    services.josaPick prepared.info.generalName "로" ++ " 변경"
  appendSelectionLogs row prepared.generalId request.userId change
    ("<Y>" ++ request.ownerDisplayName ++ "</>" ++ services.josaPick request.ownerDisplayName "이" ++ " " ++
      change ++ "합니다.")
  return prepared.generalId

/-- A general may claim a row that nobody has at the instant and the tick of the claim. -/
def SelectPoolRow.claimableAt (row : SelectPoolRow) (instant tick : Int) : Bool :=
  match row.reservedUntilTick, row.reservedUntil with
  | some limit, _ => limit < tick
  | none, some limit => limit < instant
  | none, none => row.ownerUserId = none

/-- Gives a new general the row that it claims. -/
def occupyClaimed (clock : GameClock) (generalId : Int) (claim : Int × String × Int) : SelectM Unit := do
  let (poolEntryId, uniqueName, claimedAt) := claim
  let claimedAtTick ← expect (clock.dateToTick claimedAt)
  let occupied ← updatePool
    (fun row => row.id = poolEntryId ∧ row.uniqueName = uniqueName ∧
      (row.generalId = some generalId ∨ row.generalId = none ∧ row.claimableAt claimedAt claimedAtTick))
    fun row => row.bind generalId
  if occupied ≠ 1 then throw (.thrown ("select_pool 후보를 점유하지 못했습니다: " ++ uniqueName))

/-- Writes the generals of the world to the tables, with the rows that are theirs. -/
def flushGenerals (services : SelectionServices) : SelectM Unit := do
  let server ← get
  let generals := server.world.generals
  let _ ← updatePool (fun row => row.generalId.any fun id => id ∈ generals.deleted)
    fun row => { row.release with generalId := none }
  let claims := generals.created.items.filterMap fun id =>
    ((generals.rows.get? id).bind fun general => readScenarioGeneralPoolClaim services general.metadata).map
      fun claim => (id, claim)
  if ¬ (claims.map fun claim => claim.2.1).Nodup then
    throw (.thrown "한 flush에서 select_pool 후보를 중복 점유할 수 없습니다.")
  claims.forM fun claim => occupyClaimed server.world.state.clock claim.1 claim.2
  modify fun server => { server with
    db := { server.db with generals := server.world.generals.rows }
    world := { server.world with generals := .clean server.world.generals.rows } }

/-- What happens to the server: calls of players, and the daemon's writes. -/
inductive SelectionEvent where
  | reserve (row : WorldStateRow) (request : ReserveSelectionRequest)
  | create (row : WorldStateRow) (request : CreateFromPoolRequest)
  | reselect (row : WorldStateRow) (request : ReselectRequest)
  | flush

/-- What a call gives back. -/
inductive SelectionReply where
  | reserved (shown : SelectPoolReservationDto)
  | chosen (generalId : Int)
  | failed (failure : SelectPoolFailure)
  | done

namespace SelectionServer

/-- A call as a step: a refusal keeps what the call has done, and another error takes it back. -/
def answer {α : Type} (server : SelectionServer) (tick : Int) (call : SelectM α) (reply : α → SelectionReply) :
    Option (SelectionServer × SelectionReply) :=
  -- Ticks never go back.
  if tick < server.tick then none
  else
    match call.perform server with
    | (.ok value, next) => some ({ next with tick }, reply value)
    | (.error (.refused code message), next) => some ({ next with tick }, .failed (.refused code message))
    | (.error (.thrown message), next) =>
      -- The counter of scan orders is the one thing that is not taken back.
      let world := InMemoryTurnWorld.restoreState server.world.captureState next.world
      some ({ server with world, tick }, .failed (.thrown message))

/-- The server with one more thing that has happened. -/
def step (services : SelectionServices) (rules : CentennialRules) (server : SelectionServer) :
    SelectionEvent → Option (SelectionServer × SelectionReply)
  | .reserve row request =>
    server.answer request.processingGameTick (reserveSelectionPool services rules row request) .reserved
  | .create row request =>
    server.answer request.processingGameTick (createGeneralFromSelectionPool services rules row request) .chosen
  | .reselect row request =>
    server.answer request.processingGameTick (reselectGeneralFromSelectionPool services rules row request) .chosen
  | .flush => server.answer server.tick (flushGenerals services) fun _ => .done

/-- The server as a machine. -/
def machine (services : SelectionServices) (rules : CentennialRules) :
    StateMachine SelectionServer SelectionEvent SelectionReply := ⟨step services rules⟩

end SelectionServer

end Sammo
