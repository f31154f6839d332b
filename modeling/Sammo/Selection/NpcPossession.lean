import Sammo.Lib.StateMachine
import Sammo.Selection.WorldRow

/-! Taking over a computer-run general: the tokens that list candidates, and the takeover itself. -/

namespace Sammo

/-- The kinds of refusal a player is shown. -/
inductive NpcPossessionErrorCode where
  | badRequest
  | notFound
  | preconditionFailed
  | conflict
  | internalServerError
  deriving DecidableEq

/-- How a call comes to no good end. -/
inductive NpcPossessionFailure where
  /-- A refusal, with the text shown to the player. -/
  | refused (code : NpcPossessionErrorCode) (message : String)
  /-- An error that nobody expects. -/
  | thrown (message : String)
  /-- The draws so far have not filled the token. -/
  | drawing
  deriving DecidableEq

/-- The identity of a user who has logged in. -/
structure UserId where
  text : String
  /-- Nobody logs in under an empty identity. -/
  nonempty : text ≠ ""
  deriving DecidableEq

/-- A trait of a candidate, as it was when the candidate was drawn. -/
structure TraitSnapshot where
  code : String
  name : String
  info : String
  deriving DecidableEq

/-- A candidate as it was when it was drawn, and how often it may still be kept. -/
structure NpcPossessionCandidate where
  id : Int
  name : String
  nationId : Int
  nationName : String
  nationColor : String
  leadership : ℚ
  strength : ℚ
  intelligence : ℚ
  picture : Option String
  imageServer : ℚ
  personality : TraitSnapshot
  specialDomestic : TraitSnapshot
  specialWar : TraitSnapshot
  keepCount : Nat
  deriving DecidableEq

/-- The candidates of a token, by the number of the general. -/
abbrev NpcPossessionPickResult := OrderedMap Int NpcPossessionCandidate

/-- A token row, whose key is its owner; candidates that cannot be read are missing. -/
structure NpcSelectionToken where
  validUntil : Int
  validUntilTick : Option Int
  pickMoreFrom : Int
  pickMoreFromTick : Option Int
  pickResult : Option NpcPossessionPickResult
  nonce : Nat

/-- What a player is shown of a token. -/
structure NpcPossessionReservation where
  tokenNonce : Nat
  validUntil : Int
  pickMoreFrom : Int
  pickMoreSeconds : Int
  candidates : List NpcPossessionCandidate

/-- The record of a player's visits to a general. -/
structure GeneralAccessLog where
  userId : String
  lastRefresh : Int
  refresh : Nat
  refreshTotal : Nat
  refreshScore : Nat
  refreshScoreTotal : Nat
  deriving DecidableEq

/-- The tables the takeover works on; `inFlight` are the users whose takeover is pending or processing. -/
structure PossessionDatabase where
  generals : OrderedMap Int General
  nations : OrderedMap Int Nation
  tokens : OrderedMap String NpcSelectionToken
  inFlight : List String
  accessLogs : OrderedMap Int GeneralAccessLog

/-- Seconds a token is good for, at least. -/
def validSeconds : Nat := 90

/-- Seconds until candidates may be drawn anew, at least. -/
def pickMoreSeconds : Nat := 10

/-- How often a candidate may be kept. -/
def keepCountLimit : Nat := 3

/-- The most candidates a token draws. -/
def maxPickCount : Nat := 5

/-- The instant from which a first token may be drawn anew, which is long past. -/
def firstPickMoreFrom : Int := 946688400000

/-- The instant at the start of its second. -/
def truncateToSeconds (milliseconds : Int) : Int := milliseconds / 1000 * 1000

/-- The seed of the draws of a token. -/
def buildNpcSelectionTokenSeed (hiddenSeed ownerIdentity : SeedPart) (createdGameTick : Int) : String :=
  simpleSerialize [hiddenSeed, .text "SelectNPCToken", ownerIdentity, .number createdGameTick]

/-- The secret seed, without which nothing is drawn. -/
def readHiddenSeed (row : WorldStateRow) : Except NpcPossessionFailure SeedPart :=
  match hiddenSeed? row with
  | some seed => .ok seed
  | none => .error (.refused .internalServerError "NPC 빙의 비밀 seed가 설정되지 않았습니다.")

/-- The largest number of generals, under any of its names. -/
def resolveMaxGeneral (row : WorldStateRow) : Int :=
  let configConst := asRecord ((row.config.get? "const").getD .null)
  maxGeneralOf [row.config.get? "maxGeneral", row.config.get? "maxgeneral",
    Record.get? configConst "defaultMaxGeneral", Record.get? configConst "maxGeneral"]

/-- Only a world of the first mode lets generals be taken over. -/
def requireNpcPossessionWorld (row : WorldStateRow) : Except NpcPossessionFailure Unit :=
  if asNumber (firstPresent [row.config.get? "npcMode", row.config.get? "npcmode"]) 0 ≠ 1 then
    .error (.refused .preconditionFailed "빙의 가능한 서버가 아닙니다")
  else .ok ()

/-- The candidates of a token, if they can be read. -/
def parsePickResult (stored : Option NpcPossessionPickResult) :
    Except NpcPossessionFailure NpcPossessionPickResult :=
  match stored with
  | some picked => .ok picked
  | none => .error (.refused .internalServerError "NPC 빙의 후보 정보가 올바르지 않습니다.")

/-- The ability a candidate is ordered and weighed by. -/
def NpcPossessionCandidate.total (candidate : NpcPossessionCandidate) : ℚ :=
  candidate.leadership + candidate.strength + candidate.intelligence

/-- Shows a token at a tick. -/
def toReservation (token : NpcSelectionToken) (currentGameTick : Int) (ticksPerSecond : ℚ) :
    Except NpcPossessionFailure NpcPossessionReservation := do
  match token.validUntilTick, token.pickMoreFromTick with
  | some _, some pickMoreFromTick =>
    let picked ← parsePickResult token.pickResult
    -- The weakest candidate comes first.
    let candidates := (picked.entries.map Prod.snd).insertionSort fun left right =>
      if left.total = right.total then left.id ≤ right.id else left.total ≤ right.total
    .ok
      { tokenNonce := token.nonce, validUntil := token.validUntil, pickMoreFrom := token.pickMoreFrom
        pickMoreSeconds := max 0 ⌈((pickMoreFromTick - currentGameTick : Int) : ℚ) / ticksPerSecond⌉
        candidates }
  | _, _ => .error (.refused .internalServerError "NPC 빙의 후보의 GAME_TIME 기한이 없습니다.")

/-- A trait with its texts; a code that is no key stands for itself. -/
def loadTraitSnapshot (services : SelectionServices) (code : String) (kind : TraitKind) : TraitSnapshot :=
  match services.trait kind code with
  | some (name, info) => ⟨code, name, info⟩
  | none => ⟨code, if code = "None" then "-" else code, if code = "None" then "없음" else ""⟩

/-- A general as a fresh candidate. -/
def buildCandidateSnapshot (services : SelectionServices) (nations : OrderedMap Int Nation) (id : Int)
    (general : General) : NpcPossessionCandidate :=
  let nation := nations.get? general.nationId
  { id, name := general.name
    nationId := if nation.isSome then general.nationId else 0
    nationName := (nation.map Nation.name).getD "재야"
    nationColor := ((nation.bind fun nation => nation.columns.get? "color").bind Json.string?).getD "#666666"
    leadership := general.leadership, strength := general.strength, intelligence := general.intelligence
    picture := (general.columns.get? "picture").bind Json.string?
    imageServer := asNumber (general.columns.get? "imageServer") 0
    personality := loadTraitSnapshot services (general.code "personality") .personality
    specialDomestic := loadTraitSnapshot services (general.code "specialDomestic") .domestic
    specialWar := loadTraitSnapshot services (general.code "specialWar") .war
    keepCount := keepCountLimit }

/-- Draws until the token is full; the draws of a generator are numbered, and at most `draws` are made. -/
def drawCandidates (draw : Nat → Except String Int) (candidates : List NpcPossessionCandidate)
    (pickLimit : Nat) : Nat → Nat → NpcPossessionPickResult →
    Except NpcPossessionFailure NpcPossessionPickResult
  | draws, attempt, picked =>
    if picked.keys.length < pickLimit then
      match draws with
      | 0 => .error .drawing
      | draws + 1 =>
        match draw attempt with
        | .error message => .error (.thrown message)
        | .ok selectedId =>
          if picked.has selectedId then
            drawCandidates draw candidates pickLimit draws (attempt + 1) picked
          else
            match candidates.find? fun candidate => candidate.id = selectedId with
            | none => .error (.thrown s!"NPC 빙의 후보 {selectedId}를 찾을 수 없습니다.")
            | some candidate =>
              drawCandidates draw candidates pickLimit draws (attempt + 1) (picked.set selectedId candidate)
    else .ok picked

/-- Fills a token up with drawn candidates, stronger ones being likelier. -/
def chooseNpcPossessionCandidates (services : SelectionServices) (candidates : List NpcPossessionCandidate)
    (kept : NpcPossessionPickResult) (seed : String) (draws : Nat) :
    Except NpcPossessionFailure NpcPossessionPickResult :=
  let weights := candidates.map fun candidate => (candidate.id, services.pow candidate.total (3 / 2))
  let pickLimit := min candidates.length maxPickCount
  drawCandidates (fun attempt => choiceUsingWeight weights (services.nextFloat1 seed attempt)) candidates
    pickLimit draws 0 kept

/-- A player asks for candidates; `nonce` and `draws` are what chance gave and how long the draw went on. -/
structure ReserveRequest where
  userId : UserId
  ownerIdentity : SeedPart
  refresh : Bool
  keepIds : List Int
  now : Int
  createdGameTick : Int
  nonce : Nat
  draws : Nat

/-- What a player is shown; `kept` are the candidates carried over, when the others were drawn anew. -/
structure ReserveReply where
  reservation : NpcPossessionReservation
  kept : Option NpcPossessionPickResult

/-- A token is good up to its last tick. -/
def NpcSelectionToken.validAt (token : NpcSelectionToken) (tick : Int) : Bool :=
  match token.validUntilTick with
  | some limit => tick ≤ limit
  | none => false

/-- What is carried over of a candidate: the same one, to be kept once less. -/
def carriedCandidate (oldPick : NpcPossessionPickResult) (keepId : Int) : Option NpcPossessionCandidate :=
  -- A candidate that was kept as often as allowed is not carried over.
  (oldPick.get? keepId).bind fun candidate =>
    if 0 < candidate.keepCount then some { candidate with keepCount := candidate.keepCount - 1 } else none

/-- Grants one wish to keep a candidate, if that may be. -/
def keepCandidate (oldPick kept : NpcPossessionPickResult) (keepId : Int) : NpcPossessionPickResult :=
  ((carriedCandidate oldPick keepId).map (kept.set keepId)).getD kept

/-- The candidates a player carries over, each of which may be kept once less. -/
def keptCandidates (oldPick : NpcPossessionPickResult) (keepIds : List Int) : NpcPossessionPickResult :=
  keepIds.foldl (keepCandidate oldPick) .empty

/-- The generals that the good tokens of other users list. -/
def reservedIds (db : PossessionDatabase) (userId : String) (tick : Int) :
    Except NpcPossessionFailure (List Int) := do
  let rows := db.tokens.entries.filter fun row => row.1 ≠ userId ∧ row.2.validAt tick
  let picks ← rows.mapM fun row => parsePickResult row.2.pickResult
  .ok (picks.flatMap OrderedMap.keys)

/-- The generals nobody owns and no list of others reserves, in the order of their numbers. -/
def freeGenerals (db : PossessionDatabase) (reserved : List Int) : List (Int × General) :=
  (db.generals.entries.filter fun row =>
    row.2.userId? = none ∧ row.2.npcState = 2 ∧ row.1 ∉ reserved).insertionSort
      fun left right => left.1 ≤ right.1

/-- Draws a token's candidates, and stores them over the player's token or as the first one. -/
def drawToken (services : SelectionServices) (db : PossessionDatabase) (row : WorldStateRow)
    (request : ReserveRequest) (existing : Option NpcSelectionToken) (kept : NpcPossessionPickResult)
    (ticksPerSecond : ℚ) : Except NpcPossessionFailure (ReserveReply × PossessionDatabase) := do
  let userId := request.userId.text
  let turnTermMinutes := resolveTurnTermMinutes row
  let now := truncateToSeconds request.now
  let reserved ← reservedIds db userId request.createdGameTick
  let candidates := (freeGenerals db reserved).map fun entry =>
    buildCandidateSnapshot services db.nations entry.1 entry.2
  let hiddenSeed ← readHiddenSeed row
  let seed := buildNpcSelectionTokenSeed hiddenSeed request.ownerIdentity request.createdGameTick
  let pickResult ← chooseNpcPossessionCandidates services candidates kept seed request.draws
  let valid : Int := max validSeconds (turnTermMinutes * 40)
  let pickMore : Int := max pickMoreSeconds (roundHalfUp (services.pow turnTermMinutes (84 / 125) * 8))
  let validUntilTick := request.createdGameTick + roundHalfUp (valid * ticksPerSecond)
  let validUntil := now + valid * 1000
  match existing with
  | some existing =>
    let token : NpcSelectionToken :=
      { validUntil, validUntilTick := some validUntilTick, pickMoreFrom := now + pickMore * 1000
        pickMoreFromTick := some (request.createdGameTick + roundHalfUp (pickMore * ticksPerSecond))
        pickResult := some pickResult, nonce := request.nonce }
    -- The row is overwritten only if it still is the one that was read.
    if (db.tokens.get? userId).any fun stored => stored.nonce = existing.nonce then
      let reservation ← toReservation token request.createdGameTick ticksPerSecond
      .ok (⟨reservation, some kept⟩, { db with tokens := db.tokens.set userId token })
    else .error (.refused .conflict "중복 요청, 다시 랜덤 토큰을 확인해주세요")
  | none =>
    let token : NpcSelectionToken :=
      { validUntil, validUntilTick := some validUntilTick, pickMoreFrom := firstPickMoreFrom
        pickMoreFromTick := some request.createdGameTick, pickResult := some pickResult
        nonce := request.nonce }
    if db.tokens.has userId then .error (.refused .conflict "중복 요청, 다시 랜덤 토큰을 확인해주세요")
    else
      let reservation ← toReservation token request.createdGameTick ticksPerSecond
      .ok (⟨reservation, some kept⟩, { db with tokens := db.tokens.set userId token })

/-- Answers a player's request for candidates; a refusal takes back whatever the call has written. -/
def reserveNpcPossessionCandidates (services : SelectionServices) (db : PossessionDatabase)
    (row : WorldStateRow) (request : ReserveRequest) :
    Except NpcPossessionFailure (ReserveReply × PossessionDatabase) := do
  requireNpcPossessionWorld row
  let userId := request.userId.text
  let tick := request.createdGameTick
  if ¬ isSafeInteger tick then
    .error (.refused .internalServerError "NPC 빙의 생성 tick이 올바르지 않습니다.")
  let ticksPerSecond : ℚ := gameTicksPerTurn / (resolveTurnTermMinutes row * 60)
  if db.generals.entries.any fun entry => entry.2.userId? = some userId then
    .error (.refused .preconditionFailed "이미 장수가 생성되었습니다")
  let existing := db.tokens.get? userId
  -- The list a takeover in flight was made from is only shown.
  if userId ∈ db.inFlight then
    match existing with
    | none => .error (.refused .conflict "처리 중인 NPC 빙의 요청이 있습니다.")
    | some token =>
      if request.refresh then
        .error (.refused .conflict "NPC 빙의 요청 처리 중에는 후보를 다시 뽑을 수 없습니다.")
      .ok (⟨← toReservation token tick ticksPerSecond, none⟩, db)
  else
    match existing with
    | none => drawToken services db row request none .empty ticksPerSecond
    | some token =>
      if ¬ token.validAt tick then
        -- A list that has run out is forgotten.
        drawToken services { db with tokens := db.tokens.erase userId } row request none .empty ticksPerSecond
      else if request.refresh then
        if token.pickMoreFromTick.all fun from_ => tick < from_ then
          .error (.refused .preconditionFailed "아직 다시 뽑을 수 없습니다")
        let oldPick ← parsePickResult token.pickResult
        let kept := keptCandidates oldPick request.keepIds
        -- Keeping all candidates leaves the list as it was.
        if kept.keys.length = oldPick.keys.length then
          .ok (⟨← toReservation token tick ticksPerSecond, none⟩, db)
        else drawToken services db row request (some token) kept ticksPerSecond
      else .ok (⟨← toReservation token tick ticksPerSecond, none⟩, db)

/-- The penalties of an account that are still in force for a profile. -/
def resolveLegacyPenalty (rawPenalty : Option Record) (profileId : String) (requestedAtWall : Int) : Record :=
  match rawPenalty with
  | none => []
  | some raw =>
    let merged := Record.merge (asRecord ((raw.get? "any").getD .null))
      (asRecord ((raw.get? profileId).getD .null))
    let acceptedAtSeconds : ℚ := requestedAtWall / 1000
    merged.filterMap fun field =>
      let entry := asRecord field.2
      match Record.get? entry "value" with
      | some value =>
        if acceptedAtSeconds < asNumber (Record.get? entry "expire") 0 then some (field.1, value) else none
      | none => none

/-- A player takes over a candidate. -/
structure PossessRequest where
  userId : UserId
  ownerDisplayName : String
  profileId : String
  ownerLegacyPenalty : Option Record
  generalId : Int
  tokenNonce : Nat
  requestedAtWall : Int
  processingGameTick : Int

/-- The user's token that carries the nonce shown and is still good. -/
def presentedToken (db : PossessionDatabase) (request : PossessRequest) : Option NpcSelectionToken :=
  (db.tokens.get? request.userId.text).filter fun token =>
    token.nonce = request.tokenNonce ∧ token.validAt request.processingGameTick

/-- What a takeover changes of the general. -/
def possessionPatch (row : WorldStateRow) (request : PossessRequest) (general : General) : GeneralPatch where
  npcState := some 1
  columns :=
    [("userId", .str request.userId.text),
      ("penalty", .obj (resolveLegacyPenalty request.ownerLegacyPenalty request.profileId request.requestedAtWall))]
  metadata := some (general.metadata.merge
    [("npc_org", .num 2), ("ownerName", .str request.ownerDisplayName),
      ("owner_name", .str request.ownerDisplayName),
      ("pickYearMonth", .num (row.currentYear * 12 + row.currentMonth - 1 : Int)), ("killturn", .num 6),
      ("defence_train", .num 80), ("permission", .str "normal")])

/-- The lines a takeover leaves in the general's history and in the news. -/
def possessionLogs (services : SelectionServices) (request : PossessRequest)
    (picked : NpcPossessionCandidate) : List LogEntryDraft :=
  let josaYi := services.josaPick request.ownerDisplayName "이"
  let owner := "<Y>" ++ request.ownerDisplayName ++ "</>" ++ josaYi
  [{ scope := .general, category := .history, format := some .yearMonth, generalId := some request.generalId
     text := "<Y>" ++ picked.name ++ "</>의 육체에 " ++ owner ++ " 빙의되다."
     year := none, month := none, occurredAt := none, columns := [] },
    { scope := .system, category := .summary, format := some .month, generalId := none
      text := "<Y>" ++ picked.name ++ "</>의 육체에 " ++ owner ++ " <S>빙의</>됩니다!"
      year := none, month := none, occurredAt := none, columns := [] }]

/-- A general whom the world shows as run by the computer and owned by nobody. -/
def General.isFreeNpc (general : General) : Bool :=
  (general.userId?.all fun owner => owner = "") ∧ general.npcState = 2

/-- The candidate a takeover is about, once everything that speaks against the takeover is ruled out. -/
def checkPossession (db : PossessionDatabase) (world : TurnWorld) (row : WorldStateRow)
    (request : PossessRequest) : Except NpcPossessionFailure (NpcPossessionCandidate × General) := do
  let userId := request.userId.text
  if ¬ isSafeInteger request.processingGameTick then
    .error (.refused .internalServerError "NPC 빙의 처리 tick이 올바르지 않습니다.")
  requireNpcPossessionWorld row
  if (world.generals.rows.entries.any fun entry => entry.2.userId? = some userId) ∨
      (db.generals.entries.any fun entry => entry.2.userId? = some userId) then
    .error (.refused .preconditionFailed "이미 장수가 생성되어 있습니다.")
  match presentedToken db request with
  | none => .error (.refused .preconditionFailed "유효한 장수 목록이 없습니다.")
  | some token =>
    let pickResult ← parsePickResult token.pickResult
    match pickResult.get? request.generalId with
    | none => .error (.refused .preconditionFailed "선택한 장수가 목록에 없습니다.")
    | some picked =>
      let activeCount : Int := (db.generals.entries.filter fun entry => entry.2.npcState < 2).length
      if resolveMaxGeneral row ≤ activeCount then
        .error (.refused .preconditionFailed "더 이상 등록 할 수 없습니다.")
      match db.generals.get? request.generalId, world.generals.rows.get? request.generalId with
      | some stored, some general =>
        if stored.userId? = none ∧ stored.npcState = 2 ∧ general.isFreeNpc then .ok (picked, general)
        else .error (.refused .notFound "장수 등록에 실패했습니다.")
      | _, _ => .error (.refused .notFound "장수 등록에 실패했습니다.")

/-- The visit record of a general that has just got a new owner. -/
def freshAccessLog (request : PossessRequest) : GeneralAccessLog :=
  ⟨request.userId.text, request.requestedAtWall, 0, 0, 0, 0⟩

/-- Gives a candidate to the player who chose it, and forgets the player's token. -/
def possessNpcGeneral (services : SelectionServices) (db : PossessionDatabase) (world : TurnWorld)
    (row : WorldStateRow) (request : PossessRequest) :
    Except NpcPossessionFailure (Int × PossessionDatabase × TurnWorld) := do
  let (picked, general) ← checkPossession db world row request
  let takeover : WorldM Unit := do
    let _ ← TurnWorld.updateGeneral request.generalId (possessionPatch row request general)
    (possessionLogs services request picked).forM fun log => TurnWorld.pushLog log none
  match takeover.perform world with
  | (.error message, _) => .error (.thrown message)
  | (.ok _, next) =>
    .ok (request.generalId,
      { db with
        accessLogs := db.accessLogs.set request.generalId (freshAccessLog request)
        tokens := db.tokens.erase request.userId.text },
      next)

/-- The tables and the memory that players' calls and the daemon share, and the tick of the last call. -/
structure PossessionServer where
  world : TurnWorld
  db : PossessionDatabase
  tick : Int

/-- What happens to the server: calls of players, and what goes on around them. -/
inductive PossessionEvent where
  | reserve (row : WorldStateRow) (request : ReserveRequest)
  | possess (row : WorldStateRow) (request : PossessRequest)
  /-- A takeover has been handed in and waits for the daemon. -/
  | submit (userId : UserId)
  /-- The takeovers a user has handed in are dealt with. -/
  | settle (userId : UserId)
  /-- A general dies. -/
  | die (generalId : Int)
  /-- The daemon writes its generals to the tables. -/
  | flush

/-- What a call gives back. -/
inductive PossessionReply where
  | reserved (reply : ReserveReply)
  | possessed (generalId : Int)
  | failed (failure : NpcPossessionFailure)
  | done

namespace PossessionServer

/-- A call's outcome as a step; while it is still drawing there is none. -/
def answer {α : Type} (server : PossessionServer) (tick : Int) (outcome : Except NpcPossessionFailure α)
    (finish : α → PossessionServer × PossessionReply) : Option (PossessionServer × PossessionReply) :=
  -- Ticks never go back.
  if tick < server.tick then none
  else
    match outcome with
    | .ok value => some (finish value)
    | .error .drawing => none
    | .error failure => some ({ server with tick }, .failed failure)

/-- The server with one more thing that has happened. -/
def step (services : SelectionServices) (server : PossessionServer) :
    PossessionEvent → Option (PossessionServer × PossessionReply)
  | .reserve row request =>
    server.answer request.createdGameTick (reserveNpcPossessionCandidates services server.db row request)
      fun (reply, db) => ({ server with db, tick := request.createdGameTick }, .reserved reply)
  | .possess row request =>
    server.answer request.processingGameTick (possessNpcGeneral services server.db server.world row request)
      fun (generalId, db, world) =>
        ({ db, world, tick := request.processingGameTick }, .possessed generalId)
  | .submit userId =>
    some ({ server with db := { server.db with inFlight := userId.text :: server.db.inFlight } }, .done)
  | .settle userId =>
    some ({ server with db := { server.db with
      inFlight := server.db.inFlight.filter fun waiting => waiting ≠ userId.text } }, .done)
  | .die generalId =>
    some ({ server with world := ((TurnWorld.removeGeneral generalId).perform server.world).2 }, .done)
  | .flush => some ({ server with db := { server.db with generals := server.world.generals.rows } }, .done)

/-- The server as a machine. -/
def machine (services : SelectionServices) :
    StateMachine PossessionServer PossessionEvent PossessionReply := ⟨step services⟩

end PossessionServer

end Sammo
