import Mathlib.Algebra.Order.Field.Rat
import Sammo.Lib.Increments

/-!
Actions that users pay for with the points they have inherited.

Points and prices are whole numbers. Messages and log lines are left out, and so is the name that a look-up finds.
-/

namespace Sammo.Inheritance

/-! ### Prices -/

/-- What a scenario may set; an entry of a list that is no number is nothing. -/
structure ConfigConst where
  inheritBornStatPoint : Option Int
  inheritItemRandomPoint : Option Int
  inheritBuffPoints : Option (List (Option Int))
  inheritSpecificSpecialPoint : Option Int
  inheritResetAttrPointBase : Option (List (Option Int))
  inheritCheckOwnerPoint : Option Int

/-- What the actions cost. -/
structure InheritConstants where
  inheritBornStatPoint : Int
  inheritItemRandomPoint : Int
  inheritBuffPoints : List Int
  inheritSpecificSpecialPoint : Int
  inheritResetAttrPointBase : List Int
  inheritCheckOwnerPoint : Int

/-- The numbers of a list, or others if there are none. -/
def resolveNumberArray (value : Option (List (Option Int))) (fallback : List Int) : List Int :=
  let result := (value.getD []).filterMap id
  if result.isEmpty then fallback else result

/-- What the actions cost in a scenario. -/
def resolveInheritConstants (config : ConfigConst) : InheritConstants where
  inheritBornStatPoint := config.inheritBornStatPoint.getD 1000
  inheritItemRandomPoint := config.inheritItemRandomPoint.getD 3000
  inheritBuffPoints := resolveNumberArray config.inheritBuffPoints [0, 200, 600, 1200, 2000, 3000]
  inheritSpecificSpecialPoint := config.inheritSpecificSpecialPoint.getD 4000
  inheritResetAttrPointBase := resolveNumberArray config.inheritResetAttrPointBase [1000, 1000, 2000, 3000]
  inheritCheckOwnerPoint := config.inheritCheckOwnerPoint.getD 1000

/-- Goes on with a list by the sum of its last two numbers. -/
def continueCosts (costs : List Int) : ℕ → List Int
  | 0 => costs
  | more + 1 => continueCosts (costs ++ [(costs.reverse[0]?).getD 0 + (costs.reverse[1]?).getD 0]) more

/-- What a reset costs that comes after as many as its level says. -/
def buildResetCost (baseCosts : List Int) (level : Int) : Int :=
  if level < 0 then 0
  else ((continueCosts baseCosts (level.toNat + 1 - baseCosts.length))[level.toNat]?).getD 0

/-! ### Generals -/

/-- A number among the meta data of a general. -/
inductive MetaValue where
  | number (value : Int)
  /-- A text that reads as a number. -/
  | numeral (value : Int)
  | other
  deriving DecidableEq

/-- The number that meta data say. -/
def readMetaNumber (value : Option MetaValue) (fallback : Int) : Int :=
  match value with
  | some (.number value) => value
  | some (.numeral value) => value
  | some .other => fallback
  | none => fallback

/-- The buffs that are for sale. -/
inductive InheritBuffType where
  | warAvoidRatio
  | warCriticalRatio
  | warMagicTrialProb
  | domesticSuccessProb
  | domesticFailProb
  | warAvoidRatioOppose
  | warCriticalRatioOppose
  | warMagicTrialProbOppose
  deriving DecidableEq

/-- The name under which a buff is recorded. -/
def InheritBuffType.key : InheritBuffType → String
  | .warAvoidRatio => "warAvoidRatio"
  | .warCriticalRatio => "warCriticalRatio"
  | .warMagicTrialProb => "warMagicTrialProb"
  | .domesticSuccessProb => "domesticSuccessProb"
  | .domesticFailProb => "domesticFailProb"
  | .warAvoidRatioOppose => "warAvoidRatioOppose"
  | .warCriticalRatioOppose => "warCriticalRatioOppose"
  | .warMagicTrialProbOppose => "warMagicTrialProbOppose"

/-- The name under which a buff used to be recorded. -/
def InheritBuffType.compatibilityKey : InheritBuffType → Option String
  | .domesticSuccessProb => some "success"
  | .domesticFailProb => some "fail"
  | _ => none

/-- The levels of buffs, as the record of a general is read. -/
abbrev BuffRecord := OrderedMap String Int

/-- The level of a buff, from nothing to five. -/
def readBuffLevel (buff : BuffRecord) (buffType : InheritBuffType) : ℕ :=
  (max 0 (min 5 (((buff.get? buffType.key).or (buffType.compatibilityKey.bind buff.get?)).getD 0))).toNat

/-- Three abilities. -/
structure Stats where
  leadership : Int
  strength : Int
  intelligence : Int
  deriving DecidableEq

/-- A general, as far as the actions see it. -/
structure General where
  id : ℕ
  name : String
  userId : Option String
  npcState : Int
  specialWar : Option String
  stats : Stats
  turnTick : Option Int
  /-- The points of the user, as the general has them in memory. -/
  previous : Int
  inheritBuff : BuffRecord
  inheritSpecificSpecialWar : Option String
  inheritResetSpecialWar : Option MetaValue
  inheritResetTurnTime : Option MetaValue
  nextTurnTimeBase : Option ℚ
  inheritRandomUnique : Bool
  prevTypesSpecial2 : List String
  inheritSpentDyn : Option MetaValue

/-! ### The world and the database -/

/-- A change of points that waits to be written. -/
structure Adjustment where
  userId : String
  key : String
  amount : Int
  afterLifecycle : Bool

/-- The world in memory. -/
structure World where
  generals : List General
  /-- A general is stored under its number. -/
  distinct : (generals.map General.id).Nodup
  adjustments : List Adjustment
  united : Bool
  season : Option Int
  const : ConfigConst
  availableSpecialWar : List String
  statTotal : Option Int
  statMin : Option Int
  statMax : Option Int
  isCentennialStatResetAllowed : Bool

/-- What has been paid for a request. -/
structure LedgerRow where
  requestId : String
  userId : String
  action : String
  cost : Int
  deriving DecidableEq

/-- The tables. -/
structure Database where
  /-- The points of a user under a key. -/
  inheritancePoint : String × String → Option Int
  /-- The seasons in which a user has reset abilities. -/
  lastStatReset : String → List Int
  inheritanceLedger : List LedgerRow
  recordsFinalized : Bool

/-- The points that a user may spend. -/
def lockPreviousPoint (db : Database) (userId : String) : Int :=
  (db.inheritancePoint (userId, "previous")).getD 0

/-- The general of a user. -/
def World.generalOf (world : World) (userId : String) : Option General :=
  world.generals.find? fun general => general.userId = some userId

theorem map_id_replace (generals : List General) (next : General) :
    (generals.map fun general => if general.id = next.id then next else general).map General.id =
      generals.map General.id := by
  -- The one that is replaced has the number of the one in its place.
  rw [List.map_map]
  refine List.map_congr_left fun general _ => ?_
  by_cases same : general.id = next.id <;> simp [same]

/-- Puts a general in the place of the one with its number. -/
def World.updateGeneral (world : World) (next : General) : World :=
  { world with
    generals := world.generals.map fun general => if general.id = next.id then next else general
    distinct := by
      rw [map_id_replace]
      exact world.distinct }

/-- Queues a change of points, unless it changes nothing. -/
def World.queueInheritancePointAdjustment (world : World) (userId key : String) (amount : Int) : World :=
  if userId = "" ∨ amount = 0 then world
  else { world with adjustments := world.adjustments ++ [⟨userId, key, amount, false⟩] }

/-! ### Actions -/

/-- A level of a buff that can be bought. -/
structure BuffLevel where
  level : ℕ
  least : 1 ≤ level
  most : level ≤ 5

/-- What a user asks for. -/
inductive InheritanceAction where
  | buyHiddenBuff (buffType : InheritBuffType) (level : BuffLevel)
  | setNextSpecialWar (specialKey : String)
  | resetSpecialWar
  | resetTurnTime
  | resetStat (leadership strength intel : Int) (inheritBonusStat : Option (Int × Int × Int))
  | buyRandomUnique
  | checkOwner (targetGeneralId : ℕ)

/-- The name of an action. -/
def InheritanceAction.action : InheritanceAction → String
  | .buyHiddenBuff .. => "buyHiddenBuff"
  | .setNextSpecialWar _ => "setNextSpecialWar"
  | .resetSpecialWar => "resetSpecialWar"
  | .resetTurnTime => "resetTurnTime"
  | .resetStat .. => "resetStat"
  | .buyRandomUnique => "buyRandomUnique"
  | .checkOwner _ => "checkOwner"

/-- How an action is turned away. -/
inductive RejectionCode where
  | preconditionFailed
  | badRequest
  | forbidden
  deriving DecidableEq

/-- Why an action is turned away. -/
structure Rejection where
  code : RejectionCode
  reason : String
  deriving DecidableEq

/-- The kinds of war traits, and what is drawn with the hidden seed of the world. -/
structure Environment where
  isWarTraitKey : String → Bool
  /-- A new time within a turn, for a user and the time so far. -/
  resolveResetTurnTimeBase : String → ℚ → ℚ
  /-- Abilities on top of those that a user has chosen. -/
  buildResetStatRandomBonus : String → Int × Int × Int → Int × Int × Int

/-- What an action costs, and what it does to the general and to the tables once it is paid. -/
structure Offer where
  cost : Int
  patch : General → General
  write : Database → Database

/-- An offer that writes to no table. -/
def Offer.plain (cost : Int) (patch : General → General) : Offer := ⟨cost, patch, id⟩

/-- Everything is over once the world is united. -/
def unlessUnited (world : World) (offer : Offer) : Except Rejection Offer :=
  if world.united then .error ⟨.forbidden, "이미 천하가 통일되었습니다."⟩ else .ok offer

/-- A request that cannot be met. -/
def badRequest {α : Type} (reason : String) : Except Rejection α := .error ⟨.badRequest, reason⟩

/-- Looks up who owns a general. -/
def checkOwner (world : World) (general : General) (targetGeneralId : ℕ) : Except Rejection Offer :=
  if targetGeneralId = general.id then badRequest "자신의 정보는 확인할 수 없습니다."
  else
    match world.generals.find? fun other => other.id = targetGeneralId with
    | none => badRequest "대상 장수가 존재하지 않습니다."
    | some target =>
      if target.userId.getD "" = "" then badRequest "대상 장수는 NPC입니다."
      else unlessUnited world (.plain (resolveInheritConstants world.const).inheritCheckOwnerPoint id)

/-- What a level of a buff has cost in all. -/
def buffPoints (constants : InheritConstants) (level : ℕ) : Int := (constants.inheritBuffPoints[level]?).getD 0

/-- Raises a buff to a level. -/
def buyHiddenBuff (world : World) (general : General) (buffType : InheritBuffType) (level : BuffLevel) :
    Except Rejection Offer :=
  let previousLevel := readBuffLevel general.inheritBuff buffType
  let constants := resolveInheritConstants world.const
  if level.level = previousLevel then badRequest "이미 구입했습니다."
  else if level.level < previousLevel then badRequest "이미 더 높은 등급을 구입했습니다."
  else
    unlessUnited world (.plain (buffPoints constants level.level - buffPoints constants previousLevel)
      fun general => { general with inheritBuff := general.inheritBuff.set buffType.key level.level })

/-- Reserves a war trait. -/
def setNextSpecialWar (env : Environment) (world : World) (general : General) (specialKey : String) :
    Except Rejection Offer :=
  if !env.isWarTraitKey specialKey then badRequest "잘못된 전투 특기입니다."
  else if world.availableSpecialWar ≠ [] ∧ specialKey ∉ world.availableSpecialWar then
    badRequest "허용되지 않은 전투 특기입니다."
  else if general.specialWar = some specialKey then badRequest "이미 그 특기를 보유하고 있습니다."
  else if general.inheritSpecificSpecialWar = some specialKey then badRequest "이미 그 특기를 예약하였습니다."
  else if general.inheritSpecificSpecialWar.getD "" ≠ "" then badRequest "이미 예약한 특기가 있습니다."
  else
    unlessUnited world (.plain (resolveInheritConstants world.const).inheritSpecificSpecialPoint
      fun general => { general with inheritSpecificSpecialWar := some specialKey })

/-- Gives up a war trait. -/
def resetSpecialWar (world : World) (general : General) : Except Rejection Offer :=
  let currentSpecial := general.specialWar.getD ""
  if currentSpecial = "" ∨ currentSpecial = "None" then badRequest "이미 전투 특기가 공란입니다."
  else
    let nextLevel := readMetaNumber general.inheritResetSpecialWar (-1) + 1
    unlessUnited world
      (.plain (buildResetCost (resolveInheritConstants world.const).inheritResetAttrPointBase nextLevel)
        fun general =>
          { general with
            specialWar := none
            inheritResetSpecialWar := some (.number nextLevel)
            prevTypesSpecial2 := general.prevTypesSpecial2 ++ [currentSpecial] })

/-- Draws another time within the turn. -/
def resetTurnTime (env : Environment) (world : World) (general : General) (userId : String) :
    Except Rejection Offer :=
  let nextLevel := readMetaNumber general.inheritResetTurnTime (-1) + 1
  let seed := (general.nextTurnTimeBase.or (general.turnTick.map fun tick => (tick : ℚ))).getD 0
  unlessUnited world
    (.plain (buildResetCost (resolveInheritConstants world.const).inheritResetAttrPointBase nextLevel)
      fun general =>
        { general with
          inheritResetTurnTime := some (.number nextLevel)
          nextTurnTimeBase := some (env.resolveResetTurnTimeBase userId seed) })

/-- Notes that a user has reset abilities in a season, if it has a number. -/
def noteStatReset (userId : String) (season : Option Int) (db : Database) : Database :=
  match season with
  | none => db
  | some season =>
    { db with lastStatReset := Function.update db.lastStatReset userId (db.lastStatReset userId ++ [season]) }

/-- Chooses other abilities. -/
def resetStat (env : Environment) (db : Database) (world : World) (general : General) (userId : String)
    (leadership strength intel : Int) (inheritBonusStat : Option (Int × Int × Int)) : Except Rejection Offer :=
  let statTotal := world.statTotal.getD (leadership + strength + intel)
  let statMin := world.statMin.getD 1
  let statMax := world.statMax.getD 999
  let bonus := inheritBonusStat.getD (0, 0, 0)
  let bonusSum := bonus.1 + bonus.2.1 + bonus.2.2
  if leadership + strength + intel ≠ statTotal then
    badRequest s!"능력치 총합이 {statTotal}이 아닙니다. 다시 입력해주세요!"
  else if leadership < statMin ∨ strength < statMin ∨ intel < statMin ∨ statMax < leadership ∨ statMax < strength ∨
      statMax < intel then badRequest "능력치 범위를 벗어났습니다."
  else if bonus.1 < 0 ∨ bonus.2.1 < 0 ∨ bonus.2.2 < 0 then
    badRequest "보너스 능력치가 음수입니다. 다시 입력해주세요!"
  else if bonusSum ≠ 0 ∧ (bonusSum < 3 ∨ 5 < bonusSum) then
    badRequest "보너스 능력치 합이 잘못 지정되었습니다. 다시 입력해주세요!"
  else if general.npcState ≠ 0 then badRequest "NPC는 능력치 초기화를 할 수 없습니다."
  else if !world.isCentennialStatResetAllowed then
    badRequest "100기 올스타 장수는 능력치 초기화를 사용할 수 없습니다."
  else if world.united then .error ⟨.forbidden, "이미 천하가 통일되었습니다."⟩
  else if world.season.any fun season => season ∈ db.lastStatReset userId then
    badRequest "이번 시즌에 이미 능력치를 초기화하셨습니다."
  else
    let finalBonus :=
      if bonusSum = 0 then env.buildResetStatRandomBonus userId (leadership, strength, intel) else bonus
    .ok
      { cost := if 0 < bonusSum then (resolveInheritConstants world.const).inheritBornStatPoint else 0
        patch := fun general =>
          { general with
            stats := ⟨leadership + finalBonus.1, strength + finalBonus.2.1, intel + finalBonus.2.2⟩ }
        write := noteStatReset userId world.season }

/-- Orders an item at random. -/
def buyRandomUnique (world : World) (general : General) : Except Rejection Offer :=
  if general.inheritRandomUnique then
    badRequest "이미 구입 명령을 내렸습니다. 다음 턴까지 기다려주세요."
  else
    unlessUnited world (.plain (resolveInheritConstants world.const).inheritItemRandomPoint
      fun general => { general with inheritRandomUnique := true })

/-- What is offered for an action, before the points are counted. -/
def offer (env : Environment) (db : Database) (world : World) (general : General) (userId : String) :
    InheritanceAction → Except Rejection Offer
  | .checkOwner targetGeneralId => checkOwner world general targetGeneralId
  | .buyHiddenBuff buffType level => buyHiddenBuff world general buffType level
  | .setNextSpecialWar specialKey => setNextSpecialWar env world general specialKey
  | .resetSpecialWar => resetSpecialWar world general
  | .resetTurnTime => resetTurnTime env world general userId
  | .resetStat leadership strength intel inheritBonusStat =>
    resetStat env db world general userId leadership strength intel inheritBonusStat
  | .buyRandomUnique => buyRandomUnique world general

/-- Changes a general for a price, and queues the price. -/
def applyCharge (world : World) (general : General) (userId : String) (previousPoint cost : Int)
    (patch : General → General) : World :=
  let next :=
    { patch general with
      inheritSpentDyn := some (.number (readMetaNumber general.inheritSpentDyn 0 + cost))
      previous := previousPoint - cost }
  (world.updateGeneral next).queueInheritancePointAdjustment userId "previous" (-cost)

/-- What is told of an action that has been paid for. -/
structure Receipt where
  generalId : ℕ
  remainPoint : Int
  deriving DecidableEq

/-- Runs an action, in the database and in memory. -/
def executeInheritanceActionMutation (env : Environment) (db : Database) (world : World) (userId : String)
    (input : InheritanceAction) : Except Rejection (Receipt × Database × World) :=
  match world.generalOf userId with
  | none => .error ⟨.preconditionFailed, "장수가 존재하지 않습니다."⟩
  | some general =>
    match offer env db world general userId input with
    | .error rejection => .error rejection
    | .ok offered =>
      let previousPoint := lockPreviousPoint db userId
      if previousPoint < offered.cost then badRequest "충분한 유산 포인트를 가지고 있지 않습니다."
      else
        .ok (⟨general.id, previousPoint - offered.cost⟩, offered.write db,
          applyCharge world general userId previousPoint offered.cost offered.patch)

/-! ### Transactions -/

/-- The row of a request. -/
structure InputEvent where
  actorUserId : String
  target : String
  eventType : String
  processingClockRevision : Option Int
  processingDeadlineGeneration : Option Int

/-- The row of a request is that of this action, and says when it is processed. -/
def InputEvent.fences (event : InputEvent) (userId : String) : Bool :=
  event.actorUserId = userId && event.target = "ENGINE" && event.eventType = "inheritanceAction" &&
    event.processingClockRevision.isSome && event.processingDeadlineGeneration.isSome

/-- Runs an action and enters it in the ledger; `none` is an error, which undoes the transaction. -/
def executeInheritanceAction (env : Environment) (db : Database) (world : World) (requestId userId : String)
    (input : InheritanceAction) (event : Option InputEvent) :
    Option (Except Rejection (Receipt × LedgerRow) × Database × World) :=
  match executeInheritanceActionMutation env db world userId input with
  | .error rejection => some (.error rejection, db, world)
  | .ok (receipt, after, next) =>
    if !event.any fun event => event.fences userId then none
    else
      let cost := lockPreviousPoint after userId - receipt.remainPoint
      if cost < 0 then none
      else if after.inheritanceLedger.any fun row => row.requestId = requestId then none
      else
        let row : LedgerRow := ⟨requestId, userId, input.action, cost⟩
        some (.ok (receipt, row), { after with inheritanceLedger := after.inheritanceLedger ++ [row] }, next)

/-- Adds the changes that wait, grouped by user and key; once the records are final nothing is added. -/
def persistInheritancePointAdjustments (db : Database) (entries : List Adjustment) : Database :=
  if db.recordsFinalized || entries.isEmpty then db
  else
    { db with
      inheritancePoint :=
        (Increments.grouped (entries.map fun entry => ((entry.userId, entry.key), entry.amount))).entries.foldl
          Increments.upsert db.inheritancePoint }

/-- The tables and the world. -/
structure Service where
  db : Database
  world : World

/-- Writes what waits: first what comes before the fates of generals, then what comes after them. -/
def persistChanges (service : Service) : Service where
  db :=
    persistInheritancePointAdjustments
      (persistInheritancePointAdjustments service.db
        (service.world.adjustments.filter fun entry => !entry.afterLifecycle))
      (service.world.adjustments.filter Adjustment.afterLifecycle)
  world := { service.world with adjustments := [] }

/-- What happens to the service. -/
inductive ServiceEvent where
  /-- A user asks for an action, whose transaction is committed unless the database fails. -/
  | command (requestId userId : String) (input : InheritanceAction) (event : Option InputEvent) (commits : Bool)
  /-- A turn queues other points than those that can be spent. -/
  | queue (adjustment : Adjustment)
  | flush
  /-- Another transaction leaves a user with other points. -/
  | settle (userId : String) (points : ℕ)
  /-- A general goes on with the game, in which reservations are used up and traits are learnt. -/
  | play (id : ℕ) (npcState : Int) (specialWar : Option String) (stats : Stats) (turnTick : Option Int)
      (inheritSpecificSpecialWar : Option String) (inheritRandomUnique : Bool)
  | unify
  /-- The records of a season become final, which takes a world that has been united. -/
  | finalize

/-- What is told of an event. -/
inductive Outcome where
  | accepted (receipt : Receipt) (row : LedgerRow)
  | rejected (rejection : Rejection)
  | failed
  | done
  deriving DecidableEq

/-- Runs a command in a transaction together with what it has to write, or not at all. -/
def runCommand (env : Environment) (service : Service) (requestId userId : String) (input : InheritanceAction)
    (event : Option InputEvent) (commits : Bool) : Service × Outcome :=
  match executeInheritanceAction env service.db service.world requestId userId input event with
  | none => (service, .failed)
  | some (result, db, world) =>
    if !commits then (service, .failed)
    else
      (persistChanges ⟨db, world⟩,
        match result with
        | .error rejection => .rejected rejection
        | .ok (receipt, row) => .accepted receipt row)

/-- The service, event by event. -/
def inheritanceService (env : Environment) : StateMachine Service ServiceEvent Outcome where
  step service
    | .command requestId userId input event commits =>
      -- A command without a user is not read.
      if userId = "" then none else some (runCommand env service requestId userId input event commits)
    | .queue adjustment =>
      if adjustment.key = "previous" then none
      else
        some ({ service with
          world := { service.world with adjustments := service.world.adjustments ++ [adjustment] } }, .done)
    | .flush => some (persistChanges service, .done)
    | .settle userId points =>
      some ({ service with
        db := { service.db with
          inheritancePoint :=
            Function.update service.db.inheritancePoint (userId, "previous") (some points) } }, .done)
    | .play id npcState specialWar stats turnTick inheritSpecificSpecialWar inheritRandomUnique =>
      (service.world.generals.find? fun general => general.id = id).map fun general =>
        ({ service with
          world := service.world.updateGeneral
            { general with
              npcState := npcState
              specialWar := specialWar
              stats := stats
              turnTick := turnTick
              inheritSpecificSpecialWar := inheritSpecificSpecialWar
              inheritRandomUnique := inheritRandomUnique } }, .done)
    | .unify => some ({ service with world := { service.world with united := true } }, .done)
    | .finalize =>
      if service.world.united then some ({ service with db := { service.db with recordsFinalized := true } }, .done)
      else none

end Sammo.Inheritance
