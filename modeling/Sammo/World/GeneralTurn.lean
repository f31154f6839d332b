import Sammo.World.InMemoryWorld

/-! A general's turn, the fall of nations and the passing of months in the world kept in memory. -/

namespace Sammo

/-- What a turn handler hands back for a general's turn. -/
structure GeneralTurnResult where
  auditDecisions : List Json := []
  general : Option General := none
  city : Option (Int × City) := none
  nation : Option (Int × Nation) := none
  nextTurnAt : Option Int := none
  logs : List LogEntryDraft := []
  messages : List Json := []
  generalPatches : List (Int × GeneralPatch) := []
  cityPatches : List (Int × CityPatch) := []
  nationPatches : List (Int × NationPatch) := []
  troopPatches : List (Int × TroopPatch) := []
  diplomacyPatches : List (DiplomacyKey × DiplomacyPatch) := []
  createdGenerals : List (Int × General) := []
  createdNations : List (Int × Nation) := []
  createdTroops : List (Int × Troop) := []
  deletedGeneral : Bool := false
  deletedTroopIds : List Int := []
  destroyedNationIds : List Int := []
  successorlessNationId : Option Int := none
  lifecycleEvent : Option GeneralLifecycleEvent := none

/-- What a general's turn reports. -/
structure GeneralTurnExecution where
  nextTurnAt : Int
  destroyedNationIds : List Int
  deriving DecidableEq

/-- The tick of a general's turn. -/
def generalTurnTick (clock : GameClock) (general : General) : Except String Int :=
  match general.turnTick with
  | some tick => .ok tick
  | none => clock.dateToTick general.turnTime

/-- Rounds to the nearest integer, halves up. -/
def roundHalfUp (value : ℚ) : Int := ⌊value + 1 / 2⌋

/-- The general's next turn: its tick, its instant, and the general without a one-time offset. -/
def nextGeneralTurn (clock : GameClock) (current resolved : General) (nextTurnAt : Int) :
    Except String (Int × Int × General) := do
  let currentTick ← generalTurnTick clock current
  let nextTick := currentTick + ((← clock.dateToTick nextTurnAt) - (← clock.dateToTick current.turnTime))
  match readMetaNumber resolved.metadata "nextTurnTimeBase" with
  | some base =>
    if 0 ≤ base then
      -- A one-time offset replaces the general's place within the turn.
      let nextTick := nextTick / gameTicksPerTurn * gameTicksPerTurn + roundHalfUp (base * clock.ticksPerSecond)
      let nextTurnAt ← clock.tickToDate nextTick
      .ok (nextTick, nextTurnAt, { resolved with metadata := resolved.metadata.erase "nextTurnTimeBase" })
    else .ok (nextTick, nextTurnAt, resolved)
  | none => .ok (nextTick, nextTurnAt, resolved)

/-- The general as it is stored for its next turn. -/
def storedAfterTurn (clock : GameClock) (current resolved : General) (nextTick nextTurnAt : Int) :
    Except String General :=
  -- A new time of the last battle outdates a tick that was only carried along.
  let stale : Bool := resolved.recentWarTime ≠ current.recentWarTime ∧
    resolved.recentWarTick = current.recentWarTick
  normalizeGeneralClock clock (normalizeGeneralDatabaseIntegers
    { resolved with
      turnTime := nextTurnAt, turnTick := some nextTick
      recentWarTick := if stale then none else resolved.recentWarTick })

namespace TurnWorld

/-- Patches the rows that a turn result names and that are there. -/
def applyTurnPatches (result : GeneralTurnResult) : WorldM Unit := do
  result.generalPatches.forM fun (id, patch) => do
    let world ← get
    match world.generals.rows.get? id with
    | none => pure ()
    | some target =>
      let next ← Effect.ofExcept (normalizeGeneralClock world.state.clock
        (normalizeGeneralTurnTime (applyGeneralPatch target patch) world.state.lastTurnTime))
      modify fun world => { world with generals := world.generals.put id next }
  result.cityPatches.forM fun (id, patch) => modify fun world =>
    match world.cities.rows.get? id with
    | none => world
    | some target => { world with cities := world.cities.put id (applyCityPatch target patch) }
  result.nationPatches.forM fun (id, patch) => modify fun world =>
    match world.nations.rows.get? id with
    | none => world
    | some target => { world with nations := world.nations.put id (applyNationPatch target patch) }
  result.troopPatches.forM fun (id, patch) => modify fun world =>
    match world.troops.rows.get? id with
    | none => world
    | some target => { world with troops := world.troops.put id (applyTroopPatch target patch) }

/-- Creates the rows that a turn result brings in under free ids. -/
def createTurnRows (result : GeneralTurnResult) : WorldM Unit := do
  result.createdGenerals.forM fun (id, general) => do
    let world ← get
    if world.generals.rows.has id then pure ()
    else
      let normalized ← Effect.ofExcept (normalizeGeneralClock world.state.clock
        (normalizeGeneralTurnTime general world.state.lastTurnTime))
      let ensured ← Effect.ofExcept
        (ensureGeneralKillturn id normalized (resolveWorldKillturn world.state.metadata))
      modify fun world => { world with
        generals := world.generals.insert id (normalizeGeneralDatabaseIntegers ensured) }
  let before ← get
  result.createdNations.forM fun (id, nation) => modify fun world =>
    if world.nations.rows.has id then world else { world with nations := world.nations.insert id nation }
  -- A new nation needs its relations at once.
  if result.createdNations.any fun entry => !before.nations.rows.has entry.1 then ensureDiplomacyMatrix
  result.createdTroops.forM fun (id, troop) => modify fun world =>
    if world.troops.rows.has id then world else { world with troops := world.troops.insert id troop }

/-- A city's disputes without one nation; the last one to leave leaves an empty list behind. -/
def withoutConflict (options : WorldOptions) (nationId : Int) (conflict : Json) : Option Json :=
  let parsed := match conflict with
    | .str text => options.parseJson text
    | value => some value
  match parsed with
  | some (.obj fields) =>
    if fields.any fun field => field.1 == toString nationId then
      let rest := Record.erase fields (toString nationId)
      some (if rest.isEmpty then .arr [] else .obj rest)
    else none
  | _ => none

/-- Takes a fallen nation out of the disputes of every city. -/
def deleteConflicts (options : WorldOptions) (nationId : Int) (world : TurnWorld) : TurnWorld :=
  world.cities.rows.entries.foldl (fun world (id, city) =>
    match city.conflict.bind (withoutConflict options nationId) with
    | none => world
    | some conflict => { world with cities := world.cities.put id { city with conflict := some conflict } })
    world

/-- The number under a metadata field, or zero. -/
def metaNumberOr (record : Record) (key : String) : ℚ := asNumber (record.get? key) 0

/-- A general whose nation has fallen. -/
def releasedGeneral (general : General) : General :=
  let longest : Record :=
    if general.npcState < 2 then
      [("max_belong", .num (max (metaNumberOr general.metadata "belong") (metaNumberOr general.metadata "max_belong")))]
    else []
  applyGeneralPatch general
    { nationId := some 0, officerLevel := some 0, troopId := some 0
      metadata := some (general.metadata.merge ([("belong", .num 0), ("officer_city", .num 0),
        ("officerCity", .num 0), ("permission", .str "normal")] ++ longest)) }

/-- Releases the generals of a fallen nation. -/
def releaseGenerals (nationId : Int) (world : TurnWorld) : TurnWorld :=
  world.generals.rows.entries.foldl (fun world (id, general) =>
    if general.nationId = nationId then
      { world with
        generals := world.generals.put id
          (normalizeGeneralTurnTime (releasedGeneral general) world.state.lastTurnTime) }
    else world) world

/-- Disbands the troops of a fallen nation. -/
def disbandTroops (nationId : Int) : WorldM Unit := do
  let world ← get
  (world.troops.rows.entries.filter fun entry => entry.2.nationId = nationId).forM fun entry => do
    let _ ← removeTroop entry.1

/-- A nation falls: its disputes, generals, troops and relations go with it. -/
def collapseNation (options : WorldOptions) (nationId : Int) : WorldM Bool := do
  let world ← get
  match world.nations.rows.get? nationId with
  | none => return false
  | some nation =>
    let generalIds := (world.generals.rows.entries.filter fun entry => entry.2.nationId = nationId).map Prod.fst
    modify (deleteConflicts options nationId)
    modify fun world => { world with
      deletedNationSnapshots := world.deletedNationSnapshots ++
        [⟨nationId, nation, generalIds, world.state.lastTurnTime⟩] }
    modify (releaseGenerals nationId)
    disbandTroops nationId
    let _ ← removeNation nationId
    return true

/-- A general's log line about the fall of its nation. -/
def ruinLog (options : WorldOptions) (nation : Nation) (generalId : Int) (category : LogCategory)
    (format : LogFormat) (ending : String) : LogEntryDraft :=
  { scope := .general, category, format := some format, generalId := some generalId
    text := s!"<D><b>{nation.name}</b></>" ++ options.josaPick nation.name "이" ++ " <R>멸망</>" ++ ending
    year := none, month := none, occurredAt := none, columns := [] }

/-- The world's log line about the fall of a nation. -/
def ruinHistory (options : WorldOptions) (nation : Nation) : LogEntryDraft :=
  { scope := .system, category := .history, format := some .yearMonth, generalId := none
    text := s!"<R><b>【멸망】</b></><D><b>{nation.name}</b></>" ++ options.josaPick nation.name "은" ++
      " <R>멸망</>했습니다."
    year := none, month := none, occurredAt := none, columns := [] }

/-- Logs the fall of a nation; the dying lord's own lines come last, after the world's. -/
def logRuin (options : WorldOptions) (nation : Nation) (members : List Int) (dyingLordId : Option Int) :
    WorldM Unit := do
  let others := (members.filter fun id => some id ≠ dyingLordId).insertionSort (· ≤ ·)
  let lords := members.filter fun id => some id = dyingLordId
  (others ++ lords).forM fun id => do
    if some id = dyingLordId then pushLog (ruinHistory options nation) none
    pushLog (ruinLog options nation id .history .yearMonth "") none
    pushLog (ruinLog options nation id .action .plain "했습니다.") none
  if dyingLordId = none then pushLog (ruinHistory options nation) none

/-- A nation without a ruler or successor is dissolved. -/
def dissolveNationWithoutSuccessor (options : WorldOptions) (nationId : Int) (dyingLordId : Option Int) :
    WorldM Bool := do
  let world ← get
  match world.nations.rows.get? nationId with
  | none => return false
  | some nation =>
    let members := world.generals.rows.entries.filter fun entry => entry.2.nationId = nationId
    let dyingLord := members.find? fun entry => some entry.1 = dyingLordId
    let lordless : Bool := dyingLordId.isSome ∧ (dyingLord.map fun entry => entry.2.officerLevel) ≠ some 12
    let succeeded := members.any fun entry =>
      some entry.1 ≠ dyingLordId ∧ (entry.2.npcState ≠ 5 ∨ entry.2.officerLevel = 12)
    if lordless ∨ succeeded then throw s!"Nation {nationId} still has a ruler or successor."
    else
      (world.cities.rows.entries.filter fun entry => entry.2.nationId = nationId).forM fun entry => do
        let _ ← updateCity entry.1 { nationId := some 0, frontState := some 0 }
      logRuin options nation (members.map Prod.fst) dyingLordId
      collapseNation options nationId

/-- A nation is marked as collapsed. -/
def isCollapsed (nation : Nation) : Bool :=
  match nation.metadata.get? "collapsed" with
  | some (.bool collapsed) => collapsed
  | _ => false

/-- The nations that have fallen: marked as collapsed, and without a city. -/
def collapsedNationIds (world : TurnWorld) : List Int :=
  (world.nations.rows.entries.filter fun entry =>
    0 < entry.1 ∧ isCollapsed entry.2 ∧
      ¬ world.cities.rows.entries.any fun city => city.2.nationId = entry.1).map Prod.fst

/-- Lets every fallen nation collapse. -/
def removeCollapsedNations (options : WorldOptions) : WorldM Unit := do
  let world ← get
  (collapsedNationIds world).forM fun nationId => do
    let _ ← collapseNation options nationId

/-- Stores the acting general, and gives the instant of its next turn. -/
def storeActingGeneral (id : Int) (current : General) (result : GeneralTurnResult) (nextTurnAt : Int) :
    WorldM (Int × General) := do
  let world ← get
  let resolved := result.general.getD current
  if result.deletedGeneral then return (nextTurnAt, resolved)
  else
    let (nextTick, nextTurnAt, resolved) ← Effect.ofExcept
      (nextGeneralTurn world.state.clock current resolved nextTurnAt)
    let stored ← Effect.ofExcept (storedAfterTurn world.state.clock current resolved nextTick nextTurnAt)
    modify fun world => { world with generals := world.generals.put id stored }
    return (nextTurnAt, resolved)

/-- Takes over the city and the nation of a turn result. -/
def takeOverRows (result : GeneralTurnResult) (world : TurnWorld) : TurnWorld :=
  { world with
    cities := match result.city with
      | some (id, city) => world.cities.put id city
      | none => world.cities
    nations := match result.nation with
      | some (id, nation) => world.nations.put id nation
      | none => world.nations }

/-- Takes over the city, the nation, the logs and the messages of a turn result. -/
def takeOverResult (current : General) (result : GeneralTurnResult) : WorldM Unit := do
  let world ← get
  modify (takeOverRows result)
  result.logs.forM fun entry =>
    pushLog { entry with
      year := entry.year.or (some world.state.currentYear)
      month := entry.month.or (some world.state.currentMonth) } (some current.turnTime)
  result.messages.forM (queue .messages)

/-- Dissolves the nation of a dying lord, who is put back to count among its generals. -/
def dissolveLordsNation (options : WorldOptions) (id : Int) (resolved : General) (nationId : Int) :
    WorldM Unit := do
  modify fun world => { world with
    generals := { world.generals with rows := world.generals.rows.set id resolved } }
  let _ ← dissolveNationWithoutSuccessor options nationId (some id)

/-- Removes the acting general, if its turn was its last, with the nation it leaves without a ruler. -/
def removeActingGeneral (options : WorldOptions) (id : Int) (resolved : General)
    (result : GeneralTurnResult) : WorldM Unit := do
  result.successorlessNationId.toList.forM (dissolveLordsNation options id resolved)
  if result.deletedGeneral then
    let _ ← removeGeneral id

/-- Removes what a turn result removes, down to the nations that fell with it. -/
def removeTurnRows (options : WorldOptions) (id : Int) (resolved : General) (result : GeneralTurnResult) :
    WorldM Unit := do
  result.deletedTroopIds.forM fun troopId => do
    let _ ← removeTroop troopId
  removeActingGeneral options id resolved result
  modify fun world => { world with lifecycleEvents := world.lifecycleEvents ++ result.lifecycleEvent.toList }
  removeCollapsedNations options

/-- Carries out a general's turn with the result its handler gave. -/
def executeGeneralTurn (options : WorldOptions) (id : Int) (general : General) (result : GeneralTurnResult) :
    WorldM GeneralTurnExecution := do
  let world ← get
  Effect.ofExcept (assertGameplayCommitAllowed world.state.clock.phase)
  let current := (world.generals.rows.get? id).getD general
  let _ ← Effect.ofExcept (generalTurnTick world.state.clock current)
  result.auditDecisions.forM (queue .auditDecisions)
  let scheduled := result.nextTurnAt.getD (getNextTurnAt options.zoneMinutes current.turnTime world.schedule)
  let (nextTurnAt, resolved) ← storeActingGeneral id current result scheduled
  takeOverResult current result
  applyTurnPatches result
  result.diplomacyPatches.forM fun (key, patch) => applyDiplomacyPatch key patch
  createTurnRows result
  removeTurnRows options id resolved result
  let final ← get
  return ⟨nextTurnAt, result.destroyedNationIds.filter fun nationId => ¬ final.nations.rows.has nationId⟩

/-- Moves the calendar on by a month; what the month's handlers do are operations of their own. -/
def advanceMonth (options : WorldOptions) (turnTime : Int) : WorldM Unit := do
  let world ← get
  Effect.ofExcept (assertGameplayCommitAllowed world.state.clock.phase)
  let yearEnds : Bool := 12 < world.state.currentMonth + 1
  let requestedTick ← Effect.ofExcept (world.state.clock.dateToTick turnTime)
  let lastTurnTick := max world.state.lastTurnTick requestedTick
  let lastTurnTime ← Effect.ofExcept (world.state.clock.tickToDate lastTurnTick)
  modify fun world => { world with
    state := { world.state with
      currentYear := if yearEnds then world.state.currentYear + 1 else world.state.currentYear
      currentMonth := if yearEnds then 1 else world.state.currentMonth + 1
      lastTurnTick, lastTurnTime } }
  if options.autoAdvanceDiplomacyMonth then advanceDiplomacyMonth none

end TurnWorld

end Sammo
