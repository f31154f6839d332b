import Sammo.Lib.Effect
import Sammo.Lib.WriteBehind
import Sammo.World.Diplomacy
import Sammo.World.Entities

/-! The world a turn daemon keeps in memory, with the operations that read and change its rows. -/

namespace Sammo

/-- The calendar, the clock and the metadata of the world. -/
structure TurnWorldState where
  currentYear : Int
  currentMonth : Int
  clock : GameClock
  lastTurnTick : Int
  lastTurnTime : Int
  deadlineGeneration : Int
  metadata : Record

/-- Whom a log line is for. -/
inductive LogScope where
  | system
  | nation
  | general
  | user
  deriving DecidableEq

/-- Which of the logs a line goes to. -/
inductive LogCategory where
  | history
  | summary
  | action
  | battleBrief
  | battleDetail
  | user
  deriving DecidableEq

/-- How a log line is dated. -/
inductive LogFormat where
  | rawText
  | plain
  | yearMonth
  | year
  | month
  | eventPlain
  | eventYearMonth
  | notice
  | noticeYearMonth
  deriving DecidableEq

/-- A log line waiting to be written; `columns` are the fields the world only carries along. -/
structure LogEntryDraft where
  scope : LogScope
  category : LogCategory
  format : Option LogFormat
  generalId : Option Int
  text : String
  year : Option Int
  month : Option Int
  occurredAt : Option Int
  columns : Record

/-- How a general's life went on. -/
inductive LifecycleOutcome where
  | active
  | detached
  | deleted
  | retired
  deriving DecidableEq

/-- A turning point in a general's life. -/
structure GeneralLifecycleEvent where
  generalId : Int
  outcome : LifecycleOutcome
  before : General
  after : Option General
  isUnitedAtEvent : Option Int
  year : Int
  month : Int

/-- A nation as it was when it fell. -/
structure DeletedNationSnapshot where
  nationId : Int
  nation : Nation
  generalIds : List Int
  removedAt : Int

/-- A merchant's auction waiting to be opened; only its deadline is looked at here. -/
structure PendingNeutralAuction where
  draft : Json
  closeAt : Int

/-- The journals whose drafts the world only collects. -/
inductive Journal where
  | messages
  | inheritancePointAdjustments
  | inheritanceLogs
  | nationBettingOpens
  | nationBettingFinishes
  | yearbookSnapshots
  | auditMonths
  | auditPolicies
  | auditDiplomacy
  | auditDecisions
  | unificationFinalizations
  deriving DecidableEq

/--
The fields of the world that a snapshot captures.

The rows of each kind are kept with the journal of their changes; an entity's id is its key.
-/
structure TurnWorld where
  schedule : TurnSchedule
  state : TurnWorldState
  worldConfig : Record
  generalPoolEntries : Option (List TurnGeneralPoolEntry)
  checkpoint : Option TurnCheckpoint
  generals : WriteBehind Int General
  cities : WriteBehind Int City
  nations : WriteBehind Int Nation
  troops : WriteBehind Int Troop
  diplomacy : WriteBehind DiplomacyKey TurnDiplomacy
  events : WriteBehind Int TurnEvent
  accessScoreResetGeneralIds : OrderedSet Int
  deletedNationSnapshots : List DeletedNationSnapshot
  logs : List LogEntryDraft
  lifecycleEvents : List GeneralLifecycleEvent
  pendingNeutralAuctions : List PendingNeutralAuction
  journals : Journal → List Json
  pendingRealtimeBacklogShiftTicks : Int

/-- An operation of the world. -/
abbrev WorldM := Effect String TurnWorld

/-- What a world is built with: the server's time zone, the month's habits and two text functions. -/
structure WorldOptions where
  zoneMinutes : Int
  autoAdvanceDiplomacyMonth : Bool
  /-- The form of a particle that fits a name. -/
  josaPick : String → String → String
  /-- The value a stored text denotes. -/
  parseJson : String → Option Json

/-- Refuses gameplay in every phase but the two that allow it. -/
def assertGameplayCommitAllowed (phase : GameClockPhase) : Except String Unit :=
  if phase = .running ∨ phase = .manual then .ok ()
  else .error s!"Gameplay commit is forbidden while the game clock phase is {phase.code}."

/-- Whether the world is united so far that months no longer pass. -/
def isWorldUnited (world : TurnWorld) : Prop :=
  2 ≤ asNumber ((world.state.metadata.get? "isunited").or (world.state.metadata.get? "isUnited")) 0

instance (world : TurnWorld) : Decidable (isWorldUnited world) := inferInstanceAs (Decidable (_ ≤ _))

namespace TurnWorld

/-- Merges fields into the world's metadata. -/
def updateWorldMeta (patch : Record) : WorldM Unit :=
  modify fun world => { world with
    state := { world.state with metadata := world.state.metadata.merge patch } }

/-- Merges fields into the world's settings. -/
def updateWorldConfig (patch : Record) : WorldM Unit :=
  modify fun world => { world with worldConfig := world.worldConfig.merge patch }

/-- Remembers that a general's access score starts anew. -/
def markGeneralAccessScoreReset (generalId : Int) : WorldM Unit :=
  modify fun world =>
    if isSafeInteger generalId ∧ 0 < generalId then
      { world with accessScoreResetGeneralIds := world.accessScoreResetGeneralIds.add generalId }
    else world

/-- Collects a log line, dated unless it already is. -/
def pushLog (entry : LogEntryDraft) (occurredAt : Option Int) : WorldM Unit :=
  modify fun world => { world with
    logs := world.logs ++ [{ entry with occurredAt := entry.occurredAt.or occurredAt }] }

/-- Collects a draft. -/
def queue (journal : Journal) (draft : Json) : WorldM Unit :=
  modify fun world => { world with
    journals := fun other =>
      if other = journal then world.journals journal ++ [draft] else world.journals other }

/-- Collects an auction. -/
def queueNeutralAuction (auction : PendingNeutralAuction) : WorldM Unit :=
  modify fun world => { world with pendingNeutralAuctions := world.pendingNeutralAuctions ++ [auction] }

/-- Collects an adjustment of inheritance points, unless there is nothing to adjust. -/
def queueInheritancePointAdjustment (userId key : String) (amount : ℚ) (phase : Option String) :
    WorldM Unit :=
  if userId = "" ∨ amount = 0 then pure ()
  else queue .inheritancePointAdjustments (.obj ([("userId", .str userId), ("key", .str key),
    ("amount", .num amount)] ++ (phase.map fun phase => ("phase", Json.str phase)).toList))

/-- Collects an inheritance log, unless it is empty. -/
def queueInheritanceLog (userId text : String) (rest : Record) : WorldM Unit :=
  if userId = "" ∨ text = "" then pure ()
  else queue .inheritanceLogs (.obj ([("userId", .str userId), ("text", .str text)] ++ rest))

/-- Replaces the general pool. -/
def replaceGeneralPoolEntries (entries : List TurnGeneralPoolEntry) : WorldM Unit :=
  modify fun world => { world with generalPoolEntries := some entries }

/-- Stores where a pass stopped. -/
def setCheckpoint (checkpoint : Option TurnCheckpoint) : WorldM Unit :=
  modify fun world => { world with checkpoint }

/-- Removes an event; one created since the last flush is simply forgotten. -/
def removeEvent (id : Int) : WorldM Bool := do
  let world ← get
  if world.events.rows.has id then
    modify fun world => { world with
      events :=
        if id ∈ world.events.created then
          { world.events with
            rows := world.events.rows.erase id, created := world.events.created.erase id }
        else
          { world.events with
            rows := world.events.rows.erase id, deleted := world.events.deleted.add id } }
    return true
  else return false

/-- Adds an event under a free id. -/
def addEvent (id : Int) (event : TurnEvent) : WorldM Bool := do
  let world ← get
  if world.events.rows.has id then return false
  else
    modify fun world => { world with
      events := { world.events with
        rows := world.events.rows.set id event, created := world.events.created.add id } }
    return true

/-- Creates a relation under its default. -/
def createDefaultDiplomacy (key : DiplomacyKey) (world : TurnWorld) : TurnWorld :=
  { world with diplomacy := world.diplomacy.insert key buildDefaultDiplomacy }

/-- Creates every relation that is missing between two nations of the world. -/
def fillDiplomacyMatrix (world : TurnWorld) : TurnWorld :=
  let nationIds := world.nations.rows.keys
  (nationIds.flatMap fun source => nationIds.map fun target => (source, target)).foldl
    (fun world key =>
      if key.1 = key.2 ∨ world.diplomacy.rows.has key then world else createDefaultDiplomacy key world) world

theorem fillDiplomacyMatrix_frame (world : TurnWorld) :
    { fillDiplomacyMatrix world with diplomacy := world.diplomacy } = world := by
  let Framed : TurnWorld → Prop := fun next => { next with diplomacy := world.diplomacy } = world
  refine List.foldlRecOn (motive := Framed) _ _ rfl ?_
  intro next framed key _
  split
  · exact framed
  · exact framed

/-- Creates the relations that are missing. -/
def ensureDiplomacyMatrix : WorldM Unit := modify fillDiplomacyMatrix

/-- Reads a relation, creating it between two nations of the world. -/
def getDiplomacyEntry (sourceId targetId : Int) : WorldM (Option TurnDiplomacy) := do
  let world ← get
  match world.diplomacy.rows.get? (sourceId, targetId) with
  | some entry => return some entry
  | none =>
    if sourceId ≠ targetId ∧ world.nations.rows.has sourceId ∧ world.nations.rows.has targetId then
      modify (createDefaultDiplomacy (sourceId, targetId))
      return some buildDefaultDiplomacy
    else return none

/-- Lists the relations, after creating those that are missing. -/
def listDiplomacy : WorldM DiplomacyEntries := do
  ensureDiplomacyMatrix
  let world ← get
  return world.diplomacy.rows.entries

/-- Patches a relation; one that is missing is created, whatever the nations. -/
def applyDiplomacyPatch (key : DiplomacyKey) (patch : DiplomacyPatch) : WorldM Unit :=
  modify fun world => { world with
    diplomacy := match world.diplomacy.rows.get? key with
      | some base => world.diplomacy.put key (applyDiplomacyPatchToEntry base patch)
      | none => world.diplomacy.insert key (applyDiplomacyPatchToEntry buildDefaultDiplomacy patch) }

/-- Generals of each nation with an id above zero. -/
def countGenerals (world : TurnWorld) (nationId : Int) : Option Int :=
  let count := (world.generals.rows.entries.filter fun entry => entry.2.nationId = nationId).length
  if nationId ≤ 0 ∨ count = 0 then none else some count

/-- Moves every relation on by a month. -/
def advanceDiplomacyMonth (generalCounts : Option (Int → Option Int)) : WorldM Unit := do
  let world ← get
  if world.diplomacy.rows.entries.isEmpty then return ()
  else
    let entries ← listDiplomacy
    let updated := processDiplomacyMonth entries (generalCounts.getD world.countGenerals)
    updated.forM fun (key, entry) => modify fun world => { world with
      diplomacy := match world.diplomacy.rows.get? key with
        | some previous =>
          -- A relation that stayed as it was is not written.
          if previous.state = entry.state ∧ previous.term = entry.term ∧ previous.dead = entry.dead then
            world.diplomacy
          else world.diplomacy.put key entry
        | none => world.diplomacy.insert key entry }

/-- Patches a general. -/
def updateGeneral (id : Int) (patch : GeneralPatch) : WorldM (Option General) := do
  let world ← get
  match world.generals.rows.get? id with
  | none => return none
  | some target =>
    let next ← Effect.ofExcept (normalizeGeneralClock world.state.clock (applyGeneralPatch target patch))
    modify fun world => { world with generals := world.generals.put id next }
    return some next

/-- Adds a nation under a free id, with its relations to all others. -/
def addNation (id : Int) (nation : Nation) : WorldM Bool := do
  let world ← get
  if world.nations.rows.has id then return false
  else
    modify fun world => { world with nations := world.nations.insert id nation }
    ensureDiplomacyMatrix
    return true

/-- Removes a general. -/
def removeGeneral (id : Int) : WorldM Bool := do
  let world ← get
  if world.generals.rows.has id then
    modify fun world => { world with generals := world.generals.remove id }
    return true
  else return false

/-- Removes a general and records the end of its life. -/
def deleteGeneralWithLifecycle (id year month : Int) : WorldM Bool := do
  let world ← get
  match world.generals.rows.get? id with
  | none => return false
  | some general =>
    let united := ((readMetaNumber world.state.metadata "isunited").or
      (readMetaNumber world.state.metadata "isUnited")).getD 0
    modify fun world => { world with
      lifecycleEvents := world.lifecycleEvents ++
        [⟨id, .deleted, general, none, some ⌊united⌋, year, month⟩] }
    removeGeneral id

/-- Overwrites fields of a city. -/
def updateCity (id : Int) (patch : CityPatch) : WorldM (Option City) := do
  let world ← get
  match world.cities.rows.get? id with
  | none => return none
  | some target =>
    modify fun world => { world with cities := world.cities.put id (overwriteCity target patch) }
    return some (overwriteCity target patch)

/-- Overwrites fields of a nation. -/
def updateNation (id : Int) (patch : NationPatch) : WorldM (Option Nation) := do
  let world ← get
  match world.nations.rows.get? id with
  | none => return none
  | some target =>
    modify fun world => { world with nations := world.nations.put id (overwriteNation target patch) }
    return some (overwriteNation target patch)

/-- Overwrites fields of a troop. -/
def updateTroop (id : Int) (patch : TroopPatch) : WorldM (Option Troop) := do
  let world ← get
  match world.troops.rows.get? id with
  | none => return none
  | some target =>
    modify fun world => { world with troops := world.troops.put id (applyTroopPatch target patch) }
    return some (applyTroopPatch target patch)

/-- Creates a troop under a free id, taking back an earlier removal. -/
def createTroop (id : Int) (troop : Troop) : WorldM (Option Troop) := do
  let world ← get
  if world.troops.rows.has id then return none
  else
    modify fun world => { world with
      troops := { world.troops.insert id troop with deleted := world.troops.deleted.erase id } }
    return some troop

/-- Removes a troop. -/
def removeTroop (id : Int) : WorldM Bool := do
  let world ← get
  if world.troops.rows.has id then
    modify fun world => { world with troops := world.troops.remove id }
    return true
  else return false

/-- A relation concerns a nation. -/
def concernsNation (id : Int) (key : DiplomacyKey) : Prop := key.1 = id ∨ key.2 = id

instance (id : Int) (key : DiplomacyKey) : Decidable (concernsNation id key) :=
  inferInstanceAs (Decidable (_ ∨ _))

/-- Forgets every relation that concerns a nation, with its marks. -/
def dropRelations (id : Int) (diplomacy : WriteBehind DiplomacyKey TurnDiplomacy) :
    WriteBehind DiplomacyKey TurnDiplomacy :=
  (diplomacy.rows.keys.filter fun key => concernsNation id key).foldl
    (fun diplomacy key => { diplomacy with
      rows := diplomacy.rows.erase key, dirty := diplomacy.dirty.erase key
      created := diplomacy.created.erase key }) diplomacy

/-- Removes a nation and its relations; the relations are not journalled as removed. -/
def removeNation (id : Int) : WorldM Bool := do
  let world ← get
  if world.nations.rows.has id then
    modify fun world => { world with
      nations := world.nations.remove id, diplomacy := dropRelations id world.diplomacy }
    return true
  else return false

/-- Moves the last turn on to an instant, never back. -/
def setLastTurnTime (turnTime : Int) : WorldM Unit := do
  let world ← get
  let requestedTick ← Effect.ofExcept (world.state.clock.dateToTick turnTime)
  let lastTurnTick := max world.state.lastTurnTick requestedTick
  let lastTurnTime ← Effect.ofExcept (world.state.clock.tickToDate lastTurnTick)
  modify fun world => { world with state := { world.state with lastTurnTick, lastTurnTime } }

/-- The largest of some ids, or zero. -/
def largestId (ids : List Int) : Int :=
  match ids with
  | [] => 0
  | first :: rest => rest.foldl max first

/-- The id remembered under a metadata field, or zero. -/
def markedId (world : TurnWorld) (key : String) : Int :=
  match world.state.metadata.get? key with
  | some (.num value) => ⌊value⌋
  | _ => 0

/-- Remembers an id that was given out. -/
def markId (key : String) (id : Int) : WorldM Unit := updateWorldMeta [(key, .num id)]

/-- A new nation's id: after the last one given out, or after the largest one if none was. -/
def getNextNationId : WorldM Int := do
  let world ← get
  let marked := world.markedId "lastNationId"
  let lastId := if marked = 0 then largestId world.nations.rows.keys else marked
  markId "lastNationId" (lastId + 1)
  return lastId + 1

/-- A new event's id: after the largest one there is. -/
def getNextEventId : WorldM Int := do
  let world ← get
  return largestId world.events.rows.keys + 1

/-- A new general's id: after the last one given out and after the largest one there is. -/
def getNextGeneralId : WorldM Int := do
  let world ← get
  let lastId := max (world.markedId "lastGeneralId") (largestId world.generals.rows.keys)
  markId "lastGeneralId" (lastId + 1)
  return lastId + 1

end TurnWorld

end Sammo
