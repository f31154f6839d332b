import Mathlib.Data.List.Sort
import Mathlib.Data.Rat.Floor
import Sammo.Time.GameClock

/-! The rows of the game world: generals, cities, nations, troops, diplomacy and events. -/

namespace Sammo

/-- Rounds to the nearest integer, halves away from zero, as the integer columns do. -/
def toLegacyDatabaseInt (value : ℚ) : ℚ :=
  if 0 ≤ value then (⌊value + 1 / 2⌋ : Int) else (⌈value - 1 / 2⌉ : Int)

/-- A general; `columns` are the fields the world only carries along. -/
structure General where
  name : String
  nationId : Int
  cityId : Int
  troopId : Int
  leadership : ℚ
  strength : ℚ
  intelligence : ℚ
  experience : ℚ
  dedication : ℚ
  officerLevel : ℚ
  injury : ℚ
  gold : ℚ
  rice : ℚ
  crew : ℚ
  crewTypeId : ℚ
  train : ℚ
  atmos : ℚ
  age : ℚ
  npcState : ℚ
  role : Record
  triggerState : Record
  metadata : Record
  turnTime : Int
  turnTick : Option Int
  recentWarTime : Option Int
  recentWarTick : Option (Option Int)
  columns : Record

/-- A partial general; a field without a value is left as it is. -/
structure GeneralPatch where
  name : Option String := none
  nationId : Option Int := none
  cityId : Option Int := none
  troopId : Option Int := none
  leadership : Option ℚ := none
  strength : Option ℚ := none
  intelligence : Option ℚ := none
  experience : Option ℚ := none
  dedication : Option ℚ := none
  officerLevel : Option ℚ := none
  injury : Option ℚ := none
  gold : Option ℚ := none
  rice : Option ℚ := none
  crew : Option ℚ := none
  crewTypeId : Option ℚ := none
  train : Option ℚ := none
  atmos : Option ℚ := none
  age : Option ℚ := none
  npcState : Option ℚ := none
  role : Option Record := none
  triggerState : Option Record := none
  metadata : Option Record := none
  turnTime : Option Int := none
  turnTick : Option Int := none
  recentWarTime : Option (Option Int) := none
  recentWarTick : Option (Option Int) := none
  columns : Record := []

/-- The metadata fields that are integer columns of the older schema. -/
def legacyIntegerGeneralMetaKeys : List String :=
  ["leadership_exp", "strength_exp", "intel_exp", "dex1", "dex2", "dex3", "dex4", "dex5", "explevel",
    "dedlevel", "killturn", "myset"]

/-- Rounds the numbers of the integer metadata fields. -/
def normalizeGeneralMetaDatabaseIntegers (record : Record) : Record :=
  record.map fun field =>
    match field.2 with
    | .num value =>
      if field.1 ∈ legacyIntegerGeneralMetaKeys then (field.1, .num (toLegacyDatabaseInt value)) else field
    | _ => field

/-- Rounds every column that the database keeps as an integer. -/
def normalizeGeneralDatabaseIntegers (general : General) : General :=
  { general with
    leadership := toLegacyDatabaseInt general.leadership
    strength := toLegacyDatabaseInt general.strength
    intelligence := toLegacyDatabaseInt general.intelligence
    experience := toLegacyDatabaseInt general.experience
    dedication := toLegacyDatabaseInt general.dedication
    officerLevel := toLegacyDatabaseInt general.officerLevel
    injury := toLegacyDatabaseInt general.injury
    gold := toLegacyDatabaseInt general.gold
    rice := toLegacyDatabaseInt general.rice
    crew := toLegacyDatabaseInt general.crew
    crewTypeId := toLegacyDatabaseInt general.crewTypeId
    train := toLegacyDatabaseInt general.train
    atmos := toLegacyDatabaseInt general.atmos
    age := toLegacyDatabaseInt general.age
    npcState := toLegacyDatabaseInt general.npcState
    metadata := normalizeGeneralMetaDatabaseIntegers general.metadata }

/-- Lays a nested record of a patch over the one it had. -/
def mergeNested (base patch : Record) (key : String) : Json :=
  .obj ((asRecord ((base.get? key).getD .null)).merge (asRecord ((patch.get? key).getD .null)))

/-- Merges roles; the items are merged one by one. -/
def mergeRole (base patch : Record) : Record :=
  (base.merge patch).set "items" (mergeNested base patch "items")

/-- Merges trigger states; their four records are merged one by one. -/
def mergeTriggerState (base patch : Record) : Record :=
  ["flags", "counters", "modifiers", "meta"].foldl
    (fun merged key => merged.set key (mergeNested base patch key)) (base.merge patch)

/--
Applies a patch and rounds the result.

A new time without a tick drops the tick it had, so that the clock derives one from the time.
-/
def applyGeneralPatch (base : General) (patch : GeneralPatch) : General :=
  normalizeGeneralDatabaseIntegers
    { name := patch.name.getD base.name
      nationId := patch.nationId.getD base.nationId
      cityId := patch.cityId.getD base.cityId
      troopId := patch.troopId.getD base.troopId
      leadership := patch.leadership.getD base.leadership
      strength := patch.strength.getD base.strength
      intelligence := patch.intelligence.getD base.intelligence
      experience := patch.experience.getD base.experience
      dedication := patch.dedication.getD base.dedication
      officerLevel := patch.officerLevel.getD base.officerLevel
      injury := patch.injury.getD base.injury
      gold := patch.gold.getD base.gold
      rice := patch.rice.getD base.rice
      crew := patch.crew.getD base.crew
      crewTypeId := patch.crewTypeId.getD base.crewTypeId
      train := patch.train.getD base.train
      atmos := patch.atmos.getD base.atmos
      age := patch.age.getD base.age
      npcState := patch.npcState.getD base.npcState
      role := (patch.role.map (mergeRole base.role)).getD base.role
      triggerState := (patch.triggerState.map (mergeTriggerState base.triggerState)).getD base.triggerState
      metadata := (patch.metadata.map base.metadata.merge).getD base.metadata
      turnTime := patch.turnTime.getD base.turnTime
      turnTick := if patch.turnTick.isSome then patch.turnTick
        else if patch.turnTime.isSome then none else base.turnTick
      recentWarTime := patch.recentWarTime.getD base.recentWarTime
      recentWarTick := if patch.recentWarTick.isSome then patch.recentWarTick
        else if patch.recentWarTime.isSome then none else base.recentWarTick
      columns := base.columns.merge patch.columns }

/-- Replaces a turn time that is no date. -/
def normalizeGeneralTurnTime (general : General) (fallback : Int) : General :=
  if ValidDate general.turnTime then general else { general with turnTime := fallback }

/-- Derives the ticks a general lacks, and its times from its ticks. -/
def normalizeGeneralClock (clock : GameClock) (general : General) : Except String General := do
  let turnTick ← match general.turnTick with
    | some tick => .ok tick
    | none => clock.dateToTick general.turnTime
  let recentWarTick ← match general.recentWarTick, general.recentWarTime with
    | some tick, _ => .ok tick
    | none, some time => (clock.dateToTick time).map some
    | none, none => .ok none
  let turnTime ← clock.tickToDate turnTick
  let recentWarTime ← match recentWarTick with
    | some tick => (clock.tickToDate tick).map some
    | none => .ok none
  .ok { general with
    turnTick := some turnTick, turnTime, recentWarTick := some recentWarTick, recentWarTime }

/-- The world's default for the turns before an idle general is removed. -/
def resolveWorldKillturn (record : Record) : Option ℚ :=
  (readMetaNumber record "killturn").map fun value => (⌊value⌋ : Int)

/-- Fills in the idle counter; without a default a general must bring its own. -/
def ensureGeneralKillturn (generalId : Int) (general : General) (worldKillturn : Option ℚ) :
    Except String General :=
  match readMetaNumber general.metadata "killturn", worldKillturn with
  | some _, _ => .ok general
  | none, some killturn => .ok { general with metadata := general.metadata.set "killturn" (.num killturn) }
  | none, none => .error s!"meta.killturn is required (generalId={generalId})."

/-- A city; `columns` are the fields the world only carries along. -/
structure City where
  nationId : Int
  frontState : ℚ
  conflict : Option Json
  metadata : Record
  columns : Record

/-- A partial city. -/
structure CityPatch where
  nationId : Option Int := none
  frontState : Option ℚ := none
  conflict : Option (Option Json) := none
  metadata : Option Record := none
  columns : Record := []

/-- Lays a patch over a city, metadata included. -/
def overwriteCity (base : City) (patch : CityPatch) : City where
  nationId := patch.nationId.getD base.nationId
  frontState := patch.frontState.getD base.frontState
  conflict := patch.conflict.getD base.conflict
  metadata := patch.metadata.getD base.metadata
  columns := base.columns.merge patch.columns

/-- Lays a patch over a city, merging its metadata. -/
def applyCityPatch (base : City) (patch : CityPatch) : City :=
  { overwriteCity base patch with metadata := (patch.metadata.map base.metadata.merge).getD base.metadata }

/-- A nation; `columns` are the fields the world only carries along. -/
structure Nation where
  name : String
  chiefGeneralId : Option Int
  gold : ℚ
  rice : ℚ
  metadata : Record
  columns : Record

/-- A partial nation. -/
structure NationPatch where
  name : Option String := none
  chiefGeneralId : Option (Option Int) := none
  gold : Option ℚ := none
  rice : Option ℚ := none
  metadata : Option Record := none
  columns : Record := []

/-- Lays a patch over a nation, metadata included. -/
def overwriteNation (base : Nation) (patch : NationPatch) : Nation where
  name := patch.name.getD base.name
  chiefGeneralId := patch.chiefGeneralId.getD base.chiefGeneralId
  gold := patch.gold.getD base.gold
  rice := patch.rice.getD base.rice
  metadata := patch.metadata.getD base.metadata
  columns := base.columns.merge patch.columns

/-- Lays a patch over a nation, merging its metadata. -/
def applyNationPatch (base : Nation) (patch : NationPatch) : Nation :=
  { overwriteNation base patch with metadata := (patch.metadata.map base.metadata.merge).getD base.metadata }

/-- A troop. -/
structure Troop where
  nationId : Int
  name : String
  deriving DecidableEq

/-- A partial troop. -/
structure TroopPatch where
  nationId : Option Int := none
  name : Option String := none

/-- Lays a patch over a troop. -/
def applyTroopPatch (base : Troop) (patch : TroopPatch) : Troop :=
  ⟨patch.nationId.getD base.nationId, patch.name.getD base.name⟩

/-- A scenario event. -/
structure TurnEvent where
  targetCode : String
  priority : ℚ
  condition : Json
  action : Json
  metadata : Record

/-- A candidate of the general pool, with its reservation. -/
structure TurnGeneralPoolEntry where
  id : Int
  uniqueName : String
  ownerUserId : Option String
  generalId : Option Int
  reservedUntil : Option Int
  reservedUntilTick : Option Int
  candidate : Json

/-- Where an interrupted pass over the generals stopped. -/
structure TurnCheckpoint where
  turnTime : Int
  turnTick : Option Int
  generalId : Option Int
  year : Int
  month : Int
  deriving DecidableEq

/-- A part of the day with its own turn length. -/
structure TurnScheduleEntry where
  startMinute : Int
  tickMinutes : Int
  deriving DecidableEq

/-- The turn lengths of a day; there is always at least one. -/
structure TurnSchedule where
  first : TurnScheduleEntry
  rest : List TurnScheduleEntry
  deriving DecidableEq

/-- The minute of the day, for a clock that is ahead of UTC by some minutes. -/
def toMinuteOfDay (zoneMinutes date : Int) : Int := (date / 60000 + zoneMinutes) % 1440

/-- The entries cut to a day and ordered by their start. -/
def normalizeEntries (schedule : TurnSchedule) : List TurnScheduleEntry :=
  ((schedule.first :: schedule.rest).map fun entry =>
    (⟨max 0 (min 1439 entry.startMinute), max 1 entry.tickMinutes⟩ : TurnScheduleEntry)).insertionSort
      fun left right => left.startMinute ≤ right.startMinute

/-- The turn length at an instant; before the first entry the last one of the day before is in force. -/
def getTickMinutesAt (zoneMinutes date : Int) (schedule : TurnSchedule) : Int :=
  let entries := normalizeEntries schedule
  let current := entries.reverse.find? fun entry => entry.startMinute ≤ toMinuteOfDay zoneMinutes date
  ((current.or entries.getLast?).getD schedule.first).tickMinutes

/-- The instant one turn later. -/
def getNextTurnAt (zoneMinutes date : Int) (schedule : TurnSchedule) : Int :=
  date + getTickMinutesAt zoneMinutes date schedule * 60000

end Sammo
