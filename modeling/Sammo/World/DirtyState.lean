import Sammo.World.InMemoryWorld

/-! The changes a world has to write, and the tables they are written to. -/

namespace Sammo

/-- Everything a flush writes; rows are listed with their keys. -/
structure TurnWorldChanges where
  generals : List (Int × General)
  cities : List (Int × City)
  nations : List (Int × Nation)
  troops : List (Int × Troop)
  diplomacy : DiplomacyEntries
  createdGenerals : List (Int × General)
  createdNations : List (Int × Nation)
  createdTroops : List (Int × Troop)
  createdDiplomacy : DiplomacyEntries
  createdEvents : List (Int × TurnEvent)
  deletedTroops : List Int
  deletedGenerals : List Int
  deletedNations : List Int
  deletedEvents : List Int
  deletedNationSnapshots : List DeletedNationSnapshot
  accessScoreResetGeneralIds : List Int
  logs : List LogEntryDraft
  lifecycleEvents : List GeneralLifecycleEvent
  pendingNeutralAuctions : List PendingNeutralAuction
  journals : Journal → List Json
  realtimeBacklogShiftTicks : Int

namespace TurnWorld

/-- The changes since the last flush, as they are. -/
def peekDirtyState (world : TurnWorld) : TurnWorldChanges where
  generals := world.generals.rowsOf world.generals.dirty.items
  cities := world.cities.rowsOf world.cities.dirty.items
  nations := world.nations.rowsOf world.nations.dirty.items
  troops := world.troops.rowsOf world.troops.dirty.items
  diplomacy := world.diplomacy.rowsOf world.diplomacy.dirty.items
  createdGenerals := world.generals.creations
  createdNations := world.nations.creations
  createdTroops := world.troops.creations
  createdDiplomacy := world.diplomacy.creations
  createdEvents := world.events.creations
  deletedTroops := world.troops.deleted.items
  deletedGenerals := world.generals.deleted.items
  deletedNations := world.nations.deleted.items
  deletedEvents := world.events.deleted.items
  deletedNationSnapshots := world.deletedNationSnapshots
  accessScoreResetGeneralIds := world.accessScoreResetGeneralIds.items.insertionSort (· ≤ ·)
  logs := world.logs
  lifecycleEvents := world.lifecycleEvents
  pendingNeutralAuctions := world.pendingNeutralAuctions
  journals := world.journals
  realtimeBacklogShiftTicks := world.pendingRealtimeBacklogShiftTicks

/-- Forgets the marks of written keys. -/
def forgetMarks {κ ν : Type} [DecidableEq κ] (copy : WriteBehind κ ν) (changed created : List (κ × ν))
    (deleted : List κ) : WriteBehind κ ν :=
  { copy with
    dirty := (changed.map Prod.fst).foldl .erase copy.dirty
    created := (created.map Prod.fst).foldl .erase copy.created
    deleted := deleted.foldl .erase copy.deleted }

/-- Takes changes that have been written out of the journals. -/
def acknowledgeDirtyState (changes : TurnWorldChanges) (world : TurnWorld) : TurnWorld :=
  { world with
    generals := forgetMarks world.generals changes.generals changes.createdGenerals changes.deletedGenerals
    cities := forgetMarks world.cities changes.cities [] []
    nations := forgetMarks world.nations changes.nations changes.createdNations changes.deletedNations
    troops := forgetMarks world.troops changes.troops changes.createdTroops changes.deletedTroops
    diplomacy := forgetMarks world.diplomacy changes.diplomacy changes.createdDiplomacy []
    events := forgetMarks world.events [] changes.createdEvents changes.deletedEvents
    deletedNationSnapshots := world.deletedNationSnapshots.drop changes.deletedNationSnapshots.length
    accessScoreResetGeneralIds := changes.accessScoreResetGeneralIds.foldl .erase
      world.accessScoreResetGeneralIds
    logs := world.logs.drop changes.logs.length
    lifecycleEvents := world.lifecycleEvents.drop changes.lifecycleEvents.length
    pendingNeutralAuctions := world.pendingNeutralAuctions.drop changes.pendingNeutralAuctions.length
    journals := fun journal => (world.journals journal).drop (changes.journals journal).length
    pendingRealtimeBacklogShiftTicks :=
      max 0 (world.pendingRealtimeBacklogShiftTicks - changes.realtimeBacklogShiftTicks) }

/-- Takes the changes out of the world. -/
def consumeDirtyState : WorldM TurnWorldChanges := do
  let world ← get
  modify (acknowledgeDirtyState world.peekDirtyState)
  return world.peekDirtyState

end TurnWorld

/-- The tables of the world's rows; a row is stored as it is kept in memory. -/
structure WorldTables where
  generals : Table Int General
  cities : Table Int City
  nations : Table Int Nation
  troops : Table Int Troop
  diplomacy : Table DiplomacyKey TurnDiplomacy
  events : Table Int TurnEvent

/-- The tables that hold exactly the rows in memory. -/
def TurnWorld.tables (world : TurnWorld) : WorldTables where
  generals := world.generals.rows.get?
  cities := world.cities.rows.get?
  nations := world.nations.rows.get?
  troops := world.troops.rows.get?
  diplomacy := world.diplomacy.rows.get?
  events := world.events.rows.get?

/-- The rows of a list that are not among the created ones. -/
def withoutCreated {κ ν : Type} [DecidableEq κ] (rows created : List (κ × ν)) : List (κ × ν) :=
  rows.filter fun entry => entry.1 ∉ created.map Prod.fst

/-- Writes changes to the tables: what was created first, then the removals, then the changes. -/
def persistChanges (tables : WorldTables) (changes : TurnWorldChanges) : Except TableError WorldTables := do
  let generals ← tables.generals.insertRows changes.createdGenerals
  let nations ← tables.nations.insertRows changes.createdNations
  let troops ← tables.troops.insertRows changes.createdTroops
  let diplomacy ← tables.diplomacy.insertRows changes.createdDiplomacy
  let events ← tables.events.insertRows changes.createdEvents
  let troops := troops.deleteRows (· ∈ changes.deletedTroops)
  let generals := generals.deleteRows (· ∈ changes.deletedGenerals)
  -- A removed nation takes the relations of both directions with it.
  let diplomacy := diplomacy.deleteRows fun key =>
    key.1 ∈ changes.deletedNations ∨ key.2 ∈ changes.deletedNations
  let nations := nations.deleteRows (· ∈ changes.deletedNations)
  let events := events.deleteRows (· ∈ changes.deletedEvents)
  let generals ← generals.updateRows (withoutCreated changes.generals changes.createdGenerals)
  let cities ← tables.cities.updateRows changes.cities
  let nations := nations.upsertRows (withoutCreated changes.nations changes.createdNations)
  let troops ← troops.updateRows (withoutCreated changes.troops changes.createdTroops)
  let diplomacy ← diplomacy.updateRows (withoutCreated changes.diplomacy changes.createdDiplomacy)
  return { generals, cities, nations, troops, diplomacy, events }

end Sammo
