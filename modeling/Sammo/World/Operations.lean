import Sammo.World.ClockOperations
import Sammo.World.DirtyState
import Sammo.World.GeneralTurn

/-! The whole world object: its operations in sequence, its snapshots and their restoration. -/

namespace Sammo

/-- The world in memory: what a snapshot captures, and the counter of general scan orders. -/
structure InMemoryTurnWorld extends TurnWorld where
  nextLegacyGeneralScanOrder : Int

namespace InMemoryTurnWorld

/-- Takes a snapshot. -/
def captureState (world : InMemoryTurnWorld) : TurnWorld := world.toTurnWorld

/-- Goes back to a snapshot; the counter is not part of it. -/
def restoreState (snapshot : TurnWorld) (world : InMemoryTurnWorld) : InMemoryTurnWorld :=
  { world with toTurnWorld := snapshot }

/-- An operation on the captured fields, as one on the world. -/
def onWorld {α : Type} (operation : WorldM α) : Effect String InMemoryTurnWorld α :=
  fun world =>
    let (result, next) := operation.perform world.toTurnWorld
    (result, { world with toTurnWorld := next })

/-- A general as a new one is normalized, before its scan order is given out. -/
def normalizeNewGeneral (world : TurnWorld) (general : General) : Except String General :=
  normalizeGeneralClock world.state.clock (normalizeGeneralTurnTime general world.state.lastTurnTime)

/-- Adds a general under a free id; its scan order is taken before the last check on it. -/
def addGeneral (id : Int) (general : General) : Effect String InMemoryTurnWorld Bool := do
  let world ← get
  if world.generals.rows.has id then return false
  else
    let normalized ← Effect.ofExcept (normalizeNewGeneral world.toTurnWorld general)
    let scanOrder := world.nextLegacyGeneralScanOrder
    modify fun world => { world with nextLegacyGeneralScanOrder := scanOrder + 1 }
    let ensured ← Effect.ofExcept (ensureGeneralKillturn id
      { normalized with metadata := normalized.metadata.set "legacyScanOrder" (.num scanOrder) }
      (resolveWorldKillturn world.state.metadata))
    modify fun world => { world with
      generals := world.generals.insert id (normalizeGeneralDatabaseIntegers ensured) }
    return true

/-- The clock of a world that has just opened with hourly turns. -/
def openingClock : GameClock where
  baseTime := 0
  tick := 0
  mode := .realtime
  wallAnchor := 0
  turnSeconds := 3600
  phase := .running
  revision := 1
  recovery := none
  positive := by decide
  divides := by decide
  validBase := by decide
  validAnchor := by decide
  safeTick := by decide
  safeRevision := by decide
  validRecovery := by simp

/-- A world without rows that has just opened. -/
def opening : InMemoryTurnWorld where
  schedule := ⟨⟨0, 60⟩, []⟩
  state := ⟨180, 1, openingClock, 0, 0, 1, []⟩
  worldConfig := []
  generalPoolEntries := none
  checkpoint := none
  generals := .clean .empty
  cities := .clean .empty
  nations := .clean .empty
  troops := .clean .empty
  diplomacy := .clean .empty
  events := .clean .empty
  accessScoreResetGeneralIds := .empty
  deletedNationSnapshots := []
  logs := []
  lifecycleEvents := []
  pendingNeutralAuctions := []
  journals := fun _ => []
  pendingRealtimeBacklogShiftTicks := 0
  nextLegacyGeneralScanOrder := 0

/-- Options of a server in UTC whose relations advance with the month. -/
def openingOptions : WorldOptions where
  zoneMinutes := 0
  autoAdvanceDiplomacyMonth := true
  josaPick := fun _ particle => particle
  parseJson := fun _ => none

end InMemoryTurnWorld

/-- What an operation gives back. -/
inductive WorldResult where
  | done
  | flag (value : Bool)
  | id (value : Int)
  | general (value : Option General)
  | city (value : Option City)
  | nation (value : Option Nation)
  | troop (value : Option Troop)
  | relation (value : Option TurnDiplomacy)
  | relations (value : DiplomacyEntries)
  | execution (value : GeneralTurnExecution)
  | changes (value : TurnWorldChanges)
  | snapshot (value : TurnWorld)

/-- The operations on the rows of the world, with their arguments. -/
inductive WorldOperation where
  | addGeneral (id : Int) (general : General)
  | updateGeneral (id : Int) (patch : GeneralPatch)
  | removeGeneral (id : Int)
  | deleteGeneralWithLifecycle (id year month : Int)
  | addNation (id : Int) (nation : Nation)
  | updateNation (id : Int) (patch : NationPatch)
  | removeNation (id : Int)
  | collapseNation (id : Int)
  | dissolveNationWithoutSuccessor (id : Int) (dyingLordId : Option Int)
  | updateCity (id : Int) (patch : CityPatch)
  | createTroop (id : Int) (troop : Troop)
  | updateTroop (id : Int) (patch : TroopPatch)
  | removeTroop (id : Int)
  | addEvent (id : Int) (event : TurnEvent)
  | removeEvent (id : Int)
  | getDiplomacyEntry (sourceId targetId : Int)
  | listDiplomacy
  | applyDiplomacyPatch (key : DiplomacyKey) (patch : DiplomacyPatch)
  | advanceDiplomacyMonth (generalCounts : Option (Int → Option Int))
  | getNextNationId
  | getNextEventId
  | getNextGeneralId
  | executeGeneralTurn (id : Int) (general : General) (result : GeneralTurnResult)
  | advanceMonth (turnTime : Int)
  | setLastTurnTime (turnTime : Int)
  | setCheckpoint (checkpoint : Option TurnCheckpoint)
  | updateWorldMeta (patch : Record)
  | updateWorldConfig (patch : Record)
  | markGeneralAccessScoreReset (id : Int)
  | replaceGeneralPoolEntries (entries : List TurnGeneralPoolEntry)
  | pushLog (entry : LogEntryDraft) (occurredAt : Option Int)
  | queue (journal : Journal) (draft : Json)
  | queueNeutralAuction (auction : PendingNeutralAuction)
  | queueInheritancePointAdjustment (userId key : String) (amount : ℚ) (phase : Option String)
  | queueInheritanceLog (userId text : String) (rest : Record)

/-- The operations of the world that a transaction may contain. -/
inductive EngineOperation where
  | world (operation : WorldOperation)
  | promotePreopenAtOpening (wallNow : Int)
  | beginUnificationWait (suspensionId : String)
  | completeGameClock
  | completeClockReconciliation
  | applyClockReconciliation (input : DurableClockReconciliationAlignment)
  | applyDurableClockReconciliation (input : DurableClockReconciliationAlignment)
  | synchronizeDurableClockSnapshot (input : DurableGameClockSnapshot)
  | advanceGameClockTo (target wallNow : Int) (validWall : ValidDate wallNow)
  | consumeDirtyState
  | captureState

open InMemoryTurnWorld TurnWorld

/-- Runs an operation on the rows. -/
def WorldOperation.run (options : WorldOptions) : WorldOperation → Effect String InMemoryTurnWorld WorldResult
  | .addGeneral id general => do return .flag (← InMemoryTurnWorld.addGeneral id general)
  | .updateGeneral id patch => onWorld do return .general (← TurnWorld.updateGeneral id patch)
  | .removeGeneral id => onWorld do return .flag (← TurnWorld.removeGeneral id)
  | .deleteGeneralWithLifecycle id year month =>
    onWorld do return .flag (← TurnWorld.deleteGeneralWithLifecycle id year month)
  | .addNation id nation => onWorld do return .flag (← TurnWorld.addNation id nation)
  | .updateNation id patch => onWorld do return .nation (← TurnWorld.updateNation id patch)
  | .removeNation id => onWorld do return .flag (← TurnWorld.removeNation id)
  | .collapseNation id => onWorld do return .flag (← TurnWorld.collapseNation options id)
  | .dissolveNationWithoutSuccessor id dyingLordId =>
    onWorld do return .flag (← TurnWorld.dissolveNationWithoutSuccessor options id dyingLordId)
  | .updateCity id patch => onWorld do return .city (← TurnWorld.updateCity id patch)
  | .createTroop id troop => onWorld do return .troop (← TurnWorld.createTroop id troop)
  | .updateTroop id patch => onWorld do return .troop (← TurnWorld.updateTroop id patch)
  | .removeTroop id => onWorld do return .flag (← TurnWorld.removeTroop id)
  | .addEvent id event => onWorld do return .flag (← TurnWorld.addEvent id event)
  | .removeEvent id => onWorld do return .flag (← TurnWorld.removeEvent id)
  | .getDiplomacyEntry sourceId targetId =>
    onWorld do return .relation (← TurnWorld.getDiplomacyEntry sourceId targetId)
  | .listDiplomacy => onWorld do return .relations (← TurnWorld.listDiplomacy)
  | .applyDiplomacyPatch key patch => onWorld do TurnWorld.applyDiplomacyPatch key patch; return .done
  | .advanceDiplomacyMonth generalCounts =>
    onWorld do TurnWorld.advanceDiplomacyMonth generalCounts; return .done
  | .getNextNationId => onWorld do return .id (← TurnWorld.getNextNationId)
  | .getNextEventId => onWorld do return .id (← TurnWorld.getNextEventId)
  | .getNextGeneralId => onWorld do return .id (← TurnWorld.getNextGeneralId)
  | .executeGeneralTurn id general result =>
    onWorld do return .execution (← TurnWorld.executeGeneralTurn options id general result)
  | .advanceMonth turnTime => onWorld do TurnWorld.advanceMonth options turnTime; return .done
  | .setLastTurnTime turnTime => onWorld do TurnWorld.setLastTurnTime turnTime; return .done
  | .setCheckpoint checkpoint => onWorld do TurnWorld.setCheckpoint checkpoint; return .done
  | .updateWorldMeta patch => onWorld do TurnWorld.updateWorldMeta patch; return .done
  | .updateWorldConfig patch => onWorld do TurnWorld.updateWorldConfig patch; return .done
  | .markGeneralAccessScoreReset id => onWorld do TurnWorld.markGeneralAccessScoreReset id; return .done
  | .replaceGeneralPoolEntries entries =>
    onWorld do TurnWorld.replaceGeneralPoolEntries entries; return .done
  | .pushLog entry occurredAt => onWorld do TurnWorld.pushLog entry occurredAt; return .done
  | .queue journal draft => onWorld do TurnWorld.queue journal draft; return .done
  | .queueNeutralAuction auction => onWorld do TurnWorld.queueNeutralAuction auction; return .done
  | .queueInheritancePointAdjustment userId key amount phase =>
    onWorld do TurnWorld.queueInheritancePointAdjustment userId key amount phase; return .done
  | .queueInheritanceLog userId text rest =>
    onWorld do TurnWorld.queueInheritanceLog userId text rest; return .done

/-- Runs an operation of a transaction. -/
def EngineOperation.run (options : WorldOptions) : EngineOperation → Effect String InMemoryTurnWorld WorldResult
  | .world operation => operation.run options
  | .promotePreopenAtOpening wallNow =>
    onWorld do return .flag (← TurnWorld.promotePreopenAtOpening wallNow)
  | .beginUnificationWait suspensionId =>
    onWorld do TurnWorld.beginUnificationWait suspensionId; return .done
  | .completeGameClock => onWorld do TurnWorld.completeGameClock; return .done
  | .completeClockReconciliation => onWorld do TurnWorld.completeClockReconciliation; return .done
  | .applyClockReconciliation input => onWorld do TurnWorld.applyClockReconciliation input; return .done
  | .applyDurableClockReconciliation input =>
    onWorld do TurnWorld.applyDurableClockReconciliation input; return .done
  | .synchronizeDurableClockSnapshot input =>
    onWorld do TurnWorld.synchronizeDurableClockSnapshot input; return .done
  | .advanceGameClockTo target wallNow validWall =>
    onWorld do TurnWorld.advanceGameClockTo target wallNow validWall; return .done
  | .consumeDirtyState => onWorld do return .changes (← TurnWorld.consumeDirtyState)
  | .captureState => onWorld do return .snapshot (← get)

/-- Runs operations one after another, whatever each of them gives, and lists what they gave. -/
def runOperations (options : WorldOptions) :
    List EngineOperation → InMemoryTurnWorld → List (Except String WorldResult) × InMemoryTurnWorld
  | [], world => ([], world)
  | operation :: rest, world =>
    -- An operation that failed leaves the world as far as it had come.
    let (result, next) := (operation.run options).perform world
    let (results, final) := runOperations options rest next
    (result :: results, final)

end Sammo
