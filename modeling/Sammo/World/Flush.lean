import Sammo.Lib.StateMachine
import Sammo.World.Operations

/-! A world and its tables: operations in transactions, and flushes that write what was journalled. -/

namespace Sammo

open InMemoryTurnWorld

/-- The world in memory together with the tables behind it. -/
structure TurnStore where
  world : InMemoryTurnWorld
  tables : WorldTables

/-- Nothing is journalled for any kind of row. -/
structure TurnWorld.Unjournalled (world : TurnWorld) : Prop where
  generals : world.generals = .clean world.generals.rows
  cities : world.cities = .clean world.cities.rows
  nations : world.nations = .clean world.nations.rows
  troops : world.troops = .clean world.troops.rows
  diplomacy : world.diplomacy = .clean world.diplomacy.rows
  events : world.events = .clean world.events.rows

/-- The tables hold exactly the rows in memory, and nothing is journalled. -/
structure TurnStore.Loaded (store : TurnStore) : Prop where
  same : store.tables = store.world.tables
  unjournalled : store.world.Unjournalled

/-- What can happen to the world and its tables. -/
inductive StoreEvent where
  | operate (operation : WorldOperation)
  | flush

/-- What comes of it. -/
inductive StoreOutput where
  | result (value : Except String WorldResult)
  | flushed
  | refused (error : TableError)

/-- Runs an operation in a transaction: one that fails is taken back. -/
def transact (options : WorldOptions) (operation : WorldOperation) (world : InMemoryTurnWorld) :
    Except String WorldResult × InMemoryTurnWorld :=
  match (operation.run options).perform world with
  | (.ok value, next) => (.ok value, next)
  | (.error error, next) => (.error error, next.restoreState world.captureState)

/-- Writes the journalled changes; they are acknowledged only once the tables have taken them. -/
def flush (store : TurnStore) : TurnStore × StoreOutput :=
  let changes := store.world.peekDirtyState
  match persistChanges store.tables changes with
  | .ok tables =>
    (⟨{ store.world with toTurnWorld := TurnWorld.acknowledgeDirtyState changes store.world.toTurnWorld },
      tables⟩, .flushed)
  -- The tables refused a row, so their transaction is rolled back and the journal stays.
  | .error error => (store, .refused error)

/-- The store as a machine of operations and flushes. -/
def turnStore (options : WorldOptions) : StateMachine TurnStore StoreEvent StoreOutput where
  step store
    | .operate operation =>
      let (value, world) := transact options operation store.world
      some ({ store with world }, .result value)
    | .flush => some (flush store)

/-- A relation between two nations that have not been removed since the last flush. -/
def TurnWorld.BetweenKept (world : TurnWorld) (key : DiplomacyKey) : Prop :=
  key.1 ∉ world.nations.deleted ∧ key.2 ∉ world.nations.deleted

/-- A turn result reuses no id that was removed since the last flush, and its rows are there. -/
structure TurnWorld.TurnSafe (world : TurnWorld) (id : Int) (result : GeneralTurnResult) : Prop where
  acting : world.generals.rows.has id = true
  city : ∀ entry ∈ result.city, world.cities.rows.has entry.1 = true
  nation : ∀ entry ∈ result.nation, world.nations.rows.has entry.1 = true
  generals : ∀ entry ∈ result.createdGenerals, entry.1 ∉ world.generals.deleted
  nations : ∀ entry ∈ result.createdNations, entry.1 ∉ world.nations.deleted
  troops : ∀ entry ∈ result.createdTroops, entry.1 ∉ world.troops.deleted
  diplomacy : ∀ entry ∈ result.diplomacyPatches, world.BetweenKept entry.1

/-- An operation brings back no row whose removal is still to be written. -/
def FlushSafe (store : TurnStore) : StoreEvent → Prop
  | .operate (.addGeneral id _) => id ∉ store.world.generals.deleted
  | .operate (.addNation id _) => id ∉ store.world.nations.deleted
  | .operate (.addEvent id _) => id ∉ store.world.events.deleted
  -- A troop takes its removal back itself, which is enough unless its row is stored.
  | .operate (.createTroop id _) => id ∈ store.world.troops.deleted → store.tables.troops id = none
  | .operate (.applyDiplomacyPatch key _) => store.world.BetweenKept key
  | .operate (.executeGeneralTurn id _ result) => store.world.TurnSafe id result
  | _ => True

end Sammo
