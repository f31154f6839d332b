import Sammo.World.TurnFlushLaws

/-! A flush writes exactly the difference between the world and its tables, in every run that is safe. -/

namespace Sammo

open Effect InMemoryTurnWorld TurnWorld

variable {tables : WorldTables}

theorem overlay_nil {κ ν : Type} [DecidableEq κ] (table : Table κ ν) : table.overlay [] = table := rfl

theorem deleteRows_none {κ ν : Type} (table : Table κ ν) : table.deleteRows (fun _ => False) = table := by
  funext key
  simp [Table.deleteRows]

theorem uncreated {κ ν : Type} [DecidableEq κ] {copy : WriteBehind κ ν} (given : ∀ key, key ∉ copy.created) :
    copy.creations = [] ∧ copy.changes = copy.rowsOf copy.dirty.items := by
  have empty : copy.created.items = [] := List.eq_nil_iff_forall_not_mem.mpr given
  refine ⟨by simp [WriteBehind.creations, empty, WriteBehind.rowsOf], ?_⟩
  rw [WriteBehind.changes, List.filter_eq_self.mpr]
  intro key _
  simpa using given key

theorem unmarked {κ ν : Type} [DecidableEq κ] {copy : WriteBehind κ ν} (none_marked : ∀ key, key ∉ copy.dirty) :
    copy.changes = [] := by
  have empty : copy.dirty.items = [] := List.eq_nil_iff_forall_not_mem.mpr none_marked
  simp [WriteBehind.changes, empty, WriteBehind.rowsOf]

theorem persistChanges_ok {changes : TurnWorldChanges} {result : WorldTables} (made : WorldTables)
    (createGenerals : tables.generals.insertRows changes.createdGenerals = .ok made.generals)
    (createNations : tables.nations.insertRows changes.createdNations = .ok made.nations)
    (createTroops : tables.troops.insertRows changes.createdTroops = .ok made.troops)
    (createDiplomacy : tables.diplomacy.insertRows changes.createdDiplomacy = .ok made.diplomacy)
    (createEvents : tables.events.insertRows changes.createdEvents = .ok made.events)
    (deleteEvents : made.events.deleteRows (· ∈ changes.deletedEvents) = result.events)
    (updateGenerals : (made.generals.deleteRows (· ∈ changes.deletedGenerals)).updateRows
      (withoutCreated changes.generals changes.createdGenerals) = .ok result.generals)
    (updateCities : tables.cities.updateRows changes.cities = .ok result.cities)
    (upsertNations : (made.nations.deleteRows (· ∈ changes.deletedNations)).upsertRows
      (withoutCreated changes.nations changes.createdNations) = result.nations)
    (updateTroops : (made.troops.deleteRows (· ∈ changes.deletedTroops)).updateRows
      (withoutCreated changes.troops changes.createdTroops) = .ok result.troops)
    (updateDiplomacy : (made.diplomacy.deleteRows fun key =>
        key.1 ∈ changes.deletedNations ∨ key.2 ∈ changes.deletedNations).updateRows
      (withoutCreated changes.diplomacy changes.createdDiplomacy) = .ok result.diplomacy) :
    persistChanges tables changes = .ok result := by
  simp only [persistChanges, createGenerals, createNations, createTroops, createDiplomacy, createEvents,
    deleteEvents, updateGenerals, updateCities, upsertNations, updateTroops, updateDiplomacy, Bind.bind,
    Except.bind]
  rfl

/-- The tables after the creations of a flush. -/
def createdTables (tables : WorldTables) (world : TurnWorld) : WorldTables where
  generals := tables.generals.overlay world.generals.creations
  cities := tables.cities
  nations := tables.nations.overlay world.nations.creations
  troops := tables.troops.overlay world.troops.creations
  diplomacy := tables.diplomacy.overlay world.diplomacy.creations
  events := tables.events.overlay world.events.creations

theorem Accounts.persist {world : TurnWorld} (accounts : Accounts tables world) :
    persistChanges tables world.peekDirtyState = .ok world.tables := by
  have generals := accounts.generals.update_changes
  have nations := accounts.nations.upsert_changes
  have troops := accounts.troops.update_changes
  have diplomacy := accounts.diplomacy.update_changes
  rw [WriteBehind.changes_eq] at generals nations troops diplomacy
  -- No city is created and no event is changed, so these two lack a step.
  have cities : tables.cities.updateRows (world.cities.rowsOf world.cities.dirty.items) =
      .ok world.cities.rows.get? := by
    obtain ⟨none_created, all_marked⟩ := uncreated accounts.citiesGiven
    have updated := accounts.cities.update_changes
    rwa [none_created, all_marked, overlay_nil, deleteRows_none] at updated
  have events : (tables.events.overlay world.events.creations).deleteRows (· ∈ world.events.deleted) =
      world.events.rows.get? := by
    have laid := accounts.events.overlay_changes
    rwa [unmarked accounts.eventsUnmarked, overlay_nil] at laid
  exact persistChanges_ok (createdTables tables world) accounts.generals.insert_creations
    accounts.nations.insert_creations accounts.troops.insert_creations accounts.diplomacy.insert_creations
    accounts.events.insert_creations events generals cities nations troops diplomacy

variable {κ ν : Type} [DecidableEq κ] {copy : WriteBehind κ ν} {gone lost : κ → Prop} {table : Table κ ν}

theorem forgetMarks_tracks (changed : List (κ × ν)) (deleted : List κ) (tracks : copy.Tracks gone table)
    (none_lost : ∀ key, ¬ lost key) :
    (forgetMarks copy changed copy.creations deleted).Tracks lost copy.rows.get? := by
  -- Every created key has a row, so its mark is forgotten.
  have uncreated (key : κ) : key ∉ (forgetMarks copy changed copy.creations deleted).created := by
    intro created
    obtain ⟨unlisted, marked⟩ := OrderedSet.mem_foldl_erase.mp created
    obtain ⟨row, got⟩ := Option.isSome_iff_exists.mp (tracks.created_new key marked).1
    refine unlisted (List.mem_map.mpr ⟨(key, row), ?_, rfl⟩)
    exact List.mem_filterMap.mpr ⟨key, marked, by simp [got]⟩
  exact
    { created_new := fun key created => absurd created (uncreated key)
      stored := fun key row got _ => ⟨row, got, .inr rfl⟩
      removed := fun key absent stored => absurd absent stored
      gone_absent := fun key away => absurd away (none_lost key) }

theorem forgetMarks_deleted {changed created : List (κ × ν)} (key : κ) :
    key ∉ (forgetMarks copy changed created copy.deleted.items).deleted :=
  fun member => (OrderedSet.mem_foldl_erase.mp member).1 (OrderedSet.mem_foldl_erase.mp member).2

theorem Accounts.acknowledge {world : TurnWorld} (accounts : Accounts tables world) :
    Accounts world.tables (acknowledgeDirtyState world.peekDirtyState world) where
  generals := forgetMarks_tracks _ _ accounts.generals forgetMarks_deleted
  cities := by
    have none_created := (uncreated accounts.citiesGiven).1
    have written := forgetMarks_tracks (world.cities.rowsOf world.cities.dirty.items) [] accounts.cities
      fun _ => id
    rwa [none_created] at written
  citiesGiven id created := accounts.citiesGiven id created
  nations := forgetMarks_tracks _ _ accounts.nations forgetMarks_deleted
  troops := forgetMarks_tracks _ _ accounts.troops forgetMarks_deleted
  diplomacy := forgetMarks_tracks _ _ accounts.diplomacy fun key =>
    not_or.mpr ⟨forgetMarks_deleted key.1, forgetMarks_deleted key.2⟩
  events := forgetMarks_tracks _ _ accounts.events forgetMarks_deleted
  eventsUnmarked id marked := accounts.eventsUnmarked id marked

theorem onWorld_ensures {α : Type} {before : TurnWorld → Prop} {after : α → TurnWorld → Prop}
    {operation : WorldM α} (ensured : Ensures before operation after) :
    Ensures (fun world : InMemoryTurnWorld => before world.toTurnWorld) (onWorld operation)
      fun value world => after value world.toTurnWorld := by
  intro world held value next performed
  obtain ⟨given, rfl⟩ := Prod.mk.inj performed
  exact ensured world.toTurnWorld held value _ (Prod.ext given rfl)

theorem onWorld_keeps {α : Type} {before after : TurnWorld → Prop} {operation : WorldM α} (wrap : α → WorldResult)
    (ensured : Ensures before operation fun _ => after) :
    Ensures (fun world : InMemoryTurnWorld => before world.toTurnWorld)
      (onWorld do return wrap (← operation)) fun _ world => after world.toTurnWorld :=
  onWorld_ensures (ensured.seq fun _ => Ensures.pure fun _ held => held)

theorem addGeneral_keepsAccount {id : Int} (general : General) :
    Ensures (fun world : InMemoryTurnWorld => Accounts tables world.toTurnWorld ∧ id ∉ world.generals.deleted)
      (addGeneral id general) fun _ world => Accounts tables world.toTurnWorld := by
  refine Ensures.read fun world held => ?_
  obtain ⟨accounts, kept⟩ := held
  split
  · exact Ensures.pure fun state same => same ▸ accounts
  · rename_i free
    refine Ensures.attempt fun normalized _ => ?_
    let Unchanged : InMemoryTurnWorld → Prop := fun state => state.toTurnWorld = world.toTurnWorld
    -- The counter is no row.
    have counted (order : Int) : Ensures (fun state => state = world)
        (modify fun world => { world with nextLegacyGeneralScanOrder := order } :
          Effect String InMemoryTurnWorld PUnit) fun _ => Unchanged := by
      refine Ensures.modify ?_
      rintro state rfl
      rfl
    refine Ensures.seq (counted _) fun _ => Ensures.attempt fun ensured _ => ensures_modify_pure ?_
    intro state same
    have rows : state.generals = world.generals := congrArg TurnWorld.generals same
    have accounted : Accounts tables state.toTurnWorld := by rw [same]; exact accounts
    have absent : state.generals.rows.has id = false := by rw [rows]; simpa using free
    exact { accounted with generals := accounted.generals.insert absent (by rw [rows]; exact kept) }

theorem operation_keeps (options : WorldOptions) (operation : WorldOperation) :
    Ensures (fun world : InMemoryTurnWorld => Accounts tables world.toTurnWorld ∧
        FlushSafe ⟨world, tables⟩ (.operate operation))
      (operation.run options) fun _ world => Accounts tables world.toTurnWorld := by
  -- Most operations need nothing but the account.
  have always {α : Type} {body : WorldM α} (wrap : α → WorldResult) (keeps : KeepsAccount tables body) :
      Ensures (fun world : InMemoryTurnWorld => Accounts tables world.toTurnWorld ∧ True)
        (onWorld do return wrap (← body)) fun _ world => Accounts tables world.toTurnWorld :=
    (onWorld_keeps wrap keeps).mono (fun _ held => held.1) fun _ _ accounts => accounts
  cases operation with
  | addGeneral id general =>
    exact (addGeneral_keepsAccount general).seq fun _ => Ensures.pure fun _ accounts => accounts
  | addNation id nation => exact onWorld_keeps .flag (addNation_keeps nation)
  | addEvent id event => exact onWorld_keeps .flag (addEvent_keeps event)
  | createTroop id troop => exact onWorld_keeps .troop (createTroop_keeps troop)
  | applyDiplomacyPatch key patch =>
    exact onWorld_keeps (fun _ => .done) (applyDiplomacyPatch_keeps patch)
  | executeGeneralTurn id general result => exact onWorld_keeps .execution (executeGeneralTurn_keeps options general)
  | updateGeneral id patch => exact always .general (updateGeneral_keeps id patch)
  | removeGeneral id => exact always .flag (removeGeneral_keeps id)
  | deleteGeneralWithLifecycle id year month => exact always .flag (deleteGeneralWithLifecycle_keeps id year month)
  | updateNation id patch => exact always .nation (updateNation_keeps id patch)
  | removeNation id => exact always .flag (removeNation_keeps id)
  | collapseNation id => exact always .flag (collapseNation_keeps options id)
  | dissolveNationWithoutSuccessor id dyingLordId =>
    exact always .flag (dissolveNationWithoutSuccessor_keeps options id dyingLordId)
  | updateCity id patch => exact always .city (updateCity_keeps id patch)
  | updateTroop id patch => exact always .troop (updateTroop_keeps id patch)
  | removeTroop id => exact always .flag (removeTroop_keeps id)
  | removeEvent id => exact always .flag (removeEvent_keeps id)
  | getDiplomacyEntry sourceId targetId => exact always .relation (getDiplomacyEntry_keeps sourceId targetId)
  | listDiplomacy => exact always .relations listDiplomacy_keeps
  | advanceDiplomacyMonth generalCounts => exact always (fun _ => .done) (advanceDiplomacyMonth_keeps generalCounts)
  | advanceMonth turnTime => exact always (fun _ => .done) (advanceMonth_keeps options turnTime)
  | getNextNationId => exact always .id getNextNationId_keeps
  | getNextEventId => exact always .id getNextEventId_keeps
  | getNextGeneralId => exact always .id getNextGeneralId_keeps
  | setLastTurnTime turnTime => exact always (fun _ => .done) (setLastTurnTime_keeps turnTime)
  | setCheckpoint checkpoint => exact always (fun _ => .done) (setCheckpoint_keeps checkpoint)
  | updateWorldMeta patch => exact always (fun _ => .done) (updateWorldMeta_keeps patch)
  | updateWorldConfig patch => exact always (fun _ => .done) (updateWorldConfig_keeps patch)
  | markGeneralAccessScoreReset id => exact always (fun _ => .done) (markGeneralAccessScoreReset_keeps id)
  | replaceGeneralPoolEntries entries => exact always (fun _ => .done) (replaceGeneralPoolEntries_keeps entries)
  | pushLog entry occurredAt => exact always (fun _ => .done) (pushLog_keeps entry occurredAt)
  | queue journal draft => exact always (fun _ => .done) (queue_keeps journal draft)
  | queueNeutralAuction auction => exact always (fun _ => .done) (queueNeutralAuction_keeps auction)
  | queueInheritancePointAdjustment userId key amount phase =>
    exact always (fun _ => .done) (queueInheritancePointAdjustment_keeps userId key amount phase)
  | queueInheritanceLog userId text rest =>
    exact always (fun _ => .done) (queueInheritanceLog_keeps userId text rest)

theorem TurnStore.Loaded.accounts {store : TurnStore} (loaded : store.Loaded) :
    Accounts store.tables store.world.toTurnWorld := by
  obtain ⟨same, generals, cities, nations, troops, diplomacy, events⟩ := loaded
  rw [same]
  constructor
  · rw [generals]
    exact WriteBehind.tracks_clean (fun _ => rfl) fun key => OrderedSet.not_mem_empty key
  · rw [cities]
    exact WriteBehind.tracks_clean (fun _ => rfl) fun _ => id
  · rw [cities]
    exact OrderedSet.not_mem_empty
  · rw [nations]
    exact WriteBehind.tracks_clean (fun _ => rfl) fun key => OrderedSet.not_mem_empty key
  · rw [troops]
    exact WriteBehind.tracks_clean (fun _ => rfl) fun key => OrderedSet.not_mem_empty key
  · rw [diplomacy, nations]
    exact WriteBehind.tracks_clean (fun _ => rfl) fun key =>
      not_or.mpr ⟨OrderedSet.not_mem_empty key.1, OrderedSet.not_mem_empty key.2⟩
  · rw [events]
    exact WriteBehind.tracks_clean (fun _ => rfl) fun key => OrderedSet.not_mem_empty key
  · rw [events]
    exact OrderedSet.not_mem_empty

theorem step_accounts {options : WorldOptions} {store next : TurnStore} {event : StoreEvent}
    {output : StoreOutput} (accounts : Accounts store.tables store.world.toTurnWorld)
    (safe : FlushSafe store event) (stepped : (turnStore options).step store event = some (next, output)) :
    Accounts next.tables next.world.toTurnWorld := by
  cases event with
  | operate operation =>
    obtain ⟨rfl, -⟩ := Prod.mk.inj (Option.some.inj stepped)
    dsimp only
    split
    · rename_i value world performed
      exact operation_keeps options operation store.world ⟨accounts, safe⟩ value world performed
    · -- A failed operation is taken back, down to the rows it started from.
      exact accounts
  | flush =>
    obtain ⟨rfl, -⟩ := Prod.mk.inj (Option.some.inj stepped)
    simp only [accounts.persist]
    exact accounts.acknowledge

/-- A scenario event. -/
def scenarioEvent : TurnEvent := ⟨"month", 0, .null, .null, []⟩

/-- A world that has just opened with one scenario event, as it is loaded from its tables. -/
def eventStore : TurnStore :=
  let world : InMemoryTurnWorld := { opening with events := .clean (OrderedMap.empty.set 1 scenarioEvent) }
  ⟨world, world.tables⟩

theorem eventStore_loaded : eventStore.Loaded := ⟨rfl, rfl, rfl, rfl, rfl, rfl, rfl⟩

end Sammo
