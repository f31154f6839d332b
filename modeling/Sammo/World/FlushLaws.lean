import Sammo.World.Flush

/-! Every operation on the world keeps its journals accounting for the tables behind it. -/

namespace Sammo

open Effect

/-- The journal of each kind of rows accounts for the differences from its table. -/
structure Accounts (tables : WorldTables) (world : TurnWorld) : Prop where
  generals : world.generals.Tracks (· ∈ world.generals.deleted) tables.generals
  cities : world.cities.Tracks (fun _ => False) tables.cities
  /-- No city is ever created. -/
  citiesGiven : ∀ id, id ∉ world.cities.created
  nations : world.nations.Tracks (· ∈ world.nations.deleted) tables.nations
  troops : world.troops.Tracks (· ∈ world.troops.deleted) tables.troops
  /-- A relation goes with either of its nations. -/
  diplomacy : world.diplomacy.Tracks
    (fun key => key.1 ∈ world.nations.deleted ∨ key.2 ∈ world.nations.deleted) tables.diplomacy
  events : world.events.Tracks (· ∈ world.events.deleted) tables.events
  /-- No event is ever changed. -/
  eventsUnmarked : ∀ id, id ∉ world.events.dirty

variable {tables : WorldTables} {world : TurnWorld}

/-- An operation that keeps the account. -/
abbrev KeepsAccount {α : Type} (tables : WorldTables) (operation : WorldM α) : Prop :=
  Ensures (Accounts tables) operation fun _ => Accounts tables

namespace Accounts

theorem insertRelation (accounts : Accounts tables world) {key : DiplomacyKey} {entry : TurnDiplomacy}
    (free : world.diplomacy.rows.has key = false) (kept : world.BetweenKept key) :
    Accounts tables { world with diplomacy := world.diplomacy.insert key entry } :=
  { accounts with
    diplomacy := accounts.diplomacy.insert free fun lost => lost.elim kept.1 kept.2 }

theorem nation_kept (accounts : Accounts tables world) {id : Int}
    (present : world.nations.rows.has id = true) : id ∉ world.nations.deleted := by
  intro lost
  have absent := accounts.nations.gone_absent id lost
  simp [OrderedMap.has, absent] at present

theorem removeGeneral (accounts : Accounts tables world) (id : Int) :
    Accounts tables { world with generals := world.generals.remove id } :=
  { accounts with
    generals := accounts.generals.remove.congr fun other => by simp [WriteBehind.remove, or_comm] }

theorem removeTroop (accounts : Accounts tables world) (id : Int) :
    Accounts tables { world with troops := world.troops.remove id } :=
  { accounts with
    troops := accounts.troops.remove.congr fun other => by simp [WriteBehind.remove, or_comm] }

end Accounts

namespace TurnWorld

theorem has_of_get? {κ ν : Type} [DecidableEq κ] {rows : OrderedMap κ ν} {key : κ} {row : ν}
    (got : rows.get? key = some row) : rows.has key = true := by
  simp [OrderedMap.has, got]

theorem dropRelations_spec (id : Int) (diplomacy : WriteBehind DiplomacyKey TurnDiplomacy)
    (key : DiplomacyKey) :
    ((dropRelations id diplomacy).rows.get? key =
      if concernsNation id key ∧ diplomacy.rows.has key then none else diplomacy.rows.get? key) ∧
    (key ∈ (dropRelations id diplomacy).created ↔
      ¬ (concernsNation id key ∧ diplomacy.rows.has key) ∧ key ∈ diplomacy.created) ∧
    (key ∈ (dropRelations id diplomacy).dirty ↔
      ¬ (concernsNation id key ∧ diplomacy.rows.has key) ∧ key ∈ diplomacy.dirty) := by
  -- The loop drops the listed keys, whatever they are.
  have dropped (keys : List DiplomacyKey) (copy : WriteBehind DiplomacyKey TurnDiplomacy) :
      let final := keys.foldl (fun diplomacy key => { diplomacy with
        rows := diplomacy.rows.erase key, dirty := diplomacy.dirty.erase key
        created := diplomacy.created.erase key }) copy
      (final.rows.get? key = if key ∈ keys then none else copy.rows.get? key) ∧
        (key ∈ final.created ↔ key ∉ keys ∧ key ∈ copy.created) ∧
        (key ∈ final.dirty ↔ key ∉ keys ∧ key ∈ copy.dirty) := by
    induction keys generalizing copy with
    | nil => simp
    | cons first rest ih =>
      obtain ⟨rows, created, dirty⟩ := ih { copy with
        rows := copy.rows.erase first, dirty := copy.dirty.erase first, created := copy.created.erase first }
      simp only [List.foldl_cons]
      rw [rows, created, dirty]
      by_cases same : key = first
      · simp [same]
      · simp [same]
  have listed : key ∈ diplomacy.rows.keys.filter (fun key => concernsNation id key) ↔
      concernsNation id key ∧ diplomacy.rows.has key := by
    rw [List.mem_filter, OrderedMap.mem_keys, decide_eq_true_eq, and_comm]
  have applied := dropped (diplomacy.rows.keys.filter fun key => concernsNation id key) diplomacy
  simp only [listed] at applied
  exact applied

theorem removeNation_keeps (id : Int) : KeepsAccount tables (removeNation id) := by
  refine Ensures.read fun world accounts => ?_
  split
  · refine ensures_modify_pure ?_
    rintro state rfl
    refine { accounts with nations := ?_, diplomacy := ?_ }
    · exact accounts.nations.remove.congr fun other => by simp [WriteBehind.remove, or_comm]
    · -- Every relation of the nation is out of the rows, and exactly those are newly gone.
      have dropped := dropRelations_spec id state.diplomacy
      refine WriteBehind.Tracks.congr (accounts.diplomacy.erase (fun key => ?_) (fun key => ?_) fun key => ?_)
        fun key => show _ ↔ _ ∨ concernsNation id key from ?_
      · rw [(dropped key).1]
        by_cases concerns : concernsNation id key
        · simp only [concerns, true_and, not_true_eq_false, false_and, or_false]
          split
          · rfl
          · rename_i absent
            exact OrderedMap.get?_eq_none.mpr (by simpa using absent)
        · simp [concerns]
      · rw [(dropped key).2.1]
        by_cases concerns : concernsNation id key
        · simp only [concerns, true_and, not_true_eq_false, false_and, iff_false, not_and]
          intro unlisted created
          exact unlisted (accounts.diplomacy.created_new key created).1
        · simp [concerns]
      · intro kept marked
        exact (dropped key).2.2.mpr ⟨fun both => kept both.1, marked⟩
      · simp only [WriteBehind.remove, OrderedSet.mem_add, concernsNation]
        tauto
  · refine Ensures.pure ?_
    rintro state rfl
    exact accounts

theorem fillDiplomacyMatrix_spec (accounts : Accounts tables world) :
    Accounts tables (fillDiplomacyMatrix world) ∧ (fillDiplomacyMatrix world).nations = world.nations ∧
      (fillDiplomacyMatrix world).generals = world.generals ∧
      (fillDiplomacyMatrix world).troops = world.troops ∧ (fillDiplomacyMatrix world).cities = world.cities := by
  let Kept : TurnWorld → Prop := fun state => Accounts tables state ∧ state.nations = world.nations ∧
    state.generals = world.generals ∧ state.troops = world.troops ∧ state.cities = world.cities
  refine List.foldlRecOn (motive := Kept) _ _ ⟨accounts, rfl, rfl, rfl, rfl⟩ ?_
  intro state held key listed
  obtain ⟨accounts, nations, generals, troops, cities⟩ := held
  -- Both nations of a listed key are in the world.
  obtain ⟨source, fromNation, inner⟩ := List.mem_flatMap.mp listed
  obtain ⟨target, toNation, rfl⟩ := List.mem_map.mp inner
  rw [OrderedMap.mem_keys, ← nations] at fromNation toNation
  split
  · exact ⟨accounts, nations, generals, troops, cities⟩
  · rename_i needed
    have free : state.diplomacy.rows.has (source, target) = false := by
      simpa using fun there => needed (.inr there)
    exact ⟨accounts.insertRelation free ⟨accounts.nation_kept fromNation, accounts.nation_kept toNation⟩,
      nations, generals, troops, cities⟩

theorem ensureDiplomacyMatrix_keeps : KeepsAccount tables ensureDiplomacyMatrix :=
  Ensures.modify fun _ accounts => (fillDiplomacyMatrix_spec accounts).1

theorem getDiplomacyEntry_keeps (sourceId targetId : Int) :
    KeepsAccount tables (getDiplomacyEntry sourceId targetId) := by
  refine Ensures.read fun world accounts => ?_
  cases got : world.diplomacy.rows.get? (sourceId, targetId) with
  | some entry => exact Ensures.pure fun state same => same ▸ accounts
  | none =>
    dsimp only
    split
    · -- A relation is created only between two nations that are there.
      rename_i valid
      refine ensures_modify_pure ?_
      rintro state rfl
      exact accounts.insertRelation (OrderedMap.get?_eq_none.mp got)
        ⟨accounts.nation_kept valid.2.1, accounts.nation_kept valid.2.2⟩
    · exact Ensures.pure fun state same => same ▸ accounts

theorem listDiplomacy_lists : Ensures (Accounts tables) listDiplomacy fun entries world =>
    Accounts tables world ∧ ∀ entry ∈ entries, world.diplomacy.rows.has entry.1 = true := by
  refine Ensures.seq ensureDiplomacyMatrix_keeps fun _ => Ensures.read fun world accounts => ?_
  refine Ensures.pure ?_
  rintro state rfl
  refine ⟨accounts, fun entry listed => ?_⟩
  exact has_of_get? (OrderedMap.mem_entries.mp listed)

theorem listDiplomacy_keeps : KeepsAccount tables listDiplomacy :=
  listDiplomacy_lists.mono (fun _ accounts => accounts) fun _ _ held => held.1

theorem applyDiplomacyPatch_keeps {key : DiplomacyKey} (patch : DiplomacyPatch) :
    Ensures (fun world => Accounts tables world ∧ world.BetweenKept key) (applyDiplomacyPatch key patch)
      fun _ => Accounts tables := by
  refine Ensures.modify fun world held => ?_
  obtain ⟨accounts, kept⟩ := held
  cases got : world.diplomacy.rows.get? key with
  | some base => exact { accounts with diplomacy := accounts.diplomacy.put (has_of_get? got) }
  | none => exact accounts.insertRelation (OrderedMap.get?_eq_none.mp got) kept

theorem advanceDiplomacyMonth_keeps (generalCounts : Option (Int → Option Int)) :
    KeepsAccount tables (advanceDiplomacyMonth generalCounts) := by
  refine Ensures.read fun world accounts => ?_
  split
  · exact Ensures.pure fun state same => same ▸ accounts
  refine Ensures.bind (listDiplomacy_lists.mono (fun state same => same ▸ accounts) fun _ _ held => held)
    fun entries => ?_
  -- The month keeps the keys, so every relation it writes is there.
  refine Ensures.mono (Ensures.forM fun item listed => ?_)
    (fun state held => show Accounts tables state ∧
      ∀ entry ∈ processDiplomacyMonth entries (generalCounts.getD world.countGenerals),
        state.diplomacy.rows.has entry.1 = true from ?_) fun _ _ held => held.1
  · refine Ensures.modify fun state held => ?_
    obtain ⟨accounts, there⟩ := held
    obtain ⟨previous, got⟩ := Option.isSome_iff_exists.mp (there item listed)
    simp only [got]
    split
    · exact ⟨accounts, there⟩
    · refine ⟨{ accounts with diplomacy := accounts.diplomacy.put (has_of_get? got) }, fun entry member => ?_⟩
      simp [WriteBehind.put, there entry member]
  · refine ⟨held.1, fun entry member => ?_⟩
    have key : entry.1 ∈ entries.map Prod.fst := by
      rw [← processDiplomacyMonth_keys entries (generalCounts.getD world.countGenerals)]
      exact List.mem_map_of_mem member
    obtain ⟨listed, isListed, same⟩ := List.mem_map.mp key
    rw [← same]
    exact held.2 listed isListed

theorem updateGeneral_keeps (id : Int) (patch : GeneralPatch) : KeepsAccount tables (updateGeneral id patch) := by
  refine Ensures.read fun world accounts => ?_
  cases got : world.generals.rows.get? id with
  | none => exact Ensures.pure fun state same => same ▸ accounts
  | some target =>
    refine Ensures.attempt fun next _ => ensures_modify_pure ?_
    rintro state rfl
    exact { accounts with generals := accounts.generals.put (has_of_get? got) }

theorem addNation_keeps {id : Int} (nation : Nation) :
    Ensures (fun world => Accounts tables world ∧ id ∉ world.nations.deleted) (addNation id nation)
      fun _ => Accounts tables := by
  refine Ensures.read fun world held => ?_
  obtain ⟨accounts, kept⟩ := held
  split
  · exact Ensures.pure fun state same => same ▸ accounts
  · rename_i free
    refine Ensures.seq (Ensures.modify ?_) fun _ =>
      Ensures.seq ensureDiplomacyMatrix_keeps fun _ => Ensures.pure fun _ accounts => accounts
    rintro state rfl
    exact { accounts with nations := accounts.nations.insert (by simpa using free) kept }

theorem removeGeneral_removes (id : Int) : Ensures (Accounts tables) (removeGeneral id) fun _ world =>
    Accounts tables world ∧ world.generals.rows.get? id = none := by
  refine Ensures.read fun world accounts => ?_
  split
  · refine ensures_modify_pure ?_
    rintro state rfl
    exact ⟨accounts.removeGeneral id, by simp [WriteBehind.remove]⟩
  · rename_i absent
    refine Ensures.pure ?_
    rintro state rfl
    exact ⟨accounts, OrderedMap.get?_eq_none.mpr (by simpa using absent)⟩

theorem removeGeneral_keeps (id : Int) : KeepsAccount tables (removeGeneral id) :=
  (removeGeneral_removes id).mono (fun _ accounts => accounts) fun _ _ held => held.1

theorem deleteGeneralWithLifecycle_keeps (id year month : Int) :
    KeepsAccount tables (deleteGeneralWithLifecycle id year month) := by
  refine Ensures.read fun world accounts => ?_
  cases world.generals.rows.get? id with
  | none => exact Ensures.pure fun state same => same ▸ accounts
  | some general =>
    refine Ensures.seq (Ensures.modify ?_) fun _ => removeGeneral_keeps id
    rintro state rfl
    exact { accounts with }

theorem updateCity_keeps (id : Int) (patch : CityPatch) : KeepsAccount tables (updateCity id patch) := by
  refine Ensures.read fun world accounts => ?_
  cases got : world.cities.rows.get? id with
  | none => exact Ensures.pure fun state same => same ▸ accounts
  | some target =>
    refine ensures_modify_pure ?_
    rintro state rfl
    exact { accounts with cities := accounts.cities.put (has_of_get? got) }

theorem updateNation_keeps (id : Int) (patch : NationPatch) : KeepsAccount tables (updateNation id patch) := by
  refine Ensures.read fun world accounts => ?_
  cases got : world.nations.rows.get? id with
  | none => exact Ensures.pure fun state same => same ▸ accounts
  | some target =>
    refine ensures_modify_pure ?_
    rintro state rfl
    exact { accounts with nations := accounts.nations.put (has_of_get? got) }

theorem updateTroop_keeps (id : Int) (patch : TroopPatch) : KeepsAccount tables (updateTroop id patch) := by
  refine Ensures.read fun world accounts => ?_
  cases got : world.troops.rows.get? id with
  | none => exact Ensures.pure fun state same => same ▸ accounts
  | some target =>
    refine ensures_modify_pure ?_
    rintro state rfl
    exact { accounts with troops := accounts.troops.put (has_of_get? got) }

theorem removeTroop_keeps (id : Int) : KeepsAccount tables (removeTroop id) := by
  refine Ensures.read fun world accounts => ?_
  split
  · refine ensures_modify_pure ?_
    rintro state rfl
    exact accounts.removeTroop id
  · exact Ensures.pure fun state same => same ▸ accounts

theorem createTroop_keeps {id : Int} (troop : Troop) :
    Ensures (fun world => Accounts tables world ∧ (id ∈ world.troops.deleted → tables.troops id = none))
      (createTroop id troop) fun _ => Accounts tables := by
  refine Ensures.read fun world held => ?_
  obtain ⟨accounts, unstored⟩ := held
  split
  · exact Ensures.pure fun state same => same ▸ accounts
  · rename_i free
    have absent : world.troops.rows.has id = false := by simpa using free
    -- What the table has under this id would have been removed.
    have new : tables.troops id = none := by
      by_contra stored
      exact stored (unstored (accounts.troops.removed id (OrderedMap.get?_eq_none.mpr absent) stored))
    refine ensures_modify_pure ?_
    rintro state rfl
    refine { accounts with troops := ?_ }
    refine WriteBehind.Tracks.congr ((accounts.troops.forgive new).create absent (fun lost => lost.2 rfl)
      (fun other => OrderedMap.get?_set _ _ _ _) (fun other => OrderedSet.mem_add)
      fun other marked => OrderedSet.mem_add.mpr (.inr marked)) fun other => ?_
    simp [and_comm]

theorem addEvent_keeps {id : Int} (event : TurnEvent) :
    Ensures (fun world => Accounts tables world ∧ id ∉ world.events.deleted) (addEvent id event)
      fun _ => Accounts tables := by
  refine Ensures.read fun world held => ?_
  obtain ⟨accounts, kept⟩ := held
  split
  · exact Ensures.pure fun state same => same ▸ accounts
  · rename_i free
    refine ensures_modify_pure ?_
    rintro state rfl
    refine { accounts with events := ?_ }
    exact accounts.events.create (by simpa using free) kept (fun other => OrderedMap.get?_set _ _ _ _)
      (fun other => OrderedSet.mem_add) fun other marked => marked

theorem removeEvent_keeps (id : Int) : KeepsAccount tables (removeEvent id) := by
  refine Ensures.read fun world accounts => ?_
  split
  · rename_i present
    refine ensures_modify_pure ?_
    rintro state rfl
    dsimp only
    have kept : id ∉ state.events.deleted := fun lost => by
      simp [OrderedMap.has, accounts.events.gone_absent id lost] at present
    split
    · rename_i created
      have erased : ({ state.events with
          rows := state.events.rows.erase id, created := state.events.created.erase id } :
            WriteBehind Int TurnEvent).Tracks (fun key => key ∈ state.events.deleted ∨ key = id) tables.events := by
        refine accounts.events.erase (fun key => ?_) (fun key => ?_) fun key _ marked => marked
        · by_cases same : key = id <;> simp [same]
        · simp
      refine { accounts with
        events := (erased.forgive (accounts.events.created_new id created).2).congr fun key => ?_ }
      -- The id itself was not among the removed ones before.
      constructor
      · intro lost
        exact ⟨.inl lost, fun same => kept (same ▸ lost)⟩
      · rintro ⟨lost | same, differs⟩
        · exact lost
        · exact absurd same differs
    · refine { accounts with
        events := WriteBehind.Tracks.congr (accounts.events.erase (fun key => ?_) (fun key => ?_)
          fun key _ marked => marked) fun key => show _ ↔ _ ∨ key = id from ?_ }
      · by_cases same : key = id <;> simp [same]
      · rename_i uncreated
        constructor
        · intro member
          exact ⟨fun same => uncreated (same ▸ member), member⟩
        · exact fun both => both.2
      · simp [or_comm]
  · exact Ensures.pure fun state same => same ▸ accounts

theorem getNextNationId_keeps : KeepsAccount tables getNextNationId := by
  refine Ensures.read fun world accounts => ensures_modify_pure ?_
  rintro state rfl
  exact { accounts with }

theorem getNextEventId_keeps : KeepsAccount tables getNextEventId :=
  Ensures.read fun _ accounts => Ensures.pure fun _ same => same ▸ accounts

theorem getNextGeneralId_keeps : KeepsAccount tables getNextGeneralId := by
  refine Ensures.read fun world accounts => ensures_modify_pure ?_
  rintro state rfl
  exact { accounts with }

theorem setLastTurnTime_keeps (turnTime : Int) : KeepsAccount tables (setLastTurnTime turnTime) := by
  refine Ensures.read fun world accounts => Ensures.attempt fun _ _ => Ensures.attempt fun _ _ => ?_
  refine Ensures.modify ?_
  rintro state rfl
  exact { accounts with }

theorem setCheckpoint_keeps (checkpoint : Option TurnCheckpoint) :
    KeepsAccount tables (setCheckpoint checkpoint) :=
  ensures_change fun _ accounts => { accounts with }

theorem updateWorldMeta_keeps (patch : Record) : KeepsAccount tables (updateWorldMeta patch) :=
  ensures_change fun _ accounts => { accounts with }

theorem updateWorldConfig_keeps (patch : Record) : KeepsAccount tables (updateWorldConfig patch) :=
  ensures_change fun _ accounts => { accounts with }

theorem markGeneralAccessScoreReset_keeps (id : Int) :
    KeepsAccount tables (markGeneralAccessScoreReset id) := by
  refine ensures_change fun world accounts => ?_
  split
  · exact { accounts with }
  · exact accounts

theorem replaceGeneralPoolEntries_keeps (entries : List TurnGeneralPoolEntry) :
    KeepsAccount tables (replaceGeneralPoolEntries entries) :=
  ensures_change fun _ accounts => { accounts with }

theorem pushLog_keeps (entry : LogEntryDraft) (occurredAt : Option Int) :
    KeepsAccount tables (pushLog entry occurredAt) :=
  ensures_change fun _ accounts => { accounts with }

theorem queue_keeps (journal : Journal) (draft : Json) : KeepsAccount tables (queue journal draft) :=
  ensures_change fun _ accounts => { accounts with }

theorem queueNeutralAuction_keeps (auction : PendingNeutralAuction) :
    KeepsAccount tables (queueNeutralAuction auction) :=
  ensures_change fun _ accounts => { accounts with }

theorem queueInheritancePointAdjustment_keeps (userId key : String) (amount : ℚ) (phase : Option String) :
    KeepsAccount tables (queueInheritancePointAdjustment userId key amount phase) := by
  unfold queueInheritancePointAdjustment
  split
  · exact Ensures.pure fun _ accounts => accounts
  · exact queue_keeps _ _

theorem queueInheritanceLog_keeps (userId text : String) (rest : Record) :
    KeepsAccount tables (queueInheritanceLog userId text rest) := by
  unfold queueInheritanceLog
  split
  · exact Ensures.pure fun _ accounts => accounts
  · exact queue_keeps _ _

end TurnWorld

end Sammo
