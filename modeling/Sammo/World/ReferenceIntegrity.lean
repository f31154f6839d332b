import Sammo.World.FlushRefinement
import Sammo.World.TurnReferences

/-! In every run whose steps bring in no dead reference, the rows refer to nations that are in the world. -/

namespace Sammo

open Effect InMemoryTurnWorld TurnWorld

variable {options : WorldOptions} {world : TurnWorld}

/-- An operation that keeps the rows sound. -/
abbrev KeepsSound {α : Type} (options : WorldOptions) (operation : WorldM α) : Prop :=
  Ensures (Sound options none) operation fun _ => Sound options none

namespace TurnWorld

theorem modify_sound {change : TurnWorld → TurnWorld}
    (rows : ∀ world, (change world).generals = world.generals ∧ (change world).cities = world.cities ∧
      (change world).troops = world.troops ∧ (change world).diplomacy = world.diplomacy ∧
      (change world).nations = world.nations) : KeepsSound options (modify change) :=
  keepsSound fun _ => modify_references rows

theorem ensureDiplomacyMatrix_sound : KeepsSound options ensureDiplomacyMatrix := by
  apply Ensures.modify
  intro world held
  exact (held.toRowsWithin.fill fun _ there => there).sound

theorem addNation_sound (id : Int) (nation : Nation) : KeepsSound options (addNation id nation) := by
  apply Ensures.read
  intro world held
  split
  · exact Ensures.pure fun state same => same ▸ held
  · -- The nations of the world and the new one may be referred to once it is there.
    let Wider : Int → Prop := fun other => world.Live other ∨ other = id
    have added : Ensures (fun state => state = world)
        (modify fun world => { world with nations := world.nations.insert id nation } : WorldM PUnit)
        fun _ => RowsWithin options none Wider Wider := by
      apply Ensures.modify
      intro state same
      subst same
      refine { held.wider none fun _ there => .inl there with nations := ?_ }
      intro other
      simp only [Wider, Live, WriteBehind.insert, OrderedMap.has_set, Bool.or_eq_true, decide_eq_true_eq]
      exact or_comm
    refine added.seq fun _ => Ensures.seq (Ensures.modify fun state rows => ?_) fun _ =>
      Ensures.pure fun _ sound => sound
    exact (rows.fill fun _ there => there).sound

theorem listDiplomacy_sound : Ensures (Sound options none) listDiplomacy fun entries world =>
    Sound options none world ∧ ∀ entry ∈ entries, world.diplomacy.rows.has entry.1 = true := by
  refine Ensures.seq ensureDiplomacyMatrix_sound fun _ => Ensures.read fun world held => ?_
  apply Ensures.pure
  intro state same
  subst same
  refine ⟨held, ?_⟩
  intro entry listed
  exact has_of_get? (OrderedMap.mem_entries.mp listed)

theorem advanceDiplomacyMonth_sound (generalCounts : Option (Int → Option Int)) :
    KeepsSound options (advanceDiplomacyMonth generalCounts) := by
  apply Ensures.read
  intro world held
  split
  · exact Ensures.pure fun state same => same ▸ held
  refine Ensures.bind (listDiplomacy_sound.mono (fun state same => same ▸ held) fun _ _ listed => listed)
    fun entries => ?_
  -- The month keeps the keys, so every relation it writes is there.
  let Listed : TurnWorld → Prop := fun state => Sound options none state ∧
    ∀ entry ∈ processDiplomacyMonth entries (generalCounts.getD world.countGenerals),
      state.diplomacy.rows.has entry.1 = true
  refine Ensures.mono (Ensures.forM fun item member => ?_) (fun state kept => show Listed state from ?_)
    fun _ _ kept => kept.1
  · apply Ensures.modify
    intro state kept
    obtain ⟨sound, there⟩ := kept
    obtain ⟨previous, got⟩ := Option.isSome_iff_exists.mp (there item member)
    simp only [got]
    split
    · exact ⟨sound, there⟩
    · refine ⟨(sound.setRelation rfl (.inl (there item member))).sound, ?_⟩
      intro entry listed
      simp [WriteBehind.put, there entry listed]
  · refine ⟨kept.1, ?_⟩
    intro entry member
    have key : entry.1 ∈ entries.map Prod.fst := by
      rw [← processDiplomacyMonth_keys entries (generalCounts.getD world.countGenerals)]
      exact List.mem_map_of_mem member
    obtain ⟨listed, isListed, same⟩ := List.mem_map.mp key
    rw [← same]
    exact kept.2 listed isListed

theorem advanceMonth_sound (turnTime : Int) : KeepsSound options (advanceMonth options turnTime) := by
  apply Ensures.read
  intro world held
  refine Ensures.mono ?_ (fun state same => same ▸ held) fun _ _ sound => sound
  refine Ensures.attempt fun _ _ => Ensures.attempt fun _ _ => Ensures.attempt fun _ _ => ?_
  refine Ensures.seq (modify_sound fun _ => ⟨rfl, rfl, rfl, rfl, rfl⟩) fun _ => ?_
  split
  · exact advanceDiplomacyMonth_sound none
  · exact Ensures.pure fun _ sound => sound

theorem setLastTurnTime_sound (turnTime : Int) : KeepsSound options (setLastTurnTime turnTime) := by
  apply Ensures.read
  intro world held
  refine Ensures.mono ?_ (fun state same => same ▸ held) fun _ _ sound => sound
  refine Ensures.attempt fun _ _ => Ensures.attempt fun _ _ => ?_
  exact modify_sound fun _ => ⟨rfl, rfl, rfl, rfl, rfl⟩

theorem addEvent_sound (id : Int) (event : TurnEvent) : KeepsSound options (addEvent id event) := by
  apply Ensures.read
  intro world held
  split
  · exact Ensures.pure fun state same => same ▸ held
  · exact ensures_modify_pure fun state same => { same ▸ held with }

theorem removeEvent_sound (id : Int) : KeepsSound options (removeEvent id) := by
  apply Ensures.read
  intro world held
  split
  · exact ensures_modify_pure fun state same => { same ▸ held with }
  · exact Ensures.pure fun state same => same ▸ held

theorem getNextNationId_sound : KeepsSound options getNextNationId := by
  apply Ensures.read
  intro world held
  exact ensures_modify_pure fun state same => { same ▸ held with }

theorem getNextGeneralId_sound : KeepsSound options getNextGeneralId := by
  apply Ensures.read
  intro world held
  exact ensures_modify_pure fun state same => { same ▸ held with }

end TurnWorld

/--
An operation brings in no reference to a nation that is not in the world, and takes no nation away that is still
referred to.
-/
def RefersToLive (options : WorldOptions) (store : TurnStore) : StoreEvent → Prop
  | .operate (.addGeneral id general) =>
    store.world.generals.rows.has id = false → Belongs store.world.Live general.nationId
  | .operate (.updateGeneral _ patch) => ∀ nationId ∈ patch.nationId, Belongs store.world.Live nationId
  | .operate (.updateCity _ patch) => CityPatchBelongs options store.world.Live patch
  | .operate (.createTroop id troop) =>
    store.world.troops.rows.has id = false → Belongs store.world.Live troop.nationId
  | .operate (.updateTroop _ patch) => ∀ nationId ∈ patch.nationId, Belongs store.world.Live nationId
  | .operate (.applyDiplomacyPatch key _) => store.world.Live key.1 ∧ store.world.Live key.2
  | .operate (.executeGeneralTurn id general result) =>
    RefersToKnown options store.world.toTurnWorld id general result
  -- A nation that is only removed takes nothing along but its relations.
  | .operate (.removeNation id) => Unreferred options none id store.world.toTurnWorld
  -- A nation that collapses leaves its cities behind.
  | .operate (.collapseNation id) => Unowned id store.world.toTurnWorld
  | _ => True

theorem addGeneral_sound {id : Int} {general : General} :
    Ensures (fun world : InMemoryTurnWorld => Sound options none world.toTurnWorld ∧
        (world.generals.rows.has id = false → Belongs world.Live general.nationId))
      (addGeneral id general) fun _ world => Sound options none world.toTurnWorld := by
  apply Ensures.read
  intro world given
  obtain ⟨held, belongs⟩ := given
  split
  · exact Ensures.pure fun state same => same ▸ held
  · rename_i free
    refine Ensures.attempt fun normalized placed => ?_
    let Unchanged : InMemoryTurnWorld → Prop := fun state => state.toTurnWorld = world.toTurnWorld
    -- The counter is no row.
    have counted (order : Int) : Ensures (fun state => state = world)
        (modify fun world => { world with nextLegacyGeneralScanOrder := order } :
          Effect String InMemoryTurnWorld PUnit) fun _ => Unchanged := by
      apply Ensures.modify
      intro state same
      subst same
      rfl
    refine Ensures.seq (counted _) fun _ => Ensures.attempt fun ensured given => ensures_modify_pure ?_
    intro state same
    have serves : ensured.nationId = general.nationId := by
      have numbered := ensureGeneralKillturn_nation given
      rw [numbered]
      exact (normalizeGeneralClock_nation placed).trans (normalizeGeneralTurnTime_nation _ _)
    have before : Sound options none state.toTurnWorld := by
      rw [same]
      exact held
    apply RefersWithin.sound
    apply before.setGeneral rfl
    intro _
    show Belongs state.Live ensured.nationId
    rw [serves, same]
    exact belongs (by simpa using free)

theorem soundWhen {α : Type} {operation : WorldM α} {needs : TurnWorld → Prop}
    (keeps : ∀ world, needs world → KeepsReferences options none world.Live world.Live operation) :
    Ensures (fun world => Sound options none world ∧ needs world) operation fun _ => Sound options none := by
  intro world held value next performed
  exact (keeps world held.2 world held.1 value next performed).sound

theorem createTroop_sound {id : Int} {troop : Troop} :
    Ensures (fun world => Sound options none world ∧
        (world.troops.rows.has id = false → Belongs world.Live troop.nationId)) (createTroop id troop)
      fun _ => Sound options none := by
  intro world held value next performed
  exact (createTroop_references world held value next performed).sound

theorem applyDiplomacyPatch_sound {key : DiplomacyKey} (patch : DiplomacyPatch) :
    Ensures (fun world => Sound options none world ∧ (world.Live key.1 ∧ world.Live key.2))
      (applyDiplomacyPatch key patch) fun _ => Sound options none := by
  intro world held value next performed
  exact (applyDiplomacyPatch_references patch world ⟨held.1, .inr held.2⟩ value next performed).sound

theorem operation_sound (tables : WorldTables) (operation : WorldOperation) :
    Ensures (fun world : InMemoryTurnWorld => Sound options none world.toTurnWorld ∧
        RefersToLive options ⟨world, tables⟩ (.operate operation))
      (operation.run options) fun _ world => Sound options none world.toTurnWorld := by
  -- Most operations need nothing but sound rows.
  have always {α : Type} (body : WorldM α) (wrap : α → WorldResult) (keeps : KeepsSound options body) :
      Ensures (fun world : InMemoryTurnWorld => Sound options none world.toTurnWorld ∧ True)
        (onWorld do return wrap (← body)) fun _ world => Sound options none world.toTurnWorld :=
    (onWorld_keeps wrap keeps).mono (fun _ held => held.1) fun _ _ sound => sound
  cases operation with
  | addGeneral id general => exact addGeneral_sound.seq fun _ => Ensures.pure fun _ sound => sound
  | updateGeneral id patch =>
    exact onWorld_keeps .general (soundWhen fun world named => updateGeneral_references id patch named)
  | updateCity id patch =>
    exact onWorld_keeps .city (soundWhen fun world named => updateCity_references id patch named)
  | updateTroop id patch =>
    exact onWorld_keeps .troop (soundWhen fun world named => updateTroop_references id patch named)
  | createTroop id troop => exact onWorld_keeps .troop createTroop_sound
  | applyDiplomacyPatch key patch => exact onWorld_keeps (fun _ => .done) (applyDiplomacyPatch_sound patch)
  | executeGeneralTurn id general result => exact onWorld_keeps .execution executeGeneralTurn_sound
  | removeNation id => exact onWorld_keeps .flag (removeNation_sound id)
  | collapseNation id => exact onWorld_keeps .flag (collapseNation_sound id)
  | removeGeneral id =>
    exact always (TurnWorld.removeGeneral id) .flag (keepsSound fun _ => removeGeneral_references id)
  | deleteGeneralWithLifecycle id year month =>
    exact always (TurnWorld.deleteGeneralWithLifecycle id year month) .flag
      (keepsSound fun _ => deleteGeneralWithLifecycle_references id year month)
  | addNation id nation => exact always (TurnWorld.addNation id nation) .flag (addNation_sound id nation)
  | updateNation id patch =>
    exact always (TurnWorld.updateNation id patch) .nation
      (keepsSound fun _ => updateNation_references id patch)
  | dissolveNationWithoutSuccessor id dyingLordId =>
    exact always (TurnWorld.dissolveNationWithoutSuccessor options id dyingLordId) .flag
      (dissolveNationWithoutSuccessor_sound id dyingLordId)
  | removeTroop id =>
    exact always (TurnWorld.removeTroop id) .flag (keepsSound fun _ => removeTroop_references id)
  | addEvent id event => exact always (TurnWorld.addEvent id event) .flag (addEvent_sound id event)
  | removeEvent id => exact always (TurnWorld.removeEvent id) .flag (removeEvent_sound id)
  | getDiplomacyEntry sourceId targetId =>
    exact always (TurnWorld.getDiplomacyEntry sourceId targetId) .relation
      (keepsSound fun _ => getDiplomacyEntry_references sourceId targetId fun _ there => there)
  | listDiplomacy =>
    exact always TurnWorld.listDiplomacy .relations
      (listDiplomacy_sound.mono (fun _ held => held) fun _ _ held => held.1)
  | advanceDiplomacyMonth generalCounts =>
    exact always (TurnWorld.advanceDiplomacyMonth generalCounts) (fun _ => .done)
      (advanceDiplomacyMonth_sound generalCounts)
  | advanceMonth turnTime =>
    exact always (TurnWorld.advanceMonth options turnTime) (fun _ => .done) (advanceMonth_sound turnTime)
  | getNextNationId => exact always TurnWorld.getNextNationId .id getNextNationId_sound
  | getNextEventId =>
    exact always TurnWorld.getNextEventId .id
      (Ensures.read fun world held => Ensures.pure fun state same => same ▸ held)
  | getNextGeneralId => exact always TurnWorld.getNextGeneralId .id getNextGeneralId_sound
  | setLastTurnTime turnTime =>
    exact always (TurnWorld.setLastTurnTime turnTime) (fun _ => .done) (setLastTurnTime_sound turnTime)
  | setCheckpoint checkpoint =>
    exact always (TurnWorld.setCheckpoint checkpoint) (fun _ => .done)
      (modify_sound fun _ => ⟨rfl, rfl, rfl, rfl, rfl⟩)
  | updateWorldMeta patch =>
    exact always (TurnWorld.updateWorldMeta patch) (fun _ => .done)
      (modify_sound fun _ => ⟨rfl, rfl, rfl, rfl, rfl⟩)
  | updateWorldConfig patch =>
    exact always (TurnWorld.updateWorldConfig patch) (fun _ => .done)
      (modify_sound fun _ => ⟨rfl, rfl, rfl, rfl, rfl⟩)
  | markGeneralAccessScoreReset id =>
    refine always (TurnWorld.markGeneralAccessScoreReset id) (fun _ => .done) (modify_sound fun world => ?_)
    split
    · exact ⟨rfl, rfl, rfl, rfl, rfl⟩
    · exact ⟨rfl, rfl, rfl, rfl, rfl⟩
  | replaceGeneralPoolEntries entries =>
    exact always (TurnWorld.replaceGeneralPoolEntries entries) (fun _ => .done)
      (modify_sound fun _ => ⟨rfl, rfl, rfl, rfl, rfl⟩)
  | pushLog entry occurredAt =>
    exact always (TurnWorld.pushLog entry occurredAt) (fun _ => .done)
      (modify_sound fun _ => ⟨rfl, rfl, rfl, rfl, rfl⟩)
  | queue journal draft =>
    exact always (TurnWorld.queue journal draft) (fun _ => .done)
      (modify_sound fun _ => ⟨rfl, rfl, rfl, rfl, rfl⟩)
  | queueNeutralAuction auction =>
    exact always (TurnWorld.queueNeutralAuction auction) (fun _ => .done)
      (modify_sound fun _ => ⟨rfl, rfl, rfl, rfl, rfl⟩)
  | queueInheritancePointAdjustment userId key amount phase =>
    apply always (TurnWorld.queueInheritancePointAdjustment userId key amount phase) (fun _ => .done)
    unfold queueInheritancePointAdjustment
    split
    · exact Ensures.pure fun _ sound => sound
    · exact modify_sound fun _ => ⟨rfl, rfl, rfl, rfl, rfl⟩
  | queueInheritanceLog userId text rest =>
    apply always (TurnWorld.queueInheritanceLog userId text rest) (fun _ => .done)
    unfold queueInheritanceLog
    split
    · exact Ensures.pure fun _ sound => sound
    · exact modify_sound fun _ => ⟨rfl, rfl, rfl, rfl, rfl⟩

theorem acknowledge_sound (changes : TurnWorldChanges) (held : Sound options none world) :
    Sound options none (acknowledgeDirtyState changes world) := { held with }

theorem step_sound {store next : TurnStore} {event : StoreEvent} {output : StoreOutput}
    (held : Sound options none store.world.toTurnWorld) (refers : RefersToLive options store event)
    (stepped : (turnStore options).step store event = some (next, output)) :
    Sound options none next.world.toTurnWorld := by
  cases event with
  | operate operation =>
    obtain ⟨made, -⟩ := Prod.mk.inj (Option.some.inj stepped)
    rw [← made]
    dsimp only
    split
    · rename_i value world performed
      exact operation_sound store.tables operation store.world ⟨held, refers⟩ value world performed
    · -- A failed operation is taken back.
      exact held
  | flush =>
    rw [← (Prod.mk.inj (Option.some.inj stepped)).1]
    dsimp only
    split
    · exact acknowledge_sound _ held
    · exact held

/--
In every run from consistent rows whose steps bring in no dead reference, the rows stay consistent.

No row refers to a nation that is not there, and any two nations have exactly one relation each way.
-/
theorem references_stay_consistent (options : WorldOptions) {start final : TurnStore}
    {trace : List (StoreEvent × StoreOutput)} (consistent : Consistent options start.world.toTurnWorld)
    (run : (turnStore options).RunWhile (RefersToLive options) start trace final) :
    Consistent options final.world.toTurnWorld := by
  let Kept : TurnStore → Prop := fun store => Sound options none store.world.toTurnWorld
  have kept : Kept final := by
    refine run.stateInvariant (consistent_iff.mp consistent) ?_
    intro store event output next held refers stepped
    exact step_sound held refers stepped
  exact consistent_iff.mpr kept

/-- A nation that has just been founded. -/
def foundedNation : Nation := ⟨"wei", none, 0, 0, [], []⟩

/-- A world without rows that has just opened, with its tables. -/
def openingStore : TurnStore := ⟨opening, opening.tables⟩

theorem openingStore_consistent : Consistent openingOptions openingStore.world.toTurnWorld := by
  constructor
  · intro id general got
    cases got
  · intro id city got
    cases got
  · intro id city conflict nationId got
    cases got
  · intro id troop got
    cases got
  · intro key entry listed
    cases listed
  · intro source target there
    cases there

/-- Two nations are founded and make war, one of them falls with its troop, and a third one is founded. -/
theorem references_stay_consistent_after_fall : ∃ trace final,
    (turnStore openingOptions).RunWhile (RefersToLive openingOptions) openingStore trace final ∧
      final.world.nations.rows.keys = [2, 3] ∧ final.world.diplomacy.rows.keys = [(2, 3), (3, 2)] ∧
      Consistent openingOptions final.world.toTurnWorld := by
  let events : List StoreEvent :=
    [.operate (.addNation 1 foundedNation), .operate (.addNation 2 foundedNation),
      .operate (.applyDiplomacyPatch (1, 2) { state := some 0 }), .operate (.createTroop 7 ⟨1, "guard"⟩),
      .operate (.collapseNation 1), .flush, .operate (.addNation 3 foundedNation)]
  have replayed : ∃ trace final, (turnStore openingOptions).replay openingStore events = some (final, trace) ∧
      final.world.nations.rows.keys = [2, 3] ∧ final.world.diplomacy.rows.keys = [(2, 3), (3, 2)] :=
    ⟨_, _, rfl, rfl, rfl⟩
  obtain ⟨trace, final, replayed, nations, relations⟩ := replayed
  have guarded : (turnStore openingOptions).Guarded (RefersToLive openingOptions) openingStore events := by
    refine ⟨trivial, trivial, ⟨rfl, rfl⟩, fun _ => .inr rfl, ?_, trivial, trivial, trivial⟩
    -- There is no city that the falling nation could leave behind.
    intro id city got
    cases got
  have run := StateMachine.runWhile_of_guarded guarded replayed
  exact ⟨trace, final, run, nations, relations,
    references_stay_consistent openingOptions openingStore_consistent run⟩

/-- A patch of a relation that arrives after the fall of its nation brings a dead reference back. -/
theorem late_patch_dangles :
    ¬ ∀ (options : WorldOptions) (start final : TurnStore) (trace : List (StoreEvent × StoreOutput)),
      Consistent options start.world.toTurnWorld → (turnStore options).Run start trace final →
        Consistent options final.world.toTurnWorld := by
  intro always
  let events : List StoreEvent :=
    [.operate (.addNation 1 foundedNation), .operate (.addNation 2 foundedNation),
      .operate (.collapseNation 1), .operate (.applyDiplomacyPatch (1, 2) { state := some 0 })]
  have run : ∃ trace final, (turnStore openingOptions).replay openingStore events = some (final, trace) ∧
      final.world.nations.rows.has 1 = false ∧ final.world.diplomacy.rows.keys = [(1, 2)] :=
    ⟨_, _, rfl, rfl, rfl⟩
  obtain ⟨trace, final, replayed, fallen, relations⟩ := run
  have consistent := always openingOptions openingStore final trace openingStore_consistent
    (StateMachine.run_of_replay replayed)
  have listed : ((1, 2) : DiplomacyKey) ∈ final.world.diplomacy.rows.keys := by
    rw [relations]
    exact List.mem_cons_self
  obtain ⟨⟨key, entry⟩, member, same⟩ := List.mem_map.mp listed
  dsimp only at same
  subst same
  have alive := (consistent.relations (1, 2) entry member).1
  rw [fallen] at alive
  cases alive

end Sammo
