import Sammo.World.References

/-! The fall of a nation takes every reference to it along. -/

namespace Sammo

open Effect

variable {options : WorldOptions} {exempt : Option Int} {nation live : Int → Prop} {world : TurnWorld}

/-- A city after a nation has been taken out of its disputes. -/
def settledCity (options : WorldOptions) (nationId : Int) (city : City) : City :=
  match city.conflict.bind (TurnWorld.withoutConflict options nationId) with
  | none => city
  | some conflict => { city with conflict := some conflict }

theorem settledCity_owner (nationId : Int) (city : City) :
    (settledCity options nationId city).nationId = city.nationId := by
  unfold settledCity
  split
  · rfl
  · rfl

/-- What is left of the fields of disputes. -/
def remainingDisputes (nationId : Int) (fields : Record) : Json :=
  let rest := Record.erase fields (toString nationId)
  if rest.isEmpty then .arr [] else .obj rest

theorem withoutConflict_eq (nationId : Int) (conflict : Json) :
    TurnWorld.withoutConflict options nationId conflict =
      match parsedConflict options conflict with
      | some (.obj fields) =>
        if fields.any fun field => field.1 == toString nationId then some (remainingDisputes nationId fields) else none
      | _ => none := by
  cases conflict <;> rfl

theorem withoutConflict_spec {nationId : Int} {conflict settled : Json}
    (taken : TurnWorld.withoutConflict options nationId conflict = some settled) :
    ¬ DisputedBy options settled nationId ∧
      ∀ other, DisputedBy options settled other → DisputedBy options conflict other := by
  rw [withoutConflict_eq] at taken
  split at taken
  · rename_i fields parsed
    split at taken
    · -- What is left is a part of what there was, without the fields of the nation.
      have kept : ∀ other, DisputedBy options settled other →
          (Record.erase fields (toString nationId)).any (fun field => field.1 == toString other) = true := by
        intro other disputed
        obtain ⟨rest, value, named⟩ := disputed
        rw [← Option.some.inj taken] at value
        unfold remainingDisputes at value
        dsimp only at value
        split at value
        · cases value
        · cases value
          exact named
      constructor
      · intro disputed
        have named := kept nationId disputed
        simp [Record.erase] at named
      · intro other disputed
        obtain ⟨field, member, named⟩ := List.any_eq_true.mp (kept other disputed)
        exact ⟨fields, parsed, List.any_eq_true.mpr ⟨field, (List.mem_filter.mp member).1, named⟩⟩
    · cases taken
  · cases taken

theorem withoutConflict_none {nationId : Int} {conflict : Json}
    (left : TurnWorld.withoutConflict options nationId conflict = none) :
    ¬ DisputedBy options conflict nationId := by
  intro disputed
  obtain ⟨fields, parsed, named⟩ := disputed
  rw [withoutConflict_eq, parsed] at left
  simp only [named, if_true] at left
  cases left

theorem settledCity_belongs (nationId : Int) {city : City} (belongs : CityBelongs options nation city) :
    CityBelongs options nation (settledCity options nationId city) ∧
      ∀ conflict, (settledCity options nationId city).conflict = some conflict →
        ¬ DisputedBy options conflict nationId := by
  unfold settledCity
  cases there : city.conflict with
  | none =>
    simp only [Option.bind_none]
    refine ⟨belongs, ?_⟩
    intro conflict got
    rw [there] at got
    cases got
  | some before =>
    cases taken : TurnWorld.withoutConflict options nationId before with
    | none =>
      simp only [Option.bind_some, taken]
      refine ⟨belongs, ?_⟩
      intro conflict got
      rw [there] at got
      rw [← Option.some.inj got]
      exact withoutConflict_none taken
    | some settled =>
      simp only [Option.bind_some, taken]
      obtain ⟨gone, kept⟩ := withoutConflict_spec taken
      refine ⟨⟨belongs.owner, ?_⟩, ?_⟩
      · intro conflict other got disputed
        rw [← Option.some.inj got] at disputed
        exact belongs.conflict before other there (kept other disputed)
      · intro conflict got
        rw [← Option.some.inj got]
        exact gone

namespace TurnWorld

theorem deleteConflicts_cities (nationId : Int) (world : TurnWorld) (id : Int) :
    (deleteConflicts options nationId world).cities.rows.get? id =
      (world.cities.rows.get? id).map (settledCity options nationId) := by
  let view : TurnWorld → Int → Option City := fun state => state.cities.rows.get?
  show view (deleteConflicts options nationId world) id = _
  unfold deleteConflicts
  rw [OrderedMap.view_foldl view _ (fun _ => settledCity options nationId) (fun _ => True) (fun _ _ _ => trivial) ?_
    world.cities.rows.nodup trivial (fun entry member => OrderedMap.mem_entries.mp member) id]
  · exact OrderedMap.map_of_mem_keys _ _ _
  · -- A city without the nation in its disputes stays as it is.
    intro state entry _ got key
    obtain ⟨cityId, city⟩ := entry
    unfold settledCity
    dsimp only at got ⊢
    cases city.conflict.bind (withoutConflict options nationId) with
    | none =>
      dsimp only
      by_cases same : key = cityId
      · rw [if_pos same, same]
        exact got
      · rw [if_neg same]
    | some conflict => exact OrderedMap.get?_set _ _ _ _

theorem releaseGenerals_generals (nationId : Int) (world : TurnWorld) (id : Int) :
    (releaseGenerals nationId world).generals.rows.get? id = (world.generals.rows.get? id).map fun general =>
      if general.nationId = nationId then
        normalizeGeneralTurnTime (releasedGeneral general) world.state.lastTurnTime
      else general := by
  let view : TurnWorld → Int → Option General := fun state => state.generals.rows.get?
  show view (releaseGenerals nationId world) id = _
  unfold releaseGenerals
  rw [OrderedMap.view_foldl view _ (fun _ general =>
      if general.nationId = nationId then
        normalizeGeneralTurnTime (releasedGeneral general) world.state.lastTurnTime
      else general) (fun state => state.state = world.state) ?_ ?_ world.generals.rows.nodup rfl
    (fun entry member => OrderedMap.mem_entries.mp member) id]
  · exact OrderedMap.map_of_mem_keys _ _ _
  · intro state entry same
    dsimp only
    split
    · exact same
    · exact same
  · intro state entry same got key
    obtain ⟨generalId, general⟩ := entry
    dsimp only at got ⊢
    split
    · rw [same]
      exact OrderedMap.get?_set _ _ _ _
    · by_cases here : key = generalId
      · rw [if_pos here, here]
        exact got
      · rw [if_neg here]

theorem deleteConflicts_frame (options : WorldOptions) (nationId : Int) (world : TurnWorld) :
    { deleteConflicts options nationId world with cities := world.cities } = world := by
  let Framed : TurnWorld → Prop := fun next => { next with cities := world.cities } = world
  refine List.foldlRecOn (motive := Framed) _ _ rfl ?_
  intro next framed entry _
  dsimp only
  split
  · exact framed
  · exact framed

theorem releaseGenerals_frame (nationId : Int) (world : TurnWorld) :
    { releaseGenerals nationId world with generals := world.generals } = world := by
  let Framed : TurnWorld → Prop := fun next => { next with generals := world.generals } = world
  refine List.foldlRecOn (motive := Framed) _ _ rfl ?_
  intro next framed entry _
  dsimp only
  split
  · exact framed
  · exact framed

end TurnWorld

/-- The rows refer to the nations that are there. -/
def Sound (options : WorldOptions) (exempt : Option Int) (world : TurnWorld) : Prop :=
  RefersWithin options exempt world.Live world.Live world

theorem RefersWithin.sound (held : RefersWithin options exempt live live world) : Sound options exempt world := by
  have same : world.Live = live := funext fun id => propext (held.nations id)
  unfold Sound
  rw [same]
  exact held

theorem keepsSound {α : Type} {operation : WorldM α}
    (keeps : ∀ live, KeepsReferences options exempt live live operation) :
    Ensures (Sound options exempt) operation fun _ => Sound options exempt := by
  intro world held value next performed
  exact (keeps world.Live world held value next performed).sound

/-- No city belongs to a nation. -/
def Unowned (nationId : Int) (world : TurnWorld) : Prop :=
  ∀ id city, world.cities.rows.get? id = some city → city.nationId = nationId → nationId = 0

/-- No city is disputed by a nation. -/
def Undisputed (options : WorldOptions) (nationId : Int) (world : TurnWorld) : Prop :=
  ∀ id city conflict, world.cities.rows.get? id = some city → city.conflict = some conflict →
    DisputedBy options conflict nationId → nationId = 0

/-- No general serves a nation. -/
def Unserved (exempt : Option Int) (nationId : Int) (world : TurnWorld) : Prop :=
  ∀ id general, world.generals.rows.get? id = some general → some id ≠ exempt →
    general.nationId = nationId → nationId = 0

/-- No troop belongs to a nation. -/
def Untrooped (nationId : Int) (world : TurnWorld) : Prop :=
  ∀ id troop, world.troops.rows.get? id = some troop → troop.nationId = nationId → nationId = 0

/-- No row refers to a nation. -/
structure Unreferred (options : WorldOptions) (exempt : Option Int) (nationId : Int) (world : TurnWorld) :
    Prop where
  generals : Unserved exempt nationId world
  cities : Unowned nationId world
  conflicts : Undisputed options nationId world
  troops : Untrooped nationId world

theorem Belongs.without {nationId removed : Int} (belongs : Belongs live nationId)
    (other : nationId = removed → removed = 0) : Belongs (fun id => live id ∧ id ≠ removed) nationId := by
  rcases belongs with none | there
  · exact .inl none
  · by_cases same : nationId = removed
    · exact .inl (same.trans (other same))
    · exact .inr ⟨there, same⟩

namespace TurnWorld

theorem removeNation_sound (id : Int) :
    Ensures (fun world => Sound options exempt world ∧ Unreferred options exempt id world) (removeNation id)
      fun _ => Sound options exempt := by
  apply Ensures.read
  intro world given
  obtain ⟨held, unreferred⟩ := given
  split
  · apply ensures_modify_pure
    intro state same
    subst same
    have dropped := dropRelations_spec id state.diplomacy
    have there (key : DiplomacyKey) : (dropRelations id state.diplomacy).rows.has key = true ↔
        ¬ concernsNation id key ∧ state.diplomacy.rows.has key = true := by
      simp only [OrderedMap.has, (dropped key).1]
      by_cases concerns : concernsNation id key
      · by_cases present : (state.diplomacy.rows.get? key).isSome = true
        · simp [concerns, present]
        · simp [concerns, present]
      · simp [concerns]
    apply RefersWithin.sound
    · constructor
      · constructor
        · intro other general got charged
          exact (held.generals other general got charged).without (unreferred.generals other general got charged)
        · intro other city got
          refine ⟨(held.cities other city got).owner.without (unreferred.cities other city got), ?_⟩
          intro conflict nationId stored disputed
          apply ((held.cities other city got).conflict conflict nationId stored disputed).without
          intro equal
          exact unreferred.conflicts other city conflict got stored (equal ▸ disputed)
        · intro other troop got
          exact (held.troops other troop got).without (unreferred.troops other troop got)
        · intro key present
          obtain ⟨apart, before⟩ := (there key).mp present
          have between := held.relations key before
          exact ⟨⟨between.1, fun equal => apart (.inl equal)⟩, ⟨between.2, fun equal => apart (.inr equal)⟩⟩
        · intro other
          simp only [WriteBehind.remove, OrderedMap.has_erase, Bool.and_eq_true, Bool.not_eq_true',
            decide_eq_false_iff_not]
          rw [and_comm]
          exact Iff.rfl
      · intro source target fromLive toLive differ
        apply (there _).mpr
        refine ⟨?_, held.matrix source target fromLive.1 toLive.1 differ⟩
        rintro (equal | equal)
        · exact fromLive.2 equal
        · exact toLive.2 equal
  · exact Ensures.pure fun state same => same ▸ held

theorem deleteConflicts_unowned (nationId other : Int) (unowned : Unowned other world) :
    Unowned other (deleteConflicts options nationId world) := by
  intro id city got owned
  rw [deleteConflicts_cities] at got
  obtain ⟨before, stored, settled⟩ := Option.map_eq_some_iff.mp got
  have owner : (settledCity options nationId before).nationId = before.nationId := settledCity_owner nationId before
  apply unowned id before stored
  rw [← owner, settled]
  exact owned

theorem deleteConflicts_references (nationId : Int) (held : RefersWithin options exempt nation live world) :
    RefersWithin options exempt nation live (deleteConflicts options nationId world) ∧
      Undisputed options nationId (deleteConflicts options nationId world) := by
  have framed := deleteConflicts_frame options nationId world
  have generals := congrArg (fun next : TurnWorld => next.generals) framed
  have troops := congrArg (fun next : TurnWorld => next.troops) framed
  have nations := congrArg (fun next : TurnWorld => next.nations) framed
  have diplomacy := congrArg (fun next : TurnWorld => next.diplomacy) framed
  dsimp only at generals troops nations diplomacy
  constructor
  · refine ⟨⟨?_, ?_, ?_, ?_, ?_⟩, ?_⟩
    · rw [generals]
      exact held.generals
    · intro id city got
      rw [deleteConflicts_cities] at got
      obtain ⟨before, stored, settled⟩ := Option.map_eq_some_iff.mp got
      rw [← settled]
      exact (settledCity_belongs nationId (held.cities id before stored)).1
    · rw [troops]
      exact held.troops
    · rw [diplomacy]
      exact held.relations
    · rw [nations]
      exact held.nations
    · rw [diplomacy]
      exact held.matrix
  · intro id city conflict got stored disputed
    rw [deleteConflicts_cities] at got
    obtain ⟨before, there, settled⟩ := Option.map_eq_some_iff.mp got
    rw [← settled] at stored
    have settledThere := (settledCity_belongs nationId (held.cities id before there)).2 conflict stored
    exact absurd disputed settledThere

theorem releaseGenerals_references (nationId : Int) (held : RefersWithin options exempt nation live world) :
    RefersWithin options exempt nation live (releaseGenerals nationId world) ∧
      Unserved exempt nationId (releaseGenerals nationId world) := by
  have framed := releaseGenerals_frame nationId world
  have cities := congrArg (fun next : TurnWorld => next.cities) framed
  have troops := congrArg (fun next : TurnWorld => next.troops) framed
  have nations := congrArg (fun next : TurnWorld => next.nations) framed
  have diplomacy := congrArg (fun next : TurnWorld => next.diplomacy) framed
  dsimp only at cities troops nations diplomacy
  -- A general of the nation is released to none, and any other one stays.
  have after (id : Int) (general : General)
      (got : (releaseGenerals nationId world).generals.rows.get? id = some general) :
      general.nationId = 0 ∨
        general.nationId ≠ nationId ∧ ∃ before, world.generals.rows.get? id = some before ∧
          general.nationId = before.nationId := by
    rw [releaseGenerals_generals] at got
    obtain ⟨before, stored, released⟩ := Option.map_eq_some_iff.mp got
    split at released
    · left
      rw [← released, normalizeGeneralTurnTime_nation]
      rfl
    · rename_i other
      rw [released] at other
      exact .inr ⟨other, before, stored, congrArg General.nationId released.symm⟩
  constructor
  · refine ⟨⟨?_, ?_, ?_, ?_, ?_⟩, ?_⟩
    · intro id general got charged
      rcases after id general got with none | ⟨_, before, stored, same⟩
      · exact .inl none
      · rw [same]
        exact held.generals id before stored charged
    · rw [cities]
      exact held.cities
    · rw [troops]
      exact held.troops
    · rw [diplomacy]
      exact held.relations
    · rw [nations]
      exact held.nations
    · rw [diplomacy]
      exact held.matrix
  · intro id general got _ serves
    rcases after id general got with none | ⟨other, _⟩
    · rw [← serves]
      exact none
    · exact absurd serves other

theorem removeTroop_troops (id : Int) {held : Int → Troop → Prop} :
    Ensures (fun world => ∀ other troop, world.troops.rows.get? other = some troop → held other troop)
      (removeTroop id) fun _ world => ∀ other troop, world.troops.rows.get? other = some troop →
        held other troop ∧ other ≠ id := by
  apply Ensures.read
  intro world before
  split
  · apply ensures_modify_pure
    intro state same other troop got
    subst same
    simp only [WriteBehind.remove, OrderedMap.get?_erase] at got
    split at got
    · cases got
    · rename_i differs
      exact ⟨before other troop got, differs⟩
  · rename_i absent
    apply Ensures.pure
    intro state same other troop got
    subst same
    refine ⟨before other troop got, ?_⟩
    intro equal
    subst equal
    exact absent (has_of_get? got)

theorem disbandTroops_references (nationId : Int) :
    Ensures (RefersWithin options exempt nation live) (disbandTroops nationId) fun _ world =>
      RefersWithin options exempt nation live world ∧ Untrooped nationId world := by
  apply Ensures.read
  intro world held
  -- The troops of the nation that are left are those of the rounds still to come.
  let Left : List (Int × Troop) → TurnWorld → Prop := fun rest state =>
    ∀ id troop, state.troops.rows.get? id = some troop → troop.nationId = nationId → id ∈ rest.map Prod.fst
  let Pending : List (Int × Troop) → TurnWorld → Prop := fun rest state =>
    RefersWithin options exempt nation live state ∧ Left rest state
  have round (item : Int × Troop) (rest : List (Int × Troop)) :
      Ensures (Pending (item :: rest)) (do let _ ← removeTroop item.1) fun _ => Pending rest := by
    have removed : Ensures (Pending (item :: rest)) (removeTroop item.1) fun _ state =>
        RefersWithin options exempt nation live state ∧ ∀ id troop, state.troops.rows.get? id = some troop →
          (troop.nationId = nationId → id ∈ (item :: rest).map Prod.fst) ∧ id ≠ item.1 :=
      (removeTroop_references item.1).both (removeTroop_troops item.1)
    refine removed.seq fun _ => ?_
    apply Ensures.pure
    intro state after
    refine ⟨after.1, ?_⟩
    intro id troop got serves
    obtain ⟨listed, differs⟩ := after.2 id troop got
    exact (List.mem_cons.mp (listed serves)).resolve_left differs
  refine (Ensures.forM_rest round).mono ?_ ?_
  · intro state same
    subst same
    refine ⟨held, ?_⟩
    intro id troop got serves
    have listed := OrderedMap.mem_entries.mpr got
    exact List.mem_map.mpr ⟨(id, troop), List.mem_filter.mpr ⟨listed, by simpa using serves⟩, rfl⟩
  · intro _ state after
    refine ⟨after.1, ?_⟩
    intro id troop got serves
    exact absurd (after.2 id troop got serves) List.not_mem_nil

theorem disbandTroops_frame (nationId : Int) {held : TurnWorld → Prop}
    (stable : ∀ world troops, held world → held { world with troops }) :
    Ensures held (disbandTroops nationId) fun _ => held := by
  apply Ensures.read
  intro world start
  refine Ensures.mono (Ensures.forM ?_) (fun state same => same ▸ start) fun _ _ kept => kept
  intro entry _
  refine Ensures.seq (Ensures.read ?_) fun _ => Ensures.pure fun _ kept => kept
  intro state kept
  split
  · apply ensures_modify_pure
    intro current same
    exact stable _ _ (same ▸ kept)
  · exact Ensures.pure fun current same => same ▸ kept

theorem collapseNation_sound (nationId : Int) :
    Ensures (fun world => Sound options exempt world ∧ Unowned nationId world) (collapseNation options nationId)
      fun _ => Sound options exempt := by
  apply Ensures.read
  intro world given
  obtain ⟨held, unowned⟩ := given
  cases world.nations.rows.get? nationId with
  | none => exact Ensures.pure fun state same => same ▸ held
  | some fallen =>
    let Refers : TurnWorld → Prop := RefersWithin options exempt world.Live world.Live
    let Cityless : TurnWorld → Prop := fun state => Unowned nationId state ∧ Undisputed options nationId state
    let Deserted : TurnWorld → Prop := fun state => Cityless state ∧ Unserved exempt nationId state
    dsimp only
    have settled : Ensures (fun state => state = world) (modify (deleteConflicts options nationId) : WorldM PUnit)
        fun _ state => Refers state ∧ Cityless state := by
      apply Ensures.modify
      intro state same
      subst same
      obtain ⟨refers, undisputed⟩ := deleteConflicts_references nationId held
      exact ⟨refers, deleteConflicts_unowned nationId nationId unowned, undisputed⟩
    refine settled.seq fun _ => Ensures.seq (ensures_change fun state kept => ⟨{ kept.1 with }, kept.2⟩) fun _ => ?_
    have released : Ensures (fun state => Refers state ∧ Cityless state) (modify (releaseGenerals nationId) : WorldM PUnit)
        fun _ state => Refers state ∧ Deserted state := by
      apply Ensures.modify
      intro state kept
      obtain ⟨refers, unserved⟩ := releaseGenerals_references nationId kept.1
      have cities := congrArg (fun next : TurnWorld => next.cities) (releaseGenerals_frame nationId state)
      dsimp only at cities
      refine ⟨refers, ?_, unserved⟩
      simp only [Cityless, Unowned, Undisputed, cities]
      exact kept.2
    have disbanded : Ensures (fun state => Refers state ∧ Deserted state) (disbandTroops nationId)
        fun _ state => (Refers state ∧ Untrooped nationId state) ∧ Deserted state :=
      (disbandTroops_references nationId).both (disbandTroops_frame nationId fun state troops kept => kept)
    refine released.seq fun _ => disbanded.seq fun _ => ?_
    refine Ensures.seq (Ensures.mono (removeNation_sound nationId) ?_ fun _ _ sound => sound) fun _ =>
      Ensures.pure fun _ sound => sound
    intro state kept
    exact ⟨kept.1.1.sound, kept.2.2, kept.2.1.1, kept.2.1.2, kept.1.2⟩

theorem collapseNation_unowned (nationId other : Int) :
    Ensures (Unowned other) (collapseNation options nationId) fun _ => Unowned other := by
  apply Ensures.read
  intro world unowned
  refine Ensures.mono ?_ (fun state same => same ▸ unowned) fun _ _ kept => kept
  cases world.nations.rows.get? nationId with
  | none => exact Ensures.pure fun _ kept => kept
  | some fallen =>
    dsimp only
    refine Ensures.seq (ensures_change fun state kept => deleteConflicts_unowned nationId other kept) fun _ => ?_
    refine Ensures.seq (ensures_change fun state kept => kept) fun _ => ?_
    have released : Ensures (Unowned other) (modify (releaseGenerals nationId) : WorldM PUnit) fun _ => Unowned other := by
      apply Ensures.modify
      intro state kept
      have cities := congrArg (fun next : TurnWorld => next.cities) (releaseGenerals_frame nationId state)
      dsimp only at cities
      simp only [Unowned, cities]
      exact kept
    refine released.seq fun _ => Ensures.seq (disbandTroops_frame nationId fun state troops kept => kept) fun _ => ?_
    refine Ensures.seq (Ensures.read ?_) fun _ => Ensures.pure fun _ kept => kept
    intro state kept
    split
    · apply ensures_modify_pure
      intro current same
      exact same ▸ kept
    · exact Ensures.pure fun current same => same ▸ kept

theorem removeCollapsedNations_sound :
    Ensures (Sound options exempt) (removeCollapsedNations options) fun _ => Sound options exempt := by
  apply Ensures.read
  intro world held
  -- Each of the nations that are still to fall has no city.
  let Pending : List Int → TurnWorld → Prop := fun rest state =>
    Sound options exempt state ∧ ∀ nationId ∈ rest, Unowned nationId state
  have round (nationId : Int) (rest : List Int) :
      Ensures (Pending (nationId :: rest)) (do let _ ← collapseNation options nationId) fun _ => Pending rest := by
    have collapsed : Ensures (Pending (nationId :: rest)) (collapseNation options nationId) fun _ => Pending rest := by
      intro state pending value next performed
      constructor
      · have unowned := pending.2 nationId List.mem_cons_self
        exact collapseNation_sound nationId state ⟨pending.1, unowned⟩ value next performed
      · intro other listed
        have unowned := pending.2 other (List.mem_cons_of_mem _ listed)
        exact collapseNation_unowned nationId other state unowned value next performed
    exact collapsed.seq fun _ => Ensures.pure fun _ pending => pending
  refine (Ensures.forM_rest round).mono ?_ fun _ _ pending => pending.1
  intro state same
  subst same
  refine ⟨held, ?_⟩
  intro nationId listed id city got owned
  obtain ⟨entry, member, named⟩ := List.mem_map.mp listed
  have fallen := (List.mem_filter.mp member).2
  simp only [decide_eq_true_eq, List.any_eq_true, not_exists, not_and] at fallen
  exact absurd (owned.trans named.symm) (fallen.2.2 (id, city) (OrderedMap.mem_entries.mpr got))

theorem logRuin_frame (fallen : Nation) (members : List Int) (dyingLordId : Option Int) {held : TurnWorld → Prop}
    (stable : ∀ world logs, held world → held { world with logs }) :
    Ensures held (logRuin options fallen members dyingLordId) fun _ => held := by
  have logged (entry : LogEntryDraft) (occurredAt : Option Int) :
      Ensures held (pushLog entry occurredAt) fun _ => held :=
    ensures_change fun state kept => stable state _ kept
  refine Ensures.seq (Ensures.forM ?_) fun _ => ?_
  · intro id _
    dsimp only
    split
    · exact (logged _ _).seq fun _ => (logged _ _).seq fun _ => logged _ _
    · exact (Ensures.pure fun _ kept => kept).seq fun _ => (logged _ _).seq fun _ => logged _ _
  · split
    · exact logged _ _
    · exact Ensures.pure fun _ kept => kept

theorem giveUp_belongs : CityPatchBelongs options nation { nationId := some 0, frontState := some 0 } := by
  constructor
  · intro nationId given
    cases given
    exact .inl rfl
  · intro conflict nationId given
    cases given

theorem updateCity_givesUp (id : Int) {held : Int → City → Prop} :
    Ensures (fun world => ∀ other city, world.cities.rows.get? other = some city → held other city)
      (updateCity id { nationId := some 0, frontState := some 0 }) fun _ world =>
        ∀ other city, world.cities.rows.get? other = some city →
          city.nationId = 0 ∨ held other city ∧ other ≠ id := by
  apply Ensures.read
  intro world before
  cases got : world.cities.rows.get? id with
  | none =>
    apply Ensures.pure
    intro state same other city there
    subst same
    refine .inr ⟨before other city there, ?_⟩
    intro equal
    rw [equal, got] at there
    cases there
  | some target =>
    apply ensures_modify_pure
    intro state same other city there
    subst same
    simp only [WriteBehind.put, OrderedMap.get?_set] at there
    split at there
    · cases there
      exact .inl rfl
    · rename_i differs
      exact .inr ⟨before other city there, differs⟩

theorem giveUpCities_sound (nationId : Int) (held : Sound options exempt world) :
    Ensures (fun state => state = world)
      ((world.cities.rows.entries.filter fun entry => entry.2.nationId = nationId).forM fun entry => do
        let _ ← updateCity entry.1 { nationId := some 0, frontState := some 0 })
      fun _ state => Sound options exempt state ∧ Unowned nationId state := by
  -- The cities of the nation that are left are those of the rounds still to come.
  let Pending : List (Int × City) → TurnWorld → Prop := fun rest state =>
    Sound options exempt state ∧ ∀ id city, state.cities.rows.get? id = some city → city.nationId = nationId →
      nationId = 0 ∨ id ∈ rest.map Prod.fst
  have round (item : Int × City) (rest : List (Int × City)) :
      Ensures (Pending (item :: rest)) (do
        let _ ← updateCity item.1 { nationId := some 0, frontState := some 0 }) fun _ => Pending rest := by
    have given : Ensures (Pending (item :: rest)) (updateCity item.1 { nationId := some 0, frontState := some 0 })
        fun _ state => Sound options exempt state ∧ ∀ id city, state.cities.rows.get? id = some city →
          city.nationId = 0 ∨ (city.nationId = nationId → nationId = 0 ∨ id ∈ (item :: rest).map Prod.fst) ∧
            id ≠ item.1 :=
      (keepsSound fun _ => updateCity_references item.1 _ giveUp_belongs).both (updateCity_givesUp item.1)
    refine given.seq fun _ => ?_
    apply Ensures.pure
    intro state after
    refine ⟨after.1, ?_⟩
    intro id city got owned
    rcases after.2 id city got with nobody | ⟨listed, differs⟩
    · exact .inl (owned.symm.trans nobody)
    · rcases listed owned with none | listed
      · exact .inl none
      · exact .inr ((List.mem_cons.mp listed).resolve_left differs)
  refine (Ensures.forM_rest round).mono ?_ ?_
  · intro state same
    subst same
    refine ⟨held, ?_⟩
    intro id city got owned
    have listed := OrderedMap.mem_entries.mpr got
    exact .inr (List.mem_map.mpr ⟨(id, city), List.mem_filter.mpr ⟨listed, by simpa using owned⟩, rfl⟩)
  · intro _ state after
    refine ⟨after.1, ?_⟩
    intro id city got owned
    exact (after.2 id city got owned).resolve_right List.not_mem_nil

theorem dissolveNationWithoutSuccessor_sound (nationId : Int) (dyingLordId : Option Int) :
    Ensures (Sound options exempt) (dissolveNationWithoutSuccessor options nationId dyingLordId)
      fun _ => Sound options exempt := by
  apply Ensures.read
  intro world held
  cases world.nations.rows.get? nationId with
  | none => exact Ensures.pure fun state same => same ▸ held
  | some fallen =>
    dsimp only
    split
    · exact Ensures.throw _
    · refine (giveUpCities_sound nationId held).seq fun _ => ?_
      refine Ensures.seq (logRuin_frame _ _ _ ?_) fun _ => collapseNation_sound nationId
      exact fun state logs kept => ⟨{ kept.1 with }, kept.2⟩

end TurnWorld

end Sammo
