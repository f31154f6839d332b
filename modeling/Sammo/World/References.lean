import Sammo.World.FlushLaws

/-! Which nations the rows of the world refer to, and what each change of the rows does to these references. -/

namespace Sammo

open Effect

/-- The value a city's disputes are read from. -/
def parsedConflict (options : WorldOptions) : Json → Option Json
  | .str text => options.parseJson text
  | value => some value

/-- A city's disputes name a nation. -/
def DisputedBy (options : WorldOptions) (conflict : Json) (nationId : Int) : Prop :=
  ∃ fields, parsedConflict options conflict = some (.obj fields) ∧
    fields.any (fun field => field.1 == toString nationId) = true

/--
No row refers to a nation that is not in the world, and any two nations have one relation each way.

The number zero stands for no nation.
-/
structure Consistent (options : WorldOptions) (world : TurnWorld) : Prop where
  generals : ∀ id general, world.generals.rows.get? id = some general →
    general.nationId = 0 ∨ world.nations.rows.has general.nationId = true
  cities : ∀ id city, world.cities.rows.get? id = some city →
    city.nationId = 0 ∨ world.nations.rows.has city.nationId = true
  conflicts : ∀ id city conflict nationId, world.cities.rows.get? id = some city →
    city.conflict = some conflict → DisputedBy options conflict nationId →
    nationId = 0 ∨ world.nations.rows.has nationId = true
  troops : ∀ id troop, world.troops.rows.get? id = some troop →
    troop.nationId = 0 ∨ world.nations.rows.has troop.nationId = true
  relations : ∀ key entry, (key, entry) ∈ world.diplomacy.rows.entries →
    world.nations.rows.has key.1 = true ∧ world.nations.rows.has key.2 = true
  matrix : ∀ source target, world.nations.rows.has source = true → world.nations.rows.has target = true →
    source ≠ target → ∃! entry, ((source, target), entry) ∈ world.diplomacy.rows.entries

/-- No nation, or one of those that may be referred to. -/
def Belongs (nation : Int → Prop) (nationId : Int) : Prop := nationId = 0 ∨ nation nationId

/-- A city belongs to a nation that may be referred to, and so do those who dispute it. -/
structure CityBelongs (options : WorldOptions) (nation : Int → Prop) (city : City) : Prop where
  owner : Belongs nation city.nationId
  conflict : ∀ conflict nationId, city.conflict = some conflict → DisputedBy options conflict nationId →
    Belongs nation nationId

/--
The rows of the world refer to nations that may be referred to, and some of these are there.

One general may be exempt, which is the one that is just about to be removed.
-/
structure RowsWithin (options : WorldOptions) (exempt : Option Int) (nation live : Int → Prop)
    (world : TurnWorld) : Prop where
  generals : ∀ id general, world.generals.rows.get? id = some general → some id ≠ exempt →
    Belongs nation general.nationId
  cities : ∀ id city, world.cities.rows.get? id = some city → CityBelongs options nation city
  troops : ∀ id troop, world.troops.rows.get? id = some troop → Belongs nation troop.nationId
  relations : ∀ key, world.diplomacy.rows.has key = true → nation key.1 ∧ nation key.2
  nations : ∀ id, world.nations.rows.has id = true ↔ live id

/-- The rows refer to nations that may be referred to, and those that are there have all their relations. -/
structure RefersWithin (options : WorldOptions) (exempt : Option Int) (nation live : Int → Prop)
    (world : TurnWorld) : Prop extends RowsWithin options exempt nation live world where
  matrix : ∀ source target, live source → live target → source ≠ target →
    world.diplomacy.rows.has (source, target) = true

/-- The nations that are in the world. -/
def TurnWorld.Live (world : TurnWorld) (id : Int) : Prop := world.nations.rows.has id = true

theorem consistent_iff {options : WorldOptions} {world : TurnWorld} :
    Consistent options world ↔ RefersWithin options none world.Live world.Live world := by
  constructor
  · intro held
    refine ⟨⟨fun id general got _ => held.generals id general got, ?_, held.troops, ?_, fun id => Iff.rfl⟩, ?_⟩
    · intro id city got
      exact ⟨held.cities id city got, fun conflict nationId => held.conflicts id city conflict nationId got⟩
    · intro key there
      obtain ⟨entry, got⟩ := Option.isSome_iff_exists.mp there
      exact held.relations key entry (OrderedMap.mem_entries.mpr got)
    · intro source target fromLive toLive differ
      obtain ⟨entry, listed, _⟩ := held.matrix source target fromLive toLive differ
      exact TurnWorld.has_of_get? (OrderedMap.mem_entries.mp listed)
  · intro held
    refine ⟨fun id general got => held.generals id general got (by simp), fun id city got =>
      (held.cities id city got).owner, fun id city conflict nationId got => (held.cities id city got).conflict conflict
        nationId, held.troops, ?_, ?_⟩
    · intro key entry listed
      exact held.relations key (TurnWorld.has_of_get? (OrderedMap.mem_entries.mp listed))
    · intro source target fromLive toLive differ
      obtain ⟨entry, got⟩ := Option.isSome_iff_exists.mp (held.matrix source target fromLive toLive differ)
      refine ⟨entry, OrderedMap.mem_entries.mpr got, ?_⟩
      -- A map has at most one value under a key.
      intro other listed
      have same := (OrderedMap.mem_entries.mp listed).symm.trans got
      exact Option.some.inj same

variable {options : WorldOptions} {exempt : Option Int} {nation live : Int → Prop} {world : TurnWorld}

/-- An operation that keeps the references within the same nations. -/
abbrev KeepsReferences {α : Type} (options : WorldOptions) (exempt : Option Int) (nation live : Int → Prop)
    (operation : WorldM α) : Prop :=
  Ensures (RefersWithin options exempt nation live) operation fun _ => RefersWithin options exempt nation live

theorem RowsWithin.congr {next : TurnWorld} (held : RowsWithin options exempt nation live world)
    (generals : next.generals = world.generals) (cities : next.cities = world.cities)
    (troops : next.troops = world.troops) (nations : next.nations = world.nations)
    (relations : ∀ key, next.diplomacy.rows.has key = true → nation key.1 ∧ nation key.2) :
    RowsWithin options exempt nation live next := by
  constructor
  · rw [generals]
    exact held.generals
  · rw [cities]
    exact held.cities
  · rw [troops]
    exact held.troops
  · exact relations
  · rw [nations]
    exact held.nations

theorem TurnWorld.fillDiplomacyMatrix_has (world : TurnWorld) (key : DiplomacyKey) :
    (fillDiplomacyMatrix world).diplomacy.rows.has key = true ↔ world.diplomacy.rows.has key = true ∨
      key.1 ≠ key.2 ∧ world.nations.rows.has key.1 = true ∧ world.nations.rows.has key.2 = true := by
  -- The loop creates the listed keys that are missing, whatever the list.
  have created (keys : List DiplomacyKey) : ∀ start : TurnWorld,
      (keys.foldl (fun world key => if key.1 = key.2 ∨ world.diplomacy.rows.has key then world
        else createDefaultDiplomacy key world) start).diplomacy.rows.has key = true ↔
        start.diplomacy.rows.has key = true ∨ key.1 ≠ key.2 ∧ key ∈ keys := by
    induction keys with
    | nil => simp
    | cons first rest ih =>
      intro start
      rw [List.foldl_cons, ih]
      split
      · rename_i skipped
        constructor
        · rintro (there | ⟨differ, later⟩)
          · exact .inl there
          · exact .inr ⟨differ, List.mem_cons_of_mem _ later⟩
        · rintro (there | ⟨differ, listed⟩)
          · exact .inl there
          · rcases List.mem_cons.mp listed with same | later
            · subst same
              exact .inl (skipped.resolve_left differ)
            · exact .inr ⟨differ, later⟩
      · rename_i missing
        simp only [createDefaultDiplomacy, WriteBehind.insert, OrderedMap.has_set, Bool.or_eq_true,
          decide_eq_true_eq, List.mem_cons]
        have distinct : first.1 ≠ first.2 := fun same => missing (.inl same)
        constructor
        · rintro ((same | there) | ⟨differ, later⟩)
          · subst same
            exact .inr ⟨distinct, .inl rfl⟩
          · exact .inl there
          · exact .inr ⟨differ, .inr later⟩
        · rintro (there | ⟨differ, same | later⟩)
          · exact .inl (.inr there)
          · exact .inl (.inl same)
          · exact .inr ⟨differ, later⟩
  unfold fillDiplomacyMatrix
  rw [created]
  simp only [List.mem_flatMap, List.mem_map, OrderedMap.mem_keys]
  constructor
  · rintro (there | ⟨differ, source, fromThere, target, toThere, same⟩)
    · exact .inl there
    · subst same
      exact .inr ⟨differ, fromThere, toThere⟩
  · rintro (there | ⟨differ, fromThere, toThere⟩)
    · exact .inl there
    · exact .inr ⟨differ, key.1, fromThere, key.2, toThere, rfl⟩

theorem RowsWithin.fill (held : RowsWithin options exempt nation live world) (known : ∀ id, live id → nation id) :
    RefersWithin options exempt nation live (TurnWorld.fillDiplomacyMatrix world) := by
  have framed := TurnWorld.fillDiplomacyMatrix_frame world
  have generals := congrArg (fun next : TurnWorld => next.generals) framed
  have cities := congrArg (fun next : TurnWorld => next.cities) framed
  have troops := congrArg (fun next : TurnWorld => next.troops) framed
  have nations := congrArg (fun next : TurnWorld => next.nations) framed
  refine ⟨held.congr generals cities troops nations ?_, ?_⟩
  · intro key there
    rcases (TurnWorld.fillDiplomacyMatrix_has world key).mp there with before | ⟨_, fromThere, toThere⟩
    · exact held.relations key before
    · exact ⟨known _ ((held.nations _).mp fromThere), known _ ((held.nations _).mp toThere)⟩
  · intro source target fromLive toLive differ
    rw [TurnWorld.fillDiplomacyMatrix_has]
    exact .inr ⟨differ, (held.nations _).mpr fromLive, (held.nations _).mpr toLive⟩

namespace RefersWithin

theorem setGeneral (held : RefersWithin options exempt nation live world) {id : Int} {general : General}
    {next : WriteBehind Int General} (rows : next.rows = world.generals.rows.set id general)
    (belongs : some id ≠ exempt → Belongs nation general.nationId) :
    RefersWithin options exempt nation live { world with generals := next } := by
  refine { held with generals := ?_ }
  intro other row got charged
  simp only [rows, OrderedMap.get?_set] at got
  split at got
  · rename_i same
    cases got
    exact belongs (same ▸ charged)
  · exact held.generals other row got charged

theorem setCity (held : RefersWithin options exempt nation live world) {id : Int} {city : City}
    {next : WriteBehind Int City} (rows : next.rows = world.cities.rows.set id city)
    (belongs : CityBelongs options nation city) :
    RefersWithin options exempt nation live { world with cities := next } := by
  refine { held with cities := ?_ }
  intro other row got
  simp only [rows, OrderedMap.get?_set] at got
  split at got
  · cases got
    exact belongs
  · exact held.cities other row got

theorem setTroop (held : RefersWithin options exempt nation live world) {id : Int} {troop : Troop}
    {next : WriteBehind Int Troop} (rows : next.rows = world.troops.rows.set id troop)
    (belongs : Belongs nation troop.nationId) :
    RefersWithin options exempt nation live { world with troops := next } := by
  refine { held with troops := ?_ }
  intro other row got
  simp only [rows, OrderedMap.get?_set] at got
  split at got
  · cases got
    exact belongs
  · exact held.troops other row got

theorem setRelation (held : RefersWithin options exempt nation live world) {key : DiplomacyKey}
    {entry : TurnDiplomacy} {next : WriteBehind DiplomacyKey TurnDiplomacy}
    (rows : next.rows = world.diplomacy.rows.set key entry)
    (between : world.diplomacy.rows.has key = true ∨ nation key.1 ∧ nation key.2) :
    RefersWithin options exempt nation live { world with diplomacy := next } := by
  refine { held with relations := ?_, matrix := ?_ }
  · intro other there
    simp only [rows, OrderedMap.has_set, Bool.or_eq_true, decide_eq_true_eq] at there
    rcases there with same | there
    · subst same
      rcases between with there | between
      · exact held.relations _ there
      · exact between
    · exact held.relations other there
  · intro source target fromLive toLive differ
    have there := held.matrix source target fromLive toLive differ
    simp [rows, OrderedMap.has_set, there]

theorem setNation (held : RefersWithin options exempt nation live world) {id : Int} {row : Nation}
    {next : WriteBehind Int Nation} (rows : next.rows = world.nations.rows.set id row)
    (there : world.nations.rows.has id = true) :
    RefersWithin options exempt nation live { world with nations := next } := by
  refine { held with nations := ?_ }
  intro other
  rw [← held.nations other]
  simp only [rows, OrderedMap.has_set, Bool.or_eq_true, decide_eq_true_eq]
  constructor
  · rintro (same | present)
    · exact same ▸ there
    · exact present
  · exact fun present => .inr present

theorem removeGeneral (held : RefersWithin options exempt nation live world) (id : Int) :
    RefersWithin options exempt nation live { world with generals := world.generals.remove id } := by
  refine { held with generals := ?_ }
  intro other general got charged
  simp only [WriteBehind.remove, OrderedMap.get?_erase] at got
  split at got
  · cases got
  · exact held.generals other general got charged

theorem removeTroop (held : RefersWithin options exempt nation live world) (id : Int) :
    RefersWithin options exempt nation live { world with troops := world.troops.remove id } := by
  refine { held with troops := ?_ }
  intro other troop got
  simp only [WriteBehind.remove, OrderedMap.get?_erase] at got
  split at got
  · cases got
  · exact held.troops other troop got

end RefersWithin

theorem normalizeGeneralClock_nation {clock : GameClock} {general next : General}
    (normalized : normalizeGeneralClock clock general = .ok next) : next.nationId = general.nationId := by
  simp only [normalizeGeneralClock, Bind.bind, Except.bind] at normalized
  -- Each conversion either fails or leaves the rest of the general alone.
  repeat' split at normalized
  all_goals first
    | cases normalized
      done
    | rw [← Except.ok.inj normalized]

theorem normalizeGeneralTurnTime_nation (general : General) (fallback : Int) :
    (normalizeGeneralTurnTime general fallback).nationId = general.nationId := by
  unfold normalizeGeneralTurnTime
  split
  · rfl
  · rfl

theorem ensureGeneralKillturn_nation {id : Int} {general next : General} {fallback : Option ℚ}
    (ensured : ensureGeneralKillturn id general fallback = .ok next) : next.nationId = general.nationId := by
  unfold ensureGeneralKillturn at ensured
  repeat' split at ensured
  all_goals first
    | cases ensured
      done
    | rw [← Except.ok.inj ensured]

theorem belongs_patch {base : General} {patch : GeneralPatch} (belongs : Belongs nation base.nationId)
    (named : ∀ nationId ∈ patch.nationId, Belongs nation nationId) :
    Belongs nation (applyGeneralPatch base patch).nationId := by
  show Belongs nation (patch.nationId.getD base.nationId)
  cases given : patch.nationId with
  | none => exact belongs
  | some nationId => exact named nationId given

/-- The nations a patch of a city brings in. -/
structure CityPatchBelongs (options : WorldOptions) (nation : Int → Prop) (patch : CityPatch) : Prop where
  owner : ∀ nationId ∈ patch.nationId, Belongs nation nationId
  conflict : ∀ conflict nationId, patch.conflict = some (some conflict) → DisputedBy options conflict nationId →
    Belongs nation nationId

theorem CityBelongs.overwrite {base : City} {patch : CityPatch} (belongs : CityBelongs options nation base)
    (named : CityPatchBelongs options nation patch) : CityBelongs options nation (overwriteCity base patch) := by
  constructor
  · show Belongs nation (patch.nationId.getD base.nationId)
    cases given : patch.nationId with
    | none => exact belongs.owner
    | some nationId => exact named.owner nationId given
  · intro conflict nationId kept
    change patch.conflict.getD base.conflict = some conflict at kept
    cases given : patch.conflict with
    | none =>
      rw [given] at kept
      exact belongs.conflict conflict nationId kept
    | some replaced =>
      rw [given] at kept
      exact named.conflict conflict nationId (given.trans (congrArg some kept))

namespace TurnWorld

theorem modify_references {change : TurnWorld → TurnWorld}
    (rows : ∀ world, (change world).generals = world.generals ∧ (change world).cities = world.cities ∧
      (change world).troops = world.troops ∧ (change world).diplomacy = world.diplomacy ∧
      (change world).nations = world.nations) :
    KeepsReferences options exempt nation live (modify change) := by
  apply Ensures.modify
  intro world held
  obtain ⟨generals, cities, troops, diplomacy, nations⟩ := rows world
  refine ⟨held.toRowsWithin.congr generals cities troops nations ?_, ?_⟩
  · rw [diplomacy]
    exact held.relations
  · rw [diplomacy]
    exact held.matrix

theorem ignoring_references {α : Type} {operation : WorldM α}
    (keeps : KeepsReferences options exempt nation live operation) :
    KeepsReferences options exempt nation live (do let _ ← operation) :=
  keeps.seq fun _ => Ensures.pure fun _ held => held

theorem updateGeneral_references (id : Int) (patch : GeneralPatch)
    (named : ∀ nationId ∈ patch.nationId, Belongs nation nationId) :
    KeepsReferences options exempt nation live (updateGeneral id patch) := by
  apply Ensures.read
  intro world held
  cases got : world.generals.rows.get? id with
  | none => exact Ensures.pure fun state same => same ▸ held
  | some target =>
    refine Ensures.attempt fun next normalized => ensures_modify_pure ?_
    intro state same
    subst same
    apply held.setGeneral rfl
    intro charged
    rw [normalizeGeneralClock_nation normalized]
    exact belongs_patch (held.generals id target got charged) named

theorem removeGeneral_references (id : Int) : KeepsReferences options exempt nation live (removeGeneral id) := by
  apply Ensures.read
  intro world held
  split
  · apply ensures_modify_pure
    intro state same
    subst same
    exact held.removeGeneral id
  · exact Ensures.pure fun state same => same ▸ held

theorem deleteGeneralWithLifecycle_references (id year month : Int) :
    KeepsReferences options exempt nation live (deleteGeneralWithLifecycle id year month) := by
  apply Ensures.read
  intro world held
  cases world.generals.rows.get? id with
  | none => exact Ensures.pure fun state same => same ▸ held
  | some general =>
    refine Ensures.mono (Ensures.seq (modify_references ?_) fun _ => removeGeneral_references id)
      (fun state same => same ▸ held) fun _ _ held => held
    exact fun _ => ⟨rfl, rfl, rfl, rfl, rfl⟩

theorem updateCity_references (id : Int) (patch : CityPatch) (named : CityPatchBelongs options nation patch) :
    KeepsReferences options exempt nation live (updateCity id patch) := by
  apply Ensures.read
  intro world held
  cases got : world.cities.rows.get? id with
  | none => exact Ensures.pure fun state same => same ▸ held
  | some target =>
    apply ensures_modify_pure
    intro state same
    subst same
    exact held.setCity rfl ((held.cities id target got).overwrite named)

theorem updateNation_references (id : Int) (patch : NationPatch) :
    KeepsReferences options exempt nation live (updateNation id patch) := by
  apply Ensures.read
  intro world held
  cases got : world.nations.rows.get? id with
  | none => exact Ensures.pure fun state same => same ▸ held
  | some target =>
    apply ensures_modify_pure
    intro state same
    subst same
    exact held.setNation rfl (has_of_get? got)

theorem belongs_troopPatch {base : Troop} {patch : TroopPatch} (belongs : Belongs nation base.nationId)
    (named : ∀ nationId ∈ patch.nationId, Belongs nation nationId) :
    Belongs nation (applyTroopPatch base patch).nationId := by
  show Belongs nation (patch.nationId.getD base.nationId)
  cases given : patch.nationId with
  | none => exact belongs
  | some nationId => exact named nationId given

theorem updateTroop_references (id : Int) (patch : TroopPatch)
    (named : ∀ nationId ∈ patch.nationId, Belongs nation nationId) :
    KeepsReferences options exempt nation live (updateTroop id patch) := by
  apply Ensures.read
  intro world held
  cases got : world.troops.rows.get? id with
  | none => exact Ensures.pure fun state same => same ▸ held
  | some target =>
    apply ensures_modify_pure
    intro state same
    subst same
    exact held.setTroop rfl (belongs_troopPatch (held.troops id target got) named)

theorem createTroop_references {id : Int} {troop : Troop} :
    Ensures (fun world => RefersWithin options exempt nation live world ∧
        (world.troops.rows.has id = false → Belongs nation troop.nationId)) (createTroop id troop)
      fun _ => RefersWithin options exempt nation live := by
  apply Ensures.read
  intro world given
  obtain ⟨held, belongs⟩ := given
  split
  · exact Ensures.pure fun state same => same ▸ held
  · rename_i free
    apply ensures_modify_pure
    intro state same
    subst same
    exact held.setTroop rfl (belongs (by simpa using free))

theorem removeTroop_references (id : Int) : KeepsReferences options exempt nation live (removeTroop id) := by
  apply Ensures.read
  intro world held
  split
  · apply ensures_modify_pure
    intro state same
    subst same
    exact held.removeTroop id
  · exact Ensures.pure fun state same => same ▸ held

theorem applyDiplomacyPatch_references {key : DiplomacyKey} (patch : DiplomacyPatch) :
    Ensures (fun world => RefersWithin options exempt nation live world ∧
        (world.diplomacy.rows.has key = true ∨ nation key.1 ∧ nation key.2)) (applyDiplomacyPatch key patch)
      fun _ => RefersWithin options exempt nation live := by
  apply Ensures.modify
  intro world given
  obtain ⟨held, between⟩ := given
  split
  · exact held.setRelation rfl between
  · exact held.setRelation rfl between

theorem getDiplomacyEntry_references (sourceId targetId : Int) (known : ∀ id, live id → nation id) :
    KeepsReferences options exempt nation live (getDiplomacyEntry sourceId targetId) := by
  apply Ensures.read
  intro world held
  cases got : world.diplomacy.rows.get? (sourceId, targetId) with
  | some entry => exact Ensures.pure fun state same => same ▸ held
  | none =>
    dsimp only
    split
    · rename_i valid
      apply ensures_modify_pure
      intro state same
      subst same
      apply held.setRelation rfl (.inr ⟨?_, ?_⟩)
      · exact known _ ((held.nations _).mp valid.2.1)
      · exact known _ ((held.nations _).mp valid.2.2)
    · exact Ensures.pure fun state same => same ▸ held

end TurnWorld

end Sammo
