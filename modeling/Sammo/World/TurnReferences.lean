import Sammo.World.NationFall

/-! A general's turn whose result refers to known nations leaves no reference to a nation that is not there. -/

namespace Sammo

open Effect TurnWorld

variable {options : WorldOptions} {exempt : Option Int} {nation live : Int → Prop} {world : TurnWorld}

variable {more : Int → Prop}

theorem Belongs.wider {nationId : Int} (belongs : Belongs nation nationId) (wider : ∀ id, nation id → more id) :
    Belongs more nationId :=
  belongs.imp_right (wider nationId)

theorem RefersWithin.wider (held : RefersWithin options none nation live world) (exempt : Option Int)
    (wider : ∀ id, nation id → more id) : RefersWithin options exempt more live world := by
  refine { held with generals := ?_, cities := ?_, troops := ?_, relations := ?_ }
  · intro id general got _
    exact (held.generals id general got (by simp)).wider wider
  · intro id city got
    have belongs := held.cities id city got
    exact ⟨belongs.owner.wider wider, fun conflict nationId stored disputed =>
      (belongs.conflict conflict nationId stored disputed).wider wider⟩
  · intro id troop got
    exact (held.troops id troop got).wider wider
  · intro key there
    exact (held.relations key there).imp (wider key.1) (wider key.2)

/-- The nations of the world, and those a turn result brings in. -/
def GeneralTurnResult.Knows (result : GeneralTurnResult) (world : TurnWorld) (id : Int) : Prop :=
  world.Live id ∨ id ∈ result.createdNations.map Prod.fst

/-- A turn result refers only to nations of the world and to those it brings in. -/
structure RefersToKnown (options : WorldOptions) (world : TurnWorld) (id : Int) (general : General)
    (result : GeneralTurnResult) : Prop where
  /-- A general that lives on serves one of them. -/
  acting : result.deletedGeneral = false →
    Belongs (result.Knows world) (result.general.getD ((world.generals.rows.get? id).getD general)).nationId
  city : ∀ entry ∈ result.city, CityBelongs options (result.Knows world) entry.2
  /-- A nation is only handed back, never brought in without its relations. -/
  nation : ∀ entry ∈ result.nation, world.Live entry.1
  generalPatches : ∀ entry ∈ result.generalPatches, ∀ nationId ∈ entry.2.nationId,
    Belongs (result.Knows world) nationId
  cityPatches : ∀ entry ∈ result.cityPatches, CityPatchBelongs options (result.Knows world) entry.2
  troopPatches : ∀ entry ∈ result.troopPatches, ∀ nationId ∈ entry.2.nationId,
    Belongs (result.Knows world) nationId
  diplomacyPatches : ∀ entry ∈ result.diplomacyPatches,
    result.Knows world entry.1.1 ∧ result.Knows world entry.1.2
  createdGenerals : ∀ entry ∈ result.createdGenerals, Belongs (result.Knows world) entry.2.nationId
  createdTroops : ∀ entry ∈ result.createdTroops, Belongs (result.Knows world) entry.2.nationId

/-- The general whose row may say anything, because it is removed at the end of its turn. -/
def exemptGeneral (id : Int) (result : GeneralTurnResult) : Option Int :=
  if result.deletedGeneral then some id else none

theorem charged_lives {id : Int} {result : GeneralTurnResult} (charged : some id ≠ exemptGeneral id result) :
    result.deletedGeneral = false := by
  cases deleted : result.deletedGeneral with
  | false => rfl
  | true => simp [exemptGeneral, deleted] at charged

theorem nextGeneralTurn_nation {clock : GameClock} {current resolved : General} {nextTurnAt : Int}
    {next : Int × Int × General} (found : nextGeneralTurn clock current resolved nextTurnAt = .ok next) :
    next.2.2.nationId = resolved.nationId := by
  simp only [nextGeneralTurn, Bind.bind, Except.bind] at found
  repeat' split at found
  all_goals first
    | cases found
      done
    | rw [← Except.ok.inj found]

theorem storedAfterTurn_nation {clock : GameClock} {current resolved stored : General} {nextTick nextTurnAt : Int}
    (found : storedAfterTurn clock current resolved nextTick nextTurnAt = .ok stored) :
    stored.nationId = resolved.nationId := by
  unfold storedAfterTurn at found
  have kept := normalizeGeneralClock_nation found
  exact kept

namespace TurnWorld

variable {result : GeneralTurnResult} {id : Int} {resolved : General}

theorem storeActingGeneral_references {current : General} (nextTurnAt : Int)
    (belongs : result.deletedGeneral = false → Belongs nation (result.general.getD current).nationId) :
    Ensures (RefersWithin options exempt nation live) (storeActingGeneral id current result nextTurnAt)
      fun stored world => RefersWithin options exempt nation live world ∧
        stored.2.nationId = (result.general.getD current).nationId := by
  apply Ensures.read
  intro world held
  dsimp only
  split
  · exact Ensures.pure fun state same => ⟨same ▸ held, rfl⟩
  · rename_i lives
    refine Ensures.attempt fun next found => Ensures.attempt fun stored placed => ensures_modify_pure ?_
    intro state same
    subst same
    have unmoved := nextGeneralTurn_nation found
    refine ⟨held.setGeneral rfl ?_, unmoved⟩
    intro _
    rw [storedAfterTurn_nation placed, unmoved]
    exact belongs (by simpa using lives)

theorem takeOverCity_references (city : ∀ entry ∈ result.city, CityBelongs options nation entry.2)
    (held : RefersWithin options exempt nation live world) :
    RefersWithin options exempt nation live { world with
      cities := match result.city with
        | some (id, city) => world.cities.put id city
        | none => world.cities } := by
  cases given : result.city with
  | none => exact held
  | some entry => exact held.setCity rfl (city entry given)

theorem takeOverRows_references (city : ∀ entry ∈ result.city, CityBelongs options nation entry.2)
    (known : ∀ entry ∈ result.nation, live entry.1) (held : RefersWithin options exempt nation live world) :
    RefersWithin options exempt nation live (takeOverRows result world) := by
  have afterCity := takeOverCity_references city held
  unfold takeOverRows
  cases given : result.nation with
  | none => exact afterCity
  | some entry => exact afterCity.setNation rfl ((held.nations entry.1).mpr (known entry given))

theorem takeOverResult_references (current : General)
    (city : ∀ entry ∈ result.city, CityBelongs options nation entry.2)
    (known : ∀ entry ∈ result.nation, live entry.1) :
    KeepsReferences options exempt nation live (takeOverResult current result) := by
  refine Ensures.read fun world held => ?_
  refine Ensures.mono ?_ (fun state same => same ▸ held) fun _ _ kept => kept
  refine Ensures.seq (ensures_change fun state kept => takeOverRows_references city known kept) fun _ => ?_
  refine Ensures.seq (Ensures.forM fun entry _ => ensures_change fun state kept => { kept with }) fun _ => ?_
  exact Ensures.forM fun message _ => ensures_change fun state kept => { kept with }

theorem applyTurnPatches_references
    (generals : ∀ entry ∈ result.generalPatches, ∀ nationId ∈ entry.2.nationId, Belongs nation nationId)
    (cities : ∀ entry ∈ result.cityPatches, CityPatchBelongs options nation entry.2)
    (troops : ∀ entry ∈ result.troopPatches, ∀ nationId ∈ entry.2.nationId, Belongs nation nationId) :
    KeepsReferences options exempt nation live (applyTurnPatches result) := by
  refine Ensures.seq (Ensures.forM fun item listed => Ensures.read fun world held => ?_) fun _ =>
    Ensures.seq (Ensures.forM fun item listed => Ensures.modify fun world held => ?_) fun _ =>
    Ensures.seq (Ensures.forM fun item listed => Ensures.modify fun world held => ?_) fun _ =>
    Ensures.forM fun item listed => Ensures.modify fun world held => ?_
  · cases got : world.generals.rows.get? item.1 with
    | none => exact Ensures.pure fun state same => same ▸ held
    | some target =>
      refine Ensures.attempt fun next normalized => Ensures.modify ?_
      intro state same
      subst same
      apply held.setGeneral rfl
      intro charged
      rw [normalizeGeneralClock_nation normalized, normalizeGeneralTurnTime_nation]
      exact belongs_patch (held.generals item.1 target got charged) (generals item listed)
  · cases got : world.cities.rows.get? item.1 with
    | none => exact held
    | some target =>
      have belongs := (held.cities item.1 target got).overwrite (cities item listed)
      exact held.setCity rfl ⟨belongs.owner, belongs.conflict⟩
  · cases got : world.nations.rows.get? item.1 with
    | none => exact held
    | some target => exact held.setNation rfl (has_of_get? got)
  · cases got : world.troops.rows.get? item.1 with
    | none => exact held
    | some target => exact held.setTroop rfl (belongs_troopPatch (held.troops item.1 target got) (troops item listed))

theorem diplomacyPatches_references
    (between : ∀ entry ∈ result.diplomacyPatches, nation entry.1.1 ∧ nation entry.1.2) :
    KeepsReferences options exempt nation live
      (result.diplomacyPatches.forM fun (key, patch) => applyDiplomacyPatch key patch) := by
  apply Ensures.forM
  intro item listed
  exact (applyDiplomacyPatch_references item.2).mono (fun state held => ⟨held, .inr (between item listed)⟩)
    fun _ _ held => held

theorem createGenerals_references (generals : ∀ entry ∈ result.createdGenerals, Belongs nation entry.2.nationId) :
    KeepsReferences options exempt nation live (result.createdGenerals.forM fun (id, general) => do
      let world ← get
      if world.generals.rows.has id then pure ()
      else
        let normalized ← Effect.ofExcept (normalizeGeneralClock world.state.clock
          (normalizeGeneralTurnTime general world.state.lastTurnTime))
        let ensured ← Effect.ofExcept
          (ensureGeneralKillturn id normalized (resolveWorldKillturn world.state.metadata))
        modify fun world => { world with
          generals := world.generals.insert id (normalizeGeneralDatabaseIntegers ensured) }) := by
  apply Ensures.forM
  intro item listed
  refine Ensures.read fun world held => ?_
  split
  · exact Ensures.pure fun state same => same ▸ held
  · refine Ensures.attempt fun normalized placed => Ensures.attempt fun ensured given => Ensures.modify ?_
    intro state same
    subst same
    apply held.setGeneral rfl
    intro _
    show Belongs nation ensured.nationId
    rw [ensureGeneralKillturn_nation given, normalizeGeneralClock_nation placed, normalizeGeneralTurnTime_nation]
    exact generals item listed

theorem createTroops_references (troops : ∀ entry ∈ result.createdTroops, Belongs nation entry.2.nationId) :
    KeepsReferences options exempt nation live (result.createdTroops.forM fun (id, troop) =>
      modify fun world => if world.troops.rows.has id then world
        else { world with troops := world.troops.insert id troop }) := by
  refine Ensures.forM fun item listed => Ensures.modify fun world held => ?_
  split
  · exact held
  · exact held.setTroop rfl (troops item listed)

theorem createNations_rows {before : TurnWorld}
    (known : ∀ id, nation id ↔ live id ∨ id ∈ result.createdNations.map Prod.fst)
    (held : RefersWithin options exempt nation live before) :
    Ensures (fun state => state = before) (result.createdNations.forM fun (id, nation) => modify fun world =>
        if world.nations.rows.has id then world
        else { world with nations := world.nations.insert id nation } : WorldM PUnit)
      fun _ state => RowsWithin options exempt nation nation state ∧ state.diplomacy = before.diplomacy := by
  -- What is still missing are the nations of the rounds to come; the relations stay as they were.
  let Pending : List (Int × Nation) → TurnWorld → Prop := fun rest state =>
    RowsWithin options exempt nation state.Live state ∧
      (∀ id, nation id ↔ state.Live id ∨ id ∈ rest.map Prod.fst) ∧ state.diplomacy = before.diplomacy
  have round (item : Int × Nation) (rest : List (Int × Nation)) :
      Ensures (Pending (item :: rest)) (modify fun world => if world.nations.rows.has item.1 then world
        else { world with nations := world.nations.insert item.1 item.2 } : WorldM PUnit)
        fun _ => Pending rest := by
    apply Ensures.modify
    intro state pending
    obtain ⟨rows, missing, relations⟩ := pending
    split
    · rename_i there
      refine ⟨rows, ?_, relations⟩
      intro id
      rw [missing id, List.map_cons, List.mem_cons]
      constructor
      · intro either
        rcases either with present | same | later
        · exact .inl present
        · exact .inl (same ▸ there)
        · exact .inr later
      · intro either
        exact either.imp_right .inr
    · refine ⟨{ rows with nations := fun _ => Iff.rfl }, ?_, relations⟩
      intro id
      rw [missing id, List.map_cons, List.mem_cons]
      simp only [Live, WriteBehind.insert, OrderedMap.has_set, Bool.or_eq_true, decide_eq_true_eq]
      tauto
  refine (Ensures.forM_rest round).mono ?_ ?_
  · intro state same
    subst same
    have same : state.Live = live := funext fun id => propext (held.nations id)
    refine ⟨?_, ?_, rfl⟩
    · rw [same]
      exact held.toRowsWithin
    · rw [same]
      exact known
  · intro _ state pending
    have all : nation = state.Live := funext fun id => propext ((pending.2.1 id).trans (by simp))
    have rows := pending.1
    rw [← all] at rows
    exact ⟨rows, pending.2.2⟩

theorem createTurnRows_references (known : ∀ id, nation id ↔ live id ∨ id ∈ result.createdNations.map Prod.fst)
    (generals : ∀ entry ∈ result.createdGenerals, Belongs nation entry.2.nationId)
    (troops : ∀ entry ∈ result.createdTroops, Belongs nation entry.2.nationId) :
    Ensures (RefersWithin options exempt nation live) (createTurnRows result)
      fun _ => RefersWithin options exempt nation nation := by
  refine Ensures.seq (createGenerals_references generals) fun _ => Ensures.read fun before held => ?_
  refine (createNations_rows known held).seq fun _ => ?_
  split
  · refine Ensures.seq (Ensures.modify fun state created => ?_) fun _ => createTroops_references troops
    exact created.1.fill fun _ there => there
  · -- Without a new nation the old ones are all, and they had their relations.
    rename_i none_new
    have old (id : Int) : nation id → live id := by
      intro there
      rcases (known id).mp there with present | created
      · exact present
      · obtain ⟨entry, listed, named⟩ := List.mem_map.mp created
        simp only [List.any_eq_true, Bool.not_eq_true', not_exists, not_and, Bool.not_eq_false] at none_new
        rw [← named]
        exact (held.nations _).mp (none_new entry listed)
    refine (createTroops_references troops).mono ?_ fun _ _ held => held
    intro state created
    refine ⟨created.1, ?_⟩
    intro source target fromLive toLive differ
    rw [created.2]
    exact held.matrix source target (old _ fromLive) (old _ toLive) differ

theorem dissolveLordsNation_sound (nationId : Int) (belongs : some id ≠ exempt → Belongs live resolved.nationId) :
    Ensures (RefersWithin options exempt live live) (dissolveLordsNation options id resolved nationId)
      fun _ => Sound options exempt := by
  have putBack : Ensures (RefersWithin options exempt live live) (modify fun world => { world with
      generals := { world.generals with rows := world.generals.rows.set id resolved } } : WorldM PUnit)
      fun _ => Sound options exempt := by
    apply Ensures.modify
    intro world held
    exact (held.setGeneral rfl belongs).sound
  refine putBack.seq fun _ => ?_
  exact (dissolveNationWithoutSuccessor_sound nationId (some id)).seq fun _ => Ensures.pure fun _ sound => sound

theorem removeGeneral_charges (id : Int) :
    Ensures (Sound options (some id)) (removeGeneral id) fun _ => Sound options none := by
  apply Ensures.read
  intro world held
  split
  · apply ensures_modify_pure
    intro state same
    subst same
    refine { held.removeGeneral id with generals := ?_ }
    intro other general got _
    simp only [WriteBehind.remove, OrderedMap.get?_erase] at got
    split at got
    · cases got
    · rename_i differs
      exact held.generals other general got (fun same => differs (Option.some.inj same))
  · rename_i absent
    apply Ensures.pure
    intro state same
    subst same
    refine { held with generals := ?_ }
    intro other general got _
    apply held.generals other general got
    intro same
    rw [← Option.some.inj same] at absent
    exact absent (has_of_get? got)

theorem removeActingGeneral_sound (belongs : result.deletedGeneral = false → Belongs live resolved.nationId) :
    Ensures (RefersWithin options (exemptGeneral id result) live live)
      (removeActingGeneral options id resolved result) fun _ => Sound options none := by
  have dissolved : Ensures (RefersWithin options (exemptGeneral id result) live live)
      (result.successorlessNationId.toList.forM (dissolveLordsNation options id resolved))
      fun _ => Sound options (exemptGeneral id result) := by
    cases result.successorlessNationId with
    | none => exact Ensures.pure fun _ held => held.sound
    | some nationId =>
      refine Ensures.seq (dissolveLordsNation_sound nationId fun charged => belongs (charged_lives charged)) ?_
      exact fun _ => Ensures.pure fun _ sound => sound
  refine dissolved.seq fun _ => ?_
  split
  · rename_i deleted
    rw [exemptGeneral, if_pos deleted]
    exact (removeGeneral_charges id).seq fun _ => Ensures.pure fun _ sound => sound
  · rename_i lives
    rw [exemptGeneral, if_neg lives]
    exact Ensures.pure fun _ sound => sound

theorem removeTurnRows_sound (belongs : result.deletedGeneral = false → Belongs live resolved.nationId) :
    Ensures (RefersWithin options (exemptGeneral id result) live live)
      (removeTurnRows options id resolved result) fun _ => Sound options none := by
  refine Ensures.seq (Ensures.forM fun troopId _ => ignoring_references (removeTroop_references troopId)) fun _ => ?_
  refine (removeActingGeneral_sound belongs).seq fun _ => ?_
  exact Ensures.seq (ensures_change fun _ held => { held with }) fun _ => removeCollapsedNations_sound

theorem executeGeneralTurn_sound {general : General} :
    Ensures (fun world => Sound options none world ∧ RefersToKnown options world id general result)
      (executeGeneralTurn options id general result) fun _ => Sound options none := by
  apply Ensures.read
  intro start given
  obtain ⟨sound, known⟩ := given
  let Middle : TurnWorld → Prop := RefersWithin options (exemptGeneral id result) (result.Knows start) start.Live
  have held : Middle start := sound.wider (exemptGeneral id result) fun _ there => .inl there
  refine Ensures.attempt fun _ _ => Ensures.attempt fun _ _ => ?_
  refine Ensures.mono ?_ (fun state same => show Middle state from same ▸ held) fun _ _ sound => sound
  refine Ensures.seq (Ensures.forM fun _ _ => ensures_change fun _ kept => { kept with }) fun _ => ?_
  refine (storeActingGeneral_references _ known.acting).bind fun stored => ?_
  -- The general is put back with the nation it was stored with.
  refine Ensures.assuming (fun state kept => show Middle state ∧ _ from kept) fun resolved => ?_
  refine Ensures.seq (takeOverResult_references _ known.city known.nation) fun _ => ?_
  refine Ensures.seq (applyTurnPatches_references known.generalPatches known.cityPatches known.troopPatches) fun _ => ?_
  refine Ensures.seq (diplomacyPatches_references known.diplomacyPatches) fun _ => ?_
  refine Ensures.seq (createTurnRows_references (fun _ => Iff.rfl) known.createdGenerals known.createdTroops) fun _ => ?_
  refine Ensures.seq (removeTurnRows_sound fun lives => ?_) fun _ => ?_
  · rw [resolved]
    exact known.acting lives
  · exact Ensures.read fun final sound => Ensures.pure fun state same => same ▸ sound

end TurnWorld

end Sammo
