import Sammo.World.FlushRefinement
import Sammo.World.NationFall

/-! Which generals, nations and events an operation can bring in or take away. -/

namespace Sammo

open Effect InMemoryTurnWorld

/-- The ids whose rows an operation may bring in, overwrite or take away. -/
structure IdScope where
  goneGenerals : Int → Prop := fun _ => False
  newNations : Int → Prop := fun _ => False
  changedNations : Int → Prop := fun _ => False
  goneNations : Int → Prop := fun _ => False
  goneEvents : Int → Prop := fun _ => False

/-- The rows that were there at the start still are, but for those in scope, and so are the metadata. -/
structure KeepsIds (start : TurnWorld) (scope : IdScope) (world : TurnWorld) : Prop where
  metadata : world.state.metadata = start.state.metadata
  generals : ∀ id, start.generals.rows.has id = true → scope.goneGenerals id ∨ world.generals.rows.has id = true
  newNations : ∀ id, world.nations.rows.has id = true → start.nations.rows.has id = true ∨ scope.newNations id
  unchanged : ∀ id nation, world.nations.rows.get? id = some nation →
    scope.changedNations id ∨ start.nations.rows.get? id = some nation
  nations : ∀ id, start.nations.rows.has id = true → scope.goneNations id ∨ world.nations.rows.has id = true
  events : ∀ id, start.events.rows.has id = true → scope.goneEvents id ∨ world.events.rows.has id = true

/-- An operation that stays within a scope. -/
abbrev StaysWithin {α : Type} (start : TurnWorld) (scope : IdScope) (operation : WorldM α) : Prop :=
  Ensures (KeepsIds start scope) operation fun _ => KeepsIds start scope

theorem KeepsIds.refl (start : TurnWorld) (scope : IdScope) : KeepsIds start scope start :=
  ⟨rfl, fun _ there => .inr there, fun _ there => .inl there, fun _ _ got => .inr got, fun _ there => .inr there,
    fun _ there => .inr there⟩

variable {start : TurnWorld} {scope : IdScope} {world : TurnWorld}

theorem KeepsIds.setGeneral (kept : KeepsIds start scope world) {id : Int} {general : General}
    {generals : WriteBehind Int General} (rows : generals.rows = world.generals.rows.set id general) :
    KeepsIds start scope { world with generals } :=
  { kept with
    generals := fun other there => (kept.generals other there).imp_right fun still => by simp [rows, still] }

theorem KeepsIds.putGeneral (kept : KeepsIds start scope world) (id : Int) (general : General) :
    KeepsIds start scope { world with generals := world.generals.put id general } := kept.setGeneral rfl

theorem KeepsIds.insertGeneral (kept : KeepsIds start scope world) (id : Int) (general : General) :
    KeepsIds start scope { world with generals := world.generals.insert id general } := kept.setGeneral rfl

theorem KeepsIds.setNation (kept : KeepsIds start scope world) {id : Int} {nation : Nation}
    {nations : WriteBehind Int Nation} (rows : nations.rows = world.nations.rows.set id nation)
    (known : scope.newNations id ∨ world.nations.rows.has id = true) (changed : scope.changedNations id) :
    KeepsIds start scope { world with nations } :=
  { kept with
    unchanged := by
      -- Either this is the row that was written, or it is as it was.
      intro other row got
      rw [rows, OrderedMap.get?_set] at got
      split at got
      · next same => exact .inl (same ▸ changed)
      · exact kept.unchanged other row got
    newNations := by
      intro other there
      simp only [rows, OrderedMap.has_set, Bool.or_eq_true, decide_eq_true_eq] at there
      rcases there with rfl | still
      · exact known.elim .inr (kept.newNations other)
      · exact kept.newNations other still
    nations := fun other there => (kept.nations other there).imp_right fun still => by simp [rows, still] }

theorem KeepsIds.putNation (kept : KeepsIds start scope world) {id : Int} (nation : Nation)
    (known : scope.newNations id ∨ world.nations.rows.has id = true) (changed : scope.changedNations id) :
    KeepsIds start scope { world with nations := world.nations.put id nation } := kept.setNation rfl known changed

theorem KeepsIds.insertNation (kept : KeepsIds start scope world) {id : Int} (nation : Nation)
    (inScope : scope.newNations id) (changed : scope.changedNations id) :
    KeepsIds start scope { world with nations := world.nations.insert id nation } :=
  kept.setNation rfl (.inl inScope) changed

theorem KeepsIds.congr (kept : KeepsIds start scope world) {next : TurnWorld} (state : next.state = world.state)
    (generals : next.generals = world.generals) (nations : next.nations = world.nations)
    (events : next.events = world.events) : KeepsIds start scope next := by
  -- Each field reads one part of the world, which is the same in both.
  obtain ⟨metadata, generalsKept, newNations, unchanged, nationsKept, eventsKept⟩ := kept
  constructor
  · rw [state]
    exact metadata
  · rw [generals]
    exact generalsKept
  · rw [nations]
    exact newNations
  · rw [nations]
    exact unchanged
  · rw [nations]
    exact nationsKept
  · rw [events]
    exact eventsKept

namespace TurnWorld

theorem read_within {α : Type} {next : TurnWorld → WorldM α} (rest : ∀ world, StaysWithin start scope (next world)) :
    StaysWithin start scope (get >>= next) :=
  Ensures.read fun world kept => (rest world).mono (fun _ same => same ▸ kept) fun _ _ held => held

theorem ignoring_within {α : Type} {operation : WorldM α} (within : StaysWithin start scope operation) :
    StaysWithin start scope (do let _ ← operation) :=
  within.seq fun _ => Ensures.pure fun _ kept => kept

theorem removeGeneral_within {id : Int} (inScope : scope.goneGenerals id) :
    StaysWithin start scope (removeGeneral id) := by
  -- Any other general is still there.
  refine Ensures.read fun world kept => ?_
  split
  · refine ensures_modify_pure ?_
    rintro state rfl
    refine { kept with generals := fun other there => ?_ }
    by_cases same : other = id
    · exact .inl (same ▸ inScope)
    · exact (kept.generals other there).imp_right fun still => by simp [WriteBehind.remove, same, still]
  · exact Ensures.pure fun state same => same ▸ kept

theorem removeNation_within {id : Int} (inScope : scope.goneNations id) :
    StaysWithin start scope (removeNation id) := by
  -- Erasing a row brings none in, and changes no other.
  refine Ensures.read fun world kept => ?_
  split
  · refine ensures_modify_pure ?_
    rintro state rfl
    refine { kept with
      newNations := fun other there => ?_, unchanged := fun other row got => ?_, nations := fun other there => ?_ }
    · simp only [WriteBehind.remove, OrderedMap.has_erase, Bool.and_eq_true] at there
      exact kept.newNations other there.2
    · simp only [WriteBehind.remove, OrderedMap.get?_erase] at got
      split at got
      · cases got
      · exact kept.unchanged other row got
    · by_cases same : other = id
      · exact .inl (same ▸ inScope)
      · exact (kept.nations other there).imp_right fun still => by simp [WriteBehind.remove, same, still]
  · exact Ensures.pure fun state same => same ▸ kept

theorem fillDiplomacyMatrix_within (kept : KeepsIds start scope world) :
    KeepsIds start scope (fillDiplomacyMatrix world) := by
  have framed := fillDiplomacyMatrix_frame world
  have state := congrArg (fun next : TurnWorld => next.state) framed
  have generals := congrArg (fun next : TurnWorld => next.generals) framed
  have nations := congrArg (fun next : TurnWorld => next.nations) framed
  have events := congrArg (fun next : TurnWorld => next.events) framed
  dsimp only at state generals nations events
  exact kept.congr state generals nations events

theorem ensureDiplomacyMatrix_within : StaysWithin start scope ensureDiplomacyMatrix :=
  ensures_change fun _ kept => fillDiplomacyMatrix_within kept

theorem addNation_within {id : Int} (nation : Nation) (inScope : scope.newNations id)
    (changed : scope.changedNations id) :
    Ensures (KeepsIds start scope) (addNation id nation) fun _ world =>
      KeepsIds start scope world ∧ world.nations.rows.has id = true := by
  -- The nation is inserted, and then the relations to it are filled in.
  refine Ensures.read fun world kept => ?_
  split
  · rename_i taken
    exact Ensures.pure fun state same => same ▸ ⟨kept, taken⟩
  · let Added : TurnWorld → Prop := fun state => KeepsIds start scope state ∧ state.nations.rows.has id = true
    have inserted : Ensures (fun state => state = world)
        (modify fun world => { world with nations := world.nations.insert id nation } : WorldM PUnit)
        fun _ => Added := by
      refine Ensures.modify ?_
      rintro state rfl
      exact ⟨kept.insertNation nation inScope changed, by simp [WriteBehind.insert]⟩
    refine inserted.seq fun _ => Ensures.seq (Ensures.modify fun state added => ?_) fun _ =>
      Ensures.pure fun _ added => added
    have nations := congrArg (fun next : TurnWorld => next.nations) (fillDiplomacyMatrix_frame state)
    dsimp only at nations
    exact ⟨fillDiplomacyMatrix_within added.1, by rw [nations]; exact added.2⟩

theorem updateNation_within {id : Int} (patch : NationPatch) (changed : scope.changedNations id) :
    StaysWithin start scope (updateNation id patch) := by
  refine Ensures.read fun world kept => ?_
  cases got : world.nations.rows.get? id with
  | none => exact Ensures.pure fun state same => same ▸ kept
  | some target =>
    refine ensures_modify_pure ?_
    rintro state rfl
    exact kept.putNation _ (.inr (has_of_get? got)) changed

theorem updateGeneral_within (id : Int) (patch : GeneralPatch) :
    StaysWithin start scope (updateGeneral id patch) := by
  refine Ensures.read fun world kept => ?_
  cases world.generals.rows.get? id with
  | none => exact Ensures.pure fun state same => same ▸ kept
  | some target =>
    refine Ensures.attempt fun next _ => ensures_modify_pure ?_
    rintro state rfl
    exact kept.putGeneral id next

theorem deleteGeneralWithLifecycle_within {id : Int} (year month : Int) (inScope : scope.goneGenerals id) :
    StaysWithin start scope (deleteGeneralWithLifecycle id year month) := by
  refine read_within fun world => ?_
  cases world.generals.rows.get? id with
  | none => exact Ensures.pure fun _ kept => kept
  | some general =>
    exact Ensures.seq (ensures_change fun _ kept => { kept with }) fun _ => removeGeneral_within inScope

theorem removeEvent_within {id : Int} (inScope : scope.goneEvents id) :
    StaysWithin start scope (removeEvent id) := by
  -- Any other event is still there, whether this one was stored or not.
  refine Ensures.read fun world kept => ?_
  split
  · refine ensures_modify_pure ?_
    rintro state rfl
    refine { kept with events := fun other there => ?_ }
    by_cases same : other = id
    · exact .inl (same ▸ inScope)
    · refine (kept.events other there).imp_right fun still => ?_
      split
      · simp [same, still]
      · simp [same, still]
  · exact Ensures.pure fun state same => same ▸ kept

theorem addEvent_within (id : Int) (event : TurnEvent) :
    Ensures (KeepsIds start scope) (addEvent id event) fun _ world =>
      KeepsIds start scope world ∧ world.events.rows.has id = true := by
  -- An id that is taken leaves all as it is.
  refine Ensures.read fun world kept => ?_
  split
  · rename_i taken
    exact Ensures.pure fun state same => same ▸ ⟨kept, taken⟩
  · refine ensures_modify_pure ?_
    rintro state rfl
    refine ⟨{ kept with events := fun other there => ?_ }, by simp⟩
    exact (kept.events other there).imp_right fun still => by simp [still]

theorem getDiplomacyEntry_within (sourceId targetId : Int) :
    StaysWithin start scope (getDiplomacyEntry sourceId targetId) := by
  refine read_within fun world => ?_
  split
  · exact Ensures.pure fun _ kept => kept
  · split
    · exact ensures_modify_pure fun _ kept => { kept with }
    · exact Ensures.pure fun _ kept => kept

theorem listDiplomacy_within : StaysWithin start scope listDiplomacy :=
  ensureDiplomacyMatrix_within.seq fun _ => read_within fun _ => Ensures.pure fun _ kept => kept

theorem applyDiplomacyPatch_within (key : DiplomacyKey) (patch : DiplomacyPatch) :
    StaysWithin start scope (applyDiplomacyPatch key patch) :=
  ensures_change fun _ kept => { kept with }

theorem advanceDiplomacyMonth_within (generalCounts : Option (Int → Option Int)) :
    StaysWithin start scope (advanceDiplomacyMonth generalCounts) := by
  refine read_within fun world => ?_
  split
  · exact Ensures.pure fun _ kept => kept
  · exact listDiplomacy_within.seq fun _ => Ensures.forM fun _ _ => ensures_change fun _ kept => { kept with }

theorem updateCity_within (id : Int) (patch : CityPatch) : StaysWithin start scope (updateCity id patch) := by
  refine read_within fun world => ?_
  cases world.cities.rows.get? id with
  | none => exact Ensures.pure fun _ kept => kept
  | some target => exact ensures_modify_pure fun _ kept => { kept with }

theorem updateTroop_within (id : Int) (patch : TroopPatch) : StaysWithin start scope (updateTroop id patch) := by
  refine read_within fun world => ?_
  cases world.troops.rows.get? id with
  | none => exact Ensures.pure fun _ kept => kept
  | some target => exact ensures_modify_pure fun _ kept => { kept with }

theorem createTroop_within (id : Int) (troop : Troop) : StaysWithin start scope (createTroop id troop) := by
  refine read_within fun world => ?_
  split
  · exact Ensures.pure fun _ kept => kept
  · exact ensures_modify_pure fun _ kept => { kept with }

theorem removeTroop_within (id : Int) : StaysWithin start scope (removeTroop id) := by
  refine read_within fun world => ?_
  split
  · exact ensures_modify_pure fun _ kept => { kept with }
  · exact Ensures.pure fun _ kept => kept

theorem setLastTurnTime_within (turnTime : Int) : StaysWithin start scope (setLastTurnTime turnTime) := by
  refine Ensures.read fun world kept => Ensures.attempt fun _ _ => Ensures.attempt fun _ _ => ?_
  refine Ensures.modify ?_
  rintro state rfl
  exact { kept with }

theorem advanceMonth_within (options : WorldOptions) (turnTime : Int) :
    StaysWithin start scope (advanceMonth options turnTime) := by
  refine read_within fun world => ?_
  refine Ensures.attempt fun _ _ => Ensures.attempt fun _ _ => Ensures.attempt fun _ _ => ?_
  refine Ensures.seq (ensures_change fun state kept => { kept with }) fun _ => ?_
  split
  · exact advanceDiplomacyMonth_within none
  · exact Ensures.pure fun _ kept => kept

theorem getNextEventId_within : StaysWithin start scope getNextEventId :=
  read_within fun _ => Ensures.pure fun _ kept => kept

theorem setCheckpoint_within (checkpoint : Option TurnCheckpoint) :
    StaysWithin start scope (setCheckpoint checkpoint) :=
  ensures_change fun _ kept => { kept with }

theorem updateWorldConfig_within (patch : Record) : StaysWithin start scope (updateWorldConfig patch) :=
  ensures_change fun _ kept => { kept with }

theorem markGeneralAccessScoreReset_within (id : Int) :
    StaysWithin start scope (markGeneralAccessScoreReset id) := by
  refine ensures_change fun world kept => ?_
  split
  · exact { kept with }
  · exact kept

theorem replaceGeneralPoolEntries_within (entries : List TurnGeneralPoolEntry) :
    StaysWithin start scope (replaceGeneralPoolEntries entries) :=
  ensures_change fun _ kept => { kept with }

theorem pushLog_within (entry : LogEntryDraft) (occurredAt : Option Int) :
    StaysWithin start scope (pushLog entry occurredAt) :=
  ensures_change fun _ kept => { kept with }

theorem queue_within (journal : Journal) (draft : Json) : StaysWithin start scope (queue journal draft) :=
  ensures_change fun _ kept => { kept with }

theorem queueNeutralAuction_within (auction : PendingNeutralAuction) :
    StaysWithin start scope (queueNeutralAuction auction) :=
  ensures_change fun _ kept => { kept with }

theorem queueInheritancePointAdjustment_within (userId key : String) (amount : ℚ) (phase : Option String) :
    StaysWithin start scope (queueInheritancePointAdjustment userId key amount phase) := by
  unfold queueInheritancePointAdjustment
  split
  · exact Ensures.pure fun _ kept => kept
  · exact queue_within _ _

theorem queueInheritanceLog_within (userId text : String) (rest : Record) :
    StaysWithin start scope (queueInheritanceLog userId text rest) := by
  unfold queueInheritanceLog
  split
  · exact Ensures.pure fun _ kept => kept
  · exact queue_within _ _

/-! ### The fall of a nation -/

theorem releaseGenerals_within (nationId : Int) (kept : KeepsIds start scope world) :
    KeepsIds start scope (releaseGenerals nationId world) := by
  refine List.foldlRecOn (motive := KeepsIds start scope) _ _ kept ?_
  intro state kept entry _
  dsimp only
  split
  · exact kept.putGeneral _ _
  · exact kept

theorem deleteConflicts_within (options : WorldOptions) (nationId : Int) (kept : KeepsIds start scope world) :
    KeepsIds start scope (deleteConflicts options nationId world) := by
  refine List.foldlRecOn (motive := KeepsIds start scope) _ _ kept ?_
  intro state kept entry _
  dsimp only
  split
  · exact kept
  · exact { kept with }

theorem collapseNation_within (options : WorldOptions) {nationId : Int} (inScope : scope.goneNations nationId) :
    StaysWithin start scope (collapseNation options nationId) := by
  -- The disputes, cities, generals and troops go first, and only the last step takes the nation away.
  refine read_within fun world => ?_
  cases world.nations.rows.get? nationId with
  | none => exact Ensures.pure fun _ kept => kept
  | some nation =>
    refine Ensures.seq (ensures_change fun _ kept => deleteConflicts_within options nationId kept) fun _ => ?_
    refine Ensures.seq (ensures_change fun _ kept => { kept with }) fun _ => ?_
    refine Ensures.seq (ensures_change fun _ kept => releaseGenerals_within nationId kept) fun _ => ?_
    have disbanded : StaysWithin start scope (disbandTroops nationId) :=
      read_within fun _ => Ensures.forM fun entry _ => ignoring_within (removeTroop_within entry.1)
    exact disbanded.seq fun _ => (removeNation_within inScope).seq fun _ => Ensures.pure fun _ kept => kept

theorem dissolveNationWithoutSuccessor_within (options : WorldOptions) {nationId : Int}
    (dyingLordId : Option Int) (inScope : scope.goneNations nationId) :
    StaysWithin start scope (dissolveNationWithoutSuccessor options nationId dyingLordId) := by
  -- The cities are given up, the ruin is logged, and then the nation collapses.
  refine read_within fun world => ?_
  cases world.nations.rows.get? nationId with
  | none => exact Ensures.pure fun _ kept => kept
  | some nation =>
    dsimp only
    split
    · exact Ensures.throw _
    · refine (Ensures.forM fun entry _ => ignoring_within (updateCity_within _ _)).seq fun _ => ?_
      refine Ensures.seq (logRuin_frame _ _ _ ?_) fun _ => collapseNation_within options inScope
      exact fun state logs kept => { kept with }

theorem removeCollapsedNations_within (options : WorldOptions)
    (changed : ∀ id, scope.changedNations id → scope.goneNations id)
    (marked : ∀ id nation, start.nations.rows.get? id = some nation → isCollapsed nation = true →
      scope.goneNations id) : StaysWithin start scope (removeCollapsedNations options) := by
  refine Ensures.read fun world kept => ?_
  refine (Ensures.forM fun nationId listed => ignoring_within (collapseNation_within options ?_)).mono
    (fun state same => same ▸ kept) fun _ _ held => held
  -- A collapsed nation was changed, or was marked when it all started.
  obtain ⟨entry, member, rfl⟩ := List.mem_map.mp listed
  obtain ⟨there, fallen⟩ := List.mem_filter.mp member
  simp only [decide_eq_true_eq] at fallen
  rcases kept.unchanged entry.1 entry.2 (OrderedMap.mem_entries.mp there) with touched | same
  · exact changed entry.1 touched
  · exact marked entry.1 entry.2 same fallen.2.1

/-! ### A general's turn -/

/-- The rows that a general's turn may bring in, overwrite or take away. -/
def turnScope (world : TurnWorld) (id : Int) (result : GeneralTurnResult) : IdScope where
  goneGenerals := fun other => result.deletedGeneral = true ∧ other = id
  newNations := fun other => other ∈ (result.nation.toList ++ result.createdNations).map Prod.fst
  changedNations := fun other => other ∈ (result.nation.toList ++ result.createdNations).map Prod.fst ∨
    other ∈ result.nationPatches.map Prod.fst
  goneNations := fun other => result.successorlessNationId = some other ∨
    other ∈ (result.nation.toList ++ result.createdNations).map Prod.fst ∨
    other ∈ result.nationPatches.map Prod.fst ∨
    ∃ nation, world.nations.rows.get? other = some nation ∧ isCollapsed nation = true

section

variable {id : Int} {result : GeneralTurnResult} (options : WorldOptions)

theorem storeActingGeneral_within (current : General) (nextTurnAt : Int) :
    StaysWithin start scope (storeActingGeneral id current result nextTurnAt) := by
  refine Ensures.read fun world kept => ?_
  dsimp only
  split
  · exact Ensures.pure fun state same => same ▸ kept
  · refine Ensures.attempt fun _ _ => Ensures.attempt fun stored _ => ensures_modify_pure ?_
    rintro state rfl
    exact kept.putGeneral id stored

theorem takeOverResult_within (current : General) :
    StaysWithin start (turnScope start id result) (takeOverResult current result) := by
  -- The result's own nation is in the scope of the turn.
  refine read_within fun world => ?_
  have rows : ∀ state, KeepsIds start (turnScope start id result) state →
      KeepsIds start (turnScope start id result) (takeOverRows result state) := by
    intro state kept
    unfold takeOverRows
    cases given : result.nation with
    | none => exact { kept with }
    | some entry =>
      have listed : entry.1 ∈ (result.nation.toList ++ result.createdNations).map Prod.fst := by simp [given]
      have put := kept.putNation entry.2 (.inl listed) (.inl listed)
      exact { put with }
  refine Ensures.seq (ensures_change rows) fun _ => Ensures.seq (Ensures.forM fun entry _ =>
    ensures_change fun _ kept => { kept with }) fun _ => Ensures.forM fun message _ =>
      ensures_change fun _ kept => { kept with }

theorem applyTurnPatches_within : StaysWithin start (turnScope start id result) (applyTurnPatches result) := by
  -- Four kinds of rows are patched, and only the nations that are named.
  refine Ensures.seq (Ensures.forM fun item _ => Ensures.read fun world kept => ?_) fun _ =>
    Ensures.seq (Ensures.forM fun item _ => Ensures.modify fun world kept => ?_) fun _ =>
    Ensures.seq (Ensures.forM fun item listed => Ensures.modify fun world kept => ?_) fun _ =>
    Ensures.forM fun item _ => Ensures.modify fun world kept => ?_
  · cases world.generals.rows.get? item.1 with
    | none => exact Ensures.pure fun state same => same ▸ kept
    | some target =>
      refine Ensures.attempt fun next _ => Ensures.modify ?_
      rintro state rfl
      exact kept.putGeneral _ _
  · cases world.cities.rows.get? item.1 with
    | none => exact kept
    | some target => exact { kept with }
  · cases got : world.nations.rows.get? item.1 with
    | none => exact kept
    | some target => exact kept.putNation _ (.inr (has_of_get? got)) (.inr (List.mem_map_of_mem listed))
  · cases world.troops.rows.get? item.1 with
    | none => exact kept
    | some target => exact { kept with }

theorem createTroops_within (troops : List (Int × Troop)) :
    StaysWithin start scope (troops.forM fun item => modify fun world =>
      if world.troops.rows.has item.1 then world
      else { world with troops := world.troops.insert item.1 item.2 }) := by
  refine Ensures.forM fun item _ => Ensures.modify fun world kept => ?_
  split
  · exact kept
  · exact { kept with }

theorem createTurnRows_within : StaysWithin start (turnScope start id result) (createTurnRows result) := by
  -- Generals and troops are created freely, and the nations are in the scope.
  refine Ensures.seq (Ensures.forM fun item _ => Ensures.read fun world kept => ?_) fun _ =>
    read_within fun before => Ensures.seq (Ensures.forM fun item listed => Ensures.modify fun world kept => ?_)
      fun _ => ?_
  · split
    · exact Ensures.pure fun state same => same ▸ kept
    · refine Ensures.attempt fun _ _ => Ensures.attempt fun ensured _ => Ensures.modify ?_
      rintro state rfl
      exact kept.insertGeneral _ _
  · split
    · exact kept
    · have named : item.1 ∈ (result.nation.toList ++ result.createdNations).map Prod.fst :=
        List.mem_map_of_mem (List.mem_append_right _ listed)
      exact kept.insertNation _ named (.inl named)
  · split
    · exact ensureDiplomacyMatrix_within.seq fun _ => createTroops_within _
    · exact createTroops_within _

theorem removeTurnRows_within (resolved : General) :
    StaysWithin start (turnScope start id result) (removeTurnRows options id resolved result) := by
  -- The dying lord, a general that is deleted, and the nations that have collapsed are in the scope.
  have dissolved : ∀ nationId ∈ result.successorlessNationId.toList,
      StaysWithin start (turnScope start id result) (dissolveLordsNation options id resolved nationId) := by
    intro nationId listed
    refine Ensures.seq (Ensures.modify fun world kept => ?_) fun _ =>
      ignoring_within (dissolveNationWithoutSuccessor_within options (some id) (.inl (Option.mem_toList.mp listed)))
    -- The dying lord is put back among the generals.
    exact { kept with
      generals := fun other there => (kept.generals other there).imp_right fun still => by simp [still] }
  have removed : StaysWithin start (turnScope start id result) (removeActingGeneral options id resolved result) := by
    refine (Ensures.forM dissolved).seq fun _ => ?_
    split
    · rename_i last
      exact ignoring_within (removeGeneral_within ⟨last, rfl⟩)
    · exact Ensures.pure fun _ kept => kept
  refine (Ensures.forM fun troopId _ => ignoring_within (removeTroop_within troopId)).seq fun _ => ?_
  refine removed.seq fun _ => Ensures.seq (ensures_change fun _ kept => { kept with }) fun _ => ?_
  refine removeCollapsedNations_within options ?_ ?_
  · rintro other (named | patched)
    · exact .inr (.inl named)
    · exact .inr (.inr (.inl patched))
  · exact fun other nation got marked => .inr (.inr (.inr ⟨nation, got, marked⟩))

theorem executeGeneralTurn_within (general : General) :
    StaysWithin start (turnScope start id result) (executeGeneralTurn options id general result) := by
  -- The stages of the turn follow one another, each within the scope.
  refine read_within fun world => ?_
  refine Ensures.attempt fun _ _ => Ensures.attempt fun _ _ => ?_
  refine Ensures.seq (Ensures.forM fun _ _ => ensures_change fun _ kept => { kept with }) fun _ => ?_
  refine (storeActingGeneral_within _ _).seq fun stored => ?_
  refine (takeOverResult_within _).seq fun _ => ?_
  refine applyTurnPatches_within.seq fun _ => ?_
  refine Ensures.seq (Ensures.forM fun item _ => applyDiplomacyPatch_within item.1 item.2) fun _ => ?_
  refine createTurnRows_within.seq fun _ => ?_
  refine (removeTurnRows_within options _).seq fun _ => ?_
  exact read_within fun final => Ensures.pure fun _ kept => kept

end

end TurnWorld

end Sammo
