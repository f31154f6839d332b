import Mathlib
import Sammo.Data.JsonPatchLaws
import Sammo.World.Rollback
import Sammo.World.TurnIds

/-! New ids are not ones that were used before, as long as what they are counted from is not taken away. -/

namespace Sammo

open Effect InMemoryTurnWorld TurnWorld

/-- The rows that an operation may bring in, overwrite or take away. -/
def WorldOperation.scope (world : TurnWorld) : WorldOperation → IdScope
  | .removeGeneral id => { goneGenerals := fun other => other = id }
  | .deleteGeneralWithLifecycle id _ _ => { goneGenerals := fun other => other = id }
  | .addNation id _ => { newNations := fun other => other = id, changedNations := fun other => other = id }
  | .updateNation id _ => { changedNations := fun other => other = id }
  | .removeNation id => { goneNations := fun other => other = id }
  | .collapseNation id => { goneNations := fun other => other = id }
  | .dissolveNationWithoutSuccessor id _ => { goneNations := fun other => other = id }
  | .removeEvent id => { goneEvents := fun other => other = id }
  | .executeGeneralTurn id _ result => turnScope world id result
  | _ => {}

/-- An operation that writes the world's metadata. -/
def WorldOperation.WritesMetadata : WorldOperation → Prop
  | .getNextNationId => True
  | .getNextGeneralId => True
  | .updateWorldMeta _ => True
  | _ => False

theorem addGeneral_within {start : TurnWorld} {scope : IdScope} (id : Int) (general : General) :
    Ensures (fun world : InMemoryTurnWorld => KeepsIds start scope world.toTurnWorld)
      (InMemoryTurnWorld.addGeneral id general) fun _ world => KeepsIds start scope world.toTurnWorld := by
  -- An id that is taken leaves all as it is, and another is inserted.
  refine Ensures.read fun world kept => ?_
  split
  · exact Ensures.pure fun state same => same ▸ kept
  · refine Ensures.attempt fun normalized _ => ?_
    let Kept : InMemoryTurnWorld → Prop := fun state => KeepsIds start scope state.toTurnWorld
    have counted (order : Int) : Ensures (fun state => state = world)
        (modify fun world => { world with nextLegacyGeneralScanOrder := order } :
          Effect String InMemoryTurnWorld PUnit) fun _ => Kept := by
      refine Ensures.modify ?_
      rintro state rfl
      exact kept
    refine Ensures.seq (counted _) fun _ => Ensures.attempt fun ensured _ => ensures_modify_pure fun state kept => ?_
    exact kept.insertGeneral _ _

theorem operation_within (options : WorldOptions) {start : TurnWorld} (operation : WorldOperation)
    (noMetadata : ¬ operation.WritesMetadata) :
    Ensures (fun world : InMemoryTurnWorld => KeepsIds start (operation.scope start) world.toTurnWorld)
      (operation.run options) fun _ world => KeepsIds start (operation.scope start) world.toTurnWorld := by
  -- Each operation has its own lemma, and the scope is what it needs.
  cases operation with
  | addGeneral id general => exact (addGeneral_within id general).seq fun _ => Ensures.pure fun _ kept => kept
  | addNation id nation =>
    exact onWorld_keeps .flag ((addNation_within nation rfl rfl).mono (fun _ kept => kept) fun _ _ added => added.1)
  | addEvent id event =>
    exact onWorld_keeps .flag ((addEvent_within id event).mono (fun _ kept => kept) fun _ _ added => added.1)
  | createTroop id troop => exact onWorld_keeps .troop (createTroop_within id troop)
  | applyDiplomacyPatch key patch => exact onWorld_keeps (fun _ => .done) (applyDiplomacyPatch_within key patch)
  | executeGeneralTurn id general result =>
    exact onWorld_keeps .execution (executeGeneralTurn_within options general)
  | updateGeneral id patch => exact onWorld_keeps .general (updateGeneral_within id patch)
  | removeGeneral id => exact onWorld_keeps .flag (removeGeneral_within rfl)
  | deleteGeneralWithLifecycle id year month =>
    exact onWorld_keeps .flag (deleteGeneralWithLifecycle_within year month rfl)
  | updateNation id patch => exact onWorld_keeps .nation (updateNation_within patch rfl)
  | removeNation id => exact onWorld_keeps .flag (removeNation_within rfl)
  | collapseNation id => exact onWorld_keeps .flag (collapseNation_within options rfl)
  | dissolveNationWithoutSuccessor id dyingLordId =>
    exact onWorld_keeps .flag (dissolveNationWithoutSuccessor_within options dyingLordId rfl)
  | updateCity id patch => exact onWorld_keeps .city (updateCity_within id patch)
  | updateTroop id patch => exact onWorld_keeps .troop (updateTroop_within id patch)
  | removeTroop id => exact onWorld_keeps .flag (removeTroop_within id)
  | removeEvent id => exact onWorld_keeps .flag (removeEvent_within rfl)
  | getDiplomacyEntry sourceId targetId =>
    exact onWorld_keeps .relation (getDiplomacyEntry_within sourceId targetId)
  | listDiplomacy => exact onWorld_keeps .relations listDiplomacy_within
  | advanceDiplomacyMonth generalCounts =>
    exact onWorld_keeps (fun _ => .done) (advanceDiplomacyMonth_within generalCounts)
  | advanceMonth turnTime => exact onWorld_keeps (fun _ => .done) (advanceMonth_within options turnTime)
  | getNextNationId => exact absurd trivial noMetadata
  | getNextEventId => exact onWorld_keeps .id getNextEventId_within
  | getNextGeneralId => exact absurd trivial noMetadata
  | setLastTurnTime turnTime => exact onWorld_keeps (fun _ => .done) (setLastTurnTime_within turnTime)
  | setCheckpoint checkpoint => exact onWorld_keeps (fun _ => .done) (setCheckpoint_within checkpoint)
  | updateWorldMeta patch => exact absurd trivial noMetadata
  | updateWorldConfig patch => exact onWorld_keeps (fun _ => .done) (updateWorldConfig_within patch)
  | markGeneralAccessScoreReset id =>
    exact onWorld_keeps (fun _ => .done) (markGeneralAccessScoreReset_within id)
  | replaceGeneralPoolEntries entries =>
    exact onWorld_keeps (fun _ => .done) (replaceGeneralPoolEntries_within entries)
  | pushLog entry occurredAt => exact onWorld_keeps (fun _ => .done) (pushLog_within entry occurredAt)
  | queue journal draft => exact onWorld_keeps (fun _ => .done) (queue_within journal draft)
  | queueNeutralAuction auction => exact onWorld_keeps (fun _ => .done) (queueNeutralAuction_within auction)
  | queueInheritancePointAdjustment userId key amount phase =>
    exact onWorld_keeps (fun _ => .done) (queueInheritancePointAdjustment_within userId key amount phase)
  | queueInheritanceLog userId text rest =>
    exact onWorld_keeps (fun _ => .done) (queueInheritanceLog_within userId text rest)

/-! ### What new ids are counted from -/

/-- The id that a world remembers for its generals. -/
def TurnWorld.lastGeneralId (world : TurnWorld) : Int := world.markedId "lastGeneralId"

/-- The id that a world remembers for its nations. -/
def TurnWorld.lastNationId (world : TurnWorld) : Int := world.markedId "lastNationId"

/-- A general's new id is counted from the id remembered, and from those of the generals. -/
def generalBounds (world : TurnWorld) : Set Int :=
  { bound | bound = world.lastGeneralId ∨ world.generals.rows.has bound = true }

/-- A nation's new id is counted from the id remembered, or while none is, from those of the nations. -/
def nationBounds (world : TurnWorld) : Set Int :=
  { bound | if world.lastNationId = 0 then world.nations.rows.has bound = true else bound = world.lastNationId }

/-- An event's new id is counted from those of the events. -/
def eventBounds (world : TurnWorld) : Set Int := { bound | world.events.rows.has bound = true }

/-- Ids that rows of each kind have had. -/
structure UsedIds where
  generals : Set Int
  nations : Set Int
  events : Set Int

/-- The ids of the rows of a world. -/
def liveIds (world : TurnWorld) : UsedIds where
  generals := { id | world.generals.rows.has id = true }
  nations := { id | world.nations.rows.has id = true }
  events := { id | world.events.rows.has id = true }

/-- The generals that a turn brings in. -/
def WorldOperation.createdGenerals : WorldOperation → List Int
  | .executeGeneralTurn _ _ result => result.createdGenerals.map Prod.fst
  | _ => []

/-- The nations that a turn brings in. -/
def WorldOperation.createdNations : WorldOperation → List Int
  | .executeGeneralTurn _ _ result => result.createdNations.map Prod.fst
  | _ => []

/-- The ids used after an operation: the new rows', even of those that it takes away again. -/
def UsedIds.after (used : UsedIds) (operation : WorldOperation) (next : TurnWorld) : UsedIds where
  generals := used.generals ∪ { id | id ∈ operation.createdGenerals } ∪ (liveIds next).generals
  nations := used.nations ∪ { id | id ∈ operation.createdNations } ∪ (liveIds next).nations
  events := used.events ∪ (liveIds next).events

/-- No used id is above all that new ones are counted from. -/
structure CoversUsed (world : TurnWorld) (used : UsedIds) : Prop where
  generals : used.generals ⊆ lowerClosure (generalBounds world)
  nations : used.nations ⊆ lowerClosure (nationBounds world)
  events : used.events ⊆ lowerClosure (eventBounds world)
  live : ∀ id, world.nations.rows.has id = true → id ∈ used.nations ∧ 0 ≤ id
  counted : 0 ≤ world.lastNationId

/-- A row that goes leaves one with a larger id behind. -/
def Overtaken (live gone : Int → Prop) (id : Int) : Prop := ∃ other, live other ∧ ¬ gone other ∧ id < other

/-- The remembered ids are moved on, that of the nations beyond every nation. -/
def CountsOn (world next : TurnWorld) : Prop :=
  world.lastGeneralId ≤ next.lastGeneralId ∧
    (next.lastNationId = world.lastNationId ∨ world.lastNationId ≤ next.lastNationId ∧ next.lastNationId ≠ 0 ∧
      ∀ id, world.nations.rows.has id = true → id ≤ next.lastNationId)

/--
An operation takes away no row from which the next id is counted.

What it brings in has ids that were given out, and it sets no remembered id back.
-/
structure KeepsFreshness (world : TurnWorld) (operation : WorldOperation) : Prop where
  generals : ∀ id, (operation.scope world).goneGenerals id → world.generals.rows.has id = true →
    id ≤ world.lastGeneralId ∨
      Overtaken (fun other => world.generals.rows.has other = true) (operation.scope world).goneGenerals id
  nations : world.lastNationId = 0 → ∀ id, (operation.scope world).goneNations id →
    world.nations.rows.has id = true →
      Overtaken (fun other => world.nations.rows.has other = true) (operation.scope world).goneNations id
  events : ∀ id, (operation.scope world).goneEvents id → world.events.rows.has id = true →
    Overtaken (fun other => world.events.rows.has other = true) (operation.scope world).goneEvents id
  createdGenerals : ∀ id ∈ operation.createdGenerals, id ≤ world.lastGeneralId
  createdNations : ∀ id ∈ operation.createdNations, world.lastNationId ≠ 0 ∧ id ≤ world.lastNationId
  newNations : ∀ id, (operation.scope world).newNations id →
    0 ≤ id ∧ (world.lastNationId = 0 ∨ world.nations.rows.has id = true ∨ id ≤ world.lastNationId)
  metadata : ∀ patch, operation = .updateWorldMeta patch →
    CountsOn world { world with state := { world.state with metadata := world.state.metadata.merge patch } }

section

variable {world next : TurnWorld} {used : UsedIds}

theorem covers_of_bounds {bounds others : Set Int} (bounded : ∀ bound ∈ bounds, ∃ other ∈ others, bound ≤ other) :
    (lowerClosure bounds : Set Int) ⊆ lowerClosure others :=
  -- The closure downwards is the smallest set that is closed downwards.
  lowerClosure_min (fun bound listed => mem_lowerClosure.mpr (bounded bound listed)) (lowerClosure others).lower

theorem covered_of_overtaken {live gone later : Int → Prop} (kept : ∀ id, live id → gone id ∨ later id)
    (overtaken : ∀ id, gone id → live id → Overtaken live gone id) :
    ∀ bound, live bound → ∃ other, later other ∧ bound ≤ other := by
  intro bound there
  rcases kept bound there with gone | still
  · obtain ⟨other, live, notGone, larger⟩ := overtaken bound gone there
    exact ⟨other, (kept other live).resolve_left notGone, larger.le⟩
  · exact ⟨bound, still, le_rfl⟩

theorem lastIds_of_metadata (same : next.state.metadata = world.state.metadata) :
    next.lastGeneralId = world.lastGeneralId ∧ next.lastNationId = world.lastNationId := by
  constructor
  · simp only [TurnWorld.lastGeneralId, markedId, same]
  · simp only [TurnWorld.lastNationId, markedId, same]

theorem KeepsIds.lastIds {scope : IdScope} (kept : KeepsIds world scope next) :
    next.lastGeneralId = world.lastGeneralId ∧ next.lastNationId = world.lastNationId :=
  lastIds_of_metadata kept.metadata

variable {operation : WorldOperation}

theorem CoversUsed.keepGenerals (covers : CoversUsed world used) (keeps : KeepsFreshness world operation)
    (kept : KeepsIds world (operation.scope world) next) :
    (used.after operation next).generals ⊆ lowerClosure (generalBounds next) := by
  have remembered := kept.lastIds.1.symm
  -- A general that goes was given out, or is overtaken by one that stays.
  have bounds : (lowerClosure (generalBounds world) : Set Int) ⊆ lowerClosure (generalBounds next) := by
    refine covers_of_bounds ?_
    rintro bound (rfl | there)
    · exact ⟨_, .inl remembered, le_rfl⟩
    · rcases kept.generals bound there with gone | still
      · rcases keeps.generals bound gone there with given | ⟨other, live, notGone, larger⟩
        · exact ⟨_, .inl remembered, given⟩
        · exact ⟨other, .inr ((kept.generals other live).resolve_left notGone), larger.le⟩
      · exact ⟨bound, .inr still, le_rfl⟩
  rintro id ((before | created) | there)
  · exact bounds (covers.generals before)
  · exact mem_lowerClosure.mpr ⟨_, .inl remembered, keeps.createdGenerals id created⟩
  · exact subset_lowerClosure (.inr there)

theorem CoversUsed.keepCountedNations (covers : CoversUsed world used) (keeps : KeepsFreshness world operation)
    (kept : KeepsIds world (operation.scope world) next) (unmarked : world.lastNationId = 0) :
    (used.after operation next).nations ⊆ lowerClosure (nationBounds next) := by
  have inBounds : ∀ id, next.nations.rows.has id = true → id ∈ nationBounds next := by
    intro id there
    simp only [nationBounds, kept.lastIds.2, unmarked, if_pos, Set.mem_ofPred_eq]
    exact there
  have bounds : (lowerClosure (nationBounds world) : Set Int) ⊆ lowerClosure (nationBounds next) := by
    refine covers_of_bounds fun bound there => ?_
    simp only [nationBounds, unmarked, if_pos, Set.mem_ofPred_eq] at there
    obtain ⟨other, live, larger⟩ := covered_of_overtaken kept.nations (keeps.nations unmarked) bound there
    exact ⟨other, inBounds other live, larger⟩
  rintro id ((before | created) | there)
  · exact bounds (covers.nations before)
  · -- A created nation marks its id first.
    exact absurd unmarked (keeps.createdNations id created).1
  · exact subset_lowerClosure (inBounds id there)

theorem CoversUsed.keepMarkedNations (covers : CoversUsed world used) (keeps : KeepsFreshness world operation)
    (kept : KeepsIds world (operation.scope world) next) (marked : world.lastNationId ≠ 0) :
    (used.after operation next).nations ⊆ lowerClosure (nationBounds next) := by
  have sameBounds : nationBounds next = nationBounds world := by
    simp only [nationBounds, kept.lastIds.2, if_neg marked]
  have given : ∀ id, id ≤ world.lastNationId → id ∈ (lowerClosure (nationBounds next) : Set Int) := by
    intro id below
    refine mem_lowerClosure.mpr ⟨world.lastNationId, ?_, below⟩
    simp only [nationBounds, kept.lastIds.2, if_neg marked, Set.mem_ofPred_eq]
  have already : ∀ id, world.nations.rows.has id = true → id ∈ (lowerClosure (nationBounds next) : Set Int) := by
    intro id before
    rw [sameBounds]
    exact covers.nations (covers.live id before).1
  rintro id ((before | created) | there)
  · rw [sameBounds]
    exact covers.nations before
  · exact given id (keeps.createdNations id created).2
  · -- A nation that was there is covered already, and a new one has an id that was given out.
    rcases kept.newNations id there with before | new
    · exact already id before
    · rcases (keeps.newNations id new).2 with none | before | below
      · exact absurd none marked
      · exact already id before
      · exact given id below

theorem CoversUsed.keep (covers : CoversUsed world used) (keeps : KeepsFreshness world operation)
    (kept : KeepsIds world (operation.scope world) next) :
    CoversUsed next (used.after operation next) where
  generals := covers.keepGenerals keeps kept
  nations := by
    by_cases unmarked : world.lastNationId = 0
    · exact covers.keepCountedNations keeps kept unmarked
    · exact covers.keepMarkedNations keeps kept unmarked
  events := by
    -- An event that goes is overtaken by one that stays.
    have bounds : (lowerClosure (eventBounds world) : Set Int) ⊆ lowerClosure (eventBounds next) :=
      covers_of_bounds (covered_of_overtaken kept.events keeps.events)
    rintro id (before | there)
    · exact bounds (covers.events before)
    · exact subset_lowerClosure there
  live := by
    intro id there
    refine ⟨.inr there, ?_⟩
    rcases kept.newNations id there with before | new
    · exact (covers.live id before).2
    · exact (keeps.newNations id new).1
  counted := by
    rw [kept.lastIds.2]
    exact covers.counted

theorem CoversUsed.countOn (covers : CoversUsed world used) (countsOn : CountsOn world next)
    (generals : next.generals.rows = world.generals.rows) (nations : next.nations.rows = world.nations.rows)
    (events : next.events.rows = world.events.rows) : CoversUsed next used := by
  -- Every bound is at most its counterpart afterwards.
  obtain ⟨generalId, nationId⟩ := countsOn
  refine ⟨?_, ?_, ?_, ?_, ?_⟩
  · refine covers.generals.trans (covers_of_bounds ?_)
    rintro bound (rfl | there)
    · exact ⟨_, .inl rfl, generalId⟩
    · exact ⟨bound, .inr (by rw [generals]; exact there), le_rfl⟩
  · refine covers.nations.trans (covers_of_bounds fun bound there => ?_)
    rcases nationId with same | ⟨further, marked, beyond⟩
    · refine ⟨bound, ?_, le_rfl⟩
      simp only [nationBounds, same, nations]
      exact there
    · refine ⟨next.lastNationId, ?_, ?_⟩
      · simp only [nationBounds, if_neg marked, Set.mem_ofPred_eq]
      · simp only [nationBounds, Set.mem_ofPred_eq] at there
        split at there
        · exact beyond bound there
        · rw [there]
          exact further
  · refine covers.events.trans (covers_of_bounds fun bound there => ⟨bound, ?_, le_rfl⟩)
    show next.events.rows.has bound = true
    rw [events]
    exact there
  · rw [nations]
    exact covers.live
  · rcases nationId with same | ⟨further, _, _⟩
    · rw [same]
      exact covers.counted
    · exact covers.counted.trans further

theorem CoversUsed.after_same (covers : CoversUsed world used)
    (none : operation.createdGenerals = [] ∧ operation.createdNations = []) :
    CoversUsed world (used.after operation world) := by
  -- What is there was used already.
  refine ⟨?_, ?_, ?_, fun id there => ⟨.inr there, (covers.live id there).2⟩, covers.counted⟩
  · rintro id ((before | created) | there)
    · exact covers.generals before
    · simp [none.1] at created
    · exact subset_lowerClosure (.inr there)
  · rintro id ((before | created) | there)
    · exact covers.nations before
    · simp [none.2] at created
    · exact covers.nations (covers.live id there).1
  · rintro id (before | there)
    · exact covers.events before
    · exact subset_lowerClosure there

end

/-! ### Giving out ids -/

theorem le_largestId {ids : List Int} {id : Int} (listed : id ∈ ids) : id ≤ largestId ids := by
  -- The fold starts with the first id and never gets smaller.
  cases ids with
  | nil => cases listed
  | cons first rest =>
    have most (start : Int) (more : List Int) : start ≤ more.foldl max start ∧
        ∀ other ∈ more, other ≤ more.foldl max start := by
      induction more generalizing start with
      | nil => simp
      | cons next later ih =>
        obtain ⟨above, all⟩ := ih (max start next)
        rw [List.foldl_cons]
        refine ⟨by omega, fun other member => ?_⟩
        rcases List.mem_cons.mp member with rfl | member
        · omega
        · exact all other member
    rcases List.mem_cons.mp listed with rfl | later
    · exact (most id rest).1
    · exact (most first rest).2 id later

theorem le_largestId_keys {ν : Type} {rows : OrderedMap Int ν} {id : Int} (there : rows.has id = true) :
    id ≤ largestId rows.keys := le_largestId (OrderedMap.mem_keys.mpr there)

theorem largestId_nonneg {ids : List Int} (natural : ∀ id ∈ ids, 0 ≤ id) : 0 ≤ largestId ids := by
  cases ids with
  | nil => exact le_rfl
  | cons first rest => exact (natural first List.mem_cons_self).trans (le_largestId List.mem_cons_self)

/-- A world that remembers an id. -/
def remembering (world : TurnWorld) (key : String) (id : Int) : TurnWorld :=
  { world with state := { world.state with metadata := world.state.metadata.merge [(key, .num id)] } }

theorem markedId_remembering (world : TurnWorld) (key : String) (id : Int) :
    (remembering world key id).markedId key = id := by
  simp only [markedId, remembering, Record.merge, List.foldl_cons, List.foldl_nil, Record.get?_set_self,
    Int.floor_intCast]

theorem markedId_remembering_of_ne (world : TurnWorld) {key other : String} (id : Int) (differs : other ≠ key) :
    (remembering world key id).markedId other = world.markedId other := by
  simp only [markedId, remembering, Record.merge, List.foldl_cons, List.foldl_nil,
    Record.get?_set_of_ne _ differs]

section

variable (world : TurnWorld) {used : UsedIds}

theorem perform_getNextGeneralId :
    let id := max world.lastGeneralId (largestId world.generals.rows.keys) + 1
    getNextGeneralId.perform world = (.ok id, remembering world "lastGeneralId" id) := rfl

theorem perform_getNextNationId :
    let id := (if world.lastNationId = 0 then largestId world.nations.rows.keys else world.lastNationId) + 1
    getNextNationId.perform world = (.ok id, remembering world "lastNationId" id) := rfl

theorem perform_getNextEventId :
    getNextEventId.perform world = (.ok (largestId world.events.rows.keys + 1), world) := rfl

variable {world}

variable {id : Int}

theorem notMem_of_bounds {ids bounds : Set Int} (covers : ids ⊆ lowerClosure bounds)
    (above : ∀ bound ∈ bounds, bound < id) : id ∉ ids := by
  intro member
  obtain ⟨bound, listed, below⟩ := mem_lowerClosure.mp (covers member)
  exact absurd (above bound listed) (not_lt.mpr below)

theorem CoversUsed.general_fresh (covers : CoversUsed world used)
    (given : (getNextGeneralId.perform world).1 = .ok id) : id ∉ used.generals := by
  rw [perform_getNextGeneralId] at given
  refine notMem_of_bounds covers.generals fun bound there => ?_
  have found : max world.lastGeneralId (largestId world.generals.rows.keys) + 1 = id := Except.ok.inj given
  rcases there with rfl | there
  · omega
  · have below := le_largestId_keys there
    omega

theorem CoversUsed.nation_fresh (covers : CoversUsed world used)
    (given : (getNextNationId.perform world).1 = .ok id) : id ∉ used.nations := by
  -- The next id is counted from the one remembered, or from the nations when none is.
  rw [perform_getNextNationId] at given
  refine notMem_of_bounds covers.nations fun bound there => ?_
  have found : (if world.lastNationId = 0 then largestId world.nations.rows.keys else world.lastNationId) + 1 = id :=
    Except.ok.inj given
  simp only [nationBounds, Set.mem_ofPred_eq] at there
  split at there
  · rename_i unmarked
    rw [if_pos unmarked] at found
    have below := le_largestId_keys there
    omega
  · rename_i marked
    rw [if_neg marked] at found
    omega

theorem CoversUsed.event_fresh (covers : CoversUsed world used)
    (given : (getNextEventId.perform world).1 = .ok id) : id ∉ used.events := by
  rw [perform_getNextEventId] at given
  refine notMem_of_bounds covers.events fun bound there => ?_
  have found : largestId world.events.rows.keys + 1 = id := Except.ok.inj given
  have below := le_largestId_keys there
  omega

theorem countsOn_getNextGeneralId : CountsOn world (getNextGeneralId.perform world).2 := by
  -- The general's id is written, and the nation's stays.
  rw [perform_getNextGeneralId]
  have general := markedId_remembering world "lastGeneralId"
    (max world.lastGeneralId (largestId world.generals.rows.keys) + 1)
  have differs : "lastNationId" ≠ "lastGeneralId" := by decide
  have nation := markedId_remembering_of_ne world
    (max world.lastGeneralId (largestId world.generals.rows.keys) + 1) differs
  refine ⟨?_, .inl nation⟩
  show world.lastGeneralId ≤ (remembering world "lastGeneralId" _).markedId "lastGeneralId"
  rw [general]
  omega

theorem CoversUsed.countsOn_getNextNationId (covers : CoversUsed world used) :
    CountsOn world (getNextNationId.perform world).2 := by
  rw [perform_getNextNationId]
  have differs : "lastGeneralId" ≠ "lastNationId" := by decide
  have largest : 0 ≤ largestId world.nations.rows.keys :=
    largestId_nonneg fun id listed => (covers.live id (OrderedMap.mem_keys.mp listed)).2
  have counted := covers.counted
  dsimp only
  -- The id that is given out is above the one remembered, and above every nation.
  have beyond : ∀ id, world.nations.rows.has id = true →
      id ≤ if world.lastNationId = 0 then largestId world.nations.rows.keys else world.lastNationId := by
    intro id there
    split
    · exact le_largestId_keys there
    · rename_i marked
      obtain ⟨bound, listed, below⟩ := mem_lowerClosure.mp (covers.nations (covers.live id there).1)
      simp only [nationBounds, if_neg marked, Set.mem_ofPred_eq] at listed
      exact listed ▸ below
  generalize last : (if world.lastNationId = 0 then largestId world.nations.rows.keys else world.lastNationId) =
    lastId at beyond
  have natural : world.lastNationId ≤ lastId := by
    rw [← last]
    split
    · omega
    · exact le_rfl
  have general := markedId_remembering_of_ne world (lastId + 1) differs
  have nation : (remembering world "lastNationId" (lastId + 1)).lastNationId = lastId + 1 :=
    markedId_remembering world "lastNationId" (lastId + 1)
  refine ⟨general.ge, .inr ?_⟩
  rw [nation]
  refine ⟨by omega, by omega, fun id there => ?_⟩
  have below := beyond id there
  omega

end

/-! ### Operations, flushes and restarts -/

/--
A world with the ids that were ever used in it, and what a restart would find of both.

A flush that succeeds leaves the tables with the rows in memory, so the saved world stands for them.
-/
structure IdHistory where
  world : InMemoryTurnWorld
  used : UsedIds
  saved : TurnWorld
  savedUsed : UsedIds

/-- What can happen to the world and its tables; a restarted process numbers the generals' scans anew. -/
inductive IdEvent where
  | operate (operation : WorldOperation)
  | flush
  | restart (scanOrder : Int)

/-- A world as it is loaded: with the saved rows and metadata, and nothing to be written. -/
def reload (saved : TurnWorld) (scanOrder : Int) : InMemoryTurnWorld :=
  { saved with
    checkpoint := none
    generals := .clean saved.generals.rows
    cities := .clean saved.cities.rows
    nations := .clean saved.nations.rows
    troops := .clean saved.troops.rows
    diplomacy := .clean saved.diplomacy.rows
    events := .clean saved.events.rows
    accessScoreResetGeneralIds := .empty
    deletedNationSnapshots := []
    logs := []
    lifecycleEvents := []
    pendingNeutralAuctions := []
    journals := fun _ => []
    pendingRealtimeBacklogShiftTicks := 0
    nextLegacyGeneralScanOrder := scanOrder }

/-- Operates on the world; one that fails uses nothing. -/
def IdHistory.operate (options : WorldOptions) (operation : WorldOperation) (history : IdHistory) :
    Except String WorldResult × IdHistory :=
  let (value, world) := transact options operation history.world
  let used := match value with
    | .ok _ => history.used.after operation world.toTurnWorld
    | .error _ => history.used
  (value, { history with world, used })

/-- The history as a machine. -/
def idMachine (options : WorldOptions) : StateMachine IdHistory IdEvent (Option (Except String WorldResult)) where
  step history
    | .operate operation =>
      let (value, next) := history.operate options operation
      some (next, some value)
    | .flush =>
      let world := history.world.toTurnWorld
      some ({ history with
        world := { history.world with toTurnWorld := acknowledgeDirtyState world.peekDirtyState world }
        saved := world, savedUsed := history.used }, none)
    | .restart scanOrder =>
      some ({ history with world := reload history.saved scanOrder, used := history.savedUsed }, none)

/-- An operation that keeps freshness; flushes and restarts always do. -/
def KeepsFresh (history : IdHistory) : IdEvent → Prop
  | .operate operation => KeepsFreshness history.world.toTurnWorld operation
  | _ => True

/-- A world that is loaded for the first time, whose remembered nation id is absent or beyond its nations. -/
structure IdHistory.Opened (history : IdHistory) : Prop where
  used : history.used = liveIds history.world.toTurnWorld
  saved : history.saved = history.world.toTurnWorld ∧ history.savedUsed = history.used
  natural : ∀ id, history.world.nations.rows.has id = true → 0 ≤ id
  counted : history.world.lastNationId = 0 ∨
    0 ≤ history.world.lastNationId ∧
      ∀ id, history.world.nations.rows.has id = true → id ≤ history.world.lastNationId

/-- No used id is above what new ones are counted from, in memory and in the tables. -/
def IdHistory.Covers (history : IdHistory) : Prop :=
  CoversUsed history.world.toTurnWorld history.used ∧ CoversUsed history.saved history.savedUsed

theorem IdHistory.Opened.covers {history : IdHistory} (opened : history.Opened) : history.Covers := by
  -- All used ids are of rows that are there.
  obtain ⟨used, ⟨savedWorld, savedUsed⟩, natural, counted⟩ := opened
  have covers : CoversUsed history.world.toTurnWorld history.used := by
    rw [used]
    refine ⟨?_, ?_, ?_, fun id there => ⟨there, natural id there⟩, ?_⟩
    · exact fun id there => subset_lowerClosure (.inr there)
    · intro id there
      rcases counted with unmarked | ⟨_, beyond⟩
      · refine subset_lowerClosure ?_
        simp only [nationBounds, unmarked, if_pos, Set.mem_ofPred_eq]
        exact there
      · by_cases unmarked : history.world.lastNationId = 0
        · refine subset_lowerClosure ?_
          simp only [nationBounds, unmarked, if_pos, Set.mem_ofPred_eq]
          exact there
        · refine mem_lowerClosure.mpr ⟨history.world.lastNationId, ?_, beyond id there⟩
          simp only [nationBounds, if_neg unmarked, Set.mem_ofPred_eq]
    · exact fun id there => subset_lowerClosure there
    · rcases counted with unmarked | ⟨natural, _⟩
      · exact unmarked.ge
      · exact natural
  refine ⟨covers, ?_⟩
  rw [savedWorld, savedUsed]
  exact covers

theorem CountsOn.of_metadata {world next : TurnWorld} (same : next.state.metadata = world.state.metadata) :
    CountsOn world next :=
  ⟨(lastIds_of_metadata same).1.ge, .inl (lastIds_of_metadata same).2⟩

variable {options : WorldOptions}

theorem CoversUsed.operate {operation : WorldOperation} {world next : InMemoryTurnWorld} {used : UsedIds}
    {value : WorldResult} (covers : CoversUsed world.toTurnWorld used)
    (keeps : KeepsFreshness world.toTurnWorld operation)
    (performed : (operation.run options).perform world = (.ok value, next)) :
    CoversUsed next.toTurnWorld (used.after operation next.toTurnWorld) := by
  by_cases metadata : operation.WritesMetadata
  · -- Three operations write the metadata, and leave the rows as they are.
    cases operation with
    | getNextNationId =>
      obtain ⟨-, rfl⟩ := Prod.mk.inj performed
      exact (covers.countOn covers.countsOn_getNextNationId rfl rfl rfl).after_same ⟨rfl, rfl⟩
    | getNextGeneralId =>
      obtain ⟨-, rfl⟩ := Prod.mk.inj performed
      exact (covers.countOn countsOn_getNextGeneralId rfl rfl rfl).after_same ⟨rfl, rfl⟩
    | updateWorldMeta patch =>
      obtain ⟨-, rfl⟩ := Prod.mk.inj performed
      exact (covers.countOn (keeps.metadata patch rfl) rfl rfl rfl).after_same ⟨rfl, rfl⟩
    | _ => exact absurd metadata id
  · exact covers.keep keeps (operation_within options operation metadata world
      (KeepsIds.refl world.toTurnWorld (operation.scope world.toTurnWorld)) value next performed)

theorem IdHistory.Covers.step {history next : IdHistory} {event : IdEvent}
    {output : Option (Except String WorldResult)} (covers : history.Covers) (keeps : KeepsFresh history event)
    (stepped : (idMachine options).step history event = some (next, output)) : next.Covers := by
  -- A flush saves what is covered in memory, and a restart takes up what is covered in the tables.
  obtain ⟨inMemory, inTables⟩ := covers
  cases event with
  | operate operation =>
    obtain ⟨rfl, -⟩ := Prod.mk.inj (Option.some.inj stepped)
    refine ⟨?_, inTables⟩
    dsimp only
    cases performed : (operation.run options).perform history.world with
    | mk result world =>
      cases result with
      | error error => exact inMemory
      | ok value => exact inMemory.operate keeps performed
  | flush =>
    obtain ⟨rfl, -⟩ := Prod.mk.inj (Option.some.inj stepped)
    exact ⟨inMemory.countOn (CountsOn.of_metadata rfl) rfl rfl rfl, inMemory⟩
  | restart scanOrder =>
    obtain ⟨rfl, -⟩ := Prod.mk.inj (Option.some.inj stepped)
    exact ⟨inTables.countOn (CountsOn.of_metadata rfl) rfl rfl rfl, inTables⟩

/-- In every run that keeps freshness, new ids are none that were used before. -/
theorem ids_stay_fresh {options : WorldOptions} {start final : IdHistory}
    {trace : List (IdEvent × Option (Except String WorldResult))} (opened : start.Opened)
    (run : (idMachine options).RunWhile KeepsFresh start trace final) :
    (∀ id, (getNextGeneralId.perform final.world.toTurnWorld).1 = .ok id → id ∉ final.used.generals) ∧
      (∀ id, (getNextNationId.perform final.world.toTurnWorld).1 = .ok id → id ∉ final.used.nations) ∧
      ∀ id, (getNextEventId.perform final.world.toTurnWorld).1 = .ok id → id ∉ final.used.events := by
  have covers : final.Covers := run.stateInvariant opened.covers fun _ _ _ _ covers keeps stepped =>
    covers.step keeps stepped
  exact ⟨fun _ given => covers.1.general_fresh given, fun _ given => covers.1.nation_fresh given,
    fun _ given => covers.1.event_fresh given⟩

/-- A nation without a chief. -/
def seededNation : Nation := ⟨"", none, 0, 0, [], []⟩

/-- A world of two generals, two nations and two events that has just been seeded. -/
def seededHistory : IdHistory :=
  let world : InMemoryTurnWorld := { opening with
    generals := .clean ((OrderedMap.empty.set 1 probeGeneral).set 2 probeGeneral)
    nations := .clean ((OrderedMap.empty.set 1 seededNation).set 2 seededNation)
    events := .clean ((OrderedMap.empty.set 1 scenarioEvent).set 2 scenarioEvent) }
  ⟨world, liveIds world.toTurnWorld, world.toTurnWorld, liveIds world.toTurnWorld⟩

theorem seededHistory_opened : seededHistory.Opened := by
  refine ⟨rfl, ⟨rfl, rfl⟩, fun id there => ?_, .inl rfl⟩
  have there : ((OrderedMap.empty.set 1 seededNation).set 2 seededNation).has id = true := there
  rw [OrderedMap.has_set, OrderedMap.has_set] at there
  simp only [OrderedMap.has, OrderedMap.get?, OrderedMap.empty, List.find?_nil, Option.map_none, Option.isSome_none,
    Bool.or_false, Bool.or_eq_true, decide_eq_true_eq] at there
  omega

/-- A nation is founded and falls, and the process is restarted. -/
theorem ids_stay_fresh_refounded : ∃ trace final,
    (idMachine openingOptions).RunWhile KeepsFresh seededHistory trace final ∧
      (getNextNationId.perform final.world.toTurnWorld).1 = .ok 4 ∧ 4 ∉ final.used.nations := by
  let events : List IdEvent :=
    [.operate .getNextNationId, .operate (.addNation 3 seededNation), .operate (.removeNation 3), .flush, .restart 2]
  have replayed : ∃ trace final, (idMachine openingOptions).replay seededHistory events = some (final, trace) ∧
      (getNextNationId.perform final.world.toTurnWorld).1 = .ok 4 := ⟨_, _, rfl, rfl⟩
  obtain ⟨trace, final, replayed, given⟩ := replayed
  have guarded : (idMachine openingOptions).Guarded KeepsFresh seededHistory events := by
    refine ⟨?_, ?_, ?_, trivial, trivial, trivial⟩
    · exact ⟨fun _ gone => gone.elim, fun _ _ gone => gone.elim, fun _ gone => gone.elim, by rintro _ ⟨⟩,
        by rintro _ ⟨⟩, fun _ new => new.elim, by rintro _ ⟨⟩⟩
    · exact ⟨fun _ gone => gone.elim, fun _ _ gone => gone.elim, fun _ gone => gone.elim, by rintro _ ⟨⟩,
        by rintro _ ⟨⟩, by rintro _ rfl; exact ⟨by decide, .inr (.inr (by decide))⟩, by rintro _ ⟨⟩⟩
    · -- The next id is counted from the one remembered, so the nation may fall.
      exact ⟨fun _ gone => gone.elim, fun unmarked => absurd unmarked (by decide), fun _ gone => gone.elim,
        by rintro _ ⟨⟩, by rintro _ ⟨⟩, fun _ new => new.elim, by rintro _ ⟨⟩⟩
  have run := StateMachine.runWhile_of_guarded guarded replayed
  exact ⟨trace, final, run, given, (ids_stay_fresh seededHistory_opened run).2.1 4 given⟩

/-- The last general, nation and event are removed, and the next ones get their ids. -/
theorem ids_used_again : seededHistory.Opened ∧ ∃ trace final,
    (idMachine openingOptions).Run seededHistory trace final ∧
      ((getNextGeneralId.perform final.world.toTurnWorld).1 = .ok 2 ∧ 2 ∈ final.used.generals) ∧
      ((getNextNationId.perform final.world.toTurnWorld).1 = .ok 2 ∧ 2 ∈ final.used.nations) ∧
      (getNextEventId.perform final.world.toTurnWorld).1 = .ok 2 ∧ 2 ∈ final.used.events := by
  -- No id is remembered, so the next ones are counted from the rows that are left.
  refine ⟨seededHistory_opened, ?_⟩
  have replayed : ∃ trace final, (idMachine openingOptions).replay seededHistory
      [.operate (.removeGeneral 2), .operate (.removeNation 2), .operate (.removeEvent 2), .flush, .restart 1] =
        some (final, trace) ∧
      ((getNextGeneralId.perform final.world.toTurnWorld).1 = .ok 2 ∧ 2 ∈ final.used.generals) ∧
      ((getNextNationId.perform final.world.toTurnWorld).1 = .ok 2 ∧ 2 ∈ final.used.nations) ∧
      (getNextEventId.perform final.world.toTurnWorld).1 = .ok 2 ∧ 2 ∈ final.used.events :=
    ⟨_, _, rfl, ⟨rfl, .inl (.inl (.inl (.inl (.inl (.inl rfl)))))⟩,
      ⟨rfl, .inl (.inl (.inl (.inl (.inl (.inl rfl)))))⟩, rfl, .inl (.inl (.inl rfl))⟩
  obtain ⟨trace, final, replayed, again⟩ := replayed
  exact ⟨trace, final, StateMachine.run_of_replay replayed, again⟩

end Sammo
