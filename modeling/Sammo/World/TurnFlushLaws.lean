import Sammo.World.FlushLaws

/-! A general's turn, the fall of a nation and a new month keep the journals accounting for the tables. -/

namespace Sammo

open Effect

variable {tables : WorldTables}

/-- The account in the middle of a general's turn: nothing has been removed since its start. -/
structure Midturn (tables : WorldTables) (start : TurnWorld) (id : Int) (result : GeneralTurnResult)
    (world : TurnWorld) : Prop where
  accounts : Accounts tables world
  acting : world.generals.rows.has id = true
  /-- A general that lives on has been stored for its next turn. -/
  marked : result.deletedGeneral = false → id ∈ world.generals.dirty
  generals : world.generals.deleted = start.generals.deleted
  nations : world.nations.deleted = start.nations.deleted
  troops : world.troops.deleted = start.troops.deleted

variable {start : TurnWorld} {id : Int} {result : GeneralTurnResult}

/-- An operation in the middle of a general's turn. -/
abbrev KeepsMidturn {α : Type} (tables : WorldTables) (start : TurnWorld) (id : Int)
    (result : GeneralTurnResult) (operation : WorldM α) : Prop :=
  Ensures (Midturn tables start id result) operation fun _ => Midturn tables start id result

namespace TurnWorld

theorem ignoring_keeps {α : Type} {operation : WorldM α} (keeps : KeepsAccount tables operation) :
    KeepsAccount tables (do let _ ← operation) :=
  keeps.seq fun _ => Ensures.pure fun _ accounts => accounts

theorem deleteConflicts_keeps (options : WorldOptions) (nationId : Int) :
    KeepsAccount tables (modify (deleteConflicts options nationId)) := by
  refine Ensures.modify fun world accounts => ?_
  -- The loop goes over the cities as they were, and none of them goes away.
  let Kept : TurnWorld → Prop := fun state => Accounts tables state ∧
    ∀ entry ∈ world.cities.rows.entries, state.cities.rows.has entry.1 = true
  have start : Kept world := ⟨accounts, fun entry listed => has_of_get? (OrderedMap.mem_entries.mp listed)⟩
  refine (List.foldlRecOn (motive := Kept) _ _ start ?_).1
  rintro state ⟨accounts, there⟩ ⟨id, city⟩ listed
  dsimp only
  split
  · exact ⟨accounts, there⟩
  · refine ⟨{ accounts with cities := accounts.cities.put (there _ listed) }, fun entry member => ?_⟩
    simp [WriteBehind.put, there entry member]

theorem releaseGenerals_keeps (nationId : Int) : KeepsAccount tables (modify (releaseGenerals nationId)) := by
  refine Ensures.modify fun world accounts => ?_
  -- As with the cities, every general of the loop stays where it is.
  let Kept : TurnWorld → Prop := fun state => Accounts tables state ∧
    ∀ entry ∈ world.generals.rows.entries, state.generals.rows.has entry.1 = true
  have start : Kept world := ⟨accounts, fun entry listed => has_of_get? (OrderedMap.mem_entries.mp listed)⟩
  refine (List.foldlRecOn (motive := Kept) _ _ start ?_).1
  rintro state ⟨accounts, there⟩ ⟨id, general⟩ listed
  dsimp only
  split
  · refine ⟨{ accounts with generals := accounts.generals.put (there _ listed) }, fun entry member => ?_⟩
    simp [WriteBehind.put, there entry member]
  · exact ⟨accounts, there⟩

theorem disbandTroops_keeps (nationId : Int) : KeepsAccount tables (disbandTroops nationId) := by
  refine Ensures.read fun world accounts => ?_
  exact (Ensures.forM fun entry _ => ignoring_keeps (removeTroop_keeps entry.1)).mono
    (fun state same => same ▸ accounts) fun _ _ held => held

theorem collapseNation_keeps (options : WorldOptions) (nationId : Int) :
    KeepsAccount tables (collapseNation options nationId) := by
  refine Ensures.read fun world accounts => ?_
  cases world.nations.rows.get? nationId with
  | none => exact Ensures.pure fun state same => same ▸ accounts
  | some nation =>
    refine Ensures.mono ?_ (fun state same => same ▸ accounts) fun _ _ held => held
    refine (deleteConflicts_keeps options nationId).seq fun _ => ?_
    refine Ensures.seq (ensures_change fun state accounts => { accounts with }) fun _ => ?_
    refine (releaseGenerals_keeps nationId).seq fun _ => ?_
    refine (disbandTroops_keeps nationId).seq fun _ => ?_
    exact (removeNation_keeps nationId).seq fun _ => Ensures.pure fun _ accounts => accounts

theorem logRuin_keeps (options : WorldOptions) (nation : Nation) (members : List Int) (dyingLordId : Option Int) :
    KeepsAccount tables (logRuin options nation members dyingLordId) := by
  refine (Ensures.forM fun id _ => ?_).seq fun _ => ?_
  · dsimp only
    split
    · exact (pushLog_keeps _ _).seq fun _ => (pushLog_keeps _ _).seq fun _ => pushLog_keeps _ _
    · exact (Ensures.pure fun _ accounts => accounts).seq fun _ =>
        (pushLog_keeps _ _).seq fun _ => pushLog_keeps _ _
  · split
    · exact pushLog_keeps _ _
    · exact Ensures.pure fun _ accounts => accounts

theorem dissolveNationWithoutSuccessor_keeps (options : WorldOptions) (nationId : Int)
    (dyingLordId : Option Int) :
    KeepsAccount tables (dissolveNationWithoutSuccessor options nationId dyingLordId) := by
  refine Ensures.read fun world accounts => ?_
  refine Ensures.mono ?_ (fun state same => same ▸ accounts) fun _ _ held => held
  cases world.nations.rows.get? nationId with
  | none => exact Ensures.pure fun _ accounts => accounts
  | some nation =>
    dsimp only
    split
    · exact Ensures.throw _
    · refine (Ensures.forM fun entry _ => ignoring_keeps (updateCity_keeps _ _)).seq fun _ => ?_
      exact (logRuin_keeps _ _ _ _).seq fun _ => collapseNation_keeps options nationId

theorem removeCollapsedNations_keeps (options : WorldOptions) :
    KeepsAccount tables (removeCollapsedNations options) := by
  refine Ensures.read fun world accounts => ?_
  exact (Ensures.forM fun nationId _ => ignoring_keeps (collapseNation_keeps options nationId)).mono
    (fun state same => same ▸ accounts) fun _ _ held => held

theorem advanceMonth_keeps (options : WorldOptions) (turnTime : Int) :
    KeepsAccount tables (advanceMonth options turnTime) := by
  refine Ensures.read fun world accounts => ?_
  refine Ensures.mono ?_ (fun state same => same ▸ accounts) fun _ _ held => held
  refine Ensures.attempt fun _ _ => Ensures.attempt fun _ _ => Ensures.attempt fun _ _ => ?_
  refine Ensures.seq (ensures_change fun state accounts => { accounts with }) fun _ => ?_
  split
  · exact advanceDiplomacyMonth_keeps none
  · exact Ensures.pure fun _ accounts => accounts

theorem storeActingGeneral_opens (current : General) (nextTurnAt : Int)
    (acting : start.generals.rows.has id = true) :
    Ensures (fun world => Accounts tables world ∧ world.generals = start.generals ∧
        world.cities = start.cities ∧ world.nations = start.nations ∧ world.troops = start.troops)
      (storeActingGeneral id current result nextTurnAt) fun _ world =>
        Midturn tables start id result world ∧ world.cities = start.cities ∧ world.nations = start.nations := by
  refine Ensures.read fun world held => ?_
  obtain ⟨accounts, generals, cities, nations, troops⟩ := held
  have present : world.generals.rows.has id = true := by rw [generals]; exact acting
  dsimp only
  split
  · -- A general that is to be removed is left as it is.
    rename_i deleted
    refine Ensures.pure ?_
    rintro state rfl
    refine ⟨⟨accounts, present, fun kept => ?_, by rw [generals], by rw [nations], by rw [troops]⟩, cities, nations⟩
    rw [deleted] at kept
    cases kept
  · refine Ensures.attempt fun _ _ => Ensures.attempt fun stored _ => ensures_modify_pure ?_
    rintro state rfl
    refine ⟨⟨{ accounts with generals := accounts.generals.put present }, ?_, fun _ => ?_, ?_, by rw [nations],
      by rw [troops]⟩, cities, nations⟩
    · simp [WriteBehind.put]
    · simp [WriteBehind.put]
    · rw [← generals]
      rfl

theorem takeOverCity_mid {world : TurnWorld} (mid : Midturn tables start id result world)
    (city : ∀ entry ∈ result.city, world.cities.rows.has entry.1 = true) :
    Midturn tables start id result { world with
      cities := match result.city with
        | some (id, city) => world.cities.put id city
        | none => world.cities } := by
  cases given : result.city with
  | none => exact mid
  | some entry =>
    exact { mid with
      accounts := { mid.accounts with cities := mid.accounts.cities.put (city entry given) } }

theorem takeOverRows_mid {world : TurnWorld} (mid : Midturn tables start id result world)
    (city : ∀ entry ∈ result.city, world.cities.rows.has entry.1 = true)
    (nation : ∀ entry ∈ result.nation, world.nations.rows.has entry.1 = true) :
    Midturn tables start id result (takeOverRows result world) := by
  have afterCity := takeOverCity_mid mid city
  unfold takeOverRows
  cases given : result.nation with
  | none => exact afterCity
  | some entry =>
    exact { afterCity with
      accounts := { afterCity.accounts with nations := afterCity.accounts.nations.put (nation entry given) } }

theorem takeOverResult_keeps (current : General) (safe : start.TurnSafe id result) :
    Ensures (fun world => Midturn tables start id result world ∧ world.cities = start.cities ∧
        world.nations = start.nations) (takeOverResult current result)
      fun _ => Midturn tables start id result := by
  refine Ensures.read fun world held => ?_
  obtain ⟨mid, cities, nations⟩ := held
  refine Ensures.seq (Ensures.modify fun state same => ?_) fun _ => Ensures.seq (Ensures.forM fun entry _ =>
    ensures_change fun state (mid : Midturn tables start id result state) =>
      { mid with accounts := { mid.accounts with } })
    fun _ => Ensures.forM fun message _ => ensures_change fun state mid =>
      { mid with accounts := { mid.accounts with } }
  subst same
  refine takeOverRows_mid mid (fun entry given => ?_) fun entry given => ?_
  · rw [cities]
    exact safe.city entry given
  · rw [nations]
    exact safe.nation entry given

theorem putGeneral_mid {world : TurnWorld} (mid : Midturn tables start id result world) {other : Int}
    {general : General} (present : world.generals.rows.has other = true) :
    Midturn tables start id result { world with generals := world.generals.put other general } :=
  { mid with
    accounts := { mid.accounts with generals := mid.accounts.generals.put present }
    acting := by simp [WriteBehind.put, mid.acting]
    marked := fun kept => OrderedSet.mem_add.mpr (.inr (mid.marked kept)) }

theorem applyTurnPatches_keeps : KeepsMidturn tables start id result (applyTurnPatches result) := by
  refine Ensures.seq (Ensures.forM fun item _ => Ensures.read fun world mid => ?_) fun _ =>
    Ensures.seq (Ensures.forM fun item _ => Ensures.modify fun world mid => ?_) fun _ =>
    Ensures.seq (Ensures.forM fun item _ => Ensures.modify fun world mid => ?_) fun _ =>
    Ensures.forM fun item _ => Ensures.modify fun world mid => ?_
  · -- A patched general gets its clock coordinates anew, which may fail.
    cases got : world.generals.rows.get? item.1 with
    | none => exact Ensures.pure fun state same => same ▸ mid
    | some target =>
      refine Ensures.attempt fun next _ => Ensures.modify ?_
      rintro state rfl
      exact putGeneral_mid mid (has_of_get? got)
  · cases got : world.cities.rows.get? item.1 with
    | none => exact mid
    | some target =>
      exact { mid with
        accounts := { mid.accounts with cities := mid.accounts.cities.put (has_of_get? got) } }
  · cases got : world.nations.rows.get? item.1 with
    | none => exact mid
    | some target =>
      exact { mid with
        accounts := { mid.accounts with nations := mid.accounts.nations.put (has_of_get? got) } }
  · cases got : world.troops.rows.get? item.1 with
    | none => exact mid
    | some target =>
      exact { mid with
        accounts := { mid.accounts with troops := mid.accounts.troops.put (has_of_get? got) } }

theorem diplomacyPatches_keep (safe : start.TurnSafe id result) :
    KeepsMidturn tables start id result
      (result.diplomacyPatches.forM fun (key, patch) => applyDiplomacyPatch key patch) := by
  refine Ensures.forM fun item listed => Ensures.modify fun world mid => ?_
  have kept : world.BetweenKept item.1 := by
    rw [BetweenKept, mid.nations]
    exact safe.diplomacy item listed
  cases got : world.diplomacy.rows.get? item.1 with
  | some base =>
    exact { mid with
      accounts := { mid.accounts with diplomacy := mid.accounts.diplomacy.put (has_of_get? got) } }
  | none =>
    exact { mid with accounts := mid.accounts.insertRelation (OrderedMap.get?_eq_none.mp got) kept }

theorem ensureDiplomacyMatrix_mid : KeepsMidturn tables start id result ensureDiplomacyMatrix := by
  refine Ensures.modify fun world mid => ?_
  obtain ⟨accounts, nations, generals, troops, -⟩ := fillDiplomacyMatrix_spec mid.accounts
  refine ⟨accounts, ?_, ?_, ?_, ?_, ?_⟩
  · rw [generals]; exact mid.acting
  · rw [generals]; exact mid.marked
  · rw [generals]; exact mid.generals
  · rw [nations]; exact mid.nations
  · rw [troops]; exact mid.troops

theorem createTroops_keeps (safe : start.TurnSafe id result) :
    KeepsMidturn tables start id result (result.createdTroops.forM fun (id, troop) =>
      modify fun world => if world.troops.rows.has id then world
        else { world with troops := world.troops.insert id troop }) := by
  refine Ensures.forM fun item listed => Ensures.modify fun world mid => ?_
  split
  · exact mid
  · rename_i free
    have kept : item.1 ∉ world.troops.deleted := by
      rw [mid.troops]
      exact safe.troops item listed
    exact { mid with
      accounts := { mid.accounts with troops := mid.accounts.troops.insert (by simpa using free) kept } }

theorem createTurnRows_keeps (safe : start.TurnSafe id result) :
    KeepsMidturn tables start id result (createTurnRows result) := by
  refine Ensures.seq (Ensures.forM fun item listed => Ensures.read fun world mid => ?_) fun _ =>
    Ensures.read fun before mid => Ensures.mono (Ensures.seq (Ensures.forM fun item listed =>
      Ensures.modify fun world (mid : Midturn tables start id result world) => ?_) fun _ => ?_)
      (fun state same => same ▸ mid) fun _ _ held => held
  · split
    · exact Ensures.pure fun state same => same ▸ mid
    · rename_i free
      refine Ensures.attempt fun _ _ => Ensures.attempt fun ensured _ => Ensures.modify ?_
      rintro state rfl
      have kept : item.1 ∉ state.generals.deleted := by
        rw [mid.generals]
        exact safe.generals item listed
      exact { mid with
        accounts := { mid.accounts with generals := mid.accounts.generals.insert (by simpa using free) kept }
        acting := by simp [WriteBehind.insert, mid.acting]
        marked := fun lives => OrderedSet.mem_add.mpr (.inr (mid.marked lives)) }
  · split
    · exact mid
    · rename_i free
      have kept : item.1 ∉ world.nations.deleted := by
        rw [mid.nations]
        exact safe.nations item listed
      exact { mid with
        accounts := { mid.accounts with nations := mid.accounts.nations.insert (by simpa using free) kept } }
  · split
    · exact ensureDiplomacyMatrix_mid.seq fun _ => createTroops_keeps safe
    · exact createTroops_keeps safe

theorem dissolveLordsNation_keeps (options : WorldOptions) (resolved : General) (nationId : Int) :
    Ensures (fun world => Accounts tables world ∧ world.generals.rows.has id = true ∧ id ∈ world.generals.dirty)
      (dissolveLordsNation options id resolved nationId) fun _ => Accounts tables := by
  refine Ensures.seq (Ensures.modify ?_) fun _ =>
    ignoring_keeps (dissolveNationWithoutSuccessor_keeps options nationId (some id))
  rintro world ⟨accounts, present, marked⟩
  exact { accounts with generals := accounts.generals.overwrite present marked }

/-- Tables in which a stored general has the row the memory gave it without a mark. -/
def pretendedTables (tables : WorldTables) (id : Int) (general : General) : WorldTables :=
  { tables with generals := Function.update tables.generals id ((tables.generals id).map fun _ => general) }

theorem dissolveLordsNation_pretends (options : WorldOptions) (resolved : General) (nationId : Int) :
    Ensures (fun world => Accounts tables world ∧ world.generals.rows.has id = true)
      (dissolveLordsNation options id resolved nationId)
      fun _ => Accounts (pretendedTables tables id resolved) := by
  refine Ensures.seq (Ensures.modify ?_) fun _ =>
    ignoring_keeps (dissolveNationWithoutSuccessor_keeps options nationId (some id))
  rintro world ⟨accounts, present⟩
  exact { accounts with generals := accounts.generals.pretend present }

theorem removeGeneral_unpretends (resolved : General) :
    Ensures (Accounts (pretendedTables tables id resolved)) (do let _ ← removeGeneral id)
      fun _ => Accounts tables := by
  refine Ensures.bind (removeGeneral_removes id) fun _ => Ensures.pure ?_
  rintro world ⟨accounts, absent⟩
  refine { accounts with generals := accounts.generals.unpretend absent fun stored => ?_ }
  simpa using stored

theorem removeActingGeneral_keeps (options : WorldOptions) (resolved : General) :
    Ensures (fun world => Accounts tables world ∧ world.generals.rows.has id = true ∧
        (result.deletedGeneral = false → id ∈ world.generals.dirty))
      (removeActingGeneral options id resolved result) fun _ => Accounts tables := by
  unfold removeActingGeneral
  cases lives : result.deletedGeneral with
  | false =>
    cases result.successorlessNationId with
    | none => exact Ensures.seq (Ensures.pure fun _ held => held.1) fun _ => Ensures.pure fun _ accounts => accounts
    | some nationId =>
      refine Ensures.seq (Ensures.seq ((dissolveLordsNation_keeps options resolved nationId).mono
        (fun world held => ?_) fun _ _ accounts => accounts) fun _ => Ensures.pure fun _ accounts => accounts)
        fun _ => Ensures.pure fun _ accounts => accounts
      exact ⟨held.1, held.2.1, held.2.2 rfl⟩
  | true =>
    cases result.successorlessNationId with
    | none =>
      exact Ensures.seq (Ensures.pure fun _ held => held.1) fun _ => ignoring_keeps (removeGeneral_keeps id)
    | some nationId =>
      -- The row put back is not marked, but it does not stay.
      refine Ensures.seq (Ensures.seq ((dissolveLordsNation_pretends options resolved nationId).mono
        (fun _ held => ⟨held.1, held.2.1⟩) fun _ _ accounts => accounts) fun _ =>
          Ensures.pure fun _ accounts => accounts) fun _ => ?_
      exact removeGeneral_unpretends resolved

theorem removeTurnRows_keeps (options : WorldOptions) (resolved : General) :
    Ensures (Midturn tables start id result) (removeTurnRows options id resolved result)
      fun _ => Accounts tables := by
  -- Disbanding troops leaves the generals alone.
  let Kept : TurnWorld → Prop := fun world => Accounts tables world ∧ world.generals.rows.has id = true ∧
    (result.deletedGeneral = false → id ∈ world.generals.dirty)
  have disband (troopId : Int) : Ensures Kept (do let _ ← removeTroop troopId) fun _ => Kept := by
    refine Ensures.seq (Ensures.read fun world kept => ?_) fun _ => Ensures.pure fun _ kept => kept
    split
    · refine ensures_modify_pure ?_
      rintro state rfl
      exact ⟨kept.1.removeTroop troopId, kept.2⟩
    · exact Ensures.pure fun state same => same ▸ kept
  refine Ensures.seq ((Ensures.forM fun troopId _ => disband troopId).mono
    (fun _ mid => ⟨mid.accounts, mid.acting, mid.marked⟩) fun _ _ kept => kept) fun _ => ?_
  refine Ensures.seq (removeActingGeneral_keeps options resolved) fun _ => ?_
  exact Ensures.seq (ensures_change fun _ accounts => { accounts with }) fun _ =>
    removeCollapsedNations_keeps options

theorem executeGeneralTurn_keeps (options : WorldOptions) (general : General) :
    Ensures (fun world => Accounts tables world ∧ world.TurnSafe id result)
      (executeGeneralTurn options id general result) fun _ => Accounts tables := by
  refine Ensures.read fun start held => ?_
  obtain ⟨accounts, safe⟩ := held
  let Untouched : TurnWorld → Prop := fun world => Accounts tables world ∧ world.generals = start.generals ∧
    world.cities = start.cities ∧ world.nations = start.nations ∧ world.troops = start.troops
  refine Ensures.attempt fun _ _ => Ensures.attempt fun _ _ => ?_
  have queued : Ensures Untouched (result.auditDecisions.forM (queue .auditDecisions)) fun _ => Untouched :=
    Ensures.forM fun _ _ => ensures_change fun _ held => ⟨{ held.1 with }, held.2⟩
  refine Ensures.seq (queued.mono (fun state same => ?_) fun _ _ held => held) fun _ => ?_
  · subst same
    exact ⟨accounts, rfl, rfl, rfl, rfl⟩
  refine Ensures.seq (storeActingGeneral_opens _ _ safe.acting) fun stored => ?_
  refine Ensures.seq (takeOverResult_keeps _ safe) fun _ => ?_
  refine Ensures.seq applyTurnPatches_keeps fun _ => ?_
  refine Ensures.seq (diplomacyPatches_keep safe) fun _ => ?_
  refine Ensures.seq (createTurnRows_keeps safe) fun _ => ?_
  refine Ensures.seq (removeTurnRows_keeps options _) fun _ => ?_
  exact Ensures.read fun final accounts => Ensures.pure fun state same => same ▸ accounts

end TurnWorld

end Sammo
