import Sammo.Data.JsonPatchLaws
import Sammo.World.CitySupply

/-! The cities that keep their supplies are those that a path connects to the capital, and the others may be lost. -/

namespace Sammo.CitySupply

variable {cities : List MapCity} {world after : World} {nationId : Int} {queue : List (Int × Int)}

/-! ### The search -/

/-- A nation with a level, and the capital that it owns. -/
def World.OwnsCapital (world : World) (nationId capital : Int) : Prop :=
  ∃ nation, world.nations.get? nationId = some nation ∧ 0 < nation.level ∧ nation.capitalCityId = some capital ∧
    world.ownerOf capital = some nationId

/-- A connection of the map that leads to a city of a nation. -/
def Linked (cities : List MapCity) (world : World) (nationId here there : Int) : Prop :=
  world.ownerOf there = some nationId ∧ ∃ mapCity, mapCityById cities here = some mapCity ∧ there ∈ mapCity.connections

/-- A city to which a path through cities of a nation leads from the nation's capital. -/
def SuppliedBy (cities : List MapCity) (world : World) (nationId id : Int) : Prop :=
  ∃ capital, world.OwnsCapital nationId capital ∧ Relation.ReflTransGen (Linked cities world nationId) capital id

theorem mem_sortById {ν : Type} {map : OrderedMap Int ν} {id : Int} {value : ν} :
    (id, value) ∈ sortById map ↔ map.get? id = some value := by
  rw [sortById, List.mem_insertionSort, OrderedMap.mem_entries]

theorem notMem_sortById {ν : Type} {map : OrderedMap Int ν} {id : Int} (absent : map.get? id = none) :
    id ∉ (sortById map).map Prod.fst := by
  intro listed
  obtain ⟨⟨_, value⟩, member, rfl⟩ := List.mem_map.mp listed
  rw [mem_sortById.mp member] at absent
  cases absent

theorem sortById_nodup {ν : Type} (map : OrderedMap Int ν) : ((sortById map).map Prod.fst).Nodup :=
  (((List.perm_insertionSort _ map.entries).map Prod.fst).nodup_iff).mpr map.nodup

theorem mem_capitals {capital : Int} : (capital, nationId) ∈ world.capitals ↔ world.OwnsCapital nationId capital := by
  simp only [World.capitals, List.mem_filterMap, List.mem_filter, Prod.exists, World.OwnsCapital]
  constructor
  · rintro ⟨id, nation, ⟨listed, level⟩, found⟩
    obtain ⟨capital_, at_, owned⟩ := Option.bind_eq_some_iff.mp found
    split at owned
    · rename_i owner
      cases owned
      exact ⟨nation, mem_sortById.mp listed, of_decide_eq_true level, at_, owner⟩
    · cases owned
  · rintro ⟨nation, known, level, at_, owner⟩
    refine ⟨nationId, nation, ⟨mem_sortById.mpr known, decide_eq_true level⟩, ?_⟩
    rw [at_, Option.bind_some, if_pos owner]

theorem capitals_nodup (world : World) : world.capitals.Nodup := by
  have nations : ((sortById world.nations).filter fun nation => 0 < nation.2.level).Pairwise
      fun left right => left.1 ≠ right.1 :=
    (List.pairwise_map.mp (sortById_nodup world.nations)).filter _
  refine nations.filterMap _ fun left right apart one fromLeft other fromRight same => ?_
  obtain ⟨_, _, ownedLeft⟩ := Option.bind_eq_some_iff.mp fromLeft
  obtain ⟨_, _, ownedRight⟩ := Option.bind_eq_some_iff.mp fromRight
  rw [Option.ite_none_right_eq_some] at ownedLeft ownedRight
  -- Each start carries its nation.
  have nation := congrArg Prod.snd (Option.some.inj (ownedLeft.2.trans (same ▸ ownedRight.2.symm)))
  exact apart nation

theorem edge_iff {here there : Int × Int} : Flood.Edge (connectedCities cities world) here there ↔
    there.2 = here.2 ∧ Linked cities world here.2 here.1 there.1 := by
  unfold Flood.Edge connectedCities Linked
  cases mapCityById cities here.1 with
  | none => simp
  | some mapCity =>
    simp only [Except.ok.injEq, exists_eq_left', List.mem_filterMap, Option.some.injEq]
    constructor
    · rintro ⟨id, member, found⟩
      split at found
      · rename_i owner
        cases found
        exact ⟨rfl, owner, member⟩
      · cases found
    · rintro ⟨same, owner, member⟩
      exact ⟨there.1, member, by rw [if_pos owner, ← same]⟩

theorem reached_iff {id : Int} :
    Flood.Reached (connectedCities cities world) world.capitals (id, nationId) ↔ SuppliedBy cities world nationId id := by
  constructor
  · rintro ⟨⟨capital, nation⟩, start, path⟩
    have walked : ∀ reached, Relation.ReflTransGen (Flood.Edge (connectedCities cities world)) (capital, nation) reached →
        reached.2 = nation ∧ Relation.ReflTransGen (Linked cities world nation) capital reached.1 := by
      intro reached path
      induction path with
      | refl => exact ⟨rfl, .refl⟩
      | tail _ edge ih =>
        obtain ⟨same, linked⟩ := edge_iff.mp edge
        rw [ih.1] at same linked
        exact ⟨same, ih.2.tail linked⟩
    obtain ⟨same, links⟩ := walked _ path
    cases same
    exact ⟨capital, mem_capitals.mp start, links⟩
  · rintro ⟨capital, owns, links⟩
    refine ⟨(capital, nationId), mem_capitals.mpr owns, ?_⟩
    induction links with
    | refl => exact .refl
    | tail _ linked ih => exact ih.tail (edge_iff.mpr ⟨rfl, linked⟩)

theorem SuppliedBy.owner {id : Int} (supplied : SuppliedBy cities world nationId id) :
    world.ownerOf id = some nationId := by
  obtain ⟨capital, ⟨_, _, _, _, owner⟩, links⟩ := supplied
  cases links with
  | refl => exact owner
  | tail _ linked => exact linked.1

theorem suppliedCities_spec (cities : List MapCity) (world : World) :
    (∀ queue, suppliedCities cities world = .ok queue → ∀ id, id ∈ queue.map Prod.fst ↔
      ∃ nationId, SuppliedBy cities world nationId id) ∧
    ∀ missing, suppliedCities cities world = .error missing →
      ∃ nationId id, SuppliedBy cities world nationId id ∧ mapCityById cities id = none := by
  let domain := world.cities.entries.map fun entry => (entry.1, entry.2.nationId)
  have closed : ∀ node, Flood.Reached (connectedCities cities world) world.capitals node → node ∈ domain := by
    rintro ⟨id, nation⟩ reached
    have owner := (reached_iff.mp reached).owner
    obtain ⟨city, known, owned⟩ := Option.bind_eq_some_iff.mp owner
    rw [Option.ite_none_right_eq_some] at owned
    exact List.mem_map.mpr ⟨(id, city), OrderedMap.mem_entries.mpr known, by rw [Option.some.inj owned.2]⟩
  have enough : domain.length ≤ world.cities.entries.length + 0 := by simp [domain]
  obtain ⟨ends, fails⟩ := (Flood.Visited.initial (capitals_nodup world)).flood closed enough
  refine ⟨fun queue done id => ?_, fun missing failed => ?_⟩
  · obtain ⟨all, -⟩ := ends queue done
    rw [List.mem_map]
    constructor
    · rintro ⟨⟨id, nation⟩, member, rfl⟩
      exact ⟨nation, reached_iff.mp ((all _).mp member)⟩
    · rintro ⟨nation, supplied⟩
      exact ⟨(id, nation), (all _).mpr (reached_iff.mpr supplied), rfl⟩
  · obtain ⟨⟨id, nation⟩, reached, known⟩ := fails missing failed
    refine ⟨nation, id, reached_iff.mp reached, ?_⟩
    unfold connectedCities at known
    dsimp only at known
    split at known
    · assumption
    · cases known

/-! ### The losses -/

/-- A city after the supply is updated, before any is lost. -/
def suppliedOrDamaged (queue : List (Int × Int)) (id : Int) (city : City) : City :=
  if city.nationId = 0 ∨ id ∈ queue.map Prod.fst then { city with supplyState := 1 } else damage city city

/-- The cities that are damaged, in the order in which they are listed. -/
def damagedCities (queue : List (Int × Int)) (listed : List (Int × City)) : List (Int × City) :=
  (listed.filter fun entry => ¬ (entry.2.nationId = 0 ∨ entry.1 ∈ queue.map Prod.fst)).map fun entry =>
    (entry.1, damage entry.2 entry.2)

theorem supplyLoop_spec (queue : List (Int × Int)) {listed : List (Int × City)} (distinct : (listed.map Prod.fst).Nodup)
    (state : World × List (Int × City)) (current : ∀ entry ∈ listed, state.1.cities.get? entry.1 = some entry.2) :
    let result := listed.foldl (supplyCity queue) state
    (∀ id, result.1.cities.get? id = if id ∈ listed.map Prod.fst then
        (state.1.cities.get? id).map (suppliedOrDamaged queue id) else state.1.cities.get? id) ∧
      result.1.nations = state.1.nations ∧ result.1.generals = state.1.generals ∧
      result.2 = state.2 ++ damagedCities queue listed := by
  induction listed generalizing state with
  | nil => simp [damagedCities]
  | cons entry rest ih =>
    obtain ⟨fresh, distinctRest⟩ := List.nodup_cons.mp distinct
    have here := current entry List.mem_cons_self
    -- What the first round does to the cities, and to the list of the damaged ones.
    have cities : ∀ id, (supplyCity queue state entry).1.cities.get? id = if id = entry.1 then
        (state.1.cities.get? id).map (suppliedOrDamaged queue id) else state.1.cities.get? id := by
      intro id
      unfold supplyCity
      dsimp only
      split
      · rename_i supplied
        simp only [World.updateCity, OrderedMap.get?_alter]
        by_cases same : id = entry.1
        · rw [if_pos same, if_pos same, same, here]
          exact congrArg some (if_pos supplied).symm
        · rw [if_neg same, if_neg same]
      · rename_i unsupplied
        simp only [World.updateCity, OrderedMap.get?_alter]
        by_cases same : id = entry.1
        · rw [if_pos same, if_pos same, same, here]
          exact congrArg some (if_neg unsupplied).symm
        · rw [if_neg same, if_neg same]
    have others : (supplyCity queue state entry).1.nations = state.1.nations ∧
        (supplyCity queue state entry).1.generals = state.1.generals ∧
        (supplyCity queue state entry).2 = state.2 ++ damagedCities queue [entry] := by
      unfold supplyCity
      dsimp only
      split
      · rename_i supplied
        refine ⟨rfl, rfl, ?_⟩
        rw [damagedCities, List.filter_cons_of_neg (by rw [decide_eq_true_eq, not_not]; exact supplied)]
        simp
      · rename_i unsupplied
        refine ⟨rfl, rfl, ?_⟩
        rw [damagedCities, List.filter_cons_of_pos (by rw [decide_eq_true_eq]; exact unsupplied)]
        simp [World.updateCity, here]
    have later : ∀ other ∈ rest, (supplyCity queue state entry).1.cities.get? other.1 = some other.2 := by
      intro other member
      have apart : other.1 ≠ entry.1 := fun same => fresh (same ▸ List.mem_map_of_mem member)
      rw [cities, if_neg apart]
      exact current other (List.mem_cons_of_mem _ member)
    obtain ⟨restCities, restNations, restGenerals, restDamaged⟩ := ih distinctRest _ later
    refine ⟨fun id => ?_, restNations.trans others.1, restGenerals.trans others.2.1, ?_⟩
    · rw [List.foldl_cons, restCities, cities, List.map_cons]
      by_cases same : id = entry.1
      · rw [if_neg (same ▸ fresh), if_pos same, if_pos (by simp [same])]
      · rw [if_neg same]
        by_cases member : id ∈ rest.map Prod.fst
        · rw [if_pos member, if_pos (List.mem_cons_of_mem _ member)]
        · rw [if_neg member, if_neg (by simp only [List.mem_cons, same, false_or]; exact member)]
    · rw [List.foldl_cons, restDamaged, others.2.2, List.append_assoc, damagedCities, damagedCities, damagedCities,
        ← List.map_append, ← List.filter_append, List.singleton_append]

theorem isLost_damage (id : Int) (city : City) :
    isLost (id, damage city city) = decide (trustOf city.metadata * (9 / 10) < 30) := by
  simp only [isLost, damage, Record.get?_set_self, Option.bind_some, Json.number?]

/-- A city as the month leaves it. -/
def afterSupply (queue : List (Int × Int)) (id : Int) (city : City) : City :=
  if city.nationId = 0 ∨ id ∈ queue.map Prod.fst then { city with supplyState := 1 }
  else if trustOf city.metadata * (9 / 10) < 30 then released (damage city city) (damage city city)
  else damage city city

/-- The cities that are lost. -/
def lostCities (queue : List (Int × Int)) (world : World) : List (Int × City) :=
  (damagedCities queue (sortById world.cities)).filter isLost

theorem mem_lostCities {id : Int} {damaged : City} : (id, damaged) ∈ lostCities queue world ↔
    ∃ city, world.cities.get? id = some city ∧ damaged = damage city city ∧
      ¬ (city.nationId = 0 ∨ id ∈ queue.map Prod.fst) ∧ trustOf city.metadata * (9 / 10) < 30 := by
  simp only [lostCities, damagedCities, List.mem_filter, List.mem_map, Prod.exists, Prod.mk.injEq, mem_sortById,
    decide_eq_true_eq]
  constructor
  · rintro ⟨⟨id_, city, ⟨known, unsupplied⟩, rfl, rfl⟩, lost⟩
    rw [isLost_damage, decide_eq_true_eq] at lost
    exact ⟨city, known, rfl, unsupplied, lost⟩
  · rintro ⟨city, known, rfl, unsupplied, lost⟩
    exact ⟨⟨id, city, ⟨known, unsupplied⟩, rfl, rfl⟩, by rw [isLost_damage, decide_eq_true_eq]; exact lost⟩

theorem lostCities_nodup (queue : List (Int × Int)) (world : World) : ((lostCities queue world).map Prod.fst).Nodup := by
  have damaged : ((damagedCities queue (sortById world.cities)).map Prod.fst).Nodup := by
    rw [damagedCities, List.map_map]
    exact (sortById_nodup world.cities).sublist (List.filter_sublist.map _)
  exact damaged.sublist (List.filter_sublist.map _)

theorem foldl_announceLost (year month : Int) (lost : List (Int × City)) (world : World) :
    (lost.foldl (announceLost year month) world).cities = world.cities ∧
      (lost.foldl (announceLost year month) world).nations = world.nations ∧
      (lost.foldl (announceLost year month) world).generals = world.generals := by
  induction lost generalizing world with
  | nil => exact ⟨rfl, rfl, rfl⟩
  | cons one rest ih => exact ih (announceLost year month world one)

theorem foldl_keeps {μ ν : Type} (part : World → ν) (step : World → μ → World)
    (keeps : ∀ world one, part (step world one) = part world) (items : List μ) (world : World) :
    part (items.foldl step world) = part world := by
  induction items generalizing world with
  | nil => rfl
  | cons one rest ih => rw [List.foldl_cons, ih, keeps]

theorem weakenGeneral_spec (unsupplied : List (Int × City)) (world : World) (listed : Int × General) :
    (weakenGeneral unsupplied world listed).cities = world.cities ∧
      (weakenGeneral unsupplied world listed).nations = world.nations ∧
      ∀ id, (weakenGeneral unsupplied world listed).generals.get? id = if id = listed.1 then
        (world.generals.get? id).map fun target =>
          if (unsupplied.lookup listed.2.cityId).map City.nationId ≠ some listed.2.nationId then target
          else weaken listed.2 target
        else world.generals.get? id := by
  unfold weakenGeneral
  split
  · refine ⟨rfl, rfl, fun id => ?_⟩
    simp
  · exact ⟨rfl, rfl, fun id => OrderedMap.get?_alter _ _ _ _⟩

theorem dismissOfficer_spec (lostCityIds : List Int) (world : World) (listed : Int × General) :
    (dismissOfficer lostCityIds world listed).cities = world.cities ∧
      (dismissOfficer lostCityIds world listed).nations = world.nations ∧
      ∀ id, (dismissOfficer lostCityIds world listed).generals.get? id = if id = listed.1 then
        (world.generals.get? id).map fun target =>
          if resolveOfficerCity listed.2.metadata ∉ lostCityIds then target else dismissed target
        else world.generals.get? id := by
  unfold dismissOfficer
  split
  · refine ⟨rfl, rfl, fun id => ?_⟩
    simp
  · exact ⟨rfl, rfl, fun id => OrderedMap.get?_alter _ _ _ _⟩

/-- A general who may have been weakened holds the same office. -/
def SameOffice (general after : General) : Prop :=
  after.officerLevel = general.officerLevel ∧ after.metadata = general.metadata

theorem weakenLoop_spec (unsupplied : List (Int × City)) (world : World) :
    let after := (sortById world.generals).foldl (weakenGeneral unsupplied) world
    after.cities = world.cities ∧ after.nations = world.nations ∧ ∀ id general, after.generals.get? id = some general →
      ∃ before, world.generals.get? id = some before ∧ SameOffice before general := by
  refine ⟨foldl_keeps World.cities _ (fun world one => (weakenGeneral_spec unsupplied world one).1) _ _,
    foldl_keeps World.nations _ (fun world one => (weakenGeneral_spec unsupplied world one).2.1) _ _,
    fun id general found => ?_⟩
  let view (world : World) (id : Int) : Option General := world.generals.get? id
  have changes := fun world one key => (weakenGeneral_spec unsupplied world one).2.2 key
  cases known : world.generals.get? id with
  | none =>
    have kept := OrderedMap.view_foldl_of_notMem view (weakenGeneral unsupplied) _ changes (notMem_sortById known) world
    simp only [view] at kept
    rw [kept, known] at found
    cases found
  | some before =>
    have changed := OrderedMap.view_foldl_of_mem view (weakenGeneral unsupplied) _ changes
      (sortById_nodup world.generals) (mem_sortById.mpr known) world
    simp only [view] at changed
    rw [changed, known, Option.map_some] at found
    refine ⟨before, rfl, ?_⟩
    rw [← Option.some.inj found]
    split
    · exact ⟨rfl, rfl⟩
    · exact ⟨rfl, rfl⟩

theorem dismissLoop_spec (lostCityIds : List Int) (listed : OrderedMap Int General) (world : World) :
    let after := (sortById listed).foldl (dismissOfficer lostCityIds) world
    after.cities = world.cities ∧ after.nations = world.nations ∧
      (∀ id before, listed.get? id = some before → after.generals.get? id = (world.generals.get? id).map fun target =>
        if resolveOfficerCity before.metadata ∉ lostCityIds then target else dismissed target) ∧
      ∀ id, listed.get? id = none → after.generals.get? id = world.generals.get? id := by
  let view (world : World) (id : Int) : Option General := world.generals.get? id
  have changes := fun world one key => (dismissOfficer_spec lostCityIds world one).2.2 key
  refine ⟨foldl_keeps World.cities _ (fun world one => (dismissOfficer_spec lostCityIds world one).1) _ _,
    foldl_keeps World.nations _ (fun world one => (dismissOfficer_spec lostCityIds world one).2.1) _ _,
    fun id before known => OrderedMap.view_foldl_of_mem view (dismissOfficer lostCityIds) _ changes
      (sortById_nodup listed) (mem_sortById.mpr known) world,
    fun id unknown => OrderedMap.view_foldl_of_notMem view (dismissOfficer lostCityIds) _ changes ?_ world⟩
  exact notMem_sortById unknown

theorem releaseLoop_spec {lost : List (Int × City)} (distinct : (lost.map Prod.fst).Nodup) (world : World) :
    let after := lost.foldl releaseCity world
    after.nations = world.nations ∧ after.generals = world.generals ∧
      (∀ id damaged, (id, damaged) ∈ lost → after.cities.get? id = (world.cities.get? id).map (released damaged)) ∧
      ∀ id, id ∉ lost.map Prod.fst → after.cities.get? id = world.cities.get? id := by
  let view (world : World) (id : Int) : Option City := world.cities.get? id
  have changes : ∀ world (one : Int × City) key, view (releaseCity world one) key =
      if key = one.1 then (view world key).map (released one.2) else view world key :=
    fun world one key => OrderedMap.get?_alter _ _ _ _
  exact ⟨foldl_keeps World.nations releaseCity (fun _ _ => rfl) lost world,
    foldl_keeps World.generals releaseCity (fun _ _ => rfl) lost world,
    fun id damaged member => OrderedMap.view_foldl_of_mem view releaseCity (fun one => released one.2) changes distinct
      member world,
    fun id absent => OrderedMap.view_foldl_of_notMem view releaseCity (fun one => released one.2) changes absent world⟩

theorem applyLosses_spec (year month : Int) (queue : List (Int × Int)) (world : World) :
    let after := applyLosses year month queue world
    (∀ id, after.cities.get? id = (world.cities.get? id).map (afterSupply queue id)) ∧
      after.nations = world.nations ∧
      ∀ id general, after.generals.get? id = some general → ∃ before weakened, world.generals.get? id = some before ∧
        SameOffice before weakened ∧
        general = if resolveOfficerCity before.metadata ∉ (lostCities queue world).map Prod.fst then weakened
          else dismissed weakened := by
  obtain ⟨cities, nations, generals, damaged⟩ := supplyLoop_spec queue (sortById_nodup world.cities) (world, [])
    fun entry member => mem_sortById.mp member
  intro after
  have unfolded : after = applyLosses year month queue world := rfl
  unfold applyLosses at unfolded
  generalize (sortById world.cities).foldl (supplyCity queue) (world, []) = first at *
  obtain ⟨supplied, unsupplied⟩ := first
  dsimp only at cities nations generals damaged unfolded
  rw [List.nil_append] at damaged
  have lost : unsupplied.filter isLost = lostCities queue world := by rw [damaged]; rfl
  rw [lost] at unfolded
  have updated : ∀ id, supplied.cities.get? id = (world.cities.get? id).map (suppliedOrDamaged queue id) := by
    intro id
    rw [cities id]
    split
    · rfl
    · rename_i absent
      cases known : world.cities.get? id with
      | none => rfl
      | some city => exact absurd (List.mem_map_of_mem (mem_sortById.mpr known)) absent
  obtain ⟨weakCities, weakNations, weakGenerals⟩ := weakenLoop_spec unsupplied supplied
  generalize (sortById supplied.generals).foldl (weakenGeneral unsupplied) supplied = weak at *
  -- A city that is not lost is as the first loop has left it.
  have settled : ∀ id city, world.cities.get? id = some city → id ∉ (lostCities queue world).map Prod.fst →
      suppliedOrDamaged queue id city = afterSupply queue id city := by
    intro id city known kept
    unfold suppliedOrDamaged afterSupply
    split
    · rfl
    · rename_i without
      rw [if_neg fun low => kept (List.mem_map_of_mem (mem_lostCities.mpr ⟨city, known, rfl, without, low⟩))]
  split at unfolded
  · rename_i nothing
    have none_ : lostCities queue world = [] := List.isEmpty_iff.mp nothing
    rw [none_] at settled
    rw [unfolded]
    refine ⟨fun id => ?_, weakNations.trans nations, fun id general found => ?_⟩
    · rw [weakCities, updated]
      cases known : world.cities.get? id with
      | none => rfl
      | some city => exact congrArg some (settled id city known List.not_mem_nil)
    · obtain ⟨before, known, same⟩ := weakGenerals id general found
      rw [generals] at known
      exact ⟨before, general, known, same, by rw [none_]; exact (if_pos List.not_mem_nil).symm⟩
  · obtain ⟨toldCities, toldNations, toldGenerals⟩ := foldl_announceLost year month (lostCities queue world) weak
    generalize (lostCities queue world).foldl (announceLost year month) weak = told at *
    obtain ⟨sentCities, sentNations, sentListed, sentOthers⟩ :=
      dismissLoop_spec ((lostCities queue world).map Prod.fst) supplied.generals told
    generalize (sortById supplied.generals).foldl (dismissOfficer ((lostCities queue world).map Prod.fst)) told = sent at *
    obtain ⟨lastNations, lastGenerals, lastLost, lastKept⟩ := releaseLoop_spec (lostCities_nodup queue world) sent
    rw [unfolded]
    have sentUpdated : ∀ id, sent.cities.get? id = (world.cities.get? id).map (suppliedOrDamaged queue id) := by
      intro id
      rw [sentCities, toldCities, weakCities, updated]
    refine ⟨fun id => ?_, lastNations.trans (sentNations.trans (toldNations.trans (weakNations.trans nations))),
      fun id general found => ?_⟩
    · by_cases isLost_ : id ∈ (lostCities queue world).map Prod.fst
      · obtain ⟨⟨_, lostCity⟩, member, rfl⟩ := List.mem_map.mp isLost_
        rw [lastLost _ _ member, sentUpdated]
        obtain ⟨city, known, rfl, without, low⟩ := mem_lostCities.mp member
        rw [known]
        simp only [Option.map_some, suppliedOrDamaged, afterSupply, if_neg without, if_pos low]
      · rw [lastKept id isLost_, sentUpdated]
        cases known : world.cities.get? id with
        | none => rfl
        | some city => exact congrArg some (settled id city known isLost_)
    · rw [lastGenerals] at found
      cases known : supplied.generals.get? id with
      | none =>
        rw [sentOthers id known, toldGenerals] at found
        obtain ⟨before, listed, -⟩ := weakGenerals id general found
        rw [known] at listed
        cases listed
      | some before =>
        rw [sentListed id before known, toldGenerals] at found
        obtain ⟨weakened, weakFound, rfl⟩ := Option.map_eq_some_iff.mp found
        obtain ⟨before_, known_, same⟩ := weakGenerals id weakened weakFound
        rw [known] at known_
        cases known_
        exact ⟨before, weakened, generals ▸ known, same, rfl⟩

/-! ### The month -/

theorem ownerOf_eq_some {id : Int} : world.ownerOf id = some nationId ↔
    ∃ city, world.cities.get? id = some city ∧ city.nationId = nationId ∧ nationId ≠ 0 := by
  rw [World.ownerOf, Option.bind_eq_some_iff]
  constructor
  · rintro ⟨city, known, owned⟩
    rw [Option.ite_none_right_eq_some] at owned
    obtain ⟨some_, same⟩ := owned
    cases same
    exact ⟨city, known, rfl, some_⟩
  · rintro ⟨city, known, rfl, some_⟩
    exact ⟨city, known, if_pos some_⟩

/-- A month of supply: who is supplied has been queued, and the losses have been applied. -/
structure SuppliedMonth (cities : List MapCity) (queue : List (Int × Int)) (world after : World) : Prop where
  queued : ∀ id, id ∈ queue.map Prod.fst ↔ ∃ nationId, SuppliedBy cities world nationId id
  settled : ∀ id, after.cities.get? id = (world.cities.get? id).map (afterSupply queue id)
  nations : after.nations = world.nations

theorem SuppliedMonth.owner_before (held : SuppliedMonth cities queue world after) {id : Int}
    (owner : after.ownerOf id = some nationId) : world.ownerOf id = some nationId := by
  obtain ⟨now, known, same, some_⟩ := ownerOf_eq_some.mp owner
  rw [held.settled] at known
  obtain ⟨city, before, rfl⟩ := Option.map_eq_some_iff.mp known
  refine ownerOf_eq_some.mpr ⟨city, before, ?_, some_⟩
  rw [← same]
  unfold afterSupply at same ⊢
  split
  · rfl
  · split
    · -- A city that was lost has no owner.
      rename_i without low
      rw [if_neg without, if_pos low] at same
      exact absurd same.symm some_
    · rfl

theorem SuppliedMonth.owner_after (held : SuppliedMonth cities queue world after) {id : Int}
    (supplied : SuppliedBy cities world nationId id) : after.ownerOf id = some nationId := by
  obtain ⟨city, known, same, some_⟩ := ownerOf_eq_some.mp supplied.owner
  refine ownerOf_eq_some.mpr ⟨afterSupply queue id city, by rw [held.settled, known]; rfl, ?_, some_⟩
  rw [afterSupply, if_pos (.inr ((held.queued id).mpr ⟨nationId, supplied⟩))]
  exact same

theorem SuppliedMonth.ownsCapital (held : SuppliedMonth cities queue world after) {capital : Int} :
    after.OwnsCapital nationId capital ↔ world.OwnsCapital nationId capital := by
  unfold World.OwnsCapital
  rw [held.nations]
  constructor
  · rintro ⟨nation, known, level, at_, owner⟩
    exact ⟨nation, known, level, at_, held.owner_before owner⟩
  · rintro ⟨nation, known, level, at_, owner⟩
    exact ⟨nation, known, level, at_, held.owner_after ⟨capital, ⟨nation, known, level, at_, owner⟩, .refl⟩⟩

theorem SuppliedMonth.suppliedBy (held : SuppliedMonth cities queue world after) {id : Int} :
    SuppliedBy cities after nationId id ↔ SuppliedBy cities world nationId id := by
  constructor
  · rintro ⟨capital, owns, links⟩
    have linkedBefore : ∀ here there, Linked cities after nationId here there → Linked cities world nationId here there :=
      fun here there linked => ⟨held.owner_before linked.1, linked.2⟩
    exact ⟨capital, held.ownsCapital.mp owns, Relation.ReflTransGen.mono linkedBefore _ _ links⟩
  · rintro ⟨capital, owns, links⟩
    refine ⟨capital, held.ownsCapital.mpr owns, ?_⟩
    induction links with
    | refl => exact .refl
    | tail before linked ih =>
      -- What the path has reached is supplied, so it has kept its owner.
      exact ih.tail ⟨held.owner_after ⟨capital, owns, before.tail linked⟩, linked.2⟩

/-- A general who holds an office of a city. -/
def HoldsOffice (general : General) (cityId : Int) : Prop :=
  1 < general.officerLevel ∧ resolveOfficerCity general.metadata = cityId

theorem updateCitySupply_ok {year month : Int} (done : updateCitySupply cities year month world = .ok after) :
    ∃ queue, SuppliedMonth cities queue world after ∧ after = applyLosses year month queue world := by
  unfold updateCitySupply at done
  cases searched : suppliedCities cities world with
  | error missing =>
    rw [searched] at done
    cases done
  | ok queue =>
    rw [searched] at done
    cases done
    obtain ⟨settled, nations, -⟩ := applyLosses_spec year month queue world
    exact ⟨queue, ⟨(suppliedCities_spec cities world).1 queue searched, settled, nations⟩, rfl⟩

/--
The month is completed if every owned city is on the map.

A city that is still owned has supplies exactly if a path of cities of its nation leads to it from the nation's own
capital. A city is lost exactly if it went without supplies and its trust fell below thirty; no nation with a level loses
its capital, and no general keeps an office of a lost city.
-/
theorem city_supply (cities : List MapCity) (year month : Int) (world : World) :
    ((∀ id nationId, world.ownerOf id = some nationId → mapCityById cities id ≠ none) →
      ∃ after, updateCitySupply cities year month world = .ok after) ∧
    ∀ after, updateCitySupply cities year month world = .ok after →
      (∀ id city, after.cities.get? id = some city → city.nationId ≠ 0 →
        (city.supplyState = 1 ↔ SuppliedBy cities after city.nationId id)) ∧
      (∀ id city, world.cities.get? id = some city → city.nationId ≠ 0 → ∃ now, after.cities.get? id = some now ∧
        (now.nationId = 0 ↔ ¬ SuppliedBy cities world city.nationId id ∧ trustOf city.metadata * (9 / 10) < 30) ∧
        (now.nationId ≠ 0 → now.nationId = city.nationId)) ∧
      (∀ nationId capital, world.OwnsCapital nationId capital → after.ownerOf capital = some nationId) ∧
      ∀ id general, after.generals.get? id = some general → ∀ cityId, world.ownerOf cityId ≠ none →
        after.ownerOf cityId = none → ¬ HoldsOffice general cityId := by
  refine ⟨fun mapped => ?_, fun after done => ?_⟩
  · unfold updateCitySupply
    cases searched : suppliedCities cities world with
    | ok queue => exact ⟨_, rfl⟩
    | error missing =>
      obtain ⟨nationId, id, supplied, unmapped⟩ := (suppliedCities_spec cities world).2 missing searched
      exact absurd unmapped (mapped id nationId supplied.owner)
  · obtain ⟨queue, held, rfl⟩ := updateCitySupply_ok done
    -- A city has been queued exactly if its own nation supplies it.
    have queued {id : Int} {city : City} (known : world.cities.get? id = some city) :
        id ∈ queue.map Prod.fst ↔ SuppliedBy cities world city.nationId id := by
      rw [held.queued]
      refine ⟨?_, fun supplied => ⟨city.nationId, supplied⟩⟩
      rintro ⟨nationId, supplied⟩
      obtain ⟨city_, known_, same, -⟩ := ownerOf_eq_some.mp supplied.owner
      rw [known] at known_
      cases known_
      rw [same]
      exact supplied
    refine ⟨fun id now found owned => ?_, fun id city known owned => ?_, fun nationId capital owns => ?_,
      fun id general found cityId owned lost office => ?_⟩
    · rw [held.settled] at found
      obtain ⟨city, known, rfl⟩ := Option.map_eq_some_iff.mp found
      rw [held.suppliedBy]
      unfold afterSupply at owned ⊢
      by_cases with_ : city.nationId = 0 ∨ id ∈ queue.map Prod.fst
      · rw [if_pos with_] at owned ⊢
        exact ⟨fun _ => (queued known).mp (with_.resolve_left owned), fun _ => rfl⟩
      · rw [if_neg with_] at owned ⊢
        split
        · rename_i low
          rw [if_pos low] at owned
          exact absurd rfl owned
        · refine ⟨fun one => absurd one (by simp [damage]), fun supplied => ?_⟩
          exact absurd (.inr ((queued known).mpr supplied)) with_
    · refine ⟨afterSupply queue id city, by rw [held.settled, known]; rfl, ?_⟩
      rw [← queued known]
      unfold afterSupply
      by_cases with_ : id ∈ queue.map Prod.fst
      · rw [if_pos (.inr with_)]
        exact ⟨⟨fun zero => absurd zero owned, fun without => absurd with_ without.1⟩, fun _ => rfl⟩
      · rw [if_neg (not_or.mpr ⟨owned, with_⟩)]
        split
        · rename_i low
          exact ⟨⟨fun _ => ⟨with_, low⟩, fun _ => rfl⟩, fun some_ => absurd rfl some_⟩
        · rename_i enough
          exact ⟨⟨fun zero => absurd zero owned, fun low => absurd low.2 enough⟩, fun _ => rfl⟩
    · exact held.owner_after ⟨capital, owns, .refl⟩
    · obtain ⟨nationId, owner⟩ := Option.ne_none_iff_exists'.mp owned
      obtain ⟨city, known, same, some_⟩ := ownerOf_eq_some.mp owner
      -- A city that has lost its owner is among the lost ones.
      have among : cityId ∈ (lostCities queue world).map Prod.fst := by
        by_contra kept
        have without : ¬ (city.nationId = 0 ∨ cityId ∈ queue.map Prod.fst) := by
          rintro (zero | with_)
          · exact some_ (same ▸ zero)
          · rw [held.owner_after ((queued known).mp with_)] at lost
            cases lost
        have low : ¬ trustOf city.metadata * (9 / 10) < 30 := fun low =>
          kept (List.mem_map_of_mem (mem_lostCities.mpr ⟨city, known, rfl, without, low⟩))
        have still : (applyLosses year month queue world).ownerOf cityId = some nationId := by
          refine ownerOf_eq_some.mpr ⟨afterSupply queue cityId city, by rw [held.settled, known]; rfl, ?_, some_⟩
          rw [afterSupply, if_neg without, if_neg low]
          exact same
        rw [lost] at still
        cases still
      obtain ⟨before, weakened, -, sameOffice, rfl⟩ := (applyLosses_spec year month queue world).2.2 id general found
      obtain ⟨level, post⟩ := office
      split at level
      · rename_i other
        rw [if_pos other, sameOffice.2] at post
        exact other (post ▸ among)
      · exact absurd level (by simp [dismissed])

/-- A city of the first nation. -/
def cityOfFirst (trust : ℚ) : City :=
  { name := "낙양", nationId := 1, supplyState := 1, frontState := 0, population := 1000, agriculture := 100, commerce := 100
    security := 100, defence := 100, wall := 100, conflict := none, metadata := [("trust", .num trust)] }

/-- Three cities of a nation, of which the last one is cut off, and the officer of that city. -/
def cutOffWorld (level : Int) : World where
  cities := ⟨[(1, cityOfFirst 80), (2, cityOfFirst 20), (3, cityOfFirst 20)], by decide⟩
  nations := ⟨[(1, { level, capitalCityId := some 1 })], List.nodup_singleton 1⟩
  generals := ⟨[(7, { nationId := 1, cityId := 3, officerLevel := 4, crew := 100, atmos := 100, train := 100
                      metadata := [("officerCity", .num 3), ("officer_city", .num 3)] })], List.nodup_singleton 7⟩
  logs := []

/-- The map on which they lie. -/
def cutOffMap : List MapCity := [⟨1, [2]⟩, ⟨2, [1]⟩, ⟨3, []⟩]

/-- The city that is cut off is lost, and the others keep their nation. -/
theorem city_supply_cut_off : ∃ after, updateCitySupply cutOffMap 190 1 (cutOffWorld 1) = .ok after ∧
    after.ownerOf 1 = some 1 ∧ SuppliedBy cutOffMap after 1 2 ∧
    (∃ now, after.cities.get? 3 = some now ∧ now.nationId = 0) ∧
    ∀ general, after.generals.get? 7 = some general → ¬ HoldsOffice general 3 := by
  obtain ⟨ends, month⟩ := city_supply cutOffMap 190 1 (cutOffWorld 1)
  have computed : ((updateCitySupply cutOffMap 190 1 (cutOffWorld 1)).toOption.map fun after =>
      ((after.cities.get? 2).map fun city => (city.nationId, city.supplyState), (after.cities.get? 3).map City.nationId,
        after.ownerOf 3)) = some (some (1, 1), some 0, none) := by decide +kernel
  cases done : updateCitySupply cutOffMap 190 1 (cutOffWorld 1) with
  | error missing =>
    rw [done] at computed
    cases computed
  | ok after =>
    rw [done] at computed
    obtain ⟨supplied, -, capitals, officers⟩ := month after done
    obtain ⟨second, third⟩ := Prod.mk.inj (Option.some.inj computed)
    obtain ⟨thirdNation, thirdOwner⟩ := Prod.mk.inj third
    obtain ⟨city, known, fields⟩ := Option.map_eq_some_iff.mp second
    obtain ⟨nation, supply⟩ := Prod.mk.inj fields
    obtain ⟨lost, lostKnown, neutral⟩ := Option.map_eq_some_iff.mp thirdNation
    refine ⟨after, rfl, capitals 1 1 ⟨_, rfl, by decide, rfl, by decide +kernel⟩, ?_, ⟨lost, lostKnown, neutral⟩,
      fun general found => officers 7 general found 3 (by decide +kernel) thirdOwner⟩
    rw [← nation]
    exact (supplied 2 city known (by rw [nation]; decide)).mp supply

/-- A nation without a level is not supplied from its capital, and may lose it. -/
theorem city_supply_without_level :
    ¬ ∀ (cities : List MapCity) (year month : Int) (world after : World),
      updateCitySupply cities year month world = .ok after → ∀ nationId nation capital,
        world.nations.get? nationId = some nation → nation.capitalCityId = some capital →
        world.ownerOf capital = some nationId → after.ownerOf capital = some nationId := by
  intro claimed
  let world : World := { cutOffWorld 0 with cities := ⟨[(1, cityOfFirst 20)], by decide⟩ }
  have computed : ((updateCitySupply cutOffMap 190 1 world).toOption.map fun after => after.ownerOf 1) = some none := by
    decide +kernel
  cases done : updateCitySupply cutOffMap 190 1 world with
  | error missing =>
    rw [done] at computed
    cases computed
  | ok after =>
    rw [done] at computed
    have kept := claimed cutOffMap 190 1 world after done 1 { level := 0, capitalCityId := some 1 } 1 rfl rfl
      (by decide +kernel)
    have nobody : after.ownerOf 1 = none := Option.some.inj computed
    rw [nobody] at kept
    cases kept

end Sammo.CitySupply
