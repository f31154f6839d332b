import Mathlib.Algebra.Order.Field.Rat
import Sammo.Lib.Breadth
import Sammo.World.CitySupply

/-! The distances between the cities of a map. -/

namespace Sammo.CityDistance

open CitySupply (MapCity)

/-- The cities that a city is connected to; of several entries of a city the first one counts. -/
def connections (map : List MapCity) (id : Int) : List Int :=
  ((map.find? fun city => city.id = id).map MapCity.connections).getD []

/-- The connections by city; of several entries of a city the last one counts. -/
def buildConnectionMap (map : List MapCity) : OrderedMap Int (List Int) :=
  OrderedMap.ofEntries (map.map fun city => (city.id, city.connections))

/-- No search has more rounds than there are connections, and one for its start. -/
def rounds (map : List MapCity) : ℕ := (map.flatMap MapCity.connections).length + 1

/-- The distance between two cities. -/
def getCityDistance (map : List MapCity) (startCityId endCityId : Int) : ℕ∞ :=
  -- A city is marked as visited exactly when it is queued, and no city is queued once the end has been seen.
  if startCityId = endCityId then 0
  else Breadth.seek (connections map) endCityId (rounds map) [] [(startCityId, 0)]

/-- The cities in a range, with their distances. -/
def searchDistanceEntries (map : List MapCity) (startCityId : Int) (range : ℚ) : List (Int × ℕ) :=
  Breadth.search (connections map) (fun dist => !decide (range ≤ dist)) (rounds map) [] [(startCityId, 0)]

/-- The cities in a range, as a record. -/
def searchDistance (map : List MapCity) (startCityId : Int) (range : ℚ) : OrderedMap Int ℕ :=
  OrderedMap.ofEntries (searchDistanceEntries map startCityId range)

/-- The connections between the cities of a set. -/
def connectionsWithin (map : List MapCity) (citySet : OrderedSet Int) (id : Int) : List Int :=
  (((buildConnectionMap map).get? id).getD []).filter fun nextId => nextId ∈ citySet

/-- The distances between the cities of a list, along that list. -/
def searchAllDistanceByCityList (map : List MapCity) (cityIds : List Int) : OrderedMap Int (OrderedMap Int ℕ) :=
  if cityIds = [] then .empty
  else
    let citySet := OrderedSet.ofList cityIds
    OrderedMap.ofEntries (citySet.items.map fun startId => (startId, OrderedMap.ofEntries
      (Breadth.search (connectionsWithin map citySet) (fun _ => true) (rounds map) [] [(startId, 0)])))

/-! ### The graphs -/

theorem mem_connections {map : List MapCity} {id next : Int} (connected : next ∈ connections map id) :
    next ∈ map.flatMap MapCity.connections := by
  unfold connections at connected
  cases found : map.find? fun city => city.id = id with
  | none => simp [found] at connected
  | some city =>
    rw [found] at connected
    exact List.mem_flatMap.mpr ⟨city, List.mem_of_find?_eq_some found, connected⟩

theorem mem_connectionsWithin {map : List MapCity} {citySet : OrderedSet Int} {id next : Int}
    (connected : next ∈ connectionsWithin map citySet id) :
    next ∈ map.flatMap MapCity.connections ∧ next ∈ citySet := by
  obtain ⟨listed, among⟩ := List.mem_filter.mp connected
  refine ⟨?_, of_decide_eq_true among⟩
  rw [buildConnectionMap, OrderedMap.get?_ofEntries] at listed
  cases found : (map.map fun city => (city.id, city.connections)).reverse.find? fun entry => entry.1 = id with
  | none => simp [found] at listed
  | some entry =>
    rw [found] at listed
    obtain ⟨city, member, rfl⟩ := List.mem_map.mp (List.mem_reverse.mp (List.mem_of_find?_eq_some found))
    exact List.mem_flatMap.mpr ⟨city, member, listed⟩

theorem get?_buildConnectionMap {map : List MapCity} (distinct : (map.map MapCity.id).Nodup) (id : Int) :
    ((buildConnectionMap map).get? id).getD [] = connections map id := by
  have keys : ((map.map fun city => (city.id, city.connections)).map Prod.fst).Nodup := by
    rw [List.map_map]
    exact distinct
  unfold connections
  cases found : map.find? fun city => city.id = id with
  | none =>
    -- A city that is not on the map has no entry at all.
    have absent : (buildConnectionMap map).get? id = none := by
      rw [Option.eq_none_iff_forall_ne_some]
      intro listed got
      obtain ⟨city, member, same⟩ := List.mem_map.mp ((OrderedMap.get?_ofEntries_of_nodup keys id listed).mp got)
      exact List.find?_eq_none.mp found city member (decide_eq_true (congrArg Prod.fst same))
    rw [absent]
    rfl
  | some city =>
    have named := List.find?_some found
    rw [decide_eq_true_eq] at named
    have got := (OrderedMap.get?_ofEntries_of_nodup keys id city.connections).mpr
      (List.mem_map.mpr ⟨city, List.mem_of_find?_eq_some found, by rw [named]⟩)
    rw [buildConnectionMap, got]
    rfl

theorem walk_inside {map : List MapCity} {neighbours : Int → List Int}
    (listed : ∀ id, ∀ next ∈ neighbours id, next ∈ map.flatMap MapCity.connections) (start : Int) (length : ℕ)
    (node : Int) (walk : Breadth.Walk neighbours start length node) :
    node ∈ start :: map.flatMap MapCity.connections := by
  cases walk with
  | stay => exact List.mem_cons_self
  | go _ step => exact List.mem_cons_of_mem start (listed _ _ step)

/-! ### The three searches -/

variable (map : List MapCity)

theorem getCityDistance_eq (start goal : Int) :
    getCityDistance map start goal = Breadth.distance (connections map) start goal := by
  unfold getCityDistance
  split
  · rename_i same
    rw [same, Breadth.distance_self]
  · rename_i apart
    exact Breadth.seek_spec (walk_inside (fun _ _ => mem_connections) start) (Nat.le_refl _) apart

theorem searchDistanceEntries_spec (start : Int) (range : ℚ) :
    ((searchDistanceEntries map start range).map Prod.fst).Nodup ∧
    (searchDistanceEntries map start range).Pairwise (fun earlier later => earlier.2 ≤ later.2) ∧
    ∀ id dist, (id, dist) ∈ searchDistanceEntries map start range ↔
      Breadth.distance (connections map) start id = dist ∧ (dist = 0 ∨ (dist : ℚ) < range + 1) := by
  obtain ⟨nodup, ordered, found⟩ := Breadth.search_spec (fun dist => !decide (range ≤ dist))
    (walk_inside (fun id _ (connected : _ ∈ connections map id) => mem_connections connected) start)
    (Nat.le_refl (rounds map))
  refine ⟨nodup, ordered, fun id dist => (found id dist).trans (and_congr_right fun _ => ?_)⟩
  -- The last node before the city is the farthest that the search has gone on from.
  constructor
  · intro allowed
    cases dist with
    | zero => exact .inl rfl
    | succ dist =>
      have last := allowed dist (Nat.lt_succ_self dist)
      simp only [Bool.not_eq_true', decide_eq_false_iff_not, not_le] at last
      right
      push_cast
      linarith
  · intro near shorter below
    simp only [Bool.not_eq_true', decide_eq_false_iff_not, not_le]
    rcases near with rfl | near
    · exact absurd below (Nat.not_lt_zero shorter)
    · have step : (shorter : ℚ) + 1 ≤ dist := by exact_mod_cast below
      linarith

theorem mem_searchDistanceEntries (start : Int) (range : ℕ) (id : Int) (dist : ℕ) :
    (id, dist) ∈ searchDistanceEntries map start range ↔
      Breadth.distance (connections map) start id = dist ∧ dist ≤ range := by
  rw [(searchDistanceEntries_spec map start range).2.2 id dist]
  refine and_congr_right fun _ => ?_
  constructor
  · rintro (rfl | near)
    · exact Nat.zero_le range
    · have below : dist < range + 1 := by exact_mod_cast near
      omega
  · intro within
    have below : dist < range + 1 := by omega
    exact .inr (by exact_mod_cast below)

theorem get?_searchDistance (start : Int) (range : ℚ) (id : Int) (dist : ℕ) :
    (searchDistance map start range).get? id = some dist ↔ (id, dist) ∈ searchDistanceEntries map start range :=
  OrderedMap.get?_ofEntries_of_nodup (searchDistanceEntries_spec map start range).1 id dist

/-- The distance that a search along a list of cities finds, if any. -/
def distanceWithin (cityIds : List Int) (start goal : Int) : Option ℕ :=
  ((searchAllDistanceByCityList map cityIds).get? start).bind fun distances => distances.get? goal

theorem distanceWithin_eq_some (cityIds : List Int) (start goal : Int) (dist : ℕ) :
    distanceWithin map cityIds start goal = some dist ↔ start ∈ cityIds ∧
      Breadth.distance (connectionsWithin map (OrderedSet.ofList cityIds)) start goal = dist := by
  unfold distanceWithin searchAllDistanceByCityList
  split
  · rename_i none_
    subst none_
    simp [OrderedMap.get?, OrderedMap.empty]
  · have keys : (((OrderedSet.ofList cityIds).items.map fun startId => (startId, OrderedMap.ofEntries
        (Breadth.search (connectionsWithin map (OrderedSet.ofList cityIds)) (fun _ => true) (rounds map) []
          [(startId, 0)]))).map Prod.fst).Nodup := by
      rw [List.map_map]
      simpa [Function.comp_def] using (OrderedSet.ofList cityIds).nodup
    obtain ⟨nodup, -, found⟩ := Breadth.search_spec (fun _ => true)
      (walk_inside (fun id _ (connected : _ ∈ connectionsWithin map (OrderedSet.ofList cityIds) id) =>
        (mem_connectionsWithin connected).1) start) (Nat.le_refl (rounds map))
    rw [Option.bind_eq_some_iff]
    constructor
    · rintro ⟨distances, started, got⟩
      obtain ⟨startId, member, same⟩ := List.mem_map.mp ((OrderedMap.get?_ofEntries_of_nodup keys _ _).mp started)
      obtain ⟨rfl, rfl⟩ := Prod.mk.inj same
      exact ⟨OrderedSet.mem_ofList.mp member,
        ((found goal dist).mp ((OrderedMap.get?_ofEntries_of_nodup nodup goal dist).mp got)).1⟩
    · rintro ⟨member, known⟩
      refine ⟨_, (OrderedMap.get?_ofEntries_of_nodup keys _ _).mpr
        (List.mem_map.mpr ⟨start, OrderedSet.mem_ofList.mpr member, rfl⟩), ?_⟩
      exact (OrderedMap.get?_ofEntries_of_nodup nodup goal dist).mpr ((found goal dist).mpr ⟨known, fun _ _ => rfl⟩)

theorem walk_within {cityIds : List Int} (distinct : (map.map MapCity.id).Nodup)
    (all : ∀ city ∈ map, city.id ∈ cityIds) (start : Int) {goal : Int} (listed : goal ∈ cityIds) (length : ℕ) :
    Breadth.Walk (connections map) start length goal ↔
      Breadth.Walk (connectionsWithin map (OrderedSet.ofList cityIds)) start length goal := by
  constructor
  · intro walk
    induction walk with
    | stay => exact .stay
    | @go length node next walk step ih =>
      -- Only a city of the map leads anywhere.
      have known : node ∈ cityIds := by
        unfold connections at step
        cases found : map.find? fun city => city.id = node with
        | none => simp [found] at step
        | some city =>
          have named := List.find?_some found
          rw [decide_eq_true_eq] at named
          exact named ▸ all city (List.mem_of_find?_eq_some found)
      refine (ih known).go (List.mem_filter.mpr ⟨?_, decide_eq_true (OrderedSet.mem_ofList.mpr listed)⟩)
      rw [get?_buildConnectionMap distinct]
      exact step
  · refine Breadth.Walk.mono fun node next connected => ?_
    have step := (List.mem_filter.mp connected).1
    rw [get?_buildConnectionMap distinct] at step
    exact step

/--
The three searches find the lengths of shortest walks.

The first two follow the first entry of a city and may end at unknown cities.
The third follows the last entry and stays on the list.
-/
theorem city_distances :
    (∀ start goal, getCityDistance map start goal = Breadth.distance (connections map) start goal) ∧
    (∀ start (range : ℚ), ((searchDistanceEntries map start range).map Prod.fst).Nodup ∧
      (searchDistanceEntries map start range).Pairwise (fun earlier later => earlier.2 ≤ later.2) ∧
      (∀ id dist, (id, dist) ∈ searchDistanceEntries map start range ↔
        Breadth.distance (connections map) start id = dist ∧ (dist = 0 ∨ (dist : ℚ) < range + 1)) ∧
      ∀ id dist, (searchDistance map start range).get? id = some dist ↔
        (id, dist) ∈ searchDistanceEntries map start range) ∧
    (∀ start (range : ℕ) id dist, (id, dist) ∈ searchDistanceEntries map start range ↔
      Breadth.distance (connections map) start id = dist ∧ dist ≤ range) ∧
    (∀ cityIds start goal dist, distanceWithin map cityIds start goal = some dist ↔ start ∈ cityIds ∧
      Breadth.distance (connectionsWithin map (OrderedSet.ofList cityIds)) start goal = dist) ∧
    ∀ cityIds, (map.map MapCity.id).Nodup → (∀ city ∈ map, city.id ∈ cityIds) →
      ∀ start ∈ cityIds, ∀ goal ∈ cityIds, ∀ dist : ℕ,
        (distanceWithin map cityIds start goal = some dist ↔ getCityDistance map start goal = dist) ∧
        ∀ range : ℕ, (goal, dist) ∈ searchDistanceEntries map start range ↔
          distanceWithin map cityIds start goal = some dist ∧ dist ≤ range := by
  refine ⟨getCityDistance_eq map, fun start range => ?_, mem_searchDistanceEntries map, distanceWithin_eq_some map,
    fun cityIds distinct all start started goal listed dist => ?_⟩
  · obtain ⟨nodup, ordered, found⟩ := searchDistanceEntries_spec map start range
    exact ⟨nodup, ordered, found, get?_searchDistance map start range⟩
  · have same := Breadth.distance_congr (walk_within map distinct all start listed)
    have agreed : distanceWithin map cityIds start goal = some dist ↔
        Breadth.distance (connections map) start goal = dist := by
      rw [distanceWithin_eq_some, same]
      exact and_iff_right started
    exact ⟨by rw [agreed, getCityDistance_eq], fun range => by rw [mem_searchDistanceEntries, agreed]⟩

/-- Two cities that are connected to each other, and a third beyond the second. -/
def chainMap : List MapCity := [⟨1, [2]⟩, ⟨2, [1, 3]⟩, ⟨3, []⟩]

/-- The three searches along a chain agree that the third city is two connections away. -/
theorem city_distances_chain : getCityDistance chainMap 1 3 = (2 : ℕ) ∧
    distanceWithin chainMap [1, 2, 3] 1 3 = some 2 ∧ (3, 2) ∈ searchDistanceEntries chainMap 1 2 := by
  have agreed := (city_distances chainMap).2.2.2.2 [1, 2, 3] (by decide) (by decide) 1 (by decide) 3 (by decide) 2
  have walked : getCityDistance chainMap 1 3 = (2 : ℕ) := by decide +kernel
  have listed := agreed.1.mpr walked
  exact ⟨walked, listed, (agreed.2 2).mpr ⟨listed, Nat.le_refl 2⟩⟩

/--
The searches differ where they are not about the cities of a map that lists each city once.

One map names an unknown city, though the list has every city of the map; another lists a city twice.
A range that is no natural number is not kept to.
-/
theorem city_distances_differ :
    (getCityDistance [⟨1, [2]⟩] 1 2 = (1 : ℕ) ∧ (2, 1) ∈ searchDistanceEntries [⟨1, [2]⟩] 1 1 ∧
      distanceWithin [⟨1, [2]⟩] [1] 1 2 = none) ∧
    (getCityDistance [⟨1, [2]⟩, ⟨2, []⟩, ⟨1, []⟩] 1 2 = (1 : ℕ) ∧
      distanceWithin [⟨1, [2]⟩, ⟨2, []⟩, ⟨1, []⟩] [1, 2] 1 2 = none) ∧
    searchDistanceEntries [⟨1, [2]⟩, ⟨2, []⟩] 1 (1 / 2) = [(1, 0), (2, 1)] ∧
    searchDistanceEntries [⟨1, [2]⟩, ⟨2, []⟩] 1 (-1) = [(1, 0)] := by
  decide +kernel

end Sammo.CityDistance
