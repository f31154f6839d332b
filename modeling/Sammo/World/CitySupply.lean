import Mathlib.Algebra.Order.Field.Rat
import Mathlib.Data.List.Sort
import Mathlib.Data.Rat.Floor
import Sammo.Data.Json
import Sammo.Lib.Flood
import Sammo.Lib.OrderedMap

/-! The monthly supply of the cities from the capitals, and the loss of those that are cut off. -/

namespace Sammo.CitySupply

/-- Rounds to the nearest integer, halves upwards. -/
def roundIntegerState (value : ℚ) : ℚ := ⌊value + 1 / 2⌋

/-- A number field of a record, rounded down; anything else is no number. -/
def wholeNumber? (record : Record) (key : String) : Option Int :=
  (record.get? key).bind fun value => value.number?.map fun number => ⌊number⌋

/-- The city in which a general holds an office. -/
def resolveOfficerCity (metadata : Record) : Int :=
  match wholeNumber? metadata "officerCity" with
  | some camel => camel
  | none => (wholeNumber? metadata "officer_city").getD 0

/-- A city of the map. -/
structure MapCity where
  id : Int
  connections : List Int

/-- A city of the world, as far as its supply is concerned. -/
structure City where
  name : String
  nationId : Int
  supplyState : Int
  frontState : Int
  population : ℚ
  agriculture : ℚ
  commerce : ℚ
  security : ℚ
  defence : ℚ
  wall : ℚ
  conflict : Option Json
  metadata : Record

/-- A nation. -/
structure Nation where
  level : Int
  capitalCityId : Option Int

/-- A general. -/
structure General where
  nationId : Int
  cityId : Int
  officerLevel : Int
  crew : ℚ
  atmos : ℚ
  train : ℚ
  metadata : Record

/-- A line of the history. -/
structure HistoryLog where
  text : String
  year : Int
  month : Int
  deriving DecidableEq

/-- The world. -/
structure World where
  cities : OrderedMap Int City
  nations : OrderedMap Int Nation
  generals : OrderedMap Int General
  logs : List HistoryLog

/-- Lists a map by its keys. -/
def sortById {ν : Type} (map : OrderedMap Int ν) : List (Int × ν) :=
  map.entries.insertionSort fun left right => left.1 ≤ right.1

/-- Changes a city, if there is one. -/
def World.updateCity (world : World) (id : Int) (patch : City → City) : World :=
  { world with cities := world.cities.alter id patch }

/-- Changes a general, if there is one. -/
def World.updateGeneral (world : World) (id : Int) (patch : General → General) : World :=
  { world with generals := world.generals.alter id patch }

/-! ### The search -/

/-- The city of the map with an id; of several, the last one. -/
def mapCityById (cities : List MapCity) (id : Int) : Option MapCity := cities.reverse.find? fun city => city.id = id

/-- The nation that a city belongs to, if any. -/
def World.ownerOf (world : World) (id : Int) : Option Int :=
  (world.cities.get? id).bind fun city => if city.nationId ≠ 0 then some city.nationId else none

/-- The capitals that are owned by their nations, each with its nation. -/
def World.capitals (world : World) : List (Int × Int) :=
  ((sortById world.nations).filter fun nation => 0 < nation.2.level).filterMap fun nation =>
    nation.2.capitalCityId.bind fun capital =>
      if world.ownerOf capital = some nation.1 then some (capital, nation.1) else none

/-- The cities of the same nation that a city is connected to. -/
def connectedCities (cities : List MapCity) (world : World) (current : Int × Int) : Except String (List (Int × Int)) :=
  match mapCityById cities current.1 with
  | none => .error s!"UpdateCitySupply map city is missing (cityId={current.1})"
  | some mapCity => .ok (mapCity.connections.filterMap fun id =>
      if world.ownerOf id = some current.2 then some (id, current.2) else none)

/-- The cities that get supplies, each with its nation: those that come to be queued. -/
def suppliedCities (cities : List MapCity) (world : World) : Except String (List (Int × Int)) :=
  -- No city is queued twice, so there are no more rounds than cities.
  Flood.flood (connectedCities cities world) world.cities.entries.length 0 world.capitals

/-! ### The losses -/

/-- The trust of a city. -/
def trustOf (metadata : Record) : ℚ := ((metadata.get? "trust").bind Json.number?).getD 0

/-- A city without supplies loses a tenth of everything. -/
def damage (city target : City) : City :=
  { target with
    supplyState := 0
    population := roundIntegerState (city.population * (9 / 10))
    agriculture := roundIntegerState (city.agriculture * (9 / 10))
    commerce := roundIntegerState (city.commerce * (9 / 10))
    security := roundIntegerState (city.security * (9 / 10))
    defence := roundIntegerState (city.defence * (9 / 10))
    wall := roundIntegerState (city.wall * (9 / 10))
    metadata := city.metadata.set "trust" (.num (trustOf city.metadata * (9 / 10))) }

/-- Updates the supply of a city; the damaged ones are collected. -/
def supplyCity (queue : List (Int × Int)) (state : World × List (Int × City)) (listed : Int × City) :
    World × List (Int × City) :=
  let supplied := listed.2.nationId = 0 ∨ listed.1 ∈ queue.map Prod.fst
  if supplied then (state.1.updateCity listed.1 fun target => { target with supplyState := 1 }, state.2)
  else
    let world := state.1.updateCity listed.1 (damage listed.2)
    (world, state.2 ++ ((world.cities.get? listed.1).map fun damaged => (listed.1, damaged)).toList)

/-- A general in a city of its nation without supplies loses a twentieth. -/
def weaken (general target : General) : General :=
  { target with
    crew := roundIntegerState (general.crew * (95 / 100))
    atmos := roundIntegerState (general.atmos * (95 / 100))
    train := roundIntegerState (general.train * (95 / 100)) }

/-- Weakens a general who goes without supplies. -/
def weakenGeneral (unsupplied : List (Int × City)) (world : World) (listed : Int × General) : World :=
  if (unsupplied.lookup listed.2.cityId).map City.nationId ≠ some listed.2.nationId then world
  else world.updateGeneral listed.1 (weaken listed.2)

/-- Whether a damaged city is lost. -/
def isLost (damaged : Int × City) : Bool :=
  match (damaged.2.metadata.get? "trust").bind Json.number? with
  | some trust => decide (trust < 30)
  | none => false

/-- The characters that decide a particle. -/
def isTargetChar (char : Char) : Bool :=
  let code := char.toNat
  char.isAlphanum || (0x3131 ≤ code && code ≤ 0x314e) || (0xac00 ≤ code && code ≤ 0xd7a3) ||
    (0x4e00 ≤ code && code ≤ 0x5ed3)

/-- Whether a word ends in a consonant. -/
def hasJongsung (text : String) : Bool :=
  match (text.toList.filter isTargetChar).getLast? with
  | none => false
  | some char =>
    let code := char.toNat
    if 0xac00 ≤ code ∧ code ≤ 0xd7a3 then (code - 0xac00) % 28 ≠ 0
    else if 0x3131 ≤ code ∧ code ≤ 0x314e then true
    else if char.isDigit then char ∈ ['0', '3', '6', '1', '7', '8']
    else char.toLower ∉ ['a', 'e', 'i', 'o', 'u', 'y']

/-- The line about a lost city. -/
def lostCityText (name : String) : String :=
  let josaYi := if hasJongsung name then "이" else "가"
  s!"<R><b>【고립】</b></><G><b>{name}</b></>{josaYi} 보급이 끊겨 <R>미지배</> 도시가 되었습니다."

/-- Adds the line about a lost city to the history. -/
def announceLost (year month : Int) (world : World) (lost : Int × City) : World :=
  { world with logs := world.logs ++ [{ text := lostCityText lost.2.name, year, month }] }

/-- A general without an office. -/
def dismissed (target : General) : General :=
  { target with
    officerLevel := 1
    metadata := (target.metadata.set "officerCity" (.num 0)).set "officer_city" (.num 0) }

/-- Dismisses the officers of lost cities. -/
def dismissOfficer (lostCityIds : List Int) (world : World) (listed : Int × General) : World :=
  if resolveOfficerCity listed.2.metadata ∉ lostCityIds then world else world.updateGeneral listed.1 dismissed

/-- A lost city belongs to nobody. -/
def released (lost target : City) : City :=
  { target with
    nationId := 0, frontState := 0, conflict := some (.obj [])
    metadata := (lost.metadata.set "officer_set" (.num 0)).set "term" (.num 0) }

/-- Gives up a lost city. -/
def releaseCity (world : World) (lost : Int × City) : World := world.updateCity lost.1 (released lost.2)

/-- What a month without supplies does to the world. -/
def applyLosses (year month : Int) (queue : List (Int × Int)) (world : World) : World :=
  let (world, unsuppliedCities) := (sortById world.cities).foldl (supplyCity queue) (world, [])
  let generals := sortById world.generals
  let world := generals.foldl (weakenGeneral unsuppliedCities) world
  let lostCities := unsuppliedCities.filter isLost
  if lostCities.isEmpty then world
  else
    let world := lostCities.foldl (announceLost year month) world
    let world := generals.foldl (dismissOfficer (lostCities.map Prod.fst)) world
    lostCities.foldl releaseCity world

/-- The monthly update of the supply. -/
def updateCitySupply (cities : List MapCity) (year month : Int) (world : World) : Except String World :=
  (suppliedCities cities world).map fun queue => applyLosses year month queue world

end Sammo.CitySupply
