import Sammo.War.CityConflict
import Sammo.War.Units
import Sammo.World.CityDistance

/-!
What follows the conquest of a city: the end of a nation that had no other city, or the flight of its capital.

The texts of the logs are left out, and so are the lists of the rows that have to be written.
-/

namespace Sammo.War.Conquest

open CitySupply (MapCity)
open CityConflict (ContestedCity resolveConquerNation)

variable {σ : Type}

/-- A stream of random draws. -/
structure RandomSource (σ : Type) where
  nextFloat1 : σ → ℚ × σ
  nextBit : σ → Bool × σ
  nextInt : σ → ℕ → ℕ × σ
  unit : ∀ state, 0 ≤ (nextFloat1 state).1 ∧ (nextFloat1 state).1 ≤ 1
  inclusive : ∀ state bound, (nextInt state bound).1 ≤ bound

/-- Draws from a range of fractions. -/
def nextRange (source : RandomSource σ) (low high : ℚ) (rng : σ) : ℚ × σ :=
  let drawn := source.nextFloat1 rng
  (drawn.1 * (high - low) + low, drawn.2)

/-- Draws from a range of integers that starts at zero, its end included. -/
def nextRangeInt (source : RandomSource σ) (high : ℕ) (rng : σ) : ℕ × σ := source.nextInt rng high

/-- Draws whether something with a probability happens. -/
def nextBool (source : RandomSource σ) (prob : ℚ) (rng : σ) : Bool × σ :=
  if 1 ≤ prob then (true, rng)
  else if prob = 1 / 2 then source.nextBit rng
  else if prob ≤ 0 then (false, rng)
  else
    let drawn := source.nextFloat1 rng
    (decide (drawn.1 < prob), drawn.2)

/-- Keeps a value from falling under a bound. -/
def clampMin (value low : ℚ) : ℚ := if value < low then low else value

/-- How generals without a nation may join one. -/
inductive JoinMode where
  | full
  | onlyRandom
  deriving DecidableEq

/-- What the aftermath of a conquest is configured with. -/
structure WarAftermathConfig where
  defaultCityWall : ℚ
  baseGold : ℚ
  baseRice : ℚ
  joinMode : Option JoinMode
  joinRuinedNpcProbability : Option ℚ

/-- A nation in a war. -/
structure WarNation where
  id : ℕ
  capitalCityId : Option Int
  chiefGeneralId : Option Int
  gold : ℚ
  rice : ℚ
  metadata : Record

/-- A city in a war; zero stands for no nation. -/
structure WarCity where
  nationId : ℕ
  level : ℚ
  population : ℚ
  agriculture : ℚ
  commerce : ℚ
  security : ℚ
  supplyState : ℚ
  frontState : ℚ
  defence : ℚ
  defenceMax : ℚ
  wall : ℚ
  wallMax : ℚ
  contested : ContestedCity
  metadata : Record

/-- A conquest; the attacker is not one of the listed generals, though a copy of it may be. -/
structure WarAftermathInput where
  attackerId : Int
  attacker : General
  attackerNation : WarNation
  defenderNation : Option WarNation
  defenderCityId : Int
  defenderCity : WarCity
  nations : List ℕ
  cities : OrderedMap Int WarCity
  generals : OrderedMap Int General
  map : List MapCity
  config : WarAftermathConfig
  /-- The city is one of the listed ones. -/
  listed : cities.get? defenderCityId = some defenderCity
  /-- It falls to another nation than its own. -/
  foreign : ∀ defender, defenderNation = some defender →
    defender.id = defenderCity.nationId ∧ defender.id ≠ attackerNation.id

/-- A letter that asks a general to join a nation. -/
structure ScoutMessage where
  srcGeneralId : Int
  srcNationId : ℕ
  destGeneralId : Int
  deriving DecidableEq

/-- When a general without a nation is going to join one. -/
structure RuinedNpcJoinPlan where
  generalId : Int
  destNationId : ℕ
  joinTurn : ℕ
  deriving DecidableEq

/-! ### The end of a nation -/

/-- The nation whose city falls. -/
def defenderNationId (input : WarAftermathInput) : ℕ := (input.defenderNation.map WarNation.id).getD 0

/-- The cities of a nation. -/
def ownedCities (input : WarAftermathInput) (nationId : ℕ) : List (Int × WarCity) :=
  input.cities.entries.filter fun entry => entry.2.nationId = nationId

/-- A nation whose only city falls comes to its end. -/
def nationCollapsed (input : WarAftermathInput) : Bool :=
  defenderNationId input ≠ 0 ∧ (ownedCities input (defenderNationId input)).length = 1

/-- The generals of a nation. -/
def nationGenerals (input : WarAftermathInput) (nationId : ℕ) : List (Int × General) :=
  input.generals.entries.filter fun entry => entry.2.nationId = nationId

/-- The general that led a nation to its end. -/
def collapseLord (input : WarAftermathInput) (defender : WarNation) : Option Int :=
  let members := nationGenerals input defender.id
  ((members.find? fun entry => entry.2.officerLevel = 12).or
    (defender.chiefGeneralId.bind fun chiefId => members.find? fun entry => entry.1 = chiefId)).map Prod.fst

/-- The generals leave in the order of their numbers, and the lord leaves last. -/
def LeavesBefore (lordId lhs rhs : Int) : Prop :=
  if lhs = lordId ↔ rhs = lordId then lhs ≤ rhs else rhs = lordId

instance (lordId : Int) : DecidableRel (LeavesBefore lordId) :=
  fun lhs rhs => inferInstanceAs (Decidable (if lhs = lordId ↔ rhs = lordId then lhs ≤ rhs else rhs = lordId))

/-- The generals of a nation in the order in which they leave it. -/
def defenderGenerals (input : WarAftermathInput) (defender : WarNation) (lordId : Int) : List Int :=
  ((nationGenerals input defender.id).map Prod.fst).insertionSort (LeavesBefore lordId)

/-- The root of a number, rounded up. -/
def ceilSqrt (value : ℕ) : ℕ := if value.sqrt * value.sqrt = value then value.sqrt else value.sqrt + 1

/-- Writes down the levels that go with the experience and the dedication of a general. -/
def updateLegacyProgressionLevels (general : General) : General :=
  let expLevel : ℚ := if general.experience < 1000 then trunc (general.experience / 100)
    else Nat.sqrt ⌊general.experience / 10⌋₊
  -- A root is at most ten times a whole number exactly when its square is at most a hundred times that number's.
  let dedLevel : ℚ := ceilSqrt ⌈general.dedication / 100⌉₊
  let levelled := general.metadata.set "explevel" (.num (clamp expLevel 0 255))
  { general with metadata := levelled.set "dedlevel" (.num (clamp dedLevel 0 30)) }

/-- The end of a nation, as far as its generals have been through it. -/
structure Collapse (σ : Type) where
  rng : σ
  generals : OrderedMap Int General
  totalGoldLoss : Int
  totalRiceLoss : Int
  messages : List ScoutMessage
  ruinedNpcJoinPlans : List RuinedNpcJoinPlan

/-- The letter that the attacker writes to a general that has lost its nation, if any. -/
def buildScoutMessageDraft (input : WarAftermathInput) (generalId : Int) : Option ScoutMessage :=
  if input.attackerId = generalId ∨ input.attacker.nationId = 0 ∨
    (input.attackerNation.id : Int) ≠ input.attacker.nationId then none
  else some ⟨input.attackerId, input.attackerNation.id, generalId⟩

/-- Offers a general that has lost its nation to join the attacker's. -/
def offerService (source : RandomSource σ) (input : WarAftermathInput) (generalId : Int) (npcState : ℚ)
    (collapse : Collapse σ) : Collapse σ :=
  let scouted := nextBool source (1 / 2) collapse.rng
  let messages := if scouted.1 then (buildScoutMessageDraft input generalId).toList else []
  let collapse := { collapse with rng := scouted.2, messages := collapse.messages ++ messages }
  -- Only some of the generals that nobody plays join by themselves.
  if 2 ≤ npcState ∧ npcState ≤ 8 ∧ npcState ≠ 5 then
    let joins := nextBool source (input.config.joinRuinedNpcProbability.getD (1 / 10)) collapse.rng
    if joins.1 then
      let joinTurn := nextRangeInt source 12 joins.2
      { collapse with
        rng := joinTurn.2
        ruinedNpcJoinPlans :=
          collapse.ruinedNpcJoinPlans ++ [⟨generalId, input.attackerNation.id, joinTurn.1⟩] }
    else { collapse with rng := joins.2 }
  else collapse

/-- A general that has lost its nation, and part of what it held on its flight. -/
def ruined (general : General) (loseGold loseRice : Int) : General :=
  updateLegacyProgressionLevels { general with
    gold := clampMin (general.gold - loseGold) 0
    rice := clampMin (general.rice - loseRice) 0
    experience := roundHalfUp (general.experience * (9 / 10))
    dedication := roundHalfUp (general.dedication * (1 / 2)) }

/-- What a general goes through when its nation comes to its end. -/
def ruinGeneral (source : RandomSource σ) (input : WarAftermathInput) (collapse : Collapse σ) (generalId : Int) :
    Collapse σ :=
  match collapse.generals.get? generalId with
  | none => collapse
  | some general =>
    let goldShare := nextRange source (2 / 10) (5 / 10) collapse.rng
    let riceShare := nextRange source (2 / 10) (5 / 10) goldShare.2
    let loseGold := trunc (general.gold * goldShare.1)
    let loseRice := trunc (general.rice * riceShare.1)
    let collapse := { collapse with
      rng := riceShare.2
      generals := collapse.generals.set generalId (ruined general loseGold loseRice)
      totalGoldLoss := collapse.totalGoldLoss + loseGold
      totalRiceLoss := collapse.totalRiceLoss + loseRice }
    if input.config.joinMode = some .onlyRandom then collapse
    else offerService source input generalId general.npcState collapse

/-- What a conquest leaves behind. -/
structure ConquerCityOutcome where
  conquerNationId : ℕ
  nationCollapsed : Bool
  collapseRewardGold : ℚ
  collapseRewardRice : ℚ
  attacker : General
  attackerNation : WarNation
  defenderNation : Option WarNation
  cities : OrderedMap Int WarCity
  generals : OrderedMap Int General
  messages : List ScoutMessage
  ruinedNpcJoinPlans : List RuinedNpcJoinPlan

/-- The conquest before anything has come of it. -/
def opening (input : WarAftermathInput) : ConquerCityOutcome where
  conquerNationId := resolveConquerNation input.defenderCity.contested input.attackerNation.id input.nations
  nationCollapsed := nationCollapsed input
  collapseRewardGold := 0
  collapseRewardRice := 0
  attacker := input.attacker
  attackerNation := input.attackerNation
  defenderNation := input.defenderNation
  cities := input.cities
  generals := input.generals
  messages := []
  ruinedNpcJoinPlans := []

/-- Half of what a treasury holds above its reserve and of what was lost on the flight, rounded down. -/
def collapseReward (treasury base : ℚ) (totalLoss : Int) : Int := ⌊(max 0 (treasury - base) + totalLoss) / 2⌋

/-- Brings a nation to its end, and the attacker's its reward. -/
def collapseNation (source : RandomSource σ) (input : WarAftermathInput) (defender : WarNation) (rng : σ) :
    Except String ConquerCityOutcome :=
  match collapseLord input defender with
  | none => .error s!"Collapsed nation {defender.id} has no lord general."
  | some lordId =>
    let collapse := (defenderGenerals input defender lordId).foldl (ruinGeneral source input)
      ⟨rng, input.generals, 0, 0, [], []⟩
    let rewardGold := collapseReward defender.gold input.config.baseGold collapse.totalGoldLoss
    let rewardRice := collapseReward defender.rice input.config.baseRice collapse.totalRiceLoss
    .ok { opening input with
      collapseRewardGold := roundHalfUp rewardGold
      collapseRewardRice := roundHalfUp rewardRice
      attackerNation := { input.attackerNation with
        gold := roundHalfUp (input.attackerNation.gold + rewardGold)
        rice := roundHalfUp (input.attackerNation.rice + rewardRice) }
      -- The treasury stays where it is, and goes when the nation is taken out of the world.
      defenderNation := some { defender with metadata := defender.metadata.set "collapsed" (.bool true) }
      generals := collapse.generals
      messages := collapse.messages
      ruinedNpcJoinPlans := collapse.ruinedNpcJoinPlans }

/-! ### The flight of a capital -/

/-- A general holds an office of a city. -/
def isAssignedToOfficerCity (general : General) (cityId : Int) : Bool :=
  ["officerCity", "officer_city", "officerCityId"].any fun key =>
    (general.metadata.get? key).bind Json.number? = some (cityId : ℚ)

/-- Takes its office from whoever holds one of the captured city. -/
def dismissOfficer (cityId : Int) (general : General) : General :=
  if isAssignedToOfficerCity general cityId then
    { general with
      officerLevel := 1
      metadata := ["officerCity", "officer_city", "officerCityId"].foldl
        (fun record key => record.set key (.num 0)) general.metadata }
  else general

/-- Looks through the cities by their distance; of the nearest ones that are left the last with most people is it. -/
def scanCapital (candidates : Int → Option WarCity) : List (Int × ℕ) → Option ℕ → Option (Int × WarCity) →
    Option (Int × WarCity)
  | [], _, nextCapital => nextCapital
  | (cityId, distance) :: rest, nearestDistance, nextCapital =>
    if distance = 0 then scanCapital candidates rest nearestDistance nextCapital
    else if nearestDistance.any fun nearest => nearest < distance then nextCapital
    else
      match candidates cityId with
      | none => scanCapital candidates rest nearestDistance nextCapital
      | some candidate =>
        -- The first distance with a city of the nation stays the nearest.
        scanCapital candidates rest (nearestDistance.or (some distance))
          (if nextCapital.all fun best => best.2.population ≤ candidate.population then some (cityId, candidate)
            else nextCapital)

/-- A city that a nation keeps. -/
def keptCity (input : WarAftermathInput) (nationId : ℕ) (cityId : Int) : Option WarCity :=
  (input.cities.get? cityId).filter fun city => city.nationId = nationId ∧ cityId ≠ input.defenderCityId

/-- The city that a nation flees to when its capital falls. -/
def findNextCapital (input : WarAftermathInput) (nationId : ℕ) : Except String (Int × WarCity) :=
  -- A nation without another city finds none either.
  match scanCapital (keptCity input nationId) (CityDistance.searchDistanceEntries input.map input.defenderCityId 99)
      none none with
  | none => .error "도시가 남지 않았는데 긴천을 시도하고 있습니다"
  | some nextCapital => .ok nextCapital

/-- What the flight of a capital does to a general: all lose heart, and the chiefs go along. -/
def gather (nationId : ℕ) (nextCapitalId : Int) (general : General) : General :=
  if general.nationId = nationId then
    { general with
      atmos := roundHalfUp (general.atmos * (8 / 10))
      cityId := if 5 ≤ general.officerLevel then nextCapitalId else general.cityId }
  else general

/-- Moves the capital of a nation, if it is the city that falls. -/
def moveCapital (input : WarAftermathInput) (outcome : ConquerCityOutcome) (defender : WarNation) :
    Except String ConquerCityOutcome :=
  if defender.capitalCityId = some input.defenderCityId then
    (findNextCapital input defender.id).map fun nextCapital =>
      { outcome with
        defenderNation := some { defender with
          capitalCityId := some nextCapital.1
          gold := roundHalfUp (defender.gold * (5 / 10))
          rice := roundHalfUp (defender.rice * (5 / 10)) }
        cities := outcome.cities.alter nextCapital.1 fun city => { city with supplyState := 1 }
        generals := outcome.generals.mapValues fun _ => gather defender.id nextCapital.1 }
  else .ok outcome

/-- What a nation that goes on goes through. -/
def settleLoss (input : WarAftermathInput) : Except String ConquerCityOutcome :=
  let outcome := { opening input with
    generals := input.generals.mapValues fun _ => dismissOfficer input.defenderCityId }
  match input.defenderNation with
  | none => .ok outcome
  | some defender => moveCapital input outcome defender

/-! ### The conquest -/

/-- The captured city as its new nation gets it. -/
def resetCity (config : WarAftermathConfig) (conquerNationId : ℕ) (city : WarCity) : WarCity :=
  { city with
    supplyState := 1
    frontState := 0
    metadata := (city.metadata.set "term" (.num 0)).set "officer_set" (.num 0)
    agriculture := roundHalfUp (city.agriculture * (7 / 10))
    commerce := roundHalfUp (city.commerce * (7 / 10))
    security := roundHalfUp (city.security * (7 / 10))
    nationId := conquerNationId
    contested := ⟨some NumberRecord.empty, some (.arr [])⟩
    defence := if 3 < city.level then config.defaultCityWall else roundHalfUp (city.defenceMax / 2)
    wall := if 3 < city.level then config.defaultCityWall else roundHalfUp (city.wallMax / 2) }

/-- Hands the city over; the attacker enters it unless another nation gets it. -/
def takeCity (input : WarAftermathInput) (outcome : ConquerCityOutcome) : ConquerCityOutcome :=
  { outcome with
    attacker := if outcome.conquerNationId = input.attackerNation.id
      then { outcome.attacker with cityId := input.defenderCityId } else outcome.attacker
    cities := outcome.cities.alter input.defenderCityId (resetCity input.config outcome.conquerNationId) }

/-- Settles the conquest of a city. -/
def resolveConquerCity (source : RandomSource σ) (input : WarAftermathInput) (rng : σ) :
    Except String ConquerCityOutcome :=
  (match input.defenderNation.filter fun _ => nationCollapsed input with
    | some defender => collapseNation source input defender rng
    | none => settleLoss input).map (takeCity input)

end Sammo.War.Conquest
