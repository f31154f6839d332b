import Mathlib.Data.Nat.Sqrt
import Mathlib.Logic.Function.Basic
import Sammo.World.GeneralTurn

/-!
The units of a battle: generals with their troops, and the wall of a city.

A unit's strength and its counters are its books, apart from everything else about its conduct, which the triggers of
a battle may change as they like. The texts of the logs and the record of the city's conflict are left out.
-/

namespace Sammo.War

/-- A unit of a battle: the attacker, a defender at its place in the list of the defenders, or the city's wall. -/
inductive UnitId where
  | attacker
  | defender (index : Nat)
  | wall
  deriving DecidableEq

/-- Whether a unit is a general's. -/
def UnitId.isGeneral : UnitId → Bool
  | .wall => false
  | _ => true

/-- The crew type of a unit, with its coefficients against other crew types by identity or by arm. -/
structure WarCrewType where
  id : Int
  armType : Int
  speed : ℚ
  attack : ℚ
  defence : ℚ
  rice : ℚ
  attackCoef : List (Int × ℚ)
  defenceCoef : List (Int × ℚ)

/-- The coefficient that a table has against a crew type. -/
def WarCrewType.coefIn (table : List (Int × ℚ)) (oppose : WarCrewType) : ℚ :=
  ((table.lookup oppose.id).orElse fun _ => table.lookup oppose.armType).getD 1

/-- The coefficient of attacking a crew type. -/
def WarCrewType.getAttackCoef (crewType oppose : WarCrewType) : ℚ := WarCrewType.coefIn crewType.attackCoef oppose

/-- The coefficient of defending against a crew type. -/
def WarCrewType.getDefenceCoef (crewType oppose : WarCrewType) : ℚ := WarCrewType.coefIn crewType.defenceCoef oppose

/-- The arms that a configuration tells apart. -/
structure WarArmTypes where
  wizard : Option Int
  siege : Option Int
  misc : Option Int
  castle : Option Int

/-- The settings of the battles of a game. -/
structure WarEngineConfig where
  armPerPhase : ℚ
  maxTrainByWar : ℚ
  maxAtmosByWar : ℚ
  maxGeneralStat : Option ℚ
  statUpgradeLimit : Option ℚ
  maxTechLevel : Option ℚ
  armTypes : WarArmTypes

/-- The values that the action modules of a unit may adjust. -/
inductive WarStatName where
  | leadership
  | strength
  | intelligence
  | experience
  | cityBattleOrder
  | initWarPhase
  | bonusTrain
  | bonusAtmos
  | killRice
  | addDex
  | dex (armType : Int)
  deriving DecidableEq

/-- What a battle reads and writes of a general, apart from the troops and the counters of losses. -/
structure WarGeneral where
  id : Int
  rice : ℚ
  train : ℚ
  atmos : ℚ
  injury : ℚ
  experience : ℚ
  dedication : ℚ
  leadership : ℚ
  strength : ℚ
  intelligence : ℚ
  leadershipExp : ℚ
  strengthExp : ℚ
  intelExp : ℚ
  expLevel : ℚ
  defenceTrain : ℚ
  warnum : ℚ
  killnum : ℚ
  deathnum : ℚ
  occupied : ℚ
  dex : Int → ℚ

/-- What a battle reads and writes of the city, with the training and morale of its garrison. -/
structure WarCity where
  defence : ℚ
  wall : ℚ
  agriculture : ℚ
  commerce : ℚ
  security : ℚ
  cityTrainAtmos : ℚ

/-- What a unit does in a battle, whichever kind it is of. -/
structure WarUnit where
  crewType : WarCrewType
  isAttacker : Bool
  tech : ℚ
  oppose : Option UnitId
  currPhase : Int
  prePhase : Int
  bonusPhase : Int
  trainBonus : ℚ
  atmosBonus : ℚ
  warPower : ℚ
  warPowerMultiply : ℚ
  activatedSkill : List String
  logActivatedSkill : List String

/-- The books of a unit: its strength, what it has killed and lost, and the counters these end up in. -/
structure WarBooks where
  hp : ℚ
  killed : ℚ
  killedCurr : ℚ
  dead : ℚ
  deadCurr : ℚ
  killedPerson : ℚ
  deadPerson : ℚ
  isFinished : Bool
  killcrew : ℚ
  deathcrew : ℚ
  killcrewPerson : ℚ
  deathcrewPerson : ℚ
  deriving DecidableEq

/-- Everything about the units of a battle but their books, with the source of the battle's random numbers. -/
structure Conduct (ρ : Type) where
  units : UnitId → WarUnit
  generals : UnitId → WarGeneral
  city : WarCity
  random : ρ

/-- A battle: the books of its units, whether the city is under siege, and all the rest. -/
structure Battle (ρ : Type) extends Conduct ρ where
  books : UnitId → WarBooks
  onSiege : Bool

/-- What a battle is fought by: the settings, the random numbers, the action modules and the triggers. -/
structure WarRules (ρ : Type) where
  config : WarEngineConfig
  nextRange : ρ → ℚ → ℚ → ℚ × ρ
  nextRangeInt : ρ → Int → Int → Int × ρ
  nextBool : ρ → ℚ → Bool × ρ
  pow : ℚ → ℚ → ℚ
  onCalcStat : Battle ρ → UnitId → WarStatName → ℚ → ℚ
  onCalcOpposeStat : Battle ρ → UnitId → WarStatName → ℚ → ℚ
  getWarPowerMultiplier : Battle ρ → UnitId → UnitId → ℚ × ℚ
  battleInitTriggers : Battle ρ → UnitId → Conduct ρ
  battlePhaseTriggers : Battle ρ → UnitId → Conduct ρ

/-- Keeps a value between two bounds. -/
def clamp (value low high : ℚ) : ℚ := max low (min value high)

/-- Cuts a value towards zero. -/
def trunc (value : ℚ) : Int := if 0 ≤ value then ⌊value⌋ else ⌈value⌉

/-- A counter that is increased and rounded. -/
def increaseMetaNumber (counter delta : ℚ) : ℚ := roundHalfUp (counter + delta)

/-- The level of a nation's technology. -/
def getTechLevel (config : WarEngineConfig) (tech : ℚ) : ℚ :=
  max 0 (min (⌊tech / 1000⌋ : ℚ) (config.maxTechLevel.getD 12))

/-- What the technology adds to attack and defence. -/
def getTechAbility (config : WarEngineConfig) (tech : ℚ) : ℚ := getTechLevel config tech * 25

/-- What the technology costs. -/
def getTechCost (config : WarEngineConfig) (tech : ℚ) : ℚ := 1 + getTechLevel config tech * (15 / 100)

/-- The dexterity from which each level on is reached. -/
def dexLevelThresholds : List ℚ :=
  [0, 350, 1375, 3500, 7125, 12650, 20475, 31000, 44625, 61750, 82775, 108100, 138125, 173250, 213875, 260400, 313225,
    372750, 439375, 513500, 595525, 685850, 784875, 893000, 1010625, 1138150, 1275975]

/-- The level of a dexterity. -/
def getDexLevel (dex : ℚ) : ℚ := ((dexLevelThresholds.takeWhile (· ≤ dex)).length - 1 : Nat)

/-- The factor that a difference of dexterity makes. -/
def getDexLog (mine theirs : ℚ) : ℚ := (getDexLevel mine - getDexLevel theirs) / 55 + 1

namespace Battle

variable {ρ : Type}

/-- Changes one unit. -/
def setUnit (battle : Battle ρ) (id : UnitId) (change : WarUnit → WarUnit) : Battle ρ :=
  { battle with units := Function.update battle.units id (change (battle.units id)) }

/-- Changes one general. -/
def setGeneral (battle : Battle ρ) (id : UnitId) (change : WarGeneral → WarGeneral) : Battle ρ :=
  { battle with generals := Function.update battle.generals id (change (battle.generals id)) }

/-- Changes the books of one unit. -/
def setBooks (battle : Battle ρ) (id : UnitId) (change : WarBooks → WarBooks) : Battle ρ :=
  { battle with books := Function.update battle.books id (change (battle.books id)) }

/-- Takes over what the triggers have left. -/
def setConduct (battle : Battle ρ) (conduct : Conduct ρ) : Battle ρ := { battle with toConduct := conduct }

/-- The strength of a unit: a general's troops, or what is left of the wall. -/
def getHP (battle : Battle ρ) (id : UnitId) : ℚ := (battle.books id).hp

/-- Ends the skills that are active and keeps them in the log. -/
def clearActivatedSkill (battle : Battle ρ) (id : UnitId) : Battle ρ :=
  battle.setUnit id fun unit =>
    { unit with logActivatedSkill := unit.logActivatedSkill ++ unit.activatedSkill, activatedSkill := [] }

/-- How often a skill has been active, the present time included. -/
def hasActivatedSkillOnLog (battle : Battle ρ) (id : UnitId) (skill : String) : Nat :=
  (battle.units id).logActivatedSkill.count skill + if skill ∈ (battle.units id).activatedSkill then 1 else 0

/-- Faces a unit with an opponent, or with none; the counters of the present fight start anew. -/
def setOppose (battle : Battle ρ) (id : UnitId) (oppose : Option UnitId) : Battle ρ :=
  let faced := ((battle.setUnit id fun unit => { unit with oppose }).setBooks id fun books =>
    { books with killedCurr := 0, deadCurr := 0 }).clearActivatedSkill id
  if id.isGeneral then
    faced.setGeneral id fun general => { general with warnum := increaseMetaNumber general.warnum 1 }
  else faced

variable (rules : WarRules ρ)

/-- The highest value of a general's abilities. -/
def maxGeneralStat (rules : WarRules ρ) : ℚ := rules.config.maxGeneralStat.getD 255

/-- An ability after injury, with its actions but without what another ability adds to it. -/
def plainStat (battle : Battle ρ) (id : UnitId) (statName : WarStatName) (base : ℚ) (withInjury : Bool) : ℚ :=
  let injuryRatio := if withInjury then (100 - (battle.generals id).injury) / 100 else 1
  clamp (rules.onCalcStat battle id statName (clamp (base * injuryRatio) 0 (maxGeneralStat rules))) 0
    (maxGeneralStat rules)

/-- What one ability adds to the other of strength and intelligence. -/
def statAdjust (battle : Battle ρ) (id : UnitId) (statName : WarStatName) (withInjury : Bool) : ℚ :=
  let general := battle.generals id
  match statName with
  | .strength => roundHalfUp (plainStat rules battle id .intelligence general.intelligence withInjury / 4)
  | .intelligence => roundHalfUp (plainStat rules battle id .strength general.strength withInjury / 4)
  | _ => 0

/-- An ability as it counts in a battle. -/
def getComputedStat (battle : Battle ρ) (id : UnitId) (statName : WarStatName) (base : ℚ) (withInjury : Bool) : ℚ :=
  let injuryRatio := if withInjury then (100 - (battle.generals id).injury) / 100 else 1
  let value := base * injuryRatio + statAdjust rules battle id statName withInjury
  trunc (clamp (rules.onCalcStat battle id statName (clamp value 0 (maxGeneralStat rules))) 0 (maxGeneralStat rules))

/-- The ability that an arm fights with. -/
def resolveMainStat (battle : Battle ρ) (id : UnitId) (armType : Int) : ℚ :=
  let general := battle.generals id
  let leadership := getComputedStat rules battle id .leadership general.leadership true
  let strength := getComputedStat rules battle id .strength general.strength true
  let intelligence := getComputedStat rules battle id .intelligence general.intelligence true
  if rules.config.armTypes.wizard = some armType then intelligence
  else if rules.config.armTypes.siege = some armType then leadership
  else if rules.config.armTypes.misc = some armType then (intelligence + leadership + strength) / 3
  else strength

/-- What the opponent makes of a value, where it is a general. -/
def resolveOpposeStatValue (battle : Battle ρ) (id : UnitId) (statName : WarStatName) (value : ℚ) : ℚ :=
  match (battle.units id).oppose with
  | some oppose => if oppose.isGeneral then rules.onCalcOpposeStat battle oppose statName value else value
  | none => value

/-- A unit's dexterity with a crew type; castles are learnt with the siege engines. -/
def getDex (battle : Battle ρ) (id : UnitId) (crewType : WarCrewType) : ℚ :=
  if id.isGeneral then
    let storedArmType := if rules.config.armTypes.castle = some crewType.armType
      then rules.config.armTypes.siege.getD crewType.armType else crewType.armType
    let base := (battle.generals id).dex storedArmType
    resolveOpposeStatValue rules battle id (.dex crewType.armType)
      (rules.onCalcStat battle id (.dex crewType.armType) base)
  else (battle.city.cityTrainAtmos - 60) * 7200

/-- A unit's attack. -/
def getComputedAttack (battle : Battle ρ) (id : UnitId) : ℚ :=
  if id.isGeneral then
    let unit := battle.units id
    let ratio := max (resolveMainStat rules battle id unit.crewType.armType * 2 - 40) 10
    let ratio := if 100 < ratio then 50 + ratio / 2 else ratio
    (unit.crewType.attack + getTechAbility rules.config unit.tech) * (ratio / 100)
  else (battle.city.defence + battle.city.wall * 9) / 500 + 200

/-- A unit's defence, which falls with a general's troops. -/
def getComputedDefence (battle : Battle ρ) (id : UnitId) : ℚ :=
  if id.isGeneral then
    let unit := battle.units id
    let crew := battle.getHP id / (7000 / 30) + 70
    (unit.crewType.defence + getTechAbility rules.config unit.tech) * (crew / 100)
  else (battle.city.defence + battle.city.wall * 9) / 500 + 200

/-- A unit's training. -/
def getComputedTrain (battle : Battle ρ) (id : UnitId) : ℚ :=
  let train := if id.isGeneral
    then resolveOpposeStatValue rules battle id .bonusTrain
      (rules.onCalcStat battle id .bonusTrain (battle.generals id).train)
    else battle.city.cityTrainAtmos
  train + (battle.units id).trainBonus

/-- A unit's morale. -/
def getComputedAtmos (battle : Battle ρ) (id : UnitId) : ℚ :=
  let atmos := if id.isGeneral
    then resolveOpposeStatValue rules battle id .bonusAtmos
      (rules.onCalcStat battle id .bonusAtmos (battle.generals id).atmos)
    else battle.city.cityTrainAtmos
  atmos + (battle.units id).atmosBonus

/-- The phases a unit may fight. -/
def getMaxPhase (battle : Battle ρ) (id : UnitId) : ℚ :=
  let unit := battle.units id
  (if id.isGeneral then rules.onCalcStat battle id .initWarPhase unit.crewType.speed else unit.crewType.speed) +
    unit.bonusPhase

/-- The power left when the opponent's defence is not far below the attack: a random one below a hundred. -/
def drawWarPower (battle : Battle ρ) (warPower : ℚ) : ℚ × ρ :=
  if warPower < 100 then
    let drawn := rules.nextRangeInt battle.random (trunc ((max warPower 0 + 100) / 2)) 100
    (drawn.1, drawn.2)
  else (warPower, battle.random)

/-- What a general makes of its power and of its opponent's: its level counts, and then its actions. -/
def generalWarPower (battle : Battle ρ) (id oppose : UnitId) (warPower opposeMultiply : ℚ) : ℚ × ℚ :=
  let expLevel := (battle.generals id).expLevel
  let ratio := max (1 - expLevel / 300) (1 / 100)
  let levelled := if oppose.isGeneral then (warPower / ratio, opposeMultiply * ratio)
    else (warPower * (1 + expLevel / 600), opposeMultiply)
  let multipliers := rules.getWarPowerMultiplier battle id oppose
  (levelled.1 * multipliers.1, levelled.2 * multipliers.2)

/-- Computes a unit's power against its opponent, and what is left of the opponent's. -/
def computeWarPower (battle : Battle ρ) (id : UnitId) : Battle ρ :=
  match (battle.units id).oppose with
  | none => battle
  | some oppose =>
    let crewType := (battle.units id).crewType
    let opposeCrewType := (battle.units oppose).crewType
    let drawn := drawWarPower rules battle
      (rules.config.armPerPhase + getComputedAttack rules battle id - getComputedDefence rules battle oppose)
    let battle := { battle with random := drawn.2 }
    let warPower := drawn.1 * getComputedAtmos rules battle id / getComputedTrain rules battle oppose *
      getDexLog (getDex rules battle id crewType) (getDex rules battle oppose crewType) *
      crewType.getAttackCoef opposeCrewType
    let opposeMultiply := crewType.getDefenceCoef opposeCrewType
    let powered := (battle.setUnit id fun unit => { unit with warPower }).setUnit oppose fun unit =>
      { unit with warPowerMultiply := opposeMultiply }
    if id.isGeneral then
      let powers := generalWarPower rules powered id oppose warPower opposeMultiply
      (powered.setUnit id fun unit => { unit with warPower := powers.1 }).setUnit oppose fun unit =>
        { unit with warPowerMultiply := powers.2 }
    else powered

/-- A unit begins a phase. -/
def beginPhase (battle : Battle ρ) (id : UnitId) : Battle ρ :=
  computeWarPower rules (battle.clearActivatedSkill id) id

/-- The damage a unit deals in a phase, before it is limited by anyone's strength. -/
def calcDamage (battle : Battle ρ) (id : UnitId) : ℚ × Battle ρ :=
  let drawn := rules.nextRange battle.random (9 / 10) (11 / 10)
  let unit := battle.units id
  (roundHalfUp (unit.warPower * unit.warPowerMultiply * drawn.1), { battle with random := drawn.2 })

/-- A general trains its troops; the garrison of a wall does not. -/
def addTrain (battle : Battle ρ) (id : UnitId) (train : ℚ) : Battle ρ :=
  if id.isGeneral then
    battle.setGeneral id fun general =>
      { general with train := clamp (general.train + train) 0 rules.config.maxTrainByWar }
  else battle

/-- A general learns from a fight. -/
def addStatExp (battle : Battle ρ) (id : UnitId) (value : ℚ) : Battle ρ :=
  let armType := (battle.units id).crewType.armType
  battle.setGeneral id fun general =>
    if rules.config.armTypes.wizard = some armType then
      { general with intelExp := increaseMetaNumber general.intelExp value }
    else if rules.config.armTypes.siege = some armType then
      { general with leadershipExp := increaseMetaNumber general.leadershipExp value }
    else { general with strengthExp := increaseMetaNumber general.strengthExp value }

/-- A unit has won; only a general keeps count of it. -/
def addWin (battle : Battle ρ) (id : UnitId) : Battle ρ :=
  if id.isGeneral then
    let atmosMultiplier : ℚ := if (battle.units id).isAttacker then 11 / 10 else 105 / 100
    addStatExp rules (battle.setGeneral id fun general =>
      { general with
        killnum := increaseMetaNumber general.killnum 1
        occupied := if (battle.units id).oppose = some .wall then increaseMetaNumber general.occupied 1
          else general.occupied
        atmos := clamp (general.atmos * atmosMultiplier) 0 rules.config.maxAtmosByWar }) id 1
  else battle

/-- A unit has lost; only a general keeps count of it. -/
def addLose (battle : Battle ρ) (id : UnitId) : Battle ρ :=
  if id.isGeneral then
    addStatExp rules (battle.setGeneral id fun general =>
      { general with deathnum := increaseMetaNumber general.deathnum 1 }) id 1
  else battle

/-- The level that an experience stands for. -/
def expLevelOf (experience : ℚ) : ℚ :=
  let level := if experience < 1000 then trunc (experience / 100) else (Nat.sqrt ⌊experience / 10⌋.toNat : Int)
  clamp level 0 255

/-- A general gains experience. -/
def addLevelExp (battle : Battle ρ) (id : UnitId) (value : ℚ) : Battle ρ :=
  let sideAdjusted := if (battle.units id).isAttacker then value else value * (8 / 10)
  let adjusted := rules.onCalcStat battle id .experience sideAdjusted
  battle.setGeneral id fun general =>
    { general with
      experience := general.experience + adjusted, expLevel := expLevelOf (general.experience + adjusted) }

/-- A general gains dexterity with a crew type. -/
def addDex (battle : Battle ρ) (id : UnitId) (crewType : WarCrewType) (exp : ℚ) : Battle ρ :=
  let armTypes := rules.config.armTypes
  let armType := if armTypes.castle = some crewType.armType then armTypes.siege.getD crewType.armType
    else crewType.armType
  let nextExp := if armTypes.wizard = some armType ∨ armTypes.siege = some armType then exp * (9 / 10) else exp
  let adjusted := rules.onCalcStat battle id .addDex nextExp
  battle.setGeneral id fun general =>
    { general with dex := Function.update general.dex armType (general.dex armType + adjusted) }

/-- The rice that dealing a damage costs a general. -/
def calcRiceConsumption (battle : Battle ρ) (id : UnitId) (damage : ℚ) : ℚ :=
  let unit := battle.units id
  let rice := damage / 100 * (if unit.isAttacker then 1 else 8 / 10) *
    (if unit.oppose = some .wall then 8 / 10 else 1) * unit.crewType.rice * getTechCost rules.config unit.tech
  rules.onCalcStat battle id .killRice rice

/-- Whether a unit faces a general. -/
def facesGeneral (battle : Battle ρ) (id : UnitId) : Bool :=
  match (battle.units id).oppose with
  | some oppose => oppose.isGeneral
  | none => false

/-- What a general gains and spends by dealing a damage. -/
def learnFromKilled (battle : Battle ρ) (id : UnitId) (damage : ℚ) : Battle ρ :=
  if id.isGeneral then
    let levelled := addLevelExp rules battle id (damage / 50)
    let rice := calcRiceConsumption rules levelled id damage
    let paid := levelled.setGeneral id fun general => { general with rice := max (general.rice - rice) 0 }
    addDex rules paid id (paid.units id).crewType
      (if (paid.units id).isAttacker then damage else damage * (8 / 10))
  else battle

/-- A unit has killed. -/
def increaseKilled (battle : Battle ρ) (id : UnitId) (damage : ℚ) : Battle ρ :=
  let learnt := learnFromKilled rules battle id damage
  learnt.setBooks id fun books =>
    { books with
      killed := books.killed + damage
      killedCurr := books.killedCurr + damage
      killedPerson := if id.isGeneral ∧ learnt.facesGeneral id then books.killedPerson + damage
        else books.killedPerson }

/-- What a general learns by losing troops, and a wall loses by it. -/
def learnFromLoss (battle : Battle ρ) (id : UnitId) (applied : ℚ) : Battle ρ :=
  if id.isGeneral then
    match (battle.units id).oppose with
    | some oppose =>
      addDex rules battle id (battle.units oppose).crewType
        (if (battle.units id).isAttacker then applied else applied * (1 / 10))
    | none => battle
  else { battle with city := { battle.city with wall := max (battle.city.wall - applied / 20) 0 } }

/-- A unit has lost strength, at most what it had. -/
def decreaseHP (battle : Battle ρ) (id : UnitId) (damage : ℚ) : Battle ρ :=
  let applied := min damage (battle.getHP id)
  let booked := battle.setBooks id fun books =>
    { books with
      hp := books.hp - applied
      dead := books.dead + applied
      deadCurr := books.deadCurr + applied
      deadPerson := if id.isGeneral ∧ battle.facesGeneral id then books.deadPerson + applied else books.deadPerson }
  learnFromLoss rules booked id applied

/-- A general may be wounded. -/
def tryWound (battle : Battle ρ) (id : UnitId) : Battle ρ :=
  if ¬ id.isGeneral then battle
  else if 0 < battle.hasActivatedSkillOnLog id "부상무효" then battle
  else if 0 < battle.hasActivatedSkillOnLog id "퇴각부상무효" then battle
  else
    let hit := rules.nextBool battle.random (5 / 100)
    if ¬ hit.1 then { battle with random := hit.2 }
    else
      let wound := rules.nextRangeInt hit.2 10 80
      let wounded := ({ battle with random := wound.2 } : Battle ρ).setUnit id fun unit =>
        { unit with activatedSkill := if "부상" ∈ unit.activatedSkill then unit.activatedSkill
            else unit.activatedSkill ++ ["부상"] }
      wounded.setGeneral id fun general => { general with injury := clamp (general.injury + wound.1) 0 80 }

/-- Whether a unit may fight on, and whether its rice is the reason if not. -/
structure WarContinuation where
  canContinue : Bool
  noRice : Bool
  deriving DecidableEq

/-- Whether a unit fights on: a wall only under siege. -/
def continueWar (battle : Battle ρ) (id : UnitId) : WarContinuation :=
  if id.isGeneral then
    if battle.getHP id ≤ 0 then ⟨false, false⟩
    else if (battle.generals id).rice ≤ battle.getHP id / 100 then ⟨false, true⟩
    else ⟨true, false⟩
  else if ¬ battle.onSiege then ⟨false, false⟩
  else if battle.getHP id ≤ 0 then ⟨false, false⟩
  else ⟨true, false⟩

/-- One ability and its experience, after a threshold of experience has been used up. -/
def upgradeStat (limit maxStat stat exp : ℚ) : ℚ × ℚ :=
  if exp < 0 then (stat - 1, exp + limit)
  else if limit ≤ exp then (if stat < maxStat then stat + 1 else stat, exp - limit)
  else (stat, exp)

/-- A general at the end of its battles: rounded, and with the abilities it has earned. -/
def settleGeneral (general : WarGeneral) : WarGeneral :=
  let limit := rules.config.statUpgradeLimit.getD 30
  let leadership := upgradeStat limit (maxGeneralStat rules) general.leadership general.leadershipExp
  let strength := upgradeStat limit (maxGeneralStat rules) general.strength general.strengthExp
  let intelligence := upgradeStat limit (maxGeneralStat rules) general.intelligence general.intelExp
  { general with
    rice := roundHalfUp general.rice
    experience := roundHalfUp general.experience
    dedication := roundHalfUp general.dedication
    leadership := leadership.1, leadershipExp := leadership.2
    strength := strength.1, strengthExp := strength.2
    intelligence := intelligence.1, intelExp := intelligence.2 }

/-- The books of a general whose losses have gone into its counters. -/
def closeBooks (books : WarBooks) : WarBooks :=
  { books with
    isFinished := true
    killcrew := increaseMetaNumber books.killcrew books.killed
    deathcrew := increaseMetaNumber books.deathcrew books.dead
    killcrewPerson := if books.killedPerson = 0 then books.killcrewPerson
      else increaseMetaNumber books.killcrewPerson books.killedPerson
    deathcrewPerson := if books.deadPerson = 0 then books.deathcrewPerson
      else increaseMetaNumber books.deathcrewPerson books.deadPerson }

/-- A unit's battles are over; a general's are over only once, and a wall is repaired to whole numbers. -/
def finishBattle (battle : Battle ρ) (id : UnitId) : Battle ρ :=
  if id.isGeneral then
    if (battle.books id).isFinished then battle
    else ((battle.clearActivatedSkill id).setBooks id closeBooks).setGeneral id (settleGeneral rules)
  else
    let cleared := (battle.clearActivatedSkill id).setBooks id fun books => { books with isFinished := true }
    { cleared with
      city := { cleared.city with
        defence := roundHalfUp (cleared.getHP id / 10), wall := roundHalfUp cleared.city.wall } }

/-- The city comes under siege: its wall counts its phases anew. -/
def setSiege (battle : Battle ρ) : Battle ρ :=
  { (battle.setUnit .wall fun unit => { unit with currPhase := 0, prePhase := 0, bonusPhase := 0 }).setBooks .wall
      fun books => { books with isFinished := false } with onSiege := true }

/-- What a city loses when its garrison runs away. -/
def heavyDecreaseWealth (battle : Battle ρ) : Battle ρ :=
  { battle with
    city := { battle.city with
      agriculture := roundHalfUp (battle.city.agriculture * (1 / 2))
      commerce := roundHalfUp (battle.city.commerce * (1 / 2))
      security := roundHalfUp (battle.city.security * (1 / 2)) } }

/-- A unit's phase is over. -/
def addPhase (battle : Battle ρ) (id : UnitId) : Battle ρ :=
  battle.setUnit id fun unit => { unit with currPhase := unit.currPhase + 1 }

end Battle

end Sammo.War
