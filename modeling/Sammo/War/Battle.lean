import Mathlib.Data.List.Sort
import Sammo.War.Units

/-! The battle of one attacker against the defenders of a city, one after another, and against its wall. -/

namespace Sammo.War

/-- A general who enters a battle, with the troops and the counters of losses so far. -/
structure WarGeneralInput where
  general : WarGeneral
  crew : ℚ
  killcrew : ℚ
  deathcrew : ℚ
  killcrewPerson : ℚ
  deathcrewPerson : ℚ
  crewType : WarCrewType
  tech : ℚ

/-- The city that is attacked. -/
structure WarCityInput where
  defence : ℚ
  wall : ℚ
  agriculture : ℚ
  commerce : ℚ
  security : ℚ
  level : Int
  supplyFlag : Option Bool
  supplyNumber : Option ℚ
  supplyState : ℚ
  crewType : WarCrewType

/-- Everything a battle starts from. -/
structure WarBattleInput (ρ : Type) where
  attacker : WarGeneralInput
  attackerCityLevel : Int
  attackerAtCapital : Bool
  defenders : List WarGeneralInput
  defenderCity : WarCityInput
  defenderRice : Option ℚ
  year : Int
  startYear : Int
  random : ρ

/-- Whether the city is supplied: what its metadata say, and otherwise its state. -/
def isSupplyCity (city : WarCityInput) : Bool :=
  match city.supplyFlag, city.supplyNumber with
  | some supply, _ => supply
  | none, some supply => 0 < supply
  | none, none => 0 < city.supplyState

/-- The books of a unit before its first fight. -/
def openBooks (hp killcrew deathcrew killcrewPerson deathcrewPerson : ℚ) : WarBooks :=
  { hp, killed := 0, killedCurr := 0, dead := 0, deadCurr := 0, killedPerson := 0, deadPerson := 0
    isFinished := false, killcrew, deathcrew, killcrewPerson, deathcrewPerson }

/-- The books a general enters a battle with. -/
def WarGeneralInput.books (input : WarGeneralInput) : WarBooks :=
  openBooks input.crew input.killcrew input.deathcrew input.killcrewPerson input.deathcrewPerson

/-- A unit before its first fight. -/
def openUnit (crewType : WarCrewType) (isAttacker : Bool) (tech trainBonus atmosBonus : ℚ) : WarUnit :=
  { crewType, isAttacker, tech, oppose := none, currPhase := 0, prePhase := 0, bonusPhase := 0, trainBonus, atmosBonus
    warPower := 0, warPowerMultiply := 1, activatedSkill := [], logActivatedSkill := [] }

namespace WarBattleInput

variable {ρ : Type}

/-- The general of a unit; a place after the last defender, and the wall, stand for the attacker. -/
def general (input : WarBattleInput ρ) : UnitId → WarGeneralInput
  | .defender index => input.defenders.getD index input.attacker
  | _ => input.attacker

/-- What a port or a pass adds to the training of its defenders. -/
def defenderTrainBonus (input : WarBattleInput ρ) : ℚ :=
  if input.defenderCity.level = 1 ∨ input.defenderCity.level = 3 then 5 else 0

/-- What the attacker's base adds to its morale. -/
def attackerAtmosBonus (input : WarBattleInput ρ) : ℚ :=
  (if input.attackerCityLevel = 2 then 5 else 0) + if input.attackerAtCapital then 5 else 0

/-- The units before the battle. -/
def unit (input : WarBattleInput ρ) : UnitId → WarUnit
  | .attacker => openUnit input.attacker.crewType true input.attacker.tech 0 input.attackerAtmosBonus
  | .defender index =>
    openUnit (input.general (.defender index)).crewType false (input.general (.defender index)).tech
      input.defenderTrainBonus 0
  | .wall => openUnit input.defenderCity.crewType false 0 input.defenderTrainBonus 0

/-- The books before the battle; a wall's strength is ten times the city's defence. -/
def books (input : WarBattleInput ρ) : UnitId → WarBooks
  | .wall => openBooks (input.defenderCity.defence * 10) 0 0 0 0
  | id => (input.general id).books

/-- The city before the battle. -/
def city (input : WarBattleInput ρ) : WarCity :=
  { defence := input.defenderCity.defence, wall := input.defenderCity.wall
    agriculture := input.defenderCity.agriculture, commerce := input.defenderCity.commerce
    security := input.defenderCity.security
    cityTrainAtmos := max 60 (min ((input.year - input.startYear + 59 : Int) : ℚ) 110) }

/-- The battle before its first phase. -/
def start (input : WarBattleInput ρ) : Battle ρ :=
  { units := input.unit, generals := fun id => (input.general id).general, city := input.city
    random := input.random, books := input.books, onSiege := false }

end WarBattleInput

namespace Battle

variable {ρ : Type} (rules : WarRules ρ)

/-- The abilities of a defender, with and without injury, and what its troops add. -/
def computeDefenderStrength (battle : Battle ρ) (id : UnitId) : ℚ :=
  let general := battle.generals id
  let stats (withInjury : Bool) : ℚ :=
    getComputedStat rules battle id .leadership general.leadership withInjury +
      getComputedStat rules battle id .strength general.strength withInjury +
      getComputedStat rules battle id .intelligence general.intelligence withInjury
  (stats true + stats false) / 2 +
    battle.getHP id / 1000000 * rules.pow (general.train * general.atmos) (3 / 2) / 100

/-- The place of a defender in the order of battle; at zero or below it does not fight. -/
def computeBattleOrder (battle : Battle ρ) (id : UnitId) : ℚ :=
  if id.isGeneral then
    let general := battle.generals id
    if battle.getHP id ≤ 0 then 0
    else if general.rice ≤ battle.getHP id / 100 then 0
    else if general.train < general.defenceTrain then 0
    else if general.atmos < general.defenceTrain then 0
    else computeDefenderStrength rules battle id
  else rules.onCalcOpposeStat battle .attacker .cityBattleOrder (-1)

/-- The defenders that are ready to fight, in the order in which they were given. -/
def readyDefenders (battle : Battle ρ) (count : Nat) : List UnitId :=
  ((List.range count).map UnitId.defender).filter fun id => 0 < computeBattleOrder rules battle id

/-- The line of the defence: the ready defenders, and the wall where a general stands before it and it takes part. -/
def defenderLine (battle : Battle ρ) (count : Nat) : List UnitId :=
  let ready := readyDefenders rules battle count
  let line := if ready ≠ [] ∧ 0 < computeBattleOrder rules battle .wall then ready ++ [.wall] else ready
  line.insertionSort fun left right => computeBattleOrder rules battle right ≤ computeBattleOrder rules battle left

/-- A battle on its way: who is fought, who is still to come, and how it stands. -/
structure Fight (ρ : Type) where
  battle : Battle ρ
  defender : Option UnitId
  line : List UnitId
  conquerCity : Bool
  logWritten : Bool

/-- The next defender, and the line after it; one that is no longer ready leaves the field to the wall. -/
def getNextDefender (battle : Battle ρ) : List UnitId → Option UnitId × List UnitId
  | [] => (none, [])
  | candidate :: line =>
    if computeBattleOrder rules battle candidate ≤ 0 then (none, line) else (some candidate, line)

/-- Two units face each other. -/
def face (battle : Battle ρ) (defender : UnitId) : Battle ρ :=
  (battle.setOppose .attacker (some defender)).setOppose defender (some .attacker)

/-- A fight against a new opponent begins. -/
def meet (battle : Battle ρ) (defender : UnitId) : Battle ρ :=
  if (battle.units defender).currPhase = 0 ∧ (battle.units defender).oppose = none then
    let counted := battle.setUnit defender fun unit => { unit with prePhase := (battle.units .attacker).currPhase }
    let trained := addTrain rules (addTrain rules counted .attacker 1) defender 1
    let faced := trained.face defender
    faced.setConduct (rules.battleInitTriggers faced defender)
  else battle

/-- The losses of a phase, scaled down where a side would lose more than it has. -/
def limitDamage (deadAttacker deadDefender attackerHP defenderHP : ℚ) : ℚ × ℚ :=
  if attackerHP < deadAttacker ∨ defenderHP < deadDefender then
    let deadAttackerRatio := deadAttacker / max 1 attackerHP
    let deadDefenderRatio := deadDefender / max 1 defenderHP
    if deadAttackerRatio < deadDefenderRatio then (deadAttacker / deadDefenderRatio, defenderHP)
    else (attackerHP, deadDefender / deadAttackerRatio)
  else (deadAttacker, deadDefender)

/-- The losses that are carried out: whole troops, and at most what a side has. -/
def appliedDamage (deadAttacker deadDefender attackerHP defenderHP : ℚ) : ℚ × ℚ :=
  let limited := limitDamage deadAttacker deadDefender attackerHP defenderHP
  (min (⌈limited.1⌉ : ℚ) attackerHP, min (⌈limited.2⌉ : ℚ) defenderHP)

/-- Both sides take their losses and count their kills. -/
def exchangeBlows (battle : Battle ρ) (defender : UnitId) (deadAttacker deadDefender : ℚ) : Battle ρ :=
  let struck := decreaseHP rules (decreaseHP rules battle .attacker deadAttacker) defender deadDefender
  increaseKilled rules (increaseKilled rules struck .attacker deadDefender) defender deadAttacker

/-- One phase of the fight with a defender. -/
def fightPhase (battle : Battle ρ) (defender : UnitId) : Battle ρ :=
  let begun := beginPhase rules (beginPhase rules battle .attacker) defender
  let triggered := begun.setConduct (rules.battlePhaseTriggers begun defender)
  let byAttacker := calcDamage rules triggered .attacker
  let byDefender := calcDamage rules byAttacker.2 defender
  let rolled := byDefender.2
  let dead := appliedDamage byDefender.1 byAttacker.1 (rolled.getHP .attacker) (rolled.getHP defender)
  ((exchangeBlows rules rolled defender dead.1 dead.2).addPhase .attacker).addPhase defender

/-- How a round of the battle ends: the battle is over, or goes on. -/
inductive Round (ρ : Type) where
  | ended (fight : Fight ρ)
  | next (fight : Fight ρ)

/-- The garrison of a supplied city that has no rice runs away. -/
def supplyRetreat (battle : Battle ρ) : Battle ρ :=
  let trained := addTrain rules (battle.face .wall) .attacker 1
  (addLose rules (addWin rules trained .attacker) .wall).heavyDecreaseWealth

/-- The attacker has to stop. -/
def attackerStops (battle : Battle ρ) (defender : UnitId) : Battle ρ :=
  let counted := addWin rules (addLose rules battle .attacker) defender
  tryWound rules (tryWound rules counted .attacker) defender

/-- The defender has to stop; a wall that only took part in the line does not lose by it. -/
def defenderStops (battle : Battle ρ) (defender : UnitId) : Battle ρ :=
  if defender.isGeneral ∨ battle.onSiege then
    let counted := addLose rules (addWin rules battle .attacker) defender
    tryWound rules (tryWound rules counted .attacker) defender
  else battle

/-- After a defender has stopped: the city is taken, the attacker's phases are used up, or the next one comes. -/
def switchDefender (fight : Fight ρ) (battle : Battle ρ) (defender : UnitId) : Round ρ :=
  let stopped := defenderStops rules battle defender
  if defender = .wall ∧ battle.onSiege then
    let rewarded := addLevelExp rules stopped .attacker 1000
    .ended { fight with battle := rewarded, defender := some defender, conquerCity := true, logWritten := true }
  else
    let freed := if defender = .wall then stopped.setOppose .wall none else stopped
    if getMaxPhase rules freed .attacker ≤ (freed.units .attacker).currPhase then
      .ended { fight with battle := freed, defender := some defender, logWritten := true }
    else
      let finished := finishBattle rules freed defender
      let next := getNextDefender rules finished fight.line
      .next { fight with battle := finished, defender := next.1, line := next.2, logWritten := true }

/-- One round against a defender: they meet, fight a phase, and see who goes on. -/
def fightDefender (fight : Fight ρ) (battle : Battle ρ) (defender : UnitId) : Round ρ :=
  let fought := fightPhase rules (meet rules battle defender) defender
  if ¬ (continueWar fought .attacker).canContinue then
    .ended { fight with battle := attackerStops rules fought defender, defender := some defender, logWritten := true }
  else if ¬ (continueWar fought defender).canContinue then
    switchDefender rules { fight with logWritten := false } fought defender
  else .next { fight with battle := fought, defender := some defender, logWritten := false }

/-- One round of the battle; with nobody left in the line the city comes under siege. -/
def fightRound (input : WarBattleInput ρ) (fight : Fight ρ) : Round ρ :=
  match fight.defender with
  | some defender => fightDefender rules fight fight.battle defender
  | none =>
    let besieged := fight.battle.setSiege
    if isSupplyCity input.defenderCity ∧ input.defenderRice.getD 10000 ≤ 0 then
      .ended { fight with
        battle := supplyRetreat rules besieged, defender := some .wall, conquerCity := true, logWritten := false }
    else fightDefender rules fight besieged .wall

/-- The rounds of the battle, while the attacker has phases left; a bound on the rounds may run out. -/
def fightRounds (input : WarBattleInput ρ) : Nat → Fight ρ → Option (Fight ρ)
  | 0, _ => none
  | rounds + 1, fight =>
    if getMaxPhase rules fight.battle .attacker ≤ (fight.battle.units .attacker).currPhase then some fight
    else
      match fightRound rules input fight with
      | .ended fight => some fight
      | .next fight => fightRounds input rounds fight

/-- The last fight is over: whoever was left in it may be wounded. -/
def woundLast (fight : Fight ρ) : Battle ρ :=
  match fight.defender with
  | some defender =>
    if fight.logWritten then fight.battle
    else tryWound rules (tryWound rules fight.battle .attacker) defender
  | none => fight.battle

/-- The attacker's battles end, and those of whoever was fought last. -/
def finishUnits (battle : Battle ρ) : Option UnitId → Battle ρ
  | some defender => finishBattle rules (finishBattle rules battle .attacker) defender
  | none => finishBattle rules battle .attacker

/-- A wall that has lost anything is repaired even if it was not fought last. -/
def finishWall (battle : Battle ρ) (defender : Option UnitId) : Battle ρ :=
  if 0 < (battle.books .wall).dead ∧ defender ≠ some .wall then
    finishBattle rules (battle.setOppose .wall (some .attacker)).setSiege .wall
  else battle

/-- The books are closed. -/
def finishFight (fight : Fight ρ) : Battle ρ :=
  finishWall rules (finishUnits rules (woundLast rules fight) fight.defender) fight.defender

/-- What is reported of a unit. -/
structure WarUnitReport where
  unit : UnitId
  isAttacker : Bool
  killed : ℚ
  dead : ℚ
  phase : Int
  deriving DecidableEq

/-- The report of a unit. -/
def resolveUnitReport (battle : Battle ρ) (unit : UnitId) : WarUnitReport :=
  { unit, isAttacker := (battle.units unit).isAttacker, killed := (battle.books unit).killed
    dead := (battle.books unit).dead, phase := (battle.units unit).currPhase }

/-- What a battle ends with. -/
structure WarBattleOutcome (ρ : Type) where
  battle : Battle ρ
  defenderUnits : List UnitId
  conquered : Bool
  reports : List WarUnitReport

/-- A battle before its first round. -/
def openFight (input : WarBattleInput ρ) : Fight ρ :=
  let line := defenderLine rules input.start input.defenders.length
  let first := getNextDefender rules input.start line
  { battle := input.start, defender := first.1, line := first.2, conquerCity := false, logWritten := false }

/-- What a battle ends with once nobody fights any more. -/
def closeFight (input : WarBattleInput ρ) (fight : Fight ρ) : WarBattleOutcome ρ :=
  let line := defenderLine rules input.start input.defenders.length
  let finished := finishFight rules fight
  { battle := finished, defenderUnits := line, conquered := fight.conquerCity
    reports := resolveUnitReport finished .attacker :: line.map (resolveUnitReport finished) ++
      [resolveUnitReport finished .wall] }

/-- The whole battle, within a bound on its rounds. -/
def resolveWarBattle (input : WarBattleInput ρ) (rounds : Nat) : Option (WarBattleOutcome ρ) :=
  (fightRounds rules input rounds (openFight rules input)).map (closeFight rules input)

end Battle

end Sammo.War
