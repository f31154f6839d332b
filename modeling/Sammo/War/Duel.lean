import Sammo.War.Frames

/-!
The triggers and the action modules of a battle as the code hands the battle to them.

A trigger is given the attacker's unit and the defender's, and an action module the unit that it belongs to with the
opponent that it faces. Nobody else is within their reach: whoever still waits is as it was before the battle.
-/

namespace Sammo.War

/-- A fight, as its triggers see it. -/
structure Duel (ρ : Type) where
  attacker : WarSide
  defender : WarSide
  city : WarCity
  onSiege : Bool
  random : ρ

/-- What a battle is fought by, where triggers reach the fight that they are of and modules the unit that has them. -/
structure DuelRules (ρ : Type) where
  config : WarEngineConfig
  nextRange : ρ → ℚ → ℚ → ℚ × ρ
  nextRangeInt : ρ → Int → Int → Int × ρ
  nextBool : ρ → ℚ → Bool × ρ
  pow : ℚ → ℚ → ℚ
  onCalcStat : WarSide → Option WarSide → WarStatName → ℚ → ℚ
  onCalcOpposeStat : WarSide → Option WarSide → WarStatName → ℚ → ℚ
  /-- Only the action of a crew type places the wall in the order of battle. -/
  cityBattleOrder : WarCrewType → ℚ → ℚ
  getWarPowerMultiplier : WarSide → WarSide → ℚ × ℚ
  battleInitTriggers : Duel ρ → Duel ρ
  battlePhaseTriggers : Duel ρ → Duel ρ

namespace Battle

variable {ρ : Type}

/-- The side that a unit faces. -/
def opposingSide (battle : Battle ρ) (id : UnitId) : Option WarSide := (battle.units id).oppose.map battle.side

/-- The fight of the attacker against a defender. -/
def duel (battle : Battle ρ) (defender : UnitId) : Duel ρ :=
  { attacker := battle.side .attacker, defender := battle.side defender, city := battle.city
    onSiege := battle.onSiege, random := battle.random }

/-- A unit after its triggers: they cannot give it other troops, another side or another opponent. -/
def triggeredUnit (before after : WarUnit) : WarUnit :=
  { after with crewType := before.crewType, isAttacker := before.isAttacker, oppose := before.oppose }

/-- Takes one side of a fight over into the conduct of the battle. -/
def takeSide (conduct : Conduct ρ) (id : UnitId) (side : WarSide) : Conduct ρ :=
  { conduct with
    units := Function.update conduct.units id (triggeredUnit (conduct.units id) side.unit)
    generals := Function.update conduct.generals id (side.general.getD (conduct.generals id)) }

/-- Takes over what the triggers have left of a fight. -/
def takeDuel (battle : Battle ρ) (defender : UnitId) (duel : Duel ρ) : Conduct ρ :=
  takeSide (takeSide { battle.toConduct with city := duel.city, random := duel.random } .attacker duel.attacker)
    defender duel.defender

end Battle

/-- The rules of a battle whose triggers reach no further than their fight. -/
def DuelRules.toWarRules {ρ : Type} (rules : DuelRules ρ) : WarRules ρ :=
  { config := rules.config
    nextRange := rules.nextRange
    nextRangeInt := rules.nextRangeInt
    nextBool := rules.nextBool
    pow := rules.pow
    onCalcStat := fun battle id => rules.onCalcStat (battle.side id) (battle.opposingSide id)
    onCalcOpposeStat := fun battle id statName value =>
      if statName = .cityBattleOrder then rules.cityBattleOrder (battle.units id).crewType value
      else rules.onCalcOpposeStat (battle.side id) (battle.opposingSide id) statName value
    getWarPowerMultiplier := fun battle id oppose => rules.getWarPowerMultiplier (battle.side id) (battle.side oppose)
    battleInitTriggers := fun battle defender => battle.takeDuel defender (rules.battleInitTriggers (battle.duel defender))
    battlePhaseTriggers := fun battle defender =>
      battle.takeDuel defender (rules.battlePhaseTriggers (battle.duel defender)) }

namespace Battle

variable {ρ : Type} (battle : Battle ρ) {id other : UnitId}

/-! ### The triggers of a fight -/

theorem takeSide_others (conduct : Conduct ρ) (side : WarSide) (apart : other ≠ id) :
    (takeSide conduct id side).units other = conduct.units other ∧
      (takeSide conduct id side).generals other = conduct.generals other := by
  simp [takeSide, apart]

theorem takeDuel_side {defender : UnitId} (duel : Duel ρ) (attacker : other ≠ .attacker) (apart : other ≠ defender) :
    (battle.setConduct (battle.takeDuel defender duel)).side other = battle.side other := by
  have sides := fun (conduct : Conduct ρ) (id : UnitId) (side : WarSide) (apart : other ≠ id) =>
    takeSide_others conduct side apart
  simp only [side, setConduct, takeDuel, (sides _ _ _ apart).1, (sides _ _ _ apart).2, (sides _ _ _ attacker).1,
    (sides _ _ _ attacker).2]

theorem takeSide_fixtures (side : WarSide) (conduct : Conduct ρ) (id : UnitId) :
    (battle.setConduct (takeSide conduct id side)).fixtures = (battle.setConduct conduct).fixtures := by
  funext other
  by_cases same : other = id
  · subst same
    simp [fixtures, setConduct, takeSide, triggeredUnit]
  · simp [fixtures, setConduct, takeSide, same]

theorem takeDuel_fixtures (defender : UnitId) (duel : Duel ρ) :
    (battle.setConduct (battle.takeDuel defender duel)).fixtures = battle.fixtures := by
  rw [takeDuel, takeSide_fixtures, takeSide_fixtures]
  rfl

end Battle

end Sammo.War
