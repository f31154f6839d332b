import Sammo.War.Battle

/-! What the steps of a battle leave as it is: the sides that are not in them, and parts of those that are. -/

namespace Sammo.War

/-- One side of a fight, as its action modules see it; only a general's unit has a general. -/
structure WarSide where
  id : UnitId
  unit : WarUnit
  general : Option WarGeneral
  books : WarBooks

namespace Battle

variable {ρ : Type}

/-- What there is of one unit. -/
def side (battle : Battle ρ) (id : UnitId) : WarSide :=
  { id, unit := battle.units id, general := if id.isGeneral then some (battle.generals id) else none
    books := battle.books id }

variable (rules : WarRules ρ) (battle : Battle ρ) {id other : UnitId}

/-! ### Whoever is not in a step is as before -/

@[simp] theorem setUnit_side (apart : other ≠ id) (change : WarUnit → WarUnit) :
    (battle.setUnit id change).side other = battle.side other := by
  simp [side, setUnit, apart]

@[simp] theorem setGeneral_side (apart : other ≠ id) (change : WarGeneral → WarGeneral) :
    (battle.setGeneral id change).side other = battle.side other := by
  simp [side, setGeneral, apart]

@[simp] theorem setBooks_side (apart : other ≠ id) (change : WarBooks → WarBooks) :
    (battle.setBooks id change).side other = battle.side other := by
  simp [side, setBooks, apart]

@[simp] theorem clearActivatedSkill_side (apart : other ≠ id) :
    (battle.clearActivatedSkill id).side other = battle.side other :=
  setUnit_side battle apart _

@[simp] theorem setOppose_side (apart : other ≠ id) (oppose : Option UnitId) :
    (battle.setOppose id oppose).side other = battle.side other := by
  simp only [setOppose]
  split <;> simp [apart]

theorem face_side {defender : UnitId} (attacker : other ≠ .attacker) (apart : other ≠ defender) :
    (battle.face defender).side other = battle.side other := by
  rw [face, setOppose_side _ apart, setOppose_side _ attacker]

@[simp] theorem addTrain_side (apart : other ≠ id) (train : ℚ) :
    (addTrain rules battle id train).side other = battle.side other := by
  simp only [addTrain]
  split <;> simp [apart]

@[simp] theorem addStatExp_side (apart : other ≠ id) (value : ℚ) :
    (addStatExp rules battle id value).side other = battle.side other :=
  setGeneral_side battle apart _

@[simp] theorem addWin_side (apart : other ≠ id) : (addWin rules battle id).side other = battle.side other := by
  simp only [addWin]
  split <;> simp [apart]

@[simp] theorem addLose_side (apart : other ≠ id) : (addLose rules battle id).side other = battle.side other := by
  simp only [addLose]
  split <;> simp [apart]

@[simp] theorem addLevelExp_side (apart : other ≠ id) (value : ℚ) :
    (addLevelExp rules battle id value).side other = battle.side other :=
  setGeneral_side battle apart _

@[simp] theorem addDex_side (apart : other ≠ id) (crewType : WarCrewType) (exp : ℚ) :
    (addDex rules battle id crewType exp).side other = battle.side other :=
  setGeneral_side battle apart _

@[simp] theorem learnFromKilled_side (apart : other ≠ id) (damage : ℚ) :
    (learnFromKilled rules battle id damage).side other = battle.side other := by
  simp only [learnFromKilled]
  split <;> simp [apart]

@[simp] theorem increaseKilled_side (apart : other ≠ id) (damage : ℚ) :
    (increaseKilled rules battle id damage).side other = battle.side other := by
  rw [increaseKilled, setBooks_side _ apart, learnFromKilled_side rules battle apart]

@[simp] theorem learnFromLoss_side (apart : other ≠ id) (applied : ℚ) :
    (learnFromLoss rules battle id applied).side other = battle.side other := by
  simp only [learnFromLoss]
  split
  · split
    · exact addDex_side rules battle apart _ _
    · rfl
  · -- Only the city's wall suffers.
    rfl

@[simp] theorem decreaseHP_side (apart : other ≠ id) (damage : ℚ) :
    (decreaseHP rules battle id damage).side other = battle.side other := by
  rw [decreaseHP, learnFromLoss_side rules _ apart, setBooks_side _ apart]

@[simp] theorem tryWound_side (apart : other ≠ id) : (tryWound rules battle id).side other = battle.side other := by
  simp only [tryWound]
  repeat' split
  all_goals first
    | rfl
    | rw [setGeneral_side _ apart, setUnit_side _ apart]
      rfl

@[simp] theorem addPhase_side (apart : other ≠ id) : (battle.addPhase id).side other = battle.side other :=
  setUnit_side battle apart _

@[simp] theorem finishBattle_side (apart : other ≠ id) :
    (finishBattle rules battle id).side other = battle.side other := by
  simp only [finishBattle]
  split
  · split
    · rfl
    · rw [setGeneral_side _ apart, setBooks_side _ apart, clearActivatedSkill_side _ apart]
  · -- The repair of the city is no part of any side.
    have cleared (change : WarBooks → WarBooks) :
        ((battle.clearActivatedSkill id).setBooks id change).side other = battle.side other := by
      rw [setBooks_side _ apart, clearActivatedSkill_side _ apart]
    exact cleared fun books => { books with isFinished := true }

theorem defenderStops_side {defender : UnitId} (attacker : other ≠ .attacker) (apart : other ≠ defender) :
    (defenderStops rules battle defender).side other = battle.side other := by
  simp only [defenderStops]
  split
  · rw [tryWound_side _ _ apart, tryWound_side _ _ attacker, addLose_side _ _ apart, addWin_side _ _ attacker]
  · rfl

theorem computeWarPower_side {oppose : UnitId} (faces : (battle.units id).oppose = some oppose) (apart : other ≠ id)
    (opposeApart : other ≠ oppose) : (computeWarPower rules battle id).side other = battle.side other := by
  simp only [computeWarPower, faces]
  split <;> simp only [setUnit_side _ opposeApart, setUnit_side _ apart] <;> rfl

theorem beginPhase_side {oppose : UnitId} (faces : (battle.units id).oppose = some oppose) (apart : other ≠ id)
    (opposeApart : other ≠ oppose) : (beginPhase rules battle id).side other = battle.side other := by
  have faces : ((battle.clearActivatedSkill id).units id).oppose = some oppose := by
    simpa [clearActivatedSkill, setUnit] using faces
  rw [beginPhase, computeWarPower_side rules _ faces apart opposeApart, clearActivatedSkill_side _ apart]

/-! ### What no unit changes about itself -/

/-- What only the battle itself changes of a unit: its troops and its side never, its opponent by facing it. -/
def fixtures (battle : Battle ρ) (id : UnitId) : WarCrewType × Bool × Option UnitId :=
  ((battle.units id).crewType, (battle.units id).isAttacker, (battle.units id).oppose)

theorem setUnit_fixtures (id : UnitId) {change : WarUnit → WarUnit}
    (keeps : ∀ unit, (change unit).crewType = unit.crewType ∧ (change unit).isAttacker = unit.isAttacker ∧
      (change unit).oppose = unit.oppose) : (battle.setUnit id change).fixtures = battle.fixtures := by
  funext other
  by_cases same : other = id
  · subst same
    simp [fixtures, setUnit, keeps]
  · simp [fixtures, setUnit, same]

theorem fixtures_congr {battle after : Battle ρ} (same : after.units = battle.units) :
    after.fixtures = battle.fixtures := by
  funext id
  simp only [fixtures, same]

@[simp] theorem setGeneral_fixtures (id : UnitId) (change : WarGeneral → WarGeneral) :
    (battle.setGeneral id change).fixtures = battle.fixtures := rfl

@[simp] theorem clearActivatedSkill_fixtures (id : UnitId) :
    (battle.clearActivatedSkill id).fixtures = battle.fixtures :=
  setUnit_fixtures battle id fun _ => ⟨rfl, rfl, rfl⟩

theorem setOppose_fixtures (id : UnitId) (oppose : Option UnitId) : (battle.setOppose id oppose).fixtures =
    Function.update battle.fixtures id ((battle.fixtures id).1, (battle.fixtures id).2.1, oppose) := by
  have units : (battle.setOppose id oppose).units =
      ((battle.setUnit id fun unit => { unit with oppose }).clearActivatedSkill id).units := by
    simp only [setOppose]
    split <;> rfl
  rw [fixtures_congr units, clearActivatedSkill_fixtures]
  funext other
  by_cases same : other = id
  · subst same
    simp [fixtures, setUnit]
  · simp [fixtures, setUnit, same]

theorem face_fixtures {defender : UnitId} (other : defender ≠ .attacker) : (battle.face defender).fixtures =
    Function.update (Function.update battle.fixtures .attacker
      ((battle.fixtures .attacker).1, (battle.fixtures .attacker).2.1, some defender)) defender
      ((battle.fixtures defender).1, (battle.fixtures defender).2.1, some .attacker) := by
  rw [face, setOppose_fixtures, setOppose_fixtures, Function.update_of_ne other]

@[simp] theorem addTrain_units (id : UnitId) (train : ℚ) : (addTrain rules battle id train).units = battle.units := by
  simp only [addTrain]
  split <;> rfl

@[simp] theorem learnFromKilled_units (id : UnitId) (damage : ℚ) :
    (learnFromKilled rules battle id damage).units = battle.units := by
  simp only [learnFromKilled]
  split <;> rfl

@[simp] theorem increaseKilled_units (id : UnitId) (damage : ℚ) :
    (increaseKilled rules battle id damage).units = battle.units :=
  learnFromKilled_units rules battle id damage

@[simp] theorem learnFromLoss_units (id : UnitId) (applied : ℚ) :
    (learnFromLoss rules battle id applied).units = battle.units := by
  simp only [learnFromLoss]
  split
  · split <;> rfl
  · rfl

@[simp] theorem decreaseHP_units (id : UnitId) (damage : ℚ) :
    (decreaseHP rules battle id damage).units = battle.units := by
  rw [decreaseHP, learnFromLoss_units]
  rfl

@[simp] theorem exchangeBlows_units (defender : UnitId) (deadAttacker deadDefender : ℚ) :
    (exchangeBlows rules battle defender deadAttacker deadDefender).units = battle.units := by
  simp only [exchangeBlows, increaseKilled_units, decreaseHP_units]

@[simp] theorem computeWarPower_fixtures (id : UnitId) :
    (computeWarPower rules battle id).fixtures = battle.fixtures := by
  simp only [computeWarPower]
  split
  · rfl
  · split <;> simp only [setUnit_fixtures, and_self, implies_true] <;> rfl

@[simp] theorem beginPhase_fixtures (id : UnitId) : (beginPhase rules battle id).fixtures = battle.fixtures := by
  rw [beginPhase, computeWarPower_fixtures, clearActivatedSkill_fixtures]

@[simp] theorem addPhase_fixtures (id : UnitId) : (battle.addPhase id).fixtures = battle.fixtures :=
  setUnit_fixtures battle id fun _ => ⟨rfl, rfl, rfl⟩

@[simp] theorem tryWound_fixtures (id : UnitId) : (tryWound rules battle id).fixtures = battle.fixtures := by
  simp only [tryWound]
  repeat' split
  all_goals first
    | rfl
    | rw [setGeneral_fixtures, setUnit_fixtures]
      · rfl
      · intro unit
        exact ⟨rfl, rfl, rfl⟩

@[simp] theorem addWin_fixtures (id : UnitId) : (addWin rules battle id).fixtures = battle.fixtures := by
  simp only [addWin]
  split <;> rfl

@[simp] theorem addLose_fixtures (id : UnitId) : (addLose rules battle id).fixtures = battle.fixtures := by
  simp only [addLose]
  split <;> rfl

@[simp] theorem defenderStops_fixtures (defender : UnitId) :
    (defenderStops rules battle defender).fixtures = battle.fixtures := by
  simp only [defenderStops]
  split <;> simp only [tryWound_fixtures, addLose_fixtures, addWin_fixtures]

@[simp] theorem finishBattle_fixtures (id : UnitId) : (finishBattle rules battle id).fixtures = battle.fixtures := by
  have cleared := clearActivatedSkill_fixtures battle id
  simp only [finishBattle]
  split
  · split
    · rfl
    · exact cleared
  · exact cleared

/-! ### Only the battle itself besieges the city -/

@[simp] theorem setOppose_onSiege (id : UnitId) (oppose : Option UnitId) :
    (battle.setOppose id oppose).onSiege = battle.onSiege := by
  simp only [setOppose]
  split <;> rfl

@[simp] theorem addTrain_onSiege (id : UnitId) (train : ℚ) :
    (addTrain rules battle id train).onSiege = battle.onSiege := by
  simp only [addTrain]
  split <;> rfl

@[simp] theorem addWin_onSiege (id : UnitId) : (addWin rules battle id).onSiege = battle.onSiege := by
  simp only [addWin]
  split <;> rfl

@[simp] theorem addLose_onSiege (id : UnitId) : (addLose rules battle id).onSiege = battle.onSiege := by
  simp only [addLose]
  split <;> rfl

@[simp] theorem increaseKilled_onSiege (id : UnitId) (damage : ℚ) :
    (increaseKilled rules battle id damage).onSiege = battle.onSiege := by
  simp only [increaseKilled, learnFromKilled]
  split <;> rfl

@[simp] theorem decreaseHP_onSiege (id : UnitId) (damage : ℚ) :
    (decreaseHP rules battle id damage).onSiege = battle.onSiege := by
  simp only [decreaseHP, learnFromLoss]
  split
  · split <;> rfl
  · rfl

@[simp] theorem tryWound_onSiege (id : UnitId) : (tryWound rules battle id).onSiege = battle.onSiege := by
  simp only [tryWound]
  repeat' split
  all_goals rfl

@[simp] theorem beginPhase_onSiege (id : UnitId) : (beginPhase rules battle id).onSiege = battle.onSiege := by
  simp only [beginPhase, computeWarPower]
  split
  · rfl
  · split <;> rfl

@[simp] theorem finishBattle_onSiege (id : UnitId) : (finishBattle rules battle id).onSiege = battle.onSiege := by
  simp only [finishBattle]
  split
  · split <;> rfl
  · rfl

@[simp] theorem meet_onSiege (defender : UnitId) : (meet rules battle defender).onSiege = battle.onSiege := by
  simp only [meet]
  split
  · simp only [face, setConduct, setOppose_onSiege, addTrain_onSiege]
    rfl
  · rfl

@[simp] theorem fightPhase_onSiege (defender : UnitId) :
    (fightPhase rules battle defender).onSiege = battle.onSiege := by
  have blows (battle : Battle ρ) (losses : ℚ × ℚ) :
      (exchangeBlows rules battle defender losses.1 losses.2).onSiege = battle.onSiege := by
    simp only [exchangeBlows, increaseKilled_onSiege, decreaseHP_onSiege]
  calc (fightPhase rules battle defender).onSiege
      = (beginPhase rules (beginPhase rules battle .attacker) defender).onSiege := blows _ _
    _ = battle.onSiege := by rw [beginPhase_onSiege, beginPhase_onSiege]

@[simp] theorem defenderStops_onSiege (defender : UnitId) :
    (defenderStops rules battle defender).onSiege = battle.onSiege := by
  simp only [defenderStops]
  split <;> simp only [tryWound_onSiege, addLose_onSiege, addWin_onSiege]

/-! ### What feeds a general changes only in a phase and at the end -/

/-- The rice of the generals. -/
def rices (battle : Battle ρ) (id : UnitId) : ℚ := (battle.generals id).rice

theorem setGeneral_rices (id : UnitId) {change : WarGeneral → WarGeneral}
    (keeps : ∀ general, (change general).rice = general.rice) : (battle.setGeneral id change).rices = battle.rices := by
  funext other
  by_cases same : other = id
  · subst same
    simp [rices, setGeneral, keeps]
  · simp [rices, setGeneral, same]

@[simp] theorem setOppose_rices (id : UnitId) (oppose : Option UnitId) :
    (battle.setOppose id oppose).rices = battle.rices := by
  simp only [setOppose]
  split
  · rw [setGeneral_rices]
    · rfl
    · intro general
      rfl
  · rfl

@[simp] theorem addTrain_rices (id : UnitId) (train : ℚ) : (addTrain rules battle id train).rices = battle.rices := by
  simp only [addTrain]
  split
  · rw [setGeneral_rices]
    intro general
    rfl
  · rfl

@[simp] theorem addStatExp_rices (id : UnitId) (value : ℚ) :
    (addStatExp rules battle id value).rices = battle.rices := by
  rw [addStatExp, setGeneral_rices]
  intro general
  split_ifs <;> rfl

@[simp] theorem addWin_rices (id : UnitId) : (addWin rules battle id).rices = battle.rices := by
  simp only [addWin]
  split
  · rw [addStatExp_rices, setGeneral_rices]
    intro general
    rfl
  · rfl

@[simp] theorem addLose_rices (id : UnitId) : (addLose rules battle id).rices = battle.rices := by
  simp only [addLose]
  split
  · rw [addStatExp_rices, setGeneral_rices]
    intro general
    rfl
  · rfl

@[simp] theorem addLevelExp_rices (id : UnitId) (value : ℚ) :
    (addLevelExp rules battle id value).rices = battle.rices := by
  rw [addLevelExp, setGeneral_rices]
  intro general
  rfl

@[simp] theorem tryWound_rices (id : UnitId) : (tryWound rules battle id).rices = battle.rices := by
  simp only [tryWound]
  repeat' split
  all_goals first
    | rfl
    | rw [setGeneral_rices]
      · rfl
      · intro general
        rfl

@[simp] theorem defenderStops_rices (defender : UnitId) :
    (defenderStops rules battle defender).rices = battle.rices := by
  simp only [defenderStops]
  split <;> simp only [tryWound_rices, addLose_rices, addWin_rices]

@[simp] theorem supplyRetreat_rices : (supplyRetreat rules battle).rices = battle.rices := by
  have retreated : (supplyRetreat rules battle).rices =
      (addLose rules (addWin rules (addTrain rules (battle.face .wall) .attacker 1) .attacker) .wall).rices := rfl
  rw [retreated, addLose_rices, addWin_rices, addTrain_rices, face, setOppose_rices, setOppose_rices]

end Battle

end Sammo.War
