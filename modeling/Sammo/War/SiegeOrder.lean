import Sammo.War.BattleHistory
import Sammo.War.Casualties

/-! A city comes under siege only after the whole line of its defence, and falls only to an attacker who can go on. -/

namespace Sammo.War

namespace Battle

variable {ρ : Type}

theorem computeBattleOrder_waiting (rules : DuelRules ρ) {battle start : Battle ρ} {id : UnitId}
    (general : id.isGeneral) (same : battle.side id = start.side id) (alone : (start.units id).oppose = none) :
    computeBattleOrder rules.toWarRules battle id = computeBattleOrder rules.toWarRules start id := by
  have unit : battle.units id = start.units id := congrArg WarSide.unit same
  have books : battle.books id = start.books id := congrArg WarSide.books same
  have generals : battle.generals id = start.generals id := by
    have both := congrArg WarSide.general same
    simpa [side, general] using both
  have nobody : battle.opposingSide id = none := by rw [opposingSide, unit, alone]; rfl
  have nobodyThen : start.opposingSide id = none := by rw [opposingSide, alone]; rfl
  -- Every stat of the general is computed from its own side.
  have stat (statName : WarStatName) (value : ℚ) : rules.toWarRules.onCalcStat battle id statName value =
      rules.toWarRules.onCalcStat start id statName value := by
    simp only [DuelRules.toWarRules, same, nobody, nobodyThen]
  simp only [computeBattleOrder, if_pos general, computeDefenderStrength, getComputedStat, plainStat, statAdjust, getHP,
    generals, books, stat]

theorem computeBattleOrder_wall (rules : DuelRules ρ) {battle start : Battle ρ}
    (troops : (battle.units .attacker).crewType = (start.units .attacker).crewType) :
    computeBattleOrder rules.toWarRules battle .wall = computeBattleOrder rules.toWarRules start .wall := by
  simp only [computeBattleOrder, UnitId.isGeneral, DuelRules.toWarRules, troops, if_true, Bool.false_eq_true, if_false]

/-! ### A round leaves the waiting defenders alone -/

/-- A unit that has not met anybody yet. -/
def Fresh (battle : Battle ρ) (id : UnitId) : Prop :=
  (battle.units id).currPhase = 0 ∧ (battle.units id).oppose = none

/-- The attacker and a defender face each other. -/
def Facing (battle : Battle ρ) (defender : UnitId) : Prop :=
  (battle.units .attacker).oppose = some defender ∧ (battle.units defender).oppose = some .attacker

theorem battleInit_side (rules : DuelRules ρ) (battle : Battle ρ) {defender other : UnitId}
    (attacker : other ≠ .attacker) (apart : other ≠ defender) :
    (battle.setConduct (rules.toWarRules.battleInitTriggers battle defender)).side other = battle.side other :=
  takeDuel_side battle _ attacker apart

theorem battlePhase_side (rules : DuelRules ρ) (battle : Battle ρ) {defender other : UnitId}
    (attacker : other ≠ .attacker) (apart : other ≠ defender) :
    (battle.setConduct (rules.toWarRules.battlePhaseTriggers battle defender)).side other = battle.side other :=
  takeDuel_side battle _ attacker apart

theorem battleInit_fixtures (rules : DuelRules ρ) (battle : Battle ρ) (defender : UnitId) :
    (battle.setConduct (rules.toWarRules.battleInitTriggers battle defender)).fixtures = battle.fixtures :=
  takeDuel_fixtures battle defender _

theorem battlePhase_fixtures (rules : DuelRules ρ) (battle : Battle ρ) (defender : UnitId) :
    (battle.setConduct (rules.toWarRules.battlePhaseTriggers battle defender)).fixtures = battle.fixtures :=
  takeDuel_fixtures battle defender _

theorem meet_side (rules : DuelRules ρ) (battle : Battle ρ) {defender other : UnitId} (attacker : other ≠ .attacker)
    (apart : other ≠ defender) : (meet rules.toWarRules battle defender).side other = battle.side other := by
  simp only [meet]
  split
  · rw [battleInit_side rules _ attacker apart, face_side _ attacker apart, addTrain_side _ _ apart,
      addTrain_side _ _ attacker, setUnit_side _ apart]
  · rfl

theorem meet_facing (rules : DuelRules ρ) {battle : Battle ρ} {defender : UnitId} (other : defender ≠ .attacker)
    (met : battle.Fresh defender ∨ battle.Facing defender) :
    (meet rules.toWarRules battle defender).Facing defender ∧
      ((meet rules.toWarRules battle defender).units .attacker).crewType = (battle.units .attacker).crewType := by
  by_cases fresh : battle.Fresh defender
  · have begun : (battle.units defender).currPhase = 0 ∧ (battle.units defender).oppose = none := fresh
    simp only [meet, if_pos begun]
    have trained (train : ℚ) (battle : Battle ρ) (id : UnitId) :
        (addTrain rules.toWarRules battle id train).fixtures = battle.fixtures := fixtures_congr (addTrain_units ..)
    -- The triggers keep what facing each other has set.
    have faced := battleInit_fixtures rules
      ((addTrain rules.toWarRules (addTrain rules.toWarRules (battle.setUnit defender fun unit =>
        { unit with prePhase := (battle.units .attacker).currPhase }) .attacker 1) defender 1).face defender) defender
    have counted : (battle.setUnit defender fun unit =>
        { unit with prePhase := (battle.units .attacker).currPhase }).fixtures = battle.fixtures :=
      setUnit_fixtures battle defender fun _ => ⟨rfl, rfl, rfl⟩
    rw [face_fixtures _ other, trained, trained, counted] at faced
    have ofAttacker := congrFun faced .attacker
    have ofDefender := congrFun faced defender
    rw [Function.update_of_ne (Ne.symm other), Function.update_self] at ofAttacker
    rw [Function.update_self] at ofDefender
    exact ⟨⟨congrArg (fun fixture => fixture.2.2) ofAttacker, congrArg (fun fixture => fixture.2.2) ofDefender⟩,
      congrArg Prod.fst ofAttacker⟩
  · have facing := met.resolve_left fresh
    have going : ¬ ((battle.units defender).currPhase = 0 ∧ (battle.units defender).oppose = none) := fresh
    have same : meet rules.toWarRules battle defender = battle := if_neg going
    rw [same]
    exact ⟨facing, rfl⟩

theorem fightPhase_side (rules : DuelRules ρ) {battle : Battle ρ} {defender other : UnitId}
    (facing : battle.Facing defender) (attacker : other ≠ .attacker) (apart : other ≠ defender) :
    (fightPhase rules.toWarRules battle defender).side other = battle.side other := by
  have begun := beginPhase_fixtures rules.toWarRules battle .attacker
  have stillFaces : ((beginPhase rules.toWarRules battle .attacker).units defender).oppose = some .attacker :=
    (congrArg (fun fixtures => (fixtures defender).2.2) begun).trans facing.2
  have blows (battle : Battle ρ) (losses : ℚ × ℚ) :
      (exchangeBlows rules.toWarRules battle defender losses.1 losses.2).side other = battle.side other := by
    rw [exchangeBlows, increaseKilled_side _ _ apart, increaseKilled_side _ _ attacker, decreaseHP_side _ _ apart,
      decreaseHP_side _ _ attacker]
  have rolled (battle : Battle ρ) (id : UnitId) :
      (calcDamage rules.toWarRules battle id).2.side other = battle.side other := rfl
  simp only [fightPhase]
  rw [addPhase_side _ apart, addPhase_side _ attacker, blows, rolled, rolled, battlePhase_side rules _ attacker apart,
    beginPhase_side _ _ stillFaces apart attacker, beginPhase_side _ _ facing.1 attacker apart]

theorem fightPhase_fixtures (rules : DuelRules ρ) (battle : Battle ρ) (defender : UnitId) :
    (fightPhase rules.toWarRules battle defender).fixtures = battle.fixtures := by
  have blows (battle : Battle ρ) (losses : ℚ × ℚ) :
      (exchangeBlows rules.toWarRules battle defender losses.1 losses.2).fixtures = battle.fixtures :=
    fixtures_congr (exchangeBlows_units ..)
  have rolled (battle : Battle ρ) (id : UnitId) :
      (calcDamage rules.toWarRules battle id).2.fixtures = battle.fixtures := rfl
  simp only [fightPhase]
  rw [addPhase_fixtures, addPhase_fixtures, blows, rolled, rolled, battlePhase_fixtures, beginPhase_fixtures,
    beginPhase_fixtures]

/-- Whoever is still to come stands as at the start. -/
structure Waiting (rules : DuelRules ρ) (start : Battle ρ) (line : List UnitId) (battle : Battle ρ) : Prop where
  once : line.Nodup
  noAttacker : UnitId.attacker ∉ line
  ready : ∀ id ∈ line, 0 < computeBattleOrder rules.toWarRules start id
  fresh : ∀ id ∈ line, start.Fresh id
  asBefore : ∀ id ∈ line, battle.side id = start.side id
  troops : (battle.units .attacker).crewType = (start.units .attacker).crewType
  unsieged : battle.onSiege = false

/-- A defender is fought while the others wait. -/
structure InLine (rules : DuelRules ρ) (start : Battle ρ) (defender : UnitId) (line : List UnitId)
    (battle : Battle ρ) : Prop extends Waiting rules start line battle where
  other : defender ≠ .attacker
  gone : defender ∉ line
  met : battle.Fresh defender ∨ battle.Facing defender

variable {rules : DuelRules ρ} {start battle : Battle ρ} {defender : UnitId} {line : List UnitId}

theorem Waiting.apart (waits : Waiting rules start line battle) {id : UnitId} (among : id ∈ line) : id ≠ .attacker := by
  rintro rfl
  exact waits.noAttacker among

theorem Waiting.order (waits : Waiting rules start line battle) {id : UnitId} (among : id ∈ line) :
    0 < computeBattleOrder rules.toWarRules battle id := by
  have ready := waits.ready id among
  cases id with
  | attacker => exact absurd rfl (waits.apart among)
  | defender index =>
    rw [computeBattleOrder_waiting rules rfl (waits.asBefore _ among) (waits.fresh _ among).2]
    exact ready
  | wall =>
    rw [computeBattleOrder_wall rules waits.troops]
    exact ready

theorem Waiting.takeField (waits : Waiting rules start (defender :: line) battle) :
    InLine rules start defender line battle := by
  have later {id : UnitId} (among : id ∈ line) : id ∈ defender :: line := List.mem_cons_of_mem _ among
  have unit : battle.units defender = start.units defender :=
    congrArg WarSide.unit (waits.asBefore defender List.mem_cons_self)
  have fresh := waits.fresh defender List.mem_cons_self
  refine ⟨⟨(List.nodup_cons.mp waits.once).2, fun among => waits.noAttacker (later among),
    fun id among => waits.ready id (later among), fun id among => waits.fresh id (later among),
    fun id among => waits.asBefore id (later among), waits.troops, waits.unsieged⟩,
    waits.apart List.mem_cons_self, (List.nodup_cons.mp waits.once).1, .inl ?_⟩
  rw [Fresh, unit]
  exact fresh

theorem InLine.fought (inLine : InLine rules start defender line battle) : InLine rules start defender line
    (fightPhase rules.toWarRules (meet rules.toWarRules battle defender) defender) := by
  obtain ⟨facing, troops⟩ := meet_facing rules inLine.other inLine.met
  have kept := fightPhase_fixtures rules (meet rules.toWarRules battle defender) defender
  have oppose (id : UnitId) := congrArg (fun fixtures => (fixtures id).2.2) kept
  have crewType := congrArg (fun fixtures => (fixtures UnitId.attacker).1) kept
  refine ⟨⟨inLine.once, inLine.noAttacker, inLine.ready, inLine.fresh, ?_, ?_, ?_⟩, inLine.other, inLine.gone, .inr
    ⟨(oppose .attacker).trans facing.1, (oppose defender).trans facing.2⟩⟩
  · intro id among
    have apart : id ≠ defender := fun same => inLine.gone (same ▸ among)
    rw [fightPhase_side rules facing (inLine.apart among) apart, meet_side rules battle (inLine.apart among) apart,
      inLine.asBefore id among]
  · exact crewType.trans (troops.trans inLine.troops)
  · rw [fightPhase_onSiege, meet_onSiege, inLine.unsieged]

/-- A defender that has stopped leaves the field; a wall that took part goes back to waiting for a siege. -/
def leaveField (rules : WarRules ρ) (battle : Battle ρ) (defender : UnitId) : Battle ρ :=
  let stopped := defenderStops rules battle defender
  finishBattle rules (if defender = .wall then stopped.setOppose .wall none else stopped) defender

@[simp] theorem leaveField_onSiege (rules : WarRules ρ) (battle : Battle ρ) (defender : UnitId) :
    (leaveField rules battle defender).onSiege = battle.onSiege := by
  simp only [leaveField, finishBattle_onSiege]
  split <;> simp only [setOppose_onSiege, defenderStops_onSiege]

theorem leaveField_side (rules : WarRules ρ) (battle : Battle ρ) {defender other : UnitId}
    (attacker : other ≠ .attacker) (apart : other ≠ defender) :
    (leaveField rules battle defender).side other = battle.side other := by
  simp only [leaveField]
  rw [finishBattle_side _ _ apart]
  split
  · rename_i wall
    subst wall
    rw [setOppose_side _ apart, defenderStops_side _ _ attacker apart]
  · rw [defenderStops_side _ _ attacker apart]

theorem leaveField_troops (rules : WarRules ρ) (battle : Battle ρ) (defender : UnitId) :
    ((leaveField rules battle defender).units .attacker).crewType = (battle.units .attacker).crewType := by
  have freed : ((if defender = .wall then (defenderStops rules battle defender).setOppose .wall none
      else defenderStops rules battle defender).fixtures .attacker).1 = (battle.fixtures .attacker).1 := by
    split
    · rw [setOppose_fixtures, Function.update_of_ne (by decide), defenderStops_fixtures]
    · rw [defenderStops_fixtures]
  have finished := congrArg (fun fixtures => (fixtures UnitId.attacker).1)
    (finishBattle_fixtures rules (if defender = .wall then (defenderStops rules battle defender).setOppose .wall none
      else defenderStops rules battle defender) defender)
  exact finished.trans freed

theorem InLine.leave (inLine : InLine rules start defender line battle) :
    Waiting rules start line (leaveField rules.toWarRules battle defender) := by
  refine ⟨inLine.once, inLine.noAttacker, inLine.ready, inLine.fresh, ?_, ?_, ?_⟩
  · intro id among
    have apart : id ≠ defender := fun same => inLine.gone (same ▸ among)
    rw [leaveField_side _ _ (inLine.apart among) apart, inLine.asBefore id among]
  · rw [leaveField_troops, inLine.troops]
  · rw [leaveField_onSiege, inLine.unsieged]

/-- The fight after a defender has left the field. -/
def followingFight (rules : WarRules ρ) (fight : Fight ρ) (battle : Battle ρ) (defender : UnitId) : Fight ρ :=
  let left := leaveField rules battle defender
  let next := getNextDefender rules left fight.line
  { fight with battle := left, defender := next.1, line := next.2, logWritten := true }

theorem switchDefender_unsieged (rules : WarRules ρ) (fight : Fight ρ) {battle : Battle ρ} {defender : UnitId}
    (unsieged : ¬ (defender = .wall ∧ battle.onSiege = true)) :
    (∃ last, switchDefender rules fight battle defender = .ended last ∧ last.conquerCity = fight.conquerCity) ∨
      switchDefender rules fight battle defender = .next (followingFight rules fight battle defender) := by
  have cases (freed : Battle ρ) (goesOn : Round ρ) : (∃ last,
      (if getMaxPhase rules freed .attacker ≤ (freed.units .attacker).currPhase then
        Round.ended { fight with battle := freed, defender := some defender, logWritten := true }
      else goesOn) = .ended last ∧ last.conquerCity = fight.conquerCity) ∨
      (if getMaxPhase rules freed .attacker ≤ (freed.units .attacker).currPhase then
        Round.ended { fight with battle := freed, defender := some defender, logWritten := true }
      else goesOn) = goesOn := by
    split
    · exact .inl ⟨_, rfl, rfl⟩
    · exact .inr rfl
  simp only [switchDefender, if_neg unsieged]
  exact cases _ _

/-! ### The course of a battle -/

theorem siege_round (rules : WarRules ρ) (input : WarBattleInput ρ) {rounds : Nat}
    (later : ∀ fight : Fight ρ, fight.defender = some .wall → fight.battle.onSiege = true →
      Siege (fightEvents rules input rounds fight)) (fight : Fight ρ) {battle : Battle ρ}
    (sieged : battle.onSiege = true) : Siege (fightEvent rules battle .wall ::
      (fightDefender rules fight battle .wall).eventsAfter (fightEvents rules input rounds)) := by
  have stillSieged : (fightPhase rules (meet rules battle .wall) .wall).onSiege = true := by
    rw [fightPhase_onSiege, meet_onSiege, sieged]
  simp only [fightEvent, fightDefender]
  by_cases attacker : (continueWar (fightPhase rules (meet rules battle .wall) .wall) .attacker).canContinue
  · by_cases wall : (continueWar (fightPhase rules (meet rules battle .wall) .wall) .wall).canContinue
    · -- Both go on.
      simp only [attacker, wall, not_true_eq_false, if_false]
      exact Siege.fought (later _ rfl stillSieged)
    · -- The wall has fallen.
      have fallen := Bool.not_eq_true _ ▸ wall
      simp only [attacker, fallen, not_true_eq_false, if_false, Bool.false_eq_true, not_false_eq_true, if_true,
        switchDefender, stillSieged, and_self, Round.eventsAfter]
      exact Siege.fallen
  · have repelled := Bool.not_eq_true _ ▸ attacker
    simp only [repelled, Bool.false_eq_true, not_false_eq_true, if_true, Round.eventsAfter]
    exact Siege.repelled _

theorem siege_course (rules : WarRules ρ) (input : WarBattleInput ρ) (rounds : Nat) :
    ∀ fight : Fight ρ, fight.defender = some .wall → fight.battle.onSiege = true →
      Siege (fightEvents rules input rounds fight) := by
  induction rounds with
  | zero => exact fun _ _ _ => Siege.exhausted
  | succ rounds ih =>
    intro fight wall sieged
    simp only [fightEvents]
    split
    · exact Siege.exhausted
    · simp only [roundEvents, fightRound, wall]
      exact siege_round rules input ih fight sieged

theorem city_course (rules : WarRules ρ) (input : WarBattleInput ρ) (rounds : Nat) {fight : Fight ρ}
    (nobody : fight.defender = none) : Course [] (fightEvents rules input rounds fight) := by
  cases rounds with
  | zero => exact Course.exhausted []
  | succ rounds =>
    simp only [fightEvents]
    split
    · exact Course.exhausted []
    · simp only [roundEvents, fightRound, nobody]
      split
      · exact Course.surrendered
      · have sieged : fight.battle.setSiege.onSiege = true := rfl
        exact Course.besieged (siege_round rules input (siege_course rules input rounds) fight sieged)

theorem line_course (rules : DuelRules ρ) (input : WarBattleInput ρ) (rounds : Nat) :
    ∀ (fight : Fight ρ) (defender : UnitId), fight.defender = some defender →
      InLine rules input.start defender fight.line fight.battle →
        Course (defender :: fight.line) (fightEvents rules.toWarRules input rounds fight) := by
  induction rounds with
  | zero => exact fun _ _ _ _ => Course.exhausted _
  | succ rounds ih =>
    intro fight defender fights inLine
    have fought := inLine.fought
    simp only [fightEvents]
    split
    · exact Course.exhausted _
    · simp only [roundEvents, fightRound, fights, List.singleton_append, fightEvent, fightDefender]
      generalize fightPhase rules.toWarRules (meet rules.toWarRules fight.battle defender) defender = battle at fought ⊢
      by_cases attacker : (continueWar battle .attacker).canContinue
      · by_cases stands : (continueWar battle defender).canContinue
        · -- Both go on, and the line waits.
          simp only [attacker, stands, not_true_eq_false, if_false]
          exact Course.fought (ih { fight with battle, defender := some defender, logWritten := false } defender rfl fought)
        · have stopped := Bool.not_eq_true _ ▸ stands
          simp only [attacker, stopped, not_true_eq_false, if_false, Bool.false_eq_true, not_false_eq_true, if_true]
          apply Course.beaten
          -- A wall in the line is not under siege.
          have unsieged : ¬ (defender = .wall ∧ battle.onSiege = true) := by simp [fought.unsieged]
          have left := fought.leave
          rcases switchDefender_unsieged rules.toWarRules
            { fight with defender := some defender, logWritten := false } unsieged with
            ⟨last, ended, -⟩ | goesOn
          · rw [ended]
            exact Course.exhausted _
          · rw [goesOn]
            simp only [Round.eventsAfter, followingFight]
            cases line : fight.line with
            | nil => exact city_course rules.toWarRules input rounds rfl
            | cons following rest =>
              rw [line] at left
              simp only [getNextDefender, if_neg (not_le.mpr (left.order List.mem_cons_self))]
              exact ih { fight with
                battle := leaveField rules.toWarRules battle defender, defender := some following, line := rest
                logWritten := true } following rfl left.takeField
      · have repelled := Bool.not_eq_true _ ▸ attacker
        simp only [repelled, Bool.false_eq_true, not_false_eq_true, if_true, Round.eventsAfter]
        exact Course.repelled _ _ _

theorem mem_defenderLine (rules : WarRules ρ) (battle : Battle ρ) (count : Nat) (id : UnitId) :
    id ∈ defenderLine rules battle count ↔ id ∈ readyDefenders rules battle count ∨
      id = .wall ∧ readyDefenders rules battle count ≠ [] ∧ 0 < computeBattleOrder rules battle .wall := by
  simp only [defenderLine]
  rw [(List.perm_insertionSort _ _).mem_iff]
  split
  · rename_i takesPart
    simp [takesPart]
  · rename_i staysOut
    constructor
    · exact .inl
    · rintro (ready | ⟨-, takesPart⟩)
      · exact ready
      · exact absurd takesPart staysOut

theorem start_waiting (rules : DuelRules ρ) (input : WarBattleInput ρ) : Waiting rules input.start
    (defenderLine rules.toWarRules input.start input.defenders.length) input.start := by
  obtain ⟨once, noAttacker⟩ := defenderLine_once rules.toWarRules input.start input.defenders.length
  refine ⟨once, noAttacker, ?_, ?_, fun _ _ => rfl, rfl, rfl⟩
  · intro id among
    rcases (mem_defenderLine ..).mp among with general | ⟨rfl, -, takesPart⟩
    · simpa using (List.mem_filter.mp general).2
    · exact takesPart
  · intro id _
    cases id <;> exact ⟨rfl, rfl⟩

theorem battle_course (rules : DuelRules ρ) (input : WarBattleInput ρ) (rounds : Nat) :
    Course (defenderLine rules.toWarRules input.start input.defenders.length)
      (battleEvents rules.toWarRules input rounds) := by
  have waits := start_waiting rules input
  simp only [battleEvents, openFight]
  generalize defenderLine rules.toWarRules input.start input.defenders.length = line at waits
  cases line with
  | nil => exact city_course rules.toWarRules input rounds rfl
  | cons first rest =>
    simp only [getNextDefender, if_neg (not_le.mpr (waits.order List.mem_cons_self))]
    exact line_course rules input rounds
      { battle := input.start, defender := some first, line := rest, conquerCity := false, logWritten := false } first rfl
      waits.takeField

/-! ### Who takes the city -/

theorem continueWar_attacker {battle after : Battle ρ} (troops : after.ledgers .attacker = battle.ledgers .attacker)
    (rice : after.rices .attacker = battle.rices .attacker) :
    continueWar after .attacker = continueWar battle .attacker := by
  have hp : after.getHP .attacker = battle.getHP .attacker := congrArg Ledger.hp troops
  have rice : (after.generals .attacker).rice = (battle.generals .attacker).rice := rice
  have general : UnitId.attacker.isGeneral = true := rfl
  simp only [continueWar, if_pos general, hp, rice]

theorem leaveField_attacker (rules : WarRules ρ) (battle : Battle ρ) {defender : UnitId} (other : defender ≠ .attacker) :
    continueWar (leaveField rules battle defender) .attacker = continueWar battle .attacker := by
  have finished (battle : Battle ρ) : continueWar (finishBattle rules battle defender) .attacker =
      continueWar battle .attacker := by
    have same := finishBattle_side rules battle (Ne.symm other)
    have general : (finishBattle rules battle defender).generals .attacker = battle.generals .attacker := by
      simpa [side, UnitId.isGeneral] using congrArg WarSide.general same
    have books : (finishBattle rules battle defender).books .attacker = battle.books .attacker :=
      congrArg WarSide.books same
    apply continueWar_attacker
    · simp only [ledgers, books]
    · simp only [rices, general]
  simp only [leaveField]
  rw [finished]
  apply continueWar_attacker
  · split
    · rw [setOppose_ledgers, defenderStops_ledgers]
    · rw [defenderStops_ledgers]
  · split
    · rw [setOppose_rices, defenderStops_rices]
    · rw [defenderStops_rices]

theorem defenderStops_attacker (rules : WarRules ρ) (battle : Battle ρ) (defender : UnitId) :
    continueWar (defenderStops rules battle defender) .attacker = continueWar battle .attacker :=
  continueWar_attacker (by rw [defenderStops_ledgers]) (by rw [defenderStops_rices])

theorem supplyRetreat_attacker (rules : WarRules ρ) (battle : Battle ρ) :
    continueWar (supplyRetreat rules battle.setSiege) .attacker = continueWar battle .attacker := by
  apply continueWar_attacker
  · rw [supplyRetreat_ledgers, setSiege_ledgers, Function.update_of_ne (by decide)]
  · rw [supplyRetreat_rices]
    rfl

/-- A fight against others than the attacker, who has not taken the city. -/
structure Fight.Undecided (fight : Fight ρ) : Prop where
  untaken : fight.conquerCity = false
  defending : fight.defender ≠ some .attacker
  noAttacker : UnitId.attacker ∉ fight.line

/-- What a round leads to: the fall of a besieged wall, or a battle that an able attacker goes on with. -/
def Round.Fair (sieged : Bool) (event : BattleEvent) : Round ρ → Prop
  | .ended last => last.conquerCity = true →
    event = .phase .wall true false ∧ sieged = true ∧ (continueWar last.battle .attacker).canContinue = true
  | .next fight => fight.Undecided ∧ fight.battle.onSiege = sieged ∧
    (continueWar fight.battle .attacker).canContinue = true

theorem getNextDefender_defending (rules : WarRules ρ) (battle : Battle ρ) {line : List UnitId}
    (noAttacker : UnitId.attacker ∉ line) : (getNextDefender rules battle line).1 ≠ some .attacker ∧
      UnitId.attacker ∉ (getNextDefender rules battle line).2 := by
  cases line with
  | nil => exact ⟨by simp [getNextDefender], noAttacker⟩
  | cons candidate rest =>
    obtain ⟨notFirst, notLater⟩ := not_or.mp (List.mem_cons.not.mp noAttacker)
    simp only [getNextDefender]
    split
    · exact ⟨by simp, notLater⟩
    · exact ⟨fun same => notFirst (Option.some.inj same).symm, notLater⟩

theorem fightDefender_fair (rules : WarRules ρ) {fight : Fight ρ} (battle : Battle ρ) {defender : UnitId}
    (undecided : fight.Undecided) (other : defender ≠ .attacker) :
    (fightDefender rules fight battle defender).Fair battle.onSiege (fightEvent rules battle defender) := by
  have siege : (fightPhase rules (meet rules battle defender) defender).onSiege = battle.onSiege := by
    rw [fightPhase_onSiege, meet_onSiege]
  simp only [fightEvent, fightDefender]
  generalize fightPhase rules (meet rules battle defender) defender = fought at siege ⊢
  by_cases attacker : (continueWar fought .attacker).canContinue
  · by_cases stands : (continueWar fought defender).canContinue
    · simp only [attacker, stands, not_true_eq_false, if_false]
      exact ⟨⟨undecided.untaken, fun same => other (Option.some.inj same), undecided.noAttacker⟩, siege, attacker⟩
    · have stopped := Bool.not_eq_true _ ▸ stands
      simp only [attacker, stopped, not_true_eq_false, if_false, Bool.false_eq_true, not_false_eq_true, if_true]
      by_cases sieged : defender = .wall ∧ fought.onSiege = true
      · -- The wall has fallen: what the attacker is rewarded with costs it nothing.
        obtain ⟨rfl, onSiege⟩ := sieged
        simp only [switchDefender, onSiege, and_self, if_true]
        intro _
        refine ⟨rfl, siege ▸ onSiege, ?_⟩
        have rewarded : continueWar (addLevelExp rules (defenderStops rules fought .wall) .attacker 1000) .attacker =
            continueWar (defenderStops rules fought .wall) .attacker :=
          continueWar_attacker (congrFun (ledgers_congr (addLevelExp_books ..)) _) (congrFun (addLevelExp_rices ..) _)
        rw [rewarded, defenderStops_attacker, attacker]
      · rcases switchDefender_unsieged rules { fight with logWritten := false } sieged with
          ⟨last, ended, kept⟩ | goesOn
        · rw [ended]
          intro taken
          rw [kept] at taken
          exact absurd (undecided.untaken.symm.trans taken) (by decide)
        · rw [goesOn]
          obtain ⟨defending, noAttacker⟩ :=
            getNextDefender_defending rules (leaveField rules fought defender) undecided.noAttacker
          refine ⟨⟨undecided.untaken, defending, noAttacker⟩, ?_, ?_⟩
          · exact (leaveField_onSiege ..).trans siege
          · have able := leaveField_attacker rules fought other
            exact (congrArg WarContinuation.canContinue able).trans attacker
  · have repelled := Bool.not_eq_true _ ▸ attacker
    simp only [repelled, Bool.false_eq_true, not_false_eq_true, if_true]
    intro taken
    exact absurd (undecided.untaken.symm.trans taken) (by decide)

/-- The events that take a city: its garrison surrenders, or its wall falls under a siege that had begun. -/
def TakesCity (sieged : Bool) (events : List BattleEvent) : Prop :=
  (∃ before, events = before ++ [.besieged, .surrendered]) ∨
    ∃ before, events = before ++ [.phase .wall true false] ∧ (sieged = true ∨ .besieged ∈ before)

theorem TakesCity.cons {sieged : Bool} {events : List BattleEvent} (taken : TakesCity sieged events)
    (event : BattleEvent) : TakesCity sieged (event :: events) := by
  rcases taken with ⟨before, surrendered⟩ | ⟨before, fallen, siege⟩
  · exact .inl ⟨event :: before, by rw [surrendered]; rfl⟩
  · exact .inr ⟨event :: before, by rw [fallen]; rfl, siege.imp_right (List.mem_cons_of_mem _)⟩

theorem TakesCity.ofSiege {sieged : Bool} {events : List BattleEvent} (taken : TakesCity true events) :
    TakesCity sieged (.besieged :: events) := by
  rcases taken with ⟨before, surrendered⟩ | ⟨before, fallen, -⟩
  · exact .inl ⟨.besieged :: before, by rw [surrendered]; rfl⟩
  · exact .inr ⟨.besieged :: before, by rw [fallen]; rfl, .inr List.mem_cons_self⟩

theorem fightRounds_taken (rules : WarRules ρ) (input : WarBattleInput ρ) (rounds : Nat) :
    ∀ fight last : Fight ρ, fight.Undecided → fightRounds rules input rounds fight = some last →
      last.conquerCity = true → TakesCity fight.battle.onSiege (fightEvents rules input rounds fight) ∧
        ((continueWar last.battle .attacker).canContinue = true ∨
          (continueWar fight.battle .attacker).canContinue = false ∧
            fightEvents rules input rounds fight = [.besieged, .surrendered]) := by
  induction rounds with
  | zero =>
    intro fight last _ ran
    cases ran
  | succ rounds ih =>
    intro fight last undecided ran taken
    -- A fight with somebody, in a battle that may just have been besieged.
    have fights (battle : Battle ρ) (defender : UnitId) (other : defender ≠ .attacker)
        (ran : (match fightDefender rules fight battle defender with
          | .ended fight => some fight
          | .next fight => fightRounds rules input rounds fight) = some last) :
        TakesCity battle.onSiege (fightEvent rules battle defender ::
          (fightDefender rules fight battle defender).eventsAfter (fightEvents rules input rounds)) ∧
          (continueWar last.battle .attacker).canContinue = true := by
      have fair := fightDefender_fair rules battle undecided other
      generalize fightDefender rules fight battle defender = round at fair ran ⊢
      cases round with
      | ended after =>
        cases ran
        obtain ⟨event, sieged, able⟩ := fair taken
        refine ⟨.inr ⟨[], ?_, .inl sieged⟩, able⟩
        rw [event]
        rfl
      | next after =>
        obtain ⟨stillOpen, siege, able⟩ := fair
        obtain ⟨takes, attacker⟩ := ih after last stillOpen ran taken
        refine ⟨TakesCity.cons (siege ▸ takes) _, attacker.resolve_right fun unable => ?_⟩
        exact absurd (able.symm.trans unable.1) (by decide)
    simp only [fightRounds, fightEvents] at ran ⊢
    by_cases exhausted : getMaxPhase rules fight.battle .attacker ≤ (fight.battle.units .attacker).currPhase
    · rw [if_pos exhausted] at ran
      cases ran
      exact absurd (undecided.untaken.symm.trans taken) (by decide)
    · rw [if_neg exhausted] at ran ⊢
      cases who : fight.defender with
      | some defender =>
        simp only [roundEvents, fightRound, who] at ran ⊢
        obtain ⟨takes, able⟩ := fights fight.battle defender (fun same => undecided.defending (same ▸ who)) ran
        exact ⟨takes, .inl able⟩
      | none =>
        simp only [roundEvents, fightRound, who] at ran ⊢
        by_cases starved : isSupplyCity input.defenderCity ∧ input.defenderRice.getD 10000 ≤ 0
        · rw [if_pos starved] at ran ⊢
          rw [if_pos starved]
          cases ran
          refine ⟨.inl ⟨[], rfl⟩, ?_⟩
          have able := supplyRetreat_attacker rules fight.battle
          cases attacker : (continueWar fight.battle .attacker).canContinue with
          | true => exact .inl ((congrArg WarContinuation.canContinue able).trans attacker)
          | false => exact .inr ⟨rfl, rfl⟩
        · rw [if_neg starved] at ran ⊢
          rw [if_neg starved]
          obtain ⟨takes, able⟩ := fights fight.battle.setSiege .wall (by decide) ran
          exact ⟨TakesCity.ofSiege takes, .inl able⟩

end Battle

/-! ### The order of a siege -/

namespace Battle

variable {ρ : Type} (rules : WarRules ρ) (input : WarBattleInput ρ)

/-- The generals who are ready to defend the city, in the order in which they are to be fought. -/
def defendingGenerals : List UnitId :=
  (defenderLine rules input.start input.defenders.length).filter UnitId.isGeneral

/-- How the defence of a city is fought, in the rounds of a battle. -/
structure SiegeOrder (rounds : Nat) : Prop where
  everybody : ∀ id, id ∈ defendingGenerals rules input ↔
    ∃ index < input.defenders.length, id = .defender index ∧ 0 < computeBattleOrder rules input.start id
  once : (defendingGenerals rules input).Nodup
  inOrder : (defendingGenerals rules input).Pairwise fun earlier later =>
    computeBattleOrder rules input.start later ≤ computeBattleOrder rules input.start earlier
  /-- Each general is fought for some phases in a stretch, and the stretches follow the order. -/
  stretches : ∃ stretches : List (UnitId × Nat),
    stretches.map Prod.fst <+: defendingGenerals rules input ∧ (∀ stretch ∈ stretches, 0 < stretch.2) ∧
      foughtGenerals (battleEvents rules input rounds) =
        stretches.flatMap fun stretch => List.replicate stretch.2 stretch.1
  besieged : ∀ before after, battleEvents rules input rounds = before ++ .besieged :: after →
    ∀ id ∈ defendingGenerals rules input, Beaten before id
  surrendered : ∀ before after, battleEvents rules input rounds = before ++ .surrendered :: after →
    ∀ id ∈ defendingGenerals rules input, Beaten before id
  /-- The city is taken by the end of its siege, for an attacker who can go on unless it never fought. -/
  conquered : ∀ outcome, resolveWarBattle rules input rounds = some outcome → outcome.conquered = true →
    ∃ last, fightRounds rules input rounds (openFight rules input) = some last ∧ outcome = closeFight rules input last ∧
      ((∃ before, battleEvents rules input rounds = before ++ [.besieged, .surrendered]) ∨
        ∃ before siege, battleEvents rules input rounds =
          before ++ .besieged :: siege ++ [.phase .wall true false]) ∧
      ((continueWar last.battle .attacker).canContinue = true ∨
        battleEvents rules input rounds = [.besieged, .surrendered])

theorem mem_defendingGenerals (id : UnitId) : id ∈ defendingGenerals rules input ↔
    ∃ index < input.defenders.length, id = .defender index ∧ 0 < computeBattleOrder rules input.start id := by
  simp only [defendingGenerals, List.mem_filter, mem_defenderLine, readyDefenders, List.mem_map, List.mem_range,
    decide_eq_true_eq]
  constructor
  · rintro ⟨⟨⟨index, within, rfl⟩, ready⟩ | ⟨rfl, -⟩, general⟩
    · exact ⟨index, within, rfl, ready⟩
    · cases general
  · rintro ⟨index, within, rfl, ready⟩
    exact ⟨.inl ⟨⟨index, within, rfl⟩, ready⟩, rfl⟩

theorem defenderLine_inOrder (battle : Battle ρ) (count : Nat) :
    (defenderLine rules battle count).Pairwise fun earlier later =>
      computeBattleOrder rules battle later ≤ computeBattleOrder rules battle earlier := by
  have total : Std.Total fun left right : UnitId =>
      computeBattleOrder rules battle right ≤ computeBattleOrder rules battle left :=
    ⟨fun left right => le_total _ _⟩
  have transitive : IsTrans UnitId fun left right =>
      computeBattleOrder rules battle right ≤ computeBattleOrder rules battle left :=
    ⟨fun first second third above below => below.trans above⟩
  exact List.pairwise_insertionSort _ _

end Battle

/-- Every battle whose triggers reach no further than their fight besieges the city last. -/
theorem siege_comes_last {ρ : Type} (rules : DuelRules ρ) (input : WarBattleInput ρ) (rounds : Nat) :
    Battle.SiegeOrder rules.toWarRules input rounds := by
  have course := Battle.battle_course rules input rounds
  obtain ⟨once, noAttacker⟩ := defenderLine_once rules.toWarRules input.start input.defenders.length
  have inLine {id : UnitId} (general : id ∈ Battle.defendingGenerals rules.toWarRules input) :=
    List.mem_filter.mp general
  refine ⟨Battle.mem_defendingGenerals _ input, once.filter _,
    (Battle.defenderLine_inOrder rules.toWarRules input.start _).filter _, course.stretches,
    fun before after split id general => course.beaten_before once (inLine general) split,
    fun before after split id general => course.beaten_before_surrender once (inLine general) split, ?_⟩
  intro outcome fought taken
  obtain ⟨last, ran, rfl⟩ := Option.map_eq_some_iff.mp fought
  obtain ⟨defending, nobody⟩ := Battle.getNextDefender_defending rules.toWarRules input.start noAttacker
  obtain ⟨takes, able⟩ := Battle.fightRounds_taken rules.toWarRules input rounds _ last ⟨rfl, defending, nobody⟩ ran taken
  refine ⟨last, ran, rfl, takes.imp_right ?_, able.imp_right And.right⟩
  rintro ⟨before, fallen, siege⟩
  -- Nothing is besieged before the first round.
  have begun : .besieged ∈ before := siege.resolve_left Bool.false_ne_true
  obtain ⟨earlier, stretch, rfl⟩ := List.append_of_mem begun
  exact ⟨earlier, stretch, fallen⟩

/-- Rules with even dice and no triggers, where one crew type attacks the wall first. -/
def wallFirstRules : DuelRules Unit :=
  { config := plainRules.config
    nextRange := plainRules.nextRange
    nextRangeInt := plainRules.nextRangeInt
    nextBool := plainRules.nextBool
    pow := plainRules.pow
    onCalcStat := fun _ _ _ value => value
    onCalcOpposeStat := fun _ _ _ value => value
    cityBattleOrder := fun crewType value => if crewType.id = 1504 then 10000 else value
    getWarPowerMultiplier := fun _ _ => (1, 1)
    battleInitTriggers := id
    battlePhaseTriggers := id }

/-- An attack by a crew type that takes on the wall first. -/
def wallFirstAttack : WarBattleInput Unit :=
  { attackOn [trainedGeneral 2 5000, trainedGeneral 3 5000] 1000 with
    attacker := { trainedGeneral 1 5000 with crewType := { footmen with id := 1504 } } }

/-- An attack without troops on a city without defenders or rice. -/
def attackOnStarvedCity : WarBattleInput Unit :=
  { attackOn [] 1000 with attacker := trainedGeneral 1 0, defenderRice := some 0 }

/--
A wall that took part in the line is put under siege when the books are closed, while a general has not been fought.

A starved city is taken by an attacker without troops, who could not have gone on.
-/
theorem siege_before_the_line :
    (∃ outcome, Battle.resolveWarBattle wallFirstRules.toWarRules wallFirstAttack 10 = some outcome ∧
      outcome.battle.onSiege = true ∧
      .defender 1 ∈ Battle.defendingGenerals wallFirstRules.toWarRules wallFirstAttack ∧
      ¬ Beaten (Battle.battleEvents wallFirstRules.toWarRules wallFirstAttack 10) (.defender 1)) ∧
    ∃ outcome, Battle.resolveWarBattle wallFirstRules.toWarRules attackOnStarvedCity 10 = some outcome ∧
      outcome.conquered = true ∧ (Battle.continueWar outcome.battle .attacker).canContinue = false := by
  have besieged : (Battle.resolveWarBattle wallFirstRules.toWarRules wallFirstAttack 10).map
      (fun outcome => outcome.battle.onSiege) = some true := by decide +kernel
  have ready : .defender 1 ∈ Battle.defendingGenerals wallFirstRules.toWarRules wallFirstAttack := by decide +kernel
  have unfought : ∀ attackerStands defenderStands, .phase (.defender 1) attackerStands defenderStands ∉
      Battle.battleEvents wallFirstRules.toWarRules wallFirstAttack 10 := by decide +kernel
  have starved : (Battle.resolveWarBattle wallFirstRules.toWarRules attackOnStarvedCity 10).map (fun outcome =>
      (outcome.conquered, (Battle.continueWar outcome.battle .attacker).canContinue)) = some (true, false) := by
    decide +kernel
  obtain ⟨outcome, ended, sieged⟩ := Option.map_eq_some_iff.mp besieged
  obtain ⟨taken, ran, able⟩ := Option.map_eq_some_iff.mp starved
  refine ⟨⟨outcome, ended, sieged, ready, ?_⟩, taken, ran, congrArg Prod.fst able, congrArg Prod.snd able⟩
  rintro ⟨early, late, told, -⟩
  exact unfought true false (by rw [told]; simp)

end Sammo.War
