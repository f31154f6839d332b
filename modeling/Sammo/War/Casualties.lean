import Sammo.Lib.DoubleEntry
import Sammo.War.Battle

/-! The casualties of a battle add up: what one side loses the other has killed, and the counters take it once. -/

namespace Sammo.War

namespace Battle

variable {ρ : Type} (rules : WarRules ρ) (battle : Battle ρ) (id : UnitId)

section Frames

@[simp] theorem setUnit_books (change : WarUnit → WarUnit) : (battle.setUnit id change).books = battle.books := rfl

@[simp] theorem setGeneral_books (change : WarGeneral → WarGeneral) :
    (battle.setGeneral id change).books = battle.books := rfl

@[simp] theorem setConduct_books (conduct : Conduct ρ) : (battle.setConduct conduct).books = battle.books := rfl

@[simp] theorem clearActivatedSkill_books : (battle.clearActivatedSkill id).books = battle.books := rfl

@[simp] theorem addTrain_books (train : ℚ) : (addTrain rules battle id train).books = battle.books := by
  unfold addTrain
  split <;> rfl

@[simp] theorem addStatExp_books (value : ℚ) : (addStatExp rules battle id value).books = battle.books := rfl

@[simp] theorem addWin_books : (addWin rules battle id).books = battle.books := by
  unfold addWin
  split <;> rfl

@[simp] theorem addLose_books : (addLose rules battle id).books = battle.books := by
  unfold addLose
  split <;> rfl

@[simp] theorem addLevelExp_books (value : ℚ) : (addLevelExp rules battle id value).books = battle.books := rfl

@[simp] theorem addDex_books (crewType : WarCrewType) (exp : ℚ) :
    (addDex rules battle id crewType exp).books = battle.books := rfl

@[simp] theorem learnFromKilled_books (damage : ℚ) : (learnFromKilled rules battle id damage).books = battle.books := by
  unfold learnFromKilled
  split <;> rfl

@[simp] theorem learnFromLoss_books (applied : ℚ) : (learnFromLoss rules battle id applied).books = battle.books := by
  unfold learnFromLoss
  split
  · split <;> rfl
  · rfl

@[simp] theorem tryWound_books : (tryWound rules battle id).books = battle.books := by
  unfold tryWound
  split
  · rfl
  split
  · rfl
  split
  · rfl
  dsimp only
  split <;> rfl

@[simp] theorem heavyDecreaseWealth_books : battle.heavyDecreaseWealth.books = battle.books := rfl

@[simp] theorem addPhase_books : (battle.addPhase id).books = battle.books := rfl

@[simp] theorem computeWarPower_books : (computeWarPower rules battle id).books = battle.books := by
  unfold computeWarPower
  split
  · rfl
  dsimp only
  split <;> rfl

@[simp] theorem beginPhase_books : (beginPhase rules battle id).books = battle.books := by
  unfold beginPhase
  simp

@[simp] theorem calcDamage_books : (calcDamage rules battle id).2.books = battle.books := rfl

@[simp] theorem setBooks_books (change : WarBooks → WarBooks) :
    (battle.setBooks id change).books = Function.update battle.books id (change (battle.books id)) := rfl

end Frames

end Battle

/-- A whole number of troops. -/
def IsWhole (value : ℚ) : Prop := ∃ whole : Int, value = whole

variable {left right : ℚ}

theorem IsWhole.min (leftWhole : IsWhole left) (rightWhole : IsWhole right) : IsWhole (min left right) := by
  rcases min_choice left right with smaller | smaller
  · rw [smaller]
    exact leftWhole
  · rw [smaller]
    exact rightWhole

theorem IsWhole.add (leftWhole : IsWhole left) (rightWhole : IsWhole right) : IsWhole (left + right) := by
  obtain ⟨first, rfl⟩ := leftWhole
  obtain ⟨second, rfl⟩ := rightWhole
  exact ⟨first + second, by push_cast; rfl⟩

theorem IsWhole.sub (leftWhole : IsWhole left) (rightWhole : IsWhole right) : IsWhole (left - right) := by
  obtain ⟨first, rfl⟩ := leftWhole
  obtain ⟨second, rfl⟩ := rightWhole
  exact ⟨first - second, by push_cast; rfl⟩

/-- What the accounting of a battle is about: the books without the counters of single fights and of persons. -/
structure Ledger where
  hp : ℚ
  killed : ℚ
  dead : ℚ
  isFinished : Bool
  killcrew : ℚ
  deathcrew : ℚ
  deriving DecidableEq

/-- The ledger of a unit's books. -/
def WarBooks.ledger (books : WarBooks) : Ledger :=
  ⟨books.hp, books.killed, books.dead, books.isFinished, books.killcrew, books.deathcrew⟩

namespace Ledger

/-- What a unit holds, has killed and has lost. -/
def account (ledger : Ledger) : Account ℚ := ⟨ledger.hp, ledger.killed, ledger.dead⟩

/-- The ledger after a phase. -/
def strike (ledger : Ledger) (kills losses : ℚ) : Ledger :=
  { ledger with hp := ledger.hp - losses, killed := ledger.killed + kills, dead := ledger.dead + losses }

/-- The ledger of a general whose battles are over. -/
def close (ledger : Ledger) : Ledger :=
  { ledger with
    isFinished := true
    killcrew := increaseMetaNumber ledger.killcrew ledger.killed
    deathcrew := increaseMetaNumber ledger.deathcrew ledger.dead }

@[simp] theorem strike_account (ledger : Ledger) (kills losses : ℚ) :
    (ledger.strike kills losses).account = ledger.account.after kills losses := rfl

@[simp] theorem close_account (ledger : Ledger) : ledger.close.account = ledger.account := rfl

end Ledger

namespace Battle

variable {ρ : Type} (rules : WarRules ρ) (battle : Battle ρ) (id : UnitId)

/-- The ledgers of all units. -/
def ledgers (battle : Battle ρ) (id : UnitId) : Ledger := (battle.books id).ledger

theorem ledgers_congr {battle other : Battle ρ} (same : battle.books = other.books) :
    battle.ledgers = other.ledgers := by
  funext id
  simp only [ledgers, same]

theorem setBooks_ledgers (change : WarBooks → WarBooks) :
    (battle.setBooks id change).ledgers = Function.update battle.ledgers id (change (battle.books id)).ledger := by
  funext other
  by_cases same : other = id
  · subst other
    simp only [ledgers, setBooks_books, Function.update_self]
  · simp only [ledgers, setBooks_books, Function.update_of_ne same]

@[simp] theorem setOppose_ledgers (oppose : Option UnitId) : (battle.setOppose id oppose).ledgers = battle.ledgers := by
  have booked : (battle.setOppose id oppose).books =
      Function.update battle.books id { battle.books id with killedCurr := 0, deadCurr := 0 } := by
    unfold setOppose
    dsimp only
    split <;> rfl
  funext other
  by_cases same : other = id
  · subst other
    simp only [ledgers, booked, Function.update_self, WarBooks.ledger]
  · simp only [ledgers, booked, Function.update_of_ne same]

@[simp] theorem face_ledgers (defender : UnitId) : (battle.face defender).ledgers = battle.ledgers := by
  unfold face
  rw [setOppose_ledgers, setOppose_ledgers]

@[simp] theorem meet_ledgers (defender : UnitId) : (meet rules battle defender).ledgers = battle.ledgers := by
  unfold meet
  split
  · dsimp only
    rw [ledgers_congr (setConduct_books _ _), face_ledgers, ledgers_congr (addTrain_books ..),
      ledgers_congr (addTrain_books ..), ledgers_congr (setUnit_books ..)]
  · rfl

theorem setSiege_ledgers : battle.setSiege.ledgers =
    Function.update battle.ledgers .wall { battle.ledgers .wall with isFinished := false } :=
  setBooks_ledgers (battle.setUnit .wall fun unit => { unit with currPhase := 0, prePhase := 0, bonusPhase := 0 }) .wall
    fun books => { books with isFinished := false }

theorem finishBattle_ledgers (general : id.isGeneral) : (finishBattle rules battle id).ledgers =
    Function.update battle.ledgers id (if (battle.ledgers id).isFinished then battle.ledgers id
      else (battle.ledgers id).close) := by
  unfold finishBattle
  rw [if_pos general]
  by_cases finished : (battle.books id).isFinished = true
  · have closed : (battle.ledgers id).isFinished = true := finished
    rw [if_pos finished, if_pos closed, Function.update_eq_self]
  · have opened : ¬ (battle.ledgers id).isFinished = true := finished
    rw [if_neg finished, if_neg opened, ledgers_congr (setGeneral_books ..), setBooks_ledgers]
    rfl

theorem finishBattle_wall_ledgers : (finishBattle rules battle .wall).ledgers =
    Function.update battle.ledgers .wall { battle.ledgers .wall with isFinished := true } :=
  setBooks_ledgers (battle.clearActivatedSkill .wall) .wall fun books => { books with isFinished := true }

theorem decreaseHP_ledgers (damage : ℚ) : (decreaseHP rules battle id damage).ledgers =
    Function.update battle.ledgers id ((battle.ledgers id).strike 0 (min damage (battle.ledgers id).hp)) := by
  unfold decreaseHP
  dsimp only
  rw [ledgers_congr (learnFromLoss_books ..), setBooks_ledgers]
  congr 1
  simp only [WarBooks.ledger, Ledger.strike, ledgers, getHP, add_zero]

theorem increaseKilled_ledgers (damage : ℚ) : (increaseKilled rules battle id damage).ledgers =
    Function.update battle.ledgers id ((battle.ledgers id).strike damage 0) := by
  unfold increaseKilled
  dsimp only
  rw [setBooks_ledgers, ledgers_congr (learnFromKilled_books ..)]
  congr 1
  simp only [WarBooks.ledger, Ledger.strike, ledgers, learnFromKilled_books, add_zero, sub_zero]

/-- The two ledgers of a phase: each side's losses are the other's kills. -/
def struck (ledgers : UnitId → Ledger) (defender : UnitId) (deadAttacker deadDefender : ℚ) : UnitId → Ledger :=
  Function.update (Function.update ledgers .attacker ((ledgers .attacker).strike deadDefender deadAttacker)) defender
    ((ledgers defender).strike deadAttacker deadDefender)

theorem exchangeBlows_ledgers {defender : UnitId} (other : defender ≠ .attacker) {deadAttacker deadDefender : ℚ}
    (attackerHas : deadAttacker ≤ (battle.ledgers .attacker).hp)
    (defenderHas : deadDefender ≤ (battle.ledgers defender).hp) :
    (exchangeBlows rules battle defender deadAttacker deadDefender).ledgers =
      struck battle.ledgers defender deadAttacker deadDefender := by
  unfold exchangeBlows struck
  dsimp only
  rw [increaseKilled_ledgers, increaseKilled_ledgers, decreaseHP_ledgers, decreaseHP_ledgers]
  have apart : UnitId.attacker ≠ defender := other.symm
  funext unit
  by_cases isDefender : unit = defender
  · subst unit
    simp [Function.update_of_ne other, Ledger.strike, min_eq_left defenderHas]
  by_cases isAttacker : unit = .attacker
  · subst unit
    simp [Function.update_of_ne apart, Ledger.strike, min_eq_left attackerHas]
  · simp only [Function.update_of_ne isDefender, Function.update_of_ne isAttacker]

/-- The losses of a phase: no side loses more than it has, and whole troops fall in whole numbers. -/
structure Losses (ledgers : UnitId → Ledger) (defender : UnitId) (deadAttacker deadDefender : ℚ) : Prop where
  attackerHas : deadAttacker ≤ (ledgers .attacker).hp
  defenderHas : deadDefender ≤ (ledgers defender).hp
  attackerWhole : IsWhole (ledgers .attacker).hp → IsWhole deadAttacker
  defenderWhole : IsWhole (ledgers defender).hp → IsWhole deadDefender

/-- The raw damages of a phase, the attacker's first, as they are rolled after its triggers. -/
def rawDamage (defender : UnitId) : ℚ × ℚ :=
  let begun := beginPhase rules (beginPhase rules battle .attacker) defender
  let triggered := begun.setConduct (rules.battlePhaseTriggers begun defender)
  let byAttacker := calcDamage rules triggered .attacker
  ((calcDamage rules byAttacker.2 defender).1, byAttacker.1)

/-- The losses of a phase: the raw damages, as far as both sides have the strength for them. -/
def phaseLosses (defender : UnitId) : ℚ × ℚ :=
  let raw := rawDamage rules battle defender
  appliedDamage raw.1 raw.2 (battle.getHP .attacker) (battle.getHP defender)

theorem fightPhase_struck {defender : UnitId} (other : defender ≠ .attacker) :
    (fightPhase rules battle defender).ledgers = struck battle.ledgers defender
      (phaseLosses rules battle defender).1 (phaseLosses rules battle defender).2 := by
  unfold fightPhase phaseLosses rawDamage
  dsimp only
  -- Up to the roll of the damages nothing is booked.
  generalize begins : beginPhase rules (beginPhase rules battle .attacker) defender = begun
  generalize triggers : begun.setConduct (rules.battlePhaseTriggers begun defender) = triggered
  generalize rollsFirst : calcDamage rules triggered .attacker = byAttacker
  generalize rollsSecond : calcDamage rules byAttacker.2 defender = byDefender
  have unbooked : byDefender.2.ledgers = battle.ledgers := by
    apply ledgers_congr
    rw [← rollsSecond, calcDamage_books, ← rollsFirst, calcDamage_books, ← triggers, setConduct_books, ← begins,
      beginPhase_books, beginPhase_books]
  have kept (id : UnitId) : byDefender.2.getHP id = battle.getHP id := congrArg Ledger.hp (congrFun unbooked id)
  rw [kept, kept, ledgers_congr (addPhase_books ..), ledgers_congr (addPhase_books ..), exchangeBlows_ledgers,
    unbooked]
  · exact other
  · rw [unbooked]
    exact min_le_right _ _
  · rw [unbooked]
    exact min_le_right _ _

theorem fightPhase_ledgers {defender : UnitId} (other : defender ≠ .attacker) :
    ∃ deadAttacker deadDefender, Losses battle.ledgers defender deadAttacker deadDefender ∧
      (fightPhase rules battle defender).ledgers = struck battle.ledgers defender deadAttacker deadDefender := by
  have fair : Losses battle.ledgers defender (phaseLosses rules battle defender).1
      (phaseLosses rules battle defender).2 :=
    ⟨min_le_right _ _, min_le_right _ _, fun whole => IsWhole.min ⟨_, rfl⟩ whole,
      fun whole => IsWhole.min ⟨_, rfl⟩ whole⟩
  exact ⟨_, _, fair, fightPhase_struck rules battle other⟩

end Battle

open Battle

/-- A general's counters stay while its battles go on, and take what it has killed and lost once they are over. -/
def Ledger.CountedOnce (start now : Ledger) : Prop :=
  if now.isFinished then
    now.killcrew = increaseMetaNumber start.killcrew now.killed ∧
      now.deathcrew = increaseMetaNumber start.deathcrew now.dead
  else now.killcrew = start.killcrew ∧ now.deathcrew = start.deathcrew

/-- The ledger of a unit is in whole troops. -/
structure Ledger.InWholeTroops (ledger : Ledger) : Prop where
  hp : IsWhole ledger.hp
  killed : IsWhole ledger.killed
  dead : IsWhole ledger.dead

/-- The ledgers of a battle add up, against the ledgers it started with. -/
structure Standing (start : UnitId → Ledger) (opponents : Finset UnitId) (ledgers : UnitId → Ledger) : Prop where
  balanced : DoubleEntry.Balanced (fun id => (start id).account) (fun id => (ledgers id).account) .attacker opponents
  counted : ∀ id, id.isGeneral → (start id).CountedOnce (ledgers id)
  nonneg : ∀ id, 0 ≤ (start id).hp → 0 ≤ (ledgers id).hp
  whole : (∀ id, (start id).InWholeTroops) → ∀ id, (ledgers id).InWholeTroops

namespace Standing

variable {start ledgers : UnitId → Ledger} {opponents : Finset UnitId}

theorem update_account (standing : Standing start opponents ledgers) {id : UnitId} {ledger : Ledger}
    (account : ledger.account = (ledgers id).account) (counted : id.isGeneral → (start id).CountedOnce ledger) :
    Standing start opponents (Function.update ledgers id ledger) := by
  have hp : ledger.hp = (ledgers id).hp := congrArg Account.stock account
  have killed : ledger.killed = (ledgers id).killed := congrArg Account.taken account
  have dead : ledger.dead = (ledgers id).dead := congrArg Account.lost account
  have accounts : (fun unit => (Function.update ledgers id ledger unit).account) =
      fun unit => (ledgers unit).account := by
    funext unit
    by_cases same : unit = id
    · subst unit
      rw [Function.update_self, account]
    · rw [Function.update_of_ne same]
  refine ⟨?_, ?_, ?_, ?_⟩
  · rw [accounts]
    exact standing.balanced
  · intro unit general
    by_cases same : unit = id
    · subst unit
      rw [Function.update_self]
      exact counted general
    · rw [Function.update_of_ne same]
      exact standing.counted unit general
  · intro unit positive
    by_cases same : unit = id
    · subst unit
      rw [Function.update_self, hp]
      exact standing.nonneg _ positive
    · rw [Function.update_of_ne same]
      exact standing.nonneg unit positive
  · intro started unit
    by_cases same : unit = id
    · subst unit
      rw [Function.update_self]
      have before := standing.whole started id
      exact ⟨hp ▸ before.hp, killed ▸ before.killed, dead ▸ before.dead⟩
    · rw [Function.update_of_ne same]
      exact standing.whole started unit

theorem flag_wall (standing : Standing start opponents ledgers) (isFinished : Bool) :
    Standing start opponents (Function.update ledgers .wall { ledgers .wall with isFinished }) := by
  refine standing.update_account ?_ fun general => ?_
  · rfl
  · cases general

theorem close (standing : Standing start opponents ledgers) {id : UnitId} (general : id.isGeneral)
    (opened : (ledgers id).isFinished = false) :
    Standing start opponents (Function.update ledgers id (ledgers id).close) := by
  refine standing.update_account (Ledger.close_account _) fun _ => ?_
  have counted := standing.counted id general
  unfold Ledger.CountedOnce at counted
  rw [if_neg (by simp [opened])] at counted
  have closed : (ledgers id).close.isFinished = true := rfl
  unfold Ledger.CountedOnce
  rw [if_pos closed, ← counted.1, ← counted.2]
  exact ⟨rfl, rfl⟩

theorem struck_flags (ledgers : UnitId → Ledger) (defender : UnitId) (deadAttacker deadDefender : ℚ) (id : UnitId) :
    (struck ledgers defender deadAttacker deadDefender id).isFinished = (ledgers id).isFinished ∧
      (struck ledgers defender deadAttacker deadDefender id).killcrew = (ledgers id).killcrew ∧
      (struck ledgers defender deadAttacker deadDefender id).deathcrew = (ledgers id).deathcrew := by
  unfold struck
  by_cases isDefender : id = defender
  · subst id
    rw [Function.update_self]
    exact ⟨rfl, rfl, rfl⟩
  · rw [Function.update_of_ne isDefender]
    by_cases isAttacker : id = .attacker
    · subst id
      rw [Function.update_self]
      exact ⟨rfl, rfl, rfl⟩
    · rw [Function.update_of_ne isAttacker]
      exact ⟨rfl, rfl, rfl⟩

theorem struck_accounts {defender : UnitId} (other : defender ≠ .attacker) (deadAttacker deadDefender : ℚ) :
    (fun id => (struck ledgers defender deadAttacker deadDefender id).account) =
      DoubleEntry.exchange (fun id => (ledgers id).account) .attacker defender deadAttacker deadDefender := by
  have distinct : UnitId.attacker ≠ defender := other.symm
  funext id
  by_cases isDefender : id = defender
  · subst id
    rw [DoubleEntry.exchange_opponent]
    unfold struck
    rw [Function.update_self, Ledger.strike_account]
  by_cases isAttacker : id = .attacker
  · subst id
    rw [DoubleEntry.exchange_hub _ _ distinct]
    unfold struck
    rw [Function.update_of_ne distinct, Function.update_self, Ledger.strike_account]
  · rw [DoubleEntry.exchange_other _ _ isAttacker isDefender]
    unfold struck
    rw [Function.update_of_ne isDefender, Function.update_of_ne isAttacker]

variable {deadAttacker deadDefender : ℚ}

theorem struck_nonneg {defender : UnitId} (losses : Losses ledgers defender deadAttacker deadDefender)
    (id : UnitId) (before : 0 ≤ (ledgers id).hp) :
    0 ≤ (struck ledgers defender deadAttacker deadDefender id).hp := by
  unfold struck
  by_cases isDefender : id = defender
  · subst id
    rw [Function.update_self]
    exact sub_nonneg.mpr losses.defenderHas
  rw [Function.update_of_ne isDefender]
  by_cases isAttacker : id = .attacker
  · subst id
    rw [Function.update_self]
    exact sub_nonneg.mpr losses.attackerHas
  · rw [Function.update_of_ne isAttacker]
    exact before

theorem strike_whole {ledger : Ledger} (before : ledger.InWholeTroops) {kills losses : ℚ} (killsWhole : IsWhole kills)
    (lossesWhole : IsWhole losses) : (ledger.strike kills losses).InWholeTroops :=
  ⟨before.hp.sub lossesWhole, before.killed.add killsWhole, before.dead.add lossesWhole⟩

theorem struck_whole {defender : UnitId} (losses : Losses ledgers defender deadAttacker deadDefender)
    (before : ∀ id, (ledgers id).InWholeTroops) (id : UnitId) :
    (struck ledgers defender deadAttacker deadDefender id).InWholeTroops := by
  have attackerLoss := losses.attackerWhole (before .attacker).hp
  have defenderLoss := losses.defenderWhole (before defender).hp
  unfold struck
  by_cases isDefender : id = defender
  · subst id
    rw [Function.update_self]
    exact strike_whole (before _) attackerLoss defenderLoss
  rw [Function.update_of_ne isDefender]
  by_cases isAttacker : id = .attacker
  · subst id
    rw [Function.update_self]
    exact strike_whole (before _) defenderLoss attackerLoss
  · rw [Function.update_of_ne isAttacker]
    exact before id

theorem strike (standing : Standing start opponents ledgers) {defender : UnitId}
    (losses : Losses ledgers defender deadAttacker deadDefender) (member : defender ∈ opponents)
    (notAttacker : UnitId.attacker ∉ opponents) (attackerOpen : (ledgers .attacker).isFinished = false)
    (defenderOpen : defender.isGeneral → (ledgers defender).isFinished = false) :
    Standing start opponents (struck ledgers defender deadAttacker deadDefender) := by
  have other : defender ≠ .attacker := fun same => notAttacker (same ▸ member)
  refine ⟨?_, ?_, ?_, ?_⟩
  · rw [struck_accounts other]
    exact standing.balanced.exchange _ _ member notAttacker
  · intro id general
    obtain ⟨flag, killcrew, deathcrew⟩ := struck_flags ledgers defender deadAttacker deadDefender id
    have counted := standing.counted id general
    unfold Ledger.CountedOnce at counted ⊢
    rw [flag, killcrew, deathcrew]
    by_cases finished : (ledgers id).isFinished = true
    · -- A general whose battles are over takes no part in the phase.
      have notDefender : id ≠ defender := by
        intro same
        subst same
        rw [defenderOpen general] at finished
        cases finished
      have notAttacker : id ≠ .attacker := by
        intro same
        subst same
        rw [attackerOpen] at finished
        cases finished
      have unchanged : struck ledgers defender deadAttacker deadDefender id = ledgers id := by
        unfold struck
        rw [Function.update_of_ne notDefender, Function.update_of_ne notAttacker]
      rw [if_pos finished] at counted ⊢
      rw [unchanged]
      exact counted
    · rw [if_neg finished] at counted ⊢
      exact counted
  · intro id positive
    exact struck_nonneg losses id (standing.nonneg id positive)
  · intro started id
    exact struck_whole losses (standing.whole started) id

end Standing

/-- The units that the attacker may have to fight: the line of the defence, and the wall. -/
def opponents (line : List UnitId) : Finset UnitId := insert .wall line.toFinset

/-- How a battle stands: who has been fought, who is being fought, and who is still waiting. -/
structure FightStanding (start : UnitId → Ledger) (line : List UnitId) (ledgers : UnitId → Ledger)
    (defender : Option UnitId) (waiting : List UnitId) : Prop where
  standing : Standing start (opponents line) ledgers
  attackerOpen : (ledgers .attacker).isFinished = false
  opponent : ∀ id ∈ defender, id ∈ opponents line
  opponentOpen : ∀ id ∈ defender, id.isGeneral → (ledgers id).isFinished = false
  waits : ∀ id ∈ waiting, id ∈ line
  waitsOnce : waiting.Nodup
  waitsApart : ∀ id ∈ defender, id.isGeneral → id ∉ waiting
  waitsOpen : ∀ id ∈ waiting, id.isGeneral → (ledgers id).isFinished = false
  others : ∀ id, id.isGeneral → id ≠ .attacker → defender ≠ some id →
    (ledgers id).isFinished ∨ ledgers id = start id

namespace FightStanding

variable {ρ : Type} {rules : WarRules ρ} {start ledgers : UnitId → Ledger} {line waiting : List UnitId}
  {defender : Option UnitId}

theorem attacker_not_opponent (noAttacker : UnitId.attacker ∉ line) : UnitId.attacker ∉ opponents line := by
  intro member
  rcases Finset.mem_insert.mp member with isWall | inLine
  · cases isWall
  · exact noAttacker (List.mem_toFinset.mp inLine)

theorem strike {id : UnitId} (fight : FightStanding start line ledgers (some id) waiting)
    (noAttacker : UnitId.attacker ∉ line) {deadAttacker deadDefender : ℚ}
    (losses : Losses ledgers id deadAttacker deadDefender) :
    FightStanding start line (struck ledgers id deadAttacker deadDefender) (some id) waiting := by
  have flags := fun unit => (Standing.struck_flags ledgers id deadAttacker deadDefender unit).1
  refine ⟨?_, ?_, fight.opponent, ?_, fight.waits, fight.waitsOnce, fight.waitsApart, ?_, ?_⟩
  · exact fight.standing.strike losses (fight.opponent id rfl) (attacker_not_opponent noAttacker) fight.attackerOpen
      (fight.opponentOpen id rfl)
  · rw [flags]
    exact fight.attackerOpen
  · intro unit present general
    rw [flags]
    exact fight.opponentOpen unit present general
  · intro unit waits general
    rw [flags]
    exact fight.waitsOpen unit waits general
  · intro unit general notAttacker notDefender
    have other : unit ≠ id := fun same => notDefender (same ▸ rfl)
    have unchanged : struck ledgers id deadAttacker deadDefender unit = ledgers unit := by
      unfold struck
      rw [Function.update_of_ne other, Function.update_of_ne notAttacker]
    rw [unchanged]
    exact fight.others unit general notAttacker notDefender

theorem siege (fight : FightStanding start line ledgers none waiting) (isFinished : Bool) :
    FightStanding start line (Function.update ledgers .wall { ledgers .wall with isFinished }) (some .wall)
      waiting := by
  have unchanged : ∀ id : UnitId, id.isGeneral →
      Function.update ledgers .wall { ledgers .wall with isFinished } id = ledgers id := by
    intro id general
    apply Function.update_of_ne
    intro same
    subst same
    cases general
  refine ⟨fight.standing.flag_wall isFinished, ?_, ?_, ?_, fight.waits, fight.waitsOnce, ?_, ?_, ?_⟩
  · rw [unchanged .attacker rfl]
    exact fight.attackerOpen
  · intro id present
    cases present
    exact Finset.mem_insert_self _ _
  · intro id present general
    cases present
    cases general
  · intro id present general
    cases present
    cases general
  · intro id waits general
    rw [unchanged id general]
    exact fight.waitsOpen id waits general
  · intro id general notAttacker notDefender
    rw [unchanged id general]
    exact fight.others id general notAttacker (by simp)

theorem finish {id : UnitId} (fight : FightStanding start line ledgers (some id) waiting)
    (noAttacker : UnitId.attacker ∉ line) (battle : Battle ρ) (current : battle.ledgers = ledgers) :
    FightStanding start line (finishBattle rules battle id).ledgers none waiting := by
  have notAttacker : UnitId.attacker ≠ id :=
    fun same => attacker_not_opponent noAttacker (same ▸ fight.opponent id rfl)
  cases general : id.isGeneral with
  | false =>
    -- The wall has no counters, and only its flag changes.
    have isWall : id = .wall := by
      cases id with
      | wall => rfl
      | attacker => cases general
      | defender index => cases general
    subst isWall
    rw [finishBattle_wall_ledgers, current]
    have unchanged : ∀ unit : UnitId, unit.isGeneral →
        Function.update ledgers .wall { ledgers .wall with isFinished := true } unit = ledgers unit := by
      intro unit isGeneral
      apply Function.update_of_ne
      intro same
      subst same
      cases isGeneral
    refine ⟨fight.standing.flag_wall true, ?_, ?_, ?_, fight.waits, fight.waitsOnce, ?_, ?_, ?_⟩
    · rw [unchanged .attacker rfl]
      exact fight.attackerOpen
    · intro unit present
      cases present
    · intro unit present
      cases present
    · intro unit present
      cases present
    · intro unit waits isGeneral
      rw [unchanged unit isGeneral]
      exact fight.waitsOpen unit waits isGeneral
    · intro unit isGeneral notAttacker _
      rw [unchanged unit isGeneral]
      apply fight.others unit isGeneral notAttacker
      intro same
      cases same
      cases isGeneral
  | true =>
    have opened := fight.opponentOpen id rfl general
    have stillOpen : ¬ (ledgers id).isFinished = true := by simp [opened]
    rw [finishBattle_ledgers rules battle id general, current, if_neg stillOpen]
    refine ⟨fight.standing.close general opened, ?_, ?_, ?_, fight.waits, fight.waitsOnce, ?_, ?_, ?_⟩
    · rw [Function.update_of_ne notAttacker]
      exact fight.attackerOpen
    · intro unit present
      cases present
    · intro unit present
      cases present
    · intro unit present
      cases present
    · intro unit waits isGeneral
      have other : unit ≠ id := by
        intro same
        subst same
        exact fight.waitsApart unit rfl general waits
      rw [Function.update_of_ne other]
      exact fight.waitsOpen unit waits isGeneral
    · intro unit isGeneral notAttacker _
      by_cases same : unit = id
      · left
        subst same
        rw [Function.update_self]
        rfl
      · rw [Function.update_of_ne same]
        apply fight.others unit isGeneral notAttacker
        intro present
        exact same (Option.some.inj present).symm

theorem advance (fight : FightStanding start line ledgers none waiting) (battle : Battle ρ) :
    FightStanding start line ledgers (getNextDefender rules battle waiting).1
      (getNextDefender rules battle waiting).2 := by
  cases waiting with
  | nil => exact fight
  | cons candidate rest =>
    have once := List.nodup_cons.mp fight.waitsOnce
    have inRest : ∀ id ∈ rest, id ∈ candidate :: rest := fun id member => List.mem_cons_of_mem _ member
    by_cases gone : computeBattleOrder rules battle candidate ≤ 0
    · rw [show getNextDefender rules battle (candidate :: rest) = (none, rest) from if_pos gone]
      refine ⟨fight.standing, fight.attackerOpen, fight.opponent, fight.opponentOpen, ?_, once.2, ?_, ?_, fight.others⟩
      · exact fun id member => fight.waits id (inRest id member)
      · intro id present
        cases present
      · exact fun id member => fight.waitsOpen id (inRest id member)
    · rw [show getNextDefender rules battle (candidate :: rest) = (some candidate, rest) from if_neg gone]
      refine ⟨fight.standing, fight.attackerOpen, ?_, ?_, ?_, once.2, ?_, ?_, ?_⟩
      · intro id present
        cases present
        exact Finset.mem_insert_of_mem (List.mem_toFinset.mpr (fight.waits candidate List.mem_cons_self))
      · intro id present general
        cases present
        exact fight.waitsOpen candidate List.mem_cons_self general
      · exact fun id member => fight.waits id (inRest id member)
      · intro id present general
        cases present
        exact once.1
      · exact fun id member => fight.waitsOpen id (inRest id member)
      · exact fun id general notAttacker _ => fight.others id general notAttacker (by simp)

end FightStanding

section Rounds

variable {ρ : Type} {rules : WarRules ρ} {start : UnitId → Ledger} {line : List UnitId}

/-- How a fight stands. -/
def Stands (start : UnitId → Ledger) (line : List UnitId) (fight : Fight ρ) : Prop :=
  FightStanding start line fight.battle.ledgers fight.defender fight.line

/-- How the fight stands after a round. -/
def Battle.Round.Stands (start : UnitId → Ledger) (line : List UnitId) : Round ρ → Prop
  | .ended fight => War.Stands start line fight
  | .next fight => War.Stands start line fight

theorem attackerStops_ledgers (battle : Battle ρ) (defender : UnitId) :
    (attackerStops rules battle defender).ledgers = battle.ledgers := by
  apply ledgers_congr
  unfold attackerStops
  simp

theorem defenderStops_ledgers (battle : Battle ρ) (defender : UnitId) :
    (defenderStops rules battle defender).ledgers = battle.ledgers := by
  apply ledgers_congr
  unfold defenderStops
  split
  · simp
  · rfl

theorem supplyRetreat_ledgers (battle : Battle ρ) : (supplyRetreat rules battle).ledgers = battle.ledgers := by
  have trained : (supplyRetreat rules battle).books = (battle.face .wall).books := by
    unfold supplyRetreat
    simp
  rw [ledgers_congr trained, face_ledgers]

variable {fight : Fight ρ} {input : WarBattleInput ρ} {outcome : WarBattleOutcome ρ}

theorem switchDefender_stands {battle : Battle ρ} {defender : UnitId} (noAttacker : UnitId.attacker ∉ line)
    (stands : FightStanding start line battle.ledgers (some defender) fight.line) :
    (switchDefender rules fight battle defender).Stands start line := by
  unfold switchDefender
  dsimp only
  generalize stops : defenderStops rules battle defender = stopped
  have unbooked : stopped.ledgers = battle.ledgers := stops ▸ defenderStops_ledgers battle defender
  split
  · -- The city is taken.
    show FightStanding start line (addLevelExp rules stopped .attacker 1000).ledgers (some defender) fight.line
    rw [ledgers_congr (addLevelExp_books ..), unbooked]
    exact stands
  · generalize frees : (if defender = .wall then stopped.setOppose .wall none else stopped) = freed
    have stillUnbooked : freed.ledgers = battle.ledgers := by
      rw [← frees]
      split
      · rw [setOppose_ledgers, unbooked]
      · exact unbooked
    split
    · show FightStanding start line freed.ledgers (some defender) fight.line
      rw [stillUnbooked]
      exact stands
    · exact (stands.finish noAttacker freed stillUnbooked).advance _

theorem fightDefender_stands {battle : Battle ρ} {defender : UnitId} (noAttacker : UnitId.attacker ∉ line)
    (stands : FightStanding start line battle.ledgers (some defender) fight.line) :
    (fightDefender rules fight battle defender).Stands start line := by
  have other : defender ≠ .attacker :=
    fun same => FightStanding.attacker_not_opponent noAttacker (same ▸ stands.opponent defender rfl)
  unfold fightDefender
  dsimp only
  generalize fights : fightPhase rules (meet rules battle defender) defender = fought
  have after : FightStanding start line fought.ledgers (some defender) fight.line := by
    obtain ⟨deadAttacker, deadDefender, losses, booked⟩ :=
      fightPhase_ledgers rules (meet rules battle defender) other
    rw [meet_ledgers] at losses booked
    rw [← fights, booked]
    exact stands.strike noAttacker losses
  split
  · show FightStanding start line (attackerStops rules fought defender).ledgers (some defender) fight.line
    rw [attackerStops_ledgers]
    exact after
  split
  · exact switchDefender_stands noAttacker after
  · exact after

theorem fightRound_stands (rules : WarRules ρ) (input : WarBattleInput ρ) (noAttacker : UnitId.attacker ∉ line)
    (stands : War.Stands start line fight) : (fightRound rules input fight).Stands start line := by
  unfold War.Stands at stands
  unfold fightRound
  cases present : fight.defender with
  | some defender =>
    rw [present] at stands
    exact fightDefender_stands noAttacker stands
  | none =>
    rw [present] at stands
    have besieged : FightStanding start line fight.battle.setSiege.ledgers (some .wall) fight.line := by
      rw [setSiege_ledgers]
      exact stands.siege false
    dsimp only
    split
    · show FightStanding start line (supplyRetreat rules fight.battle.setSiege).ledgers (some .wall) fight.line
      rw [supplyRetreat_ledgers]
      exact besieged
    · exact fightDefender_stands noAttacker besieged

theorem fightRounds_stands (noAttacker : UnitId.attacker ∉ line) (rounds : Nat) :
    ∀ {fight last : Fight ρ}, War.Stands start line fight → fightRounds rules input rounds fight = some last →
      War.Stands start line last := by
  -- The induction follows the bound on the rounds, and each round hands on how the fight stands.
  induction rounds with
  | zero =>
    intro fight last _ never
    cases never
  | succ rounds ih =>
    intro fight last stands fought
    unfold fightRounds at fought
    split at fought
    · cases fought
      exact stands
    · have round := fightRound_stands rules input noAttacker stands
      split at fought
      · rename_i ended result
        cases fought
        rw [result] at round
        exact round
      · rename_i next result
        rw [result] at round
        exact ih round fought

/-- How a battle has ended: the ledgers add up, and every general has finished or never begun. -/
structure Settled (start : UnitId → Ledger) (line : List UnitId) (ledgers : UnitId → Ledger) : Prop where
  standing : Standing start (opponents line) ledgers
  attackerDone : (ledgers .attacker).isFinished = true
  others : ∀ id, id.isGeneral → id ≠ .attacker → (ledgers id).isFinished ∨ ledgers id = start id

theorem Settled.flag_wall {ledgers : UnitId → Ledger} (settled : Settled start line ledgers) (isFinished : Bool) :
    Settled start line (Function.update ledgers .wall { ledgers .wall with isFinished }) := by
  have unchanged : ∀ id : UnitId, id.isGeneral →
      Function.update ledgers .wall { ledgers .wall with isFinished } id = ledgers id := by
    intro id general
    apply Function.update_of_ne
    intro same
    subst same
    cases general
  refine ⟨settled.standing.flag_wall isFinished, ?_, ?_⟩
  · rw [unchanged .attacker rfl]
    exact settled.attackerDone
  · intro id general notAttacker
    rw [unchanged id general]
    exact settled.others id general notAttacker

theorem woundLast_ledgers (fight : Fight ρ) : (woundLast rules fight).ledgers = fight.battle.ledgers := by
  apply ledgers_congr
  unfold woundLast
  split
  · split
    · rfl
    · simp
  · rfl

theorem finishAttacker_settled (rules : WarRules ρ) {battle : Battle ρ} {defender : Option UnitId} {waiting : List UnitId}
    (stands : FightStanding start line battle.ledgers defender waiting) :
    (finishBattle rules battle .attacker).ledgers =
        Function.update battle.ledgers .attacker (battle.ledgers .attacker).close ∧
      Standing start (opponents line) (finishBattle rules battle .attacker).ledgers ∧
      ((finishBattle rules battle .attacker).ledgers .attacker).isFinished = true := by
  have stillOpen : ¬ (battle.ledgers .attacker).isFinished = true := by simp [stands.attackerOpen]
  have closed : (finishBattle rules battle .attacker).ledgers =
      Function.update battle.ledgers .attacker (battle.ledgers .attacker).close := by
    rw [finishBattle_ledgers rules battle .attacker rfl, if_neg stillOpen]
  rw [closed, Function.update_self]
  exact ⟨rfl, stands.standing.close rfl stands.attackerOpen, rfl⟩

theorem finishUnits_settled (rules : WarRules ρ) {battle : Battle ρ} {defender : Option UnitId} {waiting : List UnitId}
    (noAttacker : UnitId.attacker ∉ line) (stands : FightStanding start line battle.ledgers defender waiting) :
    Settled start line (finishUnits rules battle defender).ledgers := by
  obtain ⟨closed, standing, attackerDone⟩ := finishAttacker_settled rules stands
  have elsewhere : ∀ id, id ≠ UnitId.attacker →
      (finishBattle rules battle .attacker).ledgers id = battle.ledgers id := by
    intro id other
    rw [closed, Function.update_of_ne other]
  cases defender with
  | none =>
    refine ⟨standing, attackerDone, ?_⟩
    intro id general notAttacker
    show ((finishBattle rules battle .attacker).ledgers id).isFinished = true ∨
      (finishBattle rules battle .attacker).ledgers id = start id
    rw [elsewhere id notAttacker]
    exact stands.others id general notAttacker (by simp)
  | some last =>
    have notAttacker : last ≠ .attacker :=
      fun same => FightStanding.attacker_not_opponent noAttacker (same ▸ stands.opponent last rfl)
    show Settled start line (finishBattle rules (finishBattle rules battle .attacker) last).ledgers
    cases general : last.isGeneral with
    | false =>
      have isWall : last = .wall := by
        cases last with
        | wall => rfl
        | attacker => cases general
        | defender index => cases general
      subst isWall
      rw [finishBattle_wall_ledgers]
      have settled : Settled start line (finishBattle rules battle .attacker).ledgers := by
        refine ⟨standing, attackerDone, ?_⟩
        intro id isGeneral other
        rw [elsewhere id other]
        apply stands.others id isGeneral other
        intro same
        cases same
        cases isGeneral
      exact settled.flag_wall true
    | true =>
      have opened : ((finishBattle rules battle .attacker).ledgers last).isFinished = false := by
        rw [elsewhere last notAttacker]
        exact stands.opponentOpen last rfl general
      have stillOpen : ¬ ((finishBattle rules battle .attacker).ledgers last).isFinished = true := by simp [opened]
      rw [finishBattle_ledgers rules _ last general, if_neg stillOpen]
      refine ⟨standing.close general opened, ?_, ?_⟩
      · rw [Function.update_of_ne notAttacker.symm]
        exact attackerDone
      · intro id isGeneral other
        by_cases same : id = last
        · left
          subst same
          rw [Function.update_self]
          rfl
        · rw [Function.update_of_ne same, elsewhere id other]
          apply stands.others id isGeneral other
          intro present
          exact same (Option.some.inj present).symm

theorem finishFight_settled (noAttacker : UnitId.attacker ∉ line) (stands : War.Stands start line fight) :
    Settled start line (finishFight rules fight).ledgers := by
  have wounded : FightStanding start line (woundLast rules fight).ledgers fight.defender fight.line := by
    rw [woundLast_ledgers]
    exact stands
  have settled := finishUnits_settled rules noAttacker wounded
  unfold finishFight finishWall
  split
  · rw [finishBattle_wall_ledgers, setSiege_ledgers, setOppose_ledgers]
    exact (settled.flag_wall false).flag_wall true
  · exact settled

theorem defenderLine_once (rules : WarRules ρ) (battle : Battle ρ) (count : Nat) :
    (defenderLine rules battle count).Nodup ∧ UnitId.attacker ∉ defenderLine rules battle count := by
  have ready : (readyDefenders rules battle count).Nodup := by
    apply List.Nodup.filter
    exact List.nodup_range.map fun first second same => UnitId.defender.inj same
  have named : ∀ id ∈ readyDefenders rules battle count, ∃ index, id = .defender index := by
    intro id member
    obtain ⟨index, _, rfl⟩ := List.mem_map.mp (List.mem_filter.mp member).1
    exact ⟨index, rfl⟩
  have noWall : UnitId.wall ∉ readyDefenders rules battle count := by
    intro member
    obtain ⟨index, same⟩ := named _ member
    cases same
  have noAttacker : UnitId.attacker ∉ readyDefenders rules battle count := by
    intro member
    obtain ⟨index, same⟩ := named _ member
    cases same
  unfold defenderLine
  dsimp only
  rw [(List.perm_insertionSort _ _).nodup_iff, (List.perm_insertionSort _ _).mem_iff]
  split
  · refine ⟨List.nodup_append.mpr ⟨ready, List.nodup_singleton _, ?_⟩, ?_⟩
    · intro id member other isWall same
      rw [List.mem_singleton] at isWall
      exact noWall (isWall ▸ same ▸ member)
    · intro member
      rcases List.mem_append.mp member with before | isWall
      · exact noAttacker before
      · cases List.mem_singleton.mp isWall
  · exact ⟨ready, noAttacker⟩

theorem start_ledger (input : WarBattleInput ρ) (id : UnitId) :
    (input.start.ledgers id).killed = 0 ∧ (input.start.ledgers id).dead = 0 ∧
      (input.start.ledgers id).isFinished = false := by
  cases id <;> exact ⟨rfl, rfl, rfl⟩

theorem start_stands (input : WarBattleInput ρ) (once : line.Nodup) :
    FightStanding input.start.ledgers line input.start.ledgers none line := by
  have opened := fun id => (start_ledger input id).2.2
  refine ⟨⟨?_, ?_, fun _ positive => positive, fun whole => whole⟩, opened _, ?_, ?_, fun _ member => member, once, ?_,
    fun id _ _ => opened id, fun _ _ _ _ => .inr rfl⟩
  · exact DoubleEntry.Balanced.opening _ _ fun id => ⟨(start_ledger input id).1, (start_ledger input id).2.1⟩
  · intro id _
    have stillOpen : ¬ (input.start.ledgers id).isFinished = true := by simp [opened id]
    unfold Ledger.CountedOnce
    rw [if_neg stillOpen]
    exact ⟨rfl, rfl⟩
  · intro id present
    cases present
  · intro id present
    cases present
  · intro id present
    cases present

theorem resolveWarBattle_settled {rounds : Nat} (fought : resolveWarBattle rules input rounds = some outcome) :
    Settled input.start.ledgers outcome.defenderUnits outcome.battle.ledgers ∧
      outcome.defenderUnits.Nodup ∧ UnitId.attacker ∉ outcome.defenderUnits ∧
      outcome.reports = resolveUnitReport outcome.battle .attacker ::
        outcome.defenderUnits.map (resolveUnitReport outcome.battle) ++
          [resolveUnitReport outcome.battle .wall] := by
  obtain ⟨last, ran, rfl⟩ := Option.map_eq_some_iff.mp fought
  obtain ⟨once, noAttacker⟩ := defenderLine_once rules input.start input.defenders.length
  have opening : War.Stands input.start.ledgers (defenderLine rules input.start input.defenders.length)
      (openFight rules input) := (start_stands input once).advance input.start
  have stands := fightRounds_stands noAttacker rounds opening ran
  exact ⟨finishFight_settled noAttacker stands, once, noAttacker, rfl⟩

/-- Whether a report is of a general of the defence. -/
def Battle.WarUnitReport.ofDefendingGeneral (report : WarUnitReport) : Bool :=
  report.unit.isGeneral && report.unit ≠ .attacker

theorem mem_reports {battle : Battle ρ} {line : List UnitId} {report : WarUnitReport}
    (member : report ∈ resolveUnitReport battle .attacker :: line.map (resolveUnitReport battle) ++
      [resolveUnitReport battle .wall]) : report = resolveUnitReport battle report.unit := by
  rcases List.mem_append.mp member with before | last
  · rcases List.mem_cons.mp before with first | inLine
    · rw [first]
      rfl
    · obtain ⟨unit, _, rfl⟩ := List.mem_map.mp inLine
      rfl
  · rw [List.mem_singleton.mp last]
    rfl

theorem defendingReports (battle : Battle ρ) {line : List UnitId} (noAttacker : UnitId.attacker ∉ line) :
    (resolveUnitReport battle .attacker :: line.map (resolveUnitReport battle) ++
      [resolveUnitReport battle .wall]).filter (·.ofDefendingGeneral) =
        (line.filter (·.isGeneral)).map (resolveUnitReport battle) := by
  have inLine : (line.map (resolveUnitReport battle)).filter (·.ofDefendingGeneral) =
      (line.filter (·.isGeneral)).map (resolveUnitReport battle) := by
    rw [List.filter_map]
    congr 1
    apply List.filter_congr
    intro id member
    have notAttacker : id ≠ .attacker := fun same => noAttacker (same ▸ member)
    simp [Battle.WarUnitReport.ofDefendingGeneral, resolveUnitReport, notAttacker]
  have attackerOut : (resolveUnitReport battle .attacker).ofDefendingGeneral = false := rfl
  have wallOut : (resolveUnitReport battle .wall).ofDefendingGeneral = false := rfl
  rw [List.cons_append, List.filter_cons_of_neg (by simp [attackerOut]), List.filter_append, inLine,
    List.filter_cons_of_neg (by simp [wallOut]), List.filter_nil, List.append_nil]

theorem sum_opponents (column : UnitId → ℚ) {line : List UnitId} (once : line.Nodup) :
    ∑ id ∈ opponents line, column id = ((line.filter (·.isGeneral)).map column).sum + column .wall := by
  have same : opponents line = insert .wall (line.filter (·.isGeneral)).toFinset := by
    ext id
    simp only [opponents, Finset.mem_insert, List.mem_toFinset, List.mem_filter]
    constructor
    · intro member
      rcases member with isWall | inLine
      · exact .inl isWall
      · cases id with
        | wall => exact .inl rfl
        | attacker => exact .inr ⟨inLine, rfl⟩
        | defender index => exact .inr ⟨inLine, rfl⟩
    · intro member
      rcases member with isWall | inLine
      · exact .inl isWall
      · exact .inr inLine.1
  have outside : UnitId.wall ∉ (line.filter (·.isGeneral)).toFinset := by
    intro member
    have general := (List.mem_filter.mp (List.mem_toFinset.mp member)).2
    cases general
  rw [same, Finset.sum_insert outside, List.sum_toFinset _ (once.filter _), add_comm]

/-- The casualties of a battle as they are reported. -/
structure CasualtiesAddUp (input : WarBattleInput ρ) (outcome : WarBattleOutcome ρ) : Prop where
  strength : ∀ report ∈ outcome.reports,
    outcome.battle.getHP report.unit = input.start.getHP report.unit - report.dead
  nonneg : ∀ report ∈ outcome.reports,
    0 ≤ input.start.getHP report.unit → 0 ≤ outcome.battle.getHP report.unit
  attackerKilled : ∀ attacker ∈ outcome.reports, attacker.unit = .attacker →
    ∀ wall ∈ outcome.reports, wall.unit = .wall →
      attacker.killed = ((outcome.reports.filter (·.ofDefendingGeneral)).map (·.dead)).sum + wall.dead
  attackerDead : ∀ attacker ∈ outcome.reports, attacker.unit = .attacker →
    ∀ wall ∈ outcome.reports, wall.unit = .wall →
      attacker.dead = ((outcome.reports.filter (·.ofDefendingGeneral)).map (·.killed)).sum + wall.killed

/-- The counters of a general after a battle: raised once, and rounded, by what is reported of it. -/
structure CountersRaised (before after : WarBooks) (report : WarUnitReport) : Prop where
  killcrew : after.killcrew = increaseMetaNumber before.killcrew report.killed
  deathcrew : after.deathcrew = increaseMetaNumber before.deathcrew report.dead

/-- The counters of a general that nobody has fought. -/
structure CountersKept (before after : WarBooks) (report : WarUnitReport) : Prop where
  killcrew : after.killcrew = before.killcrew
  deathcrew : after.deathcrew = before.deathcrew
  noKills : report.killed = 0
  noLosses : report.dead = 0

/-- The counters of a general grow by exactly what is reported of it. -/
structure CountersExact (before after : WarBooks) (report : WarUnitReport) : Prop where
  killcrew : after.killcrew = before.killcrew + report.killed
  deathcrew : after.deathcrew = before.deathcrew + report.dead

/-- A unit enters a battle with whole troops and whole counters. -/
structure WarBooks.Whole (books : WarBooks) : Prop where
  hp : IsWhole books.hp
  killcrew : IsWhole books.killcrew
  deathcrew : IsWhole books.deathcrew

theorem increaseMetaNumber_whole {counter delta : ℚ} (counterWhole : IsWhole counter) (deltaWhole : IsWhole delta) :
    increaseMetaNumber counter delta = counter + delta := by
  obtain ⟨sum, same⟩ := counterWhole.add deltaWhole
  have half : ⌊(1 : ℚ) / 2⌋ = 0 := by norm_num
  unfold increaseMetaNumber roundHalfUp
  rw [same, Int.floor_intCast_add, half, add_zero]

theorem Settled.casualties (settled : Settled input.start.ledgers outcome.defenderUnits outcome.battle.ledgers)
    (once : outcome.defenderUnits.Nodup) (noAttacker : UnitId.attacker ∉ outcome.defenderUnits)
    (reports : outcome.reports = resolveUnitReport outcome.battle .attacker ::
      outcome.defenderUnits.map (resolveUnitReport outcome.battle) ++ [resolveUnitReport outcome.battle .wall]) :
    CasualtiesAddUp input outcome := by
  have reported : ∀ report ∈ outcome.reports, report = resolveUnitReport outcome.battle report.unit :=
    fun report member => mem_reports (reports ▸ member)
  have balanced := settled.standing.balanced
  refine ⟨?_, ?_, ?_, ?_⟩
  · intro report member
    have dead : report.dead = (outcome.battle.books report.unit).dead := congrArg (·.dead) (reported report member)
    rw [dead]
    exact balanced.stock report.unit
  · intro report member
    exact settled.standing.nonneg report.unit
  · intro attacker attackerIn isAttacker wall wallIn isWall
    have killed : attacker.killed = (outcome.battle.books .attacker).killed := by
      rw [reported attacker attackerIn, isAttacker]
      rfl
    have dead : wall.dead = (outcome.battle.books .wall).dead := by
      rw [reported wall wallIn, isWall]
      rfl
    rw [reports, defendingReports outcome.battle noAttacker, List.map_map, killed, dead]
    exact balanced.hubTaken.trans (sum_opponents _ once)
  · intro attacker attackerIn isAttacker wall wallIn isWall
    have dead : attacker.dead = (outcome.battle.books .attacker).dead := by
      rw [reported attacker attackerIn, isAttacker]
      rfl
    have killed : wall.killed = (outcome.battle.books .wall).killed := by
      rw [reported wall wallIn, isWall]
      rfl
    rw [reports, defendingReports outcome.battle noAttacker, List.map_map, dead, killed]
    exact balanced.hubLost.trans (sum_opponents _ once)

theorem Settled.counters {battle : Battle ρ} (settled : Settled input.start.ledgers line battle.ledgers)
    {id : UnitId} (general : id.isGeneral) :
    CountersRaised (input.start.books id) (battle.books id) (resolveUnitReport battle id) ∨
      CountersKept (input.start.books id) (battle.books id) (resolveUnitReport battle id) := by
  have counted := settled.standing.counted id general
  have finished : (battle.ledgers id).isFinished = true ∨ battle.ledgers id = input.start.ledgers id := by
    by_cases isAttacker : id = .attacker
    · exact .inl (isAttacker ▸ settled.attackerDone)
    · exact settled.others id general isAttacker
  rcases finished with finished | untouched
  · left
    unfold Ledger.CountedOnce at counted
    rw [if_pos finished] at counted
    exact ⟨counted.1, counted.2⟩
  · right
    obtain ⟨noKills, noLosses, _⟩ := start_ledger input id
    rw [← untouched] at noKills noLosses
    exact ⟨congrArg Ledger.killcrew untouched, congrArg Ledger.deathcrew untouched, noKills, noLosses⟩

theorem Settled.exact {battle : Battle ρ} (settled : Settled input.start.ledgers line battle.ledgers)
    (whole : ∀ unit, (input.start.books unit).Whole) {id : UnitId} (general : id.isGeneral) :
    CountersExact (input.start.books id) (battle.books id) (resolveUnitReport battle id) := by
  have nothing : IsWhole 0 := ⟨0, by norm_num⟩
  have started : ∀ unit, (input.start.ledgers unit).InWholeTroops := by
    intro unit
    obtain ⟨noKills, noLosses, _⟩ := start_ledger input unit
    refine ⟨(whole unit).hp, ?_, ?_⟩
    · rw [noKills]
      exact nothing
    · rw [noLosses]
      exact nothing
  have troops := settled.standing.whole started id
  rcases settled.counters general with raised | kept
  · refine ⟨raised.killcrew.trans ?_, raised.deathcrew.trans ?_⟩
    · exact increaseMetaNumber_whole (whole id).killcrew troops.killed
    · exact increaseMetaNumber_whole (whole id).deathcrew troops.dead
  · refine ⟨?_, ?_⟩
    · rw [kept.killcrew, kept.noKills, add_zero]
    · rw [kept.deathcrew, kept.noLosses, add_zero]

/--
In every battle that comes to an end the casualties add up, and the counters of every general take them once.

The counters are rounded, so they grow by exactly what is reported where all troops and counters are whole.
-/
theorem battle_casualties_add_up (rules : WarRules ρ) (input : WarBattleInput ρ) (rounds : Nat)
    (outcome : WarBattleOutcome ρ) (fought : resolveWarBattle rules input rounds = some outcome) :
    CasualtiesAddUp input outcome ∧
      (∀ report ∈ outcome.reports, report.unit.isGeneral →
        CountersRaised (input.start.books report.unit) (outcome.battle.books report.unit) report ∨
          CountersKept (input.start.books report.unit) (outcome.battle.books report.unit) report) ∧
      ((∀ unit, (input.start.books unit).Whole) → ∀ report ∈ outcome.reports, report.unit.isGeneral →
        CountersExact (input.start.books report.unit) (outcome.battle.books report.unit) report) := by
  obtain ⟨settled, once, noAttacker, reports⟩ := resolveWarBattle_settled fought
  have reported : ∀ report ∈ outcome.reports, report = resolveUnitReport outcome.battle report.unit :=
    fun report member => mem_reports (reports ▸ member)
  refine ⟨settled.casualties once noAttacker reports, ?_, ?_⟩
  · intro report member general
    rw [reported report member]
    exact settled.counters general
  · intro whole report member general
    rw [reported report member]
    exact settled.exact whole general

end Rounds

/-- Rules with even dice, no action modules and no triggers. -/
def plainRules : WarRules Unit :=
  { config := { armPerPhase := 500, maxTrainByWar := 110, maxAtmosByWar := 150, maxGeneralStat := none
                statUpgradeLimit := none, maxTechLevel := none
                armTypes := { wizard := some 4, siege := some 5, misc := some 6, castle := some 0 } }
    nextRange := fun dice _ _ => (1, dice)
    nextRangeInt := fun dice _ high => (high, dice)
    nextBool := fun dice _ => (false, dice)
    pow := fun base _ => base
    onCalcStat := fun _ _ _ value => value
    onCalcOpposeStat := fun _ _ _ value => value
    getWarPowerMultiplier := fun _ _ _ => (1, 1)
    battleInitTriggers := fun battle _ => battle.toConduct
    battlePhaseTriggers := fun battle _ => battle.toConduct }

/-- Footmen, as good in attack as in defence. -/
def footmen : WarCrewType :=
  { id := 1100, armType := 1, speed := 7, attack := 100, defence := 150, rice := 9, attackCoef := [], defenceCoef := [] }

/-- A general in full training, with some troops. -/
def trainedGeneral (id : Int) (crew : ℚ) : WarGeneralInput :=
  { general := { id, rice := 10000, train := 100, atmos := 100, injury := 0, experience := 0, dedication := 0
                 leadership := 70, strength := 70, intelligence := 10, leadershipExp := 0, strengthExp := 0
                 intelExp := 0, expLevel := 0, defenceTrain := 80, warnum := 0, killnum := 0, deathnum := 0
                 occupied := 0, dex := fun _ => 0 }
    crew, killcrew := 0, deathcrew := 0, killcrewPerson := 0, deathcrewPerson := 0, crewType := footmen, tech := 0 }

/-- An attack on a city with a few defenders behind a wall of some defence. -/
def attackOn (defenders : List WarGeneralInput) (defence : ℚ) : WarBattleInput Unit :=
  { attacker := trainedGeneral 1 5000, attackerCityLevel := 5, attackerAtCapital := false, defenders
    defenderCity := { defence, wall := 0, agriculture := 1000, commerce := 1000, security := 1000, level := 5
                      supplyFlag := none, supplyNumber := none, supplyState := 1
                      crewType := { footmen with id := 1000, armType := 0 } }
    defenderRice := some 10000, year := 190, startYear := 180, random := () }

/-- Five thousand footmen take a city with two defenders behind a wall of a hundred, all of which adds up. -/
theorem battle_casualties_add_up_conquest : ∃ outcome,
    resolveWarBattle plainRules (attackOn [trainedGeneral 2 300, trainedGeneral 3 200] 10) 10 = some outcome ∧
      outcome.reports.map (fun report => (report.killed, report.dead)) =
        [(600, 520), (282, 300), (164, 200), (74, 100)] ∧
      CasualtiesAddUp (attackOn [trainedGeneral 2 300, trainedGeneral 3 200] 10) outcome := by
  have fought : (resolveWarBattle plainRules (attackOn [trainedGeneral 2 300, trainedGeneral 3 200] 10) 10).map
      (fun outcome => outcome.reports.map fun report => (report.killed, report.dead)) =
      some [(600, 520), (282, 300), (164, 200), (74, 100)] := by decide +kernel
  obtain ⟨outcome, ended, reports⟩ := Option.map_eq_some_iff.mp fought
  exact ⟨outcome, ended, reports, (battle_casualties_add_up plainRules _ 10 outcome ended).1⟩

/-- A wall of two and a half troops that falls is killed in full, and counted as three. -/
theorem fractional_wall_is_rounded :
    ¬ ∀ (ρ : Type) (rules : WarRules ρ) (input : WarBattleInput ρ) (rounds : Nat) (outcome : WarBattleOutcome ρ),
      resolveWarBattle rules input rounds = some outcome →
        ∀ report ∈ outcome.reports, report.unit.isGeneral →
          (outcome.battle.books report.unit).killcrew =
            (input.start.books report.unit).killcrew + report.killed := by
  intro exactly
  have fought : (resolveWarBattle plainRules (attackOn [] (1 / 4)) 10).map
      (fun outcome => ((outcome.battle.books .attacker).killcrew, (outcome.battle.books .attacker).killed)) =
      some (3, 5 / 2) := by decide +kernel
  obtain ⟨outcome, ended, counted⟩ := Option.map_eq_some_iff.mp fought
  obtain ⟨killcrew, killed⟩ := Prod.mk.inj counted
  obtain ⟨_, _, _, reports⟩ := resolveWarBattle_settled ended
  have first : resolveUnitReport outcome.battle .attacker ∈ outcome.reports := by
    rw [reports]
    exact List.mem_cons_self
  have claimed := exactly Unit plainRules _ 10 outcome ended _ first rfl
  have atStart : ((attackOn [] (1 / 4)).start.books .attacker).killcrew = 0 := rfl
  have reported : (resolveUnitReport outcome.battle .attacker).killed = 5 / 2 := killed
  have counter : (outcome.battle.books (resolveUnitReport outcome.battle .attacker).unit).killcrew = 3 := killcrew
  rw [counter, reported] at claimed
  have sum : (3 : ℚ) = 0 + 5 / 2 := claimed
  norm_num at sum

end Sammo.War
