import Mathlib.Algebra.Order.Field.Rat
import Mathlib.Tactic.Linarith
import Mathlib.Tactic.Positivity
import Sammo.Tournament.Rounds
import Sammo.Tournament.Worker

/-! A battle of the bracket is decided if a hundred rounds of the least damage use up one side. -/

namespace Sammo.Tournament

variable {σ : Type} {source : RandomSource σ} {strengths : BattleStrengths} {input : TournamentBattleInput}

/-- The least damage that a stat does in a round: that of its least draws, and the part that a stat from a hundred on adds. -/
def leastDamage (stat : ℚ) : Int := round (stat * 90 / 130) + if 100 ≤ stat then round (stat * 10 / 130) else 0

variable {value : ℚ} {stat : ℚ}

theorem round_mono {more : ℚ} (le : value ≤ more) : round value ≤ round more := Int.floor_le_floor (by linarith)

theorem round_nonneg (nonneg : 0 ≤ value) : 0 ≤ round value := Int.floor_nonneg.mpr (by linarith)

theorem extraDamage_nonneg (nonneg : 0 ≤ stat) (applies : Bool) (chance spread base divisor : Nat) (rng : σ) :
    0 ≤ (extraDamage source applies stat chance spread base divisor rng).1 := by
  unfold extraDamage
  split
  · dsimp only
    split
    · exact round_nonneg (by positivity)
    · exact le_rfl
  · exact le_rfl

theorem le_extraDamage {chance : Nat} (some_ : 0 < chance) (sure : (chance : ℚ) - 1 ≤ stat) (nonneg : 0 ≤ stat)
    (spread base divisor : Nat) (rng : σ) :
    round (stat * base / divisor) ≤ (extraDamage source true stat chance spread base divisor rng).1 := by
  have hit : ((source.nextInt rng chance).1 : ℚ) ≤ stat := by
    have below := source.below rng chance some_
    have whole : ((source.nextInt rng chance).1 : ℚ) + 1 ≤ chance := by exact_mod_cast below
    linarith
  simp only [extraDamage, if_true, if_pos hit]
  apply round_mono
  apply div_le_div_of_nonneg_right _ (by positivity)
  exact mul_le_mul_of_nonneg_left (by linarith [Nat.cast_nonneg (α := ℚ) (source.nextInt
    (source.nextInt rng chance).2 spread).1]) nonneg

theorem one_le_furyFactor (applies : Bool) (stat : ℚ) (rng : σ) : 1 ≤ (furyFactor source applies stat rng).1.getD 1 := by
  unfold furyFactor
  split
  · dsimp only
    split
    · simp only [Option.getD_some]
      rw [round, Int.le_floor]
      push_cast
      have drawn : (0 : ℚ) ≤ ((source.nextInt (source.nextInt rng 301).2 302).1 : ℚ) := by positivity
      linarith
    · exact le_rfl
  · exact le_rfl

variable (source) in
theorem leastDamage_le (nonneg : 0 ≤ stat) (rng second : σ) :
    leastDamage stat ≤ round (stat * ((source.nextInt rng 22).1 + 90) / 130) +
      (extraDamage source true stat 101 42 10 130 second).1 := by
  have base : round (stat * 90 / 130) ≤ round (stat * ((source.nextInt rng 22).1 + 90) / 130) := by
    apply round_mono
    have drawn : (0 : ℚ) ≤ ((source.nextInt rng 22).1 : ℚ) := by positivity
    have more : stat * 90 ≤ stat * ((source.nextInt rng 22).1 + 90) := mul_le_mul_of_nonneg_left (by linarith) nonneg
    linarith
  have more : (if 100 ≤ stat then round (stat * 10 / 130) else 0) ≤
      (extraDamage source true stat 101 42 10 130 second).1 := by
    split
    · rename_i sure
      exact_mod_cast le_extraDamage (by decide) (by norm_num; linarith) nonneg 42 10 130 second
    · exact extraDamage_nonneg nonneg true 101 42 10 130 second
  exact add_le_add base more

theorem le_damage {damage factor last : Int} (nonneg : 0 ≤ damage) (factorLe : 1 ≤ factor) (lastNonneg : 0 ≤ last) :
    damage ≤ damage * factor + last := by
  have grown : damage * 1 ≤ damage * factor := mul_le_mul_of_nonneg_left factorLe nonneg
  omega

theorem leastDamage_nonneg (nonneg : 0 ≤ stat) : 0 ≤ leastDamage stat := by
  unfold leastDamage
  have base : 0 ≤ round (stat * 90 / 130) := round_nonneg (by positivity)
  split
  · have more : 0 ≤ round (stat * 10 / 130) := round_nonneg (by positivity)
    omega
  · omega

variable (source) in
theorem roundDamage_ge (attackerNonneg : 0 ≤ strengths.attackerStat) (defenderNonneg : 0 ≤ strengths.defenderStat)
    (phase : Nat) (energyAttacker energyDefender : Int) (rng : σ) :
    leastDamage strengths.defenderStat ≤
        (roundDamage source strengths phase energyAttacker energyDefender rng).1.damageAttacker ∧
      leastDamage strengths.attackerStat ≤
        (roundDamage source strengths phase energyAttacker energyDefender rng).1.damageDefender := by
  constructor
  · have first := leastDamage_le source defenderNonneg rng
      (extraDamage source true strengths.attackerStat 101 42 10 130 (source.nextInt (source.nextInt rng 22).2 22).2).2
    refine first.trans (le_damage ((leastDamage_nonneg defenderNonneg).trans first) (one_le_furyFactor _ _ _) ?_)
    split
    · exact extraDamage_nonneg defenderNonneg _ _ _ _ _ _
    · exact extraDamage_nonneg defenderNonneg _ _ _ _ _ _
  · have first := leastDamage_le source attackerNonneg (source.nextInt rng 22).2
      (source.nextInt (source.nextInt rng 22).2 22).2
    refine first.trans (le_damage ((leastDamage_nonneg attackerNonneg).trans first) (one_le_furyFactor _ _ _) ?_)
    split
    · exact extraDamage_nonneg attackerNonneg _ _ _ _ _ _
    · exact extraDamage_nonneg attackerNonneg _ _ _ _ _ _

variable {energyAttacker energyDefender : Int} {remaining phase : Nat} {course : BattleCourse}

theorem decideRound_eq_none {untilDecided : Bool} :
    decideRound untilDecided energyAttacker energyDefender = none ↔ 0 < energyAttacker ∧ 0 < energyDefender := by
  unfold decideRound
  split
  · split <;> simp <;> omega
  · split
    · simp; omega
    · split
      · simp; omega
      · simp; omega

theorem decideRound_decided {selected : BattleSide}
    (ended : decideRound true energyAttacker energyDefender = some selected) : selected ≠ .neither := by
  unfold decideRound at ended
  split at ended
  · simp only [if_true, Option.some.injEq] at ended
    split at ended <;> simp [← ended]
  · split at ended
    · simp [← Option.some.inj ended]
    · split at ended
      · simp [← Option.some.inj ended]
      · cases ended

theorem fightRounds_undecided (attackerNonneg : 0 ≤ strengths.attackerStat)
    (defenderNonneg : 0 ≤ strengths.defenderStat) (knockout : input.untilDecided = true) {rng : σ}
    (undecided : (fightRounds source input strengths remaining phase energyAttacker energyDefender course rng).selected =
      .neither) :
    remaining = 0 ∨ (remaining * leastDamage strengths.defenderStat < energyAttacker ∧
      remaining * leastDamage strengths.attackerStat < energyDefender) := by
  induction remaining generalizing phase energyAttacker energyDefender course rng with
  | zero => exact .inl rfl
  | succ remaining ih =>
    right
    obtain ⟨dealtAttacker, dealtDefender⟩ :=
      roundDamage_ge source attackerNonneg defenderNonneg phase energyAttacker energyDefender rng
    rw [fightRounds, knockout] at undecided
    dsimp only at undecided
    split at undecided
    · rename_i ended
      exact absurd undecided (decideRound_decided ended)
    · rename_i goesOn
      obtain ⟨attackerLeft, defenderLeft⟩ := decideRound_eq_none.mp goesOn
      push_cast
      rcases ih undecided with rfl | ⟨attackerLater, defenderLater⟩
      · constructor <;> push_cast <;> linarith
      · constructor <;> linarith

/-! ### The least damage is reached -/

/-- The draws of the least damage: nothing is added that can be missed, and everything else is as small as can be. -/
def gentlest : RandomSource Unit where
  nextInt _ bound := (if bound ∈ [101, 301, 401, 1001] then bound - 1 else 0, ())
  below _ bound pos := by
    dsimp only
    split <;> omega

theorem gentlest_misses (small : stat < 300) (applies : Bool) (rng : Unit) :
    (furyFactor gentlest applies stat rng).1 = none ∧
      (∀ spread base divisor, (extraDamage gentlest applies stat 401 spread base divisor rng).1 = 0) ∧
      ∀ spread base divisor, (extraDamage gentlest applies stat 1001 spread base divisor rng).1 = 0 := by
  have fury : ¬ (300 : ℚ) ≤ stat := by linarith
  have first : ¬ (400 : ℚ) ≤ stat := by linarith
  have later : ¬ (1000 : ℚ) ≤ stat := by linarith
  cases applies <;> simp [furyFactor, extraDamage, gentlest, fury, first, later]

theorem gentlest_extra (stat : ℚ) (rng : Unit) : (extraDamage gentlest true stat 101 42 10 130 rng).1 =
    if 100 ≤ stat then round (stat * 10 / 130) else 0 := by
  simp only [extraDamage, gentlest, if_true]
  norm_num
  split <;> rfl

theorem roundDamage_gentlest (attackerSmall : strengths.attackerStat < 300) (defenderSmall : strengths.defenderStat < 300)
    (phase : Nat) (energyAttacker energyDefender : Int) :
    (roundDamage gentlest strengths phase energyAttacker energyDefender ()).1.damageAttacker =
        leastDamage strengths.defenderStat ∧
      (roundDamage gentlest strengths phase energyAttacker energyDefender ()).1.damageDefender =
        leastDamage strengths.attackerStat := by
  have base (stat : ℚ) : round (stat * ((gentlest.nextInt () 22).1 + 90) / 130) = round (stat * 90 / 130) := by
    simp [gentlest]
  obtain ⟨attackerStat, defenderStat, baseAttacker, baseDefender⟩ := strengths
  have attackerMisses := gentlest_misses attackerSmall
  have defenderMisses := gentlest_misses defenderSmall
  dsimp only at attackerMisses defenderMisses
  by_cases first : phase = 1
  · simp [roundDamage, base, gentlest_extra, attackerMisses, defenderMisses, leastDamage, first]
  · simp [roundDamage, base, gentlest_extra, attackerMisses, defenderMisses, leastDamage, first]

theorem fightRounds_gentlest (attackerSmall : strengths.attackerStat < 300)
    (defenderSmall : strengths.defenderStat < 300) (attackerNonneg : 0 ≤ strengths.attackerStat)
    (defenderNonneg : 0 ≤ strengths.defenderStat) (open_ : course.selected = .neither)
    (attackerLeft : remaining * leastDamage strengths.defenderStat < energyAttacker)
    (defenderLeft : remaining * leastDamage strengths.attackerStat < energyDefender) :
    (fightRounds gentlest input strengths remaining phase energyAttacker energyDefender course ()).selected = .neither := by
  induction remaining generalizing phase energyAttacker energyDefender course with
  | zero => exact open_
  | succ remaining ih =>
    obtain ⟨dealtAttacker, dealtDefender⟩ :=
      roundDamage_gentlest attackerSmall defenderSmall phase energyAttacker energyDefender
    have attackerLeast := mul_nonneg (Int.natCast_nonneg remaining) (leastDamage_nonneg defenderNonneg)
    have defenderLeast := mul_nonneg (Int.natCast_nonneg remaining) (leastDamage_nonneg attackerNonneg)
    push_cast at attackerLeft defenderLeft
    rw [add_mul, one_mul] at attackerLeft defenderLeft
    rw [fightRounds]
    dsimp only
    rw [dealtAttacker, dealtDefender, decideRound_eq_none.mpr ⟨by omega, by omega⟩]
    exact ih open_ (by omega) (by omega)

/-! ### The bracket -/

/-- The result names one of the two that have fought. -/
def Decided (input : TournamentBattleInput) (result : TournamentBattleResult) : Prop :=
  result.draw = false ∧ (result.winnerId = some input.attacker.id ∨ result.winnerId = some input.defender.id)

/-- A hundred rounds of the least damage use up the energy of one of the sides. -/
def EnoughDamage (log10 : Nat → ℚ) (input : TournamentBattleInput) : Prop :=
  let strengths := battleStrengths log10 input
  strengths.energyBaseAttacker ≤ 100 * leastDamage strengths.defenderStat ∨
    strengths.energyBaseDefender ≤ 100 * leastDamage strengths.attackerStat

instance (log10 : Nat → ℚ) (input : TournamentBattleInput) : Decidable (EnoughDamage log10 input) :=
  inferInstanceAs (Decidable (_ ∨ _))

/-- A participant whose numbers are not negative. -/
structure TournamentFighter.Nonnegative (fighter : TournamentFighter) : Prop where
  leadership : 0 ≤ fighter.leadership
  strength : 0 ≤ fighter.strength
  intel : 0 ≤ fighter.intel
  level : 0 ≤ fighter.level

theorem resolveTournamentStat_nonneg {fighter : TournamentFighter} (nonneg : fighter.Nonnegative) (type : TournamentType) :
    0 ≤ resolveTournamentStat type fighter := by
  have leadership : (0 : ℚ) ≤ fighter.leadership := by exact_mod_cast nonneg.leadership
  have strength : (0 : ℚ) ≤ fighter.strength := by exact_mod_cast nonneg.strength
  have intel : (0 : ℚ) ≤ fighter.intel := by exact_mod_cast nonneg.intel
  cases type with
  | leadership => exact leadership
  | strength => exact strength
  | intel => exact intel
  | total =>
    simp only [resolveTournamentStat]
    push_cast
    positivity

variable {env : TournamentEnvironment} {log10 : Nat → ℚ} {seeded : TournamentBattleInput → σ}

theorem decided_iff : Decided input (resolveTournamentBattle (env.withRounds source log10 seeded) input) ↔
    (battleCourse source log10 input (seeded input)).selected ≠ .neither := by
  rw [show battleCourse source log10 input (seeded input) = (env.withRounds source log10 seeded).fight input from rfl]
  simp only [Decided, resolveTournamentBattle]
  generalize (env.withRounds source log10 seeded).fight input = course
  obtain ⟨selected, _, _, _⟩ := course
  cases selected <;> simp

theorem decided_of_enough (knockout : input.untilDecided = true) (attacker : input.attacker.Nonnegative)
    (defender : input.defender.Nonnegative) (enough : EnoughDamage log10 input) :
    Decided input (resolveTournamentBattle (env.withRounds source log10 seeded) input) := by
  rw [decided_iff]
  intro undecided
  have turns : maxTurns input = 100 := if_pos knockout
  have attackerNonneg : 0 ≤ (battleStrengths log10 input).attackerStat := resolveTournamentStat_nonneg attacker input.type
  have defenderNonneg : 0 ≤ (battleStrengths log10 input).defenderStat := resolveTournamentStat_nonneg defender input.type
  rcases fightRounds_undecided attackerNonneg defenderNonneg knockout undecided with none_ | ⟨attackerLeft, defenderLeft⟩
  · rw [turns] at none_
    cases none_
  · rw [turns] at attackerLeft defenderLeft
    simp only [EnoughDamage] at enough
    push_cast at attackerLeft defenderLeft
    omega

theorem undecided_of_little (knockout : input.untilDecided = true) (attacker : input.attacker.Nonnegative)
    (defender : input.defender.Nonnegative) (attackerSmall : resolveTournamentStat input.type input.attacker < 300)
    (defenderSmall : resolveTournamentStat input.type input.defender < 300) (little : ¬ EnoughDamage log10 input) :
    ¬ Decided input (resolveTournamentBattle (env.withRounds gentlest log10 fun _ => ()) input) := by
  rw [decided_iff, not_not]
  have turns : maxTurns input = 100 := if_pos knockout
  simp only [EnoughDamage, not_or, not_le] at little
  have attackerNonneg : 0 ≤ (battleStrengths log10 input).attackerStat := resolveTournamentStat_nonneg attacker input.type
  have defenderNonneg : 0 ≤ (battleStrengths log10 input).defenderStat := resolveTournamentStat_nonneg defender input.type
  apply fightRounds_gentlest attackerSmall defenderSmall attackerNonneg defenderNonneg rfl
  · rw [turns]
    exact_mod_cast little.1
  · rw [turns]
    exact_mod_cast little.2

theorem nobody_positive : ∀ general ∈ ([] : List TournamentGeneral), 0 < general.id :=
  fun _ member => absurd member List.not_mem_nil

/-- A world of one month without generals, in which nobody answers. -/
def emptyEnvironment : TournamentEnvironment where
  now := 0
  baseSeed := "seed"
  generals := []
  generalsDistinct := List.nodup_nil
  generalsPositive := nobody_positive
  currentYear := 190
  startYear := 180
  fight _ := { selected := .neither, attackerDamage := 0, defenderDamage := 0, report := { log := [], logEntries := [] } }
  drawGeneral _ _ _ := 0
  drawNumber _ _ _ := 0
  shuffle _ ids := ⟨ids, List.Perm.refl ids⟩
  answer _ := none

/-- A battle of the final between two participants. -/
def finalBattle (type : TournamentType) (attacker defender : TournamentFighter) : TournamentBattleInput :=
  { type, untilDecided := true, attacker, defender, openYear := 190, openMonth := 1, stage := 10, phase := 0
    matchIndex := 15, baseSeed := "seed" }

end Sammo.Tournament
