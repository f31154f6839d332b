import Sammo.Tournament.Groups

/-! The rounds that decide a battle of a tournament. -/

namespace Sammo.Tournament

/-- A source of random numbers, each below the bound it is drawn with. -/
structure RandomSource (σ : Type) where
  nextInt : σ → Nat → Nat × σ
  below : ∀ state bound, 0 < bound → (nextInt state bound).1 < bound

/-- Rounds to the nearest integer, halves upwards. -/
def round (value : ℚ) : Int := ⌊value + 1 / 2⌋

/-- What the difference of two levels makes of the energies; the logarithm is that of the language. -/
def getLogRatio (log10 : Nat → ℚ) (lvl1 lvl2 : Int) : ℚ :=
  if lvl2 ≤ lvl1 then 1 + log10 (1 + lvl1 - lvl2).toNat / 10 else 1 - log10 (1 + lvl2 - lvl1).toNat / 10

/-- What a participant fights with. -/
def resolveTournamentStat (type : TournamentType) (fighter : TournamentFighter) : ℚ :=
  match type with
  | .leadership => fighter.leadership
  | .strength => fighter.strength
  | .intel => fighter.intel
  | .total => (fighter.leadership + fighter.strength + fighter.intel : Int) * (7 / 15)

/-- A value in decimal digits, with zeros in front. -/
def padded (width : Nat) (value : Int) : String := String.leftpad width '0' (toString value)

variable {σ : Type} (source : RandomSource σ)

/-- A part of a stat that is added to a damage if a draw does not exceed the stat. -/
def extraDamage (applies : Bool) (stat : ℚ) (chance spread base divisor : Nat) (rng : σ) : Int × σ :=
  if applies then
    let hit := source.nextInt rng chance
    if hit.1 ≤ stat then
      let part := source.nextInt hit.2 spread
      (round (stat * (part.1 + base) / divisor), part.2)
    else (0, hit.2)
  else (0, rng)

/-- The factor of a stroke of fury, if there is one. -/
def furyFactor (applies : Bool) (stat : ℚ) (rng : σ) : Option Int × σ :=
  if applies then
    let hit := source.nextInt rng 301
    if hit.1 ≤ stat then
      let part := source.nextInt hit.2 302
      (some (round ((part.1 + 200) / 100)), part.2)
    else (none, hit.2)
  else (none, rng)

/-- The two sides of a battle: their stats, and their energies at the start. -/
structure BattleStrengths where
  attackerStat : ℚ
  defenderStat : ℚ
  energyBaseAttacker : Int
  energyBaseDefender : Int
  deriving DecidableEq

/-- The strengths with which two participants meet. -/
def battleStrengths (log10 : Nat → ℚ) (input : TournamentBattleInput) : BattleStrengths :=
  let attackerStat := resolveTournamentStat input.type input.attacker
  let defenderStat := resolveTournamentStat input.type input.defender
  -- Both energies are multiplied by the ratio of the attacker to the defender.
  let ratio := getLogRatio log10 input.attacker.level input.defender.level
  { attackerStat, defenderStat
    energyBaseAttacker := round (attackerStat * ratio * 10)
    energyBaseDefender := round (defenderStat * ratio * 10) }

/-- What a round does: the damage that each side takes, and which of them strokes in fury. -/
structure RoundDamage where
  damageAttacker : Int
  damageDefender : Int
  criticalAttacker : Bool
  criticalDefender : Bool
  deriving DecidableEq

/-- The draws and the damage of a round. -/
def roundDamage (strengths : BattleStrengths) (phase : Nat) (energyAttacker energyDefender : Int) (rng : σ) :
    RoundDamage × σ :=
  let { attackerStat, defenderStat, energyBaseAttacker, energyBaseDefender } := strengths
  let firstDraw := source.nextInt rng 22
  let baseDamageAttacker := round (defenderStat * (firstDraw.1 + 90) / 130)
  let secondDraw := source.nextInt firstDraw.2 22
  let baseDamageDefender := round (attackerStat * (secondDraw.1 + 90) / 130)
  let moreDefender := extraDamage source true attackerStat 101 42 10 130 secondDraw.2
  let moreAttacker := extraDamage source true defenderStat 101 42 10 130 moreDefender.2
  let damageDefender := baseDamageDefender + moreDefender.1
  let damageAttacker := baseDamageAttacker + moreAttacker.1
  let furyAttacker := furyFactor source
    ((energyAttacker : ℚ) < energyBaseAttacker / 5 ∧ damageDefender < damageAttacker) attackerStat moreAttacker.2
  let furyDefender := furyFactor source
    ((energyDefender : ℚ) < energyBaseDefender / 5 ∧ damageAttacker < damageDefender) defenderStat furyAttacker.2
  let lastDefender :=
    if phase = 1 then
      extraDamage source (defenderStat < attackerStat * (9 / 10)) attackerStat 401 32 70 100 furyDefender.2
    else extraDamage source furyAttacker.1.isNone attackerStat 1001 32 20 100 furyDefender.2
  let lastAttacker :=
    if phase = 1 then
      extraDamage source (attackerStat < defenderStat * (9 / 10)) defenderStat 401 32 70 100 lastDefender.2
    else extraDamage source furyDefender.1.isNone defenderStat 1001 32 20 100 lastDefender.2
  -- A whole damage times a whole factor is whole.
  ({ damageAttacker := damageAttacker * furyDefender.1.getD 1 + lastAttacker.1
     damageDefender := damageDefender * furyAttacker.1.getD 1 + lastDefender.1
     criticalAttacker := furyAttacker.1.isSome
     criticalDefender := furyDefender.1.isSome }, lastAttacker.2)

/-- How a battle stands after a round, once it has ended. -/
def decideRound (untilDecided : Bool) (energyAttacker energyDefender : Int) : Option BattleSide :=
  if energyAttacker ≤ 0 ∧ energyDefender ≤ 0 then
    if untilDecided then some (if energyDefender < energyAttacker then .attacker else .defender) else some .neither
  else if energyAttacker ≤ 0 then some .defender
  else if energyDefender ≤ 0 then some .attacker
  else none

/-- The line of a round in the report. -/
def roundText (phase : Nat) (energyAttacker energyDefender : Int) (dealt : RoundDamage) : String :=
  s!"<S>●</> {padded 2 phase}合 : <C>{padded 3 energyAttacker}</>" ++
    "<span class=\"ev_highlight\">" ++ s!"(-{padded 3 dealt.damageAttacker})</span> vs " ++
    "<span class=\"ev_highlight\">" ++ s!"(-{padded 3 dealt.damageDefender})</span><C>{padded 3 energyDefender}</>"

/-- The report of a battle with one more round. -/
def reportRound (input : TournamentBattleInput) (report : TournamentReport) (phase : Nat)
    (energyAttacker energyDefender : Int) (dealt : RoundDamage) : TournamentReport :=
  let furyAttacker := if dealt.criticalAttacker then [s!"<S>●</> <Y>{input.attacker.name}</>의 분노의 일격!"] else []
  let furyDefender := if dealt.criticalDefender then [s!"<S>●</> <Y>{input.defender.name}</>의 분노의 일격!"] else []
  let text := roundText phase energyAttacker energyDefender dealt
  { log := report.log ++ furyAttacker ++ furyDefender ++ [text]
    logEntries := report.logEntries ++ [{ phase, attackerEnergy := energyAttacker, defenderEnergy := energyDefender
                                          attackerDamage := dealt.damageAttacker
                                          defenderDamage := dealt.damageDefender, text }] }

/-- The rounds that are left, until the battle has ended. -/
def fightRounds (input : TournamentBattleInput) (strengths : BattleStrengths) :
    (remaining phase : Nat) → (energyAttacker energyDefender : Int) → BattleCourse → σ → BattleCourse
  | 0, _, _, _, course, _ => course
  | remaining + 1, phase, energyAttacker, energyDefender, course, rng =>
    let (dealt, rng) := roundDamage source strengths phase energyAttacker energyDefender rng
    let energyAttacker := energyAttacker - dealt.damageAttacker
    let energyDefender := energyDefender - dealt.damageDefender
    let course := { course with
      attackerDamage := course.attackerDamage + dealt.damageAttacker
      defenderDamage := course.defenderDamage + dealt.damageDefender
      report := reportRound input course.report phase energyAttacker energyDefender dealt }
    match decideRound input.untilDecided energyAttacker energyDefender with
    | some selected => { course with selected }
    | none => fightRounds input strengths remaining (phase + 1) energyAttacker energyDefender course rng

/-- The last line of a report. -/
def verdictText (input : TournamentBattleInput) : BattleSide → String
  | .attacker => s!"<S>●</> <Y>{input.attacker.name}</> <S>승리</>!"
  | .defender => s!"<S>●</> <Y>{input.defender.name}</> <S>승리</>!"
  | .neither => s!"<S>●</> <Y>{input.attacker.name}</> <S>무승부</>!"

/-- How many rounds a battle has at most. -/
def maxTurns (input : TournamentBattleInput) : Nat := if input.untilDecided then 100 else 10

/-- A battle, from its first round to its last. -/
def battleCourse (log10 : Nat → ℚ) (input : TournamentBattleInput) (rng : σ) : BattleCourse :=
  let strengths := battleStrengths log10 input
  let opening := s!"<S>●</> <Y>{input.attacker.name}</> <C>({strengths.energyBaseAttacker})</> vs " ++
    s!"<C>({strengths.energyBaseDefender})</> <Y>{input.defender.name}</>"
  let course := fightRounds source input strengths (maxTurns input) 1 strengths.energyBaseAttacker
    strengths.energyBaseDefender
    { selected := .neither, attackerDamage := 0, defenderDamage := 0, report := { log := [opening], logEntries := [] } } rng
  { course with
    report := { course.report with log := course.report.log ++ [verdictText input course.selected] } }

/-- An environment in which the battles are fought round by round, each with the generator of its seed. -/
def TournamentEnvironment.withRounds (env : TournamentEnvironment) (log10 : Nat → ℚ)
    (seeded : TournamentBattleInput → σ) : TournamentEnvironment :=
  { env with fight := fun input => battleCourse source log10 input (seeded input) }

end Sammo.Tournament
