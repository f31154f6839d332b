import Sammo.War.Casualties

/-! How the raw damages of a phase are cut down to what both sides have. -/

namespace Sammo.War

/-- How many times over the worse hit side would be wiped out. -/
def overkillRatio (rawAttacker rawDefender attackerHP defenderHP : ℚ) : ℚ :=
  max (rawAttacker / max 1 attackerHP) (rawDefender / max 1 defenderHP)

/-- Losses that are a fair share of the raw damages, the attacker's first. -/
structure Clipped (rawAttacker rawDefender attackerHP defenderHP : ℚ) (losses : ℚ × ℚ) : Prop where
  attackerWithin : 0 ≤ losses.1 ∧ losses.1 ≤ attackerHP
  defenderWithin : 0 ≤ losses.2 ∧ losses.2 ≤ defenderHP
  attackerWhole : IsWhole losses.1 ∨ losses.1 = attackerHP
  defenderWhole : IsWhole losses.2 ∨ losses.2 = defenderHP
  /-- A fraction of a blow against less than one man of the defence makes the ratio fall short of one. -/
  attackerAtMostRaw : IsWhole rawDefender ∨ 1 ≤ defenderHP → losses.1 ≤ ⌈rawAttacker⌉
  defenderAtMostRaw : losses.2 ≤ ⌈rawDefender⌉
  overkill : attackerHP < rawAttacker ∨ defenderHP < rawDefender →
    let ratio := overkillRatio rawAttacker rawDefender attackerHP defenderHP
    losses.2 = defenderHP ∧ losses.1 = min (⌈rawAttacker / ratio⌉ : ℚ) attackerHP ∨
      losses.1 = attackerHP ∧ losses.2 = min (⌈rawDefender / ratio⌉ : ℚ) defenderHP

namespace Battle

theorem min_ceil_self (hp : ℚ) : min (⌈hp⌉ : ℚ) hp = hp := min_eq_right (Int.le_ceil hp)

variable {hp share : ℚ} {raw : ℚ} {rawAttacker rawDefender attackerHP defenderHP : ℚ}

theorem min_ceil_nonneg (shareNonneg : 0 ≤ share) (hpNonneg : 0 ≤ hp) : 0 ≤ min (⌈share⌉ : ℚ) hp :=
  le_min (shareNonneg.trans (Int.le_ceil share)) hpNonneg

theorem min_ceil_whole (share hp : ℚ) : IsWhole (min (⌈share⌉ : ℚ) hp) ∨ min (⌈share⌉ : ℚ) hp = hp := by
  rcases min_choice (⌈share⌉ : ℚ) hp with rounded | everything
  · left
    rw [rounded]
    exact ⟨_, rfl⟩
  · right
    exact everything

theorem min_ceil_le (smaller : share ≤ raw) : min (⌈share⌉ : ℚ) hp ≤ ⌈raw⌉ := by
  have rounded : (⌈share⌉ : ℚ) ≤ ⌈raw⌉ := by exact_mod_cast Int.ceil_le_ceil smaller
  exact (min_le_left _ _).trans rounded

theorem one_lt_ratio (alive : 1 ≤ hp) (exceeds : hp < raw) : 1 < raw / max 1 hp := by
  rw [max_eq_right alive, lt_div_iff₀ (by linarith), one_mul]
  exact exceeds

theorem one_le_ratio (hpNonneg : 0 ≤ hp) (countable : IsWhole raw ∨ 1 ≤ hp) (exceeds : hp < raw) :
    1 ≤ raw / max 1 hp := by
  by_cases alive : 1 ≤ hp
  · exact (one_lt_ratio alive exceeds).le
  · -- A whole number above zero is at least one.
    have whole : IsWhole raw := countable.resolve_right alive
    obtain ⟨number, rfl⟩ := whole
    have positive : (0 : ℚ) < number := hpNonneg.trans_lt exceeds
    have counted : (1 : ℚ) ≤ number := by
      have above : 0 < number := by exact_mod_cast positive
      exact_mod_cast above
    rw [max_eq_left (not_le.mp alive).le, div_one]
    exact counted

theorem one_le_overkillRatio (alive : 1 ≤ attackerHP) (standing : 0 ≤ defenderHP)
    (countable : IsWhole rawDefender ∨ 1 ≤ defenderHP)
    (exceeds : attackerHP < rawAttacker ∨ defenderHP < rawDefender) :
    1 ≤ overkillRatio rawAttacker rawDefender attackerHP defenderHP := by
  rcases exceeds with attacker | defender
  · exact (one_lt_ratio alive attacker).le.trans (le_max_left _ _)
  · exact (one_le_ratio standing countable defender).trans (le_max_right _ _)

theorem hp_le_raw (worse : 1 ≤ raw / max 1 hp) : hp ≤ raw := by
  have positive : (0 : ℚ) < max 1 hp := lt_of_lt_of_le one_pos (le_max_left _ _)
  rw [le_div_iff₀ positive, one_mul] at worse
  exact (le_max_right _ _).trans worse

theorem appliedDamage_plain (bearable : ¬ (attackerHP < rawAttacker ∨ defenderHP < rawDefender)) :
    appliedDamage rawAttacker rawDefender attackerHP defenderHP =
      (min (⌈rawAttacker⌉ : ℚ) attackerHP, min (⌈rawDefender⌉ : ℚ) defenderHP) := by
  simp only [appliedDamage, limitDamage, if_neg bearable]

theorem appliedDamage_defender (exceeds : attackerHP < rawAttacker ∨ defenderHP < rawDefender)
    (worse : rawAttacker / max 1 attackerHP < rawDefender / max 1 defenderHP) :
    appliedDamage rawAttacker rawDefender attackerHP defenderHP =
      (min (⌈rawAttacker / overkillRatio rawAttacker rawDefender attackerHP defenderHP⌉ : ℚ) attackerHP,
        defenderHP) := by
  simp only [appliedDamage, limitDamage, if_pos exceeds, if_pos worse, overkillRatio, max_eq_right worse.le,
    min_ceil_self]

theorem appliedDamage_attacker (exceeds : attackerHP < rawAttacker ∨ defenderHP < rawDefender)
    (worse : ¬ rawAttacker / max 1 attackerHP < rawDefender / max 1 defenderHP) :
    appliedDamage rawAttacker rawDefender attackerHP defenderHP =
      (attackerHP,
        min (⌈rawDefender / overkillRatio rawAttacker rawDefender attackerHP defenderHP⌉ : ℚ) defenderHP) := by
  simp only [appliedDamage, limitDamage, if_pos exceeds, if_neg worse, overkillRatio, max_eq_left (not_lt.mp worse),
    min_ceil_self]

theorem appliedDamage_clipped (attackerRaw : 0 ≤ rawAttacker) (defenderRaw : 0 ≤ rawDefender)
    (alive : 1 ≤ attackerHP) (standing : 0 ≤ defenderHP) :
    Clipped rawAttacker rawDefender attackerHP defenderHP
      (appliedDamage rawAttacker rawDefender attackerHP defenderHP) := by
  have attackerHP_nonneg : 0 ≤ attackerHP := by linarith
  by_cases exceeds : attackerHP < rawAttacker ∨ defenderHP < rawDefender
  · -- A damage over the ratio is a share of it, wherever the ratio is not below one.
    have ratioNonneg : 0 ≤ overkillRatio rawAttacker rawDefender attackerHP defenderHP :=
      le_max_of_le_left (div_nonneg attackerRaw (by linarith [le_max_left 1 attackerHP]))
    have ratio (countable : IsWhole rawDefender ∨ 1 ≤ defenderHP) :=
      one_le_overkillRatio alive standing countable exceeds
    by_cases worse : rawAttacker / max 1 attackerHP < rawDefender / max 1 defenderHP
    · rw [appliedDamage_defender exceeds worse]
      have emptied : defenderHP ≤ rawDefender := by
        rcases exceeds with attacker | defender
        · exact hp_le_raw ((one_lt_ratio alive attacker).le.trans worse.le)
        · exact defender.le
      exact {
        attackerWithin := ⟨min_ceil_nonneg (div_nonneg attackerRaw ratioNonneg) attackerHP_nonneg, min_le_right _ _⟩
        defenderWithin := ⟨standing, le_rfl⟩
        attackerWhole := min_ceil_whole _ _
        defenderWhole := Or.inr rfl
        attackerAtMostRaw := fun countable => min_ceil_le (div_le_self attackerRaw (ratio countable))
        defenderAtMostRaw := emptied.trans (Int.le_ceil _)
        overkill := fun _ => Or.inl ⟨rfl, rfl⟩ }
    · rw [appliedDamage_attacker exceeds worse]
      have emptied (countable : IsWhole rawDefender ∨ 1 ≤ defenderHP) : attackerHP ≤ rawAttacker := by
        apply hp_le_raw
        have greater := ratio countable
        rwa [overkillRatio, max_eq_left (not_lt.mp worse)] at greater
      have share : min (⌈rawDefender / overkillRatio rawAttacker rawDefender attackerHP defenderHP⌉ : ℚ) defenderHP ≤
          ⌈rawDefender⌉ := by
        rcases exceeds with attacker | defender
        · have above := (one_lt_ratio alive attacker).le.trans
            (le_max_left _ (rawDefender / max 1 defenderHP))
          exact min_ceil_le (div_le_self defenderRaw above)
        · exact (min_le_right _ _).trans (defender.le.trans (Int.le_ceil _))
      exact {
        attackerWithin := ⟨attackerHP_nonneg, le_rfl⟩
        defenderWithin := ⟨min_ceil_nonneg (div_nonneg defenderRaw ratioNonneg) standing, min_le_right _ _⟩
        attackerWhole := Or.inr rfl
        defenderWhole := min_ceil_whole _ _
        attackerAtMostRaw := fun countable => (emptied countable).trans (Int.le_ceil _)
        defenderAtMostRaw := share
        overkill := fun _ => Or.inr ⟨rfl, rfl⟩ }
  · rw [appliedDamage_plain exceeds]
    exact {
      attackerWithin := ⟨min_ceil_nonneg attackerRaw attackerHP_nonneg, min_le_right _ _⟩
      defenderWithin := ⟨min_ceil_nonneg defenderRaw standing, min_le_right _ _⟩
      attackerWhole := min_ceil_whole _ _
      defenderWhole := min_ceil_whole _ _
      attackerAtMostRaw := fun _ => min_ceil_le le_rfl
      defenderAtMostRaw := min_ceil_le le_rfl
      overkill := fun beyond => absurd beyond exceeds }

variable {ρ : Type}

theorem fightPhase_getHP (rules : WarRules ρ) (battle : Battle ρ) {defender : UnitId} (other : defender ≠ .attacker) :
    (fightPhase rules battle defender).getHP .attacker =
        battle.getHP .attacker - (phaseLosses rules battle defender).1 ∧
      (fightPhase rules battle defender).getHP defender =
        battle.getHP defender - (phaseLosses rules battle defender).2 := by
  have booked (id : UnitId) := congrArg Ledger.hp (congrFun (fightPhase_struck rules battle other) id)
  constructor
  · have attacker := booked .attacker
    rw [struck, Function.update_of_ne other.symm, Function.update_self] at attacker
    exact attacker
  · have defending := booked defender
    rw [struck, Function.update_self] at defending
    exact defending

theorem rawDamage_whole (rules : WarRules ρ) (battle : Battle ρ) (defender : UnitId) :
    IsWhole (rawDamage rules battle defender).1 ∧ IsWhole (rawDamage rules battle defender).2 :=
  ⟨⟨_, rfl⟩, ⟨_, rfl⟩⟩

end Battle

open Battle

end Sammo.War
