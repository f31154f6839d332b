import Mathlib.Tactic.Linarith
import Mathlib.Tactic.Ring
import Mathlib.Algebra.BigOperators.Ring.List
import Mathlib.Algebra.Order.BigOperators.Group.List
import Sammo.Betting.NationBetting
import Sammo.Lib.OrderedMap

/-! The rewards of a bet on nations share out all that was staked, and no more. -/

namespace Sammo.Betting

theorem purifyNationBettingSelection_ok {selection unique : List Int} {selectCount : ℕ}
    (purified : purifyNationBettingSelection selection selectCount = .ok unique) :
    unique.length = selectCount ∧ unique.Nodup ∧ ∀ candidate, candidate ∈ unique ↔ candidate ∈ selection := by
  -- In a sorted list equal candidates stand side by side.
  have sorted : (selection.insertionSort (· ≤ ·)).Pairwise (· ≤ ·) := List.pairwise_insertionSort _ _
  simp only [purifyNationBettingSelection, sorted.destutter_eq_dedup] at purified
  split at purified
  · cases purified
  · rename_i enough
    rw [← Except.ok.inj purified]
    refine ⟨not_not.mp enough, List.nodup_dedup _, fun candidate => ?_⟩
    rw [List.mem_dedup, List.mem_insertionSort]

/-- Only the very winners count. -/
def OneWinner (selectCount : ℕ) (isExclusive : Option Bool) : Prop := selectCount = 1 ∨ isExclusive = some true

instance (selectCount : ℕ) (isExclusive : Option Bool) : Decidable (OneWinner selectCount isExclusive) :=
  inferInstanceAs (Decidable (_ ∨ _))

/-- A general's stake qualifies with the very winners, or where they need not be, with any of them. -/
def NationBettingStake.Qualifies (selectCount : ℕ) (isExclusive : Option Bool) (winner : List Int)
    (stake : NationBettingStake) : Prop :=
  if OneWinner selectCount isExclusive then 0 < stake.generalId ∧ stake.selection = winner
  else stake.generalId ≠ 0 ∧ 1 ≤ stake.matchPoint winner ∧ stake.matchPoint winner ≤ selectCount

instance (selectCount : ℕ) (isExclusive : Option Bool) (winner : List Int) (stake : NationBettingStake) :
    Decidable (stake.Qualifies selectCount isExclusive winner) := by
  unfold NationBettingStake.Qualifies
  infer_instance

/-- The matches that a stake which qualifies is rewarded for. -/
def NationBettingStake.matched (selectCount : ℕ) (isExclusive : Option Bool) (winner : List Int)
    (stake : NationBettingStake) : ℕ :=
  if OneWinner selectCount isExclusive then selectCount else stake.matchPoint winner

/-- The stakes that qualify with a number of matches. -/
def qualifyingStakes (selectCount : ℕ) (isExclusive : Option Bool) (winner : List Int)
    (stakes : List NationBettingStake) (point : ℕ) : List NationBettingStake :=
  stakes.filter fun stake =>
    stake.Qualifies selectCount isExclusive winner ∧ stake.matched selectCount isExclusive winner = point

/-- The rewards of the match points are parts of the total, larger ones for more matches. -/
structure SharesOut (total : ℚ) (stakesAt : ℕ → List NationBettingStake) (entries : List (ℕ × ℚ)) : Prop where
  whole : entries ≠ [] → (entries.map Prod.snd).sum = total
  sign : ∀ entry ∈ entries, 0 < total * entry.2
  staked : ∀ entry ∈ entries, stakedAmount (stakesAt entry.1) ≠ 0
  covers : ∀ point, stakedAmount (stakesAt point) ≠ 0 → ∃ entry ∈ entries, entry.1 = point
  ordered : entries.Pairwise fun higher lower => lower.1 < higher.1 ∧ total * lower.2 ≤ total * higher.2

/-- What is divided, given and left over while the match points are visited down to one. -/
structure RewardSplit.Sound (total : ℚ) (stakesAt : ℕ → List NationBettingStake) (selectCount next : ℕ)
    (split : RewardSplit) : Prop where
  conserved : (split.rewardByMatch.map Prod.snd).sum + split.remainingReward = total
  remaining : split.remainingReward = split.accumulatedReward + split.givenReward
  given : 0 < total * split.givenReward
  accumulated : 0 ≤ total * split.accumulatedReward
  sign : ∀ entry ∈ split.rewardByMatch, total * split.remainingReward ≤ total * entry.2
  points : ∀ entry ∈ split.rewardByMatch, next < entry.1 ∧ entry.1 ≤ selectCount ∧
    stakedAmount (stakesAt entry.1) ≠ 0
  covers : ∀ point, next < point → point ≤ selectCount → stakedAmount (stakesAt point) ≠ 0 →
    ∃ entry ∈ split.rewardByMatch, entry.1 = point
  ordered : split.rewardByMatch.Pairwise fun higher lower => lower.1 < higher.1 ∧ total * lower.2 ≤ total * higher.2

section

variable {total : ℚ} {stakesAt : ℕ → List NationBettingStake} {selectCount : ℕ}

theorem length_ne_zero_of_staked {stakes : List NationBettingStake} (staked : stakedAmount stakes ≠ 0) :
    stakes.length ≠ 0 := by
  rintro empty
  rw [List.length_eq_zero_iff.mp empty] at staked
  exact staked rfl

theorem RewardSplit.sound_start (something : total ≠ 0) :
    RewardSplit.Sound total stakesAt selectCount selectCount ⟨total, 0, total, []⟩ where
  conserved := by simp
  remaining := by simp
  given := by
    have square := mul_self_pos.mpr something
    exact square
  accumulated := by simp
  sign := by simp
  points := by simp
  covers := fun point beyond within => absurd within (by omega)
  ordered := .nil

theorem mul_add_half (total left given : ℚ) : total * (left + given / 2) = total * left + total * given / 2 := by
  ring

variable {split : RewardSplit} {next : ℕ} {matchPoint : ℕ}

theorem RewardSplit.Sound.leave (sound : split.Sound total stakesAt selectCount (next + 1))
    (unstaked : stakedAmount (stakesAt (next + 1)) = 0) :
    RewardSplit.Sound total stakesAt selectCount next
      ⟨split.remainingReward, split.accumulatedReward + split.givenReward / 2, split.givenReward / 2,
        split.rewardByMatch⟩ where
  conserved := sound.conserved
  remaining := by
    dsimp only
    rw [sound.remaining]
    ring
  given := by
    have before := sound.given
    dsimp only
    rw [← mul_div_assoc]
    linarith
  accumulated := by
    have before := sound.accumulated
    have given := sound.given
    dsimp only
    rw [mul_add_half]
    linarith
  sign := sound.sign
  points := by
    intro entry listed
    obtain ⟨above, rest⟩ := sound.points entry listed
    exact ⟨by omega, rest⟩
  covers := by
    intro point above within staked
    -- A point with stakes is not the one that nobody has.
    have notThis : point ≠ next + 1 := by
      rintro rfl
      exact staked unstaked
    exact sound.covers point (by omega) within staked
  ordered := sound.ordered

theorem RewardSplit.Sound.divide (sound : split.Sound total stakesAt selectCount (next + 1))
    (within : next + 1 ≤ selectCount) (staked : stakedAmount (stakesAt (next + 1)) ≠ 0) :
    RewardSplit.Sound total stakesAt selectCount next
      ⟨split.remainingReward - (split.accumulatedReward + split.givenReward / 2), 0, split.givenReward / 2,
        split.rewardByMatch ++ [(next + 1, split.accumulatedReward + split.givenReward / 2)]⟩ where
  conserved := by
    simp only [List.map_append, List.map_cons, List.map_nil, List.sum_append, List.sum_cons, List.sum_nil]
    rw [← sound.conserved]
    ring
  remaining := by
    dsimp only
    rw [sound.remaining]
    ring
  given := by
    have before := sound.given
    dsimp only
    rw [← mul_div_assoc]
    linarith
  accumulated := by simp
  sign := by
    -- What remains is the half that is left below, and no part above is smaller than it.
    have rest : total * (split.remainingReward - (split.accumulatedReward + split.givenReward / 2)) =
        total * split.givenReward / 2 := by
      rw [sound.remaining]
      ring
    have whole : total * split.remainingReward = total * split.accumulatedReward + total * split.givenReward := by
      rw [sound.remaining]
      ring
    have given := sound.given
    have accumulated := sound.accumulated
    intro entry listed
    dsimp only at listed ⊢
    rw [rest]
    rcases List.mem_append.mp listed with earlier | this
    · have enough := sound.sign entry earlier
      linarith
    · rw [List.mem_singleton.mp this]
      dsimp only
      rw [mul_add_half]
      linarith
  points := by
    intro entry listed
    rcases List.mem_append.mp listed with earlier | this
    · obtain ⟨above, rest⟩ := sound.points entry earlier
      exact ⟨by omega, rest⟩
    · rw [List.mem_singleton.mp this]
      exact ⟨by dsimp only; omega, within, staked⟩
  covers := by
    intro point above notMore stakedThere
    rcases Nat.lt_or_ge (next + 1) point with higher | notHigher
    · obtain ⟨entry, listed, found⟩ := sound.covers point higher notMore stakedThere
      exact ⟨entry, List.mem_append_left _ listed, found⟩
    · exact ⟨_, List.mem_append_right _ (List.mem_singleton_self _), by dsimp only; omega⟩
  ordered := by
    -- Every part above is at least what remained, and so at least this one.
    refine List.pairwise_append.mpr ⟨sound.ordered, List.pairwise_singleton _ _, ?_⟩
    intro entry earlier lower this
    rw [List.mem_singleton.mp this]
    refine ⟨(sound.points entry earlier).1, ?_⟩
    have enough := sound.sign entry earlier
    have given := sound.given
    rw [sound.remaining, mul_add] at enough
    dsimp only
    rw [mul_add_half]
    linarith

theorem RewardSplit.Sound.give (sound : split.Sound total stakesAt selectCount (next + 1))
    (within : next + 1 ≤ selectCount) :
    (split.give stakesAt (next + 1)).Sound total stakesAt selectCount next := by
  simp only [RewardSplit.give]
  split
  · next nobody =>
    refine sound.leave ?_
    by_contra staked
    exact nobody.elim (length_ne_zero_of_staked staked) staked
  · next somebody => exact sound.divide within (not_or.mp somebody).2

theorem RewardSplit.Sound.giveDown (sound : split.Sound total stakesAt selectCount matchPoint)
    (within : matchPoint ≤ selectCount) :
    (RewardSplit.giveDown stakesAt matchPoint split).Sound total stakesAt selectCount 0 := by
  induction matchPoint generalizing split with
  | zero => exact sound
  | succ next ih => exact ih (sound.give within) (by omega)

theorem RewardSplit.giveDown_congr {others : ℕ → List NationBettingStake}
    (same : ∀ point, 1 ≤ point → point ≤ matchPoint → stakesAt point = others point) (split : RewardSplit) :
    RewardSplit.giveDown stakesAt matchPoint split = RewardSplit.giveDown others matchPoint split := by
  induction matchPoint generalizing split with
  | zero => rfl
  | succ next ih =>
    simp only [RewardSplit.giveDown, RewardSplit.give, same (next + 1) (by omega) le_rfl]
    exact ih (fun point positive within => same point positive (by omega)) _

theorem RewardSplit.Sound.sharesOut (sound : split.Sound total stakesAt selectCount 0)
    (outside : ∀ point, stakedAmount (stakesAt point) ≠ 0 → 0 < point ∧ point ≤ selectCount) :
    SharesOut total stakesAt split.withRemaining := by
  obtain ⟨conserved, remaining, given, accumulated, sign, points, covers, ordered⟩ := sound
  -- What is left over has the sign of the total, like every part.
  have left : 0 < total * split.remainingReward := by
    rw [remaining, mul_add]
    linarith
  unfold RewardSplit.withRemaining
  split
  · rename_i nothing
    rw [nothing] at covers
    refine ⟨by simp, by simp, by simp, ?_, .nil⟩
    intro point staked
    obtain ⟨positive, within⟩ := outside point staked
    exact covers point positive within staked
  · rename_i matchPoint reward rest divided
    rw [divided] at conserved sign points covers ordered
    obtain ⟨highest, below⟩ := List.pairwise_cons.mp ordered
    have first := sign _ List.mem_cons_self
    dsimp only at first
    refine ⟨?_, ?_, ?_, ?_, ?_⟩
    · intro _
      rw [← conserved]
      simp only [List.map_cons, List.sum_cons]
      ring
    · intro entry listed
      rcases List.mem_cons.mp listed with rfl | later
      · dsimp only
        rw [mul_add]
        linarith
      · exact lt_of_lt_of_le left (sign entry (List.mem_cons_of_mem _ later))
    · intro entry listed
      rcases List.mem_cons.mp listed with rfl | later
      · exact (points _ List.mem_cons_self).2.2
      · exact (points entry (List.mem_cons_of_mem _ later)).2.2
    · intro point staked
      obtain ⟨positive, within⟩ := outside point staked
      obtain ⟨entry, listed, found⟩ := covers point positive within staked
      rcases List.mem_cons.mp listed with rfl | later
      · exact ⟨_, List.mem_cons_self, found⟩
      · exact ⟨entry, List.mem_cons_of_mem _ later, found⟩
    · refine List.pairwise_cons.mpr ⟨fun lower later => ?_, below⟩
      obtain ⟨fewer, smaller⟩ := highest lower later
      refine ⟨fewer, ?_⟩
      dsimp only at smaller ⊢
      rw [mul_add]
      linarith

end

section

variable {selectCount : ℕ} {isExclusive : Option Bool} {winner : List Int} {stakes : List NationBettingStake}

theorem qualifyingStakes_of_oneWinner (one : OneWinner selectCount isExclusive) :
    qualifyingStakes selectCount isExclusive winner stakes selectCount =
      stakes.filter fun stake => 0 < stake.generalId ∧ stake.selection = winner := by
  refine List.filter_congr fun stake _ => ?_
  simp only [NationBettingStake.Qualifies, NationBettingStake.matched, if_pos one, and_true]

variable {point : ℕ}

theorem qualifyingStakes_of_oneWinner_ne (one : OneWinner selectCount isExclusive) (other : point ≠ selectCount) :
    qualifyingStakes selectCount isExclusive winner stakes point = [] := by
  refine List.filter_eq_nil_iff.mpr fun stake _ => ?_
  simp only [NationBettingStake.matched, if_pos one, decide_eq_true_eq, not_and]
  exact fun _ same => other same.symm

theorem qualifyingStakes_of_not_oneWinner (many : ¬ OneWinner selectCount isExclusive)
    (within : 1 ≤ point ∧ point ≤ selectCount) :
    qualifyingStakes selectCount isExclusive winner stakes point = stakesByMatch winner stakes point := by
  refine List.filter_congr fun stake _ => ?_
  simp only [NationBettingStake.Qualifies, NationBettingStake.matched, if_neg many, decide_eq_decide]
  constructor
  · rintro ⟨⟨general, _⟩, same⟩
    exact ⟨same, general⟩
  · rintro ⟨rfl, general⟩
    exact ⟨⟨general, within⟩, rfl⟩

theorem within_of_mem_qualifyingStakes (many : ¬ OneWinner selectCount isExclusive) {stake : NationBettingStake}
    (qualified : stake ∈ qualifyingStakes selectCount isExclusive winner stakes point) :
    1 ≤ point ∧ point ≤ selectCount := by
  have found := (List.mem_filter.mp qualified).2
  simp only [NationBettingStake.Qualifies, NationBettingStake.matched, if_neg many, decide_eq_true_eq] at found
  obtain ⟨⟨_, within⟩, rfl⟩ := found
  exact within

theorem exists_mem_of_staked {stakes : List NationBettingStake} (staked : stakedAmount stakes ≠ 0) :
    ∃ stake, stake ∈ stakes :=
  List.exists_mem_of_length_pos (Nat.pos_of_ne_zero (length_ne_zero_of_staked staked))

theorem flatMap_rewardsOfMatch_congr {total : ℚ} {stakesAt others : ℕ → List NationBettingStake}
    {entries : List (ℕ × ℚ)} (shares : SharesOut total stakesAt entries)
    (same : ∀ point, stakedAmount (stakesAt point) ≠ 0 → others point = stakesAt point) :
    entries.flatMap (rewardsOfMatch others) = entries.flatMap (rewardsOfMatch stakesAt) := by
  refine List.flatMap_congr fun entry listed => ?_
  simp only [rewardsOfMatch, same entry.1 (shares.staked entry listed)]

theorem point_of_oneWinner (one : OneWinner selectCount isExclusive)
    (staked : stakedAmount (qualifyingStakes selectCount isExclusive winner stakes point) ≠ 0) :
    point = selectCount := by
  by_contra other
  rw [qualifyingStakes_of_oneWinner_ne one other] at staked
  exact staked rfl

theorem sharesOut_nobody (total : ℚ) (one : OneWinner selectCount isExclusive)
    (nobody : stakedAmount (qualifyingStakes selectCount isExclusive winner stakes selectCount) = 0) :
    SharesOut total (qualifyingStakes selectCount isExclusive winner stakes) [] := by
  refine ⟨by simp, by simp, by simp, ?_, .nil⟩
  intro point staked
  rw [point_of_oneWinner one staked] at staked
  exact absurd nobody staked

theorem sharesOut_winners {total : ℚ} (something : total ≠ 0) (one : OneWinner selectCount isExclusive)
    (staked : stakedAmount (qualifyingStakes selectCount isExclusive winner stakes selectCount) ≠ 0) :
    SharesOut total (qualifyingStakes selectCount isExclusive winner stakes) [(selectCount, total)] := by
  refine ⟨by simp, ?_, ?_, ?_, List.pairwise_singleton _ _⟩
  · intro entry listed
    rw [List.mem_singleton.mp listed]
    exact mul_self_pos.mpr something
  · intro entry listed
    rw [List.mem_singleton.mp listed]
    exact staked
  · exact fun point there => ⟨_, List.mem_singleton_self _, (point_of_oneWinner one there).symm⟩

theorem calculateNationBettingRewards_ok {drawn : List Int} {rewards : List NationBettingReward}
    (purified : purifyNationBettingSelection drawn selectCount = .ok winner)
    (calculated : calculateNationBettingRewards selectCount isExclusive drawn stakes = .ok rewards) :
    stakedAmount stakes = 0 ∧ rewards = [] ∨
      ∃ entries,
        SharesOut (stakedAmount stakes) (qualifyingStakes selectCount isExclusive winner stakes) entries ∧
          rewards = entries.flatMap (rewardsOfMatch (qualifyingStakes selectCount isExclusive winner stakes)) := by
  simp only [calculateNationBettingRewards, purified, Bind.bind, Except.bind] at calculated
  by_cases nothing : stakedAmount stakes = 0
  · rw [if_pos nothing] at calculated
    exact .inl ⟨nothing, (Except.ok.inj calculated).symm⟩
  rw [if_neg nothing] at calculated
  refine .inr ?_
  by_cases one : OneWinner selectCount isExclusive
  · -- The stakes on the very winners get all, or there are none.
    rw [if_pos (show selectCount = 1 ∨ isExclusive = some true from one),
      ← qualifyingStakes_of_oneWinner one] at calculated
    split at calculated
    · next nobody => exact ⟨[], sharesOut_nobody _ one nobody, (Except.ok.inj calculated).symm⟩
    · next staked =>
      refine ⟨[(selectCount, stakedAmount stakes)], sharesOut_winners nothing one staked, ?_⟩
      rw [← Except.ok.inj calculated, List.flatMap_singleton, rewardsOfMatch,
        if_neg (not_or.mpr ⟨nothing, staked⟩)]
  · -- The stakes are divided by match points, of which only those within the selection have any.
    rw [if_neg (show ¬ (selectCount = 1 ∨ isExclusive = some true) from one)] at calculated
    have outside : ∀ point, stakedAmount (qualifyingStakes selectCount isExclusive winner stakes point) ≠ 0 →
        0 < point ∧ point ≤ selectCount := by
      intro point staked
      obtain ⟨stake, qualified⟩ := exists_mem_of_staked staked
      exact within_of_mem_qualifyingStakes one qualified
    have same : ∀ point, 1 ≤ point → point ≤ selectCount → stakesByMatch winner stakes point =
        qualifyingStakes selectCount isExclusive winner stakes point :=
      fun point positive within => (qualifyingStakes_of_not_oneWinner one ⟨positive, within⟩).symm
    have shares := ((RewardSplit.sound_start nothing).giveDown le_rfl).sharesOut outside
    rw [← RewardSplit.giveDown_congr same] at shares
    refine ⟨_, shares, ?_⟩
    rw [← Except.ok.inj calculated]
    refine flatMap_rewardsOfMatch_congr shares fun point staked => ?_
    obtain ⟨positive, within⟩ := outside point staked
    exact same point positive within

end

/-- What rewards add up to. -/
def rewardedAmount (rewards : List NationBettingReward) : ℚ := (rewards.map NationBettingReward.amount).sum

/-- What the stakes with a number of matches are rewarded with together. -/
def rewardPool (rewards : List NationBettingReward) (point : ℕ) : ℚ :=
  rewardedAmount (rewards.filter fun reward => reward.matchPoint = point)

section

variable {total : ℚ} {stakesAt : ℕ → List NationBettingStake} {entries : List (ℕ × ℚ)}

variable {entry : ℕ × ℚ}

theorem mem_rewardsOfMatch (rewarded : entry.2 ≠ 0) (staked : stakedAmount (stakesAt entry.1) ≠ 0)
    {reward : NationBettingReward} :
    reward ∈ rewardsOfMatch stakesAt entry ↔ ∃ stake ∈ stakesAt entry.1,
      stake.rewardAt (entry.2 / stakedAmount (stakesAt entry.1)) entry.1 = reward := by
  rw [rewardsOfMatch, if_neg (not_or.mpr ⟨rewarded, staked⟩), List.mem_map]

theorem rewardedAmount_rewardsOfMatch (rewarded : entry.2 ≠ 0) (staked : stakedAmount (stakesAt entry.1) ≠ 0) :
    rewardedAmount (rewardsOfMatch stakesAt entry) = entry.2 := by
  rw [rewardsOfMatch, if_neg (not_or.mpr ⟨rewarded, staked⟩), rewardedAmount, List.map_map]
  -- Each stake is multiplied by what its match point gets for one that is staked.
  show ((stakesAt entry.1).map fun stake => stake.amount * (entry.2 / stakedAmount (stakesAt entry.1))).sum = entry.2
  rw [List.sum_map_mul_right]
  exact mul_div_cancel₀ entry.2 staked

theorem rewardedAmount_append (rewards more : List NationBettingReward) :
    rewardedAmount (rewards ++ more) = rewardedAmount rewards + rewardedAmount more := by
  rw [rewardedAmount, List.map_append, List.sum_append]
  rfl

theorem filter_rewardsOfMatch (entry : ℕ × ℚ) (point : ℕ) :
    ((rewardsOfMatch stakesAt entry).filter fun reward => reward.matchPoint = point) =
      if entry.1 = point then rewardsOfMatch stakesAt entry else [] := by
  have point : ∀ reward ∈ rewardsOfMatch stakesAt entry, reward.matchPoint = entry.1 := by
    intro reward listed
    simp only [rewardsOfMatch] at listed
    split at listed
    · cases listed
    · obtain ⟨stake, _, rfl⟩ := List.mem_map.mp listed
      rfl
  split
  · rename_i same
    exact List.filter_eq_self.mpr fun reward listed => by simpa [point reward listed] using same
  · rename_i other
    exact List.filter_eq_nil_iff.mpr fun reward listed => by simpa [point reward listed] using other

theorem rewardedAmount_flatMap
    (paid : ∀ entry ∈ entries, entry.2 ≠ 0 ∧ stakedAmount (stakesAt entry.1) ≠ 0) :
    rewardedAmount (entries.flatMap (rewardsOfMatch stakesAt)) = (entries.map Prod.snd).sum := by
  induction entries with
  | nil => rfl
  | cons entry rest ih =>
    obtain ⟨rewarded, staked⟩ := paid entry List.mem_cons_self
    rw [List.flatMap_cons, rewardedAmount_append, rewardedAmount_rewardsOfMatch rewarded staked,
      ih fun other later => paid other (List.mem_cons_of_mem _ later), List.map_cons, List.sum_cons]

theorem rewardPool_flatMap_of_absent {point : ℕ} (absent : ∀ entry ∈ entries, entry.1 ≠ point) :
    rewardPool (entries.flatMap (rewardsOfMatch stakesAt)) point = 0 := by
  rw [rewardPool, List.filter_flatMap]
  have nothing : (entries.flatMap fun entry =>
      (rewardsOfMatch stakesAt entry).filter fun reward => reward.matchPoint = point) = [] := by
    refine List.flatMap_eq_nil_iff.mpr fun entry listed => ?_
    rw [filter_rewardsOfMatch, if_neg (absent entry listed)]
  rw [nothing]
  rfl

theorem rewardPool_flatMap (paid : ∀ entry ∈ entries, entry.2 ≠ 0 ∧ stakedAmount (stakesAt entry.1) ≠ 0)
    (apart : entries.Pairwise fun higher lower => lower.1 < higher.1) (listed : entry ∈ entries) :
    rewardPool (entries.flatMap (rewardsOfMatch stakesAt)) entry.1 = entry.2 := by
  -- The parts are of different match points, so only its own counts.
  induction entries with
  | nil => cases listed
  | cons first rest ih =>
    obtain ⟨highest, below⟩ := List.pairwise_cons.mp apart
    have split : rewardPool ((first :: rest).flatMap (rewardsOfMatch stakesAt)) entry.1 =
        rewardedAmount (if first.1 = entry.1 then rewardsOfMatch stakesAt first else []) +
          rewardPool (rest.flatMap (rewardsOfMatch stakesAt)) entry.1 := by
      rw [rewardPool, List.flatMap_cons, List.filter_append, rewardedAmount_append, filter_rewardsOfMatch]
      rfl
    rw [split]
    rcases List.mem_cons.mp listed with rfl | later
    · obtain ⟨rewarded, staked⟩ := paid entry List.mem_cons_self
      rw [if_pos rfl, rewardedAmount_rewardsOfMatch rewarded staked,
        rewardPool_flatMap_of_absent fun other later => (highest other later).ne, add_zero]
    · rw [if_neg (highest entry later).ne', ih (fun other later => paid other (List.mem_cons_of_mem _ later)) below
        later]
      exact zero_add _

theorem SharesOut.paid (shares : SharesOut total stakesAt entries) :
    ∀ entry ∈ entries, entry.2 ≠ 0 ∧ stakedAmount (stakesAt entry.1) ≠ 0 :=
  fun entry listed => ⟨right_ne_zero_of_mul (shares.sign entry listed).ne', shares.staked entry listed⟩

theorem SharesOut.apart (shares : SharesOut total stakesAt entries) :
    entries.Pairwise fun higher lower => lower.1 < higher.1 :=
  shares.ordered.imp And.left

theorem SharesOut.le_of_lt (shares : SharesOut total stakesAt entries) (positive : 0 < total)
    {lower higher : ℕ × ℚ} (lowerListed : lower ∈ entries) (higherListed : higher ∈ entries)
    (more : lower.1 < higher.1) : lower.2 ≤ higher.2 := by
  -- The parts are listed from the most matches down, so of two parts either is the earlier.
  let Smaller (first second : ℕ × ℚ) : Prop := second.1 < first.1 → total * second.2 ≤ total * first.2
  have either : ∀ ⦃first⦄, first ∈ entries → ∀ ⦃second⦄, second ∈ entries → Smaller first second := by
    refine List.Pairwise.forall_of_forall_of_flip (R := Smaller) ?_ ?_ ?_
    · exact fun entry _ less => absurd less (lt_irrefl _)
    · exact shares.ordered.imp fun ordered _ => ordered.2
    · exact shares.ordered.imp fun ordered less => absurd less ordered.1.not_gt
  exact le_of_mul_le_mul_left (either higherListed lowerListed more) positive

end

/-- The reward of a stake that qualifies is its part of what its match point gets together. -/
def NationBettingStake.settled (selectCount : ℕ) (isExclusive : Option Bool) (winner : List Int)
    (stakes : List NationBettingStake) (rewards : List NationBettingReward) (stake : NationBettingStake) :
    NationBettingReward :=
  let point := stake.matched selectCount isExclusive winner
  let staked := stakedAmount (qualifyingStakes selectCount isExclusive winner stakes point)
  stake.rewardAt (rewardPool rewards point / staked) point

/-- What is promised of the rewards of a bet with its winners. -/
structure Settles (selectCount : ℕ) (isExclusive : Option Bool) (winner : List Int)
    (stakes : List NationBettingStake) (rewards : List NationBettingReward) : Prop where
  conserved : (∃ point, stakedAmount (qualifyingStakes selectCount isExclusive winner stakes point) ≠ 0) →
    rewardedAmount rewards = stakedAmount stakes
  empty : (∀ point, stakedAmount (qualifyingStakes selectCount isExclusive winner stakes point) = 0) → rewards = []
  qualified : ∀ reward ∈ rewards, ∃ stake ∈ stakes, stake.Qualifies selectCount isExclusive winner ∧
    stake.settled selectCount isExclusive winner stakes rewards = reward

/-- What is also promised when every stake is of some amount. -/
structure SettlesFairly (selectCount : ℕ) (isExclusive : Option Bool) (winner : List Int)
    (stakes : List NationBettingStake) (rewards : List NationBettingReward) : Prop where
  conserved : (∃ stake ∈ stakes, stake.Qualifies selectCount isExclusive winner) →
    rewardedAmount rewards = stakedAmount stakes
  empty : (∀ stake ∈ stakes, ¬ stake.Qualifies selectCount isExclusive winner) → rewards = []
  rewarded : ∀ stake ∈ stakes, stake.Qualifies selectCount isExclusive winner →
    stake.settled selectCount isExclusive winner stakes rewards ∈ rewards
  pools : ∀ stake ∈ stakes, ∀ better ∈ stakes, stake.Qualifies selectCount isExclusive winner →
    better.Qualifies selectCount isExclusive winner →
    stake.matched selectCount isExclusive winner ≤ better.matched selectCount isExclusive winner →
    rewardPool rewards (stake.matched selectCount isExclusive winner) ≤
      rewardPool rewards (better.matched selectCount isExclusive winner)
  notLess : ∀ stake ∈ stakes, ∀ better ∈ stakes, stake.Qualifies selectCount isExclusive winner →
    better.Qualifies selectCount isExclusive winner → stake.amount = better.amount →
    stake.matched selectCount isExclusive winner ≤ better.matched selectCount isExclusive winner →
    stakedAmount (qualifyingStakes selectCount isExclusive winner stakes
        (better.matched selectCount isExclusive winner)) ≤
      stakedAmount (qualifyingStakes selectCount isExclusive winner stakes
        (stake.matched selectCount isExclusive winner)) →
    (stake.settled selectCount isExclusive winner stakes rewards).amount ≤
      (better.settled selectCount isExclusive winner stakes rewards).amount

section

variable {selectCount : ℕ} {isExclusive : Option Bool} {winner : List Int} {stakes : List NationBettingStake}

variable {stake : NationBettingStake}

theorem mem_qualifyingStakes {point : ℕ} :
    stake ∈ qualifyingStakes selectCount isExclusive winner stakes point ↔
      stake ∈ stakes ∧ stake.Qualifies selectCount isExclusive winner ∧
        stake.matched selectCount isExclusive winner = point := by
  simp [qualifyingStakes]

theorem stakedAmount_pos {stakes : List NationBettingStake} (positive : ∀ stake ∈ stakes, 0 < stake.amount)
    (listed : stake ∈ stakes) : 0 < stakedAmount stakes := by
  refine List.sum_pos _ ?_ ?_
  · intro amount found
    obtain ⟨other, member, rfl⟩ := List.mem_map.mp found
    exact positive other member
  · exact List.ne_nil_of_mem (List.mem_map_of_mem listed)

theorem staked_of_qualifies (positive : ∀ stake ∈ stakes, 0 < stake.amount) (listed : stake ∈ stakes)
    (qualifies : stake.Qualifies selectCount isExclusive winner) :
    0 < stakedAmount (qualifyingStakes selectCount isExclusive winner stakes
      (stake.matched selectCount isExclusive winner)) :=
  stakedAmount_pos (fun other member => positive other (mem_qualifyingStakes.mp member).1)
    (mem_qualifyingStakes.mpr ⟨listed, qualifies, rfl⟩)

theorem settles_nil (nothing : stakedAmount stakes = 0) : Settles selectCount isExclusive winner stakes [] where
  conserved := fun _ => nothing.symm
  empty := fun _ => rfl
  qualified := by simp

variable {entries : List (ℕ × ℚ)}
  (shares : SharesOut (stakedAmount stakes) (qualifyingStakes selectCount isExclusive winner stakes) entries)

include shares

theorem SharesOut.settled {entry : ℕ × ℚ} (listed : entry ∈ entries)
    (matched : stake.matched selectCount isExclusive winner = entry.1) :
    stake.settled selectCount isExclusive winner stakes
        (entries.flatMap (rewardsOfMatch (qualifyingStakes selectCount isExclusive winner stakes))) =
      stake.rewardAt (entry.2 / stakedAmount (qualifyingStakes selectCount isExclusive winner stakes entry.1))
        entry.1 := by
  simp only [NationBettingStake.settled, matched, rewardPool_flatMap shares.paid shares.apart listed]

theorem SharesOut.settles :
    Settles selectCount isExclusive winner stakes
      (entries.flatMap (rewardsOfMatch (qualifyingStakes selectCount isExclusive winner stakes))) where
  conserved := by
    rintro ⟨point, staked⟩
    obtain ⟨entry, listed, _⟩ := shares.covers point staked
    rw [rewardedAmount_flatMap shares.paid]
    exact shares.whole (List.ne_nil_of_mem listed)
  empty := by
    intro nobody
    have none : entries = [] :=
      List.eq_nil_iff_forall_not_mem.mpr fun entry listed => shares.staked entry listed (nobody entry.1)
    rw [none, List.flatMap_nil]
  qualified := by
    intro reward rewarded
    obtain ⟨entry, listed, found⟩ := List.mem_flatMap.mp rewarded
    obtain ⟨paid, staked⟩ := shares.paid entry listed
    obtain ⟨stake, member, rfl⟩ := (mem_rewardsOfMatch paid staked).mp found
    obtain ⟨stakeListed, qualifies, matched⟩ := mem_qualifyingStakes.mp member
    exact ⟨stake, stakeListed, qualifies, shares.settled listed matched⟩

theorem SharesOut.covers_of_qualifies (positive : ∀ stake ∈ stakes, 0 < stake.amount) (listed : stake ∈ stakes)
    (qualifies : stake.Qualifies selectCount isExclusive winner) :
    ∃ entry ∈ entries, entry.1 = stake.matched selectCount isExclusive winner :=
  shares.covers _ (staked_of_qualifies positive listed qualifies).ne'

theorem SharesOut.pool_le (positive : ∀ stake ∈ stakes, 0 < stake.amount) {better : NationBettingStake}
    (listed : stake ∈ stakes) (betterListed : better ∈ stakes)
    (qualifies : stake.Qualifies selectCount isExclusive winner)
    (betterQualifies : better.Qualifies selectCount isExclusive winner)
    (more : stake.matched selectCount isExclusive winner ≤ better.matched selectCount isExclusive winner) :
    rewardPool (entries.flatMap (rewardsOfMatch (qualifyingStakes selectCount isExclusive winner stakes)))
        (stake.matched selectCount isExclusive winner) ≤
      rewardPool (entries.flatMap (rewardsOfMatch (qualifyingStakes selectCount isExclusive winner stakes)))
        (better.matched selectCount isExclusive winner) := by
  rcases more.lt_or_eq with less | same
  · -- Both match points are divided, and the parts are in order.
    obtain ⟨lower, lowerListed, lowerPoint⟩ := shares.covers_of_qualifies positive listed qualifies
    obtain ⟨higher, higherListed, higherPoint⟩ := shares.covers_of_qualifies positive betterListed betterQualifies
    rw [← lowerPoint, ← higherPoint] at less ⊢
    rw [rewardPool_flatMap shares.paid shares.apart lowerListed,
      rewardPool_flatMap shares.paid shares.apart higherListed]
    exact shares.le_of_lt (stakedAmount_pos positive listed) lowerListed higherListed less
  · rw [same]

theorem SharesOut.pool_pos (positive : ∀ stake ∈ stakes, 0 < stake.amount) (listed : stake ∈ stakes)
    (qualifies : stake.Qualifies selectCount isExclusive winner) :
    0 < rewardPool (entries.flatMap (rewardsOfMatch (qualifyingStakes selectCount isExclusive winner stakes)))
      (stake.matched selectCount isExclusive winner) := by
  obtain ⟨entry, divided, point⟩ := shares.covers_of_qualifies positive listed qualifies
  rw [← point, rewardPool_flatMap shares.paid shares.apart divided]
  -- The part has the sign of the total, which is positive.
  exact (mul_pos_iff_of_pos_left (stakedAmount_pos positive listed)).mp (shares.sign entry divided)

theorem SharesOut.settlesFairly (positive : ∀ stake ∈ stakes, 0 < stake.amount) :
    SettlesFairly selectCount isExclusive winner stakes
      (entries.flatMap (rewardsOfMatch (qualifyingStakes selectCount isExclusive winner stakes))) where
  conserved := by
    rintro ⟨stake, listed, qualifies⟩
    exact shares.settles.conserved ⟨_, (staked_of_qualifies positive listed qualifies).ne'⟩
  empty := by
    intro nobody
    refine shares.settles.empty fun point => ?_
    have none : qualifyingStakes selectCount isExclusive winner stakes point = [] :=
      List.eq_nil_iff_forall_not_mem.mpr fun stake member =>
        nobody stake (mem_qualifyingStakes.mp member).1 (mem_qualifyingStakes.mp member).2.1
    rw [none]
    rfl
  rewarded := by
    intro stake listed qualifies
    obtain ⟨entry, divided, point⟩ := shares.covers_of_qualifies positive listed qualifies
    obtain ⟨paid, staked⟩ := shares.paid entry divided
    rw [shares.settled divided point.symm]
    exact List.mem_flatMap.mpr ⟨entry, divided,
      (mem_rewardsOfMatch paid staked).mpr ⟨stake, mem_qualifyingStakes.mpr ⟨listed, qualifies, point.symm⟩, rfl⟩⟩
  pools := fun _ listed _ betterListed qualifies betterQualifies more =>
    shares.pool_le positive listed betterListed qualifies betterQualifies more
  notLess := by
    intro stake listed better betterListed qualifies betterQualifies same more lessStaked
    -- A larger part is divided by less.
    have larger := shares.pool_le positive listed betterListed qualifies betterQualifies more
    have part := shares.pool_pos positive betterListed betterQualifies
    show stake.amount * (_ / _) ≤ better.amount * (_ / _)
    rw [← same]
    refine mul_le_mul_of_nonneg_left (div_le_div₀ part.le larger ?_ lessStaked) (positive stake listed).le
    exact staked_of_qualifies positive betterListed betterQualifies

end

/-- Rewards settle the stakes of any bet, and are fair where every stake is of some amount. -/
theorem rewards_settle_stakes {selectCount : ℕ} {isExclusive : Option Bool} {drawn : List Int}
    {stakes : List NationBettingStake} {rewards : List NationBettingReward}
    (calculated : calculateNationBettingRewards selectCount isExclusive drawn stakes = .ok rewards) :
    ∃ winner, purifyNationBettingSelection drawn selectCount = .ok winner ∧ winner.Nodup ∧
      (∀ candidate, candidate ∈ winner ↔ candidate ∈ drawn) ∧
      Settles selectCount isExclusive winner stakes rewards ∧
      ((∀ stake ∈ stakes, 0 < stake.amount) → SettlesFairly selectCount isExclusive winner stakes rewards) := by
  cases purified : purifyNationBettingSelection drawn selectCount with
  | error message => simp [calculateNationBettingRewards, purified, Bind.bind, Except.bind] at calculated
  | ok winner =>
    obtain ⟨_, distinct, same⟩ := purifyNationBettingSelection_ok purified
    refine ⟨winner, rfl, distinct, same, ?_⟩
    rcases calculateNationBettingRewards_ok purified calculated with ⟨nothing, rfl⟩ | ⟨entries, shares, rfl⟩
    · -- Stakes of some amount add up to nothing only when there are none.
      refine ⟨settles_nil nothing, fun positive => ?_⟩
      have none : stakes = [] :=
        List.eq_nil_iff_forall_not_mem.mpr fun stake listed => (stakedAmount_pos positive listed).ne' nothing
      subst none
      exact ⟨by simp, by simp, by simp, by simp, by simp⟩
    · exact ⟨shares.settles, shares.settlesFairly⟩

/-- Three stakes of which one has both winners and another one of them. -/
theorem rewards_settle_stakes_partly :
    ∃ winner, purifyNationBettingSelection [1, 0] 2 = .ok winner ∧
      Settles 2 none winner [⟨1, none, [0, 1], 100⟩, ⟨2, none, [0, 2], 50⟩, ⟨3, none, [2, 3], 50⟩]
        [⟨1, none, 150, 2⟩, ⟨2, none, 50, 1⟩] := by
  have calculated : calculateNationBettingRewards 2 none [1, 0]
      [⟨1, none, [0, 1], 100⟩, ⟨2, none, [0, 2], 50⟩, ⟨3, none, [2, 3], 50⟩] =
        .ok [⟨1, none, 150, 2⟩, ⟨2, none, 50, 1⟩] := by
    decide +kernel
  obtain ⟨winner, purified, _, _, settles, _⟩ := rewards_settle_stakes calculated
  exact ⟨winner, purified, settles⟩

/--
With more matches a stake gets less than another of its amount, where most was staked on both winners.

A stake of nothing that qualifies alone leaves the rest with no one.
-/
theorem rewards_less_for_more_matches :
    calculateNationBettingRewards 2 none [0, 1]
        [⟨1, none, [0, 1], 10⟩, ⟨2, none, [0, 1], 990⟩, ⟨3, none, [0, 2], 10⟩] =
      .ok [⟨1, none, 303 / 40, 2⟩, ⟨2, none, 29997 / 40, 2⟩, ⟨3, none, 505 / 2, 1⟩] ∧
    (303 / 40 : ℚ) < 505 / 2 ∧
    calculateNationBettingRewards 1 none [0] [⟨1, none, [0], 0⟩, ⟨2, none, [1], 100⟩] = .ok [] ∧
    NationBettingStake.Qualifies 1 none [0] ⟨1, none, [0], 0⟩ ∧
    rewardedAmount [] ≠ stakedAmount [⟨1, none, [0], 0⟩, ⟨2, none, [1], 100⟩] := by
  refine ⟨?_, ?_, ?_, ?_, ?_⟩
  · decide +kernel
  · norm_num
  · decide +kernel
  · decide +kernel
  · decide +kernel

end Sammo.Betting
