import Mathlib.Algebra.Order.Field.Rat
import Mathlib.Data.List.Destutter
import Mathlib.Data.List.Sort

/-! How a bet on nations is settled: the stakes, the match points, and the rewards. -/

namespace Sammo.Betting

/-- A stake in a bet on nations; the game's own share has no general. -/
structure NationBettingStake where
  generalId : Int
  userId : Option String
  selection : List Int
  amount : ℚ
  deriving DecidableEq

/-- What a stake is rewarded with. -/
structure NationBettingReward where
  generalId : Int
  userId : Option String
  amount : ℚ
  matchPoint : ℕ
  deriving DecidableEq

/-- A selection in order, which must be of as many different candidates as are selected. -/
def purifyNationBettingSelection (selection : List Int) (selectCount : ℕ) : Except String (List Int) :=
  let purified := selection.insertionSort (· ≤ ·)
  let unique := purified.destutter (· ≠ ·)
  if unique.length ≠ selectCount then .error "중복된 값이 있습니다." else .ok unique

/-- What stakes add up to. -/
def stakedAmount (stakes : List NationBettingStake) : ℚ := (stakes.map NationBettingStake.amount).sum

/-- The reward of a stake at a multiplier. -/
def NationBettingStake.rewardAt (multiplier : ℚ) (matchPoint : ℕ) (stake : NationBettingStake) :
    NationBettingReward :=
  { generalId := stake.generalId, userId := stake.userId, amount := stake.amount * multiplier, matchPoint }

/-- How many of the winners a stake has selected. -/
def NationBettingStake.matchPoint (winner : List Int) (stake : NationBettingStake) : ℕ :=
  stake.selection.countP fun selected => selected ∈ winner

/-- The stakes of a match point, without those of the game. -/
def stakesByMatch (winner : List Int) (stakes : List NationBettingStake) (matchPoint : ℕ) :
    List NationBettingStake :=
  stakes.filter fun stake => stake.matchPoint winner = matchPoint ∧ stake.generalId ≠ 0

/-- What is left of the total while it is divided among the match points. -/
structure RewardSplit where
  remainingReward : ℚ
  accumulatedReward : ℚ
  givenReward : ℚ
  -- The rewards are set from the highest match point down, and stay in this order.
  rewardByMatch : List (ℕ × ℚ)

/-- Each match point is given half of what the one above it was, and leaves it below when nobody has it. -/
def RewardSplit.give (stakesAt : ℕ → List NationBettingStake) (matchPoint : ℕ) (split : RewardSplit) :
    RewardSplit :=
  let givenReward := split.givenReward / 2
  let accumulatedReward := split.accumulatedReward + givenReward
  if (stakesAt matchPoint).length = 0 ∨ stakedAmount (stakesAt matchPoint) = 0 then
    { split with givenReward, accumulatedReward }
  else
    { rewardByMatch := split.rewardByMatch ++ [(matchPoint, accumulatedReward)]
      remainingReward := split.remainingReward - accumulatedReward
      accumulatedReward := 0
      givenReward }

/-- The match points from one down to the first. -/
def RewardSplit.giveDown (stakesAt : ℕ → List NationBettingStake) : ℕ → RewardSplit → RewardSplit
  | 0, split => split
  | matchPoint + 1, split => giveDown stakesAt matchPoint (split.give stakesAt (matchPoint + 1))

/-- The highest match point with a reward also gets what remains. -/
def RewardSplit.withRemaining (split : RewardSplit) : List (ℕ × ℚ) :=
  match split.rewardByMatch with
  | [] => []
  | (matchPoint, reward) :: rest => (matchPoint, reward + split.remainingReward) :: rest

/-- The rewards of a match point, in proportion to the stakes. -/
def rewardsOfMatch (stakesAt : ℕ → List NationBettingStake) (entry : ℕ × ℚ) : List NationBettingReward :=
  let staked := stakedAmount (stakesAt entry.1)
  if entry.2 = 0 ∨ staked = 0 then []
  else (stakesAt entry.1).map (NationBettingStake.rewardAt (entry.2 / staked) entry.1)

/-- The rewards of the stakes in a bet with its winners. -/
def calculateNationBettingRewards (selectCount : ℕ) (isExclusive : Option Bool) (winner : List Int)
    (stakes : List NationBettingStake) : Except String (List NationBettingReward) := do
  let winner ← purifyNationBettingSelection winner selectCount
  let totalAmount := stakedAmount stakes
  if totalAmount = 0 then .ok []
  else if selectCount = 1 ∨ isExclusive = some true then
    let winnerList := stakes.filter fun stake => 0 < stake.generalId ∧ stake.selection = winner
    let winnerAmount := stakedAmount winnerList
    -- Without a winner nothing is paid back either.
    if winnerAmount = 0 then .ok []
    else
      let multiplier := totalAmount / winnerAmount
      .ok (winnerList.map (NationBettingStake.rewardAt multiplier selectCount))
  else
    let split := RewardSplit.giveDown (stakesByMatch winner stakes) selectCount
      { remainingReward := totalAmount, accumulatedReward := 0, givenReward := totalAmount, rewardByMatch := [] }
    .ok (split.withRemaining.flatMap (rewardsOfMatch (stakesByMatch winner stakes)))

end Sammo.Betting
