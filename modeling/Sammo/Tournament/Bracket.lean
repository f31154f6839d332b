import Sammo.Tournament.Groups

/-! The bracket of the last sixteen, and what a finished bracket pays out. -/

namespace Sammo.Tournament

/-- The groups and ranks that meet in the first round, in the order of the bracket. -/
def finalOrder : List (Int × Int) :=
  [(10, 1), (14, 2), (11, 1), (15, 2), (12, 1), (16, 2), (13, 1), (17, 2),
    (14, 1), (10, 2), (15, 1), (11, 2), (16, 1), (12, 2), (17, 1), (13, 2)]

/-- Ids two by two; an id that is left over has nobody to meet. -/
def pairUp : List Int → List (Int × Int)
  | attackerId :: defenderId :: rest => (attackerId, defenderId) :: pairUp rest
  | _ => []

/-- Matches of a round, numbered from an id on. -/
def roundMatches (stage : Nat) (firstId : Int) (playerIds : List Int) : List TournamentMatch :=
  (pairUp playerIds).zipIdx.map fun paired =>
    { id := firstId + paired.2, stage, roundIndex := paired.2
      attackerId := paired.1.1, defenderId := paired.1.2 }

/-- The first round, if every group has its two finalists. -/
def buildFinal16MatchesFromGroups (participants : List TournamentParticipant) : Option (List TournamentMatch) :=
  (finalOrder.mapM fun place =>
    (participants.find? fun entry => entry.groupId = some place.1 ∧ entry.finalRank = some place.2).map
      TournamentParticipant.id).map (roundMatches 7 1)

/-- The sixteen strongest participants. -/
def pickFinalists (state : TournamentState) (participants : List TournamentParticipant) : List Int :=
  let value (entry : TournamentParticipant) := resolveStatValue state.type entry.leadership entry.strength entry.intel
  ((participants.insertionSort fun left right =>
    value right < value left ∨ value left = value right ∧ left.id ≤ right.id).take 16).map TournamentParticipant.id

/-- The first round between given participants, in random order. -/
def buildInitialMatches (env : TournamentEnvironment) (state : TournamentState) (participantIds : List Int) :
    Except String (List TournamentMatch) :=
  let seed : TournamentRngSeed :=
    { baseSeed := env.baseSeed, openYear := state.openYear, openMonth := state.openMonth, stage := 5
      phase := state.phase, matchIndex := 0, participantIndex := 0, extraSeed := "round16" }
  let pairs := (env.shuffle seed participantIds).1.take 16
  if pairs.length < 2 ∨ pairs.length % 2 ≠ 0 then .error "대진표를 구성할 참가자가 부족합니다."
  else .ok (roundMatches 7 1 pairs)

/-- The stage after a round of the bracket; zero after the last one. -/
def nextStage (stage : Nat) : Nat :=
  if stage = 7 then 8 else if stage = 8 then 9 else if stage = 9 then 10 else 0

/-- The largest id of the bracket. -/
def largestMatchId (matchEntries : List TournamentMatch) : Int :=
  (matchEntries.filter fun entry => 7 ≤ entry.stage).foldl (fun largest entry => max largest entry.id) 0

/-- The winners of a round. -/
def roundWinners (stage : Nat) (matchEntries : List TournamentMatch) : List Int :=
  (matchEntries.filter fun entry => entry.stage = stage).filterMap TournamentMatch.winnerId

/-- The round that follows a round, between its winners. -/
def buildNextMatches (stage : Nat) (matchEntries : List TournamentMatch) : Except String (List TournamentMatch) :=
  let winners := roundWinners stage matchEntries
  if winners.length = 0 ∨ winners.length % 2 ≠ 0 then .error "다음 라운드를 만들 수 없습니다."
  else .ok (roundMatches (nextStage stage) (largestMatchId matchEntries + 1) winners)

/-- The bets of a general on a target, added up in the order they were first made. -/
def aggregateBet (bets : List TournamentBet) (entry : TournamentBet) : List TournamentBet :=
  if bets.any fun other => other.generalId = entry.generalId ∧ other.targetId = entry.targetId then
    bets.map fun other =>
      if other.generalId = entry.generalId ∧ other.targetId = entry.targetId then
        { other with amount := other.amount + entry.amount }
      else other
  else bets ++ [entry]

/-- What the bets on the winner pay: each its share of all bets, and nothing if nobody bet on the winner. -/
def buildBettingPayouts (winnerId : Int) (entries : List TournamentBet) : List (Int × Int) :=
  let normalized := entries.foldl aggregateBet []
  let total : Int := normalized.foldl (fun sum entry => sum + entry.amount) 0
  let winners := normalized.filter fun entry => entry.targetId = winnerId
  let winnersTotal : Int := winners.foldl (fun sum entry => sum + entry.amount) 0
  if total ≤ 0 ∨ winnersTotal ≤ 0 then []
  else winners.map fun entry => (entry.generalId, ⌊(entry.amount : ℚ) * (total / winnersTotal) + 1 / 2⌋)

/-- Who is rewarded for how far they came. -/
structure TournamentRewardPayload where
  top16 : List Int
  top8 : List Int
  top4 : List Int
  winnerId : Int
  runnerUpId : Int
  deriving DecidableEq

/-- Reads the rewards off a finished bracket. -/
def buildTournamentRewardPayload (matchEntries : List TournamentMatch) : Except String TournamentRewardPayload :=
  match matchEntries.find? fun entry => entry.stage = 10 ∧ entry.winnerId.isSome with
  | none => .error "결승전 결과를 찾을 수 없습니다."
  | some final =>
    let winnerId := final.winnerId.getD 0
    .ok
      { top16 := ((matchEntries.filter fun entry => entry.stage = 7).flatMap fun entry =>
          [entry.attackerId, entry.defenderId]).eraseDups
        top8 := (roundWinners 7 matchEntries).eraseDups
        top4 := (roundWinners 8 matchEntries).eraseDups
        winnerId
        runnerUpId := if final.attackerId = winnerId then final.defenderId else final.attackerId }

end Sammo.Tournament
