import Sammo.Tournament.Bracket

/-! The tick of the tournament worker: one step of a stage, written piece by piece, and the settlement at the end. -/

namespace Sammo.Tournament

open TournamentDesk

/-- A result that needs no store, or the failure of the tick. -/
def orFail {α : Type} : Except String α → TournamentM α
  | .ok value => pure value
  | .error message => throw (.failed message)

/-- The instant of the next tick. -/
def resolveNextAt (state : TournamentState) : Int := state.nextAt + max 1 state.termSeconds * 1000

/-- The instant at which betting closes. -/
def resolveBettingCloseAt (state : TournamentState) : Int :=
  state.nextAt + max 1000 (min (state.termSeconds * 60) 3600 * 1000)

/-- The latest battle of a group as it is stored. -/
def groupFightLog (stage : Nat) (outcome : TournamentMatchOutcome) : TournamentMatch :=
  { id := stage * 100 + outcome.groupId + 1, stage, roundIndex := outcome.groupId
    groupId := some outcome.groupId, attackerId := outcome.attackerId, defenderId := outcome.defenderId
    winnerId := outcome.winnerId, report := some outcome.report }

/-- Puts the battles of a phase in the place of the earlier ones of their groups. -/
def latestGroupFights (stage : Nat) (outcomes : List TournamentMatchOutcome) (matchEntries : List TournamentMatch) :
    List TournamentMatch :=
  (matchEntries.filter fun entry =>
    entry.stage ≠ stage ∨ ¬ entry.groupId.any fun groupId =>
      groupId ∈ outcomes.map TournamentMatchOutcome.groupId) ++ outcomes.map (groupFightLog stage)

/-- Stores the battles of a phase, if there were any. -/
def persistLatestGroupFightLogs (stage : Nat) (outcomes : List TournamentMatchOutcome) : TournamentM Unit := do
  if outcomes.isEmpty then return ()
  else
    let desk ← get
    setMatches (latestGroupFights stage outcomes desk.store.matchEntries)

/-- Reports a battle to the engine, unless a side is a dummy. -/
def sendMatchResult (type : TournamentType) (attackerId defenderId : Int) (result : BattleSide) :
    TournamentM Unit := do
  if 0 < attackerId ∧ 0 < defenderId then sendCommand (.matchResult type attackerId defenderId result)

/-- The first match of a round that is to be fought. -/
def pendingTarget (state : TournamentState) (matchEntries : List TournamentMatch) : Option TournamentMatch :=
  let pending := matchEntries.filter fun entry => entry.stage = state.stage ∧ ¬ entry.decided
  pending[state.phase]?.or pending[0]?

/-- The state after a round of the bracket that has no match left. -/
def finishRound (state : TournamentState) (matchEntries : List TournamentMatch) : TournamentState :=
  let finalMatch := matchEntries.find? fun entry => entry.stage = state.stage ∧ entry.decided
  { state with
    stage := 0, phase := 0, auto := false
    winnerId := finalMatch.bind TournamentMatch.winnerId, nextAt := resolveNextAt state }

/-- A match with the outcome of its battle. -/
def foughtMatch (result : TournamentBattleResult) (target : TournamentMatch) : TournamentMatch :=
  { target with winnerId := result.winnerId, report := some result.report }

/-- The two that fight a match, if both take part. -/
def matchFighters (participants : List TournamentParticipant) (target : TournamentMatch) :
    Option (TournamentParticipant × TournamentParticipant) :=
  match participants.find? (fun entry => entry.id = target.attackerId),
      participants.find? (fun entry => entry.id = target.defenderId) with
  | some attacker, some defender => some (attacker, defender)
  | _, _ => none

/-- A tick of the bracket: fights a match, or goes on to the next round, or ends the tournament. -/
def applyBattle (env : TournamentEnvironment) (state : TournamentState) : TournamentM TournamentState := do
  let desk ← get
  let matchEntries := desk.store.matchEntries
  let participants := desk.store.participants
  match pendingTarget state matchEntries with
  | none =>
    let next := nextStage state.stage
    if next = 0 then
      let finished := finishRound state matchEntries
      setState finished
      return finished
    else
      let nextMatches ← orFail (buildNextMatches state.stage matchEntries)
      setMatches (matchEntries ++ nextMatches)
      let nextState := { state with stage := next, phase := 0, nextAt := resolveNextAt state }
      setState nextState
      return nextState
  | some target =>
    match matchFighters participants target with
    | some (attacker, defender) =>
      let result := resolveTournamentBattle env (battleInput env state attacker defender true target.id)
      setMatches (matchEntries.map fun entry => if entry.id = target.id then foughtMatch result target else entry)
      sendMatchResult state.type attacker.id defender.id (result.side attacker.id)
      let nextState := { state with phase := state.phase + 1, nextAt := resolveNextAt state }
      setState nextState
      return nextState
    | none => throw (.failed "토너먼트 참가자 정보를 찾을 수 없습니다.")

/-- A participant whose tournament begins. -/
def enrolled (entry : TournamentParticipant) : TournamentParticipant :=
  { entry with
    win := some 0, draw := some 0, lose := some 0, gl := some 0, seedRank := some 0, finalRank := some 0
    preliminaryGroupId := entry.groupId, preliminaryGroupNo := entry.groupNo }

/-- The participants with which the preliminaries begin. -/
def preliminaryField (env : TournamentEnvironment) (state : TournamentState)
    (participants : List TournamentParticipant) : List TournamentParticipant :=
  let filled := if participants.length < 64 then fillParticipants env state participants 64 else participants
  (assignGroupSlots filled 8 8 0).map enrolled

/-- Closes the entries and draws the preliminary groups. -/
def closeEntries (env : TournamentEnvironment) (state : TournamentState) : TournamentM TournamentState := do
  let desk ← get
  setParticipants (preliminaryField env state desk.store.participants)
  let nextState := { state with
    stage := 2, phase := 0, participantsLockedAt := some env.now, nextAt := resolveNextAt state }
  setState nextState
  return nextState

/-- The participants of the preliminaries; those without a group get one. -/
def seatedParticipants (participants : List TournamentParticipant) : List TournamentParticipant :=
  if participants.any fun entry => entry.groupId = none then assignGroupSlots participants 8 8 0 else participants

/-- Stores and reports the battles of a phase. -/
def publishGroups (state : TournamentState) (stage : Nat)
    (played : List TournamentParticipant × List TournamentMatchOutcome) : TournamentM Unit := do
  setParticipants played.1
  persistLatestGroupFightLogs stage played.2
  played.2.forM fun outcome => sendMatchResult state.type outcome.attackerId outcome.defenderId outcome.result

/-- Goes on to the next phase. -/
def advancePhase (state : TournamentState) : TournamentM TournamentState := do
  let nextState := { state with phase := state.phase + 1, nextAt := resolveNextAt state }
  setState nextState
  return nextState

/-- Goes on to another stage. -/
def advanceStage (state : TournamentState) (stage : Nat) : TournamentM TournamentState := do
  let nextState := { state with stage, phase := 0, nextAt := resolveNextAt state }
  setState nextState
  return nextState

/-- A phase of the preliminaries. -/
def playPreliminaries (env : TournamentEnvironment) (state : TournamentState) : TournamentM TournamentState := do
  let desk ← get
  match resolveGroupPair 2 state.phase with
  | none => throw (.failed "예선 매치 구성을 찾을 수 없습니다.")
  | some pair =>
    let played := playGroups env state pair 0 (seatedParticipants desk.store.participants)
    publishGroups state 2 played
    if 55 ≤ state.phase then
      setParticipants (rankPreliminaries played.1)
      advanceStage state 3
    else advancePhase state

/-- The rank that is drawn in a phase of the draw; three stands for all lower ones. -/
def seedTarget (phase : Nat) : Int := if phase < 8 then 1 else if phase < 16 then 2 else 3

/-- A participant can be drawn in a phase. -/
def isCandidate (phase : Nat) (entry : TournamentParticipant) : Bool :=
  (entry.groupId.all fun groupId => groupId < 10) ∧
    if seedTarget phase = 3 then 2 < entry.seedRank.getD 0 else entry.seedRank.getD 0 = seedTarget phase

/-- A participant in a slot of a main group. -/
def seatedInMain (groupId groupNo : Int) (entry : TournamentParticipant) : TournamentParticipant :=
  { entry with
    groupId := some groupId, groupNo := some groupNo
    win := some 0, draw := some 0, lose := some 0, gl := some 0 }

/-- A phase of the draw of the main groups. -/
def drawMainGroups (env : TournamentEnvironment) (state : TournamentState) : TournamentM TournamentState := do
  let desk ← get
  let participants := desk.store.participants
  let groupId : Int := 10 + (state.phase % 8 : Nat)
  let groupNo : Int := (state.phase / 8 : Nat)
  let candidates := participants.filter (isCandidate state.phase)
  let seed : TournamentRngSeed :=
    { baseSeed := env.baseSeed, openYear := state.openYear, openMonth := state.openMonth, stage := 3
      phase := state.phase, matchIndex := groupId, participantIndex := 0
      extraSeed := s!"selection:{seedTarget state.phase}:" ++ joinedIds (candidates.map TournamentParticipant.id) }
  match drawn candidates (env.drawNumber seed 0 (candidates.map TournamentParticipant.id)) with
  | none => throw (.failed "본선 추첨 후보가 없습니다.")
  | some picked =>
    setParticipants (participants.map fun entry =>
      if entry.id ≠ picked.id then entry else seatedInMain groupId groupNo entry)
    if 31 ≤ state.phase then advanceStage state 4 else advancePhase state

/-- A phase of the main groups. -/
def playMains (env : TournamentEnvironment) (state : TournamentState) : TournamentM TournamentState := do
  let desk ← get
  match resolveGroupPair 4 state.phase with
  | none => throw (.failed "본선 매치 구성을 찾을 수 없습니다.")
  | some pair =>
    let played := playGroups env state pair 10 desk.store.participants
    publishGroups state 4 played
    if 5 ≤ state.phase then
      setParticipants (rankMains played.1)
      advanceStage state 5
    else advancePhase state

/-- The gold that each general nobody plays bets. -/
def npcBetGold (env : TournamentEnvironment) : Int :=
  max 10 (⌊((3 + env.currentYear - env.startYear : Int) : ℚ) * (334 / 1000)⌋ * 10)

/-- The identity of a tournament in its requests. -/
def tournamentIdentity (state : TournamentState) : String :=
  match state.bettingId with
  | some bettingId => toString bettingId
  | none =>
    let code := match state.type with
      | .total => 0
      | .leadership => 1
      | .strength => 2
      | .intel => 3
    s!"{state.openYear}:{state.openMonth}:{code}"

/-- The bets of the generals nobody plays. -/
def buildNpcBettingPlan (env : TournamentEnvironment) (store : TournamentStore) (state : TournamentState) :
    List TournamentBet :=
  let candidateIds := (((store.matchEntries.filter fun entry => entry.stage = 7).flatMap fun entry =>
    [entry.attackerId, entry.defenderId]).filter fun id => 0 < id).eraseDups
  let betGold := npcBetGold env
  let npcs := (env.generals.filter fun general => 2 ≤ general.npcState ∧ 500 + betGold ≤ general.gold).insertionSort
    fun left right => left.id ≤ right.id
  let identity := match state.bettingId with
    | some bettingId => toString bettingId
    | none => "none"
  let seed : TournamentRngSeed :=
    { baseSeed := env.baseSeed, openYear := state.openYear, openMonth := state.openMonth, stage := 6, phase := 0
      matchIndex := 0, participantIndex := 0, extraSeed := "OpenBettingTournament:" ++ identity }
  npcs.zipIdx.filterMap fun npc =>
    -- Every general draws its target, also one that has bet already.
    (drawn candidateIds (env.drawNumber seed npc.2 candidateIds)).bind fun targetId =>
      if store.bettingEntries.any fun entry => entry.generalId = npc.1.id then none
      else some ⟨npc.1.id, some none, targetId, betGold⟩

/-- Places the bets of the generals nobody plays, after the engine has taken their gold. -/
def placeNpcBets (env : TournamentEnvironment) (state : TournamentState) (plan : List TournamentBet) :
    TournamentM Unit := do
  let answer ← requestCommand env (.seedNpcBets (s!"tournament:" ++ tournamentIdentity state ++ ":npc-bet:atomic")
    (plan.map fun entry => (entry.generalId, entry.amount)))
  match answer.filter fun answer => answer.ok with
  | none => throw (.failed "NPC tournament betting did not commit.")
  | some answer =>
    let desk ← get
    let existing := desk.store.bettingEntries
    setBettingEntries (existing ++ (plan.filter fun entry =>
      entry.generalId ∈ answer.processedGeneralIds ∧
        entry.generalId ∉ existing.map TournamentBet.generalId).map fun entry => { entry with userId := some none })

/-- Plans the bets of the generals nobody plays, keeps the plan, and places them. -/
def seedNpcBets (env : TournamentEnvironment) (state : TournamentState) : TournamentM Unit := do
  let desk ← get
  match state.npcBettingPlan with
  | some plan => if plan.isEmpty then return () else placeNpcBets env state plan
  | none =>
    let plan := buildNpcBettingPlan env desk.store state
    if plan.isEmpty then return ()
    else
      match desk.store.state with
      | none => throw (.failed "Tournament state missing while preparing NPC bets.")
      | some storedState =>
        setState { storedState with npcBettingPlan := some plan }
        placeNpcBets env state plan

/-- The first round of the bracket. -/
def firstRound (env : TournamentEnvironment) (state : TournamentState) (participants : List TournamentParticipant) :
    Except String (List TournamentMatch) :=
  match buildFinal16MatchesFromGroups participants with
  | some fixedMatches => .ok fixedMatches
  | none => buildInitialMatches env state (pickFinalists state participants)

/-- Draws the bracket, unless there is one, and opens the betting. -/
def openBetting (env : TournamentEnvironment) (state : TournamentState) : TournamentM TournamentState := do
  let desk ← get
  if desk.store.matchEntries.any fun entry => 7 ≤ entry.stage then pure ()
  else
    let initialMatches ← orFail (firstRound env state desk.store.participants)
    setMatches (desk.store.matchEntries ++ initialMatches)
  let nextState := { state with
    stage := 6, phase := 0, bettingId := some (state.bettingId.getD env.now)
    bettingCloseAt := some (resolveBettingCloseAt state), nextAt := resolveNextAt state }
  -- The identity is kept across retries, but the stage is not shown before the bets are written.
  setState { state with bettingId := nextState.bettingId }
  seedNpcBets env nextState
  let opened := { nextState with npcBettingPlan := none }
  setState opened
  return opened

/-- Waits for the end of the betting. -/
def closeBetting (env : TournamentEnvironment) (state : TournamentState) : TournamentM TournamentState := do
  let bettingCloseAt := state.bettingCloseAt.getD (resolveBettingCloseAt state)
  let nextState :=
    if env.now < bettingCloseAt then { state with bettingCloseAt := some bettingCloseAt, nextAt := bettingCloseAt }
    else { state with
      stage := 7, phase := 0, bettingCloseAt := some bettingCloseAt, nextAt := resolveNextAt state }
  setState nextState
  return nextState

/-- A tick before the bracket. -/
def applyPreBattleStage (env : TournamentEnvironment) (state : TournamentState) : TournamentM TournamentState :=
  if state.stage = 1 then closeEntries env state
  else if state.stage = 2 then playPreliminaries env state
  else if state.stage = 3 then drawMainGroups env state
  else if state.stage = 4 then playMains env state
  else if state.stage = 5 then openBetting env state
  else if state.stage = 6 then closeBetting env state
  else pure state

/-- Requires that the engine has carried a command out. -/
def requireSuccessfulResult (kind : String) (answer : Option TournamentAnswer) : TournamentM Unit :=
  match answer with
  | none => throw (.failed (kind ++ " 명령 응답 시간이 초과되었습니다."))
  | some answer => if answer.ok then pure () else throw (.failed (kind ++ " 명령이 실패했습니다: " ++ answer.reason))

/-- Has the rewards paid, unless they are. -/
def settleReward (env : TournamentEnvironment) (state : TournamentState) : TournamentM TournamentState := do
  if state.rewardSettled then return state
  else
    let desk ← get
    let payload ← orFail (buildTournamentRewardPayload desk.store.matchEntries)
    let answer ← requestCommand env (.reward ("tournament:" ++ tournamentIdentity state ++ ":reward") state.type
      payload.winnerId payload.runnerUpId payload.top16 payload.top8 payload.top4)
    requireSuccessfulResult "tournamentReward" answer
    let settled := { state with rewardSettled := true }
    setState settled
    return settled

/-- Has the bets paid out, unless they are. -/
def settleBetting (env : TournamentEnvironment) (state : TournamentState) : TournamentM TournamentState := do
  match state.bettingId with
  | none => return state
  | some bettingId =>
    if bettingId = 0 ∨ state.bettingSettled then return state
    else
      let desk ← get
      let payouts := buildBettingPayouts (state.winnerId.getD 0) desk.store.bettingEntries
      if ¬ payouts.isEmpty then
        let answer ← requestCommand env (.bettingPayout (s!"tournament:{bettingId}:betting-payout") bettingId
          state.type payouts)
        requireSuccessfulResult "tournamentBettingPayout" answer
      let settled := { state with bettingSettled := true }
      setState settled
      return settled

/-- A tournament has a winner; zero is no general. -/
def TournamentState.won (state : TournamentState) : Bool :=
  match state.winnerId with
  | some winner => winner ≠ 0
  | none => false

/-- Settles a finished tournament: first the rewards, then the bets. -/
def settleTournamentOutcome (env : TournamentEnvironment) (state : TournamentState) :
    TournamentM TournamentState := do
  if state.stage ≠ 0 ∨ ¬ state.won then return state
  else
    let rewarded ← settleReward env state
    settleBetting env rewarded

/-- A finished tournament has something left to settle. -/
def needsSettlement (state : TournamentState) : Bool :=
  state.stage = 0 ∧ state.won ∧
    (¬ state.rewardSettled ∨ (state.bettingId.any fun bettingId => bettingId ≠ 0) ∧ ¬ state.bettingSettled)

/-- One step of the stage of a tournament. -/
def advanceTournament (env : TournamentEnvironment) (state : TournamentState) : TournamentM TournamentState :=
  if 7 ≤ state.stage ∧ state.stage ≤ 10 then applyBattle env state
  else if 1 ≤ state.stage ∧ state.stage ≤ 6 then applyPreBattleStage env state
  else pure state

/-- A tick of the worker, outside a clock context: settles a finished tournament, or takes a due step. -/
def processTournamentTick (env : TournamentEnvironment) : TournamentM (Option TournamentState) := do
  let desk ← get
  match desk.store.state with
  | none => return none
  | some state =>
    if ¬ state.auto ∧ ¬ needsSettlement state then return none
    else if state.auto ∧ env.now < state.nextAt then return none
    else if needsSettlement state then
      let settled ← settleTournamentOutcome env state
      return some settled
    else
      let nextState ← advanceTournament env state
      let settled ← settleTournamentOutcome env nextState
      return some settled

end Sammo.Tournament
