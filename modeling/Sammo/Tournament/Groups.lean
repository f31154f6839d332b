import Sammo.Tournament.Entries

/-! How participants come into groups, meet in them and are ranked, and how the ranked go into the bracket. -/

namespace Sammo.Tournament

/-- The value a tournament is fought with. -/
def resolveStatValue (type : TournamentType) (leadership strength intel : Int) : Int :=
  match type with
  | .leadership => leadership
  | .strength => strength
  | .intel => intel
  | .total => leadership + strength + intel

/-- The slots that meet in the phases of a preliminary group, up to the return leg. -/
def preliminaryPairs : List (Int × Int) :=
  [(0, 1), (2, 3), (4, 5), (6, 7), (0, 2), (1, 3), (4, 6), (5, 7), (0, 3), (1, 6), (2, 5), (4, 7), (0, 4), (1, 5),
    (2, 6), (3, 7), (0, 5), (1, 4), (2, 7), (3, 6), (0, 6), (1, 7), (2, 4), (3, 5), (0, 7), (1, 2), (3, 4), (5, 6)]

/-- The slots that meet in the phases of a main group. -/
def mainPairs : List (Int × Int) := [(0, 1), (2, 3), (0, 2), (1, 3), (0, 3), (1, 2)]

/-- The slots that meet in a phase; the return leg swaps the sides. -/
def resolveGroupPair (stage phase : Nat) : Option (Int × Int) :=
  if stage = 2 then
    preliminaryPairs[phase % 28]?.map fun pair => if 28 ≤ phase then (pair.2, pair.1) else pair
  else if stage = 4 then mainPairs[phase % 6]?
  else none

/-- How many participants each of some groups has. -/
def groupCounts (participants : List TournamentParticipant) (groupCount : Nat) (groupStart : Int) : List Nat :=
  (List.range groupCount).map fun index : Nat =>
    participants.countP fun entry => entry.groupId = some (groupStart + (index : Int))

/-- Places a participant that has no place in the first of the smallest groups. -/
def assignSlot (groupSize : Nat) (groupStart : Int) (counts : List Nat) (entry : TournamentParticipant) :
    List Nat × TournamentParticipant :=
  if entry.groupId.isSome ∧ entry.groupNo.isSome then (counts, entry)
  else
    let minCount := counts.min?.getD 0
    let groupIdx := counts.findIdx fun count => count = minCount
    let groupNo := counts.getD groupIdx 0
    (counts.set groupIdx (groupNo + 1),
      { entry with
        groupId := some (groupStart + groupIdx)
        groupNo := some (if groupNo < groupSize then groupNo else groupNo % groupSize)
        win := some 0, draw := some 0, lose := some 0, gl := some 0 })

/-- Places participants one after another. -/
def assignSlots (groupSize : Nat) (groupStart : Int) :
    List Nat → List TournamentParticipant → List TournamentParticipant
  | _, [] => []
  | counts, entry :: rest =>
    let placed := assignSlot groupSize groupStart counts entry
    placed.2 :: assignSlots groupSize groupStart placed.1 rest

/-- Places every participant that has no place yet. -/
def assignGroupSlots (participants : List TournamentParticipant) (groupCount groupSize : Nat) (groupStart : Int) :
    List TournamentParticipant :=
  assignSlots groupSize groupStart (groupCounts participants groupCount groupStart) participants

/-- Some ids in a row. -/
def joinedIds (ids : List Int) : String := "-".intercalate (ids.map toString)

/-- A general as it is entered without having joined. -/
def TournamentGeneral.entrant (general : TournamentGeneral) : TournamentParticipant :=
  { id := general.id, name := general.name, leadership := general.leadership, strength := general.strength
    intel := general.intel, level := general.level }

/-- Draws participants from a pool, each once, until enough are drawn or the pool is empty. -/
def drawFromPool (draw : Nat → List TournamentParticipant → Nat) :
    (needed round : Nat) → List TournamentParticipant → List TournamentParticipant
  | 0, _, _ => []
  | needed + 1, round, pool =>
    match drawn pool (draw round pool) with
    | none => []
    | some picked =>
      picked :: drawFromPool draw needed (round + 1) (pool.eraseIdx (pool.findIdx fun entry => entry.id = picked.id))

/-- The first id from some id downwards that is not taken. -/
def freeDummyId (taken : List Int) (dummyId : Int) : Int :=
  -- There are not more taken ids than steps.
  match (List.range (taken.length + 1)).find? fun step : Nat => dummyId - (step : Int) ∉ taken with
  | some step => dummyId - step
  | none => dummyId

/-- Participants that nobody is behind. -/
def dummyParticipants (taken : List Int) (dummyId : Int) : Nat → List TournamentParticipant
  | 0 => []
  | needed + 1 =>
    let id := freeDummyId taken dummyId
    { id, name := "무명장수", leadership := 10, strength := 10, intel := 10, level := 10 } ::
      dummyParticipants (id :: taken) (id - 1) needed

/-- The seed of the draws that fill the participants up. -/
def fillSeed (env : TournamentEnvironment) (state : TournamentState) (participantIndex : Int) (extraSeed : String) :
    TournamentRngSeed :=
  { baseSeed := env.baseSeed, openYear := state.openYear, openMonth := state.openMonth, stage := 1
    phase := state.phase, matchIndex := 0, participantIndex, extraSeed }

/-- The generals that a condition selects and that do not take part yet. -/
def entrantPool (env : TournamentEnvironment) (selects : TournamentGeneral → Bool)
    (current : List TournamentParticipant) : List TournamentParticipant :=
  (env.generals.filter fun general =>
    selects general ∧ general.id ∉ current.map TournamentParticipant.id).map TournamentGeneral.entrant

/-- Fills the participants up: with generals that asked for it, then with those that nobody plays, then with dummies. -/
def fillParticipants (env : TournamentEnvironment) (state : TournamentState) (current : List TournamentParticipant)
    (limit : Nat) : List TournamentParticipant :=
  let applicants := drawFromPool (env.drawGeneral (fillSeed env state 0 "fill:applicants"))
    (limit - current.length) 0 (entrantPool env (fun general => general.applies) current)
  let applied := current ++ applicants
  let npcs := drawFromPool (env.drawGeneral (fillSeed env state 1 "fill:npc"))
    (limit - applied.length) 0 (entrantPool env (fun general => decide (2 ≤ general.npcState)) applied)
  let joined := applied ++ npcs
  joined ++ dummyParticipants (joined.map TournamentParticipant.id) (-1) (limit - joined.length)

/-- The outcome of a battle of a group. -/
structure TournamentMatchOutcome where
  groupId : Int
  attackerId : Int
  defenderId : Int
  result : BattleSide
  winnerId : Option Int
  report : TournamentReport
  deriving DecidableEq

/-- The side that the result of a battle names. -/
def TournamentBattleResult.side (result : TournamentBattleResult) (attackerId : Int) : BattleSide :=
  if result.draw then .neither else if result.winnerId = some attackerId then .attacker else .defender

/-- The battle of two participants in a tournament. -/
def battleInput (env : TournamentEnvironment) (state : TournamentState) (attacker defender : TournamentParticipant)
    (untilDecided : Bool) (matchIndex : Int) : TournamentBattleInput :=
  { type := state.type, untilDecided, attacker := attacker.fighter, defender := defender.fighter
    openYear := state.openYear, openMonth := state.openMonth, stage := state.stage, phase := state.phase
    matchIndex, baseSeed := env.baseSeed }

/-- A participant's record after a battle. -/
def recordBattle (result : TournamentBattleResult) (glDelta : Int) (entry : TournamentParticipant) :
    TournamentParticipant :=
  let next := { entry with
    win := some (entry.win.getD 0), draw := some (entry.draw.getD 0)
    lose := some (entry.lose.getD 0), gl := some (entry.gl.getD 0) }
  if result.draw then { next with draw := some (entry.draw.getD 0 + 1) }
  else if result.winnerId = some entry.id then
    { next with win := some (entry.win.getD 0 + 1), gl := some (entry.gl.getD 0 + glDelta) }
  else { next with lose := some (entry.lose.getD 0 + 1), gl := some (entry.gl.getD 0 - glDelta) }

/-- Two participants of a group meet. -/
def applyGroupMatch (env : TournamentEnvironment) (participants : List TournamentParticipant)
    (attacker defender : TournamentParticipant) (state : TournamentState) (matchIndex : Int) :
    List TournamentParticipant × TournamentMatchOutcome :=
  let result := resolveTournamentBattle env (battleInput env state attacker defender false matchIndex)
  let glDelta := ⌊((result.defenderDamage - result.attackerDamage : Int) : ℚ) / 50 + 1 / 2⌋
  (participants.map fun entry =>
      if entry.id ≠ attacker.id ∧ entry.id ≠ defender.id then entry else recordBattle result glDelta entry,
    { groupId := matchIndex, attackerId := attacker.id, defenderId := defender.id
      result := result.side attacker.id, winnerId := result.winnerId, report := result.report })

/-- The two of a group that meet in a phase, if both slots are taken. -/
def groupFighters (participants : List TournamentParticipant) (pair : Int × Int) (groupId : Int) :
    Option (TournamentParticipant × TournamentParticipant) :=
  let groupEntries := participants.filter fun entry => entry.groupId = some groupId
  match groupEntries.find? (fun entry => entry.groupNo = some pair.1),
      groupEntries.find? (fun entry => entry.groupNo = some pair.2) with
  | some attacker, some defender => some (attacker, defender)
  | _, _ => none

/-- The battle of one group in a phase. -/
def playGroup (env : TournamentEnvironment) (state : TournamentState) (pair : Int × Int)
    (played : List TournamentParticipant × List TournamentMatchOutcome) (groupId : Int) :
    List TournamentParticipant × List TournamentMatchOutcome :=
  match groupFighters played.1 pair groupId with
  | some (attacker, defender) =>
    let result := applyGroupMatch env played.1 attacker defender state groupId
    (result.1, played.2 ++ [result.2])
  | none => played

/-- The groups that start at an id. -/
def groupIds (groupStart : Int) : List Int := (List.range 8).map fun index : Nat => groupStart + (index : Int)

/-- The battles of all groups in a phase. -/
def playGroups (env : TournamentEnvironment) (state : TournamentState) (pair : Int × Int) (groupStart : Int)
    (participants : List TournamentParticipant) : List TournamentParticipant × List TournamentMatchOutcome :=
  (groupIds groupStart).foldl (playGroup env state pair) (participants, [])

/-- The points of a record. -/
def TournamentParticipant.points (entry : TournamentParticipant) : Int :=
  entry.win.getD 0 * 3 + entry.draw.getD 0

/-- The order of a group: points, then the balance of damage, then ids. -/
def RanksBefore (left right : TournamentParticipant) : Prop :=
  right.points < left.points ∨ left.points = right.points ∧
    (right.gl.getD 0 < left.gl.getD 0 ∨ left.gl.getD 0 = right.gl.getD 0 ∧ left.id ≤ right.id)

instance (left right : TournamentParticipant) : Decidable (RanksBefore left right) :=
  inferInstanceAs (Decidable (_ ∨ _))

/-- The participants of a group by rank. -/
def sortByRanking (entries : List TournamentParticipant) : List TournamentParticipant :=
  entries.insertionSort RanksBefore

/-- Changes the first participant with an id. -/
def updateFirst (id : Int) (change : TournamentParticipant → TournamentParticipant) :
    List TournamentParticipant → List TournamentParticipant
  | [] => []
  | entry :: rest => if entry.id = id then change entry :: rest else entry :: updateFirst id change rest

/-- Marks participants by their place in a list, starting at zero. -/
def markRanked (mark : Nat → TournamentParticipant → TournamentParticipant → TournamentParticipant)
    (ranked participants : List TournamentParticipant) : List TournamentParticipant :=
  ranked.zipIdx.foldl (fun participants place => updateFirst place.1.id (mark place.2 place.1) participants) participants

/-- Marks a participant with its rank in its preliminary group. -/
def markPreliminary (groupId : Int) (index : Nat) (entry target : TournamentParticipant) : TournamentParticipant :=
  { target with
    preliminaryGroupId := some groupId, preliminaryGroupNo := entry.groupNo
    preliminaryRank := some (index + 1)
    preliminaryWin := some (entry.win.getD 0), preliminaryDraw := some (entry.draw.getD 0)
    preliminaryLose := some (entry.lose.getD 0), preliminaryGl := some (entry.gl.getD 0)
    seedRank := some (if index < 4 then index + 1 else 0) }

/-- Marks a participant of the first two of a main group. -/
def markFinalist (_ : Int) (index : Nat) (_ target : TournamentParticipant) : TournamentParticipant :=
  { target with finalRank := some (index + 1) }

/-- Marks the first so many of each group by their rank. -/
def rankGroups (mark : Int → Nat → TournamentParticipant → TournamentParticipant → TournamentParticipant)
    (limit : Nat) (groupStart : Int) (participants : List TournamentParticipant) : List TournamentParticipant :=
  (groupIds groupStart).foldl (fun participants groupId =>
    markRanked (mark groupId)
      ((sortByRanking (participants.filter fun entry => entry.groupId = some groupId)).take limit) participants)
    participants

/-- Ranks the preliminary groups; a limit no group reaches leaves nobody out. -/
def rankPreliminaries (participants : List TournamentParticipant) : List TournamentParticipant :=
  rankGroups markPreliminary participants.length 0 participants

/-- Ranks the first two of the main groups. -/
def rankMains (participants : List TournamentParticipant) : List TournamentParticipant :=
  rankGroups markFinalist 2 10 participants

end Sammo.Tournament
