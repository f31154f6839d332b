import Mathlib.Data.List.Sort
import Mathlib.Data.Rat.Floor
import Sammo.Lib.Effect

/-! The rows of a tournament, the battles it is fought in, and the store and queue its worker writes to. -/

namespace Sammo.Tournament

/-- What a tournament is fought with. -/
inductive TournamentType where
  | total
  | leadership
  | strength
  | intel
  deriving DecidableEq

/-- A bet; a bet without user is an old row, one with no user was made by the server. -/
structure TournamentBet where
  generalId : Int
  userId : Option (Option String)
  targetId : Int
  amount : Int
  deriving DecidableEq

/-- Where a tournament stands; instants are milliseconds. -/
structure TournamentState where
  stage : Nat
  phase : Nat
  type : TournamentType
  auto : Bool
  openYear : Int
  openMonth : Int
  termSeconds : Int
  nextAt : Int
  bettingId : Option Int
  bettingCloseAt : Option Int
  winnerId : Option Int
  bettingSettled : Bool
  rewardSettled : Bool
  npcBettingPlan : Option (List TournamentBet)
  participantsLockedAt : Option Int
  deriving DecidableEq

/-- A participant, with its place in a group and its record there. -/
structure TournamentParticipant where
  id : Int
  name : String
  leadership : Int
  strength : Int
  intel : Int
  level : Int
  groupId : Option Int := none
  groupNo : Option Int := none
  win : Option Int := none
  draw : Option Int := none
  lose : Option Int := none
  gl : Option Int := none
  seedRank : Option Int := none
  finalRank : Option Int := none
  preliminaryGroupId : Option Int := none
  preliminaryGroupNo : Option Int := none
  preliminaryRank : Option Int := none
  preliminaryWin : Option Int := none
  preliminaryDraw : Option Int := none
  preliminaryLose : Option Int := none
  preliminaryGl : Option Int := none
  deriving DecidableEq

/-- A line of a battle's report. -/
structure TournamentLogEntry where
  phase : Int
  attackerEnergy : Int
  defenderEnergy : Int
  attackerDamage : Int
  defenderDamage : Int
  text : String
  deriving DecidableEq

/-- A battle's report as it is stored with its match. -/
structure TournamentReport where
  log : List String
  logEntries : List TournamentLogEntry
  deriving DecidableEq

/-- What was left of both sides at the end of a battle, if it had a round. -/
def TournamentReport.lastEnergy (report : TournamentReport) : Option (Int × Int) :=
  report.logEntries.getLast?.map fun entry => (entry.attackerEnergy, entry.defenderEnergy)

/-- A match of the bracket, or the latest battle of a group. -/
structure TournamentMatch where
  id : Int
  stage : Nat
  roundIndex : Int
  groupId : Option Int := none
  attackerId : Int
  defenderId : Int
  winnerId : Option Int := none
  report : Option TournamentReport := none
  deriving DecidableEq

/-- A match has a winner; zero is no general. -/
def TournamentMatch.decided (game : TournamentMatch) : Bool :=
  match game.winnerId with
  | some winner => winner ≠ 0
  | none => false

/-- A side of a battle. -/
structure TournamentFighter where
  id : Int
  name : String
  leadership : Int
  strength : Int
  intel : Int
  level : Int
  deriving DecidableEq

/-- A participant as it goes into a battle. -/
def TournamentParticipant.fighter (entry : TournamentParticipant) : TournamentFighter :=
  ⟨entry.id, entry.name, entry.leadership, entry.strength, entry.intel, entry.level⟩

/-- What decides a battle. -/
structure TournamentBattleInput where
  type : TournamentType
  /-- A battle of the bracket is fought longer than one of a group. -/
  untilDecided : Bool
  attacker : TournamentFighter
  defender : TournamentFighter
  openYear : Int
  openMonth : Int
  stage : Nat
  phase : Nat
  matchIndex : Int
  baseSeed : String
  deriving DecidableEq

/-- The side a battle went to, if any. -/
inductive BattleSide where
  | attacker
  | defender
  | neither
  deriving DecidableEq

/-- The rounds of a battle: how they ended, the damage each side took, and the report. -/
structure BattleCourse where
  selected : BattleSide
  attackerDamage : Int
  defenderDamage : Int
  report : TournamentReport
  deriving DecidableEq

/-- The outcome of a battle. -/
structure TournamentBattleResult where
  winnerId : Option Int
  draw : Bool
  attackerDamage : Int
  defenderDamage : Int
  report : TournamentReport
  deriving DecidableEq

/-- The seed of a random generator of the tournament. -/
structure TournamentRngSeed where
  baseSeed : String
  openYear : Int
  openMonth : Int
  stage : Nat
  phase : Nat
  matchIndex : Int
  participantIndex : Int
  extraSeed : String
  deriving DecidableEq

/-- A general as the tournament reads it. -/
structure TournamentGeneral where
  id : Int
  name : String
  leadership : Int
  strength : Int
  intel : Int
  level : Int
  npcState : Int
  gold : Int
  /-- The general has asked to be entered by itself. -/
  applies : Bool
  deriving DecidableEq

/-- The commands that the tournament gives the engine. -/
inductive TournamentCommand where
  | matchResult (type : TournamentType) (attackerId defenderId : Int) (result : BattleSide)
  | seedNpcBets (requestId : String) (bets : List (Int × Int))
  | reward (requestId : String) (type : TournamentType) (winnerId runnerUpId : Int) (top16 top8 top4 : List Int)
  | bettingPayout (requestId : String) (bettingId : Int) (type : TournamentType) (payouts : List (Int × Int))
  deriving DecidableEq

/-- What the engine answers: whether the command was carried out, and for which generals. -/
structure TournamentAnswer where
  ok : Bool
  reason : String
  processedGeneralIds : List Int
  deriving DecidableEq

/--
What a tick of the worker finds around it.

The generals are the rows of a table, so no id is there twice, and ids of generals are above zero. The rounds of a
battle and the draws of a generator are functions of their seeds; a draw picks an index, whatever the list.
-/
structure TournamentEnvironment where
  now : Int
  baseSeed : String
  generals : List TournamentGeneral
  generalsDistinct : (generals.map TournamentGeneral.id).Nodup
  generalsPositive : ∀ general ∈ generals, 0 < general.id
  currentYear : Int
  startYear : Int
  fight : TournamentBattleInput → BattleCourse
  drawGeneral : TournamentRngSeed → Nat → List TournamentParticipant → Nat
  drawNumber : TournamentRngSeed → Nat → List Int → Nat
  shuffle : TournamentRngSeed → (ids : List Int) → { shuffled : List Int // shuffled.Perm ids }
  /-- What the engine answers to a command in time, if it does. -/
  answer : TournamentCommand → Option TournamentAnswer

/-- The outcome of a battle, from its rounds. -/
def resolveTournamentBattle (env : TournamentEnvironment) (input : TournamentBattleInput) :
    TournamentBattleResult :=
  let course := env.fight input
  { winnerId := match course.selected with
      | .attacker => some input.attacker.id
      | .defender => some input.defender.id
      | .neither => none
    draw := course.selected = .neither
    attackerDamage := course.attackerDamage
    defenderDamage := course.defenderDamage
    report := course.report }

/-- The element under a drawn index. -/
def drawn {α : Type} (items : List α) (index : Nat) : Option α := items[index % items.length]?

/-- The store of a tournament. -/
structure TournamentStore where
  state : Option TournamentState
  participants : List TournamentParticipant
  matchEntries : List TournamentMatch
  bettingEntries : List TournamentBet
  deriving DecidableEq

/-- The store with the commands given so far, and how many more writes and commands the worker gets to. -/
structure TournamentDesk where
  store : TournamentStore
  sent : List TournamentCommand
  /-- A worker without allowance is not stopped. -/
  allowance : Option Nat
  deriving DecidableEq

/-- Why a tick came to no end. -/
inductive TournamentFault where
  | stopped
  | failed (message : String)
  deriving DecidableEq

/-- A part of a tick. -/
abbrev TournamentM := Effect TournamentFault TournamentDesk

namespace TournamentDesk

/-- A write or a command, unless the worker has been stopped. -/
def act (change : TournamentDesk → TournamentDesk) : TournamentM Unit := do
  let desk ← get
  match desk.allowance with
  | none => modify change
  | some 0 => throw .stopped
  | some (more + 1) => modify fun desk => { change desk with allowance := some more }

/-- Stores the state. -/
def setState (state : TournamentState) : TournamentM Unit :=
  act fun desk => { desk with store := { desk.store with state := some state } }

/-- Stores the participants. -/
def setParticipants (participants : List TournamentParticipant) : TournamentM Unit :=
  act fun desk => { desk with store := { desk.store with participants } }

/-- Stores the matches. -/
def setMatches (matchEntries : List TournamentMatch) : TournamentM Unit :=
  act fun desk => { desk with store := { desk.store with matchEntries } }

/-- Stores the bets. -/
def setBettingEntries (bettingEntries : List TournamentBet) : TournamentM Unit :=
  act fun desk => { desk with store := { desk.store with bettingEntries } }

/-- Gives a command. -/
def sendCommand (command : TournamentCommand) : TournamentM Unit :=
  act fun desk => { desk with sent := desk.sent ++ [command] }

/-- Gives a command and waits for the answer. -/
def requestCommand (env : TournamentEnvironment) (command : TournamentCommand) :
    TournamentM (Option TournamentAnswer) := do
  sendCommand command
  return env.answer command

end TournamentDesk

end Sammo.Tournament
