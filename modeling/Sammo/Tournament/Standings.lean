import Sammo.Lib.StateMachine
import Sammo.Tournament.GroupLaws
import Sammo.Tournament.RoundLaws

/-! What the battles of the groups add to the records of the participants. -/

namespace Sammo.Tournament

/-- A battle of a group, as it is called for. -/
structure GroupMatch where
  attacker : TournamentParticipant
  defender : TournamentParticipant
  state : TournamentState
  matchIndex : Int

/-- The result of such a battle. -/
def GroupMatch.result (env : TournamentEnvironment) (fixture : GroupMatch) : TournamentBattleResult :=
  resolveTournamentBattle env
    (battleInput env fixture.state fixture.attacker fixture.defender false fixture.matchIndex)

/-- The battles of the groups, each between two participants of one group; a battle shows its result. -/
def groupMatches (env : TournamentEnvironment) :
    StateMachine (List TournamentParticipant) GroupMatch TournamentBattleResult where
  step participants fixture :=
    if fixture.attacker ∈ participants ∧ fixture.defender ∈ participants ∧ fixture.attacker.id ≠ fixture.defender.id ∧
        fixture.attacker.groupId = fixture.defender.groupId then
      some ((applyGroupMatch env participants fixture.attacker fixture.defender fixture.state fixture.matchIndex).1,
        fixture.result env)
    else none

variable {env : TournamentEnvironment} {participants : List TournamentParticipant} {fixture : GroupMatch}

/-- By how much more damage the attacker has done than taken. -/
def TournamentBattleResult.balance (result : TournamentBattleResult) : Int := result.defenderDamage - result.attackerDamage

/-- A balance of damage as it is scored. -/
def scored (balance : Int) : Int := ⌊(balance : ℚ) / 50 + 1 / 2⌋

/-- What a battle is worth to a participant: the balance of its own damage, if the battle is decided. -/
def GroupMatch.worth (fixture : GroupMatch) (result : TournamentBattleResult) (id : Int) : Int :=
  if result.draw then 0
  else if id = fixture.attacker.id then scored result.balance
  else if id = fixture.defender.id then scored (-result.balance)
  else 0

/-- What the battles of a run are worth to a participant. -/
def score (trace : List (GroupMatch × TournamentBattleResult)) (id : Int) : Int :=
  match trace with
  | [] => 0
  | one :: rest => one.1.worth one.2 id + score rest id

/-- What a battle adds to the score of one of the two that have fought it. -/
def TournamentBattleResult.added (result : TournamentBattleResult) (id : Int) : Int :=
  if result.draw then 0
  else if result.winnerId = some id then scored result.balance
  else -scored result.balance

/--
A battle that is scored for both as it was fought.

The winner gets the balance of the attacker and the loser its opposite, so the defender must not win by much, and the
loser's half units are rounded the other way.
-/
def FairlyScored (fixture : GroupMatch) (result : TournamentBattleResult) : Prop :=
  result.draw = true ∨
    (result.winnerId = some fixture.attacker.id ∧ result.balance % 50 ≠ 25) ∨
    (result.winnerId = some fixture.defender.id ∧ -25 < result.balance ∧ result.balance < 25)

instance (fixture : GroupMatch) (result : TournamentBattleResult) : Decidable (FairlyScored fixture result) :=
  inferInstanceAs (Decidable (_ ∨ _))

variable {balance : Int} {group : List TournamentParticipant} {next : List TournamentParticipant}
  {result : TournamentBattleResult} {trace : List (GroupMatch × TournamentBattleResult)}

theorem scored_eq_iff {units : Int} :
    scored balance = units ↔ 50 * units - 25 ≤ balance ∧ balance < 50 * units + 25 := by
  rw [scored, Int.floor_eq_iff]
  constructor
  · rintro ⟨low, high⟩
    have below : (50 * units - 25 : ℚ) ≤ balance := by linarith
    have above : (balance : ℚ) < 50 * units + 25 := by linarith
    exact ⟨by exact_mod_cast below, by exact_mod_cast above⟩
  · rintro ⟨low, high⟩
    have below : (50 * units - 25 : ℚ) ≤ balance := by exact_mod_cast low
    have above : (balance : ℚ) < 50 * units + 25 := by exact_mod_cast high
    constructor <;> linarith

theorem scored_neg_iff : -scored balance = scored (-balance) ↔ balance % 50 ≠ 25 := by
  have spec := scored_eq_iff.mp (Eq.refl (scored balance))
  generalize scored balance = units at spec ⊢
  rw [eq_comm, scored_eq_iff]
  omega

theorem scored_swapped_iff :
    (scored balance = scored (-balance) ∧ -scored balance = scored balance) ↔ -25 < balance ∧ balance < 25 := by
  have spec := scored_eq_iff.mp (Eq.refl (scored balance))
  generalize scored balance = units at spec ⊢
  rw [eq_comm (a := units), scored_eq_iff]
  omega

theorem result_winner (env : TournamentEnvironment) (fixture : GroupMatch) : (fixture.result env).draw = true ∨
    ((fixture.result env).draw = false ∧ ((fixture.result env).winnerId = some fixture.attacker.id ∨
      (fixture.result env).winnerId = some fixture.defender.id)) := by
  simp only [GroupMatch.result, resolveTournamentBattle]
  generalize env.fight _ = course
  obtain ⟨selected, _, _, _⟩ := course
  cases selected
  · exact .inr ⟨rfl, .inl rfl⟩
  · exact .inr ⟨rfl, .inr rfl⟩
  · exact .inl rfl

theorem added_eq_worth_iff (env : TournamentEnvironment) (apart : fixture.attacker.id ≠ fixture.defender.id) :
    ((fixture.result env).added fixture.attacker.id = fixture.worth (fixture.result env) fixture.attacker.id ∧
      (fixture.result env).added fixture.defender.id = fixture.worth (fixture.result env) fixture.defender.id) ↔
      FairlyScored fixture (fixture.result env) := by
  simp only [TournamentBattleResult.added, GroupMatch.worth, FairlyScored, if_neg apart.symm, if_true]
  rcases result_winner env fixture with draw | ⟨decided, winner | winner⟩
  · simp [draw]
  · -- The attacker has won, so the loser's opposite score is to be that of the opposite balance.
    have other : ¬ (some fixture.attacker.id = some fixture.defender.id) := fun same => apart (Option.some.inj same)
    simp only [decided, winner, other, if_false, if_true, Bool.false_eq_true, false_or, true_and, false_and, or_false]
    exact scored_neg_iff
  · have other : ¬ (some fixture.defender.id = some fixture.attacker.id) := fun same => apart (Option.some.inj same).symm
    simp only [decided, winner, other, if_false, if_true, Bool.false_eq_true, false_or, true_and, false_and]
    rw [and_comm]
    exact scored_swapped_iff

/-! ### Records -/

theorem recordBattle_counts (result : TournamentBattleResult) (entry : TournamentParticipant) :
    let after := recordBattle result (scored result.balance) entry
    let won := result.draw = false ∧ result.winnerId = some entry.id
    after.win.getD 0 = entry.win.getD 0 + (if won then 1 else 0) ∧
      after.lose.getD 0 = entry.lose.getD 0 + (if result.draw = false ∧ result.winnerId ≠ some entry.id then 1 else 0) ∧
      after.draw.getD 0 = entry.draw.getD 0 + (if result.draw then 1 else 0) ∧
      after.gl.getD 0 = entry.gl.getD 0 + result.added entry.id := by
  simp only [recordBattle, TournamentBattleResult.added]
  cases result.draw
  · by_cases won : result.winnerId = some entry.id
    · simp [won]
    · simp [won]
      omega
  · simp

theorem recordBattle_place (result : TournamentBattleResult) (glDelta : Int) (entry : TournamentParticipant) :
    (recordBattle result glDelta entry).id = entry.id ∧ (recordBattle result glDelta entry).groupId = entry.groupId := by
  have unscored := unscored_recordBattle result glDelta entry
  have id : (recordBattle result glDelta entry).unscored.id = entry.unscored.id := by rw [unscored]
  have group : (recordBattle result glDelta entry).unscored.groupId = entry.unscored.groupId := by rw [unscored]
  exact ⟨id, group⟩

theorem applyGroupMatch_eq (env : TournamentEnvironment) (participants : List TournamentParticipant) (fixture : GroupMatch) :
    (applyGroupMatch env participants fixture.attacker fixture.defender fixture.state fixture.matchIndex).1 =
      participants.map fun entry =>
        if entry.id = fixture.attacker.id ∨ entry.id = fixture.defender.id then
          recordBattle (fixture.result env) (scored (fixture.result env).balance) entry
        else entry := by
  apply List.map_congr_left
  intro entry _
  by_cases fought : entry.id = fixture.attacker.id ∨ entry.id = fixture.defender.id
  · rw [if_pos fought, if_neg (by tauto)]
    rfl
  · rw [if_neg fought, if_pos (by tauto)]

theorem sum_one (distinct : (participants.map TournamentParticipant.id).Nodup) {one : TournamentParticipant}
    (member : one ∈ participants) (number : Int) :
    (participants.map fun entry => if entry.id = one.id then number else 0).sum = number := by
  induction participants with
  | nil => cases member
  | cons entry rest ih =>
    obtain ⟨fresh, distinctRest⟩ := List.nodup_cons.mp distinct
    rw [List.map_cons, List.sum_cons]
    rcases List.mem_cons.mp member with rfl | later
    · have nothing : (rest.map fun entry => if entry.id = one.id then number else 0) = rest.map fun _ => (0 : Int) := by
        apply List.map_congr_left
        intro other among
        have apart : other.id ≠ one.id := fun same => fresh (same ▸ List.mem_map_of_mem among)
        rw [if_neg apart]
      rw [if_pos rfl, nothing]
      simp
    · have apart : entry.id ≠ one.id := fun same => fresh (same ▸ List.mem_map_of_mem later)
      rw [if_neg apart, ih distinctRest later, zero_add]

theorem sum_two (distinct : (participants.map TournamentParticipant.id).Nodup) {first second : TournamentParticipant}
    (firstMember : first ∈ participants) (secondMember : second ∈ participants) (apart : first.id ≠ second.id)
    (value : TournamentParticipant → Int) (change : TournamentParticipant → TournamentParticipant) (more : Int → Int)
    (changed : ∀ entry ∈ participants, value (change entry) = value entry +
      if entry.id = first.id ∨ entry.id = second.id then more entry.id else 0) :
    ((participants.map change).map value).sum = (participants.map value).sum + (more first.id + more second.id) := by
  have each : (participants.map change).map value = participants.map fun entry => value entry +
      ((if entry.id = first.id then more first.id else 0) + if entry.id = second.id then more second.id else 0) := by
    rw [List.map_map]
    apply List.map_congr_left
    intro entry member
    rw [Function.comp_apply, changed entry member]
    by_cases isFirst : entry.id = first.id
    · simp [isFirst, apart]
    · by_cases isSecond : entry.id = second.id
      · simp [isSecond, apart.symm]
      · simp [isFirst, isSecond]
  rw [each, List.sum_map_add, List.sum_map_add, sum_one distinct firstMember, sum_one distinct secondMember]

/-- A group with as many wins as losses, whose draws come in pairs, and whose scores add up to nothing. -/
structure Balanced (group : List TournamentParticipant) : Prop where
  wins : (group.map fun entry => entry.win.getD 0).sum = (group.map fun entry => entry.lose.getD 0).sum
  draws : 2 ∣ (group.map fun entry => entry.draw.getD 0).sum
  scores : (group.map fun entry => entry.gl.getD 0).sum = 0

theorem Balanced.fought (held : Balanced group) (distinct : (group.map TournamentParticipant.id).Nodup)
    (env : TournamentEnvironment) (attacker : fixture.attacker ∈ group) (defender : fixture.defender ∈ group)
    (apart : fixture.attacker.id ≠ fixture.defender.id) :
    Balanced (applyGroupMatch env group fixture.attacker fixture.defender fixture.state fixture.matchIndex).1 := by
  rw [applyGroupMatch_eq]
  generalize fighting : (fun entry : TournamentParticipant =>
    if entry.id = fixture.attacker.id ∨ entry.id = fixture.defender.id then
      recordBattle (fixture.result env) (scored (fixture.result env).balance) entry else entry) = change
  have counted (value : TournamentParticipant → Int) (more : Int → Int)
      (each : ∀ entry, value (recordBattle (fixture.result env) (scored (fixture.result env).balance) entry) =
        value entry + more entry.id) :
      ((group.map change).map value).sum =
        (group.map value).sum + (more fixture.attacker.id + more fixture.defender.id) := by
    refine sum_two distinct attacker defender apart value change more fun entry _ => ?_
    rw [← fighting]
    dsimp only
    split
    · exact each entry
    · rw [add_zero]
  have counts := recordBattle_counts (fixture.result env)
  let result := fixture.result env
  have wins := counted (fun entry => entry.win.getD 0)
    (fun id => if result.draw = false ∧ result.winnerId = some id then 1 else 0) fun entry => (counts entry).1
  have losses := counted (fun entry => entry.lose.getD 0)
    (fun id => if result.draw = false ∧ result.winnerId ≠ some id then 1 else 0) fun entry => (counts entry).2.1
  have draws := counted (fun entry => entry.draw.getD 0) (fun _ => if result.draw then 1 else 0)
    fun entry => (counts entry).2.2.1
  have scores := counted (fun entry => entry.gl.getD 0) result.added fun entry => (counts entry).2.2.2
  have different : ¬ (some fixture.attacker.id = some fixture.defender.id) := fun same => apart (Option.some.inj same)
  obtain ⟨sameWins, evenDraws, noScore⟩ := held
  rcases result_winner env fixture with draw | ⟨decided, winner | winner⟩
  · -- A draw counts as one for both, and nothing else changes.
    simp only [result, draw, TournamentBattleResult.added, if_true, Bool.true_eq_false, false_and, if_false, add_zero] at wins losses draws scores
    exact ⟨by omega, by omega, by omega⟩
  · simp only [result, decided, winner, different, TournamentBattleResult.added, if_true, Bool.false_eq_true, true_and,
      if_false, add_zero, zero_add, ne_eq, not_true, not_false_iff] at wins losses draws scores
    exact ⟨by omega, by omega, by omega⟩
  · simp only [result, decided, winner, Ne.symm different, TournamentBattleResult.added, if_true, Bool.false_eq_true,
      true_and, if_false, add_zero, zero_add, ne_eq, not_true, not_false_iff] at wins losses draws scores
    exact ⟨by omega, by omega, by omega⟩

/-! ### Groups -/

/-- The participants of a group. -/
def ofGroup (participants : List TournamentParticipant) (group : Option Int) : List TournamentParticipant :=
  participants.filter fun entry => entry.groupId = group

/-- A record in which nothing is entered yet. -/
structure TournamentParticipant.Blank (entry : TournamentParticipant) : Prop where
  win : entry.win.getD 0 = 0
  draw : entry.draw.getD 0 = 0
  lose : entry.lose.getD 0 = 0
  gl : entry.gl.getD 0 = 0

/-- Every score of some participants is what the battles are worth to them. -/
def Settled (trace : List (GroupMatch × TournamentBattleResult)) (participants : List TournamentParticipant) : Prop :=
  ∀ entry ∈ participants, entry.gl.getD 0 = score trace entry.id

instance (trace : List (GroupMatch × TournamentBattleResult)) (participants : List TournamentParticipant) :
    Decidable (Settled trace participants) := inferInstanceAs (Decidable (∀ entry ∈ participants, _))

theorem score_snoc (trace : List (GroupMatch × TournamentBattleResult)) (one : GroupMatch × TournamentBattleResult)
    (id : Int) : score (trace ++ [one]) id = score trace id + one.1.worth one.2 id := by
  induction trace with
  | nil => simp [score]
  | cons first rest ih =>
    rw [List.cons_append, score, score, ih]
    ring

theorem not_fighting {group : Option Int} {entry : TournamentParticipant}
    (distinct : (participants.map TournamentParticipant.id).Nodup) (attacker : fixture.attacker ∈ participants)
    (defender : fixture.defender ∈ participants) (same : fixture.attacker.groupId = fixture.defender.groupId)
    (elsewhere : fixture.attacker.groupId ≠ group) (member : entry ∈ ofGroup participants group) :
    entry.id ≠ fixture.attacker.id ∧ entry.id ≠ fixture.defender.id := by
  obtain ⟨among, inGroup⟩ := List.mem_filter.mp member
  have inGroup : entry.groupId = group := of_decide_eq_true inGroup
  constructor
  · intro isAttacker
    exact elsewhere (List.inj_on_of_nodup_map distinct among attacker isAttacker ▸ inGroup)
  · intro isDefender
    exact elsewhere (same.trans (List.inj_on_of_nodup_map distinct among defender isDefender ▸ inGroup))

theorem ofGroup_fought (env : TournamentEnvironment) (distinct : (participants.map TournamentParticipant.id).Nodup)
    (attacker : fixture.attacker ∈ participants) (defender : fixture.defender ∈ participants)
    (same : fixture.attacker.groupId = fixture.defender.groupId) (group : Option Int) :
    ofGroup (applyGroupMatch env participants fixture.attacker fixture.defender fixture.state fixture.matchIndex).1 group =
      if fixture.attacker.groupId = group then
        (applyGroupMatch env (ofGroup participants group) fixture.attacker fixture.defender fixture.state
          fixture.matchIndex).1
      else ofGroup participants group := by
  rw [applyGroupMatch_eq, applyGroupMatch_eq, ofGroup, List.filter_map]
  have kept : ((fun entry : TournamentParticipant => decide (entry.groupId = group)) ∘ fun entry =>
      if entry.id = fixture.attacker.id ∨ entry.id = fixture.defender.id then
        recordBattle (fixture.result env) (scored (fixture.result env).balance) entry else entry) =
      fun entry => decide (entry.groupId = group) := by
    funext entry
    simp only [Function.comp_apply]
    split
    · rw [(recordBattle_place _ _ entry).2]
    · rfl
  rw [kept]
  split
  · rfl
  · rename_i elsewhere
    -- The two are the only ones with their ids, and neither is in this group.
    conv_rhs => rw [← List.map_id (ofGroup participants group)]
    apply List.map_congr_left
    intro entry member
    rw [if_neg (not_or.mpr (not_fighting distinct attacker defender same elsewhere member)), id]

theorem groupMatches_step (stepped : (groupMatches env).step participants fixture = some (next, result)) :
    fixture.attacker ∈ participants ∧ fixture.defender ∈ participants ∧ fixture.attacker.id ≠ fixture.defender.id ∧
      fixture.attacker.groupId = fixture.defender.groupId ∧ result = fixture.result env ∧
      next = (applyGroupMatch env participants fixture.attacker fixture.defender fixture.state fixture.matchIndex).1 := by
  simp only [groupMatches] at stepped
  split at stepped
  · rename_i enabled
    obtain ⟨attacker, defender, apart, same⟩ := enabled
    cases stepped
    exact ⟨attacker, defender, apart, same, rfl, rfl⟩
  · cases stepped

theorem ids_fought (env : TournamentEnvironment) (participants : List TournamentParticipant) (fixture : GroupMatch) :
    (applyGroupMatch env participants fixture.attacker fixture.defender fixture.state fixture.matchIndex).1.map
      TournamentParticipant.id = participants.map TournamentParticipant.id := by
  have unscored : (applyGroupMatch env participants fixture.attacker fixture.defender fixture.state
      fixture.matchIndex).1.map TournamentParticipant.unscored = participants.map TournamentParticipant.unscored :=
    unscored_applyGroupMatch fixture.matchIndex
  have ids := congrArg (List.map TournamentParticipant.id) unscored
  rw [List.map_map, List.map_map] at ids
  exact ids

theorem ofGroup_distinct (distinct : (participants.map TournamentParticipant.id).Nodup) (group : Option Int) :
    ((ofGroup participants group).map TournamentParticipant.id).Nodup :=
  distinct.sublist (List.filter_sublist.map _)

theorem balanced_step {group : Option Int} (distinct : (participants.map TournamentParticipant.id).Nodup)
    (held : Balanced (ofGroup participants group))
    (stepped : (groupMatches env).step participants fixture = some (next, result)) :
    (next.map TournamentParticipant.id).Nodup ∧ Balanced (ofGroup next group) := by
  obtain ⟨attacker, defender, apart, same, -, rfl⟩ := groupMatches_step stepped
  refine ⟨(ids_fought env participants fixture).symm ▸ distinct, ?_⟩
  rw [ofGroup_fought env distinct attacker defender same]
  split
  · rename_i inGroup
    exact held.fought (ofGroup_distinct distinct group) env (List.mem_filter.mpr ⟨attacker, decide_eq_true inGroup⟩)
      (List.mem_filter.mpr ⟨defender, decide_eq_true (same.symm.trans inGroup)⟩) apart
  · exact held

theorem worth_other {id : Int} (result : TournamentBattleResult) (attacker : id ≠ fixture.attacker.id)
    (defender : id ≠ fixture.defender.id) : fixture.worth result id = 0 := by
  simp only [GroupMatch.worth, if_neg attacker, if_neg defender, ite_self]

theorem settled_fought (settled : Settled trace group) (attacker : fixture.attacker ∈ group)
    (defender : fixture.defender ∈ group) (apart : fixture.attacker.id ≠ fixture.defender.id) :
    Settled (trace ++ [(fixture, fixture.result env)])
        (applyGroupMatch env group fixture.attacker fixture.defender fixture.state fixture.matchIndex).1 ↔
      FairlyScored fixture (fixture.result env) := by
  rw [← added_eq_worth_iff env apart, applyGroupMatch_eq]
  simp only [Settled, List.forall_mem_map, score_snoc]
  have counts entry := (recordBattle_counts (fixture.result env) entry).2.2.2
  have ids entry := (recordBattle_place (fixture.result env) (scored (fixture.result env).balance) entry).1
  constructor
  · intro after
    have attackerAfter := after fixture.attacker attacker
    have defenderAfter := after fixture.defender defender
    rw [if_pos (.inl rfl), counts, ids, settled _ attacker] at attackerAfter
    rw [if_pos (.inr rfl), counts, ids, settled _ defender] at defenderAfter
    exact ⟨add_left_cancel attackerAfter, add_left_cancel defenderAfter⟩
  · rintro ⟨attackerWorth, defenderWorth⟩ entry member
    by_cases fought : entry.id = fixture.attacker.id ∨ entry.id = fixture.defender.id
    · rw [if_pos fought, counts, ids, settled _ member]
      rcases fought with isAttacker | isDefender
      · rw [isAttacker, attackerWorth]
      · rw [isDefender, defenderWorth]
    · rw [if_neg fought, settled _ member]
      rw [not_or] at fought
      rw [worth_other _ fought.1 fought.2, add_zero]

theorem settled_step {group : Option Int} (distinct : (participants.map TournamentParticipant.id).Nodup)
    (settled : Settled trace (ofGroup participants group))
    (stepped : (groupMatches env).step participants fixture = some (next, result)) :
    Settled (trace ++ [(fixture, result)]) (ofGroup next group) ↔
      (fixture.attacker.groupId = group → FairlyScored fixture (fixture.result env)) := by
  obtain ⟨attacker, defender, apart, same, rfl, rfl⟩ := groupMatches_step stepped
  rw [ofGroup_fought env distinct attacker defender same]
  split
  · rename_i inGroup
    rw [settled_fought settled (List.mem_filter.mpr ⟨attacker, decide_eq_true inGroup⟩)
      (List.mem_filter.mpr ⟨defender, decide_eq_true (same.symm.trans inGroup)⟩) apart]
    exact ⟨fun fair _ => fair, fun fair => fair inGroup⟩
  · rename_i elsewhere
    refine ⟨fun _ inGroup => absurd inGroup elsewhere, fun _ entry member => ?_⟩
    obtain ⟨attackerOther, defenderOther⟩ := not_fighting distinct attacker defender same elsewhere member
    rw [score_snoc, ← settled entry member, worth_other _ attackerOther defenderOther, add_zero]

theorem balanced_blank (blank : ∀ entry ∈ group, entry.Blank) : Balanced group := by
  have nothing (value : TournamentParticipant → Int) (zero : ∀ entry ∈ group, value entry = 0) :
      (group.map value).sum = 0 := by
    rw [List.map_congr_left zero]
    simp
  have wins := nothing (fun entry => entry.win.getD 0) fun entry member => (blank entry member).win
  have losses := nothing (fun entry => entry.lose.getD 0) fun entry member => (blank entry member).lose
  have draws := nothing (fun entry => entry.draw.getD 0) fun entry member => (blank entry member).draw
  exact ⟨by rw [wins, losses], by rw [draws]; exact dvd_zero 2,
    nothing (fun entry => entry.gl.getD 0) fun entry member => (blank entry member).gl⟩

/--
Whatever is fought, a group stays balanced.

Its scores are what the battles are worth as long as its battles are fairly scored, and no longer.
-/
theorem group_standings (env : TournamentEnvironment) (start : List TournamentParticipant) (group : Option Int)
    (distinct : (start.map TournamentParticipant.id).Nodup) (blank : ∀ entry ∈ ofGroup start group, entry.Blank) :
    (∀ trace final, (groupMatches env).Run start trace final → Balanced (ofGroup final group)) ∧
      (∀ trace final, (groupMatches env).RunWhile
          (fun _ fixture => fixture.attacker.groupId = group → FairlyScored fixture (fixture.result env)) start trace final →
        Settled trace (ofGroup final group)) ∧
      ∀ trace middle fixture next result, (groupMatches env).Run start trace middle →
        Settled trace (ofGroup middle group) → (groupMatches env).step middle fixture = some (next, result) →
        (Settled (trace ++ [(fixture, result)]) (ofGroup next group) ↔
          (fixture.attacker.groupId = group → FairlyScored fixture (fixture.result env))) := by
  have kept {trace final} (run : (groupMatches env).Run start trace final) :
      (final.map TournamentParticipant.id).Nodup ∧ Balanced (ofGroup final group) :=
    run.stateInvariant ⟨distinct, balanced_blank blank⟩
      fun _ _ _ _ held _ stepped => balanced_step held.1 held.2 stepped
  refine ⟨fun trace final run => (kept run).2, fun trace final run => ?_,
    fun trace middle fixture next result run settled stepped => settled_step (kept run).1 settled stepped⟩
  let Held (past : List (GroupMatch × TournamentBattleResult)) (state : List TournamentParticipant) : Prop :=
    (state.map TournamentParticipant.id).Nodup ∧ Balanced (ofGroup state group) ∧ Settled past (ofGroup state group)
  have initial : Held [] start := ⟨distinct, balanced_blank blank, fun entry member => (blank entry member).gl⟩
  have held : Held trace final := run.invariant initial fun past state fixture result next held fair stepped => by
    obtain ⟨distinct_, balanced, settled⟩ := held
    obtain ⟨distinctNext, balancedNext⟩ := balanced_step distinct_ balanced stepped
    exact ⟨distinctNext, balancedNext, (settled_step distinct_ settled stepped).mpr fair⟩
  exact held.2.2

/-- An environment whose rounds do the least damage. -/
def gentleEnvironment : TournamentEnvironment := emptyEnvironment.withRounds gentlest (fun _ => 0) fun _ => ()

/-- A strong and a weak participant of one group. -/
def strongParticipant : TournamentParticipant :=
  { id := 1, name := "가", leadership := 50, strength := 60, intel := 50, level := 10, groupId := some 0, groupNo := some 0 }

/-- The weak one of the two. -/
def weakParticipant : TournamentParticipant :=
  { id := 2, name := "나", leadership := 50, strength := 10, intel := 50, level := 10, groupId := some 0, groupNo := some 1 }

/-- A tournament of strength in its group phase. -/
def strengthState : TournamentState :=
  { stage := 2, phase := 0, type := .strength, auto := true, openYear := 190, openMonth := 1, termSeconds := 60, nextAt := 0
    bettingId := none, bettingCloseAt := none, winnerId := none, bettingSettled := false, rewardSettled := false
    npcBettingPlan := none, participantsLockedAt := none }

theorem groupOfTwo_blank : ∀ entry ∈ ofGroup [strongParticipant, weakParticipant] (some 0), entry.Blank := by
  intro entry member
  obtain rfl | rfl : entry = strongParticipant ∨ entry = weakParticipant := by simpa using (List.mem_filter.mp member).1
  · exact ⟨rfl, rfl, rfl, rfl⟩
  · exact ⟨rfl, rfl, rfl, rfl⟩

/-- The strong participant attacks and wins. -/
theorem group_standings_attacker :
    ∃ final trace, (groupMatches gentleEnvironment).Run [strongParticipant, weakParticipant] trace final ∧
      Balanced (ofGroup final (some 0)) ∧ Settled trace (ofGroup final (some 0)) ∧
      final.map (fun entry => entry.gl) = [some 2, some (-2)] := by
  let fixture : GroupMatch := ⟨strongParticipant, weakParticipant, strengthState, 0⟩
  have replayed : ((groupMatches gentleEnvironment).replay [strongParticipant, weakParticipant] [fixture]).map
      (fun reached => reached.1.map fun entry => entry.gl) = some [some 2, some (-2)] := by decide +kernel
  obtain ⟨⟨final, trace⟩, found, scores⟩ := Option.map_eq_some_iff.mp replayed
  have fair : FairlyScored fixture (fixture.result gentleEnvironment) := by decide +kernel
  obtain ⟨balanced, settled, -⟩ := group_standings gentleEnvironment [strongParticipant, weakParticipant] (some 0)
    (by decide) groupOfTwo_blank
  have admitted : ∀ event ∈ [fixture], ∀ _ : List TournamentParticipant,
      event.attacker.groupId = some 0 → FairlyScored event (event.result gentleEnvironment) := by
    intro event member _ _
    rw [List.mem_singleton.mp member]
    exact fair
  exact ⟨final, trace, StateMachine.run_of_replay found, balanced trace final (StateMachine.run_of_replay found),
    settled trace final (StateMachine.runWhile_of_replay (fun event member state => admitted event member state) found),
    scores⟩

/-- The weak participant attacks, and the winner loses the points that it has earned. -/
theorem group_standings_defender :
    ¬ ∀ (env : TournamentEnvironment) (start : List TournamentParticipant) (group : Option Int),
      (start.map TournamentParticipant.id).Nodup → (∀ entry ∈ ofGroup start group, entry.Blank) →
      ∀ trace final, (groupMatches env).Run start trace final → Settled trace (ofGroup final group) := by
  intro claimed
  let fixture : GroupMatch := ⟨weakParticipant, strongParticipant, strengthState, 0⟩
  have replayed : ((groupMatches gentleEnvironment).replay [strongParticipant, weakParticipant] [fixture]).map
      (fun reached => decide (Settled reached.2 (ofGroup reached.1 (some 0)))) = some false := by decide +kernel
  obtain ⟨⟨final, trace⟩, found, unsettled⟩ := Option.map_eq_some_iff.mp replayed
  exact of_decide_eq_false unsettled (claimed gentleEnvironment [strongParticipant, weakParticipant] (some 0) (by decide)
    groupOfTwo_blank trace final (StateMachine.run_of_replay found))

end Sammo.Tournament
