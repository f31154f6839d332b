import Sammo.Lib.StateMachine
import Sammo.Tournament.Worker

/-! A tournament only goes forward, and the decided matches of its bracket stay, wherever the worker stops. -/

namespace Sammo.Tournament

open Effect TournamentDesk

/-- The place of a stage; the end of a tournament comes after all of them. -/
def stagePlace (stage : Nat) : Nat := if stage = 0 then 11 else stage

/-- A tournament has gone on, or is where it was; what is settled stays settled. -/
structure Advances (earlier later : TournamentState) : Prop where
  place : stagePlace earlier.stage < stagePlace later.stage ∨
    earlier.stage = later.stage ∧ earlier.phase ≤ later.phase
  type : later.type = earlier.type
  opened : later.openYear = earlier.openYear ∧ later.openMonth = earlier.openMonth
  identity : earlier.bettingId.isSome → later.bettingId = earlier.bettingId
  finished : earlier.stage = 0 → later.stage = 0 ∧ later.winnerId = earlier.winnerId
  rewardSettled : earlier.rewardSettled → later.rewardSettled
  bettingSettled : earlier.bettingSettled → later.bettingSettled

theorem Advances.refl (state : TournamentState) : Advances state state :=
  ⟨.inr ⟨rfl, Nat.le_refl _⟩, rfl, ⟨rfl, rfl⟩, fun _ => rfl, fun stopped => ⟨stopped, rfl⟩, id, id⟩

theorem Advances.trans {first second third : TournamentState} (before : Advances first second)
    (after : Advances second third) : Advances first third where
  place := by
    rcases before.place with earlier | ⟨same, earlier⟩
    · rcases after.place with later | ⟨stays, -⟩
      · exact .inl (earlier.trans later)
      · exact .inl (stays ▸ earlier)
    · rcases after.place with later | ⟨stays, later⟩
      · exact .inl (same ▸ later)
      · exact .inr ⟨same.trans stays, earlier.trans later⟩
  type := after.type.trans before.type
  opened := ⟨after.opened.1.trans before.opened.1, after.opened.2.trans before.opened.2⟩
  identity given := by
    have same := before.identity given
    exact (after.identity (same ▸ given)).trans same
  finished stopped := by
    obtain ⟨stays, same⟩ := before.finished stopped
    obtain ⟨ended, still⟩ := after.finished stays
    exact ⟨ended, still.trans same⟩
  rewardSettled settled := after.rewardSettled (before.rewardSettled settled)
  bettingSettled settled := after.bettingSettled (before.bettingSettled settled)

/-- A match of the bracket has one id, which no other match of the bracket has. -/
def Coherent (matchEntries : List TournamentMatch) : Prop :=
  ∀ left ∈ matchEntries, ∀ right ∈ matchEntries, 7 ≤ left.stage → 7 ≤ right.stage → left.id = right.id → left = right

/-- A decided match of the bracket stays as it is. -/
def KeepsBracket (earlier later : List TournamentMatch) : Prop :=
  ∀ entry ∈ earlier, 7 ≤ entry.stage → entry.decided → entry ∈ later

/-- What a store has come to from another one. -/
structure Reached (start store : TournamentStore) : Prop where
  coherent : Coherent store.matchEntries
  bracket : KeepsBracket start.matchEntries store.matchEntries
  forward : ∀ earlier, start.state = some earlier → ∃ later, store.state = some later ∧ Advances earlier later

/-- A store that has been reached, with the state it has. -/
structure At (start : TournamentStore) (state : TournamentState) (store : TournamentStore) : Prop extends
    Reached start store where
  current : store.state = some state

variable {start store : TournamentStore} {state next : TournamentState} {desk : TournamentDesk}
  {matchEntries added : List TournamentMatch} {env : TournamentEnvironment} {α β : Type}

/-- From a store that has been reached on, an operation only goes on, also where it fails or is stopped. -/
def Goes (start : TournamentStore) (before : TournamentStore → Prop) (operation : TournamentM α)
    (after : α → TournamentStore → Prop) : Prop :=
  Outcome (fun desk => before desk.store) operation (fun value desk => after value desk.store)
    fun _ desk => Reached start desk.store

variable {before middle : TournamentStore → Prop}

theorem goes_act {after : TournamentStore → Prop} {change : TournamentDesk → TournamentDesk}
    (held : ∀ store, before store → Reached start store)
    (written : ∀ desk, before desk.store → after (change desk).store) :
    Goes start before (act change) fun _ => after := by
  refine Outcome.read fun desk opening => ?_
  cases desk.allowance with
  | none => exact Outcome.modify fun current same => same ▸ written desk opening
  | some more =>
    cases more with
    | zero => exact Outcome.throw fun current same => same ▸ held _ opening
    | succ more => exact Outcome.modify fun current same => same ▸ written desk opening

theorem goes_setState (onward : ∀ store, before store → ∃ state, At start state store ∧ Advances state next) :
    Goes start before (setState next) fun _ => At start next := by
  refine goes_act (fun store opening => ?_) fun desk opening => ?_
  · obtain ⟨state, held, -⟩ := onward store opening
    exact held.toReached
  · obtain ⟨state, held, forward⟩ := onward desk.store opening
    refine ⟨⟨held.coherent, held.bracket, ?_⟩, rfl⟩
    intro earlier opening
    obtain ⟨later, current, already⟩ := held.forward earlier opening
    cases current.symm.trans held.current
    exact ⟨next, rfl, already.trans forward⟩

theorem goes_setParticipants (participants : List TournamentParticipant) :
    Goes start (At start state) (setParticipants participants) fun _ => At start state :=
  goes_act (fun _ held => held.toReached) fun _ held => ⟨⟨held.coherent, held.bracket, held.forward⟩, held.current⟩

theorem goes_setBettingEntries (bets : List TournamentBet) :
    Goes start (At start state) (setBettingEntries bets) fun _ => At start state :=
  goes_act (fun _ held => held.toReached) fun _ held => ⟨⟨held.coherent, held.bracket, held.forward⟩, held.current⟩

theorem goes_sendCommand (command : TournamentCommand) :
    Goes start (At start state) (sendCommand command) fun _ => At start state :=
  goes_act (fun _ held => held.toReached) fun _ held => held

theorem goes_setMatches (keeps : Coherent matchEntries → Coherent added ∧ KeepsBracket matchEntries added) :
    Goes start (fun store => At start state store ∧ store.matchEntries = matchEntries) (setMatches added)
      fun _ => At start state := by
  refine goes_act (fun _ held => held.1.toReached) ?_
  rintro desk ⟨held, same⟩
  obtain ⟨coherent, kept⟩ := keeps (same ▸ held.coherent)
  refine ⟨⟨coherent, ?_, held.forward⟩, held.current⟩
  intro entry member late decided
  exact kept entry (same ▸ held.bracket entry member late decided) late decided

theorem goes_read {after : β → TournamentStore → Prop} {rest : TournamentDesk → TournamentM β}
    (going : ∀ desk, before desk.store → Goes start (fun store => before store ∧ store = desk.store) (rest desk) after) :
    Goes start before (get >>= rest) after :=
  Outcome.read fun desk held => (going desk held).mono (fun _ same => ⟨same ▸ held, congrArg _ same⟩)
    (fun _ _ ended => ended) fun _ _ failed => failed

theorem Goes.from {stronger : TournamentStore → Prop} {after : α → TournamentStore → Prop} {operation : TournamentM α}
    (going : Goes start before operation after) (start_ : ∀ store, stronger store → before store) :
    Goes start stronger operation after :=
  going.mono (fun _ held => start_ _ held) (fun _ _ ended => ended) fun _ _ failed => failed

theorem goes_readState {after : β → TournamentStore → Prop} {rest : TournamentDesk → TournamentM β}
    (going : ∀ desk, Goes start (At start state) (rest desk) after) : Goes start (At start state) (get >>= rest) after :=
  goes_read fun desk _ => (going desk).from fun _ held => held.1

theorem goes_readMatches {after : β → TournamentStore → Prop} {rest : TournamentDesk → TournamentM β}
    (going : ∀ desk, Goes start (fun store => At start state store ∧ store.matchEntries = desk.store.matchEntries)
      (rest desk) after) : Goes start (At start state) (get >>= rest) after :=
  goes_read fun desk _ => (going desk).from fun _ held => ⟨held.1, congrArg _ held.2⟩

theorem goes_orFail {after : β → TournamentStore → Prop} {result : Except String α} {rest : α → TournamentM β}
    (held : ∀ store, before store → Reached start store)
    (going : ∀ value, result = .ok value → Goes start before (rest value) after) :
    Goes start before (orFail result >>= rest) after := by
  cases result with
  | ok value => exact going value rfl
  | error message =>
    have failed : Goes start before (orFail (.error message) : TournamentM α) fun _ _ => False :=
      Outcome.throw fun _ opening => held _ opening
    exact failed.bind fun _ => ⟨fun _ none_ => none_.elim, fun _ none_ => none_.elim⟩

theorem Goes.to {after weaker : α → TournamentStore → Prop} {operation : TournamentM α}
    (going : Goes start before operation after) (finish : ∀ value store, after value store → weaker value store) :
    Goes start before operation weaker :=
  going.mono (fun _ held => held) (fun _ _ ended => finish _ _ ended) fun _ _ failed => failed

theorem le_largestMatchId {entry : TournamentMatch} (member : entry ∈ matchEntries) (late : 7 ≤ entry.stage) :
    entry.id ≤ largestMatchId matchEntries := by
  have above (entries : List TournamentMatch) : ∀ largest : Int,
      largest ≤ entries.foldl (fun largest entry => max largest entry.id) largest ∧
        ∀ entry ∈ entries, entry.id ≤ entries.foldl (fun largest entry => max largest entry.id) largest := by
    induction entries with
    | nil => exact fun largest => ⟨Int.le_refl _, nofun⟩
    | cons first rest ih =>
      intro largest
      obtain ⟨past, others⟩ := ih (max largest first.id)
      refine ⟨(Int.le_max_left _ _).trans past, ?_⟩
      intro entry member
      rcases List.mem_cons.mp member with rfl | further
      · exact (Int.le_max_right _ _).trans past
      · exact others entry further
  exact (above _ 0).2 entry (List.mem_filter.mpr ⟨member, by simpa using late⟩)

theorem coherent_roundMatches (stage : Nat) (firstId : Int) (playerIds : List Int) :
    Coherent (roundMatches stage firstId playerIds) ∧ ∀ entry ∈ roundMatches stage firstId playerIds, firstId ≤ entry.id := by
  unfold roundMatches
  constructor
  · intro left isLeft right isRight _ _ same
    obtain ⟨⟨pair, index⟩, listed, rfl⟩ := List.mem_map.mp isLeft
    obtain ⟨⟨other, place⟩, also, rfl⟩ := List.mem_map.mp isRight
    have at_ : index = place := by
      dsimp only at same
      omega
    subst at_
    rw [List.mem_zipIdx_iff_getElem?] at listed also
    cases listed.symm.trans also
    rfl
  · intro entry member
    obtain ⟨⟨pair, index⟩, -, rfl⟩ := List.mem_map.mp member
    dsimp only
    omega

theorem coherent_firstRound {participants : List TournamentParticipant}
    (built : firstRound env state participants = .ok added) : Coherent added := by
  have round : ∃ ids, added = roundMatches 7 1 ids := by
    unfold firstRound at built
    split at built
    · rename_i fixed
      cases built
      obtain ⟨ids, -, rfl⟩ := Option.map_eq_some_iff.mp fixed
      exact ⟨ids, rfl⟩
    · unfold buildInitialMatches at built
      dsimp only at built
      split at built
      · cases built
      · cases built
        exact ⟨_, rfl⟩
  obtain ⟨ids, rfl⟩ := round
  exact (coherent_roundMatches 7 1 ids).1

theorem Coherent.append (coherent : Coherent matchEntries) (new : Coherent added)
    (apart : ∀ entry ∈ matchEntries, 7 ≤ entry.stage → ∀ other ∈ added, entry.id ≠ other.id) :
    Coherent (matchEntries ++ added) := by
  intro left isLeft right isRight lateLeft lateRight same
  rcases List.mem_append.mp isLeft with old | fresh <;> rcases List.mem_append.mp isRight with past | recent
  · exact coherent left old right past lateLeft lateRight same
  · exact (apart left old lateLeft right recent same).elim
  · exact (apart right past lateRight left fresh same.symm).elim
  · exact new left fresh right recent lateLeft lateRight same

theorem coherent_fought {target : TournamentMatch} (result : TournamentBattleResult) (member : target ∈ matchEntries)
    (late : 7 ≤ target.stage) (open_ : ¬ target.decided) (coherent : Coherent matchEntries) :
    Coherent (matchEntries.map fun entry => if entry.id = target.id then foughtMatch result target else entry) ∧
      KeepsBracket matchEntries
        (matchEntries.map fun entry => if entry.id = target.id then foughtMatch result target else entry) := by
  constructor
  · intro left isLeft right isRight lateLeft lateRight same
    obtain ⟨first, listed, rfl⟩ := List.mem_map.mp isLeft
    obtain ⟨second, also, rfl⟩ := List.mem_map.mp isRight
    by_cases itself : first.id = target.id <;> by_cases theirs : second.id = target.id
    · rw [if_pos itself, if_pos theirs]
    · rw [if_pos itself, if_neg theirs] at same
      exact (theirs same.symm).elim
    · rw [if_neg itself, if_pos theirs] at same
      exact (itself same).elim
    · rw [if_neg itself] at same lateLeft ⊢
      rw [if_neg theirs] at same lateRight ⊢
      exact coherent first listed second also lateLeft lateRight same
  · intro entry listed isLate decided
    refine List.mem_map.mpr ⟨entry, listed, if_neg ?_⟩
    intro same
    exact open_ (coherent entry listed target member isLate late same ▸ decided)

theorem Goes.bind {after : β → TournamentStore → Prop} {first : TournamentM α} {rest : α → TournamentM β}
    {between : α → TournamentStore → Prop} (opening : Goes start before first between)
    (going : ∀ value, Goes start (between value) (rest value) after) : Goes start before (first >>= rest) after :=
  Outcome.bind opening going

theorem goes_store (onward : Advances state next) :
    Goes start (At start state) (setState next >>= fun _ => pure next) (At start) :=
  (goes_setState fun _ held => ⟨state, held, onward⟩).bind fun _ => Outcome.pure fun _ held => held

theorem goes_advancePhase : Goes start (At start state) (advancePhase state) (At start) :=
  goes_store ⟨.inr ⟨rfl, Nat.le_succ _⟩, rfl, ⟨rfl, rfl⟩, fun _ => rfl, fun stopped => ⟨stopped, rfl⟩, id, id⟩

theorem goes_advanceStage {stage : Nat} (running : state.stage ≠ 0)
    (later : stagePlace state.stage < stagePlace stage) :
    Goes start (At start state) (advanceStage state stage) (At start) :=
  goes_store ⟨.inl later, rfl, ⟨rfl, rfl⟩, fun _ => rfl, fun stopped => (running stopped).elim, id, id⟩

theorem goes_sendMatchResult (type : TournamentType) (attackerId defenderId : Int) (result : BattleSide) :
    Goes start (At start state) (sendMatchResult type attackerId defenderId result) fun _ => At start state := by
  unfold sendMatchResult
  split
  · exact goes_sendCommand _
  · exact Outcome.pure fun _ held => held

theorem goes_persistLatestGroupFightLogs {stage : Nat} (early : stage < 7) (outcomes : List TournamentMatchOutcome) :
    Goes start (At start state) (persistLatestGroupFightLogs stage outcomes) fun _ => At start state := by
  unfold persistLatestGroupFightLogs
  split
  · exact Outcome.pure fun _ held => held
  · refine goes_readMatches fun desk => goes_setMatches fun coherent => ?_
    -- A match of the bracket among the entries is one of the earlier ones.
    have earlier {entry : TournamentMatch} (member : entry ∈ latestGroupFights stage outcomes desk.store.matchEntries)
        (late : 7 ≤ entry.stage) : entry ∈ desk.store.matchEntries := by
      rcases List.mem_append.mp member with old | new
      · exact (List.mem_filter.mp old).1
      · obtain ⟨outcome, -, rfl⟩ := List.mem_map.mp new
        exact (Nat.not_lt.mpr late early).elim
    constructor
    · exact fun left isLeft right isRight lateLeft lateRight =>
        coherent left (earlier isLeft lateLeft) right (earlier isRight lateRight) lateLeft lateRight
    · intro entry member late _
      refine List.mem_append_left _ (List.mem_filter.mpr ⟨member, ?_⟩)
      have other : entry.stage ≠ stage := by omega
      simp [other]

theorem goes_publishGroups {stage : Nat} (early : stage < 7)
    (played : List TournamentParticipant × List TournamentMatchOutcome) :
    Goes start (At start state) (publishGroups state stage played) fun _ => At start state := by
  refine (goes_setParticipants _).bind fun _ => (goes_persistLatestGroupFightLogs early _).bind fun _ => ?_
  -- The induction is on the battles, each of which is reported for itself.
  induction played.2 with
  | nil => exact Outcome.pure fun _ held => held
  | cons outcome rest ih => exact (goes_sendMatchResult _ _ _ _).bind fun _ => ih

theorem goes_closeEntries (stage : state.stage = 1) :
    Goes start (At start state) (closeEntries env state) (At start) := by
  refine goes_readState fun desk => (goes_setParticipants _).bind fun _ => goes_store ?_
  have later : stagePlace state.stage < stagePlace 2 := by
    rw [stage]
    decide
  have running : state.stage ≠ 0 := by omega
  exact ⟨.inl later, rfl, ⟨rfl, rfl⟩, fun _ => rfl, fun stopped => (running stopped).elim, id, id⟩

theorem goes_playPreliminaries (stage : state.stage = 2) :
    Goes start (At start state) (playPreliminaries env state) (At start) := by
  refine goes_readState fun desk => ?_
  split
  · exact Outcome.throw fun _ held => held.toReached
  · refine (goes_publishGroups (by decide) _).bind fun _ => ?_
    split
    · exact (goes_setParticipants _).bind fun _ => goes_advanceStage (by omega) (by rw [stage]; decide)
    · exact goes_advancePhase

theorem goes_drawMainGroups (stage : state.stage = 3) :
    Goes start (At start state) (drawMainGroups env state) (At start) := by
  refine goes_readState fun desk => ?_
  dsimp only
  split
  · exact Outcome.throw fun _ held => held.toReached
  · refine (goes_setParticipants _).bind fun _ => ?_
    split
    · exact goes_advanceStage (by omega) (by rw [stage]; decide)
    · exact goes_advancePhase

theorem goes_playMains (stage : state.stage = 4) :
    Goes start (At start state) (playMains env state) (At start) := by
  refine goes_readState fun desk => ?_
  split
  · exact Outcome.throw fun _ held => held.toReached
  · refine (goes_publishGroups (by decide) _).bind fun _ => ?_
    split
    · exact (goes_setParticipants _).bind fun _ => goes_advanceStage (by omega) (by rw [stage]; decide)
    · exact goes_advancePhase

theorem goes_closeBetting (stage : state.stage = 6) :
    Goes start (At start state) (closeBetting env state) (At start) := by
  refine goes_store ?_
  have running : state.stage ≠ 0 := by omega
  split
  · exact ⟨.inr ⟨rfl, Nat.le_refl _⟩, rfl, ⟨rfl, rfl⟩, fun _ => rfl, fun stopped => ⟨stopped, rfl⟩, id, id⟩
  · have later : stagePlace state.stage < stagePlace 7 := by
      rw [stage]
      decide
    exact ⟨.inl later, rfl, ⟨rfl, rfl⟩, fun _ => rfl, fun stopped => (running stopped).elim, id, id⟩

theorem goes_applyBattle (late : 7 ≤ state.stage) (last : state.stage ≤ 10) :
    Goes start (At start state) (applyBattle env state) (At start) := by
  have running : state.stage ≠ 0 := by omega
  have place : stagePlace state.stage = state.stage := if_neg running
  refine goes_readMatches fun desk => ?_
  have drop : ∀ store, At start state store ∧ store.matchEntries = desk.store.matchEntries → At start state store :=
    fun _ held => held.1
  dsimp only
  split
  · split
    · refine (goes_store ?_).from drop
      have stopped : stagePlace state.stage < stagePlace 0 := by
        rw [place]
        exact Nat.lt_succ_of_le last
      exact ⟨.inl stopped, rfl, ⟨rfl, rfl⟩, fun _ => rfl, fun ended => (running ended).elim, id, id⟩
    · rename_i goesOn
      refine goes_orFail (fun _ held => held.1.toReached) fun nextMatches built => ?_
      refine (goes_setMatches fun coherent => ⟨?_, fun entry member _ _ => List.mem_append_left _ member⟩).bind fun _ =>
        goes_store ?_
      · unfold buildNextMatches at built
        dsimp only at built
        split at built
        · cases built
        · cases built
          obtain ⟨new, above⟩ := coherent_roundMatches (nextStage state.stage)
            (largestMatchId desk.store.matchEntries + 1) (roundWinners state.stage desk.store.matchEntries)
          refine coherent.append new fun entry member isLate other fresh same => ?_
          have below := le_largestMatchId member isLate
          have higher := above other fresh
          omega
      · have later : stagePlace state.stage < stagePlace (nextStage state.stage) := by
          rw [place]
          unfold nextStage at goesOn ⊢
          unfold stagePlace
          grind
        exact ⟨.inl later, rfl, ⟨rfl, rfl⟩, fun _ => rfl, fun stopped => (running stopped).elim, id, id⟩
  · rename_i target pending
    split
    · refine (goes_setMatches (coherent_fought _ ?_ ?_ ?_)).bind fun _ => (goes_sendMatchResult _ _ _ _).bind fun _ =>
        goes_store ⟨.inr ⟨rfl, Nat.le_succ _⟩, rfl, ⟨rfl, rfl⟩, fun _ => rfl, fun stopped => (running stopped).elim, id, id⟩
      all_goals
        have found : target ∈ desk.store.matchEntries.filter fun entry => entry.stage = state.stage ∧ ¬ entry.decided := by
          unfold pendingTarget at pending
          dsimp only at pending
          rcases Option.or_eq_some_iff.mp pending with own | ⟨-, first⟩
          · exact List.mem_of_getElem? own
          · exact List.mem_of_getElem? first
        obtain ⟨member, open_⟩ := List.mem_filter.mp found
        simp only [decide_eq_true_eq] at open_
      · exact member
      · exact open_.1 ▸ late
      · exact open_.2
    · exact Outcome.throw fun _ held => held.1.toReached

theorem goes_requestCommand (command : TournamentCommand) :
    Goes start (At start state) (requestCommand env command) fun _ => At start state :=
  (goes_sendCommand command).bind fun _ => Outcome.pure fun _ held => held

theorem goes_placeNpcBets {planned : TournamentState} (plan : List TournamentBet) :
    Goes start (At start state) (placeNpcBets env planned plan) fun _ => At start state := by
  refine (goes_requestCommand _).bind fun answer => ?_
  split
  · exact Outcome.throw fun _ held => held.toReached
  · exact goes_readState fun desk => goes_setBettingEntries _

theorem goes_seedNpcBets {planned : TournamentState} :
    Goes start (At start state) (seedNpcBets env planned) fun _ store =>
      ∃ plan, At start { state with npcBettingPlan := plan } store := by
  -- Whatever plan is kept, only bets are written after it.
  have places (plan : Option (List TournamentBet)) (bets : List TournamentBet) :
      Goes start (At start { state with npcBettingPlan := plan }) (placeNpcBets env planned bets) fun _ store =>
        ∃ plan, At start { state with npcBettingPlan := plan } store :=
    (goes_placeNpcBets bets).to fun _ _ held => ⟨plan, held⟩
  refine goes_read fun desk opening => ?_
  split
  · split
    · exact Outcome.pure fun _ held => ⟨state.npcBettingPlan, held.1⟩
    · exact (places state.npcBettingPlan _).from fun _ held => held.1
  · dsimp only
    split
    · exact Outcome.pure fun _ held => ⟨state.npcBettingPlan, held.1⟩
    · split
      · exact Outcome.throw fun _ held => held.1.toReached
      · rename_i storedState found
        cases found.symm.trans opening.current
        refine (goes_setState fun _ held => ?_).bind fun _ => places _ _
        exact ⟨_, held.1, .inr ⟨rfl, Nat.le_refl _⟩, rfl, ⟨rfl, rfl⟩, fun _ => rfl, fun stopped => ⟨stopped, rfl⟩, id, id⟩

theorem goes_openBetting (stage : state.stage = 5) :
    Goes start (At start state) (openBetting env state) (At start) := by
  have later : stagePlace state.stage < stagePlace 6 := by
    rw [stage]
    decide
  have running : state.stage ≠ 0 := by omega
  have identity (given : state.bettingId.isSome) : some (state.bettingId.getD env.now) = state.bettingId := by
    obtain ⟨id, found⟩ := Option.isSome_iff_exists.mp given
    rw [found, Option.getD_some]
  -- Once the bracket is there, the identity is kept, then the bets are placed, and then the stage is shown.
  have opens (_ : Unit) : Goes start (At start state) (do
      setState { state with bettingId := some (state.bettingId.getD env.now) }
      seedNpcBets env { state with
        stage := 6, phase := 0, bettingId := some (state.bettingId.getD env.now)
        bettingCloseAt := some (resolveBettingCloseAt state), nextAt := resolveNextAt state }
      setState { state with
        stage := 6, phase := 0, bettingId := some (state.bettingId.getD env.now)
        bettingCloseAt := some (resolveBettingCloseAt state), nextAt := resolveNextAt state, npcBettingPlan := none }
      return { state with
        stage := 6, phase := 0, bettingId := some (state.bettingId.getD env.now)
        bettingCloseAt := some (resolveBettingCloseAt state), nextAt := resolveNextAt state, npcBettingPlan := none })
      (At start) := by
    have kept : Advances state { state with bettingId := some (state.bettingId.getD env.now) } :=
      ⟨.inr ⟨rfl, Nat.le_refl _⟩, rfl, ⟨rfl, rfl⟩, identity, fun stopped => (running stopped).elim, id, id⟩
    refine (goes_setState fun _ held => ⟨state, held, kept⟩).bind fun _ => goes_seedNpcBets.bind fun _ =>
      (goes_setState ?_).bind fun _ => Outcome.pure fun _ held => held
    rintro store ⟨plan, held⟩
    exact ⟨_, held, .inl later, rfl, ⟨rfl, rfl⟩, fun _ => rfl, fun stopped => (running stopped).elim, id, id⟩
  refine goes_read fun desk _ => ?_
  dsimp only
  split
  · exact (opens ⟨⟩).from fun _ held => held.1
  · rename_i none_
    refine goes_orFail (fun _ held => held.1.toReached) fun initialMatches built => ?_
    refine ((goes_setMatches fun coherent => ⟨?_, fun entry member _ _ => List.mem_append_left _ member⟩).from
      fun _ held => ⟨held.1, congrArg _ held.2⟩).bind opens
    have absent (entry : TournamentMatch) (member : entry ∈ desk.store.matchEntries) : ¬ 7 ≤ entry.stage := by
      intro late
      exact none_ (List.any_eq_true.mpr ⟨entry, member, decide_eq_true late⟩)
    exact coherent.append (coherent_firstRound built) fun entry member late => (absent entry member late).elim

theorem goes_applyPreBattleStage : Goes start (At start state) (applyPreBattleStage env state) (At start) := by
  unfold applyPreBattleStage
  split
  · exact goes_closeEntries ‹_›
  split
  · exact goes_playPreliminaries ‹_›
  split
  · exact goes_drawMainGroups ‹_›
  split
  · exact goes_playMains ‹_›
  split
  · exact goes_openBetting ‹_›
  split
  · exact goes_closeBetting ‹_›
  · exact Outcome.pure fun _ held => held

theorem goes_requireSuccessfulResult (kind : String) (answer : Option TournamentAnswer) :
    Goes start (At start state) (requireSuccessfulResult kind answer) fun _ => At start state := by
  unfold requireSuccessfulResult
  split
  · exact Outcome.throw fun _ held => held.toReached
  · split
    · exact Outcome.pure fun _ held => held
    · exact Outcome.throw fun _ held => held.toReached

theorem goes_settleReward : Goes start (At start state) (settleReward env state) (At start) := by
  unfold settleReward
  split
  · exact Outcome.pure fun _ held => held
  · refine goes_readState fun desk => ?_
    refine goes_orFail (fun _ held => held.toReached) fun payload _ => (goes_requestCommand _).bind fun answer =>
      (goes_requireSuccessfulResult _ answer).bind fun _ => goes_store ?_
    exact ⟨.inr ⟨rfl, Nat.le_refl _⟩, rfl, ⟨rfl, rfl⟩, fun _ => rfl, fun stopped => ⟨stopped, rfl⟩, fun _ => rfl, id⟩

theorem goes_settleBetting : Goes start (At start state) (settleBetting env state) (At start) := by
  have settles : Advances state { state with bettingSettled := true } :=
    ⟨.inr ⟨rfl, Nat.le_refl _⟩, rfl, ⟨rfl, rfl⟩, fun _ => rfl, fun stopped => ⟨stopped, rfl⟩, id, fun _ => rfl⟩
  unfold settleBetting
  split
  · exact Outcome.pure fun _ held => held
  · split
    · exact Outcome.pure fun _ held => held
    · refine goes_readState fun desk => ?_
      dsimp only
      split
      · exact (goes_requestCommand _).bind fun answer => (goes_requireSuccessfulResult _ answer).bind fun _ =>
          goes_store settles
      · exact goes_store settles

theorem goes_settleTournamentOutcome :
    Goes start (At start state) (settleTournamentOutcome env state) (At start) := by
  unfold settleTournamentOutcome
  split
  · exact Outcome.pure fun _ held => held
  · exact goes_settleReward.bind fun rewarded => goes_settleBetting

theorem goes_processTournamentTick :
    Goes start (Reached start) (processTournamentTick env) fun _ => Reached start := by
  refine goes_read fun desk opening => ?_
  split
  · exact Outcome.pure fun _ held => held.1
  · rename_i state found
    have settles {state : TournamentState} : Goes start (At start state)
        (settleTournamentOutcome env state >>= fun settled => pure (some settled)) fun _ => Reached start :=
      goes_settleTournamentOutcome.bind fun _ => Outcome.pure fun _ held => held.toReached
    have current : ∀ store, Reached start store ∧ store = desk.store → At start state store := by
      rintro store ⟨held, rfl⟩
      exact ⟨held, found⟩
    split
    · exact Outcome.pure fun _ held => held.1
    · split
      · exact Outcome.pure fun _ held => held.1
      · split
        · exact settles.from current
        · refine Goes.from (Goes.bind ?_ fun _ => settles) current
          unfold advanceTournament
          split
          · exact goes_applyBattle ‹_ ∧ _›.1 ‹_ ∧ _›.2
          · split
            · exact goes_applyPreBattleStage
            · exact Outcome.pure fun _ held => held

/-- What happens to a tournament that is under way. -/
inductive TournamentEvent where
  /-- A tick of the worker, which may be stopped after so many writes and commands. -/
  | tick (env : TournamentEnvironment) (allowance : Option Nat)
  /-- Others write the participants, or the bets. -/
  | participants (participants : List TournamentParticipant)
  | bets (bets : List TournamentBet)

/-- One event; the commands given are seen from outside. -/
def tournamentStep (store : TournamentStore) : TournamentEvent → TournamentStore × List TournamentCommand
  | .tick env allowance =>
    let ended := ((processTournamentTick env).perform ⟨store, [], allowance⟩).2
    (ended.store, ended.sent)
  | .participants participants => ({ store with participants }, [])
  | .bets bettingEntries => ({ store with bettingEntries }, [])

/-- A tournament under ticks that may stop anywhere. -/
def tournamentCourse : StateMachine TournamentStore TournamentEvent (List TournamentCommand) where
  step store event := some (tournamentStep store event)

theorem Reached.step (reached : Reached start store) (event : TournamentEvent) :
    Reached start (tournamentStep store event).1 := by
  cases event with
  | tick env allowance =>
    have going : Goes start (Reached start) (processTournamentTick env) fun _ => Reached start :=
      goes_processTournamentTick
    show Reached start ((processTournamentTick env).perform ⟨store, [], allowance⟩).2.store
    cases ended : (processTournamentTick env).perform ⟨store, [], allowance⟩ with
    | mk result desk =>
      cases result with
      | ok value => exact going.1 _ reached value desk ended
      | error fault => exact going.2 _ reached fault desk ended
  | participants participants => exact ⟨reached.coherent, reached.bracket, reached.forward⟩
  | bets bets => exact ⟨reached.coherent, reached.bracket, reached.forward⟩

/--
Over ticks that may stop after any write, with other writes to participants and bets in between, a tournament goes
through its stages and phases in order, keeps its identity, and never takes back a settlement or its end.

A decided match of the bracket keeps its winner and its report.
-/
theorem tournament_goes_forward {trace : List (TournamentEvent × List TournamentCommand)}
    (run : tournamentCourse.Run start trace store) (coherent : Coherent start.matchEntries) :
    Coherent store.matchEntries ∧ KeepsBracket start.matchEntries store.matchEntries ∧
      ∀ earlier, start.state = some earlier → ∃ later, store.state = some later ∧ Advances earlier later := by
  have opening : Reached start start := ⟨coherent, fun _ member _ _ => member, fun earlier found =>
    ⟨earlier, found, .refl earlier⟩⟩
  have reached : Reached start store := run.stateInvariant opening fun current event output next held _ stepped => by
    have moved : (tournamentStep current event).1 = next := congrArg Prod.fst (Option.some.inj stepped)
    exact moved ▸ held.step event
  exact ⟨reached.coherent, reached.bracket, reached.forward⟩

/-- A tournament whose betting is open, and a tick after its end. -/
def bettingOpen : TournamentState :=
  ⟨6, 0, .total, true, 1, 1, 60, 0, some 5, some 7, none, false, false, none, none⟩

theorem tournament_goes_forward_betting :
    ∃ later : TournamentState, later.stage = 7 ∧ Advances bettingOpen later := by
  let env : TournamentEnvironment :=
    { now := 9, baseSeed := "", generals := [], generalsDistinct := List.nodup_nil, generalsPositive := nofun
      currentYear := 1, startYear := 1, fight := fun _ => ⟨.neither, 0, 0, ⟨[], []⟩⟩, drawGeneral := fun _ _ _ => 0
      drawNumber := fun _ _ _ => 0, shuffle := fun _ ids => ⟨ids, List.Perm.refl ids⟩, answer := fun _ => none }
  obtain ⟨-, -, forward⟩ := tournament_goes_forward
    (StateMachine.run_of_replay (show tournamentCourse.replay ⟨some bettingOpen, [], [], []⟩
      [.bets [⟨1, none, 2, 3⟩], .tick env none] = some (_, _) from rfl)) nofun
  obtain ⟨later, found, advances⟩ := forward bettingOpen rfl
  refine ⟨later, ?_, advances⟩
  cases found
  rfl

end Sammo.Tournament
