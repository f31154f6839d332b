import Sammo.Gateway.OpenRequestConsensus

/-! What a change of the policy does with the open requests that are pending. -/

namespace Sammo.Gateway.OpenRequests

variable {User : Type} {rules : OpeningRules User} {surroundings : Surroundings} {state next : State User}

/-- A request is active, and as many members as the policy asks for endorse it. -/
structure Backed (rules : OpeningRules User) (state : State User) (request : OpenRequest) : Prop where
  stored : request ∈ state.requests
  active : activeStatus request state.profile state.now = .pending
  enabled : state.profile.policy.enabled = true
  votes : ∃ threshold ∈ state.profile.policy.endorsementThreshold,
    threshold ≤ state.validEndorsements rules request.id

/-- A request is eligible: it is backed, and nothing stands in the way of its reservation. -/
structure Eligible (rules : OpeningRules User) (surroundings : Surroundings) (state : State User)
    (request : OpenRequest) : Prop where
  backed : Backed rules state request
  reservable : Reservable rules surroundings state request

/-- A request is the oldest one of a kind. -/
structure Oldest (kind : OpenRequest → Prop) (request : OpenRequest) : Prop where
  holds : kind request
  first : ∀ other, kind other → comesFirst request other

/-- A change of the policy reserves the oldest eligible request, and without one it stores the policy only. -/
structure PolicyChangeServed (rules : OpeningRules User) (surroundings : Surroundings) (state : State User)
    (policy : OpenRequestPolicy) (actorId : String) : Prop where
  reserves : (∃ request, Eligible rules surroundings (state.withPolicy policy) request) →
    ∃ request, Oldest (Eligible rules surroundings (state.withPolicy policy)) request ∧ ∃ source commit,
      state.updateOpenRequestPolicy rules surroundings policy actorId =
        .ok ((state.withPolicy policy).reserved surroundings request actorId source commit, policy)
  stores : (¬ ∃ request, Eligible rules surroundings (state.withPolicy policy) request) →
    state.updateOpenRequestPolicy rules surroundings policy actorId = .ok (state.withPolicy policy, policy)

/-- The oldest backed request can be reserved, if any request is backed. -/
def OldestBackedReservable (rules : OpeningRules User) (surroundings : Surroundings) (state : State User) : Prop :=
  ∀ request, Oldest (Backed rules state) request → Reservable rules surroundings state request

theorem comesFirst_total (left right : OpenRequest) : comesFirst left right ∨ comesFirst right left := by
  unfold comesFirst
  rcases Int.lt_trichotomy left.createdAt right.createdAt with before | same | after
  · exact .inl (.inl before)
  · -- Requests of the same moment come in the order of their ids.
    rcases String.le_total left.id right.id with le | ge
    · exact .inl (.inr ⟨same, le⟩)
    · exact .inr (.inr ⟨same.symm, ge⟩)
  · exact .inr (.inl after)

theorem comesFirst_trans {first second third : OpenRequest} (before : comesFirst first second)
    (after : comesFirst second third) : comesFirst first third := by
  unfold comesFirst at *
  rcases before with before | ⟨same, ids⟩
  · rcases after with after | ⟨same, -⟩
    · exact .inl (before.trans after)
    · exact .inl (same ▸ before)
  · rcases after with after | ⟨also, more⟩
    · exact .inl (same ▸ after)
    · exact .inr ⟨same.trans also, String.le_trans ids more⟩

theorem comesFirst_antisymm {left right : OpenRequest} (before : comesFirst left right) (after : comesFirst right left) :
    left.id = right.id := by
  unfold comesFirst at *
  rcases before with before | ⟨same, ids⟩
  · rcases after with after | ⟨equal, -⟩
    · omega
    · omega
  · rcases after with after | ⟨-, also⟩
    · omega
    · exact String.le_antisymm ids also

theorem mem_candidates_iff {request : OpenRequest} :
    request ∈ state.candidates rules ↔ Backed rules state request := by
  constructor
  · intro candidate
    obtain ⟨stored, active, enabled, votes⟩ := mem_candidates candidate
    exact ⟨stored, active, enabled, votes⟩
  · intro backed
    obtain ⟨threshold, policy, valid⟩ := backed.votes
    -- An active request is one of a profile that can be opened.
    have closed : canRequestOpening state.profile.status = true := by
      have active := backed.active
      unfold activeStatus at active
      by_contra running
      rw [if_neg (not_not.mpr (pending_of_active backed.active)), if_pos (.inl running)] at active
      cases active
    -- The valid endorsements are some of all endorsements.
    have all : state.validEndorsements rules request.id ≤ (state.endorsers request.id).length :=
      (List.length_filter_le _ _).trans (List.dedup_sublist _).length_le
    unfold State.candidates
    rw [Option.mem_def.mp policy]
    dsimp only
    rw [if_pos ⟨backed.enabled, closed⟩, List.mem_filter, List.mem_insertionSort, State.pending, List.mem_filter]
    refine ⟨⟨backed.stored, decide_eq_true (pending_of_active backed.active)⟩, decide_eq_true ?_⟩
    exact ⟨backed.active, valid.trans all, valid⟩

theorem candidates_sorted : (state.candidates rules).Pairwise comesFirst := by
  have total : Std.Total comesFirst := ⟨comesFirst_total⟩
  have trans : IsTrans OpenRequest comesFirst := ⟨fun _ _ _ => comesFirst_trans⟩
  unfold State.candidates
  split
  · exact .nil
  · split
    · exact (List.pairwise_insertionSort comesFirst _).filter _
    · exact .nil

theorem oldest_of_candidates {request : OpenRequest} {rest : List OpenRequest}
    (candidates : state.candidates rules = request :: rest) : Oldest (Backed rules state) request := by
  have sorted : (request :: rest).Pairwise comesFirst := candidates ▸ candidates_sorted
  refine ⟨mem_candidates_iff.mp (candidates ▸ List.mem_cons_self), ?_⟩
  intro other backed
  have listed : other ∈ request :: rest := candidates ▸ mem_candidates_iff.mpr backed
  rcases List.mem_cons.mp listed with rfl | later
  · exact (comesFirst_total other other).elim (fun first => first) (fun first => first)
  · exact (List.pairwise_cons.mp sorted).1 other later

theorem Oldest.unique (sound : Sound state) {left right : OpenRequest} (oldest : Oldest (Backed rules state) left)
    (other : Oldest (Backed rules state) right) : left = right := by
  have ids := comesFirst_antisymm (oldest.first right other.holds) (other.first left oldest.holds)
  exact List.inj_on_of_nodup_map sound.ids oldest.holds.stored other.holds.stored ids

theorem Sound.policyChangeServed_iff (sound : Sound state) (policy : OpenRequestPolicy) (actorId : String) :
    PolicyChangeServed rules surroundings state policy actorId ↔
      OldestBackedReservable rules surroundings (state.withPolicy policy) := by
  have soundUpdated : Sound (state.withPolicy policy) := { sound with }
  constructor
  · intro served request oldest
    -- The change succeeds in either case.
    have succeeds : ∃ result, state.updateOpenRequestPolicy rules surroundings policy actorId = .ok result := by
      by_cases eligible : ∃ request, Eligible rules surroundings (state.withPolicy policy) request
      · obtain ⟨_, _, _, _, changed⟩ := served.reserves eligible
        exact ⟨_, changed⟩
      · exact ⟨_, served.stores eligible⟩
    obtain ⟨result, updated⟩ := succeeds
    rw [updateOpenRequestPolicy_eq] at updated
    have candidate := mem_candidates_iff.mpr oldest.holds
    cases candidates : (state.withPolicy policy).candidates rules with
    | nil =>
      rw [candidates] at candidate
      cases candidate
    | cons first rest =>
      -- The first candidate is the one that is reserved, so it was possible to do so.
      rw [candidates] at updated
      dsimp only at updated
      obtain rfl := oldest.unique soundUpdated (oldest_of_candidates candidates)
      cases reserved : (state.withPolicy policy).reserve rules surroundings request actorId with
      | error failure =>
        rw [reserved] at updated
        cases updated
      | ok answer => exact (reserve_ok reserved).1
  · intro reservable
    cases candidates : (state.withPolicy policy).candidates rules with
    | nil =>
      have nobody : ¬ ∃ request, Eligible rules surroundings (state.withPolicy policy) request := by
        rintro ⟨request, eligible⟩
        have candidate := mem_candidates_iff.mpr eligible.backed
        rw [candidates] at candidate
        cases candidate
      refine ⟨fun eligible => (nobody eligible).elim, fun _ => ?_⟩
      rw [updateOpenRequestPolicy_eq, candidates]
    | cons request rest =>
      have oldest := oldest_of_candidates candidates
      have free := reservable request oldest
      refine ⟨fun _ => ⟨request, ⟨⟨oldest.holds, free⟩, fun other also => oldest.first other also.backed⟩, ?_⟩, ?_⟩
      · obtain ⟨source, commit, reserved⟩ := free.reserve actorId
        refine ⟨source, commit, ?_⟩
        rw [updateOpenRequestPolicy_eq, candidates]
        dsimp only
        rw [reserved]
        rfl
      · exact fun nobody => (nobody ⟨request, oldest.holds, free⟩).elim

/-- The members of a profile come to one decision about their requests. -/
structure Consensus (rules : OpeningRules User) (state : State User) : Prop where
  /-- A request that is reserved has one operation, and no other request has any. -/
  operations : ∀ request ∈ state.requests,
    (request.status = .reserved → ∃ operation, state.operationsOf request = [operation] ∧ operation.type = .reset) ∧
      (request.status ≠ .reserved → state.operationsOf request = [])
  /-- A user has one active request at most. -/
  lone : ∀ userId, (state.requests.filter fun request => request.requestedBy = userId ∧
    activeStatus request state.profile state.now = .pending).length ≤ 1
  /-- A step that reserves a request leaves no other one pending, and has the members' consent or an operator's. -/
  reserves : ∀ event output next, (machine rules).step state event = some (next, output) →
    ∀ request ∈ state.requests, request.status ≠ .reserved →
      ∀ after ∈ next.requests, after.id = request.id → after.status = .reserved →
        ReservedWell rules event.automatic next after

/-- The members come to one decision, and a change of the policy is served unless the oldest request blocks it. -/
theorem consensus_of_run {start : State User} {trace : List (Event User × Output)} (blank : Blank start)
    (run : (machine rules).Run start trace state) : Consensus rules state ∧
      ∀ surroundings policy actorId, PolicyChangeServed rules surroundings state policy actorId ↔
        OldestBackedReservable rules surroundings (state.withPolicy policy) := by
  have sound := sound_of_run blank.sound run
  refine ⟨⟨?_, ?_, ?_⟩, fun surroundings policy actorId => sound.policyChangeServed_iff policy actorId⟩
  · exact fun request member => sound.operationsOf member
  · exact sound.lone_active
  · intro event output next stepped request member waiting after inside same reserved
    rcases outcome_of_step sound stepped with around | ⟨surroundings, -, outcome⟩
    · -- An event around the requests reserves none of them.
      rw [around.requests] at inside
      obtain rfl := List.inj_on_of_nodup_map sound.ids inside member same
      exact (waiting reserved).elim
    · exact outcome.reserves sound member waiting inside same reserved

/-- Every known user is a full member, and instants are told apart by their first letters. -/
def plainRules : OpeningRules Unit := ⟨fun _ _ _ => true, fun text => if text = "preopen" then 1000000 else 2000000⟩

/-- A closed profile that three endorsements open again. -/
def closedProfile : Profile :=
  ⟨"che", .completed, some "903", some 0, ⟨true, 7, 10, some 3⟩, none, some "abc"⟩

/-- Nobody has asked for the profile to be opened. -/
def quietDatabase : State Unit := ⟨0, closedProfile, fun _ => some (), [], [], []⟩

theorem quietDatabase_blank : Blank quietDatabase :=
  ⟨rfl, rfl, List.nodup_nil, fun _ member => (List.not_mem_nil member).elim⟩

/-- A member's plan for the next game. -/
def nextGame : OpeningInstall :=
  ⟨903, 60, true, 0, true, 0, 0, 0, true, "full", none, "preopen", "open"⟩

/-- A version with every scenario, and a fresh id. -/
def plainSurroundings (newId : String) (startedAt : Int) : Surroundings :=
  ⟨⟨fun _ => some "abc", fun _ _ => some ⟨"a scenario", 165⟩, fun _ => true⟩, newId, startedAt, 10⟩

/-- Two members ask for a game, a third one endorses both requests, and the older requester loses the membership. -/
def formerMember : List (Event Unit) :=
  [.create "ann" nextGame (plainSurroundings "r1" 1), .advance 5, .create "bob" nextGame (plainSurroundings "r2" 6),
    .act "cho" "r1" .endorse (plainSurroundings "x" 7), .act "cho" "r2" .endorse (plainSurroundings "y" 8),
    .setUser "ann" none]

/-- The policy under which one endorsement is enough. -/
def loweredPolicy : OpenRequestPolicy := ⟨true, 7, 10, some 1⟩

/-- The requests of two members, one of whom is no member any more. -/
theorem consensus_of_run_two : ∃ trace state, (machine plainRules).Run quietDatabase trace state ∧
    state.requests.map OpenRequest.id = ["r1", "r2"] ∧ Consensus plainRules state := by
  have replayed : ((machine plainRules).replay quietDatabase formerMember).map
      (fun result => result.1.requests.map OpenRequest.id) = some ["r1", "r2"] := by decide +kernel
  obtain ⟨⟨state, trace⟩, found, listed⟩ := Option.map_eq_some_iff.mp replayed
  have run := StateMachine.run_of_replay found
  exact ⟨trace, state, run, listed, (consensus_of_run quietDatabase_blank run).1⟩

/-- The request of a former member blocks the change that would reserve a younger one. -/
theorem former_member_blocks_change : ¬ ∀ (start : State Unit) trace state, Blank start →
    (machine plainRules).Run start trace state → ∀ surroundings policy actorId,
      (∃ request, Eligible plainRules surroundings (state.withPolicy policy) request) →
        ∃ next, state.updateOpenRequestPolicy plainRules surroundings policy actorId = .ok next := by
  intro served
  have replayed : ((machine plainRules).replay quietDatabase formerMember).map (fun result =>
      (((result.1.withPolicy loweredPolicy).candidates plainRules).map fun request =>
          ((result.1.withPolicy loweredPolicy).reserve plainRules (plainSurroundings "z" 9) request "dan").isOk,
        (result.1.updateOpenRequestPolicy plainRules (plainSurroundings "z" 9) loweredPolicy "dan").isOk)) =
      some ([false, true], false) := by decide +kernel
  obtain ⟨⟨state, trace⟩, found, facts⟩ := Option.map_eq_some_iff.mp replayed
  obtain ⟨candidates, refused⟩ := Prod.mk.inj facts
  dsimp only at candidates refused
  -- The younger request is eligible, since it can be reserved.
  have eligible : ∃ request, Eligible plainRules (plainSurroundings "z" 9) (state.withPolicy loweredPolicy) request := by
    have free : true ∈ [false, true] := by decide
    rw [← candidates] at free
    obtain ⟨request, listed, succeeds⟩ := List.mem_map.mp free
    refine ⟨request, mem_candidates_iff.mp listed, ?_⟩
    cases reserved : (state.withPolicy loweredPolicy).reserve plainRules (plainSurroundings "z" 9) request "dan" with
    | error failure =>
      rw [reserved] at succeeds
      cases succeeds
    | ok result => exact (reserve_ok reserved).1
  obtain ⟨next, changed⟩ := served quietDatabase trace state quietDatabase_blank (StateMachine.run_of_replay found)
    (plainSurroundings "z" 9) loweredPolicy "dan" eligible
  rw [changed] at refused
  cases refused

end Sammo.Gateway.OpenRequests
