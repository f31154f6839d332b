import Sammo.Gateway.OpenRequests

/-! The consensus about open requests: what a reservation needs, what it ends, and what a change of the policy does. -/

namespace Sammo.Gateway.OpenRequests

variable {User : Type} {rules : OpeningRules User} {surroundings : Surroundings} {state next : State User}

/-- A request can be reserved: its requester is a member, nothing is under way, and its version and time are right. -/
structure Reservable (rules : OpeningRules User) (surroundings : Surroundings) (state : State User)
    (request : OpenRequest) : Prop where
  member : state.isMember rules request.requestedBy = true
  idle : state.hasActiveOperation = false
  release : ∃ source ∈ readProfileReleaseSource state.profile, ∃ commit ∈ surroundings.versions.resolve source,
    (surroundings.versions.scenario commit request.install.scenarioId).isSome = true ∧
      surroundings.versions.supportsProfileReleaseBuild commit = true
  inTime : surroundings.admissionNow < buildAt request.preopenAt state.profile.policy.buildLeadMinutes ∧
    surroundings.admissionNow < request.expiresAt

variable {request : OpenRequest} {result : OpenRequestResult} {actorId : String} {after : OpenRequest}
  {change : OpenRequest → OpenRequest} {current : State User} {userId : String} {install : OpeningInstall}

theorem reserve_ok (reserved : state.reserve rules surroundings request actorId = .ok (next, result)) :
    Reservable rules surroundings state request ∧
      ∃ source commit, next = state.reserved surroundings request actorId source commit := by
  unfold State.reserve at reserved
  -- Each check in turn lets the reservation through.
  split at reserved
  · cases reserved
  · rename_i member
    split at reserved
    · cases reserved
    · rename_i idle
      split at reserved
      · cases reserved
      · rename_i source found
        split at reserved
        · cases reserved
        · rename_i commit resolved
          split at reserved
          · cases reserved
          · rename_i supported
            split at reserved
            · cases reserved
            · rename_i inTime
              obtain ⟨rfl, -⟩ := Prod.mk.inj (Except.ok.inj reserved)
              obtain ⟨scenario, builds⟩ := not_or.mp supported
              obtain ⟨build, expiry⟩ := not_or.mp inTime
              have present : (surroundings.versions.scenario commit request.install.scenarioId).isSome = true := by
                simpa [Option.isNone_iff_eq_none, Option.isSome_iff_ne_none] using scenario
              refine ⟨?_, source, commit, rfl⟩
              constructor
              · simpa using member
              · simpa using idle
              · exact ⟨source, found, commit, resolved, present, by simpa using builds⟩
              · omega

theorem Reservable.reserve (reservable : Reservable rules surroundings state request) (actorId : String) :
    ∃ source commit, state.reserve rules surroundings request actorId =
      .ok (state.reserved surroundings request actorId source commit, ⟨request.id, .reserved⟩) := by
  obtain ⟨member, idle, ⟨source, found, commit, resolved, scenario, builds⟩, build, expiry⟩ := reservable
  refine ⟨source, commit, ?_⟩
  have present : ¬ (surroundings.versions.scenario commit request.install.scenarioId).isNone = true := by
    simpa [Option.isNone_iff_eq_none, Option.isSome_iff_ne_none] using scenario
  unfold State.reserve
  rw [Option.mem_def.mp found]
  dsimp only
  rw [Option.mem_def.mp resolved]
  dsimp only
  rw [if_neg (by simp [member]), if_neg (by simp [idle]), if_neg (by simp [present, builds]), if_neg (by omega)]

/-- A request that is closed, or stays as it is: only its status and who decided it may change. -/
structure Closes (before after : OpenRequest) : Prop where
  id : after.id = before.id
  requestedBy : after.requestedBy = before.requestedBy
  operationId : after.operationId = before.operationId
  status : after.status = before.status ∨ after.status ≠ .pending ∧ after.status ≠ .reserved ∧ before.status ≠ .reserved

theorem Closes.refl (request : OpenRequest) : Closes request request := ⟨rfl, rfl, rfl, .inl rfl⟩

theorem Closes.trans {first second third : OpenRequest} (before : Closes first second) (after : Closes second third) :
    Closes first third where
  id := after.id.trans before.id
  requestedBy := after.requestedBy.trans before.requestedBy
  operationId := after.operationId.trans before.operationId
  status := by
    rcases after.status with same | ⟨pending, reserved, earlier⟩
    · rw [same]
      exact before.status
    · refine .inr ⟨pending, reserved, ?_⟩
      rcases before.status with same | ⟨-, -, open_⟩
      · exact same ▸ earlier
      · exact open_

theorem Closes.pending {before : OpenRequest} (closes : Closes before after) (pending : after.status = .pending) :
    before.status = .pending := by
  rcases closes.status with same | ⟨closed, -⟩
  · exact same ▸ pending
  · exact absurd pending closed

/-- A step that only closes requests. -/
structure Closing (before after : State User) (change : OpenRequest → OpenRequest) : Prop where
  state : after = { before with requests := before.requests.map change }
  closes : ∀ request ∈ before.requests, Closes request (change request)

theorem Closing.refl (state : State User) : Closing state state id := by
  refine ⟨?_, fun request _ => .refl request⟩
  rw [List.map_id]

theorem Closing.update (closing : Closing state current change) {id : String} {last : OpenRequest → OpenRequest}
    (closes : ∀ stored ∈ current.requests, stored.id = id → Closes stored (last stored)) :
    Closing state (current.updateRequest id last)
      fun request => if (change request).id = id then last (change request) else change request := by
  have same := closing.state
  constructor
  · rw [same]
    simp only [State.updateRequest, List.map_map]
    rfl
  · intro request member
    have inside : change request ∈ current.requests := by
      rw [same]
      exact List.mem_map_of_mem member
    split
    · rename_i here
      exact (closing.closes request member).trans (closes _ inside here)
    · exact closing.closes request member

theorem activeStatus_closed (profile : Profile) (now : Int) (pending : request.status = .pending) :
    activeStatus request profile now ≠ .reserved := by
  unfold activeStatus
  rw [if_neg (not_not.mpr pending)]
  split
  · nofun
  · split
    · nofun
    · rw [pending]
      nofun

theorem pending_of_active {profile : Profile} {now : Int} (active : activeStatus request profile now = .pending) :
    request.status = .pending := by
  unfold activeStatus at active
  split at active
  · exact active
  · rename_i pending
    exact not_not.mp pending

theorem sweep_ok {found : Option OpenRequestResult} (ids : (state.requests.map OpenRequest.id).Nodup)
    {list : List OpenRequest} (inside : ∀ request ∈ list, request ∈ state.requests ∧ request.status = .pending)
    (closing : Closing state current change)
    (swept : state.sweep userId install current list = .ok (next, found)) :
    ∃ last, Closing state next last ∧
      (∀ request ∈ state.requests, (last request).status = .pending → (change request).status = .pending) ∧
      (found = none → ∀ request ∈ list, request.requestedBy = userId → (last request).status ≠ .pending) := by
  -- Each request of the list is closed or passed over, or it ends the sweep.
  induction list generalizing current change with
  | nil =>
    obtain ⟨rfl, -⟩ := Prod.mk.inj (Except.ok.inj swept)
    exact ⟨change, closing, fun _ _ pending => pending, fun _ _ member => absurd member List.not_mem_nil⟩
  | cons request rest ih =>
    obtain ⟨member, pending⟩ := inside request List.mem_cons_self
    have others : ∀ other ∈ rest, other ∈ state.requests ∧ other.status = .pending := fun other here =>
      inside other (List.mem_cons_of_mem _ here)
    simp only [State.sweep] at swept
    split at swept
    · -- The request is over, and is marked as such.
      rename_i closed
      have closes : ∀ stored ∈ current.requests, stored.id = request.id →
          Closes stored { stored with status := activeStatus request state.profile state.now } := by
        intro stored here same
        rw [closing.state] at here
        obtain ⟨before, earlier, rfl⟩ := List.mem_map.mp here
        have origin := closing.closes before earlier
        obtain rfl := List.inj_on_of_nodup_map ids earlier member (origin.id.symm.trans same)
        refine ⟨rfl, rfl, rfl, .inr ⟨closed, activeStatus_closed _ _ pending, ?_⟩⟩
        rcases origin.status with unchanged | ⟨-, open_, -⟩
        · rw [unchanged, pending]
          nofun
        · exact open_
      obtain ⟨last, done, kept, gone⟩ := ih others (closing.update closes) swept
      refine ⟨last, done, ?_, ?_⟩
      · intro other here still
        have before := kept other here still
        split at before
        · exact absurd before closed
        · exact before
      · intro none other here own
        rcases List.mem_cons.mp here with same | later
        · subst same
          intro still
          have before := kept other member still
          rw [if_pos (closing.closes other member).id] at before
          exact closed before
        · exact gone none other later own
    · split at swept
      · -- The user has an active request already, which ends the sweep.
        split at swept
        · obtain ⟨rfl, rfl⟩ := Prod.mk.inj (Except.ok.inj swept)
          exact ⟨change, closing, fun _ _ still => still, nofun⟩
        · cases swept
      · rename_i foreign
        obtain ⟨last, done, kept, gone⟩ := ih others closing swept
        refine ⟨last, done, kept, ?_⟩
        intro none other here own
        rcases List.mem_cons.mp here with same | later
        · exact absurd (same ▸ own) foreign
        · exact gone none other later own

/-- The request that an operation comes from. -/
def requestId? (operation : GatewayOperation) : Option String := operation.payload.opening.map OpeningPayload.openRequestId

/-- The requests, their operations and their endorsements fit together. -/
structure Sound (state : State User) : Prop where
  ids : (state.requests.map OpenRequest.id).Nodup
  operationIds : (operationIds state.operations).Nodup
  linked : ∀ request ∈ state.requests, request.status = .reserved ↔ request.operationId.isSome
  stored : ∀ request ∈ state.requests, ∀ operationId ∈ request.operationId, ∃ operation ∈ state.operations,
    operation.id = operationId ∧ operation.type = .reset ∧ requestId? operation = some request.id
  only : ∀ operation ∈ state.operations, ∀ requestId ∈ requestId? operation, ∃ request ∈ state.requests,
    request.id = requestId ∧ request.operationId = some operation.id
  lone : (state.pending.map OpenRequest.requestedBy).Nodup
  voters : ∀ endorsement ∈ state.endorsements, ∃ request ∈ state.requests, request.id = endorsement.1 ∧
    request.requestedBy ≠ endorsement.2
  votes : state.endorsements.Nodup

theorem Sound.operationId_of_pending (sound : Sound state) (member : request ∈ state.requests)
    (pending : request.status = .pending) : request.operationId = none := by
  have linked := sound.linked request member
  cases found : request.operationId with
  | none => rfl
  | some operationId =>
    rw [found, pending] at linked
    cases linked.mpr rfl

theorem pending_sublist {requests : List OpenRequest}
    (closes : ∀ request ∈ requests, Closes request (change request)) :
    (((requests.map change).filter fun request => request.status = .pending).map OpenRequest.requestedBy).Sublist
      ((requests.filter fun request => request.status = .pending).map OpenRequest.requestedBy) := by
  induction requests with
  | nil => exact .slnil
  | cons request rest ih =>
    have head := closes request List.mem_cons_self
    have tail := ih fun other member => closes other (List.mem_cons_of_mem _ member)
    by_cases pending : (change request).status = .pending
    · -- A request that is pending still was pending before.
      rw [List.map_cons, List.filter_cons_of_pos (by simpa using pending),
        List.filter_cons_of_pos (by simpa using head.pending pending), List.map_cons, List.map_cons, head.requestedBy]
      exact tail.cons_cons _
    · rw [List.map_cons, List.filter_cons_of_neg (by simpa using pending)]
      refine tail.trans (List.Sublist.map _ ?_)
      exact List.Sublist.filter _ (List.sublist_cons_self _ _)

theorem Sound.close (sound : Sound state) (closing : Closing state next change) : Sound next := by
  obtain ⟨rfl, closes⟩ := closing
  constructor
  · have same : (state.requests.map change).map OpenRequest.id = state.requests.map OpenRequest.id := by
      rw [List.map_map]
      exact List.map_congr_left fun request member => (closes request member).id
    rw [same]
    exact sound.ids
  · exact sound.operationIds
  · intro request member
    obtain ⟨before, inside, rfl⟩ := List.mem_map.mp member
    have origin := closes before inside
    rw [origin.operationId]
    rcases origin.status with same | ⟨-, after, earlier⟩
    · rw [same]
      exact sound.linked before inside
    · exact ⟨fun reserved => absurd reserved after, fun found => absurd ((sound.linked before inside).mpr found) earlier⟩
  · intro request member operationId found
    obtain ⟨before, inside, rfl⟩ := List.mem_map.mp member
    have origin := closes before inside
    rw [origin.id]
    exact sound.stored before inside operationId (origin.operationId ▸ found)
  · intro operation member requestId found
    obtain ⟨request, inside, same, has⟩ := sound.only operation member requestId found
    have origin := closes request inside
    exact ⟨change request, List.mem_map_of_mem inside, origin.id.trans same, origin.operationId.trans has⟩
  · exact sound.lone.sublist (pending_sublist closes)
  · intro endorsement member
    obtain ⟨request, inside, same, foreign⟩ := sound.voters endorsement member
    have origin := closes request inside
    exact ⟨change request, List.mem_map_of_mem inside, origin.id.trans same, origin.requestedBy ▸ foreign⟩
  · exact sound.votes

theorem Sound.insertRequest (sound : Sound state) (fresh : request.id ∉ state.requests.map OpenRequest.id)
    (pending : request.status = .pending) (blank : request.operationId = none)
    (first : ∀ other ∈ state.requests, other.requestedBy = request.requestedBy → other.status ≠ .pending) :
    Sound (state.insertRequest request) := by
  have old {property : OpenRequest → Prop} (before : ∃ other ∈ state.requests, property other) :
      ∃ other ∈ state.requests ++ [request], property other :=
    before.imp fun other inside => ⟨List.mem_append_left _ inside.1, inside.2⟩
  constructor
  · show ((state.requests ++ [request]).map OpenRequest.id).Nodup
    rw [List.map_append, List.nodup_append]
    refine ⟨sound.ids, List.nodup_singleton _, ?_⟩
    intro id member other last same
    rw [same, List.mem_singleton.mp last] at member
    exact fresh member
  · exact sound.operationIds
  · intro other member
    rcases List.mem_append.mp member with member | member
    · exact sound.linked other member
    · rw [List.mem_singleton.mp member, pending, blank]
      exact ⟨nofun, nofun⟩
  · intro other member operationId found
    rcases List.mem_append.mp member with member | member
    · exact sound.stored other member operationId found
    · rw [List.mem_singleton.mp member, blank] at found
      cases found
  · exact fun operation member requestId found => old (sound.only operation member requestId found)
  · show (((state.requests ++ [request]).filter fun other => other.status = .pending).map OpenRequest.requestedBy).Nodup
    rw [List.filter_append, List.map_append, List.nodup_append]
    refine ⟨sound.lone, ?_, ?_⟩
    · exact ((List.nodup_singleton request).filter _).map_on fun left here right there _ => by
        rw [List.mem_singleton.mp (List.mem_of_mem_filter here), List.mem_singleton.mp (List.mem_of_mem_filter there)]
    · intro user member other last same
      obtain ⟨earlier, inside, rfl⟩ := List.mem_map.mp member
      obtain ⟨new, here, rfl⟩ := List.mem_map.mp last
      obtain rfl := List.mem_singleton.mp (List.mem_of_mem_filter here)
      have status : earlier.status = .pending := by simpa using (List.mem_filter.mp inside).2
      exact first earlier (List.mem_of_mem_filter inside) same status
  · exact fun endorsement member => old (sound.voters endorsement member)
  · exact sound.votes

theorem Sound.endorse (sound : Sound state) (member : request ∈ state.requests)
    (foreign : request.requestedBy ≠ userId) : Sound (state.endorse request.id userId) := by
  unfold State.endorse
  split
  · exact sound
  · rename_i fresh
    refine { sound with voters := ?_, votes := ?_ }
    · intro endorsement inside
      rcases List.mem_append.mp inside with inside | inside
      · exact sound.voters endorsement inside
      · rw [List.mem_singleton.mp inside]
        exact ⟨request, member, rfl, foreign⟩
    · rw [List.nodup_append]
      refine ⟨sound.votes, List.nodup_singleton _, ?_⟩
      intro endorsement inside other last same
      rw [same, List.mem_singleton.mp last] at inside
      exact fresh inside

theorem decide_id (request stored : OpenRequest) (actorId : String) :
    (state.decide surroundings request actorId stored).id = stored.id ∧
      (state.decide surroundings request actorId stored).requestedBy = stored.requestedBy := by
  unfold State.decide
  split
  · exact ⟨rfl, rfl⟩
  · split
    · exact ⟨rfl, rfl⟩
    · exact ⟨rfl, rfl⟩

theorem decide_status (request stored : OpenRequest) (actorId : String) :
    (state.decide surroundings request actorId stored).status ≠ .pending := by
  unfold State.decide
  split
  · nofun
  · split
    · nofun
    · rename_i pending
      exact pending

theorem Sound.reserved (sound : Sound state) (fresh : Fresh state surroundings.newId)
    (member : request ∈ state.requests) (pending : request.status = .pending) (actorId : String)
    (source : ProfileReleaseSource) (commit : String) :
    Sound (state.reserved surroundings request actorId source commit) := by
  have blank := sound.operationId_of_pending member pending
  -- A request with the id of the reserved one is the reserved one.
  have own {other : OpenRequest} (inside : other ∈ state.requests) (same : other.id = request.id) : other = request :=
    List.inj_on_of_nodup_map sound.ids inside member same
  constructor
  · show ((state.requests.map (state.decide surroundings request actorId)).map OpenRequest.id).Nodup
    have same : (state.requests.map (state.decide surroundings request actorId)).map OpenRequest.id =
        state.requests.map OpenRequest.id := by
      rw [List.map_map]
      exact List.map_congr_left fun stored _ => (decide_id request stored actorId).1
    rw [same]
    exact sound.ids
  · exact operationIds_append sound.operationIds fresh.2
  · intro after inside
    obtain ⟨stored, before, rfl⟩ := List.mem_map.mp inside
    unfold State.decide
    split
    · exact ⟨fun _ => rfl, fun _ => rfl⟩
    · split
      · rename_i waiting
        rw [sound.operationId_of_pending before waiting]
        exact ⟨nofun, nofun⟩
      · exact sound.linked stored before
  · intro after inside operationId found
    obtain ⟨stored, before, rfl⟩ := List.mem_map.mp inside
    rw [(decide_id request stored actorId).1]
    by_cases same : stored.id = request.id
    · unfold State.decide at found
      rw [if_pos same] at found
      refine ⟨_, List.mem_append_right _ (List.mem_singleton.mpr rfl), Option.some.inj found, rfl, ?_⟩
      rw [same]
      rfl
    · have kept : (state.decide surroundings request actorId stored).operationId = stored.operationId := by
        unfold State.decide
        rw [if_neg same]
        split <;> rfl
      obtain ⟨operation, listed, rest⟩ := sound.stored stored before operationId (kept ▸ found)
      exact ⟨operation, List.mem_append_left _ listed, rest⟩
  · intro operation inside requestId found
    rcases List.mem_append.mp inside with inside | inside
    · obtain ⟨stored, before, same, has⟩ := sound.only operation inside requestId found
      have different : stored.id ≠ request.id := by
        intro equal
        rw [own before equal, blank] at has
        cases has
      refine ⟨_, List.mem_map_of_mem before, (decide_id request stored actorId).1.trans same, ?_⟩
      unfold State.decide
      rw [if_neg different]
      split
      · exact has
      · exact has
    · rw [List.mem_singleton.mp inside] at found ⊢
      obtain rfl := Option.some.inj found
      refine ⟨_, List.mem_map_of_mem member, (decide_id request request actorId).1, ?_⟩
      unfold State.decide
      rw [if_pos rfl]
      rfl
  · have none : (state.reserved surroundings request actorId source commit).pending = [] := by
      refine List.filter_eq_nil_iff.mpr ?_
      intro after inside
      obtain ⟨stored, before, rfl⟩ := List.mem_map.mp inside
      simpa using decide_status request stored actorId
    rw [none]
    exact List.nodup_nil
  · intro endorsement inside
    obtain ⟨stored, before, same, foreign⟩ := sound.voters endorsement inside
    have kept : (state.decide surroundings request actorId stored).id = stored.id ∧
        (state.decide surroundings request actorId stored).requestedBy = stored.requestedBy :=
      decide_id request stored actorId
    exact ⟨_, List.mem_map_of_mem before, kept.1.trans same, kept.2 ▸ foreign⟩
  · exact sound.votes

/-- What a reservation by the members themselves takes: endorsements of enough members, and a requester who is one. -/
structure Endorsed (rules : OpeningRules User) (state : State User) (request : OpenRequest) : Prop where
  requester : state.isMember rules request.requestedBy = true
  votes : ∃ threshold, state.profile.policy.endorsementThreshold = some threshold ∧
    ∃ members : List String, members.Nodup ∧ threshold ≤ members.length ∧ ∀ userId ∈ members,
      userId ≠ request.requestedBy ∧ (request.id, userId) ∈ state.endorsements ∧ state.isMember rules userId = true

/-- What a call does, with whether the members themselves decide. -/
inductive Outcome (rules : OpeningRules User) (surroundings : Surroundings) (state : State User) :
    Bool → State User → Prop
  | policy (automatic : Bool) (policy : OpenRequestPolicy) :
      Outcome rules surroundings state automatic (state.withPolicy policy)
  | closed (automatic : Bool) {next : State User} {change : OpenRequest → OpenRequest}
      (closing : Closing state next change) : Outcome rules surroundings state automatic next
  | created (automatic : Bool) {swept : State User} {change : OpenRequest → OpenRequest}
      (closing : Closing state swept change) (request : OpenRequest) (id : request.id = surroundings.newId)
      (pending : request.status = .pending) (blank : request.operationId = none)
      (first : ∀ other ∈ swept.requests, other.requestedBy = request.requestedBy → other.status ≠ .pending) :
      Outcome rules surroundings state automatic (swept.insertRequest request)
  | endorsed (automatic : Bool) (request : OpenRequest) (member : request ∈ state.requests) (userId : String)
      (foreign : request.requestedBy ≠ userId) :
      Outcome rules surroundings state automatic (state.endorse request.id userId)
  | accepted (request : OpenRequest) (member : request ∈ state.requests) (pending : request.status = .pending)
      (actorId : String) (source : ProfileReleaseSource) (commit : String) :
      Outcome rules surroundings state false (state.reserved surroundings request actorId source commit)
  | elected (automatic : Bool) {base : State User} (sound : Sound state → Sound base)
      (same : base.requests = state.requests ∧ base.operations = state.operations) (request : OpenRequest)
      (member : request ∈ state.requests) (pending : request.status = .pending)
      (reservable : Reservable rules surroundings base request) (threshold : Nat)
      (policy : base.profile.policy.endorsementThreshold = some threshold)
      (valid : threshold ≤ base.validEndorsements rules request.id) (actorId : String) (source : ProfileReleaseSource)
      (commit : String) : Outcome rules surroundings state automatic (base.reserved surroundings request actorId source commit)

theorem outcome_of_create (sound : Sound state)
    (created : state.createOpenRequest rules surroundings userId install = .ok (next, result)) :
    Outcome rules surroundings state false next := by
  unfold State.createOpenRequest at created
  dsimp only at created
  split at created
  · cases created
  split at created
  · cases created
  split at created
  · cases created
  split at created
  · cases created
  split at created
  · cases created
  have inside : ∀ request ∈ state.pending, request ∈ state.requests ∧ request.status = .pending := by
    intro request member
    obtain ⟨stored, pending⟩ := List.mem_filter.mp member
    exact ⟨stored, by simpa using pending⟩
  split at created
  · cases created
  · rename_i swept found done
    obtain ⟨rfl, -⟩ := Prod.mk.inj (Except.ok.inj created)
    obtain ⟨change, closing, -, -⟩ := sweep_ok sound.ids inside (Closing.refl state) done
    exact .closed false closing
  · rename_i swept done
    obtain ⟨change, closing, -, gone⟩ := sweep_ok sound.ids inside (Closing.refl state) done
    split at created
    · cases created
    split at created
    · cases created
    split at created
    · cases created
    · obtain ⟨rfl, -⟩ := Prod.mk.inj (Except.ok.inj created)
      refine .created false closing _ rfl rfl rfl ?_
      -- A request of the user's that is pending would have been seen in the sweep.
      intro other member own still
      rw [closing.state] at member
      obtain ⟨before, earlier, rfl⟩ := List.mem_map.mp member
      have origin := closing.closes before earlier
      have listed : before ∈ state.pending := List.mem_filter.mpr ⟨earlier, by simpa using origin.pending still⟩
      exact gone rfl before listed (origin.requestedBy.symm.trans own) still

theorem outcome_of_act (sound : Sound state) {id : String} {action : OpenRequestAction}
    (acted : state.actOnOpenRequest rules surroundings userId id action = .ok (next, result)) :
    Outcome rules surroundings state (action ≠ .accept) next := by
  unfold State.actOnOpenRequest at acted
  split at acted
  · cases acted
  rename_i request found
  have member := List.mem_of_find?_eq_some found
  have same (automatic : Bool) : Outcome rules surroundings state automatic state := .policy automatic state.profile.policy
  unfold State.actOnRequest at acted
  split at acted
  · cases acted
  split at acted
  · cases acted
  split at acted
  · obtain ⟨rfl, -⟩ := Prod.mk.inj (Except.ok.inj acted)
    exact same _
  split at acted
  · obtain ⟨rfl, -⟩ := Prod.mk.inj (Except.ok.inj acted)
    exact same _
  split at acted
  · cases acted
  rename_i active
  have pending := pending_of_active (not_not.mp active)
  -- Ending a request closes it.
  have ends (status : OpenRequestStatus) (waiting : status ≠ .pending) (free : status ≠ .reserved) :
      ∃ change, Closing state (state.ended request userId status) change := by
    refine ⟨_, (Closing.refl state).update ?_⟩
    intro stored here equal
    obtain rfl := List.inj_on_of_nodup_map sound.ids here member equal
    exact ⟨rfl, rfl, rfl, .inr ⟨waiting, free, by rw [pending]; nofun⟩⟩
  split at acted
  · obtain ⟨rfl, -⟩ := Prod.mk.inj (Except.ok.inj acted)
    obtain ⟨change, closing⟩ := ends .withdrawn nofun nofun
    exact .closed _ closing
  split at acted
  · obtain ⟨rfl, -⟩ := Prod.mk.inj (Except.ok.inj acted)
    obtain ⟨change, closing⟩ := ends .rejected nofun nofun
    exact .closed _ closing
  unfold State.advanceRequest at acted
  split at acted
  · cases acted
  split at acted
  · rename_i accept
    obtain ⟨-, source, commit, rfl⟩ := reserve_ok acted
    have operator : (decide (action ≠ .accept)) = false := by simp [accept]
    rw [operator]
    exact .accepted request member pending userId source commit
  split at acted
  · cases acted
  rename_i foreign
  split at acted
  · cases acted
  rename_i threshold policy
  unfold State.endorseAndReserve at acted
  dsimp only at acted
  split at acted
  · rename_i enough
    obtain ⟨reservable, source, commit, rfl⟩ := reserve_ok acted
    have base : (state.endorse request.id userId).requests = state.requests ∧
        (state.endorse request.id userId).operations = state.operations ∧
        (state.endorse request.id userId).profile = state.profile := by
      unfold State.endorse
      split <;> exact ⟨rfl, rfl, rfl⟩
    exact .elected _ (fun before => before.endorse member foreign) ⟨base.1, base.2.1⟩ request member pending reservable
      threshold (base.2.2 ▸ policy) enough.2 userId source commit
  · obtain ⟨rfl, -⟩ := Prod.mk.inj (Except.ok.inj acted)
    exact .endorsed _ request member userId foreign

theorem reserveOldest_eq (threshold : Nat) (actorId : String) (list : List OpenRequest) :
    state.reserveOldest rules surroundings threshold actorId list =
      match list.filter (state.Supported rules threshold) with
      | [] => .ok state
      | request :: _ => (state.reserve rules surroundings request actorId).map Prod.fst := by
  induction list with
  | nil => rfl
  | cons request rest ih =>
    by_cases supported : state.Supported rules threshold request
    · rw [State.reserveOldest, if_pos supported, List.filter_cons_of_pos (by simpa using supported)]
      dsimp only
      cases state.reserve rules surroundings request actorId <;> rfl
    · rw [State.reserveOldest, if_neg supported, List.filter_cons_of_neg (by simpa using supported)]
      exact ih

/-- The requests that have the endorsements that reserve them, the oldest one first. -/
def State.candidates (rules : OpeningRules User) (state : State User) : List OpenRequest :=
  match state.profile.policy.endorsementThreshold with
  | none => []
  | some threshold =>
    if state.profile.policy.enabled ∧ canRequestOpening state.profile.status then
      (state.pending.insertionSort comesFirst).filter (state.Supported rules threshold)
    else []

theorem updateOpenRequestPolicy_eq (policy : OpenRequestPolicy) (actorId : String) :
    state.updateOpenRequestPolicy rules surroundings policy actorId =
      match (state.withPolicy policy).candidates rules with
      | [] => .ok (state.withPolicy policy, policy)
      | request :: _ => ((state.withPolicy policy).reserve rules surroundings request actorId).map
          fun result => (result.1, policy) := by
  unfold State.updateOpenRequestPolicy State.candidates
  dsimp only
  have policy_eq : (state.withPolicy policy).profile.policy = policy := rfl
  rw [policy_eq]
  cases policy.endorsementThreshold with
  | none => rfl
  | some threshold =>
    dsimp only
    split
    · rw [reserveOldest_eq]
      cases (((state.withPolicy policy).pending.insertionSort comesFirst).filter
          ((state.withPolicy policy).Supported rules threshold)) with
      | nil => rfl
      | cons request rest =>
        dsimp only
        cases (state.withPolicy policy).reserve rules surroundings request actorId <;> rfl
    · rfl

theorem mem_candidates (candidate : request ∈ state.candidates rules) :
    request ∈ state.requests ∧ activeStatus request state.profile state.now = .pending ∧
      state.profile.policy.enabled = true ∧ ∃ threshold, state.profile.policy.endorsementThreshold = some threshold ∧
        threshold ≤ state.validEndorsements rules request.id := by
  unfold State.candidates at candidate
  split at candidate
  · cases candidate
  · rename_i threshold policy
    split at candidate
    · rename_i enabled
      obtain ⟨sorted, supported⟩ := List.mem_filter.mp candidate
      obtain ⟨active, -, valid⟩ := of_decide_eq_true supported
      have stored := List.mem_of_mem_filter ((List.mem_insertionSort comesFirst).mp sorted)
      exact ⟨stored, active, enabled.1, threshold, policy, valid⟩
    · cases candidate

theorem outcome_of_updatePolicy {policy result : OpenRequestPolicy}
    (updated : state.updateOpenRequestPolicy rules surroundings policy actorId = .ok (next, result)) :
    Outcome rules surroundings state true next := by
  rw [updateOpenRequestPolicy_eq] at updated
  split at updated
  · obtain ⟨rfl, -⟩ := Prod.mk.inj (Except.ok.inj updated)
    exact .policy true policy
  · rename_i request rest candidates
    have candidate : request ∈ (state.withPolicy policy).candidates rules := by
      rw [candidates]
      exact List.mem_cons_self
    obtain ⟨member, active, -, threshold, stored, valid⟩ := mem_candidates candidate
    cases reserved : (state.withPolicy policy).reserve rules surroundings request actorId with
    | error failure =>
      rw [reserved] at updated
      cases updated
    | ok answer =>
      rw [reserved] at updated
      obtain ⟨rfl, -⟩ := Prod.mk.inj (Except.ok.inj updated)
      obtain ⟨reservable, source, commit, same⟩ := reserve_ok reserved
      rw [same]
      have sound (before : Sound state) : Sound (state.withPolicy policy) := { before with }
      exact .elected true sound ⟨rfl, rfl⟩ request member (pending_of_active active) reservable threshold stored valid
        actorId source commit

theorem Outcome.sound {automatic : Bool} (outcome : Outcome rules surroundings state automatic next) (sound : Sound state)
    (fresh : Fresh state surroundings.newId) : Sound next := by
  cases outcome with
  | policy => exact { sound with }
  | closed _ closing => exact sound.close closing
  | created _ closing request id pending blank first =>
    refine (sound.close closing).insertRequest ?_ pending blank first
    rw [closing.state, id]
    intro listed
    obtain ⟨after, member, same⟩ := List.mem_map.mp listed
    obtain ⟨before, inside, rfl⟩ := List.mem_map.mp member
    exact fresh.1 (List.mem_map.mpr ⟨before, inside, (closing.closes before inside).id.symm.trans same⟩)
  | endorsed _ request member userId foreign => exact sound.endorse member foreign
  | accepted request member pending actorId source commit => exact sound.reserved fresh member pending actorId source commit
  | elected _ base same request member pending reservable threshold policy valid actorId source commit =>
    refine (base sound).reserved ⟨?_, ?_⟩ (same.1 ▸ member) pending actorId source commit
    · rw [same.1]
      exact fresh.1
    · rw [same.2]
      exact fresh.2

/-- What a call that reserves a request has done. -/
structure ReservedWell (rules : OpeningRules User) (automatic : Bool) (next : State User) (request : OpenRequest) :
    Prop where
  alone : ∀ other ∈ next.requests, other.status ≠ .pending
  endorsed : automatic = true → Endorsed rules next request

theorem Sound.endorsed (sound : Sound state) (member : request ∈ state.requests)
    (requester : state.isMember rules request.requestedBy = true) {threshold : Nat}
    (policy : state.profile.policy.endorsementThreshold = some threshold)
    (valid : threshold ≤ state.validEndorsements rules request.id) : Endorsed rules state request := by
  refine ⟨requester, threshold, policy, _, (List.nodup_dedup _).filter _, valid, ?_⟩
  intro userId inside
  obtain ⟨voted, is⟩ := List.mem_filter.mp inside
  obtain ⟨⟨requestId, voter⟩, listed, rfl⟩ := List.mem_map.mp (List.mem_dedup.mp voted)
  obtain ⟨endorsement, here⟩ := List.mem_filter.mp listed
  obtain rfl : requestId = request.id := by simpa using here
  obtain ⟨stored, known, same, foreign⟩ := sound.voters _ endorsement
  obtain rfl := List.inj_on_of_nodup_map sound.ids known member same
  exact ⟨foreign.symm, endorsement, is⟩

theorem Outcome.reserves {automatic : Bool} (outcome : Outcome rules surroundings state automatic next)
    (sound : Sound state) (member : request ∈ state.requests) (open_ : request.status ≠ .reserved)
    (inside : after ∈ next.requests) (same : after.id = request.id) (reserved : after.status = .reserved) :
    ReservedWell rules automatic next after := by
  -- Without a reservation no request comes to be reserved.
  have unchanged {requests : List OpenRequest} (equal : requests = state.requests) (here : after ∈ requests) : False := by
    rw [equal] at here
    obtain rfl := List.inj_on_of_nodup_map sound.ids here member same
    exact open_ reserved
  have stays {closed : State User} {change : OpenRequest → OpenRequest} (closing : Closing state closed change)
      (here : after ∈ closed.requests) : False := by
    rw [closing.state] at here
    obtain ⟨before, earlier, rfl⟩ := List.mem_map.mp here
    have origin := closing.closes before earlier
    obtain rfl := List.inj_on_of_nodup_map sound.ids earlier member (origin.id.symm.trans same)
    rcases origin.status with equal | ⟨-, free, -⟩
    · exact open_ (equal ▸ reserved)
    · exact free reserved
  -- With one, nothing stays pending.
  have alone (base : State User) (chosen : OpenRequest) (actorId : String) (source : ProfileReleaseSource)
      (commit : String) : ∀ other ∈ (base.reserved surroundings chosen actorId source commit).requests,
        other.status ≠ .pending := by
    intro other listed
    obtain ⟨stored, _, rfl⟩ := List.mem_map.mp listed
    exact decide_status chosen stored actorId
  cases outcome with
  | policy => exact (unchanged rfl inside).elim
  | closed _ closing => exact (stays closing inside).elim
  | created _ closing new id pending blank first =>
    rcases List.mem_append.mp inside with inside | inside
    · exact (stays closing inside).elim
    · rw [List.mem_singleton.mp inside, pending] at reserved
      cases reserved
  | endorsed _ request _ userId foreign =>
    refine (unchanged ?_ inside).elim
    unfold State.endorse
    split <;> rfl
  | accepted chosen _ pending actorId source commit => exact ⟨alone state chosen actorId source commit, nofun⟩
  | elected _ base equal chosen listed pending reservable threshold policy valid actorId source commit =>
    rename_i based
    refine ⟨alone _ chosen actorId source commit, fun _ => ?_⟩
    obtain ⟨stored, before, rfl⟩ := List.mem_map.mp inside
    have kept : (based.decide surroundings chosen actorId stored).id = stored.id ∧
        (based.decide surroundings chosen actorId stored).requestedBy = stored.requestedBy :=
      decide_id chosen stored actorId
    -- The request that has come to be reserved is the chosen one.
    have own : stored = chosen := by
      by_contra different
      have ids : stored.id ≠ chosen.id := fun equalIds =>
        different (List.inj_on_of_nodup_map sound.ids (equal.1 ▸ before) listed equalIds)
      have status : (based.decide surroundings chosen actorId stored).status = .reserved := reserved
      unfold State.decide at status
      rw [if_neg ids] at status
      split at status
      · cases status
      · obtain rfl := List.inj_on_of_nodup_map sound.ids (equal.1 ▸ before) member (kept.1.symm.trans same)
        exact open_ status
    subst own
    have endorsed := (base sound).endorsed before reservable.member policy valid
    obtain ⟨requester, threshold, stored', members, nodup, enough, each⟩ := endorsed
    refine ⟨?_, threshold, stored', members, nodup, enough, ?_⟩
    · rw [kept.2]
      exact requester
    · rw [kept.1, kept.2]
      exact each

/-- The members themselves decide in an event, and no operator does. -/
def Event.automatic : Event User → Bool
  | .act _ _ action _ => action ≠ .accept
  | .updatePolicy .. => true
  | _ => false

/-- What an event around the requests leaves alone. -/
structure Around (before after : State User) : Prop where
  requests : after.requests = before.requests
  endorsements : after.endorsements = before.endorsements
  sound : Sound before → Sound after

theorem Sound.queueOperation (sound : Sound state) {operation : GatewayOperation} (new : FromOperator state operation) :
    Sound { state with operations := state.operations ++ [operation] } := by
  obtain ⟨fresh, foreign⟩ := new
  refine { sound with operationIds := ?_, stored := ?_, only := ?_ }
  · exact operationIds_append sound.operationIds fresh.2
  · intro request member operationId found
    obtain ⟨stored, listed, rest⟩ := sound.stored request member operationId found
    exact ⟨stored, List.mem_append_left _ listed, rest⟩
  · intro other member requestId found
    rcases List.mem_append.mp member with member | member
    · exact sound.only other member requestId found
    · rw [List.mem_singleton.mp member, requestId?, Option.isNone_iff_eq_none.mp foreign] at found
      cases found

theorem Sound.setOperationStatus (sound : Sound state) (id : String) (status : GatewayOperationStatus) :
    Sound { state with operations := state.operations.map fun operation =>
      if operation.id = id then { operation with status } else operation } := by
  -- Only the status changes.
  have kept (operation : GatewayOperation) :
      (if operation.id = id then { operation with status } else operation).id = operation.id ∧
        (if operation.id = id then { operation with status } else operation).type = operation.type ∧
        requestId? (if operation.id = id then { operation with status } else operation) = requestId? operation := by
    split <;> exact ⟨rfl, rfl, rfl⟩
  refine { sound with operationIds := ?_, stored := ?_, only := ?_ }
  · show (Gateway.operationIds _).Nodup
    rw [Gateway.operationIds_map fun operation => (kept operation).1]
    exact sound.operationIds
  · intro request member operationId found
    obtain ⟨stored, listed, here, reset, comes⟩ := sound.stored request member operationId found
    exact ⟨_, List.mem_map_of_mem listed, (kept stored).1.trans here, (kept stored).2.1.trans reset,
      (kept stored).2.2.trans comes⟩
  · intro operation member requestId found
    obtain ⟨stored, listed, rfl⟩ := List.mem_map.mp member
    rw [(kept stored).2.2] at found
    rw [(kept stored).1]
    exact sound.only stored listed requestId found

theorem outcome_of_step {event : Event User} {output : Output} (sound : Sound state)
    (stepped : (machine rules).step state event = some (next, output)) :
    Around state next ∨ ∃ surroundings, Fresh state surroundings.newId ∧
      Outcome rules surroundings state event.automatic next := by
  -- A call that fails leaves everything as it is.
  have failed (surroundings : Surroundings) (automatic : Bool) : Outcome rules surroundings state automatic state :=
    .policy automatic state.profile.policy
  cases event with
  | advance milliseconds =>
    obtain ⟨rfl, -⟩ := Prod.mk.inj (Option.some.inj stepped)
    exact .inl ⟨rfl, rfl, fun before => { before with }⟩
  | setUser id user =>
    obtain ⟨rfl, -⟩ := Prod.mk.inj (Option.some.inj stepped)
    exact .inl ⟨rfl, rfl, fun before => { before with }⟩
  | setProfile status currentScenario openAt releaseSource buildCommitSha =>
    obtain ⟨rfl, -⟩ := Prod.mk.inj (Option.some.inj stepped)
    exact .inl ⟨rfl, rfl, fun before => { before with }⟩
  | queueOperation operation =>
    simp only [machine] at stepped
    split at stepped
    · rename_i new
      obtain ⟨rfl, -⟩ := Prod.mk.inj (Option.some.inj stepped)
      exact .inl ⟨rfl, rfl, fun before => before.queueOperation new⟩
    · cases stepped
  | setOperationStatus id status =>
    obtain ⟨rfl, -⟩ := Prod.mk.inj (Option.some.inj stepped)
    exact .inl ⟨rfl, rfl, fun before => before.setOperationStatus id status⟩
  | create userId install surroundings =>
    simp only [machine] at stepped
    split at stepped
    · rename_i fresh
      refine .inr ⟨surroundings, fresh, ?_⟩
      cases created : state.createOpenRequest rules surroundings userId install with
      | error failure =>
        rw [created] at stepped
        obtain ⟨rfl, -⟩ := Prod.mk.inj (Option.some.inj stepped)
        exact failed surroundings _
      | ok result =>
        rw [created] at stepped
        obtain ⟨rfl, -⟩ := Prod.mk.inj (Option.some.inj stepped)
        exact outcome_of_create sound created
    · cases stepped
  | act userId id action surroundings =>
    simp only [machine] at stepped
    split at stepped
    · rename_i fresh
      refine .inr ⟨surroundings, fresh, ?_⟩
      cases acted : state.actOnOpenRequest rules surroundings userId id action with
      | error failure =>
        rw [acted] at stepped
        obtain ⟨rfl, -⟩ := Prod.mk.inj (Option.some.inj stepped)
        exact failed surroundings _
      | ok result =>
        rw [acted] at stepped
        obtain ⟨rfl, -⟩ := Prod.mk.inj (Option.some.inj stepped)
        exact outcome_of_act sound acted
    · cases stepped
  | updatePolicy policy actorId surroundings =>
    simp only [machine] at stepped
    split at stepped
    · rename_i fresh
      refine .inr ⟨surroundings, fresh, ?_⟩
      cases updated : state.updateOpenRequestPolicy rules surroundings policy actorId with
      | error failure =>
        rw [updated] at stepped
        obtain ⟨rfl, -⟩ := Prod.mk.inj (Option.some.inj stepped)
        exact failed surroundings _
      | ok result =>
        rw [updated] at stepped
        obtain ⟨rfl, -⟩ := Prod.mk.inj (Option.some.inj stepped)
        exact outcome_of_updatePolicy updated
    · cases stepped

/-- Nothing has been asked for yet. -/
structure Blank (state : State User) : Prop where
  requests : state.requests = []
  endorsements : state.endorsements = []
  operationIds : (operationIds state.operations).Nodup
  operations : ∀ operation ∈ state.operations, operation.payload.opening = none

theorem Blank.sound (blank : Blank state) : Sound state := by
  have noRequest (request : OpenRequest) : request ∉ state.requests := by
    rw [blank.requests]
    exact List.not_mem_nil
  have noEndorsement (endorsement : String × String) : endorsement ∉ state.endorsements := by
    rw [blank.endorsements]
    exact List.not_mem_nil
  constructor
  case ids =>
    rw [blank.requests]
    exact List.nodup_nil
  case operationIds => exact blank.operationIds
  case linked => exact fun request member => (noRequest request member).elim
  case stored => exact fun request member => (noRequest request member).elim
  case only =>
    intro operation member requestId found
    rw [requestId?, blank.operations operation member] at found
    cases found
  case lone =>
    rw [State.pending, blank.requests]
    exact List.nodup_nil
  case voters => exact fun endorsement member => (noEndorsement endorsement member).elim
  case votes =>
    rw [blank.endorsements]
    exact List.nodup_nil

theorem sound_of_run {start : State User} {trace : List (Event User × Output)} (sound : Sound start)
    (run : (machine rules).Run start trace state) : Sound state :=
  run.stateInvariant sound fun _ _ _ _ held _ stepped => by
    rcases outcome_of_step held stepped with around | ⟨surroundings, fresh, outcome⟩
    · exact around.sound held
    · exact outcome.sound held fresh

/-- The operations that come from a request. -/
def State.operationsOf (state : State User) (request : OpenRequest) : List GatewayOperation :=
  state.operations.filter fun operation => requestId? operation = some request.id

theorem Sound.operationsOf (sound : Sound state) (member : request ∈ state.requests) :
    (request.status = .reserved → ∃ operation, state.operationsOf request = [operation] ∧ operation.type = .reset) ∧
      (request.status ≠ .reserved → state.operationsOf request = []) := by
  have linked := sound.linked request member
  -- An operation of the request is the one that the request names.
  have named {operation : GatewayOperation} (inside : operation ∈ state.operationsOf request) :
      operation ∈ state.operations ∧ request.operationId = some operation.id := by
    obtain ⟨listed, comes⟩ := List.mem_filter.mp inside
    obtain ⟨stored, known, same, has⟩ := sound.only operation listed request.id (by simpa using comes)
    obtain rfl := List.inj_on_of_nodup_map sound.ids known member same
    exact ⟨listed, has⟩
  constructor
  · intro reserved
    obtain ⟨operationId, found⟩ := Option.isSome_iff_exists.mp (linked.mp reserved)
    obtain ⟨operation, listed, here, reset, comes⟩ := sound.stored request member operationId found
    refine ⟨operation, ?_, reset⟩
    have inside : operation ∈ state.operationsOf request := List.mem_filter.mpr ⟨listed, by simpa using comes⟩
    have distinct : (state.operationsOf request).Nodup := sound.operationIds.of_map.filter _
    refine List.perm_singleton.mp ((List.perm_ext_iff_of_nodup distinct (List.nodup_singleton _)).mpr ?_)
    intro other
    rw [List.mem_singleton]
    constructor
    · intro also
      obtain ⟨there, has⟩ := named also
      have equal : operationId = other.id := Option.some.inj (found.symm.trans has)
      exact List.inj_on_of_nodup_map sound.operationIds there listed (equal.symm.trans here.symm)
    · rintro rfl
      exact inside
  · intro open_
    refine List.eq_nil_iff_forall_not_mem.mpr ?_
    intro operation inside
    obtain ⟨-, has⟩ := named inside
    exact open_ (linked.mpr (by rw [has]; rfl))

theorem Sound.lone_active (sound : Sound state) (userId : String) :
    (state.requests.filter fun request => request.requestedBy = userId ∧
      activeStatus request state.profile state.now = .pending).length ≤ 1 := by
  -- The active requests of the user are among its pending ones, and those are of different users.
  have among : (state.requests.filter fun request => request.requestedBy = userId ∧
      activeStatus request state.profile state.now = .pending).Sublist
        (state.pending.filter fun request => request.requestedBy = userId) := by
    rw [State.pending, List.filter_filter]
    refine List.monotone_filter_right _ ?_
    intro request active
    simp only [Bool.decide_and, Bool.and_eq_true, decide_eq_true_eq] at active ⊢
    exact ⟨active.1, pending_of_active active.2⟩
  refine among.length_le.trans ?_
  have count := List.nodup_iff_count_le_one.mp sound.lone userId
  rw [List.count, List.countP_map, List.countP_eq_length_filter] at count
  simpa [Function.comp_def, beq_eq_decide] using count

end Sammo.Gateway.OpenRequests
