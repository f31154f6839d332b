import Sammo.Lib.Lending
import Sammo.Selection.NpcPossessionLaws

/-! Taking over generals is exclusive in every run of players' calls, deaths and writes. -/

namespace Sammo

open PossessionServer

/-- What the users' tokens list, and until when. -/
def PossessionDatabase.listings (db : PossessionDatabase) (userId : String) : Option (Listing Int) :=
  -- Candidates that cannot be read are not listed.
  (db.tokens.get? userId).map fun token =>
    ⟨(token.pickResult.map OrderedMap.keys).getD [], token.validUntilTick⟩

/-- The refreshes in a row that have carried a candidate over, after one more thing that happened. -/
def countRefresh (userId : String) (id : Int) (count : Nat) : PossessionEvent × PossessionReply → Nat
  | (.reserve _ request, .reserved reply) =>
    if request.userId.text = userId then
      -- A candidate that was not carried over starts anew if it is drawn again.
      (reply.kept.map fun kept => if kept.has id then count + 1 else 0).getD count
    else count
  | _ => count

/-- How many refreshes in a row have carried a candidate over into a user's token. -/
def refreshesSurvived (userId : String) (id : Int) (trace : List (PossessionEvent × PossessionReply)) : Nat :=
  trace.foldl (countRefresh userId id) 0

/-- The user and the general of a takeover that succeeded. -/
def takeover? : PossessionEvent × PossessionReply → Option (String × Int)
  | (.possess _ request, .possessed generalId) => some (request.userId.text, generalId)
  | _ => none

/-- The takeovers of a trace, in order. -/
def takeovers (trace : List (PossessionEvent × PossessionReply)) : List (String × Int) :=
  trace.filterMap takeover?

/-- No user owns two generals. -/
def OwnersDistinct (world : TurnWorld) : Prop :=
  ∀ (userId : UserId) first second left right, world.generals.rows.get? first = some left →
    world.generals.rows.get? second = some right → left.userId? = some userId.text →
    right.userId? = some userId.text → first = second

/-- What holds after every call. -/
structure PossessionInvariant (trace : List (PossessionEvent × PossessionReply)) (server : PossessionServer) :
    Prop where
  exclusive : Lending.Exclusive server.db.listings server.tick
  owners : OwnersDistinct server.world
  /-- A general that was taken over belongs to the user who did, as long as it lives. -/
  taken : ∀ userId generalId, (userId, generalId) ∈ takeovers trace → userId ≠ "" ∧
    ∀ general, server.world.generals.rows.get? generalId = some general → general.userId? = some userId
  once : ((takeovers trace).map Prod.snd).Nodup
  /-- A candidate may be kept as often as it has not been kept yet. -/
  counted : ∀ userId token picks id candidate, server.db.tokens.get? userId = some token →
    token.pickResult = some picks → picks.get? id = some candidate →
    refreshesSurvived userId id trace + candidate.keepCount = keepCountLimit

/-- A step that draws nothing and takes nobody over. -/
structure QuietStep (server next : PossessionServer) (entry : PossessionEvent × PossessionReply) : Prop where
  tick : server.tick ≤ next.tick
  tokens : next.db.tokens = server.db.tokens
  rows : ∀ id general, next.world.generals.rows.get? id = some general →
    server.world.generals.rows.get? id = some general
  uncounted : ∀ userId id count, countRefresh userId id count entry = count
  untaken : takeover? entry = none

/-- A step that draws a token. -/
structure DrawingStep (server next : PossessionServer) (entry : PossessionEvent × PossessionReply)
    (request : ReserveRequest) (kept picks : NpcPossessionPickResult) (token : NpcSelectionToken) : Prop where
  tick : server.tick ≤ request.createdGameTick ∧ next.tick = request.createdGameTick
  world : next.world = server.world
  carries : CarriesOver server.db request kept
  drawn : DrawnToken server.db next.db request kept picks token
  asked : ∃ row shown, entry = (.reserve row request, .reserved shown) ∧ shown.kept = some kept

/-- A step that takes a general over. -/
structure TakingStep (server next : PossessionServer) (entry : PossessionEvent × PossessionReply)
    (request : PossessRequest) : Prop where
  tick : server.tick ≤ request.processingGameTick ∧ next.tick = request.processingGameTick
  possessed : Possessed server.db next.db server.world next.world request
  fair : ∃ token picks stored general,
    Possessable server.db server.world request token picks stored general
  uncounted : ∀ userId id count, countRefresh userId id count entry = count
  taken : takeover? entry = some (request.userId.text, request.generalId)

variable {reply : PossessionReply} {services : SelectionServices} {event : PossessionEvent}
  {token : NpcSelectionToken}

theorem answer_cases {α : Type} {server next : PossessionServer} {tick : Int}
    {outcome : Except NpcPossessionFailure α} {finish : α → PossessionServer × PossessionReply}
    (answered : server.answer tick outcome finish = some (next, reply)) :
    server.tick ≤ tick ∧ ((∃ value, outcome = .ok value ∧ finish value = (next, reply)) ∨
      ∃ failure, next = { server with tick } ∧ reply = .failed failure) := by
  unfold PossessionServer.answer at answered
  split at answered
  · cases answered
  · rename_i forward
    refine ⟨by omega, ?_⟩
    split at answered
    · exact .inl ⟨_, rfl, Option.some.inj answered⟩
    · cases answered
    · obtain ⟨rfl, rfl⟩ := Prod.mk.inj (Option.some.inj answered)
      exact .inr ⟨_, rfl, rfl⟩

theorem step_cases {server next : PossessionServer} (stepped : step services server event = some (next, reply)) :
    QuietStep server next (event, reply) ∨
      (∃ request kept picks token, DrawingStep server next (event, reply) request kept picks token) ∨
      ∃ request, TakingStep server next (event, reply) request := by
  cases event with
  | reserve row request =>
    obtain ⟨forward, outcome⟩ := answer_cases stepped
    rcases outcome with ⟨⟨shown, db⟩, answered, finished⟩ | ⟨failure, rfl, rfl⟩
    · obtain ⟨rfl, rfl⟩ := Prod.mk.inj finished
      rcases reserveNpcPossessionCandidates_ok answered with ⟨carried, rfl⟩ |
        ⟨kept, picks, token, carried, carries, drawn⟩
      · refine .inl ⟨forward, rfl, fun _ _ held => held, fun userId id count => ?_, rfl⟩
        simp [countRefresh, carried]
      · exact .inr (.inl ⟨request, kept, picks, token, ⟨forward, rfl⟩, rfl, carries, drawn,
          row, shown, rfl, carried⟩)
    · exact .inl ⟨forward, rfl, fun _ _ held => held, fun _ _ _ => rfl, rfl⟩
  | possess row request =>
    obtain ⟨forward, outcome⟩ := answer_cases stepped
    rcases outcome with ⟨⟨generalId, db, world⟩, answered, finished⟩ | ⟨failure, rfl, rfl⟩
    · obtain ⟨rfl, rfl⟩ := Prod.mk.inj finished
      obtain ⟨rfl, possessed, fair⟩ := possessNpcGeneral_ok answered
      exact .inr (.inr ⟨request, ⟨forward, rfl⟩, possessed, fair, fun _ _ _ => rfl, rfl⟩)
    · exact .inl ⟨forward, rfl, fun _ _ held => held, fun _ _ _ => rfl, rfl⟩
  | submit userId =>
    obtain ⟨rfl, rfl⟩ := Prod.mk.inj (Option.some.inj stepped)
    exact .inl ⟨le_rfl, rfl, fun _ _ held => held, fun _ _ _ => rfl, rfl⟩
  | settle userId =>
    obtain ⟨rfl, rfl⟩ := Prod.mk.inj (Option.some.inj stepped)
    exact .inl ⟨le_rfl, rfl, fun _ _ held => held, fun _ _ _ => rfl, rfl⟩
  | die generalId =>
    obtain ⟨rfl, rfl⟩ := Prod.mk.inj (Option.some.inj stepped)
    refine .inl ⟨le_rfl, rfl, fun id general held => ?_, fun _ _ _ => rfl, rfl⟩
    -- A death only takes a row away.
    simp only [TurnWorld.removeGeneral, Effect.perform_bind, Effect.perform_get] at held
    split at held
    · simp only [Effect.perform_bind, Effect.perform_modify, Effect.perform_pure, WriteBehind.remove,
        OrderedMap.get?_erase] at held
      split at held
      · cases held
      · exact held
    · exact held
  | flush =>
    obtain ⟨rfl, rfl⟩ := Prod.mk.inj (Option.some.inj stepped)
    exact .inl ⟨le_rfl, rfl, fun _ _ held => held, fun _ _ _ => rfl, rfl⟩

theorem refreshesSurvived_append (userId : String) (id : Int)
    (trace : List (PossessionEvent × PossessionReply)) (entry : PossessionEvent × PossessionReply) :
    refreshesSurvived userId id (trace ++ [entry]) =
      countRefresh userId id (refreshesSurvived userId id trace) entry := by
  simp [refreshesSurvived]

theorem takeovers_append (trace : List (PossessionEvent × PossessionReply))
    (entry : PossessionEvent × PossessionReply) :
    takeovers (trace ++ [entry]) = takeovers trace ++ (takeover? entry).toList := by
  cases found : takeover? entry <;> simp [takeovers, List.filterMap_append, found]

theorem validAt_listing {items : List Int} {tick : Int} :
    (⟨items, token.validUntilTick⟩ : Listing Int).ValidAt tick ↔ token.validAt tick = true := by
  unfold Listing.ValidAt NpcSelectionToken.validAt
  cases token.validUntilTick <;> simp

theorem listings_eq_some {db : PossessionDatabase} {userId : String} {listing : Listing Int} :
    db.listings userId = some listing ↔ ∃ token, db.tokens.get? userId = some token ∧
      (⟨(token.pickResult.map OrderedMap.keys).getD [], token.validUntilTick⟩ : Listing Int) = listing :=
  Option.map_eq_some_iff

section Steps

variable {trace : List (PossessionEvent × PossessionReply)} {server next : PossessionServer}
  {entry : PossessionEvent × PossessionReply}

theorem QuietStep.keeps (quiet : QuietStep server next entry) (held : PossessionInvariant trace server) :
    PossessionInvariant (trace ++ [entry]) next := by
  have same : takeovers (trace ++ [entry]) = takeovers trace := by
    simp [takeovers_append, quiet.untaken]
  refine ⟨?_, ?_, ?_, same ▸ held.once, ?_⟩
  · -- The same tokens only run out.
    have listings : next.db.listings = server.db.listings := by
      funext userId
      simp only [PossessionDatabase.listings, quiet.tokens]
    rw [listings]
    exact held.exclusive.later quiet.tick
  · intro userId first second left right there also leftOwned rightOwned
    exact held.owners userId first second left right (quiet.rows _ _ there) (quiet.rows _ _ also)
      leftOwned rightOwned
  · intro userId generalId taken
    rw [same] at taken
    obtain ⟨named, owned⟩ := held.taken userId generalId taken
    exact ⟨named, fun general there => owned general (quiet.rows _ _ there)⟩
  · intro userId token picks id candidate stored lists listed
    rw [refreshesSurvived_append, quiet.uncounted]
    exact held.counted userId token picks id candidate (quiet.tokens ▸ stored) lists listed

variable {request : ReserveRequest} {kept picks : NpcPossessionPickResult} {token : NpcSelectionToken}

theorem DrawingStep.counted (drawing : DrawingStep server next entry request kept picks token) (userId : String)
    (id : Int) (count : Nat) : countRefresh userId id count entry =
      if userId = request.userId.text then if kept.has id then count + 1 else 0 else count := by
  obtain ⟨row, shown, rfl, carried⟩ := drawing.asked
  by_cases own : request.userId.text = userId
  · simp [countRefresh, carried, own]
  · simp [countRefresh, own, Ne.symm own]

theorem DrawingStep.untaken (drawing : DrawingStep server next entry request kept picks token) :
    takeover? entry = none := by
  obtain ⟨row, shown, rfl, _⟩ := drawing.asked
  rfl

theorem DrawingStep.avoids (drawing : DrawingStep server next entry request kept picks token)
    (held : PossessionInvariant trace server) {other : String} {listing : Listing Int}
    (differs : other ≠ request.userId.text) (listed : server.db.listings other = some listing)
    (valid : listing.ValidAt request.createdGameTick) {id : Int} (picked : id ∈ picks.keys) :
    id ∉ listing.items := by
  intro shared
  obtain ⟨otherToken, stored, rfl⟩ := listings_eq_some.mp listed
  rw [validAt_listing] at valid
  cases lists : otherToken.pickResult with
  | none => simp [lists] at shared
  | some otherPicks =>
    simp only [lists, Option.map_some, Option.getD_some] at shared
    obtain ⟨candidate, found⟩ := Option.isSome_iff_exists.mp (OrderedMap.mem_keys.mp picked)
    rcases drawing.drawn.fresh id candidate found with carried | ⟨_, fresh⟩
    · -- What was carried over was in the user's own good token already.
      cases drawing.carries with
      | nothing => simp [OrderedMap.empty, OrderedMap.get?] at carried
      | @kept old oldPick own ownValid ownLists =>
        rw [keptCandidates_get?] at carried
        have before : id ∈ oldPick.keys := by
          rw [OrderedMap.mem_keys, OrderedMap.has]
          split at carried
          · cases former : oldPick.get? id with
            | none => simp [carriedCandidate, former] at carried
            | some _ => rfl
          · cases carried
        have exclusive := held.exclusive.later drawing.tick.1
        refine differs (exclusive other request.userId.text _ _ listed (listings_eq_some.mpr ⟨old, own, rfl⟩)
          (validAt_listing.mpr valid) (validAt_listing.mpr ownValid) id ?_ ?_)
        · simpa [lists] using shared
        · simpa [ownLists] using before
    · -- What was drawn was looked up against the good tokens of the others.
      obtain ⟨reserved, read⟩ := drawing.drawn.readable
      exact fresh reserved read (mem_reservedIds read stored differs valid lists shared)

theorem DrawingStep.keeps (drawing : DrawingStep server next entry request kept picks token)
    (held : PossessionInvariant trace server) : PossessionInvariant (trace ++ [entry]) next := by
  have same : takeovers (trace ++ [entry]) = takeovers trace := by
    simp [takeovers_append, drawing.untaken]
  refine ⟨?_, drawing.world ▸ held.owners, ?_, same ▸ held.once, ?_⟩
  · -- The new token lists what no other good token does.
    have listings : next.db.listings = Function.update server.db.listings request.userId.text
        (some ⟨picks.keys, token.validUntilTick⟩) := by
      funext userId
      rw [Function.update_apply, PossessionDatabase.listings, drawing.drawn.tokens]
      split
      · simp [drawing.drawn.lists]
      · rfl
    rw [listings, drawing.tick.2]
    refine (held.exclusive.later drawing.tick.1).update _ _ ?_
    intro other listing differs listed valid id picked
    exact drawing.avoids held differs listed valid picked
  · intro userId generalId taken
    rw [same] at taken
    rw [drawing.world]
    exact held.taken userId generalId taken
  · intro userId stored storedPicks id candidate found lists listed
    rw [refreshesSurvived_append, drawing.counted]
    rw [drawing.drawn.tokens] at found
    by_cases own : userId = request.userId.text
    · rw [if_pos own, Option.some.injEq] at found
      subst found
      rw [drawing.drawn.lists, Option.some.injEq] at lists
      subst lists
      rw [if_pos own]
      by_cases carried : kept.has id
      · -- A candidate carried over had one wish more before.
        obtain ⟨former, keptAs⟩ := Option.isSome_iff_exists.mp carried
        rw [drawing.drawn.keeps id former keptAs, Option.some.injEq] at listed
        subst listed
        rw [if_pos carried]
        cases drawing.carries with
        | nothing => simp [OrderedMap.empty, OrderedMap.get?] at keptAs
        | @kept old oldPick ownToken _ ownLists =>
          rw [keptCandidates_get?] at keptAs
          split at keptAs
          · obtain ⟨before, listedBefore, lowered⟩ := Option.bind_eq_some_iff.mp keptAs
            have count := held.counted _ old oldPick id before (own ▸ ownToken) ownLists listedBefore
            split at lowered
            · obtain rfl := Option.some.inj lowered
              simp only
              omega
            · cases lowered
          · cases keptAs
      · -- Any other candidate is fresh, so nothing has been kept of it yet.
        rw [if_neg carried]
        rcases drawing.drawn.fresh id candidate listed with keptAs | ⟨full, _⟩
        · exact absurd (by simp [OrderedMap.has, keptAs]) carried
        · omega
    · rw [if_neg own] at found ⊢
      exact held.counted userId stored storedPicks id candidate found lists listed

theorem TakingStep.keeps {request : PossessRequest} (taking : TakingStep server next entry request)
    (held : PossessionInvariant trace server) : PossessionInvariant (trace ++ [entry]) next := by
  obtain ⟨token, picks, stored, general, fair⟩ := taking.fair
  obtain ⟨result, owned, rows⟩ := taking.possessed.owned
  have more : takeovers (trace ++ [entry]) =
      takeovers trace ++ [(request.userId.text, request.generalId)] := by
    simp [takeovers_append, taking.taken]
  -- The general taken over is not one that was taken over before, for nobody owned it.
  have untaken : request.generalId ∉ (takeovers trace).map Prod.snd := by
    intro member
    obtain ⟨⟨userId, generalId⟩, earlier, rfl⟩ := List.mem_map.mp member
    obtain ⟨named, belongs⟩ := held.taken userId _ earlier
    have free := fair.free
    simp [General.isFreeNpc, belongs general fair.kept, named] at free
  refine ⟨?_, ?_, ?_, ?_, ?_⟩
  · -- The user's token is gone, and no other has changed.
    have within : ∀ holder listing, next.db.listings holder = some listing →
        server.db.listings holder = some listing := by
      intro holder listing listed
      obtain ⟨remaining, there, rfl⟩ := listings_eq_some.mp listed
      rw [taking.possessed.tokens, OrderedMap.get?_erase] at there
      split at there
      · cases there
      · exact listings_eq_some.mpr ⟨remaining, there, rfl⟩
    rw [taking.tick.2]
    exact (held.exclusive.later taking.tick.1).mono within
  · -- The user owned nothing before, so the new general is the only one.
    intro userId first second left right there also leftOwned rightOwned
    rw [rows] at there also
    by_cases firstTaken : first = request.generalId
    · by_cases secondTaken : second = request.generalId
      · exact firstTaken.trans secondTaken.symm
      · rw [if_pos firstTaken, Option.some.injEq] at there
        rw [if_neg secondTaken] at also
        subst there
        exact absurd (rightOwned.trans (leftOwned.symm.trans owned))
          (fair.ownsNothing second right (.inl also))
    · rw [if_neg firstTaken] at there
      by_cases secondTaken : second = request.generalId
      · rw [if_pos secondTaken, Option.some.injEq] at also
        subst also
        exact absurd (leftOwned.trans (rightOwned.symm.trans owned))
          (fair.ownsNothing first left (.inl there))
      · rw [if_neg secondTaken] at also
        exact held.owners userId first second left right there also leftOwned rightOwned
  · intro userId generalId taken
    rw [more, List.mem_append, List.mem_singleton, Prod.mk.injEq] at taken
    rcases taken with earlier | ⟨rfl, rfl⟩
    · obtain ⟨named, belongs⟩ := held.taken userId generalId earlier
      refine ⟨named, fun other there => ?_⟩
      have differs : generalId ≠ request.generalId := by
        rintro rfl
        exact untaken (List.mem_map_of_mem earlier)
      rw [rows, if_neg differs] at there
      exact belongs other there
    · refine ⟨request.userId.nonempty, fun other there => ?_⟩
      rw [rows, if_pos rfl, Option.some.injEq] at there
      exact there ▸ owned
  · rw [more, List.map_append, List.map_singleton, List.nodup_append]
    refine ⟨held.once, List.nodup_singleton _, ?_⟩
    rintro earlier member _ last rfl
    rw [List.mem_singleton] at last
    rw [last] at member
    exact untaken member
  · intro userId remaining remainingPicks id candidate there lists listed
    rw [refreshesSurvived_append, taking.uncounted]
    rw [taking.possessed.tokens, OrderedMap.get?_erase] at there
    split at there
    · cases there
    · exact held.counted userId remaining remainingPicks id candidate there lists listed

end Steps

/-- Before the first call nobody has a token, and no user owns two generals. -/
structure PossessionOpening (server : PossessionServer) : Prop where
  tokens : server.db.tokens = .empty
  owners : OwnersDistinct server.world

theorem PossessionInvariant.run {start server : PossessionServer}
    {trace : List (PossessionEvent × PossessionReply)} (opening : PossessionOpening start)
    (reached : (machine services).Run start trace server) : PossessionInvariant trace server := by
  have initial : PossessionInvariant [] start := by
    refine ⟨?_, opening.owners, by simp [takeovers], by simp [takeovers], ?_⟩
    · intro first second left right held
      simp [PossessionDatabase.listings, opening.tokens, OrderedMap.empty, OrderedMap.get?] at held
    · intro userId token picks id candidate stored
      simp [opening.tokens, OrderedMap.empty, OrderedMap.get?] at stored
  refine reached.invariant initial ?_
  intro past state event reply next held _ stepped
  rcases step_cases stepped with quiet | ⟨_, _, _, _, drawing⟩ | ⟨_, taking⟩
  · exact quiet.keeps held
  · exact drawing.keeps held
  · exact taking.keeps held

/-- What taking over generals guarantees in a state that a trace of calls has led to. -/
structure PossessionExclusive (services : SelectionServices)
    (trace : List (PossessionEvent × PossessionReply)) (server : PossessionServer) : Prop where
  /-- No general is listed in two tokens that are good at one tick. -/
  listedOnce : ∀ tick, server.tick ≤ tick → ∀ first second left right leftPicks rightPicks,
    server.db.tokens.get? first = some left → server.db.tokens.get? second = some right → first ≠ second →
    left.validAt tick = true → right.validAt tick = true → left.pickResult = some leftPicks →
    right.pickResult = some rightPicks → ∀ id ∈ leftPicks.keys, id ∉ rightPicks.keys
  /-- No user owns two generals. -/
  oneGeneral : OwnersDistinct server.world
  /-- No general has been taken over twice. -/
  oneOwner : ((takeovers trace).map Prod.snd).Nodup
  /-- The next takeover, if it succeeds, is of a general nobody owns, out of the token presented. -/
  fairTakeover : ∀ row request next generalId,
    step services server (.possess row request) = some (next, .possessed generalId) →
      generalId = request.generalId ∧ ∃ token picks stored general,
        Possessable server.db server.world request token picks stored general
  /-- No candidate has been carried over more than three times. -/
  keptThrice : ∀ userId token picks, server.db.tokens.get? userId = some token →
    token.pickResult = some picks → ∀ id ∈ picks.keys, refreshesSurvived userId id trace ≤ 3
  /-- The next token that is drawn lists all that is carried over, and enough of the free generals. -/
  filled : ∀ row request next reply kept,
    step services server (.reserve row request) = some (next, .reserved reply) → reply.kept = some kept →
      CarriesOver server.db request kept ∧ ∃ picks token,
        next.db.tokens.get? request.userId.text = some token ∧ token.pickResult = some picks ∧
        (∀ id candidate, kept.get? id = some candidate → picks.get? id = some candidate) ∧
        ∀ reserved, reservedIds server.db request.userId.text request.createdGameTick = .ok reserved →
          min 5 (freeGenerals server.db reserved).length ≤ picks.keys.length
  /-- A token that was not there before the next step is one that step draws. -/
  drawnAnew : ∀ event next reply, step services server event = some (next, reply) →
    ∀ userId token, next.db.tokens.get? userId = some token → server.db.tokens.get? userId = some token ∨
      ∃ row request shown, event = .reserve row request ∧ request.userId.text = userId ∧
        reply = .reserved shown ∧ shown.kept.isSome = true

variable {row : WorldStateRow}

theorem filled_of_reserved {server next : PossessionServer} {request : ReserveRequest} {reply : ReserveReply}
    {kept : NpcPossessionPickResult}
    (stepped : step services server (.reserve row request) = some (next, .reserved reply))
    (carried : reply.kept = some kept) :
    CarriesOver server.db request kept ∧ ∃ picks token, DrawnToken server.db next.db request kept picks token := by
  obtain ⟨_, outcome⟩ := answer_cases stepped
  rcases outcome with ⟨⟨shown, db⟩, answered, finished⟩ | ⟨failure, _, failed⟩
  · obtain ⟨rfl, same⟩ := Prod.mk.inj finished
    obtain rfl := PossessionReply.reserved.inj same
    rcases reserveNpcPossessionCandidates_ok answered with ⟨nothing, _⟩ |
      ⟨given, picks, token, given_eq, carries, drawn⟩
    · rw [nothing] at carried
      cases carried
    · obtain rfl := Option.some.inj (given_eq.symm.trans carried)
      exact ⟨carries, picks, token, drawn⟩
  · cases failed

theorem possessable_of_possessed {server next : PossessionServer} {request : PossessRequest} {generalId : Int}
    (stepped : step services server (.possess row request) = some (next, .possessed generalId)) :
    generalId = request.generalId ∧ ∃ token picks stored general,
      Possessable server.db server.world request token picks stored general := by
  obtain ⟨_, outcome⟩ := answer_cases stepped
  rcases outcome with ⟨⟨given, db, world⟩, answered, finished⟩ | ⟨failure, _, failed⟩
  · obtain ⟨rfl, same⟩ := Prod.mk.inj finished
    obtain rfl := PossessionReply.possessed.inj same
    obtain ⟨named, _, fair⟩ := possessNpcGeneral_ok answered
    exact ⟨named, fair⟩
  · cases failed

theorem drawn_of_new_token {server next : PossessionServer}
    (stepped : step services server event = some (next, reply)) {userId : String}
    (there : next.db.tokens.get? userId = some token) :
    server.db.tokens.get? userId = some token ∨
      ∃ row request shown, event = .reserve row request ∧ request.userId.text = userId ∧
        reply = .reserved shown ∧ shown.kept.isSome = true := by
  rcases step_cases stepped with quiet | ⟨request, kept, picks, drawnToken, drawing⟩ | ⟨request, taking⟩
  · exact .inl (quiet.tokens ▸ there)
  · rw [drawing.drawn.tokens] at there
    by_cases own : userId = request.userId.text
    · obtain ⟨row, shown, asked, carried⟩ := drawing.asked
      obtain ⟨rfl, rfl⟩ := Prod.mk.inj asked
      exact .inr ⟨row, request, shown, rfl, own.symm, rfl, by simp [carried]⟩
    · rw [if_neg own] at there
      exact .inl there
  · rw [taking.possessed.tokens, OrderedMap.get?_erase] at there
    split at there
    · cases there
    · exact .inl there

/--
Taking over generals is exclusive in every run.

Calls of any users are interleaved with each other, with deaths and with the daemon's writes, in any
order in which ticks never go back.
-/
theorem npc_possession_exclusive {services : SelectionServices} {start server : PossessionServer}
    {trace : List (PossessionEvent × PossessionReply)} (opening : PossessionOpening start)
    (reached : (machine services).Run start trace server) : PossessionExclusive services trace server := by
  have held := PossessionInvariant.run opening reached
  refine ⟨?_, held.owners, held.once, ?_, ?_, ?_, ?_⟩
  · intro tick later first second left right leftPicks rightPicks there also differs leftValid rightValid
      leftLists rightLists id listed shared
    -- Good listings of one item have one holder.
    have exclusive := held.exclusive.later later
    refine differs (exclusive first second _ _ (listings_eq_some.mpr ⟨left, there, rfl⟩)
      (listings_eq_some.mpr ⟨right, also, rfl⟩) (validAt_listing.mpr leftValid)
      (validAt_listing.mpr rightValid) id ?_ ?_)
    · simpa [leftLists] using listed
    · simpa [rightLists] using shared
  · intro row request next generalId stepped
    exact possessable_of_possessed stepped
  · intro userId token picks stored lists id listed
    obtain ⟨candidate, found⟩ := Option.isSome_iff_exists.mp (OrderedMap.mem_keys.mp listed)
    have counted := held.counted userId token picks id candidate stored lists found
    have limit : keepCountLimit = 3 := rfl
    omega
  · intro row request next reply kept stepped carried
    obtain ⟨carries, picks, token, drawn⟩ := filled_of_reserved stepped carried
    refine ⟨carries, picks, token, ?_, drawn.lists, drawn.keeps, fun reserved read => ?_⟩
    · rw [drawn.tokens, if_pos rfl]
    · have enough := drawn.enough reserved read
      have limit : maxPickCount = 5 := rfl
      omega
  · intro event next reply stepped userId token there
    exact drawn_of_new_token stepped there

/-- A general run by the computer. -/
def wanderingGeneral : General where
  name := "관우"
  nationId := 0
  cityId := 1
  troopId := 0
  leadership := 95
  strength := 97
  intelligence := 75
  experience := 0
  dedication := 0
  officerLevel := 0
  injury := 0
  gold := 1000
  rice := 1000
  crew := 0
  crewTypeId := 1100
  train := 0
  atmos := 0
  age := 30
  npcState := 2
  role := []
  triggerState := []
  metadata := [("killturn", .num 60)]
  turnTime := 0
  turnTick := some 0
  recentWarTime := none
  recentWarTick := none
  columns := []

/-- A server with two generals that may be taken over. -/
def possessionStart : PossessionServer where
  world := { InMemoryTurnWorld.opening.toTurnWorld with
    generals := .clean ((OrderedMap.empty.set 7 wanderingGeneral).set 9 wanderingGeneral) }
  db :=
    { generals := (OrderedMap.empty.set 7 wanderingGeneral).set 9 wanderingGeneral
      nations := .empty, tokens := .empty, inFlight := [], accessLogs := .empty }
  tick := 0

/-- A generator that first gives zero and then one, and powers that are not needed to be exact. -/
def possessionServices : SelectionServices where
  nextFloat1 := fun _ attempt => if attempt = 0 then 0 else 1
  nextInt := fun _ _ _ => 0
  pow := fun base _ => base
  trait := fun _ _ => none
  personalityKeys := []
  isoString := fun _ => ""
  parseDate := fun _ => none
  josaPick := fun _ particle => particle

/-- The world row of a server on which generals may be taken over. -/
def possessionRow : WorldStateRow where
  config := [("npcMode", .num 1), ("turnTermMinutes", .num 60)]
  metadata := [("hiddenSeed", .str "secret")]
  tickSeconds := 3600
  currentYear := 180
  currentMonth := 1

/-- The first user. -/
def firstPlayer : UserId := ⟨"a", by decide⟩

/-- The second user. -/
def secondPlayer : UserId := ⟨"b", by decide⟩

/-- One user draws two candidates and takes one of them over, and another user finds no good token. -/
def possessionEvents : List PossessionEvent :=
  [.reserve possessionRow ⟨firstPlayer, .text "a", false, [], 0, 10, 5, 2⟩,
    .possess possessionRow ⟨firstPlayer, "甲", "che", none, 9, 5, 1000, 20⟩, .flush,
    .possess possessionRow ⟨secondPlayer, "乙", "che", none, 7, 5, 2000, 30⟩]

/-- The takeover is a run, and it is exclusive. -/
theorem npc_possession_exclusive_once :
    PossessionOpening possessionStart ∧ ∃ server trace,
      (machine possessionServices).Run possessionStart trace server ∧ takeovers trace = [("a", 9)] ∧
      PossessionExclusive possessionServices trace server := by
  have opening : PossessionOpening possessionStart := by
    refine ⟨rfl, ?_⟩
    intro userId first second left right there also leftOwned
    -- Nobody owns a general yet.
    have listed := OrderedMap.mem_entries.mpr there
    have unowned : ∀ entry ∈ possessionStart.world.generals.rows.entries, entry.2.userId? = none := by
      decide
    rw [unowned (first, left) listed] at leftOwned
    cases leftOwned
  have replayed : ((machine possessionServices).replay possessionStart possessionEvents).map
      (fun reached => takeovers reached.2) = some [("a", 9)] := by
    decide +kernel
  obtain ⟨⟨server, trace⟩, replay, taken⟩ := Option.map_eq_some_iff.mp replayed
  have run := StateMachine.run_of_replay replay
  exact ⟨opening, server, trace, run, taken, npc_possession_exclusive opening run⟩

end Sammo
