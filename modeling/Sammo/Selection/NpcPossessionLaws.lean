import Sammo.Data.JsonPatchLaws
import Sammo.Selection.NpcPossession
import Sammo.World.References

/-! What a successful request for candidates and a successful takeover do. -/

namespace Sammo

theorem except_bind_eq_ok {ε α β : Type} {first : Except ε α} {next : α → Except ε β} {result : β} :
    (first >>= next) = .ok result ↔ ∃ value, first = .ok value ∧ next value = .ok result := by
  cases first with
  | error error => simp [Bind.bind, Except.bind]
  | ok value => simp [Bind.bind, Except.bind]

theorem except_unless_eq_ok {ε β : Type} {refused : Prop} [Decidable refused] {error : ε}
    {next : PUnit → Except ε β} {result : β}
    (done : (if refused then (.error error : Except ε PUnit) >>= next else next ⟨⟩) = .ok result) :
    ¬ refused ∧ next ⟨⟩ = .ok result := by
  split at done
  · cases done
  · rename_i passed
    exact ⟨passed, done⟩

theorem keepCandidate_get? (oldPick kept : NpcPossessionPickResult) (keepId id : Int) :
    (keepCandidate oldPick kept keepId).get? id =
      if id = keepId then (carriedCandidate oldPick id).or (kept.get? id) else kept.get? id := by
  unfold keepCandidate
  cases carried : carriedCandidate oldPick keepId with
  | none =>
    by_cases named : id = keepId
    · subst named
      simp [carried]
    · simp [named]
  | some candidate =>
    by_cases named : id = keepId
    · subst named
      simp [carried]
    · simp [named]

theorem keptCandidates_get? (oldPick : NpcPossessionPickResult) (keepIds : List Int) (id : Int) :
    (keptCandidates oldPick keepIds).get? id = if id ∈ keepIds then carriedCandidate oldPick id else none := by
  -- The induction adds one wish at a time to whatever is kept already.
  suffices general : ∀ kept : NpcPossessionPickResult, (keepIds.foldl (keepCandidate oldPick) kept).get? id =
      ((if id ∈ keepIds then carriedCandidate oldPick id else none).or (kept.get? id)) by
    rw [keptCandidates, general]
    simp [OrderedMap.empty, OrderedMap.get?]
  induction keepIds with
  | nil => simp
  | cons wish rest ih =>
    intro kept
    rw [List.foldl_cons, ih, keepCandidate_get?]
    by_cases now : id = wish
    · by_cases again : id ∈ rest
      · -- A wish made twice is granted the same way twice.
        subst now
        cases carriedCandidate oldPick id <;> simp [again]
      · subst now
        simp [again]
    · simp [now]

/-- What a draw leaves: all that was there, and enough of it; the rest are candidates. -/
structure FilledUp (candidates : List NpcPossessionCandidate) (pickLimit : Nat)
    (picked result : NpcPossessionPickResult) : Prop where
  keeps : ∀ id candidate, picked.get? id = some candidate → result.get? id = some candidate
  drawn : ∀ id candidate, result.get? id = some candidate →
    picked.get? id = some candidate ∨ candidate ∈ candidates ∧ candidate.id = id
  enough : pickLimit ≤ result.keys.length

theorem drawCandidates_ok {draw : Nat → Except String Int} {candidates : List NpcPossessionCandidate}
    {pickLimit draws attempt : Nat} {picked result : NpcPossessionPickResult}
    (drawn : drawCandidates draw candidates pickLimit draws attempt picked = .ok result) :
    FilledUp candidates pickLimit picked result := by
  -- The induction is on the draws that are left.
  induction draws generalizing attempt picked with
  | zero =>
    rw [drawCandidates] at drawn
    split at drawn
    · cases drawn
    · rename_i full
      obtain rfl := Except.ok.inj drawn
      exact ⟨fun _ _ held => held, fun _ _ held => .inl held, by omega⟩
  | succ draws ih =>
    rw [drawCandidates] at drawn
    split at drawn
    · cases selected : draw attempt with
      | error message => simp [selected] at drawn
      | ok selectedId =>
        simp only [selected] at drawn
        split at drawn
        · -- A candidate drawn twice is passed over.
          exact ih drawn
        · rename_i new
          cases found : candidates.find? fun candidate => candidate.id = selectedId with
          | none => simp [found] at drawn
          | some candidate =>
            simp only [found] at drawn
            have filled := ih drawn
            have named : candidate.id = selectedId := by simpa using List.find?_some found
            have listed : candidate ∈ candidates := List.mem_of_find?_eq_some found
            refine ⟨?_, ?_, filled.enough⟩
            · intro id old held
              apply filled.keeps
              have differs : id ≠ selectedId := by
                rintro rfl
                exact new (by simp [OrderedMap.has, held])
              simpa [differs] using held
            · intro id other held
              rcases filled.drawn id other held with before | fresh
              · by_cases same : id = selectedId
                · subst same
                  simp only [OrderedMap.get?_set, if_true, Option.some.injEq] at before
                  subst before
                  exact .inr ⟨listed, named⟩
                · exact .inl (by simpa [same] using before)
              · exact .inr fresh
    · rename_i full
      obtain rfl := Except.ok.inj drawn
      exact ⟨fun _ _ held => held, fun _ _ held => .inl held, by omega⟩

theorem mem_of_mapM_ok {ε α β : Type} {compute : α → Except ε β} {items : List α} {results : List β}
    (computed : items.mapM compute = .ok results) {item : α} (member : item ∈ items) :
    ∃ result ∈ results, compute item = .ok result := by
  induction items generalizing results with
  | nil => simp at member
  | cons first rest ih =>
    rw [List.mapM_cons] at computed
    obtain ⟨head, computedHead, computed⟩ := except_bind_eq_ok.mp computed
    obtain ⟨tail, computedTail, computed⟩ := except_bind_eq_ok.mp computed
    obtain rfl := Except.ok.inj computed
    rcases List.mem_cons.mp member with rfl | later
    · exact ⟨head, List.mem_cons_self, computedHead⟩
    · obtain ⟨result, listed, given⟩ := ih computedTail later
      exact ⟨result, List.mem_cons_of_mem _ listed, given⟩

variable {db : PossessionDatabase} {token : NpcSelectionToken} {picks : NpcPossessionPickResult}
  {next : PossessionDatabase} {row : WorldStateRow} {services : SelectionServices} {request : ReserveRequest}
  {kept : NpcPossessionPickResult} {reply : ReserveReply} {general : General}

theorem mem_reservedIds {userId other : String} {tick : Int} {reserved : List Int}
    (read : reservedIds db userId tick = .ok reserved) (stored : db.tokens.get? other = some token)
    (differs : other ≠ userId) (valid : token.validAt tick = true) (lists : token.pickResult = some picks)
    {id : Int} (listed : id ∈ picks.keys) : id ∈ reserved := by
  obtain ⟨all, parsed, given⟩ := except_bind_eq_ok.mp read
  obtain rfl := Except.ok.inj given
  -- The token's row is among those whose candidates are read.
  have member : (other, token) ∈ db.tokens.entries.filter fun row => row.1 ≠ userId ∧ row.2.validAt tick := by
    simp [OrderedMap.mem_entries.mpr stored, differs, valid]
  obtain ⟨result, among, own⟩ := mem_of_mapM_ok parsed member
  simp only [parsePickResult, lists] at own
  obtain rfl := Except.ok.inj own
  exact List.mem_flatMap.mpr ⟨picks, among, listed⟩

/-- A token drawn for a request: what it lists, and where it is stored. -/
structure DrawnToken (db next : PossessionDatabase) (request : ReserveRequest) (kept : NpcPossessionPickResult)
    (picks : NpcPossessionPickResult) (token : NpcSelectionToken) : Prop where
  generals : next.generals = db.generals
  tokens : ∀ holder, next.tokens.get? holder =
    if holder = request.userId.text then some token else db.tokens.get? holder
  lists : token.pickResult = some picks
  keeps : ∀ id candidate, kept.get? id = some candidate → picks.get? id = some candidate
  readable : ∃ reserved, reservedIds db request.userId.text request.createdGameTick = .ok reserved
  /-- What was not kept is a fresh candidate that no other good token lists. -/
  fresh : ∀ id candidate, picks.get? id = some candidate → kept.get? id = some candidate ∨
    candidate.keepCount = keepCountLimit ∧ ∀ reserved,
      reservedIds db request.userId.text request.createdGameTick = .ok reserved → id ∉ reserved
  enough : ∀ reserved, reservedIds db request.userId.text request.createdGameTick = .ok reserved →
    min (freeGenerals db reserved).length maxPickCount ≤ picks.keys.length

theorem drawToken_ok {existing : Option NpcSelectionToken} {ticksPerSecond : ℚ}
    (drawn : drawToken services db row request existing kept ticksPerSecond = .ok (reply, next)) :
    reply.kept = some kept ∧ ∃ picks token, DrawnToken db next request kept picks token := by
  obtain ⟨reserved, read, drawn⟩ := except_bind_eq_ok.mp drawn
  obtain ⟨seed, _, drawn⟩ := except_bind_eq_ok.mp drawn
  obtain ⟨picks, chosen, drawn⟩ := except_bind_eq_ok.mp drawn
  have filled := drawCandidates_ok chosen
  -- Whatever is stored around them, the candidates are those that were drawn.
  have described {token : NpcSelectionToken} (stored : next =
      { db with tokens := db.tokens.set request.userId.text token }) (lists : token.pickResult = some picks) :
      DrawnToken db next request kept picks token := by
    refine ⟨by rw [stored], fun holder => by rw [stored]; exact OrderedMap.get?_set _ _ _ _, lists,
      filled.keeps, ⟨reserved, read⟩, ?_, ?_⟩
    · intro id candidate held
      refine (filled.drawn id candidate held).imp_right ?_
      rintro ⟨listed, named⟩
      obtain ⟨entry, free, rfl⟩ := List.mem_map.mp listed
      refine ⟨rfl, fun given again => ?_⟩
      obtain rfl := Except.ok.inj (read.symm.trans again)
      have unreserved : entry.1 ∉ reserved := by
        simp only [freeGenerals, List.mem_insertionSort, List.mem_filter, decide_eq_true_eq] at free
        exact free.2.2.2
      rw [← named]
      exact unreserved
    · intro given again
      obtain rfl := Except.ok.inj (read.symm.trans again)
      simpa using filled.enough
  cases existing with
  | some old =>
    simp only at drawn
    split at drawn
    · obtain ⟨reservation, _, given⟩ := except_bind_eq_ok.mp drawn
      obtain ⟨rfl, rfl⟩ := Prod.mk.inj (Except.ok.inj given)
      exact ⟨rfl, picks, _, described rfl rfl⟩
    · cases drawn
  | none =>
    simp only at drawn
    split at drawn
    · cases drawn
    · obtain ⟨reservation, _, given⟩ := except_bind_eq_ok.mp drawn
      obtain ⟨rfl, rfl⟩ := Prod.mk.inj (Except.ok.inj given)
      exact ⟨rfl, picks, _, described rfl rfl⟩

theorem reservedIds_erase (db : PossessionDatabase) (userId : String) (tick : Int) :
    reservedIds { db with tokens := db.tokens.erase userId } userId tick = reservedIds db userId tick := by
  -- The row that is gone would have been passed over.
  have same : (db.tokens.erase userId).entries.filter (fun row => row.1 ≠ userId ∧ row.2.validAt tick) =
      db.tokens.entries.filter fun row => row.1 ≠ userId ∧ row.2.validAt tick := by
    simp only [OrderedMap.erase, List.filter_filter]
    refine List.filter_congr fun row _ => ?_
    by_cases own : row.1 = userId <;> simp [own]
  simp only [reservedIds, same]

theorem DrawnToken.of_erased
    (drawn : DrawnToken { db with tokens := db.tokens.erase request.userId.text } next request kept picks token) :
    DrawnToken db next request kept picks token := by
  have same := reservedIds_erase db request.userId.text request.createdGameTick
  refine ⟨drawn.generals, fun holder => ?_, drawn.lists, drawn.keeps, same ▸ drawn.readable, ?_, ?_⟩
  · rw [drawn.tokens holder]
    by_cases own : holder = request.userId.text <;> simp [own]
  · intro id candidate held
    have fresh := drawn.fresh id candidate held
    rw [same] at fresh
    exact fresh
  · have enough := drawn.enough
    rw [same] at enough
    exact enough

/-- What a draw carries over: nothing without a good token, and on a refresh what the player keeps. -/
inductive CarriesOver (db : PossessionDatabase) (request : ReserveRequest) : NpcPossessionPickResult → Prop
  | nothing : CarriesOver db request .empty
  | kept {old : NpcSelectionToken} {oldPick : NpcPossessionPickResult}
      (stored : db.tokens.get? request.userId.text = some old)
      (valid : old.validAt request.createdGameTick = true) (lists : old.pickResult = some oldPick) :
      CarriesOver db request (keptCandidates oldPick request.keepIds)

theorem reserveNpcPossessionCandidates_ok
    (answered : reserveNpcPossessionCandidates services db row request = .ok (reply, next)) :
    reply.kept = none ∧ next = db ∨
      ∃ kept picks token, reply.kept = some kept ∧ CarriesOver db request kept ∧
        DrawnToken db next request kept picks token := by
  obtain ⟨_, _, answered⟩ := except_bind_eq_ok.mp answered
  obtain ⟨_, answered⟩ := except_unless_eq_ok answered
  obtain ⟨_, answered⟩ := except_unless_eq_ok answered
  -- Showing a token that is there changes nothing.
  have shown {token : NpcSelectionToken} {ticksPerSecond : ℚ}
      (given : (do let reservation ← toReservation token request.createdGameTick ticksPerSecond
                   .ok (⟨reservation, none⟩, db)) = Except.ok (ε := NpcPossessionFailure) (reply, next)) :
      reply.kept = none ∧ next = db := by
    obtain ⟨reservation, _, given⟩ := except_bind_eq_ok.mp given
    obtain ⟨rfl, rfl⟩ := Prod.mk.inj (Except.ok.inj given)
    exact ⟨rfl, rfl⟩
  dsimp only at answered
  split at answered
  · -- The user's takeover is in flight.
    split at answered
    · cases answered
    · obtain ⟨_, answered⟩ := except_unless_eq_ok answered
      exact .inl (shown answered)
  · split at answered
    · -- The user has no token.
      obtain ⟨carried, picks, token, drawn⟩ := drawToken_ok answered
      exact .inr ⟨_, picks, token, carried, .nothing, drawn⟩
    · rename_i old stored
      split at answered
      · -- The user's token has run out.
        obtain ⟨carried, picks, token, drawn⟩ := drawToken_ok answered
        exact .inr ⟨_, picks, token, carried, .nothing, drawn.of_erased⟩
      · rename_i valid
        split at answered
        · obtain ⟨_, answered⟩ := except_unless_eq_ok answered
          obtain ⟨oldPick, parsed, answered⟩ := except_bind_eq_ok.mp answered
          have lists : old.pickResult = some oldPick := by
            unfold parsePickResult at parsed
            split at parsed
            · rename_i same
              rw [same, Except.ok.inj parsed]
            · cases parsed
          split at answered
          · exact .inl (shown answered)
          · obtain ⟨carried, picks, token, drawn⟩ := drawToken_ok answered
            exact .inr ⟨_, picks, token, carried, .kept stored (by simpa using valid) lists, drawn⟩
        · exact .inl (shown answered)

/-- What speaks for a takeover: the user's token lists the general, and nobody owns it. -/
structure Possessable (db : PossessionDatabase) (world : TurnWorld) (request : PossessRequest)
    (token : NpcSelectionToken) (picks : NpcPossessionPickResult) (stored general : General) : Prop where
  /-- The user owns no general yet, in memory or in the tables. -/
  ownsNothing : ∀ id own, world.generals.rows.get? id = some own ∨ db.generals.get? id = some own →
    own.userId? ≠ some request.userId.text
  presented : db.tokens.get? request.userId.text = some token
  nonce : token.nonce = request.tokenNonce
  valid : token.validAt request.processingGameTick = true
  lists : token.pickResult = some picks
  listed : request.generalId ∈ picks.keys
  found : db.generals.get? request.generalId = some stored
  unowned : stored.userId? = none ∧ stored.npcState = 2
  kept : world.generals.rows.get? request.generalId = some general
  free : general.isFreeNpc = true

theorem checkPossession_ok {world : TurnWorld} {request : PossessRequest} {picked : NpcPossessionCandidate}
    (checked : checkPossession db world row request = .ok (picked, general)) :
    ∃ token picks stored, Possessable db world request token picks stored general := by
  unfold checkPossession at checked
  dsimp only at checked
  obtain ⟨_, checked⟩ := except_unless_eq_ok checked
  obtain ⟨_, _, checked⟩ := except_bind_eq_ok.mp checked
  obtain ⟨nobody, checked⟩ := except_unless_eq_ok checked
  split at checked
  · cases checked
  · rename_i token presented
    obtain ⟨picks, parsed, checked⟩ := except_bind_eq_ok.mp checked
    have lists : token.pickResult = some picks := by
      unfold parsePickResult at parsed
      split at parsed
      · rename_i same
        rw [same, Except.ok.inj parsed]
      · cases parsed
    split at checked
    · cases checked
    · rename_i chosen listed
      obtain ⟨_, checked⟩ := except_unless_eq_ok checked
      split at checked
      · rename_i stored general found kept
        split at checked
        · rename_i fair
          obtain ⟨rfl, rfl⟩ := Prod.mk.inj (Except.ok.inj checked)
          rw [presentedToken, Option.filter_eq_some_iff] at presented
          obtain ⟨held, matching⟩ := presented
          simp only [decide_eq_true_eq] at matching
          refine ⟨token, picks, stored, ?_, held, matching.1, matching.2, lists, ?_, found,
            ⟨fair.1, fair.2.1⟩, kept, fair.2.2⟩
          · -- Owning one would have been noticed among the entries.
            intro id own there owned
            apply nobody
            rcases there with inMemory | inTable
            · refine .inl (List.any_eq_true.mpr ⟨(id, own), OrderedMap.mem_entries.mpr inMemory, ?_⟩)
              simp [owned]
            · refine .inr (List.any_eq_true.mpr ⟨(id, own), OrderedMap.mem_entries.mpr inTable, ?_⟩)
              simp [owned]
          · rw [OrderedMap.mem_keys, OrderedMap.has, listed]
            rfl
        · cases checked
      · cases checked

theorem normalizeGeneralClock_columns {clock : GameClock} {next : General}
    (normalized : normalizeGeneralClock clock general = .ok next) : next.columns = general.columns := by
  simp only [normalizeGeneralClock, Bind.bind, Except.bind] at normalized
  -- Each conversion either fails or leaves the rest of the general alone.
  repeat' split at normalized
  all_goals first
    | cases normalized
      done
    | rw [← Except.ok.inj normalized]

theorem updateGeneral_rows {world next : TurnWorld} {id : Int} {patch : GeneralPatch} {updated : Option General}
    (kept : world.generals.rows.get? id = some general)
    (performed : (TurnWorld.updateGeneral id patch).perform world = (.ok updated, next)) :
    ∃ result, normalizeGeneralClock world.state.clock (applyGeneralPatch general patch) = .ok result ∧
      ∀ other, next.generals.rows.get? other =
        if other = id then some result else world.generals.rows.get? other := by
  simp only [TurnWorld.updateGeneral, Effect.perform_bind, Effect.perform_get, kept,
    Effect.perform_ofExcept] at performed
  cases normalized : normalizeGeneralClock world.state.clock (applyGeneralPatch general patch) with
  | error message => simp [normalized] at performed
  | ok result =>
    simp only [normalized, Effect.perform_modify, Effect.perform_pure] at performed
    obtain ⟨_, rfl⟩ := Prod.mk.inj performed
    exact ⟨result, rfl, fun other => OrderedMap.get?_set _ _ _ _⟩

theorem pushLogs_generals {generals : WriteBehind Int General} (logs : List LogEntryDraft) :
    Effect.Ensures (fun world : TurnWorld => world.generals = generals)
      (logs.forM fun log => TurnWorld.pushLog log none) fun _ world => world.generals = generals :=
  Effect.Ensures.forM fun _ _ => Effect.Ensures.modify fun _ same => same

theorem possessionPatch_userId (row : WorldStateRow) (request : PossessRequest) {clock : GameClock}
    {result : General} (normalized : normalizeGeneralClock clock
      (applyGeneralPatch general (possessionPatch row request general)) = .ok result) :
    result.userId? = some request.userId.text := by
  have columns := normalizeGeneralClock_columns normalized
  -- The penalty is written after the owner, and does not hide it.
  have written : result.columns.get? "userId" = some (.str request.userId.text) := by
    rw [columns]
    simp only [applyGeneralPatch, normalizeGeneralDatabaseIntegers, possessionPatch, Record.merge,
      List.foldl_cons, List.foldl_nil]
    rw [Record.get?_set_of_ne _ (by decide), Record.get?_set_self]
  simp [General.userId?, written, Json.string?]

/-- What a takeover leaves: the general has its owner, the token is gone, and all else is as before. -/
structure Possessed (db next : PossessionDatabase) (world after : TurnWorld) (request : PossessRequest) :
    Prop where
  generals : next.generals = db.generals
  tokens : next.tokens = db.tokens.erase request.userId.text
  owned : ∃ result, result.userId? = some request.userId.text ∧
    ∀ other, after.generals.rows.get? other =
      if other = request.generalId then some result else world.generals.rows.get? other

theorem possessNpcGeneral_ok {world after : TurnWorld} {request : PossessRequest} {generalId : Int}
    (taken : possessNpcGeneral services db world row request = .ok (generalId, next, after)) :
    generalId = request.generalId ∧ Possessed db next world after request ∧
      ∃ token picks stored general, Possessable db world request token picks stored general := by
  obtain ⟨⟨picked, general⟩, checked, taken⟩ := except_bind_eq_ok.mp taken
  obtain ⟨token, picks, stored, fair⟩ := checkPossession_ok checked
  dsimp only at taken
  split at taken
  · cases taken
  · rename_i final performed
    obtain ⟨rfl, rest⟩ := Prod.mk.inj (Except.ok.inj taken)
    obtain ⟨rfl, rfl⟩ := Prod.mk.inj rest
    refine ⟨rfl, ⟨rfl, rfl, ?_⟩, token, picks, stored, general, fair⟩
    rw [Effect.perform_bind] at performed
    cases patched : (TurnWorld.updateGeneral request.generalId
        (possessionPatch row request general)).perform world with
    | mk result middle =>
      cases result with
      | error message => simp [patched] at performed
      | ok updated =>
        simp only [patched] at performed
        obtain ⟨owned, normalized, rows⟩ := updateGeneral_rows fair.kept patched
        have same := pushLogs_generals _ middle rfl _ _ performed
        refine ⟨owned, possessionPatch_userId row request normalized, fun other => ?_⟩
        rw [same]
        exact rows other

end Sammo
