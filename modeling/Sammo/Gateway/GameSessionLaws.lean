import Mathlib.Algebra.Order.Ring.Nat
import Sammo.Gateway.GameSessions

/-! Every game session is found through the index of its session, so that a revocation leaves none behind. -/

namespace Sammo.GameSessions

variable {config : GatewaySessionConfig} {store next : Store} {token : String} {key : GameKey}

theorem Expiring.live_eq_some {α : Type} {now : Nat} {stored : Option (Expiring α)} {entry : Expiring α} :
    live now stored = some entry ↔ stored = some entry ∧ now ≤ entry.expiresAt := by
  simp [live, Option.filter_eq_some_iff]

namespace Store

theorem mem_entries : key ∈ store.entries token ↔
    ∃ index, store.sessionGames token = some index ∧ store.now ≤ index.expiresAt ∧ key ∈ index.value := by
  unfold entries
  cases found : Expiring.live store.now (store.sessionGames token) with
  | none =>
    refine ⟨fun member => absurd member List.not_mem_nil, ?_⟩
    rintro ⟨index, stored, current, -⟩
    cases found.symm.trans (Expiring.live_eq_some.mpr ⟨stored, current⟩)
  | some index =>
    obtain ⟨stored, current⟩ := Expiring.live_eq_some.mp found
    refine ⟨fun member => ⟨index, stored, current, member⟩, ?_⟩
    rintro ⟨_, again, -, member⟩
    cases stored.symm.trans again
    exact member

theorem entries_cases (store : Store) (token : String) : store.entries token = [] ∨
    ∃ index, store.sessionGames token = some index ∧ store.now ≤ index.expiresAt ∧
      store.entries token = index.value := by
  unfold entries
  cases found : Expiring.live store.now (store.sessionGames token) with
  | none => exact .inl rfl
  | some index => exact .inr ⟨index, (Expiring.live_eq_some.mp found).1, (Expiring.live_eq_some.mp found).2, rfl⟩

theorem getGameSession_eq_some {info : GameSessionInfo} : store.getGameSession key = some info ↔
    ∃ stored, store.gameSessions key = some stored ∧ store.now ≤ stored.expiresAt ∧ stored.value = info := by
  simp only [getGameSession, Option.map_eq_some_iff, Expiring.live_eq_some, and_assoc]

theorem sessions_of_parentTtl (positive : store.parentTtl token ≠ 0) :
    ∃ stored, store.sessions token = some stored := by
  unfold parentTtl at positive
  split at positive
  · rename_i stored found
    exact ⟨stored, (Expiring.live_eq_some.mp found).1⟩
  · exact absurd rfl positive

/-- The indexes hold every game session that is left, each in the index of its own session. -/
structure Tracked (config : GatewaySessionConfig) (store : Store) : Prop where
  indexed : ∀ key stored, store.gameSessions key = some stored → store.now ≤ stored.expiresAt →
    ∃ index, store.sessionGames stored.value.sessionToken = some index ∧ key ∈ index.value ∧
      stored.expiresAt ≤ index.expiresAt
  timely : ∀ key stored, store.gameSessions key = some stored →
    stored.expiresAt ≤ store.now + config.gameSessionTtlSeconds * 1000
  distinct : ∀ token index, store.sessionGames token = some index → index.value.Nodup
  few : ∀ token index, store.sessionGames token = some index → index.value.length ≤ maxGameSessionsPerSession
  owned : ∀ token index key stored, store.sessionGames token = some index → key ∈ index.value →
    store.gameSessions key = some stored → stored.value.sessionToken = token
  drawn : ∀ token index key, store.sessionGames token = some index → key ∈ index.value →
    key.gameToken ∈ store.gameTokens
  issued : ∀ key stored, store.gameSessions key = some stored → key.gameToken ∈ store.gameTokens
  known : ∀ token stored, store.sessions token = some stored → token ∈ store.sessionTokens
  named : ∀ token index, store.sessionGames token = some index → token ∈ store.sessionTokens

theorem tracked_empty : Tracked config empty where
  indexed key stored found := by cases found
  timely key stored found := by cases found
  distinct token index found := by cases found
  few token index found := by cases found
  owned token index key stored found := by cases found
  drawn token index key found := by cases found
  issued key stored found := by cases found
  known token stored found := by cases found
  named token index found := by cases found

namespace Tracked

theorem nodup_entries (tracked : store.Tracked config) (token : String) : (store.entries token).Nodup := by
  obtain none_ | ⟨index, found, -, same⟩ := store.entries_cases token
  · exact none_ ▸ List.nodup_nil
  · exact same ▸ tracked.distinct token index found

theorem length_entries (tracked : store.Tracked config) (token : String) :
    (store.entries token).length ≤ maxGameSessionsPerSession := by
  obtain none_ | ⟨index, found, -, same⟩ := store.entries_cases token
  · exact none_ ▸ Nat.zero_le _
  · exact same ▸ tracked.few token index found

theorem mem_entries (tracked : store.Tracked config) {info : GameSessionInfo}
    (found : store.getGameSession key = some info) : key ∈ store.entries info.sessionToken := by
  obtain ⟨stored, present, current, rfl⟩ := getGameSession_eq_some.mp found
  obtain ⟨index, entered, member, longer⟩ := tracked.indexed key stored present current
  exact Store.mem_entries.mpr ⟨index, entered, Nat.le_trans current longer, member⟩

theorem tick (tracked : store.Tracked config) (elapsed : Nat) :
    ({ store with now := store.now + elapsed } : Store).Tracked config :=
  { tracked with
    indexed := fun key stored found current =>
      tracked.indexed key stored found (Nat.le_trans (Nat.le_add_right _ _) current)
    timely := fun key stored found => by have := tracked.timely key stored found; dsimp only; omega }

theorem createSession (tracked : store.Tracked config) (stored : Expiring GatewaySessionInfo) :
    ({ store with sessions := Function.update store.sessions token (some stored)
                  sessionTokens := token :: store.sessionTokens } : Store).Tracked config :=
  { tracked with
    known := fun other found present => by
      by_cases same : other = token
      · exact same ▸ List.mem_cons_self
      · simp only [Function.update_of_ne same] at present
        exact List.mem_cons_of_mem _ (tracked.known other found present)
    named := fun other index found => List.mem_cons_of_mem _ (tracked.named other index found) }

theorem delete (tracked : store.Tracked config) (token : String) (popped : List GameKey) :
    ({ store with
        sessions := Function.update store.sessions token none
        gameSessions := fun key => if key ∈ popped then none else store.gameSessions key } : Store).Tracked
      config := by
  have kept {key : GameKey} {stored : Expiring GameSessionInfo}
      (found : (if key ∈ popped then none else store.gameSessions key) = some stored) :
      store.gameSessions key = some stored := by
    split at found
    · cases found
    · exact found
  exact
  { tracked with
    indexed := fun key stored found => tracked.indexed key stored (kept found)
    timely := fun key stored found => tracked.timely key stored (kept found)
    owned := fun token index key stored entered member found =>
      tracked.owned token index key stored entered member (kept found)
    issued := fun key stored found => tracked.issued key stored (kept found)
    known := fun other stored found => by
      by_cases same : other = token
      · simp [same] at found
      · simp only [Function.update_of_ne same] at found
        exact tracked.known other stored found }

theorem setEntries (tracked : store.Tracked config) {members : List GameKey}
    (part : members.Sublist (store.entries token)) (keeps : ∀ key info, store.getGameSession key = some info →
      info.sessionToken = token → key ∈ members) : (store.setEntries token members).Tracked config := by
  -- An index afterwards is one of before with some of its entries.
  have shrunk {other : String} {index : Expiring (List GameKey)}
      (found : (store.setEntries token members).sessionGames other = some index) :
      ∃ before, store.sessionGames other = some before ∧ index.value.Sublist before.value := by
    simp only [Store.setEntries, Function.update_apply] at found
    split at found
    · rename_i same
      subst same
      split at found
      · cases found
      · obtain ⟨before, stored, rfl⟩ := Option.map_eq_some_iff.mp found
        have live := Expiring.live_eq_some.mp stored
        refine ⟨before, live.1, ?_⟩
        simpa [Store.entries, stored] using part
    · exact ⟨index, found, .refl _⟩
  constructor
  case timely => exact tracked.timely
  case issued => exact tracked.issued
  case known => exact tracked.known
  case distinct =>
    intro other index found
    obtain ⟨before, stored, part⟩ := shrunk found
    exact part.nodup (tracked.distinct other before stored)
  case few =>
    intro other index found
    obtain ⟨before, stored, part⟩ := shrunk found
    exact Nat.le_trans part.length_le (tracked.few other before stored)
  case owned =>
    intro other index key game found member
    obtain ⟨before, stored, part⟩ := shrunk found
    exact tracked.owned other before key game stored (part.subset member)
  case drawn =>
    intro other index key found member
    obtain ⟨before, stored, part⟩ := shrunk found
    exact tracked.drawn other before key stored (part.subset member)
  case named =>
    intro other index found
    obtain ⟨before, stored, -⟩ := shrunk found
    exact tracked.named other before stored
  case indexed =>
    intro key game found current
    obtain ⟨index, stored, member, longer⟩ := tracked.indexed key game found current
    simp only [Store.setEntries, Function.update_apply]
    split
    · rename_i same
      -- The game session is one of the members, so the index is not empty and keeps its time.
      have kept : key ∈ members := keeps key _ (getGameSession_eq_some.mpr ⟨game, found, current, rfl⟩) same
      rw [if_neg (by simpa using List.ne_nil_of_mem kept)]
      have live : Expiring.live store.now (store.sessionGames token) = some index :=
        Expiring.live_eq_some.mpr ⟨same ▸ stored, Nat.le_trans current longer⟩
      exact ⟨{ index with value := members }, by rw [live]; rfl, kept, longer⟩
    · exact ⟨index, stored, member, longer⟩

theorem put (tracked : store.Tracked config) {info : GameSessionInfo}
    (fresh : ∀ key, key.gameToken = info.gameToken → store.gameSessions key = none ∧
      ∀ token index, store.sessionGames token = some index → key ∉ index.value)
    (drawn : info.gameToken ∈ store.gameTokens) (parent : info.sessionToken ∈ store.sessionTokens)
    (room : (store.entries info.sessionToken).length < maxGameSessionsPerSession) :
    (store.put config.gameSessionTtlSeconds info).Tracked config := by
  set key : GameKey := ⟨info.profile, info.gameToken⟩ with isKey
  obtain ⟨unused, unlisted⟩ := fresh key rfl
  have new : key ∉ store.entries info.sessionToken := by
    intro member
    obtain ⟨index, found, -, listed⟩ := Store.mem_entries.mp member
    exact unlisted _ index found listed
  have entered : (store.entries info.sessionToken).insert key = key :: store.entries info.sessionToken :=
    List.insert_of_not_mem new
  -- Each stored game session is the new one or one of before, and so is each index.
  have games {other : GameKey} {stored : Expiring GameSessionInfo}
      (found : (store.put config.gameSessionTtlSeconds info).gameSessions other = some stored) :
      (other = key ∧ stored = ⟨info, store.now + config.gameSessionTtlSeconds * 1000⟩) ∨
        (other ≠ key ∧ store.gameSessions other = some stored) := by
    simp only [Store.put, Function.update_apply] at found
    split at found
    · exact .inl ⟨‹_›, (Option.some.inj found).symm⟩
    · exact .inr ⟨‹_›, found⟩
  have indexes {other : String} {index : Expiring (List GameKey)}
      (found : (store.put config.gameSessionTtlSeconds info).sessionGames other = some index) :
      (other = info.sessionToken ∧ index.value = key :: store.entries info.sessionToken) ∨
        store.sessionGames other = some index := by
    simp only [Store.put, Function.update_apply] at found
    split at found
    · cases found
      exact .inl ⟨‹_›, entered⟩
    · exact .inr found
  constructor
  case indexed =>
    intro other stored found current
    simp only [Store.put, Function.update_apply]
    obtain ⟨rfl, rfl⟩ | ⟨-, before⟩ := games found
    · rw [if_pos rfl, ← isKey, entered]
      exact ⟨_, rfl, List.mem_cons_self, by dsimp only; omega⟩
    · obtain ⟨index, had, member, longer⟩ := tracked.indexed other stored before current
      split
      · rename_i same
        rw [← isKey, entered]
        have listed : other ∈ store.entries info.sessionToken :=
          Store.mem_entries.mpr ⟨index, same ▸ had, Nat.le_trans current longer, member⟩
        have timely := tracked.timely other stored before
        exact ⟨_, rfl, List.mem_cons_of_mem _ listed, by dsimp only; omega⟩
      · exact ⟨index, had, member, longer⟩
  case timely =>
    intro other stored found
    obtain ⟨-, rfl⟩ | ⟨-, before⟩ := games found
    · exact Nat.le_refl _
    · exact tracked.timely other stored before
  case distinct =>
    intro other index found
    obtain ⟨-, value⟩ | before := indexes found
    · exact value ▸ List.nodup_cons.mpr ⟨new, tracked.nodup_entries _⟩
    · exact tracked.distinct other index before
  case few =>
    intro other index found
    obtain ⟨-, value⟩ | before := indexes found
    · rw [value]
      exact room
    · exact tracked.few other index before
  case owned =>
    intro other index entry stored found member present
    obtain ⟨rfl, rfl⟩ | ⟨different, had⟩ := games present
    · obtain ⟨rfl, -⟩ | before := indexes found
      · rfl
      · exact absurd member (unlisted other index before)
    · obtain ⟨rfl, value⟩ | before := indexes found
      · rw [value] at member
        obtain rfl | member := List.mem_cons.mp member
        · exact absurd rfl different
        · obtain ⟨index, stored', -, listed⟩ := Store.mem_entries.mp member
          exact tracked.owned _ index entry stored stored' listed had
      · exact tracked.owned other index entry stored before member had
  case drawn =>
    intro other index entry found member
    obtain ⟨-, value⟩ | before := indexes found
    · rw [value] at member
      obtain rfl | member := List.mem_cons.mp member
      · exact drawn
      · obtain ⟨index, stored, -, listed⟩ := Store.mem_entries.mp member
        exact tracked.drawn _ index entry stored listed
    · exact tracked.drawn other index entry before member
  case issued =>
    intro other stored found
    obtain ⟨rfl, -⟩ | ⟨-, before⟩ := games found
    · exact drawn
    · exact tracked.issued other stored before
  case known => exact tracked.known
  case named =>
    intro other index found
    obtain ⟨rfl, -⟩ | before := indexes found
    · exact parent
    · exact tracked.named other index before

end Tracked

theorem entries_setEntries {members : List GameKey} (part : members.Sublist (store.entries token)) (other : String) :
    (store.setEntries token members).entries other = if other = token then members else store.entries other := by
  unfold entries at *
  simp only [setEntries, Function.update_apply]
  split
  · cases live : Expiring.live store.now (store.sessionGames token) with
    | none =>
      -- There was nothing to keep.
      rw [live] at part
      cases List.eq_nil_of_sublist_nil part
      rfl
    | some index =>
      have current := (Expiring.live_eq_some.mp live).2
      split
      · rename_i empty
        exact (List.isEmpty_iff.mp empty).symm
      · have kept : Expiring.live store.now (some (⟨members, index.expiresAt⟩ : Expiring (List GameKey))) =
            some ⟨members, index.expiresAt⟩ := Expiring.live_eq_some.mpr ⟨rfl, current⟩
        rw [Option.map_some, kept]
        rfl
  · rfl

theorem removeEnded_sublist : ((store.entries token).filter fun entry => (store.getGameSession entry).isSome).Sublist
    (store.entries token) := List.filter_sublist

theorem Tracked.removeEnded (tracked : store.Tracked config) (token : String) :
    (store.removeEnded token).Tracked config := by
  refine tracked.setEntries removeEnded_sublist ?_
  rintro key info found rfl
  exact List.mem_filter.mpr ⟨tracked.mem_entries found, by rw [found]; rfl⟩

theorem createGameSession_cases {gameTtlSeconds : Nat} {creation : Creation} {info : GameSessionInfo}
    {result : Admission} (ran : store.createGameSession gameTtlSeconds creation info = (next, result)) :
    (next = store ∧ result = .noSession) ∨
    ((next = store ∨ next = store.removeEnded creation.sessionToken) ∧ result = .limitReached) ∨
    (store.parentTtl creation.sessionToken ≠ 0 ∧
      ((store.removeEnded creation.sessionToken).entries creation.sessionToken).length < maxGameSessionsPerSession ∧
      next = (store.removeEnded creation.sessionToken).put gameTtlSeconds info ∧ result = .created info) := by
  unfold createGameSession at ran
  split at ran
  · cases ran
    exact .inl ⟨rfl, rfl⟩
  · rename_i open_
    split at ran
    · cases ran
      exact .inr (.inl ⟨.inl rfl, rfl⟩)
    · dsimp only at ran
      split at ran
      · cases ran
        exact .inr (.inl ⟨.inr rfl, rfl⟩)
      · rename_i room
        cases ran
        exact .inr (.inr ⟨fun over_ => open_ (.inl over_), Nat.lt_of_not_le room, rfl, rfl⟩)

theorem create_cases {call : Nat} {gameToken issuedAt : String} {output : Output}
    (stepped : step config store (.create call gameToken issuedAt) = some (next, output)) :
    ∃ creation admitted result, gameToken ∉ store.gameTokens ∧ store.creations call = some creation ∧
      store.createGameSession config.gameSessionTtlSeconds creation (.of creation gameToken issuedAt) =
        (admitted, result) ∧
      next = { admitted with
        gameTokens := gameToken :: store.gameTokens, creations := Function.update store.creations call none } ∧
      output = .admission result := by
  simp only [step] at stepped
  split at stepped
  · cases stepped
  · rename_i unused
    split at stepped
    · cases stepped
    · rename_i creation found
      cases stepped
      exact ⟨creation, _, _, unused, found, rfl, rfl, rfl⟩

theorem Tracked.step (tracked : store.Tracked config) {event : Event} {output : Output}
    (stepped : Store.step config store event = some (next, output)) : next.Tracked config := by
  cases event with
  | tick elapsed =>
    cases stepped
    exact tracked.tick elapsed
  | createSession token user issuedAt =>
    simp only [Store.step] at stepped
    split at stepped
    · cases stepped
    · cases stepped
      exact tracked.createSession _
  | revokeSession token =>
    cases stepped
    simpa using tracked.delete token []
  | revokeBatch token popped =>
    simp only [Store.step] at stepped
    split at stepped
    · cases stepped
      refine (tracked.delete token popped).setEntries List.filter_sublist ?_
      rintro key info found rfl
      -- A game session that is left has not been popped.
      obtain ⟨stored, present, current, rfl⟩ := getGameSession_eq_some.mp found
      dsimp only at present
      split at present
      · cases present
      · rename_i unpopped
        exact List.mem_filter.mpr ⟨tracked.mem_entries (getGameSession_eq_some.mpr ⟨stored, present, current, rfl⟩),
          by simpa using unpopped⟩
    · cases stepped
  | readSession call token profile =>
    simp only [Store.step] at stepped
    split at stepped
    · cases stepped
    · split at stepped
      · cases stepped
        exact tracked
      · cases stepped
        exact { tracked with }
  | create call gameToken issuedAt =>
    obtain ⟨creation, admitted, result, unused, found, ran, rfl, rfl⟩ := create_cases stepped
    have more {store : Store} (tracked : store.Tracked config) (creations : Nat → Option Creation) :
        ({ store with gameTokens := gameToken :: store.gameTokens, creations } : Store).Tracked config :=
      { tracked with
        drawn := fun token index key stored member =>
          List.mem_cons_of_mem _ (tracked.drawn token index key stored member)
        issued := fun key stored present => List.mem_cons_of_mem _ (tracked.issued key stored present) }
    obtain ⟨rfl, rfl⟩ | ⟨rfl | rfl, rfl⟩ | ⟨alive, room, rfl, rfl⟩ := createGameSession_cases ran
    · exact more tracked _
    · exact more tracked _
    · exact more (tracked.removeEnded _) _
    · have cleaned := tracked.removeEnded creation.sessionToken
      obtain ⟨parent, present⟩ := sessions_of_parentTtl alive
      refine (more cleaned (Function.update store.creations call none)).put ?_ List.mem_cons_self
        (tracked.known _ parent present) room
      -- The token has not been drawn before, so no key has it.
      intro key same
      have unused : key.gameToken ∉ store.gameTokens := same ▸ unused
      refine ⟨?_, fun other index entered member => unused (cleaned.drawn other index key entered member)⟩
      cases had : store.gameSessions key with
      | none => exact had
      | some stored => exact absurd (tracked.issued key stored had) unused

/-- A session that has been opened and is gone. -/
structure Closed (token : String) (store : Store) : Prop where
  drawn : token ∈ store.sessionTokens
  absent : store.sessions token = none

/-- How many entries of a session a turn of a revocation takes. -/
def taken (token : String) : Event × Output → Nat
  | (.revokeBatch other _, .count entries) => if other = token then entries else 0
  | _ => 0

theorem Closed.parentTtl_eq (closed : store.Closed token) : store.parentTtl token = 0 := by
  simp [parentTtl, closed.absent, Expiring.live]

theorem length_entries_tick (elapsed : Nat) :
    (({ store with now := store.now + elapsed } : Store).entries token).length ≤ (store.entries token).length := by
  obtain none_ | ⟨index, found, current, same⟩ :=
    ({ store with now := store.now + elapsed } : Store).entries_cases token
  · rw [none_]
    exact Nat.zero_le _
  · have live : Expiring.live store.now (store.sessionGames token) = some index :=
      Expiring.live_eq_some.mpr ⟨found, Nat.le_trans (Nat.le_add_right _ _) current⟩
    rw [same, entries, live]
    exact Nat.le_refl _

theorem entries_revoked (popped : List GameKey) (other : String) :
    (store.revokeGameSessionBatch token popped).entries other =
      if other = token then (store.entries token).filter fun entry => entry ∉ popped else store.entries other :=
  entries_setEntries List.filter_sublist other

theorem length_entries_revoked (tracked : store.Tracked config) {popped : List GameKey}
    (pops : store.Pops token popped) :
    ((store.revokeGameSessionBatch token popped).entries token).length + popped.length =
      (store.entries token).length := by
  obtain ⟨distinct, entered, -⟩ := pops
  have same : ((store.entries token).filter fun entry => entry ∈ popped).Perm popped := by
    rw [List.perm_ext_iff_of_nodup ((tracked.nodup_entries token).filter _) distinct]
    intro key
    simpa using entered key
  have split_ := (List.filter_append_perm (fun entry => decide (entry ∈ popped)) (store.entries token)).length_eq
  have rest : (store.entries token).filter (fun entry => !decide (entry ∈ popped)) =
      (store.entries token).filter fun entry => entry ∉ popped := List.filter_congr fun entry _ => by simp
  rw [List.length_append, same.length_eq, rest] at split_
  rw [entries_revoked, if_pos rfl, ← split_, Nat.add_comm]

theorem Closed.step (closed : store.Closed token) (tracked : store.Tracked config) {event : Event} {output : Output}
    (stepped : Store.step config store event = some (next, output)) :
    next.Closed token ∧ (next.entries token).length + taken token (event, output) ≤ (store.entries token).length ∧
      ∀ info, output = .admission (.created info) → info.sessionToken ≠ token := by
  cases event with
  | tick elapsed =>
    cases stepped
    exact ⟨⟨closed.drawn, closed.absent⟩, length_entries_tick elapsed, fun info made => by cases made⟩
  | createSession other user issuedAt =>
    simp only [Store.step] at stepped
    split at stepped
    · cases stepped
    · rename_i new
      cases stepped
      have different : token ≠ other := fun same => new (same ▸ closed.drawn)
      exact ⟨⟨List.mem_cons_of_mem _ closed.drawn, by simpa [different] using closed.absent⟩, Nat.le_refl _,
        fun info made => by cases made⟩
  | revokeSession other =>
    cases stepped
    refine ⟨⟨closed.drawn, ?_⟩, Nat.le_refl _, fun info made => by cases made⟩
    simp only [Function.update_apply]
    split
    · rfl
    · exact closed.absent
  | revokeBatch other popped =>
    simp only [Store.step] at stepped
    split at stepped
    · rename_i pops
      cases stepped
      refine ⟨⟨closed.drawn, ?_⟩, ?_, fun info made => by cases made⟩
      · simp only [revokeGameSessionBatch, Function.update_apply]
        split
        · rfl
        · exact closed.absent
      · by_cases same : other = token
        · subst same
          simpa [taken] using Nat.le_of_eq (length_entries_revoked tracked pops)
        · rw [entries_revoked, if_neg (Ne.symm same)]
          simp [taken, same]
    · cases stepped
  | readSession call other profile =>
    simp only [Store.step] at stepped
    split at stepped
    · cases stepped
    · split at stepped
      · cases stepped
        exact ⟨closed, Nat.le_refl _, fun info made => by cases made⟩
      · cases stepped
        exact ⟨⟨closed.drawn, closed.absent⟩, Nat.le_refl _, fun info made => by cases made⟩
  | create call gameToken issuedAt =>
    obtain ⟨creation, admitted, result, -, -, ran, rfl, rfl⟩ := create_cases stepped
    have removed (different : creation.sessionToken ≠ token) :
        (store.removeEnded creation.sessionToken).entries token = store.entries token := by
      rw [removeEnded, entries_setEntries removeEnded_sublist, if_neg (Ne.symm different)]
    obtain ⟨rfl, rfl⟩ | ⟨rfl | rfl, rfl⟩ | ⟨alive, -, rfl, rfl⟩ := createGameSession_cases ran
    · exact ⟨⟨closed.drawn, closed.absent⟩, Nat.le_refl _, fun info made => by cases made⟩
    · exact ⟨⟨closed.drawn, closed.absent⟩, Nat.le_refl _, fun info made => by cases made⟩
    · refine ⟨⟨closed.drawn, closed.absent⟩, ?_, fun info made => by cases made⟩
      show ((store.removeEnded creation.sessionToken).entries token).length ≤ _
      rw [removeEnded, entries_setEntries removeEnded_sublist]
      split
      · rename_i same
        exact same ▸ List.length_filter_le _ _
      · exact Nat.le_refl _
    · -- The session of the creation is there, so it is another one.
      have different : creation.sessionToken ≠ token := fun same => alive (same ▸ closed.parentTtl_eq)
      refine ⟨⟨closed.drawn, closed.absent⟩, ?_, ?_⟩
      · have unmoved : ((store.removeEnded creation.sessionToken).put config.gameSessionTtlSeconds
            (.of creation gameToken issuedAt)).sessionGames token =
            (store.removeEnded creation.sessionToken).sessionGames token :=
          Function.update_of_ne (Ne.symm different) _ _
        show (((Expiring.live store.now _).map _).getD []).length ≤ _
        rw [unmoved]
        exact Nat.le_of_eq (congrArg List.length (removed different))
      · rintro info ⟨⟩
        exact different

/-- A trace tells that a session has been opened for an account. -/
def Opened (trace : List (Event × Output)) (token : String) (session : GatewaySessionInfo) : Prop :=
  ∃ user opened, (Event.createSession token user opened, Output.session (some session)) ∈ trace ∧
    session = .of token user opened

theorem Opened.later {trace : List (Event × Output)} {session : GatewaySessionInfo}
    (opened : Opened trace token session) (last : Event × Output) : Opened (trace ++ [last]) token session := by
  obtain ⟨user, at_, member, same⟩ := opened
  exact ⟨user, at_, List.mem_append_left _ member, same⟩

/-- A game session is one under an opened session. -/
def Under (trace : List (Event × Output)) (key : GameKey) (info : GameSessionInfo) : Prop :=
  ∃ session, Opened trace info.sessionToken session ∧
    info = .of ⟨info.sessionToken, key.profile, session⟩ key.gameToken info.issuedAt

/-- Everything in the store goes back to the opening of a session. -/
structure Attributed (trace : List (Event × Output)) (store : Store) : Prop where
  session : ∀ token stored, store.sessions token = some stored → Opened trace token stored.value
  creation : ∀ call creation, store.creations call = some creation →
    Opened trace creation.sessionToken creation.session
  game : ∀ key stored, store.gameSessions key = some stored → Under trace key stored.value

theorem Attributed.later {trace : List (Event × Output)} (attributed : store.Attributed trace)
    (last : Event × Output) : store.Attributed (trace ++ [last]) where
  session token stored found := (attributed.session token stored found).later last
  creation call creation found := (attributed.creation call creation found).later last
  game key stored found := by
    obtain ⟨session, opened, same⟩ := attributed.game key stored found
    exact ⟨session, opened.later last, same⟩

theorem update_none_some {ι α : Type} [DecidableEq ι] {values : ι → Option α} {removed index : ι} {value : α}
    (found : Function.update values removed none index = some value) : values index = some value := by
  rw [Function.update_apply] at found
  split at found
  · cases found
  · exact found

theorem Attributed.step {trace : List (Event × Output)} (attributed : store.Attributed trace) {event : Event}
    {output : Output} (stepped : Store.step config store event = some (next, output)) :
    next.Attributed (trace ++ [(event, output)]) := by
  have later := attributed.later (event, output)
  cases event with
  | tick elapsed =>
    cases stepped
    exact { later with }
  | createSession token user issuedAt =>
    simp only [Store.step] at stepped
    split at stepped
    · cases stepped
    · cases stepped
      refine { later with session := fun other stored found => ?_ }
      simp only [Function.update_apply] at found
      split at found
      · rename_i itself
        cases found
        exact itself ▸ ⟨user, issuedAt, List.mem_append_right _ List.mem_cons_self, rfl⟩
      · exact later.session other stored found
  | revokeSession token =>
    cases stepped
    exact { later with session := fun other stored found => later.session other stored (update_none_some found) }
  | revokeBatch token popped =>
    simp only [Store.step] at stepped
    split at stepped
    · cases stepped
      refine { later with
        session := fun other stored found => later.session other stored (update_none_some found)
        game := fun key stored found => ?_ }
      simp only [revokeGameSessionBatch] at found
      split at found
      · cases found
      · exact later.game key stored found
    · cases stepped
  | readSession call token profile =>
    simp only [Store.step] at stepped
    split at stepped
    · cases stepped
    · split at stepped
      · cases stepped
        exact later
      · rename_i session found
        cases stepped
        refine { later with creation := fun other creation present => ?_ }
        simp only [Function.update_apply] at present
        split at present
        · cases present
          obtain ⟨stored, live, rfl⟩ := Option.map_eq_some_iff.mp found
          exact later.session token stored (Expiring.live_eq_some.mp live).1
        · exact later.creation other creation present
  | create call gameToken issuedAt =>
    obtain ⟨creation, admitted, result, -, found, ran, rfl, rfl⟩ := create_cases stepped
    have creations (other : Nat) (kept : Creation)
        (present : Function.update store.creations call none other = some kept) :=
      later.creation other kept (update_none_some present)
    obtain ⟨rfl, rfl⟩ | ⟨rfl | rfl, rfl⟩ | ⟨-, -, rfl, rfl⟩ := createGameSession_cases ran
    · exact { later with creation := creations }
    · exact { later with creation := creations }
    · exact { later with creation := creations }
    · refine { later with creation := creations, game := fun key stored present => ?_ }
      simp only [put, Function.update_apply] at present
      split at present
      · rename_i itself
        cases present
        exact itself ▸ ⟨creation.session, later.creation call creation found, rfl⟩
      · exact later.game key stored present

variable {trace first second : List (Event × Output)} {final : Store} {popped : List GameKey} {count : Nat}

theorem invariants_of_run (run : (machine config).Run empty trace final) :
    final.Tracked config ∧ final.Attributed trace := by
  have attributed : empty.Attributed [] :=
    ⟨fun _ _ found => (by cases found), fun _ _ found => (by cases found), fun _ _ found => (by cases found)⟩
  let Sound (trace : List (Event × Output)) (store : Store) : Prop := store.Tracked config ∧ store.Attributed trace
  have sound : Sound trace final := by
    refine run.invariant (And.intro tracked_empty attributed) ?_
    intro past state event output next held _ stepped
    exact ⟨held.1.step stepped, held.2.step stepped⟩
  exact sound

theorem drawn_of_run (run : (machine config).Run empty trace final) {user : UserRecord} {opened : String}
    {output : Output} (created : (Event.createSession token user opened, output) ∈ trace) :
    token ∈ final.sessionTokens := by
  obtain ⟨first, second, rfl⟩ := List.append_of_mem created
  obtain ⟨before, after, -, -, stepped, rest⟩ := run.split_at
  -- The token is drawn here, and no token is forgotten.
  let Drawn (store : Store) : Prop := token ∈ store.sessionTokens
  have drawn : Drawn final := by
    refine rest.stateInvariant ?_ ?_
    · simp only [machine, step] at stepped
      split at stepped
      · cases stepped
      · cases stepped
        exact List.mem_cons_self
    · intro state event output next held _ stepped
      cases event with
      | create call gameToken issuedAt =>
        obtain ⟨creation, admitted, result, -, -, ran, rfl, -⟩ := create_cases stepped
        obtain ⟨rfl, -⟩ | ⟨rfl | rfl, -⟩ | ⟨-, -, rfl, -⟩ := createGameSession_cases ran
        all_goals exact held
      | _ =>
        simp only [machine, step] at stepped
        repeat' split at stepped
        all_goals cases stepped
        all_goals first | exact held | exact List.mem_cons_of_mem _ held
  exact drawn

theorem closed_of_taken {event : Event} {output : Output} (tracked : store.Tracked config)
    (stepped : Store.step config store event = some (next, output)) (some_ : 0 < taken token (event, output)) :
    next.Closed token ∧ (next.entries token).length + taken token (event, output) = (store.entries token).length := by
  unfold taken at some_
  split at some_
  · rename_i other popped count isEvent
    cases isEvent
    split at some_
    · rename_i same
      subst same
      simp only [step] at stepped
      split at stepped
      · rename_i pops
        cases stepped
        have whole := length_entries_revoked tracked pops
        obtain none_ | ⟨index, found, -, -⟩ := store.entries_cases other
        · rw [none_, List.length_nil] at whole
          omega
        · exact ⟨⟨tracked.named other index found, Function.update_self ..⟩, by simpa [taken] using whole⟩
      · cases stepped
    · exact absurd some_ (Nat.lt_irrefl 0)
  · exact absurd some_ (Nat.lt_irrefl 0)

theorem taken_of_run (token : String) (run : (machine config).Run empty trace final) :
    (trace.map (taken token)).sum + (final.entries token).length ≤ maxGameSessionsPerSession := by
  let Fits (trace : List (Event × Output)) (store : Store) : Prop := store.Tracked config ∧
    (trace.map (taken token)).sum + (store.entries token).length ≤ maxGameSessionsPerSession ∧
    (0 < (trace.map (taken token)).sum → store.Closed token)
  have fits : Fits trace final := by
    refine run.invariant (And.intro tracked_empty ?_) ?_
    · exact ⟨Nat.zero_le _, fun some_ => absurd some_ (Nat.lt_irrefl 0)⟩
    · rintro past state event output next ⟨tracked, fitted, closes⟩ - stepped
      refine ⟨tracked.step stepped, ?_⟩
      rw [List.map_append, List.sum_append, List.map_singleton, List.sum_singleton]
      have bound := tracked.length_entries token
      rcases Nat.eq_zero_or_pos (past.map (taken token)).sum with none_ | some_
      · rcases Nat.eq_zero_or_pos (taken token (event, output)) with nothing | something
        · have after := (tracked.step stepped).length_entries token
          exact ⟨by omega, fun positive => by omega⟩
        · obtain ⟨closed, whole⟩ := closed_of_taken tracked stepped something
          exact ⟨by omega, fun _ => closed⟩
      · obtain ⟨closed, shrinks, -⟩ := (closes some_).step tracked stepped
        exact ⟨by omega, fun _ => closed⟩
  exact fits.2.1

theorem nothing_left (run : (machine config).Run empty
      (first ++ (.revokeBatch token popped, .count count) :: second) final)
    {user : UserRecord} {opened : String} {output : Output}
    (created : (Event.createSession token user opened, output) ∈ first) (ends : count < revocationBatch) :
    final.Closed token ∧ final.entries token = [] ∧ ∀ call gameToken issuedAt info,
      (Event.create call gameToken issuedAt, Output.admission (.created info)) ∈ second → info.sessionToken ≠ token := by
  obtain ⟨before, after, upTo, -, stepped, rest⟩ := run.split_at
  have tracked := (invariants_of_run upTo).1
  have trackedAfter := tracked.step (show step config before (.revokeBatch token popped) = _ from stepped)
  have drawn := drawn_of_run upTo created
  simp only [machine, step] at stepped
  split at stepped
  · rename_i pops
    cases stepped
    have whole := length_entries_revoked tracked pops
    have size := pops.2.2
    -- Fewer than a batch were popped, so all were.
    have none_ : ((before.revokeGameSessionBatch token popped).entries token).length = 0 := by omega
    let Left (past : List (Event × Output)) (store : Store) : Prop := store.Tracked config ∧ store.Closed token ∧
      (store.entries token).length = 0 ∧ ∀ call gameToken issuedAt info,
        (Event.create call gameToken issuedAt, Output.admission (.created info)) ∈ past → info.sessionToken ≠ token
    have left : Left second final := by
      refine rest.invariant (And.intro trackedAfter ⟨⟨drawn, Function.update_self ..⟩, none_, ?_⟩) ?_
      · intro call gameToken issuedAt info member
        exact (List.not_mem_nil member).elim
      · rintro past state event output next ⟨tracked, closed, nothing, refused⟩ - stepped
        obtain ⟨still, shrinks, others⟩ := closed.step tracked stepped
        refine ⟨tracked.step stepped, still, by omega, ?_⟩
        intro call gameToken issuedAt info member
        obtain member | last := List.mem_append.mp member
        · exact refused call gameToken issuedAt info member
        · exact others info (congrArg Prod.snd (List.mem_singleton.mp last)).symm
    exact ⟨left.2.1, List.length_eq_zero_iff.mp left.2.2.1, left.2.2.2⟩
  · cases stepped

/--
Every game session that is left is found through the session that it was issued under and belongs to its account.

A session never has more than its share of them, and its revocations take no more than that all together.
When the loop of a revocation ends, none of them is left or will be made, also by a creation under way,
and those of the other sessions stay.
-/
theorem game_sessions_tracked (run : (machine config).Run empty trace final) :
    (∀ key info, final.getGameSession key = some info →
      key ∈ final.entries info.sessionToken ∧ Under trace key info) ∧
    (∀ token, ∀ keys : List GameKey, keys.Nodup →
      (∀ key ∈ keys, ∃ info, final.getGameSession key = some info ∧ info.sessionToken = token) →
      keys.length ≤ maxGameSessionsPerSession) ∧
    (∀ token, (trace.map (taken token)).sum ≤ maxGameSessionsPerSession) ∧
    (∀ token first second user opened output popped count,
      trace = first ++ (.revokeBatch token popped, .count count) :: second →
      (Event.createSession token user opened, output) ∈ first → count < revocationBatch →
      final.getSession token = none ∧ (∀ key info, final.getGameSession key = some info → info.sessionToken ≠ token) ∧
        ∀ call gameToken issuedAt info,
          (Event.create call gameToken issuedAt, Output.admission (.created info)) ∈ second →
          info.sessionToken ≠ token) ∧
    ∀ token popped next output, step config final (.revokeBatch token popped) = some (next, output) →
      ∀ key info, final.getGameSession key = some info → info.sessionToken ≠ token →
        next.getGameSession key = some info := by
  obtain ⟨tracked, attributed⟩ := invariants_of_run run
  refine ⟨?_, ?_, ?_, ?_, ?_⟩
  · intro key info found
    obtain ⟨stored, present, -, rfl⟩ := getGameSession_eq_some.mp found
    exact ⟨tracked.mem_entries found, attributed.game key stored present⟩
  · intro token keys distinct live
    have entered : keys ⊆ final.entries token := by
      intro key member
      obtain ⟨info, found, rfl⟩ := live key member
      exact tracked.mem_entries found
    exact Nat.le_trans (List.Nodup.length_le_of_subset distinct entered) (tracked.length_entries token)
  · intro token
    exact Nat.le_trans (Nat.le_add_right _ _) (taken_of_run token run)
  · rintro token first second user opened output popped count rfl created ends
    obtain ⟨closed, none_, refused⟩ := nothing_left run created ends
    refine ⟨by simp [getSession, closed.absent, Expiring.live], ?_, refused⟩
    rintro key info found rfl
    exact (List.not_mem_nil (none_ ▸ tracked.mem_entries found)).elim
  · intro token popped next output stepped key info found different
    simp only [step] at stepped
    split at stepped
    · rename_i pops
      cases stepped
      obtain ⟨stored, present, current, rfl⟩ := getGameSession_eq_some.mp found
      refine getGameSession_eq_some.mpr ⟨stored, ?_, current, rfl⟩
      simp only [revokeGameSessionBatch]
      -- A popped key is in the index of the session that is revoked, and so are only its own game sessions.
      rw [if_neg fun member => ?_, present]
      obtain ⟨index, entered, -, listed⟩ := Store.mem_entries.mp (pops.2.1 key member)
      exact different (tracked.owned token index key stored entered listed present)
    · cases stepped

/-- A login at the gateway, a game session under it, its logout, and a creation that comes too late. -/
def logoutEvents : List Event :=
  [.createSession "s" ⟨"u", "user", "User", [], "", "", none, none⟩ "now", .readSession 0 "s" "che",
    .readSession 1 "s" "che", .create 0 "g" "now", .tick 5, .revokeBatch "s" [⟨"che", "g"⟩], .create 1 "h" "later"]

theorem game_sessions_tracked_logout : ∃ final trace,
    (machine ⟨600, 300⟩).replay empty logoutEvents = some (final, trace) ∧ final.getGameSession ⟨"che", "g"⟩ = none ∧
      (trace.map (taken "s")).sum ≤ maxGameSessionsPerSession := by
  obtain ⟨final, trace, replayed, gone⟩ : ∃ final trace,
      (machine ⟨600, 300⟩).replay empty logoutEvents = some (final, trace) ∧
        final.getGameSession ⟨"che", "g"⟩ = none := ⟨_, _, rfl, rfl⟩
  exact ⟨final, trace, replayed, gone, (game_sessions_tracked (StateMachine.run_of_replay replayed)).2.2.1 "s"⟩

end Store

end Sammo.GameSessions
