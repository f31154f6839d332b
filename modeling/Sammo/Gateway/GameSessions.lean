import Mathlib.Logic.Function.Basic
import Sammo.Lib.StateMachine

/-! The sessions of the gateway and the game sessions issued under them, as they are kept in Redis. -/

namespace Sammo.GameSessions

/-- What a session takes over from the account it belongs to; the sanctions are the text they are stored as. -/
structure UserRecord where
  id : String
  username : String
  displayName : String
  roles : List String
  sanctions : String
  createdAt : String
  authRevision : Option Nat
  legacyMemberNo : Option Nat
  deriving DecidableEq

/-- A login at the gateway. -/
structure GatewaySessionInfo where
  sessionToken : String
  userId : String
  username : String
  displayName : String
  roles : List String
  sanctions : String
  createdAt : String
  issuedAt : String
  authRevision : Option Nat
  legacyMemberNo : Option Nat
  deriving DecidableEq

/-- A login at one game server, issued under a login at the gateway. -/
structure GameSessionInfo where
  profile : String
  gameToken : String
  sessionToken : String
  userId : String
  username : String
  displayName : String
  roles : List String
  sanctions : String
  createdAt : String
  issuedAt : String
  authRevision : Option Nat
  legacyMemberNo : Option Nat
  deriving DecidableEq

/-- The key of a game session, without the prefix that all keys of its kind share. -/
structure GameKey where
  profile : String
  gameToken : String
  deriving DecidableEq

/-- How many game sessions one login may have. -/
def maxGameSessionsPerSession : Nat := 256

/-- How many entries one batch of a revocation takes. -/
def revocationBatch : Nat := 64

/-- How long the two kinds of sessions last, in seconds. -/
structure GatewaySessionConfig where
  sessionTtlSeconds : Nat
  gameSessionTtlSeconds : Nat

/-- A stored value with the time in milliseconds after which it is gone. -/
structure Expiring (α : Type) where
  value : α
  expiresAt : Nat

/-- A stored value, unless its time is over. -/
def Expiring.live {α : Type} (now : Nat) (stored : Option (Expiring α)) : Option (Expiring α) :=
  stored.filter fun entry => now ≤ entry.expiresAt

/-- A creation whose session has been read but whose script has not been run. -/
structure Creation where
  sessionToken : String
  profile : String
  session : GatewaySessionInfo

/-- The keys of the store, the clock, the tokens drawn so far, and the creations under way. -/
structure Store where
  now : Nat
  sessions : String → Option (Expiring GatewaySessionInfo)
  gameSessions : GameKey → Option (Expiring GameSessionInfo)
  sessionGames : String → Option (Expiring (List GameKey))
  sessionTokens : List String
  gameTokens : List String
  creations : Nat → Option Creation

/-- What a creation of a game session ends with. -/
inductive Admission where
  | created (info : GameSessionInfo)
  | noSession
  | limitReached

/-- What happens to the store. -/
inductive Event where
  | tick (elapsed : Nat)
  | createSession (sessionToken : String) (user : UserRecord) (issuedAt : String)
  /-- A revocation that leaves the game sessions alone. -/
  | revokeSession (sessionToken : String)
  /-- One turn of the loop of a revocation, with the entries that are popped. -/
  | revokeBatch (sessionToken : String) (entries : List GameKey)
  /-- The first half of a creation, before its script. -/
  | readSession (call : Nat) (sessionToken profile : String)
  | create (call : Nat) (gameToken issuedAt : String)

/-- What an event is answered with. -/
inductive Output where
  | done
  | session (found : Option GatewaySessionInfo)
  | count (entries : Nat)
  | admission (result : Admission)

/-- A new session of an account. -/
def GatewaySessionInfo.of (sessionToken : String) (user : UserRecord) (issuedAt : String) : GatewaySessionInfo :=
  { sessionToken, userId := user.id, username := user.username, displayName := user.displayName, roles := user.roles
    sanctions := user.sanctions, createdAt := user.createdAt, issuedAt
    authRevision := some (user.authRevision.getD 0), legacyMemberNo := user.legacyMemberNo }

/-- A new game session under a session. -/
def GameSessionInfo.of (creation : Creation) (gameToken issuedAt : String) : GameSessionInfo :=
  let session := creation.session
  { profile := creation.profile, gameToken, sessionToken := creation.sessionToken, userId := session.userId
    username := session.username, displayName := session.displayName, roles := session.roles
    sanctions := session.sanctions, createdAt := session.createdAt, issuedAt
    authRevision := some (session.authRevision.getD 0), legacyMemberNo := session.legacyMemberNo }

namespace Store

/-- A store with no keys. -/
def empty : Store :=
  { now := 0, sessions := fun _ => none, gameSessions := fun _ => none, sessionGames := fun _ => none
    sessionTokens := [], gameTokens := [], creations := fun _ => none }

variable (store : Store)

def getSession (sessionToken : String) : Option GatewaySessionInfo :=
  (Expiring.live store.now (store.sessions sessionToken)).map Expiring.value

def getGameSession (key : GameKey) : Option GameSessionInfo :=
  (Expiring.live store.now (store.gameSessions key)).map Expiring.value

/-- The members of the index of a session; an index that is gone has none. -/
def entries (sessionToken : String) : List GameKey :=
  ((Expiring.live store.now (store.sessionGames sessionToken)).map Expiring.value).getD []

/-- How long a session still has, which is nothing for one that is gone. -/
def parentTtl (sessionToken : String) : Nat :=
  match Expiring.live store.now (store.sessions sessionToken) with
  | some stored => stored.expiresAt - store.now
  | none => 0

/-- An index with other members keeps its time, and an empty one is removed. -/
def setEntries (sessionToken : String) (members : List GameKey) : Store :=
  { store with
    sessionGames := Function.update store.sessionGames sessionToken
      (if members.isEmpty then none
      else (Expiring.live store.now (store.sessionGames sessionToken)).map fun index =>
        { index with value := members }) }

/-- The entries of an index whose game session is gone are removed. -/
def removeEnded (sessionToken : String) : Store :=
  store.setEntries sessionToken
    ((store.entries sessionToken).filter fun entry => (store.getGameSession entry).isSome)

/-- A game session is stored, entered into the index of its session, and the index is kept long enough. -/
def put (gameTtlSeconds : Nat) (info : GameSessionInfo) : Store :=
  let key : GameKey := ⟨info.profile, info.gameToken⟩
  { store with
    gameSessions := Function.update store.gameSessions key (some ⟨info, store.now + gameTtlSeconds * 1000⟩)
    sessionGames := Function.update store.sessionGames info.sessionToken
      (some ⟨(store.entries info.sessionToken).insert key,
        store.now + max (store.parentTtl info.sessionToken) (gameTtlSeconds * 1000)⟩) }

/-- The script of a creation: the session must be the one that was read, and have room for another game session. -/
def createGameSession (gameTtlSeconds : Nat) (creation : Creation) (info : GameSessionInfo) : Store × Admission :=
  if store.parentTtl creation.sessionToken = 0 ∨
      store.getSession creation.sessionToken ≠ some creation.session then (store, .noSession)
  -- An index that is too large already is not even searched for ended entries.
  else if maxGameSessionsPerSession < (store.entries creation.sessionToken).length then (store, .limitReached)
  else
    let cleaned := store.removeEnded creation.sessionToken
    if maxGameSessionsPerSession ≤ (cleaned.entries creation.sessionToken).length then (cleaned, .limitReached)
    else (cleaned.put gameTtlSeconds info, .created info)

/-- The session is removed, with the popped entries and their game sessions. -/
def revokeGameSessionBatch (sessionToken : String) (popped : List GameKey) : Store :=
  let rest := (store.entries sessionToken).filter fun entry => entry ∉ popped
  { store.setEntries sessionToken rest with
    sessions := Function.update store.sessions sessionToken none
    gameSessions := fun key => if key ∈ popped then none else store.gameSessions key }

/-- The entries may be what a pop from the index of a session gives. -/
def Pops (sessionToken : String) (popped : List GameKey) : Prop :=
  popped.Nodup ∧ (∀ entry ∈ popped, entry ∈ store.entries sessionToken) ∧
    popped.length = min revocationBatch (store.entries sessionToken).length

instance (sessionToken : String) (popped : List GameKey) : Decidable (store.Pops sessionToken popped) :=
  inferInstanceAs (Decidable (_ ∧ _ ∧ _))

/-- One event; a token that is drawn is a new one. -/
def step (config : GatewaySessionConfig) (store : Store) : Event → Option (Store × Output)
  | .tick elapsed => some ({ store with now := store.now + elapsed }, .done)
  | .createSession sessionToken user issuedAt =>
    if sessionToken ∈ store.sessionTokens then none
    else
      let info := GatewaySessionInfo.of sessionToken user issuedAt
      some ({ store with
        sessions := Function.update store.sessions sessionToken
          (some ⟨info, store.now + config.sessionTtlSeconds * 1000⟩)
        sessionTokens := sessionToken :: store.sessionTokens }, .session (some info))
  | .revokeSession sessionToken =>
    some ({ store with sessions := Function.update store.sessions sessionToken none }, .done)
  | .revokeBatch sessionToken popped =>
    if store.Pops sessionToken popped then
      some (store.revokeGameSessionBatch sessionToken popped, .count popped.length)
    else none
  | .readSession call sessionToken profile =>
    match store.creations call with
    | some _ => none
    | none =>
      match store.getSession sessionToken with
      | none => some (store, .session none)
      | some session =>
        some ({ store with creations := Function.update store.creations call (some ⟨sessionToken, profile, session⟩) },
          .session (some session))
  | .create call gameToken issuedAt =>
    if gameToken ∈ store.gameTokens then none
    else
      match store.creations call with
      | none => none
      | some creation =>
        let (next, result) := store.createGameSession config.gameSessionTtlSeconds creation
          (.of creation gameToken issuedAt)
        some ({ next with
          gameTokens := gameToken :: store.gameTokens
          creations := Function.update store.creations call none }, .admission result)

/-- The store under logins, logouts, creations and time, in any order. -/
def machine (config : GatewaySessionConfig) : StateMachine Store Event Output where
  step := step config

end Store

end Sammo.GameSessions
