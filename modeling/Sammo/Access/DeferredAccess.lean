import Mathlib.Data.List.Dedup
import Mathlib.Data.List.Sort
import Sammo.Lib.StateMachine
import Sammo.Lib.WriteBehind

/-! Deferred counting of general accesses: counters in Redis, the batches they become, and the workers that book them. -/

namespace Sammo.DeferredAccess

/-- How long counters are kept after the last access. -/
def activeBatchTtlMs : Int := 24 * 60 * 60 * 1000

/-- How long the database remembers that a batch is done. -/
def completedBatchRetentionMs : Int := 7 * 24 * 60 * 60 * 1000

/-- The largest integer that a number holds exactly. -/
def maxSafeInteger : Int := 9007199254740991

/-- The largest value of a Redis counter. -/
def maxCounter : Int := 9223372036854775807

/-- The largest value of an integer column. -/
def maxInteger : Int := 2147483647

/-- The last instant of a date, counted from the epoch. -/
def maxDate : Int := 8640000000000000

/-- Who accesses a page. -/
structure AuthUser where
  id : String
  roles : List String

/-- The roles whose accesses are not counted. -/
def adminRoles : List String := ["superuser", "admin", "admin.superuser"]

/-- An access is counted of a user who is no administrator. -/
def isEligibleUser (auth : Option AuthUser) : Bool := auth.any fun user => ¬ user.roles.any (adminRoles.contains ·)

/-- One access that was enqueued. -/
structure Contribution where
  ticket : Nat
  generalId : Int
  weight : Int
  deriving DecidableEq

/-- The fields of one general: the weight so far, the last user, and the latest time. -/
structure PendingAccess where
  weight : Int
  userId : String
  time : Int
  deriving DecidableEq

/-- A hash of counters, and the accesses that went into it. -/
structure AccessHash where
  fields : OrderedMap Int PendingAccess
  expiresAt : Int
  contributions : List Contribution

/-- The counters while nothing has been enqueued. -/
def AccessHash.empty (now : Int) : AccessHash := ⟨.empty, now, []⟩

/-- The weight that a hash has for a general. -/
def AccessHash.weight (hash : AccessHash) (generalId : Int) : Int :=
  ((hash.fields.get? generalId).map PendingAccess.weight).getD 0

/-- The fields of a general after one more access. -/
def PendingAccess.add (pending : Option PendingAccess) (weight : Int) (userId : String) (time : Int) : PendingAccess :=
  -- The user is the last one to come, the time is the latest one.
  match pending with
  | none => ⟨weight, userId, time⟩
  | some pending => ⟨pending.weight + weight, userId, max pending.time time⟩

/-- The script that counts an access. -/
def AccessHash.enqueue (hash : AccessHash) (now : Int) (contribution : Contribution) (userId : String) (time : Int) :
    AccessHash where
  fields := hash.fields.set contribution.generalId
    (.add (hash.fields.get? contribution.generalId) contribution.weight userId time)
  -- Every access puts the expiry off.
  expiresAt := now + activeBatchTtlMs
  contributions := hash.contributions ++ [contribution]

/-- A hash is there until it expires. -/
def live (now : Int) (hash : Option AccessHash) : Option AccessHash := hash.filter fun hash => now ≤ hash.expiresAt

/-- What a batch says of one general. -/
structure Entry where
  generalId : Int
  userId : String
  weight : Int
  lastRefresh : Int
  deriving DecidableEq

/-- The entry of a general's fields, unless they are not valid. -/
def parseFields (generalId : Int) (pending : PendingAccess) : Option Entry :=
  if 0 < generalId ∧ generalId ≤ maxSafeInteger ∧ 0 ≤ pending.weight ∧ pending.weight ≤ maxSafeInteger ∧
      pending.userId ≠ "" ∧ -maxDate ≤ pending.time ∧ pending.time ≤ maxDate then
    some ⟨generalId, pending.userId, pending.weight, pending.time⟩
  else none

/-- One general comes before another. -/
def entryLe (left right : Entry) : Prop := left.generalId ≤ right.generalId

instance : DecidableRel entryLe := fun _ _ => inferInstanceAs (Decidable (_ ≤ _))

/-- The valid entries of a batch; a hash that is gone has none. -/
def parseBatchHash (hash : Option AccessHash) : List Entry :=
  let entries := (hash.map fun hash => hash.fields.entries).getD []
  (entries.filterMap fun field => parseFields field.1 field.2).insertionSort entryLe

/-- What the flush reads of the world. -/
structure WorldState where
  tickSeconds : Int
  isUnited : Int
  openTime : Option Int
  tickStartedAt : Option Int

/-- What the flush reads of a general. -/
structure GeneralRow where
  userId : Option String
  turnTime : Int

/-- A row of the access log. -/
structure AccessRow where
  userId : Option String
  lastRefresh : Option Int
  refresh : Int
  refreshTotal : Int
  refreshScore : Int
  refreshScoreTotal : Int
  deriving DecidableEq

/-- When the current period began. -/
def WorldState.periodStartedAt (world : WorldState) (newest : Int) : Int :=
  match world.tickStartedAt.filter (· ≤ newest) with
  | some tickStartedAt => tickStartedAt
  | none => newest - max 1 world.tickSeconds * 1000

/-- The newest access of some entries. -/
def newestRefresh (first : Entry) (rest : List Entry) : Int :=
  rest.foldl (fun latest entry => if latest < entry.lastRefresh then entry.lastRefresh else latest) first.lastRefresh

/-- The accesses of a united world, and of one that is not open yet, are not counted. -/
def WorldState.Idle (world : WorldState) (newest : Int) : Prop :=
  world.isUnited = 2 ∨ ∃ openTime ∈ world.openTime, newest < openTime

instance (world : WorldState) (newest : Int) : Decidable (world.Idle newest) :=
  inferInstanceAs (Decidable (_ ∨ ∃ openTime ∈ world.openTime, _))

/-- An entry is about a general of its user. -/
def Resolved (generals : Int → Option GeneralRow) (entry : Entry) : Prop :=
  ∃ general ∈ generals entry.generalId, general.userId = some entry.userId

instance (generals : Int → Option GeneralRow) : DecidablePred (Resolved generals) :=
  fun entry => inferInstanceAs (Decidable (∃ general ∈ generals entry.generalId, _))

/-- The time from which accesses count for the score of a general's turn. -/
def scoreStartedAt (world : WorldState) (generals : Int → Option GeneralRow) (generalId : Int) : Int :=
  ((generals generalId).map GeneralRow.turnTime).getD 0 - world.tickSeconds * 1000

/-- The row of a general after an entry. -/
def accessRow (periodStartedAt scoreStartedAt : Int) (old : Option AccessRow) (entry : Entry) :
    AccessRow :=
  let score := if scoreStartedAt ≤ entry.lastRefresh then entry.weight else 0
  match old with
  | none => ⟨some entry.userId, some entry.lastRefresh, entry.weight, entry.weight, score, entry.weight⟩
  | some row =>
    { userId := some entry.userId
      lastRefresh := some ((row.lastRefresh.map fun last => max last entry.lastRefresh).getD entry.lastRefresh)
      -- A new period begins with this entry, and so does a new turn.
      refresh := if row.lastRefresh.all (· < periodStartedAt) then entry.weight else row.refresh + entry.weight
      refreshTotal := row.refreshTotal + entry.weight
      refreshScore := if row.lastRefresh.all (· < scoreStartedAt) then score else row.refreshScore + score
      refreshScoreTotal := row.refreshScoreTotal + entry.weight }

/-- The rows that a batch writes. -/
def accessRows (world : WorldState) (generals : Int → Option GeneralRow) (log : Table Int AccessRow)
    (newest : Int) (resolved : List Entry) : List (Int × AccessRow) :=
  resolved.map fun entry => (entry.generalId, accessRow (world.periodStartedAt newest)
    (scoreStartedAt world generals entry.generalId) (log entry.generalId) entry)

/-- The columns hold the numbers of a row. -/
def AccessRow.Fits (row : AccessRow) : Prop :=
  row.refresh ≤ maxInteger ∧ row.refreshTotal ≤ maxInteger ∧ row.refreshScore ≤ maxInteger ∧
    row.refreshScoreTotal ≤ maxInteger

instance (row : AccessRow) : Decidable row.Fits := inferInstanceAs (Decidable (_ ∧ _ ∧ _ ∧ _))

/-- A batch as a worker has read it. -/
structure Reading where
  id : String
  readAt : Int
  entries : List Entry
  contributions : List Contribution

/-- How far a worker is with its round. -/
inductive Stage where
  | idle
  /-- It has listed the batches that are there. -/
  | listed (keys : List String)
  /-- It has made a batch of the counters, if there were any. -/
  | rotated (keys : List String)
  /-- It is about to begin with the next batch. -/
  | working (keys : List String) (runningProfile : Bool)
  /-- It has read a batch. -/
  | read (reading : Reading) (rest : List String)
  /-- The database has taken the batch. -/
  | settled (id : String) (rest : List String)

/-- The instant at which the batch was read that a worker is about to book. -/
def Stage.readAt? : Stage → Option Int
  | .read reading _ => some reading.readAt
  | _ => none

/-- The worker goes on with the next batch, or its round is over. -/
def Stage.next (rest : List String) (runningProfile : Bool) : Stage :=
  if rest = [] then .idle else .working rest runningProfile

/-- What the database has counted of a batch. -/
structure Count where
  id : String
  countedAt : Int
  contributions : List Contribution

/-- The counters and the batches of one profile. -/
structure Redis where
  active : Option AccessHash
  batches : String → Option AccessHash
  /-- The ids that have been given to batches. -/
  used : List String
  /-- Every access that was enqueued. -/
  enqueued : List Contribution
  /-- The accesses that became a batch, by its id. -/
  rotations : String → List Contribution

/-- The access log, and the batches that are done with the time at which they were. -/
structure Database where
  markers : List (String × Int)
  log : Table Int AccessRow
  /-- What has been counted so far. -/
  counted : List Count

/-- Redis, the database and the workers. -/
structure State where
  now : Int
  redis : Redis
  database : Database
  workers : Nat → Stage

/-- What happens to the counters. -/
inductive Event where
  | advance (milliseconds : Nat)
  | enqueue (auth : Option AuthUser) (generalId weight time : Int)
  /-- A worker lists the batches; one that comes or goes meanwhile may be in the list or not. -/
  | scan (worker : Nat) (keys : List String)
  /-- It makes a batch of the counters under a new random id. -/
  | rotate (worker : Nat) (id : String)
  /-- It learns whether the profile is running. -/
  | status (worker : Nat) (runningProfile : Bool)
  | discard (worker : Nat)
  | read (worker : Nat)
  /-- The database books what was read. -/
  | settle (worker : Nat) (world : Option WorldState) (generals : Int → Option GeneralRow)
  | delete (worker : Nat)
  /-- A worker crashes, or gives its round up because a step of it fails. -/
  | crash (worker : Nat)

namespace Redis

variable (redis : Redis) (now : Int)

/-- Counts an access. -/
def enqueue (contribution : Contribution) (userId : String) (time : Int) : Redis :=
  { redis with
    active := some (((live now redis.active).getD (.empty now)).enqueue now contribution userId time)
    enqueued := redis.enqueued ++ [contribution] }

/-- Makes a batch of the counters. -/
def rotate (id : String) (hash : AccessHash) : Redis :=
  { redis with
    active := none
    batches := Function.update redis.batches id (some hash)
    rotations := Function.update redis.rotations id hash.contributions }

/-- Deletes a batch. -/
def del (id : String) : Redis := { redis with batches := Function.update redis.batches id none }

/-- What a worker reads of a batch. -/
def reading (id : String) : Reading :=
  let hash := live now (redis.batches id)
  ⟨id, now, parseBatchHash hash, (hash.map AccessHash.contributions).getD []⟩

/-- Whether an access is written: its general and weight are valid, its user is counted, and the counter holds it. -/
def Accepts (auth : Option AuthUser) (generalId weight time : Int) : Prop :=
  0 < generalId ∧ generalId ≤ maxSafeInteger ∧ 0 ≤ weight ∧ isEligibleUser auth ∧ -maxDate ≤ time ∧ time ≤ maxDate ∧
    ((live now redis.active).getD (.empty now)).weight generalId + weight ≤ maxCounter

instance (auth : Option AuthUser) (generalId weight time : Int) :
    Decidable (redis.Accepts now auth generalId weight time) :=
  inferInstanceAs (Decidable (_ ∧ _ ∧ _ ∧ _ ∧ _ ∧ _ ∧ _))

end Redis

namespace Database

variable (database : Database) (now : Int)

/-- The markers after a batch is done. -/
def marked (id : String) : List (String × Int) :=
  if id ∈ database.markers.map Prod.fst then database.markers else database.markers ++ [(id, now)]

/-- Marks a batch as done. -/
def markBatchProcessed (id : String) : Database := { database with markers := database.marked now id }

/-- Books a batch: its entries are added, if it is not marked as done, and old markers are deleted. -/
def book (reading : Reading) (world : WorldState) (generals : Int → Option GeneralRow) (newest : Int) :
    Option Database :=
  let resolved := reading.entries.filter (Resolved generals)
  let rows := accessRows world generals database.log newest resolved
  let pruned := (database.marked now reading.id).filter fun marker => now - completedBatchRetentionMs ≤ marker.2
  -- Numbers that the columns do not hold make the statement fail.
  if ∃ entry ∈ reading.entries, maxInteger < entry.generalId ∨ maxInteger < entry.weight then none
  else if reading.id ∈ database.markers.map Prod.fst then some { database with markers := pruned }
  else if ∀ row ∈ rows, row.2.Fits then
    some {
      markers := pruned
      log := database.log.upsertRows rows
      counted := database.counted ++ [⟨reading.id, now, reading.contributions.filter fun contribution =>
        contribution.generalId ∈ resolved.map Entry.generalId⟩] }
  else none

/-- Books what was read in the world as it is; without entries, and while the world is idle, only the marker is set. -/
def flush (reading : Reading) (world : Option WorldState) (generals : Int → Option GeneralRow) : Option Database :=
  match reading.entries with
  | [] => some (database.markBatchProcessed now reading.id)
  | first :: rest =>
    world.bind fun world =>
      if world.Idle (newestRefresh first rest) then some (database.markBatchProcessed now reading.id)
      else database.book now reading world generals (newestRefresh first rest)

end Database

namespace State

variable (state : State)

/-- Nothing has been enqueued. -/
def opening (now : Int) (log : Table Int AccessRow) : State :=
  ⟨now, ⟨none, fun _ => none, [], [], fun _ => []⟩, ⟨[], log, []⟩, fun _ => .idle⟩

/-- An access is counted, under the next ticket. -/
def enqueue (generalId weight : Int) (userId : String) (time : Int) : State :=
  let contribution : Contribution := ⟨state.redis.enqueued.length, generalId, weight⟩
  { state with redis := state.redis.enqueue state.now contribution userId time }

/-- A worker at another stage. -/
def setWorker (worker : Nat) (stage : Stage) : State :=
  { state with workers := Function.update state.workers worker stage }

/-- The keys of a round: each once, in order. -/
def roundKeys (keys : List String) : List String := keys.dedup.insertionSort (· ≤ ·)

/-- A worker makes a batch of the counters, unless there are none. -/
def rotate (worker : Nat) (keys : List String) (id : String) : State :=
  match live state.now state.redis.active with
  | none =>
    { state with redis := { state.redis with used := id :: state.redis.used } }.setWorker worker
      (if keys = [] then .idle else .rotated (roundKeys keys))
  | some hash =>
    { state with redis := { state.redis.rotate id hash with used := id :: state.redis.used } }.setWorker worker
      (.rotated (roundKeys (keys ++ [id])))

/-- What a worker does next. -/
def work (worker : Nat) : Stage → Event → Option State
  | .idle, .scan _ keys =>
    if ∀ key ∈ keys, key ∈ state.redis.used then some (state.setWorker worker (.listed keys)) else none
  | .listed keys, .rotate _ id =>
    -- Ids are random, so none of them comes up twice.
    if id ≠ "" ∧ id ∉ state.redis.used then some (state.rotate worker keys id) else none
  | .rotated keys, .status _ runningProfile => some (state.setWorker worker (.working keys runningProfile))
  | .working (key :: rest) false, .discard _ =>
    some ({ state with redis := state.redis.del key }.setWorker worker (.next rest false))
  | .working (key :: rest) true, .read _ =>
    some (state.setWorker worker (.read (state.redis.reading state.now key) rest))
  | .read reading rest, .settle _ world generals =>
    (state.database.flush state.now reading world generals).map fun database =>
      { state with database }.setWorker worker (.settled reading.id rest)
  | .settled id rest, .delete _ =>
    some ({ state with redis := state.redis.del id }.setWorker worker (.next rest true))
  | _, .crash _ => some (state.setWorker worker .idle)
  | _, _ => none

end State

/-- The counters with any number of workers. -/
def machine : StateMachine State Event Unit where
  step state event := Option.map (fun next => (next, ())) <|
    match event with
    | .advance milliseconds => some { state with now := state.now + milliseconds }
    | .enqueue auth generalId weight time =>
      auth.bind fun user =>
        if state.redis.Accepts state.now auth generalId weight time then
          some (state.enqueue generalId weight user.id time)
        else none
    | .scan worker keys => state.work worker (state.workers worker) (.scan worker keys)
    | .rotate worker id => state.work worker (state.workers worker) (.rotate worker id)
    | .status worker runningProfile => state.work worker (state.workers worker) (.status worker runningProfile)
    | .discard worker => state.work worker (state.workers worker) (.discard worker)
    | .read worker => state.work worker (state.workers worker) (.read worker)
    | .settle worker world generals => state.work worker (state.workers worker) (.settle worker world generals)
    | .delete worker => state.work worker (state.workers worker) (.delete worker)
    | .crash worker => state.work worker (state.workers worker) (.crash worker)

end Sammo.DeferredAccess
