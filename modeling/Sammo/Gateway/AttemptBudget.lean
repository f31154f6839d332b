import Sammo.Lib.FixedWindow
import Sammo.Lib.OrderedMap

/-!
The budget for attempts to sign in.

Two stores count the attempts: a script that Redis runs, and a map in memory.
Redis itself is known by what its commands do. The keys of the counters are left out, for they are digests.
-/

namespace Sammo.AttemptBudget

/-- A counter of attempts, which a call charges. -/
structure AuthCounter where
  key : String
  limit : ℕ
  windowMs : ℕ
  limit_pos : 0 < limit
  window_pos : 0 < windowMs

/-- Why an attempt is turned away. -/
inductive AuthBudgetReason where
  | limited
  | unavailable
  deriving DecidableEq

/-- What a store answers: how long to wait, or that it cannot tell. -/
abbrev Answer := Except AuthBudgetReason Int

/-- Nobody has to wait. -/
def accepted : Answer → Bool
  | .ok retryMs => retryMs = 0
  | .error _ => false

/-! ### Redis -/

/-- A value that Redis has stored, with the time at which it expires, if any. -/
abbrev Stored := ℕ × Option Int

/-- The commands of Redis that the script runs, as they are documented. -/
structure Redis (ρ : Type) where
  get : ρ → Int → String → Option ℕ
  pttl : ρ → Int → String → Int
  incr : ρ → Int → String → ℕ × ρ
  pexpire : ρ → Int → String → ℕ → ρ
  /-- What is stored under a key, even if it has expired. -/
  stored : ρ → String → Option Stored
  /-- A value that expires at a time is still there at another. -/
  live : Int → Int → Bool
  live_before : ∀ now ends, now < ends → live now ends = true
  dead_after : ∀ now ends, ends < now → live now ends = false
  get_eq : ∀ state now key,
    get state now key = ((stored state key).filter fun value => value.2.all (live now)).map Prod.fst
  pttl_eq : ∀ state now key count ends, stored state key = some (count, some ends) → live now ends = true →
    pttl state now key = max 0 (ends - now)
  incr_count : ∀ state now key, (incr state now key).1 = (get state now key).getD 0 + 1
  /-- A value that is raised keeps its time; one that has expired counts from zero and has none. -/
  incr_stored : ∀ state now key other, stored (incr state now key).2 other =
    if other = key then some ((incr state now key).1,
      ((stored state key).filter fun value => value.2.all (live now)).bind Prod.snd)
    else stored state other
  /-- A value that is there gets a time at which it expires. -/
  pexpire_stored : ∀ state now key milliseconds count expires, stored state key = some (count, expires) →
    expires.all (live now) = true → ∀ other, stored (pexpire state now key milliseconds) other =
      if other = key then some (count, some (now + milliseconds)) else stored state other

variable {ρ : Type} (redis : Redis ρ)

/-- The first loop of the script: how long to wait for the counters that have reached their limits. -/
def checkCounters (state : ρ) (now : Int) : List AuthCounter → Int → Option Int
  | [], retry => some retry
  | counter :: rest, retry =>
    let count := (redis.get state now counter.key).getD 0
    if counter.limit ≤ count then
      let ttl := redis.pttl state now counter.key
      -- A counter that never expires ends the script.
      if ttl < 0 then none else checkCounters state now rest (max retry (max ttl 1))
    else checkCounters state now rest retry

/-- A turn of the second loop of the script. -/
def chargeCounter (now : Int) (state : ρ) (counter : AuthCounter) : ρ :=
  let raised := redis.incr state now counter.key
  if raised.1 = 1 then redis.pexpire raised.2 now counter.key counter.windowMs else raised.2

/-- The script. -/
def consumeScript (now : Int) (counters : List AuthCounter) (state : ρ) : Int × ρ :=
  match checkCounters redis state now counters 0 with
  | none => (-1, state)
  | some retry => if 0 < retry then (retry, state) else (0, counters.foldl (chargeCounter redis now) state)

/-- Consumes from the counters in Redis. -/
def consumeRedis (now : Int) (counters : List AuthCounter) (state : ρ) : Answer × ρ :=
  let done := consumeScript redis now counters state
  (if done.1 < 0 then .error .unavailable else .ok done.1, done.2)

/-! ### The map in memory -/

/-- A counter in memory. -/
structure CounterEntry where
  count : ℕ
  expiresAt : Int
  deriving DecidableEq

/-- The counters in memory. -/
abbrev Entries := OrderedMap String CounterEntry

/-- Removes the counters that have expired. -/
def sweep (now : Int) (entries : Entries) : Entries := entries.filterValues fun entry => now < entry.expiresAt

/-- How many counters there would be with those that a call adds. -/
def sizeWith (entries : Entries) (counters : List AuthCounter) : ℕ :=
  entries.entries.length + (counters.filter fun counter => !entries.has counter.key).length

/-- A turn of the first loop: how long to wait with a counter that may have reached its limit. -/
def retryWith (now : Int) (entries : Entries) (retry : Int) (counter : AuthCounter) : Int :=
  match entries.get? counter.key with
  | none => retry
  | some entry => if counter.limit ≤ entry.count then max retry (entry.expiresAt - now) else retry

/-- How long to wait for the counters in memory that have reached their limits. -/
def retryMs (now : Int) (entries : Entries) (counters : List AuthCounter) : Int :=
  counters.foldl (retryWith now entries) 0

/-- Charges a counter in memory. -/
def chargeEntry (now : Int) (entries : Entries) (counter : AuthCounter) : Entries :=
  let entry := (entries.get? counter.key).getD ⟨0, now + counter.windowMs⟩
  entries.set counter.key { entry with count := entry.count + 1 }

/-- Consumes from the counters in memory. -/
def consumeInMemory (now : Int) (counters : List AuthCounter) (entries : Entries) : Answer × Entries :=
  let entries := sweep now entries
  if 8192 < sizeWith entries counters then (.error .unavailable, entries)
  else
    let retry := retryMs now entries counters
    if 0 < retry then (.ok retry, entries) else (.ok 0, counters.foldl (chargeEntry now) entries)

/-! ### Calls, one after the other -/

/-- A store at the time of its last call. -/
structure Clocked (σ : Type*) where
  store : σ
  time : Int

/-- A call that consumes from some counters. -/
structure ConsumeCall where
  now : Int
  counters : List AuthCounter

/-- A store that is called by a clock that does not go back. -/
def clocked {σ ο : Type*} (consume : Int → List AuthCounter → σ → ο × σ) :
    StateMachine (Clocked σ) ConsumeCall ο where
  step state call :=
    if call.now < state.time then none
    else
      let done := consume call.now call.counters state.store
      some (⟨done.2, call.now⟩, done.1)

/-- The same call to both stores. -/
def consumeBoth (now : Int) (counters : List AuthCounter) (stores : ρ × Entries) :
    (Answer × Answer) × (ρ × Entries) :=
  let first := consumeRedis redis now counters stores.1
  let second := consumeInMemory now counters stores.2
  ((first.1, second.1), (first.2, second.2))

/-! ### The budget -/

/-- The actions of which only a few may be under way. -/
def expensiveActions : List String :=
  ["auth.bootstrapLocal", "auth.kakaoExchange", "auth.kakaoResolveAccount", "auth.kakaoSetPassword", "auth.register",
    "auth.registerLocal", "auth.login", "auth.kakaoOtp", "account.changePassword", "account.scheduleDeletion"]

/-- How far a call has come. -/
inductive Stage where
  | checking
  /-- The check or the clock has won the race, with a time to wait or in vain. -/
  | raced (retryMs : Option Int)
  | working
  | returned
  deriving DecidableEq

/-- A call that has been admitted; its check may be under way even after it has returned. -/
structure Call where
  expensive : Bool
  checkPending : Bool
  stage : Stage
  deriving DecidableEq

/-- The budget, with the calls that it has admitted. -/
structure AuthAttemptBudget where
  active : Int
  pendingChecks : Int
  calls : List Call
  deriving DecidableEq

/-- What happens to a budget. -/
inductive BudgetEvent where
  /-- A call comes in, while the store is available or not. -/
  | run (action : String) (available : Bool)
  /-- The check of a call settles with a time to wait, or fails. -/
  | checkSettles (index : ℕ) (retryMs : Option Int)
  /-- A call has waited for its check for too long. -/
  | timeout (index : ℕ)
  /-- A call goes on after the race. -/
  | resume (index : ℕ)
  /-- The work of a call settles. -/
  | workSettles (index : ℕ)

/-- What a call is told. -/
inductive Reply where
  | waiting
  | limited (retryAfterSeconds : Int)
  | unavailable
  | working
  | done
  deriving DecidableEq

/-- An expensive action is between its admission and its return. -/
def underWay (call : Call) : Bool := call.expensive && decide (call.stage ≠ .returned)

/-- Lets a call return. -/
def finish (budget : AuthAttemptBudget) (index : ℕ) (call : Call) : AuthAttemptBudget :=
  { budget with
    active := if call.expensive then budget.active - 1 else budget.active
    calls := budget.calls.set index { call with stage := .returned } }

/-- Ends the race of a call, unless it is over. -/
def raceEnds (call : Call) (retryMs : Option Int) : Call :=
  if call.stage = .checking then { call with stage := .raced retryMs } else call

/-- What a call does after the race. -/
def afterRace (budget : AuthAttemptBudget) (index : ℕ) (call : Call) : Option Int → AuthAttemptBudget × Reply
  | none => (finish budget index call, .unavailable)
  | some retryMs =>
    if 0 < retryMs then (finish budget index call, .limited (max 1 ((retryMs + 999) / 1000)))
    else ({ budget with calls := budget.calls.set index { call with stage := .working } }, .working)

/-- Goes on with a call whose race is over. -/
def resume (budget : AuthAttemptBudget) (index : ℕ) (call : Call) : Option (AuthAttemptBudget × Reply) :=
  match call.stage with
  | .raced retryMs => some (afterRace budget index call retryMs)
  | _ => none

/-- The budget, through calls and their checks, timeouts and work in any order. -/
def attempts : StateMachine AuthAttemptBudget BudgetEvent Reply where
  step budget
    | .run action available =>
      let expensive : Bool := action ∈ expensiveActions
      if !available ∨ 32 ≤ budget.pendingChecks then some (budget, .unavailable)
      else if expensive ∧ 4 ≤ budget.active then some (budget, .limited 1)
      else
        some ({ active := if expensive then budget.active + 1 else budget.active
                pendingChecks := budget.pendingChecks + 1
                calls := budget.calls ++ [⟨expensive, true, .checking⟩] }, .waiting)
    | .checkSettles index retryMs =>
      (budget.calls[index]?.filter Call.checkPending).map fun call =>
        ({ budget with
            pendingChecks := budget.pendingChecks - 1
            calls := budget.calls.set index (raceEnds { call with checkPending := false } retryMs) }, .waiting)
    | .timeout index =>
      (budget.calls[index]?.filter fun call => call.stage = .checking).map fun call =>
        ({ budget with calls := budget.calls.set index (raceEnds call none) }, .waiting)
    | .resume index => budget.calls[index]?.bind (resume budget index)
    | .workSettles index =>
      (budget.calls[index]?.filter fun call => call.stage = .working).map fun call =>
        (finish budget index call, .done)

/-- Nobody has called yet. -/
def AuthAttemptBudget.opening : AuthAttemptBudget := ⟨0, 0, []⟩

end Sammo.AttemptBudget
