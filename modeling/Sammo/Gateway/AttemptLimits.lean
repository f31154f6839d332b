import Sammo.Gateway.AttemptAgreement

/-! No counter takes more charges in one of its windows than its limit, and the budget as a whole. -/

namespace Sammo.AttemptBudget

open FixedWindow (Windows Charge Attempt current refuses put fixedWindow chargesTo chargesIn)

variable {ρ : Type} {redis : Redis ρ}

/-- The charges that accepted calls make to a counter. -/
def chargesOf (key : String) (trace : List (ConsumeCall × Answer)) : ℕ :=
  (trace.map fun entry =>
    if accepted entry.2 then (entry.1.counters.filter fun counter => counter.key = key).length else 0).sum

/-- An accepted call opens a window of a counter, and other calls come before the window is over. -/
structure InWindow (live : Int → Int → Bool) (counter : AuthCounter) (limit : ℕ) (opening : ConsumeCall × Answer)
    (during : List (ConsumeCall × Answer)) : Prop where
  listed : counter ∈ opening.1.counters
  accepted : accepted opening.2 = true
  inside : ∀ entry ∈ during, live entry.1.now (opening.1.now + counter.windowMs) = true
  /-- No call names a counter twice. -/
  distinct : ∀ entry ∈ opening :: during, (entry.1.counters.map AuthCounter.key).Nodup
  /-- The calls may name the counter with several limits. -/
  limited : ∀ entry ∈ opening :: during, ∀ other ∈ entry.1.counters, other.key = counter.key → other.limit ≤ limit

/-- What a call asks of the windows, and whether it is accepted. -/
def toAttempt (entry : ConsumeCall × Answer) : Attempt String :=
  ⟨entry.1.now, entry.1.counters.map AuthCounter.toCharge, accepted entry.2⟩

theorem chargesTo_toAttempt (key : String) (trace : List (ConsumeCall × Answer)) :
    chargesTo key (trace.map toAttempt) = chargesOf key trace := by
  have each (counters : List AuthCounter) : chargesIn key (counters.map AuthCounter.toCharge) =
      (counters.filter fun counter => counter.key = key).length := by
    rw [chargesIn, List.filter_map, List.length_map]
    rfl
  rw [chargesTo, chargesOf, List.map_map]
  refine congrArg List.sum (List.map_congr_left fun entry _ => ?_)
  change (if accepted entry.2 then chargesIn key (entry.1.counters.map AuthCounter.toCharge) else 0) = _
  rw [each]

theorem InWindow.charges_le {live : Int → Int → Bool} {counter : AuthCounter} {limit : ℕ}
    {opening : ConsumeCall × Answer} {during : List (ConsumeCall × Answer)}
    (inWindow : InWindow live counter limit opening during) {start final : Windows String}
    (run : (fixedWindow live).Run start
      (((opening :: during).map toAttempt).map fun attempt => (attempt, ())) final)
    (none_ : current live start opening.1.now counter.key = none) :
    chargesOf counter.key (opening :: during) ≤ limit := by
  have distinct : ∀ attempt ∈ (opening :: during).map toAttempt, (attempt.charges.map Charge.key).Nodup := by
    refine List.forall_mem_map.mpr fun entry member => ?_
    have once := inWindow.distinct entry member
    rw [toAttempt, List.map_map]
    exact once
  have limited : ∀ attempt ∈ (opening :: during).map toAttempt, ∀ other ∈ attempt.charges,
      other.key = counter.key → other.limit ≤ limit :=
    List.forall_mem_map.mpr fun entry member => List.forall_mem_map.mpr (inWindow.limited entry member)
  rw [← chargesTo_toAttempt]
  exact FixedWindow.opened_charges_le run inWindow.accepted (List.mem_map_of_mem inWindow.listed) none_
    (List.forall_mem_map.mpr inWindow.inside) distinct limited

theorem redis_simulates {start final : Clocked ρ} {trace : List (ConsumeCall × Answer)} {windows : Windows String}
    (kept : Kept redis start.store windows) (run : (clocked (consumeRedis redis)).Run start trace final) :
    ∃ next, Kept redis final.store next ∧
      (fixedWindow redis.live).Run windows ((trace.map toAttempt).map fun attempt => (attempt, ())) next := by
  let Simulated (past : List (ConsumeCall × Answer)) (state : Clocked ρ) : Prop :=
    ∃ next, Kept redis state.store next ∧
      (fixedWindow redis.live).Run windows ((past.map toAttempt).map fun attempt => (attempt, ())) next
  have simulated : Simulated trace final := by
    refine run.invariant ⟨windows, kept, .nil _⟩ ?_
    rintro past state call output next ⟨middle, before, ran⟩ - stepped
    obtain ⟨-, rfl, rfl⟩ := clocked_step stepped
    obtain ⟨turned, taken⟩ := consumeRedis_spec before call.now call.counters
    unfold Simulated
    rw [List.map_append, List.map_append]
    cases full : refuses redis.live middle call.now (call.counters.map AuthCounter.toCharge) with
    | true =>
      -- The call is rejected, so nothing changes.
      have rejected := turned full
      rw [consumeRedis_frame redis call.now call.counters state.store rejected]
      refine ⟨middle, before, ran.snoc trivial ?_⟩
      simp [fixedWindow, toAttempt, rejected]
    | false =>
      obtain ⟨accepts, charged⟩ := taken full
      refine ⟨_, charged, ran.snoc trivial ?_⟩
      simp [fixedWindow, toAttempt, accepts, full]
  exact simulated

theorem memory_simulates {start final : Clocked Entries} {trace : List (ConsumeCall × Answer)}
    {windows : Windows String} (held : Held start.store windows start.time)
    (run : (clocked consumeInMemory).Run start trace final) :
    ∃ next, Held final.store next final.time ∧
      (fixedWindow open_).Run windows ((trace.map toAttempt).map fun attempt => (attempt, ())) next := by
  let Simulated (past : List (ConsumeCall × Answer)) (state : Clocked Entries) : Prop :=
    ∃ next, Held state.store next state.time ∧
      (fixedWindow open_).Run windows ((past.map toAttempt).map fun attempt => (attempt, ())) next
  have simulated : Simulated trace final := by
    refine run.invariant ⟨windows, held, .nil _⟩ ?_
    rintro past state call output next ⟨middle, before, ran⟩ - stepped
    obtain ⟨later, rfl, rfl⟩ := clocked_step stepped
    obtain ⟨takes, charges⟩ := consumeInMemory_spec before later call.counters
    unfold Simulated
    rw [List.map_append, List.map_append]
    cases answer : accepted (consumeInMemory call.now call.counters state.store).1 with
    | false =>
      -- The call is rejected, so the map is swept and no window changes.
      rw [consumeInMemory_frame call.now call.counters state.store answer]
      refine ⟨middle, before.sweep later, ran.snoc trivial ?_⟩
      simp [fixedWindow, toAttempt, answer]
    | true =>
      refine ⟨_, charges answer, ran.snoc trivial ?_⟩
      simp [fixedWindow, toAttempt, answer, (takes.mp answer).2]
  exact simulated

/-- No counter is charged beyond its limit in a window, in either store. -/
def WithinLimits (redis : Redis ρ) : Prop :=
  (∀ (state : ρ) (time : Int) (past during : List (ConsumeCall × Answer)) (opening : ConsumeCall × Answer)
      (middle final : Clocked ρ) (counter : AuthCounter) (limit : ℕ),
    (∀ key, redis.stored state key = none) → (clocked (consumeRedis redis)).Run ⟨state, time⟩ past middle →
    redis.get middle.store opening.1.now counter.key = none →
    (clocked (consumeRedis redis)).Run middle (opening :: during) final →
    InWindow redis.live counter limit opening during → chargesOf counter.key (opening :: during) ≤ limit) ∧
  ∀ (time : Int) (past during : List (ConsumeCall × Answer)) (opening : ConsumeCall × Answer)
      (middle final : Clocked Entries) (counter : AuthCounter) (limit : ℕ),
    (clocked consumeInMemory).Run ⟨.empty, time⟩ past middle →
    (sweep opening.1.now middle.store).get? counter.key = none →
    (clocked consumeInMemory).Run middle (opening :: during) final →
    InWindow open_ counter limit opening during → chargesOf counter.key (opening :: during) ≤ limit

theorem withinLimits (redis : Redis ρ) : WithinLimits redis := by
  refine ⟨fun state time past during opening middle final counter limit fresh before absent after inWindow => ?_,
    fun time past during opening middle final counter limit before absent after inWindow => ?_⟩
  · obtain ⟨windows, kept, -⟩ := redis_simulates (kept_of_fresh fresh) before
    obtain ⟨_, -, run⟩ := redis_simulates kept after
    rw [kept.get, Option.map_eq_none_iff] at absent
    exact inWindow.charges_le run absent
  · obtain ⟨windows, held, -⟩ := memory_simulates (held_empty time) before
    obtain ⟨_, -, run⟩ := memory_simulates held after
    -- The clock has not gone back between the last call before the window and the one that opens it.
    have later : middle.time ≤ opening.1.now := by
      obtain ⟨_, _, began, -, stepped, -⟩ :=
        (show (clocked consumeInMemory).Run middle ([] ++ (opening.1, opening.2) :: during) final from after).split_at
      obtain rfl := began.eq_of_nil
      exact (clocked_step stepped).1
    rw [(held.sweep later).held, Option.map_eq_none_iff] at absent
    exact inWindow.charges_le run absent

/-! ### The budget as a whole -/

/-- The budget counts the calls that are under way and the checks that have not settled, in any order of events. -/
def CallsCounted : Prop :=
  ∀ (trace : List (BudgetEvent × Reply)) (budget : AuthAttemptBudget), attempts.Run .opening trace budget →
    budget.active = budget.calls.countP underWay ∧ budget.calls.countP underWay ≤ 4 ∧
    budget.pendingChecks = budget.calls.countP Call.checkPending ∧
    ((∀ call ∈ budget.calls, call.stage = .returned) → budget.active = 0 ∧
      ((∀ call ∈ budget.calls, call.checkPending = false) → budget.pendingChecks = 0))

theorem callsCounted : CallsCounted := by
  intro trace budget run
  have counts := counts_of_run run
  have active := counts.active
  have few := counts.few
  refine ⟨active, by omega, counts.pending, fun returned => ⟨?_, fun settled => ?_⟩⟩
  · rw [active, List.countP_eq_zero.mpr fun call member => by simp [underWay, returned call member]]
    rfl
  · rw [counts.pending, List.countP_eq_zero.mpr fun call member => by simp [settled call member]]
    rfl

/-- The stores agree and keep to the limits, rejections charge nothing, and the calls under way are counted. -/
theorem authentication_budget (redis : Redis ρ) :
    StoresAgree redis ∧ RejectionsChargeNothing redis ∧ WithinLimits redis ∧ CallsCounted :=
  ⟨storesAgree redis, rejectionsChargeNothing redis, withinLimits redis, callsCounted⟩

/-- What a table of values has that has not expired; a value is there in the millisecond in which it expires. -/
def unexpired (table : String → Option Stored) (now : Int) (key : String) : Option Stored :=
  (table key).filter fun value => value.2.all fun ends => now ≤ ends

/-- Redis as a table of values. -/
def table : Redis (String → Option Stored) where
  get state now key := (unexpired state now key).map Prod.fst
  pttl state now key :=
    match unexpired state now key with
    | none => -2
    | some (_, none) => -1
    | some (_, some ends) => max 0 (ends - now)
  incr state now key :=
    let count := ((unexpired state now key).map Prod.fst).getD 0 + 1
    (count, Function.update state key (some (count, (unexpired state now key).bind Prod.snd)))
  pexpire state now key milliseconds :=
    match unexpired state now key with
    | none => state
    | some (count, _) => Function.update state key (some (count, some (now + milliseconds)))
  stored state key := state key
  live now ends := now ≤ ends
  live_before now ends before := decide_eq_true (Int.le_of_lt before)
  dead_after now ends after := decide_eq_false (Int.not_le.mpr after)
  get_eq _ _ _ := rfl
  pttl_eq state now key count ends stored live := by
    have there : unexpired state now key = some (count, some ends) := by
      rw [unexpired, stored, Option.filter_some]
      exact if_pos live
    rw [there]
  incr_count _ _ _ := rfl
  incr_stored state now key other := by
    exact Function.update_apply ..
  pexpire_stored state now key milliseconds count expires stored live other := by
    have there : unexpired state now key = some (count, expires) := by
      rw [unexpired, stored, Option.filter_some]
      exact if_pos live
    rw [there]
    exact Function.update_apply ..

/-- A table is a Redis, so all of this holds of it. -/
theorem authentication_budget_table :
    StoresAgree table ∧ RejectionsChargeNothing table ∧ WithinLimits table ∧ CallsCounted :=
  authentication_budget table

/-- A counter of some attempts in fifty milliseconds. -/
def in50 (key : String) (limit : ℕ) (positive : 0 < limit) : AuthCounter := ⟨key, limit, 50, positive, by decide⟩

/-- A counter of one attempt in fifty milliseconds. -/
def onceIn50 (key : String) : AuthCounter := in50 key 1 Nat.one_pos

/-- Whether Redis and the map accept some calls, one after the other. -/
def answers (stores : (String → Option Stored) × Entries) : List ConsumeCall → List (Bool × Bool)
  | [] => []
  | call :: rest =>
    let done := consumeBoth table call.now call.counters stores
    (accepted done.1.1, accepted done.1.2) :: answers done.2 rest

/-- Nothing has been stored. -/
def nothing : (String → Option Stored) × Entries := (fun _ => none, .empty)

theorem answers_replicate :
    answers nothing [⟨0, List.replicate 8193 (onceIn50 "a")⟩] = [(true, false)] := by
  have free : refuses table.live (fun _ => none) 0
      ((List.replicate 8193 (onceIn50 "a")).map AuthCounter.toCharge) = false :=
    List.any_eq_false.mpr fun _ _ => Bool.false_ne_true
  have fresh : Kept table (fun _ => none) fun _ => none := kept_of_fresh fun _ => rfl
  have takes := ((consumeRedis_spec fresh 0 (List.replicate 8193 (onceIn50 "a"))).2 free).1
  have size : sizeWith (sweep 0 .empty) (List.replicate 8193 (onceIn50 "a")) = 8193 := by
    have absent : (!(sweep 0 .empty).has (onceIn50 "a").key) = true := rfl
    rw [sizeWith, List.filter_replicate, if_pos absent, List.length_replicate]
    rfl
  have turned : accepted (consumeInMemory 0 (List.replicate 8193 (onceIn50 "a")) .empty).1 = false := by
    unfold consumeInMemory
    dsimp only
    rw [size]
    rfl
  rw [answers, answers, consumeBoth, nothing]
  dsimp only
  rw [takes, turned]

/--
The stores differ on a list that names a counter too often for the map, in the last millisecond of a counter, and once
the clock has gone back; a counter that is named twice, or with two limits, is charged beyond one; and a call that has
not waited for its check leaves it pending.
-/
theorem authentication_budget_differs :
    answers nothing [⟨0, List.replicate 8193 (onceIn50 "a")⟩] = [(true, false)] ∧
    answers nothing [⟨0, [onceIn50 "a"]⟩, ⟨50, [onceIn50 "a"]⟩] = [(true, true), (false, true)] ∧
    answers nothing [⟨0, [onceIn50 "a"]⟩, ⟨100, [onceIn50 "b"]⟩, ⟨10, [onceIn50 "a"]⟩] =
      [(true, true), (true, true), (false, true)] ∧
    (consumeBoth table 0 [onceIn50 "a", onceIn50 "a"] nothing).1 = (.ok 0, .ok 0) ∧
    (consumeBoth table 0 [onceIn50 "a", onceIn50 "a"] nothing).2.2.get? "a" = some ⟨2, 50⟩ ∧
    answers nothing [⟨0, [onceIn50 "a"]⟩, ⟨0, [in50 "a" 2 Nat.two_pos]⟩] = [(true, true), (true, true)] ∧
    (attempts.replay .opening [.run "auth.login" true, .timeout 0, .resume 0]).map Prod.fst =
      some ⟨0, 1, [⟨true, true, .returned⟩]⟩ :=
  ⟨answers_replicate, by decide, by decide, by decide, by decide, by decide, by decide⟩

end Sammo.AttemptBudget
