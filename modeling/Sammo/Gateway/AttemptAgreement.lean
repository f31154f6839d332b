import Sammo.Gateway.AttemptBudgetLaws
import Sammo.Gateway.AttemptCalls

/-! The two stores accept the same calls, and neither lets more of them through than the limits allow. -/

namespace Sammo.AttemptBudget

open FixedWindow (Windows Charge Attempt current refuses put fixedWindow)

variable {ρ : Type} {redis : Redis ρ} {state : ρ} {entries : Entries} {windows : Windows String} {now time : Int}

/-! ### Agreement -/

/-- No counter of a call is in the very millisecond in which it expires, or Redis takes it for expired. -/
def Settled (redis : Redis ρ) (state : ρ) (now : Int) (counters : List AuthCounter) : Prop :=
  ∀ counter ∈ counters, ∀ count, redis.stored state counter.key = some (count, some now) → redis.live now now = false

/-- The map has room for the counters of a call, and none of them is just expiring. -/
def Comparable (redis : Redis ρ) (stores : Clocked (ρ × Entries)) (call : ConsumeCall) : Prop :=
  Fits call.now stores.store.2 call.counters ∧ Settled redis stores.store.1 call.now call.counters

theorem current_eq (kept : Kept redis state windows) {counters : List AuthCounter}
    (settled : Settled redis state now counters) :
    ∀ charge ∈ counters.map AuthCounter.toCharge,
      current redis.live windows now charge.key = current open_ windows now charge.key := by
  intro charge member
  obtain ⟨counter, listed, rfl⟩ := List.mem_map.mp member
  change current redis.live windows now counter.key = current open_ windows now counter.key
  rw [current, current]
  cases present : windows counter.key with
  | none => rfl
  | some window =>
    have stored := kept.stored counter.key
    rw [present, Option.map_some] at stored
    have same : redis.live now window.ends = open_ now window.ends := by
      rcases Int.lt_trichotomy now window.ends with before | at_ | after
      · rw [redis.live_before _ _ before, open_, decide_eq_true before]
      · -- In its last millisecond a window is over for the map, and for Redis since nothing is just expiring.
        rw [← at_] at stored ⊢
        rw [settled counter listed window.count stored, open_, decide_eq_false (Int.lt_irrefl now)]
      · rw [redis.dead_after _ _ after, open_, decide_eq_false (by omega)]
    rw [Option.filter_some, Option.filter_some, same]

theorem consumeBoth_agrees (kept : Kept redis state windows) (held : Held entries windows time) (later : time ≤ now)
    {counters : List AuthCounter} (fits : Fits now entries counters) (settled : Settled redis state now counters) :
    accepted (consumeRedis redis now counters state).1 = accepted (consumeInMemory now counters entries).1 ∧
    ∃ next, Kept redis (consumeRedis redis now counters state).2 next ∧
      Held (consumeInMemory now counters entries).2 next now := by
  have same := current_eq kept settled
  obtain ⟨turned, taken⟩ := consumeRedis_spec kept now counters
  obtain ⟨takes, charges⟩ := consumeInMemory_spec held later counters
  rw [FixedWindow.refuses_congr same] at turned taken
  cases full : refuses open_ windows now (counters.map AuthCounter.toCharge) with
  | true =>
    -- Nothing is charged, and the map is swept.
    have first := turned full
    have second : accepted (consumeInMemory now counters entries).1 = false := by
      refine Bool.eq_false_iff.mpr fun accepts => ?_
      rw [(takes.mp accepts).2] at full
      cases full
    refine ⟨first.trans second.symm, windows, ?_, ?_⟩
    · rw [consumeRedis_frame redis now counters state first]
      exact kept
    · rw [consumeInMemory_frame now counters entries second]
      exact held.sweep later
  | false =>
    obtain ⟨first, charged⟩ := taken full
    have second := takes.mpr ⟨fits, full⟩
    have alike := FixedWindow.foldl_put_congr (fun width positive =>
      ⟨redis.live_before now (now + width) (by omega), decide_eq_true (by omega)⟩) same
    refine ⟨first.trans second.symm, _, charged, ?_⟩
    rw [alike]
    exact charges second

/-- The stores accept and reject the same calls. -/
def StoresAgree (redis : Redis ρ) : Prop :=
  ∀ (state : ρ) (time : Int) (trace : List (ConsumeCall × (Answer × Answer))) (final : Clocked (ρ × Entries)),
    (∀ key, redis.stored state key = none) →
    (clocked (consumeBoth redis)).RunWhile (Comparable redis) ⟨(state, .empty), time⟩ trace final →
    ∀ entry ∈ trace, accepted entry.2.1 = accepted entry.2.2

theorem clocked_step {σ ο : Type*} {consume : Int → List AuthCounter → σ → ο × σ} {before after : Clocked σ}
    {call : ConsumeCall} {output : ο} (stepped : (clocked consume).step before call = some (after, output)) :
    before.time ≤ call.now ∧ after = ⟨(consume call.now call.counters before.store).2, call.now⟩ ∧
      output = (consume call.now call.counters before.store).1 := by
  unfold clocked at stepped
  dsimp only at stepped
  split at stepped
  · cases stepped
  · rename_i later
    obtain ⟨rfl, rfl⟩ := Prod.mk.inj (Option.some.inj stepped)
    exact ⟨Int.not_lt.mp later, rfl, rfl⟩

theorem kept_of_fresh (fresh : ∀ key, redis.stored state key = none) : Kept redis state fun _ => none :=
  ⟨fresh, fun _ _ present => (by cases present)⟩

theorem held_empty (time : Int) : Held .empty (fun _ => none) time := ⟨fun _ => rfl⟩

theorem storesAgree (redis : Redis ρ) : StoresAgree redis := by
  intro state time trace final fresh run
  -- They have opened the same windows, and have agreed so far.
  let Agree (past : List (ConsumeCall × (Answer × Answer))) (stores : Clocked (ρ × Entries)) : Prop :=
    (∃ windows, Kept redis stores.store.1 windows ∧ Held stores.store.2 windows stores.time) ∧
      ∀ entry ∈ past, accepted entry.2.1 = accepted entry.2.2
  have agree : Agree trace final := by
    refine run.invariant ⟨⟨_, kept_of_fresh fresh, held_empty time⟩, fun _ member => (by cases member)⟩ ?_
    intro past stores call output next before admitted stepped
    obtain ⟨⟨windows, kept, held⟩, agreed⟩ := before
    obtain ⟨later, rfl, rfl⟩ := clocked_step stepped
    obtain ⟨same, following, keeps, holds⟩ := consumeBoth_agrees kept held later admitted.1 admitted.2
    refine ⟨⟨following, keeps, holds⟩, fun entry member => ?_⟩
    rcases List.mem_append.mp member with earlier | last
    · exact agreed entry earlier
    · rw [List.mem_singleton.mp last]
      exact same
  exact agree.2

/-- A call that is rejected charges no counter: Redis is as it was, and the map loses what has expired. -/
def RejectionsChargeNothing (redis : Redis ρ) : Prop :=
  (∀ now counters state, accepted (consumeRedis redis now counters state).1 = false →
    (consumeRedis redis now counters state).2 = state) ∧
  ∀ now counters entries, accepted (consumeInMemory now counters entries).1 = false →
    ∀ key, (consumeInMemory now counters entries).2.get? key =
      (entries.get? key).filter fun entry => now < entry.expiresAt

theorem rejectionsChargeNothing (redis : Redis ρ) : RejectionsChargeNothing redis := by
  refine ⟨fun now counters state => consumeRedis_frame redis now counters state, ?_⟩
  intro now counters entries refused key
  rw [consumeInMemory_frame now counters entries refused]
  exact OrderedMap.get?_filterValues ..

end Sammo.AttemptBudget
