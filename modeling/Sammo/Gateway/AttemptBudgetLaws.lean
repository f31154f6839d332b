import Sammo.Gateway.AttemptBudget

/-! Both stores count attempts in the same windows, and the budget counts the calls that are under way. -/

namespace Sammo.AttemptBudget

open FixedWindow (Window Windows Charge Attempt current refuses put put_self put_of_ne charged fixedWindow)

variable {ρ : Type} {redis : Redis ρ} {state : ρ} {entries : Entries} {windows : Windows String} {now time : Int}

/-- The charge that a counter asks for. -/
def AuthCounter.toCharge (counter : AuthCounter) : Charge String :=
  ⟨counter.key, counter.limit, counter.windowMs, counter.limit_pos, counter.window_pos⟩

/-! ### Redis -/

/-- Redis has stored the windows that have been opened. -/
structure Kept (redis : Redis ρ) (state : ρ) (windows : Windows String) : Prop where
  stored : ∀ key, redis.stored state key = (windows key).map fun window => (window.count, some window.ends)
  positive : ∀ key window, windows key = some window → 0 < window.count

theorem Kept.found (kept : Kept redis state windows) (now : Int) (key : String) :
    ((redis.stored state key).filter fun value => value.2.all (redis.live now)) =
      (current redis.live windows now key).map fun window => (window.count, some window.ends) := by
  rw [kept.stored, current]
  cases windows key with
  | none => rfl
  | some window =>
    rw [Option.map_some, Option.filter_some, Option.filter_some, Option.all_some]
    split <;> rfl

theorem Kept.get (kept : Kept redis state windows) (now : Int) (key : String) :
    redis.get state now key = (current redis.live windows now key).map Window.count := by
  rw [redis.get_eq, kept.found, Option.map_map]
  rfl

theorem checkCounters_spec (kept : Kept redis state windows) (now : Int) (counters : List AuthCounter) {retry : Int}
    (nonneg : 0 ≤ retry) : ∃ result, checkCounters redis state now counters retry = some result ∧ retry ≤ result ∧
      (refuses redis.live windows now (counters.map AuthCounter.toCharge) = true → 0 < result) ∧
      (refuses redis.live windows now (counters.map AuthCounter.toCharge) = false → result = retry) := by
  induction counters generalizing retry with
  | nil => exact ⟨retry, rfl, Int.le_refl _, fun refused => (by cases refused), fun _ => rfl⟩
  | cons counter rest ih =>
    rw [checkCounters, kept.get]
    have head : refuses redis.live windows now ((counter :: rest).map AuthCounter.toCharge) =
        ((current redis.live windows now counter.key).any (fun window => counter.limit ≤ window.count) ||
          refuses redis.live windows now (rest.map AuthCounter.toCharge)) := rfl
    rw [head]
    cases found : current redis.live windows now counter.key with
    | none =>
      -- A counter without a window is below its limit.
      have below : ¬ counter.limit ≤ 0 := Nat.not_le.mpr counter.limit_pos
      obtain ⟨result, checked, more, refused, free⟩ := ih nonneg
      exact ⟨result, by simpa [below] using checked, more, by simpa using refused, by simpa using free⟩
    | some window =>
      obtain ⟨present, open_⟩ := Option.filter_eq_some_iff.mp found
      by_cases full : counter.limit ≤ window.count
      · have ttl := redis.pttl_eq state now counter.key window.count window.ends
          (by rw [kept.stored, present, Option.map_some]) open_
        have waits : 0 ≤ max retry (max (max 0 (window.ends - now)) 1) := by omega
        obtain ⟨result, checked, more, -, -⟩ := ih waits
        refine ⟨result, ?_, by omega, fun _ => by omega, fun free => ?_⟩
        · rw [Option.map_some, Option.getD_some, if_pos full, ttl, if_neg (by omega)]
          exact checked
        · simp [full] at free
      · obtain ⟨result, checked, more, refused, free⟩ := ih nonneg
        exact ⟨result, by simpa [full] using checked, more, by simpa [full] using refused, by simpa [full] using free⟩

theorem chargeCounter_kept (kept : Kept redis state windows) (counter : AuthCounter) :
    Kept redis (chargeCounter redis now state counter) (put redis.live now windows counter.toCharge) := by
  have raised : (redis.incr state now counter.key).1 =
      ((current redis.live windows now counter.key).map Window.count).getD 0 + 1 := by
    rw [redis.incr_count, kept.get]
  have stored := redis.incr_stored state now counter.key
  rw [kept.found] at stored
  have self : put redis.live now windows counter.toCharge counter.key =
      some (charged (current redis.live windows now counter.key) now counter.toCharge) :=
    put_self windows counter.toCharge
  have others {key : String} (apart : key ≠ counter.key) :
      put redis.live now windows counter.toCharge key = windows key := put_of_ne windows apart
  refine ⟨fun key => ?_, fun key window present => ?_⟩
  · unfold chargeCounter
    dsimp only
    cases found : current redis.live windows now counter.key with
    | none =>
      -- A new window gets the time at which it ends.
      rw [found, Option.map_none, Option.getD_none] at raised
      rw [found, raised] at stored
      rw [raised, if_pos rfl, redis.pexpire_stored _ now counter.key counter.windowMs 1 none
        ((stored counter.key).trans (if_pos rfl)) rfl, stored]
      by_cases same : key = counter.key
      · rw [if_pos same, same, self, found]
        rfl
      · rw [if_neg same, if_neg same, kept.stored, others same]
    | some window =>
      -- One that is open goes on to its end.
      have positive := kept.positive _ _ (Option.filter_eq_some_iff.mp found).1
      rw [found, Option.map_some, Option.getD_some] at raised
      rw [found, raised] at stored
      rw [raised, if_neg (by omega), stored]
      by_cases same : key = counter.key
      · rw [if_pos same, same, self, found]
        rfl
      · rw [if_neg same, kept.stored, others same]
  · by_cases same : key = counter.key
    · rw [same, self, Option.some.injEq] at present
      exact present ▸ FixedWindow.charged_pos _ now _
    · rw [others same] at present
      exact kept.positive key window present

theorem chargeCounters_kept (kept : Kept redis state windows) (counters : List AuthCounter) :
    Kept redis (counters.foldl (chargeCounter redis now) state)
      ((counters.map AuthCounter.toCharge).foldl (put redis.live now) windows) := by
  induction counters generalizing state windows with
  | nil => exact kept
  | cons counter rest ih => exact ih (chargeCounter_kept kept counter)

theorem consumeRedis_spec (kept : Kept redis state windows) (now : Int) (counters : List AuthCounter) :
    (refuses redis.live windows now (counters.map AuthCounter.toCharge) = true →
      accepted (consumeRedis redis now counters state).1 = false) ∧
    (refuses redis.live windows now (counters.map AuthCounter.toCharge) = false →
      accepted (consumeRedis redis now counters state).1 = true ∧
      Kept redis (consumeRedis redis now counters state).2
        ((counters.map AuthCounter.toCharge).foldl (put redis.live now) windows)) := by
  obtain ⟨result, checked, -, refused, free⟩ := checkCounters_spec kept now counters (Int.le_refl 0)
  unfold consumeRedis consumeScript
  rw [checked]
  constructor
  · intro full
    have waits := refused full
    simp only [if_pos waits, if_neg (show ¬ result < 0 by omega), accepted]
    exact decide_eq_false (by omega)
  · intro below
    obtain rfl := free below
    exact ⟨rfl, chargeCounters_kept kept counters⟩

theorem consumeRedis_frame (redis : Redis ρ) (now : Int) (counters : List AuthCounter) (state : ρ)
    (refused : accepted (consumeRedis redis now counters state).1 = false) :
    (consumeRedis redis now counters state).2 = state := by
  unfold consumeRedis consumeScript at refused ⊢
  dsimp only at refused ⊢
  cases checked : checkCounters redis state now counters 0 with
  | none => rfl
  | some retry =>
    rw [checked] at refused
    dsimp only at refused ⊢
    split
    · rfl
    · rename_i none_
      simp [none_, accepted] at refused

/-! ### The map in memory -/

/-- A window is open until it ends. -/
def open_ (now ends : Int) : Bool := now < ends

/-- The map holds the windows that are open at a time. -/
structure Held (entries : Entries) (windows : Windows String) (time : Int) : Prop where
  held : ∀ key, entries.get? key =
    (current open_ windows time key).map fun window => ⟨window.count, window.ends⟩

theorem Held.sweep (held : Held entries windows time) (later : time ≤ now) :
    Held (sweep now entries) windows now := by
  refine ⟨fun key => ?_⟩
  rw [AttemptBudget.sweep, OrderedMap.get?_filterValues, held.held, current, current]
  cases windows key with
  | none => rfl
  | some window =>
    rw [Option.filter_some, Option.filter_some]
    by_cases still : now < window.ends
    · have before : time < window.ends := Int.lt_of_le_of_lt later still
      simp [open_, Option.filter_some, before, still]
    · -- A window that has ended is swept, if it was still there.
      by_cases before : time < window.ends <;> simp [open_, Option.filter_some, before, still]

theorem retryMs_spec (held : Held entries windows now) (counters : List AuthCounter) :
    0 < retryMs now entries counters ↔
      refuses open_ windows now (counters.map AuthCounter.toCharge) = true := by
  -- The loop is about the longest time so far.
  have general (retry : Int) : (0 < counters.foldl (retryWith now entries) retry) ↔
      0 < retry ∨ refuses open_ windows now (counters.map AuthCounter.toCharge) = true := by
    induction counters generalizing retry with
    | nil => simp [refuses]
    | cons counter rest ih =>
      have head : refuses open_ windows now ((counter :: rest).map AuthCounter.toCharge) =
          ((current open_ windows now counter.key).any (fun window => counter.limit ≤ window.count) ||
            refuses open_ windows now (rest.map AuthCounter.toCharge)) := rfl
      rw [List.foldl_cons, ih, head, Bool.or_eq_true, ← or_assoc, retryWith, held.held]
      refine or_congr_left ?_
      cases found : current open_ windows now counter.key with
      | none => simp
      | some window =>
        have ends : now < window.ends := of_decide_eq_true (Option.filter_eq_some_iff.mp found).2
        by_cases full : counter.limit ≤ window.count
        · have waits : 0 < max retry (window.ends - now) := by omega
          simp [full, waits]
        · simp [full]
  rw [retryMs, general 0]
  simp

theorem chargeEntry_held (held : Held entries windows now) (counter : AuthCounter) :
    Held (chargeEntry now entries counter) (put open_ now windows counter.toCharge) now := by
  have self : put open_ now windows counter.toCharge counter.key =
      some (charged (current open_ windows now counter.key) now counter.toCharge) :=
    put_self windows counter.toCharge
  refine ⟨fun key => ?_⟩
  rw [chargeEntry, OrderedMap.get?_set, held.held counter.key]
  by_cases same : key = counter.key
  · rw [if_pos same, same]
    cases found : current open_ windows now counter.key with
    | none =>
      -- A new window ends later than now.
      have width := counter.window_pos
      have ends : now < now + (counter.windowMs : Int) := by omega
      rw [current, self, found, Option.filter_some]
      simp [charged, open_, AuthCounter.toCharge, ends]
    | some window =>
      have ends := (Option.filter_eq_some_iff.mp found).2
      rw [current, self, found]
      simp [charged, Option.filter_some, ends]
  · rw [if_neg same, held.held, current, current, put_of_ne windows same]

theorem chargeEntries_held (held : Held entries windows now) (counters : List AuthCounter) :
    Held (counters.foldl (chargeEntry now) entries)
      ((counters.map AuthCounter.toCharge).foldl (put open_ now) windows) now := by
  induction counters generalizing entries windows with
  | nil => exact held
  | cons counter rest ih => exact ih (chargeEntry_held held counter)

/-- There is room for the counters of a call. -/
def Fits (now : Int) (entries : Entries) (counters : List AuthCounter) : Prop :=
  sizeWith (sweep now entries) counters ≤ 8192

theorem consumeInMemory_frame (now : Int) (counters : List AuthCounter) (entries : Entries)
    (refused : accepted (consumeInMemory now counters entries).1 = false) :
    (consumeInMemory now counters entries).2 = sweep now entries := by
  unfold consumeInMemory at refused ⊢
  dsimp only at refused ⊢
  split at refused
  · rename_i full
    rw [if_pos full]
  · rename_i room
    rw [if_neg room]
    split at refused
    · rename_i waits
      rw [if_pos waits]
    · cases refused

theorem consumeInMemory_spec (held : Held entries windows time) (later : time ≤ now) (counters : List AuthCounter) :
    (accepted (consumeInMemory now counters entries).1 = true ↔ Fits now entries counters ∧
      refuses open_ windows now (counters.map AuthCounter.toCharge) = false) ∧
    (accepted (consumeInMemory now counters entries).1 = true → Held (consumeInMemory now counters entries).2
      ((counters.map AuthCounter.toCharge).foldl (put open_ now) windows) now) := by
  have swept := held.sweep later
  have waits := retryMs_spec swept counters
  unfold consumeInMemory Fits
  dsimp only
  by_cases full : 8192 < sizeWith (sweep now entries) counters
  · rw [if_pos full]
    exact ⟨⟨fun accepts => (by cases accepts), fun fits => absurd fits.1 (Nat.not_le.mpr full)⟩,
      fun accepts => (by cases accepts)⟩
  · rw [if_neg full]
    by_cases waiting : 0 < retryMs now (sweep now entries) counters
    · rw [if_pos waiting]
      have refused := waits.mp waiting
      have turned : accepted (.ok (retryMs now (sweep now entries) counters) : Answer) = false :=
        decide_eq_false (by omega)
      rw [turned, refused]
      exact ⟨⟨fun accepts => (by cases accepts), fun fits => (by cases fits.2)⟩, fun accepts => (by cases accepts)⟩
    · rw [if_neg waiting]
      have free := Bool.eq_false_iff.mpr (mt waits.mpr waiting)
      exact ⟨⟨fun _ => ⟨Nat.not_lt.mp full, free⟩, fun _ => rfl⟩, fun _ => chargeEntries_held swept counters⟩

end Sammo.AttemptBudget
