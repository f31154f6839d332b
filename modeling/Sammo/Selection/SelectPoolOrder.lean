import Sammo.Selection.SelectPool

/-! The order of the selection pool: who has which candidate, and how changes of rows keep it. -/

namespace Sammo

/-- A change of the rows a condition picks. -/
def changedPool (wanted : SelectPoolRow → Bool) (change : SelectPoolRow → SelectPoolRow)
    (pool : List SelectPoolRow) : List SelectPoolRow :=
  pool.map fun row => if wanted row then change row else row

/-- Every reservation runs until a tick that numbers represent exactly. -/
def SafeTicks (pool : List SelectPoolRow) : Prop :=
  ∀ row ∈ pool, ∀ tick, row.reservedUntilTick = some tick → isSafeInteger tick

variable {pool : List SelectPoolRow} {tick : Int} {wanted : SelectPoolRow → Bool} {userId : String}

theorem SafeTicks.changed (safe : SafeTicks pool) (wanted : SelectPoolRow → Bool)
    (change : SelectPoolRow → SelectPoolRow) (fewer : ∀ row, (change row).reservedUntilTick = none ∨
      (change row).reservedUntilTick = row.reservedUntilTick) : SafeTicks (changedPool wanted change pool) := by
  intro changed member tick stated
  obtain ⟨row, listed, rfl⟩ := List.mem_map.mp member
  split at stated
  · rcases fewer row with none | same
    · rw [none] at stated
      cases stated
    · exact safe row listed tick (same ▸ stated)
  · exact safe row listed tick stated

/-- The pool after reservations that have run out are taken back. -/
def takenBack (tick : Int) (pool : List SelectPoolRow) : List SelectPoolRow :=
  changedPool (fun row => row.generalId = none ∧ row.expiredAt tick) SelectPoolRow.release pool

/-- The pool after a user has reserved the free ones among some rows. -/
def reservedPool (userId : String) (ids : List Int) (instant tick : Int) (pool : List SelectPoolRow) :
    List SelectPoolRow :=
  changedPool (fun row => row.id ∈ ids ∧ row.isFree)
    (fun row => { row with
      ownerUserId := some userId, reservedUntil := some instant, reservedUntilTick := some tick }) pool

/-- What holds of the pool between calls. -/
structure OrderlyPool (tick : Int) (pool : List SelectPoolRow) : Prop where
  ids : (pool.map SelectPoolRow.id).Nodup
  /-- No general has two rows. -/
  generals : (pool.filterMap SelectPoolRow.generalId).Nodup
  /-- A row that belongs to a general is not reserved. -/
  single : ∀ row ∈ pool, row.generalId ≠ none →
    row.ownerUserId = none ∧ row.reservedUntil = none ∧ row.reservedUntilTick = none
  /-- No user has more good reservations than one request gives. -/
  fourteen : ∀ userId, pool.countP (fun row => row.isReservedBy userId tick) ≤ reservationCount

/-- What a change may do to a row: it leaves the id, and reserves neither a general's row nor another one. -/
structure TamesRow (tick : Int) (row changed : SelectPoolRow) : Prop where
  id : changed.id = row.id
  single : changed.generalId ≠ none →
    changed.ownerUserId = none ∧ changed.reservedUntil = none ∧ changed.reservedUntilTick = none
  reserved : ∀ userId, changed.isReservedBy userId tick = true → row.isReservedBy userId tick = true

theorem tames_release (tick : Int) (row : SelectPoolRow) : TamesRow tick row row.release :=
  ⟨rfl, fun _ => ⟨rfl, rfl, rfl⟩, fun userId => by simp [SelectPoolRow.isReservedBy, SelectPoolRow.release]⟩

theorem OrderlyPool.changed (orderly : OrderlyPool tick pool) {change : SelectPoolRow → SelectPoolRow}
    (distinct : ((changedPool wanted change pool).filterMap SelectPoolRow.generalId).Nodup)
    (tames : ∀ row ∈ pool, wanted row = true → TamesRow tick row (change row)) :
    OrderlyPool tick (changedPool wanted change pool) := by
  have tame : ∀ row ∈ pool, TamesRow tick row (if wanted row then change row else row) := by
    intro row member
    split
    · rename_i picked
      exact tames row member picked
    · exact ⟨rfl, orderly.single row member, fun _ held => held⟩
  refine ⟨?_, distinct, ?_, fun userId => ?_⟩
  · have same : (changedPool wanted change pool).map SelectPoolRow.id = pool.map SelectPoolRow.id := by
      rw [changedPool, List.map_map]
      exact List.map_congr_left fun row member => (tame row member).id
    rw [same]
    exact orderly.ids
  · intro changed member
    obtain ⟨row, listed, rfl⟩ := List.mem_map.mp member
    exact (tame row listed).single
  · refine Nat.le_trans ?_ (orderly.fourteen userId)
    rw [changedPool, List.countP_map]
    exact List.countP_mono_left fun row member => (tame row member).reserved userId

theorem OrderlyPool.bound_le (orderly : OrderlyPool tick pool) (generalId : Int) :
    (pool.filter fun row => row.generalId = some generalId).length ≤ 1 := by
  have once := List.nodup_iff_count_le_one.mp orderly.generals generalId
  rw [List.count, List.countP_filterMap] at once
  refine Nat.le_trans (Nat.le_of_eq ?_) once
  rw [← List.countP_eq_length_filter]
  refine List.countP_congr fun row _ => ?_
  cases row.generalId <;> simp

theorem OrderlyPool.later {later : Int} (orderly : OrderlyPool tick pool) (order : tick ≤ later) :
    OrderlyPool later pool := by
  refine ⟨orderly.ids, orderly.generals, orderly.single, fun userId => ?_⟩
  refine Nat.le_trans (List.countP_mono_left fun row _ => ?_) (orderly.fourteen userId)
  -- What is good later is good now.
  intro reserved
  obtain ⟨owner, free, active⟩ := of_decide_eq_true reserved
  refine decide_eq_true ⟨owner, free, ?_⟩
  unfold SelectPoolRow.activeAt at active ⊢
  split at active
  · have reached := of_decide_eq_true active
    exact decide_eq_true (by omega)
  · cases active

theorem OrderlyPool.release (orderly : OrderlyPool tick pool) : OrderlyPool tick (takenBack tick pool) := by
  refine orderly.changed ?_ fun row _ _ => tames_release tick row
  -- Releasing a row leaves its general.
  have same : (takenBack tick pool).filterMap SelectPoolRow.generalId = pool.filterMap SelectPoolRow.generalId := by
    rw [takenBack, changedPool, List.filterMap_map]
    refine List.filterMap_congr fun row _ => ?_
    simp only [Function.comp_apply]
    split <;> rfl
  exact same ▸ orderly.generals

theorem takenBack_unreserved (unreserved : ∀ row ∈ pool, row.isReservedBy userId tick = false) :
    ∀ row ∈ takenBack tick pool, row.isReservedBy userId tick = false := by
  intro changed member
  obtain ⟨row, listed, rfl⟩ := List.mem_map.mp member
  split
  · simp [SelectPoolRow.isReservedBy, SelectPoolRow.release, SelectPoolRow.activeAt]
  · exact unreserved row listed

/-- A row that belongs to a general, or to a user at a tick. -/
def SelectPoolRow.heldAt (row : SelectPoolRow) (tick : Int) : Bool :=
  row.generalId.isSome ∨ row.ownerUserId.isSome ∧ row.activeAt tick

theorem heldAt_of_expired {row : SelectPoolRow} (free : row.generalId = none)
    (expired : row.expiredAt tick = true) : row.heldAt tick = false := by
  have lost : row.activeAt tick = false := by
    unfold SelectPoolRow.expiredAt at expired
    unfold SelectPoolRow.activeAt
    split at expired
    · have passed := of_decide_eq_true expired
      exact decide_eq_false (by omega)
    · rfl
  simp [SelectPoolRow.heldAt, free, lost]

theorem takenBack_held (tick : Int) (pool : List SelectPoolRow) :
    (takenBack tick pool).filter (fun row => row.heldAt tick) = pool.filter fun row => row.heldAt tick := by
  unfold takenBack changedPool
  induction pool with
  | nil => rfl
  | cons row rest ih =>
    rw [List.map_cons, List.filter_cons, List.filter_cons, ih]
    by_cases wanted : row.generalId = none ∧ row.expiredAt tick = true
    · -- A row that has run out is held neither before nor after.
      have after : row.release.heldAt tick = false := by
        simp [SelectPoolRow.heldAt, SelectPoolRow.release, wanted.1]
      simp [wanted, after, heldAt_of_expired wanted.1 wanted.2]
    · simp [wanted]

theorem OrderlyPool.reserve {instant untilTick : Int} {ids : List Int} (orderly : OrderlyPool tick pool)
    (unreserved : ∀ row ∈ pool, row.isReservedBy userId tick = false)
    (count : (pool.filter fun row => row.id ∈ ids ∧ row.isFree).length = reservationCount)
    (distinct : ((reservedPool userId ids instant untilTick pool).filterMap SelectPoolRow.generalId).Nodup) :
    OrderlyPool tick (reservedPool userId ids instant untilTick pool) := by
  refine ⟨?_, distinct, ?_, fun other => ?_⟩
  · have same : (reservedPool userId ids instant untilTick pool).map SelectPoolRow.id =
        pool.map SelectPoolRow.id := by
      rw [reservedPool, changedPool, List.map_map]
      refine List.map_congr_left fun row _ => ?_
      simp only [Function.comp_apply]
      split <;> rfl
    exact same ▸ orderly.ids
  · intro changed member bound
    obtain ⟨row, listed, rfl⟩ := List.mem_map.mp member
    split at bound
    · -- A free row belongs to no general.
      rename_i wanted
      simp only [SelectPoolRow.isFree, decide_eq_true_eq] at wanted
      exact absurd wanted.2.2.2.2 bound
    · rename_i unwanted
      rw [if_neg unwanted]
      exact orderly.single row listed bound
  · rw [reservedPool, changedPool, List.countP_map]
    by_cases own : other = userId
    · -- All of the user's reservations are new ones.
      subst own
      rw [← count, ← List.countP_eq_length_filter]
      refine List.countP_mono_left fun row listed reserved => ?_
      simp only [Function.comp_apply] at reserved
      split at reserved
      · assumption
      · rw [unreserved row listed] at reserved
        cases reserved
    · refine Nat.le_trans (List.countP_mono_left fun row _ reserved => ?_) (orderly.fourteen other)
      simp only [Function.comp_apply] at reserved
      split at reserved
      · simp only [SelectPoolRow.isReservedBy, decide_eq_true_eq, Option.some.injEq] at reserved
        exact absurd reserved.1.symm own
      · exact reserved

/-- The pool after a user's reservations and those that have run out are taken back. -/
def clearedPool (userId : String) (tick : Int) (pool : List SelectPoolRow) : List SelectPoolRow :=
  changedPool (fun row => row.generalId = none ∧ (row.ownerUserId = some userId ∨ row.expiredAt tick))
    SelectPoolRow.release pool

/-- What a choice leaves of the pool: it is in order, the general has one row, and the user has none reserved. -/
structure ChosenRow (userId : String) (tick generalId : Int) (pool : List SelectPoolRow) : Prop where
  orderly : OrderlyPool tick pool
  bound : (pool.filter fun row => row.generalId = some generalId).length = 1
  cleared : ∀ row ∈ pool, row.ownerUserId ≠ some userId

theorem ChosenRow.of_bound {generalId : Int} (orderly : OrderlyPool tick pool)
    (bound : ∃ row ∈ pool, row.generalId = some generalId) :
    ChosenRow userId tick generalId (clearedPool userId tick pool) := by
  -- Releasing a row leaves its general.
  have same : (clearedPool userId tick pool).filterMap SelectPoolRow.generalId =
      pool.filterMap SelectPoolRow.generalId := by
    rw [clearedPool, changedPool, List.filterMap_map]
    refine List.filterMap_congr fun row _ => ?_
    simp only [Function.comp_apply]
    split <;> rfl
  have cleared : OrderlyPool tick (clearedPool userId tick pool) :=
    orderly.changed (same.symm ▸ orderly.generals) fun row _ _ => tames_release tick row
  refine ⟨cleared, Nat.le_antisymm (cleared.bound_le generalId) ?_, ?_⟩
  · obtain ⟨row, listed, owned⟩ := bound
    have kept : row ∈ clearedPool userId tick pool := by
      refine List.mem_map.mpr ⟨row, listed, ?_⟩
      simp [owned]
    exact List.length_pos_of_mem (List.mem_filter.mpr ⟨kept, decide_eq_true owned⟩)
  · intro changed member
    obtain ⟨row, listed, rfl⟩ := List.mem_map.mp member
    split
    · simp [SelectPoolRow.release]
    · rename_i unwanted
      intro owned
      -- A row of the user's that is left would be a general's, and those are not reserved.
      by_cases free : row.generalId = none
      · exact unwanted (decide_eq_true ⟨free, .inl owned⟩)
      · rw [(orderly.single row listed free).1] at owned
        cases owned

theorem exists_changed (change : SelectPoolRow → SelectPoolRow) (some_ : (pool.filter wanted).length ≠ 0) :
    ∃ row ∈ pool, wanted row = true ∧ change row ∈ changedPool wanted change pool := by
  obtain ⟨row, picked⟩ := List.exists_mem_of_length_pos (Nat.pos_of_ne_zero some_)
  obtain ⟨listed, holds⟩ := List.mem_filter.mp picked
  exact ⟨row, listed, holds, List.mem_map.mpr ⟨row, listed, if_pos holds⟩⟩

end Sammo
