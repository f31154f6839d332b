import Sammo.Turns.ReservedTurnStore

/-! What the edits, the lease and the flush do to a stored queue of reserved turns. -/

namespace Sammo

theorem foldl_placeRow_length (maxTurns : Nat) (rows : List GeneralTurnRow)
    (turns : List ReservedTurnEntry) :
    (rows.foldl (placeRow maxTurns) turns).length = turns.length := by
  induction rows generalizing turns with
  | nil => rfl
  | cons row rest ih =>
    rw [List.foldl_cons, ih]
    unfold placeRow
    split <;> simp

/-- Stored rows always denote a full queue. -/
@[simp]
theorem buildTurnListFromRows_length (rows : List GeneralTurnRow) (maxTurns : Nat) :
    (buildTurnListFromRows rows maxTurns).length = maxTurns := by
  simp [buildTurnListFromRows, foldl_placeRow_length, buildDefaultTurns]

theorem normalizeEntry_roundTrip (entry : ReservedTurnEntry) :
    normalizeEntry (normalizeAction entry.action) (.obj entry.args) = entry := by
  -- The command of an entry has a name, so normalizing it changes nothing.
  obtain ⟨action, args, named⟩ := entry
  simp [normalizeEntry, normalizeAction, asRecord, named]

theorem foldl_placeRow_mapIdx (turns behind later : List ReservedTurnEntry) (maxTurns : Nat)
    (fits : behind.length + turns.length ≤ maxTurns) (sized : later.length = turns.length) :
    (turns.mapIdx fun turnIdx entry =>
        (⟨(behind.length + turnIdx : Nat), normalizeAction entry.action, .obj entry.args⟩ :
          GeneralTurnRow)).foldl (placeRow maxTurns) (behind ++ later) = behind ++ turns := by
  -- The first row overwrites the first open place, and the rest follows behind it.
  induction turns generalizing behind later with
  | nil => simp_all
  | cons entry rest ih =>
    obtain _ | ⟨first, others⟩ := later
    · simp at sized
    · simp only [List.length_cons] at fits sized
      have placed : placeRow maxTurns (behind ++ first :: others)
          ⟨(behind.length + 0 : Nat), normalizeAction entry.action, .obj entry.args⟩ =
          (behind ++ [entry]) ++ others := by
        simp [placeRow, normalizeEntry_roundTrip]
        omega
      have offset : ∀ turnIdx, behind.length + (turnIdx + 1) = (behind ++ [entry]).length + turnIdx := by
        intro turnIdx
        simp only [List.length_append, List.length_singleton]
        omega
      rw [List.mapIdx_cons, List.foldl_cons, placed]
      simp only [offset]
      rw [ih (behind ++ [entry]) others (by simp; omega) (by omega)]
      simp

variable {turns : List ReservedTurnEntry}

theorem buildTurnListFromRows_turnRows {maxTurns : Nat} (full : turns.length = maxTurns) :
    buildTurnListFromRows (turnRows turns) maxTurns = turns := by
  have placed := foldl_placeRow_mapIdx turns [] (buildDefaultTurns maxTurns) maxTurns (by simp [full])
    (by simp [buildDefaultTurns, full])
  simpa [buildTurnListFromRows, turnRows] using placed

/-- A stored queue is full. -/
@[simp]
theorem TurnQueueTables.loadGeneralTurns_length (tables : TurnQueueTables) :
    tables.loadGeneralTurns.length = maxGeneralTurns :=
  buildTurnListFromRows_length _ _

theorem applyShift_length {amount : Int} (within : amount.natAbs ≤ turns.length) :
    (applyShift turns amount).length = turns.length := by
  unfold applyShift
  split
  · rfl
  · split
    · simp only [buildDefaultTurns, List.length_append, List.length_replicate, List.length_take]
      omega
    · simp only [buildDefaultTurns, List.length_append, List.length_replicate, List.length_drop]
      omega

theorem storeApplyShift_length (turns : List ReservedTurnEntry) (amount : Int) :
    (storeApplyShift turns amount).length = turns.length := by
  unfold storeApplyShift
  split
  · rfl
  · split
    · simp only [buildDefaultTurns, List.length_append, List.length_replicate, List.length_take]
      omega
    · simp only [buildDefaultTurns, List.length_append, List.length_replicate, List.length_drop]
      omega

theorem foldl_length {α : Type} (write : List ReservedTurnEntry → α → List ReservedTurnEntry)
    (keeps : ∀ turns item, (write turns item).length = turns.length) (items : List α)
    (turns : List ReservedTurnEntry) : (items.foldl write turns).length = turns.length := by
  induction items generalizing turns with
  | nil => rfl
  | cons item rest ih => rw [List.foldl_cons, ih, keeps]

theorem applyRepeat_length (turns : List ReservedTurnEntry) (amount : Int) :
    (applyRepeat turns amount).length = turns.length := by
  unfold applyRepeat
  split
  · rfl
  · refine foldl_length _ (fun repeated sourceIndex => ?_) _ _
    exact foldl_length _ (fun repeated targetIndex => List.length_set) _ _

theorem GeneralTurnEdit.effect_length (edit : GeneralTurnEdit) (full : turns.length = maxGeneralTurns) :
    (edit.effect turns).length = maxGeneralTurns := by
  cases edit with
  | setGeneral turnIndex action args => simp [effect, full]
  | setGeneralBulk entries =>
    refine (foldl_length _ (fun turns entry => ?_) _ _).trans full
    exact foldl_length _ (fun turns index => List.length_set) _ _
  | shiftGeneral amount =>
    have bound := amount.property
    refine (applyShift_length ?_).trans full
    rw [full]
    simp only [maxGeneralTurns]
    omega
  | repeatGeneral amount => exact (applyRepeat_length _ _).trans full

namespace TurnQueueTables

variable {tables after : TurnQueueTables} {owner : String} {now : Int}

theorem loadGeneralTurns_persist {turns : List ReservedTurnEntry}
    (full : turns.length = maxGeneralTurns) :
    (tables.persistGeneralTurns turns).loadGeneralTurns = turns :=
  buildTurnListFromRows_turnRows full

variable {expectedRevision revision : Nat} {memory : TurnQueueMemory}

theorem claimGeneralRevision_ok
    (claimed : claimGeneralRevision tables expectedRevision now = .ok (after, revision)) :
    after.rows = tables.rows ∧ revision = tables.revision + 1 ∧
      after.revisionRow = some ⟨revision, none, none⟩ := by
  unfold claimGeneralRevision at claimed
  cases stored : tables.revisionRow with
  | none =>
    simp only [stored] at claimed
    split at claimed
    · obtain ⟨rfl, rfl⟩ := Prod.mk.inj (Except.ok.inj claimed)
      simp_all [TurnQueueTables.revision]
    · cases claimed
  | some row =>
    simp only [stored] at claimed
    split at claimed
    · obtain ⟨rfl, rfl⟩ := Prod.mk.inj (Except.ok.inj claimed)
      simp_all [TurnQueueTables.revision]
    · cases claimed

/-- The state of a queue after a change of it: one revision further, with nobody holding it. -/
structure ChangedTo (tables after : TurnQueueTables) (turns : List ReservedTurnEntry) : Prop where
  stored : after.loadGeneralTurns = turns
  revision : after.revision = tables.revision + 1
  unleased : after.leaseOwner = none

theorem rewriteGeneralTurns_ok {change : List ReservedTurnEntry → List ReservedTurnEntry}
    (full : (change tables.loadGeneralTurns).length = maxGeneralTurns)
    (rewritten : rewriteGeneralTurns tables expectedRevision now change = .ok (after, revision)) :
    tables.ChangedTo after (change tables.loadGeneralTurns) ∧ after.revision = revision := by
  unfold rewriteGeneralTurns at rewritten
  cases claim : claimGeneralRevision tables expectedRevision now with
  | error conflict => simp [claim, Bind.bind, Except.bind] at rewritten
  | ok claimed =>
    obtain ⟨claimed, next⟩ := claimed
    obtain ⟨sameRows, isNext, row⟩ := claimGeneralRevision_ok claim
    simp only [claim, Bind.bind, Except.bind, Except.ok.injEq, Prod.mk.injEq] at rewritten
    obtain ⟨rfl, rfl⟩ := rewritten
    have sameQueue : claimed.loadGeneralTurns = tables.loadGeneralTurns := by
      simp [loadGeneralTurns, sameRows]
    rw [sameQueue]
    refine ⟨⟨loadGeneralTurns_persist full, ?_, ?_⟩, ?_⟩
    · simp [persistGeneralTurns, TurnQueueTables.revision, row, isNext]
    · simp [persistGeneralTurns, TurnQueueTables.leaseOwner, row]
    · simp [persistGeneralTurns, TurnQueueTables.revision, row]

theorem edit_ok {edit : GeneralTurnEdit} (edited : edit.run tables expectedRevision now = .ok (after, revision)) :
    tables.ChangedTo after (edit.effect tables.loadGeneralTurns) ∧ after.revision = revision := by
  have full := edit.effect_length tables.loadGeneralTurns_length
  cases edit with
  | setGeneral turnIndex action args => exact rewriteGeneralTurns_ok full edited
  | setGeneralBulk entries =>
    have same : applyUpdates tables.loadGeneralTurns (entries.map fun entry =>
        ⟨expandGeneralTurnIndices entry.turnList, entry.action, entry.args⟩) =
        (GeneralTurnEdit.setGeneralBulk entries).effect tables.loadGeneralTurns := by
      simp [applyUpdates, GeneralTurnEdit.effect, List.foldl_map]
    rw [← same] at full ⊢
    simp only [GeneralTurnEdit.run, setGeneralTurns] at edited
    exact rewriteGeneralTurns_ok full edited
  | shiftGeneral amount =>
    -- The router's bound keeps the amount below the length of the queue.
    have bound := amount.property
    have short : ¬ maxGeneralTurns ≤ amount.val.natAbs := by
      simp only [maxGeneralTurns]
      omega
    simp only [GeneralTurnEdit.run, shiftGeneralTurns, if_neg short] at edited
    exact rewriteGeneralTurns_ok full edited
  | repeatGeneral amount =>
    have bound := amount.property
    have short : ¬ (maxGeneralTurns : Int) ≤ amount.val := by
      simp only [maxGeneralTurns]
      omega
    simp only [GeneralTurnEdit.run, repeatGeneralTurns, if_neg short] at edited
    exact rewriteGeneralTurns_ok full edited

theorem takeLease_some {mayTake : GeneralTurnRevision → Bool} {mayCreate : Bool}
    (taken : tables.takeLease owner now mayTake mayCreate = some after) :
    after.rows = tables.rows ∧ after.revision = tables.revision ∧ after.leaseOwner = some owner := by
  unfold takeLease at taken
  cases stored : tables.revisionRow with
  | none =>
    simp only [stored] at taken
    split at taken
    · obtain rfl := Option.some.inj taken
      simp [withLease, TurnQueueTables.revision, TurnQueueTables.leaseOwner, stored]
    · cases taken
  | some row =>
    simp only [stored] at taken
    split at taken
    · obtain rfl := Option.some.inj taken
      simp [withLease, TurnQueueTables.revision, TurnQueueTables.leaseOwner, stored]
    · cases taken

theorem releaseGeneralLease_cases (tables : TurnQueueTables) (owner : String) :
    (tables.releaseGeneralLease owner).rows = tables.rows ∧
      (tables.releaseGeneralLease owner).revision = tables.revision ∧
      ((tables.releaseGeneralLease owner).leaseOwner = none ∧ tables.leaseOwner = some owner ∨
        tables.releaseGeneralLease owner = tables) := by
  unfold releaseGeneralLease
  cases stored : tables.revisionRow with
  | none => simp [TurnQueueTables.leaseOwner, stored]
  | some row =>
    simp only
    split
    · rename_i held
      simp [TurnQueueTables.revision, TurnQueueTables.leaseOwner, stored, held]
    · exact ⟨rfl, rfl, .inr rfl⟩

theorem persistChanges_dirty (dirty : memory.dirty = true) (leased : memory.leased = true)
    (full : tables.leaseOwner = some owner → memory.getGeneralTurns.length = maxGeneralTurns)
    (persisted : tables.persistChanges owner memory now = some after) :
    tables.leaseOwner = some owner ∧ tables.ChangedTo after memory.getGeneralTurns := by
  simp only [persistChanges, dirty, if_true, claimGeneralFlushLease, leased] at persisted
  obtain ⟨claimed, claim, finalized⟩ := Option.bind_eq_some_iff.mp persisted
  obtain ⟨-, sameRevision, -⟩ := takeLease_some claim
  -- The claim asks for the stored lease, and the final statement for the claimed one.
  have held : tables.leaseOwner = some owner := by
    unfold takeLease at claim
    cases stored : tables.revisionRow with
    | none => simp [stored] at claim
    | some row =>
      simp only [stored] at claim
      split at claim
      · simp_all [TurnQueueTables.leaseOwner]
      · cases claim
  unfold finalizeGeneralFlush at finalized
  cases row : claimed.revisionRow with
  | none => simp [persistGeneralTurns, row] at finalized
  | some row' =>
    simp only [persistGeneralTurns, row] at finalized
    split at finalized
    · obtain rfl := Option.some.inj finalized
      refine ⟨held, buildTurnListFromRows_turnRows (full held), ?_, ?_⟩
      · simp only [TurnQueueTables.revision, row] at sameRevision ⊢
        simp_all
      · simp [TurnQueueTables.leaseOwner]
    · cases finalized

theorem persistChanges_clean (clean : memory.dirty = false)
    (persisted : tables.persistChanges owner memory now = some after) :
    after.rows = tables.rows ∧ after.revision = tables.revision ∧
      (after = tables ∨ after.leaseOwner = none ∧ tables.leaseOwner = some owner) := by
  simp only [persistChanges, clean, Bool.false_eq_true, if_false] at persisted
  split at persisted
  · obtain rfl := Option.some.inj persisted
    obtain ⟨rows, revision, ended⟩ := tables.releaseGeneralLease_cases owner
    exact ⟨rows, revision, ended.symm⟩
  · obtain rfl := Option.some.inj persisted
    exact ⟨rfl, rfl, .inl rfl⟩

end TurnQueueTables

end Sammo
