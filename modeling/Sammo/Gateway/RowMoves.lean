import Sammo.Gateway.Transactions

/-! How the rows of the two tables move when a statement is executed. -/

namespace Sammo.Gateway.Transactions

/-- What a row keeps for good. -/
structure SameTarget (before after : OperationColumns) : Prop where
  id : after.id = before.id
  bulkReleaseId : after.bulkReleaseId = before.bulkReleaseId
  bulkOrder : after.bulkOrder = before.bulkOrder

/-- A row that does not start and does not come back; its owner keeps it unless it is the target of the statement. -/
structure Calm (target : Option (Lane × String)) (lane : Lane) (before after : OperationColumns) : Prop
    extends SameTarget before after where
  ended : ¬ before.status.Active → after.status = before.status
  running : after.status = .running → before.status = .running
  held : before.status = .running → target ≠ some (lane, before.id) →
    after.status = .running ∧ after.leaseOwner = before.leaseOwner

/-- What a statement does to the rows. -/
inductive Move where
  /-- Nothing starts; the owner of one row at most loses it. -/
  | calm (target : Option (Lane × String))
  /-- A row that waits is started. -/
  | starts (lane : Lane) (id : String)
  /-- A row is put back into the queue. -/
  | revives (lane : Lane) (id : String)

/-- How a row of a table moves. -/
def Move.Moves : Move → Lane → OperationColumns → OperationColumns → Prop
  | .calm target, lane, before, after => Calm target lane before after
  | .starts table id, lane, before, after =>
    SameTarget before after ∧
      (after.status = before.status ∧ after.leaseOwner = before.leaseOwner ∨
        lane = table ∧ before.id = id ∧ before.status = .queued ∧ after.status = .running)
  | .revives table id, lane, before, after =>
    SameTarget before after ∧
      (after.status = before.status ∧ after.leaseOwner = before.leaseOwner ∨
        lane = table ∧ before.id = id ∧ after.status = .queued)

/-- A row that has just been stored: it waits, and is no target of a bulk release. -/
structure NewRow (rows : List OperationColumns) (row : OperationColumns) : Prop where
  fresh : ∀ other ∈ rows, other.id ≠ row.id
  waits : row.status = .queued
  single : row.bulkReleaseId = none

/-- The rows of both tables move in some way. -/
structure Evolves (moves : Lane → OperationColumns → OperationColumns → Prop) (before after : ControlPlane) : Prop where
  forward : ∀ lane, ∀ row ∈ before.rows lane, ∃ moved ∈ after.rows lane, moves lane row moved
  backward : ∀ lane, ∀ moved ∈ after.rows lane,
    (∃ row ∈ before.rows lane, moves lane row moved) ∨ NewRow (before.rows lane) moved
  distinct : ∀ lane, ((before.rows lane).map OperationColumns.id).Nodup →
    ((after.rows lane).map OperationColumns.id).Nodup

theorem Calm.refl (target : Option (Lane × String)) (lane : Lane) (row : OperationColumns) : Calm target lane row row :=
  ⟨⟨rfl, rfl, rfl⟩, fun _ => rfl, fun running => running, fun running _ => ⟨running, rfl⟩⟩

theorem Move.Moves.refl (move : Move) (lane : Lane) (row : OperationColumns) : move.Moves lane row row := by
  cases move with
  | calm target => exact Calm.refl target lane row
  | starts table id => exact ⟨⟨rfl, rfl, rfl⟩, .inl ⟨rfl, rfl⟩⟩
  | revives table id => exact ⟨⟨rfl, rfl, rfl⟩, .inl ⟨rfl, rfl⟩⟩

theorem Move.Moves.same {move : Move} {lane : Lane} {before after : OperationColumns}
    (moves : move.Moves lane before after) : SameTarget before after := by
  cases move with
  | calm target => exact moves.toSameTarget
  | starts table id => exact moves.1
  | revives table id => exact moves.1

theorem Evolves.of_eq (move : Move) {before after : ControlPlane} (same : ∀ lane, after.rows lane = before.rows lane) :
    Evolves move.Moves before after := by
  refine ⟨?_, ?_, ?_⟩
  · intro lane row member
    exact ⟨row, same lane ▸ member, Move.Moves.refl move lane row⟩
  · intro lane row member
    exact .inl ⟨row, same lane ▸ member, Move.Moves.refl move lane row⟩
  · intro lane distinct
    rw [same lane]
    exact distinct

theorem Evolves.congr {moves : Lane → OperationColumns → OperationColumns → Prop} {before after other : ControlPlane}
    (evolves : Evolves moves before after) (same : ∀ lane, other.rows lane = after.rows lane) :
    Evolves moves before other := by
  refine ⟨?_, ?_, ?_⟩
  · intro lane row member
    rw [same]
    exact evolves.forward lane row member
  · intro lane row member
    rw [same] at member
    exact evolves.backward lane row member
  · intro lane distinct
    rw [same]
    exact evolves.distinct lane distinct

theorem rows_updateRows (db : ControlPlane) (lane table : Lane) (condition : OperationColumns → Bool)
    (change : OperationColumns → OperationColumns) : (db.updateRows table condition change).rows lane =
      if lane = table then (db.rows lane).map fun row => if condition row then change row else row else db.rows lane := by
  cases table <;> cases lane
  · simp only [ControlPlane.updateRows, ControlPlane.updateOperations, ControlPlane.rows, if_true, List.map_map]
    refine List.map_congr_left fun operation _ => ?_
    simp only [Function.comp_apply]
    split <;> rfl
  · rfl
  · rfl
  · simp only [ControlPlane.updateRows, ControlPlane.rows, if_true, List.map_map]
    refine List.map_congr_left fun release _ => ?_
    simp only [Function.comp_apply]
    split <;> rfl

theorem Evolves.updateRows {move : Move} (db : ControlPlane) {table : Lane} {condition : OperationColumns → Bool}
    {change : OperationColumns → OperationColumns}
    (moves : ∀ row ∈ db.rows table, condition row = true → move.Moves table row (change row)) :
    Evolves move.Moves db (db.updateRows table condition change) := by
  have step (row : OperationColumns) (member : row ∈ db.rows table) :
      move.Moves table row (if condition row then change row else row) := by
    split
    · rename_i met
      exact moves row member met
    · exact Move.Moves.refl move table row
  refine ⟨?_, ?_, ?_⟩
  · intro lane row member
    rw [rows_updateRows]
    split
    · rename_i same
      subst same
      exact ⟨_, List.mem_map_of_mem member, step row member⟩
    · exact ⟨row, member, Move.Moves.refl move lane row⟩
  · intro lane moved member
    rw [rows_updateRows] at member
    split at member
    · rename_i same
      subst same
      obtain ⟨row, stored, rfl⟩ := List.mem_map.mp member
      exact .inl ⟨row, stored, step row stored⟩
    · exact .inl ⟨moved, member, Move.Moves.refl move lane moved⟩
  · intro lane distinct
    rw [rows_updateRows]
    split
    · rename_i same
      subst same
      have ids : ((db.rows lane).map fun row => if condition row then change row else row).map OperationColumns.id =
          (db.rows lane).map OperationColumns.id := by
        rw [List.map_map]
        exact List.map_congr_left fun row member => (step row member).same.id
      rw [ids]
      exact distinct
    · exact distinct

theorem Evolves.expireInterimDeploys (db : ControlPlane) (now : Int) :
    Evolves (Move.calm none).Moves db (db.expireInterimDeploys now) := by
  have step (operation : GatewayOperation) : Calm none .profile operation.toOperationColumns
      (if db.expires now operation then
        operation.withColumns (OperationColumns.settled .cancelled (some now)) else operation).toOperationColumns := by
    split
    · -- Only what waits is cancelled.
      rename_i expires
      have waits : operation.status = .queued := (of_decide_eq_true expires).1
      refine ⟨⟨rfl, rfl, rfl⟩, fun ended => (ended (.inl waits)).elim, nofun, ?_⟩
      intro running
      rw [waits] at running
      cases running
    · exact Calm.refl none .profile _
  have profile : (db.expireInterimDeploys now).rows .profile = db.operations.map fun operation =>
      (if db.expires now operation then
        operation.withColumns (OperationColumns.settled .cancelled (some now)) else operation).toOperationColumns := by
    simp only [ControlPlane.expireInterimDeploys, ControlPlane.updateOperations, ControlPlane.rows, List.map_map]
    rfl
  refine ⟨?_, ?_, ?_⟩
  · intro lane row member
    cases lane with
    | profile =>
      obtain ⟨operation, stored, rfl⟩ := List.mem_map.mp member
      rw [profile]
      exact ⟨_, List.mem_map_of_mem stored, step operation⟩
    | release => exact ⟨row, member, Calm.refl none .release row⟩
  · intro lane moved member
    cases lane with
    | profile =>
      rw [profile] at member
      obtain ⟨operation, stored, rfl⟩ := List.mem_map.mp member
      exact .inl ⟨_, List.mem_map_of_mem stored, step operation⟩
    | release => exact .inl ⟨moved, member, Calm.refl none .release moved⟩
  · intro lane distinct
    cases lane with
    | profile =>
      rw [profile, List.map_map]
      have ids : db.operations.map (OperationColumns.id ∘ fun operation =>
          (if db.expires now operation then
            operation.withColumns (OperationColumns.settled .cancelled (some now)) else operation).toOperationColumns) =
          (db.rows .profile).map OperationColumns.id := by
        rw [ControlPlane.rows, List.map_map]
        exact List.map_congr_left fun operation _ => (step operation).id
      rw [ids]
      exact distinct
    | release => exact distinct

theorem Evolves.insert {before after : ControlPlane} (table : Lane) {row : OperationColumns}
    (own : after.rows table = before.rows table ++ [row]) (other : after.rows table.other = before.rows table.other)
    (new : NewRow (before.rows table) row) : Evolves (Move.calm none).Moves before after := by
  -- A lane is the table of the new row, or the other one.
  have lanes (lane : Lane) : lane = table ∨ lane = table.other := by
    cases lane <;> cases table <;> simp [Lane.other]
  refine ⟨?_, ?_, ?_⟩
  · intro lane stored member
    refine ⟨stored, ?_, Calm.refl none lane stored⟩
    rcases lanes lane with rfl | rfl
    · rw [own]
      exact List.mem_append_left _ member
    · rw [other]
      exact member
  · intro lane moved member
    rcases lanes lane with rfl | rfl
    · rw [own] at member
      rcases List.mem_append.mp member with member | member
      · exact .inl ⟨moved, member, Calm.refl none lane moved⟩
      · rw [List.mem_singleton.mp member]
        exact .inr new
    · rw [other] at member
      exact .inl ⟨moved, member, Calm.refl none _ moved⟩
  · intro lane distinct
    rcases lanes lane with rfl | rfl
    · rw [own, List.map_append, List.nodup_append]
      refine ⟨distinct, List.nodup_singleton _, ?_⟩
      intro id listed last isLast same
      obtain ⟨stored, member, rfl⟩ := List.mem_map.mp listed
      rw [List.map_cons, List.map_nil, List.mem_singleton] at isLast
      exact new.fresh stored member (same.trans isLast)
    · rw [other]
      exact distinct

end Sammo.Gateway.Transactions
