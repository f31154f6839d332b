import Sammo.Gateway.ControlPlane
import Sammo.Gateway.OpenRequestConsensus

/-! Which operations of one profile wait or work at the same time, and in which order they start. -/

namespace Sammo.Gateway

/-- A reset that is reserved for a time. -/
structure Reserved (operation : GatewayOperation) : Prop where
  type : operation.type = .reset
  status : operation.status = .queued
  scheduledAt : operation.scheduledAt.isSome

/-- One of two operations is a reserved reset, and the other one a deployment. -/
def Interim (left right : GatewayOperation) : Prop :=
  Reserved left ∧ right.type = .deploy ∨ Reserved right ∧ left.type = .deploy

/-- Two operations may be there at the same time. -/
def Compatible (left right : GatewayOperation) : Prop :=
  left.profileName = right.profileName → left.status.Active → right.status.Active → Interim left right

/-- The operations of every profile may be there at the same time. -/
structure Admitted (operations : List GatewayOperation) : Prop where
  distinct : (operationIds operations).Nodup
  compatible : ∀ left ∈ operations, ∀ right ∈ operations, left.id ≠ right.id → Compatible left right

/-- A profile's active operations: one at most, or a reserved reset and a deployment. -/
def OneOrInterim (active : List GatewayOperation) : Prop :=
  active.length ≤ 1 ∨ ∃ reset deploy, (active = [reset, deploy] ∨ active = [deploy, reset]) ∧ Reserved reset ∧
    deploy.type = .deploy

variable {left right : GatewayOperation} {operation : GatewayOperation}

theorem Compatible.symm (compatible : Compatible left right) : Compatible right left :=
  fun same first second => (compatible same.symm second first).symm

theorem Reserved.not_deploy (reserved : Reserved operation) : operation.type ≠ .deploy := by
  rw [reserved.type]
  nofun

section admitted

variable {operations : List GatewayOperation} (admitted : Admitted operations)

include admitted

theorem Admitted.same {left right : GatewayOperation} (isLeft : left ∈ operations) (isRight : right ∈ operations)
    (ids : left.id = right.id) : left = right :=
  List.inj_on_of_nodup_map admitted.distinct isLeft isRight ids

theorem Admitted.oneOrInterim (profileName : String) : OneOrInterim
    (operations.filter fun operation => operation.profileName = profileName ∧ operation.status.Active) := by
  have listed {operation : GatewayOperation} (member : operation ∈
      operations.filter fun operation => operation.profileName = profileName ∧ operation.status.Active) :
      operation ∈ operations ∧ operation.profileName = profileName ∧ operation.status.Active := by
    obtain ⟨stored, active⟩ := List.mem_filter.mp member
    exact ⟨stored, of_decide_eq_true active⟩
  have distinct : ((operations.filter fun operation =>
      operation.profileName = profileName ∧ operation.status.Active).map fun operation => operation.id).Nodup :=
    admitted.distinct.sublist (List.filter_sublist.map _)
  revert listed distinct
  generalize (operations.filter fun operation =>
    operation.profileName = profileName ∧ operation.status.Active) = active
  intro listed distinct
  -- Any two of the operations are a reserved reset and a deployment.
  have interim (left right : GatewayOperation) (isLeft : left ∈ active) (isRight : right ∈ active)
      (different : left.id ≠ right.id) : Interim left right := by
    obtain ⟨storedLeft, here, activeLeft⟩ := listed isLeft
    obtain ⟨storedRight, there, activeRight⟩ := listed isRight
    exact admitted.compatible left storedLeft right storedRight different (here.trans there.symm) activeLeft activeRight
  match active with
  | [] => exact .inl (by simp)
  | [operation] => exact .inl (by simp)
  | [left, right] =>
    have different : left.id ≠ right.id := by
      intro same
      simp [same] at distinct
    rcases interim left right (by simp) (by simp) different with ⟨reserved, deploy⟩ | ⟨reserved, deploy⟩
    · exact .inr ⟨left, right, .inl rfl, reserved, deploy⟩
    · exact .inr ⟨right, left, .inr rfl, reserved, deploy⟩
  | first :: second :: third :: rest =>
    -- Of three operations two would be of the same kind.
    have differs : first.id ≠ second.id ∧ first.id ≠ third.id ∧ second.id ≠ third.id := by
      simp only [List.map_cons, List.nodup_cons, List.mem_cons, not_or] at distinct
      exact ⟨distinct.1.1, distinct.1.2.1, distinct.2.1.1⟩
    have one := interim first second (by simp) (by simp) differs.1
    have two := interim first third (by simp) (by simp) differs.2.1
    have three := interim second third (by simp) (by simp) differs.2.2
    rcases one with ⟨reserved, deploy⟩ | ⟨reserved, deploy⟩
    · rcases two with ⟨-, also⟩ | ⟨-, no⟩
      · rcases three with ⟨other, -⟩ | ⟨other, -⟩
        · exact (other.not_deploy deploy).elim
        · exact (other.not_deploy also).elim
      · exact (reserved.not_deploy no).elim
    · rcases two with ⟨no, -⟩ | ⟨other, -⟩
      · exact (no.not_deploy deploy).elim
      · rcases three with ⟨-, also⟩ | ⟨-, also⟩
        · exact (other.not_deploy also).elim
        · exact (reserved.not_deploy also).elim

end admitted

/-- A change of an operation by which it does not come into conflict with others. -/
structure Keeps (before after : GatewayOperation) : Prop where
  id : after.id = before.id
  profileName : after.profileName = before.profileName
  type : after.type = before.type
  active : after.status.Active → before.status.Active
  reserved : Reserved before → after.status.Active → Reserved after

theorem Keeps.refl (operation : GatewayOperation) : Keeps operation operation :=
  ⟨rfl, rfl, rfl, fun active => active, fun reserved _ => reserved⟩

theorem Compatible.keep {newLeft newRight : GatewayOperation} (compatible : Compatible left right)
    (first : Keeps left newLeft) (second : Keeps right newRight) : Compatible newLeft newRight := by
  intro same activeLeft activeRight
  have before : left.profileName = right.profileName := by
    rw [← first.profileName, ← second.profileName]
    exact same
  rcases compatible before (first.active activeLeft) (second.active activeRight) with
    ⟨reserved, deploy⟩ | ⟨reserved, deploy⟩
  · exact .inl ⟨first.reserved reserved activeLeft, second.type.trans deploy⟩
  · exact .inr ⟨second.reserved reserved activeRight, first.type.trans deploy⟩

variable {now : Int} {change : GatewayOperation → GatewayOperation}

theorem compatible_of_canQueue {type : GatewayOperationType} {scheduledAt : Option Int}
    {operations : List GatewayOperation} {profileName : String}
    (admits : canQueueAlongsideActiveOperations type scheduledAt
      (operations.filter fun operation => operation.profileName = profileName ∧ operation.status.Active) now = true)
    {queued other : GatewayOperation} (isType : queued.type = type) (here : queued.profileName = profileName)
    (member : other ∈ operations) : Compatible queued other := by
  intro same _ active
  have inside : other ∈ operations.filter fun operation =>
      operation.profileName = profileName ∧ operation.status.Active :=
    List.mem_filter.mpr ⟨member, decide_eq_true ⟨same.symm.trans here, active⟩⟩
  unfold canQueueAlongsideActiveOperations at admits
  split at admits
  · rename_i none
    rw [none] at inside
    cases inside
  · rename_i reservedReset only
    rw [only, List.mem_singleton] at inside
    subst inside
    obtain ⟨deploy, -, reset, waits, due, found, -⟩ := of_decide_eq_true admits
    have reserved : Reserved other := ⟨reset, waits, by rw [Option.mem_def.mp found]; rfl⟩
    exact .inr ⟨reserved, isType.trans deploy⟩
  · cases admits

theorem Admitted.insert {operations : List GatewayOperation} (admitted : Admitted operations)
    (fresh : operation.id ∉ operationIds operations) (fits : ∀ other ∈ operations, Compatible operation other) :
    Admitted (operations ++ [operation]) := by
  refine ⟨operationIds_append admitted.distinct fresh, ?_⟩
  intro left isLeft right isRight different
  rcases List.mem_append.mp isLeft with isLeft | isLeft
  · rcases List.mem_append.mp isRight with isRight | isRight
    · exact admitted.compatible left isLeft right isRight different
    · rw [List.mem_singleton.mp isRight]
      exact (fits left isLeft).symm
  · rcases List.mem_append.mp isRight with isRight | isRight
    · rw [List.mem_singleton.mp isLeft]
      exact fits right isRight
    · rw [List.mem_singleton.mp isLeft, List.mem_singleton.mp isRight] at different
      exact (different rfl).elim

theorem Admitted.replace {operations : List GatewayOperation} (admitted : Admitted operations)
    (ids : ∀ operation, (change operation).id = operation.id)
    (fits : ∀ operation ∈ operations, Keeps operation (change operation) ∨
      ∀ other ∈ operations, other.id ≠ operation.id → Keeps other (change other) ∧ Compatible (change operation) other) :
    Admitted (operations.map change) := by
  refine ⟨by rw [operationIds_map ids]; exact admitted.distinct, ?_⟩
  intro left isLeft right isRight different
  obtain ⟨first, storedFirst, rfl⟩ := List.mem_map.mp isLeft
  obtain ⟨second, storedSecond, rfl⟩ := List.mem_map.mp isRight
  rw [ids, ids] at different
  rcases fits first storedFirst with keepsFirst | fitsFirst
  · rcases fits second storedSecond with keepsSecond | fitsSecond
    · exact (admitted.compatible first storedFirst second storedSecond different).keep keepsFirst keepsSecond
    · obtain ⟨keeps, compatible⟩ := fitsSecond first storedFirst different
      exact (compatible.keep (Keeps.refl _) keeps).symm
  · obtain ⟨keeps, compatible⟩ := fitsFirst second storedSecond different.symm
    exact compatible.keep (Keeps.refl _) keeps

/-- A step that starts no operation, and keeps the operations admitted. -/
structure Quiet (operations next : List GatewayOperation) : Prop where
  admitted : Admitted operations → Admitted next
  running : ∀ after ∈ next, after.status = .running → ∃ before ∈ operations, before.id = after.id ∧
    before.status = .running

theorem Quiet.refl (operations : List GatewayOperation) : Quiet operations operations :=
  ⟨fun admitted => admitted, fun after member running => ⟨after, member, rfl, running⟩⟩

theorem Quiet.update (db : ControlPlane) {condition : GatewayOperation → Bool}
    (ids : ∀ operation, (change operation).id = operation.id)
    (keeps : ∀ operation, condition operation = true → Keeps operation (change operation))
    (stops : ∀ operation, (change operation).status ≠ .running) :
    Quiet db.operations (db.updateOperations condition change).operations := by
  have sameIds (operation : GatewayOperation) :
      (if condition operation then change operation else operation).id = operation.id := by
    split
    · exact ids operation
    · rfl
  constructor
  · intro admitted
    refine admitted.replace sameIds fun operation _ => .inl ?_
    split
    · rename_i met
      exact keeps operation met
    · exact Keeps.refl operation
  · intro after member running
    obtain ⟨before, stored, rfl⟩ := List.mem_map.mp member
    refine ⟨before, stored, (sameIds before).symm, ?_⟩
    split at running
    · exact (stops before running).elim
    · exact running

theorem Quiet.insert {operations : List GatewayOperation} (fresh : operation.id ∉ operationIds operations)
    (fits : ∀ other ∈ operations, Compatible operation other) (waits : operation.status = .queued) :
    Quiet operations (operations ++ [operation]) := by
  refine ⟨fun admitted => admitted.insert fresh fits, ?_⟩
  intro after member running
  rcases List.mem_append.mp member with member | member
  · exact ⟨after, member, rfl, running⟩
  · rw [List.mem_singleton.mp member, waits] at running
    cases running

theorem keeps_settled (operation : GatewayOperation) {change : OperationColumns → OperationColumns}
    (id : (change operation.toOperationColumns).id = operation.id)
    (inactive : ¬ (change operation.toOperationColumns).status.Active) :
    Keeps operation (operation.withColumns change) :=
  ⟨id, rfl, rfl, fun active => (inactive active).elim, fun _ active => (inactive active).elim⟩

namespace ControlPlane

variable {db next : ControlPlane}

variable {processNow createdAt : Int} {newId : String} {id leaseOwner : String} {requestedBy : String}

theorem createOperation_quiet {input : GatewayOperationCreateInput} (fresh : newId ∉ operationIds db.operations)
    (created : db.createOperation input newId createdAt processNow = .ok next) :
    Quiet db.operations next.operations := by
  unfold createOperation at created
  split at created
  · rename_i admits
    obtain rfl := Except.ok.inj created
    refine Quiet.insert fresh ?_ rfl
    intro other member
    exact compatible_of_canQueue admits rfl rfl member
  · cases created

theorem expireInterimDeploys_quiet (now : Int) : Quiet db.operations (db.expireInterimDeploys now).operations := by
  refine Quiet.update db ?_ ?_ ?_
  · exact fun _ => rfl
  · exact fun operation _ => keeps_settled operation rfl (by simp [OperationColumns.settled, GatewayOperationStatus.Active])
  · intro operation running
    cases running

theorem completeOperation_quiet {status : GatewayOperationStatus} {fields : CompletionFields}
    (ends : ¬ status.Active)
    (completed : db.completeOperation .profile id status fields leaseOwner processNow = .ok next) :
    Quiet db.operations next.operations := by
  unfold completeOperation at completed
  split at completed
  · obtain rfl := Except.ok.inj completed
    refine Quiet.update db ?_ ?_ ?_
    · exact fun _ => rfl
    · exact fun operation _ => keeps_settled operation rfl ends
    · intro operation running
      exact ends (.inr running)
  · cases completed

theorem requeueOperation_quiet {detail : Option String} {retryAt : Option Int}
    (requeued : db.requeueOperation id detail retryAt leaseOwner = .ok next) :
    Quiet db.operations next.operations := by
  unfold requeueOperation at requeued
  split at requeued
  · obtain rfl := Except.ok.inj requeued
    refine Quiet.update db ?_ ?_ ?_
    · exact fun _ => rfl
    · intro operation held
      obtain ⟨-, running, -⟩ := of_decide_eq_true held
      refine ⟨rfl, rfl, rfl, fun _ => .inr running, ?_⟩
      -- What is put back was running, so it was no reserved reset.
      intro reserved
      have waits : operation.status = .queued := reserved.status
      rw [waits] at running
      cases running
    · intro operation running
      cases running
  · cases requeued

theorem cancelOperation_quiet (id : String) (processNow : Int) :
    Quiet db.operations (db.cancelOperation id processNow).1.operations := by
  unfold cancelOperation
  split
  · exact Quiet.refl _
  · split
    · refine Quiet.update db ?_ ?_ ?_
      · exact fun _ => rfl
      · exact fun operation _ =>
          keeps_settled operation rfl (by simp [OperationColumns.settled, GatewayOperationStatus.Active])
      · intro operation running
        cases running
    · exact Quiet.refl _

theorem writeRetry_quiet {write : RetryWrite GatewayOperation} (fresh : newId ∉ operationIds db.operations)
    (read : db.readRetry id requestedBy newId createdAt processNow = .ok write) :
    Quiet db.operations (db.writeRetry write).1.operations := by
  unfold readRetry at read
  split at read
  · obtain rfl := Except.ok.inj read
    exact Quiet.refl _
  rename_i previous found
  have stored : previous ∈ db.operations := List.mem_of_find?_eq_some found
  have named : previous.id = id := by simpa using List.find?_some found
  split at read
  · obtain rfl := Except.ok.inj read
    exact Quiet.refl _
  split at read
  · rename_i admits
    split at read
    · split at read
      · cases read
      · -- A target of a bulk release waits again in its own row.
        rename_i resolvedCommitSha _
        obtain rfl := Except.ok.inj read
        have ids (operation : GatewayOperation) : (if (decide (operation.id = id)) = true then operation.withColumns
            (OperationColumns.requeuedInBulk resolvedCommitSha requestedBy) else operation).id = operation.id := by
          split <;> rfl
        constructor
        · intro admitted
          refine admitted.replace ids ?_
          intro operation member
          by_cases own : operation.id = id
          · obtain rfl := admitted.same member stored (own.trans named.symm)
            refine .inr fun other isOther different => ?_
            rw [if_neg (by simpa [named] using different), if_pos (by simpa using own)]
            exact ⟨Keeps.refl other, compatible_of_canQueue admits rfl rfl isOther⟩
          · rw [if_neg (by simpa using own)]
            exact .inl (Keeps.refl operation)
        · intro after member running
          obtain ⟨before, isBefore, rfl⟩ := List.mem_map.mp member
          refine ⟨before, isBefore, (ids before).symm, ?_⟩
          split at running
          · cases running
          · exact running
    · -- Any other operation is tried again in a new row.
      obtain rfl := Except.ok.inj read
      refine Quiet.insert fresh ?_ rfl
      intro other member
      exact compatible_of_canQueue admits rfl rfl member
  · cases read

theorem retryOperation_quiet {retried : Bool} (fresh : newId ∉ operationIds db.operations)
    (called : db.retryOperation id requestedBy newId createdAt processNow = .ok (next, retried)) :
    Quiet db.operations next.operations := by
  unfold retryOperation at called
  cases read : db.readRetry id requestedBy newId createdAt processNow with
  | error error =>
    rw [read] at called
    cases called
  | ok write =>
    rw [read] at called
    obtain rfl := congrArg Prod.fst (Except.ok.inj called)
    exact writeRetry_quiet fresh read

end ControlPlane

variable {ties : String → Nat} {rows : List OperationColumns} {row : OperationColumns} {lease : Option Lease}

theorem firstRunning_none (idle : OperationColumns.firstRunning ties rows = none) :
    ∀ row ∈ rows, row.status ≠ .running := by
  intro row member running
  unfold OperationColumns.firstRunning at idle
  have listed : row ∈ (rows.filter fun row => row.status = .running).insertionSort (OperationColumns.IsOlder ties) :=
    (List.mem_insertionSort _).mpr (List.mem_filter.mpr ⟨member, decide_eq_true running⟩)
  rw [List.head?_eq_none_iff.mp idle] at listed
  cases listed

theorem firstRunning_some (found : OperationColumns.firstRunning ties rows = some row) :
    row ∈ rows ∧ row.status = .running := by
  have listed := List.mem_of_head? found
  obtain ⟨member, running⟩ := List.mem_filter.mp ((List.mem_insertionSort _).mp listed)
  exact ⟨member, of_decide_eq_true running⟩

theorem nextQueued_some {queued : List OperationColumns}
    (found : OperationColumns.nextQueued ties rows queued = some row) :
    row ∈ queued ∧ OperationColumns.Unblocked rows row := by
  unfold OperationColumns.nextQueued at found
  refine ⟨(List.mem_insertionSort _).mp (List.mem_of_mem_take (List.mem_of_find?_eq_some found)), ?_⟩
  simpa using List.find?_some found

/-- What a claim does to the operations. -/
inductive Claims (db : ControlPlane) (lease : Option Lease) (now : Int) : ControlPlane → Prop
  /-- Something else is running. -/
  | busy : Claims db lease now db
  /-- Nothing may start. -/
  | swept : Claims db lease now (db.expireInterimDeploys now)
  /-- An operation is taken over whose owner has been lost. -/
  | resumed (candidate : OperationColumns) (running : candidate.status = .running) :
    Claims db lease now ((db.expireInterimDeploys now).claimOperation candidate lease now).1
  /-- An operation that waits is started. -/
  | started (operation : GatewayOperation) (stored : operation ∈ (db.expireInterimDeploys now).operations)
    (waits : operation.status = .queued) (due : ∀ scheduledAt ∈ operation.scheduledAt, scheduledAt ≤ now)
    (alone : ∀ other ∈ db.operations, other.status ≠ .running) :
    Claims db lease now ((db.expireInterimDeploys now).claimOperation operation.toOperationColumns lease now).1

theorem claims (db : ControlPlane) (ties : String → Nat) (lease : Option Lease) (now : Int) :
    Claims db lease now (db.claimNextOperation ties lease now).1 := by
  unfold ControlPlane.claimNextOperation
  split
  · exact .busy
  dsimp only
  split
  · exact .busy
  cases found : OperationColumns.firstRunning ties (db.rows .profile) with
  | some running =>
    rw [Option.some_or]
    exact .resumed running (firstRunning_some found).2
  | none =>
    rw [Option.none_or]
    cases queued : OperationColumns.nextQueued ties (db.expireInterimDeploys now).columns
        ((db.expireInterimDeploys now).queuedRows now .profile) with
    | none => exact .swept
    | some candidate =>
      obtain ⟨operation, listed, rfl⟩ := List.mem_map.mp (nextQueued_some queued).1
      obtain ⟨stored, here⟩ := List.mem_filter.mp listed
      obtain ⟨waits, due⟩ := of_decide_eq_true here
      refine .started operation stored waits due ?_
      intro other member
      exact firstRunning_none found other.toOperationColumns (List.mem_map_of_mem member)

/-- An operation that starts has its turn: no reset of its profile is due before it, and none of its deployments runs. -/
structure InTurn (operations : List GatewayOperation) (now : Int) (operation : GatewayOperation) : Prop where
  deploy : operation.type = .deploy → ∀ reset ∈ operations, reset.profileName = operation.profileName →
    Reserved reset → ∀ scheduledAt ∈ reset.scheduledAt, now < scheduledAt
  reset : operation.type = .reset → ∀ deploy ∈ operations, deploy.profileName = operation.profileName →
    deploy.type = .deploy → deploy.status ≠ .running

theorem waits_before_sweep {db : ControlPlane} (stored : operation ∈ (db.expireInterimDeploys now).operations)
    (waits : operation.status = .queued) : operation ∈ db.operations ∧ db.expires now operation = false := by
  obtain ⟨before, member, same⟩ := List.mem_map.mp stored
  split at same
  · -- What is overtaken is cancelled.
    rw [← same] at waits
    cases waits
  · rename_i stays
    subst same
    exact ⟨member, by simpa using stays⟩

theorem not_due_of_not_expires {db : ControlPlane} {deploy : GatewayOperation}
    (stays : db.expires now deploy = false) (waits : deploy.status = .queued) (isDeploy : deploy.type = .deploy) :
    ∀ reset ∈ db.operations, reset.profileName = deploy.profileName → Reserved reset →
      ∀ scheduledAt ∈ reset.scheduledAt, now < scheduledAt := by
  intro reset member same reserved scheduledAt found
  by_contra due
  refine of_decide_eq_false stays ⟨waits, isDeploy, reset, member, same, reserved.status, reserved.type, ?_⟩
  exact ⟨scheduledAt, found, not_lt.mp due⟩

theorem claimOperation_id (candidate : OperationColumns) (lease : Option Lease) (now : Int)
    (operation : GatewayOperation) : (if candidate.claimable now operation.toOperationColumns then
      operation.withColumns (candidate.claimed lease now) else operation).id = operation.id := by
  split <;> rfl

theorem claimOperation_operations (db : ControlPlane) (candidate : OperationColumns) (lease : Option Lease) (now : Int) :
    (db.claimOperation candidate lease now).1.operations = db.operations.map fun operation =>
      if candidate.claimable now operation.toOperationColumns then operation.withColumns (candidate.claimed lease now)
      else operation := by
  unfold ControlPlane.claimOperation
  dsimp only
  split <;> rfl

theorem keeps_claimed (candidate : OperationColumns) (lease : Option Lease) (now : Int)
    (running : operation.status = .running) :
    Keeps operation (operation.withColumns (candidate.claimed lease now)) := by
  refine ⟨rfl, rfl, rfl, fun _ => .inr running, ?_⟩
  intro reserved
  have waits : operation.status = .queued := reserved.status
  rw [waits] at running
  cases running

theorem Claims.admitted {db next : ControlPlane} (claims : Claims db lease now next)
    (admitted : Admitted db.operations) : Admitted next.operations := by
  have sweptAdmitted := (ControlPlane.expireInterimDeploys_quiet now).admitted admitted
  cases claims with
  | busy => exact admitted
  | swept => exact sweptAdmitted
  | resumed candidate running =>
    rw [claimOperation_operations]
    refine sweptAdmitted.replace (claimOperation_id candidate lease now) ?_
    intro operation _
    split
    · -- The row was running before.
      rename_i claimable
      obtain ⟨-, state⟩ := of_decide_eq_true claimable
      rw [if_neg (by rw [running]; nofun)] at state
      exact .inl (keeps_claimed candidate lease now state.1)
    · exact .inl (Keeps.refl operation)
  | started chosen stored waits due alone =>
    rw [claimOperation_operations]
    refine sweptAdmitted.replace (claimOperation_id _ lease now) ?_
    intro operation member
    split
    · rename_i claimable
      obtain ⟨same, -⟩ := of_decide_eq_true claimable
      obtain rfl := sweptAdmitted.same member stored same
      refine .inr fun other isOther different => ⟨?_, ?_⟩
      · rw [if_neg (by simpa [OperationColumns.claimable] using fun same => (different same).elim)]
        exact Keeps.refl other
      · intro here _ active
        rcases sweptAdmitted.compatible operation stored other isOther (Ne.symm different) here (.inl waits) active with
          ⟨reserved, deploy⟩ | ⟨reserved, deploy⟩
        · -- The reset is due, so the deployment beside it would have been cancelled.
          rcases active with queued | running
          · obtain ⟨-, stays⟩ := waits_before_sweep isOther queued
            obtain ⟨before, -⟩ := waits_before_sweep stored waits
            obtain ⟨scheduledAt, found⟩ := Option.isSome_iff_exists.mp reserved.scheduledAt
            have later := not_due_of_not_expires stays queued deploy operation before here reserved scheduledAt found
            exact absurd (due scheduledAt found) (not_le.mpr later)
          · obtain ⟨before, isBefore, -, ran⟩ :=
              (ControlPlane.expireInterimDeploys_quiet now).running other isOther running
            exact (alone before isBefore ran).elim
        · exact .inr ⟨reserved, deploy⟩
    · exact .inl (Keeps.refl operation)

theorem Claims.inTurn {db next : ControlPlane} (claims : Claims db lease now next)
    (admitted : Admitted db.operations) {before after : GatewayOperation} (isBefore : before ∈ db.operations)
    (isAfter : after ∈ next.operations) (same : after.id = before.id) (waits : before.status = .queued)
    (running : after.status = .running) : InTurn db.operations now before := by
  -- What was running before is another row.
  have ran {other : GatewayOperation} (member : other ∈ db.operations) (ids : other.id = after.id)
      (status : other.status = .running) : False := by
    obtain rfl := admitted.same member isBefore (ids.trans same)
    rw [waits] at status
    cases status
  have quiet : Quiet db.operations (db.expireInterimDeploys now).operations :=
    ControlPlane.expireInterimDeploys_quiet now
  cases claims with
  | busy => exact (ran isAfter rfl running).elim
  | swept =>
    obtain ⟨other, member, ids, status⟩ := quiet.running after isAfter running
    exact (ran member ids status).elim
  | resumed candidate resumes =>
    rw [claimOperation_operations] at isAfter
    obtain ⟨operation, member, rfl⟩ := List.mem_map.mp isAfter
    have status : operation.status = .running := by
      split at running
      · rename_i claimable
        obtain ⟨-, state⟩ := of_decide_eq_true claimable
        rw [if_neg (by rw [resumes]; nofun)] at state
        exact state.1
      · exact running
    obtain ⟨other, isOther, ids, was⟩ := quiet.running operation member status
    exact (ran isOther (ids.trans (claimOperation_id candidate lease now operation).symm) was).elim
  | started chosen stored chosenWaits due alone =>
    obtain ⟨old, stays⟩ := waits_before_sweep stored chosenWaits
    rw [claimOperation_operations] at isAfter
    obtain ⟨operation, member, rfl⟩ := List.mem_map.mp isAfter
    rw [claimOperation_id] at same
    split at running
    · rename_i claimable
      obtain ⟨ids, -⟩ := of_decide_eq_true claimable
      obtain rfl := admitted.same old isBefore (ids.symm.trans same)
      exact ⟨fun deploy => not_due_of_not_expires stays chosenWaits deploy, fun _ other isOther _ _ => alone other isOther⟩
    · -- A row that has not been claimed is not running.
      obtain ⟨other, isOther, -, was⟩ := quiet.running operation member running
      exact (alone other isOther was).elim

namespace Admission

/-- The control plane, and the clock of its database. -/
structure State where
  now : Int
  db : ControlPlane

/-- What happens to the operations of the profiles; a process that has its own clock brings it along. -/
inductive Event (User : Type) where
  | advance (milliseconds : Nat)
  | createOperation (input : GatewayOperationCreateInput) (newId : String) (processNow : Int)
  | retryOperation (id requestedBy newId : String) (processNow : Int)
  | claimNextOperation (ties : String → Nat) (lease : Option Lease)
  | requeueOperation (id : String) (detail : Option String) (retryAt : Option Int) (leaseOwner : String)
  | completeOperation (id : String) (succeeded : Bool) (fields : CompletionFields) (leaseOwner : String)
    (processNow : Int)
  | cancelOperation (id : String) (processNow : Int)
  /-- An open request of a profile is reserved. -/
  | reserve (surroundings : OpenRequests.Surroundings) (profile : OpenRequests.State User)
    (request : OpenRequests.OpenRequest) (actorId : String)
  | appendOperationLog (id level phase message : String)
  /-- The gateway's own releases go on. -/
  | setReleases (releases : List GatewayReleaseOperation)

/-- What a call answers. -/
inductive Output where
  | done
  | answered (succeeded : Bool)
  | claimed (operation : Option GatewayOperation)
  | failed (error : ControlPlaneError)
  | refused (failure : OpenRequests.Failure)

/-- The state with other tables. -/
def State.withDb (state : State) (db : ControlPlane) : State := { state with db }

/-- What a call leaves; a call that throws is rolled back. -/
def State.answer (state : State) : Except ControlPlaneError ControlPlane → State × Output
  | .ok db => (state.withDb db, .answered true)
  | .error error => (state, .failed error)

/-- An open request is reserved, with the operations that the database has for its profile. -/
def State.reserve {User : Type} (rules : OpenRequests.OpeningRules User) (surroundings : OpenRequests.Surroundings)
    (state : State) (profile : OpenRequests.State User) (request : OpenRequests.OpenRequest) (actorId : String) :
    State × Output :=
  let operations := state.db.operations.filter fun operation => operation.profileName = profile.profile.profileName
  match ({ profile with operations } : OpenRequests.State User).reserve rules surroundings request actorId with
  | .error failure => (state, .refused failure)
  | .ok (next, _) =>
    (state.withDb ({ state.db with
        operations := state.db.operations ++ next.operations.drop operations.length }.log surroundings.newId "queue"
          "오픈 요청이 서버 패치 정책을 따르는 초기화 예약으로 전환되었습니다."), .answered true)

/-- The calls on the profiles' operations, one after another. -/
def machine {User : Type} (rules : OpenRequests.OpeningRules User) : StateMachine State (Event User) Output where
  step state
    | .advance milliseconds => some ({ state with now := state.now + milliseconds }, .done)
    | .createOperation input newId processNow =>
      if newId ∈ operationIds state.db.operations then none
      else some (state.answer (state.db.createOperation input newId state.now processNow))
    | .retryOperation id requestedBy newId processNow =>
      if newId ∈ operationIds state.db.operations then none
      else
        match state.db.retryOperation id requestedBy newId state.now processNow with
        | .ok (db, retried) => some (state.withDb db, .answered retried)
        | .error error => some (state, .failed error)
    | .claimNextOperation ties lease =>
      let result := state.db.claimNextOperation ties lease state.now
      some (state.withDb result.1, .claimed result.2)
    | .requeueOperation id detail retryAt leaseOwner =>
      some (state.answer (state.db.requeueOperation id detail retryAt leaseOwner))
    | .completeOperation id succeeded fields leaseOwner processNow =>
      some (state.answer (state.db.completeOperation .profile id (if succeeded then .succeeded else .failed) fields leaseOwner
        processNow))
    | .cancelOperation id processNow =>
      let result := state.db.cancelOperation id processNow
      some (state.withDb result.1, .answered result.2)
    | .reserve surroundings profile request actorId =>
      if surroundings.newId ∈ operationIds state.db.operations then none
      else some (state.reserve rules surroundings profile request actorId)
    | .appendOperationLog id level phase message =>
      some (state.withDb (state.db.appendOperationLog id level phase message .profile), .done)
    | .setReleases releases => some (state.withDb { state.db with releases }, .done)

variable {User : Type} {rules : OpenRequests.OpeningRules User} {state next : State}

variable {output : Output}

theorem answer_quiet {result : Except ControlPlaneError ControlPlane}
    (answered : state.answer result = (next, output))
    (quiet : ∀ db, result = .ok db → Quiet state.db.operations db.operations) :
    Quiet state.db.operations next.db.operations := by
  unfold State.answer at answered
  split at answered
  · obtain ⟨rfl, -⟩ := Prod.mk.inj answered
    exact quiet _ rfl
  · obtain ⟨rfl, -⟩ := Prod.mk.inj answered
    exact Quiet.refl _

theorem reserve_quiet {surroundings : OpenRequests.Surroundings} {profile : OpenRequests.State User}
    {request : OpenRequests.OpenRequest} {actorId : String}
    (fresh : surroundings.newId ∉ operationIds state.db.operations)
    (reserved : state.reserve rules surroundings profile request actorId = (next, output)) :
    Quiet state.db.operations next.db.operations := by
  unfold State.reserve at reserved
  dsimp only at reserved
  split at reserved
  · obtain ⟨rfl, -⟩ := Prod.mk.inj reserved
    exact Quiet.refl _
  · rename_i after result succeeded
    obtain ⟨rfl, -⟩ := Prod.mk.inj reserved
    obtain ⟨reservable, source, commit, rfl⟩ := OpenRequests.reserve_ok succeeded
    show Quiet _ (state.db.operations ++ List.drop _ (_ ++ [_]))
    rw [List.drop_left]
    refine Quiet.insert fresh ?_ rfl
    -- An active operation of the profile would have refused the reservation.
    intro other member same _ active
    have inside : other ∈ state.db.operations.filter fun operation =>
        operation.profileName = profile.profile.profileName :=
      List.mem_filter.mpr ⟨member, decide_eq_true same.symm⟩
    exact (List.any_eq_false.mp reservable.idle other inside (decide_eq_true active)).elim

theorem step_admitted {event : Event User} (admitted : Admitted state.db.operations)
    (stepped : (machine rules).step state event = some (next, output)) :
    Admitted next.db.operations ∧ ∀ before ∈ state.db.operations, ∀ after ∈ next.db.operations, after.id = before.id →
      before.status = .queued → after.status = .running → InTurn state.db.operations state.now before := by
  -- A step that starts nothing keeps the operations admitted.
  have settle (quiet : Quiet state.db.operations next.db.operations) : Admitted next.db.operations ∧
      ∀ before ∈ state.db.operations, ∀ after ∈ next.db.operations, after.id = before.id →
        before.status = .queued → after.status = .running → InTurn state.db.operations state.now before := by
    refine ⟨quiet.admitted admitted, ?_⟩
    intro before isBefore after isAfter same waits running
    obtain ⟨other, member, ids, status⟩ := quiet.running after isAfter running
    obtain rfl := admitted.same member isBefore (ids.trans same)
    rw [waits] at status
    cases status
  cases event with
  | advance milliseconds =>
    obtain ⟨rfl, -⟩ := Prod.mk.inj (Option.some.inj stepped)
    exact settle (Quiet.refl _)
  | createOperation input newId processNow =>
    simp only [machine] at stepped
    split at stepped
    · cases stepped
    · rename_i fresh
      exact settle (answer_quiet (Option.some.inj stepped) fun db created =>
        ControlPlane.createOperation_quiet fresh created)
  | retryOperation id requestedBy newId processNow =>
    simp only [machine] at stepped
    split at stepped
    · cases stepped
    · rename_i fresh
      split at stepped
      · rename_i db retried called
        obtain ⟨rfl, -⟩ := Prod.mk.inj (Option.some.inj stepped)
        exact settle (ControlPlane.retryOperation_quiet fresh called)
      · obtain ⟨rfl, -⟩ := Prod.mk.inj (Option.some.inj stepped)
        exact settle (Quiet.refl _)
  | claimNextOperation ties lease =>
    obtain ⟨rfl, -⟩ := Prod.mk.inj (Option.some.inj stepped)
    have done := claims state.db ties lease state.now
    refine ⟨done.admitted admitted, ?_⟩
    intro before isBefore after isAfter same waits running
    exact done.inTurn admitted isBefore isAfter same waits running
  | requeueOperation id detail retryAt leaseOwner =>
    exact settle (answer_quiet (Option.some.inj stepped) fun db requeued => ControlPlane.requeueOperation_quiet requeued)
  | completeOperation id succeeded fields leaseOwner processNow =>
    refine settle (answer_quiet (Option.some.inj stepped) fun db completed => ?_)
    refine ControlPlane.completeOperation_quiet ?_ completed
    cases succeeded <;> simp [GatewayOperationStatus.Active]
  | cancelOperation id processNow =>
    obtain ⟨rfl, -⟩ := Prod.mk.inj (Option.some.inj stepped)
    exact settle (ControlPlane.cancelOperation_quiet id processNow)
  | reserve surroundings profile request actorId =>
    simp only [machine] at stepped
    split at stepped
    · cases stepped
    · rename_i fresh
      exact settle (reserve_quiet fresh (Option.some.inj stepped))
  | appendOperationLog id level phase message =>
    obtain ⟨rfl, -⟩ := Prod.mk.inj (Option.some.inj stepped)
    exact settle (Quiet.refl _)
  | setReleases releases =>
    obtain ⟨rfl, -⟩ := Prod.mk.inj (Option.some.inj stepped)
    exact settle (Quiet.refl _)

/-- Nothing waits or works, whatever has been done before. -/
structure Idle (state : State) : Prop where
  distinct : (operationIds state.db.operations).Nodup
  idle : ∀ operation ∈ state.db.operations, ¬ operation.status.Active

theorem admitted_of_run {start : State} {trace : List (Event User × Output)} (admitted : Admitted start.db.operations)
    (run : (machine rules).Run start trace state) : Admitted state.db.operations :=
  run.stateInvariant admitted fun _ _ _ _ held _ stepped => (step_admitted held stepped).1

/-- A profile has one active operation at most, apart from a reserved reset and a deployment, which start in turn. -/
theorem admission_of_run {start : State} {trace : List (Event User × Output)} (idle : Idle start)
    (run : (machine rules).Run start trace state) :
    (∀ profileName, OneOrInterim (state.db.activeOperations profileName)) ∧
      ∀ event output next, (machine rules).step state event = some (next, output) →
        ∀ before ∈ state.db.operations, ∀ after ∈ next.db.operations, after.id = before.id →
          before.status = .queued → after.status = .running → InTurn state.db.operations state.now before := by
  have start : Admitted start.db.operations :=
    ⟨idle.distinct, fun left isLeft _ _ _ _ active _ => (idle.idle left isLeft active).elim⟩
  have admitted := admitted_of_run start run
  refine ⟨fun profileName => admitted.oneOrInterim profileName, ?_⟩
  intro event output next stepped
  exact (step_admitted admitted stepped).2

/-- Everybody is a full member. -/
def anyMember : OpenRequests.OpeningRules Unit := ⟨fun _ _ _ => true, fun _ => 0⟩

/-- An operation that an operator asks for. -/
def wanted (type : GatewayOperationType) (scheduledAt : Option Int) : GatewayOperationCreateInput :=
  ⟨"che", type, some .branch, some "main", ⟨none, none, []⟩, none, "operator", scheduledAt⟩

/-- A deployment is queued beside a reserved reset, and has not started when the reset is due. -/
def interimDeploy : List (Event Unit) :=
  [.createOperation (wanted .reset (some 100)) "reset" 0, .createOperation (wanted .deploy none) "deploy" 10,
    .advance 100]

/-- A control plane that nobody has used yet. -/
def unused : State := ⟨0, ⟨[], [], [], [], fun _ => none⟩⟩

/-- The pair of a reserved reset and a deployment is there until the reset is due. -/
theorem admission_of_run_interim : ∃ trace state, (machine anyMember).Run unused trace state ∧
    (state.db.activeOperations "che").map (fun operation => operation.id) = ["reset", "deploy"] ∧
    OneOrInterim (state.db.activeOperations "che") := by
  have replayed : ((machine anyMember).replay unused interimDeploy).map
      (fun result => (result.1.db.activeOperations "che").map fun operation => operation.id) =
        some ["reset", "deploy"] := by decide +kernel
  obtain ⟨⟨state, trace⟩, found, active⟩ := Option.map_eq_some_iff.mp replayed
  have run := StateMachine.run_of_replay found
  have idle : Idle unused := ⟨List.nodup_nil, fun _ member => (List.not_mem_nil member).elim⟩
  exact ⟨trace, state, run, active, (admission_of_run idle run).1 "che"⟩

end Admission

end Sammo.Gateway
