import Sammo.Gateway.StepShapes

/-! At most one operation runs on the whole control plane, and lost owners change nothing. -/

namespace Sammo.Gateway.Transactions

/-- One operation at most is running, and the transactions agree about it. -/
structure Exclusive (state : State) : Prop where
  distinct : Distinct state.db
  lone : Lone state.db
  /-- Only the transaction that has the lock can have found anything under it. -/
  locked : ∀ entry ∈ state.transactions, entry.2.HasLock → state.lock = some entry.1
  numbers : ∀ left ∈ state.transactions, ∀ right ∈ state.transactions, left.1 = right.1 → left = right
  base : ∀ entry ∈ state.transactions, entry.2.Base state.db

variable {entry : Nat × Transaction}

theorem mem_goOn {state : State} {number : Nat} {transaction : Transaction}
    (member : entry ∈ (state.goOn number transaction).transactions) :
    entry = (number, transaction) ∨ entry ∈ state.transactions ∧ entry.1 ≠ number := by
  rcases List.mem_cons.mp member with rfl | other
  · exact .inl rfl
  · obtain ⟨stored, different⟩ := List.mem_filter.mp other
    exact .inr ⟨stored, by simpa using different⟩

theorem Finished.mem {number : Nat} {state next : State} (finished : Finished number state next)
    (member : entry ∈ next.transactions) : entry ∈ state.transactions ∧ entry.1 ≠ number := by
  rw [finished.transactions] at member
  obtain ⟨stored, different⟩ := List.mem_filter.mp member
  exact ⟨stored, by simpa using different⟩

namespace Exclusive

variable {event : Event} {state next : State}

variable {number : Nat} {transaction : Transaction}

theorem unlocked (exclusive : Exclusive state) (found : state.transaction? number = some transaction)
    (holder : transaction.HasLock) {entry : Nat × Transaction} (member : entry ∈ state.transactions)
    (different : entry.1 ≠ number) : ¬ entry.2.HasLock := by
  intro also
  have own := exclusive.locked _ (mem_of_transaction? found) holder
  have other := exclusive.locked _ member also
  exact different (Option.some.inj (other.symm.trans own))

theorem goOn (exclusive : Exclusive state) {db : ControlPlane} {lock : Option Nat} (distinct : Distinct db)
    (lone : Lone db) (base : transaction.Base db)
    (others : ∀ entry ∈ state.transactions, entry.1 ≠ number → entry.2.Base db)
    (own : transaction.HasLock → lock = some number)
    (locks : ∀ entry ∈ state.transactions, entry.1 ≠ number → entry.2.HasLock → lock = some entry.1) :
    Exclusive (({ state with db, lock } : State).goOn number transaction) := by
  refine ⟨distinct, lone, ?_, ?_, ?_⟩
  · intro entry member
    rcases mem_goOn member with rfl | ⟨stored, different⟩
    · exact own
    · exact locks entry stored different
  · intro left isLeft right isRight same
    rcases mem_goOn isLeft with rfl | ⟨storedLeft, leftOther⟩
    · rcases mem_goOn isRight with rfl | ⟨-, rightOther⟩
      · rfl
      · exact (rightOther same.symm).elim
    · rcases mem_goOn isRight with rfl | ⟨storedRight, -⟩
      · exact (leftOther same).elim
      · exact exclusive.numbers left storedLeft right storedRight same
  · intro entry member
    rcases mem_goOn member with rfl | ⟨stored, different⟩
    · exact base
    · exact others entry stored different

theorem finish (exclusive : Exclusive state) (finished : Finished number state next)
    (distinct : Distinct next.db) (lone : Lone next.db)
    (others : ∀ entry ∈ state.transactions, entry.1 ≠ number → entry.2.Base next.db) : Exclusive next := by
  refine ⟨distinct, lone, ?_, ?_, ?_⟩
  · intro entry member holder
    obtain ⟨stored, different⟩ := finished.mem member
    have owner := exclusive.locked entry stored holder
    rw [finished.lock, if_neg]
    · exact owner
    · intro same
      exact different (Option.some.inj (owner.symm.trans same))
  · intro left isLeft right isRight same
    exact exclusive.numbers left (finished.mem isLeft).1 right (finished.mem isRight).1 same
  · intro entry member
    obtain ⟨stored, different⟩ := finished.mem member
    exact others entry stored different

theorem step (exclusive : Exclusive state) (shape : Shape event state next) : Exclusive next := by
  -- What the transactions have found stays true while nothing starts.
  have others {move : Move} {db : ControlPlane} (evolves : Evolves move.Moves state.db db) (rests : move.Rests) :
      ∀ entry ∈ state.transactions, entry.2.Base db :=
    fun entry member => (exclusive.base entry member).evolve evolves rests
  -- A transaction that ends without having started anything.
  have ends {number : Nat} {move : Move} (finished : Finished number state next)
      (evolves : Evolves move.Moves state.db next.db) (rests : move.Rests) : Exclusive next :=
    exclusive.finish finished (evolves.keepsDistinct exclusive.distinct) (exclusive.lone.evolve evolves rests)
      fun entry member _ => others evolves rests entry member
  cases shape with
  | call target aimed free evolves transactions lock =>
    refine ⟨evolves.keepsDistinct exclusive.distinct, exclusive.lone.evolve evolves trivial, ?_, ?_, ?_⟩
    · rw [transactions, lock]
      exact exclusive.locked
    · rw [transactions]
      exact exclusive.numbers
    · rw [transactions]
      exact others evolves trivial
  | begins number transaction unlocked base firm goes =>
    rw [goes]
    exact exclusive.goOn exclusive.distinct exclusive.lone base (fun entry member _ => exclusive.base entry member)
      (fun holder => (unlocked holder).elim) fun entry member _ => exclusive.locked entry member
  | locks number transaction free base firm goes =>
    rw [goes]
    refine exclusive.goOn exclusive.distinct exclusive.lone base (fun entry member _ => exclusive.base entry member)
      (fun _ => rfl) ?_
    -- Nobody had the lock before.
    intro entry member _ holder
    have owner := exclusive.locked entry member holder
    rw [free] at owner
    cases owner
  | goesOn number before after db found holder evolves base firm goes =>
    rw [goes]
    refine exclusive.goOn (evolves.keepsDistinct exclusive.distinct) (exclusive.lone.evolve evolves trivial) base
      (fun entry member _ => others evolves trivial entry member) ?_ fun entry member _ => exclusive.locked entry member
    exact fun _ => exclusive.locked _ (mem_of_transaction? found) holder
  | ended number finished evolves => exact ends finished evolves trivial
  | tookOver number lane id finished aimed free evolves => exact ends finished evolves trivial
  | started number claim candidate found phase queued still finished evolves =>
    refine exclusive.finish finished (evolves.keepsDistinct exclusive.distinct) (Lone.starts evolves still) ?_
    -- The claim has the lock, so the others have found nothing yet.
    intro entry member different
    have holder : (Transaction.claim claim).HasLock := by
      show claim.phase ≠ .waiting
      rw [phase]
      nofun
    exact (exclusive.base entry member).keep (exclusive.unlocked found holder member different)
  | retried number before id found holder sound finished evolves => exact ends finished evolves trivial
  | retriedRelease number id resolvedCommitSha requestedBy own found finished evolves => exact ends finished evolves trivial

end Exclusive

/-- A step takes no release from an owner whose publication has been admitted and is still to be written. -/
def Event.sparesPublished (state : State) (event : Event) : Bool :=
  match event.takes state with
  | some (.release, id) => ¬ ∃ entry ∈ state.transactions, entry.2.published = some id
  | _ => true

/-- The retry of a release finds it as it was read, when it is written. -/
def Event.retriesFailed (state : State) : Event → Bool
  | .proceed number =>
    match state.transaction? number with
    | some (.retryRelease (.requeue id _ _)) =>
      ∃ row ∈ state.db.rows .release, row.id = id ∧ (row.status = .failed ∨ row.status = .cancelled)
    | _ => true
  | _ => true

/-- Nothing comes between the read and the write of a publication or of a retry of a release. -/
structure Undisturbed (state : State) (event : Event) : Prop where
  published : event.sparesPublished state = true
  retried : event.retriesFailed state = true

instance (state : State) (event : Event) : Decidable (Undisturbed state event) :=
  decidable_of_iff (event.sparesPublished state = true ∧ event.retriesFailed state = true)
    ⟨fun holds => ⟨holds.1, holds.2⟩, fun holds => ⟨holds.published, holds.retried⟩⟩

variable {id : String}

theorem Undisturbed.spares {state : State} {event : Event} (undisturbed : Undisturbed state event)
    (takes : event.takes state = some (.release, id)) (member : entry ∈ state.transactions) :
    entry.2.published ≠ some id := by
  intro publishes
  have spares := undisturbed.published
  unfold Event.sparesPublished at spares
  rw [takes] at spares
  exact of_decide_eq_true spares ⟨entry, member, publishes⟩

/-- Every transaction has found what it relies on, and it is still true. -/
structure Fenced (state : State) : Prop extends Exclusive state where
  firm : ∀ entry ∈ state.transactions, entry.2.Firm state.db

namespace Fenced

variable {event : Event} {state next : State}

variable {entry : Nat × Transaction}

theorem keep (fenced : Fenced state) {move : Move} {db : ControlPlane}
    (evolves : Evolves move.Moves state.db db) (sound : move.Sound state.db)
    (member : entry ∈ state.transactions) (locked : ∀ id, entry.2.lockedRow = some id → move.Spares .profile id)
    (published : ∀ id, entry.2.published = some id → move.Spares .release id)
    (alone : entry.2.HasLock → ∀ id, move ≠ .revives .profile id) : entry.2.Firm db :=
  (fenced.firm entry member).evolve evolves fenced.distinct sound locked published alone

theorem keepCalm (fenced : Fenced state) (undisturbed : Undisturbed state event)
    {target : Option (Lane × String)} {db : ControlPlane}
    (evolves : Evolves (Move.calm target).Moves state.db db)
    (aimed : target = none ∨ target = event.takes state)
    (free : ∀ id, target = some (.profile, id) → state.rowLocked .profile id = false)
    (member : entry ∈ state.transactions) : entry.2.Firm db := by
  refine fenced.keep evolves trivial member ?_ ?_ fun _ _ => nofun
  · -- A row that a transaction has locked is no target.
    rintro id locks rfl
    have unlocked := free id rfl
    unfold State.rowLocked at unlocked
    exact of_decide_eq_false unlocked ⟨rfl, entry, member, locks⟩
  · -- A release that is being published is no target.
    rintro id publishes rfl
    rcases aimed with absent | takes
    · cases absent
    · exact undisturbed.spares takes.symm member publishes

theorem step (fenced : Fenced state) (undisturbed : Undisturbed state event) (shape : Shape event state next) :
    Fenced next := by
  refine ⟨fenced.toExclusive.step shape, ?_⟩
  have calm {db : ControlPlane} (evolves : Evolves (Move.calm none).Moves state.db db) :
      ∀ entry ∈ state.transactions, entry.2.Firm db :=
    fun entry member => fenced.keepCalm undisturbed evolves (.inl rfl) nofun member
  cases shape with
  | call target aimed free evolves transactions lock =>
    rw [transactions]
    exact fun entry member => fenced.keepCalm undisturbed evolves aimed free member
  | begins number transaction unlocked base firm goes =>
    rw [goes]
    intro entry member
    rcases mem_goOn member with rfl | ⟨stored, -⟩
    · exact firm
    · exact fenced.firm entry stored
  | locks number transaction free base firm goes =>
    rw [goes]
    intro entry member
    rcases mem_goOn member with rfl | ⟨stored, -⟩
    · exact firm
    · exact fenced.firm entry stored
  | goesOn number before after db found locked evolves base firm goes =>
    rw [goes]
    intro entry member
    rcases mem_goOn member with rfl | ⟨stored, -⟩
    · exact firm (fenced.firm _ (mem_of_transaction? found))
    · exact calm evolves entry stored
  | ended number finished evolves => exact fun entry member => calm evolves entry (finished.mem member).1
  | tookOver number lane id finished aimed free evolves =>
    intro entry member
    refine fenced.keepCalm undisturbed evolves (.inr aimed.symm) ?_ (finished.mem member).1
    intro other same
    obtain ⟨rfl, rfl⟩ := Prod.mk.inj (Option.some.inj same)
    exact free
  | started number claim candidate found phase queued still finished evolves =>
    intro entry member
    exact fenced.keep evolves trivial (finished.mem member).1 (fun _ _ => trivial) (fun _ _ => trivial) fun _ _ => nofun
  | retried number before id found locked sound finished evolves =>
    intro entry member
    obtain ⟨stored, different⟩ := finished.mem member
    refine fenced.keep evolves (sound (fenced.firm _ (mem_of_transaction? found))) stored (fun _ _ => trivial)
      (fun _ _ => trivial) ?_
    -- Only one retry has the lock.
    exact fun holder => (fenced.unlocked found locked stored different holder).elim
  | retriedRelease number id resolvedCommitSha requestedBy own found finished evolves =>
    intro entry member
    have sound : Retriable state.db .release id := by
      have retries := undisturbed.retried
      rw [own] at retries
      simpa [Event.retriesFailed, found, Retriable] using retries
    exact fenced.keep evolves sound (finished.mem member).1 (fun _ _ => trivial) (fun _ _ => trivial) fun _ _ => nofun

end Fenced

/-- The owner that writes in a step, and the row whose owner it says to be. -/
def Event.writes (state : State) : Event → Option (Lane × String × String)
  | .renewOperationLease lane id ownerId _ => some (lane, id, ownerId)
  | .pinOperationResolvedCommit lane id ownerId _ => some (lane, id, ownerId)
  | .completeOperation lane id _ _ leaseOwner _ => some (lane, id, leaseOwner)
  | .requeueOperation id _ _ leaseOwner => some (.profile, id, leaseOwner)
  | .proceed number =>
    match state.transaction? number with
    | some (.updateProfile id ownerId _ _) => some (.profile, id, ownerId)
    | some (.publish operationId leaseOwner _ _) => some (.release, operationId, leaseOwner)
    | _ => none
  | _ => none

/-- A step that changes no operation, no profile, and not what the gateway runs. -/
structure Untouched (state next : State) : Prop where
  rows : ∀ lane, next.db.rows lane = state.db.rows lane
  profiles : next.profiles = state.profiles
  releaseState : next.releaseState = state.releaseState

theorem rows_updateRows_none {db : ControlPlane} {table : Lane} {condition : OperationColumns → Bool}
    (none : ∀ row ∈ db.rows table, condition row = false) (change : OperationColumns → OperationColumns) (lane : Lane) :
    (db.updateRows table condition change).rows lane = db.rows lane := by
  rw [rows_updateRows]
  split
  · rename_i same
    subst same
    have fixed : ((db.rows lane).map fun row => if condition row then change row else row) = (db.rows lane).map id :=
      List.map_congr_left fun row member => by rw [none row member]; rfl
    rw [fixed, List.map_id]
  · rfl

variable {lane : Lane} {ownerId : String}

theorem isHeldBy_of_not_holds {state : State} (lost : ¬ state.holds lane id ownerId = true) :
    ∀ row ∈ state.db.rows lane, row.isHeldBy id ownerId = false := by
  intro row member
  by_contra held
  exact lost (List.any_eq_true.mpr ⟨row, member, by simpa using held⟩)

theorem holds_of_held {state : State} (held : Held state.db lane id ownerId) :
    state.holds lane id ownerId = true := by
  obtain ⟨row, member, here, running, owner⟩ := held
  exact List.any_eq_true.mpr ⟨row, member, decide_eq_true ⟨here, running, owner⟩⟩

theorem Fenced.untouched {state next : State} (fenced : Fenced state) {event : Event} {output : Output}
    (stepped : machine.step state event = some (next, output))
    (writes : event.writes state = some (lane, id, ownerId)) (lost : ¬ state.holds lane id ownerId = true) :
    Untouched state next := by
  have nobody := isHeldBy_of_not_holds lost
  -- A call that finds no row fails, and is rolled back.
  have count : ((state.db.rows lane).filter (OperationColumns.isHeldBy id ownerId)).length ≠ 1 := by
    intro one
    have empty : (state.db.rows lane).filter (OperationColumns.isHeldBy id ownerId) = [] :=
      List.filter_eq_nil_iff.mpr fun row member => by rw [nobody row member]; nofun
    rw [empty] at one
    cases one
  cases event with
  | advance milliseconds => cases writes
  | start number call => cases writes
  | proceed number =>
    obtain ⟨transaction, found, proceeds⟩ := Option.bind_eq_some_iff.mp stepped
    have firm := fenced.firm _ (mem_of_transaction? found)
    simp only [Event.writes, found] at writes
    cases transaction with
    | claim own => cases writes
    | updateProfile target owner profileName patch =>
      -- The operation was locked, so its owner still holds it.
      obtain ⟨rfl, same⟩ := Prod.mk.inj (Option.some.inj writes)
      obtain ⟨rfl, rfl⟩ := Prod.mk.inj same
      exact (lost (holds_of_held firm)).elim
    | publish target owner release processNow =>
      obtain ⟨rfl, same⟩ := Prod.mk.inj (Option.some.inj writes)
      obtain ⟨rfl, rfl⟩ := Prod.mk.inj same
      exact (lost (holds_of_held firm)).elim
    | retryOperation => cases writes
    | retryRelease => cases writes
  | renewOperationLease table target owner durationMs =>
    obtain ⟨rfl, same⟩ := Prod.mk.inj (Option.some.inj writes)
    obtain ⟨rfl, rfl⟩ := Prod.mk.inj same
    simp only [machine] at stepped
    split at stepped
    · cases stepped
    · obtain ⟨rfl, -⟩ := Prod.mk.inj (Option.some.inj stepped)
      exact ⟨rows_updateRows_none nobody _, rfl, rfl⟩
  | pinOperationResolvedCommit table target owner resolvedCommitSha =>
    obtain ⟨rfl, same⟩ := Prod.mk.inj (Option.some.inj writes)
    obtain ⟨rfl, rfl⟩ := Prod.mk.inj same
    simp only [machine] at stepped
    split at stepped
    · cases stepped
    · obtain ⟨rfl, -⟩ := Prod.mk.inj (Option.some.inj stepped)
      refine ⟨rows_updateRows_none ?_ _, rfl, rfl⟩
      intro row member
      rw [OperationColumns.canPin, nobody row member]
      simp
  | completeOperation table target succeeded fields owner processNow =>
    obtain ⟨rfl, same⟩ := Prod.mk.inj (Option.some.inj writes)
    obtain ⟨rfl, rfl⟩ := Prod.mk.inj same
    simp only [machine] at stepped
    split at stepped
    · cases stepped
    · unfold ControlPlane.completeOperation at stepped
      rw [if_neg count] at stepped
      obtain ⟨rfl, -⟩ := Prod.mk.inj (Option.some.inj stepped)
      exact ⟨fun _ => rfl, rfl, rfl⟩
  | requeueOperation target detail retryAt owner =>
    obtain ⟨rfl, same⟩ := Prod.mk.inj (Option.some.inj writes)
    obtain ⟨rfl, rfl⟩ := Prod.mk.inj same
    simp only [machine] at stepped
    split at stepped
    · cases stepped
    · have none : (state.db.operations.filter fun operation => operation.isHeldBy target owner).length ≠ 1 := by
        have same : ((state.db.rows .profile).filter (OperationColumns.isHeldBy target owner)).length =
            (state.db.operations.filter fun operation => operation.isHeldBy target owner).length := by
          rw [ControlPlane.rows, List.filter_map, List.length_map]
          rfl
        rw [← same]
        exact count
      unfold ControlPlane.requeueOperation at stepped
      rw [if_neg none] at stepped
      obtain ⟨rfl, -⟩ := Prod.mk.inj (Option.some.inj stepped)
      exact ⟨fun _ => rfl, rfl, rfl⟩
  | cancelOperation => cases writes
  | appendOperationLog => cases writes
  | queueOperation => cases writes

theorem Fenced.unblocked {state next : State} (fenced : Fenced state) {event : Event}
    (shape : Shape event state next) {before after : OperationColumns} (isBefore : before ∈ state.db.rows lane)
    (isAfter : after ∈ next.db.rows lane) (same : after.id = before.id) (waits : before.status ≠ .running)
    (running : after.status = .running) : OperationColumns.Unblocked state.db.columns before := by
  -- A move that starts nothing does not make the row run.
  have rested {move : Move} (evolves : Evolves move.Moves state.db next.db) (rests : move.Rests) : False := by
    obtain ⟨row, stored, ids, ran⟩ := evolves.ran rests isAfter running
    obtain rfl := fenced.distinct.same stored isBefore (ids.trans same)
    exact waits ran
  cases shape with
  | call target aimed free evolves transactions lock => exact (rested evolves trivial).elim
  | begins number transaction unlocked base firm goes =>
    rw [goes] at isAfter
    obtain rfl := fenced.distinct.same isAfter isBefore same
    exact (waits running).elim
  | locks number transaction free base firm goes =>
    rw [goes] at isAfter
    obtain rfl := fenced.distinct.same isAfter isBefore same
    exact (waits running).elim
  | goesOn number old new db found locked evolves base firm goes =>
    rw [goes] at isAfter
    obtain ⟨row, stored, ids, ran⟩ := evolves.ran trivial isAfter running
    obtain rfl := fenced.distinct.same stored isBefore (ids.trans same)
    exact (waits ran).elim
  | ended number finished evolves => exact (rested evolves trivial).elim
  | tookOver number table id finished aimed free evolves => exact (rested evolves trivial).elim
  | started number claim candidate found phase queued still finished evolves =>
    -- The row that starts is the candidate, whose way was found to be clear.
    rcases evolves.backward lane after isAfter with ⟨row, stored, kept, unchanged | ⟨rfl, ids, -⟩⟩ | new
    · obtain rfl := fenced.distinct.same stored isBefore (kept.id.symm.trans same)
      exact (waits (unchanged.1.symm.trans running)).elim
    · obtain rfl := fenced.distinct.same stored isBefore (kept.id.symm.trans same)
      have firm : claim.Firm state.db := fenced.firm _ (mem_of_transaction? found)
      unfold Claim.Firm at firm
      rw [phase] at firm
      obtain ⟨⟨listed, member, place⟩, clear⟩ := firm queued
      obtain rfl := fenced.distinct.same member stored (place.id.trans ids.symm)
      intro other inside precedes
      have precedesCandidate : other.Precedes candidate := by
        unfold OperationColumns.Precedes at precedes ⊢
        rw [← place.bulkReleaseId, ← place.bulkOrder]
        exact precedes
      rcases List.mem_append.mp inside with inside | inside
      · exact clear .release other inside precedesCandidate
      · exact clear .profile other inside precedesCandidate
    · rw [new.waits] at running
      cases running
  | retried number old id found locked sound finished evolves => exact (rested evolves trivial).elim
  | retriedRelease number id resolvedCommitSha requestedBy own found finished evolves =>
    exact (rested evolves trivial).elim

theorem length_le_one_of_same {α : Type} {list : List α} (distinct : list.Nodup)
    (same : ∀ left ∈ list, ∀ right ∈ list, left = right) : list.length ≤ 1 := by
  match list with
  | [] => simp
  | [entry] => simp
  | first :: second :: rest =>
    obtain rfl := same first (by simp) second (by simp)
    simp at distinct

theorem Exclusive.running_le_one {state : State} (exclusive : Exclusive state) :
    (state.db.columns.filter fun row => row.status = .running).length ≤ 1 := by
  -- A table has one running row at most.
  have table (lane : Lane) : ((state.db.rows lane).filter fun row => row.status = .running).length ≤ 1 := by
    refine length_le_one_of_same ((exclusive.distinct lane).of_map.filter _) ?_
    intro left isLeft right isRight
    obtain ⟨storedLeft, first⟩ := List.mem_filter.mp isLeft
    obtain ⟨storedRight, second⟩ := List.mem_filter.mp isRight
    obtain ⟨-, ids⟩ := exclusive.lone lane left storedLeft lane right storedRight (of_decide_eq_true first)
      (of_decide_eq_true second)
    exact exclusive.distinct.same storedLeft storedRight ids
  rw [ControlPlane.columns, List.filter_append, List.length_append]
  -- Both tables cannot have one.
  by_contra more
  have release := table .release
  have profile := table .profile
  obtain ⟨left, isLeft⟩ := List.exists_mem_of_length_pos (l := (state.db.rows .release).filter
    fun row => row.status = .running) (by omega)
  obtain ⟨right, isRight⟩ := List.exists_mem_of_length_pos (l := (state.db.rows .profile).filter
    fun row => row.status = .running) (by omega)
  obtain ⟨storedLeft, first⟩ := List.mem_filter.mp isLeft
  obtain ⟨storedRight, second⟩ := List.mem_filter.mp isRight
  obtain ⟨lanes, -⟩ := exclusive.lone .release left storedLeft .profile right storedRight (of_decide_eq_true first)
    (of_decide_eq_true second)
  cases lanes

/-- No transaction is under way, and one operation at most is running. -/
structure Quiescent (state : State) : Prop where
  transactions : state.transactions = []
  distinct : Distinct state.db
  lone : Lone state.db

theorem Quiescent.fenced {state : State} (quiescent : Quiescent state) : Fenced state := by
  have none (entry : Nat × Transaction) : entry ∉ state.transactions := by
    rw [quiescent.transactions]
    exact List.not_mem_nil
  exact ⟨⟨quiescent.distinct, quiescent.lone, fun entry member => (none entry member).elim,
    fun left member => (none left member).elim, fun entry member => (none entry member).elim⟩,
    fun entry member => (none entry member).elim⟩

/-- The control plane has one running operation at most, its lost owners change nothing, and its bulk releases go in order. -/
theorem exclusive_and_fenced {start : State} (quiescent : Quiescent start) :
    (∀ trace state, machine.Run start trace state →
      (state.db.columns.filter fun row => row.status = .running).length ≤ 1) ∧
    ∀ trace state, machine.RunWhile Undisturbed start trace state → ∀ event output next, Undisturbed state event →
      machine.step state event = some (next, output) →
        (∀ lane id ownerId, event.writes state = some (lane, id, ownerId) → ¬ state.holds lane id ownerId = true →
          Untouched state next) ∧
        ∀ lane, ∀ before ∈ state.db.rows lane, ∀ after ∈ next.db.rows lane, after.id = before.id →
          before.status ≠ .running → after.status = .running →
            OperationColumns.Unblocked state.db.columns before := by
  constructor
  · intro trace state run
    have exclusive : Exclusive state := run.stateInvariant quiescent.fenced.toExclusive
      fun _ _ _ _ held _ stepped => held.step (shape_of_step held.base stepped)
    exact exclusive.running_le_one
  · intro trace state run event output next undisturbed stepped
    have fenced : Fenced state := run.stateInvariant quiescent.fenced
      fun _ _ _ _ held admitted taken => held.step admitted (shape_of_step held.base taken)
    refine ⟨fun lane id ownerId writes lost => fenced.untouched stepped writes lost, ?_⟩
    intro lane before isBefore after isAfter same waits running
    exact fenced.unblocked (shape_of_step fenced.base stepped) isBefore isAfter same waits running

/-- The columns of a row that is a target of a bulk release. -/
def bulkTarget (id : String) (status : GatewayOperationStatus) (bulkOrder : Int) : OperationColumns :=
  ⟨id, status, some .commit, some "sha", none, none, "operator", none, none, none, none, none, none, 0, some "bulk",
    some bulkOrder, 0⟩

/-- A bulk release: the gateway's release has failed before, and a profile's deployment waits for it. -/
def bulkRelease : State where
  now := 0
  db := ⟨[{ bulkTarget "deploy" .queued 1 with
      profileName := "che", type := .deploy, payload := ⟨none, none, []⟩, scheduledAt := none }], [],
    [{ bulkTarget "release" .failed 0 with type := .deploy, payload := [] }], [], fun _ => some "sha"⟩
  profiles := []
  releaseState := ⟨none, none, none, none, none, none⟩
  lock := none
  transactions := []

theorem bulkRelease_quiescent : Quiescent bulkRelease := by
  refine ⟨rfl, ?_, ?_⟩
  · intro lane
    cases lane <;> decide
  · intro lane row member table other isOther running
    -- No row is running.
    have idle : ∀ lane, ∀ row ∈ bulkRelease.db.rows lane, row.status ≠ .running := by
      intro lane
      cases lane <;> decide
    exact (idle lane row member running).elim

/-- A transaction executes some statements. -/
def proceeds (number count : Nat) : List Event := List.replicate count (.proceed number)

/-- An orchestrator claims the next release, with a short lease. -/
def claimRelease (number : Nat) (ownerId : String) : Event :=
  .start number (.claimNextOperation .release ⟨ownerId, 10⟩ fun _ => 0)

/-- The release is tried again, an orchestrator claims it, and another one takes it over. -/
def takeOver : List Event :=
  .start 1 (.retryRelease "release" "operator" "unused") :: proceeds 1 1 ++ claimRelease 2 "x" :: proceeds 2 8 ++
    .advance 100 :: claimRelease 3 "y" :: proceeds 3 6

/-- The first owner of the release has lost it, and its completion changes nothing. -/
theorem exclusive_and_fenced_takeOver : ∃ trace state, machine.RunWhile Undisturbed bulkRelease trace state ∧
    state.holds .release "release" "y" = true ∧
    ∀ next output, machine.step state (.completeOperation .release "release" true ⟨none, none⟩ "x" 0) =
      some (next, output) → Untouched state next := by
  have replayed : (machine.replay bulkRelease takeOver).map (fun result =>
      (result.1.holds .release "release" "x", result.1.holds .release "release" "y",
        (Event.completeOperation .release "release" true ⟨none, none⟩ "x" 0).sparesPublished result.1)) =
      some (false, true, true) := by decide +kernel
  obtain ⟨⟨state, trace⟩, found, facts⟩ := Option.map_eq_some_iff.mp replayed
  obtain ⟨lost, rest⟩ := Prod.mk.inj facts
  obtain ⟨held, spares⟩ := Prod.mk.inj rest
  have guarded : machine.Guarded Undisturbed bulkRelease takeOver := by decide +kernel
  have run := StateMachine.runWhile_of_guarded guarded found
  refine ⟨trace, state, run, held, ?_⟩
  intro next output stepped
  refine ((exclusive_and_fenced bulkRelease_quiescent).2 trace state run _ output next ⟨spares, rfl⟩ stepped).1 .release
    "release" "x" rfl ?_
  rw [lost]
  nofun

/-- A version that goes live. -/
def newVersion : PublishedRelease := ⟨"new", "workspace", none, none⟩

/-- The first owner begins to publish the release, and is then taken over. -/
def lateTakeOver : List Event :=
  .start 1 (.retryRelease "release" "operator" "unused") :: proceeds 1 1 ++ claimRelease 2 "x" :: proceeds 2 8 ++
    .start 4 (.publishRelease "release" "x" newVersion 5) :: .advance 100 :: claimRelease 3 "y" :: proceeds 3 6

theorem lost_owner_publishes : ¬ ∀ trace state, machine.Run bulkRelease trace state → ∀ event output next,
    machine.step state event = some (next, output) → ∀ lane id ownerId, event.writes state = some (lane, id, ownerId) →
      ¬ state.holds lane id ownerId = true → Untouched state next := by
  intro untouched
  have replayed : (machine.replay bulkRelease lateTakeOver).map (fun result =>
      (result.1.holds .release "release" "x",
        decide ((Event.proceed 4).writes result.1 = some (.release, "release", "x")),
        result.1.releaseState.activeCommitSha,
        (machine.step result.1 (.proceed 4)).map fun step => step.1.releaseState.activeCommitSha)) =
      some (false, true, none, some (some "new")) := by decide +kernel
  obtain ⟨⟨state, trace⟩, found, facts⟩ := Option.map_eq_some_iff.mp replayed
  obtain ⟨lost, rest⟩ := Prod.mk.inj facts
  obtain ⟨writes, rest⟩ := Prod.mk.inj rest
  obtain ⟨before, after⟩ := Prod.mk.inj rest
  obtain ⟨⟨next, output⟩, stepped, published⟩ := Option.map_eq_some_iff.mp after
  have same := untouched trace state (StateMachine.run_of_replay found) _ output next stepped .release "release" "x"
    (of_decide_eq_true writes) (by rw [lost]; nofun)
  rw [same.releaseState, before] at published
  cases published

/-- A retry is written after the release has succeeded at another attempt, while a claim has counted it as such. -/
def staleRetry : List Event :=
  .start 1 (.retryRelease "release" "operator" "unused") :: .start 2 (.retryRelease "release" "operator" "unused") ::
    proceeds 2 1 ++ claimRelease 3 "x" :: proceeds 3 8 ++
    .completeOperation .release "release" true ⟨none, none⟩ "x" 5 ::
    .start 4 (.claimNextOperation .profile ⟨"y", 10⟩ fun _ => 0) :: proceeds 4 7 ++ proceeds 1 1

theorem bulk_order_broken : ¬ ∀ trace state, machine.Run bulkRelease trace state → ∀ event output next,
    machine.step state event = some (next, output) → ∀ lane, ∀ before ∈ state.db.rows lane,
      ∀ after ∈ next.db.rows lane, after.id = before.id → before.status ≠ .running → after.status = .running →
        OperationColumns.Unblocked state.db.columns before := by
  intro ordered
  have replayed : (machine.replay bulkRelease staleRetry).map (fun result =>
      ((result.1.db.rows .profile).map (fun row => (row.id, row.status)),
        (result.1.db.rows .profile).all fun row => ¬ OperationColumns.Unblocked result.1.db.columns row,
        (machine.step result.1 (.proceed 4)).map fun step =>
          (step.1.db.rows .profile).map fun row => (row.id, row.status))) =
      some ([("deploy", .queued)], true, some [("deploy", .running)]) := by decide +kernel
  obtain ⟨⟨state, trace⟩, found, facts⟩ := Option.map_eq_some_iff.mp replayed
  obtain ⟨waiting, rest⟩ := Prod.mk.inj facts
  obtain ⟨blocked, after⟩ := Prod.mk.inj rest
  obtain ⟨⟨next, output⟩, stepped, started⟩ := Option.map_eq_some_iff.mp after
  dsimp only at waiting blocked started
  obtain ⟨before, isBefore, beforeIs⟩ := List.mem_map.mp (waiting ▸ List.mem_singleton_self (a := ("deploy",
    GatewayOperationStatus.queued)))
  obtain ⟨row, isAfter, rowIs⟩ := List.mem_map.mp (started ▸ List.mem_singleton_self (a := ("deploy",
    GatewayOperationStatus.running)))
  obtain ⟨beforeId, queued⟩ := Prod.mk.inj beforeIs
  obtain ⟨rowId, running⟩ := Prod.mk.inj rowIs
  have unblocked := ordered trace state (StateMachine.run_of_replay found) _ output next stepped .profile before isBefore
    row isAfter (rowId.trans beforeId.symm) (by rw [queued]; nofun) running
  exact of_decide_eq_true (List.all_eq_true.mp blocked before isBefore) unblocked

/-- Both the publication and the order of a bulk release fail when something comes between a read and its write. -/
theorem read_and_write_apart :
    (¬ ∀ trace state, machine.Run bulkRelease trace state → ∀ event output next,
      machine.step state event = some (next, output) → ∀ lane id ownerId,
        event.writes state = some (lane, id, ownerId) → ¬ state.holds lane id ownerId = true →
          Untouched state next) ∧
    ¬ ∀ trace state, machine.Run bulkRelease trace state → ∀ event output next,
      machine.step state event = some (next, output) → ∀ lane, ∀ before ∈ state.db.rows lane,
        ∀ after ∈ next.db.rows lane, after.id = before.id → before.status ≠ .running → after.status = .running →
          OperationColumns.Unblocked state.db.columns before :=
  ⟨lost_owner_publishes, bulk_order_broken⟩

end Sammo.Gateway.Transactions
