import Sammo.Gateway.Fencing

/-! What one step of the transactions does to the rows, to the lock and to the other transactions. -/

namespace Sammo.Gateway.Transactions

/-- The row whose owner a step may take away. -/
def Event.takes (state : State) : Event → Option (Lane × String)
  | .completeOperation lane id .. => some (lane, id)
  | .requeueOperation id .. => some (.profile, id)
  | .cancelOperation lane id _ => some (lane, id)
  | .proceed number =>
    match state.transaction? number with
    | some (.claim ⟨lane, _, _, _, .chosen candidate⟩) => some (lane, candidate.id)
    | _ => none
  | _ => none

/-- A transaction has ended, and has given its lock back. -/
structure Finished (number : Nat) (state next : State) : Prop where
  transactions : next.transactions = state.transactions.filter fun entry => entry.1 ≠ number
  lock : next.lock = if state.lock = some number then none else state.lock

/-- What a step does to the rows, the lock and the transactions. -/
inductive Shape (event : Event) (state next : State) : Prop
  /-- A call with one statement. -/
  | call (target : Option (Lane × String)) (aimed : target = none ∨ target = event.takes state)
    (free : ∀ id, target = some (.profile, id) → state.rowLocked .profile id = false)
    (evolves : Evolves (Move.calm target).Moves state.db next.db) (transactions : next.transactions = state.transactions)
    (lock : next.lock = state.lock)
  | begins (number : Nat) (transaction : Transaction) (unlocked : ¬ transaction.HasLock)
    (base : transaction.Base state.db) (firm : transaction.Firm state.db) (goes : next = state.goOn number transaction)
  | locks (number : Nat) (transaction : Transaction) (free : state.lock = none) (base : transaction.Base state.db)
    (firm : transaction.Firm state.db) (goes : next = { state with lock := some number }.goOn number transaction)
  | goesOn (number : Nat) (before after : Transaction) (db : ControlPlane)
    (found : state.transaction? number = some before) (locked : before.HasLock)
    (evolves : Evolves (Move.calm none).Moves state.db db) (base : after.Base db)
    (firm : before.Firm state.db → after.Firm db) (goes : next = (state.withDb db).goOn number after)
  | ended (number : Nat) (finished : Finished number state next)
    (evolves : Evolves (Move.calm none).Moves state.db next.db)
  | tookOver (number : Nat) (lane : Lane) (id : String) (finished : Finished number state next)
    (aimed : event.takes state = some (lane, id)) (free : state.rowLocked lane id = false)
    (evolves : Evolves (Move.calm (some (lane, id))).Moves state.db next.db)
  | started (number : Nat) (claim : Claim) (candidate : OperationColumns)
    (found : state.transaction? number = some (.claim claim)) (phase : claim.phase = .chosen candidate)
    (queued : candidate.status = .queued) (still : ∀ lane, Still state.db lane) (finished : Finished number state next)
    (evolves : Evolves (Move.starts claim.lane candidate.id).Moves state.db next.db)
  | retried (number : Nat) (before : Transaction) (id : String) (found : state.transaction? number = some before)
    (locked : before.HasLock) (sound : before.Firm state.db → Retriable state.db .profile id)
    (finished : Finished number state next) (evolves : Evolves (Move.revives .profile id).Moves state.db next.db)
  | retriedRelease (number : Nat) (id resolvedCommitSha requestedBy : String) (own : event = .proceed number)
    (found : state.transaction? number = some (.retryRelease (.requeue id resolvedCommitSha requestedBy)))
    (finished : Finished number state next) (evolves : Evolves (Move.revives .release id).Moves state.db next.db)

variable {state : State} {number : Nat} {transaction : Transaction} {id leaseOwner : String} {lane : Lane}
  {row after : OperationColumns} {db : ControlPlane} {processNow : Int} {status : GatewayOperationStatus}
  {requestedBy newId : String} {createdAt : Int} {write : RetryWrite GatewayOperation} {next : State}
  {output : Output} {event : Event}

theorem mem_of_transaction? (found : state.transaction? number = some transaction) :
    (number, transaction) ∈ state.transactions := by
  obtain ⟨entry, listed, rfl⟩ := Option.map_eq_some_iff.mp found
  have same : entry.1 = number := by simpa using List.find?_some listed
  subst same
  exact List.mem_of_find?_eq_some listed

theorem calm_of_isHeldBy (held : row.isHeldBy id leaseOwner = true) (same : SameTarget row after)
    (stops : after.status ≠ .running) : Calm (some (lane, id)) lane row after := by
  obtain ⟨here, running, -⟩ := of_decide_eq_true held
  refine ⟨same, fun ended => (ended (.inr running)).elim, fun runs => (stops runs).elim, ?_⟩
  intro _ other
  exact (other (by rw [here])).elim

theorem calm_of_unchanged (same : SameTarget row after) (status : after.status = row.status)
    (owner : after.leaseOwner = row.leaseOwner) : Calm none lane row after :=
  ⟨same, fun _ => status, fun running => status.symm.trans running, fun running _ => ⟨status.trans running, owner⟩⟩

theorem completeOperation_evolves {after : ControlPlane} {fields : CompletionFields} (ends : ¬ status.Active)
    (completed : db.completeOperation lane id status fields leaseOwner processNow = .ok after) :
    Evolves (Move.calm (some (lane, id))).Moves db after := by
  unfold ControlPlane.completeOperation at completed
  split at completed
  · obtain rfl := Except.ok.inj completed
    refine Evolves.updateRows db ?_
    intro row _ held
    exact calm_of_isHeldBy held ⟨rfl, rfl, rfl⟩ fun running => ends (.inr running)
  · cases completed

theorem requeueOperation_evolves {after : ControlPlane} {detail : Option String} {retryAt : Option Int}
    (requeued : db.requeueOperation id detail retryAt leaseOwner = .ok after) :
    Evolves (Move.calm (some (.profile, id))).Moves db after := by
  unfold ControlPlane.requeueOperation at requeued
  split at requeued
  · obtain rfl := Except.ok.inj requeued
    -- The columns change as they would without a new time.
    have rows (lane : Lane) : (db.updateOperations (fun operation => operation.isHeldBy id leaseOwner)
        fun operation => { operation.withColumns fun row =>
            { row.settled .queued row.completedAt with startedAt := none, error := detail.or row.error } with
          scheduledAt := retryAt.or operation.scheduledAt }).rows lane =
        (db.updateRows .profile (OperationColumns.isHeldBy id leaseOwner) fun row =>
          { row.settled .queued row.completedAt with startedAt := none, error := detail.or row.error }).rows lane := by
      cases lane with
      | profile =>
        simp only [ControlPlane.updateRows, ControlPlane.updateOperations, ControlPlane.rows, List.map_map]
        refine List.map_congr_left fun operation _ => ?_
        simp only [Function.comp_apply]
        split <;> rfl
      | release => rfl
    have moved : Evolves (Move.calm (some (.profile, id))).Moves db
        (db.updateRows .profile (OperationColumns.isHeldBy id leaseOwner) fun row =>
          { row.settled .queued row.completedAt with startedAt := none, error := detail.or row.error }) := by
      refine Evolves.updateRows db ?_
      intro row _ held
      refine calm_of_isHeldBy held ⟨rfl, rfl, rfl⟩ ?_
      intro running
      cases running
    exact moved.congr rows
  · cases requeued

theorem settled_calm (here : row.id = id) (same : row.status = status) (active : status.Active)
    (completedAt : Option Int) : Calm (some (lane, id)) lane row (row.settled .cancelled completedAt) := by
  refine ⟨⟨rfl, rfl, rfl⟩, fun ended => (ended (same ▸ active)).elim, nofun, ?_⟩
  intro _ other
  exact (other (by rw [here])).elim

theorem cancelOperation_evolves (state : State) (lane : Lane) (id : String) (processNow : Int) :
    Evolves (Move.calm (some (lane, id))).Moves state.db (state.cancelOperation id processNow lane).1.db := by
  have none : Evolves (Move.calm (some (lane, id))).Moves state.db state.db := Evolves.of_eq _ fun _ => rfl
  cases lane with
  | profile =>
    show Evolves _ _ (state.db.cancelOperation id processNow).1
    unfold ControlPlane.cancelOperation
    split
    · exact none
    · rename_i operation _
      split
      · rename_i cancellable
        have active : operation.status.Active := by
          rcases of_decide_eq_true cancellable with queued | ⟨running, -⟩
          · exact .inl queued
          · exact .inr running
        have moved : Evolves (Move.calm (some (Lane.profile, id))).Moves state.db (state.db.updateRows .profile
            (fun stored => stored.id = id ∧ stored.status = operation.status)
            (OperationColumns.settled .cancelled (some processNow))) := by
          refine Evolves.updateRows state.db ?_
          intro stored _ met
          obtain ⟨here, same⟩ := of_decide_eq_true met
          exact settled_calm here same active _
        refine moved.congr fun lane => ?_
        cases lane <;> rfl
      · exact none
  | release =>
    show Evolves _ _ (state.db.cancelRelease id processNow).1
    unfold ControlPlane.cancelRelease
    split
    · exact none
    · rename_i row _
      split
      · rename_i cancellable
        have active : row.status.Active := by
          rcases cancellable with queued | ⟨running, -⟩
          · exact .inl queued
          · exact .inr running
        have moved : Evolves (Move.calm (some (Lane.release, id))).Moves state.db (state.db.updateRows .release
            (fun stored => stored.id = id ∧ stored.status = row.status)
            (OperationColumns.settled .cancelled (some processNow))) := by
          refine Evolves.updateRows state.db ?_
          intro stored _ met
          obtain ⟨here, same⟩ := of_decide_eq_true met
          exact settled_calm here same active _
        refine moved.congr fun lane => ?_
        cases lane <;> rfl
      · exact none

theorem readRetry_sound (read : db.readRetry id requestedBy newId createdAt processNow = .ok write) :
    (Transaction.retryOperation id requestedBy newId createdAt processNow (.writing write)).Base db ∧
      (Transaction.retryOperation id requestedBy newId createdAt processNow (.writing write)).Firm db := by
  unfold ControlPlane.readRetry at read
  split at read
  · obtain rfl := Except.ok.inj read
    exact ⟨trivial, trivial⟩
  rename_i previous found
  split at read
  · obtain rfl := Except.ok.inj read
    exact ⟨trivial, trivial⟩
  rename_i ended
  split at read
  · split at read
    · split at read
      · cases read
      · obtain rfl := Except.ok.inj read
        refine ⟨trivial, previous.toOperationColumns, ?_, by simpa using List.find?_some found, ?_⟩
        · exact List.mem_map_of_mem (List.mem_of_find?_eq_some found)
        · rw [not_and_or, not_not, not_not] at ended
          exact ended
    · obtain rfl := Except.ok.inj read
      exact ⟨⟨rfl, rfl⟩, trivial⟩
  · cases read

theorem readReleaseRetry_sound {write : RetryWrite GatewayReleaseOperation}
    (read : db.readReleaseRetry id requestedBy newId createdAt = .ok write) :
    (Transaction.retryRelease write).Base db := by
  unfold ControlPlane.readReleaseRetry at read
  split at read
  · obtain rfl := Except.ok.inj read
    trivial
  split at read
  · obtain rfl := Except.ok.inj read
    trivial
  split at read
  · split at read
    · cases read
    · obtain rfl := Except.ok.inj read
      trivial
  · obtain rfl := Except.ok.inj read
    exact ⟨rfl, rfl⟩

theorem shape_of_answer {result : Except ControlPlaneError ControlPlane}
    (answered : state.answer result = (next, output)) (aimed : event.takes state = some (lane, id))
    (free : ¬ state.rowLocked lane id = true)
    (evolves : ∀ db, result = .ok db → Evolves (Move.calm (some (lane, id))).Moves state.db db) :
    Shape event state next := by
  have unlocked (other : String) (same : some (lane, id) = some (Lane.profile, other)) :
      state.rowLocked .profile other = false := by
    obtain ⟨rfl, rfl⟩ := Prod.mk.inj (Option.some.inj same)
    simpa using free
  unfold State.answer at answered
  split at answered
  · obtain ⟨rfl, -⟩ := Prod.mk.inj answered
    exact .call (some (lane, id)) (.inr aimed.symm) unlocked (evolves _ rfl) rfl rfl
  · obtain ⟨rfl, -⟩ := Prod.mk.inj answered
    exact .call none (.inl rfl) nofun (Evolves.of_eq _ fun _ => rfl) rfl rfl

theorem finished (state : State) (number : Nat) (db : ControlPlane) :
    Finished number state ((state.withDb db).finish number) := ⟨rfl, rfl⟩

theorem shape_of_proceedClaim {claim : Claim} (found : state.transaction? number = some (.claim claim))
    (base : claim.Base state.db) (stepped : state.proceedClaim number claim = some (next, output)) :
    Shape (.proceed number) state next := by
  unfold State.proceedClaim at stepped
  split at stepped
  · split at stepped
    · rename_i free
      obtain ⟨rfl, -⟩ := Prod.mk.inj (Option.some.inj stepped)
      refine .locks number (.claim { claim with phase := .locked }) free ?_ ?_ rfl
      · exact trivial
      · exact trivial
    · cases stepped
  rename_i locked
  split at stepped
  · cases stepped
  rename_i free
  split at stepped
  · -- The claim goes on.
    rename_i db phase goesOn
    obtain ⟨rfl, -⟩ := Prod.mk.inj (Option.some.inj stepped)
    obtain ⟨evolves, found'⟩ := claim.next_base base goesOn
    exact .goesOn number _ (.claim { claim with phase }) db found (fun waiting => locked waiting) evolves found'
      (fun firm => claim.next_firm firm goesOn base) rfl
  · -- The claim ends.
    rename_i db ends
    obtain ⟨rfl, -⟩ := Prod.mk.inj (Option.some.inj stepped)
    rcases claim.next_ends base ends with rfl | ⟨candidate, phase, evolves | ⟨queued, still, evolves⟩⟩
    · exact .ended number (finished state number _) (Evolves.of_eq _ fun _ => rfl)
    · have aimed : (Event.proceed number).takes state = some (claim.lane, candidate.id) := by
        obtain ⟨lane, lease, ties, now, current⟩ := claim
        dsimp only at phase
        subst phase
        simp only [Event.takes, found]
      rw [phase] at free
      have unlocked : state.rowLocked claim.lane candidate.id = false := by
        simpa [State.waitsForRow] using free
      exact .tookOver number claim.lane candidate.id (finished state number _) aimed unlocked evolves
    · exact .started number claim candidate found phase queued still (finished state number _) evolves

theorem shape_of_proceedRetry
    (found : state.transaction? number = some (.retryOperation id requestedBy newId createdAt processNow (.writing write)))
    (base : (Transaction.retryOperation id requestedBy newId createdAt processNow (.writing write)).Base state.db)
    (stepped : state.proceedRetry number write = some (next, output)) : Shape (.proceed number) state next := by
  unfold State.proceedRetry at stepped
  split at stepped
  · rename_i fresh
    obtain ⟨rfl, -⟩ := Prod.mk.inj (Option.some.inj stepped)
    cases write with
    | nothing => exact .ended number (finished state number _) (Evolves.of_eq _ fun _ => rfl)
    | requeue target resolvedCommitSha actor =>
      refine .retried number _ target found nofun (fun firm => firm) (finished state number _) ?_
      have moved : Evolves (Move.revives .profile target).Moves state.db (state.db.updateRows .profile
          (fun row => row.id = target) (OperationColumns.requeuedInBulk resolvedCommitSha actor)) := by
        refine Evolves.updateRows state.db ?_
        intro row _ here
        exact ⟨⟨rfl, rfl, rfl⟩, .inr ⟨rfl, of_decide_eq_true here, rfl⟩⟩
      refine moved.congr fun lane => ?_
      cases lane <;> rfl
    | insert row previousId =>
      refine .ended number (finished state number _) (Evolves.insert .profile ?_ rfl ⟨?_, base.1, base.2⟩)
      · exact List.map_append
      · intro other member same
        obtain ⟨operation, stored, rfl⟩ := List.mem_map.mp member
        exact of_decide_eq_true fresh (List.mem_map.mpr ⟨operation, stored, same⟩)
  · cases stepped

theorem shape_of_proceedReleaseRetry {write : RetryWrite GatewayReleaseOperation}
    (found : state.transaction? number = some (.retryRelease write))
    (base : (Transaction.retryRelease write).Base state.db)
    (stepped : state.proceedReleaseRetry number write = some (next, output)) :
    Shape (.proceed number) state next := by
  unfold State.proceedReleaseRetry at stepped
  split at stepped
  · rename_i fresh
    obtain ⟨rfl, -⟩ := Prod.mk.inj (Option.some.inj stepped)
    cases write with
    | nothing => exact .ended number (finished state number _) (Evolves.of_eq _ fun _ => rfl)
    | requeue target resolvedCommitSha actor =>
      refine .retriedRelease number target resolvedCommitSha actor rfl found (finished state number _) ?_
      have moved : Evolves (Move.revives .release target).Moves state.db (state.db.updateRows .release
          (fun row => row.id = target) (OperationColumns.requeuedInBulk resolvedCommitSha actor)) := by
        refine Evolves.updateRows state.db ?_
        intro row _ here
        exact ⟨⟨rfl, rfl, rfl⟩, .inr ⟨rfl, of_decide_eq_true here, rfl⟩⟩
      refine moved.congr fun lane => ?_
      cases lane <;> rfl
    | insert row previousId =>
      refine .ended number (finished state number _) (Evolves.insert .release ?_ rfl ⟨?_, base.1, base.2⟩)
      · exact List.map_append
      · exact of_decide_eq_true fresh
  · cases stepped

theorem shape_of_start {call : Call} (stepped : state.start number call = some (next, output)) :
    Shape event state next := by
  -- A call that is refused at once changes nothing.
  have refused : Shape event state state :=
    .call none (.inl rfl) nofun (Evolves.of_eq _ fun _ => rfl) rfl rfl
  cases call with
  | claimNextOperation lane lease ties =>
    obtain ⟨rfl, -⟩ := Prod.mk.inj (Option.some.inj stepped)
    exact .begins number (.claim ⟨lane, lease, ties, state.now, .waiting⟩) (fun locked => locked rfl) trivial trivial rfl
  | updateProfileForOperation id ownerId profileName patch =>
    simp only [State.start] at stepped
    split at stepped
    · cases stepped
    split at stepped
    · rename_i owned
      obtain ⟨rfl, -⟩ := Prod.mk.inj (Option.some.inj stepped)
      obtain ⟨operation, stored, holds⟩ := List.any_eq_true.mp owned
      obtain ⟨here, running, owner⟩ := of_decide_eq_true (of_decide_eq_true holds).1
      exact .begins number (.updateProfile id ownerId profileName patch) (fun locked => locked) trivial
        ⟨operation.toOperationColumns, List.mem_map_of_mem stored, here, running, owner⟩ rfl
    · obtain ⟨rfl, -⟩ := Prod.mk.inj (Option.some.inj stepped)
      exact refused
  | publishRelease operationId leaseOwner release processNow =>
    simp only [State.start] at stepped
    split at stepped
    · rename_i owned
      obtain ⟨rfl, -⟩ := Prod.mk.inj (Option.some.inj stepped)
      obtain ⟨row, stored, holds⟩ := List.any_eq_true.mp owned
      obtain ⟨here, running, owner⟩ := of_decide_eq_true holds
      exact .begins number (.publish operationId leaseOwner release processNow) (fun locked => locked) trivial
        ⟨row, stored, here, running, owner⟩ rfl
    · obtain ⟨rfl, -⟩ := Prod.mk.inj (Option.some.inj stepped)
      exact refused
  | retryOperation id requestedBy newId processNow =>
    obtain ⟨rfl, -⟩ := Prod.mk.inj (Option.some.inj stepped)
    exact .begins number (.retryOperation id requestedBy newId state.now processNow .waiting)
      (fun locked => locked rfl) trivial trivial rfl
  | retryRelease id requestedBy newId =>
    simp only [State.start] at stepped
    split at stepped
    · obtain ⟨rfl, -⟩ := Prod.mk.inj (Option.some.inj stepped)
      exact refused
    · obtain ⟨rfl, -⟩ := Prod.mk.inj (Option.some.inj stepped)
      exact refused
    · rename_i write _ read
      obtain ⟨rfl, -⟩ := Prod.mk.inj (Option.some.inj stepped)
      exact .begins number (.retryRelease write) (fun locked => locked) (readReleaseRetry_sound read) trivial rfl

theorem shape_of_proceed (found : state.transaction? number = some transaction)
    (base : transaction.Base state.db) (stepped : state.proceed number transaction = some (next, output)) :
    Shape (.proceed number) state next := by
  cases transaction with
  | claim own => exact shape_of_proceedClaim found base stepped
  | updateProfile id ownerId profileName patch =>
    obtain ⟨rfl, -⟩ := Prod.mk.inj (Option.some.inj stepped)
    exact .ended number ⟨rfl, rfl⟩ (Evolves.of_eq _ fun _ => rfl)
  | publish operationId leaseOwner release processNow =>
    obtain ⟨rfl, -⟩ := Prod.mk.inj (Option.some.inj stepped)
    exact .ended number ⟨rfl, rfl⟩ (Evolves.of_eq _ fun _ => rfl)
  | retryOperation id requestedBy newId createdAt processNow phase =>
    cases phase with
    | waiting =>
      simp only [State.proceed] at stepped
      split at stepped
      · rename_i free
        obtain ⟨rfl, -⟩ := Prod.mk.inj (Option.some.inj stepped)
        exact .locks number (.retryOperation id requestedBy newId createdAt processNow .locked) free trivial trivial rfl
      · cases stepped
    | locked =>
      simp only [State.proceed] at stepped
      split at stepped
      · obtain ⟨rfl, -⟩ := Prod.mk.inj (Option.some.inj stepped)
        exact .ended number ⟨rfl, rfl⟩ (Evolves.of_eq _ fun _ => rfl)
      · rename_i write read
        obtain ⟨rfl, -⟩ := Prod.mk.inj (Option.some.inj stepped)
        obtain ⟨sound, firm⟩ := readRetry_sound read
        exact .goesOn number _ (.retryOperation id requestedBy newId createdAt processNow (.writing write)) state.db found
          nofun (Evolves.of_eq _ fun _ => rfl) sound (fun _ => firm) rfl
    | writing write => exact shape_of_proceedRetry found base stepped
  | retryRelease write => exact shape_of_proceedReleaseRetry found base stepped

theorem shape_of_step (base : ∀ entry ∈ state.transactions, entry.2.Base state.db)
    (stepped : machine.step state event = some (next, output)) : Shape event state next := by
  -- A call that changes no status and no owner.
  have calm (db : ControlPlane) (evolves : Evolves (Move.calm none).Moves state.db db) :
      Shape event state (state.withDb db) :=
    .call none (.inl rfl) nofun evolves rfl rfl
  cases event with
  | advance milliseconds =>
    obtain ⟨rfl, -⟩ := Prod.mk.inj (Option.some.inj stepped)
    exact .call none (.inl rfl) nofun (Evolves.of_eq _ fun _ => rfl) rfl rfl
  | start number call =>
    simp only [machine] at stepped
    split at stepped
    · cases stepped
    · exact shape_of_start stepped
  | proceed number =>
    obtain ⟨transaction, found, proceeds⟩ := Option.bind_eq_some_iff.mp stepped
    exact shape_of_proceed found (base _ (mem_of_transaction? found)) proceeds
  | renewOperationLease lane id ownerId durationMs =>
    simp only [machine] at stepped
    split at stepped
    · cases stepped
    · obtain ⟨rfl, -⟩ := Prod.mk.inj (Option.some.inj stepped)
      refine calm _ (Evolves.updateRows state.db ?_)
      exact fun row _ _ => calm_of_unchanged ⟨rfl, rfl, rfl⟩ rfl rfl
  | pinOperationResolvedCommit lane id ownerId resolvedCommitSha =>
    simp only [machine] at stepped
    split at stepped
    · cases stepped
    · obtain ⟨rfl, -⟩ := Prod.mk.inj (Option.some.inj stepped)
      refine calm _ (Evolves.updateRows state.db ?_)
      exact fun row _ _ => calm_of_unchanged ⟨rfl, rfl, rfl⟩ rfl rfl
  | completeOperation lane id succeeded fields leaseOwner processNow =>
    simp only [machine] at stepped
    split at stepped
    · cases stepped
    · rename_i free
      refine shape_of_answer (Option.some.inj stepped) rfl free fun db completed => ?_
      refine completeOperation_evolves ?_ completed
      cases succeeded <;> simp [GatewayOperationStatus.Active]
  | requeueOperation id detail retryAt leaseOwner =>
    simp only [machine] at stepped
    split at stepped
    · cases stepped
    · rename_i free
      exact shape_of_answer (Option.some.inj stepped) rfl free fun db requeued => requeueOperation_evolves requeued
  | cancelOperation lane id processNow =>
    simp only [machine] at stepped
    split at stepped
    · cases stepped
    · rename_i free
      obtain ⟨rfl, -⟩ := Prod.mk.inj (Option.some.inj stepped)
      refine .call (some (lane, id)) (.inr rfl) ?_ (cancelOperation_evolves state lane id processNow) ?_ ?_
      · intro other same
        obtain ⟨rfl, rfl⟩ := Prod.mk.inj (Option.some.inj same)
        simpa using free
      · cases lane <;> rfl
      · cases lane <;> rfl
  | appendOperationLog lane id level phase message =>
    simp only [machine] at stepped
    split at stepped
    · cases stepped
    · obtain ⟨rfl, -⟩ := Prod.mk.inj (Option.some.inj stepped)
      refine calm _ (Evolves.of_eq _ fun table => ?_)
      cases lane <;> cases table <;> rfl
  | queueOperation input newId =>
    simp only [machine] at stepped
    split at stepped
    · cases stepped
    · rename_i fresh
      obtain ⟨rfl, -⟩ := Prod.mk.inj (Option.some.inj stepped)
      refine calm _ (Evolves.insert .profile List.map_append rfl ⟨?_, rfl, rfl⟩)
      intro other member same
      obtain ⟨operation, stored, rfl⟩ := List.mem_map.mp member
      exact fresh (List.mem_map.mpr ⟨operation, stored, same⟩)

end Sammo.Gateway.Transactions
