import Sammo.Gateway.RowMoves
import Sammo.Gateway.Admission

/-! What the transactions on the control plane have found, and which moves of the rows leave it true. -/

namespace Sammo.Gateway.Transactions

/-- Nothing of a table is running. -/
def Still (db : ControlPlane) (lane : Lane) : Prop := ∀ row ∈ db.rows lane, row.status ≠ .running

/-- Whatever is running is the same row. -/
def Lone (db : ControlPlane) : Prop :=
  ∀ lane, ∀ row ∈ db.rows lane, ∀ table, ∀ other ∈ db.rows table, row.status = .running → other.status = .running →
    lane = table ∧ row.id = other.id

/-- An owner holds a row. -/
def Held (db : ControlPlane) (lane : Lane) (id ownerId : String) : Prop :=
  ∃ row ∈ db.rows lane, row.id = id ∧ row.status = .running ∧ row.leaseOwner = some ownerId

/-- A row has failed or was cancelled. -/
def Retriable (db : ControlPlane) (lane : Lane) (id : String) : Prop :=
  ∃ row ∈ db.rows lane, row.id = id ∧ (row.status = .failed ∨ row.status = .cancelled)

/-- The row of a candidate is there, at the same place of its bulk release. -/
def Listed (db : ControlPlane) (lane : Lane) (candidate : OperationColumns) : Prop :=
  ∃ row ∈ db.rows lane, SameTarget candidate row

/-- The ids of every table are different. -/
def Distinct (db : ControlPlane) : Prop := ∀ lane, ((db.rows lane).map OperationColumns.id).Nodup

/-- A move does not start a row. -/
def Move.Rests : Move → Prop
  | .starts .. => False
  | _ => True

/-- A row that is put back into the queue has failed or was cancelled. -/
def Move.Sound (db : ControlPlane) : Move → Prop
  | .revives table id => Retriable db table id
  | _ => True

/-- A move is not aimed at a row. -/
def Move.Spares (lane : Lane) (id : String) : Move → Prop
  | .calm target => target ≠ some (lane, id)
  | _ => True

section evolves

variable {move : Move} {before after : ControlPlane} (evolves : Evolves move.Moves before after)

variable {lane : Lane} {candidate : OperationColumns}

theorem Distinct.same {db : ControlPlane} (distinct : Distinct db) {left right : OperationColumns}
    (isLeft : left ∈ db.rows lane) (isRight : right ∈ db.rows lane) (ids : left.id = right.id) : left = right :=
  List.inj_on_of_nodup_map (distinct lane) isLeft isRight ids

include evolves

theorem Evolves.keepsDistinct (distinct : Distinct before) : Distinct after :=
  fun lane => evolves.distinct lane (distinct lane)

theorem Evolves.ran (rests : move.Rests) {moved : OperationColumns} (member : moved ∈ after.rows lane)
    (running : moved.status = .running) : ∃ row ∈ before.rows lane, row.id = moved.id ∧ row.status = .running := by
  rcases evolves.backward lane moved member with ⟨row, stored, moves⟩ | new
  · refine ⟨row, stored, moves.same.id.symm, ?_⟩
    cases move with
    | calm target => exact moves.running running
    | starts table id => exact rests.elim
    | revives table id =>
      rcases moves.2 with ⟨same, -⟩ | ⟨-, -, queued⟩
      · rw [← same]
        exact running
      · rw [queued] at running
        cases running
  · rw [new.waits] at running
    cases running

theorem Still.evolve (rests : move.Rests) (still : Still before lane) : Still after lane := by
  intro moved member running
  obtain ⟨row, stored, -, ran⟩ := evolves.ran rests member running
  exact still row stored ran

theorem Lone.evolve (rests : move.Rests) (lone : Lone before) : Lone after := by
  intro lane moved member table other isOther running also
  obtain ⟨row, stored, same, ran⟩ := evolves.ran rests member running
  obtain ⟨second, isSecond, equal, ranToo⟩ := evolves.ran rests isOther also
  obtain ⟨lanes, ids⟩ := lone lane row stored table second isSecond ran ranToo
  exact ⟨lanes, same.symm.trans (ids.trans equal)⟩

theorem Listed.evolve (listed : Listed before lane candidate) : Listed after lane candidate := by
  obtain ⟨row, stored, same⟩ := listed
  obtain ⟨moved, member, moves⟩ := evolves.forward lane row stored
  exact ⟨moved, member, moves.same.id.trans same.id, moves.same.bulkReleaseId.trans same.bulkReleaseId,
    moves.same.bulkOrder.trans same.bulkOrder⟩

theorem Held.evolve (distinct : Distinct before) (sound : move.Sound before) {id ownerId : String}
    (spares : move.Spares lane id) (held : Held before lane id ownerId) : Held after lane id ownerId := by
  obtain ⟨row, stored, rfl, running, owned⟩ := held
  obtain ⟨moved, member, moves⟩ := evolves.forward lane row stored
  refine ⟨moved, member, moves.same.id, ?_⟩
  have unchanged (same : moved.status = row.status ∧ moved.leaseOwner = row.leaseOwner) :
      moved.status = .running ∧ moved.leaseOwner = some ownerId :=
    ⟨same.1.trans running, same.2.trans owned⟩
  cases move with
  | calm target =>
    obtain ⟨status, owner⟩ := moves.held running spares
    exact ⟨status, owner.trans owned⟩
  | starts table id =>
    rcases moves.2 with same | ⟨-, -, queued, -⟩
    · exact unchanged same
    · rw [queued] at running
      cases running
  | revives table id =>
    rcases moves.2 with same | ⟨rfl, rfl, -⟩
    · exact unchanged same
    · -- What is put back into the queue was not running.
      obtain ⟨other, isOther, ids, ended⟩ := sound
      obtain rfl := distinct.same isOther stored ids
      rcases ended with ended | ended
      · rw [ended] at running
        cases running
      · rw [ended] at running
        cases running

theorem Retriable.evolve {id : String} (untouched : move ≠ .revives lane id)
    (retriable : Retriable before lane id) : Retriable after lane id := by
  obtain ⟨row, stored, rfl, ended⟩ := retriable
  obtain ⟨moved, member, moves⟩ := evolves.forward lane row stored
  refine ⟨moved, member, moves.same.id, ?_⟩
  have inactive : ¬ row.status.Active := by
    rcases ended with ended | ended <;> simp [ended, GatewayOperationStatus.Active]
  have status : moved.status = row.status := by
    cases move with
    | calm target => exact moves.ended inactive
    | starts table id =>
      rcases moves.2 with same | ⟨-, -, queued, -⟩
      · exact same.1
      · exact (inactive (.inl queued)).elim
    | revives table id =>
      rcases moves.2 with same | ⟨rfl, rfl, -⟩
      · exact same.1
      · exact (untouched rfl).elim
  rw [status]
  exact ended

theorem Unblocked.evolve (distinct : Distinct before) (sound : move.Sound before)
    (clear : OperationColumns.Unblocked (before.rows lane) candidate) :
    OperationColumns.Unblocked (after.rows lane) candidate := by
  intro moved member precedes
  rcases evolves.backward lane moved member with ⟨row, stored, moves⟩ | new
  · have was : row.Precedes candidate := by
      unfold OperationColumns.Precedes at precedes ⊢
      rw [← moves.same.bulkReleaseId, ← moves.same.bulkOrder]
      exact precedes
    have succeeded := clear row stored was
    cases move with
    | calm target =>
      rw [moves.ended (by simp [succeeded, GatewayOperationStatus.Active])]
      exact succeeded
    | starts table id =>
      rcases moves.2 with same | ⟨-, -, queued, -⟩
      · exact same.1.trans succeeded
      · rw [queued] at succeeded
        cases succeeded
    | revives table id =>
      rcases moves.2 with same | ⟨rfl, rfl, -⟩
      · exact same.1.trans succeeded
      · obtain ⟨other, isOther, ids, ended⟩ := sound
        obtain rfl := distinct.same isOther stored ids
        rcases ended with ended | ended
        · rw [ended] at succeeded
          cases succeeded
        · rw [ended] at succeeded
          cases succeeded
  · -- A new row is no target of a bulk release.
    obtain ⟨⟨release, -, belongs⟩, -⟩ := precedes
    rw [new.single] at belongs
    cases belongs

end evolves

theorem Lone.starts {before after : ControlPlane} {table : Lane} {id : String}
    (evolves : Evolves (Move.starts table id).Moves before after) (still : ∀ lane, Still before lane) : Lone after := by
  have started {lane : Lane} {moved : OperationColumns} (member : moved ∈ after.rows lane)
      (running : moved.status = .running) : lane = table ∧ moved.id = id := by
    rcases evolves.backward lane moved member with ⟨row, stored, same, unchanged | ⟨isTable, isId, -⟩⟩ | new
    · exact (still lane row stored (unchanged.1.symm.trans running)).elim
    · exact ⟨isTable, same.id.trans isId⟩
    · rw [new.waits] at running
      cases running
  intro lane moved member other second isSecond running also
  obtain ⟨rfl, ids⟩ := started member running
  obtain ⟨rfl, same⟩ := started isSecond also
  exact ⟨rfl, ids.trans same.symm⟩

/-- What a claim has found stays true: nothing is running that could come into conflict with its candidate. -/
def Claim.Base (claim : Claim) (db : ControlPlane) : Prop :=
  match claim.phase with
  | .waiting | .locked => True
  | .alone => Still db claim.lane.other
  | .looked (some running) | .swept (some running) => Still db claim.lane.other ∧ running.status = .running
  | .looked none | .swept none => ∀ lane, Still db lane
  | .searching queue => (∀ lane, Still db lane) ∧ ∀ candidate ∈ queue, candidate.status = .queued
  | .counting candidate rest _ =>
    (∀ lane, Still db lane) ∧ candidate.status = .queued ∧ ∀ candidate ∈ rest, candidate.status = .queued
  | .chosen candidate =>
    candidate.status = .running ∨ candidate.status = .queued ∧ ∀ lane, Still db lane

/-- What a claim has counted stays true: the way of its candidate is clear. -/
def Claim.Firm (claim : Claim) (db : ControlPlane) : Prop :=
  match claim.phase with
  | .searching queue => ∀ candidate ∈ queue, Listed db claim.lane candidate
  | .counting candidate rest blocking =>
    Listed db claim.lane candidate ∧ (∀ candidate ∈ rest, Listed db claim.lane candidate) ∧
      (blocking = 0 → OperationColumns.Unblocked (db.rows .release) candidate)
  | .chosen candidate =>
    candidate.status = .queued → Listed db claim.lane candidate ∧ ∀ lane, OperationColumns.Unblocked (db.rows lane) candidate
  | _ => True

/-- A transaction has the lock on the control plane. -/
def Transaction.HasLock : Transaction → Prop
  | .claim own => own.phase ≠ .waiting
  | .retryOperation _ _ _ _ _ phase => phase ≠ .waiting
  | _ => False

/-- A row that is about to be stored waits, and is no target of a bulk release. -/
def IsRetry (row : OperationColumns) : Prop := row.status = .queued ∧ row.bulkReleaseId = none

/-- What a transaction has found about running rows, and what it is about to store. -/
def Transaction.Base (db : ControlPlane) : Transaction → Prop
  | .claim own => own.Base db
  | .retryOperation _ _ _ _ _ (.writing (.insert row _)) => IsRetry row.toOperationColumns
  | .retryRelease (.insert row _) => IsRetry row.toOperationColumns
  | _ => True

/-- What a transaction relies on until it writes. -/
def Transaction.Firm (db : ControlPlane) : Transaction → Prop
  | .claim own => own.Firm db
  | .updateProfile id ownerId _ _ => Held db .profile id ownerId
  | .publish operationId leaseOwner _ _ => Held db .release operationId leaseOwner
  | .retryOperation _ _ _ _ _ (.writing (.requeue id _ _)) => Retriable db .profile id
  | _ => True

/-- The release that a transaction is publishing. -/
def Transaction.published : Transaction → Option String
  | .publish operationId .. => some operationId
  | _ => none

variable {transaction : Transaction} {lane : Lane} {candidate : OperationColumns}

theorem Transaction.Base.keep {before after : ControlPlane} (unlocked : ¬ transaction.HasLock)
    (base : transaction.Base before) : transaction.Base after := by
  cases transaction with
  | claim own =>
    have waiting : own.phase = .waiting := not_not.mp unlocked
    simp only [Transaction.Base, Claim.Base, waiting]
  | updateProfile => trivial
  | publish => trivial
  | retryOperation id requestedBy newId createdAt processNow phase =>
    have waiting : phase = .waiting := not_not.mp unlocked
    subst waiting
    trivial
  | retryRelease write => cases write <;> exact base

theorem Transaction.Base.evolve {move : Move} {before after : ControlPlane}
    (evolves : Evolves move.Moves before after) (rests : move.Rests) (base : transaction.Base before) :
    transaction.Base after := by
  have still {lane : Lane} (held : Still before lane) : Still after lane := held.evolve evolves rests
  have allStill (held : ∀ lane, Still before lane) : ∀ lane, Still after lane := fun lane => still (held lane)
  cases transaction with
  | claim own =>
    obtain ⟨lane, lease, ties, now, phase⟩ := own
    cases phase with
    | waiting => trivial
    | locked => trivial
    | alone => exact still base
    | looked running =>
      cases running with
      | none => exact allStill base
      | some running => exact ⟨still base.1, base.2⟩
    | swept running =>
      cases running with
      | none => exact allStill base
      | some running => exact ⟨still base.1, base.2⟩
    | searching queue => exact ⟨allStill base.1, base.2⟩
    | counting candidate rest blocking => exact ⟨allStill base.1, base.2⟩
    | chosen candidate => exact base.imp_right fun ⟨queued, held⟩ => ⟨queued, allStill held⟩
  | updateProfile => trivial
  | publish => trivial
  | retryOperation id requestedBy newId createdAt processNow phase =>
    cases phase with
    | waiting => trivial
    | locked => trivial
    | writing write => cases write <;> exact base
  | retryRelease write => cases write <;> exact base

theorem Transaction.Firm.evolve {move : Move} {before after : ControlPlane}
    (evolves : Evolves move.Moves before after) (distinct : Distinct before) (sound : move.Sound before)
    (locked : ∀ id, transaction.lockedRow = some id → move.Spares .profile id)
    (published : ∀ id, transaction.published = some id → move.Spares .release id)
    (alone : transaction.HasLock → ∀ id, move ≠ .revives .profile id) (firm : transaction.Firm before) :
    transaction.Firm after := by
  cases transaction with
  | claim own =>
    obtain ⟨lane, lease, ties, now, phase⟩ := own
    cases phase with
    | waiting => trivial
    | locked => trivial
    | alone => trivial
    | looked running => trivial
    | swept running => trivial
    | searching queue => exact fun candidate member => (firm candidate member).evolve evolves
    | counting candidate rest blocking =>
      obtain ⟨listed, others, clear⟩ := firm
      refine ⟨listed.evolve evolves, fun other member => (others other member).evolve evolves, ?_⟩
      exact fun none => Unblocked.evolve evolves distinct sound (clear none)
    | chosen candidate =>
      intro queued
      obtain ⟨listed, clear⟩ := firm queued
      exact ⟨listed.evolve evolves, fun lane => Unblocked.evolve evolves distinct sound (clear lane)⟩
  | updateProfile id ownerId profileName patch => exact Held.evolve evolves distinct sound (locked id rfl) firm
  | publish operationId leaseOwner release processNow =>
    exact Held.evolve evolves distinct sound (published operationId rfl) firm
  | retryOperation id requestedBy newId createdAt processNow phase =>
    cases phase with
    | waiting => trivial
    | locked => trivial
    | writing write =>
      cases write with
      | nothing => trivial
      | requeue target resolvedCommitSha actor => exact Retriable.evolve evolves (alone nofun target) firm
      | insert row previousId => trivial
  | retryRelease write => trivial

theorem still_of_isRunning {db : ControlPlane} (idle : ¬ isRunning (db.rows lane) = true) : Still db lane := by
  intro row member running
  exact idle (List.any_eq_true.mpr ⟨row, member, decide_eq_true running⟩)

theorem still_of_lanes {db : ControlPlane} (own : Still db lane) (other : Still db lane.other) :
    ∀ table, Still db table := by
  intro table
  cases lane <;> cases table
  · exact own
  · exact other
  · exact other
  · exact own

theorem mem_queuedRows {db : ControlPlane} {now : Int} {row : OperationColumns}
    (queued : row ∈ db.queuedRows now lane) : row ∈ db.rows lane ∧ row.status = .queued := by
  cases lane with
  | profile =>
    obtain ⟨operation, listed, rfl⟩ := List.mem_map.mp queued
    obtain ⟨stored, here⟩ := List.mem_filter.mp listed
    exact ⟨List.mem_map_of_mem stored, (of_decide_eq_true here).1⟩
  | release =>
    obtain ⟨stored, waits⟩ := List.mem_filter.mp queued
    exact ⟨stored, of_decide_eq_true waits⟩

theorem unblocked_of_countBlocking {rows : List OperationColumns} (none : countBlocking rows candidate = 0) :
    OperationColumns.Unblocked rows candidate := by
  intro other member precedes
  by_contra blocks
  have listed : other ∈ rows.filter fun other => other.Precedes candidate ∧ other.status ≠ .succeeded :=
    List.mem_filter.mpr ⟨member, decide_eq_true ⟨precedes, blocks⟩⟩
  rw [List.length_eq_zero_iff.mp none] at listed
  cases listed

theorem unblocked_of_single (single : candidate.bulkReleaseId = none ∨ candidate.bulkOrder = none)
    (rows : List OperationColumns) : OperationColumns.Unblocked rows candidate := by
  rintro other - ⟨⟨release, isRelease, -⟩, order, isOrder, -⟩
  rcases single with absent | absent
  · rw [absent] at isRelease
    cases isRelease
  · rw [absent] at isOrder
    cases isOrder

section next

variable {claim : Claim} {db after : ControlPlane} {phase : ClaimPhase}

theorem Claim.next_base (base : claim.Base db) (goesOn : claim.next db = (after, some phase)) :
    Evolves (Move.calm none).Moves db after ∧ ({ claim with phase } : Claim).Base after := by
  obtain ⟨lane, lease, ties, now, current⟩ := claim
  have unmoved {same : ControlPlane} (equal : db = same) : Evolves (Move.calm none).Moves db same :=
    Evolves.of_eq _ fun _ => by rw [equal]
  cases current with
  | waiting =>
    obtain ⟨same, stage⟩ := Prod.mk.inj goesOn
    obtain rfl := Option.some.inj stage
    exact ⟨unmoved same, trivial⟩
  | locked =>
    obtain ⟨rfl, stage⟩ := Prod.mk.inj goesOn
    split at stage
    · cases stage
    · rename_i idle
      obtain rfl := Option.some.inj stage
      exact ⟨unmoved rfl, still_of_isRunning idle⟩
  | alone =>
    obtain ⟨rfl, stage⟩ := Prod.mk.inj goesOn
    split at stage
    · cases stage
    · obtain rfl := Option.some.inj stage
      refine ⟨unmoved rfl, ?_⟩
      cases found : OperationColumns.firstRunning ties (db.rows lane) with
      | none =>
        simp only [Claim.Base]
        exact still_of_lanes (firstRunning_none found) base
      | some running =>
        simp only [Claim.Base]
        exact ⟨base, (firstRunning_some found).2⟩
  | looked running =>
    obtain ⟨same, stage⟩ := Prod.mk.inj goesOn
    obtain rfl := Option.some.inj stage
    have evolves : Evolves (Move.calm none).Moves db after := by
      cases lane with
      | profile => exact same ▸ Evolves.expireInterimDeploys db now
      | release => exact unmoved same
    refine ⟨evolves, ?_⟩
    have still {table : Lane} (held : Still db table) : Still after table := held.evolve evolves trivial
    cases running with
    | none => exact fun table => still (base table)
    | some running => exact ⟨still base.1, base.2⟩
  | swept running =>
    cases running with
    | none =>
      obtain ⟨rfl, stage⟩ := Prod.mk.inj goesOn
      obtain rfl := Option.some.inj stage
      refine ⟨unmoved rfl, base, ?_⟩
      intro candidate listed
      exact (mem_queuedRows ((List.mem_insertionSort _).mp (List.mem_of_mem_take listed))).2
    | some running =>
      obtain ⟨rfl, stage⟩ := Prod.mk.inj goesOn
      obtain rfl := Option.some.inj stage
      exact ⟨unmoved rfl, .inl base.2⟩
  | searching queue =>
    obtain ⟨still, queued⟩ := base
    cases queue with
    | nil => cases goesOn
    | cons candidate rest =>
      have waits : candidate.status = .queued := queued candidate List.mem_cons_self
      simp only [Claim.next] at goesOn
      split at goesOn
      · obtain ⟨rfl, stage⟩ := Prod.mk.inj goesOn
        obtain rfl := Option.some.inj stage
        exact ⟨unmoved rfl, .inr ⟨waits, still⟩⟩
      · obtain ⟨rfl, stage⟩ := Prod.mk.inj goesOn
        obtain rfl := Option.some.inj stage
        exact ⟨unmoved rfl, still, waits, fun other member => queued other (List.mem_cons_of_mem _ member)⟩
  | counting candidate rest blocking =>
    obtain ⟨still, waits, queued⟩ := base
    obtain ⟨rfl, stage⟩ := Prod.mk.inj goesOn
    obtain rfl := Option.some.inj stage
    refine ⟨unmoved rfl, ?_⟩
    by_cases clear : blocking + countBlocking (db.rows .profile) candidate = 0
    · simp only [Claim.Base, if_pos clear]
      exact .inr ⟨waits, still⟩
    · simp only [Claim.Base, if_neg clear]
      exact ⟨still, queued⟩
  | chosen candidate => cases goesOn

theorem Claim.next_firm (firm : claim.Firm db) (goesOn : claim.next db = (after, some phase))
    (base : claim.Base db) : ({ claim with phase } : Claim).Firm after := by
  obtain ⟨lane, lease, ties, now, current⟩ := claim
  cases current with
  | waiting =>
    obtain ⟨-, stage⟩ := Prod.mk.inj goesOn
    obtain rfl := Option.some.inj stage
    trivial
  | locked =>
    obtain ⟨-, stage⟩ := Prod.mk.inj goesOn
    split at stage
    · cases stage
    · obtain rfl := Option.some.inj stage
      trivial
  | alone =>
    obtain ⟨-, stage⟩ := Prod.mk.inj goesOn
    split at stage
    · cases stage
    · obtain rfl := Option.some.inj stage
      trivial
  | looked running =>
    obtain ⟨-, stage⟩ := Prod.mk.inj goesOn
    obtain rfl := Option.some.inj stage
    trivial
  | swept running =>
    cases running with
    | none =>
      obtain ⟨rfl, stage⟩ := Prod.mk.inj goesOn
      obtain rfl := Option.some.inj stage
      intro candidate listed
      have queued := mem_queuedRows ((List.mem_insertionSort _).mp (List.mem_of_mem_take listed))
      exact ⟨candidate, queued.1, rfl, rfl, rfl⟩
    | some running =>
      obtain ⟨rfl, stage⟩ := Prod.mk.inj goesOn
      obtain rfl := Option.some.inj stage
      -- What is taken over does not start.
      intro queued
      rw [base.2] at queued
      cases queued
  | searching queue =>
    cases queue with
    | nil => cases goesOn
    | cons candidate rest =>
      simp only [Claim.next] at goesOn
      split at goesOn
      · rename_i single
        obtain ⟨rfl, stage⟩ := Prod.mk.inj goesOn
        obtain rfl := Option.some.inj stage
        exact fun _ => ⟨firm candidate List.mem_cons_self, fun table => unblocked_of_single single _⟩
      · obtain ⟨rfl, stage⟩ := Prod.mk.inj goesOn
        obtain rfl := Option.some.inj stage
        refine ⟨firm candidate List.mem_cons_self, ?_, unblocked_of_countBlocking⟩
        exact fun other member => firm other (List.mem_cons_of_mem _ member)
  | counting candidate rest blocking =>
    obtain ⟨listed, others, clear⟩ := firm
    obtain ⟨rfl, stage⟩ := Prod.mk.inj goesOn
    obtain rfl := Option.some.inj stage
    by_cases none : blocking + countBlocking (db.rows .profile) candidate = 0
    · simp only [Claim.Firm, if_pos none]
      obtain ⟨releases, operations⟩ := Nat.add_eq_zero_iff.mp none
      refine fun _ => ⟨listed, fun table => ?_⟩
      cases table with
      | profile => exact unblocked_of_countBlocking operations
      | release => exact clear releases
    · simp only [Claim.Firm, if_neg none]
      exact others
  | chosen candidate => cases goesOn

theorem Claim.next_ends (base : claim.Base db) (ends : claim.next db = (after, none)) :
    after = db ∨ ∃ candidate, claim.phase = .chosen candidate ∧
      (Evolves (Move.calm (some (claim.lane, candidate.id))).Moves db after ∨
        candidate.status = .queued ∧ (∀ lane, Still db lane) ∧
          Evolves (Move.starts claim.lane candidate.id).Moves db after) := by
  obtain ⟨lane, lease, ties, now, current⟩ := claim
  cases current with
  | waiting => cases ends
  | locked => exact .inl (Prod.mk.inj ends).1.symm
  | alone => exact .inl (Prod.mk.inj ends).1.symm
  | looked running => cases ends
  | swept running => cases running <;> cases ends
  | searching queue =>
    cases queue with
    | nil => exact .inl (Prod.mk.inj ends).1.symm
    | cons candidate rest =>
      simp only [Claim.next] at ends
      split at ends <;> cases ends
  | counting candidate rest blocking => cases ends
  | chosen candidate =>
    obtain ⟨rfl, -⟩ := Prod.mk.inj ends
    refine .inr ⟨candidate, rfl, ?_⟩
    rcases base with running | ⟨queued, still⟩
    · -- The row was running, and goes on under another owner.
      refine .inl (Evolves.updateRows db ?_)
      intro row _ claimable
      obtain ⟨same, state⟩ := of_decide_eq_true claimable
      rw [if_neg (by rw [running]; nofun)] at state
      refine ⟨⟨rfl, rfl, rfl⟩, fun ended => (ended (.inr state.1)).elim, fun _ => state.1, ?_⟩
      intro _ other
      exact (other (by rw [same])).elim
    · refine .inr ⟨queued, still, Evolves.updateRows db ?_⟩
      intro row _ claimable
      obtain ⟨same, state⟩ := of_decide_eq_true claimable
      rw [if_pos queued] at state
      exact ⟨⟨rfl, rfl, rfl⟩, .inr ⟨rfl, same, state, rfl⟩⟩

end next

end Sammo.Gateway.Transactions
