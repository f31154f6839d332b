import Sammo.Realtime.ReadModelOutbox

/-! What holds of the change journal along every run: delivery after publication, fenced dispatchers, gapless revisions. -/

namespace Sammo.ReadModelOutbox

variable {options : String → DispatchOptions} {journal next : Journal} {event : Event}

/-- What each event does to the journal. -/
inductive Effect (options : String → DispatchOptions) (journal : Journal) : Event → Journal → Prop
  | advance (milliseconds : Nat) : Effect options journal (.advance milliseconds)
      { journal with now := journal.now + milliseconds }
  | start (transaction : Nat) (closed : journal.writers transaction = none) :
      Effect options journal (.start transaction) (journal.setWriter transaction (some ⟨journal.now, [], [], []⟩))
  | write (transaction : Nat) (candidates : List ReadModelRevisionKey) (writer : Writer)
      (held : journal.writers transaction = some writer) (idle : writer.remaining = []) :
      Effect options journal (.write transaction candidates) (journal.setWriter transaction (some { writer with
        remaining := normalizeReadModelRevisionKeys candidates }))
  | bump (transaction : Nat) (writer : Writer) (key : ReadModelRevisionKey) (rest : List ReadModelRevisionKey)
      (counters : LockedCounters ReadModelRevisionKey Nat) (value : Nat)
      (held : journal.writers transaction = some writer) (raised : journal.counters.raise transaction key = some (counters, value))
      (more : rest ≠ []) :
      Effect options journal (.bump transaction) (({ journal with counters } : Journal).setWriter transaction
        (some { writer with remaining := rest, bumped := writer.bumped ++ [(key, value)] }))
  | insert (transaction : Nat) (writer : Writer) (key : ReadModelRevisionKey)
      (counters : LockedCounters ReadModelRevisionKey Nat) (value : Nat)
      (held : journal.writers transaction = some writer) (raised : journal.counters.raise transaction key = some (counters, value)) :
      Effect options journal (.bump transaction) { ({ journal with counters } : Journal).setWriter transaction
        (some { writer with
          remaining := [], bumped := []
          rows := writer.rows ++ [journal.newRow writer (writer.bumped ++ [(key, value)])] }) with
        nextId := journal.nextId + 1 }
  | commit (transaction : Nat) (writer : Writer) (held : journal.writers transaction = some writer)
      (idle : writer.remaining = []) : Effect options journal (.commit transaction) (journal.commit transaction writer)
  | rollback (transaction : Nat) (writer : Writer) (held : journal.writers transaction = some writer) :
      Effect options journal (.rollback transaction)
        { journal.setWriter transaction none with counters := journal.counters.rollback transaction }
  | claim (owner : String) (ids : List Nat) (may : journal.MayClaim (options owner) owner ids) :
      Effect options journal (.claim owner ids) (journal.claim owner ids)
  | publish (owner : String) (item : Claim) (rest : List Claim) (batch : journal.dispatchers owner = item :: rest) :
      Effect options journal (.publish owner) { journal.setBatch owner ({ item with stage := .published } :: rest) with
        published := item.id :: journal.published }
  | fail (owner error : String) (item : Claim) (rest : List Claim) (batch : journal.dispatchers owner = item :: rest) :
      Effect options journal (.fail owner error) (journal.setBatch owner ({ item with stage := .failed error } :: rest))
  | markDelivered (owner : String) (answered : Bool) (item : Claim) (rest : List Claim)
      (batch : journal.dispatchers owner = item :: rest) (published : item.stage = .published) :
      Effect options journal (.markDelivered owner answered) (journal.markDelivered owner item rest answered)
  | release (owner error : String) (item : Claim) (rest : List Claim) (batch : journal.dispatchers owner = item :: rest) :
      Effect options journal (.release owner) (journal.release (options owner) owner item rest error)
  | crash (owner : String) : Effect options journal (.crash owner) (journal.setBatch owner [])
  | prune (deliveredBefore : Int) (ids : List Nat) : Effect options journal (.prune deliveredBefore ids)
      { journal with
        outbox := journal.outbox.filter fun row =>
          ¬ (row.id ∈ ids ∧ ∃ deliveredAt ∈ row.deliveredAt, deliveredAt < deliveredBefore) }

variable {owner : String} {transaction : Nat} {writer : Writer} {change : OutboxRow → OutboxRow} {id : Nat}
  {published : List Nat} {item : Claim} {rest : List Claim} {outbox : List OutboxRow} {ids : List Nat}
  {events : List (Event × Unit)}

theorem dispatch_of_batch {settings : DispatchOptions}
    (stepped : journal.batch settings owner event = some next) :
    ∃ item rest, journal.dispatchers owner = item :: rest ∧ journal.dispatch settings owner item rest event = some next := by
  unfold Journal.batch at stepped
  split at stepped
  · cases stepped
  · rename_i item rest batch
    exact ⟨item, rest, batch, stepped⟩

theorem effect_of_step {output : Unit} (stepped : (machine options).step journal event = some (next, output)) :
    Effect options journal event next := by
  obtain ⟨result, done, same⟩ := Option.map_eq_some_iff.mp stepped
  obtain ⟨rfl, -⟩ := Prod.mk.inj same
  cases event with
  | advance milliseconds =>
    obtain rfl := Option.some.inj done
    exact .advance milliseconds
  | start transaction =>
    dsimp only at done
    split at done
    · rename_i closed
      obtain rfl := Option.some.inj done
      exact .start transaction (Option.isNone_iff_eq_none.mp closed)
    · cases done
  | write transaction candidates =>
    obtain ⟨writer, held, rest⟩ := Option.bind_eq_some_iff.mp done
    split at rest
    · rename_i idle
      obtain rfl := Option.some.inj rest
      exact .write transaction candidates writer held idle
    · cases rest
  | bump transaction =>
    obtain ⟨writer, held, rest⟩ := Option.bind_eq_some_iff.mp done
    split at rest
    · cases rest
    · rename_i key keys remaining
      obtain ⟨⟨counters, value⟩, raised, rfl⟩ := Option.map_eq_some_iff.mp rest
      dsimp only
      split
      · exact .insert transaction writer key counters value held raised
      · rename_i more
        exact .bump transaction writer key keys counters value held raised more
  | commit transaction =>
    obtain ⟨writer, held, rest⟩ := Option.bind_eq_some_iff.mp done
    split at rest
    · rename_i idle
      obtain rfl := Option.some.inj rest
      exact .commit transaction writer held idle
    · cases rest
  | rollback transaction =>
    obtain ⟨writer, held, rfl⟩ := Option.map_eq_some_iff.mp done
    exact .rollback transaction writer held
  | claim owner ids =>
    dsimp only at done
    split at done
    · rename_i may
      obtain rfl := Option.some.inj done
      exact .claim owner ids may
    · cases done
  | publish owner =>
    obtain ⟨item, rest, batch, dispatched⟩ := dispatch_of_batch done
    simp only [Journal.dispatch] at dispatched
    split at dispatched
    · obtain rfl := Option.some.inj dispatched
      exact .publish owner item rest batch
    · cases dispatched
  | fail owner error =>
    obtain ⟨item, rest, batch, dispatched⟩ := dispatch_of_batch done
    simp only [Journal.dispatch] at dispatched
    split at dispatched
    · obtain rfl := Option.some.inj dispatched
      exact .fail owner error item rest batch
    · cases dispatched
  | markDelivered owner answered =>
    obtain ⟨item, rest, batch, dispatched⟩ := dispatch_of_batch done
    simp only [Journal.dispatch] at dispatched
    split at dispatched
    · rename_i published
      obtain rfl := Option.some.inj dispatched
      exact .markDelivered owner answered item rest batch published
    · cases dispatched
  | release owner =>
    obtain ⟨item, rest, batch, dispatched⟩ := dispatch_of_batch done
    simp only [Journal.dispatch] at dispatched
    split at dispatched
    · rename_i error _
      obtain rfl := Option.some.inj dispatched
      exact .release owner error item rest batch
    · cases dispatched
  | crash owner =>
    obtain rfl := Option.some.inj done
    exact .crash owner
  | prune deliveredBefore ids =>
    obtain rfl := Option.some.inj done
    exact .prune deliveredBefore ids

/-- What a transaction has written: its rows, and the revisions of the write it is at. -/
def Writer.raised (writer : Writer) : Changes := writer.rows.flatMap OutboxRow.changes ++ writer.bumped

/-- What the transaction with a number has written, if it is open. -/
def Journal.raised (journal : Journal) (transaction : Nat) : Changes :=
  ((journal.writers transaction).map Writer.raised).getD []

/-- The transactions have raised what they have written, and what is committed has been written. -/
structure Numbered (journal : Journal) : Prop where
  serial : journal.counters.Serial
  drafted : journal.counters.drafts = journal.raised
  logged : journal.commits.flatten = journal.counters.log
  complete : ∀ transaction writer, journal.writers transaction = some writer → writer.remaining = [] → writer.bumped = []

theorem Journal.raised_of_held (held : journal.writers transaction = some writer) :
    journal.raised transaction = writer.raised := by
  rw [raised, held]
  rfl

theorem Journal.raised_setWriter (journal : Journal) (transaction : Nat) (writer : Option Writer) :
    (journal.setWriter transaction writer).raised =
      Function.update journal.raised transaction ((writer.map Writer.raised).getD []) := by
  funext other
  by_cases own : other = transaction
  · subst own
    simp [raised, setWriter]
  · simp [raised, setWriter, Function.update_of_ne own]

theorem Numbered.complete_setWriter (numbered : Numbered journal) (transaction : Nat) {writer : Option Writer}
    (complete : ∀ held ∈ writer, held.remaining = [] → held.bumped = []) :
    ∀ other held, (journal.setWriter transaction writer).writers other = some held → held.remaining = [] →
      held.bumped = [] := by
  intro other held found
  have changed : Function.update journal.writers transaction writer other = some held := found
  by_cases own : other = transaction
  · subst own
    rw [Function.update_self] at changed
    exact complete held changed
  · rw [Function.update_of_ne own] at changed
    exact numbered.complete other held changed

theorem Numbered.setWriter (numbered : Numbered journal) (same : writer.raised = journal.raised transaction)
    (complete : writer.remaining = [] → writer.bumped = []) :
    Numbered (journal.setWriter transaction (some writer)) where
  serial := numbered.serial
  drafted := by
    rw [Journal.raised_setWriter]
    show journal.counters.drafts = Function.update journal.raised transaction writer.raised
    rw [same, Function.update_eq_self]
    exact numbered.drafted
  logged := numbered.logged
  complete := numbered.complete_setWriter transaction fun held found => by
    obtain rfl := Option.some.inj found
    exact complete

theorem Numbered.raise (numbered : Numbered journal) {after : Writer} {key : ReadModelRevisionKey}
    {counters : LockedCounters ReadModelRevisionKey Nat} {value : Nat}
    (held : journal.writers transaction = some writer)
    (raised : journal.counters.raise transaction key = some (counters, value))
    (written : after.raised = writer.raised ++ [(key, value)])
    (complete : after.remaining = [] → after.bumped = []) (nextId : Nat) :
    Numbered { ({ journal with counters } : Journal).setWriter transaction (some after) with nextId } where
  serial := numbered.serial.raise raised
  drafted := by
    unfold LockedCounters.raise at raised
    split at raised
    · obtain ⟨rfl, rfl⟩ := Prod.mk.inj (Option.some.inj raised)
      show Function.update journal.counters.drafts transaction _ =
        (({ journal with counters := _ } : Journal).setWriter transaction (some after)).raised
      rw [Journal.raised_setWriter, numbered.drafted, Journal.raised_of_held held]
      show _ = Function.update journal.raised transaction after.raised
      rw [written]
    · cases raised
  logged := by
    unfold LockedCounters.raise at raised
    split at raised
    · obtain ⟨rfl, rfl⟩ := Prod.mk.inj (Option.some.inj raised)
      exact numbered.logged
    · cases raised
  complete := numbered.complete_setWriter transaction fun held found => by
    obtain rfl := Option.some.inj found
    exact complete

theorem Numbered.step (numbered : Numbered journal) (effect : Effect options journal event next) : Numbered next := by
  cases effect with
  | start transaction closed =>
    refine numbered.setWriter ?_ fun _ => rfl
    rw [Journal.raised, closed]
    rfl
  | write transaction candidates writer held idle =>
    have blank := numbered.complete transaction writer held idle
    refine numbered.setWriter ?_ fun _ => blank
    rw [Journal.raised_of_held held]
    rfl
  | bump transaction writer key rest counters value held raised more =>
    refine numbered.raise held raised ?_ (fun done => absurd done more) journal.nextId
    rw [Writer.raised, Writer.raised, List.append_assoc]
  | insert transaction writer key counters value held raised =>
    -- The row takes over what the write has raised.
    refine numbered.raise held raised ?_ (fun _ => rfl) (journal.nextId + 1)
    simp [Writer.raised, Journal.newRow]
  | commit transaction writer held idle =>
    have written : journal.counters.drafts transaction = writer.rows.flatMap OutboxRow.changes := by
      rw [numbered.drafted, Journal.raised_of_held held, Writer.raised, numbered.complete transaction writer held idle,
        List.append_nil]
    constructor
    · exact numbered.serial.commit transaction
    · show Function.update journal.counters.drafts transaction [] = (journal.setWriter transaction none).raised
      rw [Journal.raised_setWriter, numbered.drafted]
      rfl
    · show (journal.commits ++ writer.rows.map OutboxRow.changes).flatten =
        journal.counters.log ++ journal.counters.drafts transaction
      rw [List.flatten_append, numbered.logged, written, List.flatMap_def]
    · exact numbered.complete_setWriter transaction nofun
  | rollback transaction writer held =>
    constructor
    · exact numbered.serial.rollback transaction
    · show Function.update journal.counters.drafts transaction [] = (journal.setWriter transaction none).raised
      rw [Journal.raised_setWriter, numbered.drafted]
      rfl
    · exact numbered.logged
    · exact numbered.complete_setWriter transaction nofun
  | advance => exact ⟨numbered.serial, numbered.drafted, numbered.logged, numbered.complete⟩
  | claim => exact ⟨numbered.serial, numbered.drafted, numbered.logged, numbered.complete⟩
  | publish => exact ⟨numbered.serial, numbered.drafted, numbered.logged, numbered.complete⟩
  | fail => exact ⟨numbered.serial, numbered.drafted, numbered.logged, numbered.complete⟩
  | markDelivered => exact ⟨numbered.serial, numbered.drafted, numbered.logged, numbered.complete⟩
  | release => exact ⟨numbered.serial, numbered.drafted, numbered.logged, numbered.complete⟩
  | crash => exact ⟨numbered.serial, numbered.drafted, numbered.logged, numbered.complete⟩
  | prune => exact ⟨numbered.serial, numbered.drafted, numbered.logged, numbered.complete⟩

/-- The rows that a transaction has inserted and not committed yet. -/
def Journal.draftRows (journal : Journal) (transaction : Nat) : List OutboxRow :=
  ((journal.writers transaction).map Writer.rows).getD []

theorem Journal.draftRows_setWriter (journal : Journal) (transaction : Nat) (writer : Option Writer) :
    (journal.setWriter transaction writer).draftRows =
      Function.update journal.draftRows transaction ((writer.map Writer.rows).getD []) := by
  funext other
  by_cases own : other = transaction
  · subst own
    simp [draftRows, setWriter]
  · simp [draftRows, setWriter, Function.update_of_ne own]

theorem Journal.draftRows_of_held (held : journal.writers transaction = some writer) :
    journal.draftRows transaction = writer.rows := by
  rw [draftRows, held]
  rfl

/-- A row after some updates: the same row, with as many attempts or more, and delivered if it was. -/
structure Evolves (before after : OutboxRow) : Prop where
  id : after.id = before.id
  changes : after.changes = before.changes
  attempts : before.attempts ≤ after.attempts
  delivered : ∀ deliveredAt, before.deliveredAt = some deliveredAt → after.deliveredAt = some deliveredAt

theorem Evolves.refl (row : OutboxRow) : Evolves row row := ⟨rfl, rfl, le_rfl, fun _ delivered => delivered⟩

/-- What a step does to the rows of the outbox and of the transactions. -/
inductive RowChange (before after : Journal) : Prop
  | kept (drafts : after.draftRows = before.draftRows) (nextId : after.nextId = before.nextId)
      (ids : (after.outbox.map OutboxRow.id).Sublist (before.outbox.map OutboxRow.id))
      (rows : ∀ row ∈ after.outbox, ∃ earlier ∈ before.outbox, Evolves earlier row)
  | inserted (transaction : Nat) (row : OutboxRow) (fresh : row.id = before.nextId) (waiting : row.deliveredAt = none)
      (drafts : after.draftRows =
        Function.update before.draftRows transaction (before.draftRows transaction ++ [row]))
      (nextId : after.nextId = before.nextId + 1) (outbox : after.outbox = before.outbox)
  | closed (transaction : Nat) (drafts : after.draftRows = Function.update before.draftRows transaction [])
      (nextId : after.nextId = before.nextId)
      (outbox : after.outbox = before.outbox ∨ after.outbox = before.outbox ++ before.draftRows transaction)

theorem RowChange.unchanged (drafts : next.draftRows = journal.draftRows) (nextId : next.nextId = journal.nextId)
    (outbox : next.outbox = journal.outbox) : RowChange journal next := by
  refine .kept drafts nextId (by rw [outbox]) ?_
  intro row member
  rw [outbox] at member
  exact ⟨row, member, .refl row⟩

theorem Journal.draftRows_kept (same : writer.rows = journal.draftRows transaction) :
    (journal.setWriter transaction (some writer)).draftRows = journal.draftRows := by
  rw [draftRows_setWriter]
  show Function.update journal.draftRows transaction writer.rows = journal.draftRows
  rw [same, Function.update_eq_self]

theorem RowChange.mapped (evolves : ∀ row, Evolves row (change row))
    (drafts : next.draftRows = journal.draftRows) (nextId : next.nextId = journal.nextId)
    (outbox : next.outbox = journal.outbox.map change) : RowChange journal next := by
  refine .kept drafts nextId ?_ ?_
  · have same : OutboxRow.id ∘ change = OutboxRow.id := funext fun row => (evolves row).id
    rw [outbox, List.map_map, same]
  · intro row member
    rw [outbox] at member
    obtain ⟨earlier, inside, rfl⟩ := List.mem_map.mp member
    exact ⟨earlier, inside, evolves earlier⟩

theorem evolves_claim (owner : String) (ids : List Nat) (now : Int) (row : OutboxRow) :
    Evolves row (if row.id ∈ ids then row.claim owner now else row) := by
  split
  · exact ⟨rfl, rfl, Nat.le_succ _, fun _ delivered => delivered⟩
  · exact .refl row

theorem evolves_updateHeld (owner : String) (id : Nat) (change : OutboxRow → OutboxRow)
    (same : ∀ row, (change row).id = row.id ∧ (change row).changes = row.changes ∧
      (change row).attempts = row.attempts) (row : OutboxRow) :
    Evolves row (if Holds owner id row then change row else row) := by
  split
  · rename_i holds
    obtain ⟨sameId, changes, attempts⟩ := same row
    refine ⟨sameId, changes, attempts.ge, ?_⟩
    intro deliveredAt delivered
    rw [holds.2.2] at delivered
    cases delivered
  · exact .refl row

theorem rowChange_of_effect (effect : Effect options journal event next) : RowChange journal next := by
  cases effect with
  | advance => exact .unchanged rfl rfl rfl
  | start transaction closed =>
    refine .unchanged (Journal.draftRows_kept ?_) rfl rfl
    rw [Journal.draftRows, closed]
    rfl
  | write transaction candidates writer held idle =>
    exact .unchanged (Journal.draftRows_kept (Journal.draftRows_of_held held).symm) rfl rfl
  | bump transaction writer key rest counters value held raised more =>
    refine .unchanged ?_ rfl rfl
    exact Journal.draftRows_kept (Journal.draftRows_of_held held).symm
  | insert transaction writer key counters value held raised =>
    refine .inserted transaction (journal.newRow writer (writer.bumped ++ [(key, value)])) rfl rfl ?_ rfl rfl
    show (Journal.setWriter { journal with counters } transaction _).draftRows = _
    rw [Journal.draftRows_setWriter, Journal.draftRows_of_held held]
    rfl
  | commit transaction writer held idle =>
    refine .closed transaction ?_ rfl (.inr ?_)
    · show (journal.setWriter transaction none).draftRows = _
      rw [Journal.draftRows_setWriter]
      rfl
    · rw [Journal.draftRows_of_held held]
      rfl
  | rollback transaction writer held =>
    refine .closed transaction ?_ rfl (.inl rfl)
    show (journal.setWriter transaction none).draftRows = _
    rw [Journal.draftRows_setWriter]
    rfl
  | claim owner ids may => exact .mapped (evolves_claim owner ids journal.now) rfl rfl rfl
  | publish => exact .unchanged rfl rfl rfl
  | fail => exact .unchanged rfl rfl rfl
  | markDelivered owner answered item rest batch published =>
    exact .mapped (evolves_updateHeld owner item.id (fun row => row.deliver journal.now) fun _ => ⟨rfl, rfl, rfl⟩)
      rfl rfl rfl
  | release owner error item rest batch =>
    exact .mapped (evolves_updateHeld owner item.id
      (fun row => row.release (journal.now + (options owner).delay item.attempts) error) fun _ => ⟨rfl, rfl, rfl⟩)
      rfl rfl rfl
  | crash => exact .unchanged rfl rfl rfl
  | prune deliveredBefore ids =>
    refine .kept rfl rfl (List.filter_sublist.map _) ?_
    intro row member
    exact ⟨row, (List.mem_filter.mp member).1, .refl row⟩

/-- A row id that has been given out to a row which is not in an open transaction any more. -/
structure Issued (journal : Journal) (id : Nat) : Prop where
  given : id < journal.nextId
  apart : ∀ transaction, ∀ row ∈ journal.draftRows transaction, row.id ≠ id

/-- Every row has an id of its own. -/
structure Identified (journal : Journal) : Prop where
  distinct : (journal.outbox.map OutboxRow.id).Nodup
  issued : ∀ row ∈ journal.outbox, Issued journal row.id
  drafted : ∀ transaction, ((journal.draftRows transaction).map OutboxRow.id).Nodup
  given : ∀ transaction, ∀ row ∈ journal.draftRows transaction, row.id < journal.nextId
  apart : ∀ transaction other, transaction ≠ other → ∀ row ∈ journal.draftRows transaction,
    ∀ another ∈ journal.draftRows other, row.id ≠ another.id

theorem mem_update_drafts {drafts : Nat → List OutboxRow} {other : Nat} {rows : List OutboxRow}
    {row : OutboxRow} (member : row ∈ Function.update drafts transaction rows other) :
    other = transaction ∧ row ∈ rows ∨ other ≠ transaction ∧ row ∈ drafts other := by
  by_cases own : other = transaction
  · subst own
    rw [Function.update_self] at member
    exact .inl ⟨rfl, member⟩
  · rw [Function.update_of_ne own] at member
    exact .inr ⟨own, member⟩

theorem Issued.step (issued : Issued journal id) (change : RowChange journal next) : Issued next id := by
  cases change with
  | kept drafts nextId ids rows => exact ⟨nextId ▸ issued.given, drafts ▸ issued.apart⟩
  | inserted transaction row fresh waiting drafts nextId outbox =>
    refine ⟨by have := issued.given; omega, ?_⟩
    rw [drafts]
    intro other another member
    rcases mem_update_drafts member with ⟨own, member⟩ | ⟨own, member⟩
    · rcases List.mem_append.mp member with member | member
      · exact issued.apart _ another member
      · -- The new row has the next id, which is not given out yet.
        obtain rfl := List.mem_singleton.mp member
        rw [fresh]
        exact issued.given.ne'
    · exact issued.apart other another member
  | closed transaction drafts nextId outbox =>
    refine ⟨nextId ▸ issued.given, ?_⟩
    rw [drafts]
    intro other another member
    rcases mem_update_drafts member with ⟨own, member⟩ | ⟨own, member⟩
    · cases member
    · exact issued.apart other another member

theorem Identified.step (identified : Identified journal) (change : RowChange journal next) : Identified next := by
  have kept : ∀ row ∈ journal.outbox, Issued next row.id := fun row member =>
    (identified.issued row member).step change
  cases change with
  | kept drafts nextId ids rows =>
    constructor
    · exact identified.distinct.sublist ids
    · intro row member
      obtain ⟨earlier, inside, evolves⟩ := rows row member
      exact evolves.id ▸ kept earlier inside
    · exact drafts ▸ identified.drafted
    · exact nextId ▸ drafts ▸ identified.given
    · exact drafts ▸ identified.apart
  | inserted transaction row fresh waiting drafts nextId outbox =>
    constructor
    · exact outbox ▸ identified.distinct
    · exact outbox ▸ kept
    · intro other
      rw [drafts]
      by_cases own : other = transaction
      · subst own
        rw [Function.update_self, List.map_append, List.map_singleton, List.nodup_append]
        refine ⟨identified.drafted other, List.nodup_singleton _, ?_⟩
        intro id member last same
        obtain ⟨earlier, inside, rfl⟩ := List.mem_map.mp member
        have below := identified.given other earlier inside
        rw [List.mem_singleton.mp same, fresh]
        exact below.ne
      · rw [Function.update_of_ne own]
        exact identified.drafted other
    · rw [drafts, nextId]
      intro other another member
      rcases mem_update_drafts member with ⟨own, member⟩ | ⟨own, member⟩
      · rcases List.mem_append.mp member with member | member
        · exact Nat.lt_succ_of_lt (identified.given _ another member)
        · rw [List.mem_singleton.mp member, fresh]
          exact Nat.lt_succ_self _
      · exact Nat.lt_succ_of_lt (identified.given other another member)
    · -- The new row comes after all others, so it is apart from those of every other transaction.
      have apart (other : Nat) (own : other ≠ transaction) (mine another : OutboxRow)
          (inside : mine ∈ journal.draftRows transaction ++ [row]) (outside : another ∈ journal.draftRows other) :
          mine.id ≠ another.id := by
        rcases List.mem_append.mp inside with inside | inside
        · exact identified.apart transaction other own.symm mine inside another outside
        · rw [List.mem_singleton.mp inside, fresh]
          exact (identified.given other another outside).ne'
      rw [drafts]
      intro first second different mine inside another outside
      rcases mem_update_drafts inside with ⟨own, inside⟩ | ⟨own, inside⟩
      · rcases mem_update_drafts outside with ⟨own', outside⟩ | ⟨own', outside⟩
        · exact absurd (own.trans own'.symm) different
        · exact apart second own' mine another inside outside
      · rcases mem_update_drafts outside with ⟨own', outside⟩ | ⟨own', outside⟩
        · exact (apart first own another mine outside inside).symm
        · exact identified.apart first second different mine inside another outside
  | closed transaction drafts nextId outbox =>
    constructor
    · rcases outbox with outbox | outbox
      · exact outbox ▸ identified.distinct
      · rw [outbox, List.map_append, List.nodup_append]
        refine ⟨identified.distinct, identified.drafted transaction, ?_⟩
        intro id member other inside same
        obtain ⟨row, stored, rfl⟩ := List.mem_map.mp member
        obtain ⟨draft, drafted, rfl⟩ := List.mem_map.mp inside
        exact (identified.issued row stored).apart transaction draft drafted same.symm
    · intro row member
      rcases outbox with outbox | outbox
      · exact kept row (outbox ▸ member)
      · rw [outbox] at member
        rcases List.mem_append.mp member with member | member
        · exact kept row member
        · -- The row's own transaction is closed now, and the others never had its id.
          refine ⟨nextId ▸ identified.given transaction row member, ?_⟩
          rw [drafts]
          intro other another drafted
          rcases mem_update_drafts drafted with ⟨own, drafted⟩ | ⟨own, drafted⟩
          · cases drafted
          · exact identified.apart other transaction own another drafted row member
    · intro other
      rw [drafts]
      by_cases own : other = transaction
      · subst own
        rw [Function.update_self]
        exact List.nodup_nil
      · rw [Function.update_of_ne own]
        exact identified.drafted other
    · rw [drafts, nextId]
      intro other row member
      rcases mem_update_drafts member with ⟨own, member⟩ | ⟨own, member⟩
      · cases member
      · exact identified.given other row member
    · rw [drafts]
      intro first second different mine inside another outside
      rcases mem_update_drafts inside with ⟨own, inside⟩ | ⟨own, inside⟩
      · cases inside
      · rcases mem_update_drafts outside with ⟨own', outside⟩ | ⟨own', outside⟩
        · cases outside
        · exact identified.apart first second different mine inside another outside

/-- What holds of the rows that dispatchers work at, and of those that are delivered. -/
structure Dispatched (journal : Journal) : Prop where
  issued : ∀ owner, ∀ item ∈ journal.dispatchers owner, Issued journal item.id
  published : ∀ owner, ∀ item ∈ journal.dispatchers owner, item.stage = .published → item.id ∈ journal.published
  waiting : ∀ transaction, ∀ row ∈ journal.draftRows transaction, row.deliveredAt = none
  delivered : ∀ row ∈ journal.outbox, ∀ deliveredAt, row.deliveredAt = some deliveredAt → row.id ∈ journal.published
  attempts : ∀ owner, ∀ item ∈ journal.dispatchers owner, ∀ row ∈ journal.outbox, row.id = item.id →
    item.attempts ≤ row.attempts ∧ (row.lockOwner = some owner → row.attempts = item.attempts)

/-- A row that no dispatcher has claimed in a step. -/
structure Unclaimed (published : List Nat) (before after : OutboxRow) : Prop where
  id : after.id = before.id
  attempts : after.attempts = before.attempts
  lockOwner : ∀ owner, after.lockOwner = some owner → before.lockOwner = some owner
  delivered : ∀ deliveredAt, after.deliveredAt = some deliveredAt → before.deliveredAt = some deliveredAt ∨
    after.id ∈ published

theorem waiting_step (waiting : ∀ transaction, ∀ row ∈ journal.draftRows transaction, row.deliveredAt = none)
    (change : RowChange journal next) : ∀ transaction, ∀ row ∈ next.draftRows transaction, row.deliveredAt = none := by
  cases change with
  | kept drafts nextId ids rows => exact drafts ▸ waiting
  | inserted transaction new fresh undelivered drafts nextId outbox =>
    rw [drafts]
    intro other row member
    rcases mem_update_drafts member with ⟨own, member⟩ | ⟨own, member⟩
    · rcases List.mem_append.mp member with member | member
      · exact waiting _ row member
      · rw [List.mem_singleton.mp member]
        exact undelivered
    · exact waiting other row member
  | closed transaction drafts nextId outbox =>
    rw [drafts]
    intro other row member
    rcases mem_update_drafts member with ⟨own, member⟩ | ⟨own, member⟩
    · cases member
    · exact waiting other row member

theorem Dispatched.carry (dispatched : Dispatched journal) (change : RowChange journal next)
    (published : ∀ id ∈ journal.published, id ∈ next.published)
    (items : ∀ owner, ∀ item ∈ next.dispatchers owner, ∃ earlier ∈ journal.dispatchers owner,
      item.id = earlier.id ∧ item.attempts = earlier.attempts ∧ (item.stage = .published → item.id ∈ next.published))
    (rows : ∀ row ∈ next.outbox, (∃ earlier ∈ journal.outbox, Unclaimed next.published earlier row) ∨
      ∃ transaction, row ∈ journal.draftRows transaction) : Dispatched next where
  issued := by
    intro owner item member
    obtain ⟨earlier, inside, id, -, -⟩ := items owner item member
    exact id ▸ (dispatched.issued owner earlier inside).step change
  published := by
    intro owner item member
    obtain ⟨earlier, inside, -, -, done⟩ := items owner item member
    exact done
  waiting := waiting_step dispatched.waiting change
  delivered := by
    intro row member deliveredAt delivered
    rcases rows row member with ⟨earlier, inside, unclaimed⟩ | ⟨transaction, drafted⟩
    · rcases unclaimed.delivered deliveredAt delivered with before | here
      · exact unclaimed.id ▸ published _ (dispatched.delivered earlier inside deliveredAt before)
      · exact here
    · rw [dispatched.waiting transaction row drafted] at delivered
      cases delivered
  attempts := by
    intro owner item member row stored same
    obtain ⟨claim, inside, id, attempts, -⟩ := items owner item member
    rcases rows row stored with ⟨earlier, before, unclaimed⟩ | ⟨transaction, drafted⟩
    · have held := dispatched.attempts owner claim inside earlier before (by rw [← unclaimed.id, same, id])
      rw [attempts, unclaimed.attempts]
      exact ⟨held.1, fun locked => held.2 (unclaimed.lockOwner owner locked)⟩
    · -- A new row does not have the id of a claimed one.
      exact absurd (same.trans id) ((dispatched.issued owner claim inside).apart transaction row drafted)

/-- A row of a batch after a step in which nobody claims one: the same attempt at the same row. -/
def Continues (published : List Nat) (earlier item : Claim) : Prop :=
  item.id = earlier.id ∧ item.attempts = earlier.attempts ∧ (item.stage = .published → item.id ∈ published)

theorem Dispatched.continues (dispatched : Dispatched journal) (kept : ∀ id ∈ journal.published, id ∈ published)
    (member : item ∈ journal.dispatchers owner) : Continues published item item :=
  ⟨rfl, rfl, fun done => kept _ (dispatched.published owner item member done)⟩

theorem Dispatched.continues_setBatch (dispatched : Dispatched journal)
    (kept : ∀ id ∈ journal.published, id ∈ published) {batch : List Claim}
    (own : ∀ item ∈ batch, ∃ earlier ∈ journal.dispatchers owner, Continues published earlier item)
    (other : String) :
    ∀ item ∈ (journal.setBatch owner batch).dispatchers other, ∃ earlier ∈ journal.dispatchers other,
      Continues published earlier item := by
  intro item member
  have changed : item ∈ Function.update journal.dispatchers owner batch other := member
  by_cases same : other = owner
  · subst same
    rw [Function.update_self] at changed
    exact own item changed
  · rw [Function.update_of_ne same] at changed
    exact ⟨item, changed, dispatched.continues kept changed⟩

theorem Dispatched.continues_rest (dispatched : Dispatched journal)
    (kept : ∀ id ∈ journal.published, id ∈ published) (batch : journal.dispatchers owner = item :: rest) :
    ∀ other ∈ rest, ∃ earlier ∈ journal.dispatchers owner, Continues published earlier other := by
  intro other member
  have inside : other ∈ journal.dispatchers owner := by
    rw [batch]
    exact List.mem_cons_of_mem _ member
  exact ⟨other, inside, dispatched.continues kept inside⟩

theorem Dispatched.continues_stage (dispatched : Dispatched journal)
    (kept : ∀ id ∈ journal.published, id ∈ published) (batch : journal.dispatchers owner = item :: rest)
    {stage : Stage} (done : stage = .published → item.id ∈ published) :
    ∀ other ∈ { item with stage } :: rest, ∃ earlier ∈ journal.dispatchers owner, Continues published earlier other := by
  intro other member
  rcases List.mem_cons.mp member with same | member
  · subst same
    exact ⟨item, by rw [batch]; exact List.mem_cons_self, rfl, rfl, done⟩
  · exact dispatched.continues_rest kept batch other member

theorem Unclaimed.refl (published : List Nat) (row : OutboxRow) : Unclaimed published row row :=
  ⟨rfl, rfl, fun _ held => held, fun _ delivered => .inl delivered⟩

theorem unclaimed_of_mem (inside : ∀ row ∈ outbox, row ∈ journal.outbox) :
    ∀ row ∈ outbox, (∃ earlier ∈ journal.outbox, Unclaimed published earlier row) ∨
      ∃ transaction, row ∈ journal.draftRows transaction :=
  fun row member => .inl ⟨row, inside row member, .refl published row⟩

theorem unclaimed_updateHeld
    (same : ∀ row, (change row).id = row.id ∧ (change row).attempts = row.attempts ∧ (change row).lockOwner = none)
    (done : ∀ row deliveredAt, row.id = id → (change row).deliveredAt = some deliveredAt →
      row.deliveredAt = some deliveredAt ∨ row.id ∈ published) :
    ∀ row ∈ updateHeld journal.outbox owner id change, (∃ earlier ∈ journal.outbox, Unclaimed published earlier row) ∨
      ∃ transaction, row ∈ journal.draftRows transaction := by
  intro row member
  obtain ⟨earlier, inside, rfl⟩ := List.mem_map.mp member
  refine .inl ⟨earlier, inside, ?_⟩
  split
  · rename_i holds
    obtain ⟨sameId, attempts, free⟩ := same earlier
    refine ⟨sameId, attempts, ?_, ?_⟩
    · intro other locked
      rw [free] at locked
      cases locked
    · intro deliveredAt delivered
      rw [sameId]
      exact done earlier deliveredAt holds.1 delivered
  · exact .refl published earlier

theorem Dispatched.claim (dispatched : Dispatched journal) (identified : Identified journal)
    (change : RowChange journal (journal.claim owner ids)) : Dispatched (journal.claim owner ids) := by
  have after := identified.step change
  have split (other : String) (item : Claim) (member : item ∈ (journal.claim owner ids).dispatchers other) :
      (other = owner ∧ ∃ row ∈ (journal.claim owner ids).outbox, item = ⟨row.id, row.attempts, .claimed⟩) ∨
        other ≠ owner ∧ item ∈ journal.dispatchers other := by
    have changed : item ∈ Function.update journal.dispatchers owner
      (((journal.claimRows owner ids).filter fun row => row.id ∈ ids).map
        fun row => Claim.mk row.id row.attempts .claimed) other := member
    by_cases same : other = owner
    · subst same
      rw [Function.update_self] at changed
      obtain ⟨row, inside, rfl⟩ := List.mem_map.mp changed
      exact .inl ⟨rfl, row, (List.mem_filter.mp inside).1, rfl⟩
    · rw [Function.update_of_ne same] at changed
      exact .inr ⟨same, changed⟩
  constructor
  · intro other item member
    rcases split other item member with ⟨-, row, stored, rfl⟩ | ⟨-, before⟩
    · exact after.issued row stored
    · exact (dispatched.issued other item before).step change
  · intro other item member done
    rcases split other item member with ⟨-, row, stored, rfl⟩ | ⟨-, before⟩
    · cases done
    · exact dispatched.published other item before done
  · exact dispatched.waiting
  · intro row member deliveredAt delivered
    obtain ⟨earlier, inside, rfl⟩ := List.mem_map.mp member
    have evolves := evolves_claim owner ids journal.now earlier
    rw [evolves.id]
    refine dispatched.delivered earlier inside deliveredAt ?_
    split at delivered
    · exact delivered
    · exact delivered
  · intro other item member row stored same
    rcases split other item member with ⟨-, claimed, inside, rfl⟩ | ⟨another, before⟩
    · -- The ids are distinct, so the row with the item's id is the claimed one.
      obtain rfl := List.inj_on_of_nodup_map after.distinct stored inside same
      exact ⟨le_rfl, fun _ => rfl⟩
    · obtain ⟨earlier, within, rfl⟩ := List.mem_map.mp stored
      have evolves := evolves_claim owner ids journal.now earlier
      have held := dispatched.attempts other item before earlier within (evolves.id ▸ same)
      refine ⟨held.1.trans evolves.attempts, ?_⟩
      split
      · intro locked
        exact absurd (Option.some.inj locked).symm another
      · exact held.2

theorem Dispatched.step (dispatched : Dispatched journal) (identified : Identified journal)
    (effect : Effect options journal event next) : Dispatched next := by
  have change := rowChange_of_effect effect
  have continues : ∀ owner, ∀ item ∈ journal.dispatchers owner, ∃ earlier ∈ journal.dispatchers owner,
      Continues journal.published earlier item := fun owner item member =>
    ⟨item, member, dispatched.continues (fun _ inside => inside) member⟩
  cases effect with
  | advance => exact dispatched.carry change (fun _ inside => inside) continues (unclaimed_of_mem fun _ inside => inside)
  | start => exact dispatched.carry change (fun _ inside => inside) continues (unclaimed_of_mem fun _ inside => inside)
  | write => exact dispatched.carry change (fun _ inside => inside) continues (unclaimed_of_mem fun _ inside => inside)
  | bump => exact dispatched.carry change (fun _ inside => inside) continues (unclaimed_of_mem fun _ inside => inside)
  | insert => exact dispatched.carry change (fun _ inside => inside) continues (unclaimed_of_mem fun _ inside => inside)
  | commit transaction writer held idle =>
    refine dispatched.carry change (fun _ inside => inside) continues ?_
    intro row member
    rcases List.mem_append.mp member with member | member
    · exact unclaimed_of_mem (fun _ inside => inside) row member
    · exact .inr ⟨transaction, Journal.draftRows_of_held held ▸ member⟩
  | rollback => exact dispatched.carry change (fun _ inside => inside) continues (unclaimed_of_mem fun _ inside => inside)
  | claim owner ids may => exact dispatched.claim identified change
  | publish owner item rest batch =>
    have kept : ∀ id ∈ journal.published, id ∈ item.id :: journal.published := fun _ =>
      List.mem_cons_of_mem _
    exact dispatched.carry change kept
      (dispatched.continues_setBatch kept (dispatched.continues_stage kept batch fun _ => List.mem_cons_self))
      (unclaimed_of_mem fun _ inside => inside)
  | fail owner error item rest batch =>
    exact dispatched.carry change (fun _ inside => inside)
      (dispatched.continues_setBatch (fun _ inside => inside)
        (dispatched.continues_stage (fun _ inside => inside) batch nofun))
      (unclaimed_of_mem fun _ inside => inside)
  | markDelivered owner answered item rest batch published =>
    have done : item.id ∈ journal.published :=
      dispatched.published owner item (by rw [batch]; exact List.mem_cons_self) published
    refine dispatched.carry change (fun _ inside => inside)
      (dispatched.continues_setBatch (fun _ inside => inside) ?_)
      (unclaimed_updateHeld (fun _ => ⟨rfl, rfl, rfl⟩) ?_)
    · split
      · exact dispatched.continues_rest (fun _ inside => inside) batch
      · exact dispatched.continues_stage (fun _ inside => inside) batch nofun
    · intro row deliveredAt same _
      exact .inr (same ▸ done)
  | release owner error item rest batch =>
    exact dispatched.carry change (fun _ inside => inside)
      (dispatched.continues_setBatch (fun _ inside => inside)
        (dispatched.continues_rest (fun _ inside => inside) batch))
      (unclaimed_updateHeld (fun _ => ⟨rfl, rfl, rfl⟩) fun _ _ _ delivered => .inl delivered)
  | crash owner =>
    exact dispatched.carry change (fun _ inside => inside)
      (dispatched.continues_setBatch (fun _ inside => inside) nofun) (unclaimed_of_mem fun _ inside => inside)
  | prune =>
    exact dispatched.carry change (fun _ inside => inside) continues
      (unclaimed_of_mem fun _ member => (List.mem_filter.mp member).1)

/-- What holds in every state of the journal. -/
structure Consistent (journal : Journal) : Prop where
  numbered : Numbered journal
  identified : Identified journal
  dispatched : Dispatched journal

theorem consistent_opening (now : Int) : Consistent (Journal.opening now) where
  numbered := ⟨LockedCounters.serial_opening, rfl, rfl, nofun⟩
  identified := ⟨List.nodup_nil, nofun, fun _ => List.nodup_nil, nofun, nofun⟩
  dispatched := ⟨nofun, nofun, nofun, nofun, nofun⟩

theorem Consistent.step (consistent : Consistent journal) (effect : Effect options journal event next) :
    Consistent next where
  numbered := consistent.numbered.step effect
  identified := consistent.identified.step (rowChange_of_effect effect)
  dispatched := consistent.dispatched.step consistent.identified effect

theorem consistent_of_run {start : Journal} (consistent : Consistent start)
    (run : (machine options).Run start events journal) : Consistent journal :=
  run.stateInvariant consistent fun _ _ _ _ held _ stepped => held.step (effect_of_step stepped)

/-- The row with an id that has been given out has a property, if it is still there. -/
structure RowHas (property : OutboxRow → Prop) (id : Nat) (journal : Journal) : Prop where
  issued : Issued journal id
  holds : ∀ row ∈ journal.outbox, row.id = id → property row

theorem rowHas_of_run {property : OutboxRow → Prop} {start : Journal}
    (stable : ∀ before after, Evolves before after → property before → property after)
    (has : RowHas property id start) (run : (machine options).Run start events journal) :
    RowHas property id journal := by
  refine run.stateInvariant has fun state event output next held _ stepped => ?_
  have change := rowChange_of_effect (effect_of_step stepped)
  refine ⟨held.issued.step change, ?_⟩
  cases change with
  | kept drafts nextId ids rows =>
    intro row member same
    obtain ⟨earlier, inside, evolves⟩ := rows row member
    exact stable earlier row evolves (held.holds earlier inside (evolves.id ▸ same))
  | inserted transaction row fresh waiting drafts nextId outbox => exact outbox ▸ held.holds
  | closed transaction drafts nextId outbox =>
    rcases outbox with outbox | outbox
    · exact outbox ▸ held.holds
    · intro row member same
      rw [outbox] at member
      rcases List.mem_append.mp member with member | member
      · exact held.holds row member same
      · exact absurd same (held.issued.apart transaction row member)

theorem delivered_stays (consistent : Consistent journal) {row : OutboxRow} (stored : row ∈ journal.outbox)
    {deliveredAt : Int} (delivered : row.deliveredAt = some deliveredAt) {later : List (Event × Unit)} {final : Journal}
    (run : (machine options).Run journal later final) :
    ∀ after ∈ final.outbox, after.id = row.id → after.deliveredAt = some deliveredAt := by
  have has : RowHas (fun after => after.deliveredAt = some deliveredAt) row.id journal :=
    ⟨consistent.identified.issued row stored, fun other member same => by
      rw [List.inj_on_of_nodup_map consistent.identified.distinct member stored same]
      exact delivered⟩
  exact (rowHas_of_run (fun before after evolves held => evolves.delivered deliveredAt held) has run).holds

theorem superseded_of_claim (consistent : Consistent journal) {other : String}
    (member : item ∈ journal.dispatchers owner) (taken : item.id ∈ ids) :
    ∀ row ∈ (journal.claim other ids).outbox, row.id = item.id → item.attempts < row.attempts := by
  intro row stored same
  obtain ⟨earlier, inside, rfl⟩ := List.mem_map.mp stored
  have evolves := evolves_claim other ids journal.now earlier
  have here : earlier.id = item.id := evolves.id ▸ same
  have held := consistent.dispatched.attempts owner item member earlier inside here
  rw [if_pos (here ▸ taken)]
  exact Nat.lt_succ_of_le held.1

theorem updateHeld_eq_self (lost : ∀ row ∈ outbox, row.id = id → row.lockOwner ≠ some owner) :
    updateHeld outbox owner id change = outbox := by
  have same : ∀ row ∈ outbox, (if Holds owner id row then change row else row) = row := fun row member =>
    if_neg fun holds => lost row member holds.1 holds.2.1
  calc
    updateHeld outbox owner id change = outbox.map fun row => row := List.map_congr_left same
    _ = outbox := List.map_id' outbox

theorem outbox_unchanged (dispatched : Dispatched journal) (batch : journal.dispatchers owner = item :: rest)
    (superseded : ∀ row ∈ journal.outbox, row.id = item.id → item.attempts < row.attempts)
    (effect : Effect options journal event next)
    (settles : event = .release owner ∨ ∃ answered, event = .markDelivered owner answered) :
    next.outbox = journal.outbox := by
  -- The lock of a row is its last claimant's, and the dispatcher's own attempt is not the last one.
  have lost : ∀ row ∈ journal.outbox, row.id = item.id → row.lockOwner ≠ some owner := by
    intro row member same held
    have last := (dispatched.attempts owner item (by rw [batch]; exact List.mem_cons_self) row member same).2 held
    exact (superseded row member same).ne' last
  rcases settles with rfl | ⟨answered, rfl⟩
  · cases effect with
    | release owner error own others here =>
      obtain ⟨rfl, -⟩ := List.cons.inj (here.symm.trans batch)
      exact updateHeld_eq_self lost
  · cases effect with
    | markDelivered owner answered own others here published =>
      obtain ⟨rfl, -⟩ := List.cons.inj (here.symm.trans batch)
      exact updateHeld_eq_self lost

/-- A dispatcher whose row has been claimed by another one can neither mark the row nor give it back. -/
def TakeoverFences (options : String → DispatchOptions) (journal : Journal) : Prop :=
  ∀ owner, ∀ item ∈ journal.dispatchers owner, ∀ other ids taken, item.id ∈ ids →
    (machine options).step journal (.claim other ids) = some (taken, ()) →
    ∀ later final, (machine options).Run taken later final →
      -- The dispatcher is at the same attempt still.
      ∀ current rest, final.dispatchers owner = current :: rest → current.id = item.id →
        current.attempts = item.attempts →
        ∀ event next, (event = .release owner ∨ ∃ answered, event = .markDelivered owner answered) →
          (machine options).step final event = some (next, ()) → next.outbox = final.outbox

theorem takeoverFences (consistent : Consistent journal) : TakeoverFences options journal := by
  intro owner item member other ids taken claimed step later final run current rest batch sameId sameAttempts event next
    settles settled
  have effect := effect_of_step step
  have after := consistent.step effect
  have superseded : RowHas (fun row => item.attempts < row.attempts) item.id taken := by
    refine ⟨(consistent.dispatched.issued owner item member).step (rowChange_of_effect effect), ?_⟩
    cases effect with
    | claim other ids may => exact superseded_of_claim consistent member claimed
  have still := rowHas_of_run (fun before after evolves held => held.trans_le evolves.attempts) superseded run
  refine outbox_unchanged (consistent_of_run after run).dispatched batch ?_ (effect_of_step settled) settles
  rw [sameId, sameAttempts]
  exact still.holds

/--
The outbox delivers what the committed writes have raised, in every run of writers and dispatchers.

A row is delivered only after it has been published, a dispatcher that has lost a row changes nothing any more, and a
delivered row stays delivered. The committed revisions of a key are 1, 2, 3 and so on, in the order of the commits.
-/
theorem outbox_delivers {now : Int} {events : List (Event × Unit)}
    (run : (machine options).Run (Journal.opening now) events journal) :
    (∀ row ∈ journal.outbox, row.deliveredAt ≠ none → row.id ∈ journal.published) ∧
      TakeoverFences options journal ∧
      (∀ row ∈ journal.outbox, ∀ deliveredAt, row.deliveredAt = some deliveredAt → ∀ later final,
        (machine options).Run journal later final → ∀ after ∈ final.outbox, after.id = row.id →
          after.deliveredAt = some deliveredAt) ∧
      ∀ key, LockedCounters.valuesOf journal.commits.flatten key = List.range' 1 (journal.counters.committed key) := by
  have consistent := consistent_of_run (consistent_opening now) run
  refine ⟨?_, takeoverFences consistent, ?_, ?_⟩
  · intro row member delivered
    obtain ⟨deliveredAt, found⟩ := Option.ne_none_iff_exists'.mp delivered
    exact consistent.dispatched.delivered row member deliveredAt found
  · intro row member deliveredAt delivered later final continued
    exact delivered_stays consistent member delivered continued
  · intro key
    rw [consistent.numbered.logged]
    exact consistent.numbered.serial.logged key

/-- The settings of the dispatchers in the example. -/
def defaultOptions (_ : String) : DispatchOptions := ⟨none, none, none, none⟩

/-- A dispatcher that is too slow publishes a row, loses it to another one, and fails to mark it. -/
def slowDispatcher : List Event :=
  let city : ReadModelRevisionKey := ⟨.cityContent, 7⟩
  let map : ReadModelRevisionKey := ⟨.mapWorld, 0⟩
  [.start 1, .write 1 [map, city, map], .bump 1, .bump 1, .commit 1, .claim "api-1" [1], .publish "api-1",
    .advance 30001, .claim "api-2" [1], .publish "api-2", .markDelivered "api-2" true, .markDelivered "api-1" true,
    .release "api-1", .start 2, .write 2 [city], .bump 2, .commit 2]

/-- The row of the slow dispatcher is delivered once, and the city has its second revision. -/
theorem outbox_delivers_slow : ∃ events journal,
    (machine defaultOptions).Run (Journal.opening 1000) events journal ∧
      journal.outbox.map (fun row => (row.id, row.attempts, row.deliveredAt)) = [(1, 2, some 31001), (2, 0, none)] ∧
      (∀ row ∈ journal.outbox, row.deliveredAt ≠ none → row.id ∈ journal.published) ∧
      LockedCounters.valuesOf journal.commits.flatten ⟨.cityContent, 7⟩ = [1, 2] := by
  have replayed : ((machine defaultOptions).replay (Journal.opening 1000) slowDispatcher).map
      (fun result => (result.1.outbox.map fun row => (row.id, row.attempts, row.deliveredAt),
        result.1.counters.committed ⟨.cityContent, 7⟩)) =
        some ([(1, 2, some 31001), (2, 0, none)], 2) := by decide +kernel
  obtain ⟨⟨journal, events⟩, found, seen⟩ := Option.map_eq_some_iff.mp replayed
  obtain ⟨rows, revision⟩ := Prod.mk.inj seen
  have run := StateMachine.run_of_replay found
  obtain ⟨delivered, -, -, revisions⟩ := outbox_delivers run
  refine ⟨events, journal, run, rows, delivered, ?_⟩
  rw [revisions, revision]
  rfl

end Sammo.ReadModelOutbox
