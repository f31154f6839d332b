import Sammo.Selection.NpcPossessionLaws
import Sammo.Selection.SelectPoolOrder

/-! What the calls on the selection pool do to the pool and to the generals, and what a refusal leaves. -/

namespace Sammo

open Effect SelectM

/-- The parts of the server that the calls may change and that matter to who has which candidate. -/
structure SelectionView where
  pool : List SelectPoolRow
  stored : OrderedMap Int General
  generals : WriteBehind Int General
  state : TurnWorldState

/-- The view of a server. -/
def SelectionServer.view (server : SelectionServer) : SelectionView :=
  ⟨server.db.pool, server.db.generals, server.world.generals, server.world.state⟩

/-- What a call does: how its successes leave the view, and how its refusals do. -/
def Calls {α : Type} (before : SelectionView) (call : SelectM α) (after : α → SelectionView → Prop)
    (refused : SelectionView → Prop) : Prop :=
  -- Errors that are no refusals are taken back, so nothing is said of them.
  Outcome (fun server => server.view = before) call (fun value server => after value server.view)
    fun failure server => ∀ code message, failure = .refused code message → refused server.view

namespace Calls

variable {α β : Type} {before : SelectionView} {refused : SelectionView → Prop}

theorem pure {after : α → SelectionView → Prop} {value : α} (held : after value before) :
    Calls before (Pure.pure value) after refused :=
  Outcome.pure fun _ same => same ▸ held

variable {message : String} {code : SelectPoolErrorCode} {after : β → SelectionView → Prop}
  {next : α → SelectM β} {rest : α → SelectM β}

theorem refuse {after : α → SelectionView → Prop} (held : refused before) :
    Calls before (SelectM.refuse code message) after refused :=
  Outcome.throw fun _ same _ _ _ => same ▸ held

theorem thrown {after : α → SelectionView → Prop} : Calls before (throw (.thrown message)) after refused := by
  refine Outcome.throw fun _ _ code text same => ?_
  cases same

theorem bind {middle : α → SelectionView → Prop} {first : SelectM α}
    (opening : Calls before first middle refused)
    (rest : ∀ value between, middle value between → Calls between (next value) after refused) :
    Calls before (first >>= next) after refused := by
  refine Outcome.bind opening fun value => ⟨?_, ?_⟩
  · intro state held result final performed
    exact (rest value state.view held).1 state rfl result final performed
  · intro state held error final performed
    exact (rest value state.view held).2 state rfl error final performed

theorem refuse_bind (held : refused before) :
    Calls before (SelectM.refuse code message >>= rest) after refused := by
  have stops : Calls before (SelectM.refuse code message : SelectM α) (fun _ _ => False) refused := refuse held
  exact bind stops fun _ _ impossible => impossible.elim

theorem thrown_bind : Calls before (throw (.thrown message) >>= rest) after refused := by
  have stops : Calls before (throw (.thrown message) : SelectM α) (fun _ _ => False) refused := thrown
  exact bind stops fun _ _ impossible => impossible.elim

theorem read {next : SelectionServer → SelectM β}
    (rest : ∀ server, server.view = before → Calls before (next server) after refused) :
    Calls before (get >>= next) after refused := by
  refine Outcome.read fun server same => (rest server same).mono ?_ (fun _ _ held => held) fun _ _ held => held
  rintro state rfl
  exact same

theorem attempt {result : Except SelectPoolFailure α}
    (ended : ∀ code message, result = .error (.refused code message) → refused before)
    (rest : ∀ value, result = .ok value → Calls before (next value) after refused) :
    Calls before (Effect.ofExcept result >>= next) after refused := by
  refine Outcome.attempt ?_ rest
  rintro error given server rfl code message rfl
  exact ended code message given

theorem check {condition : Prop} [Decidable condition] {refusal : SelectM PUnit} {next : PUnit → SelectM β}
    (ended : condition → Calls before (refusal >>= next) after refused)
    (rest : ¬ condition → Calls before (next ⟨⟩) after refused) :
    Calls before (if condition then refusal >>= next else next ⟨⟩) after refused := by
  by_cases stops : condition
  · rw [if_pos stops]
    exact ended stops
  · rw [if_neg stops]
    exact rest stops

theorem forM (invariant : SelectionView → Prop) {items : List α} {body : α → SelectM PUnit}
    (round : ∀ item ∈ items, ∀ view, invariant view → Calls view (body item) (fun _ => invariant) refused)
    (held : invariant before) : Calls before (items.forM body) (fun _ => invariant) refused := by
  -- The rounds run one after another, each from where the last one ended.
  induction items generalizing before with
  | nil => exact pure held
  | cons item rest ih =>
    refine bind (round item List.mem_cons_self before held) fun _ view reached => ?_
    exact ih (fun other member => round other (List.mem_cons_of_mem item member)) reached

theorem mono {after weaker : α → SelectionView → Prop} {looser : SelectionView → Prop} {call : SelectM α}
    (calls : Calls before call after refused) (finish : ∀ value view, after value view → weaker value view)
    (loosen : ∀ view, refused view → looser view) : Calls before call weaker looser :=
  Outcome.mono calls (fun _ held => held) (fun value server => finish value server.view)
    fun _ server held code message same => loosen server.view (held code message same)

end Calls

variable {view : SelectionView} {services : SelectionServices} {world : InMemoryTurnWorld}
  {rules : CentennialRules} {row : WorldStateRow} {tick : Int} {clock : GameClock} {server : SelectionServer}
  {prepared : PreparedGeneral} {general : General} {id : Int} {next : InMemoryTurnWorld}
  {request : ReselectRequest} {patch : GeneralPatch}

theorem requirePoolWorld_calls (row : WorldStateRow) {refused : SelectionView → Prop} (held : refused view) :
    Calls view (requirePoolWorld row) (fun _ next => next = view) refused := by
  unfold requirePoolWorld
  split
  · exact Calls.pure rfl
  · exact Calls.refuse held

theorem changeDb_calls (change : SelectionDatabase → SelectionDatabase) {refused : SelectionView → Prop}
    (after : PUnit → SelectionView → Prop) (changed : ∀ server : SelectionServer, server.view = view →
      after ⟨⟩ { view with pool := (change server.db).pool, stored := (change server.db).generals }) :
    Calls view (changeDb change) after refused := by
  refine Outcome.modify fun server same => ?_
  subst same
  exact changed server rfl

theorem changeDb_quiet {change : SelectionDatabase → SelectionDatabase} {refused : SelectionView → Prop}
    (pool : ∀ db, (change db).pool = db.pool) (generals : ∀ db, (change db).generals = db.generals) :
    Calls view (changeDb change) (fun _ next => next = view) refused := by
  refine changeDb_calls _ _ fun server same => ?_
  rw [pool, generals, ← same]
  rfl

theorem updatePool_calls (wanted : SelectPoolRow → Bool) (change : SelectPoolRow → SelectPoolRow)
    (view : SelectionView) (refused : SelectionView → Prop) :
    Calls view (updatePool wanted change)
      (fun count next => next = { view with pool := changedPool wanted change view.pool } ∧
        count = (view.pool.filter wanted).length ∧
        ((changedPool wanted change view.pool).filterMap SelectPoolRow.generalId).Nodup) refused := by
  refine Calls.read fun server same => ?_
  subst same
  dsimp only
  split
  · rename_i distinct
    refine Calls.bind (changeDb_calls _ (fun _ next => next =
      { server.view with pool := changedPool wanted change server.view.pool }) ?_) ?_
    · intro other seen
      have stored : other.db.generals = server.db.generals := congrArg SelectionView.stored seen
      simp only [stored]
      rfl
    · rintro _ _ rfl
      exact Calls.pure ⟨rfl, rfl, distinct⟩
  · exact Calls.thrown

theorem onWorld_calls {α : Type} {operation : Effect String InMemoryTurnWorld α}
    {refused : SelectionView → Prop} (after : α → SelectionView → Prop)
    (done : ∀ server : SelectionServer, server.view = view → ∀ value world,
      operation.perform server.world = (.ok value, world) →
      after value { view with generals := world.generals, state := world.state }) :
    Calls view (SelectM.onWorld operation) after refused := by
  refine Calls.read fun server same => ?_
  subst same
  cases performed : operation.perform server.world with
  | mk result world =>
    dsimp only
    -- The world is stored first, whatever the operation gave.
    have stored : Calls server.view (set { server with world }) (fun _ next =>
        next = { server.view with generals := world.generals, state := world.state }) refused :=
      Outcome.modify fun _ _ => rfl
    refine Calls.bind stored ?_
    · rintro _ _ rfl
      cases result with
      | ok value => exact Calls.pure (done server rfl value world performed)
      | error message => exact Calls.thrown

theorem mapSelectionPoolRow_ok (row : SelectPoolRow) :
    (∃ entry, mapSelectionPoolRow row = .ok entry) ↔
      ∀ tick, row.reservedUntilTick = some tick → isSafeInteger tick := by
  unfold mapSelectionPoolRow
  cases row.reservedUntilTick with
  | none => simp [Bind.bind, Except.bind]
  | some tick =>
    simp only [toSafeReservationTick, Option.some.injEq, forall_eq']
    by_cases safe : isSafeInteger tick
    · simp [safe, Bind.bind, Except.bind, Except.map]
    · simp [safe, Bind.bind, Except.bind, Except.map]

/-- The pool in the order of its ids. -/
def orderedPool (pool : List SelectPoolRow) : List SelectPoolRow :=
  pool.insertionSort fun left right => left.id ≤ right.id

theorem mapM_ok_of_forall {ε α β : Type} {compute : α → Except ε β} {items : List α}
    (succeed : ∀ item ∈ items, ∃ result, compute item = .ok result) : ∃ results, items.mapM compute = .ok results := by
  induction items with
  | nil => exact ⟨[], rfl⟩
  | cons first rest ih =>
    obtain ⟨head, computedHead⟩ := succeed first List.mem_cons_self
    obtain ⟨tail, computedTail⟩ := ih fun item member => succeed item (List.mem_cons_of_mem _ member)
    refine ⟨head :: tail, ?_⟩
    rw [List.mapM_cons, computedHead, computedTail]
    rfl

theorem synchronizeSelectionPoolWorld_calls {refused : SelectionView → Prop}
    (unsafe_ : ¬ SafeTicks view.pool → refused view) :
    Calls view synchronizeSelectionPoolWorld
      (fun rows next => next = view ∧ rows = orderedPool view.pool ∧ SafeTicks view.pool) refused := by
  refine Calls.read fun server same => ?_
  subst same
  have listed (row : SelectPoolRow) : row ∈ orderedPool server.db.pool ↔ row ∈ server.db.pool :=
    List.mem_insertionSort _
  refine Calls.attempt ?_ fun entries shown => ?_
  · intro code message failed
    refine unsafe_ fun safe => ?_
    -- With safe ticks every row can be shown.
    have every : ∀ row ∈ orderedPool server.db.pool, ∃ entry, mapSelectionPoolRow row = .ok entry :=
      fun row member => (mapSelectionPoolRow_ok row).mpr (safe row ((listed row).mp member))
    obtain ⟨entries, shown⟩ := mapM_ok_of_forall every
    cases shown.symm.trans failed
  · have safe : SafeTicks server.db.pool := by
      intro row member
      obtain ⟨entry, _, given⟩ := mem_of_mapM_ok shown ((listed row).mpr member)
      exact (mapSelectionPoolRow_ok row).mp ⟨entry, given⟩
    refine Calls.bind (onWorld_calls (fun _ next => next = server.view) ?_) ?_
    · rintro other seen _ world performed
      cases performed
      rw [← seen]
      rfl
    · rintro _ _ rfl
      exact Calls.pure ⟨rfl, rfl, safe⟩

/-- What an answered request for candidates does to the pool. -/
inductive ReservedRows (userId : String) (tick : Int) (pool : List SelectPoolRow) : List SelectPoolRow → Prop
  /-- The user is shown what is reserved already. -/
  | shown : ReservedRows userId tick pool pool
  /-- The user had nothing reserved, and gets as many rows as a reservation has. -/
  | drawn (ids : List Int) (instant untilTick : Int)
      (unreserved : ∀ row ∈ pool, row.isReservedBy userId tick = false)
      (count : ((takenBack tick pool).filter fun row => row.id ∈ ids ∧ row.isFree).length = reservationCount)
      (distinct : ((reservedPool userId ids instant untilTick (takenBack tick pool)).filterMap
        SelectPoolRow.generalId).Nodup) :
      ReservedRows userId tick pool (reservedPool userId ids instant untilTick (takenBack tick pool))

/-- What a refused request for candidates leaves: the pool as it was, or without what has run out. -/
def RefusedReservation (tick : Int) (view next : SelectionView) : Prop :=
  next = view ∨ next = { view with pool := takenBack tick view.pool }

theorem chooseReservation_safe {request : ReserveSelectionRequest} {hasGeneral : Bool}
    {currentRows : List SelectPoolRow} {chosen : ChosenReservation}
    (picked : chooseReservation services rules row request hasGeneral world currentRows = .ok chosen) :
    isSafeInteger chosen.reservedUntilTick := by
  unfold chooseReservation at picked
  dsimp only at picked
  obtain ⟨_, picked⟩ := except_unless_eq_ok picked
  obtain ⟨_, _, picked⟩ := except_bind_eq_ok.mp picked
  obtain ⟨_, _, picked⟩ := except_bind_eq_ok.mp picked
  -- The tick is checked before anything is drawn.
  obtain ⟨safe, picked⟩ := except_unless_eq_ok picked
  obtain ⟨_, _, picked⟩ := except_bind_eq_ok.mp picked
  obtain ⟨_, _, picked⟩ := except_bind_eq_ok.mp picked
  obtain ⟨_, picked⟩ := except_unless_eq_ok picked
  obtain ⟨_, _, picked⟩ := except_bind_eq_ok.mp picked
  rw [← Except.ok.inj picked]
  exact not_not.mp safe

theorem reserveSelectionPool_calls (services : SelectionServices) (rules : CentennialRules) (row : WorldStateRow)
    (request : ReserveSelectionRequest) (view : SelectionView) :
    Calls view (reserveSelectionPool services rules row request)
      (fun _ next => ∃ pool, next = { view with pool } ∧
        ReservedRows request.userId request.processingGameTick view.pool pool)
      (RefusedReservation request.processingGameTick view) := by
  refine Calls.bind (requirePoolWorld_calls row (.inl rfl)) ?_
  rintro _ next same
  subst next
  refine Calls.check (fun _ => Calls.refuse_bind (.inl rfl)) fun _ => ?_
  refine Calls.read fun server seen => ?_
  dsimp only
  refine Calls.attempt (fun _ _ _ => .inl rfl) fun _ _ => ?_
  refine Calls.bind (synchronizeSelectionPoolWorld_calls fun _ => .inl rfl) ?_
  rintro currentRows next ⟨same, rfl, safe⟩
  subst next
  split
  · rename_i empty
    -- Nothing is reserved for the user.
    have unreserved : ∀ row ∈ view.pool, row.isReservedBy request.userId request.processingGameTick = false := by
      intro row member
      have ordered : row ∈ orderedPool view.pool := (List.mem_insertionSort _).mpr member
      simpa using List.filter_eq_nil_iff.mp (List.isEmpty_iff.mp empty) row ordered
    refine Calls.bind (updatePool_calls _ _ _ _) ?_
    rintro _ next ⟨same, _, _⟩
    subst next
    have stillSafe : SafeTicks (takenBack request.processingGameTick view.pool) := safe.changed _ _ fun _ => .inl rfl
    refine Calls.bind (synchronizeSelectionPoolWorld_calls fun _ => .inr rfl) ?_
    rintro _ next ⟨same, rfl, _⟩
    subst next
    refine Calls.read fun current _ => ?_
    refine Calls.attempt (fun _ _ _ => .inr rfl) fun chosen picked => ?_
    refine Calls.bind (updatePool_calls _ _ _ _) ?_
    rintro claimed next ⟨same, counted, distinct⟩
    subst next
    refine Calls.check (fun _ => Calls.thrown_bind) fun complete => ?_
    -- All ticks are safe still, so nothing is refused any more.
    have finallySafe : SafeTicks (reservedPool request.userId (chosen.selected.map SelectPoolRow.id)
        chosen.reservedUntil chosen.reservedUntilTick (takenBack request.processingGameTick view.pool)) := by
      intro changed member tick stated
      obtain ⟨row, listed, rfl⟩ := List.mem_map.mp member
      split at stated
      · obtain rfl := Option.some.inj stated
        exact chooseReservation_safe picked
      · exact stillSafe row listed tick stated
    refine Calls.bind (synchronizeSelectionPoolWorld_calls fun unsafe_ => absurd finallySafe unsafe_) ?_
    rintro _ next ⟨same, _, _⟩
    subst next
    exact Calls.pure ⟨_, rfl, .drawn _ _ _ unreserved (counted.symm.trans (not_not.mp complete)) distinct⟩
  · refine Outcome.ofExcept ?_ ?_
    · rintro shown _ state rfl
      exact ⟨_, rfl, .shown⟩
    · rintro error _ state rfl _ _ _
      exact .inl rfl

theorem tickToDate_safe {date : Int} (converted : clock.tickToDate tick = .ok date) : isSafeInteger tick := by
  obtain ⟨safe, accepted, _⟩ := except_bind_eq_ok.mp converted
  by_contra refused
  rw [requireSafeTick, if_neg refused] at accepted
  cases accepted

theorem mapError_eq_ok {ε ε' α : Type} {result : Except ε α} {rename : ε → ε'} {value : α}
    (given : result.mapError rename = .ok value) : result = .ok value := by
  cases result with
  | error error => cases given
  | ok other => exact congrArg Except.ok (Except.ok.inj given)

theorem readNextChangeTick_of_noted {metadata : Record} (safe : isSafeInteger (nextChangeTick tick))
    (noted : metadata.get? "next_change_tick" = some (.num (nextChangeTick tick))) :
    readNextChangeTick metadata = some (nextChangeTick tick) := by
  simp [readNextChangeTick, noted, Json.safeInteger?, safe]

/-- A general that is made of a reserved candidate: who owns it, and when its player may choose again. -/
structure StartsGeneral (request : CreateFromPoolRequest) (server : SelectionServer)
    (prepared : PreparedGeneral) : Prop where
  unowned : ∀ entry ∈ server.world.generals.rows.entries, entry.2.userId? ≠ some request.userId
  owner : prepared.general.userId? = some request.userId
  deadline : readNextChangeTick prepared.general.metadata = some (nextChangeTick request.processingGameTick)

theorem prepareGeneral_ok {request : CreateFromPoolRequest}
    (made : prepareGeneral services rules row request server = .ok prepared) :
    StartsGeneral request server prepared := by
  unfold prepareGeneral at made
  dsimp only at made
  obtain ⟨_, _, made⟩ := except_bind_eq_ok.mp made
  obtain ⟨unowned, made⟩ := except_unless_eq_ok made
  obtain ⟨token, _, made⟩ := except_bind_eq_ok.mp made
  obtain ⟨info, _, made⟩ := except_bind_eq_ok.mp made
  obtain ⟨_, made⟩ := except_unless_eq_ok made
  obtain ⟨_, _, made⟩ := except_bind_eq_ok.mp made
  obtain ⟨_, made⟩ := except_unless_eq_ok made
  split at made
  · cases made
  · obtain ⟨_, converted, made⟩ := except_bind_eq_ok.mp made
    obtain ⟨_, _, made⟩ := except_bind_eq_ok.mp made
    obtain ⟨_, _, made⟩ := except_bind_eq_ok.mp made
    obtain ⟨_, _, made⟩ := except_bind_eq_ok.mp made
    obtain ⟨_, _, made⟩ := except_bind_eq_ok.mp made
    rw [← Except.ok.inj made]
    refine ⟨?_, rfl, ?_⟩
    · intro entry member owned
      have found : server.world.generals.rows.entries.any
          (fun entry => entry.2.userId? = some request.userId) = true :=
        List.any_eq_true.mpr ⟨entry, member, by simpa using owned⟩
      exact unowned (.inl found)
    · exact readNextChangeTick_of_noted (tickToDate_safe (mapError_eq_ok converted)) rfl

theorem normalizeGeneralClock_metadata {next : General}
    (normalized : normalizeGeneralClock clock general = .ok next) : next.metadata = general.metadata := by
  simp only [normalizeGeneralClock, Bind.bind, Except.bind] at normalized
  -- Each conversion either fails or leaves the rest of the general alone.
  repeat' split at normalized
  all_goals first
    | cases normalized
      done
    | rw [← Except.ok.inj normalized]

/-- What the selection reads of a general: its owner, and when its player may choose again. -/
structure SameChoice (general other : General) : Prop where
  owner : other.userId? = general.userId?
  deadline : readNextChangeTick other.metadata = readNextChangeTick general.metadata

theorem normalizeGeneralMetaDatabaseIntegers_get? (record : Record) {key : String}
    (other : key ∉ legacyIntegerGeneralMetaKeys) :
    (normalizeGeneralMetaDatabaseIntegers record).get? key = record.get? key := by
  unfold normalizeGeneralMetaDatabaseIntegers Record.get?
  induction record with
  | nil => rfl
  | cons field rest ih =>
    obtain ⟨name, value⟩ := field
    rw [List.map_cons, List.lookup_cons, List.lookup_cons, ih]
    by_cases named : key = name
    · -- A field of the name is not rounded.
      subst named
      cases value <;> simp [other]
    · have passed : (key == name) = false := by simpa using named
      cases value with
      | num number =>
        by_cases integer : name ∈ legacyIntegerGeneralMetaKeys <;> simp [integer, passed]
      | _ => simp [passed]

theorem ensureGeneralKillturn_ok {next : General} {killturn : Option ℚ}
    (ensured : ensureGeneralKillturn id general killturn = .ok next) :
    next.columns = general.columns ∧
      ∀ key, key ≠ "killturn" → next.metadata.get? key = general.metadata.get? key := by
  unfold ensureGeneralKillturn at ensured
  split at ensured
  · obtain rfl := Except.ok.inj ensured
    exact ⟨rfl, fun _ _ => rfl⟩
  · obtain rfl := Except.ok.inj ensured
    exact ⟨rfl, fun _ differs => Record.get?_set_of_ne _ differs⟩
  · cases ensured

theorem addGeneral_ok (performed : (InMemoryTurnWorld.addGeneral id general).perform world = (.ok true, next)) :
    world.generals.rows.has id = false ∧ next.state = world.state ∧
      ∃ added, SameChoice general added ∧ next.generals = world.generals.insert id added := by
  unfold InMemoryTurnWorld.addGeneral at performed
  rw [perform_bind, perform_get] at performed
  dsimp only at performed
  split at performed
  · cases performed
  · rename_i absent
    simp only [perform_bind, perform_ofExcept] at performed
    cases normalized : InMemoryTurnWorld.normalizeNewGeneral world.toTurnWorld general with
    | error message => simp [normalized] at performed
    | ok first =>
      simp only [normalized, perform_modify] at performed
      split at performed
      · rename_i ensured second given
        simp only [perform_pure] at performed
        obtain ⟨_, rfl⟩ := Prod.mk.inj performed
        obtain ⟨ensured, rfl⟩ := Prod.mk.inj given
        -- The new fields are neither the owner nor the deadline.
        have columns : first.columns = general.columns := by
          rw [normalizeGeneralClock_columns normalized]
          unfold normalizeGeneralTurnTime
          split <;> rfl
        have metadata : first.metadata = general.metadata := by
          rw [normalizeGeneralClock_metadata normalized]
          unfold normalizeGeneralTurnTime
          split <;> rfl
        obtain ⟨sameColumns, sameFields⟩ := ensureGeneralKillturn_ok ensured
        refine ⟨by simpa using absent, rfl, _, ⟨?_, ?_⟩, rfl⟩
        · simp only [General.userId?, normalizeGeneralDatabaseIntegers, sameColumns, columns]
        · simp only [readNextChangeTick, normalizeGeneralDatabaseIntegers]
          rw [normalizeGeneralMetaDatabaseIntegers_get? _ (by decide), sameFields _ (by decide),
            Record.get?_set_of_ne _ (by decide), metadata]
      · cases performed

theorem getNextGeneralId_generals
    (performed : (InMemoryTurnWorld.onWorld TurnWorld.getNextGeneralId).perform world = (.ok id, next)) :
    next.generals = world.generals := by
  cases performed
  rfl

theorem createGeneralTurns_calls (generalId : Int) {refused : SelectionView → Prop} :
    Calls view (createGeneralTurns generalId) (fun _ next => next = view) refused := by
  refine Calls.read fun server seen => ?_
  refine Calls.check (fun _ => Calls.thrown_bind) fun _ => Calls.check (fun _ => Calls.thrown_bind) fun _ => ?_
  exact changeDb_quiet (fun _ => rfl) fun _ => rfl

theorem appendSelectionLogs_calls (row : WorldStateRow) (generalId : Int)
    (ownerUserId generalText globalText : String) {refused : SelectionView → Prop} :
    Calls view (appendSelectionLogs row generalId ownerUserId generalText globalText)
      (fun _ next => next = view) refused := by
  unfold appendSelectionLogs
  exact changeDb_quiet (fun _ => rfl) fun _ => rfl

theorem clearUnusedReservations_calls (userId : String) (tick : Int) {refused : SelectionView → Prop} :
    Calls view (clearUnusedReservations userId tick)
      (fun _ next => next = { view with pool := clearedPool userId tick view.pool }) refused := by
  refine Calls.bind (updatePool_calls _ _ _ _) ?_
  rintro _ next ⟨same, _, _⟩
  exact Calls.pure same

theorem tames_bind (tick : Int) (row : SelectPoolRow) (generalId : Int) :
    TamesRow tick row (row.bind generalId) :=
  ⟨rfl, fun _ => ⟨rfl, rfl, rfl⟩, fun userId => by
    simp [SelectPoolRow.isReservedBy, SelectPoolRow.bind, SelectPoolRow.release]⟩

/-- What a choice of a candidate does: the general is there, with its owner and its deadline, and has a row. -/
structure Chosen (userId : String) (tick generalId : Int) (view next : SelectionView) : Prop where
  stored : next.stored = view.stored
  row : ChosenRow userId tick generalId next.pool
  general : ∃ general, general.userId? = some userId ∧
    readNextChangeTick general.metadata = some (nextChangeTick tick) ∧
    ∀ other, next.generals.rows.get? other =
      if other = generalId then some general else view.generals.rows.get? other

theorem registerGeneral_calls (services : SelectionServices) (row : WorldStateRow)
    (request : CreateFromPoolRequest) (owner : prepared.general.userId? = some request.userId)
    (deadline : readNextChangeTick prepared.general.metadata = some (nextChangeTick request.processingGameTick))
    (orderly : OrderlyPool request.processingGameTick view.pool) (safe : SafeTicks view.pool)
    (refused : SelectionView → Prop) :
    Calls view (registerGeneral services row request prepared)
      (fun generalId next => view.generals.rows.has generalId = false ∧
        Chosen request.userId request.processingGameTick generalId view next) refused := by
  refine Calls.bind (onWorld_calls (fun _ next =>
    ∃ state, next = { view with state }) ?_) ?_
  · rintro server rfl id world performed
    rw [getNextGeneralId_generals performed]
    exact ⟨world.state, rfl⟩
  · rintro generalId next ⟨state, rfl⟩
    refine Calls.bind (onWorld_calls (fun added next => added = true →
      view.generals.rows.has generalId = false ∧ ∃ general, SameChoice prepared.general general ∧
        next = { view with generals := view.generals.insert generalId general, state }) ?_) ?_
    · rintro server seen added world performed rfl
      obtain ⟨absent, sameState, general, same, inserted⟩ := addGeneral_ok performed
      have generals : server.world.generals = view.generals := congrArg SelectionView.generals seen
      have states : server.world.state = state := congrArg SelectionView.state seen
      refine ⟨generals ▸ absent, general, same, ?_⟩
      rw [inserted, generals, sameState, states]
    · intro added next known
      refine Calls.check (fun _ => Calls.thrown_bind) fun there => ?_
      obtain ⟨absent, general, same, rfl⟩ := known (by simpa using there)
      refine Calls.bind (createGeneralTurns_calls generalId) ?_
      rintro _ next rfl
      refine Calls.bind (updatePool_calls _ _ _ _) ?_
      rintro occupied _ ⟨rfl, counted, distinct⟩
      refine Calls.check (fun _ => Calls.thrown_bind) fun taken => ?_
      -- The row that was reserved is the general's now.
      have bound := exists_changed (fun row => row.bind generalId) (counted ▸ taken)
      have kept := orderly.changed distinct fun row _ _ => tames_bind _ row generalId
      have stillSafe := safe.changed (fun row => row.id = prepared.token.id ∧
        row.isReservedBy request.userId request.processingGameTick)
        (fun row => row.bind generalId) fun _ => .inl rfl
      refine Calls.bind (changeDb_quiet (fun _ => rfl) fun _ => rfl) ?_
      rintro _ next rfl
      refine Calls.bind (clearUnusedReservations_calls _ _) ?_
      rintro _ _ rfl
      refine Calls.bind (synchronizeSelectionPoolWorld_calls fun unsafe_ =>
        absurd (stillSafe.changed _ _ fun _ => .inl rfl) unsafe_) ?_
      rintro _ next ⟨rfl, _, _⟩
      refine Calls.bind (appendSelectionLogs_calls _ _ _ _ _) ?_
      rintro _ next rfl
      refine Calls.pure ⟨absent, rfl, ?_, general, same.owner.trans owner, same.deadline.trans deadline, ?_⟩
      · obtain ⟨row, _, _, found⟩ := bound
        exact ChosenRow.of_bound kept ⟨_, found, rfl⟩
      · exact fun other => OrderedMap.get?_set _ _ _ _

/-- What a successful start does: the user had no general, and the one there is now is new. -/
structure Created (userId : String) (tick generalId : Int) (view next : SelectionView) : Prop where
  unowned : ∀ id general, view.generals.rows.get? id = some general → general.userId? ≠ some userId
  absent : view.generals.rows.has generalId = false
  chosen : Chosen userId tick generalId view next

theorem createGeneralFromSelectionPool_calls (services : SelectionServices) (rules : CentennialRules)
    (row : WorldStateRow) (request : CreateFromPoolRequest)
    (orderly : OrderlyPool request.processingGameTick view.pool) :
    Calls view (createGeneralFromSelectionPool services rules row request)
      (fun generalId next => Created request.userId request.processingGameTick generalId view next)
      fun next => next = view := by
  refine Calls.bind (requirePoolWorld_calls row rfl) ?_
  rintro _ next same
  subst next
  refine Calls.check (fun _ => Calls.refuse_bind rfl) fun _ => ?_
  refine Calls.bind (synchronizeSelectionPoolWorld_calls fun _ => rfl) ?_
  rintro _ next ⟨same, _, safe⟩
  subst next
  refine Calls.read fun server seen => ?_
  refine Calls.attempt (fun _ _ _ => rfl) fun prepared made => ?_
  have starts := prepareGeneral_ok made
  refine (registerGeneral_calls services row request starts.owner starts.deadline orderly safe _).mono ?_
    fun _ held => held
  rintro generalId next ⟨absent, chosen⟩
  refine ⟨fun id general there => ?_, absent, chosen⟩
  have generals : server.world.generals = view.generals := congrArg SelectionView.generals seen
  exact starts.unowned (id, general) (OrderedMap.mem_entries.mpr (generals ▸ there))

theorem assertReselectionCooldown_ok {metadata : Record} {deadline : Int}
    (passed : assertReselectionCooldown services metadata tick = .ok ())
    (noted : readNextChangeTick metadata = some deadline) : deadline ≤ tick := by
  simp only [assertReselectionCooldown, noted] at passed
  by_contra early
  rw [if_pos (by omega)] at passed
  cases passed

/-- A player's general and a row reserved for the player, and the time has come. -/
structure MayReselect (request : ReselectRequest) (server : SelectionServer) (prepared : PreparedReselection) :
    Prop where
  there : server.world.generals.rows.get? prepared.generalId = some prepared.general
  owner : prepared.general.userId? = some request.userId
  due : ∀ deadline, readNextChangeTick prepared.general.metadata = some deadline →
    deadline ≤ request.processingGameTick

theorem prepareReselection_ok {prepared : PreparedReselection}
    (made : prepareReselection services request server = .ok prepared) : MayReselect request server prepared := by
  unfold prepareReselection at made
  dsimp only at made
  split at made
  · rename_i found
    obtain ⟨_, made⟩ := except_unless_eq_ok made
    obtain ⟨_, passed, made⟩ := except_bind_eq_ok.mp made
    obtain ⟨_, _, made⟩ := except_bind_eq_ok.mp made
    obtain ⟨_, _, made⟩ := except_bind_eq_ok.mp made
    rw [← Except.ok.inj made]
    refine ⟨OrderedMap.mem_entries.mp (List.mem_of_find?_eq_some found), ?_, fun deadline noted => ?_⟩
    · simpa using List.find?_some found
    · exact assertReselectionCooldown_ok passed noted
  · cases made

theorem rebindRow_calls {userId : String} {generalId tokenId : Int} (orderly : OrderlyPool tick view.pool)
    (safe : SafeTicks view.pool) (refused : SelectionView → Prop) :
    Calls view (rebindRow userId tick generalId tokenId)
      (fun _ next => ∃ pool, next = { view with pool } ∧ OrderlyPool tick pool ∧ SafeTicks pool ∧
        ∃ row ∈ pool, row.generalId = some generalId) refused := by
  refine Calls.bind (updatePool_calls _ _ _ _) ?_
  rintro claimed _ ⟨rfl, _, distinct⟩
  have first := orderly.changed distinct fun row _ _ => tames_bind _ row (-generalId)
  have firstSafe := safe.changed (fun row => row.id = tokenId ∧ row.isReservedBy userId tick)
    (fun row => row.bind (-generalId)) fun _ => .inl rfl
  refine Calls.check (fun _ => Calls.thrown_bind) fun _ => ?_
  refine Calls.bind (updatePool_calls _ _ _ _) ?_
  rintro _ _ ⟨rfl, _, distinct⟩
  have second := first.changed distinct fun row _ _ =>
    (⟨rfl, fun _ => ⟨rfl, rfl, rfl⟩, fun userId => by
      simp [SelectPoolRow.isReservedBy, SelectPoolRow.release]⟩ : TamesRow tick row
        { row.release with generalId := none })
  have secondSafe := firstSafe.changed (fun row => row.generalId = some generalId)
    (fun row => { row.release with generalId := none }) fun _ => .inl rfl
  refine Calls.bind (updatePool_calls _ _ _ _) ?_
  rintro finalized _ ⟨rfl, counted, distinct⟩
  have third := second.changed distinct fun row listed picked =>
    (⟨rfl, fun _ => second.single row listed (by
        have bound := (of_decide_eq_true picked).2
        rw [bound]
        exact Option.some_ne_none _),
      fun userId => by simp [SelectPoolRow.isReservedBy]⟩ : TamesRow tick row
        { row with generalId := some generalId })
  have thirdSafe := secondSafe.changed (fun row => row.id = tokenId ∧ row.generalId = some (-generalId))
    (fun row => { row with generalId := some generalId }) fun _ => .inr rfl
  split
  · exact Calls.thrown
  · rename_i taken
    obtain ⟨row, _, _, found⟩ := exists_changed (fun row => { row with generalId := some generalId })
      (counted ▸ taken)
    exact Calls.pure ⟨_, rfl, third, thirdSafe, _, found, rfl⟩

/-- A result that is no refusal. -/
def Unrefused {α : Type} (result : Except SelectPoolFailure α) : Prop :=
  ∀ code message, result ≠ .error (.refused code message)

theorem unrefused_mapError {α : Type} (result : Except String α) :
    Unrefused (result.mapError SelectPoolFailure.thrown) := by
  intro code message
  cases result <;> simp [Except.mapError]

theorem Unrefused.bind {α β : Type} {first : Except SelectPoolFailure α} {next : α → Except SelectPoolFailure β}
    (opening : Unrefused first) (rest : ∀ value, Unrefused (next value)) : Unrefused (first >>= next) := by
  cases first with
  | error error =>
    intro code message same
    exact opening code message (congrArg Except.error (Except.error.inj same))
  | ok value => exact rest value

theorem unrefused_dateText (services : SelectionServices) (date : Int) : Unrefused (dateText services date) := by
  intro code message
  unfold dateText
  split <;> simp

/-- What a change to another candidate changes: the deadline, and not the owner. -/
structure ReselectionFields (tick : Int) (patch : GeneralPatch) : Prop where
  owner : "userId" ∉ patch.columns.map Prod.fst
  deadline : ∃ fields : Record, patch.metadata = some fields ∧
    fields.States "next_change_tick" (.num (nextChangeTick tick))
  safe : isSafeInteger (nextChangeTick tick)

theorem reselectionPatch_ok {prepared : PreparedReselection}
    (made : reselectionPatch services rules row request prepared clock = .ok patch) :
    ReselectionFields request.processingGameTick patch := by
  unfold reselectionPatch at made
  dsimp only at made
  obtain ⟨_, converted, made⟩ := except_bind_eq_ok.mp made
  obtain ⟨growth, _, made⟩ := except_bind_eq_ok.mp made
  obtain ⟨text, _, made⟩ := except_bind_eq_ok.mp made
  obtain ⟨_, _, made⟩ := except_bind_eq_ok.mp made
  rw [← Except.ok.inj made]
  refine ⟨by simp, ⟨_, rfl, Record.States.laid ⟨?_, ?_⟩ _⟩, tickToDate_safe (mapError_eq_ok converted)⟩
  · cases growth <;> rfl
  · intro other member
    cases growth <;>
      simpa [nextChangeFields, buildScenarioGeneralPoolClaimMeta] using member

theorem reselectionPatch_unrefused (services : SelectionServices) (rules : CentennialRules) (row : WorldStateRow)
    (request : ReselectRequest) (prepared : PreparedReselection) (clock : GameClock) :
    Unrefused (reselectionPatch services rules row request prepared clock) := by
  unfold reselectionPatch
  refine (unrefused_mapError _).bind fun _ => ?_
  refine Unrefused.bind ?_ fun _ => ?_
  · intro code message
    unfold targetGrowth
    split
    · cases rules.applyTarget row prepared.general prepared.info <;> simp [Except.mapError, Except.map]
    · simp
  · refine (unrefused_dateText services _).bind fun _ => (unrefused_dateText services _).bind fun _ => ?_
    intro code message
    simp

theorem get?_merge_of_absent {record patch : Record} {key : String} (absent : key ∉ patch.map Prod.fst) :
    (Record.merge record patch).get? key = record.get? key := by
  unfold Record.merge
  induction patch generalizing record with
  | nil => rfl
  | cons field rest ih =>
    rw [List.map_cons, List.mem_cons, not_or] at absent
    rw [List.foldl_cons, ih absent.2, Record.get?_set_of_ne _ absent.1]

theorem ReselectionFields.applied {result : General} (fields : ReselectionFields tick patch)
    (normalized : normalizeGeneralClock clock (applyGeneralPatch general patch) = .ok result) :
    result.userId? = general.userId? ∧ readNextChangeTick result.metadata = some (nextChangeTick tick) := by
  obtain ⟨noted, given, stated⟩ := fields.deadline
  have columns : result.columns = Record.merge general.columns patch.columns :=
    normalizeGeneralClock_columns normalized
  have metadata : result.metadata = normalizeGeneralMetaDatabaseIntegers (Record.merge general.metadata noted) := by
    rw [normalizeGeneralClock_metadata normalized]
    simp only [applyGeneralPatch, normalizeGeneralDatabaseIntegers, given]
    rfl
  constructor
  · rw [General.userId?, columns, get?_merge_of_absent fields.owner, General.userId?]
  · refine readNextChangeTick_of_noted fields.safe ?_
    rw [metadata, normalizeGeneralMetaDatabaseIntegers_get? _ (by decide)]
    exact (stated.laid general.metadata).there

theorem onWorld_perform {α : Type} {operation : WorldM α} {value : α}
    (performed : (InMemoryTurnWorld.onWorld operation).perform world = (.ok value, next)) :
    ∃ after, operation.perform world.toTurnWorld = (.ok value, after) ∧ next = { world with toTurnWorld := after } := by
  have given : (InMemoryTurnWorld.onWorld operation).perform world =
      ((operation.perform world.toTurnWorld).1,
        { world with toTurnWorld := (operation.perform world.toTurnWorld).2 }) := rfl
  obtain ⟨result, reached⟩ := Prod.mk.inj (given.symm.trans performed)
  exact ⟨(operation.perform world.toTurnWorld).2, Prod.ext result rfl, reached.symm⟩

theorem updateGeneral_state {world next : TurnWorld} {updated : Option General}
    (performed : (TurnWorld.updateGeneral id patch).perform world = (.ok updated, next)) :
    next.state = world.state := by
  have keeps : Ensures (fun state : TurnWorld => state.state = world.state) (TurnWorld.updateGeneral id patch)
      fun _ state => state.state = world.state := by
    refine Ensures.read fun current same => ?_
    split
    · exact Ensures.pure fun _ seen => seen ▸ same
    · refine Ensures.attempt fun _ _ => ensures_modify_pure fun state seen => ?_
      exact seen ▸ same
  exact keeps world rfl updated next performed

/-- What a successful change does: the general was the user's, and the time had come. -/
structure Reselected (userId : String) (tick generalId : Int) (view next : SelectionView) : Prop where
  due : ∃ general, view.generals.rows.get? generalId = some general ∧ general.userId? = some userId ∧
    ∀ deadline, readNextChangeTick general.metadata = some deadline → deadline ≤ tick
  chosen : Chosen userId tick generalId view next

theorem reselectGeneralFromSelectionPool_calls (services : SelectionServices) (rules : CentennialRules)
    (row : WorldStateRow) (request : ReselectRequest)
    (orderly : OrderlyPool request.processingGameTick view.pool) :
    Calls view (reselectGeneralFromSelectionPool services rules row request)
      (fun generalId next => Reselected request.userId request.processingGameTick generalId view next)
      fun next => next = view := by
  refine Calls.bind (requirePoolWorld_calls row rfl) ?_
  rintro _ next same
  subst next
  refine Calls.check (fun _ => Calls.refuse_bind rfl) fun _ => ?_
  refine Calls.bind (synchronizeSelectionPoolWorld_calls fun _ => rfl) ?_
  rintro _ next ⟨same, _, safe⟩
  subst next
  refine Calls.read fun server seen => ?_
  refine Calls.attempt (fun _ _ _ => rfl) fun prepared made => ?_
  have may := prepareReselection_ok made
  have there : view.generals.rows.get? prepared.generalId = some prepared.general := by
    have generals : server.world.generals = view.generals := congrArg SelectionView.generals seen
    exact generals ▸ may.there
  refine Calls.bind (rebindRow_calls orderly safe _) ?_
  rintro _ _ ⟨pool, rfl, kept, stillSafe, bound⟩
  refine Calls.attempt ?_ fun patch patched => ?_
  · exact fun code message failed => absurd failed (reselectionPatch_unrefused _ _ _ _ _ _ code message)
  · have fields := reselectionPatch_ok patched
    refine Calls.bind (onWorld_calls (fun _ next => ∃ general generals, general.userId? = some request.userId ∧
      readNextChangeTick general.metadata = some (nextChangeTick request.processingGameTick) ∧
      (∀ other, generals.rows.get? other =
        if other = prepared.generalId then some general else view.generals.rows.get? other) ∧
      next = { view with pool, generals }) ?_) ?_
    · intro other same updated world performed
      have generals : other.world.generals = view.generals := congrArg SelectionView.generals same
      have states : other.world.state = view.state := congrArg SelectionView.state same
      obtain ⟨after, patchedWorld, rfl⟩ := onWorld_perform performed
      obtain ⟨result, normalized, rows⟩ := updateGeneral_rows (generals ▸ there) patchedWorld
      obtain ⟨owner, deadline⟩ := fields.applied normalized
      have state : after.state = other.world.state := updateGeneral_state patchedWorld
      refine ⟨result, after.generals, owner.trans may.owner, deadline, ?_, ?_⟩
      · exact fun id => generals ▸ rows id
      · simp only [state, states]
    · rintro updated _ ⟨general, generals, owner, deadline, rows, rfl⟩
      refine Calls.check (fun _ => Calls.thrown_bind) fun _ => ?_
      refine Calls.bind (clearUnusedReservations_calls _ _) ?_
      rintro _ _ rfl
      refine Calls.bind (synchronizeSelectionPoolWorld_calls fun unsafe_ =>
        absurd (stillSafe.changed _ _ fun _ => .inl rfl) unsafe_) ?_
      rintro _ next ⟨rfl, _, _⟩
      refine Calls.bind (appendSelectionLogs_calls _ _ _ _ _) ?_
      rintro _ next rfl
      refine Calls.pure ⟨⟨_, there, may.owner, may.due⟩, rfl, ?_, general, owner, deadline, rows⟩
      exact ChosenRow.of_bound kept bound

theorem expect_calls {α : Type} (result : Except String α) {refused : SelectionView → Prop} :
    Calls view (expect result) (fun _ next => next = view) refused := by
  cases result with
  | ok value => exact Calls.pure rfl
  | error message => exact Calls.thrown

theorem occupyClaimed_calls (clock : GameClock) (generalId : Int) (claim : Int × String × Int)
    (orderly : OrderlyPool tick view.pool) (refused : SelectionView → Prop) :
    Calls view (occupyClaimed clock generalId claim)
      (fun _ next => OrderlyPool tick next.pool ∧ next.generals = view.generals) refused := by
  refine Calls.bind (expect_calls _) ?_
  rintro claimedAtTick next same
  subst next
  refine Calls.bind (updatePool_calls _ _ _ _) ?_
  rintro occupied _ ⟨rfl, _, distinct⟩
  split
  · exact Calls.thrown
  · exact Calls.pure ⟨orderly.changed distinct fun row _ _ => tames_bind _ row generalId, rfl⟩

theorem flushGenerals_calls (services : SelectionServices) (orderly : OrderlyPool tick view.pool)
    (refused : SelectionView → Prop) :
    Calls view (flushGenerals services)
      (fun _ next => OrderlyPool tick next.pool ∧ next.generals.rows = view.generals.rows) refused := by
  refine Calls.read fun server seen => ?_
  dsimp only
  refine Calls.bind (updatePool_calls _ _ _ _) ?_
  rintro _ _ ⟨rfl, _, distinct⟩
  have released := orderly.changed distinct fun row _ _ =>
    (⟨rfl, fun _ => ⟨rfl, rfl, rfl⟩, fun userId => by
      simp [SelectPoolRow.isReservedBy, SelectPoolRow.release]⟩ : TamesRow tick row
        { row.release with generalId := none })
  refine Calls.check (fun _ => Calls.thrown_bind) fun _ => ?_
  refine Calls.bind (Calls.forM (fun next => OrderlyPool tick next.pool ∧ next.generals = view.generals) ?_
    ⟨released, rfl⟩) ?_
  · rintro claim _ before ⟨kept, same⟩
    exact (occupyClaimed_calls _ _ _ kept _).mono (fun _ _ reached => ⟨reached.1, reached.2.trans same⟩)
      fun _ held => held
  · rintro _ next ⟨kept, same⟩
    refine Outcome.modify fun other seen => ?_
    subst seen
    have rows : other.world.generals.rows = view.generals.rows := congrArg WriteBehind.rows same
    exact ⟨kept, rows⟩

end Sammo
