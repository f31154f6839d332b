import Sammo.Clock.RuntimeCatchUp
import Sammo.World.Rollback

/-! Catching up works over one ledger, because a replay leaves a phase that the next replay refuses. -/

namespace Sammo.RuntimeClockAuthority

open Effect TurnWorld

/-! ### Chains of ledgers -/

/-- A ledger that leads from a revision to the next, with all that its completion records. -/
structure ClockSuspensionRow.Completes (ledger : ClockSuspensionRow) (revision shiftTicks : Int) : Prop where
  source : ledger.sourceRevision = revision
  target : ledger.targetRevision = revision + 1
  shifted : ledger.shiftTicks = some shiftTicks
  safeShift : isSafeInteger shiftTicks ∧ 0 ≤ shiftTicks
  aligned : ∃ tick, ledger.alignedTick = some tick ∧ isSafeInteger tick
  resumed : ledger.resumeWallAt.isSome
  recovery : ∃ recovery, readSerializedTurnRecovery ledger.detail = .ok recovery

/-- Ledgers that lead on from one another up to a last revision, with the sum of their shifts. -/
inductive Chained : Int → List ClockSuspensionRow → Int → Int → Prop
  | nil (revision : Int) : Chained revision [] revision 0
  | cons {revision shiftTicks last total : Int} {ledger : ClockSuspensionRow} {ledgers : List ClockSuspensionRow}
      (first : ledger.Completes revision shiftTicks) (rest : Chained (revision + 1) ledgers last total) :
      Chained revision (ledger :: ledgers) last (shiftTicks + total)

theorem Chained.last_eq {revision last total : Int} {ledgers : List ClockSuspensionRow}
    (chain : Chained revision ledgers last total) : last = revision + ledgers.length := by
  -- Each ledger leads one revision on, so the induction is on the chain.
  induction chain with
  | nil revision => simp
  | cons first rest ih =>
    rw [ih, List.length_cons]
    push_cast
    ring

theorem Chained.one {revision last total : Int} {ledger : ClockSuspensionRow}
    (chain : Chained revision [ledger] last total) : ledger.Completes revision total := by
  cases chain with
  | cons first rest =>
    cases rest with
    | nil => simpa using first

/-! ### The parts of the synchronization -/

theorem safeNumber_ok {value : Int} (safe : isSafeInteger value) (label : String) :
    safeNumber value label = .ok ⟨value, safe⟩ := dif_pos safe

section

variable {revision generation shiftTicks : Int} {positive : 1 ≤ revision} {ledger : ClockSuspensionRow}
  {input : DurableClockReconciliationAlignment} {world next : TurnWorld}

/-- What is read from a ledger leads from the expected revision and generation to the next ones. -/
structure Leads (input : DurableClockReconciliationAlignment) (revision generation shiftTicks : Int) : Prop where
  source : input.sourceRevision = revision
  target : input.targetRevision = revision + 1
  generation : input.deadlineGeneration = generation + 1
  shift : input.shiftTicks = shiftTicks
  safeTick : isSafeInteger input.alignedTick

theorem Leads.step (leads : Leads input revision generation shiftTicks) :
    input.targetRevision = input.sourceRevision + 1 := by
  rw [leads.target, leads.source]

theorem ledgerAlignment_leads (read : ledgerAlignment revision generation positive ledger = .ok input) :
    ∃ shiftTicks, ledger.shiftTicks = some shiftTicks ∧ Leads input revision generation shiftTicks := by
  unfold ledgerAlignment at read
  obtain ⟨sourceRevision, -, read⟩ := bind_ok read
  obtain ⟨targetRevision, -, read⟩ := bind_ok read
  split at read
  · next continuous =>
    split at read
    · next shift tick resumeWallAt shifted aligned resumed =>
      obtain ⟨alignedTick, -, read⟩ := bind_ok read
      obtain ⟨shiftTicks, same, read⟩ := bind_ok read
      obtain ⟨recovery, -, read⟩ := bind_ok read
      obtain rfl := Except.ok.inj read
      refine ⟨shift, shifted, continuous.1, ?_, rfl, ?_, alignedTick.2⟩
      · exact continuous.2.trans (by rw [continuous.1])
      · -- The shift is taken over as it is.
        unfold safeNumber at same
        split at same
        · obtain rfl := Except.ok.inj same
          rfl
        · cases same
    · cases read
  · cases read

theorem ledgerAlignment_ok (completes : ledger.Completes revision shiftTicks) (safe : isSafeInteger revision)
    (safeNext : isSafeInteger (revision + 1)) (positive : 1 ≤ revision) (generation : Int) :
    ∃ input, ledgerAlignment revision generation positive ledger = .ok input ∧
      Leads input revision generation shiftTicks := by
  have read : ∃ input, ledgerAlignment revision generation positive ledger = .ok input := by
    obtain ⟨tick, aligned, safeTick⟩ := completes.aligned
    obtain ⟨recovery, known⟩ := completes.recovery
    unfold ledgerAlignment
    simp only [completes.source, completes.target, safeNumber_ok safe, safeNumber_ok safeNext, Bind.bind, Except.bind]
    rw [dif_pos ⟨trivial, trivial⟩]
    split
    · next shift other resumeWallAt shifted aligned' resumed =>
      obtain rfl := Option.some.inj (aligned.symm.trans aligned')
      obtain rfl := Option.some.inj (completes.shifted.symm.trans shifted)
      simp only [safeNumber_ok safeTick, safeNumber_ok completes.safeShift.1, known]
      exact ⟨_, rfl⟩
    · next missing =>
      -- A ledger that is complete has all three columns.
      obtain ⟨resumeWallAt, resumed⟩ := Option.isSome_iff_exists.mp completes.resumed
      exact absurd resumed (missing shiftTicks tick resumeWallAt completes.shifted aligned)
  obtain ⟨input, read⟩ := read
  obtain ⟨shift, shifted, leads⟩ := ledgerAlignment_leads read
  obtain rfl := Option.some.inj (completes.shifted.symm.trans shifted)
  exact ⟨input, read, leads⟩

theorem applyDurableClockReconciliation_ok_iff (source : world.state.clock.revision = input.sourceRevision)
    (target : input.targetRevision = input.sourceRevision + 1) :
    (applyDurableClockReconciliation input).perform world = (.ok ⟨⟩, next) ↔
      (world.state.clock.phase = .running ∨ world.state.clock.phase = .suspended) ∧
        (applyClockReconciliationAlignment input).perform world = (.ok ⟨⟩, next) := by
  -- A target that is one ahead is not the revision that the clock already has.
  have fresh : ¬(world.state.clock.revision = input.targetRevision ∧ world.state.clock.phase = .reconciling) := by
    rw [target, source]
    omega
  have expected : ¬world.state.clock.revision ≠ input.sourceRevision := not_not.mpr source
  unfold applyDurableClockReconciliation
  rw [perform_get_bind]
  dsimp only
  rw [if_neg fresh, if_neg expected, perform_guard_ok, not_and_or, not_not, not_not]

theorem replayLedgers_cons_ok_iff {rest : List ClockSuspensionRow} {ended : Int × Int} :
    (replayLedgers revision generation positive (ledger :: rest)).perform world = (.ok ended, next) ↔
      ∃ input, ledgerAlignment revision generation positive ledger = .ok input ∧
        ∃ middle, (applyDurableClockReconciliation input).perform world = (.ok ⟨⟩, middle) ∧
          (replayLedgers (revision + 1) (generation + 1) (nextRevision_pos positive) rest).perform middle =
            (.ok ended, next) := by
  -- The replay of the others starts in the world that the first ledger has left.
  rw [replayLedgers, perform_ofExcept_bind_ok]
  simp only [perform_bind_ok]
  constructor
  · rintro ⟨input, read, ⟨⟩, middle, applied, done⟩
    exact ⟨input, read, middle, applied, done⟩
  · rintro ⟨input, read, middle, applied, done⟩
    exact ⟨input, read, ⟨⟩, middle, applied, done⟩

theorem replayLedgers_short {ledgers : List ClockSuspensionRow} {ended : Int × Int}
    (leadsFrom : world.state.clock.revision = revision)
    (done : (replayLedgers revision generation positive ledgers).perform world = (.ok ended, next)) :
    ledgers.length ≤ 1 := by
  cases ledgers with
  | nil => simp
  | cons first rest =>
    cases rest with
    | nil => simp
    | cons second rest =>
      obtain ⟨input, read, middle, applied, done⟩ := replayLedgers_cons_ok_iff.mp done
      obtain ⟨shift, -, leads⟩ := ledgerAlignment_leads read
      have started := leadsFrom.trans leads.source.symm
      obtain ⟨-, applied⟩ := (applyDurableClockReconciliation_ok_iff started leads.step).mp applied
      obtain ⟨-, -, realigned⟩ := applyClockReconciliationAlignment_ok applied
      -- The first replay has left the clock reconciling, from where no other reconciliation is followed.
      obtain ⟨input', read, last, applied, -⟩ := replayLedgers_cons_ok_iff.mp done
      obtain ⟨shift', -, leads'⟩ := ledgerAlignment_leads read
      have reached := realigned.revision.trans (leads.target.trans leads'.source.symm)
      obtain ⟨phase, -⟩ := (applyDurableClockReconciliation_ok_iff reached leads'.step).mp applied
      rw [realigned.phase] at phase
      rcases phase with phase | phase <;> cases phase

theorem synchronizeDurableClockSnapshot_ok_iff {snapshot : DurableGameClockSnapshot} :
    (synchronizeDurableClockSnapshot snapshot).perform world = (.ok ⟨⟩, next) ↔
      (world.state.clock.revision = snapshot.revision ∧
        world.state.deadlineGeneration = snapshot.deadlineGeneration ∧
        world.state.lastTurnTick = snapshot.lastTurnTick ∧ world.state.clock.baseTime = snapshot.baseTime ∧
        validTransition world.state snapshot = true) ∧
      next = { world with state := { world.state with
        clock := world.state.clock.takeOver snapshot, deadlineGeneration := snapshot.deadlineGeneration } } := by
  -- Each check that does not refuse is one part of the condition.
  unfold synchronizeDurableClockSnapshot
  rw [perform_get_bind]
  simp only [perform_guard_ok, perform_modify, Prod.mk.injEq, true_and, not_or, not_not, and_assoc]
  rw [@eq_comm _ _ next]

end

/-! ### The synchronization -/

/-- A clock that is missing a chain of reconciliations, at the end of which the database is in some phase. -/
structure Missed (db : ClockDatabase) (durable : DurableClock) (phase : GameClockPhase) (world : TurnWorld)
    (ledgers : List ClockSuspensionRow) (total : Int) : Prop where
  initialized : initializedClock db.worldState = .ok durable
  found : findLedgers db durable.row world.state.clock.revision = ledgers
  chain : Chained world.state.clock.revision ledgers durable.row.clockRevision total
  missing : ledgers ≠ []
  generation : durable.row.deadlineGeneration = world.state.deadlineGeneration + ledgers.length
  cursor : durable.lastTurnTick = world.state.lastTurnTick + total
  baseTime : durable.baseTime = world.state.clock.baseTime
  phase : parseGameClockPhase durable.row.clockPhase = .ok phase
  recovery : ∃ recovery, readTurnRecovery durable.row.recovery = .ok recovery
  safeRevision : isSafeInteger durable.row.clockRevision
  safeGeneration : isSafeInteger durable.row.deadlineGeneration
  safeTick : isSafeInteger durable.tick
  safeCursor : isSafeInteger durable.lastTurnTick

/-- A world whose clock is the database's, with all next turns later by a shift. -/
structure CaughtUp (world next : TurnWorld) (durable : DurableClock) (total : Int) : Prop where
  baseTime : next.state.clock.baseTime = durable.baseTime
  tick : next.state.clock.tick = durable.tick
  mode : next.state.clock.mode = if durable.row.clockMode = "manual" then .manual else .realtime
  wallAnchor : next.state.clock.wallAnchor = durable.wallAnchor
  recovery : ∃ checked, readTurnRecovery durable.row.recovery = .ok checked ∧ next.state.clock.recovery = checked.1
  lastTurnTick : next.state.lastTurnTick = durable.lastTurnTick
  phase : parseGameClockPhase durable.row.clockPhase = .ok next.state.clock.phase
  revision : next.state.clock.revision = durable.row.clockRevision
  deadlineGeneration : next.state.deadlineGeneration = durable.row.deadlineGeneration
  generals : ∀ id general tick, world.generals.rows.get? id = some general →
    nextTurnTick world.state.clock general = .ok tick →
    ∃ shifted, next.generals.rows.get? id = some shifted ∧ shifted.turnTick = some (tick + total)

section

variable {db : ClockDatabase} {durable : DurableClock} {phase : GameClockPhase} {world : TurnWorld}
  {ledgers : List ClockSuspensionRow} {total : Int}

/-- A snapshot has the columns of the database, in a phase and at a revision and a generation. -/
structure Shows (snapshot : DurableGameClockSnapshot) (durable : DurableClock) (phase : GameClockPhase)
    (revision generation : Int) : Prop where
  baseTime : snapshot.baseTime = durable.baseTime
  tick : snapshot.tick = durable.tick
  mode : snapshot.mode = if durable.row.clockMode = "manual" then .manual else .realtime
  wallAnchor : snapshot.wallAnchor = durable.wallAnchor
  recovery : ∃ checked, readTurnRecovery durable.row.recovery = .ok checked ∧ snapshot.recovery = checked.1
  lastTurnTick : snapshot.lastTurnTick = durable.lastTurnTick
  phase : snapshot.phase = phase
  revision : snapshot.revision = revision
  generation : snapshot.deadlineGeneration = generation

theorem durableSnapshot_ok (missed : Missed db durable phase world ledgers total) {revision : Int}
    (safe : isSafeInteger revision ∧ 1 ≤ revision) (generation : Int) :
    ∃ snapshot, durableSnapshot durable revision generation safe = .ok snapshot ∧
      Shows snapshot durable phase revision generation := by
  obtain ⟨checked, known⟩ := missed.recovery
  unfold durableSnapshot
  -- Each column is in range and can be read, so no check refuses.
  simp only [safeNumber_ok missed.safeTick, known, safeNumber_ok missed.safeCursor, missed.phase, Bind.bind,
    Except.bind]
  exact ⟨_, rfl, rfl, rfl, rfl, rfl, ⟨checked, known, rfl⟩, rfl, rfl, rfl, rfl⟩

theorem Missed.behind (missed : Missed db durable phase world ledgers total) :
    world.state.clock.revision < durable.row.clockRevision := by
  have some_ : 0 < ledgers.length := List.length_pos_of_ne_nil missed.missing
  have last := missed.chain.last_eq
  omega

theorem replayMissing_ok_iff (missed : Missed db durable phase world ledgers total) {middle : TurnWorld} :
    (replayMissing db durable durable.row.clockRevision durable.row.deadlineGeneration).perform world =
        (.ok ⟨⟩, middle) ↔
      (replayLedgers world.state.clock.revision world.state.deadlineGeneration world.state.clock.safeRevision.2
        ledgers).perform world = (.ok (durable.row.clockRevision, durable.row.deadlineGeneration), middle) := by
  -- The clock is behind, so the ledgers are looked for, and the chain has to end at the columns.
  unfold replayMissing
  rw [perform_get_bind]
  dsimp only
  rw [if_pos missed.behind, missed.found, perform_bind_ok]
  simp only [perform_guard_ok, perform_pure, Prod.mk.injEq, true_and, not_or, not_not]
  constructor
  · rintro ⟨ended, reached, replayed, ⟨revision, generation⟩, rfl⟩
    rw [← revision, ← generation]
    exact replayed
  · intro replayed
    exact ⟨_, middle, replayed, ⟨rfl, rfl⟩, rfl⟩

theorem synchronize_ok_iff (missed : Missed db durable phase world ledgers total)
    {snapshot : DurableGameClockSnapshot}
    {safe : isSafeInteger durable.row.clockRevision ∧ 1 ≤ durable.row.clockRevision}
    (given : durableSnapshot durable durable.row.clockRevision durable.row.deadlineGeneration safe = .ok snapshot)
    {changed : Bool} {next : TurnWorld} :
    (synchronizeRuntimeClockAuthorityUnderHeldLock db).perform world = (.ok changed, next) ↔
      ∃ middle, (replayLedgers world.state.clock.revision world.state.deadlineGeneration
          world.state.clock.safeRevision.2 ledgers).perform world =
            (.ok (durable.row.clockRevision, durable.row.deadlineGeneration), middle) ∧
        (synchronizeDurableClockSnapshot snapshot).perform middle = (.ok ⟨⟩, next) ∧
        changed = clockChanged world.state next.state := by
  -- None of the checks before the replay refuses a clock that misses a chain.
  have notAhead := missed.behind.le
  unfold synchronizeRuntimeClockAuthorityUnderHeldLock
  simp only [perform_ofExcept_bind_ok, perform_get_bind, missed.initialized, safeNumber_ok missed.safeRevision,
    safeNumber_ok missed.safeGeneration, Except.ok.injEq, exists_eq_left', dif_pos notAhead]
  rw [perform_bind_ok]
  constructor
  · rintro ⟨⟨⟩, middle, replayed, done⟩
    obtain ⟨other, same, done⟩ := perform_ofExcept_bind_ok.mp done
    obtain rfl := Except.ok.inj (given.symm.trans same)
    obtain ⟨⟨⟩, last, taken, done⟩ := perform_bind_ok.mp done
    obtain ⟨changed, rfl⟩ := Prod.mk.inj done
    exact ⟨middle, (replayMissing_ok_iff missed).mp replayed, taken, (Except.ok.inj changed).symm⟩
  · rintro ⟨middle, replayed, taken, rfl⟩
    refine ⟨⟨⟩, middle, (replayMissing_ok_iff missed).mpr replayed, ?_⟩
    exact perform_ofExcept_bind_ok.mpr ⟨snapshot, given, perform_bind_ok.mpr ⟨⟨⟩, next, taken, rfl⟩⟩

theorem Missed.completes {ledger : ClockSuspensionRow} (missed : Missed db durable phase world [ledger] total) :
    ledger.Completes world.state.clock.revision total ∧
      durable.row.clockRevision = world.state.clock.revision + 1 ∧
      durable.row.deadlineGeneration = world.state.deadlineGeneration + 1 := by
  exact ⟨missed.chain.one, by simpa using missed.chain.last_eq, by simpa using missed.generation⟩

theorem replay_one_ok {ledger : ClockSuspensionRow} {ended : Int × Int} {middle : TurnWorld}
    (missed : Missed db durable phase world [ledger] total)
    (done : (replayLedgers world.state.clock.revision world.state.deadlineGeneration
      world.state.clock.safeRevision.2 [ledger]).perform world = (.ok ended, middle)) :
    (world.state.clock.phase = .running ∨ world.state.clock.phase = .suspended) ∧ ShiftFits world total ∧
      ∃ input, Leads input world.state.clock.revision world.state.deadlineGeneration total ∧
        Realigned world middle input := by
  -- There is nothing to replay after the one ledger, so its replay ends the whole.
  obtain ⟨input, read, last, applied, done⟩ := replayLedgers_cons_ok_iff.mp done
  obtain rfl := (Prod.mk.inj done).2
  obtain ⟨shift, shifted, leads⟩ := ledgerAlignment_leads read
  obtain rfl := Option.some.inj (missed.completes.1.shifted.symm.trans shifted)
  obtain ⟨running, applied⟩ := (applyDurableClockReconciliation_ok_iff leads.source.symm leads.step).mp applied
  obtain ⟨-, fits, realigned⟩ := applyClockReconciliationAlignment_ok applied
  exact ⟨running, leads.shift ▸ fits, input, leads, realigned⟩

theorem replay_one_of_fits {ledger : ClockSuspensionRow} (missed : Missed db durable phase world [ledger] total)
    (running : world.state.clock.phase = .running ∨ world.state.clock.phase = .suspended)
    (fits : ShiftFits world total) :
    ∃ middle, (replayLedgers world.state.clock.revision world.state.deadlineGeneration
      world.state.clock.safeRevision.2 [ledger]).perform world =
        (.ok (durable.row.clockRevision, durable.row.deadlineGeneration), middle) := by
  obtain ⟨completes, revision, generation⟩ := missed.completes
  have safeNext : isSafeInteger (world.state.clock.revision + 1) := revision ▸ missed.safeRevision
  obtain ⟨input, read, leads⟩ := ledgerAlignment_ok completes world.state.clock.safeRevision.1 safeNext
    world.state.clock.safeRevision.2 world.state.deadlineGeneration
  -- The columns of the database bound the coordinates of the ledger.
  have coordinates : SafeCoordinates input := by
    unfold SafeCoordinates
    rw [leads.shift, leads.source, leads.target, leads.generation, ← generation]
    exact ⟨leads.safeTick, completes.safeShift.1, completes.safeShift.2, world.state.clock.safeRevision.1, safeNext,
      rfl, missed.safeGeneration⟩
  obtain ⟨middle, applied⟩ := applyClockReconciliationAlignment_of_fits coordinates (leads.shift ▸ fits)
  refine ⟨middle, replayLedgers_cons_ok_iff.mpr ⟨input, read, middle, ?_, ?_⟩⟩
  · exact (applyDurableClockReconciliation_ok_iff leads.source.symm leads.step).mpr ⟨running, applied⟩
  · rw [revision, generation]
    rfl

theorem validTransition_of_reconciling {state : TurnWorldState} (reconciling : state.clock.phase = .reconciling)
    (snapshot : DurableGameClockSnapshot) :
    validTransition state snapshot = true ↔ snapshot.phase = .reconciling ∨ snapshot.phase = .running := by
  -- The other transitions start from an opening or from a clock that runs.
  unfold validTransition openingTransition
  rw [reconciling]
  cases snapshot.phase <;> simp

/--
A clock that misses a chain of reconciliations catches up with it in one case only.

The chain is one ledger long, the clock runs or is suspended, the database still reconciles or runs again, and all
deadlines stay within range.
-/
theorem catchesUp_iff (missed : Missed db durable phase world ledgers total) :
    (∃ changed next, (synchronizeRuntimeClockAuthorityUnderHeldLock db).perform world = (.ok changed, next) ∧
        CaughtUp world next durable total) ↔
      ledgers.length = 1 ∧ (world.state.clock.phase = .running ∨ world.state.clock.phase = .suspended) ∧
        (phase = .reconciling ∨ phase = .running) ∧ ShiftFits world total := by
  have safe : isSafeInteger durable.row.clockRevision ∧ 1 ≤ durable.row.clockRevision :=
    ⟨missed.safeRevision, world.state.clock.safeRevision.2.trans missed.behind.le⟩
  obtain ⟨snapshot, given, shows⟩ := durableSnapshot_ok missed safe durable.row.deadlineGeneration
  constructor
  · rintro ⟨changed, next, done, -⟩
    obtain ⟨middle, replayed, taken, -⟩ := (synchronize_ok_iff missed given).mp done
    have some_ : 0 < ledgers.length := List.length_pos_of_ne_nil missed.missing
    have one : ledgers.length = 1 := le_antisymm (replayLedgers_short rfl replayed) some_
    obtain ⟨ledger, rfl⟩ := List.length_eq_one_iff.mp one
    obtain ⟨running, fits, input, leads, realigned⟩ := replay_one_ok missed replayed
    -- The replay has left the clock reconciling, and the snapshot is taken over from there.
    obtain ⟨⟨-, -, -, -, valid⟩, -⟩ := synchronizeDurableClockSnapshot_ok_iff.mp taken
    rw [validTransition_of_reconciling realigned.phase, shows.phase] at valid
    exact ⟨one, running, valid, fits⟩
  · rintro ⟨one, running, valid, fits⟩
    obtain ⟨ledger, rfl⟩ := List.length_eq_one_iff.mp one
    obtain ⟨middle, replayed⟩ := replay_one_of_fits missed running fits
    obtain ⟨-, -, input, leads, realigned⟩ := replay_one_ok missed replayed
    obtain ⟨-, revision, generation⟩ := missed.completes
    have taken : (synchronizeDurableClockSnapshot snapshot).perform middle = (.ok ⟨⟩, _) :=
      synchronizeDurableClockSnapshot_ok_iff.mpr ⟨⟨
      by rw [realigned.revision, leads.target, shows.revision, revision],
      by rw [realigned.generation, leads.generation, shows.generation, generation],
      by rw [realigned.cursor, leads.shift, shows.lastTurnTick, missed.cursor],
      by rw [realigned.baseTime, shows.baseTime, missed.baseTime],
      by rw [validTransition_of_reconciling realigned.phase, shows.phase]; exact valid⟩, rfl⟩
    refine ⟨_, _, (synchronize_ok_iff missed given).mpr ⟨middle, replayed, taken, rfl⟩, ?_⟩
    exact
      { baseTime := shows.baseTime
        tick := shows.tick
        mode := shows.mode
        wallAnchor := shows.wallAnchor
        recovery := shows.recovery
        lastTurnTick := by rw [missed.cursor, ← leads.shift]; exact realigned.cursor
        phase := by rw [missed.phase, ← shows.phase]; rfl
        revision := shows.revision
        deadlineGeneration := shows.generation
        generals := by
          intro id general tick listed known
          obtain ⟨shifted, moved, stored⟩ := realigned.generals id general listed
          exact ⟨shifted, stored, leads.shift ▸ (shiftGeneral_ok moved).2 tick known⟩ }

end

/-! ### Two ledgers and one -/

/-- The row of a world that runs again after reconciliations. -/
def rowAfter (revision generation lastTurnTick : Int) : WorldClockRow where
  id := 1
  clockBaseTime := some 0
  clockTick := some lastTurnTick
  clockMode := "realtime"
  clockWallAnchor := some 0
  recovery := ⟨none, none, none⟩
  lastTurnTick := some lastTurnTick
  clockPhase := "RUNNING"
  clockRevision := revision
  deadlineGeneration := generation
  validBase := by decide
  validAnchor := by decide

/-- The columns of the row. -/
def clockAfter (revision generation lastTurnTick : Int) : DurableClock :=
  ⟨rowAfter revision generation lastTurnTick, 0, lastTurnTick, 0, lastTurnTick, rfl, rfl, rfl, rfl⟩

/-- The ledger of a maintenance that has been reconciled. -/
def maintenance (id : String) (sourceRevision shiftTicks alignedTick : Int) : ClockSuspensionRow where
  id
  worldStateId := 1
  status := "APPLIED"
  sourceRevision
  targetRevision := sourceRevision + 1
  shiftTicks := some shiftTicks
  alignedTick := some alignedTick
  resumeWallAt := some 0
  detail := ⟨none, none, none⟩
  validResume := by decide

/-- A world with one general that has just opened. -/
def worldOfOne : TurnWorld :=
  { InMemoryTurnWorld.opening.toTurnWorld with
    generals := .clean (.ofEntries [(1, storedProbe InMemoryTurnWorld.openingClock 0)]) }

theorem maintenance_completes (id : String) (revision shiftTicks alignedTick : Int)
    (safeShift : isSafeInteger shiftTicks ∧ 0 ≤ shiftTicks) (safeTick : isSafeInteger alignedTick) :
    (maintenance id revision shiftTicks alignedTick).Completes revision shiftTicks :=
  ⟨rfl, rfl, rfl, safeShift, ⟨alignedTick, rfl, safeTick⟩, rfl, _, rfl⟩

/-- Two maintenances of the world, one after the other. -/
def twoMaintenances : List ClockSuspensionRow := [maintenance "first" 1 5000 5000, maintenance "second" 2 7000 12000]

/-- The database after both of them. -/
def afterTwo : ClockDatabase := ⟨some (rowAfter 3 3 12000), twoMaintenances⟩

theorem missed_two : Missed afterTwo (clockAfter 3 3 12000) .running worldOfOne twoMaintenances 12000 where
  initialized := rfl
  found := rfl
  chain := by
    have first := maintenance_completes "first" 1 5000 5000 (by decide) (by decide)
    have second := maintenance_completes "second" 2 7000 12000 (by decide) (by decide)
    exact .cons first (.cons second (.nil 3))
  missing := by decide
  generation := rfl
  cursor := rfl
  baseTime := rfl
  phase := rfl
  recovery := ⟨_, rfl⟩
  safeRevision := by decide
  safeGeneration := by decide
  safeTick := by decide
  safeCursor := by decide

/-- A running world does not catch up with two maintenances. -/
theorem two_maintenances_missed :
    Missed afterTwo (clockAfter 3 3 12000) .running worldOfOne twoMaintenances 12000 ∧
      ¬∃ changed next,
        (synchronizeRuntimeClockAuthorityUnderHeldLock afterTwo).perform worldOfOne = (.ok changed, next) ∧
        CaughtUp worldOfOne next (clockAfter 3 3 12000) 12000 := by
  refine ⟨missed_two, ?_⟩
  rintro ⟨changed, next, done, -⟩
  have safe : isSafeInteger (3 : Int) ∧ 1 ≤ (3 : Int) := by decide
  obtain ⟨snapshot, given, -⟩ := durableSnapshot_ok missed_two safe 3
  obtain ⟨middle, replayed, -⟩ := (synchronize_ok_iff missed_two given).mp done
  -- The replay would have to be over one ledger, and it is over two.
  have short := replayLedgers_short rfl replayed
  exact absurd short (by decide)

/-- A running world catches up with one maintenance. -/
theorem one_maintenance_followed :
    ∃ changed next, (synchronizeRuntimeClockAuthorityUnderHeldLock ⟨some (rowAfter 2 2 5000),
        [maintenance "first" 1 5000 5000]⟩).perform worldOfOne = (.ok changed, next) ∧
      CaughtUp worldOfOne next (clockAfter 2 2 5000) 5000 := by
  refine (catchesUp_iff
    { initialized := rfl
      found := rfl
      chain := .cons (maintenance_completes "first" 1 5000 5000 (by decide) (by decide)) (.nil 2)
      missing := by decide
      generation := rfl
      cursor := rfl
      baseTime := rfl
      phase := rfl
      recovery := ⟨_, rfl⟩
      safeRevision := by decide
      safeGeneration := by decide
      safeTick := by decide
      safeCursor := by decide }).mpr ⟨rfl, .inl rfl, .inr rfl, ?_⟩
  -- Every deadline of the world is that of its one general.
  exact
    { milliseconds := by decide
      cursor := ⟨_, rfl⟩
      generals := by
        intro id general listed
        have member : (id, general) ∈ [((1 : Int), storedProbe InMemoryTurnWorld.openingClock 0)] :=
          OrderedMap.mem_entries.mpr listed
        obtain ⟨-, rfl⟩ := Prod.mk.inj (List.mem_singleton.mp member)
        exact ⟨⟨0, rfl, _, rfl⟩, _, rfl⟩
      pool := by
        intro entries given
        cases given
      checkpoint := by
        intro checkpoint given
        cases given }

end Sammo.RuntimeClockAuthority
