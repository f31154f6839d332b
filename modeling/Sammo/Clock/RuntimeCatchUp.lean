import Sammo.Clock.RuntimeClockAuthority
import Sammo.Time.GameClockLaws

/-! A running daemon catches up with one reconciliation, from a clock that runs or is suspended. -/

namespace Sammo.RuntimeClockAuthority

open Effect TurnWorld

/-! ### What can be shifted -/

/-- A tick that a clock shows at a date. -/
def Shown (clock : GameClock) (tick : Int) : Prop := ∃ date, clock.tickToDate tick = .ok date

/-- The tick of a general's next turn, which without a tick is that of its time. -/
def nextTurnTick (clock : GameClock) (general : General) : Except String Int :=
  match general.turnTick with
  | some tick => .ok tick
  | none => clock.dateToTick general.turnTime

/-- The tick of a checkpoint, which without a tick is that of its time. -/
def checkpointTick (clock : GameClock) (checkpoint : TurnCheckpoint) : Except String Int :=
  match checkpoint.turnTick with
  | some tick => .ok tick
  | none => clock.dateToTick checkpoint.turnTime

/-- A general's deadlines are within range after a shift. -/
def GeneralFits (clock : GameClock) (shiftTicks : Int) (general : General) : Prop :=
  (∃ tick, nextTurnTick clock general = .ok tick ∧ Shown clock (tick + shiftTicks)) ∧
    ∃ metadata, shiftOfficeRequestDeadline general.metadata shiftTicks (some clock.tick) = .ok metadata

/-- All deadlines of a world are within range after a shift. -/
structure ShiftFits (world : TurnWorld) (shiftTicks : Int) : Prop where
  milliseconds : isSafeInteger ((shiftTicks * 1000).tdiv world.state.clock.ticksPerSecond)
  cursor : Shown world.state.clock (world.state.lastTurnTick + shiftTicks)
  generals : ∀ id general, world.generals.rows.get? id = some general →
    GeneralFits world.state.clock shiftTicks general
  pool : ∀ entries ∈ world.generalPoolEntries, ∀ entry ∈ entries, ∀ tick ∈ entry.reservedUntilTick,
    Shown world.state.clock (tick + shiftTicks)
  checkpoint : ∀ checkpoint ∈ world.checkpoint, ∃ tick, checkpointTick world.state.clock checkpoint = .ok tick ∧
    Shown world.state.clock (tick + shiftTicks)

section

variable {clock : GameClock} {shiftTicks : Int}

theorem Shown.safe {tick : Int} (shown : Shown clock tick) : requireSafeTick tick = .ok tick := by
  obtain ⟨date, shown⟩ := shown
  obtain ⟨accepted, safe, _⟩ := Effect.bind_ok shown
  rw [safe, GameClock.requireSafeTick_ok safe]

theorem addTicks_of_shown {tick : Int} (safe : isSafeInteger shiftTicks) (shown : Shown clock (tick + shiftTicks)) :
    GameClock.addTicks tick shiftTicks = .ok (tick + shiftTicks) := by
  simp only [GameClock.addTicks, requireSafeTick, if_pos safe, Bind.bind, Except.bind]
  exact shown.safe

theorem shiftGeneral_eq (general : General) : shiftGeneral clock shiftTicks general = (do
    let tick ← nextTurnTick clock general
    let turnTick ← GameClock.addTicks tick shiftTicks
    let metadata ← shiftOfficeRequestDeadline general.metadata shiftTicks (some clock.tick)
    let turnTime ← clock.tickToDate turnTick
    .ok { general with metadata, turnTick := some turnTick, turnTime }) := by
  -- A missing tick is read off the time first, which is the same computation.
  unfold shiftGeneral nextTurnTick
  cases general.turnTick with
  | some tick => rfl
  | none =>
    cases clock.dateToTick general.turnTime with
    | error reason => rfl
    | ok tick => rfl

theorem shiftGeneral_ok {general shifted : General} (done : shiftGeneral clock shiftTicks general = .ok shifted) :
    GeneralFits clock shiftTicks general ∧
      ∀ tick, nextTurnTick clock general = .ok tick → shifted.turnTick = some (tick + shiftTicks) := by
  -- Each part of the computation has ended well.
  rw [shiftGeneral_eq] at done
  obtain ⟨tick, next, done⟩ := bind_ok done
  obtain ⟨turnTick, added, done⟩ := bind_ok done
  obtain ⟨metadata, office, done⟩ := bind_ok done
  obtain ⟨turnTime, shown, done⟩ := bind_ok done
  obtain rfl := GameClock.addTicks_ok added
  obtain rfl := Except.ok.inj done
  refine ⟨⟨⟨tick, next, turnTime, shown⟩, metadata, office⟩, fun other same => ?_⟩
  rw [Except.ok.inj (next.symm.trans same)]

theorem GeneralFits.shifts {general : General} (fits : GeneralFits clock shiftTicks general)
    (safe : isSafeInteger shiftTicks) : ∃ shifted, shiftGeneral clock shiftTicks general = .ok shifted := by
  obtain ⟨⟨tick, next, shown⟩, metadata, office⟩ := fits
  have added := addTicks_of_shown safe shown
  obtain ⟨date, shown⟩ := shown
  refine ⟨{ general with metadata, turnTick := some (tick + shiftTicks), turnTime := date }, ?_⟩
  simp only [shiftGeneral_eq, next, added, office, shown, Bind.bind, Except.bind]

theorem shiftCheckpoint_ok_iff (safe : isSafeInteger shiftTicks) (checkpoint : TurnCheckpoint) :
    (∃ shifted, shiftCheckpoint clock shiftTicks checkpoint = .ok shifted) ↔
      ∃ tick, checkpointTick clock checkpoint = .ok tick ∧ Shown clock (tick + shiftTicks) := by
  -- As with a general, a missing tick is read off the time first.
  have equal : shiftCheckpoint clock shiftTicks checkpoint = (do
      let tick ← checkpointTick clock checkpoint
      let turnTick ← GameClock.addTicks tick shiftTicks
      let turnTime ← clock.tickToDate turnTick
      .ok { checkpoint with turnTick := some turnTick, turnTime }) := by
    unfold shiftCheckpoint checkpointTick
    cases checkpoint.turnTick with
    | some tick => rfl
    | none =>
      cases clock.dateToTick checkpoint.turnTime with
      | error reason => rfl
      | ok tick => rfl
  rw [equal]
  constructor
  · rintro ⟨shifted, done⟩
    obtain ⟨tick, known, done⟩ := bind_ok done
    obtain ⟨turnTick, added, done⟩ := bind_ok done
    obtain ⟨turnTime, shown, done⟩ := bind_ok done
    obtain rfl := GameClock.addTicks_ok added
    exact ⟨tick, known, turnTime, shown⟩
  · rintro ⟨tick, known, shown⟩
    have added := addTicks_of_shown safe shown
    obtain ⟨date, shown⟩ := shown
    simp only [known, added, shown, Bind.bind, Except.bind]
    exact ⟨_, rfl⟩

theorem shiftPoolEntry_ok_iff (safe : isSafeInteger shiftTicks) (milliseconds : Int) (entry : TurnGeneralPoolEntry) :
    (∃ shifted, shiftPoolEntry clock shiftTicks milliseconds entry = .ok shifted) ↔
      ∀ tick ∈ entry.reservedUntilTick, Shown clock (tick + shiftTicks) := by
  -- A candidate without a tick is shifted by milliseconds, which does not fail.
  unfold shiftPoolEntry
  cases entry.reservedUntilTick with
  | none => simp
  | some tick =>
    constructor
    · rintro ⟨shifted, done⟩ other same
      obtain rfl := Option.some.inj same
      obtain ⟨moved, added, done⟩ := bind_ok done
      obtain ⟨date, shown, done⟩ := bind_ok done
      obtain rfl := GameClock.addTicks_ok added
      exact ⟨date, shown⟩
    · intro shown
      have added := addTicks_of_shown safe (shown tick rfl)
      obtain ⟨date, shown⟩ := shown tick rfl
      simp only [added, shown, Bind.bind, Except.bind]
      exact ⟨_, rfl⟩

end

/-! ### One reconciliation -/

/-- The coordinates of a reconciliation that the world accepts. -/
def SafeCoordinates (input : DurableClockReconciliationAlignment) : Prop :=
  isSafeInteger input.alignedTick ∧ isSafeInteger input.shiftTicks ∧ 0 ≤ input.shiftTicks ∧
    isSafeInteger input.sourceRevision ∧ isSafeInteger input.targetRevision ∧
    input.targetRevision = input.sourceRevision + 1 ∧ isSafeInteger input.deadlineGeneration

/-- A world at another revision of its clock, with every deadline moved that there is. -/
structure Realigned (world next : TurnWorld) (input : DurableClockReconciliationAlignment) : Prop where
  phase : next.state.clock.phase = .reconciling
  revision : next.state.clock.revision = input.targetRevision
  baseTime : next.state.clock.baseTime = world.state.clock.baseTime
  generation : next.state.deadlineGeneration = input.deadlineGeneration
  cursor : next.state.lastTurnTick = world.state.lastTurnTick + input.shiftTicks
  generals : ∀ id general, world.generals.rows.get? id = some general →
    ∃ shifted, shiftGeneral world.state.clock input.shiftTicks general = .ok shifted ∧
      next.generals.rows.get? id = some shifted
  others : ∀ id, world.generals.rows.get? id = none → next.generals.rows.get? id = none
  noPool : world.generalPoolEntries = none → next.generalPoolEntries = none
  pool : ∀ entries, world.generalPoolEntries = some entries →
    ∃ shifted, shiftPoolEntries world.state.clock input.shiftTicks
        ((input.shiftTicks * 1000).tdiv world.state.clock.ticksPerSecond) entries = .ok shifted ∧
      next.generalPoolEntries = some shifted

variable {world next : TurnWorld} {input : DurableClockReconciliationAlignment} {rows : OrderedMap Int General}
  {start : TurnWorld}

theorem Realigned.origin (realigned : Realigned world next input) {id : Int} {shifted : General}
    (held : next.generals.rows.get? id = some shifted) :
    ∃ general, world.generals.rows.get? id = some general ∧
      shiftGeneral world.state.clock input.shiftTicks general = .ok shifted := by
  cases listed : world.generals.rows.get? id with
  | none => exact absurd ((realigned.others id listed).symm.trans held) (by simp)
  | some general =>
    obtain ⟨other, moved, stored⟩ := realigned.generals id general listed
    obtain rfl := Option.some.inj (stored.symm.trans held)
    exact ⟨general, rfl, moved⟩

theorem Realigned.poolOrigin (realigned : Realigned world next input) {shifted : List TurnGeneralPoolEntry}
    (given : next.generalPoolEntries = some shifted) {moved : TurnGeneralPoolEntry} (member : moved ∈ shifted) :
    ∃ entries, world.generalPoolEntries = some entries ∧ ∃ entry ∈ entries,
      shiftPoolEntry world.state.clock input.shiftTicks
        ((input.shiftTicks * 1000).tdiv world.state.clock.ticksPerSecond) entry = .ok moved := by
  cases pool : world.generalPoolEntries with
  | none => exact absurd ((realigned.noPool pool).symm.trans given) (by simp)
  | some entries =>
    obtain ⟨others, done, stored⟩ := realigned.pool entries pool
    obtain rfl := Option.some.inj (stored.symm.trans given)
    exact ⟨entries, rfl, (mapM_ok_mem done).2 moved member⟩

/-- A general's row after a shift, or as it was if it cannot be shifted. -/
def shiftedOr (clock : GameClock) (shiftTicks : Int) (general : General) : General :=
  match shiftGeneral clock shiftTicks general with
  | .ok shifted => shifted
  | .error _ => general

/-- Stores a shifted general without marking its row. -/
def storeShifted (entry : Int × General) (shifted : General) (world : TurnWorld) : TurnWorld :=
  { world with generals := { world.generals with rows := world.generals.rows.set entry.1 shifted } }

theorem rows_foldl_settle (clock : GameClock) (shiftTicks : Int) (same : world.generals.rows = rows) (id : Int) :
    (rows.entries.foldl (fun world entry => settle (shiftGeneral clock shiftTicks entry.2) (storeShifted entry) world)
      world).generals.rows.get? id = (rows.get? id).map (shiftedOr clock shiftTicks) := by
  -- Every row is visited once, and a visit changes that row only.
  have looped := OrderedMap.view_foldl (fun world : TurnWorld => world.generals.rows.get?)
    (fun world entry => settle (shiftGeneral clock shiftTicks entry.2) (storeShifted entry) world)
    (fun _ general => shiftedOr clock shiftTicks general) (fun _ => True) (fun _ _ _ => trivial)
    (by
      intro state entry _ listed key
      unfold shiftedOr
      cases shiftGeneral clock shiftTicks entry.2 with
      | ok shifted => exact OrderedMap.get?_set ..
      | error reason =>
        show state.generals.rows.get? key = _
        split
        · next here => rw [here, listed]
        · rfl)
    rows.nodup (show ((fun _ => True) : TurnWorld → Prop) world from trivial) (fun entry listed => by
      rw [same]
      exact OrderedMap.mem_entries.mp listed) id
  rw [looped, same]
  exact OrderedMap.map_of_mem_keys rows _ id

/-- What is shifted behind the generals: the reservations, the auctions and the checkpoint. -/
def shiftOthers (world : TurnWorld) (shiftTicks : Int) : WorldM Unit := do
  let clock := world.state.clock
  let shiftedMilliseconds := (shiftTicks * 1000).tdiv clock.ticksPerSecond
  match world.generalPoolEntries with
  | none => pure ()
  | some entries =>
    let entries ← Effect.ofExcept (shiftPoolEntries clock shiftTicks shiftedMilliseconds entries)
    modify fun world => { world with generalPoolEntries := some entries }
  modify fun world => { world with
    pendingNeutralAuctions := world.pendingNeutralAuctions.map fun auction =>
      { auction with closeAt := auction.closeAt + shiftedMilliseconds } }
  match world.checkpoint with
  | none => pure ()
  | some checkpoint =>
    let checkpoint ← Effect.ofExcept (shiftCheckpoint clock shiftTicks checkpoint)
    modify fun world => { world with checkpoint := some checkpoint }

theorem shiftOthers_ok_iff {shiftTicks : Int} :
    (∃ next, (shiftOthers world shiftTicks).perform start = (.ok ⟨⟩, next)) ↔
      (∀ entries ∈ world.generalPoolEntries, ∃ shifted, shiftPoolEntries world.state.clock shiftTicks
        ((shiftTicks * 1000).tdiv world.state.clock.ticksPerSecond) entries = .ok shifted) ∧
      ∀ checkpoint ∈ world.checkpoint, ∃ shifted,
        shiftCheckpoint world.state.clock shiftTicks checkpoint = .ok shifted := by
  unfold shiftOthers
  dsimp only
  -- Only the results that are there to be taken over matter, one for each part.
  cases world.generalPoolEntries with
  | none =>
    cases world.checkpoint with
    | none => simp
    | some checkpoint =>
      simp only [Option.mem_some_iff, forall_eq']
      cases shiftCheckpoint world.state.clock shiftTicks checkpoint <;> simp
  | some entries =>
    simp only [Option.mem_some_iff, forall_eq']
    generalize shiftPoolEntries _ _ _ entries = reserved
    cases world.checkpoint with
    | none => cases reserved <;> simp
    | some checkpoint =>
      simp only [Option.mem_some_iff, forall_eq']
      cases reserved <;> cases shiftCheckpoint world.state.clock shiftTicks checkpoint <;> simp

theorem shiftOthers_keeps {shiftTicks : Int}
    (done : (shiftOthers world shiftTicks).perform start = (.ok ⟨⟩, next)) :
    (next.state = start.state ∧ next.generals = start.generals) ∧
      (world.generalPoolEntries = none → next.generalPoolEntries = start.generalPoolEntries) ∧
      ∀ entries, world.generalPoolEntries = some entries →
        ∃ shifted, shiftPoolEntries world.state.clock shiftTicks
            ((shiftTicks * 1000).tdiv world.state.clock.ticksPerSecond) entries = .ok shifted ∧
          next.generalPoolEntries = some shifted := by
  -- Only the candidates, the auctions and the checkpoint are written.
  unfold shiftOthers at done
  cases pool : world.generalPoolEntries with
  | none =>
    simp only [pool, perform_modify_bind] at done
    cases stopped : world.checkpoint with
    | none =>
      simp only [stopped] at done
      obtain rfl := (Prod.mk.inj done).2
      exact ⟨⟨rfl, rfl⟩, fun _ => rfl, by simp⟩
    | some checkpoint =>
      simp only [stopped, perform_ofExcept_bind_ok] at done
      obtain ⟨_, _, done⟩ := done
      obtain rfl := (Prod.mk.inj done).2
      exact ⟨⟨rfl, rfl⟩, fun _ => rfl, by simp⟩
  | some entries =>
    simp only [pool, perform_ofExcept_bind_ok, perform_modify_bind] at done
    obtain ⟨shifted, moved, done⟩ := done
    cases stopped : world.checkpoint with
    | none =>
      simp only [stopped] at done
      obtain rfl := (Prod.mk.inj done).2
      exact ⟨⟨rfl, rfl⟩, by simp, fun _ same => ⟨shifted, Option.some.inj same ▸ moved, rfl⟩⟩
    | some checkpoint =>
      simp only [stopped, perform_ofExcept_bind_ok] at done
      obtain ⟨_, _, done⟩ := done
      obtain rfl := (Prod.mk.inj done).2
      exact ⟨⟨rfl, rfl⟩, by simp, fun _ same => ⟨shifted, Option.some.inj same ▸ moved, rfl⟩⟩

theorem shiftGenerals_ok {clock : GameClock} {shiftTicks : Int} {middle : TurnWorld}
    (looped : (rows.entries.forM fun item => (do
      let shifted ← Effect.ofExcept (shiftGeneral clock shiftTicks item.2)
      modify (storeShifted item shifted) : WorldM PUnit)).perform start = (.ok ⟨⟩, middle))
    (same : start.generals.rows = rows) :
    (∀ id general, rows.get? id = some general →
      ∃ shifted, shiftGeneral clock shiftTicks general = .ok shifted ∧ middle.generals.rows.get? id = some shifted) ∧
      (∀ id, rows.get? id = none → middle.generals.rows.get? id = none) ∧
      middle.state = start.state ∧ middle.generalPoolEntries = start.generalPoolEntries := by
  obtain ⟨all, rfl⟩ := perform_forM_ofExcept_ok.mp looped
  refine ⟨?_, ?_, ?_⟩
  · intro id general listed
    obtain ⟨shifted, moved⟩ := all (id, general) (OrderedMap.mem_entries.mpr listed)
    refine ⟨shifted, moved, ?_⟩
    rw [rows_foldl_settle clock shiftTicks same id, listed, Option.map_some, shiftedOr, moved]
  · intro id unlisted
    rw [rows_foldl_settle clock shiftTicks same id, unlisted, Option.map_none]
  · -- No round touches the state or the candidates.
    clear looped all same
    generalize rows.entries = entries
    induction entries generalizing start with
    | nil => exact ⟨rfl, rfl⟩
    | cons entry rest ih =>
      rw [List.foldl_cons, ih.1, ih.2]
      unfold settle
      cases shiftGeneral clock shiftTicks entry.2 <;> exact ⟨rfl, rfl⟩

theorem applyClockReconciliationAlignment_ok
    (done : (applyClockReconciliationAlignment input).perform world = (.ok ⟨⟩, next)) :
    SafeCoordinates input ∧ ShiftFits world input.shiftTicks ∧ Realigned world next input := by
  -- The parts are taken in the order in which the operation goes through them.
  unfold applyClockReconciliationAlignment at done
  split at done
  · next safe =>
    rw [perform_get_bind] at done
    dsimp only at done
    split at done
    · cases done
    next milliseconds =>
    simp only [perform_ofExcept_bind_ok, perform_modify_bind] at done
    obtain ⟨lastTurnTick, added, lastTurnTime, shown, done⟩ := done
    obtain rfl := GameClock.addTicks_ok added
    rw [perform_bind_ok] at done
    obtain ⟨⟨⟩, middle, looped, done⟩ := done
    obtain ⟨all, others, keptState, keptPool⟩ := shiftGenerals_ok looped rfl
    replace done : (shiftOthers world input.shiftTicks).perform middle = (.ok ⟨⟩, next) := done
    obtain ⟨pool, stopped⟩ := shiftOthers_ok_iff.mp ⟨next, done⟩
    obtain ⟨⟨sameState, sameGenerals⟩, noPool, shiftedPool⟩ := shiftOthers_keeps done
    refine ⟨safe, ?_, ?_⟩
    · exact
        { milliseconds := not_not.mp milliseconds
          cursor := ⟨lastTurnTime, shown⟩
          generals := by
            intro id general listed
            obtain ⟨shifted, moved, -⟩ := all id general listed
            exact (shiftGeneral_ok moved).1
          pool := by
            intro entries given entry listed
            obtain ⟨shifted, moved⟩ := pool entries given
            exact (shiftPoolEntry_ok_iff safe.2.1 _ entry).mp (mapM_ok_iff.mp ⟨shifted, moved⟩ entry listed)
          checkpoint := fun checkpoint given => (shiftCheckpoint_ok_iff safe.2.1 checkpoint).mp
            (stopped checkpoint given) }
    · rw [keptState] at sameState
      constructor
      case generals =>
        intro id general listed
        obtain ⟨shifted, moved, stored⟩ := all id general listed
        exact ⟨shifted, moved, sameGenerals ▸ stored⟩
      case others =>
        intro id unlisted
        exact sameGenerals ▸ others id unlisted
      case noPool =>
        intro absent
        rw [noPool absent, keptPool]
        exact absent
      case pool => exact shiftedPool
      all_goals simp only [sameState, GameClock.realign]
  · cases done

theorem applyClockReconciliationAlignment_of_fits (safe : SafeCoordinates input)
    (fits : ShiftFits world input.shiftTicks) :
    ∃ next, (applyClockReconciliationAlignment input).perform world = (.ok ⟨⟩, next) := by
  -- The results that the operation takes over are there beforehand.
  have added := addTicks_of_shown safe.2.1 fits.cursor
  obtain ⟨lastTurnTime, shown⟩ := fits.cursor
  have shifts : ∀ item ∈ world.generals.rows.entries,
      ∃ shifted, shiftGeneral world.state.clock input.shiftTicks item.2 = .ok shifted := by
    intro item listed
    exact (fits.generals item.1 item.2 (OrderedMap.mem_entries.mp listed)).shifts safe.2.1
  have reserved : ∀ entries ∈ world.generalPoolEntries, ∃ shifted, shiftPoolEntries world.state.clock
      input.shiftTicks ((input.shiftTicks * 1000).tdiv world.state.clock.ticksPerSecond) entries = .ok shifted := by
    intro entries given
    apply mapM_ok_iff.mpr
    intro entry listed
    exact (shiftPoolEntry_ok_iff safe.2.1 _ entry).mpr (fits.pool entries given entry listed)
  have stopped : ∀ checkpoint ∈ world.checkpoint,
      ∃ shifted, shiftCheckpoint world.state.clock input.shiftTicks checkpoint = .ok shifted := by
    intro checkpoint given
    exact (shiftCheckpoint_ok_iff safe.2.1 checkpoint).mpr (fits.checkpoint checkpoint given)
  unfold applyClockReconciliationAlignment
  split
  · rw [perform_get_bind]
    dsimp only
    rw [if_neg (not_not.mpr fits.milliseconds), added]
    simp only [perform_ofExcept_bind_ok, perform_modify_bind, Except.ok.injEq, exists_eq_left', shown]
    rw [perform_bind_exists]
    refine ⟨⟨⟩, _, perform_forM_ofExcept_ok.mpr ⟨shifts, rfl⟩, ?_⟩
    exact shiftOthers_ok_iff.mpr ⟨reserved, stopped⟩
  · next refused => exact absurd safe refused

end Sammo.RuntimeClockAuthority
