import Sammo.Clock.LedgerReplay
import Sammo.Clock.ParticipantShift
import Sammo.Data.JsonPatchLaws

/-! Memory and database agree after a reconciliation in so far as both move the same deadlines. -/

namespace Sammo.ClockReconciliation

open Effect TurnWorld RuntimeClockAuthority

/-! ### Rows under a statement -/

/-- A row and what a statement makes of it. -/
def Moves {ρ : Type} (change : ρ → Except String (Option ρ)) (row next : ρ) : Prop :=
  ∃ changed, change row = .ok changed ∧ next = changed.getD row

/-- A statement that ends well has made something of every row, and there are no other rows. -/
structure MovesAll {ρ : Type} (change : ρ → Except String (Option ρ)) (rows next : List ρ) : Prop where
  forward : ∀ row ∈ rows, ∃ moved ∈ next, Moves change row moved
  backward : ∀ moved ∈ next, ∃ row ∈ rows, Moves change row moved

theorem updateRows_ok {ρ : Type} {change : ρ → Except String (Option ρ)} {rows : List ρ} {result : List ρ × Nat}
    (done : updateRows change rows = .ok result) : MovesAll change rows result.1 := by
  -- Each row gives one result, whose first part is the row afterwards.
  unfold updateRows at done
  obtain ⟨changes, mapped, done⟩ := bind_ok done
  obtain rfl := Except.ok.inj done
  obtain ⟨forward, backward⟩ := mapM_ok_mem mapped
  constructor
  · intro row listed
    obtain ⟨change, member, moved⟩ := forward row listed
    obtain ⟨changed, given, rfl⟩ := map_ok moved
    exact ⟨_, List.mem_map_of_mem member, changed, given, rfl⟩
  · intro moved listed
    obtain ⟨change, member, rfl⟩ := List.mem_map.mp listed
    obtain ⟨row, present, moved⟩ := backward change member
    obtain ⟨changed, given, rfl⟩ := map_ok moved
    exact ⟨row, present, changed, given, rfl⟩

/-! ### Deadlines -/

/-- The tick up to which a general may not be selected anew. -/
def reselectionTick (metadata : Record) : Option Int := (metadata.get? "next_change_tick").bind sqlInteger?

/-- The tick at which a request for an office is due. -/
def officeTick (metadata : Record) : Option Int := ((storedRequest metadata).get? "dueTick").bind sqlInteger?

/-- A tick is later by a shift if a condition holds, and as it was if not. -/
def MovedWhen (condition : Prop) (shiftTicks : Int) (before after : Option Int) : Prop :=
  (condition → after = before.map (· + shiftTicks)) ∧ (¬condition → after = before)

theorem MovedWhen.eq_iff {here there : Prop} {shiftTicks : Int} {before left right : Option Int}
    (one : MovedWhen here shiftTicks before left) (other : MovedWhen there shiftTicks before right) :
    left = right ↔ shiftTicks = 0 ∨ before = none ∨ (here ↔ there) := by
  -- The ticks differ only if one side is moved alone, and then by the shift.
  by_cases first : here <;> by_cases second : there
  · simp [one.1 first, other.1 second, first, second]
  · rw [one.1 first, other.2 second]
    cases before <;> simp [first, second]
  · rw [one.2 first, other.1 second]
    cases before <;> simp [first, second]
  · simp [one.2 first, other.2 second, first, second]

/-- The database moves the wait before a general may be selected anew. -/
def MovesReselection (cutTick : Int) (metadata : Record) : Prop :=
  ∃ tick, reselectionTick metadata = some tick ∧ cutTick ≤ tick

/-- The database moves the request for an office, which has only to be pending. -/
def DatabaseMovesOffice (cutTick : Int) (metadata : Record) : Prop :=
  (storedRequest metadata).text? "status" = some "pending" ∧ ∃ tick, officeTick metadata = some tick ∧ cutTick ≤ tick

/-- The memory moves the request for an office, which has to be well-formed, from the tick of its clock on. -/
def MemoryMovesOffice (clockTick : Int) (metadata : Record) : Prop :=
  ∃ request, readOfficeRequest metadata = some request ∧ request.status = .pending ∧ clockTick ≤ request.dueTick

section

variable {texts : ClockTexts} {cutTick shiftTicks deltaMilliseconds clockTick : Int}

theorem bigint_ok {value result : Int} (accepted : bigint value = .ok result) : result = value := by
  unfold bigint at accepted
  split at accepted
  · exact (Except.ok.inj accepted).symm
  · cases accepted

theorem movedTick_ok {tick result : Option Int} (moved : movedTick shiftTicks tick = .ok result) :
    result = tick.map (· + shiftTicks) := by
  cases tick with
  | none => exact (Except.ok.inj moved).symm
  | some tick =>
    obtain ⟨later, accepted, rfl⟩ := map_ok moved
    rw [bigint_ok accepted, Option.map_some]

/-- A whole number is read back. -/
@[simp]
theorem sqlInteger?_num (value : Int) : sqlInteger? (.num value) = some value := by
  simp [sqlInteger?]

variable {row next : GeneralScheduleRow} {clock : GameClock} {milliseconds : Int}
  {turned reselected : GeneralScheduleRow} {general shifted : General}

theorem moveNextTurn_moves (moves : Moves (moveNextTurn shiftTicks deltaMilliseconds) row next) :
    next.id = row.id ∧ next.turnTick = row.turnTick.map (· + shiftTicks) ∧ next.metadata = row.metadata := by
  -- Only the tick and the instant of the turn are written.
  obtain ⟨changed, moved, rfl⟩ := moves
  unfold moveNextTurn at moved
  split at moved
  · next absent =>
    obtain rfl := Except.ok.inj moved
    simp [absent]
  · next tick given =>
    obtain ⟨turnTick, accepted, moved⟩ := bind_ok moved
    obtain ⟨turnTime, -, moved⟩ := bind_ok moved
    obtain rfl := Except.ok.inj moved
    obtain rfl := bigint_ok accepted
    simp [given]

theorem moveReselection_moves
    (moves : Moves (moveReselection texts cutTick shiftTicks deltaMilliseconds) row next) :
    (next.id = row.id ∧ next.turnTick = row.turnTick ∧
      next.metadata.get? officeRequestKey = row.metadata.get? officeRequestKey) ∧
      MovedWhen (MovesReselection cutTick row.metadata) shiftTicks (reselectionTick row.metadata)
        (reselectionTick next.metadata) := by
  -- The cases are those of the statement: no wait, one behind the cut, and one before it.
  obtain ⟨changed, moved, rfl⟩ := moves
  unfold moveReselection at moved
  split at moved
  · next absent =>
    obtain rfl := Except.ok.inj moved
    refine ⟨⟨rfl, rfl, rfl⟩, ?_, fun _ => rfl⟩
    rintro ⟨tick, given, -⟩
    exact absurd (absent.symm.trans given) (by simp)
  · next tick given =>
    have known : reselectionTick row.metadata = some tick := given
    obtain ⟨read, accepted, decided⟩ := bind_ok moved
    obtain rfl := bigint_ok accepted
    split at decided
    · next behind =>
      obtain ⟨nextTick, accepted, decided⟩ := bind_ok decided
      obtain ⟨nextChange, -, decided⟩ := bind_ok decided
      obtain ⟨nextChangeAt, -, decided⟩ := bind_ok decided
      obtain rfl := Except.ok.inj decided
      obtain rfl := bigint_ok accepted
      refine ⟨⟨rfl, rfl, ?_⟩, fun _ => ?_, fun stays => absurd ⟨read, known, behind⟩ stays⟩
      · -- The three fields that are set are not that of the request.
        simp only [Option.getD_some]
        rw [Record.get?_set_of_ne _ (by decide), Record.get?_set_of_ne _ (by decide),
          Record.get?_set_of_ne _ (by decide)]
      · rw [known, Option.map_some]
        simp only [Option.getD_some, reselectionTick]
        rw [Record.get?_set_of_ne _ (by decide), Record.get?_set_of_ne _ (by decide), Record.get?_set_self]
        exact sqlInteger?_num _
    · next before =>
      obtain rfl := Except.ok.inj decided
      refine ⟨⟨rfl, rfl, rfl⟩, ?_, fun _ => rfl⟩
      rintro ⟨tick, same, behind⟩
      obtain rfl := Option.some.inj (known.symm.trans same)
      exact absurd behind before

theorem moveOfficeRequest_moves (moves : Moves (moveOfficeRequest cutTick shiftTicks) row next) :
    (next.id = row.id ∧ next.turnTick = row.turnTick ∧ reselectionTick next.metadata = reselectionTick row.metadata) ∧
      MovedWhen (DatabaseMovesOffice cutTick row.metadata) shiftTicks (officeTick row.metadata)
        (officeTick next.metadata) := by
  -- The cases are those of the statement, and the request is written back as a whole.
  obtain ⟨changed, moved, rfl⟩ := moves
  unfold moveOfficeRequest at moved
  dsimp only at moved
  split at moved
  · next pending =>
    split at moved
    · next absent =>
      obtain rfl := Except.ok.inj moved
      refine ⟨⟨rfl, rfl, rfl⟩, ?_, fun _ => rfl⟩
      rintro ⟨-, tick, given, -⟩
      exact absurd (absent.symm.trans given) (by simp)
    · next tick given =>
      have known : officeTick row.metadata = some tick := given
      obtain ⟨read, accepted, decided⟩ := bind_ok moved
      obtain rfl := bigint_ok accepted
      split at decided
      · next behind =>
        obtain ⟨dueTick, accepted, decided⟩ := bind_ok decided
        obtain rfl := Except.ok.inj decided
        obtain rfl := bigint_ok accepted
        refine ⟨⟨rfl, rfl, ?_⟩, fun _ => ?_, fun stays => absurd ⟨pending, read, known, behind⟩ stays⟩
        · simp only [Option.getD_some, reselectionTick]
          rw [Record.get?_set_of_ne _ (by decide)]
        · rw [known, Option.map_some]
          simp only [Option.getD_some, officeTick, storedRequest]
          rw [Record.get?_set_self, Option.getD_some]
          simp only [asRecord]
          rw [Record.get?_set_self]
          exact sqlInteger?_num _
      · next before =>
        obtain rfl := Except.ok.inj decided
        refine ⟨⟨rfl, rfl, rfl⟩, ?_, fun _ => rfl⟩
        rintro ⟨-, tick, same, behind⟩
        obtain rfl := Option.some.inj (known.symm.trans same)
        exact absurd behind before
  · next settled =>
    obtain rfl := Except.ok.inj moved
    exact ⟨⟨rfl, rfl, rfl⟩, fun moves => absurd moves.1 settled, fun _ => rfl⟩

theorem readOfficeRequest_due {metadata : Record} {request : OfficeRequest}
    (read : readOfficeRequest metadata = some request) : officeTick metadata = some request.dueTick := by
  have safe : ((storedRequest metadata).get? "dueTick").bind Json.safeInteger? = some request.dueTick := by
    unfold readOfficeRequest at read
    dsimp only at read
    split at read
    · next status dueTick _ due =>
      split at read
      · obtain rfl := Option.some.inj read
        exact due
      · cases read
    · cases read
  obtain ⟨value, given, safe⟩ := Option.bind_eq_some_iff.mp safe
  unfold officeTick
  rw [given, Option.bind_some]
  -- A safe integer is a number without a fraction.
  cases value with
  | num value =>
    simp only [Json.safeInteger?] at safe
    split at safe
    · next whole => simpa [sqlInteger?, whole.1] using safe
    · cases safe
  | _ => cases safe

theorem shiftOfficeRequestDeadline_moves {metadata next : Record}
    (done : shiftOfficeRequestDeadline metadata shiftTicks (some clockTick) = .ok next) :
    reselectionTick next = reselectionTick metadata ∧
      MovedWhen (MemoryMovesOffice clockTick metadata) shiftTicks (officeTick metadata) (officeTick next) := by
  -- Only a well-formed request is looked at, and a metadata without one stays.
  unfold shiftOfficeRequestDeadline at done
  cases read : readOfficeRequest metadata with
  | none =>
    simp only [read] at done
    obtain rfl := Except.ok.inj done
    refine ⟨rfl, ?_, fun _ => rfl⟩
    rintro ⟨request, same, -⟩
    exact absurd (read.symm.trans same) (by simp)
  | some request =>
    have due := readOfficeRequest_due read
    simp only [read] at done
    split at done
    · next stays =>
      obtain rfl := Except.ok.inj done
      refine ⟨rfl, ?_, fun _ => rfl⟩
      rintro ⟨other, same, pending, behind⟩
      obtain rfl := Option.some.inj (read.symm.trans same)
      -- A request that is moved and still stays is moved by nothing.
      rcases stays with settled | ⟨cut, same, before⟩ | nothing
      · exact absurd pending settled
      · obtain rfl := Option.mem_some_iff.mp same
        omega
      · simp [nothing]
    · next moves =>
      push Not at moves
      obtain ⟨pending, behind, -⟩ := moves
      split at done
      · obtain rfl := Except.ok.inj done
        refine ⟨?_, fun _ => ?_, fun stays => absurd ⟨request, read, pending, behind clockTick rfl⟩ stays⟩
        · unfold reselectionTick
          rw [Record.get?_set_of_ne _ (by decide)]
        · rw [due, Option.map_some]
          simp only [officeTick, storedRequest]
          rw [Record.get?_set_self, Option.getD_some]
          simp only [asRecord]
          rw [Record.get?_set_self]
          exact sqlInteger?_num _
      · cases done

theorem moveReservation_moves {row next : SelectPoolRow}
    (moves : Moves (moveReservation shiftTicks deltaMilliseconds) row next) :
    next.id = row.id ∧
      MovedWhen (row.generalId = none) shiftTicks row.reservedUntilTick next.reservedUntilTick := by
  -- The statement passes by a candidate who has no tick or is a general.
  obtain ⟨changed, moved, rfl⟩ := moves
  unfold moveReservation at moved
  split at moved
  · next absent =>
    obtain rfl := Except.ok.inj moved
    exact ⟨rfl, by simp [MovedWhen, absent]⟩
  · next tick given =>
    split at moved
    · next free =>
      obtain ⟨reservedUntilTick, accepted, moved⟩ := bind_ok moved
      obtain ⟨reservedUntil, -, moved⟩ := bind_ok moved
      obtain rfl := Except.ok.inj moved
      obtain rfl := bigint_ok accepted
      exact ⟨rfl, by simp [MovedWhen, free, given]⟩
    · next taken =>
      obtain rfl := Except.ok.inj moved
      exact ⟨rfl, by simp [MovedWhen, taken]⟩

theorem shiftPoolEntry_moves {entry next : TurnGeneralPoolEntry}
    (done : shiftPoolEntry clock shiftTicks milliseconds entry = .ok next) :
    next.id = entry.id ∧ MovedWhen True shiftTicks entry.reservedUntilTick next.reservedUntilTick := by
  -- Without a tick the instant is moved alone.
  unfold shiftPoolEntry at done
  split at done
  · next tick given =>
    obtain ⟨moved, added, done⟩ := bind_ok done
    obtain ⟨date, -, done⟩ := bind_ok done
    obtain rfl := Except.ok.inj done
    obtain rfl := GameClock.addTicks_ok added
    exact ⟨rfl, by simp [MovedWhen, given]⟩
  · next absent =>
    obtain rfl := Except.ok.inj done
    exact ⟨rfl, by simp [MovedWhen, absent]⟩

/-- What a reconciliation moves of the database's tables that the memory holds as well. -/
structure TablesMoved (texts : ClockTexts) (cutTick shiftTicks deltaMilliseconds : Int) (db next : ScheduleTables) :
    Prop where
  cursor : next.worldState.lastTurnTick = db.worldState.lastTurnTick.map (· + shiftTicks)
  generals : ∃ turned reselected, MovesAll (moveNextTurn shiftTicks deltaMilliseconds) db.generals turned ∧
    MovesAll (moveReselection texts cutTick shiftTicks deltaMilliseconds) turned reselected ∧
    MovesAll (moveOfficeRequest cutTick shiftTicks) reselected next.generals
  pool : MovesAll (moveReservation shiftTicks deltaMilliseconds) db.selectPool next.selectPool

theorem applyParticipantShift_ok {alignedTick targetRevision targetGeneration resumeWallAt : Int}
    {db next : ScheduleTables} {counts : List (String × Nat)}
    (done : applyParticipantShift texts cutTick shiftTicks deltaMilliseconds alignedTick targetRevision
      targetGeneration resumeWallAt db = .ok (next, counts)) :
    TablesMoved texts cutTick shiftTicks deltaMilliseconds db next := by
  unfold applyParticipantShift at done
  obtain ⟨lastTurnTick, cursor, done⟩ := bind_ok done
  obtain ⟨turned, first, done⟩ := bind_ok done
  obtain ⟨reselected, second, done⟩ := bind_ok done
  obtain ⟨requested, third, done⟩ := bind_ok done
  -- The statements on auctions, messages and polls touch none of the rows that the memory holds.
  obtain ⟨auctions, -, done⟩ := bind_ok done
  obtain ⟨restamped, -, done⟩ := bind_ok done
  obtain ⟨expiries, -, done⟩ := bind_ok done
  obtain ⟨messages, -, done⟩ := bind_ok done
  obtain ⟨polls, -, done⟩ := bind_ok done
  obtain ⟨pool, fourth, done⟩ := bind_ok done
  obtain ⟨tokens, -, done⟩ := bind_ok done
  obtain ⟨metadata, -, done⟩ := bind_ok done
  obtain ⟨rfl, -⟩ := Prod.mk.inj (Except.ok.inj done)
  refine ⟨?_, ⟨turned.1, reselected.1, updateRows_ok first, updateRows_ok second, updateRows_ok third⟩,
    updateRows_ok fourth⟩
  exact movedTick_ok cursor

theorem generalRow_moves (first : Moves (moveNextTurn shiftTicks deltaMilliseconds) row turned)
    (second : Moves (moveReselection texts cutTick shiftTicks deltaMilliseconds) turned reselected)
    (third : Moves (moveOfficeRequest cutTick shiftTicks) reselected next) :
    next.id = row.id ∧ next.turnTick = row.turnTick.map (· + shiftTicks) ∧
      MovedWhen (MovesReselection cutTick row.metadata) shiftTicks (reselectionTick row.metadata)
        (reselectionTick next.metadata) ∧
      MovedWhen (DatabaseMovesOffice cutTick row.metadata) shiftTicks (officeTick row.metadata)
        (officeTick next.metadata) := by
  -- The statements follow one another, and each leaves what the others look at.
  obtain ⟨sameId, turn, sameMeta⟩ := moveNextTurn_moves first
  obtain ⟨⟨sameId', sameTurn, sameRequest⟩, reselection⟩ := moveReselection_moves second
  obtain ⟨⟨sameId'', sameTurn', sameWait⟩, office⟩ := moveOfficeRequest_moves third
  rw [sameMeta] at reselection sameRequest
  -- The request is still as it was when its turn comes.
  have request : storedRequest reselected.metadata = storedRequest row.metadata := by
    unfold storedRequest
    rw [sameRequest]
  have due : officeTick reselected.metadata = officeTick row.metadata := by
    unfold officeTick
    rw [request]
  have condition : DatabaseMovesOffice cutTick reselected.metadata = DatabaseMovesOffice cutTick row.metadata := by
    unfold DatabaseMovesOffice
    rw [request, due]
  rw [due, condition] at office
  exact ⟨sameId''.trans (sameId'.trans sameId), sameTurn'.trans (sameTurn.trans turn), sameWait ▸ reselection, office⟩

theorem shiftGeneral_moves (done : shiftGeneral clock shiftTicks general = .ok shifted) :
    (∃ tick, shifted.turnTick = some tick ∧ ∀ known, general.turnTick = some known → tick = known + shiftTicks) ∧
      MovedWhen False shiftTicks (reselectionTick general.metadata) (reselectionTick shifted.metadata) ∧
      MovedWhen (MemoryMovesOffice clock.tick general.metadata) shiftTicks (officeTick general.metadata)
        (officeTick shifted.metadata) := by
  -- The metadata changes by the request only, so the wait is as it was.
  rw [shiftGeneral_eq] at done
  obtain ⟨tick, next, done⟩ := bind_ok done
  obtain ⟨turnTick, added, done⟩ := bind_ok done
  obtain ⟨metadata, office, done⟩ := bind_ok done
  obtain ⟨turnTime, -, done⟩ := bind_ok done
  obtain rfl := GameClock.addTicks_ok added
  obtain rfl := Except.ok.inj done
  obtain ⟨wait, due⟩ := shiftOfficeRequestDeadline_moves office
  refine ⟨⟨_, rfl, ?_⟩, ⟨False.elim, fun _ => wait⟩, due⟩
  intro known given
  unfold nextTurnTick at next
  rw [given] at next
  rw [Except.ok.inj next]

/-! ### Agreement -/

/-- The tables have what the memory has of the fields that reconciliations look at. -/
structure SameRows (db : ScheduleTables) (world : TurnWorld) : Prop where
  cursor : db.worldState.lastTurnTick = some world.state.lastTurnTick
  generals : ∀ row ∈ db.generals, ∀ general, world.generals.rows.get? row.id = some general →
    row.turnTick = general.turnTick ∧ ∀ key ∈ [officeRequestKey, "next_change_tick"],
      row.metadata.get? key = general.metadata.get? key
  pool : ∀ entries, world.generalPoolEntries = some entries → ∀ entry ∈ entries, ∀ row ∈ db.selectPool,
    row.id = entry.id → row.reservedUntilTick = entry.reservedUntilTick

/-- Every deadline that both the tables and the memory hold is the same in both. -/
structure Agree (db : ScheduleTables) (world : TurnWorld) : Prop where
  cursor : db.worldState.lastTurnTick = some world.state.lastTurnTick
  generals : ∀ row ∈ db.generals, ∀ general, world.generals.rows.get? row.id = some general →
    row.turnTick = general.turnTick ∧ officeTick row.metadata = officeTick general.metadata ∧
      reselectionTick row.metadata = reselectionTick general.metadata
  pool : ∀ entries, world.generalPoolEntries = some entries → ∀ entry ∈ entries, ∀ row ∈ db.selectPool,
    row.id = entry.id → row.reservedUntilTick = entry.reservedUntilTick

/-- No flush of a general changes a deadline of his row. -/
def FlushesKeep (db : ScheduleTables) (world : TurnWorld) : Prop :=
  ∀ row ∈ db.generals, ∀ general, world.generals.rows.get? row.id = some general → ∀ itemInventory,
    let flushed := buildGeneralUpdate itemInventory general row
    flushed.turnTick = row.turnTick ∧ officeTick flushed.metadata = officeTick row.metadata ∧
      reselectionTick flushed.metadata = reselectionTick row.metadata

/-- Memory and database move the same deadlines of a general. -/
structure MovesSame (cutTick clockTick shiftTicks : Int) (row : GeneralScheduleRow) (general : General) : Prop where
  scheduled : general.turnTick.isSome
  reselection : shiftTicks = 0 ∨ ¬MovesReselection cutTick row.metadata
  office : shiftTicks = 0 ∨
    (DatabaseMovesOffice cutTick row.metadata ↔ MemoryMovesOffice clockTick general.metadata)

/-- Memory and database move the same deadlines of all that both hold. -/
structure MoveSame (cutTick shiftTicks : Int) (db : ScheduleTables) (world : TurnWorld) : Prop where
  generals : ∀ row ∈ db.generals, ∀ general, world.generals.rows.get? row.id = some general →
    MovesSame cutTick world.state.clock.tick shiftTicks row general
  pool : ∀ entries, world.generalPoolEntries = some entries → ∀ entry ∈ entries, ∀ row ∈ db.selectPool,
    row.id = entry.id → shiftTicks = 0 ∨ row.reservedUntilTick = none ∨ row.generalId = none

theorem general_agrees_iff (first : Moves (moveNextTurn shiftTicks deltaMilliseconds) row turned)
    (second : Moves (moveReselection texts cutTick shiftTicks deltaMilliseconds) turned reselected)
    (third : Moves (moveOfficeRequest cutTick shiftTicks) reselected next)
    (done : shiftGeneral clock shiftTicks general = .ok shifted) (turn : row.turnTick = general.turnTick)
    (same : ∀ key ∈ [officeRequestKey, "next_change_tick"], row.metadata.get? key = general.metadata.get? key) :
    (next.turnTick = shifted.turnTick ∧ officeTick next.metadata = officeTick shifted.metadata ∧
      reselectionTick next.metadata = reselectionTick shifted.metadata) ↔
      MovesSame cutTick clock.tick shiftTicks row general := by
  obtain ⟨-, turnMoved, waitMoved, dueMoved⟩ := generalRow_moves first second third
  obtain ⟨⟨tick, ticked, later⟩, waitKept, dueShifted⟩ := shiftGeneral_moves done
  have sameDue : officeTick general.metadata = officeTick row.metadata := by
    unfold officeTick storedRequest
    rw [same officeRequestKey (by simp)]
  have sameWait : reselectionTick general.metadata = reselectionTick row.metadata := by
    unfold reselectionTick
    rw [same "next_change_tick" (by simp)]
  rw [sameWait] at waitKept
  rw [sameDue] at dueShifted
  have scheduled : next.turnTick = shifted.turnTick ↔ general.turnTick.isSome := by
    rw [turnMoved, ticked, turn]
    cases given : general.turnTick with
    | none => simp
    | some known => simp [later known given]
  -- Where there is no deadline, neither side moves one.
  have waits : reselectionTick row.metadata = none → ¬MovesReselection cutTick row.metadata := by
    rintro absent ⟨tick, given, -⟩
    exact absurd (absent.symm.trans given) (by simp)
  have dues : officeTick row.metadata = none →
      (DatabaseMovesOffice cutTick row.metadata ↔ MemoryMovesOffice clock.tick general.metadata) := by
    intro absent
    constructor
    · rintro ⟨-, tick, given, -⟩
      exact absurd (absent.symm.trans given) (by simp)
    · rintro ⟨request, read, -⟩
      exact absurd (absent.symm.trans (sameDue.symm.trans (readOfficeRequest_due read))) (by simp)
  rw [scheduled, dueMoved.eq_iff dueShifted, waitMoved.eq_iff waitKept]
  constructor
  · rintro ⟨turns, due, wait⟩
    exact ⟨turns, by tauto, by tauto⟩
  · rintro ⟨turns, wait, due⟩
    exact ⟨turns, by tauto, by tauto⟩

theorem reservation_agrees_iff {row next : SelectPoolRow} {entry shifted : TurnGeneralPoolEntry}
    (moves : Moves (moveReservation shiftTicks deltaMilliseconds) row next)
    (done : shiftPoolEntry clock shiftTicks milliseconds entry = .ok shifted)
    (same : row.reservedUntilTick = entry.reservedUntilTick) :
    next.reservedUntilTick = shifted.reservedUntilTick ↔
      shiftTicks = 0 ∨ row.reservedUntilTick = none ∨ row.generalId = none := by
  have later := (shiftPoolEntry_moves done).2
  rw [← same] at later
  rw [(moveReservation_moves moves).2.eq_iff later, iff_true]

end

section

variable {texts : ClockTexts} {cutTick deltaMilliseconds resumeWallAt : Int} {db db' : ScheduleTables}
  {counts : List (String × Nat)} {world world' : TurnWorld} {input : DurableClockReconciliationAlignment}

theorem get?_normalize {record : Record} {key : String} (other : key ∉ legacyIntegerGeneralMetaKeys) :
    (normalizeGeneralMetaDatabaseIntegers record).get? key = record.get? key := by
  unfold normalizeGeneralMetaDatabaseIntegers Record.get?
  induction record with
  | nil => rfl
  | cons field rest ih =>
    obtain ⟨name, value⟩ := field
    rw [List.map_cons, List.lookup_cons, List.lookup_cons, ih]
    -- A field keeps its name, and its value if the name is none of those.
    cases value with
    | num value =>
      by_cases integer : name ∈ legacyIntegerGeneralMetaKeys
      · have differs : (key == name) = false := by
          rw [beq_eq_false_iff_ne]
          rintro rfl
          exact other integer
        simp [integer, differs]
      · simp [integer]
    | _ => rfl

theorem persisted_deadlines (itemInventory : Json) (metadata : Record) :
    officeTick (buildPersistedGeneralMeta itemInventory metadata) = officeTick metadata ∧
      reselectionTick (buildPersistedGeneralMeta itemInventory metadata) = reselectionTick metadata := by
  -- Neither field is the inventory or one of those that are rounded.
  unfold officeTick storedRequest reselectionTick buildPersistedGeneralMeta
  rw [get?_normalize (by decide), get?_normalize (by decide), Record.get?_set_of_ne _ (by decide),
    Record.get?_set_of_ne _ (by decide)]
  exact ⟨rfl, rfl⟩

theorem moveSame_of_agree (same : SameRows db world)
    (tables : TablesMoved texts cutTick input.shiftTicks deltaMilliseconds db db')
    (realigned : Realigned world world' input) (agree : Agree db' world') :
    MoveSame cutTick input.shiftTicks db world := by
  obtain ⟨-, ⟨turned, reselected, first, second, third⟩, pool⟩ := tables
  constructor
  · intro row listed general held
    -- The row and the general are followed through what is made of them.
    obtain ⟨row₁, listed₁, moves₁⟩ := first.forward row listed
    obtain ⟨row₂, listed₂, moves₂⟩ := second.forward row₁ listed₁
    obtain ⟨next, listed', moves₃⟩ := third.forward row₂ listed₂
    obtain ⟨shifted, done, held'⟩ := realigned.generals row.id general held
    have sameId := (generalRow_moves moves₁ moves₂ moves₃).1
    obtain ⟨turn, keys⟩ := same.generals row listed general held
    have agrees := agree.generals next listed' shifted (sameId ▸ held')
    exact (general_agrees_iff moves₁ moves₂ moves₃ done turn keys).mp agrees
  · intro entries given entry member row listed named
    obtain ⟨shifted, done, given'⟩ := realigned.pool entries given
    obtain ⟨entry', member', moved⟩ := (mapM_ok_mem done).1 entry member
    obtain ⟨next, listed', moves⟩ := pool.forward row listed
    have named' : next.id = entry'.id := by
      rw [(moveReservation_moves moves).1, (shiftPoolEntry_moves moved).1, named]
    have agrees := agree.pool shifted given' entry' member' next listed' named'
    exact (reservation_agrees_iff moves moved (same.pool entries given entry member row listed named)).mp agrees

theorem agree_of_moveSame (same : SameRows db world)
    (tables : TablesMoved texts cutTick input.shiftTicks deltaMilliseconds db db')
    (realigned : Realigned world world' input) (moveSame : MoveSame cutTick input.shiftTicks db world) :
    Agree db' world' := by
  obtain ⟨cursor, ⟨turned, reselected, first, second, third⟩, pool⟩ := tables
  constructor
  · rw [cursor, same.cursor, Option.map_some, realigned.cursor]
  · intro next listed' shifted held'
    -- Every row and every general afterwards comes from one that was there before.
    obtain ⟨row₂, listed₂, moves₃⟩ := third.backward next listed'
    obtain ⟨row₁, listed₁, moves₂⟩ := second.backward row₂ listed₂
    obtain ⟨row, listed, moves₁⟩ := first.backward row₁ listed₁
    have sameId := (generalRow_moves moves₁ moves₂ moves₃).1
    obtain ⟨general, held, done⟩ := realigned.origin (sameId ▸ held')
    obtain ⟨turn, keys⟩ := same.generals row listed general held
    exact (general_agrees_iff moves₁ moves₂ moves₃ done turn keys).mpr (moveSame.generals row listed general held)
  · intro entries' given' entry' member' next listed' named'
    obtain ⟨entries, given, entry, member, moved⟩ := realigned.poolOrigin given' member'
    obtain ⟨row, listed, moves⟩ := pool.backward next listed'
    have named : row.id = entry.id := by
      rw [← (moveReservation_moves moves).1, ← (shiftPoolEntry_moves moved).1, named']
    exact (reservation_agrees_iff moves moved (same.pool entries given entry member row listed named)).mpr
      (moveSame.pool entries given entry member row listed named)

theorem flushesKeep_of_agree (realigned : Realigned world world' input) (agree : Agree db' world') :
    FlushesKeep db' world' := by
  intro row listed shifted held itemInventory
  -- A general that has been shifted has a tick, so the flush writes no other one.
  obtain ⟨general, -, done⟩ := realigned.origin held
  obtain ⟨⟨tick, ticked, -⟩, -⟩ := shiftGeneral_moves done
  obtain ⟨turn, due, wait⟩ := agree.generals row listed shifted held
  obtain ⟨sameDue, sameWait⟩ := persisted_deadlines itemInventory shifted.metadata
  refine ⟨?_, sameDue.trans due.symm, sameWait.trans wait.symm⟩
  rw [turn, ticked]
  simp only [buildGeneralUpdate, ticked, Option.getD_some]

/--
Memory and database that were the same agree after a reconciliation exactly when both move the same deadlines.

Then no flush of a general takes anything back. A general's wait before he may be selected anew is moved in the
database only.
-/
theorem agree_iff (same : SameRows db world) (source : world.state.clock.revision = input.sourceRevision)
    (target : input.targetRevision = input.sourceRevision + 1)
    (persisted : applyParticipantShift texts cutTick input.shiftTicks deltaMilliseconds input.alignedTick
      input.targetRevision input.deadlineGeneration resumeWallAt db = .ok (db', counts))
    (followed : (applyDurableClockReconciliation input).perform world = (.ok ⟨⟩, world')) :
    Agree db' world' ∧ FlushesKeep db' world' ↔ MoveSame cutTick input.shiftTicks db world := by
  have tables := applyParticipantShift_ok persisted
  obtain ⟨-, applied⟩ := (applyDurableClockReconciliation_ok_iff source target).mp followed
  obtain ⟨-, -, realigned⟩ := applyClockReconciliationAlignment_ok applied
  constructor
  · rintro ⟨agree, -⟩
    exact moveSame_of_agree same tables realigned agree
  · intro moveSame
    have agree := agree_of_moveSame same tables realigned moveSame
    exact ⟨agree, flushesKeep_of_agree realigned agree⟩

end

/-! ### A general who waits, and one who does not -/

/-- A world with one general of some metadata. -/
def worldOf (metadata : Record) : TurnWorld :=
  { InMemoryTurnWorld.opening.toTurnWorld with
    generals := .clean (.ofEntries [(1, { storedProbe InMemoryTurnWorld.openingClock 0 with metadata })]) }

/-- The tables of that world. -/
def tablesOf (metadata : Record) : ScheduleTables where
  worldState := ⟨some 0, some 0, some 0, .suspended, 1, 1, .obj []⟩
  generals := [⟨1, some 0, 0, metadata⟩]
  auctions := []
  messageActions := []
  messages := []
  votePolls := []
  selectPool := []
  npcSelectionTokens := []

/-- A reconciliation by five thousand ticks. -/
def laterByFiveThousand : DurableClockReconciliationAlignment where
  suspensionId := "maintenance"
  sourceRevision := 1
  targetRevision := 2
  deadlineGeneration := 2
  alignedTick := 5000
  shiftTicks := 5000
  resumeWallAt := 0
  resumeAnchor := none
  recovery := none
  positiveTarget := by decide
  validAnchor := by decide
  validRecovery := noWindow_valid

/-- Texts of instants that are written as they were read. -/
def plainTexts : ClockTexts := ⟨fun text _ => some text, fun _ => none, fun _ => ""⟩

/-- The metadata of a general who waits before he may be selected anew. -/
def waiting : Record :=
  [("next_change_tick", .num 100), ("next_change", .str "2026-09-03 10:00:00"),
    ("nextChangeAt", .str "2026-09-03 10:00:00")]

theorem sameRows_of (metadata : Record) : SameRows (tablesOf metadata) (worldOf metadata) where
  cursor := rfl
  generals := by
    intro row listed general held
    obtain rfl := List.mem_singleton.mp listed
    obtain rfl := Option.some.inj held
    exact ⟨rfl, fun _ _ => rfl⟩
  pool := by
    intro entries given
    cases given

theorem worldOf_follows (metadata : Record) (none_ : readOfficeRequest metadata = none) :
    ∃ next, (applyDurableClockReconciliation laterByFiveThousand).perform (worldOf metadata) = (.ok ⟨⟩, next) ∧
      Realigned (worldOf metadata) next laterByFiveThousand := by
  -- All deadlines are those of the one general, at tick zero.
  have safeDelta : isSafeInteger ((5000 * 1000 : Int).tdiv InMemoryTurnWorld.openingClock.ticksPerSecond) := by decide
  have shown : InMemoryTurnWorld.openingClock.tickToDate 5000 = .ok 500 := rfl
  have fits : ShiftFits (worldOf metadata) 5000 :=
    { milliseconds := safeDelta
      cursor := ⟨500, shown⟩
      generals := by
        intro id general held
        have member : (id, general) ∈ [((1 : Int), { storedProbe InMemoryTurnWorld.openingClock 0 with metadata })] :=
          OrderedMap.mem_entries.mpr held
        obtain ⟨-, rfl⟩ := Prod.mk.inj (List.mem_singleton.mp member)
        refine ⟨⟨0, rfl, 500, shown⟩, metadata, ?_⟩
        simp only [shiftOfficeRequestDeadline, none_]
      pool := by
        intro entries given
        cases given
      checkpoint := by
        intro checkpoint given
        cases given }
  have safe : SafeCoordinates laterByFiveThousand := by
    unfold SafeCoordinates
    decide
  obtain ⟨next, applied⟩ := applyClockReconciliationAlignment_of_fits safe fits
  obtain ⟨-, -, realigned⟩ := applyClockReconciliationAlignment_ok applied
  exact ⟨next, (applyDurableClockReconciliation_ok_iff rfl rfl).mpr ⟨.inl rfl, applied⟩, realigned⟩

/-- The wait of a general is five thousand ticks longer in the database, and as long as it was in memory. -/
theorem waiting_disagrees :
    SameRows (tablesOf waiting) (worldOf waiting) ∧ ∃ db' counts world',
      applyParticipantShift plainTexts 0 5000 500 5000 2 2 0 (tablesOf waiting) = .ok (db', counts) ∧
      (applyDurableClockReconciliation laterByFiveThousand).perform (worldOf waiting) = (.ok ⟨⟩, world') ∧
      ¬Agree db' world' ∧ ¬FlushesKeep db' world' := by
  obtain ⟨world', followed, realigned⟩ := worldOf_follows waiting rfl
  obtain ⟨shifted, moved, held⟩ := realigned.generals 1 _ rfl
  -- The memory keeps the wait as it was.
  obtain ⟨-, ⟨-, kept⟩, -⟩ := shiftGeneral_moves moved
  have here : reselectionTick shifted.metadata = some 100 := kept id
  refine ⟨sameRows_of waiting, _, _, world', rfl, followed, fun agree => ?_, fun keeps => ?_⟩
  · obtain ⟨-, -, wait⟩ := agree.generals _ List.mem_cons_self shifted held
    exact absurd (wait.trans here) (by decide)
  · obtain ⟨-, -, wait⟩ := keeps _ List.mem_cons_self shifted held .null
    have flushed := (persisted_deadlines .null shifted.metadata).2.trans here
    exact absurd (flushed.symm.trans wait) (by decide)

/-- The deadlines of a general who does not wait are the same in both. -/
theorem resting_agrees :
    ∃ db' counts world',
      applyParticipantShift plainTexts 0 5000 500 5000 2 2 0 (tablesOf []) = .ok (db', counts) ∧
      (applyDurableClockReconciliation laterByFiveThousand).perform (worldOf []) = (.ok ⟨⟩, world') ∧
      Agree db' world' ∧ FlushesKeep db' world' := by
  obtain ⟨world', followed, -⟩ := worldOf_follows [] rfl
  have persisted : applyParticipantShift plainTexts 0 laterByFiveThousand.shiftTicks 500
      laterByFiveThousand.alignedTick laterByFiveThousand.targetRevision laterByFiveThousand.deadlineGeneration 0
      (tablesOf []) = .ok (_, _) := rfl
  refine ⟨_, _, world', persisted, followed, ?_⟩
  -- There is no wait and no request, so there is nothing that only one side could move.
  refine (agree_iff (sameRows_of []) rfl rfl persisted followed).mpr ⟨?_, ?_⟩
  · intro row listed general held
    obtain rfl := List.mem_singleton.mp listed
    obtain rfl := Option.some.inj held
    refine ⟨rfl, .inr ?_, .inr ⟨?_, ?_⟩⟩
    · rintro ⟨tick, given, -⟩
      cases given
    · rintro ⟨pending, -⟩
      cases pending
    · rintro ⟨request, read, -⟩
      cases read
  · intro entries given
    cases given

end Sammo.ClockReconciliation
