import Sammo.Time.GameClockLaws
import Sammo.World.Operations

/-! The dates that a flush projects again from the stored ticks after a change of the turn term. -/

namespace Sammo.TermReprojection

/-! ### The rows -/

/-- An auction. -/
structure Auction where
  closeTick : Option Int
  closeAt : Int
  updatedAt : Int

/-- A message. -/
structure Message where
  timeTick : Option Int
  time : Int
  validUntilTick : Option Int
  validUntil : Int

/-- A vote. -/
structure VotePoll where
  startTick : Option Int
  startAt : Int
  endTick : Option Int
  endAt : Option Int

/-- An entry of the selection pool. -/
structure SelectPoolEntry where
  reservedUntilTick : Option Int
  reservedUntil : Option Int

/-- A token for the selection of an NPC. -/
structure NpcSelectionToken where
  validUntilTick : Option Int
  validUntil : Int
  pickMoreFromTick : Option Int
  pickMoreFrom : Int

/-- The tables whose dates are projected again. -/
structure Tables where
  auctions : List Auction
  messages : List Message
  votePolls : List VotePoll
  selectPool : List SelectPoolEntry
  npcTokens : List NpcSelectionToken

/-- What a flush knows of the turn term. -/
structure TurnTerm where
  tickSeconds : Nat
  persistedTickSeconds : Nat
  clockBaseTime : Option Int
  lastTurnTime : Int
  completedCommand : Option String

/-! ### The flush -/

/-- The date of a tick, as a query computes it: integer divisions and remainders are cut towards zero. -/
def projectTick (baseTime ticksPerSecond tick : Int) : Int :=
  baseTime + tick.tdiv ticksPerSecond * 1000 + (tick.tmod ticksPerSecond * 1000).tdiv ticksPerSecond

/-- A column keeps its date where the row has no tick for it. -/
def reprojectDate (baseTime ticksPerSecond : Int) (tick : Option Int) (date : Int) : Int :=
  tick.elim date (projectTick baseTime ticksPerSecond)

/-- So does a column that may have no date. -/
def reprojectDate? (baseTime ticksPerSecond : Int) (tick date : Option Int) : Option Int :=
  tick.elim date fun tick => some (projectTick baseTime ticksPerSecond tick)

variable (baseTime ticksPerSecond now : Int)

/-- The update of an auction. -/
def Auction.reproject (row : Auction) : Auction :=
  if row.closeTick.isSome then
    { row with closeAt := reprojectDate baseTime ticksPerSecond row.closeTick row.closeAt, updatedAt := now }
  else row

/-- The update of a message. -/
def Message.reproject (row : Message) : Message :=
  if row.timeTick.isSome ∨ row.validUntilTick.isSome then
    { row with
      time := reprojectDate baseTime ticksPerSecond row.timeTick row.time
      validUntil := reprojectDate baseTime ticksPerSecond row.validUntilTick row.validUntil }
  else row

/-- The update of a vote. -/
def VotePoll.reproject (row : VotePoll) : VotePoll :=
  if row.startTick.isSome ∨ row.endTick.isSome then
    { row with
      startAt := reprojectDate baseTime ticksPerSecond row.startTick row.startAt
      endAt := reprojectDate? baseTime ticksPerSecond row.endTick row.endAt }
  else row

/-- The update of an entry of the selection pool. -/
def SelectPoolEntry.reproject (row : SelectPoolEntry) : SelectPoolEntry :=
  if row.reservedUntilTick.isSome then
    { row with reservedUntil := reprojectDate? baseTime ticksPerSecond row.reservedUntilTick row.reservedUntil }
  else row

/-- The update of a token. -/
def NpcSelectionToken.reproject (row : NpcSelectionToken) : NpcSelectionToken :=
  if row.validUntilTick.isSome ∨ row.pickMoreFromTick.isSome then
    { row with
      validUntil := reprojectDate baseTime ticksPerSecond row.validUntilTick row.validUntil
      pickMoreFrom := reprojectDate baseTime ticksPerSecond row.pickMoreFromTick row.pickMoreFrom }
  else row

/-- The five updates. -/
def Tables.reproject (tables : Tables) : Tables where
  auctions := tables.auctions.map (Auction.reproject baseTime ticksPerSecond now)
  messages := tables.messages.map (Message.reproject baseTime ticksPerSecond)
  votePolls := tables.votePolls.map (VotePoll.reproject baseTime ticksPerSecond)
  selectPool := tables.selectPool.map (SelectPoolEntry.reproject baseTime ticksPerSecond)
  npcTokens := tables.npcTokens.map (NpcSelectionToken.reproject baseTime ticksPerSecond)

/-- The part of a flush that follows a change of the turn term, unless a command has already made the updates. -/
def persistChanges (term : TurnTerm) (now : Int) (tables : Tables) : Except String Tables :=
  if term.tickSeconds ≠ term.persistedTickSeconds ∧ term.completedCommand ≠ some "updateRuntimeSettings" then
    -- A rate that is not whole is no big integer.
    if term.tickSeconds ∣ gameTicksPerTurn then
      .ok (tables.reproject (term.clockBaseTime.getD term.lastTurnTime)
        (gameTicksPerTurn / term.tickSeconds : Nat) now)
    else .error "The number cannot be converted to a BigInt because it is not an integer"
  else .ok tables

/-! ### The columns -/

/-- A tick column with its date column. -/
structure Stamp where
  tick : Option Int
  date : Option Int

/-- The columns of an auction. -/
def Auction.stamps (row : Auction) : List Stamp := [⟨row.closeTick, some row.closeAt⟩]

/-- The columns of a message. -/
def Message.stamps (row : Message) : List Stamp :=
  [⟨row.timeTick, some row.time⟩, ⟨row.validUntilTick, some row.validUntil⟩]

/-- The columns of a vote. -/
def VotePoll.stamps (row : VotePoll) : List Stamp := [⟨row.startTick, some row.startAt⟩, ⟨row.endTick, row.endAt⟩]

/-- The columns of an entry of the selection pool. -/
def SelectPoolEntry.stamps (row : SelectPoolEntry) : List Stamp := [⟨row.reservedUntilTick, row.reservedUntil⟩]

/-- The columns of a token. -/
def NpcSelectionToken.stamps (row : NpcSelectionToken) : List Stamp :=
  [⟨row.validUntilTick, some row.validUntil⟩, ⟨row.pickMoreFromTick, some row.pickMoreFrom⟩]

/-- All the columns of the tables. -/
def Tables.stamps (tables : Tables) : List Stamp :=
  tables.auctions.flatMap Auction.stamps ++ tables.messages.flatMap Message.stamps ++
    tables.votePolls.flatMap VotePoll.stamps ++ tables.selectPool.flatMap SelectPoolEntry.stamps ++
    tables.npcTokens.flatMap NpcSelectionToken.stamps

/-- A tick and its date denote the same instant of a clock, if the clock has one for the tick. -/
def Stamp.Agrees (clock : GameClock) (stamp : Stamp) : Prop :=
  ∀ tick date, stamp.tick = some tick → clock.tickToDate tick = .ok date → stamp.date = some date

/-- What an update makes of a column: the date of its tick, if it has one. -/
def Stamp.reproject (stamp : Stamp) : Stamp :=
  { stamp with date := reprojectDate? baseTime ticksPerSecond stamp.tick stamp.date }

/-! ### What the updates do -/

theorem flatMap_stamps {Row : Type} {update : Row → Row} {stamps : Row → List Stamp} {change : Stamp → Stamp}
    (rowwise : ∀ row, stamps (update row) = (stamps row).map change) (rows : List Row) :
    (rows.map update).flatMap stamps = (rows.flatMap stamps).map change := by
  rw [List.flatMap_map, List.map_flatMap]
  exact congrArg (fun stamps => rows.flatMap stamps) (funext rowwise)

theorem stamps_reproject (tables : Tables) : (tables.reproject baseTime ticksPerSecond now).stamps =
    tables.stamps.map (Stamp.reproject baseTime ticksPerSecond) := by
  simp only [Tables.stamps, Tables.reproject, List.map_append]
  -- A row without a tick is not updated, and its columns would stay as they are.
  congr 1
  · congr 1
    · congr 1
      · congr 1
        · refine flatMap_stamps (fun row => ?_) tables.auctions
          obtain ⟨closeTick, closeAt, updatedAt⟩ := row
          cases closeTick <;> rfl
        · refine flatMap_stamps (fun row => ?_) tables.messages
          obtain ⟨timeTick, time, validUntilTick, validUntil⟩ := row
          cases timeTick <;> cases validUntilTick <;> rfl
      · refine flatMap_stamps (fun row => ?_) tables.votePolls
        obtain ⟨startTick, startAt, endTick, endAt⟩ := row
        cases startTick <;> cases endTick <;> rfl
    · refine flatMap_stamps (fun row => ?_) tables.selectPool
      obtain ⟨reservedUntilTick, reservedUntil⟩ := row
      cases reservedUntilTick <;> rfl
  · refine flatMap_stamps (fun row => ?_) tables.npcTokens
    obtain ⟨validUntilTick, validUntil, pickMoreFromTick, pickMoreFrom⟩ := row
    cases validUntilTick <;> cases pickMoreFromTick <;> rfl

variable {baseTime ticksPerSecond}

theorem projectTick_eq (tick : Int) (positive : 0 < ticksPerSecond) :
    projectTick baseTime ticksPerSecond tick = baseTime + (tick * 1000).tdiv ticksPerSecond := by
  have rest : tick.tmod ticksPerSecond = tick - tick.tdiv ticksPerSecond * ticksPerSecond := by
    have parts := Int.tmod_add_tdiv_mul tick ticksPerSecond
    omega
  rw [projectTick, rest, Int.add_assoc, GameClock.tdiv_parts tick positive (by decide)]

variable (clock : GameClock)

theorem projectTick_eq_tickToDate {tick date : Int} (converted : clock.tickToDate tick = .ok date) :
    projectTick clock.baseTime clock.ticksPerSecond tick = date ↔ 0 ≤ tick ∨ clock.ticksPerSecond ∣ tick * 1000 := by
  have positive := clock.ticksPerSecond_pos
  rw [projectTick_eq tick positive, GameClock.tickToDate_ok converted, Int.tdiv_eq_ediv,
    Int.sign_eq_one_of_pos positive]
  split
  · rename_i whole
    exact ⟨fun _ => whole.imp_left fun later => by omega, fun _ => by omega⟩
  · -- Cut towards zero, a negative offset ends a millisecond later than cut downwards.
    rename_i cut
    exact ⟨fun same => by omega, fun whole => absurd (whole.imp_left fun later => by omega) cut⟩

/--
After a change of the turn term every date agrees with its tick exactly when no tick before the opening falls between
two milliseconds.
-/
theorem reprojected_dates_agree (term : TurnTerm) (now : Int) (before : Tables)
    (base : clock.baseTime = term.clockBaseTime.getD term.lastTurnTime)
    (length : clock.turnSeconds = term.tickSeconds) (changed : term.tickSeconds ≠ term.persistedTickSeconds)
    (flushed : term.completedCommand ≠ some "updateRuntimeSettings") :
    ∃ after, persistChanges term now before = .ok after ∧
      ((∀ stamp ∈ after.stamps, stamp.Agrees clock) ↔
        ∀ stamp ∈ before.stamps, ∀ tick date, stamp.tick = some tick → clock.tickToDate tick = .ok date →
          0 ≤ tick ∨ clock.ticksPerSecond ∣ tick * 1000) := by
  have whole : term.tickSeconds ∣ gameTicksPerTurn := length ▸ clock.divides
  have rate : ((gameTicksPerTurn / term.tickSeconds : Nat) : Int) = clock.ticksPerSecond := by
    rw [GameClock.ticksPerSecond, length]
  refine ⟨before.reproject clock.baseTime clock.ticksPerSecond now, ?_, ?_⟩
  · rw [persistChanges, if_pos ⟨changed, flushed⟩, if_pos whole, rate, base]
  · rw [stamps_reproject, List.forall_mem_map]
    refine forall₂_congr fun stamp _ => forall₂_congr fun tick date => ?_
    -- The update has put the date of the query into the column of the tick.
    refine forall₂_congr fun ticked converted => ?_
    have ticked_ : stamp.tick = some tick := ticked
    rw [← projectTick_eq_tickToDate clock converted, Stamp.reproject, ticked_]
    exact Option.some_inj

/-- Turns of two hours have become turns of an hour. -/
def shortened : TurnTerm := ⟨3600, 7200, some 0, 0, none⟩

/-- A message alone. -/
def messageAt (tick time : Int) : Tables := ⟨[], [⟨some tick, time, none, 0⟩], [], [], []⟩

/-- A message of a whole second before the opening is put to that second. -/
theorem reprojected_dates_agree_second : ∃ after,
    persistChanges shortened 0 (messageAt (-10000) (-2000)) = .ok after ∧
    ∀ stamp ∈ after.stamps, stamp.Agrees InMemoryTurnWorld.openingClock := by
  obtain ⟨after, flushed, agree⟩ := reprojected_dates_agree InMemoryTurnWorld.openingClock shortened 0
    (messageAt (-10000) (-2000)) rfl rfl (by decide) (by decide)
  refine ⟨after, flushed, agree.mpr fun stamp member tick date ticked _ => .inr ?_⟩
  have rows : stamp = ⟨some (-10000), some (-2000)⟩ ∨ stamp = ⟨none, some 0⟩ := by
    simpa [messageAt, Tables.stamps, Message.stamps] using member
  rcases rows with rfl | rfl
  · obtain rfl := Option.some.inj ticked
    decide
  · cases ticked

/-- A message of a millisecond before the opening is put to the opening, where its tick is not shown. -/
theorem reprojected_dates_differ :
    InMemoryTurnWorld.openingClock.tickToDate (-5) = .ok (-1) ∧
    persistChanges shortened 0 (messageAt (-5) (-1)) = .ok (messageAt (-5) 0) ∧
    ¬ ∀ stamp ∈ (messageAt (-5) 0).stamps, stamp.Agrees InMemoryTurnWorld.openingClock := by
  have shown : InMemoryTurnWorld.openingClock.tickToDate (-5) = .ok (-1) := rfl
  refine ⟨shown, rfl, fun agree => ?_⟩
  have dated := agree ⟨some (-5), some 0⟩ (by simp [messageAt, Tables.stamps, Message.stamps]) (-5) (-1) rfl shown
  exact absurd (Option.some.inj dated) (by decide)

end Sammo.TermReprojection
