import Mathlib.Algebra.Order.Floor.Ring
import Mathlib.Data.Rat.Floor
import Mathlib.Tactic.Linarith
import Mathlib.Tactic.Ring
import Sammo.Time.GameClockLaws
import Sammo.Turns.TurnProcessor
import Sammo.World.Operations
import Sammo.World.ScheduleOperations

/-! The boundaries of the months, counted out on the days of the wall, against the turns of the clock. -/

namespace Sammo

open Effect TurnWorld

/-- The boundary at which the daemon lets the next month begin. -/
def nextMonthTime (zoneMinutes : Int) (state : TurnWorldState) : Int :=
  getNextTickTime zoneMinutes state.lastTurnTime (max 1 (roundHalfUp ((state.clock.turnSeconds : ℚ) / 60)))

/-- The steps that move the boundaries of the months. -/
inductive ScheduleStep where
  | advanceMonth
  | changeTurnTerm (tickMinutes wallNow : Int)
  | shiftSchedule (deltaMinutes : Int)
  deriving DecidableEq

namespace ScheduleStep

/-- Takes a step; a month begins at the boundary the daemon has found. -/
def run (options : WorldOptions) : ScheduleStep → WorldM Unit
  | .advanceMonth => do
    let world ← get
    TurnWorld.advanceMonth options (nextMonthTime options.zoneMinutes world.state)
  | .changeTurnTerm tickMinutes wallNow => discard (TurnWorld.changeTurnTerm tickMinutes wallNow)
  | .shiftSchedule deltaMinutes => discard (TurnWorld.shiftSchedule deltaMinutes)

/-- The world after a step, whether it succeeded or not. -/
def after (options : WorldOptions) (world : TurnWorld) (step : ScheduleStep) : TurnWorld :=
  ((step.run options).perform world).2

end ScheduleStep

/-- The world after steps one after another. -/
def afterSteps (options : WorldOptions) (start : TurnWorld) (steps : List ScheduleStep) : TurnWorld :=
  steps.foldl (ScheduleStep.after options) start

/-- Every month of a run begins at a whole number of turns, one turn after the month before it. -/
def BoundariesOnTicks (options : WorldOptions) (start : TurnWorld) (steps : List ScheduleStep) : Prop :=
  ∀ earlier later next, steps = earlier ++ .advanceMonth :: later →
    (ScheduleStep.advanceMonth.run options).perform (afterSteps options start earlier) = (.ok (), next) →
    next.state.lastTurnTick % gameTicksPerTurn = 0 ∧
      next.state.lastTurnTick = (afterSteps options start earlier).state.lastTurnTick + gameTicksPerTurn

/-- An instant a whole number of turns after the one in the night from which its months are counted out. -/
def OnDayGrid (zoneMinutes termMinutes instant : Int) : Prop :=
  termMinutes * 60000 ∣ instant - getCutTurnBase zoneMinutes instant

instance (zoneMinutes termMinutes instant : Int) : Decidable (OnDayGrid zoneMinutes termMinutes instant) :=
  inferInstanceAs (Decidable (_ ∣ _))

/-- A world that opens on the grid of the days, with turns of whole minutes that fill a day. -/
structure OpensOnGrid (zoneMinutes : Int) (state : TurnWorldState) : Prop where
  lastTurnTick : state.lastTurnTick = 0
  lastTurnTime : state.lastTurnTime = state.clock.baseTime
  minutes : 60 ∣ state.clock.turnSeconds
  fillsDay : state.clock.turnSeconds / 60 ∣ 1440
  onGrid : OnDayGrid zoneMinutes ((state.clock.turnSeconds / 60 : Nat) : Int) state.clock.baseTime

/--
Whether a step leaves the turns on the grid of the days, judged before it is taken.

A new turn length has to fill a day, and the turn under way, redrawn with that length around the instant that is
shown, has to begin on the new grid.
-/
def ScheduleStep.StaysOnGrid (zoneMinutes : Int) (clock : GameClock) : ScheduleStep → Prop
  | .advanceMonth => True
  | .shiftSchedule _ => True
  | .changeTurnTerm tickMinutes wallNow =>
    (clock.turnSeconds : Int) = tickMinutes * 60 ∨
      tickMinutes ∣ 1440 ∧ ∀ tick shown, clock.nowTick (max wallNow clock.wallAnchor) = .ok tick →
        clock.tickToDate tick = .ok shown →
        OnDayGrid zoneMinutes tickMinutes (shown - tick * (tickMinutes * 60000) / gameTicksPerTurn)

/-- Every step of a run stays on the grid of the days. -/
def StepsStayOnGrid (options : WorldOptions) : TurnWorld → List ScheduleStep → Prop
  | _, [] => True
  | world, step :: rest => step.StaysOnGrid options.zoneMinutes world.state.clock ∧
      StepsStayOnGrid options (step.after options world) rest

section Grid

variable {zoneMinutes termMinutes instant : Int}

theorem onDayGrid_iff (fillsDay : termMinutes ∣ 1440) :
    OnDayGrid zoneMinutes termMinutes instant ↔
      termMinutes * 60000 ∣ instant + zoneMinutes * 60000 - 3600000 := by
  -- The bases of two days are whole days apart, and a day is a whole number of turns.
  have day : termMinutes * 60000 ∣ 86400000 := by
    have scaled := Int.mul_dvd_mul_right 60000 fillsDay
    exact scaled
  unfold OnDayGrid getCutTurnBase
  have moved : instant - (((instant + zoneMinutes * 60000) / 86400000 - 1) * 86400000 + 3600000 -
      zoneMinutes * 60000) = instant + zoneMinutes * 60000 - 3600000 -
        ((instant + zoneMinutes * 60000) / 86400000 - 1) * 86400000 := by ring
  rw [moved]
  exact dvd_sub_left (Dvd.dvd.mul_left day _)

theorem getNextTickTime_of_onGrid (positive : 0 < termMinutes)
    (onGrid : OnDayGrid zoneMinutes termMinutes instant) :
    getNextTickTime zoneMinutes instant termMinutes = instant + termMinutes * 60000 := by
  obtain ⟨turns, apart⟩ := onGrid
  have elapsed : (instant - getCutTurnBase zoneMinutes instant) / 60000 = termMinutes * turns := by
    rw [apart, show termMinutes * 60000 * turns = termMinutes * turns * 60000 by ring]
    exact Int.mul_ediv_cancel _ (by decide)
  have whole : termMinutes * turns % termMinutes = 0 := Int.mul_emod_right _ _
  unfold getNextTickTime
  simp only [elapsed, whole]
  linarith

end Grid

theorem roundHalfUp_minutes (minutes : Int) : roundHalfUp (((minutes * 60 : Int) : ℚ) / 60) = minutes := by
  unfold roundHalfUp
  rw [Int.floor_eq_iff]
  push_cast
  constructor
  · linarith
  · linarith

/-- The turns of the clock and the months of the days share their boundaries, and the last turn is at one of them. -/
structure OnBoundary (zoneMinutes : Int) (state : TurnWorldState) (minutes turns : Int) : Prop where
  positive : 0 < minutes
  term : (state.clock.turnSeconds : Int) = minutes * 60
  fillsDay : minutes ∣ 1440
  onGrid : OnDayGrid zoneMinutes minutes state.clock.baseTime
  lastTurnTick : state.lastTurnTick = turns * gameTicksPerTurn
  lastTurnTime : state.lastTurnTime = state.clock.baseTime + turns * (minutes * 60000)

/-- The last turn of a world is at a boundary of the turns and of the months. -/
def AtBoundary (zoneMinutes : Int) (state : TurnWorldState) : Prop :=
  ∃ minutes turns, OnBoundary zoneMinutes state minutes turns

namespace GameClock

variable {clock : GameClock} {minutes : Int}

theorem rate_mul_minutes (term : (clock.turnSeconds : Int) = minutes * 60) :
    clock.ticksPerSecond * (minutes * 60) = gameTicksPerTurn := by
  rw [← term]
  exact clock.ticksPerSecond_mul

theorem tickToDate_turns {turns date : Int} (term : (clock.turnSeconds : Int) = minutes * 60)
    (shown : clock.tickToDate (turns * gameTicksPerTurn) = .ok date) :
    date = clock.baseTime + turns * (minutes * 60000) := by
  have positive := clock.ticksPerSecond_pos
  rw [tickToDate_ok shown, ← rate_mul_minutes term]
  have exactly : turns * (clock.ticksPerSecond * (minutes * 60)) * 1000 =
      turns * (minutes * 60000) * clock.ticksPerSecond := by ring
  rw [exactly, Int.mul_ediv_cancel _ positive.ne']

theorem dateToTick_turns {turns tick : Int} (term : (clock.turnSeconds : Int) = minutes * 60)
    (converted : clock.dateToTick (clock.baseTime + turns * (minutes * 60000)) = .ok tick) :
    tick = turns * gameTicksPerTurn := by
  rw [dateToTick_ok converted, ← rate_mul_minutes term]
  have exactly : (clock.baseTime + turns * (minutes * 60000) - clock.baseTime) * clock.ticksPerSecond =
      turns * (clock.ticksPerSecond * (minutes * 60)) * 1000 := by ring
  rw [exactly, Int.mul_tdiv_cancel _ (by decide)]

theorem baseTimeForProjection_ok {projectedTime tick base : Int} (positive : 0 < minutes)
    (computed : baseTimeForProjection projectedTime tick (minutes * 60) = .ok base) :
    base = projectedTime - tick * (minutes * 60000) / gameTicksPerTurn := by
  simp only [baseTimeForProjection, Bind.bind, Except.bind] at computed
  split at computed
  · cases computed
  rename_i accepted safe
  split at computed
  · cases computed
  rename_i admitted
  simp only [not_not] at admitted
  split at computed
  · cases computed
  rename_i offset found
  split at computed
  · cases computed
  split at computed
  · cases computed
  -- The rate times the turn length is a turn, so the offset can be read off the turn length.
  have whole : (gameTicksPerTurn : Int) / (minutes * 60) * (minutes * 60) = gameTicksPerTurn :=
    Int.ediv_mul_cancel admitted.2
  have rate : 0 < (gameTicksPerTurn : Int) / (minutes * 60) := by
    apply Int.ediv_pos_of_pos_of_dvd
    · decide
    · omega
    · exact admitted.2
  have value := tickOffsetMilliseconds_ok rate found
  rw [requireSafeTick_ok safe] at value
  have scaled : tick * 1000 / ((gameTicksPerTurn : Int) / (minutes * 60)) =
      tick * (minutes * 60000) / gameTicksPerTurn := by
    rw [← Int.mul_ediv_mul_of_pos_left (tick * 1000) _ (show 0 < minutes * 60 by omega), whole]
    congr 1
    ring
  rw [← Except.ok.inj computed, value, scaled]

end GameClock

section Steps

variable {zoneMinutes minutes turns : Int}

variable {state : TurnWorldState}

theorem OnBoundary.nextMonthTime (held : OnBoundary zoneMinutes state minutes turns) :
    nextMonthTime zoneMinutes state = state.clock.baseTime + (turns + 1) * (minutes * 60000) := by
  -- The daemon reads the minutes back from the seconds of a turn.
  have positive := held.positive
  have seconds : ((state.clock.turnSeconds : Nat) : ℚ) = ((minutes * 60 : Int) : ℚ) := by
    rw [← held.term]
    norm_cast
  have read : max 1 (roundHalfUp ((state.clock.turnSeconds : ℚ) / 60)) = minutes := by
    rw [seconds, roundHalfUp_minutes]
    omega
  have onGrid : OnDayGrid zoneMinutes minutes state.lastTurnTime := by
    have base := (onDayGrid_iff held.fillsDay).mp held.onGrid
    rw [onDayGrid_iff held.fillsDay, held.lastTurnTime]
    have split : state.clock.baseTime + turns * (minutes * 60000) + zoneMinutes * 60000 - 3600000 =
        state.clock.baseTime + zoneMinutes * 60000 - 3600000 + minutes * 60000 * turns := by ring
    rw [split]
    exact dvd_add base (Dvd.intro _ rfl)
  unfold Sammo.nextMonthTime
  rw [read, getNextTickTime_of_onGrid positive onGrid, held.lastTurnTime]
  ring

theorem AtBoundary.sameClock {before after : TurnWorld} (held : AtBoundary zoneMinutes before.state)
    (same : SameClock before after) : AtBoundary zoneMinutes after.state := by
  obtain ⟨minutes, turns, held⟩ := held
  refine ⟨minutes, turns, held.positive, ?_, held.fillsDay, ?_, ?_, ?_⟩
  · rw [same.clock]
    exact held.term
  · rw [same.clock]
    exact held.onGrid
  · rw [same.lastTurnTick]
    exact held.lastTurnTick
  · rw [same.lastTurnTime, same.clock]
    exact held.lastTurnTime

variable {start : TurnWorld}

variable {change : TurnWorld → TurnWorld}

theorem modify_sameClock (elsewhere : ∀ world, (change world).state = world.state) :
    Always (SameClock start) (SameClock start) (modify change : WorldM Unit) := by
  apply Always.modify
  intro world same
  refine ⟨?_, ?_, ?_⟩
  · rw [elsewhere]
    exact same.clock
  · rw [elsewhere]
    exact same.lastTurnTick
  · rw [elsewhere]
    exact same.lastTurnTime

theorem updateGeneral_sameClock (id : Int) (patch : GeneralPatch) :
    Always (SameClock start) (SameClock start) (updateGeneral id patch) := by
  apply Always.read
  intro world same
  split
  · apply Always.pure
    intro current here
    exact here ▸ same
  · apply Always.attempt
    · intro current here
      exact here ▸ same
    · intro next _
      have stored : Always (fun current => current = world) (SameClock start)
          (modify fun world => { world with generals := world.generals.put id next } : WorldM Unit) := by
        apply Always.modify
        intro current here
        subst here
        exact ⟨same.clock, same.lastTurnTick, same.lastTurnTime⟩
      exact stored.bind (fun _ held => held) fun _ => Always.pure fun _ held => held

theorem reprojectGenerals_sameClock (previous next : GameClock) (generals : List (Int × General)) :
    Always (SameClock start) (SameClock start) (reprojectGenerals previous next generals) := by
  apply Always.forM
  intro entry _
  refine Always.attempt (fun _ held => held) fun ticks _ => ?_
  refine Always.attempt (fun _ held => held) fun patch _ => ?_
  exact (updateGeneral_sameClock entry.1 patch).discard

theorem advanceDiplomacyMonth_sameClock (generalCounts : Option (Int → Option Int)) :
    Always (SameClock start) (SameClock start) (advanceDiplomacyMonth generalCounts) := by
  apply Always.read
  intro world same
  split
  · apply Always.pure
    intro current here
    exact here ▸ same
  · have filled : Always (fun current => current = world) (SameClock start) ensureDiplomacyMatrix := by
      apply Always.modify
      intro current here
      have state := congrArg TurnWorld.state (fillDiplomacyMatrix_frame current)
      change (fillDiplomacyMatrix current).state = current.state at state
      rw [here] at state ⊢
      refine ⟨?_, ?_, ?_⟩
      · rw [state]
        exact same.clock
      · rw [state]
        exact same.lastTurnTick
      · rw [state]
        exact same.lastTurnTime
    have listed : Always (fun current => current = world) (SameClock start) listDiplomacy := by
      apply filled.bind (fun _ held => held)
      intro _
      apply Always.read
      intro filled held
      apply Always.pure
      intro current here
      exact here ▸ held
    apply listed.bind (fun _ held => held)
    intro entries
    apply Always.forM
    intro entry _
    exact modify_sameClock fun _ => rfl

variable (zoneMinutes) in
theorem always_atBoundary {α : Type} {operation : WorldM α}
    (same : ∀ start, Always (SameClock start) (SameClock start) operation) :
    Always (fun world => AtBoundary zoneMinutes world.state) (fun world => AtBoundary zoneMinutes world.state)
      operation := by
  intro world held
  exact held.sameClock (same world world ⟨rfl, rfl, rfl⟩)

theorem modify_atBoundary (elsewhere : ∀ world, (change world).state = world.state) :
    Always (fun world => AtBoundary zoneMinutes world.state) (fun world => AtBoundary zoneMinutes world.state)
      (modify change : WorldM Unit) :=
  always_atBoundary _ fun _ => modify_sameClock elsewhere

theorem OnBoundary.advance {requestedTick lastTurnTime : Int}
    (held : OnBoundary zoneMinutes state minutes turns)
    (converted : state.clock.dateToTick (Sammo.nextMonthTime zoneMinutes state) = .ok requestedTick)
    (shown : state.clock.tickToDate (max state.lastTurnTick requestedTick) = .ok lastTurnTime) :
    max state.lastTurnTick requestedTick = (turns + 1) * gameTicksPerTurn ∧
      lastTurnTime = state.clock.baseTime + (turns + 1) * (minutes * 60000) := by
  rw [held.nextMonthTime] at converted
  have requested := GameClock.dateToTick_turns held.term converted
  have later : max state.lastTurnTick requestedTick = (turns + 1) * gameTicksPerTurn := by
    have last := held.lastTurnTick
    rw [requested, last]
    have positive : (0 : Int) < gameTicksPerTurn := by decide
    have next : (turns + 1) * gameTicksPerTurn = turns * gameTicksPerTurn + gameTicksPerTurn := by ring
    omega
  rw [later] at shown
  exact ⟨later, GameClock.tickToDate_turns held.term shown⟩

theorem advanceMonth_atBoundary (options : WorldOptions) :
    Always (fun world => AtBoundary options.zoneMinutes world.state)
      (fun world => AtBoundary options.zoneMinutes world.state) (ScheduleStep.advanceMonth.run options) := by
  apply Always.read
  intro world held
  have stays : ∀ current, current = world → AtBoundary options.zoneMinutes current.state := by
    intro current here
    exact here ▸ held
  apply Always.read
  intro current here
  subst here
  refine Always.attempt stays fun _ _ => ?_
  refine Always.attempt stays fun requestedTick converted => ?_
  refine Always.attempt stays fun lastTurnTime shown => ?_
  obtain ⟨minutes, turns, boundary⟩ := held
  obtain ⟨tick, time⟩ := boundary.advance converted shown
  -- The state is written once; the relations that may follow leave the clock alone.
  have stored (change : TurnWorld → TurnWorld)
      (written : ∀ next, next = current → (change next).state.clock = current.state.clock ∧
        (change next).state.lastTurnTick = max current.state.lastTurnTick requestedTick ∧
        (change next).state.lastTurnTime = lastTurnTime) :
      Always (fun next => next = current) (fun world => AtBoundary options.zoneMinutes world.state)
        (modify change : WorldM Unit) := by
    apply Always.modify
    intro next here
    obtain ⟨clock, last, lastTime⟩ := written next here
    refine ⟨minutes, turns + 1, boundary.positive, ?_, boundary.fillsDay, ?_, ?_, ?_⟩
    · rw [clock]
      exact boundary.term
    · rw [clock]
      exact boundary.onGrid
    · rw [last]
      exact tick
    · rw [lastTime, clock]
      exact time
  apply Always.bind (stored _ ?_) (fun _ held => held)
  · intro _
    split
    · exact always_atBoundary _ fun start => advanceDiplomacyMonth_sameClock none
    · exact Always.pure fun _ held => held
  · intro next here
    subst here
    exact ⟨rfl, rfl, rfl⟩

theorem OnBoundary.redraw {next : GameClock} {tickMinutes tick shown base last : Int}
    (held : OnBoundary zoneMinutes state minutes turns) (positive : 0 < tickMinutes)
    (fillsDay : tickMinutes ∣ 1440) (term : (next.turnSeconds : Int) = tickMinutes * 60)
    (computed : GameClock.baseTimeForProjection shown tick (tickMinutes * 60) = .ok base)
    (redrawn : next.baseTime = base)
    (onGrid : OnDayGrid zoneMinutes tickMinutes (shown - tick * (tickMinutes * 60000) / gameTicksPerTurn))
    (projected : next.tickToDate state.lastTurnTick = .ok last) :
    OnBoundary zoneMinutes { state with clock := next, lastTurnTime := last } tickMinutes turns := by
  refine ⟨positive, term, fillsDay, ?_, held.lastTurnTick, ?_⟩
  · show OnDayGrid zoneMinutes tickMinutes next.baseTime
    rw [redrawn, GameClock.baseTimeForProjection_ok positive computed]
    exact onGrid
  · rw [held.lastTurnTick] at projected
    exact GameClock.tickToDate_turns term projected

variable {world : TurnWorld} {options : WorldOptions}

theorem changeTurnTerm_atBoundary {tickMinutes wallNow : Int} (held : AtBoundary zoneMinutes world.state)
    (stays : (ScheduleStep.changeTurnTerm tickMinutes wallNow).StaysOnGrid zoneMinutes world.state.clock) :
    Always (fun current => current = world) (fun next => AtBoundary zoneMinutes next.state)
      (changeTurnTerm tickMinutes wallNow) := by
  have unchanged : ∀ current, current = world → AtBoundary zoneMinutes current.state := by
    intro current here
    exact here ▸ held
  have configured : Always (fun current : TurnWorld => AtBoundary zoneMinutes current.state)
      (fun current => AtBoundary zoneMinutes current.state)
      (updateWorldConfig [("turnTermMinutes", .num tickMinutes)]) :=
    modify_atBoundary fun _ => rfl
  unfold changeTurnTerm
  split
  · exact Always.throw unchanged
  rename_i positive
  apply Always.read
  intro current here
  subst here
  dsimp only
  split
  · apply Always.bind (configured.mono unchanged fun _ held => held) (fun _ held => held)
    intro _
    exact Always.pure fun _ held => held
  rename_i different
  refine Always.attempt unchanged fun active _ => ?_
  split
  · exact Always.throw unchanged
  refine Always.attempt unchanged fun anchorTick observed => ?_
  refine Always.attempt unchanged fun anchorDisplay displayed => ?_
  refine Always.attempt unchanged fun nextBaseTime computed => ?_
  refine Always.attempt unchanged fun next created => ?_
  refine Always.attempt unchanged fun lastTurnTime projected => ?_
  -- The turn length did change, so the new one fills a day and is redrawn on the grid.
  obtain same | ⟨fillsDay, redrawn⟩ := stays
  · exact absurd same different
  have built := GameClock.create_ok created
  have term : (next.turnSeconds : Int) = tickMinutes * 60 := by
    rw [built.turnSeconds]
    show ((tickMinutes * 60).toNat : Int) = tickMinutes * 60
    omega
  have anchor : (if wallNow < current.state.clock.wallAnchor then current.state.clock.wallAnchor else wallNow) =
      max wallNow current.state.clock.wallAnchor := by
    split
    · omega
    · omega
  rw [anchor] at observed
  obtain ⟨minutes, turns, boundary⟩ := held
  have moved := boundary.redraw (by omega) fillsDay term computed built.baseTime
    (redrawn anchorTick anchorDisplay observed displayed) projected
  have stored (change : TurnWorld → TurnWorld)
      (written : ∀ next', next' = current → (change next').state.clock = next ∧
        (change next').state.lastTurnTick = current.state.lastTurnTick ∧
        (change next').state.lastTurnTime = lastTurnTime) :
      Always (fun next' => next' = current) (fun world => AtBoundary zoneMinutes world.state)
        (modify change : WorldM Unit) := by
    apply Always.modify
    intro next' here
    obtain ⟨clock, last, lastTime⟩ := written next' here
    refine ⟨tickMinutes, turns, moved.positive, ?_, moved.fillsDay, ?_, ?_, ?_⟩
    · rw [clock]
      exact moved.term
    · rw [clock]
      exact moved.onGrid
    · rw [last]
      exact moved.lastTurnTick
    · rw [lastTime, clock]
      exact moved.lastTurnTime
  apply Always.bind (stored _ ?_) (fun _ held => held)
  · intro _
    apply configured.seq
    intro _
    apply Always.seq (always_atBoundary _ fun start => reprojectGenerals_sameClock _ _ _)
    intro _
    split
    · exact Always.pure fun _ held => held
    · refine Always.attempt (fun _ held => held) fun checkpoint _ => ?_
      refine Always.seq (modify_atBoundary ?_) fun _ => Always.pure fun _ held => held
      exact fun _ => rfl
  · intro next' here
    subst here
    exact ⟨rfl, rfl, rfl⟩

theorem OnBoundary.shift {shifted kept : GameClock} {deltaMinutes last : Int}
    (held : OnBoundary zoneMinutes state minutes turns)
    (whole : (deltaMinutes * 60).tmod state.clock.turnSeconds = 0)
    (base : GameClock.create (shiftedBase state.clock (deltaMinutes * 60000)) = .ok shifted)
    (anchors : GameClock.create (shiftedAnchors state.clock (deltaMinutes * 60000)) = .ok kept)
    (projected : shifted.tickToDate state.lastTurnTick = .ok last) :
    OnBoundary zoneMinutes { state with clock := kept, lastTurnTime := last } minutes turns := by
  have shiftedFrom := GameClock.create_ok base
  have keptFrom := GameClock.create_ok anchors
  have term := held.term
  -- The shift is a whole number of turns, counted in minutes.
  obtain ⟨count, counted⟩ := Int.dvd_of_tmod_eq_zero whole
  rw [term] at counted
  have delta : deltaMinutes * 60000 = minutes * 60000 * count := by linarith
  have keptTerm : (kept.turnSeconds : Int) = minutes * 60 := by
    rw [keptFrom.turnSeconds]
    simpa [shiftedAnchors, shiftedBase] using term
  have shiftedTerm : (shifted.turnSeconds : Int) = minutes * 60 := by
    rw [shiftedFrom.turnSeconds]
    simpa [shiftedBase] using term
  refine ⟨held.positive, keptTerm, held.fillsDay, ?_, held.lastTurnTick, ?_⟩
  · show OnDayGrid zoneMinutes minutes kept.baseTime
    have before := (onDayGrid_iff held.fillsDay).mp held.onGrid
    rw [onDayGrid_iff held.fillsDay, keptFrom.baseTime]
    show minutes * 60000 ∣ state.clock.baseTime + deltaMinutes * 60000 + zoneMinutes * 60000 - 3600000
    have split : state.clock.baseTime + deltaMinutes * 60000 + zoneMinutes * 60000 - 3600000 =
        state.clock.baseTime + zoneMinutes * 60000 - 3600000 + minutes * 60000 * count := by linarith
    rw [split]
    exact dvd_add before (Dvd.intro _ rfl)
  · rw [held.lastTurnTick] at projected
    show last = kept.baseTime + turns * (minutes * 60000)
    rw [GameClock.tickToDate_turns shiftedTerm projected, shiftedFrom.baseTime, keptFrom.baseTime]
    rfl

theorem shiftSchedule_atBoundary (deltaMinutes : Int) :
    Always (fun world => AtBoundary zoneMinutes world.state) (fun world => AtBoundary zoneMinutes world.state)
      (shiftSchedule deltaMinutes) := by
  apply Always.read
  intro world held
  have unchanged : ∀ current, current = world → AtBoundary zoneMinutes current.state := by
    intro current here
    exact here ▸ held
  dsimp only
  split
  · exact Always.throw unchanged
  split
  · exact Always.throw unchanged
  rename_i whole
  simp only [ne_eq, not_not] at whole
  refine Always.attempt unchanged fun ticks _ => ?_
  refine Always.attempt unchanged fun shifted base => ?_
  refine Always.attempt unchanged fun lastTurnTime projected => ?_
  refine Always.attempt unchanged fun kept anchors => ?_
  obtain ⟨minutes, turns, boundary⟩ := held
  have moved := boundary.shift whole base anchors projected
  have stored : Always (fun current => current = world) (fun next => AtBoundary zoneMinutes next.state)
      (modify fun world => { world with state := { world.state with clock := kept, lastTurnTime } } :
        WorldM Unit) := by
    apply Always.modify
    intro current here
    subst here
    exact ⟨minutes, turns, moved⟩
  apply stored.bind fun _ held => held
  intro _
  have projecting (entry : Int × Int × Option Int) : ∀ start, Always (SameClock start) (SameClock start)
      (do
        let patch ← Effect.ofExcept (projectGeneralTicks shifted entry.2.1 entry.2.2)
        discard (updateGeneral entry.1 patch) : WorldM Unit) := by
    intro start
    refine Always.attempt (fun _ held => held) fun patch _ => ?_
    exact (updateGeneral_sameClock entry.1 patch).discard
  have all : Always (fun world : TurnWorld => AtBoundary zoneMinutes world.state)
      (fun world => AtBoundary zoneMinutes world.state)
      ((world.generals.rows.keys.zip ticks).forM fun entry => do
        let patch ← Effect.ofExcept (projectGeneralTicks shifted entry.2.1 entry.2.2)
        discard (updateGeneral entry.1 patch) : WorldM Unit) :=
    Always.forM fun entry _ => always_atBoundary _ (projecting entry)
  apply all.seq
  intro _
  refine Always.seq (modify_atBoundary ?_) fun _ => Always.pure fun _ held => held
  exact fun _ => rfl

theorem ScheduleStep.after_atBoundary {step : ScheduleStep} (held : AtBoundary options.zoneMinutes world.state)
    (stays : step.StaysOnGrid options.zoneMinutes world.state.clock) :
    AtBoundary options.zoneMinutes (step.after options world).state := by
  cases step with
  | advanceMonth => exact advanceMonth_atBoundary options world held
  | changeTurnTerm tickMinutes wallNow => exact (changeTurnTerm_atBoundary held stays).discard world rfl
  | shiftSchedule deltaMinutes => exact (shiftSchedule_atBoundary deltaMinutes).discard world held

theorem OpensOnGrid.atBoundary (opens : OpensOnGrid zoneMinutes state) : AtBoundary zoneMinutes state := by
  obtain ⟨minutes, counted⟩ := opens.minutes
  have positive := state.clock.positive
  have quotient : state.clock.turnSeconds / 60 = minutes := by omega
  have fills := opens.fillsDay
  have onGrid := opens.onGrid
  rw [quotient] at fills onGrid
  refine ⟨minutes, 0, by omega, ?_, ?_, onGrid, ?_, ?_⟩
  · omega
  · exact_mod_cast fills
  · rw [opens.lastTurnTick]
    omega
  · rw [opens.lastTurnTime]
    omega

theorem afterSteps_atBoundary {steps : List ScheduleStep} (held : AtBoundary options.zoneMinutes world.state)
    (stay : StepsStayOnGrid options world steps) :
    AtBoundary options.zoneMinutes (afterSteps options world steps).state := by
  -- The induction is on the steps; each of them starts at the boundary the last one left.
  induction steps generalizing world with
  | nil => exact held
  | cons step rest ih =>
    obtain ⟨stays, later⟩ := stay
    exact ih (step.after_atBoundary held stays) later

theorem StepsStayOnGrid.earlier {first rest : List ScheduleStep}
    (stay : StepsStayOnGrid options world (first ++ rest)) : StepsStayOnGrid options world first := by
  induction first generalizing world with
  | nil => trivial
  | cons step others ih => exact ⟨stay.1, ih stay.2⟩

theorem advanceMonth_ok {next : TurnWorld} (held : AtBoundary options.zoneMinutes world.state)
    (advanced : (ScheduleStep.advanceMonth.run options).perform world = (.ok (), next)) :
    next.state.lastTurnTick % gameTicksPerTurn = 0 ∧
      next.state.lastTurnTick = world.state.lastTurnTick + gameTicksPerTurn := by
  obtain ⟨minutes, turns, boundary⟩ := held
  let Moved : TurnWorld → Prop := fun current => current.state.lastTurnTick = (turns + 1) * gameTicksPerTurn
  have moves : Ensures (fun current => current = world) (ScheduleStep.advanceMonth.run options)
      fun _ => Moved := by
    apply Ensures.read
    intro first here
    apply Ensures.read
    intro current again
    subst again
    subst here
    refine Ensures.attempt fun _ _ => Ensures.attempt fun requestedTick converted =>
      Ensures.attempt fun lastTurnTime shown => ?_
    obtain ⟨tick, _⟩ := boundary.advance converted shown
    have stored (change : TurnWorld → TurnWorld)
        (written : ∀ next, (change next).state.lastTurnTick = max current.state.lastTurnTick requestedTick) :
        Ensures (fun next => next = current) (modify change : WorldM Unit) fun _ => Moved :=
      Ensures.modify fun next _ => (written next).trans tick
    refine Ensures.seq (stored _ fun _ => rfl) fun _ => ?_
    -- The relations of the month leave the last turn where it now is.
    split
    · intro before moved value after performed
      have same := advanceDiplomacyMonth_sameClock none before ⟨rfl, rfl, rfl⟩
      rw [performed] at same
      exact same.lastTurnTick.trans moved
    · exact Ensures.pure fun _ moved => moved
  have moved : next.state.lastTurnTick = (turns + 1) * gameTicksPerTurn := moves world rfl () next advanced
  rw [moved, boundary.lastTurnTick]
  constructor
  · exact Int.mul_emod_left _ _
  · ring

end Steps

/-- A world that opens with hourly turns half past ten in the morning. -/
def openedAtHalfPast : TurnWorld :=
  let world := InMemoryTurnWorld.opening.toTurnWorld
  { world with
    state := { world.state with
      clock := { InMemoryTurnWorld.openingClock with
        baseTime := 37800000, wallAnchor := 37800000, validBase := by decide, validAnchor := by decide }
      lastTurnTime := 37800000 } }

end Sammo
