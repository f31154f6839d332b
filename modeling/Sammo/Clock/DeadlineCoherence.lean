import Sammo.Clock.TournamentDeadlines
import Sammo.Time.GameClockLaws
import Sammo.Turns.MonthBoundaries

/-! The dates and ticks of a tournament's deadlines agree while nobody moves the dates alone or the clock alone. -/

namespace Sammo

namespace GameClock

variable {clock other : GameClock}

theorem dateToTick_congr (base : clock.baseTime = other.baseTime) (length : clock.turnSeconds = other.turnSeconds)
    (date : Int) : clock.dateToTick date = other.dateToTick date := by
  -- The rate follows from the turn length, and nothing else of the clock is read.
  simp only [dateToTick, ticksBetween, ticksPerSecond, base, length]

theorem tickToDate_safe {tick date : Int} (converted : clock.tickToDate tick = .ok date) :
    isSafeInteger tick ∧ isSafeInteger (date - clock.baseTime) := by
  simp only [tickToDate, Bind.bind, Except.bind] at converted
  split at converted
  · cases converted
  rename_i accepted checked
  have same := requireSafeTick_ok checked
  have safe : isSafeInteger tick := by
    unfold requireSafeTick at checked
    split at checked
    · assumption
    · cases checked
  split at converted
  · cases converted
  rename_i offset computed
  have bounded : isSafeInteger offset := by
    simp only [tickOffsetMilliseconds] at computed
    split at computed
    · rename_i bounded
      rw [← Except.ok.inj computed]
      exact bounded
    · cases computed
  split at converted
  · cases converted
  split at converted
  · cases converted
  rw [← Except.ok.inj converted]
  have offsetIs : clock.baseTime + offset - clock.baseTime = offset := by omega
  rw [offsetIs]
  exact ⟨safe, bounded⟩

theorem dateToTick_tickToDate {tick date : Int} (whole : clock.ticksPerSecond ∣ tick * 1000)
    (converted : clock.tickToDate tick = .ok date) : clock.dateToTick date = .ok tick := by
  have positive := clock.ticksPerSecond_pos
  obtain ⟨safe, bounded⟩ := tickToDate_safe converted
  have shown := tickToDate_ok converted
  -- The division that projects the tick leaves no remainder, so it is undone by the multiplication.
  have distance : (date - clock.baseTime) * clock.ticksPerSecond = tick * 1000 := by
    rw [shown, add_sub_cancel_left, Int.ediv_mul_cancel whole]
  have ticks : (date - clock.baseTime).tdiv 1000 * clock.ticksPerSecond +
      ((date - clock.baseTime - (date - clock.baseTime).tdiv 1000 * 1000) * clock.ticksPerSecond).tdiv 1000 = tick := by
    rw [tdiv_parts _ (by decide) positive, distance, Int.mul_tdiv_cancel _ (by decide)]
  have accepted : requireSafeTick tick = .ok tick := by
    unfold requireSafeTick
    rw [if_pos safe]
  have between : clock.ticksBetween clock.baseTime date = .ok tick := by
    simp only [ticksBetween]
    rw [if_pos bounded, ticks, accepted]
  simp only [dateToTick, between, Bind.bind, Except.bind, accepted]

end GameClock

/-- A deadline's tick is the one its date has on a clock, and is missing only with the date. -/
def DeadlineAgrees (clock : GameClock) (date tick : Option Int) : Prop :=
  match date with
  | some date => ∃ ticks, tick = some ticks ∧ clock.dateToTick date = .ok ticks
  | none => tick = none

/-- The ticks of a record are those of its dates on a clock. -/
structure TournamentRecord.AgreesWith (record : TournamentRecord) (clock : GameClock) : Prop where
  next : DeadlineAgrees clock record.nextAt record.nextTick
  bettingClose : DeadlineAgrees clock record.bettingCloseAt record.bettingCloseTick

section Writers

variable {clock other : GameClock} {date tick : Option Int} {record stamped : TournamentRecord}

theorem DeadlineAgrees.congr (base : clock.baseTime = other.baseTime) (length : clock.turnSeconds = other.turnSeconds)
    (agrees : DeadlineAgrees clock date tick) : DeadlineAgrees other date tick := by
  cases date with
  | none => exact agrees
  | some date =>
    obtain ⟨ticks, stored, converted⟩ := agrees
    rw [GameClock.dateToTick_congr base length] at converted
    exact ⟨ticks, stored, converted⟩

theorem TournamentRecord.AgreesWith.congr (base : clock.baseTime = other.baseTime)
    (length : clock.turnSeconds = other.turnSeconds) (agrees : record.AgreesWith clock) : record.AgreesWith other :=
  ⟨agrees.next.congr base length, agrees.bettingClose.congr base length⟩

variable {context : TournamentClockContext} {payload : ProjectionPayload}

theorem parseDeadlineTick_ok {value : Option Int} {field : String} {ticks : Int}
    (parsed : parseDeadlineTick value context field = .ok ticks) :
    DeadlineAgrees context.clock value (some ticks) := by
  cases value with
  | none => cases parsed
  | some date => exact ⟨ticks, rfl, parsed⟩

theorem stampBettingClose_ok {bettingCloseAt tick : Option Int}
    (stamps : stampBettingClose bettingCloseAt context = .ok tick) :
    DeadlineAgrees context.clock bettingCloseAt tick := by
  cases bettingCloseAt with
  | none => exact (Except.ok.inj stamps).symm
  | some date =>
    simp only [stampBettingClose] at stamps
    cases parsed : parseDeadlineTick (some date) context "bettingCloseAt" with
    | error message =>
      rw [parsed] at stamps
      cases stamps
    | ok ticks =>
      rw [parsed] at stamps
      have stored : some ticks = tick := Except.ok.inj stamps
      subst stored
      exact parseDeadlineTick_ok parsed

/-- A record that names a clock's revision and agrees with that clock. -/
structure TournamentRecord.StampedBy (record : TournamentRecord) (clock : GameClock) : Prop where
  revision : record.clockRevision = some clock.revision
  agrees : record.AgreesWith clock

theorem stampTournamentClock_ok (stamps : stampTournamentClock record context = .ok stamped) :
    stamped.StampedBy context.clock ∧ stamped.stage = record.stage := by
  simp only [stampTournamentClock, Bind.bind, Except.bind] at stamps
  split at stamps
  · cases stamps
  rename_i nextTick parsed
  split at stamps
  · cases stamps
  rename_i bettingCloseTick closing
  rw [← Except.ok.inj stamps]
  exact ⟨⟨rfl, parseDeadlineTick_ok parsed, stampBettingClose_ok closing⟩, rfl⟩

theorem TournamentStore.setState_ok {keys : ClockFenceKeys}
    (written : TournamentStore.setState keys context record = .ok stamped) :
    stamped.StampedBy context.clock ∧ stamped.stage = record.stage := by
  simp only [TournamentStore.setState, Bind.bind, Except.bind] at written
  split at written
  · cases written
  rename_i result stamps
  split at written
  · rw [← Except.ok.inj written]
    exact stampTournamentClock_ok stamps
  · cases written

theorem autoStartRecord_ok {generation now termSeconds : Int} {rest : String}
    (started : autoStartRecord clock generation now termSeconds rest = .ok record) : record.StampedBy clock := by
  simp only [autoStartRecord, Bind.bind, Except.bind] at started
  split at started
  · cases started
  rename_i nextTick converted
  rw [← Except.ok.inj started]
  exact ⟨rfl, ⟨nextTick, rfl, converted⟩, rfl⟩

/-- The moved tick, if there is one, falls on a whole millisecond. -/
def WholeMillisecond (clock : GameClock) (shiftTicks : Int) (tick : Option Int) : Prop :=
  ∀ ticks ∈ tick, clock.ticksPerSecond ∣ (ticks + shiftTicks) * 1000

theorem shiftDeadline_agrees {shiftTicks : Int} {nextDate nextTick : Option Int}
    (agrees : DeadlineAgrees clock date tick) (safe : date.isSome → isSafeTick tick)
    (whole : WholeMillisecond other shiftTicks tick)
    (shifted : shiftDeadline other shiftTicks tick date = .ok (nextTick, nextDate)) :
    DeadlineAgrees other nextDate nextTick := by
  cases date with
  | none =>
    -- Without a date there is no tick, and nothing moves.
    have noTick : tick = none := agrees
    subst noTick
    obtain ⟨rfl, rfl⟩ := Prod.mk.inj (Except.ok.inj shifted)
    rfl
  | some date =>
    obtain ⟨ticks, rfl, _⟩ := agrees
    have safeTick : isSafeInteger ticks := of_decide_eq_true (safe rfl)
    simp only [shiftDeadline, Bind.bind, Except.bind] at shifted
    rw [if_pos safeTick] at shifted
    split at shifted
    · cases shifted
    rename_i shown converted
    obtain ⟨rfl, rfl⟩ := Prod.mk.inj (Except.ok.inj shifted)
    exact ⟨ticks + shiftTicks, rfl, GameClock.dateToTick_tickToDate (whole ticks rfl) converted⟩

theorem projectTournamentState_agrees {next : TournamentState} (agrees : record.AgreesWith clock)
    (active : 0 < record.stage) (whole : WholeMillisecond other payload.shiftTicks record.nextTick)
    (wholeClose : WholeMillisecond other payload.shiftTicks record.bettingCloseTick)
    (projected : projectTournamentState (some record.toTournamentState) payload other =
      .ok (some (record.toTournamentState, next))) :
    next.clockRevision = some payload.targetRevision ∧
      DeadlineAgrees other next.nextAt next.nextTick ∧
      DeadlineAgrees other next.bettingCloseAt next.bettingCloseTick := by
  simp only [projectTournamentState, Bind.bind, Except.bind] at projected
  split at projected
  · cases projected
  rename_i nextStored
  split at projected
  · cases projected
  rename_i closeStored
  -- A tournament under way has passed both checks, so its dates have safe ticks.
  have safe : record.nextAt.isSome → isSafeTick record.nextTick := by
    intro dated
    by_contra unsafeTick
    exact nextStored ⟨active, dated, unsafeTick⟩
  have safeClose : record.bettingCloseAt.isSome → isSafeTick record.bettingCloseTick := by
    intro dated
    by_contra unsafeTick
    exact closeStored ⟨active, dated, unsafeTick⟩
  split at projected
  · cases projected
  rename_i shiftedNext movedNext
  split at projected
  · cases projected
  rename_i shiftedClose movedClose
  have same := (Prod.mk.inj (Option.some.inj (Except.ok.inj projected))).2
  rw [← same]
  exact ⟨rfl, shiftDeadline_agrees agrees.next safe whole movedNext,
    shiftDeadline_agrees agrees.bettingClose safeClose wholeClose movedClose⟩

theorem projectTournamentState_source {source next : TournamentState} {state : TournamentState}
    (projected : projectTournamentState (some state) payload clock = .ok (some (source, next))) :
    source = state ∧ next.stage = state.stage := by
  simp only [projectTournamentState, Bind.bind, Except.bind] at projected
  split at projected
  · cases projected
  split at projected
  · cases projected
  split at projected
  · cases projected
  split at projected
  · cases projected
  obtain ⟨same, changed⟩ := Prod.mk.inj (Option.some.inj (Except.ok.inj projected))
  rw [← same, ← changed]
  exact ⟨rfl, rfl⟩

end Writers

section Engine

open Effect TurnWorld

end Engine

namespace DeadlineWorld

variable {ι : Type}

/-- The record of a tournament under way agrees with the clock of the revision it names. -/
def Coherent (world : DeadlineWorld ι) : Prop :=
  ∀ record, world.record = some record → 0 < record.stage →
    ∃ revision clock, record.clockRevision = some revision ∧ world.clocks revision = some clock ∧
      record.AgreesWith clock

/-- A game that opens: no tournament yet, nobody at work, and one clock so far. -/
structure Opening (world : DeadlineWorld ι) : Prop where
  noRecord : world.record = none
  noContext : ∀ writer, world.contexts writer = none
  firstClock : world.clocks = Function.update (fun _ => none) world.clock.revision (some world.clock)

/-- The condition on one record: the tournament is not under way, or something holds of it. -/
def WhenUnderWay (record : Option TournamentRecord) (condition : TournamentRecord → Prop) : Prop :=
  ∀ active ∈ record, 0 < active.stage → condition active

/--
The steps that keep the ticks and dates together.

No shift of the schedule meets a tournament stamped under the present clock, no shift of the dates meets a tournament
that has yet to take it, nobody leaves a tournament under way under a clock that has been shifted since it was read,
and a reconciliation moves the ticks to whole milliseconds of a clock that has not been shifted since.
-/
def KeepsDeadlines (world : DeadlineWorld ι) : DeadlineEvent ι → Prop
  | .shiftSchedule _ _ =>
    WhenUnderWay world.record fun record => record.clockRevision ≠ some world.clock.revision
  | .shiftTournamentClock actionId _ =>
    WhenUnderWay world.record fun record => actionId ∈ record.runtimeClockShiftActionIds
  | .write writer edit =>
    ∀ context ∈ world.contexts writer, ∀ state, edit.edited world.record = .ok state → 0 < state.stage →
      ∃ clock ∈ world.clocks context.clock.revision,
        clock.baseTime = context.clock.baseTime ∧ clock.turnSeconds = context.clock.turnSeconds
  | .project =>
    ∀ payload ∈ world.outbox, WhenUnderWay world.record fun record =>
      payload.clockBaseTime = world.clock.baseTime ∧
        WholeMillisecond world.clock payload.shiftTicks record.nextTick ∧
        WholeMillisecond world.clock payload.shiftTicks record.bettingCloseTick
  | _ => True

/-- What every step keeps: the clocks are remembered up to the present one, and the record is coherent. -/
structure Upright (world : DeadlineWorld ι) : Prop where
  present : world.clocks world.clock.revision = some world.clock
  latest : ∀ revision clock, world.clocks revision = some clock → revision ≤ world.clock.revision
  coherent : world.Coherent

variable {world next : DeadlineWorld ι}

theorem Opening.upright (opening : world.Opening) : world.Upright := by
  refine ⟨?_, ?_, ?_⟩
  · rw [opening.firstClock, Function.update_self]
  · intro revision clock remembered
    rw [opening.firstClock] at remembered
    by_cases first : revision = world.clock.revision
    · exact first.le
    · rw [Function.update_of_ne first] at remembered
      cases remembered
  · intro record stored
    rw [opening.noRecord] at stored
    cases stored

theorem Upright.frame (upright : world.Upright) (clock : next.clock = world.clock)
    (clocks : next.clocks = world.clocks) (record : next.record = world.record) : next.Upright := by
  refine ⟨?_, ?_, ?_⟩
  · rw [clock, clocks]
    exact upright.present
  · rw [clock, clocks]
    exact upright.latest
  · intro stored there
    rw [clocks]
    exact upright.coherent stored (record ▸ there)

theorem Upright.write (upright : world.Upright) {record : Option TournamentRecord}
    (stamped : WhenUnderWay record fun record => ∃ revision clock, record.clockRevision = some revision ∧
      world.clocks revision = some clock ∧ record.AgreesWith clock) :
    ({ world with record } : DeadlineWorld ι).Upright :=
  ⟨upright.present, upright.latest, fun written stored active => stamped written stored active⟩

theorem Upright.setClock (upright : world.Upright) {clock : GameClock} (later : world.clock.revision ≤ clock.revision)
    (coherent : (world.setClock clock).Coherent) : (world.setClock clock).Upright := by
  refine ⟨Function.update_self .., ?_, coherent⟩
  intro revision old remembered
  by_cases present : revision = clock.revision
  · exact present.le
  · have kept : world.clocks revision = some old := by
      rw [← remembered]
      exact (Function.update_of_ne present ..).symm
    exact Int.le_trans (upright.latest revision old kept) later

theorem Coherent.setClock_other (coherent : world.Coherent) {clock : GameClock}
    (other : WhenUnderWay world.record fun record => record.clockRevision ≠ some clock.revision) :
    (world.setClock clock).Coherent := by
  intro record stored active
  obtain ⟨revision, old, names, remembered, agrees⟩ := coherent record stored active
  have different : revision ≠ clock.revision := by
    intro same
    exact other record stored active (same ▸ names)
  refine ⟨revision, old, names, ?_, agrees⟩
  exact (Function.update_of_ne different ..).trans remembered

theorem Upright.setClock_same (upright : world.Upright) {clock : GameClock}
    (revision : clock.revision = world.clock.revision) (base : clock.baseTime = world.clock.baseTime)
    (length : clock.turnSeconds = world.clock.turnSeconds) : (world.setClock clock).Upright := by
  apply upright.setClock revision.symm.le
  intro record stored active
  obtain ⟨named, old, names, remembered, agrees⟩ := upright.coherent record stored active
  by_cases present : named = clock.revision
  · -- The record was stamped by the clock that is replaced, which shows the same.
    have replaced : old = world.clock := by
      rw [present, revision, upright.present] at remembered
      exact (Option.some.inj remembered).symm
    subst replaced
    refine ⟨named, clock, names, ?_, agrees.congr base.symm length.symm⟩
    rw [present]
    exact Function.update_self ..
  · exact ⟨named, old, names, (Function.update_of_ne present ..).trans remembered, agrees⟩

theorem shiftSchedule_revision {clock shifted : GameClock} {deltaMinutes : Int}
    (shifts : clock.shiftSchedule deltaMinutes = .ok shifted) : shifted.revision = clock.revision := by
  unfold GameClock.shiftSchedule at shifts
  split at shifts
  · cases shifts
  split at shifts
  · cases shifts
  exact (GameClock.create_ok shifts).revision

theorem shiftTournamentClock_taken {record : TournamentRecord} {actionId : String} (deltaMinutes : Int)
    (taken : actionId ∈ record.runtimeClockShiftActionIds) :
    shiftTournamentClock actionId deltaMinutes record = record := by
  unfold shiftTournamentClock
  rw [if_pos taken]

theorem shiftTournamentClock_stage (actionId : String) (deltaMinutes : Int) (record : TournamentRecord) :
    (shiftTournamentClock actionId deltaMinutes record).stage = record.stage := by
  unfold shiftTournamentClock
  split <;> rfl

variable {payload : ProjectionPayload}

theorem recordProjectionClock_ok {clock projection : GameClock}
    (built : recordProjectionClock payload clock = .ok projection) :
    projection.baseTime = payload.clockBaseTime ∧ projection.turnSeconds = clock.turnSeconds := by
  have fields := GameClock.create_ok built
  refine ⟨fields.baseTime, ?_⟩
  rw [fields.turnSeconds]
  exact Int.toNat_natCast _

theorem writeRecord_upright (upright : world.Upright) {written : Except String (Option TournamentRecord)}
    (stamped : ∀ record, written = .ok record → WhenUnderWay record fun record => ∃ revision clock,
      record.clockRevision = some revision ∧ world.clocks revision = some clock ∧ record.AgreesWith clock) :
    (world.writeRecord written).1.Upright := by
  cases written with
  | ok record => exact upright.write (stamped record rfl)
  | error message => exact upright

theorem write_upright (upright : world.Upright) {context : TournamentClockContext} {edit : TournamentEdit}
    (fresh : ∀ state, edit.edited world.record = .ok state → 0 < state.stage →
      ∃ clock ∈ world.clocks context.clock.revision,
        clock.baseTime = context.clock.baseTime ∧ clock.turnSeconds = context.clock.turnSeconds) :
    (world.writeRecord do
      let state ← edit.edited world.record
      .ok (some (← TournamentStore.setState world.keys context state))).1.Upright := by
  apply writeRecord_upright upright
  intro record written stored there active
  simp only [Bind.bind, Except.bind] at written
  split at written
  · cases written
  rename_i state edited
  split at written
  · cases written
  rename_i stamped stores
  obtain ⟨stampedBy, stage⟩ := TournamentStore.setState_ok stores
  have same : some stamped = some stored := (Except.ok.inj written).trans there
  obtain rfl := Option.some.inj same
  obtain ⟨clock, remembered, base, length⟩ := fresh state edited (stage ▸ active)
  exact ⟨_, clock, stampedBy.revision, remembered, stampedBy.agrees.congr base.symm length.symm⟩

theorem autoStart_upright (upright : world.Upright) (now termSeconds : Int) (rest : String) :
    (world.writeRecord (world.autoStarted now termSeconds rest)).1.Upright := by
  apply writeRecord_upright upright
  intro record written stored there active
  simp only [autoStarted, Bind.bind, Except.bind] at written
  split at written
  · cases written
  rename_i started starts
  split at written
  · cases written
  have same : some started = some stored := (Except.ok.inj written).trans there
  obtain rfl := Option.some.inj same
  have stampedBy := autoStartRecord_ok starts
  exact ⟨_, world.clock, stampedBy.revision, upright.present, stampedBy.agrees⟩

theorem shiftTournamentClock_upright (upright : world.Upright) {actionId : String} (deltaMinutes : Int)
    (taken : WhenUnderWay world.record fun record => actionId ∈ record.runtimeClockShiftActionIds) :
    ({ world with
      record := world.record.map (shiftTournamentClock actionId deltaMinutes) } : DeadlineWorld ι).Upright := by
  apply upright.write
  intro shifted there active
  obtain ⟨record, stored, rfl⟩ := Option.map_eq_some_iff.mp there
  rw [shiftTournamentClock_stage] at active
  rw [shiftTournamentClock_taken deltaMinutes (taken record stored active)]
  exact upright.coherent record stored active

theorem projected_agrees (upright : world.Upright) {record : Option TournamentRecord}
    (whole : WhenUnderWay world.record fun record =>
      payload.clockBaseTime = world.clock.baseTime ∧
        WholeMillisecond world.clock payload.shiftTicks record.nextTick ∧
        WholeMillisecond world.clock payload.shiftTicks record.bettingCloseTick)
    (projects : world.projected payload = .ok record) :
    WhenUnderWay record fun record => ∃ revision clock, record.clockRevision = some revision ∧
      world.clocks revision = some clock ∧ record.AgreesWith clock := by
  intro stored there active
  unfold projected at projects
  split at projects
  · cases projects
  rename_i fenced
  have target : world.clock.revision = payload.targetRevision := by
    by_contra other
    exact fenced (.inr (.inl other))
  simp only [Bind.bind, Except.bind] at projects
  split at projects
  · cases projects
  rename_i projection built
  split at projects
  · cases projects
  split at projects
  · cases projects
  simp only [projectRecord, Bind.bind, Except.bind] at projects
  split at projects
  · cases projects
  rename_i result projectsState
  cases before : world.record with
  | none =>
    -- Without a record there is nothing to project.
    rw [before] at projects
    have same : none = some stored := (Except.ok.inj projects).trans there
    cases same
  | some old =>
    rw [before] at projects projectsState
    cases result with
    | none =>
      simp only [projectTournamentState, Option.map_some, Bind.bind, Except.bind] at projectsState
      repeat' split at projectsState
      all_goals cases projectsState
    | some pair =>
      obtain ⟨source, nextState⟩ := pair
      have same : some { old with toTournamentState := nextState } = some stored :=
        (Except.ok.inj projects).trans there
      obtain rfl := Option.some.inj same
      obtain ⟨rfl, stage⟩ := projectTournamentState_source projectsState
      have wasActive : 0 < old.stage := stage ▸ active
      obtain ⟨base, wholeNext, wholeClose⟩ := whole old before wasActive
      obtain ⟨projectionBase, projectionLength⟩ := recordProjectionClock_ok built
      obtain ⟨_, _, _, _, agreed⟩ := upright.coherent old before wasActive
      have rate : projection.ticksPerSecond = world.clock.ticksPerSecond := by
        simp only [GameClock.ticksPerSecond, projectionLength]
      have movedNext : WholeMillisecond projection payload.shiftTicks old.nextTick :=
        fun ticks stored => rate ▸ wholeNext ticks stored
      have movedClose : WholeMillisecond projection payload.shiftTicks old.bettingCloseTick :=
        fun ticks stored => rate ▸ wholeClose ticks stored
      obtain ⟨names, next, close⟩ :=
        projectTournamentState_agrees agreed wasActive movedNext movedClose projectsState
      have agrees : TournamentRecord.AgreesWith { old with toTournamentState := nextState } projection := ⟨next, close⟩
      refine ⟨payload.targetRevision, world.clock, names, ?_,
        agrees.congr (projectionBase.trans base) projectionLength⟩
      rw [← target]
      exact upright.present

variable [DecidableEq ι]

theorem step_upright {event : DeadlineEvent ι} {reply : DeadlineReply} (upright : world.Upright)
    (keeps : world.KeepsDeadlines event) (stepped : world.step event = some (next, reply)) : next.Upright := by
  -- One case for each event: a writer, a shift, a reconciliation, or the clock's own life.
  cases event with
  | openContext writer =>
    simp only [step] at stepped
    split at stepped
    · cases stepped
      exact upright.frame rfl rfl rfl
    · cases stepped
  | write writer edit =>
    simp only [step] at stepped
    split at stepped
    · rename_i context opened
      have written := write_upright upright (keeps context opened)
      rw [Option.some.inj stepped] at written
      exact written
    · cases stepped
  | closeContext writer =>
    cases stepped
    exact upright.frame rfl rfl rfl
  | autoStart now termSeconds rest =>
    simp only [step] at stepped
    split at stepped
    · cases stepped
    · have started := autoStart_upright upright now termSeconds rest
      rw [Option.some.inj stepped] at started
      exact started
  | shiftSchedule actionId deltaMinutes =>
    simp only [step] at stepped
    split at stepped
    · rename_i clock shifts
      have revision := shiftSchedule_revision shifts
      have coherent : (world.setClock clock).Coherent := by
        apply upright.coherent.setClock_other
        rw [revision]
        exact keeps
      have moved := upright.setClock revision.symm.le coherent
      cases stepped
      exact moved.frame rfl rfl rfl
    · cases stepped
      exact upright
  | shiftTournamentClock actionId deltaMinutes =>
    simp only [step] at stepped
    split at stepped
    · cases stepped
      exact shiftTournamentClock_upright upright deltaMinutes keeps
    · cases stepped
  | moveClock clock =>
    simp only [step] at stepped
    split at stepped
    · rename_i same
      cases stepped
      exact upright.setClock_same same.2.2 same.1 same.2.1
    · cases stepped
  | publishFence keys =>
    cases stepped
    exact upright.frame rfl rfl rfl
  | reconcile input =>
    simp only [step] at stepped
    split at stepped
    · rename_i safe
      split at stepped
      · rename_i guard
        -- The new revision is later than every one that a record can name.
        have coherent : (world.setClock (world.clock.realign input safe.1 safe.2)).Coherent := by
          apply upright.coherent.setClock_other
          intro record stored active same
          obtain ⟨revision, clock, names, remembered, _⟩ := upright.coherent record stored active
          have named : revision = input.targetRevision := Option.some.inj (names.symm.trans same)
          have bounded := upright.latest revision clock remembered
          have later := guard.2.2.1
          omega
        have later : world.clock.revision ≤ input.targetRevision := by
          have next := guard.2.2.1
          omega
        have moved := upright.setClock later coherent
        cases stepped
        exact moved.frame rfl rfl rfl
      · cases stepped
    · cases stepped
  | project =>
    simp only [step] at stepped
    split at stepped
    · rename_i payload pending
      split at stepped
      · rename_i record projects
        have written := upright.write (projected_agrees upright (keeps payload pending) projects)
        cases stepped
        exact written.frame rfl rfl rfl
      · cases stepped
        exact upright
    · cases stepped
  | finalize =>
    simp only [step] at stepped
    split at stepped
    · split at stepped
      · have moved : (world.setClock (world.clock.inPhase .running)).Upright := upright.setClock_same rfl rfl rfl
        cases stepped
        exact moved.frame rfl rfl rfl
      · cases stepped
    · cases stepped

end DeadlineWorld

/-- In every run whose steps keep the deadlines, a tournament under way has the ticks of its dates. -/
theorem tournament_deadlines_coherent {ι : Type} [DecidableEq ι] {start reached : DeadlineWorld ι}
    {trace : List (DeadlineEvent ι × DeadlineReply)} (opening : start.Opening)
    (run : (deadlineMachine ι).RunWhile DeadlineWorld.KeepsDeadlines start trace reached) : reached.Coherent := by
  have upright : reached.Upright := run.stateInvariant opening.upright
    fun world event reply next upright keeps stepped => DeadlineWorld.step_upright upright keeps stepped
  exact upright.coherent

/-- A game that runs with hourly turns, in which no tournament has been held. -/
def hourlyGame : DeadlineWorld Unit :=
  { clock := InMemoryTurnWorld.openingClock, deadlineGeneration := 1, outbox := none, shifts := []
    keys := ⟨none, none, none⟩, record := none, contexts := fun _ => none
    clocks := Function.update (fun _ => none) 1 (some InMemoryTurnWorld.openingClock) }

theorem hourlyGame_opening : hourlyGame.Opening := ⟨rfl, fun _ => rfl, rfl⟩

theorem turnOfSuspension_positive : (1 : Int) ≤ 2 := by decide

theorem turnOfSuspension_anchor : ValidDate ((none : Option Int).getD 3600000) := by decide

theorem noRecovery_valid (window : TurnRecoveryWindow) (present : none = some window) : window.Valid := by
  cases present

/-- A reconciliation that skips a turn of suspension. -/
def turnOfSuspension : DurableClockReconciliationAlignment :=
  { suspensionId := "maintenance", sourceRevision := 1, targetRevision := 2, deadlineGeneration := 2
    alignedTick := 36000000, shiftTicks := 36000000, resumeWallAt := 3600000, resumeAnchor := none
    recovery := none, positiveTarget := turnOfSuspension_positive, validAnchor := turnOfSuspension_anchor
    validRecovery := noRecovery_valid }

/-- A tournament that is started, moved by a reconciliation and carried on has the ticks of its dates. -/
theorem tournament_deadlines_coherent_reconciled : ∃ trace reached,
    (deadlineMachine Unit).RunWhile DeadlineWorld.KeepsDeadlines hourlyGame trace reached ∧
      reached.record.map (fun record => (record.nextAt, record.nextTick, record.clockRevision)) =
        some (some 3720000, some 37200000, some 2) ∧
      reached.Coherent := by
  let events : List (DeadlineEvent Unit) :=
    [.openContext (), .write () (.start 0 ""), .closeContext (),
      .moveClock (InMemoryTurnWorld.openingClock.inPhase .suspended), .reconcile turnOfSuspension, .project, .finalize,
      .openContext (), .write () (.workerTick 2 (some 3720000) none "")]
  have replayed : ((deadlineMachine Unit).replay hourlyGame events).map (fun reached =>
      reached.1.record.map (fun record => (record.nextAt, record.nextTick, record.clockRevision))) =
      some (some (some 3720000, some 37200000, some 2)) := by decide +kernel
  obtain ⟨⟨reached, trace⟩, replayed, record⟩ := Option.map_eq_some_iff.mp replayed
  have guarded : (deadlineMachine Unit).Guarded DeadlineWorld.KeepsDeadlines hourlyGame events := by
    refine ⟨trivial, ?_, trivial, trivial, trivial, ?_, trivial, trivial, ?_, trivial⟩
    · intro context opened state edited active
      cases opened
      exact ⟨InMemoryTurnWorld.openingClock, rfl, rfl, rfl⟩
    · intro payload pending record stored active
      cases pending
      cases stored
      refine ⟨rfl, ?_, ?_⟩
      · intro ticks there
        cases there
        decide
      · intro ticks there
        cases there
    · intro context opened state edited active
      cases opened
      exact ⟨_, rfl, rfl, rfl⟩
  have run := StateMachine.runWhile_of_guarded guarded replayed
  exact ⟨trace, reached, run, record, tournament_deadlines_coherent hourlyGame_opening run⟩

/--
An administrator's edit between the engine's shift and the gateway's leaves the ticks an hour behind the dates.

The edit takes the ticks of the old dates on the shifted clock, and the gateway then moves the dates alone.
-/
theorem tournament_dates_leave_ticks :
    ¬ ∀ (start reached : DeadlineWorld Unit) (trace : List (DeadlineEvent Unit × DeadlineReply)),
      start.Opening → (deadlineMachine Unit).Run start trace reached → reached.Coherent := by
  intro coherent
  have replayed : ((deadlineMachine Unit).replay hourlyGame
      [.openContext (), .write () (.start 0 ""), .closeContext (), .shiftSchedule "delay" 60,
        .openContext (), .write () (.patchState none none none ""), .closeContext (),
        .shiftTournamentClock "delay" 60]).map (fun reached => (reached.1.record, reached.1.clocks 1 |>.map
          fun clock => clock.dateToTick 3660000 |>.toOption)) =
      some (some { newRecord 1 (some 3660000) none "" with
        nextTick := some (-35400000), clockRevision := some 1, deadlineGeneration := some 1
        runtimeClockShiftActionIds := ["delay"] }, some (some 600000)) := by decide +kernel
  obtain ⟨⟨reached, trace⟩, replayed, observed⟩ := Option.map_eq_some_iff.mp replayed
  obtain ⟨stored, shown⟩ := Prod.mk.inj observed
  obtain ⟨revision, clock, names, remembered, agrees⟩ :=
    coherent hourlyGame reached trace hourlyGame_opening (StateMachine.run_of_replay replayed) _ stored (by decide)
  -- The date's tick on the clock of the first revision is not the stored one.
  obtain ⟨ticks, stays, converted⟩ := agrees.next
  cases names
  rw [remembered] at shown
  simp only [Option.map_some, converted, Except.toOption] at shown
  cases stays
  cases shown

end Sammo
