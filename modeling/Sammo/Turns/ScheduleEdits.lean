import Mathlib.Tactic.LinearCombination
import Sammo.Turns.MonthBoundaries

/-! Redrawing the schedule moves the instants at which ticks are shown, and leaves the ticks. -/

namespace Sammo

open Effect TurnWorld

/-! ### What is shown -/

/-- The instant of a tick, whether or not a date can hold it. -/
def GameClock.instant (clock : GameClock) (tick : Int) : Int := clock.baseTime + tick * 1000 / clock.ticksPerSecond

/-- A general has these ticks, and its times are what a clock shows for them. -/
structure ShownAt (clock : GameClock) (ticks : Int × Option Int) (general : General) : Prop where
  turnTick : general.turnTick = some ticks.1
  turnTime : general.turnTime = clock.instant ticks.1
  recentWarTick : general.recentWarTick = some ticks.2
  recentWarTime : general.recentWarTime = ticks.2.map clock.instant

section Shown

variable {clock previous : GameClock} {ticks : Int × Option Int} {general next target : General}
  {patch : GeneralPatch}

theorem ShownAt.generalTicks (shown : ShownAt clock ticks general) : generalTicks previous general = .ok ticks := by
  obtain ⟨turnTick, recentWarTick⟩ := ticks
  rw [Sammo.generalTicks, shown.turnTick, shown.recentWarTick, shown.recentWarTime]
  cases recentWarTick <;> rfl

theorem normalizeGeneralClock_shown (turn : general.turnTick = some ticks.1)
    (war : general.recentWarTick = some ticks.2)
    (normalized : normalizeGeneralClock clock general = .ok next) : ShownAt clock ticks next := by
  obtain ⟨turnTick, recentWarTick⟩ := ticks
  simp only [normalizeGeneralClock, turn, war, Bind.bind, Except.bind] at normalized
  split at normalized
  · cases normalized
  · next turnTime shown =>
    cases recentWarTick with
    | none =>
      obtain rfl := Except.ok.inj normalized
      exact ⟨rfl, GameClock.tickToDate_ok shown, rfl, rfl⟩
    | some tick =>
      dsimp only at normalized
      split at normalized
      · cases normalized
      · next recentWarTime warShown =>
        obtain ⟨instant, found, rfl⟩ := map_ok warShown
        obtain rfl := Except.ok.inj normalized
        exact ⟨rfl, GameClock.tickToDate_ok shown, rfl, congrArg some (GameClock.tickToDate_ok found)⟩

theorem projectGeneralTicks_ticks (projected : projectGeneralTicks previous ticks.1 ticks.2 = .ok patch) :
    patch.turnTick = some ticks.1 ∧ patch.recentWarTick = some ticks.2 := by
  simp only [projectGeneralTicks, Bind.bind, Except.bind] at projected
  repeat' split at projected
  all_goals first
    | cases projected
      done
    | rw [← Except.ok.inj projected]
      exact ⟨rfl, rfl⟩

theorem shownAt_of_patch (projected : projectGeneralTicks previous ticks.1 ticks.2 = .ok patch)
    (stored : normalizeGeneralClock clock (applyGeneralPatch target patch) = .ok next) :
    ShownAt clock ticks next := by
  obtain ⟨turn, war⟩ := projectGeneralTicks_ticks projected
  refine normalizeGeneralClock_shown ?_ ?_ stored
  · simp [applyGeneralPatch, normalizeGeneralDatabaseIntegers, turn]
  · simp [applyGeneralPatch, normalizeGeneralDatabaseIntegers, war]

end Shown

/-! ### The generals -/

/-- How far the generals have been redrawn on a clock: all but those of the rounds to come. -/
structure Reprojecting (previous clock : GameClock) (start : TurnWorld) (rest : List Int) (current : TurnWorld) :
    Prop where
  frame : current = { start with generals := current.generals }
  keys : ∀ id, current.generals.rows.has id = start.generals.rows.has id
  shown : ∀ id general, start.generals.rows.get? id = some general → id ∈ rest ∨
    ∃ ticks next, generalTicks previous general = .ok ticks ∧ current.generals.rows.get? id = some next ∧
      ShownAt clock ticks next

section Loop

variable {previous clock projector : GameClock} {start : TurnWorld} {id : Int} {rest : List Int} {general : General}
  {ticks : Int × Option Int} {patch : GeneralPatch}

theorem Reprojecting.opening {ids : List Int} (all : ∀ id, start.generals.rows.has id = true → id ∈ ids) :
    Reprojecting previous clock start ids start :=
  ⟨rfl, fun _ => rfl, fun id general stored => .inl (all id (by rw [OrderedMap.has, stored]; rfl))⟩

theorem updateGeneral_reprojects (stored : start.generals.rows.get? id = some general)
    (known : generalTicks previous general = .ok ticks)
    (projected : projectGeneralTicks projector ticks.1 ticks.2 = .ok patch) :
    Ensures (Reprojecting previous start.state.clock start (id :: rest)) (discard (updateGeneral id patch))
      fun _ => Reprojecting previous start.state.clock start rest := by
  have update : Ensures (Reprojecting previous start.state.clock start (id :: rest)) (updateGeneral id patch)
      fun _ => Reprojecting previous start.state.clock start rest := by
    refine Ensures.read fun current held => ?_
    have there : current.generals.rows.has id = true := by
      rw [held.keys, OrderedMap.has, stored]
      rfl
    obtain ⟨target, found⟩ := Option.isSome_iff_exists.mp there
    rw [found]
    refine Ensures.attempt fun next normalized => ensures_modify_pure fun state same => ?_
    subst same
    have clock : state.state.clock = start.state.clock := by rw [held.frame]
    rw [clock] at normalized
    refine ⟨?_, fun other => ?_, fun other general' before => ?_⟩
    · conv_lhs => rw [held.frame]
    · -- The row was there before.
      change (state.generals.rows.set id next).has other = _
      rw [OrderedMap.has_set, held.keys]
      by_cases same : other = id
      · rw [same, OrderedMap.has, stored]
        simp
      · simp [same]
    · change other ∈ rest ∨ ∃ ticks after, _ ∧ (state.generals.rows.set id next).get? other = some after ∧ _
      rw [OrderedMap.get?_set]
      by_cases same : other = id
      · subst same
        obtain rfl := Option.some.inj (stored.symm.trans before)
        exact .inr ⟨ticks, next, known, if_pos rfl, shownAt_of_patch projected normalized⟩
      · rw [if_neg same]
        exact (held.shown other general' before).imp_left fun member =>
          (List.mem_cons.mp member).resolve_left same
  exact update.bind fun _ => Ensures.pure fun _ held => held

end Loop

theorem reprojectGenerals_reprojects (previous : GameClock) (start : TurnWorld) :
    Ensures (fun current => current = start)
      (reprojectGenerals previous start.state.clock start.generals.rows.entries)
      fun _ => Reprojecting previous start.state.clock start [] := by
  let Pending : List (Int × General) → TurnWorld → Prop := fun rest current =>
    (∀ entry ∈ rest, start.generals.rows.get? entry.1 = some entry.2) ∧
      Reprojecting previous start.state.clock start (rest.map Prod.fst) current
  have round (entry : Int × General) (rest : List (Int × General)) : Ensures (Pending (entry :: rest)) (do
      let ticks ← Effect.ofExcept (generalTicks previous entry.2)
      let patch ← Effect.ofExcept (projectGeneralTicks start.state.clock ticks.1 ticks.2)
      discard (updateGeneral entry.1 patch) : WorldM Unit) fun _ => Pending rest := by
    refine Ensures.assuming (fun _ held => ⟨held.2, held.1⟩) fun listed => ?_
    refine Ensures.attempt fun ticks known => Ensures.attempt fun patch projected => ?_
    refine (updateGeneral_reprojects (listed entry List.mem_cons_self) known projected).mono (fun _ held => held) ?_
    exact fun _ _ held => ⟨fun other member => listed other (List.mem_cons_of_mem _ member), held⟩
  refine (Ensures.forM_rest round).mono ?_ fun _ _ held => held.2
  rintro _ rfl
  refine ⟨fun entry member => OrderedMap.mem_entries.mp member, .opening fun id there => ?_⟩
  exact OrderedMap.mem_keys.mpr there

/-! ### A new turn length -/

/-- The tick of a checkpoint, as a clock sees it. -/
def checkpointTick (clock : GameClock) (checkpoint : TurnCheckpoint) : Except String Int :=
  match checkpoint.turnTick with
  | some tick => .ok tick
  | none => clock.dateToTick checkpoint.turnTime

theorem reprojectCheckpoint_tick {previous next : GameClock} {checkpoint after : TurnCheckpoint}
    (moved : reprojectCheckpoint previous next checkpoint = .ok after) :
    checkpointTick next after = checkpointTick previous checkpoint := by
  unfold reprojectCheckpoint at moved
  split at moved
  · next tick has =>
    obtain ⟨taken, known, shown⟩ := bind_ok moved
    obtain ⟨time, -, stored⟩ := bind_ok shown
    rw [← Except.ok.inj stored, checkpointTick, checkpointTick, has]
    exact known.symm
  · next lacks =>
    obtain ⟨taken, known, shown⟩ := bind_ok moved
    obtain ⟨time, -, stored⟩ := bind_ok shown
    rw [← Except.ok.inj stored, checkpointTick, checkpointTick, lacks]
    exact known.symm

/-- One general's turn comes before another's: by its tick, and by its number at the same tick. -/
def TurnsBefore (world : TurnWorld) (left right : Int) : Prop :=
  ∃ first second firstTicks secondTicks, world.generals.rows.get? left = some first ∧
    world.generals.rows.get? right = some second ∧
    generalTicks world.state.clock first = .ok firstTicks ∧ generalTicks world.state.clock second = .ok secondTicks ∧
    (firstTicks.1 < secondTicks.1 ∨ firstTicks.1 = secondTicks.1 ∧ left < right)

/-- The generals are the same ones with the same ticks. -/
structure SameTicks (world next : TurnWorld) : Prop where
  keys : ∀ id, next.generals.rows.has id = world.generals.rows.has id
  generals : ∀ id general, world.generals.rows.get? id = some general → ∃ after,
    next.generals.rows.get? id = some after ∧
      generalTicks next.state.clock after = generalTicks world.state.clock general

theorem SameTicks.turnsBefore {world next : TurnWorld} (same : SameTicks world next) (left right : Int) :
    TurnsBefore next left right ↔ TurnsBefore world left right := by
  have old : ∀ id after, next.generals.rows.get? id = some after → ∃ general,
      world.generals.rows.get? id = some general ∧
        generalTicks next.state.clock after = generalTicks world.state.clock general := by
    intro id after stored
    have there : world.generals.rows.has id = true := by
      rw [← same.keys, OrderedMap.has, stored]
      rfl
    obtain ⟨general, found⟩ := Option.isSome_iff_exists.mp there
    obtain ⟨other, stored', ticks⟩ := same.generals id general found
    obtain rfl := Option.some.inj (stored.symm.trans stored')
    exact ⟨general, found, ticks⟩
  constructor
  · rintro ⟨first, second, firstTicks, secondTicks, hasFirst, hasSecond, firstKnown, secondKnown, order⟩
    obtain ⟨first', hasFirst, sameFirst⟩ := old left first hasFirst
    obtain ⟨second', hasSecond, sameSecond⟩ := old right second hasSecond
    exact ⟨first', second', firstTicks, secondTicks, hasFirst, hasSecond, sameFirst ▸ firstKnown,
      sameSecond ▸ secondKnown, order⟩
  · rintro ⟨first, second, firstTicks, secondTicks, hasFirst, hasSecond, firstKnown, secondKnown, order⟩
    obtain ⟨first', hasFirst, sameFirst⟩ := same.generals left first hasFirst
    obtain ⟨second', hasSecond, sameSecond⟩ := same.generals right second hasSecond
    exact ⟨first', second', firstTicks, secondTicks, hasFirst, hasSecond, sameFirst.trans firstKnown,
      sameSecond.trans secondKnown, order⟩

/-- The generals are the same ones with the same ticks, and they are shown where the clock now shows these. -/
structure Redrawn (world next : TurnWorld) : Prop where
  keys : ∀ id, next.generals.rows.has id = world.generals.rows.has id
  shown : ∀ id general, world.generals.rows.get? id = some general → ∃ ticks after,
    generalTicks world.state.clock general = .ok ticks ∧ next.generals.rows.get? id = some after ∧
      ShownAt next.state.clock ticks after

theorem Redrawn.sameTicks {world next : TurnWorld} (redrawn : Redrawn world next) : SameTicks world next := by
  refine ⟨redrawn.keys, fun id general stored => ?_⟩
  obtain ⟨ticks, after, known, found, shown⟩ := redrawn.shown id general stored
  exact ⟨after, found, shown.generalTicks.trans known.symm⟩

theorem Reprojecting.redrawn {start current world : TurnWorld}
    (done : Reprojecting world.state.clock start.state.clock start [] current)
    (rows : start.generals = world.generals) (clock : current.state.clock = start.state.clock) :
    Redrawn world current := by
  refine ⟨fun id => by rw [done.keys, rows], fun id general stored => ?_⟩
  obtain none | shown := done.shown id general (rows ▸ stored)
  · contradiction
  · exact clock ▸ shown

/-- What a new turn length leaves: all ticks, and what the clock reads and shows at the anchor instant. -/
structure TermChanged (wallNow : Int) (world next : TurnWorld) : Prop where
  generals : SameTicks world next
  lastTurnTick : next.state.lastTurnTick = world.state.lastTurnTick
  checkpoint : ∀ checkpoint, world.checkpoint = some checkpoint → ∃ after, next.checkpoint = some after ∧
    checkpointTick next.state.clock after = checkpointTick world.state.clock checkpoint
  others : next.generalPoolEntries = world.generalPoolEntries ∧
    next.pendingNeutralAuctions = world.pendingNeutralAuctions
  reads : next.state.clock.nowTick (max wallNow world.state.clock.wallAnchor) =
    world.state.clock.nowTick (max wallNow world.state.clock.wallAnchor)
  shows : next.state.clock.now (max wallNow world.state.clock.wallAnchor) =
    world.state.clock.now (max wallNow world.state.clock.wallAnchor)

namespace GameClock

variable {clock next : GameClock} {tick shown base : Int}

theorem tickToDate_date (converted : clock.tickToDate tick = .ok shown) : isSafeInteger shown ∧ ValidDate shown := by
  simp only [tickToDate, Bind.bind, Except.bind] at converted
  repeat' split at converted
  all_goals first
    | cases converted
      done
    | next safe valid =>
      rw [← Except.ok.inj converted]
      exact ⟨not_not.mp safe, not_not.mp valid⟩

theorem tickToDate_redrawn (date : isSafeInteger shown ∧ ValidDate shown)
    (chosen : baseTimeForProjection shown tick next.turnSeconds = .ok base) (based : next.baseTime = base) :
    next.tickToDate tick = .ok shown := by
  obtain ⟨accepted, safe, admitted⟩ := bind_ok chosen
  obtain rfl := requireSafeTick_ok safe
  split at admitted
  · cases admitted
  obtain ⟨offset, found, placed⟩ := bind_ok admitted
  have value : base = shown - offset := by
    dsimp only at placed
    split at placed
    · cases placed
    split at placed
    · cases placed
    exact (Except.ok.inj placed).symm
  have rate : next.ticksPerSecond = gameTicksPerTurn / next.turnSeconds := by
    rw [ticksPerSecond, Int.natCast_div]
  rw [tickToDate, safe, rate]
  change (do
    let milliseconds ← tickOffsetMilliseconds accepted (gameTicksPerTurn / next.turnSeconds)
    let projected := next.baseTime + milliseconds
    if ¬ isSafeInteger projected then
      .error s!"Projected game time is outside the safe Date range: {projected}"
    else if ¬ ValidDate projected then .error s!"Projected game time is invalid: {projected}"
    else .ok projected : Except String Int) = _
  rw [found]
  have back : next.baseTime + offset = shown := by omega
  change (if ¬ isSafeInteger (next.baseTime + offset) then _ else _) = _
  rw [back, if_neg (not_not.mpr date.1), if_neg (not_not.mpr date.2)]

theorem nowTick_anchor (recovery : clock.recovery = none) : clock.nowTick clock.wallAnchor = .ok clock.tick := by
  unfold nowTick
  split
  · rfl
  · rw [recovery]
    -- No time has passed since the anchor.
    have still : clock.ticksBetween clock.wallAnchor clock.wallAnchor = .ok 0 := by
      rw [ticksBetween, sub_self]
      simp [isSafeInteger, requireSafeTick]
    have added : addTicks clock.tick 0 = .ok clock.tick := by
      simp [addTicks, requireSafeTick, clock.safeTick, show isSafeInteger 0 by decide, Bind.bind, Except.bind]
    simp only [still, added, Bind.bind, Except.bind, max_self, ite_self]

end GameClock

theorem changeTurnTerm_termChanged (world : TurnWorld) (tickMinutes wallNow : Int) :
    Ensures (fun current => current = world) (changeTurnTerm tickMinutes wallNow)
      fun _ next => TermChanged wallNow world next := by
  unfold changeTurnTerm
  split
  · exact Ensures.throw _
  refine Ensures.read fun current here => ?_
  subst here
  dsimp only
  split
  · -- The same turn length again changes a setting and nothing else.
    refine ensures_modify_pure fun state same => ?_
    subst same
    exact ⟨⟨fun _ => rfl, fun _ general stored => ⟨general, stored, rfl⟩⟩, rfl,
      fun checkpoint stored => ⟨checkpoint, stored, rfl⟩, ⟨rfl, rfl⟩, rfl, rfl⟩
  refine Ensures.attempt fun active _ => ?_
  split
  · exact Ensures.throw _
  refine Ensures.attempt fun anchorTick observed => ?_
  refine Ensures.attempt fun anchorDisplay displayed => ?_
  refine Ensures.attempt fun nextBaseTime computed => ?_
  refine Ensures.attempt fun next created => ?_
  refine Ensures.attempt fun lastTurnTime projected => ?_
  have built := GameClock.create_ok created
  have anchor : (if wallNow < current.state.clock.wallAnchor then current.state.clock.wallAnchor else wallNow) =
      max wallNow current.state.clock.wallAnchor := by
    split <;> omega
  rw [anchor] at observed built
  have reads : next.nowTick (max wallNow current.state.clock.wallAnchor) = .ok anchorTick := by
    have stored := GameClock.nowTick_anchor built.recovery
    rwa [built.wallAnchor, built.tick] at stored
  have shows : next.tickToDate anchorTick = .ok anchorDisplay := by
    have seconds : (next.turnSeconds : Int) = tickMinutes * 60 := by
      rw [built.turnSeconds]
      show ((tickMinutes * 60).toNat : Int) = tickMinutes * 60
      omega
    exact GameClock.tickToDate_redrawn (GameClock.tickToDate_date displayed) (seconds ▸ computed) built.baseTime
  let start : TurnWorld := { current with
    schedule := ⟨⟨0, tickMinutes⟩, []⟩
    state := { current.state with
      clock := next, lastTurnTime
      metadata := current.state.metadata.set "turnterm" (.num tickMinutes) }
    worldConfig := current.worldConfig.merge [("turnTermMinutes", .num tickMinutes)] }
  have stored : Ensures (fun state => state = current)
      (modify fun world => { world with
        schedule := start.schedule
        state := { world.state with
          clock := next, lastTurnTime
          metadata := world.state.metadata.set "turnterm" (.num tickMinutes) } } : WorldM Unit)
      fun _ state => state = { start with worldConfig := current.worldConfig } :=
    Ensures.modify (by rintro _ rfl; rfl)
  have configured : Ensures (fun state => state = { start with worldConfig := current.worldConfig })
      (updateWorldConfig [("turnTermMinutes", .num tickMinutes)]) fun _ state => state = start :=
    Ensures.modify (by rintro _ rfl; rfl)
  refine stored.seq fun _ => configured.seq fun _ => (reprojectGenerals_reprojects current.state.clock start).seq ?_
  intro _
  -- What the rounds have left differs from the start in the generals alone.
  have finished (state : TurnWorld) (change : Option TurnCheckpoint)
      (checkpoint : ∀ checkpoint, current.checkpoint = some checkpoint → ∃ after, change = some after ∧
        checkpointTick next after = checkpointTick current.state.clock checkpoint)
      (done : Reprojecting current.state.clock start.state.clock start [] state) :
      TermChanged wallNow current { state with checkpoint := change } := by
    have same : state.state = start.state := by rw [done.frame]
    have ticks := (done.redrawn rfl (congrArg TurnWorldState.clock same)).sameTicks
    refine ⟨⟨ticks.keys, ticks.generals⟩, ?_, ?_, ⟨?_, ?_⟩, ?_, ?_⟩
    · show state.state.lastTurnTick = _
      rw [same]
    · show ∀ checkpoint, _ → ∃ after, _ ∧ checkpointTick state.state.clock after = _
      rw [same]
      exact checkpoint
    · show state.generalPoolEntries = _
      rw [done.frame]
    · show state.pendingNeutralAuctions = _
      rw [done.frame]
    · show state.state.clock.nowTick _ = _
      rw [same]
      exact reads.trans observed.symm
    · show state.state.clock.now _ = _
      rw [same, GameClock.now, GameClock.now, observed]
      change (next.nowTick _ >>= next.tickToDate) = current.state.clock.tickToDate anchorTick
      rw [reads, displayed]
      exact shows
  split
  · next none =>
    refine Ensures.pure fun state done => ?_
    have kept : state = { state with checkpoint := Option.none } := by
      conv_lhs => rw [done.frame]
      conv_rhs => rw [done.frame]
      rw [← none]
    rw [kept]
    exact finished state Option.none (by simp [none]) done
  · next checkpoint present =>
    refine Ensures.attempt fun after moved => ensures_modify_pure fun state done => ?_
    refine finished state (some after) (fun other stored => ⟨after, rfl, ?_⟩) done
    obtain rfl := Option.some.inj (present.symm.trans stored)
    exact reprojectCheckpoint_tick moved

/-! ### A shift -/

/-- One clock is another one with its base, its anchor and its window moved by some milliseconds. -/
structure ClockMoved (delta : Int) (before after : GameClock) : Prop where
  baseTime : after.baseTime = before.baseTime + delta
  tick : after.tick = before.tick
  mode : after.mode = before.mode
  wallAnchor : after.wallAnchor = before.wallAnchor + delta
  turnSeconds : after.turnSeconds = before.turnSeconds
  phase : after.phase = before.phase
  revision : after.revision = before.revision
  recovery : after.recovery = before.recovery.map fun window =>
    { window with startWallAt := window.startWallAt + delta }

/-- The boundary of the month after the last turn, as the daemon counts it out from the instant a clock shows. -/
def monthBoundary (zoneMinutes : Int) (clock : GameClock) (lastTurnTick : Int) : Int :=
  getNextTickTime zoneMinutes (clock.instant lastTurnTick) (max 1 (roundHalfUp ((clock.turnSeconds : ℚ) / 60)))

section Clocks

variable {delta : Int} {before after last : GameClock}

theorem clockMoved_of_create (created : GameClock.create (shiftedAnchors before delta) = .ok after) :
    ClockMoved delta before after := by
  have built := GameClock.create_ok created
  exact ⟨built.baseTime, built.tick, built.mode, built.wallAnchor, built.turnSeconds, built.phase, built.revision,
    built.recovery⟩

theorem ClockMoved.back (away : ClockMoved delta before after) (home : ClockMoved (-delta) after last) :
    last = before := by
  have recovery : last.recovery = before.recovery := by
    rw [home.recovery, away.recovery, Option.map_map]
    cases before.recovery <;> simp
  have base : last.baseTime = before.baseTime := by rw [home.baseTime, away.baseTime, add_neg_cancel_right]
  have anchor : last.wallAnchor = before.wallAnchor := by rw [home.wallAnchor, away.wallAnchor, add_neg_cancel_right]
  have tick := home.tick.trans away.tick
  have mode := home.mode.trans away.mode
  have seconds := home.turnSeconds.trans away.turnSeconds
  have phase := home.phase.trans away.phase
  have revision := home.revision.trans away.revision
  cases last
  cases before
  simp only [GameClock.mk.injEq]
  exact ⟨base, tick, mode, anchor, seconds, phase, revision, recovery⟩

theorem ClockMoved.instant (moved : ClockMoved delta before after) (tick : Int) :
    after.instant tick = before.instant tick + delta := by
  rw [GameClock.instant, GameClock.instant, moved.baseTime, GameClock.ticksPerSecond, GameClock.ticksPerSecond,
    moved.turnSeconds]
  ring

theorem ClockMoved.tickToWallDate (moved : ClockMoved delta before after) (tick : Int) :
    after.tickToWallDate tick = (before.tickToWallDate tick).map (· + delta) := by
  have rate : after.ticksPerSecond = before.ticksPerSecond := by
    rw [GameClock.ticksPerSecond, GameClock.ticksPerSecond, moved.turnSeconds]
  rw [GameClock.tickToWallDate, GameClock.tickToWallDate, moved.recovery, rate, moved.tick, moved.wallAnchor]
  cases before.recovery with
  | none =>
    cases tickOffsetMilliseconds (tick - before.tick) before.ticksPerSecond with
    | error error => rfl
    | ok offset => exact congrArg Except.ok (by ring)
  | some window =>
    show projectRecoveryDeadline _ _ _ = (projectRecoveryDeadline _ _ _).map _
    unfold projectRecoveryDeadline
    cases requireSafeTick tick with
    | error error => rfl
    | ok tick =>
      simp only [Bind.bind, Except.bind]
      split_ifs <;> exact congrArg Except.ok (by ring)

theorem getNextTickTime_add {zoneMinutes instant minutes turns : Int} (fillsDay : minutes ∣ 1440) :
    getNextTickTime zoneMinutes (instant + minutes * turns * 60000) minutes =
      getNextTickTime zoneMinutes instant minutes + minutes * turns * 60000 := by
  obtain ⟨perDay, day⟩ := fillsDay
  unfold getNextTickTime getCutTurnBase
  generalize (instant + zoneMinutes * 60000) / 86400000 = before
  generalize (instant + minutes * turns * 60000 + zoneMinutes * 60000) / 86400000 = after
  -- The night from which the turns are counted out moves by whole days, which are whole turns.
  have elapsed :
      (instant + minutes * turns * 60000 - ((after - 1) * 86400000 + 3600000 - zoneMinutes * 60000)) / 60000 =
      (instant - ((before - 1) * 86400000 + 3600000 - zoneMinutes * 60000)) / 60000 +
        minutes * (turns - perDay * (after - before)) := by
    rw [← Int.add_mul_ediv_right _ _ (by decide : (60000 : Int) ≠ 0)]
    congr 1
    linear_combination (before - after) * 60000 * day
  dsimp only
  rw [elapsed, Int.add_mul_emod_self_left]
  linear_combination (after - before) * 60000 * day

end Clocks

/-- What a shift by some minutes leaves: the ticks stay, and all that is shown moves by these minutes. -/
structure Shifted (deltaMinutes : Int) (world next : TurnWorld) : Prop where
  clock : ClockMoved (deltaMinutes * 60000) world.state.clock next.state.clock
  generals : Redrawn world next
  lastTurnTick : next.state.lastTurnTick = world.state.lastTurnTick
  lastTurnTime : next.state.lastTurnTime = next.state.clock.instant next.state.lastTurnTick
  checkpoint : next.checkpoint = world.checkpoint.map fun checkpoint =>
    { checkpoint with turnTime := checkpoint.turnTime + deltaMinutes * 60000 }
  auctions : next.pendingNeutralAuctions = world.pendingNeutralAuctions.map fun auction =>
    { auction with closeAt := auction.closeAt + deltaMinutes * 60000 }
  pool : next.generalPoolEntries = world.generalPoolEntries.map fun entries => entries.map fun entry =>
    { entry with reservedUntil := entry.reservedUntil.map (· + deltaMinutes * 60000) }
  whole : (world.state.clock.turnSeconds : Int) ∣ deltaMinutes * 60

theorem mapM_generalTicks {previous : GameClock} {entries : List (Int × General)} {ticks : List (Int × Option Int)}
    (known : entries.mapM (fun entry => generalTicks previous entry.2) = .ok ticks) :
    ((entries.map Prod.fst).zip ticks).map Prod.fst = entries.map Prod.fst ∧
      ∀ item ∈ (entries.map Prod.fst).zip ticks, ∃ general, (item.1, general) ∈ entries ∧
        generalTicks previous general = .ok item.2 := by
  induction entries generalizing ticks with
  | nil => simp
  | cons entry rest ih =>
    rw [List.mapM_cons] at known
    obtain ⟨first, found, known⟩ := bind_ok known
    obtain ⟨others, later, known⟩ := bind_ok known
    obtain rfl := Except.ok.inj known
    obtain ⟨ids, listed⟩ := ih later
    refine ⟨by rw [List.map_cons, List.zip_cons_cons, List.map_cons, ids], List.forall_mem_cons.mpr ⟨?_, ?_⟩⟩
    · exact ⟨entry.2, List.mem_cons_self, found⟩
    · intro item member
      obtain ⟨general, there, ticks⟩ := listed item member
      exact ⟨general, List.mem_cons_of_mem _ there, ticks⟩

theorem shiftSchedule_shifted (world : TurnWorld) (deltaMinutes : Int) :
    Ensures (fun current => current = world) (shiftSchedule deltaMinutes)
      fun _ next => Shifted deltaMinutes world next := by
  refine Ensures.read fun current here => ?_
  subst here
  dsimp only
  split
  · exact Ensures.throw _
  split
  · exact Ensures.throw _
  rename_i _ whole
  simp only [ne_eq, not_not] at whole
  refine Ensures.attempt fun ticks known => ?_
  refine Ensures.attempt fun shifted base => ?_
  refine Ensures.attempt fun lastTurnTime projected => ?_
  refine Ensures.attempt fun kept anchors => ?_
  obtain ⟨ids, listed⟩ := mapM_generalTicks known
  let start : TurnWorld := { current with state := { current.state with clock := kept, lastTurnTime } }
  have stored : Ensures (fun state => state = current)
      (modify fun world => { world with state := { world.state with clock := kept, lastTurnTime } } : WorldM Unit)
      fun _ state => state = start := Ensures.modify (by rintro _ rfl; rfl)
  let Pending : List (Int × Int × Option Int) → TurnWorld → Prop := fun rest state =>
    (∀ item ∈ rest, item ∈ current.generals.rows.keys.zip ticks) ∧
      Reprojecting current.state.clock start.state.clock start (rest.map Prod.fst) state
  have round (item : Int × Int × Option Int) (rest : List (Int × Int × Option Int)) :
      Ensures (Pending (item :: rest)) (do
        let patch ← Effect.ofExcept (projectGeneralTicks shifted item.2.1 item.2.2)
        discard (updateGeneral item.1 patch) : WorldM Unit) fun _ => Pending rest := by
    refine Ensures.assuming (fun _ held => ⟨held.2, held.1⟩) fun members => Ensures.attempt fun patch shown => ?_
    obtain ⟨general, there, found⟩ := listed item (members item List.mem_cons_self)
    have has : start.generals.rows.get? item.1 = some general := OrderedMap.mem_entries.mp there
    refine (updateGeneral_reprojects has found shown).mono (fun _ held => held) ?_
    exact fun _ _ held => ⟨fun other member => members other (List.mem_cons_of_mem _ member), held⟩
  have loop : Ensures (fun state => state = start) ((current.generals.rows.keys.zip ticks).forM fun item => do
      let patch ← Effect.ofExcept (projectGeneralTicks shifted item.2.1 item.2.2)
      discard (updateGeneral item.1 patch) : WorldM Unit)
      fun _ => Reprojecting current.state.clock start.state.clock start [] := by
    refine (Ensures.forM_rest round).mono ?_ fun _ _ held => held.2
    rintro _ rfl
    refine ⟨fun _ member => member, .opening fun id there => ?_⟩
    exact ids ▸ OrderedMap.mem_keys.mpr there
  refine stored.seq fun _ => loop.seq fun _ => ensures_modify_pure fun state done => ?_
  have same : state.state = start.state := by rw [done.frame]
  have redrawn := done.redrawn rfl (congrArg TurnWorldState.clock same)
  refine ⟨?_, ⟨redrawn.keys, redrawn.shown⟩, ?_, ?_, ?_, ?_, ?_, ?_⟩
  · show ClockMoved _ _ state.state.clock
    rw [same]
    exact clockMoved_of_create anchors
  · show state.state.lastTurnTick = _
    rw [same]
  · show state.state.lastTurnTime = state.state.clock.instant state.state.lastTurnTick
    rw [same]
    have first := GameClock.create_ok base
    have second := GameClock.create_ok anchors
    show lastTurnTime = kept.instant current.state.lastTurnTick
    rw [GameClock.tickToDate_ok projected, GameClock.instant, GameClock.ticksPerSecond, GameClock.ticksPerSecond,
      first.baseTime, second.baseTime, first.turnSeconds, second.turnSeconds]
    rfl
  · show Option.map _ state.checkpoint = _
    rw [done.frame]
  · show List.map _ state.pendingNeutralAuctions = _
    rw [done.frame]
  · show Option.map _ state.generalPoolEntries = _
    rw [done.frame]
  · exact Int.dvd_of_tmod_eq_zero whole


/-! ### The projections -/

/-- All that a clock projects is later by some milliseconds, and the generals keep their ticks. -/
structure ProjectionsMoved (zoneMinutes delta : Int) (world next : TurnWorld) : Prop where
  instants : ∀ tick, next.state.clock.instant tick = world.state.clock.instant tick + delta
  wall : ∀ tick, next.state.clock.tickToWallDate tick = (world.state.clock.tickToWallDate tick).map (· + delta)
  turns : ∀ id general, world.generals.rows.get? id = some general → ∃ ticks after,
    generalTicks world.state.clock general = .ok ticks ∧ next.generals.rows.get? id = some after ∧
      after.turnTick = some ticks.1 ∧ after.turnTime = world.state.clock.instant ticks.1 + delta
  lastTurn : next.state.lastTurnTime = world.state.clock.instant world.state.lastTurnTick + delta
  /-- The turn lengths that are admitted fill a day. -/
  month : ∀ minutes : Int, (world.state.clock.turnSeconds : Int) = minutes * 60 → minutes ∣ 120 →
    nextMonthTime zoneMinutes next.state =
      monthBoundary zoneMinutes world.state.clock world.state.lastTurnTick + delta

theorem Shifted.projections {deltaMinutes : Int} {world next : TurnWorld} (shifted : Shifted deltaMinutes world next)
    (zoneMinutes : Int) : ProjectionsMoved zoneMinutes (deltaMinutes * 60000) world next := by
  have last : next.state.lastTurnTime =
      world.state.clock.instant world.state.lastTurnTick + deltaMinutes * 60000 := by
    rw [shifted.lastTurnTime, shifted.lastTurnTick, shifted.clock.instant]
  refine ⟨shifted.clock.instant, shifted.clock.tickToWallDate, fun id general stored => ?_, last, ?_⟩
  · obtain ⟨ticks, after, known, found, shown⟩ := shifted.generals.shown id general stored
    exact ⟨ticks, after, known, found, shown.turnTick, shown.turnTime.trans (shifted.clock.instant _)⟩
  · intro minutes seconds admitted
    obtain ⟨turns, counted⟩ := shifted.whole
    have positive := world.state.clock.positive
    have read : max 1 (roundHalfUp ((world.state.clock.turnSeconds : ℚ) / 60)) = minutes := by
      rw [show (world.state.clock.turnSeconds : ℚ) = ((minutes * 60 : Int) : ℚ) by rw [← seconds]; norm_cast,
        roundHalfUp_minutes]
      omega
    -- The shift is a whole number of turns, counted in minutes.
    rw [seconds, mul_right_comm] at counted
    have whole : deltaMinutes = minutes * turns := mul_right_cancel₀ (by decide) counted
    rw [nextMonthTime, monthBoundary, shifted.clock.turnSeconds, read, last, whole]
    exact getNextTickTime_add (admitted.trans (by decide))

/-- All that is projected, and all ticks, are as they were. -/
structure Restored (zoneMinutes : Int) (world final : TurnWorld) : Prop where
  clock : final.state.clock = world.state.clock
  generals : Redrawn world final
  lastTurnTick : final.state.lastTurnTick = world.state.lastTurnTick
  lastTurn : final.state.lastTurnTime = world.state.clock.instant world.state.lastTurnTick
  month : nextMonthTime zoneMinutes final.state =
    monthBoundary zoneMinutes world.state.clock world.state.lastTurnTick
  checkpoint : final.checkpoint = world.checkpoint
  auctions : final.pendingNeutralAuctions = world.pendingNeutralAuctions
  pool : final.generalPoolEntries = world.generalPoolEntries

theorem Shifted.restored {deltaMinutes : Int} {world middle final : TurnWorld}
    (away : Shifted deltaMinutes world middle) (home : Shifted (-deltaMinutes) middle final) (zoneMinutes : Int) :
    Restored zoneMinutes world final := by
  have clock : final.state.clock = world.state.clock := away.clock.back (neg_mul deltaMinutes 60000 ▸ home.clock)
  have tick := home.lastTurnTick.trans away.lastTurnTick
  have last : final.state.lastTurnTime = world.state.clock.instant world.state.lastTurnTick := by
    rw [home.lastTurnTime, clock, tick]
  refine ⟨clock, ⟨fun id => (home.generals.keys id).trans (away.generals.keys id), fun id general stored => ?_⟩, tick,
    last, ?_, ?_, ?_, ?_⟩
  · -- The second shift finds the ticks that the first one has shown.
    obtain ⟨ticks, moved, known, found, shown⟩ := away.generals.shown id general stored
    obtain ⟨again, after, taken, last, back⟩ := home.generals.shown id moved found
    obtain rfl := Except.ok.inj (shown.generalTicks.symm.trans taken)
    exact ⟨ticks, after, known, last, back⟩
  · rw [nextMonthTime, monthBoundary, last, clock]
  · rw [home.checkpoint, away.checkpoint, Option.map_map]
    cases world.checkpoint <;> simp
  · rw [home.auctions, away.auctions, List.map_map]
    exact List.map_id'' (fun auction => by simp) _
  · rw [home.pool, away.pool, Option.map_map]
    cases world.generalPoolEntries with
    | none => rfl
    | some entries =>
      simp only [Option.map_some, Function.comp_apply, List.map_map, Option.some.injEq]
      refine List.map_id'' (fun entry => ?_) _
      obtain ⟨id, name, owner, general, reserved, tick, candidate⟩ := entry
      cases reserved <;> simp

end Sammo
