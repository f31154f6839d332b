import Sammo.Clock.RuntimeClockShift
import Sammo.Lib.Effect
import Sammo.Lib.Increments
import Sammo.World.Operations

/-! A runtime clock shift is made once, while no tournament comes between the engine's shift and a later attempt. -/

namespace Sammo.RuntimeClockShift

open Effect

variable {ι : Type}

/-! ### What a writer keeps -/

/-- The record remembers the actions that have moved the dates, each of them once. -/
structure Tournament.Honest (tournament : Tournament) : Prop where
  remembered : tournament.moved = tournament.record.runtimeClockShiftActionIds
  once : tournament.moved.Nodup

variable {fence : WriterFence} {edit : TournamentEdit} {rest : String} {tournament : Tournament}
  {actionId : String} {deltaMinutes : Int} {action : GatewayAdminAction}

theorem writeState_keeps {state record : TournamentRecord} (written : writeState fence state = .ok record) :
    record.runtimeClockShiftActionIds = state.runtimeClockShiftActionIds := by
  -- Stamping the dates of the clock changes only those fields.
  unfold writeState at written
  split at written
  · rw [Except.ok.inj written]
  · simp only [TournamentStore.setState] at written
    obtain ⟨stamped, stamps, written⟩ := bind_ok written
    simp only [stampTournamentClock] at stamps
    obtain ⟨_, _, stamps⟩ := bind_ok stamps
    obtain ⟨_, _, stamps⟩ := bind_ok stamps
    obtain rfl := Except.ok.inj stamps
    split at written
    · rw [← Except.ok.inj written]
    · cases written

/-- A tournament with what it remembers, whatever else its record says. -/
def Tournament.SameShifts (next tournament : Tournament) : Prop :=
  next.number = tournament.number ∧ next.moved = tournament.moved ∧
    next.record.runtimeClockShiftActionIds = tournament.record.runtimeClockShiftActionIds

/-- A tournament that has just started has not been shifted. -/
def Tournament.StartsAfter (started : Nat) (tournament : Tournament) : Prop :=
  tournament.number = started + 1 ∧ tournament.moved = [] ∧ tournament.record.runtimeClockShiftActionIds = []

theorem editTournament_cases {started startedNow : Nat} {current : Option Tournament} {next : Tournament}
    (edited : editTournament fence started current edit = .ok (next, startedNow)) :
    (∃ tournament ∈ current, next.SameShifts tournament ∧ startedNow = started) ∨
      next.StartsAfter started ∧ startedNow = started + 1 := by
  simp only [editTournament] at edited
  obtain ⟨state, edits, writes⟩ := bind_ok edited
  obtain ⟨record, written, made⟩ := bind_ok writes
  clear edited writes
  have keeps := writeState_keeps written
  split at made
  · next tournament kept =>
    obtain ⟨present, spread⟩ := Option.filter_eq_some_iff.mp kept
    obtain ⟨rfl, rfl⟩ := Prod.mk.inj (Except.ok.inj made)
    -- The edits that are left spread the record that they have read.
    subst present
    refine .inl ⟨tournament, rfl, ⟨rfl, rfl, keeps.trans ?_⟩, rfl⟩
    cases edit with
    | start gameNow rest => simp [startsAnew] at spread
    | setState stage nextAt bettingCloseAt rest => simp [startsAnew] at spread
    | patchState stage nextAt bettingCloseAt rest => rw [← Except.ok.inj edits]
    | cancel gameNow rest => rw [← Except.ok.inj edits]
    | workerTick stage nextAt bettingCloseAt rest => rw [← Except.ok.inj edits]
  · next dropped =>
    obtain ⟨rfl, rfl⟩ := Prod.mk.inj (Except.ok.inj made)
    refine .inr ⟨⟨rfl, rfl, keeps.trans ?_⟩, rfl⟩
    -- The others fail where there is no record to spread.
    have absent (spread : startsAnew edit = false) : current = none := by
      cases current with
      | none => rfl
      | some tournament => simp [spread] at dropped
    cases edit with
    | start gameNow rest =>
      rw [← Except.ok.inj edits]
      rfl
    | setState stage nextAt bettingCloseAt rest =>
      rw [← Except.ok.inj edits]
      rfl
    | patchState stage nextAt bettingCloseAt rest =>
      rw [absent rfl] at edits
      cases edits
    | cancel gameNow rest =>
      rw [absent rfl] at edits
      cases edits
    | workerTick stage nextAt bettingCloseAt rest =>
      rw [absent rfl] at edits
      cases edits

theorem autoStarted_keeps {world : ShiftWorld ι} {keys : ClockFenceKeys} {generation now termSeconds : Int}
    {record : TournamentRecord} (starts : world.autoStarted keys generation now termSeconds rest = .ok record) :
    record.runtimeClockShiftActionIds = [] := by
  -- The record is written from the start, with an empty list of shifts.
  simp only [ShiftWorld.autoStarted] at starts
  obtain ⟨written, made, starts⟩ := bind_ok starts
  simp only [autoStartRecord] at made
  obtain ⟨_, _, made⟩ := bind_ok made
  obtain rfl := Except.ok.inj made
  split at starts
  · cases starts
  · rw [← Except.ok.inj starts]
    rfl

theorem Tournament.Honest.shift (honest : tournament.Honest) (actionId : String) (deltaMinutes : Int) :
    (tournament.shift actionId deltaMinutes).Honest ∧
      ∀ other, other ∈ (tournament.shift actionId deltaMinutes).moved ↔
        other ∈ tournament.moved ∨ other = actionId := by
  by_cases made : actionId ∈ tournament.record.runtimeClockShiftActionIds
  · -- Nothing is done, since the shift is remembered.
    have same : tournament.shift actionId deltaMinutes = tournament := by
      simp [Tournament.shift, shiftTournamentClock, made]
    have known : actionId ∈ tournament.moved := honest.remembered ▸ made
    rw [same]
    exact ⟨honest, fun other => ⟨.inl, fun held => held.elim id fun equal => equal ▸ known⟩⟩
  · have moved : (tournament.shift actionId deltaMinutes).moved = tournament.moved ++ [actionId] := by
      simp [Tournament.shift, made]
    have remembered : (tournament.shift actionId deltaMinutes).record.runtimeClockShiftActionIds =
        tournament.record.runtimeClockShiftActionIds ++ [actionId] := by
      simp [Tournament.shift, shiftTournamentClock, made]
    refine ⟨⟨by rw [moved, remembered, honest.remembered], ?_⟩, fun other => by simp [moved]⟩
    rw [moved]
    exact List.Nodup.append honest.once (List.nodup_singleton _)
      (List.disjoint_singleton.mpr (honest.remembered ▸ made))

/-! ### The engine's shift -/

theorem startedBefore_set (events : InputEvents) (actionId other : String) (deltaMinutes : Int)
    (status : InputEventStatus) :
    InputEvents.startedBefore (events.set actionId ⟨deltaMinutes, status⟩) other =
      if other = actionId then
        match status with
        | .succeeded startedBefore => some startedBefore
        | _ => none
      else InputEvents.startedBefore events other := by
  rw [InputEvents.startedBefore, OrderedMap.get?_set]
  split <;> rfl

theorem startedBefore_of_none {events : InputEvents} (absent : events.get? actionId = none) :
    events.startedBefore actionId = none := by
  rw [InputEvents.startedBefore, absent, Option.bind_none]

theorem startedBefore_ensure (events : InputEvents) (actionId other : String) (deltaMinutes : Int) :
    (ensureEngineCommand events actionId deltaMinutes).1.startedBefore other = events.startedBefore other := by
  -- A command is written only where there is none, and it waits to be carried out.
  unfold ensureEngineCommand
  split
  · next absent =>
    rw [startedBefore_set]
    split
    · next same => rw [same, startedBefore_of_none absent]
    · rfl
  · split
    · rfl
    · split <;> rfl

theorem engineDone_started {world : ShiftWorld ι} (done : world.engineDone action = some deltaMinutes) :
    ∃ n, world.events.startedBefore action.id = some n := by
  -- Only a command that has succeeded lets the attempt go on.
  unfold ShiftWorld.engineDone at done
  split at done
  · cases done
  · split at done
    · next succeeded =>
      unfold ensureEngineCommand at succeeded
      split at succeeded
      · cases succeeded
      · next row found =>
        split at succeeded
        · cases succeeded
        · split at succeeded
          · cases succeeded
          · next n status => exact ⟨n, by rw [InputEvents.startedBefore, found, Option.bind_some, status]⟩
          · cases succeeded
    · cases done

/-! ### What a run keeps -/

/-- A trace of the events and what they were answered. -/
abbrev ShiftTrace (ι : Type) := List (ShiftEvent ι × ShiftReply)

/-- How often the engine has shifted the schedule for an action. -/
def timesShifted (actionId : String) (trace : ShiftTrace ι) : Nat :=
  (trace.map fun entry => if entry.2 = .scheduleShifted actionId then 1 else 0).sum

/-- Some attempt at an action has come to its end. -/
def Applied (actionId : String) (trace : ShiftTrace ι) : Prop :=
  ∃ entry ∈ trace, ∃ active, entry.2 = .applied actionId active

/-- A tournament was there when the engine made the shift of an action. -/
def ShiftWorld.ExistedAtShift (world : ShiftWorld ι) (actionId : String) (tournament : Tournament) : Prop :=
  ∃ startedBefore, world.events.startedBefore actionId = some startedBefore ∧ tournament.number ≤ startedBefore

/-- A tournament has started since the engine made the shift of an action. -/
def ShiftWorld.StartedSinceShift (world : ShiftWorld ι) (actionId : String) (tournament : Tournament) : Prop :=
  ∃ startedBefore, world.events.startedBefore actionId = some startedBefore ∧ startedBefore < tournament.number

instance (actionId : String) (trace : ShiftTrace ι) : Decidable (Applied actionId trace) :=
  inferInstanceAs (Decidable (∃ entry ∈ trace, ∃ active, entry.2 = .applied actionId active))

instance (world : ShiftWorld ι) (actionId : String) (tournament : Tournament) :
    Decidable (world.ExistedAtShift actionId tournament) :=
  inferInstanceAs (Decidable (∃ before ∈ world.events.startedBefore actionId, tournament.number ≤ before))

instance (world : ShiftWorld ι) (actionId : String) (tournament : Tournament) :
    Decidable (world.StartedSinceShift actionId tournament) :=
  inferInstanceAs (Decidable (∃ before ∈ world.events.startedBefore actionId, before < tournament.number))

/--
No attempt comes late, and no worker writes over a shift.

An attempt meets no tournament that has started since the engine's shift, and where a worker writes without the lock,
neither a shift nor another tournament has come since it read the record.
-/
def KeepsShiftsOnce (world : ShiftWorld ι) : ShiftEvent ι → Prop
  | .shiftTournament action => ∀ tournament ∈ world.tournament, ¬ world.StartedSinceShift action.id tournament
  | .writeUnlocked writer _ _ =>
    ∀ snapshot ∈ world.snapshots writer, ∃ tournament ∈ world.tournament, tournament.number = snapshot.number ∧
      tournament.record.runtimeClockShiftActionIds = snapshot.record.runtimeClockShiftActionIds
  | _ => True

instance (world : ShiftWorld ι) : (event : ShiftEvent ι) → Decidable (KeepsShiftsOnce world event)
  | .shiftTournament _ => inferInstanceAs (Decidable (∀ _ ∈ world.tournament, _))
  | .writeUnlocked _ _ _ => inferInstanceAs (Decidable (∀ _ ∈ world.snapshots _, ∃ _ ∈ world.tournament, _))
  | .ensure _ _ | .syncAuctionTimers _ | .engine _ | .changeAuctions _ | .moveClock _ | .edit _ _ | .readUnlocked _
  | .autoStart _ _ _ _ _ => isTrue trivial

/-- No action has been requested yet, and a tournament that is there has not been shifted. -/
structure ShiftWorld.Opening (world : ShiftWorld ι) : Prop where
  noCommand : ∀ actionId, world.events.startedBefore actionId = none
  noSnapshot : ∀ writer, world.snapshots writer = none
  unmoved : ∀ tournament ∈ world.tournament, tournament.number ≤ world.started ∧ tournament.moved = [] ∧
    tournament.record.runtimeClockShiftActionIds = []

/--
What a run keeps.

The tournament has been moved for the actions that its record remembers, all of which the engine had carried out when
it was there already; and it has been moved for each of these of which an attempt has come to its end.
-/
structure ShiftsOnce (trace : ShiftTrace ι) (world : ShiftWorld ι) : Prop where
  counted : ∀ actionId startedBefore, world.events.startedBefore actionId = some startedBefore →
    startedBefore ≤ world.started
  numbered : ∀ tournament ∈ world.tournament, tournament.number ≤ world.started
  honest : ∀ tournament ∈ world.tournament, tournament.Honest
  honestRead : ∀ writer, ∀ snapshot ∈ world.snapshots writer, snapshot.Honest
  existed : ∀ tournament ∈ world.tournament, ∀ actionId ∈ tournament.moved, world.ExistedAtShift actionId tournament
  carriedOut : ∀ actionId, Applied actionId trace → (world.events.startedBefore actionId).isSome
  taken : ∀ tournament ∈ world.tournament, ∀ actionId, world.ExistedAtShift actionId tournament →
    Applied actionId trace → actionId ∈ tournament.moved

theorem ShiftWorld.Opening.shiftsOnce {world : ShiftWorld ι} (opening : world.Opening) : ShiftsOnce [] world where
  counted := fun actionId _ known => by simp [opening.noCommand actionId] at known
  numbered := fun tournament there => (opening.unmoved tournament there).1
  honest := fun tournament there => by
    obtain ⟨-, unmoved, forgotten⟩ := opening.unmoved tournament there
    exact ⟨unmoved.trans forgotten.symm, unmoved ▸ List.nodup_nil⟩
  honestRead := fun writer _ read => by simp [opening.noSnapshot writer] at read
  existed := fun tournament there actionId moved => by simp [(opening.unmoved tournament there).2.1] at moved
  carriedOut := fun _ applied => by obtain ⟨_, member, -⟩ := applied; cases member
  taken := fun _ _ _ _ applied => by obtain ⟨_, member, -⟩ := applied; cases member

theorem applied_append {trace : ShiftTrace ι} {event : ShiftEvent ι} {reply : ShiftReply} :
    Applied actionId (trace ++ [(event, reply)]) ↔
      Applied actionId trace ∨ ∃ active, reply = .applied actionId active := by
  simp [Applied, or_and_right, exists_or]

theorem applied_earlier {trace : ShiftTrace ι} {event : ShiftEvent ι} {reply : ShiftReply}
    (other : ∀ active, reply ≠ .applied actionId active) (ended : Applied actionId (trace ++ [(event, reply)])) :
    Applied actionId trace :=
  (applied_append.mp ended).resolve_right fun ⟨active, same⟩ => other active same

theorem applied_of_done {trace : ShiftTrace ι} {event : ShiftEvent ι}
    (ended : Applied actionId (trace ++ [(event, .done)])) : Applied actionId trace := by
  refine applied_earlier (fun _ same => ?_) ended
  cases same

/-- A reply that tells neither of a shift of the schedule nor of an attempt that has come to its end. -/
def ShiftReply.Quiet : ShiftReply → Prop
  | .scheduleShifted _ => False
  | .applied _ _ => False
  | _ => True

/-- No step but the engine's changes what is known of the actions. -/
def SameEngine (world next : ShiftWorld ι) : Prop :=
  ∀ actionId, next.events.startedBefore actionId = world.events.startedBefore actionId

variable {trace : ShiftTrace ι} {world next : ShiftWorld ι} {event : ShiftEvent ι} {reply : ShiftReply}

theorem ShiftsOnce.quiet (held : ShiftsOnce trace world) (silent : reply.Quiet) (engine : SameEngine world next)
    (tournament : next.tournament = world.tournament) (started : next.started = world.started)
    (snapshots : next.snapshots = world.snapshots) : ShiftsOnce (trace ++ [(event, reply)]) next := by
  -- Each part reads only what is the same before and after.
  have applied {actionId : String} : Applied actionId (trace ++ [(event, reply)]) → Applied actionId trace :=
    applied_earlier fun active same => by
      subst same
      exact silent
  have existed {actionId : String} {tournament : Tournament} :
      next.ExistedAtShift actionId tournament ↔ world.ExistedAtShift actionId tournament := by
    unfold ShiftWorld.ExistedAtShift
    rw [engine]
  refine ⟨fun actionId n known => ?_, fun t there => ?_, fun t there => ?_, fun writer t read => ?_,
    fun t there actionId moved => ?_, fun actionId ended => ?_, fun t there actionId was ended => ?_⟩
  · rw [started]
    exact held.counted actionId n (engine actionId ▸ known)
  · rw [started]
    exact held.numbered t (tournament ▸ there)
  · exact held.honest t (tournament ▸ there)
  · exact held.honestRead writer t (snapshots ▸ read)
  · exact existed.mpr (held.existed t (tournament ▸ there) actionId moved)
  · rw [engine actionId]
    exact held.carriedOut actionId (applied ended)
  · exact held.taken t (tournament ▸ there) actionId (existed.mp was) (applied ended)

theorem ShiftsOnce.engine (held : ShiftsOnce trace world) (first : world.events.startedBefore actionId = none)
    (shifts : ∀ other, next.events.startedBefore other =
      if other = actionId then some world.started else world.events.startedBefore other)
    (tournament : next.tournament = world.tournament) (started : next.started = world.started)
    (snapshots : next.snapshots = world.snapshots) :
    ShiftsOnce (trace ++ [(event, .scheduleShifted actionId)]) next := by
  have applied {other : String} : Applied other (trace ++ [(event, .scheduleShifted actionId)]) →
      Applied other trace :=
    applied_earlier fun _ same => nomatch same
  have known {other : String} (before : (world.events.startedBefore other).isSome) :
      next.events.startedBefore other = world.events.startedBefore other := by
    rw [shifts, if_neg]
    rintro rfl
    simp [first] at before
  refine ⟨fun other n done => ?_, fun t there => ?_, fun t there => ?_, fun writer t read => ?_,
    fun t there other moved => ?_, fun other ended => ?_, fun t there other was ended => ?_⟩
  · rw [started]
    rw [shifts] at done
    split at done
    · exact (Option.some.inj done).ge
    · exact held.counted other n done
  · rw [started]
    exact held.numbered t (tournament ▸ there)
  · exact held.honest t (tournament ▸ there)
  · exact held.honestRead writer t (snapshots ▸ read)
  · obtain ⟨n, done, earlier⟩ := held.existed t (tournament ▸ there) other moved
    exact ⟨n, (known (by simp [done])).trans done, earlier⟩
  · have before := held.carriedOut other (applied ended)
    rw [known before]
    exact before
  · -- An attempt that has come to its end was for an action carried out before.
    obtain ⟨n, done, earlier⟩ := was
    rw [known (held.carriedOut other (applied ended))] at done
    exact held.taken t (tournament ▸ there) other ⟨n, done, earlier⟩ (applied ended)

theorem ShiftsOnce.shifted (held : ShiftsOnce trace world) {startedBefore : Nat} {active : Bool}
    (done : world.events.startedBefore actionId = some startedBefore)
    (timely : ∀ tournament ∈ world.tournament, ¬ world.StartedSinceShift actionId tournament) :
    ShiftsOnce (trace ++ [(event, .applied actionId active)])
      { world with tournament := world.tournament.map (Tournament.shift actionId deltaMinutes) } := by
  have source {shifted : Tournament}
      (there : shifted ∈ world.tournament.map (Tournament.shift actionId deltaMinutes)) :
      ∃ tournament ∈ world.tournament, tournament.shift actionId deltaMinutes = shifted :=
    Option.mem_map.mp there
  refine ⟨held.counted, fun t there => ?_, fun t there => ?_, held.honestRead,
    fun t there other moved => ?_, fun other ended => ?_, fun t there other was ended => ?_⟩
  · obtain ⟨tournament, before, rfl⟩ := source there
    exact held.numbered tournament before
  · obtain ⟨tournament, before, rfl⟩ := source there
    exact ((held.honest tournament before).shift actionId deltaMinutes).1
  · obtain ⟨tournament, before, rfl⟩ := source there
    obtain earlier | rfl := (((held.honest tournament before).shift actionId deltaMinutes).2 other).mp moved
    · exact held.existed tournament before other earlier
    · -- The tournament has not started since, so it was there.
      exact ⟨startedBefore, done, not_lt.mp fun late => timely tournament before ⟨startedBefore, done, late⟩⟩
  · obtain earlier | ⟨_, same⟩ := applied_append.mp ended
    · exact held.carriedOut other earlier
    · obtain ⟨rfl, -⟩ := ShiftReply.applied.inj same
      simp [done]
  · obtain ⟨tournament, before, rfl⟩ := source there
    refine (((held.honest tournament before).shift actionId deltaMinutes).2 other).mpr ?_
    obtain earlier | ⟨_, same⟩ := applied_append.mp ended
    · exact .inl (held.taken tournament before other was earlier)
    · exact .inr (ShiftReply.applied.inj same).1.symm

theorem ShiftsOnce.rewritten (held : ShiftsOnce trace world) {written : Tournament}
    (there : world.tournament = some tournament) (same : written.SameShifts tournament) :
    ShiftsOnce (trace ++ [(event, .done)]) { world with tournament := some written } := by
  -- The number, the shifts made and the shifts remembered are those of the tournament before.
  obtain ⟨number, moved, remembered⟩ := same
  have before := held.honest tournament there
  refine ⟨held.counted, fun t stored => ?_, fun t stored => ?_, held.honestRead,
    fun t stored other taken => ?_, fun other ended => held.carriedOut other (applied_of_done ended),
    fun t stored other was ended => ?_⟩
  all_goals obtain rfl := Option.some.inj stored
  · exact number ▸ held.numbered tournament there
  · exact ⟨by rw [moved, remembered, before.remembered], moved ▸ before.once⟩
  · obtain ⟨n, done, earlier⟩ := held.existed tournament there other (moved ▸ taken)
    exact ⟨n, done, number ▸ earlier⟩
  · obtain ⟨n, done, earlier⟩ := was
    exact moved ▸ held.taken tournament there other ⟨n, done, number ▸ earlier⟩ (applied_of_done ended)

theorem ShiftsOnce.starts (held : ShiftsOnce trace world) (fresh : tournament.StartsAfter world.started) :
    ShiftsOnce (trace ++ [(event, .done)])
      { world with tournament := some tournament, started := world.started + 1 } := by
  obtain ⟨number, unmoved, forgotten⟩ := fresh
  refine ⟨fun other n done => Nat.le_succ_of_le (held.counted other n done), fun t stored => ?_, fun t stored => ?_,
    held.honestRead, fun t stored other taken => ?_, fun other ended => held.carriedOut other (applied_of_done ended),
    fun t stored other was ended => ?_⟩
  all_goals obtain rfl := Option.some.inj stored
  · exact number.le
  · exact ⟨unmoved.trans forgotten.symm, unmoved ▸ List.nodup_nil⟩
  · simp [unmoved] at taken
  · -- It is counted behind every tournament that an engine's shift has met.
    obtain ⟨n, done, earlier⟩ := was
    have counted := held.counted other n done
    omega

/-! ### What a step does -/

variable [DecidableEq ι]

/-- What a step makes of the actions and of the tournament, by its reply. -/
inductive Stepped (world next : ShiftWorld ι) : ShiftEvent ι → ShiftReply → Prop
  /-- Nothing happens to the actions or the tournament. -/
  | quiet {event : ShiftEvent ι} {reply : ShiftReply} (silent : reply.Quiet) (engine : SameEngine world next)
    (tournament : next.tournament = world.tournament) (started : next.started = world.started)
    (snapshots : next.snapshots = world.snapshots) : Stepped world next event reply
  /-- The engine makes the shift of an action for the first time. -/
  | engine (actionId : String) (first : world.events.startedBefore actionId = none)
    (shifts : ∀ other, next.events.startedBefore other =
      if other = actionId then some world.started else world.events.startedBefore other)
    (tournament : next.tournament = world.tournament) (started : next.started = world.started)
    (snapshots : next.snapshots = world.snapshots) : Stepped world next (.engine actionId) (.scheduleShifted actionId)
  /-- An attempt shifts the tournament for an action that the engine has carried out. -/
  | shifted {action : GatewayAdminAction} {deltaMinutes : Int} {startedBefore : Nat}
    (done : world.events.startedBefore action.id = some startedBefore)
    (shifts : next = { world with tournament := world.tournament.map (Tournament.shift action.id deltaMinutes) }) :
    Stepped world next (.shiftTournament action) (.applied action.id world.tournament.isSome)
  /-- A writer under the lock leaves the tournament with what it remembers. -/
  | rewritten {event : ShiftEvent ι} {tournament written : Tournament} (there : world.tournament = some tournament)
    (same : written.SameShifts tournament) (writes : next = { world with tournament := some written }) :
    Stepped world next event .done
  /-- Another tournament starts. -/
  | starts {event : ShiftEvent ι} {tournament : Tournament} (fresh : tournament.StartsAfter world.started)
    (writes : next = { world with tournament := some tournament, started := world.started + 1 }) :
    Stepped world next event .done
  /-- A worker reads the tournament without the lock. -/
  | reads {writer : ι}
    (reads : next = { world with snapshots := Function.update world.snapshots writer world.tournament }) :
    Stepped world next (.readUnlocked writer) .done
  /-- A worker writes what it has read without the lock. -/
  | writtenBack {writer : ι} {fence : WriterFence} {rest : String} {snapshot written : Tournament}
    (read : world.snapshots writer = some snapshot) (same : written.SameShifts snapshot)
    (writes : next = { world with tournament := some written }) :
    Stepped world next (.writeUnlocked writer fence rest) .done

theorem ensured_cases {redis : Bool} (ensures : world.ensured action redis = (next, reply)) :
    Stepped world next event reply := by
  -- The reply reports what the command has come to, and neither kind of shift.
  unfold ShiftWorld.ensured at ensures
  split at ensures
  · obtain ⟨rfl, rfl⟩ := Prod.mk.inj ensures
    exact .quiet trivial (fun _ => rfl) rfl rfl rfl
  · next deltaMinutes resolved =>
    obtain ⟨rfl, rfl⟩ := Prod.mk.inj ensures
    refine .quiet ?_ (fun other => startedBefore_ensure ..) rfl rfl rfl
    split
    · trivial
    · trivial
    · split <;> trivial

theorem engineShift_cases (pending : world.events.get? actionId = some ⟨deltaMinutes, .pending⟩)
    (shifts : world.engineShift actionId deltaMinutes = (next, reply)) :
    Stepped world next (.engine actionId) reply := by
  -- A pending command has not been carried out before.
  have first : world.events.startedBefore actionId = none := by
    rw [InputEvents.startedBefore, pending, Option.bind_some]
  unfold ShiftWorld.engineShift at shifts
  split at shifts
  · obtain ⟨rfl, rfl⟩ := Prod.mk.inj shifts
    exact .engine actionId first (fun other => startedBefore_set ..) rfl rfl rfl
  · obtain ⟨rfl, rfl⟩ := Prod.mk.inj shifts
    refine .quiet trivial (fun other => ?_) rfl rfl rfl
    rw [startedBefore_set]
    split
    · next same => rw [same, first]
    · rfl

theorem edit_cases (stepped : world.step (.edit fence edit) = some (next, reply)) :
    Stepped world next (.edit fence edit) reply := by
  simp only [ShiftWorld.step] at stepped
  split at stepped
  · next tournament started edited =>
    obtain ⟨rfl, rfl⟩ := Prod.mk.inj (Option.some.inj stepped)
    obtain ⟨current, there, same, count⟩ | ⟨fresh, count⟩ := editTournament_cases edited
    · exact .rewritten there same (by rw [count])
    · exact .starts fresh (by rw [count])
  · -- A write that the fence refuses changes nothing.
    obtain ⟨rfl, rfl⟩ := Prod.mk.inj (Option.some.inj stepped)
    exact .quiet trivial (fun _ => rfl) rfl rfl rfl

theorem writeUnlocked_cases {writer : ι}
    (stepped : world.step (.writeUnlocked writer fence rest) = some (next, reply)) :
    Stepped world next (.writeUnlocked writer fence rest) reply := by
  simp only [ShiftWorld.step] at stepped
  split at stepped
  · cases stepped
  · next snapshot read =>
    split at stepped
    · next record written =>
      obtain ⟨rfl, rfl⟩ := Prod.mk.inj (Option.some.inj stepped)
      have same : ({ snapshot with record } : Tournament).SameShifts snapshot :=
        ⟨rfl, rfl, (writeState_keeps written).trans rfl⟩
      exact .writtenBack read same rfl
    · obtain ⟨rfl, rfl⟩ := Prod.mk.inj (Option.some.inj stepped)
      exact .quiet trivial (fun _ => rfl) rfl rfl rfl

theorem step_cases (stepped : world.step event = some (next, reply)) : Stepped world next event reply := by
  cases event with
  | ensure action redis => exact ensured_cases (Option.some.inj stepped)
  | syncAuctionTimers action =>
    simp only [ShiftWorld.step] at stepped
    split at stepped
    · obtain ⟨rfl, rfl⟩ := Prod.mk.inj (Option.some.inj stepped)
      exact .quiet trivial (fun _ => rfl) rfl rfl rfl
    · cases stepped
  | shiftTournament action =>
    simp only [ShiftWorld.step] at stepped
    split at stepped
    · cases stepped
    · next deltaMinutes done =>
      obtain ⟨rfl, rfl⟩ := Prod.mk.inj (Option.some.inj stepped)
      obtain ⟨startedBefore, known⟩ := engineDone_started done
      exact .shifted known rfl
  | engine actionId =>
    simp only [ShiftWorld.step] at stepped
    split at stepped
    · next deltaMinutes pending => exact engineShift_cases pending (Option.some.inj stepped)
    · cases stepped
  | changeAuctions auctions =>
    obtain ⟨rfl, rfl⟩ := Prod.mk.inj (Option.some.inj stepped)
    exact .quiet trivial (fun _ => rfl) rfl rfl rfl
  | moveClock clock =>
    obtain ⟨rfl, rfl⟩ := Prod.mk.inj (Option.some.inj stepped)
    exact .quiet trivial (fun _ => rfl) rfl rfl rfl
  | edit fence edit => exact edit_cases stepped
  | readUnlocked writer =>
    obtain ⟨rfl, rfl⟩ := Prod.mk.inj (Option.some.inj stepped)
    exact .reads rfl
  | writeUnlocked writer fence rest => exact writeUnlocked_cases stepped
  | autoStart keys generation now termSeconds rest =>
    simp only [ShiftWorld.step] at stepped
    split at stepped
    · cases stepped
    · split at stepped
      · next record starts =>
        obtain ⟨rfl, rfl⟩ := Prod.mk.inj (Option.some.inj stepped)
        exact .starts ⟨rfl, rfl, autoStarted_keeps starts⟩ rfl
      · obtain ⟨rfl, rfl⟩ := Prod.mk.inj (Option.some.inj stepped)
        exact .quiet trivial (fun _ => rfl) rfl rfl rfl

/-! ### Runs -/

theorem schedule_shifted_once {admits : ShiftWorld ι → ShiftEvent ι → Prop} {start final : ShiftWorld ι}
    {trace : ShiftTrace ι} (opening : start.Opening) (run : (shiftMachine ι).RunWhile admits start trace final)
    (actionId : String) :
    timesShifted actionId trace = if (final.events.startedBefore actionId).isSome then 1 else 0 := by
  -- Being carried out is a measure that only the engine's shift raises.
  let carriedOut (world : ShiftWorld ι) : Nat := if (world.events.startedBefore actionId).isSome then 1 else 0
  have raises : ∀ state event output next, True → admits state event →
      (shiftMachine ι).step state event = some (next, output) →
      True ∧ carriedOut next = carriedOut state + if output = .scheduleShifted actionId then 1 else 0 := by
    intro state event reply next _ _ stepped
    refine ⟨trivial, ?_⟩
    cases step_cases stepped with
    | quiet silent engine =>
      have other : reply ≠ .scheduleShifted actionId := by
        rintro rfl
        exact silent
      simp only [carriedOut, engine actionId, if_neg other, add_zero]
    | engine shiftedId first shifts =>
      by_cases same : actionId = shiftedId
      · subst same
        simp [carriedOut, shifts, first]
      · simp [carriedOut, shifts, same, Ne.symm same]
    | shifted done shifts =>
      subst shifts
      simp [carriedOut]
    | rewritten there same writes =>
      subst writes
      simp [carriedOut]
    | starts fresh writes =>
      subst writes
      simp [carriedOut]
    | reads reads =>
      subst reads
      simp [carriedOut]
    | writtenBack read same writes =>
      subst writes
      simp [carriedOut]
  have total := (run.telescopes carriedOut (fun entry => if entry.2 = .scheduleShifted actionId then 1 else 0)
    trivial raises).2
  have none_ : carriedOut start = 0 := by simp [carriedOut, opening.noCommand actionId]
  rw [none_, zero_add] at total
  exact total.symm

theorem ShiftsOnce.reads (held : ShiftsOnce trace world) (writer : ι) :
    ShiftsOnce (trace ++ [(event, .done)])
      { world with snapshots := Function.update world.snapshots writer world.tournament } := by
  -- What the worker has read is the tournament itself, which is honest.
  refine ⟨held.counted, held.numbered, held.honest, fun other snapshot read => ?_, held.existed,
    fun other ended => held.carriedOut other (applied_of_done ended),
    fun t there other was ended => held.taken t there other was (applied_of_done ended)⟩
  by_cases same : other = writer
  · subst same
    exact held.honest snapshot (by simpa using read)
  · exact held.honestRead other snapshot (by simpa [Function.update_of_ne same] using read)

theorem ShiftsOnce.step (held : ShiftsOnce trace world) (admitted : KeepsShiftsOnce world event)
    (stepped : world.step event = some (next, reply)) : ShiftsOnce (trace ++ [(event, reply)]) next := by
  cases step_cases stepped with
  | quiet silent engine tournament started snapshots => exact held.quiet silent engine tournament started snapshots
  | engine actionId first shifts tournament started snapshots =>
    exact held.engine first shifts tournament started snapshots
  | shifted done shifts =>
    subst shifts
    exact held.shifted done admitted
  | rewritten there same writes =>
    subst writes
    exact held.rewritten there same
  | starts fresh writes =>
    subst writes
    exact held.starts fresh
  | @reads writer reads =>
    subst reads
    exact held.reads writer
  | writtenBack read same writes =>
    subst writes
    -- What was read has the shifts of the tournament that is there.
    rename_i snapshot written
    obtain ⟨tournament, there, number, remembered⟩ := admitted snapshot read
    have moved : snapshot.moved = tournament.moved := by
      rw [(held.honestRead _ snapshot read).remembered, (held.honest tournament there).remembered, remembered]
    exact held.rewritten there
      ⟨same.1.trans number.symm, same.2.1.trans moved, same.2.2.trans remembered.symm⟩

/--
While no attempt comes late, and no worker writes over a shift, every runtime clock shift is made exactly once.

The engine shifts the schedule at most once, and once if it carries the command out.
A tournament that was there then is moved at most once, and once if an attempt has come to its end.
A tournament that has started since is not moved.
-/
theorem shifts_exactly_once {start final : ShiftWorld ι} {trace : ShiftTrace ι} (opening : start.Opening)
    (run : (shiftMachine ι).RunWhile KeepsShiftsOnce start trace final) (actionId : String) :
    (timesShifted actionId trace ≤ 1 ∧
      ((final.events.startedBefore actionId).isSome → timesShifted actionId trace = 1)) ∧
    ∀ tournament ∈ final.tournament,
      (final.ExistedAtShift actionId tournament → tournament.moved.count actionId ≤ 1 ∧
        (Applied actionId trace → tournament.moved.count actionId = 1)) ∧
      (final.StartedSinceShift actionId tournament → tournament.moved.count actionId = 0) := by
  have once := schedule_shifted_once opening run actionId
  have held : ShiftsOnce trace final := run.invariant opening.shiftsOnce
    fun _ _ _ _ _ held admitted stepped => held.step admitted stepped
  refine ⟨⟨?_, fun carriedOut => by rw [once, if_pos carriedOut]⟩, fun tournament there => ⟨fun was => ⟨?_, ?_⟩, ?_⟩⟩
  · rw [once]
    split <;> decide
  · exact List.nodup_iff_count_le_one.mp (held.honest tournament there).once actionId
  · intro ended
    have moved := held.taken tournament there actionId was ended
    exact List.count_eq_one_of_mem (held.honest tournament there).once moved
  · -- A tournament that has been moved was there.
    intro ⟨n, done, late⟩
    refine List.count_eq_zero.mpr fun moved => ?_
    obtain ⟨m, known, early⟩ := held.existed tournament there actionId moved
    obtain rfl : n = m := Option.some.inj (done.symm.trans known)
    omega

/-- A game with hourly turns, and the tournament that is in it. -/
def game (tournament : Option Tournament) : ShiftWorld Unit where
  clock := InMemoryTurnWorld.openingClock
  events := .empty
  auctions := .empty
  timers := .empty
  tournament
  started := if tournament.isSome then 1 else 0
  snapshots := fun _ => none

/-- The first tournament of a game, which goes on after ten minutes. -/
def firstTournament : Tournament := ⟨newRecord 1 (some 600000) none "", 1, []⟩

/-- A delay of an hour. -/
def delay : GatewayAdminAction := ⟨"delay", "DELAY", some 60⟩

theorem game_opening (tournament : Option Tournament) (first : ∀ t ∈ tournament, t = firstTournament) :
    (game tournament).Opening where
  noCommand := fun _ => rfl
  noSnapshot := fun _ => rfl
  unmoved := fun t there => by
    obtain rfl := first t there
    obtain rfl : tournament = some firstTournament := there
    exact ⟨le_refl _, rfl, rfl⟩

theorem tournament_after_replay (start : ShiftWorld Unit) (events : List (ShiftEvent Unit))
    (holds : ShiftWorld Unit → ShiftTrace Unit → Tournament → Prop)
    [∀ final trace tournament, Decidable (holds final trace tournament)]
    (computed : ((shiftMachine Unit).replay start events).any fun result =>
      result.1.tournament.any fun tournament => holds result.1 result.2 tournament) :
    ∃ trace final tournament, (shiftMachine Unit).replay start events = some (final, trace) ∧
      final.tournament = some tournament ∧ holds final trace tournament := by
  obtain ⟨⟨final, trace⟩, replayed, computed⟩ := (Option.any_eq_true _ _).mp computed
  obtain ⟨tournament, there, computed⟩ := (Option.any_eq_true _ _).mp computed
  exact ⟨trace, final, tournament, replayed, there, of_decide_eq_true computed⟩

/-- Between two attempts the worker goes on with the tournament, which is delayed once. -/
theorem shifts_exactly_once_retried : ∃ trace final tournament,
    (shiftMachine Unit).RunWhile KeepsShiftsOnce (game (some firstTournament)) trace final ∧
      final.tournament = some tournament ∧ tournament.record.nextAt = some 4260000 ∧
      timesShifted "delay" trace = 1 ∧ tournament.moved.count "delay" = 1 := by
  let events : List (ShiftEvent Unit) := [.ensure delay true, .engine "delay", .ensure delay true,
    .shiftTournament delay, .edit none (.workerTick 2 (some 4260000) none ""), .ensure delay true,
    .syncAuctionTimers delay, .shiftTournament delay]
  have guarded : (shiftMachine Unit).Guarded KeepsShiftsOnce (game (some firstTournament)) events := by
    decide +kernel
  obtain ⟨trace, final, tournament, replayed, there, carriedOut, was, ended, next⟩ :=
    tournament_after_replay (game (some firstTournament)) events (fun final trace tournament =>
      (final.events.startedBefore "delay").isSome ∧ final.ExistedAtShift "delay" tournament ∧
        Applied "delay" trace ∧ tournament.record.nextAt = some 4260000) (by decide +kernel)
  have run := StateMachine.runWhile_of_guarded guarded replayed
  have opening := game_opening (some firstTournament) fun t there => (Option.some.inj there).symm
  have once := shifts_exactly_once opening run "delay"
  exact ⟨trace, final, tournament, run, there, next, once.1.2 carriedOut, ((once.2 tournament there).1 was).2 ended⟩

/--
A tournament that has started by itself since the engine's shift is moved by an attempt that is made again.

And a tournament that was there is not moved at all, where a worker writes over the shift what it has read before.
-/
theorem shifts_late_or_lost :
    ((game none).Opening ∧ ∃ trace final tournament,
      (shiftMachine Unit).Run (game none) trace final ∧ final.tournament = some tournament ∧
        final.StartedSinceShift "delay" tournament ∧ tournament.moved.count "delay" = 1 ∧
        tournament.record.nextAt = some 7800000) ∧
    ((game (some firstTournament)).Opening ∧ ∃ trace final tournament,
      (shiftMachine Unit).Run (game (some firstTournament)) trace final ∧ final.tournament = some tournament ∧
        final.ExistedAtShift "delay" tournament ∧ Applied "delay" trace ∧ tournament.moved.count "delay" = 0 ∧
        tournament.record.nextAt = some 600000) := by
  refine ⟨⟨game_opening none (by rintro t ⟨⟩), ?_⟩,
    ⟨game_opening (some firstTournament) fun t there => (Option.some.inj there).symm, ?_⟩⟩
  · -- The daemon stops after the engine's shift, and a tournament starts before the attempt is made again.
    obtain ⟨trace, final, tournament, replayed, there, shifted⟩ := tournament_after_replay (game none)
      [.ensure delay false, .engine "delay", .ensure delay false,
        .autoStart ⟨some 1, some 1, some .running⟩ 1 600000 60 "", .ensure delay true, .syncAuctionTimers delay,
        .shiftTournament delay]
      (fun final _ tournament => final.StartedSinceShift "delay" tournament ∧ tournament.moved.count "delay" = 1 ∧
        tournament.record.nextAt = some 7800000) (by decide +kernel)
    exact ⟨trace, final, tournament, StateMachine.run_of_replay replayed, there, shifted⟩
  · obtain ⟨trace, final, tournament, replayed, there, lost⟩ := tournament_after_replay (game (some firstTournament))
      [.ensure delay true, .engine "delay", .readUnlocked (), .shiftTournament delay, .writeUnlocked () none "error"]
      (fun final trace tournament => final.ExistedAtShift "delay" tournament ∧ Applied "delay" trace ∧
        tournament.moved.count "delay" = 0 ∧ tournament.record.nextAt = some 600000) (by decide +kernel)
    exact ⟨trace, final, tournament, StateMachine.run_of_replay replayed, there, lost⟩

end Sammo.RuntimeClockShift
