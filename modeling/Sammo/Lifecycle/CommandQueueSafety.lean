import Sammo.Lifecycle.CommandQueueLaws

/-! Safety of the input-event queue over every interleaving of its workers. -/

namespace Sammo

namespace CommandQueue

/-- A row that has ended keeps its status and its place. -/
def TerminalKept (before after : CommandQueue) : Prop :=
  ∀ row ∈ before.table, row.status.Terminal →
    ∃ later ∈ after.table, later.requestId = row.requestId ∧ later.status = row.status

theorem forall₂_target {event : QueueEvent} {output : QueueOutput} {old new : List InputEvent}
    (moves : List.Forall₂ (RowMove event output) old new) {row : InputEvent} (member : row ∈ old) :
    ∃ later ∈ new, RowMove event output row later := by
  induction moves with
  | nil => cases member
  | cons move _ ih =>
    rcases List.mem_cons.mp member with rfl | rest
    · exact ⟨_, List.mem_cons_self, move⟩
    · obtain ⟨later, listed, moved⟩ := ih rest
      exact ⟨later, List.mem_cons_of_mem _ listed, moved⟩

theorem run_terminalKept {normalize : InputEvent → Bool} {middle final : CommandQueue}
    {trace : List (QueueEvent × QueueOutput)} (unique : (middle.table.map (·.requestId)).Nodup)
    (run : (commandQueueMachine normalize).Run middle trace final) : TerminalKept middle final := by
  let Inv : CommandQueue → Prop := fun queue =>
    (queue.table.map (·.requestId)).Nodup ∧ TerminalKept middle queue
  have held : Inv final := by
    refine run.stateInvariant ⟨unique, fun row member _ => ⟨row, member, rfl, rfl⟩⟩ ?_
    rintro queue event output next ⟨unique, kept⟩ _ stepped
    rcases step_moves unique stepped with moves | ⟨row, ⟨_, _, _, _, apart⟩, appended, -⟩
    · refine ⟨forall₂_requests moves ▸ unique, fun row member ended => ?_⟩
      obtain ⟨current, listed, requestId, status⟩ := kept row member ended
      obtain ⟨later, present, move⟩ := forall₂_target moves listed
      exact ⟨later, present, move.requestId.trans requestId,
        (move.terminal (status ▸ ended)).trans status⟩
    · refine ⟨?_, fun row member ended => ?_⟩
      · rw [appended]
        simpa [List.nodup_append, unique] using fun other listed => (apart other listed).1
      · obtain ⟨current, listed, same⟩ := kept row member ended
        exact ⟨current, by rw [appended]; simp [listed], same⟩
  exact held.2

/-- Lease recovery is only taken while no expired row has used up its attempts. -/
def RecoversWithin (queue : CommandQueue) : QueueEvent → Prop
  | .recoverExpiredLeases now => ∀ row ∈ queue.table, row.Expired now → row.attempts < maxAttempts
  | _ => True

/-- A pending row has an attempt left, and no row has used more than it may. -/
def WithinBound (queue : CommandQueue) : Prop :=
  ∀ row ∈ queue.table, row.target = .engine →
    row.attempts ≤ maxAttempts ∧ (row.status = .pending → row.attempts < maxAttempts)

theorem step_withinBound {normalize : InputEvent → Bool} {queue next : CommandQueue}
    {event : QueueEvent} {output : QueueOutput} (unique : (queue.table.map (·.requestId)).Nodup)
    (bounded : queue.WithinBound) (within : queue.RecoversWithin event)
    (stepped : step normalize queue event = some (next, output)) : next.WithinBound := by
  rcases step_moves unique stepped with moves | ⟨row, ⟨_, status, attempts, _⟩, appended, -⟩
  · intro row member engine
    obtain ⟨old, listed, move⟩ := forall₂_source moves member
    obtain ⟨most, left⟩ := bounded old listed (move.target ▸ engine)
    rcases move.change with ⟨_, _, status, attempts⟩ | ⟨_, _, _, pending, attempts, status⟩ |
      ⟨_, _, _, attempts, ⟨pending, spare⟩ | ended⟩ | ⟨_, _, _, succeeded, attempts⟩
    · exact ⟨by omega, fun pending => by have := left (status ▸ pending); omega⟩
    · -- A claim uses the attempt a pending row has left.
      have := left pending
      refine ⟨by omega, fun again => ?_⟩
      rcases status with processing | failed
      · rw [processing] at again
        cases again
      · rw [failed] at again
        cases again
    · have room : old.attempts < maxAttempts := by
        rcases spare with room | ⟨now, rfl, expired⟩
        · exact room
        · exact within old listed expired
      exact ⟨by omega, fun _ => by omega⟩
    · refine ⟨by omega, fun pending => ?_⟩
      simp [InputEventStatus.Terminal, pending] at ended
    · refine ⟨by omega, fun pending => ?_⟩
      rw [succeeded] at pending
      cases pending
  · rw [WithinBound, appended]
    intro other member engine
    rcases List.mem_append.mp member with earlier | last
    · exact bounded other earlier engine
    · cases List.mem_singleton.mp last
      simp [attempts, maxAttempts]

end CommandQueue

/-- What the queue promises of a run: single commits, lasting ends, and bounded attempts. -/
def ProcessedSafely (normalize : InputEvent → Bool) (start final : CommandQueue)
    (trace : List (QueueEvent × QueueOutput)) : Prop :=
  (∀ requestId, commitCount trace requestId ≤ 1) ∧
  (∀ first middle second, (commandQueueMachine normalize).Run start first middle →
    (commandQueueMachine normalize).Run middle second final → middle.TerminalKept final) ∧
  ∀ requestId, claimCount trace requestId ≤ maxAttempts

/--
Every run whose lease recoveries requeue no exhausted row processes its events safely.

Commits and terminal statuses need no condition; only the attempt bound rests on it.
-/
theorem input_event_at_most_once {normalize : InputEvent → Bool} {start final : CommandQueue}
    {trace : List (QueueEvent × QueueOutput)} (queued : start.Queued)
    (run : (commandQueueMachine normalize).RunWhile CommandQueue.RecoversWithin start trace final) :
    ProcessedSafely normalize start final trace := by
  have free := run.mono fun _ _ _ => trivial
  have history := CommandQueue.run_history queued free
  refine ⟨fun requestId => ?_, fun first middle second opening rest => ?_, fun requestId => ?_⟩
  · -- A request is either in the table, where its commits are counted, or was never seen.
    by_cases present : requestId ∈ final.table.map (·.requestId)
    · obtain ⟨row, member, rfl⟩ := List.mem_map.mp present
      rcases history.once row member with none | ⟨one, _⟩ <;> omega
    · have := (history.absent requestId present).2
      omega
  · exact CommandQueue.run_terminalKept (CommandQueue.run_history queued opening).unique rest
  · by_cases present : requestId ∈ final.table.map (·.requestId)
    · obtain ⟨row, member, rfl⟩ := List.mem_map.mp present
      let Inv : List (QueueEvent × QueueOutput) → CommandQueue → Prop := fun past queue =>
        CommandQueue.History past queue ∧ queue.WithinBound
      have held : Inv trace final := by
        refine run.invariant ⟨queued.history, fun row member engine => ?_⟩ ?_
        · obtain ⟨_, attempts⟩ := queued.fresh row member engine
          simp [attempts, maxAttempts]
        · rintro past queue event output next ⟨history, bounded⟩ within stepped
          exact ⟨history.extend stepped,
            CommandQueue.step_withinBound history.unique bounded within stepped⟩
      cases target : row.target with
      | engine =>
        rw [history.counted row member target]
        exact (held.2 row member target).1
      | api =>
        rw [history.foreign row member target]
        exact Nat.zero_le _
    · have := (history.absent requestId present).1
      omega

/-- A run of worker crashes: each claim's lease runs out and the row is recovered and claimed again. -/
def crashLoop (context : ClaimContext) (row : InputEvent) : List QueueEvent :=
  [.enqueue row, .claimPending "w" 1 context, .recoverExpiredLeases 100000, .claimPending "w" 1 context,
    .recoverExpiredLeases 100000, .claimPending "w" 1 context, .recoverExpiredLeases 100000,
    .claimPending "w" 1 context]

/-- A running clock at revision one. -/
def crashContext : ClaimContext where
  now := 0
  clockPhase := .running
  clockRevision := 1
  deadlineGeneration := 1
  gameTick := 0
  united := false
  maintenanceSuspended := false
  unificationWait := false
  pendingActions := []
  raiseInvaderActions := []
  appliedSuspensions := []
  lockedRows := []

/-- The parser's verdict on a vacation command: a type tag, a user and a general. -/
def normalizeVacation (row : InputEvent) : Bool :=
  match row.payload.get? "type", row.payload.get? "userId", row.payload.get? "generalId" with
  | some (.str "vacation"), some (.str userId), some (.num _) => !userId.isEmpty
  | _, _, _ => false

/-- A vacation command just inserted by the service. -/
def freshCommand : InputEvent where
  sequence := 1
  requestId := "r"
  target := .engine
  eventType := "vacation"
  payload := [("type", .str "vacation"), ("userId", .str "u"), ("generalId", .num 1)]
  acceptedGameTick := none
  acceptedClockRevision := none
  acceptedDeadlineGeneration := none
  processingGameTick := none
  processingClockRevision := none
  processingDeadlineGeneration := none
  status := .pending
  result := none
  error := none
  attempts := 0
  lockedBy := none
  leaseUntil := none
  createdAt := 0
  processingAt := none
  completedAt := none

/-- Workers that crash after claiming let a row be processed a fourth time. -/
theorem input_event_attempts_exceeded :
    ¬ ∀ (normalize : InputEvent → Bool) (start final : CommandQueue)
      (trace : List (QueueEvent × QueueOutput)), start.Queued →
      (commandQueueMachine normalize).Run start trace final →
      ProcessedSafely normalize start final trace := by
  intro safe
  let start : CommandQueue := ⟨[], [], []⟩
  have replayed : ∃ final trace, (commandQueueMachine normalizeVacation).replay start
      (crashLoop crashContext freshCommand) = some (final, trace) ∧ claimCount trace "r" = 4 :=
    ⟨_, _, rfl, rfl⟩
  obtain ⟨final, trace, replay, count⟩ := replayed
  have queued : start.Queued := ⟨List.nodup_nil, by simp [start], rfl, rfl⟩
  obtain ⟨-, -, bounded⟩ := safe _ start final trace queued (StateMachine.run_of_replay replay)
  have := bounded "r"
  simp [count, maxAttempts] at this

/-- A run that claims and commits one command meets the condition. -/
theorem input_event_at_most_once_commit :
    ∃ final trace, (commandQueueMachine normalizeVacation).RunWhile CommandQueue.RecoversWithin
        ⟨[], [], []⟩ trace final ∧
      commitCount trace "r" = 1 ∧ ProcessedSafely normalizeVacation ⟨[], [], []⟩ final trace := by
  have queued : CommandQueue.Queued ⟨[], [], []⟩ := ⟨List.nodup_nil, by simp, rfl, rfl⟩
  have replayed : ∃ final trace, (commandQueueMachine normalizeVacation).replay ⟨[], [], []⟩
      [.enqueue freshCommand, .claimPending "w" 1 crashContext,
        .commit ⟨"r", ⟨"vacation", true, none, .null⟩, .running, 1, 1, 5⟩] = some (final, trace) ∧
      commitCount trace "r" = 1 := ⟨_, _, rfl, rfl⟩
  obtain ⟨final, trace, replay, count⟩ := replayed
  have run : (commandQueueMachine normalizeVacation).RunWhile CommandQueue.RecoversWithin
      ⟨[], [], []⟩ trace final :=
    StateMachine.runWhile_of_replay (by simp [CommandQueue.RecoversWithin]) replay
  exact ⟨final, trace, run, count, input_event_at_most_once queued run⟩

end Sammo
