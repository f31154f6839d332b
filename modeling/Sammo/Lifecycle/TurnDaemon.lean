import Sammo.Lib.StateMachine
import Sammo.Time.GameClock
import Sammo.World.Entities

/-! The loop of the turn daemon: commands, pauses and gates, and the runs of turns that they let through. -/

namespace Sammo.TurnDaemon

/-- Why turns are run. -/
inductive RunReason where
  | schedule
  | manual
  | poke
  deriving DecidableEq

/-- How much a run may do. -/
structure TurnRunBudget where
  budgetMs : Nat
  maxGenerals : Nat
  catchUpCap : Nat
  deriving DecidableEq

/-- A run that has been asked for. -/
structure PendingRun where
  reason : RunReason
  targetTime : Option Int
  budget : Option TurnRunBudget
  deriving DecidableEq

/-- How far the turns are, as a run, a rebase or an edit of the schedule leaves it. -/
structure TurnPosition where
  lastTurnTime : Int
  checkpoint : Option TurnCheckpoint
  deriving DecidableEq

/-- A command; of one that changes the game the outcome is given, with the position after an edit of the schedule. -/
inductive TurnDaemonCommand where
  | pause
  | resume
  | shutdown
  | getStatus
  | run (pending : PendingRun)
  | mutation (outcome : Except String (Option TurnPosition))

/-- What the daemon shows of itself. -/
inductive TurnDaemonState where
  | idle
  | running
  | flushing
  | paused
  | stopping
  deriving DecidableEq

/-- The daemon; `stored` is what the store of the turn state holds. -/
structure TurnDaemonLifecycle where
  state : TurnDaemonState
  running : Bool
  paused : Bool
  lastError : Option String
  position : TurnPosition
  pendingReason : Option RunReason
  pendingRun : Option PendingRun
  stopping : Bool
  manualPaused : Bool
  errorPaused : Bool
  stored : TurnPosition

/-- The game clock as the daemon reads it. -/
structure GameClockView where
  phase : Option GameClockPhase
  manual : Bool
  now : Int
  startsAt : Option Int

/-- What one pass of the loop finds around it. -/
structure PassInput where
  gatePaused : Bool
  drained : List TurnDaemonCommand
  /-- The command that a wait of the pass ends with, if it does. -/
  waited : Option TurnDaemonCommand
  shouldHaltScheduledRuns : Bool
  nowMs : Int
  gameClock : Option GameClockView
  /-- The clock after the opening, where the store can open the game. -/
  promoted : Option (Option GameClockView)
  nextGeneralTurnTime : Option Int
  /-- What a rebase of the backlog comes to, if it is called for. -/
  rebase : Option (Except String (Option TurnPosition))
  /-- What the processor and the flush come to for a target, in one transaction. -/
  run : Int → Except String TurnPosition

/-- What a pass does, in order. -/
inductive Note where
  | handled (command : TurnDaemonCommand)
  /-- The processor is run from a position up to a target. -/
  | ran (start : TurnPosition) (target : Int) (reason : RunReason) (budget : TurnRunBudget)
  | saved (position : TurnPosition)

namespace TurnDaemonLifecycle

/-- The daemon after the turn state has been loaded. -/
def initializeState (stored : TurnPosition) : TurnDaemonLifecycle :=
  { state := .idle, running := false, paused := false, lastError := none, position := stored, pendingReason := none
    pendingRun := none, stopping := false, manualPaused := false, errorPaused := false, stored }

/-- The daemon after an error has rolled back what was under way. -/
def failed (daemon : TurnDaemonLifecycle) (error : String) : TurnDaemonLifecycle :=
  { daemon with state := .paused, running := false, paused := true, errorPaused := true, lastError := some error }

/-- The daemon at a new position, which is stored as well. -/
def moved (daemon : TurnDaemonLifecycle) (position : TurnPosition) : TurnDaemonLifecycle :=
  { daemon with position, stored := position }

/-- Carries a command out. -/
def handleCommand (daemon : TurnDaemonLifecycle) (command : TurnDaemonCommand) : TurnDaemonLifecycle × List Note :=
  match command with
  | .pause => ({ daemon with manualPaused := true, paused := true, state := .paused }, [.handled command])
  | .resume =>
    ({ daemon with manualPaused := false, paused := daemon.errorPaused, state := .idle }, [.handled command])
  | .shutdown => ({ daemon with state := .stopping, stopping := true }, [.handled command])
  | .getStatus => (daemon, [.handled command])
  | .run pending =>
    ({ daemon with pendingRun := some pending, pendingReason := some pending.reason }, [.handled command])
  | .mutation (.error error) => (daemon.failed error, [.handled command])
  | .mutation (.ok none) => (daemon, [.handled command])
  | .mutation (.ok (some position)) => (daemon.moved position, [.handled command, .saved position])

/-- Carries commands out in order; after a shutdown the rest is left. -/
def drainCommands (daemon : TurnDaemonLifecycle) : List TurnDaemonCommand → TurnDaemonLifecycle × List Note
  | [] => (daemon, [])
  | command :: rest =>
    let handled := daemon.handleCommand command
    if handled.1.stopping then handled
    else
      let later := drainCommands handled.1 rest
      (later.1, handled.2 ++ later.2)

/-- Carries out the command that a wait has ended with. -/
def waitFor (daemon : TurnDaemonLifecycle) (waited : Option TurnDaemonCommand) : TurnDaemonLifecycle × List Note :=
  match waited with
  | some command => daemon.handleCommand command
  | none => (daemon, [])

section

variable (getNextTickTime : Int → Int) (defaultBudget : TurnRunBudget)

/-- Runs turns up to a target, but not past the next month. -/
def runOnce (daemon : TurnDaemonLifecycle) (input : PassInput) (pending : PendingRun) :
    TurnDaemonLifecycle × List Note :=
  let requestedTargetTime := pending.targetTime.getD input.nowMs
  let targetTime := min requestedTargetTime (getNextTickTime daemon.position.lastTurnTime)
  let running := { daemon with pendingReason := some pending.reason }
  let note := Note.ran daemon.position targetTime pending.reason (pending.budget.getD defaultBudget)
  match input.run targetTime with
  | .ok position => ({ running.moved position with state := .idle, running := false }, [note, .saved position])
  | .error error => (running.failed error, [note])

/-- The time of the next turn: that of the next general, if it is before the month. -/
def resolveNextRunTime (daemon : TurnDaemonLifecycle) (input : PassInput) : Int :=
  let nextTickTime := getNextTickTime daemon.position.lastTurnTime
  match input.nextGeneralTurnTime with
  | some turnTime => if turnTime < nextTickTime then turnTime else nextTickTime
  | none => nextTickTime

end

end TurnDaemonLifecycle

namespace PassInput

/-- The game clock, after the game has been opened if it was waiting for that. -/
def clock (input : PassInput) : Option GameClockView :=
  if (input.gameClock.bind GameClockView.phase) = some .preopen then input.promoted.getD input.gameClock
  else input.gameClock

/-- Turns may be run: nothing halts them, the clock is going, and the game has started. -/
def mayRun (input : PassInput) : Bool :=
  ¬ input.shouldHaltScheduledRuns ∧ input.clock.all fun clock =>
    (clock.phase.all fun phase => phase = .running ∨ phase = .manual) ∧
      (clock.manual ∨ clock.startsAt.all fun startsAt => startsAt ≤ input.nowMs)

end PassInput

namespace TurnDaemonLifecycle

variable (getNextTickTime : Int → Int) (defaultBudget : TurnRunBudget)

/-- What a pass does once nothing keeps it from running turns. -/
def proceed (daemon : TurnDaemonLifecycle) (input : PassInput) : TurnDaemonLifecycle × List Note :=
  let run := daemon.runOnce getNextTickTime defaultBudget input
  match daemon.pendingRun with
  | some pending => ({ (run pending).1 with pendingRun := none }, (run pending).2)
  | none =>
    let nextRunTime := daemon.resolveNextRunTime getNextTickTime input
    let scheduled (targetTime : Int) := run ⟨.schedule, some targetTime, none⟩
    match input.clock.filter GameClockView.manual with
    | some clock =>
      scheduled (if nextRunTime < clock.now then clock.now - 1 else getNextTickTime daemon.position.lastTurnTime)
    | none =>
      let due := fun _ : Unit =>
        let gameNow := (input.clock.map GameClockView.now).getD input.nowMs
        if nextRunTime ≤ gameNow then scheduled (min gameNow (getNextTickTime daemon.position.lastTurnTime))
        else daemon.waitFor input.waited
      -- Only a clock that goes with real time has a backlog.
      match if input.clock.isSome then input.rebase else none with
      | none | some (.ok none) => due ⟨⟩
      | some (.error error) => (daemon.failed error, [])
      | some (.ok (some position)) => ({ daemon.moved position with state := .idle }, [.saved position])

/-- What a pass does after the commands: it waits in a pause, and runs turns if it may. -/
def goOn (daemon : TurnDaemonLifecycle) (input : PassInput) : TurnDaemonLifecycle × List Note :=
  let errorPaused := daemon.errorPaused && input.gatePaused
  let cleared :=
    { daemon with errorPaused, lastError := if daemon.errorPaused ∧ ¬ input.gatePaused then none else daemon.lastError }
  if daemon.manualPaused || input.gatePaused || errorPaused then
    let waiting := { cleared with paused := true, state := .paused }
    if daemon.manualPaused then waiting.waitFor input.waited else (waiting, [])
  else
    let ready := { cleared with paused := false, state := if daemon.state = .paused then .idle else daemon.state }
    if input.mayRun then ready.proceed getNextTickTime defaultBudget input else (ready, [])

/-- One pass of the loop. -/
def pass (daemon : TurnDaemonLifecycle) (input : PassInput) : TurnDaemonLifecycle × List Note :=
  let drained := daemon.drainCommands input.drained
  if drained.1.stopping then drained
  else
    let ended := drained.1.goOn getNextTickTime defaultBudget input
    (ended.1, drained.2 ++ ended.2)

/-- The loop, which ends with a shutdown. -/
def runLoop : StateMachine TurnDaemonLifecycle PassInput (List Note) where
  step daemon input := if daemon.stopping then none else some (daemon.pass getNextTickTime defaultBudget input)

end TurnDaemonLifecycle

end Sammo.TurnDaemon
