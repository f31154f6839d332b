import Sammo.Lifecycle.TurnDaemon

/-! Turns are run from what is stored, up to the next month at most, and never in a pause or after a shutdown. -/

namespace Sammo.TurnDaemon

/-- The position stored last. -/
def lastSaved (start : TurnPosition) (log : List Note) : TurnPosition :=
  log.foldl (fun position note => match note with
    | .saved saved => saved
    | _ => position) start

/-- The last command that pauses or resumes has paused. -/
def pausedIn (log : List Note) : Bool :=
  log.foldl (fun paused note => match note with
    | .handled .pause => true
    | .handled .resume => false
    | _ => paused) false

/-- A shutdown has been carried out. -/
def shutIn (log : List Note) : Prop := .handled .shutdown ∈ log

/-- A run fits what has been done before it. -/
def Fits (getNextTickTime : Int → Int) (start : TurnPosition) (before : List Note) : Note → Prop
  | .ran position target _ _ =>
    position = lastSaved start before ∧ target ≤ getNextTickTime position.lastTurnTime ∧
      pausedIn before = false ∧ ¬ shutIn before
  | _ => True

/-- The daemon is what its log says, and every run in the log fits what was done before it. -/
structure Sound (getNextTickTime : Int → Int) (start : TurnPosition) (log : List Note)
    (daemon : TurnDaemonLifecycle) : Prop where
  stored : daemon.stored = lastSaved start log
  position : daemon.position = daemon.stored
  paused : daemon.manualPaused = pausedIn log
  stopping : daemon.stopping ↔ shutIn log
  fits : ∀ before note after, log = before ++ note :: after → Fits getNextTickTime start before note

variable {getNextTickTime : Int → Int} {defaultBudget : TurnRunBudget} {start : TurnPosition} {log : List Note}
  {daemon : TurnDaemonLifecycle} {input : PassInput} {note : Note} {notes : List Note}

theorem fits_snoc (fits : ∀ before note after, log = before ++ note :: after → Fits getNextTickTime start before note)
    (last : Fits getNextTickTime start log note) : ∀ before other after, log ++ [note] = before ++ other :: after →
      Fits getNextTickTime start before other := by
  intro before other after same
  rcases List.eq_nil_or_concat after with rfl | ⟨rest, final, rfl⟩
  · obtain ⟨rfl, tail⟩ := List.append_inj' same rfl
    exact (List.singleton_inj.mp tail) ▸ last
  · rw [List.concat_eq_append, ← List.cons_append, ← List.append_assoc] at same
    exact fits before other rest (List.append_inj' same rfl).1

namespace Sound

theorem congr {next : TurnDaemonLifecycle} (sound : Sound getNextTickTime start log daemon)
    (stored : next.stored = daemon.stored) (position : next.position = daemon.position)
    (paused : next.manualPaused = daemon.manualPaused) (stopping : next.stopping = daemon.stopping) :
    Sound getNextTickTime start log next :=
  ⟨stored.trans sound.stored, position.trans (sound.position.trans stored.symm), paused.trans sound.paused,
    stopping ▸ sound.stopping, sound.fits⟩

theorem failed (sound : Sound getNextTickTime start log daemon) (error : String) :
    Sound getNextTickTime start log (daemon.failed error) := sound.congr rfl rfl rfl rfl

theorem noted (sound : Sound getNextTickTime start log daemon) (fits : Fits getNextTickTime start log note)
    (same : lastSaved start (log ++ [note]) = lastSaved start log ∧ pausedIn (log ++ [note]) = pausedIn log)
    (goes : note ≠ .handled .shutdown) : Sound getNextTickTime start (log ++ [note]) daemon := by
  refine ⟨sound.stored.trans same.1.symm, sound.position, sound.paused.trans same.2.symm, ?_, fits_snoc sound.fits fits⟩
  rw [sound.stopping]
  unfold shutIn
  simp [goes.symm]

theorem saved (sound : Sound getNextTickTime start log daemon) (position : TurnPosition) :
    Sound getNextTickTime start (log ++ [.saved position]) (daemon.moved position) := by
  refine ⟨?_, rfl, ?_, ?_, fits_snoc sound.fits trivial⟩
  · simp [lastSaved, TurnDaemonLifecycle.moved]
  · simpa [pausedIn, TurnDaemonLifecycle.moved] using sound.paused
  · simpa [shutIn, TurnDaemonLifecycle.moved] using sound.stopping

theorem handleCommand (sound : Sound getNextTickTime start log daemon) (command : TurnDaemonCommand) :
    Sound getNextTickTime start (log ++ (daemon.handleCommand command).2) (daemon.handleCommand command).1 := by
  have quiet (plain : command ≠ .pause ∧ command ≠ .resume ∧ command ≠ .shutdown) :
      Sound getNextTickTime start (log ++ [.handled command]) daemon := by
    refine sound.noted trivial ⟨by simp [lastSaved], ?_⟩ fun same => plain.2.2 (Note.handled.inj same)
    unfold pausedIn
    rw [List.foldl_append]
    cases command <;> simp_all
  cases command with
  | pause =>
    refine ⟨?_, sound.position, by simp [TurnDaemonLifecycle.handleCommand, pausedIn], ?_, fits_snoc sound.fits trivial⟩
    · simpa [lastSaved, TurnDaemonLifecycle.handleCommand] using sound.stored
    · simpa [shutIn, TurnDaemonLifecycle.handleCommand] using sound.stopping
  | resume =>
    refine ⟨?_, sound.position, by simp [TurnDaemonLifecycle.handleCommand, pausedIn], ?_, fits_snoc sound.fits trivial⟩
    · simpa [lastSaved, TurnDaemonLifecycle.handleCommand] using sound.stored
    · simpa [shutIn, TurnDaemonLifecycle.handleCommand] using sound.stopping
  | shutdown =>
    refine ⟨?_, sound.position, ?_, by simp [shutIn, TurnDaemonLifecycle.handleCommand], fits_snoc sound.fits trivial⟩
    · simpa [lastSaved, TurnDaemonLifecycle.handleCommand] using sound.stored
    · simpa [pausedIn, TurnDaemonLifecycle.handleCommand] using sound.paused
  | getStatus => exact quiet (by simp)
  | run pending => exact (quiet (by simp)).congr rfl rfl rfl rfl
  | mutation outcome =>
    cases outcome with
    | error error => exact (quiet (by simp)).failed error
    | ok position =>
      cases position with
      | none => exact quiet (by simp)
      | some position =>
        have handled := (quiet (by simp)).saved position
        rwa [List.append_assoc] at handled

theorem drainCommands (sound : Sound getNextTickTime start log daemon) (commands : List TurnDaemonCommand) :
    Sound getNextTickTime start (log ++ (daemon.drainCommands commands).2) (daemon.drainCommands commands).1 := by
  -- The induction is on the commands that are left; a shutdown ends them.
  induction commands generalizing daemon log with
  | nil => simpa [TurnDaemonLifecycle.drainCommands] using sound
  | cons command rest ih =>
    have handled := sound.handleCommand command
    unfold TurnDaemonLifecycle.drainCommands
    dsimp only
    split
    · exact handled
    · rw [← List.append_assoc]
      exact ih handled

theorem waitFor (sound : Sound getNextTickTime start log daemon) (waited : Option TurnDaemonCommand) :
    Sound getNextTickTime start (log ++ (daemon.waitFor waited).2) (daemon.waitFor waited).1 := by
  cases waited with
  | none => simpa [TurnDaemonLifecycle.waitFor] using sound
  | some command => exact sound.handleCommand command

theorem runOnce (sound : Sound getNextTickTime start log daemon) (free : daemon.manualPaused = false)
    (goes : daemon.stopping = false) (input : PassInput) (pending : PendingRun) :
    Sound getNextTickTime start (log ++ (daemon.runOnce getNextTickTime defaultBudget input pending).2)
      (daemon.runOnce getNextTickTime defaultBudget input pending).1 := by
  have ran : Sound getNextTickTime start (log ++ [.ran daemon.position (min (pending.targetTime.getD input.nowMs)
      (getNextTickTime daemon.position.lastTurnTime)) pending.reason (pending.budget.getD defaultBudget)]) daemon := by
    refine sound.noted ⟨sound.position.trans sound.stored, Int.min_le_right _ _, sound.paused.symm.trans free, ?_⟩
      ⟨by simp [lastSaved], by simp [pausedIn]⟩ nofun
    intro shut
    have stopped := sound.stopping.mpr shut
    rw [goes] at stopped
    cases stopped
  unfold TurnDaemonLifecycle.runOnce
  dsimp only
  split
  · rename_i position _
    have handled := ran.saved position
    rw [List.append_assoc] at handled
    exact handled.congr rfl rfl rfl rfl
  · exact ran.congr rfl rfl rfl rfl

theorem proceed (sound : Sound getNextTickTime start log daemon) (free : daemon.manualPaused = false)
    (goes : daemon.stopping = false) (input : PassInput) :
    Sound getNextTickTime start (log ++ (daemon.proceed getNextTickTime defaultBudget input).2)
      (daemon.proceed getNextTickTime defaultBudget input).1 := by
  unfold TurnDaemonLifecycle.proceed
  dsimp only
  split
  · exact (sound.runOnce free goes input _).congr rfl rfl rfl rfl
  · split
    · exact sound.runOnce free goes input _
    · split
      all_goals first
        | exact (List.append_nil log).symm ▸ sound.failed _
        | exact (sound.saved _).congr rfl rfl rfl rfl
        | split
          · exact sound.runOnce free goes input _
          · exact sound.waitFor _

theorem goOn (sound : Sound getNextTickTime start log daemon) (goes : daemon.stopping = false) (input : PassInput) :
    Sound getNextTickTime start (log ++ (daemon.goOn getNextTickTime defaultBudget input).2)
      (daemon.goOn getNextTickTime defaultBudget input).1 := by
  unfold TurnDaemonLifecycle.goOn
  dsimp only
  split
  · split
    · refine Sound.waitFor ?_ _
      exact sound.congr rfl rfl rfl rfl
    · rw [List.append_nil]
      exact sound.congr rfl rfl rfl rfl
  · rename_i open_
    have free : daemon.manualPaused = false := by
      by_contra paused
      simp [paused] at open_
    split
    · refine Sound.proceed ?_ ?_ ?_ input
      · exact sound.congr rfl rfl rfl rfl
      · exact free
      · exact goes
    · rw [List.append_nil]
      exact sound.congr rfl rfl rfl rfl

theorem pass (sound : Sound getNextTickTime start log daemon) (input : PassInput) :
    Sound getNextTickTime start (log ++ (daemon.pass getNextTickTime defaultBudget input).2)
      (daemon.pass getNextTickTime defaultBudget input).1 := by
  have drained := sound.drainCommands input.drained
  unfold TurnDaemonLifecycle.pass
  dsimp only
  split
  · exact drained
  · rename_i goes
    rw [← List.append_assoc]
    exact drained.goOn (by simpa using goes) input

end Sound

/-- A note is no run. -/
def Note.Quiet : Note → Prop
  | .ran _ _ _ _ => False
  | _ => True

theorem handleCommand_quiet (command : TurnDaemonCommand) : ∀ note ∈ (daemon.handleCommand command).2, note.Quiet := by
  unfold TurnDaemonLifecycle.handleCommand
  split <;> simp [Note.Quiet]

theorem drainCommands_quiet (commands : List TurnDaemonCommand) :
    ∀ note ∈ (daemon.drainCommands commands).2, note.Quiet := by
  induction commands generalizing daemon with
  | nil => nofun
  | cons command rest ih =>
    unfold TurnDaemonLifecycle.drainCommands
    dsimp only
    split
    · exact handleCommand_quiet command
    · intro note member
      rcases List.mem_append.mp member with first | later
      · exact handleCommand_quiet command note first
      · exact ih note later

theorem pass_runs (member : note ∈ (daemon.pass getNextTickTime defaultBudget input).2) (runs : ¬ note.Quiet) :
    input.gatePaused = false ∧ input.mayRun = true := by
  unfold TurnDaemonLifecycle.pass at member
  dsimp only at member
  split at member
  · exact (runs (drainCommands_quiet _ note member)).elim
  · rcases List.mem_append.mp member with first | later
    · exact (runs (drainCommands_quiet _ note first)).elim
    · unfold TurnDaemonLifecycle.goOn at later
      dsimp only at later
      split at later
      · split at later
        · cases waited : input.waited with
          | none =>
            rw [waited] at later
            cases later
          | some command =>
            rw [waited] at later
            exact (runs (handleCommand_quiet command note later)).elim
        · cases later
      · rename_i open_
        split at later
        · rename_i may
          simp only [Bool.or_eq_true, not_or, Bool.not_eq_true] at open_
          exact ⟨open_.1.2, may⟩
        · cases later

/-- The passes of a run, one after another. -/
def logOf (trace : List (PassInput × List Note)) : List Note := trace.flatMap Prod.snd

end Sammo.TurnDaemon
