import Mathlib.Data.List.Range
import Sammo.Turns.ReservedTurnLaws

/-! No lost update of the reserved turns, over every interleaving of edits and daemon turns. -/

namespace Sammo

/-- A memory with nothing to write and no lease. -/
def TurnQueueMemory.Clean (memory : TurnQueueMemory) : Prop :=
  memory.dirty = false ∧ memory.leased = false

namespace TurnDaemon

/-- The marks a daemon carries in each phase of a turn. -/
def Marked (daemon : TurnDaemon) : Prop :=
  match daemon.phase with
  | .outside => daemon.memory.Clean
  | .started => daemon.memory.Clean ∧ daemon.saved.Clean
  | .leased _ => daemon.memory.dirty = false ∧ daemon.memory.leased = true ∧ daemon.saved.Clean
  | .refreshing _ _ => daemon.memory.dirty = false ∧ daemon.memory.leased = true ∧ daemon.saved.Clean
  | .prepared => daemon.memory.dirty = false ∧ daemon.memory.leased = true ∧ daemon.saved.Clean
  | .executed => daemon.memory.dirty = true ∧ daemon.memory.leased = true ∧ daemon.saved.Clean
  | .stopped => True

/-- What a daemon that still holds the lease knows of the stored queue. -/
def Knows (daemon : TurnDaemon) (tables : TurnQueueTables) : Prop :=
  match daemon.phase with
  | .refreshing _ rows => rows = tables.rows
  | .prepared => daemon.memory.turns = some tables.loadGeneralTurns
  | .executed => daemon.memory.turns = some (storeApplyShift tables.loadGeneralTurns (-1))
  | _ => True

/-- The daemon has refreshed the queue and not yet written it. -/
def awaitsFlush (daemon : TurnDaemon) : Prop := daemon.phase = .prepared ∨ daemon.phase = .executed

variable {daemon : TurnDaemon}

theorem rollback_marked (marked : daemon.Marked) (inside : daemon.inTransaction = true) :
    daemon.rollback.Marked := by
  simp only [inTransaction] at inside
  simp only [Marked, rollback] at marked ⊢
  split at marked <;> simp_all

theorem rollback_knows (daemon : TurnDaemon) (tables : TurnQueueTables) : daemon.rollback.Knows tables :=
  trivial

theorem Knows.of_rows {tables after : TurnQueueTables} (knows : daemon.Knows tables)
    (rows : after.rows = tables.rows) : daemon.Knows after := by
  simp only [Knows, TurnQueueTables.loadGeneralTurns, rows] at knows ⊢
  exact knows

end TurnDaemon

namespace TurnQueueWorld

variable {ι : Type} {owner : ι → String}

/-- The marks of every daemon fit its phase, and the one that holds the lease knows the stored queue. -/
structure Coherent (owner : ι → String) (world : TurnQueueWorld ι) : Prop where
  marked : ∀ daemon, (world.daemons daemon).Marked
  knows : ∀ daemon, world.tables.leaseOwner = some (owner daemon) →
    (world.daemons daemon).Knows world.tables

variable {world : TurnQueueWorld ι} {tables : TurnQueueTables}

theorem Initial.coherent (initial : world.Initial) : Coherent owner world where
  marked daemon := by
    simp only [TurnDaemon.Marked, initial.outside daemon]
    exact initial.clean daemon
  knows daemon _ := by simp [TurnDaemon.Knows, initial.outside daemon]

/--
A prefetch that lands does not disturb a queue about to be written.

While the daemon holds the lease, between its refresh and its flush, the rows the prefetch has read must
denote the queue the daemon remembers.
-/
def PrefetchHarmless (owner : ι → String) (world : TurnQueueWorld ι) : TurnQueueEvent ι → Prop
  | .assignPrefetch daemon index =>
    ∀ rows, (world.daemons daemon).prefetches[index]? = some (.read rows) →
      world.tables.leaseOwner = some (owner daemon) → (world.daemons daemon).awaitsFlush →
      (world.daemons daemon).memory.turns = some (buildTurnListFromRows rows maxGeneralTurns)
  | _ => True

theorem Coherent.unleased (coherent : Coherent owner world) (unleased : tables.leaseOwner = none) :
    Coherent owner { world with tables } where
  marked := coherent.marked
  knows daemon held := by simp [unleased] at held

/-- What one event does to the stored queue, as its output reports it. -/
def Reported (world next : TurnQueueWorld ι) : TurnQueueOutput → Prop
  | .changed revision change =>
    world.tables.ChangedTo next.tables (change.effect world.tables.loadGeneralTurns) ∧
      next.tables.revision = revision
  | _ => next.tables.loadGeneralTurns = world.tables.loadGeneralTurns ∧
    next.tables.revision = world.tables.revision

variable [DecidableEq ι]

variable {daemon : ι} {state : TurnDaemon} {next : TurnQueueWorld ι} {output : TurnQueueOutput} {now : Int}
  {acknowledged : Bool} {event : TurnQueueEvent ι}

theorem Coherent.moveDaemon (coherent : Coherent owner world) (distinct : Function.Injective owner)
    (lease : tables.leaseOwner = none ∨ tables.rows = world.tables.rows ∧
      (tables.leaseOwner = world.tables.leaseOwner ∨ tables.leaseOwner = some (owner daemon)))
    (marked : state.Marked) (knows : tables.leaseOwner = some (owner daemon) → state.Knows tables) :
    Coherent owner ({ world with tables }.setDaemon daemon state) where
  marked other := by
    simp only [setDaemon, Function.update_apply]
    split
    · exact marked
    · exact coherent.marked other
  knows other held := by
    simp only [setDaemon, Function.update_apply] at held ⊢
    split
    · rename_i same
      exact knows (same ▸ held)
    · -- Another daemon keeps what it knew, since no row has changed under a lease of its own.
      rename_i differs
      obtain ended | ⟨rows, same | moved⟩ := lease
      · simp [ended] at held
      · exact (coherent.knows other (same ▸ held)).of_rows rows
      · rw [moved] at held
        exact absurd (distinct (Option.some.inj held)).symm differs

theorem Coherent.moveAlone (coherent : Coherent owner world) (distinct : Function.Injective owner)
    (marked : state.Marked) (knows : world.tables.leaseOwner = some (owner daemon) → state.Knows world.tables) :
    Coherent owner (world.setDaemon daemon state) :=
  coherent.moveDaemon distinct (.inr ⟨rfl, .inl rfl⟩) marked knows

theorem reported_quiet (rows : tables.rows = world.tables.rows)
    (revision : tables.revision = world.tables.revision) :
    ({ world with tables }.setDaemon daemon state).tables.loadGeneralTurns =
      world.tables.loadGeneralTurns ∧
    ({ world with tables }.setDaemon daemon state).tables.revision = world.tables.revision :=
  ⟨by simp [setDaemon, TurnQueueTables.loadGeneralTurns, rows], revision⟩

/-- A step is sound when it keeps the world coherent and its report is true. -/
def Sound (owner : ι → String) (world next : TurnQueueWorld ι) (output : TurnQueueOutput) : Prop :=
  Coherent owner next ∧ Reported world next output

theorem Coherent.rollback_sound (coherent : Coherent owner world) (distinct : Function.Injective owner)
    (inside : (world.daemons daemon).inTransaction = true) :
    Coherent owner (world.setDaemon daemon (world.daemons daemon).rollback) :=
  coherent.moveAlone distinct (TurnDaemon.rollback_marked (coherent.marked daemon) inside)
    fun _ => TurnDaemon.rollback_knows _ _

theorem acquire_sound (coherent : Coherent owner world) (distinct : Function.Injective owner)
    (stepped : world.step owner (.acquire daemon now) = some (next, output)) :
    Sound owner world next output := by
  have marked := coherent.marked daemon
  simp only [step] at stepped
  split at stepped
  · rename_i phase
    have inside : (world.daemons daemon).inTransaction = true := by simp [TurnDaemon.inTransaction, phase]
    split at stepped
    · rename_i tables taken
      obtain ⟨rfl, rfl⟩ := Prod.mk.inj (Option.some.inj stepped)
      obtain ⟨rows, revision, held⟩ := TurnQueueTables.takeLease_some taken
      simp only [TurnDaemon.Marked, phase] at marked
      refine ⟨coherent.moveDaemon distinct (.inr ⟨rows, .inr held⟩) ?_ fun _ => trivial,
        reported_quiet rows revision⟩
      exact ⟨marked.1.1, rfl, marked.2⟩
    · obtain ⟨rfl, rfl⟩ := Prod.mk.inj (Option.some.inj stepped)
      exact ⟨coherent.rollback_sound distinct inside, reported_quiet rfl rfl⟩
  · cases stepped

theorem prepareFails_sound (coherent : Coherent owner world) (distinct : Function.Injective owner)
    (stepped : world.step owner (.prepareFails daemon) = some (next, output)) :
    Sound owner world next output := by
  -- Whatever is given back, the daemon leaves its transaction.
  have leaves (inside : (world.daemons daemon).inTransaction = true) (releaseOnError : Bool) :
      Sound owner world
        ((if releaseOnError then { world with tables := world.tables.releaseGeneralLease (owner daemon) }
          else world).setDaemon daemon (world.daemons daemon).rollback) .quiet := by
    cases releaseOnError with
    | false => exact ⟨coherent.rollback_sound distinct inside, reported_quiet rfl rfl⟩
    | true =>
      obtain ⟨rows, revision, released⟩ := world.tables.releaseGeneralLease_cases (owner daemon)
      refine ⟨coherent.moveDaemon distinct ?_ (TurnDaemon.rollback_marked (coherent.marked daemon) inside)
        fun _ => TurnDaemon.rollback_knows _ _, reported_quiet rows revision⟩
      obtain ⟨ended, -⟩ | same := released
      · exact .inl ended
      · exact .inr ⟨rows, .inl (by rw [same])⟩
  simp only [step] at stepped
  split at stepped
  · rename_i phase
    obtain ⟨rfl, rfl⟩ := Prod.mk.inj (Option.some.inj stepped)
    exact leaves (by simp [TurnDaemon.inTransaction, phase]) _
  · rename_i phase
    obtain ⟨rfl, rfl⟩ := Prod.mk.inj (Option.some.inj stepped)
    exact leaves (by simp [TurnDaemon.inTransaction, phase]) _
  · cases stepped

theorem assignPrefetch_sound {index : Nat} (coherent : Coherent owner world)
    (distinct : Function.Injective owner)
    (harmless : world.PrefetchHarmless owner (.assignPrefetch daemon index))
    (stepped : world.step owner (.assignPrefetch daemon index) = some (next, output)) :
    Sound owner world next output := by
  have marked := coherent.marked daemon
  simp only [step] at stepped
  split at stepped
  · rename_i rows _ landed
    obtain ⟨rfl, rfl⟩ := Prod.mk.inj (Option.some.inj stepped)
    refine ⟨coherent.moveAlone distinct marked fun held => ?_, reported_quiet rfl rfl⟩
    have knows := coherent.knows daemon held
    have same := harmless rows landed held
    -- Only the two phases before the flush look at the remembered queue.
    simp only [TurnDaemon.Knows, TurnQueueMemory.assignRows] at knows ⊢
    cases phase : (world.daemons daemon).phase with
    | prepared =>
      simp only [phase] at knows ⊢
      rw [← same (.inl phase), knows]
    | executed =>
      simp only [phase] at knows ⊢
      rw [← same (.inr phase), knows]
    | refreshing releaseOnError captured =>
      simp only [phase] at knows ⊢
      exact knows
    | _ => trivial
  · cases stepped

theorem flush_marks {daemon : TurnDaemon} (marked : daemon.Marked) (ready : daemon.mayFlush = true) :
    daemon.inTransaction = true ∧
      (daemon.memory.dirty = false ∨
        daemon.phase = .executed ∧ daemon.memory.dirty = true ∧ daemon.memory.leased = true) := by
  simp only [TurnDaemon.mayFlush] at ready
  simp only [TurnDaemon.Marked, TurnQueueMemory.Clean] at marked
  cases phase : daemon.phase with
  | started => simp_all [TurnDaemon.inTransaction]
  | prepared => simp_all [TurnDaemon.inTransaction]
  | executed => simp_all [TurnDaemon.inTransaction]
  | _ => simp [phase] at ready

theorem flush_sound (coherent : Coherent owner world) (distinct : Function.Injective owner)
    (stepped : world.step owner (.flush daemon now acknowledged) = some (next, output)) :
    Sound owner world next output := by
  simp only [step] at stepped
  split at stepped
  · rename_i ready
    obtain ⟨inside, marks⟩ := flush_marks (coherent.marked daemon) ready
    have rolledBack := TurnDaemon.rollback_marked (coherent.marked daemon) inside
    simp only [flushTurns] at stepped
    split at stepped
    · rename_i tables persisted
      obtain ⟨rfl, rfl⟩ := Prod.mk.inj (Option.some.inj stepped)
      obtain clean | ⟨phase, dirty, leased⟩ := marks
      · -- Nothing to write: the tables change at most in the lease.
        obtain ⟨rows, revision, lease⟩ := TurnQueueTables.persistChanges_clean clean persisted
        rw [clean]
        refine ⟨coherent.moveDaemon distinct ?_ ?_ fun _ => ?_, reported_quiet rows revision⟩
        · exact lease.elim (fun same => .inr ⟨rows, .inl (by rw [same])⟩) fun ended => .inl ended.1
        · cases acknowledged
          · exact rolledBack
          · exact ⟨rfl, rfl⟩
        · cases acknowledged <;> trivial
      · -- The executed queue is the stored one without its first turn.
        have knows := coherent.knows daemon
        simp only [TurnDaemon.Knows, phase] at knows
        have remembered (held : world.tables.leaseOwner = some (owner daemon)) :
            (world.daemons daemon).memory.getGeneralTurns =
              storeApplyShift world.tables.loadGeneralTurns (-1) := by
          simp [TurnQueueMemory.getGeneralTurns, knows held]
        obtain ⟨held, changed⟩ := TurnQueueTables.persistChanges_dirty dirty leased
          (fun held => by simp [remembered held, storeApplyShift_length]) persisted
        rw [dirty]
        refine ⟨coherent.moveDaemon distinct (.inl changed.unleased) ?_ fun held => ?_, ?_, rfl⟩
        · cases acknowledged
          · exact rolledBack
          · exact ⟨rfl, rfl⟩
        · rw [changed.unleased] at held
          cases held
        · rw [remembered held] at changed
          exact changed
    · obtain ⟨rfl, rfl⟩ := Prod.mk.inj (Option.some.inj stepped)
      exact ⟨coherent.rollback_sound distinct inside, reported_quiet rfl rfl⟩
  · cases stepped

theorem flush_lost (coherent : Coherent owner world) (lost : world.tables.leaseOwner ≠ some (owner daemon))
    (stepped : world.step owner (.flush daemon now acknowledged) = some (next, output)) :
    next.tables = world.tables := by
  simp only [step] at stepped
  split at stepped
  · rename_i ready
    obtain ⟨-, clean | ⟨-, dirty, leased⟩⟩ := flush_marks (coherent.marked daemon) ready
    all_goals
      simp only [flushTurns] at stepped
      split at stepped
    · rename_i tables persisted
      obtain ⟨rfl, rfl⟩ := Prod.mk.inj (Option.some.inj stepped)
      obtain ⟨-, -, same | ⟨-, held⟩⟩ := TurnQueueTables.persistChanges_clean clean persisted
      · exact same
      · exact absurd held lost
    · obtain ⟨rfl, rfl⟩ := Prod.mk.inj (Option.some.inj stepped)
      rfl
    · rename_i tables persisted
      obtain ⟨held, -⟩ := TurnQueueTables.persistChanges_dirty dirty leased
        (fun held => absurd held lost) persisted
      exact absurd held lost
    · obtain ⟨rfl, rfl⟩ := Prod.mk.inj (Option.some.inj stepped)
      rfl
  · cases stepped

theorem step_sound (coherent : Coherent owner world) (distinct : Function.Injective owner)
    (harmless : world.PrefetchHarmless owner event) (stepped : world.step owner event = some (next, output)) :
    Sound owner world next output := by
  cases event with
  | edit edit expectedRevision now =>
    simp only [step] at stepped
    split at stepped
    · rename_i tables revision edited
      obtain ⟨rfl, rfl⟩ := Prod.mk.inj (Option.some.inj stepped)
      have applied := TurnQueueTables.edit_ok edited
      exact ⟨coherent.unleased applied.1.unleased, applied⟩
    · obtain ⟨rfl, rfl⟩ := Prod.mk.inj (Option.some.inj stepped)
      exact ⟨coherent, rfl, rfl⟩
  | begin daemon =>
    have marked := coherent.marked daemon
    simp only [step] at stepped
    split at stepped
    · rename_i phase
      obtain ⟨rfl, rfl⟩ := Prod.mk.inj (Option.some.inj stepped)
      simp only [TurnDaemon.Marked, phase] at marked
      exact ⟨coherent.moveAlone distinct ⟨marked, marked⟩ fun _ => trivial, reported_quiet rfl rfl⟩
    · cases stepped
  | acquire daemon now => exact acquire_sound coherent distinct stepped
  | readRows daemon =>
    have marked := coherent.marked daemon
    simp only [step] at stepped
    split at stepped
    · rename_i phase
      obtain ⟨rfl, rfl⟩ := Prod.mk.inj (Option.some.inj stepped)
      simp only [TurnDaemon.Marked, phase] at marked
      exact ⟨coherent.moveAlone distinct marked fun _ => rfl, reported_quiet rfl rfl⟩
    · cases stepped
  | assignRows daemon =>
    have marked := coherent.marked daemon
    have knows := coherent.knows daemon
    simp only [step] at stepped
    split at stepped
    · rename_i rows phase
      obtain ⟨rfl, rfl⟩ := Prod.mk.inj (Option.some.inj stepped)
      simp only [TurnDaemon.Marked, phase] at marked
      simp only [TurnDaemon.Knows, phase] at knows
      refine ⟨coherent.moveAlone distinct marked fun held => ?_, reported_quiet rfl rfl⟩
      simp [TurnDaemon.Knows, TurnQueueMemory.assignRows, TurnQueueTables.loadGeneralTurns, knows held]
    · cases stepped
  | prepareFails daemon => exact prepareFails_sound coherent distinct stepped
  | requestPrefetch daemon =>
    simp only [step] at stepped
    split at stepped
    · obtain ⟨rfl, rfl⟩ := Prod.mk.inj (Option.some.inj stepped)
      exact ⟨coherent.moveAlone distinct (coherent.marked daemon) (coherent.knows daemon),
        reported_quiet rfl rfl⟩
    · cases stepped
  | readPrefetch daemon index =>
    simp only [step] at stepped
    split at stepped
    · obtain ⟨rfl, rfl⟩ := Prod.mk.inj (Option.some.inj stepped)
      exact ⟨coherent.moveAlone distinct (coherent.marked daemon) (coherent.knows daemon),
        reported_quiet rfl rfl⟩
    · cases stepped
  | assignPrefetch daemon index => exact assignPrefetch_sound coherent distinct harmless stepped
  | execute daemon =>
    have marked := coherent.marked daemon
    have knows := coherent.knows daemon
    simp only [step] at stepped
    split at stepped
    · rename_i phase
      obtain ⟨rfl, rfl⟩ := Prod.mk.inj (Option.some.inj stepped)
      simp only [TurnDaemon.Marked, phase] at marked
      simp only [TurnDaemon.Knows, phase] at knows
      refine ⟨coherent.moveAlone distinct ⟨rfl, marked.2⟩ fun held => ?_, reported_quiet rfl rfl⟩
      simp [TurnDaemon.Knows, TurnQueueMemory.shiftGeneralTurns, TurnQueueMemory.getGeneralTurns, knows held]
    · cases stepped
  | flush daemon now acknowledged => exact flush_sound coherent distinct stepped
  | abort daemon =>
    simp only [step] at stepped
    split at stepped
    · rename_i inside
      obtain ⟨rfl, rfl⟩ := Prod.mk.inj (Option.some.inj stepped)
      exact ⟨coherent.rollback_sound distinct inside, reported_quiet rfl rfl⟩
    · cases stepped
  | crash daemon =>
    obtain ⟨rfl, rfl⟩ := Prod.mk.inj (Option.some.inj stepped)
    exact ⟨coherent.moveAlone distinct trivial fun _ => trivial, reported_quiet rfl rfl⟩

/-- The queue after a list of changes, applied in order. -/
def applyChanges (turns : List ReservedTurnEntry) (changes : List (Nat × TurnQueueChange)) :
    List ReservedTurnEntry :=
  changes.foldl (fun turns change => change.2.effect turns) turns

/--
No update of the queue is lost or doubled along a trace.

The stored queue is the first one under the reported changes, each applied once and in the order of their
consecutive revisions; a flush without the lease writes nothing; and the stored queue is full.
-/
structure NoLostUpdate (owner : ι → String) (start : TurnQueueWorld ι)
    (trace : List (TurnQueueEvent ι × TurnQueueOutput)) (final : TurnQueueWorld ι) : Prop where
  stored : final.tables.loadGeneralTurns =
    applyChanges start.tables.loadGeneralTurns (turnQueueChanges trace)
  revisions : (turnQueueChanges trace).map Prod.fst =
    List.range' (start.tables.revision + 1) (turnQueueChanges trace).length
  revision : final.tables.revision = start.tables.revision + (turnQueueChanges trace).length
  fenced : ∀ daemon now acknowledged next output,
    final.step owner (.flush daemon now acknowledged) = some (next, output) →
    final.tables.leaseOwner ≠ some (owner daemon) → next.tables = final.tables
  full : final.tables.loadGeneralTurns.length = maxGeneralTurns

theorem NoLostUpdate.snoc {start : TurnQueueWorld ι} {past : List (TurnQueueEvent ι × TurnQueueOutput)}
    (account : NoLostUpdate owner start past world) (sound : Sound owner world next output) :
    NoLostUpdate owner start (past ++ [(event, output)]) next := by
  obtain ⟨coherent, reported⟩ := sound
  have fenced : ∀ daemon now acknowledged following output,
      next.step owner (.flush daemon now acknowledged) = some (following, output) →
      next.tables.leaseOwner ≠ some (owner daemon) → following.tables = next.tables :=
    fun _ _ _ _ _ stepped lost => flush_lost coherent lost stepped
  have full := next.tables.loadGeneralTurns_length
  -- Only a change adds to the account.
  have silent (quiet : turnQueueChanges [(event, output)] = [])
      (load : next.tables.loadGeneralTurns = world.tables.loadGeneralTurns)
      (revision : next.tables.revision = world.tables.revision) :
      NoLostUpdate owner start (past ++ [(event, output)]) next := by
    have same : turnQueueChanges (past ++ [(event, output)]) = turnQueueChanges past := by
      simp only [turnQueueChanges, List.filterMap_append] at quiet ⊢
      rw [quiet, List.append_nil]
    exact ⟨by rw [same, load, account.stored], by rw [same, account.revisions],
      by rw [same, revision, account.revision], fenced, full⟩
  cases output with
  | changed revision change =>
    obtain ⟨changed, isRevision⟩ := reported
    have extended : turnQueueChanges (past ++ [(event, .changed revision change)]) =
        turnQueueChanges past ++ [(revision, change)] := by
      simp [turnQueueChanges]
    have next_revision : revision = start.tables.revision + 1 + (turnQueueChanges past).length := by
      rw [← isRevision, changed.revision, account.revision]
      omega
    refine ⟨?_, ?_, ?_, fenced, full⟩
    · rw [extended, changed.stored, account.stored]
      simp [applyChanges]
    · rw [extended, List.map_append, account.revisions, List.length_append, List.length_singleton,
        List.range'_1_concat]
      simp [next_revision]
    · rw [extended, changed.revision, account.revision, List.length_append, List.length_singleton]
      omega
  | quiet => exact silent rfl reported.1 reported.2
  | conflict error => exact silent rfl reported.1 reported.2
  | leaseConflict => exact silent rfl reported.1 reported.2

end TurnQueueWorld

/-- Runs whose prefetches do not disturb a queue about to be written lose no update. -/
theorem reserved_turns_no_lost_update {ι : Type} [DecidableEq ι] {owner : ι → String}
    (distinct : Function.Injective owner) {start final : TurnQueueWorld ι}
    {trace : List (TurnQueueEvent ι × TurnQueueOutput)} (initial : start.Initial)
    (run : (turnQueueMachine ι owner).RunWhile (TurnQueueWorld.PrefetchHarmless owner) start trace final) :
    TurnQueueWorld.NoLostUpdate owner start trace final := by
  -- The account of the changes is carried together with what the holder of the lease knows.
  let Account : List (TurnQueueEvent ι × TurnQueueOutput) → TurnQueueWorld ι → Prop := fun past world =>
    world.Coherent owner ∧ TurnQueueWorld.NoLostUpdate owner start past world
  have opening : Account [] start :=
    ⟨initial.coherent, rfl, rfl, rfl,
      fun _ _ _ _ _ stepped lost => TurnQueueWorld.flush_lost initial.coherent lost stepped,
      start.tables.loadGeneralTurns_length⟩
  have held : Account trace final := run.invariant opening
    fun past world event output next held harmless stepped => by
      have sound := TurnQueueWorld.step_sound held.1 distinct harmless stepped
      exact ⟨sound.1, held.2.snoc sound⟩
  exact held.2

/-- A queue nobody has edited, and one daemon that has not begun a turn. -/
def turnQueueStart : TurnQueueWorld Unit where
  tables := ⟨none, []⟩
  daemons _ := ⟨⟨none, false, false⟩, ⟨none, false, false⟩, .outside, []⟩

/-- The daemon executes an edited turn, and the queue is edited again. -/
def turnQueueCycle : List (TurnQueueEvent Unit) :=
  [.edit (.setGeneral ⟨0, by decide⟩ "농지개간" (.obj [])) 0 0, .begin (), .acquire () 0, .readRows (),
    .assignRows (), .execute (), .flush () 10 true, .edit (.setGeneral ⟨3, by decide⟩ "징병" (.obj [])) 2 20]

/-- A whole turn between two edits keeps the account. -/
theorem reserved_turns_no_lost_update_cycle :
    turnQueueStart.Initial ∧ ∃ final trace,
      (turnQueueMachine Unit fun _ => "daemon").RunWhile (TurnQueueWorld.PrefetchHarmless fun _ => "daemon")
        turnQueueStart trace final ∧
      (turnQueueChanges trace).map Prod.fst = [1, 2, 3] ∧
      final.tables.loadGeneralTurns.map (·.action) =
        ["휴식", "휴식", "휴식", "징병"] ++ List.replicate 26 "휴식" ∧
      TurnQueueWorld.NoLostUpdate (fun _ => "daemon") turnQueueStart trace final := by
  have initial : turnQueueStart.Initial := ⟨fun _ => rfl, fun _ => ⟨rfl, rfl⟩⟩
  have replayed : ∃ final trace,
      (turnQueueMachine Unit fun _ => "daemon").replay turnQueueStart turnQueueCycle = some (final, trace) ∧
      (turnQueueChanges trace).map Prod.fst = [1, 2, 3] ∧
      final.tables.loadGeneralTurns.map (·.action) =
        ["휴식", "휴식", "휴식", "징병"] ++ List.replicate 26 "휴식" := ⟨_, _, rfl, rfl, rfl⟩
  obtain ⟨final, trace, replay, revisions, actions⟩ := replayed
  -- No event of the cycle is a prefetch.
  have run : (turnQueueMachine Unit fun _ => "daemon").RunWhile
      (TurnQueueWorld.PrefetchHarmless fun _ => "daemon") turnQueueStart trace final :=
    StateMachine.runWhile_of_replay (by simp [turnQueueCycle, TurnQueueWorld.PrefetchHarmless]) replay
  exact ⟨initial, final, trace, run, revisions, actions,
    reserved_turns_no_lost_update (fun _ _ _ => rfl) initial run⟩

/-- A prefetch reads the queue before an edit and lands between the refresh and the turn. -/
def turnQueueStalePrefetch : List (TurnQueueEvent Unit) :=
  [.begin (), .requestPrefetch (), .readPrefetch () 0,
    .edit (.setGeneral ⟨5, by decide⟩ "농지개간" (.obj [])) 0 0, .acquire () 0, .readRows (), .assignRows (), .assignPrefetch () 0, .execute (), .flush () 10 true]

/-- The flush after a stale prefetch takes back an edit that reported success. -/
theorem reserved_turns_stale_prefetch :
    ¬ ∀ start trace final, start.Initial →
      (turnQueueMachine Unit fun _ => "daemon").Run start trace final →
      TurnQueueWorld.NoLostUpdate (fun _ => "daemon") start trace final := by
  intro claimed
  have replayed : ∃ final trace,
      (turnQueueMachine Unit fun _ => "daemon").replay turnQueueStart turnQueueStalePrefetch =
        some (final, trace) ∧
      (final.tables.loadGeneralTurns[4]?).map (·.action) = some "휴식" ∧
      ((TurnQueueWorld.applyChanges turnQueueStart.tables.loadGeneralTurns
        (turnQueueChanges trace))[4]?).map (·.action) = some "농지개간" := ⟨_, _, rfl, rfl, rfl⟩
  obtain ⟨final, trace, replay, stored, expected⟩ := replayed
  have account := claimed turnQueueStart trace final ⟨fun _ => rfl, fun _ => ⟨rfl, rfl⟩⟩
    (StateMachine.run_of_replay replay)
  rw [account.stored, expected] at stored
  exact absurd stored (by decide)

end Sammo
