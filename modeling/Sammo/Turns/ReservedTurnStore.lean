import Mathlib.Logic.Function.Basic
import Sammo.Lib.StateMachine
import Sammo.Turns.ReservedTurns

/-! The daemons' store of reserved turns: lease, refresh, execute and flush against concurrent edits. -/

namespace Sammo

/-- How long a lease lasts, in milliseconds. -/
def leaseDurationMs : Int := 5 * 60000

/-- Moves the queue by an amount; unlike the API's, a shift longer than the queue is cut to it. -/
def storeApplyShift (turns : List ReservedTurnEntry) (amount : Int) : List ReservedTurnEntry :=
  if amount = 0 then turns
  else
    let shift := min turns.length amount.natAbs
    if 0 < amount then buildDefaultTurns shift ++ turns.take (turns.length - shift)
    else turns.drop shift ++ buildDefaultTurns shift

/-- What one daemon remembers of the general's queue. -/
structure TurnQueueMemory where
  turns : Option (List ReservedTurnEntry)
  dirty : Bool
  leased : Bool

namespace TurnQueueMemory

/-- The remembered queue, or an empty one. -/
def getGeneralTurns (memory : TurnQueueMemory) : List ReservedTurnEntry :=
  memory.turns.getD (buildDefaultTurns maxGeneralTurns)

/-- Replaces the remembered queue by stored rows. -/
def assignRows (memory : TurnQueueMemory) (rows : List GeneralTurnRow) : TurnQueueMemory :=
  { memory with turns := some (buildTurnListFromRows rows maxGeneralTurns) }

/-- Moves the remembered queue, to be written at the next flush. -/
def shiftGeneralTurns (memory : TurnQueueMemory) (amount : Int) : TurnQueueMemory :=
  { memory with turns := some (storeApplyShift memory.getGeneralTurns amount), dirty := true }

/-- Forgets that anything was left to write or to release. -/
def acknowledge (memory : TurnQueueMemory) : TurnQueueMemory := { memory with dirty := false, leased := false }

end TurnQueueMemory

namespace TurnQueueTables

variable (tables : TurnQueueTables) (owner : String)

/-- Stores a daemon's lease in the revision row. -/
def withLease (row : GeneralTurnRevision) (now : Int) : TurnQueueTables :=
  { tables with
    revisionRow := some { row with leaseOwner := some owner, leaseExpiresAt := some (now + leaseDurationMs) } }

/-- Stores a daemon's lease, if it may have it; the first lease of a queue creates the row. -/
def takeLease (now : Int) (mayTake : GeneralTurnRevision → Bool) (mayCreate : Bool) :
    Option TurnQueueTables :=
  match tables.revisionRow with
  | some row => if mayTake row then some (tables.withLease owner row now) else none
  | none =>
    if mayCreate then some (tables.withLease owner ⟨0, none, none⟩ now) else none

/-- The lease is the daemon's own, nobody's, or expired. -/
def mayAcquire (now : Int) (row : GeneralTurnRevision) : Bool :=
  row.leaseOwner = some owner ∨ row.Unleased now

/-- The lease is already the daemon's, and has not expired. -/
def retainsLease (now : Int) : Bool :=
  match tables.revisionRow with
  | some row => row.leaseOwner = some owner ∧ ∃ expiresAt ∈ row.leaseExpiresAt, now < expiresAt
  | none => false

/-- Takes the lease before a general's turn. -/
def acquireGeneralLease (now : Int) : Option TurnQueueTables :=
  tables.takeLease owner now (mayAcquire owner now) true

/-- Gives the lease back, if it is still the daemon's. -/
def releaseGeneralLease : TurnQueueTables :=
  match tables.revisionRow with
  | some row =>
    if row.leaseOwner = some owner then
      { tables with revisionRow := some { row with leaseOwner := none, leaseExpiresAt := none } }
    else tables
  | none => tables

/-- Takes the lease for writing; a daemon that remembers a lease must still hold it. -/
def claimGeneralFlushLease (memory : TurnQueueMemory) (now : Int) : Option TurnQueueTables :=
  if memory.leased then tables.takeLease owner now (fun row => row.leaseOwner = some owner) false
  else tables.takeLease owner now (mayAcquire owner now) true

/-- Ends a write: the revision moves on by one and the lease is given back. -/
def finalizeGeneralFlush : Option TurnQueueTables :=
  match tables.revisionRow with
  | some row =>
    if row.leaseOwner = some owner then
      some { tables with
        revisionRow := some { revision := row.revision + 1, leaseOwner := none, leaseExpiresAt := none } }
    else none
  | none => none

/-- Writes what the daemon remembers, in one transaction; nothing is kept of a refused write. -/
def persistChanges (memory : TurnQueueMemory) (now : Int) : Option TurnQueueTables :=
  if memory.dirty then do
    let claimed ← tables.claimGeneralFlushLease owner memory now
    (claimed.persistGeneralTurns memory.getGeneralTurns).finalizeGeneralFlush owner
  else if memory.leased then some (tables.releaseGeneralLease owner)
  else some tables

end TurnQueueTables

/-- How far a daemon is with the general's turn. -/
inductive TurnPhase where
  | outside
  | started
  | leased (releaseOnError : Bool)
  | refreshing (releaseOnError : Bool) (rows : List GeneralTurnRow)
  | prepared
  | executed
  | stopped

/-- A prefetch under way, before and after it has read the rows. -/
inductive Prefetch where
  | requested
  | read (rows : List GeneralTurnRow)

/-- One daemon; `saved` is the memory its transaction goes back to on an error. -/
structure TurnDaemon where
  memory : TurnQueueMemory
  saved : TurnQueueMemory
  phase : TurnPhase
  prefetches : List Prefetch

/-- The stored queue and every daemon. -/
structure TurnQueueWorld (ι : Type) where
  tables : TurnQueueTables
  daemons : ι → TurnDaemon

/-- What can happen next to the queue. -/
inductive TurnQueueEvent (ι : Type) where
  | edit (edit : GeneralTurnEdit) (expectedRevision : Nat) (now : Int)
  | begin (daemon : ι)
  | acquire (daemon : ι) (now : Int)
  | readRows (daemon : ι)
  | assignRows (daemon : ι)
  | prepareFails (daemon : ι)
  | requestPrefetch (daemon : ι)
  | readPrefetch (daemon : ι) (index : Nat)
  | assignPrefetch (daemon : ι) (index : Nat)
  | execute (daemon : ι)
  | flush (daemon : ι) (now : Int) (acknowledged : Bool)
  | abort (daemon : ι)
  | crash (daemon : ι)

/-- A change of the queue: an edit that reported success, or an executed turn taken off the front. -/
inductive TurnQueueChange where
  | edited (edit : GeneralTurnEdit)
  | consumed

/-- What a change means for the queue. -/
def TurnQueueChange.effect : TurnQueueChange → List ReservedTurnEntry → List ReservedTurnEntry
  | .edited edit, turns => edit.effect turns
  | .consumed, turns => storeApplyShift turns (-1)

/-- What the outside sees of one event. -/
inductive TurnQueueOutput where
  | quiet
  | changed (revision : Nat) (change : TurnQueueChange)
  | conflict (error : ReservedTurnRevisionConflictError)
  | leaseConflict

namespace TurnDaemon

/-- Goes back to the memory of the transaction's start. -/
def rollback (daemon : TurnDaemon) : TurnDaemon :=
  { daemon with memory := daemon.saved, phase := .outside }

/-- A turn's transaction is open. -/
def inTransaction (daemon : TurnDaemon) : Bool :=
  match daemon.phase with
  | .outside => false
  | .stopped => false
  | _ => true

/-- The daemon is between two steps of a turn, where its transaction can end. -/
def mayFlush (daemon : TurnDaemon) : Bool :=
  match daemon.phase with
  | .started => true
  | .prepared => true
  | .executed => true
  | _ => false

/-- The daemon's process is alive. -/
def alive (daemon : TurnDaemon) : Bool :=
  match daemon.phase with
  | .stopped => false
  | _ => true

end TurnDaemon

namespace TurnQueueWorld

variable {ι : Type} [DecidableEq ι]

/-- Changes one daemon. -/
def setDaemon (world : TurnQueueWorld ι) (daemon : ι) (state : TurnDaemon) : TurnQueueWorld ι :=
  { world with daemons := Function.update world.daemons daemon state }

/-- Writes what a daemon remembers; a refused write takes its memory back. -/
def flushTurns (owner : ι → String) (world : TurnQueueWorld ι) (daemon : ι) (now : Int)
    (acknowledged : Bool) : TurnQueueWorld ι × TurnQueueOutput :=
  let state := world.daemons daemon
  match world.tables.persistChanges (owner daemon) state.memory now with
  | some tables =>
    -- An error after the commit still takes the memory back.
    let after := if acknowledged then { state with memory := state.memory.acknowledge, phase := .outside }
      else state.rollback
    ({ world with tables }.setDaemon daemon after,
      if state.memory.dirty then .changed tables.revision .consumed else .quiet)
  | none => (world.setDaemon daemon state.rollback, .leaseConflict)

/-- One event; every step of the database is one statement or one transaction. -/
def step (owner : ι → String) (world : TurnQueueWorld ι) :
    TurnQueueEvent ι → Option (TurnQueueWorld ι × TurnQueueOutput)
  | .edit edit expectedRevision now =>
    match edit.run world.tables expectedRevision now with
    | .ok (tables, revision) => some ({ world with tables }, .changed revision (.edited edit))
    | .error error => some (world, .conflict error)
  | .begin daemon =>
    let state := world.daemons daemon
    match state.phase with
    | .outside => some (world.setDaemon daemon { state with saved := state.memory, phase := .started }, .quiet)
    | _ => none
  | .acquire daemon now =>
    let state := world.daemons daemon
    match state.phase with
    | .started =>
      match world.tables.acquireGeneralLease (owner daemon) now with
      | some tables =>
        -- A failing preparation gives back only a lease that this preparation brought in.
        let releaseOnError := ¬ state.memory.leased ∨ ¬ world.tables.retainsLease (owner daemon) now
        some ({ world with tables }.setDaemon daemon
          { state with
            memory := { state.memory with leased := true }, phase := .leased releaseOnError }, .quiet)
      | none => some (world.setDaemon daemon state.rollback, .leaseConflict)
    | _ => none
  | .readRows daemon =>
    let state := world.daemons daemon
    match state.phase with
    | .leased releaseOnError =>
      some (world.setDaemon daemon { state with phase := .refreshing releaseOnError world.tables.rows }, .quiet)
    | _ => none
  | .assignRows daemon =>
    let state := world.daemons daemon
    match state.phase with
    | .refreshing _ rows =>
      some (world.setDaemon daemon
        { state with memory := state.memory.assignRows rows, phase := .prepared }, .quiet)
    | _ => none
  | .prepareFails daemon =>
    let state := world.daemons daemon
    let releasing (releaseOnError : Bool) : TurnQueueWorld ι :=
      if releaseOnError then { world with tables := world.tables.releaseGeneralLease (owner daemon) }
      else world
    match state.phase with
    | .leased releaseOnError => some ((releasing releaseOnError).setDaemon daemon state.rollback, .quiet)
    | .refreshing releaseOnError _ => some ((releasing releaseOnError).setDaemon daemon state.rollback, .quiet)
    | _ => none
  | .requestPrefetch daemon =>
    let state := world.daemons daemon
    -- Only a queue without unwritten changes is prefetched.
    if state.inTransaction ∧ ¬ state.memory.dirty then
      some (world.setDaemon daemon { state with prefetches := state.prefetches ++ [.requested] }, .quiet)
    else none
  | .readPrefetch daemon index =>
    let state := world.daemons daemon
    match state.alive, state.prefetches[index]? with
    | true, some .requested =>
      some (world.setDaemon daemon
        { state with prefetches := state.prefetches.set index (.read world.tables.rows) }, .quiet)
    | _, _ => none
  | .assignPrefetch daemon index =>
    let state := world.daemons daemon
    match state.alive, state.prefetches[index]? with
    | true, some (.read rows) =>
      some (world.setDaemon daemon
        { state with memory := state.memory.assignRows rows, prefetches := state.prefetches.eraseIdx index },
        .quiet)
    | _, _ => none
  | .execute daemon =>
    let state := world.daemons daemon
    match state.phase with
    | .prepared =>
      some (world.setDaemon daemon
        { state with memory := state.memory.shiftGeneralTurns (-1), phase := .executed }, .quiet)
    | _ => none
  | .flush daemon now acknowledged =>
    if (world.daemons daemon).mayFlush then some (world.flushTurns owner daemon now acknowledged) else none
  | .abort daemon =>
    let state := world.daemons daemon
    if state.inTransaction then some (world.setDaemon daemon state.rollback, .quiet) else none
  | .crash daemon =>
    some (world.setDaemon daemon { world.daemons daemon with phase := .stopped, prefetches := [] }, .quiet)

end TurnQueueWorld

/-- The queue as a machine; `owner` is the identity each daemon draws when it starts. -/
def turnQueueMachine (ι : Type) [DecidableEq ι] (owner : ι → String) :
    StateMachine (TurnQueueWorld ι) (TurnQueueEvent ι) TurnQueueOutput :=
  ⟨TurnQueueWorld.step owner⟩

/-- Before the run no daemon has begun a turn, and none has anything to write. -/
structure TurnQueueWorld.Initial {ι : Type} (world : TurnQueueWorld ι) : Prop where
  outside : ∀ daemon, (world.daemons daemon).phase = .outside
  clean : ∀ daemon, (world.daemons daemon).memory.dirty = false ∧
    (world.daemons daemon).memory.leased = false

/-- The changes a trace reports, with their revisions. -/
def turnQueueChanges {ι : Type} (trace : List (TurnQueueEvent ι × TurnQueueOutput)) :
    List (Nat × TurnQueueChange) :=
  trace.filterMap fun observed =>
    match observed.2 with
    | .changed revision change => some (revision, change)
    | _ => none

end Sammo
