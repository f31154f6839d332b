import Mathlib.Data.Fintype.EquivFin
import Sammo.World.Operations

/-! A failed transaction leaves no trace, unless it took a scan order for a new general. -/

namespace Sammo

open InMemoryTurnWorld

variable {options : WorldOptions} {world : InMemoryTurnWorld}

/-- Two worlds give the same results to every sequence of operations. -/
def ObservationallyEqual (options : WorldOptions) (first second : InMemoryTurnWorld) : Prop :=
  -- Snapshots and consumed changes are among the results, so rows, orders and marks are compared too.
  ∀ later, (runOperations options later first).1 = (runOperations options later second).1

/-- The operation takes the next scan order: it adds a general under a free id that the clock accepts. -/
def TakesScanOrder (world : InMemoryTurnWorld) : EngineOperation → Prop
  | .world (.addGeneral id general) =>
    world.generals.rows.has id = false ∧ ∃ normalized, normalizeNewGeneral world.toTurnWorld general = .ok normalized
  | _ => False

/-- No operation of a sequence takes a scan order. -/
def KeepsScanOrder (options : WorldOptions) : List EngineOperation → InMemoryTurnWorld → Prop
  | [], _ => True
  | operation :: rest, world =>
    -- Each operation is judged in the world it starts from.
    ¬ TakesScanOrder world operation ∧
      KeepsScanOrder options rest ((operation.run options).perform world).2

theorem perform_onWorld {α : Type} (operation : WorldM α) (world : InMemoryTurnWorld) :
    (onWorld operation).perform world =
      ((operation.perform world.toTurnWorld).1,
        { world with toTurnWorld := (operation.perform world.toTurnWorld).2 }) := rfl

theorem addGeneral_takes {id : Int} {general normalized : General}
    (free : world.generals.rows.has id = false)
    (accepted : normalizeNewGeneral world.toTurnWorld general = .ok normalized) :
    ((addGeneral id general).perform world).2.nextLegacyGeneralScanOrder =
      world.nextLegacyGeneralScanOrder + 1 := by
  simp only [addGeneral, Effect.perform_bind, Effect.perform_get, free, Bool.false_eq_true, if_false,
    Effect.perform_ofExcept, accepted, Effect.perform_modify]
  -- Whether the idle counter is there decides only what follows.
  cases ensureGeneralKillturn id _ (resolveWorldKillturn world.state.metadata) with
  | ok ensured => rfl
  | error message => rfl

theorem addGeneral_keeps {id : Int} {general : General}
    (refused : ¬ TakesScanOrder world (.world (.addGeneral id general))) :
    ((addGeneral id general).perform world).2.nextLegacyGeneralScanOrder =
      world.nextLegacyGeneralScanOrder := by
  simp only [addGeneral, Effect.perform_bind, Effect.perform_get]
  by_cases present : world.generals.rows.has id = true
  · rw [if_pos present]
    rfl
  · -- The id is free, so the clock must have refused.
    rw [if_neg present]
    have free : world.generals.rows.has id = false := by simpa using present
    cases outcome : normalizeNewGeneral world.toTurnWorld general with
    | ok normalized => exact absurd ⟨free, normalized, outcome⟩ refused
    | error message => simp

theorem operation_counter (operation : EngineOperation) (world : InMemoryTurnWorld) :
    (TakesScanOrder world operation ∧ ((operation.run options).perform world).2.nextLegacyGeneralScanOrder =
      world.nextLegacyGeneralScanOrder + 1) ∨
    (¬ TakesScanOrder world operation ∧ ((operation.run options).perform world).2.nextLegacyGeneralScanOrder =
      world.nextLegacyGeneralScanOrder) := by
  -- Every other operation is one on the captured fields.
  cases operation with
  | world operation =>
    cases operation with
    | addGeneral id general =>
      have unwrapped : ((EngineOperation.run options (.world (.addGeneral id general))).perform
          world).2.nextLegacyGeneralScanOrder =
          ((addGeneral id general).perform world).2.nextLegacyGeneralScanOrder := by
        simp only [EngineOperation.run, WorldOperation.run, Effect.perform_bind]
        -- The wrapper only renames the result.
        split
        · rename_i outcome
          rw [outcome]
          rfl
        · rename_i outcome
          rw [outcome]
      rw [unwrapped]
      by_cases takes : TakesScanOrder world (.world (.addGeneral id general))
      · obtain ⟨free, normalized, accepted⟩ := takes
        exact .inl ⟨⟨free, normalized, accepted⟩, addGeneral_takes free accepted⟩
      · exact .inr ⟨takes, addGeneral_keeps takes⟩
    | _ => exact .inr ⟨not_false, rfl⟩
  | _ => exact .inr ⟨not_false, rfl⟩

theorem operations_counter (operations : List EngineOperation) (world : InMemoryTurnWorld) :
    world.nextLegacyGeneralScanOrder ≤ (runOperations options operations world).2.nextLegacyGeneralScanOrder ∧
    ((runOperations options operations world).2.nextLegacyGeneralScanOrder =
      world.nextLegacyGeneralScanOrder ↔ KeepsScanOrder options operations world) := by
  induction operations generalizing world with
  | nil => exact ⟨le_refl _, fun _ => trivial, fun _ => rfl⟩
  | cons operation rest ih =>
    obtain ⟨grows, same⟩ := ih ((operation.run options).perform world).2
    simp only [runOperations, KeepsScanOrder]
    obtain ⟨takes, moved⟩ | ⟨keeps, unmoved⟩ := @operation_counter options operation world
    · -- Once taken, a scan order never comes back.
      refine ⟨by omega, fun equal => by omega, fun kept => absurd takes kept.1⟩
    · rw [unmoved] at grows same
      exact ⟨grows, fun equal => ⟨keeps, same.mp equal⟩, fun kept => same.mpr kept.2⟩

theorem restoreState_captureState (before after : InMemoryTurnWorld) :
    after.restoreState before.captureState =
      { before with nextLegacyGeneralScanOrder := after.nextLegacyGeneralScanOrder } := rfl

theorem GameClock.tickToDate_zero (clock : GameClock) : clock.tickToDate 0 = .ok clock.baseTime := by
  have valid := clock.validBase
  have safe : isSafeInteger clock.baseTime := by
    simp only [ValidDate, isSafeInteger] at valid ⊢
    omega
  have zero : isSafeInteger 0 := by decide
  simp [GameClock.tickToDate, requireSafeTick, tickOffsetMilliseconds, zero, safe, valid, Bind.bind, Except.bind]

/-- A general whose turn is at tick zero and whose idle counter is set. -/
def probeGeneral : General where
  name := ""
  nationId := 0
  cityId := 0
  troopId := 0
  leadership := 0
  strength := 0
  intelligence := 0
  experience := 0
  dedication := 0
  officerLevel := 0
  injury := 0
  gold := 0
  rice := 0
  crew := 0
  crewTypeId := 0
  train := 0
  atmos := 0
  age := 0
  npcState := 0
  role := []
  triggerState := []
  metadata := [("killturn", .num 0)]
  turnTime := 0
  turnTick := some 0
  recentWarTime := none
  recentWarTick := some none
  columns := []

/-- The probe as it is stored under a scan order. -/
def storedProbe (clock : GameClock) (scanOrder : Int) : General :=
  normalizeGeneralDatabaseIntegers
    { probeGeneral with
      turnTime := clock.baseTime
      metadata := [("killturn", .num 0), ("legacyScanOrder", .num scanOrder)] }

theorem addGeneral_probe {id : Int} (free : world.generals.rows.has id = false) :
    (addGeneral id probeGeneral).perform world =
      (.ok true, { world with
        nextLegacyGeneralScanOrder := world.nextLegacyGeneralScanOrder + 1
        generals := world.generals.insert id
          (storedProbe world.state.clock world.nextLegacyGeneralScanOrder) }) := by
  have accepted : normalizeNewGeneral world.toTurnWorld probeGeneral =
      .ok { probeGeneral with turnTime := world.state.clock.baseTime } := by
    have dated : ValidDate probeGeneral.turnTime := by decide
    simp only [normalizeNewGeneral, normalizeGeneralTurnTime, dated, if_true, normalizeGeneralClock]
    simp [probeGeneral, GameClock.tickToDate_zero, Bind.bind, Except.bind]
  have ensured (order : Int) (killturn : Option ℚ) : ensureGeneralKillturn id
      { probeGeneral with
        turnTime := world.state.clock.baseTime
        metadata := Record.set probeGeneral.metadata "legacyScanOrder" (.num order) } killturn =
      .ok { probeGeneral with
        turnTime := world.state.clock.baseTime
        metadata := [("killturn", .num 0), ("legacyScanOrder", .num order)] } := rfl
  simp only [addGeneral, Effect.perform_bind, Effect.perform_get, free, Bool.false_eq_true, if_false,
    Effect.perform_ofExcept, accepted, Effect.perform_modify, ensured]
  rfl

theorem counter_observed {counter : Int}
    (equal : ObservationallyEqual options { world with nextLegacyGeneralScanOrder := counter } world) :
    counter = world.nextLegacyGeneralScanOrder := by
  obtain ⟨id, unlisted⟩ := Infinite.exists_notMem_finset world.generals.rows.keys.toFinset
  have free : world.generals.rows.has id = false := by
    rw [List.mem_toFinset, OrderedMap.mem_keys] at unlisted
    simpa using unlisted
  -- Add the probe, then look at the whole world.
  have seen := equal [.world (.addGeneral id probeGeneral), .captureState]
  have other : (addGeneral id probeGeneral).perform { world with nextLegacyGeneralScanOrder := counter } = _ :=
    addGeneral_probe free
  simp only [runOperations, EngineOperation.run, WorldOperation.run, Effect.perform_bind, other,
    addGeneral_probe free, Effect.perform_pure, perform_onWorld, Effect.perform_get, List.cons.injEq,
    and_true, true_and, Except.ok.injEq, WorldResult.snapshot.injEq] at seen
  have stored := congrArg (fun snapshot : TurnWorld =>
    (snapshot.generals.rows.get? id).bind fun general => general.metadata.get? "legacyScanOrder") seen
  simp only [WriteBehind.insert, OrderedMap.get?_set, if_true] at stored
  -- Rounding leaves the scan order alone, so the two numbers are read back.
  have read (order : Int) :
      (storedProbe world.state.clock order).metadata.get? "legacyScanOrder" = some (.num order) := rfl
  simp only [Option.bind_some, read, Option.some.injEq, Json.num.injEq, Int.cast_inj] at stored
  exact stored

/-- Rolling operations back gives an equal world exactly if none of them took a scan order. -/
theorem rollback_transparent_iff (options : WorldOptions) (operations : List EngineOperation)
    (world : InMemoryTurnWorld) :
    ObservationallyEqual options
      ((runOperations options operations world).2.restoreState world.captureState) world ↔
    KeepsScanOrder options operations world := by
  rw [restoreState_captureState, ← (operations_counter operations world).2]
  constructor
  · exact counter_observed
  · intro unmoved later
    rw [unmoved]

/-- A general added to an empty world and rolled back leaves its scan order taken. -/
theorem rollback_leaves_scan_order :
    ¬ ∀ (options : WorldOptions) (operations : List EngineOperation) (world : InMemoryTurnWorld),
      ObservationallyEqual options
        ((runOperations options operations world).2.restoreState world.captureState) world := by
  intro transparent
  have equal := transparent openingOptions [.world (.addGeneral 1 probeGeneral)] opening
  rw [restoreState_captureState] at equal
  have free : opening.generals.rows.has 1 = false := rfl
  have observed := counter_observed equal
  -- The counter stands at one, although the world started at zero.
  simp only [runOperations, EngineOperation.run, WorldOperation.run, Effect.perform_bind,
    addGeneral_probe free, Effect.perform_pure] at observed
  exact absurd observed (by decide)

end Sammo
