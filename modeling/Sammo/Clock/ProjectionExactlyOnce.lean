import Sammo.Clock.ProjectionOutboxLaws

/-! Exactly-once projection of the reconciled clock, over every interleaving of workers and crashes. -/

namespace Sammo

namespace ProjectionWorld

variable {ι : Type}

variable {world : ProjectionWorld ι} {trace : List (ProjectionEvent ι × ProjectionOutput)}

theorem Coherent.evaluated_reached (coherent : Coherent trace world) {outbox : OutboxRow} {recovered : Bool}
    (fits : world.StageFits (.evaluated outbox recovered)) (phase : world.clock.clockPhase = .reconciling)
    (current : world.clock.clockRevision = outbox.targetRevision) :
    world.redis.activeRevision = some world.clock.clockRevision ∧
      world.redis.deadlineGeneration = some world.clock.deadlineGeneration := by
  obtain ⟨-, active, present, above⟩ := fits
  rcases coherent.between phase with absent | previous | reached
  · simp [absent] at present
  · rw [previous, Option.some.injEq] at present
    omega
  · exact reached

theorem Initial.coherent (initial : world.Initial) : Coherent [] world := by
  have orders : world.orders = [] := by simp [ProjectionWorld.orders, initial.noOutbox]
  refine ⟨?_, ?_, fun _ => initial.redis, ?_, ?_, ?_, ?_, fun _ => .inl rfl, ?_, fun worker => ?_⟩
  · simp [orders]
  · simp [initial.running]
  · simp [initial.running]
  · simp [orders]
  · simp [initial.running]
  · simp [initial.running]
  · simp [orders]
  · rw [initial.idle worker]
    trivial

variable [DecidableEq ι]

variable {checksum : ProjectionPayload → String} {next : ProjectionWorld ι} {event : ProjectionEvent ι}

theorem step_coherent {output : ProjectionOutput} (coherent : Coherent trace world)
    (stepped : step checksum world event = some (next, output)) :
    Coherent (trace ++ [(event, output)]) next := by
  cases event with
  | claimNext worker workerId now locked =>
    simp only [step] at stepped
    split at stepped
    · rename_i row _ found
      cases stepped
      have listed : row.order ∈ world.orders := List.mem_map_of_mem (List.mem_of_find?_eq_some found)
      refine coherent.relabel _ rfl (updateRow_orders _ _ fun _ => rfl) rfl rfl rfl ?_
      exact setStage_fits world coherent.stages listed
    · cases stepped
  | checkFence worker now =>
    simp only [step] at stepped
    split at stepped
    · rename_i outbox stage
      cases stepped
      have fits := coherent.stages worker
      rw [stage] at fits
      exact coherent.advance _ worker outbox _ _ fun _ _ => fits
    · cases stepped
  | readAuctions worker =>
    simp only [step] at stepped
    split at stepped
    · rename_i outbox clock stage
      cases stepped
      have fits := coherent.stages worker
      rw [stage] at fits
      exact coherent.advance _ worker outbox _ _ fun timers read => ⟨fits, fun _ => read⟩
    · cases stepped
  | readTournament worker =>
    simp only [step] at stepped
    split at stepped
    · rename_i outbox clock timers stage
      cases stepped
      have fits := coherent.stages worker
      rw [stage] at fits
      refine coherent.advance _ worker outbox _ _ fun tournament read =>
        ⟨fits.1, timers, tournament, clock, rfl, fun waiting => ⟨fits.2 waiting, ?_⟩⟩
      -- While the row is waited for, Redis still holds the tournament of the reconciliation.
      rw [← coherent.untouched waiting.1 waiting.2.2]
      exact read
    · cases stepped
  | evaluate worker =>
    simp only [step] at stepped
    split at stepped
    · rename_i outbox arguments stage
      have fits := coherent.stages worker
      rw [stage] at fits
      cases ran : applyClockProjectionScript world.redis arguments with
      | mk redis result =>
        simp only [ran] at stepped
        rcases script_cases ran with ⟨rfl, rfl, reached⟩ | ⟨rfl, refused⟩ |
          ⟨rfl, behind, -, -, active, generation, timers, tournament⟩
        · -- An earlier worker already applied this projection.
          cases stepped
          refine coherent.relabel _ rfl rfl rfl rfl rfl (setStage_fits world coherent.stages ?_)
          obtain ⟨ordered, rebuilt, pair, clock, rfl, -⟩ := fits
          have target := (coherent.wellFormed _ ordered).1
          simp only [OutboxRow.order] at target
          exact ⟨ordered, _, reached, by simp only [scriptArguments]; omega⟩
        · rcases refused with rfl | rfl | rfl <;> cases stepped <;>
            exact coherent.relabel _ rfl rfl rfl rfl rfl (setStage_fits world coherent.stages trivial)
        · cases stepped
          exact coherent.scriptApplied _ fits behind active generation timers tournament worker _
    · cases stepped
  | finalize worker now =>
    simp only [step] at stepped
    split at stepped
    · rename_i outbox recovered stage
      have fits := coherent.stages worker
      rw [stage] at fits
      split at stepped
      · rename_i fence
        cases stepped
        obtain ⟨reached, -⟩ := coherent.evaluated_reached fits fence.1 fence.2.1
        exact coherent.finalize _ reached rfl (updateRow_orders _ _ fun _ => rfl) rfl
          (setStage_fits world coherent.stages trivial)
      · cases stepped
        exact coherent.relabel _ rfl rfl rfl rfl rfl (setStage_fits world coherent.stages trivial)
    · cases stepped
  | recordFailure worker now =>
    simp only [step] at stepped
    split at stepped
    · cases stepped
      refine coherent.relabel _ rfl (updateRow_orders _ _ fun row => ?_) rfl rfl rfl
        (setStage_fits world coherent.stages trivial)
      simp only [OutboxRow.fail]
      split <;> rfl
    · cases stepped
  | crash worker =>
    cases stepped
    exact coherent.relabel _ rfl rfl rfl rfl rfl (setStage_fits world coherent.stages trivial)
  | suspend =>
    simp only [step] at stepped
    split at stepped
    · rename_i running
      cases stepped
      exact coherent.unreconciled _ (by simp [running]) (by simp) rfl rfl rfl rfl
    · cases stepped
  | reconcile clock auctions payload now =>
    simp only [step] at stepped
    split at stepped
    · rename_i ready
      cases stepped
      obtain ⟨suspended, phase, revision, -, source, target, generation⟩ := ready
      refine coherent.reconcile _ (checksum payload) suspended phase revision source target generation
        ?_ rfl rfl rfl
      simp [orders, OutboxRow.order]
    · cases stepped
  | gameplay auctions timers tournament =>
    simp only [step] at stepped
    split at stepped
    · rename_i playing
      cases stepped
      have idle : world.clock.clockPhase ≠ .reconciling := by
        rcases playing with running | suspended
        · simp [running]
        · simp [suspended]
      exact coherent.unreconciled _ idle idle rfl rfl rfl rfl
    · cases stepped

theorem run_coherent {start final : ProjectionWorld ι} (initial : start.Initial)
    (run : (projectionMachine ι checksum).Run start trace final) : Coherent trace final :=
  run.invariant initial.coherent fun _ _ _ _ _ coherent _ stepped => step_coherent coherent stepped

theorem step_running {revision generation : Int}
    (stepped : step checksum world event = some (next, .running revision generation)) :
    world.clock.clockPhase = .reconciling ∧ world.clock.clockRevision = revision ∧
      world.clock.deadlineGeneration = generation ∧
      ∃ worker outbox recovered, world.workers worker = .evaluated outbox recovered ∧
        world.clock.clockRevision = outbox.targetRevision := by
  cases event <;> simp only [step] at stepped
  case finalize worker now =>
    split at stepped
    · rename_i outbox recovered stage
      split at stepped
      · rename_i fence
        cases stepped
        exact ⟨fence.1, rfl, rfl, worker, outbox, recovered, stage, fence.2.1⟩
      · cases stepped
    · cases stepped
  case evaluate worker =>
    split at stepped
    · simp only [Option.some.injEq, Prod.mk.injEq] at stepped
      obtain ⟨-, output⟩ := stepped
      split at output <;> cases output
    · cases stepped
  all_goals (repeat' split at stepped) <;> cases stepped

end ProjectionWorld

/--
Every revision's timers are shifted exactly once, whatever workers crash and whenever they retry.

No script applies a revision twice, and the database starts running at a revision only after one script
applied it and while Redis holds that revision and generation.
-/
theorem clock_projection_exactly_once {ι : Type} [DecidableEq ι] {checksum : ProjectionPayload → String}
    {start final : ProjectionWorld ι} {trace : List (ProjectionEvent ι × ProjectionOutput)}
    (initial : start.Initial) (run : (projectionMachine ι checksum).Run start trace final) :
    (∀ revision, scriptCommits trace revision ≤ 1) ∧
    ∀ first event revision generation second,
      trace = first ++ (event, .running revision generation) :: second →
      scriptCommits first revision = 1 ∧
      ∃ before, (projectionMachine ι checksum).Run start first before ∧
        before.redis.activeRevision = some revision ∧
        before.redis.deadlineGeneration = some generation ∧
        ∃ payload, payload.targetRevision = revision ∧ before.ShiftedOnce payload := by
  refine ⟨fun revision => ?_, ?_⟩
  · rcases (ProjectionWorld.run_coherent initial run).counted revision with none | ⟨one, -⟩ <;> omega
  · rintro first event revision generation second rfl
    obtain ⟨before, after, opening, -, stepped, -⟩ := run.split_at
    have coherent := ProjectionWorld.run_coherent initial opening
    obtain ⟨phase, rfl, rfl, worker, outbox, recovered, stage, current⟩ :=
      ProjectionWorld.step_running stepped
    have fits := coherent.stages worker
    rw [stage] at fits
    obtain ⟨reached, held⟩ := coherent.evaluated_reached fits phase current
    obtain ⟨order, member, same, shifted⟩ := coherent.shifted phase reached
    refine ⟨?_, before, opening, reached, held, order.2.1, ?_, shifted⟩
    · rw [← same]
      exact coherent.committed order member _ reached (by omega)
    · rw [(coherent.wellFormed order member).1, same]

/-- A running clock at revision one with a tournament and an auction, and two idle workers. -/
def projectionStart : ProjectionWorld Bool where
  clock := ⟨.running, 1, 1, some 0, 0, .realtime, some 0, 3600⟩
  outbox := []
  auctions := [⟨7, some 50000⟩]
  appliedSuspensions := []
  redis := ⟨some 1, some 1, [(50000, 7)], some ⟨1, some 1000, some 10000, none, none, some 1, some 1, ""⟩,
    none, some .running⟩
  workers _ := .idle
  source := none

/-- The first worker crashes right after its script; the second takes the row over and finishes. -/
def projectionCrash : List (ProjectionEvent Bool) :=
  [.suspend,
    .reconcile ⟨.reconciling, 2, 2, some 0, 20000, .realtime, some 0, 3600⟩ [⟨7, some 70000⟩]
      ⟨"che", "s", 1, 2, 2, 20000, 2000, 0, 10000⟩ 0,
    .claimNext false "a" 0 [], .checkFence false 0, .readAuctions false, .readTournament false,
    .evaluate false, .crash false,
    .claimNext true "b" 40000 [], .checkFence true 40000, .readAuctions true, .readTournament true,
    .evaluate true, .finalize true 40000]

/-- The crash is a run, it shifts the timers once, and the clock runs again. -/
theorem clock_projection_exactly_once_crash :
    projectionStart.Initial ∧ ∃ final trace,
      (projectionMachine Bool ProjectionPayload.suspensionId).Run projectionStart trace final ∧
      trace.map Prod.snd = [.quiet, .quiet, .quiet, .quiet, .quiet, .quiet, .scriptApplied 2, .quiet,
        .quiet, .quiet, .quiet, .quiet, .quiet, .running 2 2] ∧
      final.redis.timers = [(70000, 7)] ∧ final.redis.tournament.map (·.nextTick) = some (some 30000) ∧
      ∀ revision, scriptCommits trace revision ≤ 1 := by
  have initial : projectionStart.Initial := ⟨rfl, rfl, fun _ => rfl, .inr rfl⟩
  have replayed : ∃ final trace,
      (projectionMachine Bool ProjectionPayload.suspensionId).replay projectionStart projectionCrash
        = some (final, trace) ∧
      trace.map Prod.snd = [.quiet, .quiet, .quiet, .quiet, .quiet, .quiet, .scriptApplied 2, .quiet,
        .quiet, .quiet, .quiet, .quiet, .quiet, .running 2 2] ∧
      final.redis.timers = [(70000, 7)] ∧
      final.redis.tournament.map (·.nextTick) = some (some 30000) := ⟨_, _, rfl, rfl, rfl, rfl⟩
  obtain ⟨final, trace, replay, outputs, timers, tournament⟩ := replayed
  have run := StateMachine.run_of_replay replay
  exact ⟨initial, final, trace, run, outputs, timers, tournament,
    (clock_projection_exactly_once initial run).1⟩

end Sammo
