import Mathlib.Algebra.Ring.Nat
import Sammo.Clock.ProjectionOutbox

/-! Laws of the clock projection outbox: what one event keeps, and what every run has projected. -/

namespace Sammo

/-- How often a trace's scripts applied a revision. -/
def scriptCommits {ι : Type} (trace : List (ProjectionEvent ι × ProjectionOutput)) (revision : Int) : Nat :=
  (trace.map fun entry => if entry.2 = .scriptApplied revision then 1 else 0).sum

/-- The columns of an outbox row that never change. -/
def OutboxRow.order (row : OutboxRow) : Int × ProjectionPayload × String :=
  (row.targetRevision, row.payload, row.checksum)

namespace ProjectionWorld

variable {ι : Type}

/-- Every projection ever ordered. -/
def orders (world : ProjectionWorld ι) : List (Int × ProjectionPayload × String) :=
  world.outbox.map OutboxRow.order

/-- The row's projection is the one the database waits for, and Redis does not have it yet. -/
def Awaits (world : ProjectionWorld ι) (outbox : OutboxRow) : Prop :=
  world.clock.clockPhase = .reconciling ∧ outbox.targetRevision = world.clock.clockRevision ∧
    world.redis.activeRevision ≠ some world.clock.clockRevision

/-- What a worker's stage says about the world around it. -/
def StageFits (world : ProjectionWorld ι) : ProjectionStage → Prop
  | .idle => True
  | .failing _ _ => True
  | .claimed outbox => outbox.order ∈ world.orders
  | .fenced outbox _ => outbox.order ∈ world.orders
  | .timed outbox _ timers =>
    outbox.order ∈ world.orders ∧ (world.Awaits outbox → auctionTimers world.auctions = .ok timers)
  | .projected outbox arguments =>
    outbox.order ∈ world.orders ∧ ∃ timers tournament clock,
      arguments = scriptArguments outbox timers tournament ∧
      (world.Awaits outbox → auctionTimers world.auctions = .ok timers ∧
        projectTournamentState world.source outbox.payload clock = .ok tournament)
  | .evaluated outbox _ =>
    outbox.order ∈ world.orders ∧
      ∃ active, world.redis.activeRevision = some active ∧ outbox.targetRevision ≤ active

/-- The timers and the tournament are those of the reconciliation, shifted by the order once. -/
def ShiftedOnce (world : ProjectionWorld ι) (payload : ProjectionPayload) : Prop :=
  auctionTimers world.auctions = .ok world.redis.timers ∧ ∃ tournament clock,
    projectTournamentState world.source payload clock = .ok tournament ∧
      world.redis.tournament = tournament.map Prod.snd

/-- How the outbox, the database clock and Redis agree. -/
structure Coherent (trace : List (ProjectionEvent ι × ProjectionOutput)) (world : ProjectionWorld ι) :
    Prop where
  wellFormed : ∀ order ∈ world.orders, order.2.1.targetRevision = order.1 ∧
    order.2.1.sourceRevision = order.1 - 1 ∧ order.1 ≤ world.clock.clockRevision
  generation : world.clock.clockPhase = .reconciling → ∀ order ∈ world.orders,
    order.1 = world.clock.clockRevision → order.2.1.deadlineGeneration = world.clock.deadlineGeneration
  settled : world.clock.clockPhase ≠ .reconciling → world.redis.activeRevision = none ∨
    world.redis.activeRevision = some world.clock.clockRevision
  between : world.clock.clockPhase = .reconciling → world.redis.activeRevision = none ∨
    world.redis.activeRevision = some (world.clock.clockRevision - 1) ∨
    (world.redis.activeRevision = some world.clock.clockRevision ∧
      world.redis.deadlineGeneration = some world.clock.deadlineGeneration)
  empty : world.redis.activeRevision = none → ∀ order ∈ world.orders,
    world.clock.clockPhase = .reconciling ∧ order.1 = world.clock.clockRevision
  untouched : world.clock.clockPhase = .reconciling →
    world.redis.activeRevision ≠ some world.clock.clockRevision → world.redis.tournament = world.source
  shifted : world.clock.clockPhase = .reconciling →
    world.redis.activeRevision = some world.clock.clockRevision → ∃ order ∈ world.orders,
      order.1 = world.clock.clockRevision ∧ world.ShiftedOnce order.2.1
  counted : ∀ revision, scriptCommits trace revision = 0 ∨ (scriptCommits trace revision = 1 ∧
    ∃ active, world.redis.activeRevision = some active ∧ revision ≤ active)
  committed : ∀ order ∈ world.orders, ∀ active, world.redis.activeRevision = some active →
    order.1 ≤ active → scriptCommits trace order.1 = 1
  stages : ∀ worker, world.StageFits (world.workers worker)

theorem scriptCommits_quiet (trace : List (ProjectionEvent ι × ProjectionOutput))
    (event : ProjectionEvent ι) {output : ProjectionOutput}
    (silent : ∀ revision, output ≠ .scriptApplied revision) (revision : Int) :
    scriptCommits (trace ++ [(event, output)]) revision = scriptCommits trace revision := by
  simp [scriptCommits, silent revision]

theorem updateRow_orders (rows : List OutboxRow) (id : Nat) {change : OutboxRow → OutboxRow}
    (kept : ∀ row, (change row).order = row.order) :
    (updateRow rows id change).map OutboxRow.order = rows.map OutboxRow.order := by
  simp only [updateRow, List.map_map]
  refine List.map_congr_left fun row _ => ?_
  simp only [Function.comp]
  split
  · exact kept row
  · rfl

variable {world next : ProjectionWorld ι} {stage : ProjectionStage}
  {trace : List (ProjectionEvent ι × ProjectionOutput)} {arguments : ScriptArguments} {outbox : OutboxRow}
  {payload : ProjectionPayload}

theorem StageFits.mono (fits : world.StageFits stage) (orders : ∀ order ∈ world.orders, order ∈ next.orders)
    (awaits : ∀ outbox, outbox.order ∈ world.orders → next.Awaits outbox →
      world.Awaits outbox ∧ next.auctions = world.auctions ∧ next.source = world.source)
    (active : ∀ revision, world.redis.activeRevision = some revision →
      ∃ later, next.redis.activeRevision = some later ∧ revision ≤ later) : next.StageFits stage := by
  cases stage with
  | idle => trivial
  | failing id message => trivial
  | claimed outbox => exact orders _ fits
  | fenced outbox clock => exact orders _ fits
  | timed outbox clock timers =>
    obtain ⟨ordered, timed⟩ := fits
    refine ⟨orders _ ordered, fun waiting => ?_⟩
    obtain ⟨before, auctions, -⟩ := awaits outbox ordered waiting
    rw [auctions]
    exact timed before
  | projected outbox arguments =>
    obtain ⟨ordered, timers, tournament, clock, same, projected⟩ := fits
    refine ⟨orders _ ordered, timers, tournament, clock, same, fun waiting => ?_⟩
    obtain ⟨before, auctions, source⟩ := awaits outbox ordered waiting
    rw [auctions, source]
    exact projected before
  | evaluated outbox recovered =>
    obtain ⟨ordered, revision, present, reached⟩ := fits
    obtain ⟨later, there, above⟩ := active revision present
    exact ⟨orders _ ordered, later, there, by omega⟩

theorem Coherent.relabel (coherent : Coherent trace world) (event : ProjectionEvent ι)
    (clock : next.clock = world.clock) (orders : next.orders = world.orders)
    (auctions : next.auctions = world.auctions) (redis : next.redis = world.redis)
    (source : next.source = world.source) (stages : ∀ worker, world.StageFits (next.workers worker)) :
    Coherent (trace ++ [(event, .quiet)]) next := by
  have counts : ∀ revision, scriptCommits (trace ++ [(event, .quiet)]) revision
      = scriptCommits trace revision := scriptCommits_quiet trace event (by simp)
  refine ⟨?_, ?_, ?_, ?_, ?_, ?_, ?_, ?_, ?_, fun worker => ?_⟩
  · rw [orders, clock]
    exact coherent.wellFormed
  · rw [orders, clock]
    exact coherent.generation
  · rw [clock, redis]
    exact coherent.settled
  · rw [clock, redis]
    exact coherent.between
  · rw [clock, redis, orders]
    exact coherent.empty
  · rw [clock, redis, source]
    exact coherent.untouched
  · simp only [ShiftedOnce]
    rw [clock, redis, orders, source, auctions]
    exact coherent.shifted
  · intro revision
    rw [counts, redis]
    exact coherent.counted revision
  · intro order
    rw [counts, redis, orders]
    exact coherent.committed order
  · refine (stages worker).mono (fun order member => orders ▸ member) ?_ ?_
    · intro outbox _ waiting
      refine ⟨?_, auctions, source⟩
      simpa only [Awaits, clock, redis] using waiting
    · intro revision present
      exact ⟨revision, redis ▸ present, Int.le_refl _⟩

theorem script_cases {redis next : ProjectionRedis} {result : ScriptResult}
    (ran : applyClockProjectionScript redis arguments = (next, result)) :
    (next = redis ∧ result = .alreadyApplied ∧
      redis.activeRevision = some arguments.targetRevision) ∨
    (next = redis ∧ (result = .wrongSource ∨ result = .tournamentChanged ∨ result = .wrongChecksum)) ∨
    (result = .applied ∧
      (redis.activeRevision = none ∨ redis.activeRevision = some arguments.sourceRevision) ∧
      redis.activeRevision ≠ some arguments.targetRevision ∧
      (arguments.tournament = none ∨ redis.tournament = arguments.tournament.map Prod.fst) ∧
      next.activeRevision = some arguments.targetRevision ∧
      next.deadlineGeneration = some arguments.deadlineGeneration ∧ next.timers = arguments.timers ∧
      next.tournament = (match arguments.tournament with
        | some (_, projected) => some projected
        | none => redis.tournament)) := by
  simp only [applyClockProjectionScript] at ran
  split at ran
  · rename_i reached
    split at ran <;> obtain ⟨rfl, rfl⟩ := Prod.mk.inj ran
    · exact .inl ⟨rfl, rfl, reached⟩
    · exact .inr (.inl ⟨rfl, .inr (.inr rfl)⟩)
  · rename_i unreached
    split at ran
    · obtain ⟨rfl, rfl⟩ := Prod.mk.inj ran
      exact .inr (.inl ⟨rfl, .inl rfl⟩)
    · rename_i fromSource
      split at ran
      · obtain ⟨rfl, rfl⟩ := Prod.mk.inj ran
        exact .inr (.inl ⟨rfl, .inr (.inl rfl)⟩)
      · rename_i unchanged
        obtain ⟨rfl, rfl⟩ := Prod.mk.inj ran
        refine .inr (.inr ⟨rfl, ?_, unreached, ?_, rfl, rfl, rfl, rfl⟩)
        · by_cases absent : redis.activeRevision = none
          · exact .inl absent
          · exact .inr (by simpa [absent] using fromSource)
        · by_cases missing : arguments.tournament = none
          · exact .inl missing
          · exact .inr (by simpa [missing] using unchanged)

theorem Coherent.applied_awaits (coherent : Coherent trace world) (ordered : outbox.order ∈ world.orders)
    (behind : world.redis.activeRevision = none ∨
      world.redis.activeRevision = some outbox.payload.sourceRevision) : world.Awaits outbox := by
  obtain ⟨target, source, bounded⟩ := coherent.wellFormed _ ordered
  simp only [OutboxRow.order] at target source bounded
  rcases behind with absent | present
  · -- An empty Redis has only the waiting order before it.
    obtain ⟨phase, current⟩ := coherent.empty absent _ ordered
    exact ⟨phase, current, by simp [absent]⟩
  · by_cases phase : world.clock.clockPhase = .reconciling
    · rcases coherent.between phase with absent | previous | ⟨reached, -⟩
      · simp [absent] at present
      · rw [previous, source, Option.some.injEq] at present
        refine ⟨phase, by omega, ?_⟩
        simp only [previous, ne_eq, Option.some.injEq]
        omega
      · -- A target past the current revision was never ordered.
        rw [reached, source, Option.some.injEq] at present
        omega
    · rcases coherent.settled phase with absent | reached
      · simp [absent] at present
      · rw [reached, source, Option.some.injEq] at present
        omega

theorem not_awaits (phase : world.clock.clockPhase ≠ .reconciling) (outbox : OutboxRow) : ¬ world.Awaits outbox :=
  fun waiting => phase waiting.1

theorem Coherent.unreconciled (coherent : Coherent trace world) (event : ProjectionEvent ι)
    (before : world.clock.clockPhase ≠ .reconciling) (after : next.clock.clockPhase ≠ .reconciling)
    (revision : next.clock.clockRevision = world.clock.clockRevision) (orders : next.orders = world.orders)
    (active : next.redis.activeRevision = world.redis.activeRevision) (workers : next.workers = world.workers) :
    Coherent (trace ++ [(event, .quiet)]) next := by
  have counts : ∀ revision, scriptCommits (trace ++ [(event, .quiet)]) revision
      = scriptCommits trace revision := scriptCommits_quiet trace event (by simp)
  refine ⟨?_, fun phase => absurd phase after, ?_, fun phase => absurd phase after, ?_,
    fun phase => absurd phase after, fun phase => absurd phase after, ?_, ?_, fun worker => ?_⟩
  · rw [orders, revision]
    exact coherent.wellFormed
  · rw [revision, active]
    exact fun _ => coherent.settled before
  · rw [active, orders]
    exact fun absent order member => absurd (coherent.empty absent order member).1 before
  · intro revision
    rw [counts, active]
    exact coherent.counted revision
  · intro order
    rw [counts, active, orders]
    exact coherent.committed order
  · rw [workers]
    refine (coherent.stages worker).mono (fun order member => orders ▸ member) ?_ ?_
    · exact fun outbox _ waiting => absurd waiting (not_awaits after outbox)
    · intro held present
      exact ⟨held, active ▸ present, Int.le_refl _⟩

theorem Coherent.finalize (coherent : Coherent trace world) (event : ProjectionEvent ι) {generation : Int}
    (reached : world.redis.activeRevision = some world.clock.clockRevision)
    (clock : next.clock = { world.clock with clockPhase := .running }) (orders : next.orders = world.orders)
    (redis : next.redis = world.redis) (stages : ∀ worker, world.StageFits (next.workers worker)) :
    Coherent (trace ++ [(event, .running world.clock.clockRevision generation)]) next := by
  have counts : ∀ revision,
      scriptCommits (trace ++ [(event, .running world.clock.clockRevision generation)]) revision
        = scriptCommits trace revision := scriptCommits_quiet trace event (by simp)
  have running : next.clock.clockPhase ≠ .reconciling := by simp [clock]
  refine ⟨?_, fun reconciling => absurd reconciling running, ?_,
    fun reconciling => absurd reconciling running, ?_, fun reconciling => absurd reconciling running,
    fun reconciling => absurd reconciling running, ?_, ?_, fun worker => ?_⟩
  · rw [orders, clock]
    exact coherent.wellFormed
  · rw [redis, clock]
    exact fun _ => .inr reached
  · rw [redis, reached]
    simp
  · intro revision
    rw [counts, redis]
    exact coherent.counted revision
  · intro order
    rw [counts, redis, orders]
    exact coherent.committed order
  · refine (stages worker).mono (fun order member => orders ▸ member) ?_ ?_
    · exact fun outbox _ waiting => absurd waiting (not_awaits running outbox)
    · intro held present
      exact ⟨held, redis ▸ present, Int.le_refl _⟩

theorem Coherent.reconcile (coherent : Coherent trace world) (event : ProjectionEvent ι) (checksum : String)
    (suspended : world.clock.clockPhase = .suspended) (phase : next.clock.clockPhase = .reconciling)
    (revision : next.clock.clockRevision = world.clock.clockRevision + 1)
    (source : payload.sourceRevision = world.clock.clockRevision)
    (target : payload.targetRevision = next.clock.clockRevision)
    (generation : payload.deadlineGeneration = next.clock.deadlineGeneration)
    (orders : next.orders = world.orders ++ [(payload.targetRevision, payload, checksum)])
    (redis : next.redis = world.redis) (remembered : next.source = world.redis.tournament)
    (workers : next.workers = world.workers) : Coherent (trace ++ [(event, .quiet)]) next := by
  have counts : ∀ revision, scriptCommits (trace ++ [(event, .quiet)]) revision
      = scriptCommits trace revision := scriptCommits_quiet trace event (by simp)
  have before : world.clock.clockPhase ≠ .reconciling := by simp [suspended]
  -- Redis is at the source revision, or empty, and so behind the new order.
  have behind : ∀ active, world.redis.activeRevision = some active → active = world.clock.clockRevision := by
    intro active present
    rcases coherent.settled before with absent | reached
    · simp [absent] at present
    · simpa [reached] using present.symm
  have members : ∀ order, order ∈ next.orders ↔ order ∈ world.orders ∨
      order = (payload.targetRevision, payload, checksum) := fun order => by
    rw [orders]
    simp
  constructor
  case wellFormed =>
    intro order member
    rcases (members order).mp member with earlier | rfl
    · obtain ⟨first, second, bounded⟩ := coherent.wellFormed order earlier
      exact ⟨first, second, by omega⟩
    · exact ⟨rfl, by simp only; omega, by simp only; omega⟩
  case generation =>
    intro _ order member current
    rcases (members order).mp member with earlier | rfl
    · have := (coherent.wellFormed order earlier).2.2
      omega
    · exact generation
  case settled => exact fun other => absurd phase other
  case between =>
    intro _
    rw [redis]
    rcases coherent.settled before with absent | reached
    · exact .inl absent
    · exact .inr (.inl (by rw [reached, revision]; simp))
  case empty =>
    intro absent order member
    rw [redis] at absent
    rcases (members order).mp member with earlier | rfl
    · exact absurd (coherent.empty absent order earlier).1 before
    · exact ⟨phase, target⟩
  case untouched => exact fun _ _ => by rw [redis, remembered]
  case shifted =>
    intro _ reached
    rw [redis] at reached
    have := behind _ reached
    omega
  case counted =>
    intro number
    rw [counts, redis]
    exact coherent.counted number
  case committed =>
    intro order member active present above
    rw [counts]
    rw [redis] at present
    rcases (members order).mp member with earlier | rfl
    · exact coherent.committed order earlier active present above
    · have := behind active present
      simp only at above
      omega
  case stages =>
    intro worker
    rw [workers]
    refine (coherent.stages worker).mono (fun order member => (members order).mpr (.inl member)) ?_ ?_
    · intro outbox ordered waiting
      have bounded := (coherent.wellFormed _ ordered).2.2
      have current := waiting.2.1
      simp only [OutboxRow.order] at bounded
      omega
    · intro held present
      exact ⟨held, redis ▸ present, Int.le_refl _⟩

variable [DecidableEq ι]

theorem setStage_fits (world : ProjectionWorld ι) (fits : ∀ worker, world.StageFits (world.workers worker))
    {worker : ι} (fitting : world.StageFits stage) (other : ι) :
    world.StageFits ((world.setStage worker stage).workers other) := by
  by_cases same : other = worker
  · subst same
    simpa [setStage] using fitting
  · simpa [setStage, Function.update_of_ne same] using fits other

theorem Coherent.advance {α : Type} (coherent : Coherent trace world) (event : ProjectionEvent ι) (worker : ι)
    (outbox : OutboxRow) (result : Except String α) (stage : α → ProjectionStage)
    (fitting : ∀ value, result = .ok value → world.StageFits (stage value)) :
    Coherent (trace ++ [(event, .quiet)]) (world.advance worker outbox result stage) := by
  cases computed : result with
  | error message =>
    exact coherent.relabel event rfl rfl rfl rfl rfl (setStage_fits world coherent.stages trivial)
  | ok value =>
    exact coherent.relabel event rfl rfl rfl rfl rfl
      (setStage_fits world coherent.stages (fitting value computed))

theorem projectTournamentState_shifts {parsed : TournamentState} {clock : GameClock}
    {states : Option (TournamentState × TournamentState)}
    (projected : projectTournamentState (some parsed) payload clock = .ok states) :
    ∃ next, states = some (parsed, next) ∧ next.clockRevision = some payload.targetRevision ∧
      next.deadlineGeneration = some payload.deadlineGeneration ∧ next.stage = parsed.stage ∧
      next.rest = parsed.rest ∧
      (isSafeTick parsed.nextTick = true → next.nextTick = parsed.nextTick.map (· + payload.shiftTicks)) ∧
      (isSafeTick parsed.bettingCloseTick = true →
        next.bettingCloseTick = parsed.bettingCloseTick.map (· + payload.shiftTicks)) := by
  have moved : ∀ {tick instant : Option Int} {result : Option Int × Option Int},
      shiftDeadline clock payload.shiftTicks tick instant = .ok result → isSafeTick tick = true →
      result.1 = tick.map (· + payload.shiftTicks) := by
    intro tick instant result shifted safe
    cases tick with
    | none => simp [isSafeTick] at safe
    | some value =>
      have inside : isSafeInteger value := by simpa [isSafeTick] using safe
      simp only [shiftDeadline, inside, if_true, Bind.bind, Except.bind] at shifted
      cases dated : clock.tickToDate (value + payload.shiftTicks) with
      | error message => simp [dated] at shifted
      | ok date =>
        simp only [dated, Except.ok.injEq] at shifted
        subst shifted
        rfl
  simp only [projectTournamentState] at projected
  split at projected
  · cases projected
  split at projected
  · cases projected
  cases first : shiftDeadline clock payload.shiftTicks parsed.nextTick parsed.nextAt with
  | error message => simp [first, Bind.bind, Except.bind] at projected
  | ok next =>
    cases second : shiftDeadline clock payload.shiftTicks parsed.bettingCloseTick parsed.bettingCloseAt with
    | error message => simp [first, second, Bind.bind, Except.bind] at projected
    | ok betting =>
      simp only [first, second, Bind.bind, Except.bind, Except.ok.injEq] at projected
      subst projected
      exact ⟨_, rfl, rfl, rfl, rfl, rfl, moved first, moved second⟩

theorem projectTournamentState_none {raw : Option TournamentState} {clock : GameClock}
    (projected : projectTournamentState raw payload clock = .ok none) : raw = none := by
  cases raw with
  | none => rfl
  | some parsed =>
    obtain ⟨next, same, -⟩ := projectTournamentState_shifts projected
    cases same

theorem Coherent.scriptApplied (coherent : Coherent trace world) (event : ProjectionEvent ι)
    {redis : ProjectionRedis} (fits : world.StageFits (.projected outbox arguments))
    (behind : world.redis.activeRevision = none ∨
      world.redis.activeRevision = some arguments.sourceRevision)
    (active : redis.activeRevision = some arguments.targetRevision)
    (generation : redis.deadlineGeneration = some arguments.deadlineGeneration)
    (timers : redis.timers = arguments.timers) (tournament : redis.tournament = (match arguments.tournament with
      | some (_, projected) => some projected
      | none => world.redis.tournament)) (worker : ι) (recovered : Bool) :
    Coherent (trace ++ [(event, .scriptApplied arguments.targetRevision)])
      ({ world with redis }.setStage worker (.evaluated outbox recovered)) := by
  obtain ⟨ordered, rebuilt, pair, clock, rfl, projected⟩ := fits
  obtain ⟨target, source, bounded⟩ := coherent.wellFormed _ ordered
  simp only [OutboxRow.order] at target source bounded
  have waiting := coherent.applied_awaits ordered behind
  obtain ⟨auctions, shifted⟩ := projected waiting
  obtain ⟨phase, current, behindRedis⟩ := waiting
  have reached : redis.activeRevision = some world.clock.clockRevision := by
    rw [active, ← current, ← target]
    rfl
  -- Before the script ran, Redis was at most at the source revision.
  have below : ∀ revision, world.redis.activeRevision = some revision →
      revision = world.clock.clockRevision - 1 := by
    intro revision present
    rcases behind with absent | held
    · simp [absent] at present
    · rw [held, Option.some.injEq] at present
      simp only [scriptArguments] at present
      omega
  have counts : ∀ revision,
      scriptCommits (trace ++ [(event, .scriptApplied (scriptArguments outbox rebuilt pair).targetRevision)])
          revision = scriptCommits trace revision + if revision = world.clock.clockRevision then 1 else 0 := by
    intro revision
    simp only [scriptCommits, List.map_append, List.map_cons, List.map_nil, List.sum_append,
      List.sum_singleton, ProjectionOutput.scriptApplied.injEq, scriptArguments, target, current]
    congr 1
    exact if_congr eq_comm rfl rfl
  have fresh : scriptCommits trace world.clock.clockRevision = 0 := by
    rcases coherent.counted world.clock.clockRevision with none | ⟨-, revision, present, above⟩
    · exact none
    · have := below revision present
      omega
  constructor
  case wellFormed => exact coherent.wellFormed
  case generation => exact coherent.generation
  case settled => exact fun other => absurd phase other
  case between =>
    refine fun _ => .inr (.inr ⟨reached, ?_⟩)
    rw [show (ProjectionWorld.setStage _ _ _).redis = redis from rfl, generation]
    exact congrArg some (coherent.generation phase _ ordered current)
  case empty =>
    intro absent
    rw [show (ProjectionWorld.setStage _ _ _).redis = redis from rfl, reached] at absent
    cases absent
  case untouched => exact fun _ differs => absurd reached differs
  case shifted =>
    refine fun _ _ => ⟨outbox.order, ordered, current, ?_, pair, clock, shifted, ?_⟩
    · exact auctions.trans (congrArg Except.ok timers.symm)
    · rw [show (ProjectionWorld.setStage _ _ _).redis = redis from rfl, tournament]
      cases pair with
      | none =>
        exact (coherent.untouched phase behindRedis).trans (projectTournamentState_none shifted)
      | some states => rfl
  case counted =>
    intro revision
    by_cases same : revision = world.clock.clockRevision
    · subst same
      exact .inr ⟨by rw [counts, fresh]; simp, _, reached, Int.le_refl _⟩
    · rcases coherent.counted revision with none | ⟨one, held, present, above⟩
      · exact .inl (by rw [counts, none]; simp [same])
      · have := below held present
        exact .inr ⟨by rw [counts, one]; simp [same], _, reached, by omega⟩
  case committed =>
    intro order member revision present above
    rw [counts]
    by_cases same : order.1 = world.clock.clockRevision
    · simp [same, fresh]
    · have upper := (coherent.wellFormed order member).2.2
      cases held : world.redis.activeRevision with
      | none => exact absurd (coherent.empty held order member).2 same
      | some before =>
        have := below before held
        simp [same, coherent.committed order member before held (by omega)]
  case stages =>
    refine setStage_fits { world with redis } (fun other => ?_) ?_
    · refine (coherent.stages other).mono (fun _ => id) ?_ ?_
      · exact fun _ _ waiting => absurd reached waiting.2.2
      · intro revision present
        have := below revision present
        exact ⟨_, reached, by omega⟩
    · exact ⟨ordered, _, reached, bounded⟩

end ProjectionWorld

end Sammo
