import Sammo.Time.TurnRecoveryLaws

/-! What the plans for a suspended clock make of the deadlines, under each policy. -/

namespace Sammo

/-- The deadlines that a reconciliation shifts, by the tables that hold them. -/
inductive ShiftParticipant where
  | turnCursor
  | generalNextTurn
  | selectionReselectionDeadline
  | cityOfficeRequestDeadline
  | auctionDeadline
  | messageActionExpiry
  | voteEndDeadline
  | selectPoolReservation
  | npcSelectionWindow
  deriving DecidableEq

/-- Deadlines that count only from the cut on; the earlier ones have run out and are no participants. -/
def ShiftParticipant.fromCut : ShiftParticipant → Bool
  | .selectionReselectionDeadline => true
  | .cityOfficeRequestDeadline => true
  | .messageActionExpiry => true
  | _ => false

/-- The deadline takes part in the shift. -/
def ShiftParticipant.Participates (participant : ShiftParticipant) (cutTick deadline : Int) : Prop :=
  participant.fromCut = true → cutTick ≤ deadline

/-- A deadline after the reconciliation. -/
def ClockAlignmentPlan.shiftedDeadline (plan : ClockAlignmentPlan) (participant : ShiftParticipant)
    (deadline : Int) : Int :=
  if participant.fromCut = true ∧ deadline < plan.cutTick then deadline else deadline + plan.shiftTicks

/-- What every plan that is built from the wall gap has in common. -/
structure FollowsGap (input : ClockAlignmentInput) (plan : ClockAlignmentPlan) : Prop where
  cut : plan.cutTick = input.cutTick
  gap : 0 ≤ plan.gapTicks
  catchUp : plan.catchUpTicks = input.catchUpTicks.getD 0
  shift : plan.shiftTicks = plan.gapTicks - plan.catchUpTicks
  caughtUp : 0 ≤ plan.catchUpTicks ∧ plan.catchUpTicks ≤ plan.gapTicks
  aligned : plan.alignedTick = plan.cutTick + plan.gapTicks

theorem buildAlignmentPlan_ok {input : ClockAlignmentInput} {plan : ClockAlignmentPlan}
    (built : buildAlignmentPlan input = .ok plan) : FollowsGap input plan := by
  simp only [buildAlignmentPlan, Bind.bind, Except.bind] at built
  -- The checks of the revision, the cut and the dates come first.
  split at built
  · cases built
  split at built
  · cases built
  rename_i cutTick cut
  split at built
  · cases built
  split at built
  · cases built
  rename_i rate
  split at built
  · cases built
  split at built
  · cases built
  rename_i gapTicks gap
  split at built
  · cases built
  rename_i catchUpTicks catchUp
  split at built
  · cases built
  rename_i bounded
  split at built
  · cases built
  rename_i shiftTicks shift
  split at built
  · cases built
  split at built
  · cases built
  rename_i alignedTick aligned
  rw [← Except.ok.inj built]
  have positive : 0 < input.ticksPerSecond := (not_not.mp rate).2
  refine ⟨GameClock.requireSafeTick_ok cut, ?_, GameClock.requireSafeTick_ok catchUp,
    GameClock.requireSafeTick_ok shift, by simpa using bounded, GameClock.requireSafeTick_ok aligned⟩
  show 0 ≤ gapTicks
  rw [GameClock.requireSafeTick_ok gap]
  -- Neither the whole seconds nor the rest of the gap are negative.
  have seconds : 0 ≤ max 0 (input.resumeWall - input.cutWall) / 1000 * input.ticksPerSecond :=
    Int.mul_nonneg (by omega) positive.le
  have rest : 0 ≤ (max 0 (input.resumeWall - input.cutWall) -
      max 0 (input.resumeWall - input.cutWall) / 1000 * 1000) * input.ticksPerSecond :=
    Int.mul_nonneg (by omega) positive.le
  omega

/-- How far a policy shifts the deadlines, and how much it leaves to be caught up. -/
def ShiftsBy (normalTick : Int) (plan : ClockAlignmentPlan) : ClockAlignmentPolicy → Prop
  | .exact => plan.shiftTicks = plan.gapTicks ∧ plan.catchUpTicks = 0
  | .turnBoundary => plan.alignedTick % gameTicksPerTurn = 0 ∧ normalTick ≤ plan.alignedTick ∧ plan.catchUpTicks = 0
  | .catchUp => plan.shiftTicks + plan.catchUpTicks = plan.gapTicks
  | .preserveSchedule => plan.shiftTicks = 0 ∧ plan.catchUpTicks = plan.gapTicks
  | .legacyCompleteTurns => plan.shiftTicks % gameTicksPerTurn = 0 ∧
    plan.shiftTicks + plan.catchUpTicks = plan.gapTicks ∧ plan.catchUpTicks < gameTicksPerTurn
  | .recoverTurns => plan.shiftTicks % (12 * gameTicksPerTurn) = 0 ∧
    plan.shiftTicks + plan.catchUpTicks = max 0 (normalTick - plan.cutTick)

/-- What is promised of a plan's shift and of the point at which the clock resumes. -/
structure Conserves (input : ClockAlignmentInput) (plan : ClockAlignmentPlan) : Prop where
  cut : plan.cutTick = input.cutTick
  forward : plan.cutTick ≤ plan.alignedTick
  shift : 0 ≤ plan.shiftTicks ∧ 0 ≤ plan.catchUpTicks
  whole : input.policy = .exact ∨ input.policy = .turnBoundary → plan.shiftTicks = plan.alignedTick - plan.cutTick
  parts : ShiftsBy (input.normalTick.getD (plan.cutTick + plan.gapTicks)) plan input.policy

theorem planTurnRecovery_shift {observedTick normalTick wallNow : Int} {turnSeconds : ℚ} {plan : TurnRecoveryPlan}
    (planned : planTurnRecovery observedTick normalTick wallNow turnSeconds = .ok plan) :
    observedTick ≤ plan.initialTick ∧ plan.skippedTurns % 12 = 0 ∧ 0 ≤ plan.skippedTurns ∧
      plan.skippedTurns * gameTicksPerTurn ≤ max 0 (normalTick - observedTick) := by
  obtain ⟨representable, _, _, _, cases⟩ := planTurnRecovery_cases planned
  have limit : 0 ≤ immediateRecoveryLimitSeconds * ((gameTicksPerTurn : Int) / turnSeconds.num) :=
    Int.mul_nonneg (by decide) representable.rate_pos.le
  rcases cases with ⟨_, rfl⟩ | ⟨long, _, rfl⟩ | ⟨long, _, _, rfl⟩
  · -- A short delay skips nothing.
    refine ⟨?_, rfl, le_rfl, ?_⟩
    · show observedTick ≤ max observedTick normalTick
      omega
    · show 0 * _ ≤ _
      omega
  · have years := wholeYears_bounds (show 0 ≤ normalTick - observedTick by omega)
    refine ⟨?_, Int.mul_emod_left _ _, years.1, years.2.trans (le_max_right _ _)⟩
    show observedTick ≤ normalTick
    omega
  · have years := wholeYears_bounds (show 0 ≤ normalTick - observedTick by omega)
    refine ⟨?_, Int.mul_emod_left _ _, years.1, years.2.trans (le_max_right _ _)⟩
    -- The years that are skipped lead from the observed tick to the first of the window.
    have skips := observedTick_add_wholeYears observedTick normalTick
    have forward := Int.mul_nonneg years.1 (show 0 ≤ (gameTicksPerTurn : Int) by decide)
    show observedTick ≤ normalTick - overdueTicks observedTick normalTick
    omega

theorem FollowsGap.exactly {input : ClockAlignmentInput} {plan : ClockAlignmentPlan} (follows : FollowsGap input plan)
    (nothing : input.catchUpTicks = some 0) : plan.catchUpTicks = 0 ∧ plan.shiftTicks = plan.gapTicks := by
  have catchUp := follows.catchUp
  rw [nothing, Option.getD_some] at catchUp
  exact ⟨catchUp, by rw [follows.shift, catchUp, sub_zero]⟩

section

variable {input : ClockAlignmentInput} {plan : ClockAlignmentPlan}
  (built : buildClockAlignmentPlan input = .ok plan)

include built

theorem exact_conserves (policy : input.policy = .exact) : Conserves input plan := by
  obtain ⟨_, sourceRevision, cutTick, cutWall, resumeWall, ticksPerSecond, catchUp, normal⟩ := input
  subst policy
  -- Only a plan without any catching up passes the check of the policy.
  simp only [buildClockAlignmentPlan] at built
  split at built
  · cases built
  have follows := buildAlignmentPlan_ok built
  obtain ⟨nothing, whole⟩ := follows.exactly rfl
  obtain ⟨cut, gap, _, _, _, aligned⟩ := follows
  exact ⟨cut, by omega, ⟨by omega, by omega⟩, fun _ => by omega, whole, nothing⟩

theorem catchUp_conserves (policy : input.policy = .catchUp) : Conserves input plan := by
  obtain ⟨_, sourceRevision, cutTick, cutWall, resumeWall, ticksPerSecond, catchUp, normal⟩ := input
  subst policy
  -- What is caught up is subtracted from the gap.
  obtain ⟨cut, gap, _, shift, caughtUp, aligned⟩ := buildAlignmentPlan_ok built
  refine ⟨cut, by omega, ⟨by omega, caughtUp.1⟩, by simp, ?_⟩
  show plan.shiftTicks + plan.catchUpTicks = plan.gapTicks
  omega

theorem preserveSchedule_conserves (policy : input.policy = .preserveSchedule) : Conserves input plan := by
  obtain ⟨_, sourceRevision, cutTick, cutWall, resumeWall, ticksPerSecond, catchUp, normal⟩ := input
  subst policy
  -- The plan of the gap is built first, and all of it is to be caught up.
  simp only [buildClockAlignmentPlan, Bind.bind, Except.bind] at built
  split at built
  · cases built
  split at built
  · cases built
  rename_i exactly gap
  obtain ⟨cut, gap, _, _, _, aligned⟩ := buildAlignmentPlan_ok gap
  rw [← Except.ok.inj built]
  exact ⟨cut, by dsimp only; omega, ⟨le_rfl, gap⟩, by simp, rfl, rfl⟩

theorem legacyCompleteTurns_conserves (policy : input.policy = .legacyCompleteTurns) : Conserves input plan := by
  obtain ⟨_, sourceRevision, cutTick, cutWall, resumeWall, ticksPerSecond, catchUp, normal⟩ := input
  subst policy
  -- The turns are divided off the gap that the exact plan has, and the rest is caught up.
  simp only [buildClockAlignmentPlan, Bind.bind, Except.bind] at built
  split at built
  · cases built
  rename_i exactly gap
  obtain ⟨cut, gap, _, _, _, aligned⟩ := buildAlignmentPlan_ok gap
  split at built
  · cases built
  rename_i shiftTicks shift
  split at built
  · cases built
  rename_i catchUpTicks rest
  rw [← Except.ok.inj built]
  have turns := GameClock.requireSafeTick_ok shift
  have left := GameClock.requireSafeTick_ok rest
  simp only [gameTicksPerTurn] at turns
  refine ⟨cut, by dsimp only; omega, ⟨by dsimp only; omega, by dsimp only; omega⟩, by simp, ?_⟩
  simp only [ShiftsBy, gameTicksPerTurn]
  omega

theorem turnBoundary_conserves (policy : input.policy = .turnBoundary) : Conserves input plan := by
  obtain ⟨_, sourceRevision, cutTick, cutWall, resumeWall, ticksPerSecond, catchUp, normal⟩ := input
  subst policy
  -- The boundary is the next one after the schedule, or after the cut if that is later.
  simp only [buildClockAlignmentPlan, Bind.bind, Except.bind] at built
  split at built
  · cases built
  split at built
  · cases built
  rename_i exactly gap
  obtain ⟨cut, gap, _, _, _, aligned⟩ := buildAlignmentPlan_ok gap
  split at built
  · cases built
  rename_i alignedTick boundary
  obtain ⟨next, _⟩ := nextTurnBoundary_ok boundary
  have slack := ticksToBoundary_bounds (max cutTick (normal.getD exactly.alignedTick))
  split at built
  · cases built
  rename_i shiftTicks shift
  have moved := GameClock.requireSafeTick_ok shift
  rw [← Except.ok.inj built]
  have sameCut : exactly.cutTick = cutTick := cut
  have fromGap : exactly.cutTick + exactly.gapTicks = exactly.alignedTick := aligned.symm
  refine ⟨cut, by dsimp only; omega, ⟨by dsimp only; omega, le_rfl⟩, fun _ => by dsimp only; omega, ?_, ?_, rfl⟩
  · show alignedTick % gameTicksPerTurn = 0
    simp only [next, ticksToBoundary, gameTicksPerTurn]
    omega
  · show normal.getD (exactly.cutTick + exactly.gapTicks) ≤ alignedTick
    rw [fromGap]
    omega

theorem recoverTurns_conserves (policy : input.policy = .recoverTurns) : Conserves input plan := by
  obtain ⟨_, sourceRevision, cutTick, cutWall, resumeWall, ticksPerSecond, catchUp, normal⟩ := input
  subst policy
  -- The recovery plan says how many years are skipped, and the rest of the delay is caught up.
  simp only [buildClockAlignmentPlan, Bind.bind, Except.bind] at built
  split at built
  · cases built
  split at built
  · cases built
  rename_i exactly gap
  obtain ⟨cut, gap, _, _, _, aligned⟩ := buildAlignmentPlan_ok gap
  split at built
  · cases built
  rename_i recovery planned
  obtain ⟨forward, years, skipped, covered⟩ := planTurnRecovery_shift planned
  split at built
  · cases built
  rename_i shiftTicks shift
  split at built
  · cases built
  rename_i catchUpTicks rest
  have moved := GameClock.requireSafeTick_ok shift
  have left := GameClock.requireSafeTick_ok rest
  rw [← Except.ok.inj built]
  have sameCut : exactly.cutTick = cutTick := cut
  have fromGap : exactly.cutTick + exactly.gapTicks = exactly.alignedTick := aligned.symm
  have nonneg : 0 ≤ recovery.skippedTurns * gameTicksPerTurn := Int.mul_nonneg skipped (by decide)
  refine ⟨cut, by dsimp only; omega, ⟨by dsimp only; omega, by dsimp only; omega⟩, by simp, ?_, ?_⟩
  · show shiftTicks % (12 * gameTicksPerTurn) = 0
    simp only [gameTicksPerTurn] at moved ⊢
    omega
  · show shiftTicks + catchUpTicks = max 0 (normal.getD (exactly.cutTick + exactly.gapTicks) - exactly.cutTick)
    rw [fromGap, sameCut]
    omega

end

theorem buildClockAlignmentPlan_ok {input : ClockAlignmentInput} {plan : ClockAlignmentPlan}
    (built : buildClockAlignmentPlan input = .ok plan) : Conserves input plan := by
  cases policy : input.policy with
  | exact => exact exact_conserves built policy
  | legacyCompleteTurns => exact legacyCompleteTurns_conserves built policy
  | catchUp => exact catchUp_conserves built policy
  | preserveSchedule => exact preserveSchedule_conserves built policy
  | recoverTurns => exact recoverTurns_conserves built policy
  | turnBoundary => exact turnBoundary_conserves built policy

theorem ClockAlignmentPlan.shiftedDeadline_of_participates {plan : ClockAlignmentPlan}
    {participant : ShiftParticipant} {deadline : Int} (takesPart : participant.Participates plan.cutTick deadline) :
    plan.shiftedDeadline participant deadline = deadline + plan.shiftTicks := by
  refine if_neg fun past => ?_
  have later := takesPart past.1
  omega

theorem ClockAlignmentPlan.overdue_iff {plan : ClockAlignmentPlan} (forward : plan.cutTick ≤ plan.alignedTick)
    (whole : plan.shiftTicks = plan.alignedTick - plan.cutTick) (participant : ShiftParticipant) (deadline : Int) :
    (plan.shiftedDeadline participant deadline < plan.alignedTick ↔ deadline < plan.cutTick) ∧
      (plan.shiftedDeadline participant deadline ≤ plan.alignedTick ↔ deadline ≤ plan.cutTick) := by
  unfold shiftedDeadline
  split
  · omega
  · omega

/-- Every alignment plan conserves distances, the deadlines that were overdue, and the gap. -/
theorem alignment_plans_conserve {input : ClockAlignmentInput} {plan : ClockAlignmentPlan}
    (built : buildClockAlignmentPlan input = .ok plan) :
    Conserves input plan ∧
      (∀ first second : ShiftParticipant, ∀ earlier later, first.Participates plan.cutTick earlier →
        second.Participates plan.cutTick later → earlier ≤ later →
        plan.shiftedDeadline first earlier ≤ plan.shiftedDeadline second later ∧
          plan.shiftedDeadline second later - plan.shiftedDeadline first earlier = later - earlier) ∧
      (plan.shiftTicks = plan.alignedTick - plan.cutTick → ∀ participant deadline,
        (plan.shiftedDeadline participant deadline < plan.alignedTick ↔ deadline < plan.cutTick) ∧
          (plan.shiftedDeadline participant deadline ≤ plan.alignedTick ↔ deadline ≤ plan.cutTick)) := by
  -- Deadlines that take part are all shifted by the same ticks.
  have conserves := buildClockAlignmentPlan_ok built
  refine ⟨conserves, ?_, ?_⟩
  · intro first second earlier later takesPart alsoTakesPart ordered
    rw [ClockAlignmentPlan.shiftedDeadline_of_participates takesPart,
      ClockAlignmentPlan.shiftedDeadline_of_participates alsoTakesPart]
    omega
  · exact fun whole participant deadline => plan.overdue_iff conserves.forward whole participant deadline

/-- A suspension of an hour, five minutes and some seconds that is recovered from by turns. -/
theorem alignment_plans_conserve_recovering :
    ∃ plan, buildClockAlignmentPlan ⟨.recoverTurns, 2, 100, 0, 3917250, 10000, none, none⟩ = .ok plan ∧
      Conserves ⟨.recoverTurns, 2, 100, 0, 3917250, 10000, none, none⟩ plan := by
  have planned : (buildClockAlignmentPlan ⟨.recoverTurns, 2, 100, 0, 3917250, 10000, none, none⟩).isOk = true := by
    decide +kernel
  cases found : buildClockAlignmentPlan ⟨.recoverTurns, 2, 100, 0, 3917250, 10000, none, none⟩ with
  | error message => simp [found, Except.isOk, Except.toBool] at planned
  | ok plan => exact ⟨plan, rfl, (alignment_plans_conserve found).1⟩

/-- Catching up, and shifting by complete turns, move the deadlines by less than a year of turns. -/
theorem alignment_shifts_part_of_year :
    ∃ caughtUp complete,
      buildClockAlignmentPlan ⟨.catchUp, 2, 100, 0, 3917250, 10000, some 1000000, none⟩ = .ok caughtUp ∧
        buildClockAlignmentPlan ⟨.legacyCompleteTurns, 2, 100, 0, 3917250, 10000, none, none⟩ = .ok complete ∧
        caughtUp.shiftTicks = 38172500 ∧ ¬ (12 * gameTicksPerTurn : Int) ∣ caughtUp.shiftTicks ∧
        complete.shiftTicks = 36000000 ∧ ¬ (12 * gameTicksPerTurn : Int) ∣ complete.shiftTicks := by
  refine ⟨_, _, rfl, rfl, by decide +kernel, by decide +kernel, by decide +kernel, by decide +kernel⟩

end Sammo
