import Sammo.Lib.Seams
import Sammo.Time.TurnRecoveryLaws

/-! A tick is shown from its projected deadline on, and a clock never goes back. -/

namespace Sammo

namespace TurnRecoveryWindow

variable (window : TurnRecoveryWindow) (rate : Int)

/-- The wall time at which the window ends. -/
def endWallAt : Int := window.startWallAt + ceilDiv ((window.endTick - window.startTick) * 1000) (2 * rate)

variable {window rate}

theorem startWallAt_le_endWallAt (valid : window.Valid) (positive : 0 < rate) :
    window.startWallAt ≤ window.endWallAt rate := by
  have span : 0 < window.endTick - window.startTick := valid.2.2.2.2.1
  have bounds := (ceilDiv_bounds ((window.endTick - window.startTick) * 1000) (show 0 < 2 * rate by omega)).1
  have lasts : 0 ≤ ceilDiv ((window.endTick - window.startTick) * 1000) (2 * rate) :=
    nonneg_of_mul_nonneg_left (by omega) (show 0 < 2 * rate by omega)
  unfold endWallAt
  omega

variable (window rate) in
/-- Inside the window the clock runs at double speed, and at its normal one behind it. -/
def seam (positive : 0 < rate) : Seam Int Int where
  early wall := window.startTick + (wall - window.startWallAt) * rate * 2 / 1000
  late wall := window.endTick + (wall - window.endWallAt rate) * rate / 1000
  earlyAt tick := window.startWallAt + ceilDiv ((tick - window.startTick) * 1000) (2 * rate)
  lateAt tick := window.endWallAt rate + ceilDiv ((tick - window.endTick) * 1000) rate
  joint := window.endWallAt rate
  last := window.endTick
  early_reads tick _ wall := by
    rw [← le_sub_iff_add_le', ceilDiv_le_iff (by omega), ← sub_le_iff_le_add', Int.le_ediv_iff_mul_le (by decide),
      mul_comm 2, mul_assoc]
  late_reads tick _ wall _ := by
    rw [← le_sub_iff_add_le', ceilDiv_le_iff positive, ← sub_le_iff_le_add', Int.le_ediv_iff_mul_le (by decide)]
  joint_eq := rfl
  joint_le tick behind := by
    have bounds := (ceilDiv_bounds ((tick - window.endTick) * 1000) positive).1
    have later : 0 ≤ ceilDiv ((tick - window.endTick) * 1000) rate :=
      nonneg_of_mul_nonneg_left (by omega) positive
    omega
  last_le wall joined := by
    have passed : 0 ≤ (wall - window.endWallAt rate) * rate := Int.mul_nonneg (by omega) positive.le
    omega

theorem projectRecoveryDeadline_eq {tick : Int} (positive : 0 < rate) (safe : isSafeInteger tick)
    (notBefore : window.startTick ≤ tick) :
    projectRecoveryDeadline window tick rate = .ok ((window.seam rate positive).project tick) := by
  simp only [projectRecoveryDeadline, requireSafeTick, safe, if_true, Bind.bind, Except.bind]
  rcases lt_or_ge window.endTick tick with behind | upTo
  · have offset : tick - window.startTick - (window.endTick - window.startTick) = tick - window.endTick := by omega
    rw [if_pos (by omega), Seam.project_of_lt _ behind, offset]
    rfl
  · rw [if_neg (by omega), if_neg (by omega), Seam.project_of_le _ upTo]
    rfl

theorem seam_project_startTick (valid : window.Valid) (positive : 0 < rate) :
    (window.seam rate positive).project window.startTick = window.startWallAt := by
  have span : 0 < window.endTick - window.startTick := valid.2.2.2.2.1
  have upTo : window.startTick ≤ (window.seam rate positive).last := show window.startTick ≤ window.endTick by omega
  rw [Seam.project_of_le _ upTo]
  simp [seam, ceilDiv]

theorem startTick_le_observe {wall : Int} (valid : window.Valid) (positive : 0 < rate)
    (started : window.startWallAt ≤ wall) : window.startTick ≤ (window.seam rate positive).observe wall := by
  rw [← (window.seam rate positive).gc, seam_project_startTick valid positive]
  exact started

theorem projectRecoveryDeadline_endTick (valid : window.Valid) (positive : 0 < rate) :
    projectRecoveryDeadline window window.endTick rate = .ok (window.endWallAt rate) := by
  have span : 0 < window.endTick - window.startTick := valid.2.2.2.2.1
  have upTo : window.endTick ≤ (window.seam rate positive).last := le_refl window.endTick
  rw [projectRecoveryDeadline_eq positive valid.2.1 (by omega), Seam.project_of_le _ upTo]
  rfl

theorem observeTurnRecovery_eq {wall observed : Int} (valid : window.Valid) (positive : 0 < rate)
    (looked : observeTurnRecovery window wall rate = .ok observed) :
    observed = if window.endWallAt rate ≤ wall then
        window.endTick + ((wall - window.endWallAt rate) * rate).tdiv 1000
      else min window.endTick (window.startTick +
        ((wall - window.startWallAt) * rate * (if wall < window.startWallAt then 1 else 2)).tdiv 1000) := by
  -- Every value is checked to be safe, which does not change it.
  simp only [observeTurnRecovery, projectRecoveryDeadline_endTick valid positive, Bind.bind, Except.bind] at looked
  split at looked
  · cases looked
  rename_i elapsed safe
  rw [GameClock.requireSafeTick_ok safe] at looked
  split at looked
  · rename_i past
    rw [GameClock.requireSafeTick_ok looked, if_pos past]
  · rename_i inside
    rw [GameClock.requireSafeTick_ok looked, if_neg inside]

theorem observeTurnRecovery_seam {wall observed : Int} (valid : window.Valid) (positive : 0 < rate)
    (started : window.startWallAt ≤ wall) (looked : observeTurnRecovery window wall rate = .ok observed) :
    observed = (window.seam rate positive).observe wall := by
  -- The numerators on both sides of the seam are not negative, so cutting them rounds down.
  rw [observeTurnRecovery_eq valid positive looked]
  rcases le_or_gt (window.endWallAt rate) wall with past | inside
  · have nonnegative : 0 ≤ (wall - window.endWallAt rate) * rate := Int.mul_nonneg (by omega) positive.le
    rw [if_pos past, Seam.observe_of_le _ past, Int.tdiv_eq_ediv_of_nonneg nonnegative]
    rfl
  · have nonnegative : 0 ≤ (wall - window.startWallAt) * rate * 2 :=
      Int.mul_nonneg (Int.mul_nonneg (by omega) positive.le) (by decide)
    rw [if_neg (by omega), if_neg (by omega), Seam.observe_of_lt _ inside, Int.tdiv_eq_ediv_of_nonneg nonnegative]
    rfl

end TurnRecoveryWindow

namespace GameClock

variable {clock : GameClock}

theorem observeTurnRecovery_mono {window : TurnRecoveryWindow} {rate earlier later first second : Int}
    (valid : window.Valid) (positive : 0 < rate) (ordered : earlier ≤ later)
    (looked : observeTurnRecovery window earlier rate = .ok first)
    (again : observeTurnRecovery window later rate = .ok second) : first ≤ second := by
  rcases le_or_gt window.startWallAt earlier with started | before
  · rw [TurnRecoveryWindow.observeTurnRecovery_seam valid positive started looked,
      TurnRecoveryWindow.observeTurnRecovery_seam valid positive (started.trans ordered) again]
    exact (window.seam rate positive).observe_mono ordered
  -- Before its start the window runs at normal speed, up to its first tick.
  have ends := TurnRecoveryWindow.startWallAt_le_endWallAt valid positive
  have span : 0 < window.endTick - window.startTick := valid.2.2.2.2.1
  have value := TurnRecoveryWindow.observeTurnRecovery_eq valid positive looked
  rw [if_neg (by omega), if_pos before, mul_one] at value
  rcases le_or_gt window.startWallAt later with started | still
  · have begun := TurnRecoveryWindow.startTick_le_observe valid positive started
    rw [← TurnRecoveryWindow.observeTurnRecovery_seam valid positive started again] at begun
    have nonpositive : (earlier - window.startWallAt) * rate ≤ 0 :=
      Int.mul_nonpos_of_nonpos_of_nonneg (by omega) positive.le
    have cut := tdiv_thousand_nonpos nonpositive
    omega
  · have other := TurnRecoveryWindow.observeTurnRecovery_eq valid positive again
    rw [if_neg (by omega), if_pos still, mul_one] at other
    have longer : (earlier - window.startWallAt) * rate ≤ (later - window.startWallAt) * rate :=
      Int.mul_le_mul_of_nonneg_right (by omega) positive.le
    have cut := Int.tdiv_le_tdiv (show (0 : Int) < 1000 by decide) longer
    omega

theorem ticksBetween_mono {origin earlier later first second : Int} (ordered : earlier ≤ later)
    (passed : clock.ticksBetween origin earlier = .ok first)
    (more : clock.ticksBetween origin later = .ok second) : first ≤ second := by
  rw [ticksBetween_eq passed, ticksBetween_eq more]
  exact Int.tdiv_le_tdiv (by decide) (Int.mul_le_mul_of_nonneg_right (by omega) clock.ticksPerSecond_pos.le)

/-- The clock stands at the tick it has stored. -/
def Stands (clock : GameClock) : Prop :=
  clock.mode = .manual ∨ clock.phase = .manual ∨ clock.phase = .suspended ∨ clock.phase = .reconciling ∨
    clock.phase = .completed

theorem nowTick_of_stands (stands : clock.Stands) (wall : Int) : clock.nowTick wall = .ok clock.tick :=
  if_pos stands

theorem nowTick_of_window {window : TurnRecoveryWindow} {wall tick : Int} (moves : ¬ clock.Stands)
    (running : clock.phase = .running) (recovering : clock.recovery = some window)
    (shown : clock.nowTick wall = .ok tick) :
    ∃ observed, observeTurnRecovery window wall clock.ticksPerSecond = .ok observed ∧
      tick = max clock.tick observed := by
  -- What the window shows is compared with the tick that is stored.
  unfold Stands at moves
  unfold nowTick at shown
  rw [if_neg moves] at shown
  simp only [recovering, running, decide_true, Bind.bind, Except.bind] at shown
  split at shown
  · cases shown
  · rename_i observed looked
    exact ⟨observed, looked, (Except.ok.inj shown).symm⟩

theorem nowTick_of_plain {wall tick : Int} (moves : ¬ clock.Stands)
    (plain : clock.phase = .running → clock.recovery = none) (shown : clock.nowTick wall = .ok tick) :
    ∃ elapsed, clock.ticksBetween clock.wallAnchor wall = .ok elapsed ∧
      tick = if clock.phase = .preopen then clock.tick + elapsed else max clock.tick (clock.tick + elapsed) := by
  -- Without a window, or in another phase, the same ticks are added to the stored one.
  unfold Stands at moves
  unfold nowTick at shown
  rw [if_neg moves] at shown
  have projected : (do
      let projected ← addTicks clock.tick (← clock.ticksBetween clock.wallAnchor wall)
      .ok (if clock.phase = .preopen then projected else max clock.tick projected) : Except String Int) =
      .ok tick := by
    by_cases running : clock.phase = .running
    · simpa only [plain running, running, decide_true] using shown
    · cases found : clock.recovery with
      | none => simpa only [found] using shown
      | some window => simpa only [found, running, decide_false] using shown
  simp only [Bind.bind, Except.bind] at projected
  split at projected
  · cases projected
  rename_i elapsed between
  split at projected
  · cases projected
  rename_i sum added
  rw [addTicks_ok added] at projected
  exact ⟨elapsed, between, (Except.ok.inj projected).symm⟩

theorem nowTick_mono {earlier later first second : Int} (ordered : earlier ≤ later)
    (shown : clock.nowTick earlier = .ok first) (again : clock.nowTick later = .ok second) : first ≤ second := by
  by_cases stands : clock.Stands
  · rw [nowTick_of_stands stands] at shown again
    exact ((Except.ok.inj shown).symm.trans (Except.ok.inj again)).le
  -- Which way the clock moves does not depend on the wall time.
  by_cases plain : clock.phase = .running → clock.recovery = none
  · obtain ⟨elapsed, between, value⟩ := nowTick_of_plain stands plain shown
    obtain ⟨more, longer, other⟩ := nowTick_of_plain stands plain again
    have passed := ticksBetween_mono ordered between longer
    rw [value, other]
    split
    · omega
    · omega
  · obtain ⟨running, recovering⟩ := Classical.not_imp.mp plain
    obtain ⟨window, found⟩ := Option.ne_none_iff_exists'.mp recovering
    obtain ⟨observed, looked, value⟩ := nowTick_of_window stands running found shown
    obtain ⟨more, longer, other⟩ := nowTick_of_window stands running found again
    have passed := observeTurnRecovery_mono (clock.validRecovery window found) clock.ticksPerSecond_pos ordered
      looked longer
    rw [value, other]
    exact max_le_max le_rfl passed

theorem tick_le_of_running {wall tick : Int} (running : clock.phase = .running)
    (shown : clock.nowTick wall = .ok tick) : clock.tick ≤ tick := by
  by_cases stands : clock.Stands
  · rw [nowTick_of_stands stands] at shown
    exact (Except.ok.inj shown).le
  · have realtime : clock.mode = .realtime := by
      cases mode : clock.mode with
      | realtime => rfl
      | manual => exact absurd (.inl mode) stands
    exact tick_le_nowTick realtime running shown

/-- A clock never goes back, and a running one never shows less than it has stored. -/
theorem clock_never_goes_back (clock : GameClock) :
    (∀ earlier later first second, earlier ≤ later → clock.nowTick earlier = .ok first →
        clock.nowTick later = .ok second → first ≤ second) ∧
      (clock.phase = .running → ∀ wall tick, clock.wallAnchor ≤ wall → clock.nowTick wall = .ok tick →
        clock.tick ≤ tick) :=
  ⟨fun _ _ _ _ ordered shown again => nowTick_mono ordered shown again,
    fun running _ _ _ shown => tick_le_of_running running shown⟩

/-- A clock with a window, before the window starts and when it ends. -/
theorem clock_never_goes_back_recovering :
    ∃ clock : GameClock, clock.recovery = some ⟨0, 288000000, 14400000⟩ ∧ clock.nowTick 14399000 = .ok 0 ∧
      clock.nowTick 28800000 = .ok 288000000 ∧ (0 : Int) ≤ 288000000 ∧ clock.tick ≤ 288000000 := by
  -- The clock of hourly turns is given the window of eight lost turns.
  let hourly := clockRunningAt 0 3600 (by decide) (by decide) (by decide)
  let clock : GameClock := { hourly with
    recovery := some ⟨0, 288000000, 14400000⟩
    validRecovery := fun window given => Option.some.inj given ▸ by decide }
  have before : clock.nowTick 14399000 = .ok 0 := by decide +kernel
  have ended : clock.nowTick 28800000 = .ok 288000000 := by decide +kernel
  exact ⟨clock, rfl, before, ended, (clock_never_goes_back clock).1 _ _ _ _ (by decide) before ended,
    (clock_never_goes_back clock).2 rfl 28800000 _ (by decide) ended⟩

end GameClock

end Sammo
