import Sammo.Gateway.AttemptBudget

/-! The budget counts the calls that are under way and the checks that have not settled. -/

namespace Sammo.AttemptBudget

variable {budget : AuthAttemptBudget} {index : ℕ} {call : Call}

/-- The budget counts its calls, and few of them are under way. -/
structure Counts (budget : AuthAttemptBudget) : Prop where
  active : budget.active = budget.calls.countP underWay
  few : budget.active ≤ 4
  pending : budget.pendingChecks = budget.calls.countP Call.checkPending

theorem countP_set_found {calls : List Call} (test : Call → Bool) (new : Call) (found : calls[index]? = some call) :
    (calls.set index new).countP test + (test call).toNat = calls.countP test + (test new).toNat := by
  induction calls generalizing index with
  | nil => simp at found
  | cons first rest ih =>
    cases index with
    | zero =>
      obtain rfl : first = call := by simpa using found
      rw [List.set_cons_zero, List.countP_cons, List.countP_cons]
      cases test new <;> cases test first <;> simp
    | succ index =>
      have there : rest[index]? = some call := by simpa using found
      have rest_ := ih there
      rw [List.set_cons_succ, List.countP_cons, List.countP_cons]
      omega

theorem Counts.set (counts : Counts budget) (found : budget.calls[index]? = some call) (new : Call)
    {active pendingChecks : Int}
    (follows : active = budget.active - (underWay call).toNat + (underWay new).toNat) (few : active ≤ 4)
    (pends : pendingChecks = budget.pendingChecks - call.checkPending.toNat + new.checkPending.toNat) :
    Counts ⟨active, pendingChecks, budget.calls.set index new⟩ := by
  have first := countP_set_found underWay new found
  have second := countP_set_found Call.checkPending new found
  have before := counts.active
  have pended := counts.pending
  exact ⟨by dsimp only; omega, few, by dsimp only; omega⟩

theorem Counts.finish (counts : Counts budget) (found : budget.calls[index]? = some call)
    (still : call.stage ≠ .returned) : Counts (finish budget index call) := by
  have few := counts.few
  refine counts.set found _ ?_ ?_ (by simp)
  · cases expensive : call.expensive <;> simp [underWay, expensive, still]
  · split <;> omega

theorem underWay_raceEnds (call : Call) (retryMs : Option Int) :
    underWay (raceEnds call retryMs) = underWay call := by
  unfold raceEnds
  split
  · rename_i checking
    simp [underWay, checking]
  · rfl

theorem checkPending_raceEnds (call : Call) (retryMs : Option Int) :
    (raceEnds call retryMs).checkPending = call.checkPending := by
  unfold raceEnds
  split <;> rfl

theorem Counts.afterRace (counts : Counts budget) (found : budget.calls[index]? = some call) {retryMs : Option Int}
    (over_ : call.stage = .raced retryMs) : Counts (afterRace budget index call retryMs).1 := by
  have still : call.stage ≠ .returned := by simp [over_]
  unfold AttemptBudget.afterRace
  cases retryMs with
  | none => exact counts.finish found still
  | some retryMs =>
    dsimp only
    split
    · exact counts.finish found still
    · exact counts.set found _ (by simp [underWay, over_]) counts.few (by simp)

theorem Counts.step (counts : Counts budget) {event : BudgetEvent} {next : AuthAttemptBudget} {reply : Reply}
    (stepped : attempts.step budget event = some (next, reply)) : Counts next := by
  unfold attempts at stepped
  dsimp only at stepped
  cases event with
  | run action available =>
    dsimp only at stepped
    split at stepped
    · cases stepped
      exact counts
    · split at stepped
      · cases stepped
        exact counts
      · -- A call that is admitted is under way, and its check has not settled.
        rename_i room
        obtain ⟨rfl, -⟩ := Prod.mk.inj (Option.some.inj stepped)
        have active := counts.active
        have few := counts.few
        have pending := counts.pending
        refine ⟨?_, ?_, ?_⟩
        · by_cases expensive : action ∈ expensiveActions <;> simp [underWay, expensive, active]
        · dsimp only
          split
          · rename_i expensive
            simp only [expensive, true_and] at room
            omega
          · exact few
        · simp [pending]
  | checkSettles index retryMs =>
    dsimp only at stepped
    obtain ⟨call, met, pair⟩ := Option.map_eq_some_iff.mp stepped
    obtain ⟨found, pending⟩ := Option.filter_eq_some_iff.mp met
    cases pair
    refine counts.set found _ ?_ counts.few ?_
    · rw [underWay_raceEnds]
      simp [underWay]
    · rw [checkPending_raceEnds, pending]
      simp
  | timeout index =>
    dsimp only at stepped
    obtain ⟨call, met, pair⟩ := Option.map_eq_some_iff.mp stepped
    obtain ⟨found, -⟩ := Option.filter_eq_some_iff.mp met
    cases pair
    refine counts.set found _ ?_ counts.few ?_
    · rw [underWay_raceEnds]
      omega
    · rw [checkPending_raceEnds]
      omega
  | resume index =>
    dsimp only at stepped
    obtain ⟨call, found, goes⟩ := Option.bind_eq_some_iff.mp stepped
    unfold resume at goes
    split at goes
    · rename_i retryMs over_
      have kept := counts.afterRace found over_
      rw [Option.some.inj goes] at kept
      exact kept
    · cases goes
  | workSettles index =>
    dsimp only at stepped
    obtain ⟨call, met, pair⟩ := Option.map_eq_some_iff.mp stepped
    obtain ⟨found, working⟩ := Option.filter_eq_some_iff.mp met
    cases pair
    refine counts.finish found fun returned => ?_
    rw [returned] at working
    cases of_decide_eq_true working

theorem counts_of_run {trace : List (BudgetEvent × Reply)}
    (run : attempts.Run .opening trace budget) : Counts budget :=
  run.stateInvariant ⟨rfl, by decide, rfl⟩ fun _ _ _ _ counts _ stepped => counts.step stepped

end Sammo.AttemptBudget
