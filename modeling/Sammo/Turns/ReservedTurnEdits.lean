import Sammo.Turns.ReservedTurnLaws

/-! What shifting and repeating make of a queue of reserved turns. -/

namespace Sammo

variable {turns : List ReservedTurnEntry}

theorem applyShift_eq_store_iff (turns : List ReservedTurnEntry) (amount : Int) :
    applyShift turns amount = storeApplyShift turns amount ↔ amount ≤ turns.length := by
  constructor
  · intro same
    -- The daemon's queue keeps its length, and the API's is at least as long as the shift.
    have length := congrArg List.length same
    rw [storeApplyShift_length] at length
    by_contra beyond
    rw [applyShift, if_neg (by omega), if_pos (by omega), List.length_append] at length
    simp only [buildDefaultTurns, List.length_replicate] at length
    omega
  · intro within
    unfold applyShift storeApplyShift
    split
    · rfl
    · split
      · -- A shift back by no more than the queue is its own cut.
        have cut : min turns.length amount.natAbs = amount.toNat := by omega
        simp only [cut]
      · rfl

theorem getElem?_foldl_set (targets : List Nat) (source : ReservedTurnEntry) (turns : List ReservedTurnEntry)
    (index : Nat) : (targets.foldl (fun repeated target => repeated.set target source) turns)[index]? =
      if index ∈ targets ∧ index < turns.length then some source else turns[index]? := by
  induction targets generalizing turns with
  | nil => simp
  | cons target rest ih =>
    rw [List.foldl_cons, ih, List.length_set, List.getElem?_set]
    by_cases here : target = index
    · subst here
      by_cases inside : target < turns.length
      · simp [inside]
      · simp [inside]
    · have other : index ≠ target := Ne.symm here
      simp [here, other]

theorem mem_repeatTargets {length sourceIndex step index : Nat} (leading : sourceIndex < step)
    (inside : sourceIndex < length) :
    index ∈ repeatTargets length sourceIndex step ↔ index < length ∧ step ≤ index ∧ index % step = sourceIndex := by
  have positive : 0 < step := by omega
  simp only [repeatTargets, List.mem_map, List.mem_range]
  constructor
  · rintro ⟨count, below, rfl⟩
    have bound : (count + 1) * step ≤ length - 1 - sourceIndex := (Nat.le_div_iff_mul_le positive).mp below
    have least : step ≤ (count + 1) * step := Nat.le_mul_of_pos_left step (Nat.succ_pos count)
    refine ⟨by omega, by omega, ?_⟩
    rw [Nat.add_mul_mod_self_right, Nat.mod_eq_of_lt leading]
  · rintro ⟨below, behind, rfl⟩
    -- The steps between the two are the quotient.
    have split := Nat.div_add_mod index step
    have quotient : 0 < index / step := Nat.div_pos behind positive
    have steps : index / step - 1 + 1 = index / step := by omega
    refine ⟨index / step - 1, ?_, ?_⟩
    · rw [Nat.lt_iff_add_one_le, steps, Nat.le_div_iff_mul_le positive, Nat.mul_comm]
      omega
    · rw [steps, Nat.mul_comm]
      omega

theorem getElem?_repeated {step : Nat} (sourceCount index : Nat) (leading : sourceCount ≤ step)
    (inside : sourceCount ≤ turns.length) (below : index < turns.length) :
    ((List.range sourceCount).foldl (fun repeated sourceIndex =>
        (repeatTargets turns.length sourceIndex step).foldl
          (fun repeated targetIndex => repeated.set targetIndex (turns.getD sourceIndex createDefaultEntry)) repeated)
      turns)[index]? =
      if step ≤ index ∧ index % step < sourceCount then turns[index % step]? else turns[index]? := by
  -- The induction is on the number of leading turns that have been written.
  induction sourceCount with
  | zero => simp
  | succ sourceIndex ih =>
    rw [List.range_succ, List.foldl_append, List.foldl_cons, List.foldl_nil, getElem?_foldl_set,
      ih (by omega) (by omega)]
    simp only [mem_repeatTargets leading (Nat.lt_of_succ_le inside)]
    have kept : ((List.range sourceIndex).foldl (fun repeated sourceIndex =>
        (repeatTargets turns.length sourceIndex step).foldl
          (fun repeated targetIndex => repeated.set targetIndex (turns.getD sourceIndex createDefaultEntry)) repeated)
        turns).length = turns.length :=
      foldl_length _ (fun _ _ => foldl_length _ (fun _ _ => List.length_set) _ _) _ _
    rw [kept]
    by_cases own : step ≤ index ∧ index % step = sourceIndex
    · have source : turns[sourceIndex]? = some (turns.getD sourceIndex createDefaultEntry) := by
        rw [List.getD_eq_getElem?_getD, List.getElem?_eq_getElem (by omega), Option.getD_some]
      rw [if_pos ⟨⟨below, own⟩, below⟩, if_pos ⟨own.1, by omega⟩, own.2, source]
    · rw [if_neg fun written => own written.1.2]
      by_cases earlier : step ≤ index ∧ index % step < sourceIndex
      · rw [if_pos earlier, if_pos ⟨earlier.1, by omega⟩]
      · rw [if_neg earlier, if_neg fun now => earlier ⟨now.1, by
          have different : index % step ≠ sourceIndex := fun same => own ⟨now.1, same⟩
          omega⟩]

theorem applyRepeat_getElem? {step index : Nat} (positive : 1 ≤ step) (within : step ≤ turns.length)
    (below : index < turns.length) : (applyRepeat turns step)[index]? = turns[index % step]? := by
  unfold applyRepeat
  by_cases whole : step = turns.length
  · -- The whole queue repeats itself once.
    rw [if_pos (by omega), whole, Nat.mod_eq_of_lt below]
  · rw [if_neg (by omega)]
    simp only [Int.toNat_natCast]
    rw [getElem?_repeated _ index (by split <;> omega) (by split <;> omega) below]
    by_cases behind : step ≤ index
    · -- Beyond half the queue one round is left, and it is cut short with the queue.
      have written : index % step < if turns.length < step * 2 then turns.length - step else step := by
        split
        · have once : index % step = index - step := by
            rw [Nat.mod_eq_sub_mod behind, Nat.mod_eq_of_lt (by omega)]
          omega
        · exact Nat.mod_lt index (by omega)
      rw [if_pos ⟨behind, written⟩]
    · rw [if_neg fun both => behind both.1, Nat.mod_eq_of_lt (by omega)]

/-- How the shifts of the API and the daemon, and the API's repeat, edit a queue. -/
structure EditsQueue (turns : List ReservedTurnEntry) : Prop where
  /-- A shift that reaches back no further than the queue is the same in both, and keeps its length. -/
  shift : ∀ amount : Int, amount ≤ turns.length → applyShift turns amount = storeApplyShift turns amount ∧
    (applyShift turns amount).length = turns.length
  /-- A repeat puts at each position the turn at its remainder. -/
  repeats : ∀ amount : Nat, 1 ≤ amount → amount ≤ turns.length →
    (applyRepeat turns amount).length = turns.length ∧
      ∀ index < turns.length, (applyRepeat turns amount)[index]? = turns[index % amount]?

/-- The API and the daemon shift every queue alike, up to its own length, and a repeat is periodic. -/
theorem reserved_turn_edits (turns : List ReservedTurnEntry) : EditsQueue turns where
  shift amount within := by
    have same := (applyShift_eq_store_iff turns amount).mpr within
    exact ⟨same, by rw [same, storeApplyShift_length]⟩
  repeats amount positive within :=
    ⟨applyRepeat_length turns amount, fun _ below => applyRepeat_getElem? positive within below⟩

/-- Further back than the queue is long, the API's queue grows and the daemon's does not. -/
theorem reserved_turn_shift_beyond :
    ¬ ∀ (turns : List ReservedTurnEntry) (amount : Int), turns.length = maxGeneralTurns →
      applyShift turns amount = storeApplyShift turns amount ∧ (applyShift turns amount).length = turns.length := by
  intro alike
  have length := (alike (buildDefaultTurns maxGeneralTurns) 31 (List.length_replicate ..)).2
  rw [applyShift, if_neg (by decide), if_pos (by decide), List.length_append] at length
  simp [buildDefaultTurns, maxGeneralTurns] at length

end Sammo
