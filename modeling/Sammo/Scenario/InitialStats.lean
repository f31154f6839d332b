import Mathlib.Algebra.BigOperators.Group.List.Basic
import Mathlib.Algebra.Order.BigOperators.Group.List
import Mathlib.Tactic.FieldSimp
import Mathlib.Tactic.Linarith
import Mathlib.Tactic.Ring
import Sammo.Scenario.CentennialAllStar

/-! The abilities that a player starts with are an apportionment of the budget, by largest remainders. -/

namespace Sammo.CentennialAllStar

/-! ### The hand-out -/

section HandOut

variable {targets : StatKey → Int}

theorem handOut_of_notMem {keys : List StatKey} {key : StatKey} (absent : key ∉ keys) (remainder : Int)
    (result : StatKey → Int) : handOut targets keys remainder result key = result key := by
  induction keys generalizing remainder result with
  | nil => rfl
  | cons head rest ih =>
    obtain ⟨other, absent⟩ := List.ne_and_not_mem_of_not_mem_cons absent
    rw [handOut]
    -- Only the head of the line can have been raised, and it is another ability.
    split_ifs
    · rfl
    · exact ih absent _ _
    · rw [ih absent, Function.update_of_ne other]

theorem handOut_bounds {keys : List StatKey} (unique : keys.Nodup) (remainder : Int) (result : StatKey → Int)
    (key : StatKey) :
    result key ≤ handOut targets keys remainder result key ∧
      handOut targets keys remainder result key ≤ max (result key) (min (result key + 1) (targets key)) := by
  induction keys generalizing remainder result with
  | nil => exact ⟨le_rfl, le_max_left _ _⟩
  | cons head rest ih =>
    obtain ⟨absent, unique⟩ := List.nodup_cons.mp unique
    rw [handOut]
    split_ifs with spent full
    · exact ⟨le_rfl, le_max_left _ _⟩
    · exact ih unique _ _
    · by_cases same : key = head
      · -- The head is raised here and does not come again.
        subst same
        rw [handOut_of_notMem absent, Function.update_self]
        omega
      · have step := ih unique (remainder - 1) (Function.update result head (result head + 1))
        rwa [Function.update_of_ne same] at step

/-- The abilities in line that are below their targets. -/
def unfilled (targets result : StatKey → Int) (keys : List StatKey) : List StatKey :=
  keys.filter fun key => result key < targets key

theorem sum_handOut {keys : List StatKey} (unique : keys.Nodup) (remainder : Int) (result : StatKey → Int)
    (natural : 0 ≤ remainder) (room : remainder ≤ (unfilled targets result keys).length) :
    (keys.map (handOut targets keys remainder result)).sum = (keys.map result).sum + remainder := by
  induction keys generalizing remainder result with
  | nil =>
    simp only [unfilled, List.filter_nil, List.length_nil, Nat.cast_zero] at room
    simp [le_antisymm room natural]
  | cons head rest ih =>
    obtain ⟨absent, unique⟩ := List.nodup_cons.mp unique
    rw [handOut, List.map_cons, List.map_cons, List.sum_cons, List.sum_cons]
    split_ifs with spent full
    · omega
    · -- A full ability is passed over, and it was not among those counted.
      have room : remainder ≤ (unfilled targets result rest).length := by
        simpa [unfilled, List.filter_cons, not_lt.mpr full] using room
      rw [handOut_of_notMem absent, ih unique _ _ natural room, add_assoc]
    · -- A raised ability takes one of what is left, and it was one of those counted.
      have kept : ∀ key ∈ rest, Function.update result head (result head + 1) key = result key :=
        fun key member => Function.update_of_ne (ne_of_mem_of_not_mem member absent) _ _
      have same : unfilled targets (Function.update result head (result head + 1)) rest =
          unfilled targets result rest :=
        List.filter_congr fun key member => by rw [kept key member]
      have room : remainder - 1 ≤ (unfilled targets result rest).length := by
        simp only [unfilled, List.filter_cons, not_le.mp full, decide_true, if_true, List.length_cons,
          Nat.cast_add, Nat.cast_one] at room ⊢
        omega
      rw [handOut_of_notMem absent, Function.update_self, ih unique _ _ (by omega) (same ▸ room),
        List.map_congr_left kept]
      omega

end HandOut

/-! ### The shares -/

/-- The ability of a target as far as a player may start with it. -/
def cappedStat (target : Target) (rules : Rules) (key : StatKey) : Int :=
  min (target.stat key) rules.defaultStatMax

/-- The ability of a target that a player starts with whatever the budget is. -/
def baseStat (target : Target) (rules : Rules) (key : StatKey) : Int :=
  min (target.stat key) rules.defaultStatMin

/-- The sum of the abilities. -/
def total (stats : StatKey → Int) : Int :=
  (statKeys.map stats).sum

/-- What a player's abilities come to. -/
def desiredTotal (target : Target) (rules : Rules) : Int :=
  min rules.defaultStatTotal (total (cappedStat target rules))

/-- The part of what goes beyond the bases that the budget pays for. -/
def paidRatio (target : Target) (rules : Rules) : ℚ :=
  (max 0 (desiredTotal target rules - total (baseStat target rules)) : Int) /
    (total (cappedStat target rules) - total (baseStat target rules) : Int)

/-- The exact share of an ability: its base, and in proportion what goes beyond it. -/
def proportionalShare (target : Target) (rules : Rules) (key : StatKey) : ℚ :=
  baseStat target rules key + (cappedStat target rules key - baseStat target rules key : Int) * paidRatio target rules

section Shares

variable {target : Target} {rules : Rules}

theorem total_mono {left right : StatKey → Int} (below : ∀ key, left key ≤ right key) : total left ≤ total right :=
  List.sum_le_sum fun key _ => below key

theorem baseStat_le (ordered : rules.defaultStatMin ≤ rules.defaultStatMax) (key : StatKey) :
    baseStat target rules key ≤ cappedStat target rules key := by
  simp only [baseStat, cappedStat]
  omega

theorem sum_proportionalShare (beyond : total (baseStat target rules) < desiredTotal target rules) :
    (statKeys.map (proportionalShare target rules)).sum = desiredTotal target rules := by
  have most : desiredTotal target rules ≤ total (cappedStat target rules) := min_le_right _ _
  have capacity : ((total (cappedStat target rules) : ℚ) - total (baseStat target rules)) ≠ 0 := by
    have : (total (baseStat target rules) : ℚ) < total (cappedStat target rules) := by
      exact_mod_cast beyond.trans_le most
    linarith
  have paid : paidRatio target rules * (total (cappedStat target rules) - total (baseStat target rules)) =
      desiredTotal target rules - total (baseStat target rules) := by
    rw [paidRatio, max_eq_right (by omega)]
    push_cast
    exact div_mul_cancel₀ _ capacity
  simp only [total, statKeys, List.map_cons, List.map_nil, List.sum_cons, List.sum_nil, add_zero] at paid ⊢
  push_cast at paid
  simp only [proportionalShare]
  push_cast
  linarith

theorem proportionalShare_bounds (target : Target) (ordered : rules.defaultStatMin ≤ rules.defaultStatMax)
    (key : StatKey) :
    baseStat target rules key ≤ proportionalShare target rules key ∧
      proportionalShare target rules key ≤ cappedStat target rules key := by
  have room : (0 : ℚ) ≤ (cappedStat target rules key - baseStat target rules key : Int) := by
    exact_mod_cast sub_nonneg.mpr (baseStat_le ordered key)
  have capacity : (0 : ℚ) ≤ (total (cappedStat target rules) - total (baseStat target rules) : Int) := by
    exact_mod_cast sub_nonneg.mpr (total_mono (baseStat_le ordered))
  have paid : (0 : ℚ) ≤ paidRatio target rules := div_nonneg (by exact_mod_cast le_max_left _ _) capacity
  -- No more is paid for than there is, since what is desired is not above the capped abilities.
  have most : paidRatio target rules ≤ 1 := by
    refine div_le_one_of_le₀ (Int.cast_le.mpr (max_le ?_ ?_)) capacity
    · exact sub_nonneg.mpr (total_mono (baseStat_le ordered))
    · exact sub_le_sub_right (min_le_right _ _) _
  have given := mul_le_of_le_one_right room most
  push_cast at given room
  constructor <;> simp only [proportionalShare] <;> push_cast
  · linarith [mul_nonneg room paid]
  · linarith

/-- The abilities rounded down. -/
def roundedDown (target : Target) (rules : Rules) (key : StatKey) : Int :=
  ⌊proportionalShare target rules key⌋

theorem sum_fract_le (share : StatKey → ℚ) (keys : List StatKey) :
    (keys.map fun key => Int.fract (share key)).sum ≤ (keys.filter fun key => 0 < Int.fract (share key)).length := by
  induction keys with
  | nil => simp
  | cons key rest ih =>
    rw [List.map_cons, List.sum_cons, List.filter_cons]
    split_ifs with positive
    · -- A fraction that is not zero is less than the one that it counts for.
      rw [List.length_cons, Nat.cast_add, Nat.cast_one]
      linarith [(Int.fract_lt_one (share key)).le]
    · have zero : Int.fract (share key) = 0 :=
        le_antisymm (not_lt.mp (by simpa using positive)) (Int.fract_nonneg _)
      rwa [zero, zero_add]

theorem remainder_eq (beyond : total (baseStat target rules) < desiredTotal target rules) :
    ((desiredTotal target rules - total (roundedDown target rules) : Int) : ℚ) =
      (statKeys.map fun key => Int.fract (proportionalShare target rules key)).sum := by
  have sum := sum_proportionalShare beyond
  simp only [total, roundedDown, statKeys, List.map_cons, List.map_nil, List.sum_cons, List.sum_nil, add_zero,
    Int.fract] at sum ⊢
  push_cast
  linarith

theorem remainder_bounds (ordered : rules.defaultStatMin ≤ rules.defaultStatMax)
    (beyond : total (baseStat target rules) < desiredTotal target rules) :
    0 ≤ desiredTotal target rules - total (roundedDown target rules) ∧
      desiredTotal target rules - total (roundedDown target rules) ≤
        (unfilled (cappedStat target rules) (roundedDown target rules) statKeys).length := by
  have left := remainder_eq beyond
  constructor
  · have : (0 : ℚ) ≤ (desiredTotal target rules - total (roundedDown target rules) : Int) := by
      rw [left]
      exact List.sum_nonneg (by simp [Int.fract_nonneg])
    exact_mod_cast this
  · -- A share with a fraction is above its rounding and not above the target.
    have below : ∀ key, 0 < Int.fract (proportionalShare target rules key) →
        roundedDown target rules key < cappedStat target rules key := by
      intro key positive
      have bound := (proportionalShare_bounds target ordered key).2
      have : (roundedDown target rules key : ℚ) < cappedStat target rules key := by
        rw [Int.fract] at positive
        exact (sub_pos.mp positive).trans_le bound
      exact_mod_cast this
    have counted : (statKeys.filter fun key => 0 < Int.fract (proportionalShare target rules key)).length ≤
        (unfilled (cappedStat target rules) (roundedDown target rules) statKeys).length :=
      (List.monotone_filter_right statKeys fun key positive => by
        simpa using below key (by simpa using positive)).length_le
    have fractions := sum_fract_le (proportionalShare target rules) statKeys
    rw [← left] at fractions
    refine le_trans ?_ (Nat.cast_le.mpr counted)
    exact_mod_cast fractions

end Shares

/-! ### The starting abilities -/

section Start

variable {target : Target} {rules : Rules} (natural : ∀ key, 0 ≤ target.stat key)
  (ordered : rules.defaultStatMin ≤ rules.defaultStatMax)

include natural ordered

theorem initialStats_eq :
    ∃ line, line.Perm statKeys ∧ calculateCentennialUserInitialStats target rules =
      if desiredTotal target rules ≤ total (baseStat target rules) then baseStat target rules
      else handOut (cappedStat target rules) line (desiredTotal target rules - total (roundedDown target rules))
        (roundedDown target rules) := by
  obtain ⟨stats, unfolded⟩ : ∃ stats, stats = calculateCentennialUserInitialStats target rules := ⟨_, rfl⟩
  rw [← unfolded]
  unfold calculateCentennialUserInitialStats at unfolded
  extract_lets targets bases targetTotal desired baseTotal capacityTotal ratio raw result fractions at unfolded
  have caps : targets = cappedStat target rules := by
    funext key
    simp only [targets, cappedStat, max_eq_right (natural key), min_comm]
  have floors : bases = baseStat target rules := by
    funext key
    simp only [bases, caps, cappedStat, baseStat]
    omega
  have whole : targetTotal = total (cappedStat target rules) := by rw [← caps]; rfl
  have least : baseTotal = total (baseStat target rules) := by rw [← floors]; rfl
  have wanted : desired = desiredTotal target rules := by rw [desiredTotal, ← whole]
  have most : desired ≤ targetTotal := min_le_right _ _
  rw [← wanted, ← least, ← floors, ← caps]
  by_cases within : desired ≤ baseTotal
  · exact ⟨statKeys, .refl _, by rw [unfolded, if_pos (Or.inr within), if_pos within]⟩
  · -- Beyond the bases there is room between them and the capped abilities, so the ratio is the one paid for.
    rw [if_neg (by omega)] at unfolded
    have shares : raw = proportionalShare target rules := by
      funext key
      rw [proportionalShare, paidRatio, ← wanted, ← least, ← whole, ← floors, ← caps, max_eq_right (by omega)]
    have rounded : result = roundedDown target rules := by
      funext key
      simp only [result, shares, roundedDown]
    exact ⟨fractions, List.perm_insertionSort _ _, by rw [unfolded, if_neg within, ← rounded]; rfl⟩

/-- The starting abilities are an apportionment of the budget between the bases and the capped abilities. -/
theorem userInitialStats_apportion :
    (∀ key, min (target.stat key) rules.defaultStatMin ≤ calculateCentennialUserInitialStats target rules key ∧
      calculateCentennialUserInitialStats target rules key ≤ min (target.stat key) rules.defaultStatMax) ∧
    (total (baseStat target rules) < desiredTotal target rules →
      total (calculateCentennialUserInitialStats target rules) = desiredTotal target rules) ∧
    ∀ key, |(calculateCentennialUserInitialStats target rules key : ℚ) - proportionalShare target rules key| ≤ 1 := by
  obtain ⟨line, perm, stats⟩ := initialStats_eq natural ordered
  rw [stats]
  by_cases within : desiredTotal target rules ≤ total (baseStat target rules)
  · rw [if_pos within]
    refine ⟨fun key => ⟨le_rfl, baseStat_le ordered key⟩, fun beyond => absurd within (not_le.mpr beyond), ?_⟩
    -- Nothing beyond the bases is paid for, so that the shares are the bases.
    intro key
    have nothing : paidRatio target rules = 0 := by
      rw [paidRatio, max_eq_left (by omega), Int.cast_zero, zero_div]
    rw [proportionalShare, nothing, mul_zero, add_zero, sub_self, abs_zero]
    exact zero_le_one
  · rw [if_neg within]
    have beyond := not_le.mp within
    have unique : line.Nodup := perm.nodup_iff.mpr (by decide)
    obtain ⟨enough, room⟩ := remainder_bounds ordered beyond
    have share := proportionalShare_bounds target ordered
    refine ⟨fun key => ?_, fun _ => ?_, fun key => ?_⟩
    · obtain ⟨low, high⟩ := @handOut_bounds (cappedStat target rules) line unique
        (desiredTotal target rules - total (roundedDown target rules)) (roundedDown target rules) key
      have least : baseStat target rules key ≤ roundedDown target rules key := Int.le_floor.mpr (share key).1
      have most : roundedDown target rules key ≤ cappedStat target rules key := by
        exact_mod_cast (Int.floor_le _).trans (share key).2
      exact ⟨least.trans low, high.trans (max_le most (min_le_right _ _))⟩
    · -- The line is the abilities in another order, so sums and counts over it are the same.
      have count : (unfilled (cappedStat target rules) (roundedDown target rules) line).length =
          (unfilled (cappedStat target rules) (roundedDown target rules) statKeys).length :=
        (perm.filter _).length_eq
      have given := sum_handOut unique _ (roundedDown target rules) enough (count ▸ room)
      rw [(perm.map _).sum_eq, (perm.map _).sum_eq] at given
      rw [total, given, total]
      omega
    · obtain ⟨low, high⟩ := @handOut_bounds (cappedStat target rules) line unique
        (desiredTotal target rules - total (roundedDown target rules)) (roundedDown target rules) key
      have raised : _ ≤ roundedDown target rules key + 1 :=
        high.trans (max_le (by omega) (min_le_left _ _))
      have above : proportionalShare target rules key < roundedDown target rules key + 1 := Int.lt_floor_add_one _
      have below : (roundedDown target rules key : ℚ) ≤ proportionalShare target rules key := Int.floor_le _
      have low := Int.cast_le (R := ℚ) |>.mpr low
      have raised := Int.cast_le (R := ℚ) |>.mpr raised
      push_cast at raised
      exact abs_sub_le_iff.mpr ⟨by linarith, by linarith⟩

end Start

/-- A budget that is short of the figure is spent to the last point. -/
theorem userInitialStats_apportion_short :
    let stat (key : StatKey) : Int := if key = .leadership then 80 else if key = .strength then 70 else 50
    let target : Target := ⟨"A1000001", stat, 0, none⟩
    let rules : Rules := ⟨15, 80, 165, 255, none, none⟩
    total (calculateCentennialUserInitialStats target rules) = 165 :=
  (userInitialStats_apportion (by rintro (_ | _ | _) <;> decide) (by decide)).2.1 (by decide)

end Sammo.CentennialAllStar
