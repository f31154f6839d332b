import Mathlib.Algebra.BigOperators.Ring.Finset
import Mathlib.Algebra.Order.Field.Rat
import Mathlib.Data.Rat.Floor
import Mathlib.Tactic.Linarith
import Mathlib.Tactic.Ring

/-! Shares of an amount in proportion to weights, each rounded to a whole unit. -/

namespace Sammo.ProRata

/-- The share of a weight at a rate, rounded to the nearest unit, half a unit upwards. -/
def share (rate weight : ℚ) : Int := ⌊weight * rate + 1 / 2⌋

theorem share_near (rate weight : ℚ) : |(share rate weight : ℚ) - weight * rate| ≤ 1 / 2 := by
  have below : (share rate weight : ℚ) ≤ weight * rate + 1 / 2 := Int.floor_le _
  have above : weight * rate + 1 / 2 < share rate weight + 1 := Int.lt_floor_add_one _
  rw [abs_le]
  constructor <;> linarith

theorem share_mono {rate weight larger : ℚ} (rateNonneg : 0 ≤ rate) (heavier : weight ≤ larger) :
    share rate weight ≤ share rate larger := by
  have exact_ : weight * rate ≤ larger * rate := mul_le_mul_of_nonneg_right heavier rateNonneg
  exact Int.floor_le_floor (by linarith)

theorem share_le_share {rate weight otherRate otherWeight : ℚ} (smaller : weight * rate ≤ otherWeight * otherRate) :
    share rate weight ≤ share otherRate otherWeight :=
  Int.floor_le_floor (by linarith)

theorem le_share {rate : ℚ} (weight : Int) (weightNonneg : 0 ≤ weight) (enough : 1 ≤ rate) :
    weight ≤ share rate weight := by
  have nonneg : (0 : ℚ) ≤ weight := by exact_mod_cast weightNonneg
  have exact_ : (weight : ℚ) * 1 ≤ weight * rate := mul_le_mul_of_nonneg_left enough nonneg
  rw [share, Int.le_floor]
  linarith

theorem sum_share_near {α : Type} (rate : ℚ) (weight : α → ℚ) (items : List α) :
    |((items.map fun item => share rate (weight item)).sum : ℚ) - (items.map weight).sum * rate| ≤
      (items.length : ℚ) / 2 := by
  induction items with
  | nil => simp
  | cons item items ih =>
    have first := share_near rate (weight item)
    rw [abs_le] at first ih ⊢
    simp only [List.map_cons, List.sum_cons, List.length_cons, Int.cast_add, Nat.cast_add, Nat.cast_one]
    rw [add_mul]
    constructor <;> linarith [first.1, first.2, ih.1, ih.2]

end Sammo.ProRata
