import Sammo.Turns.Income

/-! A settlement keeps the reserve, and hands out what the treasury loses. -/

namespace Sammo.Economy

variable {current income outcome baseResource originOutcome : ℚ}

/-! ### The nominal salaries -/

theorem nominalSalaries_eq (generals : List (Int × General)) :
    nominalSalaries generals = ((generals.map fun entry => getBill entry.2.dedication).sum : Nat) := by
  have whole (sum : Nat) : mathRound (sum * (100 / 100)) = sum := by
    rw [mathRound, Int.floor_eq_iff]
    push_cast
    constructor <;> linarith
  rw [nominalSalaries, getOutcome, List.map_map, whole]
  rfl

theorem nominalSalaries_pos {generals : List (Int × General)} (some_ : generals ≠ []) : 0 < nominalSalaries generals := by
  rw [nominalSalaries_eq]
  cases generals with
  | nil => exact absurd rfl some_
  | cons entry rest =>
    simp only [List.map_cons, List.sum_cons, getBill, getBillByLevel]
    omega

/-! ### The treasury -/

/-- The treasury keeps its reserve, loses what is paid as far as it has it, and pays no more than is billed. -/
structure Settled (current income outcome baseResource : ℚ) (applied : IncomeOutcome) : Prop where
  reserve : baseResource ≤ applied.next
  debit : baseResource ≤ current + income → applied.next = current + income - applied.realOutcome
  nothing : current + income < baseResource → applied.realOutcome = 0
  withinBill : 0 ≤ outcome → applied.realOutcome ≤ outcome

theorem applyIncomeOutcome_settled (current income outcome baseResource originOutcome : ℚ) :
    Settled current income outcome baseResource (applyIncomeOutcome current income outcome baseResource originOutcome) := by
  unfold applyIncomeOutcome
  dsimp only
  split
  · -- The reserve is not reached.
    rename_i below
    refine ⟨le_max_right _ _, fun reached => absurd reached (not_le.mpr below), fun _ => rfl, fun nonneg => nonneg⟩
  · rename_i reached
    rw [not_lt] at reached
    split
    · -- All that is above the reserve is paid.
      rename_i short
      refine ⟨le_max_right _ _, fun _ => ?_, fun below => absurd reached (not_le.mpr below), fun _ => short.le⟩
      simp
    · -- The bill is paid in full.
      rename_i enough
      rw [not_lt] at enough
      refine ⟨le_max_right _ _, fun _ => ?_, fun below => absurd reached (not_le.mpr below), fun _ => le_rfl⟩
      exact max_eq_left (by linarith)

theorem applyIncomeOutcome_ratio (pos : 0 < originOutcome) :
    originOutcome * (applyIncomeOutcome current income outcome baseResource originOutcome).ratio =
      (applyIncomeOutcome current income outcome baseResource originOutcome).realOutcome := by
  have share : (applyIncomeOutcome current income outcome baseResource originOutcome).ratio =
      (applyIncomeOutcome current income outcome baseResource originOutcome).realOutcome / originOutcome := if_pos pos
  rw [share]
  exact mul_div_cancel₀ _ pos.ne'

theorem applyIncomeOutcome_zero :
    (applyIncomeOutcome current income 0 baseResource originOutcome).realOutcome = 0 := by
  unfold applyIncomeOutcome
  dsimp only
  split
  · rfl
  · rename_i reached
    split
    · rename_i short
      linarith
    · rfl

/-! ### The salaries -/

/-- What is paid by a nation's settlement, before it is rounded for each general. -/
def paidOut (type : IncomeResource) (income baseResource : ℚ) (nationId : Int) (nation : Nation)
    (generals : List (Int × General)) : IncomeOutcome :=
  applyIncomeOutcome (treasury type nation) income (billedSalaries nation (paidGenerals nationId generals)) baseResource
    (nominalSalaries (paidGenerals nationId generals))

variable {type : IncomeResource} {nationId : Int} {nation : Nation} {generals : List (Int × General)}

theorem salaries_eq : (processIncomeForNation type income baseResource nationId nation generals).salaries =
    (paidGenerals nationId generals).map fun entry => (entry.1,
      ProRata.share (paidOut type income baseResource nationId nation generals).ratio (getBill entry.2.dedication)) := rfl

theorem treasury_settled : treasury type (processIncomeForNation type income baseResource nationId nation generals).nation =
    (paidOut type income baseResource nationId nation generals).next := by
  cases type <;> rfl

theorem salaries_sum :
    |((processIncomeForNation type income baseResource nationId nation generals).paid : ℚ) -
        (paidOut type income baseResource nationId nation generals).realOutcome| ≤
      ((processIncomeForNation type income baseResource nationId nation generals).salaries.length : ℚ) / 2 := by
  have near := ProRata.sum_share_near (paidOut type income baseResource nationId nation generals).ratio
    (fun entry : Int × General => (getBill entry.2.dedication : ℚ)) (paidGenerals nationId generals)
  have total : (((paidGenerals nationId generals).map fun entry => (getBill entry.2.dedication : ℚ)).sum) =
      nominalSalaries (paidGenerals nationId generals) := by
    rw [nominalSalaries_eq, Int.cast_natCast, Nat.cast_list_sum, List.map_map]
    rfl
  -- The share of all nominal salaries together is what is paid.
  have whole : (nominalSalaries (paidGenerals nationId generals) : ℚ) *
      (paidOut type income baseResource nationId nation generals).ratio =
        (paidOut type income baseResource nationId nation generals).realOutcome := by
    by_cases none_ : paidGenerals nationId generals = []
    · have nothing : nominalSalaries [] = 0 := by rw [nominalSalaries_eq]; rfl
      have unbilled : billedSalaries nation [] = 0 := by
        rw [billedSalaries, nothing, mathRound]
        norm_num
      simp only [paidOut, none_, nothing, unbilled, Int.cast_zero, zero_mul, applyIncomeOutcome_zero]
    · exact applyIncomeOutcome_ratio (by exact_mod_cast nominalSalaries_pos none_)
  rw [total, whole] at near
  rw [salaries_eq, List.length_map]
  have paid : (processIncomeForNation type income baseResource nationId nation generals).paid =
      ((paidGenerals nationId generals).map fun entry =>
        ProRata.share (paidOut type income baseResource nationId nation generals).ratio (getBill entry.2.dedication)).sum := by
    change (((paidGenerals nationId generals).map _).map Prod.snd).sum = _
    rw [List.map_map]
    rfl
  rw [paid]
  exact near

theorem billedSalaries_nonneg (bill : 0 ≤ resolveNationBill nation) (generals : List (Int × General)) :
    0 ≤ billedSalaries nation generals := by
  have nominal : (0 : ℚ) ≤ nominalSalaries generals := by
    rw [nominalSalaries_eq]
    positivity
  have amount : 0 ≤ resolveNationBill nation / 100 * nominalSalaries generals :=
    mul_nonneg (div_nonneg bill (by norm_num)) nominal
  exact Int.floor_nonneg.mpr (by linarith)

/--
A nation's settlement keeps the reserve and pays its salaries from what is above it.

The bill is set between twenty and two hundred percent, and is a hundred where it has not been set.
-/
theorem salary_payment (type : IncomeResource) (income baseResource : ℚ) (nationId : Int) (nation : Nation)
    (generals : List (Int × General)) (bill : 0 ≤ resolveNationBill nation) :
    let settlement := processIncomeForNation type income baseResource nationId nation generals
    let paid := (paidOut type income baseResource nationId nation generals).realOutcome
    baseResource ≤ treasury type settlement.nation ∧
      (baseResource ≤ treasury type nation + income →
        treasury type settlement.nation = treasury type nation + income - paid) ∧
      paid ≤ billedSalaries nation (paidGenerals nationId generals) ∧
      |((settlement.salaries.map Prod.snd).sum : ℚ) - paid| ≤ (settlement.salaries.length : ℚ) / 2 ∧
      ∀ one ∈ paidGenerals nationId generals, ∀ other ∈ paidGenerals nationId generals,
        one.2.dedication = other.2.dedication →
        ∃ pay, (one.1, pay) ∈ settlement.salaries ∧ (other.1, pay) ∈ settlement.salaries := by
  intro settlement paid
  have settled := applyIncomeOutcome_settled (treasury type nation) income
    (billedSalaries nation (paidGenerals nationId generals)) baseResource
    (nominalSalaries (paidGenerals nationId generals))
  have left : treasury type settlement.nation = _ := treasury_settled
  rw [left]
  refine ⟨settled.reserve, settled.debit, settled.withinBill ?_, salaries_sum, ?_⟩
  · exact_mod_cast billedSalaries_nonneg bill _
  · intro one oneAmong other otherAmong same
    have salaries : settlement.salaries = _ := salaries_eq
    rw [salaries]
    refine ⟨_, List.mem_map.mpr ⟨one, oneAmong, rfl⟩, ?_⟩
    rw [same]
    exact List.mem_map.mpr ⟨other, otherAmong, rfl⟩

/-- A general of the first nation with a dedication of four hundred. -/
def servingGeneral : General where
  name := "장수"
  nationId := 1
  cityId := 1
  troopId := 0
  leadership := 50
  strength := 50
  intelligence := 50
  experience := 0
  dedication := 400
  officerLevel := 1
  injury := 0
  gold := 1000
  rice := 1000
  crew := 0
  crewTypeId := 0
  train := 0
  atmos := 0
  age := 20
  npcState := 0
  role := []
  triggerState := []
  metadata := []
  turnTime := 0
  turnTick := none
  recentWarTime := none
  recentWarTick := none
  columns := []

/-- A nation whose treasury is a little above the reserve. -/
def frugalNation : Nation where
  name := "국가"
  chiefGeneralId := none
  gold := 0
  rice := 1900
  metadata := [("bill", .num 100)]
  columns := []

/-- Two equal generals are nominally paid eight hundred each, and share the hundred and one there is above the reserve. -/
theorem salary_payment_short :
    (processIncomeForNation .rice 201 2000 1 frugalNation [(1, servingGeneral), (2, servingGeneral)]).salaries =
        [(1, 51), (2, 51)] ∧
      2000 ≤ treasury .rice
        (processIncomeForNation .rice 201 2000 1 frugalNation [(1, servingGeneral), (2, servingGeneral)]).nation :=
  ⟨by decide +kernel, (salary_payment .rice 201 2000 1 frugalNation [(1, servingGeneral), (2, servingGeneral)]
    (by decide +kernel)).1⟩

end Sammo.Economy
