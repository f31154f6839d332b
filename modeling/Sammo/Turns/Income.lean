import Mathlib.Algebra.Order.BigOperators.Group.List
import Mathlib.Data.Nat.Sqrt
import Sammo.Lib.ProRata
import Sammo.World.Entities

/-! The seasonal income of a nation, and the salaries it pays from its treasury. -/

namespace Sammo.Economy

/-- The two resources a season brings. -/
inductive IncomeResource where
  | gold
  | rice
deriving DecidableEq

/-- Rounds to the nearest integer, halves upwards. -/
def mathRound (value : ℚ) : Int := ⌊value + 1 / 2⌋

/-! ### The nominal salaries -/

/-- The greatest level of dedication that counts. -/
def maxDedLevel : Nat := 30

/-- A tenth of the square root of an amount, rounded up. -/
def ceilTenthOfRoot (amount : Nat) : Nat :=
  let root := Nat.sqrt (amount / 100)
  if 100 * (root * root) = amount then root else root + 1

/-- The level of a dedication. -/
def resolveDedLevel (dedication : ℚ) : Nat :=
  -- No whole number lies between an amount and the next whole one.
  min maxDedLevel (ceilTenthOfRoot ⌈max 0 dedication⌉₊)

/-- The salary of a level. -/
def getBillByLevel (dedicationLevel : Nat) : Nat := dedicationLevel * 200 + 400

/-- The nominal salary of a dedication. -/
def getBill (dedication : ℚ) : Nat := getBillByLevel (resolveDedLevel dedication)

/-- The nominal salaries of generals at a rate. -/
def getOutcome (billRate : ℚ) (dedications : List ℚ) : Int :=
  mathRound (((dedications.map getBill).sum : Nat) * (billRate / 100))

/-! ### The settlement -/

/-- What becomes of a treasury: what is left, what is paid of the nominal salaries, and the share that this is. -/
structure IncomeOutcome where
  next : ℚ
  ratio : ℚ
  realOutcome : ℚ

/-- Takes in the income and pays the outcome, as far as the reserve is not touched. -/
def applyIncomeOutcome (current income outcome baseResource originOutcome : ℚ) : IncomeOutcome :=
  let next := current + income
  let (next, realOutcome) :=
    if next < baseResource then (baseResource, 0)
    else if next - baseResource < outcome then (baseResource, next - baseResource)
    else (next - outcome, outcome)
  { next := max next baseResource
    ratio := if 0 < originOutcome then realOutcome / originOutcome else 0
    realOutcome }

/-- The part of the nominal salaries that a nation wants to pay, in percent. -/
def resolveNationBill (nation : Nation) : ℚ := asNumber (nation.metadata.get? "bill") 100

/-- The treasury of a resource. -/
def treasury (type : IncomeResource) (nation : Nation) : ℚ :=
  match type with
  | .gold => nation.gold
  | .rice => nation.rice

/-- The generals that a nation pays. -/
def paidGenerals (nationId : Int) (generals : List (Int × General)) : List (Int × General) :=
  generals.filter fun entry => entry.2.nationId = nationId ∧ entry.2.npcState ≠ 5

/-- The nominal salaries of generals in full. -/
def nominalSalaries (generals : List (Int × General)) : Int := getOutcome 100 (generals.map fun entry => entry.2.dedication)

/-- The salaries that a nation wants to pay. -/
def billedSalaries (nation : Nation) (generals : List (Int × General)) : Int :=
  mathRound (resolveNationBill nation / 100 * nominalSalaries generals)

/-- What the settlement of a nation changes: its row, the rows of the generals it pays, and the record of both. -/
structure IncomeSettlement where
  nation : Nation
  generals : List (Int × General)
  salaries : List (Int × Int)
  income : ℚ
  paid : Int

/-- The patch that hands a salary to a general. -/
def salaryPatch (type : IncomeResource) (general : General) (pay : Int) : GeneralPatch :=
  match type with
  | .gold => { gold := some (general.gold + pay) }
  | .rice => { rice := some (general.rice + pay) }

/-- Settles the income of a nation and pays its generals. -/
def processIncomeForNation (type : IncomeResource) (income baseResource : ℚ) (nationId : Int) (nation : Nation)
    (generals : List (Int × General)) : IncomeSettlement :=
  let nationGenerals := paidGenerals nationId generals
  let originOutcome := nominalSalaries nationGenerals
  let applied := applyIncomeOutcome (treasury type nation) income (billedSalaries nation nationGenerals) baseResource
    originOutcome
  let nextMeta := nation.metadata.set
    (match type with | .gold => "prev_income_gold" | .rice => "prev_income_rice") (.num income)
  let salaries := nationGenerals.map fun entry => (entry.1, mathRound (getBill entry.2.dedication * applied.ratio))
  { nation := overwriteNation nation (match type with
      | .gold => { gold := some applied.next, metadata := some nextMeta }
      | .rice => { rice := some applied.next, metadata := some nextMeta })
    generals := nationGenerals.map fun entry => (entry.1, applyGeneralPatch entry.2
      (salaryPatch type entry.2 (mathRound (getBill entry.2.dedication * applied.ratio))))
    salaries
    income
    paid := (salaries.map Prod.snd).sum }

end Sammo.Economy
