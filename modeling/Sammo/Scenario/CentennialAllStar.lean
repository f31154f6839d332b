import Mathlib.Data.List.Sort
import Mathlib.Data.Rat.Floor
import Mathlib.Logic.Function.Basic
import Sammo.Lib.StateMachine

/-!
The growth of a general towards the historical figure it follows.

What the event has given is kept in a ledger beside the values, so that it can be taken back.
The other metadata of a general and the texts of the logs are left out.
-/

namespace Sammo.CentennialAllStar

/-- The abilities that grow. -/
inductive StatKey where
  | leadership
  | strength
  | intel
  deriving DecidableEq

/-- The kinds of mastery that grow. -/
inductive DexKey where
  | dex1
  | dex2
  | dex3
  | dex4
  | dex5
  deriving DecidableEq

/-- The abilities in order. -/
def statKeys : List StatKey := [.leadership, .strength, .intel]

/-- The kinds of mastery in order. -/
def dexKeys : List DexKey := [.dex1, .dex2, .dex3, .dex4, .dex5]

/-- A figure that a general grows towards. -/
structure Target where
  uniqueName : String
  stat : StatKey → Int
  dex : DexKey → ℕ
  specialDomestic : Option String

/-- When a general grows. -/
structure Environment where
  startYear : Int
  year : Int
  month : Int

/-- How generals grow in a scenario. -/
structure Rules where
  defaultStatMin : ℕ
  defaultStatMax : ℕ
  defaultStatTotal : Int
  maxStatLevel : ℕ
  defaultSpecialDomestic : Option String
  dexLimit : Option Int

/-- The ledger of the event. -/
structure Aux where
  targetId : String
  target : Target
  grantedStat : StatKey → Int
  grantedDex : DexKey → Int
  dexConsumed : DexKey → Int
  dexFloor : DexKey → Int
  progressMonth : Int
  milestone : Int
  naturalSpecialDomestic : Option String
  eventSpecialDomestic : Option String
  userInitialStats : Option (StatKey → Int)
  dexTargetRatio : ℚ

/-- What of a general grows, with its ledger. -/
structure Growing where
  stats : StatKey → Int
  specialDomestic : Option String
  dex : DexKey → Int
  aux : Option Aux

/-! ### The ledger -/

/-- The ledger of a general that starts to grow; the abilities that a player starts with count as given. -/
def initialCentennialAllStarAux (target : Target) (rules : Rules) (userInitialStats : Option (StatKey → Int)) :
    Aux where
  targetId := target.uniqueName
  target := target
  grantedStat key :=
    match userInitialStats with
    | none => 0
    | some initial => max 0 (initial key - min (initial key) rules.defaultStatMin)
  grantedDex _ := 0
  dexConsumed _ := 0
  dexFloor _ := 0
  progressMonth := -1
  milestone := 0
  naturalSpecialDomestic := none
  eventSpecialDomestic := none
  userInitialStats := userInitialStats
  dexTargetRatio := 1

/-- Reads the ledger of a general, or an empty one where there is a target to start it with. -/
def readCentennialAllStarAux (aux : Option Aux) (fallbackTarget : Option Target) : Option Aux :=
  match aux with
  | some aux =>
    some { aux with
      grantedStat := fun key => max 0 (aux.grantedStat key)
      grantedDex := fun key => max 0 (aux.grantedDex key)
      dexConsumed := fun key => max 0 (aux.dexConsumed key)
      dexFloor := fun key => max 0 (aux.dexFloor key) }
  | none =>
    fallbackTarget.map fun target =>
      { targetId := target.uniqueName
        target := target
        grantedStat := fun _ => 0
        grantedDex := fun _ => 0
        dexConsumed := fun _ => 0
        dexFloor := fun _ => 0
        progressMonth := -1
        milestone := 0
        naturalSpecialDomestic := none
        eventSpecialDomestic := none
        userInitialStats := none
        dexTargetRatio := 1 }

/-! ### The floors -/

/-- An ability of a target, as far as abilities go. -/
def targetStat (rules : Rules) (target : Target) (key : StatKey) : Int :=
  min rules.maxStatLevel (max 0 (target.stat key))

/-- Gives out what is left of a total, one each, to those that are below their targets. -/
def handOut (targets : StatKey → Int) : List StatKey → Int → (StatKey → Int) → StatKey → Int
  | [], _, result => result
  | key :: rest, remainder, result =>
    if remainder ≤ 0 then result
    else if targets key ≤ result key then handOut targets rest remainder result
    else handOut targets rest (remainder - 1) (Function.update result key (result key + 1))

/-- The abilities that a player's general starts with. -/
def calculateCentennialUserInitialStats (target : Target) (rules : Rules) : StatKey → Int :=
  let targets (key : StatKey) : Int := min rules.defaultStatMax (max 0 (target.stat key))
  let bases (key : StatKey) : Int := min (targets key) rules.defaultStatMin
  let targetTotal := (statKeys.map targets).sum
  let desiredTotal := min rules.defaultStatTotal targetTotal
  let baseTotal := (statKeys.map bases).sum
  let capacityTotal := targetTotal - baseTotal
  if capacityTotal ≤ 0 ∨ desiredTotal ≤ baseTotal then bases
  else
    let ratio : ℚ := ((desiredTotal - baseTotal : Int) : ℚ) / capacityTotal
    let raw (key : StatKey) : ℚ := bases key + (targets key - bases key : Int) * ratio
    let result (key : StatKey) : Int := ⌊raw key⌋
    -- The largest fractions come first, and equal ones in the order of the abilities.
    let fractions := statKeys.insertionSort fun left right => raw right - result right ≤ raw left - result left
    handOut targets fractions (desiredTotal - (statKeys.map result).sum) result

/-- The months since the start of a scenario. -/
def elapsedMonths (environment : Environment) : Int :=
  max 0 ((environment.year - environment.startYear) * 12 + environment.month - 1)

/-- The years after which a general has grown up. -/
def defaultGrowthYears : ℚ := 15

/-- How far a general has grown. -/
def calculateCentennialProgress (environment : Environment) (progressMultiplier growthYears : ℚ) :
    Except String ℚ :=
  if progressMultiplier < 0 ∨ 1 < progressMultiplier then .error "progress multiplier must be between 0 and 1"
  else if growthYears ≤ 0 then .error "growthYears must be positive"
  else if environment.month < 1 ∨ 12 < environment.month then .error "month must be between 1 and 12"
  else .ok (min 1 (elapsedMonths environment / (growthYears * 12)) * progressMultiplier)

/-- What an ability has at least, when a general has grown so far. -/
def centennialStatFloor (target minimum : Int) (progress : ℚ) : Int :=
  let normalizedProgress := max 0 (min 1 progress)
  if target ≤ minimum then target
  else min target ⌊minimum + (target - minimum : Int) * normalizedProgress⌋

/-- What a mastery has at least, when a general has grown so far. -/
def centennialDexFloor (target : Int) (progress : ℚ) : Int :=
  let normalizedProgress := max 0 (min 1 progress)
  min target ⌊target * normalizedProgress * normalizedProgress⌋

/-- The limit of a mastery where the scenario sets none. -/
def defaultDexLimit : Int := 1000000

/-- What a mastery of a target comes to; generated generals make the same progress here as others. -/
def calculateCentennialDexTargetFloor (target : Int) (environment : Environment) (targetRatio : ℚ) (dexLimit : Int) :
    Except String Int :=
  if targetRatio < 0 ∨ 1 < targetRatio then .error "dex target ratio must be between 0 and 1"
  else
    let capped := min dexLimit (max 0 target)
    let scaled := ⌊capped * targetRatio⌋
    (calculateCentennialProgress environment 1 defaultGrowthYears).map (centennialDexFloor scaled)

/-- The abilities that a player's general has at least by now. -/
def calculateCentennialUserCurrentTargetStats (target : Target) (environment : Environment) (rules : Rules) :
    Except String (StatKey → Int) :=
  (calculateCentennialProgress environment 1 defaultGrowthYears).map fun progress key =>
    max (calculateCentennialUserInitialStats target rules key)
      (centennialStatFloor (targetStat rules target key) rules.defaultStatMin progress)

/-- Raises a value to a floor; what is added counts as given. -/
def advance (current granted floor : Int) : Int × Int :=
  let delta := max 0 (floor - current)
  (current + delta, max 0 granted + delta)

/-- Takes back what was given, and raises what is left to a new floor. -/
def replaceTarget (current oldGranted newFloor : Int) : Int × Int :=
  let organic := max 0 (current - max 0 oldGranted)
  let value := max organic newFloor
  (value, value - organic)

/-- One of the two, by whether a new target takes the place of an old one. -/
def settle (replaces : Bool) (current granted floor : Int) : Int × Int :=
  if replaces then replaceTarget current granted floor else advance current granted floor

/-! ### The domestic speciality -/

/-- The domestic speciality of a general, the one it had by nature, and the one that the event gave it. -/
structure DomesticTrait where
  held : Option String
  natural : Option String
  event : Option String
  deriving DecidableEq

/-- With a new target, the speciality of the old one is taken back. -/
def returns (targetChanged : Bool) (trait : DomesticTrait) : Bool :=
  targetChanged && trait.event.isSome && trait.held == trait.event

/-- What is held after the speciality of an old target is taken back. -/
def returnTrait (rules : Rules) (targetChanged : Bool) (trait : DomesticTrait) : DomesticTrait :=
  if returns targetChanged trait then
    { trait with held := trait.natural.or rules.defaultSpecialDomestic, event := none }
  else trait

/-- The speciality that a target gives to a general that has grown so far. -/
def grantedSpecial (progress : ℚ) (target : Target) : Option String :=
  if 4 / 10 ≤ progress then target.specialDomestic.filter (· ≠ "") else none

/-- Gives a general a speciality, and writes down the one it had where none is written down. -/
def grantTrait (special : Option String) (trait : DomesticTrait) : DomesticTrait :=
  match special with
  | none => trait
  | some name => ⟨some name, trait.natural.or trait.held, some name⟩

/-! ### A month of growth -/

/-- What a month of growth comes to. -/
structure ApplyResult where
  general : Growing
  progress : ℚ
  milestone : Int
  previousMilestone : Int
  targetChanged : Bool
  changed : Bool

/-- Computes something for each kind of mastery, in order. -/
def everyDex (compute : DexKey → Except String Int) : Except String (DexKey → Int) := do
  let one ← compute .dex1
  let two ← compute .dex2
  let three ← compute .dex3
  let four ← compute .dex4
  let five ← compute .dex5
  return fun
    | .dex1 => one
    | .dex2 => two
    | .dex3 => three
    | .dex4 => four
    | .dex5 => five

/-- The ledger that a month of growth starts with. -/
def openAux (general : Growing) (target : Target) (rules : Rules) : Aux :=
  (readCentennialAllStarAux general.aux (some target)).getD (initialCentennialAllStarAux target rules none)

/-- What an ability has at least: a player's general has its own floors. -/
def statFloor (rules : Rules) (target : Target) (progress : ℚ) (userCurrentTargetStats : Option (StatKey → Int))
    (key : StatKey) : Int :=
  (userCurrentTargetStats.map fun stats => stats key).getD
    (centennialStatFloor (targetStat rules target key) rules.defaultStatMin progress)

/-- Applies the floors of a target, and its speciality. -/
def applyFloors (general : Growing) (aux : Aux) (target : Target) (environment : Environment) (rules : Rules)
    (progressMultiplier dexTargetRatio progress : ℚ) (userCurrentTargetStats : Option (StatKey → Int))
    (dexTargetFloor : DexKey → Int) : ApplyResult :=
  let targetChanged : Bool := aux.targetId ≠ target.uniqueName
  let ratioChanged : Bool := aux.dexTargetRatio ≠ dexTargetRatio
  let dexConsumed (key : DexKey) : Int := if targetChanged then 0 else aux.dexConsumed key
  let stat (key : StatKey) : Int × Int := settle targetChanged (general.stats key) (aux.grantedStat key)
    (statFloor rules target progress userCurrentTargetStats key)
  let dexFloor (key : DexKey) : Int := max 0 (dexTargetFloor key - dexConsumed key)
  let dex (key : DexKey) : Int × Int :=
    settle (targetChanged || ratioChanged) (general.dex key) (aux.grantedDex key) (dexFloor key)
  let before : DomesticTrait := ⟨general.specialDomestic, aux.naturalSpecialDomestic, aux.eventSpecialDomestic⟩
  let returned := returnTrait rules targetChanged before
  let special := grantedSpecial progress target
  let trait := grantTrait special returned
  let milestone := min 5 ⌊progress * 5 + 1 / 10000000⌋
  { general :=
      { stats := fun key => (stat key).1
        specialDomestic := trait.held
        dex := fun key => (dex key).1
        aux := some
          { targetId := target.uniqueName
            target := target
            grantedStat := fun key => (stat key).2
            grantedDex := fun key => (dex key).2
            dexConsumed := dexConsumed
            dexFloor := dexFloor
            progressMonth := max aux.progressMonth ⌊elapsedMonths environment * progressMultiplier⌋
            milestone := max aux.milestone milestone
            naturalSpecialDomestic := trait.natural
            eventSpecialDomestic := trait.event
            userInitialStats :=
              if targetChanged ∧ aux.userInitialStats.isSome
                then some (calculateCentennialUserInitialStats target rules) else aux.userInitialStats
            dexTargetRatio := dexTargetRatio } }
    progress := progress
    milestone := milestone
    previousMilestone := aux.milestone
    targetChanged := targetChanged
    changed := ratioChanged || statKeys.any (fun key => (stat key).1 != general.stats key) ||
      dexKeys.any (fun key => (dex key).1 != general.dex key) || returns targetChanged before ||
      (special.isSome && returned.held != special) || targetChanged || decide (aux.milestone < milestone) }

/-- The abilities that a general has at least by now, if it is a player's. -/
def userCurrentTargetStats (isUserTarget : Bool) (target : Target) (environment : Environment) (rules : Rules) :
    Except String (Option (StatKey → Int)) :=
  if isUserTarget then (calculateCentennialUserCurrentTargetStats target environment rules).map some else .ok none

/-- What the masteries of a target come to. -/
def dexTargetFloors (target : Target) (environment : Environment) (rules : Rules) (dexTargetRatio : ℚ) :
    Except String (DexKey → Int) :=
  everyDex fun key => calculateCentennialDexTargetFloor (target.dex key) environment dexTargetRatio
    (rules.dexLimit.getD defaultDexLimit)

/-- Lets a general grow towards a target. -/
def applyCentennialAllStarTarget (general : Growing) (target : Target) (environment : Environment) (rules : Rules)
    (progressMultiplier dexTargetRatio : ℚ) : Except String ApplyResult := do
  let progress ← calculateCentennialProgress environment progressMultiplier defaultGrowthYears
  let aux := openAux general target rules
  let user ← userCurrentTargetStats aux.userInitialStats.isSome target environment rules
  let dexTargetFloor ← dexTargetFloors target environment rules dexTargetRatio
  return applyFloors general aux target environment rules progressMultiplier dexTargetRatio progress user
    dexTargetFloor

/-! ### Conversions of mastery -/

/-- A part of an amount, cut to an integer; of nothing there is no part. -/
def proportion (amount part whole : Int) : Int := if 0 < whole then (amount * part).tdiv whole else 0

/-- Writes a conversion of one mastery into another into the ledger. -/
def reconcileCentennialDexConversion (general : Growing) (sourceKey destinationKey : DexKey)
    (sourceBefore sourceAfter destinationBefore destinationAfter : Int) (convertCoefficient : ℚ) :
    Except String Growing :=
  if sourceKey = destinationKey then .error "invalid dex conversion keys"
  else if convertCoefficient < 0 ∨ 1 < convertCoefficient then
    .error "dex conversion coefficient must be between 0 and 1"
  else
    let sourceDecrease := max 0 (sourceBefore - sourceAfter)
    let destinationIncrease := max 0 (destinationAfter - destinationBefore)
    if sourceDecrease = 0 ∧ destinationIncrease = 0 then .ok general
    else
      match readCentennialAllStarAux general.aux none with
      | none => .ok general
      | some aux =>
        let sourceGrantedBefore := min (max 0 sourceBefore) (max 0 (aux.grantedDex sourceKey))
        let eventGrantRemoved := proportion sourceDecrease sourceGrantedBefore sourceBefore
        let sourceGrantedAfter := max 0 (sourceGrantedBefore - eventGrantRemoved)
        let destinationGrantedBefore := min (max 0 destinationBefore) (max 0 (aux.grantedDex destinationKey))
        let eventGrantTransferred := min (min destinationIncrease eventGrantRemoved)
          (proportion destinationIncrease sourceGrantedBefore sourceBefore)
        let destinationGrantedAfter :=
          min (max 0 destinationAfter) (destinationGrantedBefore + eventGrantTransferred)
        let sourceFloor := max 0 (aux.dexFloor sourceKey)
        let gapBefore := max 0 (sourceFloor - sourceBefore)
        let gapAfter := max 0 (sourceFloor - sourceAfter)
        let consumed := max 0 (aux.dexConsumed sourceKey + max 0 (gapAfter - gapBefore))
        .ok { general with
          aux := some { aux with
            grantedDex := Function.update (Function.update aux.grantedDex sourceKey sourceGrantedAfter)
              destinationKey destinationGrantedAfter
            dexConsumed := Function.update aux.dexConsumed sourceKey consumed } }

/-- Converts part of one mastery into another. -/
def convertDex (general : Growing) (sourceKey destinationKey : DexKey) (loss gain : ℕ) (convertCoefficient : ℚ) :
    Except String Growing :=
  let sourceAfter := general.dex sourceKey - loss
  let destinationAfter := general.dex destinationKey + gain
  reconcileCentennialDexConversion
    { general with
      dex := Function.update (Function.update general.dex sourceKey sourceAfter) destinationKey destinationAfter }
    sourceKey destinationKey (general.dex sourceKey) sourceAfter (general.dex destinationKey) destinationAfter
    convertCoefficient

/-- What counts of a value that may have been given in part. -/
def centennialRecordableValue (current granted : Int) : Int := max 0 (current - max 0 granted)

/-- The part of a mastery that goes into the records. -/
def readCentennialRecordableDexterity (general : Growing) (key : DexKey) : Int :=
  centennialRecordableValue (general.dex key) ((general.aux.map fun aux => aux.grantedDex key).getD 0)

/-! ### The life of a general -/

/-- What happens to a general while it grows. -/
inductive GrowthEvent where
  /-- The event lets it grow towards a target, the one it has or a new one. -/
  | apply (target : Target) (environment : Environment) (progressMultiplier dexTargetRatio : ℚ)
  /-- An ability grows by itself. -/
  | gainStat (key : StatKey) (amount : ℕ)
  /-- A mastery grows by itself. -/
  | gainDex (key : DexKey) (amount : ℕ)
  /-- Part of a mastery is converted, and no more comes of it than was there. -/
  | convert (source destination : DexKey) (loss gain : ℕ) (coefficient : ℚ)

/-- A general that grows under the rules of a scenario. -/
def growth (rules : Rules) : StateMachine Growing GrowthEvent Unit where
  step general
    | .apply target environment progressMultiplier dexTargetRatio =>
      -- A call that throws leaves the general as it is.
      (applyCentennialAllStarTarget general target environment rules progressMultiplier dexTargetRatio).toOption.map
        fun result => (result.general, ())
    | .gainStat key amount =>
      some ({ general with stats := Function.update general.stats key (general.stats key + amount) }, ())
    | .gainDex key amount =>
      some ({ general with dex := Function.update general.dex key (general.dex key + amount) }, ())
    | .convert source destination loss gain coefficient =>
      if gain ≤ loss ∧ loss ≤ general.dex source then
        (convertDex general source destination loss gain coefficient).toOption.map fun converted => (converted, ())
      else none

end Sammo.CentennialAllStar
