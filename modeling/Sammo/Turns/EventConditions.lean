import Mathlib.Data.Rat.Floor
import Sammo.Data.Json

/-! The conditions of the monthly events: how the program evaluates them, and what they say. -/

namespace Sammo.Events

/-- What the events of a month are evaluated in. -/
structure MonthlyEventEnvironment where
  year : Int
  month : Int
  startyear : Int

/-- The comparators that a condition may name. -/
inductive Comparator where
  | eq
  | ne
  | lt
  | gt
  | le
  | ge
deriving DecidableEq

/-- The comparator that a text names. -/
def comparator? : String → Option Comparator
  | "==" => some .eq
  | "!=" => some .ne
  | "<" => some .lt
  | ">" => some .gt
  | "<=" => some .le
  | ">=" => some .ge
  | _ => none

/-- The decimal text of an integer. -/
def decimal : Int → List Char
  | .ofNat value => Nat.toDigits 10 value
  | .negSucc value => '-' :: Nat.toDigits 10 (value + 1)

/-- Integers whose texts are written in full. -/
def Plain (value : Int) : Prop := -(10 ^ 21) < value ∧ value < 10 ^ 21

instance (value : Int) : Decidable (Plain value) := inferInstanceAs (Decidable (_ ∧ _))

/-- The text of an integer; the one that the language writes for a very large integer, with an exponent, is given. -/
def numberText (exponential : Int → List Char) (value : Int) : List Char :=
  if Plain value then decimal value else exponential value

variable (exponential : Int → List Char)

/-- The text that a component is compared by. -/
def paddedText : Option Int → List Char
  | none => []
  | some value => List.leftpad 12 '0' (numberText exponential value)

/-- The text that components are compared by. -/
def normalize (values : List (Option Int)) : List Char :=
  [':'].intercalate (values.map (paddedText exponential))

/-- Compares components by their texts. -/
def compare (left : List (Option Int)) (operator : Comparator) (right : List (Option Int)) : Bool :=
  let lhs := normalize exponential left
  let rhs := normalize exponential right
  match operator with
  | .eq => lhs = rhs
  | .ne => lhs ≠ rhs
  | .lt => lhs < rhs
  | .gt => rhs < lhs
  | .le => ¬ rhs < lhs
  | .ge => ¬ lhs < rhs

/-- Reads an integer or null. -/
def readNullableInteger (value : Option Json) (label : String) : Except String (Option Int) :=
  match value with
  | some .null => .ok none
  | some (.num number) => if number.den = 1 then .ok (some number.num) else .error s!"{label} must be an integer or null."
  | _ => .error s!"{label} must be an integer or null."

/-- Evaluates a comparison of the date, or of the time since the start. -/
def evaluateDate (environment : MonthlyEventEnvironment) (name : String) (operands : List Json) : Except String Bool :=
  match (operands[0]?.bind Json.string?).bind comparator? with
  | none => .error s!"{name} condition has an invalid comparator."
  | some operator => do
    let year ← readNullableInteger operands[1]? s!"{name}.year"
    let month ← readNullableInteger operands[2]? s!"{name}.month"
    if year = none ∧ month = none then .error s!"{name} condition requires year or month."
    else
      let currentYear := if name = "DateRelative" then environment.year - environment.startyear else environment.year
      return compare exponential [year.map fun _ => currentYear, month.map fun _ => environment.month] operator [year, month]

/-- Evaluates a comparison of the number of nations. -/
def evaluateRemainNation (remainingNationCount : Int) (operands : List Json) : Except String Bool :=
  match (operands[0]?.bind Json.string?).bind comparator?, operands[1]?.bind Json.number? with
  | some operator, some count => .ok (compare exponential [some remainingNationCount] operator [some ⌊count⌋])
  | _, _ => .error "RemainNation condition is invalid."

mutual

/-- Evaluates a condition. -/
def evaluateCondition (environment : MonthlyEventEnvironment) (remainingNationCount : Int) : Json → Except String Bool
  | .bool value => .ok value
  | .arr (.str name :: operands) =>
    let normalized := name.toLower
    if normalized = "not" then evaluateNot environment remainingNationCount operands
    else if normalized = "and" then evaluateEvery environment remainingNationCount operands
    else if normalized = "or" then evaluateSome environment remainingNationCount operands
    else if normalized = "xor" then evaluateXor environment remainingNationCount false operands
    else if name = "Date" ∨ name = "DateRelative" then evaluateDate exponential environment name operands
    else if name = "RemainNation" then evaluateRemainNation exponential remainingNationCount operands
    else .error s!"Unsupported event condition: {name}"
  | _ => .error "Event condition must be a boolean or condition tuple."

/-- Evaluates the one operand of a negation. -/
def evaluateNot (environment : MonthlyEventEnvironment) (remainingNationCount : Int) : List Json → Except String Bool
  | [condition] => do return !(← evaluateCondition environment remainingNationCount condition)
  | _ => .error "not condition requires exactly one operand."

/-- Evaluates operands until one is false. -/
def evaluateEvery (environment : MonthlyEventEnvironment) (remainingNationCount : Int) : List Json → Except String Bool
  | [] => .ok true
  | condition :: rest => do
    if ← evaluateCondition environment remainingNationCount condition then
      evaluateEvery environment remainingNationCount rest
    else return false

/-- Evaluates operands until one is true. -/
def evaluateSome (environment : MonthlyEventEnvironment) (remainingNationCount : Int) : List Json → Except String Bool
  | [] => .ok false
  | condition :: rest => do
    if ← evaluateCondition environment remainingNationCount condition then return true
    else evaluateSome environment remainingNationCount rest

/-- Evaluates all operands, changing the value with each that is true. -/
def evaluateXor (environment : MonthlyEventEnvironment) (remainingNationCount : Int) (value : Bool) :
    List Json → Except String Bool
  | [] => .ok value
  | condition :: rest => do
    let next ← evaluateCondition environment remainingNationCount condition
    evaluateXor environment remainingNationCount (value != next) rest

end

/-! ### What a condition says -/

/-- A condition, as what it says rather than how it is stored. -/
inductive Condition where
  | const (value : Bool)
  | not (operand : Condition)
  | and (operands : List Condition)
  | or (operands : List Condition)
  | xor (operands : List Condition)
  /-- A comparison of the year, since the start or in full, and of the month, as far as they are given. -/
  | date (relative : Bool) (operator : Comparator) (year month : Option Int)
  | remainNation (operator : Comparator) (count : Int)

/-- Reads an integer or null, and nothing else. -/
def nullableInteger? : Json → Option (Option Int)
  | .null => some none
  | .num number => if number.den = 1 then some (some number.num) else none
  | _ => none

/-- A comparison of a year and a month, of which one at least is given. -/
def dateCondition? (relative : Bool) (operator : Comparator) : List Json → Option Condition
  | year :: month :: _ => do
    let year ← nullableInteger? year
    let month ← nullableInteger? month
    if year = none ∧ month = none then none else some (.date relative operator year month)
  | _ => none

/-- A comparison of a number of nations. -/
def remainNationCondition? (operator : Comparator) : List Json → Option Condition
  | .num count :: _ => some (.remainNation operator ⌊count⌋)
  | _ => none

/-- The comparison that a name and its operands are written for. -/
def comparison? (name : String) : List Json → Option Condition
  | .str operator :: operands => do
    let operator ← comparator? operator
    if name = "Date" ∨ name = "DateRelative" then dateCondition? (name = "DateRelative") operator operands
    else if name = "RemainNation" then remainNationCondition? operator operands
    else none
  | _ => none

mutual

/-- The condition that a stored value is written for, if all of it is well formed. -/
def condition? : Json → Option Condition
  | .bool value => some (.const value)
  | .arr (.str name :: operands) =>
    match name.toLower with
    | "not" => notCondition? operands
    | "and" => (conditions? operands).map .and
    | "or" => (conditions? operands).map .or
    | "xor" => (conditions? operands).map .xor
    | _ => comparison? name operands
  | _ => none

/-- The negation of one operand. -/
def notCondition? : List Json → Option Condition
  | [operand] => (condition? operand).map .not
  | _ => none

/-- The conditions that operands are written for. -/
def conditions? : List Json → Option (List Condition)
  | [] => some []
  | operand :: rest => do return (← condition? operand) :: (← conditions? rest)

end

/-- Whether a comparator accepts how two values are ordered. -/
def Comparator.accepts : Comparator → Ordering → Bool
  | .eq, order => order = .eq
  | .ne, order => order ≠ .eq
  | .lt, order => order = .lt
  | .gt, order => order = .gt
  | .le, order => order ≠ .gt
  | .ge, order => order ≠ .lt

/-- How the current value of a component is ordered against one that is given; one that is not given is ignored. -/
def componentOrder (current : Int) : Option Int → Ordering
  | none => .eq
  | some given => Ord.compare current given

/-- The year that a comparison of the date is about. -/
def MonthlyEventEnvironment.yearFor (environment : MonthlyEventEnvironment) (relative : Bool) : Int :=
  if relative then environment.year - environment.startyear else environment.year

mutual

/-- Whether a condition is true. -/
def Condition.holds (environment : MonthlyEventEnvironment) (remainingNationCount : Int) : Condition → Bool
  | .const value => value
  | .not operand => !operand.holds environment remainingNationCount
  | .and operands => allHold environment remainingNationCount operands
  | .or operands => someHold environment remainingNationCount operands
  | .xor operands => oddHold environment remainingNationCount operands
  | .date relative operator year month =>
    operator.accepts ((componentOrder (environment.yearFor relative) year).then (componentOrder environment.month month))
  | .remainNation operator count => operator.accepts (Ord.compare remainingNationCount count)

/-- Whether all conditions are true. -/
def allHold (environment : MonthlyEventEnvironment) (remainingNationCount : Int) : List Condition → Bool
  | [] => true
  | operand :: rest =>
    operand.holds environment remainingNationCount && allHold environment remainingNationCount rest

/-- Whether some condition is true. -/
def someHold (environment : MonthlyEventEnvironment) (remainingNationCount : Int) : List Condition → Bool
  | [] => false
  | operand :: rest =>
    operand.holds environment remainingNationCount || someHold environment remainingNationCount rest

/-- Whether an odd number of conditions is true. -/
def oddHold (environment : MonthlyEventEnvironment) (remainingNationCount : Int) : List Condition → Bool
  | [] => false
  | operand :: rest =>
    operand.holds environment remainingNationCount != oddHold environment remainingNationCount rest

end

end Sammo.Events
