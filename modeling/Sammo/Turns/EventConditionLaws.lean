import Sammo.Lib.PaddedText
import Sammo.Turns.EventConditions

/-! When comparing padded texts is comparing the numbers they stand for, and so a condition says what is evaluated. -/

namespace Sammo.Events

open PaddedText

variable {exponential : Int → List Char} {environment : MonthlyEventEnvironment} {remainingNationCount : Int}

/-! ### The order of padded texts -/

/-- What follows the text of a component: the text of another one behind a colon, or nothing. -/
def Follows (closed : Bool) (text : List Char) : Prop :=
  if closed then ∃ rest, text = ':' :: rest else text = []

theorem follows_nothing : Follows false [] := by simp [Follows]

theorem follows_colon (rest : List Char) : Follows true (':' :: rest) := by simp [Follows]

/--
Whether the texts of two numbers are in the order of the numbers, of which the first is the lower one.

The texts of different negative numbers with equally many digits are not.
A number with more digits than the text has room for is compared by its leading ones.
-/
def OrderKept (closed : Bool) (lower higher : Int) : Prop :=
  if 0 ≤ lower then
    let more := max 12 (columns higher.toNat) - max 12 (columns lower.toNat)
    lower.toNat < higher.toNat / 10 ^ more ∨ (lower.toNat = higher.toNat / 10 ^ more ∧ closed = false)
  else if 0 ≤ higher then True
  else
    let more := columns lower.natAbs - columns higher.natAbs
    columns lower.natAbs ≠ columns higher.natAbs ∧
      (columns higher.natAbs < 11 ∨ lower.natAbs / 10 ^ more < higher.natAbs ∨
        (lower.natAbs / 10 ^ more = higher.natAbs ∧ closed = true))

instance (closed : Bool) (lower higher : Int) : Decidable (OrderKept closed lower higher) := by
  unfold OrderKept
  infer_instance

theorem digit_bounds {character : Char} {width number : Nat} (member : character ∈ fixed width number) :
    '0' ≤ character ∧ character < ':' := by
  have all : ∀ digit < 10, '0' ≤ Nat.digitChar digit ∧ Nat.digitChar digit < ':' := by decide
  induction width generalizing number with
  | zero => cases member
  | succ width ih =>
    rw [fixed, List.mem_append, List.mem_singleton] at member
    rcases member with earlier | rfl
    · exact ih earlier
    · exact all _ (Nat.mod_lt _ (by decide))

theorem sign_lt (zeros : Nat) (rest front back : List Char) (digits : ∀ character ∈ front, '0' ≤ character)
    (longer : zeros < front.length) : List.replicate zeros '0' ++ '-' :: rest < front ++ back := by
  induction zeros generalizing front with
  | zero =>
    cases front with
    | nil => simp at longer
    | cons first others =>
      have digit : '-' < first := lt_of_lt_of_le (by decide) (digits first List.mem_cons_self)
      exact List.cons_lt_cons_iff.mpr (.inl digit)
  | succ zeros ih =>
    cases front with
    | nil => simp at longer
    | cons first others =>
      rw [List.replicate_succ, List.cons_append, List.cons_append, List.cons_lt_cons_iff]
      rcases lt_or_eq_of_le (digits first List.mem_cons_self) with more | same
      · exact .inl more
      · exact .inr ⟨same, ih others (fun character member => digits character (List.mem_cons_of_mem _ member))
          (by simpa using longer)⟩

variable {value : Int} {closed : Bool} {front back : List Char} {lower higher : Nat} {order : Ordering}
  {current : Int}

theorem paddedText_nonneg (plain : Plain value) (nonneg : 0 ≤ value) :
    paddedText exponential (some value) = fixed (max 12 (columns value.toNat)) value.toNat := by
  obtain ⟨number, rfl⟩ := Int.eq_ofNat_of_zero_le nonneg
  rw [paddedText, numberText, if_pos plain]
  exact leftpad_toDigits 12 number

theorem paddedText_neg (plain : Plain value) (negative : value < 0) :
    paddedText exponential (some value) = List.replicate (12 - (columns value.natAbs + 1)) '0' ++
      '-' :: fixed (columns value.natAbs) value.natAbs := by
  obtain ⟨number, rfl⟩ := Int.eq_negSucc_of_lt_zero negative
  rw [paddedText, numberText, if_pos plain, Int.natAbs_negSucc, columns, ← toDigits_eq_fixed]
  rfl

theorem follows_digits {text : List Char} (follows : Follows closed text) {more : Nat} (some_ : 0 < more)
    (number : Nat) (back : List Char) :
    (text < fixed more number ++ back ↔ closed = false) ∧ (fixed more number ++ back < text ↔ closed = true) := by
  cases digits : fixed more number with
  | nil =>
    have length := length_fixed more number
    rw [digits, List.length_nil] at length
    omega
  | cons first others =>
    have bound := (digit_bounds (digits ▸ List.mem_cons_self : first ∈ fixed more number)).2
    cases closed with
    | false =>
      rw [Follows, if_neg (by decide)] at follows
      subst follows
      simp
    | true =>
      rw [Follows, if_pos rfl] at follows
      obtain ⟨rest, rfl⟩ := follows
      have notLess : ¬ ':' < first := lt_asymm bound
      have differs : first ≠ ':' := ne_of_lt bound
      simp [List.cons_lt_cons_iff, bound, notLess, differs.symm]

theorem text_order_nonneg (below : lower < higher) (frontFollows : Follows closed front)
    (backFollows : Follows closed back) :
    let lowerText := fixed (max 12 (columns lower)) lower ++ front
    let higherText := fixed (max 12 (columns higher)) higher ++ back
    let more := max 12 (columns higher) - max 12 (columns lower)
    let kept := lower < higher / 10 ^ more ∨ (lower = higher / 10 ^ more ∧ closed = false)
    (kept → lowerText < higherText) ∧ (¬ kept → higherText < lowerText) := by
  intro lowerText higherText more kept
  have wider := columns_mono below.le
  have width : max 12 (columns higher) = max 12 (columns lower) + more := by omega
  have fits (number : Nat) : number < 10 ^ max 12 (columns number) :=
    lt_of_lt_of_le (lt_pow_columns number) (Nat.pow_le_pow_right (by decide) (le_max_right _ _))
  have higherFits : higher < 10 ^ (max 12 (columns lower) + more) := width ▸ fits higher
  have forward : lowerText < higherText ↔ lower < higher / 10 ^ more ∨
      (lower = higher / 10 ^ more ∧ front < fixed more higher ++ back) := by
    simp only [lowerText, higherText, width]
    exact fixed_lt_append (fits lower) higherFits
  have backward : higherText < lowerText ↔ higher / 10 ^ more < lower ∨
      (higher / 10 ^ more = lower ∧ fixed more higher ++ back < front) := by
    simp only [lowerText, higherText, width]
    exact append_lt_fixed (fits lower) higherFits
  rcases Nat.eq_zero_or_pos more with same | longer
  · -- Of numbers with equally many columns the lower one has the lesser text.
    have less : lower < higher / 10 ^ more := by rw [same, pow_zero, Nat.div_one]; exact below
    exact ⟨fun _ => forward.mpr (.inl less), fun notKept => absurd (.inl less) notKept⟩
  · obtain ⟨isLess, isMore⟩ := follows_digits frontFollows longer higher back
    rw [forward, backward, isLess, isMore]
    refine ⟨id, fun notKept => ?_⟩
    rcases lt_trichotomy lower (higher / 10 ^ more) with less | same | greater
    · exact absurd (.inl less) notKept
    · cases closed with
      | false => exact absurd (.inr ⟨same, rfl⟩) notKept
      | true => exact .inr ⟨same.symm, rfl⟩
    · exact .inl greater

theorem text_order_neg (above : higher < lower) (frontFollows : Follows closed front)
    (backFollows : Follows closed back) :
    let signed (amount : Nat) := List.replicate (12 - (columns amount + 1)) '0' ++ '-' :: fixed (columns amount) amount
    let more := columns lower - columns higher
    let kept := columns lower ≠ columns higher ∧
      (columns higher < 11 ∨ lower / 10 ^ more < higher ∨ (lower / 10 ^ more = higher ∧ closed = true))
    (kept → signed lower ++ front < signed higher ++ back) ∧ (¬ kept → signed higher ++ back < signed lower ++ front) := by
  intro signed more kept
  have wider := columns_mono above.le
  by_cases same : columns lower = columns higher
  · -- With equally many digits the signs are in one place, and the greater amount has the greater text.
    have lowerFits : lower < 10 ^ columns higher := same ▸ lt_pow_columns lower
    have amounts := (fixed_order (columns higher) (lt_pow_columns higher) lowerFits).1.mpr above
    refine ⟨fun ⟨differs, _⟩ => absurd same differs, fun _ => ?_⟩
    simp only [signed, same, List.append_assoc, List.cons_append]
    rw [append_lt_append rfl, List.cons_lt_cons_iff, append_lt_append (by simp)]
    exact .inr ⟨rfl, .inr ⟨rfl, .inl amounts⟩⟩
  · by_cases small : columns higher < 11
    · -- The sign of the longer number stands where the shorter one still has a zero.
      refine ⟨fun _ => ?_, fun notKept => absurd ⟨same, .inl small⟩ notKept⟩
      simp only [signed, List.append_assoc, List.cons_append]
      apply sign_lt
      · intro character member
        rw [List.eq_of_mem_replicate member]
      · rw [List.length_replicate]
        omega
    · -- Neither has a zero in front, so the amounts are compared by their leading digits.
      have width : columns lower = columns higher + more := by omega
      have longer : 0 < more := by omega
      have noZeros : 12 - (columns higher + 1) = 0 ∧ 12 - (columns higher + more + 1) = 0 := by omega
      have lowerFits : lower < 10 ^ (columns higher + more) := width ▸ lt_pow_columns lower
      obtain ⟨isMore, isLess⟩ := follows_digits backFollows longer lower front
      simp only [signed, width, noZeros.1, noZeros.2, List.replicate_zero, List.nil_append, List.cons_append,
        List.cons_lt_cons_iff, lt_irrefl, true_and, false_or]
      rw [append_lt_fixed (lt_pow_columns higher) lowerFits, fixed_lt_append (lt_pow_columns higher) lowerFits, isLess,
        isMore]
      refine ⟨fun ⟨_, kept⟩ => kept.resolve_left small, fun notKept => ?_⟩
      rcases lt_trichotomy higher (lower / 10 ^ more) with less | equal | greater
      · exact .inl less
      · cases closed with
        | false => exact .inr ⟨equal, rfl⟩
        | true => exact absurd ⟨same, .inr (.inr ⟨equal.symm, rfl⟩)⟩ notKept
      · exact absurd ⟨same, .inr (.inl greater)⟩ notKept

theorem text_order (exponential : Int → List Char) {lower higher : Int} (below : lower < higher)
    (lowerPlain : Plain lower) (higherPlain : Plain higher) (frontFollows : Follows closed front)
    (backFollows : Follows closed back) :
    (OrderKept closed lower higher →
      paddedText exponential (some lower) ++ front < paddedText exponential (some higher) ++ back) ∧
    (¬ OrderKept closed lower higher →
      paddedText exponential (some higher) ++ back < paddedText exponential (some lower) ++ front) := by
  unfold OrderKept
  split
  · rename_i nonneg
    rw [paddedText_nonneg lowerPlain nonneg, paddedText_nonneg higherPlain (by omega)]
    exact text_order_nonneg (by omega) frontFollows backFollows
  · rename_i negative
    have lowerNegative : lower < 0 := by omega
    rw [paddedText_neg lowerPlain lowerNegative]
    split
    · rename_i nonneg
      refine ⟨fun _ => ?_, fun notKept => absurd trivial notKept⟩
      rw [paddedText_nonneg higherPlain nonneg, List.append_assoc, List.cons_append]
      apply sign_lt
      · exact fun character member => (digit_bounds member).1
      · rw [length_fixed]
        omega
    · rename_i bothNegative
      rw [paddedText_neg higherPlain (by omega)]
      exact text_order_neg (by omega) frontFollows backFollows

/-! ### Comparisons -/

/-- How two texts are ordered. -/
def TextOrder (lhs rhs : List Char) : Ordering → Prop
  | .lt => lhs < rhs
  | .eq => lhs = rhs
  | .gt => rhs < lhs

/-- How a component's texts are ordered, the current value's against the given one's. -/
def seenOrder (closed : Bool) (current : Int) : Option Int → Ordering
  | none => .eq
  | some given =>
    if current = given then .eq
    else if current < given then (if OrderKept closed current given then .lt else .gt)
    else if OrderKept closed given current then .gt
    else .lt

theorem textOrder_component {given : Option Int} (currentPlain : given ≠ none → Plain current)
    (givenPlain : ∀ value, given = some value → Plain value) (frontFollows : Follows closed front)
    (backFollows : Follows closed back) (later : TextOrder front back order) :
    TextOrder (paddedText exponential (given.map fun _ => current) ++ front) (paddedText exponential given ++ back)
      ((seenOrder closed current given).then order) := by
  cases given with
  | none => exact later
  | some value =>
    have plain := currentPlain nofun
    have plainValue := givenPlain value rfl
    simp only [seenOrder, Option.map_some]
    rcases lt_trichotomy current value with less | rfl | greater
    · obtain ⟨kept, lost⟩ := text_order exponential less plain plainValue frontFollows backFollows
      rw [if_neg (by omega), if_pos less]
      split
      · exact kept ‹_›
      · exact lost ‹_›
    · rw [if_pos rfl]
      cases order with
      | lt => exact (append_lt_append rfl).mpr (.inr ⟨rfl, later⟩)
      | eq => exact congrArg _ later
      | gt => exact (append_lt_append rfl).mpr (.inr ⟨rfl, later⟩)
    · obtain ⟨kept, lost⟩ := text_order exponential greater plainValue plain backFollows frontFollows
      rw [if_neg (by omega), if_neg (by omega)]
      split
      · exact kept ‹_›
      · exact lost ‹_›

theorem compare_of_textOrder {left right : List (Option Int)} (operator : Comparator)
    (ordered : TextOrder (normalize exponential left) (normalize exponential right) order) :
    compare exponential left operator right = operator.accepts order := by
  have less {lhs rhs : List Char} (below : lhs < rhs) : ¬ rhs < lhs ∧ lhs ≠ rhs :=
    ⟨lt_asymm below, ne_of_lt below⟩
  unfold compare
  cases order with
  | lt =>
    obtain ⟨notMore, differs⟩ := less ordered
    cases operator <;> simp_all [Comparator.accepts, TextOrder]
  | eq =>
    have same : normalize exponential left = normalize exponential right := ordered
    cases operator <;> simp [Comparator.accepts, same]
  | gt =>
    obtain ⟨notLess, differs⟩ := less ordered
    cases operator <;> simp_all [Comparator.accepts, TextOrder, differs.symm]

/-- Comparators that ask for equality alone. -/
def Comparator.equality : Comparator → Bool
  | .eq | .ne => true
  | _ => false

theorem accepts_eq_iff {operator : Comparator} {seen : Ordering} (same : seen = .eq ↔ order = .eq) :
    operator.accepts seen = operator.accepts order ↔ operator.equality = true ∨ seen = order := by
  cases operator <;> cases seen <;> cases order <;> simp_all [Comparator.accepts, Comparator.equality]

/-- Whether the order of a component with its given value is kept in the texts. -/
def Kept (closed : Bool) (current : Int) : Option Int → Prop
  | none => True
  | some given =>
    (current < given → OrderKept closed current given) ∧ (given < current → OrderKept closed given current)

theorem seenOrder_eq_iff (closed : Bool) (current : Int) (given : Option Int) :
    (seenOrder closed current given = componentOrder current given ↔ Kept closed current given) ∧
      (seenOrder closed current given = .eq ↔ componentOrder current given = .eq) := by
  cases given with
  | none => simp [seenOrder, componentOrder, Kept]
  | some value =>
    simp only [seenOrder, componentOrder, Kept]
    rcases lt_trichotomy current value with less | rfl | greater
    · have order : Ord.compare current value = .lt := Std.compare_eq_lt.mpr less
      have notMore : ¬ value < current := by omega
      rw [order, if_neg (by omega), if_pos less]
      by_cases kept : OrderKept closed current value <;> simp [kept, less, notMore]
    · simp
    · have order : Ord.compare current value = .gt := Std.compare_eq_gt.mpr greater
      have notLess : ¬ current < value := by omega
      rw [order, if_neg (by omega), if_neg notLess]
      by_cases kept : OrderKept closed value current <;> simp [kept, greater, notLess]

/-- Whether the order of dates is kept: that of the years where they differ, and else that of the months. -/
def DateKept (currentYear currentMonth : Int) (year month : Option Int) : Prop :=
  if componentOrder currentYear year = .eq then Kept false currentMonth month else Kept true currentYear year

theorem seenDate_eq_iff (currentYear currentMonth : Int) (year month : Option Int) :
    ((seenOrder true currentYear year).then (seenOrder false currentMonth month) =
        (componentOrder currentYear year).then (componentOrder currentMonth month) ↔
      DateKept currentYear currentMonth year month) ∧
    ((seenOrder true currentYear year).then (seenOrder false currentMonth month) = .eq ↔
      (componentOrder currentYear year).then (componentOrder currentMonth month) = .eq) := by
  obtain ⟨years, sameYear⟩ := seenOrder_eq_iff true currentYear year
  obtain ⟨months, sameMonth⟩ := seenOrder_eq_iff false currentMonth month
  simp only [DateKept, ← years, ← months]
  generalize seenOrder true currentYear year = seenYear at sameYear ⊢
  generalize componentOrder currentYear year = orderYear at sameYear ⊢
  generalize seenOrder false currentMonth month = seenMonth at sameMonth ⊢
  generalize componentOrder currentMonth month = orderMonth at sameMonth ⊢
  cases seenYear <;> cases orderYear <;> simp_all

/-- The numbers of a component, if it is given, are written in full. -/
def PlainComponent (current : Int) (given : Option Int) : Prop :=
  ∀ value, given = some value → Plain current ∧ Plain value

theorem compare_date {currentYear currentMonth : Int} {year month : Option Int} (operator : Comparator)
    (yearPlain : PlainComponent currentYear year) (monthPlain : PlainComponent currentMonth month) :
    compare exponential [year.map fun _ => currentYear, month.map fun _ => currentMonth] operator [year, month] =
      operator.accepts ((seenOrder true currentYear year).then (seenOrder false currentMonth month)) := by
  have plain {current : Int} {given : Option Int} (held : PlainComponent current given) :
      (given ≠ none → Plain current) ∧ ∀ value, given = some value → Plain value := by
    refine ⟨fun some_ => ?_, fun value is => (held value is).2⟩
    obtain ⟨value, is⟩ := Option.ne_none_iff_exists'.mp some_
    exact (held value is).1
  apply compare_of_textOrder
  have months : TextOrder (paddedText exponential (month.map fun _ => currentMonth) ++ [])
      (paddedText exponential month ++ []) ((seenOrder false currentMonth month).then .eq) :=
    textOrder_component (plain monthPlain).1 (plain monthPlain).2 follows_nothing follows_nothing rfl
  rw [Ordering.then_eq] at months
  have colon : TextOrder (':' :: (paddedText exponential (month.map fun _ => currentMonth) ++ []))
      (':' :: (paddedText exponential month ++ [])) (seenOrder false currentMonth month) := by
    generalize seenOrder false currentMonth month = order at months ⊢
    cases order with
    | lt => exact List.cons_lt_cons_iff.mpr (.inr ⟨rfl, months⟩)
    | eq => exact congrArg _ months
    | gt => exact List.cons_lt_cons_iff.mpr (.inr ⟨rfl, months⟩)
  exact textOrder_component (plain yearPlain).1 (plain yearPlain).2 (follows_colon _) (follows_colon _) colon

theorem compare_number {given : Int} (operator : Comparator) (plain : Plain current ∧ Plain given) :
    compare exponential [some current] operator [some given] = operator.accepts (seenOrder false current (some given)) := by
  apply compare_of_textOrder
  have one : TextOrder (paddedText exponential (some current) ++ []) (paddedText exponential (some given) ++ [])
      ((seenOrder false current (some given)).then .eq) :=
    textOrder_component (fun _ => plain.1) (fun value is => Option.some.inj is ▸ plain.2) follows_nothing follows_nothing rfl
  rw [Ordering.then_eq] at one
  exact one

/-! ### Conditions -/

/-- Whether a condition is one comparison. -/
def Condition.isComparison : Condition → Bool
  | .date .. | .remainNation .. => true
  | _ => false

/-- The numbers of a comparison are written in full. -/
def Condition.PlainNumbers (environment : MonthlyEventEnvironment) (remainingNationCount : Int) : Condition → Prop
  | .date relative _ year month =>
    PlainComponent (environment.yearFor relative) year ∧ PlainComponent environment.month month
  | .remainNation _ count => Plain remainingNationCount ∧ Plain count
  | _ => True

/-- A comparison asks for equality alone, or for an order that is kept. -/
def Condition.KeptComparison (environment : MonthlyEventEnvironment) (remainingNationCount : Int) : Condition → Prop
  | .date relative operator year month =>
    operator.equality = true ∨ DateKept (environment.yearFor relative) environment.month year month
  | .remainNation operator count => operator.equality = true ∨ Kept false remainingNationCount (some count)
  | _ => True

mutual

/-- Every comparison of a condition has its numbers written in full, and its order kept. -/
def Condition.Aligned (environment : MonthlyEventEnvironment) (remainingNationCount : Int) : Condition → Prop
  | .const _ => True
  | .not operand => operand.Aligned environment remainingNationCount
  | .and operands => AllAligned environment remainingNationCount operands
  | .or operands => AllAligned environment remainingNationCount operands
  | .xor operands => AllAligned environment remainingNationCount operands
  | .date relative operator year month =>
    (Condition.date relative operator year month).PlainNumbers environment remainingNationCount ∧
      (Condition.date relative operator year month).KeptComparison environment remainingNationCount
  | .remainNation operator count =>
    (Condition.remainNation operator count).PlainNumbers environment remainingNationCount ∧
      (Condition.remainNation operator count).KeptComparison environment remainingNationCount

/-- Every comparison of some conditions is aligned. -/
def AllAligned (environment : MonthlyEventEnvironment) (remainingNationCount : Int) : List Condition → Prop
  | [] => True
  | operand :: rest =>
    operand.Aligned environment remainingNationCount ∧ AllAligned environment remainingNationCount rest

end

theorem readNullableInteger_of {value : Json} {read : Option Int} (isRead : nullableInteger? value = some read)
    (label : String) : readNullableInteger (some value) label = .ok read := by
  cases value with
  | null =>
    cases isRead
    rfl
  | num number =>
    simp only [nullableInteger?] at isRead
    split at isRead
    · rename_i whole
      cases isRead
      exact if_pos whole
    · cases isRead
  | bool _ => cases isRead
  | str _ => cases isRead
  | arr _ => cases isRead
  | obj _ => cases isRead

variable {condition : Condition} {operands : List Json}

theorem evaluate_comparison {name : String} (written : comparison? name operands = some condition)
    (plain : condition.PlainNumbers environment remainingNationCount) :
    (if name = "Date" ∨ name = "DateRelative" then evaluateDate exponential environment name operands
      else if name = "RemainNation" then evaluateRemainNation exponential remainingNationCount operands
      else .error s!"Unsupported event condition: {name}") = .ok (condition.holds environment remainingNationCount) ↔
      condition.KeptComparison environment remainingNationCount := by
  match operands with
  | [] => cases written
  | .str text :: rest =>
    obtain ⟨operator, named, written⟩ := Option.bind_eq_some_iff.mp written
    by_cases isDate : name = "Date" ∨ name = "DateRelative"
    · rw [if_pos isDate] at written ⊢
      match rest with
      | [] => cases written
      | [_] => cases written
      | yearValue :: monthValue :: more =>
        obtain ⟨year, yearRead, written⟩ := Option.bind_eq_some_iff.mp written
        obtain ⟨month, monthRead, written⟩ := Option.bind_eq_some_iff.mp written
        split at written
        · cases written
        · rename_i given
          cases written
          have evaluated : evaluateDate exponential environment name (.str text :: yearValue :: monthValue :: more) =
              .ok (compare exponential [year.map fun _ => environment.yearFor (name = "DateRelative"),
                month.map fun _ => environment.month] operator [year, month]) := by
            simp only [evaluateDate, List.getElem?_cons_zero, List.getElem?_cons_succ, Option.bind_some, Json.string?,
              named, readNullableInteger_of yearRead, readNullableInteger_of monthRead, Bind.bind, Except.bind,
              if_neg given, MonthlyEventEnvironment.yearFor, decide_eq_true_eq]
            rfl
          obtain ⟨kept, same⟩ := seenDate_eq_iff (environment.yearFor (name = "DateRelative")) environment.month year month
          rw [evaluated, compare_date operator plain.1 plain.2, Except.ok.injEq, Condition.holds, accepts_eq_iff same, kept]
          rfl
    · rw [if_neg isDate] at written ⊢
      split at written
      · rename_i isCount
        match rest with
        | .num count :: more =>
          cases written
          rw [if_pos isCount]
          have evaluated : evaluateRemainNation exponential remainingNationCount (.str text :: .num count :: more) =
              .ok (compare exponential [some remainingNationCount] operator [some ⌊count⌋]) := by
            simp only [evaluateRemainNation, List.getElem?_cons_zero, List.getElem?_cons_succ, Option.bind_some,
              Json.string?, Json.number?, named]
          obtain ⟨kept, same⟩ := seenOrder_eq_iff false remainingNationCount (some ⌊count⌋)
          rw [evaluated, compare_number operator plain, Except.ok.injEq, Condition.holds]
          exact (accepts_eq_iff same).trans (or_congr Iff.rfl kept)
        | [] => cases written
        | .null :: _ => cases written
        | .bool _ :: _ => cases written
        | .str _ :: _ => cases written
        | .arr _ :: _ => cases written
        | .obj _ :: _ => cases written
      · cases written
  | .null :: _ => cases written
  | .bool _ :: _ => cases written
  | .num _ :: _ => cases written
  | .arr _ :: _ => cases written
  | .obj _ :: _ => cases written

theorem aligned_comparison (comparison : condition.isComparison = true) :
    condition.Aligned environment remainingNationCount ↔
      condition.PlainNumbers environment remainingNationCount ∧
        condition.KeptComparison environment remainingNationCount := by
  cases condition with
  | date => rw [Condition.Aligned]
  | remainNation => rw [Condition.Aligned]
  | const => cases comparison
  | not => cases comparison
  | and => cases comparison
  | or => cases comparison
  | xor => cases comparison

theorem isComparison_of_written {name : String} (written : comparison? name operands = some condition) :
    condition.isComparison = true := by
  match operands with
  | [] => cases written
  | .str _ :: rest =>
    obtain ⟨operator, -, written⟩ := Option.bind_eq_some_iff.mp written
    split at written
    · match rest with
      | [] => cases written
      | [_] => cases written
      | _ :: _ :: _ =>
        obtain ⟨_, -, written⟩ := Option.bind_eq_some_iff.mp written
        obtain ⟨_, -, written⟩ := Option.bind_eq_some_iff.mp written
        split at written
        · cases written
        · cases written
          rfl
    · split at written
      · unfold remainNationCondition? at written
        split at written
        · cases written
          rfl
        · cases written
      · cases written
  | .null :: _ => cases written
  | .bool _ :: _ => cases written
  | .num _ :: _ => cases written
  | .arr _ :: _ => cases written
  | .obj _ :: _ => cases written

mutual

theorem evaluate_aligned (exponential : Int → List Char) : (raw : Json) → (condition : Condition) →
    condition? raw = some condition → condition.Aligned environment remainingNationCount →
    evaluateCondition exponential environment remainingNationCount raw =
      .ok (condition.holds environment remainingNationCount)
  | .bool value, condition, written, _ => by
    rw [condition?] at written
    cases written
    rfl
  | .arr (.str name :: operands), condition, written, aligned => by
    simp only [condition?] at written
    rw [evaluateCondition]
    split at written
    · rename_i named
      simp only [named, if_true]
      match operands with
      | [operand] =>
        obtain ⟨inner, innerWritten, rfl⟩ := Option.map_eq_some_iff.mp written
        rw [Condition.Aligned] at aligned
        rw [evaluateNot, evaluate_aligned exponential operand inner innerWritten aligned]
        rfl
      | [] => cases written
      | _ :: _ :: _ => cases written
    · rename_i named
      obtain ⟨conditions, all, rfl⟩ := Option.map_eq_some_iff.mp written
      rw [Condition.Aligned] at aligned
      simp only [named, String.reduceEq, if_true, if_false]
      exact (evaluate_all_aligned exponential operands conditions all aligned).1
    · rename_i named
      obtain ⟨conditions, all, rfl⟩ := Option.map_eq_some_iff.mp written
      rw [Condition.Aligned] at aligned
      simp only [named, String.reduceEq, if_true, if_false]
      exact (evaluate_all_aligned exponential operands conditions all aligned).2.1
    · rename_i named
      obtain ⟨conditions, all, rfl⟩ := Option.map_eq_some_iff.mp written
      rw [Condition.Aligned] at aligned
      simp only [named, String.reduceEq, if_true, if_false]
      exact ((evaluate_all_aligned exponential operands conditions all aligned).2.2 false).trans (by rw [Bool.false_bne]; rfl)
    · rename_i notNot notAnd notOr notXor
      simp only [if_neg notNot, if_neg notAnd, if_neg notOr, if_neg notXor]
      have comparison := isComparison_of_written written
      obtain ⟨plain, kept⟩ := (aligned_comparison comparison).mp aligned
      exact (evaluate_comparison written plain).mpr kept
  | .null, _, written, _ => by cases written
  | .num _, _, written, _ => by cases written
  | .str _, _, written, _ => by cases written
  | .obj _, _, written, _ => by cases written
  | .arr [], _, written, _ => by cases written
  | .arr (.null :: _), _, written, _ => by cases written
  | .arr (.bool _ :: _), _, written, _ => by cases written
  | .arr (.num _ :: _), _, written, _ => by cases written
  | .arr (.arr _ :: _), _, written, _ => by cases written
  | .arr (.obj _ :: _), _, written, _ => by cases written

theorem evaluate_all_aligned (exponential : Int → List Char) : (operands : List Json) → (conditions : List Condition) →
    conditions? operands = some conditions → AllAligned environment remainingNationCount conditions →
    evaluateEvery exponential environment remainingNationCount operands =
        .ok (allHold environment remainingNationCount conditions) ∧
      evaluateSome exponential environment remainingNationCount operands =
        .ok (someHold environment remainingNationCount conditions) ∧
      ∀ value, evaluateXor exponential environment remainingNationCount value operands =
        .ok (value != oddHold environment remainingNationCount conditions)
  | [], conditions, written, _ => by
    rw [conditions?] at written
    cases written
    exact ⟨rfl, rfl, fun value => by rw [evaluateXor, oddHold, Bool.bne_false]⟩
  | operand :: rest, conditions, written, aligned => by
    rw [conditions?] at written
    obtain ⟨first, firstWritten, written⟩ := Option.bind_eq_some_iff.mp written
    obtain ⟨others, othersWritten, written⟩ := Option.bind_eq_some_iff.mp written
    cases written
    rw [AllAligned] at aligned
    obtain ⟨every, some_, odd⟩ := evaluate_all_aligned exponential rest others othersWritten aligned.2
    have now := evaluate_aligned exponential operand first firstWritten aligned.1
    refine ⟨?_, ?_, fun value => ?_⟩
    · rw [evaluateEvery, now, allHold]
      cases first.holds environment remainingNationCount
      · rfl
      · exact every
    · rw [evaluateSome, now, someHold]
      cases first.holds environment remainingNationCount
      · exact some_
      · rfl
    · rw [evaluateXor, now, oddHold, ← Bool.bne_assoc]
      exact odd _

end

theorem evaluate_single {raw : Json} (written : condition? raw = some condition)
    (comparison : condition.isComparison = true)
    (plain : condition.PlainNumbers environment remainingNationCount) :
    evaluateCondition exponential environment remainingNationCount raw =
        .ok (condition.holds environment remainingNationCount) ↔
      condition.Aligned environment remainingNationCount := by
  have whole : condition.Aligned environment remainingNationCount ↔
      condition.KeptComparison environment remainingNationCount := by
    rw [aligned_comparison comparison]
    exact and_iff_right plain
  match raw with
  | .bool _ =>
    cases written
    cases comparison
  | .arr (.str name :: operands) =>
    simp only [condition?] at written
    rw [evaluateCondition, whole]
    split at written
    · match operands with
      | [operand] =>
        obtain ⟨_, -, rfl⟩ := Option.map_eq_some_iff.mp written
        cases comparison
      | [] => cases written
      | _ :: _ :: _ => cases written
    · obtain ⟨_, -, rfl⟩ := Option.map_eq_some_iff.mp written
      cases comparison
    · obtain ⟨_, -, rfl⟩ := Option.map_eq_some_iff.mp written
      cases comparison
    · obtain ⟨_, -, rfl⟩ := Option.map_eq_some_iff.mp written
      cases comparison
    · rename_i notNot notAnd notOr notXor
      simp only [if_neg notNot, if_neg notAnd, if_neg notOr, if_neg notXor]
      exact evaluate_comparison written plain
  | .null => cases written
  | .num _ => cases written
  | .str _ => cases written
  | .obj _ => cases written
  | .arr [] => cases written
  | .arr (.null :: _) => cases written
  | .arr (.bool _ :: _) => cases written
  | .arr (.num _ :: _) => cases written
  | .arr (.arr _ :: _) => cases written
  | .arr (.obj _ :: _) => cases written

end Sammo.Events
