import Mathlib.Data.Char
import Mathlib.Data.List.Lex
import Mathlib.Tactic.Linarith

/-! Decimal texts, and how their order as texts compares with the order of the numbers they stand for. -/

namespace Sammo.PaddedText

/-- The last digits of a number, as many as wanted. -/
def fixed : Nat → Nat → List Char
  | 0, _ => []
  | width + 1, number => fixed width (number / 10) ++ [Nat.digitChar (number % 10)]

/-- The texts have the wanted width. -/
@[simp]
theorem length_fixed (width number : Nat) : (fixed width number).length = width := by
  induction width generalizing number with
  | zero => rfl
  | succ width ih => simp [fixed, ih]

variable {front back : List Char} {first second : Nat} {width more : Nat}

theorem append_lt_append {first second : List Char} (sameLength : first.length = second.length) :
    first ++ front < second ++ back ↔ first < second ∨ (first = second ∧ front < back) := by
  induction first generalizing second with
  | nil =>
    have nothing : second = [] := List.length_eq_zero_iff.mp sameLength.symm
    subst nothing
    simp
  | cons head rest ih =>
    cases second with
    | nil => simp at sameLength
    | cons other others =>
      rw [List.length_cons, List.length_cons, Nat.add_right_cancel_iff] at sameLength
      rw [List.cons_append, List.cons_append, List.cons_lt_cons_iff, List.cons_lt_cons_iff, ih sameLength,
        List.cons.injEq]
      constructor
      · rintro (less | ⟨rfl, less | ⟨rfl, last⟩⟩)
        · exact .inl (.inl less)
        · exact .inl (.inr ⟨rfl, less⟩)
        · exact .inr ⟨⟨rfl, rfl⟩, last⟩
      · rintro ((less | ⟨rfl, less⟩) | ⟨⟨rfl, rfl⟩, last⟩)
        · exact .inl less
        · exact .inr ⟨rfl, .inl less⟩
        · exact .inr ⟨rfl, .inr ⟨rfl, last⟩⟩

theorem digitChar_lt (firstDigit : first < 10) (secondDigit : second < 10) :
    Nat.digitChar first < Nat.digitChar second ↔ first < second := by
  have all : ∀ first < 10, ∀ second < 10, Nat.digitChar first < Nat.digitChar second ↔ first < second := by decide
  exact all first firstDigit second secondDigit

theorem fixed_order (width : Nat) (firstFits : first < 10 ^ width) (secondFits : second < 10 ^ width) :
    (fixed width first < fixed width second ↔ first < second) ∧ (fixed width first = fixed width second ↔ first = second) := by
  induction width generalizing first second with
  | zero =>
    rw [pow_zero, Nat.lt_one_iff] at firstFits secondFits
    subst firstFits secondFits
    simp
  | succ width ih =>
    have front {number : Nat} (fits : number < 10 ^ (width + 1)) : number / 10 < 10 ^ width := by
      rw [pow_succ] at fits
      exact Nat.div_lt_of_lt_mul (by rwa [mul_comm])
    obtain ⟨less, same⟩ := ih (front firstFits) (front secondFits)
    have firstDigit := Nat.mod_lt first (by decide : 10 > 0)
    have secondDigit := Nat.mod_lt second (by decide : 10 > 0)
    have last : Nat.digitChar (first % 10) = Nat.digitChar (second % 10) ↔ first % 10 = second % 10 := by
      have all : ∀ first < 10, ∀ second < 10, Nat.digitChar first = Nat.digitChar second ↔ first = second := by decide
      exact all _ firstDigit _ secondDigit
    constructor
    · rw [fixed, fixed, append_lt_append (by simp), less, same, List.cons_lt_cons_iff, digitChar_lt firstDigit secondDigit]
      simp only [List.lt_irrefl, and_false, or_false]
      omega
    · have split : fixed (width + 1) first = fixed (width + 1) second ↔
          fixed width (first / 10) = fixed width (second / 10) ∧
            [Nat.digitChar (first % 10)] = [Nat.digitChar (second % 10)] := by
        constructor
        · intro whole
          exact List.append_inj whole (by simp)
        · rintro ⟨front, back⟩
          rw [fixed, fixed, front, back]
      rw [split, same, List.singleton_inj, last]
      omega

theorem fixed_add (width more number : Nat) :
    fixed (width + more) number = fixed width (number / 10 ^ more) ++ fixed more number := by
  induction more generalizing number with
  | zero => simp [fixed]
  | succ more ih => rw [← Nat.add_assoc, fixed, ih, fixed, List.append_assoc, Nat.div_div_eq_div_mul, pow_succ, mul_comm]

theorem toDigits_eq_fixed (number : Nat) : Nat.toDigits 10 number = fixed (Nat.toDigits 10 number).length number := by
  induction number using Nat.strongRecOn with
  | ind number ih =>
    rcases Nat.lt_or_ge number 10 with small | large
    · rw [Nat.toDigits_of_lt_base small]
      simp [fixed, Nat.mod_eq_of_lt small]
    · have shape := Nat.toDigits_of_base_le (by decide : 1 < 10) large
      rw [shape, List.length_append, List.length_singleton, fixed, ← ih (number / 10) (by omega)]

theorem fixed_lt_append (firstFits : first < 10 ^ width) (secondFits : second < 10 ^ (width + more)) :
    fixed width first ++ front < fixed (width + more) second ++ back ↔
      first < second / 10 ^ more ∨ (first = second / 10 ^ more ∧ front < fixed more second ++ back) := by
  have leading : second / 10 ^ more < 10 ^ width := by
    rw [pow_add] at secondFits
    exact Nat.div_lt_of_lt_mul (by rwa [mul_comm])
  obtain ⟨less, same⟩ := fixed_order width firstFits leading
  rw [fixed_add, List.append_assoc, append_lt_append (by simp), less, same]

theorem append_lt_fixed (firstFits : first < 10 ^ width) (secondFits : second < 10 ^ (width + more)) :
    fixed (width + more) second ++ back < fixed width first ++ front ↔
      second / 10 ^ more < first ∨ (second / 10 ^ more = first ∧ fixed more second ++ back < front) := by
  have leading : second / 10 ^ more < 10 ^ width := by
    rw [pow_add] at secondFits
    exact Nat.div_lt_of_lt_mul (by rwa [mul_comm])
  obtain ⟨less, same⟩ := fixed_order width leading firstFits
  rw [fixed_add, List.append_assoc, append_lt_append (by simp), less, same]

/-- How many digits a number has. -/
def columns (number : Nat) : Nat := (Nat.toDigits 10 number).length

theorem lt_pow_columns (number : Nat) : number < 10 ^ columns number :=
  (Nat.length_toDigits_le_iff (by decide) Nat.length_toDigits_pos).mp le_rfl

theorem columns_mono (below : first ≤ second) : columns first ≤ columns second :=
  (Nat.length_toDigits_le_iff (by decide) Nat.length_toDigits_pos).mpr (Nat.lt_of_le_of_lt below (lt_pow_columns second))

theorem leftpad_toDigits (width number : Nat) :
    List.leftpad width '0' (Nat.toDigits 10 number) = fixed (max width (columns number)) number := by
  have zeros (more : Nat) {width number : Nat} (fits : number < 10 ^ width) :
      fixed (more + width) number = List.replicate more '0' ++ fixed width number := by
    rw [fixed_add, Nat.div_eq_of_lt fits]
    congr 1
    induction more with
    | zero => rfl
    | succ more ih =>
      rw [fixed, Nat.zero_div, ih, List.replicate_succ']
      rfl
  have shape := zeros (width - columns number) (lt_pow_columns number)
  have whole : width - columns number + columns number = max width (columns number) := by omega
  have digits : fixed (columns number) number = Nat.toDigits 10 number := (toDigits_eq_fixed number).symm
  rw [whole, digits] at shape
  exact shape.symm

end Sammo.PaddedText
