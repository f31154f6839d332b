import Mathlib.Algebra.GroupWithZero.Nat
import Mathlib.Data.List.Basic

/-! Codes whose words tell their own end, and what that says of words joined by a separator. -/

namespace PrefixCode

variable {α χ : Type*} {code : α → List χ} {valid : α → Prop}

/-- A word of the code can be told from whatever follows it. -/
def SelfDelimiting (code : α → List χ) (valid : α → Prop) : Prop :=
  ∀ ⦃first second : α⦄ ⦃after behind : List χ⦄, valid first → valid second →
    code first ++ after = code second ++ behind → first = second ∧ after = behind

theorem append_cons_inj {sign : χ} {first second after behind : List χ} (plain : sign ∉ first) (clean : sign ∉ second)
    (same : first ++ sign :: after = second ++ sign :: behind) : first = second ∧ after = behind := by
  induction first generalizing second with
  | nil =>
    cases second with
    | nil => exact ⟨rfl, (List.cons.inj same).2⟩
    | cons letter rest => exact absurd ((List.cons.inj same).1 ▸ List.mem_cons_self) clean
  | cons letter rest ih =>
    cases second with
    | nil => exact absurd ((List.cons.inj same).1 ▸ List.mem_cons_self) plain
    | cons other others =>
      obtain ⟨rfl, tail⟩ := List.cons.inj same
      obtain ⟨rfl, rests⟩ := ih (fun member => plain (List.mem_cons_of_mem _ member))
        (fun member => clean (List.mem_cons_of_mem _ member)) tail
      exact ⟨rfl, rests⟩

theorem append_inj_of_width {width : χ → Nat} (positive : ∀ sign, 0 < width sign) {first second after behind : List χ}
    (wide : (first.map width).sum = (second.map width).sum) (same : first ++ after = second ++ behind) :
    first = second ∧ after = behind := by
  induction first generalizing second with
  | nil =>
    cases second with
    | nil => exact ⟨rfl, same⟩
    | cons letter rest =>
      have some := positive letter
      simp only [List.map_nil, List.sum_nil, List.map_cons, List.sum_cons] at wide
      omega
  | cons letter rest ih =>
    cases second with
    | nil =>
      have some := positive letter
      simp only [List.map_nil, List.sum_nil, List.map_cons, List.sum_cons] at wide
      omega
    | cons other others =>
      obtain ⟨rfl, tail⟩ := List.cons.inj same
      obtain ⟨rfl, rests⟩ := ih (by simpa using wide) tail
      exact ⟨rfl, rests⟩

theorem intercalate_cons (separator : χ) (word : List χ) (words : List (List χ)) :
    [separator].intercalate (word :: words) = word ++ words.flatMap (separator :: ·) := by
  induction words generalizing word with
  | nil => simp
  | cons next rest ih => simp [List.intercalate_cons_cons, ih]

theorem SelfDelimiting.join_injective (delimits : SelfDelimiting code valid) (some : ∀ item, code item ≠ [])
    (separator : χ) {first second : List α} (firstValid : ∀ item ∈ first, valid item)
    (secondValid : ∀ item ∈ second, valid item)
    (same : [separator].intercalate (first.map code) = [separator].intercalate (second.map code)) : first = second := by
  have rests : ∀ first second : List α, (∀ item ∈ first, valid item) → (∀ item ∈ second, valid item) →
      (first.map code).flatMap (separator :: ·) = (second.map code).flatMap (separator :: ·) → first = second := by
    intro first
    induction first with
    | nil =>
      intro second _ _ same
      cases second with
      | nil => rfl
      | cons item rest => cases same
    | cons item rest ih =>
      intro second firstValid secondValid same
      cases second with
      | nil => cases same
      | cons other others =>
        obtain ⟨rfl, tail⟩ := delimits (firstValid _ List.mem_cons_self) (secondValid _ List.mem_cons_self)
          (List.cons.inj same).2
        rw [ih others (fun item member => firstValid item (List.mem_cons_of_mem _ member))
          (fun item member => secondValid item (List.mem_cons_of_mem _ member)) tail]
  -- The first words come before any separator, and none of them is empty.
  cases first with
  | nil =>
    cases second with
    | nil => rfl
    | cons item rest =>
      rw [List.map_cons, intercalate_cons] at same
      exact absurd (List.append_eq_nil_iff.mp same.symm).1 (some item)
  | cons item rest =>
    cases second with
    | nil =>
      rw [List.map_cons, intercalate_cons] at same
      exact absurd (List.append_eq_nil_iff.mp same).1 (some item)
    | cons other others =>
      rw [List.map_cons, List.map_cons, intercalate_cons, intercalate_cons] at same
      obtain ⟨rfl, tail⟩ := delimits (firstValid _ List.mem_cons_self) (secondValid _ List.mem_cons_self) same
      rw [rests rest others (fun item member => firstValid item (List.mem_cons_of_mem _ member))
        (fun item member => secondValid item (List.mem_cons_of_mem _ member)) tail]

end PrefixCode
