import Mathlib
import Sammo.Lib.PrefixCode
import Sammo.Selection.WorldRow

/-! The texts that generators are seeded with name their parts unambiguously. -/

namespace Sammo

/-- The seed of some parts as the lottery of unique items writes it. -/
def serializeSeed (values : List SeedPart) : String :=
  "|".intercalate (values.map fun
    | .text value => "str(" ++ toString (textLength value) ++ "," ++ value ++ ")"
    | .number value => "int(" ++ toString ⌊value⌋ ++ ")")

/-- A part that is a text or an integer. -/
def SeedPart.Whole : SeedPart → Prop
  | .text _ => True
  | .number value => value.den = 1

theorem digits_plain {number : Nat} {sign : Char} (apart : sign.isDigit = false) : sign ∉ (toString number).toList := by
  intro member
  have digits : (toString number).toList = Nat.toDigits 10 number := by
    change (Nat.repr number).toList = _
    simp [Nat.repr]
  rw [digits] at member
  exact absurd (Nat.isDigit_of_mem_toDigits (by decide) (by decide) member) (by simp [apart])

theorem integer_plain (number : Int) : ')' ∉ (toString number).toList := by
  cases number with
  | ofNat value =>
    have plain : ')' ∉ (toString value).toList := digits_plain (by decide)
    exact plain
  | negSucc value =>
    have text : (toString (Int.negSucc value)).toList = '-' :: (toString (value + 1)).toList := by
      change ("-" ++ Nat.repr (value + 1)).toList = _
      rw [String.toList_append]
      rfl
    rw [text, List.mem_cons]
    exact not_or.mpr ⟨by decide, digits_plain (by decide)⟩

theorem toList_text (value : String) : (SeedPart.text value).serialize.toList =
    's' :: 't' :: 'r' :: '(' :: ((toString (textLength value)).toList ++ ',' :: (value.toList ++ [')'])) := by
  simp only [SeedPart.serialize, String.toList_append, List.append_assoc]
  rfl

theorem toList_number {value : ℚ} (whole : value.den = 1) :
    (SeedPart.number value).serialize.toList = 'i' :: 'n' :: 't' :: '(' :: ((toString value.num).toList ++ [')']) := by
  simp only [SeedPart.serialize, if_pos whole, String.toList_append, List.append_assoc]
  rfl

theorem serialize_selfDelimiting :
    PrefixCode.SelfDelimiting (fun part : SeedPart => part.serialize.toList) SeedPart.Whole := by
  intro first second after behind firstWhole secondWhole same
  cases first with
  | text value =>
    cases second with
    | text other =>
      simp only [toList_text, List.cons_append, List.append_assoc, List.cons.injEq, true_and] at same
      obtain ⟨lengths, texts⟩ := PrefixCode.append_cons_inj (digits_plain (by decide)) (digits_plain (by decide)) same
      -- The lengths are the same, and every sign has a width.
      have wide : textLength value = textLength other := Nat.repr_injective (String.toList_inj.mp lengths)
      obtain ⟨characters, rests⟩ := PrefixCode.append_inj_of_width (fun character => by split <;> decide) wide texts
      obtain rfl := String.toList_inj.mp characters
      exact ⟨rfl, (List.cons.inj rests).2⟩
    | number other =>
      simp only [toList_text, toList_number secondWhole, List.cons_append, List.cons.injEq] at same
      exact absurd same.1 (by decide)
  | number value =>
    cases second with
    | text other =>
      simp only [toList_text, toList_number firstWhole, List.cons_append, List.cons.injEq] at same
      exact absurd same.1 (by decide)
    | number other =>
      simp only [toList_number firstWhole, toList_number secondWhole, List.cons_append, List.append_assoc,
        List.cons.injEq, true_and] at same
      obtain ⟨texts, rests⟩ := PrefixCode.append_cons_inj (integer_plain _) (integer_plain _) same
      have numerators : value.num = other.num := Int.repr_injective (String.toList_inj.mp texts)
      exact ⟨congrArg SeedPart.number (Rat.ext numerators (firstWhole.trans secondWhole.symm)), rests⟩

/-- Different parts give different seeds, and the lottery writes the same seed. -/
theorem simpleSerialize_injective {first second : List SeedPart} (firstWhole : ∀ part ∈ first, part.Whole)
    (secondWhole : ∀ part ∈ second, part.Whole) :
    (simpleSerialize first = simpleSerialize second → first = second) ∧
      simpleSerialize first = serializeSeed first := by
  constructor
  · intro same
    have signs := congrArg String.toList same
    simp only [simpleSerialize, String.toList_intercalate, List.map_map] at signs
    refine serialize_selfDelimiting.join_injective (fun part empty => ?_) '|' firstWhole secondWhole signs
    cases part with
    | text value => rw [toList_text] at empty; cases empty
    | number value =>
      simp only [SeedPart.serialize] at empty
      split at empty <;> simp at empty
  · unfold simpleSerialize serializeSeed
    congr 1
    refine List.map_congr_left fun part member => ?_
    cases part with
    | text value => rfl
    | number value =>
      have whole : value.den = 1 := firstWhole _ member
      have floor : ⌊value⌋ = value.num := calc
        ⌊value⌋ = ⌊(value.num : ℚ)⌋ := by rw [(Rat.den_eq_one_iff value).mp whole]
        _ = value.num := Int.floor_intCast _
      simp only [SeedPart.serialize, if_pos whole, floor]

/-- A text with all the separators in it, beside the two texts it might be taken for. -/
theorem simpleSerialize_injective_separators :
    (simpleSerialize [.text "a)|str(1,b"] = simpleSerialize [.text "a", .text "b"] →
        [SeedPart.text "a)|str(1,b"] = [.text "a", .text "b"]) ∧
      simpleSerialize [.text "a)|str(1,b"] = serializeSeed [.text "a)|str(1,b"] :=
  simpleSerialize_injective (by simp [SeedPart.Whole]) (by simp [SeedPart.Whole])

end Sammo
