import Mathlib.Data.Rat.Defs

/-! JSON values as the program stores them in its metadata columns, with the readers it uses. -/

namespace Sammo

/-- A JSON value; an object keeps its fields in insertion order. -/
inductive Json where
  | null
  | bool (value : Bool)
  | num (value : ℚ)
  | str (value : String)
  | arr (items : List Json)
  | obj (fields : List (String × Json))

/-- The fields of a JSON object, in order. -/
abbrev Record := List (String × Json)

/-- Reads a value as an object, treating anything else as an empty one. -/
def asRecord : Json → Record
  | .obj fields => fields
  | _ => []

/-- An integer the program's numbers represent exactly. -/
def isSafeInteger (value : Int) : Prop := -9007199254740991 ≤ value ∧ value ≤ 9007199254740991

instance (value : Int) : Decidable (isSafeInteger value) := inferInstanceAs (Decidable (_ ∧ _))

namespace Json

/-- The integer a JSON number denotes, if it is a safe one. -/
def safeInteger? : Json → Option Int
  | .num value => if value.den = 1 ∧ isSafeInteger value.num then some value.num else none
  | _ => none

/-- The number a JSON value is. -/
def number? : Json → Option ℚ
  | .num value => some value
  | _ => none

/-- The string a JSON value denotes. -/
def string? : Json → Option String
  | .str value => some value
  | _ => none

/--
The text the database reads out of a scalar field.

Fractions, arrays and objects have texts too, but none that any caller's pattern accepts.
-/
def text? : Json → Option String
  | .str value => some value
  | .bool value => some (if value then "true" else "false")
  | .num value => if value.den = 1 then some (toString value.num) else none
  | _ => none

end Json

namespace Record

/-- The value of a field, if the record has it. -/
def get? (record : Record) (key : String) : Option Json :=
  record.lookup key

/-- Overwrites a field in its place, or appends it. -/
def set (record : Record) (key : String) (value : Json) : Record :=
  if record.any (fun field => field.1 == key) then
    record.map fun field => if field.1 == key then (key, value) else field
  else record ++ [(key, value)]

theorem get?_set_of_ne {record : Record} {key other : String} (value : Json) (differs : other ≠ key) :
    (record.set key value).get? other = record.get? other := by
  unfold set get?
  split
  · -- The field is overwritten in its place, so the search for another one passes it by.
    clear * - differs
    induction record with
    | nil => rfl
    | cons field rest ih =>
      obtain ⟨name, old⟩ := field
      simp only [beq_iff_eq] at ih
      by_cases named : name = key
      · have passed : (other == key) = false := by simp [differs]
        simp [named, List.lookup_cons, passed, ih]
      · simp [named, List.lookup_cons, ih]
  · -- The field is appended, and the search for another one ends before it.
    rename_i absent
    clear absent
    induction record with
    | nil =>
      have passed : (other == key) = false := by simp [differs]
      simp [List.lookup_cons, passed]
    | cons field rest ih =>
      obtain ⟨name, old⟩ := field
      simp only [List.cons_append, List.lookup_cons, ih]

/-- Lays the fields of one record over another. -/
def merge (record patch : Record) : Record :=
  -- Later fields win, as in an object spread.
  patch.foldl (fun merged field => merged.set field.1 field.2) record

/-- Removes a field. -/
def erase (record : Record) (key : String) : Record :=
  -- A field that is not there is passed over.
  record.filter fun field => field.1 != key

/-- The text of a field as the database reads it. -/
def text? (record : Record) (key : String) : Option String :=
  (record.get? key).bind Json.text?

end Record

/-- The integer a run of decimal digits denotes. -/
def digitsValue? (digits : List Char) : Option Nat :=
  -- At least one digit is required.
  if digits.isEmpty ∨ ¬ digits.all Char.isDigit then none
  else some (digits.foldl (fun total digit => total * 10 + (digit.toNat - 48)) 0)

/-- The integer a text denotes when it is digits with an optional minus sign. -/
def integerText? (text : String) : Option Int :=
  match text.toList with
  | '-' :: digits => (digitsValue? digits).map fun value => -(value : Int)
  | digits => (digitsValue? digits).map fun value => (value : Int)

/-- The identifier a text denotes when it is digits with no leading zero. -/
def identifierText? (text : String) : Option Nat :=
  match text.toList with
  | '0' :: _ => none
  | digits => digitsValue? digits

/-- The digits of a base below seventeen, as a number. -/
def radixValue? (base : Nat) (digits : List Char) : Option ℚ :=
  let value (digit : Char) : Nat :=
    if digit.isDigit then digit.toNat - 48
    else if 'a' ≤ digit ∧ digit ≤ 'f' then digit.toNat - 87
    else if 'A' ≤ digit ∧ digit ≤ 'F' then digit.toNat - 55
    else base
  -- A character outside of the base spoils the whole text.
  if digits.isEmpty ∨ ¬ digits.all (fun digit => value digit < base) then none
  else some (digits.foldl (fun total digit => total * base + value digit) 0 : Nat)

/-- The exponent at the end of a decimal number. -/
def exponent? : List Char → Option Int
  | [] => some 0
  | marker :: rest =>
    if marker = 'e' ∨ marker = 'E' then
      match rest with
      | '-' :: digits => (digitsValue? digits).map fun value => -(value : Int)
      | '+' :: digits => (digitsValue? digits).map fun value => (value : Int)
      | digits => (digitsValue? digits).map fun value => (value : Int)
    else none

/-- The number of an unsigned decimal text: digits around a point, and an exponent. -/
def decimalValue? (text : List Char) : Option ℚ :=
  let (whole, rest) := text.span Char.isDigit
  let (fraction, rest) := match rest with
    | '.' :: more => more.span Char.isDigit
    | _ => ([], rest)
  -- One of the two runs of digits may be empty, not both.
  match digitsValue? (whole ++ fraction), exponent? rest with
  | some digits, some exponent => some (digits * (10 : ℚ) ^ (exponent - fraction.length))
  | _, _ => none

/-- The finite number a text converts to; a blank text converts to zero. -/
def numberText? (text : String) : Option ℚ :=
  match text.trimAscii.toString.toList with
  | [] => some 0
  | '-' :: rest => (decimalValue? rest).map fun value => -value
  | '+' :: rest => decimalValue? rest
  | '0' :: 'x' :: digits => radixValue? 16 digits
  | '0' :: 'X' :: digits => radixValue? 16 digits
  | '0' :: 'o' :: digits => radixValue? 8 digits
  | '0' :: 'O' :: digits => radixValue? 8 digits
  | '0' :: 'b' :: digits => radixValue? 2 digits
  | '0' :: 'B' :: digits => radixValue? 2 digits
  | unsigned => decimalValue? unsigned

/-- The number a metadata field holds, as a number or as a text. -/
def readMetaNumber (record : Record) (key : String) : Option ℚ :=
  match record.get? key with
  | some (.num value) => some value
  | some (.str text) => numberText? text
  | _ => none

/-- The number a metadata value is, or a default. -/
def asNumber (value : Option Json) (default : ℚ) : ℚ :=
  -- Texts are not converted here.
  (value.bind Json.number?).getD default

end Sammo
