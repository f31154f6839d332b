import Mathlib.Data.List.Sort
import Sammo.Data.JsonSame

/-! The text of a JSON document, and documents whose members are sorted before they are written. -/

namespace Sammo

/-- A hexadecimal digit. -/
def hexDigit (value : Nat) : Char := Char.ofNat (if value < 10 then 48 + value else 87 + value)

/-- A character inside of a JSON string. -/
def escapedChar (char : Char) : List Char :=
  let backslash := Char.ofNat 92
  -- Quotes, backslashes and control characters are escaped, the common ones by a letter.
  match char.toNat with
  | 34 => [backslash, Char.ofNat 34]
  | 92 => [backslash, backslash]
  | 8 => [backslash, Char.ofNat 98]
  | 9 => [backslash, Char.ofNat 116]
  | 10 => [backslash, Char.ofNat 110]
  | 12 => [backslash, Char.ofNat 102]
  | 13 => [backslash, Char.ofNat 114]
  | code =>
    if code < 32 then
      [backslash, Char.ofNat 117, Char.ofNat 48, Char.ofNat 48, hexDigit (code / 16), hexDigit (code % 16)]
    else [char]

/-- A string as JSON writes it. -/
def quoteJson (text : String) : String :=
  "\"" ++ String.ofList (text.toList.flatMap escapedChar) ++ "\""

section

variable (numberText : ℚ → String)

mutual

/-- The JSON text of a document; how numbers are written is left to the runtime. -/
def stringify : Json → String
  | .null => "null"
  | .bool value => if value then "true" else "false"
  | .num value => numberText value
  | .str text => quoteJson text
  | .arr items => "[" ++ stringifyItems items ++ "]"
  | .obj fields => "\x7b" ++ stringifyMembers fields ++ "\x7d"

/-- The texts of items, with commas in between. -/
def stringifyItems : List Json → String
  | [] => ""
  | [item] => stringify item
  | item :: next :: rest => stringify item ++ "," ++ stringifyItems (next :: rest)

/-- The texts of members, with commas in between. -/
def stringifyMembers : Record → String
  | [] => ""
  | [(key, value)] => quoteJson key ++ ":" ++ stringify value
  | (key, value) :: next :: rest =>
    quoteJson key ++ ":" ++ stringify value ++ "," ++ stringifyMembers (next :: rest)

end

end

section

variable (localeLe : String → String → Bool)

/-- Members in the order of their names. -/
def sortMembers (fields : Record) : Record :=
  fields.insertionSort fun left right => localeLe left.1 right.1 = true

mutual

/-- A document with the members of all its objects in the order of their names. -/
def canonicalize : Json → Json
  | .arr items => .arr (canonicalizeItems items)
  | .obj fields => .obj (sortMembers localeLe (canonicalizeMembers fields))
  | scalar => scalar

/-- The canonical items of an array. -/
def canonicalizeItems : List Json → List Json
  | [] => []
  | item :: rest => canonicalize item :: canonicalizeItems rest

/-- The canonical members of an object, before they are sorted. -/
def canonicalizeMembers : Record → Record
  | [] => []
  | (key, value) :: rest => (key, canonicalize value) :: canonicalizeMembers rest

end

theorem canonicalizeMembers_keys (fields : Record) :
    (canonicalizeMembers localeLe fields).map Prod.fst = fields.map Prod.fst := by
  induction fields with
  | nil => rfl
  | cons field rest ih =>
    rw [canonicalizeMembers, List.map_cons, List.map_cons, ih]

theorem mem_canonicalizeMembers {fields : Record} {field : String × Json}
    (member : field ∈ canonicalizeMembers localeLe fields) :
    ∃ original ∈ fields, field = (original.1, canonicalize localeLe original.2) := by
  induction fields with
  | nil => cases member
  | cons first rest ih =>
    rw [canonicalizeMembers] at member
    rcases List.mem_cons.mp member with here | there
    · exact ⟨first, List.mem_cons_self, here⟩
    · obtain ⟨original, listed, same⟩ := ih there
      exact ⟨original, List.mem_cons_of_mem _ listed, same⟩

theorem mem_canonicalizeItems {items : List Json} {item : Json} (member : item ∈ canonicalizeItems localeLe items) :
    ∃ original ∈ items, item = canonicalize localeLe original := by
  induction items with
  | nil => cases member
  | cons first rest ih =>
    rw [canonicalizeItems] at member
    rcases List.mem_cons.mp member with here | there
    · exact ⟨first, List.mem_cons_self, here⟩
    · obtain ⟨original, listed, same⟩ := ih there
      exact ⟨original, List.mem_cons_of_mem _ listed, same⟩

theorem canonicalizeMembers_get? (fields : Record) (key : String) :
    Record.get? (canonicalizeMembers localeLe fields) key =
      (Record.get? fields key).map (canonicalize localeLe) := by
  induction fields with
  | nil => rfl
  | cons field rest ih =>
    obtain ⟨name, value⟩ := field
    simp only [Record.get?, canonicalizeMembers, List.lookup_cons] at ih ⊢
    split
    · rfl
    · exact ih

theorem Record.get?_perm {left right : Record} (permuted : left.Perm right) (nodup : (left.map Prod.fst).Nodup)
    (key : String) : left.get? key = right.get? key := by
  have other : (right.map Prod.fst).Nodup := (permuted.map Prod.fst).nodup_iff.mp nodup
  cases found : Record.get? left key with
  | none =>
    have absent := (Record.get?_eq_none_iff left key).mp found
    rw [eq_comm, Record.get?_eq_none_iff]
    intro listed
    exact absent ((permuted.map Prod.fst).mem_iff.mpr listed)
  | some value =>
    have member : (key, value) ∈ right := permuted.mem_iff.mp (Record.mem_of_get? found)
    exact (Record.get?_of_mem other member).symm

theorem sortMembers_perm (fields : Record) : (sortMembers localeLe fields).Perm fields :=
  List.perm_insertionSort _ fields

theorem canonicalize_same {document : Json} (distinct : document.Distinct) :
    (canonicalize localeLe document).Same document ∧ (canonicalize localeLe document).Distinct := by
  induction document using Json.induction with
  | arr items ih =>
    cases distinct with
    | arr parts =>
      rw [canonicalize]
      constructor
      · apply Json.Same.arr
        -- The items are made canonical one by one.
        induction items with
        | nil => exact .nil
        | cons item rest later =>
          have tail := later (fun other member => ih other (List.mem_cons_of_mem _ member))
            (fun other member => parts other (List.mem_cons_of_mem _ member))
          exact .cons (ih item List.mem_cons_self (parts item List.mem_cons_self)).1 tail
      · apply Json.Distinct.arr
        intro item member
        obtain ⟨original, listed, rfl⟩ := mem_canonicalizeItems localeLe member
        exact (ih original listed (parts original listed)).2
  | obj fields ih =>
    cases distinct with
    | obj nodup parts =>
      rw [canonicalize]
      have sorted := sortMembers_perm localeLe (canonicalizeMembers localeLe fields)
      have names : ((canonicalizeMembers localeLe fields).map Prod.fst).Nodup := by
        rw [canonicalizeMembers_keys]
        exact nodup
      have sortedNames : ((sortMembers localeLe (canonicalizeMembers localeLe fields)).map Prod.fst).Nodup :=
        (sorted.map Prod.fst).nodup_iff.mpr names
      constructor
      · apply Json.Same.obj
        intro key
        rw [Record.get?_perm sorted sortedNames, canonicalizeMembers_get?]
        cases found : Record.get? fields key with
        | none => exact .none
        | some value =>
          have listed := Record.mem_of_get? found
          exact .some (ih (key, value) listed (parts (key, value) listed)).1
      · apply Json.Distinct.obj sortedNames
        intro field member
        obtain ⟨original, listed, rfl⟩ := mem_canonicalizeMembers localeLe (sorted.mem_iff.mp member)
        exact (ih original listed (parts original listed)).2
  | null => exact ⟨.null, .null⟩
  | bool value => exact ⟨.bool value, .bool value⟩
  | num value => exact ⟨.num value, .num value⟩
  | str value => exact ⟨.str value, .str value⟩

end

end Sammo
