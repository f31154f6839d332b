import Sammo.Data.Json

/-! JSON documents, pointers into them, and the patch operations that change them in place. -/

namespace Sammo

namespace Json

/-- No object below a value names a member twice. -/
inductive Distinct : Json → Prop
  | null : Distinct .null
  | bool (value : Bool) : Distinct (.bool value)
  | num (value : ℚ) : Distinct (.num value)
  | str (value : String) : Distinct (.str value)
  | arr {items : List Json} : (∀ item ∈ items, Distinct item) → Distinct (.arr items)
  | obj {fields : Record} : (fields.map Prod.fst).Nodup → (∀ field ∈ fields, Distinct field.2) →
      Distinct (.obj fields)

/-- Two values are the same document: the order of an object's members is no part of it. -/
inductive Same : Json → Json → Prop
  | null : Same .null .null
  | bool (value : Bool) : Same (.bool value) (.bool value)
  | num (value : ℚ) : Same (.num value) (.num value)
  | str (value : String) : Same (.str value) (.str value)
  | arr {left right : List Json} : List.Forall₂ Same left right → Same (.arr left) (.arr right)
  | obj {left right : Record} : (∀ key, Option.Rel Same (left.get? key) (right.get? key)) →
      Same (.obj left) (.obj right)

theorem induction {motive : Json → Prop} (null : motive .null) (bool : ∀ value, motive (.bool value))
    (num : ∀ value, motive (.num value)) (str : ∀ value, motive (.str value))
    (arr : ∀ items, (∀ item ∈ items, motive item) → motive (.arr items))
    (obj : ∀ fields : Record, (∀ field ∈ fields, motive field.2) → motive (.obj fields)) :
    ∀ value, motive value
  | .null => null
  | .bool value => bool value
  | .num value => num value
  | .str value => str value
  | .arr items => arr items fun item _ => induction null bool num str arr obj item
  | .obj fields => obj fields fun field member => by
    -- A member's value is smaller than the list of members that holds it.
    have smaller : sizeOf field < sizeOf fields := List.sizeOf_lt_of_mem member
    have inside : sizeOf field.2 < sizeOf field := by
      obtain ⟨key, value⟩ := field
      simp only [Prod.mk.sizeOf_spec]
      omega
    exact induction null bool num str arr obj field.2

end Json

/-- A JSON document as a parser gives it: no object in it names a member twice. -/
structure JsonDocument where
  value : Json
  distinct : value.Distinct

/-- The index a token names in an array: digits without a leading zero. -/
def arrayIndex? (token : String) : Option Nat :=
  let index := Nat.ofDigitChars 10 token.toList 0
  -- A token that is not the decimal writing of its digits names no item.
  if toString index = token then some index else none

/-- Puts a character before the first of some tokens. -/
def prependChar (char : Char) : List (List Char) → List (List Char)
  | [] => []
  | token :: rest => (char :: token) :: rest

/-- Splits a pointer at its slashes and resolves the escapes in between. -/
def readPointer : List Char → Option (List (List Char))
  | [] => some [[]]
  | '/' :: rest => (readPointer rest).map ([] :: ·)
  | '~' :: '0' :: rest => (readPointer rest).map (prependChar '~')
  | '~' :: '1' :: rest => (readPointer rest).map (prependChar '/')
  | '~' :: _ => none
  | char :: rest => (readPointer rest).map (prependChar char)

/-- The reference tokens of a pointer, which is empty or starts with a slash. -/
def pointerTokens? (path : String) : Option (List String) :=
  match readPointer path.toList with
  | some ([] :: tokens) => some (tokens.map String.ofList)
  | _ => none

namespace Json

/-- The member or item a token names. -/
def child? (document : Json) (token : String) : Option Json :=
  match document with
  | .obj fields => Record.get? fields token
  | .arr items => (arrayIndex? token).bind (items[·]?)
  | _ => none

/-- Replaces the member or item a token names. -/
def setChild (document : Json) (token : String) (value : Json) : Json :=
  match document with
  | .obj fields => .obj (Record.set fields token value)
  | .arr items => .arr (match arrayIndex? token with
    | some index => items.set index value
    | none => items)
  | scalar => scalar

/-- Changes the value at a location of a document. -/
def focus (change : Json → Option Json) : List String → Json → Option Json
  | [], document => change document
  | token :: rest, document => do
    let child ← document.child? token
    let changed ← focus change rest child
    some (document.setChild token changed)

/-- Adds a member, or inserts an item before the one a token names. -/
def addChild (token : String) (value : Json) : Json → Option Json
  | .obj fields => some (.obj (Record.set fields token value))
  | .arr items =>
    -- The token that is no index stands for the place behind the last item.
    if token = "-" then some (.arr (items ++ [value]))
    else do
      let index ← arrayIndex? token
      if index ≤ items.length then some (.arr (items.insertIdx index value)) else none
  | _ => none

/-- Removes the member or item a token names. -/
def removeChild (token : String) : Json → Option Json
  | .obj fields => if (Record.get? fields token).isSome then some (.obj (Record.erase fields token)) else none
  | .arr items => do
    let index ← arrayIndex? token
    if index < items.length then some (.arr (items.eraseIdx index)) else none
  | _ => none

end Json

/-- The kinds of operation the patch format has. -/
inductive JsonPatchOp where
  | add
  | remove
  | replace
  | move
  | copy
  | test
  deriving DecidableEq

/-- One operation of a patch as it is sent. -/
structure JsonPatchOperation where
  op : JsonPatchOp
  path : String
  fromPath : Option String
  value : Option Json

/-- What a change does to the value at its location. -/
inductive JsonChange where
  | add (token : String) (value : Json)
  | remove (token : String)
  | replace (value : Json)

/-- A change together with the location of the value it changes. -/
structure JsonEdit where
  location : List String
  change : JsonChange

/-- Carries out a change on the value it concerns. -/
def JsonChange.apply : JsonChange → Json → Option Json
  | .add token value => Json.addChild token value
  | .remove token => Json.removeChild token
  | .replace value => fun _ => some value

/-- Carries out an edit on a document. -/
def JsonEdit.apply (edit : JsonEdit) : Json → Option Json :=
  Json.focus edit.change.apply edit.location

/-- An edit of a part is an edit of the whole, one token further down. -/
def JsonEdit.under (token : String) (edit : JsonEdit) : JsonEdit :=
  { edit with location := token :: edit.location }

/--
The edit that an operation stands for.

Adding and removing concern the container that the last token is in.
The whole document can be replaced, and no edit is given for moves, copies and tests.
-/
def JsonPatchOperation.edit? (operation : JsonPatchOperation) : Option JsonEdit := do
  let tokens ← pointerTokens? operation.path
  match operation.op, operation.value, tokens.getLast? with
  | .add, some value, some last => some ⟨tokens.dropLast, .add last value⟩
  | .add, some value, none => some ⟨[], .replace value⟩
  | .remove, _, some last => some ⟨tokens.dropLast, .remove last⟩
  | .replace, some value, _ => some ⟨tokens, .replace value⟩
  | _, _, _ => none

/-- Carries out edits one after another, each on what the earlier ones left. -/
def applyEdits (edits : List JsonEdit) (document : Json) : Option Json :=
  edits.foldlM (fun current edit => edit.apply current) document

/-- The document after a patch of additions, removals and replacements. -/
def applyOperations (operations : List JsonPatchOperation) (document : Json) : Option Json := do
  applyEdits (← operations.mapM JsonPatchOperation.edit?) document

end Sammo
