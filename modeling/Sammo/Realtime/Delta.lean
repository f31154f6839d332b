import Sammo.Data.JsonPatch

/-! Read-model deltas: the patch between two documents and its application by a subscriber. -/

namespace Sammo

/-- Replaces every occurrence of a character in a text. -/
def replaceAll (text : String) (char : Char) (replacement : String) : String :=
  String.ofList (text.toList.flatMap fun found => if found = char then replacement.toList else [found])

/-- Writes a token so that no slash in it ends it. -/
def escapeJsonPointerToken (token : String) : String :=
  replaceAll (replaceAll token '~' "~0") '/' "~1"

/-- The pointer one token further down. -/
def appendJsonPointer (path token : String) : String := path ++ "/" ++ escapeJsonPointerToken token

/--
Whether two values are identical.

Containers are compared by reference, and two of them are never the same one here.
Where they are, the difference below them is empty anyway.
-/
def objectIs : Json → Json → Bool
  | .null, .null => true
  | .bool left, .bool right => left == right
  | .num left, .num right => left == right
  | .str left, .str right => left == right
  | _, _ => false

/-- An operation that adds a value. -/
def addOperation (path : String) (value : Json) : JsonPatchOperation := ⟨.add, path, none, some value⟩

/-- An operation that removes what is at a path. -/
def removeOperation (path : String) : JsonPatchOperation := ⟨.remove, path, none, none⟩

/-- An operation that replaces what is at a path. -/
def replaceOperation (path : String) (value : Json) : JsonPatchOperation :=
  ⟨.replace, path, none, some value⟩

/-- Removes the items of an array behind a length, the last one first. -/
def removeTail (currentLength nextLength : Nat) (path : String) : List JsonPatchOperation :=
  ((List.range (currentLength - nextLength)).map fun offset => nextLength + offset).reverse.map fun index =>
    removeOperation (appendJsonPointer path (toString index))

/-- Removes the members that the next object no longer has. -/
def removeMissing (current next : Record) (path : String) : List JsonPatchOperation :=
  (current.map Prod.fst).filter (fun key => ¬ (next.map Prod.fst).contains key) |>.map fun key =>
    removeOperation (appendJsonPointer path key)

mutual

/-- The operations that turn one value into another, in one pass over the positions of arrays. -/
def appendLinearJsonDiff (current next : Json) (path : String) : List JsonPatchOperation :=
  if objectIs current next then []
  else
    match current, next with
    | .arr current, .arr next =>
      diffShared current next path 0 ++ removeTail current.length next.length path ++
        (next.drop current.length).map fun item => addOperation (appendJsonPointer path "-") item
    | .obj current, .obj next => removeMissing current next path ++ diffMembers current next path
    | _, next => [replaceOperation path next]

/-- The operations for the positions that both arrays have. -/
def diffShared (current next : List Json) (path : String) (index : Nat) : List JsonPatchOperation :=
  match current, next with
  | item :: current, nextItem :: next =>
    appendLinearJsonDiff item nextItem (appendJsonPointer path (toString index)) ++
      diffShared current next path (index + 1)
  | _, _ => []

/-- The operations for the members of the next object. -/
def diffMembers (current next : Record) (path : String) : List JsonPatchOperation :=
  match next with
  | [] => []
  | (key, value) :: next =>
    (match current.get? key with
      | none => [addOperation (appendJsonPointer path key) value]
      | some old => appendLinearJsonDiff old value (appendJsonPointer path key)) ++
      diffMembers current next path

end

/-- The patch from one document to the next. -/
def createJsonPatch (current next : Json) : List JsonPatchOperation := appendLinearJsonDiff current next ""

/-- What the server sends about a read model. -/
inductive ReadModelDelta where
  | snapshot (revision : String) (sourceRevision : Option String) (data : Json)
  | unchanged (revision : String) (sourceRevision : Option String)
  | patch (baseRevision revision : String) (sourceRevision : Option String)
      (operations : List JsonPatchOperation)

/-- Why a delta could not be applied. -/
inductive ReadModelDeltaError where
  | mismatch (message : String)
  | apply (message : String)
  deriving DecidableEq

/-- A read model after a delta. -/
structure AppliedReadModelDelta where
  data : Json
  revision : String
  sourceRevision : Option String

/-- A copy of a document: writing it as JSON and parsing it again gives the same document. -/
def cloneReadModelJson (value : Json) : Json := value

/-- Patches a document in place and reports one error or none for each operation; it may also throw. -/
abbrev ApplyPatch := Json → List JsonPatchOperation → Except String (Json × List (Option String))

/-- Applies a delta to the read model a subscriber has. -/
def applyReadModelDelta (applyPatch : ApplyPatch) (current : Option Json) (currentRevision : Option String)
    (delta : ReadModelDelta) : Except ReadModelDeltaError AppliedReadModelDelta :=
  -- An empty source revision is left out like a missing one.
  let shown (sourceRevision : Option String) := sourceRevision.filter (· ≠ "")
  match delta with
  | .snapshot revision sourceRevision data => .ok ⟨data, revision, shown sourceRevision⟩
  | .unchanged revision sourceRevision =>
    match current, currentRevision with
    | some current, some currentRevision =>
      if currentRevision ≠ revision then
        .error (.mismatch s!"Unchanged revision mismatch: have {currentRevision}, received {revision}.")
      else .ok ⟨current, currentRevision, shown sourceRevision⟩
    | _, _ => .error (.mismatch "A delta cannot be applied before the initial snapshot.")
  | .patch baseRevision revision sourceRevision operations =>
    match current, currentRevision with
    | some current, some currentRevision =>
      if currentRevision ≠ baseRevision then
        .error (.mismatch s!"Patch base revision mismatch: have {currentRevision}, expected {baseRevision}.")
      else
        match applyPatch (cloneReadModelJson current) operations with
        | .error _ => .error (.apply "JSON Patch application failed.")
        | .ok (next, errors) =>
          match errors.find? Option.isSome with
          | some (some failure) => .error (.apply s!"JSON Patch application failed: {failure}")
          | _ => .ok ⟨next, revision, shown sourceRevision⟩
    | _, _ => .error (.mismatch "A delta cannot be applied before the initial snapshot.")

end Sammo
