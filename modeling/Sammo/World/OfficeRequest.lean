import Sammo.Data.Json

/-! Requests for a city office, kept in a general's metadata. -/

namespace Sammo

/-- The metadata field of a request. -/
def officeRequestKey : String := "cityOfficeRequest"

/-- What has become of a request. -/
inductive OfficeRequestStatus where
  | pending
  | approved
  | rejected
  | withdrawn
  | cancelled
  deriving DecidableEq

/-- The status a text names. -/
def OfficeRequestStatus.ofText? : String → Option OfficeRequestStatus
  | "pending" => some .pending
  | "approved" => some .approved
  | "rejected" => some .rejected
  | "withdrawn" => some .withdrawn
  | "cancelled" => some .cancelled
  | _ => none

/-- A request that has been read; `fields` are its fields as they will be written back. -/
structure OfficeRequest where
  status : OfficeRequestStatus
  dueTick : Int
  fields : Record

/-- The fields of a request that must be safe integers. -/
def officeRequestIntegers : List String :=
  ["generalId", "nationId", "cityId", "incumbentId", "quarter", "createdTick", "dueTick"]

/-- The fields a request is written back with; any other field is dropped. -/
def officeRequestFields : List String :=
  ["id", "generalId", "userId", "nationId", "cityId", "officerLevel", "incumbentId", "quarter",
    "createdTick", "dueTick", "defaultDecision", "defaultReason", "status"]

/-- A field holds one of some texts. -/
def holdsText (record : Record) (key : String) (texts : List String) : Bool :=
  match (record.get? key).bind Json.string? with
  | some text => text ∈ texts
  | none => false

/-- The office levels of a city. -/
def holdsOfficerLevel (record : Record) : Bool :=
  match (record.get? "officerLevel").bind Json.number? with
  | some level => level = 2 ∨ level = 3 ∨ level = 4
  | none => false

/-- The request in a general's metadata, if every field of it is as it should be. -/
def readOfficeRequest (metadata : Record) : Option OfficeRequest :=
  let value := asRecord ((metadata.get? officeRequestKey).getD .null)
  let wellFormed : Bool :=
    ((value.get? "id").bind Json.string?).isSome ∧ ((value.get? "userId").bind Json.string?).isSome ∧
      officeRequestIntegers.all (fun key => ((value.get? key).bind Json.safeInteger?).isSome) ∧
      holdsOfficerLevel value ∧ holdsText value "defaultDecision" ["approve", "reject"] ∧
      holdsText value "defaultReason" ["vacant", "npc", "absent", "secret"]
  match ((value.get? "status").bind Json.string?).bind OfficeRequestStatus.ofText?,
    (value.get? "dueTick").bind Json.safeInteger? with
  | some status, some dueTick =>
    if wellFormed then
      let known := officeRequestFields.filterMap fun key => (value.get? key).map fun field => (key, field)
      -- A reason is kept only if it is a text.
      let reason := ((value.get? "resultReason").bind Json.string?).map fun text =>
        ("resultReason", Json.str text)
      some ⟨status, dueTick, known ++ reason.toList⟩
    else none
  | _, _ => none

/-- Moves the deadline of a pending request that lies at or after a cut. -/
def shiftOfficeRequestDeadline (metadata : Record) (deltaTicks : Int) (cutTick : Option Int) :
    Except String Record :=
  match readOfficeRequest metadata with
  | none => .ok metadata
  | some request =>
    if request.status ≠ .pending ∨ (∃ cut ∈ cutTick, request.dueTick < cut) ∨ deltaTicks = 0 then .ok metadata
    else if isSafeInteger (request.dueTick + deltaTicks) then
      .ok (metadata.set officeRequestKey
        (.obj (Record.set request.fields "dueTick" (.num (request.dueTick + deltaTicks : Int)))))
    else .error "City office request deadline exceeds the safe game tick range."

end Sammo
