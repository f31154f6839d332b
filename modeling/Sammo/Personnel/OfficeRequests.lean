import Mathlib.Algebra.Order.Field.Rat
import Mathlib.Data.Rat.Floor
import Sammo.Lib.OrderedMap
import Sammo.Lib.StateMachine
import Sammo.Time.GameClock
import Sammo.World.InMemoryWorld
import Sammo.World.OfficeRequest

/-! Requests of generals for the offices of a city, and how they are decided. -/

namespace Sammo.Personnel

/-! ### Values of metadata -/

/-- The number a value converts to, unless it is not a finite one. -/
def toNumber? : Json → Option ℚ
  | .null => some 0
  | .bool value => some (if value then 1 else 0)
  | .num value => some value
  | .str text => numberText? text
  -- A list converts through its text, in which the items are parted by commas.
  | .arr [] => some 0
  | .arr [.null] => some 0
  | .arr [.bool _] => none
  | .arr [item] => toNumber? item
  | .arr _ => none
  | .obj _ => none

/-- Whether a value counts as true. -/
def Truthy : Option Json → Prop
  | none => False
  | some .null => False
  | some (.bool value) => value = true
  | some (.num value) => value ≠ 0
  | some (.str text) => text ≠ ""
  | some _ => True

instance (value : Option Json) : Decidable (Truthy value) := by
  unfold Truthy
  split <;> infer_instance

/-- The first of two values that is there. -/
def coalesce (value fallback : Option Json) : Option Json :=
  -- A null is as good as missing.
  match value with
  | none => fallback
  | some .null => fallback
  | some value => some value

/-- The number a value is or converts to, if it is a number or a text. -/
def numberOr (value : Option Json) (fallback : ℚ) : ℚ :=
  match value with
  | some (.num number) => number
  | some (.str text) => (numberText? text).getD fallback
  | _ => fallback

/-- The thirty-two bits of a number, as the bitwise operators take it. -/
def int32Bits (value : Option ℚ) : BitVec 32 :=
  -- A fraction is cut off towards zero, and what is no number has no bits.
  match value with
  | none => 0
  | some value => BitVec.ofInt 32 (value.num.tdiv value.den)

/-! ### Requests -/

/-- An office of a city. -/
inductive CityOfficeLevel where
  | aide
  | strategist
  | governor
  deriving DecidableEq

/-- The officer level of an office. -/
def CityOfficeLevel.number : CityOfficeLevel → Nat
  | .aide => 2
  | .strategist => 3
  | .governor => 4

/-- The title of an office. -/
def CityOfficeLevel.title : CityOfficeLevel → String
  | .aide => "종사"
  | .strategist => "군사"
  | .governor => "태수"

/-- What happens to a request that nobody decides. -/
inductive DefaultDecision where
  | approve
  | reject
  deriving DecidableEq

/-- Why it happens. -/
inductive DefaultReason where
  | vacant
  | npc
  | absent
  | secret
  deriving DecidableEq

/-- A request as it is read from a general's metadata, every field of its type. -/
structure OfficeRequest where
  id : String
  generalId : Int
  userId : String
  nationId : Int
  cityId : Int
  officerLevel : CityOfficeLevel
  incumbentId : Int
  quarter : Int
  createdTick : Int
  dueTick : Int
  defaultDecision : DefaultDecision
  defaultReason : DefaultReason
  status : OfficeRequestStatus
  resultReason : Option String
  deriving DecidableEq

/-- The quarter of a month. -/
def officeRequestQuarter (year month : Int) : Int := year * 4 + (month - 1) / 3

/-- Moves the deadline of a pending request that lies at or after a cut. -/
def OfficeRequest.shiftDeadline (request : OfficeRequest) (deltaTicks : Int) (cutTick : Option Int) : OfficeRequest :=
  if request.status ≠ .pending ∨ (∃ cut ∈ cutTick, request.dueTick < cut) then request
  else { request with dueTick := request.dueTick + deltaTicks }

/--
The field of a general's metadata that holds the request.

What has been written to it is remembered next to what it holds, for statements about the past; the program keeps
only the latest request.
-/
structure RequestField where
  current : Option OfficeRequest
  written : List OfficeRequest

/-- A field that was never written. -/
def RequestField.empty : RequestField := ⟨none, []⟩

/-- Writes a request to the field. -/
def RequestField.write (field : RequestField) (request : OfficeRequest) : RequestField :=
  ⟨some request, field.written ++ [request]⟩

/-- Moves the deadline of the request in the field. -/
def RequestField.shiftDeadline (field : RequestField) (deltaTicks : Int) (cutTick : Option Int) : RequestField :=
  { field with current := field.current.map fun request => request.shiftDeadline deltaTicks cutTick }

/-! ### The world -/

/-- A general, with the rest of the metadata beside the field of the request. -/
structure General where
  name : String
  userId : Option String
  nationId : Int
  cityId : Int
  officerLevel : ℚ
  npcState : ℚ
  strength : ℚ
  intelligence : ℚ
  penalty : Json
  metadata : Record
  officeRequest : RequestField

/-- A city. -/
structure City where
  name : String
  nationId : Int
  metadata : Record

/-- The world, as far as the offices of cities are concerned; an entity's id is its key. -/
structure OfficeWorld where
  generals : OrderedMap Int General
  cities : OrderedMap Int City
  /-- The nations with their metadata. -/
  nations : OrderedMap Int Record
  currentYear : Int
  currentMonth : Int
  /-- The tick of the last month's boundary, where one is stored. -/
  lastTurnTick : Option Int
  /-- The tick of the instant of the last month's boundary. -/
  lastTurnTimeTick : Int
  chiefStatMin : ℚ
  logs : List LogEntryDraft

/-- The city in which a general holds an office of a city. -/
def General.officerCity (general : General) : Option ℚ :=
  toNumber? ((coalesce (general.metadata.get? "officerCity") (general.metadata.get? "officer_city")).getD (.num 0))

/-- A general holds an office of a city. -/
def General.HoldsOffice (general : General) (cityId : Int) (level : CityOfficeLevel) : Prop :=
  general.officerLevel = level.number ∧ general.officerCity = some (cityId : ℚ)

instance (general : General) (cityId : Int) (level : CityOfficeLevel) :
    Decidable (general.HoldsOffice cityId level) :=
  inferInstanceAs (Decidable (_ ∧ _))

namespace OfficeWorld

/-- The quarter of the current month. -/
def quarter (world : OfficeWorld) : Int := officeRequestQuarter world.currentYear world.currentMonth

/-- The boundary at which the current month began. -/
def boundary (world : OfficeWorld) : Int := world.lastTurnTick.getD world.lastTurnTimeTick

/-- Patches a general. -/
def updateGeneral (world : OfficeWorld) (id : Int) (patch : General → General) : OfficeWorld :=
  { world with generals := world.generals.alter id patch }

/-- Patches a city. -/
def updateCity (world : OfficeWorld) (id : Int) (patch : City → City) : OfficeWorld :=
  { world with cities := world.cities.alter id patch }

/-- Collects log lines. -/
def pushLogs (world : OfficeWorld) (entries : List LogEntryDraft) : OfficeWorld :=
  { world with logs := world.logs ++ entries }

end OfficeWorld

/-! ### Eligibility -/

/-- Whether a request may be made, and what will become of it if nobody decides. -/
structure OfficeRequestEligibility where
  reason : Option String
  defaultDecision : DefaultDecision
  defaultReason : DefaultReason

/-- A request may be made where nothing speaks against it. -/
def OfficeRequestEligibility.Allowed (eligibility : OfficeRequestEligibility) : Prop := eligibility.reason = none

instance (eligibility : OfficeRequestEligibility) : Decidable eligibility.Allowed :=
  inferInstanceAs (Decidable (_ = _))

/-- A holder without an owner whom a request may replace. -/
def General.IsReplaceable (general : General) : Prop :=
  (general.userId = none ∨ general.userId = some "") ∧ (general.npcState = 2 ∨ general.npcState = 3)

instance (general : General) : Decidable general.IsReplaceable := inferInstanceAs (Decidable (_ ∧ _))

/-- Whether an office was already given away in this quarter. -/
def City.OfficeSet (city : City) (level : CityOfficeLevel) : Prop :=
  int32Bits (toNumber? ((coalesce (city.metadata.get? "officer_set") none).getD (.num 0))) &&&
    (1#32 <<< level.number) ≠ 0

instance (city : City) (level : CityOfficeLevel) : Decidable (city.OfficeSet level) :=
  inferInstanceAs (Decidable (_ ≠ _))

/-- Judges an applicant for an office of a city. -/
def resolveOfficeRequestEligibility (applicantId : Int) (applicant : General) (city : Option (Int × City))
    (level : CityOfficeLevel) (incumbent : Option (Int × General)) (nationMeta : Record) (chiefStatMin : ℚ) :
    OfficeRequestEligibility :=
  let secret := numberOr (applicant.metadata.get? "belong") 0 <
    numberOr (coalesce (nationMeta.get? "secretlimit") (nationMeta.get? "secretLimit")) 3
  let replaceNpc := ∃ holder ∈ incumbent, holder.2.IsReplaceable
  let defaultReason := if secret then .secret else if incumbent = none then .vacant
    else if replaceNpc then .npc else .absent
  let defaultDecision := if defaultReason = .vacant ∨ defaultReason = .npc then .approve else .reject
  let reason := match city with
    | none => some "체류 중인 아국 도시에서만 자원할 수 있습니다."
    | some (cityId, city) =>
      if applicant.nationId = 0 ∨ city.nationId ≠ applicant.nationId ∨ cityId ≠ applicant.cityId then
        some "체류 중인 아국 도시에서만 자원할 수 있습니다."
      else if applicant.officerLevel < 1 ∨ 5 ≤ applicant.officerLevel ∨ 2 ≤ applicant.npcState then
        some "일반·도시 관직 장수만 자원할 수 있습니다."
      else if Truthy ((asRecord applicant.penalty).get? "noChief") then some "관직을 맡을 수 없는 상태입니다."
      else if city.OfficeSet level then some "이번 분기 임명 완료"
      else if level = .governor ∧ applicant.strength < chiefStatMin then some "무력 부족"
      else if level = .strategist ∧ applicant.intelligence < chiefStatMin then some "지력 부족"
      else if incumbent.map Prod.fst = some applicantId then some "현재 재직 중"
      else if ∃ holder ∈ incumbent, ¬ replaceNpc ∧ holder.2.cityId = cityId then some "재직자가 도시에 체류 중"
      else none
  ⟨reason, defaultDecision, defaultReason⟩

namespace OfficeWorld

/-- The general who holds an office of a city, the first one listed. -/
def incumbentFor (world : OfficeWorld) (cityId : Int) (level : CityOfficeLevel) : Option (Int × General) :=
  world.generals.entries.find? fun entry => entry.2.HoldsOffice cityId level

/-- Judges a general for an office as the world stands. -/
def eligibility (world : OfficeWorld) (generalId : Int) (general : General) (cityId : Int) (level : CityOfficeLevel) :
    OfficeRequestEligibility :=
  resolveOfficeRequestEligibility generalId general ((world.cities.get? cityId).map fun city => (cityId, city)) level
    (world.incumbentFor cityId level) ((world.nations.get? general.nationId).getD []) world.chiefStatMin

/-! ### Decisions -/

/-- Writes a request to a general's metadata. -/
def save (world : OfficeWorld) (generalId : Int) (request : OfficeRequest) : OfficeWorld :=
  world.updateGeneral generalId fun general => { general with officeRequest := general.officeRequest.write request }

/-- The line that tells how a request was decided. -/
def finishText (world : OfficeWorld) (general : General) (request : OfficeRequest) (reason : String) : String :=
  let cityName := ((world.cities.get? request.cityId).map City.name).getD "도시"
  s!"{general.name} · {cityName} {request.officerLevel.title} 자원: {reason}"

/-- Decides a request and tells its general and its nation. -/
def finish (world : OfficeWorld) (request : OfficeRequest) (status : OfficeRequestStatus) (reason : String) :
    OfficeWorld :=
  let saved := world.save request.generalId { request with status, resultReason := some reason }
  match saved.generals.get? request.generalId with
  | none => saved
  | some general =>
    let text := saved.finishText general request reason
    saved.pushLogs
      [{ scope := .general, category := .action, format := some .plain, generalId := some request.generalId, text
         year := none, month := none, occurredAt := none, columns := [] },
       { scope := .nation, category := .history, format := some .plain, generalId := none, text
         year := none, month := none, occurredAt := none
         columns := [("nationId", .num request.nationId)] }]

/-- What has made a pending request invalid. -/
def invalidReason (world : OfficeWorld) (request : OfficeRequest) : Option String :=
  match world.generals.get? request.generalId with
  | none => some "소속 또는 장수 소유자 변경"
  | some general =>
    if general.nationId ≠ request.nationId ∨ general.userId ≠ some request.userId then
      some "소속 또는 장수 소유자 변경"
    else if ((world.incumbentFor request.cityId request.officerLevel).map Prod.fst).getD 0 ≠ request.incumbentId then
      some "재직자 변경"
    else (world.eligibility request.generalId general request.cityId request.officerLevel).reason

end OfficeWorld

/-- Takes a general out of the offices of the cities. -/
def General.dismiss (general : General) : General :=
  { general with
    officerLevel := 1
    metadata := (general.metadata.set "officerCity" (.num 0)).set "officer_city" (.num 0) }

/-- Gives a general an office of a city. -/
def General.appoint (general : General) (cityId : Int) (level : CityOfficeLevel) : General :=
  { general with
    officerLevel := level.number
    metadata := (general.metadata.set "officerCity" (.num cityId)).set "officer_city" (.num cityId) }

/-- Remembers that an office was given away in this quarter. -/
def City.lockOffice (city : City) (level : CityOfficeLevel) : City :=
  let bits := int32Bits (toNumber? ((coalesce (city.metadata.get? "officer_set") none).getD (.num 0))) |||
    (1#32 <<< level.number)
  { city with metadata := city.metadata.set "officer_set" (.num bits.toInt) }

namespace OfficeWorld

/-- Gives the office to the applicant; whoever held it loses it. -/
def approve (world : OfficeWorld) (request : OfficeRequest) : OfficeWorld :=
  let vacated := match world.incumbentFor request.cityId request.officerLevel with
    | none => world
    | some incumbent => world.updateGeneral incumbent.1 General.dismiss
  let appointed := vacated.updateGeneral request.generalId fun general =>
    general.appoint request.cityId request.officerLevel
  let locked := appointed.updateCity request.cityId fun city => city.lockOffice request.officerLevel
  locked.finish request .approved "임명"

/-- A deadline has passed at a tick; the settlements before the month changes come before every deadline. -/
def Reached (tick : Option Int) (dueTick : Int) : Prop := ∃ now ∈ tick, dueTick ≤ now

instance (tick : Option Int) (dueTick : Int) : Decidable (Reached tick dueTick) :=
  inferInstanceAs (Decidable (∃ now ∈ tick, dueTick ≤ now))

/-- Settles the request a general had when the generals were listed. -/
def settleGeneral (tick : Option Int) (world : OfficeWorld) (entry : Int × General) : OfficeWorld :=
  match entry.2.officeRequest.current with
  | none => world
  | some request =>
    if request.status ≠ .pending then world
    else match world.invalidReason request with
      | some invalid => world.finish request .cancelled invalid
      | none =>
        if ¬ Reached tick request.dueTick then world
        -- The applicant is judged as listed, the office as it is by now.
        else if request.defaultDecision = .approve ∧
            (world.eligibility entry.1 entry.2 request.cityId request.officerLevel).defaultDecision = .approve then
          world.approve request
        else world.finish request .rejected "기한 만료 · 자동 거부"

/-- Goes through the generals as they were at first, and settles their requests. -/
def settleCityOfficeRequests (world : OfficeWorld) (tick : Option Int) : OfficeWorld :=
  world.generals.entries.foldl (settleGeneral tick) world

end OfficeWorld

/-! ### Commands -/

/-- What a player wants with a request. -/
inductive OfficeAction where
  | request
  | approve
  | reject
  | withdraw
  deriving DecidableEq

/-- A player's command. -/
structure CityOfficeRequestCommand where
  userId : String
  generalId : Int
  action : OfficeAction
  officerLevel : Option CityOfficeLevel
  targetGeneralId : Option Int
  officeRequestId : Option String
  deriving DecidableEq

namespace OfficeWorld

/-- The pending requests, in the order of the generals. -/
def pendingRequests (world : OfficeWorld) : List OfficeRequest :=
  world.generals.entries.filterMap fun entry =>
    entry.2.officeRequest.current.filter fun request => request.status = .pending

/-- The boundary by which a request is decided that was made at a tick. -/
def requestDueTick (boundary tick : Int) : Int :=
  boundary + max 1 ⌈((tick - boundary + gameTicksPerTurn : Int) : ℚ) / gameTicksPerTurn⌉ * gameTicksPerTurn

/-- Makes a request; `actor` is the general as it was before the settlement. -/
def requestOffice (world : OfficeWorld) (command : CityOfficeRequestCommand) (actor : General) (tick : Int) :
    OfficeWorld × Except String Unit :=
  match command.officerLevel, world.generals.get? command.generalId with
  | none, _ => (world, .error "관직을 선택해 주세요.")
  -- No settlement removes a general.
  | some _, none => (world, .error "")
  | some level, some currentActor =>
    let quarter := world.quarter
    let previous := currentActor.officeRequest.current
    let check := world.eligibility command.generalId currentActor currentActor.cityId level
    if previous.map OfficeRequest.status = some .pending then (world, .error "이미 대기 중인 요청이 있습니다.")
    else if previous.map OfficeRequest.quarter = some quarter then (world, .error "이번 분기에 이미 자원했습니다.")
    else match check.reason with
      | some reason => (world, .error reason)
      | none =>
        if ∃ pending ∈ world.pendingRequests, pending.cityId = actor.cityId ∧ pending.officerLevel = level then
          (world, .error "이미 다른 장수가 자원한 관직입니다.")
        else
          (world.save command.generalId
            { id := s!"{command.generalId}:{quarter}"
              generalId := command.generalId
              userId := command.userId
              nationId := actor.nationId
              cityId := actor.cityId
              officerLevel := level
              incumbentId := ((world.incumbentFor actor.cityId level).map Prod.fst).getD 0
              quarter
              createdTick := tick
              dueTick := requestDueTick world.boundary tick
              defaultDecision := check.defaultDecision
              defaultReason := check.defaultReason
              status := .pending
              resultReason := none }, .ok ())

/-- Decides a pending request; `actor` is the general as it was before the settlement. -/
def decideOffice (world : OfficeWorld) (command : CityOfficeRequestCommand) (actor : General) :
    OfficeWorld × Except String Unit :=
  let target := world.generals.get? (command.targetGeneralId.getD command.generalId)
  match target.bind fun target => target.officeRequest.current with
  | none => (world, .error "이미 처리되었거나 없는 요청입니다.")
  | some request =>
    if some request.id ≠ command.officeRequestId ∨ request.status ≠ .pending then
      (world, .error "이미 처리되었거나 없는 요청입니다.")
    else if request.nationId ≠ actor.nationId then (world, .error "다른 국가의 요청입니다.")
    else if command.action = .withdraw then
      if request.generalId ≠ command.generalId then (world, .error "본인의 요청만 철회할 수 있습니다.")
      else (world.finish request .withdrawn "본인 철회", .ok ())
    else if actor.officerLevel < 5 ∨ Truthy ((asRecord actor.penalty).get? "noChief") then
      (world, .error "수뇌만 처리할 수 있습니다.")
    else if command.action = .reject then (world.finish request .rejected "수뇌 거부", .ok ())
    else if Truthy ((asRecord actor.penalty).get? "noChiefChange") ∧
        ∃ general ∈ target, 4 ≤ General.officerLevel general then
      (world, .error "수뇌인 장수를 변경할 수 없는 상태입니다.")
    else match world.invalidReason request with
      | some invalid => (world, .error invalid)
      | none => (world.approve request, .ok ())

/-- Whose command it is: a general of the player's own that serves a nation. -/
def actorOf (world : OfficeWorld) (command : CityOfficeRequestCommand) : Option General :=
  (world.generals.get? command.generalId).filter fun actor =>
    actor.userId = some command.userId ∧ actor.nationId ≠ 0

/-- The tick at which a command counts as accepted. -/
def commandTick (world : OfficeWorld) (acceptedTick : Int) : Int :=
  max acceptedTick (world.lastTurnTick.getD 0)

/-- Takes a player's command that was accepted at a tick; what is due by then is settled first. -/
def handleCityOfficeRequest (world : OfficeWorld) (command : CityOfficeRequestCommand) (acceptedTick : Int) :
    OfficeWorld × Except String Unit :=
  match world.actorOf command with
  | none => (world, .error "장수 소유권 또는 소속이 변경되었습니다.")
  | some actor =>
    let tick := world.commandTick acceptedTick
    let settled := world.settleCityOfficeRequests (some tick)
    if command.action = .request then settled.requestOffice command actor tick
    else settled.decideOffice command actor

/-! ### The rest of the world -/

/-- Begins the next month at a tick. -/
def advanceMonth (world : OfficeWorld) (turnTick : Int) : OfficeWorld :=
  { world with
    currentYear := if 12 < world.currentMonth + 1 then world.currentYear + 1 else world.currentYear
    currentMonth := if 12 < world.currentMonth + 1 then 1 else world.currentMonth + 1
    lastTurnTick := some (max (world.lastTurnTick.getD turnTick) turnTick) }

/-- Begins the next month one turn after the current one. -/
def nextMonth (world : OfficeWorld) : OfficeWorld := world.advanceMonth (world.boundary + gameTicksPerTurn)

/-- Moves the last boundary and the deadlines that are not yet past. -/
def shiftDeadlines (world : OfficeWorld) (deltaTicks : Int) (cutTick : Option Int) : OfficeWorld :=
  { world with
    lastTurnTick := some (world.lastTurnTick.getD 0 + deltaTicks)
    generals := world.generals.mapValues fun _ general =>
      { general with officeRequest := general.officeRequest.shiftDeadline deltaTicks cutTick } }

/-- Replaces the generals, cities and nations; a general who stays keeps the request, a new one has none. -/
def change (world : OfficeWorld) (generals : OrderedMap Int General) (cities : OrderedMap Int City)
    (nations : OrderedMap Int Record) : OfficeWorld :=
  { world with
    generals := generals.mapValues fun id general =>
      { general with officeRequest := ((world.generals.get? id).map General.officeRequest).getD .empty }
    cities, nations }

end OfficeWorld

/-- What happens to the requests and the world around them. -/
inductive OfficeEvent where
  | settle (tick : Option Int)
  | command (command : CityOfficeRequestCommand) (acceptedTick : Int)
  | advanceMonth (turnTick : Int)
  | shiftDeadlines (deltaTicks : Int) (cutTick : Option Int)
  | change (generals : OrderedMap Int General) (cities : OrderedMap Int City) (nations : OrderedMap Int Record)

/-- The world through its events, with the answers to the commands. -/
def officeMachine : StateMachine OfficeWorld OfficeEvent (Except String Unit) where
  step world event := some <| match event with
    | .settle tick => (world.settleCityOfficeRequests tick, .ok ())
    | .command command acceptedTick => world.handleCityOfficeRequest command acceptedTick
    | .advanceMonth turnTick => (world.advanceMonth turnTick, .ok ())
    | .shiftDeadlines deltaTicks cutTick => (world.shiftDeadlines deltaTicks cutTick, .ok ())
    | .change generals cities nations => (world.change generals cities nations, .ok ())

end Sammo.Personnel
