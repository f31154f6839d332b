import Mathlib.Data.Set.Subsingleton
import Mathlib.Tactic.Linarith
import Mathlib.Tactic.Positivity
import Sammo.Data.JsonPatchLaws
import Sammo.Personnel.OfficeRequests

/-! Requests for city offices: at most one at a time and in a quarter, decided once and in due time. -/

namespace Sammo.Personnel

/-! ### The field of a request -/

theorem OfficeRequest.shiftDeadline_eq (request : OfficeRequest) (deltaTicks : Int) (cutTick : Option Int) :
    ∃ dueTick, request.shiftDeadline deltaTicks cutTick = { request with dueTick } := by
  unfold shiftDeadline
  split
  · exact ⟨request.dueTick, rfl⟩
  · exact ⟨_, rfl⟩

namespace RequestField

/-- The quarters in which requests were made. -/
def made (field : RequestField) : List Int :=
  -- A request is written as pending only when it is made.
  (field.written.filter fun request => request.status = .pending).map OfficeRequest.quarter

/-- The quarters of the requests that stopped being pending, once for each time one did. -/
def decided (field : RequestField) : List Int :=
  (field.written.filter fun request => request.status ≠ .pending).map OfficeRequest.quarter

/-- A general's field up to a quarter: one request in each quarter, and each of them decided once at most. -/
structure Kept (id quarter : Int) (field : RequestField) : Prop where
  untouched : field.current = none → field.written = []
  own : ∀ request ∈ field.current, request.generalId = id
  latest : ∀ request ∈ field.current, ∀ earlier ∈ field.written, earlier.quarter ≤ request.quarter
  past : ∀ request ∈ field.current, request.quarter ≤ quarter
  madeOnce : field.made.Nodup
  decidedOnce : field.decided.Nodup
  undecided : ∀ request ∈ field.current, request.status = .pending → request.quarter ∉ field.decided

variable {id quarter : Int} {field : RequestField} {request : OfficeRequest}

theorem Kept.empty : Kept id quarter RequestField.empty where
  untouched := fun _ => rfl
  own := fun _ none_ => nomatch none_
  latest := fun _ none_ => nomatch none_
  past := fun _ none_ => nomatch none_
  madeOnce := List.nodup_nil
  decidedOnce := List.nodup_nil
  undecided := fun _ none_ => nomatch none_

theorem Kept.later {next : Int} (kept : field.Kept id quarter) (passed : quarter ≤ next) : field.Kept id next :=
  { kept with past := fun request held => (kept.past request held).trans passed }

theorem made_write (field : RequestField) (request : OfficeRequest) :
    (field.write request).made = field.made ++ if request.status = .pending then [request.quarter] else [] := by
  unfold made write
  by_cases pending : request.status = .pending <;> simp [pending]

theorem decided_write (field : RequestField) (request : OfficeRequest) :
    (field.write request).decided =
      field.decided ++ if request.status = .pending then [] else [request.quarter] := by
  unfold decided write
  by_cases pending : request.status = .pending <;> simp [pending]

theorem Kept.decide {status : OfficeRequestStatus} {reason : String} (kept : field.Kept id quarter)
    (held : request ∈ field.current) (pending : request.status = .pending) (final : status ≠ .pending) :
    (field.write { request with status, resultReason := some reason }).Kept id quarter where
  untouched := fun none_ => nomatch none_
  own := by
    rintro _ ⟨⟩
    exact kept.own request held
  latest := by
    rintro _ ⟨⟩ earlier member
    rcases List.mem_append.mp member with before | now
    · exact kept.latest request held earlier before
    · rw [List.mem_singleton.mp now]
  past := by
    rintro _ ⟨⟩
    exact kept.past request held
  madeOnce := by
    rw [made_write, if_neg final, List.append_nil]
    exact kept.madeOnce
  decidedOnce := by
    -- The request was pending until now, so its quarter is a new one among the decided.
    rw [decided_write, if_neg final, List.nodup_append]
    refine ⟨kept.decidedOnce, List.nodup_singleton _, ?_⟩
    rintro before member _ now rfl
    rw [List.mem_singleton.mp now] at member
    exact kept.undecided request held pending member
  undecided := by
    rintro _ ⟨⟩ still
    exact absurd still final

theorem Kept.notMem_of_later (kept : field.Kept id quarter)
    (fresh : ∀ previous ∈ field.current, previous.quarter ≠ quarter) {earlier : OfficeRequest}
    (member : earlier ∈ field.written) : earlier.quarter < quarter := by
  cases held : field.current with
  | none =>
    rw [kept.untouched held] at member
    cases member
  | some previous =>
    have before := kept.latest previous held earlier member
    have past := kept.past previous held
    have differs := fresh previous held
    omega

theorem Kept.make (kept : field.Kept id quarter)
    (fresh : ∀ previous ∈ field.current, previous.quarter ≠ quarter) (own : request.generalId = id)
    (now : request.quarter = quarter) (pending : request.status = .pending) :
    (field.write request).Kept id quarter where
  untouched := fun none_ => nomatch none_
  own := by
    rintro _ ⟨⟩
    exact own
  latest := by
    rintro _ ⟨⟩ earlier member
    rcases List.mem_append.mp member with before | last
    · exact now ▸ (kept.notMem_of_later fresh before).le
    · rw [List.mem_singleton.mp last]
  past := by
    rintro _ ⟨⟩
    exact now.le
  madeOnce := by
    rw [made_write, if_pos pending, List.nodup_append]
    refine ⟨kept.madeOnce, List.nodup_singleton _, ?_⟩
    rintro before member _ last rfl
    obtain ⟨earlier, written, rfl⟩ := List.mem_map.mp member
    have early := kept.notMem_of_later fresh (List.mem_of_mem_filter written)
    rw [List.mem_singleton.mp last, now] at early
    exact lt_irrefl _ early
  decidedOnce := by
    rw [decided_write, if_pos pending, List.append_nil]
    exact kept.decidedOnce
  undecided := by
    rintro _ ⟨⟩ _ member
    rw [decided_write, if_pos pending, List.append_nil] at member
    obtain ⟨earlier, written, same⟩ := List.mem_map.mp member
    have early := kept.notMem_of_later fresh (List.mem_of_mem_filter written)
    rw [same, now] at early
    exact lt_irrefl _ early

theorem Kept.shiftDeadline (kept : field.Kept id quarter) (deltaTicks : Int) (cutTick : Option Int) :
    (field.shiftDeadline deltaTicks cutTick).Kept id quarter := by
  -- The moved request has the owner, the quarter and the status that it had.
  have moved : ∀ request ∈ (field.shiftDeadline deltaTicks cutTick).current, ∃ before ∈ field.current,
      request.generalId = before.generalId ∧ request.quarter = before.quarter ∧ request.status = before.status := by
    intro request held
    obtain ⟨before, present, rfl⟩ := Option.map_eq_some_iff.mp held
    obtain ⟨dueTick, same⟩ := before.shiftDeadline_eq deltaTicks cutTick
    rw [same]
    exact ⟨before, present, rfl, rfl, rfl⟩
  refine ⟨fun none_ => kept.untouched (Option.map_eq_none_iff.mp none_), ?_, ?_, ?_, kept.madeOnce,
    kept.decidedOnce, ?_⟩
  · intro request held
    obtain ⟨before, present, own, _, _⟩ := moved request held
    exact own.trans (kept.own before present)
  · intro request held earlier member
    obtain ⟨before, present, _, same, _⟩ := moved request held
    exact same ▸ kept.latest before present earlier member
  · intro request held
    obtain ⟨before, present, _, same, _⟩ := moved request held
    exact same ▸ kept.past before present
  · intro request held pending
    obtain ⟨before, present, _, same, status⟩ := moved request held
    exact same ▸ kept.undecided before present (status ▸ pending)

end RequestField

/-! ### The requests of a world -/

namespace OfficeWorld

/-- The field of a general's request. -/
def field (world : OfficeWorld) (id : Int) : Option RequestField :=
  (world.generals.get? id).map General.officeRequest

/-- A general's field holds a pending request. -/
def PendingAt (world : OfficeWorld) (id : Int) (request : OfficeRequest) : Prop :=
  (∃ field, world.field id = some field ∧ request ∈ field.current) ∧ request.status = .pending

/-- The requests of a world are in order: each general's own, and no two pending ones for one office. -/
structure Kept (world : OfficeWorld) : Prop where
  month : world.currentMonth ≤ 12
  fields : ∀ id field, world.field id = some field → field.Kept id world.quarter
  apart : ∀ first second one other, world.PendingAt first one → world.PendingAt second other →
    one.cityId = other.cityId → one.officerLevel = other.officerLevel → first = second

variable {world next : OfficeWorld} {request : OfficeRequest}

theorem Kept.own {id : Int} (kept : world.Kept) (pending : world.PendingAt id request) : request.generalId = id := by
  obtain ⟨⟨field, stored, held⟩, _⟩ := pending
  exact (kept.fields id field stored).own request held

/-- The calendar of a world. -/
def calendar (world : OfficeWorld) : Int × Int × Option Int × Int :=
  (world.currentYear, world.currentMonth, world.lastTurnTick, world.lastTurnTimeTick)

theorem quarter_congr (same : next.calendar = world.calendar) : next.quarter = world.quarter := by
  simp only [calendar, Prod.mk.injEq] at same
  unfold quarter
  rw [same.1, same.2.1]

theorem boundary_congr (same : next.calendar = world.calendar) : next.boundary = world.boundary := by
  simp only [calendar, Prod.mk.injEq] at same
  unfold boundary
  rw [same.2.2.1, same.2.2.2]

/-- A step writes a request to one general's field and to no other, in the same month. -/
structure Writes (world next : OfficeWorld) (id : Int) (request : OfficeRequest) : Prop where
  calendar : next.calendar = world.calendar
  fields : ∀ other, next.field other =
    if other = id then (world.field other).map fun field => field.write request else world.field other

theorem field_updateGeneral {patch : General → General} (kept : ∀ general, (patch general).officeRequest =
    general.officeRequest) (world : OfficeWorld) (id other : Int) :
    (world.updateGeneral id patch).field other = world.field other := by
  unfold field updateGeneral
  rw [OrderedMap.get?_alter]
  split
  · rename_i same
    rw [same, Option.map_map]
    exact Option.map_congr fun general _ => kept general
  · rfl

theorem writes_save (world : OfficeWorld) (id : Int) (request : OfficeRequest) :
    world.Writes (world.save id request) id request where
  calendar := rfl
  fields := by
    intro other
    unfold field save updateGeneral
    rw [OrderedMap.get?_alter]
    split
    · rename_i same
      rw [same, Option.map_map, Option.map_map]
      rfl
    · rfl

theorem generals_finish (world : OfficeWorld) (request : OfficeRequest) (status : OfficeRequestStatus)
    (reason : String) : (world.finish request status reason).generals =
      (world.save request.generalId { request with status, resultReason := some reason }).generals := by
  unfold finish
  simp only
  split <;> rfl

theorem writes_finish (world : OfficeWorld) (request : OfficeRequest) (status : OfficeRequestStatus)
    (reason : String) : world.Writes (world.finish request status reason) request.generalId
      { request with status, resultReason := some reason } where
  calendar := by
    unfold finish
    simp only
    split <;> rfl
  fields := by
    intro other
    rw [← (world.writes_save request.generalId { request with status, resultReason := some reason }).fields other]
    unfold field
    rw [generals_finish]

/-- The world in which the office has been handed over, before the request is finished. -/
def handOver (world : OfficeWorld) (request : OfficeRequest) : OfficeWorld :=
  let vacated := match world.incumbentFor request.cityId request.officerLevel with
    | none => world
    | some incumbent => world.updateGeneral incumbent.1 General.dismiss
  let appointed := vacated.updateGeneral request.generalId fun general =>
    general.appoint request.cityId request.officerLevel
  appointed.updateCity request.cityId fun city => city.lockOffice request.officerLevel

theorem approve_eq (world : OfficeWorld) (request : OfficeRequest) :
    world.approve request = (world.handOver request).finish request .approved "임명" := rfl

theorem field_handOver (world : OfficeWorld) (request : OfficeRequest) (id : Int) :
    (world.handOver request).field id = world.field id := by
  unfold handOver
  change OfficeWorld.field (updateGeneral _ _ _) id = _
  rw [field_updateGeneral fun _ => by rfl]
  split
  · rfl
  · exact field_updateGeneral (fun _ => by rfl) world _ id

theorem writes_approve (world : OfficeWorld) (request : OfficeRequest) :
    world.Writes (world.approve request) request.generalId
      { request with status := .approved, resultReason := some "임명" } := by
  have written := writes_finish (world.handOver request) request .approved "임명"
  refine ⟨written.calendar.trans ?_, fun other => ?_⟩
  · unfold handOver
    simp only
    split <;> rfl
  · rw [approve_eq, written.fields other, field_handOver]

theorem Kept.decide {id : Int} {status : OfficeRequestStatus} {reason : String} (kept : world.Kept)
    (pending : world.PendingAt id request) (final : status ≠ .pending)
    (writes : world.Writes next request.generalId { request with status, resultReason := some reason }) :
    next.Kept := by
  have own := kept.own pending
  obtain ⟨⟨field, stored, held⟩, open_⟩ := pending
  -- What is pending afterwards was pending before.
  have before : ∀ other one, next.PendingAt other one → world.PendingAt other one := by
    rintro other one ⟨⟨found, present, holds⟩, waits⟩
    rw [writes.fields other] at present
    split at present
    · obtain ⟨old, _, rfl⟩ := Option.map_eq_some_iff.mp present
      obtain rfl := Option.some.inj holds
      exact absurd waits final
    · exact ⟨⟨found, present, holds⟩, waits⟩
  have months := writes.calendar
  simp only [calendar, Prod.mk.injEq] at months
  refine ⟨months.2.1 ▸ kept.month, fun other found present => ?_, fun first second one another waits waitsToo =>
    kept.apart first second one another (before first one waits) (before second another waitsToo)⟩
  rw [quarter_congr writes.calendar]
  rw [writes.fields other] at present
  split at present
  · rename_i same
    obtain rfl : other = id := same.trans own
    rw [stored] at present
    obtain rfl := Option.some.inj present
    exact (kept.fields other field stored).decide held open_ final
  · exact kept.fields other found present

/-! ### Settlements -/

theorem settleGeneral_cases (tick : Option Int) (world : OfficeWorld) (entry : Int × General) :
    settleGeneral tick world entry = world ∨
      ∃ request ∈ entry.2.officeRequest.current, request.status = .pending ∧
        ((∃ status reason, status ≠ .pending ∧ status ≠ .approved ∧
            settleGeneral tick world entry = world.finish request status reason) ∨
          world.invalidReason request = none ∧ Reached tick request.dueTick ∧ request.defaultDecision = .approve ∧
            (world.eligibility entry.1 entry.2 request.cityId request.officerLevel).defaultDecision = .approve ∧
            settleGeneral tick world entry = world.approve request) := by
  generalize settled : settleGeneral tick world entry = result
  unfold settleGeneral at settled
  split at settled
  · exact .inl settled.symm
  · rename_i request held
    split at settled
    · exact .inl settled.symm
    · rename_i pending
      have waits := not_not.mp pending
      split at settled
      · -- The request has become invalid.
        exact .inr ⟨request, held, waits, .inl ⟨.cancelled, _, by decide, by decide, settled.symm⟩⟩
      · rename_i valid
        split at settled
        · exact .inl settled.symm
        · rename_i due
          split at settled
          · rename_i approved
            exact .inr ⟨request, held, waits, .inr ⟨valid, not_not.mp due, approved.1, approved.2, settled.symm⟩⟩
          · exact .inr ⟨request, held, waits, .inl ⟨.rejected, _, by decide, by decide, settled.symm⟩⟩

/-- A general is as listed, apart from the offices of cities. -/
structure AsListed (listed general : General) : Prop where
  request : general.officeRequest = listed.officeRequest
  nation : general.nationId = listed.nationId
  belong : general.metadata.get? "belong" = listed.metadata.get? "belong"

/-- The generals that are still to be settled are as they were listed. -/
structure Listed (world : OfficeWorld) (entries : List (Int × General)) : Prop where
  distinct : (entries.map Prod.fst).Nodup
  present : ∀ entry ∈ entries, ∃ general, world.generals.get? entry.1 = some general ∧ AsListed entry.2 general

theorem listed_entries (world : OfficeWorld) : world.Listed world.generals.entries where
  distinct := world.generals.nodup
  present := fun entry member => ⟨entry.2, OrderedMap.mem_entries.mp member, ⟨rfl, rfl, rfl⟩⟩

/-- A step leaves every general but one as listed. -/
def LeavesOthers (world next : OfficeWorld) (id : Int) : Prop :=
  ∀ other general, other ≠ id → world.generals.get? other = some general →
    ∃ after, next.generals.get? other = some after ∧ AsListed general after

theorem AsListed.trans {first second third : General} (one : AsListed first second) (two : AsListed second third) :
    AsListed first third :=
  ⟨two.request.trans one.request, two.nation.trans one.nation, two.belong.trans one.belong⟩

theorem asListed_dismiss (general : General) : AsListed general general.dismiss := by
  refine ⟨rfl, rfl, ?_⟩
  unfold General.dismiss
  rw [Record.get?_set_of_ne _ (by decide), Record.get?_set_of_ne _ (by decide)]

theorem leavesOthers_finish (world : OfficeWorld) (request : OfficeRequest) (status : OfficeRequestStatus)
    (reason : String) : world.LeavesOthers (world.finish request status reason) request.generalId := by
  intro other general differs present
  rw [generals_finish]
  unfold save updateGeneral
  exact ⟨general, by rw [OrderedMap.get?_alter, if_neg differs]; exact present, rfl, rfl, rfl⟩

theorem leavesOthers_handOver (world : OfficeWorld) (request : OfficeRequest) :
    world.LeavesOthers (world.handOver request) request.generalId := by
  intro other general differs present
  -- Of the other generals only the incumbent is patched.
  have vacated : ∀ incumbent, ∃ after,
      (world.updateGeneral incumbent General.dismiss).generals.get? other = some after ∧ AsListed general after := by
    intro incumbent
    unfold updateGeneral
    rw [OrderedMap.get?_alter]
    split
    · exact ⟨general.dismiss, by rw [present]; rfl, asListed_dismiss general⟩
    · exact ⟨general, present, rfl, rfl, rfl⟩
  unfold handOver
  change ∃ after, (updateGeneral _ _ _).generals.get? other = some after ∧ _
  unfold updateGeneral at *
  simp only [OrderedMap.get?_alter, if_neg differs]
  split
  · exact ⟨general, present, rfl, rfl, rfl⟩
  · rename_i incumbent _
    simpa only [OrderedMap.get?_alter] using vacated incumbent.1

theorem leavesOthers_approve (world : OfficeWorld) (request : OfficeRequest) :
    world.LeavesOthers (world.approve request) request.generalId := by
  intro other general differs present
  obtain ⟨handed, found, same⟩ := leavesOthers_handOver world request other general differs present
  obtain ⟨after, kept, still⟩ := leavesOthers_finish _ request .approved "임명" other handed differs found
  exact ⟨after, kept, same.trans still⟩

variable {rest : List (Int × General)} {entry : Int × General} {cityId : Int} {level : CityOfficeLevel}
  {event : OfficeEvent} {answer : Except String Unit} {command : CityOfficeRequestCommand} {acceptedTick : Int}

theorem pendingAt_of_listed (listed : world.Listed (entry :: rest))
    (held : request ∈ entry.2.officeRequest.current) (pending : request.status = .pending) :
    world.PendingAt entry.1 request := by
  obtain ⟨general, present, same⟩ := listed.present entry List.mem_cons_self
  refine ⟨⟨general.officeRequest, ?_, same.request ▸ held⟩, pending⟩
  unfold field
  rw [present]
  rfl

theorem Kept.settleGeneral (kept : world.Kept) (tick : Option Int) (listed : world.Listed (entry :: rest)) :
    (settleGeneral tick world entry).Kept ∧ (settleGeneral tick world entry).Listed rest ∧
      (settleGeneral tick world entry).calendar = world.calendar := by
  obtain ⟨fresh, distinct⟩ := List.nodup_cons.mp listed.distinct
  -- Only the settled general is changed beyond the offices.
  have others {next : OfficeWorld} (leaves : world.LeavesOthers next entry.1) : next.Listed rest := by
    refine ⟨distinct, fun other member => ?_⟩
    obtain ⟨general, present, same⟩ := listed.present other (List.mem_cons_of_mem _ member)
    have differs : other.1 ≠ entry.1 := fun equal => fresh (equal ▸ List.mem_map_of_mem member)
    obtain ⟨after, found, still⟩ := leaves other.1 general differs present
    exact ⟨after, found, same.trans still⟩
  rcases settleGeneral_cases tick world entry with unchanged | ⟨request, held, pending, outcome⟩
  · rw [unchanged]
    exact ⟨kept, ⟨distinct, fun other member => listed.present other (List.mem_cons_of_mem _ member)⟩, rfl⟩
  · have waits := pendingAt_of_listed listed held pending
    have own := kept.own waits
    rcases outcome with ⟨status, reason, final, _, settled⟩ | ⟨_, _, _, _, settled⟩
    · rw [settled]
      have writes := writes_finish world request status reason
      exact ⟨kept.decide waits final writes, others (own ▸ leavesOthers_finish world request status reason),
        writes.calendar⟩
    · rw [settled]
      have writes := writes_approve world request
      exact ⟨kept.decide waits (by decide) writes, others (own ▸ leavesOthers_approve world request), writes.calendar⟩

theorem Kept.settling (kept : world.Kept) (tick : Option Int) {earlier : List (Int × General)}
    (listed : world.Listed (earlier ++ rest)) :
    (earlier.foldl (OfficeWorld.settleGeneral tick) world).Kept ∧
      (earlier.foldl (OfficeWorld.settleGeneral tick) world).Listed rest ∧
      (earlier.foldl (OfficeWorld.settleGeneral tick) world).calendar = world.calendar := by
  induction earlier generalizing world with
  | nil => exact ⟨kept, listed, rfl⟩
  | cons entry earlier ih =>
    obtain ⟨keptNext, listedNext, months⟩ := kept.settleGeneral tick listed
    obtain ⟨keptLast, listedLast, monthsLast⟩ := ih keptNext listedNext
    exact ⟨keptLast, listedLast, monthsLast.trans months⟩

theorem Kept.settle (kept : world.Kept) (tick : Option Int) :
    (world.settleCityOfficeRequests tick).Kept ∧ (world.settleCityOfficeRequests tick).calendar = world.calendar := by
  have listed : world.Listed (world.generals.entries ++ []) := by
    rw [List.append_nil]
    exact world.listed_entries
  obtain ⟨settled, _, months⟩ := kept.settling tick listed
  exact ⟨settled, months⟩

/-! ### Answers to commands -/

theorem mem_pendingRequests : request ∈ world.pendingRequests ↔ ∃ id, world.PendingAt id request := by
  unfold pendingRequests
  simp only [List.mem_filterMap, Option.filter_eq_some_iff, decide_eq_true_eq]
  constructor
  · rintro ⟨⟨id, general⟩, member, held, pending⟩
    exact ⟨id, ⟨general.officeRequest, by rw [field, OrderedMap.mem_entries.mp member]; rfl, held⟩, pending⟩
  · rintro ⟨id, ⟨found, stored, held⟩, pending⟩
    obtain ⟨general, present, rfl⟩ := Option.map_eq_some_iff.mp stored
    exact ⟨(id, general), OrderedMap.mem_entries.mpr present, held, pending⟩

theorem requestOffice_cases (world : OfficeWorld) (command : CityOfficeRequestCommand) (actor : General)
    (tick : Int) :
    (∃ error, world.requestOffice command actor tick = (world, .error error)) ∨
      ∃ request, world.requestOffice command actor tick = (world.save command.generalId request, .ok ()) ∧
        request.generalId = command.generalId ∧ request.quarter = world.quarter ∧ request.status = .pending ∧
        request.createdTick = tick ∧ request.dueTick = requestDueTick world.boundary tick ∧
        (∃ field, world.field command.generalId = some field ∧ ∀ previous ∈ field.current,
          previous.status ≠ .pending ∧ previous.quarter ≠ world.quarter) ∧
        ∀ other ∈ world.pendingRequests, other.cityId = request.cityId →
          other.officerLevel ≠ request.officerLevel := by
  generalize answered : world.requestOffice command actor tick = result
  unfold requestOffice at answered
  split at answered
  · exact .inl ⟨_, answered.symm⟩
  · exact .inl ⟨_, answered.symm⟩
  · rename_i level currentActor _ present
    simp only at answered
    split at answered
    · exact .inl ⟨_, answered.symm⟩
    · rename_i idle
      split at answered
      · exact .inl ⟨_, answered.symm⟩
      · rename_i fresh
        split at answered
        · exact .inl ⟨_, answered.symm⟩
        · split at answered
          · exact .inl ⟨_, answered.symm⟩
          · -- Every check has passed, so the request is saved.
            rename_i unoccupied
            refine .inr ⟨_, answered.symm, rfl, rfl, rfl, rfl, rfl, ⟨currentActor.officeRequest, ?_, ?_⟩, ?_⟩
            · rw [field, present]
              rfl
            · intro previous held
              rw [Option.mem_def] at held
              rw [held] at idle fresh
              exact ⟨fun pending => idle (congrArg some pending), fun same => fresh (congrArg some same)⟩
            · exact fun other member here same => unoccupied ⟨other, member, here, same⟩

theorem decideOffice_cases (world : OfficeWorld) (command : CityOfficeRequestCommand) (actor : General)
    (decision : command.action ≠ .request) :
    (world.decideOffice command actor).1 = world ∨ ∃ id request, world.PendingAt id request ∧
      ((∃ status reason, status ≠ .pending ∧ status ≠ .approved ∧
          (world.decideOffice command actor).1 = world.finish request status reason) ∨
        command.action = .approve ∧ world.invalidReason request = none ∧
          (world.decideOffice command actor).1 = world.approve request) := by
  generalize answered : world.decideOffice command actor = result
  unfold decideOffice at answered
  simp only at answered
  split at answered
  · exact .inl (congrArg Prod.fst answered).symm
  · rename_i request found
    obtain ⟨general, present, held⟩ := Option.bind_eq_some_iff.mp found
    split at answered
    · exact .inl (congrArg Prod.fst answered).symm
    · rename_i open_
      rw [not_or, not_not, not_not] at open_
      have waits : world.PendingAt (command.targetGeneralId.getD command.generalId) request :=
        ⟨⟨general.officeRequest, by rw [field, present]; rfl, held⟩, open_.2⟩
      split at answered
      · exact .inl (congrArg Prod.fst answered).symm
      · split at answered
        · split at answered
          · exact .inl (congrArg Prod.fst answered).symm
          · exact .inr ⟨_, request, waits,
              .inl ⟨.withdrawn, _, by decide, by decide, (congrArg Prod.fst answered).symm⟩⟩
        · rename_i kept
          split at answered
          · exact .inl (congrArg Prod.fst answered).symm
          · split at answered
            · exact .inr ⟨_, request, waits,
                .inl ⟨.rejected, _, by decide, by decide, (congrArg Prod.fst answered).symm⟩⟩
            · rename_i granted
              split at answered
              · exact .inl (congrArg Prod.fst answered).symm
              · split at answered
                · exact .inl (congrArg Prod.fst answered).symm
                · -- What is left of the four actions is the approval.
                  rename_i valid
                  have approval : command.action = .approve := by
                    cases action : command.action with
                    | request => exact absurd action decision
                    | approve => rfl
                    | reject => exact absurd action granted
                    | withdraw => exact absurd action kept
                  exact .inr ⟨_, request, waits, .inr ⟨approval, valid, (congrArg Prod.fst answered).symm⟩⟩

theorem Kept.make (kept : world.Kept) {id : Int} (writes : world.Writes next id request)
    (own : request.generalId = id) (now : request.quarter = world.quarter) (pending : request.status = .pending)
    (free : ∃ field, world.field id = some field ∧ ∀ previous ∈ field.current,
      previous.status ≠ .pending ∧ previous.quarter ≠ world.quarter)
    (unoccupied : ∀ other ∈ world.pendingRequests, other.cityId = request.cityId →
      other.officerLevel ≠ request.officerLevel) : next.Kept := by
  obtain ⟨field, stored, fresh⟩ := free
  -- What is pending afterwards is the new request or was pending before.
  have origin : ∀ other one, next.PendingAt other one → other = id ∧ one = request ∨ world.PendingAt other one := by
    rintro other one ⟨⟨found, present, holds⟩, waits⟩
    rw [writes.fields other] at present
    split at present
    · rename_i same
      obtain ⟨old, _, rfl⟩ := Option.map_eq_some_iff.mp present
      exact .inl ⟨same, (Option.some.inj holds).symm⟩
    · exact .inr ⟨⟨found, present, holds⟩, waits⟩
  have months := writes.calendar
  simp only [calendar, Prod.mk.injEq] at months
  refine ⟨months.2.1 ▸ kept.month, ?_, ?_⟩
  · intro other found present
    rw [quarter_congr writes.calendar]
    rw [writes.fields other] at present
    split at present
    · rename_i same
      rw [same, stored] at present
      obtain rfl := Option.some.inj present
      exact (kept.fields other field (same ▸ stored)).make (fun previous held => (fresh previous held).2)
        (own.trans same.symm) now pending
    · exact kept.fields other found present
  · intro first second one other waits waitsToo here level
    rcases origin first one waits with ⟨rfl, rfl⟩ | before
    · rcases origin second other waitsToo with ⟨rfl, _⟩ | beforeToo
      · rfl
      · exact absurd level.symm (unoccupied other (mem_pendingRequests.mpr ⟨second, beforeToo⟩) here.symm)
    · rcases origin second other waitsToo with ⟨rfl, rfl⟩ | beforeToo
      · exact absurd level (unoccupied one (mem_pendingRequests.mpr ⟨first, before⟩) here)
      · exact kept.apart first second one other before beforeToo here level

theorem Kept.handle (kept : world.Kept) (command : CityOfficeRequestCommand) (acceptedTick : Int) :
    (world.handleCityOfficeRequest command acceptedTick).1.Kept := by
  unfold handleCityOfficeRequest
  split
  · exact kept
  · rename_i actor _
    have settled := (kept.settle (some (world.commandTick acceptedTick))).1
    simp only
    split
    · rcases requestOffice_cases _ command actor (world.commandTick acceptedTick) with
        ⟨_, refused⟩ | ⟨request, made, own, now, pending, _, _, free, unoccupied⟩
      · rw [refused]
        exact settled
      · rw [made]
        exact settled.make (writes_save _ _ _) own now pending free unoccupied
    · rename_i decision
      rcases decideOffice_cases _ command actor decision with
        refused | ⟨id, request, waits, ⟨status, reason, final, _, decided⟩ | ⟨_, _, decided⟩⟩
      · rw [refused]
        exact settled
      · rw [decided]
        exact settled.decide waits final (writes_finish _ _ _ _)
      · rw [decided]
        exact settled.decide waits (by decide) (writes_approve _ _)

/-! ### The rest of the world -/

theorem Kept.advanceMonth (kept : world.Kept) (turnTick : Int) : (world.advanceMonth turnTick).Kept := by
  have month := kept.month
  have later : world.quarter ≤ (world.advanceMonth turnTick).quarter := by
    unfold quarter officeRequestQuarter OfficeWorld.advanceMonth
    simp only
    split <;> omega
  refine ⟨?_, fun id field stored => (kept.fields id field stored).later later, kept.apart⟩
  change (if 12 < world.currentMonth + 1 then 1 else world.currentMonth + 1) ≤ 12
  split <;> omega

theorem field_shiftDeadlines (world : OfficeWorld) (deltaTicks : Int) (cutTick : Option Int) (id : Int) :
    (world.shiftDeadlines deltaTicks cutTick).field id =
      (world.field id).map fun field => field.shiftDeadline deltaTicks cutTick := by
  unfold field OfficeWorld.shiftDeadlines
  rw [OrderedMap.get?_mapValues, Option.map_map, Option.map_map]
  rfl

theorem Kept.shiftDeadlines (kept : world.Kept) (deltaTicks : Int) (cutTick : Option Int) :
    (world.shiftDeadlines deltaTicks cutTick).Kept := by
  have fields := world.field_shiftDeadlines deltaTicks cutTick
  -- A request that is pending was pending for the same office.
  have origin : ∀ id one, (world.shiftDeadlines deltaTicks cutTick).PendingAt id one →
      ∃ before, world.PendingAt id before ∧ one.cityId = before.cityId ∧ one.officerLevel = before.officerLevel := by
    rintro id one ⟨⟨found, present, holds⟩, waits⟩
    rw [fields id] at present
    obtain ⟨old, stored, rfl⟩ := Option.map_eq_some_iff.mp present
    obtain ⟨before, held, rfl⟩ := Option.map_eq_some_iff.mp holds
    obtain ⟨dueTick, same⟩ := before.shiftDeadline_eq deltaTicks cutTick
    rw [same] at waits ⊢
    exact ⟨before, ⟨⟨old, stored, held⟩, waits⟩, rfl, rfl⟩
  refine ⟨kept.month, ?_, ?_⟩
  · intro id found present
    rw [fields id] at present
    obtain ⟨old, stored, rfl⟩ := Option.map_eq_some_iff.mp present
    exact (kept.fields id old stored).shiftDeadline deltaTicks cutTick
  · intro first second one other waits waitsToo here level
    obtain ⟨before, waited, city, office⟩ := origin first one waits
    obtain ⟨beforeToo, waitedToo, cityToo, officeToo⟩ := origin second other waitsToo
    exact kept.apart first second before beforeToo waited waitedToo (city.symm.trans (here.trans cityToo))
      (office.symm.trans (level.trans officeToo))

theorem field_change {generals : OrderedMap Int General} {cities : OrderedMap Int City}
    {nations : OrderedMap Int Record} {id : Int} {found : RequestField}
    (present : (world.change generals cities nations).field id = some found) :
    world.field id = some found ∨ found = .empty := by
  unfold OfficeWorld.field OfficeWorld.change at present
  rw [OrderedMap.get?_mapValues, Option.map_map] at present
  obtain ⟨general, _, rfl⟩ := Option.map_eq_some_iff.mp present
  unfold OfficeWorld.field
  cases stayed : world.generals.get? id with
  | none => exact .inr rfl
  | some before => exact .inl rfl

theorem Kept.change (kept : world.Kept) (generals : OrderedMap Int General) (cities : OrderedMap Int City)
    (nations : OrderedMap Int Record) : (world.change generals cities nations).Kept := by
  have waited : ∀ id one, (world.change generals cities nations).PendingAt id one → world.PendingAt id one := by
    rintro id one ⟨⟨found, present, holds⟩, waits⟩
    rcases field_change present with before | rfl
    · exact ⟨⟨found, before, holds⟩, waits⟩
    · exact nomatch holds
  refine ⟨kept.month, ?_, fun first second one other waits waitsToo =>
    kept.apart first second one other (waited first one waits) (waited second other waitsToo)⟩
  intro id found present
  rcases field_change present with before | rfl
  · exact kept.fields id found before
  · exact .empty

/-! ### Approvals -/

/-- A general holds an office of a city. -/
def Holds (world : OfficeWorld) (cityId : Int) (level : CityOfficeLevel) (id : Int) : Prop :=
  ∃ general, world.generals.get? id = some general ∧ general.HoldsOffice cityId level

theorem holds_of_incumbentFor {incumbent : Int × General}
    (found : world.incumbentFor cityId level = some incumbent) : world.Holds cityId level incumbent.1 :=
  ⟨incumbent.2, OrderedMap.mem_entries.mp (List.mem_of_find?_eq_some found), by simpa using List.find?_some found⟩

theorem not_holds_of_incumbentFor (vacant : world.incumbentFor cityId level = none) (id : Int) :
    ¬ world.Holds cityId level id := by
  rintro ⟨general, present, holds⟩
  have passed := List.find?_eq_none.mp vacant (id, general) (OrderedMap.mem_entries.mpr present)
  exact passed (by simpa using holds)

theorem valid_of_invalidReason (valid : world.invalidReason request = none) :
    (∃ general, world.generals.get? request.generalId = some general) ∧
      (world.incumbentFor request.cityId request.officerLevel).map Prod.fst ≠ some request.generalId := by
  unfold invalidReason at valid
  split at valid
  · cases valid
  · rename_i general present
    refine ⟨⟨general, present⟩, fun holder => ?_⟩
    split at valid
    · cases valid
    · split at valid
      · cases valid
      · -- The last checks of an applicant look at who holds the office.
        unfold eligibility resolveOfficeRequestEligibility at valid
        simp only [holder] at valid
        repeat' split at valid
        all_goals simp_all

theorem not_holdsOffice_dismiss (general : General) (cityId : Int) (level : CityOfficeLevel) :
    ¬ general.dismiss.HoldsOffice cityId level := by
  rintro ⟨same, _⟩
  unfold General.dismiss at same
  cases level <;> norm_num [CityOfficeLevel.number] at same

theorem holdsOffice_appoint (general : General) (cityId : Int) (level : CityOfficeLevel) :
    (general.appoint cityId level).HoldsOffice cityId level := by
  refine ⟨rfl, ?_⟩
  unfold General.officerCity General.appoint
  rw [Record.get?_set_of_ne _ (by decide), Record.get?_set_self]
  rfl

theorem holds_finish (world : OfficeWorld) (request : OfficeRequest) (status : OfficeRequestStatus) (reason : String)
    (cityId : Int) (level : CityOfficeLevel) (id : Int) :
    (world.finish request status reason).Holds cityId level id ↔ world.Holds cityId level id := by
  unfold Holds
  rw [generals_finish]
  unfold save updateGeneral
  rw [OrderedMap.get?_alter]
  split
  · rename_i same
    rw [← same]
    constructor
    · rintro ⟨_, written, holds⟩
      obtain ⟨general, present, rfl⟩ := Option.map_eq_some_iff.mp written
      exact ⟨general, present, holds⟩
    · rintro ⟨general, present, holds⟩
      exact ⟨_, Option.map_eq_some_iff.mpr ⟨general, present, rfl⟩, holds⟩
  · rfl

theorem holds_vacated {incumbent id : Int}
    (holds : (world.updateGeneral incumbent General.dismiss).Holds cityId level id) :
    id ≠ incumbent ∧ world.Holds cityId level id := by
  obtain ⟨general, present, office⟩ := holds
  unfold updateGeneral at present
  rw [OrderedMap.get?_alter] at present
  split at present
  · obtain ⟨before, _, rfl⟩ := Option.map_eq_some_iff.mp present
    exact absurd office (not_holdsOffice_dismiss before cityId level)
  · rename_i differs
    exact ⟨differs, general, present, office⟩

theorem holds_appointed (world : OfficeWorld) {applicant : Int} (cityId : Int) (level : CityOfficeLevel)
    (present : ∃ general, world.generals.get? applicant = some general) (id : Int) :
    (world.updateGeneral applicant fun general => general.appoint cityId level).Holds cityId level id ↔
      id = applicant ∨ world.Holds cityId level id := by
  obtain ⟨general, found⟩ := present
  unfold Holds updateGeneral
  rw [OrderedMap.get?_alter]
  split
  · rename_i same
    refine ⟨fun _ => .inl same, fun _ => ⟨_, by rw [same, found]; rfl, holdsOffice_appoint general cityId level⟩⟩
  · rename_i differs
    exact ⟨.inr, fun either => either.resolve_left differs⟩

theorem holds_approve (valid : world.invalidReason request = none)
    (alone : {id | world.Holds request.cityId request.officerLevel id}.Subsingleton) (id : Int) :
    (world.approve request).Holds request.cityId request.officerLevel id ↔ id = request.generalId := by
  obtain ⟨⟨general, present⟩, differs⟩ := valid_of_invalidReason valid
  rw [approve_eq, holds_finish]
  unfold handOver
  change (updateGeneral _ _ _).Holds _ _ id ↔ _
  cases found : world.incumbentFor request.cityId request.officerLevel with
  | none =>
    -- The office was vacant.
    rw [holds_appointed world _ _ ⟨general, present⟩]
    exact or_iff_left (not_holds_of_incumbentFor found id)
  | some incumbent =>
    have apart : request.generalId ≠ incumbent.1 := by
      intro same
      rw [found, same] at differs
      exact differs rfl
    have stays : ∃ general, (world.updateGeneral incumbent.1 General.dismiss).generals.get? request.generalId =
        some general := by
      unfold updateGeneral
      rw [OrderedMap.get?_alter, if_neg apart]
      exact ⟨general, present⟩
    simp only
    rw [holds_appointed _ _ _ stays]
    refine or_iff_left fun holds => ?_
    obtain ⟨other, held⟩ := holds_vacated holds
    exact other (alone held (holds_of_incumbentFor found))

theorem defaultDecision_of_asListed {listed general : General} (same : AsListed listed general)
    (world : OfficeWorld) (id cityId : Int) (level : CityOfficeLevel) :
    (world.eligibility id listed cityId level).defaultDecision =
      (world.eligibility id general cityId level).defaultDecision := by
  unfold eligibility resolveOfficeRequestEligibility
  simp only [same.nation, same.belong]

/-! ### Months -/

theorem boundary_nextMonth (world : OfficeWorld) : world.nextMonth.boundary = world.boundary + gameTicksPerTurn := by
  unfold nextMonth OfficeWorld.advanceMonth boundary
  cases world.lastTurnTick with
  | none => simp
  | some tick => simp

theorem boundary_iterate (months : Nat) (world : OfficeWorld) :
    (nextMonth^[months] world).boundary = world.boundary + months * gameTicksPerTurn := by
  induction months with
  | zero => simp
  | succ months ih =>
    rw [Function.iterate_succ_apply', boundary_nextMonth, ih]
    push_cast
    ring

theorem requestDueTick_spec (world : OfficeWorld) (tick : Int) :
    tick + gameTicksPerTurn ≤ requestDueTick world.boundary tick ∧
      ∃ months, 0 < months ∧ (nextMonth^[months] world).boundary = requestDueTick world.boundary tick := by
  unfold requestDueTick
  generalize wanted : max 1 ⌈((tick - world.boundary + gameTicksPerTurn : Int) : ℚ) / gameTicksPerTurn⌉ = months
  have positive : 1 ≤ months := wanted ▸ le_max_left _ _
  have enough : tick - world.boundary + gameTicksPerTurn ≤ months * gameTicksPerTurn := by
    have reached : ((tick - world.boundary + gameTicksPerTurn : Int) : ℚ) / gameTicksPerTurn ≤ (months : ℚ) :=
      (Int.le_ceil _).trans (by exact_mod_cast wanted ▸ le_max_right _ _)
    rw [div_le_iff₀ (by unfold gameTicksPerTurn; norm_num)] at reached
    exact_mod_cast reached
  refine ⟨by linarith, months.toNat, by omega, ?_⟩
  rw [boundary_iterate, Int.toNat_of_nonneg (by omega)]

/-! ### What holds in every world of a run -/

/-- The request a general's field holds. -/
def requestOf (world : OfficeWorld) (id : Int) : Option OfficeRequest := (world.field id).bind RequestField.current

/-- A step approves a request that was pending. -/
def Approves (world next : OfficeWorld) (id : Int) (request : OfficeRequest) : Prop :=
  world.PendingAt id request ∧ ∃ after ∈ next.requestOf id, after.status = .approved

/-- If one general at most held the office of a request before a step, then exactly one does after it. -/
def LeavesOneHolder (world next : OfficeWorld) (request : OfficeRequest) : Prop :=
  {id | world.Holds request.cityId request.officerLevel id}.Subsingleton →
    ∃! id, next.Holds request.cityId request.officerLevel id

/-- A settlement at a tick comes to a world, and goes on from it with one general. -/
def SettlementRound (world : OfficeWorld) (tick : Option Int) (before after : OfficeWorld) : Prop :=
  ∃ earlier entry later, world.generals.entries = earlier ++ entry :: later ∧
    before = earlier.foldl (OfficeWorld.settleGeneral tick) world ∧
    after = OfficeWorld.settleGeneral tick before entry

/-- A game that opens: nobody has made a request yet. -/
structure Opens (world : OfficeWorld) : Prop where
  month : world.currentMonth ≤ 12
  unrequested : ∀ id general, world.generals.get? id = some general → general.officeRequest = .empty

/-- The rules of the requests for city offices. -/
structure RequestRules (world : OfficeWorld) : Prop where
  /-- A general has at most one pending request. -/
  onePending : (world.pendingRequests.map OfficeRequest.generalId).Nodup
  /-- No two pending requests are for the same office of the same city. -/
  onePerOffice : (world.pendingRequests.map fun request => (request.cityId, request.officerLevel)).Nodup
  /-- A general makes at most one request in a quarter. -/
  onePerQuarter : ∀ id general, world.generals.get? id = some general → general.officeRequest.made.Nodup
  /-- The request of a quarter stops being pending at most once. -/
  decidedOnce : ∀ id general, world.generals.get? id = some general → general.officeRequest.decided.Nodup
  /-- A request that is made falls due at the beginning of a later month, at least one turn after it was made. -/
  deadline : ∀ command acceptedTick next, world.handleCityOfficeRequest command acceptedTick = (next, .ok ()) →
    command.action = .request → ∃ request ∈ next.requestOf command.generalId, request.status = .pending ∧
      request.createdTick = world.commandTick acceptedTick ∧
      request.createdTick + gameTicksPerTurn ≤ request.dueTick ∧
      ∃ months, 0 < months ∧ (nextMonth^[months] world).boundary = request.dueTick
  /-- A settlement approves a request only when it is due and approval was and is the default. -/
  automatic : ∀ tick before after id request, world.SettlementRound tick before after →
    before.Approves after id request → Reached tick request.dueTick ∧ request.defaultDecision = .approve ∧
      (∃ general, before.generals.get? id = some general ∧
        (before.eligibility id general request.cityId request.officerLevel).defaultDecision = .approve) ∧
      before.LeavesOneHolder after request
  /-- After the settlement a command approves a request only if it says so. -/
  byCommand : ∀ command acceptedTick actor id request, world.actorOf command = some actor →
    (world.settleCityOfficeRequests (some (world.commandTick acceptedTick))).Approves
      (world.handleCityOfficeRequest command acceptedTick).1 id request → command.action = .approve ∧
      (world.settleCityOfficeRequests (some (world.commandTick acceptedTick))).LeavesOneHolder
        (world.handleCityOfficeRequest command acceptedTick).1 request
  /-- Nothing but a settlement and a command approves a request. -/
  nothingElse : ∀ event next answer id request, officeMachine.step world event = some (next, answer) →
    world.Approves next id request →
    (∃ tick, event = .settle tick) ∨ ∃ command acceptedTick, event = .command command acceptedTick

theorem PendingAt.unique {id : Int} {one other : OfficeRequest} (first : world.PendingAt id one)
    (second : world.PendingAt id other) : one = other := by
  obtain ⟨⟨field, stored, held⟩, _⟩ := first
  obtain ⟨⟨same, storedToo, heldToo⟩, _⟩ := second
  obtain rfl := Option.some.inj (stored.symm.trans storedToo)
  exact Option.some.inj (held.symm.trans heldToo)

theorem not_approves_of_requestOf {id : Int} (same : next.requestOf id = world.requestOf id) :
    ¬ world.Approves next id request := by
  rintro ⟨⟨⟨field, stored, held⟩, pending⟩, after, found, approved⟩
  have there : world.requestOf id = some request := by
    unfold requestOf
    rw [stored]
    exact held
  rw [same, there] at found
  obtain rfl := Option.some.inj found
  rw [pending] at approved
  cases approved

theorem approves_of_writes {id holder : Int} {written : OfficeRequest} (writes : world.Writes next holder written)
    (approves : world.Approves next id request) : id = holder ∧ written.status = .approved := by
  have moved := writes.fields id
  by_cases same : id = holder
  · rw [if_pos same] at moved
    obtain ⟨_, after, found, approved⟩ := approves
    unfold requestOf at found
    rw [moved] at found
    obtain ⟨_, stored, current⟩ := Option.bind_eq_some_iff.mp found
    obtain ⟨_, _, rfl⟩ := Option.map_eq_some_iff.mp stored
    obtain rfl := Option.some.inj current
    exact ⟨same, approved⟩
  · rw [if_neg same] at moved
    exact absurd approves (not_approves_of_requestOf (by unfold requestOf; rw [moved]))

theorem leavesOneHolder_approve (valid : world.invalidReason request = none) :
    world.LeavesOneHolder (world.approve request) request :=
  fun alone => ⟨request.generalId, (holds_approve valid alone _).mpr rfl, fun id => (holds_approve valid alone id).mp⟩

theorem nodup_pendingRequests {β : Type} {key : OfficeRequest → β}
    (apart : ∀ first second one other, world.PendingAt first one → world.PendingAt second other →
      key one = key other → first = second) : (world.pendingRequests.map key).Nodup := by
  -- The pending requests come from generals that are listed once each.
  have distinct := List.pairwise_map.mp world.generals.nodup
  rw [List.Nodup, List.pairwise_map, pendingRequests, List.pairwise_filterMap]
  refine distinct.imp_of_mem fun {first second} member memberToo differs one held other heldToo same => differs ?_
  have pending (entry : Int × General) (listed : entry ∈ world.generals.entries) (waiting : OfficeRequest)
      (holds : entry.2.officeRequest.current.filter (fun request => request.status = .pending) = some waiting) :
      world.PendingAt entry.1 waiting := by
    obtain ⟨current, open_⟩ := Option.filter_eq_some_iff.mp holds
    exact ⟨⟨entry.2.officeRequest, by rw [field, OrderedMap.mem_entries.mp listed]; rfl, current⟩,
      by simpa using open_⟩
  exact apart first.1 second.1 one other (pending first member one held) (pending second memberToo other heldToo) same

theorem Opens.kept (opens : world.Opens) : world.Kept := by
  have empty : ∀ id found, world.field id = some found → found = .empty := by
    intro id found stored
    obtain ⟨general, present, rfl⟩ := Option.map_eq_some_iff.mp stored
    exact opens.unrequested id general present
  refine ⟨opens.month, fun id found stored => empty id found stored ▸ .empty, ?_⟩
  rintro first second one other ⟨⟨found, stored, held⟩, _⟩
  rw [empty first found stored] at held
  exact nomatch held

theorem Kept.step (kept : world.Kept) (stepped : officeMachine.step world event = some (next, answer)) :
    next.Kept := by
  cases event with
  | settle tick =>
    obtain ⟨rfl, _⟩ := Prod.mk.inj (Option.some.inj stepped)
    exact (kept.settle tick).1
  | command command acceptedTick =>
    obtain rfl := congrArg Prod.fst (Option.some.inj stepped)
    exact kept.handle command acceptedTick
  | advanceMonth turnTick =>
    obtain ⟨rfl, _⟩ := Prod.mk.inj (Option.some.inj stepped)
    exact kept.advanceMonth turnTick
  | shiftDeadlines deltaTicks cutTick =>
    obtain ⟨rfl, _⟩ := Prod.mk.inj (Option.some.inj stepped)
    exact kept.shiftDeadlines deltaTicks cutTick
  | change generals cities nations =>
    obtain ⟨rfl, _⟩ := Prod.mk.inj (Option.some.inj stepped)
    exact kept.change generals cities nations

theorem Kept.deadline (kept : world.Kept)
    (handled : world.handleCityOfficeRequest command acceptedTick = (next, .ok ()))
    (asked : command.action = .request) :
    ∃ request ∈ next.requestOf command.generalId, request.status = .pending ∧
      request.createdTick = world.commandTick acceptedTick ∧
      request.createdTick + gameTicksPerTurn ≤ request.dueTick ∧
      ∃ months, 0 < months ∧ (nextMonth^[months] world).boundary = request.dueTick := by
  unfold handleCityOfficeRequest at handled
  split at handled
  · cases handled
  · rename_i actor _
    simp only [if_pos asked] at handled
    have months := (kept.settle (some (world.commandTick acceptedTick))).2
    rcases requestOffice_cases _ command actor (world.commandTick acceptedTick) with
      ⟨_, refused⟩ | ⟨request, made, _, _, pending, created, due, ⟨field, stored, _⟩, _⟩
    · rw [refused] at handled
      cases handled
    · obtain rfl := congrArg Prod.fst (made.symm.trans handled)
      have written := (writes_save (world.settleCityOfficeRequests (some (world.commandTick acceptedTick)))
        command.generalId request).fields command.generalId
      rw [if_pos rfl, stored] at written
      obtain ⟨far, later⟩ := requestDueTick_spec world (world.commandTick acceptedTick)
      rw [boundary_congr months] at due
      refine ⟨request, ?_, pending, created, ?_, ?_⟩
      · unfold requestOf
        rw [written]
        rfl
      · rw [created, due]
        exact far
      · rw [due]
        exact later

theorem Kept.automatic (kept : world.Kept) {tick : Option Int} {before after : OfficeWorld} {id : Int}
    (round : world.SettlementRound tick before after) (approves : before.Approves after id request) :
    Reached tick request.dueTick ∧ request.defaultDecision = .approve ∧
      (∃ general, before.generals.get? id = some general ∧
        (before.eligibility id general request.cityId request.officerLevel).defaultDecision = .approve) ∧
      before.LeavesOneHolder after request := by
  obtain ⟨earlier, entry, later, entries, rfl, rfl⟩ := round
  obtain ⟨keptBefore, listed, _⟩ := kept.settling tick (entries ▸ world.listed_entries)
  rcases settleGeneral_cases tick (earlier.foldl (OfficeWorld.settleGeneral tick) world) entry with
    unchanged | ⟨settled, held, pending, outcome⟩
  · exact absurd approves (not_approves_of_requestOf (by rw [unchanged]))
  · have waits := pendingAt_of_listed listed held pending
    have own := keptBefore.own waits
    rcases outcome with ⟨status, reason, _, final, finished⟩ | ⟨valid, due, stored, current, approved⟩
    · rw [finished] at approves
      exact absurd (approves_of_writes (writes_finish _ _ _ _) approves).2 final
    · rw [approved] at approves ⊢
      -- The approved request is the one that was listed, of the general who is settled.
      obtain rfl : id = entry.1 := (approves_of_writes (writes_approve _ _) approves).1.trans own
      obtain rfl := approves.1.unique waits
      obtain ⟨general, present, same⟩ := listed.present entry List.mem_cons_self
      rw [defaultDecision_of_asListed same] at current
      exact ⟨due, stored, ⟨general, present, current⟩, leavesOneHolder_approve valid⟩

theorem Kept.byCommand (kept : world.Kept) {actor : General} {id : Int}
    (acts : world.actorOf command = some actor)
    (approves : (world.settleCityOfficeRequests (some (world.commandTick acceptedTick))).Approves
      (world.handleCityOfficeRequest command acceptedTick).1 id request) :
    command.action = .approve ∧
      (world.settleCityOfficeRequests (some (world.commandTick acceptedTick))).LeavesOneHolder
        (world.handleCityOfficeRequest command acceptedTick).1 request := by
  have settled := (kept.settle (some (world.commandTick acceptedTick))).1
  unfold handleCityOfficeRequest at approves ⊢
  simp only [acts] at approves ⊢
  split at approves
  · -- A new request is a pending one.
    rcases requestOffice_cases _ command actor (world.commandTick acceptedTick) with
      ⟨_, refused⟩ | ⟨made, saved, _, _, pending, _⟩
    · rw [refused] at approves
      exact absurd approves (not_approves_of_requestOf rfl)
    · rw [saved] at approves
      have approved := (approves_of_writes (writes_save _ _ _) approves).2
      rw [pending] at approved
      cases approved
  · rename_i decision
    rw [if_neg decision]
    rcases decideOffice_cases _ command actor decision with
      refused | ⟨holder, decided, waits, ⟨status, reason, _, final, finished⟩ | ⟨approval, valid, approved⟩⟩
    · rw [refused] at approves
      exact absurd approves (not_approves_of_requestOf rfl)
    · rw [finished] at approves
      exact absurd (approves_of_writes (writes_finish _ _ _ _) approves).2 final
    · rw [approved] at approves ⊢
      obtain rfl := (approves_of_writes (writes_approve _ _) approves).1.trans (settled.own waits)
      obtain rfl := approves.1.unique waits
      exact ⟨approval, leavesOneHolder_approve valid⟩

theorem nothingElse {id : Int} (stepped : officeMachine.step world event = some (next, answer))
    (approves : world.Approves next id request) :
    (∃ tick, event = .settle tick) ∨ ∃ command acceptedTick, event = .command command acceptedTick := by
  -- Of a general who stays, the request stays too, save for its deadline.
  have still : (∀ after ∈ next.requestOf id, ∃ before ∈ world.requestOf id, after.status = before.status) →
      False := by
    intro statuses
    obtain ⟨⟨⟨field, stored, held⟩, pending⟩, after, found, approved⟩ := approves
    obtain ⟨before, there, same⟩ := statuses after found
    unfold requestOf at there
    rw [stored] at there
    obtain rfl := Option.some.inj (held.symm.trans there)
    rw [same, pending] at approved
    cases approved
  cases event with
  | settle tick => exact .inl ⟨tick, rfl⟩
  | command command acceptedTick => exact .inr ⟨command, acceptedTick, rfl⟩
  | advanceMonth turnTick =>
    obtain ⟨rfl, _⟩ := Prod.mk.inj (Option.some.inj stepped)
    exact (still fun after found => ⟨after, found, rfl⟩).elim
  | shiftDeadlines deltaTicks cutTick =>
    obtain ⟨rfl, _⟩ := Prod.mk.inj (Option.some.inj stepped)
    refine (still fun after found => ?_).elim
    obtain ⟨_, stored, held⟩ := Option.bind_eq_some_iff.mp found
    rw [field_shiftDeadlines] at stored
    obtain ⟨old, present, rfl⟩ := Option.map_eq_some_iff.mp stored
    obtain ⟨before, current, rfl⟩ := Option.map_eq_some_iff.mp held
    obtain ⟨dueTick, same⟩ := before.shiftDeadline_eq deltaTicks cutTick
    refine ⟨before, ?_, by rw [same]⟩
    unfold requestOf
    rw [present]
    exact current
  | change generals cities nations =>
    obtain ⟨rfl, _⟩ := Prod.mk.inj (Option.some.inj stepped)
    refine (still fun after found => ?_).elim
    obtain ⟨old, stored, held⟩ := Option.bind_eq_some_iff.mp found
    rcases field_change stored with before | rfl
    · refine ⟨after, ?_, rfl⟩
      unfold requestOf
      rw [before]
      exact held
    · exact nomatch held

end OfficeWorld

open OfficeWorld in
/--
The rules of the requests for city offices hold in every world that a run reaches, whatever happens to the generals,
the cities and the nations in between.
-/
theorem office_requests {start final : OfficeWorld} {trace : List (OfficeEvent × Except String Unit)}
    (opens : start.Opens) (run : officeMachine.Run start trace final) : final.RequestRules := by
  have kept : final.Kept := run.stateInvariant opens.kept fun _ _ _ _ before _ stepped => before.step stepped
  refine ⟨?_, ?_, ?_, ?_, ?_, ?_, ?_, ?_⟩
  · refine nodup_pendingRequests fun first second one other waits waitsToo same => ?_
    rw [← kept.own waits, ← kept.own waitsToo]
    exact same
  · refine nodup_pendingRequests fun first second one other waits waitsToo same => ?_
    obtain ⟨here, level⟩ := Prod.mk.inj same
    exact kept.apart first second one other waits waitsToo here level
  · intro id general present
    exact (kept.fields id general.officeRequest (by rw [field, present]; rfl)).madeOnce
  · intro id general present
    exact (kept.fields id general.officeRequest (by rw [field, present]; rfl)).decidedOnce
  · exact fun command acceptedTick next handled asked => kept.deadline handled asked
  · exact fun tick before after id request round approves => kept.automatic round approves
  · exact fun command acceptedTick actor id request acts approves => kept.byCommand acts approves
  · exact fun event next answer id request stepped approves => nothingElse stepped approves

/-- A world of two generals in a city that has no governor. -/
def vacancy : OfficeWorld where
  generals := (OrderedMap.empty.set 1
    { name := "유비", userId := some "player", nationId := 1, cityId := 10, officerLevel := 1, npcState := 0
      strength := 75, intelligence := 78, penalty := .null, metadata := [("belong", .num 5)]
      officeRequest := .empty }).set 2
    { name := "손건", userId := none, nationId := 1, cityId := 10, officerLevel := 1, npcState := 2
      strength := 32, intelligence := 71, penalty := .null, metadata := [], officeRequest := .empty }
  cities := OrderedMap.empty.set 10 { name := "평원", nationId := 1, metadata := [] }
  nations := OrderedMap.empty.set 1 []
  currentYear := 190
  currentMonth := 1
  lastTurnTick := some 0
  lastTurnTimeTick := 0
  chiefStatMin := 65
  logs := []

/-- A request for the office of a governor, and the two months after which it is settled. -/
def vacancyEvents : List OfficeEvent :=
  [.command ⟨"player", 1, .request, some .governor, none, none⟩ 5000, .settle none, .advanceMonth 36000000,
    .settle (some 36000000), .settle none, .advanceMonth 72000000, .settle (some 72000000)]

/-- The rules hold after the request has been approved. -/
theorem office_requests_vacancy : ∃ final trace, officeMachine.replay vacancy vacancyEvents = some (final, trace) ∧
    (final.generals.get? 1).map General.officerLevel = some 4 ∧ final.RequestRules := by
  have promoted : (officeMachine.replay vacancy vacancyEvents).map
      (fun result => (result.1.generals.get? 1).map General.officerLevel) = some (some 4) := by
    decide +kernel
  obtain ⟨⟨final, trace⟩, replayed, governor⟩ := Option.map_eq_some_iff.mp promoted
  refine ⟨final, trace, replayed, governor, office_requests ⟨by decide, ?_⟩ (StateMachine.run_of_replay replayed)⟩
  intro id general present
  simp only [vacancy, OrderedMap.get?_set] at present
  split at present
  · obtain rfl := Option.some.inj present
    rfl
  · split at present
    · obtain rfl := Option.some.inj present
      rfl
    · cases present

end Sammo.Personnel
