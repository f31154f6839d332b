import Mathlib.Data.List.Find
import Sammo.Inheritance.ActionService

/-! An action that is accepted costs its price, and nothing is paid for one that is not. -/

namespace Sammo.Inheritance

variable {env : Environment} {db : Database} {world : World} {general : General} {userId : String}

/-! ### Prices of resets -/

theorem continueCosts_succ (costs : List Int) (more : ℕ) :
    continueCosts costs (more + 1) = continueCosts costs more ++
      [((continueCosts costs more).reverse[0]?).getD 0 + ((continueCosts costs more).reverse[1]?).getD 0] := by
  -- The numbers that have been added are part of the list that goes on.
  induction more generalizing costs with
  | zero => rfl
  | succ more ih =>
    rw [continueCosts, ih]
    rfl

theorem length_continueCosts (costs : List Int) (more : ℕ) :
    (continueCosts costs more).length = costs.length + more := by
  induction more with
  | zero => rfl
  | succ more ih => rw [continueCosts_succ, List.length_append, ih, List.length_singleton, Nat.add_assoc]

theorem getElem?_continueCosts (costs : List Int) {index more : ℕ} (extra : ℕ) (there : index < costs.length + more) :
    (continueCosts costs (more + extra))[index]? = (continueCosts costs more)[index]? := by
  -- What comes later stands behind it.
  induction extra with
  | zero => rfl
  | succ extra ih =>
    rw [← Nat.add_assoc, continueCosts_succ, List.getElem?_append_left, ih]
    rw [length_continueCosts]
    omega

theorem buildResetCost_eq (base : List Int) {level more : ℕ} (there : level < base.length + more) :
    buildResetCost base level = ((continueCosts base more)[level]?).getD 0 := by
  -- The list goes on until it has the number, and that is far enough.
  have enough : level < base.length + (level + 1 - base.length) := by omega
  obtain ⟨extra, rfl⟩ : ∃ extra, more = (level + 1 - base.length) + extra :=
    ⟨more - (level + 1 - base.length), by omega⟩
  rw [buildResetCost, if_neg (by omega), Int.toNat_natCast, getElem?_continueCosts base extra enough]

/-- Prices that are listed first, and then go on by the sums of the two before. -/
structure Continues (base : List Int) (costs : ℕ → Int) : Prop where
  listed : ∀ level (there : level < base.length), costs level = base[level]
  sum : ∀ level, base.length ≤ level + 2 → costs (level + 2) = costs (level + 1) + costs level
  /-- A list of one number goes on by that number. -/
  single : base.length = 1 → costs 1 = costs 0

theorem buildResetCost_continues (base : List Int) : Continues base fun level => buildResetCost base level := by
  -- A number behind the list is the last one when the list has gone on that far.
  have beyond (level : ℕ) (behind : base.length ≤ level) : buildResetCost base level =
      ((continueCosts base (level - base.length)).reverse[0]?).getD 0 +
        ((continueCosts base (level - base.length)).reverse[1]?).getD 0 := by
    have length : (continueCosts base (level - base.length)).length = level := by
      rw [length_continueCosts]
      omega
    rw [buildResetCost_eq base (show level < base.length + (level - base.length + 1) by omega), continueCosts_succ,
      List.getElem?_append_right (Nat.le_of_eq length), length, Nat.sub_self]
    rfl
  refine ⟨fun level there => ?_, fun level behind => ?_, fun one => ?_⟩
  · rw [buildResetCost_eq base (show level < base.length + 0 from there), continueCosts,
      List.getElem?_eq_getElem there, Option.getD_some]
  · have length : (continueCosts base (level + 2 - base.length)).length = level + 2 := by
      rw [length_continueCosts]
      omega
    have first := beyond (level + 2) behind
    rw [List.getElem?_reverse (by omega), List.getElem?_reverse (by omega), length] at first
    rw [first, buildResetCost_eq base (show level + 1 < base.length + (level + 2 - base.length) by omega),
      buildResetCost_eq base (show level < base.length + (level + 2 - base.length) by omega)]
    rfl
  · obtain ⟨only, rfl⟩ := List.length_eq_one_iff.mp one
    simp [buildResetCost, continueCosts]

/-! ### Prices -/

/-- What an action costs a general. -/
def price (constants : InheritConstants) (general : General) : InheritanceAction → Int
  | .buyHiddenBuff buffType level =>
    buffPoints constants level.level - buffPoints constants (readBuffLevel general.inheritBuff buffType)
  | .setNextSpecialWar _ => constants.inheritSpecificSpecialPoint
  | .resetSpecialWar =>
    buildResetCost constants.inheritResetAttrPointBase (readMetaNumber general.inheritResetSpecialWar (-1) + 1)
  | .resetTurnTime =>
    buildResetCost constants.inheritResetAttrPointBase (readMetaNumber general.inheritResetTurnTime (-1) + 1)
  | .resetStat _ _ _ bonus =>
    if 0 < (bonus.getD (0, 0, 0)).1 + (bonus.getD (0, 0, 0)).2.1 + (bonus.getD (0, 0, 0)).2.2 then
      constants.inheritBornStatPoint
    else 0
  | .buyRandomUnique => constants.inheritItemRandomPoint
  | .checkOwner _ => constants.inheritCheckOwnerPoint

/-- The buffs of a general after an action. -/
def buffsAfter (general : General) : InheritanceAction → BuffRecord
  | .buyHiddenBuff buffType level => general.inheritBuff.set buffType.key level.level
  | _ => general.inheritBuff

/-- The two kinds of resets that grow dearer. -/
inductive ResetKind where
  | specialWar
  | turnTime
  deriving DecidableEq

/-- An action is a reset of a kind. -/
def ResetKind.is : ResetKind → InheritanceAction → Bool
  | .specialWar, .resetSpecialWar => true
  | .turnTime, .resetTurnTime => true
  | _, _ => false

/-- How often a general has been reset, less one. -/
def ResetKind.level (general : General) : ResetKind → Int
  | .specialWar => readMetaNumber general.inheritResetSpecialWar (-1)
  | .turnTime => readMetaNumber general.inheritResetTurnTime (-1)

/-- An offer asks for the price of the action and touches nothing that the others count on. -/
structure Fair (world : World) (general : General) (input : InheritanceAction) (offered : Offer) : Prop where
  open_ : world.united = false
  cost : offered.cost = price (resolveInheritConstants world.const) general input
  id : (offered.patch general).id = general.id
  userId : (offered.patch general).userId = general.userId
  buffs : (offered.patch general).inheritBuff = buffsAfter general input
  levels : ∀ kind : ResetKind, kind.level (offered.patch general) = kind.level general + (kind.is input).toNat
  points : ∀ db, (offered.write db).inheritancePoint = db.inheritancePoint
  ledger : ∀ db, (offered.write db).inheritanceLedger = db.inheritanceLedger
  records : ∀ db, (offered.write db).recordsFinalized = db.recordsFinalized

variable {offered : Offer} {input : InheritanceAction} {after : Database} {next : World} {requestId : String}
  {event : Option InputEvent}

/-- What is offered in a world that is not united yet. -/
@[simp]
theorem unlessUnited_eq_ok {offer : Offer} :
    unlessUnited world offer = .ok offered ↔ world.united = false ∧ offer = offered := by
  -- A united world is turned away.
  unfold unlessUnited
  cases world.united <;> simp

/-- A check has not turned a request away. -/
@[simp]
theorem ite_badRequest_eq_ok {α : Type} {check : Prop} [Decidable check] {reason : String} {value : α}
    {rest : Except Rejection α} :
    (if check then badRequest reason else rest) = .ok value ↔ ¬ check ∧ rest = .ok value := by
  -- The reason is not an offer.
  by_cases met : check <;> simp [met, badRequest]

theorem noteStatReset_frame (userId : String) (season : Option Int) (db : Database) :
    (noteStatReset userId season db).inheritancePoint = db.inheritancePoint ∧
      (noteStatReset userId season db).inheritanceLedger = db.inheritanceLedger ∧
      (noteStatReset userId season db).recordsFinalized = db.recordsFinalized := by
  -- Only the seasons of the user change, if the season has a number.
  cases season <;> exact ⟨rfl, rfl, rfl⟩

theorem fair_plain {cost : Int} {patch : General → General} (open_ : world.united = false)
    (priced : cost = price (resolveInheritConstants world.const) general input)
    (id : (patch general).id = general.id) (user : (patch general).userId = general.userId)
    (buffs : (patch general).inheritBuff = buffsAfter general input)
    (levels : ∀ kind : ResetKind, kind.level (patch general) = kind.level general + (kind.is input).toNat) :
    Fair world general input (.plain cost patch) :=
  -- The tables are written back as they are.
  ⟨open_, priced, id, user, buffs, levels, fun _ => rfl, fun _ => rfl, fun _ => rfl⟩

theorem offer_fair (accepted : offer env db world general userId input = .ok offered) :
    Fair world general input offered := by
  -- One case for each action; an offer is what is left when no check has turned the request away.
  cases input with
  | checkOwner targetGeneralId =>
    simp only [offer, checkOwner, ite_badRequest_eq_ok] at accepted
    obtain ⟨-, looked⟩ := accepted
    split at looked
    · cases looked
    · simp only [ite_badRequest_eq_ok, unlessUnited_eq_ok] at looked
      obtain ⟨-, open_, rfl⟩ := looked
      exact fair_plain open_ rfl rfl rfl rfl fun kind => by cases kind <;> simp [ResetKind.is]
  | buyHiddenBuff buffType level =>
    simp only [offer, buyHiddenBuff, ite_badRequest_eq_ok, unlessUnited_eq_ok] at accepted
    obtain ⟨-, -, open_, rfl⟩ := accepted
    exact fair_plain open_ rfl rfl rfl rfl fun kind => by cases kind <;> simp [ResetKind.is, ResetKind.level]
  | setNextSpecialWar specialKey =>
    simp only [offer, setNextSpecialWar, ite_badRequest_eq_ok, unlessUnited_eq_ok] at accepted
    obtain ⟨-, -, -, -, -, open_, rfl⟩ := accepted
    exact fair_plain open_ rfl rfl rfl rfl fun kind => by cases kind <;> simp [ResetKind.is, ResetKind.level]
  | resetSpecialWar =>
    simp only [offer, resetSpecialWar, ite_badRequest_eq_ok, unlessUnited_eq_ok] at accepted
    obtain ⟨-, open_, rfl⟩ := accepted
    exact fair_plain open_ rfl rfl rfl rfl fun kind => by
      cases kind <;> simp [ResetKind.is, ResetKind.level, readMetaNumber]
  | resetTurnTime =>
    simp only [offer, resetTurnTime, unlessUnited_eq_ok] at accepted
    obtain ⟨open_, rfl⟩ := accepted
    exact fair_plain open_ rfl rfl rfl rfl fun kind => by
      cases kind <;> simp [ResetKind.is, ResetKind.level, readMetaNumber]
  | buyRandomUnique =>
    simp only [offer, buyRandomUnique, ite_badRequest_eq_ok, unlessUnited_eq_ok] at accepted
    obtain ⟨-, open_, rfl⟩ := accepted
    exact fair_plain open_ rfl rfl rfl rfl fun kind => by cases kind <;> simp [ResetKind.is, ResetKind.level]
  | resetStat leadership strength intel inheritBonusStat =>
    simp only [offer, resetStat, ite_badRequest_eq_ok] at accepted
    obtain ⟨-, -, -, -, -, -, later⟩ := accepted
    -- The check for a united world stands between two checks of the request.
    split at later
    · cases later
    · rename_i open_
      obtain ⟨-, offered_⟩ := ite_badRequest_eq_ok.mp later
      obtain rfl := (Except.ok.inj offered_).symm
      exact ⟨Bool.eq_false_iff.mpr open_, rfl, rfl, rfl, rfl,
        fun kind => by cases kind <;> simp [ResetKind.is, ResetKind.level],
        fun _ => (noteStatReset_frame ..).1, fun _ => (noteStatReset_frame ..).2.1,
        fun _ => (noteStatReset_frame ..).2.2⟩

/-! ### Generals -/

theorem eq_of_id_eq {first second : General} (here : first ∈ world.generals) (there : second ∈ world.generals)
    (same : first.id = second.id) : first = second :=
  -- The numbers of the generals are distinct.
  List.inj_on_of_nodup_map world.distinct here there same

theorem generalOf_updateGeneral {old : General} (next : General) (member : old ∈ world.generals)
    (id : next.id = old.id) (user : next.userId = old.userId) (other : String) :
    (world.updateGeneral next).generalOf other =
      (world.generalOf other).map fun general => if general.id = next.id then next else general := by
  -- Whether a general is the one looked for does not change when it is replaced.
  have alike : ∀ general ∈ world.generals,
      decide ((if general.id = next.id then next else general).userId = some other) =
        decide (general.userId = some other) := by
    intro general listed
    by_cases same : general.id = next.id
    · rw [if_pos same, user, eq_of_id_eq listed member (same.trans id)]
    · rw [if_neg same]
  unfold World.generalOf World.updateGeneral
  dsimp only
  rw [List.find?_map]
  exact congrArg (Option.map _) (List.find?_congr alike)

theorem generalOf_eq_some (found : world.generalOf userId = some general) :
    general ∈ world.generals ∧ general.userId = some userId :=
  -- It has been found in the list, by its user.
  have passed := List.find?_some found
  ⟨List.mem_of_find?_eq_some found, of_decide_eq_true passed⟩

/-- Queueing a change of points concerns no general. -/
@[simp]
theorem generalOf_queue (world : World) (user key : String) (amount : Int) (other : String) :
    (world.queueInheritancePointAdjustment user key amount).generalOf other = world.generalOf other := by
  -- The queue is another part of the world.
  unfold World.queueInheritancePointAdjustment
  split <;> rfl

/-- A general that has been charged. -/
def charged (general : General) (previousPoint : Int) (offered : Offer) : General :=
  { offered.patch general with
    inheritSpentDyn := some (.number (readMetaNumber general.inheritSpentDyn 0 + offered.cost))
    previous := previousPoint - offered.cost }

theorem generalOf_applyCharge (previousPoint : Int) (found : world.generalOf userId = some general)
    (fair : Fair world general input offered) :
    (applyCharge world general userId previousPoint offered.cost offered.patch).generalOf userId =
        some (charged general previousPoint offered) ∧
      ∀ other ≠ userId,
        (applyCharge world general userId previousPoint offered.cost offered.patch).generalOf other =
          world.generalOf other := by
  obtain ⟨member, user⟩ := generalOf_eq_some found
  have replaced := generalOf_updateGeneral (charged general previousPoint offered) member fair.id fair.userId
  change ((world.updateGeneral (charged general previousPoint offered)).queueInheritancePointAdjustment userId
    "previous" (-offered.cost)).generalOf userId = _ ∧ ∀ other ≠ userId, ((world.updateGeneral
    (charged general previousPoint offered)).queueInheritancePointAdjustment userId "previous"
    (-offered.cost)).generalOf other = _
  refine ⟨?_, fun other apart => ?_⟩
  · have same : general.id = (charged general previousPoint offered).id := fair.id.symm
    rw [generalOf_queue, replaced, found, Option.map_some, if_pos same]
  · -- The general of another user has another number.
    rw [generalOf_queue, replaced]
    cases theirs : world.generalOf other with
    | none => rfl
    | some second =>
      obtain ⟨listed, owner⟩ := generalOf_eq_some theirs
      have differs : second.id ≠ (charged general previousPoint offered).id := by
        intro same
        have one := eq_of_id_eq listed member (same.trans fair.id)
        rw [one, user] at owner
        exact apart (Option.some.inj owner).symm
      rw [Option.map_some, if_neg differs]

/-! ### Points -/

/-- The points that wait for a user under a key. -/
def waiting (entries : List Adjustment) (userId key : String) : Int :=
  Increments.net (entries.map fun entry => ((entry.userId, entry.key), entry.amount)) (userId, key)

theorem lockPreviousPoint_persist (db : Database) (entries : List Adjustment) (userId : String) :
    lockPreviousPoint (persistInheritancePointAdjustments db entries) userId =
      lockPreviousPoint db userId + if db.recordsFinalized then 0 else waiting entries userId "previous" := by
  unfold persistInheritancePointAdjustments
  cases final : db.recordsFinalized with
  | true => simp
  | false =>
    rw [Bool.false_or]
    split
    · -- Nothing waits, so nothing is added.
      rename_i none_
      rw [List.isEmpty_iff.mp none_]
      exact (add_zero _).symm
    · exact Increments.value_upsert_grouped _ db.inheritancePoint (userId, "previous")

theorem waiting_eq_zero (entries : List Adjustment) (others : ∀ entry ∈ entries, entry.key ≠ "previous")
    (userId : String) : waiting entries userId "previous" = 0 := by
  -- No amount has this key.
  refine Increments.net_of_notMem fun entry member same => ?_
  obtain ⟨adjustment, listed, rfl⟩ := List.mem_map.mp member
  exact others adjustment listed (Prod.mk.inj same).2

theorem lockPreviousPoint_persistChanges (service : Service) (userId : String) :
    lockPreviousPoint (persistChanges service).db userId = lockPreviousPoint service.db userId +
      if service.db.recordsFinalized then 0
      else waiting (service.world.adjustments.filter fun entry => !entry.afterLifecycle) userId "previous" +
        waiting (service.world.adjustments.filter Adjustment.afterLifecycle) userId "previous" := by
  -- Writing does not make the records final.
  have records : (persistInheritancePointAdjustments service.db
      (service.world.adjustments.filter fun entry => !entry.afterLifecycle)).recordsFinalized =
        service.db.recordsFinalized := by
    unfold persistInheritancePointAdjustments
    split <;> rfl
  rw [persistChanges, lockPreviousPoint_persist, lockPreviousPoint_persist, records, add_assoc]
  cases service.db.recordsFinalized <;> simp

/-! ### Commands -/

theorem executeInheritanceActionMutation_ok {receipt : Receipt}
    (ran : executeInheritanceActionMutation env db world userId input = .ok (receipt, after, next)) :
    ∃ general offered, world.generalOf userId = some general ∧ Fair world general input offered ∧
      offered.cost ≤ lockPreviousPoint db userId ∧
      receipt = ⟨general.id, lockPreviousPoint db userId - offered.cost⟩ ∧ after = offered.write db ∧
      next = applyCharge world general userId (lockPreviousPoint db userId) offered.cost offered.patch := by
  unfold executeInheritanceActionMutation at ran
  cases found : world.generalOf userId with
  | none =>
    rw [found] at ran
    cases ran
  | some general =>
    rw [found] at ran
    dsimp only at ran
    cases offering : offer env db world general userId input with
    | error rejection =>
      rw [offering] at ran
      cases ran
    | ok offered =>
      simp only [offering, ite_badRequest_eq_ok, Except.ok.injEq, Prod.mk.injEq] at ran
      obtain ⟨enough, rfl, rfl, rfl⟩ := ran
      exact ⟨general, offered, rfl, offer_fair offering, Int.not_lt.mp enough, rfl, rfl, rfl⟩

theorem executeInheritanceAction_ok {receipt : Receipt} {row : LedgerRow}
    (ran : executeInheritanceAction env db world requestId userId input event =
      some (.ok (receipt, row), after, next)) :
    ∃ general offered, world.generalOf userId = some general ∧ Fair world general input offered ∧
      0 ≤ offered.cost ∧ offered.cost ≤ lockPreviousPoint db userId ∧
      receipt = ⟨general.id, lockPreviousPoint db userId - offered.cost⟩ ∧
      row = ⟨requestId, userId, input.action, offered.cost⟩ ∧
      after = { offered.write db with inheritanceLedger := db.inheritanceLedger ++ [row] } ∧
      next = applyCharge world general userId (lockPreviousPoint db userId) offered.cost offered.patch := by
  unfold executeInheritanceAction at ran
  cases mutated : executeInheritanceActionMutation env db world userId input with
  | error rejection =>
    rw [mutated] at ran
    cases ran
  | ok result =>
    obtain ⟨first, written, changed⟩ := result
    rw [mutated] at ran
    obtain ⟨general, offered, found, fair, enough, rfl, rfl, rfl⟩ := executeInheritanceActionMutation_ok mutated
    -- The second reading of the points is the first, for nothing has been written to them.
    have paid : lockPreviousPoint (offered.write db) userId - (lockPreviousPoint db userId - offered.cost) =
        offered.cost := by
      have same : lockPreviousPoint (offered.write db) userId = lockPreviousPoint db userId := by
        rw [lockPreviousPoint, fair.points]
        rfl
      omega
    dsimp only at ran
    rw [paid, fair.ledger] at ran
    split at ran
    · cases ran
    · split at ran
      · cases ran
      · rename_i positive
        split at ran
        · cases ran
        · simp only [Option.some.injEq, Prod.mk.injEq, Except.ok.injEq] at ran
          obtain ⟨⟨rfl, rfl⟩, rfl, rfl⟩ := ran
          exact ⟨general, offered, found, fair, Int.not_lt.mp positive, enough, rfl, rfl, rfl, rfl⟩

theorem executeInheritanceAction_error {rejection : Rejection}
    (ran : executeInheritanceAction env db world requestId userId input event =
      some (.error rejection, after, next)) : after = db ∧ next = world := by
  unfold executeInheritanceAction at ran
  cases mutated : executeInheritanceActionMutation env db world userId input with
  | error rejection =>
    rw [mutated] at ran
    cases ran
    exact ⟨rfl, rfl⟩
  | ok result =>
    rw [mutated] at ran
    dsimp only at ran
    -- Nothing that goes through is rejected by the ledger.
    split at ran
    · cases ran
    · split at ran
      · cases ran
      · split at ran
        · cases ran
        · cases ran

/-- The service after an offer has been paid for, before the price is written. -/
def paidFor (service : Service) (requestId userId : String) (input : InheritanceAction) (general : General)
    (offered : Offer) : Service where
  db :=
    { offered.write service.db with
      inheritanceLedger := service.db.inheritanceLedger ++ [⟨requestId, userId, input.action, offered.cost⟩] }
  world := applyCharge service.world general userId (lockPreviousPoint service.db userId) offered.cost offered.patch

theorem runCommand_cases {service next : Service} {commits : Bool} {outcome : Outcome}
    (ran : runCommand env service requestId userId input event commits = (next, outcome)) :
    (outcome = .failed ∧ next = service) ∨
    (∃ rejection, outcome = .rejected rejection ∧ next = persistChanges service) ∨
    ∃ general offered, service.world.generalOf userId = some general ∧ Fair service.world general input offered ∧
      0 ≤ offered.cost ∧ offered.cost ≤ lockPreviousPoint service.db userId ∧
      outcome = .accepted ⟨general.id, lockPreviousPoint service.db userId - offered.cost⟩
        ⟨requestId, userId, input.action, offered.cost⟩ ∧
      next = persistChanges (paidFor service requestId userId input general offered) := by
  unfold runCommand at ran
  cases executed : executeInheritanceAction env service.db service.world requestId userId input event with
  | none =>
    rw [executed] at ran
    cases ran
    exact .inl ⟨rfl, rfl⟩
  | some made =>
    obtain ⟨result, after, world⟩ := made
    rw [executed] at ran
    dsimp only at ran
    cases commits with
    | false =>
      cases ran
      exact .inl ⟨rfl, rfl⟩
    | true =>
      cases result with
      | error rejection =>
        obtain ⟨rfl, rfl⟩ := executeInheritanceAction_error executed
        cases ran
        exact .inr (.inl ⟨rejection, rfl, rfl⟩)
      | ok made =>
        obtain ⟨receipt, row⟩ := made
        obtain ⟨general, offered, found, fair, positive, enough, rfl, rfl, rfl, rfl⟩ :=
          executeInheritanceAction_ok executed
        cases ran
        exact .inr (.inr ⟨general, offered, found, fair, positive, enough, rfl, rfl⟩)

end Sammo.Inheritance
