import Sammo.Inheritance.Charging

/-! What users have paid after any run of actions, turns and flushes. -/

namespace Sammo.Inheritance

variable {env : Environment} {service next : Service} {userId : String}

/-- No points wait to be spent, the records of a world that is open are open, and nobody has less than nothing. -/
structure Sound (service : Service) : Prop where
  queued : ∀ entry ∈ service.world.adjustments, entry.key ≠ "previous"
  records : service.db.recordsFinalized = true → service.world.united = true
  nonneg : ∀ userId, 0 ≤ lockPreviousPoint service.db userId

theorem lockPreviousPoint_flush (queued : ∀ entry ∈ service.world.adjustments, entry.key ≠ "previous")
    (userId : String) :
    lockPreviousPoint (persistChanges service).db userId = lockPreviousPoint service.db userId := by
  -- None of the points that wait are those.
  rw [lockPreviousPoint_persistChanges,
    waiting_eq_zero _ fun entry member => queued entry (List.mem_filter.mp member).1,
    waiting_eq_zero _ fun entry member => queued entry (List.mem_filter.mp member).1]
  split <;> exact add_zero _

/-- A flush enters nothing in the ledger. -/
@[simp]
theorem ledger_persistChanges (service : Service) :
    (persistChanges service).db.inheritanceLedger = service.db.inheritanceLedger := by
  -- Only points are written.
  unfold persistChanges persistInheritancePointAdjustments
  dsimp only
  split <;> split <;> rfl

/-- A flush does not make the records final. -/
@[simp]
theorem records_persistChanges (service : Service) :
    (persistChanges service).db.recordsFinalized = service.db.recordsFinalized := by
  -- Only points are written.
  unfold persistChanges persistInheritancePointAdjustments
  dsimp only
  split <;> split <;> rfl

theorem waiting_applyCharge {world : World} (general : General) (previousPoint cost : Int) (patch : General → General)
    (named : userId ≠ "") (queued : ∀ entry ∈ world.adjustments, entry.key ≠ "previous") (other : String) :
    waiting ((applyCharge world general userId previousPoint cost patch).adjustments.filter
        fun entry => !entry.afterLifecycle) other "previous" = (if other = userId then -cost else 0) ∧
      waiting ((applyCharge world general userId previousPoint cost patch).adjustments.filter
        Adjustment.afterLifecycle) other "previous" = 0 := by
  have before := waiting_eq_zero (world.adjustments.filter fun entry => !entry.afterLifecycle)
    (fun entry member => queued entry (List.mem_filter.mp member).1) other
  have after := waiting_eq_zero (world.adjustments.filter Adjustment.afterLifecycle)
    (fun entry member => queued entry (List.mem_filter.mp member).1) other
  unfold applyCharge World.queueInheritancePointAdjustment
  by_cases free : -cost = 0
  · -- What costs nothing is not queued.
    rw [if_pos (.inr free), free]
    exact ⟨before.trans (by split <;> rfl), after⟩
  · rw [if_neg (by simp [named, free])]
    dsimp only [World.updateGeneral]
    rw [List.filter_append, List.filter_append]
    refine ⟨?_, ?_⟩
    · rw [waiting, List.map_append, Increments.net_append]
      rw [waiting] at before
      rw [before]
      by_cases same : other = userId
      · simp [Increments.net, same]
      · have apart : ¬ userId = other := fun equal => same equal.symm
        simp [Increments.net, same, apart]
    · rw [waiting, List.map_append, Increments.net_append]
      rw [waiting] at after
      rw [after]
      simp [Increments.net]

/-! ### One command -/

/-- What an action does that is accepted. -/
structure Charged (service next : Service) (requestId userId : String) (input : InheritanceAction) (receipt : Receipt)
    (row : LedgerRow) : Prop where
  /-- The general of the user has the action, and has spent its price. -/
  general : ∃ general last, service.world.generalOf userId = some general ∧
    next.world.generalOf userId = some last ∧
    row = ⟨requestId, userId, input.action, price (resolveInheritConstants service.world.const) general input⟩ ∧
    receipt = ⟨general.id, lockPreviousPoint service.db userId - row.cost⟩ ∧
    readMetaNumber last.inheritSpentDyn 0 = readMetaNumber general.inheritSpentDyn 0 + row.cost ∧
    last.inheritBuff = buffsAfter general input ∧
    ∀ kind : ResetKind, kind.level last = kind.level general + (kind.is input).toNat
  points : lockPreviousPoint next.db userId = lockPreviousPoint service.db userId - row.cost
  ledger : next.db.inheritanceLedger = service.db.inheritanceLedger ++ [row]
  nonneg : 0 ≤ row.cost
  enough : row.cost ≤ lockPreviousPoint service.db userId
  others : ∀ other ≠ userId, lockPreviousPoint next.db other = lockPreviousPoint service.db other ∧
    next.world.generalOf other = service.world.generalOf other

/-- What an action leaves that is turned away or fails. -/
structure Untouched (service next : Service) : Prop where
  points : ∀ userId, lockPreviousPoint next.db userId = lockPreviousPoint service.db userId
  generals : next.world.generals = service.world.generals
  ledger : next.db.inheritanceLedger = service.db.inheritanceLedger

variable {input : InheritanceAction} {general : General} {requestId : String} {event : Option InputEvent}
  {commits : Bool} {outcome : Outcome} {first second : InheritBuffType} {user : String}

theorem lockPreviousPoint_paidFor (sound : Sound service) (named : userId ≠ "") (requestId : String)
    {offered : Offer} (fair : Fair service.world general input offered) (other : String) :
    lockPreviousPoint (persistChanges (paidFor service requestId userId input general offered)).db other =
      lockPreviousPoint service.db other + if other = userId then -offered.cost else 0 := by
  -- The world is open, so the charge is written.
  have open_ : service.db.recordsFinalized = false := by
    refine Bool.eq_false_iff.mpr fun final => ?_
    have united := sound.records final
    rw [fair.open_] at united
    cases united
  have records : (paidFor service requestId userId input general offered).db.recordsFinalized = false :=
    (fair.records service.db).trans open_
  have stored : lockPreviousPoint (paidFor service requestId userId input general offered).db other =
      lockPreviousPoint service.db other := by
    change ((offered.write service.db).inheritancePoint (other, "previous")).getD 0 = _
    rw [fair.points]
    rfl
  obtain ⟨before, after⟩ :
      waiting ((paidFor service requestId userId input general offered).world.adjustments.filter
          fun entry => !entry.afterLifecycle) other "previous" = (if other = userId then -offered.cost else 0) ∧
        waiting ((paidFor service requestId userId input general offered).world.adjustments.filter
          Adjustment.afterLifecycle) other "previous" = 0 :=
    waiting_applyCharge general (lockPreviousPoint service.db userId) offered.cost offered.patch named sound.queued
      other
  rw [lockPreviousPoint_persistChanges, records, stored, if_neg Bool.false_ne_true, before, after, add_zero]

theorem command_cases (sound : Sound service) (named : userId ≠ "")
    (ran : runCommand env service requestId userId input event commits = (next, outcome)) :
    (∃ receipt row, outcome = .accepted receipt row ∧ Charged service next requestId userId input receipt row) ∨
      (outcome = .failed ∨ ∃ rejection, outcome = .rejected rejection) ∧ Untouched service next := by
  rcases runCommand_cases ran with ⟨rfl, rfl⟩ | ⟨rejection, rfl, rfl⟩ |
    ⟨general, offered, found, fair, positive, enough, rfl, rfl⟩
  · exact .inr ⟨.inl rfl, fun _ => rfl, rfl, rfl⟩
  · exact .inr ⟨.inr ⟨rejection, rfl⟩, lockPreviousPoint_flush sound.queued, rfl, ledger_persistChanges service⟩
  · -- The general has been charged in memory, and the points in the table.
    obtain ⟨own, theirs⟩ := generalOf_applyCharge (lockPreviousPoint service.db userId) found fair
    have points := lockPreviousPoint_paidFor sound named requestId fair
    refine .inl ⟨_, _, rfl, ⟨general, _, found, own, ?_, rfl, rfl, fair.buffs, fair.levels⟩, ?_, ?_, positive, enough,
      fun other apart => ⟨?_, theirs other apart⟩⟩
    · rw [fair.cost]
    · rw [points, if_pos rfl]
      rfl
    · rw [ledger_persistChanges]
      rfl
    · rw [points, if_neg apart, add_zero]

theorem applyCharge_frame (world : World) (general : General) (userId : String) (previousPoint cost : Int)
    (patch : General → General) :
    (applyCharge world general userId previousPoint cost patch).const = world.const ∧
      (applyCharge world general userId previousPoint cost patch).united = world.united := by
  -- Only the general and the queue change.
  unfold applyCharge World.queueInheritancePointAdjustment
  dsimp only
  split <;> exact ⟨rfl, rfl⟩

theorem command_frame (ran : runCommand env service requestId userId input event commits = (next, outcome)) :
    next.world.const = service.world.const ∧ next.world.united = service.world.united ∧
      next.db.recordsFinalized = service.db.recordsFinalized ∧
      (next.world.adjustments = [] ∨ next = service) := by
  rcases runCommand_cases ran with ⟨-, rfl⟩ | ⟨_, -, rfl⟩ | ⟨general, offered, -, fair, -, -, -, rfl⟩
  · exact ⟨rfl, rfl, rfl, .inr rfl⟩
  · exact ⟨rfl, rfl, records_persistChanges service, .inl rfl⟩
  · obtain ⟨const, united⟩ := applyCharge_frame service.world general userId (lockPreviousPoint service.db userId)
      offered.cost offered.patch
    exact ⟨const, united, (records_persistChanges _).trans (fair.records service.db), .inl rfl⟩

theorem runCommand_of_step
    (stepped : (inheritanceService env).step service (.command requestId userId input event commits) =
      some (next, outcome)) :
    userId ≠ "" ∧ runCommand env service requestId userId input event commits = (next, outcome) := by
  unfold inheritanceService at stepped
  dsimp only at stepped
  split at stepped
  · cases stepped
  · rename_i named
    exact ⟨named, Option.some.inj stepped⟩

/-! ### One event -/

theorem Sound.step (sound : Sound service) {event : ServiceEvent}
    (stepped : (inheritanceService env).step service event = some (next, outcome)) :
    Sound next ∧ next.world.const = service.world.const := by
  cases event with
  | command requestId userId input event commits =>
    obtain ⟨named, ran⟩ := runCommand_of_step stepped
    obtain ⟨const, united, records, waits⟩ := command_frame ran
    refine ⟨⟨?_, ?_, ?_⟩, const⟩
    · rcases waits with none_ | rfl
      · rw [none_]
        exact fun _ member => by cases member
      · exact sound.queued
    · rw [records, united]
      exact sound.records
    · intro user
      rcases command_cases sound named ran with ⟨receipt, row, -, charged⟩ | ⟨-, untouched⟩
      · by_cases same : user = userId
        · -- The price is no more than the user had.
          have enough := charged.enough
          rw [same, charged.points]
          omega
        · rw [(charged.others user same).1]
          exact sound.nonneg user
      · rw [untouched.points]
        exact sound.nonneg user
  | queue adjustment =>
    unfold inheritanceService at stepped
    dsimp only at stepped
    split at stepped
    · cases stepped
    · rename_i other
      cases stepped
      refine ⟨⟨fun entry member => ?_, sound.records, sound.nonneg⟩, rfl⟩
      rcases List.mem_append.mp member with before | last
      · exact sound.queued entry before
      · rw [List.mem_singleton.mp last]
        exact other
  | flush =>
    cases stepped
    refine ⟨⟨fun _ member => (by cases member), ?_, fun user => ?_⟩, rfl⟩
    · rw [records_persistChanges]
      exact sound.records
    · rw [lockPreviousPoint_flush sound.queued]
      exact sound.nonneg user
  | settle userId points =>
    cases stepped
    refine ⟨⟨sound.queued, sound.records, fun user => ?_⟩, rfl⟩
    rw [lockPreviousPoint]
    dsimp only
    rw [Function.update_apply]
    split
    · exact Int.natCast_nonneg points
    · exact sound.nonneg user
  | play id npcState specialWar stats turnTick reserved unique =>
    obtain ⟨general, -, pair⟩ := Option.map_eq_some_iff.mp stepped
    cases pair
    exact ⟨⟨sound.queued, sound.records, sound.nonneg⟩, rfl⟩
  | unify =>
    cases stepped
    exact ⟨⟨sound.queued, fun _ => rfl, sound.nonneg⟩, rfl⟩
  | finalize =>
    unfold inheritanceService at stepped
    dsimp only at stepped
    split at stepped
    · rename_i united
      cases stepped
      exact ⟨⟨sound.queued, fun _ => united, sound.nonneg⟩, rfl⟩
    · cases stepped

/-! ### Buffs and resets -/

theorem key_ne (apart : first ≠ second) : first.key ≠ second.key := by
  cases first <;> cases second <;> simp_all [InheritBuffType.key]

theorem compatibilityKey_ne {name : String} (used : first.compatibilityKey = some name) : name ≠ second.key := by
  cases first <;> simp only [InheritBuffType.compatibilityKey, Option.some.injEq, reduceCtorEq] at used <;>
    cases second <;> simp [← used, InheritBuffType.key]

theorem readBuffLevel_set (buff : BuffRecord) (buffType : InheritBuffType) (level : BuffLevel)
    (other : InheritBuffType) :
    readBuffLevel (buff.set buffType.key level.level) other =
      if other = buffType then level.level else readBuffLevel buff other := by
  have most := level.most
  unfold readBuffLevel
  by_cases same : other = buffType
  · rw [if_pos same, same, OrderedMap.get?_set, if_pos rfl, Option.some_or, Option.getD_some]
    omega
  · have older : (other.compatibilityKey.bind fun name => (buff.set buffType.key level.level).get? name) =
        other.compatibilityKey.bind fun name => buff.get? name := by
      cases used : other.compatibilityKey with
      | none => rfl
      | some name =>
        rw [Option.bind_some, Option.bind_some, OrderedMap.get?_set, if_neg (compatibilityKey_ne used)]
    rw [if_neg same, OrderedMap.get?_set, if_neg (key_ne same)]
    exact congrArg (fun found => (max 0 (min 5 (((buff.get? other.key).or found).getD 0))).toNat) older

/-- What a user pays with an event for a buff. -/
def spentOn (userId : String) (buffType : InheritBuffType) : ServiceEvent × Outcome → Int
  | (.command _ user (.buyHiddenBuff bought _) _ _, .accepted _ row) =>
    if user = userId ∧ bought = buffType then row.cost else 0
  | _ => 0

/-- A user is reset with an event. -/
def resets (userId : String) (kind : ResetKind) : ServiceEvent × Outcome → Bool
  | (.command _ user input _ _, .accepted _ _) => decide (user = userId) && kind.is input
  | _ => false

theorem sum_toNat (test : ServiceEvent × Outcome → Bool) (trace : List (ServiceEvent × Outcome)) :
    (trace.map fun entry => ((test entry).toNat : Int)).sum = trace.countP test := by
  induction trace with
  | nil => rfl
  | cons entry rest ih =>
    rw [List.map_cons, List.sum_cons, ih, List.countP_cons]
    cases test entry <;> simp [Int.add_comm]

theorem price_buff (constants : InheritConstants) (general : General) (input : InheritanceAction)
    (buffType : InheritBuffType) {userId : String} {receipt : Receipt} {row : LedgerRow}
    (paid : row.cost = price constants general input) :
    buffPoints constants (readBuffLevel (buffsAfter general input) buffType) =
      buffPoints constants (readBuffLevel general.inheritBuff buffType) +
        spentOn userId buffType (.command requestId userId input event commits, .accepted receipt row) := by
  cases input with
  | buyHiddenBuff bought level =>
    rw [buffsAfter, readBuffLevel_set, spentOn]
    by_cases same : buffType = bought
    · rw [if_pos same, if_pos ⟨rfl, same.symm⟩, paid, price, same]
      omega
    · rw [if_neg same, if_neg fun both => same both.2.symm, Int.add_zero]
  | _ => exact (Int.add_zero _).symm

/-- An event moves the levels of a user by what the user buys with it. -/
structure Follows (constants : InheritConstants) (userId : String) (general last : General)
    (entry : ServiceEvent × Outcome) : Prop where
  buffs : ∀ buffType, buffPoints constants (readBuffLevel last.inheritBuff buffType) =
    buffPoints constants (readBuffLevel general.inheritBuff buffType) + spentOn userId buffType entry
  levels : ∀ kind : ResetKind, kind.level last = kind.level general + (resets userId kind entry).toNat

theorem follows_of_same {constants : InheritConstants} {last : General} {entry : ServiceEvent × Outcome}
    (buffs : last.inheritBuff = general.inheritBuff)
    (levels : ∀ kind : ResetKind, kind.level last = kind.level general)
    (spends : ∀ buffType, spentOn userId buffType entry = 0)
    (resetting : ∀ kind, resets userId kind entry = false) : Follows constants userId general last entry :=
  ⟨fun buffType => by rw [buffs, spends, Int.add_zero], fun kind => by simp [levels, resetting]⟩

theorem follows_of_turned_away (constants : InheritConstants) (general : General)
    (turned : outcome = .failed ∨ ∃ rejection, outcome = .rejected rejection) :
    Follows constants userId general general (.command requestId user input event commits, outcome) := by
  -- Only what is accepted is paid for.
  refine follows_of_same rfl (fun _ => rfl) (fun buffType => ?_) fun kind => ?_
  · rcases turned with rfl | ⟨_, rfl⟩ <;> cases input <;> rfl
  · rcases turned with rfl | ⟨_, rfl⟩ <;> rfl

theorem follows_of_other (constants : InheritConstants) (general : General) (apart : user ≠ userId) :
    Follows constants userId general general (.command requestId user input event commits, outcome) := by
  refine follows_of_same rfl (fun _ => rfl) (fun buffType => ?_) fun kind => ?_
  · cases outcome <;> cases input <;> simp [spentOn, apart]
  · cases outcome <;> simp [resets, apart]

theorem step_follows (sound : Sound service) {event : ServiceEvent}
    (found : service.world.generalOf userId = some general)
    (stepped : (inheritanceService env).step service event = some (next, outcome)) :
    ∃ last, next.world.generalOf userId = some last ∧
      Follows (resolveInheritConstants service.world.const) userId general last (event, outcome) := by
  cases event with
  | command requestId user input event commits =>
    obtain ⟨named, ran⟩ := runCommand_of_step stepped
    rcases command_cases sound named ran with ⟨receipt, row, rfl, charged⟩ | ⟨turned, untouched⟩
    · by_cases same : user = userId
      · -- The user's own action is accepted.
        subst same
        obtain ⟨before, last, had, has, rowEq, -, -, buffs, levels⟩ := charged.general
        obtain rfl := Option.some.inj (found.symm.trans had)
        refine ⟨last, has, fun buffType => ?_, fun kind => ?_⟩
        · rw [buffs]
          exact price_buff _ _ _ _ (congrArg LedgerRow.cost rowEq)
        · rw [levels, resets, decide_eq_true rfl, Bool.true_and]
      · exact ⟨general, ((charged.others userId (Ne.symm same)).2).trans found, follows_of_other _ _ same⟩
    · refine ⟨general, ?_, follows_of_turned_away _ _ turned⟩
      rw [World.generalOf, untouched.generals]
      exact found
  | queue adjustment =>
    unfold inheritanceService at stepped
    dsimp only at stepped
    split at stepped
    · cases stepped
    · cases stepped
      exact ⟨general, found, follows_of_same rfl (fun _ => rfl) (fun _ => rfl) fun _ => rfl⟩
  | flush =>
    cases stepped
    exact ⟨general, found, follows_of_same rfl (fun _ => rfl) (fun _ => rfl) fun _ => rfl⟩
  | settle user points =>
    cases stepped
    exact ⟨general, found, follows_of_same rfl (fun _ => rfl) (fun _ => rfl) fun _ => rfl⟩
  | play id npcState specialWar stats turnTick reserved unique =>
    obtain ⟨playing, here, pair⟩ := Option.map_eq_some_iff.mp stepped
    cases pair
    have member := List.mem_of_find?_eq_some here
    -- The general that goes on keeps its user and its levels, and it may be the user's.
    have replaced := generalOf_updateGeneral
      { playing with
        npcState := npcState
        specialWar := specialWar
        stats := stats
        turnTick := turnTick
        inheritSpecificSpecialWar := reserved
        inheritRandomUnique := unique } member rfl rfl userId
    rw [found, Option.map_some] at replaced
    refine ⟨_, replaced, ?_⟩
    by_cases same : general.id = playing.id
    · obtain rfl := eq_of_id_eq (generalOf_eq_some found).1 member same
      rw [if_pos rfl]
      exact follows_of_same rfl (fun kind => by cases kind <;> rfl) (fun _ => rfl) fun _ => rfl
    · rw [if_neg same]
      exact follows_of_same rfl (fun _ => rfl) (fun _ => rfl) fun _ => rfl
  | unify =>
    cases stepped
    exact ⟨general, found, follows_of_same rfl (fun _ => rfl) (fun _ => rfl) fun _ => rfl⟩
  | finalize =>
    unfold inheritanceService at stepped
    dsimp only at stepped
    split at stepped
    · cases stepped
      exact ⟨general, found, follows_of_same rfl (fun _ => rfl) (fun _ => rfl) fun _ => rfl⟩
    · cases stepped

/-! ### Runs -/

variable {start final : Service} {trace : List (ServiceEvent × Outcome)}

theorem sound_of_run (sound : Sound start) (run : (inheritanceService env).Run start trace final) :
    Sound final ∧ final.world.const = start.world.const := by
  let Kept (service : Service) : Prop := Sound service ∧ service.world.const = start.world.const
  have kept : Kept final := run.stateInvariant ⟨sound, rfl⟩ fun _ _ _ _ (held : Kept _) _ stepped =>
    ⟨(held.1.step stepped).1, (held.1.step stepped).2.trans held.2⟩
  exact kept

theorem follows_of_run (sound : Sound start) (run : (inheritanceService env).Run start trace final)
    (found : start.world.generalOf userId = some general) :
    ∃ last, final.world.generalOf userId = some last ∧
      (∀ buffType, (trace.map (spentOn userId buffType)).sum =
        buffPoints (resolveInheritConstants start.world.const) (readBuffLevel last.inheritBuff buffType) -
          buffPoints (resolveInheritConstants start.world.const) (readBuffLevel general.inheritBuff buffType)) ∧
      ∀ kind : ResetKind, kind.level last = kind.level general + trace.countP (resets userId kind) := by
  let Inv (service : Service) : Prop :=
    (Sound service ∧ service.world.const = start.world.const) ∧ ∃ last, service.world.generalOf userId = some last
  have initial : Inv start := ⟨⟨sound, rfl⟩, general, found⟩
  -- The sums are those of measures of the user's general.
  have telescopes (measure : General → Int) (amount : ServiceEvent × Outcome → Int)
      (raises : ∀ before after entry,
        Follows (resolveInheritConstants start.world.const) userId before after entry →
          measure after = measure before + amount entry) :=
    run.telescopes (fun service => (service.world.generalOf userId).elim 0 measure) amount initial
      fun service event outcome next (held : Inv service) _ stepped => by
        obtain ⟨⟨holds, const⟩, before, had⟩ := held
        obtain ⟨last, has, follows⟩ := step_follows holds had stepped
        rw [const] at follows
        refine ⟨⟨⟨(holds.step stepped).1, (holds.step stepped).2.trans const⟩, last, has⟩, ?_⟩
        rw [has, had]
        exact raises _ _ _ follows
  obtain ⟨⟨-, last, has⟩, -⟩ := telescopes (fun _ => 0) (fun _ => 0) fun _ _ _ _ => rfl
  refine ⟨last, has, fun buffType => ?_, fun kind => ?_⟩
  · obtain ⟨-, total⟩ := telescopes
      (fun general =>
        buffPoints (resolveInheritConstants start.world.const) (readBuffLevel general.inheritBuff buffType))
      (spentOn userId buffType) fun _ _ _ follows => follows.buffs buffType
    rw [has, found] at total
    dsimp only [Option.elim] at total
    omega
  · obtain ⟨-, total⟩ := telescopes (fun general => kind.level general)
      (fun entry => ((resets userId kind entry).toNat : Int)) fun _ _ _ follows => follows.levels kind
    rw [has, found, sum_toNat] at total
    exact total

theorem price_reset (constants : InheritConstants) (general : General) {kind : ResetKind}
    (isReset : kind.is input = true) :
    price constants general input = buildResetCost constants.inheritResetAttrPointBase (kind.level general + 1) := by
  -- Each kind is the reset of its own action.
  cases kind <;> cases input <;> first | rfl | cases isReset

theorem reset_of_run (sound : Sound start) (run : (inheritanceService env).Run start trace final)
    (found : start.world.generalOf userId = some general) {kind : ResetKind}
    {earlier later : List (ServiceEvent × Outcome)} {receipt : Receipt} {row : LedgerRow}
    (isReset : kind.is input = true)
    (split : trace = earlier ++ (.command requestId userId input event commits, .accepted receipt row) :: later) :
    row.cost = buildResetCost (resolveInheritConstants start.world.const).inheritResetAttrPointBase
      (kind.level general + 1 + earlier.countP (resets userId kind)) := by
  rw [split] at run
  obtain ⟨before, after, began, -, stepped, -⟩ := run.split_at
  obtain ⟨holds, const⟩ := sound_of_run sound began
  obtain ⟨last, has, -, levels⟩ := follows_of_run sound began found
  -- The reset is charged to the general as it has become by then.
  have charged : ∃ next, Charged before next requestId userId input receipt row := by
    obtain ⟨named, ran⟩ := runCommand_of_step stepped
    rcases command_cases holds named ran with ⟨_, _, same, charged⟩ | ⟨turned, -⟩
    · cases same
      exact ⟨_, charged⟩
    · rcases turned with turned | ⟨_, turned⟩ <;> cases turned
  obtain ⟨_, charged⟩ := charged
  obtain ⟨_, _, had, -, rowEq, -⟩ := charged.general
  obtain rfl := Option.some.inj (has.symm.trans had)
  rw [congrArg LedgerRow.cost rowEq, const, price_reset _ _ isReset, levels, Int.add_right_comm]

/--
After any run every action is charged its price or changes nothing, nobody has less than nothing, buffs have cost what
their levels differ by, and each reset what the continued list says.
-/
theorem inheritance_charging (env : Environment) {start final : Service} {trace : List (ServiceEvent × Outcome)}
    (sound : Sound start) (run : (inheritanceService env).Run start trace final) :
    (∀ userId, 0 ≤ lockPreviousPoint final.db userId) ∧
    (∀ requestId userId input event commits next outcome,
      (inheritanceService env).step final (.command requestId userId input event commits) = some (next, outcome) →
      (∃ receipt row, outcome = .accepted receipt row ∧ Charged final next requestId userId input receipt row) ∨
        (outcome = .failed ∨ ∃ rejection, outcome = .rejected rejection) ∧ Untouched final next) ∧
    (∀ userId general, start.world.generalOf userId = some general → ∃ last,
      final.world.generalOf userId = some last ∧ ∀ buffType, (trace.map (spentOn userId buffType)).sum =
        buffPoints (resolveInheritConstants start.world.const) (readBuffLevel last.inheritBuff buffType) -
          buffPoints (resolveInheritConstants start.world.const) (readBuffLevel general.inheritBuff buffType)) ∧
    (∀ userId general kind earlier later requestId input event commits receipt row,
      start.world.generalOf userId = some general → ResetKind.is kind input = true →
      trace = earlier ++ (.command requestId userId input event commits, .accepted receipt row) :: later →
      row.cost = buildResetCost (resolveInheritConstants start.world.const).inheritResetAttrPointBase
        (ResetKind.level general kind + 1 + earlier.countP (resets userId kind))) ∧
    ∀ base : List Int, Continues base fun level => buildResetCost base level := by
  obtain ⟨holds, -⟩ := sound_of_run sound run
  refine ⟨holds.nonneg, ?_, ?_, ?_, buildResetCost_continues⟩
  · intro requestId userId input event commits next outcome stepped
    obtain ⟨named, ran⟩ := runCommand_of_step stepped
    exact command_cases holds named ran
  · intro userId general found
    obtain ⟨last, has, buffs, -⟩ := follows_of_run sound run found
    exact ⟨last, has, buffs⟩
  · intro userId general kind earlier later requestId input event commits receipt row found isReset split
    exact reset_of_run sound run found isReset split

/-- A general whose user has ten thousand points. -/
def guanYu : General where
  id := 7
  name := "관우"
  userId := some "user-1"
  npcState := 0
  specialWar := none
  stats := ⟨95, 98, 75⟩
  turnTick := some 0
  previous := 10000
  inheritBuff := .empty
  inheritSpecificSpecialWar := none
  inheritResetSpecialWar := none
  inheritResetTurnTime := none
  nextTurnTimeBase := none
  inheritRandomUnique := false
  prevTypesSpecial2 := []
  inheritSpentDyn := some (.number 17)

/-- A world with this general, under the prices that a scenario need not set. -/
def onePlayer : Service where
  db := ⟨fun key => if key = ("user-1", "previous") then some 10000 else none, fun _ => [], [], false⟩
  world :=
    { generals := [guanYu]
      distinct := by decide
      adjustments := []
      united := false
      season := some 3
      const := ⟨none, none, none, none, none, none⟩
      availableSpecialWar := []
      statTotal := none
      statMin := none
      statMax := none
      isCentennialStatResetAllowed := true }

theorem onePlayer_sound : Sound onePlayer := by
  refine ⟨fun _ member => (by cases member), fun final => (by cases final), fun userId => ?_⟩
  rw [lockPreviousPoint, onePlayer]
  dsimp only
  split <;> decide

/-- An environment in which every draw is the same. -/
def evenly : Environment := ⟨fun _ => true, fun _ _ => 0, fun _ _ => (1, 1, 1)⟩

/-- The row of a request for an action. -/
def requested : Option InputEvent := some ⟨"user-1", "ENGINE", "inheritanceAction", some 1, some 1⟩

/-- A buff is raised to the second level at once, and then to the third. -/
def raised : Service × Outcome :=
  runCommand evenly onePlayer "r1" "user-1" (.buyHiddenBuff .warAvoidRatio ⟨2, by decide, by decide⟩) requested true

/-- The third level on top of the second. -/
def raisedAgain : Service × Outcome :=
  runCommand evenly raised.1 "r2" "user-1" (.buyHiddenBuff .warAvoidRatio ⟨3, by decide, by decide⟩) requested true

theorem step_command (env : Environment) (service : Service) (requestId : String) {userId : String}
    (input : InheritanceAction) (event : Option InputEvent) (commits : Bool) (named : userId ≠ "") :
    (inheritanceService env).step service (.command requestId userId input event commits) =
      some (runCommand env service requestId userId input event commits) :=
  if_neg named

theorem raisedAgain_run : ∃ trace, (inheritanceService evenly).Run onePlayer trace raisedAgain.1 :=
  have named : "user-1" ≠ "" := by decide
  have first := step_command evenly onePlayer "r1"
    (.buyHiddenBuff .warAvoidRatio ⟨2, by decide, by decide⟩) requested true named
  have second := step_command evenly raised.1 "r2"
    (.buyHiddenBuff .warAvoidRatio ⟨3, by decide, by decide⟩) requested true named
  ⟨_, .snoc (.snoc (.nil onePlayer) trivial first) trivial second⟩

/-- Two levels have cost what the second of them costs from the start. -/
theorem inheritance_charging_twice :
    lockPreviousPoint raisedAgain.1.db "user-1" = 8800 ∧
      raisedAgain.1.db.inheritanceLedger =
        [⟨"r1", "user-1", "buyHiddenBuff", 600⟩, ⟨"r2", "user-1", "buyHiddenBuff", 600⟩] ∧
      0 ≤ lockPreviousPoint raisedAgain.1.db "user-1" :=
  ⟨by decide, by decide, (inheritance_charging evenly onePlayer_sound raisedAgain_run.choose_spec).1 "user-1"⟩

end Sammo.Inheritance
