import Sammo.Messages.ActionableMessage

/-! What a response resolves, and what one that fails leaves as it is. -/

namespace Sammo.ActionableMessage

variable {γ ν σ : Type} {env : Environment γ ν σ} {service next : Service γ ν σ} {response : Response}
  {result : Result} {messages : MessageTable}

/-! ### Tables -/

/-- The status of an action, if there is one. -/
def statusOf (messages : MessageTable) (id : ℕ+) : Option ActionStatus :=
  (messages.get? id).map MessageRow.actionStatus

/-- Actions only go from waiting to resolved. -/
def Advances (before after : MessageTable) : Prop :=
  ∀ id, statusOf after id = statusOf before id ∨
    (statusOf before id = some .pending ∧ statusOf after id = some .resolved)

theorem Advances.refl (messages : MessageTable) : Advances messages messages := fun _ => .inl rfl

theorem Advances.trans {first second third : MessageTable} (before : Advances first second)
    (after : Advances second third) : Advances first third := by
  -- An action that is resolved stays so.
  intro id
  rcases before id with same | ⟨pending, resolved⟩
  · rcases after id with still | ⟨pending, resolved⟩
    · exact .inl (still.trans same)
    · exact .inr ⟨same.symm.trans pending, resolved⟩
  · rcases after id with still | ⟨again, -⟩
    · exact .inr ⟨pending, still.trans resolved⟩
    · rw [resolved] at again
      cases again

theorem advances_mapValues {change : ℕ+ → MessageRow → MessageRow}
    (advances : ∀ id row,
      (change id row).actionStatus = row.actionStatus ∨ (change id row).actionStatus = .resolved) :
    Advances messages (messages.mapValues change) := by
  intro id
  rw [statusOf, statusOf, OrderedMap.get?_mapValues]
  cases messages.get? id with
  | none => exact .inl rfl
  | some row =>
    simp only [Option.map_some, Option.some.injEq]
    rcases advances id row with same | resolved
    · exact .inl same
    · rw [resolved]
      cases row.actionStatus
      · exact .inr ⟨rfl, rfl⟩
      · exact .inl rfl

theorem advances_invalidate (ids : List ℕ+) (now tick : Int) :
    Advances messages (invalidateMessageIds messages ids now tick) := by
  refine advances_mapValues fun id row => ?_
  split
  · exact .inr rfl
  · exact .inl rfl

theorem advances_shift (alignment : Alignment) :
    Advances messages (messages.mapValues fun _ row => alignment.shift row) := by
  refine advances_mapValues fun _ row => .inl ?_
  unfold Alignment.shift
  split
  · rfl
  · split <;> rfl

variable {id : ℕ+} {now tick : Int} {messageId : ℕ+} {payload : MessagePayload} {row : MessageRow}
  {actorId : Int} {answer : Bool} {authorized : Bool}

theorem mem_resolvedBetween {before after : MessageTable} :
    id ∈ resolvedBetween before after ↔ statusOf before id = some .pending ∧ statusOf after id = some .resolved := by
  have status (table : MessageTable) (status : ActionStatus) :
      (table.get? id).any (fun row => row.actionStatus = status) = true ↔ statusOf table id = some status := by
    rw [statusOf]
    cases table.get? id <;> simp
  rw [resolvedBetween, List.mem_filter, Bool.and_eq_true, status, status]
  refine ⟨fun listed => listed.2, fun both => ⟨?_, both⟩⟩
  -- An action that waits is in the table.
  rw [OrderedMap.mem_keys, OrderedMap.has]
  have present := both.1
  rw [statusOf] at present
  cases found : before.get? id with
  | none =>
    rw [found] at present
    cases present
  | some row => rfl

theorem mem_resolvedBetween_invalidate {ids : List ℕ+} :
    id ∈ resolvedBetween messages (invalidateMessageIds messages ids now tick) ↔
      statusOf messages id = some .pending ∧ id ∈ ids := by
  rw [mem_resolvedBetween]
  refine and_congr_right fun pending => ?_
  rw [statusOf] at pending
  rw [statusOf, invalidateMessageIds, OrderedMap.get?_mapValues]
  cases found : messages.get? id with
  | none =>
    rw [found] at pending
    cases pending
  | some row =>
    rw [found] at pending
    have waits : row.actionStatus = .pending := Option.some.inj pending
    by_cases listed : id ∈ ids <;> simp [listed, MessageRow.invalidate, waits]

theorem statusOf_otherLetters {mailbox : Int} (member : id ∈ otherLetters messages mailbox messageId tick) :
    statusOf messages id = some .pending := by
  obtain ⟨entry, listed, rfl⟩ := List.mem_map.mp member
  obtain ⟨there, passed⟩ := List.mem_filter.mp listed
  have present : messages.get? entry.1 = some entry.2 := OrderedMap.mem_entries.mp there
  simp only [Bool.and_eq_true, MessageRow.waits, decide_eq_true_eq] at passed
  rw [statusOf, present, Option.map_some, passed.1.2.1]

/-! ### Letters -/

/-- The letter that a response is about, once its user and its kind are known, and the time of the response. -/
def openLetter (service : Service γ ν σ) (response : Response) : Option (MessageRow × MessagePayload × Int) := do
  let tick ← validateActor service.world response
  let now ← (service.world.clock.tickToDate tick).toOption
  let row ← fetchMessageForUpdate service.messages response.messageId tick
  let payload ← row.message
  if payload.option.action = some row.actionType then pure (row, payload, now) else none

theorem openLetter_pending (letter : openLetter service response = some (row, payload, now)) :
    service.messages.get? response.messageId = some row ∧ row.actionStatus = .pending := by
  simp only [openLetter, Option.bind_eq_bind, Option.bind_eq_some_iff] at letter
  obtain ⟨tick, -, date, -, found, fetched, read, -, agrees⟩ := letter
  split at agrees
  · cases agrees
    obtain ⟨present, waits⟩ := Option.filter_eq_some_iff.mp fetched
    rw [MessageRow.waits, Bool.and_eq_true, decide_eq_true_eq] at waits
    exact ⟨present, waits.1⟩
  · cases agrees

theorem respond_eq (letter : openLetter service response = some (row, payload, now)) :
    respondToActionableMessage env service response =
      if row.actionType = "scout" then
        respondToScout env service response.generalId response.response response.messageId row payload now
      else if row.actionType = "raiseInvader" then
        respondToRaiseInvader env service response.generalId response.response response.authorized response.messageId
          row payload now
      else some (⟨false, none, "응답할 수 없는 메시지입니다."⟩, service) := by
  simp only [openLetter, Option.bind_eq_bind, Option.bind_eq_some_iff] at letter
  obtain ⟨tick, validated, date, dated, found, fetched, read, parsed, agrees⟩ := letter
  split at agrees
  · rename_i same
    cases agrees
    simp [respondToActionableMessage, validated, dated, fetched, parsed, same]
  · cases agrees

theorem respond_of_none (none_ : openLetter service response = none)
    (responded : respondToActionableMessage env service response = some (result, next)) :
    result.ok = false ∧ next = service := by
  unfold respondToActionableMessage at responded
  unfold openLetter at none_
  cases validated : validateActor service.world response with
  | none => simp [validated] at responded
  | some tick =>
    cases dated : (service.world.clock.tickToDate tick).toOption with
    | none => simp [validated, dated] at responded
    | some now =>
      cases fetched : fetchMessageForUpdate service.messages response.messageId tick with
      | none =>
        simp only [validated, dated, fetched, Option.some.injEq, Prod.mk.injEq] at responded
        obtain ⟨rfl, rfl⟩ := responded
        exact ⟨rfl, rfl⟩
      | some row =>
        cases read : row.message with
        | none =>
          simp only [validated, dated, fetched, read, Option.some.injEq, Prod.mk.injEq] at responded
          obtain ⟨rfl, rfl⟩ := responded
          exact ⟨rfl, rfl⟩
        | some payload =>
          -- The message is not what its action says, or the letter would be open.
          have differs : payload.option.action ≠ some row.actionType := by
            intro same
            simp [validated, dated, fetched, read, same] at none_
          simp only [validated, dated, fetched, read, if_pos differs, Option.some.injEq, Prod.mk.injEq] at responded
          obtain ⟨rfl, rfl⟩ := responded
          exact ⟨rfl, rfl⟩

/-- A recruitment that is accepted: the world after it, and the tick at which its letters are resolved. -/
def recruited (env : Environment γ ν σ) (service : Service γ ν σ) (response : Response) :
    Option (MessagePayload × World γ ν σ × Int) := do
  let (row, payload, now) ← openLetter service response
  if row.actionType ≠ "scout" ∨ !response.response ∨ !addressed row payload response.generalId ∨
      isLegacyTruthy payload.option.used ∨ !service.world.nations.has payload.src.nationId then none
  let execution :=
    env.execute service.world response.generalId payload.src.nationId payload.src.generalId response.messageId
  let _ ← execution.1.toOption
  let tick ← execution.2.dateToGameTick now
  pure (payload, execution.2, tick)

/-- A clock that is reconciled for a prompt whose arguments are not four numbers, and what comes with it. -/
def misaligned (env : Environment γ ν σ) (service : Service γ ν σ) (response : Response) :
    Option (Service γ ν σ) := do
  let (row, payload, _) ← openLetter service response
  if row.actionType ≠ "raiseInvader" ∨ !response.response ∨ !addressed row payload response.generalId ∨
      payload.option.used = .bool true ∨ service.world.isunited ≠ 2 ∨ (invaderArgs payload.option).isSome then none
  let (_, aligned) ← reconcileUnification env service response.authorized
  pure aligned

/-! ### What a response does -/

/-- The generals, the nations and the clock are as they were. -/
structure Unmoved (before after : World γ ν σ) : Prop where
  generals : after.generals = before.generals
  nations : after.nations = before.nations
  clock : after.clock = before.clock

theorem respondToScout_keeps
    (responded : respondToScout env service actorId answer messageId row payload now = some (result, next)) :
    Advances service.messages next.messages ∧ (result.ok = false → Unmoved service.world next.world) := by
  unfold respondToScout at responded
  split at responded
  · cases responded
    exact ⟨.refl _, fun _ => ⟨rfl, rfl, rfl⟩⟩
  split at responded
  · cases responded
    exact ⟨.refl _, fun _ => ⟨rfl, rfl, rfl⟩⟩
  split at responded
  · -- The nation has fallen: the letter goes, and the world stays.
    obtain ⟨tick, -, told⟩ := Option.map_eq_some_iff.mp responded
    cases told
    exact ⟨advances_invalidate _ now tick, fun _ => ⟨rfl, rfl, rfl⟩⟩
  split at responded
  · -- A recruitment that cannot be accepted is no failure.
    dsimp only at responded
    split at responded
    · cases responded
      exact ⟨.refl _, fun failed => by cases failed⟩
    · simp only [acceptScout, Option.bind_eq_bind, Option.bind_eq_some_iff, Option.pure_def, Option.some.injEq,
        Prod.mk.injEq] at responded
      obtain ⟨tick, -, rfl, rfl⟩ := responded
      exact ⟨advances_invalidate _ now tick, fun failed => by cases failed⟩
  · simp only [declineScout, Option.bind_eq_bind, Option.bind_eq_some_iff, Option.pure_def, Option.some.injEq,
      Prod.mk.injEq] at responded
    obtain ⟨tick, -, rfl, rfl⟩ := responded
    exact ⟨advances_invalidate _ now tick, fun failed => by cases failed⟩

theorem reconcileUnification_advances {alignment : Alignment} {aligned : Service γ ν σ}
    (reconciled : reconcileUnification env service authorized = some (alignment, aligned)) :
    Advances service.messages aligned.messages := by
  simp only [reconcileUnification, Option.bind_eq_bind, Option.bind_eq_some_iff] at reconciled
  obtain ⟨suspensionId, -, rest⟩ := reconciled
  split at rest
  · cases rest
  · simp only [Option.bind_eq_some_iff, Option.pure_def, Option.some.injEq, Prod.mk.injEq] at rest
    obtain ⟨_, -, world, -, rfl, rfl⟩ := rest
    exact advances_shift _

theorem respondToRaiseInvader_keeps
    (responded : respondToRaiseInvader env service actorId answer authorized messageId row payload now =
      some (result, next)) :
    Advances service.messages next.messages ∧
      (result.ok = false → Unmoved service.world next.world ∨
        (addressed row payload actorId ∧ payload.option.used ≠ .bool true ∧ answer ∧ service.world.isunited = 2 ∧
          invaderArgs payload.option = none ∧ (reconcileUnification env service authorized).isSome)) := by
  unfold respondToRaiseInvader at responded
  split at responded
  · cases responded
    exact ⟨.refl _, fun _ => .inl ⟨rfl, rfl, rfl⟩⟩
  split at responded
  · cases responded
    exact ⟨.refl _, fun _ => .inl ⟨rfl, rfl, rfl⟩⟩
  split at responded
  · obtain ⟨tick, -, told⟩ := Option.map_eq_some_iff.mp responded
    cases told
    exact ⟨advances_invalidate _ now tick, fun failed => by cases failed⟩
  split at responded
  · -- The general is told that the prompt is too early.
    cases responded
    exact ⟨.refl _, fun _ => .inl ⟨rfl, rfl, rfl⟩⟩
  · rename_i addressed_ used answered united
    cases reconciled : reconcileUnification env service authorized with
    | none => simp [reconciled] at responded
    | some both =>
      obtain ⟨alignment, aligned⟩ := both
      have advanced := reconcileUnification_advances reconciled
      simp only [reconciled, summonInvaders] at responded
      cases numbers : invaderArgs payload.option with
      | none =>
        -- The arguments are looked at once the clock has been reconciled.
        simp only [numbers, Option.some.injEq, Prod.mk.injEq] at responded
        obtain ⟨rfl, rfl⟩ := responded
        exact ⟨advanced, fun _ => .inr
          ⟨by simpa using addressed_, used, by simpa using answered, not_not.mp united, rfl, rfl⟩⟩
      | some args =>
        simp only [numbers, Option.bind_eq_bind, Option.bind_eq_some_iff] at responded
        obtain ⟨world, -, rest⟩ := responded
        split at rest
        · cases rest
        · simp only [Option.bind_eq_some_iff, Option.pure_def, Option.some.injEq, Prod.mk.injEq] at rest
          obtain ⟨date, -, rfl, rfl⟩ := rest
          exact ⟨advanced.trans (advances_invalidate _ date _), fun failed => by cases failed⟩

theorem respond_keeps (responded : respondToActionableMessage env service response = some (result, next)) :
    Advances service.messages next.messages ∧
      (result.ok = false → misaligned env service response = none → Unmoved service.world next.world) := by
  cases letter : openLetter service response with
  | none =>
    obtain ⟨-, rfl⟩ := respond_of_none letter responded
    exact ⟨.refl _, fun _ _ => ⟨rfl, rfl, rfl⟩⟩
  | some found =>
    obtain ⟨row, payload, now⟩ := found
    rw [respond_eq letter] at responded
    split at responded
    · have kept := respondToScout_keeps responded
      exact ⟨kept.1, fun failed _ => kept.2 failed⟩
    split at responded
    · rename_i prompt
      have kept := respondToRaiseInvader_keeps responded
      refine ⟨kept.1, fun failed careful => ?_⟩
      rcases kept.2 failed with unmoved | ⟨addressed_, used, answered, united, numbers, reconciled⟩
      · exact unmoved
      · -- The clock has been reconciled for arguments that are not four numbers.
        obtain ⟨both, aligned⟩ := Option.isSome_iff_exists.mp reconciled
        simp [misaligned, letter, prompt, addressed_, used, answered, united, numbers, aligned] at careful
    · cases responded
      exact ⟨.refl _, fun _ _ => ⟨rfl, rfl, rfl⟩⟩

theorem respond_recruited {world : World γ ν σ}
    (accepted : recruited env service response = some (payload, world, tick))
    (responded : respondToActionableMessage env service response = some (result, next)) :
    result = ⟨true, some .scout, "success"⟩ ∧
      ∃ now, next.messages =
        invalidateMessageIds service.messages
          (response.messageId :: otherLetters service.messages payload.src.generalId response.messageId tick)
          now tick := by
  simp only [recruited, Option.bind_eq_bind, Option.bind_eq_some_iff] at accepted
  obtain ⟨⟨row, read, now⟩, letter, rest⟩ := accepted
  dsimp only at rest
  split at rest
  · cases rest
  · rename_i passes
    simp only [not_or, ne_eq, not_not, Bool.not_eq_true', Bool.not_eq_false, Bool.not_eq_true] at passes
    obtain ⟨scout, answered, addressed_, used, stands⟩ := passes
    simp only [Option.bind_eq_some_iff, Option.pure_def, Option.some.injEq, Prod.mk.injEq] at rest
    obtain ⟨done, executed, at_, ticked, rfl, rfl, rfl⟩ := rest
    have pending := (openLetter_pending letter).2
    rw [respond_eq letter, if_pos scout] at responded
    cases outcome : (env.execute service.world response.generalId read.src.nationId read.src.generalId
        response.messageId).1 with
    | error reason =>
      rw [outcome] at executed
      cases executed
    | ok _ =>
      simp [respondToScout, addressed_, used, stands, answered, pending, scout, outcome, acceptScout,
        ticked] at responded
      exact ⟨responded.1.symm, now, by rw [← responded.2]⟩

end Sammo.ActionableMessage
