import Sammo.Lib.Increments
import Sammo.Messages.ResponseLaws
import Sammo.World.Operations

/-! Runs of responses: what they resolve, and the responses that do what is told of them. -/

namespace Sammo.ActionableMessage

variable {γ ν σ : Type} {env : Environment γ ν σ} {service next : Service γ ν σ} {response : Response}

/-! ### Once -/

/-- The messages that an event resolves. -/
def Outcome.resolved : Outcome → List ℕ+
  | .answered _ resolved => resolved
  | .failed => []
  | .done => []

/-- How often the action of a message has been resolved. -/
def timesResolved (messages : MessageTable) (id : ℕ+) : ℕ := if statusOf messages id = some .resolved then 1 else 0

theorem count_resolvedBetween {before after : MessageTable} (id : ℕ+) :
    (resolvedBetween before after).count id =
      if statusOf before id = some .pending ∧ statusOf after id = some .resolved then 1 else 0 := by
  -- The keys of a table are distinct.
  have distinct : (resolvedBetween before after).Nodup := before.nodup.filter _
  rw [distinct.count]
  exact if_congr mem_resolvedBetween rfl rfl

theorem timesResolved_advances {before after : MessageTable} (advances : Advances before after) (id : ℕ+) :
    timesResolved after id = timesResolved before id + (resolvedBetween before after).count id := by
  rw [count_resolvedBetween, timesResolved, timesResolved]
  rcases advances id with same | ⟨pending, resolved⟩
  · -- What stays as it is does not go from waiting to resolved.
    have stays : ¬ (statusOf before id = some .pending ∧ statusOf after id = some .resolved) := by
      rintro ⟨pending, resolved⟩
      rw [same, pending] at resolved
      cases resolved
    rw [if_neg stays, same, Nat.add_zero]
  · have goes : statusOf before id = some .pending ∧ statusOf after id = some .resolved := ⟨pending, resolved⟩
    have waited : statusOf before id ≠ some .resolved := by
      rw [pending]
      decide
    rw [if_pos resolved, if_pos goes, if_neg waited]

theorem timesResolved_set {messages : MessageTable} {id : ℕ+} {row : MessageRow} (fresh : messages.has id = false)
    (pending : row.actionStatus = .pending) (other : ℕ+) :
    timesResolved (messages.set id row) other = timesResolved messages other := by
  have absent : statusOf messages id = none := by
    rw [OrderedMap.has, Option.isSome_eq_false_iff, Option.isNone_iff_eq_none] at fresh
    rw [statusOf, fresh, Option.map_none]
  rw [timesResolved, timesResolved, statusOf, OrderedMap.get?_set]
  by_cases same : other = id
  · rw [if_pos same, same, absent, Option.map_some, pending, if_neg (by decide), if_neg (by decide)]
  · rw [if_neg same, statusOf]

theorem timesResolved_step {event : ServiceEvent γ ν σ} {outcome : Outcome}
    (stepped : (messageService env).step service event = some (next, outcome)) (id : ℕ+) :
    timesResolved next.messages id = timesResolved service.messages id + outcome.resolved.count id := by
  cases event with
  | respond response =>
    cases responded : respondToActionableMessage env service response with
    | none =>
      simp only [messageService, responded, Option.some.injEq, Prod.mk.injEq] at stepped
      obtain ⟨rfl, rfl⟩ := stepped
      rfl
    | some answer =>
      obtain ⟨result, after⟩ := answer
      simp only [messageService, responded, Option.some.injEq, Prod.mk.injEq] at stepped
      obtain ⟨rfl, rfl⟩ := stepped
      exact timesResolved_advances (respond_keeps responded).1 id
  | deliver added row =>
    simp only [messageService] at stepped
    split at stepped
    · cases stepped
    · rename_i admitted
      rw [not_or, not_not] at admitted
      cases stepped
      exact timesResolved_set (Bool.eq_false_of_not_eq_true admitted.1) admitted.2 id
  | proceed world =>
    simp only [messageService, Option.some.injEq, Prod.mk.injEq] at stepped
    obtain ⟨rfl, rfl⟩ := stepped
    rfl

theorem resolved_at_most_once {admits : Service γ ν σ → ServiceEvent γ ν σ → Prop} {start final : Service γ ν σ}
    {trace : List (ServiceEvent γ ν σ × Outcome)} (run : (messageService env).RunWhile admits start trace final)
    (id : ℕ+) : (trace.map fun told => told.2.resolved.count id).sum ≤ 1 := by
  -- A message is resolved at the end or is not, and every time in between counts.
  let Any : Service γ ν σ → Prop := fun _ => True
  have begun : Any start := trivial
  have total := (run.telescopes (fun service => timesResolved service.messages id)
    (fun told => told.2.resolved.count id) begun
    fun _ _ _ _ _ _ stepped => ⟨trivial, timesResolved_step stepped id⟩).2
  have most : timesResolved final.messages id ≤ 1 := by
    rw [timesResolved]
    split <;> decide
  omega

/-! ### What is told -/

/--
A response is careful if no clock is reconciled for a prompt whose arguments are not four numbers.

If it accepts a recruitment, the same other letters wait in the mailbox of the general who recruits and in that of the
general who responds.
-/
def Careful (env : Environment γ ν σ) (service : Service γ ν σ) : ServiceEvent γ ν σ → Prop
  | .respond response =>
    misaligned env service response = none ∧
      ∀ payload world tick, recruited env service response = some (payload, world, tick) →
        ∀ id, id ∈ otherLetters service.messages payload.src.generalId response.messageId tick ↔
          id ∈ otherLetters service.messages response.generalId response.messageId tick
  | _ => True

/--
A response that is turned away moves neither generals, nations nor the clock, and a recruitment that is accepted
resolves its letter and the others that wait in the mailbox of the general who responds.
-/
def KeepsWord (env : Environment γ ν σ) (service next : Service γ ν σ) : ServiceEvent γ ν σ → Outcome → Prop
  | .respond response, .answered result resolved =>
    (result.ok = false → Unmoved service.world next.world) ∧
      ∀ payload world tick, recruited env service response = some (payload, world, tick) →
        result = ⟨true, some .scout, "success"⟩ ∧
          ∀ id, id ∈ resolved ↔
            id = response.messageId ∨ id ∈ otherLetters service.messages response.generalId response.messageId tick
  | .respond _, _ => next = service
  | _, _ => True

theorem recruited_pending {accepted : MessagePayload × World γ ν σ × Int}
    (recruits : recruited env service response = some accepted) :
    statusOf service.messages response.messageId = some .pending := by
  simp only [recruited, Option.bind_eq_bind, Option.bind_eq_some_iff] at recruits
  obtain ⟨⟨row, payload, now⟩, letter, -⟩ := recruits
  obtain ⟨present, pending⟩ := openLetter_pending letter
  rw [statusOf, present, Option.map_some, pending]

theorem keepsWord_of_careful {event : ServiceEvent γ ν σ} {outcome : Outcome} (careful : Careful env service event)
    (stepped : (messageService env).step service event = some (next, outcome)) :
    KeepsWord env service next event outcome := by
  cases event with
  | deliver id row => trivial
  | proceed world => trivial
  | respond response =>
    obtain ⟨aligned, same⟩ := careful
    cases responded : respondToActionableMessage env service response with
    | none =>
      simp only [messageService, responded, Option.some.injEq, Prod.mk.injEq] at stepped
      obtain ⟨rfl, rfl⟩ := stepped
      rfl
    | some answer =>
      obtain ⟨result, after⟩ := answer
      simp only [messageService, responded, Option.some.injEq, Prod.mk.injEq] at stepped
      obtain ⟨rfl, rfl⟩ := stepped
      refine ⟨fun failed => (respond_keeps responded).2 failed aligned, fun payload world tick recruits => ?_⟩
      obtain ⟨success, now, messages⟩ := respond_recruited recruits responded
      refine ⟨success, fun id => ?_⟩
      rw [messages, mem_resolvedBetween_invalidate, List.mem_cons, same payload world tick recruits id]
      refine ⟨fun both => both.2, fun listed => ⟨?_, listed⟩⟩
      -- The letter waits, and so do the others.
      rcases listed with rfl | other
      · exact recruited_pending recruits
      · exact statusOf_otherLetters other

/--
No run resolves the action of a message twice, and in a run of careful events every event does what is told of it.

A response that is turned away then moves nothing, and a recruitment resolves the letters of the general who accepts.
-/
theorem actionable_messages (env : Environment γ ν σ) {start final : Service γ ν σ}
    {trace : List (ServiceEvent γ ν σ × Outcome)} :
    ((messageService env).Run start trace final →
      ∀ id, (trace.map fun told => told.2.resolved.count id).sum ≤ 1) ∧
    ((messageService env).RunWhile (Careful env) start trace final →
      ∀ earlier event outcome later, trace = earlier ++ (event, outcome) :: later →
        ∃ service next, (messageService env).RunWhile (Careful env) start earlier service ∧
          (messageService env).step service event = some (next, outcome) ∧
          KeepsWord env service next event outcome) := by
  refine ⟨fun run id => resolved_at_most_once run id, ?_⟩
  rintro run earlier event outcome later rfl
  obtain ⟨service, next, before, careful, stepped, -⟩ := run.split_at
  exact ⟨service, next, before, stepped, keepsWord_of_careful careful stepped⟩

/-! ### A correspondence -/

/-- A general of the second nation, or another. -/
def person (generalId : Int) (generalName : String) : Target := ⟨generalId, 2, generalName, "위"⟩

/-- A letter of recruitment from one general to another. -/
def letterTo (src dest : Target) : MessageRow where
  mailbox := dest.generalId
  dest := dest.generalId
  type := "private"
  validUntil := 1000
  validUntilTick := none
  message := some ⟨src, dest, ⟨some "scout", .bool false, none⟩⟩
  actionType := "scout"
  actionStatus := .pending
  createdGameTick := 0
  expiresGameTick := none
  resolvedGameTick := none

/-- A prompt to raise invaders with some arguments. -/
def promptTo (dest : Target) (args : List (Option ℚ)) : MessageRow :=
  { letterTo ⟨0, 0, "", "System"⟩ dest with
    message := some ⟨⟨0, 0, "", "System"⟩, dest, ⟨some "raiseInvader", .absent, some args⟩⟩
    actionType := "raiseInvader" }

/-- An environment in which every recruitment can be accepted, and in which the clock goes on from its first tick. -/
def obliging : Environment Unit Unit Unit where
  josa _ particle := particle
  execute world _ _ _ _ := (.ok (), world)
  reconcile _ _ := some ⟨0, 1, 1, 0⟩
  applyClockReconciliation _ world :=
    some { world with
      clock := { InMemoryTurnWorld.openingClock with
        tick := 1
        safeTick := by decide } }
  raiseInvader _ _ world := some world

/-- Generals 5 and 8 with some letters, in a world that one nation has united. -/
def correspondence (messages : MessageTable) : Service Unit Unit Unit where
  world :=
    { generals := (OrderedMap.empty.set 5 ⟨some "u5", ()⟩).set 8 ⟨some "u8", ()⟩
      nations := OrderedMap.empty.set 2 ()
      clock := InMemoryTurnWorld.openingClock
      isunited := 2
      unificationClockSuspensionId := some "s1"
      rest := ()
      messages := []
      logs := [] }
  messages

/-- General 5 accepts what a message asks for. -/
def accepts (messageId : ℕ+) : Response where
  requestId := some "r1"
  event := some ⟨"u5", "ENGINE", "messageRespond", some 0⟩
  userId := "u5"
  generalId := 5
  messageId
  response := true
  authorized := true

/-- What an answer tells, and the tick of the clock after it. -/
def told (service : Service Unit Unit Unit) (event : ServiceEvent Unit Unit Unit) : Option (Outcome × Int) :=
  ((messageService obliging).step service event).map fun after => (after.2, after.1.world.clock.tick)

/-- One letter, which general 8 has sent to general 5. -/
def oneLetter : MessageTable := OrderedMap.empty.set 29 (letterTo (person 8 "조조") (person 5 "관우"))

/-- General 5 accepts the letter, and then accepts it once more. -/
def acceptedTwice : List (ServiceEvent Unit Unit Unit × Outcome) :=
  [(.respond (accepts 29), .answered ⟨true, some .scout, "success"⟩ [29]),
    (.respond (accepts 29), .answered ⟨false, none, "존재하지 않는 메시지입니다."⟩ [])]

theorem oneLetter_careful :
    (messageService obliging).Guarded (Careful obliging) (correspondence oneLetter) (acceptedTwice.map Prod.fst) := by
  refine ⟨⟨rfl, fun payload world tick recruits id => ?_⟩, ⟨rfl, fun payload world tick recruits => ?_⟩, trivial⟩
  · -- Neither general has another letter.
    have only : recruited obliging (correspondence oneLetter) (accepts 29) =
        some (⟨person 8 "조조", person 5 "관우", ⟨some "scout", .bool false, none⟩⟩,
          (correspondence oneLetter).world, 0) := rfl
    cases Option.some.inj (only.symm.trans recruits)
    rfl
  · -- The letter does not wait any more.
    cases recruits

theorem acceptedTwice_run : ∃ final,
    (messageService obliging).RunWhile (Careful obliging) (correspondence oneLetter) acceptedTwice final :=
  ⟨_, StateMachine.runWhile_of_guarded oneLetter_careful rfl⟩

/-- A letter that is accepted twice is resolved once, and is the one that the general has accepted. -/
theorem actionable_messages_twice :
    (acceptedTwice.map fun told => told.2.resolved.count 29).sum ≤ 1 ∧
      ∃ service next, (messageService obliging).RunWhile (Careful obliging) (correspondence oneLetter) [] service ∧
        (messageService obliging).step service (.respond (accepts 29)) =
          some (next, .answered ⟨true, some .scout, "success"⟩ [29]) ∧
        KeepsWord obliging service next (.respond (accepts 29)) (.answered ⟨true, some .scout, "success"⟩ [29]) :=
  ⟨(actionable_messages obliging).1 (acceptedTwice_run.choose_spec.mono fun _ _ _ => trivial) 29,
    (actionable_messages obliging).2 acceptedTwice_run.choose_spec [] _ _ _ rfl⟩

/-- The letter of general 8 to general 5, another one to general 5, and one to general 8. -/
def threeLetters : MessageTable :=
  (oneLetter.set 31 (letterTo (person 9 "장료") (person 5 "관우"))).set 40
    (letterTo (person 9 "장료") (person 8 "조조"))

/--
General 5 accepts the letter of general 8: a letter to general 8 is resolved, and the other one to general 5 waits on.

A prompt that is turned away for its arguments has moved the clock.
-/
theorem actionable_messages_misdirected :
    told (correspondence threeLetters) (.respond (accepts 29)) =
      some (.answered ⟨true, some .scout, "success"⟩ [29, 40], 0) ∧
    otherLetters threeLetters 5 29 0 = [31] ∧
    told (correspondence (OrderedMap.empty.set 50 (promptTo (person 5 "관우") [some 1]))) (.respond (accepts 50)) =
      some (.answered ⟨false, some .raiseInvader, "이민족 소환 인자가 올바르지 않습니다."⟩ [], 1) :=
  ⟨by decide, by decide, by decide⟩

end Sammo.ActionableMessage
