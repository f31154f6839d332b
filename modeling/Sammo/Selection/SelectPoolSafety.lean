import Sammo.Selection.SelectPoolLaws

/-! Exclusivity of the selection pool, in every sequence of calls in which ticks never go back. -/

namespace Sammo

open Effect

namespace SelectionServer

/-- The user a call is made by. -/
def caller? : SelectionEvent → Option String
  | .reserve _ request => some request.userId
  | .create _ request => some request.userId
  | .reselect _ request => some request.userId
  | .flush => none

/-- The tick and the general of a call by which a player got a candidate. -/
def choice? : SelectionEvent × SelectionReply → Option (Int × Int)
  | (.create _ request, .chosen generalId) => some (request.processingGameTick, generalId)
  | (.reselect _ request, .chosen generalId) => some (request.processingGameTick, generalId)
  | _ => none

/-- The choices of a trace, in order. -/
def choices (trace : List (SelectionEvent × SelectionReply)) : List (Int × Int) := trace.filterMap choice?

/-- No user owns two generals of the world. -/
def OwnsOne (world : TurnWorld) : Prop :=
  ∀ userId first second left right, world.generals.rows.get? first = some left →
    world.generals.rows.get? second = some right → left.userId? = some userId →
    right.userId? = some userId → first = second

/-- What a season opens with: a pool in order, and no user with two generals. -/
structure SelectionOpening (server : SelectionServer) : Prop where
  pool : OrderlyPool server.tick server.db.pool
  owners : OwnsOne server.world.toTurnWorld

/-- What holds after every call. -/
structure SelectionInvariant (trace : List (SelectionEvent × SelectionReply)) (server : SelectionServer) :
    Prop where
  pool : OrderlyPool server.tick server.db.pool
  owners : OwnsOne server.world.toTurnWorld
  /-- A general that was chosen is there, with a deadline that is late enough. -/
  deadlines : ∀ tick generalId, (tick, generalId) ∈ choices trace →
    ∃ general deadline, server.world.generals.rows.get? generalId = some general ∧
      readNextChangeTick general.metadata = some deadline ∧ nextChangeTick tick ≤ deadline
  /-- Choices of one general are far enough apart. -/
  apart : (choices trace).Pairwise fun earlier later =>
    earlier.2 = later.2 → nextChangeTick earlier.1 ≤ later.1

/-- A step that chooses nothing: the pool is in order, and the generals are as they were. -/
structure QuietCall (server next : SelectionServer) (entry : SelectionEvent × SelectionReply) : Prop where
  pool : OrderlyPool next.tick next.db.pool
  generals : next.world.generals.rows = server.world.generals.rows
  unchosen : choice? entry = none

/-- A step by which a user chooses: for a new general, or for one whose time has come. -/
structure ChoosingCall (server next : SelectionServer) (entry : SelectionEvent × SelectionReply)
    (userId : String) (tick generalId : Int) : Prop where
  chosen : Chosen userId tick generalId server.view next.view
  stated : choice? entry = some (tick, generalId)
  caller : caller? entry.1 = some userId
  now : next.tick = tick
  before : (∀ id general, server.world.generals.rows.get? id = some general → general.userId? ≠ some userId) ∧
      server.world.generals.rows.has generalId = false ∨
    ∃ general, server.world.generals.rows.get? generalId = some general ∧ general.userId? = some userId ∧
      ∀ deadline, readNextChangeTick general.metadata = some deadline → deadline ≤ tick

variable {tick : Int} {reply : SelectionReply} {services : SelectionServices} {rules : CentennialRules}
  {event : SelectionEvent}

theorem answer_cases {α : Type} {server next : SelectionServer} {call : SelectM α}
    {answerOf : α → SelectionReply} {after : α → SelectionView → Prop} {refused : SelectionView → Prop}
    (calls : server.tick ≤ tick → Calls server.view call after refused)
    (answered : server.answer tick call answerOf = some (next, reply)) :
    server.tick ≤ tick ∧ next.tick = tick ∧
      ((∃ value, after value next.view ∧ reply = answerOf value) ∨
        (∃ code message, refused next.view ∧ reply = .failed (.refused code message)) ∨
        ∃ message, next.view = server.view ∧ reply = .failed (.thrown message)) := by
  unfold answer at answered
  split at answered
  · cases answered
  · rename_i order
    have order : server.tick ≤ tick := by omega
    refine ⟨order, ?_⟩
    split at answered
    · rename_i value reached performed
      obtain ⟨rfl, rfl⟩ := Prod.mk.inj (Option.some.inj answered)
      exact ⟨rfl, .inl ⟨value, (calls order).1 server rfl value reached performed, rfl⟩⟩
    · rename_i code message reached performed
      obtain ⟨rfl, rfl⟩ := Prod.mk.inj (Option.some.inj answered)
      exact ⟨rfl, .inr (.inl ⟨code, message, (calls order).2 server rfl _ reached performed code message rfl, rfl⟩)⟩
    · obtain ⟨rfl, rfl⟩ := Prod.mk.inj (Option.some.inj answered)
      exact ⟨rfl, .inr (.inr ⟨_, rfl, rfl⟩)⟩

theorem QuietCall.of_same {server next : SelectionServer} {entry : SelectionEvent × SelectionReply}
    (pool : OrderlyPool server.tick server.db.pool) (order : server.tick ≤ next.tick)
    (same : next.view = server.view) (unchosen : choice? entry = none) : QuietCall server next entry := by
  have samePool : next.db.pool = server.db.pool := congrArg SelectionView.pool same
  have generals : next.world.generals = server.world.generals := congrArg SelectionView.generals same
  exact ⟨samePool ▸ pool.later order, congrArg WriteBehind.rows generals, unchosen⟩

theorem step_cases {server next : SelectionServer} (pool : OrderlyPool server.tick server.db.pool)
    (stepped : step services rules server event = some (next, reply)) :
    server.tick ≤ next.tick ∧ (QuietCall server next (event, reply) ∨
      ∃ userId tick generalId, ChoosingCall server next (event, reply) userId tick generalId) := by
  cases event with
  | reserve row request =>
    obtain ⟨order, now, outcome⟩ := answer_cases (fun _ => reserveSelectionPool_calls _ _ _ _ _) stepped
    rw [now]
    refine ⟨order, .inl ?_⟩
    have later := pool.later order
    rcases outcome with ⟨shown, ⟨rows, same, reserved⟩, rfl⟩ | ⟨code, message, refused, rfl⟩ | ⟨message, same, rfl⟩
    · have samePool : next.db.pool = rows := congrArg SelectionView.pool same
      have generals : next.world.generals = server.world.generals := congrArg SelectionView.generals same
      refine ⟨?_, congrArg WriteBehind.rows generals, rfl⟩
      rw [now, samePool]
      cases reserved with
      | shown => exact later
      | drawn ids instant untilTick unreserved count distinct =>
        exact later.release.reserve (takenBack_unreserved unreserved) count distinct
    · rcases refused with same | same
      · exact .of_same pool (now ▸ order) same rfl
      · have samePool : next.db.pool = takenBack request.processingGameTick server.db.pool :=
          congrArg SelectionView.pool same
        have generals : next.world.generals = server.world.generals := congrArg SelectionView.generals same
        refine ⟨?_, congrArg WriteBehind.rows generals, rfl⟩
        rw [now, samePool]
        exact later.release
    · exact .of_same pool (now ▸ order) same rfl
  | create row request =>
    obtain ⟨order, now, outcome⟩ := answer_cases
      (fun order => createGeneralFromSelectionPool_calls _ _ _ _ (pool.later order)) stepped
    rw [now]
    refine ⟨order, ?_⟩
    rcases outcome with ⟨generalId, created, rfl⟩ | ⟨code, message, same, rfl⟩ | ⟨message, same, rfl⟩
    · exact .inr ⟨request.userId, _, generalId, created.chosen, rfl, rfl, now, .inl ⟨created.unowned, created.absent⟩⟩
    · exact .inl (.of_same pool (now ▸ order) same rfl)
    · exact .inl (.of_same pool (now ▸ order) same rfl)
  | reselect row request =>
    obtain ⟨order, now, outcome⟩ := answer_cases
      (fun order => reselectGeneralFromSelectionPool_calls _ _ _ _ (pool.later order)) stepped
    rw [now]
    refine ⟨order, ?_⟩
    rcases outcome with ⟨generalId, reselected, rfl⟩ | ⟨code, message, same, rfl⟩ | ⟨message, same, rfl⟩
    · exact .inr ⟨request.userId, _, generalId, reselected.chosen, rfl, rfl, now, .inr reselected.due⟩
    · exact .inl (.of_same pool (now ▸ order) same rfl)
    · exact .inl (.of_same pool (now ▸ order) same rfl)
  | flush =>
    obtain ⟨order, now, outcome⟩ := answer_cases
      (fun _ => flushGenerals_calls _ pool fun _ => False) stepped
    rw [now]
    refine ⟨order, .inl ?_⟩
    rcases outcome with ⟨_, ⟨kept, generals⟩, rfl⟩ | ⟨_, _, impossible, _⟩ | ⟨message, same, rfl⟩
    · exact ⟨now ▸ kept, generals, rfl⟩
    · exact impossible.elim
    · exact .of_same pool (now ▸ order) same rfl

variable {server next : SelectionServer} {entry : SelectionEvent × SelectionReply}
  {trace : List (SelectionEvent × SelectionReply)}

theorem choices_append : choices (trace ++ [entry]) = choices trace ++ (choice? entry).toList := by
  rw [choices, List.filterMap_append, List.filterMap_cons, List.filterMap_nil]
  cases choice? entry <;> rfl

theorem QuietCall.keeps (quiet : QuietCall server next entry) (held : SelectionInvariant trace server) :
    SelectionInvariant (trace ++ [entry]) next := by
  have same : choices (trace ++ [entry]) = choices trace := by
    rw [choices_append, quiet.unchosen, Option.toList_none, List.append_nil]
  refine ⟨quiet.pool, ?_, ?_, ?_⟩
  · rw [OwnsOne, quiet.generals]
    exact held.owners
  · rw [same, quiet.generals]
    exact held.deadlines
  · rw [same]
    exact held.apart

variable {generalId : Int}

theorem ChoosingCall.owners {userId : String} (choosing : ChoosingCall server next entry userId tick generalId)
    (held : OwnsOne server.world.toTurnWorld) : OwnsOne next.world.toTurnWorld := by
  obtain ⟨general, owner, _, rows⟩ := choosing.chosen.general
  -- Any general of the user's is the chosen one.
  have own : ∀ id other, next.world.generals.rows.get? id = some other → other.userId? = some userId →
      id = generalId := by
    intro id other there owned
    by_contra differs
    rw [show next.world.generals.rows.get? id = _ from rows id, if_neg differs] at there
    rcases choosing.before with ⟨unowned, _⟩ | ⟨before, stored, ownedBefore, _⟩
    · exact unowned id other there owned
    · exact differs (held userId id generalId other before there stored owned ownedBefore)
  have old : ∀ id other, id ≠ generalId → next.world.generals.rows.get? id = some other →
      server.world.generals.rows.get? id = some other := by
    intro id other differs there
    rw [show next.world.generals.rows.get? id = _ from rows id, if_neg differs] at there
    exact there
  have new : ∀ other, next.world.generals.rows.get? generalId = some other → other.userId? = some userId := by
    intro other there
    rw [show next.world.generals.rows.get? generalId = _ from rows generalId, if_pos rfl] at there
    obtain rfl := Option.some.inj there
    exact owner
  intro user first second left right there also leftOwned rightOwned
  by_cases isFirst : first = generalId
  · subst isFirst
    obtain rfl := Option.some.inj (leftOwned.symm.trans (new left there))
    exact (own second right also rightOwned).symm
  · by_cases isSecond : second = generalId
    · subst isSecond
      obtain rfl := Option.some.inj (rightOwned.symm.trans (new right also))
      exact own first left there leftOwned
    · exact held user first second left right (old first left isFirst there) (old second right isSecond also)
        leftOwned rightOwned

theorem ChoosingCall.keeps {userId : String} (choosing : ChoosingCall server next entry userId tick generalId)
    (held : SelectionInvariant trace server) : SelectionInvariant (trace ++ [entry]) next := by
  obtain ⟨general, owner, deadline, rows⟩ := choosing.chosen.general
  have same : choices (trace ++ [entry]) = choices trace ++ [(tick, generalId)] := by
    rw [choices_append, choosing.stated, Option.toList_some]
  -- Earlier choices of the general are a cooldown ago.
  have past : ∀ earlier, (earlier, generalId) ∈ choices trace → nextChangeTick earlier ≤ tick := by
    intro earlier chosen
    obtain ⟨before, noted, there, read, late⟩ := held.deadlines earlier generalId chosen
    rcases choosing.before with ⟨_, absent⟩ | ⟨stored, found, _, due⟩
    · rw [OrderedMap.has, there] at absent
      cases absent
    · obtain rfl := Option.some.inj (found.symm.trans there)
      exact Int.le_trans late (due noted read)
  refine ⟨?_, choosing.owners held.owners, ?_, ?_⟩
  · rw [choosing.now]
    exact choosing.chosen.row.orderly
  · intro earlier other chosen
    rw [same, List.mem_append, List.mem_singleton] at chosen
    by_cases own : other = generalId
    · subst own
      refine ⟨general, nextChangeTick tick, ?_, deadline, ?_⟩
      · exact (rows other).trans (if_pos rfl)
      · rcases chosen with before | now
        · have ago := past earlier before
          simp only [nextChangeTick] at ago ⊢
          omega
        · rw [(Prod.mk.inj now).1]
    · rcases chosen with before | now
      · obtain ⟨old, noted, there, read, late⟩ := held.deadlines earlier other before
        exact ⟨old, noted, ((rows other).trans (if_neg own)).trans there, read, late⟩
      · exact absurd (Prod.mk.inj now).2 own
  · rw [same, List.pairwise_append]
    refine ⟨held.apart, List.pairwise_singleton _ _, ?_⟩
    rintro ⟨earlier, other⟩ chosen later now named
    rw [List.mem_singleton] at now
    subst now
    obtain rfl : other = generalId := named
    exact past earlier chosen

theorem SelectionInvariant.run {start server : SelectionServer} {trace : List (SelectionEvent × SelectionReply)}
    (opening : SelectionOpening start) (reached : (machine services rules).Run start trace server) :
    SelectionInvariant trace server := by
  refine reached.invariant ⟨opening.pool, opening.owners, fun _ _ chosen => ?_, .nil⟩ ?_
  · cases chosen
  · intro past state event reply next held _ stepped
    rcases (step_cases held.pool stepped).2 with quiet | ⟨userId, tick, generalId, choosing⟩
    · exact quiet.keeps held
    · exact choosing.keeps held

/-- A refusal changes no general and no row that somebody holds, and gives out no id. -/
structure RefusalFrame (server next : SelectionServer) : Prop where
  generals : next.world.generals = server.world.generals
  stored : next.db.generals = server.db.generals
  /-- The last id that was given out is kept in the state of the world. -/
  state : next.world.state = server.world.state
  held : next.db.pool.filter (fun row => row.heldAt next.tick) =
    server.db.pool.filter fun row => row.heldAt next.tick

theorem RefusalFrame.of_same (same : next.view = server.view) : RefusalFrame server next := by
  have pool : next.db.pool = server.db.pool := congrArg SelectionView.pool same
  exact ⟨congrArg SelectionView.generals same, congrArg SelectionView.stored same,
    congrArg SelectionView.state same, by rw [pool]⟩

theorem refused_frame {code : SelectPoolErrorCode} {message : String}
    (pool : OrderlyPool server.tick server.db.pool)
    (stepped : step services rules server event = some (next, .failed (.refused code message))) :
    RefusalFrame server next := by
  cases event with
  | reserve row request =>
    obtain ⟨_, now, outcome⟩ := answer_cases (fun _ => reserveSelectionPool_calls _ _ _ _ _) stepped
    rcases outcome with ⟨_, _, impossible⟩ | ⟨_, _, refused, _⟩ | ⟨_, _, impossible⟩
    · cases impossible
    · rcases refused with same | same
      · exact .of_same same
      · -- Only reservations that have run out are taken back.
        have samePool : next.db.pool = takenBack request.processingGameTick server.db.pool :=
          congrArg SelectionView.pool same
        refine ⟨congrArg SelectionView.generals same, congrArg SelectionView.stored same,
          congrArg SelectionView.state same, ?_⟩
        rw [samePool, now]
        exact takenBack_held _ _
    · cases impossible
  | create row request =>
    obtain ⟨_, _, outcome⟩ := answer_cases
      (fun order => createGeneralFromSelectionPool_calls _ _ _ _ (pool.later order)) stepped
    rcases outcome with ⟨_, _, impossible⟩ | ⟨_, _, same, _⟩ | ⟨_, _, impossible⟩
    · cases impossible
    · exact .of_same same
    · cases impossible
  | reselect row request =>
    obtain ⟨_, _, outcome⟩ := answer_cases
      (fun order => reselectGeneralFromSelectionPool_calls _ _ _ _ (pool.later order)) stepped
    rcases outcome with ⟨_, _, impossible⟩ | ⟨_, _, same, _⟩ | ⟨_, _, impossible⟩
    · cases impossible
    · exact .of_same same
    · cases impossible
  | flush =>
    obtain ⟨_, _, outcome⟩ := answer_cases (fun _ => flushGenerals_calls _ pool fun _ => False) stepped
    rcases outcome with ⟨_, _, impossible⟩ | ⟨_, _, impossible, _⟩ | ⟨_, _, impossible⟩
    · cases impossible
    · exact impossible.elim
    · cases impossible

/-- What a successful choice leaves: the user's general has one row, and the user has no row reserved. -/
structure ChoiceMade (next : SelectionServer) (userId : String) (generalId : Int) : Prop where
  owned : ∃ general, next.world.generals.rows.get? generalId = some general ∧ general.userId? = some userId
  bound : (next.db.pool.filter fun row => row.generalId = some generalId).length = 1
  cleared : ∀ row ∈ next.db.pool, row.ownerUserId ≠ some userId

theorem choice_made (pool : OrderlyPool server.tick server.db.pool)
    (stepped : step services rules server event = some (next, .chosen generalId)) :
    ∃ userId, caller? event = some userId ∧ ChoiceMade next userId generalId := by
  -- No step but a choice reports one.
  have stated : ∃ tick, choice? (event, .chosen generalId) = some (tick, generalId) := by
    cases event with
    | reserve row request =>
      obtain ⟨_, _, outcome⟩ := answer_cases (fun _ => reserveSelectionPool_calls _ _ _ _ _) stepped
      rcases outcome with ⟨_, _, impossible⟩ | ⟨_, _, _, impossible⟩ | ⟨_, _, impossible⟩ <;> cases impossible
    | create row request => exact ⟨_, rfl⟩
    | reselect row request => exact ⟨_, rfl⟩
    | flush =>
      obtain ⟨_, _, outcome⟩ := answer_cases (fun _ => flushGenerals_calls _ pool fun _ => False) stepped
      rcases outcome with ⟨_, _, impossible⟩ | ⟨_, _, _, impossible⟩ | ⟨_, _, impossible⟩ <;> cases impossible
  obtain ⟨tick, stated⟩ := stated
  rcases (step_cases pool stepped).2 with quiet | ⟨userId, chosenTick, chosenId, choosing⟩
  · rw [quiet.unchosen] at stated
    cases stated
  · obtain ⟨rfl, rfl⟩ := Prod.mk.inj (Option.some.inj (choosing.stated.symm.trans stated))
    obtain ⟨general, owner, _, rows⟩ := choosing.chosen.general
    refine ⟨userId, choosing.caller, ⟨general, ?_, owner⟩, choosing.chosen.row.bound, choosing.chosen.row.cleared⟩
    exact (rows chosenId).trans (if_pos rfl)

/-- The selection pool is exclusive after some calls, and stays so through the next one. -/
structure SelectionExclusive (services : SelectionServices) (rules : CentennialRules)
    (trace : List (SelectionEvent × SelectionReply)) (server : SelectionServer) : Prop where
  /-- A row that belongs to a general is reserved by nobody. -/
  single : ∀ row ∈ server.db.pool, row.generalId ≠ none →
    row.ownerUserId = none ∧ row.reservedUntil = none ∧ row.reservedUntilTick = none
  /-- No two rows belong to one general. -/
  bound : (server.db.pool.filterMap SelectPoolRow.generalId).Nodup
  owners : OwnsOne server.world.toTurnWorld
  /-- No user has more good reservations than one request gives, now or later. -/
  fourteen : ∀ userId tick, server.tick ≤ tick →
    server.db.pool.countP (fun row => row.isReservedBy userId tick) ≤ 14
  /-- Choices of one general are at least the cooldown apart. -/
  apart : (choices trace).Pairwise fun earlier later =>
    earlier.2 = later.2 → nextChangeTick earlier.1 ≤ later.1
  chosen : ∀ event next generalId, step services rules server event = some (next, .chosen generalId) →
    ∃ userId, caller? event = some userId ∧ ChoiceMade next userId generalId
  refused : ∀ event next code message,
    step services rules server event = some (next, .failed (.refused code message)) → RefusalFrame server next

/--
The selection pool is exclusive in every run.

Calls of any users and the daemon's writes come in any order in which ticks never go back.
-/
theorem selection_pool_exclusive {services : SelectionServices} {rules : CentennialRules}
    {start server : SelectionServer} {trace : List (SelectionEvent × SelectionReply)}
    (opening : SelectionOpening start) (reached : (machine services rules).Run start trace server) :
    SelectionExclusive services rules trace server := by
  have held := SelectionInvariant.run opening reached
  refine ⟨held.pool.single, held.pool.generals, held.owners, ?_, held.apart, ?_, ?_⟩
  · intro userId tick later
    exact (held.pool.later later).fourteen userId
  · intro event next generalId stepped
    exact choice_made held.pool stepped
  · intro event next code message stepped
    exact refused_frame held.pool stepped

/-- Fifteen candidates that are equally likely. -/
def selectionCandidates : List SelectPoolRow :=
  (List.range 15).map fun number =>
    let name := String.ofList (List.replicate (number + 1) '甲')
    { id := number + 1, uniqueName := name, ownerUserId := none, generalId := none, reservedUntil := none
      reservedUntilTick := none
      info := .obj
        [("uniqueName", .str name), ("generalName", .str name), ("leadership", .num 70), ("strength", .num 60),
          ("intel", .num 50), ("specialDomestic", .null),
          ("dex", .arr [.num 1, .num 1, .num 1, .num 1, .num 1]), ("imgsvr", .num 0), ("picture", .str "")] }

/-- A city where generals may appear. -/
def selectionCity : City where
  nationId := 0
  frontState := 0
  conflict := none
  metadata := []
  columns := [("name", .str "낙양"), ("level", .num 5)]

/-- A server with a fresh pool. -/
def selectionStart : SelectionServer where
  world := InMemoryTurnWorld.opening
  db :=
    { pool := selectionCandidates, generals := .empty, cities := OrderedMap.empty.set 1 selectionCity
      generalTurns := [], generalTurnRevisions := .empty, accessLogs := .empty, logEntries := [] }
  tick := 0

/-- A generator whose draws go through the candidates one after another. -/
def selectionServices : SelectionServices where
  nextFloat1 := fun _ attempt => (2 * attempt + 1 : ℚ) / 30
  nextInt := fun _ _ _ => 0
  pow := fun base _ => base
  trait := fun _ _ => none
  personalityKeys := []
  isoString := fun _ => "date"
  parseDate := fun _ => some 0
  josaPick := fun _ particle => particle

/-- Growth rules of a pool whose generals do not grow. -/
def selectionRules : CentennialRules where
  initialStats := fun _ info => ⟨info.leadership, info.strength, info.intel⟩
  currentTargetStats := fun _ info => .ok ⟨info.leadership, info.strength, info.intel⟩
  initialAux := fun _ _ _ => .null
  applyTarget := fun _ _ _ => .error "no growth"

/-- The world row of a server with a selection. -/
def selectionRow : WorldStateRow where
  config :=
    [("npcMode", .num 2), ("turnTermMinutes", .num 60),
      ("map", .obj [("targetGeneralPool", .str legacySelectionPool)])]
  metadata := [("hiddenSeed", .str "secret")]
  tickSeconds := 3600
  currentYear := 180
  currentMonth := 1

/-- A player starts with a candidate, is refused another one too early, and changes when the time has come. -/
def selectionEvents : List SelectionEvent :=
  [.reserve selectionRow ⟨"a", 0, 10, .text "a"⟩,
    .create selectionRow ⟨"a", "갑", "甲", "Random", 0, 0, 0, 20, .text "a", none, none, none⟩, .flush,
    .reselect selectionRow ⟨"a", "갑", "甲甲", 0, 30⟩,
    .reserve selectionRow ⟨"a", 0, 432000020, .text "a"⟩,
    .reselect selectionRow ⟨"a", "갑", "甲甲", 0, 432000030⟩]

/-- The two choices are a run, and the selection is exclusive. -/
theorem selection_pool_exclusive_twice :
    SelectionOpening selectionStart ∧ ∃ server trace,
      (machine selectionServices selectionRules).Run selectionStart trace server ∧
      choices trace = [(20, 1), (432000030, 1)] ∧
      SelectionExclusive selectionServices selectionRules trace server := by
  have opening : SelectionOpening selectionStart := by
    refine ⟨⟨?_, ?_, ?_, fun userId => ?_⟩, ?_⟩
    · decide
    · decide
    · decide
    · -- Nothing is reserved yet.
      have unowned : ∀ row ∈ selectionStart.db.pool, row.ownerUserId = none := by decide
      have none_ : selectionStart.db.pool.countP (fun row => row.isReservedBy userId selectionStart.tick) = 0 := by
        rw [List.countP_eq_zero]
        intro row member
        simp [SelectPoolRow.isReservedBy, unowned row member]
      rw [none_]
      exact Nat.zero_le _
    · intro userId first second left right there
      cases there
  have replayed : ((machine selectionServices selectionRules).replay selectionStart selectionEvents).map
      (fun reached => choices reached.2) = some [(20, 1), (432000030, 1)] := by
    decide +kernel
  obtain ⟨⟨server, trace⟩, replay, chosen⟩ := Option.map_eq_some_iff.mp replayed
  have run := StateMachine.run_of_replay replay
  exact ⟨opening, server, trace, run, chosen, selection_pool_exclusive opening run⟩

end SelectionServer

end Sammo
