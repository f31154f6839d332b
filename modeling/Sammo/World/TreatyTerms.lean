import Sammo.World.CitySupply
import Sammo.World.GeneralTurn

/-! The end that a proposed treaty of non-aggression has, and what its acceptance does. -/

namespace Sammo.TreatyTerms

/-- What a constraint says of a command. -/
inductive ConstraintResult where
  | allow
  | deny (reason : String)
  | unknown (missing : List String)
  deriving DecidableEq

/-- Whether constraints are tried before everything is known. -/
inductive ConstraintMode where
  | full
  | precheck
  deriving DecidableEq

/-- What the constraints on a term read: the arguments of the command and the environment. -/
structure TermContext where
  mode : ConstraintMode
  argYear : Option Int
  argMonth : Option Int
  envYear : Option Int
  envMonth : Option Int
  startYear : Option Int

/-- What is missing makes a trial inconclusive and a command refused. -/
def unknownOrDeny (mode : ConstraintMode) (missing : List String) (reason : String) : ConstraintResult :=
  match mode with
  | .precheck => .unknown missing
  | .full => .deny reason

/-- A month counted from the beginning of the calendar. -/
def resolveMonthIndex (year month : Int) : Int := year * 12 + month - 1

/-- The months that a treaty lasts at least. -/
def nonAggressionMinTermMonths : Int := 6

/-- The last year in which a treaty may end. -/
def resolveNonAggressionMaxEndYear (currentYear : Int) : Int := currentYear + 20

/-- The names of what is missing. -/
def missingOf (values : List (String × Option Int)) : List String :=
  (values.filter fun value => value.2.isNone).map Prod.fst

/-- The constraint on the end that is proposed. -/
def reqTreatyTermRange (minMonths : Int) (context : TermContext) : ConstraintResult :=
  match context.argYear, context.argMonth, context.envYear, context.envMonth, context.startYear with
  | some year, some month, some envYear, some envMonth, some startYear =>
    if year < startYear then .deny "시작 연도보다 이전의 기한은 지정할 수 없습니다."
    else if resolveMonthIndex year month < resolveMonthIndex envYear envMonth + minMonths then
      .deny s!"기한은 {minMonths}개월 이상이어야 합니다."
    else if resolveNonAggressionMaxEndYear envYear < year then
      .deny s!"기한은 {resolveNonAggressionMaxEndYear envYear}년 이하여야 합니다."
    else .allow
  | year, month, envYear, envMonth, startYear =>
    unknownOrDeny context.mode
      (missingOf [("arg year", year), ("arg month", month), ("env year", envYear), ("env month", envMonth),
        ("env startYear", startYear)]) "기한 정보가 없습니다."

/-- The constraint on the end that is accepted. -/
def reqFutureTreatyTerm (context : TermContext) : ConstraintResult :=
  match context.argYear, context.argMonth, context.envYear, context.envMonth with
  | some year, some month, some envYear, some envMonth =>
    if year * 12 + month ≤ resolveMonthIndex envYear envMonth then .deny "이미 기한이 지났습니다." else .allow
  | year, month, envYear, envMonth =>
    unknownOrDeny context.mode
      (missingOf [("arg year", year), ("arg month", month), ("env year", envYear), ("env month", envMonth)])
      "기한 정보가 없습니다."

/-- The end of a treaty, as the arguments of a command are read. -/
structure TreatyEnd where
  year : Int
  month : Int
  validYear : 0 ≤ year
  validMonth : 1 ≤ month ∧ month ≤ 12

/-! ### The acceptance -/

/-- What an immediate response to a proposal is given. -/
structure ResponseContext where
  actorId : Int
  actorNationId : Int
  actorNation : Nation
  proposerId : Int
  proposerNationId : Int
  proposerNation : Nation
  currentYear : Int
  currentMonth : Int

/-- What a response does. -/
inductive ResponseEffect where
  | diplomacyPatch (key : DiplomacyKey) (patch : DiplomacyPatch)
  | nationPatch (targetId : Int) (patch : NationPatch)
  | log (entry : LogEntryDraft)

/-- The particle for a partner. -/
def josaWa (name : String) : String := if CitySupply.hasJongsung name then "과" else "와"

/-- A line for a general. -/
def generalLog (generalId : Int) (category : LogCategory) (format : LogFormat) (columns : Record) (text : String) :
    ResponseEffect :=
  .log { scope := .general, category, format := some format, generalId := some generalId, text, year := none
         month := none, occurredAt := none, columns }

/-- A field of a record that is itself a record. -/
def subRecord (metadata : Record) (key : String) : Record := ((metadata.get? key).map asRecord).getD []

/-- The aid that a nation has had from another. -/
def recvAmount (metadata : Record) (assistKey : String) : ℚ :=
  match (subRecord metadata "recv_assist").get? assistKey with
  | some (.arr items) => (items[1]?.bind Json.number?).getD 0
  | _ => 0

/-- The effects of accepting a treaty. -/
def buildNonAggressionEffects (context : ResponseContext) (treatyYear treatyMonth : Int) : List ResponseEffect :=
  let actorNationName := context.actorNation.name
  let proposerNationName := context.proposerNation.name
  let actorJosaWa := josaWa actorNationName
  let proposerJosaWa := josaWa proposerNationName
  let proposerMeta := context.proposerNation.metadata
  let assistKey := s!"n{context.actorNationId}"
  let respAssist := (subRecord proposerMeta "resp_assist").set assistKey
    (.arr [.num context.actorNationId, .num (recvAmount proposerMeta assistKey)])
  let currentMonth := resolveMonthIndex context.currentYear context.currentMonth
  -- The end is counted a month later than the month in which it lies.
  let targetMonth := treatyYear * 12 + treatyMonth
  let term := targetMonth - currentMonth
  let agreed : DiplomacyPatch := { state := some nonAggressionState, term := some term }
  let group : Record := [("legacyFlushGroup", .num 1)]
  [ .diplomacyPatch (context.actorNationId, context.proposerNationId) agreed,
    .diplomacyPatch (context.proposerNationId, context.actorNationId) agreed,
    .nationPatch context.proposerNationId { metadata := some (proposerMeta.set "resp_assist" (.obj respAssist)) },
    generalLog context.actorId .history .yearMonth []
      s!"<D><b>{proposerNationName}</b></>{proposerJosaWa} {treatyYear}년 {treatyMonth}월까지 불가침 성공",
    generalLog context.actorId .action .plain []
      s!"<D><b>{proposerNationName}</b></>{proposerJosaWa} <C>{treatyYear}</>년 <C>{treatyMonth}</>월까지 불가침에 성공했습니다.",
    generalLog context.proposerId .history .yearMonth group
      s!"<D><b>{actorNationName}</b></>{actorJosaWa} {treatyYear}년 {treatyMonth}월까지 불가침 성공",
    generalLog context.proposerId .action .plain group
      s!"<D><b>{actorNationName}</b></>{actorJosaWa} <C>{treatyYear}</>년 <C>{treatyMonth}</>월까지 불가침에 성공했습니다." ]

/-- Carries out an effect in the world. -/
def applyEffect (occurredAt : Option Int) : ResponseEffect → WorldM Unit
  | .diplomacyPatch key patch => TurnWorld.applyDiplomacyPatch key patch
  | .nationPatch targetId patch => do let _ ← TurnWorld.updateNation targetId patch
  | .log entry => TurnWorld.pushLog entry occurredAt

/-- Accepts a treaty. -/
def acceptNonAggression (context : ResponseContext) (treaty : TreatyEnd) (occurredAt : Option Int) : WorldM Unit :=
  (buildNonAggressionEffects context treaty.year treaty.month).forM (applyEffect occurredAt)

/-! ### The months -/

/-- The relations of a pair in both directions, and the date, are the same in two worlds. -/
structure Undisturbed (first second : Int) (world next : TurnWorld) : Prop where
  there : next.diplomacy.rows.get? (first, second) = world.diplomacy.rows.get? (first, second)
  back : next.diplomacy.rows.get? (second, first) = world.diplomacy.rows.get? (second, first)
  year : next.state.currentYear = world.state.currentYear
  month : next.state.currentMonth = world.state.currentMonth

/-- A month passes: the world moves the relations on by itself, or a handler does after others have run. -/
inductive MonthPasses (first second : Int) (options : WorldOptions) : TurnWorld → TurnWorld → Prop
  | automatic {world next : TurnWorld} {turnTime : Int} : options.autoAdvanceDiplomacyMonth = true →
      (TurnWorld.advanceMonth options turnTime).perform world = (.ok ⟨⟩, next) →
      MonthPasses first second options world next
  | handled {world advanced handling next : TurnWorld} {turnTime : Int} {generalCounts : Int → Option Int} :
      options.autoAdvanceDiplomacyMonth = false →
      (TurnWorld.advanceMonth options turnTime).perform world = (.ok ⟨⟩, advanced) →
      Undisturbed first second advanced handling →
      (TurnWorld.advanceDiplomacyMonth (some generalCounts)).perform handling = (.ok ⟨⟩, next) →
      MonthPasses first second options world next

/-- Months pass, and nothing else touches the relations of the pair. -/
inductive MonthsPass (first second : Int) (options : WorldOptions) (start : TurnWorld) : ℕ → TurnWorld → Prop
  | none_ : MonthsPass first second options start 0 start
  | other {months : ℕ} {world next : TurnWorld} : MonthsPass first second options start months world →
      Undisturbed first second world next → MonthsPass first second options start months next
  | month {months : ℕ} {world next : TurnWorld} : MonthsPass first second options start months world →
      MonthPasses first second options world next → MonthsPass first second options start (months + 1) next

end Sammo.TreatyTerms
