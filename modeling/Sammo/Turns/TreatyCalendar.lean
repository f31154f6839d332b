import Sammo.Turns.TurnProcessor
import Sammo.World.Operations
import Sammo.World.TreatyTerms

/-! Treaties hold up to the month in which they end, and declarations become war when their term has run out. -/

namespace Sammo

open Effect

/-! ### One relation in a month -/

variable {entry : TurnDiplomacy}

theorem settleWar_calm {progress : DiplomacyEntries × List DiplomacyKey} {calm : DiplomacyKey}
    (found : relationAt progress.1 calm = some entry) (peace : entry.state ≠ warState) (key : DiplomacyKey) :
    relationAt (settleWar progress key).1 calm = some entry := by
  simp only [settleWar]
  split
  · rename_i first second there back
    split
    · exact found
    · -- Only wars are settled, so this relation is neither direction of the pair.
      rename_i atWar
      rw [not_or, not_or, not_not, not_not] at atWar
      have notThere : key ≠ calm := by
        rintro rfl
        rw [found] at there
        exact peace (Option.some.inj there ▸ atWar.1)
      have notBack : (key.2, key.1) ≠ calm := by
        rintro rfl
        rw [found] at back
        exact peace (Option.some.inj back ▸ atWar.2.2)
      rw [relationAt_changeRelation_of_ne _ notBack, relationAt_changeRelation_of_ne _ notThere]
      exact found
  · exact found

theorem processDiplomacyMonth_calm {entries : DiplomacyEntries} {key : DiplomacyKey}
    (found : relationAt entries key = some entry) (peace : entry.state ≠ warState)
    (generalCounts : Int → Option Int) :
    relationAt (processDiplomacyMonth entries generalCounts) key = some (expireTerm (passMonth entry)) := by
  have prolonged : relationAt (changeRelations entries (prolongWar generalCounts)) key = some entry := by
    rw [relationAt_changeRelations, found, Option.map_some, prolongWar, if_pos (.inl peace)]
  have settled (keys : List DiplomacyKey) (progress : DiplomacyEntries × List DiplomacyKey)
      (found : relationAt progress.1 key = some entry) :
      relationAt (keys.foldl settleWar progress).1 key = some entry := by
    induction keys generalizing progress with
    | nil => exact found
    | cons first rest ih => exact ih _ (settleWar_calm found peace first)
  rw [processDiplomacyMonth, relationAt_changeRelations, relationAt_changeRelations, settled _ _ prolonged]
  rfl

namespace TurnWorld

variable {key : DiplomacyKey} {entry : TurnDiplomacy}

theorem fillDiplomacyMatrix_get? (world : TurnWorld) (found : world.diplomacy.rows.get? key = some entry) :
    (fillDiplomacyMatrix world).diplomacy.rows.get? key = some entry := by
  let Found : TurnWorld → Prop := fun next => next.diplomacy.rows.get? key = some entry
  refine List.foldlRecOn (motive := Found) _ _ found ?_
  intro next held other _
  split
  · exact held
  · rename_i missing
    rw [not_or, Bool.not_eq_true] at missing
    -- What is missing is another relation.
    have apart : key ≠ other := by
      rintro rfl
      rw [OrderedMap.has, held] at missing
      exact Bool.noConfusion missing.2
    show (next.diplomacy.rows.set other buildDefaultDiplomacy).get? key = some entry
    rw [OrderedMap.get?_set, if_neg apart]
    exact held

/-- The state and the term of a relation. -/
def standing (world : TurnWorld) (key : DiplomacyKey) : Option (Int × Int) :=
  (world.diplomacy.rows.get? key).map fun row => (row.state, row.term)

/-- What a month makes of a state and a term, in peace. -/
def nextStanding (state term : Int) : Int × Int :=
  let term := max 0 (term - 1)
  if state = nonAggressionState ∧ term = 0 then (tradeState, term)
  else if state = declarationState ∧ term = 0 then (warState, defaultWarTerm)
  else (state, term)

theorem standing_next (entry : TurnDiplomacy) :
    ((expireTerm (passMonth entry)).state, (expireTerm (passMonth entry)).term) =
      nextStanding entry.state entry.term := by
  unfold expireTerm nextStanding passMonth
  dsimp only
  split
  · rfl
  · split <;> rfl

theorem advanceDiplomacyMonth_calm (peace : entry.state ≠ warState) (generalCounts : Option (Int → Option Int)) :
    Ensures (fun world => world.diplomacy.rows.get? key = some entry) (advanceDiplomacyMonth generalCounts)
      fun _ next => next.standing key = some (nextStanding entry.state entry.term) := by
  refine Ensures.read fun world found => ?_
  split
  · -- There is a relation, so there are some.
    rename_i empty
    rw [OrderedMap.get?, List.isEmpty_iff.mp empty] at found
    cases found
  refine Ensures.bind (show Ensures _ _ fun (entries : DiplomacyEntries) (next : TurnWorld) =>
    (entries.map Prod.fst).Nodup ∧ relationAt entries key = some entry ∧
      next.diplomacy.rows.get? key = some entry from ?_) fun entries => ?_
  · refine Ensures.seq (show Ensures _ _ fun _ (next : TurnWorld) => next.diplomacy.rows.get? key = some entry from
      Ensures.modify fun current same => fillDiplomacyMatrix_get? current (same ▸ found)) fun _ => ?_
    refine Ensures.read fun filled found => Ensures.pure fun current same => ?_
    rw [same]
    exact ⟨filled.diplomacy.rows.nodup, found, found⟩
  · -- The relation waits in the list until it is written, and then it is stored.
    let updated := processDiplomacyMonth entries (generalCounts.getD world.countGenerals)
    let target := expireTerm (passMonth entry)
    let Pending : DiplomacyEntries → TurnWorld → Prop := fun rest next => (rest.map Prod.fst).Nodup ∧
      (relationAt rest key = some target ∧ next.diplomacy.rows.get? key = some entry ∨
        relationAt rest key = none ∧ next.standing key = some (target.state, target.term))
    refine Ensures.mono (Ensures.forM_rest fun item rest =>
        show Ensures (Pending (item :: rest)) _ fun _ => Pending rest from ?_)
      (fun next held => ?_) fun _ next held => ?_
    · refine Ensures.modify fun next held => ?_
      obtain ⟨nodup, waiting⟩ := held
      obtain ⟨fresh, nodup⟩ := List.nodup_cons.mp nodup
      refine ⟨nodup, ?_⟩
      rw [relationAt_cons] at waiting
      by_cases same : item.1 = key
      · rw [if_pos same] at waiting
        obtain ⟨turned, stored⟩ | ⟨none_, -⟩ := waiting
        · refine .inr ⟨relationAt_eq_none (same ▸ fresh), ?_⟩
          have known : item.2 = target := Option.some.inj turned
          rw [← known, ← same]
          rw [← same] at stored
          simp only [standing, stored]
          split
          · rename_i kept
            rw [stored, Option.map_some, kept.1, kept.2.1]
          · rw [WriteBehind.put, OrderedMap.get?_set, if_pos rfl, Option.map_some]
        · cases none_
      · rw [if_neg same] at waiting
        -- Writing another relation leaves this one.
        have left (row : TurnDiplomacy) :
            (next.diplomacy.rows.set item.1 row).get? key = next.diplomacy.rows.get? key := by
          rw [OrderedMap.get?_set, if_neg (Ne.symm same)]
        cases there : next.diplomacy.rows.get? item.1 with
        | none => simpa only [standing, there, WriteBehind.insert, left] using waiting
        | some previous =>
          simp only [standing]
          split
          · exact waiting
          · simpa only [standing, WriteBehind.put, left] using waiting
    · obtain ⟨nodup, found, stored⟩ := held
      refine ⟨?_, .inl ⟨processDiplomacyMonth_calm found peace _, stored⟩⟩
      rw [processDiplomacyMonth_keys]
      exact nodup
    · obtain ⟨-, ⟨turned, -⟩ | ⟨-, stored⟩⟩ := held
      · cases turned
      · rw [stored, standing_next]

/-- The date of the month after. -/
def nextDate (world : TurnWorld) : Int × Int :=
  if 12 < world.state.currentMonth + 1 then (world.state.currentYear + 1, 1)
  else (world.state.currentYear, world.state.currentMonth + 1)

/-- The date of a world. -/
def date (world : TurnWorld) : Int × Int := (world.state.currentYear, world.state.currentMonth)

theorem advanceMonth_dated (options : WorldOptions) (turnTime : Int) (world : TurnWorld) :
    Ensures (fun current => current = world) (advanceMonth options turnTime) fun _ next =>
      ∃ dated : TurnWorld, dated.diplomacy = world.diplomacy ∧ dated.date = world.nextDate ∧
        (options.autoAdvanceDiplomacyMonth = false → next = dated) ∧
        (options.autoAdvanceDiplomacyMonth = true → (advanceDiplomacyMonth none).perform dated = (.ok ⟨⟩, next)) := by
  refine Ensures.read fun current same => ?_
  subst same
  refine Ensures.attempt fun _ _ => Ensures.attempt fun _ _ => Ensures.attempt fun _ _ => ?_
  refine Ensures.seq (show Ensures _ _ fun _ (next : TurnWorld) =>
    next.diplomacy = current.diplomacy ∧ next.date = current.nextDate from
    Ensures.modify fun next same => ?_) fun _ => ?_
  · subst same
    refine ⟨rfl, ?_⟩
    unfold date nextDate
    dsimp only
    split <;> simp_all
  · intro dated held value next performed
    refine ⟨dated, held.1, held.2, fun handled => ?_, fun automatic => ?_⟩
    · rw [handled] at performed
      exact (congrArg Prod.snd performed).symm
    · rw [automatic] at performed
      exact performed

end TurnWorld

namespace TreatyTerms

variable {first second : Int} {options : WorldOptions} {start world next : TurnWorld} {months : ℕ}

variable {key : DiplomacyKey} {generalCounts : Option (Int → Option Int)} {term : Int}

theorem Undisturbed.standing (same : Undisturbed first second world next)
    (pair : key = (first, second) ∨ key = (second, first)) : next.standing key = world.standing key := by
  rcases pair with rfl | rfl
  · rw [TurnWorld.standing, same.there, TurnWorld.standing]
  · rw [TurnWorld.standing, same.back, TurnWorld.standing]

theorem Undisturbed.date (same : Undisturbed first second world next) : next.date = world.date := by
  rw [TurnWorld.date, same.year, same.month, TurnWorld.date]

theorem advanceDiplomacyMonth_state (state : TurnWorldState) (generalCounts : Option (Int → Option Int)) :
    Ensures (fun world => world.state = state) (TurnWorld.advanceDiplomacyMonth generalCounts)
      fun _ world => world.state = state := by
  refine Ensures.read fun world same => ?_
  have filled (world : TurnWorld) : (TurnWorld.fillDiplomacyMatrix world).state = world.state := by
    have framed := congrArg (fun next : TurnWorld => next.state) (TurnWorld.fillDiplomacyMatrix_frame world)
    exact framed
  split
  · exact Ensures.pure fun current equal => equal ▸ same
  · refine Ensures.seq (Ensures.seq (Ensures.modify fun current equal => ?_) fun _ =>
      Ensures.read fun current held => Ensures.pure fun final equal => equal ▸ held) fun entries =>
      Ensures.forM fun item _ => ensures_change fun current held => held
    exact (filled current).trans (equal ▸ same)

theorem advanced_date
    (performed : (TurnWorld.advanceDiplomacyMonth generalCounts).perform world = (.ok ⟨⟩, next)) :
    next.date = world.date := by
  have same := advanceDiplomacyMonth_state world.state generalCounts world rfl ⟨⟩ next performed
  rw [TurnWorld.date, same, TurnWorld.date]

theorem advanced_standing {state : Int}
    (performed : (TurnWorld.advanceDiplomacyMonth generalCounts).perform world = (.ok ⟨⟩, next))
    (stands : world.standing key = some (state, term)) (peace : state ≠ warState) :
    next.standing key = some (TurnWorld.nextStanding state term) := by
  obtain ⟨row, found, same⟩ := Option.map_eq_some_iff.mp stands
  obtain ⟨rfl, rfl⟩ := Prod.mk.inj same
  exact TurnWorld.advanceDiplomacyMonth_calm peace generalCounts world found ⟨⟩ next performed

theorem MonthPasses.moves (passes : MonthPasses first second options world next) :
    next.date = world.nextDate ∧ ∀ key state term, key = (first, second) ∨ key = (second, first) →
      world.standing key = some (state, term) → state ≠ warState →
      next.standing key = some (TurnWorld.nextStanding state term) := by
  cases passes with
  | automatic auto performed =>
    obtain ⟨dated, kept, moved, -, advancing⟩ :=
      TurnWorld.advanceMonth_dated options _ world world rfl ⟨⟩ next performed
    refine ⟨(advanced_date (advancing auto)).trans moved, fun key state term _ stands =>
      advanced_standing (advancing auto) ?_⟩
    rw [TurnWorld.standing, kept]
    exact stands
  | handled handled performed same advancing =>
    obtain ⟨dated, kept, moved, left, -⟩ := TurnWorld.advanceMonth_dated options _ world world rfl ⟨⟩ _ performed
    obtain rfl := left handled
    refine ⟨(advanced_date advancing).trans (same.date.trans moved), fun key state term pair stands =>
      advanced_standing advancing ?_⟩
    rw [same.standing pair, TurnWorld.standing, kept]
    exact stands

/-! ### Many months -/

/-- The months of a date, counted from the beginning of the calendar. -/
def monthOf (world : TurnWorld) : Int := resolveMonthIndex world.state.currentYear world.state.currentMonth

theorem MonthsPass.calendar (passing : MonthsPass first second options start months next)
    (valid : 1 ≤ start.state.currentMonth ∧ start.state.currentMonth ≤ 12) :
    1 ≤ next.state.currentMonth ∧ next.state.currentMonth ≤ 12 ∧ monthOf next = monthOf start + months := by
  induction passing with
  | none_ => exact ⟨valid.1, valid.2, by simp⟩
  | other _ same ih =>
    rw [monthOf, same.year, same.month]
    exact ih
  | @month months world next _ passes ih =>
    obtain ⟨date, -⟩ := passes.moves
    unfold TurnWorld.date TurnWorld.nextDate at date
    unfold monthOf resolveMonthIndex at ih ⊢
    -- The twelfth month is followed by the first of the next year.
    split at date
    · obtain ⟨year, month⟩ := Prod.mk.inj date
      push_cast
      omega
    · obtain ⟨year, month⟩ := Prod.mk.inj date
      push_cast
      omega

theorem MonthsPass.course (passing : MonthsPass first second options start months next)
    (pair : key = (first, second) ∨ key = (second, first)) (course : ℕ → Int × Int)
    (begins : start.standing key = some (course 0)) (peace : ∀ month < months, (course month).1 ≠ warState)
    (goes : ∀ month < months, TurnWorld.nextStanding (course month).1 (course month).2 = course (month + 1)) :
    next.standing key = some (course months) := by
  induction passing with
  | none_ => exact begins
  | other _ same ih => exact (same.standing pair).trans (ih peace goes)
  | @month months world next _ passes ih =>
    have before := ih (fun month below => peace month (by omega)) fun month below => goes month (by omega)
    rw [← goes months (Nat.lt_succ_self months)]
    exact passes.moves.2 key _ _ pair before (peace months (Nat.lt_succ_self months))

theorem nextStanding_holds (lasting : 1 < term) :
    TurnWorld.nextStanding nonAggressionState term = (nonAggressionState, term - 1) := by
  have left : max 0 (term - 1) = term - 1 := max_eq_right (by omega)
  have more : term - 1 ≠ 0 := by omega
  simp [TurnWorld.nextStanding, left, more, nonAggressionState, declarationState]

theorem nextStanding_ends : TurnWorld.nextStanding nonAggressionState 1 = (tradeState, 0) := by decide

theorem nextStanding_over : TurnWorld.nextStanding tradeState 0 = (tradeState, 0) := by decide

theorem nextStanding_declared (lasting : 1 < term) :
    TurnWorld.nextStanding declarationState term = (declarationState, term - 1) := by
  have left : max 0 (term - 1) = term - 1 := max_eq_right (by omega)
  have more : term - 1 ≠ 0 := by omega
  simp [TurnWorld.nextStanding, left, more, nonAggressionState, declarationState]

theorem nextStanding_war (last : term ≤ 1) :
    TurnWorld.nextStanding declarationState term = (warState, defaultWarTerm) := by
  have none_ : max 0 (term - 1) = 0 := max_eq_left (by omega)
  simp [TurnWorld.nextStanding, none_, nonAggressionState, declarationState]

theorem MonthsPass.treaty (passing : MonthsPass first second options start months next)
    (pair : key = (first, second) ∨ key = (second, first))
    (begins : start.standing key = some (nonAggressionState, term)) (lasting : 0 < term) :
    next.standing key = some (if months < term then (nonAggressionState, term - months) else (tradeState, 0)) := by
  refine passing.course pair
    (fun months => if (months : Int) < term then (nonAggressionState, term - months) else (tradeState, 0))
    ?_ (fun month _ => ?_) fun month _ => ?_
  · simpa [lasting] using begins
  · -- Neither a treaty nor trade is a war.
    split
    · exact (by decide : nonAggressionState ≠ warState)
    · exact (by decide : tradeState ≠ warState)
  · rcases lt_trichotomy ((month : Int) + 1) term with before | last | after
    · rw [if_pos (by omega), if_pos (by push_cast; omega), nextStanding_holds (by omega)]
      push_cast
      rw [Int.sub_sub]
    · have one : term - month = 1 := by omega
      rw [if_pos (by omega), if_neg (by push_cast; omega), one, nextStanding_ends]
    · rw [if_neg (by omega), if_neg (by push_cast; omega), nextStanding_over]

theorem MonthsPass.declaration (passing : MonthsPass first second options start months next)
    (pair : key = (first, second) ∨ key = (second, first))
    (begins : start.standing key = some (declarationState, term)) (inTime : (months : Int) ≤ max term 1) :
    next.standing key =
      some (if months < max term 1 then (declarationState, term - months) else (warState, defaultWarTerm)) := by
  refine passing.course pair
    (fun months =>
      if (months : Int) < max term 1 then (declarationState, term - months) else (warState, defaultWarTerm))
    ?_ (fun month below => ?_) fun month below => ?_
  · simpa using begins
  · rw [if_pos (by omega)]
    exact (by decide : declarationState ≠ warState)
  · by_cases last : (month : Int) + 1 < max term 1
    · rw [if_pos (by omega), if_pos (by push_cast; omega), nextStanding_declared (by omega)]
      push_cast
      rw [Int.sub_sub]
    · rw [if_pos (by omega), if_neg (by push_cast; omega), nextStanding_war (by omega)]

/-! ### The acceptance -/

/-- What two nations agree on. -/
def agreement (term : Int) : DiplomacyPatch := { state := some nonAggressionState, term := some term }

theorem applyDiplomacyPatch_agreed (term : Int) (world : TurnWorld) (patched : DiplomacyKey) :
    Ensures (fun current => current = world) (TurnWorld.applyDiplomacyPatch patched (agreement term))
      fun _ next => next.date = world.date ∧ next.standing patched = some (nonAggressionState, term) ∧
        ∀ key ≠ patched, next.standing key = world.standing key := by
  refine Ensures.modify fun current same => ?_
  subst same
  refine ⟨rfl, ?_, fun key apart => ?_⟩
  · unfold TurnWorld.standing
    dsimp only
    split
    · rw [WriteBehind.put, OrderedMap.get?_set, if_pos rfl]
      rfl
    · rw [WriteBehind.insert, OrderedMap.get?_set, if_pos rfl]
      rfl
  · unfold TurnWorld.standing
    dsimp only
    split
    · rw [WriteBehind.put, OrderedMap.get?_set, if_neg apart]
    · rw [WriteBehind.insert, OrderedMap.get?_set, if_neg apart]

theorem applyEffect_quiet (occurredAt : Option Int) (effect : ResponseEffect)
    (quiet : ∀ key patch, effect ≠ .diplomacyPatch key patch) (world : TurnWorld) :
    Ensures (fun current => current = world) (applyEffect occurredAt effect)
      fun _ next => next.date = world.date ∧ next.diplomacy = world.diplomacy := by
  cases effect with
  | diplomacyPatch key patch => exact absurd rfl (quiet key patch)
  | nationPatch targetId patch =>
    refine Ensures.seq (show Ensures _ _ fun _ (next : TurnWorld) =>
      next.date = world.date ∧ next.diplomacy = world.diplomacy from ?_) fun _ => Ensures.pure fun _ held => held
    refine Ensures.read fun current same => ?_
    subst same
    split
    · exact Ensures.pure fun _ same => same ▸ ⟨rfl, rfl⟩
    · exact ensures_modify_pure fun _ same => same ▸ ⟨rfl, rfl⟩
  | log entry => exact Ensures.modify fun _ same => same ▸ ⟨rfl, rfl⟩

theorem applyEffects_agreed (occurredAt : Option Int) (term : Int) (effects : List ResponseEffect)
    (key : DiplomacyKey) (agreed : ∀ key patch, .diplomacyPatch key patch ∈ effects → patch = agreement term)
    (patched : .diplomacyPatch key (agreement term) ∈ effects) (world : TurnWorld) :
    Ensures (fun current => current = world) (effects.forM (applyEffect occurredAt))
      fun _ next => next.date = world.date ∧ next.standing key = some (nonAggressionState, term) := by
  -- The relation waits for its patch among the effects to come, and then it stays a treaty.
  let Pending : List ResponseEffect → TurnWorld → Prop := fun rest next => next.date = world.date ∧
    (∀ key patch, .diplomacyPatch key patch ∈ rest → patch = agreement term) ∧
    (.diplomacyPatch key (agreement term) ∈ rest ∨ next.standing key = some (nonAggressionState, term))
  have round : ∀ effect rest,
      Ensures (Pending (effect :: rest)) (applyEffect occurredAt effect) fun _ => Pending rest := by
    intro effect rest current held value next performed
    obtain ⟨date, agreed, waiting⟩ := held
    have later : ∀ key patch, .diplomacyPatch key patch ∈ rest → patch = agreement term :=
      fun key patch member => agreed key patch (List.mem_cons_of_mem effect member)
    cases effect with
    | diplomacyPatch other patch =>
      obtain rfl := agreed other patch List.mem_cons_self
      obtain ⟨same, stands, left⟩ := applyDiplomacyPatch_agreed term current other current rfl value next performed
      refine ⟨same.trans date, later, ?_⟩
      by_cases here : key = other
      · exact .inr (here ▸ stands)
      · rw [left key here]
        refine waiting.imp_left fun member => ?_
        rcases List.mem_cons.mp member with first | rest
        · cases first
          exact absurd rfl here
        · exact rest
    | nationPatch targetId patch =>
      obtain ⟨same, kept⟩ := applyEffect_quiet occurredAt (.nationPatch targetId patch) (by rintro _ _ ⟨⟩) current
        current rfl value next performed
      refine ⟨same.trans date, later, ?_⟩
      rw [TurnWorld.standing, kept]
      exact waiting.imp_left fun member => (List.mem_cons.mp member).resolve_left (by rintro ⟨⟩)
    | log entry =>
      obtain ⟨same, kept⟩ := applyEffect_quiet occurredAt (.log entry) (by rintro _ _ ⟨⟩) current
        current rfl value next performed
      refine ⟨same.trans date, later, ?_⟩
      rw [TurnWorld.standing, kept]
      exact waiting.imp_left fun member => (List.mem_cons.mp member).resolve_left (by rintro ⟨⟩)
  refine Ensures.mono (Ensures.forM_rest round) (fun next same => same ▸ ⟨rfl, agreed, .inl patched⟩)
    fun _ next held => ?_
  obtain ⟨date, -, waiting | stands⟩ := held
  · exact absurd waiting List.not_mem_nil
  · exact ⟨date, stands⟩

/-- The term of an accepted treaty. -/
def acceptedTerm (context : ResponseContext) (treaty : TreatyEnd) : Int :=
  treaty.year * 12 + treaty.month - resolveMonthIndex context.currentYear context.currentMonth

theorem acceptNonAggression_agreed (context : ResponseContext) (treaty : TreatyEnd) (occurredAt : Option Int)
    (pair : key = (context.actorNationId, context.proposerNationId) ∨
      key = (context.proposerNationId, context.actorNationId)) (world : TurnWorld) :
    Ensures (fun current => current = world) (acceptNonAggression context treaty occurredAt)
      fun _ next => next.date = world.date ∧
        next.standing key = some (nonAggressionState, acceptedTerm context treaty) := by
  refine applyEffects_agreed occurredAt (acceptedTerm context treaty) _ key (fun other patch member => ?_) ?_ world
  · simp only [buildNonAggressionEffects, generalLog, List.mem_cons, List.not_mem_nil, or_false, reduceCtorEq,
      or_self, ResponseEffect.diplomacyPatch.injEq] at member
    rcases member with ⟨-, same⟩ | ⟨-, same⟩
    · exact same
    · exact same
  · rcases pair with rfl | rfl
    · exact List.mem_cons_self
    · exact List.mem_cons_of_mem _ List.mem_cons_self

/-- The date is not later than the end of a treaty. -/
def NotLater (world : TurnWorld) (treaty : TreatyEnd) : Prop :=
  world.state.currentYear < treaty.year ∨
    world.state.currentYear = treaty.year ∧ world.state.currentMonth ≤ treaty.month

instance (world : TurnWorld) (treaty : TreatyEnd) : Decidable (NotLater world treaty) :=
  inferInstanceAs (Decidable (_ ∨ _))

theorem acceptedTerm_pos {context : ResponseContext} {treaty : TreatyEnd} {mode : ConstraintMode}
    {startYear : Option Int}
    (accepted : reqTreatyTermRange nonAggressionMinTermMonths ⟨mode, some treaty.year, some treaty.month,
        some context.currentYear, some context.currentMonth, startYear⟩ = .allow ∨
      reqFutureTreatyTerm ⟨mode, some treaty.year, some treaty.month, some context.currentYear,
        some context.currentMonth, startYear⟩ = .allow) : 0 < acceptedTerm context treaty := by
  unfold acceptedTerm
  rcases accepted with proposed | responded
  · cases startYear with
    | none => cases mode <;> cases proposed
    | some startYear =>
      simp only [reqTreatyTermRange] at proposed
      split at proposed
      · cases proposed
      split at proposed
      · cases proposed
      rename_i lasting
      simp only [resolveMonthIndex, nonAggressionMinTermMonths] at lasting ⊢
      omega
  · simp only [reqFutureTreatyTerm] at responded
    split at responded
    · cases responded
    · omega

/--
A treaty holds in both directions exactly while the date is not later than its end, and is back to trade from then on.

A declaration becomes war in both directions when its term has run out; without a term it still lasts a month.
-/
theorem treaty_calendar (options : WorldOptions) :
    (∀ (context : ResponseContext) (treaty : TreatyEnd) (mode : ConstraintMode) (startYear occurredAt : Option Int)
        (world accepted final : TurnWorld) (months : ℕ),
      world.state.currentYear = context.currentYear → world.state.currentMonth = context.currentMonth →
      1 ≤ context.currentMonth ∧ context.currentMonth ≤ 12 →
      (reqTreatyTermRange nonAggressionMinTermMonths ⟨mode, some treaty.year, some treaty.month,
          some context.currentYear, some context.currentMonth, startYear⟩ = .allow ∨
        reqFutureTreatyTerm ⟨mode, some treaty.year, some treaty.month, some context.currentYear,
          some context.currentMonth, startYear⟩ = .allow) →
      (acceptNonAggression context treaty occurredAt).perform world = (.ok ⟨⟩, accepted) →
      MonthsPass context.actorNationId context.proposerNationId options accepted months final →
      ∀ key, (key = (context.actorNationId, context.proposerNationId) ∨
          key = (context.proposerNationId, context.actorNationId)) →
        ∃ term, final.standing key =
          some (if NotLater final treaty then nonAggressionState else tradeState, term)) ∧
    ∀ (first second term : Int) (start final : TurnWorld) (months : ℕ),
      start.standing (first, second) = some (declarationState, term) →
      start.standing (second, first) = some (declarationState, term) →
      MonthsPass first second options start months final →
      ∀ key, (key = (first, second) ∨ key = (second, first)) →
        ((months : Int) < max term 1 → final.standing key = some (declarationState, term - months)) ∧
        ((months : Int) = max term 1 → final.standing key = some (warState, defaultWarTerm)) := by
  constructor
  · intro context treaty mode startYear occurredAt world accepted final months year month valid allowed performed
      passing key pair
    have agreed (key : DiplomacyKey) (pair : key = (context.actorNationId, context.proposerNationId) ∨
        key = (context.proposerNationId, context.actorNationId)) :=
      acceptNonAggression_agreed context treaty occurredAt pair world world rfl ⟨⟩ accepted performed
    obtain ⟨date, stands⟩ := agreed key pair
    obtain ⟨year_, month_⟩ := Prod.mk.inj date
    have stood := passing.treaty pair stands (acceptedTerm_pos allowed)
    obtain ⟨low, high, calendar⟩ := passing.calendar (by rw [month_, month]; exact valid)
    -- The months that have passed are fewer than the term exactly while the end has not passed.
    have same : (months : Int) < acceptedTerm context treaty ↔ NotLater final treaty := by
      have validMonth := treaty.validMonth
      unfold monthOf at calendar
      rw [year_, month_, year, month] at calendar
      unfold resolveMonthIndex at calendar
      unfold acceptedTerm resolveMonthIndex NotLater
      omega
    rw [stood]
    split
    · rename_i holding
      exact ⟨_, by rw [if_pos (same.mp holding)]⟩
    · rename_i over_
      exact ⟨_, by rw [if_neg fun notLater => over_ (same.mpr notLater)]⟩
  · intro first second term start final months there back passing key pair
    have stands : start.standing key = some (declarationState, term) := by
      rcases pair with rfl | rfl
      · exact there
      · exact back
    refine ⟨fun before => ?_, fun ended => ?_⟩
    · rw [passing.declaration pair stands before.le, if_pos before]
    · rw [passing.declaration pair stands ended.le, if_neg (by omega)]

/-- A world in which two nations stand to each other in the same way. -/
def pairWorld (state term : Int) : TurnWorld :=
  { InMemoryTurnWorld.opening.toTurnWorld with
    diplomacy := .clean (.ofEntries [((1, 2), ⟨state, term, 0, []⟩), ((2, 1), ⟨state, term, 0, []⟩)]) }

/-- An answer of the first nation to the second, in the first month. -/
def answer : ResponseContext :=
  ⟨1, 1, ⟨"위", none, 0, 0, [], []⟩, 2, 2, ⟨"촉", none, 0, 0, [], []⟩, 180, 1⟩

/-- A treaty up to the seventh month. -/
def upToJuly : TreatyEnd := ⟨180, 7, by decide, by decide⟩

/-- A world after one more month. -/
def monthLater (world : TurnWorld) : TurnWorld :=
  ((TurnWorld.advanceMonth InMemoryTurnWorld.openingOptions 0).perform world).2

/-- The world after the treaty has been accepted. -/
def treatyWorld : TurnWorld := ((acceptNonAggression answer upToJuly none).perform (pairWorld tradeState 0)).2

/-- A treaty up to the seventh month holds in the second, and a declaration for a month is war after it. -/
theorem treaty_calendar_month : (∃ term, (monthLater treatyWorld).standing (2, 1) = some (nonAggressionState, term)) ∧
    (monthLater (pairWorld declarationState 1)).standing (1, 2) = some (warState, defaultWarTerm) := by
  obtain ⟨treaty, declaration⟩ := treaty_calendar InMemoryTurnWorld.openingOptions
  have passes (world : TurnWorld)
      (performed : (TurnWorld.advanceMonth InMemoryTurnWorld.openingOptions 0).perform world =
        (.ok ⟨⟩, monthLater world)) :
      MonthsPass 1 2 InMemoryTurnWorld.openingOptions world 1 (monthLater world) :=
    .month .none_ (.automatic rfl performed)
  constructor
  · have held := treaty answer upToJuly .full (some 180) none (pairWorld tradeState 0) treatyWorld
      (monthLater treatyWorld) 1 rfl rfl (by decide) (.inl (by decide)) rfl
      (passes treatyWorld rfl) (2, 1) (.inr rfl)
    exact held
  · exact (declaration 1 2 1 (pairWorld declarationState 1) (monthLater (pairWorld declarationState 1)) 1 rfl rfl
      (passes (pairWorld declarationState 1) rfl) (1, 2) (.inl rfl)).2 rfl

/-- A declaration without a term is not war at once: it still lasts a month. -/
theorem declaration_without_term :
    (pairWorld declarationState 0).standing (1, 2) = some (declarationState, 0) ∧
    MonthsPass 1 2 InMemoryTurnWorld.openingOptions (pairWorld declarationState 0) 0 (pairWorld declarationState 0) ∧
    (pairWorld declarationState 0).standing (1, 2) ≠ some (warState, defaultWarTerm) ∧
    (monthLater (pairWorld declarationState 0)).standing (1, 2) = some (warState, defaultWarTerm) := by
  refine ⟨rfl, .none_, by decide, rfl⟩

end TreatyTerms

end Sammo
