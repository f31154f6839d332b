import Mathlib.Tactic.Linarith
import Sammo.World.Diplomacy

/-! Wars start, are drawn out and end on both sides in the same month. -/

namespace Sammo

/-! ### Settling every pair once -/

/-- The pair of nations that a relation is between. -/
def pairOf (key : DiplomacyKey) : DiplomacyKey := (min key.1 key.2, max key.1 key.2)

theorem pairOf_swap (key : DiplomacyKey) : pairOf key.swap = pairOf key := by
  simp only [pairOf, Prod.fst_swap, Prod.snd_swap, min_comm key.2, max_comm key.2]

theorem eq_or_swap_of_pairOf {key other : DiplomacyKey} (same : pairOf other = pairOf key) :
    other = key ∨ other = key.swap := by
  obtain ⟨first, second⟩ := key
  obtain ⟨third, fourth⟩ := other
  simp only [pairOf, Prod.mk.injEq, Prod.swap_prod_mk] at same ⊢
  omega

/-- A war with a term for both sides, which ends when it is about to run out. -/
def settled (sharedTerm : Int) (relation : TurnDiplomacy) : TurnDiplomacy :=
  if sharedTerm ≤ 1 then { relation with state := tradeState, term := 0 } else { relation with term := sharedTerm }

theorem settled_settled (sharedTerm : Int) (relation : TurnDiplomacy) :
    settled sharedTerm (settled sharedTerm relation) = settled sharedTerm relation := by
  unfold settled
  split <;> rfl

theorem relationAt_changeRelation (entries : DiplomacyEntries) (key other : DiplomacyKey)
    (change : TurnDiplomacy → TurnDiplomacy) :
    relationAt (changeRelation entries key change) other =
      if key = other then (relationAt entries other).map change else relationAt entries other := by
  -- The induction is on the entries, of which the first under a key is found.
  by_cases same : key = other
  · subst same
    rw [if_pos rfl]
    induction entries with
    | nil => rfl
    | cons entry rest ih =>
      have later : changeRelation (entry :: rest) key change =
        (if entry.1 = key then (entry.1, change entry.2) else entry) :: changeRelation rest key change := rfl
      rw [later, relationAt_cons, relationAt_cons, ih]
      by_cases here : entry.1 = key
      · simp only [if_pos here, Option.map_some]
      · simp only [if_neg here]
  · rw [if_neg same, relationAt_changeRelation_of_ne _ same]

theorem relationAt_settleBoth (entries : DiplomacyEntries) (key other : DiplomacyKey) (sharedTerm : Int) :
    relationAt
        (changeRelation (changeRelation entries key (settled sharedTerm)) key.swap (settled sharedTerm)) other =
      if pairOf other = pairOf key then (relationAt entries other).map (settled sharedTerm)
      else relationAt entries other := by
  rw [relationAt_changeRelation, relationAt_changeRelation]
  by_cases same : pairOf other = pairOf key
  · -- A relation of a nation to itself is changed twice, which is as good as once.
    have twice : ((relationAt entries other).map (settled sharedTerm)).map (settled sharedTerm) =
        (relationAt entries other).map (settled sharedTerm) := by
      rw [Option.map_map]
      exact congrArg (Option.map · _) (funext fun relation => settled_settled sharedTerm relation)
    rw [if_pos same]
    rcases eq_or_swap_of_pairOf same with rfl | rfl
    · rw [if_pos rfl]
      split
      · exact twice
      · rfl
    · rw [if_pos rfl]
      split
      · exact twice
      · rfl
  · have notThere : key ≠ other := fun there => same (congrArg pairOf there.symm)
    have notBack : key.swap ≠ other := fun back => same (back ▸ pairOf_swap key)
    rw [if_neg same, if_neg notBack, if_neg notThere]

theorem settleWar_cases (progress : DiplomacyEntries × List DiplomacyKey) (key : DiplomacyKey) :
    (settleWar progress key = progress ∧ (pairOf key ∈ progress.2 ∨ ∀ entry opposite,
        relationAt progress.1 key = some entry → relationAt progress.1 key.swap = some opposite →
          ¬ (entry.state = warState ∧ opposite.state = warState))) ∨
      ∃ entry opposite, relationAt progress.1 key = some entry ∧ relationAt progress.1 key.swap = some opposite ∧
        entry.state = warState ∧ opposite.state = warState ∧ pairOf key ∉ progress.2 ∧
        settleWar progress key =
          (changeRelation (changeRelation progress.1 key (settled (max entry.term opposite.term))) key.swap
            (settled (max entry.term opposite.term)), pairOf key :: progress.2) := by
  -- A pair is settled when both directions are there, at war, and not met before.
  simp only [settleWar]
  split
  · rename_i entry opposite found foundBack
    split
    · rename_i refused
      refine .inl ⟨rfl, ?_⟩
      rcases refused with calm | met | calm
      · refine .inr fun other _ same _ atWar => calm ?_
        rw [← Option.some.inj (found.symm.trans same)] at atWar
        exact atWar.1
      · exact .inl met
      · refine .inr fun _ other _ same atWar => calm ?_
        rw [← Option.some.inj (foundBack.symm.trans same)] at atWar
        exact atWar.2
    · rename_i refused
      rw [not_or, not_or, not_not, not_not] at refused
      exact .inr ⟨entry, opposite, found, foundBack, refused.1, refused.2.2, refused.2.1, rfl⟩
  · rename_i missing
    exact .inl ⟨rfl, .inr fun entry opposite found foundBack _ => missing entry opposite found foundBack⟩

/-- The wars of the pairs that have been met are settled, and nothing else has changed. -/
structure WarsSettled (before : DiplomacyEntries) (progress : DiplomacyEntries × List DiplomacyKey) : Prop where
  met : ∀ key, pairOf key ∈ progress.2 → ∃ entry opposite, relationAt before key = some entry ∧
    relationAt before key.swap = some opposite ∧ entry.state = warState ∧ opposite.state = warState ∧
    relationAt progress.1 key = some (settled (max entry.term opposite.term) entry)
  others : ∀ key, pairOf key ∉ progress.2 → relationAt progress.1 key = relationAt before key

variable {before : DiplomacyEntries} {progress : DiplomacyEntries × List DiplomacyKey}
  {entry opposite : TurnDiplomacy}

theorem WarsSettled.meet (wars : WarsSettled before progress) (key : DiplomacyKey) :
    WarsSettled before (settleWar progress key) := by
  rcases settleWar_cases progress key with ⟨same, _⟩ | ⟨entry, opposite, found, foundBack, there, back, fresh, next⟩
  · rw [same]
    exact wars
  · rw [wars.others key fresh] at found
    rw [wars.others key.swap (by rwa [pairOf_swap])] at foundBack
    rw [next]
    constructor
    · intro other listed
      dsimp only
      rw [relationAt_settleBoth]
      rcases List.mem_cons.mp listed with this | earlier
      · -- The other direction of the pair shares the term.
        rw [if_pos this, wars.others other (this ▸ fresh)]
        rcases eq_or_swap_of_pairOf this with rfl | rfl
        · exact ⟨entry, opposite, found, foundBack, there, back, by rw [found, Option.map_some]⟩
        · rw [Prod.swap_swap]
          exact ⟨opposite, entry, foundBack, found, back, there, by rw [foundBack, Option.map_some, max_comm]⟩
      · have apart : pairOf other ≠ pairOf key := fun this => fresh (this ▸ earlier)
        rw [if_neg apart]
        exact wars.met other earlier
    · intro other unmet
      obtain ⟨notThis, notEarlier⟩ := not_or.mp (List.mem_cons.not.mp unmet)
      dsimp only
      rw [relationAt_settleBoth, if_neg notThis]
      exact wars.others other notEarlier

theorem mem_settleWar (wars : WarsSettled before progress) {key other : DiplomacyKey}
    (found : relationAt before other = some entry) (foundBack : relationAt before other.swap = some opposite)
    (atWar : entry.state = warState ∧ opposite.state = warState)
    (either : pairOf other ∈ progress.2 ∨ key = other) : pairOf other ∈ (settleWar progress key).2 := by
  -- A pair that is not met now was met, or has no war on both sides.
  rcases settleWar_cases progress key with ⟨same, met⟩ | ⟨_, _, _, _, _, _, _, next⟩
  · rw [same]
    rcases either with earlier | rfl
    · exact earlier
    · by_contra unmet
      rcases met with earlier | calm
      · exact unmet earlier
      · refine calm entry opposite ?_ ?_ atWar
        · rw [wars.others key unmet, found]
        · rw [wars.others key.swap (by rwa [pairOf_swap]), foundBack]
  · rw [next]
    rcases either with earlier | rfl
    · exact List.mem_cons_of_mem _ earlier
    · exact List.mem_cons_self

theorem WarsSettled.meetAll (wars : WarsSettled before progress) (keys : List DiplomacyKey) :
    WarsSettled before (keys.foldl settleWar progress) ∧
      ∀ key entry opposite, relationAt before key = some entry → relationAt before key.swap = some opposite →
        entry.state = warState ∧ opposite.state = warState → pairOf key ∈ progress.2 ∨ key ∈ keys →
        pairOf key ∈ (keys.foldl settleWar progress).2 := by
  -- The induction is on the relations that are met, with what was met before them.
  induction keys generalizing progress with
  | nil =>
    refine ⟨wars, fun key entry opposite _ _ _ either => ?_⟩
    rcases either with earlier | listed
    · exact earlier
    · cases listed
  | cons first rest ih =>
    obtain ⟨settledRest, metRest⟩ := ih (wars.meet first)
    refine ⟨settledRest, fun key entry opposite found foundBack atWar either => ?_⟩
    refine metRest key entry opposite found foundBack atWar ?_
    rcases either with earlier | listed
    · exact .inl (mem_settleWar wars found foundBack atWar (.inl earlier))
    · rcases List.mem_cons.mp listed with rfl | later
      · exact .inl (mem_settleWar wars found foundBack atWar (.inr rfl))
      · exact .inr later

/-! ### One month -/

/-- A relation after the wars are settled, by those of both directions before. -/
def afterWars (before : DiplomacyEntries) (key : DiplomacyKey) : Option TurnDiplomacy :=
  match relationAt before key, relationAt before key.swap with
  | some entry, some opposite =>
    if entry.state = warState ∧ opposite.state = warState then some (settled (max entry.term opposite.term) entry)
    else some entry
  | found, _ => found

theorem relationAt_settleAll (before : DiplomacyEntries) (key : DiplomacyKey) :
    relationAt ((before.map Prod.fst).foldl settleWar (before, [])).1 key = afterWars before key := by
  have start : WarsSettled before (before, []) :=
    ⟨fun _ listed => absurd listed List.not_mem_nil, fun _ _ => rfl⟩
  obtain ⟨wars, all⟩ := start.meetAll (before.map Prod.fst)
  by_cases met : pairOf key ∈ ((before.map Prod.fst).foldl settleWar (before, [])).2
  · obtain ⟨entry, opposite, found, foundBack, there, back, done⟩ := wars.met key met
    rw [done]
    simp only [afterWars, found, foundBack, if_pos (And.intro there back)]
  · rw [wars.others key met]
    cases found : relationAt before key with
    | none => simp only [afterWars, found]
    | some entry =>
      cases foundBack : relationAt before key.swap with
      | none => simp only [afterWars, found, foundBack]
      | some opposite =>
        -- A pair at war would have been met with this relation.
        have listed : key ∈ before.map Prod.fst := by
          by_contra unlisted
          rw [relationAt_eq_none unlisted] at found
          cases found
        have calm : ¬ (entry.state = warState ∧ opposite.state = warState) :=
          fun atWar => met (all key entry opposite found foundBack atWar (.inr listed))
        simp only [afterWars, found, foundBack, if_neg calm]

theorem relationAt_processDiplomacyMonth (entries : DiplomacyEntries) (generalCounts : Int → Option Int)
    (key : DiplomacyKey) :
    relationAt (processDiplomacyMonth entries generalCounts) key =
      (afterWars (changeRelations entries (prolongWar generalCounts)) key).map fun entry =>
        expireTerm (passMonth entry) := by
  rw [processDiplomacyMonth, relationAt_changeRelations, relationAt_changeRelations, relationAt_settleAll,
    Option.map_map]
  rfl

theorem afterWars_of_both {key : DiplomacyKey} (found : relationAt before key = some entry)
    (foundBack : relationAt before key.swap = some opposite) :
    afterWars before key = some (if entry.state = warState ∧ opposite.state = warState then
      settled (max entry.term opposite.term) entry else entry) := by
  simp only [afterWars, found, foundBack]
  split <;> rfl

theorem exists_of_afterWars {key : DiplomacyKey} {after : TurnDiplomacy}
    (found : afterWars before key = some after) :
    ∃ entry, relationAt before key = some entry ∧ (after = entry ∨ ∃ opposite,
      relationAt before key.swap = some opposite ∧ entry.state = warState ∧ opposite.state = warState ∧
        after = settled (max entry.term opposite.term) entry) := by
  -- Only a war of both sides changes a relation, and only its term and state.
  unfold afterWars at found
  split at found
  · rename_i entry opposite there back
    split at found
    · rename_i atWar
      exact ⟨entry, there, .inr ⟨opposite, back, atWar.1, atWar.2, (Option.some.inj found).symm⟩⟩
    · exact ⟨entry, there, .inl (Option.some.inj found).symm⟩
  · exact ⟨after, found, .inl rfl⟩

theorem prolongWar_state (generalCounts : Int → Option Int) (key : DiplomacyKey) (entry : TurnDiplomacy) :
    (prolongWar generalCounts key entry).state = entry.state := by
  unfold prolongWar
  split
  · rfl
  · dsimp only
    split <;> rfl

theorem prolongWar_calm (generalCounts : Int → Option Int) (key : DiplomacyKey) (calm : entry.state ≠ warState) :
    prolongWar generalCounts key entry = entry := by
  rw [prolongWar, if_pos (.inl calm)]

theorem prolongWar_term_le (generalCounts : Int → Option Int) (key : DiplomacyKey)
    (bounded : entry.term ≤ maxWarTerm) : (prolongWar generalCounts key entry).term ≤ maxWarTerm := by
  unfold prolongWar
  split
  · exact bounded
  · dsimp only
    split
    · exact bounded
    · simp only [maxWarTerm] at bounded ⊢
      omega

/-- The casualties that draw a war out by a month: a hundred for every general of the nation. -/
def termCost (generalCounts : Int → Option Int) (nationId : Int) : ℚ :=
  100 * (max 1 ((generalCounts nationId).getD 1) : Int)

theorem prolongWar_dead_lt (generalCounts : Int → Option Int) (key : DiplomacyKey)
    (atWar : entry.state = warState) :
    (prolongWar generalCounts key entry).dead < termCost generalCounts key.1 := by
  have positive : (0 : ℚ) < (max 1 ((generalCounts key.1).getD 1) : Int) := by
    exact_mod_cast lt_of_lt_of_le Int.one_pos (le_max_left _ _)
  unfold prolongWar termCost
  generalize (max 1 ((generalCounts key.1).getD 1) : Int) = genCount at positive
  split
  · -- A relation that is at war has no casualties here.
    rename_i nothing
    have none := nothing.resolve_left (not_not.mpr atWar)
    linarith
  · have above : entry.dead / 100 / genCount < ⌊entry.dead / 100 / genCount⌋ + 1 := Int.lt_floor_add_one _
    have scaled : entry.dead = entry.dead / 100 / genCount * genCount * 100 := by
      rw [div_mul_cancel₀ _ positive.ne', div_mul_cancel₀ _ (by norm_num)]
    have part := mul_lt_mul_of_pos_right above positive
    rw [add_mul, one_mul] at part
    dsimp only
    split
    · rename_i few
      have few : (⌊entry.dead / 100 / genCount⌋ : ℚ) ≤ 0 := by exact_mod_cast few
      have none := mul_nonpos_of_nonpos_of_nonneg few positive.le
      linarith
    · dsimp only
      linarith

theorem passMonth_congr (state : entry.state = opposite.state) (term : entry.term = opposite.term) :
    (expireTerm (passMonth entry)).state = (expireTerm (passMonth opposite)).state ∧
      (expireTerm (passMonth entry)).term = (expireTerm (passMonth opposite)).term := by
  -- What a month does is decided by the state and the term.
  unfold expireTerm passMonth
  dsimp only
  rw [state, term]
  split
  · exact ⟨rfl, rfl⟩
  · split
    · exact ⟨rfl, rfl⟩
    · exact ⟨rfl, rfl⟩

theorem passMonth_term_le (bounded : entry.state = warState → entry.term ≤ maxWarTerm)
    (atWar : (expireTerm (passMonth entry)).state = warState) :
    (expireTerm (passMonth entry)).term ≤ maxWarTerm := by
  -- A treaty and a declaration are no war yet, and a war loses a month.
  unfold expireTerm passMonth at atWar ⊢
  dsimp only at atWar ⊢
  split at atWar
  · cases atWar
  · rename_i noTreaty
    rw [if_neg noTreaty]
    split at atWar
    · rename_i declared
      rw [if_pos declared]
      show defaultWarTerm ≤ maxWarTerm
      decide
    · rename_i notDeclared
      rw [if_neg notDeclared]
      have before := bounded atWar
      simp only [maxWarTerm] at before ⊢
      omega

theorem passMonth_dead_lt {cost : ℚ} (positive : 0 < cost) (rest : entry.state = warState → entry.dead < cost) :
    (expireTerm (passMonth entry)).dead < cost := by
  -- Without a war the casualties are forgotten.
  have passed : (passMonth entry).dead < cost := by
    unfold passMonth
    dsimp only
    split
    · exact positive
    · rename_i atWar
      exact rest (not_not.mp atWar)
  unfold expireTerm
  split
  · exact passed
  · split
    · exact passed
    · exact passed

section

variable {entries : DiplomacyEntries} {generalCounts : Int → Option Int} {key : DiplomacyKey}

variable {later : TurnDiplomacy}

theorem exists_before_month (found : relationAt (processDiplomacyMonth entries generalCounts) key = some later) :
    ∃ entry after, relationAt entries key = some entry ∧
      afterWars (changeRelations entries (prolongWar generalCounts)) key = some after ∧
      later = expireTerm (passMonth after) ∧
      (after = prolongWar generalCounts key entry ∨ ∃ opposite, relationAt entries key.swap = some opposite ∧
        entry.state = warState ∧ opposite.state = warState ∧
        after = settled (max (prolongWar generalCounts key entry).term
          (prolongWar generalCounts key.swap opposite).term) (prolongWar generalCounts key entry)) := by
  -- The month is undone from its end: passing, settling and drawing out.
  rw [relationAt_processDiplomacyMonth] at found
  obtain ⟨after, there, rfl⟩ := Option.map_eq_some_iff.mp found
  obtain ⟨prolonged, before, rest⟩ := exists_of_afterWars there
  rw [relationAt_changeRelations] at before
  obtain ⟨entry, original, rfl⟩ := Option.map_eq_some_iff.mp before
  refine ⟨entry, after, original, there, rfl, ?_⟩
  rcases rest with same | ⟨drawn, back, atWar, backAtWar, same⟩
  · exact .inl same
  · rw [relationAt_changeRelations] at back
    obtain ⟨opposite, originalBack, rfl⟩ := Option.map_eq_some_iff.mp back
    rw [prolongWar_state] at atWar backAtWar
    exact .inr ⟨opposite, originalBack, atWar, backAtWar, same⟩

theorem processDiplomacyMonth_agree {entry opposite laterBack : TurnDiplomacy}
    (found : relationAt entries key = some entry) (foundBack : relationAt entries key.swap = some opposite)
    (agree : entry.state = opposite.state ∧ entry.term = opposite.term)
    (after : relationAt (processDiplomacyMonth entries generalCounts) key = some later)
    (afterBack : relationAt (processDiplomacyMonth entries generalCounts) key.swap = some laterBack) :
    later.state = laterBack.state ∧ later.term = laterBack.term := by
  have drawn : relationAt (changeRelations entries (prolongWar generalCounts)) key =
      some (prolongWar generalCounts key entry) := by
    rw [relationAt_changeRelations, found, Option.map_some]
  have drawnBack : relationAt (changeRelations entries (prolongWar generalCounts)) key.swap =
      some (prolongWar generalCounts key.swap opposite) := by
    rw [relationAt_changeRelations, foundBack, Option.map_some]
  rw [relationAt_processDiplomacyMonth, afterWars_of_both drawn drawnBack, Option.map_some] at after
  rw [relationAt_processDiplomacyMonth, afterWars_of_both drawnBack (by rwa [Prod.swap_swap]),
    Option.map_some] at afterBack
  rw [← Option.some.inj after, ← Option.some.inj afterBack]
  simp only [prolongWar_state, ← agree.1, and_self]
  by_cases atWar : entry.state = warState
  · -- The longer of the two terms holds for both, and so does the end of the war.
    rw [if_pos atWar, if_pos atWar, max_comm (prolongWar generalCounts key.swap opposite).term]
    refine passMonth_congr ?_ ?_
    · unfold settled
      split
      · rfl
      · show (prolongWar generalCounts key entry).state = (prolongWar generalCounts key.swap opposite).state
        rw [prolongWar_state, prolongWar_state, agree.1]
    · unfold settled
      split <;> rfl
  · rw [if_neg atWar, if_neg atWar, prolongWar_calm _ _ atWar, prolongWar_calm _ _ (agree.1 ▸ atWar)]
    exact passMonth_congr agree.1 agree.2

theorem processDiplomacyMonth_term_le
    (bounded : ∀ key entry, relationAt entries key = some entry → entry.state = warState → entry.term ≤ maxWarTerm)
    (found : relationAt (processDiplomacyMonth entries generalCounts) key = some later)
    (atWar : later.state = warState) : later.term ≤ maxWarTerm := by
  -- A settled war has the longer of two terms, both of which are bounded.
  obtain ⟨entry, after, original, _, rfl, rest⟩ := exists_before_month found
  refine passMonth_term_le (fun fought => ?_) atWar
  rcases rest with rfl | ⟨opposite, back, there, backThere, rfl⟩
  · rw [prolongWar_state] at fought
    exact prolongWar_term_le _ _ (bounded key entry original fought)
  · have term := prolongWar_term_le generalCounts key (bounded key entry original there)
    have termBack := prolongWar_term_le generalCounts key.swap (bounded key.swap opposite back backThere)
    unfold settled
    split
    · show (0 : Int) ≤ maxWarTerm
      decide
    · exact max_le term termBack

theorem processDiplomacyMonth_dead_lt
    (found : relationAt (processDiplomacyMonth entries generalCounts) key = some later) :
    later.dead < termCost generalCounts key.1 := by
  -- What is left after drawing out is less than another month costs.
  have positive : 0 < termCost generalCounts key.1 := by
    have one : (1 : ℚ) ≤ (max 1 ((generalCounts key.1).getD 1) : Int) := by exact_mod_cast le_max_left _ _
    unfold termCost
    linarith
  obtain ⟨entry, after, original, _, rfl, rest⟩ := exists_before_month found
  refine passMonth_dead_lt positive fun fought => ?_
  rcases rest with rfl | ⟨opposite, _, there, _, rfl⟩
  · rw [prolongWar_state] at fought
    exact prolongWar_dead_lt generalCounts key fought
  · have rest := prolongWar_dead_lt generalCounts key there
    unfold settled
    split <;> exact rest

end

/-! ### Any number of months -/

/-- The relations between nations, one for each direction of a pair. -/
structure DiplomacyMatrix where
  entries : DiplomacyEntries
  distinct : (entries.map Prod.fst).Nodup

theorem mem_iff_relationAt {entries : DiplomacyEntries} (distinct : (entries.map Prod.fst).Nodup)
    {key : DiplomacyKey} : (key, entry) ∈ entries ↔ relationAt entries key = some entry := by
  -- The first entry under a key is the only one.
  induction entries with
  | nil => simp [relationAt]
  | cons first rest ih =>
    obtain ⟨fresh, distinctRest⟩ := List.nodup_cons.mp distinct
    rw [relationAt_cons, List.mem_cons]
    by_cases here : first.1 = key
    · rw [if_pos here, Option.some.injEq]
      constructor
      · rintro (rfl | later)
        · rfl
        · exact absurd (List.mem_map.mpr ⟨_, later, here.symm⟩) fresh
      · rintro rfl
        exact .inl (Prod.ext here.symm rfl)
    · rw [if_neg here, ← ih distinctRest]
      constructor
      · rintro (rfl | later)
        · exact absurd rfl here
        · exact later
      · exact .inr

/-- Both directions of every relation have the same state and the same term. -/
def DiplomacyMatrix.Symmetric (matrix : DiplomacyMatrix) : Prop :=
  ∀ key entry opposite, (key, entry) ∈ matrix.entries → (key.swap, opposite) ∈ matrix.entries →
    entry.state = opposite.state ∧ entry.term = opposite.term

/-- No war lasts longer than wars can be drawn out. -/
def DiplomacyMatrix.WarTermsBounded (matrix : DiplomacyMatrix) : Prop :=
  ∀ key entry, (key, entry) ∈ matrix.entries → entry.state = warState → entry.term ≤ maxWarTerm

/-- A month with the casualties before it, and the generals of the nations. -/
structure WarMonth where
  casualties : DiplomacyKey → ℚ
  generalCounts : Int → Option Int

/-- The relations with the casualties of a month. -/
def DiplomacyMatrix.suffer (matrix : DiplomacyMatrix) (casualties : DiplomacyKey → ℚ) : DiplomacyMatrix where
  entries := changeRelations matrix.entries fun key entry => { entry with dead := casualties key }
  distinct := by
    rw [changeRelations_keys]
    exact matrix.distinct

/-- The relations after a month. -/
def DiplomacyMatrix.pass (matrix : DiplomacyMatrix) (month : WarMonth) : DiplomacyMatrix where
  entries := processDiplomacyMonth (matrix.suffer month.casualties).entries month.generalCounts
  distinct := by
    rw [processDiplomacyMonth_keys]
    exact (matrix.suffer month.casualties).distinct

variable {matrix : DiplomacyMatrix}

theorem DiplomacyMatrix.exists_of_suffer {casualties : DiplomacyKey → ℚ} {key : DiplomacyKey}
    (found : relationAt (matrix.suffer casualties).entries key = some entry) :
    ∃ before, (key, before) ∈ matrix.entries ∧ before.state = entry.state ∧ before.term = entry.term := by
  rw [suffer, relationAt_changeRelations] at found
  obtain ⟨before, original, rfl⟩ := Option.map_eq_some_iff.mp found
  exact ⟨before, (mem_iff_relationAt matrix.distinct).mpr original, rfl, rfl⟩

theorem DiplomacyMatrix.Symmetric.pass (symmetric : matrix.Symmetric) (month : WarMonth) :
    (matrix.pass month).Symmetric := by
  -- Both directions are traced back to the relations before the month and its casualties.
  intro key later laterBack listed listedBack
  have found := (mem_iff_relationAt (matrix.pass month).distinct).mp listed
  have foundBack := (mem_iff_relationAt (matrix.pass month).distinct).mp listedBack
  obtain ⟨entry, _, before, _⟩ := exists_before_month found
  obtain ⟨opposite, _, beforeBack, _⟩ := exists_before_month foundBack
  refine processDiplomacyMonth_agree before beforeBack ?_ found foundBack
  obtain ⟨first, firstListed, state, term⟩ := exists_of_suffer before
  obtain ⟨second, secondListed, stateBack, termBack⟩ := exists_of_suffer beforeBack
  rw [← state, ← term, ← stateBack, ← termBack]
  exact symmetric key first second firstListed secondListed

theorem DiplomacyMatrix.WarTermsBounded.pass (bounded : matrix.WarTermsBounded) (month : WarMonth) :
    (matrix.pass month).WarTermsBounded := by
  intro key later listed atWar
  refine processDiplomacyMonth_term_le ?_ ((mem_iff_relationAt (matrix.pass month).distinct).mp listed) atWar
  intro other entry found fought
  obtain ⟨before, original, state, term⟩ := exists_of_suffer found
  rw [← term]
  exact bounded other before original (state.trans fought)

/-- Over any months wars start, are drawn out and end on both sides together. -/
theorem diplomacy_stays_symmetric {matrix : DiplomacyMatrix} (symmetric : matrix.Symmetric)
    (bounded : matrix.WarTermsBounded) (months : List WarMonth) :
    (months.foldl DiplomacyMatrix.pass matrix).Symmetric ∧
      (months.foldl DiplomacyMatrix.pass matrix).WarTermsBounded ∧
      ∀ month key entry, (key, entry) ∈ ((months.foldl DiplomacyMatrix.pass matrix).pass month).entries →
        entry.dead < termCost month.generalCounts key.1 := by
  -- Both are kept by each month, and what a month leaves of the casualties does not depend on those before it.
  have kept : (months.foldl DiplomacyMatrix.pass matrix).Symmetric ∧
      (months.foldl DiplomacyMatrix.pass matrix).WarTermsBounded := by
    induction months generalizing matrix with
    | nil => exact ⟨symmetric, bounded⟩
    | cons month rest ih => exact ih (symmetric.pass month) (bounded.pass month)
  refine ⟨kept.1, kept.2, fun month key entry listed => ?_⟩
  exact processDiplomacyMonth_dead_lt
    ((mem_iff_relationAt ((months.foldl DiplomacyMatrix.pass matrix).pass month).distinct).mp listed)

/-- Two nations at war, of which one suffers enough for two more months. -/
theorem diplomacy_stays_symmetric_drawn_out :
    (DiplomacyMatrix.pass ⟨[((1, 2), ⟨0, 3, 0, []⟩), ((2, 1), ⟨0, 3, 0, []⟩)], by decide⟩
      ⟨fun key => if key.1 = 1 then 450 else 0, fun _ => some 2⟩).Symmetric := by
  -- Both relations have the same state and term at first.
  have same : ∀ entry ∈ [((1, 2), (⟨0, 3, 0, []⟩ : TurnDiplomacy)), (((2, 1) : DiplomacyKey), ⟨0, 3, 0, []⟩)],
      entry.2.state = 0 ∧ entry.2.term = 3 := by
    simp
  refine (diplomacy_stays_symmetric (fun key entry opposite listed back => ?_) (fun key entry listed _ => ?_)
    [⟨fun key => if key.1 = 1 then 450 else 0, fun _ => some 2⟩]).1
  · exact ⟨(same _ listed).1.trans (same _ back).1.symm, (same _ listed).2.trans (same _ back).2.symm⟩
  · rw [(same _ listed).2]
    decide

end Sammo
