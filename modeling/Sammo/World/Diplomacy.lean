import Mathlib.Data.Rat.Floor
import Sammo.Data.Json

/-! Relations between nations: their defaults, patches and monthly course. -/

namespace Sammo

/-- The codes of the four relations. -/
def warState : Int := 0

/-- War has been declared. -/
def declarationState : Int := 1

/-- The neutral relation. -/
def tradeState : Int := 2

/-- A treaty of non-aggression. -/
def nonAggressionState : Int := 7

/-- Months a war lasts when it breaks out. -/
def defaultWarTerm : Int := 6

/-- Months a war can be drawn out to. -/
def maxWarTerm : Int := 13

/-- A relation is filed under the nation it is of and the nation it is to. -/
abbrev DiplomacyKey := Int × Int

/-- One nation's relation to another. -/
structure TurnDiplomacy where
  state : Int
  term : Int
  dead : ℚ
  metadata : Record

/-- A partial relation; casualties are given or added. -/
structure DiplomacyPatch where
  state : Option Int := none
  term : Option Int := none
  dead : Option ℚ := none
  deadDelta : Option ℚ := none
  metadata : Option Record := none

/-- The relation of two nations that have not dealt with each other. -/
def buildDefaultDiplomacy : TurnDiplomacy := ⟨tradeState, 0, 0, []⟩

/-- Applies a patch to a relation; casualties are never negative. -/
def applyDiplomacyPatchToEntry (entry : TurnDiplomacy) (patch : DiplomacyPatch) : TurnDiplomacy :=
  let nextDead := (patch.dead.or (patch.deadDelta.map (entry.dead + ·))).getD entry.dead
  { state := patch.state.getD entry.state
    term := patch.term.getD entry.term
    dead := max 0 (min nextDead 9007199254740991)
    metadata := (patch.metadata.map entry.metadata.merge).getD entry.metadata }

/-- Relations with their keys, in order. -/
abbrev DiplomacyEntries := List (DiplomacyKey × TurnDiplomacy)

/-- The relation under a key. -/
def relationAt (entries : DiplomacyEntries) (key : DiplomacyKey) : Option TurnDiplomacy :=
  (entries.find? fun entry => entry.1 = key).map Prod.snd

/-- Changes the relation under a key. -/
def changeRelation (entries : DiplomacyEntries) (key : DiplomacyKey)
    (change : TurnDiplomacy → TurnDiplomacy) : DiplomacyEntries :=
  entries.map fun entry => if entry.1 = key then (entry.1, change entry.2) else entry

/-- Changes every relation, each by its own key. -/
def changeRelations (entries : DiplomacyEntries) (change : DiplomacyKey → TurnDiplomacy → TurnDiplomacy) :
    DiplomacyEntries :=
  entries.map fun entry => (entry.1, change entry.1 entry.2)

/-- Casualties draw a war out: every hundred per general of the nation adds a month. -/
def prolongWar (generalCounts : Int → Option Int) (key : DiplomacyKey) (entry : TurnDiplomacy) :
    TurnDiplomacy :=
  if entry.state ≠ warState ∨ entry.dead ≤ 0 then entry
  else
    let genCount : Int := max 1 ((generalCounts key.1).getD 1)
    let termIncrease : Int := ⌊entry.dead / 100 / genCount⌋
    if termIncrease ≤ 0 then entry
    else
      { entry with
        dead := entry.dead - termIncrease * 100 * genCount
        term := max 0 (min (entry.term + termIncrease) maxWarTerm) }

/-- Settles one pair of nations at war: the longer term holds for both, and a war about to end ends. -/
def settleWar (progress : DiplomacyEntries × List DiplomacyKey) (key : DiplomacyKey) :
    DiplomacyEntries × List DiplomacyKey :=
  let (entries, processedPairs) := progress
  let pairKey : DiplomacyKey := (min key.1 key.2, max key.1 key.2)
  match relationAt entries key, relationAt entries (key.2, key.1) with
  | some entry, some opposite =>
    if entry.state ≠ warState ∨ pairKey ∈ processedPairs ∨ opposite.state ≠ warState then progress
    else
      let sharedTerm := max entry.term opposite.term
      let settle (relation : TurnDiplomacy) : TurnDiplomacy :=
        if sharedTerm ≤ 1 then { relation with state := tradeState, term := 0 }
        else { relation with term := sharedTerm }
      (changeRelation (changeRelation entries key settle) (key.2, key.1) settle, pairKey :: processedPairs)
  | _, _ => progress

/-- A month passes for one relation. -/
def passMonth (entry : TurnDiplomacy) : TurnDiplomacy :=
  { entry with
    dead := if entry.state ≠ warState then 0 else entry.dead
    term := max 0 (entry.term - 1) }

/-- A treaty that has run out ends, and a declaration that has run out becomes war. -/
def expireTerm (entry : TurnDiplomacy) : TurnDiplomacy :=
  if entry.state = nonAggressionState ∧ entry.term = 0 then { entry with state := tradeState }
  else if entry.state = declarationState ∧ entry.term = 0 then
    { entry with state := warState, term := defaultWarTerm }
  else entry

/-- The relations one month later. -/
def processDiplomacyMonth (entries : DiplomacyEntries) (generalCounts : Int → Option Int) :
    DiplomacyEntries :=
  let prolonged := changeRelations entries (prolongWar generalCounts)
  -- The pairs are met in the order of their first relation.
  let settled := ((prolonged.map Prod.fst).foldl settleWar (prolonged, [])).1
  let passed := changeRelations settled fun _ => passMonth
  changeRelations passed fun _ => expireTerm

theorem relationAt_cons (entry : DiplomacyKey × TurnDiplomacy) (rest : DiplomacyEntries) (key : DiplomacyKey) :
    relationAt (entry :: rest) key = if entry.1 = key then some entry.2 else relationAt rest key := by
  rw [relationAt, List.find?_cons]
  by_cases same : entry.1 = key
  · rw [if_pos same, decide_eq_true same]
    rfl
  · rw [if_neg same, decide_eq_false same]
    rfl

theorem relationAt_changeRelations (entries : DiplomacyEntries)
    (change : DiplomacyKey → TurnDiplomacy → TurnDiplomacy) (key : DiplomacyKey) :
    relationAt (changeRelations entries change) key = (relationAt entries key).map (change key) := by
  induction entries with
  | nil => rfl
  | cons entry rest ih =>
    have later : changeRelations (entry :: rest) change =
      (entry.1, change entry.1 entry.2) :: changeRelations rest change := rfl
    rw [later, relationAt_cons, relationAt_cons, ih]
    by_cases same : entry.1 = key
    · rw [if_pos same, if_pos same, same]
      rfl
    · rw [if_neg same, if_neg same]

theorem relationAt_changeRelation_of_ne (entries : DiplomacyEntries) {key other : DiplomacyKey} (apart : key ≠ other)
    (change : TurnDiplomacy → TurnDiplomacy) :
    relationAt (changeRelation entries key change) other = relationAt entries other := by
  induction entries with
  | nil => rfl
  | cons entry rest ih =>
    have later : changeRelation (entry :: rest) key change =
      (if entry.1 = key then (entry.1, change entry.2) else entry) :: changeRelation rest key change := rfl
    rw [later, relationAt_cons, relationAt_cons, ih]
    split
    · rename_i same
      rw [if_neg (same ▸ apart), if_neg (same ▸ apart)]
    · rfl

theorem relationAt_eq_none {entries : DiplomacyEntries} {key : DiplomacyKey} (unlisted : key ∉ entries.map Prod.fst) :
    relationAt entries key = none := by
  rw [relationAt, Option.map_eq_none_iff, List.find?_eq_none]
  intro entry listed same
  exact unlisted (List.mem_map.mpr ⟨entry, listed, of_decide_eq_true same⟩)

theorem changeRelations_keys (entries : DiplomacyEntries)
    (change : DiplomacyKey → TurnDiplomacy → TurnDiplomacy) :
    (changeRelations entries change).map Prod.fst = entries.map Prod.fst := by
  simp [changeRelations, Function.comp_def]

theorem changeRelation_keys (entries : DiplomacyEntries) (key : DiplomacyKey)
    (change : TurnDiplomacy → TurnDiplomacy) :
    (changeRelation entries key change).map Prod.fst = entries.map Prod.fst := by
  rw [changeRelation, List.map_map]
  refine List.map_congr_left fun entry _ => ?_
  simp only [Function.comp_apply]
  split <;> rfl

theorem settleWar_keys (progress : DiplomacyEntries × List DiplomacyKey) (key : DiplomacyKey) :
    (settleWar progress key).1.map Prod.fst = progress.1.map Prod.fst := by
  simp only [settleWar]
  split
  · split
    · rfl
    · rw [changeRelation_keys, changeRelation_keys]
  · rfl

theorem processDiplomacyMonth_keys (entries : DiplomacyEntries) (generalCounts : Int → Option Int) :
    (processDiplomacyMonth entries generalCounts).map Prod.fst = entries.map Prod.fst := by
  -- Settling all pairs keeps the keys, one pair after another.
  have settled (keys : List DiplomacyKey) (progress : DiplomacyEntries × List DiplomacyKey) :
      (keys.foldl settleWar progress).1.map Prod.fst = progress.1.map Prod.fst := by
    induction keys generalizing progress with
    | nil => rfl
    | cons key rest ih => rw [List.foldl_cons, ih, settleWar_keys]
  rw [processDiplomacyMonth, changeRelations_keys, changeRelations_keys, settled, changeRelations_keys]

end Sammo
