import Mathlib.Algebra.Order.Field.Rat
import Sammo.Data.Json
import Sammo.Lib.NumberRecord
import Sammo.Lib.StateMachine

/-! The nations that fight over a city, the damage each has done to it, and the order in which they would get it. -/

namespace Sammo.War.CityConflict

/-- The damage that nations have done to a city. -/
abbrev Conflict := NumberRecord ℚ

/--
What the row of a city keeps of the fights over it.

The conflict is missing where its value is no object, or a text that is not one.
-/
structure ContestedCity where
  conflict : Option (NumberRecord Json)
  conflict_order : Option Json

/-- Reads the conflict of a row, unless there is none. -/
def parseConflict (raw : Option (NumberRecord Json)) : Option Conflict :=
  raw.bind fun fields =>
    -- Values that are not numbers are skipped.
    let result := fields.filterMap Json.number?
    if result.entries.isEmpty then none else some result

/-- Reads a nation's number in the stored order. -/
def orderedNation? : Json → Option Nat
  | .num value => if value.den = 1 ∧ 0 < value then some value.num.toNat else none
  | _ => none

/-- Reads the stored order of the nations, as far as it is one. -/
def readConflictOrder : Option Json → List Nat
  | some (.arr items) => items.filterMap orderedNation?
  | _ => []

/-- The places of the nations in an order. -/
def orderIndex (preferredOrder : List Nat) : OrderedMap Nat Nat :=
  preferredOrder.zipIdx.foldl (fun index entry => index.set entry.1 entry.2) OrderedMap.empty

/-- The place of an entry: that of its nation, or behind all of them in the order of the entries. -/
def place (preferredOrder : List Nat) (entry : (Nat × ℚ) × Nat) : Nat :=
  ((orderIndex preferredOrder).get? entry.1.1).getD (preferredOrder.length + entry.2)

/-- More damage comes first, and then the earlier place. -/
def ComesFirst (preferredOrder : List Nat) (lhs rhs : (Nat × ℚ) × Nat) : Prop :=
  rhs.1.2 < lhs.1.2 ∨ (rhs.1.2 = lhs.1.2 ∧ place preferredOrder lhs ≤ place preferredOrder rhs)

instance (preferredOrder : List Nat) : DecidableRel (ComesFirst preferredOrder) :=
  fun _ _ => inferInstanceAs (Decidable (_ ∨ (_ ∧ _)))

/-- The entries of a conflict in the order in which the nations would get the city. -/
def sortConflictEntries (conflict : Conflict) (preferredOrder : List Nat) : List (Nat × ℚ) :=
  (conflict.entries.zipIdx.insertionSort (ComesFirst preferredOrder)).map Prod.fst

/-- The conflict with its entries written in that order, which its keys do not keep. -/
def sortConflict (conflict : Conflict) (preferredOrder : List Nat) : Conflict :=
  (sortConflictEntries conflict preferredOrder).foldl (fun ordered entry => ordered.set entry.1 entry.2)
    NumberRecord.empty

/-- The stored order without nations that have left the conflict, and with those it lacks at its end. -/
def conflictOrder (conflict : Conflict) (stored : List Nat) : List Nat :=
  conflict.keys.foldl (fun order id => if id ∈ order then order else order ++ [id])
    (stored.filter fun id => conflict.has id)

/-- Writes down the damage of a fight for the nation that fought it, and tells whether that nation is a new one. -/
def addConflict (city : ContestedCity) (oppose : Option Nat) (dead hp : ℚ) : ContestedCity × Bool :=
  match oppose with
  | none => (city, false)
  | some nationId =>
    let conflict := (parseConflict city.conflict).getD NumberRecord.empty
    let order := conflictOrder conflict (readConflictOrder city.conflict_order)
    let damage := if conflict.entries.isEmpty ∨ hp = 0 then max 1 dead * (105 / 100) else max 1 dead
    let (conflict, order, isNew) :=
      -- The first nation is no new one, and its place is found when the entries are sorted.
      if conflict.entries.isEmpty then (conflict.set nationId damage, order, false)
      else
        match conflict.get? nationId with
        | some before => (conflict.set nationId (before + damage), order, false)
        | none => (conflict.set nationId damage, order ++ [nationId], true)
    ({ conflict := some ((sortConflict conflict order).filterMap fun value => some (.num value))
       conflict_order := some (.arr ((sortConflictEntries conflict order).map fun entry => .num entry.1)) }, isNew)

/-- The nation that gets a conquered city: the first of those that are still there, or else the attacker. -/
def resolveConquerNation (city : ContestedCity) (attackerNationId : Nat) (nations : List Nat) : Nat :=
  match parseConflict city.conflict with
  | none => attackerNationId
  | some conflict =>
    match (sortConflictEntries conflict (readConflictOrder city.conflict_order)).filter fun entry =>
        entry.1 = attackerNationId ∨ entry.1 ∈ nations with
    | [] => attackerNationId
    | entry :: _ => entry.1

/-- Takes a fallen nation out of the conflict; the last one to leave leaves no object behind. -/
def deleteConflict (nationId : Nat) (city : ContestedCity) : ContestedCity :=
  match city.conflict with
  | none => city
  | some fields =>
    if fields.has nationId then
      let rest := fields.erase nationId
      { city with conflict := if rest.entries.isEmpty then none else some rest }
    else city

/-! ### A city through the fights over it -/

/-- A city that is fought over, and the nations there are. -/
structure Dispute where
  city : ContestedCity
  nations : List Nat

/-- What happens around a city. -/
inductive DisputeEvent where
  /-- A nation's attack ends. -/
  | battle (nationId : Nat) (dead hp : ℚ)
  /-- The city falls to a nation's attack. -/
  | conquer (nationId : Nat)
  /-- The conflict is over, because nobody has gone on with it or because the city has been given up. -/
  | expire
  /-- A nation falls. -/
  | collapse (nationId : Nat)
  /-- A nation is founded. -/
  | found (nationId : Nat)

/-- The fights over a city; a conquest tells who gets it. -/
def dispute : StateMachine Dispute DisputeEvent (Option Nat) where
  step state
    | .battle nationId dead hp =>
      if nationId ∈ state.nations then
        some ({ state with city := (addConflict state.city (some nationId) dead hp).1 }, none)
      else none
    | .conquer nationId =>
      some ({ state with city := { conflict := some NumberRecord.empty, conflict_order := some (.arr []) } },
        some (resolveConquerNation state.city nationId state.nations))
    | .expire => some ({ state with city := { state.city with conflict := some NumberRecord.empty } }, none)
    | .collapse nationId =>
      if nationId ∈ state.nations then
        some ({ city := deleteConflict nationId state.city, nations := state.nations.filter (· ≠ nationId) }, none)
      else none
    | .found nationId =>
      -- Zero stands for no nation.
      if 0 < nationId ∧ nationId ∉ state.nations then some ({ state with nations := state.nations ++ [nationId] }, none)
      else none

end Sammo.War.CityConflict
