import Mathlib
import Sammo.Selection.WorldRow

/-! Choices from a source of draws: shuffling, picking one of several items, and picking by weight. -/

namespace Sammo

/-- A source of draws, with the greatest integer it can draw. -/
structure RNG (σ : Type) where
  maxInt : Nat
  nextInt : Nat → σ → Nat × σ
  nextFloat1 : σ → ℚ × σ
  nextInt_le : ∀ max state, (nextInt max state).1 ≤ max
  nextFloat1_mem : ∀ state, 0 ≤ (nextFloat1 state).1 ∧ (nextFloat1 state).1 < 1

/-- The source that draws the integers of a list, as far as they are in range, and always the same fraction. -/
def RNG.scripted (maxInt : Nat) (fraction : ℚ) (mem : 0 ≤ fraction ∧ fraction < 1) : RNG (List Nat) where
  maxInt
  nextInt max draws := (min (draws.headD 0) max, draws.tail)
  nextFloat1 draws := (fraction, draws)
  nextInt_le _ _ := Nat.min_le_right _ _
  nextFloat1_mem _ := mem

namespace RandUtil

variable {σ α : Type} (rng : RNG σ)

/-- Exchanges two places of a list. -/
def swap (result : List α) (srcIdx destIdx : Nat) : List α :=
  match result[srcIdx]?, result[destIdx]? with
  | some srcValue, some destValue => (result.set srcIdx destValue).set destIdx srcValue
  | _, _ => result

/-- Exchanges each of the last so many places with a drawn one behind it or itself. -/
def shuffleFrom (cnt : Nat) : Nat → List α → σ → List α × σ
  | 0, result, state => (result, state)
  | left + 1, result, state =>
    let srcIdx := cnt - (left + 1)
    let drawn := rng.nextInt (cnt - srcIdx - 1) state
    let destIdx := drawn.1 + srcIdx
    shuffleFrom cnt left (if srcIdx = destIdx then result else swap result srcIdx destIdx) drawn.2

/-- Shuffles a list. -/
def shuffle (srcArray : List α) (state : σ) : Except String (List α × σ) :=
  if srcArray.length = 0 then .ok ([], state)
  else if rng.maxInt < srcArray.length then .error "Invalid random int range"
  else .ok (shuffleFrom rng srcArray.length srcArray.length srcArray state)

/-- Picks an item of a list. -/
def choice : List α → σ → Except String (α × σ)
  | [], _ => .error "Empty items"
  | first :: rest, state =>
    let drawn := rng.nextInt rest.length state
    .ok ((first :: rest).get ⟨drawn.1, Nat.lt_succ_of_le (rng.nextInt_le rest.length state)⟩, drawn.2)

/-- Picks a member of a set. -/
def choiceSet (items : OrderedSet α) (state : σ) : Except String (α × σ) := choice rng items.items state

/-- Picks a value of a record by its key. -/
def choiceRecord (items : OrderedMap String α) (state : σ) : Except String (α × σ) :=
  (choice rng items.entries state).map fun chosen => (chosen.1.2, chosen.2)

/-- Picks one of some items with weights. -/
def choiceUsingWeightPair (items : List (α × ℚ)) (state : σ) : Except String (α × σ) :=
  let drawn := rng.nextFloat1 state
  (Sammo.choiceUsingWeight items drawn.1).map fun item => (item, drawn.2)

/-- Picks a key of a record of weights. -/
def choiceUsingWeight (items : OrderedMap String ℚ) (state : σ) : Except String (String × σ) :=
  choiceUsingWeightPair rng items.entries state

/-- The draws that a shuffle of a list of some length makes. -/
def drawn : Nat → σ → List Nat × σ
  | 0, state => ([], state)
  | left + 1, state =>
    let first := rng.nextInt left state
    let later := drawn left first.2
    (first.1 :: later.1, later.2)

/-- The draws of a shuffle are in range: the first below the length, each later one below what is left. -/
def ValidDraws : Nat → List Nat → Prop
  | 0, draws => draws = []
  | _ + 1, [] => False
  | left + 1, draw :: draws => draw ≤ left ∧ ValidDraws left draws

/-- What a shuffle makes of a list and its draws. -/
def arrange : List α → List Nat → List α
  | [], _ => []
  | items, [] => items
  | first :: rest, 0 :: draws => first :: arrange rest draws
  | first :: rest, (draw + 1) :: draws => rest.getD draw first :: arrange (rest.set draw first) draws

end RandUtil

/-- An item has a positive weight. -/
def WeighsPositive {α : Type} (items : List (α × ℚ)) (item : α) : Prop := ∃ weight, (item, weight) ∈ items ∧ 0 < weight

end Sammo
