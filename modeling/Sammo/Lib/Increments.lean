import Mathlib.Algebra.BigOperators.Group.List.Basic
import Mathlib.Logic.Function.Basic
import Sammo.Lib.OrderedMap
import Sammo.Lib.StateMachine

/-! Amounts that are queued, grouped by their keys and added to a table, and what amounts come to along a run. -/

namespace Increments

variable {κ M : Type*} [DecidableEq κ] [AddCommMonoid M]

/-- The amount that a table has under a key, where an absent row counts as nothing. -/
def value (table : κ → Option M) (key : κ) : M := (table key).getD 0

/-- What some amounts come to under a key. -/
def net (entries : List (κ × M)) (key : κ) : M := ((entries.filter fun entry => entry.1 = key).map Prod.snd).sum

/-- Adds an amount to the one that is grouped under its key. -/
def regroup (map : OrderedMap κ M) (entry : κ × M) : OrderedMap κ M :=
  map.set entry.1 ((map.get? entry.1).getD 0 + entry.2)

/-- The amounts under each key, added up. -/
def grouped (entries : List (κ × M)) : OrderedMap κ M := entries.foldl regroup .empty

/-- Adds an amount to a row, which is created if it is absent. -/
def upsert (table : κ → Option M) (entry : κ × M) : κ → Option M :=
  Function.update table entry.1 (some (value table entry.1 + entry.2))

theorem net_cons (entry : κ × M) (rest : List (κ × M)) (key : κ) :
    net (entry :: rest) key = (if entry.1 = key then entry.2 else 0) + net rest key := by
  -- The first amount is among those that are added up, or it is not.
  by_cases same : entry.1 = key <;> simp [net, same]

theorem net_of_notMem {entries : List (κ × M)} {key : κ} (absent : ∀ entry ∈ entries, entry.1 ≠ key) :
    net entries key = 0 := by
  -- No amount passes the filter.
  have none_ : entries.filter (fun entry => entry.1 = key) = [] :=
    List.filter_eq_nil_iff.mpr fun entry member same => absent entry member (of_decide_eq_true same)
  rw [net, none_]
  rfl

theorem net_append (first second : List (κ × M)) (key : κ) :
    net (first ++ second) key = net first key + net second key := by
  -- The filter and the sum go through the lists one after the other.
  rw [net, List.filter_append, List.map_append, List.sum_append]
  rfl

theorem value_foldl_regroup (entries : List (κ × M)) (map : OrderedMap κ M) (key : κ) :
    value (entries.foldl regroup map).get? key = value map.get? key + net entries key := by
  -- The induction is on the amounts, with the map as it has become.
  induction entries generalizing map with
  | nil => simp [net]
  | cons entry rest ih =>
    rw [List.foldl_cons, ih, net_cons, ← add_assoc]
    refine congrArg (· + net rest key) ?_
    rw [regroup, value, value, OrderedMap.get?_set]
    by_cases same : key = entry.1
    · rw [if_pos same, if_pos same.symm, same]
      rfl
    · rw [if_neg same, if_neg (Ne.symm same), add_zero]

theorem value_grouped (entries : List (κ × M)) (key : κ) : value (grouped entries).get? key = net entries key := by
  -- Nothing is grouped at first.
  rw [grouped, value_foldl_regroup]
  exact zero_add _

theorem value_foldl_upsert (entries : List (κ × M)) (table : κ → Option M) (key : κ) :
    value (entries.foldl upsert table) key = value table key + net entries key := by
  -- The induction is on the amounts, with the table as it has become.
  induction entries generalizing table with
  | nil => simp [net]
  | cons entry rest ih =>
    rw [List.foldl_cons, ih, net_cons, ← add_assoc]
    refine congrArg (· + net rest key) ?_
    rw [upsert, value, Function.update_apply]
    by_cases same : key = entry.1
    · rw [if_pos same, if_pos same.symm, same]
      rfl
    · rw [if_neg same, if_neg (Ne.symm same), add_zero]
      rfl

theorem net_entries (map : OrderedMap κ M) (key : κ) : net map.entries key = value map.get? key := by
  -- The keys of a map are distinct, so at most one entry counts.
  have general {entries : List (κ × M)} (distinct : (entries.map Prod.fst).Nodup) :
      net entries key = ((entries.find? fun entry => entry.1 = key).map Prod.snd).getD 0 := by
    induction entries with
    | nil => rfl
    | cons entry rest ih =>
      obtain ⟨fresh, distinctRest⟩ := List.nodup_cons.mp distinct
      rw [net_cons]
      by_cases same : entry.1 = key
      · have absent : net rest key = 0 := net_of_notMem fun other member equal =>
          fresh (List.mem_map.mpr ⟨other, member, equal.trans same.symm⟩)
        rw [if_pos same, absent, add_zero, List.find?_cons_of_pos (by simpa using same)]
        rfl
      · rw [if_neg same, zero_add, ih distinctRest, List.find?_cons_of_neg (by simpa using same)]
  exact general map.nodup

theorem value_upsert_grouped (entries : List (κ × M)) (table : κ → Option M) (key : κ) :
    value ((grouped entries).entries.foldl upsert table) key = value table key + net entries key := by
  -- The groups come to what the amounts come to.
  rw [value_foldl_upsert, net_entries, value_grouped]

end Increments

namespace StateMachine

variable {σ ε ο M : Type*} [AddCommMonoid M] {machine : StateMachine σ ε ο}

theorem RunWhile.telescopes {admits : σ → ε → Prop} {start final : σ} {trace : List (ε × ο)}
    (run : machine.RunWhile admits start trace final) (measure : σ → M) (amount : ε × ο → M) {Inv : σ → Prop}
    (initial : Inv start)
    (raises : ∀ state event output next, Inv state → admits state event →
      machine.step state event = some (next, output) →
      Inv next ∧ measure next = measure state + amount (event, output)) :
    Inv final ∧ measure final = measure start + (trace.map amount).sum := by
  -- Each step adds its amount to those of the run before it.
  induction run with
  | nil => exact ⟨initial, by simp⟩
  | snoc _ admitted stepped ih =>
    obtain ⟨before, total⟩ := ih
    obtain ⟨after, raised⟩ := raises _ _ _ _ before admitted stepped
    refine ⟨after, ?_⟩
    rw [raised, total, List.map_append, List.sum_append, List.map_singleton, List.sum_singleton, add_assoc]

end StateMachine
