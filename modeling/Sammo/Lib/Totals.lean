import Mathlib.Algebra.BigOperators.Group.List.Basic
import Mathlib.Algebra.Group.Basic
import Sammo.Lib.OrderedMap

/-! What the values of a map weigh together, and how that changes with them. -/

namespace OrderedMap

variable {κ ν M : Type*} [AddCommMonoid M] (weight : ν → M)

/-- What the values of a map weigh together. -/
def total (map : OrderedMap κ ν) : M := (map.entries.map fun entry => weight entry.2).sum

variable [DecidableEq κ]

theorem sum_overwrite {entries : List (κ × ν)} (distinct : (entries.map Prod.fst).Nodup) {key : κ} {old : ν}
    (member : (key, old) ∈ entries) (new : ν) :
    ((entries.map fun entry => if entry.1 = key then (key, new) else entry).map fun entry => weight entry.2).sum +
        weight old =
      (entries.map fun entry => weight entry.2).sum + weight new := by
  induction entries with
  | nil => cases member
  | cons first rest ih =>
    obtain ⟨fresh, distinctRest⟩ := List.nodup_cons.mp distinct
    simp only [List.map_cons, List.sum_cons]
    rcases List.mem_cons.mp member with rfl | later
    · -- The key stands here, so nothing behind it is overwritten.
      have kept : (rest.map fun entry => if entry.1 = key then (key, new) else entry) = rest := by
        refine (List.map_congr_left fun entry listed => ?_).trans (List.map_id rest)
        exact if_neg fun same => fresh (List.mem_map.mpr ⟨entry, listed, same⟩)
      rw [kept, if_pos rfl, add_comm (weight new), add_right_comm, add_comm _ (weight old)]
    · have apart : first.1 ≠ key := fun same => fresh (List.mem_map.mpr ⟨_, later, same.symm⟩)
      rw [if_neg apart, add_assoc, ih distinctRest later, add_assoc]

theorem total_set {map : OrderedMap κ ν} {key : κ} {old : ν} (present : map.get? key = some old) (new : ν) :
    (map.set key new).total weight + weight old = map.total weight + weight new := by
  have member := mem_entries.mpr present
  have listed : key ∈ map.keys := List.mem_map_of_mem member
  unfold set
  rw [dif_pos listed]
  exact sum_overwrite weight map.nodup member new

variable {G : Type*} [AddCommGroup G] (worth : ν → G)

theorem total_set_eq {map : OrderedMap κ ν} {key : κ} {old : ν} (present : map.get? key = some old) (new : ν) :
    (map.set key new).total worth = map.total worth + (worth new - worth old) := by
  rw [← add_sub_assoc, ← total_set worth present new, add_sub_cancel_right]

end OrderedMap
