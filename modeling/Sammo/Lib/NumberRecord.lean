import Mathlib.Data.List.Sort
import Sammo.Lib.OrderedMap

/-! Records with whole numbers as keys, which list them in ascending order whatever order they came in. -/

/-- A map from whole numbers that lists its keys in ascending order. -/
structure NumberRecord (ν : Type*) extends OrderedMap Nat ν where
  ascending : (entries.map Prod.fst).Pairwise (· < ·)

namespace NumberRecord

variable {ν μ : Type*}

/-- The record without keys. -/
def empty : NumberRecord ν := ⟨OrderedMap.empty, List.Pairwise.nil⟩

/-- The order of the entries. -/
def keyLe (first second : Nat × ν) : Prop := first.1 ≤ second.1

instance : DecidableRel (keyLe : Nat × ν → Nat × ν → Prop) := fun first second => inferInstanceAs (Decidable (first.1 ≤ second.1))

instance : Std.Total (keyLe : Nat × ν → Nat × ν → Prop) := ⟨fun first second => Nat.le_total first.1 second.1⟩

instance : IsTrans (Nat × ν) keyLe := ⟨fun _ _ _ below above => Nat.le_trans below above⟩

/-- The record of a map, its entries in ascending order. -/
def ofMap (map : OrderedMap Nat ν) : NumberRecord ν where
  entries := map.entries.insertionSort keyLe
  nodup := ((List.perm_insertionSort keyLe map.entries).map Prod.fst).nodup_iff.mpr map.nodup
  ascending := by
    have sorted : ((map.entries.insertionSort keyLe).map Prod.fst).Pairwise (· ≤ ·) :=
      List.pairwise_map.mpr (List.pairwise_insertionSort keyLe map.entries)
    have once : ((map.entries.insertionSort keyLe).map Prod.fst).Nodup :=
      ((List.perm_insertionSort keyLe map.entries).map Prod.fst).nodup_iff.mpr map.nodup
    -- No key is there twice, so each is smaller than the next.
    exact sorted.imp₂ (fun _ _ below differs => Nat.lt_of_le_of_ne below differs) once

/-- A record reads as the map it was made of. -/
@[simp]
theorem get?_ofMap (map : OrderedMap Nat ν) (key : Nat) : (ofMap map).get? key = map.get? key := by
  refine Option.ext fun value => ?_
  rw [← OrderedMap.mem_entries, ← OrderedMap.mem_entries]
  exact List.mem_insertionSort keyLe

/-- Gives a key a value. -/
def set (record : NumberRecord ν) (key : Nat) (value : ν) : NumberRecord ν :=
  ofMap (record.toOrderedMap.set key value)

/-- Removes a key. -/
def erase (record : NumberRecord ν) (key : Nat) : NumberRecord ν where
  toOrderedMap := record.toOrderedMap.erase key
  ascending := record.ascending.sublist (List.filter_sublist.map Prod.fst)

theorem filterMap_sublist (read : ν → Option μ) (entries : List (Nat × ν)) :
    ((entries.filterMap fun entry => (read entry.2).map (entry.1, ·)).map Prod.fst).Sublist (entries.map Prod.fst) := by
  induction entries with
  | nil => exact List.Sublist.slnil
  | cons entry rest ih =>
    cases value : read entry.2 with
    | none =>
      rw [List.filterMap_cons_none (by rw [value]; rfl)]
      exact ih.cons _
    | some value_ =>
      rw [List.filterMap_cons_some (by rw [value]; rfl)]
      exact ih.cons_cons _

/-- The entries whose values are read as something. -/
def filterMap (record : NumberRecord ν) (read : ν → Option μ) : NumberRecord μ where
  entries := record.entries.filterMap fun entry => (read entry.2).map (entry.1, ·)
  nodup := record.nodup.sublist (filterMap_sublist read record.entries)
  ascending := record.ascending.sublist (filterMap_sublist read record.entries)

/-- Setting a key decides that key and no other. -/
@[simp]
theorem get?_set (record : NumberRecord ν) (key other : Nat) (value : ν) :
    (record.set key value).get? other = if other = key then some value else record.get? other := by
  rw [set, get?_ofMap, OrderedMap.get?_set]

theorem mem_keys_set {record : NumberRecord ν} {key other : Nat} {value : ν} :
    other ∈ (record.set key value).keys ↔ other = key ∨ other ∈ record.keys := by
  rw [OrderedMap.mem_keys, OrderedMap.mem_keys, OrderedMap.has, OrderedMap.has, get?_set]
  by_cases here : other = key <;> simp [here]

/-- Removing a key empties that key and no other. -/
@[simp]
theorem get?_erase (record : NumberRecord ν) (key other : Nat) :
    (record.erase key).get? other = if other = key then none else record.get? other :=
  OrderedMap.get?_erase record.toOrderedMap key other

/-- Reading the values reads each. -/
@[simp]
theorem get?_filterMap (record : NumberRecord ν) (read : ν → Option μ) (key : Nat) :
    (record.filterMap read).get? key = (record.get? key).bind read := by
  refine Option.ext fun value => ?_
  rw [← OrderedMap.mem_entries, Option.bind_eq_some_iff]
  simp only [filterMap, List.mem_filterMap, Option.map_eq_some_iff, Prod.mk.injEq]
  constructor
  · rintro ⟨entry, member, _, got, rfl, rfl⟩
    exact ⟨entry.2, OrderedMap.mem_entries.mp member, got⟩
  · rintro ⟨stored, got, value_⟩
    exact ⟨(key, stored), OrderedMap.mem_entries.mpr got, value, value_, rfl, rfl⟩

theorem entries_eq_nil {record : NumberRecord ν} : record.entries = [] ↔ ∀ key, record.get? key = none := by
  constructor
  · intro nothing key
    rw [Option.eq_none_iff_forall_ne_some]
    intro value got
    have member := OrderedMap.mem_entries.mpr got
    rw [nothing] at member
    cases member
  · intro nothing
    rw [List.eq_nil_iff_forall_not_mem]
    rintro ⟨key, value⟩ member
    have got := OrderedMap.mem_entries.mp member
    rw [nothing] at got
    cases got

theorem ext_get? {first second : NumberRecord ν} (same : ∀ key, first.get? key = second.get? key) : first = second := by
  have entries_ : first.entries = second.entries := by
    have sorted (record : NumberRecord ν) : record.entries.Pairwise fun one other => one.1 < other.1 :=
      List.pairwise_map.mp record.ascending
    have strict : Std.Irrefl fun one other : Nat × ν => one.1 < other.1 := ⟨fun one => Nat.lt_irrefl one.1⟩
    have oneWay : Std.Antisymm fun one other : Nat × ν => one.1 < other.1 :=
      ⟨fun _ _ below above => absurd below (Nat.lt_asymm above)⟩
    refine (sorted first).eq_of_mem_iff (sorted second) fun entry => ?_
    rw [OrderedMap.mem_entries, OrderedMap.mem_entries, same]
  cases first with
  | mk map ascending =>
    cases map
    cases second with
    | mk other _ =>
      cases other
      cases entries_
      rfl

theorem get?_foldl_set {entries : List (Nat × ν)} (once : (entries.map Prod.fst).Nodup) (start : NumberRecord ν)
    (key : Nat) (value : ν) :
    (entries.foldl (fun record entry => record.set entry.1 entry.2) start).get? key = some value ↔
      (key, value) ∈ entries ∨ (key ∉ entries.map Prod.fst ∧ start.get? key = some value) := by
  induction entries generalizing start with
  | nil => simp
  | cons entry rest ih =>
    obtain ⟨fresh, onceLater⟩ := List.nodup_cons.mp once
    obtain ⟨id, first⟩ := entry
    rw [List.foldl_cons, ih onceLater, get?_set]
    by_cases here : key = id
    · -- No later entry overwrites this one.
      subst here
      have notLater : (key, value) ∉ rest := fun later => fresh (List.mem_map.mpr ⟨_, later, rfl⟩)
      simp only [List.mem_cons, Prod.mk.injEq, true_and, notLater, or_false, false_or, List.map_cons, not_or,
        not_true_eq_false, false_and]
      constructor
      · rintro ⟨_, same⟩
        simpa using same.symm
      · rintro rfl
        exact ⟨fresh, by simp⟩
    · simp [here]

end NumberRecord
