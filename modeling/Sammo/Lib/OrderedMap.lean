import Mathlib.Data.List.Induction
import Mathlib.Data.List.Nodup

/-! Maps and sets that keep the order in which their keys came in. -/

/-- A map from keys to values, listed in the order its keys were first set. -/
structure OrderedMap (κ ν : Type*) where
  /-- The keys with their values. -/
  entries : List (κ × ν)
  /-- No key is listed twice. -/
  nodup : (entries.map Prod.fst).Nodup

namespace OrderedMap

variable {κ ν : Type*}

/-- The map without keys. -/
def empty : OrderedMap κ ν := ⟨[], List.nodup_nil⟩

/-- The keys, in order. -/
def keys (map : OrderedMap κ ν) : List κ :=
  -- Each entry contributes its key.
  map.entries.map Prod.fst

theorem keys_map_values (change : κ → ν → ν) (entries : List (κ × ν)) :
    (entries.map fun entry => (entry.1, change entry.1 entry.2)).map Prod.fst = entries.map Prod.fst := by
  simp [Function.comp_def]

/-- Changes every value, each knowing its key. -/
def mapValues (map : OrderedMap κ ν) (change : κ → ν → ν) : OrderedMap κ ν where
  entries := map.entries.map fun entry => (entry.1, change entry.1 entry.2)
  nodup := (keys_map_values change map.entries).symm ▸ map.nodup

variable [DecidableEq κ]

/-- The value of a key. -/
def get? (map : OrderedMap κ ν) (key : κ) : Option ν :=
  -- At most one entry has the key, so the first one found is the one.
  (map.entries.find? fun entry => entry.1 = key).map Prod.snd

/-- Whether a key is present. -/
def has (map : OrderedMap κ ν) (key : κ) : Bool :=
  -- Presence is having a value.
  (map.get? key).isSome

/-- Gives a key a value; a key that is present keeps its place. -/
def set (map : OrderedMap κ ν) (key : κ) (value : ν) : OrderedMap κ ν :=
  if present : key ∈ map.keys then
    { entries := map.entries.map fun entry => if entry.1 = key then (key, value) else entry
      nodup := by
        -- Overwriting in place changes no key.
        have same : (map.entries.map fun entry => if entry.1 = key then (key, value) else entry).map Prod.fst
            = map.entries.map Prod.fst := by
          rw [List.map_map]
          refine List.map_congr_left fun entry _ => ?_
          simp only [Function.comp_apply]
          split
          · rename_i equal
            exact equal.symm
          · rfl
        rw [same]
        exact map.nodup }
  else
    { entries := map.entries ++ [(key, value)]
      nodup := by
        -- The appended key is a new one.
        rw [List.map_append, List.map_singleton, List.nodup_append]
        refine ⟨map.nodup, List.nodup_singleton key, ?_⟩
        intro first member second last equal
        rw [List.mem_singleton] at last
        rw [equal, last] at member
        exact present member }

/-- Removes a key. -/
def erase (map : OrderedMap κ ν) (key : κ) : OrderedMap κ ν where
  entries := map.entries.filter fun entry => entry.1 ≠ key
  nodup := map.nodup.sublist (List.filter_sublist.map Prod.fst)

variable {map : OrderedMap κ ν} {key : κ} {entries : List (κ × ν)}

theorem mem_entries {value : ν} : (key, value) ∈ map.entries ↔ map.get? key = some value := by
  constructor
  · intro member
    -- The search stops at some entry with this key, and there is only one.
    have found : (map.entries.find? fun entry => entry.1 = key).isSome := by
      rw [List.find?_isSome]
      exact ⟨_, member, by simp⟩
    obtain ⟨entry, located⟩ := Option.isSome_iff_exists.mp found
    have named : entry.1 = key := by simpa using List.find?_some located
    have same : entry = (key, value) :=
      List.inj_on_of_nodup_map map.nodup (List.mem_of_find?_eq_some located) member named
    simp [get?, located, same]
  · intro got
    obtain ⟨entry, located, rfl⟩ := Option.map_eq_some_iff.mp got
    have named : entry.1 = key := by simpa using List.find?_some located
    have member := List.mem_of_find?_eq_some located
    rw [← named]
    exact member

theorem mem_keys : key ∈ map.keys ↔ map.has key = true := by
  rw [has, Option.isSome_iff_exists]
  constructor
  · intro member
    obtain ⟨⟨_, value⟩, listed, rfl⟩ := List.mem_map.mp member
    exact ⟨value, mem_entries.mp listed⟩
  · rintro ⟨value, got⟩
    exact List.mem_map.mpr ⟨(key, value), mem_entries.mpr got, rfl⟩

theorem get?_eq_none : map.get? key = none ↔ map.has key = false := by
  simp [has]

/-- Setting a key decides that key and no other. -/
@[simp]
theorem get?_set (map : OrderedMap κ ν) (key other : κ) (value : ν) :
    (map.set key value).get? other = if other = key then some value else map.get? other := by
  -- A reading is decided by which entries are listed.
  have listed (result : ν) : (other, result) ∈ (map.set key value).entries ↔
      if other = key then result = value else (other, result) ∈ map.entries := by
    unfold set
    split
    · rename_i present
      simp only [List.mem_map]
      constructor
      · rintro ⟨⟨name, old⟩, member, changed⟩
        by_cases equal : name = key <;> simp_all
      · intro wanted
        by_cases equal : other = key
        · obtain ⟨⟨name, old⟩, member, rfl⟩ := List.mem_map.mp present
          exact ⟨(name, old), member, by simp_all⟩
        · exact ⟨(other, result), by simpa [equal] using wanted, by simp [equal]⟩
    · rename_i absent
      have unlisted (old : ν) : (key, old) ∉ map.entries := fun member =>
        absent (List.mem_map.mpr ⟨_, member, rfl⟩)
      by_cases equal : other = key <;> simp_all
  by_cases equal : other = key
  · rw [if_pos equal]
    exact mem_entries.mp ((listed value).mpr (by simp [equal]))
  · rw [if_neg equal]
    refine Option.ext fun result => ?_
    rw [← mem_entries, listed, if_neg equal, mem_entries]

/-- Removing a key empties that key and no other. -/
@[simp]
theorem get?_erase (map : OrderedMap κ ν) (key other : κ) :
    (map.erase key).get? other = if other = key then none else map.get? other := by
  refine Option.ext fun result => ?_
  rw [← mem_entries]
  by_cases equal : other = key
  · simp [erase, equal]
  · rw [if_neg equal, ← mem_entries]
    simp [erase, equal]

/-- The keys present after a key is set. -/
@[simp]
theorem has_set (map : OrderedMap κ ν) (key other : κ) (value : ν) :
    (map.set key value).has other = (decide (other = key) || map.has other) := by
  by_cases equal : other = key <;> simp [has, equal]

/-- The keys present after a key is removed. -/
@[simp]
theorem has_erase (map : OrderedMap κ ν) (key other : κ) :
    (map.erase key).has other = (!decide (other = key) && map.has other) := by
  by_cases equal : other = key <;> simp [has, equal]

/--
A loop over entries that changes each entry's own row, and no other.

The rows are read through a view of the loop's state, so that the map may be a part of it.
-/
theorem view_foldl {σ : Type*} (view : σ → κ → Option ν) (step : σ → κ × ν → σ) (change : κ → ν → ν)
    (inv : σ → Prop) (kept : ∀ state entry, inv state → inv (step state entry))
    (changes : ∀ state entry, inv state → view state entry.1 = some entry.2 → ∀ key,
      view (step state entry) key = if key = entry.1 then some (change entry.1 entry.2) else view state key)
    (distinct : (entries.map Prod.fst).Nodup) {state : σ} (start : inv state)
    (listed : ∀ entry ∈ entries, view state entry.1 = some entry.2) (key : κ) :
    view (entries.foldl step state) key =
      if key ∈ entries.map Prod.fst then (view state key).map (change key) else view state key := by
  -- The induction is on the entries; an entry's row is not touched before its own round.
  induction entries generalizing state with
  | nil => simp
  | cons entry rest ih =>
    rw [List.map_cons, List.nodup_cons] at distinct
    have now := changes state entry start (listed entry List.mem_cons_self)
    have later : ∀ other ∈ rest, view (step state entry) other.1 = some other.2 := by
      intro other member
      have differs : other.1 ≠ entry.1 := by
        intro same
        exact distinct.1 (same ▸ List.mem_map_of_mem member)
      rw [now other.1, if_neg differs]
      exact listed other (List.mem_cons_of_mem _ member)
    rw [List.foldl_cons, ih distinct.2 (kept state entry start) later, now key]
    by_cases same : key = entry.1
    · subst same
      rw [if_neg distinct.1, if_pos rfl, if_pos (by simp), listed entry List.mem_cons_self]
      rfl
    · rw [if_neg same, List.map_cons]
      by_cases member : key ∈ rest.map Prod.fst
      · rw [if_pos member, if_pos (List.mem_cons_of_mem _ member)]
      · rw [if_neg member, if_neg (fun listed => (List.mem_cons.mp listed).elim same member)]

/-- Changes the value of a key, if it is present. -/
def alter (map : OrderedMap κ ν) (key : κ) (change : ν → ν) : OrderedMap κ ν :=
  match map.get? key with
  | none => map
  | some value => map.set key (change value)

/-- Changing the value of a key concerns no other key. -/
@[simp]
theorem get?_alter (map : OrderedMap κ ν) (key other : κ) (change : ν → ν) :
    (map.alter key change).get? other = if other = key then (map.get? other).map change else map.get? other := by
  unfold alter
  split
  · rename_i absent
    by_cases same : other = key
    · rw [if_pos same, same, absent]
      rfl
    · rw [if_neg same]
  · rename_i value present
    rw [get?_set]
    by_cases same : other = key
    · rw [if_pos same, if_pos same, same, present]
      rfl
    · rw [if_neg same, if_neg same]

section Listing

variable {σ μ : Type*} (view : σ → κ → Option ν) (step : σ → κ × μ → σ) (change : κ × μ → ν → ν)
  (changes : ∀ state entry key, view (step state entry) key =
    if key = entry.1 then (view state key).map (change entry) else view state key)

variable {entries : List (κ × μ)}

include changes

theorem view_foldl_of_notMem {key : κ} (absent : key ∉ entries.map Prod.fst) (state : σ) :
    view (entries.foldl step state) key = view state key := by
  induction entries generalizing state with
  | nil => rfl
  | cons entry rest ih =>
    rw [List.map_cons, List.mem_cons, not_or] at absent
    rw [List.foldl_cons, ih absent.2, changes, if_neg absent.1]

theorem view_foldl_of_mem {entry : κ × μ} (distinct : (entries.map Prod.fst).Nodup) (member : entry ∈ entries)
    (state : σ) : view (entries.foldl step state) entry.1 = (view state entry.1).map (change entry) := by
  induction entries generalizing state with
  | nil => cases member
  | cons first rest ih =>
    obtain ⟨fresh, distinctRest⟩ := List.nodup_cons.mp distinct
    rw [List.foldl_cons]
    rcases List.mem_cons.mp member with rfl | later
    · rw [view_foldl_of_notMem view step change changes fresh, changes, if_pos rfl]
    · have apart : entry.1 ≠ first.1 := fun same => fresh (same ▸ List.mem_map_of_mem later)
      rw [ih distinctRest later, changes, if_neg apart]

end Listing

theorem map_of_mem_keys (map : OrderedMap κ ν) (change : ν → ν) (key : κ) :
    (if key ∈ map.entries.map Prod.fst then (map.get? key).map change else map.get? key) =
      (map.get? key).map change := by
  split
  · rfl
  · rename_i absent
    have none_there : map.get? key = none := by
      apply get?_eq_none.mpr
      rw [← Bool.not_eq_true, ← mem_keys]
      exact absent
    rw [none_there]
    rfl

/-- Every value is changed where it stands. -/
@[simp]
theorem get?_mapValues (map : OrderedMap κ ν) (change : κ → ν → ν) (key : κ) :
    (map.mapValues change).get? key = (map.get? key).map (change key) := by
  refine Option.ext fun result => ?_
  rw [← mem_entries, Option.map_eq_some_iff]
  constructor
  · intro listed
    obtain ⟨entry, member, same⟩ := List.mem_map.mp listed
    obtain ⟨rfl, rfl⟩ := Prod.mk.inj same
    exact ⟨entry.2, mem_entries.mp member, rfl⟩
  · rintro ⟨value, got, rfl⟩
    exact List.mem_map.mpr ⟨(key, value), mem_entries.mpr got, rfl⟩

/-- Keeps only some of the values. -/
def filterValues (map : OrderedMap κ ν) (keep : ν → Bool) : OrderedMap κ ν where
  entries := map.entries.filter fun entry => keep entry.2
  nodup := map.nodup.sublist (List.filter_sublist.map Prod.fst)

/-- A key keeps its value if that is one of those. -/
@[simp]
theorem get?_filterValues (map : OrderedMap κ ν) (keep : ν → Bool) (key : κ) :
    (map.filterValues keep).get? key = (map.get? key).filter keep := by
  refine Option.ext fun value => ?_
  rw [← mem_entries, Option.filter_eq_some_iff, ← mem_entries]
  exact List.mem_filter

/-- The map that a list of entries comes to, taken one after the other. -/
def ofEntries (entries : List (κ × ν)) : OrderedMap κ ν :=
  entries.foldl (fun map entry => map.set entry.1 entry.2) empty

theorem get?_ofEntries (entries : List (κ × ν)) (key : κ) :
    (ofEntries entries).get? key = (entries.reverse.find? fun entry => entry.1 = key).map Prod.snd := by
  induction entries using List.reverseRecOn with
  | nil => rfl
  | append_singleton before last ih =>
    have later : ofEntries (before ++ [last]) = (ofEntries before).set last.1 last.2 := by
      rw [ofEntries, List.foldl_append]
      rfl
    rw [later, get?_set, List.reverse_append, List.reverse_singleton, List.singleton_append, List.find?_cons]
    by_cases same : key = last.1
    · rw [if_pos same, decide_eq_true same.symm]
      rfl
    · rw [if_neg same, decide_eq_false fun equal => same equal.symm, ih]

theorem get?_ofEntries_of_nodup (distinct : (entries.map Prod.fst).Nodup) (key : κ) (value : ν) :
    (ofEntries entries).get? key = some value ↔ (key, value) ∈ entries := by
  rw [get?_ofEntries, Option.map_eq_some_iff]
  constructor
  · rintro ⟨entry, found, rfl⟩
    have member := List.mem_reverse.mp (List.mem_of_find?_eq_some found)
    have named := List.find?_some found
    rw [decide_eq_true_eq] at named
    exact named ▸ member
  · intro listed
    cases found : entries.reverse.find? fun entry => entry.1 = key with
    | none =>
      have absent := List.find?_eq_none.mp found (key, value) (List.mem_reverse.mpr listed)
      exact absurd (decide_eq_true rfl) absent
    | some entry =>
      have named := List.find?_some found
      rw [decide_eq_true_eq] at named
      have same := List.inj_on_of_nodup_map distinct (List.mem_reverse.mp (List.mem_of_find?_eq_some found)) listed named
      exact ⟨entry, rfl, congrArg Prod.snd same⟩

theorem ext_keys {other : OrderedMap κ ν} (order : map.keys = other.keys)
    (readings : ∀ key, map.get? key = other.get? key) : map = other := by
  obtain ⟨entries, distinct⟩ := map
  obtain ⟨others, apart⟩ := other
  have listed (key : κ) (value : ν) : (key, value) ∈ entries ↔ (key, value) ∈ others := by
    have here : (key, value) ∈ (OrderedMap.mk entries distinct).entries ↔ get? ⟨entries, distinct⟩ key = some value := mem_entries
    have there : (key, value) ∈ (OrderedMap.mk others apart).entries ↔ get? ⟨others, apart⟩ key = some value := mem_entries
    rw [readings key] at here
    exact here.trans there.symm
  -- A place holds the same key in both, and a key has one value.
  have same : entries = others := by
    have lengths : entries.length = others.length := by simpa [keys] using congrArg List.length order
    refine List.ext_getElem lengths fun place below inside => ?_
    have key : entries[place].1 = others[place].1 := by
      have places := congrArg (fun keys => keys[place]?) order
      simpa [keys, below, inside] using places
    have member := (listed _ _).mp (List.getElem_mem below)
    exact List.inj_on_of_nodup_map apart member (List.getElem_mem inside) key
  subst same
  rfl

theorem keys_set (map : OrderedMap κ ν) (key : κ) (value : ν) :
    (map.set key value).keys = if key ∈ map.keys then map.keys else map.keys ++ [key] := by
  unfold set
  split
  · rw [keys, List.map_map]
    refine List.map_congr_left fun entry _ => ?_
    by_cases same : entry.1 = key <;> simp [same]
  · simp [keys]

/-- Takes over the entries of another map, each combined with what its key has so far. -/
def mergeWith {μ : Type*} (combine : Option ν → μ → ν) (map : OrderedMap κ ν) (other : OrderedMap κ μ) :
    OrderedMap κ ν :=
  other.entries.foldl (fun map entry => map.set entry.1 (combine (map.get? entry.1) entry.2)) map

theorem keys_mergeWith {μ : Type*} (combine : Option ν → μ → ν) (map : OrderedMap κ ν) (other : OrderedMap κ μ) :
    (map.mergeWith combine other).keys = map.keys ++ other.keys.filter fun key => key ∉ map.keys := by
  obtain ⟨entries, distinct⟩ := other
  change (entries.foldl _ map).keys = map.keys ++ (entries.map Prod.fst).filter _
  -- The induction is on the entries; an entry's key is not among the later ones.
  induction entries generalizing map with
  | nil => simp
  | cons entry rest ih =>
    rw [List.map_cons, List.nodup_cons] at distinct
    rw [List.foldl_cons, ih _ distinct.2, keys_set]
    by_cases present : entry.1 ∈ map.keys
    · simp [present]
    · have later : ∀ key ∈ rest.map Prod.fst, key ≠ entry.1 := fun key member same => distinct.1 (same ▸ member)
      rw [if_neg present, List.map_cons, List.filter_cons_of_pos (by simpa using present), List.append_assoc,
        List.singleton_append]
      congr 2
      refine List.filter_congr fun key member => ?_
      simp [later key member]

theorem get?_mergeWith {μ : Type*} (combine : Option ν → μ → ν) (map : OrderedMap κ ν) (other : OrderedMap κ μ)
    (key : κ) : (map.mergeWith combine other).get? key =
      match other.get? key with
      | none => map.get? key
      | some value => some (combine (map.get? key) value) := by
  obtain ⟨entries, distinct⟩ := other
  change (entries.foldl _ map).get? key = match (entries.find? fun entry => entry.1 = key).map Prod.snd with
    | none => map.get? key
    | some value => some (combine (map.get? key) value)
  induction entries generalizing map with
  | nil => rfl
  | cons entry rest ih =>
    rw [List.map_cons, List.nodup_cons] at distinct
    rw [List.foldl_cons, ih _ distinct.2, get?_set]
    by_cases same : entry.1 = key
    · -- The key does not come again.
      subst same
      have absent : rest.find? (fun other => other.1 = entry.1) = none := by
        rw [List.find?_eq_none]
        intro other member equal
        exact distinct.1 (of_decide_eq_true equal ▸ List.mem_map_of_mem member)
      simp [absent]
    · rw [List.find?_cons_of_neg (by simpa using same), if_neg (Ne.symm same)]

/-- Takes over the entries of another map, in the other's order. -/
def merge (map other : OrderedMap κ ν) : OrderedMap κ ν := map.mergeWith (fun _ value => value) other

/-- A key of the other map has its value there. -/
@[simp]
theorem get?_merge (map other : OrderedMap κ ν) (key : κ) :
    (map.merge other).get? key = (other.get? key).or (map.get? key) := by
  rw [merge, get?_mergeWith]
  cases other.get? key <;> rfl

/-- Nothing is taken over from the empty map. -/
@[simp]
theorem merge_empty (map : OrderedMap κ ν) : map.merge empty = map := rfl

/-- The empty map takes over all. -/
@[simp]
theorem empty_merge (map : OrderedMap κ ν) : empty.merge map = map := by
  refine ext_keys ?_ fun key => ?_
  · rw [merge, keys_mergeWith]
    simp [keys, empty]
  · rw [get?_merge]
    exact Option.or_none

theorem merge_set (map other : OrderedMap κ ν) (key : κ) (value : ν) :
    map.merge (other.set key value) = (map.merge other).set key value := by
  refine ext_keys ?_ fun wanted => ?_
  · have mine : key ∈ (map.merge other).keys ↔ key ∈ map.keys ∨ key ∈ other.keys := by
      by_cases present : key ∈ map.keys <;> simp [merge, keys_mergeWith, present]
    rw [keys_set, merge, keys_mergeWith, keys_set]
    by_cases listed : key ∈ other.keys
    · rw [if_pos listed, if_pos (mine.mpr (.inr listed)), merge, keys_mergeWith]
    · rw [if_neg listed, List.filter_append, merge, keys_mergeWith]
      by_cases present : key ∈ map.keys
      · rw [if_pos (by simp [present])]
        simp [present]
      · rw [if_neg (by simp [present, listed])]
        simp [present]
  · simp only [get?_merge, get?_set]
    split <;> simp

end OrderedMap

/-- A set that lists its members in the order they came in. -/
structure OrderedSet (κ : Type*) where
  /-- The members. -/
  items : List κ
  /-- No member is listed twice. -/
  nodup : items.Nodup

namespace OrderedSet

variable {κ : Type*}

/-- The set without members. -/
def empty : OrderedSet κ := ⟨[], List.nodup_nil⟩

instance : Membership κ (OrderedSet κ) := ⟨fun set item => item ∈ set.items⟩

variable {item : κ} {set : OrderedSet κ}

theorem mem_items : item ∈ set.items ↔ item ∈ set := Iff.rfl

/-- The empty set has no members. -/
@[simp]
theorem not_mem_empty (item : κ) : item ∉ (empty : OrderedSet κ) := List.not_mem_nil

variable [DecidableEq κ]

instance (set : OrderedSet κ) (item : κ) : Decidable (item ∈ set) :=
  inferInstanceAs (Decidable (item ∈ set.items))

/-- Adds a member at the end, unless it is one already. -/
def add (set : OrderedSet κ) (item : κ) : OrderedSet κ :=
  if present : item ∈ set.items then set
  else
    { items := set.items ++ [item]
      nodup := by
        rw [List.nodup_append]
        refine ⟨set.nodup, List.nodup_singleton item, ?_⟩
        intro first member second last equal
        rw [List.mem_singleton] at last
        rw [equal, last] at member
        exact present member }

theorem add_of_mem (member : item ∈ set) : set.add item = set :=
  dif_pos member

/-- Removes a member. -/
def erase (set : OrderedSet κ) (item : κ) : OrderedSet κ where
  items := set.items.filter fun other => other ≠ item
  nodup := set.nodup.sublist List.filter_sublist

variable {other : κ}

/-- The members after one is added. -/
@[simp]
theorem mem_add : other ∈ set.add item ↔ other = item ∨ other ∈ set := by
  unfold add
  split
  · rename_i present
    constructor
    · exact Or.inr
    · rintro (rfl | member)
      · exact present
      · exact member
  · change other ∈ set.items ++ [item] ↔ _
    rw [List.mem_append, List.mem_singleton, or_comm]
    rfl

/-- The members after one is removed. -/
@[simp]
theorem mem_erase : other ∈ set.erase item ↔ other ≠ item ∧ other ∈ set := by
  change other ∈ set.items.filter _ ↔ _
  rw [List.mem_filter, and_comm]
  simp [mem_items]

/-- The set of what is listed. -/
def ofList (items : List κ) : OrderedSet κ := items.foldl add empty

/-- The members are what is listed. -/
@[simp]
theorem mem_ofList {items : List κ} : item ∈ ofList items ↔ item ∈ items := by
  induction items using List.reverseRecOn with
  | nil => simp [ofList]
  | append_singleton before last ih =>
    have later : ofList (before ++ [last]) = (ofList before).add last := by
      rw [ofList, List.foldl_append]
      rfl
    rw [later, mem_add, ih, List.mem_append, List.mem_singleton, or_comm]

theorem mem_foldl_erase {items : List κ} : item ∈ items.foldl erase set ↔ item ∉ items ∧ item ∈ set := by
  induction items generalizing set with
  | nil => simp
  | cons first rest ih =>
    rw [List.foldl_cons, ih, mem_erase, List.mem_cons]
    tauto

end OrderedSet
