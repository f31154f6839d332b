import Sammo.Lib.OrderedMap

/-! Changes that are seen before they are stored: a row held apart, overrides for readers, and patches for later. -/

namespace OrderedMap

variable {κ ν π : Type*} [DecidableEq κ] {map : OrderedMap κ ν} {key other : κ}

theorem set_set (map : OrderedMap κ ν) (key : κ) (first second : ν) :
    (map.set key first).set key second = map.set key second := by
  refine ext_keys ?_ fun other => ?_
  · have present : key ∈ (map.set key first).keys := by
      rw [mem_keys, has_set]
      simp
    rw [keys_set, if_pos present, keys_set, keys_set]
  · simp only [get?_set]
    split <;> rfl

theorem set_same {value : ν} (found : map.get? key = some value) : map.set key value = map := by
  have present : key ∈ map.keys := List.mem_map_of_mem (mem_entries.mpr found)
  refine ext_keys ?_ fun other => ?_
  · rw [keys_set, if_pos present]
  · rw [get?_set]
    split
    · rename_i same
      rw [same, found]
    · rfl

/-- Sets a row, if there is one. -/
def setRow (map : OrderedMap κ ν) : Option (κ × ν) → OrderedMap κ ν
  | none => map
  | some (key, value) => map.set key value

theorem setRow_same {row : Option (κ × ν)} (found : ∀ entry ∈ row, map.get? entry.1 = some entry.2) :
    map.setRow row = map := by
  cases row with
  | none => rfl
  | some entry => exact set_same (found entry rfl)

theorem alter_of_get? {value : ν} (found : map.get? key = some value) (change : ν → ν) :
    map.alter key change = map.set key (change value) := by
  unfold alter
  rw [found]

@[simp]
theorem keys_alter (map : OrderedMap κ ν) (key : κ) (change : ν → ν) : (map.alter key change).keys = map.keys := by
  unfold alter
  split
  · rfl
  · rename_i value found
    have present : key ∈ map.keys := List.mem_map_of_mem (mem_entries.mpr found)
    rw [keys_set, if_pos present]

theorem alter_set_of_ne (map : OrderedMap κ ν) (apart : other ≠ key) (value : ν) (change : ν → ν) :
    (map.set key value).alter other change = (map.alter other change).set key value := by
  refine ext_keys ?_ fun asked => ?_
  · rw [keys_alter, keys_set, keys_set, keys_alter]
  · simp only [get?_alter, get?_set]
    by_cases same : asked = other
    · rw [if_pos same, if_neg (same ▸ apart), if_neg (same ▸ apart), if_pos same]
    · rw [if_neg same, if_neg same]

/-- The same keys, each with a value that the old one is related to. -/
def Kept (R : ν → ν → Prop) (before after : OrderedMap κ ν) : Prop :=
  ∀ key, Option.Rel R (before.get? key) (after.get? key)

section Kept

variable {R : ν → ν → Prop} {before after : OrderedMap κ ν} {old : ν}

theorem Kept.refl (same : ∀ key value, map.get? key = some value → R value value) : map.Kept R map := by
  intro key
  cases found : map.get? key with
  | none => exact .none
  | some value => exact .some (same key value found)

theorem Kept.set (kept : before.Kept R after) (found : before.get? key = some old) {new : ν} (related : R old new) :
    before.Kept R (after.set key new) := by
  intro asked
  rw [get?_set]
  split
  · rename_i same
    rw [same, found]
    exact .some related
  · exact kept asked

theorem Kept.some (kept : before.Kept R after) (found : before.get? key = Option.some old) :
    ∃ new, after.get? key = Option.some new ∧ R old new := by
  have here := kept key
  rw [found] at here
  generalize after.get? key = there at here ⊢
  cases here with
  | some related => exact ⟨_, rfl, related⟩

theorem Kept.of_some (kept : before.Kept R after) {new : ν} (found : after.get? key = Option.some new) :
    ∃ old, before.get? key = Option.some old ∧ R old new := by
  have here := kept key
  rw [found] at here
  generalize before.get? key = there at here ⊢
  cases here with
  | some related => exact ⟨_, rfl, related⟩

theorem Kept.trans {S T : ν → ν → Prop} {middle : OrderedMap κ ν} (first : before.Kept R middle)
    (second : middle.Kept S after) (composed : ∀ {old between new}, R old between → S between new → T old new) :
    before.Kept T after := by
  intro key
  have here := first key
  have there := second key
  generalize before.get? key = old, middle.get? key = between, after.get? key = new at here there ⊢
  cases here with
  | none => cases there; exact .none
  | some related =>
    cases there with
    | some further => exact .some (composed related further)

end Kept

variable (apply : ν → π → ν)

/-- Patches rows one after the other; a row that is not there is not patched. -/
def patchAll (map : OrderedMap κ ν) (patches : List (κ × π)) : OrderedMap κ ν :=
  patches.foldl (fun rows entry => rows.alter entry.1 fun value => apply value entry.2) map

theorem patchAll_set {patches : List (κ × π)} (apart : ∀ entry ∈ patches, entry.1 ≠ key) (value : ν) :
    (map.set key value).patchAll apply patches = (map.patchAll apply patches).set key value := by
  induction patches generalizing map with
  | nil => rfl
  | cons first rest ih =>
    have here := alter_set_of_ne map (apart first List.mem_cons_self) value fun old => apply old first.2
    have later := @ih (map.alter first.1 fun old => apply old first.2)
      fun entry member => apart entry (List.mem_cons_of_mem _ member)
    simp only [patchAll, List.foldl_cons] at *
    rw [here, later]

theorem patchAll_single {value old : ν} (apart : other ≠ key) (found : map.get? other = some old) (change : π) :
    (map.set key value).patchAll apply [(other, change)] = (map.set key value).set other (apply old change) := by
  have still : (map.set key value).get? other = some old := by rw [get?_set, if_neg apart, found]
  exact alter_of_get? still _

end OrderedMap

/-- A map with changes that are not stored yet. -/
structure Overlay (κ ν π : Type*) where
  base : OrderedMap κ ν
  /-- The row that is held apart and stored before the patches. -/
  own : Option (κ × ν)
  /-- What readers see in place of the stored rows. -/
  overrides : OrderedMap κ ν
  patches : List (κ × π)

namespace Overlay

variable {κ ν π : Type*} [DecidableEq κ] (apply : ν → π → ν) (overlay : Overlay κ ν π)

/-- What a reader sees. -/
def view (key : κ) : Option ν := (overlay.overrides.get? key).or (overlay.base.get? key)

/-- Holds a new value of the own row, and shows it. -/
def hold (key : κ) (value : ν) : Overlay κ ν π :=
  { overlay with own := some (key, value), overrides := overlay.overrides.set key value }

/-- Adds a patch, and shows what it leads to. -/
def patch (key : κ) (change : π) : Overlay κ ν π :=
  { overlay with
    overrides := match overlay.view key with
      | none => overlay.overrides
      | some value => overlay.overrides.set key (apply value change)
    patches := overlay.patches ++ [(key, change)] }

/-- The map once everything is stored. -/
def settle : OrderedMap κ ν :=
  (overlay.base.setRow overlay.own).patchAll apply overlay.patches

/-- What readers see is what will be stored. -/
structure Sound (overlay : Overlay κ ν π) : Prop where
  apart : ∀ row ∈ overlay.own, ∀ entry ∈ overlay.patches, entry.1 ≠ row.1
  seen : ∀ key, (overlay.settle apply).get? key = overlay.view key

variable {apply overlay} {key : κ} {value : ν}

theorem settle_start {base : OrderedMap κ ν} {own : Option (κ × ν)}
    (stored : ∀ row ∈ own, base.get? row.1 = some row.2) :
    (Overlay.mk base own .empty ([] : List (κ × π))).settle apply = base :=
  OrderedMap.setRow_same stored

theorem Sound.start {base : OrderedMap κ ν} {own : Option (κ × ν)}
    (stored : ∀ row ∈ own, base.get? row.1 = some row.2) :
    (Overlay.mk base own .empty ([] : List (κ × π))).Sound apply where
  apart _ _ entry member := by cases member
  seen key := by
    rw [settle_start stored]
    rfl

theorem settle_of_own (own : overlay.own = some (key, value)) :
    overlay.settle apply = (overlay.base.set key value).patchAll apply overlay.patches := by
  unfold settle
  rw [own]
  rfl

theorem settle_hold (sound : overlay.Sound apply) (held : (key, value) ∈ overlay.own) (new : ν) :
    (overlay.hold key new).settle apply = (overlay.settle apply).set key new := by
  have holding : (overlay.hold key new).settle apply = (overlay.base.set key new).patchAll apply overlay.patches :=
    settle_of_own rfl
  rw [holding, settle_of_own held,
    ← OrderedMap.patchAll_set apply fun entry member => sound.apart (key, value) held entry member,
    OrderedMap.set_set]

theorem Sound.hold (sound : overlay.Sound apply) (held : (key, value) ∈ overlay.own) (new : ν) :
    (overlay.hold key new).Sound apply where
  apart := by
    rintro row ⟨⟩
    exact sound.apart (key, value) held
  seen other := by
    rw [settle_hold sound held, OrderedMap.get?_set, sound.seen]
    simp only [view, Overlay.hold, OrderedMap.get?_set]
    split <;> rfl

theorem settle_patch (change : π) :
    (overlay.patch apply key change).settle apply =
      (overlay.settle apply).alter key fun value => apply value change := by
  simp [settle, patch, OrderedMap.patchAll]

theorem view_patch (change : π) (asked : κ) :
    (overlay.patch apply key change).view asked =
      if asked = key then (overlay.view asked).map fun value => apply value change else overlay.view asked := by
  have shows_ : (overlay.patch apply key change).view asked =
      ((match overlay.view key with
        | none => overlay.overrides
        | some value => overlay.overrides.set key (apply value change)).get? asked).or (overlay.base.get? asked) := rfl
  rw [shows_]
  cases shown : overlay.view key with
  | none =>
    by_cases same : asked = key
    · rw [if_pos same, same, shown]
      exact shown
    · rw [if_neg same]
      rfl
  | some value =>
    dsimp only
    rw [OrderedMap.get?_set]
    by_cases same : asked = key
    · rw [if_pos same, if_pos same, same, shown]
      rfl
    · rw [if_neg same, if_neg same]
      rfl

theorem Sound.patch (sound : overlay.Sound apply) (other : ∀ row ∈ overlay.own, key ≠ row.1) (change : π) :
    (overlay.patch apply key change).Sound apply where
  apart row held entry member := by
    obtain before | last := List.mem_append.mp member
    · exact sound.apart row held entry before
    · rw [List.mem_singleton.mp last]
      exact other row held
  seen asked := by rw [settle_patch, OrderedMap.get?_alter, sound.seen, view_patch]

theorem settle_patches (entries : List (κ × π)) (overlay : Overlay κ ν π) :
    (entries.foldl (fun shown entry => shown.patch apply entry.1 entry.2) overlay).settle apply =
      (overlay.settle apply).patchAll apply entries := by
  induction entries generalizing overlay with
  | nil => rfl
  | cons first rest ih =>
    rw [List.foldl_cons, ih, settle_patch, OrderedMap.patchAll, OrderedMap.patchAll, List.foldl_cons]

theorem own_patches (entries : List (κ × π)) (overlay : Overlay κ ν π) :
    (entries.foldl (fun shown entry => shown.patch apply entry.1 entry.2) overlay).own = overlay.own := by
  induction entries generalizing overlay with
  | nil => rfl
  | cons first rest ih => rw [List.foldl_cons, ih, patch]

theorem Sound.patches {entries : List (κ × π)} (sound : overlay.Sound apply)
    (others : ∀ entry ∈ entries, ∀ row ∈ overlay.own, entry.1 ≠ row.1) :
    (entries.foldl (fun shown entry => shown.patch apply entry.1 entry.2) overlay).Sound apply := by
  induction entries generalizing overlay with
  | nil => exact sound
  | cons first rest ih =>
    exact ih (sound.patch (others first List.mem_cons_self) first.2)
      fun entry member => others entry (List.mem_cons_of_mem _ member)

theorem Sound.stored (sound : overlay.Sound apply) (held : (key, value) ∈ overlay.own) :
    (overlay.settle apply).get? key = some value := by
  rw [settle_of_own held, OrderedMap.patchAll_set apply fun entry member => sound.apart (key, value) held entry member,
    OrderedMap.get?_set, if_pos rfl]

end Overlay
