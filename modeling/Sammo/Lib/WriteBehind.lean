import Mathlib.Logic.Function.Basic
import Sammo.Lib.OrderedMap

/-! Tables behind a memory copy that journals its creations, removals and changes until it is flushed. -/

/-- What a table refuses. -/
inductive TableError where
  | conflict
  | missing
  deriving DecidableEq

/-- A table of rows under unique keys. -/
abbrev Table (κ ν : Type) := κ → Option ν

namespace Table

variable {κ ν : Type} [DecidableEq κ]

/-- Inserts rows one after another; a key that is taken is refused. -/
def insertRows (table : Table κ ν) : List (κ × ν) → Except TableError (Table κ ν)
  | [] => .ok table
  | (key, row) :: rest =>
    -- A row inserted earlier takes its key as well.
    if (table key).isSome then .error .conflict
    else insertRows (Function.update table key (some row)) rest

/-- Overwrites rows one after another; a key without a row is refused. -/
def updateRows (table : Table κ ν) : List (κ × ν) → Except TableError (Table κ ν)
  | [] => .ok table
  | (key, row) :: rest =>
    -- Only a row that is there can be overwritten.
    if (table key).isSome then updateRows (Function.update table key (some row)) rest
    else .error .missing

/-- Overwrites rows, creating those that are not there. -/
def upsertRows (table : Table κ ν) (rows : List (κ × ν)) : Table κ ν :=
  -- No row can be refused.
  rows.foldl (fun table entry => Function.update table entry.1 (some entry.2)) table

/-- Removes every row under a key that is gone. -/
def deleteRows (table : Table κ ν) (gone : κ → Prop) [DecidablePred gone] : Table κ ν :=
  -- A key without a row is passed over.
  fun key => if gone key then none else table key

/-- The value a list of rows gives a key. -/
def rowOf (rows : List (κ × ν)) (key : κ) : Option ν :=
  -- The rows have distinct keys wherever this is used.
  (rows.find? fun entry => entry.1 = key).map Prod.snd

/-- A table with some rows laid over it. -/
def overlay (table : Table κ ν) (rows : List (κ × ν)) : Table κ ν :=
  -- The rows win over the table.
  fun key => (rowOf rows key).or (table key)

theorem overlay_cons (table : Table κ ν) (key : κ) (row : ν) (rest : List (κ × ν))
    (fresh : key ∉ rest.map Prod.fst) :
    overlay (Function.update table key (some row)) rest = overlay table ((key, row) :: rest) := by
  funext other
  by_cases same : key = other
  · -- No later row has this key, so the first one decides.
    subst same
    have unlisted : rest.find? (fun entry => entry.1 = key) = none := by
      rw [List.find?_eq_none]
      intro entry member
      simp only [decide_eq_true_eq]
      exact fun named => fresh (List.mem_map.mpr ⟨entry, member, named⟩)
    simp [overlay, rowOf, unlisted]
  · have untouched : Function.update table key (some row) other = table other :=
      Function.update_of_ne (fun equal => same equal.symm) _ _
    simp [overlay, rowOf, same, untouched]

theorem insertRows_ok (rows : List (κ × ν)) (table : Table κ ν) (distinct : (rows.map Prod.fst).Nodup)
    (free : ∀ entry ∈ rows, table entry.1 = none) :
    table.insertRows rows = .ok (overlay table rows) := by
  induction rows generalizing table with
  | nil => rfl
  | cons entry rest ih =>
    obtain ⟨key, row⟩ := entry
    rw [List.map_cons, List.nodup_cons] at distinct
    have open_ : table key = none := free (key, row) List.mem_cons_self
    -- The keys still to come are other ones, so they stay free.
    have later : ∀ entry ∈ rest, Function.update table key (some row) entry.1 = none := by
      intro entry member
      have differs : entry.1 ≠ key := fun same =>
        distinct.1 (same ▸ List.mem_map.mpr ⟨entry, member, rfl⟩)
      rw [Function.update_of_ne differs]
      exact free entry (List.mem_cons_of_mem _ member)
    rw [insertRows, open_, ih _ distinct.2 later, overlay_cons _ _ _ _ distinct.1]
    rfl

theorem updateRows_ok (rows : List (κ × ν)) (table : Table κ ν) (distinct : (rows.map Prod.fst).Nodup)
    (present : ∀ entry ∈ rows, (table entry.1).isSome) :
    table.updateRows rows = .ok (overlay table rows) := by
  induction rows generalizing table with
  | nil => rfl
  | cons entry rest ih =>
    obtain ⟨key, row⟩ := entry
    rw [List.map_cons, List.nodup_cons] at distinct
    have later : ∀ entry ∈ rest, (Function.update table key (some row) entry.1).isSome := by
      intro entry member
      have differs : entry.1 ≠ key := fun same =>
        distinct.1 (same ▸ List.mem_map.mpr ⟨entry, member, rfl⟩)
      rw [Function.update_of_ne differs]
      exact present entry (List.mem_cons_of_mem _ member)
    rw [updateRows, if_pos (present (key, row) List.mem_cons_self), ih _ distinct.2 later,
      overlay_cons _ _ _ _ distinct.1]

theorem upsertRows_eq (rows : List (κ × ν)) (table : Table κ ν) (distinct : (rows.map Prod.fst).Nodup) :
    table.upsertRows rows = overlay table rows := by
  induction rows generalizing table with
  | nil => rfl
  | cons entry rest ih =>
    obtain ⟨key, row⟩ := entry
    rw [List.map_cons, List.nodup_cons] at distinct
    rw [← overlay_cons _ _ _ _ distinct.1, ← ih _ distinct.2]
    rfl

end Table

/-- The memory copy of a table, with the keys it has changed, created and removed since the last flush. -/
structure WriteBehind (κ ν : Type) where
  rows : OrderedMap κ ν
  dirty : OrderedSet κ
  created : OrderedSet κ
  deleted : OrderedSet κ

namespace WriteBehind

variable {κ ν : Type} [DecidableEq κ]

/-- A copy with nothing to write. -/
def clean (rows : OrderedMap κ ν) : WriteBehind κ ν := ⟨rows, .empty, .empty, .empty⟩

/-- Overwrites a row. -/
def put (copy : WriteBehind κ ν) (key : κ) (row : ν) : WriteBehind κ ν :=
  { copy with rows := copy.rows.set key row, dirty := copy.dirty.add key }

/-- Creates a row. -/
def insert (copy : WriteBehind κ ν) (key : κ) (row : ν) : WriteBehind κ ν :=
  { copy with
    rows := copy.rows.set key row, dirty := copy.dirty.add key, created := copy.created.add key }

/-- Removes a row; a row created since the last flush is journalled as removed too. -/
def remove (copy : WriteBehind κ ν) (key : κ) : WriteBehind κ ν :=
  { rows := copy.rows.erase key, dirty := copy.dirty.erase key, created := copy.created.erase key
    deleted := copy.deleted.add key }

/-- The rows of some keys, as far as they are there. -/
def rowsOf (copy : WriteBehind κ ν) (keys : List κ) : List (κ × ν) :=
  keys.filterMap fun key => (copy.rows.get? key).map fun row => (key, row)

/-- The rows to insert. -/
def creations (copy : WriteBehind κ ν) : List (κ × ν) := copy.rowsOf copy.created.items

/-- The rows to overwrite. -/
def changes (copy : WriteBehind κ ν) : List (κ × ν) :=
  copy.rowsOf (copy.dirty.items.filter fun key => key ∉ copy.created)

/--
The journal of a copy accounts for every difference from its table.

Created rows are new to the table, other rows are in it and differ only if they are marked, and what the
table has too much is gone.
-/
structure Tracks (copy : WriteBehind κ ν) (gone : κ → Prop) (table : Table κ ν) : Prop where
  created_new : ∀ key ∈ copy.created, copy.rows.has key = true ∧ table key = none
  stored : ∀ key row, copy.rows.get? key = some row → key ∉ copy.created →
    ∃ old, table key = some old ∧ (key ∈ copy.dirty ∨ old = row)
  removed : ∀ key, copy.rows.get? key = none → table key ≠ none → gone key
  gone_absent : ∀ key, gone key → copy.rows.get? key = none

variable {copy : WriteBehind κ ν} {gone : κ → Prop} {table : Table κ ν} {key : κ} {row : ν}

theorem tracks_clean {rows : OrderedMap κ ν} (same : ∀ key, table key = rows.get? key)
    (none_gone : ∀ key, ¬ gone key) : (clean rows).Tracks gone table where
  created_new key member := absurd member (OrderedSet.not_mem_empty key)
  stored key row got _ := ⟨row, (same key).trans got, .inr rfl⟩
  removed key absent present := absurd ((same key).trans absent) present
  gone_absent key lost := absurd lost (none_gone key)

theorem Tracks.put (tracks : copy.Tracks gone table) (present : copy.rows.has key = true) :
    (copy.put key row).Tracks gone table where
  created_new other member := by
    obtain ⟨there, new⟩ := tracks.created_new other member
    exact ⟨by simp [WriteBehind.put, there], new⟩
  stored other value got uncreated := by
    simp only [WriteBehind.put, OrderedMap.get?_set] at got
    split at got
    · -- The row just written is marked, whatever the table had.
      rename_i same
      subst same
      obtain ⟨before, was⟩ := Option.isSome_iff_exists.mp present
      obtain ⟨old, stored, -⟩ := tracks.stored other before was uncreated
      exact ⟨old, stored, .inl (by simp [WriteBehind.put])⟩
    · obtain ⟨old, stored, fresh⟩ := tracks.stored other value got uncreated
      refine ⟨old, stored, fresh.imp_left fun marked => ?_⟩
      simp [WriteBehind.put, marked]
  removed other absent stored := by
    simp only [WriteBehind.put, OrderedMap.get?_set] at absent
    split at absent
    · cases absent
    · exact tracks.removed other absent stored
  gone_absent other lost := by
    have absent := tracks.gone_absent other lost
    simp only [WriteBehind.put, OrderedMap.get?_set]
    split
    · rename_i same
      subst same
      simp [OrderedMap.has, absent] at present
    · exact absent

theorem Tracks.create {next : WriteBehind κ ν} (tracks : copy.Tracks gone table)
    (absent : copy.rows.has key = false) (kept : ¬ gone key)
    (rows : ∀ other, next.rows.get? other = if other = key then some row else copy.rows.get? other)
    (created : ∀ other, other ∈ next.created ↔ other = key ∨ other ∈ copy.created)
    (dirty : ∀ other, other ∈ copy.dirty → other ∈ next.dirty) : next.Tracks gone table where
  created_new other member := by
    obtain rfl | member := (created other).mp member
    · -- A stored row under this key would be gone.
      refine ⟨by simp [OrderedMap.has, rows], ?_⟩
      by_contra stored
      exact kept (tracks.removed other (OrderedMap.get?_eq_none.mpr absent) stored)
    · obtain ⟨there, new⟩ := tracks.created_new other member
      refine ⟨?_, new⟩
      rw [OrderedMap.has, rows]
      split
      · rfl
      · exact there
  stored other value got uncreated := by
    rw [created, not_or] at uncreated
    rw [rows, if_neg uncreated.1] at got
    obtain ⟨old, stored, fresh⟩ := tracks.stored other value got uncreated.2
    exact ⟨old, stored, fresh.imp_left (dirty other)⟩
  removed other missing stored := by
    rw [rows] at missing
    split at missing
    · cases missing
    · exact tracks.removed other missing stored
  gone_absent other lost := by
    rw [rows]
    split
    · rename_i same
      exact absurd (same ▸ lost) kept
    · exact tracks.gone_absent other lost

theorem Tracks.insert (tracks : copy.Tracks gone table) (absent : copy.rows.has key = false)
    (kept : ¬ gone key) : (copy.insert key row).Tracks gone table := by
  refine tracks.create absent kept (fun other => OrderedMap.get?_set _ _ _ _) (fun other => ?_)
    fun other marked => ?_
  · exact OrderedSet.mem_add
  · exact OrderedSet.mem_add.mpr (.inr marked)

theorem Tracks.forgive (tracks : copy.Tracks gone table) (new : table key = none) :
    copy.Tracks (fun other => gone other ∧ other ≠ key) table where
  created_new := tracks.created_new
  stored := tracks.stored
  removed other absent stored := by
    refine ⟨tracks.removed other absent stored, ?_⟩
    rintro rfl
    exact stored new
  gone_absent other lost := tracks.gone_absent other lost.1

theorem Tracks.erase {next : WriteBehind κ ν} {also : κ → Prop} (tracks : copy.Tracks gone table)
    (rows : ∀ key, also key ∧ next.rows.get? key = none ∨
      ¬ also key ∧ next.rows.get? key = copy.rows.get? key)
    (created : ∀ key, key ∈ next.created ↔ ¬ also key ∧ key ∈ copy.created)
    (dirty : ∀ key, ¬ also key → key ∈ copy.dirty → key ∈ next.dirty) :
    next.Tracks (fun key => gone key ∨ also key) table where
  created_new other member := by
    obtain ⟨kept, member⟩ := (created other).mp member
    obtain ⟨there, new⟩ := tracks.created_new other member
    obtain ⟨erased, -⟩ | ⟨-, same⟩ := rows other
    · exact absurd erased kept
    · exact ⟨by rw [OrderedMap.has, same]; exact there, new⟩
  stored other value got uncreated := by
    obtain ⟨-, absent⟩ | ⟨kept, same⟩ := rows other
    · rw [absent] at got
      cases got
    · obtain ⟨old, stored, fresh⟩ := tracks.stored other value (same ▸ got)
        fun member => uncreated ((created other).mpr ⟨kept, member⟩)
      exact ⟨old, stored, fresh.imp_left (dirty other kept)⟩
  removed other absent stored := by
    obtain ⟨erased, -⟩ | ⟨-, same⟩ := rows other
    · exact .inr erased
    · exact .inl (tracks.removed other (same ▸ absent) stored)
  gone_absent other lost := by
    obtain ⟨-, absent⟩ | ⟨kept, same⟩ := rows other
    · exact absent
    · rw [same]
      exact tracks.gone_absent other (lost.resolve_right kept)

theorem Tracks.congr {lost : κ → Prop} (tracks : copy.Tracks gone table)
    (same : ∀ key, lost key ↔ gone key) : copy.Tracks lost table where
  created_new := tracks.created_new
  stored := tracks.stored
  removed key absent stored := (same key).mpr (tracks.removed key absent stored)
  gone_absent key away := tracks.gone_absent key ((same key).mp away)

theorem Tracks.remove (tracks : copy.Tracks gone table) :
    (copy.remove key).Tracks (fun other => gone other ∨ other = key) table := by
  refine tracks.erase (fun other => ?_) (fun other => ?_) fun other kept marked => ?_
  · by_cases same : other = key <;> simp [WriteBehind.remove, same]
  · simp [WriteBehind.remove]
  · simp [WriteBehind.remove, kept, marked]

theorem Tracks.overwrite (tracks : copy.Tracks gone table) (present : copy.rows.has key = true)
    (marked : key ∈ copy.dirty) : { copy with rows := copy.rows.set key row }.Tracks gone table := by
  have same : copy.dirty.add key = copy.dirty := OrderedSet.add_of_mem marked
  have written : (copy.put key row).Tracks gone table := tracks.put present
  rwa [WriteBehind.put, same] at written

theorem Tracks.pretend (tracks : copy.Tracks gone table) (present : copy.rows.has key = true) :
    { copy with rows := copy.rows.set key row }.Tracks gone
      (Function.update table key ((table key).map fun _ => row)) where
  created_new other member := by
    obtain ⟨there, new⟩ := tracks.created_new other member
    refine ⟨by simp [there], ?_⟩
    by_cases same : other = key
    · subst same
      simp [new]
    · rw [Function.update_of_ne same, new]
  stored other value got uncreated := by
    simp only [OrderedMap.get?_set] at got
    split at got
    · -- The table pretends to have stored this very row.
      rename_i same
      subst same
      obtain ⟨before, was⟩ := Option.isSome_iff_exists.mp present
      obtain ⟨old, stored, -⟩ := tracks.stored other before was uncreated
      exact ⟨row, by simp [stored], .inr (Option.some.inj got)⟩
    · rename_i differs
      rw [Function.update_of_ne differs]
      exact tracks.stored other value got uncreated
  removed other absent stored := by
    simp only [OrderedMap.get?_set] at absent
    split at absent
    · cases absent
    · rename_i differs
      rw [Function.update_of_ne differs] at stored
      exact tracks.removed other absent stored
  gone_absent other lost := by
    have absent := tracks.gone_absent other lost
    simp only [OrderedMap.get?_set]
    split
    · rename_i same
      subst same
      simp [OrderedMap.has, absent] at present
    · exact absent

theorem Tracks.unpretend {pretended : Option ν} (tracks : copy.Tracks gone (Function.update table key pretended))
    (absent : copy.rows.get? key = none) (stored_too : table key ≠ none → pretended ≠ none) :
    copy.Tracks gone table where
  created_new other member := by
    obtain ⟨there, new⟩ := tracks.created_new other member
    have differs : other ≠ key := by
      rintro rfl
      simp [OrderedMap.has, absent] at there
    rw [Function.update_of_ne differs] at new
    exact ⟨there, new⟩
  stored other value got uncreated := by
    have differs : other ≠ key := by
      rintro rfl
      rw [absent] at got
      cases got
    obtain ⟨old, stored, fresh⟩ := tracks.stored other value got uncreated
    rw [Function.update_of_ne differs] at stored
    exact ⟨old, stored, fresh⟩
  removed other missing stored := by
    refine tracks.removed other missing ?_
    by_cases same : other = key
    · subst same
      simpa using stored_too stored
    · rwa [Function.update_of_ne same]
  gone_absent := tracks.gone_absent

theorem rowOf_rowsOf {keys : List κ} :
    Table.rowOf (copy.rowsOf keys) key = if key ∈ keys then copy.rows.get? key else none := by
  induction keys with
  | nil => rfl
  | cons first rest ih =>
    -- The first key contributes a row exactly if it is there.
    cases got : copy.rows.get? first with
    | none =>
      have skipped : copy.rowsOf (first :: rest) = copy.rowsOf rest := by simp [rowsOf, got]
      rw [skipped, ih]
      by_cases same : key = first
      · subst same
        simp [got]
      · simp [same]
    | some row =>
      have listed : copy.rowsOf (first :: rest) = (first, row) :: copy.rowsOf rest := by simp [rowsOf, got]
      rw [listed]
      by_cases same : first = key
      · subst same
        simp [Table.rowOf, got]
      · have differs : ¬ key = first := fun equal => same equal.symm
        simp only [Table.rowOf] at ih ⊢
        simp [same, differs, ih]

theorem rowsOf_nodup {keys : List κ} (distinct : keys.Nodup) : ((copy.rowsOf keys).map Prod.fst).Nodup := by
  have sub : ((copy.rowsOf keys).map Prod.fst).Sublist keys := by
    clear distinct
    induction keys with
    | nil => exact .slnil
    | cons first rest ih =>
      cases got : copy.rows.get? first with
      | none => simpa [rowsOf, got] using ih.cons first
      | some row => simpa [rowsOf, got] using ih.cons_cons first
  exact distinct.sublist sub

theorem rowsOf_filter {keys : List κ} (keep : κ → Bool) :
    copy.rowsOf (keys.filter keep) = (copy.rowsOf keys).filter fun entry => keep entry.1 := by
  induction keys with
  | nil => rfl
  | cons first rest ih =>
    cases got : copy.rows.get? first with
    | none => cases kept : keep first <;> simpa [rowsOf, got, kept] using ih
    | some row => cases kept : keep first <;> simpa [rowsOf, got, kept] using ih

theorem mem_rowsOf {keys : List κ} {entry : κ × ν} (member : entry ∈ copy.rowsOf keys) :
    entry.1 ∈ keys ∧ copy.rows.get? entry.1 = some entry.2 := by
  obtain ⟨key, listed, made⟩ := List.mem_filterMap.mp member
  obtain ⟨row, got, rfl⟩ := Option.map_eq_some_iff.mp made
  exact ⟨listed, got⟩

theorem changes_eq : copy.changes =
    (copy.rowsOf copy.dirty.items).filter fun entry => entry.1 ∉ copy.creations.map Prod.fst := by
  rw [changes, rowsOf_filter]
  refine List.filter_congr fun entry member => ?_
  -- A marked row is there, so its key is created exactly if the row is inserted.
  have got := (mem_rowsOf member).2
  have same : entry.1 ∈ copy.created ↔ entry.1 ∈ copy.creations.map Prod.fst := by
    constructor
    · intro created
      refine List.mem_map.mpr ⟨(entry.1, entry.2), ?_, rfl⟩
      exact List.mem_filterMap.mpr ⟨entry.1, created, by simp [got]⟩
    · intro listed
      obtain ⟨other, inserted, named⟩ := List.mem_map.mp listed
      rw [← named]
      exact (mem_rowsOf inserted).1
  simp only [same]

theorem Tracks.insert_creations (tracks : copy.Tracks gone table) :
    table.insertRows copy.creations = .ok (table.overlay copy.creations) := by
  refine Table.insertRows_ok _ _ (rowsOf_nodup copy.created.nodup) fun entry member => ?_
  exact (tracks.created_new entry.1 (mem_rowsOf member).1).2

variable [DecidablePred gone]

theorem Tracks.created_deleted (tracks : copy.Tracks gone table) (key : κ) :
    (table.overlay copy.creations).deleteRows gone key =
      if key ∈ copy.created then copy.rows.get? key
      else if copy.rows.get? key = none then none else table key := by
  simp only [Table.deleteRows, Table.overlay, creations, rowOf_rowsOf]
  by_cases member : key ∈ copy.created
  · -- A created key is in the copy, so it is not gone.
    obtain ⟨there, new⟩ := tracks.created_new key member
    have kept : ¬ gone key := fun lost => by simp [OrderedMap.has, tracks.gone_absent key lost] at there
    simp [kept, OrderedSet.mem_items, member, new]
  · have unlisted : key ∉ copy.created.items := member
    rw [if_neg member, if_neg unlisted, Option.none_or]
    by_cases absent : copy.rows.get? key = none
    · -- What the copy no longer has is gone, or was never stored.
      by_cases stored : table key = none
      · simp [absent, stored]
      · simp [absent, tracks.removed key absent stored]
    · have kept : ¬ gone key := fun lost => absent (tracks.gone_absent key lost)
      simp [absent, kept]

theorem Tracks.overlay_changes (tracks : copy.Tracks gone table) :
    ((table.overlay copy.creations).deleteRows gone).overlay copy.changes = copy.rows.get? := by
  funext key
  simp only [Table.overlay, changes, rowOf_rowsOf, List.mem_filter, OrderedSet.mem_items,
    decide_eq_true_eq]
  rw [tracks.created_deleted key]
  cases got : copy.rows.get? key with
  | none => simp
  | some row =>
    by_cases member : key ∈ copy.created
    · simp [member]
    · obtain ⟨old, stored, marked | same⟩ := tracks.stored key row got member
      · simp [member, marked]
      · subst same
        by_cases marked : key ∈ copy.dirty <;> simp [member, marked, stored]

theorem Tracks.update_changes (tracks : copy.Tracks gone table) :
    ((table.overlay copy.creations).deleteRows gone).updateRows copy.changes = .ok copy.rows.get? := by
  rw [← tracks.overlay_changes]
  refine Table.updateRows_ok _ _ (rowsOf_nodup (copy.dirty.nodup.filter _)) fun entry member => ?_
  obtain ⟨listed, got⟩ := mem_rowsOf member
  have uncreated : entry.1 ∉ copy.created := by simpa using (List.mem_filter.mp listed).2
  obtain ⟨old, stored, -⟩ := tracks.stored entry.1 entry.2 got uncreated
  rw [tracks.created_deleted entry.1, if_neg uncreated, got]
  simp [stored]

theorem Tracks.upsert_changes (tracks : copy.Tracks gone table) :
    ((table.overlay copy.creations).deleteRows gone).upsertRows copy.changes = copy.rows.get? := by
  have distinct : (copy.changes.map Prod.fst).Nodup := rowsOf_nodup (copy.dirty.nodup.filter _)
  rw [Table.upsertRows_eq _ _ distinct, tracks.overlay_changes]

end WriteBehind
