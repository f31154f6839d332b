import Mathlib.Algebra.BigOperators.Group.List.Basic
import Mathlib.Algebra.Order.Field.Rat
import Mathlib.Tactic.Linarith
import Sammo.War.CityConflict

/-! The stored order of a conflict ranks its nations by their damage, and a conquest follows it. -/

namespace Sammo.War.CityConflict

variable {conflict : Conflict} {stored order : List Nat} {city : ContestedCity}

/-! ### Orders and places -/

theorem get?_orderIndex (once : order.Nodup) (id : Nat) :
    (orderIndex order).get? id = if id ∈ order then some (order.idxOf id) else none := by
  have general (order : List Nat) (once : order.Nodup) (offset : Nat) (index : OrderedMap Nat Nat) :
      ((order.zipIdx offset).foldl (fun index entry => index.set entry.1 entry.2) index).get? id =
        if id ∈ order then some (offset + order.idxOf id) else index.get? id := by
    induction order generalizing offset index with
    | nil => simp
    | cons first rest ih =>
      obtain ⟨fresh, onceLater⟩ := List.nodup_cons.mp once
      rw [List.zipIdx_cons, List.foldl_cons, ih onceLater, OrderedMap.get?_set]
      by_cases here : id = first
      · -- The first place is not overwritten later.
        subst here
        simp [fresh]
      · have later : first ≠ id := fun same => here same.symm
        by_cases listed : id ∈ rest
        · simp only [listed, here, List.mem_cons, or_true, if_true, List.idxOf_cons_ne _ later]
          congr 1
          omega
        · simp [listed, here]
  rw [orderIndex, general order once 0 OrderedMap.empty]
  simp [OrderedMap.empty, OrderedMap.get?]

theorem place_of_mem (once : order.Nodup) {entry : (Nat × ℚ) × Nat} (listed : entry.1.1 ∈ order) :
    place order entry = order.idxOf entry.1.1 := by
  rw [place, get?_orderIndex once, if_pos listed, Option.getD_some]

theorem place_of_not_mem (once : order.Nodup) {entry : (Nat × ℚ) × Nat} (missing : entry.1.1 ∉ order) :
    place order entry = order.length + entry.2 := by
  rw [place, get?_orderIndex once, if_neg missing, Option.getD_none]

theorem idxOf_lt_of_sublist {first second : Nat} (once : order.Nodup) (before : [first, second].Sublist order) :
    order.idxOf first < order.idxOf second := by
  induction order with
  | nil => cases before
  | cons head rest ih =>
    obtain ⟨fresh, onceLater⟩ := List.nodup_cons.mp once
    cases before with
    | cons _ later =>
      have firstLater : head ≠ first := fun same => fresh (same ▸ later.subset (by simp))
      have secondLater : head ≠ second := fun same => fresh (same ▸ later.subset (by simp))
      rw [List.idxOf_cons_ne _ firstLater, List.idxOf_cons_ne _ secondLater]
      exact Nat.succ_lt_succ (ih onceLater later)
    | cons_cons _ later =>
      have secondLater : first ≠ second := fun same => fresh (same ▸ later.subset (by simp))
      rw [List.idxOf_cons_self, List.idxOf_cons_ne _ secondLater]
      exact Nat.succ_pos _

theorem conflictOrder_eq (conflict : Conflict) (stored : List Nat) :
    conflictOrder conflict stored =
      (stored.filter fun id => conflict.has id) ++ conflict.keys.filter fun id => id ∉ stored := by
  have general (keys order : List Nat) (once : keys.Nodup) :
      keys.foldl (fun order id => if id ∈ order then order else order ++ [id]) order =
        order ++ keys.filter fun id => id ∉ order := by
    induction keys generalizing order with
    | nil => simp
    | cons id rest ih =>
      obtain ⟨fresh, onceLater⟩ := List.nodup_cons.mp once
      rw [List.foldl_cons, ih _ onceLater]
      by_cases known : id ∈ order
      · simp [known]
      · -- The number just added is not among the later ones.
        have same : (rest.filter fun later => later ∉ order ++ [id]) = rest.filter fun later => later ∉ order := by
          apply List.filter_congr
          intro later among
          have differs : later ≠ id := fun same => fresh (same ▸ among)
          simp [differs]
        simp only [known, if_false, same, List.filter_cons, not_false_eq_true, decide_true, if_true]
        simp
  rw [conflictOrder, general conflict.keys _ conflict.nodup]
  congr 1
  apply List.filter_congr
  intro id among
  have present : conflict.has id = true := OrderedMap.mem_keys.mp among
  simp [present]

theorem conflictOrder_spec (conflict : Conflict) (once : stored.Nodup) :
    (conflictOrder conflict stored).Nodup ∧ ∀ id, id ∈ conflictOrder conflict stored ↔ id ∈ conflict.keys := by
  rw [conflictOrder_eq]
  constructor
  · refine List.nodup_append.mpr ⟨once.filter _, List.Nodup.filter _ conflict.nodup, ?_⟩
    intro first inStored second missing same
    have listed := (List.mem_filter.mp inStored).1
    have unlisted := (List.mem_filter.mp missing).2
    simp only [decide_eq_true_eq] at unlisted
    exact unlisted (same ▸ listed)
  · intro id
    simp only [List.mem_append, List.mem_filter, decide_eq_true_eq]
    have present : id ∈ conflict.keys ↔ conflict.has id = true := OrderedMap.mem_keys
    constructor
    · rintro (⟨_, has⟩ | ⟨among, _⟩)
      · exact present.mpr has
      · exact among
    · intro among
      by_cases listed : id ∈ stored
      · exact .inl ⟨listed, present.mp among⟩
      · exact .inr ⟨among, listed⟩

theorem conflictOrder_of_complete (complete : ∀ id, id ∈ order ↔ id ∈ conflict.keys) :
    conflictOrder conflict order = order := by
  rw [conflictOrder_eq]
  have all : (order.filter fun id => conflict.has id) = order :=
    List.filter_eq_self.mpr fun id listed => OrderedMap.mem_keys.mp ((complete id).mp listed)
  have nothing : (conflict.keys.filter fun id => id ∉ order) = [] := by
    rw [List.filter_eq_nil_iff]
    intro id among missing
    simp only [decide_eq_true_eq] at missing
    exact missing ((complete id).mpr among)
  rw [all, nothing, List.append_nil]

/-! ### The sorted entries -/

instance (preferredOrder : List Nat) : Std.Total (ComesFirst preferredOrder) := by
  constructor
  intro lhs rhs
  rcases lt_trichotomy lhs.1.2 rhs.1.2 with less | same | more
  · exact .inr (.inl less)
  · rcases Nat.le_total (place preferredOrder lhs) (place preferredOrder rhs) with before | after
    · exact .inl (.inr ⟨same.symm, before⟩)
    · exact .inr (.inr ⟨same, after⟩)
  · exact .inl (.inl more)

instance (preferredOrder : List Nat) : IsTrans ((Nat × ℚ) × Nat) (ComesFirst preferredOrder) := by
  constructor
  rintro first second third (more | ⟨same, before⟩) (moreLater | ⟨sameLater, beforeLater⟩)
  · exact .inl (moreLater.trans more)
  · exact .inl (sameLater ▸ more)
  · exact .inl (same ▸ moreLater)
  · exact .inr ⟨sameLater.trans same, before.trans beforeLater⟩

theorem sortConflictEntries_perm (conflict : Conflict) (order : List Nat) :
    (sortConflictEntries conflict order).Perm conflict.entries := by
  have sorted := (List.perm_insertionSort (ComesFirst order) conflict.entries.zipIdx).map Prod.fst
  rwa [List.zipIdx_map_fst] at sorted

theorem zipIdx_spec {entry : (Nat × ℚ) × Nat} (among : entry ∈ conflict.entries.zipIdx) :
    conflict.get? entry.1.1 = some entry.1.2 ∧ conflict.keys[entry.2]? = some entry.1.1 := by
  have at_ : conflict.entries[entry.2]? = some entry.1 := List.mem_zipIdx_iff_getElem?.mp among
  constructor
  · exact OrderedMap.mem_entries.mp (List.mem_of_getElem? at_)
  · rw [OrderedMap.keys, List.getElem?_map, at_, Option.map_some]

theorem place_lt (once : order.Nodup) {first second : (Nat × ℚ) × Nat} (firstAmong : first ∈ conflict.entries.zipIdx)
    (secondAmong : second ∈ conflict.entries.zipIdx)
    (before : [first.1.1, second.1.1].Sublist (conflictOrder conflict order)) :
    place order first < place order second := by
  have listed (id : Nat) (among : [id].Sublist (order.filter fun id => conflict.has id)) : id ∈ order :=
    (List.mem_filter.mp (List.singleton_sublist.mp among)).1
  have missing (id : Nat) (among : [id].Sublist (conflict.keys.filter fun id => id ∉ order)) : id ∉ order := by
    simpa using (List.mem_filter.mp (List.singleton_sublist.mp among)).2
  rw [conflictOrder_eq, List.sublist_append_iff] at before
  obtain ⟨front, back, split, inStored, inMissing⟩ := before
  match front, split with
  | [], split =>
    -- Both are missing in the stored order, so they stand as among the keys.
    rw [List.nil_append] at split
    subst split
    have firstMissing := missing first.1.1 ((List.singleton_sublist.mpr (by simp)).trans inMissing)
    have secondMissing := missing second.1.1 ((List.singleton_sublist.mpr (by simp)).trans inMissing)
    have less : first.1.1 < second.1.1 := by
      have sorted := conflict.ascending.sublist (inMissing.trans List.filter_sublist)
      simpa using sorted
    rw [place_of_not_mem once firstMissing, place_of_not_mem once secondMissing]
    by_contra notBefore
    obtain ⟨firstBound, firstAt⟩ := List.getElem?_eq_some_iff.mp (zipIdx_spec firstAmong).2
    obtain ⟨secondBound, secondAt⟩ := List.getElem?_eq_some_iff.mp (zipIdx_spec secondAmong).2
    rcases Nat.lt_or_ge second.2 first.2 with later | same
    · have other := List.pairwise_iff_getElem.mp conflict.ascending _ _ secondBound firstBound later
      exact absurd (firstAt ▸ secondAt ▸ other) (by simp only [OrderedMap.keys] at firstAt secondAt; omega)
    · have equal : first.2 = second.2 := by omega
      have : first.1.1 = second.1.1 := by
        rw [← firstAt, ← secondAt]
        simp only [equal]
      omega
  | [_], split =>
    -- The first is in the stored order and the second is not.
    obtain ⟨rfl, rfl⟩ : _ = first.1.1 ∧ back = [second.1.1] := by simpa using split.symm
    have firstListed := listed _ inStored
    have secondMissing := missing _ inMissing
    rw [place_of_mem once firstListed, place_of_not_mem once secondMissing]
    have within := List.idxOf_lt_length_of_mem firstListed
    omega
  | [_, _], split =>
    -- Both are in the stored order.
    obtain ⟨rfl, rfl, rfl⟩ : _ = first.1.1 ∧ _ = second.1.1 ∧ back = [] := by simpa using split.symm
    have firstListed := listed first.1.1 ((List.singleton_sublist.mpr (by simp)).trans inStored)
    have secondListed := listed second.1.1 ((List.singleton_sublist.mpr (by simp)).trans inStored)
    rw [place_of_mem once firstListed, place_of_mem once secondListed]
    exact idxOf_lt_of_sublist once (inStored.trans List.filter_sublist)
  | _ :: _ :: _ :: _, split => simp at split

theorem sublist_or_sublist {list : List Nat} {first second : Nat} (differs : first ≠ second) (firstAmong : first ∈ list)
    (secondAmong : second ∈ list) : [first, second].Sublist list ∨ [second, first].Sublist list := by
  induction list with
  | nil => cases firstAmong
  | cons head rest ih =>
    rcases List.mem_cons.mp firstAmong with rfl | firstLater
    · have later := (List.mem_cons.mp secondAmong).resolve_left differs.symm
      exact .inl ((List.singleton_sublist.mpr later).cons_cons _)
    · rcases List.mem_cons.mp secondAmong with rfl | secondLater
      · exact .inr ((List.singleton_sublist.mpr firstLater).cons_cons _)
      · exact (ih firstLater secondLater).imp (.cons _) (.cons _)

/-- An order of nations by the damage they have done, which leaves equal ones as they stood in an earlier order. -/
structure RankedBy (conflict : Conflict) (earlier order : List Nat) : Prop where
  permutation : order.Perm conflict.keys
  byDamage : order.Pairwise fun first second => (conflict.get? second).getD 0 ≤ (conflict.get? first).getD 0
  ties : ∀ first second, conflict.get? first = conflict.get? second → [first, second].Sublist earlier →
    [first, second].Sublist order

theorem sort_ranked (conflict : Conflict) (once : order.Nodup) :
    RankedBy conflict (conflictOrder conflict order) ((sortConflictEntries conflict order).map Prod.fst) := by
  let items := conflict.entries.zipIdx.insertionSort (ComesFirst order)
  have sorted : items.Pairwise (ComesFirst order) := List.pairwise_insertionSort _ _
  have among {entry : (Nat × ℚ) × Nat} (member : entry ∈ items) : entry ∈ conflict.entries.zipIdx :=
    (List.mem_insertionSort _).mp member
  have ids : (sortConflictEntries conflict order).map Prod.fst = items.map fun entry => entry.1.1 := by
    rw [sortConflictEntries, List.map_map]
    rfl
  have permutation : ((sortConflictEntries conflict order).map Prod.fst).Perm conflict.keys :=
    (sortConflictEntries_perm conflict order).map Prod.fst
  refine ⟨permutation, ?_, ?_⟩
  · rw [ids, List.pairwise_map]
    refine sorted.imp_of_mem fun firstIn secondIn comesFirst => ?_
    rw [(zipIdx_spec (among firstIn)).1, (zipIdx_spec (among secondIn)).1]
    rcases comesFirst with more | ⟨same, _⟩
    · exact more.le
    · exact same.le
  · intro first second tie before
    obtain ⟨once_, complete⟩ := conflictOrder_spec conflict once
    have differs : first ≠ second := by
      have distinct := once_.sublist before
      simpa using distinct
    have inOrder (id : Nat) (member : id ∈ [first, second]) :
        id ∈ (sortConflictEntries conflict order).map Prod.fst :=
      permutation.mem_iff.mpr ((complete id).mp (before.subset member))
    refine (sublist_or_sublist differs (inOrder first (by simp)) (inOrder second (by simp))).resolve_right ?_
    intro wrong
    rw [ids] at wrong
    obtain ⟨pair, inItems, names⟩ := List.sublist_map_iff.mp wrong
    obtain ⟨later, earlier, rfl, rfl, rfl⟩ : ∃ later earlier, pair = [later, earlier] ∧ later.1.1 = second ∧
        earlier.1.1 = first := by
      match pair, names with
      | [later, earlier], names => exact ⟨later, earlier, rfl, by simpa using names.symm⟩
    have laterIn := among (inItems.subset (by simp) : later ∈ items)
    have earlierIn := among (inItems.subset (by simp) : earlier ∈ items)
    have places := place_lt once earlierIn laterIn before
    have comesFirst : ComesFirst order later earlier := by
      have both := sorted.sublist inItems
      simpa using both
    rw [(zipIdx_spec earlierIn).1, (zipIdx_spec laterIn).1, Option.some_inj] at tie
    rcases comesFirst with more | ⟨_, before_⟩
    · exact absurd more (by rw [tie]; exact lt_irrefl _)
    · omega

theorem RankedBy.eq_self {ranked : List Nat} (held : RankedBy conflict order ranked)
    (permutation : order.Perm conflict.keys)
    (byDamage : order.Pairwise fun first second => (conflict.get? second).getD 0 ≤ (conflict.get? first).getD 0) :
    ranked = order := by
  have once : order.Nodup := permutation.nodup_iff.mpr conflict.nodup
  have onceRanked : ranked.Nodup := held.permutation.nodup_iff.mpr conflict.nodup
  have stands {list : List Nat} (once : list.Nodup) {first second : Nat} (before : [first, second].Sublist list)
      (after : [second, first].Sublist list) : False := by
    have less := idxOf_lt_of_sublist once before
    have more := idxOf_lt_of_sublist once after
    omega
  have same : ranked.Perm order := held.permutation.trans permutation.symm
  let Stands (first second : Nat) : Prop := [first, second].Sublist order
  refine @List.Perm.eq_of_pairwise _ Stands _ _ ?_ ?_ ?_ same
  · intro first second _ _ before after
    exact (stands once before after).elim
  · rw [List.pairwise_iff_forall_sublist]
    intro first second before
    have differs : first ≠ second := by simpa using onceRanked.sublist before
    have inOrder (id : Nat) (member : id ∈ [first, second]) : id ∈ order := same.subset (before.subset member)
    refine (sublist_or_sublist differs (inOrder first (by simp)) (inOrder second (by simp))).resolve_right fun after => ?_
    -- The two have done equal damage, so they stand in the ranking as in the order.
    have below : (conflict.get? second).getD 0 ≤ (conflict.get? first).getD 0 := by
      simpa using held.byDamage.sublist before
    have above : (conflict.get? first).getD 0 ≤ (conflict.get? second).getD 0 := by
      simpa using byDamage.sublist after
    have present (id : Nat) (member : id ∈ [first, second]) : ∃ value, conflict.get? id = some value := by
      have has := OrderedMap.mem_keys.mp (permutation.subset (inOrder id member))
      exact Option.isSome_iff_exists.mp has
    obtain ⟨value, got⟩ := present first (by simp)
    obtain ⟨other, gotOther⟩ := present second (by simp)
    rw [got, gotOther, Option.getD_some, Option.getD_some] at below above
    have tie : conflict.get? second = conflict.get? first := by rw [got, gotOther, le_antisymm below above]
    exact stands onceRanked before (held.ties second first tie after)
  · exact List.pairwise_iff_forall_sublist.mpr id

theorem sortConflict_eq (conflict : Conflict) (order : List Nat) : sortConflict conflict order = conflict := by
  have same := sortConflictEntries_perm conflict order
  have once : ((sortConflictEntries conflict order).map Prod.fst).Nodup :=
    (same.map Prod.fst).nodup_iff.mpr conflict.nodup
  refine NumberRecord.ext_get? fun id => Option.ext fun value => ?_
  rw [sortConflict, NumberRecord.get?_foldl_set once, same.mem_iff, OrderedMap.mem_entries]
  have nothing : (NumberRecord.empty : Conflict).get? id = none := rfl
  simp [nothing]

/-! ### A city's conflict -/

namespace ContestedCity

/-- The damage that nations have done to a city. -/
def entries (city : ContestedCity) : Conflict := (parseConflict city.conflict).getD NumberRecord.empty

/-- The nations of a city's conflict in the order in which they would get it. -/
def ranking (city : ContestedCity) : List Nat :=
  (sortConflictEntries city.entries (readConflictOrder city.conflict_order)).map Prod.fst

/-- The order in which a city's nations have stood so far: as stored, with those that the stored order lacks behind. -/
def earlierOrder (city : ContestedCity) : List Nat :=
  conflictOrder city.entries (readConflictOrder city.conflict_order)

/-- A row that the program can have written: its numbers are those of nations, and none is in the order twice. -/
structure Lawful (city : ContestedCity) : Prop where
  nations : ∀ id, id ∈ city.entries.keys → 0 < id
  once : (readConflictOrder city.conflict_order).Nodup

end ContestedCity

theorem get?_entries (city : ContestedCity) (id : Nat) :
    city.entries.get? id = (city.conflict.bind fun fields => fields.get? id).bind Json.number? := by
  rw [ContestedCity.entries, parseConflict]
  cases city.conflict with
  | none => rfl
  | some fields =>
    simp only [Option.bind_some]
    split
    · rename_i nothing
      have none_ := NumberRecord.entries_eq_nil.mp (List.isEmpty_iff.mp nothing) id
      rw [NumberRecord.get?_filterMap] at none_
      rw [none_]
      rfl
    · rw [Option.getD_some, NumberRecord.get?_filterMap]

theorem entries_written (conflict : Conflict) (conflict_order : Option Json) :
    ContestedCity.entries ⟨some (conflict.filterMap fun value => some (.num value)), conflict_order⟩ = conflict := by
  refine NumberRecord.ext_get? fun id => ?_
  rw [get?_entries, Option.bind_some, NumberRecord.get?_filterMap]
  cases conflict.get? id <;> rfl

theorem readConflictOrder_written (order : List Nat) (nations : ∀ id ∈ order, 0 < id) :
    readConflictOrder (some (.arr (order.map fun id : Nat => .num id))) = order := by
  simp only [readConflictOrder, List.filterMap_map]
  induction order with
  | nil => rfl
  | cons id rest ih =>
    have pos : 0 < id := nations id (by simp)
    have read : (orderedNation? ∘ fun id : Nat => Json.num id) id = some id := by
      have whole : ((id : ℚ).den = 1 ∧ (0 : ℚ) < id) := ⟨Rat.den_natCast id, by exact_mod_cast pos⟩
      simp only [Function.comp_apply, orderedNation?]
      rw [if_pos whole]
      simp
    rw [List.filterMap_cons_some read, ih fun other member => nations other (List.mem_cons_of_mem _ member)]

/-! ### What the fights and the falls of nations do to it -/

/-- The damage that a fight adds: at least one, and a twentieth more for the first nation and for the last hit. -/
def contribution (dead hp : ℚ) (first : Bool) : ℚ :=
  max 1 dead * if first ∨ hp = 0 then 105 / 100 else 1

/-- The order in which the entries stand when a nation has fought. -/
def orderWith (city : ContestedCity) (nationId : Nat) : List Nat :=
  if city.entries.has nationId then city.earlierOrder else city.earlierOrder ++ [nationId]

theorem earlierOrder_first (first : city.entries.entries = []) : city.earlierOrder = [] := by
  have absent (id : Nat) : city.entries.has id = false :=
    OrderedMap.get?_eq_none.mp (NumberRecord.entries_eq_nil.mp first id)
  rw [ContestedCity.earlierOrder, conflictOrder_eq]
  simp [absent, OrderedMap.keys, first]

theorem orderWith_first (first : city.entries.entries = []) (nationId : Nat) : orderWith city nationId = [nationId] := by
  have absent : city.entries.has nationId = false :=
    OrderedMap.get?_eq_none.mp (NumberRecord.entries_eq_nil.mp first nationId)
  rw [orderWith, absent, earlierOrder_first first]
  rfl

theorem orderWith_spec (lawful : city.Lawful) (nationId : Nat) (total : ℚ) :
    (orderWith city nationId).Nodup ∧
      ∀ id, id ∈ orderWith city nationId ↔ id ∈ (city.entries.set nationId total).keys := by
  obtain ⟨once, complete⟩ := conflictOrder_spec city.entries lawful.once
  rw [← ContestedCity.earlierOrder] at once complete
  rw [orderWith]
  by_cases known : city.entries.has nationId
  · rw [if_pos known]
    refine ⟨once, fun id => ?_⟩
    rw [NumberRecord.mem_keys_set, complete]
    constructor
    · exact .inr
    · rintro (rfl | among)
      · exact OrderedMap.mem_keys.mpr known
      · exact among
  · rw [if_neg known]
    have absent : nationId ∉ city.earlierOrder := by
      rw [complete, OrderedMap.mem_keys]
      exact known
    refine ⟨List.nodup_append.mpr ⟨once, List.nodup_singleton _, ?_⟩, fun id => ?_⟩
    · intro first listed second last same
      rw [List.mem_singleton.mp last] at same
      exact absent (same ▸ listed)
    · rw [NumberRecord.mem_keys_set, List.mem_append, List.mem_singleton, complete, or_comm]

theorem fight_ranked (lawful : city.Lawful) (nationId : Nat) (total : ℚ)
    (orders : (city.entries.entries = [] ∧ order = []) ∨ order = orderWith city nationId) :
    RankedBy (city.entries.set nationId total) (orderWith city nationId)
      ((sortConflictEntries (city.entries.set nationId total) order).map Prod.fst) := by
  rcases orders with ⟨first, rfl⟩ | rfl
  · have keys : (city.entries.set nationId total).keys = [nationId] := by
      have same : [nationId].Perm (city.entries.set nationId total).keys := by
        refine (List.perm_ext_iff_of_nodup (List.nodup_singleton _) (city.entries.set nationId total).nodup).mpr ?_
        intro id
        rw [List.mem_singleton]
        have member : id ∈ (city.entries.set nationId total).keys ↔ id = nationId ∨ id ∈ city.entries.keys :=
          NumberRecord.mem_keys_set
        rw [show id ∈ List.map Prod.fst (city.entries.set nationId total).entries ↔ _ from member]
        simp [OrderedMap.keys, first]
      exact List.perm_singleton.mp same.symm
    have alone : orderWith city nationId = conflictOrder (city.entries.set nationId total) [] := by
      rw [orderWith_first first, conflictOrder_eq, keys]
      simp
    rw [alone]
    exact sort_ranked _ List.nodup_nil
  · obtain ⟨once, complete⟩ := orderWith_spec lawful nationId total
    have ranked := sort_ranked (city.entries.set nationId total) once
    rwa [conflictOrder_of_complete complete] at ranked

theorem addConflict_shape (city : ContestedCity) (nationId : Nat) (dead hp : ℚ) :
    ∃ order, (addConflict city (some nationId) dead hp).1 =
        { conflict := some ((sortConflict (city.entries.set nationId ((city.entries.get? nationId).getD 0 +
            contribution dead hp city.entries.entries.isEmpty)) order).filterMap fun value => some (.num value))
          conflict_order := some (.arr ((sortConflictEntries (city.entries.set nationId ((city.entries.get? nationId).getD 0 +
            contribution dead hp city.entries.entries.isEmpty)) order).map fun entry => .num entry.1)) } ∧
      ((city.entries.entries = [] ∧ order = []) ∨ order = orderWith city nationId) := by
  have damage : (if city.entries.entries.isEmpty ∨ hp = 0 then max 1 dead * (105 / 100) else max 1 dead) =
      contribution dead hp city.entries.entries.isEmpty := by
    simp only [contribution]
    split
    · rfl
    · rw [mul_one]
  have entries_ : (parseConflict city.conflict).getD NumberRecord.empty = city.entries := rfl
  have earlier_ : conflictOrder city.entries (readConflictOrder city.conflict_order) = city.earlierOrder := rfl
  simp only [addConflict, entries_, earlier_, damage]
  by_cases first : city.entries.entries = []
  · have nothing := NumberRecord.entries_eq_nil.mp first
    refine ⟨[], ?_, .inl ⟨first, rfl⟩⟩
    simp only [first, List.isEmpty_nil, if_true, nothing, Option.getD_none, zero_add, earlierOrder_first first]
  · have some_ : city.entries.entries.isEmpty = false := by simpa using first
    refine ⟨orderWith city nationId, ?_, .inr rfl⟩
    simp only [some_, Bool.false_eq_true, if_false]
    cases known : city.entries.get? nationId with
    | some before => simp [orderWith, OrderedMap.has, known]
    | none => simp [orderWith, OrderedMap.has, known]

/-- A fight adds its damage to the nation's own entry, and ranks the nations by the order that was before. -/
structure Fought (before after : ContestedCity) (nationId : Nat) (dead hp : ℚ) : Prop where
  entry : ∀ id, after.entries.get? id = if id = nationId then
    some ((before.entries.get? nationId).getD 0 + contribution dead hp before.entries.entries.isEmpty)
  else before.entries.get? id
  ranked : RankedBy after.entries (orderWith before nationId) (readConflictOrder after.conflict_order)

theorem addConflict_spec (lawful : city.Lawful) {nationId : Nat} (nation : 0 < nationId) (dead hp : ℚ) :
    (addConflict city (some nationId) dead hp).1.Lawful ∧
      Fought city (addConflict city (some nationId) dead hp).1 nationId dead hp := by
  obtain ⟨order, shape, orders⟩ := addConflict_shape city nationId dead hp
  rw [shape]
  generalize value : (city.entries.get? nationId).getD 0 + contribution dead hp city.entries.entries.isEmpty = total
  have ranked := fight_ranked lawful nationId total orders
  have nations (id : Nat) (among : id ∈ (city.entries.set nationId total).keys) : 0 < id := by
    rcases NumberRecord.mem_keys_set.mp among with rfl | before
    · exact nation
    · exact lawful.nations id before
  have stored : readConflictOrder (some (.arr ((sortConflictEntries (city.entries.set nationId total) order).map
      fun entry => .num entry.1))) = (sortConflictEntries (city.entries.set nationId total) order).map Prod.fst := by
    have written := readConflictOrder_written _ fun id among => nations id (ranked.permutation.subset among)
    rwa [List.map_map] at written
  rw [sortConflict_eq]
  constructor
  · constructor
    · rw [entries_written]
      exact nations
    · rw [stored]
      exact ranked.permutation.nodup_iff.mpr (city.entries.set nationId total).nodup
  · constructor
    · intro id
      rw [entries_written, value, NumberRecord.get?_set]
    · rw [entries_written, stored]
      exact ranked

theorem ranking_of_ranked {earlier : List Nat} (lawful : city.Lawful)
    (ranked : RankedBy city.entries earlier (readConflictOrder city.conflict_order)) :
    city.ranking = readConflictOrder city.conflict_order := by
  have sorted := sort_ranked city.entries lawful.once
  rw [conflictOrder_of_complete fun id => ranked.permutation.mem_iff] at sorted
  exact sorted.eq_self ranked.permutation ranked.byDamage

theorem resolveConquerNation_eq (city : ContestedCity) (attackerNationId : Nat) (nations : List Nat) :
    resolveConquerNation city attackerNationId nations =
      (city.ranking.find? fun id => id = attackerNationId ∨ id ∈ nations).getD attackerNationId := by
  have first (entries : List (Nat × ℚ)) :
      ((entries.map Prod.fst).find? fun id => id = attackerNationId ∨ id ∈ nations) =
        (entries.filter fun entry => entry.1 = attackerNationId ∨ entry.1 ∈ nations).head?.map Prod.fst := by
    rw [List.find?_map, List.head?_filter]
    rfl
  rw [resolveConquerNation, ContestedCity.ranking, ContestedCity.entries]
  cases parseConflict city.conflict with
  | none => rfl
  | some conflict =>
    rw [Option.getD_some, first]
    dsimp only
    cases (sortConflictEntries conflict (readConflictOrder city.conflict_order)).filter fun entry =>
        entry.1 = attackerNationId ∨ entry.1 ∈ nations with
    | nil => rfl
    | cons entry rest => rfl

theorem deleteConflict_entries (nationId : Nat) (city : ContestedCity) (id : Nat) :
    (deleteConflict nationId city).entries.get? id = if id = nationId then none else city.entries.get? id := by
  rw [get?_entries, get?_entries, deleteConflict]
  cases stored : city.conflict with
  | none => simp [stored]
  | some fields =>
    have rest : ((if (fields.erase nationId).entries.isEmpty then none else some (fields.erase nationId)).bind
        fun fields => fields.get? id) = (fields.erase nationId).get? id := by
      split
      · rename_i nothing
        exact (NumberRecord.entries_eq_nil.mp (List.isEmpty_iff.mp nothing) id).symm
      · rfl
    dsimp only
    split
    · rw [rest, NumberRecord.get?_erase]
      split <;> rfl
    · rename_i absent
      have nothing : fields.get? nationId = none := OrderedMap.get?_eq_none.mpr (by simpa using absent)
      rw [stored]
      split
      · rename_i same
        rw [same, Option.bind_some, nothing]
        rfl
      · rfl

/-! ### What each nation has done -/

/-- The damage of the fights of each nation that still count. -/
abbrev Contributions := Nat → List ℚ

/-- What a nation's contributions make in all, if there are any. -/
def total : List ℚ → Option ℚ
  | [] => none
  | amounts => some amounts.sum

open Classical in
/-- Whether nothing has been contributed. -/
noncomputable def Contributions.nobody (counted : Contributions) : Bool := decide (∀ id, counted id = [])

theorem Contributions.nobody_iff {counted : Contributions} : counted.nobody = true ↔ ∀ id, counted id = [] := by
  simp [Contributions.nobody]

/-- The contributions after an event: a fight adds one, and what is over or fallen counts no more. -/
noncomputable def contributed (before : Contributions) : DisputeEvent → Contributions
  | .battle nationId dead hp => Function.update before nationId
      (before nationId ++ [contribution dead hp before.nobody])
  | .conquer _ => fun _ => []
  | .expire => fun _ => []
  | .collapse nationId => Function.update before nationId []
  | .found _ => before

/-- The contributions of a run, after those that the row had before. -/
noncomputable def history (start : ContestedCity) (trace : List (DisputeEvent × Option Nat)) : Contributions :=
  trace.foldl (fun before one => contributed before one.1) fun id => (start.entries.get? id).toList

theorem total_append (amounts : List ℚ) (amount : ℚ) :
    total (amounts ++ [amount]) = some ((total amounts).getD 0 + amount) := by
  cases amounts with
  | nil => simp [total]
  | cons first rest => simp [total, add_assoc]

theorem total_eq_none {amounts : List ℚ} : total amounts = none ↔ amounts = [] := by
  cases amounts <;> simp [total]

/-- The row agrees with the contributions, and is lawful. -/
structure Recorded (counted : Contributions) (state : Dispute) : Prop where
  lawful : state.city.Lawful
  nations : ∀ id ∈ state.nations, 0 < id
  entries : ∀ id, state.city.entries.get? id = total (counted id)

theorem step_recorded {counted : Contributions} {state next : Dispute} {event : DisputeEvent} {out : Option Nat}
    (held : Recorded counted state) (stepped : dispute.step state event = some (next, out)) :
    Recorded (contributed counted event) next := by
  cases event with
  | battle nationId dead hp =>
    simp only [dispute] at stepped
    split at stepped
    · rename_i member
      obtain ⟨rfl, -⟩ := Prod.mk.inj (Option.some.inj stepped)
      obtain ⟨lawful, fought⟩ := addConflict_spec held.lawful (held.nations nationId member) dead hp
      refine ⟨lawful, held.nations, fun id => ?_⟩
      -- Nobody has an entry exactly if nothing has been contributed.
      have first : state.city.entries.entries.isEmpty = counted.nobody := by
        rw [Bool.eq_iff_iff, List.isEmpty_iff, NumberRecord.entries_eq_nil, Contributions.nobody_iff]
        exact forall_congr' fun id => by rw [held.entries, total_eq_none]
      rw [fought.entry, contributed, first]
      by_cases own : id = nationId
      · rw [if_pos own, own, Function.update_self, total_append, held.entries]
      · rw [if_neg own, Function.update_of_ne own, held.entries]
    · cases stepped
  | conquer nationId =>
    obtain ⟨rfl, -⟩ := Prod.mk.inj (Option.some.inj stepped)
    exact ⟨⟨fun id among => absurd among List.not_mem_nil, List.nodup_nil⟩, held.nations, fun id => rfl⟩
  | expire =>
    obtain ⟨rfl, -⟩ := Prod.mk.inj (Option.some.inj stepped)
    exact ⟨⟨fun id among => absurd among List.not_mem_nil, held.lawful.once⟩, held.nations, fun id => rfl⟩
  | collapse nationId =>
    simp only [dispute] at stepped
    split at stepped
    · obtain ⟨rfl, -⟩ := Prod.mk.inj (Option.some.inj stepped)
      have order : (deleteConflict nationId state.city).conflict_order = state.city.conflict_order := by
        rw [deleteConflict]
        split
        · rfl
        · split <;> rfl
      refine ⟨⟨fun id among => ?_, ?_⟩, fun id member => held.nations id (List.mem_filter.mp member).1, fun id => ?_⟩
      · -- Whoever is left was there before.
        have has := OrderedMap.mem_keys.mp among
        rw [OrderedMap.has, deleteConflict_entries] at has
        split at has
        · cases has
        · exact held.lawful.nations id (OrderedMap.mem_keys.mpr has)
      · rw [order]
        exact held.lawful.once
      · rw [deleteConflict_entries, contributed]
        by_cases own : id = nationId
        · rw [if_pos own, own, Function.update_self]
          rfl
        · rw [if_neg own, Function.update_of_ne own, held.entries]
    · cases stepped
  | found nationId =>
    simp only [dispute] at stepped
    split at stepped
    · rename_i fresh
      obtain ⟨rfl, -⟩ := Prod.mk.inj (Option.some.inj stepped)
      refine ⟨held.lawful, fun id member => ?_, held.entries⟩
      rcases List.mem_append.mp member with before | new
      · exact held.nations id before
      · rw [List.mem_singleton.mp new]
        exact fresh.1
    · cases stepped

theorem run_recorded {start final : Dispute} {trace : List (DisputeEvent × Option Nat)} (lawful : start.city.Lawful)
    (nations : ∀ id ∈ start.nations, 0 < id) (run : dispute.Run start trace final) :
    Recorded (history start.city trace) final := by
  let Held (past : List (DisputeEvent × Option Nat)) (state : Dispute) : Prop := Recorded (history start.city past) state
  have initial : Held [] start := by
    refine ⟨lawful, nations, fun id => ?_⟩
    change _ = total (start.city.entries.get? id).toList
    cases start.city.entries.get? id with
    | none => rfl
    | some value => simp [total]
  have held : Held trace final := run.invariant initial fun past state event output next held _ stepped => by
    change Recorded (history start.city (past ++ [(event, output)])) next
    rw [history, List.foldl_append]
    exact step_recorded held stepped
  exact held

/-- A city that nobody has fought over, and two nations. -/
def quietDispute : Dispute := { city := { conflict := none, conflict_order := none }, nations := [1, 2] }

end Sammo.War.CityConflict
