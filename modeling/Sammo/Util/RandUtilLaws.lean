import Sammo.Util.RandUtil

/-! A shuffle is a permutation, each by one sequence of draws; a weighted choice always ends. -/

namespace Sammo.RandUtil

variable {σ α : Type} {rng : RNG σ}

theorem swap_append (front suffix : List α) (draw : Nat) :
    swap (front ++ suffix) front.length (draw + front.length) = front ++ swap suffix 0 draw := by
  unfold swap
  rw [List.getElem?_append_right (Nat.le_refl _), List.getElem?_append_right (Nat.le_add_left _ _), Nat.sub_self,
    Nat.add_sub_cancel]
  cases suffix[0]? with
  | none => rfl
  | some srcValue =>
    cases suffix[draw]? with
    | none => rfl
    | some destValue =>
      simp only
      rw [List.set_append_right _ _ (Nat.le_refl _), Nat.sub_self,
        List.set_append_right _ _ (Nat.le_add_left _ _), Nat.add_sub_cancel]

theorem drawn_valid (count : Nat) (state : σ) : ValidDraws count (drawn rng count state).1 := by
  induction count generalizing state with
  | zero => rfl
  | succ left ih => exact ⟨rng.nextInt_le _ _, ih _⟩

theorem shuffleFrom_eq (front suffix : List α) (state : σ) :
    shuffleFrom rng (front.length + suffix.length) suffix.length (front ++ suffix) state =
      (front ++ arrange suffix (drawn rng suffix.length state).1, (drawn rng suffix.length state).2) := by
  -- The induction is on the places that are left.
  generalize count : suffix.length = left
  induction left generalizing front suffix state with
  | zero =>
    obtain rfl := List.length_eq_zero_iff.mp count
    rfl
  | succ left ih =>
    obtain ⟨first, rest, rfl⟩ : ∃ first rest, suffix = first :: rest := by
      cases suffix with
      | nil => cases count
      | cons first rest => exact ⟨first, rest, rfl⟩
    have length : rest.length = left := by simpa using count
    have place : front.length + (left + 1) - (left + 1) = front.length := by omega
    have reach : front.length + (left + 1) - front.length - 1 = left := by omega
    simp only [shuffleFrom, drawn, place, reach]
    have inRange := rng.nextInt_le left state
    generalize rng.nextInt left state = now at inRange
    -- The place behind the front is settled, and the loop goes on behind it.
    have next (settled : α) (others : List α) (same : others.length = left) :
        shuffleFrom rng (front.length + (left + 1)) left (front ++ settled :: others) now.2 =
          (front ++ settled :: arrange others (drawn rng left now.2).1, (drawn rng left now.2).2) := by
      have later := ih (front ++ [settled]) others now.2 same
      rw [List.length_append, List.length_singleton, List.append_assoc, List.singleton_append, List.append_assoc,
        List.singleton_append] at later
      rwa [Nat.add_assoc, Nat.add_comm 1] at later
    obtain ⟨draw, after⟩ := now
    cases draw with
    | zero =>
      rw [if_pos (Nat.zero_add _).symm]
      exact next first rest length
    | succ draw =>
      have inside : draw < rest.length := by simp only at inRange; omega
      have swapped : swap (first :: rest) 0 (draw + 1) = rest.getD draw first :: rest.set draw first := by
        simp [swap, inside]
      rw [if_neg (by omega), swap_append, swapped]
      exact next _ _ (by rw [List.length_set, length])

theorem shuffle_eq (srcArray : List α) (state : σ) (within : srcArray.length ≤ rng.maxInt) :
    shuffle rng srcArray state =
      .ok (arrange srcArray (drawn rng srcArray.length state).1, (drawn rng srcArray.length state).2) := by
  unfold shuffle
  split
  · rename_i empty
    obtain rfl := List.length_eq_zero_iff.mp empty
    rfl
  · rw [if_neg (by omega)]
    have looped : shuffleFrom rng _ _ ([] ++ srcArray) state = _ := shuffleFrom_eq [] srcArray state
    rw [List.length_nil, Nat.zero_add, List.nil_append, List.nil_append] at looped
    rw [looped]

theorem perm_set (first : α) (rest : List α) {draw : Nat} (inside : draw < rest.length) :
    (rest.getD draw first :: rest.set draw first).Perm (first :: rest) := by
  induction rest generalizing draw with
  | nil => cases inside
  | cons second rest ih =>
    cases draw with
    | zero => exact List.Perm.swap _ _ _
    | succ draw =>
      have later := ih (Nat.lt_of_succ_lt_succ inside)
      exact (List.Perm.swap _ _ _).trans ((later.cons second).trans (List.Perm.swap _ _ _))

theorem arrange_perm (items : List α) (draws : List Nat) (valid : ValidDraws items.length draws) :
    (arrange items draws).Perm items := by
  generalize count : items.length = left at valid
  induction left generalizing items draws with
  | zero =>
    obtain rfl := List.length_eq_zero_iff.mp count
    obtain rfl : draws = [] := valid
    exact List.Perm.refl []
  | succ left ih =>
    cases items with
    | nil => cases count
    | cons first rest =>
      have length : rest.length = left := by simpa using count
      cases draws with
      | nil => cases valid
      | cons draw draws =>
        obtain ⟨inRange, later⟩ := valid
        cases draw with
        | zero => exact (ih rest draws length later).cons first
        | succ draw =>
          have rearranged := ih (rest.set draw first) draws (by rw [List.length_set, length]) later
          exact (rearranged.cons _).trans (perm_set first rest (by omega))

theorem exists_unique_arrange {items order : List α} (distinct : items.Nodup) (perm : order.Perm items) :
    ∃! draws, ValidDraws items.length draws ∧ arrange items draws = order := by
  generalize count : items.length = left
  induction left generalizing items order with
  | zero =>
    obtain rfl := List.length_eq_zero_iff.mp count
    obtain rfl := List.perm_nil.mp perm
    exact ⟨[], ⟨rfl, rfl⟩, fun _ found => found.1⟩
  | succ left ih =>
    obtain ⟨first, rest, rfl⟩ : ∃ first rest, items = first :: rest := by
      cases items with
      | nil => cases count
      | cons first rest => exact ⟨first, rest, rfl⟩
    obtain ⟨head, later, rfl⟩ : ∃ head later, order = head :: later := by
      cases order with
      | nil => exact absurd perm.length_eq (by simp)
      | cons head later => exact ⟨head, later, rfl⟩
    have length : rest.length = left := by simpa using count
    obtain ⟨absent, apart⟩ := List.nodup_cons.mp distinct
    by_cases stays : head = first
    · -- The first place keeps its item, so its draw is zero.
      subst stays
      obtain ⟨draws, ⟨valid, arranged⟩, only⟩ := ih apart ((List.perm_cons head).mp perm) length
      refine ⟨0 :: draws, ⟨⟨Nat.zero_le _, valid⟩, by rw [arrange, arranged]⟩, ?_⟩
      rintro (_ | ⟨_ | draw, others⟩) ⟨validOther, arrangedOther⟩
      · exact absurd validOther id
      · rw [only others ⟨validOther.2, (List.cons.inj arrangedOther).2⟩]
      · -- Any other draw would put a later item there.
        have inside : draw < rest.length := by have bound := validOther.1; omega
        have moved : rest.getD draw head = head := (List.cons.inj arrangedOther).1
        rw [List.getD_eq_getElem _ _ inside] at moved
        exact absurd (moved ▸ List.getElem_mem inside) absent
    · -- The item comes from exactly one later place.
      have member : head ∈ rest := (List.mem_cons.mp (perm.subset List.mem_cons_self)).resolve_left stays
      obtain ⟨draw, inside, taken⟩ := List.getElem_of_mem member
      have got : rest.getD draw first = head := by rw [List.getD_eq_getElem _ _ inside, taken]
      have exchanged := perm_set first rest inside
      rw [got] at exchanged
      have left_ : (rest.set draw first).Nodup := (List.nodup_cons.mp (exchanged.nodup_iff.mpr distinct)).2
      obtain ⟨draws, ⟨valid, arranged⟩, only⟩ :=
        ih left_ ((List.perm_cons head).mp (perm.trans exchanged.symm)) (by rw [List.length_set, length])
      refine ⟨(draw + 1) :: draws, ⟨⟨by omega, valid⟩, by rw [arrange, got, arranged]⟩, ?_⟩
      rintro (_ | ⟨_ | other, others⟩) ⟨validOther, arrangedOther⟩
      · exact absurd validOther id
      · exact absurd (List.cons.inj arrangedOther).1.symm stays
      · have within : other < rest.length := by have bound := validOther.1; omega
        have same : rest.getD other first = head := (List.cons.inj arrangedOther).1
        rw [List.getD_eq_getElem _ _ within, ← taken] at same
        obtain rfl := (List.Nodup.getElem_inj_iff apart).mp same
        rw [only others ⟨validOther.2, (List.cons.inj arrangedOther).2⟩]

theorem arrange_map {β : Type} (rename : α → β) (items : List α) (draws : List Nat) :
    arrange (items.map rename) draws = (arrange items draws).map rename := by
  induction draws generalizing items with
  | nil => cases items <;> rfl
  | cons draw draws ih =>
    cases items with
    | nil => rfl
    | cons first rest =>
      cases draw with
      | zero => simp [arrange, ih]
      | succ draw =>
        rw [List.map_cons, arrange, arrange, List.map_cons, ← ih, List.map_set, List.getD_map]

theorem drawn_scripted {maxInt : Nat} {fraction : ℚ} {mem : 0 ≤ fraction ∧ fraction < 1} {count : Nat}
    {draws : List Nat} (valid : ValidDraws count draws) :
    drawn (.scripted maxInt fraction mem) count draws = (draws, []) := by
  induction count generalizing draws with
  | zero =>
    obtain rfl : draws = [] := valid
    rfl
  | succ left ih =>
    cases draws with
    | nil => cases valid
    | cons draw draws =>
      obtain ⟨inRange, later⟩ := valid
      simp only [drawn, RNG.scripted, List.headD_cons, List.tail_cons, Nat.min_eq_left inRange]
      have rest := ih later
      simp only [RNG.scripted] at rest
      rw [rest]

/-- The sum of the weights that count. -/
def weightSum (items : List (α × ℚ)) : ℚ := (items.map fun entry => if entry.2 ≤ 0 then 0 else entry.2).sum

theorem weightSum_nonneg (items : List (α × ℚ)) : 0 ≤ weightSum items := by
  refine List.sum_nonneg fun weight member => ?_
  obtain ⟨entry, -, rfl⟩ := List.mem_map.mp member
  split
  · exact le_refl 0
  · rename_i positive
    exact (not_le.mp positive).le

theorem weightSum_pos_iff {items : List (α × ℚ)} : 0 < weightSum items ↔ ∃ entry ∈ items, 0 < entry.2 := by
  induction items with
  | nil => simp [weightSum]
  | cons entry rest ih =>
    have split : weightSum (entry :: rest) = (if entry.2 ≤ 0 then 0 else entry.2) + weightSum rest := by
      simp [weightSum]
    have later := weightSum_nonneg rest
    rw [split, List.exists_mem_cons_iff, ← ih]
    by_cases positive : entry.2 ≤ 0
    · rw [if_pos positive, zero_add]
      simp [not_lt.mpr positive]
    · have weighs := not_le.mp positive
      rw [if_neg positive]
      exact ⟨fun _ => .inl weighs, fun _ => by linarith⟩

theorem stopAtWeight_of_pos {items : List (α × ℚ)} {left : ℚ} (positive : 0 < left) (within : left ≤ weightSum items) :
    ∃ item, stopAtWeight items left = .ok item ∧ WeighsPositive items item := by
  induction items generalizing left with
  | nil => exact absurd (lt_of_lt_of_le positive within) (by simp [weightSum])
  | cons entry rest ih =>
    obtain ⟨item, weight⟩ := entry
    have split : weightSum ((item, weight) :: rest) = (if weight ≤ 0 then 0 else weight) + weightSum rest := by
      simp [weightSum]
    rw [split] at within
    -- An item further on weighs as much among all items.
    have further {found : α} (weighs : WeighsPositive rest found) : WeighsPositive ((item, weight) :: rest) found := by
      obtain ⟨other, member, above⟩ := weighs
      exact ⟨other, List.mem_cons_of_mem _ member, above⟩
    unfold stopAtWeight
    by_cases weightless : weight ≤ 0
    · rw [if_pos weightless, zero_add] at within
      rw [if_pos weightless, if_neg (not_le.mpr positive)]
      obtain ⟨found, stopped, weighs⟩ := ih positive within
      exact ⟨found, stopped, further weighs⟩
    · rw [if_neg weightless] at within
      rw [if_neg weightless]
      by_cases reached : left ≤ weight
      · rw [if_pos reached]
        exact ⟨item, rfl, weight, List.mem_cons_self, not_le.mp weightless⟩
      · rw [if_neg reached]
        have beyond := not_le.mp reached
        have remaining : 0 < left - weight := by linarith
        obtain ⟨found, stopped, weighs⟩ := ih remaining (by linarith)
        exact ⟨found, stopped, further weighs⟩

theorem stopAtWeight_zero (entry : α × ℚ) (rest : List (α × ℚ)) : stopAtWeight (entry :: rest) 0 = .ok entry.1 := by
  rw [stopAtWeight, if_pos (le_refl 0)]
  split
  · rfl
  · rename_i positive
    rw [if_pos (not_le.mp positive).le]

/-- How a choice by weight goes, for one drawn fraction. -/
structure ChoosesByWeight (items : List (α × ℚ)) (first : α) (fraction : ℚ) (item : α) : Prop where
  /-- It is one of the items. -/
  listed : item ∈ items.map Prod.fst
  /-- Its weight is positive if some weight is, unless nothing was drawn and the first item has no positive weight. -/
  weighs : ((∃ entry ∈ items, 0 < entry.2) → WeighsPositive items item) ↔
    (¬ ∃ entry ∈ items, 0 < entry.2) ∨ fraction ≠ 0 ∨ WeighsPositive items first

theorem choiceUsingWeight_chooses (entry : α × ℚ) (rest : List (α × ℚ)) {fraction : ℚ} (least : 0 ≤ fraction)
    (most : fraction ≤ 1) :
    ∃ item, Sammo.choiceUsingWeight (entry :: rest) fraction = .ok item ∧
      ChoosesByWeight (entry :: rest) entry.1 fraction item := by
  have named {item : α} (weighs : WeighsPositive (entry :: rest) item) : item ∈ (entry :: rest).map Prod.fst := by
    obtain ⟨weight, member, -⟩ := weighs
    exact List.mem_map.mpr ⟨_, member, rfl⟩
  have walked : Sammo.choiceUsingWeight (entry :: rest) fraction =
      stopAtWeight (entry :: rest) (fraction * weightSum (entry :: rest)) := rfl
  rw [walked]
  by_cases heavy : ∃ other ∈ entry :: rest, 0 < other.2
  · have sum := weightSum_pos_iff.mpr heavy
    rcases least.eq_or_lt with nothing | drawn
    · -- At the draw zero the walk stops at once, whatever the first weight is.
      subst nothing
      rw [zero_mul, stopAtWeight_zero]
      refine ⟨entry.1, rfl, List.mem_map_of_mem List.mem_cons_self,
        fun weighs => .inr (.inr (weighs heavy)), fun either _ => ?_⟩
      exact (either.resolve_left fun light => light heavy).resolve_left fun drawn => drawn rfl
    · obtain ⟨item, stopped, weighs⟩ := stopAtWeight_of_pos (mul_pos drawn sum) (mul_le_of_le_one_left sum.le most)
      exact ⟨item, stopped, named weighs, by simp [weighs, drawn.ne']⟩
  · have sum : weightSum (entry :: rest) = 0 :=
      le_antisymm (not_lt.mp fun positive => heavy (weightSum_pos_iff.mp positive)) (weightSum_nonneg _)
    rw [sum, mul_zero, stopAtWeight_zero]
    exact ⟨entry.1, rfl, List.mem_map_of_mem List.mem_cons_self, fun _ => .inl heavy, fun _ some => absurd some heavy⟩

/-- How a source shuffles and chooses. -/
structure ChoosesFairly (rng : RNG σ) (α : Type) : Prop where
  /-- A shuffle is a permutation, made by draws in range, and the same exchange of places for any list. -/
  shuffles : ∀ (items : List α) (state : σ), items.length ≤ rng.maxInt →
    ∃ order next, shuffle rng items state = .ok (order, next) ∧ order.Perm items ∧
      ∃ places, shuffle rng (List.range items.length) state = .ok (places, next) ∧
        order.map some = places.map (items[·]?)
  /-- Every permutation of the places of a list is made by exactly one sequence of draws. -/
  bijective : ∀ (count : Nat) (places : List Nat), places.Perm (List.range count) →
    ∃! draws, ValidDraws count draws ∧
      shuffle (.scripted count 0 ⟨le_refl 0, one_pos⟩) (List.range count) draws = .ok (places, [])
  /-- A choice by weight among some pairs is one of them, and where its weight is positive. -/
  pairs : ∀ (entry : α × ℚ) (rest : List (α × ℚ)) (state : σ), ∃ item,
    choiceUsingWeightPair rng (entry :: rest) state = .ok (item, (rng.nextFloat1 state).2) ∧
      ChoosesByWeight (entry :: rest) entry.1 (rng.nextFloat1 state).1 item
  /-- And so for a record of weights. -/
  record : ∀ (items : OrderedMap String ℚ) (entry : String × ℚ) (rest : List (String × ℚ)) (state : σ),
    items.entries = entry :: rest → ∃ item,
      choiceUsingWeight rng items state = .ok (item, (rng.nextFloat1 state).2) ∧
        ChoosesByWeight items.entries entry.1 (rng.nextFloat1 state).1 item

theorem choiceUsingWeightPair_chooses (rng : RNG σ) (entry : α × ℚ) (rest : List (α × ℚ)) (state : σ) :
    ∃ item, choiceUsingWeightPair rng (entry :: rest) state = .ok (item, (rng.nextFloat1 state).2) ∧
      ChoosesByWeight (entry :: rest) entry.1 (rng.nextFloat1 state).1 item := by
  have mem := rng.nextFloat1_mem state
  obtain ⟨item, chosen, chooses⟩ := choiceUsingWeight_chooses entry rest mem.1 mem.2.le
  exact ⟨item, by rw [choiceUsingWeightPair, chosen]; rfl, chooses⟩

/-- Every source shuffles by permutations, each by one sequence of draws, and its choices by weight end. -/
theorem random_choice (rng : RNG σ) (α : Type) : ChoosesFairly rng α where
  shuffles items state within := by
    have valid : ValidDraws items.length (drawn rng items.length state).1 := drawn_valid items.length state
    have same := shuffle_eq (List.range items.length) state (by rwa [List.length_range])
    rw [List.length_range] at same
    refine ⟨_, _, shuffle_eq items state within, arrange_perm items _ valid, _, same, ?_⟩
    -- Both are one arrangement, of the items and of their places.
    have looked : items.map some = (List.range items.length).map (items[·]?) := by
      refine List.ext_getElem (by simp) fun place below _ => ?_
      simp only [List.length_map] at below
      simp [below]
    rw [← arrange_map, ← arrange_map, looked]
  bijective count places perm := by
    obtain ⟨draws, ⟨valid, arranged⟩, only⟩ := exists_unique_arrange List.nodup_range perm
    rw [List.length_range] at valid
    have scripted {draws : List Nat} (valid : ValidDraws count draws) :
        shuffle (.scripted count 0 ⟨le_refl 0, one_pos⟩) (List.range count) draws =
          .ok (arrange (List.range count) draws, []) := by
      rw [shuffle_eq _ _ (by rw [List.length_range]; exact Nat.le_refl count), List.length_range, drawn_scripted valid]
    refine ⟨draws, ⟨valid, by rw [scripted valid, arranged]⟩, fun other found => only other ⟨?_, ?_⟩⟩
    · rw [List.length_range]
      exact found.1
    · have shuffled := found.2
      rw [scripted found.1] at shuffled
      exact (Prod.mk.inj (Except.ok.inj shuffled)).1
  pairs := choiceUsingWeightPair_chooses rng
  record items entry rest state listed := by
    rw [choiceUsingWeight, listed]
    exact choiceUsingWeightPair_chooses rng entry rest state

/-- At the draw zero an item without weight is chosen, though the other one has some. -/
theorem weightless_chosen :
    ¬ ∀ (rng : RNG (List Nat)) (items : List (String × ℚ)) (state : List Nat), (∃ entry ∈ items, 0 < entry.2) →
      ∃ item next, choiceUsingWeightPair rng items state = .ok (item, next) ∧ WeighsPositive items item := by
  intro weighs
  obtain ⟨item, next, chosen, weight, member, positive⟩ :=
    weighs (.scripted 1 0 ⟨le_refl 0, one_pos⟩) [("a", 0), ("b", 1)] [] ⟨("b", 1), by simp, one_pos⟩
  have first : choiceUsingWeightPair (.scripted 1 0 ⟨le_refl 0, one_pos⟩) [("a", (0 : ℚ)), ("b", 1)] [] =
      .ok ("a", []) := by
    simp [choiceUsingWeightPair, Sammo.choiceUsingWeight, RNG.scripted, stopAtWeight, Except.map]
  rw [first] at chosen
  obtain ⟨rfl, -⟩ := Prod.mk.inj (Except.ok.inj chosen)
  -- The first item's only weight is zero.
  have zero : weight = 0 := by simpa using member
  exact absurd positive (by rw [zero]; exact lt_irrefl 0)

end Sammo.RandUtil
