import Sammo.Triggers.TriggerCaller

/-! A caller fires what was added to it in the order of its adding, whether it was appended or merged. -/

namespace Sammo

variable {m : Type → Type} {Context Env Arg : Type} {history later : List (Trigger m Context Env Arg)}
  {caller other : TriggerCaller m Context Env Arg} {priority : ℚ} {uniqueId : String}
  {trigger : Trigger m Context Env Arg}

/-- The triggers of one priority among those that were added. -/
def bucketOf (history : List (Trigger m Context Env Arg)) (priority : ℚ) :
    OrderedMap String (Trigger m Context Env Arg) :=
  (history.filter fun trigger => trigger.priority = priority).foldl
    (fun bucket trigger => bucket.set trigger.uniqueId trigger) .empty

theorem bucketOf_snoc (history : List (Trigger m Context Env Arg)) (trigger : Trigger m Context Env Arg) (priority : ℚ) :
    bucketOf (history ++ [trigger]) priority = if trigger.priority = priority then
      (bucketOf history priority).set trigger.uniqueId trigger else bucketOf history priority := by
  unfold bucketOf
  by_cases own : trigger.priority = priority
  · rw [List.filter_append, List.foldl_append, if_pos own, List.filter_cons_of_pos (by simpa using own)]
    rfl
  · rw [List.filter_append, if_neg own, List.filter_cons_of_neg (by simpa using own), List.filter_nil, List.append_nil]

theorem bucketOf_append (history later : List (Trigger m Context Env Arg)) (priority : ℚ) :
    bucketOf (history ++ later) priority = (bucketOf history priority).merge (bucketOf later priority) := by
  induction later using List.reverseRecOn with
  | nil => simp [bucketOf]
  | append_singleton before last ih =>
    rw [← List.append_assoc, bucketOf_snoc, bucketOf_snoc, ih]
    split
    · rw [OrderedMap.merge_set]
    · rfl

theorem mem_keys_bucketOf :
    uniqueId ∈ (bucketOf history priority).keys ↔ (priority, uniqueId) ∈ history.map Trigger.key := by
  induction history using List.reverseRecOn with
  | nil => simp [bucketOf, OrderedMap.keys, OrderedMap.empty]
  | append_singleton before last ih =>
    rw [bucketOf_snoc, List.map_append, List.mem_append, ← ih]
    by_cases own : last.priority = priority
    · rw [if_pos own, OrderedMap.keys_set]
      split
      · rename_i present
        constructor
        · exact .inl
        · rintro (old | new)
          · exact old
          · have same : uniqueId = last.uniqueId := by simpa [Trigger.key, own] using new
            exact same ▸ present
      · simp [Trigger.key, own]
    · rw [if_neg own]
      have foreign : (priority, uniqueId) ∉ [last].map Trigger.key := by simp [Trigger.key, Ne.symm own]
      exact ⟨.inl, fun either => either.resolve_right foreign⟩

theorem bucketOf_ordered (history : List (Trigger m Context Env Arg)) (priority : ℚ) :
    (bucketOf history priority).keys.Pairwise fun left right =>
      (history.map Trigger.key).idxOf (priority, left) < (history.map Trigger.key).idxOf (priority, right) := by
  induction history using List.reverseRecOn with
  | nil => exact List.Pairwise.nil
  | append_singleton before last ih =>
    -- The place of an id that was there before does not change.
    have kept : (bucketOf before priority).keys.Pairwise fun left right =>
        ((before ++ [last]).map Trigger.key).idxOf (priority, left) <
          ((before ++ [last]).map Trigger.key).idxOf (priority, right) := by
      refine ih.imp_of_mem fun {left right} isLeft isRight order => ?_
      rwa [List.map_append, List.idxOf_append_of_mem (mem_keys_bucketOf.mp isLeft),
        List.idxOf_append_of_mem (mem_keys_bucketOf.mp isRight)]
    rw [bucketOf_snoc]
    split
    · rename_i own
      rw [OrderedMap.keys_set]
      split
      · exact kept
      · rename_i absent
        refine List.pairwise_append.mpr ⟨kept, List.pairwise_singleton _ _, fun left isLeft right isRight => ?_⟩
        obtain rfl := List.mem_singleton.mp isRight
        have present := mem_keys_bucketOf.mp isLeft
        have new : (priority, last.uniqueId) ∉ before.map Trigger.key := fun member =>
          absent (mem_keys_bucketOf.mpr member)
        rw [List.map_append, List.idxOf_append_of_mem present, List.idxOf_append_of_notMem new]
        have below := List.idxOf_lt_length_of_mem present
        omega
    · exact kept

theorem get?_bucketOf (got : (bucketOf history priority).get? uniqueId = some trigger) :
    trigger.key = (priority, uniqueId) ∧ ∃ before later, history = before ++ trigger :: later ∧
      trigger.key ∉ later.map Trigger.key := by
  induction history using List.reverseRecOn with
  | nil => simp [bucketOf, OrderedMap.get?, OrderedMap.empty] at got
  | append_singleton before last ih =>
    -- A trigger from before stays the last one under a key that is not the new one's.
    have older (got : (bucketOf before priority).get? uniqueId = some trigger)
        (other : last.key ≠ (priority, uniqueId)) : trigger.key = (priority, uniqueId) ∧
          ∃ front later, before ++ [last] = front ++ trigger :: later ∧ trigger.key ∉ later.map Trigger.key := by
      obtain ⟨key, front, later, split, final⟩ := ih got
      refine ⟨key, front, later ++ [last], by simp [split], ?_⟩
      rw [List.map_append, List.mem_append, key]
      rintro (inLater | isLast)
      · exact final (key ▸ inLater)
      · exact other (List.mem_singleton.mp isLast).symm
    rw [bucketOf_snoc] at got
    by_cases own : last.priority = priority
    · rw [if_pos own, OrderedMap.get?_set] at got
      by_cases same : uniqueId = last.uniqueId
      · rw [if_pos same] at got
        obtain rfl := Option.some.inj got
        exact ⟨by rw [Trigger.key, own, same], before, [], rfl, List.not_mem_nil⟩
      · rw [if_neg same] at got
        exact older got fun equal => same (Prod.mk.inj equal).2.symm
    · rw [if_neg own] at got
      exact older got fun equal => own (Prod.mk.inj equal).1

/-- A caller holds the buckets of the triggers that were added, under the priorities they have. -/
def TriggerCaller.Holds (caller : TriggerCaller m Context Env Arg) (history : List (Trigger m Context Env Arg)) : Prop :=
  ∀ priority, caller.triggersByPriority.get? priority =
    if priority ∈ history.map (·.priority) then some (bucketOf history priority) else none

theorem bucketOf_of_notMem (absent : priority ∉ history.map (·.priority)) : bucketOf history priority = .empty := by
  have none : (history.filter fun trigger => trigger.priority = priority) = [] := by
    rw [List.filter_eq_nil_iff]
    exact fun trigger member own => absent (List.mem_map.mpr ⟨trigger, member, of_decide_eq_true own⟩)
  rw [bucketOf, none, List.foldl_nil]

namespace TriggerCaller

theorem Holds.getD (holds : caller.Holds history) (priority : ℚ) :
    (caller.triggersByPriority.get? priority).getD .empty = bucketOf history priority := by
  rw [holds priority]
  split
  · rfl
  · rename_i absent
    exact (bucketOf_of_notMem absent).symm

theorem Holds.append (holds : caller.Holds history) (trigger : Trigger m Context Env Arg) :
    (caller.append trigger).Holds (history ++ [trigger]) := by
  intro priority
  rw [TriggerCaller.append, OrderedMap.get?_set, bucketOf_snoc, List.map_append, holds.getD]
  by_cases own : priority = trigger.priority
  · subst own
    simp
  · rw [if_neg own, if_neg (Ne.symm own), holds priority]
    simp [own]

theorem Holds.appendAll (holds : caller.Holds history) (triggers : List (Trigger m Context Env Arg)) :
    (triggers.foldl TriggerCaller.append caller).Holds (history ++ triggers) := by
  induction triggers generalizing caller history with
  | nil => rwa [List.append_nil]
  | cons trigger rest ih =>
    have next := ih (holds.append trigger)
    rwa [List.append_assoc, List.singleton_append] at next

theorem Holds.merge (holds : caller.Holds history) (others : other.Holds later) :
    (caller.merge other).Holds (history ++ later) := by
  intro priority
  have mine := holds.getD priority
  rw [TriggerCaller.merge, OrderedMap.get?_mergeWith, others priority, bucketOf_append, List.map_append]
  by_cases listed : priority ∈ later.map (·.priority)
  · simp only [if_pos listed]
    rw [if_pos (List.mem_append_right _ listed), mine]
  · simp only [if_neg listed]
    rw [holds priority, bucketOf_of_notMem listed, OrderedMap.merge_empty]
    simp only [List.mem_append, listed, or_false]

theorem holds_run (build : TriggerBuild m Context Env Arg) : build.run.Holds build.history := by
  induction build with
  | create triggers =>
    have fresh : (TriggerCaller.empty : TriggerCaller m Context Env Arg).Holds [] := fun _ => rfl
    exact fresh.appendAll triggers
  | append build trigger ih => exact ih.append trigger
  | merge build other ih ihOther => exact ih.merge ihOther
  | mergeNothing build ih => exact ih

theorem Holds.mem_priorities (holds : caller.Holds history) :
    priority ∈ caller.priorities ↔ priority ∈ history.map (·.priority) := by
  rw [priorities, List.mem_mergeSort, OrderedMap.mem_keys, OrderedMap.has, holds priority]
  split <;> simp_all

theorem priorities_increasing (caller : TriggerCaller m Context Env Arg) : caller.priorities.Pairwise (· < ·) := by
  have sorted : caller.priorities.Pairwise (· ≤ ·) := by
    have ordered : caller.priorities.Pairwise fun left right => decide (left ≤ right) = true := List.pairwise_mergeSort
      (fun _ _ _ first second => by simpa using le_trans (of_decide_eq_true first) (of_decide_eq_true second))
      (fun left right => by simpa using le_total left right) caller.triggersByPriority.keys
    exact ordered.imp fun order => of_decide_eq_true order
  have distinct : caller.priorities.Nodup :=
    (List.mergeSort_perm _ _).nodup_iff.mpr caller.triggersByPriority.nodup
  exact (sorted.and distinct).imp fun both => lt_of_le_of_ne both.1 both.2

theorem Holds.bucket_eq (holds : caller.Holds history) (listed : priority ∈ history.map (·.priority)) :
    caller.bucket priority = (bucketOf history priority).entries.map Prod.snd := by
  rw [bucket, holds priority, if_pos listed]

theorem Holds.mem_bucket (holds : caller.Holds history) (member : trigger ∈ caller.bucket priority) :
    trigger.priority = priority ∧ (bucketOf history priority).get? trigger.uniqueId = some trigger := by
  by_cases listed : priority ∈ history.map (·.priority)
  · rw [holds.bucket_eq listed] at member
    obtain ⟨⟨uniqueId, _⟩, entry, rfl⟩ := List.mem_map.mp member
    have got := OrderedMap.mem_entries.mp entry
    obtain ⟨key, -⟩ := get?_bucketOf got
    obtain ⟨own, named⟩ := Prod.mk.inj key
    exact ⟨own, named ▸ got⟩
  · rw [bucket, holds priority, if_neg listed] at member
    cases member

theorem Holds.map_bucket (holds : caller.Holds history) (listed : priority ∈ history.map (·.priority)) :
    (caller.bucket priority).map (·.uniqueId) = (bucketOf history priority).keys := by
  rw [holds.bucket_eq listed, List.map_map, OrderedMap.keys]
  refine List.map_congr_left fun entry member => ?_
  obtain ⟨key, -⟩ := get?_bucketOf (OrderedMap.mem_entries.mp member)
  exact (Prod.mk.inj key).2

theorem Holds.firesInOrder (holds : caller.Holds history) : FiresInOrder history caller.firingOrder := by
  -- Within a bucket the order is that of the adding, and from bucket to bucket the priority grows.
  have inside : ∀ priority ∈ caller.priorities, (caller.bucket priority).Pairwise fun left right =>
      left.priority = right.priority ∧
        (history.map Trigger.key).idxOf left.key < (history.map Trigger.key).idxOf right.key := by
    intro priority member
    have ordered := bucketOf_ordered history priority
    rw [← holds.map_bucket (holds.mem_priorities.mp member), List.pairwise_map] at ordered
    refine ordered.imp_of_mem fun {left right} isLeft isRight order => ?_
    have leftOwn := (holds.mem_bucket isLeft).1
    have rightOwn := (holds.mem_bucket isRight).1
    exact ⟨leftOwn.trans rightOwn.symm, by simpa only [Trigger.key, leftOwn, rightOwn] using order⟩
  have across : caller.firingOrder.Pairwise fun left right => left.priority < right.priority ∨
      left.priority = right.priority ∧
        (history.map Trigger.key).idxOf left.key < (history.map Trigger.key).idxOf right.key := by
    refine List.pairwise_flatMap.mpr ⟨fun priority member => (inside priority member).imp .inr, ?_⟩
    refine (priorities_increasing caller).imp fun {low high} below left isLeft right isRight => .inl ?_
    rwa [(holds.mem_bucket isLeft).1, (holds.mem_bucket isRight).1]
  constructor
  · -- Two triggers that are fired differ in their priority or in their place among the added.
    refine List.pairwise_map.mpr (across.imp fun {left right} order same => ?_)
    rcases order with below | ⟨-, before⟩
    · exact absurd (congrArg Prod.fst same) (ne_of_lt below)
    · exact absurd (congrArg (history.map Trigger.key).idxOf same) (ne_of_lt before)
  · rintro ⟨priority, uniqueId⟩
    refine Iff.trans ?_ mem_keys_bucketOf
    constructor
    · intro fired
      obtain ⟨trigger, member, key⟩ := List.mem_map.mp fired
      obtain ⟨bucket, -, inBucket⟩ := List.mem_flatMap.mp member
      obtain ⟨own, got⟩ := holds.mem_bucket inBucket
      obtain ⟨rfl, rfl⟩ := Prod.mk.inj key
      rw [own]
      exact OrderedMap.mem_keys.mpr (by rw [OrderedMap.has, got]; rfl)
    · intro member
      have added := mem_keys_bucketOf.mp member
      have listed : priority ∈ history.map (·.priority) := by
        obtain ⟨trigger, inHistory, key⟩ := List.mem_map.mp added
        exact List.mem_map.mpr ⟨trigger, inHistory, (Prod.mk.inj key).1⟩
      rw [← holds.map_bucket listed] at member
      obtain ⟨trigger, inBucket, named⟩ := List.mem_map.mp member
      refine List.mem_map.mpr ⟨trigger, List.mem_flatMap.mpr ⟨priority, holds.mem_priorities.mpr listed, inBucket⟩, ?_⟩
      rw [Trigger.key, (holds.mem_bucket inBucket).1, named]
  · exact across.imp fun order => order.elim le_of_lt fun both => both.1.le
  · refine across.imp fun {left right} order same => ?_
    exact order.elim (fun below => absurd same (ne_of_lt below)) And.right
  · intro trigger member
    obtain ⟨priority, -, inBucket⟩ := List.mem_flatMap.mp member
    exact (get?_bucketOf (holds.mem_bucket inBucket).2).2

/-- Two callers hold the same buckets under the same priorities. -/
def Equivalent (caller other : TriggerCaller m Context Env Arg) : Prop :=
  ∀ priority, caller.triggersByPriority.get? priority = other.triggersByPriority.get? priority

theorem Equivalent.firingOrder (same : caller.Equivalent other) : caller.firingOrder = other.firingOrder := by
  have members : ∀ priority, priority ∈ caller.priorities ↔ priority ∈ other.priorities := by
    intro priority
    rw [priorities, priorities, List.mem_mergeSort, List.mem_mergeSort, OrderedMap.mem_keys, OrderedMap.mem_keys,
      OrderedMap.has, OrderedMap.has, same priority]
  -- An increasing list is determined by its members.
  have listed : caller.priorities = other.priorities :=
    List.Perm.eq_of_pairwise (fun _ _ _ _ first second => absurd second (lt_asymm first))
      (priorities_increasing caller) (priorities_increasing other)
      ((List.perm_ext_iff_of_nodup ((priorities_increasing caller).imp ne_of_lt)
        ((priorities_increasing other).imp ne_of_lt)).mpr members)
  rw [TriggerCaller.firingOrder, TriggerCaller.firingOrder, listed]
  refine List.flatMap_congr fun priority _ => ?_
  rw [bucket, bucket, same priority]

theorem Holds.filter_firingOrder (holds : caller.Holds history) (priority : ℚ) :
    (caller.firingOrder.filter fun trigger => trigger.priority = priority) = caller.bucket priority := by
  have general : ∀ priorities : List ℚ, priorities.Nodup →
      ((priorities.flatMap caller.bucket).filter fun trigger => trigger.priority = priority) =
        if priority ∈ priorities then caller.bucket priority else [] := by
    intro priorities distinct
    induction priorities with
    | nil => rfl
    | cons first rest ih =>
      obtain ⟨apart, distinct⟩ := List.nodup_cons.mp distinct
      rw [List.flatMap_cons, List.filter_append, ih distinct]
      by_cases own : first = priority
      · subst own
        rw [List.filter_eq_self.mpr fun trigger member => decide_eq_true (holds.mem_bucket member).1, if_neg apart,
          if_pos List.mem_cons_self, List.append_nil]
      · have none : ((caller.bucket first).filter fun trigger => trigger.priority = priority) = [] :=
          List.filter_eq_nil_iff.mpr fun trigger member isOwn =>
            own ((holds.mem_bucket member).1.symm.trans (of_decide_eq_true isOwn))
        simp [none, Ne.symm own]
  rw [firingOrder, general _ ((priorities_increasing caller).imp ne_of_lt)]
  split
  · rfl
  · rename_i absent
    rw [bucket, holds priority, if_neg fun listed => absent (holds.mem_priorities.mpr listed)]

theorem Holds.bucketOf_firingOrder (holds : caller.Holds history) (priority : ℚ) :
    bucketOf caller.firingOrder priority = bucketOf history priority := by
  rw [bucketOf, holds.filter_firingOrder]
  by_cases listed : priority ∈ history.map (·.priority)
  · rw [holds.bucket_eq listed, List.foldl_map]
    -- Each entry is set under its own id, which the empty map takes over as it is.
    have entered : ∀ (bucket : OrderedMap String (Trigger m Context Env Arg)),
        ∀ entry ∈ (bucketOf history priority).entries,
          bucket.set entry.2.uniqueId entry.2 = bucket.set entry.1 entry.2 := by
      intro bucket entry member
      obtain ⟨key, -⟩ := get?_bucketOf (OrderedMap.mem_entries.mp member)
      rw [(Prod.mk.inj key).2]
    rw [List.foldl_ext _ _ _ entered]
    exact OrderedMap.empty_merge _
  · rw [bucket, holds priority, if_neg listed, bucketOf_of_notMem listed]
    rfl

theorem Holds.merge_equivalent (holds : caller.Holds history) (others : other.Holds later) :
    (caller.merge other).Equivalent (other.firingOrder.foldl TriggerCaller.append caller) := by
  intro priority
  have listed : priority ∈ other.firingOrder.map (·.priority) ↔ priority ∈ later.map (·.priority) := by
    have all := others.firesInOrder.all
    constructor
    · intro member
      obtain ⟨trigger, fired, rfl⟩ := List.mem_map.mp member
      obtain ⟨added, inLater, key⟩ := List.mem_map.mp ((all trigger.key).mp (List.mem_map_of_mem fired))
      exact List.mem_map.mpr ⟨added, inLater, congrArg Prod.fst key⟩
    · intro member
      obtain ⟨trigger, inLater, rfl⟩ := List.mem_map.mp member
      obtain ⟨fired, inOrder, key⟩ := List.mem_map.mp ((all trigger.key).mpr (List.mem_map_of_mem inLater))
      exact List.mem_map.mpr ⟨fired, inOrder, congrArg Prod.fst key⟩
  rw [holds.merge others priority, holds.appendAll other.firingOrder priority, bucketOf_append, bucketOf_append,
    others.bucketOf_firingOrder]
  simp only [List.map_append, List.mem_append, listed]

theorem Equivalent.fire [Monad m] [LawfulMonad m] (same : caller.Equivalent other) (context : Context) (env : Env)
    (arg : Option Arg) : caller.fire context env arg = other.fire context env arg := by
  rw [fire_eq, fire_eq, same.firingOrder]

theorem Holds.merge_assoc {third : TriggerCaller m Context Env Arg} {last : List (Trigger m Context Env Arg)}
    (holds : caller.Holds history) (others : other.Holds later) (thirds : third.Holds last) :
    ((caller.merge other).merge third).Equivalent (caller.merge (other.merge third)) := by
  intro priority
  rw [(holds.merge others).merge thirds priority, holds.merge (others.merge thirds) priority, List.append_assoc]

end TriggerCaller

/-- How triggers compose, whatever calls have built the callers. -/
structure ComposesTriggers [Monad m] (build : TriggerBuild m Context Env Arg) : Prop where
  /-- Firing runs what was added, in order and each once. -/
  fires : ∃ fired, FiresInOrder build.history fired ∧ ∀ context env arg, build.run.fire context env arg =
    fired.foldlM (fun env trigger => trigger.action context env arg) env
  /-- Merging a caller is appending its triggers in its firing order. -/
  merges : ∀ other : TriggerBuild m Context Env Arg,
    (build.run.merge other.run).Equivalent (other.run.firingOrder.foldl TriggerCaller.append build.run) ∧
      ∀ context env arg, (build.run.merge other.run).fire context env arg =
        (other.run.firingOrder.foldl TriggerCaller.append build.run).fire context env arg
  /-- Merging is associative. -/
  associates : ∀ second third : TriggerBuild m Context Env Arg,
    ((build.run.merge second.run).merge third.run).Equivalent (build.run.merge (second.run.merge third.run)) ∧
      ∀ context env arg, ((build.run.merge second.run).merge third.run).fire context env arg =
        (build.run.merge (second.run.merge third.run)).fire context env arg

/-- Triggers compose: each is fired once and in order, and merging is appending. -/
theorem trigger_composition [Monad m] [LawfulMonad m] (build : TriggerBuild m Context Env Arg) :
    ComposesTriggers build where
  fires := ⟨_, (TriggerCaller.holds_run build).firesInOrder, TriggerCaller.fire_eq build.run⟩
  merges other :=
    have same := (TriggerCaller.holds_run build).merge_equivalent (TriggerCaller.holds_run other)
    ⟨same, same.fire⟩
  associates second third :=
    have same := (TriggerCaller.holds_run build).merge_assoc (TriggerCaller.holds_run second)
      (TriggerCaller.holds_run third)
    ⟨same, same.fire⟩

/-- A caller whose second trigger replaces the first, and whose third comes before both. -/
theorem trigger_composition_replaced : ComposesTriggers (m := Id)
    (.append (.merge (.create [⟨10000, "a", fun _ env _ => env + 1⟩]) (.create [⟨10000, "a", fun _ env _ => env * 2⟩]))
      (⟨0, "b", fun _ env _ => env + 3⟩ : Trigger Id Unit Nat Unit)) :=
  trigger_composition _

end Sammo
