import Mathlib.Data.ENat.Lattice
import Mathlib.Data.List.Nodup
import Mathlib.Data.List.Perm.Subperm

/-! Distances in a graph, and the search that finds them level by level. -/

namespace Breadth

variable {α : Type*} {neighbours : α → List α} {expands : ℕ → Bool} {start node goal : α} {length : ℕ}

/-- A walk of some length from a start, in a graph that is given by its neighbours. -/
inductive Walk (neighbours : α → List α) (start : α) : ℕ → α → Prop
  | stay : Walk neighbours start 0 start
  | go {length : ℕ} {node next : α} : Walk neighbours start length node → next ∈ neighbours node →
      Walk neighbours start (length + 1) next

theorem Walk.mono {more : α → List α} (fewer : ∀ node, ∀ next ∈ neighbours node, next ∈ more node)
    (walk : Walk neighbours start length node) : Walk more start length node := by
  induction walk with
  | stay => exact .stay
  | go _ step ih => exact ih.go (fewer _ _ step)

/-- The length of a shortest walk; there may be none. -/
noncomputable def distance (neighbours : α → List α) (start node : α) : ℕ∞ :=
  ⨅ length : { length : ℕ // Walk neighbours start length node }, (length : ℕ∞)

theorem distance_le (walk : Walk neighbours start length node) : distance neighbours start node ≤ length :=
  iInf_le (fun length : { length : ℕ // Walk neighbours start length node } => (length : ℕ∞)) ⟨length, walk⟩

theorem distance_eq_top : distance neighbours start node = ⊤ ↔ ∀ length, ¬ Walk neighbours start length node := by
  rw [distance, ENat.iInf_natCast_eq_top, isEmpty_subtype]

theorem distance_eq_coe : distance neighbours start node = length ↔
    Walk neighbours start length node ∧ ∀ other, Walk neighbours start other node → length ≤ other := by
  constructor
  · intro known
    -- There is a walk, for the distance is finite, and a shortest one by the order of the naturals.
    have some_ : ∃ other, Walk neighbours start other node := by
      by_contra none_
      rw [distance_eq_top.mpr (not_exists.mp none_)] at known
      exact ENat.top_ne_natCast length known
    classical
    have shortest : distance neighbours start node = (Nat.find some_ : ℕ) :=
      le_antisymm (distance_le (Nat.find_spec some_))
        (le_iInf fun other => Nat.cast_le.mpr (Nat.find_min' some_ other.2))
    obtain rfl : Nat.find some_ = length := Nat.cast_inj.mp (shortest.symm.trans known)
    exact ⟨Nat.find_spec some_, fun other walk => Nat.find_min' some_ walk⟩
  · rintro ⟨walk, least⟩
    exact le_antisymm (distance_le walk) (le_iInf fun other => Nat.cast_le.mpr (least other other.2))

@[simp] theorem distance_self (neighbours : α → List α) (start : α) : distance neighbours start start = 0 :=
  distance_eq_coe.mpr ⟨.stay, fun _ _ => Nat.zero_le _⟩

theorem eq_of_distance_eq_zero (none_ : distance neighbours start node = (0 : ℕ)) : node = start := by
  cases (distance_eq_coe.mp none_).1
  rfl

theorem distance_congr {others : α → List α}
    (same : ∀ length, Walk neighbours start length node ↔ Walk others start length node) :
    distance neighbours start node = distance others start node := by
  cases known : distance others start node with
  | top => exact distance_eq_top.mpr fun length walk => distance_eq_top.mp known length ((same length).mp walk)
  | coe length =>
    obtain ⟨walk, least⟩ := distance_eq_coe.mp known
    exact distance_eq_coe.mpr ⟨(same length).mpr walk, fun other walk_ => least other ((same other).mp walk_)⟩

/-! ### The search -/

section Search

variable [DecidableEq α]

/-- Queues what has been found, one farther than where it was found, unless it was listed before. -/
def discover (popped queue : List (α × ℕ)) (dist : ℕ) (found : List α) : List (α × ℕ) :=
  found.foldl (fun queue next =>
    if next ∈ (popped ++ queue).map Prod.fst then queue else queue ++ [(next, dist + 1)]) queue

/-- Searches from a queue on, as far as the fuel lasts: what has been popped, with its distance, in that order. -/
def search (neighbours : α → List α) (expands : ℕ → Bool) : (fuel : ℕ) → (popped queue : List (α × ℕ)) → List (α × ℕ)
  | 0, popped, _ => popped
  | _ + 1, popped, [] => popped
  | fuel + 1, popped, (current, dist) :: queue =>
    let found := if expands dist then neighbours current else []
    search neighbours expands fuel (popped ++ [(current, dist)])
      (discover (popped ++ [(current, dist)]) queue dist found)

/-- Searches from a queue on for a goal, and stops at the first node that it is next to. -/
def seek (neighbours : α → List α) (goal : α) : (fuel : ℕ) → (popped queue : List (α × ℕ)) → ℕ∞
  | 0, _, _ => ⊤
  | _ + 1, _, [] => ⊤
  | fuel + 1, popped, (current, dist) :: queue =>
    if goal ∈ neighbours current then (dist + 1 : ℕ)
    else seek neighbours goal fuel (popped ++ [(current, dist)])
      (discover (popped ++ [(current, dist)]) queue dist (neighbours current))

theorem discover_spec (popped queue : List (α × ℕ)) (dist : ℕ) (found : List α)
    (nodup : ((popped ++ queue).map Prod.fst).Nodup) :
    ∃ new, discover popped queue dist found = queue ++ new ∧ ((popped ++ (queue ++ new)).map Prod.fst).Nodup ∧
      (∀ entry ∈ new, entry.1 ∈ found ∧ entry.2 = dist + 1) ∧
      ∀ next ∈ found, next ∈ (popped ++ (queue ++ new)).map Prod.fst := by
  induction found generalizing queue with
  | nil => exact ⟨[], by simp [discover], by simpa using nodup, by simp, by simp⟩
  | cons first rest ih =>
    have later : discover popped queue dist (first :: rest) =
      discover popped (if first ∈ (popped ++ queue).map Prod.fst then queue else queue ++ [(first, dist + 1)])
        dist rest := rfl
    rw [later]
    split
    · -- What was listed before is passed over.
      rename_i listed
      obtain ⟨new, queued, nodup_, found_, all⟩ := ih queue nodup
      refine ⟨new, queued, nodup_, fun entry member => ⟨List.mem_cons_of_mem first (found_ entry member).1,
        (found_ entry member).2⟩, fun next member => ?_⟩
      rcases List.mem_cons.mp member with rfl | later
      · rw [← List.append_assoc, List.map_append]
        exact List.mem_append_left _ listed
      · exact all next later
    · rename_i fresh
      have distinct : ((popped ++ (queue ++ [(first, dist + 1)])).map Prod.fst).Nodup := by
        rw [← List.append_assoc, List.map_append, List.map_singleton]
        exact List.nodup_append.mpr ⟨nodup, List.nodup_singleton first, by
          rintro old member other last rfl
          rw [List.mem_singleton.mp last] at member
          exact fresh member⟩
      obtain ⟨new, queued, nodup_, found_, all⟩ := ih (queue ++ [(first, dist + 1)]) distinct
      refine ⟨(first, dist + 1) :: new, by rw [queued]; simp, by simpa using nodup_, fun entry member => ?_,
        fun next member => ?_⟩
      · rcases List.mem_cons.mp member with rfl | later
        · exact ⟨List.mem_cons_self, rfl⟩
        · exact ⟨List.mem_cons_of_mem first (found_ entry later).1, (found_ entry later).2⟩
      · rcases List.mem_cons.mp member with rfl | later
        · simp
        · simpa using all next later

end Search

/--
How far a search has come.

What is listed is in the order of its distance, and the queue spans two levels at most.
-/
structure Searched (neighbours : α → List α) (expands : ℕ → Bool) (start : α) (popped queue : List (α × ℕ)) :
    Prop where
  nodup : ((popped ++ queue).map Prod.fst).Nodup
  started : (start, 0) ∈ popped ++ queue
  sound : ∀ entry ∈ popped ++ queue,
    Walk neighbours start entry.2 entry.1 ∧ ∀ shorter < entry.2, expands shorter = true
  ordered : (popped ++ queue).Pairwise fun earlier later => earlier.2 ≤ later.2
  span : ∀ first rest, queue = first :: rest → ∀ entry ∈ popped ++ queue, entry.2 ≤ first.2 + 1
  closed : ∀ entry ∈ popped, expands entry.2 = true →
    ∀ next ∈ neighbours entry.1, ∃ dist ≤ entry.2 + 1, (next, dist) ∈ popped ++ queue

theorem Searched.initial (neighbours : α → List α) (expands : ℕ → Bool) (start : α) :
    Searched neighbours expands start [] [(start, 0)] where
  nodup := List.nodup_singleton start
  started := List.mem_singleton.mpr rfl
  sound entry member := by
    obtain rfl := List.mem_singleton.mp member
    exact ⟨.stay, fun shorter below => absurd below (Nat.not_lt_zero shorter)⟩
  ordered := List.pairwise_singleton _ _
  span first rest shape entry member := by
    obtain rfl := List.mem_singleton.mp member
    exact Nat.zero_le _
  closed entry member := absurd member List.not_mem_nil

namespace Searched

variable {popped queue : List (α × ℕ)}

theorem unique (held : Searched neighbours expands start popped queue) {dist other : ℕ}
    (one : (node, dist) ∈ popped ++ queue) (two : (node, other) ∈ popped ++ queue) : dist = other :=
  congrArg Prod.snd (List.inj_on_of_nodup_map held.nodup one two rfl)

theorem frontier (held : Searched neighbours expands start popped queue) (walk : Walk neighbours start length node)
    (allowed : ∀ shorter < length, expands shorter = true) :
    (∃ dist ≤ length, (node, dist) ∈ popped ++ queue) ∨ ∃ entry ∈ queue, entry.2 < length := by
  induction walk with
  | stay => exact .inl ⟨0, Nat.le_refl 0, held.started⟩
  | @go length node next walk step ih =>
    rcases ih fun shorter below => allowed shorter (by omega) with ⟨dist, near, listed⟩ | ⟨entry, queued, near⟩
    · rcases List.mem_append.mp listed with visited | queued
      · -- The neighbours of what has been popped are listed.
        obtain ⟨dist_, near_, listed_⟩ := held.closed _ visited (allowed dist (by omega)) next step
        exact .inl ⟨dist_, by simp only at near_; omega, listed_⟩
      · exact .inr ⟨_, queued, by simp only; omega⟩
    · exact .inr ⟨entry, queued, by omega⟩

theorem head_le {head : α × ℕ} {rest : List (α × ℕ)} (held : Searched neighbours expands start popped (head :: rest))
    {entry : α × ℕ} (queued : entry ∈ head :: rest) : head.2 ≤ entry.2 := by
  rcases List.mem_cons.mp queued with rfl | later
  · exact Nat.le_refl _
  · exact List.rel_of_pairwise_cons (List.pairwise_append.mp held.ordered).2.1 later

theorem exact_ (held : Searched neighbours expands start popped queue) {dist : ℕ}
    (listed : (node, dist) ∈ popped ++ queue) :
    distance neighbours start node = dist := by
  obtain ⟨walk, allowed⟩ := held.sound _ listed
  refine distance_eq_coe.mpr ⟨walk, fun other walk_ => ?_⟩
  by_contra shorter
  simp only [not_le] at shorter
  rcases held.frontier walk_ fun nearer below => allowed nearer (by simp only; omega) with
    ⟨dist_, near, listed_⟩ | ⟨entry, queued, near⟩
  · have same := held.unique listed listed_
    omega
  · -- The queue begins no later than at this entry, and nothing listed is more than one farther than its head.
    cases queue with
    | nil => exact absurd queued List.not_mem_nil
    | cons first rest =>
      have spanned := held.span first rest rfl _ listed
      have least := held.head_le queued
      simp only at spanned
      omega

theorem complete (held : Searched neighbours expands start popped []) (dist : ℕ) :
    (node, dist) ∈ popped ↔ distance neighbours start node = dist ∧ ∀ shorter < dist, expands shorter = true := by
  have all : popped ++ [] = popped := List.append_nil popped
  constructor
  · intro listed
    rw [← all] at listed
    exact ⟨held.exact_ listed, (held.sound _ listed).2⟩
  · rintro ⟨known, allowed⟩
    rcases held.frontier (distance_eq_coe.mp known).1 allowed with ⟨other, -, listed⟩ | ⟨entry, queued, -⟩
    · have same := held.exact_ listed
      rw [known, Nat.cast_inj] at same
      rw [all, ← same] at listed
      exact listed
    · exact absurd queued List.not_mem_nil

theorem length_le (held : Searched neighbours expands start popped queue) {domain : List α}
    (inside : ∀ length node, Walk neighbours start length node → node ∈ domain) :
    popped.length + queue.length ≤ domain.length := by
  have among : ∀ node ∈ (popped ++ queue).map Prod.fst, node ∈ domain := by
    rintro _ member
    obtain ⟨entry, listed, rfl⟩ := List.mem_map.mp member
    exact inside _ _ (held.sound entry listed).1
  simpa using (held.nodup.subperm among).length_le

theorem ahead (held : Searched neighbours (fun _ => true) start popped queue)
    (unlisted : goal ∉ (popped ++ queue).map Prod.fst) (walk : Walk neighbours start length goal) :
    ∃ entry ∈ queue, entry.2 < length := by
  rcases held.frontier walk fun _ _ => rfl with ⟨dist, -, listed⟩ | near
  · exact absurd (List.mem_map_of_mem listed) unlisted
  · exact near

theorem out_of_reach (held : Searched neighbours (fun _ => true) start popped [])
    (unlisted : goal ∉ (popped ++ []).map Prod.fst) : distance neighbours start goal = ⊤ := by
  refine distance_eq_top.mpr fun length walk => ?_
  obtain ⟨entry, queued, -⟩ := held.ahead unlisted walk
  exact List.not_mem_nil queued

variable [DecidableEq α] {current : α} {dist : ℕ} {rest : List (α × ℕ)}

theorem step (held : Searched neighbours expands start popped ((current, dist) :: rest)) :
    Searched neighbours expands start (popped ++ [(current, dist)])
      (discover (popped ++ [(current, dist)]) rest dist (if expands dist then neighbours current else [])) := by
  have joined : popped ++ (current, dist) :: rest = popped ++ [(current, dist)] ++ rest := by simp
  have here : (current, dist) ∈ popped ++ [(current, dist)] ++ rest := by simp
  obtain ⟨nodup, started, sound, ordered, span, closed⟩ := held
  have spanned := span (current, dist) rest rfl
  rw [joined] at nodup started sound ordered spanned closed
  obtain ⟨new, queued, distinct, found, all⟩ :=
    discover_spec (popped ++ [(current, dist)]) rest dist (if expands dist then neighbours current else []) nodup
  rw [queued]
  have longer : ∀ entry, entry ∈ popped ++ [(current, dist)] ++ (rest ++ new) ↔
      entry ∈ popped ++ [(current, dist)] ++ rest ∨ entry ∈ new := fun entry => by
    rw [← List.append_assoc, List.mem_append]
  -- Everything is at most one farther than what was popped last, and what is queued is at least as far.
  have far : ∀ entry ∈ popped ++ [(current, dist)] ++ (rest ++ new), entry.2 ≤ dist + 1 := fun entry member => by
    rcases (longer entry).mp member with old | fresh
    · exact spanned entry old
    · exact (found entry fresh).2.le
  have near : ∀ entry ∈ rest ++ new, dist ≤ entry.2 := fun entry member => by
    rcases List.mem_append.mp member with old | fresh
    · exact (List.pairwise_append.mp ordered).2.2 (current, dist) (by simp) entry old
    · have next := (found entry fresh).2
      omega
  refine ⟨distinct, (longer _).mpr (.inl started), fun entry member => ?_, ?_,
    fun first others shape entry member => ?_, fun entry member open_ next among => ?_⟩
  · rcases (longer entry).mp member with old | fresh
    · exact sound entry old
    · obtain ⟨among, next⟩ := found entry fresh
      obtain ⟨walk, allowed⟩ := sound _ here
      split at among
      · rename_i open_
        rw [next]
        refine ⟨walk.go among, fun shorter below => ?_⟩
        rcases Nat.lt_succ_iff_lt_or_eq.mp below with before | rfl
        · exact allowed shorter before
        · exact open_
      · exact absurd among List.not_mem_nil
  · rw [← List.append_assoc, List.pairwise_append]
    refine ⟨ordered, ?_, fun entry old other fresh => ?_⟩
    · exact List.pairwise_of_forall_mem_list fun one member two member_ => by
        rw [(found one member).2, (found two member_).2]
    · rw [(found other fresh).2]
      exact spanned entry old
  · have first_ := near first (shape ▸ List.mem_cons_self)
    have last := far entry member
    omega
  · rcases List.mem_append.mp member with old | last
    · obtain ⟨dist_, near_, listed⟩ := closed entry old open_ next among
      exact ⟨dist_, near_, (longer _).mpr (.inl listed)⟩
    · obtain rfl := List.mem_singleton.mp last
      obtain ⟨entry, listed, rfl⟩ := List.mem_map.mp (all next (by rw [if_pos open_]; exact among))
      exact ⟨entry.2, far entry listed, listed⟩

theorem search_ends {queue : List (α × ℕ)} {fuel : ℕ} (held : Searched neighbours expands start popped queue)
    {domain : List α} (inside : ∀ length node, Walk neighbours start length node → node ∈ domain)
    (enough : domain.length ≤ fuel + popped.length) :
    Searched neighbours expands start (search neighbours expands fuel popped queue) [] := by
  induction fuel generalizing popped queue with
  | zero =>
    -- As many nodes were popped as there are, so none is left in the queue.
    have bound := held.length_le inside
    obtain rfl : queue = [] := List.eq_nil_of_length_eq_zero (by omega)
    exact held
  | succ fuel ih =>
    cases queue with
    | nil => exact held
    | cons head rest => exact ih held.step (by simp only [List.length_append, List.length_singleton]; omega)

theorem seek_eq {queue : List (α × ℕ)} {fuel : ℕ} (held : Searched neighbours (fun _ => true) start popped queue)
    {domain : List α} (inside : ∀ length node, Walk neighbours start length node → node ∈ domain)
    (enough : domain.length ≤ fuel + popped.length) (unlisted : goal ∉ (popped ++ queue).map Prod.fst) :
    seek neighbours goal fuel popped queue = distance neighbours start goal := by
  induction fuel generalizing popped queue with
  | zero =>
    have bound := held.length_le inside
    obtain rfl : queue = [] := List.eq_nil_of_length_eq_zero (by omega)
    exact (held.out_of_reach unlisted).symm
  | succ fuel ih =>
    cases queue with
    | nil => exact (held.out_of_reach unlisted).symm
    | cons head rest =>
      rw [seek]
      split
      · -- The goal is next to the head of the queue, and nothing that is queued is nearer than the head.
        rename_i next
        obtain ⟨walk, -⟩ := held.sound head (by simp)
        refine (distance_eq_coe.mpr ⟨walk.go next, fun other walk_ => ?_⟩).symm
        obtain ⟨entry, queued, near⟩ := held.ahead unlisted walk_
        have least := held.head_le queued
        omega
      · rename_i apart
        have later := held.step
        rw [if_pos rfl] at later
        refine ih later (by simp only [List.length_append, List.length_singleton]; omega) fun listed => ?_
        -- What is listed now was listed before or is next to the head.
        have joined : popped ++ head :: rest = popped ++ [head] ++ rest := by simp
        have nodup := held.nodup
        rw [joined] at nodup unlisted
        obtain ⟨new, queued, -, found, -⟩ := discover_spec (popped ++ [head]) rest head.2 (neighbours head.1) nodup
        rw [queued, ← List.append_assoc, List.map_append] at listed
        rcases List.mem_append.mp listed with old | fresh
        · exact unlisted old
        · obtain ⟨entry, member, rfl⟩ := List.mem_map.mp fresh
          exact apart (found entry member).1

end Searched

theorem search_spec [DecidableEq α] (expands : ℕ → Bool) {domain : List α} {fuel : ℕ}
    (inside : ∀ length node, Walk neighbours start length node → node ∈ domain) (enough : domain.length ≤ fuel) :
    ((search neighbours expands fuel [] [(start, 0)]).map Prod.fst).Nodup ∧
    (search neighbours expands fuel [] [(start, 0)]).Pairwise (fun earlier later => earlier.2 ≤ later.2) ∧
    ∀ node dist, (node, dist) ∈ search neighbours expands fuel [] [(start, 0)] ↔
      distance neighbours start node = dist ∧ ∀ shorter < dist, expands shorter = true := by
  have held := (Searched.initial neighbours expands start).search_ends inside enough
  refine ⟨?_, ?_, fun node dist => held.complete dist⟩
  · simpa using held.nodup
  · simpa using held.ordered

theorem seek_spec [DecidableEq α] {domain : List α} {fuel : ℕ}
    (inside : ∀ length node, Walk neighbours start length node → node ∈ domain) (enough : domain.length ≤ fuel)
    (apart : start ≠ goal) : seek neighbours goal fuel [] [(start, 0)] = distance neighbours start goal :=
  (Searched.initial neighbours (fun _ => true) start).seek_eq inside enough
    (by simpa using fun same : goal = start => apart same.symm)

end Breadth
