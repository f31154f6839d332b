import Mathlib.Data.List.Nodup
import Mathlib.Data.List.Perm.Subperm
import Mathlib.Logic.Relation

/-! A search through a graph with one growing queue, whose nodes may turn out to be missing. -/

namespace Flood

variable {α ε : Type*}

/-- An edge of a graph that is given by its neighbours. -/
def Edge (neighbours : α → Except ε (List α)) (node next : α) : Prop := ∃ found, neighbours node = .ok found ∧ next ∈ found

/-- A node that some edges lead to from one of the seeds. -/
def Reached (neighbours : α → Except ε (List α)) (seeds : List α) (node : α) : Prop :=
  ∃ seed ∈ seeds, Relation.ReflTransGen (Edge neighbours) seed node

variable {neighbours : α → Except ε (List α)} {queue seeds found : List α} {cursor fuel : Nat}

/-- How far a search has come: what is queued was reached, and what has been visited leads nowhere else. -/
structure Visited (neighbours : α → Except ε (List α)) (seeds : List α) (cursor : Nat) (queue : List α) : Prop where
  nodup : queue.Nodup
  seeded : ∀ seed ∈ seeds, seed ∈ queue
  reached : ∀ node ∈ queue, Reached neighbours seeds node
  visited : ∀ index < cursor, ∀ node, queue[index]? = some node →
    ∃ found, neighbours node = .ok found ∧ ∀ next ∈ found, next ∈ queue

theorem Visited.initial (nodup : seeds.Nodup) : Visited neighbours seeds 0 seeds where
  nodup := nodup
  seeded _ member := member
  reached node member := ⟨node, member, .refl⟩
  visited index before := absurd before (Nat.not_lt_zero index)

theorem Visited.complete (held : Visited neighbours seeds cursor queue) (all : queue.length ≤ cursor) :
    (∀ node, node ∈ queue ↔ Reached neighbours seeds node) ∧ ∀ node ∈ queue, ∃ found, neighbours node = .ok found := by
  have visited : ∀ node ∈ queue, ∃ found, neighbours node = .ok found ∧ ∀ next ∈ found, next ∈ queue := by
    intro node member
    obtain ⟨index, inside, at_⟩ := List.getElem_of_mem member
    exact held.visited index (by omega) node (List.getElem?_eq_some_iff.mpr ⟨inside, at_⟩)
  refine ⟨fun node => ⟨held.reached node, ?_⟩, fun node member => ?_⟩
  · rintro ⟨seed, seedMember, path⟩
    induction path with
    | refl => exact held.seeded seed seedMember
    | tail _ edge ih =>
      obtain ⟨found, known, among⟩ := edge
      obtain ⟨found_, known_, all_⟩ := visited _ ih
      rw [known] at known_
      cases known_
      exact all_ _ among
  · obtain ⟨found, known, -⟩ := visited node member
    exact ⟨found, known⟩

variable [DecidableEq α]

/-- Appends what is found to the queue, except for what has been queued before. -/
def discover (queue : List α) (found : List α) : List α :=
  found.foldl (fun queue node => if node ∈ queue then queue else queue ++ [node]) queue

/-- Visits the queue from a cursor on, as far as the fuel lasts. -/
def flood (neighbours : α → Except ε (List α)) : (fuel cursor : Nat) → (queue : List α) → Except ε (List α)
  | 0, _, queue => .ok queue
  | fuel + 1, cursor, queue =>
    match queue[cursor]? with
    | none => .ok queue
    | some current =>
      match neighbours current with
      | .error missing => .error missing
      | .ok found => flood neighbours fuel (cursor + 1) (discover queue found)

theorem discover_spec (queue found : List α) :
    queue <+: discover queue found ∧ ∀ node, node ∈ discover queue found ↔ node ∈ queue ∨ node ∈ found := by
  induction found generalizing queue with
  | nil => exact ⟨List.prefix_refl queue, by simp [discover]⟩
  | cons first rest ih =>
    have later : discover queue (first :: rest) = discover (if first ∈ queue then queue else queue ++ [first]) rest := rfl
    rw [later]
    split
    · rename_i queued
      refine ⟨(ih queue).1, fun node => ?_⟩
      rw [(ih queue).2, List.mem_cons]
      constructor
      · rintro (old | new)
        · exact .inl old
        · exact .inr (.inr new)
      · rintro (old | rfl | new)
        · exact .inl old
        · exact .inl queued
        · exact .inr new
    · refine ⟨(List.prefix_append queue [first]).trans (ih (queue ++ [first])).1, fun node => ?_⟩
      rw [(ih (queue ++ [first])).2, List.mem_append, List.mem_singleton, List.mem_cons, or_assoc]

theorem discover_nodup (nodup : queue.Nodup) (found : List α) : (discover queue found).Nodup := by
  induction found generalizing queue with
  | nil => exact nodup
  | cons first rest ih =>
    show (discover (if first ∈ queue then queue else queue ++ [first]) rest).Nodup
    split
    · exact ih nodup
    · rename_i new
      refine ih (List.nodup_append.mpr ⟨nodup, List.nodup_singleton first, ?_⟩)
      rintro node old other last rfl
      rw [List.mem_singleton] at last
      exact new (last ▸ old)

theorem Visited.step (held : Visited neighbours seeds cursor queue) {current : α} (next : queue[cursor]? = some current)
    (known : neighbours current = .ok found) : Visited neighbours seeds (cursor + 1) (discover queue found) := by
  obtain ⟨kept, queued⟩ := discover_spec queue found
  have member : current ∈ queue := List.mem_of_getElem? next
  refine ⟨discover_nodup held.nodup found, fun seed seedMember => (queued seed).mpr (.inl (held.seeded seed seedMember)),
    fun node among => ?_, fun index before node at_ => ?_⟩
  · rcases (queued node).mp among with old | new
    · exact held.reached node old
    · obtain ⟨seed, seedMember, path⟩ := held.reached current member
      exact ⟨seed, seedMember, path.tail ⟨found, known, new⟩⟩
  · -- The queue has only grown at its end.
    have inside : index < queue.length := by
      obtain ⟨bound, -⟩ := List.getElem?_eq_some_iff.mp next
      omega
    have same : queue[index]? = some node := by
      obtain ⟨more, rfl_⟩ := kept
      rw [← rfl_, List.getElem?_append_left inside] at at_
      exact at_
    rcases Nat.lt_succ_iff_lt_or_eq.mp before with earlier | rfl
    · obtain ⟨old, oldKnown, all⟩ := held.visited index earlier node same
      exact ⟨old, oldKnown, fun other among => (queued other).mpr (.inl (all other among))⟩
    · rw [next] at same
      cases same
      exact ⟨found, known, fun other among => (queued other).mpr (.inr among)⟩

/--
A search inside a domain, with as much fuel as the domain has nodes left to visit.

It ends with all that can be reached, or at a node that can be reached and is missing.
-/
theorem Visited.flood {domain : List α} (closed : ∀ node, Reached neighbours seeds node → node ∈ domain)
    (held : Visited neighbours seeds cursor queue) (fuel_ : domain.length ≤ fuel + cursor) :
    (∀ final, flood neighbours fuel cursor queue = .ok final →
      (∀ node, node ∈ final ↔ Reached neighbours seeds node) ∧ ∀ node ∈ final, ∃ found, neighbours node = .ok found) ∧
    ∀ missing, flood neighbours fuel cursor queue = .error missing →
      ∃ node, Reached neighbours seeds node ∧ neighbours node = .error missing := by
  induction fuel generalizing cursor queue with
  | zero =>
    -- A queue without repetitions is no longer than the domain.
    have bound : queue.length ≤ domain.length :=
      (held.nodup.subperm fun node member => closed node (held.reached node member)).length_le
    refine ⟨fun final done => ?_, fun missing failed => by cases failed⟩
    cases done
    exact held.complete (by omega)
  | succ fuel ih =>
    rw [Flood.flood]
    cases next : queue[cursor]? with
    | none =>
      refine ⟨fun final done => ?_, fun missing failed => by cases failed⟩
      cases done
      exact held.complete (List.getElem?_eq_none_iff.mp next)
    | some current =>
      cases known : neighbours current with
      | error missing =>
        refine ⟨fun final done => by simp [known] at done, fun missing_ failed => ?_⟩
        simp only [known] at failed
        cases failed
        exact ⟨current, held.reached current (List.mem_of_getElem? next), known⟩
      | ok found =>
        simp only [known]
        exact ih (held.step next known) (by omega)

end Flood
