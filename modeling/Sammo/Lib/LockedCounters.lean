import Mathlib.Data.List.Basic
import Mathlib.Logic.Function.Basic

/-! Counters that transactions raise under locks, and that no two of them raise to the same value. -/

/-- Counters, who has locked them, what the open transactions have raised, and what has been committed. -/
structure LockedCounters (κ τ : Type*) where
  committed : κ → Nat
  holder : κ → Option τ
  drafts : τ → List (κ × Nat)
  log : List (κ × Nat)

namespace LockedCounters

variable {κ τ : Type*} [DecidableEq κ]

/-- The values of one counter among some entries, in their order. -/
def valuesOf (entries : List (κ × Nat)) (key : κ) : List Nat :=
  (entries.filter fun entry => entry.1 = key).map Prod.snd

theorem valuesOf_append (first second : List (κ × Nat)) (key : κ) :
    valuesOf (first ++ second) key = valuesOf first key ++ valuesOf second key := by
  simp [valuesOf]

theorem valuesOf_singleton (entry : κ × Nat) (key : κ) :
    valuesOf [entry] key = if entry.1 = key then [entry.2] else [] := by
  by_cases same : entry.1 = key <;> simp [valuesOf, same]

/-- No counter has been raised. -/
def opening : LockedCounters κ τ := ⟨fun _ => 0, fun _ => none, fun _ => [], []⟩

/-- The value of a counter as a transaction sees it: its own last one, or the committed one. -/
def seen (counters : LockedCounters κ τ) (transaction : τ) (key : κ) : Nat :=
  (valuesOf (counters.drafts transaction) key).getLast?.getD (counters.committed key)

/-- What has been committed counts up from one, and so does what is on its way, under locks. -/
structure Serial (counters : LockedCounters κ τ) : Prop where
  logged : ∀ key, valuesOf counters.log key = List.range' 1 (counters.committed key)
  drafted : ∀ transaction key, ∃ count,
    valuesOf (counters.drafts transaction) key = List.range' (counters.committed key + 1) count
  locked : ∀ transaction key, valuesOf (counters.drafts transaction) key ≠ [] →
    counters.holder key = some transaction

variable {counters : LockedCounters κ τ}

theorem serial_opening : (opening : LockedCounters κ τ).Serial where
  logged := fun _ => rfl
  drafted := fun _ _ => ⟨0, rfl⟩
  locked := fun _ _ drafted => absurd rfl drafted

theorem getLast_range' (start count : Nat) : (List.range' (start + 1) count).getLast?.getD start = start + count := by
  cases count with
  | zero => rfl
  | succ count =>
    rw [List.range'_concat, List.getLast?_concat]
    simp only [Option.getD_some, Nat.one_mul]
    omega

theorem Serial.seen_eq {transaction : τ} {key : κ} {count : Nat}
    (drafted : valuesOf (counters.drafts transaction) key = List.range' (counters.committed key + 1) count) :
    counters.seen transaction key = counters.committed key + count := by
  rw [seen, drafted, getLast_range']

variable [DecidableEq τ]

/-- Raises a counter by one, unless another transaction has locked it. -/
def raise (counters : LockedCounters κ τ) (transaction : τ) (key : κ) : Option (LockedCounters κ τ × Nat) :=
  if counters.holder key = none ∨ counters.holder key = some transaction then
    let value := counters.seen transaction key + 1
    some ({ counters with
      holder := Function.update counters.holder key (some transaction)
      drafts := Function.update counters.drafts transaction (counters.drafts transaction ++ [(key, value)]) }, value)
  else none

/-- The locks once a transaction has given up its own. -/
def unlocked (counters : LockedCounters κ τ) (transaction : τ) (key : κ) : Option τ :=
  if counters.holder key = some transaction then none else counters.holder key

/-- Makes what a transaction has raised the state of the counters. -/
def commit (counters : LockedCounters κ τ) (transaction : τ) : LockedCounters κ τ where
  committed := counters.seen transaction
  holder := counters.unlocked transaction
  drafts := Function.update counters.drafts transaction []
  log := counters.log ++ counters.drafts transaction

/-- Forgets what a transaction has raised. -/
def rollback (counters : LockedCounters κ τ) (transaction : τ) : LockedCounters κ τ :=
  { counters with
    holder := counters.unlocked transaction
    drafts := Function.update counters.drafts transaction [] }

theorem Serial.raise (serial : counters.Serial) {transaction : τ} {key : κ} {next : LockedCounters κ τ} {value : Nat}
    (raised : counters.raise transaction key = some (next, value)) : next.Serial := by
  unfold LockedCounters.raise at raised
  split at raised
  · rename_i free
    obtain ⟨rfl, rfl⟩ := Prod.mk.inj (Option.some.inj raised)
    constructor
    · exact serial.logged
    · intro other counter
      show ∃ count, valuesOf (Function.update counters.drafts transaction
        (counters.drafts transaction ++ [(key, counters.seen transaction key + 1)]) other) counter =
          List.range' (counters.committed counter + 1) count
      by_cases own : other = transaction
      · -- The new value comes right after those the transaction has raised before.
        subst own
        rw [Function.update_self, valuesOf_append, valuesOf_singleton]
        obtain ⟨count, drafted⟩ := serial.drafted other counter
        by_cases same : key = counter
        · subst same
          refine ⟨count + 1, ?_⟩
          rw [if_pos rfl, Serial.seen_eq drafted, drafted, List.range'_concat]
          congr 2
          omega
        · refine ⟨count, ?_⟩
          rw [if_neg same, List.append_nil]
          exact drafted
      · rw [Function.update_of_ne own]
        exact serial.drafted other counter
    · intro other counter raisedBefore
      show Function.update counters.holder key (some transaction) counter = some other
      have kept (differs : other ≠ transaction) : counters.holder counter = some other := by
        apply serial.locked other counter
        have unchanged : valuesOf (Function.update counters.drafts transaction
          (counters.drafts transaction ++ [(key, counters.seen transaction key + 1)]) other) counter ≠ [] := raisedBefore
        rw [Function.update_of_ne differs] at unchanged
        exact unchanged
      by_cases same : counter = key
      · -- The lock was free or the transaction's own, so no other transaction has raised the counter.
        subst same
        rw [Function.update_self]
        by_cases own : other = transaction
        · rw [own]
        · rw [kept own] at free
          rcases free with none | some
          · cases none
          · exact absurd (Option.some.inj some) own
      · rw [Function.update_of_ne same]
        by_cases own : other = transaction
        · subst own
          apply serial.locked other counter
          have elsewhere : valuesOf (Function.update counters.drafts other
            (counters.drafts other ++ [(key, counters.seen other key + 1)]) other) counter ≠ [] := raisedBefore
          rw [Function.update_self, valuesOf_append, valuesOf_singleton, if_neg (Ne.symm same),
            List.append_nil] at elsewhere
          exact elsewhere
        · exact kept own
  · cases raised

theorem Serial.others (serial : counters.Serial) (transaction other : τ) (key : κ)
    (raised : valuesOf (Function.update counters.drafts transaction [] other) key ≠ []) :
    other ≠ transaction ∧ counters.unlocked transaction key = some other := by
  by_cases own : other = transaction
  · subst own
    rw [Function.update_self] at raised
    exact absurd rfl raised
  · rw [Function.update_of_ne own] at raised
    have held := serial.locked other key raised
    refine ⟨own, ?_⟩
    rw [unlocked, held, if_neg]
    intro same
    exact own (Option.some.inj same)

theorem Serial.commit (serial : counters.Serial) (transaction : τ) : (counters.commit transaction).Serial where
  logged := by
    intro key
    show valuesOf (counters.log ++ counters.drafts transaction) key = List.range' 1 (counters.seen transaction key)
    obtain ⟨count, drafted⟩ := serial.drafted transaction key
    rw [valuesOf_append, serial.logged, drafted, Serial.seen_eq drafted, Nat.add_comm (counters.committed key) 1]
    exact List.range'_append_1
  drafted := by
    intro other key
    show ∃ count, valuesOf (Function.update counters.drafts transaction [] other) key =
      List.range' (counters.seen transaction key + 1) count
    by_cases raised : valuesOf (Function.update counters.drafts transaction [] other) key = []
    · exact ⟨0, raised⟩
    · -- The lock is another transaction's, so this one has not raised the counter.
      obtain ⟨own, held⟩ := serial.others transaction other key raised
      have idle : valuesOf (counters.drafts transaction) key = [] := by
        by_contra moved
        rw [unlocked, if_pos (serial.locked transaction key moved)] at held
        cases held
      rw [Function.update_of_ne own, seen, idle]
      exact serial.drafted other key
  locked := fun other key raised => (serial.others transaction other key raised).2

theorem Serial.rollback (serial : counters.Serial) (transaction : τ) : (counters.rollback transaction).Serial where
  logged := serial.logged
  drafted := by
    intro other key
    show ∃ count, valuesOf (Function.update counters.drafts transaction [] other) key =
      List.range' (counters.committed key + 1) count
    by_cases own : other = transaction
    · subst own
      rw [Function.update_self]
      exact ⟨0, rfl⟩
    · rw [Function.update_of_ne own]
      exact serial.drafted other key
  locked := fun other key raised => (serial.others transaction other key raised).2

end LockedCounters
