import Mathlib.Logic.Function.Basic
import Mathlib.Data.List.Basic

/-! Tables in which holders list items until a deadline, and no item is lent to two at once. -/

/-- What a holder lists, and the last instant at which the list is good. -/
structure Listing (ι : Type*) where
  items : List ι
  deadline : Option Int

namespace Listing

variable {ι : Type*}

/-- A listing is good up to its deadline, that instant included; without a deadline it never is. -/
def ValidAt (listing : Listing ι) (instant : Int) : Prop :=
  ∃ deadline ∈ listing.deadline, instant ≤ deadline

theorem ValidAt.earlier {listing : Listing ι} {instant later : Int} (valid : listing.ValidAt later)
    (order : instant ≤ later) : listing.ValidAt instant := by
  obtain ⟨deadline, stated, reached⟩ := valid
  exact ⟨deadline, stated, Int.le_trans order reached⟩

end Listing

namespace Lending

variable {κ ι : Type*}

/-- No item is in the good listings of two holders. -/
def Exclusive (table : κ → Option (Listing ι)) (instant : Int) : Prop :=
  ∀ first second left right, table first = some left → table second = some right →
    left.ValidAt instant → right.ValidAt instant → ∀ item ∈ left.items, item ∈ right.items → first = second

theorem Exclusive.later {table : κ → Option (Listing ι)} {instant later : Int}
    (exclusive : Exclusive table instant) (order : instant ≤ later) : Exclusive table later := by
  -- Two listings that are good later are both good now.
  intro first second left right held other leftValid rightValid item listed shared
  exact exclusive first second left right held other (leftValid.earlier order) (rightValid.earlier order)
    item listed shared

theorem Exclusive.mono {table smaller : κ → Option (Listing ι)} {instant : Int}
    (exclusive : Exclusive table instant)
    (within : ∀ holder listing, smaller holder = some listing → table holder = some listing) :
    Exclusive smaller instant := by
  intro first second left right held other
  exact exclusive first second left right (within _ _ held) (within _ _ other)

theorem Exclusive.update [DecidableEq κ] {table : κ → Option (Listing ι)} {instant : Int}
    (exclusive : Exclusive table instant) (holder : κ) (listing : Listing ι)
    (avoids : ∀ other held, other ≠ holder → table other = some held → held.ValidAt instant →
      ∀ item ∈ listing.items, item ∉ held.items) :
    Exclusive (Function.update table holder (some listing)) instant := by
  intro first second left right held other leftValid rightValid item listed shared
  simp only [Function.update_apply] at held other
  by_cases leftNew : first = holder
  · by_cases rightNew : second = holder
    · exact leftNew.trans rightNew.symm
    · -- The new listing is on the left, and an older one is on the right.
      rw [if_pos leftNew, Option.some.injEq] at held
      rw [if_neg rightNew] at other
      subst held
      exact absurd shared (avoids second right rightNew other rightValid item listed)
  · rw [if_neg leftNew] at held
    by_cases rightNew : second = holder
    · -- The new listing is on the right, and an older one is on the left.
      rw [if_pos rightNew, Option.some.injEq] at other
      subst other
      exact absurd listed (avoids first left leftNew held leftValid item shared)
    · -- Both listings are older ones.
      rw [if_neg rightNew] at other
      exact exclusive first second left right held other leftValid rightValid item listed shared

end Lending
