import Mathlib.Algebra.Ring.Nat
import Mathlib.Data.Stream.Init

/-! Streams that are laid out in blocks of one width, and the windows read from them. -/

namespace Stream'

variable {α : Type*} {width : Nat} [NeZero width]

/-- The stream that a sequence of blocks spells out. -/
def ofBlocks (blocks : Nat → Vector α width) : Stream' α := fun position =>
  (blocks (position / width)).get ⟨position % width, Nat.mod_lt _ (Nat.pos_of_neZero width)⟩

theorem take_drop_ofBlocks (blocks : Nat → Vector α width) {block start size : Nat}
    (inside : start + size ≤ width) :
    ((ofBlocks blocks).drop (width * block + start)).take size =
      ((blocks block).toList.drop start).take size := by
  -- Both windows are compared position by position.
  apply List.ext_getElem?
  intro position
  rcases Nat.lt_or_ge position size with within | beyond
  · have positive : 0 < width := Nat.pos_of_neZero width
    have quotient : (width * block + start + position) / width = block := by
      rw [Nat.add_assoc, Nat.mul_add_div positive, Nat.div_eq_of_lt (by omega), Nat.add_zero]
    have remainder : (width * block + start + position) % width = start + position := by
      rw [Nat.add_assoc, Nat.mul_add_mod, Nat.mod_eq_of_lt (by omega)]
    rw [getElem?_take within, List.getElem?_take_of_lt within, List.getElem?_drop, get_drop]
    -- The position falls into this block, at its distance from the block's start.
    have bounded : start + position < (blocks block).toList.length := by
      rw [Vector.length_toList]
      omega
    rw [List.getElem?_eq_getElem bounded]
    simp only [Stream'.get, ofBlocks, quotient, remainder]
    rfl
  · rw [List.getElem?_eq_none (by rw [length_take]; exact beyond),
      List.getElem?_eq_none (by rw [List.length_take]; omega)]

end Stream'
