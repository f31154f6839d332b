import Mathlib.Order.GaloisConnection.Basic
import Mathlib.Order.MinMax

/-! Two conversions between linear orders that are glued where the second one takes over from the first. -/

variable {α β : Type*} [LinearOrder α] [LinearOrder β]

/--
Two ways of reading a position off an instant, with the instant at which each position is first read.

The first way holds up to a last position, and the second one from the joint on.
-/
structure Seam (α β : Type*) [LinearOrder α] [LinearOrder β] where
  early : α → β
  late : α → β
  earlyAt : β → α
  lateAt : β → α
  joint : α
  last : β
  /-- Up to the last position the first way is read from the instant of a position on. -/
  early_reads : ∀ position ≤ last, ∀ instant, earlyAt position ≤ instant ↔ position ≤ early instant
  /-- Behind the last position so is the second one. -/
  late_reads : ∀ position, last < position → ∀ instant, joint ≤ instant →
    (lateAt position ≤ instant ↔ position ≤ late instant)
  /-- The joint is where the last position is first read. -/
  joint_eq : earlyAt last = joint
  /-- Nothing behind the last position is read before the joint. -/
  joint_le : ∀ position, last < position → joint ≤ lateAt position
  /-- From the joint on nothing before the last position is read. -/
  last_le : ∀ instant, joint ≤ instant → last ≤ late instant

namespace Seam

variable (seam : Seam α β)

/-- The position that is read at an instant. -/
def observe (instant : α) : β :=
  if seam.joint ≤ instant then seam.late instant else min seam.last (seam.early instant)

/-- The instant at which a position is first read. -/
def project (position : β) : α :=
  if seam.last < position then seam.lateAt position else seam.earlyAt position

theorem project_of_lt {position : β} (behind : seam.last < position) : seam.project position = seam.lateAt position :=
  if_pos behind

theorem project_of_le {position : β} (upTo : position ≤ seam.last) : seam.project position = seam.earlyAt position :=
  if_neg (not_lt_of_ge upTo)

theorem observe_of_le {instant : α} (joined : seam.joint ≤ instant) : seam.observe instant = seam.late instant :=
  if_pos joined

theorem observe_of_lt {instant : α} (before : instant < seam.joint) :
    seam.observe instant = min seam.last (seam.early instant) :=
  if_neg (not_le_of_gt before)

theorem gc : GaloisConnection seam.project seam.observe := by
  intro position instant
  rcases lt_or_ge seam.last position with behind | upTo
  · -- A position behind the last one is not read before the joint.
    rw [seam.project_of_lt behind]
    rcases le_or_gt seam.joint instant with joined | before
    · rw [seam.observe_of_le joined]
      exact seam.late_reads position behind instant joined
    · rw [seam.observe_of_lt before]
      have waits : ¬ seam.lateAt position ≤ instant := fun read =>
        not_lt_of_ge ((seam.joint_le position behind).trans read) before
      have short : ¬ position ≤ min seam.last (seam.early instant) := fun read =>
        not_lt_of_ge (read.trans (min_le_left _ _)) behind
      exact iff_of_false waits short
  · -- A position up to the last one has been read at the joint.
    rw [seam.project_of_le upTo, seam.early_reads position upTo]
    rcases le_or_gt seam.joint instant with joined | before
    · rw [seam.observe_of_le joined]
      have last : seam.earlyAt seam.last ≤ instant := seam.joint_eq.trans_le joined
      have read : position ≤ seam.early instant := upTo.trans ((seam.early_reads seam.last le_rfl instant).mp last)
      exact iff_of_true read (upTo.trans (seam.last_le instant joined))
    · rw [seam.observe_of_lt before, le_min_iff]
      exact ⟨fun read => ⟨upTo, read⟩, And.right⟩

theorem observe_mono : Monotone seam.observe := seam.gc.monotone_u

end Seam
