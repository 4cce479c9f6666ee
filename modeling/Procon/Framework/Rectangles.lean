import Mathlib.Algebra.Order.Ring.Defs
import Mathlib.Algebra.Order.Ring.Cast
import Mathlib.Order.Interval.Set.Basic

/-!
# Rectangles on a screen

A rectangle is given by its upper left corner and its size; the second coordinate grows
downwards.  `Rect.points` is the rectangle as a set of points, its edges included, so that two
rectangles are disjoint only if they do not even touch.  Rectangles that stand apart, one above or
left of the other, are disjoint.

The last section is about a column of rows at a fixed pitch: rows that are lower than the pitch do
not reach into each other.
-/

namespace Rectangles

/-- A rectangle with its upper left corner at `(x, y)`. -/
structure Rect (α : Type*) where
  x : α
  y : α
  width : α
  height : α
  deriving DecidableEq

variable {α : Type*}

namespace Rect

section Edges

variable [Add α]

def maxX (r : Rect α) : α := r.x + r.width

def maxY (r : Rect α) : α := r.y + r.height

end Edges

/-! ## Points and positions -/

variable [Add α] [Preorder α] {r s : Rect α}

/-- The points of a rectangle, its edges included. -/
def points (r : Rect α) : Set (α × α) := Set.Icc (r.x, r.y) (r.maxX, r.maxY)

def Above (r s : Rect α) : Prop := r.maxY < s.y

def LeftOf (r s : Rect α) : Prop := r.maxX < s.x

/-- One of the rectangles is above or left of the other. -/
def Apart (r s : Rect α) : Prop := r.Above s ∨ s.Above r ∨ r.LeftOf s ∨ s.LeftOf r

lemma Above.trans {t : Rect α} (hrs : r.Above s) (hst : s.Above t) (hs : s.y ≤ s.maxY) :
    r.Above t :=
  (hrs.trans_le hs).trans hst

/-- The rectangles have no point in common. -/
def Disjoint (r s : Rect α) : Prop := r.points ∩ s.points = ∅

lemma Disjoint.symm (h : r.Disjoint s) : s.Disjoint r := by
  unfold Disjoint
  rw [Set.inter_comm]
  exact h

lemma Above.disjoint (h : r.Above s) : r.Disjoint s := by
  apply Set.eq_empty_of_forall_notMem
  rintro p ⟨⟨-, hr⟩, ⟨hs, -⟩⟩
  exact absurd (hs.2.trans hr.2) (not_le_of_gt h)

lemma LeftOf.disjoint (h : r.LeftOf s) : r.Disjoint s := by
  apply Set.eq_empty_of_forall_notMem
  rintro p ⟨⟨-, hr⟩, ⟨hs, -⟩⟩
  exact absurd (hs.1.trans hr.1) (not_le_of_gt h)

/-- **Rectangles that stand apart are disjoint.** -/
theorem Apart.disjoint : r.Apart s → r.Disjoint s
  | .inl h => h.disjoint
  | .inr (.inl h) => h.disjoint.symm
  | .inr (.inr (.inl h)) => h.disjoint
  | .inr (.inr (.inr h)) => h.disjoint.symm

end Rect

/-! ## Rows at a fixed pitch -/

section Rows

variable [Semiring α] [PartialOrder α] [IsStrictOrderedRing α] {top pitch height : α} {i j : ℕ}

/-- The upper edge of the `i`-th row of a column. -/
def rowTop (top pitch : α) (i : ℕ) : α := top + pitch * i

/-- A row ends above every later one. -/
theorem rowTop_add_lt (hheight : 0 ≤ height) (hpitch : height < pitch) (hij : i < j) :
    rowTop top pitch i + height < rowTop top pitch j := by
  have hnext : pitch * (i + 1 : ℕ) ≤ pitch * j :=
    mul_le_mul_of_nonneg_left (Nat.cast_le.mpr hij) (hheight.trans hpitch.le)
  calc rowTop top pitch i + height < rowTop top pitch i + pitch := by gcongr
    _ = top + pitch * (i + 1 : ℕ) := by rw [rowTop, add_assoc, Nat.cast_succ, mul_add, mul_one]
    _ ≤ rowTop top pitch j := by rw [rowTop]; gcongr

lemma rowTop_le_rowTop {top' : α} (h : top ≤ top') : rowTop top pitch i ≤ rowTop top' pitch i :=
  add_le_add_left h _

lemma le_rowTop (hpitch : 0 ≤ pitch) : top ≤ rowTop top pitch i :=
  le_add_of_nonneg_right (mul_nonneg hpitch (Nat.cast_nonneg i))

end Rows

end Rectangles
