import Mathlib.Data.List.Flatten
import Mathlib.Data.List.Nodup
import Mathlib.Tactic.Common

/-!
# Painting a canvas stroke by stroke

A stroke changes the color of the points it covers, given the color that is there; what it does to
one point does not depend on any other.  A picture is painted by a list of strokes, and the color
of a point is decided by the strokes that cover it, in their order.

Where strokes come in groups of which only one reaches a point, that group alone decides its color:
`paint_flatMap_of_unique`.
-/

namespace Painting

variable {π γ ε : Type*}

/-- A change of the color of some points. -/
structure Stroke (π γ : Type*) where
  covers : π → Bool
  recolor : π → γ → γ

/-- The color of a point under a stroke. -/
def Stroke.apply (stroke : Stroke π γ) (p : π) (color : γ) : γ :=
  if stroke.covers p then stroke.recolor p color else color

/-- The color of a point after some strokes, which is `color` before them. -/
def paint (strokes : List (Stroke π γ)) (p : π) (color : γ) : γ :=
  strokes.foldl (fun color stroke => stroke.apply p color) color

variable {strokes rest : List (Stroke π γ)} {stroke : Stroke π γ} {p : π} {color : γ}

lemma paint_append :
    paint (strokes ++ rest) p color = paint rest p (paint strokes p color) :=
  List.foldl_append

lemma paint_cons : paint (stroke :: rest) p color = paint rest p (stroke.apply p color) := rfl

/-- A point that no stroke reaches keeps its color. -/
lemma paint_of_forall_not_covers (h : ∀ stroke ∈ strokes, stroke.covers p = false) :
    paint strokes p color = color := by
  induction strokes generalizing color with
  | nil => rfl
  | cons stroke rest ih =>
      have hstroke : stroke.apply p color = color := by
        unfold Stroke.apply
        rw [h stroke List.mem_cons_self]
        exact if_neg Bool.false_ne_true
      rw [paint_cons, hstroke]
      exact ih fun other hother => h other (List.mem_cons_of_mem _ hother)

/-- **One group decides.**  Where the strokes of one element of a list are the only ones to reach a
point, they give it its color. -/
theorem paint_flatMap_of_unique {xs : List ε} {strokesOf : ε → List (Stroke π γ)} {x : ε}
    (hnodup : xs.Nodup) (hx : x ∈ xs)
    (hother : ∀ y ∈ xs, y ≠ x → ∀ stroke ∈ strokesOf y, stroke.covers p = false) :
    paint (xs.flatMap strokesOf) p color = paint (strokesOf x) p color := by
  obtain ⟨before, after, rfl⟩ := List.append_of_mem hx
  have hne : ∀ y ∈ before ++ after, y ≠ x := by
    intro y hy hyx
    rw [List.nodup_middle, List.nodup_cons] at hnodup
    exact hnodup.1 (hyx ▸ hy)
  have hskip : ∀ ys, ys ⊆ before ++ after → ∀ stroke ∈ ys.flatMap strokesOf,
      stroke.covers p = false := by
    intro ys hys stroke hstroke
    obtain ⟨y, hy, hstroke⟩ := List.mem_flatMap.mp hstroke
    refine hother y ?_ (hne y (hys hy)) stroke hstroke
    rcases List.mem_append.mp (hys hy) with hbefore | hafter
    · exact List.mem_append_left _ hbefore
    · exact List.mem_append_right _ (List.mem_cons_of_mem _ hafter)
  rw [List.flatMap_append, List.flatMap_cons, paint_append, paint_append,
    paint_of_forall_not_covers (hskip before (List.subset_append_left _ _)),
    paint_of_forall_not_covers (hskip after (List.subset_append_right _ _))]

end Painting
