import Mathlib.Data.List.Basic
import Mathlib.Data.List.Nodup
import Mathlib.Logic.Function.Basic

/-!
# Loops over the entries of a family

A loop over a list of indices that rewrites the entry of each index, and looks at no other entry,
does to every entry what one round does to it where the index is listed, and nothing to the others.
The order of the list does not matter.

* `forEach f ps` is the loop that rewrites the entry `x` of `p` to `f p x`.
* `forEach_apply` describes it entry by entry.
* `forEach_apply_of_idempotent` does so for a list with repetitions, where a second rewrite of an
  entry changes nothing.
-/

namespace PointwiseLoop

variable {P α : Type*} [DecidableEq P] {f : P → α → α} {ps : List P} {p : P} {θ : P → α}

/-- `for p in ps: θ[p] = f(p, θ[p])`. -/
def forEach (f : P → α → α) (ps : List P) (θ : P → α) : P → α :=
  ps.foldl (fun θ p => Function.update θ p (f p (θ p))) θ

lemma forEach_cons {q : P} :
    forEach f (q :: ps) θ = forEach f ps (Function.update θ q (f q (θ q))) := rfl

lemma forEach_append {qs : List P} : forEach f (ps ++ qs) θ = forEach f qs (forEach f ps θ) :=
  List.foldl_append ..

lemma forEach_of_not_mem (h : p ∉ ps) : forEach f ps θ p = θ p := by
  induction ps generalizing θ with
  | nil => rfl
  | cons q ps ih =>
      rw [forEach_cons, ih fun hmem => h (List.mem_cons_of_mem _ hmem)]
      refine Function.update_of_ne ?_ ..
      rintro rfl
      exact h List.mem_cons_self

/-- **The loop, entry by entry**, where no index is listed twice. -/
lemma forEach_apply (h : ps.Nodup) :
    forEach f ps θ p = if p ∈ ps then f p (θ p) else θ p := by
  induction ps generalizing θ with
  | nil => rfl
  | cons q ps ih =>
      obtain ⟨hq, hps⟩ := List.nodup_cons.mp h
      rw [forEach_cons]
      by_cases hp : p = q
      · subst hp
        rw [forEach_of_not_mem hq, Function.update_self, if_pos List.mem_cons_self]
      · rw [ih hps, Function.update_of_ne hp]
        simp [hp]

/-- The loop, entry by entry, where a second rewrite of an entry changes nothing. -/
lemma forEach_apply_of_idempotent (h : ∀ p x, f p (f p x) = f p x) :
    forEach f ps θ p = if p ∈ ps then f p (θ p) else θ p := by
  induction ps generalizing θ with
  | nil => rfl
  | cons q ps ih =>
      rw [forEach_cons, ih]
      by_cases hp : p = q
      · subst hp
        simp [h]
      · rw [Function.update_of_ne hp]
        simp [hp]

lemma forEach_forEach_of_idempotent (h : ∀ p x, f p (f p x) = f p x) :
    forEach f ps (forEach f ps θ) = forEach f ps θ := by
  funext p
  rw [forEach_apply_of_idempotent h, forEach_apply_of_idempotent h]
  split
  · exact h p (θ p)
  · rfl

end PointwiseLoop
