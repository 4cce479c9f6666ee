import Mathlib.Data.List.Basic
import Mathlib.Tactic.Common

/-!
# Loops that collect their findings

A collecting loop runs over a list and, for each element, stops with an error, appends one
finding to an array or appends nothing.  What it returns is determined element by element:
`collect_eq_ok_iff` says that it ends well exactly when every element is processed well, and
that it then has appended the findings in order, each once.  The first section says when a
sequence of two fallible steps ends well and when it stops.
-/

namespace CollectingLoop

/-! ## Fallible steps -/

section Fallible

universe u v

variable {α β : Type u} {τ : Type v} {x : Except τ α} {e : τ}

lemma bind_eq_ok_iff {f : α → Except τ β} {b : β} :
    x >>= f = .ok b ↔ ∃ a, x = .ok a ∧ f a = .ok b := by
  cases x <;> simp [bind, Except.bind]

lemma bind_eq_error_iff {f : α → Except τ β} :
    x >>= f = .error e ↔ x = .error e ∨ ∃ a, x = .ok a ∧ f a = .error e := by
  cases x <;> simp [bind, Except.bind]

lemma map_eq_ok_iff {f : α → β} {b : β} : x.map f = .ok b ↔ ∃ a, x = .ok a ∧ f a = b := by
  cases x <;> simp [Except.map]

lemma map_eq_error_iff {f : α → β} : x.map f = .error e ↔ x = .error e := by
  cases x <;> simp [Except.map]

end Fallible

/-! ## Collecting loops -/

variable {α β τ : Type*} {f : α → Except τ (Option β)} {xs : List α} {arr arr' : List β}

/-- Append what `f` finds in each element. -/
def collect (f : α → Except τ (Option β)) (xs : List α) (arr : List β) : Except τ (List β) :=
  xs.foldlM (fun arr x => (f x).map fun found => arr ++ found.toList) arr

/-- The finding in an element, when it is processed well. -/
def finding (f : α → Except τ (Option β)) (x : α) : Option β := (f x).toOption.join

lemma finding_of_ok {x : α} {found : Option β} (h : f x = .ok found) : finding f x = found := by
  rw [finding, h]
  rfl

lemma collect_cons_ok {x : α} {found : Option β} (h : f x = .ok found) :
    collect f (x :: xs) arr = collect f xs (arr ++ found.toList) := by
  rw [collect, List.foldlM_cons, h]
  rfl

lemma collect_cons_error {x : α} {e : τ} (h : f x = .error e) :
    collect f (x :: xs) arr = .error e := by
  rw [collect, List.foldlM_cons, h]
  rfl

lemma collect_append {ys : List α} :
    collect f (xs ++ ys) arr = collect f xs arr >>= collect f ys := List.foldlM_append

/-- **The result of a collecting loop.** -/
theorem collect_eq_ok_iff :
    collect f xs arr = .ok arr' ↔
      (∀ x ∈ xs, ∃ found, f x = .ok found) ∧ arr' = arr ++ xs.filterMap (finding f) := by
  induction xs generalizing arr with
  | nil => simp [collect, pure, Except.pure, eq_comm]
  | cons x xs ih =>
      cases hx : f x with
      | error e =>
          rw [collect_cons_error hx]
          constructor
          · intro h
            cases h
          · rintro ⟨hall, -⟩
            obtain ⟨found, hfound⟩ := hall x List.mem_cons_self
            rw [hx] at hfound
            cases hfound
      | ok found =>
          have htail : (x :: xs).filterMap (finding f) =
              found.toList ++ xs.filterMap (finding f) := by
            cases found <;> simp [finding_of_ok hx]
          rw [collect_cons_ok hx, ih, htail, List.append_assoc]
          simp [hx]

/-- A loop that finds something in every element finds as much as there are elements. -/
lemma length_of_collect (h : collect f xs arr = .ok arr')
    (hfound : ∀ x ∈ xs, f x ≠ .ok none) : arr'.length = arr.length + xs.length := by
  obtain ⟨hall, rfl⟩ := collect_eq_ok_iff.mp h
  rw [List.length_append, Nat.add_left_cancel_iff, List.filterMap_length_eq_length]
  intro x hx
  obtain ⟨found, hok⟩ := hall x hx
  rw [finding_of_ok hok]
  cases found with
  | some found => rfl
  | none => exact absurd hok (hfound x hx)

/-- What a collecting loop has not found was there before. -/
lemma mem_of_collect (h : collect f xs arr = .ok arr') {b : β} (hb : b ∈ arr') :
    b ∈ arr ∨ ∃ x ∈ xs, f x = .ok (some b) := by
  obtain ⟨hall, rfl⟩ := collect_eq_ok_iff.mp h
  rcases List.mem_append.mp hb with hold | hnew
  · exact Or.inl hold
  · obtain ⟨x, hx, hfinding⟩ := List.mem_filterMap.mp hnew
    obtain ⟨found, hok⟩ := hall x hx
    rw [finding_of_ok hok] at hfinding
    exact Or.inr ⟨x, hx, hfinding ▸ hok⟩

/-- The error of a collecting loop is the error of one of its elements. -/
lemma exists_of_collect_error {e : τ} (h : collect f xs arr = .error e) :
    ∃ x ∈ xs, f x = .error e := by
  induction xs generalizing arr with
  | nil => cases h
  | cons x xs ih =>
      cases hx : f x with
      | error e' =>
          rw [collect_cons_error hx] at h
          obtain rfl : e' = e := Except.error.inj h
          exact ⟨x, List.mem_cons_self, hx⟩
      | ok found =>
          rw [collect_cons_ok hx] at h
          obtain ⟨y, hy, he⟩ := ih h
          exact ⟨y, List.mem_cons_of_mem x hy, he⟩

end CollectingLoop
