import Mathlib.Data.List.Nodup
import Mathlib.Data.List.ProdSigma
import Mathlib.Data.List.Range
import Mathlib.Tactic.Ring
import Procon.Framework.CollectingLoop

/-!
# Two nested counting loops

A loop over `0..<W` around a loop over `0..<H` visits the positions of a `W` by `H` grid column by
column.  `grid W H` is the list of the positions in that order, and `getElem?_grid_iff` says where
in it a position stands: what the loop appends for `(x, y)` is entry `x * H + y`.

`nestedLoop_eq_foldlM` turns the two loops into one loop over the grid.  Where the body reads a
value that may be missing and pushes it, `gather_eq_ok_iff` says what the loop has gathered in the
end.
-/

namespace NestedLoop

open CollectingLoop

/-! ## The grid -/

/-- The positions of a grid, column by column. -/
def grid (W H : ℕ) : List (ℕ × ℕ) := List.range W ×ˢ List.range H

variable {W H i x y : ℕ}

lemma grid_succ : grid (W + 1) H = grid W H ++ (List.range H).map (W, ·) := by
  simp [grid, SProd.sprod, List.product, List.range_succ]

@[simp] lemma length_grid : (grid W H).length = W * H := by
  rw [grid, List.length_product, List.length_range, List.length_range]

lemma mem_grid : (x, y) ∈ grid W H ↔ x < W ∧ y < H := by
  simp [grid]

lemma nodup_grid : (grid W H).Nodup := List.Nodup.product List.nodup_range List.nodup_range

/-- The place of a position lies in the grid. -/
lemma index_lt (hx : x < W) (hy : y < H) : x * H + y < W * H :=
  calc x * H + y < x * H + H := Nat.add_lt_add_left hy _
    _ = (x + 1) * H := by ring
    _ ≤ W * H := Nat.mul_le_mul_right H hx

/-- **The place of a position in the grid.** -/
theorem getElem?_grid_iff : (grid W H)[i]? = some (x, y) ↔ x < W ∧ y < H ∧ i = x * H + y := by
  induction W with
  | zero => simp [grid]
  | succ W ih =>
      rw [grid_succ, List.getElem?_append, length_grid]
      split
      · rename_i hi
        rw [ih]
        constructor
        · rintro ⟨hx, hy, hxy⟩
          exact ⟨by omega, hy, hxy⟩
        · rintro ⟨hx, hy, rfl⟩
          refine ⟨?_, hy, rfl⟩
          by_contra hge
          obtain rfl : x = W := by omega
          omega
      · rename_i hi
        rw [List.getElem?_map, Option.map_eq_some_iff]
        constructor
        · rintro ⟨y', hy', heq⟩
          obtain ⟨rfl, rfl⟩ := Prod.mk.inj heq
          obtain ⟨hlt, hget⟩ := List.getElem?_eq_some_iff.mp hy'
          rw [List.length_range] at hlt
          rw [List.getElem_range] at hget
          exact ⟨by omega, by omega, by omega⟩
        · rintro ⟨hx, hy, rfl⟩
          obtain rfl : x = W := by
            by_contra hne
            exact hi (index_lt (by omega) hy)
          refine ⟨y, ?_, rfl⟩
          rw [Nat.add_sub_cancel_left, List.getElem?_range hy]

/-! ## The two loops as one -/

variable {σ α τ : Type*}

/-- The loop over `0..<W` around the loop over `0..<H`. -/
def nestedLoop (W H : ℕ) (body : ℕ → ℕ → σ → Except τ σ) (s : σ) : Except τ σ :=
  (List.range W).foldlM (fun s x => (List.range H).foldlM (fun s y => body x y s) s) s

lemma nestedLoop_eq_foldlM (body : ℕ → ℕ → σ → Except τ σ) (s : σ) :
    nestedLoop W H body s = (grid W H).foldlM (fun s p => body p.1 p.2 s) s := by
  induction W generalizing s with
  | zero => rfl
  | succ W ih =>
      rw [nestedLoop, List.range_succ, List.foldlM_append, ← nestedLoop, ih, grid_succ,
        List.foldlM_append]
      refine congrArg _ (funext fun s' => ?_)
      rw [List.foldlM_cons, List.foldlM_map]
      simp only [List.foldlM_nil, bind_pure]

/-! ## Loops that push what they read -/

variable {γ : Type*} {f : α → Except τ γ} {push : σ → γ → σ} {xs : List α} {s s' : σ}

/-- Push what `f` reads for each element. -/
def gather (f : α → Except τ γ) (push : σ → γ → σ) (xs : List α) (s : σ) : Except τ σ :=
  xs.foldlM (fun s x => (f x).map (push s)) s

/-- **The result of a gathering loop.**  It ends well exactly when every read does. -/
theorem gather_eq_ok_iff :
    gather f push xs s = .ok s' ↔
      ∃ values, List.Forall₂ (fun x value => f x = .ok value) xs values ∧
        s' = values.foldl push s := by
  induction xs generalizing s with
  | nil => simp [gather, pure, Except.pure, eq_comm]
  | cons x xs ih =>
      rw [gather, List.foldlM_cons]
      cases hx : f x with
      | error e =>
          constructor
          · intro h
            cases h
          · rintro ⟨values, hall, -⟩
            cases hall with
            | cons hvalue _ =>
                rw [hx] at hvalue
                cases hvalue
      | ok value =>
          rw [show (Except.ok value).map (push s) = .ok (push s value) from rfl]
          refine ih.trans ⟨?_, ?_⟩
          · rintro ⟨values, hall, rfl⟩
            exact ⟨value :: values, .cons hx hall, rfl⟩
          · rintro ⟨values, hall, rfl⟩
            cases hall with
            | @cons _ value' _ values hvalue hrest =>
                rw [hx] at hvalue
                obtain rfl := Except.ok.inj hvalue
                exact ⟨values, hrest, rfl⟩

lemma gather_of_forall {g : α → γ} (push : σ → γ → σ) (s : σ) (h : ∀ x ∈ xs, f x = .ok (g x)) :
    gather f push xs s = .ok ((xs.map g).foldl push s) := by
  refine gather_eq_ok_iff.mpr ⟨xs.map g, ?_, rfl⟩
  rw [List.forall₂_map_right_iff, List.forall₂_same]
  exact h

/-- A loop whose reads are all good ends well. -/
lemma exists_gather (push : σ → γ → σ) (s : σ) (h : ∀ x ∈ xs, ∃ value, f x = .ok value) :
    ∃ values, List.Forall₂ (fun x value => f x = .ok value) xs values ∧
      gather f push xs s = .ok (values.foldl push s) := by
  have hvalues : ∃ values, List.Forall₂ (fun x value => f x = .ok value) xs values := by
    induction xs with
    | nil => exact ⟨[], .nil⟩
    | cons x xs ih =>
        obtain ⟨value, hvalue⟩ := h x List.mem_cons_self
        obtain ⟨values, hrest⟩ := ih fun x' hx' => h x' (List.mem_cons_of_mem _ hx')
        exact ⟨value :: values, .cons hvalue hrest⟩
  obtain ⟨values, hall⟩ := hvalues
  exact ⟨values, hall, gather_eq_ok_iff.mpr ⟨values, hall, rfl⟩⟩

/-- A loop in which a read fails, where all reads that fail give the same error. -/
lemma gather_eq_error {e : τ} (push : σ → γ → σ) (s : σ)
    (h : ∀ x ∈ xs, (∃ value, f x = .ok value) ∨ f x = .error e) (hfail : ∃ x ∈ xs, f x = .error e) :
    gather f push xs s = .error e := by
  induction xs generalizing s with
  | nil =>
      obtain ⟨x, hx, -⟩ := hfail
      exact absurd hx List.not_mem_nil
  | cons x xs ih =>
      rw [gather, List.foldlM_cons]
      rcases h x List.mem_cons_self with ⟨value, hvalue⟩ | herror
      · rw [hvalue]
        refine ih (push s value) (fun y hy => h y (List.mem_cons_of_mem _ hy)) ?_
        obtain ⟨y, hy, herror⟩ := hfail
        rcases List.mem_cons.mp hy with rfl | hy
        · rw [hvalue] at herror
          cases herror
        · exact ⟨y, hy, herror⟩
      · rw [herror]
        rfl

lemma foldl_concat (values arr : List γ) :
    values.foldl (fun arr value => arr ++ [value]) arr = arr ++ values := by
  induction values generalizing arr with
  | nil => simp
  | cons value values ih => simp [ih]

/-- What stands in one list at the place of an element of the other. -/
lemma exists_of_forall₂ {β : Type*} {R : α → β → Prop} {ys : List β} (h : List.Forall₂ R xs ys)
    {i : ℕ} {x : α} (hx : xs[i]? = some x) : ∃ y, ys[i]? = some y ∧ R x y := by
  induction h generalizing i with
  | nil => simp at hx
  | cons hR _ ih =>
      cases i with
      | zero =>
          rw [List.getElem?_cons_zero, Option.some.injEq] at hx
          exact ⟨_, List.getElem?_cons_zero, hx ▸ hR⟩
      | succ i =>
          rw [List.getElem?_cons_succ] at hx
          rw [List.getElem?_cons_succ]
          exact ih hx

end NestedLoop
