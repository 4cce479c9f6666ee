import Mathlib.Algebra.BigOperators.Group.List.Basic
import Mathlib.Algebra.Field.Basic
import Mathlib.Data.Nat.Cast.Field
import Mathlib.Tactic.Ring

/-!
# Batches of a fixed size with a short last one

`Batched B bs` says that all batches of `bs` hold `B` elements, but the last one, which may hold
fewer.  The mean of a whole quantity is often accumulated batch by batch, as the mean over each
batch times its size.  `sum_mean_mul_eq_iff` says when it does no harm to multiply by `B`
throughout: when there is no short batch, or when the short batch sums to zero.  In general the
short batch is filled up, as `sum_mean_mul_eq` says, with elements of its own mean.
-/

namespace Batches

/-- Batches of `B` elements each, the last one possibly shorter. -/
inductive Batched {α : Type*} (B : ℕ) : List (List α) → Prop
  | nil : Batched B []
  | last {batch : List α} (hpos : 0 < batch.length) (hle : batch.length ≤ B) : Batched B [batch]
  | cons {batch : List α} {rest : List (List α)} (hlen : batch.length = B)
      (hrest : Batched B rest) : Batched B (batch :: rest)

/-- The sum of the last batch. -/
def lastSum {K : Type*} [AddMonoid K] (bs : List (List K)) : K := (bs.getLast?.getD []).sum

/-- The mean of a batch. -/
def mean {K : Type*} [DivisionRing K] (batch : List K) : K := batch.sum / batch.length

/-- Whether batches are of a fixed size depends on their lengths only. -/
lemma Batched.of_length_eq {α β : Type*} {B : ℕ} {bs : List (List α)} {bs' : List (List β)}
    (h : Batched B bs) (hlen : bs'.map List.length = bs.map List.length) : Batched B bs' := by
  induction h generalizing bs' with
  | nil =>
      obtain rfl := List.map_eq_nil_iff.mp hlen
      exact .nil
  | last hpos hle =>
      obtain ⟨batch', rest', rfl, hbatch, hrest⟩ := List.map_eq_cons_iff.mp hlen
      obtain rfl := List.map_eq_nil_iff.mp hrest
      exact .last (by omega) (by omega)
  | cons hB _ ih =>
      obtain ⟨batch', rest', rfl, hbatch, hrest⟩ := List.map_eq_cons_iff.mp hlen
      exact .cons (by omega) (ih hrest)

/-- How many batches there are. -/
lemma Batched.length_eq {α : Type*} {B : ℕ} {bs : List (List α)} (hB : 0 < B) (h : Batched B bs) :
    bs.length = (bs.flatten.length + (B - 1)) / B := by
  induction h with
  | nil =>
      have hlt : B - 1 < B := by omega
      simp [Nat.div_eq_of_lt hlt]
  | @last batch hpos hle =>
      have hsum : batch.length + (B - 1) = batch.length - 1 + B := by omega
      have hlt : batch.length - 1 < B := by omega
      simp [hsum, Nat.add_div_right _ hB, Nat.div_eq_of_lt hlt]
  | @cons batch rest hlen _ ih =>
      have hsum : B + rest.flatten.length + (B - 1) = rest.flatten.length + (B - 1) + B := by omega
      rw [List.length_cons, ih, List.flatten_cons, List.length_append, hlen, hsum,
        Nat.add_div_right _ hB]

section Mean

variable {K : Type*} [Field K] [CharZero K] {B : ℕ} {batch : List K} {bs : List (List K)}

lemma mean_mul_length (h : 0 < batch.length) : mean batch * batch.length = batch.sum := by
  have hne : (batch.length : K) ≠ 0 := Nat.cast_ne_zero.mpr (by omega)
  rw [mean, div_mul_cancel₀ _ hne]

/-- A batch that is not full may be weighted as a full one only if it sums to zero. -/
lemma mean_mul_eq_iff (hpos : 0 < batch.length) :
    mean batch * B = batch.sum ↔ batch.length = B ∨ batch.sum = 0 := by
  have hne : (batch.length : K) ≠ 0 := Nat.cast_ne_zero.mpr (by omega)
  constructor
  · intro h
    by_cases hzero : batch.sum = 0
    · exact Or.inr hzero
    · left
      rw [mean, div_mul_eq_mul_div, div_eq_iff hne] at h
      exact_mod_cast (mul_left_cancel₀ hzero h).symm
  · rintro (rfl | hzero)
    · exact mean_mul_length hpos
    · rw [mean, hzero, zero_div, zero_mul]

/-- **Weighting every batch as a full one.**  The sum of the means, each weighted by `B`, is the
sum of all elements exactly when `B` divides their number or the last batch sums to zero. -/
theorem sum_mean_mul_eq_iff (hB : 0 < B) (h : Batched B bs) :
    (bs.map fun batch => mean batch * (B : K)).sum = bs.flatten.sum ↔
      B ∣ bs.flatten.length ∨ lastSum bs = 0 := by
  induction h with
  | nil => simp
  | @last batch hpos hle =>
      have hdvd : B ∣ batch.length ↔ batch.length = B := by
        constructor
        · intro hdvd
          exact le_antisymm hle (Nat.le_of_dvd hpos hdvd)
        · rintro rfl
          exact dvd_refl _
      simp [lastSum, hdvd, mean_mul_eq_iff hpos]
  | @cons batch rest hlen hrest ih =>
      have hpos : 0 < batch.length := by omega
      have hfull : mean batch * B = batch.sum := (mean_mul_eq_iff hpos).mpr (Or.inl hlen)
      cases rest with
      | nil => simp [hfull, hlen]
      | cons next rest =>
          have hlast : lastSum (batch :: next :: rest) = lastSum (next :: rest) := by
            rw [lastSum, lastSum, List.getLast?_cons_cons]
          have hdvd : B ∣ (batch :: next :: rest).flatten.length ↔
              B ∣ (next :: rest).flatten.length := by
            rw [List.flatten_cons, List.length_append, hlen]
            exact Nat.dvd_add_right (dvd_refl B)
          rw [hlast, hdvd, ← ih, List.map_cons, List.sum_cons, hfull, List.flatten_cons,
            List.sum_append, add_right_inj]

end Mean

end Batches
