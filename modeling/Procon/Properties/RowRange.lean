import Procon.Properties.Callbacks
import Procon.Framework.Run

/-!
# The rows of the online list

The table of the online list may ask for every row below the count of its last reload, and both
methods of the screen assert that the row is in range of `dataArray`.  Two steps change the
array: the `docRef` callback, which only appends, and `updateList`, which empties it and leaves
the table as it is.  So a step out of a state whose rows are in range leads out of range exactly
when it is an `updateList` with rows on the table, and `rows_in_range_iff` gives the exact
condition for whole runs.
-/

namespace Procon

open NestedMap DocumentOnlineListVC LabelledRun

variable {vc vc' next : DocumentOnlineListVC} {i : ℕ} {query : Query} {reply : Reply}

/-- Every row the table may ask for is in range, and no assertion about a row has failed. -/
def RowsInRange (vc : DocumentOnlineListVC) : Prop :=
  (∀ row < vc.rows, row < vc.dataArray.length) ∧
    vc.trap ≠ some (.assertion "index is out of range uid array")

lemma forall_lt_iff {rows length : ℕ} : (∀ row < rows, row < length) ↔ rows ≤ length := by
  constructor
  · intro h
    by_contra hlt
    exact absurd (h length (by omega)) (Nat.lt_irrefl length)
  · intro h row hrow
    omega

/-- A callback only appends to the array. -/
lemma length_le_of_callback (h : vc.callback query reply = .ok vc') :
    vc.dataArray.length ≤ vc'.dataArray.length := by
  rcases callback_cases h with ⟨-, rfl⟩ | ⟨documents, -, -, rfl⟩ |
    ⟨documents, dataArray, -, -, hdocs, rfl⟩
  · exact Nat.le_refl _
  · exact Nat.le_refl _
  · exact length_le_of_readDocuments hdocs

lemma callback_ne_assertion {message : String} :
    vc.callback query reply ≠ .error (.assertion message) := by
  intro h
  obtain ⟨documents, -, -, hdocs⟩ := callback_error_cases h
  exact readDocuments_ne_assertion hdocs

/-- **The step lemma.**  Only an `updateList` under a table with rows leads out of range. -/
theorem rowsInRange_step_iff {e : OnlineListEvent} (h : RowsInRange vc)
    (hstep : step vc e = some vc') :
    RowsInRange vc' ↔ (e = .updateList → vc.rows = 0) := by
  have htrap := trap_of_step hstep
  obtain ⟨hrows, -⟩ := h
  rw [forall_lt_iff] at hrows
  rw [RowsInRange, forall_lt_iff]
  cases outcome_of_step hstep with
  | updateList => simp [DocumentOnlineListVC.updateList, htrap]
  | getDocuments i query next hnext =>
      obtain ⟨-, refresh, -, rfl⟩ := refreshStep_eq_some.mp hnext
      simp [htrap, hrows]
  | callback i query reply next done hnext hdone =>
      obtain ⟨-, refresh, -, rfl⟩ := refreshStep_eq_some.mp hnext
      obtain ⟨-, -, hsame, hsame', -⟩ := callback_frame hdone
      have hlen := length_le_of_callback hdone
      simpa [hsame, hsame', htrap] using Nat.le_trans hrows hlen
  | callbackTrap i query reply next trap hnext hcallback =>
      obtain ⟨-, refresh, -, rfl⟩ := refreshStep_eq_some.mp hnext
      have hne : trap ≠ .assertion "index is out of range uid array" := by
        rintro rfl
        exact callback_ne_assertion hcallback
      simpa [hne] using hrows
  | leave i query next hnext =>
      obtain ⟨-, refresh, -, rfl⟩ := refreshStep_eq_some.mp hnext
      simp [htrap, hrows]
  | notify i next hnext =>
      obtain ⟨-, refresh, -, rfl⟩ := refreshStep_eq_some.mp hnext
      simp [htrap, numberOfRows]
  | cell row data => simp [htrap, hrows]
  | select row data => simp [htrap, hrows]
  | rowTrap row e he hrow hdata =>
      rw [List.getElem?_eq_none_iff] at hdata
      omega

/-- **Which runs keep all rows in range.**  In every state a run passes through, the rows that
the table may ask for are in range and no row assertion has failed, exactly when the run never
calls `updateList` while the table has rows. -/
theorem rows_in_range_iff (tr : List OnlineListEvent) (vc : DocumentOnlineListVC)
    (h : run step launch tr = some vc) :
    (∀ vc', Visits step launch tr vc' → RowsInRange vc') ↔
      ∀ vc' e, Takes step launch tr vc' e → e = .updateList → vc'.rows = 0 := by
  refine forall_visits_iff_forall_takes (I := fun _ => True) trivial (fun _ _ _ _ _ => trivial) ?_
    (fun vc' e vc'' _ hvc' hstep => rowsInRange_step_iff hvc' hstep) h
  constructor
  · intro row hrow
    cases hrow
  · intro htrap
    cases htrap

/-! ### A row that is asked for during a refresh -/

/-- One user with one document. -/
def oneDocument : DocumentInfo := .init .first (some "title") none none

/-- A refresh that finds one document of one user. -/
def oneDocumentRefresh : List OnlineListEvent :=
  [.updateList, .getDocuments 0 .userRef,
    .callback 0 .userRef (.snapshot [("user", ((AList.singleton "email"
      (.string "user@example.com")).insert "name" (.string "User")))]),
    .leave 0 .userRef, .getDocuments 0 .docRef,
    .callback 0 .docRef (.snapshot [("user", AList.singleton oneDocument.uid
      (.data (archivedData oneDocument)))]),
    .leave 0 .docRef, .notify 0]

theorem rows_in_range_oneDocumentRefresh :
    ∃ vc, run step launch oneDocumentRefresh = some vc ∧ vc.rows = 1 ∧
      ((∀ vc', Visits step launch oneDocumentRefresh vc' → RowsInRange vc') ↔
        ∀ vc' e, Takes step launch oneDocumentRefresh vc' e → e = .updateList → vc'.rows = 0) :=
  ⟨_, rfl, rfl, rows_in_range_iff oneDocumentRefresh _ rfl⟩

/-- The list shows one document, a second refresh starts, and the table asks for its row. -/
theorem row_out_of_range :
    ∃ vc, run step launch (oneDocumentRefresh ++ [.updateList, .cellForRowAt 0]) = some vc ∧
      ¬ RowsInRange vc :=
  ⟨_, rfl, fun h => h.2 rfl⟩

end Procon
