import Procon.Construction.DocumentListVC
import Mathlib.Data.List.Perm.Subperm

/-!
# The assertions of the local list screen

Both methods of the screen that look at a row assert that the row is in range of the identifier
list and that its identifier loads a document.  `ListInvariant` is the invariant that keeps the
assertions silent: the list has no duplicates, so every save lets it grow and the table's
remembered count stays in range; and a save archives the document it lists.

Where the invariant holds an event has one of five effects, which `ListInvariant.step_cases`
lists; `ListInvariant.step` is the step lemma and `list_assertions_silent` the result for every
run.
-/

namespace Procon

open DocumentDataOperator DocumentListVC LabelledRun

/-! ## The invariant of the screen -/

structure ListInvariant (vc : DocumentListVC) : Prop where
  nodup : vc.store.getUidArray.Nodup
  ne_key : ∀ uid ∈ vc.store.getUidArray, uid ≠ DATA_UID_KEY
  loads : ∀ uid ∈ vc.store.getUidArray,
    ∃ docInfo, vc.store.loadDocumentInfo uid = .ok (some docInfo) ∧ docInfo.uid = uid
  rows_le : vc.rows ≤ vc.store.getUidArray.length
  no_trap : vc.trap = none

lemma getUidArray_empty : LocalStore.empty.getUidArray = [] := rfl

lemma listInvariant_launch_empty : ListInvariant (launch .empty) where
  nodup := List.nodup_nil
  ne_key := by simp [launch, getUidArray_empty]
  loads := by simp [launch, getUidArray_empty]
  rows_le := Nat.le_refl 0
  no_trap := rfl

variable {vc vc' : DocumentListVC} {arrayOfSet : ArrayOfSet} {row : ℕ}

/-- Where the invariant holds, a row in range has a document, and it is the row's own. -/
lemma ListInvariant.documentAt (h : ListInvariant vc) (hrow : row < vc.store.getUidArray.length) :
    ∃ docInfo, DocumentListVC.documentAt vc.store row = .ok docInfo ∧
      vc.store.getUidArray[row]? = some docInfo.uid := by
  obtain ⟨docInfo, hload, huid⟩ := h.loads _ (List.getElem_mem hrow)
  refine ⟨docInfo, ?_, by rw [List.getElem?_eq_getElem hrow, huid]⟩
  rw [DocumentListVC.documentAt, List.getElem?_eq_getElem hrow]
  simp only [hload]
  rfl

lemma cellForRowAt_of_documentAt {store : LocalStore} {docInfo : DocumentInfo}
    (h : DocumentListVC.documentAt store row = .ok docInfo) :
    cellForRowAt store row = .ok ⟨docInfo, loadImageFromPath docInfo.imageFileName store⟩ := by
  rw [cellForRowAt, h]
  rfl

lemma didSelectRowAt_of_documentAt {store : LocalStore} {docInfo : DocumentInfo}
    (h : DocumentListVC.documentAt store row = .ok docInfo) :
    didSelectRowAt store row = .ok (docInfo,
      describing docInfo.explain ++ "\n" ++ describing docInfo.savedDate) := by
  rw [didSelectRowAt, h]
  rfl

/-! ## What one event does where the invariant holds -/

/-- The effect of an event on a screen whose assertions hold. -/
inductive ListStep (vc : DocumentListVC) : ListEvent × ArrayOfSet → DocumentListVC → Prop
  | save (uuid : NSUUID) (header date context : Option String) (image : Option UIImage)
      (writeSucceeds : Bool) (arrayOfSet : ArrayOfSet) (store : LocalStore)
      (hstore : store.userDefaults = saveDocumentInfo (.init uuid header date context)
        (addUid arrayOfSet uuid.uuidString vc.store.userDefaults)) :
      ListStep vc (.saveData2Local uuid header date context image writeSucceeds, arrayOfSet)
        { vc with store := store }
  | refresh (arrayOfSet : ArrayOfSet) :
      ListStep vc (.refresh, arrayOfSet) { vc with rows := vc.store.getUidArray.length }
  | cell (row : ℕ) (arrayOfSet : ArrayOfSet) (docInfo : DocumentInfo) (image : Option Data)
      (hrow : row < vc.rows) (hdoc : DocumentListVC.documentAt vc.store row = .ok docInfo) :
      ListStep vc (.cellForRowAt row, arrayOfSet)
        { vc with cells := Function.update vc.cells row (some ⟨docInfo, image⟩) }
  | select (row : ℕ) (arrayOfSet : ArrayOfSet) (docInfo : DocumentInfo) (message : String)
      (hrow : row < vc.rows) (hdoc : DocumentListVC.documentAt vc.store row = .ok docInfo) :
      ListStep vc (.didSelectRowAt row, arrayOfSet) { vc with alert := some message }
  | relaunch (arrayOfSet : ArrayOfSet) :
      ListStep vc (.relaunch, arrayOfSet) (launch vc.store)

lemma ListInvariant.step_cases (h : ListInvariant vc) {e : ListEvent × ArrayOfSet}
    (hstep : step vc e = some vc') : ListStep vc e vc' := by
  obtain ⟨e, arrayOfSet⟩ := e
  rw [DocumentListVC.step, if_neg (by simp [h.no_trap])] at hstep
  cases e with
  | saveData2Local uuid header date context image writeSucceeds =>
      dsimp only at hstep
      split at hstep
      · rename_i store hrun
        cases hstep
        exact .save _ _ _ _ _ _ _ store (userDefaults_of_runAll hrun)
      · cases hstep
  | refresh =>
      cases hstep
      exact .refresh arrayOfSet
  | cellForRowAt row =>
      dsimp only at hstep
      split at hstep
      · rename_i hrow
        obtain ⟨docInfo, hdoc, -⟩ := h.documentAt (Nat.lt_of_lt_of_le hrow h.rows_le)
        rw [cellForRowAt_of_documentAt hdoc] at hstep
        cases hstep
        exact .cell row arrayOfSet docInfo _ hrow hdoc
      · cases hstep
  | didSelectRowAt row =>
      dsimp only at hstep
      split at hstep
      · rename_i hrow
        obtain ⟨docInfo, hdoc, -⟩ := h.documentAt (Nat.lt_of_lt_of_le hrow h.rows_le)
        rw [didSelectRowAt_of_documentAt hdoc] at hstep
        cases hstep
        exact .select row arrayOfSet docInfo _ hrow hdoc
      · cases hstep
  | relaunch =>
      cases hstep
      exact .relaunch arrayOfSet

/-! ### A save -/

section Save

variable {uuid : NSUUID} {header date context : Option String} {store : LocalStore}
  (hstore : store.userDefaults = saveDocumentInfo (.init uuid header date context)
    (addUid arrayOfSet uuid.uuidString vc.store.userDefaults))

include hstore

lemma getUidArray_of_save :
    store.getUidArray = getUidArray (addUid arrayOfSet uuid.uuidString vc.store.userDefaults) := by
  rw [LocalStore.getUidArray, hstore, getUidArray_saveDocumentInfo uuid.uuidString_ne_key]

lemma getUidArray_of_save_perm :
    store.getUidArray.Perm (vc.store.getUidArray ++ [uuid.uuidString]).dedup := by
  rw [getUidArray_of_save hstore]
  exact getUidArray_addUid_perm

lemma mem_getUidArray_of_save {uid : String} :
    uid ∈ store.getUidArray ↔ uid ∈ vc.store.getUidArray ∨ uid = uuid.uuidString := by
  rw [getUidArray_of_save hstore]
  exact mem_getUidArray_addUid

/-- A save lets the list grow, or leaves its length when the identifier was listed before. -/
lemma length_le_of_save (hnodup : vc.store.getUidArray.Nodup) :
    vc.store.getUidArray.length ≤ store.getUidArray.length := by
  refine (List.subperm_of_subset hnodup fun uid huid => ?_).length_le
  exact (mem_getUidArray_of_save hstore).mpr (Or.inl huid)

lemma loads_of_save (h : ListInvariant vc) {uid : String} (huid : uid ∈ store.getUidArray) :
    ∃ docInfo, store.loadDocumentInfo uid = .ok (some docInfo) ∧ docInfo.uid = uid := by
  by_cases heq : uid = uuid.uuidString
  · refine ⟨.init uuid header date context, ?_, heq.symm⟩
    rw [heq, LocalStore.loadDocumentInfo, hstore]
    exact loadDocumentInfo_saveDocumentInfo_self
  · have hold : uid ∈ vc.store.getUidArray :=
      ((mem_getUidArray_of_save hstore).mp huid).resolve_right heq
    obtain ⟨docInfo, hload, hdoc⟩ := h.loads uid hold
    refine ⟨docInfo, ?_, hdoc⟩
    rw [LocalStore.loadDocumentInfo, hstore, loadDocumentInfo_saveDocumentInfo_of_ne heq,
      loadDocumentInfo_addUid (h.ne_key uid hold)]
    exact hload

end Save

/-- **The step lemma.**  Every event keeps the invariant. -/
theorem ListInvariant.step (h : ListInvariant vc) {e : ListEvent × ArrayOfSet}
    (hstep : DocumentListVC.step vc e = some vc') : ListInvariant vc' := by
  cases h.step_cases hstep with
  | save uuid header date context image writeSucceeds arrayOfSet store hstore =>
      refine ⟨?_, ?_, fun uid huid => loads_of_save hstore h huid, ?_, h.no_trap⟩
      · exact (getUidArray_of_save_perm hstore).nodup_iff.mpr (List.nodup_dedup _)
      · intro uid huid
        rcases (mem_getUidArray_of_save hstore).mp huid with hold | rfl
        · exact h.ne_key uid hold
        · exact uuid.uuidString_ne_key
      · exact Nat.le_trans h.rows_le (length_le_of_save hstore h.nodup)
  | refresh => exact ⟨h.nodup, h.ne_key, h.loads, Nat.le_refl _, h.no_trap⟩
  | cell => exact ⟨h.nodup, h.ne_key, h.loads, h.rows_le, h.no_trap⟩
  | select => exact ⟨h.nodup, h.ne_key, h.loads, h.rows_le, h.no_trap⟩
  | relaunch => exact ⟨h.nodup, h.ne_key, h.loads, Nat.zero_le _, rfl⟩

lemma listInvariant_of_run {tr : List (ListEvent × ArrayOfSet)}
    (h : run step (launch .empty) tr = some vc) : ListInvariant vc :=
  run_invariant (P := ListInvariant) listInvariant_launch_empty
    (fun _ _ _ hvc hstep => hvc.step hstep) h

/-- **No assertion of the local list screen fires.**  After every run from the first launch,
every row below the count of the last reload is in range of the identifier list and its
identifier loads a document; and no event of the run has trapped. -/
theorem list_assertions_silent (tr : List (ListEvent × ArrayOfSet)) (vc : DocumentListVC)
    (h : run step (launch .empty) tr = some vc) :
    vc.trap = none ∧ ∀ row < vc.rows, ∃ uid docInfo,
      vc.store.getUidArray[row]? = some uid ∧
        vc.store.loadDocumentInfo uid = .ok (some docInfo) := by
  have hinv := listInvariant_of_run h
  refine ⟨hinv.no_trap, fun row hrow => ?_⟩
  have hlt := Nat.lt_of_lt_of_le hrow hinv.rows_le
  obtain ⟨docInfo, hload, -⟩ := hinv.loads _ (List.getElem_mem hlt)
  exact ⟨_, docInfo, List.getElem?_eq_getElem hlt, hload⟩

/-- One document is saved, shown and tapped. -/
def oneDocumentTrace : List (ListEvent × ArrayOfSet) :=
  [(.saveData2Local .first (some "title") none none
      (some ⟨some (.bytes [255, 216])⟩) true, .inOrder),
    (.refresh, .inOrder), (.cellForRowAt 0, .inOrder), (.didSelectRowAt 0, .inOrder)]

theorem list_assertions_silent_oneDocumentTrace :
    ∃ vc, run step (launch .empty) oneDocumentTrace = some vc ∧ vc.rows = 1 ∧
      vc.trap = none ∧ ∀ row < vc.rows, ∃ uid docInfo,
        vc.store.getUidArray[row]? = some uid ∧
          vc.store.loadDocumentInfo uid = .ok (some docInfo) :=
  ⟨_, rfl, rfl, list_assertions_silent oneDocumentTrace _ rfl⟩

end Procon
