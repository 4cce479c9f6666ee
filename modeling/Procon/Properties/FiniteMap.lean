import Procon.Construction.DocumentDataOperator
import Mathlib.Data.Finset.Basic

/-!
# The local store is a finite map

What the list of identifiers and the archived documents are for is a finite map: a set of listed
identifiers and, for every identifier, the document last saved under it.  `DocumentMap` is that
map, with the four operations as one writes them on paper.

`Refines` relates a state of `UserDefaults` to a map through the two readings `getUidArray` and
`loadDocumentInfo`, and carries what the flat namespace needs: the key of the identifier list
never holds a document.  `Refines.apply` is the simulation step, one case for each operation, and
`store_refines_map` the result for every sequence of operations.
-/

namespace Procon

open DocumentDataOperator

/-! ## The abstract map -/

/-- The abstract state of the local store. -/
structure DocumentMap where
  uids : Finset String
  documents : String → Option DocumentInfo

def DocumentMap.empty : DocumentMap := ⟨∅, fun _ => none⟩

/-- The operations of `DocumentDataOperator` on the documents of the device. -/
inductive StoreOperation
  | addUid (uid : String)
  | removeUid (uid : String)
  | saveDocumentInfo (docInfo : DocumentInfo)
  | removeDocumentInfo (uid : String)
  deriving DecidableEq, Repr

namespace StoreOperation

/-- The identifier an operation is about. -/
def uid : StoreOperation → String
  | .addUid uid => uid
  | .removeUid uid => uid
  | .saveDocumentInfo docInfo => docInfo.uid
  | .removeDocumentInfo uid => uid

/-- The operation on `UserDefaults`; `addUid` is the one that builds an array from a set. -/
def apply (op : StoreOperation) (arrayOfSet : ArrayOfSet) (userDefaults : UserDefaults) :
    UserDefaults :=
  match op with
  | .addUid uid => DocumentDataOperator.addUid arrayOfSet uid userDefaults
  | .removeUid uid => DocumentDataOperator.removeUid uid userDefaults
  | .saveDocumentInfo docInfo => DocumentDataOperator.saveDocumentInfo docInfo userDefaults
  | .removeDocumentInfo uid => DocumentDataOperator.removeDocumentInfo uid userDefaults

/-- The operation on the map. -/
def applyMap (op : StoreOperation) (map : DocumentMap) : DocumentMap :=
  match op with
  | .addUid uid => { map with uids := insert uid map.uids }
  | .removeUid uid => { map with uids := map.uids.erase uid }
  | .saveDocumentInfo docInfo =>
      { map with documents := Function.update map.documents docInfo.uid (some docInfo) }
  | .removeDocumentInfo uid => { map with documents := Function.update map.documents uid none }

/-- A sequence of operations, each with its evaluation of `Array(Set(_))`. -/
def applyAll (ops : List (StoreOperation × ArrayOfSet)) (userDefaults : UserDefaults) :
    UserDefaults :=
  ops.foldl (fun userDefaults op => op.1.apply op.2 userDefaults) userDefaults

def applyAllMap (ops : List (StoreOperation × ArrayOfSet)) (map : DocumentMap) : DocumentMap :=
  ops.foldl (fun map op => op.1.applyMap map) map

end StoreOperation

/-! ## Refinement -/

/-- The state of `UserDefaults` that the map describes. -/
structure Refines (userDefaults : UserDefaults) (map : DocumentMap) : Prop where
  nodup : (getUidArray userDefaults).Nodup
  mem_iff : ∀ uid, uid ∈ getUidArray userDefaults ↔ uid ∈ map.uids
  load_eq : ∀ uid, loadDocumentInfo uid userDefaults = .ok (map.documents uid)
  key_holds_no_document : userDefaults.data DATA_UID_KEY = none

lemma refines_empty : Refines .empty .empty where
  nodup := List.nodup_nil
  mem_iff uid := by simp [getUidArray, UserDefaults.stringArray, UserDefaults.empty,
    DocumentMap.empty]
  load_eq uid := rfl
  key_holds_no_document := rfl

variable {userDefaults : UserDefaults} {map : DocumentMap} {uid : String}

/-- Under the key of the identifier list no document is loaded. -/
lemma loadDocumentInfo_key (h : userDefaults.data DATA_UID_KEY = none) :
    loadDocumentInfo DATA_UID_KEY userDefaults = .ok none := by
  rw [loadDocumentInfo, h]

lemma Refines.documents_key (h : Refines userDefaults map) : map.documents DATA_UID_KEY = none := by
  have hload := h.load_eq DATA_UID_KEY
  rw [loadDocumentInfo_key h.key_holds_no_document] at hload
  exact (Except.ok.inj hload).symm

lemma data_key_of_object_eq {other : UserDefaults}
    (h : other.object DATA_UID_KEY = userDefaults.object DATA_UID_KEY)
    (hkey : userDefaults.data DATA_UID_KEY = none) : other.data DATA_UID_KEY = none := by
  rw [UserDefaults.data, h]
  exact hkey

lemma data_key_addUid (arrayOfSet : ArrayOfSet) :
    (addUid arrayOfSet uid userDefaults).data DATA_UID_KEY = none := by
  unfold addUid
  split <;> simp [UserDefaults.data]

lemma data_key_removeUid (hkey : userDefaults.data DATA_UID_KEY = none) :
    (removeUid uid userDefaults).data DATA_UID_KEY = none := by
  unfold removeUid
  split
  · simp [UserDefaults.data]
  · exact hkey

lemma Refines.addUid (h : Refines userDefaults map) (arrayOfSet : ArrayOfSet) :
    Refines (DocumentDataOperator.addUid arrayOfSet uid userDefaults)
      ((StoreOperation.addUid uid).applyMap map) where
  nodup := nodup_getUidArray_addUid
  mem_iff other := by
    rw [mem_getUidArray_addUid, h.mem_iff, StoreOperation.applyMap, Finset.mem_insert, or_comm]
  load_eq other := by
    by_cases hother : other = DATA_UID_KEY
    · rw [hother, loadDocumentInfo_key (data_key_addUid arrayOfSet)]
      exact congrArg Except.ok h.documents_key.symm
    · rw [loadDocumentInfo_addUid hother]
      exact h.load_eq other
  key_holds_no_document := data_key_addUid arrayOfSet

lemma Refines.removeUid (h : Refines userDefaults map) :
    Refines (DocumentDataOperator.removeUid uid userDefaults)
      ((StoreOperation.removeUid uid).applyMap map) where
  nodup := by
    rw [getUidArray_removeUid]
    exact h.nodup.filter _
  mem_iff other := by
    rw [getUidArray_removeUid, List.mem_filter, h.mem_iff, StoreOperation.applyMap,
      Finset.mem_erase]
    simp [and_comm]
  load_eq other := by
    by_cases hother : other = DATA_UID_KEY
    · rw [hother, loadDocumentInfo_key (data_key_removeUid h.key_holds_no_document)]
      exact congrArg Except.ok h.documents_key.symm
    · rw [loadDocumentInfo_removeUid hother]
      exact h.load_eq other
  key_holds_no_document := data_key_removeUid h.key_holds_no_document

lemma Refines.saveDocumentInfo (h : Refines userDefaults map) {docInfo : DocumentInfo}
    (huid : docInfo.uid ≠ DATA_UID_KEY) :
    Refines (DocumentDataOperator.saveDocumentInfo docInfo userDefaults)
      ((StoreOperation.saveDocumentInfo docInfo).applyMap map) where
  nodup := by
    rw [getUidArray_saveDocumentInfo huid]
    exact h.nodup
  mem_iff other := by
    rw [getUidArray_saveDocumentInfo huid]
    exact h.mem_iff other
  load_eq other := by
    by_cases hother : other = docInfo.uid
    · rw [hother, loadDocumentInfo_saveDocumentInfo_self]
      simp [StoreOperation.applyMap]
    · rw [loadDocumentInfo_saveDocumentInfo_of_ne hother, h.load_eq]
      simp [StoreOperation.applyMap, hother]
  key_holds_no_document :=
    data_key_of_object_eq (UserDefaults.object_set_of_ne _ huid.symm) h.key_holds_no_document

lemma Refines.removeDocumentInfo (h : Refines userDefaults map) (huid : uid ≠ DATA_UID_KEY) :
    Refines (DocumentDataOperator.removeDocumentInfo uid userDefaults)
      ((StoreOperation.removeDocumentInfo uid).applyMap map) where
  nodup := by
    rw [getUidArray_removeDocumentInfo huid]
    exact h.nodup
  mem_iff other := by
    rw [getUidArray_removeDocumentInfo huid]
    exact h.mem_iff other
  load_eq other := by
    by_cases hother : other = uid
    · rw [hother, loadDocumentInfo_removeDocumentInfo_self]
      simp [StoreOperation.applyMap]
    · rw [loadDocumentInfo_removeDocumentInfo_of_ne hother, h.load_eq]
      simp [StoreOperation.applyMap, hother]
  key_holds_no_document :=
    data_key_of_object_eq (UserDefaults.object_removeObject_of_ne huid.symm)
      h.key_holds_no_document

/-- **The simulation step.**  Each operation on `UserDefaults` is the operation on the map. -/
theorem Refines.apply (h : Refines userDefaults map) {op : StoreOperation}
    (hop : op.uid ≠ DATA_UID_KEY) (arrayOfSet : ArrayOfSet) :
    Refines (op.apply arrayOfSet userDefaults) (op.applyMap map) := by
  cases op with
  | addUid uid => exact h.addUid arrayOfSet
  | removeUid uid => exact h.removeUid
  | saveDocumentInfo docInfo => exact h.saveDocumentInfo hop
  | removeDocumentInfo uid => exact h.removeDocumentInfo hop

lemma Refines.applyAll (h : Refines userDefaults map) (ops : List (StoreOperation × ArrayOfSet))
    (hops : ∀ op ∈ ops, op.1.uid ≠ DATA_UID_KEY) :
    Refines (StoreOperation.applyAll ops userDefaults) (StoreOperation.applyAllMap ops map) := by
  induction ops generalizing userDefaults map with
  | nil => exact h
  | cons op ops ih =>
      have hhead : op.1.uid ≠ DATA_UID_KEY := hops op List.mem_cons_self
      exact ih (h.apply hhead op.2) fun other hother => hops other (List.mem_cons_of_mem _ hother)

/-- An operation leaves the entries of every other identifier alone. -/
lemma StoreOperation.applyMap_of_ne (op : StoreOperation) (map : DocumentMap)
    (h : uid ≠ op.uid) :
    (uid ∈ (op.applyMap map).uids ↔ uid ∈ map.uids) ∧
      (op.applyMap map).documents uid = map.documents uid := by
  cases op with
  | addUid other => exact ⟨by simp [applyMap, Finset.mem_insert, show uid ≠ other from h], rfl⟩
  | removeUid other => exact ⟨by simp [applyMap, Finset.mem_erase, show uid ≠ other from h], rfl⟩
  | saveDocumentInfo docInfo => exact ⟨Iff.rfl, Function.update_of_ne h ..⟩
  | removeDocumentInfo other => exact ⟨Iff.rfl, Function.update_of_ne h ..⟩

/-- **The local store refines a finite map.**  After every sequence of operations from empty
`UserDefaults` the identifier list has no duplicates and holds the identifiers of the map, every
identifier loads the document the map has for it, and one more operation changes nothing that is
observed for another identifier. -/
theorem store_refines_map (ops : List (StoreOperation × ArrayOfSet))
    (hops : ∀ op ∈ ops, op.1.uid ≠ DATA_UID_KEY) :
    let userDefaults := StoreOperation.applyAll ops .empty
    let map := StoreOperation.applyAllMap ops .empty
    (getUidArray userDefaults).Nodup ∧
      (∀ uid, uid ∈ getUidArray userDefaults ↔ uid ∈ map.uids) ∧
      (∀ uid, loadDocumentInfo uid userDefaults = .ok (map.documents uid)) ∧
      ∀ (op : StoreOperation) (arrayOfSet : ArrayOfSet) (uid : String),
        op.uid ≠ DATA_UID_KEY → uid ≠ op.uid →
        (uid ∈ getUidArray (op.apply arrayOfSet userDefaults) ↔ uid ∈ getUidArray userDefaults) ∧
          loadDocumentInfo uid (op.apply arrayOfSet userDefaults) =
            loadDocumentInfo uid userDefaults := by
  intro userDefaults map
  have h : Refines userDefaults map := refines_empty.applyAll ops hops
  refine ⟨h.nodup, h.mem_iff, h.load_eq, ?_⟩
  intro op arrayOfSet uid hop huid
  have hnext := h.apply hop arrayOfSet
  obtain ⟨hmem, hdoc⟩ := op.applyMap_of_ne map huid
  constructor
  · rw [hnext.mem_iff, hmem, h.mem_iff]
  · rw [hnext.load_eq, hdoc, h.load_eq]

/-- Two documents, one of them saved twice and the other delisted and deleted. -/
def twoDocumentOperations : List (StoreOperation × ArrayOfSet) :=
  [(.addUid "A", .inOrder), (.saveDocumentInfo ⟨"A", "A.jpg", none, none, some "old"⟩, .inOrder),
    (.addUid "B", .inOrder), (.saveDocumentInfo ⟨"B", "B.jpg", none, none, none⟩, .inOrder),
    (.saveDocumentInfo ⟨"A", "A.jpg", some "title", none, some "new"⟩, .inOrder),
    (.removeUid "B", .inOrder), (.removeDocumentInfo "B", .inOrder)]

theorem store_refines_map_twoDocumentOperations :
    (∀ op ∈ twoDocumentOperations, op.1.uid ≠ DATA_UID_KEY) ∧
      (∀ uid, uid ∈ getUidArray (StoreOperation.applyAll twoDocumentOperations .empty) ↔
        uid ∈ (StoreOperation.applyAllMap twoDocumentOperations .empty).uids) ∧
      loadDocumentInfo "A" (StoreOperation.applyAll twoDocumentOperations .empty) =
        .ok (some ⟨"A", "A.jpg", some "title", none, some "new"⟩) :=
  ⟨by decide, (store_refines_map twoDocumentOperations (by decide)).2.1,
    ((store_refines_map twoDocumentOperations (by decide)).2.2.1 "A").trans (by decide)⟩

end Procon
