import Procon.Construction.DocumentDataOperator

/-!
# When a local save is all or nothing

`saveData2Local` lists the new identifier first, writes the image second and archives the
document last.  The list screen asserts, on every later launch, that each listed identifier loads
a document, so a save that ends between its first step and its last one leaves a store the screen
cannot show.

`saveStore` is the store after a save that the process gives `n` of its atomic steps, and
`AllOrNothing` what a save promises.  The two failing paths, an identifier without a document and
a document without an image file, are `not_allOrNothing_of_not_loaded` and
`not_allOrNothing_of_no_file`; `saveData2Local_atomic_iff` is the exact condition.
-/

namespace Procon

open DocumentDataOperator LabelledRun

/-! ## Stores the list screen can show -/

/-- The identifier loads a document whose image file exists. -/
def LocalStore.Complete (store : LocalStore) (uid : String) : Prop :=
  ∃ docInfo, store.loadDocumentInfo uid = .ok (some docInfo) ∧
    (store.files docInfo.imageFileName).isSome

/-- Every listed identifier is complete. -/
def LocalStore.Sound (store : LocalStore) : Prop :=
  ∀ uid ∈ store.getUidArray, store.Complete uid

/-- Nothing in the store is named after the document yet. -/
structure LocalStore.Fresh (store : LocalStore) (docInfo : DocumentInfo) : Prop where
  not_listed : docInfo.uid ∉ store.getUidArray
  no_value : store.userDefaults.object docInfo.uid = none
  no_file : store.files docInfo.imageFileName = none

/-- What a save promises: the store lists the complete new document, or is the prior store. -/
def AllOrNothing (prior : LocalStore) (docInfo : DocumentInfo) (after : LocalStore) : Prop :=
  (docInfo.uid ∈ after.getUidArray ∧ after.Complete docInfo.uid) ∨ after = prior

/-- The store after a save whose process ends after `n` atomic steps. -/
def saveStore (prior : LocalStore) (arrayOfSet : ArrayOfSet) (docInfo : DocumentInfo)
    (image : Option UIImage) (writeSucceeds : Bool) (n : ℕ) : LocalStore :=
  runFor n (DocumentSaveSceneVC.saveData2Local arrayOfSet docInfo image writeSucceeds) prior

/-! ## The three steps of a save -/

/-- The store after `addUid`. -/
def listed (prior : LocalStore) (arrayOfSet : ArrayOfSet) (docInfo : DocumentInfo) : LocalStore :=
  { prior with userDefaults := addUid arrayOfSet docInfo.uid prior.userDefaults }

/-- The store after `saveDocumentInfo`. -/
def archived (store : LocalStore) (docInfo : DocumentInfo) : LocalStore :=
  { store with userDefaults := saveDocumentInfo docInfo store.userDefaults }

/-- The store after a successful `saveImage`. -/
def imaged (store : LocalStore) (docInfo : DocumentInfo) (jpgImageData : Data) : LocalStore :=
  { store with files := Function.update store.files docInfo.imageFileName (some jpgImageData) }

variable {prior : LocalStore} {arrayOfSet : ArrayOfSet} {docInfo : DocumentInfo}
  {writeSucceeds : Bool}

lemma mem_listed : docInfo.uid ∈ (listed prior arrayOfSet docInfo).getUidArray :=
  mem_getUidArray_addUid.mpr (Or.inr rfl)

lemma mem_archived {store : LocalStore} (hkey : docInfo.uid ≠ DATA_UID_KEY) {uid : String} :
    uid ∈ (archived store docInfo).getUidArray ↔ uid ∈ store.getUidArray := by
  rw [LocalStore.getUidArray, archived, getUidArray_saveDocumentInfo hkey]
  rfl

/-- A listed identifier that loads a document is not the key of the list. -/
lemma LocalStore.Complete.ne_key {store : LocalStore} {uid : String} (h : store.Complete uid)
    (hmem : uid ∈ store.getUidArray) : uid ≠ DATA_UID_KEY := by
  rintro rfl
  obtain ⟨docInfo, hload, -⟩ := h
  cases hkey : store.userDefaults.object DATA_UID_KEY with
  | none => simp [loadDocumentInfo, DocumentDataOperator.loadDocumentInfo, UserDefaults.data,
      hkey] at hload
  | some value =>
      cases value with
      | stringArray => simp [loadDocumentInfo, DocumentDataOperator.loadDocumentInfo,
          UserDefaults.data, hkey] at hload
      | data => simp [getUidArray, DocumentDataOperator.getUidArray, UserDefaults.stringArray,
          hkey] at hmem

lemma not_complete_of_not_loaded {store : LocalStore} {uid : String}
    (h : store.loadDocumentInfo uid = .ok none) : ¬ store.Complete uid := by
  rintro ⟨docInfo, hload, -⟩
  rw [h] at hload
  exact absurd (Except.ok.inj hload) (by simp)

lemma not_complete_of_no_file {store : LocalStore} {uid : String} {docInfo : DocumentInfo}
    (hload : store.loadDocumentInfo uid = .ok (some docInfo))
    (hfile : store.files docInfo.imageFileName = none) : ¬ store.Complete uid := by
  rintro ⟨other, hother, hsome⟩
  rw [hload] at hother
  obtain rfl : docInfo = other := Option.some.inj (Except.ok.inj hother)
  simp [hfile] at hsome

lemma listed_not_loaded (hfresh : prior.Fresh docInfo) (hkey : docInfo.uid ≠ DATA_UID_KEY) :
    (listed prior arrayOfSet docInfo).loadDocumentInfo docInfo.uid = .ok none := by
  rw [LocalStore.loadDocumentInfo, listed, loadDocumentInfo_addUid hkey]
  simp [loadDocumentInfo, UserDefaults.data, hfresh.no_value]

lemma archived_loaded (store : LocalStore) :
    (archived store docInfo).loadDocumentInfo docInfo.uid = .ok (some docInfo) :=
  loadDocumentInfo_saveDocumentInfo_self

/-- The documents that were complete before stay complete through every step of a save. -/
lemma Complete.mono {store after : LocalStore} {uid : String} (h : store.Complete uid)
    (hload : after.loadDocumentInfo uid = store.loadDocumentInfo uid)
    (hfiles : ∀ filename, (store.files filename).isSome → (after.files filename).isSome) :
    after.Complete uid := by
  obtain ⟨other, hother, hfile⟩ := h
  exact ⟨other, hload.trans hother, hfiles _ hfile⟩

lemma isSome_files_imaged (store : LocalStore) (jpgImageData : Data) (filename : String)
    (h : (store.files filename).isSome) :
    ((imaged store docInfo jpgImageData).files filename).isSome := by
  by_cases hname : filename = docInfo.imageFileName
  · simp [imaged, hname]
  · simpa [imaged, hname] using h

/-! ## The two outcomes -/

/-- A save that goes all the way leaves a complete new document and a sound store. -/
lemma allOrNothing_of_imaged (hsound : prior.Sound) (hfresh : prior.Fresh docInfo)
    (hkey : docInfo.uid ≠ DATA_UID_KEY) (jpgImageData : Data) :
    let after := archived (imaged (listed prior arrayOfSet docInfo) docInfo jpgImageData) docInfo
    AllOrNothing prior docInfo after ∧ after.Sound := by
  intro after
  have hnew : after.Complete docInfo.uid :=
    ⟨docInfo, archived_loaded _, by simp [after, archived, imaged]⟩
  refine ⟨Or.inl ⟨(mem_archived hkey).mpr mem_listed, hnew⟩, ?_⟩
  intro uid huid
  rcases mem_getUidArray_addUid.mp ((mem_archived hkey).mp huid) with hold | rfl
  · have hne : uid ≠ docInfo.uid := fun h => hfresh.not_listed (h ▸ hold)
    have hcomplete := hsound uid hold
    refine Complete.mono hcomplete ?_ fun filename => isSome_files_imaged _ jpgImageData filename
    calc after.loadDocumentInfo uid
        = (listed prior arrayOfSet docInfo).loadDocumentInfo uid :=
          loadDocumentInfo_saveDocumentInfo_of_ne hne
      _ = prior.loadDocumentInfo uid := loadDocumentInfo_addUid (hcomplete.ne_key hold)
  · exact hnew

/-- A store that lists the new identifier without a complete document is neither outcome. -/
lemma not_allOrNothing (hfresh : prior.Fresh docInfo) {after : LocalStore}
    (hmem : docInfo.uid ∈ after.getUidArray) (hnot : ¬ after.Complete docInfo.uid) :
    ¬ AllOrNothing prior docInfo after := by
  rintro (⟨-, hcomplete⟩ | rfl)
  · exact hnot hcomplete
  · exact hfresh.not_listed hmem

/-- The identifier is listed and its document is not archived yet. -/
lemma not_allOrNothing_of_not_loaded (hfresh : prior.Fresh docInfo)
    (hkey : docInfo.uid ≠ DATA_UID_KEY) {after : LocalStore}
    (h : after.userDefaults = (listed prior arrayOfSet docInfo).userDefaults) :
    ¬ AllOrNothing prior docInfo after := by
  refine not_allOrNothing hfresh ?_ (not_complete_of_not_loaded ?_)
  · rw [LocalStore.getUidArray, h]
    exact mem_listed
  · rw [LocalStore.loadDocumentInfo, h]
    exact listed_not_loaded hfresh hkey

/-- The document is archived and its image was never written. -/
lemma not_allOrNothing_of_no_file (hfresh : prior.Fresh docInfo)
    (hkey : docInfo.uid ≠ DATA_UID_KEY) :
    ¬ AllOrNothing prior docInfo (archived (listed prior arrayOfSet docInfo) docInfo) :=
  not_allOrNothing hfresh ((mem_archived hkey).mpr mem_listed)
    (not_complete_of_no_file (archived_loaded _) hfresh.no_file)

/-! ## The exact condition -/

/-- The save is given none of its steps, or all three of them with an image that has JPEG data
and is written. -/
def Uninterrupted (image : Option UIImage) (writeSucceeds : Bool) (n : ℕ) : Prop :=
  n = 0 ∨ (3 ≤ n ∧ writeSucceeds = true ∧ ∃ picture jpgImageData,
    image = some picture ∧ picture.jpegData = some jpgImageData)

lemma saveStore_none_succ (n : ℕ) :
    saveStore prior arrayOfSet docInfo none writeSucceeds (n + 1) =
      if n = 0 then listed prior arrayOfSet docInfo
      else archived (listed prior arrayOfSet docInfo) docInfo := by
  cases n <;> simp [saveStore, DocumentSaveSceneVC.saveData2Local, runFor, listed, archived]

/-- A picture without JPEG data stops the process in `saveImage`, however many steps are left. -/
lemma saveStore_some_none_succ (n : ℕ) :
    saveStore prior arrayOfSet docInfo (some ⟨none⟩) writeSucceeds (n + 1) =
      listed prior arrayOfSet docInfo := by
  cases n <;> simp [saveStore, DocumentSaveSceneVC.saveData2Local, saveDocumentData, saveImage,
    runFor, listed, Except.map]

lemma saveStore_some_some_succ (jpgImageData : Data) (n : ℕ) :
    let store := if writeSucceeds then imaged (listed prior arrayOfSet docInfo) docInfo jpgImageData
      else listed prior arrayOfSet docInfo
    saveStore prior arrayOfSet docInfo (some ⟨some jpgImageData⟩) writeSucceeds (n + 1) =
      match n with
      | 0 => listed prior arrayOfSet docInfo
      | 1 => store
      | _ + 2 => archived store docInfo := by
  rcases n with _ | _ | n <;> cases writeSucceeds <;>
    simp [saveStore, DocumentSaveSceneVC.saveData2Local, saveDocumentData, saveImage, runFor,
      listed, archived, imaged, Except.map]

/-- **Exactly when a local save is all or nothing.**  From every sound store and for every new
document, the store a save leaves is the prior one or lists the complete new document, and every
listed identifier is complete in it, if and only if the process ends before the first step, or
lasts through the last one with an image that has JPEG data and whose write succeeds. -/
theorem saveData2Local_atomic_iff (prior : LocalStore) (hsound : prior.Sound)
    (arrayOfSet : ArrayOfSet) (uuid : NSUUID) (explain savedDate context : Option String)
    (hfresh : prior.Fresh (DocumentInfo.init uuid explain savedDate context))
    (image : Option UIImage) (writeSucceeds : Bool) (n : ℕ) :
    let docInfo := DocumentInfo.init uuid explain savedDate context
    let after := saveStore prior arrayOfSet docInfo image writeSucceeds n
    (AllOrNothing prior docInfo after ∧ after.Sound) ↔ Uninterrupted image writeSucceeds n := by
  intro docInfo after
  have hkey : docInfo.uid ≠ DATA_UID_KEY := uuid.uuidString_ne_key
  have hunlisted : ∀ {store : LocalStore}, store.userDefaults =
      (listed prior arrayOfSet docInfo).userDefaults → ¬ AllOrNothing prior docInfo store :=
    fun h => not_allOrNothing_of_not_loaded hfresh hkey h
  rcases n with _ | n
  · have hafter : after = prior := runFor_zero _
    rw [hafter]
    exact ⟨fun _ => Or.inl rfl, fun _ => ⟨Or.inr rfl, hsound⟩⟩
  rcases image with _ | ⟨_ | jpgImageData⟩
  · have hafter : after = _ := saveStore_none_succ n
    have hfail : ¬ AllOrNothing prior docInfo after := by
      rw [hafter]
      split
      · exact hunlisted rfl
      · exact not_allOrNothing_of_no_file hfresh hkey
    simp [Uninterrupted, hfail]
  · have hafter : after = _ := saveStore_some_none_succ n
    have hfail : ¬ AllOrNothing prior docInfo after := by
      rw [hafter]
      exact hunlisted rfl
    simp [Uninterrupted, hfail]
  · have hafter : after = _ := saveStore_some_some_succ jpgImageData n
    rcases n with _ | _ | n
    · have hfail : ¬ AllOrNothing prior docInfo after := by
        rw [hafter]
        exact hunlisted rfl
      simp [Uninterrupted, hfail]
    · have hfail : ¬ AllOrNothing prior docInfo after := by
        rw [hafter]
        cases writeSucceeds <;> exact hunlisted rfl
      simp [Uninterrupted, hfail]
    · cases writeSucceeds with
      | false =>
          have hfail : ¬ AllOrNothing prior docInfo after := by
            rw [hafter]
            exact not_allOrNothing_of_no_file hfresh hkey
          simp [Uninterrupted, hfail]
      | true =>
          have hgood : AllOrNothing prior docInfo after ∧ after.Sound := by
            rw [hafter]
            exact allOrNothing_of_imaged hsound hfresh hkey jpgImageData
          simp [Uninterrupted, hgood]

/-! ## A first save -/

/-- The first document a user saves, with no text entered. -/
def firstDocument : DocumentInfo :=
  .init .first none none none

/-- Its picture. -/
def firstPicture : UIImage := ⟨some (.bytes [255, 216])⟩

lemma empty_sound : LocalStore.empty.Sound := fun uid huid => by
  simp [LocalStore.getUidArray, getUidArray, UserDefaults.stringArray, LocalStore.empty,
    UserDefaults.empty] at huid

lemma empty_fresh (docInfo : DocumentInfo) : LocalStore.empty.Fresh docInfo where
  not_listed huid := by
    simp [LocalStore.getUidArray, getUidArray, UserDefaults.stringArray, LocalStore.empty,
      UserDefaults.empty] at huid
  no_value := rfl
  no_file := rfl

theorem saveData2Local_atomic_firstDocument :
    AllOrNothing .empty firstDocument
      (saveStore .empty .inOrder firstDocument (some firstPicture) true 3) :=
  ((saveData2Local_atomic_iff .empty empty_sound .inOrder _ none none none (empty_fresh _)
    (some firstPicture) true 3).mpr (Or.inr ⟨Nat.le_refl 3, rfl, firstPicture, _, rfl, rfl⟩)).1

/-- A process that ends right after `addUid` leaves an identifier that loads no document. -/
theorem saveData2Local_interrupted_firstDocument :
    let after := saveStore .empty .inOrder firstDocument (some firstPicture) true 1
    LocalStore.empty.Sound ∧ LocalStore.empty.Fresh firstDocument ∧
      after.getUidArray = [firstDocument.uid] ∧
      after.loadDocumentInfo firstDocument.uid = .ok none ∧
      ¬ AllOrNothing .empty firstDocument after ∧ ¬ after.Sound := by
  intro after
  have hload : after.loadDocumentInfo firstDocument.uid = .ok none := by decide
  have hlist : after.getUidArray = [firstDocument.uid] := by decide
  have hmem : firstDocument.uid ∈ after.getUidArray := by simp [hlist]
  have hnot := not_complete_of_not_loaded hload
  exact ⟨empty_sound, empty_fresh _, hlist, hload, not_allOrNothing (empty_fresh _) hmem hnot,
    fun hsound => hnot (hsound _ hmem)⟩

end Procon
