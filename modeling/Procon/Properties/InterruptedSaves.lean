import Procon.Properties.ListScreen
import Procon.Properties.SaveAtomicity

/-!
# What a series of local saves leaves behind

A device is used for a long time, and any of its saves can be cut: by a picture without JPEG data,
by an image write that throws, or by the end of the process between two atomic steps.  The store
outlives all of that, so later saves and later launches meet whatever a cut save has left.

`Describes` says of a store what a list of saves has made of it: which identifiers it lists, what
each of them loads, and which image files exist.  `Describes.apply` is the step lemma, for one more
save that is cut anywhere, and `describes_afterSaves` the run.  `rows_afterSaves_perm` reads the
list screen off: every save that got as far as its first step has one row, and only that save
decides what its row does.
-/

namespace Procon

open DocumentDataOperator DocumentListVC LabelledRun

/-- A local save, with all that decides how far it gets. -/
structure LocalSave where
  arrayOfSet : ArrayOfSet
  uuid : NSUUID
  header : Option String
  date : Option String
  context : Option String
  image : Option UIImage
  writeSucceeds : Bool
  /-- How many atomic steps the process lasts for. -/
  steps : ℕ

namespace LocalSave

def docInfo (save : LocalSave) : DocumentInfo :=
  .init save.uuid save.header save.date save.context

def uid (save : LocalSave) : String := save.uuid.uuidString

/-- The store that the save leaves. -/
def apply (store : LocalStore) (save : LocalSave) : LocalStore :=
  saveStore store save.arrayOfSet save.docInfo save.image save.writeSucceeds save.steps

/-! ## How far a save gets -/

/-- The save gets as far as `addUid`. -/
def lists (save : LocalSave) : Bool := 1 ≤ save.steps

/-- The image file that the save writes. -/
def written (save : LocalSave) : Option Data :=
  match save.image with
  | some ⟨some jpgImageData⟩ =>
      if save.writeSucceeds ∧ 2 ≤ save.steps then some jpgImageData else none
  | _ => none

/-- The save gets as far as `saveDocumentInfo`. -/
def archives (save : LocalSave) : Bool :=
  match save.image with
  | none => 2 ≤ save.steps
  | some ⟨none⟩ => false
  | some ⟨some _⟩ => 3 ≤ save.steps

/-- What the row of the save shows. -/
def cell (save : LocalSave) : Except Trap DocumentDataCell :=
  if save.archives then .ok ⟨save.docInfo, save.written⟩
  else .error (.assertion "loaded document info class -> nil")

/-- What a tap on the row of the save opens. -/
def opened (save : LocalSave) : Except Trap (DocumentInfo × String) :=
  if save.archives then
    .ok (save.docInfo, describing save.header ++ "\n" ++ describing save.date)
  else .error (.assertion "loaded document info class -> nil")

variable {save other : LocalSave} {store : LocalStore}

lemma uid_docInfo : save.docInfo.uid = save.uid := rfl

lemma uid_ne_key : save.uid ≠ DATA_UID_KEY := save.uuid.uuidString_ne_key

lemma imageFileName_inj :
    save.docInfo.imageFileName = other.docInfo.imageFileName ↔ save.uid = other.uid :=
  String.append_left_inj ".jpg"

lemma lists_of_archives (h : save.archives = true) : save.lists = true := by
  unfold archives at h
  unfold lists
  split at h
  · simp only [decide_eq_true_eq] at h ⊢
    omega
  · cases h
  · simp only [decide_eq_true_eq] at h ⊢
    omega

/-- The identifier list and the archives of the store that a save leaves. -/
lemma userDefaults_apply :
    (save.apply store).userDefaults =
      if save.archives then
        saveDocumentInfo save.docInfo (addUid save.arrayOfSet save.uid store.userDefaults)
      else if save.lists then addUid save.arrayOfSet save.uid store.userDefaults
      else store.userDefaults := by
  obtain ⟨arrayOfSet, uuid, header, date, context, image, writeSucceeds, steps⟩ := save
  unfold apply archives lists
  rcases steps with _ | n
  · rcases image with _ | ⟨_ | jpgImageData⟩ <;> simp [saveStore]
  · rcases image with _ | ⟨_ | jpgImageData⟩
    · rw [saveStore_none_succ]
      cases n <;> simp [listed, archived, uid_docInfo]
    · rw [saveStore_some_none_succ]
      simp [listed, uid_docInfo]
    · rw [saveStore_some_some_succ]
      rcases n with _ | _ | n <;> cases writeSucceeds <;>
        simp [listed, archived, imaged, uid_docInfo]

/-- The image files of the store that a save leaves. -/
lemma files_apply :
    (save.apply store).files =
      match save.written with
      | some jpgImageData =>
          Function.update store.files save.docInfo.imageFileName (some jpgImageData)
      | none => store.files := by
  obtain ⟨arrayOfSet, uuid, header, date, context, image, writeSucceeds, steps⟩ := save
  unfold apply written
  rcases steps with _ | n
  · rcases image with _ | ⟨_ | jpgImageData⟩ <;> simp [saveStore]
  · rcases image with _ | ⟨_ | jpgImageData⟩
    · rw [saveStore_none_succ]
      cases n <;> rfl
    · rw [saveStore_some_none_succ]
      rfl
    · rw [saveStore_some_some_succ]
      rcases n with _ | _ | n <;> cases writeSucceeds <;> simp [listed, archived, imaged]

/-- A new identifier is listed after the others, in whatever order the set is read out. -/
lemma getUidArray_apply_perm (hnodup : store.getUidArray.Nodup)
    (hnew : save.uid ∉ store.getUidArray) :
    (save.apply store).getUidArray.Perm
      (store.getUidArray ++ if save.lists then [save.uid] else []) := by
  have haddUid : (getUidArray (addUid save.arrayOfSet save.uid store.userDefaults)).Perm
      (store.getUidArray ++ [save.uid]) := by
    have hdistinct : (store.getUidArray ++ [save.uid]).Nodup := by
      rw [List.nodup_append_comm]
      exact List.nodup_cons.mpr ⟨hnew, hnodup⟩
    exact getUidArray_addUid_perm.trans (List.Perm.of_eq (List.dedup_eq_self.mpr hdistinct))
  unfold LocalStore.getUidArray
  rw [userDefaults_apply]
  by_cases harchives : save.archives
  · rw [if_pos harchives, if_pos (lists_of_archives harchives),
      getUidArray_saveDocumentInfo uid_ne_key]
    exact haddUid
  · rw [if_neg harchives]
    by_cases hlists : save.lists
    · rw [if_pos hlists, if_pos hlists]
      exact haddUid
    · rw [if_neg hlists, if_neg hlists, List.append_nil]

/-- Under every key but the document's own, a save leaves what was there. -/
lemma object_apply_of_ne {key : String} (huid : key ≠ save.uid) (hkey : key ≠ DATA_UID_KEY) :
    (save.apply store).userDefaults.object key = store.userDefaults.object key := by
  have haddUid : (addUid save.arrayOfSet save.uid store.userDefaults).object key =
      store.userDefaults.object key := object_addUid_of_ne hkey
  rw [userDefaults_apply]
  split
  · rw [← haddUid]
    exact UserDefaults.object_set_of_ne _ huid
  · split
    · exact haddUid
    · rfl

lemma loadDocumentInfo_apply_self (hnone : store.userDefaults.object save.uid = none) :
    (save.apply store).loadDocumentInfo save.uid =
      .ok (if save.archives then some save.docInfo else none) := by
  by_cases harchives : save.archives
  · rw [LocalStore.loadDocumentInfo, userDefaults_apply, if_pos harchives, if_pos harchives]
    exact loadDocumentInfo_saveDocumentInfo_self
  · have hobject : (save.apply store).userDefaults.object save.uid = none := by
      rw [userDefaults_apply, if_neg harchives]
      split
      · rw [object_addUid_of_ne uid_ne_key, hnone]
      · exact hnone
    rw [if_neg harchives]
    simp [LocalStore.loadDocumentInfo, loadDocumentInfo, UserDefaults.data, hobject]

lemma files_apply_self (hnone : store.files save.docInfo.imageFileName = none) :
    (save.apply store).files save.docInfo.imageFileName = save.written := by
  rw [files_apply]
  cases save.written with
  | some jpgImageData => exact Function.update_self ..
  | none => exact hnone

lemma files_apply_of_ne {filename : String} (h : filename ≠ save.docInfo.imageFileName) :
    (save.apply store).files filename = store.files filename := by
  rw [files_apply]
  cases save.written with
  | some jpgImageData => exact Function.update_of_ne h ..
  | none => rfl

end LocalSave

/-! ## A series of saves -/

/-- The store of a device after a list of saves. -/
def afterSaves (saves : List LocalSave) : LocalStore :=
  saves.foldl LocalSave.apply .empty

/-- What a list of saves has made of a store. -/
structure Describes (store : LocalStore) (saves : List LocalSave) : Prop where
  uids : store.getUidArray.Perm ((saves.filter LocalSave.lists).map LocalSave.uid)
  load : ∀ save ∈ saves,
    store.loadDocumentInfo save.uid = .ok (if save.archives then some save.docInfo else none)
  image : ∀ save ∈ saves, store.files save.docInfo.imageFileName = save.written
  no_value : ∀ key, key ∉ saves.map LocalSave.uid → key ≠ DATA_UID_KEY →
    store.userDefaults.object key = none
  no_file : ∀ filename, filename ∉ saves.map (fun save => save.docInfo.imageFileName) →
    store.files filename = none

lemma describes_empty : Describes .empty [] where
  uids := List.Perm.refl _
  load := by simp
  image := by simp
  no_value _ _ _ := rfl
  no_file _ _ := rfl

variable {store : LocalStore} {saves : List LocalSave} {save : LocalSave}

lemma Describes.mem_getUidArray (h : Describes store saves) {uid : String} :
    uid ∈ store.getUidArray ↔ ∃ save ∈ saves, save.lists ∧ save.uid = uid := by
  rw [h.uids.mem_iff, List.mem_map]
  simp [List.mem_filter, and_assoc]

lemma Describes.nodup (h : Describes store saves) (hnodup : (saves.map LocalSave.uid).Nodup) :
    store.getUidArray.Nodup :=
  h.uids.nodup_iff.mpr (hnodup.sublist (List.filter_sublist.map _))

/-- **The step lemma.**  One more save of a new document, cut anywhere. -/
lemma Describes.apply (h : Describes store saves)
    (hnodup : ((saves ++ [save]).map LocalSave.uid).Nodup) :
    Describes (save.apply store) (saves ++ [save]) := by
  rw [List.map_append, List.map_singleton, List.nodup_append_comm] at hnodup
  obtain ⟨hnew, hold⟩ := List.nodup_cons.mp hnodup
  have hne : ∀ other ∈ saves, other.uid ≠ save.uid := by
    intro other hother heq
    exact hnew (heq ▸ List.mem_map_of_mem hother)
  have hunlisted : save.uid ∉ store.getUidArray := by
    intro hmem
    obtain ⟨other, hother, -, huid⟩ := h.mem_getUidArray.mp hmem
    exact hne other hother huid
  have hnofile : save.docInfo.imageFileName ∉
      saves.map fun other => other.docInfo.imageFileName := by
    intro hmem
    obtain ⟨other, hother, hname⟩ := List.mem_map.mp hmem
    exact hne other hother (LocalSave.imageFileName_inj.mp hname)
  refine ⟨?_, ?_, ?_, ?_, ?_⟩
  · refine (LocalSave.getUidArray_apply_perm (h.nodup hold) hunlisted).trans ?_
    rw [List.filter_append, List.map_append]
    refine h.uids.append ?_
    cases hlists : save.lists <;> simp [hlists]
  · intro other hother
    rcases List.mem_append.mp hother with hother | hother
    · rw [← h.load other hother]
      exact loadDocumentInfo_congr
        (LocalSave.object_apply_of_ne (hne other hother) LocalSave.uid_ne_key)
    · obtain rfl := List.mem_singleton.mp hother
      exact LocalSave.loadDocumentInfo_apply_self (h.no_value _ hnew LocalSave.uid_ne_key)
  · intro other hother
    rcases List.mem_append.mp hother with hother | hother
    · rw [← h.image other hother]
      refine LocalSave.files_apply_of_ne fun hname => ?_
      exact hne other hother (LocalSave.imageFileName_inj.mp hname)
    · obtain rfl := List.mem_singleton.mp hother
      exact LocalSave.files_apply_self (h.no_file _ hnofile)
  · intro key hkey hne_key
    rw [List.map_append, List.mem_append, not_or] at hkey
    have huid : key ≠ save.uid := by simpa using hkey.2
    rw [LocalSave.object_apply_of_ne huid hne_key]
    exact h.no_value key hkey.1 hne_key
  · intro filename hfilename
    rw [List.map_append, List.mem_append, not_or] at hfilename
    have hname : filename ≠ save.docInfo.imageFileName := by simpa using hfilename.2
    rw [LocalSave.files_apply_of_ne hname]
    exact h.no_file filename hfilename.1

/-- **The run lemma.** -/
lemma describes_afterSaves (saves : List LocalSave) (hnodup : (saves.map LocalSave.uid).Nodup) :
    Describes (afterSaves saves) saves := by
  induction saves using List.reverseRecOn with
  | nil => exact describes_empty
  | append_singleton saves save ih =>
      rw [afterSaves, List.foldl_append]
      refine Describes.apply (ih ?_) hnodup
      rw [List.map_append] at hnodup
      exact hnodup.of_append_left

/-! ## The rows of the list -/

/-- The rows of a list screen are the identifiers of its store, each loaded on its own. -/
lemma map_range_numberOfRows {α : Type*} {f : ℕ → α} {g : String → α}
    (h : ∀ row uid, store.getUidArray[row]? = some uid → f row = g uid) :
    (List.range (numberOfRows store)).map f = store.getUidArray.map g := by
  refine List.ext_getElem? fun row => ?_
  unfold numberOfRows
  rw [List.getElem?_map, List.getElem?_map]
  by_cases hrow : row < store.getUidArray.length
  · rw [List.getElem?_range hrow, List.getElem?_eq_getElem hrow, Option.map_some, Option.map_some,
      h row _ (List.getElem?_eq_getElem hrow)]
  · rw [List.getElem?_eq_none (by simpa using hrow), List.getElem?_eq_none (by omega)]
    rfl

/-- The document that the list loads for an identifier. -/
def documentOf (store : LocalStore) (uid : String) : Except Trap DocumentInfo := do
  match ← store.loadDocumentInfo uid with
  | none => .error (.assertion "loaded document info class -> nil")
  | some docInfo => .ok docInfo

lemma documentAt_of_getElem? {row : ℕ} {uid : String} (h : store.getUidArray[row]? = some uid) :
    documentAt store row = documentOf store uid := by
  rw [documentAt, h]
  rfl

lemma Describes.documentOf_eq (h : Describes store saves) (hsave : save ∈ saves) :
    documentOf store save.uid = if save.archives then .ok save.docInfo
      else .error (.assertion "loaded document info class -> nil") := by
  unfold documentOf
  rw [h.load save hsave]
  cases save.archives <;> rfl

lemma Describes.cell (h : Describes store saves) (hsave : save ∈ saves) :
    (documentOf store save.uid).map (fun docInfo =>
      ⟨docInfo, loadImageFromPath docInfo.imageFileName store⟩) = save.cell := by
  rw [h.documentOf_eq hsave, LocalSave.cell, ← h.image save hsave]
  cases save.archives <;> rfl

lemma Describes.opened (h : Describes store saves) (hsave : save ∈ saves) :
    (documentOf store save.uid).map (fun docInfo =>
      (docInfo, describing docInfo.explain ++ "\n" ++ describing docInfo.savedDate)) =
        save.opened := by
  rw [h.documentOf_eq hsave, LocalSave.opened]
  cases save.archives <;> rfl

/-- What a list screen does with its rows is, in some order, what the saves have left to do. -/
lemma Describes.map_rows_perm {α : Type*} (h : Describes store saves)
    {f : ℕ → Except Trap α} {g : DocumentInfo → α} {k : LocalSave → Except Trap α}
    (hf : ∀ row, f row = (documentAt store row).map g)
    (hk : ∀ save ∈ saves, (documentOf store save.uid).map g = k save) :
    ((List.range (numberOfRows store)).map f).Perm ((saves.filter LocalSave.lists).map k) := by
  have hrows : (List.range (numberOfRows store)).map f =
      store.getUidArray.map fun uid => (documentOf store uid).map g := by
    refine map_range_numberOfRows fun row uid huid => ?_
    rw [hf, documentAt_of_getElem? huid]
  rw [hrows]
  refine (h.uids.map _).trans (List.Perm.of_eq ?_)
  rw [List.map_map]
  exact List.map_congr_left fun save hsave => hk save (List.mem_of_mem_filter hsave)

lemma Describes.cells_perm (h : Describes store saves) :
    ((List.range (numberOfRows store)).map (cellForRowAt store)).Perm
      ((saves.filter LocalSave.lists).map LocalSave.cell) := by
  refine h.map_rows_perm (fun row => ?_) fun save hsave => h.cell hsave
  rw [cellForRowAt]
  cases documentAt store row <;> rfl

/-- **One cut save breaks the list for good.**  All rows of the list can be shown exactly when no
save of the whole history was cut between `addUid` and `saveDocumentInfo`; what is saved later
never repairs it. -/
theorem rows_shown_iff (saves : List LocalSave) (hnodup : (saves.map LocalSave.uid).Nodup) :
    (∀ row < numberOfRows (afterSaves saves),
      ∃ cell, cellForRowAt (afterSaves saves) row = .ok cell) ↔
        ∀ save ∈ saves, save.lists → save.archives := by
  have h : Describes (afterSaves saves) saves := describes_afterSaves saves hnodup
  have hmem : ∀ trapped : Except Trap DocumentDataCell,
      (∃ row < numberOfRows (afterSaves saves), cellForRowAt (afterSaves saves) row = trapped) ↔
        ∃ save ∈ saves, save.lists ∧ save.cell = trapped := by
    intro trapped
    have hiff := h.cells_perm.mem_iff (a := trapped)
    simpa [List.mem_map, List.mem_filter, and_assoc] using hiff
  constructor
  · intro hshown save hsave hlists
    obtain ⟨row, hrow, hcell⟩ := (hmem save.cell).mpr ⟨save, hsave, hlists, rfl⟩
    obtain ⟨cell, hok⟩ := hshown row hrow
    by_contra harchives
    rw [hcell, LocalSave.cell, if_neg harchives] at hok
    cases hok
  · intro hall row hrow
    obtain ⟨save, hsave, hlists, hcell⟩ := (hmem _).mp ⟨row, hrow, rfl⟩
    rw [← hcell, LocalSave.cell, if_pos (hall save hsave hlists)]
    exact ⟨_, rfl⟩

/-- A save that ends after its first step, and a later one that goes all the way. -/
def cutSave : List LocalSave :=
  [⟨.inOrder, .first, none, none, none, some firstPicture, true, 1⟩,
    ⟨.inOrder, .second, some "title", none, some "text", some firstPicture, true, 3⟩]

theorem rows_shown_iff_cutSave :
    (cutSave.map LocalSave.uid).Nodup ∧
      ¬ ∀ row < numberOfRows (afterSaves cutSave),
        ∃ cell, cellForRowAt (afterSaves cutSave) row = .ok cell :=
  ⟨by decide, fun h => absurd ((rows_shown_iff cutSave (by decide)).mp h) (by decide)⟩

end Procon
