import Procon.Construction.DocumentInfo
import Procon.Framework.Run
import Mathlib.Data.List.Dedup
import Mathlib.Logic.Function.Basic

/-!
# The local document store

`DocumentDataOperator` keeps three things on the device: the list of document identifiers under
one key of `UserDefaults`, the archive of every document under a key of its own in the same flat
namespace, and the image of every document as a file.

`addUid` rebuilds the list through `Array(Set(_))`.  Swift leaves the order of a set open and
even lets it differ from one evaluation to the next, so each evaluation is an `ArrayOfSet`: some
function that returns a permutation of the distinct elements.  It is an argument of `addUid`,
never a constant of the model.

The image write is the one step that can fail without stopping the process, and `jpegData` the
one that can stop it: `saveImage` takes the outcome of the write as an argument and traps on an
image without JPEG data.  `DocumentSaveSceneVC.saveData2Local` is the program of the atomic steps
a save makes on these stores.
-/

namespace Procon

/-! ## UserDefaults -/

/-- A value of `UserDefaults`, of the two types this program stores. -/
inductive DefaultsValue
  | stringArray (value : List String)
  | data (value : Data)
  deriving DecidableEq

/-- The flat namespace of `UserDefaults.standard`. -/
structure UserDefaults where
  object : String → Option DefaultsValue

namespace UserDefaults

def empty : UserDefaults := ⟨fun _ => none⟩

def set (userDefaults : UserDefaults) (value : DefaultsValue) (key : String) : UserDefaults :=
  ⟨Function.update userDefaults.object key (some value)⟩

def removeObject (userDefaults : UserDefaults) (key : String) : UserDefaults :=
  ⟨Function.update userDefaults.object key none⟩

/-- `stringArray(forKey:)`. -/
def stringArray (userDefaults : UserDefaults) (key : String) : Option (List String) :=
  match userDefaults.object key with
  | some (.stringArray value) => some value
  | _ => none

/-- `data(forKey:)`. -/
def data (userDefaults : UserDefaults) (key : String) : Option Data :=
  match userDefaults.object key with
  | some (.data value) => some value
  | _ => none

variable {userDefaults : UserDefaults} {key key' : String}

@[simp] lemma object_set_self (value : DefaultsValue) :
    (userDefaults.set value key).object key = some value := Function.update_self ..

@[simp] lemma object_set_of_ne (value : DefaultsValue) (h : key' ≠ key) :
    (userDefaults.set value key).object key' = userDefaults.object key' :=
  Function.update_of_ne h ..

@[simp] lemma object_removeObject_self : (userDefaults.removeObject key).object key = none :=
  Function.update_self ..

@[simp] lemma object_removeObject_of_ne (h : key' ≠ key) :
    (userDefaults.removeObject key).object key' = userDefaults.object key' :=
  Function.update_of_ne h ..

end UserDefaults

/-- One evaluation of `Array(Set(xs))`: the distinct elements of `xs`, in an order that Swift
leaves open. -/
structure ArrayOfSet where
  toArray : List String → List String
  perm : ∀ xs, (toArray xs).Perm xs.dedup

/-- The evaluation that keeps the order in which the elements were appended. -/
def ArrayOfSet.inOrder : ArrayOfSet := ⟨List.dedup, fun _ => List.Perm.refl _⟩

/-! ## DocumentDataOperator -/

namespace DocumentDataOperator

def DATA_UID_KEY : String := "DATA_UID_KEY"

def addUid (arrayOfSet : ArrayOfSet) (uid : String) (userDefaults : UserDefaults) :
    UserDefaults :=
  match userDefaults.stringArray DATA_UID_KEY with
  | some uidArray =>
      userDefaults.set (.stringArray (arrayOfSet.toArray (uidArray ++ [uid]))) DATA_UID_KEY
  | none => userDefaults.set (.stringArray [uid]) DATA_UID_KEY

def removeUid (uid : String) (userDefaults : UserDefaults) : UserDefaults :=
  match userDefaults.stringArray DATA_UID_KEY with
  | some uidArray =>
      userDefaults.set (.stringArray (uidArray.filter fun other => other ≠ uid)) DATA_UID_KEY
  | none => userDefaults

def getUidArray (userDefaults : UserDefaults) : List String :=
  (userDefaults.stringArray DATA_UID_KEY).getD []

def removeDocumentInfo (uid : String) (userDefaults : UserDefaults) : UserDefaults :=
  userDefaults.removeObject uid

def saveDocumentInfo (docInfo : DocumentInfo) (userDefaults : UserDefaults) : UserDefaults :=
  userDefaults.set (.data (archivedData docInfo)) docInfo.uid

def loadDocumentInfo (uid : String) (userDefaults : UserDefaults) :
    Except Trap (Option DocumentInfo) :=
  match userDefaults.data uid with
  | some loadedData => unarchiveDocumentInfo loadedData
  | none => .ok none

end DocumentDataOperator

/-- An image, as far as `jpegData(compressionQuality: 1.0)` tells. -/
structure UIImage where
  jpegData : Option Data
  deriving DecidableEq

/-- The three stores of the device: `UserDefaults` and the files of the documents directory. -/
structure LocalStore where
  userDefaults : UserDefaults
  files : String → Option Data

namespace LocalStore

def empty : LocalStore := ⟨.empty, fun _ => none⟩

def getUidArray (store : LocalStore) : List String :=
  DocumentDataOperator.getUidArray store.userDefaults

def loadDocumentInfo (store : LocalStore) (uid : String) : Except Trap (Option DocumentInfo) :=
  DocumentDataOperator.loadDocumentInfo uid store.userDefaults

end LocalStore

namespace DocumentDataOperator

/-- `loadImageFromPath(filename:)`, for files that hold an image. -/
def loadImageFromPath (filename : String) (store : LocalStore) : Option Data :=
  store.files filename

/-- `saveImage(image:filename:)`: `true` when the atomic write succeeds, `false` when it throws.
An image without JPEG data traps at `jpgImageData!`. -/
def saveImage (image : UIImage) (filename : String) (writeSucceeds : Bool) (store : LocalStore) :
    Except Trap (LocalStore × Bool) :=
  match image.jpegData with
  | none => .error (.forcedUnwrap "jpgImageData")
  | some jpgImageData =>
      if writeSucceeds then
        .ok ({ store with files := Function.update store.files filename (some jpgImageData) }, true)
      else
        .ok (store, false)

/-- The atomic steps of `saveDocumentData(image:docInfo:)`.  It prints what the two steps return
and goes on whatever they return. -/
def saveDocumentData (image : UIImage) (docInfo : DocumentInfo) (writeSucceeds : Bool) :
    List (LocalStore → Except Trap LocalStore) :=
  [fun store => (saveImage image docInfo.imageFileName writeSucceeds store).map Prod.fst,
    fun store => .ok { store with userDefaults := saveDocumentInfo docInfo store.userDefaults }]

end DocumentDataOperator

namespace DocumentSaveSceneVC

open DocumentDataOperator

/-- The atomic steps of `saveData2Local()`. -/
def saveData2Local (arrayOfSet : ArrayOfSet) (docInfo : DocumentInfo) (image : Option UIImage)
    (writeSucceeds : Bool) : List (LocalStore → Except Trap LocalStore) :=
  (fun store =>
    .ok { store with userDefaults := addUid arrayOfSet docInfo.uid store.userDefaults }) ::
  match image with
  | none =>
      [fun store => .ok { store with userDefaults := saveDocumentInfo docInfo store.userDefaults }]
  | some image => saveDocumentData image docInfo writeSucceeds

end DocumentSaveSceneVC

/-! ## What the operations do to the two readings

`getUidArray` and `loadDocumentInfo` are all that the screens read.  Each operation has one lemma
for each of them; the lemmas about `loadDocumentInfo` need the key of the identifier list to
differ from every document's key. -/

namespace DocumentDataOperator

variable {arrayOfSet : ArrayOfSet} {uid uid' : String} {docInfo : DocumentInfo}
  {userDefaults : UserDefaults}

lemma getUidArray_set (uidArray : List String) :
    getUidArray (userDefaults.set (.stringArray uidArray) DATA_UID_KEY) = uidArray := by
  simp [getUidArray, UserDefaults.stringArray]

lemma getUidArray_congr {other : UserDefaults}
    (h : other.object DATA_UID_KEY = userDefaults.object DATA_UID_KEY) :
    getUidArray other = getUidArray userDefaults := by
  simp only [getUidArray, UserDefaults.stringArray, h]

lemma loadDocumentInfo_congr {other : UserDefaults}
    (h : other.object uid = userDefaults.object uid) :
    loadDocumentInfo uid other = loadDocumentInfo uid userDefaults := by
  simp only [loadDocumentInfo, UserDefaults.data, h]

/-- Every `addUid` leaves the distinct elements of the list and the new identifier, in some
order. -/
lemma getUidArray_addUid_perm :
    (getUidArray (addUid arrayOfSet uid userDefaults)).Perm
      (getUidArray userDefaults ++ [uid]).dedup := by
  unfold addUid
  cases h : userDefaults.stringArray DATA_UID_KEY with
  | some uidArray =>
      rw [getUidArray_set, getUidArray, h]
      exact arrayOfSet.perm _
  | none =>
      rw [getUidArray_set, getUidArray, h]
      exact List.Perm.refl _

lemma mem_getUidArray_addUid :
    uid' ∈ getUidArray (addUid arrayOfSet uid userDefaults) ↔
      uid' ∈ getUidArray userDefaults ∨ uid' = uid := by
  rw [getUidArray_addUid_perm.mem_iff, List.mem_dedup, List.mem_append, List.mem_singleton]

lemma nodup_getUidArray_addUid :
    (getUidArray (addUid arrayOfSet uid userDefaults)).Nodup :=
  getUidArray_addUid_perm.nodup_iff.mpr (List.nodup_dedup _)

lemma getUidArray_removeUid :
    getUidArray (removeUid uid userDefaults) =
      (getUidArray userDefaults).filter fun other => other ≠ uid := by
  unfold removeUid
  cases h : userDefaults.stringArray DATA_UID_KEY with
  | some uidArray => rw [getUidArray_set, getUidArray, h]; rfl
  | none => rw [getUidArray, h]; rfl

lemma object_addUid_of_ne (h : uid' ≠ DATA_UID_KEY) :
    (addUid arrayOfSet uid userDefaults).object uid' = userDefaults.object uid' := by
  unfold addUid
  split <;> exact UserDefaults.object_set_of_ne _ h

lemma loadDocumentInfo_addUid (h : uid' ≠ DATA_UID_KEY) :
    loadDocumentInfo uid' (addUid arrayOfSet uid userDefaults) =
      loadDocumentInfo uid' userDefaults :=
  loadDocumentInfo_congr (object_addUid_of_ne h)

lemma loadDocumentInfo_removeUid (h : uid' ≠ DATA_UID_KEY) :
    loadDocumentInfo uid' (removeUid uid userDefaults) = loadDocumentInfo uid' userDefaults := by
  refine loadDocumentInfo_congr ?_
  unfold removeUid
  split
  · exact UserDefaults.object_set_of_ne _ h
  · rfl

lemma getUidArray_saveDocumentInfo (h : docInfo.uid ≠ DATA_UID_KEY) :
    getUidArray (saveDocumentInfo docInfo userDefaults) = getUidArray userDefaults :=
  getUidArray_congr (UserDefaults.object_set_of_ne _ h.symm)

lemma getUidArray_removeDocumentInfo (h : uid ≠ DATA_UID_KEY) :
    getUidArray (removeDocumentInfo uid userDefaults) = getUidArray userDefaults :=
  getUidArray_congr (UserDefaults.object_removeObject_of_ne h.symm)

lemma loadDocumentInfo_saveDocumentInfo_self :
    loadDocumentInfo docInfo.uid (saveDocumentInfo docInfo userDefaults) = .ok (some docInfo) := by
  simp [loadDocumentInfo, UserDefaults.data, saveDocumentInfo]

lemma loadDocumentInfo_saveDocumentInfo_of_ne (h : uid ≠ docInfo.uid) :
    loadDocumentInfo uid (saveDocumentInfo docInfo userDefaults) =
      loadDocumentInfo uid userDefaults :=
  loadDocumentInfo_congr (UserDefaults.object_set_of_ne _ h)

lemma loadDocumentInfo_removeDocumentInfo_self :
    loadDocumentInfo uid (removeDocumentInfo uid userDefaults) = .ok none := by
  simp [loadDocumentInfo, UserDefaults.data, removeDocumentInfo]

lemma loadDocumentInfo_removeDocumentInfo_of_ne (h : uid' ≠ uid) :
    loadDocumentInfo uid' (removeDocumentInfo uid userDefaults) =
      loadDocumentInfo uid' userDefaults :=
  loadDocumentInfo_congr (UserDefaults.object_removeObject_of_ne h)

end DocumentDataOperator

/-- An identifier that `NSUUID` makes is not the key of the identifier list. -/
lemma NSUUID.uuidString_ne_key (uuid : NSUUID) :
    uuid.uuidString ≠ DocumentDataOperator.DATA_UID_KEY := by
  intro h
  have hlen := uuid.length_eq
  rw [h] at hlen
  exact absurd hlen (by decide)

end Procon
