import Procon.Construction.DocumentDataOperator

/-!
# The local list screen

`DocumentListVC` shows the documents of the device.  Neither method of the screen keeps anything:
`numberOfRows`, `cellForRowAt` and `didSelectRowAt` all read the store again, and the last two
find the document of a row by the row's position in the identifier list of that moment.  What
ties them together is the table view, which remembers the row count of its last reload and the
cells it has been given.

`step` is one event of the screen: a completed save from `DocumentSaveSceneVC`, a reload, a
request for a cell, a tap on a row, or a new launch of the app.  UIKit asks only for rows below
the remembered count.  Every event comes with one evaluation of `Array(Set(_))`, which a save
uses.
-/

namespace Procon

open DocumentDataOperator

/-- What a cell shows: the labels are the fields of the document, the picture is its file. -/
structure DocumentDataCell where
  docInfo : DocumentInfo
  image : Option Data
  deriving DecidableEq

/-- The screen, the table view it serves and the store it reads. -/
structure DocumentListVC where
  store : LocalStore
  /-- The row count at the last reload. -/
  rows : ℕ
  /-- The cell each row was last filled with. -/
  cells : ℕ → Option DocumentDataCell
  /-- The message of the alert that a tap presents. -/
  alert : Option String
  trap : Option Trap

namespace DocumentListVC

/-- The app right after a launch; the table has not asked for anything yet. -/
def launch (store : LocalStore) : DocumentListVC where
  store := store
  rows := 0
  cells := fun _ => none
  alert := none
  trap := none

def numberOfRows (store : LocalStore) : ℕ := store.getUidArray.length

/-- The document of a row, as both `cellForRowAt` and `didSelectRowAt` look it up. -/
def documentAt (store : LocalStore) (row : ℕ) : Except Trap DocumentInfo :=
  match store.getUidArray[row]? with
  | none => .error (.assertion "index is out of range uid array")
  | some uid => do
      match ← store.loadDocumentInfo uid with
      | none => .error (.assertion "loaded document info class -> nil")
      | some docInfo => .ok docInfo

def cellForRowAt (store : LocalStore) (row : ℕ) : Except Trap DocumentDataCell := do
  let docInfo ← documentAt store row
  return { docInfo := docInfo, image := loadImageFromPath docInfo.imageFileName store }

/-- `Unicode.Scalar.escaped(asASCII: false)`. -/
def escaped (scalar : Char) : String :=
  match scalar with
  | '\\' => "\\\\"
  | '\'' => "\\'"
  | '"' => "\\\""
  | '\x00' => "\\0"
  | '\n' => "\\n"
  | '\r' => "\\r"
  | '\t' => "\\t"
  | _ =>
      if scalar.toNat < 0x20 ∨ scalar.toNat = 0x7f then
        "\\u\x7b" ++ lowNibbleAsHex (scalar.toNat / 16) ++ lowNibbleAsHex scalar.toNat ++ "\x7d"
      else scalar.toString
where
  lowNibbleAsHex (v : ℕ) : String := (Nat.digitChar (v % 16)).toUpper.toString

/-- `String.debugDescription`. -/
def debugDescription (value : String) : String :=
  "\"" ++ String.join (value.toList.map escaped) ++ "\""

/-- `String(describing:)` of an optional string, which shows the debug description of the value. -/
def describing : Option String → String
  | none => "nil"
  | some value => "Optional(" ++ debugDescription value ++ ")"

example : describing (some "a \"b\"\tc") = "Optional(\"a \\\"b\\\"\\tc\")" := by decide

/-- The document a tap loads, with the message of the alert it presents. -/
def didSelectRowAt (store : LocalStore) (row : ℕ) : Except Trap (DocumentInfo × String) := do
  let docInfo ← documentAt store row
  return (docInfo, describing docInfo.explain ++ "\n" ++ describing docInfo.savedDate)

end DocumentListVC

/-- An event of the local list screen. -/
inductive ListEvent
  | saveData2Local (uuid : NSUUID) (header date context : Option String) (image : Option UIImage)
      (writeSucceeds : Bool)
  | refresh
  | cellForRowAt (row : ℕ)
  | didSelectRowAt (row : ℕ)
  | relaunch

namespace DocumentListVC

/-- One event.  A save that traps is not a completed save and no event of this screen. -/
def step (vc : DocumentListVC) (e : ListEvent × ArrayOfSet) : Option DocumentListVC :=
  if vc.trap.isSome then none else
  match e.1 with
  | .saveData2Local uuid header date context image writeSucceeds =>
      match LabelledRun.runAll (DocumentSaveSceneVC.saveData2Local e.2
        (.init uuid header date context) image writeSucceeds) vc.store with
      | .ok store => some { vc with store := store }
      | .error _ => none
  | .refresh => some { vc with rows := numberOfRows vc.store }
  | .cellForRowAt row =>
      if row < vc.rows then
        match cellForRowAt vc.store row with
        | .ok cell => some { vc with cells := Function.update vc.cells row (some cell) }
        | .error trap => some { vc with trap := some trap }
      else none
  | .didSelectRowAt row =>
      if row < vc.rows then
        match didSelectRowAt vc.store row with
        | .ok (_, message) => some { vc with alert := some message }
        | .error trap => some { vc with trap := some trap }
      else none
  | .relaunch => some (launch vc.store)

/-! ## What one event can do -/

/-- A completed save lists the new identifier and archives the document under it. -/
lemma userDefaults_of_runAll {arrayOfSet : ArrayOfSet} {docInfo : DocumentInfo}
    {image : Option UIImage} {writeSucceeds : Bool} {store store' : LocalStore}
    (h : LabelledRun.runAll (DocumentSaveSceneVC.saveData2Local arrayOfSet docInfo image
      writeSucceeds) store = .ok store') :
    store'.userDefaults =
      saveDocumentInfo docInfo (addUid arrayOfSet docInfo.uid store.userDefaults) := by
  rcases image with _ | ⟨_ | jpgImageData⟩
  · cases h
    rfl
  · cases h
  · cases writeSucceeds <;> cases h <;> rfl

/-- Whether a save completes does not depend on the store it meets. -/
lemma exists_runAll_ok_iff {arrayOfSet : ArrayOfSet} {docInfo : DocumentInfo}
    {image : Option UIImage} {writeSucceeds : Bool} {store : LocalStore} :
    (∃ store', LabelledRun.runAll (DocumentSaveSceneVC.saveData2Local arrayOfSet docInfo image
      writeSucceeds) store = .ok store') ↔ ∀ picture, image = some picture →
        picture.jpegData.isSome := by
  rcases image with _ | ⟨_ | jpgImageData⟩
  · constructor
    · intro _ picture h
      cases h
    · intro _
      exact ⟨_, rfl⟩
  · constructor
    · rintro ⟨_, h⟩
      cases h
    · intro h
      exact absurd (h _ rfl) (by simp)
  · constructor
    · intro _ picture h
      cases h
      rfl
    · intro _
      cases writeSucceeds <;> exact ⟨_, rfl⟩

end DocumentListVC

end Procon
