import Procon.Framework.CollectingLoop

/-!
# Documents and their keyed archives

`DocumentInfo` is the record both stores keep: `UserDefaults` on the device and the `documents`
collection online hold it as the `Data` of a keyed archive.  The archiver is modelled by what the
two coding methods see of it: an archive is a tree of objects, and an object of the class
`DocumentInfo` holds the objects that were encoded under its keys.

Bytes that are no keyed archive, archives of other classes, and objects of the class
`DocumentInfo` with missing or foreign values are all `Data` too, because `unarchiveDocumentInfo`
meets them in data that other clients have written.  An object is decoded when its owner asks for
it, so a foreign object may hide further objects of the class `DocumentInfo`, whose own
`init?(coder:)` then runs.  Decoding has three outcomes: a document, nothing, or a trap of the two
forced casts in `init?(coder:)`.

`unarchiveDocumentInfo_archivedData` is the round trip the local store, the upload and the online
list all rest on.
-/

namespace Procon

open CollectingLoop

/-- The ways this program stops the process. -/
inductive Trap
  | assertion (message : String)
  | forcedUnwrap (expression : String)
  | forcedCast (key : String)
  | indexOutOfRange (collection : String)
  deriving DecidableEq, Repr

/-- `NSUUID().uuidString`, a string of 36 characters. -/
structure NSUUID where
  uuidString : String
  length_eq : uuidString.length = 36

/-- Two identifiers, for runs on fixed inputs. -/
def NSUUID.first : NSUUID := ⟨"3F2504E0-4F89-41D3-9A0C-0305E82C3301", rfl⟩

def NSUUID.second : NSUUID := ⟨"9B2C7A54-1D0E-4E6B-8F3A-6C5D4E3F2A10", rfl⟩

/-! ## Keyed archives -/

/-- An object of a keyed archive. -/
inductive CodedValue
  | null
  | string (value : String)
  /-- An object of another class, with the objects that its own `init(coder:)` decodes. -/
  | other (decoded : List CodedValue)
  /-- An object of the class `DocumentInfo`, with the objects encoded under its keys. -/
  | documentInfo (values : List (String × CodedValue))

namespace CodedValue

mutual

def decEq : (a b : CodedValue) → Decidable (a = b)
  | .null, .null => isTrue rfl
  | .string value, .string value' => decidable_of_iff (value = value') (by simp)
  | .other decoded, .other decoded' =>
      haveI := decEqList decoded decoded'
      decidable_of_iff (decoded = decoded') (by simp)
  | .documentInfo values, .documentInfo values' =>
      haveI := decEqValues values values'
      decidable_of_iff (values = values') (by simp)
  | .null, .string _ | .null, .other _ | .null, .documentInfo _
  | .string _, .null | .string _, .other _ | .string _, .documentInfo _
  | .other _, .null | .other _, .string _ | .other _, .documentInfo _
  | .documentInfo _, .null | .documentInfo _, .string _ | .documentInfo _, .other _ =>
      isFalse nofun

def decEqList : (as bs : List CodedValue) → Decidable (as = bs)
  | [], [] => isTrue rfl
  | a :: as, b :: bs =>
      haveI := decEq a b
      haveI := decEqList as bs
      decidable_of_iff (a = b ∧ as = bs) (by simp)
  | [], _ :: _ | _ :: _, [] => isFalse nofun

def decEqValues : (as bs : List (String × CodedValue)) → Decidable (as = bs)
  | [], [] => isTrue rfl
  | (key, a) :: as, (key', b) :: bs =>
      haveI := decEq a b
      haveI := decEqValues as bs
      decidable_of_iff (key = key' ∧ a = b ∧ as = bs) (by simp [and_assoc])
  | [], _ :: _ | _ :: _, [] => isFalse nofun

end

instance : DecidableEq CodedValue := decEq

section Induction

variable {motive : CodedValue → Prop} (null : motive .null)
  (string : ∀ value, motive (.string value))
  (other : ∀ decoded, (∀ value ∈ decoded, motive value) → motive (.other decoded))
  (documentInfo : ∀ values, (∀ entry ∈ values, motive entry.2) → motive (.documentInfo values))

include null string other documentInfo

-- the lists use the cases through `induction`
set_option linter.unusedSectionVars false

mutual

/-- Induction over the objects of an archive. -/
@[elab_as_elim, induction_eliminator]
theorem induction : ∀ root, motive root
  | .null => null
  | .string value => string value
  | .other decoded => other decoded (induction_list decoded)
  | .documentInfo values => documentInfo values (induction_values values)

theorem induction_list : ∀ decoded : List CodedValue, ∀ value ∈ decoded, motive value
  | [] => List.forall_mem_nil _
  | value :: rest => List.forall_mem_cons.mpr ⟨induction value, induction_list rest⟩

theorem induction_values :
    ∀ values : List (String × CodedValue), ∀ entry ∈ values, motive entry.2
  | [] => List.forall_mem_nil _
  | (_, value) :: rest => List.forall_mem_cons.mpr ⟨induction value, induction_values rest⟩

end

end Induction

end CodedValue

/-- The contents of a `Data` value: plain bytes, or a keyed archive of one root object. -/
inductive Data
  | bytes (content : List UInt8)
  | archive (root : CodedValue)
  deriving DecidableEq

/-! ## DocumentInfo -/

structure DocumentInfo where
  uid : String
  imageFileName : String
  explain : Option String
  savedDate : Option String
  context : Option String
  deriving DecidableEq, Repr

/-- What decoding an object gives. -/
inductive DecodedObject
  | null
  | string (value : String)
  | other
  | documentInfo (docInfo : DocumentInfo)
  deriving DecidableEq, Repr

/-- `as? String`. -/
def DecodedObject.asString? : DecodedObject → Option String
  | .string value => some value
  | _ => none

/-- `as? DocumentInfo`. -/
def DecodedObject.asDocumentInfo? : DecodedObject → Option DocumentInfo
  | .documentInfo docInfo => some docInfo
  | _ => none

/-- The coder that encodes one object: the values it has got so far. -/
structure NSKeyedArchiver where
  values : List (String × CodedValue)

namespace NSKeyedArchiver

def empty : NSKeyedArchiver := ⟨[]⟩

/-- `encode(_:forKey:)`; a nil object is encoded as a null reference. -/
def encode (aCoder : NSKeyedArchiver) (value : Option String) (key : String) : NSKeyedArchiver :=
  ⟨aCoder.values ++ [(key, (value.map CodedValue.string).getD .null)]⟩

end NSKeyedArchiver

/-- The coder that decodes one object: what decoding the value under each key does. -/
structure NSKeyedUnarchiver where
  values : List (String × Except Trap DecodedObject)

namespace NSKeyedUnarchiver

/-- `decodeObject(forKey:)`, nil for a key that was not encoded. -/
def decodeObject (aDecoder : NSKeyedUnarchiver) (key : String) : Except Trap DecodedObject :=
  (aDecoder.values.lookup key).getD (.ok .null)

/-- `decodeObject(forKey:) as? String`. -/
def decodeString? (aDecoder : NSKeyedUnarchiver) (key : String) :
    Except Trap (Option String) :=
  (aDecoder.decodeObject key).map DecodedObject.asString?

/-- `decodeObject(forKey:) as! String`. -/
def decodeString! (aDecoder : NSKeyedUnarchiver) (key : String) : Except Trap String := do
  match ← aDecoder.decodeString? key with
  | some value => return value
  | none => .error (.forcedCast key)

end NSKeyedUnarchiver

namespace DocumentInfo

/-- `init(explain:savedDate:context:)`, with the identifier that `NSUUID()` returns. -/
def init (uuid : NSUUID) (explain savedDate context : Option String) : DocumentInfo where
  uid := uuid.uuidString
  imageFileName := uuid.uuidString ++ ".jpg"
  explain := explain
  savedDate := savedDate
  context := context

def encode (docInfo : DocumentInfo) (aCoder : NSKeyedArchiver) : NSKeyedArchiver :=
  ((((aCoder.encode docInfo.uid "uid").encode docInfo.imageFileName "imageFileName").encode
    docInfo.explain "explain").encode docInfo.savedDate "savedDate").encode
    docInfo.context "context"

/-- `init?(coder:)`. -/
def initCoder (aDecoder : NSKeyedUnarchiver) : Except Trap DocumentInfo := do
  let uid ← aDecoder.decodeString! "uid"
  let imageFileName ← aDecoder.decodeString! "imageFileName"
  let explain ← aDecoder.decodeString? "explain"
  let savedDate ← aDecoder.decodeString? "savedDate"
  let context ← aDecoder.decodeString? "context"
  return ⟨uid, imageFileName, explain, savedDate, context⟩

end DocumentInfo

mutual

/-- Decode an object of an archive. -/
def CodedValue.decode : CodedValue → Except Trap DecodedObject
  | .null => .ok .null
  | .string value => .ok (.string value)
  | .other decoded => (decodeAll decoded).map fun _ => .other
  | .documentInfo values => (DocumentInfo.initCoder ⟨decodeValues values⟩).map .documentInfo

/-- What the `init(coder:)` of another class does to the objects it decodes. -/
def decodeAll : List CodedValue → Except Trap Unit
  | [] => .ok ()
  | value :: rest => value.decode >>= fun _ => decodeAll rest

/-- What decoding each value of an object would do. -/
def decodeValues : List (String × CodedValue) → List (String × Except Trap DecodedObject)
  | [] => []
  | (key, value) :: rest => (key, value.decode) :: decodeValues rest

end

/-- The decoder reads back, under each key, what the encoder has written there. -/
lemma DocumentInfo.initCoder_encode (docInfo : DocumentInfo) :
    initCoder ⟨decodeValues (docInfo.encode .empty).values⟩ = .ok docInfo := by
  obtain ⟨uid, imageFileName, explain, savedDate, context⟩ := docInfo
  cases explain <;> cases savedDate <;> cases context <;> rfl

/-- `NSKeyedArchiver.archivedData(withRootObject: docInfo, requiringSecureCoding: true)`. -/
def archivedData (docInfo : DocumentInfo) : Data :=
  .archive (.documentInfo (docInfo.encode .empty).values)

/-- `try? NSKeyedUnarchiver.unarchiveTopLevelObjectWithData(docData) as? DocumentInfo`: an error
that the unarchiver throws and an object of another class both give nil, but a trap inside
`init?(coder:)` stops the process. -/
def unarchiveDocumentInfo (docData : Data) : Except Trap (Option DocumentInfo) :=
  match docData with
  | .bytes _ => .ok none
  | .archive root => root.decode.map DecodedObject.asDocumentInfo?

/-- **The archive round trip.** -/
@[simp] theorem unarchiveDocumentInfo_archivedData (docInfo : DocumentInfo) :
    unarchiveDocumentInfo (archivedData docInfo) = .ok (some docInfo) := by
  rw [archivedData, unarchiveDocumentInfo, CodedValue.decode, DocumentInfo.initCoder_encode]
  rfl

/-! ## What decoding an object can do -/

lemma lookup_decodeValues (values : List (String × CodedValue)) (key : String) :
    (decodeValues values).lookup key = (values.lookup key).map CodedValue.decode := by
  induction values with
  | nil => rfl
  | cons entry rest ih =>
      obtain ⟨key', value⟩ := entry
      rw [decodeValues, List.lookup_cons, List.lookup_cons, ih]
      cases key == key' <;> rfl

/-- Asking for a key decodes the value that was encoded there. -/
lemma decodeObject_decodeValues (values : List (String × CodedValue)) (key : String) :
    NSKeyedUnarchiver.decodeObject ⟨decodeValues values⟩ key =
      ((values.lookup key).getD .null).decode := by
  rw [NSKeyedUnarchiver.decodeObject, lookup_decodeValues]
  cases values.lookup key with
  | none => rw [Option.map_none, Option.getD_none, Option.getD_none, CodedValue.decode]
  | some value => rfl

lemma decodeAll_eq_ok_iff {decoded : List CodedValue} :
    decodeAll decoded = .ok () ↔ ∀ value ∈ decoded, ∃ object, value.decode = .ok object := by
  induction decoded with
  | nil => simp [decodeAll]
  | cons value rest ih =>
      rw [decodeAll, bind_eq_ok_iff, List.forall_mem_cons, ← ih, exists_and_right]

lemma exists_of_decodeAll_error {decoded : List CodedValue} {trap : Trap}
    (h : decodeAll decoded = .error trap) : ∃ value ∈ decoded, value.decode = .error trap := by
  induction decoded with
  | nil => cases h
  | cons value rest ih =>
      rw [decodeAll] at h
      rcases bind_eq_error_iff.mp h with hvalue | ⟨object, -, hrest⟩
      · exact ⟨value, List.mem_cons_self, hvalue⟩
      · obtain ⟨value', hmem, herror⟩ := ih hrest
        exact ⟨value', List.mem_cons_of_mem _ hmem, herror⟩

section Decoder

variable {aDecoder : NSKeyedUnarchiver} {key : String} {trap : Trap}

lemma decodeString!_eq_ok_iff {value : String} :
    aDecoder.decodeString! key = .ok value ↔ aDecoder.decodeObject key = .ok (.string value) := by
  rw [NSKeyedUnarchiver.decodeString!, NSKeyedUnarchiver.decodeString?]
  rcases aDecoder.decodeObject key with trap | _ | value' | _ | docInfo <;>
    simp [Except.map, bind, Except.bind, pure, Except.pure, DecodedObject.asString?]

/-- **What `init?(coder:)` reads.** -/
lemma initCoder_eq_ok_iff {docInfo : DocumentInfo} :
    DocumentInfo.initCoder aDecoder = .ok docInfo ↔
      aDecoder.decodeObject "uid" = .ok (.string docInfo.uid) ∧
      aDecoder.decodeObject "imageFileName" = .ok (.string docInfo.imageFileName) ∧
      aDecoder.decodeString? "explain" = .ok docInfo.explain ∧
      aDecoder.decodeString? "savedDate" = .ok docInfo.savedDate ∧
      aDecoder.decodeString? "context" = .ok docInfo.context := by
  obtain ⟨uid, imageFileName, explain, savedDate, context⟩ := docInfo
  rw [← decodeString!_eq_ok_iff, ← decodeString!_eq_ok_iff, DocumentInfo.initCoder]
  simp only [bind_eq_ok_iff]
  constructor
  · rintro ⟨_, huid, _, hname, _, hexplain, _, hdate, _, hcontext, heq⟩
    obtain ⟨rfl, rfl, rfl, rfl, rfl⟩ := DocumentInfo.mk.inj (Except.ok.inj heq)
    exact ⟨huid, hname, hexplain, hdate, hcontext⟩
  · rintro ⟨huid, hname, hexplain, hdate, hcontext⟩
    exact ⟨_, huid, _, hname, _, hexplain, _, hdate, _, hcontext, rfl⟩

lemma trap_of_decodeString! (h : aDecoder.decodeString! key = .error trap) :
    aDecoder.decodeObject key = .error trap ∨ trap = .forcedCast key := by
  rcases bind_eq_error_iff.mp h with hstring | ⟨value, -, hcast⟩
  · exact Or.inl (map_eq_error_iff.mp hstring)
  · cases value with
    | some value => cases hcast
    | none => exact Or.inr (Except.error.inj hcast).symm

/-- A trap of `init?(coder:)` comes from an object it decodes, or is one of its forced casts. -/
lemma trap_of_initCoder (h : DocumentInfo.initCoder aDecoder = .error trap) :
    (∃ key, aDecoder.decodeObject key = .error trap) ∨
      trap = .forcedCast "uid" ∨ trap = .forcedCast "imageFileName" := by
  rcases bind_eq_error_iff.mp h with huid | ⟨uid, -, h⟩
  · exact (trap_of_decodeString! huid).imp (Exists.intro _) Or.inl
  rcases bind_eq_error_iff.mp h with hname | ⟨imageFileName, -, h⟩
  · exact (trap_of_decodeString! hname).imp (Exists.intro _) Or.inr
  rcases bind_eq_error_iff.mp h with hexplain | ⟨explain, -, h⟩
  · exact Or.inl ⟨_, map_eq_error_iff.mp hexplain⟩
  rcases bind_eq_error_iff.mp h with hdate | ⟨savedDate, -, h⟩
  · exact Or.inl ⟨_, map_eq_error_iff.mp hdate⟩
  rcases bind_eq_error_iff.mp h with hcontext | ⟨context, -, h⟩
  · exact Or.inl ⟨_, map_eq_error_iff.mp hcontext⟩
  · cases h

end Decoder

/-- The only traps of the decoder are its two forced casts, at whatever depth. -/
lemma trap_of_decode {root : CodedValue} {trap : Trap} (h : root.decode = .error trap) :
    trap = .forcedCast "uid" ∨ trap = .forcedCast "imageFileName" := by
  induction root with
  | null => rw [CodedValue.decode] at h; cases h
  | string value => rw [CodedValue.decode] at h; cases h
  | other decoded ih =>
      rw [CodedValue.decode, map_eq_error_iff] at h
      obtain ⟨value, hmem, herror⟩ := exists_of_decodeAll_error h
      exact ih value hmem herror
  | documentInfo values ih =>
      rw [CodedValue.decode, map_eq_error_iff] at h
      rcases trap_of_initCoder h with ⟨key, hkey⟩ | htrap
      · rw [decodeObject_decodeValues] at hkey
        cases hlookup : values.lookup key with
        | none =>
            rw [hlookup, Option.getD_none, CodedValue.decode] at hkey
            cases hkey
        | some value =>
            rw [hlookup, Option.getD_some] at hkey
            obtain ⟨front, back, rfl, -⟩ := List.lookup_eq_some_iff.mp hlookup
            exact ih (key, value) (by simp) hkey
      · exact htrap

end Procon
