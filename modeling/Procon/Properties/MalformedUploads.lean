import Procon.Properties.Callbacks

/-!
# Malformed uploads

A field of the `documents` collection holds whatever a client has written there.  The `docRef`
callback passes over values of other types, over bytes that are no archive and over archives of
other classes, but `init?(coder:)` casts two of its keys by force.  So an archive is harmless
exactly when every object of the class `DocumentInfo` that its decoding reaches has strings there:
`CodedValue.Sound`.

`callback_lists_iff` says that the callback runs to its end and appends exactly the well-formed
documents if and only if all archives of the snapshot are sound.
-/

namespace Procon

open NestedMap CollectingLoop

/-! ## Sound archives -/

/-- Every object of the class `DocumentInfo` that decoding reaches has strings under `uid` and
`imageFileName`. -/
inductive CodedValue.Sound : CodedValue → Prop
  | null : Sound .null
  | string (value : String) : Sound (.string value)
  | other {decoded : List CodedValue} (h : ∀ value ∈ decoded, Sound value) :
      Sound (.other decoded)
  | documentInfo {values : List (String × CodedValue)} {uid imageFileName : String}
      (huid : values.lookup "uid" = some (.string uid))
      (hname : values.lookup "imageFileName" = some (.string imageFileName))
      (hrest : ∀ key ∈ ["explain", "savedDate", "context"], ∀ value,
        values.lookup key = some value → Sound value) :
      Sound (.documentInfo values)

/-- The object is a string. -/
def CodedValue.asString? : CodedValue → Option String
  | .string value => some value
  | _ => none

/-- The string that was encoded under a key. -/
def stringAt (values : List (String × CodedValue)) (key : String) : Option String :=
  (values.lookup key).bind CodedValue.asString?

/-- The document that an archive of the class `DocumentInfo` holds, if its two names are
strings. -/
def archivedDocument : Data → Option DocumentInfo
  | .archive (.documentInfo values) => do
      let uid ← stringAt values "uid"
      let imageFileName ← stringAt values "imageFileName"
      return ⟨uid, imageFileName, stringAt values "explain", stringAt values "savedDate",
        stringAt values "context"⟩
  | _ => none

variable {values : List (String × CodedValue)} {root : CodedValue} {key : String}

lemma decode_eq_string_iff {value : String} :
    root.decode = .ok (.string value) ↔ root = .string value := by
  cases root <;> simp [CodedValue.decode, map_eq_ok_iff]

/-- A string that is decoded was encoded under its key. -/
lemma lookup_of_decodeObject {value : String}
    (h : NSKeyedUnarchiver.decodeObject ⟨decodeValues values⟩ key = .ok (.string value)) :
    values.lookup key = some (.string value) := by
  rw [decodeObject_decodeValues, decode_eq_string_iff] at h
  cases hvalue : values.lookup key with
  | none =>
      rw [hvalue] at h
      cases h
  | some value' =>
      rw [hvalue] at h
      exact congrArg some h

lemma asString?_of_decode {object : DecodedObject} (h : root.decode = .ok object) :
    object.asString? = root.asString? := by
  cases root with
  | null => rw [CodedValue.decode] at h; cases h; rfl
  | string value => rw [CodedValue.decode] at h; cases h; rfl
  | other decoded =>
      rw [CodedValue.decode, map_eq_ok_iff] at h
      obtain ⟨_, -, rfl⟩ := h
      rfl
  | documentInfo values =>
      rw [CodedValue.decode, map_eq_ok_iff] at h
      obtain ⟨docInfo, -, rfl⟩ := h
      rfl

/-- What `as? String` finds under a key whose value decodes. -/
lemma decodeString?_eq_stringAt
    (h : ∀ value, values.lookup key = some value → ∃ object, value.decode = .ok object) :
    NSKeyedUnarchiver.decodeString? ⟨decodeValues values⟩ key = .ok (stringAt values key) := by
  rw [NSKeyedUnarchiver.decodeString?, decodeObject_decodeValues, stringAt]
  cases hvalue : values.lookup key with
  | none => rw [Option.getD_none, CodedValue.decode]; rfl
  | some value =>
      obtain ⟨object, hobject⟩ := h value hvalue
      rw [Option.getD_some, hobject, Option.bind_some, ← asString?_of_decode hobject]
      rfl

/-- An object decodes only if it is sound. -/
lemma sound_of_decode {object : DecodedObject} (h : root.decode = .ok object) : root.Sound := by
  induction root generalizing object with
  | null => exact .null
  | string value => exact .string value
  | other decoded ih =>
      rw [CodedValue.decode, map_eq_ok_iff] at h
      obtain ⟨_, hall, -⟩ := h
      refine .other fun value hvalue => ?_
      obtain ⟨object', hdecode⟩ := decodeAll_eq_ok_iff.mp hall value hvalue
      exact ih value hvalue hdecode
  | documentInfo values ih =>
      rw [CodedValue.decode, map_eq_ok_iff] at h
      obtain ⟨docInfo, hinit, -⟩ := h
      obtain ⟨huid, hname, hexplain, hdate, hcontext⟩ := initCoder_eq_ok_iff.mp hinit
      have hsound : ∀ {key string}, NSKeyedUnarchiver.decodeString? ⟨decodeValues values⟩ key =
          .ok string → ∀ value, values.lookup key = some value → value.Sound := by
        intro key string hstring value hvalue
        obtain ⟨object', hobject, -⟩ := map_eq_ok_iff.mp hstring
        rw [decodeObject_decodeValues, hvalue, Option.getD_some] at hobject
        obtain ⟨front, back, rfl, -⟩ := List.lookup_eq_some_iff.mp hvalue
        exact ih (key, value) (by simp) hobject
      refine .documentInfo (lookup_of_decodeObject huid) (lookup_of_decodeObject hname) ?_
      simp only [List.forall_mem_cons]
      exact ⟨hsound hexplain, hsound hdate, hsound hcontext, by simp⟩

/-- A sound object decodes, and an object of the class `DocumentInfo` to what its keys say. -/
lemma exists_decode_of_sound (h : root.Sound) :
    ∃ object, root.decode = .ok object ∧
      object.asDocumentInfo? = archivedDocument (.archive root) := by
  induction h with
  | null => exact ⟨.null, by rw [CodedValue.decode], rfl⟩
  | string value => exact ⟨.string value, by rw [CodedValue.decode], rfl⟩
  | other _ ih =>
      refine ⟨.other, ?_, rfl⟩
      rw [CodedValue.decode, decodeAll_eq_ok_iff.mpr]
      · rfl
      · intro value hvalue
        obtain ⟨object, hobject, -⟩ := ih value hvalue
        exact ⟨object, hobject⟩
  | @documentInfo values uid imageFileName huid hname _ ih =>
      have hstring : ∀ key ∈ ["explain", "savedDate", "context"],
          NSKeyedUnarchiver.decodeString? ⟨decodeValues values⟩ key =
            .ok (stringAt values key) := by
        intro key hkey
        refine decodeString?_eq_stringAt fun value hvalue => ?_
        obtain ⟨object, hobject, -⟩ := ih key hkey value hvalue
        exact ⟨object, hobject⟩
      refine ⟨.documentInfo ⟨uid, imageFileName, stringAt values "explain",
        stringAt values "savedDate", stringAt values "context"⟩, ?_, ?_⟩
      · rw [CodedValue.decode, map_eq_ok_iff]
        refine ⟨_, initCoder_eq_ok_iff.mpr ⟨?_, ?_, ?_, ?_, ?_⟩, rfl⟩
        · rw [decodeObject_decodeValues, huid, Option.getD_some, CodedValue.decode]
        · rw [decodeObject_decodeValues, hname, Option.getD_some, CodedValue.decode]
        · exact hstring "explain" (by simp)
        · exact hstring "savedDate" (by simp)
        · exact hstring "context" (by simp)
      · simp [DecodedObject.asDocumentInfo?, archivedDocument, stringAt, huid, hname,
          CodedValue.asString?]

lemma unarchiveDocumentInfo_of_sound {docData : Data}
    (h : ∀ root, docData = .archive root → root.Sound) :
    unarchiveDocumentInfo docData = .ok (archivedDocument docData) := by
  cases docData with
  | bytes content => rfl
  | archive root =>
      obtain ⟨object, hobject, hdoc⟩ := exists_decode_of_sound (h root rfl)
      rw [unarchiveDocumentInfo, hobject, ← hdoc]
      rfl

lemma sound_of_unarchiveDocumentInfo {docData : Data} {docInfo : Option DocumentInfo}
    (h : unarchiveDocumentInfo docData = .ok docInfo) :
    ∀ root, docData = .archive root → root.Sound := by
  rintro root rfl
  obtain ⟨object, hobject, -⟩ := map_eq_ok_iff.mp h
  exact sound_of_decode hobject

/-! ## The callback over a snapshot -/

/-- The entry that a field gives when it holds the archive of a well-formed document. -/
def listedEntry (userInfos : String → Option SimpleUserInfo) (cell : String × String × FieldValue) :
    Option DataForOnlineList :=
  match cell.2.2 with
  | .data docData => do
      let docInfo ← archivedDocument docData
      let user ← userInfos cell.1
      return ⟨docInfo, user⟩
  | _ => none

/-- The archives that a snapshot holds are sound. -/
def SoundArchives (documents : List QueryDocumentSnapshot) : Prop :=
  ∀ uid field root, (uid, field, FieldValue.data (.archive root)) ∈ cells documents → root.Sound

variable {userInfos : String → Option SimpleUserInfo} {cell : String × String × FieldValue}

/-- A field of a user with a record gives the entry it should, provided that an archive in it is
sound. -/
lemma entryOf_of_sound (howner : (userInfos cell.1).isSome)
    (hsound : ∀ root, cell.2.2 = .data (.archive root) → root.Sound) :
    entryOf userInfos cell.1 cell.2.2 = .ok (listedEntry userInfos cell) := by
  obtain ⟨uid, field, val⟩ := cell
  obtain ⟨user, huser⟩ := Option.isSome_iff_exists.mp howner
  cases val with
  | data docData =>
      have hdoc : unarchiveDocumentInfo docData = .ok (archivedDocument docData) :=
        unarchiveDocumentInfo_of_sound fun root hroot => hsound root (congrArg _ hroot)
      simp only [entryOf, listedEntry, hdoc]
      cases archivedDocument docData with
      | none => rfl
      | some docInfo => simp [bind, Except.bind, huser]
  | null => rfl
  | string value => rfl
  | other => rfl

lemma sound_of_entryOf {uid : String} {val : FieldValue} {entry : Option DataForOnlineList}
    (h : entryOf userInfos uid val = .ok entry) :
    ∀ root, val = .data (.archive root) → root.Sound := by
  rintro root rfl
  rw [entryOf] at h
  obtain ⟨docInfo, hdoc, -⟩ := bind_eq_ok_iff.mp h
  exact sound_of_unarchiveDocumentInfo hdoc root rfl

/-- The documents callback can read a snapshot: its archives are sound, and the documents in it
belong to users with an entry in the dictionary. -/
structure Readable (userInfos : String → Option SimpleUserInfo)
    (documents : List QueryDocumentSnapshot) : Prop where
  sound : SoundArchives documents
  owned : ∀ uid field docData docInfo, (uid, field, FieldValue.data docData) ∈ cells documents →
    archivedDocument docData = some docInfo → (userInfos uid).isSome

lemma exists_entryOf_iff {uid : String} {val : FieldValue} :
    (∃ entry, entryOf userInfos uid val = .ok entry) ↔
      (∀ root, val = .data (.archive root) → root.Sound) ∧
        ∀ docData docInfo, val = .data docData → archivedDocument docData = some docInfo →
          (userInfos uid).isSome := by
  constructor
  · rintro ⟨entry, h⟩
    have hsound := sound_of_entryOf h
    refine ⟨hsound, ?_⟩
    rintro docData docInfo rfl hdoc
    have hdecoded : unarchiveDocumentInfo docData = .ok (some docInfo) := by
      rw [unarchiveDocumentInfo_of_sound fun root hroot => hsound root (congrArg _ hroot), hdoc]
    rw [entryOf_data hdecoded] at h
    cases howner : userInfos uid with
    | some user => rfl
    | none =>
        rw [howner] at h
        cases h
  · rintro ⟨hsound, howned⟩
    cases val with
    | data docData =>
        have hdecoded : unarchiveDocumentInfo docData = .ok (archivedDocument docData) :=
          unarchiveDocumentInfo_of_sound fun root hroot => hsound root (congrArg _ hroot)
        cases hdoc : archivedDocument docData with
        | none =>
            rw [hdoc] at hdecoded
            exact ⟨none, by rw [entryOf, hdecoded]; rfl⟩
        | some docInfo =>
            obtain ⟨user, huser⟩ := Option.isSome_iff_exists.mp (howned docData docInfo rfl hdoc)
            rw [hdoc] at hdecoded
            exact ⟨some ⟨docInfo, user⟩, by rw [entryOf_data hdecoded, huser]⟩
    | null => exact ⟨none, rfl⟩
    | string value => exact ⟨none, rfl⟩
    | other => exact ⟨none, rfl⟩

/-- The callback returns exactly on the snapshots that it can read. -/
lemma readable_iff {documents : List QueryDocumentSnapshot} {dataArray : List DataForOnlineList} :
    Readable userInfos documents ↔
      ∃ dataArray', readDocuments userInfos documents dataArray = .ok dataArray' := by
  simp only [readDocuments_eq, collect_eq_ok_iff, exists_entryOf_iff]
  constructor
  · rintro ⟨hsound, howned⟩
    refine ⟨_, ?_, rfl⟩
    rintro ⟨uid, field, val⟩ hcell
    refine ⟨?_, ?_⟩
    · rintro root rfl
      exact hsound uid field root hcell
    · rintro docData docInfo rfl hdoc
      exact howned uid field docData docInfo hcell hdoc
  · rintro ⟨-, hcells, -⟩
    exact ⟨fun uid field root hcell => (hcells _ hcell).1 root rfl,
      fun uid field docData docInfo hcell hdoc => (hcells _ hcell).2 docData docInfo rfl hdoc⟩

/-- **What a documents callback makes of a snapshot.**  Where every user of the snapshot has a
record, the callback runs to its end and appends the entries of the well-formed documents, and
no others, exactly when all archives of the snapshot are sound. -/
theorem callback_lists_iff (vc : DocumentOnlineListVC) (documents : List QueryDocumentSnapshot)
    (howners : ∀ document ∈ documents, (vc.userInfos document.1).isSome) :
    vc.callback .docRef (.snapshot documents) =
        .ok { vc with
          dataArray := vc.dataArray ++
            (cells documents).filterMap (listedEntry vc.userInfos) } ↔
      SoundArchives documents := by
  have howner : ∀ cell ∈ cells documents, (vc.userInfos cell.1).isSome := by
    rintro ⟨uid, field, val⟩ hcell
    obtain ⟨document, hdocument, rfl, -⟩ := mem_cells.mp hcell
    exact howners document hdocument
  constructor
  · intro h uid field root hcell
    obtain ⟨dataArray, hdocs, -⟩ := bind_eq_ok_iff.mp h
    rw [readDocuments_eq] at hdocs
    obtain ⟨entry, hentry⟩ := (collect_eq_ok_iff.mp hdocs).1 _ hcell
    exact sound_of_entryOf hentry root rfl
  · intro hsound
    have hentry : ∀ cell ∈ cells documents,
        entryOf vc.userInfos cell.1 cell.2.2 = .ok (listedEntry vc.userInfos cell) := by
      rintro ⟨uid, field, val⟩ hcell
      refine entryOf_of_sound (howner _ hcell) ?_
      rintro root rfl
      exact hsound uid field root hcell
    have hdocs : readDocuments vc.userInfos documents vc.dataArray =
        .ok (vc.dataArray ++ (cells documents).filterMap (listedEntry vc.userInfos)) := by
      rw [readDocuments_eq, collect_eq_ok_iff]
      refine ⟨fun cell hcell => ⟨_, hentry cell hcell⟩, ?_⟩
      refine congrArg (vc.dataArray ++ ·) (List.filterMap_congr fun cell hcell => ?_)
      exact (finding_of_ok (hentry cell hcell)).symm
    rw [DocumentOnlineListVC.callback, hdocs]
    rfl

/-! ### An archive without its keys -/

/-- The screen once the records of one user have been read. -/
def oneOwner : DocumentOnlineListVC :=
  { DocumentOnlineListVC.launch with
    userInfos := fun uid => if uid = "user" then some ⟨"User", "user@example.com"⟩ else none }

/-- A document, a value of another type, and bytes that are no archive. -/
def harmlessSnapshot : List QueryDocumentSnapshot :=
  [("user", ((AList.singleton "first" (.data (archivedData (.init .first none none none)))).insert
    "second" .other).insert "third" (.data (.bytes [0])))]

/-- The archive of a document that lacks its keys. -/
def malformedSnapshot : List QueryDocumentSnapshot :=
  [("user", AList.singleton "first" (.data (.archive (.documentInfo []))))]

theorem callback_lists_iff_harmlessSnapshot :
    oneOwner.callback .docRef (.snapshot harmlessSnapshot) =
        .ok { oneOwner with
          dataArray := oneOwner.dataArray ++
            (cells harmlessSnapshot).filterMap (listedEntry oneOwner.userInfos) } ↔
      SoundArchives harmlessSnapshot :=
  callback_lists_iff oneOwner harmlessSnapshot (by decide)

/-- The owner of the malformed archive has a record, and the callback traps. -/
theorem malformed_upload_traps :
    (∀ document ∈ malformedSnapshot, (oneOwner.userInfos document.1).isSome) ∧
      oneOwner.callback .docRef (.snapshot malformedSnapshot) = .error (.forcedCast "uid") :=
  ⟨by decide, rfl⟩

end Procon
