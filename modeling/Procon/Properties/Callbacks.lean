import Procon.Construction.DocumentOnlineListVC
import Procon.Framework.CollectingLoop

/-!
# The two callbacks of a refresh

The `userRef` callback fills a dictionary with the records that have a name and an email.  The
`docRef` callback is a collecting loop over all fields of all documents: `readDocuments_eq`
writes it as one, so that `CollectingLoop.collect_eq_ok_iff` describes its result.
-/

namespace Procon

open NestedMap CollectingLoop

variable {documents : List QueryDocumentSnapshot} {userInfos : String → Option SimpleUserInfo}
  {user_uid uid : String}

/-! ## The dictionary of user records -/

lemma readUserInfos_cons (document : QueryDocumentSnapshot) :
    readUserInfos (document :: documents) userInfos = readUserInfos documents
      (match userInfoOf document.2 with
      | some userInfo => Function.update userInfos document.1 (some userInfo)
      | none => userInfos) := rfl

/-- A user whose record is not in the snapshot keeps the entry there was. -/
lemma readUserInfos_of_notMem (h : uid ∉ documents.map Prod.fst) :
    readUserInfos documents userInfos uid = userInfos uid := by
  induction documents generalizing userInfos with
  | nil => rfl
  | cons document documents ih =>
      rw [List.map_cons, List.mem_cons, not_or] at h
      rw [readUserInfos_cons, ih h.2]
      cases userInfoOf document.2 with
      | some userInfo => exact Function.update_of_ne h.1 _ _
      | none => rfl

/-- The entry of a user after the callback is what their record gives, or else the entry there
was. -/
lemma readUserInfos_of_mem (hnodup : (documents.map Prod.fst).Nodup)
    {document : QueryDocumentSnapshot} (h : document ∈ documents) :
    readUserInfos documents userInfos document.1 =
      (userInfoOf document.2).or (userInfos document.1) := by
  induction documents generalizing userInfos with
  | nil => cases h
  | cons head documents ih =>
      rw [List.map_cons, List.nodup_cons] at hnodup
      rw [readUserInfos_cons]
      rcases List.mem_cons.mp h with rfl | h
      · rw [readUserInfos_of_notMem hnodup.1]
        cases userInfoOf document.2 <;> simp
      · have hne : document.1 ≠ head.1 := fun heq => hnodup.1 (heq ▸ List.mem_map_of_mem h)
        rw [ih hnodup.2 h]
        cases userInfoOf head.2 <;> simp [hne]

/-- The snapshot has a record of the user with a name and an email. -/
def Covers (documents : List QueryDocumentSnapshot) (uid : String) : Prop :=
  ∃ document ∈ documents, document.1 = uid ∧ (userInfoOf document.2).isSome

lemma isSome_readUserInfos_iff (hnodup : (documents.map Prod.fst).Nodup) :
    (readUserInfos documents (fun _ => none) uid).isSome ↔ Covers documents uid := by
  constructor
  · intro h
    by_cases hmem : uid ∈ documents.map Prod.fst
    · obtain ⟨document, hdocument, rfl⟩ := List.mem_map.mp hmem
      rw [readUserInfos_of_mem hnodup hdocument, Option.or_none] at h
      exact ⟨document, hdocument, rfl, h⟩
    · rw [readUserInfos_of_notMem hmem] at h
      cases h
  · rintro ⟨document, hdocument, rfl, h⟩
    rw [readUserInfos_of_mem hnodup hdocument, Option.or_none]
    exact h

/-- What a snapshot of the records covers is what the server has a name and an email for. -/
lemma covers_iff {server : Server} (hview : Enumerates documents server.userInfos) :
    Covers documents uid ↔ (server.userInfo uid).isSome := by
  have hlookup : ∀ {document : QueryDocumentSnapshot}, document ∈ documents →
      server.userInfo document.1 = userInfoOf document.2 := by
    intro document hdocument
    obtain ⟨record, hrecord, hperm⟩ := hview.lookup_of_mem hdocument
    rw [Server.userInfo, hrecord, Option.bind_some]
    exact userInfoOf_congr fun field => (AList.perm_lookup hperm).symm
  constructor
  · rintro ⟨document, hdocument, rfl, h⟩
    rwa [hlookup hdocument]
  · intro h
    obtain ⟨userInfo, huserInfo⟩ := Option.isSome_iff_exists.mp h
    obtain ⟨record, hrecord, -⟩ := Option.bind_eq_some_iff.mp huserInfo
    obtain ⟨document, hdocument, rfl, -⟩ := hview.exists_record hrecord
    exact ⟨document, hdocument, rfl, by rwa [← hlookup hdocument]⟩

/-! ## The array of documents -/

/-- The snapshot has a value of the user that decodes to a document. -/
def HoldsDocument (documents : List QueryDocumentSnapshot) (uid : String) : Prop :=
  ∃ field docData docInfo, (uid, field, .data docData) ∈ cells documents ∧
    unarchiveDocumentInfo docData = .ok (some docInfo)

lemma holdsDocument_iff {server : Server} (hview : Enumerates documents server.documents) :
    HoldsDocument documents uid ↔ server.HoldsDocument uid := by
  simp only [HoldsDocument, Server.HoldsDocument, mem_cells_iff hview]

/-- What one value of a document of the user `user_uid` gives. -/
def entryOf (userInfos : String → Option SimpleUserInfo) (user_uid : String) (val : FieldValue) :
    Except Trap (Option DataForOnlineList) :=
  match val with
  | .data docData => do
      match ← unarchiveDocumentInfo docData with
      | some docInfo =>
          match userInfos user_uid with
          | some user => .ok (some ⟨docInfo, user⟩)
          | none => .error (.forcedUnwrap "self.userInfos[user_uid]")
      | none => .ok none
  | _ => .ok none

lemma readValue_eq (dataArray : List DataForOnlineList) (val : FieldValue) :
    readValue userInfos user_uid dataArray val =
      (entryOf userInfos user_uid val).map fun entry => dataArray ++ entry.toList := by
  cases val with
  | data docData =>
      rw [readValue, entryOf]
      rcases unarchiveDocumentInfo docData with trap | _ | docInfo
      · rfl
      · simp [Except.map, bind, Except.bind]
      · cases userInfos user_uid <;> simp [Except.map, bind, Except.bind]
  | null => simp [readValue, entryOf, Except.map]
  | string => simp [readValue, entryOf, Except.map]
  | other => simp [readValue, entryOf, Except.map]

/-- The two loops are one collecting loop over the fields of the snapshot. -/
lemma readDocuments_eq (dataArray : List DataForOnlineList) :
    readDocuments userInfos documents dataArray =
      collect (fun cell => entryOf userInfos cell.1 cell.2.2) (cells documents) dataArray := by
  induction documents generalizing dataArray with
  | nil => rfl
  | cons document documents ih =>
      have hinner : (document.2.entries.map Sigma.snd).foldlM (readValue userInfos document.1)
          dataArray = collect (fun cell => entryOf userInfos cell.1 cell.2.2)
            (document.2.entries.map fun e => (document.1, e.1, e.2)) dataArray := by
        rw [collect, List.foldlM_map, List.foldlM_map]
        exact congrArg (List.foldlM · dataArray document.2.entries)
          (funext fun arr => funext fun e => readValue_eq arr e.2)
      have hcells : cells (document :: documents) =
          (document.2.entries.map fun e => (document.1, e.1, e.2)) ++ cells documents := by
        rw [cells, List.flatMap_cons, ← cells]
      rw [hcells, collect_append, ← hinner]
      exact congrArg (bind _) (funext ih)

/-- The callback only appends. -/
lemma length_le_of_readDocuments {dataArray dataArray' : List DataForOnlineList}
    (h : readDocuments userInfos documents dataArray = .ok dataArray') :
    dataArray.length ≤ dataArray'.length := by
  rw [readDocuments_eq] at h
  rw [(collect_eq_ok_iff.mp h).2, List.length_append]
  omega

/-- The only traps of the decoder are its two forced casts. -/
lemma trap_of_unarchiveDocumentInfo {docData : Data} {trap : Trap}
    (h : unarchiveDocumentInfo docData = .error trap) :
    trap = .forcedCast "uid" ∨ trap = .forcedCast "imageFileName" := by
  cases docData with
  | bytes => cases h
  | archive root => exact trap_of_decode (map_eq_error_iff.mp h)

lemma entryOf_data {docData : Data} {docInfo : DocumentInfo}
    (h : unarchiveDocumentInfo docData = .ok (some docInfo)) :
    entryOf userInfos user_uid (.data docData) =
      match userInfos user_uid with
      | some user => .ok (some ⟨docInfo, user⟩)
      | none => .error (.forcedUnwrap "self.userInfos[user_uid]") := by
  rw [entryOf, h]
  rfl

/-- A value traps at the owner lookup only when it decodes to a document whose owner is missing;
any other trap is the decoder's. -/
lemma trap_of_entryOf {val : FieldValue} {trap : Trap}
    (h : entryOf userInfos user_uid val = .error trap) :
    (trap = .forcedUnwrap "self.userInfos[user_uid]" ∧ userInfos user_uid = none ∧
      ∃ docData docInfo, val = .data docData ∧
        unarchiveDocumentInfo docData = .ok (some docInfo)) ∨
    ∃ docData, val = .data docData ∧ unarchiveDocumentInfo docData = .error trap := by
  cases val with
  | data docData =>
      cases hdoc : unarchiveDocumentInfo docData with
      | error trap' =>
          rw [entryOf, hdoc] at h
          obtain rfl : trap' = trap := Except.error.inj h
          exact Or.inr ⟨docData, rfl, hdoc⟩
      | ok docInfo =>
          cases docInfo with
          | none =>
              rw [entryOf, hdoc] at h
              cases h
          | some docInfo =>
              rw [entryOf_data hdoc] at h
              cases howner : userInfos user_uid with
              | some user =>
                  rw [howner] at h
                  cases h
              | none =>
                  rw [howner] at h
                  exact Or.inl ⟨(Except.error.inj h).symm, rfl, docData, docInfo, rfl, hdoc⟩
  | null => cases h
  | string => cases h
  | other => cases h

/-- The callback never fails an assertion. -/
lemma readDocuments_ne_assertion {dataArray : List DataForOnlineList} {message : String} :
    readDocuments userInfos documents dataArray ≠ .error (.assertion message) := by
  intro h
  rw [readDocuments_eq] at h
  obtain ⟨cell, -, herror⟩ := exists_of_collect_error h
  rcases trap_of_entryOf herror with ⟨htrap, -⟩ | ⟨docData, -, hdoc⟩
  · cases htrap
  · rcases trap_of_unarchiveDocumentInfo hdoc with htrap | htrap <;> cases htrap

end Procon
