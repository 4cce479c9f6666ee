import Procon.Construction.OnlineApp
import Procon.Properties.Callbacks

/-!
# What uploads leave on the server

`uploads` lists the uploads of a run in their order.  While the identifiers of the documents are
distinct, no upload overwrites another: `mem_uploads_iff` says that the fields of the collection
are those of the uploads, so every snapshot of it is a permutation of them.  Whatever the
identifiers, the values of a collection that was empty are all archived documents, and no field
is ever lost.
-/

namespace Procon

open NestedMap CollectingLoop LabelledRun OnlineApp

variable {ι : Type*} [DecidableEq ι] {world : World ι} {app app' : OnlineApp ι}
  {e : OnlineAppEvent ι} {tr : List (OnlineAppEvent ι)} {documents : List QueryDocumentSnapshot}
  {userInfos : String → Option SimpleUserInfo} {dataArray : List DataForOnlineList}

/-- The uploads of a run, each with its owner. -/
def uploads (world : World ι) (tr : List (OnlineAppEvent ι)) : List (String × DocumentInfo) :=
  (steps step (launch world) tr).filterMap fun x => x.1.upload? x.2

/-- The field that an upload writes. -/
def cellOf (upload : String × DocumentInfo) : String × String × FieldValue :=
  (upload.1, upload.2.uid, .data (archivedData upload.2))

lemma uploads_concat (h : run step (launch world) tr = some app) :
    uploads world (tr ++ [e]) = uploads world tr ++ (app.upload? e).toList := by
  rw [uploads, steps_concat h, List.filterMap_append, ← uploads]
  cases hupload : app.upload? e <;> simp [hupload]

/-! ## Distinct identifiers -/

/-- **No upload overwrites another.**  The fields of the collection are those that the uploads
have written. -/
theorem mem_uploads_iff (hempty : world.server.documents = ∅)
    (hrun : run step (launch world) tr = some app)
    (hdistinct : ((uploads world tr).map fun upload => upload.2.uid).Nodup)
    (uid field : String) (val : FieldValue) :
    (uid, field, val) ∈ (uploads world tr).map cellOf ↔
      get app.world.server.documents uid field = some val := by
  revert hdistinct uid field val
  refine run_induction (P := fun tr app =>
    ((uploads world tr).map fun upload => upload.2.uid).Nodup → ∀ uid field val,
      (uid, field, val) ∈ (uploads world tr).map cellOf ↔
        get app.world.server.documents uid field = some val) ?_ ?_ hrun
  · intro _ uid field val
    have hnone : get (∅ : Collection) uid field = none := rfl
    simp [uploads, launch, hempty, hnone]
  · intro tr app e app' hrun ih hstep hdistinct uid field val
    have hdocuments := documents_of_step hstep
    rw [uploads_concat hrun] at hdistinct ⊢
    cases hupload : app.upload? e with
    | none =>
        rw [hupload] at hdocuments hdistinct
        rw [hdocuments]
        simpa using ih (by simpa using hdistinct) uid field val
    | some upload =>
        obtain ⟨owner, docInfo⟩ := upload
        rw [hupload] at hdocuments hdistinct
        have hget : get app'.world.server.documents uid field =
            if uid = owner ∧ field = docInfo.uid then some (.data (archivedData docInfo))
            else get app.world.server.documents uid field := by
          rw [hdocuments, Server.get_mergeDocument]
        simp only [Option.toList_some, List.map_append, List.map_cons, List.map_nil] at hdistinct ⊢
        rw [← List.concat_eq_append, List.nodup_concat] at hdistinct
        obtain ⟨hnew, hbefore⟩ := hdistinct
        rw [List.mem_append, List.mem_singleton, hget]
        by_cases hown : uid = owner ∧ field = docInfo.uid
        · obtain ⟨rfl, rfl⟩ := hown
          rw [if_pos ⟨rfl, rfl⟩]
          constructor
          · rintro (hold | heq)
            · -- an earlier upload would have the same identifier
              obtain ⟨upload, hmem, hcell⟩ := List.mem_map.mp hold
              have hsame : upload.2.uid = docInfo.uid :=
                congrArg (fun cell : String × String × FieldValue => cell.2.1) hcell
              exact absurd (List.mem_map.mpr ⟨upload, hmem, hsame⟩) hnew
            · exact congrArg (fun c => some c.2.2) heq.symm
          · intro hval
            obtain rfl := Option.some.inj hval
            exact Or.inr rfl
        · rw [if_neg hown, ← ih hbefore]
          constructor
          · rintro (hold | heq)
            · exact hold
            · exact absurd ⟨congrArg Prod.fst heq, congrArg (fun c => c.2.1) heq⟩ hown
          · exact Or.inl

/-- **Every snapshot is the uploads in some order.** -/
theorem cells_perm_uploads (hempty : world.server.documents = ∅)
    (hrun : run step (launch world) tr = some app)
    (hdistinct : ((uploads world tr).map fun upload => upload.2.uid).Nodup)
    (hview : Enumerates documents app.world.server.documents) :
    (cells documents).Perm ((uploads world tr).map cellOf) := by
  refine cells_perm_of_mem_iff hview ?_ fun uid field val =>
    mem_uploads_iff hempty hrun hdistinct uid field val
  refine List.Nodup.of_map (fun c => c.2.1) ?_
  rw [List.map_map]
  exact hdistinct

/-! ## Archived documents -/

/-- A value that an upload has written. -/
def Archived (val : FieldValue) : Prop := ∃ docInfo, val = .data (archivedData docInfo)

lemma entryOf_archivedData {user_uid : String} {docInfo : DocumentInfo} :
    entryOf userInfos user_uid (.data (archivedData docInfo)) =
      match userInfos user_uid with
      | some user => .ok (some ⟨docInfo, user⟩)
      | none => .error (.forcedUnwrap "self.userInfos[user_uid]") :=
  entryOf_data (unarchiveDocumentInfo_archivedData docInfo)

/-- Every archived document of a snapshot becomes an entry of the list. -/
lemma length_of_readDocuments (harchived : ∀ cell ∈ cells documents, Archived cell.2.2)
    (h : readDocuments userInfos documents [] = .ok dataArray) :
    dataArray.length = (cells documents).length := by
  rw [readDocuments_eq] at h
  have hlength := length_of_collect h fun cell hcell => by
    obtain ⟨docInfo, hdocInfo⟩ := harchived cell hcell
    rw [hdocInfo, entryOf_archivedData]
    cases userInfos cell.1 with
    | some user => simp
    | none => simp
  simpa using hlength

/-- **The join.**  When the snapshot is a permutation of the uploads and the dictionary knows
their owners, the callback ends well and leaves one entry for each upload. -/
theorem readDocuments_of_perm {ups : List (String × DocumentInfo)} {owner : String → SimpleUserInfo}
    (hperm : (cells documents).Perm (ups.map cellOf))
    (howner : ∀ upload ∈ ups, userInfos upload.1 = some (owner upload.1)) :
    ∃ dataArray, readDocuments userInfos documents [] = .ok dataArray ∧
      dataArray.Perm (ups.map fun upload => ⟨upload.2, owner upload.1⟩) := by
  have hentry : ∀ upload ∈ ups, entryOf userInfos (cellOf upload).1 (cellOf upload).2.2 =
      .ok (some ⟨upload.2, owner upload.1⟩) := by
    intro upload hupload
    rw [cellOf, entryOf_archivedData, howner upload hupload]
  have hok : ∀ cell ∈ cells documents, ∃ found, entryOf userInfos cell.1 cell.2.2 = .ok found := by
    intro cell hcell
    obtain ⟨upload, hupload, rfl⟩ := List.mem_map.mp (hperm.mem_iff.mp hcell)
    exact ⟨_, hentry upload hupload⟩
  refine ⟨_, by rw [readDocuments_eq, collect_eq_ok_iff]; exact ⟨hok, rfl⟩, ?_⟩
  rw [List.nil_append]
  refine (hperm.filterMap _).trans (List.Perm.of_eq ?_)
  rw [List.filterMap_map, ← List.filterMap_eq_map]
  refine List.filterMap_congr fun upload hupload => ?_
  exact finding_of_ok (hentry upload hupload)

/-- Uploads write archived documents. -/
lemma archived_of_step (h : ∀ uid field val, get app.world.server.documents uid field = some val →
    Archived val) (hstep : step app e = some app') (uid field : String) (val : FieldValue)
    (hval : get app'.world.server.documents uid field = some val) : Archived val := by
  have hdocuments := documents_of_step hstep
  cases hupload : app.upload? e with
  | none =>
      rw [hdocuments, hupload] at hval
      exact h uid field val hval
  | some upload =>
      obtain ⟨owner, docInfo⟩ := upload
      rw [hdocuments, hupload] at hval
      dsimp only at hval
      rw [Server.get_mergeDocument] at hval
      split at hval
      · obtain rfl := Option.some.inj hval
        exact ⟨docInfo, rfl⟩
      · exact h uid field val hval

/-- No upload takes a field away. -/
lemma length_fields_of_step (hstep : step app e = some app') :
    (fields app.world.server.documents).length ≤
      (fields app'.world.server.documents).length := by
  refine length_fields_le fun uid field hsome => ?_
  rw [documents_of_step hstep]
  cases app.upload? e with
  | none => exact hsome
  | some upload =>
      dsimp only
      rw [Server.get_mergeDocument]
      split
      · rfl
      · exact hsome

end Procon
