import Procon.Properties.AccountLife
import Procon.Properties.OwnerLookup
import Procon.Properties.UploadedDocuments

/-!
# Every entry of the online list is authentic

Several refreshes may be under way at once, with any uploads, sign-ups and look-ups in between.
Then the list may hold an entry twice, or too few of them.  It never holds a false one:
`EntriesInvariant` says of the collection, of the snapshots that are on their way, of the
dictionary and the array of the screen, of its cells and of its alert that they hold documents of
users who uploaded them, and names and emails of the accounts of these users.  All of this stays
true while accounts grow and uploads are added, so it holds of what a late reply brings as well.
-/

namespace Procon

open NestedMap CollectingLoop LabelledRun OnlineApp

variable {ι : Type*} [DecidableEq ι] {app app' : OnlineApp ι} {e : OnlineAppEvent ι}
  {tr : List (OnlineAppEvent ι)} {accounts accounts' : String → Option Account}
  {ups ups' : List (String × DocumentInfo)} {uid : String} {userInfo : SimpleUserInfo}
  {entry : DataForOnlineList}

/-- The name and the email are those of the user's account. -/
def Tells (accounts : String → Option Account) (uid : String) (userInfo : SimpleUserInfo) : Prop :=
  ∃ account, accounts uid = some account ∧ account.Shows userInfo

/-- The document was uploaded by the user whom the entry names. -/
def Authentic (accounts : String → Option Account) (ups : List (String × DocumentInfo))
    (entry : DataForOnlineList) : Prop :=
  ∃ uid, (uid, entry.document) ∈ ups ∧ Tells accounts uid entry.user

/-- The value is one that an upload of the user has written. -/
def Uploaded (ups : List (String × DocumentInfo)) (uid : String) (val : FieldValue) : Prop :=
  ∃ docInfo, (uid, docInfo) ∈ ups ∧ val = .data (archivedData docInfo)

omit [DecidableEq ι] in
lemma Tells.mono (h : Tells accounts uid userInfo) (hgrow : AccountsGrow accounts accounts') :
    Tells accounts' uid userInfo := by
  obtain ⟨account, haccount, hshows⟩ := h
  obtain ⟨account', haccount', hgrows⟩ := hgrow uid account haccount
  exact ⟨account', haccount', hshows.mono hgrows⟩

lemma Authentic.mono (h : Authentic accounts ups entry) (hgrow : AccountsGrow accounts accounts')
    (hups : ups ⊆ ups') : Authentic accounts' ups' entry := by
  obtain ⟨uid, hmem, htells⟩ := h
  exact ⟨uid, hups hmem, htells.mono hgrow⟩

lemma Uploaded.mono {val : FieldValue} (h : Uploaded ups uid val) (hups : ups ⊆ ups') :
    Uploaded ups' uid val := by
  obtain ⟨docInfo, hmem, rfl⟩ := h
  exact ⟨docInfo, hups hmem, rfl⟩

/-! ## What the two callbacks read -/

/-- The dictionary tells what a record of the snapshot says, or what it told before. -/
lemma tells_readUserInfos {documents : List QueryDocumentSnapshot}
    {userInfos : String → Option SimpleUserInfo}
    (hdocuments : ∀ document ∈ documents, ∀ userInfo, userInfoOf document.2 = some userInfo →
      Tells accounts document.1 userInfo)
    (hold : ∀ uid userInfo, userInfos uid = some userInfo → Tells accounts uid userInfo) :
    ∀ uid userInfo, readUserInfos documents userInfos uid = some userInfo →
      Tells accounts uid userInfo := by
  induction documents generalizing userInfos with
  | nil => exact hold
  | cons document documents ih =>
      rw [readUserInfos_cons]
      refine ih (fun document' hmem => hdocuments document' (List.mem_cons_of_mem _ hmem)) ?_
      intro uid userInfo huserInfo
      cases hread : userInfoOf document.2 with
      | none =>
          rw [hread] at huserInfo
          exact hold uid userInfo huserInfo
      | some found =>
          rw [hread] at huserInfo
          dsimp only at huserInfo
          by_cases huid : uid = document.1
          · subst huid
            rw [Function.update_self] at huserInfo
            obtain rfl := Option.some.inj huserInfo
            exact hdocuments document List.mem_cons_self found hread
          · rw [Function.update_of_ne huid] at huserInfo
            exact hold uid userInfo huserInfo

/-- The array gets an entry for an uploaded value only, with what the dictionary tells. -/
lemma authentic_readDocuments {documents : List QueryDocumentSnapshot}
    {userInfos : String → Option SimpleUserInfo} {dataArray dataArray' : List DataForOnlineList}
    (h : readDocuments userInfos documents dataArray = .ok dataArray')
    (hcells : ∀ cell ∈ cells documents, Uploaded ups cell.1 cell.2.2)
    (huserInfos : ∀ uid userInfo, userInfos uid = some userInfo → Tells accounts uid userInfo)
    (hold : ∀ entry ∈ dataArray, Authentic accounts ups entry) :
    ∀ entry ∈ dataArray', Authentic accounts ups entry := by
  intro entry hentry
  rw [readDocuments_eq] at h
  rcases mem_of_collect h hentry with hmem | ⟨cell, hcell, hfound⟩
  · exact hold entry hmem
  · obtain ⟨docInfo, hmem, hval⟩ := hcells cell hcell
    rw [hval, entryOf_archivedData] at hfound
    cases howner : userInfos cell.1 with
    | none =>
        rw [howner] at hfound
        cases hfound
    | some user =>
        rw [howner] at hfound
        obtain rfl := Option.some.inj (Except.ok.inj hfound)
        exact ⟨cell.1, hmem, huserInfos cell.1 user howner⟩

/-! ## The screen -/

/-- What the screen knows, lists, shows in its cells and has told in an alert. -/
structure ShowsAuthentic (accounts : String → Option Account) (ups : List (String × DocumentInfo))
    (vc : DocumentOnlineListVC) : Prop where
  userInfos : ∀ uid userInfo, vc.userInfos uid = some userInfo → Tells accounts uid userInfo
  dataArray : ∀ entry ∈ vc.dataArray, Authentic accounts ups entry
  cells : ∀ row entry, vc.cells row = some entry → Authentic accounts ups entry
  alert : ∀ message, vc.alert = some message → ∃ entry, Authentic accounts ups entry ∧
    message = DocumentOnlineListVC.message entry

section Screen

open DocumentOnlineListVC

variable {vc vc' : DocumentOnlineListVC}

lemma showsAuthentic_launch : ShowsAuthentic accounts ups .launch where
  userInfos _ _ h := by cases h
  dataArray _ h := by cases h
  cells _ _ h := by cases h
  alert _ h := by cases h

lemma ShowsAuthentic.mono (h : ShowsAuthentic accounts ups vc)
    (hgrow : AccountsGrow accounts accounts') (hups : ups ⊆ ups') :
    ShowsAuthentic accounts' ups' vc where
  userInfos uid userInfo huserInfo := (h.userInfos uid userInfo huserInfo).mono hgrow
  dataArray entry hentry := (h.dataArray entry hentry).mono hgrow hups
  cells row entry hentry := (h.cells row entry hentry).mono hgrow hups
  alert message hmessage := by
    obtain ⟨entry, hentry, rfl⟩ := h.alert message hmessage
    exact ⟨entry, hentry.mono hgrow hups, rfl⟩

/-- **The step lemma for the screen**, whatever refresh a reply belongs to. -/
lemma ShowsAuthentic.step (h : ShowsAuthentic accounts ups vc) {e : OnlineListEvent}
    (hstep : step vc e = some vc')
    (huserRef : ∀ i documents, e = .callback i .userRef (.snapshot documents) →
      ∀ document ∈ documents, ∀ userInfo, userInfoOf document.2 = some userInfo →
        Tells accounts document.1 userInfo)
    (hdocRef : ∀ i documents, e = .callback i .docRef (.snapshot documents) →
      ∀ cell ∈ NestedMap.cells documents, Uploaded ups cell.1 cell.2.2) :
    ShowsAuthentic accounts ups vc' := by
  cases outcome_of_step hstep with
  | updateList =>
      exact ⟨fun _ _ h => (by cases h), fun _ h => (by cases h), h.cells, h.alert⟩
  | getDocuments i query next hnext =>
      obtain ⟨-, refresh, -, rfl⟩ := refreshStep_eq_some.mp hnext
      exact ⟨h.userInfos, h.dataArray, h.cells, h.alert⟩
  | callback i query reply next done hnext hdone =>
      obtain ⟨-, refresh, -, rfl⟩ := refreshStep_eq_some.mp hnext
      rcases callback_cases hdone with ⟨-, rfl⟩ | ⟨documents, rfl, rfl, rfl⟩ |
        ⟨documents, dataArray, rfl, rfl, hread, rfl⟩
      · exact ⟨h.userInfos, h.dataArray, h.cells, h.alert⟩
      · exact ⟨tells_readUserInfos (huserRef i documents rfl) h.userInfos, h.dataArray, h.cells,
          h.alert⟩
      · exact ⟨h.userInfos, authentic_readDocuments hread (hdocRef i documents rfl) h.userInfos
          h.dataArray, h.cells, h.alert⟩
  | callbackTrap i query reply next trap hnext htrap =>
      obtain ⟨-, refresh, -, rfl⟩ := refreshStep_eq_some.mp hnext
      exact ⟨h.userInfos, h.dataArray, h.cells, h.alert⟩
  | leave i query next hnext =>
      obtain ⟨-, refresh, -, rfl⟩ := refreshStep_eq_some.mp hnext
      exact ⟨h.userInfos, h.dataArray, h.cells, h.alert⟩
  | notify i next hnext =>
      obtain ⟨-, refresh, -, rfl⟩ := refreshStep_eq_some.mp hnext
      exact ⟨h.userInfos, h.dataArray, h.cells, h.alert⟩
  | cell row data hrow hdata =>
      refine ⟨h.userInfos, h.dataArray, fun row' entry hentry => ?_, h.alert⟩
      dsimp only at hentry
      rw [Function.update_apply] at hentry
      split at hentry
      · obtain rfl := Option.some.inj hentry
        exact h.dataArray data (List.mem_of_getElem? hdata)
      · exact h.cells row' entry hentry
  | select row data hrow hdata =>
      refine ⟨h.userInfos, h.dataArray, h.cells, fun message hmessage => ?_⟩
      exact ⟨data, h.dataArray data (List.mem_of_getElem? hdata), (Option.some.inj hmessage).symm⟩
  | rowTrap row e he hrow hdata => exact ⟨h.userInfos, h.dataArray, h.cells, h.alert⟩

end Screen

/-! ## The invariant -/

/-- What the collection, the snapshots and the screen hold. -/
structure EntriesInvariant (tr : List (OnlineAppEvent ι)) (app : OnlineApp ι) : Prop where
  accounts : AccountInvariant app.world
  documents : ∀ uid field val, get app.world.server.documents uid field = some val →
    Uploaded (uploads World.start tr) uid val
  docRef : ∀ i documents, app.snapshot i .docRef = some documents →
    ∀ cell ∈ cells documents, Uploaded (uploads World.start tr) cell.1 cell.2.2
  userRef : ∀ i documents, app.snapshot i .userRef = some documents →
    ∀ document ∈ documents, ∀ userInfo, userInfoOf document.2 = some userInfo →
      Tells app.world.server.accounts document.1 userInfo
  screen : ShowsAuthentic app.world.server.accounts (uploads World.start tr) app.screen

lemma entriesInvariant_launch : EntriesInvariant [] (launch (World.start : World ι)) where
  accounts := accountInvariant_start
  documents _ _ _ h := by cases h
  docRef _ _ h := by cases h
  userRef _ _ h := by cases h
  screen := showsAuthentic_launch

lemma subset_uploads_concat (h : run step (launch World.start) tr = some app) :
    uploads World.start tr ⊆ uploads World.start (tr ++ [e]) := by
  rw [uploads_concat h]
  exact List.subset_append_left _ _

/-- Uploads are added and accounts grow; the snapshots and the screen stay as they are. -/
lemma EntriesInvariant.world (h : EntriesInvariant tr app)
    (hrun : run step (launch World.start) tr = some app) {e : WorldEvent ι} {world : World ι}
    (hworld : app.world.step e = some world) :
    EntriesInvariant (tr ++ [.world e]) { app with world := world } where
  accounts := h.accounts.step hworld
  documents uid field val hval := by
    have hstep : step app (.world e) = some { app with world := world } :=
      Option.map_eq_some_iff.mpr ⟨world, hworld, rfl⟩
    have hdocuments := documents_of_step hstep
    rw [uploads_concat hrun]
    cases hupload : app.upload? (.world e) with
    | none =>
        rw [hupload] at hdocuments
        rw [hdocuments] at hval
        exact (h.documents uid field val hval).mono (List.subset_append_left _ _)
    | some upload =>
        obtain ⟨owner, docInfo⟩ := upload
        rw [hupload] at hdocuments
        rw [hdocuments] at hval
        dsimp only at hval
        rw [Server.get_mergeDocument] at hval
        split at hval
        · rename_i hown
          obtain ⟨rfl, rfl⟩ := hown
          exact ⟨docInfo, by simp, (Option.some.inj hval).symm⟩
        · exact (h.documents uid field val hval).mono (List.subset_append_left _ _)
  docRef i documents hsnapshot cell hcell :=
    (h.docRef i documents hsnapshot cell hcell).mono (subset_uploads_concat hrun)
  userRef i documents hsnapshot document hdocument userInfo hread :=
    (h.userRef i documents hsnapshot document hdocument userInfo hread).mono
      (h.accounts.accountsGrow hworld)
  screen := h.screen.mono (h.accounts.accountsGrow hworld) (subset_uploads_concat hrun)

/-- A snapshot is read off the collections. -/
lemma EntriesInvariant.lookUp (h : EntriesInvariant tr app)
    (hrun : run step (launch World.start) tr = some app) {i : ℕ} {query : Query}
    {documents : List QueryDocumentSnapshot}
    (hview : Enumerates documents (app.world.server.collection query)) :
    EntriesInvariant (tr ++ [.takeSnapshot i query documents]) (app.lookUp i query documents) where
  accounts := h.accounts
  documents uid field val hval :=
    (h.documents uid field val hval).mono (subset_uploads_concat hrun)
  docRef j found hsnapshot cell hcell := by
    refine Uploaded.mono ?_ (subset_uploads_concat hrun)
    rw [lookUp_snapshot] at hsnapshot
    split at hsnapshot
    · rename_i hsame
      obtain ⟨-, rfl⟩ := hsame
      obtain rfl := Option.some.inj hsnapshot
      exact h.documents _ _ _ ((mem_cells_iff hview).mp hcell)
    · exact h.docRef j found hsnapshot cell hcell
  userRef j found hsnapshot document hdocument userInfo hread := by
    rw [lookUp_snapshot] at hsnapshot
    split at hsnapshot
    · rename_i hsame
      obtain ⟨-, rfl⟩ := hsame
      obtain rfl := Option.some.inj hsnapshot
      obtain ⟨record, hrecord, hperm⟩ := hview.lookup_of_mem hdocument
      obtain ⟨account, user, haccount, rfl, hknows⟩ := h.accounts.record _ record hrecord
      rw [userInfoOf_congr fun field => AList.perm_lookup hperm] at hread
      exact ⟨account, haccount, hknows.shows hread⟩
    · exact h.userRef j found hsnapshot document hdocument userInfo hread
  screen := h.screen.mono (accountsGrow_refl _) (subset_uploads_concat hrun)

/-- **The step lemma.** -/
lemma EntriesInvariant.step (h : EntriesInvariant tr app)
    (hrun : run step (launch World.start) tr = some app) (hstep : step app e = some app') :
    EntriesInvariant (tr ++ [e]) app' := by
  cases outcome_of_step hstep with
  | world e world hworld => exact h.world hrun hworld
  | snapshot i query documents hi hphase hreplied hnone hview => exact h.lookUp hrun hview
  | screen e e' screen he hscreen =>
      have hsub : uploads World.start tr ⊆ uploads World.start (tr ++ [e]) :=
        subset_uploads_concat hrun
      have hscreen' : ShowsAuthentic app.world.server.accounts (uploads World.start tr) screen := by
        refine h.screen.step hscreen ?_ ?_
        · rintro i documents rfl
          exact h.userRef i documents (snapshot_of_screenEvent? he).2
        · rintro i documents rfl
          exact h.docRef i documents (snapshot_of_screenEvent? he).2
      exact {
        accounts := h.accounts
        documents := fun uid field val hval => (h.documents uid field val hval).mono hsub
        docRef := fun i documents hsnapshot cell hcell =>
          (h.docRef i documents hsnapshot cell hcell).mono hsub
        userRef := h.userRef
        screen := hscreen'.mono (accountsGrow_refl _) hsub }

/-- **The run lemma.** -/
lemma entriesInvariant_of_run (h : run step (launch World.start) tr = some app) :
    EntriesInvariant tr app :=
  run_induction entriesInvariant_launch (fun _ _ _ _ hrun hs he => hs.step hrun he) h

/-- **The list holds no false entry.**  However refreshes, look-ups, replies, sign-ups and uploads
are interleaved, every entry of the array, of a cell and of an alert of the online list is a
document that a user has uploaded, with the name and the email of that user's account; only the
name may be empty. -/
theorem entries_authentic (tr : List (OnlineAppEvent ι)) (app : OnlineApp ι)
    (h : run step (launch World.start) tr = some app) :
    (∀ entry ∈ app.screen.dataArray,
      Authentic app.world.server.accounts (uploads World.start tr) entry) ∧
    (∀ row entry, app.screen.cells row = some entry →
      Authentic app.world.server.accounts (uploads World.start tr) entry) ∧
    ∀ message, app.screen.alert = some message → ∃ entry,
      Authentic app.world.server.accounts (uploads World.start tr) entry ∧
        message = DocumentOnlineListVC.message entry :=
  let hscreen := (entriesInvariant_of_run h).screen
  ⟨hscreen.dataArray, hscreen.cells, hscreen.alert⟩

theorem entries_authentic_knownOwnerTrace :
    ∃ app, run step (launch World.start) knownOwnerTrace = some app ∧
      app.screen.dataArray.length = 2 ∧ ∀ entry ∈ app.screen.dataArray,
        Authentic app.world.server.accounts (uploads World.start knownOwnerTrace) entry := by
  have hend : (run step (launch World.start) knownOwnerTrace).map (fun app =>
      app.screen.dataArray.length) = some 2 := by
    decide +kernel
  obtain ⟨app, hrun, hlength⟩ := Option.map_eq_some_iff.mp hend
  exact ⟨app, hrun, hlength, (entries_authentic knownOwnerTrace app hrun).1⟩

end Procon
