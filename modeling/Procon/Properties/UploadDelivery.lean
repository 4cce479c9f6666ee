import Procon.Properties.OwnerLookup
import Procon.Properties.ReloadedRows

/-!
# From the uploads to the list

A refresh that both replies reach shows every upload made before its documents were looked up,
once and with its owner, whatever refreshes came before it.  `uploads_delivered` puts together
what uploads leave on the server, what the two callbacks read of it, and the invariants of runs
of serial refreshes: the array is that of the latest refresh alone, the notification is the
latest refresh's, and nothing stops a refresh whose documents have been read.
-/

namespace Procon

open NestedMap LabelledRun OnlineApp

/-! ## Flags and notifications -/

section Screen

open DocumentOnlineListVC

variable {vc vc' : DocumentOnlineListVC} {e : OnlineListEvent} {i : ℕ} {query : Query}

/-- A flag is not cleared. -/
lemma isTaskFinished_of_step (h : step vc e = some vc') (hi : i < vc.count)
    (hflag : ((vc.refresh i).block query).isTaskFinished = true) :
    ((vc'.refresh i).block query).isTaskFinished = true := by
  rcases refresh_of_step h with ⟨-, rfl⟩ | ⟨-, hsame, -⟩ |
    ⟨j, re, refresh, -, hrefresh, -, -, hsame⟩
  · simpa [updateList, Nat.ne_of_lt hi] using hflag
  · rwa [hsame]
  · rw [hsame]
    by_cases hij : i = j
    · subst hij
      rw [Function.update_self]
      have hset : ∀ query' block, (block.isTaskFinished = true ∨
          block.isTaskFinished = ((vc.refresh i).block query').isTaskFinished) →
            (((vc.refresh i).setBlock query' block).block query).isTaskFinished = true := by
        intro query' block hblock
        by_cases hquery : query = query'
        · subst hquery
          rw [Refresh.setBlock_self]
          exact hblock.elim id fun hsame => hsame.trans hflag
        · rw [Refresh.setBlock_of_ne _ _ hquery]
          exact hflag
      cases Refresh.outcome_of_step hrefresh with
      | getDocuments query' => exact hset query' _ (Or.inr rfl)
      | callback query' succeeds =>
          refine hset query' _ ?_
          cases succeeds with
          | true => exact Or.inl (Bool.or_true _)
          | false => exact Or.inr (Bool.or_false _)
      | leave query' => exact hset query' _ (Or.inr rfl)
      | notify => exact hflag
    · simpa [hij] using hflag

/-- A refresh has notified once its notification has run. -/
lemma notified_of_step (h : step vc e = some vc') :
    (i < vc'.count ∧ (vc'.refresh i).notifyPending = false) ↔
      (i < vc.count ∧ (vc.refresh i).notifyPending = false) ∨ e = .notify i := by
  cases outcome_of_step h with
  | updateList =>
      by_cases hi : i = vc.count
      · simp [updateList, hi, Refresh.start]
      · have hlt : i < vc.count + 1 ↔ i < vc.count := by omega
        simp [updateList, hi, hlt]
  | getDocuments j query next hnext =>
      obtain ⟨-, refresh, hrefresh, rfl⟩ := refreshStep_eq_some.mp hnext
      cases Refresh.outcome_of_step hrefresh
      by_cases hij : i = j <;> simp [hij, Refresh.setBlock]
  | callback j query reply next done hnext hdone =>
      obtain ⟨-, refresh, hrefresh, rfl⟩ := refreshStep_eq_some.mp hnext
      obtain ⟨hcount, hsame, -⟩ := callback_frame hdone
      rw [hcount, hsame]
      cases Refresh.outcome_of_step hrefresh
      by_cases hij : i = j <;> simp [hij, Refresh.setBlock]
  | callbackTrap j query reply next trap hnext hcallback =>
      obtain ⟨-, refresh, hrefresh, rfl⟩ := refreshStep_eq_some.mp hnext
      cases Refresh.outcome_of_step hrefresh
      by_cases hij : i = j <;> simp [hij, Refresh.setBlock]
  | leave j query next hnext =>
      obtain ⟨-, refresh, hrefresh, rfl⟩ := refreshStep_eq_some.mp hnext
      cases Refresh.outcome_of_step hrefresh
      by_cases hij : i = j <;> simp [hij, Refresh.setBlock]
  | notify j next hnext =>
      obtain ⟨hj, refresh, hrefresh, rfl⟩ := refreshStep_eq_some.mp hnext
      cases Refresh.outcome_of_step hrefresh
      by_cases hij : i = j
      · simp [hij, hj]
      · simp [hij, Ne.symm hij]
  | cell => simp
  | select => simp
  | rowTrap row e he =>
      rcases he with rfl | rfl <;> simp

end Screen

variable {ι : Type*} [DecidableEq ι] {world : World ι} {app app' : OnlineApp ι}
  {tr before after : List (OnlineAppEvent ι)} {i : ℕ} {query : Query}
  {documents userDocs : List QueryDocumentSnapshot} {owner : String → SimpleUserInfo}

/-- Events of the list that are no callbacks are events of the app. -/
lemma run_screen (app : OnlineApp ι) {events : List OnlineListEvent} {screen : DocumentOnlineListVC}
    (h : run DocumentOnlineListVC.step app.screen events = some screen)
    (hcallback : ∀ e ∈ events, e.isCallback = false) :
    run step app (events.map .screen) = some { app with screen := screen } := by
  induction events generalizing app with
  | nil =>
      obtain rfl := Option.some.inj h
      rfl
  | cons e events ih =>
      rw [run_cons, Option.bind_eq_some_iff] at h
      obtain ⟨next, hnext, h⟩ := h
      have hstep : step app (.screen e) = some { app with screen := next } := by
        simp [step, screenEvent?, hcallback e List.mem_cons_self, hnext]
      rw [List.map_cons, run_cons, hstep, Option.bind_some]
      have htail : ∀ e ∈ events, e.isCallback = false :=
        fun e' he' => hcallback e' (List.mem_cons_of_mem e he')
      exact ih { app with screen := next } h htail

/-- The notification of a refresh has run exactly when the run has taken that step. -/
lemma notified_iff (hrun : run step (launch world) tr = some app) :
    (i < app.screen.count ∧ (app.screen.refresh i).notifyPending = false) ↔
      ∃ app', Takes step (launch world) tr app' (.screen (.notify i)) := by
  have hset : ∀ (app : OnlineApp ι) e app', step app e = some app' →
      ((i < app'.screen.count ∧ (app'.screen.refresh i).notifyPending = false) ↔
        (i < app.screen.count ∧ (app.screen.refresh i).notifyPending = false) ∨
          e = .screen (.notify i)) := by
    intro app e app' hstep
    cases outcome_of_step hstep with
    | world => simp
    | snapshot => simp
    | screen e e' screen he hscreen =>
        have heq : e = .screen (.notify i) ↔ e' = .notify i := by
          constructor
          · rintro rfl
            exact (Option.some.inj he).symm
          · rintro rfl
            exact eq_screen_of_screenEvent? he rfl
        rw [heq]
        exact notified_of_step hscreen
  have hstart : ¬ (i < (launch world).screen.count ∧
      ((launch world).screen.refresh i).notifyPending = false) :=
    fun h => absurd h.1 (Nat.not_lt_zero i)
  rw [flag_iff (F := fun app : OnlineApp ι => i < app.screen.count ∧
    (app.screen.refresh i).notifyPending = false) hstart hset hrun]
  constructor
  · rintro ⟨app', e, ht, rfl⟩
    exact ⟨app', ht⟩
  · rintro ⟨app', ht⟩
    exact ⟨app', _, ht, rfl⟩

/-! ## What the two callbacks of a refresh find -/

/-- A snapshot that a run takes is a view of the server at that moment. -/
lemma exists_of_takeSnapshot (hrun : run step (launch world)
    (before ++ .takeSnapshot i query documents :: after) = some app) :
    ∃ mid, run step (launch world) before = some mid ∧
      Enumerates documents (mid.world.server.collection query) ∧
        app.snapshot i query = some documents := by
  obtain ⟨mid, next, hmid, hstep, hrest⟩ := exists_of_run_append_cons hrun
  cases outcome_of_step hstep with
  | snapshot _ _ _ hi hphase hreplied hnone hview =>
      refine ⟨mid, hmid, hview, snapshot_of_run hrest ?_⟩
      rw [lookUp_snapshot, if_pos ⟨rfl, rfl⟩]
  | screen e e' screen he => cases he

/-- The dictionary of a snapshot that covers the owners knows them. -/
lemma readUserInfos_of_covered {ups : List (String × DocumentInfo)}
    (hnodup : (userDocs.map Prod.fst).Nodup)
    (hcover : ∀ upload ∈ ups, ∃ record, (upload.1, record) ∈ userDocs ∧
      userInfoOf record = some (owner upload.1)) :
    ∀ upload ∈ ups, readUserInfos userDocs (fun _ => none) upload.1 = some (owner upload.1) := by
  intro upload hupload
  obtain ⟨record, hrecord, howner⟩ := hcover upload hupload
  have hread : readUserInfos userDocs (fun _ => none) upload.1 = (userInfoOf record).or none :=
    readUserInfos_of_mem hnodup hrecord
  rw [hread, howner, Option.or_none]

lemma SerialInvariant.dataArray_eq_nil_of_callback (h : SerialInvariant app)
    (hstep : OnlineApp.step app (.callback i .docRef true) = some app') :
    app.screen.dataArray = [] := by
  obtain ⟨-, _, next, hnext⟩ := refreshStep_of_callback hstep
  obtain ⟨hi, hphase, hreplied, -⟩ := callback_refreshStep hnext
  exact h.dataArray_eq_nil (h.latest hi hphase) hreplied

/-- A callback that can read what it is given sets its flag. -/
lemma flag_of_callback (h : step app (.callback i query true) = some app')
    (hread : query = .docRef → ∀ documents, app.snapshot i .docRef = some documents →
      ∃ dataArray, readDocuments app.screen.userInfos documents app.screen.dataArray =
        .ok dataArray) :
    i < app'.screen.count ∧ ((app'.screen.refresh i).block query).isTaskFinished = true := by
  obtain ⟨screen, hbind, rfl⟩ := Option.map_eq_some_iff.mp h
  obtain ⟨e', he, hscreen⟩ := Option.bind_eq_some_iff.mp hbind
  obtain ⟨documents, hdocuments, rfl⟩ := Option.map_eq_some_iff.mp he
  cases DocumentOnlineListVC.outcome_of_step hscreen with
  | callback _ _ _ next done hnext hdone =>
      have hcalled : app.screen.refreshStep i (.callback query true) = some next := hnext
      obtain ⟨hi, -, -, rfl⟩ := callback_refreshStep hcalled
      obtain ⟨hcount, hsame, -⟩ := DocumentOnlineListVC.callback_frame hdone
      refine ⟨by simpa [hcount] using hi, ?_⟩
      simp [hsame]
  | callbackTrap _ _ _ next trap hnext htrap =>
      obtain ⟨documents', rfl, heq, herror⟩ := DocumentOnlineListVC.callback_error_cases htrap
      obtain rfl := Reply.snapshot.inj heq
      obtain ⟨-, -, -, rfl⟩ := callback_refreshStep hnext
      obtain ⟨dataArray, hok⟩ := hread rfl documents hdocuments
      rw [hok] at herror
      cases herror
  | rowTrap row _ he => rcases he with he | he <;> cases he

/-- The flag stays set to the end of the run. -/
lemma flag_of_run (h : run step app tr = some app')
    (hflag : i < app.screen.count ∧ ((app.screen.refresh i).block query).isTaskFinished = true) :
    i < app'.screen.count ∧ ((app'.screen.refresh i).block query).isTaskFinished = true := by
  refine run_invariant (P := fun app => i < app.screen.count ∧
    ((app.screen.refresh i).block query).isTaskFinished = true) hflag ?_ h
  rintro app₁ e app₂ ⟨hi, hset⟩ hstep
  cases outcome_of_step hstep with
  | world => exact ⟨hi, hset⟩
  | snapshot => exact ⟨hi, hset⟩
  | screen e e' screen he hscreen =>
      exact ⟨Nat.lt_of_lt_of_le hi (count_le_of_step hscreen),
        isTaskFinished_of_step hscreen hi hset⟩

/-- The array at the notification of a refresh is what its callbacks have read. -/
lemma SerialInvariant.dataArray_of_notify (h : SerialInvariant app)
    (hstep : OnlineApp.step app (.screen (.notify i)) = some app') :
    ∃ userDocs documents, app.snapshot i .userRef = some userDocs ∧
      app.snapshot i .docRef = some documents ∧
        readDocuments (readUserInfos userDocs fun _ => none) documents [] =
          .ok app.screen.dataArray := by
  obtain ⟨screen, hbind, -⟩ := Option.map_eq_some_iff.mp hstep
  obtain ⟨e', he, hscreen⟩ := Option.bind_eq_some_iff.mp hbind
  obtain rfl := Option.some.inj he
  have hnext : ∃ next, app.screen.refreshStep i .notify = some next := by
    cases DocumentOnlineListVC.outcome_of_step hscreen with
    | notify _ next hnext => exact ⟨next, hnext⟩
    | rowTrap row _ he => rcases he with he | he <;> cases he
  obtain ⟨next, hnext⟩ := hnext
  obtain ⟨hi, refresh, hrefresh, rfl⟩ := DocumentOnlineListVC.refreshStep_eq_some.mp hnext
  cases Refresh.outcome_of_step hrefresh with
  | notify hgroup hpending =>
      have hlatest := h.latest_of_pending hi hpending
      have hseen : ∀ query, ∃ documents, app.snapshot i query = some documents ∧
          app.seen i query = documents := by
        intro query
        have hflag := ((h.refreshes i hi).block query).flag
          ((h.refreshes i hi).finished_of_group hgroup query)
        obtain ⟨documents, hdocuments⟩ :=
          Option.isSome_iff_exists.mp (h.lookedUp i hi query hflag)
        exact ⟨documents, hdocuments, by rw [seen, if_pos hflag, hdocuments, Option.getD_some]⟩
      obtain ⟨userDocs, huser, huser'⟩ := hseen .userRef
      obtain ⟨documents, hdoc, hdoc'⟩ := hseen .docRef
      have harray := h.dataArray i hlatest
      rw [h.userInfos i hlatest, huser', hdoc'] at harray
      exact ⟨userDocs, documents, huser, hdoc, harray⟩

/-! ## Delivery -/

section Delivery

variable (hempty : world.server.documents = ∅)
  (htr : tr = before ++ .takeSnapshot i .docRef documents :: after)
  (hrun : run step (launch world) tr = some app)
  (hdistinct : ((uploads world before).map fun upload => upload.2.uid).Nodup)
  (huser : app.snapshot i .userRef = some userDocs)
  (hcover : ∀ upload ∈ uploads world before, ∃ record, (upload.1, record) ∈ userDocs ∧
    userInfoOf record = some (owner upload.1))

include hempty htr hrun hdistinct huser hcover

/-- **What the documents callback makes of the two snapshots.** -/
theorem readDocuments_of_uploads :
    app.snapshot i .docRef = some documents ∧
    ∃ dataArray, readDocuments (readUserInfos userDocs fun _ => none) documents [] =
      .ok dataArray ∧
        dataArray.Perm ((uploads world before).map fun upload => ⟨upload.2, owner upload.1⟩) := by
  subst htr
  obtain ⟨mid, hmid, hview, hdocuments⟩ := exists_of_takeSnapshot hrun
  exact ⟨hdocuments, readDocuments_of_perm (cells_perm_uploads hempty hmid hdistinct hview)
    (readUserInfos_of_covered (nodup_of_snapshot hrun huser) hcover)⟩

variable (hserial : ∀ app' e, Takes step (launch world) tr app' e → StartsSerially app' e)

include hserial

/-- Every upload is in the array of the notification, once and with its owner. -/
lemma perm_of_notify (ht : Takes step (launch world) tr app' (.screen (.notify i))) :
    app'.screen.dataArray.Perm
      ((uploads world before).map fun upload => ⟨upload.2, owner upload.1⟩) := by
  obtain ⟨hdocuments, dataArray, hread, hperm⟩ :=
    readDocuments_of_uploads hempty htr hrun hdistinct huser hcover
  obtain ⟨next, hstep, -⟩ := ht.exists_next hrun
  obtain ⟨userDocs', documents', huser', hdocuments', harray⟩ :=
    (serialInvariant_of_takes hserial ht).dataArray_of_notify hstep
  obtain rfl := snapshot_unique ht hrun huser' huser
  obtain rfl := snapshot_unique ht hrun hdocuments' hdocuments
  rw [hread] at harray
  obtain rfl := Except.ok.inj harray
  exact hperm

/-- Once both replies have succeeded, the flags of both queries are set for good. -/
lemma flags_of_callbacks (hreplies : ∀ query, OnlineAppEvent.callback i query true ∈ tr)
    (query : Query) :
    i < app.screen.count ∧ ((app.screen.refresh i).block query).isTaskFinished = true := by
  obtain ⟨hdocuments, dataArray, hread, -⟩ :=
    readDocuments_of_uploads hempty htr hrun hdistinct huser hcover
  obtain ⟨done, rest, hcut⟩ := List.append_of_mem (hreplies query)
  obtain ⟨app₁, app₂, hdone, hstep, hrest⟩ := exists_of_run_append_cons (hcut ▸ hrun)
  have ht : Takes step (launch world) tr app₁ (.callback i query true) :=
    takes_iff.mpr ⟨done, rest, hcut, hdone⟩
  refine flag_of_run hrest (flag_of_callback hstep ?_)
  rintro rfl documents' hdocuments'
  have hinv := serialInvariant_of_takes hserial ht
  obtain ⟨userDocs', documents'', huser', -, huserInfos⟩ := hinv.userInfos_of_callback hstep
  obtain rfl := snapshot_unique ht hrun huser' huser
  obtain rfl := snapshot_unique ht hrun hdocuments' hdocuments
  rw [huserInfos, hinv.dataArray_eq_nil_of_callback hstep]
  exact ⟨dataArray, hread⟩

end Delivery

/-- A refresh with both flags set has notified, or the worker and the notification bring it
there. -/
lemma exists_run_to_notified (hrun : run step (launch world) tr = some app)
    (hserial : ∀ app' e, Takes step (launch world) tr app' e → StartsSerially app' e)
    (hrows : RowsInvariant app)
    (hflags : ∀ query, i < app.screen.count ∧
      ((app.screen.refresh i).block query).isTaskFinished = true) :
    ∃ rest app'',
      (∀ e ∈ rest, e = OnlineAppEvent.screen (.leave i .docRef) ∨ e = .screen (.notify i)) ∧
      run step (launch world) (tr ++ rest) = some app'' ∧
      (∀ app' e, Takes step (launch world) (tr ++ rest) app' e → StartsSerially app' e) ∧
      app''.snapshot = app.snapshot ∧
      ∃ app', Takes step (launch world) (tr ++ rest) app' (.screen (.notify i)) := by
  have hi := (hflags .docRef).1
  have hinv := serialInvariant_of_run hserial hrun
  cases hpending : (app.screen.refresh i).notifyPending with
  | false =>
      have hnotified := (notified_iff hrun).mp ⟨hi, hpending⟩
      refine ⟨[], app, by simp, ?_, ?_, rfl, ?_⟩
      · rwa [List.append_nil]
      · rwa [List.append_nil]
      · rwa [List.append_nil]
  | true =>
      have htrap := hinv.trap_eq_none hrows hi hpending (hflags .docRef).2
      obtain ⟨events, screen, hevents, hscreen, -, hruns, -⟩ :=
        exists_run_to_notify hinv.refreshes htrap hi fun query => (hflags query).2
      have hrest : ∀ e ∈ events.map (@OnlineAppEvent.screen ι),
          e = .screen (.leave i .docRef) ∨ e = .screen (.notify i) := by
        intro e he
        obtain ⟨e', he', rfl⟩ := List.mem_map.mp he
        exact (hevents e' he').imp (congrArg _) (congrArg _)
      have hcontinue : run step app (events.map .screen) = some { app with screen := screen } :=
        run_screen app hscreen fun e he => by rcases hevents e he with rfl | rfl <;> rfl
      have hrun' : run step (launch world) (tr ++ events.map .screen) =
          some { app with screen := screen } := by
        rw [run_append_of_eq hrun, hcontinue]
      have hserial' : ∀ app' e, Takes step (launch world) (tr ++ events.map .screen) app' e →
          StartsSerially app' e := by
        intro app' e ht
        rw [Takes, steps_append hrun, List.mem_append] at ht
        rcases ht with ht | ht
        · exact hserial app' e ht
        · rcases hrest e (Takes.mem ht) with rfl | rfl <;> intro hstarts <;> cases hstarts
      have hend := flag_of_run hcontinue (hflags .docRef)
      have hnotified : (screen.refresh i).notifyPending = false := by
        have hruns' := ((serialInvariant_of_run hserial' hrun').refreshes i hend.1).runs
        rw [hruns] at hruns'
        by_contra hstill
        rw [if_pos (by simpa using hstill)] at hruns'
        cases hruns'
      exact ⟨events.map .screen, _, hrest, hrun', hserial', rfl,
        (notified_iff hrun').mp ⟨hend.1, hnotified⟩⟩

/-- **Every upload is delivered.**  In a run of serial refreshes, a refresh whose documents are
looked up after the uploads of `before`, and whose first snapshot has the name and the email of
every uploader, notifies with one entry for each of these uploads, in some order and nothing
else; and once both its replies have succeeded, the worker and the notification bring it there
by themselves, whatever else has happened. -/
theorem uploads_delivered (world : World ι) (tr before after : List (OnlineAppEvent ι)) (i : ℕ)
    (documents userDocs : List QueryDocumentSnapshot) (owner : String → SimpleUserInfo)
    (app : OnlineApp ι) (hempty : world.server.documents = ∅)
    (htr : tr = before ++ .takeSnapshot i .docRef documents :: after)
    (hrun : run step (launch world) tr = some app)
    (hserial : ∀ app' e, Takes step (launch world) tr app' e → StartsSerially app' e)
    (hdistinct : ((uploads world before).map fun upload => upload.2.uid).Nodup)
    (huser : app.snapshot i .userRef = some userDocs)
    (hcover : ∀ upload ∈ uploads world before, ∃ record, (upload.1, record) ∈ userDocs ∧
      userInfoOf record = some (owner upload.1)) :
    (∀ app', Takes step (launch world) tr app' (.screen (.notify i)) →
      app'.screen.dataArray.Perm
        ((uploads world before).map fun upload => ⟨upload.2, owner upload.1⟩)) ∧
    ((∀ query, OnlineAppEvent.callback i query true ∈ tr) →
      ∃ rest app' app'',
        (∀ e ∈ rest, e = .screen (.leave i .docRef) ∨ e = .screen (.notify i)) ∧
        run step (launch world) (tr ++ rest) = some app'' ∧
        Takes step (launch world) (tr ++ rest) app' (.screen (.notify i)) ∧
        app'.screen.dataArray.Perm
          ((uploads world before).map fun upload => ⟨upload.2, owner upload.1⟩)) := by
  refine ⟨?_, ?_⟩
  · intro app' ht
    exact perm_of_notify hempty htr hrun hdistinct huser hcover hserial ht
  · intro hreplies
    have hflags := flags_of_callbacks hempty htr hrun hdistinct huser hcover hserial hreplies
    obtain ⟨rest, app'', hrest, hrun', hserial', hsnapshot, app', ht⟩ :=
      exists_run_to_notified hrun hserial (rowsInvariant_of_run hempty hserial hrun) hflags
    have htr' : tr ++ rest = before ++ .takeSnapshot i .docRef documents :: (after ++ rest) := by
      rw [htr, List.append_assoc, List.cons_append]
    have huser' : app''.snapshot i .userRef = some userDocs := by rw [hsnapshot, huser]
    exact ⟨rest, app', app'', hrest, hrun', ht,
      perm_of_notify hempty htr' hrun' hdistinct huser' hcover hserial' ht⟩

/-! ### Two owners and two refreshes -/

def ownerOf (uid : String) : SimpleUserInfo :=
  if uid = "user" then ⟨"User", "user@example.com"⟩ else ⟨"Guest", "guest@example.com"⟩

/-- The verified account of an owner. -/
def accountOf (uid : String) : Account :=
  ⟨some (ownerOf uid).name, some (ownerOf uid).email, true, true⟩

/-- Two clients whose users are signed in and verified, and nothing uploaded. -/
def twoOwners : World Bool where
  server :=
    { accounts := fun uid => if uid = "user" ∨ uid = "guest" then some (accountOf uid) else none
      userInfos := (AList.singleton "user" ownerRecord).insert "guest" guestRecord
      documents := ∅ }
  client c := { Client.install with
    currentUser := some (if c then (accountOf "guest").user 0 "guest" else
      (accountOf "user").user 0 "user")
    objects := 1
    switchSavingOnline := true }

def twoOwnersUsers : List QueryDocumentSnapshot := [("guest", guestRecord), ("user", ownerRecord)]

def twoOwnersDocuments : List QueryDocumentSnapshot :=
  [("guest", documentRecord uploadedSecond), ("user", documentRecord uploadedFirst)]

/-- One user uploads a document, a refresh shows it, the other user uploads one as well, and a
second refresh begins. -/
def twoUploadsTrace : List (OnlineAppEvent Bool) :=
  [.world (.client false .saveButtonTapped),
    .world (.client false (.okTapped .first (some "title") none none)),
    .screen .updateList, .screen (.getDocuments 0 .userRef),
    .takeSnapshot 0 .userRef twoOwnersUsers, .callback 0 .userRef true,
    .screen (.leave 0 .userRef), .screen (.getDocuments 0 .docRef),
    .takeSnapshot 0 .docRef [("user", documentRecord uploadedFirst)], .callback 0 .docRef true,
    .screen (.leave 0 .docRef), .screen (.notify 0),
    .world (.client true .saveButtonTapped),
    .world (.client true (.okTapped .second none (some "2017/10/01") (some "text"))),
    .screen .updateList, .screen (.getDocuments 1 .userRef)]

/-- The users are looked up and read, and the documents are asked for. -/
def twoOwnersBefore : List (OnlineAppEvent Bool) :=
  twoUploadsTrace ++ .takeSnapshot 1 .userRef twoOwnersUsers ::
    [.callback 1 .userRef true, .screen (.leave 1 .userRef), .screen (.getDocuments 1 .docRef)]

def twoOwnersTrace : List (OnlineAppEvent Bool) :=
  twoOwnersBefore ++ .takeSnapshot 1 .docRef twoOwnersDocuments :: [.callback 1 .docRef true]

theorem uploads_delivered_twoOwners :
    ∃ app, run step (launch twoOwners) twoOwnersTrace = some app ∧
      (∀ app', Takes step (launch twoOwners) twoOwnersTrace app' (.screen (.notify 1)) →
        app'.screen.dataArray.Perm
          [⟨uploadedFirst, ownerOf "user"⟩, ⟨uploadedSecond, ownerOf "guest"⟩]) ∧
      ∃ rest app' app'',
        (∀ e ∈ rest, e = .screen (.leave 1 .docRef) ∨ e = .screen (.notify 1)) ∧
        run step (launch twoOwners) (twoOwnersTrace ++ rest) = some app'' ∧
        Takes step (launch twoOwners) (twoOwnersTrace ++ rest) app' (.screen (.notify 1)) ∧
        app'.screen.dataArray.Perm
          [⟨uploadedFirst, ownerOf "user"⟩, ⟨uploadedSecond, ownerOf "guest"⟩] := by
  have hsome : (run step (launch twoOwners) twoOwnersTrace).isSome := by decide
  obtain ⟨app, hrun⟩ := Option.isSome_iff_exists.mp hsome
  have hserial : ∀ x ∈ steps step (launch twoOwners) twoOwnersTrace, StartsSerially x.1 x.2 := by
    decide
  have huploads : uploads twoOwners twoOwnersBefore =
      [("user", uploadedFirst), ("guest", uploadedSecond)] := by
    decide
  have huser : app.snapshot 1 .userRef = some twoOwnersUsers := by
    have hcut : twoOwnersTrace = twoUploadsTrace ++ .takeSnapshot 1 .userRef twoOwnersUsers ::
        ([.callback 1 .userRef true, .screen (.leave 1 .userRef),
          .screen (.getDocuments 1 .docRef)] ++
            .takeSnapshot 1 .docRef twoOwnersDocuments :: [.callback 1 .docRef true]) := by
      rw [twoOwnersTrace, twoOwnersBefore, List.append_assoc, List.cons_append]
    obtain ⟨-, -, -, huser⟩ := exists_of_takeSnapshot (hcut ▸ hrun)
    exact huser
  have hcover : ∀ upload ∈ uploads twoOwners twoOwnersBefore, ∃ record,
      (upload.1, record) ∈ twoOwnersUsers ∧ userInfoOf record = some (ownerOf upload.1) := by
    rw [huploads]
    intro upload hupload
    rcases List.mem_pair.mp hupload with rfl | rfl
    · exact ⟨ownerRecord, by simp [twoOwnersUsers], by decide⟩
    · exact ⟨guestRecord, by simp [twoOwnersUsers], by decide⟩
  have hdelivered := uploads_delivered twoOwners twoOwnersTrace twoOwnersBefore
    [.callback 1 .docRef true] 1 twoOwnersDocuments twoOwnersUsers ownerOf app rfl rfl hrun
    (fun app' e ht => hserial (app', e) ht) (by rw [huploads]; decide) huser hcover
  rw [huploads] at hdelivered
  refine ⟨app, hrun, hdelivered.1, hdelivered.2 fun query => ?_⟩
  cases query with
  | userRef => simp [twoOwnersTrace, twoOwnersBefore]
  | docRef => simp [twoOwnersTrace]

end Procon
