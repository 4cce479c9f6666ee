import Procon.Properties.OwnerRecord
import Procon.Properties.SerialRefresh

/-!
# The owner lookup of the online list

The `docRef` callback force-unwraps `userInfos[user_uid]`, an entry that the `userRef` callback
has read earlier.  Even on a server where every document has a usable owner record at every
moment, the two snapshots of a refresh are taken at different moments: a user who registers and
uploads between them is in the second and not in the first.

`JoinHistory` follows one refresh along a run.  A user with a document in what the second query
will deliver is covered by the first snapshot or has uploaded since it was taken, and whoever has
uploaded since then has a document there.  `owner_lookup_iff` is the resulting exact condition.
-/

namespace Procon

open NestedMap CollectingLoop LabelledRun OnlineApp

variable {ι : Type*} [DecidableEq ι] {world : World ι} {app app' : OnlineApp ι}
  {e : OnlineAppEvent ι} {tr : List (OnlineAppEvent ι)} {i : ℕ} {uid : String}
  {userDocs documents : List QueryDocumentSnapshot}

/-- Every record that holds a document has an owner record with a name and an email. -/
def Consistent (server : Server) : Prop :=
  ∀ uid, server.HoldsDocument uid → (server.userInfo uid).isSome

omit [DecidableEq ι] in
lemma consistent_of_keys {server : Server}
    (h : ∀ uid ∈ server.documents.keys, (server.userInfo uid).isSome) : Consistent server := by
  rintro uid ⟨field, docData, docInfo, hget, -⟩
  obtain ⟨record, hrecord, -⟩ := Option.bind_eq_some_iff.mp hget
  refine h uid (AList.mem_keys.mp (AList.lookup_isSome.mp ?_))
  rw [hrecord]
  rfl

/-- Every document that the event decodes has its owner in the dictionary. -/
def OwnersFound (app : OnlineApp ι) (e : OnlineAppEvent ι) : Prop :=
  ∀ i documents, e = .callback i .docRef true → app.snapshot i .docRef = some documents →
    ∀ uid, HoldsDocument documents uid → (app.screen.userInfos uid).isSome

/-- The user uploads a document after the first snapshot of the refresh `i`, which is `userDocs`,
and before the second. -/
def UploadsBetween (world : World ι) (tr : List (OnlineAppEvent ι)) (i : ℕ)
    (userDocs : List QueryDocumentSnapshot) (uid : String) : Prop :=
  ∃ app' e docInfo, Takes step (launch world) tr app' e ∧
    app'.snapshot i .userRef = some userDocs ∧ app'.snapshot i .docRef = none ∧
      app'.upload? e = some (uid, docInfo)

/-- The user has a document in what the second query of the refresh `i` delivers, as far as this
is known: in its snapshot, or on the server as long as there is none. -/
def Delivers (app : OnlineApp ι) (i : ℕ) (uid : String) : Prop :=
  match app.snapshot i .docRef with
  | some documents => HoldsDocument documents uid
  | none => app.world.server.HoldsDocument uid

/-! ## The history of one refresh -/

/-- What a run of the events `tr` has made of the refresh `i`. -/
structure JoinHistory (world : World ι) (i : ℕ) (tr : List (OnlineAppEvent ι))
    (app : OnlineApp ι) : Prop where
  order : app.snapshot i .userRef = none → app.snapshot i .docRef = none
  join : ∀ userDocs, app.snapshot i .userRef = some userDocs → ∀ uid,
    (Delivers app i uid → Covers userDocs uid ∨ UploadsBetween world tr i userDocs uid) ∧
      (UploadsBetween world tr i userDocs uid → Delivers app i uid)

omit [DecidableEq ι] in
lemma delivers_of_none (h : app.snapshot i .docRef = none) :
    Delivers app i uid ↔ app.world.server.HoldsDocument uid := by
  rw [Delivers, h]

omit [DecidableEq ι] in
lemma delivers_of_some (h : app.snapshot i .docRef = some documents) :
    Delivers app i uid ↔ HoldsDocument documents uid := by
  rw [Delivers, h]

lemma holdsDocument_of_step (h : step app e = some app') :
    app'.world.server.HoldsDocument uid ↔
      app.world.server.HoldsDocument uid ∨ ∃ docInfo, app.upload? e = some (uid, docInfo) := by
  have hdocuments := documents_of_step h
  cases hupload : app.upload? e with
  | none =>
      rw [hupload] at hdocuments
      simp [Server.HoldsDocument, hdocuments]
  | some upload =>
      obtain ⟨owner, docInfo⟩ := upload
      rw [hupload] at hdocuments
      have hsame : app'.world.server.HoldsDocument uid ↔
          (app.world.server.mergeDocument owner docInfo).HoldsDocument uid := by
        simp [Server.HoldsDocument, hdocuments]
      rw [hsame, Server.holdsDocument_mergeDocument]
      simp [eq_comm]

lemma uploadsBetween_concat (h : run step (launch world) tr = some app) :
    UploadsBetween world (tr ++ [e]) i userDocs uid ↔
      UploadsBetween world tr i userDocs uid ∨
        app.snapshot i .userRef = some userDocs ∧ app.snapshot i .docRef = none ∧
          ∃ docInfo, app.upload? e = some (uid, docInfo) := by
  constructor
  · rintro ⟨app', e', docInfo, ht, huser, hdoc, hupload⟩
    rcases (takes_concat h).mp ht with ht | ⟨rfl, rfl⟩
    · exact Or.inl ⟨app', e', docInfo, ht, huser, hdoc, hupload⟩
    · exact Or.inr ⟨huser, hdoc, docInfo, hupload⟩
  · rintro (⟨app', e', docInfo, ht, huser, hdoc, hupload⟩ | ⟨huser, hdoc, docInfo, hupload⟩)
    · exact ⟨app', e', docInfo, (takes_concat h).mpr (Or.inl ht), huser, hdoc, hupload⟩
    · exact ⟨app, e, docInfo, (takes_concat h).mpr (Or.inr ⟨rfl, rfl⟩), huser, hdoc, hupload⟩

lemma snapshot_of_uploadsBetween (h : run step (launch world) tr = some app)
    (hupload : UploadsBetween world tr i userDocs uid) :
    app.snapshot i .userRef = some userDocs := by
  obtain ⟨app', e, docInfo, ht, huser, -, -⟩ := hupload
  exact snapshot_of_takes ht h huser

/-- An event that leaves the snapshots of the refresh alone. -/
lemma JoinHistory.of_same (h : JoinHistory world i tr app)
    (hrun : run step (launch world) tr = some app) (hstep : step app e = some app')
    (hsame : app'.snapshot i = app.snapshot i) : JoinHistory world i (tr ++ [e]) app' := by
  refine ⟨?_, ?_⟩
  · rw [hsame]
    exact h.order
  · intro userDocs huser uid
    rw [hsame] at huser
    obtain ⟨hcovered, hdelivered⟩ := h.join userDocs huser uid
    rw [uploadsBetween_concat hrun]
    cases hdoc : app.snapshot i .docRef with
    | some documents =>
        rw [delivers_of_some hdoc] at hcovered hdelivered
        rw [delivers_of_some (hsame ▸ hdoc)]
        simpa using ⟨hcovered, hdelivered⟩
    | none =>
        rw [delivers_of_none hdoc] at hcovered hdelivered
        rw [delivers_of_none (hsame ▸ hdoc), holdsDocument_of_step hstep]
        refine ⟨?_, ?_⟩
        · rintro (hheld | hupload)
          · exact (hcovered hheld).imp_right Or.inl
          · exact Or.inr (Or.inr ⟨huser, rfl, hupload⟩)
        · rintro (hbetween | ⟨-, -, hupload⟩)
          · exact Or.inl (hdelivered hbetween)
          · exact Or.inr hupload

/-- The first snapshot covers whoever has a document when it is taken. -/
lemma JoinHistory.userRef (h : JoinHistory world i tr app)
    (hrun : run step (launch world) tr = some app) (hconsistent : Consistent app.world.server)
    (hnone : app.snapshot i .userRef = none)
    (hview : Enumerates userDocs app.world.server.userInfos) :
    JoinHistory world i (tr ++ [.takeSnapshot i .userRef userDocs])
      (app.lookUp i .userRef userDocs) := by
  have hdoc : (app.lookUp i .userRef userDocs).snapshot i .docRef = none := by
    rw [lookUp_snapshot, if_neg (by simp)]
    exact h.order hnone
  refine ⟨fun _ => hdoc, ?_⟩
  intro userDocs' huser uid
  rw [lookUp_snapshot, if_pos ⟨rfl, rfl⟩] at huser
  obtain rfl := Option.some.inj huser
  rw [delivers_of_none hdoc, uploadsBetween_concat hrun]
  refine ⟨fun hheld => Or.inl ((covers_iff hview).mpr (hconsistent uid hheld)), ?_⟩
  rintro (hbetween | ⟨huser', -⟩)
  · rw [snapshot_of_uploadsBetween hrun hbetween] at hnone
    cases hnone
  · rw [hnone] at huser'
    cases huser'

/-- The second snapshot holds what the server holds when it is taken. -/
lemma JoinHistory.docRef (h : JoinHistory world i tr app)
    (hrun : run step (launch world) tr = some app)
    (hasked : (app.snapshot i .userRef).isSome) (hnone : app.snapshot i .docRef = none)
    (hview : Enumerates documents app.world.server.documents) :
    JoinHistory world i (tr ++ [.takeSnapshot i .docRef documents])
      (app.lookUp i .docRef documents) := by
  have hkeep : (app.lookUp i .docRef documents).snapshot i .userRef = app.snapshot i .userRef := by
    rw [lookUp_snapshot, if_neg (by simp)]
  have hdoc : (app.lookUp i .docRef documents).snapshot i .docRef = some documents := by
    rw [lookUp_snapshot, if_pos ⟨rfl, rfl⟩]
  refine ⟨fun huser => ?_, ?_⟩
  · rw [hkeep] at huser
    rw [huser] at hasked
    cases hasked
  · intro userDocs huser uid
    rw [hkeep] at huser
    have hjoin := h.join userDocs huser uid
    rw [delivers_of_none hnone] at hjoin
    rw [delivers_of_some hdoc, holdsDocument_iff hview, uploadsBetween_concat hrun]
    simpa [upload?] using hjoin

theorem joinHistory_of_run
    (hserial : ∀ app' e, Takes step (launch world) tr app' e → StartsSerially app' e)
    (hconsistent : ∀ app', Visits step (launch world) tr app' → Consistent app'.world.server)
    (hrun : run step (launch world) tr = some app) : JoinHistory world i tr app := by
  revert hserial hconsistent
  refine run_induction (P := fun tr app =>
    (∀ app' e, Takes step (launch world) tr app' e → StartsSerially app' e) →
      (∀ app', Visits step (launch world) tr app' → Consistent app'.world.server) →
        JoinHistory world i tr app) ?_ ?_ hrun
  · intro _ _
    refine ⟨fun _ => rfl, fun userDocs huser => ?_⟩
    cases huser
  · intro tr app e app' hrun ih hstep hserial hconsistent
    have hserial' : ∀ app' e, Takes step (launch world) tr app' e → StartsSerially app' e :=
      fun app₁ e₁ ht => hserial app₁ e₁ ((takes_concat hrun).mpr (Or.inl ht))
    have hnow := serialInvariant_of_run hserial' hrun
    have h := ih hserial' fun app₁ hv => hconsistent app₁ (hv.append [e])
    cases outcome_of_step hstep with
    | world => exact h.of_same hrun hstep rfl
    | screen => exact h.of_same hrun hstep rfl
    | snapshot j query documents hj hphase hreplied hnone hview =>
        by_cases hij : i = j
        · subst hij
          cases query with
          | userRef =>
              exact h.userRef hrun (hconsistent app ((visits_self hrun).append _)) hnone hview
          | docRef =>
              obtain ⟨-, hasked⟩ := hnow.userRef_of_docRef hj (by simp [hphase])
              exact h.docRef hrun (Option.isSome_iff_exists.mpr hasked) hnone hview
        · refine h.of_same hrun hstep (funext fun query' => ?_)
          rw [lookUp_snapshot, if_neg fun heq => hij heq.1]

/-! ## The callback -/

/-- A callback that finds all owners does not fail the lookup, and nothing else does. -/
lemma lookup_step (htrap : app.screen.trap ≠ some (.forcedUnwrap "self.userInfos[user_uid]"))
    (hfound : OwnersFound app e) (hstep : step app e = some app') :
    app'.screen.trap ≠ some (.forcedUnwrap "self.userInfos[user_uid]") := by
  cases outcome_of_step hstep with
  | world => exact htrap
  | snapshot => exact htrap
  | screen e e' screen he hscreen =>
      intro htrapped
      rcases DocumentOnlineListVC.trapped_of_step hscreen htrapped with
        ⟨i, documents, next, rfl, -, -, hdocs⟩ | ⟨-, hrow, -⟩
      · obtain ⟨rfl, hsnapshot⟩ := snapshot_of_screenEvent? he
        rw [readDocuments_eq] at hdocs
        obtain ⟨⟨user_uid, field, val⟩, hcell, hentry⟩ := exists_of_collect_error hdocs
        rcases trap_of_entryOf hentry with ⟨-, hmissing, docData, docInfo, rfl, hdoc⟩ |
          ⟨docData, -, hdoc⟩
        · have howner := hfound i documents rfl hsnapshot user_uid
            ⟨field, docData, docInfo, hcell, hdoc⟩
          rw [Option.isSome_iff_ne_none] at howner
          exact howner hmissing
        · rcases trap_of_unarchiveDocumentInfo hdoc with hcast | hcast <;> cases hcast
      · cases hrow

lemma lookup_of_run (hrun : run step (launch world) tr = some app)
    (hfound : ∀ app' e, Takes step (launch world) tr app' e → OwnersFound app' e) :
    app.screen.trap ≠ some (.forcedUnwrap "self.userInfos[user_uid]") := by
  refine takes_invariant (P := fun app => app.screen.trap ≠
    some (.forcedUnwrap "self.userInfos[user_uid]")) (C := OwnersFound) ?_
      (fun _ _ _ htrap hfound hstep => lookup_step htrap hfound hstep) hrun hfound
  intro htrap
  cases htrap

section Exact

variable (hrun : run step (launch world) tr = some app)
  (hserial : ∀ app' e, Takes step (launch world) tr app' e → StartsSerially app' e)
  (hconsistent : ∀ app', Visits step (launch world) tr app' → Consistent app'.world.server)

include hrun hserial hconsistent

/-- Where the callback finds all owners, whoever uploads between the snapshots is covered. -/
lemma covers_of_ownersFound
    (hfound : ∀ app' e, Takes step (launch world) tr app' e → OwnersFound app' e)
    (hmem : OnlineAppEvent.callback i .docRef true ∈ tr)
    (hbetween : UploadsBetween world tr i userDocs uid) : Covers userDocs uid := by
  obtain ⟨done, rest, rfl⟩ := List.append_of_mem hmem
  obtain ⟨app₁, app₂, hdone, hstep, -⟩ := exists_of_run_append_cons hrun
  have ht : Takes step (launch world) (done ++ .callback i .docRef true :: rest) app₁
      (.callback i .docRef true) := takes_iff.mpr ⟨done, rest, rfl, hdone⟩
  obtain ⟨userDocs', documents, huser, hdocuments, huserInfos⟩ :=
    (serialInvariant_of_takes hserial ht).userInfos_of_callback hstep
  -- the snapshots the callback finds are those of the end of the run
  have hend := snapshot_of_uploadsBetween hrun hbetween
  obtain rfl := snapshot_unique ht hrun huser hend
  have hjoin := (joinHistory_of_run (i := i) hserial hconsistent hrun).join _ hend uid
  have hheld : HoldsDocument documents uid :=
    (delivers_of_some (snapshot_of_takes ht hrun hdocuments)).mp (hjoin.2 hbetween)
  have howner := hfound app₁ _ ht i documents rfl hdocuments uid hheld
  rw [huserInfos] at howner
  exact (isSome_readUserInfos_iff (nodup_of_snapshot hdone huser)).mp howner

/-- Where all who upload between the snapshots are covered, the callback finds all owners. -/
lemma ownersFound_of_covers {e : OnlineAppEvent ι}
    (hcovered : ∀ i, OnlineAppEvent.callback i .docRef true ∈ tr → ∀ userDocs uid,
      UploadsBetween world tr i userDocs uid → Covers userDocs uid)
    (ht : Takes step (launch world) tr app' e) : OwnersFound app' e := by
  rintro i documents rfl hdocuments uid hheld
  obtain ⟨done, rest, rfl, hdone⟩ := takes_iff.mp ht
  obtain ⟨app₂, hstep, -⟩ := ht.exists_next hrun
  obtain ⟨userDocs, documents', huser, hdocuments', huserInfos⟩ :=
    (serialInvariant_of_takes hserial ht).userInfos_of_callback hstep
  rw [hdocuments] at hdocuments'
  obtain rfl := Option.some.inj hdocuments'
  have hjoin := (joinHistory_of_run (i := i)
    (fun app' e ht' => hserial app' e (ht'.append hdone _))
    (fun app' hv => hconsistent app' (hv.append _)) hdone).join userDocs huser uid
  rw [huserInfos]
  refine (isSome_readUserInfos_iff (nodup_of_snapshot hdone huser)).mpr ?_
  rcases hjoin.1 ((delivers_of_some hdocuments).mpr hheld) with hcovers | hbetween
  · exact hcovers
  · obtain ⟨app₁, e, docInfo, ht', hbetween⟩ := hbetween
    exact hcovered i (by simp) userDocs uid ⟨app₁, e, docInfo, ht'.append hdone _, hbetween⟩

end Exact

/-- **Which runs of consistent servers find every owner.**  In a run of serial refreshes whose
server is consistent at every moment, every documents callback finds the owner of every document
it decodes, and the lookup never traps, exactly when in every refresh whose documents are
delivered each user who has uploaded between its two snapshots is covered by the first. -/
theorem owner_lookup_iff (world : World ι) (tr : List (OnlineAppEvent ι)) (app : OnlineApp ι)
    (hrun : run step (launch world) tr = some app)
    (hserial : ∀ app' e, Takes step (launch world) tr app' e → StartsSerially app' e)
    (hconsistent : ∀ app', Visits step (launch world) tr app' → Consistent app'.world.server) :
    ((∀ app' e, Takes step (launch world) tr app' e → OwnersFound app' e) ∧
      ∀ app', Visits step (launch world) tr app' →
        app'.screen.trap ≠ some (.forcedUnwrap "self.userInfos[user_uid]")) ↔
    ∀ i, OnlineAppEvent.callback i .docRef true ∈ tr → ∀ userDocs uid,
      UploadsBetween world tr i userDocs uid → Covers userDocs uid := by
  constructor
  · rintro ⟨hfound, -⟩ i hmem userDocs uid hbetween
    exact covers_of_ownersFound hrun hserial hconsistent hfound hmem hbetween
  · intro hcovered
    have hfound : ∀ app' e, Takes step (launch world) tr app' e → OwnersFound app' e :=
      fun app' e ht => ownersFound_of_covers hrun hserial hconsistent hcovered ht
    refine ⟨hfound, ?_⟩
    rintro app' ⟨done, rest, rfl, hdone⟩
    exact lookup_of_run hdone fun app₁ e ht => hfound app₁ e (ht.append hdone rest)

/-! ### An owner who is new between the two snapshots -/

/-- The first refresh up to the end of its first query. -/
def firstQuery (userDocs : List QueryDocumentSnapshot) : List (OnlineAppEvent Unit) :=
  [.screen .updateList, .screen (.getDocuments 0 .userRef), .takeSnapshot 0 .userRef userDocs,
    .callback 0 .userRef true, .screen (.leave 0 .userRef)]

/-- Its second query up to the callback. -/
def secondQuery (documents : List QueryDocumentSnapshot) : List (OnlineAppEvent Unit) :=
  [.screen (.getDocuments 0 .docRef), .takeSnapshot 0 .docRef documents, .callback 0 .docRef true]

def ownerRecord : Dict String FieldValue :=
  (AList.singleton "email" (.string "user@example.com")).insert "name" (.string "User")

def guestRecord : Dict String FieldValue :=
  (AList.singleton "email" (.string "guest@example.com")).insert "name" (.string "Guest")

/-- A record of the field that an upload of the document writes. -/
def documentRecord (docInfo : DocumentInfo) : Dict String FieldValue :=
  AList.singleton docInfo.uid (.data (archivedData docInfo))

/-- The document of `uploadTrace`, and one that its owner uploads next. -/
def uploadedFirst : DocumentInfo := .init .first (some "title") none none

def uploadedSecond : DocumentInfo := .init .second none (some "2017/10/01") (some "text")

def secondUpload : List ClientEvent :=
  [.saveButtonTapped, .okTapped .second none (some "2017/10/01") (some "text")]

/-- An owner whom the first snapshot covers uploads a second document after it. -/
def knownOwnerTrace : List (OnlineAppEvent Unit) :=
  patientTrace.map .world ++ firstQuery [("user", ownerRecord)] ++
    (ofClient secondUpload).map .world ++
      secondQuery [("user", documentRecord uploadedFirst ∪ documentRecord uploadedSecond)]

/-- The owner registers and uploads between the two snapshots. -/
def newOwnerTrace : List (OnlineAppEvent Unit) :=
  firstQuery [] ++ patientTrace.map .world ++
    secondQuery [("user", documentRecord uploadedFirst)]

/-- A run whose states all give every record of documents a usable owner record. -/
lemma consistent_of_steps {tr : List (OnlineAppEvent Unit)} {app : OnlineApp Unit}
    (hrun : run step (launch World.start) tr = some app)
    (hsteps : ∀ x ∈ steps step (launch World.start) tr,
      ∀ uid ∈ x.1.world.server.documents.keys, (x.1.world.server.userInfo uid).isSome)
    (hend : ∀ uid ∈ app.world.server.documents.keys, (app.world.server.userInfo uid).isSome) :
    ∀ app', Visits step (launch World.start) tr app' → Consistent app'.world.server :=
  forall_visits_of_steps hrun (fun x hx => consistent_of_keys (hsteps x hx))
    (consistent_of_keys hend)

theorem owner_lookup_iff_knownOwnerTrace :
    ∃ app, run step (launch World.start) knownOwnerTrace = some app ∧
      app.screen.dataArray.length = 2 ∧
      (((∀ app' e, Takes step (launch World.start) knownOwnerTrace app' e → OwnersFound app' e) ∧
        ∀ app', Visits step (launch World.start) knownOwnerTrace app' →
          app'.screen.trap ≠ some (.forcedUnwrap "self.userInfos[user_uid]")) ↔
      ∀ i, OnlineAppEvent.callback i .docRef true ∈ knownOwnerTrace → ∀ userDocs uid,
        UploadsBetween World.start knownOwnerTrace i userDocs uid → Covers userDocs uid) := by
  have hend : (run step (launch World.start) knownOwnerTrace).map (fun app =>
      (app.screen.dataArray.length, decide (∀ uid ∈ app.world.server.documents.keys,
        (app.world.server.userInfo uid).isSome))) = some (2, true) := by
    decide
  obtain ⟨app, hrun, hend⟩ := Option.map_eq_some_iff.mp hend
  obtain ⟨hlength, hkeys⟩ := Prod.mk.inj hend
  have hserial : ∀ x ∈ steps step (launch World.start) knownOwnerTrace,
      StartsSerially x.1 x.2 := by
    decide
  have hsteps : ∀ x ∈ steps step (launch World.start) knownOwnerTrace,
      ∀ uid ∈ x.1.world.server.documents.keys, (x.1.world.server.userInfo uid).isSome := by
    decide
  exact ⟨app, hrun, hlength, owner_lookup_iff World.start knownOwnerTrace app hrun
    (fun app' e ht => hserial (app', e) ht)
    (consistent_of_steps hrun hsteps (of_decide_eq_true hkeys))⟩

/-- The server is consistent at every moment, one refresh is sent, and the lookup traps. -/
theorem new_owner_lookup_traps :
    ∃ app, run step (launch World.start) newOwnerTrace = some app ∧
      (∀ app' e, Takes step (launch World.start) newOwnerTrace app' e → StartsSerially app' e) ∧
      (∀ app', Visits step (launch World.start) newOwnerTrace app' →
        Consistent app'.world.server) ∧
      (¬ ∀ app' e, Takes step (launch World.start) newOwnerTrace app' e → OwnersFound app' e) ∧
        app.screen.trap = some (.forcedUnwrap "self.userInfos[user_uid]") := by
  have hend : (run step (launch World.start) newOwnerTrace).map (fun app =>
      (app.screen.trap, decide (∀ uid ∈ app.world.server.documents.keys,
        (app.world.server.userInfo uid).isSome))) =
      some (some (.forcedUnwrap "self.userInfos[user_uid]"), true) := by
    decide
  obtain ⟨app, hrun, hend⟩ := Option.map_eq_some_iff.mp hend
  obtain ⟨htrap, hkeys⟩ := Prod.mk.inj hend
  have hserial : ∀ x ∈ steps step (launch World.start) newOwnerTrace,
      StartsSerially x.1 x.2 := by
    decide
  have hsteps : ∀ x ∈ steps step (launch World.start) newOwnerTrace,
      ∀ uid ∈ x.1.world.server.documents.keys, (x.1.world.server.userInfo uid).isSome := by
    decide
  refine ⟨app, hrun, fun app' e ht => hserial (app', e) ht,
    consistent_of_steps hrun hsteps (of_decide_eq_true hkeys), ?_, htrap⟩
  intro hfound
  exact lookup_of_run hrun hfound htrap

end Procon
