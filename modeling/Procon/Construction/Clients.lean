import Procon.Construction.Firebase

/-!
# The clients of one server

A client is one installation of the app: its Firebase session, its `AuthenticationVC`, its
`DocumentSaveSceneVC`, and the requests it has under way.

A Firebase request takes effect twice.  When it succeeds, the SDK changes the account and the
session on a queue of its own; the app's callback runs later, and only when the
`AuthenticationVC` that made the request is still presented, since the callback holds it weakly.
A `Request` records the stage that a request has reached.  Sign-up is a chain of three requests,
each made by the callback of the one before.

A `World` is a family of clients with the server they share.  An event is an event of one client,
or an account becoming verified.
-/

namespace Procon

/-! ## The state of a client -/

/-- A user object that a callback has captured. -/
structure UserRef where
  object : ℕ
  uid : String
  deriving DecidableEq, Repr

/-- How far a request is: sent, or successful with its callback to come. -/
inductive Stage
  | createUser (name email : String)
  | createdUser (user : UserRef) (name : String)
  | commitChanges (user : UserRef) (name : String)
  | committedChanges (user : UserRef)
  | sendEmailVerification (user : UserRef)
  | sentEmailVerification
  | signIn
  | signedIn
  deriving DecidableEq, Repr

/-- The request has succeeded. -/
def Stage.succeeded : Stage → Bool
  | .createdUser .. | .committedChanges .. | .sentEmailVerification | .signedIn => true
  | .createUser .. | .commitChanges .. | .sendEmailVerification .. | .signIn => false

/-- A request, with the `AuthenticationVC` that its callback holds weakly. -/
structure Request where
  scene : ℕ
  stage : Stage
  deriving DecidableEq, Repr

/-- The alert that `DocumentSaveSceneVC` presents: a notice, or the question before a save. -/
inductive Alert
  | notice (message : String)
  | confirm (message : String)
  deriving DecidableEq, Repr

structure Client where
  currentUser : Option User
  /-- How many user objects the SDK has made. -/
  objects : ℕ
  /-- The `AuthenticationVC` that is presented. -/
  authScene : Option ℕ
  /-- How many times an `AuthenticationVC` has been presented. -/
  scenes : ℕ
  request : ℕ → Option Request
  /-- How many requests have been made. -/
  requests : ℕ
  switchSavingLocal : Bool
  switchSavingOnline : Bool
  alert : Option Alert

namespace Client

/-- A fresh installation. -/
def install : Client where
  currentUser := none
  objects := 0
  authScene := none
  scenes := 0
  request := fun _ => none
  requests := 0
  switchSavingLocal := false
  switchSavingOnline := false
  alert := none

def setRequest (client : Client) (i : ℕ) (request : Option Request) : Client :=
  { client with request := Function.update client.request i request }

/-- Make a new request from the `AuthenticationVC` that is presented. -/
def send (client : Client) (stage : Stage) : Option Client :=
  client.authScene.map fun scene =>
    { client.setRequest client.requests (some ⟨scene, stage⟩) with
      requests := client.requests + 1 }

/-- The SDK makes a user object and signs it in. -/
def setCurrentUser (client : Client) (uid : String) (account : Account) : Client :=
  { client with
    currentUser := some (account.user client.objects uid)
    objects := client.objects + 1 }

end Client

/-! ## AuthenticationVC -/

namespace AuthenticationVC

def saveLoginUserInfo2Database (client : Client) (server : Server) : Server :=
  match client.currentUser with
  | some user => server.setUserInfo user
  | none => server

/-- The callback of a request that has succeeded, where the scene is still presented. -/
def callback (server : Server) (client : Client) (i : ℕ) (request : Request) : Server × Client :=
  match request.stage with
  | .createdUser user name =>
      (server, client.setRequest i (some ⟨request.scene, .commitChanges user name⟩))
  | .committedChanges user =>
      (server, client.setRequest i (some ⟨request.scene, .sendEmailVerification user⟩))
  | .sentEmailVerification =>
      (saveLoginUserInfo2Database client server, client.setRequest i none)
  | .signedIn => (saveLoginUserInfo2Database client server, client.setRequest i none)
  | _ => (server, client)

end AuthenticationVC

/-! ## DocumentSaveSceneVC -/

namespace DocumentSaveSceneVC

/-- The message of the question before a save. -/
def message (switchSavingLocal switchSavingOnline : Bool) : String :=
  "本当にデータを保存していいですか？" ++
    (if switchSavingLocal then "\nローカル:○" else "\nローカル:×") ++
    (if switchSavingOnline then "\nオンライン:○" else "\nオンライン:×")

def saveButtonTapped (client : Client) : Alert :=
  if !client.switchSavingLocal && !client.switchSavingOnline then
    .notice "ローカルに保存、もしくはオンライン共有、最低一つ以上選択して下さい"
  else if client.switchSavingOnline then
    match client.currentUser with
    | none => .notice "データをオンライン共有するには、ログインしてください"
    | some user =>
        if !user.isEmailVerified then
          .notice ("データをオンラインにアップロードするには、" ++
            "お使いのユーザーアカウントのメール認証をしてください")
        else .confirm (message client.switchSavingLocal client.switchSavingOnline)
  else .confirm (message client.switchSavingLocal client.switchSavingOnline)

def saveData2Online (docInfo : DocumentInfo) (server : Server) (client : Client) :
    Server × Client :=
  match client.currentUser with
  | none =>
      (server, { client with
        alert := some (.notice "データをオンライン共有するには、ログインしてください") })
  | some user => (server.mergeDocument user.uid docInfo, client)

/-- The handler of the OK button, as far as it concerns the server: the online half. -/
def okAction (docInfo : DocumentInfo) (server : Server) (client : Client) : Server × Client :=
  if client.switchSavingOnline then saveData2Online docInfo server client else (server, client)

end DocumentSaveSceneVC

/-! ## The events of a client -/

inductive ClientEvent
  | moveAuthScene
  | dismissAuthScene
  | singUp (name email : String)
  | signIn
  | signOut
  | createUserSucceeds (i : ℕ) (uid : String) (displayName : Option String)
  | commitChangesSucceeds (i : ℕ) (stored : Option String)
  | sendEmailVerificationSucceeds (i : ℕ)
  | signInSucceeds (i : ℕ) (uid : String)
  | requestFails (i : ℕ)
  | callback (i : ℕ)
  | restart
  | switchSavingLocal (isOn : Bool)
  | switchSavingOnline (isOn : Bool)
  | saveButtonTapped
  | okTapped (uuid : NSUUID) (header date context : Option String)
  | cancelTapped

namespace Client

open DocumentSaveSceneVC (saveButtonTapped okAction)

/-- The profile of the account is written, and the object that asked for it is refreshed. -/
def commitChanges (client : Client) (ref : UserRef) (name : String) (account : Account) : Client :=
  { client with
    currentUser := client.currentUser.map fun user =>
      if user.object = ref.object then
        { account.user user.object user.uid with displayName := some name }
      else user }

/-- One event of a client.

An account is created without a name, or with an empty one, and a server that is given an empty
name may store none.  A restart keeps the session and drops the requests. -/
def step (server : Server) (client : Client) : ClientEvent → Option (Server × Client)
  | .moveAuthScene =>
      if client.authScene = none then
        some (server, { client with
          authScene := some client.scenes, scenes := client.scenes + 1 })
      else none
  | .dismissAuthScene => some (server, { client with authScene := none })
  | .singUp name email => (client.send (.createUser name email)).map (server, ·)
  | .signIn => (client.send .signIn).map (server, ·)
  | .signOut => some (server, { client with currentUser := none })
  | .createUserSucceeds i uid displayName =>
      match client.request i with
      | some ⟨scene, .createUser name email⟩ =>
          if server.accounts uid = none ∧ (displayName = none ∨ displayName = some "") then
            let account : Account := ⟨displayName, some email, false, false⟩
            some (server.setAccount uid account, (client.setCurrentUser uid account).setRequest i
              (some ⟨scene, .createdUser ⟨client.objects, uid⟩ name⟩))
          else none
      | _ => none
  | .commitChangesSucceeds i stored =>
      match client.request i with
      | some ⟨scene, .commitChanges user name⟩ =>
          match server.accounts user.uid with
          | some account =>
              if stored = some name ∨ (name = "" ∧ stored = none) then
                let account := { account with displayName := stored }
                some (server.setAccount user.uid account, (client.commitChanges user name
                  account).setRequest i (some ⟨scene, .committedChanges user⟩))
              else none
          | none => none
      | _ => none
  | .sendEmailVerificationSucceeds i =>
      match client.request i with
      | some ⟨scene, .sendEmailVerification user⟩ =>
          match server.accounts user.uid with
          | some account =>
              some (server.setAccount user.uid { account with mailSent := true },
                client.setRequest i (some ⟨scene, .sentEmailVerification⟩))
          | none => none
      | _ => none
  | .signInSucceeds i uid =>
      match client.request i, server.accounts uid with
      | some ⟨scene, .signIn⟩, some account =>
          some (server, (client.setCurrentUser uid account).setRequest i
            (some ⟨scene, .signedIn⟩))
      | _, _ => none
  | .requestFails i =>
      match client.request i with
      | some request =>
          if request.stage.succeeded then none else some (server, client.setRequest i none)
      | none => none
  | .callback i =>
      match client.request i with
      | some request =>
          if request.stage.succeeded then
            if client.authScene = some request.scene then
              some (AuthenticationVC.callback server client i request)
            else some (server, client.setRequest i none)
          else none
      | none => none
  | .restart =>
      some (server, { client with
        authScene := none, request := fun _ => none, alert := none })
  | .switchSavingLocal isOn => some (server, { client with switchSavingLocal := isOn })
  | .switchSavingOnline isOn => some (server, { client with switchSavingOnline := isOn })
  | .saveButtonTapped =>
      if client.alert = none then
        some (server, { client with alert := some (saveButtonTapped client) })
      else none
  | .okTapped uuid header date context =>
      match client.alert with
      | some (.confirm _) =>
          some (okAction (.init uuid header date context) server { client with alert := none })
      | _ => none
  | .cancelTapped => some (server, { client with alert := none })

end Client

/-! ## What an event can do -/

/-- The user whose account a request of a sign-up is still about. -/
def Stage.ref? : Stage → Option UserRef
  | .createdUser user _ | .commitChanges user _ | .committedChanges user
  | .sendEmailVerification user => some user
  | .createUser .. | .sentEmailVerification | .signIn | .signedIn => none

/-- The profile of the account has not been written yet. -/
def Stage.unnamed : Stage → Bool
  | .createdUser .. | .commitChanges .. => true
  | _ => false

/-- The request that the callback of a sign-up makes next. -/
def Stage.next? : Stage → Option Stage
  | .createdUser user name => some (.commitChanges user name)
  | .committedChanges user => some (.sendEmailVerification user)
  | _ => none

/-- The events at which the server changes an account. -/
def ClientEvent.changesAccount : ClientEvent → Bool
  | .createUserSucceeds .. | .commitChangesSucceeds .. | .sendEmailVerificationSucceeds .. => true
  | _ => false

/-- The stage of the request that an event makes. -/
def ClientEvent.firstStage? : ClientEvent → Option Stage
  | .singUp name email => some (.createUser name email)
  | .signIn => some .signIn
  | _ => none

lemma ClientEvent.ref?_of_firstStage? {e : ClientEvent} {stage : Stage}
    (h : e.firstStage? = some stage) : stage.ref? = none := by
  cases e with
  | singUp name email =>
      obtain rfl := Option.some.inj h
      rfl
  | signIn =>
      obtain rfl := Option.some.inj h
      rfl
  | _ => cases h

namespace Client

/-- The accounts and records stay, the session ends at most, and no sign-up goes on. -/
structure Keeps (server : Server) (client : Client) (e : ClientEvent) (server' : Server)
    (client' : Client) : Prop where
  accounts : server'.accounts = server.accounts
  userInfos : server'.userInfos = server.userInfos
  currentUser : ∀ user, client'.currentUser = some user → client.currentUser = some user
  objects : client'.objects = client.objects
  request : ∀ i request, client'.request i = some request →
    client.request i = some request ∨ i = client.requests ∧ e.firstStage? = some request.stage

/-- The outcomes of an event of a client. -/
inductive Outcome (server : Server) (client : Client) : ClientEvent → Server → Client → Prop
  | created (i scene : ℕ) (name email uid : String) (displayName : Option String)
      (hrequest : client.request i = some ⟨scene, .createUser name email⟩)
      (hnone : server.accounts uid = none) (hblank : displayName = none ∨ displayName = some "") :
      Outcome server client (.createUserSucceeds i uid displayName)
        (server.setAccount uid ⟨displayName, some email, false, false⟩)
        ((client.setCurrentUser uid ⟨displayName, some email, false, false⟩).setRequest i
          (some ⟨scene, .createdUser ⟨client.objects, uid⟩ name⟩))
  | committed (i scene : ℕ) (user : UserRef) (name : String) (account : Account)
      (stored : Option String)
      (hrequest : client.request i = some ⟨scene, .commitChanges user name⟩)
      (haccount : server.accounts user.uid = some account)
      (hstored : stored = some name ∨ (name = "" ∧ stored = none)) :
      Outcome server client (.commitChangesSucceeds i stored)
        (server.setAccount user.uid { account with displayName := stored })
        ((client.commitChanges user name { account with displayName := stored }).setRequest i
          (some ⟨scene, .committedChanges user⟩))
  | mailed (i scene : ℕ) (user : UserRef) (account : Account)
      (hrequest : client.request i = some ⟨scene, .sendEmailVerification user⟩)
      (haccount : server.accounts user.uid = some account) :
      Outcome server client (.sendEmailVerificationSucceeds i)
        (server.setAccount user.uid { account with mailSent := true })
        (client.setRequest i (some ⟨scene, .sentEmailVerification⟩))
  | signedIn (i scene : ℕ) (uid : String) (account : Account)
      (hrequest : client.request i = some ⟨scene, .signIn⟩)
      (haccount : server.accounts uid = some account) :
      Outcome server client (.signInSucceeds i uid) server
        ((client.setCurrentUser uid account).setRequest i (some ⟨scene, .signedIn⟩))
  | moved (i : ℕ) (request : Request) (stage : Stage)
      (hrequest : client.request i = some request) (hnext : request.stage.next? = some stage) :
      Outcome server client (.callback i) server
        (client.setRequest i (some ⟨request.scene, stage⟩))
  | saved (i : ℕ) (request : Request) (user : User) (hrequest : client.request i = some request)
      (hstage : request.stage = .sentEmailVerification ∨ request.stage = .signedIn)
      (huser : client.currentUser = some user) :
      Outcome server client (.callback i) (server.setUserInfo user) (client.setRequest i none)
  | quiet (e : ClientEvent) (server' : Server) (client' : Client)
      (he : e.changesAccount = false) (hkeeps : Keeps server client e server' client') :
      Outcome server client e server' client'

section Outcome

variable {server server' : Server} {client client' : Client} {e : ClientEvent}

lemma keeps_of_eq (haccounts : server'.accounts = server.accounts)
    (huserInfos : server'.userInfos = server.userInfos)
    (huser : client'.currentUser = client.currentUser) (hobjects : client'.objects = client.objects)
    (hrequest : client'.request = client.request) : Keeps server client e server' client' where
  accounts := haccounts
  userInfos := huserInfos
  currentUser _ h := huser ▸ h
  objects := hobjects
  request _ _ h := Or.inl (hrequest ▸ h)

/-- What is kept says nothing of an account that a sign-up is about. -/
lemma Keeps.request_or (h : Keeps server client e server' client') {i : ℕ} {request : Request}
    (hrequest : client'.request i = some request) :
    client.request i = some request ∨ request.stage.ref? = none :=
  (h.request i request hrequest).imp_right fun hnew => ClientEvent.ref?_of_firstStage? hnew.2

lemma keeps_setRequest_none (i : ℕ) :
    Keeps server client e server (client.setRequest i none) where
  accounts := rfl
  userInfos := rfl
  currentUser _ h := h
  objects := rfl
  request j request h := by
    unfold setRequest at h
    by_cases hj : j = i
    · subst hj
      simp at h
    · simp only [Function.update_of_ne hj] at h
      exact Or.inl h

lemma keeps_send {stage : Stage} (h : client.send stage = some client')
    (hstage : e.firstStage? = some stage) : Keeps server client e server client' := by
  obtain ⟨scene, -, rfl⟩ := Option.map_eq_some_iff.mp h
  refine ⟨rfl, rfl, fun _ huser => huser, rfl, fun j request hrequest => ?_⟩
  unfold setRequest at hrequest
  by_cases hj : j = client.requests
  · subst hj
    simp only [Function.update_self, Option.some.injEq] at hrequest
    rw [← hrequest]
    exact Or.inr ⟨rfl, hstage⟩
  · simp only [Function.update_of_ne hj] at hrequest
    exact Or.inl hrequest

lemma outcome_of_save {i : ℕ} {request : Request} (hrequest : client.request i = some request)
    (hstage : request.stage = .sentEmailVerification ∨ request.stage = .signedIn) :
    Outcome server client (.callback i) (AuthenticationVC.saveLoginUserInfo2Database client server)
      (client.setRequest i none) := by
  unfold AuthenticationVC.saveLoginUserInfo2Database
  cases huser : client.currentUser with
  | none => exact .quiet _ _ _ rfl (keeps_setRequest_none i)
  | some user => exact .saved i request user hrequest hstage huser

lemma outcome_of_callback {i : ℕ} (h : step server client (.callback i) = some (server', client')) :
    Outcome server client (.callback i) server' client' := by
  simp only [step] at h
  split at h
  · rename_i request hrequest
    obtain ⟨hsucceeded, heq⟩ := Option.ite_none_right_eq_some.mp h
    split at heq
    · obtain ⟨scene, stage⟩ := request
      cases stage with
      | createdUser user name =>
          cases heq
          exact .moved i _ _ hrequest rfl
      | committedChanges user =>
          cases heq
          exact .moved i _ _ hrequest rfl
      | sentEmailVerification =>
          cases heq
          exact outcome_of_save hrequest (Or.inl rfl)
      | signedIn =>
          cases heq
          exact outcome_of_save hrequest (Or.inr rfl)
      | _ => cases hsucceeded
    · cases heq
      exact .quiet _ _ _ rfl (keeps_setRequest_none i)
  · cases h

lemma keeps_okAction {docInfo : DocumentInfo} {alert : Option Alert} :
    let next := DocumentSaveSceneVC.okAction docInfo server { client with alert := alert }
    Keeps server client e next.1 next.2 := by
  intro next
  show Keeps server client e (DocumentSaveSceneVC.okAction docInfo server _).1
    (DocumentSaveSceneVC.okAction docInfo server _).2
  unfold DocumentSaveSceneVC.okAction DocumentSaveSceneVC.saveData2Online
  split
  · dsimp only
    split
    · exact keeps_of_eq rfl rfl rfl rfl rfl
    · exact keeps_of_eq rfl rfl rfl rfl rfl
  · exact keeps_of_eq rfl rfl rfl rfl rfl

/-- **All that an event of a client can do** to accounts, records, sessions and sign-ups. -/
lemma outcome_of_step (h : step server client e = some (server', client')) :
    Outcome server client e server' client' := by
  cases e with
  | createUserSucceeds i uid displayName =>
      simp only [step] at h
      split at h
      · rename_i scene name email hrequest
        obtain ⟨⟨hnone, hblank⟩, heq⟩ := Option.ite_none_right_eq_some.mp h
        cases heq
        exact .created i scene name email uid displayName hrequest hnone hblank
      · cases h
  | commitChangesSucceeds i stored =>
      simp only [step] at h
      split at h
      · rename_i scene user name hrequest
        split at h
        · rename_i account haccount
          obtain ⟨hstored, heq⟩ := Option.ite_none_right_eq_some.mp h
          cases heq
          exact .committed i scene user name account stored hrequest haccount hstored
        · cases h
      · cases h
  | sendEmailVerificationSucceeds i =>
      simp only [step] at h
      split at h
      · rename_i scene user hrequest
        split at h
        · rename_i account haccount
          cases h
          exact .mailed i scene user account hrequest haccount
        · cases h
      · cases h
  | signInSucceeds i uid =>
      simp only [step] at h
      split at h
      · rename_i scene account hrequest haccount
        cases h
        exact .signedIn i scene uid account hrequest haccount
      · cases h
  | callback i => exact outcome_of_callback h
  | singUp name email =>
      obtain ⟨next, hsend, heq⟩ := Option.map_eq_some_iff.mp h
      cases heq
      exact .quiet _ _ _ rfl (keeps_send hsend rfl)
  | signIn =>
      obtain ⟨next, hsend, heq⟩ := Option.map_eq_some_iff.mp h
      cases heq
      exact .quiet _ _ _ rfl (keeps_send hsend rfl)
  | requestFails i =>
      simp only [step] at h
      split at h
      · obtain ⟨-, heq⟩ := Option.ite_none_left_eq_some.mp h
        cases heq
        exact .quiet _ _ _ rfl (keeps_setRequest_none i)
      · cases h
  | okTapped uuid header date context =>
      simp only [step] at h
      split at h
      · have heq := Option.some.inj h
        refine .quiet _ _ _ rfl ?_
        rw [show server' = _ from congrArg Prod.fst heq.symm,
          show client' = _ from congrArg Prod.snd heq.symm]
        exact keeps_okAction
      · cases h
  | moveAuthScene =>
      obtain ⟨-, heq⟩ := Option.ite_none_right_eq_some.mp h
      cases heq
      exact .quiet _ _ _ rfl (keeps_of_eq rfl rfl rfl rfl rfl)
  | saveButtonTapped =>
      obtain ⟨-, heq⟩ := Option.ite_none_right_eq_some.mp h
      cases heq
      exact .quiet _ _ _ rfl (keeps_of_eq rfl rfl rfl rfl rfl)
  | signOut =>
      cases h
      exact .quiet _ _ _ rfl ⟨rfl, rfl, nofun, rfl, fun _ _ h => Or.inl h⟩
  | restart =>
      cases h
      exact .quiet _ _ _ rfl ⟨rfl, rfl, fun _ h => h, rfl, nofun⟩
  | dismissAuthScene =>
      cases h
      exact .quiet _ _ _ rfl (keeps_of_eq rfl rfl rfl rfl rfl)
  | switchSavingLocal isOn =>
      cases h
      exact .quiet _ _ _ rfl (keeps_of_eq rfl rfl rfl rfl rfl)
  | switchSavingOnline isOn =>
      cases h
      exact .quiet _ _ _ rfl (keeps_of_eq rfl rfl rfl rfl rfl)
  | cancelTapped =>
      cases h
      exact .quiet _ _ _ rfl (keeps_of_eq rfl rfl rfl rfl rfl)

end Outcome

end Client

/-! ## What an event writes -/

namespace Client

/-- The user whose record an event writes. -/
def savesUserInfo (client : Client) : ClientEvent → Option User
  | .callback i =>
      match client.request i with
      | some ⟨scene, .sentEmailVerification⟩ | some ⟨scene, .signedIn⟩ =>
          if client.authScene = some scene then client.currentUser else none
      | _ => none
  | _ => none

/-- The document an event uploads, with its owner. -/
def uploads (client : Client) : ClientEvent → Option (User × DocumentInfo)
  | .okTapped uuid header date context =>
      if client.switchSavingOnline then
        client.currentUser.map fun user => (user, .init uuid header date context)
      else none
  | _ => none

variable {server server' : Server} {client client' : Client} {e : ClientEvent}

/-- An upload is made by an OK with the online switch on, for the current user. -/
lemma of_uploads_eq_some {user : User} {docInfo : DocumentInfo}
    (h : client.uploads e = some (user, docInfo)) :
    (∃ uuid header date context, e = .okTapped uuid header date context ∧
      docInfo = .init uuid header date context) ∧
    client.switchSavingOnline = true ∧ client.currentUser = some user := by
  cases e with
  | okTapped uuid header date context =>
      obtain ⟨honline, hmap⟩ := Option.ite_none_right_eq_some.mp h
      obtain ⟨user', huser, heq⟩ := Option.map_eq_some_iff.mp hmap
      cases heq
      exact ⟨⟨uuid, header, date, context, rfl, rfl⟩, honline, huser⟩
  | _ => cases h

/-- The collections are what the writes of an event make of them. -/
def WritesOnly (server : Server) (client : Client) (e : ClientEvent) (server' : Server) : Prop :=
  server'.userInfos =
      (match client.savesUserInfo e with
      | some user => server.setUserInfo user
      | none => server).userInfos ∧
    server'.documents =
      (match client.uploads e with
      | some (user, docInfo) => server.mergeDocument user.uid docInfo
      | none => server).documents

/-- The callback of a request writes the record, if it does so at all. -/
lemma writesOnly_of_callback {i : ℕ}
    (h : step server client (.callback i) = some (server', client')) :
    WritesOnly server client (.callback i) server' := by
  simp only [step] at h
  split at h
  · rename_i request hrequest
    obtain ⟨hsucceeded, heq⟩ := Option.ite_none_right_eq_some.mp h
    obtain ⟨scene, stage⟩ := request
    by_cases hscene : client.authScene = some scene
    · rw [if_pos hscene] at heq
      cases stage <;> cases heq <;>
        simp [WritesOnly, savesUserInfo, uploads, hrequest, hscene,
          AuthenticationVC.saveLoginUserInfo2Database] <;>
        cases client.currentUser <;> rfl
    · rw [if_neg hscene] at heq
      cases heq
      cases stage <;> simp [WritesOnly, savesUserInfo, uploads, hrequest, hscene]
  · cases h

/-- An OK uploads with the online switch on and a current user. -/
lemma writesOnly_of_okTapped {uuid : NSUUID} {header date context : Option String}
    (h : step server client (.okTapped uuid header date context) = some (server', client')) :
    WritesOnly server client (.okTapped uuid header date context) server' := by
  simp only [step] at h
  split at h
  · simp only [DocumentSaveSceneVC.okAction, Option.some.injEq] at h
    by_cases honline : client.switchSavingOnline
    · rw [if_pos honline] at h
      cases huser : client.currentUser with
      | none =>
          simp only [DocumentSaveSceneVC.saveData2Online, huser] at h
          cases h
          simp [WritesOnly, savesUserInfo, uploads, huser]
      | some user =>
          simp only [DocumentSaveSceneVC.saveData2Online, huser] at h
          cases h
          simp [WritesOnly, savesUserInfo, uploads, honline, huser, Server.mergeDocument]
    · rw [if_neg honline] at h
      cases h
      simp [WritesOnly, savesUserInfo, uploads, honline]
  · cases h

/-- The collections change by the writes of `savesUserInfo` and `uploads` only. -/
lemma collections_of_step (h : step server client e = some (server', client')) :
    WritesOnly server client e server' := by
  cases e with
  | moveAuthScene =>
      obtain ⟨-, heq⟩ := Option.ite_none_right_eq_some.mp h
      cases heq
      exact ⟨rfl, rfl⟩
  | dismissAuthScene =>
      cases h
      exact ⟨rfl, rfl⟩
  | singUp name email =>
      obtain ⟨next, -, heq⟩ := Option.map_eq_some_iff.mp h
      cases heq
      exact ⟨rfl, rfl⟩
  | signIn =>
      obtain ⟨next, -, heq⟩ := Option.map_eq_some_iff.mp h
      cases heq
      exact ⟨rfl, rfl⟩
  | signOut => cases h; exact ⟨rfl, rfl⟩
  | createUserSucceeds i uid displayName =>
      simp only [step] at h
      split at h
      · obtain ⟨-, heq⟩ := Option.ite_none_right_eq_some.mp h
        cases heq
        exact ⟨rfl, rfl⟩
      · cases h
  | commitChangesSucceeds i stored =>
      simp only [step] at h
      split at h
      · split at h
        · obtain ⟨-, heq⟩ := Option.ite_none_right_eq_some.mp h
          cases heq
          exact ⟨rfl, rfl⟩
        · cases h
      · cases h
  | sendEmailVerificationSucceeds i =>
      simp only [step] at h
      split at h
      · split at h
        · cases h
          exact ⟨rfl, rfl⟩
        · cases h
      · cases h
  | signInSucceeds i uid =>
      simp only [step] at h
      split at h
      · cases h
        exact ⟨rfl, rfl⟩
      · cases h
  | requestFails i =>
      simp only [step] at h
      split at h
      · obtain ⟨-, heq⟩ := Option.ite_none_left_eq_some.mp h
        cases heq
        exact ⟨rfl, rfl⟩
      · cases h
  | callback i => exact writesOnly_of_callback h
  | restart => cases h; exact ⟨rfl, rfl⟩
  | switchSavingLocal isOn => cases h; exact ⟨rfl, rfl⟩
  | switchSavingOnline isOn => cases h; exact ⟨rfl, rfl⟩
  | saveButtonTapped =>
      obtain ⟨-, heq⟩ := Option.ite_none_right_eq_some.mp h
      cases heq
      exact ⟨rfl, rfl⟩
  | okTapped uuid header date context => exact writesOnly_of_okTapped h
  | cancelTapped => cases h; exact ⟨rfl, rfl⟩

end Client

/-! ## The world -/

/-- Any number of clients and their server. -/
structure World (ι : Type*) where
  server : Server
  client : ι → Client

inductive WorldEvent (ι : Type*)
  | client (c : ι) (e : ClientEvent)
  | verify (uid : String)

namespace World

variable {ι : Type*} [DecidableEq ι]

/-- Fresh installations and an empty server. -/
def start : World ι := ⟨.empty, fun _ => .install⟩

/-- One event.  An account may be verified once its mail has been sent. -/
def step (world : World ι) : WorldEvent ι → Option (World ι)
  | .client c e =>
      (Client.step world.server (world.client c) e).map fun next =>
        ⟨next.1, Function.update world.client c next.2⟩
  | .verify uid =>
      match world.server.accounts uid with
      | some account =>
          if account.mailSent then
            some { world with
              server := world.server.setAccount uid { account with isEmailVerified := true } }
          else none
      | none => none

/-- The user whose record an event writes. -/
def savesUserInfo (world : World ι) : WorldEvent ι → Option User
  | .client c e => (world.client c).savesUserInfo e
  | .verify _ => none

/-- The document an event uploads, with its owner. -/
def uploads (world : World ι) : WorldEvent ι → Option (User × DocumentInfo)
  | .client c e => (world.client c).uploads e
  | .verify _ => none

variable {world world' : World ι} {e : WorldEvent ι} {uid : String}

omit [DecidableEq ι] in
lemma savesUserInfo_of_uploads {upload : User × DocumentInfo} (h : world.uploads e = some upload) :
    world.savesUserInfo e = none := by
  cases e with
  | client c e => cases e <;> first | rfl | cases h
  | verify => cases h

lemma collections_of_step (h : step world e = some world') :
    world'.server.userInfos =
      (match world.savesUserInfo e with
      | some user => world.server.setUserInfo user
      | none => world.server).userInfos ∧
    world'.server.documents =
      (match world.uploads e with
      | some (user, docInfo) => world.server.mergeDocument user.uid docInfo
      | none => world.server).documents := by
  cases e with
  | client c e =>
      obtain ⟨⟨server, client⟩, hstep, rfl⟩ := Option.map_eq_some_iff.mp h
      exact Client.collections_of_step hstep
  | verify uid =>
      simp only [step] at h
      split at h
      · obtain ⟨-, heq⟩ := Option.ite_none_right_eq_some.mp h
        cases heq
        exact ⟨rfl, rfl⟩
      · cases h

/-- What the online list reads for a user changes when the user's record is written only. -/
lemma userInfo_of_step (h : step world e = some world') :
    world'.server.userInfo uid =
      match world.savesUserInfo e with
      | some user =>
          if uid = user.uid then userInfoOf (Server.userRecord user)
          else world.server.userInfo uid
      | none => world.server.userInfo uid := by
  have huserInfos := (collections_of_step h).1
  cases hsave : world.savesUserInfo e with
  | none =>
      rw [hsave] at huserInfos
      exact congrArg (fun userInfos => (userInfos.lookup uid).bind userInfoOf) huserInfos
  | some user =>
      rw [hsave] at huserInfos
      have hsame : world'.server.userInfo uid = (world.server.setUserInfo user).userInfo uid :=
        congrArg (fun userInfos => (userInfos.lookup uid).bind userInfoOf) huserInfos
      rw [hsame]
      by_cases huid : uid = user.uid
      · subst huid
        simp [Server.userInfo_setUserInfo_self]
      · simp [Server.userInfo_setUserInfo_of_ne, huid]

lemma uploaded_of_step (h : step world e = some world') :
    world'.server.Uploaded uid ↔
      world.server.Uploaded uid ∨ ∃ user docInfo, world.uploads e = some (user, docInfo) ∧
        user.uid = uid := by
  have hdocuments := (collections_of_step h).2
  cases hupload : world.uploads e with
  | none =>
      rw [hupload] at hdocuments
      simp [Server.Uploaded, hdocuments]
  | some upload =>
      obtain ⟨user, docInfo⟩ := upload
      rw [hupload] at hdocuments
      have hsame : world'.server.Uploaded uid ↔
          (world.server.mergeDocument user.uid docInfo).Uploaded uid := by
        simp [Server.Uploaded, hdocuments]
      rw [hsame, Server.uploaded_mergeDocument]
      simp [eq_comm]

end World

end Procon
