import Procon.Construction.Clients

/-!
# The account screen

`AuthenticationVC` shows who is signed in, and tells the user how requests have ended.  Its four
labels are written by `updateUserInfomation`, which runs when the scene is loaded, at a sign-out
and at the end of a successful sign-in, but not after a sign-up.  Its alerts are presented by the
callbacks, where the scene that made the request is still there: a notice after the last request
of a sign-up and after a sign-in, and a message for every error.

The SDK ends a session by itself when the server refuses its token, because the user is disabled or
deleted or the token is no longer valid, and the labels are not told.

`AuthScreens` are the clients of a `World` with the labels of their scenes.  What a step presents
is `presented?`; whether UIKit shows an alert while another one is up is left open.
-/

namespace Procon

/-- The texts of the four labels. -/
structure UserLabels where
  currentUserState : Option String
  currentUserName : Option String
  currentUserEmail : Option String
  currentUserVerified : Option String
  deriving DecidableEq, Repr

/-- The error codes that are told apart. -/
inductive AuthErrorCode
  | networkError
  | userNotFound
  | invalidEmail
  | emailAlreadyInUse
  | wrongPassword
  | userDisabled
  | weakPassword
  | other
  deriving DecidableEq, Repr

namespace AuthenticationVC

def updateUserInfomation (currentUser : Option User) : UserLabels :=
  match currentUser with
  | some user =>
      { currentUserState := some "ログイン中"
        currentUserName := user.displayName
        currentUserEmail := user.email
        currentUserVerified := some (if user.isEmailVerified then "承認済み" else "未承認") }
  | none =>
      { currentUserState := some "ログインしていません"
        currentUserName := some ""
        currentUserEmail := some ""
        currentUserVerified := some "" }

/-- The message of an error; its code may be none of the enumeration. -/
def getErrorMessage (errorCode : Option AuthErrorCode) : String :=
  match errorCode with
  | none => "エラーが発生しました"
  | some .networkError => "ネットワークに接続できません"
  | some .userNotFound => "ユーザが見つかりません"
  | some .invalidEmail => "不正なメールアドレスです"
  | some .emailAlreadyInUse => "このメールアドレスは既に使われています"
  | some .wrongPassword => "入力した認証情報でサインインできません"
  | some .userDisabled => "このアカウントは無効です"
  | some .weakPassword => "パスワードが脆弱すぎます"
  | some .other => "特定外のエラー"

/-- The notice at the end of a sign-up. -/
def registeredMessage : String :=
  "ユーザー登録完了しました\n登録されたメールアドレスに承認メッセージを送りました。\n" ++
    "承認しないと、ドキュメントの登録はできません"

/-- The notice at the end of a sign-in. -/
def signedInMessage : String := "ログインしました"

/-- The alert that the callback of a request presents when it ends well. -/
def notice? : Stage → Option String
  | .sentEmailVerification => some registeredMessage
  | .signedIn => some signedInMessage
  | _ => none

/-- `updateUserInfomation` runs at an event. -/
def updates (client : Client) : ClientEvent → Bool
  | .moveAuthScene => true
  | .signOut => client.authScene.isSome
  | .callback i =>
      match client.request i with
      | some request => request.stage = .signedIn ∧ client.authScene = some request.scene
      | none => false
  | _ => false

/-- The alert that is presented when a request fails or its callback runs. -/
def presented? (client : Client) (error : Option AuthErrorCode) : ClientEvent → Option String
  | .requestFails i =>
      match client.request i with
      | some request =>
          if client.authScene = some request.scene then some (getErrorMessage error) else none
      | none => none
  | .callback i =>
      match client.request i with
      | some request =>
          if client.authScene = some request.scene then notice? request.stage else none
      | none => none
  | _ => none

section Presented

variable {client : Client} {error : Option AuthErrorCode} {i : ℕ} {request : Request}

lemma presented?_requestFails (h : client.request i = some request) :
    presented? client error (.requestFails i) =
      if client.authScene = some request.scene then some (getErrorMessage error) else none := by
  simp only [presented?, h]

lemma presented?_callback (h : client.request i = some request) :
    presented? client error (.callback i) =
      if client.authScene = some request.scene then notice? request.stage else none := by
  simp only [presented?, h]

lemma presented?_of_request_eq_none (h : client.request i = none) :
    presented? client error (.requestFails i) = none ∧
      presented? client error (.callback i) = none := by
  simp only [presented?, h, and_self]

end Presented

end AuthenticationVC

/-! ## The screens of the clients -/

structure AuthScreens (ι : Type*) where
  world : World ι
  /-- The labels of the scene that was presented last. -/
  labels : ι → UserLabels

inductive AuthScreensEvent (ι : Type*)
  /-- An event of a client, with the error where a request fails. -/
  | client (c : ι) (e : ClientEvent) (error : Option AuthErrorCode)
  /-- `signOutByForceWithUserID:error:` of the SDK, for the user of a client. -/
  | signOutByForce (c : ι)
  | verify (uid : String)

/-- What the clients and the server see of an event.  To them a session ends in one way. -/
def AuthScreensEvent.worldEvent {ι : Type*} : AuthScreensEvent ι → WorldEvent ι
  | .client c e _ => .client c e
  | .signOutByForce c => .client c .signOut
  | .verify uid => .verify uid

/-- The event of a client. -/
def AuthScreensEvent.of? {ι : Type*} [DecidableEq ι] (c : ι) :
    AuthScreensEvent ι → Option (ClientEvent × Option AuthErrorCode)
  | .client c' e error => if c' = c then some (e, error) else none
  | .signOutByForce c' => if c' = c then some (.signOut, none) else none
  | .verify _ => none

lemma AuthScreensEvent.of?_client {ι : Type*} [DecidableEq ι] (c : ι) (e : ClientEvent)
    (error : Option AuthErrorCode) : (client c e error).of? c = some (e, error) := if_pos rfl

namespace AuthScreens

open AuthenticationVC

variable {ι : Type*} [DecidableEq ι]

def start : AuthScreens ι := ⟨.start, fun _ => updateUserInfomation none⟩

/-- The labels of a client are updated at an event. -/
def updates (screens : AuthScreens ι) (c : ι) : AuthScreensEvent ι → Bool
  | .client c' e _ => c' = c ∧ AuthenticationVC.updates (screens.world.client c) e
  | .signOutByForce _ | .verify _ => false

/-- The alert that is presented on the screen of a client. -/
def presented? (screens : AuthScreens ι) (c : ι) (e : AuthScreensEvent ι) : Option String :=
  match e.of? c with
  | some (e, error) => AuthenticationVC.presented? (screens.world.client c) error e
  | none => none

/-- The SDK ends the session of a user who is signed in. -/
def happens (screens : AuthScreens ι) : AuthScreensEvent ι → Bool
  | .signOutByForce c => (screens.world.client c).currentUser.isSome
  | .client .. | .verify _ => true

def step (screens : AuthScreens ι) (e : AuthScreensEvent ι) : Option (AuthScreens ι) :=
  if screens.happens e then
    (World.step screens.world e.worldEvent).map fun world =>
      { world := world
        labels := fun c =>
          if screens.updates c e then updateUserInfomation (world.client c).currentUser
          else screens.labels c }
  else none

end AuthScreens

/-! ## What an event does to requests and sessions -/

/-- The request whose end an event may be. -/
def ClientEvent.request? : ClientEvent → Option ℕ
  | .requestFails i | .callback i => some i
  | _ => none

/-- The events at which the SDK signs a user in or refreshes the one who is. -/
def ClientEvent.signsIn : ClientEvent → Bool
  | .createUserSucceeds .. | .commitChangesSucceeds .. | .signInSucceeds .. => true
  | _ => false

namespace Client

/-- What may become of request number `j`. -/
inductive RequestChange (client : Client) (e : ClientEvent) (client' : Client) (j : ℕ) : Prop
  | same (hrequest : client'.request j = client.request j)
      (hrequests : client'.requests = client.requests ∨
        client'.requests = client.requests + 1 ∧ j ≠ client.requests)
      (hevent : e.request? ≠ some j)
  | made (request : Request) (hj : j = client.requests)
      (hrequests : client'.requests = client.requests + 1)
      (hrequest : client'.request j = some request) (hevent : e.request? ≠ some j)
  | advanced (request next : Request) (hrequests : client'.requests = client.requests)
      (hrequest : client.request j = some request) (hnext : client'.request j = some next)
      (hevent : e.request? = some j → e = .callback j ∧ request.stage.next? = some next.stage)
  | ended (request : Request) (hrequests : client'.requests = client.requests)
      (hrequest : client.request j = some request) (hnone : client'.request j = none)
      (hevent : e.request? = some j ∨ e = .restart)

section RequestChange

variable {server server' : Server} {client client' : Client} {e : ClientEvent} {i j : ℕ}

/-- A request of the client is replaced by another one. -/
lemma RequestChange.of_setRequest {request next : Request}
    (hrequest : client.request i = some request)
    (hclient : client'.request = (client.setRequest i (some next)).request)
    (hrequests : client'.requests = client.requests) (hother : ∀ j ≠ i, e.request? ≠ some j)
    (hevent : e.request? = some i → e = .callback i ∧ request.stage.next? = some next.stage) :
    RequestChange client e client' j := by
  by_cases hj : j = i
  · subst hj
    refine .advanced request next hrequests hrequest ?_ hevent
    rw [hclient]
    exact Function.update_self ..
  · refine .same ?_ (Or.inl hrequests) (hother j hj)
    rw [hclient]
    exact Function.update_of_ne hj ..

lemma RequestChange.of_setRequest_none {request : Request}
    (hrequest : client.request i = some request)
    (hclient : client'.request = (client.setRequest i none).request)
    (hrequests : client'.requests = client.requests) (hevent : e.request? = some i) :
    RequestChange client e client' j := by
  by_cases hj : j = i
  · subst hj
    refine .ended request hrequests hrequest ?_ (Or.inl hevent)
    rw [hclient]
    exact Function.update_self ..
  · refine .same ?_ (Or.inl hrequests) fun hj' => hj ?_
    · rw [hclient]
      exact Function.update_of_ne hj ..
    · rw [hevent] at hj'
      exact (Option.some.inj hj').symm

lemma RequestChange.of_send {stage : Stage} (h : client.send stage = some client')
    (hevent : e.request? = none) : RequestChange client e client' j := by
  obtain ⟨scene, -, rfl⟩ := Option.map_eq_some_iff.mp h
  by_cases hj : j = client.requests
  · subst hj
    exact .made ⟨scene, stage⟩ rfl rfl (Function.update_self ..) (hevent ▸ nofun)
  · exact .same (Function.update_of_ne hj ..) (Or.inr ⟨rfl, hj⟩) (hevent ▸ nofun)

lemma RequestChange.of_eq (hrequest : client'.request = client.request)
    (hrequests : client'.requests = client.requests) (hevent : e.request? = none) :
    RequestChange client e client' j :=
  .same (congrFun hrequest j) (Or.inl hrequests) (hevent ▸ nofun)

lemma requestChange_of_callback
    (h : step server client (.callback i) = some (server', client')) :
    RequestChange client (.callback i) client' j := by
  simp only [step] at h
  split at h
  · rename_i request hrequest
    obtain ⟨hsucceeded, heq⟩ := Option.ite_none_right_eq_some.mp h
    split at heq
    · obtain ⟨scene, stage⟩ := request
      cases stage with
      | createdUser user name =>
          cases heq
          exact .of_setRequest hrequest rfl rfl (fun j hj hj' => hj (Option.some.inj hj').symm)
            fun _ => ⟨rfl, rfl⟩
      | committedChanges user =>
          cases heq
          exact .of_setRequest hrequest rfl rfl (fun j hj hj' => hj (Option.some.inj hj').symm)
            fun _ => ⟨rfl, rfl⟩
      | sentEmailVerification | signedIn =>
          cases heq
          exact .of_setRequest_none hrequest rfl rfl rfl
      | _ => cases hsucceeded
    · cases heq
      exact .of_setRequest_none hrequest rfl rfl rfl
  · cases h

/-- The handler of the OK button leaves requests, session and scene alone. -/
lemma okAction_client {docInfo : DocumentInfo} :
    (DocumentSaveSceneVC.okAction docInfo server client).2.request = client.request ∧
      (DocumentSaveSceneVC.okAction docInfo server client).2.requests = client.requests ∧
      (DocumentSaveSceneVC.okAction docInfo server client).2.currentUser = client.currentUser ∧
      (DocumentSaveSceneVC.okAction docInfo server client).2.authScene = client.authScene := by
  unfold DocumentSaveSceneVC.okAction DocumentSaveSceneVC.saveData2Online
  split
  · split <;> exact ⟨rfl, rfl, rfl, rfl⟩
  · exact ⟨rfl, rfl, rfl, rfl⟩

/-- **All that an event can do to a request.** -/
lemma requestChange_of_step (h : step server client e = some (server', client')) (j : ℕ) :
    RequestChange client e client' j := by
  cases e with
  | createUserSucceeds i uid displayName =>
      simp only [step] at h
      split at h
      · rename_i scene name email hrequest
        obtain ⟨-, heq⟩ := Option.ite_none_right_eq_some.mp h
        cases heq
        exact .of_setRequest hrequest rfl rfl (fun _ _ hj => by cases hj) (fun hj => by cases hj)
      · cases h
  | commitChangesSucceeds i stored =>
      simp only [step] at h
      split at h
      · rename_i scene user name hrequest
        split at h
        · obtain ⟨-, heq⟩ := Option.ite_none_right_eq_some.mp h
          cases heq
          exact .of_setRequest hrequest rfl rfl (fun _ _ hj => by cases hj) (fun hj => by cases hj)
        · cases h
      · cases h
  | sendEmailVerificationSucceeds i =>
      simp only [step] at h
      split at h
      · rename_i scene user hrequest
        split at h
        · cases h
          exact .of_setRequest hrequest rfl rfl (fun _ _ hj => by cases hj) (fun hj => by cases hj)
        · cases h
      · cases h
  | signInSucceeds i uid =>
      simp only [step] at h
      split at h
      · rename_i scene account hrequest haccount
        cases h
        exact .of_setRequest hrequest rfl rfl (fun _ _ hj => by cases hj) (fun hj => by cases hj)
      · cases h
  | requestFails i =>
      simp only [step] at h
      split at h
      · rename_i request hrequest
        obtain ⟨-, heq⟩ := Option.ite_none_left_eq_some.mp h
        cases heq
        exact .of_setRequest_none hrequest rfl rfl rfl
      · cases h
  | callback i => exact requestChange_of_callback h
  | singUp name email =>
      obtain ⟨next, hsend, heq⟩ := Option.map_eq_some_iff.mp h
      cases heq
      exact .of_send hsend rfl
  | signIn =>
      obtain ⟨next, hsend, heq⟩ := Option.map_eq_some_iff.mp h
      cases heq
      exact .of_send hsend rfl
  | restart =>
      cases h
      cases hrequest : client.request j with
      | none => exact .same hrequest.symm (Or.inl rfl) (fun hj => by cases hj)
      | some request => exact .ended request rfl hrequest rfl (Or.inr rfl)
  | okTapped uuid header date context =>
      simp only [step] at h
      split at h
      · obtain ⟨-, rfl⟩ := Prod.mk.inj (Option.some.inj h)
        exact .of_eq okAction_client.1 okAction_client.2.1 rfl
      · cases h
  | moveAuthScene | saveButtonTapped =>
      obtain ⟨-, heq⟩ := Option.ite_none_right_eq_some.mp h
      cases heq
      exact .of_eq rfl rfl rfl
  | dismissAuthScene | signOut | switchSavingLocal _ | switchSavingOnline _ | cancelTapped =>
      cases h
      exact .of_eq rfl rfl rfl

/-- What may become of the session and of the scene. -/
structure SessionChange (client : Client) (e : ClientEvent) (client' : Client) : Prop where
  scene : client'.authScene.isSome → e = .moveAuthScene ∨ client.authScene.isSome
  session : client'.currentUser = client.currentUser ∨ e = .signOut ∨
    e.signsIn = true ∧ (client.currentUser.isSome → client'.currentUser.isSome)

lemma SessionChange.of_eq (hscene : client'.authScene = client.authScene)
    (huser : client'.currentUser = client.currentUser) : SessionChange client e client' :=
  ⟨fun h => Or.inr (hscene ▸ h), Or.inl huser⟩

/-- **All that an event can do to the session.** -/
lemma sessionChange_of_step (h : step server client e = some (server', client')) :
    SessionChange client e client' := by
  cases e with
  | createUserSucceeds i uid displayName =>
      simp only [step] at h
      split at h
      · obtain ⟨-, heq⟩ := Option.ite_none_right_eq_some.mp h
        cases heq
        exact ⟨Or.inr, Or.inr (Or.inr ⟨rfl, fun _ => rfl⟩)⟩
      · cases h
  | commitChangesSucceeds i stored =>
      simp only [step] at h
      split at h
      · split at h
        · obtain ⟨-, heq⟩ := Option.ite_none_right_eq_some.mp h
          cases heq
          refine ⟨Or.inr, Or.inr (Or.inr ⟨rfl, fun hsome => ?_⟩)⟩
          show (Option.map _ client.currentUser).isSome = true
          rw [Option.isSome_map, hsome]
        · cases h
      · cases h
  | sendEmailVerificationSucceeds i =>
      simp only [step] at h
      split at h
      · split at h
        · cases h
          exact .of_eq rfl rfl
        · cases h
      · cases h
  | signInSucceeds i uid =>
      simp only [step] at h
      split at h
      · cases h
        exact ⟨Or.inr, Or.inr (Or.inr ⟨rfl, fun _ => rfl⟩)⟩
      · cases h
  | requestFails i =>
      simp only [step] at h
      split at h
      · obtain ⟨-, heq⟩ := Option.ite_none_left_eq_some.mp h
        cases heq
        exact .of_eq rfl rfl
      · cases h
  | callback i =>
      simp only [step] at h
      split at h
      · rename_i request hrequest
        obtain ⟨hsucceeded, heq⟩ := Option.ite_none_right_eq_some.mp h
        split at heq
        · obtain ⟨scene, stage⟩ := request
          cases stage <;> cases heq <;> exact .of_eq rfl rfl
        · cases heq
          exact .of_eq rfl rfl
      · cases h
  | singUp name email =>
      obtain ⟨next, hsend, heq⟩ := Option.map_eq_some_iff.mp h
      obtain ⟨scene, -, rfl⟩ := Option.map_eq_some_iff.mp hsend
      cases heq
      exact .of_eq rfl rfl
  | signIn =>
      obtain ⟨next, hsend, heq⟩ := Option.map_eq_some_iff.mp h
      obtain ⟨scene, -, rfl⟩ := Option.map_eq_some_iff.mp hsend
      cases heq
      exact .of_eq rfl rfl
  | okTapped uuid header date context =>
      simp only [step] at h
      split at h
      · obtain ⟨-, rfl⟩ := Prod.mk.inj (Option.some.inj h)
        exact .of_eq okAction_client.2.2.2 okAction_client.2.2.1
      · cases h
  | moveAuthScene =>
      obtain ⟨-, heq⟩ := Option.ite_none_right_eq_some.mp h
      cases heq
      exact ⟨fun _ => Or.inl rfl, Or.inl rfl⟩
  | saveButtonTapped =>
      obtain ⟨-, heq⟩ := Option.ite_none_right_eq_some.mp h
      cases heq
      exact .of_eq rfl rfl
  | dismissAuthScene | restart =>
      cases h
      exact ⟨fun hscene => (by cases hscene), Or.inl rfl⟩
  | signOut =>
      cases h
      exact ⟨Or.inr, Or.inr (Or.inl rfl)⟩
  | switchSavingLocal _ | switchSavingOnline _ | cancelTapped =>
      cases h
      exact .of_eq rfl rfl

end RequestChange

end Client

namespace AuthScreens

variable {ι : Type*} [DecidableEq ι] {screens screens' : AuthScreens ι} {e : AuthScreensEvent ι}
  {c : ι}

lemma exists_of_step (h : step screens e = some screens') :
    ∃ world, World.step screens.world e.worldEvent = some world ∧ screens' =
      { world := world
        labels := fun c =>
          if screens.updates c e then
            AuthenticationVC.updateUserInfomation (world.client c).currentUser
          else screens.labels c } := by
  obtain ⟨-, h⟩ := Option.ite_none_right_eq_some.mp h
  obtain ⟨world, hworld, rfl⟩ := Option.map_eq_some_iff.mp h
  exact ⟨world, hworld, rfl⟩

lemma client_of_update {c' : ι} {event : ClientEvent} {error : Option AuthErrorCode}
    {server : Server} {client : Client}
    (hclient : Client.step screens.world.server (screens.world.client c') event =
      some (server, client))
    (hof : e.of? c = if c' = c then some (event, error) else none) :
    (∃ event error, e.of? c = some (event, error) ∧ ∃ server,
      Client.step screens.world.server (screens.world.client c) event =
        some (server, Function.update screens.world.client c' client c)) ∨
    e.of? c = none ∧ Function.update screens.world.client c' client c = screens.world.client c := by
  by_cases hc : c' = c
  · subst hc
    refine Or.inl ⟨event, error, hof.trans (if_pos rfl), server, ?_⟩
    rw [hclient, Function.update_self]
  · exact Or.inr ⟨hof.trans (if_neg hc), Function.update_of_ne (Ne.symm hc) ..⟩

/-- What an event is for one client: an event of that client, or nothing at all. -/
lemma client_of_step (h : step screens e = some screens') (c : ι) :
    (∃ event error, e.of? c = some (event, error) ∧ ∃ server,
      Client.step screens.world.server (screens.world.client c) event =
        some (server, screens'.world.client c)) ∨
    e.of? c = none ∧ screens'.world.client c = screens.world.client c := by
  obtain ⟨world, hworld, rfl⟩ := exists_of_step h
  cases e with
  | client c' event error =>
      obtain ⟨⟨server, client⟩, hclient, rfl⟩ := Option.map_eq_some_iff.mp hworld
      exact client_of_update hclient rfl
  | signOutByForce c' =>
      rw [AuthScreensEvent.worldEvent, World.step] at hworld
      obtain ⟨⟨server, client⟩, hclient, rfl⟩ := Option.map_eq_some_iff.mp hworld
      exact client_of_update hclient rfl
  | verify uid =>
      refine Or.inr ⟨rfl, ?_⟩
      simp only [AuthScreensEvent.worldEvent, World.step] at hworld
      split at hworld
      · obtain ⟨-, heq⟩ := Option.ite_none_right_eq_some.mp hworld
        obtain rfl := Option.some.inj heq
        rfl
      · cases hworld

lemma labels_of_step (h : step screens e = some screens') (c : ι) :
    screens'.labels c =
      if screens.updates c e then
        AuthenticationVC.updateUserInfomation (screens'.world.client c).currentUser
      else screens.labels c := by
  obtain ⟨world, -, rfl⟩ := exists_of_step h
  rfl

lemma world_of_step (h : step screens e = some screens') :
    World.step screens.world e.worldEvent = some screens'.world := by
  obtain ⟨world, hworld, rfl⟩ := exists_of_step h
  exact hworld

end AuthScreens

end Procon
