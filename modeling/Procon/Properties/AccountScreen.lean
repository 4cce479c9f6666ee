import Procon.Construction.AuthenticationVC
import Procon.Properties.AccountLife

/-!
# What the account screen tells the user

The labels of the account screen are those of the session at the last update; a sign-up does not
update them, nor does the SDK when it ends a session by itself, and a sign-in does so in a callback
that comes later.  `labels_tell` says how wrong they can be.

Every request of a client is answered once.  `RequestLife` is the state of a request together with
the alerts presented for it so far; a request is pending until it fails or its last callback runs,
and what is presented then is all that is ever presented for it (`requests_answered`).

The notice at the end of a sign-up says that the account is registered and that a mail has been sent
to the address that was entered.  `SignUpTells` follows a sign-up through its requests, and
`registration_notice_true` says that the notice is right.
-/

namespace Procon

open LabelledRun AuthenticationVC

variable {ι : Type*} [DecidableEq ι]

namespace AuthScreens

variable {screens screens' : AuthScreens ι} {e : AuthScreensEvent ι} {c : ι} {i : ℕ}
  {tr : List (AuthScreensEvent ι)}

/-! ## The labels -/

/-- The SDK signs a user of the client in, or refreshes the one who is. -/
def SignsIn (c : ι) (e : AuthScreensEvent ι) : Prop :=
  ∃ event error, e.of? c = some (event, error) ∧ event.signsIn = true

/-- An event of a kind has come, and since then the labels have not been updated. -/
def NotShown (c : ι) (tr : List (AuthScreensEvent ι)) (kind : AuthScreensEvent ι → Prop) : Prop :=
  ∃ p x q, steps step start tr = p ++ x :: q ∧ kind x.2 ∧
    ∀ y ∈ x :: q, y.1.updates c y.2 = false

/-- The labels are those of the session, or it has changed since the last update without the
screen. -/
structure LabelsTell (c : ι) (tr : List (AuthScreensEvent ι)) (screens : AuthScreens ι) :
    Prop where
  someone : (screens.labels c).currentUserState = some "ログイン中" →
    (screens.world.client c).currentUser.isSome ∨ NotShown c tr (· = .signOutByForce c)
  session : screens.labels c = updateUserInfomation (screens.world.client c).currentUser ∨
    NotShown c tr fun e => SignsIn c e ∨ e = .signOutByForce c

lemma isSome_of_currentUserState {user : Option User}
    (h : (updateUserInfomation user).currentUserState = some "ログイン中") : user.isSome := by
  cases user with
  | none => exact absurd h (by decide)
  | some user => rfl

section NotShown

variable {kind : AuthScreensEvent ι → Prop} (hrun : run step start tr = some screens)
  (hupdate : screens.updates c e = false)

include hrun hupdate

lemma NotShown.concat (h : NotShown c tr kind) : NotShown c (tr ++ [e]) kind := by
  obtain ⟨p, x, q, hsteps, hx, hq⟩ := h
  refine ⟨p, x, q ++ [(screens, e)], by rw [steps_concat hrun, hsteps]; simp, hx, fun y hy => ?_⟩
  rw [← List.cons_append, List.mem_append, List.mem_singleton] at hy
  rcases hy with hold | rfl
  · exact hq y hold
  · exact hupdate

lemma notShown_concat (h : kind e) : NotShown c (tr ++ [e]) kind := by
  refine ⟨_, (screens, e), [], steps_concat hrun, h, fun y hy => ?_⟩
  obtain rfl := List.mem_singleton.mp hy
  exact hupdate

end NotShown

/-- An update shows the session. -/
lemma labelsTell_of_updates (h : step screens e = some screens') (hupdate : screens.updates c e) :
    LabelsTell c (tr ++ [e]) screens' := by
  have hlabels := labels_of_step h c
  rw [if_pos hupdate] at hlabels
  refine ⟨fun hstate => Or.inl ?_, Or.inl hlabels⟩
  rw [hlabels] at hstate
  exact isSome_of_currentUserState hstate

/-- Without an update the labels stay as they are. -/
lemma LabelsTell.step (hrun : run step start tr = some screens)
    (h : LabelsTell c tr screens) (hstep : step screens e = some screens')
    (hupdate : screens.updates c e = false)
    (hsession : (screens'.world.client c).currentUser = (screens.world.client c).currentUser ∨
      (SignsIn c e ∧ ((screens.world.client c).currentUser.isSome →
        (screens'.world.client c).currentUser.isSome)) ∨ e = .signOutByForce c) :
    LabelsTell c (tr ++ [e]) screens' := by
  have hlabels : screens'.labels c = screens.labels c := by
    rw [labels_of_step hstep c, if_neg (by rw [hupdate]; exact Bool.false_ne_true)]
  constructor
  · intro hstate
    rw [hlabels] at hstate
    rcases h.someone hstate with hsome | hshown
    · rcases hsession with hsame | ⟨-, hkeeps⟩ | hforce
      · exact Or.inl (hsame ▸ hsome)
      · exact Or.inl (hkeeps hsome)
      · exact Or.inr (notShown_concat hrun hupdate hforce)
    · exact Or.inr (hshown.concat hrun hupdate)
  · rw [hlabels]
    rcases hsession with hsame | ⟨hsigns, -⟩ | hforce
    · rw [hsame]
      exact h.session.imp_right fun hshown => hshown.concat hrun hupdate
    · exact Or.inr (notShown_concat hrun hupdate (Or.inl hsigns))
    · exact Or.inr (notShown_concat hrun hupdate (Or.inr hforce))

/-- What an event without an update does to the session of a scene that is there after it. -/
lemma session_of_step (hstep : step screens e = some screens')
    (hupdate : screens.updates c e = false)
    (hscene : (screens'.world.client c).authScene.isSome) :
    (screens.world.client c).authScene.isSome ∧
      ((screens'.world.client c).currentUser = (screens.world.client c).currentUser ∨
      (SignsIn c e ∧ ((screens.world.client c).currentUser.isSome →
        (screens'.world.client c).currentUser.isSome)) ∨ e = .signOutByForce c) := by
  rcases client_of_step hstep c with ⟨event, error, hof, server, hclient⟩ | ⟨-, hsame⟩
  · have hchange := Client.sessionChange_of_step hclient
    cases e with
    | client c' event' error' =>
        obtain ⟨rfl, heq⟩ := Option.ite_none_right_eq_some.mp hof
        obtain ⟨rfl, rfl⟩ := Prod.mk.inj (Option.some.inj heq)
        have hupdate' : AuthenticationVC.updates (screens.world.client c') event' = false := by
          simpa [updates] using hupdate
        have hscene' : (screens.world.client c').authScene.isSome := by
          rcases hchange.scene hscene with rfl | hold
          · cases hupdate'
          · exact hold
        refine ⟨hscene', ?_⟩
        rcases hchange.session with hsame | rfl | ⟨hsigns, hsome⟩
        · exact Or.inl hsame
        · rw [show AuthenticationVC.updates _ ClientEvent.signOut = _ from hscene'] at hupdate'
          cases hupdate'
        · exact Or.inr (Or.inl ⟨⟨event', error', hof, hsigns⟩, hsome⟩)
    | signOutByForce c' =>
        obtain ⟨rfl, heq⟩ := Option.ite_none_right_eq_some.mp hof
        obtain ⟨rfl, rfl⟩ := Prod.mk.inj (Option.some.inj heq)
        refine ⟨?_, Or.inr (Or.inr rfl)⟩
        rcases hchange.scene hscene with hmove | hold
        · cases hmove
        · exact hold
    | verify uid => cases hof
  · rw [hsame] at hscene ⊢
    exact ⟨hscene, Or.inl rfl⟩

lemma labelsTell_of_run (h : run step start tr = some screens)
    (hscene : (screens.world.client c).authScene.isSome) : LabelsTell c tr screens := by
  revert hscene
  refine run_induction (P := fun tr screens =>
    (screens.world.client c).authScene.isSome → LabelsTell c tr screens) nofun ?_ h
  intro tr screens e screens' hrun ih hstep hscene
  by_cases hupdate : screens.updates c e
  · exact labelsTell_of_updates hstep hupdate
  · rw [Bool.not_eq_true] at hupdate
    obtain ⟨hscene', hsession⟩ := session_of_step hstep hupdate hscene
    exact (ih hscene').step hrun hstep hupdate hsession

/-- **What the labels tell.**  As long as the scene is presented, its labels show a user where
nobody is signed in only if the SDK has ended the session by itself, and no update has come after
that; and they show the session as it is, unless the SDK has since then ended it, signed a user in
or refreshed the one who is. -/
theorem labels_tell (tr : List (AuthScreensEvent ι)) (screens : AuthScreens ι)
    (h : run step start tr = some screens) (c : ι)
    (hscene : (screens.world.client c).authScene.isSome) :
    ((screens.labels c).currentUserState = some "ログイン中" →
        (screens.world.client c).currentUser.isSome ∨ NotShown c tr (· = .signOutByForce c)) ∧
      (screens.labels c = updateUserInfomation (screens.world.client c).currentUser ∨
        NotShown c tr fun e => SignsIn c e ∨ e = .signOutByForce c) :=
  let htell := labelsTell_of_run h hscene
  ⟨htell.someone, htell.session⟩

/-! ## The answers -/

/-- The alert that an event presents about a request. -/
def answer? (c : ι) (i : ℕ) (screens : AuthScreens ι) (e : AuthScreensEvent ι) : Option String :=
  match e.of? c with
  | some (event, error) =>
      if event.request? = some i then
        AuthenticationVC.presented? (screens.world.client c) error event
      else none
  | none => none

/-- The alerts that are presented about a request in a run. -/
def answers (c : ι) (i : ℕ) (tr : List (AuthScreensEvent ι)) : List String :=
  (steps step start tr).filterMap fun x => answer? c i x.1 x.2

/-- An event is the end of a request: it fails, or its last callback runs. -/
def Ends (c : ι) (i : ℕ) (screens : AuthScreens ι) (e : AuthScreensEvent ι) : Prop :=
  ∃ event error request, e.of? c = some (event, error) ∧ event.request? = some i ∧
    (screens.world.client c).request i = some request ∧
    (event = .requestFails i ∨ request.stage.next? = none)

/-- The state of a request, with the alerts that have been presented about it. -/
inductive RequestLife (client : Client) (i : ℕ) : List String → Prop
  | unmade (hnone : client.request i = none) (hle : client.requests ≤ i) : RequestLife client i []
  | pending (request : Request) (hrequest : client.request i = some request)
      (hlt : i < client.requests) : RequestLife client i []
  | ended (told : List String) (hnone : client.request i = none) (hlt : i < client.requests)
      (hlen : told.length ≤ 1) : RequestLife client i told

variable {told : List String}

lemma RequestLife.length_le {client : Client} (h : RequestLife client i told) :
    told.length ≤ 1 := by
  cases h with
  | unmade | pending => exact Nat.zero_le 1
  | ended told _ _ hlen => exact hlen

lemma RequestLife.eq_nil {client : Client} (h : RequestLife client i told) {request : Request}
    (hrequest : client.request i = some request) : told = [] := by
  cases h with
  | unmade | pending => rfl
  | ended told hnone =>
      rw [hrequest] at hnone
      cases hnone

lemma RequestLife.of_eq {client client' : Client} (h : RequestLife client i told)
    (hrequest : client'.request i = client.request i)
    (hrequests : client'.requests = client.requests ∨
      client'.requests = client.requests + 1 ∧ i ≠ client.requests) :
    RequestLife client' i told := by
  cases h with
  | unmade hnone hle => exact .unmade (hrequest.trans hnone) (by omega)
  | pending request hold hlt => exact .pending request (hrequest.trans hold) (by omega)
  | ended told hnone hlt hlen => exact .ended told (hrequest.trans hnone) (by omega) hlen

lemma answer?_of_ne {event : ClientEvent} {error : Option AuthErrorCode}
    (hof : e.of? c = some (event, error)) (hne : event.request? ≠ some i) :
    answer? c i screens e = none := by
  unfold answer?
  rw [hof]
  exact if_neg hne

lemma notice?_of_next? {stage next : Stage} (h : stage.next? = some next) :
    notice? stage = none := by
  cases stage with
  | sentEmailVerification | signedIn => cases h
  | _ => rfl

lemma next?_of_notice? {stage : Stage} {message : String} (h : notice? stage = some message) :
    stage.next? = none := by
  cases stage with
  | sentEmailVerification | signedIn => rfl
  | _ => cases h

lemma answer?_requestFails {error : Option AuthErrorCode} {request : Request}
    (h : (screens.world.client c).request i = some request) :
    answer? c i screens (.client c (.requestFails i) error) =
      if (screens.world.client c).authScene = some request.scene then some (getErrorMessage error)
      else none := by
  unfold answer?
  rw [AuthScreensEvent.of?_client]
  exact (if_pos rfl).trans (presented?_requestFails h)

lemma answer?_callback {error : Option AuthErrorCode} {request : Request}
    (h : (screens.world.client c).request i = some request) :
    answer? c i screens (.client c (.callback i) error) =
      if (screens.world.client c).authScene = some request.scene then notice? request.stage
      else none := by
  unfold answer?
  rw [AuthScreensEvent.of?_client]
  exact (if_pos rfl).trans (presented?_callback h)

/-- **The step lemma of a request.** -/
lemma RequestLife.step (h : RequestLife (screens.world.client c) i told)
    (hstep : step screens e = some screens') :
    RequestLife (screens'.world.client c) i (told ++ (answer? c i screens e).toList) ∧
      (Ends c i screens e → told = [] ∧ (screens'.world.client c).request i = none ∧
        i < (screens'.world.client c).requests) := by
  rcases client_of_step hstep c with ⟨event, error, hof, server, hclient⟩ | ⟨hof, hsame⟩
  · have hends : Ends c i screens e → event.request? = some i ∧
        ∃ request, (screens.world.client c).request i = some request ∧
          (event = .requestFails i ∨ request.stage.next? = none) := by
      rintro ⟨event', error', request, hof', hevent, hrequest, hlast⟩
      rw [hof] at hof'
      obtain ⟨rfl, rfl⟩ := Prod.mk.inj (Option.some.inj hof')
      exact ⟨hevent, request, hrequest, hlast⟩
    cases Client.requestChange_of_step hclient i with
    | same hrequest hrequests hne =>
        rw [answer?_of_ne hof hne, Option.toList_none, List.append_nil]
        exact ⟨h.of_eq hrequest hrequests, fun hend => absurd (hends hend).1 hne⟩
    | made request hi hrequests hrequest hne =>
        rw [answer?_of_ne hof hne, Option.toList_none, List.append_nil]
        refine ⟨?_, fun hend => absurd (hends hend).1 hne⟩
        cases h with
        | unmade => exact .pending request hrequest (by omega)
        | pending _ _ hlt => omega
        | ended _ _ hlt => omega
    | advanced request next hrequests hrequest hnext hevent =>
        cases h with
        | unmade hnone =>
            rw [hrequest] at hnone
            cases hnone
        | ended _ hnone =>
            rw [hrequest] at hnone
            cases hnone
        | pending _ _ hlt =>
            have hnone : answer? c i screens e = none := by
              by_cases hi : event.request? = some i
              · obtain ⟨rfl, hstage⟩ := hevent hi
                unfold answer?
                rw [hof]
                dsimp only
                rw [if_pos hi, presented?_callback hrequest, notice?_of_next? hstage, ite_self]
              · exact answer?_of_ne hof hi
            rw [hnone]
            refine ⟨.pending next hnext (by omega), fun hend => ?_⟩
            obtain ⟨hi, request', hrequest', hlast⟩ := hends hend
            obtain ⟨rfl, hstage⟩ := hevent hi
            rw [hrequest] at hrequest'
            obtain rfl := Option.some.inj hrequest'
            rcases hlast with hfails | hlast
            · cases hfails
            · rw [hlast] at hstage
              cases hstage
    | ended request hrequests hrequest hnone hevent =>
        cases h with
        | unmade hnone' =>
            rw [hrequest] at hnone'
            cases hnone'
        | ended _ hnone' =>
            rw [hrequest] at hnone'
            cases hnone'
        | pending _ _ hlt =>
            refine ⟨.ended _ hnone (by omega) ?_, fun _ => ⟨rfl, hnone, by omega⟩⟩
            cases answer? c i screens e <;> simp
  · have hnone : answer? c i screens e = none := by
      unfold answer?
      rw [hof]
    rw [hnone, Option.toList_none, List.append_nil, hsame]
    refine ⟨h, ?_⟩
    rintro ⟨event, error, request, hof', -⟩
    rw [hof] at hof'
    cases hof'

/-- Nothing is presented about a request that has ended. -/
lemma answer?_of_ended (h : (screens.world.client c).request i = none) :
    answer? c i screens e = none := by
  unfold answer?
  split
  · rename_i event error hof
    split
    · rename_i hevent
      cases event with
      | requestFails j =>
          obtain rfl := Option.some.inj hevent
          exact (presented?_of_request_eq_none h).1
      | callback j =>
          obtain rfl := Option.some.inj hevent
          exact (presented?_of_request_eq_none h).2
      | _ => cases hevent
    · rfl
  · rfl

/-- A request that has ended does not come back. -/
lemma ended_of_step (hstep : step screens e = some screens')
    (hnone : (screens.world.client c).request i = none)
    (hlt : i < (screens.world.client c).requests) :
    (screens'.world.client c).request i = none ∧ i < (screens'.world.client c).requests := by
  rcases client_of_step hstep c with ⟨event, error, -, server, hclient⟩ | ⟨-, hsame⟩
  · cases Client.requestChange_of_step hclient i with
    | same hrequest hrequests => exact ⟨hrequest.trans hnone, by omega⟩
    | made _ hi => omega
    | advanced _ _ _ hrequest | ended _ _ hrequest =>
        rw [hrequest] at hnone
        cases hnone
  · rw [hsame]
    exact ⟨hnone, hlt⟩

lemma answers_concat (h : run step start tr = some screens) (e : AuthScreensEvent ι) :
    answers c i (tr ++ [e]) = answers c i tr ++ (answer? c i screens e).toList := by
  unfold answers
  rw [steps_concat h, List.filterMap_append, List.filterMap_cons]
  cases answer? c i screens e <;> rfl

/-- The state of a request at the end of a run, and what its end has presented. -/
structure Answered (c : ι) (i : ℕ) (tr : List (AuthScreensEvent ι)) (screens : AuthScreens ι) :
    Prop where
  life : RequestLife (screens.world.client c) i (answers c i tr)
  ended : ∀ s e, Takes step start tr s e → Ends c i s e →
    answers c i tr = (answer? c i s e).toList ∧ (screens.world.client c).request i = none ∧
      i < (screens.world.client c).requests

lemma answered_of_run (h : run step start tr = some screens) : Answered c i tr screens := by
  refine run_induction (P := fun tr screens => Answered c i tr screens) ?_ ?_ h
  · exact ⟨.unmade rfl (Nat.zero_le i), fun s e htakes => absurd htakes List.not_mem_nil⟩
  intro tr screens e screens' hrun ih hstep
  obtain ⟨hlife, hend⟩ := ih.life.step hstep
  rw [← answers_concat hrun] at hlife
  refine ⟨hlife, fun s e' htakes hends => ?_⟩
  rcases (takes_concat hrun).mp htakes with hold | ⟨rfl, rfl⟩
  · obtain ⟨hanswers, hnone, hlt⟩ := ih.ended s e' hold hends
    refine ⟨?_, ended_of_step hstep hnone hlt⟩
    rw [answers_concat hrun, hanswers, answer?_of_ended hnone, Option.toList_none, List.append_nil]
  · obtain ⟨htold, hnone, hlt⟩ := hend hends
    exact ⟨by rw [answers_concat hrun, htold, List.nil_append], hnone, hlt⟩

/-- **Every request is answered once.**  At most one alert is ever presented about a request, none
while it is pending; and what its end presents is all of them: where its scene is still there, the
message of its error or the notice of its last callback, and otherwise nothing. -/
theorem requests_answered (tr : List (AuthScreensEvent ι)) (screens : AuthScreens ι)
    (h : run step start tr = some screens) (c : ι) (i : ℕ) :
    (answers c i tr).length ≤ 1 ∧
    (∀ request, (screens.world.client c).request i = some request → answers c i tr = []) ∧
    (∀ s error request, Takes step start tr s (.client c (.requestFails i) error) →
      (s.world.client c).request i = some request →
      answers c i tr = if (s.world.client c).authScene = some request.scene then
        [getErrorMessage error] else []) ∧
    ∀ s error request message, Takes step start tr s (.client c (.callback i) error) →
      (s.world.client c).request i = some request → notice? request.stage = some message →
      answers c i tr = if (s.world.client c).authScene = some request.scene then
        [message] else [] := by
  have hanswered : Answered c i tr screens := answered_of_run h
  refine ⟨hanswered.life.length_le, fun request => hanswered.life.eq_nil, ?_, ?_⟩
  · intro s error request htakes hrequest
    have hends : Ends c i s (.client c (.requestFails i) error) :=
      ⟨_, error, request, if_pos rfl, rfl, hrequest, Or.inl rfl⟩
    rw [(hanswered.ended s _ htakes hends).1, answer?_requestFails hrequest]
    split <;> rfl
  · intro s error request message htakes hrequest hnotice
    have hends : Ends c i s (.client c (.callback i) error) :=
      ⟨_, error, request, if_pos rfl, rfl, hrequest, Or.inr (next?_of_notice? hnotice)⟩
    rw [(hanswered.ended s _ htakes hends).1, answer?_callback hrequest, hnotice]
    split <;> rfl

end AuthScreens

/-! ## The notice at the end of a sign-up -/

section SignUp

variable {tr : List (WorldEvent ι)} {world world' : World ι} {e : WorldEvent ι} {c : ι} {i : ℕ}
  {accounts accounts' : String → Option Account} {server' : Server} {client' : Client}

/-- The request is that of a sign-up with a name and an email. -/
def Made (tr : List (WorldEvent ι)) (c : ι) (i : ℕ) (name email : String) : Prop :=
  ∃ u : World ι, Takes World.step World.start tr u (.client c (.singUp name email)) ∧
    (u.client c).requests = i

/-- The request has created an account. -/
def Created (tr : List (WorldEvent ι)) (c : ι) (i : ℕ) (uid : String) : Prop :=
  ∃ (u : World ι) (displayName : Option String),
    Takes World.step World.start tr u (.client c (.createUserSucceeds i uid displayName))

/-- The account has the name that was entered; a server may store none for an empty one. -/
def Account.Named (account : Account) (name : String) : Prop :=
  account.displayName = some name ∨ name = "" ∧ account.displayName = none

/-- The account that a sign-up has created. -/
structure Registered (tr : List (WorldEvent ι)) (accounts : String → Option Account) (c : ι) (i : ℕ)
    (name email uid : String) (account : Account) : Prop where
  made : Made tr c i name email
  created : Created tr c i uid
  found : accounts uid = some account
  email : account.email = some email

/-- What a sign-up has achieved at a stage. -/
def SignUpTells (tr : List (WorldEvent ι)) (accounts : String → Option Account) (c : ι) (i : ℕ) :
    Stage → Prop
  | .createUser name email => Made tr c i name email
  | .createdUser user name | .commitChanges user name =>
      ∃ email account, Registered tr accounts c i name email user.uid account
  | .committedChanges user | .sendEmailVerification user =>
      ∃ name email account, Registered tr accounts c i name email user.uid account ∧
        account.Named name
  | .sentEmailVerification =>
      ∃ name email uid account, Registered tr accounts c i name email uid account ∧
        account.Named name ∧ account.mailSent = true
  | .signIn | .signedIn => True

def SignUpsTell (tr : List (WorldEvent ι)) (world : World ι) : Prop :=
  ∀ c i request, (world.client c).request i = some request →
    SignUpTells tr world.server.accounts c i request.stage

/-- The account that a stage is about keeps what the sign-up has achieved. -/
def KeepsAccount (accounts accounts' : String → Option Account) (stage : Stage) : Prop :=
  ∀ uid account, accounts uid = some account →
    (∃ ref, stage.ref? = some ref ∧ ref.uid = uid) ∨ account.mailSent = true →
      ∃ account', accounts' uid = some account' ∧ account'.email = account.email ∧
        account'.displayName = account.displayName ∧ account'.mailSent = account.mailSent

lemma keepsAccount_refl {stage : Stage} : KeepsAccount accounts accounts stage :=
  fun _ account haccount _ => ⟨account, haccount, rfl, rfl, rfl⟩

lemma Made.append {name email : String} (h : Made tr c i name email)
    (hrun : run World.step World.start tr = some world) (rest : List (WorldEvent ι)) :
    Made (tr ++ rest) c i name email := by
  obtain ⟨u, htakes, hi⟩ := h
  exact ⟨u, htakes.append hrun rest, hi⟩

lemma Registered.append {name email uid : String} {account account' : Account}
    (h : Registered tr accounts c i name email uid account)
    (hrun : run World.step World.start tr = some world) (rest : List (WorldEvent ι))
    (haccount : accounts' uid = some account') (hemail : account'.email = account.email) :
    Registered (tr ++ rest) accounts' c i name email uid account' where
  made := h.made.append hrun rest
  created := by
    obtain ⟨u, displayName, htakes⟩ := h.created
    exact ⟨u, displayName, htakes.append hrun rest⟩
  found := haccount
  email := hemail.trans h.email

/-- What a sign-up has achieved stays, whatever happens next, while its account keeps it. -/
lemma SignUpTells.concat {stage : Stage} (h : SignUpTells tr accounts c i stage)
    (hrun : run World.step World.start tr = some world) (e : WorldEvent ι)
    (hkeep : KeepsAccount accounts accounts' stage) :
    SignUpTells (tr ++ [e]) accounts' c i stage := by
  cases stage with
  | createUser name email => exact Made.append h hrun [e]
  | createdUser user name | commitChanges user name =>
      obtain ⟨email, account, hregistered⟩ := h
      obtain ⟨account', haccount', hemail, -⟩ :=
        hkeep _ _ hregistered.found (Or.inl ⟨user, rfl, rfl⟩)
      exact ⟨email, account', hregistered.append hrun [e] haccount' hemail⟩
  | committedChanges user | sendEmailVerification user =>
      obtain ⟨name, email, account, hregistered, hnamed⟩ := h
      obtain ⟨account', haccount', hemail, hname, -⟩ :=
        hkeep _ _ hregistered.found (Or.inl ⟨user, rfl, rfl⟩)
      refine ⟨name, email, account', hregistered.append hrun [e] haccount' hemail, ?_⟩
      unfold Account.Named
      rw [hname]
      exact hnamed
  | sentEmailVerification =>
      obtain ⟨name, email, uid, account, hregistered, hnamed, hmail⟩ := h
      obtain ⟨account', haccount', hemail, hname, hmail'⟩ :=
        hkeep _ _ hregistered.found (Or.inr hmail)
      refine ⟨name, email, uid, account', hregistered.append hrun [e] haccount' hemail, ?_,
        hmail'.trans hmail⟩
      unfold Account.Named
      rw [hname]
      exact hnamed
  | signIn | signedIn => trivial

/-- An event that concerns at most one request of one client. -/
lemma SignUpsTell.update (h : SignUpsTell tr world)
    (hrun : run World.step World.start tr = some world) (e : WorldEvent ι) (i : ℕ)
    (hclient : ∀ j, j ≠ i → ∀ request, client'.request j = some request →
      (world.client c).request j = some request)
    (hnew : ∀ request, client'.request i = some request →
      SignUpTells (tr ++ [e]) server'.accounts c i request.stage)
    (hkeep : ∀ c' j request, ¬ (c' = c ∧ j = i) → (world.client c').request j = some request →
      KeepsAccount world.server.accounts server'.accounts request.stage) :
    SignUpsTell (tr ++ [e]) ⟨server', Function.update world.client c client'⟩ := by
  intro c' j request hrequest
  dsimp only at hrequest ⊢
  rw [Function.update_apply] at hrequest
  split at hrequest
  · rename_i hc
    subst hc
    by_cases hj : j = i
    · subst hj
      exact hnew request hrequest
    · have hold := hclient j hj request hrequest
      exact (h c' j request hold).concat hrun e
        (hkeep c' j request (fun hboth => hj hboth.2) hold)
  · rename_i hc
    exact (h c' j request hrequest).concat hrun e
      (hkeep c' j request (fun hboth => hc hboth.1) hrequest)

omit [DecidableEq ι] in
/-- A sign-up changes its own account only. -/
lemma keepsAccount_setAccount (hinv : AccountInvariant world) {ref : UserRef}
    (hsign : (world.client c).SignsUp i ref) (account' : Account) {c' : ι} {j : ℕ}
    {request : Request} (hother : ¬ (c' = c ∧ j = i))
    (hrequest : (world.client c').request j = some request) :
    KeepsAccount world.server.accounts (world.server.setAccount ref.uid account').accounts
      request.stage := by
  intro uid account haccount habout
  refine ⟨account, ?_, rfl, rfl, rfl⟩
  rw [setAccount_accounts, if_neg]
  · exact haccount
  rintro rfl
  rcases habout with ⟨ref', href', huid⟩ | hmail
  · exact hother (hinv.unique c' j ref' c i ref ⟨request, hrequest, href'⟩ hsign huid)
  · obtain ⟨found, hfound, hnot⟩ := hinv.pending hsign
    rw [haccount] at hfound
    obtain rfl := Option.some.inj hfound
    rw [hmail] at hnot
    cases hnot

/-- The request of a client moves on to another stage. -/
lemma SignUpsTell.setRequest (h : SignUpsTell tr world)
    (hrun : run World.step World.start tr = some world) (e : WorldEvent ι) {new : Option Request}
    (hclient : client'.request = ((world.client c).setRequest i new).request)
    (hnew : ∀ request, new = some request →
      SignUpTells (tr ++ [e]) server'.accounts c i request.stage)
    (hkeep : ∀ c' j request, ¬ (c' = c ∧ j = i) → (world.client c').request j = some request →
      KeepsAccount world.server.accounts server'.accounts request.stage) :
    SignUpsTell (tr ++ [e]) ⟨server', Function.update world.client c client'⟩ := by
  refine h.update hrun e i (fun j hj request hrequest => ?_) (fun request hrequest => ?_) hkeep
  · rw [hclient, Client.request_setRequest, if_neg hj] at hrequest
    exact hrequest
  · rw [hclient, Client.request_setRequest, if_pos rfl] at hrequest
    exact hnew request hrequest

/-- **The step lemma of the sign-ups**, for one client. -/
lemma SignUpsTell.of_outcome (h : SignUpsTell tr world)
    (hrun : run World.step World.start tr = some world) (hinv : AccountInvariant world)
    {e : ClientEvent} (hstep : Client.Outcome world.server (world.client c) e server' client') :
    SignUpsTell (tr ++ [.client c e]) ⟨server', Function.update world.client c client'⟩ := by
  have htakes : Takes World.step World.start (tr ++ [.client c e]) world (.client c e) :=
    (takes_concat hrun).mpr (Or.inr ⟨rfl, rfl⟩)
  cases hstep with
  | created i scene name email uid displayName hrequest hnone hblank =>
      refine h.setRequest hrun _ rfl (fun request heq => ?_) fun c' j request _ _ => ?_
      · obtain rfl := Option.some.inj heq
        have hmade : Made tr c i name email := h c i _ hrequest
        exact ⟨email, _, hmade.append hrun _, ⟨world, displayName, htakes⟩,
          Function.update_self .., rfl⟩
      · intro other account haccount _
        refine ⟨account, ?_, rfl, rfl, rfl⟩
        rw [setAccount_accounts, if_neg]
        · exact haccount
        · rintro rfl
          rw [hnone] at haccount
          cases haccount
  | committed i scene user name account stored hrequest haccount hstored =>
      refine h.setRequest hrun _ rfl (fun request heq => ?_) fun c' j request hother hj =>
        keepsAccount_setAccount hinv ⟨_, hrequest, rfl⟩ _ hother hj
      obtain rfl := Option.some.inj heq
      obtain ⟨email, found, hregistered⟩ := h c i _ hrequest
      have hfound := hregistered.found
      rw [haccount] at hfound
      obtain rfl := Option.some.inj hfound
      exact ⟨name, email, _, hregistered.append hrun _ (Function.update_self ..) rfl, hstored⟩
  | mailed i scene user account hrequest haccount =>
      refine h.setRequest hrun _ rfl (fun request heq => ?_) fun c' j request hother hj =>
        keepsAccount_setAccount hinv ⟨_, hrequest, rfl⟩ _ hother hj
      obtain rfl := Option.some.inj heq
      obtain ⟨name, email, found, hregistered, hnamed⟩ := h c i _ hrequest
      have hfound := hregistered.found
      rw [haccount] at hfound
      obtain rfl := Option.some.inj hfound
      exact ⟨name, email, user.uid, _, hregistered.append hrun _ (Function.update_self ..) rfl,
        hnamed, rfl⟩
  | signedIn i scene uid account hrequest haccount =>
      refine h.setRequest hrun _ rfl (fun request heq => ?_) fun c' j request _ _ =>
        keepsAccount_refl
      obtain rfl := Option.some.inj heq
      trivial
  | moved i request stage hrequest hnext =>
      refine h.setRequest hrun _ rfl (fun request' heq => ?_) fun c' j request _ _ =>
        keepsAccount_refl
      obtain rfl := Option.some.inj heq
      have hold := (h c i request hrequest).concat hrun (.client c (.callback i)) keepsAccount_refl
      dsimp only
      cases hstage : request.stage with
      | createdUser user name =>
          rw [hstage] at hold hnext
          obtain rfl := Option.some.inj hnext
          exact hold
      | committedChanges user =>
          rw [hstage] at hold hnext
          obtain rfl := Option.some.inj hnext
          exact hold
      | _ =>
          rw [hstage] at hnext
          cases hnext
  | saved i request user hrequest hstage huser =>
      exact h.setRequest hrun _ rfl nofun fun c' j request _ _ => keepsAccount_refl
  | quiet _ _ _ he hkeeps =>
      have hsame : ∀ stage, KeepsAccount world.server.accounts server'.accounts stage := by
        rw [hkeeps.accounts]
        exact fun stage => keepsAccount_refl
      refine h.update hrun _ (world.client c).requests (fun j hj request hrequest => ?_)
        (fun request hrequest => ?_) fun c' j request _ _ => hsame _
      · rcases hkeeps.request j request hrequest with hold | ⟨hj', -⟩
        · exact hold
        · exact absurd hj' hj
      · rcases hkeeps.request _ request hrequest with hold | ⟨-, hfirst⟩
        · exact (h c _ request hold).concat hrun _ (hsame _)
        · cases e with
          | singUp name email =>
              rw [← Option.some.inj hfirst]
              exact ⟨world, htakes, rfl⟩
          | signIn =>
              rw [← Option.some.inj hfirst]
              trivial
          | _ => cases hfirst

/-- **The step lemma of the sign-ups.** -/
lemma SignUpsTell.step (h : SignUpsTell tr world)
    (hrun : run World.step World.start tr = some world) (hinv : AccountInvariant world)
    (hstep : World.step world e = some world') : SignUpsTell (tr ++ [e]) world' := by
  cases e with
  | client c e =>
      obtain ⟨⟨server, client⟩, hclient, rfl⟩ := Option.map_eq_some_iff.mp hstep
      exact h.of_outcome hrun hinv (Client.outcome_of_step hclient)
  | verify uid =>
      simp only [World.step] at hstep
      split at hstep
      · rename_i account haccount
        obtain ⟨-, heq⟩ := Option.ite_none_right_eq_some.mp hstep
        obtain rfl := Option.some.inj heq
        intro c i request hrequest
        refine (h c i request hrequest).concat hrun _ ?_
        -- only the verification of the account changes
        intro other found hfound _
        by_cases hother : other = uid
        · subst hother
          rw [haccount] at hfound
          obtain rfl := Option.some.inj hfound
          exact ⟨_, Function.update_self .., rfl, rfl, rfl⟩
        · exact ⟨found, (Function.update_of_ne hother ..).trans hfound, rfl, rfl, rfl⟩
      · cases hstep

lemma signUpsTell_of_run (h : run World.step World.start tr = some world) :
    SignUpsTell tr world := by
  refine run_induction (P := fun tr world => SignUpsTell tr world) ?_ ?_ h
  · intro c i request hrequest
    cases hrequest
  · intro tr world e world' hrun ih hstep
    exact ih.step hrun (accountInvariant_of_run hrun) hstep

end SignUp

namespace AuthScreens

variable {screens s : AuthScreens ι} {tr : List (AuthScreensEvent ι)} {c : ι} {i : ℕ}

/-- A run of the screens is a run of the clients. -/
lemma world_reached (h : run step start tr = some screens) :
    run World.step World.start (tr.map AuthScreensEvent.worldEvent) = some screens.world := by
  refine run_induction (P := fun tr screens =>
    run World.step World.start (tr.map AuthScreensEvent.worldEvent) = some screens.world) rfl ?_ h
  intro tr screens e screens' hrun ih hstep
  rw [List.map_append, List.map_singleton]
  exact run_concat_eq_some.mpr ⟨screens.world, ih, world_of_step hstep⟩

/-- The notice is presented by the last callback of a sign-up only. -/
lemma of_presented?_registeredMessage {client : Client} {event : ClientEvent}
    {error : Option AuthErrorCode}
    (h : AuthenticationVC.presented? client error event = some registeredMessage) :
    ∃ i request, event = .callback i ∧ client.request i = some request ∧
      request.stage = .sentEmailVerification := by
  have herror : getErrorMessage error ≠ registeredMessage := by
    rcases error with _ | code
    · decide +kernel
    · cases code <;> decide +kernel
  cases event with
  | requestFails i =>
      cases hrequest : client.request i with
      | none =>
          rw [(presented?_of_request_eq_none hrequest).1] at h
          cases h
      | some request =>
          rw [presented?_requestFails hrequest] at h
          obtain ⟨-, hmessage⟩ := Option.ite_none_right_eq_some.mp h
          exact absurd (Option.some.inj hmessage) herror
  | callback i =>
      cases hrequest : client.request i with
      | none =>
          rw [(presented?_of_request_eq_none hrequest).2] at h
          cases h
      | some request =>
          rw [presented?_callback hrequest] at h
          obtain ⟨-, hmessage⟩ := Option.ite_none_right_eq_some.mp h
          refine ⟨i, request, rfl, hrequest, ?_⟩
          cases hstage : request.stage with
          | sentEmailVerification => rfl
          | signedIn =>
              rw [hstage] at hmessage
              exact absurd (Option.some.inj hmessage) (by decide +kernel)
          | _ =>
              rw [hstage] at hmessage
              cases hmessage
  | _ => cases h

/-- **The notice at the end of a sign-up is right.**  Whenever it is presented, for request `i`, the
sign-up with that number has created an account with the email that was entered and the name that
was entered, and a mail has been sent to it. -/
theorem registration_notice_true (tr : List (AuthScreensEvent ι)) (screens s : AuthScreens ι)
    (h : run step start tr = some screens) (c : ι) (event : ClientEvent)
    (error : Option AuthErrorCode) (htakes : Takes step start tr s (.client c event error))
    (hnotice : s.presented? c (.client c event error) = some registeredMessage) :
    ∃ i name email uid account, event = .callback i ∧
      Registered (tr.map AuthScreensEvent.worldEvent) s.world.server.accounts c i name email uid
        account ∧
      account.Named name ∧ account.mailSent = true := by
  have hpresented : AuthenticationVC.presented? (s.world.client c) error event =
      some registeredMessage := by
    unfold presented? at hnotice
    rw [AuthScreensEvent.of?_client] at hnotice
    exact hnotice
  obtain ⟨i, request, rfl, hrequest, hstage⟩ := of_presented?_registeredMessage hpresented
  obtain ⟨done, rest, rfl, hdone⟩ := takes_iff.mp htakes
  have hworld := world_reached hdone
  have htells := signUpsTell_of_run hworld c i request hrequest
  rw [hstage] at htells
  obtain ⟨name, email, uid, account, hregistered, hnamed, hmail⟩ := htells
  refine ⟨i, name, email, uid, account, rfl, ?_, hnamed, hmail⟩
  rw [List.map_append]
  exact hregistered.append hworld _ hregistered.found rfl

/-! ### A sign-up and a sign-in -/

/-- A client signs up while the scene stays, and a wrong password follows. -/
def signUpScreens : List (AuthScreensEvent Unit) :=
  [.client () .moveAuthScene none, .client () (.singUp "User" "user@example.com") none,
    .client () (.createUserSucceeds 0 "user" none) none, .client () (.callback 0) none,
    .client () (.commitChangesSucceeds 0 (some "User")) none, .client () (.callback 0) none,
    .client () (.sendEmailVerificationSucceeds 0) none, .client () (.callback 0) none,
    .client () .signIn none, .client () (.requestFails 1) (some .wrongPassword)]

/-- The labels still say that nobody is signed in. -/
theorem labels_tell_signUpScreens :
    ∃ screens, run step start signUpScreens = some screens ∧
      (screens.labels ()).currentUserState = some "ログインしていません" ∧
      (screens.labels () = updateUserInfomation (screens.world.client ()).currentUser ∨
        NotShown () signUpScreens fun e => SignsIn () e ∨ e = .signOutByForce ()) :=
  ⟨_, rfl, by decide, (labels_tell signUpScreens _ rfl () rfl).2⟩

/-- The message about the password is the only one about its request. -/
theorem requests_answered_signUpScreens :
    ∃ screens, run step start signUpScreens = some screens ∧
      (answers () 1 signUpScreens).length ≤ 1 :=
  ⟨_, rfl, (requests_answered signUpScreens _ rfl () 1).1⟩

theorem registration_notice_true_signUpScreens :
    ∃ screens s : AuthScreens Unit, run step start signUpScreens = some screens ∧
      ∃ i name email uid account, ClientEvent.callback 0 = .callback i ∧
        Registered (signUpScreens.map AuthScreensEvent.worldEvent) s.world.server.accounts () i name
          email uid account ∧
        account.Named name ∧ account.mailSent = true := by
  obtain ⟨s, hs⟩ := Option.isSome_iff_exists.mp
    (by decide : (run step start (signUpScreens.take 7)).isSome)
  have htakes : Takes step start signUpScreens s (.client () (.callback 0) none) :=
    takes_iff.mpr ⟨signUpScreens.take 7, signUpScreens.drop 8, rfl, hs⟩
  refine ⟨_, s, rfl, registration_notice_true signUpScreens _ s rfl () (.callback 0) none htakes ?_⟩
  obtain rfl := Option.some.inj hs
  rfl

end AuthScreens

end Procon
