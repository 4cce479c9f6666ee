import Procon.Construction.Clients
import Procon.Framework.Run

/-!
# The life of an account

An account is made, named and mailed by three requests of one sign-up, each sent by the callback
of the one before, while other clients may sign in to the account, keep what they learn of it in
their user objects, and write it to the record of the user.  All of these see the account at
different times.

`Client.Sound` is what holds of each client: what its session says is true of the account or not
known yet, and an account that a sign-up is still about has had no mail.  `AccountInvariant` adds
that no two sign-ups are about one account, which is why an account is named once and mailed once:
`account_life` is its whole history.
-/

namespace Procon

open LabelledRun

/-! ## What is known of an account -/

/-- A name that says nothing. -/
def Blank (displayName : Option String) : Prop := displayName = none ∨ displayName = some ""

/-- What a user object says is true of the account, or not known yet. -/
structure User.Knows (user : User) (account : Account) : Prop where
  email : user.email = account.email
  verified : user.isEmailVerified = true → account.isEmailVerified = true
  name : user.displayName = account.displayName ∨ Blank user.displayName

/-- What an account may become. -/
structure Account.Grows (account account' : Account) : Prop where
  email : account'.email = account.email
  verified : account.isEmailVerified = true → account'.isEmailVerified = true
  name : account'.displayName = account.displayName ∨ Blank account.displayName

/-- What the accounts of a server may become. -/
def AccountsGrow (accounts accounts' : String → Option Account) : Prop :=
  ∀ uid account, accounts uid = some account →
    ∃ account', accounts' uid = some account' ∧ account.Grows account'

lemma User.Knows.mono {user : User} {account account' : Account} (h : user.Knows account)
    (hgrows : account.Grows account') : user.Knows account' where
  email := h.email.trans hgrows.email.symm
  verified hverified := hgrows.verified (h.verified hverified)
  name := by
    rcases h.name with hname | hblank
    · rcases hgrows.name with hsame | hblank
      · exact Or.inl (hname.trans hsame.symm)
      · exact Or.inr (hname ▸ hblank)
    · exact Or.inr hblank

lemma knows_user (account : Account) (object : ℕ) (uid : String) :
    (account.user object uid).Knows account := ⟨rfl, id, Or.inl rfl⟩

lemma accountsGrow_refl (accounts : String → Option Account) : AccountsGrow accounts accounts :=
  fun _ account h => ⟨account, h, rfl, id, Or.inl rfl⟩

lemma accountsGrow_setAccount {server : Server} {uid : String} {account' : Account}
    (h : ∀ account, server.accounts uid = some account → account.Grows account') :
    AccountsGrow server.accounts (server.setAccount uid account').accounts := by
  intro other account haccount
  by_cases hother : other = uid
  · subst hother
    exact ⟨account', Function.update_self .., h account haccount⟩
  · exact ⟨account, (Function.update_of_ne hother ..).trans haccount, rfl, id, Or.inl rfl⟩

lemma accountsGrow_created {server : Server} {uid : String} {account' : Account}
    (hnone : server.accounts uid = none) :
    AccountsGrow server.accounts (server.setAccount uid account').accounts := by
  refine accountsGrow_setAccount fun account haccount => ?_
  rw [hnone] at haccount
  cases haccount

lemma accountsGrow_changed {server : Server} {uid : String} {account account' : Account}
    (haccount : server.accounts uid = some account) (hgrows : account.Grows account') :
    AccountsGrow server.accounts (server.setAccount uid account').accounts := by
  refine accountsGrow_setAccount fun found hfound => ?_
  rw [haccount] at hfound
  obtain rfl := Option.some.inj hfound
  exact hgrows

/-- What the online list shows of a user is true of the account; only the name may be empty. -/
structure Account.Shows (account : Account) (userInfo : SimpleUserInfo) : Prop where
  email : account.email = some userInfo.email
  name : account.displayName = some userInfo.name ∨ userInfo.name = ""

lemma Account.Shows.mono {account account' : Account} {userInfo : SimpleUserInfo}
    (h : account.Shows userInfo) (hgrows : account.Grows account') : account'.Shows userInfo where
  email := hgrows.email.trans h.email
  name := by
    rcases h.name with hname | hempty
    · rcases hgrows.name with hsame | hnone | hblank
      · exact Or.inl (hsame.trans hname)
      · cases hnone.symm.trans hname
      · exact Or.inr (Option.some.inj (hname.symm.trans hblank))
    · exact Or.inr hempty

/-- A record that a user object was written to shows what the account says. -/
lemma User.Knows.shows {user : User} {account : Account} {userInfo : SimpleUserInfo}
    (h : user.Knows account) (hread : userInfoOf (Server.userRecord user) = some userInfo) :
    account.Shows userInfo := by
  rw [Server.userInfoOf_userRecord] at hread
  obtain ⟨name, hname, hmap⟩ := Option.bind_eq_some_iff.mp hread
  obtain ⟨email, hemail, rfl⟩ := Option.map_eq_some_iff.mp hmap
  refine ⟨h.email.symm.trans hemail, ?_⟩
  rcases h.name with hsame | hnone | hempty
  · exact Or.inl (hsame.symm.trans hname)
  · cases hnone.symm.trans hname
  · exact Or.inr (Option.some.inj (hname.symm.trans hempty))

/-! ## One client -/

namespace Client

/-- What holds of a client, given the accounts of the server. -/
structure Sound (accounts : String → Option Account) (client : Client) : Prop where
  session : ∀ user, client.currentUser = some user → user.object < client.objects ∧
    ∃ account, accounts user.uid = some account ∧ user.Knows account
  object : ∀ i request ref, client.request i = some request → request.stage.ref? = some ref →
    ref.object < client.objects ∧ ∀ user, client.currentUser = some user →
      user.object = ref.object → user.uid = ref.uid
  pending : ∀ i request ref, client.request i = some request → request.stage.ref? = some ref →
    ∃ account, accounts ref.uid = some account ∧ account.mailSent = false ∧
      (request.stage.unnamed = true → Blank account.displayName)

variable {accounts accounts' : String → Option Account} {client client' : Client} {i : ℕ}

lemma sound_install (accounts : String → Option Account) : Sound accounts install :=
  ⟨nofun, nofun, nofun⟩

lemma request_setRequest (request : Option Request) (j : ℕ) :
    (client.setRequest i request).request j = if j = i then request else client.request j :=
  Function.update_apply ..

/-- Where the accounts that sign-ups are about stay the same, the others may grow. -/
lemma Sound.mono (h : client.Sound accounts) (hgrow : AccountsGrow accounts accounts')
    (hsame : ∀ i request ref, client.request i = some request → request.stage.ref? = some ref →
      accounts' ref.uid = accounts ref.uid) : client.Sound accounts' where
  session user huser := by
    obtain ⟨hobject, account, haccount, hknows⟩ := h.session user huser
    obtain ⟨account', haccount', hgrows⟩ := hgrow user.uid account haccount
    exact ⟨hobject, account', haccount', hknows.mono hgrows⟩
  object := h.object
  pending j request ref hrequest href := by
    obtain ⟨account, haccount, hmail⟩ := h.pending j request ref hrequest href
    exact ⟨account, (hsame j request ref hrequest href).trans haccount, hmail⟩

/-- A client that keeps no more than another one. -/
lemma Sound.of_keeps {server server' : Server} {e : ClientEvent} (h : client.Sound accounts)
    (hkeeps : Keeps server client e server' client') : client'.Sound accounts where
  session user huser := by
    rw [hkeeps.objects]
    exact h.session user (hkeeps.currentUser user huser)
  object j request ref hrequest href := by
    rcases hkeeps.request_or hrequest with hold | hnone
    · obtain ⟨hobject, huid⟩ := h.object j request ref hold href
      rw [hkeeps.objects]
      exact ⟨hobject, fun user huser => huid user (hkeeps.currentUser user huser)⟩
    · rw [hnone] at href
      cases href
  pending j request ref hrequest href := by
    rcases hkeeps.request_or hrequest with hold | hnone
    · exact h.pending j request ref hold href
    · rw [hnone] at href
      cases href

lemma Sound.setRequest_none (h : client.Sound accounts) (i : ℕ) :
    (client.setRequest i none).Sound accounts := by
  have hkeeps : Keeps .empty client .restart .empty (client.setRequest i none) :=
    keeps_setRequest_none i
  exact h.of_keeps hkeeps

/-- A request with its account. -/
lemma Sound.setRequest_some (h : client.Sound accounts) {request : Request}
    (hrequest : ∀ ref, request.stage.ref? = some ref → (ref.object < client.objects ∧
      ∀ user, client.currentUser = some user → user.object = ref.object → user.uid = ref.uid) ∧
      ∃ account, accounts ref.uid = some account ∧ account.mailSent = false ∧
        (request.stage.unnamed = true → Blank account.displayName)) :
    (client.setRequest i (some request)).Sound accounts where
  session := h.session
  object j request' ref hrequest' href := by
    rw [request_setRequest] at hrequest'
    split at hrequest'
    · obtain rfl := Option.some.inj hrequest'
      exact (hrequest ref href).1
    · exact h.object j request' ref hrequest' href
  pending j request' ref hrequest' href := by
    rw [request_setRequest] at hrequest'
    split at hrequest'
    · obtain rfl := Option.some.inj hrequest'
      exact (hrequest ref href).2
    · exact h.pending j request' ref hrequest' href

/-- A sign-in makes a new user object, which no sign-up has captured. -/
lemma Sound.setCurrentUser (h : client.Sound accounts) {uid : String} {account : Account}
    (haccount : accounts uid = some account) :
    (client.setCurrentUser uid account).Sound accounts where
  session user huser := by
    obtain rfl := Option.some.inj huser
    exact ⟨Nat.lt_succ_self _, account, haccount, knows_user ..⟩
  object j request ref hrequest href := by
    have hold := (h.object j request ref hrequest href).1
    refine ⟨Nat.lt_succ_of_lt hold, fun user huser hobject => ?_⟩
    obtain rfl := Option.some.inj huser
    have hnew : client.objects = ref.object := hobject
    omega
  pending := h.pending

/-- The session learns the name that was written, where it is the one that asked for it. -/
lemma Sound.commitChanges (h : client.Sound accounts) {ref : UserRef} {name : String}
    {account : Account} (haccount : accounts ref.uid = some account)
    (huid : ∀ user, client.currentUser = some user → user.object = ref.object →
      user.uid = ref.uid)
    (hname : account.displayName = some name ∨ name = "") :
    (client.commitChanges ref name account).Sound accounts where
  session user huser := by
    obtain ⟨old, hold, rfl⟩ := Option.map_eq_some_iff.mp huser
    obtain ⟨hobject, account', haccount', hknows⟩ := h.session old hold
    by_cases hsame : old.object = ref.object
    · rw [if_pos hsame]
      refine ⟨hobject, account, ?_, rfl, id, ?_⟩
      · show accounts old.uid = some account
        rw [huid old hold hsame, haccount]
      · rcases hname with hname | rfl
        · exact Or.inl hname.symm
        · exact Or.inr (Or.inr rfl)
    · rw [if_neg hsame]
      exact ⟨hobject, account', haccount', hknows⟩
  object j request ref' hrequest href := by
    obtain ⟨hobject, huid'⟩ := h.object j request ref' hrequest href
    refine ⟨hobject, fun user huser hsame' => ?_⟩
    obtain ⟨old, hold, rfl⟩ := Option.map_eq_some_iff.mp huser
    by_cases hsame : old.object = ref.object
    · rw [if_pos hsame] at hsame' ⊢
      exact huid' old hold hsame'
    · rw [if_neg hsame] at hsame' ⊢
      exact huid' old hold hsame'
  pending := h.pending

lemma setRequest_setRequest (request request' : Option Request) :
    (client.setRequest i request).setRequest i request' = client.setRequest i request' := by
  unfold setRequest
  rw [Function.update_idem]

/-- The session stays that of the same user object. -/
lemma of_currentUser_commitChanges {ref : UserRef} {name : String} {account : Account} {user : User}
    (h : (client.commitChanges ref name account).currentUser = some user) :
    ∃ old, client.currentUser = some old ∧ user.object = old.object ∧ user.uid = old.uid := by
  obtain ⟨old, hold, rfl⟩ := Option.map_eq_some_iff.mp h
  refine ⟨old, hold, ?_⟩
  split <;> exact ⟨rfl, rfl⟩

/-- A sign-up of the client is about the account of a user. -/
def SignsUp (client : Client) (i : ℕ) (ref : UserRef) : Prop :=
  ∃ request, client.request i = some request ∧ request.stage.ref? = some ref

lemma signsUp_setRequest_none {j : ℕ} {ref : UserRef}
    (h : (client.setRequest i none).SignsUp j ref) : j ≠ i ∧ client.SignsUp j ref := by
  obtain ⟨request, hrequest, href⟩ := h
  rw [request_setRequest] at hrequest
  split at hrequest
  · cases hrequest
  · rename_i hj
    exact ⟨hj, request, hrequest, href⟩

lemma signsUp_setRequest_some {j : ℕ} {ref : UserRef} {request : Request}
    (h : (client.setRequest i (some request)).SignsUp j ref) :
    (j = i ∧ request.stage.ref? = some ref) ∨ client.SignsUp j ref := by
  obtain ⟨request', hrequest, href⟩ := h
  rw [request_setRequest] at hrequest
  split at hrequest
  · rename_i hj
    obtain rfl := Option.some.inj hrequest
    exact Or.inl ⟨hj, href⟩
  · exact Or.inr ⟨request', hrequest, href⟩

lemma ref?_of_next? {stage next : Stage} (h : stage.next? = some next) :
    next.ref? = stage.ref? ∧ next.unnamed = stage.unnamed := by
  cases stage with
  | createdUser user name =>
      obtain rfl := Option.some.inj h
      exact ⟨rfl, rfl⟩
  | committedChanges user =>
      obtain rfl := Option.some.inj h
      exact ⟨rfl, rfl⟩
  | _ => cases h

end Client

/-! ## All clients -/

variable {ι : Type*} [DecidableEq ι]

structure AccountInvariant (world : World ι) : Prop where
  client : ∀ c, (world.client c).Sound world.server.accounts
  /-- No two sign-ups are about one account. -/
  unique : ∀ c i ref c' i' ref', (world.client c).SignsUp i ref →
    (world.client c').SignsUp i' ref' → ref.uid = ref'.uid → c = c' ∧ i = i'
  record : ∀ uid record, world.server.userInfos.lookup uid = some record →
    ∃ account user, world.server.accounts uid = some account ∧
      record = Server.userRecord user ∧ user.Knows account
  mailed : ∀ uid account, world.server.accounts uid = some account →
    account.isEmailVerified = true → account.mailSent = true

omit [DecidableEq ι] in
lemma accountInvariant_start : AccountInvariant (World.start : World ι) where
  client _ := Client.sound_install _
  unique := by
    rintro c i ref c' i' ref' ⟨request, hrequest, -⟩
    cases hrequest
  record := nofun
  mailed := nofun

variable {world world' : World ι} {c : ι} {server' : Server} {client' : Client} {e : WorldEvent ι}

omit [DecidableEq ι] in
lemma AccountInvariant.pending (h : AccountInvariant world) {i : ℕ} {ref : UserRef}
    (hsign : (world.client c).SignsUp i ref) :
    ∃ account, world.server.accounts ref.uid = some account ∧ account.mailSent = false := by
  obtain ⟨request, hrequest, href⟩ := hsign
  obtain ⟨account, haccount, hmail, -⟩ := (h.client c).pending i request ref hrequest href
  exact ⟨account, haccount, hmail⟩

/-- What one client has to respect for all to go well. -/
lemma AccountInvariant.update (h : AccountInvariant world) (i₀ : ℕ)
    (hgrow : AccountsGrow world.server.accounts server'.accounts)
    (hclient : client'.Sound server'.accounts)
    (hothers : ∀ c' i ref, c' ≠ c → (world.client c').SignsUp i ref →
      server'.accounts ref.uid = world.server.accounts ref.uid)
    (hsign : ∀ i ref, client'.SignsUp i ref → (world.client c).SignsUp i ref ∨
      (i = i₀ ∧ world.server.accounts ref.uid = none))
    (hrecord : ∀ uid record, server'.userInfos.lookup uid = some record →
      world.server.userInfos.lookup uid = some record ∨ ∃ account user,
        server'.accounts uid = some account ∧ record = Server.userRecord user ∧ user.Knows account)
    (hmailed : ∀ uid account, server'.accounts uid = some account →
      account.isEmailVerified = true → account.mailSent = true) :
    AccountInvariant ⟨server', Function.update world.client c client'⟩ where
  client c' := by
    dsimp only
    rw [Function.update_apply]
    split
    · exact hclient
    · rename_i hc
      exact (h.client c').mono hgrow fun i request ref hrequest href =>
        hothers c' i ref hc ⟨request, hrequest, href⟩
  unique c₁ i₁ ref₁ c₂ i₂ ref₂ := by
    dsimp only
    rw [Function.update_apply, Function.update_apply]
    have hnew : ∀ {c' i} {ref ref' : UserRef}, world.server.accounts ref.uid = none →
        (world.client c').SignsUp i ref' → ref.uid ≠ ref'.uid := by
      intro c' i ref ref' hnone hold huid
      obtain ⟨account, haccount, -⟩ := h.pending hold
      rw [← huid, hnone] at haccount
      cases haccount
    intro h₁ h₂ huid
    split at h₁ <;> split at h₂
    · rename_i hc₁ hc₂
      rcases hsign i₁ ref₁ h₁ with hold₁ | ⟨rfl, hnone₁⟩ <;>
        rcases hsign i₂ ref₂ h₂ with hold₂ | ⟨rfl, hnone₂⟩
      · exact ⟨hc₁.trans hc₂.symm, (h.unique c i₁ ref₁ c i₂ ref₂ hold₁ hold₂ huid).2⟩
      · exact absurd huid.symm (hnew hnone₂ hold₁)
      · exact absurd huid (hnew hnone₁ hold₂)
      · exact ⟨hc₁.trans hc₂.symm, rfl⟩
    · rename_i hc₁ hc₂
      rcases hsign i₁ ref₁ h₁ with hold₁ | ⟨-, hnone₁⟩
      · exact absurd (h.unique c i₁ ref₁ c₂ i₂ ref₂ hold₁ h₂ huid).1.symm hc₂
      · exact absurd huid (hnew hnone₁ h₂)
    · rename_i hc₁ hc₂
      rcases hsign i₂ ref₂ h₂ with hold₂ | ⟨-, hnone₂⟩
      · exact absurd (h.unique c₁ i₁ ref₁ c i₂ ref₂ h₁ hold₂ huid).1 hc₁
      · exact absurd huid.symm (hnew hnone₂ h₁)
    · exact h.unique c₁ i₁ ref₁ c₂ i₂ ref₂ h₁ h₂ huid
  record uid record hlookup := by
    rcases hrecord uid record hlookup with hold | hnew
    · obtain ⟨account, user, haccount, hsame, hknows⟩ := h.record uid record hold
      obtain ⟨account', haccount', hgrows⟩ := hgrow uid account haccount
      exact ⟨account', user, haccount', hsame, hknows.mono hgrows⟩
    · exact hnew
  mailed := hmailed

lemma setAccount_accounts {server : Server} {uid other : String} {account : Account} :
    (server.setAccount uid account).accounts other =
      if other = uid then some account else server.accounts other := Function.update_apply ..

omit [DecidableEq ι] in
lemma AccountInvariant.mailed_setAccount (h : AccountInvariant world) {uid : String}
    {account : Account} (hmail : account.isEmailVerified = true → account.mailSent = true)
    (other : String) (found : Account)
    (hfound : (world.server.setAccount uid account).accounts other = some found)
    (hverified : found.isEmailVerified = true) : found.mailSent = true := by
  rw [setAccount_accounts] at hfound
  split at hfound
  · obtain rfl := Option.some.inj hfound
    exact hmail hverified
  · exact h.mailed other found hfound hverified

/-! ### What one client does -/

/-- A new account is one that nobody knows yet. -/
lemma AccountInvariant.created (h : AccountInvariant world) (i scene : ℕ) (name email uid : String)
    (displayName : Option String) (hnone : world.server.accounts uid = none)
    (hblank : Blank displayName) :
    AccountInvariant ⟨world.server.setAccount uid ⟨displayName, some email, false, false⟩,
      Function.update world.client c
        (((world.client c).setCurrentUser uid ⟨displayName, some email, false, false⟩).setRequest i
          (some ⟨scene, .createdUser ⟨(world.client c).objects, uid⟩ name⟩))⟩ := by
  have hgrow : AccountsGrow world.server.accounts
      (world.server.setAccount uid ⟨displayName, some email, false, false⟩).accounts :=
    accountsGrow_created hnone
  have hsame : ∀ c' i ref, (world.client c').SignsUp i ref →
      (world.server.setAccount uid ⟨displayName, some email, false, false⟩).accounts ref.uid =
        world.server.accounts ref.uid := by
    intro c' i ref hsign
    obtain ⟨account, haccount, -⟩ := h.pending hsign
    rw [setAccount_accounts, if_neg]
    intro huid
    rw [huid, hnone] at haccount
    cases haccount
  have hnew : (world.server.setAccount uid
      ⟨displayName, some email, false, false⟩).accounts uid =
        some ⟨displayName, some email, false, false⟩ := Function.update_self ..
  refine h.update i hgrow ?_ (fun c' i ref _ hsign => hsame c' i ref hsign) ?_
    (fun _ _ hlookup => Or.inl hlookup) (h.mailed_setAccount nofun)
  · have hold := (h.client c).mono hgrow fun i request ref hrequest href =>
      hsame c i ref ⟨request, hrequest, href⟩
    refine (hold.setCurrentUser hnew).setRequest_some fun ref href => ?_
    obtain rfl := Option.some.inj href
    refine ⟨⟨Nat.lt_succ_self _, fun user huser _ => ?_⟩, _, hnew, rfl, fun _ => hblank⟩
    obtain rfl := Option.some.inj huser
    rfl
  · intro j ref hsign
    rcases Client.signsUp_setRequest_some hsign with ⟨rfl, href⟩ | hold
    · obtain rfl := Option.some.inj href
      exact Or.inr ⟨rfl, hnone⟩
    · exact Or.inl hold

/-- A sign-up changes its account, and nobody else's sign-up is about that account. -/
lemma AccountInvariant.setAccount (h : AccountInvariant world) {i : ℕ} {ref : UserRef}
    {account account' : Account} (hsign : (world.client c).SignsUp i ref)
    (haccount : world.server.accounts ref.uid = some account) (hgrows : account.Grows account')
    (hmail : account'.isEmailVerified = true → account'.mailSent = true)
    (hclient : ((world.client c).setRequest i none).Sound
      (world.server.setAccount ref.uid account').accounts →
        client'.Sound (world.server.setAccount ref.uid account').accounts)
    (hsub : ∀ j ref', client'.SignsUp j ref' → (world.client c).SignsUp j ref') :
    AccountInvariant ⟨world.server.setAccount ref.uid account',
      Function.update world.client c client'⟩ := by
  have hgrow : AccountsGrow world.server.accounts
      (world.server.setAccount ref.uid account').accounts := accountsGrow_changed haccount hgrows
  refine h.update 0 hgrow ?_ ?_ (fun j ref' hsign' => Or.inl (hsub j ref' hsign'))
    (fun _ _ hlookup => Or.inl hlookup) (h.mailed_setAccount hmail)
  · refine hclient (((h.client c).setRequest_none i).mono hgrow ?_)
    intro j request ref' hrequest href
    obtain ⟨hj, hold⟩ := Client.signsUp_setRequest_none ⟨request, hrequest, href⟩
    rw [setAccount_accounts, if_neg]
    intro huid
    exact hj (h.unique c j ref' c i ref hold hsign huid).2
  · intro c' j ref' hc hsign'
    rw [setAccount_accounts, if_neg]
    intro huid
    exact hc (h.unique c' j ref' c i ref hsign' hsign huid).1

/-- The accounts stay as they are. -/
lemma AccountInvariant.update_client (h : AccountInvariant world)
    (haccounts : server'.accounts = world.server.accounts)
    (hclient : client'.Sound world.server.accounts)
    (hsub : ∀ j ref, client'.SignsUp j ref → (world.client c).SignsUp j ref)
    (hrecord : ∀ uid record, server'.userInfos.lookup uid = some record →
      world.server.userInfos.lookup uid = some record ∨ ∃ account user,
        world.server.accounts uid = some account ∧ record = Server.userRecord user ∧
          user.Knows account) :
    AccountInvariant ⟨server', Function.update world.client c client'⟩ := by
  refine h.update 0 ?_ ?_ ?_ (fun j ref hsign => Or.inl (hsub j ref hsign)) ?_ ?_
  · rw [haccounts]
    exact accountsGrow_refl _
  · rw [haccounts]
    exact hclient
  · intro c' j ref _ _
    rw [haccounts]
  · rw [haccounts]
    exact hrecord
  · rw [haccounts]
    exact h.mailed

lemma signsUp_setRequest {client : Client} {i : ℕ} {request request' : Request}
    (hrequest : client.request i = some request)
    (href : ∀ ref, request'.stage.ref? = some ref → request.stage.ref? = some ref) {j : ℕ}
    {ref : UserRef} (h : (client.setRequest i (some request')).SignsUp j ref) :
    client.SignsUp j ref := by
  rcases Client.signsUp_setRequest_some h with ⟨rfl, hnew⟩ | hold
  · exact ⟨request, hrequest, href ref hnew⟩
  · exact hold

lemma AccountInvariant.committed (h : AccountInvariant world) {i scene : ℕ} {user : UserRef}
    {name : String} {account : Account} {stored : Option String}
    (hrequest : (world.client c).request i = some ⟨scene, .commitChanges user name⟩)
    (haccount : world.server.accounts user.uid = some account)
    (hstored : stored = some name ∨ (name = "" ∧ stored = none)) :
    AccountInvariant ⟨world.server.setAccount user.uid { account with displayName := stored },
      Function.update world.client c (((world.client c).commitChanges user name
        { account with displayName := stored }).setRequest i
          (some ⟨scene, .committedChanges user⟩))⟩ := by
  have hsign : (world.client c).SignsUp i user := ⟨_, hrequest, rfl⟩
  obtain ⟨_, haccount', hmail, hblank⟩ := (h.client c).pending i _ user hrequest rfl
  rw [haccount] at haccount'
  obtain rfl := Option.some.inj haccount'
  obtain ⟨hobject, huid⟩ := (h.client c).object i _ user hrequest rfl
  have hnew : (world.server.setAccount user.uid
      { account with displayName := stored }).accounts user.uid =
        some { account with displayName := stored } := Function.update_self ..
  refine h.setAccount hsign haccount ⟨rfl, id, Or.inr (hblank rfl)⟩
    (h.mailed user.uid account haccount) (fun hrest => ?_) fun j ref hnew => ?_
  · have hcommit := hrest.commitChanges hnew huid (hstored.imp_right And.left)
    rw [← Client.setRequest_setRequest none]
    refine Client.Sound.setRequest_some hcommit fun ref href => ?_
    obtain rfl := Option.some.inj href
    refine ⟨⟨hobject, fun found hfound hsame => ?_⟩, _, hnew, hmail, nofun⟩
    obtain ⟨old, hold, hobject', huid'⟩ := Client.of_currentUser_commitChanges hfound
    exact huid'.trans (huid old hold (hobject'.symm.trans hsame))
  · have hsame : ((world.client c).setRequest i
        (some ⟨scene, .committedChanges user⟩)).SignsUp j ref := hnew
    exact signsUp_setRequest hrequest (fun _ href => by exact href) hsame

lemma AccountInvariant.mailed_of (h : AccountInvariant world) {i scene : ℕ} {user : UserRef}
    {account : Account}
    (hrequest : (world.client c).request i = some ⟨scene, .sendEmailVerification user⟩)
    (haccount : world.server.accounts user.uid = some account) :
    AccountInvariant ⟨world.server.setAccount user.uid { account with mailSent := true },
      Function.update world.client c
        ((world.client c).setRequest i (some ⟨scene, .sentEmailVerification⟩))⟩ := by
  have hsign : (world.client c).SignsUp i user := ⟨_, hrequest, rfl⟩
  refine h.setAccount hsign haccount ⟨rfl, id, Or.inl rfl⟩ (fun _ => rfl) (fun hrest => ?_)
    fun j ref hnew => ?_
  · rw [← Client.setRequest_setRequest none]
    exact hrest.setRequest_some nofun
  · exact signsUp_setRequest hrequest (fun _ href => by cases href) hnew

/-- **The step lemma for one client.** -/
lemma AccountInvariant.of_outcome (h : AccountInvariant world) {e : ClientEvent}
    (hstep : Client.Outcome world.server (world.client c) e server' client') :
    AccountInvariant ⟨server', Function.update world.client c client'⟩ := by
  cases hstep with
  | created i scene name email uid displayName hrequest hnone hblank =>
      exact h.created i scene name email uid displayName hnone hblank
  | committed i scene user name account stored hrequest haccount hstored =>
      exact h.committed hrequest haccount hstored
  | mailed i scene user account hrequest haccount => exact h.mailed_of hrequest haccount
  | signedIn i scene uid account hrequest haccount =>
      refine h.update_client rfl ?_ (fun j ref hnew => ?_) fun _ _ hlookup => Or.inl hlookup
      · exact ((h.client c).setCurrentUser haccount).setRequest_some nofun
      · have hsame : ((world.client c).setRequest i (some ⟨scene, .signedIn⟩)).SignsUp j ref :=
          hnew
        exact signsUp_setRequest hrequest (fun _ href => by cases href) hsame
  | moved i request stage hrequest hnext =>
      obtain ⟨href, hunnamed⟩ := Client.ref?_of_next? hnext
      refine h.update_client rfl ?_ (fun j ref hnew => ?_) fun _ _ hlookup => Or.inl hlookup
      · refine (h.client c).setRequest_some fun ref href' => ?_
        dsimp only at href' ⊢
        rw [href] at href'
        rw [hunnamed]
        exact ⟨(h.client c).object i request ref hrequest href',
          (h.client c).pending i request ref hrequest href'⟩
      · exact signsUp_setRequest hrequest (fun ref href' => href ▸ href') hnew
  | saved i request user hrequest hstage huser =>
      refine h.update_client rfl ((h.client c).setRequest_none i)
        (fun j ref hnew => (Client.signsUp_setRequest_none hnew).2) fun uid record hlookup => ?_
      unfold Server.setUserInfo at hlookup
      dsimp only at hlookup
      by_cases huid : uid = user.uid
      · subst huid
        rw [AList.lookup_insert] at hlookup
        obtain ⟨-, account, haccount, hknows⟩ := (h.client c).session user huser
        exact Or.inr ⟨account, user, haccount, (Option.some.inj hlookup).symm, hknows⟩
      · rw [AList.lookup_insert_ne huid] at hlookup
        exact Or.inl hlookup
  | quiet _ _ _ he hkeeps =>
      refine h.update_client hkeeps.accounts ((h.client c).of_keeps hkeeps) (fun j ref hnew => ?_)
        fun uid record hlookup => Or.inl (hkeeps.userInfos ▸ hlookup)
      obtain ⟨request, hrequest, href⟩ := hnew
      rcases hkeeps.request_or hrequest with hold | hnone
      · exact ⟨request, hold, href⟩
      · rw [hnone] at href
        cases href

/-- **The step lemma.** -/
lemma AccountInvariant.step (h : AccountInvariant world)
    (hstep : World.step world e = some world') : AccountInvariant world' := by
  cases e with
  | client c e =>
      obtain ⟨⟨server, client⟩, hclient, rfl⟩ := Option.map_eq_some_iff.mp hstep
      exact h.of_outcome (Client.outcome_of_step hclient)
  | verify uid =>
      simp only [World.step] at hstep
      split at hstep
      · rename_i account haccount
        obtain ⟨hsent, heq⟩ := Option.ite_none_right_eq_some.mp hstep
        obtain rfl := Option.some.inj heq
        have hgrow : AccountsGrow world.server.accounts
            (world.server.setAccount uid { account with isEmailVerified := true }).accounts :=
          accountsGrow_changed haccount ⟨rfl, fun _ => rfl, Or.inl rfl⟩
        refine ⟨fun c => (h.client c).mono hgrow ?_, h.unique, ?_,
          h.mailed_setAccount fun _ => hsent⟩
        · intro i request ref hrequest href
          -- the account of a sign-up has had no mail yet
          obtain ⟨found, hfound, hmail⟩ := h.pending ⟨request, hrequest, href⟩
          rw [setAccount_accounts, if_neg]
          intro huid
          rw [huid, haccount] at hfound
          obtain rfl := Option.some.inj hfound
          rw [hsent] at hmail
          cases hmail
        · intro other record hlookup
          obtain ⟨found, user, hfound, hsame, hknows⟩ := h.record other record hlookup
          obtain ⟨found', hfound', hgrows⟩ := hgrow other found hfound
          exact ⟨found', user, hfound', hsame, hknows.mono hgrows⟩
      · cases hstep

/-- Accounts only grow. -/
lemma AccountInvariant.accountsGrow (h : AccountInvariant world)
    (hstep : World.step world e = some world') :
    AccountsGrow world.server.accounts world'.server.accounts := by
  cases e with
  | client c e =>
      obtain ⟨⟨server, client⟩, hclient, rfl⟩ := Option.map_eq_some_iff.mp hstep
      cases Client.outcome_of_step hclient with
      | created i scene name email uid displayName hrequest hnone hblank =>
          exact accountsGrow_created hnone
      | committed i scene user name account stored hrequest haccount hstored =>
          obtain ⟨found, hfound, -, hblank⟩ := (h.client c).pending i _ user hrequest rfl
          obtain rfl := Option.some.inj (hfound.symm.trans haccount)
          exact accountsGrow_changed haccount ⟨rfl, id, Or.inr (hblank rfl)⟩
      | mailed i scene user account hrequest haccount =>
          exact accountsGrow_changed haccount ⟨rfl, id, Or.inl rfl⟩
      | signedIn | moved | saved => exact accountsGrow_refl _
      | quiet _ _ _ he hkeeps =>
          dsimp only
          rw [hkeeps.accounts]
          exact accountsGrow_refl _
  | verify uid =>
      simp only [World.step] at hstep
      split at hstep
      · rename_i account haccount
        obtain ⟨-, heq⟩ := Option.ite_none_right_eq_some.mp hstep
        obtain rfl := Option.some.inj heq
        exact accountsGrow_changed haccount ⟨rfl, fun _ => rfl, Or.inl rfl⟩
      · cases hstep

lemma accountInvariant_of_run {tr : List (WorldEvent ι)}
    (h : run World.step World.start tr = some world) : AccountInvariant world :=
  run_invariant accountInvariant_start (fun _ _ _ hs he => hs.step he) h

/-! ## What the records and the sessions say -/

/-- **No owner appears under a false name.**  Whatever sign-ups, sign-ins, restarts and late
replies of any number of clients have written a record, a name and an email that the online list
reads for a user are those of the user's account; only the name may be empty instead. -/
theorem userInfo_true (tr : List (WorldEvent ι)) (world : World ι)
    (h : run World.step World.start tr = some world) (uid : String) (userInfo : SimpleUserInfo)
    (huserInfo : world.server.userInfo uid = some userInfo) :
    ∃ account, world.server.accounts uid = some account ∧ account.email = some userInfo.email ∧
      (account.displayName = some userInfo.name ∨ userInfo.name = "") := by
  obtain ⟨record, hlookup, hread⟩ := Option.bind_eq_some_iff.mp huserInfo
  obtain ⟨account, user, haccount, rfl, hknows⟩ :=
    (accountInvariant_of_run h).record uid record hlookup
  obtain ⟨hemail, hname⟩ := hknows.shows hread
  exact ⟨account, haccount, hemail, hname⟩

/-- **A session is never ahead of the server.**  The user of a session has an account with the same
email; a session that counts as verified is one of a verified account, to which a mail was sent;
and while a sign-up has not sent the mail, no session of its account counts as verified. -/
theorem session_behind_server (tr : List (WorldEvent ι)) (world : World ι)
    (h : run World.step World.start tr = some world) (c : ι) (user : User)
    (huser : (world.client c).currentUser = some user) :
    ∃ account, world.server.accounts user.uid = some account ∧ user.email = account.email ∧
      (user.isEmailVerified = true →
        account.isEmailVerified = true ∧ account.mailSent = true ∧
          ∀ c' i ref, (world.client c').SignsUp i ref → ref.uid ≠ user.uid) := by
  have hinv := accountInvariant_of_run h
  obtain ⟨-, account, haccount, hknows⟩ := (hinv.client c).session user huser
  refine ⟨account, haccount, hknows.email, fun hverified => ?_⟩
  have hmail := hinv.mailed user.uid account haccount (hknows.verified hverified)
  refine ⟨hknows.verified hverified, hmail, fun c' i ref hsign huid => ?_⟩
  obtain ⟨found, hfound, hnot⟩ := hinv.pending hsign
  rw [huid, haccount] at hfound
  obtain rfl := Option.some.inj hfound
  rw [hmail] at hnot
  cases hnot

/-- A client signs up, another one signs in to the account before it has a name, and both write
the record; then the user is verified and the first one signs in again. -/
def sharedAccount : List (WorldEvent Bool) :=
  [.client true .moveAuthScene, .client true (.singUp "User" "user@example.com"),
    .client true (.createUserSucceeds 0 "user" none), .client true (.callback 0),
    .client false .moveAuthScene, .client false .signIn, .client false (.signInSucceeds 0 "user"),
    .client true (.commitChangesSucceeds 0 (some "User")), .client true (.callback 0),
    .client true (.sendEmailVerificationSucceeds 0), .client false (.callback 0),
    .client true (.callback 0), .verify "user", .client true .signIn,
    .client true (.signInSucceeds 1 "user"), .client true (.callback 1)]

theorem userInfo_true_sharedAccount :
    ∃ world, run World.step World.start sharedAccount = some world ∧
      ∃ account, world.server.accounts "user" = some account ∧
        account.email = some "user@example.com" ∧
          (account.displayName = some "User" ∨ "User" = "") :=
  ⟨_, rfl, userInfo_true sharedAccount _ rfl "user" ⟨"User", "user@example.com"⟩
    (by decide)⟩

theorem session_behind_server_sharedAccount :
    ∃ world, run World.step World.start sharedAccount = some world ∧
      ∃ account, world.server.accounts "user" = some account ∧
        some "user@example.com" = account.email ∧
          (true = true → account.isEmailVerified = true ∧ account.mailSent = true ∧
            ∀ c' i ref, (world.client c').SignsUp i ref → ref.uid ≠ "user") :=
  ⟨_, rfl, session_behind_server sharedAccount _ rfl true
    ⟨1, "user", some "User", some "user@example.com", true⟩ rfl⟩

/-! ## The history of an account -/

/-- What may happen to an account on the server. -/
inductive AccountEvent
  | created
  | committed
  | mailed
  | verified
  deriving DecidableEq, Repr

/-- What an event does to the account of a user. -/
def accountEvent? (uid : String) (world : World ι) : WorldEvent ι → Option AccountEvent
  | .client _ (.createUserSucceeds _ uid' _) => if uid' = uid then some .created else none
  | .client c (.commitChangesSucceeds i _) =>
      match (world.client c).request i with
      | some ⟨_, .commitChanges user _⟩ => if user.uid = uid then some .committed else none
      | _ => none
  | .client c (.sendEmailVerificationSucceeds i) =>
      match (world.client c).request i with
      | some ⟨_, .sendEmailVerification user⟩ => if user.uid = uid then some .mailed else none
      | _ => none
  | .verify uid' => if uid' = uid then some .verified else none
  | _ => none

/-- What has happened to the account of a user in a run. -/
def accountLife (uid : String) (tr : List (WorldEvent ι)) : List AccountEvent :=
  (steps World.step World.start tr).filterMap fun x => accountEvent? uid x.1 x.2

/-- All sign-ups that are still about the account are at the same point. -/
def SignUpsAre (uid : String) (world : World ι) (unnamed : Bool) : Prop :=
  ∀ c i request ref, (world.client c).request i = some request →
    request.stage.ref? = some ref → ref.uid = uid → request.stage.unnamed = unnamed

/-- The account, as its history so far tells. -/
inductive LifeState (uid : String) (world : World ι) : List AccountEvent → Prop
  | unborn (hnone : world.server.accounts uid = none) : LifeState uid world []
  | created (account : Account) (haccount : world.server.accounts uid = some account)
      (hmail : account.mailSent = false) (hsign : SignUpsAre uid world true) :
      LifeState uid world [.created]
  | committed (account : Account) (haccount : world.server.accounts uid = some account)
      (hmail : account.mailSent = false) (hsign : SignUpsAre uid world false) :
      LifeState uid world [.created, .committed]
  | mailed (account : Account) (n : ℕ) (haccount : world.server.accounts uid = some account)
      (hmail : account.mailSent = true) (hverified : account.isEmailVerified = true ↔ n ≠ 0) :
      LifeState uid world ([.created, .committed, .mailed] ++ List.replicate n .verified)

variable {uid : String} {life : List AccountEvent}

lemma signUpsAre_update {unnamed : Bool} (hsign : SignUpsAre uid world unnamed)
    (hclient : ∀ i request ref, client'.request i = some request →
      request.stage.ref? = some ref → ref.uid = uid → ∃ old, (world.client c).request i = some old ∧
        old.stage.ref? = some ref ∧ old.stage.unnamed = request.stage.unnamed) :
    SignUpsAre uid ⟨server', Function.update world.client c client'⟩ unnamed := by
  intro c' i request ref hrequest href huid
  dsimp only at hrequest
  rw [Function.update_apply] at hrequest
  split at hrequest
  · obtain ⟨old, hold, href', hunnamed⟩ := hclient i request ref hrequest href huid
    rw [← hunnamed]
    exact hsign c i old ref hold href' huid
  · exact hsign c' i request ref hrequest href huid

/-- An event that is not about the account. -/
lemma LifeState.update (h : LifeState uid world life)
    (haccounts : server'.accounts uid = world.server.accounts uid)
    (hclient : ∀ i request ref, client'.request i = some request →
      request.stage.ref? = some ref → ref.uid = uid → ∃ old, (world.client c).request i = some old ∧
        old.stage.ref? = some ref ∧ old.stage.unnamed = request.stage.unnamed) :
    LifeState uid ⟨server', Function.update world.client c client'⟩ life := by
  cases h with
  | unborn hnone => exact .unborn (haccounts.trans hnone)
  | created account haccount hmail hsign =>
      exact .created account (haccounts.trans haccount) hmail (signUpsAre_update hsign hclient)
  | committed account haccount hmail hsign =>
      exact .committed account (haccounts.trans haccount) hmail (signUpsAre_update hsign hclient)
  | mailed account n haccount hmail hverified =>
      exact .mailed account n (haccounts.trans haccount) hmail hverified

/-- A request that is replaced by one that is not about the account. -/
lemma request_of_setRequest (client : Client) {i : ℕ} {new : Option Request}
    (hnew : ∀ request, new = some request → ∀ ref, request.stage.ref? = some ref → ref.uid ≠ uid)
    {j : ℕ} {request : Request} {ref : UserRef}
    (hrequest : (client.setRequest i new).request j = some request)
    (href : request.stage.ref? = some ref) (huid : ref.uid = uid) :
    ∃ old, client.request j = some old ∧ old.stage.ref? = some ref ∧
      old.stage.unnamed = request.stage.unnamed := by
  rw [Client.request_setRequest] at hrequest
  split at hrequest
  · exact absurd huid (hnew request hrequest ref href)
  · exact ⟨request, hrequest, href, rfl⟩

/-- The client that a sign-up belongs to changes nothing else of the account's sign-ups. -/
lemma signUpsAre_of_unique (h : AccountInvariant world) {i : ℕ} {ref : UserRef}
    (hsign : (world.client c).SignsUp i ref) {unnamed : Bool}
    (hclient : ∀ j request ref', client'.request j = some request →
      request.stage.ref? = some ref' → if j = i then request.stage.unnamed = unnamed else
        (world.client c).SignsUp j ref') :
    SignUpsAre ref.uid ⟨server', Function.update world.client c client'⟩ unnamed := by
  intro c' j request ref' hrequest href huid
  dsimp only at hrequest
  rw [Function.update_apply] at hrequest
  split at hrequest
  · have hnew := hclient j request ref' hrequest href
    split at hnew
    · exact hnew
    · rename_i hj
      exact absurd (h.unique c j ref' c i ref hnew hsign huid).2 hj
  · rename_i hc
    exact absurd (h.unique c' j ref' c i ref ⟨request, hrequest, href⟩ hsign huid).1 hc

omit [DecidableEq ι] in
/-- While a sign-up is about the account, its history tells how far the sign-up is. -/
lemma LifeState.of_signsUp (h : LifeState uid world life) (hinv : AccountInvariant world) {i : ℕ}
    {request : Request} {ref : UserRef} (hrequest : (world.client c).request i = some request)
    (href : request.stage.ref? = some ref) (huid : ref.uid = uid) :
    life = if request.stage.unnamed then [.created] else [.created, .committed] := by
  obtain ⟨found, hfound, hmail, -⟩ := (hinv.client c).pending i request ref hrequest href
  rw [huid] at hfound
  cases h with
  | unborn hnone =>
      rw [hnone] at hfound
      cases hfound
  | created _ _ _ hsign => rw [if_pos (hsign c i request ref hrequest href huid)]
  | committed _ _ _ hsign =>
      rw [if_neg (ne_true_of_eq_false (hsign c i request ref hrequest href huid))]
  | mailed account n haccount hsent =>
      rw [haccount] at hfound
      obtain rfl := Option.some.inj hfound
      rw [hsent] at hmail
      cases hmail

/-- **The step lemma of an account's history**, for one client. -/
lemma LifeState.of_outcome (h : LifeState uid world life) (hinv : AccountInvariant world)
    {e : ClientEvent} (hstep : Client.Outcome world.server (world.client c) e server' client') :
    LifeState uid ⟨server', Function.update world.client c client'⟩
      (life ++ (accountEvent? uid world (.client c e)).toList) := by
  cases hstep with
  | created i scene name email new displayName hrequest hnone hblank =>
      by_cases hnew : new = uid
      · subst hnew
        cases h with
        | unborn =>
            show LifeState new _ ([] ++ (if new = new then some AccountEvent.created
              else none).toList)
            rw [if_pos rfl]
            refine .created _ (Function.update_self ..) rfl ?_
            intro c' j request' ref hrequest' href huid
            -- no sign-up was about the account before
            have hold : ¬ (world.client c').SignsUp j ref := by
              intro hsign
              obtain ⟨account, haccount, -⟩ := hinv.pending hsign
              rw [huid, hnone] at haccount
              cases haccount
            dsimp only at hrequest'
            rw [Function.update_apply] at hrequest'
            split at hrequest'
            · rename_i hc
              subst hc
              rw [Client.request_setRequest] at hrequest'
              split at hrequest'
              · obtain rfl := Option.some.inj hrequest'
                rfl
              · exact absurd ⟨request', hrequest', href⟩ hold
            · exact absurd ⟨request', hrequest', href⟩ hold
        | created account haccount | committed account haccount | mailed account n haccount =>
            rw [haccount] at hnone
            cases hnone
      · show LifeState uid _ (life ++ (if new = uid then some AccountEvent.created
          else none).toList)
        rw [if_neg hnew, Option.toList_none, List.append_nil]
        refine h.update (Function.update_of_ne (Ne.symm hnew) ..) fun j request' ref hj href huid =>
          request_of_setRequest ((world.client c).setCurrentUser new _) ?_ hj href huid
        intro request' heq ref' href'
        obtain rfl := Option.some.inj heq
        obtain rfl := Option.some.inj href'
        exact hnew
  | committed i scene user name account stored hrequest haccount hstored =>
      have hevent : accountEvent? uid world (.client c (.commitChangesSucceeds i stored)) =
          if user.uid = uid then some .committed else none := by
        simp only [accountEvent?, hrequest]
      rw [hevent]
      by_cases huid : user.uid = uid
      · subst huid
        obtain ⟨_, hfound, hmail, -⟩ := (hinv.client c).pending i _ user hrequest rfl
        rw [haccount] at hfound
        obtain rfl := Option.some.inj hfound
        obtain rfl := h.of_signsUp hinv hrequest rfl rfl
        rw [if_pos rfl]
        refine .committed _ (Function.update_self ..) hmail ?_
        refine signUpsAre_of_unique hinv ⟨_, hrequest, rfl⟩ fun j request ref hj href => ?_
        rw [Client.request_setRequest] at hj
        split
        · rw [if_pos (by assumption)] at hj
          obtain rfl := Option.some.inj hj
          rfl
        · rw [if_neg (by assumption)] at hj
          exact ⟨request, hj, href⟩
      · rw [if_neg huid, Option.toList_none, List.append_nil]
        refine h.update (Function.update_of_ne (Ne.symm huid) ..) fun j request ref hj href hsame =>
          request_of_setRequest ((world.client c).commitChanges user name _) ?_ hj href
            hsame
        intro request' heq ref' href'
        obtain rfl := Option.some.inj heq
        obtain rfl := Option.some.inj href'
        exact huid
  | mailed i scene user account hrequest haccount =>
      have hevent : accountEvent? uid world (.client c (.sendEmailVerificationSucceeds i)) =
          if user.uid = uid then some .mailed else none := by
        simp only [accountEvent?, hrequest]
      rw [hevent]
      by_cases huid : user.uid = uid
      · subst huid
        obtain rfl := h.of_signsUp hinv hrequest rfl rfl
        obtain ⟨_, hfound, hmail, -⟩ := (hinv.client c).pending i _ user hrequest rfl
        rw [haccount] at hfound
        obtain rfl := Option.some.inj hfound
        rw [if_pos rfl]
        refine .mailed _ 0 (Function.update_self ..) rfl (iff_of_false (fun hverified => ?_) ?_)
        · rw [hinv.mailed user.uid account haccount hverified] at hmail
          cases hmail
        · exact not_not_intro rfl
      · rw [if_neg huid, Option.toList_none, List.append_nil]
        refine h.update (Function.update_of_ne (Ne.symm huid) ..) fun j request ref hj href hsame =>
          request_of_setRequest (world.client c) ?_ hj href hsame
        intro request' heq ref' href'
        obtain rfl := Option.some.inj heq
        cases href'
  | signedIn i scene new account hrequest haccount =>
      show LifeState uid _ (life ++ [])
      rw [List.append_nil]
      refine h.update rfl fun j request ref hj href hsame =>
        request_of_setRequest ((world.client c).setCurrentUser new account) ?_ hj href
          hsame
      intro request' heq ref' href'
      obtain rfl := Option.some.inj heq
      cases href'
  | moved i request stage hrequest hnext =>
      show LifeState uid _ (life ++ [])
      rw [List.append_nil]
      refine h.update rfl fun j request' ref hj href hsame => ?_
      rw [Client.request_setRequest] at hj
      split at hj
      · rename_i hji
        subst hji
        obtain rfl := Option.some.inj hj
        obtain ⟨href', hunnamed⟩ := Client.ref?_of_next? hnext
        exact ⟨request, hrequest, href'.symm.trans href, hunnamed.symm⟩
      · exact ⟨request', hj, href, rfl⟩
  | saved i request user hrequest hstage huser =>
      show LifeState uid _ (life ++ [])
      rw [List.append_nil]
      refine h.update rfl fun j request' ref hj href hsame =>
        request_of_setRequest (world.client c) ?_ hj href hsame
      intro request' heq
      cases heq
  | quiet _ _ _ he hkeeps =>
      have hevent : accountEvent? uid world (.client c e) = none := by
        cases e <;> first | rfl | cases he
      rw [hevent, Option.toList_none, List.append_nil]
      refine h.update (congrFun hkeeps.accounts uid) fun j request' ref hj href hsame => ?_
      rcases hkeeps.request_or hj with hold | hnone
      · exact ⟨request', hold, href, rfl⟩
      · rw [hnone] at href
        cases href

/-- **The step lemma of an account's history.** -/
lemma LifeState.step (h : LifeState uid world life) (hinv : AccountInvariant world)
    (hstep : World.step world e = some world') :
    LifeState uid world' (life ++ (accountEvent? uid world e).toList) := by
  cases e with
  | client c e =>
      obtain ⟨⟨server, client⟩, hclient, rfl⟩ := Option.map_eq_some_iff.mp hstep
      exact h.of_outcome hinv (Client.outcome_of_step hclient)
  | verify other =>
      simp only [World.step] at hstep
      split at hstep
      · rename_i account haccount
        obtain ⟨hsent, heq⟩ := Option.ite_none_right_eq_some.mp hstep
        obtain rfl := Option.some.inj heq
        show LifeState uid _ (life ++ (if other = uid then some AccountEvent.verified
          else none).toList)
        by_cases huid : other = uid
        · subst huid
          rw [if_pos rfl]
          cases h with
          | unborn hnone =>
              rw [haccount] at hnone
              cases hnone
          | created _ hfound hmail | committed _ hfound hmail =>
              rw [haccount] at hfound
              obtain rfl := Option.some.inj hfound
              rw [hsent] at hmail
              cases hmail
          | mailed _ n hfound hmail =>
              rw [Option.toList_some, List.append_assoc, ← List.replicate_succ']
              exact .mailed _ (n + 1) (Function.update_self ..) hsent
                (iff_of_true rfl (Nat.succ_ne_zero n))
        · rw [if_neg huid, Option.toList_none, List.append_nil]
          have hsame : (world.server.setAccount other
              { account with isEmailVerified := true }).accounts uid =
                world.server.accounts uid := Function.update_of_ne (Ne.symm huid) ..
          cases h with
          | unborn hnone => exact .unborn (hsame.trans hnone)
          | created found hfound hmail hsign =>
              exact .created found (hsame.trans hfound) hmail hsign
          | committed found hfound hmail hsign =>
              exact .committed found (hsame.trans hfound) hmail hsign
          | mailed found n hfound hmail hverified =>
              exact .mailed found n (hsame.trans hfound) hmail hverified
      · cases hstep

lemma accountLife_concat {tr : List (WorldEvent ι)}
    (h : run World.step World.start tr = some world) (e : WorldEvent ι) :
    accountLife uid (tr ++ [e]) = accountLife uid tr ++ (accountEvent? uid world e).toList := by
  unfold accountLife
  rw [steps_concat h, List.filterMap_append, List.filterMap_cons]
  cases accountEvent? uid world e <;> rfl

lemma lifeState_of_run {tr : List (WorldEvent ι)}
    (h : run World.step World.start tr = some world) :
    LifeState uid world (accountLife uid tr) := by
  refine run_induction (P := fun tr world => LifeState uid world (accountLife uid tr))
    (.unborn rfl) ?_ h
  intro tr world e world' hrun ih hstep
  rw [accountLife_concat hrun]
  exact ih.step (accountInvariant_of_run hrun) hstep

/-- **The life of an account.**  However the sign-ups of all clients are interleaved, restarted and
abandoned, an account is created once, then named at most once, then mailed at most once, and
verified only after that; and what the server says of the account is what has happened to it. -/
theorem account_life (tr : List (WorldEvent ι)) (world : World ι)
    (h : run World.step World.start tr = some world) (uid : String) :
    (∃ n, accountLife uid tr <+: [.created, .committed, .mailed] ++ List.replicate n .verified) ∧
      ((world.server.accounts uid).isSome ↔ .created ∈ accountLife uid tr) ∧
      ∀ account, world.server.accounts uid = some account →
        (account.mailSent = true ↔ .mailed ∈ accountLife uid tr) ∧
          (account.isEmailVerified = true ↔ .verified ∈ accountLife uid tr) := by
  have hinv := accountInvariant_of_run h
  have hlife : LifeState uid world (accountLife uid tr) := lifeState_of_run h
  have hunverified : ∀ account, world.server.accounts uid = some account →
      account.mailSent = false → ¬ account.isEmailVerified = true := by
    intro account haccount hmail hverified
    rw [hinv.mailed uid account haccount hverified] at hmail
    cases hmail
  generalize accountLife uid tr = life at hlife
  cases hlife with
  | unborn hnone =>
      refine ⟨⟨0, List.nil_prefix⟩, by simp [hnone], fun account haccount => ?_⟩
      rw [hnone] at haccount
      cases haccount
  | created found hfound hmail _ =>
      refine ⟨⟨0, ⟨_, rfl⟩⟩, by simp [hfound], fun account haccount => ?_⟩
      rw [hfound] at haccount
      obtain rfl := Option.some.inj haccount
      simp [hmail, hunverified found hfound hmail]
  | committed found hfound hmail _ =>
      refine ⟨⟨0, ⟨_, rfl⟩⟩, by simp [hfound], fun account haccount => ?_⟩
      rw [hfound] at haccount
      obtain rfl := Option.some.inj haccount
      simp [hmail, hunverified found hfound hmail]
  | mailed found n hfound hmail hverified =>
      refine ⟨⟨n, List.prefix_rfl⟩, by simp [hfound], fun account haccount => ?_⟩
      rw [hfound] at haccount
      obtain rfl := Option.some.inj haccount
      simp [hmail, hverified]

theorem account_life_sharedAccount :
    ∃ world, run World.step World.start sharedAccount = some world ∧
      (∃ n, accountLife "user" sharedAccount <+:
        [.created, .committed, .mailed] ++ List.replicate n .verified) ∧
      ((world.server.accounts "user").isSome ↔ .created ∈ accountLife "user" sharedAccount) ∧
      ∀ account, world.server.accounts "user" = some account →
        (account.mailSent = true ↔ .mailed ∈ accountLife "user" sharedAccount) ∧
          (account.isEmailVerified = true ↔ .verified ∈ accountLife "user" sharedAccount) :=
  ⟨_, rfl, account_life sharedAccount _ rfl "user"⟩

end Procon
