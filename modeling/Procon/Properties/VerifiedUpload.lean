import Procon.Properties.OwnerRecord

/-!
# The verification of an uploading user

`saveButtonTapped` checks that the user is verified and presents a question; the upload happens
when the question is answered, for whoever is signed in by then.  The SDK signs users in when a
reply arrives, which can be while the question is up.

Whether an unverified user is signed in at a client is a register of its history: it is set by
every reply that tells of an unverified account (`LearnsUnverified`), and cleared by a sign-out
and by every reply that tells of a verified one (`EndsUnverified`).  `verified_upload_iff` is what
follows for the uploads of a run.
-/

namespace Procon

open LabelledRun World
open DocumentSaveSceneVC (saveData2Online okAction)

/-! ## What a client learns about its user -/

namespace Client

/-- What a reply tells about the account of the user it leaves signed in: whether the account is
verified. -/
def learns (server : Server) (client : Client) : ClientEvent → Option Bool
  | .createUserSucceeds _ _ _ => some false
  | .commitChangesSucceeds i _ =>
      match client.request i, client.currentUser with
      | some ⟨_, .commitChanges ref _⟩, some user =>
          if user.object = ref.object then
            (server.accounts ref.uid).map Account.isEmailVerified
          else none
      | _, _ => none
  | .signInSucceeds _ uid => (server.accounts uid).map Account.isEmailVerified
  | _ => none

/-- An unverified user is signed in. -/
def Unverified (client : Client) : Prop :=
  ∃ user, client.currentUser = some user ∧ user.isEmailVerified = false

variable {server server' : Server} {client client' : Client} {e : ClientEvent}

lemma unverified_congr (h : client'.currentUser = client.currentUser) :
    client'.Unverified ↔ client.Unverified := by
  rw [Unverified, h, ← Unverified]

/-- The events that can change the user who is signed in, or what is known of them. -/
def touchesSession : ClientEvent → Bool
  | .signOut | .createUserSucceeds .. | .commitChangesSucceeds .. | .signInSucceeds .. => true
  | _ => false

lemma currentUser_of_step (h : step server client e = some (server', client'))
    (he : touchesSession e = false) : client'.currentUser = client.currentUser := by
  cases e with
  | signOut => cases he
  | createUserSucceeds => cases he
  | commitChangesSucceeds => cases he
  | signInSucceeds => cases he
  | moveAuthScene =>
      obtain ⟨-, heq⟩ := Option.ite_none_right_eq_some.mp h
      cases heq
      rfl
  | singUp name email =>
      obtain ⟨next, hsend, heq⟩ := Option.map_eq_some_iff.mp h
      obtain ⟨scene, -, rfl⟩ := Option.map_eq_some_iff.mp hsend
      cases heq
      rfl
  | signIn =>
      obtain ⟨next, hsend, heq⟩ := Option.map_eq_some_iff.mp h
      obtain ⟨scene, -, rfl⟩ := Option.map_eq_some_iff.mp hsend
      cases heq
      rfl
  | sendEmailVerificationSucceeds i =>
      simp only [step] at h
      split at h
      · split at h
        · cases h
          rfl
        · cases h
      · cases h
  | requestFails i =>
      simp only [step] at h
      split at h
      · obtain ⟨-, heq⟩ := Option.ite_none_left_eq_some.mp h
        cases heq
        rfl
      · cases h
  | callback i =>
      simp only [step] at h
      split at h
      · rename_i request hrequest
        obtain ⟨-, heq⟩ := Option.ite_none_right_eq_some.mp h
        split at heq
        · obtain ⟨scene, stage⟩ := request
          cases stage <;> cases heq <;> rfl
        · cases heq
          rfl
      · cases h
  | saveButtonTapped =>
      obtain ⟨-, heq⟩ := Option.ite_none_right_eq_some.mp h
      cases heq
      rfl
  | okTapped uuid header date context =>
      simp only [step] at h
      split at h
      · simp only [okAction, saveData2Online, Option.some.injEq] at h
        split at h
        · split at h
          · cases h
            rfl
          · cases h
            rfl
        · cases h
          rfl
      · cases h
  | dismissAuthScene => cases h; rfl
  | restart => cases h; rfl
  | switchSavingLocal => cases h; rfl
  | switchSavingOnline => cases h; rfl
  | cancelTapped => cases h; rfl

/-- The users of a client after an event are told by what it learns. -/
lemma unverified_of_step (h : step server client e = some (server', client')) :
    client'.Unverified ↔
      match client.learns server e with
      | some verified => verified = false
      | none => e ≠ .signOut ∧ client.Unverified := by
  by_cases hquiet : touchesSession e = false
  · have hlearns : client.learns server e = none ∧ e ≠ .signOut := by
      cases e <;> simp_all [touchesSession, learns]
    rw [hlearns.1, unverified_congr (currentUser_of_step h hquiet)]
    simp [hlearns.2]
  cases e with
  | signOut =>
      cases h
      simp [learns, Unverified]
  | createUserSucceeds i uid displayName =>
      simp only [step] at h
      split at h
      · obtain ⟨-, heq⟩ := Option.ite_none_right_eq_some.mp h
        cases heq
        simp [learns, Unverified, setRequest, setCurrentUser, Account.user]
      · cases h
  | commitChangesSucceeds i stored =>
      simp only [step] at h
      split at h
      · rename_i scene ref name hrequest
        split at h
        · rename_i account haccount
          obtain ⟨-, heq⟩ := Option.ite_none_right_eq_some.mp h
          cases heq
          cases huser : client.currentUser with
          | none => simp [learns, Unverified, setRequest, commitChanges, hrequest, huser]
          | some user =>
              by_cases hobject : user.object = ref.object
              · simp [learns, Unverified, setRequest, commitChanges, hrequest, huser, hobject,
                  haccount, Account.user]
              · simp [learns, Unverified, setRequest, commitChanges, hrequest, huser, hobject]
        · cases h
      · cases h
  | signInSucceeds i uid =>
      simp only [step] at h
      split at h
      · rename_i scene account hrequest haccount
        cases h
        simp [learns, Unverified, setRequest, setCurrentUser, Account.user, haccount]
      · cases h
  | _ => exact absurd rfl hquiet

end Client

/-! ## The history of a client -/

section

variable {ι : Type*} [DecidableEq ι] {world world' : World ι} {c : ι} {e : WorldEvent ι}

/-- A reply leaves a user signed in at the client and tells that the account is not verified. -/
def LearnsUnverified (c : ι) (world : World ι) (e : WorldEvent ι) : Prop :=
  ∃ e', e = .client c e' ∧ (world.client c).learns world.server e' = some false

/-- A reply tells that the account of the user at the client is verified, or the user signs
out. -/
def EndsUnverified (c : ι) (world : World ι) (e : WorldEvent ι) : Prop :=
  ∃ e', e = .client c e' ∧
    ((world.client c).learns world.server e' = some true ∨ e' = .signOut)

/-- The question is answered with OK while the online switch is on. -/
def OksOnline (c : ι) (world : World ι) (e : WorldEvent ι) : Prop :=
  (∃ uuid header date context, e = .client c (.okTapped uuid header date context)) ∧
    (world.client c).switchSavingOnline = true

/-- What an event uploads is a document of the current user, who is verified. -/
def UploadsVerified (world : World ι) (e : WorldEvent ι) : Prop :=
  ∀ c e' user docInfo, e = .client c e' →
    (world.client c).uploads e' = some (user, docInfo) →
      (world.client c).currentUser = some user ∧ user.isEmailVerified = true

lemma unverified_of_world_step (h : step world e = some world') :
    (world'.client c).Unverified ↔
      LearnsUnverified c world e ∨ (¬ EndsUnverified c world e ∧ (world.client c).Unverified) := by
  cases e with
  | verify uid =>
      simp only [step] at h
      split at h
      · obtain ⟨-, heq⟩ := Option.ite_none_right_eq_some.mp h
        cases heq
        simp [LearnsUnverified, EndsUnverified]
      · cases h
  | client c' e' =>
      obtain ⟨⟨server, client⟩, hstep, rfl⟩ := Option.map_eq_some_iff.mp h
      by_cases hc : c = c'
      · subst hc
        have hclient := Client.unverified_of_step hstep
        cases hlearns : (world.client c).learns world.server e' with
        | none => simpa [LearnsUnverified, EndsUnverified, hlearns] using hclient
        | some verified =>
            rw [hlearns] at hclient
            cases verified <;> simpa [LearnsUnverified, EndsUnverified, hlearns] using hclient
      · have hc' : ¬ c' = c := fun heq => hc heq.symm
        simp [LearnsUnverified, EndsUnverified, hc, hc']

/-- An unverified user is signed in exactly when a reply has told so and nothing has ended it. -/
lemma unverified_iff {tr : List (WorldEvent ι)} (h : run step start tr = some world) :
    (world.client c).Unverified ↔ ∃ p x m, steps step start tr = p ++ x :: m ∧
      LearnsUnverified c x.1 x.2 ∧ ∀ z ∈ m, ¬ EndsUnverified c z.1 z.2 := by
  refine register_iff (U := fun world : World ι => (world.client c).Unverified) ?_ ?_ ?_ ?_ h
  · rintro ⟨user, huser, -⟩
    cases huser
  · intro world e world' hstep hlearns
    exact (unverified_of_world_step hstep).mpr (Or.inl hlearns)
  · intro world e world' hstep hends hun
    rcases (unverified_of_world_step hstep).mp hun with ⟨e', rfl, hlearns⟩ | ⟨hnot, -⟩
    · obtain ⟨e'', heq, hends⟩ := hends
      cases heq
      rcases hends with hends | rfl
      · rw [hlearns] at hends
        cases hends
      · cases hlearns
    · exact hnot hends
  · intro world e world' hstep hlearns hends
    rw [unverified_of_world_step hstep]
    simp [hlearns, hends]

/-- **Which runs upload for verified users only.**  Every upload of a run is for the current user
of the client, who is verified, exactly when in between a reply that tells of an unverified user
at a client and an OK there with the online switch on, the unverified session ends. -/
theorem verified_upload_iff (tr : List (WorldEvent ι)) (world : World ι)
    (h : run step start tr = some world) :
    (∀ world' e, Takes step start tr world' e → UploadsVerified world' e) ↔
      ∀ c p x m y q, steps step start tr = p ++ x :: (m ++ y :: q) →
        LearnsUnverified c x.1 x.2 → OksOnline c y.1 y.2 →
          ∃ z ∈ m, EndsUnverified c z.1 z.2 := by
  constructor
  · intro hall c p x m y q hcut hlearns hok
    by_contra hnone
    have hcut' : steps step start tr = (p ++ x :: m) ++ y :: q := by simp [hcut]
    obtain ⟨done, rest, rfl, hdone, hsteps⟩ := exists_of_steps_eq hcut'
    have hun : (y.1.client c).Unverified := (unverified_iff hdone).mpr ⟨p, x, m, hsteps, hlearns,
      fun z hz hends => hnone ⟨z, hz, hends⟩⟩
    obtain ⟨user, huser, hnot⟩ := hun
    obtain ⟨⟨uuid, header, date, context, he⟩, honline⟩ := hok
    have htakes : Takes step start (done ++ y.2 :: rest) y.1 y.2 :=
      takes_iff.mpr ⟨done, rest, rfl, hdone⟩
    have hverified := (hall _ _ htakes c _ user (.init uuid header date context) he
      (by simp [Client.uploads, honline, huser])).2
    rw [hnot] at hverified
    cases hverified
  · intro hcond world' e htakes c e' user docInfo he hupload
    obtain ⟨⟨uuid, header, date, context, rfl, -⟩, honline, huser⟩ :=
      Client.of_uploads_eq_some hupload
    refine ⟨huser, ?_⟩
    by_contra hnot
    obtain ⟨done, rest, rfl, hdone⟩ := takes_iff.mp htakes
    obtain ⟨p, x, m, hsteps, hlearns, hnone⟩ :=
      (unverified_iff hdone).mp ⟨user, huser, by simpa using hnot⟩
    have hcut : steps step start (done ++ e :: rest) =
        p ++ x :: (m ++ (world', e) :: ((step world' e).map (steps step · rest)).getD []) := by
      rw [steps_append hdone, hsteps, steps]
      simp
    obtain ⟨z, hz, hends⟩ := hcond c p x m (world', e) _ hcut hlearns
      ⟨⟨uuid, header, date, context, he⟩, honline⟩
    exact hnone z hz hends

end

/-- The sign-up leaves an unverified user signed in, who is signed in again when verified. -/
theorem verified_upload_iff_patientTrace :
    ∃ world, run step start patientTrace = some world ∧ world.server.Uploaded "user" ∧
      ((∀ world' e, Takes step start patientTrace world' e → UploadsVerified world' e) ↔
        ∀ c p x m y q, steps step start patientTrace = p ++ x :: (m ++ y :: q) →
          LearnsUnverified c x.1 x.2 → OksOnline c y.1 y.2 →
            ∃ z ∈ m, EndsUnverified c z.1 z.2) := by
  have hafter : (run step start patientTrace).map (fun world =>
      (NestedMap.get world.server.documents "user" NSUUID.first.uuidString).isSome) =
      some true := by
    decide
  obtain ⟨world, hrun, hsome⟩ := Option.map_eq_some_iff.mp hafter
  obtain ⟨value, hvalue⟩ := Option.isSome_iff_exists.mp hsome
  exact ⟨world, hrun, ⟨_, value, hvalue⟩, verified_upload_iff patientTrace world hrun⟩

/-! ### A late reply -/

/-- A verified user taps save, and the late reply of a sign-up arrives. -/
def lateReplyTrace : List (WorldEvent Unit) :=
  ofClient (signUpTrace ++ [.callback 0]) ++ .verify "user" ::
    ofClient [.signIn, .signInSucceeds 1 "user", .callback 1, .singUp "Other" "other@example.com",
      .dismissAuthScene, .switchSavingOnline true, .saveButtonTapped,
      .createUserSucceeds 2 "other" none]

def lateOk : ClientEvent :=
  .okTapped .first (some "title") none none

/-- The document is uploaded for a user whose account is not verified. -/
theorem unverified_upload :
    ∃ world, run step start lateReplyTrace = some world ∧
      (∃ world', step world (.client () lateOk) = some world' ∧
        world'.server.Uploaded "other") ∧
      ¬ UploadsVerified world (.client () lateOk) := by
  have hbefore : (run step start lateReplyTrace).map
      (fun world => (world.client ()).uploads lateOk) =
      some (some (⟨2, "other", none, some "other@example.com", false⟩,
        .init .first (some "title") none none)) := by
    decide
  have hafter : ((run step start lateReplyTrace).bind fun world =>
      step world (.client () lateOk)).map (fun world => (NestedMap.get world.server.documents
        "other" NSUUID.first.uuidString).isSome) = some true := by
    decide
  obtain ⟨world, hrun, hupload⟩ := Option.map_eq_some_iff.mp hbefore
  obtain ⟨world', hstep, hsome⟩ := Option.map_eq_some_iff.mp hafter
  rw [hrun, Option.bind_some] at hstep
  obtain ⟨value, hvalue⟩ := Option.isSome_iff_exists.mp hsome
  refine ⟨world, hrun, ⟨world', hstep, _, value, hvalue⟩, ?_⟩
  intro hverified
  have hflag := (hverified () _ _ _ rfl hupload).2
  cases hflag

end Procon
