import Procon.Construction.Clients
import Procon.Framework.Run

/-!
# The owner record of an upload

The online list can show a document only when its owner has a record with a name and an email.
The two collections are written in different screens: `saveLoginUserInfo2Database` writes the
record at the end of a sign-up or a sign-in, if the scene that asked for it is still there, and
`saveData2Online` uploads for whoever is signed in and verified.

For one user the record is a register and the uploads are a flag: a `Registers` step makes the
record usable, a `Spoils` step replaces it by one without a name, and an `Uploads` step sets the
flag.  `LabelledRun.forall_flag_imp_register_iff` then gives the exact condition under which
every uploaded document has a usable owner record all along a run.
-/

namespace Procon

open LabelledRun World

variable {ι : Type*} [DecidableEq ι] {world world' : World ι} {e : WorldEvent ι} {uid : String}

/-- Every user with an upload has a record with a name and an email. -/
def OwnersUsable (world : World ι) : Prop :=
  ∀ uid, world.server.Uploaded uid → (world.server.userInfo uid).isSome

/-- The callback of a sign-up or a sign-in runs while its scene is presented, and the user it
finds signed in has a name and an email. -/
def Registers (uid : String) (world : World ι) (e : WorldEvent ι) : Prop :=
  ∃ user, world.savesUserInfo e = some user ∧ user.uid = uid ∧
    user.displayName ≠ none ∧ user.email ≠ none

/-- Such a callback finds a user without a name or without an email signed in. -/
def Spoils (uid : String) (world : World ι) (e : WorldEvent ι) : Prop :=
  ∃ user, world.savesUserInfo e = some user ∧ user.uid = uid ∧
    (user.displayName = none ∨ user.email = none)

/-- The user uploads a document. -/
def Uploads (uid : String) (world : World ι) (e : WorldEvent ι) : Prop :=
  ∃ user docInfo, world.uploads e = some (user, docInfo) ∧ user.uid = uid

lemma isSome_userRecord_iff {user : User} :
    (userInfoOf (Server.userRecord user)).isSome ↔ user.displayName ≠ none ∧ user.email ≠ none := by
  rw [Server.userInfoOf_userRecord]
  cases user.displayName <;> cases user.email <;> simp

/-! ## The record as a register -/

lemma isSome_userInfo_of_registers (h : step world e = some world')
    (hreg : Registers uid world e) : (world'.server.userInfo uid).isSome := by
  obtain ⟨user, hsave, rfl, hname, hemail⟩ := hreg
  rw [userInfo_of_step h, hsave]
  simpa using isSome_userRecord_iff.mpr ⟨hname, hemail⟩

lemma not_isSome_userInfo_of_spoils (h : step world e = some world')
    (hspoil : Spoils uid world e) : ¬ (world'.server.userInfo uid).isSome := by
  obtain ⟨user, hsave, rfl, hnil⟩ := hspoil
  rw [userInfo_of_step h, hsave]
  intro hsome
  obtain ⟨hname, hemail⟩ := isSome_userRecord_iff.mp (by simpa using hsome)
  exact hnil.elim hname hemail

lemma isSome_userInfo_of_neither (h : step world e = some world') (hreg : ¬ Registers uid world e)
    (hspoil : ¬ Spoils uid world e) :
    (world'.server.userInfo uid).isSome ↔ (world.server.userInfo uid).isSome := by
  rw [userInfo_of_step h]
  cases hsave : world.savesUserInfo e with
  | none => rfl
  | some user =>
      have hne : uid ≠ user.uid := by
        rintro rfl
        by_cases hnil : user.displayName = none ∨ user.email = none
        · exact hspoil ⟨user, hsave, rfl, hnil⟩
        · rw [not_or] at hnil
          exact hreg ⟨user, hsave, rfl, hnil.1, hnil.2⟩
      simp [hne]

omit [DecidableEq ι] in
lemma not_registers_of_uploads (h : Uploads uid world e) : ¬ Registers uid world e := by
  obtain ⟨user, docInfo, hupload, -⟩ := h
  rintro ⟨user', hsave, -⟩
  rw [savesUserInfo_of_uploads hupload] at hsave
  cases hsave

/-- **Which runs give every upload a usable owner record.**  In every state of a run every user
with an upload has a record with a name and an email, exactly when every upload of a user comes
after a step that registers the user, and no later step spoils the record, be it before or after
the upload. -/
theorem owner_record_iff (tr : List (WorldEvent ι)) (world : World ι)
    (h : run step start tr = some world) :
    (∀ world', Visits step start tr world' → OwnersUsable world') ↔
      ∀ uid p x q, steps step start tr = p ++ x :: q → Uploads uid x.1 x.2 →
        ∃ p₁ y p₂, p = p₁ ++ y :: p₂ ∧ Registers uid y.1 y.2 ∧
          ∀ z ∈ p₂ ++ x :: q, ¬ Spoils uid z.1 z.2 := by
  have hrule := fun uid => forall_flag_imp_register_iff
    (fun world : World ι => (world.server.userInfo uid).isSome = true)
    (fun world => world.server.Uploaded uid) (Registers uid) (Spoils uid) (Uploads uid)
    (by simp [start, Server.userInfo, Server.empty])
    (by simp [start, Server.Uploaded, Server.empty, NestedMap.get])
    (fun _ _ _ => isSome_userInfo_of_registers) (fun _ _ _ => not_isSome_userInfo_of_spoils)
    (fun _ _ _ => isSome_userInfo_of_neither) (fun _ _ _ => uploaded_of_step)
    (fun _ _ => not_registers_of_uploads) h
  constructor
  · intro hall uid
    exact (hrule uid).mp fun world' hv => hall world' hv uid
  · intro hall world' hv uid
    exact (hrule uid).mpr (hall uid) world' hv

/-! ### Two scenes dismissed too early -/

/-- Events of the only client of a world. -/
def ofClient (events : List ClientEvent) : List (WorldEvent Unit) := events.map (.client ())

/-- A sign-up up to the reply of its last request. -/
def signUpTrace : List ClientEvent :=
  [.moveAuthScene, .singUp "User" "user@example.com", .createUserSucceeds 0 "user" none,
    .callback 0, .commitChangesSucceeds 0 (some "User"), .callback 0,
    .sendEmailVerificationSucceeds 0]

/-- An upload of the user who is signed in. -/
def uploadTrace : List ClientEvent :=
  [.switchSavingOnline true, .saveButtonTapped,
    .okTapped .first (some "title") none none]

/-- One client signs up, is verified, signs in and uploads. -/
def patientTrace : List (WorldEvent Unit) :=
  ofClient (signUpTrace ++ [.callback 0]) ++ .verify "user" ::
    ofClient ([.signIn, .signInSucceeds 1 "user", .callback 1, .dismissAuthScene] ++ uploadTrace)

theorem owner_record_iff_patientTrace :
    ∃ world, run step start patientTrace = some world ∧
      ((∀ world', Visits step start patientTrace world' → OwnersUsable world') ↔
        ∀ uid p x q, steps step start patientTrace = p ++ x :: q → Uploads uid x.1 x.2 →
          ∃ p₁ y p₂, p = p₁ ++ y :: p₂ ∧ Registers uid y.1 y.2 ∧
            ∀ z ∈ p₂ ++ x :: q, ¬ Spoils uid z.1 z.2) :=
  ⟨_, rfl, owner_record_iff patientTrace _ rfl⟩

/-- The same, but both scenes are dismissed before their last callback. -/
def hastyTrace : List (WorldEvent Unit) :=
  ofClient (signUpTrace ++ [.dismissAuthScene, .callback 0]) ++ .verify "user" ::
    ofClient ([.moveAuthScene, .signIn, .signInSucceeds 1 "user", .dismissAuthScene,
      .callback 1] ++ uploadTrace)

/-- The user has uploaded a document and has no record. -/
theorem upload_without_owner_record :
    ∃ world, run step start hastyTrace = some world ∧ world.server.Uploaded "user" ∧
      world.server.userInfo "user" = none ∧ ¬ OwnersUsable world := by
  have hend : (run step start hastyTrace).map (fun world =>
      ((NestedMap.get world.server.documents "user" NSUUID.first.uuidString).isSome,
        world.server.userInfo "user")) = some (true, none) := by
    decide
  obtain ⟨world, hrun, hend⟩ := Option.map_eq_some_iff.mp hend
  obtain ⟨hupload, hrecord⟩ := Prod.mk.inj hend
  obtain ⟨value, hvalue⟩ := Option.isSome_iff_exists.mp hupload
  refine ⟨world, hrun, ⟨_, value, hvalue⟩, hrecord, ?_⟩
  intro husable
  have hsome := husable "user" ⟨_, value, hvalue⟩
  rw [hrecord] at hsome
  cases hsome

end Procon
