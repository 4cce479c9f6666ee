import Procon.Construction.DocumentInfo
import Procon.Framework.NestedMap

/-!
# Firebase, as the app meets it

Firebase keeps the accounts of all users and two Firestore collections.  `documents` holds one
record for each user who has uploaded something, with one field for each document; `userInfos`
holds a record with the name and the email of a user.  Both are maps from user identifiers to
records, and nothing on the server relates one to the other.

A `User` is the object through which an app sees its account: it caches the profile as of its
creation, so what it says may differ from what the server has by now.
-/

namespace Procon

open NestedMap

/-! ## Firestore -/

/-- A value of a field, of the types this program tells apart. -/
inductive FieldValue
  | null
  | string (value : String)
  | data (value : Data)
  | other
  deriving DecidableEq

/-- An optional string in a dictionary that is handed to Firestore; nil is stored as null. -/
def FieldValue.ofOptional : Option String → FieldValue
  | some value => .string value
  | none => .null

/-- A collection: the fields of each document, by `documentID`. -/
abbrev Collection := Nested String String FieldValue

/-- A document of a snapshot: its `documentID` and its `data()`. -/
abbrev QueryDocumentSnapshot := String × Dict String FieldValue

structure SimpleUserInfo where
  name : String
  email : String
  deriving DecidableEq, Repr

/-- `data["name"] as? String` and `data["email"] as? String`. -/
def userInfoOf (data : Dict String FieldValue) : Option SimpleUserInfo :=
  match data.lookup "name", data.lookup "email" with
  | some (.string name), some (.string email) => some ⟨name, email⟩
  | _, _ => none

/-- Only the fields decide what is read from a record, not their order. -/
lemma userInfoOf_congr {data data' : Dict String FieldValue}
    (h : ∀ field, data.lookup field = data'.lookup field) : userInfoOf data = userInfoOf data' := by
  simp only [userInfoOf, h]

/-! ## Accounts and users -/

/-- What the server knows about a user. -/
structure Account where
  displayName : Option String
  email : Option String
  isEmailVerified : Bool
  /-- A verification mail has been sent. -/
  mailSent : Bool
  deriving DecidableEq, Repr

/-- A user object of the app.  Two objects may stand for one user. -/
structure User where
  object : ℕ
  uid : String
  displayName : Option String
  email : Option String
  isEmailVerified : Bool
  deriving DecidableEq, Repr

/-- The user object that a sign-in makes from the account. -/
def Account.user (account : Account) (object : ℕ) (uid : String) : User where
  object := object
  uid := uid
  displayName := account.displayName
  email := account.email
  isEmailVerified := account.isEmailVerified

structure Server where
  accounts : String → Option Account
  userInfos : Collection
  documents : Collection

namespace Server

def empty : Server := ⟨fun _ => none, ∅, ∅⟩

def setAccount (server : Server) (uid : String) (account : Account) : Server :=
  { server with accounts := Function.update server.accounts uid (some account) }

/-! ## The writes of the app -/

/-- The dictionary that `saveLoginUserInfo2Database` writes. -/
def userRecord (user : User) : Dict String FieldValue :=
  (AList.singleton "email" (.ofOptional user.email)).insert "name" (.ofOptional user.displayName)

/-- `setData` on `userInfos`: the record is replaced. -/
def setUserInfo (server : Server) (user : User) : Server :=
  { server with userInfos := server.userInfos.insert user.uid (userRecord user) }

/-- `setData` with `merge: true` on `documents`: the other fields are kept. -/
def mergeDocument (server : Server) (uid : String) (docInfo : DocumentInfo) : Server :=
  { server with
    documents :=
      merge uid (AList.singleton docInfo.uid (.data (archivedData docInfo))) server.documents }

/-! ## What the online list needs -/

/-- The name and the email that the online list reads for a user. -/
def userInfo (server : Server) (uid : String) : Option SimpleUserInfo :=
  (server.userInfos.lookup uid).bind userInfoOf

/-- The user has uploaded something. -/
def Uploaded (server : Server) (uid : String) : Prop :=
  ∃ field value, get server.documents uid field = some value

/-- The record of the user in `documents` holds a `DocumentInfo`. -/
def HoldsDocument (server : Server) (uid : String) : Prop :=
  ∃ field docData docInfo, get server.documents uid field = some (.data docData) ∧
    unarchiveDocumentInfo docData = .ok (some docInfo)

variable {server : Server} {user : User} {uid uid' : String} {docInfo : DocumentInfo}

lemma userInfoOf_userRecord :
    userInfoOf (userRecord user) = user.displayName.bind fun name =>
      user.email.map fun email => ⟨name, email⟩ := by
  have hemail : (userRecord user).lookup "email" = some (.ofOptional user.email) := by
    rw [userRecord, AList.lookup_insert_ne (by decide), ← AList.insert_empty, AList.lookup_insert]
  have hname : (userRecord user).lookup "name" = some (.ofOptional user.displayName) :=
    AList.lookup_insert _
  rw [userInfoOf, hemail, hname]
  cases user.displayName <;> cases user.email <;> rfl

lemma userInfo_setUserInfo_self :
    (server.setUserInfo user).userInfo user.uid = userInfoOf (userRecord user) := by
  rw [userInfo, setUserInfo, AList.lookup_insert, Option.bind_some]

lemma userInfo_setUserInfo_of_ne (h : uid ≠ user.uid) :
    (server.setUserInfo user).userInfo uid = server.userInfo uid := by
  rw [userInfo, setUserInfo, AList.lookup_insert_ne h, ← userInfo]

lemma get_mergeDocument {field : String} :
    get (server.mergeDocument uid docInfo).documents uid' field =
      if uid' = uid ∧ field = docInfo.uid then some (.data (archivedData docInfo))
      else get server.documents uid' field :=
  get_merge_singleton ..

lemma uploaded_mergeDocument :
    (server.mergeDocument uid docInfo).Uploaded uid' ↔ server.Uploaded uid' ∨ uid' = uid := by
  constructor
  · rintro ⟨field, value, h⟩
    rw [get_mergeDocument] at h
    split at h
    · rename_i heq
      exact Or.inr heq.1
    · exact Or.inl ⟨field, value, h⟩
  · rintro (⟨field, value, h⟩ | rfl)
    · by_cases heq : uid' = uid ∧ field = docInfo.uid
      · exact ⟨field, .data (archivedData docInfo), by rw [get_mergeDocument, if_pos heq]⟩
      · exact ⟨field, value, by rw [get_mergeDocument, if_neg heq, h]⟩
    · exact ⟨docInfo.uid, .data (archivedData docInfo),
        by rw [get_mergeDocument, if_pos ⟨rfl, rfl⟩]⟩

/-- An upload adds a document to the record of its owner and takes none away. -/
lemma holdsDocument_mergeDocument :
    (server.mergeDocument uid docInfo).HoldsDocument uid' ↔
      server.HoldsDocument uid' ∨ uid' = uid := by
  constructor
  · rintro ⟨field, docData, docInfo', h, hdoc⟩
    rw [get_mergeDocument] at h
    split at h
    · rename_i heq
      exact Or.inr heq.1
    · exact Or.inl ⟨field, docData, docInfo', h, hdoc⟩
  · intro h
    by_cases huid : uid' = uid
    · exact ⟨docInfo.uid, archivedData docInfo, docInfo,
        by rw [get_mergeDocument, if_pos ⟨huid, rfl⟩], unarchiveDocumentInfo_archivedData docInfo⟩
    · obtain ⟨field, docData, docInfo', hget, hdoc⟩ := h.resolve_right huid
      refine ⟨field, docData, docInfo', ?_, hdoc⟩
      rw [get_mergeDocument, if_neg fun heq => huid heq.1, hget]

end Server

end Procon
