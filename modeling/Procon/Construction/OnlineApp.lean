import Procon.Construction.Clients
import Procon.Construction.DocumentOnlineListVC
import Procon.Framework.Run

/-!
# An online list among the clients

`OnlineApp` puts one online list into a world of clients.  A query of the list is answered with
the contents of its collection at some moment between the request and the reply:
`takeSnapshot` is that moment, and the callback delivers what was seen then.  The two snapshots of
a refresh are thus taken at different times, with any events of the world in between.

Every event is an event of the world, the look-up of a snapshot, or an event of the list, which
`Outcome` records.
-/

namespace Procon

open NestedMap LabelledRun

structure OnlineApp (ι : Type*) where
  world : World ι
  screen : DocumentOnlineListVC
  /-- What each query will be answered with, once Firestore has looked it up. -/
  snapshot : ℕ → Query → Option (List QueryDocumentSnapshot)

inductive OnlineAppEvent (ι : Type*)
  | world (e : WorldEvent ι)
  | takeSnapshot (i : ℕ) (query : Query) (documents : List QueryDocumentSnapshot)
  | callback (i : ℕ) (query : Query) (succeeds : Bool)
  | screen (e : OnlineListEvent)

/-- The collection a query reads. -/
def Server.collection (server : Server) : Query → Collection
  | .userRef => server.userInfos
  | .docRef => server.documents

def OnlineListEvent.isCallback : OnlineListEvent → Bool
  | .callback .. => true
  | _ => false

/-- The event begins a refresh. -/
def OnlineAppEvent.isUpdateList {ι : Type*} : OnlineAppEvent ι → Bool
  | .screen .updateList => true
  | _ => false

namespace OnlineApp

variable {ι : Type*}

/-- The list as it is opened for the first time, with whatever has happened in the world. -/
def launch (world : World ι) : OnlineApp ι := ⟨world, .launch, fun _ _ => none⟩

/-- What an event is for the list. -/
def screenEvent? (app : OnlineApp ι) : OnlineAppEvent ι → Option OnlineListEvent
  | .callback i query true =>
      (app.snapshot i query).map fun documents => .callback i query (.snapshot documents)
  | .callback i query false => some (.callback i query .error)
  | .screen e => if e.isCallback then none else some e
  | .world _ => none
  | .takeSnapshot .. => none

/-- Firestore looks up the answer to a query. -/
def lookUp (app : OnlineApp ι) (i : ℕ) (query : Query) (documents : List QueryDocumentSnapshot) :
    OnlineApp ι :=
  { app with
    snapshot := Function.update app.snapshot i
      (Function.update (app.snapshot i) query (some documents)) }

/-- One event. -/
def step [DecidableEq ι] (app : OnlineApp ι) (e : OnlineAppEvent ι) : Option (OnlineApp ι) :=
  match e with
  | .world e => (app.world.step e).map fun world => { app with world := world }
  | .takeSnapshot i query documents =>
      if i < app.screen.count ∧ ((app.screen.refresh i).block query).phase = .waiting ∧
          ((app.screen.refresh i).block query).replied = false ∧ app.snapshot i query = none ∧
          Enumerates documents (app.world.server.collection query) then
        some (app.lookUp i query documents)
      else none
  | .callback .. | .screen _ =>
      ((app.screenEvent? e).bind app.screen.step).map fun screen => { app with screen := screen }

/-- What the callback of a query has read, once it has succeeded. -/
def seen (app : OnlineApp ι) (i : ℕ) (query : Query) : List QueryDocumentSnapshot :=
  if ((app.screen.refresh i).block query).isTaskFinished then (app.snapshot i query).getD [] else []

/-- The document an event uploads, with its owner. -/
def upload? (app : OnlineApp ι) : OnlineAppEvent ι → Option (String × DocumentInfo)
  | .world e => (app.world.uploads e).map fun upload => (upload.1.uid, upload.2)
  | _ => none

variable {app app' : OnlineApp ι} {e : OnlineAppEvent ι}

@[simp] lemma lookUp_screen {i : ℕ} {query : Query} {documents : List QueryDocumentSnapshot} :
    (app.lookUp i query documents).screen = app.screen := rfl

lemma lookUp_snapshot {i j : ℕ} {query query' : Query} {documents : List QueryDocumentSnapshot} :
    (app.lookUp j query' documents).snapshot i query =
      if i = j ∧ query = query' then some documents else app.snapshot i query := by
  rw [lookUp]
  by_cases hij : i = j
  · subst hij
    by_cases hquery : query = query'
    · subst hquery
      simp
    · simp [hquery]
  · simp [hij]

lemma screenEvent?_cases {e' : OnlineListEvent} (h : app.screenEvent? e = some e') :
    (e = .screen e' ∧ e'.isCallback = false) ∨
    (∃ i query documents, e = .callback i query true ∧
      app.snapshot i query = some documents ∧ e' = .callback i query (.snapshot documents)) ∨
    ∃ i query, e = .callback i query false ∧ e' = .callback i query .error := by
  cases e with
  | world e => cases h
  | takeSnapshot i query documents => cases h
  | callback i query succeeds =>
      cases succeeds with
      | true =>
          obtain ⟨documents, hsnapshot, rfl⟩ := Option.map_eq_some_iff.mp h
          exact Or.inr (Or.inl ⟨i, query, documents, rfl, hsnapshot, rfl⟩)
      | false =>
          obtain rfl := Option.some.inj h
          exact Or.inr (Or.inr ⟨i, query, rfl, rfl⟩)
  | screen e =>
      obtain ⟨hcallback, heq⟩ := Option.ite_none_left_eq_some.mp h
      obtain rfl := Option.some.inj heq
      exact Or.inl ⟨rfl, by simpa using hcallback⟩

/-- An event of the list that is no callback is an event of the app in its own right. -/
lemma eq_screen_of_screenEvent? {e' : OnlineListEvent} (h : app.screenEvent? e = some e')
    (he' : e'.isCallback = false) : e = .screen e' := by
  rcases screenEvent?_cases h with ⟨rfl, -⟩ | ⟨i, query, documents, -, -, rfl⟩ |
    ⟨i, query, -, rfl⟩
  · rfl
  · cases he'
  · cases he'

/-- A callback delivers the snapshot that was taken. -/
lemma snapshot_of_screenEvent? {i : ℕ} {query : Query} {documents : List QueryDocumentSnapshot}
    (h : app.screenEvent? e = some (.callback i query (.snapshot documents))) :
    e = .callback i query true ∧ app.snapshot i query = some documents := by
  rcases screenEvent?_cases h with ⟨-, hcallback⟩ | ⟨j, query', documents', rfl, hsnapshot, heq⟩ |
    ⟨j, query', -, heq⟩
  · cases hcallback
  · cases heq
    exact ⟨rfl, hsnapshot⟩
  · cases heq

/-- An event of the app is an event of the world, a snapshot, or an event of the list. -/
inductive Outcome [DecidableEq ι] (app : OnlineApp ι) : OnlineAppEvent ι → OnlineApp ι → Prop
  | world (e : WorldEvent ι) (world : World ι) (hworld : app.world.step e = some world) :
      Outcome app (.world e) { app with world := world }
  | snapshot (i : ℕ) (query : Query) (documents : List QueryDocumentSnapshot)
      (hi : i < app.screen.count)
      (hphase : ((app.screen.refresh i).block query).phase = .waiting)
      (hreplied : ((app.screen.refresh i).block query).replied = false)
      (hnone : app.snapshot i query = none)
      (hview : Enumerates documents (app.world.server.collection query)) :
      Outcome app (.takeSnapshot i query documents) (app.lookUp i query documents)
  | screen (e : OnlineAppEvent ι) (e' : OnlineListEvent) (screen : DocumentOnlineListVC)
      (he : app.screenEvent? e = some e') (hscreen : app.screen.step e' = some screen) :
      Outcome app e { app with screen := screen }

lemma outcome_of_step [DecidableEq ι] (h : step app e = some app') : Outcome app e app' := by
  cases e with
  | world e =>
      obtain ⟨world, hworld, rfl⟩ := Option.map_eq_some_iff.mp h
      exact .world e world hworld
  | takeSnapshot i query documents =>
      obtain ⟨⟨hi, hphase, hreplied, hnone, hview⟩, heq⟩ := Option.ite_none_right_eq_some.mp h
      cases heq
      exact .snapshot i query documents hi hphase hreplied hnone hview
  | callback i query succeeds =>
      obtain ⟨screen, hbind, rfl⟩ := Option.map_eq_some_iff.mp h
      obtain ⟨e', he, hscreen⟩ := Option.bind_eq_some_iff.mp hbind
      exact .screen _ e' screen he hscreen
  | screen e =>
      obtain ⟨screen, hbind, rfl⟩ := Option.map_eq_some_iff.mp h
      obtain ⟨e', he, hscreen⟩ := Option.bind_eq_some_iff.mp hbind
      exact .screen _ e' screen he hscreen

/-- The documents on the server change by uploads only. -/
lemma documents_of_step [DecidableEq ι] (h : step app e = some app') :
    app'.world.server.documents =
      (match app.upload? e with
      | some (uid, docInfo) => app.world.server.mergeDocument uid docInfo
      | none => app.world.server).documents := by
  cases outcome_of_step h with
  | world e world hworld =>
      have hdocuments := (World.collections_of_step hworld).2
      rw [upload?]
      cases hupload : app.world.uploads e with
      | none => rwa [hupload] at hdocuments
      | some upload => rwa [hupload] at hdocuments
  | snapshot => rfl
  | screen e e' screen he =>
      rcases screenEvent?_cases he with ⟨rfl, -⟩ | ⟨i, query, documents, rfl, -⟩ |
        ⟨i, query, rfl, -⟩ <;> rfl

/-- A snapshot is taken once. -/
lemma snapshot_of_step [DecidableEq ι] {i : ℕ} {query : Query}
    {documents : List QueryDocumentSnapshot} (h : step app e = some app')
    (hsnapshot : app.snapshot i query = some documents) :
    app'.snapshot i query = some documents := by
  cases outcome_of_step h with
  | world => exact hsnapshot
  | screen => exact hsnapshot
  | snapshot j query' documents' hj hphase hreplied hnone hview =>
      have hother : ¬ (i = j ∧ query = query') := by
        rintro ⟨rfl, rfl⟩
        rw [hnone] at hsnapshot
        cases hsnapshot
      rw [lookUp_snapshot, if_neg hother]
      exact hsnapshot

lemma snapshot_of_run [DecidableEq ι] {i : ℕ} {query : Query} {tr : List (OnlineAppEvent ι)}
    {documents : List QueryDocumentSnapshot} (h : run step app tr = some app')
    (hsnapshot : app.snapshot i query = some documents) :
    app'.snapshot i query = some documents :=
  run_invariant (P := fun app => app.snapshot i query = some documents) hsnapshot
    (fun _ _ _ hs he => snapshot_of_step he hs) h

lemma snapshot_of_takes [DecidableEq ι] {i : ℕ} {query : Query} {app₀ : OnlineApp ι}
    {tr : List (OnlineAppEvent ι)} {documents : List QueryDocumentSnapshot}
    (ht : Takes step app₀ tr app e) (h : run step app₀ tr = some app')
    (hsnapshot : app.snapshot i query = some documents) :
    app'.snapshot i query = some documents := by
  obtain ⟨done, rest, rfl, hdone⟩ := takes_iff.mp ht
  rw [run_append_of_eq hdone] at h
  exact snapshot_of_run h hsnapshot

/-- The snapshots that a step of a run finds are those of its end. -/
lemma snapshot_unique [DecidableEq ι] {i : ℕ} {query : Query} {app₀ : OnlineApp ι}
    {tr : List (OnlineAppEvent ι)} {documents documents' : List QueryDocumentSnapshot}
    (ht : Takes step app₀ tr app e) (h : run step app₀ tr = some app')
    (hsnapshot : app.snapshot i query = some documents)
    (hsnapshot' : app'.snapshot i query = some documents') : documents = documents' := by
  have hsame := snapshot_of_takes ht h hsnapshot
  rw [hsnapshot'] at hsame
  exact (Option.some.inj hsame).symm

/-- No document is twice in a snapshot. -/
lemma nodup_of_snapshot [DecidableEq ι] {i : ℕ} {query : Query} {world : World ι}
    {tr : List (OnlineAppEvent ι)} {documents : List QueryDocumentSnapshot}
    (h : run step (launch world) tr = some app)
    (hsnapshot : app.snapshot i query = some documents) : (documents.map Prod.fst).Nodup := by
  refine run_invariant (P := fun app => ∀ i query documents,
    app.snapshot i query = some documents → (documents.map Prod.fst).Nodup) ?_ ?_ h i query
      documents hsnapshot
  · intro i query documents hnone
    cases hnone
  · intro app₁ e app₂ ih hstep i query documents hsnapshot
    cases outcome_of_step hstep with
    | world => exact ih i query documents hsnapshot
    | screen => exact ih i query documents hsnapshot
    | snapshot j query' documents' hj hphase hreplied hnone hview =>
        rw [lookUp_snapshot] at hsnapshot
        split at hsnapshot
        · obtain rfl := Option.some.inj hsnapshot
          exact hview.1.nodup_iff.mpr (AList.keys_nodup _)
        · exact ih i query documents hsnapshot

end OnlineApp

end Procon
