import Procon.Construction.DocumentScreens
import Procon.Construction.OnlineApp

/-!
# Installations and an online list

The online list of an installation reads the collections that the save screens of all installations
write.  `AppWithList` is any number of installations with one such list; it is an `App` where the
list is left out, and an `OnlineApp` where all of an installation but its client is.
-/

namespace Procon

open LabelledRun

structure AppWithList (ι : Type*) where
  app : App ι
  screen : DocumentOnlineListVC
  /-- What each query will be answered with, once Firestore has looked it up. -/
  snapshot : ℕ → Query → Option (List QueryDocumentSnapshot)

inductive AppWithListEvent (ι : Type*)
  | app (e : AppEvent ι)
  /-- A look-up, a reply, or an event of the list. -/
  | online (e : OnlineAppEvent ι)

/-- The event of the installations that an event is. -/
def AppWithListEvent.app? {ι : Type*} : AppWithListEvent ι → Option (AppEvent ι)
  | .app e => some e
  | .online _ => none

namespace AppWithList

variable {ι : Type*}

/-- Fresh installations, an empty server, and a list that is opened for the first time. -/
def start (env : ι → ScreenEnvironment) : AppWithList ι := ⟨.start env, .launch, fun _ _ => none⟩

/-- What the list sees. -/
def onlineApp (s : AppWithList ι) : OnlineApp ι := ⟨s.app.devices.world, s.screen, s.snapshot⟩

variable [DecidableEq ι] (env : ι → ScreenEnvironment)

/-- One event. -/
def step (s : AppWithList ι) : AppWithListEvent ι → Option (AppWithList ι)
  | .app e => (s.app.step env e).map fun app => { s with app := app }
  | .online (.world _) => none
  | .online e => (s.onlineApp.step e).map fun next =>
      { s with screen := next.screen, snapshot := next.snapshot }

/-- What the list sees of an event. -/
def onlineEvents (s : AppWithList ι) : AppWithListEvent ι → List (OnlineAppEvent ι)
  | .app e => (steps Devices.step s.app.devices (s.app.deviceEvents env e)).map fun x =>
      .world (x.1.worldEvent x.2)
  | .online e => [e]

variable {env} {s s' : AppWithList ι} {e : AppWithListEvent ι}

/-- The outcomes of an event. -/
inductive Outcome (env : ι → ScreenEnvironment) (s : AppWithList ι) :
    AppWithListEvent ι → AppWithList ι → Prop
  | app (e : AppEvent ι) (app : App ι) (happ : s.app.step env e = some app) :
      Outcome env s (.app e) { s with app := app }
  | online (e : OnlineAppEvent ι) (next : OnlineApp ι) (hnext : s.onlineApp.step e = some next)
      (he : ∀ e', e ≠ .world e') :
      Outcome env s (.online e) { s with screen := next.screen, snapshot := next.snapshot }

lemma outcome_of_step (h : step env s e = some s') : Outcome env s e s' := by
  cases e with
  | app e =>
      obtain ⟨app, happ, rfl⟩ := Option.map_eq_some_iff.mp h
      exact .app e app happ
  | online e =>
      cases e with
      | world e => cases h
      | takeSnapshot i query documents =>
          obtain ⟨next, hnext, rfl⟩ := Option.map_eq_some_iff.mp h
          exact .online _ next hnext fun _ h => by cases h
      | callback i query succeeds =>
          obtain ⟨next, hnext, rfl⟩ := Option.map_eq_some_iff.mp h
          exact .online _ next hnext fun _ h => by cases h
      | screen e =>
          obtain ⟨next, hnext, rfl⟩ := Option.map_eq_some_iff.mp h
          exact .online _ next hnext fun _ h => by cases h

end AppWithList

/-- What the installations do not see leaves the world alone. -/
lemma OnlineApp.world_of_step {ι : Type*} [DecidableEq ι] {app app' : OnlineApp ι}
    {e : OnlineAppEvent ι} (h : step app e = some app') (he : ∀ e', e ≠ .world e') :
    app'.world = app.world := by
  cases outcome_of_step h with
  | world e world hworld => exact absurd rfl (he e)
  | snapshot => rfl
  | screen => rfl

end Procon
