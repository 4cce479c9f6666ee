import Procon.Construction.AppWithList
import Procon.Properties.AuthenticEntries
import Procon.Properties.DocumentOrigins

/-!
# From a picture to somebody's online list

A run of installations with an online list is a run of the installations (`app_of_run`) and, seen
from the list, a run of an `OnlineApp` (`online_of_run`).  So an entry of the list is an upload,
and an upload is a tap on OK of some installation, which comes from one tap on save
(`entries_have_origins`).  Under the schedules of `AnswersLastPick` the text that the list holds
was recognized in a picture there (`entries_recognized`).
-/

namespace Procon

open App LabelledRun

variable {ι : Type*} [DecidableEq ι] {env : ι → ScreenEnvironment} {s s' : AppWithList ι}
  {tr : List (AppWithListEvent ι)} {e : AppWithListEvent ι}

/-- The events of the installations. -/
def appEvents (tr : List (AppWithListEvent ι)) : List (AppEvent ι) :=
  tr.flatMap fun e => e.app?.toList

/-- The events of a run, as the list sees them. -/
def onlineTrace (env : ι → ScreenEnvironment) (tr : List (AppWithListEvent ι)) :
    List (OnlineAppEvent ι) :=
  (steps (AppWithList.step env) (.start env) tr).flatMap fun x => x.1.onlineEvents env x.2

namespace AppWithList

lemma app_of_step (h : step env s e = some s') :
    run (App.step env) s.app e.app?.toList = some s'.app := by
  cases outcome_of_step h with
  | app e app happ =>
      show (App.step env s.app e).bind some = _
      rw [Option.bind_fun_some, happ]
  | online e next hnext he => rfl

/-- What the list sees where the devices are these. -/
def onlineAppOf (s : AppWithList ι) (devices : Devices ι) : OnlineApp ι :=
  ⟨devices.world, s.screen, s.snapshot⟩

lemma online_of_devices {devices devices' : Devices ι} {events : List (DevicesEvent ι)}
    (h : run Devices.step devices events = some devices') :
    run OnlineApp.step (s.onlineAppOf devices)
        ((steps Devices.step devices events).map fun x => .world (x.1.worldEvent x.2)) =
          some (s.onlineAppOf devices') ∧
      steps OnlineApp.step (s.onlineAppOf devices)
          ((steps Devices.step devices events).map fun x => .world (x.1.worldEvent x.2)) =
        (steps Devices.step devices events).map fun x =>
          (s.onlineAppOf x.1, .world (x.1.worldEvent x.2)) :=
  run_of_projection (f := s.onlineAppOf)
    (g := fun devices e => OnlineAppEvent.world (devices.worldEvent e))
    (fun _ _ devices' hs =>
      Option.map_eq_some_iff.mpr ⟨devices'.world, Devices.world_of_step hs, rfl⟩) h

lemma online_of_step (h : step env s e = some s') :
    run OnlineApp.step s.onlineApp (s.onlineEvents env e) = some s'.onlineApp := by
  cases outcome_of_step h with
  | app e app happ => exact (online_of_devices (devices_of_step happ)).1
  | online e next hnext he =>
      show (OnlineApp.step s.onlineApp e).bind some = _
      rw [Option.bind_fun_some, hnext]
      have hworld : next.world = s.app.devices.world := OnlineApp.world_of_step hnext he
      unfold onlineApp
      dsimp only
      rw [← hworld]

/-! ## Runs -/

/-- The installations go through a run of their own. -/
lemma app_of_run (h : run (step env) (.start env) tr = some s) :
    run (App.step env) (.start env) (appEvents tr) = some s.app ∧
      steps (App.step env) (.start env) (appEvents tr) =
        (steps (step env) (.start env) tr).flatMap fun x =>
          steps (App.step env) x.1.app x.2.app?.toList := by
  have hexpand := run_of_expansion (f := AppWithList.app)
    (g := fun _ (e : AppWithListEvent ι) => e.app?.toList) (fun _ _ _ hs => app_of_step hs) h
  have hevents : ((steps (step env) (.start env) tr).flatMap fun x => x.2.app?.toList) =
      appEvents tr := flatMap_steps (f := fun e => e.app?.toList) h
  rw [hevents] at hexpand
  exact hexpand

/-- The list and what it sees go through a run of an `OnlineApp`. -/
lemma online_of_run (h : run (step env) (.start env) tr = some s) :
    run OnlineApp.step (.launch World.start) (onlineTrace env tr) = some s.onlineApp ∧
      steps OnlineApp.step (.launch World.start) (onlineTrace env tr) =
        (steps (step env) (.start env) tr).flatMap fun x =>
          steps OnlineApp.step x.1.onlineApp (x.1.onlineEvents env x.2) :=
  run_of_expansion (f := onlineApp) (fun _ _ _ hs => online_of_step hs) h

/-- An upload that the list may see is one of a tap on OK. -/
lemma exists_of_mem_uploads (h : run (step env) (.start env) tr = some s)
    {upload : String × DocumentInfo}
    (hupload : upload ∈ uploads World.start (onlineTrace env tr)) :
    ∃ c choice cut sheet u,
      Takes (App.step env) (.start env) (appEvents tr) u (.installation c (.okTapped choice cut)) ∧
      (u.installation c).sheet = some sheet ∧
      u.devices.upload? (.device c (.okTapped (sheet.okTap (env c) choice))) = some upload := by
  obtain ⟨y, hy, hfound⟩ := List.mem_filterMap.mp hupload
  rw [(online_of_run h).2] at hy
  obtain ⟨⟨t, e⟩, hx, hy⟩ := List.mem_flatMap.mp hy
  obtain ⟨next, hnext, -⟩ := Takes.exists_next hx h
  cases outcome_of_step hnext with
  | app e app happ =>
      have hdevices := devices_of_step happ
      have hsteps := (online_of_devices (s := t) hdevices).2
      have hy' : y ∈ steps OnlineApp.step (t.onlineAppOf t.app.devices)
          ((steps Devices.step t.app.devices (t.app.deviceEvents env e)).map fun x =>
            .world (x.1.worldEvent x.2)) := hy
      rw [hsteps] at hy'
      obtain ⟨⟨devices, de⟩, hde, rfl⟩ := List.mem_map.mp hy'
      obtain ⟨devices', hstep, -⟩ := Takes.exists_next hde hdevices
      have hupload? : devices.upload? de = some upload :=
        (Devices.upload?_of_step hstep).symm.trans hfound
      obtain ⟨c, tap, user, rfl, -⟩ := Devices.of_upload? hupload?
      obtain ⟨choice, cut, sheet, rfl, hsheet, rfl, heq⟩ := mem_deviceEvents (Takes.mem hde)
      rw [heq, steps_singleton] at hde
      obtain rfl := congrArg Prod.fst (List.mem_singleton.mp hde)
      refine ⟨c, choice, cut, sheet, t.app, ?_, hsheet, hupload?⟩
      rw [Takes, (app_of_run h).2]
      refine List.mem_flatMap.mpr ⟨_, hx, ?_⟩
      dsimp only [AppWithListEvent.app?, Option.toList_some]
      rw [steps_singleton]
      exact List.mem_singleton_self _
  | online e next hnext he =>
      have hy' : y ∈ steps OnlineApp.step t.onlineApp [e] := hy
      rw [steps_singleton] at hy'
      obtain rfl := List.mem_singleton.mp hy'
      cases e with
      | world e => exact absurd rfl (he e)
      | takeSnapshot | callback | screen => cases hfound

/-- The list holds the entry, or shows it in a cell. -/
def Lists (s : AppWithList ι) (entry : DataForOnlineList) : Prop :=
  entry ∈ s.screen.dataArray ∨ ∃ row, s.screen.cells row = some entry

/-- A tap on OK of some installation, with the online switch on, has saved the document from the
save screen that one tap on save presented, and the entry names the user who was signed in. -/
def HasOrigin (env : ι → ScreenEnvironment) (tr : List (AppWithListEvent ι)) (s : AppWithList ι)
    (entry : DataForOnlineList) : Prop :=
  ∃ c choice done filled later t u user,
    SavedBy env (appEvents tr) c choice false done filled later t u ∧
    onlineIsOn (eventsOf c filled) = true ∧
    (u.installation c).device.client.currentUser = some user ∧
    entry.document = (savedSheet env c filled t).docInfo choice.onlineUuid ∧
    Tells s.app.server.accounts user.uid entry.user

lemma hasOrigin_of_authentic (h : run (step env) (.start env) tr = some s)
    {entry : DataForOnlineList}
    (hentry : Authentic s.app.server.accounts (uploads World.start (onlineTrace env tr)) entry) :
    HasOrigin env tr s entry := by
  obtain ⟨uid, hupload, htells⟩ := hentry
  obtain ⟨c, choice, cut, sheet, u, htakes, hsheet, hfound⟩ := exists_of_mem_uploads h hupload
  obtain ⟨done, filled, later, t, user, hsaved, honline, huser, heq⟩ :=
    exists_savedBy_of_upload (app_of_run h).1 htakes hsheet hfound
  obtain ⟨rfl, hdocument⟩ := Prod.mk.inj heq
  exact ⟨c, choice, done, filled, later, t, u, user, hsaved, honline, huser, hdocument, htells⟩

lemma hasOrigin_of_lists (h : run (step env) (.start env) tr = some s)
    {entry : DataForOnlineList} (hentry : s.Lists entry) : HasOrigin env tr s entry := by
  have hscreen := (entriesInvariant_of_run (online_of_run h).1).screen
  refine hasOrigin_of_authentic h ?_
  rcases hentry with hmem | ⟨row, hrow⟩
  · exact hscreen.dataArray entry hmem
  · exact hscreen.cells row entry hrow

/-- **Every entry of the online list has one tap on save behind it.**  However the refreshes of the
list and the events of all installations are interleaved, an entry that the list holds, shows in a
cell or tells in an alert comes from a tap on OK of some installation with the online switch on, on
a save screen that one tap on save presented: its texts are those that were typed last into that
screen; where nothing was typed, title and date are empty and the text is the one that was shown at
that tap.  It names the user who was signed in there, by the name and the email of the account; only
the name may be empty. -/
theorem entries_have_origins (env : ι → ScreenEnvironment) (tr : List (AppWithListEvent ι))
    (s : AppWithList ι) (h : run (step env) (.start env) tr = some s) :
    (∀ entry, s.Lists entry → HasOrigin env tr s entry) ∧
      ∀ message, s.screen.alert = some message → ∃ entry, HasOrigin env tr s entry ∧
        message = DocumentOnlineListVC.message entry := by
  refine ⟨fun entry => hasOrigin_of_lists h, fun message hmessage => ?_⟩
  obtain ⟨entry, hentry, hsame⟩ :=
    (entriesInvariant_of_run (online_of_run h).1).screen.alert message hmessage
  exact ⟨entry, hasOrigin_of_authentic h hentry, hsame⟩

/-- **The text of an entry was recognized in a picture.**  Where the users leave the recognized
text as it is and each tap on save comes when the last reply was a success about the picture picked
last, every entry of the online list has the text that the recognizer found in a picture that it
was asked about on some installation. -/
theorem entries_recognized (env : ι → ScreenEnvironment) (tr : List (AppWithListEvent ι))
    (s : AppWithList ι) (h : run (step env) (.start env) tr = some s)
    (hedits : ∀ c, ∀ e ∈ eventsOf c (appEvents tr), e.editsText = false)
    (hschedule : ∀ c done rest,
      appEvents tr = done ++ .installation c (.make .saveButtonTapped) :: rest →
        AnswersLastPick ((env c).outcome ((eventsOf c done).countP InstallationEvent.loads))
          (sinceLoad (eventsOf c done)))
    (entry : DataForOnlineList) (hentry : s.Lists entry) :
    ∃ c picture, Recognized env (appEvents tr) c entry.document.context picture := by
  obtain ⟨c, choice, done, filled, later, t, u, user, hsaved, -, -, hdocument, -⟩ :=
    hasOrigin_of_lists h hentry
  obtain ⟨picture, hrecognized, -⟩ :=
    hsaved.recognized (hedits c) (hschedule c done _ hsaved.events)
  rw [hdocument]
  exact ⟨c, picture, hrecognized⟩

/-! ### A picture whose text is listed -/

/-- The document is saved, and a refresh shows it. -/
def listsBoth : List (AppWithListEvent Unit) :=
  savesBoth.map .app ++ (firstQuery [("user", ownerRecord)] ++ secondQuery
    [("user", documentRecord (.init .second (some "title") (some "") (some "text ")))]).map .online

lemma exists_of_listsBoth : ∃ s entry, run (step oneText) (.start oneText) listsBoth = some s ∧
    s.Lists entry ∧ entry.document.context = some "text " ∧
      entry.user = ⟨"User", "user@example.com"⟩ := by
  have hend : (run (step oneText) (.start oneText) listsBoth).bind (fun s =>
      s.screen.dataArray.head?.map fun entry => (entry.document.context, entry.user)) =
        some (some "text ", ⟨"User", "user@example.com"⟩) := by
    decide +kernel
  obtain ⟨s, hrun, hend⟩ := Option.bind_eq_some_iff.mp hend
  obtain ⟨entry, hentry, hend⟩ := Option.map_eq_some_iff.mp hend
  obtain ⟨hcontext, huser⟩ := Prod.mk.inj hend
  exact ⟨s, entry, hrun, Or.inl (List.mem_of_mem_head? hentry), hcontext, huser⟩

lemma appEvents_listsBoth : appEvents listsBoth = savesBoth := rfl

theorem entries_have_origins_listsBoth :
    ∃ s entry, run (step oneText) (.start oneText) listsBoth = some s ∧
      entry.user = ⟨"User", "user@example.com"⟩ ∧ HasOrigin oneText listsBoth s entry := by
  obtain ⟨s, entry, hrun, hentry, -, huser⟩ := exists_of_listsBoth
  exact ⟨s, entry, hrun, huser,
    (entries_have_origins oneText listsBoth s hrun).1 entry hentry⟩

theorem entries_recognized_listsBoth :
    ∃ entry : DataForOnlineList, entry.document.context = some "text " ∧
      ∃ c picture, Recognized oneText (appEvents listsBoth) c entry.document.context picture := by
  obtain ⟨s, entry, hrun, hentry, hcontext, -⟩ := exists_of_listsBoth
  refine ⟨entry, hcontext, entries_recognized oneText listsBoth s hrun (fun c => ?_)
    (fun c done rest h => ?_) entry hentry⟩
  · cases c
    rw [appEvents_listsBoth]
    decide
  · cases c
    rw [appEvents_listsBoth] at h
    rw [eq_of_savesBoth h]
    exact ⟨0, by decide, by decide, by decide⟩

end AppWithList

end Procon
