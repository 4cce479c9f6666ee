import Procon.Construction.Devices
import Procon.Construction.DocumentMakeSceneVC
import Procon.Construction.DocumentSaveSceneVC

/-!
# From a picture to the documents

A tap on save in `DocumentMakeSceneVC` presents a new `DocumentSaveSceneVC` and hands it the
picture and the text that are shown at that moment; the user may have typed into the text.  The
save screen puts them into an image view and a text view, in which the user may type too; its two
switches are off at first.  OK saves what the views hold by then.  The save screen stays up after a
save, so one tap on save may lead to several documents, and replies of the recognizer keep reaching
the make screen behind it.

An `Installation` is a device with these two screens.  Its make screen is loaded anew when the app
is launched, and when the question screen is left, which makes a new `TabController`.  An `App` is
any number of installations with their server; what the server, the clients and the stores see of
it are `Devices`.
-/

namespace Procon

open LabelledRun

/-! ## The save screen -/

/-- The code around the screens of an installation. -/
structure ScreenEnvironment where
  cv : OpenCV
  /-- What the recognizer makes of each request of each make screen that is loaded. -/
  outcome : ℕ → ℕ → Option (List String)
  /-- `UIImage(named: "noimage")`, which the storyboard shows at first. -/
  noimage : Option PixelImage
  /-- A picture, as far as `jpegData(compressionQuality: 1.0)` tells. -/
  uiImage : PixelImage → UIImage

/-- The views of the save screen that a document is made of. -/
structure SaveSheet where
  /-- `imageView.image`. -/
  imageView : Option PixelImage
  /-- The `text` of each input. -/
  text : TextInput → Option String

/-- All that decides how a tap on OK fares, apart from the inputs. -/
structure OkChoice where
  arrayOfSet : ArrayOfSet
  localUuid : NSUUID
  onlineUuid : NSUUID
  writeSucceeds : Bool
  steps : ℕ

namespace SaveSheet

def initializeImage (noimage receivedImage : Option PixelImage) : Option PixelImage :=
  match receivedImage with
  | some image => some image
  | none => noimage

/-- `viewDidLoad()`.  The text fields are empty. -/
def viewDidLoad (noimage : Option PixelImage) (received : ReceivedDocument) : SaveSheet where
  imageView := initializeImage noimage received.receivedImage
  text
    | .header => some ""
    | .date => some ""
    | .context => some received.receivedTextFromPreScene

/-- The user types into an input. -/
def type (input : TextInput) (text : String) (sheet : SaveSheet) : SaveSheet :=
  { sheet with text := Function.update sheet.text input (some text) }

/-- The tap on OK that saves what the views hold. -/
def okTap (env : ScreenEnvironment) (sheet : SaveSheet) (choice : OkChoice) : OkTap where
  arrayOfSet := choice.arrayOfSet
  localUuid := choice.localUuid
  onlineUuid := choice.onlineUuid
  header := sheet.text .header
  date := sheet.text .date
  context := sheet.text .context
  image := sheet.imageView.map env.uiImage
  writeSucceeds := choice.writeSucceeds
  steps := choice.steps

end SaveSheet

/-- The switches of a save screen that has just been loaded. -/
def Client.switchesOff (client : Client) : Client :=
  { client with switchSavingLocal := false, switchSavingOnline := false }

/-! ## An installation -/

structure Installation where
  device : Device
  make : DocumentMakeSceneVC
  /-- How many make screens have been loaded before this one. -/
  loads : ℕ
  /-- The save screen that is presented. -/
  sheet : Option SaveSheet

inductive InstallationEvent
  | make (e : MakeEvent)
  /-- The user types into the text view of the make screen. -/
  | edit (text : String)
  | type (input : TextInput) (text : String)
  /-- The save screen is swiped away. -/
  | dismiss
  /-- The question screen is left. -/
  | load
  | client (e : ClientEvent)
  /-- OK is tapped; `cut` tells whether the process ends in its handler. -/
  | okTapped (choice : OkChoice) (cut : Bool)

/-- An event of the views of the save screen. -/
def ClientEvent.onSaveSheet : ClientEvent → Bool
  | .switchSavingLocal _ | .switchSavingOnline _ | .saveButtonTapped => true
  | _ => false

def ClientEvent.isRestart : ClientEvent → Bool
  | .restart => true
  | _ => false

namespace Installation

/-- A fresh installation. -/
def install (env : ScreenEnvironment) : Installation where
  device := .install
  make := .viewDidLoad env.noimage
  loads := 0
  sheet := none

/-- A new make screen, and no save screen. -/
def load (env : ScreenEnvironment) (installation : Installation) : Installation :=
  { installation with
    make := .viewDidLoad env.noimage
    loads := installation.loads + 1
    sheet := none }

/-- `saveButtonTapped(_:)` of the make screen. -/
def presentSheet (env : ScreenEnvironment) (installation : Installation) : Installation :=
  { installation with
    device := { installation.device with client := installation.device.client.switchesOff }
    sheet := some (.viewDidLoad env.noimage installation.make.saveButtonTapped) }

/-- One event.  A save screen is presented where none is up, and is not swiped away from under an
alert. -/
def step (env : ScreenEnvironment) (server : Server) (installation : Installation) :
    InstallationEvent → Option (Server × Installation)
  | .make e =>
      (installation.make.step env.cv (env.outcome installation.loads) e).bind fun make =>
        if e = .saveButtonTapped then
          if installation.sheet.isNone then
            some (server, { installation with make := make }.presentSheet env)
          else none
        else some (server, { installation with make := make })
  | .edit text =>
      some (server, { installation with
        make := installation.make.updateSentenceView text })
  | .type input text =>
      installation.sheet.map fun sheet =>
        (server, { installation with sheet := some (sheet.type input text) })
  | .dismiss =>
      if installation.device.client.alert = none then
        some (server, { installation with sheet := none })
      else none
  | .load =>
      if installation.device.client.alert = none then some (server, installation.load env)
      else none
  | .client e =>
      if e.onSaveSheet && installation.sheet.isNone then none
      else (Device.step server installation.device (.client e)).map fun next =>
        let installation := { installation with device := next.2 }
        (next.1, if e.isRestart then installation.load env else installation)
  | .okTapped choice cut =>
      installation.sheet.bind fun sheet =>
        let tap := sheet.okTap env choice
        if Device.okCompletes tap server installation.device.dismissAlert = !cut then
          (Device.step server installation.device (.okTapped tap)).map fun next =>
            let installation := { installation with device := next.2 }
            (next.1, if cut then installation.load env else installation)
        else none

end Installation

/-! ## Any number of installations -/

structure App (ι : Type*) where
  server : Server
  installation : ι → Installation

inductive AppEvent (ι : Type*)
  | installation (c : ι) (e : InstallationEvent)
  | verify (uid : String)

namespace App

variable {ι : Type*}

/-- Fresh installations and an empty server. -/
def start (env : ι → ScreenEnvironment) : App ι := ⟨.empty, fun c => .install (env c)⟩

/-- What the server, the clients and the stores see of the app. -/
def devices (app : App ι) : Devices ι := ⟨app.server, fun c => (app.installation c).device⟩

/-- What they see of an event. -/
def deviceEvents (env : ι → ScreenEnvironment) (app : App ι) :
    AppEvent ι → List (DevicesEvent ι)
  | .installation c (.make .saveButtonTapped) =>
      [.device c (.client (.switchSavingLocal false)),
        .device c (.client (.switchSavingOnline false))]
  | .installation c (.client e) => [.device c (.client e)]
  | .installation c (.okTapped choice _) =>
      ((app.installation c).sheet.map fun sheet =>
        .device c (.okTapped (sheet.okTap (env c) choice))).toList
  | .installation _ _ => []
  | .verify uid => [.verify uid]

/-- One event. -/
def step [DecidableEq ι] (env : ι → ScreenEnvironment) (app : App ι) :
    AppEvent ι → Option (App ι)
  | .installation c e =>
      ((app.installation c).step (env c) app.server e).map fun next =>
        ⟨next.1, Function.update app.installation c next.2⟩
  | .verify uid =>
      (Devices.step app.devices (.verify uid)).map fun next => { app with server := next.server }

end App

/-! ## What one event can do -/

/-- The position into which an event moves a switch. -/
def ClientEvent.switchedLocal? : ClientEvent → Option Bool
  | .switchSavingLocal isOn => some isOn
  | _ => none

def ClientEvent.switchedOnline? : ClientEvent → Option Bool
  | .switchSavingOnline isOn => some isOn
  | _ => none

namespace Client

/-- What may become of the switches and of the question before a save. -/
structure SheetChange (client : Client) (e : ClientEvent) (client' : Client) : Prop where
  switchSavingLocal :
    client'.switchSavingLocal = e.switchedLocal?.getD client.switchSavingLocal
  switchSavingOnline :
    client'.switchSavingOnline = e.switchedOnline?.getD client.switchSavingOnline
  confirm : ∀ message, client'.alert = some (.confirm message) →
    client.alert = some (.confirm message) ∧ e.isRestart = false ∨
      e = .saveButtonTapped ∧ DocumentSaveSceneVC.saveButtonTapped client = .confirm message

section SheetChange

variable {server server' : Server} {client client' : Client} {e : ClientEvent}

lemma SheetChange.of_eq (hlocal : client'.switchSavingLocal = client.switchSavingLocal)
    (honline : client'.switchSavingOnline = client.switchSavingOnline)
    (halert : client'.alert = client.alert) (hlocal? : e.switchedLocal? = none)
    (honline? : e.switchedOnline? = none) (hrestart : e.isRestart = false) :
    SheetChange client e client' where
  switchSavingLocal := by rw [hlocal, hlocal?, Option.getD_none]
  switchSavingOnline := by rw [honline, honline?, Option.getD_none]
  confirm message h := Or.inl ⟨halert ▸ h, hrestart⟩

/-- **All that an event can do to the views of the save screen.** -/
lemma sheetChange_of_step (h : step server client e = some (server', client'))
    (hok : e.isOkTapped = false) : SheetChange client e client' := by
  cases e with
  | createUserSucceeds i uid displayName =>
      simp only [step] at h
      split at h
      · obtain ⟨-, heq⟩ := Option.ite_none_right_eq_some.mp h
        cases heq
        exact .of_eq rfl rfl rfl rfl rfl rfl
      · cases h
  | commitChangesSucceeds i stored =>
      simp only [step] at h
      split at h
      · split at h
        · obtain ⟨-, heq⟩ := Option.ite_none_right_eq_some.mp h
          cases heq
          exact .of_eq rfl rfl rfl rfl rfl rfl
        · cases h
      · cases h
  | sendEmailVerificationSucceeds i =>
      simp only [step] at h
      split at h
      · split at h
        · cases h
          exact .of_eq rfl rfl rfl rfl rfl rfl
        · cases h
      · cases h
  | signInSucceeds i uid =>
      simp only [step] at h
      split at h
      · cases h
        exact .of_eq rfl rfl rfl rfl rfl rfl
      · cases h
  | requestFails i =>
      simp only [step] at h
      split at h
      · obtain ⟨-, heq⟩ := Option.ite_none_left_eq_some.mp h
        cases heq
        exact .of_eq rfl rfl rfl rfl rfl rfl
      · cases h
  | callback i =>
      simp only [step] at h
      split at h
      · obtain ⟨-, heq⟩ := Option.ite_none_right_eq_some.mp h
        rename_i request hrequest
        split at heq
        · obtain ⟨scene, stage⟩ := request
          cases stage <;> cases heq <;> exact .of_eq rfl rfl rfl rfl rfl rfl
        · cases heq
          exact .of_eq rfl rfl rfl rfl rfl rfl
      · cases h
  | singUp name email =>
      obtain ⟨next, hsend, heq⟩ := Option.map_eq_some_iff.mp h
      obtain ⟨scene, -, rfl⟩ := Option.map_eq_some_iff.mp hsend
      cases heq
      exact .of_eq rfl rfl rfl rfl rfl rfl
  | signIn =>
      obtain ⟨next, hsend, heq⟩ := Option.map_eq_some_iff.mp h
      obtain ⟨scene, -, rfl⟩ := Option.map_eq_some_iff.mp hsend
      cases heq
      exact .of_eq rfl rfl rfl rfl rfl rfl
  | moveAuthScene =>
      obtain ⟨-, heq⟩ := Option.ite_none_right_eq_some.mp h
      cases heq
      exact .of_eq rfl rfl rfl rfl rfl rfl
  | saveButtonTapped =>
      obtain ⟨-, heq⟩ := Option.ite_none_right_eq_some.mp h
      cases heq
      exact ⟨rfl, rfl, fun message hconfirm => Or.inr ⟨rfl, Option.some.inj hconfirm⟩⟩
  | dismissAuthScene | signOut =>
      cases h
      exact .of_eq rfl rfl rfl rfl rfl rfl
  | restart | cancelTapped =>
      cases h
      exact ⟨rfl, rfl, fun message hconfirm => by cases hconfirm⟩
  | switchSavingLocal isOn | switchSavingOnline isOn =>
      cases h
      exact ⟨rfl, rfl, fun message hconfirm => Or.inl ⟨hconfirm, rfl⟩⟩
  | okTapped => cases hok

/-- A question is put when a switch is on, and tells how both stand. -/
lemma of_saveButtonTapped_eq_confirm {message : String}
    (h : DocumentSaveSceneVC.saveButtonTapped client = .confirm message) :
    (client.switchSavingLocal || client.switchSavingOnline) = true ∧
      message = DocumentSaveSceneVC.message client.switchSavingLocal client.switchSavingOnline := by
  unfold DocumentSaveSceneVC.saveButtonTapped at h
  split at h
  · cases h
  · rename_i hone
    refine ⟨?_, ?_⟩
    · revert hone
      cases client.switchSavingLocal <;> cases client.switchSavingOnline <;> simp
    · split at h
      · split at h
        · cases h
        · split at h
          · cases h
          · exact (Alert.confirm.inj h).symm
      · exact (Alert.confirm.inj h).symm

end SheetChange

end Client

/-- The handler of OK leaves the switches alone and puts no question. -/
lemma Device.sheetChange_okTapped {tap : OkTap} {server : Server} {device : Device} :
    let next := (Device.okTapped tap server device.dismissAlert).2.client
    next.switchSavingLocal = device.client.switchSavingLocal ∧
      next.switchSavingOnline = device.client.switchSavingOnline ∧
      ∀ message, next.alert ≠ some (.confirm message) := by
  intro next
  by_cases hcompletes : okCompletes tap server device.dismissAlert
  · have hnext : next = (DocumentSaveSceneVC.okAction tap.onlineDocInfo server
        device.dismissAlert.client).2 := by
      show (okTapped tap server device.dismissAlert).2.client = _
      rw [okTapped_of_completes hcompletes]
    rw [hnext]
    unfold DocumentSaveSceneVC.okAction DocumentSaveSceneVC.saveData2Online
    split
    · split
      · exact ⟨rfl, rfl, fun message h => by cases h⟩
      · exact ⟨rfl, rfl, fun message h => by cases h⟩
    · exact ⟨rfl, rfl, fun message h => by cases h⟩
  · rw [Bool.not_eq_true] at hcompletes
    have hnext : next = device.dismissAlert.client.relaunched := by
      show (okTapped tap server device.dismissAlert).2.client = _
      rw [okTapped_of_not_completes hcompletes]
    rw [hnext]
    exact ⟨rfl, rfl, fun message h => by cases h⟩

namespace Installation

variable {env : ScreenEnvironment} {server server' : Server}
  {installation installation' : Installation} {e : InstallationEvent}

/-- The outcomes of an event of an installation. -/
inductive Outcome (env : ScreenEnvironment) (server : Server) (installation : Installation) :
    InstallationEvent → Server → Installation → Prop
  | make (e : MakeEvent) (make : DocumentMakeSceneVC)
      (hmake : installation.make.step env.cv (env.outcome installation.loads) e = some make)
      (he : e ≠ .saveButtonTapped) :
      Outcome env server installation (.make e) server { installation with make := make }
  | presented (hsheet : installation.sheet = none) :
      Outcome env server installation (.make .saveButtonTapped) server
        (installation.presentSheet env)
  | edit (text : String) :
      Outcome env server installation (.edit text) server
        { installation with make := installation.make.updateSentenceView text }
  | type (input : TextInput) (text : String) (sheet : SaveSheet)
      (hsheet : installation.sheet = some sheet) :
      Outcome env server installation (.type input text) server
        { installation with sheet := some (sheet.type input text) }
  | dismiss (halert : installation.device.client.alert = none) :
      Outcome env server installation .dismiss server { installation with sheet := none }
  | load (halert : installation.device.client.alert = none) :
      Outcome env server installation .load server (installation.load env)
  | client (e : ClientEvent) (client : Client) (server' : Server) (hok : e.isOkTapped = false)
      (hsheet : e.onSaveSheet = true → installation.sheet ≠ none)
      (hstep : Client.step server installation.device.client e = some (server', client)) :
      Outcome env server installation (.client e) server'
        (let next := { installation with device := { installation.device with client := client } }
        if e.isRestart then next.load env else next)
  | ok (choice : OkChoice) (cut : Bool) (sheet : SaveSheet) (message : String)
      (hsheet : installation.sheet = some sheet)
      (halert : installation.device.client.alert = some (.confirm message))
      (hcut : Device.okCompletes (sheet.okTap env choice) server installation.device.dismissAlert =
        !cut) :
      Outcome env server installation (.okTapped choice cut)
        (Device.okTapped (sheet.okTap env choice) server installation.device.dismissAlert).1
        (let next := { installation with
          device := (Device.okTapped (sheet.okTap env choice) server
            installation.device.dismissAlert).2 }
        if cut then next.load env else next)

lemma outcome_of_step (h : step env server installation e = some (server', installation')) :
    Outcome env server installation e server' installation' := by
  cases e with
  | make e =>
      obtain ⟨make, hmake, h⟩ := Option.bind_eq_some_iff.mp h
      by_cases he : e = .saveButtonTapped
      · subst he
        rw [if_pos rfl] at h
        obtain ⟨hsheet, heq⟩ := Option.ite_none_right_eq_some.mp h
        obtain rfl := Option.some.inj hmake
        cases heq
        exact .presented (Option.isNone_iff_eq_none.mp hsheet)
      · rw [if_neg he] at h
        cases h
        exact .make e make hmake he
  | edit text =>
      cases h
      exact .edit text
  | type input text =>
      obtain ⟨sheet, hsheet, heq⟩ := Option.map_eq_some_iff.mp h
      cases heq
      exact .type input text sheet hsheet
  | dismiss =>
      obtain ⟨halert, heq⟩ := Option.ite_none_right_eq_some.mp h
      cases heq
      exact .dismiss halert
  | load =>
      obtain ⟨halert, heq⟩ := Option.ite_none_right_eq_some.mp h
      cases heq
      exact .load halert
  | client e =>
      obtain ⟨hsheet, heq⟩ := Option.ite_none_left_eq_some.mp h
      obtain ⟨⟨server'', device⟩, hstep, heq⟩ := Option.map_eq_some_iff.mp heq
      obtain ⟨hok, hstep⟩ := Option.ite_none_left_eq_some.mp hstep
      obtain ⟨⟨server'', client⟩, hclient, hnext⟩ := Option.map_eq_some_iff.mp hstep
      cases hnext
      cases heq
      refine .client e client _ (by simpa using hok) (fun hon hnone => hsheet ?_) hclient
      rw [hon, hnone]
      rfl
  | okTapped choice cut =>
      obtain ⟨sheet, hsheet, h⟩ := Option.bind_eq_some_iff.mp h
      obtain ⟨hcut, heq⟩ := Option.ite_none_right_eq_some.mp h
      obtain ⟨next, hstep, heq⟩ := Option.map_eq_some_iff.mp heq
      simp only [Device.step] at hstep
      split at hstep
      · rename_i message halert
        obtain rfl := Option.some.inj hstep
        cases heq
        exact .ok choice cut sheet message hsheet halert hcut
      · cases hstep

end Installation

namespace App

variable {ι : Type*} [DecidableEq ι] {env : ι → ScreenEnvironment} {app app' : App ι}
  {e : AppEvent ι}

/-- The outcomes of an event. -/
inductive Outcome (env : ι → ScreenEnvironment) (app : App ι) : AppEvent ι → App ι → Prop
  | installation (c : ι) (e : InstallationEvent) (server : Server) (installation : Installation)
      (hnext : Installation.Outcome (env c) app.server (app.installation c) e server
        installation) :
      Outcome env app (.installation c e)
        ⟨server, Function.update app.installation c installation⟩
  | verify (uid : String) (devices : Devices ι)
      (hstep : Devices.step app.devices (.verify uid) = some devices) :
      Outcome env app (.verify uid) { app with server := devices.server }

lemma outcome_of_step (h : step env app e = some app') : Outcome env app e app' := by
  cases e with
  | installation c e =>
      obtain ⟨⟨server, installation⟩, hnext, rfl⟩ := Option.map_eq_some_iff.mp h
      exact .installation c e server installation (Installation.outcome_of_step hnext)
  | verify uid =>
      obtain ⟨devices, hstep, rfl⟩ := Option.map_eq_some_iff.mp h
      exact .verify uid devices hstep

/-- The devices of an app, one installation of which has changed. -/
lemma devices_update {server : Server} {c : ι} {installation : Installation} :
    (⟨server, Function.update app.installation c installation⟩ : App ι).devices =
      app.devices.set c (server, installation.device) := by
  unfold devices Devices.set
  congr 1
  funext other
  show (Function.update app.installation c installation other).device =
    Function.update (fun c => (app.installation c).device) c installation.device other
  rw [Function.update_apply, Function.update_apply]
  split <;> rfl

lemma set_self {c : ι} : app.devices.set c (app.server, (app.installation c).device) =
    app.devices := by
  unfold devices Devices.set
  rw [Function.update_eq_self]

/-- Two switches are moved one after the other. -/
lemma run_switchesOff {devices : Devices ι} {c : ι} :
    run Devices.step devices [.device c (.client (.switchSavingLocal false)),
        .device c (.client (.switchSavingOnline false))] =
      some (devices.set c (devices.server, { devices.device c with
        client := (devices.device c).client.switchesOff })) := by
  have hself : ∀ next, (devices.set c next).device c = next.2 := fun next => by
    rw [Devices.set_device, if_pos rfl]
  have hset : ∀ next next', (devices.set c next).set c next' = devices.set c next' :=
    fun next next' => congrArg (Devices.mk next'.1) (Function.update_idem ..)
  show (Devices.step (devices.set c _) (.device c (.client (.switchSavingOnline false)))).bind
    some = _
  unfold Devices.step
  dsimp only
  rw [hself]
  exact congrArg some (hset _ _)

/-- **What the devices do at an event**: nothing at most events, and at a tap on save two switches
are moved. -/
lemma devices_of_step (h : step env app e = some app') :
    run Devices.step app.devices (app.deviceEvents env e) = some app'.devices := by
  cases outcome_of_step h with
  | verify uid devices hstep =>
      show (Devices.step app.devices (.verify uid)).bind some = _
      rw [hstep, Option.bind_some]
      cases Devices.outcome_of_step hstep
      rfl
  | installation c e server installation hnext =>
      rw [devices_update]
      cases hnext with
      | make e make hmake he =>
          have hnone : app.deviceEvents env (.installation c (.make e)) = [] := by
            cases e with
            | saveButtonTapped => exact absurd rfl he
            | _ => rfl
          rw [hnone]
          exact congrArg some set_self.symm
      | presented hsheet => exact run_switchesOff
      | edit text => exact congrArg some set_self.symm
      | type input text sheet hsheet => exact congrArg some set_self.symm
      | dismiss halert => exact congrArg some set_self.symm
      | load halert => exact congrArg some set_self.symm
      | client e client server' hok hsheet hstep =>
          have hdevice : Device.step app.server (app.installation c).device (.client e) =
              some (server, { (app.installation c).device with client := client }) := by
            unfold Device.step
            dsimp only
            rw [hstep, hok]
            rfl
          show (Devices.step app.devices (.device c (.client e))).bind some = _
          rw [Option.bind_fun_some]
          refine (congrArg (Option.map (app.devices.set c)) hdevice).trans ?_
          cases e.isRestart <;> rfl
      | ok choice cut sheet message hsheet halert hcut =>
          have hdevice : Device.step app.server (app.installation c).device
              (.okTapped (sheet.okTap (env c) choice)) =
                some (Device.okTapped (sheet.okTap (env c) choice) app.server
                  (app.installation c).device.dismissAlert) := by
            unfold Device.step
            dsimp only
            rw [halert]
          unfold deviceEvents
          dsimp only
          rw [hsheet]
          show (Devices.step app.devices (.device c _)).bind some = _
          rw [Option.bind_fun_some]
          refine (congrArg (Option.map (app.devices.set c)) hdevice).trans ?_
          cases cut <;> rfl

end App

end Procon
