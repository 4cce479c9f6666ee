import Procon.Construction.Clients
import Procon.Construction.DocumentDataOperator

/-!
# Devices: a client with its local store

The handler of the OK button saves twice.  With the local switch on it runs `saveData2Local`,
with the online switch on `saveData2Online` after it, and each of the two makes a `DocumentInfo`
of its own, with an identifier that `NSUUID` draws for it.  The handler is a program of atomic
steps: a picture without JPEG data stops it in the local half, and the process may end between any
two of its steps.

A `Device` is a client with the stores it saves to.  `Devices` are any number of them with their
server; an event is an event of one device, or an account becoming verified.  What the server and
the clients see of it is a `World`.
-/

namespace Procon

open LabelledRun

/-- One installation of the app: its client and the stores of its device. -/
structure Device where
  client : Client
  store : LocalStore

/-- A tap on OK, with the inputs of the scene and all that decides how the handler fares. -/
structure OkTap where
  arrayOfSet : ArrayOfSet
  /-- The identifier that is drawn in `saveData2Local`. -/
  localUuid : NSUUID
  /-- The identifier that is drawn in `saveData2Online`. -/
  onlineUuid : NSUUID
  header : Option String
  date : Option String
  context : Option String
  image : Option UIImage
  writeSucceeds : Bool
  /-- How many atomic steps the process lasts for. -/
  steps : ℕ

namespace OkTap

def localDocInfo (tap : OkTap) : DocumentInfo :=
  .init tap.localUuid tap.header tap.date tap.context

def onlineDocInfo (tap : OkTap) : DocumentInfo :=
  .init tap.onlineUuid tap.header tap.date tap.context

/-- The atomic steps of the local half. -/
def saveData2Local (tap : OkTap) : List (LocalStore → Except Trap LocalStore) :=
  DocumentSaveSceneVC.saveData2Local tap.arrayOfSet tap.localDocInfo tap.image tap.writeSucceeds

end OkTap

/-- The end of the process, and a new launch: the session is kept. -/
def Client.relaunched (client : Client) : Client :=
  { client with authScene := none, request := fun _ => none, alert := none }

namespace Device

def install : Device := ⟨.install, .empty⟩

/-! ## The handler of the OK button -/

def getStore (state : Server × Device) : LocalStore := state.2.store

def putStore (store : LocalStore) (state : Server × Device) : Server × Device :=
  (state.1, { state.2 with store := store })

/-- A step of the local half, which sees the stores of the device only. -/
def onStore : (LocalStore → Except Trap LocalStore) →
    Server × Device → Except Trap (Server × Device) :=
  onPart getStore putStore

/-- The online half. -/
def saveData2Online (docInfo : DocumentInfo) (state : Server × Device) :
    Except Trap (Server × Device) :=
  let next := DocumentSaveSceneVC.saveData2Online docInfo state.1 state.2.client
  .ok (next.1, { state.2 with client := next.2 })

/-- The atomic steps of the handler, for the switches of the client. -/
def okAction (tap : OkTap) (client : Client) :
    List (Server × Device → Except Trap (Server × Device)) :=
  (if client.switchSavingLocal then tap.saveData2Local.map onStore else []) ++
    if client.switchSavingOnline then [saveData2Online tap.onlineDocInfo] else []

/-- The handler gets to its end. -/
def okCompletes (tap : OkTap) (server : Server) (device : Device) : Bool :=
  completes tap.steps (okAction tap device.client) (server, device)

/-- What the handler leaves; where the process ends, the app is launched anew. -/
def okTapped (tap : OkTap) (server : Server) (device : Device) : Server × Device :=
  let next := runFor tap.steps (okAction tap device.client) (server, device)
  if okCompletes tap server device then next
  else (next.1, { next.2 with client := next.2.client.relaunched })

end Device

/-! ## The events of a device -/

def ClientEvent.isOkTapped : ClientEvent → Bool
  | .okTapped .. => true
  | _ => false

inductive DeviceEvent
  /-- An event that the stores of the device play no part in. -/
  | client (e : ClientEvent)
  | okTapped (tap : OkTap)

/-- The alert is dismissed before the handler of its button runs. -/
def Device.dismissAlert (device : Device) : Device :=
  { device with client := { device.client with alert := none } }

/-- One event of a device. -/
def Device.step (server : Server) (device : Device) : DeviceEvent → Option (Server × Device)
  | .client e =>
      if e.isOkTapped then none
      else (Client.step server device.client e).map fun next =>
        (next.1, { device with client := next.2 })
  | .okTapped tap =>
      match device.client.alert with
      | some (.confirm _) => some (okTapped tap server device.dismissAlert)
      | _ => none

/-! ## Any number of devices -/

structure Devices (ι : Type*) where
  server : Server
  device : ι → Device

inductive DevicesEvent (ι : Type*)
  | device (c : ι) (e : DeviceEvent)
  | verify (uid : String)

namespace Devices

variable {ι : Type*}

/-- Fresh installations and an empty server. -/
def start : Devices ι := ⟨.empty, fun _ => .install⟩

/-- The server and one device after an event of the device. -/
def set [DecidableEq ι] (devices : Devices ι) (c : ι) (next : Server × Device) : Devices ι :=
  ⟨next.1, Function.update devices.device c next.2⟩

/-- What the server and the clients see of the devices. -/
def world (devices : Devices ι) : World ι :=
  ⟨devices.server, fun c => (devices.device c).client⟩

/-- What the server and the clients see of an event. -/
def worldEvent (devices : Devices ι) : DevicesEvent ι → WorldEvent ι
  | .device c (.client e) => .client c e
  | .device c (.okTapped tap) =>
      if Device.okCompletes tap devices.server (devices.device c).dismissAlert then
        .client c (.okTapped tap.onlineUuid tap.header tap.date tap.context)
      else .client c .restart
  | .verify uid => .verify uid

/-- One event.  An account may be verified once its mail has been sent. -/
def step [DecidableEq ι] (devices : Devices ι) : DevicesEvent ι → Option (Devices ι)
  | .device c e =>
      (Device.step devices.server (devices.device c) e).map (devices.set c)
  | .verify uid =>
      match devices.server.accounts uid with
      | some account =>
          if account.mailSent then
            some { devices with
              server := devices.server.setAccount uid { account with isEmailVerified := true } }
          else none
      | none => none

end Devices

/-! ## What the handler does -/

namespace Device

variable {tap : OkTap} {server : Server} {device : Device}

/-- The local half sees the stores of the device only. -/
lemma runFor_map_onStore (n : ℕ) (ops : List (LocalStore → Except Trap LocalStore)) :
    runFor n (ops.map onStore) (server, device) =
        (server, { device with store := runFor n ops device.store }) ∧
      completes n (ops.map onStore) (server, device) = completes n ops device.store :=
  runFor_map_onPart getStore putStore (fun _ _ => rfl) (fun _ _ _ => rfl)
    (fun _ => rfl) n ops (server, device)

/-- The stores that the handler leaves. -/
def storeAfterOk (tap : OkTap) (device : Device) : LocalStore :=
  if device.client.switchSavingLocal then runFor tap.steps tap.saveData2Local device.store
  else device.store

/-- The local half gets to its end. -/
def localCompletes (tap : OkTap) (device : Device) : Bool :=
  if device.client.switchSavingLocal then completes tap.steps tap.saveData2Local device.store
  else true

/-- The local half of the handler. -/
def localHalf (tap : OkTap) (client : Client) :
    List (Server × Device → Except Trap (Server × Device)) :=
  if client.switchSavingLocal then tap.saveData2Local.map onStore else []

lemma runFor_localHalf :
    runFor tap.steps (localHalf tap device.client) (server, device) =
        (server, { device with store := storeAfterOk tap device }) ∧
      completes tap.steps (localHalf tap device.client) (server, device) =
        localCompletes tap device := by
  unfold localHalf storeAfterOk localCompletes
  by_cases hlocal : device.client.switchSavingLocal
  · rw [if_pos hlocal, if_pos hlocal, if_pos hlocal]
    exact runFor_map_onStore tap.steps tap.saveData2Local
  · rw [if_neg hlocal, if_neg hlocal, if_neg hlocal]
    exact ⟨runFor_nil tap.steps, completes_nil tap.steps⟩

/-- The online half is one step, which cannot fail. -/
lemma runFor_saveData2Online {docInfo : DocumentInfo} {state : Server × Device} (n : ℕ) :
    completes n [saveData2Online docInfo] state = decide (n ≠ 0) ∧
      (n ≠ 0 → .ok (runFor n [saveData2Online docInfo] state) = saveData2Online docInfo state) ∧
      (n = 0 → runFor n [saveData2Online docInfo] state = state) := by
  cases n with
  | zero => exact ⟨rfl, fun h => absurd rfl h, fun _ => rfl⟩
  | succ n => cases n <;> exact ⟨rfl, fun _ => rfl, nofun⟩

/-- A handler gets to its end when the local half does and a step is left for the online one. -/
lemma okCompletes_eq :
    okCompletes tap server device =
      (localCompletes tap device && (!device.client.switchSavingOnline ||
        decide (tap.steps - (localHalf tap device.client).length ≠ 0))) := by
  show completes tap.steps (localHalf tap device.client ++ _) (server, device) = _
  rw [completes_append, runFor_localHalf.2]
  cases device.client.switchSavingOnline
  · rw [if_neg (by simp), completes_nil, Bool.not_false, Bool.true_or]
  · rw [if_pos rfl, (runFor_saveData2Online _).1, Bool.not_true, Bool.false_or]

lemma localCompletes_of_okCompletes (h : okCompletes tap server device = true) :
    localCompletes tap device = true := by
  rw [okCompletes_eq, Bool.and_eq_true] at h
  exact h.1

/-- **What a handler does that gets to its end**: the local half, and then the online half, as the
switches say. -/
lemma okTapped_of_completes (h : okCompletes tap server device = true) :
    okTapped tap server device =
      ((DocumentSaveSceneVC.okAction tap.onlineDocInfo server device.client).1,
        ⟨(DocumentSaveSceneVC.okAction tap.onlineDocInfo server device.client).2,
          storeAfterOk tap device⟩) := by
  have hboth := okCompletes_eq ▸ h
  obtain ⟨hlocal, honline⟩ := Bool.and_eq_true_iff.mp hboth
  unfold okTapped
  rw [if_pos h]
  show runFor tap.steps (localHalf tap device.client ++ _) (server, device) = _
  rw [runFor_append, runFor_localHalf.1, runFor_localHalf.2, if_pos hlocal]
  unfold DocumentSaveSceneVC.okAction
  by_cases hswitch : device.client.switchSavingOnline
  · rw [if_pos hswitch, if_pos hswitch]
    have hleft : tap.steps - (localHalf tap device.client).length ≠ 0 := by
      simpa [hswitch] using honline
    exact Except.ok.inj ((runFor_saveData2Online _).2.1 hleft)
  · rw [if_neg hswitch, if_neg hswitch, runFor_nil]

/-- **What a handler does that is cut**: the server and the session are as before. -/
lemma okTapped_of_not_completes (h : okCompletes tap server device = false) :
    okTapped tap server device =
      (server, ⟨device.client.relaunched, storeAfterOk tap device⟩) := by
  have hcut : runFor tap.steps (okAction tap device.client) (server, device) =
      (server, { device with store := storeAfterOk tap device }) := by
    show runFor tap.steps (localHalf tap device.client ++ _) (server, device) = _
    rw [runFor_append, runFor_localHalf.1, runFor_localHalf.2]
    by_cases hlocal : localCompletes tap device
    · rw [if_pos hlocal]
      rw [okCompletes_eq, hlocal, Bool.true_and, Bool.or_eq_false_iff] at h
      obtain ⟨hswitch, hleft⟩ := h
      have hnone : tap.steps - (localHalf tap device.client).length = 0 := by simpa using hleft
      rw [if_pos (by simpa using hswitch)]
      exact (runFor_saveData2Online _).2.2 hnone
    · rw [if_neg hlocal]
  unfold okTapped
  rw [h, hcut]
  rfl

end Device

/-! ## What an event does -/

namespace Devices

variable {ι : Type*} {devices devices' : Devices ι} {e : DevicesEvent ι} {c : ι}

/-- The outcomes of an event. -/
inductive Outcome [DecidableEq ι] (devices : Devices ι) : DevicesEvent ι → Devices ι → Prop
  | client (c : ι) (e : ClientEvent) (next : Server × Client) (hok : e.isOkTapped = false)
      (hnext : Client.step devices.server (devices.device c).client e = some next) :
      Outcome devices (.device c (.client e))
        (devices.set c (next.1, { devices.device c with client := next.2 }))
  | ok (c : ι) (tap : OkTap) (message : String)
      (halert : (devices.device c).client.alert = some (.confirm message)) :
      Outcome devices (.device c (.okTapped tap))
        (devices.set c (Device.okTapped tap devices.server (devices.device c).dismissAlert))
  | verify (uid : String) (account : Account)
      (haccount : devices.server.accounts uid = some account) (hsent : account.mailSent = true) :
      Outcome devices (.verify uid) { devices with
        server := devices.server.setAccount uid { account with isEmailVerified := true } }

lemma outcome_of_step [DecidableEq ι] (h : step devices e = some devices') :
    Outcome devices e devices' := by
  cases e with
  | device c e =>
      obtain ⟨next, hnext, rfl⟩ := Option.map_eq_some_iff.mp h
      cases e with
      | client e =>
          obtain ⟨hok, heq⟩ := Option.ite_none_left_eq_some.mp hnext
          obtain ⟨next', hnext', rfl⟩ := Option.map_eq_some_iff.mp heq
          exact .client c e next' (by simpa using hok) hnext'
      | okTapped tap =>
          simp only [Device.step] at hnext
          split at hnext
          · rename_i message halert
            obtain rfl := Option.some.inj hnext
            exact .ok c tap message halert
          · cases hnext
  | verify uid =>
      simp only [step] at h
      split at h
      · rename_i account haccount
        obtain ⟨hsent, heq⟩ := Option.ite_none_right_eq_some.mp h
        obtain rfl := Option.some.inj heq
        exact .verify uid account haccount hsent
      · cases h

lemma set_device [DecidableEq ι] {next : Server × Device} (other : ι) :
    (devices.set c next).device other = if other = c then next.2 else devices.device other :=
  Function.update_apply ..

lemma world_set [DecidableEq ι] {next : Server × Device} :
    (devices.set c next).world =
      ⟨next.1, Function.update devices.world.client c next.2.client⟩ := by
  show (⟨next.1, fun other => ((devices.set c next).device other).client⟩ : World ι) = _
  refine congrArg (World.mk next.1) (funext fun other => ?_)
  rw [set_device, Function.update_apply]
  by_cases hother : other = c
  · rw [if_pos hother, if_pos hother]
  · rw [if_neg hother, if_neg hother]
    rfl

end Devices

end Procon
