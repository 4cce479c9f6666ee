import Procon.Construction.Devices
import Procon.Properties.InterruptedSaves
import Procon.Properties.OwnerRecord
import Procon.Properties.UploadedDocuments
import Mathlib.Data.List.Flatten

/-!
# The local and the online copy of a document

An OK with both switches on saves a document twice, each copy under an identifier of its own.
`world_of_step` shows that the server and the clients of any number of devices behave as a `World`
does, event by event, so that what is proved about worlds holds of devices; `store_of_step` that
the stores of a device are what its local saves make of them, and nothing else.

The identifiers of a run are assumed to be drawn afresh.  Then no identifier is ever found at two
places (`copies_never_meet`), and what was to be kept on the device and shared is there for as
long as it is shared, however often processes end in the middle (`shared_documents_kept`).
-/

namespace Procon

open NestedMap LabelledRun

variable {ι : Type*} [DecidableEq ι] {devices devices' : Devices ι} {e : DevicesEvent ι} {c : ι}
  {tr : List (DevicesEvent ι)}

/-! ## What the server and the clients see -/

/-- A local save gets to its end when it gets as far as `saveDocumentInfo`. -/
lemma LocalSave.completes_eq (save : LocalSave) (store : LocalStore) :
    completes save.steps (DocumentSaveSceneVC.saveData2Local save.arrayOfSet save.docInfo save.image
      save.writeSucceeds) store = save.archives := by
  obtain ⟨arrayOfSet, uuid, header, date, context, image, writeSucceeds, steps⟩ := save
  rcases image with _ | ⟨_ | jpgImageData⟩
  · rcases steps with _ | _ | n <;> simp [DocumentSaveSceneVC.saveData2Local, completes, archives]
  · rcases steps with _ | _ | n <;> simp [DocumentSaveSceneVC.saveData2Local, completes, archives,
      DocumentDataOperator.saveDocumentData, DocumentDataOperator.saveImage, Except.map]
  · rcases steps with _ | _ | _ | n <;> cases writeSucceeds <;>
      simp [DocumentSaveSceneVC.saveData2Local, completes, archives,
        DocumentDataOperator.saveDocumentData, DocumentDataOperator.saveImage, Except.map]

/-- The local save that a tap on OK makes. -/
def OkTap.localSave (tap : OkTap) : LocalSave where
  arrayOfSet := tap.arrayOfSet
  uuid := tap.localUuid
  header := tap.header
  date := tap.date
  context := tap.context
  image := tap.image
  writeSucceeds := tap.writeSucceeds
  steps := tap.steps

namespace Devices

omit [DecidableEq ι] in
lemma worldEvent_of_completes {tap : OkTap}
    (h : Device.okCompletes tap devices.server (devices.device c).dismissAlert = true) :
    devices.worldEvent (.device c (.okTapped tap)) =
      .client c (.okTapped tap.onlineUuid tap.header tap.date tap.context) := if_pos h

omit [DecidableEq ι] in
lemma worldEvent_of_not_completes {tap : OkTap}
    (h : Device.okCompletes tap devices.server (devices.device c).dismissAlert = false) :
    devices.worldEvent (.device c (.okTapped tap)) = .client c .restart :=
  if_neg (by rw [h]; exact Bool.false_ne_true)

/-- **Projection.**  An event of the devices is an event of their world: a tap on OK is the online
half of its handler, or the end of the process. -/
lemma world_of_step (h : step devices e = some devices') :
    World.step devices.world (devices.worldEvent e) = some devices'.world := by
  cases outcome_of_step h with
  | client c e next hok hnext =>
      rw [world_set]
      exact Option.map_eq_some_iff.mpr ⟨next, hnext, rfl⟩
  | ok c tap message halert =>
      rw [world_set]
      by_cases hcompletes : Device.okCompletes tap devices.server (devices.device c).dismissAlert
      · rw [worldEvent_of_completes hcompletes, Device.okTapped_of_completes hcompletes]
        refine Option.map_eq_some_iff.mpr ⟨_, ?_, rfl⟩
        show Client.step devices.server (devices.device c).client _ = _
        simp only [Client.step, halert]
        rfl
      · rw [Bool.not_eq_true] at hcompletes
        rw [worldEvent_of_not_completes hcompletes, Device.okTapped_of_not_completes hcompletes]
        exact Option.map_eq_some_iff.mpr ⟨_, rfl, rfl⟩
  | verify uid account haccount hsent =>
      have hserver : devices.world.server.accounts uid = some account := haccount
      show World.step devices.world (.verify uid) = _
      simp only [World.step, hserver]
      exact if_pos hsent

/-! ## What the stores of a device see -/

/-- The local save that an event makes on a device. -/
def localSave? (devices : Devices ι) (c : ι) : DevicesEvent ι → Option LocalSave
  | .device c' (.okTapped tap) =>
      if c = c' ∧ (devices.device c').client.switchSavingLocal then some tap.localSave else none
  | _ => none

omit [DecidableEq ι] in
lemma store_okTapped {tap : OkTap} {server : Server} {device : Device} :
    (Device.okTapped tap server device).2.store = Device.storeAfterOk tap device := by
  by_cases hcompletes : Device.okCompletes tap server device
  · rw [Device.okTapped_of_completes hcompletes]
  · rw [Bool.not_eq_true] at hcompletes
    rw [Device.okTapped_of_not_completes hcompletes]

/-- The stores of a device change by its local saves only. -/
lemma store_of_step (h : step devices e = some devices') :
    (devices'.device c).store =
      match devices.localSave? c e with
      | some save => save.apply (devices.device c).store
      | none => (devices.device c).store := by
  cases outcome_of_step h with
  | client c' e next hok hnext =>
      rw [set_device]
      split
      · rename_i hc
        subst hc
        rfl
      · rfl
  | ok c' tap message halert =>
      rw [set_device]
      simp only [localSave?]
      by_cases hc : c = c'
      · subst hc
        rw [if_pos rfl, store_okTapped]
        unfold Device.storeAfterOk
        show (if (devices.device c).client.switchSavingLocal = true then _ else _) = _
        by_cases hlocal : (devices.device c).client.switchSavingLocal
        · rw [if_pos hlocal, if_pos ⟨rfl, hlocal⟩]
          rfl
        · rw [if_neg hlocal, if_neg fun hboth => hlocal hboth.2]
          rfl
      · rw [if_neg hc, if_neg fun hboth => hc hboth.1]
  | verify => rfl

/-! ## Runs -/

/-- The events of a run, as the server and the clients see them. -/
def worldTrace (tr : List (DevicesEvent ι)) : List (WorldEvent ι) :=
  (steps step start tr).map fun x => x.1.worldEvent x.2

/-- The local saves that a run makes on a device. -/
def localSaves (c : ι) (tr : List (DevicesEvent ι)) : List LocalSave :=
  (steps step start tr).filterMap fun x => x.1.localSave? c x.2

/-- The document an event uploads, with its owner. -/
def upload? (devices : Devices ι) : DevicesEvent ι → Option (String × DocumentInfo)
  | .device c (.okTapped tap) =>
      if Device.okCompletes tap devices.server (devices.device c).dismissAlert ∧
          (devices.device c).client.switchSavingOnline then
        (devices.device c).client.currentUser.map fun user => (user.uid, tap.onlineDocInfo)
      else none
  | _ => none

/-- The uploads of a run, each with its owner. -/
def uploads (tr : List (DevicesEvent ι)) : List (String × DocumentInfo) :=
  (steps step start tr).filterMap fun x => x.1.upload? x.2

/-- **The run lemma** for the stores of a device. -/
lemma store_of_run (h : run step start tr = some devices) :
    (devices.device c).store = afterSaves (localSaves c tr) := by
  refine run_induction (P := fun tr devices =>
    (devices.device c).store = afterSaves (localSaves c tr)) rfl ?_ h
  intro tr devices e devices' hrun ih hstep
  rw [store_of_step hstep, ih]
  unfold localSaves
  rw [steps_concat hrun, List.filterMap_append]
  cases hsave : devices.localSave? c e with
  | none => simp [hsave]
  | some save => simp [hsave, afterSaves]

/-- **Devices are a world with stores.**  What the server and the clients do in a run of the
devices, with both halves of every save and with processes that end anywhere in them, is a run of
their world, event by event; and the stores of each device hold what its local saves have made of
them, in their order. -/
theorem world_of_run (tr : List (DevicesEvent ι)) (devices : Devices ι)
    (h : run step start tr = some devices) :
    run World.step World.start (worldTrace tr) = some devices.world ∧
      (worldTrace tr).length = tr.length ∧
      ∀ c, (devices.device c).store = afterSaves (localSaves c tr) := by
  refine ⟨?_, ?_, fun c => store_of_run h⟩
  · exact (run_of_projection (fun s e s' hs => world_of_step hs) h).1
  · rw [worldTrace, List.length_map]
    have hlength := congrArg List.length (map_snd_steps h)
    rwa [List.length_map] at hlength

/-! ## Identifiers -/

/-- The identifiers that are drawn for an event. -/
def drawn : DevicesEvent ι → List String
  | .device _ (.okTapped tap) => [tap.localUuid.uuidString, tap.onlineUuid.uuidString]
  | _ => []

/-- No identifier is drawn twice. -/
def DrawnAfresh (tr : List (DevicesEvent ι)) : Prop := (tr.flatMap drawn).Nodup

instance (tr : List (DevicesEvent ι)) : Decidable (DrawnAfresh tr) :=
  inferInstanceAs (Decidable (List.Nodup _))

lemma of_localSave? {save : LocalSave} (h : devices.localSave? c e = some save) :
    ∃ tap, e = .device c (.okTapped tap) ∧ (devices.device c).client.switchSavingLocal = true ∧
      save = tap.localSave := by
  cases e with
  | verify uid => cases h
  | device c' e =>
      cases e with
      | client e => cases h
      | okTapped tap =>
          obtain ⟨⟨rfl, hlocal⟩, heq⟩ := Option.ite_none_right_eq_some.mp h
          exact ⟨tap, rfl, hlocal, (Option.some.inj heq).symm⟩

omit [DecidableEq ι] in
/-- An upload is made by a handler that gets to its end, for the current user. -/
lemma of_upload? {upload : String × DocumentInfo} (h : devices.upload? e = some upload) :
    ∃ c tap user, e = .device c (.okTapped tap) ∧
      Device.okCompletes tap devices.server (devices.device c).dismissAlert = true ∧
      (devices.device c).client.currentUser = some user ∧
      upload = (user.uid, tap.onlineDocInfo) := by
  cases e with
  | verify uid => cases h
  | device c e =>
      cases e with
      | client e => cases h
      | okTapped tap =>
          obtain ⟨⟨hcompletes, -⟩, heq⟩ := Option.ite_none_right_eq_some.mp h
          obtain ⟨user, huser, rfl⟩ := Option.map_eq_some_iff.mp heq
          exact ⟨c, tap, user, rfl, hcompletes, huser, rfl⟩

omit [DecidableEq ι] in
lemma switchSavingOnline_of_upload? {tap : OkTap} {upload : String × DocumentInfo}
    (h : devices.upload? (.device c (.okTapped tap)) = some upload) :
    (devices.device c).client.switchSavingOnline = true := by
  obtain ⟨⟨-, honline⟩, -⟩ := Option.ite_none_right_eq_some.mp h
  exact honline

/-- The uploads of an event are those its world sees. -/
lemma upload?_of_step (h : step devices e = some devices') :
    (devices.world.uploads (devices.worldEvent e)).map (fun upload => (upload.1.uid, upload.2)) =
      devices.upload? e := by
  cases outcome_of_step h with
  | client c e next hok hnext =>
      show ((devices.device c).client.uploads e).map _ = none
      cases e with
      | okTapped => cases hok
      | _ => rfl
  | ok c tap message halert =>
      simp only [upload?]
      by_cases hcompletes : Device.okCompletes tap devices.server (devices.device c).dismissAlert
      · have huploads : devices.world.uploads
            (.client c (.okTapped tap.onlineUuid tap.header tap.date tap.context)) =
              if (devices.device c).client.switchSavingOnline then
                (devices.device c).client.currentUser.map fun user => (user, tap.onlineDocInfo)
              else none := rfl
        rw [worldEvent_of_completes hcompletes, huploads]
        by_cases honline : (devices.device c).client.switchSavingOnline
        · rw [if_pos honline, if_pos ⟨hcompletes, honline⟩, Option.map_map]
          rfl
        · rw [if_neg honline, if_neg fun hboth => honline hboth.2]
          rfl
      · rw [Bool.not_eq_true] at hcompletes
        rw [worldEvent_of_not_completes hcompletes, if_neg (by simp [hcompletes])]
        rfl
  | verify => rfl

/-- Every event of a run has happened. -/
lemma exists_step_of_mem {x : Devices ι × DevicesEvent ι} (h : run step start tr = some devices)
    (hx : x ∈ steps step start tr) : ∃ next, step x.1 x.2 = some next := by
  obtain ⟨next, hnext, -⟩ := Takes.exists_next (s := x.1) (e := x.2) hx h
  exact ⟨next, hnext⟩

/-- **No upload overwrites another.** -/
lemma get_documents_iff (h : run step start tr = some devices)
    (hdistinct : ((uploads tr).map fun upload => upload.2.uid).Nodup) (uid field : String)
    (val : FieldValue) :
    get devices.server.documents uid field = some val ↔
      (uid, field, val) ∈ (uploads tr).map cellOf := by
  have hstep : ∀ (s : Devices ι) e s', step s e = some s' →
      OnlineApp.step (.launch s.world) (.world (s.worldEvent e)) = some (.launch s'.world) :=
    fun s e s' hs => Option.map_eq_some_iff.mpr ⟨s'.world, world_of_step hs, rfl⟩
  have hproject := run_of_projection
    (f := fun devices : Devices ι => OnlineApp.launch devices.world)
    (g := fun devices e => OnlineAppEvent.world (devices.worldEvent e)) hstep h
  have huploads : Procon.uploads (world (start : Devices ι))
      ((steps step start tr).map fun x => .world (x.1.worldEvent x.2)) = uploads tr := by
    unfold Procon.uploads uploads
    rw [hproject.2, List.filterMap_map]
    refine List.filterMap_congr fun x hx => ?_
    obtain ⟨next, hnext⟩ := exists_step_of_mem h hx
    exact upload?_of_step hnext
  have hiff := mem_uploads_iff rfl hproject.1 (huploads ▸ hdistinct) uid field val
  rw [huploads] at hiff
  exact hiff.symm

omit [DecidableEq ι] in
lemma mem_drawn {tap : OkTap} :
    tap.localUuid.uuidString ∈ drawn (.device c (.okTapped tap)) ∧
      tap.onlineUuid.uuidString ∈ drawn (.device c (.okTapped tap)) :=
  ⟨List.mem_cons_self, List.mem_cons_of_mem _ List.mem_cons_self⟩

lemma nodup_localSaves (h : run step start tr = some devices) (hfresh : DrawnAfresh tr) :
    ((localSaves c tr).map LocalSave.uid).Nodup := by
  refine nodup_map_filterMap (nodup_flatMap_steps h hfresh) fun x hx save hsave => ?_
  obtain ⟨tap, he, -, rfl⟩ := of_localSave? hsave
  rw [he]
  exact List.mem_cons_self

lemma nodup_uploads (h : run step start tr = some devices) (hfresh : DrawnAfresh tr) :
    ((uploads tr).map fun upload => upload.2.uid).Nodup := by
  refine nodup_map_filterMap (nodup_flatMap_steps h hfresh) fun x hx upload hupload => ?_
  obtain ⟨c, tap, user, he, -, -, rfl⟩ := of_upload? hupload
  rw [he]
  exact List.mem_cons_of_mem _ List.mem_cons_self

/-- An identifier on a device was drawn for a local save of that device. -/
lemma exists_of_mem_getUidArray (h : run step start tr = some devices) (hfresh : DrawnAfresh tr)
    {id : String} (hid : id ∈ (devices.device c).store.getUidArray) :
    ∃ s tap, (s, .device c (.okTapped tap)) ∈ steps step start tr ∧
      tap.localUuid.uuidString = id := by
  rw [store_of_run h, (describes_afterSaves _ (nodup_localSaves h hfresh)).mem_getUidArray] at hid
  obtain ⟨save, hsave, -, rfl⟩ := hid
  obtain ⟨⟨s, e⟩, hx, hfound⟩ := List.mem_filterMap.mp hsave
  obtain ⟨tap, he, -, rfl⟩ := of_localSave? hfound
  dsimp only at he
  subst he
  exact ⟨s, tap, hx, rfl⟩

/-- An identifier on the server was drawn for an upload by that user. -/
lemma exists_of_get_documents (h : run step start tr = some devices) (hfresh : DrawnAfresh tr)
    {uid id : String} (hid : (get devices.server.documents uid id).isSome) :
    ∃ s c tap user, (s, .device c (.okTapped tap)) ∈ steps step start tr ∧
      (s.device c).client.currentUser = some user ∧ user.uid = uid ∧
      tap.onlineUuid.uuidString = id := by
  obtain ⟨val, hval⟩ := Option.isSome_iff_exists.mp hid
  rw [get_documents_iff h (nodup_uploads h hfresh)] at hval
  obtain ⟨upload, hupload, hcell⟩ := List.mem_map.mp hval
  obtain ⟨⟨s, e⟩, hx, hfound⟩ := List.mem_filterMap.mp hupload
  obtain ⟨c, tap, user, he, -, huser, rfl⟩ := of_upload? hfound
  dsimp only at he
  subst he
  exact ⟨s, c, tap, user, hx, huser, congrArg Prod.fst hcell,
    congrArg (fun cell : String × String × FieldValue => cell.2.1) hcell⟩

/-- **The copies never meet.**  Whatever the devices do, in any order and with any saves cut, an
identifier that a device lists is on no other device and under no user on the server, and an
identifier on the server is under one user only: the two copies of a document cannot be told to
belong together. -/
theorem copies_never_meet (tr : List (DevicesEvent ι)) (devices : Devices ι)
    (h : run step start tr = some devices) (hfresh : DrawnAfresh tr) :
    (∀ c id uid, id ∈ (devices.device c).store.getUidArray →
      get devices.server.documents uid id = none) ∧
    (∀ c c' id, id ∈ (devices.device c).store.getUidArray →
      id ∈ (devices.device c').store.getUidArray → c = c') ∧
    ∀ uid uid' id, (get devices.server.documents uid id).isSome →
      (get devices.server.documents uid' id).isSome → uid = uid' := by
  have hnodup := nodup_flatMap_steps h hfresh
  refine ⟨?_, ?_, ?_⟩
  · intro c id uid hlocal
    by_contra hsome
    obtain ⟨s, tap, hx, rfl⟩ := exists_of_mem_getUidArray h hfresh hlocal
    obtain ⟨s', c', tap', user, hx', -, -, hid⟩ :=
      exists_of_get_documents h hfresh (Option.isSome_iff_ne_none.mpr hsome)
    have hsame := eq_of_nodup_flatMap hnodup hx hx' mem_drawn.1 (hid ▸ mem_drawn.2)
    cases hsame
    -- the two identifiers of one tap differ as well
    have hboth := (List.nodup_flatMap.mp hnodup).1 _ hx
    rw [drawn, hid] at hboth
    simp at hboth
  · intro c c' id hlocal hlocal'
    obtain ⟨s, tap, hx, rfl⟩ := exists_of_mem_getUidArray h hfresh hlocal
    obtain ⟨s', tap', hx', hid⟩ := exists_of_mem_getUidArray h hfresh hlocal'
    have hsame := eq_of_nodup_flatMap hnodup hx hx' mem_drawn.1 (hid ▸ mem_drawn.1)
    cases hsame
    rfl
  · intro uid uid' id hsome hsome'
    obtain ⟨s, c, tap, user, hx, huser, rfl, rfl⟩ := exists_of_get_documents h hfresh hsome
    obtain ⟨s', c', tap', user', hx', huser', rfl, hid⟩ := exists_of_get_documents h hfresh hsome'
    have hsame := eq_of_nodup_flatMap hnodup hx hx' mem_drawn.2 (hid ▸ mem_drawn.2)
    cases hsame
    rw [huser] at huser'
    exact congrArg User.uid (Option.some.inj huser')

/-- **What is shared is kept.**  A document that was uploaded by an OK with both switches on stays
on the server for good, and the device it comes from has a row for its own copy, with the same
texts, from then on: no cut of this save or of any other can leave the upload without it. -/
theorem shared_documents_kept (tr : List (DevicesEvent ι)) (devices s : Devices ι)
    (h : run step start tr = some devices) (hfresh : DrawnAfresh tr) (c : ι) (tap : OkTap)
    (htakes : Takes step start tr s (.device c (.okTapped tap)))
    (hlocal : (s.device c).client.switchSavingLocal = true) (uid : String) (docInfo : DocumentInfo)
    (hupload : s.upload? (.device c (.okTapped tap)) = some (uid, docInfo)) :
    get devices.server.documents uid docInfo.uid = some (.data (archivedData docInfo)) ∧
      ∃ row < DocumentListVC.numberOfRows (devices.device c).store, ∃ cell,
        DocumentListVC.cellForRowAt (devices.device c).store row = .ok cell ∧
        cell.docInfo.uid ≠ docInfo.uid ∧ cell.docInfo.explain = docInfo.explain ∧
        cell.docInfo.savedDate = docInfo.savedDate ∧ cell.docInfo.context = docInfo.context := by
  obtain ⟨c', tap', user, he, hcompletes, -, heq⟩ := of_upload? hupload
  cases he
  obtain ⟨rfl, rfl⟩ := Prod.mk.inj heq
  constructor
  · have hmem : (user.uid, tap.onlineDocInfo) ∈ uploads tr :=
      List.mem_filterMap.mpr ⟨_, htakes, hupload⟩
    rw [get_documents_iff h (nodup_uploads h hfresh)]
    exact List.mem_map_of_mem (f := cellOf) hmem
  · have hsave : tap.localSave ∈ localSaves c tr :=
      List.mem_filterMap.mpr ⟨_, htakes, if_pos ⟨rfl, hlocal⟩⟩
    have hdescribes := describes_afterSaves _ (nodup_localSaves (c := c) h hfresh)
    rw [← store_of_run h] at hdescribes
    -- the local half got to its end, or the online half would not have begun
    have hcompletes' := Device.localCompletes_of_okCompletes hcompletes
    unfold Device.localCompletes at hcompletes'
    rw [if_pos (by exact hlocal)] at hcompletes'
    have harchives : tap.localSave.archives = true :=
      (tap.localSave.completes_eq (s.device c).store).symm.trans hcompletes'
    have hcell := hdescribes.cells_perm.mem_iff.mpr (List.mem_map_of_mem (f := LocalSave.cell)
      (List.mem_filter.mpr ⟨hsave, LocalSave.lists_of_archives harchives⟩))
    obtain ⟨row, hrow, hshown⟩ := List.mem_map.mp hcell
    refine ⟨row, List.mem_range.mp hrow, _, hshown.trans (if_pos harchives), ?_, rfl, rfl, rfl⟩
    have hboth := (List.nodup_flatMap.mp (nodup_flatMap_steps h hfresh)).1 _ htakes
    rw [drawn] at hboth
    show tap.localUuid.uuidString ≠ tap.onlineUuid.uuidString
    simpa using hboth

/-! ### A save with both switches on -/

/-- Events of the only client, on its device. -/
def ofDevice (events : List ClientEvent) : List (DevicesEvent Unit) :=
  events.map fun e => .device () (.client e)

/-- A user signs up, is verified, signs in and is asked about a save with both switches on. -/
def askedTrace : List (DevicesEvent Unit) :=
  ofDevice (signUpTrace ++ [.callback 0]) ++ .verify "user" ::
    ofDevice [.signIn, .signInSucceeds 1 "user", .callback 1, .dismissAuthScene,
      .switchSavingLocal true, .switchSavingOnline true, .saveButtonTapped]

def bothTap : OkTap where
  arrayOfSet := .inOrder
  localUuid := .first
  onlineUuid := .second
  header := some "title"
  date := none
  context := some "text"
  image := some firstPicture
  writeSucceeds := true
  steps := 4

def bothTrace : List (DevicesEvent Unit) := askedTrace ++ [.device () (.okTapped bothTap)]

theorem world_of_run_bothTrace :
    ∃ devices, run step start bothTrace = some devices ∧
      run World.step World.start (worldTrace bothTrace) = some devices.world :=
  ⟨_, rfl, (world_of_run bothTrace _ rfl).1⟩

theorem copies_never_meet_bothTrace :
    ∃ devices, run step start bothTrace = some devices ∧ DrawnAfresh bothTrace ∧
      ∀ c id uid, id ∈ (devices.device c).store.getUidArray →
        get devices.server.documents uid id = none :=
  ⟨_, rfl, by decide, (copies_never_meet bothTrace _ rfl (by decide)).1⟩

theorem shared_documents_kept_bothTrace :
    ∃ s devices, run step start askedTrace = some s ∧ run step start bothTrace = some devices ∧
      ∃ row < DocumentListVC.numberOfRows (devices.device ()).store, ∃ cell,
        DocumentListVC.cellForRowAt (devices.device ()).store row = .ok cell ∧
        cell.docInfo.context = some "text" := by
  obtain ⟨s, hs, hlast⟩ : ∃ s, run step start askedTrace = some s ∧
      (s.device ()).client.switchSavingLocal = true ∧
      s.upload? (.device () (.okTapped bothTap)) = some ("user", bothTap.onlineDocInfo) :=
    ⟨_, rfl, rfl, by decide⟩
  have hrun : (run step start bothTrace).isSome := by decide
  obtain ⟨devices, hdevices⟩ := Option.isSome_iff_exists.mp hrun
  have htakes : Takes step start bothTrace s (.device () (.okTapped bothTap)) :=
    takes_iff.mpr ⟨askedTrace, [], rfl, hs⟩
  obtain ⟨-, row, hrow, cell, hcell, -, -, -, hcontext⟩ := shared_documents_kept bothTrace devices s
    hdevices (by decide) () bothTap htakes hlast.1 "user" _ hlast.2
  exact ⟨s, devices, hs, hdevices, row, hrow, cell, hcell, hcontext⟩

end Devices

end Procon
