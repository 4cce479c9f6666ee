import Procon.Properties.SaveScreens
import Procon.Properties.SavedCopies

/-!
# Where documents come from

A document goes through the make screen, the save screen and a tap on OK before it is a row of a
list or a field on the server.  The stores and the server see a run of `Devices`
(`devices_of_run`), so what was proved about their taps on OK holds of installations.  With
`presented_of_run` this traces each row of a list and each document on the server back to the one
tap on save that it comes from (`documents_have_origins`) and, under the schedules of
`AnswersLastPick`, to the picture in which its text was recognized (`recognized_text_saved`).
-/

namespace Procon

open App DocumentListVC LabelledRun

variable {ι : Type*} [DecidableEq ι] {env : ι → ScreenEnvironment} {app app' s : App ι}
  {tr done filled : List (AppEvent ι)} {e : AppEvent ι} {c : ι} {sheet : SaveSheet}

/-! ## Taps on OK -/

/-- The events of a run, as the server, the clients and the stores see them. -/
def deviceTrace (env : ι → ScreenEnvironment) (tr : List (AppEvent ι)) :
    List (DevicesEvent ι) :=
  (steps (step env) (start env) tr).flatMap fun x => x.1.deviceEvents env x.2

/-- **Expansion.**  A run of the app is a run of its devices. -/
lemma devices_of_run (h : run (step env) (start env) tr = some app) :
    run Devices.step .start (deviceTrace env tr) = some app.devices ∧
      steps Devices.step .start (deviceTrace env tr) =
        (steps (step env) (start env) tr).flatMap fun x =>
          steps Devices.step x.1.devices (x.1.deviceEvents env x.2) :=
  run_of_expansion (fun _ _ _ hs => devices_of_step hs) h

omit [DecidableEq ι] in
lemma mem_deviceEvents {tap : OkTap}
    (h : .device c (.okTapped tap) ∈ app.deviceEvents env e) :
    ∃ choice cut sheet, e = .installation c (.okTapped choice cut) ∧
      (app.installation c).sheet = some sheet ∧ tap = sheet.okTap (env c) choice ∧
      app.deviceEvents env e = [.device c (.okTapped tap)] := by
  cases e with
  | verify uid =>
      obtain h := List.mem_singleton.mp h
      cases h
  | installation c' e =>
      cases e with
      | okTapped choice cut =>
          have hmem := Option.mem_toList.mp h
          obtain ⟨sheet, hsheet, heq⟩ := Option.map_eq_some_iff.mp hmem
          cases heq
          exact ⟨choice, cut, sheet, rfl, hsheet, rfl, congrArg Option.toList hmem⟩
      | client e =>
          obtain h := List.mem_singleton.mp h
          cases h
      | make e => cases e <;> simp [deviceEvents] at h
      | _ => cases h

/-- A tap on OK that the devices see is one on a save screen that is up. -/
lemma exists_of_takes_okTapped {tap : OkTap} {devices : Devices ι}
    (h : run (step env) (start env) tr = some app)
    (hx : (devices, .device c (.okTapped tap)) ∈ steps Devices.step .start (deviceTrace env tr)) :
    ∃ choice cut sheet u,
      Takes (step env) (start env) tr u (.installation c (.okTapped choice cut)) ∧
      u.devices = devices ∧ (u.installation c).sheet = some sheet ∧
      tap = sheet.okTap (env c) choice := by
  rw [(devices_of_run h).2] at hx
  obtain ⟨⟨u, e⟩, hmem, hx⟩ := List.mem_flatMap.mp hx
  obtain ⟨choice, cut, sheet, rfl, hsheet, rfl, heq⟩ := mem_deviceEvents (Takes.mem hx)
  dsimp only at hx
  rw [heq, steps_singleton] at hx
  exact ⟨choice, cut, sheet, u, hmem, (congrArg Prod.fst (List.mem_singleton.mp hx)).symm, hsheet,
    rfl⟩

/-! ## Identifiers -/

/-- The identifiers that are drawn for an event. -/
def AppEvent.drawn : AppEvent ι → List String
  | .installation _ (.okTapped choice _) =>
      [choice.localUuid.uuidString, choice.onlineUuid.uuidString]
  | _ => []

/-- No identifier is drawn twice. -/
def App.DrawnAfresh (tr : List (AppEvent ι)) : Prop := (tr.flatMap AppEvent.drawn).Nodup

instance (tr : List (AppEvent ι)) : Decidable (DrawnAfresh tr) :=
  inferInstanceAs (Decidable (List.Nodup _))

omit [DecidableEq ι] in
lemma drawn_deviceEvents : ((app.deviceEvents env e).flatMap Devices.drawn).Sublist e.drawn := by
  cases e with
  | verify uid => exact List.Sublist.refl _
  | installation c e =>
      cases e with
      | okTapped choice cut =>
          unfold deviceEvents
          dsimp only
          cases (app.installation c).sheet with
          | none => exact List.nil_sublist _
          | some sheet => exact List.Sublist.refl _
      | make e => cases e <;> exact List.Sublist.refl _
      | _ => exact List.Sublist.refl _

/-- The devices draw no identifiers of their own. -/
lemma drawnAfresh_deviceTrace (h : run (step env) (start env) tr = some app)
    (hfresh : DrawnAfresh tr) : Devices.DrawnAfresh (deviceTrace env tr) := by
  unfold Devices.DrawnAfresh deviceTrace
  rw [List.flatMap_assoc]
  refine (nodup_flatMap_steps h hfresh).sublist ?_
  exact List.Sublist.flatMap_right _ fun x _ => drawn_deviceEvents

/-! ## The tap on OK behind a document -/

/-- The document that a save makes of what a save screen holds. -/
def SaveSheet.docInfo (sheet : SaveSheet) (uuid : NSUUID) : DocumentInfo :=
  .init uuid (sheet.text .header) (sheet.text .date) (sheet.text .context)

/-- The image file that a complete save of a save screen writes. -/
def SaveSheet.written (env : ScreenEnvironment) (sheet : SaveSheet) (writeSucceeds : Bool) :
    Option Data :=
  if writeSucceeds then sheet.imageView.bind fun picture => (env.uiImage picture).jpegData
  else none

section LocalSave

variable {env : ScreenEnvironment} {choice : OkChoice}

lemma written_localSave (h : (sheet.okTap env choice).localSave.archives = true) :
    (sheet.okTap env choice).localSave.written = sheet.written env choice.writeSucceeds := by
  obtain ⟨imageView, text⟩ := sheet
  unfold LocalSave.archives at h
  unfold LocalSave.written SaveSheet.written
  cases imageView with
  | none => exact (ite_self _).symm
  | some picture =>
      obtain ⟨jpegData, hjpeg⟩ : ∃ jpegData, env.uiImage picture = ⟨jpegData⟩ := ⟨_, rfl⟩
      have himage : (SaveSheet.okTap env ⟨some picture, text⟩ choice).localSave.image =
          some ⟨jpegData⟩ := congrArg some hjpeg
      rw [himage] at h ⊢
      rw [Option.bind_some, hjpeg]
      cases jpegData with
      | none => cases h
      | some jpgImageData =>
          -- the archive comes after the image
          have hall : 3 ≤ choice.steps := of_decide_eq_true h
          have hsteps : 2 ≤ choice.steps := by omega
          show (if choice.writeSucceeds = true ∧ 2 ≤ choice.steps then _ else _) = _
          simp only [and_iff_left hsteps]

/-- A row that is shown shows a save that went all the way. -/
lemma cell_localSave_eq_ok {cell : DocumentDataCell}
    (h : (sheet.okTap env choice).localSave.cell = .ok cell) :
    cell = ⟨sheet.docInfo choice.localUuid, sheet.written env choice.writeSucceeds⟩ := by
  unfold LocalSave.cell at h
  split at h
  · rename_i harchives
    rw [← written_localSave harchives]
    exact (Except.ok.inj h).symm
  · cases h

end LocalSave

lemma exists_save_of_cell {saves : List LocalSave} {store : LocalStore} {row : ℕ}
    {cell : DocumentDataCell} (h : Describes store saves)
    (hcell : cellForRowAt store row = .ok cell) : ∃ save ∈ saves, save.cell = .ok cell := by
  have hrow : row < numberOfRows store := by
    by_contra hout
    unfold cellForRowAt documentAt at hcell
    rw [List.getElem?_eq_none (by unfold numberOfRows at hout; omega)] at hcell
    cases hcell
  have hmem : Except.ok cell ∈ (List.range (numberOfRows store)).map (cellForRowAt store) :=
    List.mem_map.mpr ⟨row, List.mem_range.mpr hrow, hcell⟩
  obtain ⟨save, hsave, heq⟩ := List.mem_map.mp (h.cells_perm.mem_iff.mp hmem)
  exact ⟨save, List.mem_of_mem_filter hsave, heq⟩

/-- A row comes from a tap on OK. -/
lemma exists_savedBy_of_cell (h : run (step env) (start env) tr = some app)
    (hfresh : DrawnAfresh tr) {row : ℕ} {cell : DocumentDataCell}
    (hcell : cellForRowAt (app.installation c).device.store row = .ok cell) :
    ∃ choice cut done filled later s u, SavedBy env tr c choice cut done filled later s u ∧
      localIsOn (eventsOf c filled) = true ∧
      cell = ⟨(savedSheet env c filled s).docInfo choice.localUuid,
        (savedSheet env c filled s).written (env c) choice.writeSucceeds⟩ := by
  have hdevices := (devices_of_run h).1
  have hstore : (app.installation c).device.store =
      afterSaves (Devices.localSaves c (deviceTrace env tr)) := Devices.store_of_run hdevices
  rw [hstore] at hcell
  obtain ⟨save, hsave, hshown⟩ := exists_save_of_cell (describes_afterSaves _
    (Devices.nodup_localSaves hdevices (drawnAfresh_deviceTrace h hfresh))) hcell
  obtain ⟨⟨devices, e⟩, hx, hfound⟩ := List.mem_filterMap.mp hsave
  obtain ⟨tap, he, hlocal, rfl⟩ := Devices.of_localSave? hfound
  dsimp only at he hlocal
  subst he
  obtain ⟨choice, cut, sheet, u, htakes, rfl, hsheet, rfl⟩ := exists_of_takes_okTapped h hx
  obtain ⟨done, filled, later, s, hsaved, hpresented⟩ := savedBy_of_takes htakes hsheet
  obtain rfl : sheet = savedSheet env c filled s := hpresented.holds
  exact ⟨choice, cut, done, filled, later, s, u, hsaved,
    hpresented.switchSavingLocal.symm.trans hlocal, cell_localSave_eq_ok hshown⟩

/-- An upload comes from a tap on OK whose handler got to its end. -/
lemma exists_savedBy_of_upload (h : run (step env) (start env) tr = some app) {u : App ι}
    {choice : OkChoice} {cut : Bool} {upload : String × DocumentInfo}
    (htakes : Takes (step env) (start env) tr u (.installation c (.okTapped choice cut)))
    (hsheet : (u.installation c).sheet = some sheet)
    (hupload : u.devices.upload? (.device c (.okTapped (sheet.okTap (env c) choice))) =
      some upload) :
    ∃ done filled later s user, SavedBy env tr c choice false done filled later s u ∧
      onlineIsOn (eventsOf c filled) = true ∧
      (u.installation c).device.client.currentUser = some user ∧
      upload = (user.uid, (savedSheet env c filled s).docInfo choice.onlineUuid) := by
  obtain ⟨c', tap, user, he, hcompletes, huser, rfl⟩ := Devices.of_upload? hupload
  cases he
  have honline := Devices.switchSavingOnline_of_upload? hupload
  obtain ⟨done, filled, later, s, hsaved, hpresented⟩ := savedBy_of_takes htakes hsheet
  obtain ⟨sheet', message, hsheet', -, hcut⟩ := ok_of_takes h htakes
  obtain rfl := Option.some.inj (hsheet'.symm.trans hsheet)
  obtain rfl : cut = false := by
    rw [show Device.okCompletes _ u.server (u.installation c).device.dismissAlert = true
      from hcompletes] at hcut
    simpa using hcut
  obtain rfl : sheet' = savedSheet env c filled s := hpresented.holds
  exact ⟨done, filled, later, s, user, hsaved,
    hpresented.switchSavingOnline.symm.trans honline, huser, rfl⟩

/-- A document on the server comes from such a tap. -/
lemma exists_savedBy_of_get (h : run (step env) (start env) tr = some app)
    (hfresh : DrawnAfresh tr) {uid id : String} {val : FieldValue}
    (hval : NestedMap.get app.server.documents uid id = some val) :
    ∃ c choice done filled later s u user, SavedBy env tr c choice false done filled later s u ∧
      onlineIsOn (eventsOf c filled) = true ∧
      (u.installation c).device.client.currentUser = some user ∧ user.uid = uid ∧
      id = choice.onlineUuid.uuidString ∧
      val = .data (archivedData ((savedSheet env c filled s).docInfo choice.onlineUuid)) := by
  have hdevices := (devices_of_run h).1
  have hcellOf := (Devices.get_documents_iff hdevices
    (Devices.nodup_uploads hdevices (drawnAfresh_deviceTrace h hfresh)) uid id val).mp hval
  obtain ⟨upload, hupload, hcell⟩ := List.mem_map.mp hcellOf
  obtain ⟨⟨devices, e⟩, hx, hfound⟩ := List.mem_filterMap.mp hupload
  obtain ⟨c, tap, -, rfl, -⟩ := Devices.of_upload? hfound
  obtain ⟨choice, cut, sheet, u, htakes, rfl, hsheet, rfl⟩ := exists_of_takes_okTapped h hx
  obtain ⟨done, filled, later, s, user, hsaved, honline, huser, rfl⟩ :=
    exists_savedBy_of_upload h htakes hsheet hfound
  cases hcell
  exact ⟨c, choice, done, filled, later, s, u, user, hsaved, honline, huser, rfl, rfl, rfl⟩

/-- **Every document has one tap on save behind it.**  In every run of any number of
installations, with saves that are cut anywhere, a row that a list can show comes from a tap on OK
of that installation with the local switch on, and a document on the server from a whole one with
the online switch on, while its owner was signed in.  The save screen was presented by one tap on
save: its texts are those that were typed last into it; where nothing was typed, title and date are
empty and the text is the one that the make screen showed at that tap.  Its picture is the one that
was shown at that tap. -/
theorem documents_have_origins (env : ι → ScreenEnvironment) (tr : List (AppEvent ι))
    (app : App ι) (h : run (step env) (start env) tr = some app) (hfresh : DrawnAfresh tr) :
    (∀ c row cell, cellForRowAt (app.installation c).device.store row = .ok cell →
      ∃ choice cut done filled later s u, SavedBy env tr c choice cut done filled later s u ∧
        localIsOn (eventsOf c filled) = true ∧
        cell = ⟨(savedSheet env c filled s).docInfo choice.localUuid,
          (savedSheet env c filled s).written (env c) choice.writeSucceeds⟩) ∧
    ∀ uid id val, NestedMap.get app.server.documents uid id = some val →
      ∃ c choice done filled later s u user, SavedBy env tr c choice false done filled later s u ∧
        onlineIsOn (eventsOf c filled) = true ∧
        (u.installation c).device.client.currentUser = some user ∧ user.uid = uid ∧
        id = choice.onlineUuid.uuidString ∧
        val = .data (archivedData ((savedSheet env c filled s).docInfo choice.onlineUuid)) :=
  ⟨fun _ _ _ => exists_savedBy_of_cell h hfresh, fun _ _ _ => exists_savedBy_of_get h hfresh⟩

/-! ## The text and its picture -/

/-- The recognizer found the text in the picture, on a make screen of the installation. -/
def Recognized (env : ι → ScreenEnvironment) (tr : List (AppEvent ι)) (c : ι)
    (text : Option String) (picture : PixelImage) : Prop :=
  ∃ s n request blocks, Visits (step env) (start env) tr s ∧
    (s.installation c).make.requests[n]? = some request ∧
    (env c).outcome (s.installation c).loads n = some blocks ∧
    request.target = picture ∧ text = some (recognizedSentence blocks)

/-- A save screen whose text is left alone holds a picture and what was recognized in it. -/
lemma SavedBy.recognized {choice : OkChoice} {cut : Bool} {later : List (AppEvent ι)} {u : App ι}
    (h : SavedBy env tr c choice cut done filled later s u)
    (hedits : ∀ e ∈ eventsOf c tr, e.editsText = false)
    (hschedule : AnswersLastPick ((env c).outcome ((eventsOf c done).countP
      InstallationEvent.loads)) (sinceLoad (eventsOf c done))) :
    ∃ picture, Recognized env tr c ((savedSheet env c filled s).text .context) picture ∧
      (savedSheet env c filled s).imageView = some picture := by
  have hsub : ∀ part : List (AppEvent ι), (∀ e ∈ part, e ∈ tr) →
      ∀ e ∈ eventsOf c part, e.editsText = false := by
    intro part hpart e he
    obtain ⟨e', he', heq⟩ := List.mem_filterMap.mp he
    exact hedits e (List.mem_filterMap.mpr ⟨e', hpart e' he', heq⟩)
  have hdone : ∀ e ∈ done, e ∈ tr := fun e he => by
    rw [h.events]
    simp [he]
  have hfilled : ∀ e ∈ filled, e ∈ tr := fun e he => by
    rw [h.events]
    simp [he]
  obtain ⟨hloads, hmake⟩ := make_of_run h.presented c (hsub done hdone)
  rw [← hloads] at hschedule
  obtain ⟨n, request, blocks, hrequest, hblocks, himage, htext⟩ :=
    (history_of_run hmake).recognizedFrom hschedule
  refine ⟨request.target, ⟨s, n, request, blocks, ⟨done, _, h.events, h.presented⟩, hrequest,
    hblocks, rfl, ?_⟩, ?_⟩
  · rw [← htext]
    exact context_filledIn (hsub filled hfilled)
  · show (s.installation c).make.saveButtonTapped.receivedImage.or _ = _
    rw [himage]
    rfl

/-- **The text of a document was recognized in its picture.**  Where the users leave the recognized
text as it is and each tap on save comes when the last reply was a success about the picture picked
last, every row that a list can show has the text that the recognizer found in one of the pictures
it was asked about on that installation, and that picture or none; and every document on the
server has the text that it found in a picture of some installation. -/
theorem recognized_text_saved (env : ι → ScreenEnvironment) (tr : List (AppEvent ι)) (app : App ι)
    (h : run (step env) (start env) tr = some app) (hfresh : DrawnAfresh tr)
    (hedits : ∀ c, ∀ e ∈ eventsOf c tr, e.editsText = false)
    (hschedule : ∀ c done rest, tr = done ++ .installation c (.make .saveButtonTapped) :: rest →
      AnswersLastPick ((env c).outcome ((eventsOf c done).countP InstallationEvent.loads))
        (sinceLoad (eventsOf c done))) :
    (∀ c row cell, cellForRowAt (app.installation c).device.store row = .ok cell →
      ∃ picture, Recognized env tr c cell.docInfo.context picture ∧
        (cell.image = none ∨ cell.image = ((env c).uiImage picture).jpegData)) ∧
    ∀ uid id val, NestedMap.get app.server.documents uid id = some val →
      ∃ c docInfo picture, val = .data (archivedData docInfo) ∧
        Recognized env tr c docInfo.context picture := by
  constructor
  · intro c row cell hcell
    obtain ⟨choice, cut, done, filled, later, s, u, hsaved, -, rfl⟩ :=
      exists_savedBy_of_cell h hfresh hcell
    obtain ⟨picture, hrecognized, hview⟩ :=
      hsaved.recognized (hedits c) (hschedule c done _ hsaved.events)
    refine ⟨picture, hrecognized, ?_⟩
    show (savedSheet env c filled s).written (env c) choice.writeSucceeds = none ∨
      (savedSheet env c filled s).written (env c) choice.writeSucceeds = _
    unfold SaveSheet.written
    rw [hview]
    cases choice.writeSucceeds with
    | true => exact Or.inr rfl
    | false => exact Or.inl rfl
  · intro uid id val hval
    obtain ⟨c, choice, done, filled, later, s, u, user, hsaved, -, -, -, -, rfl⟩ :=
      exists_savedBy_of_get h hfresh hval
    obtain ⟨picture, hrecognized, -⟩ :=
      hsaved.recognized (hedits c) (hschedule c done _ hsaved.events)
    exact ⟨c, _, picture, rfl, hrecognized⟩

/-! ### A picture that is kept and shared -/

/-- There is one tap on save. -/
lemma eq_of_savesBoth {c : Unit} {done rest : List (AppEvent Unit)}
    (h : savesBoth = done ++ .installation c (.make .saveButtonTapped) :: rest) :
    done = savesBoth.take 16 := by
  have honly : ∀ n < savesBoth.length,
      (savesBoth.map fun e => (e.of? ()).bind InstallationEvent.makeEvent?)[n]? =
        some (some .saveButtonTapped) → n = 16 := by
    decide
  have hlength : done.length = 16 := by
    refine honly done.length ?_ ?_
    · rw [h]
      simp
    · rw [h]
      simp [AppEvent.of?, InstallationEvent.makeEvent?]
  rw [← hlength, h, List.take_left]

/-- What the list shows first, after these events. -/
lemma exists_of_savesBoth : ∃ app cell,
    run (step oneText) (start oneText) savesBoth = some app ∧
      cellForRowAt (app.installation ()).device.store 0 = .ok cell ∧
      cell.docInfo.explain = some "title" ∧ cell.docInfo.context = some "text " := by
  have hend : (run (step oneText) (start oneText) savesBoth).bind (fun app =>
      (cellForRowAt (app.installation ()).device.store 0).toOption.map fun cell =>
        (cell.docInfo.explain, cell.docInfo.context)) = some (some "title", some "text ") := by
    decide +kernel
  obtain ⟨app, hrun, hend⟩ := Option.bind_eq_some_iff.mp hend
  obtain ⟨cell, hcell, hend⟩ := Option.map_eq_some_iff.mp hend
  obtain ⟨hexplain, hcontext⟩ := Prod.mk.inj hend
  refine ⟨app, cell, hrun, ?_, hexplain, hcontext⟩
  cases hshown : cellForRowAt (app.installation ()).device.store 0 with
  | ok cell' =>
      rw [hshown] at hcell
      exact congrArg _ (Option.some.inj hcell)
  | error trap =>
      rw [hshown] at hcell
      cases hcell

theorem documents_have_origins_savesBoth :
    ∃ app cell, run (step oneText) (start oneText) savesBoth = some app ∧
      cellForRowAt (app.installation ()).device.store 0 = .ok cell ∧
      cell.docInfo.explain = some "title" ∧
      ∃ choice cut done filled later s u,
        SavedBy oneText savesBoth () choice cut done filled later s u ∧
        localIsOn (eventsOf () filled) = true ∧
        cell = ⟨(savedSheet oneText () filled s).docInfo choice.localUuid,
          (savedSheet oneText () filled s).written (oneText ()) choice.writeSucceeds⟩ := by
  obtain ⟨app, cell, hrun, hcell, hexplain, -⟩ := exists_of_savesBoth
  exact ⟨app, cell, hrun, hcell, hexplain,
    (documents_have_origins oneText savesBoth app hrun (by decide)).1 () 0 cell hcell⟩

theorem recognized_text_saved_savesBoth :
    ∃ app cell, run (step oneText) (start oneText) savesBoth = some app ∧
      cellForRowAt (app.installation ()).device.store 0 = .ok cell ∧
      cell.docInfo.context = some "text " ∧
      ∃ picture, Recognized oneText savesBoth () cell.docInfo.context picture ∧
        (cell.image = none ∨ cell.image = ((oneText ()).uiImage picture).jpegData) := by
  obtain ⟨app, cell, hrun, hcell, -, hcontext⟩ := exists_of_savesBoth
  refine ⟨app, cell, hrun, hcell, hcontext, (recognized_text_saved oneText savesBoth app hrun
    (by decide) (fun c => ?_) fun c done rest h => ?_).1 () 0 cell hcell⟩
  · cases c
    decide
  · cases c
    rw [eq_of_savesBoth h]
    exact ⟨0, by decide, by decide, by decide⟩

end Procon
