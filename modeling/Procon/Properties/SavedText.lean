import Procon.Construction.DocumentMakeSceneVC
import Procon.Framework.Run

/-!
# The text that is saved with a picture

The picture, the target image and the text view are three pieces of state: a pick writes the first
two, a reply the third.  `History` says what each of them tells about the events of a run.  A tap
on save hands over the picture that was picked last and the text of the reply that came last, so
they belong together when that reply was a success and answers a request about that picture, and
`saves_own_text_iff` says that this is the only safe schedule: under any other one there are
texts with which the save goes wrong.
-/

namespace Procon

open LabelledRun DocumentMakeSceneVC

variable {cv : OpenCV} {outcome outcome' : ℕ → Option (List String)}
  {noimage : Option PixelImage} {vc vc' : DocumentMakeSceneVC} {tr : List MakeEvent}
  {e : MakeEvent} {n : ℕ} {request : TextRequest}

/-- A successful extraction has been displayed. -/
def Extracted (outcome : ℕ → Option (List String)) (vc : DocumentMakeSceneVC) : Prop :=
  ∃ n request, vc.requests[n]? = some request ∧ request.answered ∧ (outcome n).isSome

/-- The text of a document is what the recognizer found in its image. -/
def RecognizedFrom (outcome : ℕ → Option (List String)) (vc : DocumentMakeSceneVC)
    (document : ReceivedDocument) : Prop :=
  ∃ n request blocks, vc.requests[n]? = some request ∧ outcome n = some blocks ∧
    document.receivedImage = some request.target ∧
    document.receivedTextFromPreScene = recognizedSentence blocks

/-- What a tap on save hands over belongs together once a text has been extracted. -/
def SavesOwnText (outcome : ℕ → Option (List String)) (vc : DocumentMakeSceneVC) : Prop :=
  Extracted outcome vc → RecognizedFrom outcome vc vc.saveButtonTapped

/-! ## What the events tell -/

/-- The picture that an event picks. -/
def MakeEvent.picked? : MakeEvent → Option PixelImage
  | .didFinishPickingMedia originalImage => originalImage
  | _ => none

/-- The request that an event replies to. -/
def MakeEvent.reply? : MakeEvent → Option ℕ
  | .processed n => some n
  | _ => none

def lastPick (tr : List MakeEvent) : Option PixelImage := lastValue MakeEvent.picked? tr

def lastReply (tr : List MakeEvent) : Option ℕ := lastValue MakeEvent.reply? tr

/-- The picture that an event asks about: the one picked last before it. -/
def MakeEvent.requested? (done : List MakeEvent) : MakeEvent → Option PixelImage
  | .extractButtonTapped _ _ => lastPick done
  | _ => none

/-- The pictures that were asked about, in the order of the requests. -/
def requestedImages (tr : List MakeEvent) : List PixelImage := yields MakeEvent.requested? tr

/-- The last reply was a success, and the picture it is about is the one picked last. -/
def AnswersLastPick (outcome : ℕ → Option (List String)) (done : List MakeEvent) : Prop :=
  ∃ n, lastReply done = some n ∧ (outcome n).isSome ∧ (requestedImages done)[n]? = lastPick done

lemma lastPick_concat : lastPick (tr ++ [e]) = e.picked?.or (lastPick tr) := lastValue_concat

lemma lastReply_concat : lastReply (tr ++ [e]) = e.reply?.or (lastReply tr) := lastValue_concat

lemma requestedImages_concat :
    requestedImages (tr ++ [e]) = requestedImages tr ++ (e.requested? tr).toList := yields_concat

lemma reply?_eq_some_iff : e.reply? = some n ↔ e = .processed n := by
  cases e <;> simp [MakeEvent.reply?]

lemma lastReply_eq_some_mem (h : lastReply tr = some n) : .processed n ∈ tr := by
  obtain ⟨e, he, hn⟩ := exists_of_lastValue_eq h
  rwa [← reply?_eq_some_iff.mp hn]

lemma exists_lastReply (h : .processed n ∈ tr) : ∃ m, lastReply tr = some m :=
  Option.isSome_iff_exists.mp (isSome_lastValue h rfl)

/-! ## The texts -/

/-- The text that the reply to a request displays. -/
def displayedText : Option (List String) → String
  | none => "failed to recognize text from image"
  | some blocks => recognizedSentence blocks

lemma process_eq (o : Option (List String)) :
    vc.process o = { vc with sentenceView := displayedText o } := by
  cases o <;> rfl

lemma toList_foldl_blank (n : ℕ) (sentence : String) :
    ((List.replicate n "").foldl (fun sentence blockText => sentence ++ (blockText ++ " "))
      sentence).toList = sentence.toList ++ List.replicate n ' ' := by
  induction n generalizing sentence with
  | zero => simp
  | succ n ih =>
      rw [List.replicate_succ, List.foldl_cons, ih]
      simp [List.replicate_succ]

/-- Outcomes that differ from one request to the next: `n` empty blocks for the `n`-th one. -/
def blankOutcome (outcome : ℕ → Option (List String)) (n : ℕ) : Option (List String) :=
  (outcome n).map fun _ => List.replicate n ""

lemma isSome_blankOutcome : (blankOutcome outcome n).isSome = (outcome n).isSome := by
  rw [blankOutcome, Option.isSome_map]

lemma toList_displayedText_blankOutcome (h : (outcome n).isSome) :
    (displayedText (blankOutcome outcome n)).toList = List.replicate n ' ' := by
  obtain ⟨blocks, hblocks⟩ := Option.isSome_iff_exists.mp h
  rw [blankOutcome, hblocks]
  exact (toList_foldl_blank n "").trans (by simp)

/-- Two requests display the same text under these outcomes only if they are one. -/
lemma eq_of_displayedText_blankOutcome {m : ℕ} (hm : (outcome m).isSome)
    (h : displayedText (blankOutcome outcome n) = displayedText (blankOutcome outcome m)) :
    n = m ∧ (outcome n).isSome := by
  have htext := toList_displayedText_blankOutcome hm
  rw [← h] at htext
  by_cases hn : (outcome n).isSome
  · rw [toList_displayedText_blankOutcome hn] at htext
    exact ⟨by simpa using congrArg List.length htext, hn⟩
  · -- the message of a failure is not blank
    have hmem : 'f' ∈ (displayedText (blankOutcome outcome n)).toList := by
      rw [blankOutcome, Option.not_isSome_iff_eq_none.mp hn, Option.map_none]
      decide
    rw [htext] at hmem
    exact absurd (List.eq_of_mem_replicate hmem) (by decide)

/-! ## What the state tells about the events -/

/-- The state after the events of a run, told by the events. -/
structure History (outcome : ℕ → Option (List String)) (tr : List MakeEvent)
    (vc : DocumentMakeSceneVC) : Prop where
  targetImage : vc.targetImage = lastPick tr
  readImage : ∀ image, lastPick tr = some image → vc.readImage = some image
  targets : vc.requests.map TextRequest.target = requestedImages tr
  answered : ∀ n, .processed n ∈ tr ↔
    ∃ request, vc.requests[n]? = some request ∧ request.answered
  sentenceView : ∀ n, lastReply tr = some n → vc.sentenceView = displayedText (outcome n)

lemma step_processed_eq_some :
    step cv outcome vc (.processed n) = some vc' ↔
      ∃ request, vc.requests[n]? = some request ∧ request.answered = false ∧
        { vc with
          sentenceView := displayedText (outcome n)
          requests := vc.requests.set n { request with answered := true } } = vc' := by
  rw [step]
  cases hrequest : vc.requests[n]? with
  | none => simp
  | some request =>
      by_cases hanswered : request.answered = true
      · simp [hanswered]
      · simp [hanswered, process_eq]

lemma extractButtonTapped_eq (cv : OpenCV) (vc : DocumentMakeSceneVC) (binarySwitchIsOn : Bool)
    (threshold : ℤ) :
    ∃ requests, vc.extractButtonTapped cv binarySwitchIsOn threshold =
        { vc with requests := vc.requests ++ requests } ∧
      requests.map TextRequest.target = vc.targetImage.toList ∧
      ∀ request ∈ requests, request.answered = false := by
  rw [extractButtonTapped]
  split
  · rename_i target htarget
    cases binarySwitchIsOn with
    | true =>
        exact ⟨[⟨target, OpenCVUtils.rgb2binary cv target threshold, false⟩], rfl,
          by rw [htarget]; rfl, by simp⟩
    | false => exact ⟨[⟨target, target, false⟩], rfl, by rw [htarget]; rfl, by simp⟩
  · rename_i htarget
    exact ⟨[], by simp, by rw [htarget]; rfl, by simp⟩

lemma map_target_set {requests : List TextRequest} (h : requests[n]? = some request) :
    (requests.set n { request with answered := true }).map TextRequest.target =
      requests.map TextRequest.target := by
  refine List.ext_getElem? fun m => ?_
  rw [List.getElem?_map, List.getElem?_map, List.getElem?_set]
  split
  · rename_i heq
    subst heq
    rw [h, if_pos (List.getElem?_eq_some_iff.mp h).1]
    rfl
  · rfl

lemma answered_set {requests : List TextRequest} (h : requests[n]? = some request) (m : ℕ) :
    (∃ request', (requests.set n { request with answered := true })[m]? = some request' ∧
        request'.answered) ↔
      (∃ request', requests[m]? = some request' ∧ request'.answered) ∨ m = n := by
  rw [List.getElem?_set]
  split
  · rename_i heq
    subst heq
    rw [if_pos (List.getElem?_eq_some_iff.mp h).1]
    simp
  · rename_i hne
    simp [Ne.symm hne]

lemma answered_append {requests new : List TextRequest}
    (hnew : ∀ request ∈ new, request.answered = false) (m : ℕ) :
    (∃ request, (requests ++ new)[m]? = some request ∧ request.answered) ↔
      ∃ request, requests[m]? = some request ∧ request.answered := by
  constructor
  · rintro ⟨request, hrequest, hanswered⟩
    rcases lt_or_ge m requests.length with hm | hm
    · rw [List.getElem?_append_left hm] at hrequest
      exact ⟨request, hrequest, hanswered⟩
    · rw [List.getElem?_append_right hm] at hrequest
      rw [hnew request (List.mem_of_getElem? hrequest)] at hanswered
      cases hanswered
  · rintro ⟨request, hrequest, hanswered⟩
    refine ⟨request, ?_, hanswered⟩
    rw [List.getElem?_append_left (List.getElem?_eq_some_iff.mp hrequest).1, hrequest]

lemma history_viewDidLoad : History outcome [] (viewDidLoad noimage) where
  targetImage := rfl
  readImage _ h := nomatch h
  targets := rfl
  answered n := by simp [viewDidLoad, updateSentenceView]
  sentenceView _ h := nomatch h

/-! ### What a step does to each part of the state -/

lemma images_of_step (hstep : step cv outcome vc e = some vc') :
    vc'.targetImage = e.picked?.or vc.targetImage ∧ vc'.readImage = e.picked?.or vc.readImage := by
  cases e with
  | didFinishPickingMedia originalImage =>
      obtain rfl := Option.some.inj hstep
      cases originalImage <;> exact ⟨rfl, rfl⟩
  | extractButtonTapped binarySwitchIsOn threshold =>
      obtain rfl := Option.some.inj hstep
      obtain ⟨requests, heq, -⟩ := extractButtonTapped_eq cv vc binarySwitchIsOn threshold
      rw [heq]
      exact ⟨rfl, rfl⟩
  | processed n =>
      obtain ⟨request, -, -, rfl⟩ := step_processed_eq_some.mp hstep
      exact ⟨rfl, rfl⟩
  | saveButtonTapped =>
      obtain rfl := Option.some.inj hstep
      exact ⟨rfl, rfl⟩

lemma targets_of_step (hpick : vc.targetImage = lastPick tr)
    (hstep : step cv outcome vc e = some vc') :
    vc'.requests.map TextRequest.target =
      vc.requests.map TextRequest.target ++ (e.requested? tr).toList := by
  cases e with
  | didFinishPickingMedia originalImage =>
      obtain rfl := Option.some.inj hstep
      cases originalImage <;> exact (List.append_nil _).symm
  | extractButtonTapped binarySwitchIsOn threshold =>
      obtain rfl := Option.some.inj hstep
      obtain ⟨requests, heq, htargets, -⟩ := extractButtonTapped_eq cv vc binarySwitchIsOn threshold
      rw [heq, List.map_append, htargets, hpick]
      rfl
  | processed n =>
      obtain ⟨request, hrequest, -, rfl⟩ := step_processed_eq_some.mp hstep
      rw [map_target_set hrequest]
      exact (List.append_nil _).symm
  | saveButtonTapped =>
      obtain rfl := Option.some.inj hstep
      exact (List.append_nil _).symm

lemma answered_of_step (hstep : step cv outcome vc e = some vc') (n : ℕ) :
    (∃ request, vc'.requests[n]? = some request ∧ request.answered) ↔
      (∃ request, vc.requests[n]? = some request ∧ request.answered) ∨ e.reply? = some n := by
  cases e with
  | didFinishPickingMedia originalImage =>
      obtain rfl := Option.some.inj hstep
      cases originalImage <;> simp [imagePickerController, MakeEvent.reply?]
  | extractButtonTapped binarySwitchIsOn threshold =>
      obtain rfl := Option.some.inj hstep
      obtain ⟨requests, heq, -, hnew⟩ := extractButtonTapped_eq cv vc binarySwitchIsOn threshold
      rw [heq, answered_append hnew]
      simp [MakeEvent.reply?]
  | processed m =>
      obtain ⟨request, hrequest, -, rfl⟩ := step_processed_eq_some.mp hstep
      rw [answered_set hrequest, MakeEvent.reply?, Option.some.injEq, eq_comm (a := m)]
  | saveButtonTapped =>
      obtain rfl := Option.some.inj hstep
      simp [MakeEvent.reply?]

lemma sentenceView_of_step (hstep : step cv outcome vc e = some vc') :
    vc'.sentenceView = (e.reply?.map fun n => displayedText (outcome n)).getD vc.sentenceView := by
  cases e with
  | didFinishPickingMedia originalImage =>
      obtain rfl := Option.some.inj hstep
      cases originalImage <;> rfl
  | extractButtonTapped binarySwitchIsOn threshold =>
      obtain rfl := Option.some.inj hstep
      obtain ⟨requests, heq, -⟩ := extractButtonTapped_eq cv vc binarySwitchIsOn threshold
      rw [heq]
      rfl
  | processed n =>
      obtain ⟨request, -, -, rfl⟩ := step_processed_eq_some.mp hstep
      rfl
  | saveButtonTapped =>
      obtain rfl := Option.some.inj hstep
      rfl

/-- **The step lemma.**  Every event leaves its trace in the state. -/
lemma History.step (hvc : History outcome tr vc) (hstep : step cv outcome vc e = some vc') :
    History outcome (tr ++ [e]) vc' where
  targetImage := by
    rw [(images_of_step hstep).1, hvc.targetImage, lastPick_concat]
  readImage := by
    intro image hlast
    rw [lastPick_concat] at hlast
    rw [(images_of_step hstep).2]
    cases hpicked : e.picked? with
    | none =>
        rw [hpicked] at hlast
        exact hvc.readImage image hlast
    | some picked =>
        rw [hpicked] at hlast
        exact hlast
  targets := by
    rw [targets_of_step hvc.targetImage hstep, hvc.targets, requestedImages_concat]
  answered n := by
    rw [answered_of_step hstep, ← hvc.answered, List.mem_append, List.mem_singleton,
      reply?_eq_some_iff, eq_comm (a := e)]
  sentenceView := by
    intro n hlast
    rw [lastReply_concat] at hlast
    rw [sentenceView_of_step hstep]
    cases hreply : e.reply? with
    | none =>
        rw [hreply] at hlast
        exact hvc.sentenceView n hlast
    | some m =>
        rw [hreply] at hlast
        obtain rfl := Option.some.inj hlast
        rfl

/-! ## Whole runs -/

/-- **The run lemma.** -/
theorem history_of_run
    (h : run (DocumentMakeSceneVC.step cv outcome) (viewDidLoad noimage) tr = some vc) :
    History outcome tr vc :=
  run_induction history_viewDidLoad (fun _ _ _ _ _ hvc hstep => hvc.step hstep) h

/-- Nothing is asked before a picture is picked. -/
lemma requestedImages_of_lastPick_eq_none (h : lastPick tr = none) : requestedImages tr = [] := by
  induction tr using List.reverseRecOn with
  | nil => rfl
  | append_singleton tr e ih =>
      rw [lastPick_concat, Option.or_eq_none_iff] at h
      rw [requestedImages_concat, ih h.2]
      cases e with
      | extractButtonTapped binarySwitchIsOn threshold => simp [MakeEvent.requested?, h.2]
      | _ => rfl

namespace History

variable (hvc : History outcome tr vc)

include hvc

lemma extracted_iff :
    Extracted outcome vc ↔ ∃ n, .processed n ∈ tr ∧ (outcome n).isSome := by
  constructor
  · rintro ⟨n, request, hrequest, hanswered, hsome⟩
    exact ⟨n, (hvc.answered n).mpr ⟨request, hrequest, hanswered⟩, hsome⟩
  · rintro ⟨n, hmem, hsome⟩
    obtain ⟨request, hrequest, hanswered⟩ := (hvc.answered n).mp hmem
    exact ⟨n, request, hrequest, hanswered, hsome⟩

lemma requestedImages_getElem? (hrequest : vc.requests[n]? = some request) :
    (requestedImages tr)[n]? = some request.target := by
  rw [← hvc.targets, List.getElem?_map, hrequest]
  rfl

lemma recognizedFrom (h : AnswersLastPick outcome tr) :
    RecognizedFrom outcome vc vc.saveButtonTapped := by
  obtain ⟨n, hlast, hsome, himage⟩ := h
  obtain ⟨request, hrequest, -⟩ := (hvc.answered n).mp (lastReply_eq_some_mem hlast)
  obtain ⟨blocks, hblocks⟩ := Option.isSome_iff_exists.mp hsome
  rw [hvc.requestedImages_getElem? hrequest] at himage
  refine ⟨n, request, blocks, hrequest, hblocks, hvc.readImage _ himage.symm, ?_⟩
  rw [saveButtonTapped, hvc.sentenceView n hlast, hblocks]
  rfl

end History

/-- The picture of a request that is shown was picked last. -/
lemma History.lastPick_eq (hvc : History outcome tr vc)
    (hrequest : vc.requests[n]? = some request) (hshown : vc.readImage = some request.target) :
    lastPick tr = some request.target := by
  cases hpick : lastPick tr with
  | none =>
      have hasked := hvc.requestedImages_getElem? hrequest
      rw [requestedImages_of_lastPick_eq_none hpick] at hasked
      cases hasked
  | some image => rw [← hvc.readImage image hpick, hshown]

/-- Under outcomes that differ from request to request the schedule is the only way. -/
lemma History.answersLastPick (hvc : History (blankOutcome outcome) tr vc)
    (hdocument : RecognizedFrom (blankOutcome outcome) vc vc.saveButtonTapped)
    (hreply : .processed n ∈ tr) : AnswersLastPick outcome tr := by
  obtain ⟨m, hlast⟩ := exists_lastReply hreply
  obtain ⟨k, request, blocks, hrequest, hblocks, hshown, htext⟩ := hdocument
  have hk : (outcome k).isSome := by
    rw [← isSome_blankOutcome, hblocks]
    rfl
  have hsame : displayedText (blankOutcome outcome m) = displayedText (blankOutcome outcome k) := by
    rw [← hvc.sentenceView m hlast, hblocks]
    exact htext
  obtain ⟨rfl, hm⟩ := eq_of_displayedText_blankOutcome hk hsame
  refine ⟨m, hlast, hm, ?_⟩
  rw [hvc.requestedImages_getElem? hrequest, hvc.lastPick_eq hrequest hshown]

/-! ### Other texts, the same schedule -/

/-- Two screens have asked the recognizer the same. -/
structure SameRequests (vc vc' : DocumentMakeSceneVC) : Prop where
  targetImage : vc.targetImage = vc'.targetImage
  requests : vc.requests = vc'.requests

lemma SameRequests.step {s : DocumentMakeSceneVC} (hsame : SameRequests vc vc')
    (hstep : step cv outcome vc e = some s) :
    ∃ s', step cv outcome' vc' e = some s' ∧ SameRequests s s' := by
  cases e with
  | didFinishPickingMedia originalImage =>
      obtain rfl := Option.some.inj hstep
      cases originalImage with
      | none => exact ⟨_, rfl, hsame⟩
      | some pickedImage => exact ⟨_, rfl, rfl, hsame.requests⟩
  | extractButtonTapped binarySwitchIsOn threshold =>
      obtain rfl := Option.some.inj hstep
      refine ⟨_, rfl, ?_⟩
      rw [extractButtonTapped, extractButtonTapped, hsame.targetImage]
      cases htarget : vc'.targetImage with
      | none => exact hsame
      | some target =>
          cases binarySwitchIsOn <;>
            exact ⟨hsame.targetImage, congrArg (· ++ _) hsame.requests⟩
  | processed n =>
      obtain ⟨request, hrequest, hanswered, rfl⟩ := step_processed_eq_some.mp hstep
      rw [hsame.requests] at hrequest
      refine ⟨_, step_processed_eq_some.mpr ⟨request, hrequest, hanswered, rfl⟩,
        hsame.targetImage, ?_⟩
      dsimp only
      rw [hsame.requests]
  | saveButtonTapped =>
      obtain rfl := Option.some.inj hstep
      exact ⟨_, rfl, hsame⟩

/-- What the recognizer finds does not decide which events can happen. -/
lemma exists_run_of_outcome (outcome' : ℕ → Option (List String))
    (h : run (step cv outcome) (viewDidLoad noimage) tr = some vc) :
    ∃ vc', run (step cv outcome') (viewDidLoad noimage) tr = some vc' := by
  have hboth : ∃ vc', run (step cv outcome') (viewDidLoad noimage) tr = some vc' ∧
      SameRequests vc vc' :=
    exists_run_of_simulation ⟨rfl, rfl⟩ (fun _ _ _ _ hsame hstep => hsame.step hstep) h
  obtain ⟨vc', hrun, -⟩ := hboth
  exact ⟨vc', hrun⟩

/-- **Which schedules save a text with its own picture.**  Whatever texts the recognizer finds
where it succeeds, each tap on save that comes after a successful extraction hands over a picture
and the text found in it, exactly when at each of these taps the last reply was a success and is
about the picture that was picked last. -/
theorem saves_own_text_iff (cv : OpenCV) (outcome : ℕ → Option (List String))
    (noimage : Option PixelImage) (tr : List MakeEvent) (vc : DocumentMakeSceneVC)
    (h : run (step cv outcome) (viewDidLoad noimage) tr = some vc) :
    (∀ outcome' : ℕ → Option (List String), (∀ n, (outcome' n).isSome = (outcome n).isSome) →
      ∀ vc', Takes (step cv outcome') (viewDidLoad noimage) tr vc' .saveButtonTapped →
        SavesOwnText outcome' vc') ↔
      ∀ done rest, tr = done ++ .saveButtonTapped :: rest →
        (∃ n, .processed n ∈ done ∧ (outcome n).isSome) → AnswersLastPick outcome done := by
  constructor
  · rintro hsaves done rest rfl ⟨n, hreply, hsome⟩
    obtain ⟨vc₁, hrun, -⟩ := exists_of_run_append h
    obtain ⟨vc', hrun'⟩ := exists_run_of_outcome (blankOutcome outcome) hrun
    have hvc' := history_of_run hrun'
    refine hvc'.answersLastPick (hsaves _ (fun _ => isSome_blankOutcome) vc'
      (takes_iff.mpr ⟨done, rest, rfl, hrun'⟩) ?_) hreply
    exact hvc'.extracted_iff.mpr ⟨n, hreply, by rwa [isSome_blankOutcome]⟩
  · intro hschedule outcome' hsuccess vc' ht hextracted
    obtain ⟨done, rest, rfl, hrun⟩ := takes_iff.mp ht
    have hvc' := history_of_run hrun
    obtain ⟨n, hreply, hsome⟩ := hvc'.extracted_iff.mp hextracted
    obtain ⟨m, hlast, hm, himage⟩ :=
      hschedule done rest rfl ⟨n, hreply, by rwa [← hsuccess]⟩
    exact hvc'.recognizedFrom ⟨m, hlast, by rwa [hsuccess], himage⟩

/-! ### A second picture -/

/-- One pixel of a grey level. -/
def onePixel (level : UInt8) : PixelImage := ⟨1, [.grey level]⟩

def findsText (_request : ℕ) : Option (List String) := some ["text"]

/-- A picture is picked, its text is extracted and both are saved. -/
def savesFirst : List MakeEvent :=
  [.didFinishPickingMedia (some (onePixel 1)), .extractButtonTapped false 0, .processed 0,
    .saveButtonTapped]

/-- A second picture is picked before the tap on save. -/
def savesSecond : List MakeEvent :=
  [.didFinishPickingMedia (some (onePixel 1)), .extractButtonTapped false 0, .processed 0,
    .didFinishPickingMedia (some (onePixel 2)), .saveButtonTapped]

theorem saves_own_text_iff_savesFirst :
    ∃ vc, run (step documentedOpenCV findsText) (viewDidLoad none) savesFirst = some vc ∧
      ((∀ outcome' : ℕ → Option (List String), (∀ n, (outcome' n).isSome = (findsText n).isSome) →
        ∀ vc', Takes (step documentedOpenCV outcome') (viewDidLoad none) savesFirst vc'
            .saveButtonTapped → SavesOwnText outcome' vc') ↔
        ∀ done rest, savesFirst = done ++ .saveButtonTapped :: rest →
          (∃ n, .processed n ∈ done ∧ (findsText n).isSome) → AnswersLastPick findsText done) :=
  ⟨_, rfl, saves_own_text_iff documentedOpenCV findsText none savesFirst _ rfl⟩

/-- The text of the first picture is saved with the second one. -/
theorem second_picture_gets_first_text :
    ∃ vc, run (step documentedOpenCV findsText) (viewDidLoad none) savesSecond = some vc ∧
      Takes (step documentedOpenCV findsText) (viewDidLoad none) savesSecond vc
        .saveButtonTapped ∧
      vc.saveButtonTapped = ⟨some (onePixel 2), "text "⟩ ∧ ¬ SavesOwnText findsText vc := by
  refine ⟨_, rfl, takes_iff.mpr ⟨savesSecond.dropLast, [], rfl, rfl⟩, by decide, ?_⟩
  intro hsaves
  obtain ⟨n, request, blocks, hrequest, -, himage, -⟩ := hsaves ⟨0, _, rfl, rfl, rfl⟩
  -- the only request is about the first picture
  cases n with
  | zero =>
      obtain rfl := Option.some.inj hrequest
      exact absurd himage (by decide)
  | succ n => cases hrequest

end Procon
