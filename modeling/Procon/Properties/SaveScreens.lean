import Procon.Construction.DocumentScreens
import Procon.Properties.OwnerRecord
import Procon.Properties.SaveAtomicity
import Procon.Properties.SavedText

/-!
# Save screens over runs

Any number of installations run with their server, and on each of them a save screen stands in
front of a make screen that goes on receiving replies.  Where nobody types into it, the make screen
is in a state of its own run since it was loaded (`make_of_run`).  The save screen holds what the
last tap on save handed it and what has been typed into it since, its switches stand as they were
moved since, and a question that is up was put from it (`presented_of_run`).

So a tap on OK saves what belongs to the question that it answers (`ok_answers_question`).
-/

namespace Procon

open LabelledRun

/-! ## What the events tell -/

namespace InstallationEvent

/-- The event loads a new make screen. -/
def loads : InstallationEvent → Bool
  | .load => true
  | .client e => e.isRestart
  | .okTapped _ cut => cut
  | _ => false

/-- The event leaves no save screen. -/
def closesSheet : InstallationEvent → Bool
  | .dismiss => true
  | e => e.loads

/-- The event changes a text that a reply has put into a view. -/
def editsText : InstallationEvent → Bool
  | .edit _ | .type .context _ => true
  | _ => false

def makeEvent? : InstallationEvent → Option MakeEvent
  | .make e => some e
  | _ => none

/-- The text that an event types into an input. -/
def typed? (input : TextInput) : InstallationEvent → Option String
  | .type input' text => if input' = input then some text else none
  | _ => none

def switchedLocal? : InstallationEvent → Option Bool
  | .client e => e.switchedLocal?
  | _ => none

def switchedOnline? : InstallationEvent → Option Bool
  | .client e => e.switchedOnline?
  | _ => none

end InstallationEvent

/-- The events of the make screen since it was loaded. -/
def sinceLoad (events : List InstallationEvent) : List MakeEvent :=
  events.foldl (fun done e => if e.loads then [] else done ++ e.makeEvent?.toList) []

/-- What the save screen holds that was handed a document, after some events. -/
def filledIn (env : ScreenEnvironment) (received : ReceivedDocument)
    (events : List InstallationEvent) : SaveSheet where
  imageView := received.receivedImage.or env.noimage
  text input := some ((lastValue (InstallationEvent.typed? input) events).getD
    (match input with
    | .context => received.receivedTextFromPreScene
    | _ => ""))

/-- Whether the local switch of a save screen is on, after some events. -/
def localIsOn (events : List InstallationEvent) : Bool :=
  (lastValue InstallationEvent.switchedLocal? events).getD false

def onlineIsOn (events : List InstallationEvent) : Bool :=
  (lastValue InstallationEvent.switchedOnline? events).getD false

/-- The question was put by one of the events, as the switches stood then, with one of them on. -/
def AskedIn (message : String) (events : List InstallationEvent) : Prop :=
  ∃ before after, events = before ++ .client .saveButtonTapped :: after ∧
    message = DocumentSaveSceneVC.message (localIsOn before) (onlineIsOn before) ∧
    (localIsOn before || onlineIsOn before) = true

section Events

variable {env : ScreenEnvironment} {events : List InstallationEvent} {e : InstallationEvent}
  {input : TextInput} {received : ReceivedDocument}

lemma sinceLoad_concat : sinceLoad (events ++ [e]) =
    if e.loads then [] else sinceLoad events ++ e.makeEvent?.toList := by
  unfold sinceLoad
  rw [List.foldl_append]
  rfl

lemma localIsOn_concat :
    localIsOn (events ++ [e]) = e.switchedLocal?.getD (localIsOn events) := by
  unfold localIsOn
  rw [lastValue_concat]
  cases e.switchedLocal? <;> rfl

lemma onlineIsOn_concat :
    onlineIsOn (events ++ [e]) = e.switchedOnline?.getD (onlineIsOn events) := by
  unfold onlineIsOn
  rw [lastValue_concat]
  cases e.switchedOnline? <;> rfl

lemma AskedIn.concat {message : String} (h : AskedIn message events) :
    AskedIn message (events ++ [e]) := by
  obtain ⟨before, after, rfl, hmessage, hone⟩ := h
  exact ⟨before, after ++ [e], by simp, hmessage, hone⟩

lemma viewDidLoad_eq_filledIn :
    SaveSheet.viewDidLoad env.noimage received = filledIn env received [] := by
  unfold SaveSheet.viewDidLoad filledIn
  have hview : SaveSheet.initializeImage env.noimage received.receivedImage =
      received.receivedImage.or env.noimage := by
    cases received.receivedImage <;> rfl
  rw [hview]
  congr 1
  funext input
  cases input <;> rfl

lemma filledIn_type {text : String} :
    filledIn env received (events ++ [.type input text]) =
      (filledIn env received events).type input text := by
  unfold filledIn SaveSheet.type
  congr 1
  funext input'
  rw [lastValue_concat]
  by_cases h : input' = input
  · subst h
    rw [Function.update_self, InstallationEvent.typed?, if_pos rfl]
    rfl
  · rw [Function.update_of_ne h, InstallationEvent.typed?, if_neg (Ne.symm h), Option.none_or]

lemma filledIn_concat (h : ∀ input, e.typed? input = none) :
    filledIn env received (events ++ [e]) = filledIn env received events := by
  unfold filledIn
  congr 1
  funext input
  rw [lastValue_concat, h, Option.none_or]

lemma typed?_context_of_editsText (h : e.editsText = false) : e.typed? .context = none := by
  cases e with
  | type input text =>
      cases input with
      | context => cases h
      | _ => rfl
  | _ => rfl

lemma context_filledIn (h : ∀ e ∈ events, e.editsText = false) :
    (filledIn env received events).text .context = some received.receivedTextFromPreScene := by
  have hnone : lastValue (InstallationEvent.typed? .context) ([] ++ events) = none :=
    lastValue_append_of_forall fun e he => typed?_context_of_editsText (h e he)
  show some ((lastValue (InstallationEvent.typed? .context) ([] ++ events)).getD _) = _
  rw [hnone]
  rfl

end Events

variable {ι : Type*} [DecidableEq ι]

/-- The event of an installation that an event is. -/
def AppEvent.of? (c : ι) : AppEvent ι → Option InstallationEvent
  | .installation c' e => if c' = c then some e else none
  | .verify _ => none

/-- The events of an installation. -/
def eventsOf (c : ι) (tr : List (AppEvent ι)) : List InstallationEvent :=
  tr.filterMap (AppEvent.of? c)

variable {env : ι → ScreenEnvironment} {app app' s : App ι} {tr done filled : List (AppEvent ι)}
  {e : AppEvent ι} {c : ι} {sheet : SaveSheet}

lemma of?_eq_some_iff {e' : InstallationEvent} : e.of? c = some e' ↔ e = .installation c e' := by
  cases e with
  | verify uid => exact ⟨fun h => (by cases h), fun h => (by cases h)⟩
  | installation c' e =>
      unfold AppEvent.of?
      rw [Option.ite_none_right_eq_some, AppEvent.installation.injEq, Option.some.injEq]

lemma eventsOf_concat : eventsOf c (tr ++ [e]) = eventsOf c tr ++ (e.of? c).toList := by
  unfold eventsOf
  rw [List.filterMap_append]
  cases h : e.of? c <;> simp [h]

open App

/-- An installation changes by its own events only. -/
lemma installation_of_step (h : step env app e = some app') (c : ι) :
    (e.of? c = none ∧ app'.installation c = app.installation c) ∨
      ∃ e', e.of? c = some e' ∧ Installation.Outcome (env c) app.server (app.installation c) e'
        app'.server (app'.installation c) := by
  cases outcome_of_step h with
  | verify uid devices hstep => exact Or.inl ⟨rfl, rfl⟩
  | installation c' e server installation hnext =>
      show (_ ∧ Function.update app.installation c' installation c = _) ∨ ∃ e', _ ∧
        Installation.Outcome _ _ _ _ server (Function.update app.installation c' installation c)
      by_cases hc : c' = c
      · subst hc
        rw [Function.update_self]
        exact Or.inr ⟨e, of?_eq_some_iff.mpr rfl, hnext⟩
      · rw [Function.update_of_ne (Ne.symm hc)]
        exact Or.inl ⟨if_neg hc, rfl⟩

/-! ## The make screen -/

section Make

variable {env : ScreenEnvironment} {server server' : Server}
  {installation installation' : Installation} {e : InstallationEvent}

/-- An event loads a new make screen or is an event of it at most. -/
lemma Installation.Outcome.make_eq
    (h : Installation.Outcome env server installation e server' installation') :
    (e.loads = true → installation'.loads = installation.loads + 1 ∧
        installation'.make = .viewDidLoad env.noimage) ∧
      (e.loads = false → installation'.loads = installation.loads ∧ (e.editsText = false →
        run (DocumentMakeSceneVC.step env.cv (env.outcome installation.loads)) installation.make
          e.makeEvent?.toList = some installation'.make)) := by
  cases h with
  | make e make hmake he =>
      refine ⟨fun h => (by cases h), fun _ => ⟨rfl, fun _ => ?_⟩⟩
      show (DocumentMakeSceneVC.step _ _ installation.make e).bind some = _
      rw [Option.bind_fun_some, hmake]
  | presented hsheet => exact ⟨fun h => (by cases h), fun _ => ⟨rfl, fun _ => rfl⟩⟩
  | edit text => exact ⟨fun h => (by cases h), fun _ => ⟨rfl, fun h => (by cases h)⟩⟩
  | type input text sheet hsheet => exact ⟨fun h => (by cases h), fun _ => ⟨rfl, fun _ => rfl⟩⟩
  | dismiss halert => exact ⟨fun h => (by cases h), fun _ => ⟨rfl, fun _ => rfl⟩⟩
  | load halert => exact ⟨fun _ => ⟨rfl, rfl⟩, fun h => (by cases h)⟩
  | client e client server' hok hsheet hstep =>
      refine ⟨fun h => ?_, fun h => ?_⟩
      · show (if e.isRestart then _ else _ : Installation).loads = _ ∧ _
        rw [if_pos (by exact h)]
        exact ⟨rfl, rfl⟩
      · show (if e.isRestart then _ else _ : Installation).loads = _ ∧ _
        rw [if_neg (by rw [show e.isRestart = false from h]; simp)]
        exact ⟨rfl, fun _ => rfl⟩
  | ok choice cut sheet message hsheet halert hcut =>
      cases cut with
      | true => exact ⟨fun _ => ⟨rfl, rfl⟩, fun h => (by cases h)⟩
      | false => exact ⟨fun h => (by cases h), fun _ => ⟨rfl, fun _ => rfl⟩⟩

end Make

/-- **The make screen**, where nobody types into it, is in a state of its own run since it was
loaded; the save screen in front of it and the other installations play no part in that. -/
lemma make_of_run (h : run (step env) (start env) tr = some app) (c : ι)
    (hedits : ∀ e ∈ eventsOf c tr, e.editsText = false) :
    (app.installation c).loads = (eventsOf c tr).countP InstallationEvent.loads ∧
      run (DocumentMakeSceneVC.step (env c).cv ((env c).outcome (app.installation c).loads))
        (.viewDidLoad (env c).noimage) (sinceLoad (eventsOf c tr)) =
          some (app.installation c).make := by
  revert hedits
  refine run_induction (P := fun tr app => (∀ e ∈ eventsOf c tr, e.editsText = false) →
    (app.installation c).loads = (eventsOf c tr).countP InstallationEvent.loads ∧
      run (DocumentMakeSceneVC.step (env c).cv ((env c).outcome (app.installation c).loads))
        (.viewDidLoad (env c).noimage) (sinceLoad (eventsOf c tr)) =
          some (app.installation c).make) (fun _ => ⟨rfl, rfl⟩) ?_ h
  intro tr app e app' hrun ih hstep hedits
  rw [eventsOf_concat] at hedits ⊢
  obtain ⟨hloads, hmake⟩ := ih fun e' he' => hedits e' (List.mem_append_left _ he')
  rcases installation_of_step hstep c with ⟨hnone, hsame⟩ | ⟨e', hsome, hnext⟩
  · rw [hnone, hsame, Option.toList_none, List.append_nil]
    exact ⟨hloads, hmake⟩
  · have hunedited : e'.editsText = false := hedits e' (by simp [hsome])
    rw [hsome, Option.toList_some, sinceLoad_concat, List.countP_append, List.countP_singleton]
    obtain ⟨hloaded, hstayed⟩ := hnext.make_eq
    cases hl : e'.loads with
    | true =>
        obtain ⟨hnext, hview⟩ := hloaded hl
        rw [hnext, hview, hloads]
        exact ⟨rfl, rfl⟩
    | false =>
        obtain ⟨hnext, hrun'⟩ := hstayed hl
        rw [hnext, hloads]
        refine ⟨rfl, ?_⟩
        rw [if_neg (by simp), ← hloads, run_append_of_eq hmake, hrun' hunedited]

/-! ## The save screen -/

section Sheet

variable {env : ScreenEnvironment} {server server' : Server}
  {installation installation' : Installation} {e : InstallationEvent}

/-- What the views of the save screen hold after an event. -/
structure SheetStep (installation : Installation) (e : InstallationEvent)
    (installation' : Installation) (sheet sheet' : SaveSheet) : Prop where
  holds : ∀ env received events, sheet = filledIn env received events →
    sheet' = filledIn env received (events ++ [e])
  switchSavingLocal : installation'.device.client.switchSavingLocal =
    e.switchedLocal?.getD installation.device.client.switchSavingLocal
  switchSavingOnline : installation'.device.client.switchSavingOnline =
    e.switchedOnline?.getD installation.device.client.switchSavingOnline
  confirm : ∀ message, installation'.device.client.alert = some (.confirm message) →
    installation.device.client.alert = some (.confirm message) ∨
      e = .client .saveButtonTapped ∧
        DocumentSaveSceneVC.saveButtonTapped installation.device.client = .confirm message

/-- A save screen that is up has been presented by the event, or was up before it. -/
lemma Installation.Outcome.sheet_eq
    (h : Installation.Outcome env server installation e server' installation')
    {sheet' : SaveSheet} (hsheet' : installation'.sheet = some sheet') :
    (e = .make .saveButtonTapped ∧ installation' = installation.presentSheet env ∧
        installation.sheet = none) ∨
      e.closesSheet = false ∧ e ≠ .make .saveButtonTapped ∧
        ∃ sheet, installation.sheet = some sheet ∧
          SheetStep installation e installation' sheet sheet' := by
  cases h with
  | make e make hmake he =>
      refine Or.inr ⟨rfl, fun h => he (InstallationEvent.make.inj h), sheet', hsheet', ?_, rfl, rfl,
        fun _ h => Or.inl h⟩
      exact fun _ _ _ h => h.trans (filledIn_concat fun _ => rfl).symm
  | presented hsheet => exact Or.inl ⟨rfl, rfl, hsheet⟩
  | edit text =>
      refine Or.inr ⟨rfl, fun h => (by cases h), sheet', hsheet', ?_, rfl, rfl, fun _ h => Or.inl h⟩
      exact fun _ _ _ h => h.trans (filledIn_concat fun _ => rfl).symm
  | type input text sheet hsheet =>
      obtain rfl := Option.some.inj hsheet'
      refine Or.inr ⟨rfl, fun h => (by cases h), sheet, hsheet, ?_, rfl, rfl, fun _ h => Or.inl h⟩
      rintro env received events rfl
      exact filledIn_type.symm
  | dismiss halert => cases hsheet'
  | load halert => cases hsheet'
  | client e client server' hok hsheet hstep =>
      cases hr : e.isRestart with
      | true =>
          rw [hr] at hsheet'
          cases hsheet'
      | false =>
          rw [hr] at hsheet'
          have hchange := Client.sheetChange_of_step hstep hok
          refine Or.inr ⟨hr, fun h => (by cases h), sheet', hsheet', ?_⟩
          exact {
            holds := fun _ _ _ h => h.trans (filledIn_concat fun _ => rfl).symm
            switchSavingLocal := hchange.switchSavingLocal
            switchSavingOnline := hchange.switchSavingOnline
            confirm := fun message h => (hchange.confirm message h).imp And.left fun hboth =>
              ⟨congrArg _ hboth.1, hboth.2⟩ }
  | ok choice cut sheet message hsheet halert hcut =>
      cases cut with
      | true => cases hsheet'
      | false =>
          obtain ⟨hlocal, honline, hconfirm⟩ :=
            @Device.sheetChange_okTapped (sheet.okTap env choice) server installation.device
          refine Or.inr ⟨rfl, fun h => (by cases h), sheet', hsheet', ?_, hlocal, honline, ?_⟩
          · exact fun _ _ _ h => h.trans (filledIn_concat fun _ => rfl).symm
          · exact fun message h => absurd h (hconfirm message)

/-- No question stands where no save screen is up. -/
lemma Installation.Outcome.no_question
    (h : Installation.Outcome env server installation e server' installation')
    (hbefore : installation.sheet = none → ∀ message,
      installation.device.client.alert ≠ some (.confirm message))
    (hnone : installation'.sheet = none) (message : String) :
    installation'.device.client.alert ≠ some (.confirm message) := by
  cases h with
  | make e make hmake he => exact hbefore hnone message
  | edit text => exact hbefore hnone message
  | presented hsheet => cases hnone
  | type input text sheet hsheet => cases hnone
  | dismiss halert =>
      intro hconfirm
      rw [show installation.device.client.alert = _ from hconfirm] at halert
      cases halert
  | load halert =>
      intro hconfirm
      rw [show installation.device.client.alert = _ from hconfirm] at halert
      cases halert
  | client e client server' hok hsheet hstep =>
      intro hconfirm
      have hclient : client.alert = some (.confirm message) := by
        cases hr : e.isRestart <;> rw [hr] at hconfirm <;> exact hconfirm
      rcases (Client.sheetChange_of_step hstep hok).confirm message hclient with
        ⟨hold, hr⟩ | ⟨rfl, -⟩
      · rw [hr] at hnone
        exact hbefore hnone message hold
      · exact hsheet rfl hnone
  | ok choice cut sheet question hsheet halert hcut =>
      cases cut with
      | true => exact Device.sheetChange_okTapped.2.2 message
      | false => cases hsheet.symm.trans hnone

/-- A tap on OK answers a question, and the process lasts as the event says. -/
lemma Installation.Outcome.of_okTapped {choice : OkChoice} {cut : Bool}
    (h : Installation.Outcome env server installation (.okTapped choice cut) server'
      installation') :
    ∃ sheet message, installation.sheet = some sheet ∧
      installation.device.client.alert = some (.confirm message) ∧
      Device.okCompletes (sheet.okTap env choice) server installation.device.dismissAlert =
        !cut := by
  cases h with
  | ok _ _ sheet message hsheet halert hcut => exact ⟨sheet, message, hsheet, halert, hcut⟩

end Sheet

/-- The save screen of an installation was presented by the tap on save after the events `done`,
and `filled` are the events since. -/
structure PresentedBy (env : ι → ScreenEnvironment) (c : ι) (tr : List (AppEvent ι))
    (installation : Installation) (sheet : SaveSheet) (done filled : List (AppEvent ι))
    (s : App ι) : Prop where
  events : tr = done ++ .installation c (.make .saveButtonTapped) :: filled
  reached : run (step env) (start env) done = some s
  open_since : ∀ e ∈ eventsOf c filled, e.closesSheet = false
  holds : sheet = filledIn (env c) (s.installation c).make.saveButtonTapped (eventsOf c filled)
  switchSavingLocal :
    installation.device.client.switchSavingLocal = localIsOn (eventsOf c filled)
  switchSavingOnline :
    installation.device.client.switchSavingOnline = onlineIsOn (eventsOf c filled)
  asked : ∀ message, installation.device.client.alert = some (.confirm message) →
    AskedIn message (eventsOf c filled)

/-- An event of the save screen is one more event since it was presented. -/
lemma PresentedBy.concat {installation installation' : Installation} {sheet' : SaveSheet}
    {e' : InstallationEvent} (h : PresentedBy env c tr installation sheet done filled s)
    (he : e.of? c = some e') (hopen : e'.closesSheet = false)
    (hstep : SheetStep installation e' installation' sheet sheet') :
    PresentedBy env c (tr ++ [e]) installation' sheet' done (filled ++ [e]) s where
  events := by rw [h.events, List.append_assoc, List.cons_append]
  reached := h.reached
  open_since := by
    rw [eventsOf_concat, he]
    intro e'' he''
    rcases List.mem_append.mp he'' with he'' | he''
    · exact h.open_since e'' he''
    · rwa [List.mem_singleton.mp he'']
  holds := by
    rw [eventsOf_concat, he]
    exact hstep.holds _ _ _ h.holds
  switchSavingLocal := by
    rw [eventsOf_concat, he, hstep.switchSavingLocal, h.switchSavingLocal]
    exact localIsOn_concat.symm
  switchSavingOnline := by
    rw [eventsOf_concat, he, hstep.switchSavingOnline, h.switchSavingOnline]
    exact onlineIsOn_concat.symm
  asked := by
    rw [eventsOf_concat, he]
    intro message hconfirm
    rcases hstep.confirm message hconfirm with hold | ⟨rfl, hasked⟩
    · exact (h.asked message hold).concat
    · obtain ⟨hone, hmessage⟩ := Client.of_saveButtonTapped_eq_confirm hasked
      rw [h.switchSavingLocal, h.switchSavingOnline] at hone hmessage
      exact ⟨eventsOf c filled, [], rfl, hmessage, hone⟩

/-- An event of another installation, or of none. -/
lemma PresentedBy.concat_other {installation : Installation}
    (h : PresentedBy env c tr installation sheet done filled s) (he : e.of? c = none) :
    PresentedBy env c (tr ++ [e]) installation sheet done (filled ++ [e]) s := by
  have hevents : eventsOf c (filled ++ [e]) = eventsOf c filled := by
    rw [eventsOf_concat, he, Option.toList_none, List.append_nil]
  exact {
    events := by rw [h.events, List.append_assoc, List.cons_append]
    reached := h.reached
    open_since := hevents ▸ h.open_since
    holds := hevents ▸ h.holds
    switchSavingLocal := hevents ▸ h.switchSavingLocal
    switchSavingOnline := hevents ▸ h.switchSavingOnline
    asked := hevents ▸ h.asked }

/-- **The save screen** holds what the last tap on save handed it and what was typed since, and
its switches and its question are of its own making. -/
lemma presented_of_run (h : run (step env) (start env) tr = some app) (c : ι) :
    (∀ sheet, (app.installation c).sheet = some sheet →
      ∃ done filled s, PresentedBy env c tr (app.installation c) sheet done filled s) ∧
    ((app.installation c).sheet = none → ∀ message,
      (app.installation c).device.client.alert ≠ some (.confirm message)) := by
  refine run_induction (P := fun tr app =>
    (∀ sheet, (app.installation c).sheet = some sheet →
      ∃ done filled s, PresentedBy env c tr (app.installation c) sheet done filled s) ∧
    ((app.installation c).sheet = none → ∀ message,
      (app.installation c).device.client.alert ≠ some (.confirm message))) ?_ ?_ h
  · exact ⟨fun sheet h => (by cases h), fun _ message h => by cases h⟩
  · rintro tr app e app' hrun ⟨ih, hquestion⟩ hstep
    rcases installation_of_step hstep c with ⟨hnone, hsame⟩ | ⟨e', hsome, hnext⟩
    · rw [hsame]
      refine ⟨fun sheet hsheet => ?_, hquestion⟩
      obtain ⟨done, filled, s, hpresented⟩ := ih sheet hsheet
      exact ⟨done, filled ++ [e], s, hpresented.concat_other hnone⟩
    · refine ⟨fun sheet hsheet => ?_, hnext.no_question hquestion⟩
      rcases hnext.sheet_eq hsheet with
        ⟨rfl, heq, hnosheet⟩ | ⟨hopen, -, sheet₀, hsheet₀, hsheetStep⟩
      · obtain rfl := of?_eq_some_iff.mp hsome
        rw [heq] at hsheet ⊢
        obtain rfl := Option.some.inj hsheet
        exact ⟨tr, [], app, rfl, hrun, by simp [eventsOf], viewDidLoad_eq_filledIn, rfl, rfl,
          fun message hconfirm => absurd hconfirm (hquestion hnosheet message)⟩
      · obtain ⟨done, filled, s, hpresented⟩ := ih sheet₀ hsheet₀
        exact ⟨done, filled ++ [e], s, hpresented.concat hsome hopen hsheetStep⟩

/-! ## The tap on OK -/

/-- OK is tapped on a save screen that the tap on save after the events `done` has presented, in
the state `s`; `filled` are the events in between, after which the state is `u`, and `later` those
that follow. -/
structure SavedBy (env : ι → ScreenEnvironment) (tr : List (AppEvent ι)) (c : ι)
    (choice : OkChoice) (cut : Bool) (done filled later : List (AppEvent ι)) (s u : App ι) :
    Prop where
  events : tr = done ++ .installation c (.make .saveButtonTapped) ::
    (filled ++ .installation c (.okTapped choice cut) :: later)
  presented : run (step env) (start env) done = some s
  open_since : ∀ e ∈ eventsOf c filled, e.closesSheet = false
  tapped : run (step env) (start env)
    (done ++ .installation c (.make .saveButtonTapped) :: filled) = some u

/-- A tap on OK of a run, and the save screen it is tapped on. -/
lemma savedBy_of_takes {choice : OkChoice} {cut : Bool} {u : App ι}
    (htakes : Takes (step env) (start env) tr u (.installation c (.okTapped choice cut)))
    (hsheet : (u.installation c).sheet = some sheet) :
    ∃ done filled later s, SavedBy env tr c choice cut done filled later s u ∧
      PresentedBy env c (done ++ .installation c (.make .saveButtonTapped) :: filled)
        (u.installation c) sheet done filled s := by
  obtain ⟨before, later, rfl, hrun⟩ := takes_iff.mp htakes
  obtain ⟨done, filled, s, hpresented⟩ := (presented_of_run hrun c).1 sheet hsheet
  obtain rfl := hpresented.events
  refine ⟨done, filled, later, s, ⟨?_, hpresented.reached, hpresented.open_since, hrun⟩, hpresented⟩
  rw [List.append_assoc, List.cons_append]

lemma ok_of_takes {choice : OkChoice} {cut : Bool} {u : App ι}
    (h : run (step env) (start env) tr = some app)
    (htakes : Takes (step env) (start env) tr u (.installation c (.okTapped choice cut))) :
    ∃ sheet message, (u.installation c).sheet = some sheet ∧
      (u.installation c).device.client.alert = some (.confirm message) ∧
      Device.okCompletes (sheet.okTap (env c) choice) u.server
        (u.installation c).device.dismissAlert = !cut := by
  obtain ⟨next, hnext, -⟩ := htakes.exists_next h
  rcases installation_of_step hnext c with ⟨hnone, -⟩ | ⟨e', hsome, hstep⟩
  · cases hnone.symm.trans (of?_eq_some_iff.mpr rfl)
  · obtain rfl := (AppEvent.installation.inj (of?_eq_some_iff.mp hsome)).2
    exact hstep.of_okTapped

/-- What a save screen holds when OK is tapped on it. -/
def savedSheet (env : ι → ScreenEnvironment) (c : ι) (filled : List (AppEvent ι)) (s : App ι) :
    SaveSheet :=
  filledIn (env c) (s.installation c).make.saveButtonTapped (eventsOf c filled)

/-- **OK answers a question about its own save screen.**  Whatever happens on the make screen, to
the session and on other installations in between, a tap on OK answers a question that was put
from the very save screen whose contents it saves, with a switch on; the question told how the
switches stood then, and where none was moved since it told which halves of the save are made. -/
theorem ok_answers_question (env : ι → ScreenEnvironment) (tr : List (AppEvent ι)) (app u : App ι)
    (h : run (step env) (start env) tr = some app) (c : ι) (choice : OkChoice) (cut : Bool)
    (htakes : Takes (step env) (start env) tr u (.installation c (.okTapped choice cut))) :
    ∃ done filled later s before after, SavedBy env tr c choice cut done filled later s u ∧
      (u.installation c).sheet = some (savedSheet env c filled s) ∧
      eventsOf c filled = before ++ .client .saveButtonTapped :: after ∧
      (localIsOn before || onlineIsOn before) = true ∧
      (u.installation c).device.client.alert =
        some (.confirm (DocumentSaveSceneVC.message (localIsOn before) (onlineIsOn before))) ∧
      ((∀ e ∈ after, e.switchedLocal? = none ∧ e.switchedOnline? = none) →
        (u.installation c).device.client.switchSavingLocal = localIsOn before ∧
          (u.installation c).device.client.switchSavingOnline = onlineIsOn before) := by
  obtain ⟨sheet, message, hsheet, halert, -⟩ := ok_of_takes h htakes
  obtain ⟨done, filled, later, s, hsaved, hpresented⟩ := savedBy_of_takes htakes hsheet
  obtain ⟨before, after, hevents, rfl, hone⟩ := hpresented.asked message halert
  refine ⟨done, filled, later, s, before, after, hsaved,
    hsheet.trans (congrArg some hpresented.holds), hevents, hone, halert, fun hunmoved => ?_⟩
  rw [hpresented.switchSavingLocal, hpresented.switchSavingOnline, hevents]
  unfold localIsOn onlineIsOn
  rw [lastValue_append_of_forall, lastValue_append_of_forall]
  · exact ⟨rfl, rfl⟩
  · intro e he
    rcases List.mem_cons.mp he with rfl | he
    · rfl
    · exact (hunmoved e he).2
  · intro e he
    rcases List.mem_cons.mp he with rfl | he
    · rfl
    · exact (hunmoved e he).1

/-! ### A picture that is kept and shared -/

/-- Every picture has the same JPEG data, and every request finds a text. -/
def oneText (_installation : Unit) : ScreenEnvironment where
  cv := documentedOpenCV
  outcome _ := findsText
  noimage := none
  uiImage _ := firstPicture

/-- Events of the only client, in its installation. -/
def ofInstallation (events : List ClientEvent) : List (AppEvent Unit) :=
  events.map fun e => .installation () (.client e)

def bothChoice : OkChoice where
  arrayOfSet := .inOrder
  localUuid := .first
  onlineUuid := .second
  writeSucceeds := true
  steps := 4

/-- A user has signed in, and is asked about saving a picture with its text on both sides. -/
def askedEvents : List (AppEvent Unit) :=
  ofInstallation (signUpTrace ++ [.callback 0]) ++ .verify "user" ::
    ofInstallation [.signIn, .signInSucceeds 1 "user", .callback 1, .dismissAuthScene] ++
    [.installation () (.make (.didFinishPickingMedia (some (onePixel 1)))),
      .installation () (.make (.extractButtonTapped false 0)),
      .installation () (.make (.processed 0)), .installation () (.make .saveButtonTapped),
      .installation () (.type .header "title")] ++
    ofInstallation [.switchSavingLocal true, .switchSavingOnline true, .saveButtonTapped]

def savesBoth : List (AppEvent Unit) :=
  askedEvents ++ [.installation () (.okTapped bothChoice false)]

theorem ok_answers_question_savesBoth :
    ∃ u, run (step oneText) (start oneText) askedEvents = some u ∧
      ∃ done filled later s, SavedBy oneText savesBoth () bothChoice false done filled later s u ∧
        (u.installation ()).sheet = some (savedSheet oneText () filled s) := by
  have hsaves : (run (step oneText) (start oneText) savesBoth).isSome := by decide +kernel
  obtain ⟨app, happ⟩ := Option.isSome_iff_exists.mp hsaves
  obtain ⟨u, next, hu, -, -⟩ := exists_of_run_append_cons happ
  have htakes : Takes (step oneText) (start oneText) savesBoth u
      (.installation () (.okTapped bothChoice false)) := takes_iff.mpr ⟨askedEvents, [], rfl, hu⟩
  obtain ⟨done, filled, later, s, before, after, hsaved, hsheet, -⟩ :=
    ok_answers_question oneText savesBoth app u happ () bothChoice false htakes
  exact ⟨u, hu, done, filled, later, s, hsaved, hsheet⟩

end Procon
