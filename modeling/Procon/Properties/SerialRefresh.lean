import Procon.Construction.OnlineApp
import Procon.Properties.Callbacks
import Procon.Properties.RefreshProgress

/-!
# Refreshes one after another

The refresh control sends no new refresh until `endRefreshing`.  In a run that keeps to this, all
refreshes but the latest have notified, so no callback of an earlier refresh is still to come, and
the dictionary and the array of the screen hold what the callbacks of the latest refresh have
read and nothing else.  `SerialInvariant` says so, and `SerialInvariant.step` is the step lemma.
-/

namespace Procon

open LabelledRun OnlineApp

variable {ι : Type*} {app app' : OnlineApp ι} {i : ℕ} {query : Query}

structure SerialInvariant (app : OnlineApp ι) : Prop where
  refreshes : RefreshesInvariant app.screen
  /-- All refreshes but the latest have notified. -/
  earlier : ∀ i, i + 1 < app.screen.count → (app.screen.refresh i).notifyPending = false
  /-- Between refreshes all have notified. -/
  idle : app.screen.refreshing = false →
    ∀ i < app.screen.count, (app.screen.refresh i).notifyPending = false
  lookedUp : ∀ i < app.screen.count, ∀ query,
    ((app.screen.refresh i).block query).isTaskFinished → (app.snapshot i query).isSome
  userInfos : ∀ i, i + 1 = app.screen.count →
    app.screen.userInfos = readUserInfos (app.seen i .userRef) fun _ => none
  dataArray : ∀ i, i + 1 = app.screen.count →
    readDocuments app.screen.userInfos (app.seen i .docRef) [] = .ok app.screen.dataArray
  /-- A trap is that of a row, or stops the `docRef` callback of the latest refresh. -/
  trapped : ∀ trap, app.screen.trap = some trap →
    trap = .assertion "index is out of range uid array" ∨
      ∀ i, i + 1 = app.screen.count →
        ((app.screen.refresh i).block .docRef).isTaskFinished = false

/-- The control begins a refresh only when the last one has ended. -/
def StartsSerially (app : OnlineApp ι) (e : OnlineAppEvent ι) : Prop :=
  e.isUpdateList = true → app.screen.refreshing = false

instance (app : OnlineApp ι) (e : OnlineAppEvent ι) : Decidable (StartsSerially app e) :=
  inferInstanceAs (Decidable (_ → _))

lemma serialInvariant_launch (world : World ι) : SerialInvariant (launch world) where
  refreshes := fun _ hi => absurd hi (Nat.not_lt_zero _)
  earlier := fun _ hi => absurd hi (Nat.not_lt_zero _)
  idle := fun _ _ hi => absurd hi (Nat.not_lt_zero _)
  lookedUp := fun _ hi => absurd hi (Nat.not_lt_zero _)
  userInfos := fun _ hi => absurd hi (Nat.succ_ne_zero _)
  dataArray := fun _ hi => absurd hi (Nat.succ_ne_zero _)
  trapped := by
    intro trap htrap
    cases htrap

/-- A refresh that has not notified is the latest. -/
lemma SerialInvariant.latest_of_pending (h : SerialInvariant app) (hi : i < app.screen.count)
    (hpending : (app.screen.refresh i).notifyPending = true) : i + 1 = app.screen.count := by
  by_contra hne
  rw [h.earlier i (by omega)] at hpending
  cases hpending

lemma SerialInvariant.latest (h : SerialInvariant app) (hi : i < app.screen.count)
    (hphase : ((app.screen.refresh i).block query).phase = .waiting) :
    i + 1 = app.screen.count := by
  have hne : ((app.screen.refresh i).block query).phase ≠ .finished := by simp [hphase]
  exact h.latest_of_pending hi ((h.refreshes i hi).pending_of_ne_finished hne)

/-! ## Events that read nothing -/

/-- Two refreshes with the same flags. -/
def SameFlags (refresh refresh' : Refresh) : Prop :=
  (∀ query, (refresh'.block query).isTaskFinished = (refresh.block query).isTaskFinished) ∧
    refresh'.notifyPending = refresh.notifyPending

lemma sameFlags_refl (refresh : Refresh) : SameFlags refresh refresh := ⟨fun _ => rfl, rfl⟩

lemma sameFlags_setBlock {refresh : Refresh} {block : Block}
    (hflag : block.isTaskFinished = (refresh.block query).isTaskFinished) :
    SameFlags refresh (refresh.setBlock query block) := by
  refine ⟨fun query' => ?_, rfl⟩
  by_cases hquery : query' = query
  · subst hquery
    simp [hflag]
  · simp [hquery]

/-- The worker's own steps and a callback that fails leave the flags alone. -/
lemma sameFlags_of_refreshStep {vc vc' : DocumentOnlineListVC} {re : RefreshEvent}
    (hre : re = .getDocuments query ∨ re = .leave query ∨ re = .callback query false)
    (h : vc.refreshStep i re = some vc') (j : ℕ) : SameFlags (vc.refresh j) (vc'.refresh j) := by
  obtain ⟨-, refresh, hrefresh, rfl⟩ := DocumentOnlineListVC.refreshStep_eq_some.mp h
  have hsame : SameFlags (vc.refresh i) refresh := by
    rcases hre with rfl | rfl | rfl
    · cases Refresh.outcome_of_step hrefresh
      exact sameFlags_setBlock rfl
    · cases Refresh.outcome_of_step hrefresh
      exact sameFlags_setBlock rfl
    · cases Refresh.outcome_of_step hrefresh
      exact sameFlags_setBlock (Bool.or_false _)
  by_cases hj : j = i
  · subst hj
    simpa using hsame
  · simp [hj, SameFlags]

/-- An event that leaves the flags and what has been read alone keeps the invariant. -/
lemma SerialInvariant.of_sameFlags (h : SerialInvariant app)
    (hrefreshes : RefreshesInvariant app'.screen)
    (hcount : app'.screen.count = app.screen.count)
    (hsame : ∀ j, SameFlags (app.screen.refresh j) (app'.screen.refresh j))
    (hsnapshot : ∀ j query, (((app.screen.refresh j).block query).isTaskFinished →
      app'.snapshot j query = app.snapshot j query) ∧
        ((app.snapshot j query).isSome → (app'.snapshot j query).isSome))
    (hrefreshing : app'.screen.refreshing = app.screen.refreshing)
    (huserInfos : app'.screen.userInfos = app.screen.userInfos)
    (hdataArray : app'.screen.dataArray = app.screen.dataArray)
    (htrap : app'.screen.trap = app.screen.trap) : SerialInvariant app' := by
  have hseen : ∀ i, i + 1 = app.screen.count → ∀ query, app'.seen i query = app.seen i query := by
    intro i hi query
    rw [seen, seen, (hsame i).1 query]
    split
    · rename_i hflag
      rw [(hsnapshot i query).1 hflag]
    · rfl
  refine ⟨hrefreshes, ?_, ?_, ?_, ?_, ?_, ?_⟩
  · intro i hi
    rw [(hsame i).2]
    exact h.earlier i (hcount ▸ hi)
  · intro hidle i hi
    rw [(hsame i).2]
    exact h.idle (hrefreshing ▸ hidle) i (hcount ▸ hi)
  · intro i hi query hflag
    rw [(hsame i).1 query] at hflag
    exact (hsnapshot i query).2 (h.lookedUp i (hcount ▸ hi) query hflag)
  · intro i hi
    rw [hcount] at hi
    rw [huserInfos, hseen i hi]
    exact h.userInfos i hi
  · intro i hi
    rw [hcount] at hi
    rw [huserInfos, hdataArray, hseen i hi]
    exact h.dataArray i hi
  · intro trap htrapped
    rcases h.trapped trap (htrap ▸ htrapped) with hrow | hstopped
    · exact Or.inl hrow
    · refine Or.inr fun i hi => ?_
      rw [(hsame i).1 .docRef]
      exact hstopped i (hcount ▸ hi)

/-! ## Events that read something -/

/-- The effect of a callback on its own refresh. -/
lemma callback_refreshStep {vc next : DocumentOnlineListVC} {succeeds : Bool}
    (h : vc.refreshStep i (.callback query succeeds) = some next) :
    i < vc.count ∧ ((vc.refresh i).block query).phase = .waiting ∧
      ((vc.refresh i).block query).replied = false ∧
      next = { vc with refresh := Function.update vc.refresh i ((vc.refresh i).setBlock query
        ⟨((vc.refresh i).block query).phase, true,
          ((vc.refresh i).block query).isTaskFinished || succeeds⟩) } := by
  obtain ⟨hi, refresh, hrefresh, rfl⟩ := DocumentOnlineListVC.refreshStep_eq_some.mp h
  cases Refresh.outcome_of_step hrefresh with
  | callback _ _ hphase hreplied => exact ⟨hi, hphase, hreplied, rfl⟩

lemma SerialInvariant.isTaskFinished_eq_false (h : SerialInvariant app)
    (hi : i < app.screen.count)
    (hreplied : ((app.screen.refresh i).block query).replied = false) :
    ((app.screen.refresh i).block query).isTaskFinished = false := by
  by_contra hset
  have hcalled := ((h.refreshes i hi).block query).replied (by simpa using hset)
  rw [hreplied] at hcalled
  cases hcalled

/-- A query that has not called back has brought nothing. -/
lemma SerialInvariant.seen_eq_nil (h : SerialInvariant app) (hi : i < app.screen.count)
    (hreplied : ((app.screen.refresh i).block query).replied = false) :
    app.seen i query = [] :=
  if_neg (by simp [h.isTaskFinished_eq_false hi hreplied])

/-- While the first query waits the second has not called back. -/
lemma SerialInvariant.docRef_not_replied (h : SerialInvariant app) (hi : i < app.screen.count)
    (hphase : ((app.screen.refresh i).block .userRef).phase = .waiting) :
    ((app.screen.refresh i).block .docRef).replied = false := by
  have hqueued : ((app.screen.refresh i).block .docRef).phase = .queued := by
    by_contra hne
    have hserial := (h.refreshes i hi).serial hne
    rw [hphase] at hserial
    cases hserial
  by_contra hcalled
  exact ((h.refreshes i hi).block .docRef).asked (by simpa using hcalled) hqueued

/-- The documents of a refresh that has not read any are none. -/
lemma SerialInvariant.dataArray_eq_nil (h : SerialInvariant app) (hi : i + 1 = app.screen.count)
    (hreplied : ((app.screen.refresh i).block .docRef).replied = false) :
    app.screen.dataArray = [] := by
  have harray := h.dataArray i hi
  rw [h.seen_eq_nil (by omega) hreplied] at harray
  exact (Except.ok.inj harray).symm

lemma notifyPending_callback {screen : DocumentOnlineListVC} {block : Block}
    (hscreen : screen.refresh = Function.update app.screen.refresh i
      ((app.screen.refresh i).setBlock query block)) (j : ℕ) :
    (screen.refresh j).notifyPending = (app.screen.refresh j).notifyPending := by
  rw [hscreen]
  by_cases hj : j = i
  · subst hj
    simp [Refresh.setBlock]
  · simp [hj]

/-- What the queries have brought after a callback of the refresh `i`. -/
lemma seen_callback {screen : DocumentOnlineListVC} {succeeds : Bool}
    (hflag : ((app.screen.refresh i).block query).isTaskFinished = false)
    (hscreen : screen.refresh = Function.update app.screen.refresh i
      ((app.screen.refresh i).setBlock query ⟨((app.screen.refresh i).block query).phase, true,
        ((app.screen.refresh i).block query).isTaskFinished || succeeds⟩)) :
    ({ app with screen := screen }.seen i query =
        if succeeds then (app.snapshot i query).getD [] else []) ∧
      ∀ query' ≠ query, { app with screen := screen }.seen i query' = app.seen i query' := by
  constructor
  · simp [seen, hscreen, hflag]
  · intro query' hne
    simp [seen, hscreen, hne]

/-- A callback of the latest refresh adds what it has read to the screen. -/
lemma SerialInvariant.callback (h : SerialInvariant app) {reply : Reply}
    {next screen : DocumentOnlineListVC}
    (hreply : ∀ documents, reply = .snapshot documents → app.snapshot i query = some documents)
    (hnext : app.screen.refreshStep i (.callback query reply.isSnapshot) = some next)
    (hdone : next.callback query reply = .ok screen)
    (hstep : app.screen.step (.callback i query reply) = some screen) :
    SerialInvariant { app with screen := screen } := by
  obtain ⟨hi, hphase, hreplied, rfl⟩ := callback_refreshStep hnext
  have hlatest := h.latest hi hphase
  have hrefreshes := h.refreshes.step hstep
  have htrap := DocumentOnlineListVC.trap_of_step hstep
  have hflag := h.isTaskFinished_eq_false hi hreplied
  obtain ⟨hcount, hrefresh, -, htrap', hrefreshing⟩ :=
    DocumentOnlineListVC.callback_frame hdone
  have hsame := notifyPending_callback hrefresh
  obtain ⟨hseen, hseen'⟩ := seen_callback hflag hrefresh
  have hnil := h.seen_eq_nil hi hreplied
  have hbrought : ∀ documents, reply = .snapshot documents →
      { app with screen := screen }.seen i query = documents := by
    rintro documents rfl
    simp [hseen, hreply documents rfl, Reply.isSnapshot]
  have hkeep : reply = .error → ∀ query',
      { app with screen := screen }.seen i query' = app.seen i query' := by
    rintro rfl query'
    by_cases hquery : query' = query
    · subst hquery
      rw [hseen, hnil]
      rfl
    · exact hseen' query' hquery
  refine ⟨hrefreshes, ?_, ?_, ?_, ?_, ?_, ?_⟩
  · intro j hj
    rw [hsame]
    exact h.earlier j (hcount ▸ hj)
  · intro hidle j hj
    rw [hsame]
    exact h.idle (hrefreshing ▸ hidle) j (hcount ▸ hj)
  · intro j hj query' hset
    by_cases hown : j = i ∧ query' = query
    · obtain ⟨rfl, rfl⟩ := hown
      cases reply with
      | error => simp [hrefresh, hflag, Reply.isSnapshot] at hset
      | snapshot documents => simp [hreply documents rfl]
    · refine h.lookedUp j (hcount ▸ hj) query' ?_
      by_cases hj' : j = i
      · subst hj'
        have hne : query' ≠ query := fun heq => hown ⟨rfl, heq⟩
        simpa [hrefresh, hne] using hset
      · simpa [hrefresh, hj'] using hset
  · intro j hj
    obtain rfl : j = i := by
      have hj' : j + 1 = app.screen.count := hcount ▸ hj
      omega
    have hold := h.userInfos j hlatest
    rcases DocumentOnlineListVC.callback_cases hdone with ⟨rfl, rfl⟩ |
      ⟨documents, rfl, rfl, rfl⟩ | ⟨documents, dataArray, rfl, rfl, -, rfl⟩
    · rw [hkeep rfl .userRef]
      exact hold
    · rw [hbrought documents rfl]
      have hempty : app.screen.userInfos = fun _ => none := by
        rw [hold, hnil]
        rfl
      exact congrArg (readUserInfos documents) hempty
    · rw [hseen' .userRef (by simp)]
      exact hold
  · intro j hj
    obtain rfl : j = i := by
      have hj' : j + 1 = app.screen.count := hcount ▸ hj
      omega
    have hold := h.dataArray j hlatest
    rcases DocumentOnlineListVC.callback_cases hdone with ⟨rfl, rfl⟩ |
      ⟨documents, rfl, rfl, rfl⟩ | ⟨documents, dataArray, rfl, rfl, hdocs, rfl⟩
    · rw [hkeep rfl .docRef]
      exact hold
    · rw [hseen' .docRef (by simp)]
      rw [h.seen_eq_nil hi (h.docRef_not_replied hi hphase)] at hold ⊢
      exact hold
    · rw [hbrought documents rfl]
      have hdocs' : readDocuments app.screen.userInfos documents app.screen.dataArray =
          .ok dataArray := hdocs
      rw [h.dataArray_eq_nil hlatest hreplied] at hdocs'
      exact hdocs'
  · intro trap htrapped
    rw [htrap'] at htrapped
    exact absurd (htrapped.symm.trans htrap) (by simp)

/-- A refresh that begins between refreshes finds the screen with nothing under way and leaves it
empty. -/
lemma SerialInvariant.updateList (h : SerialInvariant app)
    (hidle : app.screen.refreshing = false) (htrap : app.screen.trap = none) :
    SerialInvariant { app with screen := app.screen.updateList } := by
  have hrefresh : ∀ j < app.screen.count,
      app.screen.updateList.refresh j = app.screen.refresh j := by
    intro j hj
    simp [DocumentOnlineListVC.updateList, Nat.ne_of_lt hj]
  have hnew : app.screen.updateList.refresh app.screen.count = .start := by
    simp [DocumentOnlineListVC.updateList]
  have hstep : app.screen.step .updateList = some app.screen.updateList := by
    simp [DocumentOnlineListVC.step, htrap]
  refine ⟨h.refreshes.step hstep, ?_, ?_, ?_, ?_, ?_, ?_⟩
  · intro j hj
    have hj' : j < app.screen.count := Nat.lt_of_succ_lt_succ hj
    rw [hrefresh j hj']
    exact h.idle hidle j hj'
  · intro hrefreshing
    cases hrefreshing
  · intro j hj query hflag
    rcases Nat.lt_succ_iff_lt_or_eq.mp hj with hj' | rfl
    · exact h.lookedUp j hj' query (by simpa [hrefresh j hj'] using hflag)
    · simp [hnew, Refresh.start] at hflag
  · intro j hj
    obtain rfl : j = app.screen.count := Nat.succ.inj hj
    have hseen : { app with screen := app.screen.updateList }.seen app.screen.count .userRef = [] :=
      if_neg (by simp [hnew, Refresh.start])
    rw [hseen]
    rfl
  · intro j hj
    obtain rfl : j = app.screen.count := Nat.succ.inj hj
    have hseen : { app with screen := app.screen.updateList }.seen app.screen.count .docRef = [] :=
      if_neg (by simp [hnew, Refresh.start])
    rw [hseen]
    rfl
  · intro trap htrapped
    exact absurd (htrapped.symm.trans htrap) (by simp)

/-- The notification of the latest refresh ends it. -/
lemma SerialInvariant.notify (h : SerialInvariant app) {next : DocumentOnlineListVC}
    (hnext : app.screen.refreshStep i .notify = some next) (htrap : app.screen.trap = none) :
    SerialInvariant { app with
      screen := { next with rows := app.screen.numberOfRows, refreshing := false } } := by
  have hstep : app.screen.step (.notify i) =
      some { next with rows := app.screen.numberOfRows, refreshing := false } := by
    simp [DocumentOnlineListVC.step, htrap, hnext]
  have hrefreshes := h.refreshes.step hstep
  obtain ⟨hi, refresh, hrefresh, rfl⟩ := DocumentOnlineListVC.refreshStep_eq_some.mp hnext
  cases Refresh.outcome_of_step hrefresh with
  | notify hgroup hpending =>
      have hlatest := h.latest_of_pending hi hpending
      have hnotified : ∀ j < app.screen.count, (Function.update app.screen.refresh i
          { app.screen.refresh i with
            notifyPending := false, notifyRuns := (app.screen.refresh i).notifyRuns + 1 }
              j).notifyPending = false := by
        intro j hj
        by_cases hj' : j = i
        · subst hj'
          simp
        · simpa [hj'] using h.earlier j (by omega)
      have hblock : ∀ j, (Function.update app.screen.refresh i
          { app.screen.refresh i with
            notifyPending := false, notifyRuns := (app.screen.refresh i).notifyRuns + 1 }
              j).block = (app.screen.refresh j).block := by
        intro j
        by_cases hj' : j = i
        · subst hj'
          simp
        · simp [hj']
      refine ⟨hrefreshes, fun j hj => hnotified j (Nat.lt_of_succ_lt hj),
        fun _ j hj => hnotified j hj, ?_, ?_, ?_, ?_⟩
      · intro j hj query hflag
        exact h.lookedUp j hj query (by simpa [hblock] using hflag)
      · intro j hj
        simpa [seen, hblock] using h.userInfos j hj
      · intro j hj
        simpa [seen, hblock] using h.dataArray j hj
      · intro trap htrapped
        exact absurd (htrapped.symm.trans htrap) (by simp)

/-- An event that does nothing but trap. -/
lemma SerialInvariant.setTrap (h : SerialInvariant app) {trap : Trap}
    (hrefreshes : RefreshesInvariant { app.screen with trap := some trap })
    (htrap : trap = .assertion "index is out of range uid array" ∨
      ∀ i, i + 1 = app.screen.count →
        ((app.screen.refresh i).block .docRef).isTaskFinished = false) :
    SerialInvariant { app with screen := { app.screen with trap := some trap } } where
  refreshes := hrefreshes
  earlier := h.earlier
  idle := h.idle
  lookedUp := h.lookedUp
  userInfos := h.userInfos
  dataArray := h.dataArray
  trapped := by
    intro trap' htrapped
    obtain rfl : trap = trap' := Option.some.inj htrapped
    exact htrap

/-- **The step lemma.**  A run whose refreshes begin one after another keeps the invariant. -/
theorem SerialInvariant.step [DecidableEq ι] {e : OnlineAppEvent ι} (h : SerialInvariant app)
    (hserial : StartsSerially app e) (hstep : OnlineApp.step app e = some app') :
    SerialInvariant app' := by
  cases outcome_of_step hstep with
  | world e world =>
      exact h.of_sameFlags h.refreshes rfl (fun _ => sameFlags_refl _)
        (fun _ _ => ⟨fun _ => rfl, id⟩) rfl rfl rfl rfl
  | snapshot i query documents hi hphase hreplied hnone hview =>
      refine h.of_sameFlags h.refreshes rfl (fun _ => sameFlags_refl _) ?_ rfl rfl rfl rfl
      intro j query'
      refine ⟨fun hflag => ?_, fun hsome => ?_⟩
      · have hother : ¬ (j = i ∧ query' = query) := by
          rintro ⟨rfl, rfl⟩
          rw [h.isTaskFinished_eq_false hi hreplied] at hflag
          cases hflag
        rw [lookUp_snapshot, if_neg hother]
      · obtain ⟨documents', hdocuments'⟩ := Option.isSome_iff_exists.mp hsome
        rw [snapshot_of_step hstep hdocuments']
        rfl
  | screen e e' screen he hscreen =>
      have htrap := DocumentOnlineListVC.trap_of_step hscreen
      have hrefreshes := h.refreshes.step hscreen
      cases DocumentOnlineListVC.outcome_of_step hscreen with
      | updateList =>
          refine h.updateList (hserial ?_) htrap
          rw [eq_screen_of_screenEvent? he rfl]
          rfl
      | getDocuments i query next hnext =>
          have hsame := sameFlags_of_refreshStep (Or.inl rfl) hnext
          obtain ⟨-, refresh, -, rfl⟩ := DocumentOnlineListVC.refreshStep_eq_some.mp hnext
          exact h.of_sameFlags hrefreshes rfl hsame (fun _ _ => ⟨fun _ => rfl, id⟩)
            rfl rfl rfl rfl
      | callback i query reply next done hnext hdone =>
          refine h.callback ?_ hnext hdone hscreen
          rintro documents rfl
          exact (snapshot_of_screenEvent? he).2
      | callbackTrap i query reply next trap hnext hcallback =>
          obtain ⟨documents, rfl, -, -⟩ := DocumentOnlineListVC.callback_error_cases hcallback
          have hsame := sameFlags_of_refreshStep (Or.inr (Or.inr rfl)) hnext
          obtain ⟨hi, hphase, hreplied, rfl⟩ := callback_refreshStep hnext
          have hlatest := h.latest hi hphase
          have hnow : SerialInvariant { app with screen := { app.screen with refresh := _ } } :=
            h.of_sameFlags hrefreshes rfl hsame (fun _ _ => ⟨fun _ => rfl, id⟩) rfl rfl rfl rfl
          refine hnow.setTrap hrefreshes (Or.inr fun j hj => ?_)
          have hj' : j + 1 = app.screen.count := hj
          obtain rfl : j = i := by omega
          exact ((hsame j).1 .docRef).trans (h.isTaskFinished_eq_false hi hreplied)
      | leave i query next hnext =>
          have hsame := sameFlags_of_refreshStep (Or.inr (Or.inl rfl)) hnext
          obtain ⟨-, refresh, -, rfl⟩ := DocumentOnlineListVC.refreshStep_eq_some.mp hnext
          exact h.of_sameFlags hrefreshes rfl hsame (fun _ _ => ⟨fun _ => rfl, id⟩)
            rfl rfl rfl rfl
      | notify i next hnext => exact h.notify hnext htrap
      | cell row data =>
          exact h.of_sameFlags hrefreshes rfl (fun _ => sameFlags_refl _)
            (fun _ _ => ⟨fun _ => rfl, id⟩) rfl rfl rfl rfl
      | select row data =>
          exact h.of_sameFlags hrefreshes rfl (fun _ => sameFlags_refl _)
            (fun _ _ => ⟨fun _ => rfl, id⟩) rfl rfl rfl rfl
      | rowTrap row e' hrow hdata => exact h.setTrap hrefreshes (Or.inl rfl)

theorem serialInvariant_of_run [DecidableEq ι] {world : World ι} {tr : List (OnlineAppEvent ι)}
    (hserial : ∀ app' e, Takes OnlineApp.step (launch world) tr app' e → StartsSerially app' e)
    (hrun : run OnlineApp.step (launch world) tr = some app) : SerialInvariant app :=
  takes_invariant (serialInvariant_launch world) (fun _ _ _ h hstart hstep => h.step hstart hstep)
    hrun hserial

/-- The invariant holds wherever a run of serial refreshes takes a step. -/
lemma serialInvariant_of_takes [DecidableEq ι] {world : World ι} {tr : List (OnlineAppEvent ι)}
    {e : OnlineAppEvent ι}
    (hserial : ∀ app' e, Takes OnlineApp.step (launch world) tr app' e → StartsSerially app' e)
    (ht : Takes OnlineApp.step (launch world) tr app e) : SerialInvariant app := by
  obtain ⟨done, rest, rfl, hdone⟩ := takes_iff.mp ht
  exact serialInvariant_of_run (fun app' e' ht' => hserial app' e' (ht'.append hdone _)) hdone

/-! ## What a documents callback finds -/

/-- The documents are asked for only when the records have been read. -/
lemma SerialInvariant.userRef_of_docRef (h : SerialInvariant app) (hi : i < app.screen.count)
    (hphase : ((app.screen.refresh i).block .docRef).phase ≠ .queued) :
    ((app.screen.refresh i).block .userRef).isTaskFinished = true ∧
      ∃ userDocs, app.snapshot i .userRef = some userDocs := by
  have hfinished := (h.refreshes i hi).serial hphase
  have hflag := ((h.refreshes i hi).block .userRef).flag hfinished
  exact ⟨hflag, Option.isSome_iff_exists.mp (h.lookedUp i hi .userRef hflag)⟩

/-- A callback delivers the snapshot of its query to a refresh that waits for it, and succeeds if
it comes to its end. -/
lemma refreshStep_of_callback [DecidableEq ι]
    (hstep : OnlineApp.step app (.callback i query true) = some app') :
    (∃ documents, app.snapshot i query = some documents) ∧
      ∃ succeeds next, app.screen.refreshStep i (.callback query succeeds) = some next := by
  obtain ⟨screen, hbind, -⟩ := Option.map_eq_some_iff.mp hstep
  obtain ⟨e', he, hscreen⟩ := Option.bind_eq_some_iff.mp hbind
  obtain ⟨documents, hdocuments, rfl⟩ := Option.map_eq_some_iff.mp he
  refine ⟨⟨documents, hdocuments⟩, ?_⟩
  cases DocumentOnlineListVC.outcome_of_step hscreen with
  | callback _ _ _ next done hnext hdone => exact ⟨_, next, hnext⟩
  | callbackTrap _ _ _ next trap hnext htrap => exact ⟨_, next, hnext⟩
  | rowTrap row _ he => rcases he with he | he <;> cases he

/-- The dictionary a documents callback finds is that of the first snapshot. -/
lemma SerialInvariant.userInfos_of_callback [DecidableEq ι] (h : SerialInvariant app)
    (hstep : OnlineApp.step app (.callback i .docRef true) = some app') :
    ∃ userDocs documents, app.snapshot i .userRef = some userDocs ∧
      app.snapshot i .docRef = some documents ∧
        app.screen.userInfos = readUserInfos userDocs fun _ => none := by
  obtain ⟨⟨documents, hdocuments⟩, _, next, hnext⟩ := refreshStep_of_callback hstep
  obtain ⟨hi, hphase, -, -⟩ := callback_refreshStep hnext
  have hlatest := h.latest hi hphase
  obtain ⟨hflag, userDocs, huser⟩ := h.userRef_of_docRef hi (by simp [hphase])
  have hseen : app.seen i .userRef = userDocs := by
    rw [seen, if_pos hflag, huser]
    rfl
  exact ⟨userDocs, documents, huser, hdocuments, by rw [h.userInfos i hlatest, hseen]⟩

end Procon
