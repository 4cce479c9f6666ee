import Procon.Properties.SerialRefresh
import Procon.Properties.UploadedDocuments

/-!
# The rows of a list that only grows

A refresh empties the array under a table that still has the rows of its last reload, so until
the documents have been read again a row may be out of range.  Once they have been read it may
not: documents are never deleted, so the second snapshot of a refresh has at least as many as the
table has rows.  `RowsInvariant` carries this comparison along a run of serial refreshes on a
server whose documents are all uploads.
-/

namespace Procon

open NestedMap LabelledRun OnlineApp

/-! ## What an event does to the table -/

section Screen

open DocumentOnlineListVC

variable {vc vc' : DocumentOnlineListVC} {e : OnlineListEvent} {i : ℕ}

lemma count_le_of_step (h : step vc e = some vc') : vc.count ≤ vc'.count := by
  rcases refresh_of_step h with ⟨-, rfl⟩ | ⟨hcount, -⟩ | ⟨j, re, refresh, -, -, hcount, -⟩
  · exact Nat.le_succ _
  · exact Nat.le_of_eq hcount.symm
  · exact Nat.le_of_eq hcount.symm

/-- A refresh that has notified is not pending again. -/
lemma notifyPending_of_step (h : step vc e = some vc') (hi : i < vc.count)
    (hpending : (vc'.refresh i).notifyPending = true) :
    (vc.refresh i).notifyPending = true := by
  rcases refresh_of_step h with ⟨-, rfl⟩ | ⟨-, hsame, -⟩ |
    ⟨j, re, refresh, -, hrefresh, -, -, hsame⟩
  · simpa [updateList, Nat.ne_of_lt hi] using hpending
  · rwa [hsame] at hpending
  · rw [hsame] at hpending
    by_cases hij : i = j
    · subst hij
      rw [Function.update_self] at hpending
      cases Refresh.outcome_of_step hrefresh with
      | getDocuments => exact hpending
      | callback => exact hpending
      | leave => exact hpending
      | notify => cases hpending
    · simpa [hij] using hpending

/-- Only a notification changes the rows of the table. -/
lemma rows_of_step (h : step vc e = some vc') :
    vc'.rows = vc.rows ∨ ∃ i < vc.count, vc'.rows = vc.dataArray.length ∧
      (vc.refresh i).notifyPending = true ∧ (vc'.refresh i).notifyPending = false := by
  cases outcome_of_step h with
  | updateList => exact Or.inl rfl
  | getDocuments i query next hnext =>
      obtain ⟨-, refresh, -, rfl⟩ := refreshStep_eq_some.mp hnext
      exact Or.inl rfl
  | callback i query reply next done hnext hdone =>
      obtain ⟨-, refresh, -, rfl⟩ := refreshStep_eq_some.mp hnext
      exact Or.inl (callback_frame hdone).2.2.1
  | callbackTrap i query reply next trap hnext hcallback =>
      obtain ⟨-, refresh, -, rfl⟩ := refreshStep_eq_some.mp hnext
      exact Or.inl rfl
  | leave i query next hnext =>
      obtain ⟨-, refresh, -, rfl⟩ := refreshStep_eq_some.mp hnext
      exact Or.inl rfl
  | notify i next hnext =>
      obtain ⟨hi, refresh, hrefresh, rfl⟩ := refreshStep_eq_some.mp hnext
      cases Refresh.outcome_of_step hrefresh with
      | notify hgroup hpending => exact Or.inr ⟨i, hi, rfl, hpending, by simp⟩
  | cell => exact Or.inl rfl
  | select => exact Or.inl rfl
  | rowTrap => exact Or.inl rfl

end Screen

/-! ## The comparison along a run -/

variable {ι : Type*} {app app' : OnlineApp ι} {i : ℕ}

structure RowsInvariant (app : OnlineApp ι) : Prop where
  /-- Only queries that have been sent are looked up. -/
  known : ∀ i query documents, app.snapshot i query = some documents → i < app.screen.count
  stored : ∀ uid field val, get app.world.server.documents uid field = some val → Archived val
  archived : ∀ i documents, app.snapshot i .docRef = some documents →
    ∀ cell ∈ cells documents, Archived cell.2.2
  kept : ∀ i documents, app.snapshot i .docRef = some documents →
    (cells documents).length ≤ (fields app.world.server.documents).length
  rows : app.screen.rows ≤ (fields app.world.server.documents).length
  /-- A refresh that has not notified yet finds at least the documents of the table. -/
  pending : ∀ i documents, app.snapshot i .docRef = some documents →
    (app.screen.refresh i).notifyPending = true → app.screen.rows ≤ (cells documents).length
  /-- A row is out of range only until the documents have been read. -/
  trapped : app.screen.trap = some (.assertion "index is out of range uid array") →
    ∀ i, i + 1 = app.screen.count → (app.screen.refresh i).notifyPending = true →
      ((app.screen.refresh i).block .docRef).isTaskFinished = false

lemma rowsInvariant_launch {world : World ι} (hempty : world.server.documents = ∅) :
    RowsInvariant (launch world) where
  known := fun _ _ _ h => by cases h
  stored := by
    intro uid field val h
    have hnone : get (launch world).world.server.documents uid field = none :=
      congrArg (fun m : Collection => get m uid field) hempty
    rw [hnone] at h
    cases h
  archived := fun _ _ h => by cases h
  kept := fun _ _ h => by cases h
  rows := Nat.zero_le _
  pending := fun _ _ h => by cases h
  trapped := fun h => by cases h

/-- The array of the latest refresh has an entry for every document that has been read. -/
lemma SerialInvariant.length_dataArray (h : SerialInvariant app) (hrows : RowsInvariant app)
    (hi : i + 1 = app.screen.count) :
    app.screen.dataArray.length = (cells (app.seen i .docRef)).length := by
  refine length_of_readDocuments ?_ (h.dataArray i hi)
  intro cell hcell
  rw [seen] at hcell
  split at hcell
  · rename_i hflag
    obtain ⟨documents, hdocuments⟩ :=
      Option.isSome_iff_exists.mp (h.lookedUp i (by omega) .docRef hflag)
    rw [hdocuments] at hcell
    exact hrows.archived i documents hdocuments cell hcell
  · cases hcell

/-- What the screen shows is on the server. -/
lemma SerialInvariant.length_dataArray_le (h : SerialInvariant app) (hrows : RowsInvariant app)
    (hi : i + 1 = app.screen.count) :
    app.screen.dataArray.length ≤ (fields app.world.server.documents).length := by
  rw [h.length_dataArray hrows hi, seen]
  split
  · rename_i hflag
    obtain ⟨documents, hdocuments⟩ :=
      Option.isSome_iff_exists.mp (h.lookedUp i (by omega) .docRef hflag)
    rw [hdocuments]
    exact hrows.kept i documents hdocuments
  · exact Nat.zero_le _

/-- An event of the list. -/
lemma RowsInvariant.screen (hrows : RowsInvariant app) (h : SerialInvariant app)
    {e : OnlineListEvent} {screen : DocumentOnlineListVC}
    (hstep : app.screen.step e = some screen) :
    RowsInvariant { app with screen := screen } := by
  have hcount := count_le_of_step hstep
  refine ⟨?_, hrows.stored, hrows.archived, hrows.kept, ?_, ?_, ?_⟩
  · intro i query documents hsnapshot
    exact Nat.lt_of_lt_of_le (hrows.known i query documents hsnapshot) hcount
  · rcases rows_of_step hstep with hsame | ⟨i, hi, hreload, hpending, -⟩
    · exact hsame ▸ hrows.rows
    · rw [hreload]
      exact h.length_dataArray_le hrows (h.latest_of_pending hi hpending)
  · intro i documents hsnapshot hpending'
    have hi := hrows.known i .docRef documents hsnapshot
    have hpending := notifyPending_of_step hstep hi hpending'
    rcases rows_of_step hstep with hsame | ⟨j, hj, -, hnotifies, hnotified⟩
    · exact hsame ▸ hrows.pending i documents hsnapshot hpending
    · -- the refresh that notifies is the latest, and so is `i`
      have hlatest := h.latest_of_pending hi hpending
      have hlatest' := h.latest_of_pending hj hnotifies
      obtain rfl : i = j := by omega
      rw [hnotified] at hpending'
      cases hpending'
  · intro htrapped i hi hpending
    rcases DocumentOnlineListVC.trapped_of_step hstep htrapped with
      ⟨j, documents, next, -, -, -, hdocs⟩ | ⟨rfl, -, hrange⟩
    · exact absurd hdocs readDocuments_ne_assertion
    have hlatest : i + 1 = app.screen.count := hi
    by_contra hflag
    have hflag' : ((app.screen.refresh i).block .docRef).isTaskFinished = true := by
      simpa using hflag
    obtain ⟨documents, hdocuments⟩ :=
      Option.isSome_iff_exists.mp (h.lookedUp i (by omega) .docRef hflag')
    have hlength := h.length_dataArray hrows hlatest
    rw [seen, if_pos hflag', hdocuments, Option.getD_some] at hlength
    have hbound := hrows.pending i documents hdocuments hpending
    omega

/-- A snapshot of the documents has all that the server has. -/
lemma RowsInvariant.lookUp (hrows : RowsInvariant app) {query : Query}
    {documents : List QueryDocumentSnapshot} (hi : i < app.screen.count)
    (hview : Enumerates documents (app.world.server.collection query)) :
    RowsInvariant (app.lookUp i query documents) := by
  have hcases : ∀ j documents', (app.lookUp i query documents).snapshot j .docRef =
      some documents' → Enumerates documents' app.world.server.documents ∨
        app.snapshot j .docRef = some documents' := by
    intro j documents' hsnapshot
    rw [lookUp_snapshot] at hsnapshot
    split at hsnapshot
    · rename_i hown
      obtain ⟨-, rfl⟩ := hown
      obtain rfl := Option.some.inj hsnapshot
      exact Or.inl hview
    · exact Or.inr hsnapshot
  refine ⟨?_, hrows.stored, ?_, ?_, hrows.rows, ?_, hrows.trapped⟩
  · intro j query' documents' hsnapshot
    rw [lookUp_snapshot] at hsnapshot
    split at hsnapshot
    · rename_i hown
      exact hown.1 ▸ hi
    · exact hrows.known j query' documents' hsnapshot
  · intro j documents' hsnapshot cell hcell
    rcases hcases j documents' hsnapshot with hnew | hold
    · exact hrows.stored _ _ _ ((mem_cells_iff hnew).mp hcell)
    · exact hrows.archived j documents' hold cell hcell
  · intro j documents' hsnapshot
    rcases hcases j documents' hsnapshot with hnew | hold
    · exact Nat.le_of_eq (length_cells hnew)
    · exact hrows.kept j documents' hold
  · intro j documents' hsnapshot hpending
    rcases hcases j documents' hsnapshot with hnew | hold
    · rw [length_cells hnew]
      exact hrows.rows
    · exact hrows.pending j documents' hold hpending

/-- **The step lemma.** -/
theorem RowsInvariant.step [DecidableEq ι] {e : OnlineAppEvent ι} (hrows : RowsInvariant app)
    (h : SerialInvariant app) (hstep : OnlineApp.step app e = some app') : RowsInvariant app' := by
  cases outcome_of_step hstep with
  | world e world hworld =>
      have hgrow := length_fields_of_step hstep
      refine ⟨hrows.known, archived_of_step hrows.stored hstep, hrows.archived, ?_, ?_,
        hrows.pending, hrows.trapped⟩
      · intro i documents hsnapshot
        exact Nat.le_trans (hrows.kept i documents hsnapshot) hgrow
      · exact Nat.le_trans hrows.rows hgrow
  | snapshot i query documents hi hphase hreplied hnone hview => exact hrows.lookUp hi hview
  | screen e e' screen he hscreen => exact hrows.screen h hscreen

theorem rowsInvariant_of_run [DecidableEq ι] {world : World ι} {tr : List (OnlineAppEvent ι)}
    (hempty : world.server.documents = ∅)
    (hserial : ∀ app' e, Takes OnlineApp.step (launch world) tr app' e → StartsSerially app' e)
    (hrun : run OnlineApp.step (launch world) tr = some app) : RowsInvariant app := by
  have hboth : SerialInvariant app ∧ RowsInvariant app :=
    takes_invariant (P := fun app => SerialInvariant app ∧ RowsInvariant app)
      ⟨serialInvariant_launch world, rowsInvariant_launch hempty⟩
      (fun _ _ _ h hstart hstep => ⟨h.1.step hstart hstep, h.2.step h.1 hstep⟩) hrun hserial
  exact hboth.2

/-- A refresh whose documents have been read is not stopped before it notifies. -/
lemma SerialInvariant.trap_eq_none (h : SerialInvariant app) (hrows : RowsInvariant app)
    (hi : i < app.screen.count) (hpending : (app.screen.refresh i).notifyPending = true)
    (hflag : ((app.screen.refresh i).block .docRef).isTaskFinished = true) :
    app.screen.trap = none := by
  have hlatest := h.latest_of_pending hi hpending
  by_contra htrap
  obtain ⟨trap, htrapped⟩ := Option.ne_none_iff_exists'.mp htrap
  rcases h.trapped trap htrapped with rfl | hstopped
  · rw [hrows.trapped htrapped i hlatest hpending] at hflag
    cases hflag
  · rw [hstopped i hlatest] at hflag
    cases hflag

end Procon
