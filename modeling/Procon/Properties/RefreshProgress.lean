import Procon.Framework.Run
import Procon.Properties.MalformedUploads

/-!
# The progress of a refresh

The two blocks of a refresh spin on flags that only a callback that comes to its end sets.
`RefreshInvariant` relates the phases of the blocks, their flags, the count of the dispatch group
and the notification, and every event keeps it, whatever the queries answer.  What breaks is
`FlagsSet`: every query that has called back has set its flag.  While the flags are set and the
screen has not trapped, a refresh goes on until its notification has run, as `RefreshProgress`
spells out.  `GetsStuck` are the events that end this, and `no_refresh_stuck_iff` gives the exact
condition for whole runs, any number of refreshes at once included.
-/

namespace Procon

open DocumentOnlineListVC LabelledRun

/-! ## The invariant of a refresh -/

/-- How many blocks have not ended. -/
def Refresh.unfinished (refresh : Refresh) : ℕ :=
  (if (refresh.block .userRef).phase = .finished then 0 else 1) +
    (if (refresh.block .docRef).phase = .finished then 0 else 1)

structure BlockInvariant (block : Block) : Prop where
  asked : block.replied → block.phase ≠ .queued
  replied : block.isTaskFinished → block.replied
  flag : block.phase = .finished → block.isTaskFinished

structure RefreshInvariant (refresh : Refresh) : Prop where
  block : ∀ query, BlockInvariant (refresh.block query)
  serial : (refresh.block .docRef).phase ≠ .queued → (refresh.block .userRef).phase = .finished
  group : refresh.dispatchGroup = 2 * refresh.unfinished
  runs : refresh.notifyRuns = if refresh.notifyPending then 0 else 1
  last : refresh.notifyPending = false → refresh.dispatchGroup = 0

/-- Every query that has called back has set its flag. -/
def FlagsSet (refresh : Refresh) : Prop :=
  ∀ query, (refresh.block query).replied → (refresh.block query).isTaskFinished

variable {refresh refresh' : Refresh} {query : Query}

lemma refreshInvariant_start : RefreshInvariant .start where
  block := fun query => ⟨by simp [Refresh.start], by simp [Refresh.start], by simp [Refresh.start]⟩
  serial := by simp [Refresh.start]
  group := rfl
  runs := rfl
  last := by simp [Refresh.start]

lemma flagsSet_start : FlagsSet .start := by
  intro query h
  cases h

/-- The effect of an event on a refresh. -/
inductive RefreshOutcome (refresh : Refresh) : RefreshEvent → Refresh → Prop
  | getDocuments (query : Query) (hphase : (refresh.block query).phase = .queued)
      (hturn : refresh.turn query) :
      RefreshOutcome refresh (.getDocuments query)
        (refresh.setBlock query { refresh.block query with phase := .waiting })
  | callback (query : Query) (succeeds : Bool) (hphase : (refresh.block query).phase = .waiting)
      (hreplied : (refresh.block query).replied = false) :
      RefreshOutcome refresh (.callback query succeeds)
        (refresh.setBlock query ⟨(refresh.block query).phase, true,
          (refresh.block query).isTaskFinished || succeeds⟩)
  | leave (query : Query) (hphase : (refresh.block query).phase = .waiting)
      (hflag : (refresh.block query).isTaskFinished) :
      RefreshOutcome refresh (.leave query)
        { refresh.setBlock query { refresh.block query with phase := .finished } with
          dispatchGroup := refresh.dispatchGroup - 1 - 1 }
  | notify (hgroup : refresh.dispatchGroup = 0) (hpending : refresh.notifyPending) :
      RefreshOutcome refresh .notify
        { refresh with notifyPending := false, notifyRuns := refresh.notifyRuns + 1 }

lemma Refresh.outcome_of_step {e : RefreshEvent} (h : refresh.step e = some refresh') :
    RefreshOutcome refresh e refresh' := by
  cases e with
  | getDocuments query =>
      obtain ⟨hen, heq⟩ := Option.ite_none_right_eq_some.mp h
      cases heq
      exact .getDocuments query hen.1 hen.2
  | callback query succeeds =>
      obtain ⟨hen, heq⟩ := Option.ite_none_right_eq_some.mp h
      cases heq
      exact .callback query succeeds hen.1 hen.2
  | leave query =>
      obtain ⟨hen, heq⟩ := Option.ite_none_right_eq_some.mp h
      cases heq
      exact .leave query hen.1 hen.2
  | notify =>
      obtain ⟨hen, heq⟩ := Option.ite_none_right_eq_some.mp h
      cases heq
      exact .notify hen.1 hen.2

lemma forall_block_setBlock {P : Block → Prop} {block : Block}
    (h : ∀ query', P (refresh.block query')) (hblock : P block) (query' : Query) :
    P ((refresh.setBlock query block).block query') := by
  by_cases hsame : query' = query
  · rw [hsame, Refresh.setBlock_self]
    exact hblock
  · rw [Refresh.setBlock_of_ne _ _ hsame]
    exact h query'

/-- A block that does not end leaves the blocks that have not ended as many as they are. -/
lemma unfinished_setBlock {block : Block} (hphase : (refresh.block query).phase ≠ .finished)
    (hblock : block.phase ≠ .finished) :
    (refresh.setBlock query block).unfinished = refresh.unfinished := by
  cases query <;> simp [Refresh.unfinished, hphase, hblock]

lemma unfinished_setBlock_finished (block : Block)
    (hphase : (refresh.block query).phase ≠ .finished) (hblock : block.phase = .finished) :
    (refresh.setBlock query block).unfinished + 1 = refresh.unfinished := by
  cases query
  · simp [Refresh.unfinished, hphase, hblock]
    omega
  · simp [Refresh.unfinished, hphase, hblock]

/-- The group is empty only when both blocks have ended. -/
lemma RefreshInvariant.finished_of_group (h : RefreshInvariant refresh)
    (hempty : refresh.dispatchGroup = 0) (query : Query) :
    (refresh.block query).phase = .finished := by
  by_contra hphase
  have hgroup := h.group
  have hcount := unfinished_setBlock_finished ⟨.finished, true, true⟩ hphase rfl
  omega

/-- While a block has not ended the group is not empty, so the notification has not run. -/
lemma RefreshInvariant.pending_of_ne_finished (h : RefreshInvariant refresh)
    (hphase : (refresh.block query).phase ≠ .finished) : refresh.notifyPending = true := by
  by_contra hpending
  exact hphase (h.finished_of_group (h.last (by simpa using hpending)) query)

lemma RefreshInvariant.step {e : RefreshEvent} (h : RefreshInvariant refresh)
    (hstep : refresh.step e = some refresh') : RefreshInvariant refresh' := by
  cases Refresh.outcome_of_step hstep with
  | getDocuments query hphase hturn =>
      have hb := h.block query
      have hne : (refresh.block query).phase ≠ .finished := by simp [hphase]
      have hpending := h.pending_of_ne_finished hne
      refine ⟨forall_block_setBlock h.block ⟨?_, hb.replied, ?_⟩, ?_, ?_, h.runs, ?_⟩
      · simp
      · simp
      · cases query with
        | userRef =>
            intro hdoc
            have hserial := h.serial (by simpa using hdoc)
            rw [hphase] at hserial
            cases hserial
        | docRef =>
            intro _
            simpa [Refresh.turn] using hturn
      · rw [unfinished_setBlock (by simp [hphase]) (by simp)]
        exact h.group
      · intro hlast
        exact absurd (hlast.symm.trans hpending) (by simp)
  | callback query succeeds hphase hreplied =>
      have hne : (refresh.block query).phase ≠ .finished := by simp [hphase]
      have hpending := h.pending_of_ne_finished hne
      refine ⟨forall_block_setBlock h.block ⟨?_, ?_, ?_⟩, ?_, ?_, h.runs, ?_⟩
      · simp [hphase]
      · simp
      · simp [hphase]
      · cases query with
        | userRef => simpa using h.serial
        | docRef =>
            intro _
            simpa using h.serial (by simp [hphase])
      · rw [unfinished_setBlock (by simp [hphase]) (by simp [hphase])]
        exact h.group
      · intro hlast
        exact absurd (hlast.symm.trans hpending) (by simp)
  | leave query hphase hflag =>
      have hb := h.block query
      have hne : (refresh.block query).phase ≠ .finished := by simp [hphase]
      have hpending := h.pending_of_ne_finished hne
      refine ⟨forall_block_setBlock h.block ⟨?_, hb.replied, ?_⟩, ?_, ?_, h.runs, ?_⟩
      · simp
      · intro _
        exact hflag
      · cases query with
        | userRef => simp
        | docRef =>
            intro _
            simpa using h.serial (by simp [hphase])
      · have hgroup := h.group
        have hcount := unfinished_setBlock_finished
          { refresh.block query with phase := .finished } hne rfl
        change refresh.dispatchGroup - 1 - 1 = 2 * (refresh.setBlock query _).unfinished
        omega
      · intro hlast
        exact absurd (hlast.symm.trans hpending) (by simp)
  | notify hgroup hpending =>
      refine ⟨h.block, h.serial, h.group, ?_, fun _ => hgroup⟩
      simp [h.runs, hpending]

lemma FlagsSet.setBlock (h : FlagsSet refresh) {block : Block}
    (hblock : block.replied → block.isTaskFinished) : FlagsSet (refresh.setBlock query block) :=
  forall_block_setBlock (P := fun block => block.replied → block.isTaskFinished) h hblock

/-- An event leaves all flags set exactly when it is no callback with an error. -/
lemma flagsSet_step_iff {e : RefreshEvent} (h : RefreshInvariant refresh)
    (hflags : FlagsSet refresh) (hstep : refresh.step e = some refresh') :
    FlagsSet refresh' ↔ ∀ query, e ≠ .callback query false := by
  cases Refresh.outcome_of_step hstep with
  | getDocuments query hphase hturn =>
      refine iff_of_true ?_ (by simp)
      exact hflags.setBlock (hflags query)
  | callback query succeeds hphase hreplied =>
      -- the flag was not set before, so it depends on this callback
      have hflag : (refresh.block query).isTaskFinished = false := by
        by_contra hset
        have hcalled := (h.block query).replied (by simpa using hset)
        rw [hreplied] at hcalled
        cases hcalled
      constructor
      · intro hflags' query' heq
        obtain ⟨rfl, rfl⟩ : query = query' ∧ succeeds = false := by simpa using heq
        have hset := hflags' query (by simp)
        simp [hflag] at hset
      · intro hne
        obtain rfl : succeeds = true := by
          cases succeeds with
          | true => rfl
          | false => exact absurd rfl (hne query)
        exact hflags.setBlock (by simp)
  | leave query hphase hflag =>
      refine iff_of_true ?_ (by simp)
      exact hflags.setBlock (hflags query)
  | notify => exact iff_of_true hflags (by simp)

/-! ## The refreshes of a screen -/

variable {vc vc' : DocumentOnlineListVC} {i : ℕ}

/-- The refresh an event belongs to, and what it is for that refresh.  A callback that traps does
not succeed. -/
def OnlineListEvent.refreshEvent? (vc : DocumentOnlineListVC) :
    OnlineListEvent → Option (ℕ × RefreshEvent)
  | .getDocuments i query => some (i, .getDocuments query)
  | .callback i query reply =>
      match vc.callback query reply with
      | .ok _ => some (i, .callback query reply.isSnapshot)
      | .error _ => some (i, .callback query false)
  | .leave i query => some (i, .leave query)
  | .notify i => some (i, .notify)
  | _ => none

lemma refreshEvent?_of_callback {reply : Reply} {done : DocumentOnlineListVC}
    (h : vc.callback query reply = .ok done) :
    (OnlineListEvent.callback i query reply).refreshEvent? vc =
      some (i, .callback query reply.isSnapshot) := by
  rw [OnlineListEvent.refreshEvent?, h]

lemma refreshEvent?_of_callback_error {reply : Reply} {trap : Trap}
    (h : vc.callback query reply = .error trap) :
    (OnlineListEvent.callback i query reply).refreshEvent? vc =
      some (i, .callback query false) := by
  rw [OnlineListEvent.refreshEvent?, h]

/-- What a callback does to the screen does not depend on the refreshes. -/
lemma callback_of_refreshStep {re : RefreshEvent} {reply : Reply} {next done : DocumentOnlineListVC}
    (hnext : vc.refreshStep i re = some next) (hdone : next.callback query reply = .ok done) :
    ∃ done', vc.callback query reply = .ok done' := by
  obtain ⟨-, refresh, -, rfl⟩ := refreshStep_eq_some.mp hnext
  have hback := callback_refresh vc.refresh hdone
  exact ⟨_, hback⟩

/-- An event starts a refresh, leaves all refreshes alone, or is an event of one of them. -/
lemma refresh_of_step {e : OnlineListEvent} (hstep : step vc e = some vc') :
    (e = .updateList ∧ vc' = vc.updateList) ∨
    (vc'.count = vc.count ∧ vc'.refresh = vc.refresh ∧ e.refreshEvent? vc = none) ∨
    ∃ j re refresh, e.refreshEvent? vc = some (j, re) ∧ (vc.refresh j).step re = some refresh ∧
      vc'.count = vc.count ∧ j < vc.count ∧ vc'.refresh = Function.update vc.refresh j refresh := by
  cases outcome_of_step hstep with
  | updateList => exact Or.inl ⟨rfl, rfl⟩
  | getDocuments j query next hnext =>
      obtain ⟨hj, refresh, hrefresh, rfl⟩ := refreshStep_eq_some.mp hnext
      exact Or.inr (Or.inr ⟨j, _, refresh, rfl, hrefresh, rfl, hj, rfl⟩)
  | callback j query reply next done hnext hdone =>
      obtain ⟨done', hcallback⟩ := callback_of_refreshStep hnext hdone
      obtain ⟨hj, refresh, hrefresh, rfl⟩ := refreshStep_eq_some.mp hnext
      obtain ⟨hcount, hsame, -⟩ := callback_frame hdone
      exact Or.inr (Or.inr ⟨j, _, refresh, refreshEvent?_of_callback hcallback, hrefresh, hcount,
        hj, hsame⟩)
  | callbackTrap j query reply next trap hnext htrap =>
      obtain ⟨hj, refresh, hrefresh, rfl⟩ := refreshStep_eq_some.mp hnext
      exact Or.inr (Or.inr ⟨j, _, refresh, refreshEvent?_of_callback_error htrap, hrefresh, rfl, hj,
        rfl⟩)
  | leave j query next hnext =>
      obtain ⟨hj, refresh, hrefresh, rfl⟩ := refreshStep_eq_some.mp hnext
      exact Or.inr (Or.inr ⟨j, _, refresh, rfl, hrefresh, rfl, hj, rfl⟩)
  | notify j next hnext =>
      obtain ⟨hj, refresh, hrefresh, rfl⟩ := refreshStep_eq_some.mp hnext
      exact Or.inr (Or.inr ⟨j, _, refresh, rfl, hrefresh, rfl, hj, rfl⟩)
  | cell => exact Or.inr (Or.inl ⟨rfl, rfl, rfl⟩)
  | select => exact Or.inr (Or.inl ⟨rfl, rfl, rfl⟩)
  | rowTrap row _ he => exact Or.inr (Or.inl ⟨rfl, rfl, by rcases he with rfl | rfl <;> rfl⟩)

/-- What the new refreshes of a screen satisfy and their events preserve, all satisfy. -/
lemma forall_refresh_of_step {P : Refresh → Prop} {e : OnlineListEvent}
    (h : ∀ i < vc.count, P (vc.refresh i)) (hstart : P .start)
    (hkeep : ∀ i re refresh, i < vc.count → e.refreshEvent? vc = some (i, re) →
      (vc.refresh i).step re = some refresh → P refresh)
    (hstep : step vc e = some vc') : ∀ i < vc'.count, P (vc'.refresh i) := by
  intro i hi
  rcases refresh_of_step hstep with ⟨rfl, rfl⟩ | ⟨hcount, hsame, -⟩ |
    ⟨j, re, refresh, he, hrefresh, hcount, hj, hsame⟩
  · by_cases hnew : i = vc.count
    · simpa [updateList, hnew] using hstart
    · have hi' : i < vc.count := by
        have : i < vc.count + 1 := hi
        omega
      simpa [updateList, hnew] using h i hi'
  · rw [hsame]
    exact h i (hcount ▸ hi)
  · rw [hsame]
    by_cases hij : i = j
    · subst hij
      simpa using hkeep i re refresh hj he hrefresh
    · simpa [hij] using h i (hcount ▸ hi)

def RefreshesInvariant (vc : DocumentOnlineListVC) : Prop :=
  ∀ i < vc.count, RefreshInvariant (vc.refresh i)

lemma RefreshesInvariant.step {e : OnlineListEvent} (h : RefreshesInvariant vc)
    (hstep : DocumentOnlineListVC.step vc e = some vc') : RefreshesInvariant vc' :=
  forall_refresh_of_step h refreshInvariant_start
    (fun i _ _ hi _ hrefresh => (h i hi).step hrefresh) hstep

lemma refreshesInvariant_of_run {tr : List OnlineListEvent} (h : run step launch tr = some vc) :
    RefreshesInvariant vc :=
  run_invariant (P := RefreshesInvariant) (fun _ hi => absurd hi (Nat.not_lt_zero _))
    (fun _ _ _ hvc hstep => hvc.step hstep) h

/-- An event leaves all flags of all refreshes set exactly when it is no callback that fails. -/
lemma forall_flagsSet_step_iff {e : OnlineListEvent} (h : RefreshesInvariant vc)
    (hflags : ∀ i < vc.count, FlagsSet (vc.refresh i)) (hstep : step vc e = some vc') :
    (∀ i < vc'.count, FlagsSet (vc'.refresh i)) ↔
      ∀ i query, e.refreshEvent? vc ≠ some (i, .callback query false) := by
  constructor
  · intro hflags' i query he
    rcases refresh_of_step hstep with ⟨rfl, -⟩ | ⟨-, -, hnone⟩ |
      ⟨j, re, refresh, hre, hrefresh, hcount, hj, hsame⟩
    · cases he
    · rw [hnone] at he
      cases he
    · obtain ⟨rfl, rfl⟩ := Prod.mk.inj (Option.some.inj (hre.symm.trans he))
      refine (flagsSet_step_iff (h j hj) (hflags j hj) hrefresh).mp ?_ query rfl
      have hset := hflags' j (hcount ▸ hj)
      simpa [hsame] using hset
  · intro hne
    refine forall_refresh_of_step hflags flagsSet_start ?_ hstep
    intro i re refresh hi he hrefresh
    refine (flagsSet_step_iff (h i hi) (hflags i hi) hrefresh).mpr ?_
    rintro query rfl
    exact hne i query he

/-! ## A refresh with its flags set goes on -/

lemma refreshStep_of_step {re : RefreshEvent} (hi : i < vc.count)
    (h : (vc.refresh i).step re = some refresh) :
    vc.refreshStep i re = some { vc with refresh := Function.update vc.refresh i refresh } :=
  refreshStep_eq_some.mpr ⟨hi, refresh, h, rfl⟩

/-- A block whose turn it is sends its query. -/
lemma exists_step_getDocuments (htrap : vc.trap = none) (hi : i < vc.count)
    (hphase : ((vc.refresh i).block query).phase = .queued) (hturn : (vc.refresh i).turn query) :
    ∃ vc', step vc (.getDocuments i query) = some vc' := by
  have hrefresh : (vc.refresh i).step (.getDocuments query) = some ((vc.refresh i).setBlock query
      { (vc.refresh i).block query with phase := .waiting }) := by
    simp [Refresh.step, hphase, hturn]
  have hstep : step vc (.getDocuments i query) = vc.refreshStep i (.getDocuments query) := by
    simp [step, htrap]
  exact ⟨_, hstep.trans (refreshStep_of_step hi hrefresh)⟩

/-- A worker whose flag is set ends its block. -/
lemma exists_step_leave (htrap : vc.trap = none) (hi : i < vc.count)
    (hphase : ((vc.refresh i).block query).phase = .waiting)
    (hflag : ((vc.refresh i).block query).isTaskFinished) :
    ∃ vc', step vc (.leave i query) = some vc' ∧
      ((vc'.refresh i).block query).phase = .finished ∧
      (∀ query' ≠ query, (vc'.refresh i).block query' = (vc.refresh i).block query') ∧
      (vc'.refresh i).notifyPending = (vc.refresh i).notifyPending ∧
        vc'.trap = none ∧ vc'.count = vc.count ∧ vc'.dataArray = vc.dataArray := by
  have hrefresh : (vc.refresh i).step (.leave query) = some
      { (vc.refresh i).setBlock query { (vc.refresh i).block query with phase := .finished } with
        dispatchGroup := (vc.refresh i).dispatchGroup - 1 - 1 } := by
    simp [Refresh.step, hphase, hflag]
  have hstep : step vc (.leave i query) = vc.refreshStep i (.leave query) := by
    simp [step, htrap]
  refine ⟨_, hstep.trans (refreshStep_of_step hi hrefresh), ?_, ?_, ?_, htrap, rfl, rfl⟩
  · simp
  · intro query' hne
    simp [hne]
  · simp [Refresh.setBlock]

/-- Where all blocks have ended and the notification has not run, it runs. -/
lemma exists_step_notify (h : RefreshesInvariant vc) (htrap : vc.trap = none) (hi : i < vc.count)
    (hfinished : ∀ query, ((vc.refresh i).block query).phase = .finished)
    (hpending : (vc.refresh i).notifyPending) :
    ∃ vc', step vc (.notify i) = some vc' ∧ (vc'.refresh i).dispatchGroup = 0 ∧
      (vc'.refresh i).notifyRuns = 1 ∧ vc'.dataArray = vc.dataArray ∧
        vc'.rows = vc.dataArray.length := by
  have hgroup : (vc.refresh i).dispatchGroup = 0 := by
    rw [(h i hi).group, Refresh.unfinished, if_pos (hfinished _), if_pos (hfinished _)]
  have hruns : (vc.refresh i).notifyRuns = 0 := by
    rw [(h i hi).runs, if_pos hpending]
  have hrefresh : (vc.refresh i).step .notify = some { vc.refresh i with
      notifyPending := false, notifyRuns := (vc.refresh i).notifyRuns + 1 } := by
    simp [Refresh.step, hgroup, hpending]
  refine ⟨{ vc with
    refresh := Function.update vc.refresh i { vc.refresh i with
      notifyPending := false, notifyRuns := (vc.refresh i).notifyRuns + 1 }
    rows := vc.numberOfRows
    refreshing := false }, ?_, ?_, ?_, rfl, rfl⟩
  · simp [step, htrap, refreshStep_of_step hi hrefresh]
  · simpa using hgroup
  · simp [hruns]

/-- **The end of a refresh.**  Once both queries have called back and set their flags, the worker
and the notification bring the refresh to its end by themselves, and leave the array as it is. -/
theorem exists_run_to_notify (h : RefreshesInvariant vc) (htrap : vc.trap = none)
    (hi : i < vc.count) (hflag : ∀ query, ((vc.refresh i).block query).isTaskFinished) :
    ∃ tr vc', (∀ e ∈ tr, e = .leave i .docRef ∨ e = .notify i) ∧ run step vc tr = some vc' ∧
      (vc'.refresh i).dispatchGroup = 0 ∧ (vc'.refresh i).notifyRuns = 1 ∧
        vc'.dataArray = vc.dataArray := by
  have hinv := h i hi
  have hdoc := (hinv.block .docRef).asked ((hinv.block .docRef).replied (hflag .docRef))
  have huser := hinv.serial hdoc
  cases hphase : ((vc.refresh i).block .docRef).phase with
  | queued => exact absurd hphase hdoc
  | waiting =>
      obtain ⟨vc₁, hleave, hfinished, hother, hsame, htrap₁, hcount, harray₁⟩ :=
        exists_step_leave htrap hi hphase (hflag .docRef)
      have hfinished₁ : ∀ query, ((vc₁.refresh i).block query).phase = .finished := by
        intro query
        cases query with
        | userRef => rw [hother .userRef (by simp), huser]
        | docRef => exact hfinished
      have hne : ((vc.refresh i).block .docRef).phase ≠ .finished := by simp [hphase]
      have hpending := hinv.pending_of_ne_finished hne
      obtain ⟨vc', hnotify, hgroup, hruns, harray, -⟩ :=
        exists_step_notify (h.step hleave) htrap₁ (hcount ▸ hi) hfinished₁ (hsame.trans hpending)
      refine ⟨[.leave i .docRef, .notify i], vc', by simp, ?_, hgroup, hruns,
        harray.trans harray₁⟩
      rw [run_cons, hleave, Option.bind_some, run_cons, hnotify]
      rfl
  | finished =>
      have hfinished : ∀ query, ((vc.refresh i).block query).phase = .finished := by
        intro query
        cases query with
        | userRef => exact huser
        | docRef => exact hphase
      by_cases hpending : (vc.refresh i).notifyPending
      · obtain ⟨vc', hnotify, hgroup, hruns, harray, -⟩ :=
          exists_step_notify h htrap hi hfinished hpending
        exact ⟨[.notify i], vc', by simp, by simp [hnotify], hgroup, hruns, harray⟩
      · refine ⟨[], vc, by simp, rfl, hinv.last (by simpa using hpending), ?_, rfl⟩
        rw [hinv.runs, if_neg hpending]

/-! ## When no refresh is stuck -/

/-- What a refresh that is not stuck satisfies. -/
structure RefreshProgress (vc : DocumentOnlineListVC) (i : ℕ) : Prop where
  /-- No query has called back and left its flag. -/
  flags : FlagsSet (vc.refresh i)
  /-- A worker whose query has called back can leave its loop. -/
  leaves : ∀ query, ((vc.refresh i).block query).phase = .waiting →
    ((vc.refresh i).block query).replied → ∃ vc', step vc (.leave i query) = some vc'
  /-- While all queries sent so far have called back and the notification has not run, the worker
  or the notification can take the next step. -/
  continues : (vc.refresh i).notifyRuns = 0 →
    (∀ query, ((vc.refresh i).block query).phase = .waiting →
      ((vc.refresh i).block query).replied) →
    ∃ e vc', (e = .notify i ∨ ∃ query, e = .getDocuments i query ∨ e = .leave i query) ∧
      step vc e = some vc'
  /-- The notification has run once at most, and only after both queries have called back. -/
  once : (vc.refresh i).notifyRuns ≤ 1
  after : (vc.refresh i).notifyRuns = 1 → ∀ query, ((vc.refresh i).block query).replied
  /-- Once both queries have called back, the worker and the notification alone empty the group
  and run the notification. -/
  ends : (∀ query, ((vc.refresh i).block query).replied) →
    ∃ tr vc', (∀ e ∈ tr, e = .leave i .docRef ∨ e = .notify i) ∧ run step vc tr = some vc' ∧
      (vc'.refresh i).dispatchGroup = 0 ∧ (vc'.refresh i).notifyRuns = 1

/-- The notification has not run, and no query is under way: it is for the worker or the
notification to go on. -/
def Idle (refresh : Refresh) : Prop :=
  refresh.notifyRuns = 0 ∧
    ∀ query, (refresh.block query).phase = .waiting → (refresh.block query).replied

/-- All flags are set, and a screen that has trapped leaves nothing to be done. -/
structure Moving (vc : DocumentOnlineListVC) : Prop where
  flags : ∀ i < vc.count, FlagsSet (vc.refresh i)
  runs : vc.trap.isSome → ∀ i < vc.count, ¬ Idle (vc.refresh i)

/-- An event gets a refresh stuck: a query fails, its callback traps and does not set its flag, or
a row that is out of range ends the screen before an idle refresh has come to its notification. -/
def GetsStuck (vc : DocumentOnlineListVC) : OnlineListEvent → Prop
  | .callback _ _ .error => True
  | .callback _ .docRef (.snapshot documents) => ¬ Readable vc.userInfos documents
  | .cellForRowAt row | .didSelectRowAt row =>
      vc.dataArray.length ≤ row ∧ ∃ i < vc.count, Idle (vc.refresh i)
  | _ => False

/-- A worker whose query has called back has nothing else to wait for. -/
lemma RefreshInvariant.idle (h : RefreshInvariant refresh)
    (hphase : (refresh.block query).phase = .waiting) (hreplied : (refresh.block query).replied) :
    Idle refresh := by
  have hne : (refresh.block query).phase ≠ .finished := by simp [hphase]
  refine ⟨by rw [h.runs, if_pos (h.pending_of_ne_finished hne)], fun query' hphase' => ?_⟩
  -- the queue is serial, so the other worker does not wait
  have huser : (refresh.block .docRef).phase = .waiting →
      (refresh.block .userRef).phase ≠ .waiting := by
    intro hdoc
    rw [h.serial (by simp [hdoc])]
    simp
  obtain rfl : query' = query := by
    cases query' with
    | userRef =>
        cases query with
        | userRef => rfl
        | docRef => exact absurd hphase' (huser hphase)
    | docRef =>
        cases query with
        | userRef => exact absurd hphase (huser hphase')
        | docRef => rfl
  exact hreplied

/-- The flags are all it takes on a screen that has not trapped. -/
lemma refreshProgress_of_flagsSet (h : RefreshesInvariant vc) (hi : i < vc.count)
    (hflags : FlagsSet (vc.refresh i)) (hidle : vc.trap.isSome → ¬ Idle (vc.refresh i)) :
    RefreshProgress vc i where
  flags := hflags
  leaves := by
    intro query hphase hreplied
    have htrap : vc.trap = none := by
      by_contra htrap
      exact hidle (Option.isSome_iff_ne_none.mpr htrap) ((h i hi).idle hphase hreplied)
    obtain ⟨vc', hleave, -⟩ := exists_step_leave htrap hi hphase (hflags query hreplied)
    exact ⟨vc', hleave⟩
  continues := by
    intro hruns hreplied
    have htrap : vc.trap = none := by
      by_contra htrap
      exact hidle (Option.isSome_iff_ne_none.mpr htrap) ⟨hruns, hreplied⟩
    have hwaiting : ∀ query, ((vc.refresh i).block query).phase = .waiting →
        ∃ e vc', (e = .notify i ∨ ∃ query, e = .getDocuments i query ∨ e = .leave i query) ∧
          step vc e = some vc' := by
      intro query hphase
      obtain ⟨vc', hleave, -⟩ :=
        exists_step_leave htrap hi hphase (hflags query (hreplied query hphase))
      exact ⟨_, vc', Or.inr ⟨query, Or.inr rfl⟩, hleave⟩
    cases huser : ((vc.refresh i).block .userRef).phase with
    | queued =>
        obtain ⟨vc', hsend⟩ := exists_step_getDocuments htrap hi huser rfl
        exact ⟨_, vc', Or.inr ⟨.userRef, Or.inl rfl⟩, hsend⟩
    | waiting => exact hwaiting .userRef huser
    | finished =>
        cases hdoc : ((vc.refresh i).block .docRef).phase with
        | queued =>
            obtain ⟨vc', hsend⟩ := exists_step_getDocuments htrap hi hdoc
              (by simp [Refresh.turn, huser])
            exact ⟨_, vc', Or.inr ⟨.docRef, Or.inl rfl⟩, hsend⟩
        | waiting => exact hwaiting .docRef hdoc
        | finished =>
            have hpending : (vc.refresh i).notifyPending = true := by
              by_contra hdone
              rw [(h i hi).runs, if_neg hdone] at hruns
              cases hruns
            obtain ⟨vc', hnotify, -⟩ := exists_step_notify h htrap hi
              (fun query => by cases query <;> assumption) hpending
            exact ⟨_, vc', Or.inl rfl, hnotify⟩
  once := by
    rw [(h i hi).runs]
    split <;> omega
  after := by
    intro hruns query
    have hinv := h i hi
    by_cases hphase : ((vc.refresh i).block query).phase = .finished
    · exact (hinv.block query).replied ((hinv.block query).flag hphase)
    · rw [hinv.runs, if_pos (hinv.pending_of_ne_finished hphase)] at hruns
      cases hruns
  ends := by
    intro hreplied
    by_cases htrap : vc.trap = none
    · obtain ⟨tr, vc', htr, hrun, hgroup, hruns, -⟩ :=
        exists_run_to_notify h htrap hi fun query => hflags query (hreplied query)
      exact ⟨tr, vc', htr, hrun, hgroup, hruns⟩
    · -- the refresh is not idle, so it has come to its end
      have hdone : ¬ (vc.refresh i).notifyPending := by
        intro hpending
        refine hidle (Option.isSome_iff_ne_none.mpr htrap) ⟨?_, fun query _ => hreplied query⟩
        rw [(h i hi).runs, if_pos hpending]
      refine ⟨[], vc, by simp, rfl, (h i hi).last (by simpa using hdone), ?_⟩
      rw [(h i hi).runs, if_neg hdone]

lemma forall_refreshProgress_iff (h : RefreshesInvariant vc) :
    (∀ i < vc.count, RefreshProgress vc i) ↔ Moving vc := by
  constructor
  · intro hprogress
    refine ⟨fun i hi => (hprogress i hi).flags, fun htrap i hi hidle => ?_⟩
    obtain ⟨e, vc', -, hstep⟩ := (hprogress i hi).continues hidle.1 hidle.2
    rw [trap_of_step hstep] at htrap
    cases htrap
  · intro hmoving i hi
    exact refreshProgress_of_flagsSet h hi (hmoving.flags i hi) fun htrap => hmoving.runs htrap i hi

/-- **The step lemma.**  An event gets a refresh stuck or keeps all of them moving. -/
lemma moving_step_iff {e : OnlineListEvent} (h : RefreshesInvariant vc) (hmoving : Moving vc)
    (hstep : step vc e = some vc') : Moving vc' ↔ ¬ GetsStuck vc e := by
  have hflags := forall_flagsSet_step_iff h hmoving.flags hstep
  have hnone := trap_of_step hstep
  have hquiet : vc'.trap = none → (Moving vc' ↔
      ∀ i query, e.refreshEvent? vc ≠ some (i, .callback query false)) := by
    intro htrap
    rw [← hflags]
    exact ⟨Moving.flags, fun hset => ⟨hset, fun hsome => by simp [htrap] at hsome⟩⟩
  have hrefresh : ∀ {i re next}, vc.refreshStep i re = some next → next.trap = none := by
    intro i re next hnext
    obtain ⟨-, refresh, -, rfl⟩ := refreshStep_eq_some.mp hnext
    exact hnone
  cases outcome_of_step hstep with
  | updateList =>
      rw [hquiet hnone]
      exact iff_of_true nofun id
  | getDocuments i query next hnext =>
      rw [hquiet (hrefresh hnext)]
      exact iff_of_true nofun id
  | callback i query reply next done hnext hdone =>
      obtain ⟨done', hcallback⟩ := callback_of_refreshStep hnext hdone
      have htrap : vc'.trap = none := by
        rw [(callback_frame hdone).2.2.2.1, hrefresh hnext]
      rw [hquiet htrap, refreshEvent?_of_callback hcallback]
      cases reply with
      | error => exact iff_of_false (fun hne => hne i query rfl) fun hnot => hnot trivial
      | snapshot documents =>
          refine iff_of_true nofun ?_
          cases query with
          | userRef => exact id
          | docRef =>
              obtain ⟨dataArray, hdocs, -⟩ := CollectingLoop.bind_eq_ok_iff.mp hcallback
              exact not_not.mpr (readable_iff.mpr ⟨dataArray, hdocs⟩)
  | callbackTrap i query reply next trap hnext htrap =>
      rw [refreshEvent?_of_callback_error htrap] at hflags
      refine iff_of_false (fun hmoving' => hflags.mp hmoving'.flags i query rfl) ?_
      obtain ⟨documents, rfl, rfl, hdocs⟩ := callback_error_cases htrap
      refine not_not.mpr fun hreadable => ?_
      obtain ⟨dataArray, hok⟩ := readable_iff.mp hreadable
      rw [hdocs] at hok
      cases hok
  | leave i query next hnext =>
      rw [hquiet (hrefresh hnext)]
      exact iff_of_true nofun id
  | notify i next hnext =>
      have hnotify := hrefresh hnext
      rw [hquiet hnotify]
      exact iff_of_true nofun id
  | cell row data hrow hdata | select row data hrow hdata =>
      rw [hquiet hnone]
      have hlt := (List.getElem?_eq_some_iff.mp hdata).1
      exact iff_of_true nofun fun hstuck => absurd hstuck.1 (Nat.not_le.mpr hlt)
  | rowTrap row _ he hrow hdata =>
      have hle := List.getElem?_eq_none_iff.mp hdata
      have hstuck : GetsStuck vc e ↔ ∃ i < vc.count, Idle (vc.refresh i) := by
        rcases he with rfl | rfl <;> exact and_iff_right hle
      rw [hstuck, not_exists]
      constructor
      · rintro hmoving' i ⟨hi, hidle⟩
        exact hmoving'.runs rfl i hi hidle
      · exact fun hnot => ⟨hmoving.flags, fun _ i hi hidle => hnot i ⟨hi, hidle⟩⟩

/-- **Which runs leave no refresh stuck.**  In every state a run passes through every refresh
makes progress, exactly when no event of the run gets one stuck: no query calls back with an
error, the documents callbacks can read their snapshots, and no row is asked for that is out of
range while a refresh is idle. -/
theorem no_refresh_stuck_iff (tr : List OnlineListEvent) (vc : DocumentOnlineListVC)
    (h : run step launch tr = some vc) :
    (∀ vc', Visits step launch tr vc' → ∀ i < vc'.count, RefreshProgress vc' i) ↔
      ∀ vc' e, Takes step launch tr vc' e → ¬ GetsStuck vc' e := by
  have hvisits : (∀ vc', Visits step launch tr vc' → ∀ i < vc'.count, RefreshProgress vc' i) ↔
      ∀ vc', Visits step launch tr vc' → Moving vc' := by
    refine forall₂_congr fun vc' hv => ?_
    obtain ⟨done, rest, -, hdone⟩ := hv
    exact forall_refreshProgress_iff (refreshesInvariant_of_run hdone)
  rw [hvisits]
  refine forall_visits_iff_forall_takes (I := RefreshesInvariant) ?_
    (fun _ _ _ hvc hstep => hvc.step hstep) ?_
    (fun _ _ _ hinv hmoving hstep => moving_step_iff hinv hmoving hstep) h
  · intro i hi
    cases hi
  · exact ⟨fun i hi => (by cases hi), nofun⟩

/-- A refresh that finds two empty collections. -/
def emptyRefresh : List OnlineListEvent :=
  [.updateList, .getDocuments 0 .userRef, .callback 0 .userRef (.snapshot []),
    .leave 0 .userRef, .getDocuments 0 .docRef, .callback 0 .docRef (.snapshot []),
    .leave 0 .docRef, .notify 0]

theorem no_refresh_stuck_emptyRefresh :
    ∃ vc, run step launch emptyRefresh = some vc ∧ (vc.refresh 0).notifyRuns = 1 ∧
      ((∀ vc', Visits step launch emptyRefresh vc' → ∀ i < vc'.count, RefreshProgress vc' i) ↔
        ∀ vc' e, Takes step launch emptyRefresh vc' e → ¬ GetsStuck vc' e) :=
  ⟨_, rfl, rfl, no_refresh_stuck_iff emptyRefresh _ rfl⟩

/-! ## A refresh without its flag is stuck for good -/

/-- A worker that spins on a flag which its callback has not set spins on. -/
lemma stuck_step {e : RefreshEvent} (h : refresh.block query = ⟨.waiting, true, false⟩)
    (hstep : refresh.step e = some refresh') : refresh'.block query = ⟨.waiting, true, false⟩ := by
  have hother : ∀ {query'} {block : Block}, query' ≠ query →
      (refresh.setBlock query' block).block query = ⟨.waiting, true, false⟩ := by
    intro query' block hne
    rw [Refresh.setBlock_of_ne _ _ hne.symm, h]
  cases Refresh.outcome_of_step hstep with
  | getDocuments query' hphase =>
      refine hother ?_
      rintro rfl
      simp [h] at hphase
  | callback query' succeeds hphase hreplied =>
      refine hother ?_
      rintro rfl
      simp [h] at hreplied
  | leave query' hphase hflag =>
      refine hother ?_
      rintro rfl
      simp [h] at hflag
  | notify => exact h

/-- **A failed query is never made up for.**  However the run goes on, the worker of the query
spins on and the refresh does not notify. -/
theorem never_notified_of_stuck {tr : List OnlineListEvent} (hinv : RefreshesInvariant vc)
    (hi : i < vc.count) (h : (vc.refresh i).block query = ⟨.waiting, true, false⟩)
    (hrun : run step vc tr = some vc') :
    (vc'.refresh i).block query = ⟨.waiting, true, false⟩ ∧ (vc'.refresh i).notifyRuns = 0 := by
  have hall : RefreshesInvariant vc' ∧ i < vc'.count ∧
      (vc'.refresh i).block query = ⟨.waiting, true, false⟩ := by
    refine run_invariant (P := fun vc => RefreshesInvariant vc ∧ i < vc.count ∧
      (vc.refresh i).block query = ⟨.waiting, true, false⟩) ⟨hinv, hi, h⟩ ?_ hrun
    rintro vc₁ e vc₂ ⟨hinv₁, hi₁, h₁⟩ hstep
    refine ⟨hinv₁.step hstep, ?_⟩
    rcases refresh_of_step hstep with ⟨-, rfl⟩ | ⟨hcount, hsame, -⟩ |
      ⟨j, re, refresh, -, hrefresh, hcount, -, hsame⟩
    · refine ⟨Nat.lt_succ_of_lt hi₁, ?_⟩
      simpa [updateList, Nat.ne_of_lt hi₁] using h₁
    · exact ⟨hcount ▸ hi₁, by rw [hsame, h₁]⟩
    · refine ⟨hcount ▸ hi₁, ?_⟩
      rw [hsame]
      by_cases hij : i = j
      · subst hij
        simpa using stuck_step h₁ hrefresh
      · simpa [hij] using h₁
  obtain ⟨hinv', hi', h'⟩ := hall
  have hne : ((vc'.refresh i).block query).phase ≠ .finished := by simp [h']
  refine ⟨h', ?_⟩
  rw [(hinv' i hi').runs, if_pos ((hinv' i hi').pending_of_ne_finished hne)]

/-! ### A query that fails -/

/-- A refresh whose first query is answered with an error. -/
def failedQueryTrace : List OnlineListEvent :=
  [.updateList, .getDocuments 0 .userRef, .callback 0 .userRef .error]

/-- The query has been answered, its worker spins on, and the refresh never notifies. -/
theorem refresh_stuck :
    ∃ vc, run step launch failedQueryTrace = some vc ∧ 0 < vc.count ∧
      ((vc.refresh 0).block .userRef).replied ∧
      ((vc.refresh 0).block .userRef).isTaskFinished = false ∧ ¬ RefreshProgress vc 0 ∧
        ∀ tr vc', run step vc tr = some vc' → (vc'.refresh 0).notifyRuns = 0 := by
  obtain ⟨vc, hfailed, hcount, hstuck⟩ : ∃ vc, run step launch failedQueryTrace = some vc ∧
      0 < vc.count ∧ (vc.refresh 0).block .userRef = ⟨.waiting, true, false⟩ :=
    ⟨_, rfl, by decide, rfl⟩
  refine ⟨vc, hfailed, hcount, by rw [hstuck], by rw [hstuck], ?_, ?_⟩
  · intro h
    have hflag := h.flags .userRef (by rw [hstuck])
    rw [hstuck] at hflag
    cases hflag
  · intro tr vc' hrun
    exact (never_notified_of_stuck (refreshesInvariant_of_run hfailed) hcount hstuck hrun).2

end Procon
