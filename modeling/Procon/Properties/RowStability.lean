import Procon.Properties.ListScreen
import Mathlib.Data.List.Rotate

/-!
# The document a tap opens

A cell is filled from one reading of the identifier list and a tap on its row is resolved by a
later reading, both by position.  In between, a save rebuilds the list through a set, so it may
move another document to the row.  `OpensShown` says that a tap opens the document its cell
shows.

The orders in which Swift reads its sets are not the program's to choose, so what the program
can promise is a property of the *schedule*: the list of events without those orders.
`tap_opens_shown_iff` says exactly which schedules are safe for all orders, namely those with no
save between the last filling of a cell and a tap on its row.

Safe schedules are safe because nothing but a save changes the store (`FillHistory`).  An unsafe
one goes wrong when every set keeps its order but the one of the save in question, which is
rotated by one place: `getElem?_of_rotated_save` moves the row to another identifier, and
`getUidArray_of_inOrder` keeps it there until the tap.
-/

namespace Procon

open DocumentDataOperator DocumentListVC LabelledRun

/-! ## Schedules -/

namespace ListEvent

def isSave : ListEvent → Bool
  | .saveData2Local .. => true
  | _ => false

/-- The identifier of the document a save makes. -/
def savedUid? : ListEvent → Option String
  | .saveData2Local uuid .. => some uuid.uuidString
  | _ => none

/-- Whether an event can happen depends on the remembered row count only. -/
def Enabled (rows : ℕ) : ListEvent → Prop
  | .saveData2Local _ _ _ _ image _ => ∀ picture, image = some picture → picture.jpegData.isSome
  | .cellForRowAt row => row < rows
  | .didSelectRowAt row => row < rows
  | .refresh => True
  | .relaunch => True

end ListEvent

/-- `NSUUID` makes a new identifier for each save. -/
def FreshSaves (schedule : List ListEvent) : Prop :=
  (schedule.filterMap ListEvent.savedUid?).Nodup

instance (schedule : List ListEvent) : Decidable (FreshSaves schedule) :=
  inferInstanceAs (Decidable (List.Nodup _))

/-- No save stands between the last filling of a cell and a tap on its row. -/
def NoSaveBeforeTap (schedule : List ListEvent) : Prop :=
  ∀ a b c row, schedule = a ++ .cellForRowAt row :: (b ++ .didSelectRowAt row :: c) →
    ListEvent.cellForRowAt row ∉ b → ListEvent.relaunch ∉ b → ∀ e ∈ b, e.isSave = false

/-- A tap opens the document that its row's cell was last filled with. -/
def OpensShown (vc : DocumentListVC) (e : ListEvent) : Prop :=
  ∀ row cell, e = .didSelectRowAt row → vc.cells row = some cell →
    ∃ message, didSelectRowAt vc.store row = .ok (cell.docInfo, message)

variable {vc vc' vc₁ vc₂ : DocumentListVC} {arrayOfSet : ArrayOfSet} {row : ℕ}

/-! ## Safe schedules -/

/-- What the events so far tell about a filled cell: it was filled by one of them, and its
document is still the row's own unless a save came after it. -/
def FillHistory (schedule : List ListEvent) (vc : DocumentListVC) : Prop :=
  ∀ row cell, vc.cells row = some cell → ∃ a b, schedule = a ++ .cellForRowAt row :: b ∧
    ListEvent.cellForRowAt row ∉ b ∧ ListEvent.relaunch ∉ b ∧
      ((∀ e ∈ b, e.isSave = false) → documentAt vc.store row = .ok cell.docInfo)

/-- An event other than the row's own request extends the history of its cell. -/
lemma fillHistory_extend {schedule : List ListEvent} {e : ListEvent} {cell : DocumentDataCell}
    (hne : e ≠ .cellForRowAt row) (hlaunch : e ≠ .relaunch)
    (hkeep : e.isSave = false → documentAt vc.store row = .ok cell.docInfo →
      documentAt vc'.store row = .ok cell.docInfo)
    (h : ∃ a b, schedule = a ++ .cellForRowAt row :: b ∧ ListEvent.cellForRowAt row ∉ b ∧
      ListEvent.relaunch ∉ b ∧
        ((∀ e ∈ b, e.isSave = false) → documentAt vc.store row = .ok cell.docInfo)) :
    ∃ a b, schedule ++ [e] = a ++ .cellForRowAt row :: b ∧ ListEvent.cellForRowAt row ∉ b ∧
      ListEvent.relaunch ∉ b ∧
        ((∀ e ∈ b, e.isSave = false) → documentAt vc'.store row = .ok cell.docInfo) := by
  obtain ⟨a, b, rfl, hb, hb', hdoc⟩ := h
  refine ⟨a, b ++ [e], by simp, ?_, ?_, ?_⟩
  · simp [hb, hne.symm]
  · simp [hb', hlaunch.symm]
  · intro hsaves
    exact hkeep (hsaves e (by simp)) (hdoc fun f hf => hsaves f (by simp [hf]))

lemma FillHistory.step {schedule : List ListEvent} (h : FillHistory schedule vc)
    (hinv : ListInvariant vc) {e : ListEvent × ArrayOfSet}
    (hstep : DocumentListVC.step vc e = some vc') : FillHistory (schedule ++ [e.1]) vc' := by
  intro row' shown hshown
  cases hinv.step_cases hstep with
  | save =>
      exact fillHistory_extend (by simp) (by simp)
        (fun hsave => by simp [ListEvent.isSave] at hsave) (h row' shown hshown)
  | refresh =>
      exact fillHistory_extend (by simp) (by simp) (fun _ hdoc => hdoc) (h row' shown hshown)
  | cell row _ docInfo image hrow hdoc =>
      by_cases hsame : row' = row
      · subst hsame
        simp only [Function.update_self, Option.some.injEq] at hshown
        subst hshown
        exact ⟨schedule, [], rfl, by simp, by simp, fun _ => hdoc⟩
      · refine fillHistory_extend ?_ (by simp) (fun _ hdoc => hdoc) (h row' shown ?_)
        · intro hcell
          exact hsame (ListEvent.cellForRowAt.inj hcell).symm
        · simpa [hsame] using hshown
  | select =>
      exact fillHistory_extend (by simp) (by simp) (fun _ hdoc => hdoc) (h row' shown hshown)
  | relaunch => simp [launch] at hshown

lemma fillHistory_of_run {tr : List (ListEvent × ArrayOfSet)}
    (h : run step (launch .empty) tr = some vc) : FillHistory (tr.map Prod.fst) vc := by
  refine run_induction (P := fun tr vc => FillHistory (tr.map Prod.fst) vc) ?_ ?_ h
  · intro row cell hcell
    simp [launch] at hcell
  · intro tr vc e vc' hrun hhist hstep
    rw [List.map_append]
    exact hhist.step (listInvariant_of_run hrun) hstep

/-- In a safe schedule every tap opens the document its cell shows. -/
lemma opensShown_of_noSaveBeforeTap {schedule : List ListEvent} (h : NoSaveBeforeTap schedule)
    {tr : List (ListEvent × ArrayOfSet)} (htr : tr.map Prod.fst = schedule)
    {e : ListEvent × ArrayOfSet} (htakes : Takes step (launch .empty) tr vc e) :
    OpensShown vc e.1 := by
  intro row cell he hcell
  obtain ⟨done, rest, rfl, hrun⟩ := takes_iff.mp htakes
  obtain ⟨a, b, hab, hb, hb', hdoc⟩ := fillHistory_of_run hrun row cell hcell
  have hcut : schedule = a ++ .cellForRowAt row :: (b ++ .didSelectRowAt row ::
      rest.map Prod.fst) := by
    rw [← htr, List.map_append, List.map_cons, he, hab]
    simp
  have hopen := hdoc (h a b _ row hcut hb hb')
  exact ⟨_, didSelectRowAt_of_documentAt hopen⟩

/-! ## The orders of the sets do not decide which events can happen -/

lemma ListInvariant.exists_step_iff (h : ListInvariant vc) {e : ListEvent × ArrayOfSet} :
    (∃ vc', DocumentListVC.step vc e = some vc') ↔ e.1.Enabled vc.rows := by
  obtain ⟨e, arrayOfSet⟩ := e
  rw [DocumentListVC.step, if_neg (by simp [h.no_trap])]
  cases e with
  | saveData2Local uuid header date context image writeSucceeds =>
      rw [ListEvent.Enabled, ← @exists_runAll_ok_iff arrayOfSet (.init uuid header date context)
        image writeSucceeds vc.store]
      dsimp only
      split
      · rename_i store hrun
        simp [hrun]
      · rename_i trap hrun
        simp [hrun]
  | refresh => simp [ListEvent.Enabled]
  | cellForRowAt row =>
      dsimp only [ListEvent.Enabled]
      split
      · rename_i hrow
        obtain ⟨docInfo, hdoc, -⟩ := h.documentAt (Nat.lt_of_lt_of_le hrow h.rows_le)
        simp [cellForRowAt_of_documentAt hdoc, hrow]
      · rename_i hrow
        simp [hrow]
  | didSelectRowAt row =>
      dsimp only [ListEvent.Enabled]
      split
      · rename_i hrow
        obtain ⟨docInfo, hdoc, -⟩ := h.documentAt (Nat.lt_of_lt_of_le hrow h.rows_le)
        simp [didSelectRowAt_of_documentAt hdoc, hrow]
      · rename_i hrow
        simp [hrow]
  | relaunch => simp [ListEvent.Enabled]

/-- Two screens that differ in nothing but the orders of their lists and in what they show. -/
structure SameUpToOrder (vc₁ vc₂ : DocumentListVC) : Prop where
  rows : vc₁.rows = vc₂.rows
  uids : vc₁.store.getUidArray.Perm vc₂.store.getUidArray

lemma SameUpToOrder.step (h : SameUpToOrder vc₁ vc₂) (h₁ : ListInvariant vc₁)
    (h₂ : ListInvariant vc₂) {e : ListEvent} {a₁ a₂ : ArrayOfSet} {vc₁' vc₂' : DocumentListVC}
    (hs₁ : DocumentListVC.step vc₁ (e, a₁) = some vc₁')
    (hs₂ : DocumentListVC.step vc₂ (e, a₂) = some vc₂') : SameUpToOrder vc₁' vc₂' := by
  cases h₁.step_cases hs₁ with
  | save uuid header date context image writeSucceeds _ store₁ hstore₁ =>
      cases h₂.step_cases hs₂ with
      | save _ _ _ _ _ _ _ store₂ hstore₂ =>
          refine ⟨h.rows, ?_⟩
          have hdedup := (h.uids.append_right [uuid.uuidString]).dedup
          exact ((getUidArray_of_save_perm hstore₁).trans hdedup).trans
            (getUidArray_of_save_perm hstore₂).symm
  | refresh =>
      cases h₂.step_cases hs₂ with
      | refresh => exact ⟨h.uids.length_eq, h.uids⟩
  | cell =>
      cases h₂.step_cases hs₂ with
      | cell => exact ⟨h.rows, h.uids⟩
  | select =>
      cases h₂.step_cases hs₂ with
      | select => exact ⟨h.rows, h.uids⟩
  | relaunch =>
      cases h₂.step_cases hs₂ with
      | relaunch => exact ⟨rfl, h.uids⟩

/-- A schedule that can happen with some orders of the sets can happen with all. -/
lemma exists_run_of_sameUpToOrder {tr₁ tr₂ : List (ListEvent × ArrayOfSet)}
    (htr : tr₁.map Prod.fst = tr₂.map Prod.fst) (h : SameUpToOrder vc₁ vc₂)
    (h₁ : ListInvariant vc₁) (h₂ : ListInvariant vc₂) (hrun : run step vc₁ tr₁ = some vc) :
    ∃ vc', run step vc₂ tr₂ = some vc' := by
  induction tr₁ generalizing vc₁ vc₂ tr₂ with
  | nil =>
      obtain rfl : tr₂ = [] := by simpa using htr.symm
      exact ⟨vc₂, rfl⟩
  | cons e₁ tr₁ ih =>
      obtain ⟨e₂, tr₂, rfl⟩ : ∃ e tr, tr₂ = e :: tr :=
        List.exists_cons_of_ne_nil (by rintro rfl; simp at htr)
      obtain ⟨hhead, htail⟩ := List.cons.inj htr
      obtain ⟨e, a₁⟩ := e₁
      obtain ⟨e', a₂⟩ := e₂
      obtain rfl : e = e' := hhead
      rw [run_cons, Option.bind_eq_some_iff] at hrun
      obtain ⟨vc₁', hs₁, hrun⟩ := hrun
      have hen : e.Enabled vc₂.rows := h.rows ▸ h₁.exists_step_iff.mp ⟨vc₁', hs₁⟩
      obtain ⟨vc₂', hs₂⟩ := h₂.exists_step_iff (e := (e, a₂)).mpr hen
      obtain ⟨vc', hrun'⟩ := ih htail (h.step h₁ h₂ hs₁ hs₂) (h₁.step hs₁) (h₂.step hs₂) hrun
      exact ⟨vc', by rw [run_cons, hs₂, Option.bind_some, hrun']⟩


/-! ## Unsafe schedules

One save is rotated and all other sets keep their order. -/

/-- The evaluation that moves the first element to the end. -/
def ArrayOfSet.rotated : ArrayOfSet :=
  ⟨fun xs => xs.dedup.rotate 1, fun _ => List.rotate_perm _ _⟩

/-- The run of a schedule in which every set keeps its order. -/
def inOrder (schedule : List ListEvent) : List (ListEvent × ArrayOfSet) :=
  schedule.map fun e => (e, .inOrder)

lemma map_fst_inOrder (schedule : List ListEvent) : (inOrder schedule).map Prod.fst = schedule := by
  simp [inOrder, Function.comp_def]

section AddUid

variable {uid : String} {userDefaults : UserDefaults}

lemma getUidArray_addUid_of_ne_nil (h : getUidArray userDefaults ≠ []) :
    getUidArray (addUid arrayOfSet uid userDefaults) =
      arrayOfSet.toArray (getUidArray userDefaults ++ [uid]) := by
  unfold addUid
  cases hlist : userDefaults.stringArray DATA_UID_KEY with
  | some uidArray => rw [getUidArray_set, getUidArray, hlist]; rfl
  | none => exact absurd (by rw [getUidArray, hlist]; rfl) h

/-- A rotated `addUid` puts another identifier at each index that was there before. -/
lemma getElem?_addUid_rotated (h : (getUidArray userDefaults ++ [uid]).Nodup)
    (hrow : row < (getUidArray userDefaults).length) :
    (getUidArray (addUid .rotated uid userDefaults))[row]? ≠ (getUidArray userDefaults)[row]? := by
  have hlist : getUidArray (addUid .rotated uid userDefaults) =
      (getUidArray userDefaults ++ [uid]).rotate 1 := by
    rw [getUidArray_addUid_of_ne_nil (List.ne_nil_of_length_pos (Nat.zero_lt_of_lt hrow))]
    exact congrArg (List.rotate · 1) h.dedup
  have hlen : (getUidArray userDefaults ++ [uid]).length = (getUidArray userDefaults).length + 1 :=
    List.length_append
  have hold : (getUidArray userDefaults ++ [uid])[row]? = (getUidArray userDefaults)[row]? :=
    List.getElem?_append_left hrow
  rw [hlist, List.getElem?_rotate (by omega), Nat.mod_eq_of_lt (by omega), ← hold]
  intro heq
  have hsame := (List.getElem?_inj (by omega) h).mp heq
  omega

/-- `addUid` of a fresh identifier is sure to leave all others where they are only when there are
no others. -/
lemma addUid_keeps_rows_iff (h : (getUidArray userDefaults ++ [uid]).Nodup) :
    (∀ arrayOfSet, ∀ row < (getUidArray userDefaults).length,
      (getUidArray (addUid arrayOfSet uid userDefaults))[row]? =
        (getUidArray userDefaults)[row]?) ↔ getUidArray userDefaults = [] := by
  constructor
  · intro hkeeps
    by_contra hne
    have hrow := List.length_pos_of_ne_nil hne
    exact getElem?_addUid_rotated h hrow (hkeeps .rotated 0 hrow)
  · intro hnil arrayOfSet row hrow
    rw [hnil] at hrow
    exact absurd hrow (Nat.not_lt_zero row)

lemma getUidArray_addUid_inOrder (h : (getUidArray userDefaults ++ [uid]).Nodup) :
    getUidArray (addUid .inOrder uid userDefaults) = getUidArray userDefaults ++ [uid] := by
  by_cases hnil : getUidArray userDefaults = []
  · have hperm : (getUidArray (addUid .inOrder uid userDefaults)).Perm
        (getUidArray userDefaults ++ [uid]).dedup := getUidArray_addUid_perm
    rw [h.dedup, hnil, List.nil_append] at hperm
    rw [List.perm_singleton.mp hperm, hnil, List.nil_append]
  · rw [getUidArray_addUid_of_ne_nil hnil]
    exact h.dedup

end AddUid

/-- A request for a cell saves nothing. -/
lemma savedUids_append_cell (a b : List ListEvent) :
    (a ++ .cellForRowAt row :: b).filterMap ListEvent.savedUid? =
      a.filterMap ListEvent.savedUid? ++ b.filterMap ListEvent.savedUid? := by
  rw [List.filterMap_append, List.filterMap_cons_none rfl]

/-- While all sets keep their order, fresh saves append to the list. -/
lemma getUidArray_of_inOrder {b : List ListEvent} (h : ListInvariant vc)
    (hfresh : (vc.store.getUidArray ++ b.filterMap ListEvent.savedUid?).Nodup)
    (hrun : run step vc (inOrder b) = some vc') :
    vc'.store.getUidArray = vc.store.getUidArray ++ b.filterMap ListEvent.savedUid? := by
  induction b generalizing vc with
  | nil =>
      obtain rfl : vc = vc' := Option.some.inj hrun
      simp
  | cons e b ih =>
      obtain ⟨vc₁, hstep, hrun⟩ := Option.bind_eq_some_iff.mp hrun
      have hcons : (e :: b).filterMap ListEvent.savedUid? =
          (e.savedUid?).toList ++ b.filterMap ListEvent.savedUid? := by
        cases he : e.savedUid? <;> simp [he]
      rw [hcons, ← List.append_assoc] at hfresh ⊢
      have hlist : vc₁.store.getUidArray = vc.store.getUidArray ++ (e.savedUid?).toList := by
        cases h.step_cases hstep with
        | save uuid header date context image writeSucceeds _ store hstore =>
            have hnodup : (vc.store.getUidArray ++ [uuid.uuidString]).Nodup :=
              hfresh.sublist (List.sublist_append_left _ _)
            rw [getUidArray_of_save hstore]
            exact getUidArray_addUid_inOrder hnodup
        | refresh => simp [ListEvent.savedUid?]
        | cell => simp [ListEvent.savedUid?]
        | select => simp [ListEvent.savedUid?]
        | relaunch => simp [ListEvent.savedUid?, launch]
      rw [← hlist] at hfresh ⊢
      exact ih (h.step hstep) hfresh hrun

/-- A cell stays as it is until its row is asked for again or the app is launched anew. -/
lemma cells_of_run {tr : List (ListEvent × ArrayOfSet)} (h : ListInvariant vc)
    (hcell : ListEvent.cellForRowAt row ∉ tr.map Prod.fst)
    (hlaunch : ListEvent.relaunch ∉ tr.map Prod.fst) (hrun : run step vc tr = some vc') :
    vc'.cells row = vc.cells row := by
  have hkeep : ∀ vc₁ e, Takes step vc tr vc₁ e →
      e.1 ≠ .cellForRowAt row ∧ e.1 ≠ .relaunch := by
    intro vc₁ e htakes
    obtain ⟨done, rest, rfl, -⟩ := takes_iff.mp htakes
    constructor
    · rintro he
      exact hcell (by simp [he])
    · rintro he
      exact hlaunch (by simp [he])
  refine (takes_invariant (P := fun vc₁ => ListInvariant vc₁ ∧ vc₁.cells row = vc.cells row)
    ⟨h, rfl⟩ ?_ hrun hkeep).2
  rintro vc₁ e vc₂ ⟨hinv, hsame⟩ ⟨hne, hne'⟩ hstep
  refine ⟨hinv.step hstep, ?_⟩
  cases hinv.step_cases hstep with
  | save => exact hsame
  | refresh => exact hsame
  | cell other =>
      have hother : row ≠ other := fun heq => hne (by rw [heq])
      simpa [hother] using hsame
  | select => exact hsame
  | relaunch => exact absurd rfl hne'

/-- A rotated save puts another identifier in each row that was there before. -/
lemma getElem?_of_rotated_save (h : ListInvariant vc) {e : ListEvent} {uid : String}
    (he : e.savedUid? = some uid) (hfresh : (vc.store.getUidArray ++ [uid]).Nodup)
    (hstep : step vc (e, .rotated) = some vc') (hrow : row < vc.store.getUidArray.length) :
    vc'.store.getUidArray.Perm (vc.store.getUidArray ++ [uid]) ∧
      vc'.store.getUidArray[row]? ≠ vc.store.getUidArray[row]? := by
  cases h.step_cases hstep with
  | save uuid header date context image writeSucceeds _ store hstore =>
      obtain rfl : uuid.uuidString = uid := Option.some.inj he
      constructor
      · have hperm := getUidArray_of_save_perm hstore
        rwa [hfresh.dedup] at hperm
      · rw [getUidArray_of_save hstore]
        exact getElem?_addUid_rotated hfresh hrow
  | refresh => cases he
  | cell => cases he
  | select => cases he
  | relaunch => cases he

/-- A filled cell of a listed row, a rotated save after it, and sets in order otherwise: a tap on
the row opens another document. -/
lemma not_opensShown_of_rotated_save {vc₃ vc₄ : DocumentListVC} {b₁ b₂ : List ListEvent}
    {e : ListEvent} {uid : String} {cell : DocumentDataCell} (h : ListInvariant vc₁)
    (hshown : vc₁.cells row = some cell)
    (hrow : vc₁.store.getUidArray[row]? = some cell.docInfo.uid) (he : e.savedUid? = some uid)
    (hfresh : (vc₁.store.getUidArray ++ (b₁ ++ e :: b₂).filterMap ListEvent.savedUid?).Nodup)
    (hcell : ListEvent.cellForRowAt row ∉ b₁ ++ e :: b₂)
    (hlaunch : ListEvent.relaunch ∉ b₁ ++ e :: b₂) (hrun₁ : run step vc₁ (inOrder b₁) = some vc₂)
    (hstep : step vc₂ (e, .rotated) = some vc₃) (hrun₂ : run step vc₃ (inOrder b₂) = some vc₄) :
    ¬ OpensShown vc₄ (.didSelectRowAt row) := by
  have hlt : row < vc₁.store.getUidArray.length := (List.getElem?_eq_some_iff.mp hrow).1
  rw [List.filterMap_append, List.filterMap_cons_some he] at hfresh
  -- up to the save the list only grows
  have hlist₂ := getUidArray_of_inOrder h (hfresh.sublist (by simp)) hrun₁
  have hinv₂ : ListInvariant vc₂ := run_invariant h (fun _ _ _ hvc hs => hvc.step hs) hrun₁
  have hlt₂ : row < vc₂.store.getUidArray.length := by
    rw [hlist₂, List.length_append]
    omega
  rw [← List.append_assoc, ← hlist₂] at hfresh
  -- the save moves the row
  have hnew : (vc₂.store.getUidArray ++ [uid]).Nodup := hfresh.sublist (by simp)
  obtain ⟨hperm, hmoved⟩ := getElem?_of_rotated_save hinv₂ he hnew hstep hlt₂
  -- from the save on the list only grows
  have hinv₃ := hinv₂.step hstep
  have hfresh₃ : (vc₃.store.getUidArray ++ b₂.filterMap ListEvent.savedUid?).Nodup := by
    rw [(hperm.append_right _).nodup_iff]
    simpa using hfresh
  have hlist₄ := getUidArray_of_inOrder hinv₃ hfresh₃ hrun₂
  have hinv₄ : ListInvariant vc₄ := run_invariant hinv₃ (fun _ _ _ hvc hs => hvc.step hs) hrun₂
  have hlt₃ : row < vc₃.store.getUidArray.length := by
    rw [hperm.length_eq, List.length_append]
    omega
  have hshown₄ : vc₄.cells row = some cell := by
    have hrun : run step vc₁ (inOrder b₁ ++ (e, .rotated) :: inOrder b₂) = some vc₄ := by
      rw [run_append_of_eq hrun₁, run_cons, hstep, Option.bind_some, hrun₂]
    rw [cells_of_run h (by simpa [map_fst_inOrder] using hcell)
      (by simpa [map_fst_inOrder] using hlaunch) hrun, hshown]
  -- so the document of the row is not the one shown
  intro hopens
  obtain ⟨message, hopen⟩ := hopens row cell rfl hshown₄
  have hlt₄ : row < vc₄.store.getUidArray.length := by
    rw [hlist₄, List.length_append]
    omega
  obtain ⟨docInfo, hdoc, hdocRow⟩ := hinv₄.documentAt hlt₄
  rw [didSelectRowAt_of_documentAt hdoc, Except.ok.injEq, Prod.mk.injEq] at hopen
  rw [hlist₄, List.getElem?_append_left hlt₃, hopen.1] at hdocRow
  rw [hlist₂, List.getElem?_append_left hlt, hrow] at hmoved
  exact hmoved hdocRow

/-- A schedule with a save between a cell and the tap on its row goes wrong for some order of the
set of that save. -/
lemma exists_not_opensShown {a b₁ b₂ c : List ListEvent} {e : ListEvent} {uid : String}
    (he : e.savedUid? = some uid)
    (hfresh : FreshSaves (a ++ .cellForRowAt row :: (b₁ ++ e :: b₂ ++ .didSelectRowAt row :: c)))
    (hcell : ListEvent.cellForRowAt row ∉ b₁ ++ e :: b₂)
    (hlaunch : ListEvent.relaunch ∉ b₁ ++ e :: b₂)
    (hrun : run step (launch .empty) (inOrder (a ++ [.cellForRowAt row]) ++
      (inOrder b₁ ++ (e, .rotated) :: (inOrder b₂ ++ inOrder (.didSelectRowAt row :: c)))) =
        some vc) :
    ∃ vc₄, Takes step (launch .empty) (inOrder (a ++ [.cellForRowAt row]) ++
      (inOrder b₁ ++ (e, .rotated) :: (inOrder b₂ ++ inOrder (.didSelectRowAt row :: c))))
        vc₄ (.didSelectRowAt row, .inOrder) ∧ ¬ OpensShown vc₄ (.didSelectRowAt row) := by
  obtain ⟨vc₁, hrun₁, hrest⟩ := exists_of_run_append hrun
  obtain ⟨vc₂, hrun₂, hrest⟩ := exists_of_run_append hrest
  obtain ⟨vc₃, hstep, hrest⟩ := Option.bind_eq_some_iff.mp hrest
  obtain ⟨vc₄, hrun₄, -⟩ := exists_of_run_append hrest
  refine ⟨vc₄, takes_iff.mpr ⟨inOrder (a ++ [.cellForRowAt row]) ++ (inOrder b₁ ++
    (e, .rotated) :: inOrder b₂), inOrder c, by simp [inOrder], ?_⟩, ?_⟩
  · rw [run_append_of_eq hrun₁, run_append_of_eq hrun₂, run_cons, hstep, Option.bind_some, hrun₄]
  rw [FreshSaves, savedUids_append_cell, List.filterMap_append (l := b₁ ++ e :: b₂),
    ← List.append_assoc] at hfresh
  replace hfresh := hfresh.sublist (List.sublist_append_left _ _)
  have hlist₁ : vc₁.store.getUidArray = a.filterMap ListEvent.savedUid? := by
    have hlist := getUidArray_of_inOrder listInvariant_launch_empty ?_ hrun₁
    · rw [hlist, savedUids_append_cell]
      simp [launch, getUidArray_empty]
    · rw [savedUids_append_cell]
      refine hfresh.sublist ?_
      simp [launch, getUidArray_empty]
  rw [inOrder, List.map_append, ← inOrder, List.map_singleton, run_concat_eq_some] at hrun₁
  obtain ⟨vc₀, hrun₀, hfill⟩ := hrun₁
  have hinv₀ := listInvariant_of_run hrun₀
  have hinv₁ := hinv₀.step hfill
  cases hinv₀.step_cases hfill with
  | cell _ _ docInfo image hrow hdoc =>
      obtain ⟨docInfo', hdoc', hrow'⟩ := hinv₀.documentAt (Nat.lt_of_lt_of_le hrow hinv₀.rows_le)
      obtain rfl : docInfo = docInfo' := Except.ok.inj (hdoc.symm.trans hdoc')
      refine not_opensShown_of_rotated_save hinv₁ (Function.update_self ..) hrow' he ?_ hcell
        hlaunch hrun₂ hstep hrun₄
      rw [hlist₁]
      exact hfresh

/-- **Which taps open the document they show.**  Take a schedule of fresh saves that can happen.
Every tap of it opens the document its cell shows, whatever the orders of the sets, exactly when
the schedule has no save between the last filling of a cell and a tap on its row.  As for
`addUid` itself, it is sure to leave every listed identifier at its index only when the list is
empty. -/
theorem tap_opens_shown_iff (schedule : List ListEvent) (hfresh : FreshSaves schedule)
    (hexec : ∃ tr vc, tr.map Prod.fst = schedule ∧ run step (launch .empty) tr = some vc) :
    ((∀ tr, tr.map Prod.fst = schedule → ∀ vc e, Takes step (launch .empty) tr vc e →
      OpensShown vc e.1) ↔ NoSaveBeforeTap schedule) ∧
    ∀ uid userDefaults, (getUidArray userDefaults ++ [uid]).Nodup →
      ((∀ arrayOfSet, ∀ row < (getUidArray userDefaults).length,
        (getUidArray (addUid arrayOfSet uid userDefaults))[row]? =
          (getUidArray userDefaults)[row]?) ↔ getUidArray userDefaults = []) := by
  refine ⟨⟨?_, ?_⟩, fun uid userDefaults h => addUid_keeps_rows_iff h⟩
  · rintro hall a b c row rfl hcell hlaunch e he
    by_contra hsave
    obtain ⟨uid, huid⟩ : ∃ uid, e.savedUid? = some uid := by
      cases e with
      | saveData2Local => exact ⟨_, rfl⟩
      | refresh => exact absurd rfl hsave
      | cellForRowAt => exact absurd rfl hsave
      | didSelectRowAt => exact absurd rfl hsave
      | relaunch => exact absurd rfl hsave
    obtain ⟨b₁, b₂, rfl⟩ := List.append_of_mem he
    obtain ⟨tr, vc, htr, hrun⟩ := hexec
    have hsched : (inOrder (a ++ [.cellForRowAt row]) ++ (inOrder b₁ ++ (e, .rotated) ::
        (inOrder b₂ ++ inOrder (.didSelectRowAt row :: c)))).map Prod.fst =
          a ++ .cellForRowAt row :: (b₁ ++ e :: b₂ ++ .didSelectRowAt row :: c) := by
      simp [map_fst_inOrder]
    obtain ⟨vc', hrun'⟩ := exists_run_of_sameUpToOrder (htr.trans hsched.symm)
      ⟨rfl, List.Perm.refl _⟩ listInvariant_launch_empty listInvariant_launch_empty hrun
    obtain ⟨vc₄, htakes, hnot⟩ := exists_not_opensShown huid hfresh hcell hlaunch hrun'
    exact hnot (hall _ hsched vc₄ _ htakes)
  · intro hsafe tr htr vc e htakes
    exact opensShown_of_noSaveBeforeTap hsafe htr htakes

/-! ### One save too late -/

/-- A document is shown, another one is saved, and the row of the first is tapped. -/
def lateSaveSchedule : List ListEvent :=
  [.saveData2Local .first (some "shown") none none
      none true,
    .refresh, .cellForRowAt 0,
    .saveData2Local .second (some "opened") none none
      none true,
    .didSelectRowAt 0]

theorem tap_opens_shown_iff_lateSave :
    FreshSaves lateSaveSchedule ∧
    ((∀ tr, tr.map Prod.fst = lateSaveSchedule → ∀ vc e, Takes step (launch .empty) tr vc e →
      OpensShown vc e.1) ↔ NoSaveBeforeTap lateSaveSchedule) :=
  ⟨by decide, (tap_opens_shown_iff lateSaveSchedule (by decide)
    ⟨inOrder lateSaveSchedule, _, map_fst_inOrder _, rfl⟩).1⟩

/-- The row shows the first document, and when the set of the second save is read the other way
round a tap on it opens the second. -/
theorem tap_opens_other_document :
    FreshSaves lateSaveSchedule ∧
    ∃ tr vc vc', tr.map Prod.fst = lateSaveSchedule ∧ run step (launch .empty) tr = some vc' ∧
      Takes step (launch .empty) tr vc (.didSelectRowAt 0, .inOrder) ∧
        ¬ OpensShown vc (.didSelectRowAt 0) := by
  refine ⟨by decide, inOrder (lateSaveSchedule.take 3) ++ (lateSaveSchedule[3], .rotated) ::
    [(.didSelectRowAt 0, .inOrder)], _, _, rfl, rfl,
    takes_iff.mpr ⟨inOrder (lateSaveSchedule.take 3) ++ [(lateSaveSchedule[3], .rotated)], [], rfl,
      rfl⟩, ?_⟩
  intro hopens
  obtain ⟨message, hopen⟩ := hopens 0 _ rfl rfl
  have hexplain : some "opened" = some "shown" :=
    congrArg (fun opened => (opened.toOption.bind fun x => x.1.explain)) hopen
  exact absurd hexplain (by decide)

end Procon
