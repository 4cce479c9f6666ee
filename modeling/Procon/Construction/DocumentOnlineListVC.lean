import Procon.Construction.DocumentListVC
import Procon.Construction.Firebase

/-!
# The online list screen

`DocumentOnlineListVC` joins two Firestore collections: `userInfos` holds a record for every user
and `documents` the uploads of every user, each under the user's identifier.  `updateList`
empties the dictionary and the array of the screen and starts a refresh: two blocks on a serial
queue, each of which sends one query and spins on its own flag `isTaskFinished`, and a
`DispatchGroup` whose notification reloads the table.

A `Refresh` is what one call of `updateList` keeps in its local variables.  Several may be under
way at once, since nothing in `updateList` waits for an earlier call; the screen's dictionary and
array are shared by all of them.  The callbacks and the notification run on the main queue, so
every event is one atomic step.

The table view remembers the row count of its last reload and may ask for any row below it at
any time.
-/

namespace Procon

open NestedMap

/-! ## What Firestore answers -/

/-- What a query calls back with. -/
inductive Reply
  | error
  | snapshot (documents : List QueryDocumentSnapshot)

def Reply.isSnapshot : Reply → Bool
  | .error => false
  | .snapshot _ => true

structure DataForOnlineList where
  document : DocumentInfo
  user : SimpleUserInfo
  deriving DecidableEq, Repr

/-! ## The two callbacks -/

/-- The loop of the `userRef` callback. -/
def readUserInfos (documents : List QueryDocumentSnapshot)
    (userInfos : String → Option SimpleUserInfo) : String → Option SimpleUserInfo :=
  documents.foldl (fun userInfos document =>
    match userInfoOf document.2 with
    | some userInfo => Function.update userInfos document.1 (some userInfo)
    | none => userInfos) userInfos

/-- The body of the inner loop of the `docRef` callback. -/
def readValue (userInfos : String → Option SimpleUserInfo) (user_uid : String)
    (dataArray : List DataForOnlineList) (val : FieldValue) :
    Except Trap (List DataForOnlineList) :=
  match val with
  | .data docData => do
      match ← unarchiveDocumentInfo docData with
      | some docInfo =>
          match userInfos user_uid with
          | some user => .ok (dataArray ++ [⟨docInfo, user⟩])
          | none => .error (.forcedUnwrap "self.userInfos[user_uid]")
      | none => .ok dataArray
  | _ => .ok dataArray

/-- The two loops of the `docRef` callback. -/
def readDocuments (userInfos : String → Option SimpleUserInfo)
    (documents : List QueryDocumentSnapshot) (dataArray : List DataForOnlineList) :
    Except Trap (List DataForOnlineList) :=
  documents.foldlM (fun dataArray document =>
    (document.2.entries.map Sigma.snd).foldlM (readValue userInfos document.1) dataArray) dataArray

/-! ## One refresh -/

/-- The two queries of a refresh, in the order of their blocks on the serial queue. -/
inductive Query
  | userRef
  | docRef
  deriving DecidableEq, Repr

inductive Phase
  | queued
  | waiting
  | finished
  deriving DecidableEq, Repr

/-- A block of the serial queue with its query. -/
structure Block where
  phase : Phase
  /-- The reply of the query has been delivered. -/
  replied : Bool
  isTaskFinished : Bool
  deriving DecidableEq, Repr

/-- What one call of `updateList` keeps. -/
structure Refresh where
  block : Query → Block
  /-- How often the group has been entered and not left. -/
  dispatchGroup : ℕ
  /-- The notification has not been sent to the main queue yet. -/
  notifyPending : Bool
  /-- How often the notification has run. -/
  notifyRuns : ℕ

inductive RefreshEvent
  | getDocuments (query : Query)
  | callback (query : Query) (succeeds : Bool)
  | leave (query : Query)
  | notify

namespace Refresh

/-- The refresh as `updateList` leaves it: for each of the two blocks the group is entered by
`enter()` and once more by `async(group:)`. -/
def start : Refresh where
  block := fun _ => ⟨.queued, false, false⟩
  dispatchGroup := 4
  notifyPending := true
  notifyRuns := 0

def setBlock (refresh : Refresh) (query : Query) (block : Block) : Refresh :=
  { refresh with block := Function.update refresh.block query block }

/-- The queue is serial: the second block starts when the first has ended. -/
def turn (refresh : Refresh) : Query → Bool
  | .userRef => true
  | .docRef => (refresh.block .userRef).phase = .finished

/-- One event of a refresh.  The flag is set by a callback that succeeds only; the worker leaves
its loop when it sees the flag, leaves the group, and leaves it again when the block ends. -/
def step (refresh : Refresh) : RefreshEvent → Option Refresh
  | .getDocuments query =>
      let block := refresh.block query
      if block.phase = .queued ∧ refresh.turn query then
        some (refresh.setBlock query { block with phase := .waiting })
      else none
  | .callback query succeeds =>
      let block := refresh.block query
      if block.phase = .waiting ∧ block.replied = false then
        some (refresh.setBlock query
          { block with replied := true, isTaskFinished := block.isTaskFinished || succeeds })
      else none
  | .leave query =>
      let block := refresh.block query
      if block.phase = .waiting ∧ block.isTaskFinished then
        some { refresh.setBlock query { block with phase := .finished } with
          dispatchGroup := refresh.dispatchGroup - 1 - 1 }
      else none
  | .notify =>
      if refresh.dispatchGroup = 0 ∧ refresh.notifyPending then
        some { refresh with notifyPending := false, notifyRuns := refresh.notifyRuns + 1 }
      else none

@[simp] lemma setBlock_self (refresh : Refresh) (query : Query) (block : Block) :
    (refresh.setBlock query block).block query = block := Function.update_self ..

@[simp] lemma setBlock_of_ne (refresh : Refresh) {query query' : Query} (block : Block)
    (h : query' ≠ query) : (refresh.setBlock query block).block query' = refresh.block query' :=
  Function.update_of_ne h ..

end Refresh

/-! ## The screen -/

/-- The screen with its refreshes, and the table view it serves. -/
structure DocumentOnlineListVC where
  userInfos : String → Option SimpleUserInfo
  dataArray : List DataForOnlineList
  /-- How often `updateList` has been called. -/
  count : ℕ
  /-- The refresh of each call, counted from zero. -/
  refresh : ℕ → Refresh
  /-- The refresh control has begun refreshing and not ended. -/
  refreshing : Bool
  /-- The row count at the last reload. -/
  rows : ℕ
  /-- The entry each row was last filled with. -/
  cells : ℕ → Option DataForOnlineList
  /-- The message of the alert that a tap presents. -/
  alert : Option String
  trap : Option Trap

inductive OnlineListEvent
  | updateList
  | getDocuments (i : ℕ) (query : Query)
  | callback (i : ℕ) (query : Query) (reply : Reply)
  | leave (i : ℕ) (query : Query)
  | notify (i : ℕ)
  | cellForRowAt (row : ℕ)
  | didSelectRowAt (row : ℕ)

namespace DocumentOnlineListVC

def launch : DocumentOnlineListVC where
  userInfos := fun _ => none
  dataArray := []
  count := 0
  refresh := fun _ => .start
  refreshing := false
  rows := 0
  cells := fun _ => none
  alert := none
  trap := none

def updateList (vc : DocumentOnlineListVC) : DocumentOnlineListVC :=
  { vc with
    count := vc.count + 1
    userInfos := fun _ => none
    dataArray := []
    refresh := Function.update vc.refresh vc.count .start
    refreshing := true }

def numberOfRows (vc : DocumentOnlineListVC) : ℕ := vc.dataArray.length

/-- The entry of a row, as both methods look it up. -/
def dataAt (vc : DocumentOnlineListVC) (row : ℕ) : Except Trap DataForOnlineList :=
  match vc.dataArray[row]? with
  | some data => .ok data
  | none => .error (.assertion "index is out of range uid array")

/-- The message of the alert that a tap presents. -/
def message (data : DataForOnlineList) : String :=
  data.user.name ++ "\n" ++ data.user.email ++ "\n" ++
    DocumentListVC.describing data.document.explain ++ "\n" ++
    DocumentListVC.describing data.document.savedDate

/-- What the callback of a query does to the screen. -/
def callback (vc : DocumentOnlineListVC) : Query → Reply → Except Trap DocumentOnlineListVC
  | _, .error => .ok vc
  | .userRef, .snapshot documents =>
      .ok { vc with userInfos := readUserInfos documents vc.userInfos }
  | .docRef, .snapshot documents => do
      let dataArray ← readDocuments vc.userInfos documents vc.dataArray
      return { vc with dataArray := dataArray }

/-- One event of the refresh `i`. -/
def refreshStep (vc : DocumentOnlineListVC) (i : ℕ) (e : RefreshEvent) :
    Option DocumentOnlineListVC :=
  if i < vc.count then
    ((vc.refresh i).step e).map fun refresh =>
      { vc with refresh := Function.update vc.refresh i refresh }
  else none

/-- One event of the screen.  A callback that traps does not come to the line that sets its
flag. -/
def step (vc : DocumentOnlineListVC) (e : OnlineListEvent) : Option DocumentOnlineListVC :=
  if vc.trap.isSome then none else
  match e with
  | .updateList => some vc.updateList
  | .getDocuments i query => vc.refreshStep i (.getDocuments query)
  | .callback i query reply =>
      match vc.callback query reply with
      | .ok next => next.refreshStep i (.callback query reply.isSnapshot)
      | .error trap =>
          (vc.refreshStep i (.callback query false)).map fun next => { next with trap := some trap }
  | .leave i query => vc.refreshStep i (.leave query)
  | .notify i =>
      (vc.refreshStep i .notify).map fun next =>
        { next with rows := vc.numberOfRows, refreshing := false }
  | .cellForRowAt row =>
      if row < vc.rows then
        match vc.dataAt row with
        | .ok data => some { vc with cells := Function.update vc.cells row (some data) }
        | .error trap => some { vc with trap := some trap }
      else none
  | .didSelectRowAt row =>
      if row < vc.rows then
        match vc.dataAt row with
        | .ok data => some { vc with alert := some (message data) }
        | .error trap => some { vc with trap := some trap }
      else none

/-! ## What one event can do -/

variable {vc vc' next : DocumentOnlineListVC}

lemma refreshStep_eq_some {i : ℕ} {e : RefreshEvent} :
    vc.refreshStep i e = some next ↔ i < vc.count ∧ ∃ refresh,
      (vc.refresh i).step e = some refresh ∧ next =
        { vc with refresh := Function.update vc.refresh i refresh } := by
  unfold refreshStep
  by_cases hi : i < vc.count
  · rw [if_pos hi, Option.map_eq_some_iff]
    constructor
    · rintro ⟨refresh, hrefresh, rfl⟩
      exact ⟨hi, refresh, hrefresh, rfl⟩
    · rintro ⟨-, refresh, hrefresh, rfl⟩
      exact ⟨refresh, hrefresh, rfl⟩
  · rw [if_neg hi]
    constructor
    · intro h
      cases h
    · intro h
      exact absurd h.1 hi

lemma callback_cases {query : Query} {reply : Reply} (h : vc.callback query reply = .ok vc') :
    (reply = .error ∧ vc' = vc) ∨
    (∃ documents, query = .userRef ∧ reply = .snapshot documents ∧
      vc' = { vc with userInfos := readUserInfos documents vc.userInfos }) ∨
    ∃ documents dataArray, query = .docRef ∧ reply = .snapshot documents ∧
      readDocuments vc.userInfos documents vc.dataArray = .ok dataArray ∧
        vc' = { vc with dataArray := dataArray } := by
  cases reply with
  | error =>
      refine Or.inl ⟨rfl, ?_⟩
      cases query <;> exact (Except.ok.inj h).symm
  | snapshot documents =>
      cases query with
      | userRef => exact Or.inr (Or.inl ⟨documents, rfl, rfl, (Except.ok.inj h).symm⟩)
      | docRef =>
          rw [callback] at h
          cases hdocs : readDocuments vc.userInfos documents vc.dataArray with
          | error trap =>
              rw [hdocs] at h
              cases h
          | ok dataArray =>
              rw [hdocs] at h
              exact Or.inr (Or.inr ⟨documents, dataArray, rfl, rfl, hdocs, (Except.ok.inj h).symm⟩)

/-- A callback touches the dictionary and the array only. -/
lemma callback_frame {query : Query} {reply : Reply} (h : vc.callback query reply = .ok vc') :
    vc'.count = vc.count ∧ vc'.refresh = vc.refresh ∧ vc'.rows = vc.rows ∧ vc'.trap = vc.trap ∧
      vc'.refreshing = vc.refreshing := by
  rcases callback_cases h with ⟨-, rfl⟩ | ⟨documents, -, -, rfl⟩ |
    ⟨documents, dataArray, -, -, -, rfl⟩ <;> exact ⟨rfl, rfl, rfl, rfl, rfl⟩

/-- A callback does not look at the refreshes. -/
lemma callback_refresh {query : Query} {reply : Reply} (refresh : ℕ → Refresh)
    (h : vc.callback query reply = .ok vc') :
    { vc with refresh := refresh }.callback query reply = .ok { vc' with refresh := refresh } := by
  rcases callback_cases h with ⟨rfl, rfl⟩ | ⟨documents, rfl, rfl, rfl⟩ |
    ⟨documents, dataArray, rfl, rfl, hdocs, rfl⟩
  · cases query <;> rfl
  · rfl
  · rw [callback, hdocs]
    rfl

lemma callback_error_cases {query : Query} {reply : Reply} {trap : Trap}
    (h : vc.callback query reply = .error trap) : ∃ documents, query = .docRef ∧
      reply = .snapshot documents ∧
        readDocuments vc.userInfos documents vc.dataArray = .error trap := by
  cases reply with
  | error => cases query <;> cases h
  | snapshot documents =>
      cases query with
      | userRef => cases h
      | docRef =>
          rw [callback] at h
          cases hdocs : readDocuments vc.userInfos documents vc.dataArray with
          | error trap' =>
              rw [hdocs] at h
              obtain rfl : trap' = trap := Except.error.inj h
              exact ⟨documents, rfl, rfl, hdocs⟩
          | ok dataArray =>
              rw [hdocs] at h
              cases h

lemma dataAt_of_getElem? {row : ℕ} {data : DataForOnlineList}
    (h : vc.dataArray[row]? = some data) : vc.dataAt row = .ok data := by
  rw [dataAt, h]

lemma dataAt_of_none {row : ℕ} (h : vc.dataArray[row]? = none) :
    vc.dataAt row = .error (.assertion "index is out of range uid array") := by
  rw [dataAt, h]

/-- The outcomes of an event on a screen that has not trapped. -/
inductive Outcome (vc : DocumentOnlineListVC) : OnlineListEvent → DocumentOnlineListVC → Prop
  | updateList : Outcome vc .updateList vc.updateList
  | getDocuments (i : ℕ) (query : Query) (next : DocumentOnlineListVC)
      (hnext : vc.refreshStep i (.getDocuments query) = some next) :
      Outcome vc (.getDocuments i query) next
  | callback (i : ℕ) (query : Query) (reply : Reply) (next done : DocumentOnlineListVC)
      (hnext : vc.refreshStep i (.callback query reply.isSnapshot) = some next)
      (hdone : next.callback query reply = .ok done) :
      Outcome vc (.callback i query reply) done
  | callbackTrap (i : ℕ) (query : Query) (reply : Reply) (next : DocumentOnlineListVC)
      (trap : Trap) (hnext : vc.refreshStep i (.callback query false) = some next)
      (htrap : vc.callback query reply = .error trap) :
      Outcome vc (.callback i query reply) { next with trap := some trap }
  | leave (i : ℕ) (query : Query) (next : DocumentOnlineListVC)
      (hnext : vc.refreshStep i (.leave query) = some next) :
      Outcome vc (.leave i query) next
  | notify (i : ℕ) (next : DocumentOnlineListVC)
      (hnext : vc.refreshStep i .notify = some next) :
      Outcome vc (.notify i) { next with rows := vc.numberOfRows, refreshing := false }
  | cell (row : ℕ) (data : DataForOnlineList) (hrow : row < vc.rows)
      (hdata : vc.dataArray[row]? = some data) :
      Outcome vc (.cellForRowAt row)
        { vc with cells := Function.update vc.cells row (some data) }
  | select (row : ℕ) (data : DataForOnlineList) (hrow : row < vc.rows)
      (hdata : vc.dataArray[row]? = some data) :
      Outcome vc (.didSelectRowAt row) { vc with alert := some (message data) }
  | rowTrap (row : ℕ) (e : OnlineListEvent) (he : e = .cellForRowAt row ∨ e = .didSelectRowAt row)
      (hrow : row < vc.rows) (hdata : vc.dataArray[row]? = none) :
      Outcome vc e { vc with trap := some (.assertion "index is out of range uid array") }

lemma trap_of_step {e : OnlineListEvent} (h : step vc e = some vc') : vc.trap = none := by
  by_contra htrap
  unfold step at h
  rw [if_pos (Option.isSome_iff_ne_none.mpr htrap)] at h
  cases h

lemma outcome_of_step {e : OnlineListEvent} (h : step vc e = some vc') : Outcome vc e vc' := by
  have htrap := trap_of_step h
  unfold step at h
  rw [if_neg (by simp [htrap])] at h
  cases e with
  | updateList =>
      obtain rfl := Option.some.inj h
      exact .updateList
  | getDocuments i query => exact .getDocuments i query vc' h
  | callback i query reply =>
      dsimp only at h
      cases hdone : vc.callback query reply with
      | ok done =>
          rw [hdone] at h
          obtain ⟨hi, refresh, hrefresh, rfl⟩ := refreshStep_eq_some.mp h
          obtain ⟨hcount, hsame, -⟩ := callback_frame hdone
          rw [hsame] at hrefresh ⊢
          have hnext := refreshStep_eq_some.mpr ⟨hcount ▸ hi, refresh, hrefresh, rfl⟩
          exact .callback i query reply _ _ hnext (callback_refresh _ hdone)
      | error trap =>
          rw [hdone] at h
          obtain ⟨next, hnext, rfl⟩ := Option.map_eq_some_iff.mp h
          exact .callbackTrap i query reply next trap hnext hdone
  | leave i query => exact .leave i query vc' h
  | notify i =>
      obtain ⟨next, hnext, rfl⟩ := Option.map_eq_some_iff.mp h
      exact .notify i next hnext
  | cellForRowAt row =>
      dsimp only at h
      split at h
      · rename_i hrow
        cases hdata : vc.dataArray[row]? with
        | some data =>
            rw [dataAt_of_getElem? hdata] at h
            obtain rfl := Option.some.inj h
            exact .cell row data hrow hdata
        | none =>
            rw [dataAt_of_none hdata] at h
            obtain rfl := Option.some.inj h
            exact .rowTrap row _ (Or.inl rfl) hrow hdata
      · cases h
  | didSelectRowAt row =>
      dsimp only at h
      split at h
      · rename_i hrow
        cases hdata : vc.dataArray[row]? with
        | some data =>
            rw [dataAt_of_getElem? hdata] at h
            obtain rfl := Option.some.inj h
            exact .select row data hrow hdata
        | none =>
            rw [dataAt_of_none hdata] at h
            obtain rfl := Option.some.inj h
            exact .rowTrap row _ (Or.inr rfl) hrow hdata
      · cases h

/-- What has stopped a screen: a documents callback that traps, or a row that is out of range. -/
lemma trapped_of_step {e : OnlineListEvent} {trap : Trap} (h : step vc e = some vc')
    (htrapped : vc'.trap = some trap) :
    (∃ i documents next, e = .callback i .docRef (.snapshot documents) ∧
      vc.refreshStep i (.callback .docRef false) = some next ∧
        vc' = { next with trap := some trap } ∧
          readDocuments vc.userInfos documents vc.dataArray = .error trap) ∨
    vc' = { vc with trap := some trap } ∧
      trap = .assertion "index is out of range uid array" ∧ vc.dataArray.length < vc.rows := by
  have hnone := trap_of_step h
  have hrefresh : ∀ {i re next}, vc.refreshStep i re = some next → next.trap = none := by
    intro i re next hnext
    obtain ⟨-, refresh, -, rfl⟩ := refreshStep_eq_some.mp hnext
    exact hnone
  cases outcome_of_step h with
  | updateList => exact absurd (htrapped.symm.trans hnone) (by simp)
  | getDocuments i query next hnext =>
      exact absurd (htrapped.symm.trans (hrefresh hnext)) (by simp)
  | callback i query reply next done hnext hdone =>
      rw [(callback_frame hdone).2.2.2.1, hrefresh hnext] at htrapped
      cases htrapped
  | callbackTrap i query reply next trap' hnext hcallback =>
      obtain rfl := Option.some.inj htrapped
      obtain ⟨documents, rfl, rfl, hdocs⟩ := callback_error_cases hcallback
      exact Or.inl ⟨i, documents, next, rfl, hnext, rfl, hdocs⟩
  | leave i query next hnext =>
      exact absurd (htrapped.symm.trans (hrefresh hnext)) (by simp)
  | notify i next hnext =>
      have hnotify := hrefresh hnext
      exact absurd (htrapped.symm.trans hnotify) (by simp)
  | cell => exact absurd (htrapped.symm.trans hnone) (by simp)
  | select => exact absurd (htrapped.symm.trans hnone) (by simp)
  | rowTrap row e he hrow hdata =>
      obtain rfl := Option.some.inj htrapped
      rw [List.getElem?_eq_none_iff] at hdata
      exact Or.inr ⟨rfl, rfl, by omega⟩

end DocumentOnlineListVC

end Procon
