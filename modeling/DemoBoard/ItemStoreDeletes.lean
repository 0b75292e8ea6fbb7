import DemoBoard.ItemStoreHolds

namespace DemoBoard.ItemStoreDeletes

open ByteMemory ItemStore TransitionRuns

/-!
# Adds and deletes in flight

`ItemStore_DeleteAllItems` clears the counters of a store at once and requests
the erase of its pages with a message.  Between the two the counters describe
neither the old nor the new content; outside of this time every store describes
a log, provided that no delete is lost and nothing is added in between.
-/

/-- Adds, deletes and the progress of erases. -/
def Writes : ItemStore.QueueEvent → Prop
  | .addItem _ _ => True
  | .deleteAllItems _ => True
  | .dispatch => True
  | .endOfPage => True
  | _ => False

/-- The item store without enumerations. -/
def writerSystem : System QueueState ItemStore.QueueEvent where
  start := queueSystem.start
  step := fun state event next =>
    queueStep state event = .ok next ∧ Writes event

/-- The condition under which deletes and adds do not interfere. -/
structure Proper
    (state : QueueState) (event : ItemStore.QueueEvent) : Prop where
  /-- No add is executed between a delete and its erase. -/
  adds : event = .dispatch → ∀ item data rest,
    state.queue = .addItem item data :: rest →
    state.store.listenerState = .idle →
    .erase (eraseOf item) ∉ rest
  /-- A reminder replaces neither another one nor the end of a delete. -/
  reminders : event = .dispatch → ∀ item rest,
    state.queue = .erase (eraseOf item) :: rest →
    state.store.listenerState = .erasing →
    (state.store.eraseParameters.reinit = true →
        state.store.eraseParameters = eraseOf item) ∧
      (hasReminder state.store.eraseReminder = true →
        state.store.eraseReminder = eraseOf item)

/-- The message is no add that the store executes. -/
def AddsNothing
    (item : ItemDef) (store : ItemStoreState) (request : Request) : Prop :=
  ∀ data, request = .addItem item data →
    store.listenerState = .idle →
    (store.itemStore item).currentState ≠ .idle

/-- What `Proper` says of the reminder when a message is dispatched. -/
def RemindersKept (state : QueueState) : Prop :=
  ∀ item rest, state.queue = .erase (eraseOf item) :: rest →
    state.store.listenerState = .erasing →
    (state.store.eraseParameters.reinit = true →
        state.store.eraseParameters = eraseOf item) ∧
      (hasReminder state.store.eraseReminder = true →
        state.store.eraseReminder = eraseOf item)

theorem Proper.remindersKept
    {state : QueueState}
    (proper : Proper state .dispatch) :
    RemindersKept state :=
  proper.reminders rfl

/-- The message of an add reaches a store that executes it. -/
structure ExecutesAdd
    (state : QueueState) (event : ItemStore.QueueEvent)
    (item : ItemDef) (data : List Byte) : Prop where
  dispatches : event = .dispatch
  first : ∃ rest, state.queue = .addItem item data :: rest
  listens : state.store.listenerState = .idle
  storeIdle : (state.store.itemStore item).currentState = .idle

/-- A delete of a store is requested and not finished. -/
inductive Pending (item : ItemDef) (state : QueueState) : Prop where
  | queued (member : .erase (eraseOf item) ∈ state.queue)
  | reminded (reminder : state.store.eraseReminder = eraseOf item)
  | running
      (erasing : state.store.listenerState = .erasing)
      (parameters : state.store.eraseParameters = eraseOf item)

/-- A store describes a log; the erase of its oldest page may be running. -/
inductive Kept
    (allowed : StoreLog → Nat → Prop) (item : ItemDef)
    (store : ItemStoreState) : Prop where
  | holds
      {log : StoreLog}
      {stale : Nat}
      (allows : allowed log stale)
      (holds : Holds item log stale store)
      (spared : ∀ page, InStore item page → ¬ Condemned store page)
  | wrapping
      {log : StoreLog}
      {stale : Nat}
      (allows : allowed log stale)
      (wrapping : Wrapping item log stale store)

/-- The counters of a store are cleared. -/
structure CountersZero (info : ItemStoreInfo) : Prop where
  nrOfFullPages : info.nrOfFullPages = 0
  currentPageNrOfItems : info.currentPageNrOfItems = 0

section Stores

variable {allowed : StoreLog → Nat → Prop}
variable {item : ItemDef}
variable {before after : ItemStoreState}
variable {dones : Nat}
variable {request : Request}
variable {handled : Handled}

/-- A store that is kept under a condition is kept under a weaker one. -/
theorem Kept.mono
    {weaker : StoreLog → Nat → Prop}
    (kept : Kept allowed item before)
    (weakens : ∀ log stale, allowed log stale → weaker log stale) :
    Kept weaker item before := by
  cases kept with
  | holds allows holds spared =>
      exact .holds (weakens _ _ allows) holds spared
  | wrapping allows wrapping =>
      exact .wrapping (weakens _ _ allows) wrapping

/-- A step that changes neither the store nor the running erase. -/
theorem Kept.congr
    (kept : Kept allowed item before)
    (same : SameStore item before after)
    (listenerState : after.listenerState = before.listenerState)
    (parameters : after.eraseParameters = before.eraseParameters) :
    Kept allowed item after := by
  cases kept with
  | holds allows holds spared =>
      refine .holds allows (holds.congr same) ?_
      intro page inStore
      rw [Condemned, listenerState, parameters]
      exact spared page inStore
  | wrapping allows wrapping =>
      exact .wrapping allows (wrapping.congr same.info (.inl same.memory)
        listenerState parameters)

/-- A step that changes what concerns enumerations only. -/
theorem Kept.sameContent
    (kept : Kept allowed item before)
    (same : SameContent before after) :
    Kept allowed item after := by
  cases kept with
  | holds allows holds spared =>
      refine .holds allows (holds.sameContent same) ?_
      intro page inStore
      rw [same.condemned_iff]
      exact spared page inStore
  | wrapping allows wrapping =>
      exact .wrapping allows (wrapping.sameContent same)

/-- Otherwise the store is enumerated. -/
theorem enumerated_of_not_leavesAlone
    (dispatched : Dispatched before request handled)
    (notAdded : AddsNothing item before request)
    (touched : ¬ LeavesAlone item before request) :
    SameContent before handled.state := by
  unfold LeavesAlone at touched
  simp only [not_forall, not_not] at touched
  obtain ⟨other, executes, listens, storeIdle, rfl⟩ := touched
  cases dispatched with
  | enumerated other enumerator _ _ =>
      exact sameContent_beginEnumerate before other enumerator
  | ignored => exact .refl _
  | added other data _ _ _ =>
      rcases executes with ⟨_, adds⟩ | ⟨_, begins⟩
      · exact (notAdded _ adds listens storeIdle).elim
      · cases begins
  | deleteStarted => rcases executes with ⟨_, same⟩ | ⟨_, same⟩ <;> cases same
  | reminded => rcases executes with ⟨_, same⟩ | ⟨_, same⟩ <;> cases same
  | restarted => rcases executes with ⟨_, same⟩ | ⟨_, same⟩ <;> cases same
  | deleted => rcases executes with ⟨_, same⟩ | ⟨_, same⟩ <;> cases same
  | wrapped => rcases executes with ⟨_, same⟩ | ⟨_, same⟩ <;> cases same

/-- A finished erase of the oldest page. -/
theorem kept_finished
    {log : StoreLog}
    {stale : Nat}
    (allows : allowed log stale)
    (wrapping : Wrapping item log stale before)
    (sound : Sound before 1)
    (same : SameStore item before after)
    (spared : ∀ page, InStore item page → ¬ Condemned after page) :
    Kept allowed item after := by
  obtain ⟨_, _, _, erased⟩ := sound.phase.finished
  exact .holds allows (wrapping.finished erased same) spared

/-- The dispatch of a message that concerns no delete of the store. -/
theorem Kept.dispatched
    (kept : Kept allowed item before)
    (sound : Sound before dones)
    (admissible : Admissible dones request)
    (dispatched : Dispatched before request handled)
    (notAdded : AddsNothing item before request)
    (notDeleted : request ≠ .erase (eraseOf item))
    (notReminded : request = .eraseDone →
      before.eraseReminder ≠ eraseOf item) :
    Kept allowed item handled.state := by
  by_cases others : LeavesAlone item before request
  case neg =>
    exact kept.sameContent
      (enumerated_of_not_leavesAlone dispatched notAdded others)
  cases kept with
  | holds allows holds spared =>
      obtain ⟨spares, _⟩ := spares_dispatched sound dispatched others
        spared (fun _ => notDeleted) notReminded
      exact .holds allows (holds.congr spares.sameStore)
        spares.notCondemned
  | wrapping allows wrapping =>
      have busy := wrapping.erasing
      cases dispatched with
      | added other data rest storeIdle result =>
          rw [rest.listenerIdle] at busy
          cases busy
      | enumerated other enumerator rest storeIdle =>
          rw [rest.listenerIdle] at busy
          cases busy
      | ignored _ _ => exact .wrapping allows wrapping
      | deleteStarted other rest =>
          rw [rest.listenerIdle] at busy
          cases busy
      | reminded other erasing =>
          exact .wrapping allows (wrapping.congr rfl
            (.inl (AgreeOn.refl _ _ _)) rfl rfl)
      | restarted other erasing reminder =>
          cases admissible with
          | eraseDone published =>
              rw [published] at sound
              have different : other ≠ item := by
                rintro rfl
                exact notReminded rfl reminder
              have spares :=
                @spares_beginErase item other before different noReminder
              exact kept_finished allows wrapping sound spares.sameStore
                spares.notCondemned
      | deleted other erasing quiet parameters =>
          have keep := wrapping.keep
          rw [parameters] at keep
          cases keep
      | wrapped other erasing quiet keep page =>
          cases admissible with
          | eraseDone published =>
              rw [published] at sound
              refine kept_finished allows wrapping sound
                ⟨rfl, AgreeOn.refl _ _ _⟩ ?_
              rintro page _ ⟨stillErasing, _⟩
              cases stillErasing

/-- The end of a page of an erase that is no delete of the store. -/
theorem Kept.endOfPage
    (kept : Kept allowed item before)
    (sound : Sound before dones)
    (pending : before.flash.processNextPage ≠ none) :
    Kept allowed item (endOfPage before).1 := by
  cases kept with
  | holds allows holds spared =>
      have spares := spares_endOfPage sound pending spared
      exact .holds allows (holds.congr spares.sameStore)
        spares.notCondemned
  | wrapping allows wrapping =>
      obtain ⟨_, ⟨page, erases⟩, _⟩ := sound.endOfPage pending
      obtain ⟨_, lower, upper⟩ := erases.condemned
      rw [wrapping.page] at lower
      rw [wrapping.page, wrapping.single] at upper
      refine .wrapping allows (wrapping.congr ?_ (.inr ?_)
        erases.listenerState erases.eraseParameters)
      · rw [erases.itemStore]
      · rw [erases.memory]
        congr 1
        omega

/-- Only the message of a delete becomes the reminder. -/
theorem reminder_dispatched
    (sound : Sound before dones)
    (dispatched : Dispatched before request handled)
    (reminder : handled.state.eraseReminder = eraseOf item) :
    before.eraseReminder = eraseOf item ∨
      request = .erase (eraseOf item) := by
  cases dispatched with
  | @added other data rest storeIdle after ok result =>
      obtain ⟨settled, _⟩ := addItem_settled (sound.placed other) rest result
      obtain ⟨effects, extended⟩ := settled.extended
      refine .inl (extended.eraseReminder.symm.trans ?_)
      cases ok <;> exact reminder
  | enumerated other enumerator rest storeIdle =>
      have same := sameContent_beginEnumerate before other enumerator
      exact .inl (same.eraseReminder.symm.trans reminder)
  | ignored _ _ => exact .inl reminder
  | deleteStarted other rest => exact .inl reminder
  | reminded other erasing =>
      exact .inr (congrArg Request.erase reminder)
  | restarted other erasing remembered =>
      have quiet := @hasReminder_eraseOf item
      rw [← show noReminder = eraseOf item from reminder] at quiet
      cases quiet
  | deleted other erasing quiet parameters => exact .inl reminder
  | wrapped other erasing quiet keep page => exact .inl reminder

/-- Only an executed add changes the counters of a store. -/
theorem counters_dispatched
    (sound : Sound before dones)
    (dispatched : Dispatched before request handled)
    (notAdded : AddsNothing item before request) :
    (handled.state.itemStore item).nrOfFullPages =
        (before.itemStore item).nrOfFullPages ∧
      (handled.state.itemStore item).currentPageNrOfItems =
        (before.itemStore item).currentPageNrOfItems := by
  cases dispatched with
  | @added other data rest storeIdle after ok result =>
      have different : other ≠ item := by
        rintro rfl
        exact notAdded data rfl rest.listenerIdle storeIdle
      obtain ⟨settled, _⟩ := addItem_settled (sound.placed other) rest result
      obtain ⟨effects, extended⟩ := settled.extended
      have info := extended.others item different.symm
      cases ok with
      | true => exact ⟨by rw [← info]; rfl, by rw [← info]; rfl⟩
      | false => exact ⟨by rw [← info]; rfl, by rw [← info]; rfl⟩
  | enumerated other enumerator rest storeIdle =>
      obtain ⟨_, _, _, info⟩ :=
        (sameContent_beginEnumerate before other enumerator).info item
      rw [info]
      exact ⟨rfl, rfl⟩
  | ignored _ _ => exact ⟨rfl, rfl⟩
  | deleteStarted other rest => exact ⟨rfl, rfl⟩
  | reminded other erasing => exact ⟨rfl, rfl⟩
  | restarted other erasing reminder => exact ⟨rfl, rfl⟩
  | deleted other erasing quiet parameters =>
      by_cases same : item = other
      · rw [same, reinitialised, modifyInfo_same]
        exact ⟨rfl, rfl⟩
      · rw [reinitialised, modifyInfo_other _ _ same]
        exact ⟨rfl, rfl⟩
  | wrapped other erasing quiet keep page => exact ⟨rfl, rfl⟩

end Stores

/-- A store describes a log unless a delete of it is pending. -/
def Described
    (allowed : StoreLog → Nat → Prop) (item : ItemDef)
    (state : QueueState) : Prop :=
  Pending item state ∨ Kept allowed item state.store

/-- The invariant of the deletes, also while stores are enumerated. -/
structure DeletesSound (state : QueueState) : Prop where
  queueSound : QueueSound state
  sized : ∀ item data, .addItem item data ∈ state.queue →
    data.length = (geometry item).itemSize
  cleared : ∀ item, Pending item state →
    CountersZero (state.store.itemStore item)
  /-- The reminder does not take the end of a delete. -/
  reminder : hasReminder state.store.eraseReminder = true →
    state.store.eraseParameters.reinit = true →
    state.store.eraseParameters = state.store.eraseReminder

/-- The invariant of runs in which deletes and adds do not interfere. -/
structure WritesSound (state : QueueState) : Prop
    extends DeletesSound state where
  storesIdle : ∀ item, (state.store.itemStore item).currentState = .idle
  noEnumeration : ∀ item enumerator,
    .beginEnumerate item enumerator ∉ state.queue
  kept : ∀ item, Described (fun _ _ => True) item state

section Dispatch

variable {allowed : StoreLog → Nat → Prop}
variable {item : ItemDef}
variable {state : QueueState}
variable {request : Request}
variable {rest : List Request}
variable {handled : Handled}

/-- A delete is pending after a message only if it was before. -/
theorem pending_of_dispatched
    (sound : DeletesSound state)
    (first : state.queue = request :: rest)
    (dispatched : Dispatched state.store request handled)
    (pending : Pending item { store := handled.state, queue := rest }) :
    Pending item state := by
  have stores := sound.queueSound.sound
  cases pending with
  | queued member =>
      refine .queued ?_
      rw [first]
      exact List.mem_cons_of_mem _ member
  | reminded reminder =>
      rcases reminder_dispatched stores dispatched reminder with
        before | now
      · exact .reminded before
      · refine .queued ?_
        rw [first, now]
        exact List.mem_cons_self ..
  | running erasing parameters =>
      simp only at erasing parameters
      cases dispatched with
      | @added other data rest storeIdle after ok result =>
          obtain ⟨settled, _⟩ :=
            addItem_settled (stores.placed other) rest result
          have erasing' : after.listenerState = .erasing := by
            cases ok <;> exact erasing
          have parameters' : after.eraseParameters = eraseOf item := by
            cases ok <;> exact parameters
          rcases settled.phase with still | wrap
          · rw [still.listenerIdle] at erasing'
            cases erasing'
          · have keep := wrap.keep
            rw [parameters'] at keep
            cases keep
      | enumerated other enumerator rest storeIdle =>
          have same :=
            sameContent_beginEnumerate state.store other enumerator
          exact .running (same.listenerState.symm.trans erasing)
            (same.eraseParameters.symm.trans parameters)
      | ignored _ _ => exact .running erasing parameters
      | deleteStarted other rest =>
          refine .queued ?_
          rw [first, ← show eraseOf other = eraseOf item from parameters]
          exact List.mem_cons_self ..
      | reminded other busy => exact .running busy parameters
      | restarted other busy remembered =>
          exact .reminded (remembered.trans parameters)
      | deleted other busy quiet finished => cases erasing
      | wrapped other busy quiet keep page => cases erasing

/-- The dispatch of a delete starts it or leaves it in the reminder. -/
theorem pending_of_erase
    (dispatched : Dispatched state.store request handled)
    (erase : request = .erase (eraseOf item)) :
    Pending item { store := handled.state, queue := rest } := by
  cases dispatched with
  | added => cases erase
  | enumerated => cases erase
  | ignored _ addOrEnumerate =>
      rw [erase] at addOrEnumerate
      rcases addOrEnumerate with ⟨_, _, same⟩ | ⟨_, _, same⟩ <;> cases same
  | deleteStarted other _ => exact .running rfl (Request.erase.inj erase)
  | reminded other _ => exact .reminded (Request.erase.inj erase)
  | restarted => cases erase
  | deleted => cases erase
  | wrapped => cases erase

/-- The end of an erase starts the delete in the reminder. -/
theorem pending_of_reminder
    (dispatched : Dispatched state.store request handled)
    (done : request = .eraseDone)
    (reminded : state.store.eraseReminder = eraseOf item) :
    Pending item { store := handled.state, queue := rest } := by
  cases dispatched with
  | added => cases done
  | enumerated => cases done
  | ignored _ addOrEnumerate =>
      rw [done] at addOrEnumerate
      rcases addOrEnumerate with ⟨_, _, same⟩ | ⟨_, _, same⟩ <;> cases same
  | deleteStarted => cases done
  | reminded => cases done
  | restarted other erasing reminder =>
      exact .running rfl (reminder.symm.trans reminded)
  | deleted other erasing quiet _ =>
      rw [reminded, hasReminder_eraseOf] at quiet
      cases quiet
  | wrapped other erasing quiet _ _ =>
      rw [reminded, hasReminder_eraseOf] at quiet
      cases quiet

/-- The pages of a finished delete. -/
theorem erased_of_finished
    (sound : Sound state.store 1)
    (parameters : state.store.eraseParameters = eraseOf item) :
    ∀ page, InStore item page →
      PageErased state.store.flash.memory page := by
  obtain ⟨_, _, _, erased⟩ := sound.phase.finished
  intro page inStore
  rw [ErasedUpTo, parameters] at erased
  exact erased page inStore.1 inStore.2

/-- A pending delete stays pending until it is finished. -/
theorem DeletesSound.keepsPending
    (sound : DeletesSound state)
    (reminders : RemindersKept state)
    (first : state.queue = request :: rest)
    (dispatched : Dispatched state.store request handled)
    (pending : Pending item state)
    (empty : allowed StoreLog.empty 0) :
    Described allowed item { store := handled.state, queue := rest } := by
  have stores := sound.queueSound.sound
  have admissible := sound.queueSound.admissible first
  have zero := sound.cleared item pending
  cases pending with
  | queued member =>
      rw [first] at member
      rcases List.mem_cons.mp member with now | later
      · exact .inl (pending_of_erase dispatched now.symm)
      · exact .inl (.queued later)
  | reminded reminder =>
      have remembered : hasReminder state.store.eraseReminder = true := by
        rw [reminder, hasReminder_eraseOf]
      have busy : state.store.listenerState = .erasing := by
        cases listens : state.store.listenerState with
        | erasing => rfl
        | idle =>
            obtain ⟨_, _, quiet⟩ := stores.phase.atRest listens
            rw [remembered] at quiet
            cases quiet
      cases dispatched with
      | added _ _ atRest =>
          rw [atRest.listenerIdle] at busy
          cases busy
      | enumerated _ _ atRest =>
          rw [atRest.listenerIdle] at busy
          cases busy
      | ignored => exact .inl (.reminded reminder)
      | deleteStarted _ atRest =>
          rw [atRest.listenerIdle] at busy
          cases busy
      | reminded other erasing =>
          have same :=
            (reminders other rest first erasing).2 remembered
          exact .inl (.reminded (same.symm.trans reminder))
      | restarted other erasing again =>
          exact .inl (.running rfl (again.symm.trans reminder))
      | deleted other erasing quiet _ =>
          rw [remembered] at quiet
          cases quiet
      | wrapped other erasing quiet _ _ =>
          rw [remembered] at quiet
          cases quiet
  | running erasing parameters =>
      cases dispatched with
      | added _ _ atRest =>
          rw [atRest.listenerIdle] at erasing
          cases erasing
      | enumerated _ _ atRest =>
          rw [atRest.listenerIdle] at erasing
          cases erasing
      | ignored => exact .inl (.running erasing parameters)
      | deleteStarted _ atRest =>
          rw [atRest.listenerIdle] at erasing
          cases erasing
      | reminded other busy => exact .inl (.running erasing parameters)
      | restarted other busy again =>
          have remembered : hasReminder state.store.eraseReminder = true := by
            rw [again, hasReminder_eraseOf]
          have same := sound.reminder remembered
            (by rw [parameters, eraseOf])
          exact .inl (.running rfl
            (again.symm.trans (same.symm.trans parameters)))
      | deleted other busy quiet finished =>
          have same : other = item :=
            eraseOf_injective (finished.symm.trans parameters)
          cases admissible with
          | eraseDone published =>
              rw [published] at stores
              have erased := erased_of_finished stores parameters
              rw [same]
              refine .inr (.holds empty (holds_reinitialised
                (stores.placed item).static zero.nrOfFullPages
                zero.currentPageNrOfItems erased) ?_)
              rintro page _ ⟨stillErasing, _⟩
              cases stillErasing
      | wrapped other busy quiet keep _ =>
          rw [parameters] at keep
          cases keep

/-- A store after the dispatch of a message that does not add to it. -/
theorem DeletesSound.keepsStore
    (sound : DeletesSound state)
    (reminders : RemindersKept state)
    (first : state.queue = request :: rest)
    (dispatched : Dispatched state.store request handled)
    (notAdded : AddsNothing item state.store request)
    (described : Described allowed item state)
    (empty : Pending item state → allowed StoreLog.empty 0) :
    Described allowed item { store := handled.state, queue := rest } := by
  rcases described with pending | kept
  · exact sound.keepsPending reminders first dispatched pending
      (empty pending)
  by_cases deletes : request = .erase (eraseOf item)
  · exact .inl (pending_of_erase dispatched deletes)
  by_cases restarts : request = .eraseDone ∧
      state.store.eraseReminder = eraseOf item
  · exact .inl (pending_of_reminder dispatched restarts.1 restarts.2)
  · exact .inr (kept.dispatched sound.queueSound.sound
      (sound.queueSound.admissible first) dispatched notAdded deletes
      (fun done reminded => restarts ⟨done, reminded⟩))

/-- No add to a store is executed while its delete is pending. -/
theorem DeletesSound.pending_addsNothing
    (sound : DeletesSound state)
    (notBefore : ∀ data, request = .addItem item data →
      state.store.listenerState = .idle →
      (state.store.itemStore item).currentState = .idle →
      .erase (eraseOf item) ∉ rest)
    (first : state.queue = request :: rest)
    (pending : Pending item state) :
    AddsNothing item state.store request := by
  rintro data rfl listens storeIdle
  cases pending with
  | queued member =>
      rw [first] at member
      rcases List.mem_cons.mp member with now | later
      · cases now
      · exact notBefore data rfl listens storeIdle later
  | reminded reminder =>
      obtain ⟨_, _, quiet⟩ :=
        sound.queueSound.sound.phase.atRest listens
      rw [reminder, hasReminder_eraseOf] at quiet
      cases quiet
  | running erasing _ =>
      rw [listens] at erasing
      cases erasing

theorem WritesSound.pending_addsNothing
    (sound : WritesSound state)
    (proper : Proper state .dispatch)
    (first : state.queue = request :: rest)
    (pending : Pending item state) :
    AddsNothing item state.store request := by
  refine sound.toDeletesSound.pending_addsNothing ?_ first pending
  rintro data rfl listens _
  exact proper.adds rfl item data rest first listens

/-- An add is executed by a store that describes a log. -/
theorem DeletesSound.added
    (sound : DeletesSound state)
    {data : List Byte}
    (first : state.queue = .addItem item data :: rest)
    (listens : state.store.listenerState = .idle)
    (kept : Kept allowed item state.store) :
    ∃ log stale after,
      allowed log stale ∧
        addItem state.store item data = .ok (after, true) ∧
        Added item (log.add (geometry item) data) state.store after := by
  obtain ⟨_, atRest, quiet⟩ := sound.queueSound.sound.phase.atRest listens
  have size := sound.sized item data
    (by rw [first]; exact List.mem_cons_self ..)
  cases kept with
  | holds allows holds _ =>
      obtain ⟨after, added, leads⟩ := holds.addItem atRest quiet size
      exact ⟨_, _, after, allows, added, leads⟩
  | wrapping _ wrapping =>
      have busy := wrapping.erasing
      rw [listens] at busy
      cases busy

/-- An executed add leads to a log again. -/
theorem WritesSound.added
    (sound : WritesSound state)
    (proper : Proper state .dispatch)
    {data : List Byte}
    (first : state.queue = .addItem item data :: rest)
    (listens : state.store.listenerState = .idle) :
    ∃ log after,
      addItem state.store item data = .ok (after, true) ∧
        Added item log state.store after := by
  rcases sound.kept item with pending | kept
  · exact (sound.pending_addsNothing proper first pending data rfl listens
      (sound.storesIdle item)).elim
  · obtain ⟨log, _, after, _, added, leads⟩ :=
      sound.toDeletesSound.added first listens kept
    exact ⟨_, after, added, leads⟩

/-- A message that adds to the store is an add that is executed. -/
theorem adds_of_not_addsNothing
    {store : ItemStoreState}
    (executed : ¬ AddsNothing item store request) :
    ∃ data, request = .addItem item data ∧
      store.listenerState = .idle ∧
      (store.itemStore item).currentState = .idle := by
  unfold AddsNothing at executed
  simp only [not_forall, not_not] at executed
  obtain ⟨data, add, listens, storeIdle⟩ := executed
  exact ⟨data, add, listens, storeIdle⟩

/-- What an executed add hands back. -/
theorem handled_of_added
    {data : List Byte}
    {after : ItemStoreState}
    (dispatched :
      Dispatched state.store (.addItem item data) handled)
    (listens : state.store.listenerState = .idle)
    (storeIdle : (state.store.itemStore item).currentState = .idle)
    (added : addItem state.store item data = .ok (after, true)) :
    handled.state = after := by
  cases dispatched with
  | added _ _ _ _ result =>
      rw [added] at result
      cases result
      rfl
  | ignored busy _ =>
      rcases busy with erasing | enumerating
      · rw [listens] at erasing
        cases erasing
      · rw [Request.item, storeIdle] at enumerating
        cases enumerating

/-- What the store of an executed add is kept as. -/
theorem kept_of_added
    {log : StoreLog}
    {before after : ItemStoreState}
    (added : Added item log before after)
    (allows : ∀ stale,
      (log.opened = true ∨ stale = (geometry item).capacity) →
      allowed log stale) :
    Kept allowed item after := by
  rcases added.leads with ⟨atRest, stale, leftOver, holds⟩ | wrapping
  · exact .holds (allows _ leftOver) holds
      (fun page _ => atRest.notCondemned page)
  · exact .wrapping (allows _ (.inr rfl)) wrapping

/-- The reminder still does not take the end of a delete. -/
theorem DeletesSound.keepsReminder
    (sound : DeletesSound state)
    (reminders : RemindersKept state)
    (first : state.queue = request :: rest)
    (dispatched : Dispatched state.store request handled)
    (remembered : hasReminder handled.state.eraseReminder = true)
    (deletes : handled.state.eraseParameters.reinit = true) :
    handled.state.eraseParameters = handled.state.eraseReminder := by
  have stores := sound.queueSound.sound
  have quietly (atRest : AtRest state.store)
      (again : hasReminder state.store.eraseReminder = true) : False := by
    obtain ⟨_, _, quiet⟩ := stores.phase.atRest atRest.listenerIdle
    rw [again] at quiet
    cases quiet
  cases dispatched with
  | @added other data atRest storeIdle after ok result =>
      obtain ⟨settled, _⟩ :=
        addItem_settled (stores.placed other) atRest result
      obtain ⟨effects, extended⟩ := settled.extended
      refine (quietly atRest ?_).elim
      rw [← extended.eraseReminder, ← remembered]
      cases ok <;> rfl
  | enumerated other enumerator atRest _ =>
      have same := sameContent_beginEnumerate state.store other enumerator
      refine (quietly atRest ?_).elim
      rw [← same.eraseReminder, ← remembered]
  | ignored => exact sound.reminder remembered deletes
  | deleteStarted _ atRest => exact (quietly atRest remembered).elim
  | reminded other erasing =>
      exact (reminders other rest first erasing).1 deletes
  | restarted other _ _ =>
      rw [beginErase, hasReminder_noReminder] at remembered
      cases remembered
  | deleted other _ quiet _ =>
      have again : hasReminder state.store.eraseReminder = true :=
        remembered
      rw [again] at quiet
      cases quiet
  | wrapped other _ quiet _ _ =>
      have again : hasReminder state.store.eraseReminder = true :=
        remembered
      rw [again] at quiet
      cases quiet

/-- The dispatch of a message keeps the deletes in order. -/
theorem DeletesSound.dispatch
    (sound : DeletesSound state)
    (reminders : RemindersKept state)
    (first : state.queue = request :: rest)
    (result : listener state.store request = .ok handled)
    (notAdded : ∀ item, Pending item state →
      AddsNothing item state.store request) :
    DeletesSound { store := handled.state, queue := rest } := by
  have dispatched := sound.queueSound.sound.dispatched
    (sound.queueSound.admissible first) result
  refine
    { queueSound := sound.queueSound.dispatch first result
      sized := ?_
      cleared := ?_
      reminder := sound.keepsReminder reminders first dispatched }
  · intro item data member
    apply sound.sized item data
    rw [first]
    exact List.mem_cons_of_mem _ member
  · intro item pending
    have before := pending_of_dispatched sound first dispatched pending
    have zero := sound.cleared item before
    obtain ⟨fullPages, items⟩ := counters_dispatched
      sound.queueSound.sound dispatched (notAdded item before)
    exact ⟨fullPages.trans zero.nrOfFullPages,
      items.trans zero.currentPageNrOfItems⟩

/-- The dispatch of a message keeps the invariant. -/
theorem WritesSound.dispatch
    (sound : WritesSound state)
    (proper : Proper state .dispatch)
    (first : state.queue = request :: rest)
    (result : listener state.store request = .ok handled) :
    WritesSound { store := handled.state, queue := rest } := by
  have dispatched := sound.queueSound.sound.dispatched
    (sound.queueSound.admissible first) result
  have noBegin : ∀ other enumerator,
      request ≠ .beginEnumerate other enumerator := by
    rintro other enumerator rfl
    apply sound.noEnumeration other enumerator
    rw [first]
    exact List.mem_cons_self ..
  refine
    { sound.toDeletesSound.dispatch proper.remindersKept first result
        (fun item => sound.pending_addsNothing proper first) with
      storesIdle := ?_
      noEnumeration := ?_
      kept := ?_ }
  · intro item
    rw [(sound.queueSound.sound.keepsClients dispatched item).2 noBegin]
    exact sound.storesIdle item
  · intro item enumerator member
    apply sound.noEnumeration item enumerator
    rw [first]
    exact List.mem_cons_of_mem _ member
  · intro item
    by_cases notAdded : AddsNothing item state.store request
    · exact sound.keepsStore proper.remindersKept first dispatched notAdded
        (sound.kept item) fun _ => trivial
    · obtain ⟨data, rfl, listens, storeIdle⟩ :=
        adds_of_not_addsNothing notAdded
      obtain ⟨log, after, added, leads⟩ :=
        sound.added proper first listens
      rw [handled_of_added dispatched listens storeIdle added]
      exact .inr (kept_of_added leads fun _ _ => trivial)

end Dispatch

section Steps

variable {allowed : StoreLog → Nat → Prop}
variable {state next : QueueState}
variable {event : ItemStore.QueueEvent}
variable {item : ItemDef}

/-- A delete of a store becomes pending by its message only. -/
theorem pending_published
    {store : ItemStoreState}
    {request : Request}
    (reminder : store.eraseReminder = state.store.eraseReminder)
    (listenerState : store.listenerState = state.store.listenerState)
    (parameters : store.eraseParameters = state.store.eraseParameters)
    (pending :
      Pending item { store := store, queue := state.queue ++ [request] }) :
    Pending item state ∨ request = .erase (eraseOf item) := by
  cases pending with
  | queued member =>
      rcases List.mem_append.mp member with earlier | last
      · exact .inl (.queued earlier)
      · exact .inr (List.mem_singleton.mp last).symm
  | reminded again => exact .inl (.reminded (reminder.symm.trans again))
  | running erasing again =>
      exact .inl (.running (listenerState.symm.trans erasing)
        (parameters.symm.trans again))

/-- A pending delete stays pending when messages are published. -/
theorem Pending.published
    (pending : Pending item state)
    {store : ItemStoreState}
    {messages : List Request}
    (reminder : store.eraseReminder = state.store.eraseReminder)
    (listenerState : store.listenerState = state.store.listenerState)
    (parameters : store.eraseParameters = state.store.eraseParameters) :
    Pending item
      { store := store, queue := state.queue ++ messages } := by
  cases pending with
  | queued member => exact .queued (List.mem_append_left _ member)
  | reminded again => exact .reminded (reminder.trans again)
  | running erasing again =>
      exact .running (listenerState.trans erasing) (parameters.trans again)

/-- Clearing the counters of a store does not touch the other one. -/
theorem sameStore_countersCleared
    {other : ItemDef}
    (different : item ≠ other)
    (store : ItemStoreState) :
    SameStore item store (countersCleared other store) := by
  refine ⟨?_, AgreeOn.refl _ _ _⟩
  rw [countersCleared, modifyInfo_other _ _ different]

/-- A message is published, and enumerations may go on. -/
theorem Described.publish
    (described : Described allowed item state)
    {store : ItemStoreState}
    (same : SameContent state.store store)
    (messages : List Request) :
    Described allowed item
      { store := store, queue := state.queue ++ messages } := by
  rcases described with pending | kept
  · exact .inl (pending.published same.eraseReminder same.listenerState
      same.eraseParameters)
  · exact .inr (kept.sameContent same)

/-- A delete of this or of the other store is requested. -/
theorem Described.deleteAllItems
    (described : Described allowed item state)
    (other : ItemDef) :
    Described allowed item
      { store := countersCleared other state.store
        queue := state.queue ++ [.erase (eraseOf other)] } := by
  by_cases same : item = other
  · rw [same]
    exact .inl (.queued
      (List.mem_append_right _ (List.mem_singleton_self _)))
  · rcases described with pending | kept
    · exact .inl (pending.published rfl rfl rfl)
    · exact .inr (kept.congr (sameStore_countersCleared same _) rfl rfl)

/-- Enumerations make no delete pending. -/
theorem Pending.of_sameContent
    {store : ItemStoreState}
    (pending : Pending item { state with store := store })
    (same : SameContent state.store store) :
    Pending item state := by
  cases pending with
  | queued member => exact .queued member
  | reminded reminder =>
      exact .reminded (same.eraseReminder.symm.trans reminder)
  | running erasing parameters =>
      exact .running (same.listenerState.symm.trans erasing)
        (same.eraseParameters.symm.trans parameters)

/-- Enumerations change nothing that concerns deletes. -/
theorem DeletesSound.sameContent
    (sound : DeletesSound state)
    {store : ItemStoreState}
    (same : SameContent state.store store) :
    DeletesSound { state with store := store } where
  queueSound :=
    ⟨same.sound sound.queueSound.sound, sound.queueSound.publishable⟩
  sized := sound.sized
  cleared := by
    intro item pending
    obtain ⟨_, _, _, info⟩ := same.info item
    have zero := sound.cleared item (pending.of_sameContent same)
    rw [info]
    exact ⟨zero.nrOfFullPages, zero.currentPageNrOfItems⟩
  reminder := by
    rw [same.eraseReminder, same.eraseParameters]
    exact sound.reminder

/-- A message other than a delete is published. -/
theorem DeletesSound.publish
    (sound : DeletesSound state)
    (request : Request)
    (publishable : Publishable request)
    (notDone : request ≠ .eraseDone)
    (notDelete : ∀ item, request ≠ .erase (eraseOf item))
    (sized : ∀ item data, request = .addItem item data →
      data.length = (geometry item).itemSize) :
    DeletesSound { state with queue := state.queue ++ [request] } where
  queueSound :=
    sound.queueSound.publish sound.queueSound.sound publishable notDone
  sized := by
    intro item data member
    rcases List.mem_append.mp member with earlier | last
    · exact sound.sized item data earlier
    · exact sized item data (List.mem_singleton.mp last).symm
  cleared := by
    intro item pending
    rcases pending_published rfl rfl rfl pending with earlier | last
    · exact sound.cleared item earlier
    · exact (notDelete item last).elim
  reminder := sound.reminder

/-- `ItemStore_AddItem` -/
theorem WritesSound.addItem
    (sound : WritesSound state)
    (item : ItemDef)
    (data : ItemCounters.ItemBytes item) :
    WritesSound
      { state with queue := state.queue ++ [.addItem item data.val] } :=
  { sound.toDeletesSound.publish (.addItem item data.val) trivial
      (by rintro ⟨⟩) (by rintro _ ⟨⟩)
      (by
        rintro other bytes ⟨⟩
        exact data.property) with
    storesIdle := sound.storesIdle
    noEnumeration := by
      intro other enumerator member
      simp only [List.mem_append, List.mem_singleton, reduceCtorEq,
        or_false] at member
      exact sound.noEnumeration other enumerator member
    kept := fun other => (sound.kept other).publish (.refl _) _ }

/-- The message of `ItemStore_DeleteAllItems`. -/
theorem DeletesSound.deleteAllItems
    (sound : DeletesSound state)
    (item : ItemDef) :
    DeletesSound
      { store := countersCleared item state.store
        queue := state.queue ++ [.erase (eraseOf item)] } where
  queueSound := sound.queueSound.deleteAllItems item
  sized := by
    intro other bytes member
    simp only [List.mem_append, List.mem_singleton, reduceCtorEq,
      or_false] at member
    exact sound.sized other bytes member
  cleared := by
    intro other pending
    by_cases same : other = item
    · rw [same, countersCleared, modifyInfo_same]
      exact ⟨rfl, rfl⟩
    · rw [countersCleared, modifyInfo_other _ _ same]
      rcases @pending_published state other (countersCleared item state.store)
          _ rfl rfl rfl pending with earlier | last
      · exact sound.cleared other earlier
      · exact (same (eraseOf_injective (Request.erase.inj last)).symm).elim
  reminder := sound.reminder

/-- `ItemStore_DeleteAllItems` -/
theorem WritesSound.deleteAllItems
    (sound : WritesSound state)
    (item : ItemDef) :
    WritesSound
      { store := countersCleared item state.store
        queue := state.queue ++ [.erase (eraseOf item)] } :=
  { sound.toDeletesSound.deleteAllItems item with
    storesIdle := by
      intro other
      by_cases same : other = item
      · rw [same, countersCleared, modifyInfo_same]
        exact sound.storesIdle item
      · rw [countersCleared, modifyInfo_other _ _ same]
        exact sound.storesIdle other
    noEnumeration := by
      intro other enumerator member
      simp only [List.mem_append, List.mem_singleton, reduceCtorEq,
        or_false] at member
      exact sound.noEnumeration other enumerator member
    kept := fun other => (sound.kept other).deleteAllItems item }

/-- The queue after the end of a page. -/
theorem queue_endOfPage
    (queue : List Request)
    (published : Bool) :
    (if published then queue ++ [.eraseDone] else queue) =
      queue ++ if published then [Request.eraseDone] else [] := by
  cases published with
  | false => exact (List.append_nil _).symm
  | true => rfl

/-- The end of a page makes no delete pending. -/
theorem pending_of_endOfPage
    {page : Nat}
    {after : ItemStoreState}
    (erases : ErasesPage page state.store after)
    {published : Bool}
    (pending :
      Pending item
        { store := after
          queue :=
            state.queue ++ if published then [.eraseDone] else [] }) :
    Pending item state := by
  cases pending with
  | queued queued =>
      rcases List.mem_append.mp queued with earlier | last
      · exact .queued earlier
      · cases published with
        | false => cases last
        | true => cases List.mem_singleton.mp last
  | reminded again =>
      exact .reminded (erases.eraseReminder.symm.trans again)
  | running erasing again =>
      exact .running (erases.listenerState.symm.trans erasing)
        (erases.eraseParameters.symm.trans again)

/-- A message in the queue after the end of a page. -/
theorem mem_queue_endOfPage
    {request : Request}
    {published : Bool}
    (queued : request ∈ state.queue ++
      if published then [Request.eraseDone] else []) :
    request ∈ state.queue ∨ request = .eraseDone := by
  rcases List.mem_append.mp queued with earlier | last
  · exact .inl earlier
  · cases published with
    | false => cases last
    | true => exact .inr (List.mem_singleton.mp last)

/-- The end of a page of an erase that may be a delete of the store. -/
theorem Described.endOfPage
    (described : Described allowed item state)
    (sound : QueueSound state)
    (pending : state.store.flash.processNextPage ≠ none) :
    Described allowed item
      { store := (ItemStore.endOfPage state.store).1
        queue :=
          if (ItemStore.endOfPage state.store).2 then
            state.queue ++ [.eraseDone]
          else
            state.queue } := by
  obtain ⟨_, ⟨page, erases⟩, _⟩ := sound.sound.endOfPage pending
  rcases described with waiting | kept
  · rw [queue_endOfPage]
    exact .inl (waiting.published erases.eraseReminder
      erases.listenerState erases.eraseParameters)
  · exact .inr (kept.endOfPage sound.sound pending)

/-- The end of a page of a running erase. -/
theorem DeletesSound.endOfPage
    (sound : DeletesSound state)
    (pending : state.store.flash.processNextPage ≠ none) :
    DeletesSound
      { store := (ItemStore.endOfPage state.store).1
        queue :=
          if (ItemStore.endOfPage state.store).2 then
            state.queue ++ [.eraseDone]
          else
            state.queue } := by
  have later := sound.queueSound.endOfPage pending
  obtain ⟨_, ⟨page, erases⟩, _⟩ :=
    sound.queueSound.sound.endOfPage pending
  generalize (ItemStore.endOfPage state.store).2 = published at later ⊢
  rw [queue_endOfPage] at later ⊢
  refine
    { queueSound := later
      sized := ?_
      cleared := ?_
      reminder := ?_ }
  · intro item data queued
    rcases mem_queue_endOfPage queued with earlier | done
    · exact sound.sized item data earlier
    · cases done
  · intro item pendingLater
    rw [erases.itemStore]
    exact sound.cleared item (pending_of_endOfPage erases pendingLater)
  · rw [erases.eraseReminder, erases.eraseParameters]
    exact sound.reminder

theorem WritesSound.endOfPage
    (sound : WritesSound state)
    (pending : state.store.flash.processNextPage ≠ none) :
    WritesSound
      { store := (ItemStore.endOfPage state.store).1
        queue :=
          if (ItemStore.endOfPage state.store).2 then
            state.queue ++ [.eraseDone]
          else
            state.queue } := by
  obtain ⟨_, ⟨page, erases⟩, _⟩ :=
    sound.queueSound.sound.endOfPage pending
  refine
    { sound.toDeletesSound.endOfPage pending with
      storesIdle := ?_
      noEnumeration := ?_
      kept := fun item => (sound.kept item).endOfPage sound.queueSound
        pending }
  · intro item
    rw [erases.itemStore]
    exact sound.storesIdle item
  · intro item enumerator queued
    rw [queue_endOfPage] at queued
    rcases mem_queue_endOfPage queued with earlier | done
    · exact sound.noEnumeration item enumerator earlier
    · cases done

/-- Every step under the condition keeps the invariant. -/
theorem WritesSound.step
    (sound : WritesSound state)
    (stepped : queueStep state event = .ok next)
    (writes : Writes event)
    (proper : Proper state event) :
    WritesSound next := by
  cases sound.queueSound.move stepped with
  | addItem item data => exact sound.addItem item data
  | deleteAllItems item => exact sound.deleteAllItems item
  | beginEnumerate => exact writes.elim
  | endEnumerate => exact writes.elim
  | getNext => exact writes.elim
  | noMessage empty => exact sound
  | dispatched first result => exact sound.dispatch proper first result
  | noPage none => exact sound
  | pageErased pending => exact sound.endOfPage pending

/-- No delete is pending for an item store at rest without messages. -/
theorem not_pending_of_atRest
    (queue : state.queue = [])
    (rest : AtRest state.store)
    (quiet : hasReminder state.store.eraseReminder = false) :
    ¬ Pending item state := by
  intro pending
  cases pending with
  | queued member =>
      rw [queue] at member
      cases member
  | reminded reminder =>
      rw [reminder, hasReminder_eraseOf] at quiet
      cases quiet
  | running erasing _ =>
      rw [rest.listenerIdle] at erasing
      cases erasing

/-- The deletes of a booted item store. -/
theorem deletesSound_start
    (starts : queueSystem.start state) :
    DeletesSound state := by
  obtain ⟨booted, queue⟩ := starts
  obtain ⟨⟨_, _, _, _, tracks⟩, _⟩ := booted .systemConfig
  refine
    { queueSound := ⟨?_, ?_⟩
      sized := ?_
      cleared := ?_
      reminder := ?_ }
  · rw [queue]
    exact booted.sound
  · rw [queue]
    nofun
  · rw [queue]
    nofun
  · intro item pending
    exact (not_pending_of_atRest queue ⟨tracks.listenerIdle, tracks.idle⟩
      tracks.noReminder pending).elim
  · rw [tracks.noReminder]
    nofun

/-- A booted item store. -/
theorem writesSound_start
    (starts : queueSystem.start state) :
    WritesSound state := by
  have deletes := deletesSound_start starts
  obtain ⟨booted, queue⟩ := starts
  refine
    { deletes with
      storesIdle := fun item => (booted item).2
      noEnumeration := ?_
      kept := ?_ }
  · rw [queue]
    nofun
  · intro item
    obtain ⟨⟨log, stale, stale_le, regular, tracks⟩, _⟩ := booted item
    have atRest : AtRest state.store := ⟨tracks.listenerIdle, tracks.idle⟩
    exact .inr (.holds trivial (tracks.holds regular stale_le)
      (fun page _ => atRest.notCondemned page))

/-- The invariant holds in every run under the condition. -/
theorem writesSound_run
    {events : List ItemStore.QueueEvent}
    (run : Run (writerSystem.restrict Proper) events state) :
    WritesSound state := by
  refine run.invariant ?_ ?_
  · intro state starts
    exact writesSound_start starts
  · intro state event next sound moved
    exact sound.step moved.1.1 moved.1.2 moved.2

/-- The first add after a boot over erased flash. -/
theorem run_firstAdd
    (item : ItemDef)
    (data : ItemCounters.ItemBytes item) :
    ∃ store stale,
      Run (writerSystem.restrict Proper)
          [.addItem item data, .dispatch]
          { store := store, queue := [] } ∧
        AtRest store ∧
        Holds item (StoreLog.empty.openPage.writeSlot data.val) stale
          store := by
  obtain ⟨store, _, booted, atRest, quiet, empty⟩ := holds_erasedFlash
  obtain ⟨after, effects, stale, added, _, rest, holds⟩ :=
    addItem_empty (empty item) atRest quiet data.property
  have start : Run (writerSystem.restrict Proper) []
      { store := store, queue := [] } :=
    .start ⟨booted, rfl⟩
  have published : Run (writerSystem.restrict Proper) [.addItem item data]
      { store := store, queue := [.addItem item data.val] } :=
    .step start (.addItem item data) ⟨⟨rfl, trivial⟩, nofun, nofun⟩
  refine ⟨after, stale, .step published .dispatch ⟨⟨?_, trivial⟩, ?_, ?_⟩,
    rest, holds⟩
  · exact queueStep_added atRest.listenerIdle (booted item).2 added []
  · intro _ other bytes rest queue _ member
    cases queue
    cases member
  · intro _ other rest queue
    cases queue

end Steps

end DemoBoard.ItemStoreDeletes
