import DemoBoard.ItemStoreDeletes

namespace DemoBoard.DeletedStores

open ByteMemory ItemStore ItemStoreDeletes TransitionRuns

/-!
# Stores after a delete

A delete clears the counters of a store with the call, its pages with a message
and the erase that follows, and its tags with the end of the erase.  Nothing is
left of the store once the queue is empty, provided that no add was executed in
between; a store that is never deleted only changes with its own adds.
-/

/-- A delete of the store that no call of an add to the store follows. -/
def Cleared (item : ItemDef) (events : List ItemStore.QueueEvent) : Prop :=
  ∃ earlier later, events = earlier ++ .deleteAllItems item :: later ∧
    ∀ data, .addItem item data ∉ later

/-- A store without items and pages. -/
structure Emptied (item : ItemDef) (store : ItemStoreState) : Prop where
  pages : ∀ page, InStore item page → PageErased store.flash.memory page
  isEmpty : ItemStore.isEmpty store item = true
  oldestPage :
    (store.itemStore item).oldestPageInfo.pageId.toNat =
      (geometry item).firstPage
  oldestBlock : (store.itemStore item).oldestPageInfo.blockId = 0
  nextWritePage :
    (store.itemStore item).nextWritePageInfo.pageId.toNat =
      (geometry item).firstPage
  nextWriteBlock : (store.itemStore item).nextWritePageInfo.blockId = 0

/-- An add to the store is executed, or erases a page for the next one. -/
inductive OwnAdd
    (item : ItemDef) (state : QueueState) (event : ItemStore.QueueEvent) :
    Prop where
  | executed
      {data : List Byte}
      (executes : ExecutesAdd state event item data)
  | erased
      (ended : event = .endOfPage)
      (keep : state.store.eraseParameters.reinit = false)
      (single : state.store.eraseParameters.nrOfPages = 1)
      (page :
        state.store.eraseParameters.pageNumber =
          writePage state.store item)

section Histories

variable {item : ItemDef}
variable {events : List ItemStore.QueueEvent}
variable {event : ItemStore.QueueEvent}

/-- The last event decides whether a store is cleared. -/
theorem cleared_append
    (cleared : Cleared item (events ++ [event])) :
    event = .deleteAllItems item ∨
      Cleared item events ∧ ∀ data, event ≠ .addItem item data := by
  obtain ⟨earlier, later, same, noAdd⟩ := cleared
  rcases List.eq_nil_or_concat later with rfl | ⟨front, last, rfl⟩
  · exact .inl (List.append_inj_right' same rfl |> List.head_eq_of_cons_eq)
  · rw [List.concat_eq_append, ← List.cons_append, ← List.append_assoc]
      at same
    obtain ⟨events_eq, last_eq⟩ := List.append_inj' same rfl
    have lastEvent : event = last := List.head_eq_of_cons_eq last_eq
    refine .inr ⟨⟨earlier, front, events_eq, ?_⟩, ?_⟩
    · intro data member
      exact noAdd data (by simp [member])
    · rintro data rfl
      exact noAdd data (by simp [lastEvent])

end Histories

section Stores

variable {item : ItemDef}
variable {store : ItemStoreState}

/-- The empty log, without a count of items of the page before. -/
def IsEmptyLog (log : StoreLog) (stale : Nat) : Prop :=
  log = StoreLog.empty ∧ stale = 0

/-- A store that describes the empty log. -/
theorem emptied_of_holds
    (holds : Holds item StoreLog.empty 0 store) :
    Emptied item store where
  pages := by
    intro page inStore
    have header : headerOf item StoreLog.empty
        (page - (geometry item).firstPage) = PageHeader.erased := by
      cases page - (geometry item).firstPage with
      | zero => exact headerOf_notOpened item rfl
      | succ ordinal => exact headerOf_later item (Nat.succ_pos ordinal)
    have noItems : pageItems item StoreLog.empty
        (page - (geometry item).firstPage) = [] := by
      simp [pageItems, SegmentedLog.segment, StoreLog.empty]
    have held := holds.image (page - (geometry item).firstPage)
      (Nat.zero_le _) (by
        unfold InStore at inStore
        simp only [StoreLog.empty]
        omega)
    rw [inStore.pageOf, header, noItems] at held
    exact held.constantOn_page
  isEmpty := by
    rw [ItemStore.isEmpty, holds.info.nrOfFullPages_eq,
      holds.info.currentPageNrOfItems_eq]
    rfl
  oldestPage := by
    rw [holds.info.oldestPageInfo_eq, beginTagOf]
    exact (geometry item).toNat_pageOf 0
  oldestBlock := by
    rw [holds.info.oldestPageInfo_eq]
    rfl
  nextWritePage := by
    rw [holds.info.nextWritePageInfo_eq, beginTagOf]
    exact (geometry item).toNat_pageOf 0
  nextWriteBlock := by
    rw [holds.info.nextWritePageInfo_eq]
    rfl

end Stores

/-- Every queued add to the store has a delete behind it. -/
def AddsDeleted (item : ItemDef) (queue : List Request) : Prop :=
  ∀ front data rest, queue = front ++ .addItem item data :: rest →
    .erase (eraseOf item) ∈ rest

/-- What a cleared store still waits for. -/
structure Clearing (item : ItemDef) (state : QueueState) : Prop where
  adds : AddsDeleted item state.queue
  kept : Described IsEmptyLog item state

section Queues

variable {item : ItemDef}
variable {queue : List Request}
variable {request : Request}

/-- A message that is no add to the store is published. -/
theorem AddsDeleted.append
    (deleted : AddsDeleted item queue)
    (notAdd : ∀ data, request ≠ .addItem item data) :
    AddsDeleted item (queue ++ [request]) := by
  intro front data rest same
  rcases List.eq_nil_or_concat rest with rfl | ⟨before, last, rfl⟩
  · exact (notAdd data
      (List.head_eq_of_cons_eq (List.append_inj_right' same rfl))).elim
  · rw [List.concat_eq_append, ← List.cons_append, ← List.append_assoc]
      at same
    obtain ⟨queue_eq, _⟩ := List.append_inj' same rfl
    have member := deleted front data before queue_eq
    simp [member]

/-- The message of a delete is published. -/
theorem addsDeleted_append_erase
    (item : ItemDef)
    (queue : List Request) :
    AddsDeleted item (queue ++ [.erase (eraseOf item)]) := by
  intro front data rest same
  rcases List.eq_nil_or_concat rest with rfl | ⟨before, last, rfl⟩
  · cases List.append_inj_right' same rfl
  · rw [List.concat_eq_append, ← List.cons_append, ← List.append_assoc]
      at same
    obtain ⟨_, last_eq⟩ := List.append_inj' same rfl
    rw [List.concat_eq_append, ← List.head_eq_of_cons_eq last_eq]
    exact List.mem_append_right _ (List.mem_singleton_self _)

/-- The first message of the queue is dispatched. -/
theorem AddsDeleted.tail
    (deleted : AddsDeleted item (request :: queue)) :
    AddsDeleted item queue := by
  rintro front data rest rfl
  exact deleted (request :: front) data rest rfl

end Queues

section Steps

variable {item : ItemDef}
variable {state next : QueueState}
variable {event : ItemStore.QueueEvent}

/-- The dispatch of a message leaves the adds behind a delete alone. -/
theorem Clearing.dispatch
    (clearing : Clearing item state)
    (sound : WritesSound state)
    (proper : Proper state .dispatch)
    {request : Request}
    {rest : List Request}
    (first : state.queue = request :: rest)
    {handled : Handled}
    (result : listener state.store request = .ok handled) :
    Clearing item { store := handled.state, queue := rest } := by
  have dispatched := sound.queueSound.sound.dispatched
    (sound.queueSound.admissible first) result
  have adds := clearing.adds
  rw [first] at adds
  refine ⟨adds.tail, ?_⟩
  refine sound.keepsStore proper.remindersKept first dispatched ?_
    clearing.kept fun _ => ⟨rfl, rfl⟩
  rintro data rfl listens _
  exact proper.adds rfl item data rest first listens
    (adds [] data rest rfl)

/-- The end of a page of a running erase. -/
theorem Clearing.endOfPage
    (clearing : Clearing item state)
    (sound : WritesSound state)
    (pending : state.store.flash.processNextPage ≠ none) :
    Clearing item
      { store := (ItemStore.endOfPage state.store).1
        queue :=
          if (ItemStore.endOfPage state.store).2 then
            state.queue ++ [.eraseDone]
          else
            state.queue } := by
  refine ⟨?_, clearing.kept.endOfPage sound.queueSound pending⟩
  dsimp only
  split
  · exact clearing.adds.append nofun
  · exact clearing.adds

/-- A cleared store until a call of an add to it. -/
theorem Clearing.step
    (clearing : Clearing item state)
    (sound : WritesSound state)
    (stepped : queueStep state event = .ok next)
    (writes : Writes event)
    (proper : Proper state event)
    (notAdd : ∀ data, event ≠ .addItem item data) :
    Clearing item next := by
  cases sound.queueSound.move stepped with
  | addItem other data =>
      refine ⟨clearing.adds.append ?_, clearing.kept.publish (.refl _) _⟩
      rintro bytes ⟨⟩
      exact notAdd data rfl
  | deleteAllItems other =>
      exact ⟨clearing.adds.append (by rintro _ ⟨⟩),
        clearing.kept.deleteAllItems other⟩
  | beginEnumerate => exact writes.elim
  | endEnumerate => exact writes.elim
  | getNext => exact writes.elim
  | noMessage empty => exact clearing
  | dispatched first result =>
      exact clearing.dispatch sound proper first result
  | noPage none => exact clearing
  | pageErased pending => exact clearing.endOfPage sound pending

/-- A delete starts to clear its store. -/
theorem clearing_deleteAllItems
    (sound : WritesSound state)
    (stepped : queueStep state (.deleteAllItems item) = .ok next) :
    Clearing item next := by
  cases sound.queueSound.move stepped
  exact ⟨addsDeleted_append_erase item _,
    .inl (.queued (List.mem_append_right _ (List.mem_singleton_self _)))⟩

end Steps

/-- A store that is cleared in a run. -/
theorem clearing_run
    {item : ItemDef}
    {events : List ItemStore.QueueEvent}
    {state : QueueState}
    (run : Run (writerSystem.restrict Proper) events state)
    (cleared : Cleared item events) :
    Clearing item state := by
  induction run with
  | start starts =>
      obtain ⟨earlier, later, same, _⟩ := cleared
      simp at same
  | step run event moved inductionHypothesis =>
      have sound := writesSound_run run
      rcases cleared_append cleared with rfl | ⟨before, notAdd⟩
      · exact clearing_deleteAllItems sound moved.1.1
      · exact (inductionHypothesis before).step sound moved.1.1 moved.1.2
          moved.2 notAdd

section Ends

variable {item : ItemDef}
variable {state next : QueueState}
variable {event : ItemStore.QueueEvent}

/-- No delete is pending for an idle listener without messages. -/
theorem not_pending_of_idle
    (sound : WritesSound state)
    (empty : state.queue = [])
    (listens : state.store.listenerState = .idle) :
    ¬ Pending item state := by
  intro pending
  cases pending with
  | queued member =>
      rw [empty] at member
      cases member
  | reminded reminder =>
      obtain ⟨_, _, quiet⟩ := sound.queueSound.sound.phase.atRest listens
      rw [reminder, hasReminder_eraseOf] at quiet
      cases quiet
  | running erasing _ =>
      rw [listens] at erasing
      cases erasing

/-- A cleared store is empty once nothing is left to do. -/
theorem Clearing.emptied
    (clearing : Clearing item state)
    (sound : WritesSound state)
    (empty : state.queue = [])
    (listens : state.store.listenerState = .idle) :
    Emptied item state.store := by
  rcases clearing.kept with pending | kept
  · exact (not_pending_of_idle sound empty listens pending).elim
  · cases kept with
    | holds allows holds _ =>
        obtain ⟨rfl, rfl⟩ := allows
        exact emptied_of_holds holds
    | wrapping _ wrapping =>
        have busy := wrapping.erasing
        rw [listens] at busy
        cases busy

/-- Only a call of a delete makes a delete pending. -/
theorem pending_of_step
    (sound : WritesSound state)
    (stepped : queueStep state event = .ok next)
    (writes : Writes event)
    (pending : Pending item next) :
    Pending item state ∨ event = .deleteAllItems item := by
  cases sound.queueSound.move stepped with
  | addItem other data =>
      rcases pending_published rfl rfl rfl pending with earlier | last
      · exact .inl earlier
      · cases last
  | deleteAllItems other =>
      rcases @pending_published _ item (countersCleared other state.store)
          _ rfl rfl rfl pending with earlier | last
      · exact .inl earlier
      · rw [eraseOf_injective (Request.erase.inj last)]
        exact .inr rfl
  | beginEnumerate => exact writes.elim
  | endEnumerate => exact writes.elim
  | getNext => exact writes.elim
  | noMessage empty => exact .inl pending
  | dispatched first result =>
      exact .inl (pending_of_dispatched sound.toDeletesSound first
        (sound.queueSound.sound.dispatched
          (sound.queueSound.admissible first) result) pending)
  | noPage none => exact .inl pending
  | pageErased running =>
      obtain ⟨_, ⟨page, erases⟩, _⟩ :=
        sound.queueSound.sound.endOfPage running
      rw [queue_endOfPage] at pending
      exact .inl (pending_of_endOfPage erases pending)

/-- A store is left alone by every message but its own add. -/
theorem sameStore_dispatched
    (sound : WritesSound state)
    (notPending : ¬ Pending item state)
    {request : Request}
    {rest : List Request}
    (first : state.queue = request :: rest)
    {handled : Handled}
    (dispatched : Dispatched state.store request handled) :
    SameStore item state.store handled.state ∨
      OwnAdd item state .dispatch := by
  have untouched (store : ItemStoreState)
      (info : store.itemStore item = state.store.itemStore item)
      (memory : store.flash.memory = state.store.flash.memory) :
      SameStore item state.store store := by
    refine ⟨info, ?_⟩
    rw [memory]
    exact AgreeOn.refl _ _ _
  cases dispatched with
  | @added other data atRest storeIdle after ok result =>
      by_cases same : other = item
      · rw [← same]
        exact .inr (.executed
          ⟨rfl, ⟨rest, first⟩, atRest.listenerIdle, storeIdle⟩)
      · obtain ⟨settled, _⟩ := addItem_settled
          (sound.queueSound.sound.placed other) atRest result
        have spares := spares_added same settled
        cases ok with
        | true => exact .inl spares.sameStore
        | false =>
            exact .inl
              ⟨spares.sameStore.info, spares.sameStore.memory⟩
  | enumerated other enumerator _ _ =>
      refine (sound.noEnumeration other enumerator ?_).elim
      rw [first]
      exact List.mem_cons_self ..
  | ignored => exact .inl (untouched _ rfl rfl)
  | deleteStarted => exact .inl (untouched _ rfl rfl)
  | reminded => exact .inl (untouched _ rfl rfl)
  | restarted => exact .inl (untouched _ rfl rfl)
  | deleted other erasing quiet parameters =>
      have different : item ≠ other := by
        rintro rfl
        exact notPending (.running erasing parameters)
      refine .inl (untouched _ ?_ rfl)
      rw [reinitialised, modifyInfo_other _ _ different]
  | wrapped => exact .inl (untouched _ rfl rfl)

/-- A store is left alone by every erase but that of its own add. -/
theorem sameStore_endOfPage
    (sound : WritesSound state)
    (notPending : ¬ Pending item state)
    (running : state.store.flash.processNextPage ≠ none) :
    SameStore item state.store (ItemStore.endOfPage state.store).1 ∨
      OwnAdd item state .endOfPage := by
  have stores := sound.queueSound.sound
  obtain ⟨_, ⟨page, erases⟩, target, _⟩ :=
    stores.phase.endOfPage stores.placed running
  have spared {other : ItemDef}
      (different : other ≠ item)
      (inside : ∀ page, Condemned state.store page →
        InStore other page) :
      SameStore item state.store (ItemStore.endOfPage state.store).1 :=
    (spares_endOfPage stores running
      (notCondemned_of_inStore different inside)).sameStore
  cases target with
  | delete other parameters =>
      by_cases same : other = item
      · rw [same] at parameters
        exact (notPending
          (.running erases.condemned.1 parameters)).elim
      · refine .inl (spared same ?_)
        rintro page ⟨_, lower, upper⟩
        rw [parameters] at lower upper
        exact ⟨lower, upper⟩
  | wrap other keep single number =>
      by_cases same : other = item
      · rw [same] at number
        exact .inr (.erased rfl keep single number)
      · refine .inl (spared same ?_)
        rintro page ⟨_, lower, upper⟩
        rw [number] at lower
        rw [number, single] at upper
        rw [show page = writePage state.store other by omega]
        exact (stores.placed other).inStore

/-- A store without a pending delete changes with its own adds only. -/
theorem sameStore_of_step
    (sound : WritesSound state)
    (notPending : ¬ Pending item state)
    (stepped : queueStep state event = .ok next)
    (writes : Writes event)
    (notDeleted : event ≠ .deleteAllItems item) :
    SameStore item state.store next.store ∨ OwnAdd item state event := by
  cases sound.queueSound.move stepped with
  | addItem other data => exact .inl ⟨rfl, AgreeOn.refl _ _ _⟩
  | deleteAllItems other =>
      have different : item ≠ other := by
        rintro rfl
        exact notDeleted rfl
      exact .inl (sameStore_countersCleared different _)
  | beginEnumerate => exact writes.elim
  | endEnumerate => exact writes.elim
  | getNext => exact writes.elim
  | noMessage empty => exact .inl ⟨rfl, AgreeOn.refl _ _ _⟩
  | dispatched first result =>
      exact sameStore_dispatched sound notPending first
        (sound.queueSound.sound.dispatched
          (sound.queueSound.admissible first) result)
  | noPage none => exact .inl ⟨rfl, AgreeOn.refl _ _ _⟩
  | pageErased running =>
      exact sameStore_endOfPage sound notPending running

/-- A store that is never deleted has no pending delete. -/
theorem not_pending_run
    {events : List ItemStore.QueueEvent}
    (run : Run (writerSystem.restrict Proper) events state)
    (never : .deleteAllItems item ∉ events) :
    ¬ Pending item state := by
  induction run with
  | start starts =>
      have sound := writesSound_start starts
      obtain ⟨⟨_, _, _, _, tracks⟩, _⟩ := starts.1 item
      exact not_pending_of_idle sound starts.2 tracks.listenerIdle
  | step run event moved inductionHypothesis =>
      intro pending
      rcases pending_of_step (writesSound_run run) moved.1.1 moved.1.2
          pending with earlier | rfl
      · exact inductionHypothesis
          (fun member => never (List.mem_append_left _ member)) earlier
      · exact never (List.mem_append_right _ (List.mem_singleton_self _))

end Ends

/--
In every run under the condition, a store that is cleared is empty once nothing
is left to do, and a store that is never deleted changes with its own adds only.
-/
theorem deletes_empty_stores
    {events : List ItemStore.QueueEvent}
    {state : QueueState}
    (run : Run (writerSystem.restrict Proper) events state)
    (item : ItemDef) :
    (Cleared item events →
        state.queue = [] → state.store.listenerState = .idle →
        Emptied item state.store) ∧
      (.deleteAllItems item ∉ events →
        ∀ event next,
          (writerSystem.restrict Proper).step state event next →
          event ≠ .deleteAllItems item →
          SameStore item state.store next.store ∨
            OwnAdd item state event) := by
  have sound := writesSound_run run
  refine ⟨?_, ?_⟩
  · intro cleared empty listens
    exact (clearing_run run cleared).emptied sound empty listens
  · intro never event next moved notDeleted
    exact sameStore_of_step sound (not_pending_run run never) moved.1.1
      moved.1.2 notDeleted

section Examples

variable {proper : QueueState → ItemStore.QueueEvent → Prop}
variable {events : List ItemStore.QueueEvent}
variable {store : ItemStoreState}

/-- Adds, deletes and erases keep the queue sound without any condition. -/
theorem queueSound_writes
    {state : QueueState}
    (run : Run (writerSystem.restrict proper) events state) :
    QueueSound state := by
  refine run.invariant ?_ ?_
  · intro state starts
    exact (writesSound_start starts).queueSound
  · intro state event next sound moved
    exact sound.step moved.1.1

/-- A delete of the settings from its message to the end of its erase. -/
theorem run_delete
    (permits : ∀ state event, Proper state event → proper state event)
    (run :
      Run (writerSystem.restrict proper) events
        { store := store, queue := [.erase (eraseOf .systemConfig)] })
    (sound :
      QueueSound
        { store := store, queue := [.erase (eraseOf .systemConfig)] })
    (rest : AtRest store) :
    ∃ final,
      Run (writerSystem.restrict proper)
          (events ++ [.dispatch] ++ [.endOfPage] ++ [.endOfPage] ++
            [.dispatch])
          { store := final, queue := [] } ∧
        final.listenerState = .idle ∧
        (final.itemStore .systemConfig).currentPageNrOfItems =
          (store.itemStore .systemConfig).currentPageNrOfItems := by
  obtain ⟨_, _, quiet⟩ := sound.sound.phase.atRest rest.listenerIdle
  have flash := rest.flashIdle.eraseRequested
    (eraseOf .systemConfig).pageNumber 2
  have starts := @queueStep_erase store [] rest .systemConfig
  have first := @queueStep_endOfPage_next
    (beginErase (eraseOf .systemConfig) store.eraseReminder store) []
    (eraseOf .systemConfig).pageNumber 0 flash (by decide) (by decide)
  generalize middle_eq : ({ beginErase (eraseOf .systemConfig)
    store.eraseReminder store with flash := _ } : ItemStoreState) = middle
    at first
  have last := @queueStep_endOfPage_last middle []
    ((eraseOf .systemConfig).pageNumber + 1) (by
      rw [← middle_eq]
      exact flash.nextRequested)
  generalize erased_eq : ({ middle with flash := _ } : ItemStoreState) =
    erased at last
  have erasedSound := ((sound.step starts).step first).step last
  have ends := @queueStep_deleted erased .systemConfig erasedSound
    (by rw [← erased_eq, ← middle_eq]; rfl)
    (by rw [← erased_eq, ← middle_eq]; exact quiet)
  have waits : ∀ state, proper state .endOfPage := fun state =>
    permits state .endOfPage ⟨nofun, nofun⟩
  have starting := permits
    { store := store, queue := [.erase (eraseOf .systemConfig)] }
    .dispatch (by
      refine ⟨?_, ?_⟩
      · intro _ item data rest queue
        cases queue
      · intro _ item others _ busy
        cases rest.listenerIdle.symm.trans busy)
  have ending := permits { store := erased, queue := [.eraseDone] }
    .dispatch (by
      refine ⟨?_, ?_⟩
      · intro _ item data rest queue
        cases queue
      · intro _ item rest queue
        cases queue)
  refine ⟨_, (((run.step .dispatch ⟨⟨starts, trivial⟩, starting⟩).step
    .endOfPage ⟨⟨first, trivial⟩, waits _⟩).step
    .endOfPage ⟨⟨last, trivial⟩, waits _⟩).step
    .dispatch ⟨⟨ends, trivial⟩, ending⟩, rfl, ?_⟩
  rw [reinitialised, modifyInfo_same, ← erased_eq, ← middle_eq]
  rfl

end Examples

/-- The settings after a delete that nothing interferes with. -/
theorem deletes_empty_stores_settings :
    ∃ state,
      Run (writerSystem.restrict Proper)
          [.addItem .systemConfig (ItemCounters.someItem .systemConfig),
            .dispatch,
            .deleteAllItems .systemConfig,
            .dispatch, .endOfPage, .endOfPage, .dispatch]
          state ∧
        Emptied .systemConfig state.store := by
  obtain ⟨store, stale, run, rest, holds⟩ :=
    run_firstAdd .systemConfig (ItemCounters.someItem .systemConfig)
  have deleted := deleteAllItems_eq holds.info.toStaticInfo
  have requested := run.step (.deleteAllItems .systemConfig)
    ⟨⟨by simp only [queueStep, deleted]; rfl, trivial⟩, nofun, nofun⟩
  obtain ⟨final, finished, listens, _⟩ := run_delete
    (fun _ _ proper => proper) requested
    (writesSound_run requested).queueSound
    ⟨rest.listenerIdle, rest.flashIdle⟩
  refine ⟨_, finished,
    (deletes_empty_stores finished .systemConfig).1 ?_ rfl listens⟩
  exact ⟨[.addItem .systemConfig (ItemCounters.someItem .systemConfig),
      .dispatch],
    [.dispatch, .endOfPage, .endOfPage, .dispatch], rfl, by simp⟩

/-- A delete of an empty store changes no counter. -/
theorem holds_countersCleared
    {item : ItemDef}
    {store : ItemStoreState}
    (holds : Holds item StoreLog.empty 0 store) :
    Holds item StoreLog.empty 0 (countersCleared item store) where
  regular := holds.regular
  stale_le := holds.stale_le
  image := holds.image
  info := by
    rw [countersCleared, modifyInfo_same]
    exact
      { holds.info with
        nrOfFullPages_eq := rfl
        currentPageNrOfItems_eq := rfl }

/-- An add that is executed between a delete and its erase stays counted. -/
theorem add_before_erase_counted :
    ∃ state,
      Run writerSystem
          [.addItem .systemConfig (ItemCounters.someItem .systemConfig),
            .deleteAllItems .systemConfig,
            .dispatch, .dispatch, .endOfPage, .endOfPage, .dispatch]
          state ∧
        Cleared .systemConfig
          [.addItem .systemConfig (ItemCounters.someItem .systemConfig),
            .deleteAllItems .systemConfig,
            .dispatch, .dispatch, .endOfPage, .endOfPage, .dispatch] ∧
        state.queue = [] ∧ state.store.listenerState = .idle ∧
        ¬ Emptied .systemConfig state.store := by
  obtain ⟨store, _, booted, atRest, quiet, empty⟩ := holds_erasedFlash
  have holds := holds_countersCleared (empty .systemConfig)
  obtain ⟨after, effects, stale, added, _, rest, kept⟩ :=
    addItem_empty holds ⟨atRest.listenerIdle, atRest.flashIdle⟩ quiet
      (ItemCounters.someItem .systemConfig).property
  have start : Run (writerSystem.restrict fun _ _ => True) []
      { store := store, queue := [] } :=
    .start ⟨booted, rfl⟩
  have published := start.step
    (.addItem .systemConfig (ItemCounters.someItem .systemConfig))
    ⟨⟨rfl, trivial⟩, trivial⟩
  have deleted := deleteAllItems_eq (empty .systemConfig).info.toStaticInfo
  have requested := published.step (.deleteAllItems .systemConfig)
    ⟨⟨by simp only [queueStep, deleted]; rfl, trivial⟩, trivial⟩
  have listens : (countersCleared .systemConfig store).listenerState =
      .idle :=
    atRest.listenerIdle
  have storeIdle : ((countersCleared .systemConfig store).itemStore
      .systemConfig).currentState = .idle := by
    rw [countersCleared, modifyInfo_same]
    exact (booted .systemConfig).2
  have executed := requested.step .dispatch
    ⟨⟨queueStep_added listens storeIdle added _, trivial⟩, trivial⟩
  obtain ⟨final, finished, finallyIdle, counted⟩ :=
    run_delete (fun _ _ _ => trivial) executed (queueSound_writes executed)
      rest
  refine ⟨_, finished.unrestricted, ?_, rfl, finallyIdle, ?_⟩
  · exact ⟨[.addItem .systemConfig
        (ItemCounters.someItem .systemConfig)],
      [.dispatch, .dispatch, .endOfPage, .endOfPage, .dispatch], rfl,
      by simp⟩
  · intro emptied
    have isEmpty := emptied.isEmpty
    -- The count of the add is still there.
    rw [ItemStore.isEmpty, counted, kept.info.currentPageNrOfItems_eq]
      at isEmpty
    revert isEmpty
    simp [StoreLog.writeSlot, StoreLog.openPage, StoreLog.slot,
      StoreLog.empty]

end DemoBoard.DeletedStores
