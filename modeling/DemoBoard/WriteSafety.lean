import DemoBoard.ItemStoreDeletes

namespace DemoBoard.WriteSafety

open ByteMemory ItemCounters ItemStore ItemStoreDeletes TransitionRuns

/-!
# Programs and assertions with deletes in flight

Adds are the only steps that program flash, and they rely on metadata in RAM
that describe the pages.  A delete changes the metadata before the pages, hence
an add must not be executed between the two.
-/

/-- No assertion fails, and only erased double words are programmed. -/
structure SafeStep
    (state : QueueState) (event : ItemStore.QueueEvent) : Prop where
  noAssertion : ∃ next, queueStep state event = .ok next
  /-- Only an add programs, within its own store and over erased words. -/
  programs : ∀ next, queueStep state event = .ok next →
    ∃ effects,
      next.store.flash.history =
          state.store.flash.history ++ effects ∧
        ((∀ effect ∈ effects, effect.programmed? = none) ∨
          ∃ item data,
            ExecutesAdd state event item data ∧
              ProgramsStore item state.store.flash.memory effects)
  /-- The flash accepts every program of an add. -/
  accepted : ∀ item data, ExecutesAdd state event item data →
    ∃ after, addItem state.store item data = .ok (after, true)
  /-- The words of the next item on a page in use are erased. -/
  erased : ∀ item data, ExecutesAdd state event item data →
    ¬ Blank state.store.flash.memory (writePage state.store item) →
    NextSlotErased state.store item

section Adds

variable {item : ItemDef}
variable {state after : ItemStoreState}

/-- An add that succeeds on a page in use finds erased words. -/
theorem nextSlotErased_of_addItem
    (placed : Placed item state)
    (rest : AtRest state)
    (begun : ¬ Blank state.flash.memory (writePage state item))
    {data : List Byte}
    (added : addItem state item data = .ok (after, true)) :
    NextSlotErased state item := by
  unfold addItem at added
  simp only [show (state.itemStore item).nextWritePageInfo.pageId.toNat =
    writePage state item from rfl, readHeader_headerAt, toBytes_headerAt,
    bind, Except.bind] at added
  rw [Blank] at begun
  rw [if_neg begun] at added
  split at added
  · rename_i notClosed
    have room :
        (state.itemStore item).currentPageNrOfItems <
          (geometry item).capacity := by
      rcases placed.room with room | blank | complete | doomed
      · exact room
      · exact (begun blank).elim
      · rw [Complete, notClosed] at complete
        cases complete
      · exact (rest.notCondemned _ doomed).elim
    cases result : writeItem state item data with
    | error failure =>
        rw [result] at added
        cases added
    | ok outcome =>
        rcases outcome with ⟨middle, ok⟩
        rw [result] at added
        have wrote := writeItem_ok placed.toLocated rest room result
        cases ok with
        | true => exact wrote.erased rfl
        | false => cases added
  · cases added

/-- Only an add changes the history of the flash with its dispatch. -/
theorem history_dispatched
    {request : Request}
    {handled : Handled}
    (dispatched : Dispatched state request handled)
    (notAdded : ∀ item data, request = .addItem item data →
      state.listenerState = .idle →
      (state.itemStore item).currentState ≠ .idle) :
    handled.state.flash.history = state.flash.history := by
  cases dispatched with
  | added item data rest storeIdle result =>
      exact (notAdded item data rfl rest.listenerIdle storeIdle).elim
  | enumerated item enumerator rest storeIdle =>
      rw [(sameContent_beginEnumerate state item enumerator).flash]
  | ignored => rfl
  | deleteStarted => rfl
  | reminded => rfl
  | restarted => rfl
  | deleted => rfl
  | wrapped => rfl

end Adds

section Steps

variable {state next : QueueState}
variable {event : ItemStore.QueueEvent}
variable {item : ItemDef}
variable {data : List Byte}

/-- An add that is executed succeeds. -/
theorem executed_added
    (sound : WritesSound state)
    (proper : Proper state event)
    (executes : ExecutesAdd state event item data) :
    ∃ log after,
      ItemStore.addItem state.store item data = .ok (after, true) ∧
        Added item log state.store after := by
  obtain ⟨rfl, ⟨rest, first⟩, listens, _⟩ := executes
  exact sound.added proper first listens

/-- No message fails an assertion. -/
theorem dispatch_ok
    (sound : WritesSound state)
    (proper : Proper state .dispatch) :
    ∃ next, queueStep state .dispatch = .ok next := by
  cases first : state.queue with
  | nil =>
      simp only [queueStep, first]
      exact ⟨_, rfl⟩
  | cons request rest =>
      obtain ⟨handled, result⟩ := sound.queueSound.sound.listener_ok
        (sound.queueSound.admissible first) (by
          rintro item data rfl listens storeIdle
          obtain ⟨log, after, added, _⟩ :=
            sound.added proper first listens
          exact ⟨_, added⟩)
      simp only [queueStep, first, result]
      exact ⟨_, rfl⟩

/-- No step fails an assertion. -/
theorem step_ok
    (sound : WritesSound state)
    (proper : Proper state event)
    (writes : Writes event) :
    ∃ next, queueStep state event = .ok next := by
  cases event with
  | addItem item data => exact ⟨_, rfl⟩
  | deleteAllItems item =>
      have deleted :=
        deleteAllItems_eq (sound.queueSound.sound.placed item).static
      simp only [queueStep, deleted]
      exact ⟨_, rfl⟩
  | beginEnumerate => exact writes.elim
  | endEnumerate => exact writes.elim
  | getNext => exact writes.elim
  | dispatch => exact dispatch_ok sound proper
  | endOfPage =>
      simp only [queueStep]
      split <;> exact ⟨_, rfl⟩

/-- The dispatch of a message programs erased words of a store. -/
theorem programs_dispatch
    (sound : WritesSound state)
    (proper : Proper state .dispatch)
    (stepped : queueStep state .dispatch = .ok next) :
    ∃ effects,
      next.store.flash.history =
          state.store.flash.history ++ effects ∧
        ((∀ effect ∈ effects, effect.programmed? = none) ∨
          ∃ item data,
            ExecutesAdd state .dispatch item data ∧
              ProgramsStore item state.store.flash.memory effects) := by
  cases sound.queueSound.move stepped with
  | noMessage empty =>
      exact ⟨[], (List.append_nil _).symm,
        .inl (List.forall_mem_nil _)⟩
  | @dispatched request rest handled first result =>
      have dispatched := sound.queueSound.sound.dispatched
        (sound.queueSound.admissible first) result
      by_cases executed : ∃ item data,
          request = .addItem item data ∧
            state.store.listenerState = .idle
      · obtain ⟨item, data, rfl, listens⟩ := executed
        obtain ⟨log, after, added, leads⟩ :=
          sound.added proper first listens
        obtain ⟨effects, extended, programs⟩ := leads.effects
        have same := handled_of_added dispatched listens
          (sound.storesIdle item) added
        refine ⟨effects, ?_, .inr ⟨item, data,
          ⟨rfl, ⟨rest, first⟩, listens, sound.storesIdle item⟩,
          programs⟩⟩
        rw [same]
        exact extended.history
      · refine ⟨[], ?_, .inl (List.forall_mem_nil _)⟩
        rw [List.append_nil]
        exact history_dispatched dispatched
          (fun item data add listens _ =>
            executed ⟨item, data, add, listens⟩)

/-- Every step programs erased words of a store at most. -/
theorem programs_step
    (sound : WritesSound state)
    (proper : Proper state event)
    (writes : Writes event)
    (stepped : queueStep state event = .ok next) :
    ∃ effects,
      next.store.flash.history =
          state.store.flash.history ++ effects ∧
        ((∀ effect ∈ effects, effect.programmed? = none) ∨
          ∃ item data,
            ExecutesAdd state event item data ∧
              ProgramsStore item state.store.flash.memory effects) := by
  cases sound.queueSound.move stepped with
  | addItem item data =>
      exact ⟨[], (List.append_nil _).symm,
        .inl (List.forall_mem_nil _)⟩
  | deleteAllItems item =>
      exact ⟨[], (List.append_nil _).symm,
        .inl (List.forall_mem_nil _)⟩
  | beginEnumerate => exact writes.elim
  | endEnumerate => exact writes.elim
  | getNext => exact writes.elim
  | noMessage empty => exact programs_dispatch sound proper stepped
  | dispatched first result =>
      exact programs_dispatch sound proper stepped
  | noPage none =>
      exact ⟨[], (List.append_nil _).symm,
        .inl (List.forall_mem_nil _)⟩
  | pageErased pending =>
      obtain ⟨_, ⟨page, erases⟩, _⟩ :=
        sound.queueSound.sound.endOfPage pending
      refine ⟨[.erasePage page], erases.history, .inl ?_⟩
      intro effect member
      rw [List.mem_singleton.mp member]
      rfl

/-- Every step of a sound state under the condition is safe. -/
theorem safeStep_of_sound
    (sound : WritesSound state)
    (proper : Proper state event)
    (writes : Writes event) :
    SafeStep state event where
  noAssertion := step_ok sound proper writes
  programs := fun _ stepped => programs_step sound proper writes stepped
  accepted := by
    intro item data executes
    obtain ⟨log, after, added, _⟩ := executed_added sound proper executes
    exact ⟨after, added⟩
  erased := by
    intro item data executes begun
    obtain ⟨log, after, added, _⟩ := executed_added sound proper executes
    obtain ⟨_, atRest, _⟩ :=
      sound.queueSound.sound.phase.atRest executes.listens
    exact nextSlotErased_of_addItem (sound.queueSound.sound.placed item)
      atRest begun added

end Steps

/--
In every run of adds, deletes and erases under the condition, every further
step under the condition is safe.
-/
theorem writes_safe
    {events : List ItemStore.QueueEvent}
    {state : QueueState}
    (run : Run (writerSystem.restrict Proper) events state)
    {event : ItemStore.QueueEvent}
    (writes : Writes event)
    (proper : Proper state event) :
    SafeStep state event :=
  safeStep_of_sound (writesSound_run run) proper writes

/-- The delete of a store with one item is dispatched. -/
theorem writes_safe_delete :
    ∃ state,
      Run (writerSystem.restrict Proper)
          [.addItem .measurementSample (someItem .measurementSample),
            .dispatch,
            .deleteAllItems .measurementSample]
          state ∧
        SafeStep state .dispatch := by
  obtain ⟨store, stale, run, atRest, holds⟩ :=
    run_firstAdd .measurementSample (someItem .measurementSample)
  have deleted := deleteAllItems_eq holds.info.toStaticInfo
  have requested := run.step (.deleteAllItems .measurementSample)
    ⟨⟨by simp only [queueStep, deleted]; rfl, trivial⟩, nofun, nofun⟩
  refine ⟨_, requested, writes_safe requested trivial ⟨?_, ?_⟩⟩
  · intro _ item data rest queue
    cases queue
  · intro _ item rest _ busy
    cases atRest.listenerIdle.symm.trans busy

/-- An add that is dispatched between a delete and its erase. -/
theorem unsafe_add_before_erase :
    ∃ state,
      Run writerSystem
          [.addItem .measurementSample (someItem .measurementSample),
            .dispatch,
            .addItem .measurementSample (someItem .measurementSample),
            .deleteAllItems .measurementSample]
          state ∧
        ¬ SafeStep state .dispatch := by
  obtain ⟨store, stale, run, atRest, holds⟩ :=
    run_firstAdd .measurementSample (someItem .measurementSample)
  have deleted := deleteAllItems_eq holds.info.toStaticInfo
  have published := run.unrestricted.step
    (.addItem .measurementSample (someItem .measurementSample))
    ⟨rfl, trivial⟩
  have requested := published.step (.deleteAllItems .measurementSample)
    ⟨by simp only [queueStep, deleted]; rfl, trivial⟩
  refine ⟨_, requested, ?_⟩
  intro safe
  have page : writePage (countersCleared .measurementSample store)
      .measurementSample = writePage store .measurementSample := by
    rw [writePage, countersCleared, modifyInfo_same, writePage]
  have storeIdle : ((countersCleared .measurementSample store).itemStore
      .measurementSample).currentState = .idle := by
    rw [countersCleared, modifyInfo_same]
    exact (writesSound_run run).storesIdle .measurementSample
  have erased := safe.erased .measurementSample
    (someItem .measurementSample).val
    ⟨rfl, ⟨_, rfl⟩, atRest.listenerIdle, storeIdle⟩ (by
      rw [page]
      exact holds.begun rfl)
  -- The counters are cleared, but the first slot still has its item.
  rw [NextSlotErased, page, countersCleared, modifyInfo_same,
    holds.writePage_eq] at erased
  have kept := (holds.image 0 (Nat.le_refl _) (by decide)).item_eq 0
    (someItem .measurementSample).val rfl
  have blank : (someItem .measurementSample).val =
      List.replicate (geometry .measurementSample).itemSize erasedByte :=
    kept.symm.trans (erased.readBytes_eq (Nat.le_refl _))
  revert blank
  decide

end DemoBoard.WriteSafety
