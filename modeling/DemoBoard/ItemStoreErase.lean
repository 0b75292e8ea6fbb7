import DemoBoard.ItemStoreAppend

namespace DemoBoard.ItemStore

open ByteMemory

/-!
# Erases in flight

What holds between the start of an erase and the dispatch of the message about
its end, in every run: deletes may be requested at any time, and the messages
of the item store may be dispatched in any order that a queue allows.
-/

/-- The erase parameters of `ItemStore_DeleteAllItems`. -/
def eraseOf (item : ItemDef) : EraseParameters where
  itemStore := item.toByte
  reinit := true
  pageNumber := (geometry item).firstPage
  nrOfPages := (geometry item).nrOfPages

theorem deleteParameters_eq
    {item : ItemDef}
    {info : ItemStoreInfo}
    (static : StaticInfo item info) :
    deleteParameters info item = eraseOf item := by
  rw [deleteParameters, static.firstPage_eq, static.nrOfPages_eq, eraseOf]

@[simp] theorem hasReminder_eraseOf (item : ItemDef) :
    hasReminder (eraseOf item) = true := by
  cases item <;> decide

@[simp] theorem hasReminder_noReminder :
    hasReminder noReminder = false := by
  decide

theorem eraseOf_injective
    {item other : ItemDef}
    (same : eraseOf item = eraseOf other) :
    item = other := by
  cases item <;> cases other
  · rfl
  · exact absurd same (by decide)
  · exact absurd same (by decide)
  · rfl

/-- What a running or finished erase is for. -/
inductive EraseTarget (state : ItemStoreState) : Prop where
  /-- All pages of a store. -/
  | delete
      (item : ItemDef)
      (parameters : state.eraseParameters = eraseOf item)
  /-- The page that takes the next item of a store. -/
  | wrap
      (item : ItemDef)
      (keep : state.eraseParameters.reinit = false)
      (single : state.eraseParameters.nrOfPages = 1)
      (page : state.eraseParameters.pageNumber = writePage state item)

/-- The pages of the erase below `upTo` are erased. -/
def ErasedUpTo (state : ItemStoreState) (upTo : Nat) : Prop :=
  ∀ page, state.eraseParameters.pageNumber ≤ page → page < upTo →
    PageErased state.flash.memory page

/--
Where the listener and the flash driver stand.  The index is the number of
published messages about the end of an erase that are not dispatched yet.
-/
inductive ErasePhase (state : ItemStoreState) : Nat → Prop where
  | idle
      (rest : AtRest state)
      (quiet : hasReminder state.eraseReminder = false) :
      ErasePhase state 0
  | running
      (erasing : state.listenerState = .erasing)
      (target : EraseTarget state)
      {page remaining : Nat}
      (flash : state.flash.Erasing page (remaining + 1))
      (started : state.eraseParameters.pageNumber ≤ page)
      (total :
        page + (remaining + 1) =
          state.eraseParameters.pageNumber +
            state.eraseParameters.nrOfPages)
      (erased : ErasedUpTo state page) :
      ErasePhase state 0
  | done
      (erasing : state.listenerState = .erasing)
      (target : EraseTarget state)
      (flashIdle : state.flash.Idle)
      (erased :
        ErasedUpTo state
          (state.eraseParameters.pageNumber +
            state.eraseParameters.nrOfPages)) :
      ErasePhase state 1

/-- The invariant of the item store over all runs. -/
structure Sound (state : ItemStoreState) (dones : Nat) : Prop where
  phase : ErasePhase state dones
  reminder : hasReminder state.eraseReminder = true →
    ∃ item, state.eraseReminder = eraseOf item
  placed : ∀ item, Placed item state

/-- The requests that can be queued, besides unpublished ends of erases. -/
inductive Admissible (dones : Nat) : Request → Prop where
  | addItem (item : ItemDef) (data : List Byte) :
      Admissible dones (.addItem item data)
  | erase (item : ItemDef) :
      Admissible dones (.erase (eraseOf item))
  | eraseDone (published : dones = 1) :
      Admissible dones .eraseDone
  | beginEnumerate (item : ItemDef) (enumerator : Enumerator) :
      Admissible dones (.beginEnumerate item enumerator)

section Targets

variable {state : ItemStoreState}

/-- The pages of an erase are pages of one store. -/
theorem EraseTarget.inStore
    (target : EraseTarget state)
    (placed : ∀ item, Placed item state) :
    ∃ item, ∀ page, state.eraseParameters.pageNumber ≤ page →
      page < state.eraseParameters.pageNumber +
          state.eraseParameters.nrOfPages →
        InStore item page := by
  cases target with
  | delete item parameters =>
      refine ⟨item, ?_⟩
      intro page lower upper
      rw [parameters] at lower upper
      exact ⟨lower, upper⟩
  | wrap item keep single number =>
      refine ⟨item, ?_⟩
      intro page lower upper
      have inStore := (placed item).inStore
      rw [single] at upper
      rw [show page = writePage state item by omega]
      exact inStore

theorem EraseTarget.congr
    {after : ItemStoreState}
    (target : EraseTarget state)
    (same : after.eraseParameters = state.eraseParameters)
    (samePage : ∀ item, writePage after item = writePage state item) :
    EraseTarget after := by
  cases target with
  | delete item parameters =>
      exact .delete item (same.trans parameters)
  | wrap item keep single number =>
      refine .wrap item ?_ ?_ ?_
      · rw [same]
        exact keep
      · rw [same]
        exact single
      · rw [same, samePage]
        exact number

/-- The page before an erased one, in the order of the ring. -/
theorem EraseTarget.linked
    (target : EraseTarget state)
    (erasing : state.listenerState = .erasing)
    {item : ItemDef}
    {page : Nat}
    (inStore : InStore item page)
    (lower : state.eraseParameters.pageNumber ≤ nextPageOf item page)
    (upper :
      nextPageOf item page <
        state.eraseParameters.pageNumber +
          state.eraseParameters.nrOfPages)
    (placed : ∀ item, Placed item state) :
    nextPageOf item page = writePage state item ∨
      Condemned state page := by
  have following := nextPageOf_inStore inStore
  cases target with
  | delete other parameters =>
      rw [parameters] at lower upper
      have same : other = item :=
        inStore_unique ⟨lower, upper⟩ following
      refine .inr ⟨erasing, ?_⟩
      rw [parameters, same]
      exact inStore
  | wrap other keep single number =>
      rw [single] at upper
      have equal : nextPageOf item page = writePage state other := by
        omega
      have same : other = item :=
        inStore_unique (equal ▸ (placed other).inStore) following
      rw [← same] at equal ⊢
      exact .inl equal

end Targets

/--
The flash task starts the erase of a page and the hardware finishes it.  The
second component tells whether `FlashEraseDoneCb` publishes the end of the
erase.
-/
def endOfPage (state : ItemStoreState) : ItemStoreState × Bool :=
  let outcome := state.flash.flashTask.endOfOperation
  ({ state with flash := outcome.1 }, outcome.2.isSome)

/-- The erase of a page changes the page only. -/
structure ErasesPage
    (page : Nat) (before after : ItemStoreState) : Prop where
  condemned : Condemned before page
  itemStore : after.itemStore = before.itemStore
  listenerState : after.listenerState = before.listenerState
  eraseParameters : after.eraseParameters = before.eraseParameters
  eraseReminder : after.eraseReminder = before.eraseReminder
  recoverableErrors : after.recoverableErrors = before.recoverableErrors
  history :
    after.flash.history = before.flash.history ++ [.erasePage page]
  memory : after.flash.memory = erasePage before.flash.memory page

section EndOfPage

variable {before after : ItemStoreState}
variable {page dones : Nat}

theorem ErasesPage.condemned_iff
    (erases : ErasesPage page before after)
    (other : Nat) :
    Condemned after other ↔ Condemned before other := by
  rw [Condemned, erases.listenerState, erases.eraseParameters, Condemned]

theorem ErasesPage.writePage_eq
    (erases : ErasesPage page before after)
    (item : ItemDef) :
    writePage after item = writePage before item := by
  rw [writePage, erases.itemStore, writePage]

theorem ErasesPage.target
    (erases : ErasesPage page before after)
    (target : EraseTarget before) :
    EraseTarget after :=
  target.congr erases.eraseParameters (erases.writePage_eq ·)

theorem ErasesPage.erased
    (erases : ErasesPage page before after)
    (erased : ErasedUpTo before page) :
    ErasedUpTo after (page + 1) := by
  intro other lower upper
  rw [erases.eraseParameters] at lower
  rw [erases.memory]
  by_cases same : other = page
  · rw [same]
    exact pageErased_erasePage _ page
  · exact (erased other lower (by omega)).erasePage page

/-- Headers of other pages stay. -/
theorem ErasesPage.header
    (erases : ErasesPage page before after)
    {other : Nat}
    (different : other ≠ page) :
    headerBytes after.flash.memory other =
      headerBytes before.flash.memory other := by
  rw [erases.memory]
  exact readBytes_congr ((erasePage_agreeOn _ different).mono
    (Nat.le_refl _) (by simp [pageHeaderSize, flashPageSize]))

theorem ErasesPage.blank
    (erases : ErasesPage page before after) :
    Blank after.flash.memory page := by
  rw [erases.memory]
  exact PageErased.blank (pageErased_erasePage _ page)

theorem ErasesPage.blank_of_blank
    (erases : ErasesPage page before after)
    {other : Nat}
    (blank : Blank before.flash.memory other) :
    Blank after.flash.memory other := by
  by_cases same : other = page
  · rw [same]
    exact erases.blank
  · rw [Blank, erases.header same]
    exact blank

/-- The stores keep their shape while a page is erased. -/
theorem ErasesPage.placed
    (erases : ErasesPage page before after)
    (target : EraseTarget before)
    (placed : ∀ item, Placed item before)
    (item : ItemDef) :
    Placed item after := by
  have was := placed item
  have info : after.itemStore item = before.itemStore item := by
    rw [erases.itemStore]
  have samePage := erases.writePage_eq item
  refine ⟨?_, ?_⟩
  · exact
      { static := by
          rw [info]
          exact was.static
        tag := by
          rw [info, samePage]
          exact was.tag
        inStore := by
          rw [samePage]
          exact was.inStore
        oldest := by
          rw [info]
          exact was.oldest
        count_le := by
          rw [info]
          exact was.count_le
        pages := by
          intro other inStore
          by_cases same : other = page
          · rw [same]
            exact .inl erases.blank
          rcases was.pages other inStore with blank | inUse
          · exact .inl (erases.blank_of_blank blank)
          have header := headerAt_congr (erases.header same)
          refine .inr
            { begun := ?_
              closed := ?_
              nextPage := ?_
              linked := ?_ }
          · rw [header]
            exact inUse.begun
          · rw [Complete, header, samePage]
            exact inUse.closed
          · rw [Complete, header]
            exact inUse.nextPage
          · rw [Complete, header, samePage]
            intro complete
            rw [erases.condemned_iff]
            by_cases next : nextPageOf item other = page
            · have doomed := erases.condemned
              rw [← next] at doomed
              rcases target.linked doomed.1 inStore doomed.2.1 doomed.2.2
                  placed with last | still
              · exact .inl last
              · exact .inr (.inr still)
            · rw [Blank, erases.header next]
              exact inUse.linked complete }
  · rw [samePage, info]
    rcases was.room with room | blank | complete | doomed
    · exact .inl room
    · exact .inr (.inl (erases.blank_of_blank blank))
    · by_cases same : writePage before item = page
      · rw [same]
        exact .inr (.inl erases.blank)
      · rw [Complete, headerAt_congr (erases.header same)]
        exact .inr (.inr (.inl complete))
    · exact .inr (.inr (.inr ((erases.condemned_iff _).mpr doomed)))

/-- The end of a page of a running erase. -/
theorem ErasePhase.endOfPage
    (phase : ErasePhase before dones)
    (placed : ∀ item, Placed item before)
    (pending : before.flash.processNextPage ≠ none) :
    dones = 0 ∧
      (∃ page, ErasesPage page before (endOfPage before).1) ∧
      EraseTarget before ∧
      ErasePhase (endOfPage before).1
        (if (endOfPage before).2 then 1 else 0) := by
  cases phase with
  | idle rest quiet => exact (pending rest.flashIdle.processNextPage).elim
  | done erasing target flashIdle erased =>
      exact (pending flashIdle.processNextPage).elim
  | @running erasing target page remaining flash started total erased =>
      obtain ⟨item, inside⟩ := target.inStore placed
      have condemned : Condemned before page :=
        ⟨erasing, started, by omega⟩
      have last : remaining = 0 ∨ ∃ fewer, remaining = fewer + 1 := by
        cases remaining with
        | zero => exact .inl rfl
        | succ fewer => exact .inr ⟨fewer, rfl⟩
      rcases last with rfl | ⟨fewer, rfl⟩
      · have ended : ItemStore.endOfPage before =
            ({ before with flash := before.flash.pageErased page }, true) := by
          rw [ItemStore.endOfPage, flash.endOfOperation_last]
          rfl
        have erases : ErasesPage page before
            { before with flash := before.flash.pageErased page } :=
          ⟨condemned, rfl, rfl, rfl, rfl, rfl, rfl, rfl⟩
        rw [ended]
        refine ⟨rfl, ⟨page, erases⟩, target,
          .done erasing (erases.target target) flash.pageErased ?_⟩
        rw [← total]
        exact erases.erased erased
      · have pageInside := inside page started (by omega)
        have nextInside := inside (page + fewer + 1) (by omega) (by omega)
        have small := (geometry item).lastWritable
        simp only [lastWritableFlashPage, firstWritableFlashPage] at small
        unfold InStore at pageInside nextInside
        have ended : ItemStore.endOfPage before =
            ({ before with
                flash := before.flash.nextRequested page (fewer + 1) },
              false) := by
          rw [ItemStore.endOfPage,
            flash.endOfOperation_next (by omega) (by omega)]
          rfl
        have erases : ErasesPage page before
            { before with
              flash := before.flash.nextRequested page (fewer + 1) } :=
          ⟨condemned, rfl, rfl, rfl, rfl, rfl, rfl, rfl⟩
        rw [ended]
        exact ⟨rfl, ⟨page, erases⟩, target,
          .running erasing (erases.target target) flash.nextRequested
            (Nat.le_succ_of_le started)
            (by rw [← total]; omega)
            (erases.erased erased)⟩

/-- The end of a page keeps the item store sound. -/
theorem Sound.endOfPage
    (sound : Sound before dones)
    (pending : before.flash.processNextPage ≠ none) :
    dones = 0 ∧
      (∃ page, ErasesPage page before (endOfPage before).1) ∧
      Sound (endOfPage before).1
        (if (endOfPage before).2 then 1 else 0) := by
  obtain ⟨none, ⟨page, erases⟩, target, phase⟩ :=
    sound.phase.endOfPage sound.placed pending
  refine ⟨none, ⟨page, erases⟩, phase, ?_,
    erases.placed target sound.placed⟩
  rw [erases.eraseReminder]
  exact sound.reminder

end EndOfPage

/-- The listener starts an erase. -/
def beginErase
    (parameters reminder : EraseParameters) (state : ItemStoreState) :
    ItemStoreState :=
  { state with
    eraseParameters := parameters
    eraseReminder := reminder
    listenerState := .erasing
    flash :=
      state.flash.eraseRequested parameters.pageNumber
        parameters.nrOfPages }

/-- What the dispatch of a request does, where no assertion fails. -/
inductive Dispatched (state : ItemStoreState) : Request → Handled → Prop where
  | added
      (item : ItemDef)
      (data : List Byte)
      (rest : AtRest state)
      (storeIdle : (state.itemStore item).currentState = .idle)
      {after : ItemStoreState}
      {ok : Bool}
      (result : addItem state item data = .ok (after, ok)) :
      Dispatched state (.addItem item data)
        { state := if ok then after else recoverableError after 0
          consumed := true
          enumeration := none }
  | enumerated
      (item : ItemDef)
      (enumerator : Enumerator)
      (rest : AtRest state)
      (storeIdle : (state.itemStore item).currentState = .idle) :
      Dispatched state (.beginEnumerate item enumerator)
        { state := (beginEnumerate state item enumerator).1
          consumed := true
          enumeration := some
            { item := item
              enumerator := (beginEnumerate state item enumerator).2.1
              ready := (beginEnumerate state item enumerator).2.2 } }
  | ignored
      {request : Request}
      (busy :
        state.listenerState = .erasing ∨
          (state.itemStore request.item).currentState = .enumerating)
      (addOrEnumerate :
        (∃ item data, request = .addItem item data) ∨
          ∃ item enumerator, request = .beginEnumerate item enumerator) :
      Dispatched state request
        { state := state, consumed := false, enumeration := none }
  | deleteStarted
      (item : ItemDef)
      (rest : AtRest state) :
      Dispatched state (.erase (eraseOf item))
        { state := beginErase (eraseOf item) state.eraseReminder state
          consumed := true
          enumeration := none }
  | reminded
      (item : ItemDef)
      (erasing : state.listenerState = .erasing) :
      Dispatched state (.erase (eraseOf item))
        { state := { state with eraseReminder := eraseOf item }
          consumed := true
          enumeration := none }
  | restarted
      (item : ItemDef)
      (erasing : state.listenerState = .erasing)
      (reminder : state.eraseReminder = eraseOf item) :
      Dispatched state .eraseDone
        { state := beginErase (eraseOf item) noReminder state
          consumed := true
          enumeration := none }
  | deleted
      (item : ItemDef)
      (erasing : state.listenerState = .erasing)
      (quiet : hasReminder state.eraseReminder = false)
      (parameters : state.eraseParameters = eraseOf item) :
      Dispatched state .eraseDone
        { state := reinitialised item { state with listenerState := .idle }
          consumed := true
          enumeration := none }
  | wrapped
      (item : ItemDef)
      (erasing : state.listenerState = .erasing)
      (quiet : hasReminder state.eraseReminder = false)
      (keep : state.eraseParameters.reinit = false)
      (page : state.eraseParameters.pageNumber = writePage state item) :
      Dispatched state .eraseDone
        { state := { state with listenerState := .idle }
          consumed := true
          enumeration := none }

section Dispatch

variable {state : ItemStoreState}
variable {dones : Nat}
variable {request : Request}
variable {handled : Handled}

/-- An idle listener has no erase to finish. -/
theorem ErasePhase.atRest
    (phase : ErasePhase state dones)
    (idle : state.listenerState = .idle) :
    dones = 0 ∧ AtRest state ∧ hasReminder state.eraseReminder = false := by
  cases phase with
  | idle rest quiet => exact ⟨rfl, rest, quiet⟩
  | running erasing =>
      rw [idle] at erasing
      cases erasing
  | done erasing =>
      rw [idle] at erasing
      cases erasing

theorem ErasePhase.finished
    (phase : ErasePhase state 1) :
    state.listenerState = .erasing ∧ EraseTarget state ∧
      state.flash.Idle ∧
      ErasedUpTo state
        (state.eraseParameters.pageNumber +
          state.eraseParameters.nrOfPages) := by
  cases phase with
  | done erasing target flashIdle erased =>
      exact ⟨erasing, target, flashIdle, erased⟩

/-- `Flash_Erase` of a whole store. -/
theorem flashErase_eraseOf
    (idle : state.flash.Idle)
    (item : ItemDef) :
    flashErase state (eraseOf item).pageNumber (eraseOf item).nrOfPages =
      .ok
        { state with
          flash :=
            state.flash.eraseRequested (eraseOf item).pageNumber
              (eraseOf item).nrOfPages } := by
  have last := (geometry item).lastWritable
  have lower : firstWritableFlashPage ≤ (eraseOf item).pageNumber :=
    (geometry item).firstWritable
  have upper :
      (eraseOf item).pageNumber + (eraseOf item).nrOfPages - 1 ≤
        lastWritableFlashPage := by
    simp only [eraseOf]
    omega
  rw [flashErase, Flash.erase_idle idle lower upper]
  rfl

/-- An idle listener starts the erase of a store. -/
theorem listener_erase
    (rest : AtRest state)
    (item : ItemDef) :
    listener state (.erase (eraseOf item)) =
      .ok
        { state := beginErase (eraseOf item) state.eraseReminder state
          consumed := true
          enumeration := none } := by
  have erased := @flashErase_eraseOf
    { state with eraseParameters := eraseOf item } rest.flashIdle item
  unfold listener
  rw [rest.listenerIdle]
  simp only [listenerIdleState, erased, bind, Except.bind]
  rfl

/-- The pages of a finished delete are blank. -/
theorem blank_of_finished
    {item : ItemDef}
    (parameters : state.eraseParameters = eraseOf item)
    (erased :
      ErasedUpTo state
        (state.eraseParameters.pageNumber +
          state.eraseParameters.nrOfPages)) :
    ∀ page, InStore item page → Blank state.flash.memory page := by
  intro page inStore
  rw [ErasedUpTo, parameters] at erased
  exact PageErased.blank (erased page inStore.1 inStore.2)

/-- Dispatching an admissible request. -/
theorem Sound.dispatched
    (sound : Sound state dones)
    (admissible : Admissible dones request)
    (result : listener state request = .ok handled) :
    Dispatched state request handled := by
  unfold listener at result
  cases listens : state.listenerState with
  | idle =>
      obtain ⟨none, rest, quiet⟩ := sound.phase.atRest listens
      rw [listens] at result
      cases admissible with
      | addItem item data =>
          simp only [listenerIdleState, Request.item] at result
          cases current : (state.itemStore item).currentState with
          | idle =>
              simp only [current, idleState] at result
              cases added : addItem state item data with
              | error failure =>
                  rw [added] at result
                  cases result
              | ok outcome =>
                  rw [added] at result
                  cases result
                  exact .added item data rest current added
          | enumerating =>
              simp only [current, enumeratingState] at result
              cases result
              exact .ignored (.inr current) (.inl ⟨item, data, rfl⟩)
      | beginEnumerate item enumerator =>
          simp only [listenerIdleState, Request.item] at result
          cases current : (state.itemStore item).currentState with
          | idle =>
              simp only [current, idleState] at result
              cases result
              exact .enumerated item enumerator rest current
          | enumerating =>
              simp only [current, enumeratingState] at result
              cases result
              exact .ignored (.inr current) (.inr ⟨item, enumerator, rfl⟩)
      | erase item =>
          have started := listener_erase rest item
          unfold listener at started
          rw [listens, result] at started
          cases started
          exact .deleteStarted item rest
      | eraseDone published =>
          rw [none] at published
          cases published
  | erasing =>
      rw [listens] at result
      cases admissible with
      | addItem item data =>
          simp only [listenerErasingState] at result
          cases result
          exact .ignored (.inl listens) (.inl ⟨item, data, rfl⟩)
      | beginEnumerate item enumerator =>
          simp only [listenerErasingState] at result
          cases result
          exact .ignored (.inl listens) (.inr ⟨item, enumerator, rfl⟩)
      | erase item =>
          simp only [listenerErasingState] at result
          cases result
          exact .reminded item listens
      | eraseDone published =>
          rw [published] at sound
          obtain ⟨_, target, flashIdle, erased⟩ := sound.phase.finished
          simp only [listenerErasingState] at result
          by_cases reminder : hasReminder state.eraseReminder = true
          · obtain ⟨item, reminder_eq⟩ := sound.reminder reminder
            have restarted := @flashErase_eraseOf
              { state with
                eraseParameters := eraseOf item
                eraseReminder := noReminder } flashIdle item
            rw [if_pos reminder] at result
            simp only [reminder_eq, restarted, bind, Except.bind] at result
            cases result
            have same : beginErase (eraseOf item) noReminder state =
                { state with
                  eraseParameters := eraseOf item
                  eraseReminder := noReminder
                  flash :=
                    state.flash.eraseRequested (eraseOf item).pageNumber
                      (eraseOf item).nrOfPages } := by
              rw [beginErase, ← listens]
            rw [← same]
            exact .restarted item listens reminder_eq
          · rw [if_neg reminder] at result
            have quiet : hasReminder state.eraseReminder = false := by
              simpa using reminder
            cases target with
            | delete item parameters =>
                have again : state.eraseParameters.reinit = true := by
                  rw [parameters, eraseOf]
                have store :
                    ItemDef.ofByte? state.eraseParameters.itemStore =
                      some item := by
                  rw [parameters]
                  cases item <;> rfl
                have reinit := @initItemStore_blank item
                  { state with listenerState := .idle }
                  (sound.placed item).static
                  (blank_of_finished parameters erased)
                simp only [again, if_true, store, reinit, bind,
                  Except.bind] at result
                cases result
                exact .deleted item listens quiet parameters
            | wrap item keep single page =>
                simp only [keep, Bool.false_eq_true, if_false] at result
                cases result
                exact .wrapped item listens quiet keep page

/-- Only an add can run into an assertion. -/
theorem Sound.listener_ok
    (sound : Sound state dones)
    (admissible : Admissible dones request)
    (adds : ∀ item data, request = .addItem item data →
      state.listenerState = .idle →
      (state.itemStore item).currentState = .idle →
      ∃ outcome, addItem state item data = .ok outcome) :
    ∃ handled, listener state request = .ok handled := by
  unfold listener
  cases listens : state.listenerState with
  | idle =>
      obtain ⟨none, rest, _⟩ := sound.phase.atRest listens
      cases admissible with
      | addItem item data =>
          simp only [listenerIdleState, Request.item]
          cases current : (state.itemStore item).currentState with
          | idle =>
              obtain ⟨outcome, added⟩ :=
                adds item data rfl listens current
              simp only [idleState, added]
              exact ⟨_, rfl⟩
          | enumerating => exact ⟨_, rfl⟩
      | beginEnumerate item enumerator =>
          simp only [listenerIdleState, Request.item]
          cases (state.itemStore item).currentState with
          | idle => exact ⟨_, rfl⟩
          | enumerating => exact ⟨_, rfl⟩
      | erase item =>
          have started := listener_erase rest item
          rw [listener, listens] at started
          exact ⟨_, started⟩
      | eraseDone published =>
          rw [none] at published
          cases published
  | erasing =>
      cases admissible with
      | addItem item data => exact ⟨_, rfl⟩
      | beginEnumerate item enumerator => exact ⟨_, rfl⟩
      | erase item => exact ⟨_, rfl⟩
      | eraseDone published =>
          rw [published] at sound
          obtain ⟨_, target, flashIdle, erased⟩ := sound.phase.finished
          simp only [listenerErasingState]
          by_cases reminder : hasReminder state.eraseReminder = true
          · obtain ⟨item, reminder_eq⟩ := sound.reminder reminder
            have restarted := @flashErase_eraseOf
              { state with
                eraseParameters := eraseOf item
                eraseReminder := noReminder } flashIdle item
            rw [if_pos reminder]
            simp only [reminder_eq, restarted]
            exact ⟨_, rfl⟩
          · rw [if_neg reminder]
            cases target with
            | delete item parameters =>
                have again : state.eraseParameters.reinit = true := by
                  rw [parameters, eraseOf]
                have store :
                    ItemDef.ofByte? state.eraseParameters.itemStore =
                      some item := by
                  rw [parameters]
                  cases item <;> rfl
                have reinit := @initItemStore_blank item
                  { state with listenerState := .idle }
                  (sound.placed item).static
                  (blank_of_finished parameters erased)
                simp only [again, if_true, store, reinit]
                exact ⟨_, rfl⟩
            | wrap item keep single page =>
                simp only [keep, Bool.false_eq_true, if_false]
                exact ⟨_, rfl⟩

/-- Operations that keep the metadata the phase depends on. -/
theorem ErasePhase.congr
    {before after : ItemStoreState}
    (phase : ErasePhase before dones)
    (flash : after.flash = before.flash)
    (listenerState : after.listenerState = before.listenerState)
    (parameters : after.eraseParameters = before.eraseParameters)
    (reminder : after.eraseReminder = before.eraseReminder)
    (samePage : ∀ item, writePage after item = writePage before item) :
    ErasePhase after dones := by
  have erasedUpTo {upTo : Nat} (erased : ErasedUpTo before upTo) :
      ErasedUpTo after upTo := by
    rw [ErasedUpTo, parameters, flash]
    exact erased
  cases phase with
  | idle rest quiet =>
      rw [← reminder] at quiet
      refine .idle ⟨listenerState.trans rest.listenerIdle, ?_⟩ quiet
      rw [flash]
      exact rest.flashIdle
  | running erasing target running started total erased =>
      rw [← flash] at running
      rw [← parameters] at started total
      exact .running (listenerState.trans erasing)
        (target.congr parameters samePage) running started total
        (erasedUpTo erased)
  | done erasing target flashIdle erased =>
      rw [← flash] at flashIdle
      refine .done (listenerState.trans erasing)
        (target.congr parameters samePage) flashIdle ?_
      rw [parameters]
      exact erasedUpTo erased

/-- Enumerations and errors keep the item store sound. -/
theorem SameContent.sound
    {before after : ItemStoreState}
    (same : SameContent before after)
    (sound : Sound before dones) :
    Sound after dones := by
  refine ⟨sound.phase.congr same.flash same.listenerState
    same.eraseParameters same.eraseReminder same.writePage_eq, ?_,
    fun item => same.placed (sound.placed item)⟩
  rw [same.eraseReminder]
  exact sound.reminder

/-- An executed add keeps the item store sound. -/
theorem Sound.added
    (sound : Sound state 0)
    (rest : AtRest state)
    (quiet : hasReminder state.eraseReminder = false)
    {item : ItemDef}
    {data : List Byte}
    {after : ItemStoreState}
    {ok : Bool}
    (result : addItem state item data = .ok (after, ok)) :
    Sound after 0 := by
  obtain ⟨settled, _⟩ := addItem_settled (sound.placed item) rest result
  obtain ⟨effects, extended⟩ := settled.extended
  refine ⟨?_, ?_, ?_⟩
  · rcases settled.phase with still | wrap
    · refine .idle still ?_
      rw [extended.eraseReminder]
      exact quiet
    · exact .running wrap.erasing
        (.wrap item wrap.keep wrap.single wrap.page) wrap.flash
        (Nat.le_of_eq wrap.page) (by rw [wrap.page, wrap.single])
        (by
          intro page lower upper
          rw [wrap.page] at lower
          omega)
  · rw [extended.eraseReminder]
    exact sound.reminder
  · intro other
    by_cases same : other = item
    · rw [same]
      exact settled.placed
    · exact (sound.placed other).frame rest extended (Ne.symm same)

/-- Nothing of a delete is done when it is started. -/
theorem phase_beginErase
    (item : ItemDef)
    (flashIdle : state.flash.Idle)
    (reminder : EraseParameters) :
    ErasePhase (beginErase (eraseOf item) reminder state) 0 := by
  have positive := (geometry item).nrOfPages_pos
  obtain ⟨fewer, pages⟩ := Nat.exists_eq_succ_of_ne_zero
    (Nat.ne_of_gt positive)
  have flash := flashIdle.eraseRequested (eraseOf item).pageNumber
    (eraseOf item).nrOfPages
  have count : (eraseOf item).nrOfPages = fewer + 1 := pages
  rw [count] at flash
  refine @ErasePhase.running _ rfl (.delete item rfl)
    (eraseOf item).pageNumber fewer ?_ (Nat.le_refl _) ?_ ?_
  · rw [beginErase, count]
    exact flash
  · rw [← count]
    rfl
  · intro page lower upper
    exact (Nat.not_lt_of_le lower upper).elim

/-- Starting a delete keeps the item store sound. -/
theorem Sound.beginErase
    (placed : ∀ item, Placed item state)
    (flashIdle : state.flash.Idle)
    (item : ItemDef)
    {reminder : EraseParameters}
    (quiet : hasReminder reminder = false)
    (erased : ∀ page, Condemned state page →
      Blank state.flash.memory page) :
    Sound (beginErase (eraseOf item) reminder state) 0 := by
  refine ⟨phase_beginErase item flashIdle reminder, ?_, ?_⟩
  · intro pending
    rw [ItemStore.beginErase, quiet] at pending
    cases pending
  · intro other
    exact (placed other).congr (placed other).static rfl rfl
      (Nat.le_refl _) (fun _ _ => rfl)
      (fun page _ doomed => .inr (erased page doomed))

/-- The condemned pages of a finished erase are blank. -/
theorem blank_of_condemned
    (erased :
      ErasedUpTo state
        (state.eraseParameters.pageNumber +
          state.eraseParameters.nrOfPages))
    {page : Nat}
    (doomed : Condemned state page) :
    Blank state.flash.memory page :=
  PageErased.blank (erased page doomed.2.1 doomed.2.2)

/-- What is left of the published ends of erases. -/
def donesAfter (dones : Nat) : Request → Nat
  | .eraseDone => 0
  | _ => dones

/-- The dispatch of a request keeps the item store sound. -/
theorem Sound.dispatch
    (sound : Sound state dones)
    (admissible : Admissible dones request)
    (dispatched : Dispatched state request handled) :
    Sound handled.state (donesAfter dones request) := by
  cases dispatched with
  | @added item data rest storeIdle after ok result =>
      obtain ⟨none, _, quiet⟩ := sound.phase.atRest rest.listenerIdle
      rw [none] at sound ⊢
      have addedSound := sound.added rest quiet result
      cases ok with
      | true => exact addedSound
      | false =>
          exact (sameContent_recoverableError after 0).sound addedSound
  | enumerated item enumerator rest storeIdle =>
      exact (sameContent_beginEnumerate state item enumerator).sound sound
  | ignored busy addOrEnumerate =>
      rcases addOrEnumerate with ⟨item, data, rfl⟩ | ⟨item, enumerator, rfl⟩
      · exact sound
      · exact sound
  | deleteStarted item rest =>
      obtain ⟨none, _, quiet⟩ := sound.phase.atRest rest.listenerIdle
      rw [none]
      exact Sound.beginErase sound.placed rest.flashIdle item quiet
        (fun page doomed => (rest.notCondemned page doomed).elim)
  | reminded item erasing =>
      refine ⟨?_, fun _ => ⟨item, rfl⟩, ?_⟩
      · cases sound.phase with
        | idle rest quiet =>
            rw [rest.listenerIdle] at erasing
            cases erasing
        | running erasing target flash started total erased =>
            exact .running erasing (target.congr rfl fun _ => rfl) flash started
              total erased
        | done erasing target flashIdle erased =>
            exact .done erasing (target.congr rfl fun _ => rfl) flashIdle erased
      · intro other
        exact (sound.placed other).congr (sound.placed other).static rfl
          rfl (Nat.le_refl _) (fun _ _ => rfl)
          (fun page _ doomed => .inl doomed)
  | restarted item erasing reminder =>
      cases admissible with
      | eraseDone published =>
          rw [published] at sound
          obtain ⟨_, target, flashIdle, erased⟩ := sound.phase.finished
          exact Sound.beginErase sound.placed flashIdle item
            hasReminder_noReminder
            (fun page doomed => blank_of_condemned erased doomed)
  | deleted item erasing quiet parameters =>
      cases admissible with
      | eraseDone published =>
          rw [published] at sound
          obtain ⟨_, target, flashIdle, erased⟩ := sound.phase.finished
          have was := sound.placed item
          have blank := blank_of_finished parameters erased
          refine ⟨.idle ⟨rfl, flashIdle⟩ quiet, sound.reminder, ?_⟩
          intro other
          by_cases same : other = item
          · rw [same]
            exact placed_reinitialised was.static was.count_le blank
          · have info : (reinitialised item
                { state with listenerState := .idle }).itemStore other =
                  state.itemStore other :=
              modifyInfo_other _ _ same
            refine (sound.placed other).congr ?_ (by rw [info])
              (by rw [info]) (by rw [info]) (fun _ _ => rfl)
              (fun page _ doomed =>
                .inr (blank_of_condemned erased doomed))
            rw [info]
            exact (sound.placed other).static
  | wrapped item erasing quiet keep page =>
      cases admissible with
      | eraseDone published =>
          rw [published] at sound
          obtain ⟨_, target, flashIdle, erased⟩ := sound.phase.finished
          refine ⟨.idle ⟨rfl, flashIdle⟩ quiet, sound.reminder, ?_⟩
          intro other
          exact (sound.placed other).congr (sound.placed other).static rfl
            rfl (Nat.le_refl _) (fun _ _ => rfl)
            (fun page _ doomed =>
              .inr (blank_of_condemned erased doomed))

/--
The registered callbacks stay, and only the begin of an enumeration changes
the state of a store.
-/
theorem Sound.keepsClients
    (sound : Sound state dones)
    (dispatched : Dispatched state request handled)
    (item : ItemDef) :
    (handled.state.itemStore item).enumeratorStatusCb =
        (state.itemStore item).enumeratorStatusCb ∧
      ((∀ item enumerator, request ≠ .beginEnumerate item enumerator) →
        (handled.state.itemStore item).currentState =
          (state.itemStore item).currentState) := by
  cases dispatched with
  | @added other data rest storeIdle after ok result =>
      obtain ⟨settled, _⟩ := addItem_settled (sound.placed other) rest result
      obtain ⟨effects, extended⟩ := settled.extended
      have kept : (after.itemStore item).enumeratorStatusCb =
            (state.itemStore item).enumeratorStatusCb ∧
          (after.itemStore item).currentState =
            (state.itemStore item).currentState := by
        by_cases same : item = other
        · rw [same]
          exact ⟨extended.enumeratorStatusCb, extended.currentState⟩
        · rw [extended.others item same]
          exact ⟨rfl, rfl⟩
      cases ok with
      | true => exact ⟨kept.1, fun _ => kept.2⟩
      | false => exact ⟨kept.1, fun _ => kept.2⟩
  | enumerated other enumerator rest storeIdle =>
      refine ⟨?_, fun noEnumeration =>
        (noEnumeration other enumerator rfl).elim⟩
      exact beginEnumerate_enumeratorStatusCb state other enumerator item
  | ignored busy addOrEnumerate => exact ⟨rfl, fun _ => rfl⟩
  | deleteStarted other rest => exact ⟨rfl, fun _ => rfl⟩
  | reminded other erasing => exact ⟨rfl, fun _ => rfl⟩
  | restarted other erasing reminder => exact ⟨rfl, fun _ => rfl⟩
  | deleted other erasing quiet parameters =>
      by_cases same : item = other
      · rw [same, reinitialised, modifyInfo_same]
        exact ⟨rfl, fun _ => rfl⟩
      · rw [reinitialised, modifyInfo_other _ _ same]
        exact ⟨rfl, fun _ => rfl⟩
  | wrapped other erasing quiet keep page => exact ⟨rfl, fun _ => rfl⟩

/-- The metadata after `ItemStore_DeleteAllItems`. -/
def countersCleared (item : ItemDef) (state : ItemStoreState) :
    ItemStoreState :=
  modifyInfo state item fun info =>
    { info with nrOfFullPages := 0, currentPageNrOfItems := 0 }

/-- The assertion of `ItemStore_DeleteAllItems` holds. -/
theorem deleteAllItems_eq
    {item : ItemDef}
    (static : StaticInfo item (state.itemStore item)) :
    deleteAllItems state item =
      .ok (countersCleared item state, eraseOf item) := by
  have cleared : StaticInfo item
      ((countersCleared item state).itemStore item) := by
    rw [countersCleared, modifyInfo_same]
    exact { static with }
  have parameters := deleteParameters_eq cleared
  have inRange :
      (eraseOf item).pageNumber ≥ systemConfigFirstPage ∧
        (eraseOf item).nrOfPages <
          measurementValuesLastPage - systemConfigFirstPage + 1 := by
    cases item <;> decide
  unfold countersCleared at parameters
  simp only [deleteAllItems, parameters]
  rw [if_neg (not_not_intro inRange)]
  rfl

/-- `ItemStore_DeleteAllItems` keeps the item store sound. -/
theorem Sound.countersCleared
    (sound : Sound state dones)
    (item : ItemDef) :
    Sound (countersCleared item state) dones := by
  have fields (other : ItemDef) :
      StaticInfo other ((ItemStore.countersCleared item state).itemStore
          other) ∧
        ((ItemStore.countersCleared item state).itemStore
            other).nextWritePageInfo =
          (state.itemStore other).nextWritePageInfo ∧
        ((ItemStore.countersCleared item state).itemStore
            other).oldestPageInfo =
          (state.itemStore other).oldestPageInfo ∧
        ((ItemStore.countersCleared item state).itemStore
            other).currentPageNrOfItems ≤
          (state.itemStore other).currentPageNrOfItems := by
    have static := (sound.placed other).static
    by_cases same : other = item
    · rw [same] at static ⊢
      rw [ItemStore.countersCleared, modifyInfo_same]
      exact ⟨{ static with }, rfl, rfl, Nat.zero_le _⟩
    · rw [ItemStore.countersCleared, modifyInfo_other _ _ same]
      exact ⟨static, rfl, rfl, Nat.le_refl _⟩
  refine ⟨sound.phase.congr rfl rfl rfl rfl ?_, sound.reminder, ?_⟩
  · intro other
    rw [writePage, (fields other).2.1, writePage]
  · intro other
    obtain ⟨static, writes, oldest, count_le⟩ := fields other
    exact (sound.placed other).congr static writes oldest count_le
      (fun _ _ => rfl) (fun _ _ doomed => .inl doomed)

end Dispatch

end DemoBoard.ItemStore
