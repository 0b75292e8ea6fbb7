import DemoBoard.ItemStoreSpared

namespace DemoBoard.ItemStore

open ByteMemory

/-!
# Logs between two messages

`Tracks` speaks of an item store at rest.  Here the metadata and the pages of
one store describe a log while the listener may be busy with the other store,
or with the erase of the oldest page that an add of this store has requested.
-/

/-- The metadata and the pages of a store describe a log. -/
structure Holds
    (item : ItemDef) (log : StoreLog) (stale : Nat)
    (state : ItemStoreState) : Prop where
  regular : log.Regular (geometry item)
  stale_le : stale ≤ (geometry item).capacity
  image : StoreImage item log state.flash.memory
  info : InfoMatches item log stale (state.itemStore item)

/-- The erase of the page for the next item of a store is not finished. -/
structure Wrapping
    (item : ItemDef) (log : StoreLog) (stale : Nat)
    (state : ItemStoreState) : Prop where
  regular : log.Regular (geometry item)
  stale_le : stale ≤ (geometry item).capacity
  info : InfoMatches item log stale (state.itemStore item)
  notOpened : log.opened = false
  last : log.closed + 1 = log.oldest + (geometry item).nrOfPages
  image : ∀ ordinal, log.oldest ≤ ordinal → ordinal < log.closed →
    PageHolds state.flash.memory (geometry item).itemSize
      ((geometry item).pageOf ordinal)
      (headerOf item log ordinal) (pageItems item log ordinal)
  erasing : state.listenerState = .erasing
  keep : state.eraseParameters.reinit = false
  single : state.eraseParameters.nrOfPages = 1
  page :
    state.eraseParameters.pageNumber = (geometry item).pageOf log.closed

/-- The addresses of the pages of a store. -/
def ProgramsStore
    (item : ItemDef) (memory : Memory) (effects : List FlashEffect) :
    Prop :=
  ProgramsErased (pageAddr (geometry item).firstPage)
    (pageAddr ((geometry item).firstPage + (geometry item).nrOfPages))
    memory effects

section Logs

variable {item : ItemDef}
variable {log : StoreLog}
variable {stale : Nat}
variable {state before after : ItemStoreState}
variable {memory : Memory}
variable {effects : List FlashEffect}

theorem Tracks.holds
    (tracks : Tracks item log stale state)
    (regular : log.Regular (geometry item))
    (stale_le : stale ≤ (geometry item).capacity) :
    Holds item log stale state where
  regular := regular
  stale_le := stale_le
  image := tracks.image
  info := tracks.info

theorem Holds.tracks
    (holds : Holds item log stale state)
    (rest : AtRest state)
    (quiet : hasReminder state.eraseReminder = false) :
    Tracks item log stale state where
  idle := rest.flashIdle
  listenerIdle := rest.listenerIdle
  noReminder := quiet
  wellFormed := holds.regular.wellFormed
  image := holds.image
  info := holds.info

/-- A store that is the same describes the same log. -/
theorem Holds.congr
    (holds : Holds item log stale before)
    (same : SameStore item before after) :
    Holds item log stale after where
  regular := holds.regular
  stale_le := holds.stale_le
  image := by
    intro ordinal lower upper
    have inside := (geometry item).pageOf_inside ordinal
    exact (holds.image ordinal lower upper).congr
      (same.memory.mono inside.1 inside.2)
  info := by
    rw [same.info]
    exact holds.info

/-- What an enumeration changes does not matter to the log. -/
theorem InfoMatches.sameContent
    (described : InfoMatches item log stale (before.itemStore item))
    (same : SameContent before after) :
    InfoMatches item log stale (after.itemStore item) := by
  obtain ⟨_, _, _, info⟩ := same.info item
  rw [info]
  exact
    { firstPage_eq := described.firstPage_eq
      lastPage_eq := described.lastPage_eq
      itemSize_eq := described.itemSize_eq
      nrOfPages_eq := described.nrOfPages_eq
      nextWritePageInfo_eq := described.nextWritePageInfo_eq
      oldestPageInfo_eq := described.oldestPageInfo_eq
      nrOfFullPages_eq := described.nrOfFullPages_eq
      currentPageNrOfItems_eq := described.currentPageNrOfItems_eq }

theorem Holds.sameContent
    (holds : Holds item log stale before)
    (same : SameContent before after) :
    Holds item log stale after where
  regular := holds.regular
  stale_le := holds.stale_le
  image := by
    rw [same.flash]
    exact holds.image
  info := holds.info.sameContent same

theorem Wrapping.sameContent
    (wrapping : Wrapping item log stale before)
    (same : SameContent before after) :
    Wrapping item log stale after where
  regular := wrapping.regular
  stale_le := wrapping.stale_le
  info := wrapping.info.sameContent same
  notOpened := wrapping.notOpened
  last := wrapping.last
  image := by
    rw [same.flash]
    exact wrapping.image
  erasing := same.listenerState.trans wrapping.erasing
  keep := by
    rw [same.eraseParameters]
    exact wrapping.keep
  single := by
    rw [same.eraseParameters]
    exact wrapping.single
  page := by
    rw [same.eraseParameters]
    exact wrapping.page

theorem Wrapping.congr
    (wrapping : Wrapping item log stale before)
    (info : after.itemStore item = before.itemStore item)
    (memory :
      AgreeOn after.flash.memory before.flash.memory
          (pageAddr (geometry item).firstPage)
          (pageAddr
            ((geometry item).firstPage + (geometry item).nrOfPages)) ∨
        after.flash.memory =
          erasePage before.flash.memory ((geometry item).pageOf log.closed))
    (erasing : after.listenerState = before.listenerState)
    (parameters : after.eraseParameters = before.eraseParameters) :
    Wrapping item log stale after where
  regular := wrapping.regular
  stale_le := wrapping.stale_le
  info := by
    rw [info]
    exact wrapping.info
  notOpened := wrapping.notOpened
  last := wrapping.last
  image := by
    intro ordinal lower upper
    refine (wrapping.image ordinal lower upper).congr ?_
    rcases memory with agree | erased
    · have inside := (geometry item).pageOf_inside ordinal
      exact agree.mono inside.1 inside.2
    · rw [erased]
      refine erasePage_agreeOn _ ?_
      intro same
      have last := wrapping.last
      have sameOrdinal := (geometry item).pageOf_injective
        lower (by omega) wrapping.regular.wellFormed.oldest_le
        (by omega) same
      omega
  erasing := erasing.trans wrapping.erasing
  keep := by
    rw [parameters]
    exact wrapping.keep
  single := by
    rw [parameters]
    exact wrapping.single
  page := by
    rw [parameters]
    exact wrapping.page

/-- The erase of the page for the next item is finished. -/
theorem Wrapping.finished
    (wrapping : Wrapping item log stale before)
    (erased :
      ErasedUpTo before
        (before.eraseParameters.pageNumber +
          before.eraseParameters.nrOfPages))
    (same : SameStore item before after) :
    Holds item log stale after := by
  have last := wrapping.last
  refine @Holds.congr item log stale before after ?_ same
  refine ⟨wrapping.regular, wrapping.stale_le, ?_, wrapping.info⟩
  intro ordinal lower upper
  by_cases current : ordinal = log.closed
  · have blank := erased ((geometry item).pageOf log.closed)
      (Nat.le_of_eq wrapping.page)
      (by rw [wrapping.page, wrapping.single]; exact Nat.lt_succ_self _)
    have slots :=
      wrapping.regular.wellFormed.items_eq wrapping.notOpened
    have empty : pageItems item log log.closed = [] := by
      apply List.eq_nil_of_length_eq_zero
      rw [pageItems, SegmentedLog.length_segment]
      omega
    rw [current, headerOf_notOpened item wrapping.notOpened, empty]
    exact PageHolds.of_constantOn blank
  · exact wrapping.image ordinal lower (by omega)

theorem ProgramsErased.mono
    {first last lower upper : Nat}
    (programs : ProgramsErased first last memory effects)
    (first_ge : lower ≤ first)
    (last_le : last ≤ upper) :
    ProgramsErased lower upper memory effects := by
  induction effects generalizing memory with
  | nil => trivial
  | cons effect rest inductionHypothesis =>
      refine ⟨?_, inductionHypothesis programs.2⟩
      intro address programmed
      obtain ⟨inside, within, erased⟩ := programs.1 address programmed
      exact ⟨Nat.le_trans first_ge inside, Nat.le_trans within last_le,
        erased⟩

/-- Programs of the current page are programs of the store. -/
theorem programsStore_currentPage
    (programs : StoreImage.ProgramsCurrentPage item log memory effects) :
    ProgramsStore item memory effects := by
  have inside := (geometry item).pageOf_inside log.closed
  exact ProgramsErased.mono programs inside.1 inside.2

/-- A store without pages describes the empty log. -/
theorem holds_reinitialised
    (static : StaticInfo item (state.itemStore item))
    (noFullPages : (state.itemStore item).nrOfFullPages = 0)
    (noItems : (state.itemStore item).currentPageNrOfItems = 0)
    (erased : ∀ page, InStore item page →
      PageErased state.flash.memory page) :
    Holds item StoreLog.empty 0 (reinitialised item state) where
  regular := StoreLog.regular_empty _
  stale_le := Nat.zero_le _
  image :=
    storeImage_empty fun ordinal => erased _ (pageOf_inStore item ordinal)
  info := by
    rw [reinitialised, modifyInfo_same]
    exact
      { static with
        nextWritePageInfo_eq :=
          initialTag_eq static (Nat.zero_mod _) rfl
        oldestPageInfo_eq := initialTag_eq static (Nat.zero_mod _) rfl
        nrOfFullPages_eq := noFullPages
        currentPageNrOfItems_eq := noItems }

/-- Requesting the erase of the oldest page changes no flash page. -/
theorem extends_erasingOldest
    (item : ItemDef)
    (log : StoreLog)
    (state : ItemStoreState) :
    Extends item [] state (erasingOldest item log state) where
  history := (List.append_nil _).symm
  memory := rfl
  inside := nofun
  others := by
    intro other different
    simp [erasingOldest, modifyInfo_other, different]
  currentState := by simp [erasingOldest]
  enumeratorStatus := by simp [erasingOldest]
  enumeratorStatusCb := by simp [erasingOldest]
  recoverableErrors := rfl
  eraseReminder := rfl

/-- The store waits for the erase of its oldest page. -/
theorem wrapping_erasingOldest
    (tracks : Tracks item log stale state)
    (regular : log.dropOldest.Regular (geometry item))
    (stale_le : stale ≤ (geometry item).capacity)
    (notOpened : log.opened = false)
    (full : log.closed = log.oldest + (geometry item).nrOfPages) :
    Wrapping item log.dropOldest stale (erasingOldest item log state) where
  regular := regular
  stale_le := stale_le
  info := by
    have fullPages := tracks.info.nrOfFullPages_eq
    have few := (geometry item).nrOfPages_le
    have several := (geometry item).nrOfPages_pos
    simp only [erasingOldest, modifyInfo_same]
    exact
      { tracks.info with
        oldestPageInfo_eq := rfl
        nrOfFullPages_eq := by
          simp only [fullPages, StoreLog.dropOldest]
          omega }
  notOpened := notOpened
  last := by
    simp only [StoreLog.dropOldest]
    omega
  image := by
    intro ordinal lower upper
    simp only [StoreLog.dropOldest] at lower upper
    exact tracks.image ordinal (by omega) (by omega)
  erasing := rfl
  keep := rfl
  single := rfl
  page := by
    have turn := (geometry item).pageOf_add_nrOfPages log.oldest
    rw [← full] at turn
    exact turn.symm

/-- What an executed add leads to. -/
structure Added
    (item : ItemDef) (log : StoreLog)
    (before after : ItemStoreState) : Prop where
  effects : ∃ effects, Extends item effects before after ∧
    ProgramsStore item before.flash.memory effects
  leads :
    AtRest after ∧
        (∃ stale,
          (log.opened = true ∨ stale = (geometry item).capacity) ∧
            Holds item log stale after) ∨
      Wrapping item log (geometry item).capacity after

/-- `ClosePageIfFull` of a full page. -/
theorem closePageIfFull_added
    (tracks : Tracks item log stale state)
    (regular : (log.finishPage (geometry item)).Regular (geometry item))
    (opened : log.opened = true)
    (full : log.slot (geometry item) = (geometry item).capacity) :
    ∃ after,
      closePageIfFull state item = .ok (after, true) ∧
        Added item (log.finishPage (geometry item)) state after := by
  have inWindow := tracks.wellFormed.closed_lt opened
  have programs := programsStore_currentPage
    (tracks.image.programs_closeEffects tracks.wellFormed opened)
  obtain ⟨closed, shape, pointed, closedTracks, closedExtends⟩ :=
    closePageIfFull_eq tracks opened full
  by_cases last : log.closed + 1 = log.oldest + (geometry item).nrOfPages
  · rw [StoreLog.finishPage, if_pos last] at regular ⊢
    have adjusted := adjustNextWritePage_full closedTracks last rfl pointed
    have requested := extends_erasingOldest item log.closePage closed
    refine ⟨_, shape.trans adjusted, ?_, .inr ?_⟩
    · refine ⟨_, closedExtends.trans requested, ?_⟩
      rw [List.append_nil]
      exact programs
    · exact wrapping_erasingOldest closedTracks regular (Nat.le_refl _) rfl
        last
  · rw [StoreLog.finishPage, if_neg last] at regular ⊢
    have adjusted := adjustNextWritePage_empty closedTracks rfl
      (show log.closed + 1 < log.oldest + (geometry item).nrOfPages by omega)
      rfl pointed
    exact ⟨closed, shape.trans adjusted, ⟨_, closedExtends, programs⟩,
      .inl ⟨⟨closedTracks.listenerIdle, closedTracks.idle⟩,
        _, .inr rfl, closedTracks.holds regular (Nat.le_refl _)⟩⟩

/-- `AddItem` of a store that describes a log. -/
theorem Holds.addItem
    (holds : Holds item log stale state)
    (rest : AtRest state)
    (quiet : hasReminder state.eraseReminder = false)
    {data : List Byte}
    (size : data.length = (geometry item).itemSize) :
    ∃ after,
      addItem state item data = .ok (after, true) ∧
        Added item (log.add (geometry item) data) state after := by
  have tracks := holds.tracks rest quiet
  have regular := holds.regular
  have grown := regular.wellFormed.slot_writeSlot data
  have later := regular.add size
  have room := regular.room
  have large := (geometry item).capacity_ge
  cases opened : log.opened with
  | false =>
      obtain ⟨after, added, addedTracks, addedExtends⟩ :=
        addItem_first tracks opened regular.inWindow regular.room size
      have slots := regular.wellFormed.items_eq opened
      have notFull :
          (log.openPage.writeSlot data).slot (geometry item) ≠
            (geometry item).capacity := by
        rw [grown, StoreLog.slot]
        omega
      have image :=
        tracks.image.openPage tracks.wellFormed regular.inWindow
      have programs :=
        (tracks.image.programs_openEffects tracks.wellFormed
          regular.inWindow opened).append
          (image.programs_itemEffects
            (regular.wellFormed.openPage regular.inWindow)
            regular.inWindow regular.room data)
      rw [StoreLog.add, if_neg notFull] at later ⊢
      exact ⟨after, added,
        ⟨_, addedExtends, programsStore_currentPage programs⟩,
        .inl ⟨⟨addedTracks.listenerIdle, addedTracks.idle⟩,
          _, .inl rfl, addedTracks.holds later holds.stale_le⟩⟩
  | true =>
      obtain ⟨middle, added, middleTracks, middleExtends⟩ :=
        addItem_opened tracks opened regular.room size
      have programs := programsStore_currentPage
        (tracks.image.programs_itemEffects tracks.wellFormed
          regular.inWindow regular.room data)
      have sameLog : log.openPage = log := by
        rw [StoreLog.openPage, ← opened]
      rw [sameLog] at grown
      rw [StoreLog.add, sameLog] at later ⊢
      by_cases full :
          (log.writeSlot data).slot (geometry item) =
            (geometry item).capacity
      · simp only [full, if_true] at later ⊢
        obtain ⟨after, closed, closing⟩ :=
          closePageIfFull_added middleTracks later opened full
        obtain ⟨effects, extended, closingPrograms⟩ := closing.effects
        refine ⟨after, added.trans closed, ?_, closing.leads⟩
        refine ⟨_, middleExtends.trans extended, programs.append ?_⟩
        rw [← middleExtends.memory]
        exact closingPrograms
      · simp only [full, if_false] at later ⊢
        have counted := middleTracks.info.currentPageNrOfItems_eq
        rw [if_pos (show (log.writeSlot data).opened = true from opened)]
          at counted
        have finished := closePageIfFull_room
          middleTracks.info.toStaticInfo (by omega)
        exact ⟨middle, added.trans finished,
          ⟨_, middleExtends, programs⟩,
          .inl ⟨⟨middleTracks.listenerIdle, middleTracks.idle⟩,
            _, .inl opened, middleTracks.holds later holds.stale_le⟩⟩

/-- The page for the next item of a log. -/
theorem Holds.writePage_eq
    (holds : Holds item log stale state) :
    writePage state item = (geometry item).pageOf log.closed := by
  rw [writePage, holds.info.nextWritePageInfo_eq, beginTagOf]
  exact (geometry item).toNat_pageOf log.closed

/-- The current page of a log has a header once it is opened. -/
theorem Holds.begun
    (holds : Holds item log stale state)
    (opened : log.opened = true) :
    ¬ Blank state.flash.memory (writePage state item) := by
  have inWindow := holds.regular.wellFormed.closed_lt opened
  have page := holds.image log.closed
    holds.regular.wellFormed.oldest_le inWindow
  rw [holds.writePage_eq, Blank, headerBytes, page.header_eq,
    headerOf_opened item opened, PageHeader.toBytes, hasNoData_append,
    PageBeginTag.hasNoData_toBytes rfl, Bool.false_and]
  exact Bool.false_ne_true

/-- Both stores are empty after a boot over erased flash. -/
theorem holds_erasedFlash :
    ∃ store, init (powerOn erasedFlash) = .ok store ∧ Booted store ∧
      AtRest store ∧ hasReminder store.eraseReminder = false ∧
      ∀ item, Holds item StoreLog.empty 0 store := by
  obtain ⟨store, boots, each⟩ := init_empty
  have settings := (each .systemConfig).1
  refine ⟨store, boots, ?_, ⟨settings.listenerIdle, settings.idle⟩,
    settings.noReminder, ?_⟩
  · intro item
    exact ⟨⟨StoreLog.empty, 0, Nat.zero_le _, StoreLog.regular_empty _,
      (each item).1⟩, (each item).2⟩
  · intro item
    exact (each item).1.holds (StoreLog.regular_empty _) (Nat.zero_le _)

/-- An add that leaves room on its page. -/
theorem Holds.addItem_room
    (holds : Holds item log stale state)
    (rest : AtRest state)
    (quiet : hasReminder state.eraseReminder = false)
    {data : List Byte}
    (size : data.length = (geometry item).itemSize)
    (room : log.slot (geometry item) + 1 < (geometry item).capacity) :
    ∃ after effects stale,
      ItemStore.addItem state item data = .ok (after, true) ∧
        Extends item effects state after ∧
        AtRest after ∧
        Holds item (log.openPage.writeSlot data) stale after := by
  have grown := holds.regular.wellFormed.slot_writeSlot data
  obtain ⟨after, added, leads⟩ := holds.addItem rest quiet size
  rw [StoreLog.add, if_neg (by omega)] at leads
  obtain ⟨effects, extended, _⟩ := leads.effects
  rcases leads.leads with ⟨atRest, stale, _, later⟩ | wrapping
  · exact ⟨after, effects, stale, added, extended, atRest, later⟩
  · have opened := wrapping.notOpened
    cases opened

/-- An add to an empty store. -/
theorem addItem_empty
    (holds : Holds item StoreLog.empty 0 state)
    (rest : AtRest state)
    (quiet : hasReminder state.eraseReminder = false)
    {data : List Byte}
    (size : data.length = (geometry item).itemSize) :
    ∃ after effects stale,
      addItem state item data = .ok (after, true) ∧
        Extends item effects state after ∧
        AtRest after ∧
        Holds item (StoreLog.empty.openPage.writeSlot data) stale after := by
  have large := (geometry item).capacity_ge
  have slot : StoreLog.empty.slot (geometry item) = 0 := by
    simp [StoreLog.slot, StoreLog.empty]
  exact holds.addItem_room rest quiet size (by omega)

end Logs

/-- The dispatch of an add that succeeds. -/
theorem queueStep_added
    {store after : ItemStoreState}
    {item : ItemDef}
    {data : List Byte}
    (listens : store.listenerState = .idle)
    (storeIdle : (store.itemStore item).currentState = .idle)
    (added : addItem store item data = .ok (after, true))
    (rest : List Request) :
    queueStep { store := store, queue := .addItem item data :: rest }
        .dispatch =
      .ok { store := after, queue := rest } := by
  have handled :
      listener store (.addItem item data) =
        idleState store (.addItem item data) := by
    rw [listener, listens]
    simp only [listenerIdleState, Request.item, storeIdle]
  simp only [queueStep, handled, idleState, added]
  rfl

end DemoBoard.ItemStore
