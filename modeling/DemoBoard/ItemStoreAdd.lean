import DemoBoard.ItemStoreLog

namespace DemoBoard.ItemStore

open ByteMemory

/-!
# Adding items

`Tracks` relates the variables of the item store and the flash array to a log.
Every write of `AddItem` is one step of the log, so an add that runs to
completion, including the page erase it may trigger, appends one item to it.
-/

/-- The constant fields of the metadata of a store. -/
structure StaticInfo (item : ItemDef) (info : ItemStoreInfo) : Prop where
  firstPage_eq : info.firstPage = (geometry item).firstPage
  lastPage_eq :
    info.lastPage + 1 =
      (geometry item).firstPage + (geometry item).nrOfPages
  itemSize_eq : info.itemSize = (geometry item).itemSize
  nrOfPages_eq : info.nrOfPages = (geometry item).nrOfPages

/--
The metadata of a store describes a log.  `stale` is the item count that is
left over while the current page is not opened.
-/
structure InfoMatches
    (item : ItemDef) (log : StoreLog) (stale : Nat)
    (info : ItemStoreInfo) : Prop extends StaticInfo item info where
  nextWritePageInfo_eq :
    info.nextWritePageInfo = beginTagOf item log log.closed
  oldestPageInfo_eq :
    info.oldestPageInfo = beginTagOf item log log.oldest
  nrOfFullPages_eq : info.nrOfFullPages = log.closed - log.oldest
  currentPageNrOfItems_eq :
    info.currentPageNrOfItems =
      if log.opened then log.slot (geometry item) else stale

/-- The item store is at rest and describes a log. -/
structure Tracks
    (item : ItemDef) (log : StoreLog) (stale : Nat)
    (state : ItemStoreState) : Prop where
  idle : state.flash.Idle
  listenerIdle : state.listenerState = .idle
  noReminder : hasReminder state.eraseReminder = false
  wellFormed : log.WellFormed (geometry item)
  image : StoreImage item log state.flash.memory
  info : InfoMatches item log stale (state.itemStore item)

/-- What a flash operation of one store changes, and nothing else. -/
structure Extends
    (item : ItemDef) (effects : List FlashEffect)
    (before after : ItemStoreState) : Prop where
  history :
    after.flash.history = before.flash.history ++ effects
  memory :
    after.flash.memory = applyEffects before.flash.memory effects
  inside : ∀ effect ∈ effects,
    effect.Inside (geometry item).firstPage (geometry item).nrOfPages
  others : ∀ other, other ≠ item →
    after.itemStore other = before.itemStore other
  currentState :
    (after.itemStore item).currentState =
      (before.itemStore item).currentState
  enumeratorStatus :
    (after.itemStore item).enumeratorStatus =
      (before.itemStore item).enumeratorStatus
  enumeratorStatusCb :
    (after.itemStore item).enumeratorStatusCb =
      (before.itemStore item).enumeratorStatusCb
  recoverableErrors : after.recoverableErrors = before.recoverableErrors
  eraseReminder : after.eraseReminder = before.eraseReminder

theorem Extends.refl (item : ItemDef) (state : ItemStoreState) :
    Extends item [] state state :=
  ⟨by simp, rfl, by simp, fun _ _ => rfl, rfl, rfl, rfl, rfl, rfl⟩

theorem Extends.trans
    {item : ItemDef}
    {first second : List FlashEffect}
    {before middle after : ItemStoreState}
    (left : Extends item first before middle)
    (right : Extends item second middle after) :
    Extends item (first ++ second) before after where
  history := by
    rw [right.history, left.history, List.append_assoc]
  memory := by
    rw [right.memory, left.memory, applyEffects_append]
  inside := by
    intro effect member
    rcases List.mem_append.mp member with earlier | later
    · exact left.inside effect earlier
    · exact right.inside effect later
  others := fun other different =>
    (right.others other different).trans (left.others other different)
  currentState := right.currentState.trans left.currentState
  enumeratorStatus := right.enumeratorStatus.trans left.enumeratorStatus
  enumeratorStatusCb :=
    right.enumeratorStatusCb.trans left.enumeratorStatusCb
  recoverableErrors := right.recoverableErrors.trans left.recoverableErrors
  eraseReminder := right.eraseReminder.trans left.eraseReminder

/-- `NEXT_PAGE_NR` steps through the pages of the ring. -/
theorem nextPageNr_pageOf
    {item : ItemDef}
    {info : ItemStoreInfo}
    (static : StaticInfo item info)
    (ordinal : Nat) :
    nextPageNr info ((geometry item).pageOf ordinal) =
      (geometry item).pageOf (ordinal + 1) := by
  have last := static.lastPage_eq
  have positive := (geometry item).nrOfPages_pos
  have place := SegmentedLog.succ_place positive ordinal
  have bound := Nat.mod_lt ordinal positive
  simp only [nextPageNr, StoreGeometry.pageOf, static.firstPage_eq]
  rw [place]
  split
  · rw [if_pos (by omega), Nat.add_zero]
  · rw [if_neg (by omega), Nat.add_assoc]

/-- The item store computes the capacity of its geometry. -/
theorem itemsOnFullPage_eq
    {item : ItemDef}
    {info : ItemStoreInfo}
    (static : StaticInfo item info) :
    itemsOnFullPage info = (geometry item).capacity := by
  rw [itemsOnFullPage, static.itemSize_eq, StoreGeometry.capacity]

/-- Reading the header of a page with known content. -/
theorem readHeader_eq
    {state : ItemStoreState}
    {itemSize page : Nat}
    {header : PageHeader}
    {items : List (List Byte)}
    (holds :
      PageHolds state.flash.memory itemSize page header items) :
    readHeader state page = some header := by
  rw [readHeader, Flash.read_eq _ _ (pageAddr_aligned page),
    holds.header_eq]
  simp

/-- The state after a successful flash write. -/
def written
    (state : ItemStoreState) (address : Nat) (bytes : List Byte)
    (words : Nat) : ItemStoreState :=
  { state with
    flash := state.flash.written address (bufferOf bytes) words }

@[simp] theorem written_itemStore
    (state : ItemStoreState)
    (address : Nat)
    (bytes : List Byte)
    (words : Nat) :
    (written state address bytes words).itemStore = state.itemStore :=
  rfl

theorem written_memory
    (state : ItemStoreState)
    (address : Nat)
    (bytes : List Byte)
    (words : Nat) :
    (written state address bytes words).flash.memory =
      applyEffects state.flash.memory
        (programEffects (bufferOf bytes) address 0 words) := by
  rw [applyEffects_programEffects]
  rfl

/-- A flash write and a change of the metadata. -/
theorem extends_written
    (item : ItemDef)
    (state : ItemStoreState)
    (bytes : List Byte)
    {address words : Nat}
    (ordinal : Nat)
    (lower : pageAddr ((geometry item).pageOf ordinal) ≤ address)
    (upper :
      address + 8 * words ≤
        pageAddr ((geometry item).pageOf ordinal) + flashPageSize)
    {change : ItemStoreInfo → ItemStoreInfo}
    (keepsState : ∀ info, (change info).currentState = info.currentState)
    (keepsStatus :
      ∀ info, (change info).enumeratorStatus = info.enumeratorStatus)
    (keepsCallback :
      ∀ info, (change info).enumeratorStatusCb = info.enumeratorStatusCb) :
    Extends item (programEffects (bufferOf bytes) address 0 words) state
      (modifyInfo (written state address bytes words) item change) where
  history := rfl
  memory := written_memory state address bytes words
  inside := by
    have page := (geometry item).pageOf_inside ordinal
    exact inside_programEffects _ 0 (by omega) (by omega)
  others := fun other different =>
    modifyInfo_other _ change different
  currentState := by
    simp [keepsState]
  enumeratorStatus := by
    simp [keepsStatus]
  enumeratorStatusCb := by
    simp [keepsCallback]
  recoverableErrors := rfl
  eraseReminder := rfl

/-- A flash write of whole double words to an erased range of a page. -/
theorem flashWrite_erased
    {state : ItemStoreState}
    (idle : state.flash.Idle)
    (item : ItemDef)
    (ordinal : Nat)
    {address count : Nat}
    (bytes : List Byte)
    (positive : 0 < count)
    (aligned : address % 8 = 0)
    (lower : pageAddr ((geometry item).pageOf ordinal) ≤ address)
    (upper :
      address + 8 * count ≤
        pageAddr ((geometry item).pageOf ordinal) + flashPageSize)
    (erased :
      ConstantOn state.flash.memory erasedByte address
        (address + 8 * count)) :
    flashWrite state address bytes (8 * count) =
      .ok (written state address bytes count, true) := by
  obtain ⟨fewer, rfl⟩ := Nat.exists_eq_succ_of_ne_zero
    (show count ≠ 0 by omega)
  have writable := (geometry item).pageOf_writable ordinal
  have range := pageAddr_writable writable.1 writable.2
  have success := Flash.write_erased (bufferOf bytes) fewer idle aligned
    (by omega) (by omega) erased
  rw [flashWrite, success]
  rfl

section Steps

variable {item : ItemDef}
variable {log : StoreLog}
variable {stale : Nat}
variable {state : ItemStoreState}

/-- The page the metadata names for the next item. -/
theorem InfoMatches.nextPage_eq
    {info : ItemStoreInfo}
    (matched : InfoMatches item log stale info) :
    info.nextWritePageInfo.pageId.toNat =
      (geometry item).pageOf log.closed := by
  rw [matched.nextWritePageInfo_eq]
  exact (geometry item).toNat_pageOf log.closed

/-- The first write to a page opens it. -/
theorem openPage_tracks
    (tracks : Tracks item log stale state)
    (notOpened : log.opened = false)
    (inWindow : log.closed < log.oldest + (geometry item).nrOfPages) :
    ∃ after,
      flashWrite state (pageAddr ((geometry item).pageOf log.closed))
          (state.itemStore item).nextWritePageInfo.toBytes
          pageBeginTagSize =
        .ok (after, true) ∧
      Tracks item log.openPage stale
        (modifyInfo after item fun info =>
          { info with currentPageNrOfItems := 0 }) ∧
      Extends item (openEffects item log) state
        (modifyInfo after item fun info =>
          { info with currentPageNrOfItems := 0 }) := by
  have holds := tracks.image.currentPage tracks.wellFormed inWindow
  have free := holds.beginTag_free
    (by rw [headerOf_notOpened item notOpened]; rfl)
  have success := flashWrite_erased tracks.idle item log.closed
    (state.itemStore item).nextWritePageInfo.toBytes
    (show 0 < 1 by omega) (pageAddr_aligned _) (Nat.le_refl _)
    (by simp [flashPageSize]) free
  refine ⟨_, success, ?_, ?_⟩
  · have image := tracks.image.openPage tracks.wellFormed inWindow
    have slots := tracks.wellFormed.items_eq notOpened
    have slot : log.openPage.slot (geometry item) = 0 := by
      simp only [StoreLog.slot, StoreLog.openPage]
      omega
    exact
      { idle := tracks.idle.written _ _ _
        listenerIdle := tracks.listenerIdle
        noReminder := tracks.noReminder
        wellFormed := tracks.wellFormed.openPage inWindow
        image := by
          rw [modifyInfo_flash, written_memory,
            tracks.info.nextWritePageInfo_eq]
          exact image
        info := by
          rw [modifyInfo_same]
          exact
            { tracks.info with
              currentPageNrOfItems_eq := slot.symm } }
  · rw [openEffects, ← tracks.info.nextWritePageInfo_eq]
    exact extends_written item state _ log.closed (Nat.le_refl _)
      (by simp [flashPageSize])
      (fun _ => rfl) (fun _ => rfl) (fun _ => rfl)

/-- `WriteItem` appends an item to the opened page. -/
theorem writeItem_tracks
    (tracks : Tracks item log stale state)
    (opened : log.opened = true)
    (room : log.slot (geometry item) < (geometry item).capacity)
    {data : List Byte}
    (size : data.length = (geometry item).itemSize) :
    ∃ after,
      writeItem state item data = .ok (after, true) ∧
      Tracks item (log.writeSlot data) stale after ∧
      Extends item
        (itemEffects item log data (geometry item).itemWords)
        state after := by
  have inWindow := tracks.wellFormed.closed_lt opened
  have holds := tracks.image.currentPage tracks.wellFormed inWindow
  have slots := tracks.wellFormed.length_pageItems
  have nextPage := tracks.info.nextPage_eq
  have slot :
      (state.itemStore item).currentPageNrOfItems =
        log.slot (geometry item) := by
    rw [tracks.info.currentPageNrOfItems_eq, if_pos opened]
  have address :
      pageAddr ((geometry item).pageOf log.closed) + pageHeaderSize +
          log.slot (geometry item) * (geometry item).itemSize =
        nextSlotAddress item log := rfl
  have start := slotAddress_ge (geometry item).itemSize
    ((geometry item).pageOf log.closed) (log.slot (geometry item))
  have fits := (geometry item).slotAddress_fits
    ((geometry item).pageOf log.closed)
    (show log.slot (geometry item) + 1 ≤ (geometry item).capacity by omega)
  rw [slotAddress_succ] at fits
  have free := holds.free
  rw [slots] at free
  have addressLower :
      pageAddr ((geometry item).pageOf log.closed) ≤
        nextSlotAddress item log := by
    rw [nextSlotAddress]
    omega
  have success := flashWrite_erased tracks.idle item log.closed data
    (geometry item).someWords
    ((geometry item).slotAddress_aligned _ _) addressLower fits
    (free.mono (Nat.le_refl _) fits)
  have lower := (geometry item).pageOf_ge log.closed
  have upper := (geometry item).pageOf_lt log.closed
  have firstPage := tracks.info.firstPage_eq
  have lastPage := tracks.info.lastPage_eq
  have inside :
      (state.itemStore item).firstPage ≤
          (geometry item).pageOf log.closed ∧
        (state.itemStore item).lastPage ≥
          (geometry item).pageOf log.closed := by
    omega
  refine
    ⟨modifyInfo
      (written state (nextSlotAddress item log) data
        (geometry item).itemWords) item
      (fun info =>
        { info with
          currentPageNrOfItems :=
            (info.currentPageNrOfItems + 1) % 65536 }), ?_, ?_, ?_⟩
  · simp only [writeItem]
    rw [nextPage, if_neg (not_not_intro inside), slot,
      tracks.info.itemSize_eq, address]
    rw [show (geometry item).itemSize = 8 * (geometry item).itemWords
      from rfl, nextSlotAddress, success]
    rfl
  · have image := tracks.image.writeSlot tracks.wellFormed inWindow
      room size
    have capacity := (geometry item).capacity_le
    exact
      { idle := tracks.idle.written _ _ _
        listenerIdle := tracks.listenerIdle
        noReminder := tracks.noReminder
        wellFormed := tracks.wellFormed.writeSlot opened room size
        image := by
          rw [modifyInfo_flash, written_memory,
            applyEffects_bufferOf _ _ _ size]
          exact image
        info := by
          rw [modifyInfo_same]
          have lowerItems := tracks.wellFormed.items_ge
          exact
            { tracks.info with
              currentPageNrOfItems_eq := by
                have grown :
                    (log.writeSlot data).slot (geometry item) =
                      log.slot (geometry item) + 1 := by
                  simp only [StoreLog.slot, StoreLog.writeSlot,
                    List.length_append, List.length_singleton]
                  omega
                rw [if_pos (show (log.writeSlot data).opened = true
                  from opened), grown]
                simp only [written_itemStore]
                rw [slot, Nat.mod_eq_of_lt (by omega)] } }
  · exact extends_written item state _ log.closed addressLower fits
      (fun _ => rfl) (fun _ => rfl) (fun _ => rfl)

/-- The metadata after `AdjustNextWritePage` has set the next page. -/
def pointTo
    (completeTag : PageCompleteTag) (info : ItemStoreInfo) :
    ItemStoreInfo :=
  { info with
    nextWritePageInfo :=
      { info.nextWritePageInfo with
        pageId := completeTag.nextPage
        blockId := completeTag.nextPageId } }

/-- `AdjustNextWritePage` when the next page is erased. -/
theorem adjustNextWritePage_erased
    {completeTag : PageCompleteTag}
    (read :
      readHeader state completeTag.nextPage.toNat =
        some PageHeader.erased) :
    adjustNextWritePage state item completeTag =
      .ok (modifyInfo state item (pointTo completeTag), true) := by
  have blank : hasNoData PageHeader.erased.toBytes = true := by
    decide
  simp only [adjustNextWritePage, read, blank, if_true]
  rfl

/-- `AdjustNextWritePage` for the log it leads to, when the page is erased. -/
theorem adjustNextWritePage_empty
    (tracks : Tracks item log stale state)
    (notOpened : log.opened = false)
    (inWindow : log.closed < log.oldest + (geometry item).nrOfPages)
    {before : ItemStoreState}
    {completeTag : PageCompleteTag}
    (nextPage :
      completeTag.nextPage =
        UInt8.ofNat ((geometry item).pageOf log.closed))
    (pointed :
      modifyInfo before item (pointTo completeTag) = state) :
    adjustNextWritePage before item completeTag = .ok (state, true) := by
  have holds := tracks.image.currentPage tracks.wellFormed inWindow
  have flash : before.flash = state.flash := by
    rw [← pointed]
    rfl
  rw [← flash, headerOf_notOpened item notOpened] at holds
  have header := readHeader_eq holds
  rw [← (geometry item).toNat_pageOf, ← nextPage] at header
  rw [adjustNextWritePage_erased header, pointed]

/-- The state in which the erase of the oldest page has been started. -/
def erasingOldest
    (item : ItemDef) (log : StoreLog) (state : ItemStoreState) :
    ItemStoreState :=
  { modifyInfo state item fun info =>
      { info with
        oldestPageInfo := beginTagOf item log (log.oldest + 1)
        nrOfFullPages := (info.nrOfFullPages + 255) % 256 } with
    eraseParameters :=
      { itemStore := (state.itemStore item).currentPageInfo.itemId
        nrOfPages := 1
        reinit := false
        pageNumber := (geometry item).pageOf log.oldest }
    listenerState := .erasing
    flash :=
      state.flash.erasePending ((geometry item).pageOf log.oldest) }

/-- `AdjustNextWritePage` starts the erase of the oldest page. -/
theorem adjustNextWritePage_full
    (tracks : Tracks item log stale state)
    (full : log.closed = log.oldest + (geometry item).nrOfPages)
    {before : ItemStoreState}
    {completeTag : PageCompleteTag}
    (nextPage :
      completeTag.nextPage =
        UInt8.ofNat ((geometry item).pageOf log.closed))
    (pointed :
      modifyInfo before item (pointTo completeTag) = state) :
    adjustNextWritePage before item completeTag =
      .ok (erasingOldest item log state, true) := by
  have several := (geometry item).severalPages
  have turn := (geometry item).pageOf_add_nrOfPages log.oldest
  rw [← full] at turn
  have flash : before.flash = state.flash := by
    rw [← pointed]
    rfl
  have oldestHolds := tracks.image log.oldest (Nat.le_refl _) (by omega)
  rw [headerOf_closed item (by omega)] at oldestHolds
  have nextHolds := tracks.image (log.oldest + 1) (by omega) (by omega)
  rw [headerOf_closed item (by omega)] at nextHolds
  have nextHeader := readHeader_eq nextHolds
  rw [← flash] at oldestHolds
  have oldestHeader := readHeader_eq oldestHolds
  have hasData :
      hasNoData
        (PageHeader.toBytes
          { beginTag := beginTagOf item log log.oldest
            completeTag := completeTagOf item log log.oldest }) =
        false := by
    rw [PageHeader.toBytes, hasNoData_append,
      PageBeginTag.hasNoData_toBytes rfl, Bool.false_and]
  have following :
      (completeTagOf item log log.oldest).nextPage.toNat =
        (geometry item).pageOf (log.oldest + 1) :=
    (geometry item).toNat_pageOf (log.oldest + 1)
  have lower := (geometry item).pageOf_ge log.oldest
  have upper := (geometry item).pageOf_lt log.oldest
  have firstPage := tracks.info.firstPage_eq
  have lastPage := tracks.info.lastPage_eq
  have page :
      completeTag.nextPage.toNat = (geometry item).pageOf log.oldest := by
    rw [nextPage, turn, (geometry item).toNat_pageOf]
  have oldestPage :
      (state.itemStore item).oldestPageInfo.pageId =
        completeTag.nextPage := by
    rw [tracks.info.oldestPageInfo_eq, nextPage, turn]
    rfl
  have writable := (geometry item).pageOf_writable log.oldest
  have started := Flash.erase_single tracks.idle writable.1 writable.2
  unfold pointTo at pointed
  simp only [adjustNextWritePage]
  rw [page, oldestHeader]
  simp only [pointed, hasData, following, nextHeader, Bool.false_eq_true,
    if_false]
  rw [if_neg (not_not_intro oldestPage), if_neg (by omega),
    if_neg (by omega), flashErase]
  simp only [modifyInfo_flash, started]
  rfl

/-- The end of an erase without a reminder makes the listener idle. -/
theorem listener_eraseDone
    (erasing : state.listenerState = .erasing)
    (quiet : hasReminder state.eraseReminder = false)
    (keep : state.eraseParameters.reinit = false) :
    listener state .eraseDone =
      .ok
        { state := { state with listenerState := .idle }
          consumed := true
          enumeration := none } := by
  simp [listener, erasing, listenerErasingState, quiet, keep]

/-- The erase of the oldest page completes and the listener is idle again. -/
theorem finishErase_erasingOldest
    (tracks : Tracks item log stale state)
    (full : log.closed = log.oldest + (geometry item).nrOfPages)
    (notOpened : log.opened = false) :
    ∃ after,
      finishErase (erasingOldest item log state) = .ok after ∧
      Tracks item log.dropOldest stale after ∧
      Extends item (eraseEffects item log) state after := by
  have several := (geometry item).severalPages
  have ended := Flash.endOfOperation_erasePending state.flash
    ((geometry item).pageOf log.oldest)
  have flash :
      (erasingOldest item log state).flash =
        state.flash.erasePending ((geometry item).pageOf log.oldest) := rfl
  have reminder :
      hasReminder (erasingOldest item log state).eraseReminder = false :=
    tracks.noReminder
  refine
    ⟨{ erasingOldest item log state with
        flash := state.flash.pageErased ((geometry item).pageOf log.oldest)
        listenerState := .idle }, ?_, ?_, ?_⟩
  · have onePage : (erasingOldest item log state).flash.pagesToErase = 1 :=
      rfl
    have step :
        eraseStep (erasingOldest item log state) =
          .ok
            { erasingOldest item log state with
              flash :=
                state.flash.pageErased ((geometry item).pageOf log.oldest)
              listenerState := .idle } := by
      have handled :=
        @listener_eraseDone
          { erasingOldest item log state with
            flash :=
              state.flash.pageErased ((geometry item).pageOf log.oldest) }
          rfl reminder rfl
      rw [eraseStep, flash, ended]
      simp only [handled]
      rfl
    rw [finishErase, onePage]
    simp only [List.range_one, List.foldlM_cons, List.foldlM_nil, step]
    rfl
  · have fullPages := tracks.info.nrOfFullPages_eq
    have few := (geometry item).nrOfPages_le
    exact
      { idle := tracks.idle.pageErased _
        listenerIdle := rfl
        noReminder := tracks.noReminder
        wellFormed := tracks.wellFormed.dropOldest full
        image := tracks.image.dropOldest tracks.wellFormed full notOpened
        info := by
          simp only [erasingOldest, modifyInfo_same]
          exact
            { tracks.info with
              oldestPageInfo_eq := rfl
              nrOfFullPages_eq := by
                simp only [fullPages, StoreLog.dropOldest]
                omega } }
  · exact
      { history := rfl
        memory := rfl
        inside := by
          intro effect member
          rw [List.mem_singleton.mp member]
          exact ⟨(geometry item).pageOf_ge _, (geometry item).pageOf_lt _⟩
        others := by
          intro other different
          simp [erasingOldest, modifyInfo_other, different]
        currentState := by simp [erasingOldest]
        enumeratorStatus := by simp [erasingOldest]
        enumeratorStatusCb := by simp [erasingOldest]
        recoverableErrors := rfl
        eraseReminder := rfl }

/-- `ClosePageIfFull` leaves a page with room alone. -/
theorem closePageIfFull_room
    (static : StaticInfo item (state.itemStore item))
    (room :
      (state.itemStore item).currentPageNrOfItems <
        (geometry item).capacity) :
    closePageIfFull state item = .ok (state, true) := by
  have fits := (geometry item).slotAddress_exceeds_iff
    (state.itemStore item).nextWritePageInfo.pageId.toNat
    (state.itemStore item).currentPageNrOfItems
  rw [slotAddress, ← static.itemSize_eq] at fits
  simp only [closePageIfFull]
  rw [if_neg]
  rw [fits]
  omega

/-- The tag that `ClosePageIfFull` prepares for a full page. -/
theorem closingTag_eq
    (wellFormed : log.WellFormed (geometry item))
    {info : ItemStoreInfo}
    (matched : InfoMatches item log stale info)
    (counted : info.currentPageNrOfItems = (geometry item).capacity) :
    closingTag info = completeTagOf item log log.closed := by
  have blockBound := wellFormed.blockId_lt log.closed
  have block :
      (UInt8.ofNat (log.blockId log.closed)).toNat =
        log.blockId log.closed := by
    rw [UInt8.toNat_ofNat', Nat.mod_eq_of_lt]
    simp only [maxBlockIndex] at blockBound
    omega
  have nextPage := matched.nextPage_eq
  rw [closingTag, nextPage, nextPageNr_pageOf matched.toStaticInfo,
    matched.nextWritePageInfo_eq, counted]
  simp only [beginTagOf, completeTagOf, block]

/-- The metadata after the complete tag of the current page is written. -/
def pageClosed
    (completeTag : PageCompleteTag) (info : ItemStoreInfo) :
    ItemStoreInfo :=
  { info with
    nrOfFullPages := (info.nrOfFullPages + 1) % 256
    nextWritePageInfo :=
      { info.nextWritePageInfo with
        blockId := completeTag.nextPageId
        pageId := completeTag.nextPage } }

/-- Writing the complete tag of a full page. -/
theorem closePage_tracks
    (tracks : Tracks item log stale state)
    (opened : log.opened = true)
    (full : log.slot (geometry item) = (geometry item).capacity) :
    let address :=
      pageAddr ((geometry item).pageOf log.closed) + pageBeginTagSize
    let completeTag := completeTagOf item log log.closed
    let after :=
      modifyInfo (written state address completeTag.toBytes 1) item
        (pageClosed completeTag)
    flashWrite state address completeTag.toBytes 8 =
        .ok (written state address completeTag.toBytes 1, true) ∧
      Tracks item log.closePage (geometry item).capacity after ∧
      Extends item (closeEffects item log) state after := by
  have inWindow := tracks.wellFormed.closed_lt opened
  have holds := tracks.image.currentPage tracks.wellFormed inWindow
  have free := holds.completeTag_free
    (by rw [headerOf_opened item opened])
  have aligned :=
    pageAddr_aligned ((geometry item).pageOf log.closed)
  have success := flashWrite_erased tracks.idle item log.closed
    (completeTagOf item log log.closed).toBytes
    (show 0 < 1 by omega)
    (show (pageAddr ((geometry item).pageOf log.closed) +
      pageBeginTagSize) % 8 = 0 by
        simp only [pageBeginTagSize]; omega)
    (Nat.le_add_right _ _)
    (by simp [pageBeginTagSize, flashPageSize]) free
  refine ⟨success, ?_, ?_⟩
  · have counted := tracks.info.currentPageNrOfItems_eq
    rw [if_pos opened, full] at counted
    have fullPages := tracks.info.nrOfFullPages_eq
    have few := (geometry item).nrOfPages_le
    have oldest := tracks.wellFormed.oldest_le
    have nextBlock :=
      tracks.wellFormed.blockId_succ log.closed (Nat.le_refl _)
    exact
      { idle := tracks.idle.written _ _ _
        listenerIdle := tracks.listenerIdle
        noReminder := tracks.noReminder
        wellFormed := tracks.wellFormed.closePage opened full
        image := by
          rw [modifyInfo_flash, written_memory]
          exact tracks.image.closePage tracks.wellFormed opened
        info := by
          rw [modifyInfo_same]
          exact
            { tracks.info with
              nextWritePageInfo_eq := by
                simp only [written_itemStore, pageClosed,
                  tracks.info.nextWritePageInfo_eq, beginTagOf,
                  completeTagOf, StoreLog.closePage, nextBlock]
              nrOfFullPages_eq := by
                simp only [written_itemStore, pageClosed, fullPages,
                  StoreLog.closePage]
                omega
              currentPageNrOfItems_eq := counted } }
  · exact extends_written item state _ log.closed
      (Nat.le_add_right _ _) (by simp [pageBeginTagSize, flashPageSize])
      (fun _ => rfl) (fun _ => rfl) (fun _ => rfl)

/-- Nothing is to be erased while the flash driver is idle. -/
theorem finishErase_idle
    (idle : state.flash.Idle) :
    finishErase state = .ok state := by
  rw [finishErase, idle.pagesToErase]
  rfl

/-- `ClosePageIfFull` on a full page, up to `AdjustNextWritePage`. -/
theorem closePageIfFull_eq
    (tracks : Tracks item log stale state)
    (opened : log.opened = true)
    (full : log.slot (geometry item) = (geometry item).capacity) :
    ∃ closed,
      closePageIfFull state item =
        adjustNextWritePage closed item
          (completeTagOf item log log.closed) ∧
      modifyInfo closed item
          (pointTo (completeTagOf item log log.closed)) = closed ∧
      Tracks item log.closePage (geometry item).capacity closed ∧
      Extends item (closeEffects item log) state closed := by
  have counted := tracks.info.currentPageNrOfItems_eq
  rw [if_pos opened, full] at counted
  have nextPage := tracks.info.nextPage_eq
  have tag := closingTag_eq tracks.wellFormed tracks.info counted
  have exceeds := ((geometry item).slotAddress_exceeds_iff
    ((geometry item).pageOf log.closed) (geometry item).capacity).mpr
      (Nat.le_refl _)
  rw [slotAddress] at exceeds
  obtain ⟨success, closedTracks, closedExtends⟩ :=
    closePage_tracks tracks opened full
  refine ⟨_, ?_, ?_, closedTracks, closedExtends⟩
  · simp only [closePageIfFull]
    rw [nextPage, counted, tracks.info.itemSize_eq, if_pos exceeds, tag,
      success]
    rfl
  · rw [modifyInfo_modifyInfo]
    rfl

/-- `ClosePageIfFull` closes a full page that precedes an erased one. -/
theorem closePageIfFull_next
    (tracks : Tracks item log stale state)
    (opened : log.opened = true)
    (full : log.slot (geometry item) = (geometry item).capacity)
    (more : log.closed + 1 < log.oldest + (geometry item).nrOfPages) :
    ∃ after,
      closePageIfFull state item = .ok (after, true) ∧
      Tracks item log.closePage (geometry item).capacity after ∧
      Extends item (closeEffects item log) state after := by
  obtain ⟨closed, shape, pointed, closedTracks, closedExtends⟩ :=
    closePageIfFull_eq tracks opened full
  have adjusted :=
    adjustNextWritePage_empty closedTracks rfl more rfl pointed
  exact ⟨closed, shape.trans adjusted, closedTracks, closedExtends⟩

/-- `ClosePageIfFull` closes a full page and makes room for the next one. -/
theorem closePageIfFull_full
    (tracks : Tracks item log stale state)
    (opened : log.opened = true)
    (full : log.slot (geometry item) = (geometry item).capacity) :
    ∃ pending after,
      closePageIfFull state item = .ok (pending, true) ∧
      finishErase pending = .ok after ∧
      Tracks item (log.finishPage (geometry item))
        (geometry item).capacity after ∧
      Extends item (finishEffects item log) state after := by
  have inWindow := tracks.wellFormed.closed_lt opened
  by_cases last : log.closed + 1 = log.oldest + (geometry item).nrOfPages
  · obtain ⟨closed, shape, pointed, closedTracks, closedExtends⟩ :=
      closePageIfFull_eq tracks opened full
    have adjusted := adjustNextWritePage_full closedTracks last rfl pointed
    obtain ⟨after, finished, droppedTracks, droppedExtends⟩ :=
      finishErase_erasingOldest closedTracks last rfl
    refine ⟨_, after, shape.trans adjusted, finished, ?_, ?_⟩
    · rw [StoreLog.finishPage, if_pos last]
      exact droppedTracks
    · rw [finishEffects, if_pos last]
      exact closedExtends.trans droppedExtends
  · obtain ⟨after, closing, closedTracks, closedExtends⟩ :=
      closePageIfFull_next tracks opened full (by omega)
    refine ⟨after, after, closing, finishErase_idle closedTracks.idle,
      ?_, ?_⟩
    · rw [StoreLog.finishPage, if_neg last]
      exact closedTracks
    · rw [finishEffects, if_neg last, List.append_nil]
      exact closedExtends

/-- The left-over count is not used while the current page is opened. -/
theorem Tracks.opened
    (tracks : Tracks item log stale state)
    (opened : log.opened = true)
    (other : Nat) :
    Tracks item log other state :=
  { tracks with
    info :=
      { tracks.info with
        currentPageNrOfItems_eq := by
          rw [tracks.info.currentPageNrOfItems_eq, if_pos opened,
            if_pos opened] } }

/-- An add to a page that is not opened yet. -/
theorem addItem_first
    (tracks : Tracks item log stale state)
    (notOpened : log.opened = false)
    (inWindow : log.closed < log.oldest + (geometry item).nrOfPages)
    (room : log.slot (geometry item) < (geometry item).capacity)
    {data : List Byte}
    (size : data.length = (geometry item).itemSize) :
    ∃ after,
      addItem state item data = .ok (after, true) ∧
      Tracks item (log.openPage.writeSlot data) stale after ∧
      Extends item
        (openEffects item log ++
          itemEffects item log data (geometry item).itemWords)
        state after := by
  have holds := tracks.image.currentPage tracks.wellFormed inWindow
  have header := readHeader_eq holds
  rw [headerOf_notOpened item notOpened] at header
  have blank : hasNoData PageHeader.erased.toBytes = true := by
    decide
  have nextPage := tracks.info.nextPage_eq
  obtain ⟨opening, success, openTracks, openExtends⟩ :=
    openPage_tracks tracks notOpened inWindow
  obtain ⟨after, wrote, wroteTracks, wroteExtends⟩ :=
    writeItem_tracks openTracks rfl room size
  refine ⟨after, ?_, wroteTracks, openExtends.trans wroteExtends⟩
  simp only [addItem]
  rw [nextPage, header]
  simp only [blank, if_true]
  rw [success]
  exact wrote

/-- An add to the opened page. -/
theorem addItem_opened
    (tracks : Tracks item log stale state)
    (opened : log.opened = true)
    (room : log.slot (geometry item) < (geometry item).capacity)
    {data : List Byte}
    (size : data.length = (geometry item).itemSize) :
    ∃ middle,
      addItem state item data = closePageIfFull middle item ∧
      Tracks item (log.writeSlot data) stale middle ∧
      Extends item
        (itemEffects item log data (geometry item).itemWords)
        state middle := by
  have inWindow := tracks.wellFormed.closed_lt opened
  have holds := tracks.image.currentPage tracks.wellFormed inWindow
  have header := readHeader_eq holds
  rw [headerOf_opened item opened] at header
  have hasData :
      hasNoData
        (PageHeader.toBytes
          { beginTag := beginTagOf item log log.closed
            completeTag := PageCompleteTag.erased }) = false := by
    rw [PageHeader.toBytes, hasNoData_append,
      PageBeginTag.hasNoData_toBytes rfl, Bool.false_and]
  have nextPage := tracks.info.nextPage_eq
  obtain ⟨middle, wrote, wroteTracks, wroteExtends⟩ :=
    writeItem_tracks tracks opened room size
  refine ⟨middle, ?_, wroteTracks, wroteExtends⟩
  simp only [addItem]
  rw [nextPage, header]
  simp only [hasData, Bool.false_eq_true, if_false,
    PageCompleteTag.hasNoData_erased, if_true]
  rw [wrote]
  rfl

/-- A completed add appends one item to the log. -/
theorem addItemCompleted_tracks
    (tracks : Tracks item log stale state)
    (spacious : log.Spacious (geometry item))
    {data : List Byte}
    (size : data.length = (geometry item).itemSize) :
    ∃ after,
      addItemCompleted state item data = .ok (after, true) ∧
      Tracks item (log.add (geometry item) data)
        (geometry item).capacity after ∧
      Extends item (addEffects item log data) state after := by
  have room := spacious.room
  have grown := spacious.wellFormed.slot_writeSlot data
  have large := (geometry item).capacity_ge
  cases opened : log.opened with
  | false =>
      obtain ⟨after, added, addedTracks, addedExtends⟩ :=
        addItem_first tracks opened spacious.inWindow room size
      have slots := spacious.wellFormed.items_eq opened
      have notFull :
          (log.openPage.writeSlot data).slot (geometry item) ≠
            (geometry item).capacity := by
        rw [grown, StoreLog.slot]
        omega
      refine ⟨after, ?_, ?_, ?_⟩
      · rw [addItemCompleted, added]
        simp only [bind, Except.bind, finishErase_idle addedTracks.idle]
      · rw [StoreLog.add, if_neg notFull]
        exact addedTracks.opened rfl _
      · simp only [addEffects, opened, Bool.false_eq_true, if_false]
        rw [if_neg notFull, List.append_nil]
        exact addedExtends
  | true =>
      obtain ⟨middle, added, middleTracks, middleExtends⟩ :=
        addItem_opened tracks opened room size
      have sameLog : log.openPage = log := by
        rw [StoreLog.openPage, ← opened]
      rw [sameLog] at grown
      simp only [addEffects, StoreLog.add, opened, if_true,
        List.nil_append, sameLog]
      by_cases full :
          (log.writeSlot data).slot (geometry item) =
            (geometry item).capacity
      · obtain ⟨pending, after, finished, erased, afterTracks,
            afterExtends⟩ :=
          closePageIfFull_full middleTracks opened full
        refine ⟨after, ?_, ?_, ?_⟩
        · rw [addItemCompleted, added, finished]
          simp only [bind, Except.bind, erased]
        · rw [if_pos full]
          exact afterTracks
        · rw [if_pos full]
          exact middleExtends.trans afterExtends
      · have counted := middleTracks.info.currentPageNrOfItems_eq
        rw [if_pos (show (log.writeSlot data).opened = true from opened)]
          at counted
        have finished := closePageIfFull_room
          middleTracks.info.toStaticInfo (by omega)
        refine ⟨middle, ?_, ?_, ?_⟩
        · rw [addItemCompleted, added, finished]
          simp only [bind, Except.bind, finishErase_idle middleTracks.idle]
        · rw [if_neg full]
          exact middleTracks.opened opened _
        · rw [if_neg full, List.append_nil]
          exact middleExtends

end Steps

end DemoBoard.ItemStore
