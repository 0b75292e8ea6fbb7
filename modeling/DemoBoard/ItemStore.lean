import DemoBoard.ItemStorePage
import Mathlib.Logic.Function.Basic

namespace DemoBoard

open ByteMemory

/-!
# Item store

Model of `app_service/item_store/ItemStore.c`.  Pointers to an
`ItemStoreInfo_t` are the item definitions that index `_itemStore`; the data
pointer of an add request is resolved to the bytes it points to when the
request is dispatched.  Callbacks to clients are not invoked here:
`beginEnumerate` returns the value it passes to the registered callback.
-/

/-- State of a single item store: `IdleState` or `EnumeratingState`. -/
inductive StoreState where
  | idle
  | enumerating
  deriving Repr, DecidableEq

/-- State of the listener: `ListenerIdleState` or `ListenerErasingState`. -/
inductive ListenerState where
  | idle
  | erasing
  deriving Repr, DecidableEq

/-- The clients' `ItemStore_EnumeratorStatusCb_t` functions. -/
inductive EnumeratorCallback where
  | none
  | initializeSettings
  | countSamples
  | beginReadSamples
  | readMoreSamples
  deriving Repr, DecidableEq

/-- `EnumeratorStatus_t` -/
structure EnumeratorStatus where
  enumeratingPage : PageHeader
  currentIndex : Nat
  itemsOnPage : Nat
  itemsRead : Nat
  itemsToSkip : Nat
  totalNrOfItems : Nat
  deriving Repr, DecidableEq

/-- `ItemStoreInfo_t` -/
structure ItemStoreInfo where
  firstPage : Nat
  lastPage : Nat
  itemSize : Nat
  nrOfPages : Nat
  nrOfFullPages : Nat
  currentPageNrOfItems : Nat
  currentPageInfo : PageBeginTag
  nextWritePageInfo : PageBeginTag
  oldestPageInfo : PageBeginTag
  currentState : StoreState
  enumeratorStatusCb : EnumeratorCallback
  enumeratorStatus : EnumeratorStatus
  deriving Repr, DecidableEq

/-- `ItemStore_EraseParameters_t` -/
structure EraseParameters where
  itemStore : Byte
  reinit : Bool
  pageNumber : Nat
  nrOfPages : Nat
  deriving Repr, DecidableEq

/-- `ItemStore_Enumerator_t`; the details point into one item store. -/
structure Enumerator where
  hasMoreItems : Bool
  startIndex : Int
  enumeratorDetails : Option ItemDef
  deriving Repr, DecidableEq

/-- The variables of the item store module and the flash it runs on. -/
structure ItemStoreState where
  flash : Flash
  itemStore : ItemDef → ItemStoreInfo
  listenerState : ListenerState
  eraseParameters : EraseParameters
  eraseReminder : EraseParameters
  /-- Parameters of the published recoverable errors. -/
  recoverableErrors : List Nat

/-- `SYSTEM_CONFIG_FIRST_PAGE` -/
def systemConfigFirstPage : Nat := firstWritableFlashPage

/-- `SYSTEM_CONFIG_LAST_PAGE` -/
def systemConfigLastPage : Nat := systemConfigFirstPage + 1

/-- `MEASUREMENT_VALUES_FIRST_PAGE` -/
def measurementValuesFirstPage : Nat := systemConfigLastPage + 1

/-- `MEASUREMENT_VALUES_LAST_PAGE` -/
def measurementValuesLastPage : Nat := measurementValuesFirstPage + 31

/-- `sizeof(ItemStore_SystemConfig_t)` -/
def systemConfigSize : Nat := 128

/-- `sizeof(ItemStore_MeasurementSample_t)` -/
def measurementSampleSize : Nat := 8

namespace ItemStore

/-- A statically initialised tag. -/
def zeroTag : PageBeginTag where
  magic := 0
  pageId := 0
  blockId := 0
  itemId := 0
  itemSize := 0

/-- A zero initialised page header. -/
def zeroHeader : PageHeader where
  beginTag := zeroTag
  completeTag := { magic := 0, nrOfItems := 0, nextPage := 0, nextPageId := 0 }

/-- An element of `_itemStore` before `ItemStore_Init`. -/
def staticInfo
    (firstPage lastPage itemSize : Nat) : ItemStoreInfo where
  firstPage := firstPage
  lastPage := lastPage
  itemSize := itemSize
  nrOfPages := 1 + (lastPage - firstPage)
  nrOfFullPages := 0
  currentPageNrOfItems := 0
  currentPageInfo := zeroTag
  nextWritePageInfo := zeroTag
  oldestPageInfo := zeroTag
  currentState := .idle
  enumeratorStatusCb := .none
  enumeratorStatus :=
    { enumeratingPage := zeroHeader
      currentIndex := 0
      itemsOnPage := 0
      itemsRead := 0
      itemsToSkip := 0
      totalNrOfItems := 0 }

/-- `_itemStore` -/
def staticItemStore : ItemDef → ItemStoreInfo
  | .systemConfig =>
      staticInfo systemConfigFirstPage systemConfigLastPage systemConfigSize
  | .measurementSample =>
      staticInfo measurementValuesFirstPage measurementValuesLastPage
        measurementSampleSize

/-- Zero initialised erase parameters. -/
def zeroEraseParameters : EraseParameters where
  itemStore := 0
  reinit := false
  pageNumber := 0
  nrOfPages := 0

/-- Module variables after a reset over a given flash array. -/
def powerOn (memory : Memory) : ItemStoreState where
  flash := Flash.powerOn memory
  itemStore := staticItemStore
  listenerState := .idle
  eraseParameters := zeroEraseParameters
  eraseReminder := zeroEraseParameters
  recoverableErrors := []

/-- Change the metadata of one item store. -/
def modifyInfo
    (state : ItemStoreState) (item : ItemDef)
    (change : ItemStoreInfo → ItemStoreInfo) : ItemStoreState :=
  { state with
    itemStore :=
      Function.update state.itemStore item (change (state.itemStore item)) }

@[simp] theorem modifyInfo_flash
    (state : ItemStoreState)
    (item : ItemDef)
    (change : ItemStoreInfo → ItemStoreInfo) :
    (modifyInfo state item change).flash = state.flash :=
  rfl

@[simp] theorem modifyInfo_same
    (state : ItemStoreState)
    (item : ItemDef)
    (change : ItemStoreInfo → ItemStoreInfo) :
    (modifyInfo state item change).itemStore item =
      change (state.itemStore item) := by
  simp [modifyInfo]

theorem modifyInfo_other
    (state : ItemStoreState)
    {item other : ItemDef}
    (change : ItemStoreInfo → ItemStoreInfo)
    (different : other ≠ item) :
    (modifyInfo state item change).itemStore other =
      state.itemStore other := by
  simp [modifyInfo, different]

@[simp] theorem modifyInfo_modifyInfo
    (state : ItemStoreState)
    (item : ItemDef)
    (first second : ItemStoreInfo → ItemStoreInfo) :
    modifyInfo (modifyInfo state item first) item second =
      modifyInfo state item fun info => second (first info) := by
  simp [modifyInfo]

/-- Change the enumerator status of one item store. -/
def modifyStatus
    (state : ItemStoreState) (item : ItemDef)
    (change : EnumeratorStatus → EnumeratorStatus) : ItemStoreState :=
  modifyInfo state item fun info =>
    { info with enumeratorStatus := change info.enumeratorStatus }

/-- Publish a recoverable error with a parameter. -/
def recoverableError
    (state : ItemStoreState) (parameter : Nat) : ItemStoreState :=
  { state with
    recoverableErrors := state.recoverableErrors ++ [parameter] }

/-- A buffer in RAM that starts with the given bytes. -/
def bufferOf (bytes : List Byte) : Memory :=
  fun offset => bytes.getD offset 0

/-- `Flash_Read` of the header of a page. -/
def readHeader (state : ItemStoreState) (page : Nat) : Option PageHeader :=
  (state.flash.read (pageAddr page) pageHeaderSize).map PageHeader.ofBytes

/-- `Flash_Write` from a buffer, keeping the other module variables. -/
def flashWrite
    (state : ItemStoreState) (address : Nat) (bytes : List Byte)
    (nrOfBytes : Nat) :
    Except AssertionFailure (ItemStoreState × Bool) :=
  (state.flash.write address (bufferOf bytes) nrOfBytes).map fun outcome =>
    ({ state with flash := outcome.1 }, outcome.2)

/-- `Flash_Erase`, keeping the other module variables. -/
def flashErase
    (state : ItemStoreState) (page nrOfPages : Nat) :
    Except AssertionFailure ItemStoreState :=
  (state.flash.erase page nrOfPages).map fun flash =>
    { state with flash := flash }

/-- `NEXT_PAGE_NR` -/
def nextPageNr (info : ItemStoreInfo) (page : Nat) : Nat :=
  if page + 1 > info.lastPage then info.firstPage else page + 1

/-- `(FLASH_PAGE_SIZE - sizeof(PageHeader_t)) / itemSize` -/
def itemsOnFullPage (info : ItemStoreInfo) : Nat :=
  (flashPageSize - pageHeaderSize) / info.itemSize

/-- `BEGIN_TAG_IS_CONSISTENT` -/
def beginTagIsConsistent
    (info : ItemStoreInfo) (header : PageHeader) (actualPage : Nat) : Bool :=
  header.beginTag.magic = pageMagic ∧
    header.beginTag.pageId.toNat = actualPage ∧
    header.beginTag.itemSize.toNat = info.itemSize

/-- `COMPLETE_TAG_IS_CONSISTENT` -/
def completeTagIsConsistent
    (info : ItemStoreInfo) (header : PageHeader) (actualPage : Nat) : Bool :=
  header.completeTag.magic = pageMagic ∧
    header.completeTag.nrOfItems.toNat = itemsOnFullPage info ∧
    header.completeTag.nextPage.toNat = nextPageNr info actualPage

/-- `ItemStore_IsEmpty` -/
def isEmpty (state : ItemStoreState) (item : ItemDef) : Bool :=
  (state.itemStore item).nrOfFullPages = 0 ∧
    (state.itemStore item).currentPageNrOfItems = 0

/-- `WriteItem` -/
def writeItem
    (state : ItemStoreState) (item : ItemDef) (data : List Byte) :
    Except AssertionFailure (ItemStoreState × Bool) := do
  let info := state.itemStore item
  let page := info.nextWritePageInfo.pageId.toNat
  if ¬ (info.firstPage ≤ page ∧ info.lastPage ≥ page) then
    .error .writeOutsideStore
  else
    let writeAddress :=
      pageAddr page + pageHeaderSize +
        info.currentPageNrOfItems * info.itemSize
    let outcome ← flashWrite state writeAddress data info.itemSize
    if outcome.2 = false then
      .ok (outcome.1, false)
    else
      .ok (modifyInfo outcome.1 item fun info =>
        { info with
          currentPageNrOfItems :=
            (info.currentPageNrOfItems + 1) % 65536 }, true)

/-- `AdjustNextWritePage` -/
def adjustNextWritePage
    (state : ItemStoreState) (item : ItemDef)
    (completeTag : PageCompleteTag) :
    Except AssertionFailure (ItemStoreState × Bool) := do
  match readHeader state completeTag.nextPage.toNat with
  | none => .ok (state, false)
  | some header =>
      let state := modifyInfo state item fun info =>
        { info with
          nextWritePageInfo :=
            { info.nextWritePageInfo with
              pageId := completeTag.nextPage
              blockId := completeTag.nextPageId } }
      if hasNoData header.toBytes then
        .ok (state, true)
      else
        match readHeader state header.completeTag.nextPage.toNat with
        | none => .ok (state, false)
        | some header =>
            let info := state.itemStore item
            if ¬ info.oldestPageInfo.pageId = completeTag.nextPage then
              .error .erasedPageNotOldest
            else if ¬ info.firstPage ≤ completeTag.nextPage.toNat then
              .error .erasedPageOutsideStore
            else if ¬ info.lastPage ≥ completeTag.nextPage.toNat then
              .error .erasedPageOutsideStore
            else
              let state := modifyInfo state item fun info =>
                { info with
                  oldestPageInfo := header.beginTag
                  nrOfFullPages := (info.nrOfFullPages + 255) % 256 }
              let state :=
                { state with
                  eraseParameters :=
                    { itemStore := info.currentPageInfo.itemId
                      nrOfPages := 1
                      reinit := false
                      pageNumber := completeTag.nextPage.toNat }
                  listenerState := .erasing }
              let state ← flashErase state completeTag.nextPage.toNat 1
              .ok (state, true)

/-- The complete tag `ClosePageIfFull` prepares. -/
def closingTag (info : ItemStoreInfo) : PageCompleteTag where
  magic := pageMagic
  nextPage :=
    UInt8.ofNat (nextPageNr info info.nextWritePageInfo.pageId.toNat)
  nextPageId :=
    UInt8.ofNat ((info.nextWritePageInfo.blockId.toNat + 1) % maxBlockIndex)
  nrOfItems := UInt16.ofNat info.currentPageNrOfItems

/-- `ClosePageIfFull` -/
def closePageIfFull
    (state : ItemStoreState) (item : ItemDef) :
    Except AssertionFailure (ItemStoreState × Bool) := do
  let info := state.itemStore item
  let pageAddress := pageAddr info.nextWritePageInfo.pageId.toNat
  let writeAddress :=
    pageAddress + pageHeaderSize + info.currentPageNrOfItems * info.itemSize
  if writeAddress + info.itemSize > pageAddress + flashPageSize then
    let completeTag := closingTag info
    let outcome ←
      flashWrite state (pageAddress + pageBeginTagSize)
        completeTag.toBytes 8
    if outcome.2 = false then
      .ok (outcome.1, false)
    else
      let state := modifyInfo outcome.1 item fun info =>
        { info with
          nrOfFullPages := (info.nrOfFullPages + 1) % 256
          nextWritePageInfo :=
            { info.nextWritePageInfo with
              blockId := completeTag.nextPageId
              pageId := completeTag.nextPage } }
      adjustNextWritePage state item completeTag
  else
    .ok (state, true)

/-- `AddItem` -/
def addItem
    (state : ItemStoreState) (item : ItemDef) (data : List Byte) :
    Except AssertionFailure (ItemStoreState × Bool) := do
  let info := state.itemStore item
  let page := info.nextWritePageInfo.pageId.toNat
  match readHeader state page with
  | none => .ok (state, false)
  | some header =>
      if hasNoData header.toBytes then
        -- first write to this page
        let outcome ←
          flashWrite state (pageAddr page) info.nextWritePageInfo.toBytes
            pageBeginTagSize
        if outcome.2 = false then
          .ok (outcome.1, false)
        else
          let state := modifyInfo outcome.1 item fun info =>
            { info with currentPageNrOfItems := 0 }
          writeItem state item data
      else if hasNoData header.completeTag.toBytes then
        -- the page is already in use
        let outcome ← writeItem state item data
        if outcome.2 = false then
          .ok (outcome.1, false)
        else
          closePageIfFull outcome.1 item
      else
        .ok (state, false)

/-- The block id comparisons with which a page is found to be newer. -/
def isNewer (currentBlockId newestBlockId nrOfPages : Nat) : Bool :=
  (currentBlockId > newestBlockId ∧
      currentBlockId - newestBlockId < nrOfPages) ∨
    (currentBlockId < newestBlockId ∧
      newestBlockId - currentBlockId > nrOfPages)

/-- The block id comparisons with which a page is found to be older. -/
def isOlder (currentBlockId oldestBlockId nrOfPages : Nat) : Bool :=
  (currentBlockId < oldestBlockId ∧
      oldestBlockId - currentBlockId < nrOfPages) ∨
    (currentBlockId > oldestBlockId ∧
      currentBlockId - oldestBlockId > nrOfPages)

/-- `UpdateNewestOldestPage` -/
def updateNewestOldestPage
    (info : ItemStoreInfo) (isInitial : Bool) : ItemStoreInfo :=
  if isInitial then
    { info with
      oldestPageInfo := info.currentPageInfo
      nextWritePageInfo := info.currentPageInfo }
  else
    let currentBlockId := info.currentPageInfo.blockId.toNat
    let newestBlockId := info.nextWritePageInfo.blockId.toNat
    let oldestBlockId := info.oldestPageInfo.blockId.toNat
    if isNewer currentBlockId newestBlockId info.nrOfPages then
      { info with nextWritePageInfo := info.currentPageInfo }
    else if isOlder currentBlockId oldestBlockId info.nrOfPages then
      { info with oldestPageInfo := info.currentPageInfo }
    else
      info

/--
The while loop of `CountItemsOnCurrentPage`.  A failed `Flash_Read` leaves the
previous content in `readBuffer`.  An item without bytes has no data, so the
loop only continues when the address grows.
-/
def countItemsLoop
    (flash : Flash) (itemSize pageEnd : Nat)
    (address nrOfItems : Nat) (readBuffer : List Byte) : Nat :=
  if address < pageEnd then
    let buffer := (flash.read address itemSize).getD readBuffer
    if itemSize = 0 ∨ hasNoData buffer then
      nrOfItems
    else
      countItemsLoop flash itemSize pageEnd (address + itemSize)
        ((nrOfItems + 1) % 65536) buffer
  else
    nrOfItems
termination_by pageEnd - address

/-- `CountItemsOnCurrentPage` -/
def countItemsOnCurrentPage
    (state : ItemStoreState) (item : ItemDef) : Nat :=
  let info := state.itemStore item
  let pageStart := pageAddr info.currentPageInfo.pageId.toNat
  countItemsLoop state.flash info.itemSize (pageStart + flashPageSize)
    (pageStart + pageHeaderSize) 0 []

/-- The tag `InitItemStore` uses when there is no valid data. -/
def initialTag (info : ItemStoreInfo) (item : ItemDef) : PageBeginTag where
  magic := pageMagic
  pageId := UInt8.ofNat info.firstPage
  blockId := 0
  itemId := item.toByte
  itemSize := UInt8.ofNat info.itemSize

/--
One iteration of the scan loop of `InitItemStore`.  The page header is a local
variable of the function; a failed `Flash_Read` leaves it unchanged.
-/
def scanPage
    (item : ItemDef) (scan : ItemStoreState × PageHeader) (i : Nat) :
    Except AssertionFailure (ItemStoreState × PageHeader) := do
  let state := scan.1
  let actualPageId := (i + (state.itemStore item).firstPage) % 256
  let pageHeader := (readHeader state actualPageId).getD scan.2
  if hasNoData pageHeader.toBytes then
    .ok (state, pageHeader)
  else
    let state :=
      if beginTagIsConsistent (state.itemStore item) pageHeader
          actualPageId then
        state
      else
        recoverableError state actualPageId
    let state := modifyInfo state item fun info =>
      updateNewestOldestPage
        { info with currentPageInfo := pageHeader.beginTag } (i = 0)
    if ¬ hasNoData pageHeader.completeTag.toBytes then
      let state :=
        if completeTagIsConsistent (state.itemStore item) pageHeader
            actualPageId then
          state
        else
          recoverableError state actualPageId
      .ok (modifyInfo state item fun info =>
        { info with nrOfFullPages := (info.nrOfFullPages + 1) % 256 },
        pageHeader)
    else
      let nrOfItems := countItemsOnCurrentPage state item
      let state := modifyInfo state item fun info =>
        { info with currentPageNrOfItems := nrOfItems % 65536 }
      let outcome ← closePageIfFull state item
      .ok (outcome.1, pageHeader)

/-- `InitItemStore` -/
def initItemStore
    (state : ItemStoreState) (item : ItemDef) :
    Except AssertionFailure ItemStoreState := do
  let state := modifyInfo state item fun info =>
    { info with
      currentPageInfo := initialTag info item
      nextWritePageInfo := initialTag info item
      oldestPageInfo := initialTag info item }
  let scan ←
    (List.range (state.itemStore item).nrOfPages).foldlM
      (scanPage item) (state, zeroHeader)
  let state := scan.1
  let nextWritePage :=
    (state.itemStore item).nextWritePageInfo.pageId.toNat
  let pageHeader := (readHeader state nextWritePage).getD scan.2
  if pageHeader.completeTag.magic = pageMagic then
    let outcome ← adjustNextWritePage state item pageHeader.completeTag
    .ok outcome.1
  else
    .ok state

/-- `ItemStore_Init` -/
def init (state : ItemStoreState) :
    Except AssertionFailure ItemStoreState := do
  let state ← initItemStore state .systemConfig
  initItemStore state .measurementSample

/-- `InitEnumeratorStatus` -/
def initEnumeratorStatus
    (state : ItemStoreState) (item : ItemDef) (pageNr startIndex : Nat) :
    ItemStoreState × Bool :=
  let state := modifyStatus state item fun status =>
    { status with currentIndex := startIndex }
  match readHeader state pageNr with
  | none => (state, false)
  | some header =>
      let state := modifyStatus state item fun status =>
        { status with enumeratingPage := header }
      let info := state.itemStore item
      if ¬ beginTagIsConsistent info header pageNr then
        (state, false)
      else if pageNr = info.nextWritePageInfo.pageId.toNat then
        -- this is the actual page where new items are inserted
        (modifyStatus state item fun status =>
          { status with itemsOnPage := info.currentPageNrOfItems },
          startIndex < info.currentPageNrOfItems)
      else if ¬ completeTagIsConsistent info header pageNr then
        (state, false)
      else
        (modifyStatus state item fun status =>
          { status with itemsOnPage := itemsOnFullPage info },
          startIndex < itemsOnFullPage info)

/-- Local variables of `FindEnumeratorStartPosition`. -/
structure StartSearch where
  pageNr : Nat
  skipping : Int
  itemsOnPage : Nat
  deriving Repr, DecidableEq

/--
The do-while loop of `FindEnumeratorStartPosition`.  The result is `none` when
a header cannot be read.  Every further iteration has skipped the items of a
full page, so `fuel` beyond the number of items to skip is never used up.
-/
def findStartLoop (item : ItemDef) :
    Nat → ItemStoreState → StartSearch →
      ItemStoreState × Option StartSearch
  | 0, state, _ => (state, none)
  | fuel + 1, state, search =>
      match readHeader state search.pageNr with
      | none => (state, none)
      | some header =>
          let state := modifyStatus state item fun status =>
            { status with enumeratingPage := header }
          let info := state.itemStore item
          if ¬ beginTagIsConsistent info header search.pageNr then
            (state, some search)
          else if header.completeTag.magic = pageMagic then
            -- the page is complete
            let itemsOnPage := itemsOnFullPage info
            let skipping := search.skipping - itemsOnPage
            let search : StartSearch :=
              { pageNr :=
                  if skipping > 0 then
                    header.completeTag.nextPage.toNat
                  else
                    search.pageNr
                skipping := skipping
                itemsOnPage := itemsOnPage }
            if skipping ≥ 0 then
              findStartLoop item fuel state search
            else
              (state, some search)
          else
            (state, some
              { search with
                itemsOnPage := info.currentPageNrOfItems
                skipping := search.skipping - info.currentPageNrOfItems })

/--
`FindEnumeratorStartPosition`: start page and start position, or `none` for
`false`.
-/
def findEnumeratorStartPosition
    (state : ItemStoreState) (item : ItemDef) :
    ItemStoreState × Option (Nat × Nat) :=
  let info := state.itemStore item
  let itemsToSkip := info.enumeratorStatus.itemsToSkip
  let outcome :=
    findStartLoop item (itemsToSkip + 2) state
      { pageNr := info.oldestPageInfo.pageId.toNat
        skipping := itemsToSkip
        itemsOnPage := 0 }
  match outcome.2 with
  | none => (outcome.1, none)
  | some search =>
      if search.skipping > 0 then
        (outcome.1, none)
      else
        (outcome.1, some
          (search.pageNr,
            ((search.itemsOnPage + search.skipping) % 65536).toNat))

/--
`BeginEnumerate`.  The third component is the argument of the callback that
the function invokes last.
-/
def beginEnumerate
    (state : ItemStoreState) (item : ItemDef) (enumerator : Enumerator) :
    ItemStoreState × Enumerator × Bool :=
  let info := state.itemStore item
  let totalNrOfItems :=
    (info.currentPageNrOfItems +
      info.nrOfFullPages * itemsOnFullPage info) % 65536
  let itemsToSkip :=
    if enumerator.startIndex < 0 then
      let itemsToSkip : Int := totalNrOfItems + enumerator.startIndex
      (if itemsToSkip > 0 then itemsToSkip % 65536 else 0).toNat
    else
      (enumerator.startIndex % 65536).toNat
  let state := modifyStatus state item fun status =>
    { status with
      itemsRead := 0
      totalNrOfItems := totalNrOfItems
      itemsToSkip := itemsToSkip }
  let closed :=
    { enumerator with enumeratorDetails := none, hasMoreItems := false }
  match findEnumeratorStartPosition state item with
  | (state, none) => (state, closed, false)
  | (state, some (startPage, startIndex)) =>
      match initEnumeratorStatus state item startPage startIndex with
      | (state, false) => (state, closed, false)
      | (state, true) =>
          let status := (state.itemStore item).enumeratorStatus
          (modifyInfo state item fun info =>
            { info with currentState := .enumerating },
            { enumerator with
              enumeratorDetails := some item
              hasMoreItems := status.itemsOnPage > status.currentIndex },
            true)

/-- `ItemStore_BeginEnumerate` stores the callback of the caller. -/
def registerCallback
    (state : ItemStoreState) (item : ItemDef)
    (onDoneCb : EnumeratorCallback) : ItemStoreState :=
  modifyInfo state item fun info =>
    { info with enumeratorStatusCb := onDoneCb }

/-- `ItemStore_EndEnumerate` -/
def endEnumerate
    (state : ItemStoreState) (item : ItemDef) (enumerator : Enumerator) :
    ItemStoreState × Enumerator :=
  (modifyInfo state item fun info =>
    { info with currentState := .idle },
    { enumerator with enumeratorDetails := none, hasMoreItems := false })

/-- `ItemStore_Count` -/
def count (state : ItemStoreState) (enumerator : Enumerator) : Int :=
  match enumerator.enumeratorDetails with
  | none => -1
  | some item =>
      (state.itemStore item).enumeratorStatus.totalNrOfItems

/--
`ItemStore_GetNext`: the bytes copied to `data`, or `none` for `false`.  The
item store is the one whose id is in the page being enumerated; an id outside
of `_itemStore` is not a store and gives no item.
-/
def getNext
    (state : ItemStoreState) (enumerator : Enumerator) :
    ItemStoreState × Enumerator × Option (List Byte) :=
  let exhausted := { enumerator with hasMoreItems := false }
  if ¬ enumerator.hasMoreItems then
    (state, enumerator, none)
  else
    match enumerator.enumeratorDetails with
    | none => (state, enumerator, none)
    | some details =>
        let status := (state.itemStore details).enumeratorStatus
        match ItemDef.ofByte? status.enumeratingPage.beginTag.itemId with
        | none => (state, enumerator, none)
        | some item =>
            let outcome :=
              if status.currentIndex = status.itemsOnPage then
                -- all items of this page are read
                initEnumeratorStatus state item
                  (nextPageNr (state.itemStore item)
                    status.enumeratingPage.beginTag.pageId.toNat) 0
              else
                (state, true)
            if outcome.2 = false then
              (outcome.1, exhausted, none)
            else
              let state := outcome.1
              let status := (state.itemStore details).enumeratorStatus
              let readAddress :=
                pageAddr status.enumeratingPage.beginTag.pageId.toNat +
                  pageHeaderSize +
                  status.currentIndex * (state.itemStore item).itemSize
              match
                state.flash.read readAddress
                  status.enumeratingPage.beginTag.itemSize.toNat with
              | none => (state, exhausted, none)
              | some data =>
                  let state := modifyStatus state details fun status =>
                    { status with
                      currentIndex := (status.currentIndex + 1) % 65536
                      itemsRead := (status.itemsRead + 1) % 65536 }
                  let status := (state.itemStore details).enumeratorStatus
                  (state,
                    { enumerator with
                      hasMoreItems :=
                        status.itemsRead + status.itemsToSkip <
                          status.totalNrOfItems },
                    some data)

/-- The item store messages that reach the listener. -/
inductive Request where
  | addItem (item : ItemDef) (data : List Byte)
  | erase (parameters : EraseParameters)
  | eraseDone
  | beginEnumerate (item : ItemDef) (enumerator : Enumerator)
  deriving Repr, DecidableEq

/-- The enumeration a dispatched request has started. -/
structure StartedEnumeration where
  item : ItemDef
  enumerator : Enumerator
  ready : Bool
  deriving Repr, DecidableEq

/-- What a message handler leaves behind. -/
structure Handled where
  state : ItemStoreState
  consumed : Bool
  enumeration : Option StartedEnumeration

/-- `IdleState` -/
def idleState (state : ItemStoreState) :
    Request → Except AssertionFailure Handled
  | .addItem item data => do
      let outcome ← addItem state item data
      let state :=
        if outcome.2 then outcome.1 else recoverableError outcome.1 0
      .ok { state := state, consumed := true, enumeration := none }
  | .beginEnumerate item enumerator =>
      let outcome := beginEnumerate state item enumerator
      .ok
        { state := outcome.1
          consumed := true
          enumeration := some
            { item := item
              enumerator := outcome.2.1
              ready := outcome.2.2 } }
  | _ => .ok { state := state, consumed := false, enumeration := none }

/-- `EnumeratingState`: no message is accepted. -/
def enumeratingState (state : ItemStoreState) (_ : Request) :
    Except AssertionFailure Handled :=
  .ok { state := state, consumed := false, enumeration := none }

/-- The item store named by `parameter1`; it is 0 in erase messages. -/
def Request.item : Request → ItemDef
  | .addItem item _ => item
  | .beginEnumerate item _ => item
  | _ => .systemConfig

/-- `ListenerIdleState` -/
def listenerIdleState (state : ItemStoreState) (request : Request) :
    Except AssertionFailure Handled := do
  match request with
  | .erase parameters =>
      let state := { state with eraseParameters := parameters }
      let state ←
        flashErase state parameters.pageNumber parameters.nrOfPages
      .ok
        { state := { state with listenerState := .erasing }
          consumed := true
          enumeration := none }
  | request =>
      match (state.itemStore request.item).currentState with
      | .idle => idleState state request
      | .enumerating => enumeratingState state request

/-- The erase parameters that stand for "no reminder". -/
def noReminder : EraseParameters where
  itemStore := 0xFF
  reinit := false
  pageNumber := 0xFF
  nrOfPages := 0

/-- A reminder is pending in `_eraseReminder`. -/
def hasReminder (reminder : EraseParameters) : Bool :=
  reminder.pageNumber < 0xFF ∧ reminder.pageNumber > 0 ∧
    reminder.itemStore ≠ 0xFF ∧ reminder.nrOfPages > 0

/-- `ListenerErasingState` -/
def listenerErasingState (state : ItemStoreState) (request : Request) :
    Except AssertionFailure Handled := do
  match request with
  | .erase parameters =>
      .ok
        { state := { state with eraseReminder := parameters }
          consumed := true
          enumeration := none }
  | .eraseDone =>
      if hasReminder state.eraseReminder then
        let parameters := state.eraseReminder
        let state :=
          { state with
            eraseParameters := parameters
            eraseReminder := noReminder }
        let state ←
          flashErase state parameters.pageNumber parameters.nrOfPages
        .ok { state := state, consumed := true, enumeration := none }
      else
        let state := { state with listenerState := .idle }
        if state.eraseParameters.reinit then
          match ItemDef.ofByte? state.eraseParameters.itemStore with
          | none => .error .unknownStore
          | some item =>
              let state ← initItemStore state item
              .ok { state := state, consumed := true, enumeration := none }
        else
          .ok { state := state, consumed := true, enumeration := none }
  | _ => .ok { state := state, consumed := false, enumeration := none }

/-- The current message handler of the item store listener. -/
def listener (state : ItemStoreState) (request : Request) :
    Except AssertionFailure Handled :=
  match state.listenerState with
  | .idle => listenerIdleState state request
  | .erasing => listenerErasingState state request

/-- The erase parameters of `ItemStore_DeleteAllItems`. -/
def deleteParameters (info : ItemStoreInfo) (item : ItemDef) :
    EraseParameters where
  itemStore := item.toByte
  reinit := true
  pageNumber := info.firstPage
  nrOfPages := info.nrOfPages

/--
`ItemStore_DeleteAllItems`: the changed metadata and the parameters of the
published erase message.
-/
def deleteAllItems (state : ItemStoreState) (item : ItemDef) :
    Except AssertionFailure (ItemStoreState × EraseParameters) :=
  let state := modifyInfo state item fun info =>
    { info with nrOfFullPages := 0, currentPageNrOfItems := 0 }
  let parameters := deleteParameters (state.itemStore item) item
  if ¬ (parameters.pageNumber ≥ systemConfigFirstPage ∧
      parameters.nrOfPages <
        measurementValuesLastPage - systemConfigFirstPage + 1) then
    .error .deleteOutOfRange
  else
    .ok (state, parameters)

/--
One page of a running erase: the flash task starts it, the hardware finishes
it and, when it was the last one, the `ITEM_STORE_MESSAGE_ERASE_DONE` that
`FlashEraseDoneCb` publishes is dispatched.
-/
def eraseStep (state : ItemStoreState) :
    Except AssertionFailure ItemStoreState := do
  let outcome := state.flash.flashTask.endOfOperation
  let state := { state with flash := outcome.1 }
  match outcome.2 with
  | none => .ok state
  | some _ =>
      let handled ← listener state .eraseDone
      .ok handled.state

/-- Let a running erase finish. -/
def finishErase (state : ItemStoreState) :
    Except AssertionFailure ItemStoreState :=
  (List.range state.flash.pagesToErase).foldlM
    (fun state _ => eraseStep state) state

/-- An `AddItem` together with the page erase it may trigger. -/
def addItemCompleted
    (state : ItemStoreState) (item : ItemDef) (data : List Byte) :
    Except AssertionFailure (ItemStoreState × Bool) := do
  let outcome ← addItem state item data
  let state ← finishErase outcome.1
  .ok (state, outcome.2)

/-- A sequence of completed adds; it reports whether all returned `true`. -/
def addItems (item : ItemDef) :
    ItemStoreState → List (List Byte) →
      Except AssertionFailure (ItemStoreState × Bool)
  | state, [] => .ok (state, true)
  | state, data :: rest => do
      let outcome ← addItemCompleted state item data
      let final ← addItems item outcome.1 rest
      .ok (final.1, outcome.2 && final.2)

/-- Reset over a flash image: `InitItemStore` and the erase it may start. -/
def recover (memory : Memory) (item : ItemDef) :
    Except AssertionFailure ItemStoreState := do
  let state ← initItemStore (powerOn memory) item
  finishErase state

end ItemStore

end DemoBoard
