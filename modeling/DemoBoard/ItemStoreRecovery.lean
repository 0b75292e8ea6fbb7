import DemoBoard.ItemStoreScan

namespace DemoBoard.ItemStore

open ByteMemory

/-!
# Recovery of the metadata at boot

`InitItemStore` over an image of a log: the scan finds the oldest and the
newest page, and when the newest one is closed the next page is prepared.
Recovery is correct when block ids compare like ordinals and, in case the
first flash page of the store is erased, its block id would be 0.
-/

/-- The variables of a store before `InitItemStore`. -/
structure Fresh (item : ItemDef) (state : ItemStoreState) : Prop where
  idle : state.flash.Idle
  listenerIdle : state.listenerState = .idle
  noReminder : hasReminder state.eraseReminder = false
  static : StaticInfo item (state.itemStore item)
  fullPages_eq : (state.itemStore item).nrOfFullPages = 0
  nrOfItems_eq : (state.itemStore item).currentPageNrOfItems = 0

theorem staticInfo_staticItemStore (item : ItemDef) :
    StaticInfo item (staticItemStore item) := by
  cases item
  · exact ⟨rfl, rfl, rfl, rfl⟩
  · exact ⟨rfl, rfl, rfl, rfl⟩

/-- The variables of a store after a reset. -/
theorem fresh_powerOn (item : ItemDef) (memory : Memory) :
    Fresh item (powerOn memory) where
  idle := Flash.idle_powerOn memory
  listenerIdle := rfl
  noReminder := rfl
  static := staticInfo_staticItemStore item
  fullPages_eq := by cases item <;> rfl
  nrOfItems_eq := by cases item <;> rfl

section Recovery

variable {item : ItemDef}
variable {log : StoreLog}
variable {state : ItemStoreState}

/-- The ordinal that lives in the first flash page of the store. -/
def firstOrdinal (item : ItemDef) (log : StoreLog) : Nat :=
  SegmentedLog.ordinalAt (geometry item).nrOfPages log.oldest 0

/-- The scan loop of `InitItemStore`. -/
def scanAll (item : ItemDef) (state : ItemStoreState) :
    Except AssertionFailure (ItemStoreState × PageHeader) :=
  (List.range (geometry item).nrOfPages).foldlM (scanPage item)
    (withScan state item (initialScan item (state.itemStore item)),
      zeroHeader)

/-- `InitItemStore` after its scan loop. -/
def afterScan (item : ItemDef) (scan : ItemStoreState × PageHeader) :
    Except AssertionFailure ItemStoreState :=
  let page := (scan.1.itemStore item).nextWritePageInfo.pageId.toNat
  let pageHeader := (readHeader scan.1 page).getD scan.2
  if pageHeader.completeTag.magic = pageMagic then
    (adjustNextWritePage scan.1 item pageHeader.completeTag).map Prod.fst
  else
    .ok scan.1

theorem initItemStore_eq
    (fresh : Fresh item state) :
    initItemStore state item = scanAll item state >>= afterScan item := by
  have begin :
      (modifyInfo state item fun info =>
          { info with
            currentPageInfo := initialTag info item
            nextWritePageInfo := initialTag info item
            oldestPageInfo := initialTag info item }) =
        withScan state item (initialScan item (state.itemStore item)) := by
    rw [withScan]
    simp only [modifyInfo, initialScan, fresh.fullPages_eq,
      fresh.nrOfItems_eq]
  have pages :
      ((withScan state item
          (initialScan item (state.itemStore item))).itemStore
            item).nrOfPages =
        (geometry item).nrOfPages := by
    rw [withScan, modifyInfo_same]
    exact fresh.static.nrOfPages_eq
  rw [initItemStore, begin, pages, scanAll]
  simp only [bind, Except.bind]
  split
  · rfl
  · next scan _ =>
      simp only [afterScan]
      split
      · cases adjustNextWritePage scan.1 item _ <;> rfl
      · rfl

/-- `InitItemStore` when its scan loop succeeds. -/
theorem initItemStore_scanned
    (fresh : Fresh item state)
    {scanned : ItemStoreState}
    {header : PageHeader}
    (run : scanAll item state = .ok (scanned, header)) :
    initItemStore state item = afterScan item (scanned, header) := by
  rw [initItemStore_eq fresh, run]
  rfl

/-- The scan changes the metadata of one store only. -/
theorem extends_withScan (found : ScanResult) :
    Extends item [] state (withScan state item found) where
  history := by simp [withScan]
  memory := rfl
  inside := by simp
  others := fun other different => modifyInfo_other _ _ different
  currentState := by simp [withScan]
  enumeratorStatus := by simp [withScan]
  enumeratorStatusCb := by simp [withScan]
  recoverableErrors := rfl
  eraseReminder := rfl

/-- Moving the next write page changes the metadata of one store only. -/
theorem extends_pointed
    (found : ScanResult)
    (completeTag : PageCompleteTag) :
    Extends item [] state
      (modifyInfo (withScan state item found) item
        (pointTo completeTag)) := by
  rw [withScan, modifyInfo_modifyInfo]
  exact
    { history := by simp
      memory := rfl
      inside := by simp
      others := fun other different => modifyInfo_other _ _ different
      currentState := by simp [pointTo]
      enumeratorStatus := by simp [pointTo]
      enumeratorStatusCb := by simp [pointTo]
      recoverableErrors := rfl
      eraseReminder := rfl }

/-- A complete scan over a log with the right first and last page. -/
theorem tracks_withScan
    (fresh : Fresh item state)
    (wellFormed : log.WellFormed (geometry item))
    (image : StoreImage item log state.flash.memory)
    {found : ScanResult}
    {start : Nat}
    (invariant :
      ScanInvariant item log start (geometry item).nrOfPages found
        log.oldest log.closed) :
    Tracks item log 0 (withScan state item found) where
  idle := fresh.idle
  listenerIdle := fresh.listenerIdle
  noReminder := fresh.noReminder
  wellFormed := wellFormed
  image := image
  info := by
    have pages := (geometry item).nrOfPages_pos
    have counted := SegmentedLog.countP_ordinalAt pages
      wellFormed.oldest_le wellFormed.closed_le
    have place := Nat.mod_lt log.closed pages
    rw [withScan, modifyInfo_same]
    exact
      { fresh.static with
        nextWritePageInfo_eq := invariant.newest_eq
        oldestPageInfo_eq := invariant.oldest_eq
        nrOfFullPages_eq := invariant.fullPages_eq.trans counted
        currentPageNrOfItems_eq := by
          simp only [invariant.nrOfItems_eq, place, and_true] }

/-- Moving the next write page of the scan to the page after the newest. -/
theorem tracks_pointed
    (fresh : Fresh item state)
    (wellFormed : log.WellFormed (geometry item))
    (image : StoreImage item log state.flash.memory)
    (notOpened : log.opened = false)
    {newest : Nat}
    (next : log.closed = newest + 1)
    (blockId_eq :
      log.blockId log.closed = (log.blockId newest + 1) % maxBlockIndex)
    {found : ScanResult}
    {start : Nat}
    (invariant :
      ScanInvariant item log start (geometry item).nrOfPages found
        log.oldest newest) :
    Tracks item log 0
      (modifyInfo (withScan state item found) item
        (pointTo (completeTagOf item log newest)))
    where
  idle := fresh.idle
  listenerIdle := fresh.listenerIdle
  noReminder := fresh.noReminder
  wellFormed := wellFormed
  image := image
  info := by
    have pages := (geometry item).nrOfPages_pos
    have counted := SegmentedLog.countP_ordinalAt pages
      wellFormed.oldest_le wellFormed.closed_le
    rw [next] at blockId_eq
    rw [withScan, modifyInfo_modifyInfo, modifyInfo_same]
    exact
      { fresh.static with
        nextWritePageInfo_eq := by
          simp only [pointTo, invariant.newest_eq, beginTagOf,
            completeTagOf, next, blockId_eq]
        oldestPageInfo_eq := invariant.oldest_eq
        nrOfFullPages_eq := invariant.fullPages_eq.trans counted
        currentPageNrOfItems_eq := by
          simp [pointTo, invariant.nrOfItems_eq, notOpened] }

/-- The final check of `InitItemStore` finds an open or erased page. -/
theorem initItemStore_open
    (fresh : Fresh item state)
    (wellFormed : log.WellFormed (geometry item))
    (inWindow : log.closed < log.oldest + (geometry item).nrOfPages)
    (image : StoreImage item log state.flash.memory)
    {found : ScanResult}
    {header : PageHeader}
    {start : Nat}
    (run :
      scanAll item state = .ok (withScan state item found, header))
    (invariant :
      ScanInvariant item log start (geometry item).nrOfPages found
        log.oldest log.closed) :
    initItemStore state item = .ok (withScan state item found) := by
  have tracks := tracks_withScan fresh wellFormed image invariant
  have holds := tracks.image.currentPage wellFormed inWindow
  have read := readHeader_eq holds
  have blank :
      (headerOf item log log.closed).completeTag.magic ≠ pageMagic := by
    rw [headerOf]
    simp only [Nat.lt_irrefl, ↓reduceIte]
    exact PageCompleteTag.magic_erased
  rw [initItemStore_scanned fresh run, afterScan,
    tracks.info.nextPage_eq]
  simp only [read, Option.getD_some, if_neg blank]

/-- The final check of `InitItemStore` finds a closed page. -/
theorem initItemStore_closed
    (fresh : Fresh item state)
    (image : StoreImage item log state.flash.memory)
    {newest : Nat}
    (lower : log.oldest ≤ newest)
    (upper : newest < log.oldest + (geometry item).nrOfPages)
    (closed : newest < log.closed)
    {found : ScanResult}
    {header : PageHeader}
    (run :
      scanAll item state = .ok (withScan state item found, header))
    (newest_eq : found.newest = beginTagOf item log newest) :
    initItemStore state item =
      (adjustNextWritePage (withScan state item found) item
        (completeTagOf item log newest)).map Prod.fst := by
  have holds := image newest lower upper
  rw [headerOf_closed item closed] at holds
  have read :
      readHeader (withScan state item found)
          ((geometry item).pageOf newest) = some _ :=
    readHeader_eq holds
  have page :
      ((withScan state item found).itemStore
          item).nextWritePageInfo.pageId.toNat =
        (geometry item).pageOf newest := by
    rw [withScan, modifyInfo_same, newest_eq]
    exact (geometry item).toNat_pageOf newest
  have magic : (completeTagOf item log newest).magic = pageMagic := rfl
  rw [initItemStore_scanned fresh run, afterScan, page]
  simp only [read, Option.getD_some, if_pos magic]

/--
What makes the image of a log recoverable: block ids compare like ordinals, and
an erased first page gets the block id the scan assumes for it.
-/
structure Recoverable (item : ItemDef) (log : StoreLog) : Prop where
  hasData :
    ∀ data ∈ pageItems item log log.closed, hasNoData data = false
  ordered :
    BlocksOrdered (geometry item).nrOfPages log.blockId
      log.oldest log.closed
  restart : ¬ InUse log (firstOrdinal item log) →
    log.blockId (firstOrdinal item log) = 0
  blockId_eq : log.opened = false → 0 < log.closed →
    firstOrdinal item log ≠ log.closed →
      log.blockId log.closed =
        (log.blockId (log.closed - 1) + 1) % maxBlockIndex

theorem firstOrdinal_bounds (item : ItemDef) (log : StoreLog) :
    log.oldest ≤ firstOrdinal item log ∧
      firstOrdinal item log < log.oldest + (geometry item).nrOfPages ∧
      firstOrdinal item log % (geometry item).nrOfPages = 0 := by
  have pages := (geometry item).nrOfPages_pos
  exact ⟨SegmentedLog.ordinalAt_ge log.oldest pages,
    SegmentedLog.ordinalAt_lt log.oldest pages,
    SegmentedLog.ordinalAt_mod log.oldest pages⟩

/-- The tag the scan starts with is that of a page with block id 0. -/
theorem initialTag_eq
    {info : ItemStoreInfo}
    (static : StaticInfo item info)
    {ordinal : Nat}
    (place : ordinal % (geometry item).nrOfPages = 0)
    (blockId_eq : log.blockId ordinal = 0) :
    initialTag info item = beginTagOf item log ordinal := by
  rw [initialTag, beginTagOf, StoreGeometry.pageOf, place, blockId_eq,
    static.firstPage_eq, static.itemSize_eq]
  rfl

/-- A recoverable image can be scanned from its first flash page. -/
theorem Recoverable.scannable
    (recoverable : Recoverable item log)
    (fresh : Fresh item state)
    (wellFormed : log.WellFormed (geometry item))
    (image : StoreImage item log state.flash.memory)
    (startKnown : firstOrdinal item log ≤ log.closed) :
    Scannable item log (firstOrdinal item log) log.oldest log.closed
      state := by
  have bounds := firstOrdinal_bounds item log
  exact
    { static := fresh.static
      wellFormed := wellFormed
      image := image
      hasData := recoverable.hasData
      ordered := recoverable.ordered
      known := by
        intro ordinal lower upper inUse
        rcases inUse with closed | ⟨current, opened⟩
        · omega
        · omega
      start_known := ⟨bounds.1, startKnown⟩
      start_place := bounds.2.2
      start_inUse := fun _ => rfl
      start_tag := fun notInUse =>
        initialTag_eq fresh.static bounds.2.2
          (recoverable.restart notInUse) }

/-- The scan of all places of the ring. -/
theorem Scannable.scan_all
    {start first last : Nat}
    (scannable : Scannable item log start first last state)
    (room :
      log.opened = true →
        log.slot (geometry item) < (geometry item).capacity) :
    ∃ found header low high,
      scanAll item state = .ok (withScan state item found, header) ∧
      ScanInvariant item log start (geometry item).nrOfPages found
        low high := by
  have several := (geometry item).severalPages
  have last := scannable.scan_run zeroHeader
    ((geometry item).nrOfPages - 1) (by omega)
    (fun opened _ => room opened)
  rw [Nat.sub_add_cancel (by omega)] at last
  exact last

/-- Recovery of a log that the scan starts in. -/
theorem initItemStore_spacious
    (fresh : Fresh item state)
    (spacious : log.Spacious (geometry item))
    (image : StoreImage item log state.flash.memory)
    (recoverable : Recoverable item log)
    (startKnown : firstOrdinal item log ≤ log.closed) :
    ∃ after,
      initItemStore state item = .ok after ∧
      Tracks item log 0 after ∧
      Extends item [] state after := by
  have wellFormed := spacious.wellFormed
  have inWindow := spacious.inWindow
  have several := (geometry item).severalPages
  have bounds := firstOrdinal_bounds item log
  have scannable :=
    recoverable.scannable fresh wellFormed image startKnown
  obtain ⟨found, header, low, high, run, invariant⟩ :=
    scannable.scan_all (fun _ => spacious.room)
  have place : ∀ ordinal, ordinal % (geometry item).nrOfPages <
      (geometry item).nrOfPages :=
    fun ordinal => Nat.mod_lt _ (geometry item).nrOfPages_pos
  have lowEq : low = log.oldest := by
    have lowLe := invariant.low_le
    have lower : log.oldest ≤ low := by
      rcases invariant.low_inUse with same | ⟨_, lower⟩ <;> omega
    by_cases inUse : InUse log log.oldest
    · have bound := invariant.bounds log.oldest (Nat.le_refl _)
        (by omega) inUse (place _)
      omega
    · have empty : ¬ log.oldest < log.closed :=
        fun closed => inUse (Or.inl closed)
      omega
  have highLe : high ≤ log.closed := by
    rcases invariant.high_inUse with same | ⟨inUse, _⟩
    · omega
    · rcases inUse with closed | ⟨current, _⟩ <;> omega
  subst lowEq
  by_cases reached : high = log.closed
  · subst reached
    exact ⟨_, initItemStore_open fresh wellFormed inWindow image run
      invariant, tracks_withScan fresh wellFormed image invariant,
      extends_withScan found⟩
  · have highGe := invariant.high_ge
    have notOpened : log.opened = false := by
      by_contra opened
      have inUse : InUse log log.closed :=
        Or.inr ⟨rfl, Bool.eq_true_of_not_eq_false opened⟩
      have bound := invariant.bounds log.closed wellFormed.oldest_le
        inWindow inUse (place _)
      omega
    have next : log.closed = high + 1 := by
      have inUse : InUse log (log.closed - 1) := Or.inl (by omega)
      have bound := invariant.bounds (log.closed - 1) (by omega)
        (by omega) inUse (place _)
      omega
    have blockId_eq := recoverable.blockId_eq notOpened (by omega)
      (by omega)
    rw [show log.closed - 1 = high by omega] at blockId_eq
    have tracks := tracks_pointed fresh wellFormed image notOpened next
      blockId_eq invariant
    have adjusted := adjustNextWritePage_empty tracks notOpened inWindow
      (show (completeTagOf item log high).nextPage =
        UInt8.ofNat ((geometry item).pageOf log.closed) by
          rw [next]; rfl) rfl
    refine ⟨_, ?_, tracks, ?_⟩
    · rw [initItemStore_closed fresh image (by omega) (by omega)
        (by omega) run invariant.newest_eq, adjusted]
      rfl
    · exact extends_pointed found _

/-- Recovery between two adds. -/
theorem initItemStore_regular
    (fresh : Fresh item state)
    (regular : log.Regular (geometry item))
    (image : StoreImage item log state.flash.memory)
    (recoverable : Recoverable item log) :
    ∃ after,
      initItemStore state item = .ok after ∧
      Tracks item log 0 after ∧
      Extends item [] state after := by
  have inWindow := regular.inWindow
  have oldest := regular.oldest_eq
  rw [SegmentedLog.oldest] at oldest
  have bounds := firstOrdinal_bounds item log
  apply initItemStore_spacious fresh regular.spacious image recoverable
  by_cases unwrapped : log.oldest = 0
  · have first : firstOrdinal item log = 0 :=
      SegmentedLog.eq_of_same_place bounds.1 bounds.2.1
        (by omega) (by omega) (by rw [bounds.2.2, Nat.zero_mod])
    omega
  · omega

end Recovery

end DemoBoard.ItemStore
