import DemoBoard.ItemStoreReset

namespace DemoBoard.ItemStore

open ByteMemory

/-!
# Reset with a full page that is not closed

The scan writes a missing complete tag as soon as it meets the full page.  In
the first turn of the ring the next page is erased and the scan goes on.  In
later turns the next page has to be erased while the scan is still running:
either the oldest page is not known yet, or the final check of `InitItemStore`
asks for a second erase.
-/

/-- A full page without its complete tag, found after a reset. -/
structure FullPage
    (item : ItemDef) (log : StoreLog) (state : ItemStoreState) :
    Prop where
  fresh : Fresh item state
  wellFormed : log.WellFormed (geometry item)
  image : StoreImage item log state.flash.memory
  opened : log.opened = true
  full : log.slot (geometry item) = (geometry item).capacity
  oldest_eq :
    log.oldest = SegmentedLog.oldest (geometry item).nrOfPages log.closed
  hasData :
    ∀ data ∈ pageItems item log log.closed, hasNoData data = false
  ordered :
    BlocksOrdered (geometry item).nrOfPages log.blockId
      log.oldest log.closed

/-- The first ordinal of the turn a page belongs to. -/
def turnStart (item : ItemDef) (log : StoreLog) : Nat :=
  log.closed - log.closed % (geometry item).nrOfPages

section FullPage

variable {item : ItemDef}
variable {log : StoreLog}
variable {state : ItemStoreState}

theorem turnStart_bounds
    (oldest_eq :
      log.oldest =
        SegmentedLog.oldest (geometry item).nrOfPages log.closed) :
    log.oldest ≤ turnStart item log ∧
      turnStart item log ≤ log.closed ∧
      turnStart item log % (geometry item).nrOfPages = 0 ∧
      turnStart item log + log.closed % (geometry item).nrOfPages =
        log.closed := by
  have place := Nat.mod_lt log.closed (geometry item).nrOfPages_pos
  have below := Nat.mod_le log.closed (geometry item).nrOfPages
  rw [SegmentedLog.oldest] at oldest_eq
  refine ⟨by rw [turnStart]; omega, by rw [turnStart]; omega, ?_,
    by rw [turnStart]; omega⟩
  rw [turnStart]
  exact Nat.mod_eq_zero_of_dvd (Nat.dvd_sub_mod log.closed)

/-- The first flash page holds the first page of the turn. -/
theorem firstOrdinal_eq_turnStart
    (oldest_eq :
      log.oldest =
        SegmentedLog.oldest (geometry item).nrOfPages log.closed) :
    firstOrdinal item log = turnStart item log := by
  have bounds := firstOrdinal_bounds item log
  have turn := turnStart_bounds oldest_eq
  have several := (geometry item).severalPages
  rw [SegmentedLog.oldest] at oldest_eq
  exact SegmentedLog.eq_of_same_place bounds.1 bounds.2.1 turn.1
    (by omega) (by rw [bounds.2.2, turn.2.2.1])

theorem FullPage.inUse
    (page : FullPage item log state)
    {ordinal : Nat}
    (upper : ordinal ≤ log.closed) :
    InUse log ordinal := by
  rcases Nat.lt_or_eq_of_le upper with closed | current
  · exact Or.inl closed
  · exact Or.inr ⟨current, page.opened⟩

theorem FullPage.scannable
    (page : FullPage item log state) :
    Scannable item log (turnStart item log) log.oldest log.closed state :=
  have turn := turnStart_bounds page.oldest_eq
  have first := firstOrdinal_eq_turnStart page.oldest_eq
  { static := page.fresh.static
    wellFormed := page.wellFormed
    image := page.image
    hasData := page.hasData
    ordered := page.ordered
    known := by
      rintro ordinal lower _ (closed | ⟨current, _⟩) <;> omega
    start_known := ⟨turn.1, turn.2.1⟩
    start_place := turn.2.2.1
    start_inUse := fun _ => first.symm
    start_tag := by
      intro notInUse
      rw [firstOrdinal] at first
      rw [first] at notInUse
      exact (notInUse (page.inUse turn.2.1)).elim }

/-- A page that is in place before the current one belongs to its turn. -/
theorem turnStart_le_of_place
    (oldest_eq :
      log.oldest =
        SegmentedLog.oldest (geometry item).nrOfPages log.closed)
    {ordinal : Nat}
    (lower : log.oldest ≤ ordinal)
    (upper : ordinal ≤ log.closed)
    (place :
      ordinal % (geometry item).nrOfPages <
        log.closed % (geometry item).nrOfPages) :
    turnStart item log ≤ ordinal := by
  have turn := turnStart_bounds oldest_eq
  rw [SegmentedLog.oldest] at oldest_eq
  have several := (geometry item).severalPages
  have small := Nat.mod_lt ordinal (geometry item).nrOfPages_pos
  have samePlace :
      (turnStart item log + ordinal % (geometry item).nrOfPages) %
        (geometry item).nrOfPages =
        ordinal % (geometry item).nrOfPages := by
    rw [Nat.add_mod, turn.2.2.1, Nat.zero_add, Nat.mod_mod,
      Nat.mod_eq_of_lt small]
  have same := SegmentedLog.eq_of_same_place lower
    (show ordinal < log.oldest + (geometry item).nrOfPages by omega)
    (show log.oldest ≤
      turnStart item log + ordinal % (geometry item).nrOfPages by omega)
    (by omega) samePlace.symm
  omega

/-- The scan up to and including the full page. -/
theorem FullPage.scan_full
    (page : FullPage item log state) :
    ∃ seen header,
      seen.newest = beginTagOf item log log.closed ∧
      seen.oldest = beginTagOf item log (turnStart item log) ∧
      seen.fullPages =
        (List.range (log.closed % (geometry item).nrOfPages)).countP
          (fun place =>
            SegmentedLog.ordinalAt (geometry item).nrOfPages log.oldest
              place < log.closed) ∧
      countItemsLoop state.flash (geometry item).itemSize
          (pageAddr ((geometry item).pageOf log.closed) + flashPageSize)
          (pageAddr ((geometry item).pageOf log.closed) + pageHeaderSize)
          0 [] =
        seen.nrOfItems ∧
      (geometry item).capacity ≤ seen.nrOfItems ∧
      seen.nrOfItems ≤ (geometry item).capacity + 1 ∧
      (List.range (log.closed % (geometry item).nrOfPages + 1)).foldlM
          (scanPage item)
          (withScan state item (initialScan item (state.itemStore item)),
            zeroHeader) =
        (closePageIfFull (withScan state item seen) item).map
          fun outcome => (outcome.1, header) := by
  have turn := turnStart_bounds page.oldest_eq
  have pages := (geometry item).nrOfPages_pos
  have place := Nat.mod_lt log.closed pages
  have inWindow := page.wellFormed.closed_lt page.opened
  have holds := page.image.currentPage page.wellFormed inWindow
  have length := page.wellFormed.length_pageItems
  have small := (geometry item).capacity_le
  obtain ⟨count, counted, atLeast, atMost⟩ :=
    countItemsLoop_full (geometry item) holds page.hasData
      (by rw [length, page.full])
  rw [headerOf_opened item page.opened] at holds
  rw [List.range_succ, List.foldlM_append]
  rcases Nat.eq_zero_or_pos (log.closed % (geometry item).nrOfPages)
    with first | later
  · have start : turnStart item log = log.closed := by omega
    have visited :=
      @scanPage_open item log state
        (initialScan item (state.itemStore item)) log.closed 0
        page.fresh.static first _ holds count counted (by omega) zeroHeader
    rw [show decide (0 = 0) = true from rfl] at visited
    rw [first]
    refine
      ⟨{ (initialScan item (state.itemStore item)).see
            (geometry item).nrOfPages (beginTagOf item log log.closed) true with
          nrOfItems := count },
        { beginTag := beginTagOf item log log.closed
          completeTag := PageCompleteTag.erased },
        ?_, ?_, ?_, counted, atLeast, atMost, ?_⟩
    rotate_left 3
    · simp only [List.range_zero, List.foldlM_nil, bind, pure,
        Except.pure, Except.bind, List.foldlM_cons]
      rw [visited]
      generalize closePageIfFull _ item = outcome
      cases outcome <;> rfl
    · simp [ScanResult.see]
    · simp [ScanResult.see, start]
    · simp [initialScan]
  · obtain ⟨visitedPlaces, shape⟩ := Nat.exists_eq_succ_of_ne_zero
      (show log.closed % (geometry item).nrOfPages ≠ 0 by omega)
    obtain ⟨found, header, low, high, run, invariant⟩ :=
      page.scannable.scan_run zeroHeader visitedPlaces (by omega)
        (fun _ before => by omega)
    rw [← Nat.succ_eq_add_one, ← shape] at run invariant
    have highLe : high < log.closed := by
      have highPlace := invariant.high_place
      rcases invariant.high_inUse with same | ⟨closed | ⟨current, _⟩, _⟩
      · omega
      · exact closed
      · rw [current] at highPlace
        omega
    have lowEq : low = turnStart item log := by
      have lowLe := invariant.low_le
      rcases invariant.low_inUse with same | ⟨_, lower⟩
      · exact same
      · have bound := turnStart_le_of_place page.oldest_eq lower (by omega)
          invariant.low_place
        omega
    have seen := ScanResult.see_ordered page.wellFormed page.ordered
      invariant.newest_eq invariant.oldest_eq
      (Nat.le_trans invariant.low_le invariant.high_ge)
      (by omega) (Nat.le_of_lt highLe)
      ⟨page.wellFormed.oldest_le, Nat.le_refl log.closed⟩
      (show log.closed ≠ low by omega) (by omega)
    rw [Nat.max_eq_right (by omega), Nat.min_eq_left (by omega)] at seen
    have notFirst :
        decide (log.closed % (geometry item).nrOfPages = 0) = false := by
      rw [decide_eq_false_iff_not]
      omega
    have visited :=
      @scanPage_open item log state found log.closed _
        page.fresh.static rfl _ holds count counted (by omega) header
    rw [notFirst] at visited
    rw [run]
    refine
      ⟨{ found.see (geometry item).nrOfPages
            (beginTagOf item log log.closed) false with
          nrOfItems := count },
        { beginTag := beginTagOf item log log.closed
          completeTag := PageCompleteTag.erased },
        ?_, ?_, ?_, counted, atLeast, atMost, ?_⟩
    rotate_left 3
    · simp only [bind, pure, Except.pure, Except.bind, List.foldlM_cons,
        List.foldlM_nil]
      rw [visited]
      generalize closePageIfFull _ item = outcome
      cases outcome <;> rfl
    · exact seen.1
    · rw [← lowEq]
      exact seen.2
    · rw [ScanResult.fullPages_see]
      exact invariant.fullPages_eq

/-- What the scan finds describes a log in its first turn. -/
theorem FullPage.tracks_scan
    (page : FullPage item log state)
    (firstTurn : log.closed + 1 < (geometry item).nrOfPages)
    {seen : ScanResult}
    (newest : seen.newest = beginTagOf item log log.closed)
    (oldest : seen.oldest = beginTagOf item log (turnStart item log))
    (fullPages :
      seen.fullPages =
        (List.range (log.closed % (geometry item).nrOfPages)).countP
          (fun place =>
            SegmentedLog.ordinalAt (geometry item).nrOfPages log.oldest
              place < log.closed))
    (nrOfItems : seen.nrOfItems = (geometry item).capacity) :
    Tracks item log 0 (withScan state item seen) where
  idle := page.fresh.idle
  listenerIdle := page.fresh.listenerIdle
  noReminder := page.fresh.noReminder
  wellFormed := page.wellFormed
  image := page.image
  info := by
    have oldestEq := page.oldest_eq
    rw [SegmentedLog.oldest] at oldestEq
    have unwrapped : log.oldest = 0 := by omega
    have place : log.closed % (geometry item).nrOfPages = log.closed :=
      Nat.mod_eq_of_lt (by omega)
    have counted :
        ((List.range log.closed).countP fun ordinal =>
          SegmentedLog.ordinalAt (geometry item).nrOfPages log.oldest
            ordinal < log.closed) = log.closed := by
      have range := SegmentedLog.countP_range_add_lt 0 log.closed log.closed
      rw [Nat.sub_zero, Nat.min_self] at range
      rw [unwrapped]
      simpa [SegmentedLog.ordinalAt] using range
    rw [place, counted] at fullPages
    rw [turnStart, place, Nat.sub_self] at oldest
    rw [withScan, modifyInfo_same]
    exact
      { page.fresh.static with
        nextWritePageInfo_eq := newest
        oldestPageInfo_eq := by rw [oldest, unwrapped]
        nrOfFullPages_eq := by
          simp only [fullPages, unwrapped, Nat.sub_zero]
        currentPageNrOfItems_eq := by
          simp only [page.opened, if_true, page.full, nrOfItems] }

/-- The scan passes the erased pages behind the current one. -/
theorem scan_passes
    {stale : Nat}
    (tracks : Tracks item log stale state)
    (places : List Nat)
    (notInUse :
      ∀ place ∈ places, place < (geometry item).nrOfPages ∧
        ¬ InUse log
          (SegmentedLog.ordinalAt (geometry item).nrOfPages log.oldest
            place))
    (header : PageHeader) :
    ∃ next,
      places.foldlM (scanPage item) (state, header) =
        .ok (state, next) := by
  induction places generalizing header with
  | nil => exact ⟨header, rfl⟩
  | cons place rest inductionHypothesis =>
      obtain ⟨inside, unused⟩ := notInUse place (List.mem_cons_self ..)
      have lower := SegmentedLog.ordinalAt_ge log.oldest inside
      have upper := SegmentedLog.ordinalAt_lt log.oldest inside
      have atPlace := SegmentedLog.ordinalAt_mod log.oldest inside
      have holds := tracks.image _ lower upper
      have blank :
          headerOf item log
              (SegmentedLog.ordinalAt (geometry item).nrOfPages log.oldest
                place) =
            PageHeader.erased := by
        simp only [InUse, not_or] at unused
        simp [headerOf, unused, PageHeader.erased]
      rw [blank] at holds
      have same :
          withScan state item
              { current := (state.itemStore item).currentPageInfo
                newest := (state.itemStore item).nextWritePageInfo
                oldest := (state.itemStore item).oldestPageInfo
                fullPages := (state.itemStore item).nrOfFullPages
                nrOfItems :=
                  (state.itemStore item).currentPageNrOfItems } =
            state := by
        simp [withScan, modifyInfo]
      have passed :
          scanPage item (state, header) place =
            .ok (state, PageHeader.erased) := by
        rw [← same]
        exact scanPage_erased tracks.info.toStaticInfo atPlace holds header
      obtain ⟨next, scanned⟩ := inductionHypothesis
        (fun other member =>
          notInUse other (List.mem_cons_of_mem _ member))
        PageHeader.erased
      refine ⟨next, ?_⟩
      rw [List.foldlM_cons, passed]
      exact scanned

/-- In the first turn the scan closes the page and goes on. -/
theorem FullPage.initItemStore_firstTurn
    (page : FullPage item log state)
    (firstTurn : log.closed + 1 < (geometry item).nrOfPages) :
    ∃ after,
      initItemStore state item = .ok after ∧
      Tracks item log.closePage (geometry item).capacity after ∧
      Extends item (closeEffects item log) state after := by
  have wellFormed := page.wellFormed
  have inWindow := wellFormed.closed_lt page.opened
  have oldestEq := page.oldest_eq
  rw [SegmentedLog.oldest] at oldestEq
  have place : log.closed % (geometry item).nrOfPages = log.closed :=
    Nat.mod_eq_of_lt (by omega)
  obtain ⟨seen, header, newest, oldest, fullPages, counted, _, _, scanned⟩ :=
    page.scan_full
  have nrOfItems : seen.nrOfItems = (geometry item).capacity := by
    have holds := page.image.currentPage wellFormed inWindow
    have length := wellFormed.length_pageItems
    have nextHolds := page.image (log.closed + 1) (by omega) (by omega)
    have noItems : pageItems item log (log.closed + 1) = [] := by
      have atMost := wellFormed.items_le
      apply List.eq_nil_of_length_eq_zero
      rw [pageItems, SegmentedLog.length_segment, Nat.succ_mul]
      omega
    have nextPage :
        pageAddr ((geometry item).pageOf (log.closed + 1)) =
          pageAddr ((geometry item).pageOf log.closed) +
            flashPageSize := by
      simp only [StoreGeometry.pageOf, place, Nat.mod_eq_of_lt firstTurn,
        pageAddr]
      rw [← Nat.add_assoc, Nat.succ_mul]
      omega
    rw [headerOf_later item (Nat.lt_succ_self _), noItems] at nextHolds
    have following := nextHolds.constantOn_page
    rw [nextPage] at following
    rw [← counted]
    exact countItemsLoop_full_erased (geometry item) holds page.hasData
      (by rw [length, page.full]) following
  have tracks := page.tracks_scan firstTurn newest oldest fullPages
    nrOfItems
  obtain ⟨after, closing, closedTracks, closedExtends⟩ :=
    closePageIfFull_next tracks page.opened page.full (by omega)
  have laterPlaces :
      ∀ index ∈ (List.range
          ((geometry item).nrOfPages - (log.closed + 1))).map
            (log.closed + 1 + ·),
        index < (geometry item).nrOfPages ∧
          ¬ InUse log.closePage
            (SegmentedLog.ordinalAt (geometry item).nrOfPages
              log.closePage.oldest index) := by
    intro index member
    obtain ⟨offset, inside, same⟩ := List.mem_map.mp member
    have bound := List.mem_range.mp inside
    have unwrapped : log.closePage.oldest = 0 := by
      simp only [StoreLog.closePage]
      omega
    have ordinal :
        SegmentedLog.ordinalAt (geometry item).nrOfPages 0 index =
          index := by
      simp [SegmentedLog.ordinalAt]
    refine ⟨by omega, ?_⟩
    rw [unwrapped, ordinal]
    rintro (closed | ⟨_, contradiction⟩)
    · simp only [StoreLog.closePage] at closed
      omega
    · cases contradiction
  obtain ⟨next, passed⟩ := scan_passes closedTracks _ laterPlaces header
  have run : scanAll item state = .ok (after, next) := by
    have split :
        (geometry item).nrOfPages =
          log.closed + 1 + ((geometry item).nrOfPages - (log.closed + 1)) := by
      omega
    rw [place, closing] at scanned
    rw [scanAll, split, List.range_add, List.foldlM_append, scanned]
    exact passed
  have nextHolds := closedTracks.image.currentPage closedTracks.wellFormed
    (show log.closed + 1 < log.oldest + (geometry item).nrOfPages by omega)
  rw [headerOf_notOpened item rfl] at nextHolds
  have read := readHeader_eq nextHolds
  have blank : PageHeader.erased.completeTag.magic ≠ pageMagic :=
    PageCompleteTag.magic_erased
  refine ⟨after, ?_, closedTracks, ?_⟩
  · rw [initItemStore_scanned page.fresh run, afterScan,
      closedTracks.info.nextPage_eq]
    simp only [read, Option.getD_some, if_neg blank]
  · exact (extends_withScan seen).trans closedExtends

/-- Reading a page header never fails. -/
theorem readHeader_some
    (state : ItemStoreState)
    (page : Nat) :
    ∃ header, readHeader state page = some header := by
  rw [readHeader, Flash.read_eq _ _ (pageAddr_aligned page)]
  exact ⟨_, rfl⟩

/-- A page in use cannot be erased while another erase is running. -/
theorem adjustNextWritePage_busy
    (busy : state.flash.operationComplete = true)
    {completeTag : PageCompleteTag}
    {header : PageHeader}
    (read :
      readHeader state completeTag.nextPage.toNat = some header)
    (inUse : hasNoData header.toBytes = false) :
    ∃ failure,
      adjustNextWritePage state item completeTag = .error failure := by
  obtain ⟨following, readFollowing⟩ := readHeader_some
    (modifyInfo state item (pointTo completeTag))
    header.completeTag.nextPage.toNat
  unfold pointTo at readFollowing
  obtain ⟨failure, refused⟩ :=
    Flash.erase_busy completeTag.nextPage.toNat 1 busy
  simp only [adjustNextWritePage, read, inUse, Bool.false_eq_true,
    if_false, readFollowing]
  split
  · exact ⟨_, rfl⟩
  · split
    · exact ⟨_, rfl⟩
    · split
      · exact ⟨_, rfl⟩
      · refine ⟨failure, ?_⟩
        simp only [flashErase, modifyInfo_flash, refused]
        rfl

/-- Only the oldest page may be erased. -/
theorem adjustNextWritePage_notOldest
    {completeTag : PageCompleteTag}
    {header : PageHeader}
    (read :
      readHeader state completeTag.nextPage.toNat = some header)
    (inUse : hasNoData header.toBytes = false)
    (notOldest :
      (state.itemStore item).oldestPageInfo.pageId ≠
        completeTag.nextPage) :
    adjustNextWritePage state item completeTag =
      .error .erasedPageNotOldest := by
  obtain ⟨following, readFollowing⟩ := readHeader_some
    (modifyInfo state item (pointTo completeTag))
    header.completeTag.nextPage.toNat
  unfold pointTo at readFollowing
  simp only [adjustNextWritePage, read, inUse, Bool.false_eq_true,
    if_false, readFollowing, modifyInfo_same]
  rw [if_pos notOldest]

/-- The state after `AdjustNextWritePage` has started an erase. -/
def eraseStarted
    (item : ItemDef) (completeTag : PageCompleteTag)
    (oldest : PageBeginTag) (state : ItemStoreState) : ItemStoreState :=
  { modifyInfo (modifyInfo state item (pointTo completeTag)) item
      fun info =>
        { info with
          oldestPageInfo := oldest
          nrOfFullPages := (info.nrOfFullPages + 255) % 256 } with
    eraseParameters :=
      { itemStore := (state.itemStore item).currentPageInfo.itemId
        nrOfPages := 1
        reinit := false
        pageNumber := completeTag.nextPage.toNat }
    listenerState := .erasing
    flash := state.flash.erasePending completeTag.nextPage.toNat }

/-- Erasing a page in use fails, or is only started. -/
theorem adjustNextWritePage_started
    (idle : state.flash.Idle)
    {completeTag : PageCompleteTag}
    {header : PageHeader}
    (read :
      readHeader state completeTag.nextPage.toNat = some header)
    (inUse : hasNoData header.toBytes = false)
    (writable :
      firstWritableFlashPage ≤ completeTag.nextPage.toNat ∧
        completeTag.nextPage.toNat ≤ lastWritableFlashPage) :
    (∃ failure,
      adjustNextWritePage state item completeTag = .error failure) ∨
    ∃ after,
      adjustNextWritePage state item completeTag = .ok (after, true) ∧
      after.flash.operationComplete = true ∧
      after.flash.memory = state.flash.memory ∧
      (after.itemStore item).nextWritePageInfo.pageId =
        completeTag.nextPage := by
  obtain ⟨following, readFollowing⟩ := readHeader_some
    (modifyInfo state item (pointTo completeTag))
    header.completeTag.nextPage.toNat
  unfold pointTo at readFollowing
  have started := Flash.erase_single idle writable.1 writable.2
  simp only [adjustNextWritePage, read, inUse, Bool.false_eq_true,
    if_false, readFollowing]
  split
  · exact Or.inl ⟨_, rfl⟩
  · split
    · exact Or.inl ⟨_, rfl⟩
    · split
      · exact Or.inl ⟨_, rfl⟩
      · refine Or.inr
          ⟨eraseStarted item completeTag following.beginTag state,
            ?_, rfl, rfl, ?_⟩
        · simp only [flashErase, modifyInfo_flash, modifyInfo_same, started]
          rfl
        · simp [eraseStarted, pointTo]

/-- The complete tag the scan writes to a full page of a full ring. -/
theorem FullPage.closePageIfFull_wrapped
    (page : FullPage item log state)
    (wrapped : log.closed + 1 = log.oldest + (geometry item).nrOfPages)
    {seen : ScanResult}
    (newest : seen.newest = beginTagOf item log log.closed)
    (atLeast : (geometry item).capacity ≤ seen.nrOfItems) :
    ∃ closed completeTag following,
      closePageIfFull (withScan state item seen) item =
        adjustNextWritePage closed item completeTag ∧
      completeTag.nextPage =
        UInt8.ofNat ((geometry item).pageOf log.oldest) ∧
      closed.flash.Idle ∧
      (closed.itemStore item).oldestPageInfo = seen.oldest ∧
      readHeader closed ((geometry item).pageOf log.oldest) =
        some
          { beginTag := beginTagOf item log log.oldest
            completeTag := completeTagOf item log log.oldest } ∧
      readHeader closed ((geometry item).pageOf (log.oldest + 1)) =
        some following ∧
      hasNoData following.toBytes = false := by
  have wellFormed := page.wellFormed
  have inWindow := wellFormed.closed_lt page.opened
  have several := (geometry item).severalPages
  have static := withScan_static page.fresh.static seen
  have holds := page.image.currentPage wellFormed inWindow
  rw [headerOf_opened item page.opened] at holds
  have free := holds.completeTag_free rfl
  have aligned := pageAddr_aligned ((geometry item).pageOf log.closed)
  have turn := (geometry item).pageOf_add_nrOfPages log.oldest
  rw [← wrapped] at turn
  have info :
      (withScan state item seen).itemStore item =
        { state.itemStore item with
          currentPageInfo := seen.current
          nextWritePageInfo := seen.newest
          oldestPageInfo := seen.oldest
          nrOfFullPages := seen.fullPages
          currentPageNrOfItems := seen.nrOfItems } := by
    rw [withScan, modifyInfo_same]
  have counted :
      ((withScan state item seen).itemStore item).currentPageNrOfItems =
        seen.nrOfItems := by
    rw [info]
  generalize tagEq :
    closingTag ((withScan state item seen).itemStore item) = completeTag
  have currentPage :
      ((withScan state item seen).itemStore
          item).nextWritePageInfo.pageId.toNat =
        (geometry item).pageOf log.closed := by
    rw [info, newest]
    exact (geometry item).toNat_pageOf log.closed
  have nextPage :
      completeTag.nextPage =
        UInt8.ofNat ((geometry item).pageOf log.oldest) := by
    rw [← tagEq, ← turn, ← nextPageNr_pageOf static, ← currentPage]
    rfl
  have exceeds := ((geometry item).slotAddress_exceeds_iff
    ((geometry item).pageOf log.closed) seen.nrOfItems).mpr atLeast
  rw [slotAddress] at exceeds
  have success :=
    @flashWrite_erased (withScan state item seen) page.fresh.idle item
      log.closed
      (pageAddr ((geometry item).pageOf log.closed) + pageBeginTagSize) 1
      completeTag.toBytes (by omega)
      (by simp only [pageBeginTagSize]; omega) (Nat.le_add_right _ _)
      (by simp [pageBeginTagSize, flashPageSize]) free
  have memory :
      (written (withScan state item seen)
          (pageAddr ((geometry item).pageOf log.closed) +
            pageBeginTagSize)
          completeTag.toBytes 1).flash.memory =
        writeBytes state.flash.memory
          (pageAddr ((geometry item).pageOf log.closed) + 8)
          completeTag.toBytes := by
    rw [written_memory, applyEffects_bufferOf _ _ _ (by simp)]
    rfl
  have others : ∀ ordinal, log.oldest ≤ ordinal →
      ordinal < log.closed →
      PageHolds
        (writeBytes state.flash.memory
          (pageAddr ((geometry item).pageOf log.closed) + 8)
          completeTag.toBytes)
        (geometry item).itemSize ((geometry item).pageOf ordinal)
        { beginTag := beginTagOf item log ordinal
          completeTag := completeTagOf item log ordinal }
        (pageItems item log ordinal) := by
    intro ordinal lower closed
    have otherHolds := page.image ordinal lower (by omega)
    rw [headerOf_closed item closed] at otherHolds
    apply otherHolds.congr
    refine writeBytes_agreeOn_page _ ?_ (Nat.le_add_right _ 8)
      (by simp [flashPageSize])
    intro same
    have equal := (geometry item).pageOf_injective lower (by omega)
      wellFormed.oldest_le inWindow same
    omega
  have hasData : ∀ tag ordinal,
      hasNoData
        (PageHeader.toBytes
          { beginTag := beginTagOf item log ordinal
            completeTag := tag }) = false := by
    intro tag ordinal
    rw [PageHeader.toBytes, hasNoData_append,
      PageBeginTag.hasNoData_toBytes rfl, Bool.false_and]
  refine
    ⟨modifyInfo
        (written (withScan state item seen)
          (pageAddr ((geometry item).pageOf log.closed) +
            pageBeginTagSize)
          completeTag.toBytes 1) item (pageClosed completeTag),
      completeTag,
      { beginTag := beginTagOf item log (log.oldest + 1)
        completeTag :=
          if log.oldest + 1 = log.closed then
            completeTag
          else
            completeTagOf item log (log.oldest + 1) },
      ?_, nextPage, page.fresh.idle.written _ _ _, ?_, ?_, ?_,
      hasData _ _⟩
  · simp only [closePageIfFull]
    rw [tagEq, currentPage, static.itemSize_eq, counted, if_pos exceeds,
      success]
    rfl
  · simp [info, pageClosed]
  · apply readHeader_eq
    rw [modifyInfo_flash, memory]
    exact others log.oldest (Nat.le_refl _) (by omega)
  · by_cases last : log.oldest + 1 = log.closed
    · rw [if_pos last, last]
      apply readHeader_eq
      rw [modifyInfo_flash, memory]
      exact holds.writeCompleteTag completeTag
    · rw [if_neg last]
      apply readHeader_eq
      rw [modifyInfo_flash, memory]
      exact others (log.oldest + 1) (by omega) (by omega)

/-- In later turns the reset fails an assertion. -/
theorem FullPage.initItemStore_wrapped
    (page : FullPage item log state)
    (wrapped : log.closed + 1 = log.oldest + (geometry item).nrOfPages) :
    ∃ failure, initItemStore state item = .error failure := by
  obtain ⟨seen, header, newest, oldest, _, _, atLeast, _, scanned⟩ :=
    page.scan_full
  obtain ⟨closed, completeTag, following, closing, nextPage, idle,
      oldestInfo, readOldest, readFollowing, followingData⟩ :=
    page.closePageIfFull_wrapped wrapped newest atLeast
  have turn := turnStart_bounds page.oldest_eq
  have place := Nat.mod_lt log.closed (geometry item).nrOfPages_pos
  have several := (geometry item).severalPages
  have nextPageNat :
      completeTag.nextPage.toNat = (geometry item).pageOf log.oldest := by
    rw [nextPage, (geometry item).toNat_pageOf]
  have oldestData :
      hasNoData
        (PageHeader.toBytes
          { beginTag := beginTagOf item log log.oldest
            completeTag := completeTagOf item log log.oldest }) =
        false := by
    rw [PageHeader.toBytes, hasNoData_append,
      PageBeginTag.hasNoData_toBytes rfl, Bool.false_and]
  have readNext := readOldest
  rw [← nextPageNat] at readNext
  rw [closing] at scanned
  rw [initItemStore_eq page.fresh, scanAll]
  by_cases last :
      log.closed % (geometry item).nrOfPages + 1 =
        (geometry item).nrOfPages
  · -- the scan is over, but the final check asks for a second erase
    rw [last] at scanned
    rw [scanned]
    have writable := (geometry item).pageOf_writable log.oldest
    rw [← nextPageNat] at writable
    rcases adjustNextWritePage_started idle readNext oldestData writable
      with ⟨failure, failed⟩ | ⟨after, started, busy, memory, newestPage⟩
    · rw [failed]
      exact ⟨failure, rfl⟩
    · have sameRead : ∀ number,
          readHeader after number = readHeader closed number := by
        intro number
        rw [readHeader, readHeader,
          Flash.read_eq _ _ (pageAddr_aligned number),
          Flash.read_eq _ _ (pageAddr_aligned number), memory]
      have nextTag :
          (completeTagOf item log log.oldest).nextPage.toNat =
            (geometry item).pageOf (log.oldest + 1) :=
        (geometry item).toNat_pageOf (log.oldest + 1)
      obtain ⟨failure, failed⟩ :=
        @adjustNextWritePage_busy item after busy
          (completeTagOf item log log.oldest) following
          (by rw [nextTag, sameRead, readFollowing]) followingData
      have magic :
          (completeTagOf item log log.oldest).magic = pageMagic := rfl
      refine ⟨failure, ?_⟩
      rw [started]
      simp only [Except.map, bind, Except.bind, afterScan, newestPage,
        nextPageNat, sameRead, readOldest, Option.getD_some, if_pos magic,
        failed]
  · -- the oldest page has not been visited yet
    have notOldest :
        (closed.itemStore item).oldestPageInfo.pageId ≠
          completeTag.nextPage := by
      intro same
      have pages := congrArg UInt8.toNat same
      rw [oldestInfo, oldest, nextPageNat] at pages
      have equal := (geometry item).pageOf_injective turn.1 (by omega)
        (Nat.le_refl _) (by omega)
        (((geometry item).toNat_pageOf _).symm.trans pages)
      omega
    have failed := adjustNextWritePage_notOldest readNext oldestData
      notOldest
    have split :
        (geometry item).nrOfPages =
          log.closed % (geometry item).nrOfPages + 1 +
            ((geometry item).nrOfPages -
              (log.closed % (geometry item).nrOfPages + 1)) := by
      omega
    refine ⟨.erasedPageNotOldest, ?_⟩
    rw [split, List.range_add, List.foldlM_append, scanned, failed]
    rfl

end FullPage

end DemoBoard.ItemStore
