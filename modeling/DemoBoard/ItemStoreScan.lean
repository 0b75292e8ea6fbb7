import DemoBoard.ItemStoreAdd

namespace DemoBoard.ItemStore

open ByteMemory

/-!
# The boot scan

`InitItemStore` visits the flash pages in address order and keeps the newest
and the oldest block it has met.  The invariant of the scan speaks about the
ordinals of the visited pages: as long as block ids compare like ordinals, the
two kept tags are those of the largest and the smallest visited ordinal.
-/

section Counting

variable {flash : Flash}
variable {itemSize page : Nat}
variable {header : PageHeader}
variable {items : List (List Byte)}

/-- The counting loop passes a slot that has data. -/
theorem countItemsLoop_data
    {pageEnd address : Nat}
    (nrOfItems : Nat)
    (readBuffer : List Byte)
    {data : List Byte}
    (inside : address < pageEnd)
    (aligned : address % 8 = 0)
    (stored : readBytes flash.memory address itemSize = data)
    (hasData : hasNoData data = false)
    (positive : 0 < itemSize) :
    countItemsLoop flash itemSize pageEnd address nrOfItems readBuffer =
      countItemsLoop flash itemSize pageEnd (address + itemSize)
        ((nrOfItems + 1) % 65536) data := by
  rw [countItemsLoop, if_pos inside, Flash.read_eq _ _ aligned, stored]
  simp only [Option.getD_some]
  rw [if_neg]
  simp [hasData]
  omega

/-- The counting loop stops at a slot without data. -/
theorem countItemsLoop_noData
    {pageEnd address : Nat}
    (nrOfItems : Nat)
    (readBuffer : List Byte)
    (aligned : address % 8 = 0)
    (blank :
      hasNoData (readBytes flash.memory address itemSize) = true) :
    countItemsLoop flash itemSize pageEnd address nrOfItems readBuffer =
      nrOfItems := by
  rw [countItemsLoop]
  split
  · rw [Flash.read_eq _ _ aligned]
    simp [blank]
  · rfl

/-- The counting loop stops at the end of the page. -/
theorem countItemsLoop_end
    {pageEnd address : Nat}
    (nrOfItems : Nat)
    (readBuffer : List Byte)
    (outside : pageEnd ≤ address) :
    countItemsLoop flash itemSize pageEnd address nrOfItems readBuffer =
      nrOfItems := by
  rw [countItemsLoop, if_neg (by omega)]

variable (geometry : StoreGeometry)

/-- The counting loop passes all items of a page. -/
theorem countItemsLoop_items
    (holds :
      PageHolds flash.memory geometry.itemSize page header items)
    (hasData : ∀ data ∈ items, hasNoData data = false)
    (within : items.length ≤ geometry.capacity)
    (remaining : Nat)
    {slot : Nat}
    (split : slot + remaining = items.length)
    (readBuffer : List Byte) :
    ∃ buffer,
      countItemsLoop flash geometry.itemSize
          (pageAddr page + flashPageSize)
          (slotAddress geometry.itemSize page slot) slot readBuffer =
        countItemsLoop flash geometry.itemSize
          (pageAddr page + flashPageSize)
          (slotAddress geometry.itemSize page items.length)
          items.length buffer := by
  induction remaining generalizing slot readBuffer with
  | zero =>
      rw [Nat.add_zero] at split
      exact ⟨readBuffer, by rw [split]⟩
  | succ remaining inductionHypothesis =>
      have inside : slot < items.length := by omega
      have small := geometry.capacity_le
      have positive := geometry.itemSize_pos
      have stored := holds.item_eq slot items[slot]
        (List.getElem?_eq_getElem inside)
      have upper := geometry.slotAddress_fits page
        (show slot + 1 ≤ geometry.capacity by omega)
      rw [slotAddress_succ] at upper
      rw [countItemsLoop_data slot readBuffer (by omega)
        (geometry.slotAddress_aligned page slot) stored
        (hasData _ (List.getElem_mem inside)) positive,
        ← slotAddress_succ, Nat.mod_eq_of_lt (by omega)]
      exact inductionHypothesis (by omega) _

/-- The number of items on a page with room. -/
theorem countItemsLoop_room
    (holds :
      PageHolds flash.memory geometry.itemSize page header items)
    (hasData : ∀ data ∈ items, hasNoData data = false)
    (room : items.length < geometry.capacity) :
    countItemsLoop flash geometry.itemSize
        (pageAddr page + flashPageSize) (pageAddr page + pageHeaderSize)
        0 [] =
      items.length := by
  obtain ⟨buffer, passed⟩ :=
    countItemsLoop_items geometry holds hasData (by omega) items.length
      (Nat.zero_add _) []
  rw [slotAddress, Nat.zero_mul, Nat.add_zero] at passed
  rw [passed]
  have upper := geometry.slotAddress_fits page
    (show items.length + 1 ≤ geometry.capacity by omega)
  rw [slotAddress_succ] at upper
  apply countItemsLoop_noData _ _ (geometry.slotAddress_aligned _ _)
  rw [holds.free.readBytes_eq upper]
  simp [hasNoData]

/-- No more items are counted than a page with room has. -/
theorem countItemsLoop_le
    (holds :
      PageHolds flash.memory geometry.itemSize page header items)
    (room : items.length < geometry.capacity)
    (remaining : Nat)
    {slot : Nat}
    (split : slot + remaining = items.length)
    (readBuffer : List Byte) :
    countItemsLoop flash geometry.itemSize
        (pageAddr page + flashPageSize)
        (slotAddress geometry.itemSize page slot) slot readBuffer ≤
      items.length := by
  have aligned := geometry.slotAddress_aligned page slot
  have upper := geometry.slotAddress_fits page
    (show slot + 1 ≤ geometry.capacity by omega)
  rw [slotAddress_succ] at upper
  induction remaining generalizing slot readBuffer with
  | zero =>
      rw [Nat.add_zero] at split
      subst split
      rw [countItemsLoop_noData _ _ aligned]
      rw [holds.free.readBytes_eq upper]
      simp [hasNoData]
  | succ remaining inductionHypothesis =>
      have small := geometry.capacity_le
      have positive := geometry.itemSize_pos
      have nextUpper := geometry.slotAddress_fits page
        (show slot + 1 + 1 ≤ geometry.capacity by omega)
      rw [slotAddress_succ] at nextUpper
      cases blank :
          hasNoData
            (readBytes flash.memory
              (slotAddress geometry.itemSize page slot)
              geometry.itemSize) with
      | true =>
          rw [countItemsLoop_noData _ _ aligned blank]
          omega
      | false =>
          rw [countItemsLoop_data slot readBuffer (by omega) aligned rfl
            blank positive, ← slotAddress_succ, Nat.mod_eq_of_lt (by omega)]
          exact inductionHypothesis (by omega) _
            (geometry.slotAddress_aligned page _) nextUpper

/-- A page without room is found to be full. -/
theorem countItemsLoop_full
    (holds :
      PageHolds flash.memory geometry.itemSize page header items)
    (hasData : ∀ data ∈ items, hasNoData data = false)
    (full : items.length = geometry.capacity) :
    ∃ count,
      countItemsLoop flash geometry.itemSize
          (pageAddr page + flashPageSize) (pageAddr page + pageHeaderSize)
          0 [] =
        count ∧
      geometry.capacity ≤ count ∧ count ≤ geometry.capacity + 1 := by
  obtain ⟨buffer, passed⟩ :=
    countItemsLoop_items geometry holds hasData (by omega) items.length
      (Nat.zero_add _) []
  rw [slotAddress, Nat.zero_mul, Nat.add_zero] at passed
  rw [passed]
  have small := geometry.capacity_le
  have aligned := geometry.slotAddress_aligned page items.length
  have exceeds := (geometry.slotAddress_exceeds_iff page
    items.length).mpr (by omega)
  by_cases blank :
      hasNoData
        (readBytes flash.memory
          (slotAddress geometry.itemSize page items.length)
          geometry.itemSize) = true
  · exact ⟨_, countItemsLoop_noData _ _ aligned blank, by omega⟩
  · by_cases inside :
        slotAddress geometry.itemSize page items.length <
          pageAddr page + flashPageSize
    · rw [countItemsLoop_data _ _ inside aligned rfl
        (Bool.eq_false_iff.mpr blank) geometry.itemSize_pos,
        countItemsLoop_end _ _ (by omega)]
      exact ⟨_, rfl, by omega⟩
    · exact ⟨_, countItemsLoop_end _ _ (by omega), by omega⟩

/-- A page without room that precedes an erased page has no further item. -/
theorem countItemsLoop_full_erased
    (holds :
      PageHolds flash.memory geometry.itemSize page header items)
    (hasData : ∀ data ∈ items, hasNoData data = false)
    (full : items.length = geometry.capacity)
    (following :
      ConstantOn flash.memory erasedByte (pageAddr page + flashPageSize)
        (pageAddr page + flashPageSize + flashPageSize)) :
    countItemsLoop flash geometry.itemSize
        (pageAddr page + flashPageSize) (pageAddr page + pageHeaderSize)
        0 [] =
      geometry.capacity := by
  obtain ⟨buffer, passed⟩ :=
    countItemsLoop_items geometry holds hasData (by omega) items.length
      (Nat.zero_add _) []
  rw [slotAddress, Nat.zero_mul, Nat.add_zero] at passed
  have small := geometry.itemSize_le
  have fits := holds.fits
  have blank :
      ConstantOn flash.memory erasedByte
        (slotAddress geometry.itemSize page items.length)
        (pageAddr page + flashPageSize + flashPageSize) := by
    intro location lower upper
    rcases Nat.lt_or_ge location (pageAddr page + flashPageSize)
      with before | after
    · exact holds.free location lower before
    · exact following location after upper
  rw [passed, countItemsLoop_noData, full]
  · exact geometry.slotAddress_aligned page items.length
  · have pageSize : flashPageSize = 4096 := rfl
    rw [blank.readBytes_eq (by omega)]
    simp [hasNoData]

end Counting

/-- What the scan has found so far. -/
structure ScanResult where
  current : PageBeginTag
  newest : PageBeginTag
  oldest : PageBeginTag
  fullPages : Nat
  nrOfItems : Nat

/-- The variables of the item store during the scan. -/
def withScan
    (state : ItemStoreState) (item : ItemDef) (found : ScanResult) :
    ItemStoreState :=
  modifyInfo state item fun info =>
    { info with
      currentPageInfo := found.current
      nextWritePageInfo := found.newest
      oldestPageInfo := found.oldest
      nrOfFullPages := found.fullPages
      currentPageNrOfItems := found.nrOfItems }

/-- The newest and oldest block after a begin tag is visited. -/
def ScanResult.see
    (nrOfPages : Nat) (found : ScanResult) (tag : PageBeginTag)
    (isInitial : Bool) : ScanResult :=
  if isInitial then
    { found with current := tag, newest := tag, oldest := tag }
  else if
    isNewer tag.blockId.toNat found.newest.blockId.toNat nrOfPages
  then
    { found with current := tag, newest := tag }
  else if
    isOlder tag.blockId.toNat found.oldest.blockId.toNat nrOfPages
  then
    { found with current := tag, oldest := tag }
  else
    { found with current := tag }

@[simp] theorem ScanResult.fullPages_see
    (nrOfPages : Nat)
    (found : ScanResult)
    (tag : PageBeginTag)
    (isInitial : Bool) :
    (found.see nrOfPages tag isInitial).fullPages = found.fullPages := by
  simp only [see]
  split_ifs <;> rfl

@[simp] theorem ScanResult.nrOfItems_see
    (nrOfPages : Nat)
    (found : ScanResult)
    (tag : PageBeginTag)
    (isInitial : Bool) :
    (found.see nrOfPages tag isInitial).nrOfItems = found.nrOfItems := by
  simp only [see]
  split_ifs <;> rfl

section Pages

variable {item : ItemDef}
variable {log : StoreLog}
variable {state : ItemStoreState}

theorem withScan_static
    (static : StaticInfo item (state.itemStore item))
    (found : ScanResult) :
    StaticInfo item ((withScan state item found).itemStore item) := by
  rw [withScan, modifyInfo_same]
  exact { static with }

/-- `UpdateNewestOldestPage` on the variables of the scan. -/
theorem updateNewestOldestPage_withScan
    (static : StaticInfo item (state.itemStore item))
    (found : ScanResult)
    (tag : PageBeginTag)
    (isInitial : Bool) :
    modifyInfo (withScan state item found) item
        (fun info =>
          updateNewestOldestPage { info with currentPageInfo := tag }
            isInitial) =
      withScan state item
        (found.see (geometry item).nrOfPages tag isInitial) := by
  rw [withScan, withScan, modifyInfo_modifyInfo]
  have pages := static.nrOfPages_eq
  simp only [modifyInfo]
  congr 2
  simp only [updateNewestOldestPage, ScanResult.see, pages]
  split_ifs <;> rfl

/-- The begin tags of a log are consistent. -/
theorem beginTagIsConsistent_eq
    {info : ItemStoreInfo}
    (static : StaticInfo item info)
    {header : PageHeader}
    {ordinal : Nat}
    (tag : header.beginTag = beginTagOf item log ordinal) :
    beginTagIsConsistent info header ((geometry item).pageOf ordinal) =
      true := by
  have small := (geometry item).itemSize_le
  have size :
      (UInt8.ofNat (geometry item).itemSize).toNat =
        (geometry item).itemSize := by
    rw [UInt8.toNat_ofNat', Nat.mod_eq_of_lt (by omega)]
  simp [beginTagIsConsistent, tag, beginTagOf, size, static.itemSize_eq,
    (geometry item).pageOf_byte ordinal]

/-- The complete tags of a log are consistent. -/
theorem completeTagIsConsistent_eq
    {info : ItemStoreInfo}
    (static : StaticInfo item info)
    {header : PageHeader}
    {ordinal : Nat}
    (tag : header.completeTag = completeTagOf item log ordinal) :
    completeTagIsConsistent info header ((geometry item).pageOf ordinal) =
      true := by
  have small := (geometry item).capacity_le
  have count :
      (UInt16.ofNat (geometry item).capacity).toNat =
        (geometry item).capacity := by
    rw [UInt16.toNat_ofNat', Nat.mod_eq_of_lt (by omega)]
  simp [completeTagIsConsistent, tag, completeTagOf, count,
    itemsOnFullPage_eq static, nextPageNr_pageOf static,
    (geometry item).pageOf_byte (ordinal + 1)]

/-- The flash page the scan visits in an iteration. -/
theorem visitedPage_eq
    {info : ItemStoreInfo}
    (static : StaticInfo item info)
    (ordinal : Nat) :
    (ordinal % (geometry item).nrOfPages + info.firstPage) % 256 =
      (geometry item).pageOf ordinal := by
  have small := (geometry item).pageOf_byte ordinal
  rw [static.firstPage_eq, Nat.add_comm]
  exact Nat.mod_eq_of_lt small

variable {found : ScanResult}
variable {ordinal place : Nat}

/-- The scan passes an erased page. -/
theorem scanPage_erased
    (static : StaticInfo item (state.itemStore item))
    (atPlace : ordinal % (geometry item).nrOfPages = place)
    {items : List (List Byte)}
    (holds :
      PageHolds state.flash.memory (geometry item).itemSize
        ((geometry item).pageOf ordinal) PageHeader.erased items)
    (header : PageHeader) :
    scanPage item (withScan state item found, header) place =
      .ok (withScan state item found, PageHeader.erased) := by
  have page := visitedPage_eq (withScan_static static found) ordinal
  have read :
      readHeader (withScan state item found)
          ((geometry item).pageOf ordinal) =
        some PageHeader.erased :=
    readHeader_eq holds
  have blank : hasNoData PageHeader.erased.toBytes = true := by
    decide
  rw [scanPage, ← atPlace]
  simp only [page, read, Option.getD_some, blank, if_true]

/-- The scan visits a closed page. -/
theorem scanPage_closed
    (static : StaticInfo item (state.itemStore item))
    (atPlace : ordinal % (geometry item).nrOfPages = place)
    {items : List (List Byte)}
    (holds :
      PageHolds state.flash.memory (geometry item).itemSize
        ((geometry item).pageOf ordinal)
        { beginTag := beginTagOf item log ordinal
          completeTag := completeTagOf item log ordinal }
        items)
    (header : PageHeader) :
    scanPage item (withScan state item found, header) place =
      .ok
        (withScan state item
          { found.see (geometry item).nrOfPages
              (beginTagOf item log ordinal) (place = 0) with
            fullPages := (found.fullPages + 1) % 256 },
          { beginTag := beginTagOf item log ordinal
            completeTag := completeTagOf item log ordinal }) := by
  have page := visitedPage_eq (withScan_static static found) ordinal
  have read :
      readHeader (withScan state item found)
          ((geometry item).pageOf ordinal) = some _ :=
    readHeader_eq holds
  have hasData :
      hasNoData
        (PageHeader.toBytes
          { beginTag := beginTagOf item log ordinal
            completeTag := completeTagOf item log ordinal }) = false := by
    rw [PageHeader.toBytes, hasNoData_append,
      PageBeginTag.hasNoData_toBytes rfl, Bool.false_and]
  have completeData :
      hasNoData (completeTagOf item log ordinal).toBytes = false :=
    PageCompleteTag.hasNoData_toBytes rfl
  have beginConsistent :=
    @beginTagIsConsistent_eq item log _ (withScan_static static found)
      { beginTag := beginTagOf item log ordinal
        completeTag := completeTagOf item log ordinal } ordinal rfl
  have completeConsistent :=
    @completeTagIsConsistent_eq item log _
      (withScan_static static
        (found.see (geometry item).nrOfPages
          (beginTagOf item log ordinal) (place = 0)))
      { beginTag := beginTagOf item log ordinal
        completeTag := completeTagOf item log ordinal } ordinal rfl
  rw [scanPage, ← atPlace]
  rw [← atPlace] at completeConsistent
  simp only [page, read, Option.getD_some, hasData, Bool.false_eq_true,
    ↓reduceIte, not_false_eq_true, beginConsistent,
    updateNewestOldestPage_withScan static, completeData,
    completeConsistent]
  simp [withScan]

/-- The scan visits the open page. -/
theorem scanPage_open
    (static : StaticInfo item (state.itemStore item))
    (atPlace : ordinal % (geometry item).nrOfPages = place)
    {items : List (List Byte)}
    (holds :
      PageHolds state.flash.memory (geometry item).itemSize
        ((geometry item).pageOf ordinal)
        { beginTag := beginTagOf item log ordinal
          completeTag := PageCompleteTag.erased }
        items)
    {count : Nat}
    (counted :
      countItemsLoop state.flash (geometry item).itemSize
          (pageAddr ((geometry item).pageOf ordinal) + flashPageSize)
          (pageAddr ((geometry item).pageOf ordinal) + pageHeaderSize)
          0 [] =
        count)
    (small : count < 65536)
    (header : PageHeader) :
    scanPage item (withScan state item found, header) place =
      (closePageIfFull
        (withScan state item
          { found.see (geometry item).nrOfPages
              (beginTagOf item log ordinal) (place = 0) with
            nrOfItems := count }) item).map fun outcome =>
        (outcome.1,
          { beginTag := beginTagOf item log ordinal
            completeTag := PageCompleteTag.erased }) := by
  have page := visitedPage_eq (withScan_static static found) ordinal
  have read :
      readHeader (withScan state item found)
          ((geometry item).pageOf ordinal) = some _ :=
    readHeader_eq holds
  have hasData :
      hasNoData
        (PageHeader.toBytes
          { beginTag := beginTagOf item log ordinal
            completeTag := PageCompleteTag.erased }) = false := by
    rw [PageHeader.toBytes, hasNoData_append,
      PageBeginTag.hasNoData_toBytes rfl, Bool.false_and]
  have beginConsistent :=
    @beginTagIsConsistent_eq item log _ (withScan_static static found)
      { beginTag := beginTagOf item log ordinal
        completeTag := PageCompleteTag.erased } ordinal rfl
  have visited :
      (found.see (geometry item).nrOfPages (beginTagOf item log ordinal)
        (place = 0)).current = beginTagOf item log ordinal := by
    simp only [ScanResult.see]
    split_ifs <;> rfl
  have onPage :
      countItemsOnCurrentPage
          (withScan state item
            (found.see (geometry item).nrOfPages
              (beginTagOf item log ordinal) (place = 0))) item =
        count := by
    rw [countItemsOnCurrentPage, withScan, modifyInfo_same]
    simp only [visited, static.itemSize_eq, modifyInfo_flash]
    rw [show (beginTagOf item log ordinal).pageId.toNat =
      (geometry item).pageOf ordinal from
        (geometry item).toNat_pageOf ordinal]
    exact counted
  rw [scanPage, ← atPlace]
  rw [← atPlace] at onPage
  simp only [page, read, Option.getD_some, hasData, Bool.false_eq_true,
    ↓reduceIte, not_true_eq_false, beginConsistent,
    updateNewestOldestPage_withScan static,
    PageCompleteTag.hasNoData_erased, onPage, Nat.mod_eq_of_lt small]
  simp only [withScan, modifyInfo_modifyInfo]
  cases closePageIfFull _ item with
  | error failure => rfl
  | ok outcome => rfl

end Pages

/-- Block ids compare like the ordinals from `first` to `last`. -/
def BlocksOrdered
    (nrOfPages : Nat) (blockId : Nat → Nat) (first last : Nat) : Prop :=
  ∀ early late, first ≤ early → early < late → late ≤ last →
    isNewer (blockId late) (blockId early) nrOfPages = true ∧
      isNewer (blockId early) (blockId late) nrOfPages = false ∧
      isOlder (blockId late) (blockId early) nrOfPages = false ∧
      isOlder (blockId early) (blockId late) nrOfPages = true

/-- A counter some steps later has either wrapped around or not. -/
theorem mod_add_cases
    {modulus steps : Nat}
    (value : Nat)
    (few : steps < modulus) :
    value % modulus + steps < modulus ∧
        (value + steps) % modulus = value % modulus + steps ∨
      modulus ≤ value % modulus + steps ∧
        (value + steps) % modulus = value % modulus + steps - modulus := by
  have below := Nat.mod_lt value (Nat.zero_lt_of_lt few)
  rw [← Nat.mod_add_mod]
  rcases Nat.lt_or_ge (value % modulus + steps) modulus
    with inside | outside
  · exact Or.inl ⟨inside, Nat.mod_eq_of_lt inside⟩
  · refine Or.inr ⟨outside, ?_⟩
    rw [Nat.mod_eq_sub_mod outside, Nat.mod_eq_of_lt (by omega)]

/--
Block ids that count modulo at least twice the number of pages compare like
their ordinals.
-/
theorem blocksOrdered_wrapping
    {nrOfPages modulus first last : Nat}
    (base : Nat)
    (twice : 2 * nrOfPages ≤ modulus)
    (window : last < first + nrOfPages) :
    BlocksOrdered nrOfPages (fun ordinal => (base + ordinal) % modulus)
      first last := by
  intro early late lower ordered upper
  obtain ⟨steps, rfl⟩ := Nat.exists_eq_add_of_lt ordered
  have below :=
    Nat.mod_lt (base + early) (show 0 < modulus by omega)
  have wrapped :=
    @mod_add_cases modulus (steps + 1) (base + early) (by omega)
  simp only [isNewer, isOlder, decide_eq_true_eq, decide_eq_false_iff_not,
    Nat.add_assoc] at wrapped below ⊢
  generalize (base + early) % modulus = earlyId at wrapped below ⊢
  generalize (base + (early + (steps + 1))) % modulus = lateId
    at wrapped ⊢
  rcases wrapped with ⟨inside, rfl⟩ | ⟨outside, rfl⟩
  · refine ⟨?_, ?_, ?_, ?_⟩ <;> omega
  · refine ⟨?_, ?_, ?_, ?_⟩ <;> omega

/-- Block ids that count modulo the maximum compare like their ordinals. -/
theorem blocksOrdered_mod
    (geometry : StoreGeometry)
    {first last : Nat}
    (window : last < first + geometry.nrOfPages) :
    BlocksOrdered geometry.nrOfPages (fun ordinal => ordinal % maxBlockIndex)
      first last := by
  have wrapping :=
    @blocksOrdered_wrapping _ _ first last 0 geometry.fewPages window
  simp only [Nat.zero_add] at wrapping
  exact wrapping

/-- A page of the log has at least its begin tag. -/
def InUse (log : StoreLog) (ordinal : Nat) : Prop :=
  ordinal < log.closed ∨ ordinal = log.closed ∧ log.opened = true

/-- Pages in use lie before the end of the window. -/
theorem InUse.lt_window
    {geometry : StoreGeometry}
    {log : StoreLog}
    {ordinal : Nat}
    (inUse : InUse log ordinal)
    (wellFormed : log.WellFormed geometry) :
    ordinal < log.oldest + geometry.nrOfPages := by
  rcases inUse with closed | ⟨current, opened⟩
  · have bound := wellFormed.closed_le
    omega
  · have bound := wellFormed.closed_lt opened
    omega

/--
What the scan knows after visiting some places of the ring: the tags of the
largest and the smallest ordinal, counting from the ordinal it started with.
-/
structure ScanInvariant
    (item : ItemDef) (log : StoreLog) (start visited : Nat)
    (found : ScanResult) (low high : Nat) : Prop where
  newest_eq : found.newest = beginTagOf item log high
  oldest_eq : found.oldest = beginTagOf item log low
  low_place : low % (geometry item).nrOfPages < visited
  high_place : high % (geometry item).nrOfPages < visited
  low_le : low ≤ start
  high_ge : start ≤ high
  low_inUse : low = start ∨ InUse log low ∧ log.oldest ≤ low
  high_inUse : high = start ∨ InUse log high ∧ log.oldest ≤ high
  bounds : ∀ ordinal, log.oldest ≤ ordinal →
    ordinal < log.oldest + (geometry item).nrOfPages →
    InUse log ordinal →
    ordinal % (geometry item).nrOfPages < visited →
    low ≤ ordinal ∧ ordinal ≤ high
  fullPages_eq :
    found.fullPages =
      (List.range visited).countP fun place =>
        SegmentedLog.ordinalAt (geometry item).nrOfPages log.oldest place <
          log.closed
  nrOfItems_eq :
    found.nrOfItems =
      if log.opened = true ∧
          log.closed % (geometry item).nrOfPages < visited then
        log.slot (geometry item)
      else
        0

section Invariant

variable {item : ItemDef}
variable {log : StoreLog}

theorem blockId_toNat
    (wellFormed : log.WellFormed (geometry item))
    (ordinal : Nat) :
    (beginTagOf item log ordinal).blockId.toNat = log.blockId ordinal := by
  have bound := wellFormed.blockId_lt ordinal
  simp only [maxBlockIndex] at bound
  rw [beginTagOf, UInt8.toNat_ofNat', Nat.mod_eq_of_lt (by omega)]

/-- Visiting a page keeps the larger and the smaller ordinal. -/
theorem ScanResult.see_ordered
    (wellFormed : log.WellFormed (geometry item))
    {first last low high ordinal : Nat}
    (ordered :
      BlocksOrdered (geometry item).nrOfPages log.blockId first last)
    {found : ScanResult}
    (newest : found.newest = beginTagOf item log high)
    (oldest : found.oldest = beginTagOf item log low)
    (lowHigh : low ≤ high)
    (first_le : first ≤ low)
    (le_last : high ≤ last)
    (inside : first ≤ ordinal ∧ ordinal ≤ last)
    (notLow : ordinal ≠ low)
    (notHigh : ordinal ≠ high) :
    (found.see (geometry item).nrOfPages (beginTagOf item log ordinal)
          false).newest =
        beginTagOf item log (max high ordinal) ∧
      (found.see (geometry item).nrOfPages (beginTagOf item log ordinal)
          false).oldest =
        beginTagOf item log (min low ordinal) := by
  rw [ScanResult.see, newest, oldest]
  simp only [blockId_toNat wellFormed, Bool.false_eq_true, ↓reduceIte]
  rcases Nat.lt_or_gt_of_ne notHigh with below | above
  · have notNewer := (ordered ordinal high inside.1 below le_last).2.1
    rw [Nat.max_eq_left (by omega)]
    simp only [notNewer, Bool.false_eq_true, ↓reduceIte]
    rcases Nat.lt_or_gt_of_ne notLow with older | inner
    · have isOlder :=
        (ordered ordinal low inside.1 older (by omega)).2.2.2
      rw [Nat.min_eq_right (by omega)]
      simp [isOlder]
    · have notOlder := (ordered low ordinal first_le inner inside.2).2.2.1
      rw [Nat.min_eq_left (by omega)]
      simp [notOlder]
  · have newer := (ordered high ordinal (by omega) above inside.2).1
    rw [Nat.max_eq_right (by omega), Nat.min_eq_left (by omega)]
    simp [newer]

/-- Counting closed pages place by place. -/
theorem countP_closed_succ (visited : Nat) :
    ((List.range (visited + 1)).countP fun place =>
        SegmentedLog.ordinalAt (geometry item).nrOfPages log.oldest place <
          log.closed) =
      ((List.range visited).countP fun place =>
        SegmentedLog.ordinalAt (geometry item).nrOfPages log.oldest place <
          log.closed) +
        if SegmentedLog.ordinalAt (geometry item).nrOfPages log.oldest
            visited < log.closed then 1 else 0 := by
  rw [List.range_succ, List.countP_append, List.countP_singleton]
  simp only [decide_eq_true_eq]

namespace ScanInvariant

variable {start visited low high : Nat}
variable {found : ScanResult}

/-- A page that is not in use changes nothing. -/
theorem pass
    (invariant : ScanInvariant item log start visited found low high)
    (notInUse :
      ¬ InUse log
        (SegmentedLog.ordinalAt (geometry item).nrOfPages log.oldest
          visited))
    (wellFormed : log.WellFormed (geometry item)) :
    ScanInvariant item log start (visited + 1) found low high where
  newest_eq := invariant.newest_eq
  oldest_eq := invariant.oldest_eq
  low_place := Nat.lt_succ_of_lt invariant.low_place
  high_place := Nat.lt_succ_of_lt invariant.high_place
  low_le := invariant.low_le
  high_ge := invariant.high_ge
  low_inUse := invariant.low_inUse
  high_inUse := invariant.high_inUse
  bounds := by
    intro ordinal lower upper inUse place
    rcases Nat.lt_or_eq_of_le (Nat.le_of_lt_succ place) with before | here
    · exact invariant.bounds ordinal lower upper inUse before
    · have same := SegmentedLog.eq_ordinalAt lower upper
      rw [here] at same
      rw [← same] at notInUse
      exact (notInUse inUse).elim
  fullPages_eq := by
    have notClosed :
        ¬ SegmentedLog.ordinalAt (geometry item).nrOfPages log.oldest
          visited < log.closed := fun closed => notInUse (Or.inl closed)
    rw [countP_closed_succ, if_neg notClosed, invariant.fullPages_eq,
      Nat.add_zero]
  nrOfItems_eq := by
    rw [invariant.nrOfItems_eq]
    congr 1
    apply propext
    constructor
    · rintro ⟨opened, place⟩
      exact ⟨opened, Nat.lt_succ_of_lt place⟩
    · rintro ⟨opened, place⟩
      refine ⟨opened, Nat.lt_of_le_of_ne (Nat.le_of_lt_succ place) ?_⟩
      intro here
      have same := SegmentedLog.eq_ordinalAt wellFormed.oldest_le
        (wellFormed.closed_lt opened)
      rw [here] at same
      exact notInUse (Or.inr ⟨same.symm, opened⟩)

/-- A page in use is compared with the pages visited before. -/
theorem visit
    (invariant : ScanInvariant item log start visited found low high)
    {ordinal : Nat}
    (lower : log.oldest ≤ ordinal)
    (place : ordinal % (geometry item).nrOfPages = visited)
    (upper : ordinal < log.oldest + (geometry item).nrOfPages)
    (inUse : InUse log ordinal)
    {next : ScanResult}
    (newest : next.newest = beginTagOf item log (max high ordinal))
    (oldest : next.oldest = beginTagOf item log (min low ordinal))
    (fullPages :
      next.fullPages =
        found.fullPages + if ordinal < log.closed then 1 else 0)
    (nrOfItems :
      next.nrOfItems =
        if ordinal < log.closed then
          found.nrOfItems
        else
          log.slot (geometry item))
    (wellFormed : log.WellFormed (geometry item)) :
    ScanInvariant item log start (visited + 1) next
      (min low ordinal) (max high ordinal) where
  newest_eq := newest
  oldest_eq := oldest
  low_place := by
    have bound := invariant.low_place
    rcases Nat.le_total low ordinal with left | right
    · rw [Nat.min_eq_left left]
      omega
    · rw [Nat.min_eq_right right, place]
      omega
  high_place := by
    have bound := invariant.high_place
    rcases Nat.le_total high ordinal with left | right
    · rw [Nat.max_eq_right left, place]
      omega
    · rw [Nat.max_eq_left right]
      omega
  low_le := by
    have bound := invariant.low_le
    omega
  high_ge := by
    have bound := invariant.high_ge
    omega
  low_inUse := by
    rcases Nat.le_total low ordinal with left | right
    · rw [Nat.min_eq_left left]
      exact invariant.low_inUse
    · rw [Nat.min_eq_right right]
      exact Or.inr ⟨inUse, lower⟩
  high_inUse := by
    rcases Nat.le_total high ordinal with left | right
    · rw [Nat.max_eq_right left]
      exact Or.inr ⟨inUse, lower⟩
    · rw [Nat.max_eq_left right]
      exact invariant.high_inUse
  bounds := by
    intro other otherLower otherUpper otherInUse otherPlace
    rcases Nat.lt_or_eq_of_le (Nat.le_of_lt_succ otherPlace)
      with before | here
    · have bound := invariant.bounds other otherLower otherUpper
        otherInUse before
      omega
    · have same := SegmentedLog.eq_of_same_place otherLower otherUpper
        lower upper (here.trans place.symm)
      omega
  fullPages_eq := by
    have same := SegmentedLog.eq_ordinalAt lower upper
    rw [place] at same
    rw [countP_closed_succ, ← same, fullPages, invariant.fullPages_eq]
  nrOfItems_eq := by
    rw [nrOfItems, invariant.nrOfItems_eq]
    rcases inUse with closed | ⟨current, opened⟩
    · rw [if_pos closed]
      congr 1
      apply propext
      constructor
      · rintro ⟨opened, before⟩
        exact ⟨opened, Nat.lt_succ_of_lt before⟩
      · rintro ⟨opened, before⟩
        refine ⟨opened, Nat.lt_of_le_of_ne (Nat.le_of_lt_succ before) ?_⟩
        intro here
        have same := SegmentedLog.eq_of_same_place wellFormed.oldest_le
          (wellFormed.closed_lt opened) lower upper
          (here.trans place.symm)
        omega
    · subst current
      rw [if_neg (Nat.lt_irrefl _), if_pos ⟨opened, by omega⟩]

end ScanInvariant

end Invariant

/-- The scan result after a page in use is visited. -/
def ScanResult.visit
    (item : ItemDef) (log : StoreLog) (found : ScanResult)
    (ordinal place : Nat) : ScanResult :=
  { found.see (geometry item).nrOfPages (beginTagOf item log ordinal)
      (place = 0) with
    fullPages :=
      if ordinal < log.closed then
        (found.fullPages + 1) % 256
      else
        found.fullPages
    nrOfItems :=
      if ordinal < log.closed then
        found.nrOfItems
      else
        log.slot (geometry item) }

/-- What the scan relies on, apart from the room on the open page. -/
structure Scannable
    (item : ItemDef) (log : StoreLog) (start first last : Nat)
    (state : ItemStoreState) : Prop where
  static : StaticInfo item (state.itemStore item)
  wellFormed : log.WellFormed (geometry item)
  image : StoreImage item log state.flash.memory
  hasData :
    ∀ data ∈ pageItems item log log.closed, hasNoData data = false
  ordered :
    BlocksOrdered (geometry item).nrOfPages log.blockId first last
  known : ∀ ordinal, log.oldest ≤ ordinal →
    ordinal < log.oldest + (geometry item).nrOfPages →
    InUse log ordinal → first ≤ ordinal ∧ ordinal ≤ last
  start_known : first ≤ start ∧ start ≤ last
  start_place : start % (geometry item).nrOfPages = 0
  start_inUse :
    InUse log
        (SegmentedLog.ordinalAt (geometry item).nrOfPages log.oldest 0) →
      start =
        SegmentedLog.ordinalAt (geometry item).nrOfPages log.oldest 0
  start_tag :
    ¬ InUse log
        (SegmentedLog.ordinalAt (geometry item).nrOfPages log.oldest 0) →
      initialTag (state.itemStore item) item = beginTagOf item log start

section Run

variable {item : ItemDef}
variable {log : StoreLog}
variable {start first last : Nat}
variable {state : ItemStoreState}

/-- The scan visits a page in use that is not full without its tag. -/
theorem Scannable.scanPage_visit
    (scannable : Scannable item log start first last state)
    {ordinal place : Nat}
    (lower : log.oldest ≤ ordinal)
    (upper : ordinal < log.oldest + (geometry item).nrOfPages)
    (atPlace : ordinal % (geometry item).nrOfPages = place)
    (inUse : InUse log ordinal)
    (room :
      ordinal = log.closed →
        log.slot (geometry item) < (geometry item).capacity)
    (found : ScanResult)
    (header : PageHeader) :
    scanPage item (withScan state item found, header) place =
      .ok
        (withScan state item (found.visit item log ordinal place),
          headerOf item log ordinal) := by
  have holds := scannable.image ordinal lower upper
  rcases inUse with closed | ⟨current, opened⟩
  · rw [headerOf_closed item closed] at holds ⊢
    rw [scanPage_closed scannable.static atPlace holds]
    simp [ScanResult.visit, closed]
  · subst current
    have length := scannable.wellFormed.length_pageItems
    have roomHere := room rfl
    have small := (geometry item).capacity_le
    have counted := countItemsLoop_room (geometry item) holds
      scannable.hasData (by rw [length]; exact roomHere)
    rw [length] at counted
    rw [headerOf_opened item opened] at holds ⊢
    rw [scanPage_open scannable.static atPlace holds counted (by omega),
      closePageIfFull_room (withScan_static scannable.static _)
        (by rw [withScan, modifyInfo_same]; exact roomHere)]
    simp [ScanResult.visit, Except.map]

/-- The scan passes a page that is not in use. -/
theorem Scannable.scanPage_pass
    (scannable : Scannable item log start first last state)
    {ordinal place : Nat}
    (lower : log.oldest ≤ ordinal)
    (upper : ordinal < log.oldest + (geometry item).nrOfPages)
    (atPlace : ordinal % (geometry item).nrOfPages = place)
    (notInUse : ¬ InUse log ordinal)
    (found : ScanResult)
    (header : PageHeader) :
    scanPage item (withScan state item found, header) place =
      .ok (withScan state item found, PageHeader.erased) := by
  have holds := scannable.image ordinal lower upper
  have blank : headerOf item log ordinal = PageHeader.erased := by
    simp only [InUse, not_or] at notInUse
    simp [headerOf, notInUse, PageHeader.erased]
  rw [blank] at holds
  exact scanPage_erased scannable.static atPlace holds header

/-- The scan result before the first page is visited. -/
def initialScan (item : ItemDef) (info : ItemStoreInfo) : ScanResult where
  current := initialTag info item
  newest := initialTag info item
  oldest := initialTag info item
  fullPages := 0
  nrOfItems := 0

/-- The open page is not full unless it is visited later. -/
def RoomBefore (item : ItemDef) (log : StoreLog) (visited : Nat) : Prop :=
  log.opened = true →
    log.closed % (geometry item).nrOfPages < visited →
      log.slot (geometry item) < (geometry item).capacity

/-- Visiting the first place of the ring starts the invariant. -/
theorem Scannable.scanPage_first
    (scannable : Scannable item log start first last state)
    (room : RoomBefore item log 1)
    (header : PageHeader) :
    ∃ found nextHeader,
      scanPage item
          (withScan state item
            (initialScan item (state.itemStore item)), header) 0 =
        .ok (withScan state item found, nextHeader) ∧
      ScanInvariant item log start 1 found start start := by
  have pages := (geometry item).nrOfPages_pos
  have lower := SegmentedLog.ordinalAt_ge
    log.oldest pages
  have upper := SegmentedLog.ordinalAt_lt
    log.oldest pages
  have place := SegmentedLog.ordinalAt_mod
    log.oldest pages
  have oneClosed := @countP_closed_succ item log 0
  rw [List.range_zero, List.countP_nil, Nat.zero_add] at oneClosed
  by_cases inUse :
      InUse log
        (SegmentedLog.ordinalAt (geometry item).nrOfPages log.oldest 0)
  · have same := scannable.start_inUse inUse
    rw [← same] at lower upper place inUse oneClosed
    refine ⟨_, _, scannable.scanPage_visit lower upper place inUse ?_ _ _,
      ?_⟩
    · intro current
      rcases inUse with closed | ⟨_, opened⟩
      · omega
      · exact room opened (by rw [← current, place]; omega)
    · exact
        { newest_eq := by simp [ScanResult.visit, ScanResult.see]
          oldest_eq := by simp [ScanResult.visit, ScanResult.see]
          low_place := by omega
          high_place := by omega
          low_le := Nat.le_refl _
          high_ge := Nat.le_refl _
          low_inUse := Or.inl rfl
          high_inUse := Or.inl rfl
          bounds := by
            intro ordinal ordinalLower ordinalUpper _ ordinalPlace
            have sameOrdinal := SegmentedLog.eq_of_same_place
              ordinalLower ordinalUpper lower upper (by omega)
            omega
          fullPages_eq := by
            rw [oneClosed]
            simp [ScanResult.visit, initialScan]
          nrOfItems_eq := by
            simp only [ScanResult.visit, initialScan]
            rcases inUse with closed | ⟨current, opened⟩
            · rw [if_pos closed, if_neg]
              rintro ⟨opened, first⟩
              have sameOrdinal := SegmentedLog.eq_of_same_place
                scannable.wellFormed.oldest_le
                (scannable.wellFormed.closed_lt opened) lower upper
                (by omega)
              omega
            · rw [if_neg (by omega), if_pos]
              exact ⟨opened, by rw [← current, place]; omega⟩ }
  · refine ⟨_, _, scannable.scanPage_pass lower upper place inUse _ _, ?_⟩
    have tag := scannable.start_tag inUse
    have firstPlace := scannable.start_place
    exact
      { newest_eq := tag
        oldest_eq := tag
        low_place := by omega
        high_place := by omega
        low_le := Nat.le_refl _
        high_ge := Nat.le_refl _
        low_inUse := Or.inl rfl
        high_inUse := Or.inl rfl
        bounds := by
          intro ordinal ordinalLower ordinalUpper ordinalInUse ordinalPlace
          have sameOrdinal := SegmentedLog.eq_of_same_place
            ordinalLower ordinalUpper lower upper (by omega)
          rw [sameOrdinal] at ordinalInUse
          exact (inUse ordinalInUse).elim
        fullPages_eq := by
          rw [oneClosed, if_neg (fun closed => inUse (Or.inl closed))]
          rfl
        nrOfItems_eq := by
          rw [if_neg]
          · rfl
          · rintro ⟨opened, first⟩
            have sameOrdinal := SegmentedLog.eq_of_same_place
              scannable.wellFormed.oldest_le
              (scannable.wellFormed.closed_lt opened) lower upper
              (by omega)
            exact inUse (Or.inr ⟨sameOrdinal.symm, opened⟩) }

/-- Visiting a further place of the ring keeps the invariant. -/
theorem Scannable.scanPage_next
    (scannable : Scannable item log start first last state)
    {visited low high : Nat}
    {found : ScanResult}
    (invariant : ScanInvariant item log start visited found low high)
    (someVisited : 0 < visited)
    (inside : visited < (geometry item).nrOfPages)
    (room : RoomBefore item log (visited + 1))
    (header : PageHeader) :
    ∃ next nextHeader nextLow nextHigh,
      scanPage item (withScan state item found, header) visited =
        .ok (withScan state item next, nextHeader) ∧
      ScanInvariant item log start (visited + 1) next nextLow nextHigh := by
  have lower := SegmentedLog.ordinalAt_ge log.oldest inside
  have upper := SegmentedLog.ordinalAt_lt log.oldest inside
  have place := SegmentedLog.ordinalAt_mod log.oldest inside
  by_cases inUse :
      InUse log
        (SegmentedLog.ordinalAt (geometry item).nrOfPages log.oldest
          visited)
  · have known := scannable.known _ lower upper inUse
    generalize SegmentedLog.ordinalAt (geometry item).nrOfPages log.oldest
      visited = ordinal at lower upper place inUse known
    have startKnown := scannable.start_known
    have lowKnown : first ≤ low := by
      rcases invariant.low_inUse with same | ⟨lowInUse, lowLower⟩
      · omega
      · exact (scannable.known low lowLower
          (lowInUse.lt_window scannable.wellFormed) lowInUse).1
    have highKnown : high ≤ last := by
      rcases invariant.high_inUse with same | ⟨highInUse, highLower⟩
      · omega
      · exact (scannable.known high highLower
          (highInUse.lt_window scannable.wellFormed) highInUse).2
    have notLow : ordinal ≠ low := by
      intro same
      have bound := invariant.low_place
      rw [← same, place] at bound
      omega
    have notHigh : ordinal ≠ high := by
      intro same
      have bound := invariant.high_place
      rw [← same, place] at bound
      omega
    have lowHigh : low ≤ high :=
      Nat.le_trans invariant.low_le invariant.high_ge
    have seen := ScanResult.see_ordered scannable.wellFormed
      scannable.ordered invariant.newest_eq invariant.oldest_eq lowHigh
      lowKnown highKnown known notLow notHigh
    have notFirst : ¬ visited = 0 := by omega
    have few := (geometry item).nrOfPages_le
    have counted := invariant.fullPages_eq
    have countBound :=
      List.countP_le_length
        (p := fun place => decide
          (SegmentedLog.ordinalAt (geometry item).nrOfPages log.oldest
            place < log.closed))
        (l := List.range visited)
    rw [List.length_range] at countBound
    refine ⟨_, _, _, _,
      scannable.scanPage_visit lower upper place inUse ?_ found header,
      invariant.visit lower place upper inUse ?_ ?_ ?_ ?_
        scannable.wellFormed⟩
    · intro current
      rcases inUse with closed | ⟨_, opened⟩
      · omega
      · exact room opened (by rw [← current, place]; omega)
    · simpa [ScanResult.visit, notFirst] using seen.1
    · simpa [ScanResult.visit, notFirst] using seen.2
    · simp only [ScanResult.visit]
      split
      · rw [Nat.mod_eq_of_lt (by omega)]
      · rfl
    · simp only [ScanResult.visit]
  · exact ⟨_, _, _, _,
      scannable.scanPage_pass lower upper place inUse found header,
      invariant.pass inUse scannable.wellFormed⟩

/-- The scan of the first places of the ring. -/
theorem Scannable.scan_run
    (scannable : Scannable item log start first last state)
    (header : PageHeader)
    (visited : Nat)
    (inside : visited + 1 ≤ (geometry item).nrOfPages)
    (room : RoomBefore item log (visited + 1)) :
    ∃ found nextHeader low high,
      (List.range (visited + 1)).foldlM (scanPage item)
          (withScan state item
            (initialScan item (state.itemStore item)), header) =
        .ok (withScan state item found, nextHeader) ∧
      ScanInvariant item log start (visited + 1) found low high := by
  induction visited with
  | zero =>
      obtain ⟨found, nextHeader, scanned, invariant⟩ :=
        scannable.scanPage_first room header
      refine ⟨found, nextHeader, start, start, ?_, invariant⟩
      simp [List.foldlM_cons, List.foldlM_nil, scanned]
  | succ visited inductionHypothesis =>
      have roomBefore : RoomBefore item log (visited + 1) :=
        fun opened place => room opened (by omega)
      obtain ⟨found, middleHeader, low, high, scanned, invariant⟩ :=
        inductionHypothesis (by omega) roomBefore
      obtain ⟨next, nextHeader, nextLow, nextHigh, visitedNext,
          nextInvariant⟩ :=
        scannable.scanPage_next invariant (by omega) (by omega) room
          middleHeader
      refine ⟨next, nextHeader, nextLow, nextHigh, ?_, nextInvariant⟩
      rw [List.range_succ, List.foldlM_append, scanned]
      simp only [bind, Except.bind, List.foldlM_cons, List.foldlM_nil,
        visitedNext]
      rfl

end Run

end DemoBoard.ItemStore
