import DemoBoard.ItemStoreImage

namespace DemoBoard

open ByteMemory

/-!
# The log an item store keeps

Abstract view of an item store: an append-only log of items, cut into pages
that are numbered without wrapping.  A ring of flash pages holds a window of
them.  `StoreImage` connects the view to the flash array, and each of the four
writes of the item store (begin tag, item, complete tag, page erase) is one
step of the log.
-/

/-- Location and dimensions of an item store. -/
structure StoreGeometry where
  firstPage : Nat
  nrOfPages : Nat
  /-- Item size in double words. -/
  itemWords : Nat
  firstWritable : firstWritableFlashPage ≤ firstPage
  lastWritable : firstPage + nrOfPages ≤ lastWritableFlashPage + 1
  severalPages : 2 ≤ nrOfPages
  fewPages : 2 * nrOfPages ≤ maxBlockIndex
  wholeCycles : nrOfPages ∣ maxBlockIndex
  someWords : 0 < itemWords
  smallItems : itemWords ≤ 16

namespace StoreGeometry

/-- Item size in bytes. -/
def itemSize (geometry : StoreGeometry) : Nat :=
  8 * geometry.itemWords

/-- The number of items that fit on a page. -/
def capacity (geometry : StoreGeometry) : Nat :=
  (flashPageSize - pageHeaderSize) / geometry.itemSize

/-- The flash page that holds a page of the log. -/
def pageOf (geometry : StoreGeometry) (ordinal : Nat) : Nat :=
  geometry.firstPage + ordinal % geometry.nrOfPages

variable (geometry : StoreGeometry)

theorem itemSize_pos : 0 < geometry.itemSize := by
  have positive := geometry.someWords
  simp only [itemSize]
  omega

theorem itemSize_le : geometry.itemSize ≤ 128 := by
  have small := geometry.smallItems
  simp only [itemSize]
  omega

theorem capacity_ge : 31 ≤ geometry.capacity := by
  rw [capacity, Nat.le_div_iff_mul_le geometry.itemSize_pos]
  have small := geometry.itemSize_le
  simp only [flashPageSize, pageHeaderSize]
  omega

theorem capacity_le : geometry.capacity ≤ 510 := by
  have large : 8 ≤ geometry.itemSize := by
    have positive := geometry.someWords
    simp only [itemSize]
    omega
  calc geometry.capacity
      ≤ (flashPageSize - pageHeaderSize) / 8 :=
        Nat.div_le_div_left large (by omega)
    _ = 510 := rfl

theorem capacity_pos : 0 < geometry.capacity := by
  have bound := geometry.capacity_ge
  omega

/-- A full page has room for its items and for no further one. -/
theorem capacity_fits :
    geometry.capacity * geometry.itemSize + pageHeaderSize ≤ flashPageSize ∧
      flashPageSize <
        geometry.capacity * geometry.itemSize + geometry.itemSize +
          pageHeaderSize := by
  have lower := Nat.div_mul_le_self (flashPageSize - pageHeaderSize)
    geometry.itemSize
  have upper := Nat.lt_div_mul_add (a := flashPageSize - pageHeaderSize)
    geometry.itemSize_pos
  simp only [capacity, flashPageSize, pageHeaderSize] at *
  omega

/-- Slots up to the capacity lie on the page. -/
theorem slotAddress_fits
    (page : Nat)
    {slot : Nat}
    (within : slot ≤ geometry.capacity) :
    slotAddress geometry.itemSize page slot ≤
      pageAddr page + flashPageSize := by
  have fits := geometry.capacity_fits.1
  have bound := Nat.mul_le_mul_right geometry.itemSize within
  simp only [slotAddress]
  omega

/-- `ClosePageIfFull` finds a page full exactly at its capacity. -/
theorem slotAddress_exceeds_iff
    (page slot : Nat) :
    slotAddress geometry.itemSize page slot + geometry.itemSize >
        pageAddr page + flashPageSize ↔
      geometry.capacity ≤ slot := by
  have fits := geometry.capacity_fits
  constructor
  · intro exceeds
    by_contra below
    have room := geometry.slotAddress_fits page
      (show slot + 1 ≤ geometry.capacity by omega)
    rw [slotAddress_succ] at room
    omega
  · intro full
    have bound := Nat.mul_le_mul_right geometry.itemSize full
    simp only [slotAddress]
    omega

theorem slotAddress_aligned (page slot : Nat) :
    slotAddress geometry.itemSize page slot % 8 = 0 := by
  have aligned := pageAddr_aligned page
  have whole : slot * geometry.itemSize = 8 * (slot * geometry.itemWords) := by
    rw [itemSize, Nat.mul_left_comm]
  rw [slotAddress, whole, pageHeaderSize]
  omega

theorem nrOfPages_pos : 0 < geometry.nrOfPages := by
  have several := geometry.severalPages
  omega

theorem nrOfPages_le : geometry.nrOfPages ≤ 32 := by
  have few := geometry.fewPages
  simp only [maxBlockIndex] at few
  omega

theorem pageOf_ge (ordinal : Nat) :
    geometry.firstPage ≤ geometry.pageOf ordinal :=
  Nat.le_add_right _ _

theorem pageOf_lt (ordinal : Nat) :
    geometry.pageOf ordinal < geometry.firstPage + geometry.nrOfPages :=
  Nat.add_lt_add_left (Nat.mod_lt _ geometry.nrOfPages_pos) _

theorem pageOf_writable (ordinal : Nat) :
    firstWritableFlashPage ≤ geometry.pageOf ordinal ∧
      geometry.pageOf ordinal ≤ lastWritableFlashPage := by
  have lower := geometry.pageOf_ge ordinal
  have upper := geometry.pageOf_lt ordinal
  have first := geometry.firstWritable
  have last := geometry.lastWritable
  omega

/-- A page of a store lies in the address range of the store. -/
theorem pageOf_inside (ordinal : Nat) :
    pageAddr geometry.firstPage ≤ pageAddr (geometry.pageOf ordinal) ∧
      pageAddr (geometry.pageOf ordinal) + flashPageSize ≤
        pageAddr (geometry.firstPage + geometry.nrOfPages) := by
  have lower := Nat.mul_le_mul_right flashPageSize
    (geometry.pageOf_ge ordinal)
  have upper := Nat.mul_le_mul_right flashPageSize
    (geometry.pageOf_lt ordinal)
  rw [Nat.succ_mul] at upper
  simp only [pageAddr]
  omega

/-- Page numbers fit in a byte. -/
theorem pageOf_byte (ordinal : Nat) : geometry.pageOf ordinal < 256 := by
  have bound := (geometry.pageOf_writable ordinal).2
  simp only [lastWritableFlashPage, firstWritableFlashPage] at bound
  omega

@[simp] theorem toNat_pageOf (ordinal : Nat) :
    (UInt8.ofNat (geometry.pageOf ordinal)).toNat =
      geometry.pageOf ordinal := by
  rw [UInt8.toNat_ofNat', Nat.mod_eq_of_lt (geometry.pageOf_byte ordinal)]

/-- Different pages of one window are different flash pages. -/
theorem pageOf_injective
    {first left right : Nat}
    (leftLower : first ≤ left)
    (leftUpper : left < first + geometry.nrOfPages)
    (rightLower : first ≤ right)
    (rightUpper : right < first + geometry.nrOfPages)
    (same : geometry.pageOf left = geometry.pageOf right) :
    left = right := by
  apply SegmentedLog.eq_of_same_place
    leftLower leftUpper rightLower rightUpper
  simpa [pageOf] using same

/-- A full turn of the ring returns to the same flash page. -/
theorem pageOf_add_nrOfPages (ordinal : Nat) :
    geometry.pageOf (ordinal + geometry.nrOfPages) =
      geometry.pageOf ordinal := by
  simp [pageOf]

end StoreGeometry

/-- The two item stores of the firmware. -/
def geometry : ItemDef → StoreGeometry
  | .systemConfig =>
      { firstPage := systemConfigFirstPage
        nrOfPages := 2
        itemWords := 16
        firstWritable := by decide
        lastWritable := by decide
        severalPages := by decide
        fewPages := by decide
        wholeCycles := by decide
        someWords := by decide
        smallItems := by decide }
  | .measurementSample =>
      { firstPage := measurementValuesFirstPage
        nrOfPages := 32
        itemWords := 1
        firstWritable := by decide
        lastWritable := by decide
        severalPages := by decide
        fewPages := by decide
        wholeCycles := by decide
        someWords := by decide
        smallItems := by decide }

/-- The pages of different stores are different. -/
theorem geometry_apart
    {item other : ItemDef}
    (different : other ≠ item) :
    pageAddr ((geometry other).firstPage + (geometry other).nrOfPages) ≤
        pageAddr (geometry item).firstPage ∨
      pageAddr ((geometry item).firstPage + (geometry item).nrOfPages) ≤
        pageAddr (geometry other).firstPage := by
  cases item <;> cases other
  · exact (different rfl).elim
  · exact Or.inr (by decide)
  · exact Or.inl (by decide)
  · exact (different rfl).elim

/-- Abstract content of an item store. -/
structure StoreLog where
  /-- All items ever added. -/
  items : List (List Byte)
  /-- Number of pages ever closed; this is also the current page. -/
  closed : Nat
  /-- The current page has its begin tag. -/
  opened : Bool
  /-- Oldest page on flash. -/
  oldest : Nat
  /-- Block id of every page. -/
  blockId : Nat → Nat

namespace StoreLog

/-- The begin tag of the current page is written. -/
def openPage (log : StoreLog) : StoreLog :=
  { log with opened := true }

/-- An item is written to the current page. -/
def writeSlot (log : StoreLog) (data : List Byte) : StoreLog :=
  { log with items := log.items ++ [data] }

/-- The complete tag of the current page is written. -/
def closePage (log : StoreLog) : StoreLog :=
  { log with closed := log.closed + 1, opened := false }

/-- The oldest page is erased. -/
def dropOldest (log : StoreLog) : StoreLog :=
  { log with oldest := log.oldest + 1 }

/-- The current page is closed; a full ring loses its oldest page. -/
def finishPage (geometry : StoreGeometry) (log : StoreLog) : StoreLog :=
  if log.closed + 1 = log.oldest + geometry.nrOfPages then
    log.closePage.dropOldest
  else
    log.closePage

/-- The number of items on the current page. -/
def slot (geometry : StoreGeometry) (log : StoreLog) : Nat :=
  log.items.length - log.closed * geometry.capacity

/-- An item is added and the page it fills is closed. -/
def add
    (geometry : StoreGeometry) (log : StoreLog) (data : List Byte) :
    StoreLog :=
  let written := log.openPage.writeSlot data
  if written.slot geometry = geometry.capacity then
    written.finishPage geometry
  else
    written

/-- The items that can still be read. -/
def retained (geometry : StoreGeometry) (log : StoreLog) :
    List (List Byte) :=
  SegmentedLog.retained geometry.capacity log.oldest log.items

/-- A log that a run of flash operations can leave behind. -/
structure WellFormed (geometry : StoreGeometry) (log : StoreLog) :
    Prop where
  oldest_le : log.oldest ≤ log.closed
  closed_le : log.closed ≤ log.oldest + geometry.nrOfPages
  closed_lt : log.opened = true →
    log.closed < log.oldest + geometry.nrOfPages
  items_ge : log.closed * geometry.capacity ≤ log.items.length
  items_le : log.items.length ≤
    log.closed * geometry.capacity + geometry.capacity
  items_eq : log.opened = false →
    log.items.length = log.closed * geometry.capacity
  size_eq : ∀ data ∈ log.items, data.length = geometry.itemSize
  blockId_lt : ∀ ordinal, log.blockId ordinal < maxBlockIndex
  blockId_succ : ∀ ordinal, log.closed ≤ ordinal →
    log.blockId (ordinal + 1) = (log.blockId ordinal + 1) % maxBlockIndex

/-- A log with room on the current page and for the current page. -/
structure Spacious (geometry : StoreGeometry) (log : StoreLog) : Prop where
  wellFormed : log.WellFormed geometry
  room : log.slot geometry < geometry.capacity
  inWindow : log.closed < log.oldest + geometry.nrOfPages

namespace Spacious

variable {geometry : StoreGeometry}
variable {log : StoreLog}

/-- Pages are closed in step with the number of items. -/
theorem closed_eq
    (spacious : log.Spacious geometry) :
    log.closed = SegmentedLog.current geometry.capacity log.items := by
  have lower := spacious.wellFormed.items_ge
  have room := spacious.room
  rw [StoreLog.slot] at room
  symm
  apply Nat.div_eq_of_lt_le lower
  rw [Nat.succ_mul]
  omega

theorem slot_eq
    (spacious : log.Spacious geometry) :
    log.slot geometry =
      SegmentedLog.used geometry.capacity log.items := by
  have shape := SegmentedLog.length_eq geometry.capacity log.items
  rw [← spacious.closed_eq] at shape
  rw [StoreLog.slot]
  omega

end Spacious

/-- A log between two adds: no page is full and the ring is not. -/
structure Regular (geometry : StoreGeometry) (log : StoreLog) : Prop where
  wellFormed : log.WellFormed geometry
  room : log.slot geometry < geometry.capacity
  oldest_eq :
    log.oldest = SegmentedLog.oldest geometry.nrOfPages log.closed

namespace Regular

variable {geometry : StoreGeometry}
variable {log : StoreLog}

theorem inWindow
    (regular : log.Regular geometry) :
    log.closed < log.oldest + geometry.nrOfPages := by
  have oldest := regular.oldest_eq
  rw [SegmentedLog.oldest] at oldest
  omega

theorem spacious
    (regular : log.Regular geometry) :
    log.Spacious geometry :=
  ⟨regular.wellFormed, regular.room, regular.inWindow⟩

theorem closed_eq
    (regular : log.Regular geometry) :
    log.closed = SegmentedLog.current geometry.capacity log.items :=
  regular.spacious.closed_eq

theorem slot_eq
    (regular : log.Regular geometry) :
    log.slot geometry =
      SegmentedLog.used geometry.capacity log.items :=
  regular.spacious.slot_eq

end Regular

end StoreLog

/-- The begin tag of a page of the log. -/
def beginTagOf
    (item : ItemDef) (log : StoreLog) (ordinal : Nat) : PageBeginTag where
  magic := pageMagic
  pageId := UInt8.ofNat ((geometry item).pageOf ordinal)
  blockId := UInt8.ofNat (log.blockId ordinal)
  itemId := item.toByte
  itemSize := UInt8.ofNat (geometry item).itemSize

/-- The complete tag of a page of the log. -/
def completeTagOf
    (item : ItemDef) (log : StoreLog) (ordinal : Nat) :
    PageCompleteTag where
  magic := pageMagic
  nrOfItems := UInt16.ofNat (geometry item).capacity
  nextPage := UInt8.ofNat ((geometry item).pageOf (ordinal + 1))
  nextPageId := UInt8.ofNat ((log.blockId ordinal + 1) % maxBlockIndex)

/-- The header of a page of the log. -/
def headerOf
    (item : ItemDef) (log : StoreLog) (ordinal : Nat) : PageHeader where
  beginTag :=
    if ordinal < log.closed ∨ ordinal = log.closed ∧ log.opened = true then
      beginTagOf item log ordinal
    else
      PageBeginTag.erased
  completeTag :=
    if ordinal < log.closed then
      completeTagOf item log ordinal
    else
      PageCompleteTag.erased

/-- A closed page has both tags. -/
theorem headerOf_closed
    (item : ItemDef)
    {log : StoreLog}
    {ordinal : Nat}
    (closed : ordinal < log.closed) :
    headerOf item log ordinal =
      { beginTag := beginTagOf item log ordinal
        completeTag := completeTagOf item log ordinal } := by
  simp [headerOf, closed]

/-- The current page has a begin tag once it is opened. -/
theorem headerOf_opened
    (item : ItemDef)
    {log : StoreLog}
    (opened : log.opened = true) :
    headerOf item log log.closed =
      { beginTag := beginTagOf item log log.closed
        completeTag := PageCompleteTag.erased } := by
  simp [headerOf, opened]

/-- A current page that is not opened is erased. -/
theorem headerOf_notOpened
    (item : ItemDef)
    {log : StoreLog}
    (notOpened : log.opened = false) :
    headerOf item log log.closed = PageHeader.erased := by
  simp [headerOf, notOpened, PageHeader.erased]

/-- Pages after the current one are erased. -/
theorem headerOf_later
    (item : ItemDef)
    {log : StoreLog}
    {ordinal : Nat}
    (later : log.closed < ordinal) :
    headerOf item log ordinal = PageHeader.erased := by
  have notEarlier : ¬ ordinal < log.closed := by omega
  have notCurrent : ordinal ≠ log.closed := by omega
  simp [headerOf, notEarlier, notCurrent, PageHeader.erased]

/-- The items of a page of the log. -/
def pageItems
    (item : ItemDef) (log : StoreLog) (ordinal : Nat) :
    List (List Byte) :=
  SegmentedLog.segment (geometry item).capacity log.items ordinal

/-- The flash array holds the pages of the window of a log. -/
def StoreImage
    (item : ItemDef) (log : StoreLog) (memory : Memory) : Prop :=
  ∀ ordinal, log.oldest ≤ ordinal →
    ordinal < log.oldest + (geometry item).nrOfPages →
      PageHolds memory (geometry item).itemSize
        ((geometry item).pageOf ordinal)
        (headerOf item log ordinal) (pageItems item log ordinal)

/-! One lemma for each write of the item store. -/

/-- The program operation that writes the begin tag of the current page. -/
def openEffects (item : ItemDef) (log : StoreLog) : List FlashEffect :=
  programEffects
    (ItemStore.bufferOf (beginTagOf item log log.closed).toBytes)
    (pageAddr ((geometry item).pageOf log.closed)) 0 1

/-- Address of the next item. -/
def nextSlotAddress (item : ItemDef) (log : StoreLog) : Nat :=
  slotAddress (geometry item).itemSize
    ((geometry item).pageOf log.closed) (log.slot (geometry item))

/-- The first program operations that write an item. -/
def itemEffects
    (item : ItemDef) (log : StoreLog) (data : List Byte) (words : Nat) :
    List FlashEffect :=
  programEffects (ItemStore.bufferOf data) (nextSlotAddress item log)
    0 words

/-- The program operation that writes the complete tag. -/
def closeEffects (item : ItemDef) (log : StoreLog) : List FlashEffect :=
  programEffects
    (ItemStore.bufferOf (completeTagOf item log log.closed).toBytes)
    (pageAddr ((geometry item).pageOf log.closed) + pageBeginTagSize) 0 1

/-- The erase of the oldest page. -/
def eraseEffects (item : ItemDef) (log : StoreLog) : List FlashEffect :=
  [.erasePage ((geometry item).pageOf log.oldest)]

/-- The operations that close the current page. -/
def finishEffects (item : ItemDef) (log : StoreLog) : List FlashEffect :=
  closeEffects item log ++
    if log.closed + 1 = log.oldest + (geometry item).nrOfPages then
      eraseEffects item log
    else
      []

/-- The operations of an add that runs to completion. -/
def addEffects
    (item : ItemDef) (log : StoreLog) (data : List Byte) :
    List FlashEffect :=
  let written := log.openPage.writeSlot data
  (if log.opened then [] else openEffects item log) ++
    (itemEffects item log data (geometry item).itemWords ++
      if written.slot (geometry item) = (geometry item).capacity then
        finishEffects item written
      else
        [])

/-- Replaying the write of a whole buffer stores its bytes. -/
theorem applyEffects_bufferOf
    (memory : Memory)
    (address words : Nat)
    {bytes : List Byte}
    (size : bytes.length = 8 * words) :
    applyEffects memory
        (programEffects (ItemStore.bufferOf bytes) address 0 words) =
      writeBytes memory address bytes := by
  rw [applyEffects_programEffects, readBytes_bufferOf (by omega),
    List.take_of_length_le (by omega)]

namespace StoreImage

variable {item : ItemDef}
variable {log : StoreLog}
variable {memory : Memory}

/-- Changing one page of the window changes one page of the log. -/
theorem update
    (image : StoreImage item log memory)
    {changed : StoreLog}
    {other : Memory}
    {ordinal : Nat}
    (lower : log.oldest ≤ ordinal)
    (upper : ordinal < log.oldest + (geometry item).nrOfPages)
    (sameOldest : changed.oldest = log.oldest)
    (sameHeader :
      ∀ index, index ≠ ordinal →
        headerOf item changed index = headerOf item log index)
    (sameItems :
      ∀ index, index ≠ ordinal →
        pageItems item changed index = pageItems item log index)
    (agree :
      ∀ page, page ≠ (geometry item).pageOf ordinal →
        AgreeOn other memory (pageAddr page)
          (pageAddr page + flashPageSize))
    (holds :
      PageHolds other (geometry item).itemSize
        ((geometry item).pageOf ordinal)
        (headerOf item changed ordinal) (pageItems item changed ordinal)) :
    StoreImage item changed other := by
  intro index indexLower indexUpper
  rw [sameOldest] at indexLower indexUpper
  by_cases same : index = ordinal
  · rw [same]
    exact holds
  · rw [sameHeader index same, sameItems index same]
    apply (image index indexLower indexUpper).congr
    apply agree
    intro samePage
    exact same ((geometry item).pageOf_injective
      indexLower indexUpper lower upper samePage)

/-- The content of the current page. -/
theorem currentPage
    (image : StoreImage item log memory)
    (wellFormed : log.WellFormed (geometry item))
    (inWindow : log.closed < log.oldest + (geometry item).nrOfPages) :
    PageHolds memory (geometry item).itemSize
      ((geometry item).pageOf log.closed)
      (headerOf item log log.closed) (pageItems item log log.closed) :=
  image log.closed wellFormed.oldest_le inWindow

end StoreImage

/-- The number of items on the current page. -/
theorem StoreLog.WellFormed.length_pageItems
    {item : ItemDef}
    {log : StoreLog}
    (wellFormed : log.WellFormed (geometry item)) :
    (pageItems item log log.closed).length = log.slot (geometry item) := by
  have upper := wellFormed.items_le
  rw [pageItems, SegmentedLog.length_segment, StoreLog.slot]
  omega

/-- Writes on one page leave the other pages alone. -/
theorem writeBytes_agreeOn_page
    (memory : Memory)
    {page other address : Nat}
    {bytes : List Byte}
    (different : other ≠ page)
    (lower : pageAddr page ≤ address)
    (upper : address + bytes.length ≤ pageAddr page + flashPageSize) :
    AgreeOn (writeBytes memory address bytes) memory
      (pageAddr other) (pageAddr other + flashPageSize) := by
  have apart := pageAddr_apart different
  exact writeBytes_agreeOn memory (by omega)

namespace StoreImage

variable {item : ItemDef}
variable {log : StoreLog}
variable {memory : Memory}

/-- The begin tag opens the current page. -/
theorem openPage
    (image : StoreImage item log memory)
    (wellFormed : log.WellFormed (geometry item))
    (inWindow : log.closed < log.oldest + (geometry item).nrOfPages) :
    StoreImage item log.openPage
      (applyEffects memory (openEffects item log)) := by
  have holds := image.currentPage wellFormed inWindow
  rw [openEffects, applyEffects_bufferOf _ _ _ (by simp)]
  have sameOldest : log.openPage.oldest = log.oldest := rfl
  apply image.update wellFormed.oldest_le inWindow sameOldest
  · intro index different
    rcases Nat.lt_or_gt_of_ne different with earlier | later
    · rw [headerOf_closed item earlier]
      exact headerOf_closed item earlier
    · rw [headerOf_later item later]
      exact headerOf_later item later
  · intro index different
    rfl
  · intro page different
    exact writeBytes_agreeOn_page memory different (Nat.le_refl _)
      (by simp [flashPageSize])
  · have written := holds.writeBeginTag (beginTagOf item log log.closed)
    have header :
        headerOf item log.openPage log.closed =
          { beginTag := beginTagOf item log log.closed
            completeTag := (headerOf item log log.closed).completeTag } := by
      simp [headerOf, StoreLog.openPage, beginTagOf]
    rw [header]
    exact written

/-- Writing an item extends the current page. -/
theorem writeSlot
    (image : StoreImage item log memory)
    (wellFormed : log.WellFormed (geometry item))
    (inWindow : log.closed < log.oldest + (geometry item).nrOfPages)
    (room : log.slot (geometry item) < (geometry item).capacity)
    {data : List Byte}
    (size : data.length = (geometry item).itemSize) :
    StoreImage item (log.writeSlot data)
      (writeBytes memory (nextSlotAddress item log) data) := by
  have holds := image.currentPage wellFormed inWindow
  have slots := wellFormed.length_pageItems
  have lower := wellFormed.items_ge
  have positive := (geometry item).capacity_pos
  have currentPage :
      SegmentedLog.current (geometry item).capacity log.items =
        log.closed := by
    apply Nat.div_eq_of_lt_le
    · exact lower
    · rw [StoreLog.slot] at room
      rw [Nat.succ_mul]
      omega
  have fits := (geometry item).slotAddress_fits
    ((geometry item).pageOf log.closed)
    (show log.slot (geometry item) + 1 ≤ (geometry item).capacity by omega)
  have sameOldest : (log.writeSlot data).oldest = log.oldest := rfl
  apply image.update wellFormed.oldest_le inWindow sameOldest
  · intro index different
    rfl
  · intro index different
    rw [← currentPage] at different
    exact SegmentedLog.segment_append_of_ne positive data different
  · intro page different
    have start := slotAddress_ge (geometry item).itemSize
      ((geometry item).pageOf log.closed) (log.slot (geometry item))
    rw [slotAddress_succ] at fits
    exact writeBytes_agreeOn_page memory different
      (by rw [nextSlotAddress]; omega) (by rw [nextSlotAddress]; omega)
  · have written := holds.writeItem size (by rw [slots]; exact fits)
    rw [slots] at written
    have appended := SegmentedLog.segment_append_current
      positive log.items data
    rw [currentPage] at appended
    rw [pageItems, ← appended] at written
    exact written

/-- The complete tag closes the current page. -/
theorem closePage
    (image : StoreImage item log memory)
    (wellFormed : log.WellFormed (geometry item))
    (opened : log.opened = true) :
    StoreImage item log.closePage
      (applyEffects memory (closeEffects item log)) := by
  have inWindow := wellFormed.closed_lt opened
  have holds := image.currentPage wellFormed inWindow
  rw [closeEffects, applyEffects_bufferOf _ _ _ (by simp)]
  have sameOldest : log.closePage.oldest = log.oldest := rfl
  apply image.update wellFormed.oldest_le inWindow sameOldest
  · intro index different
    rcases Nat.lt_or_gt_of_ne different with earlier | later
    · rw [headerOf_closed item earlier]
      exact headerOf_closed item (Nat.lt_succ_of_lt earlier)
    · rw [headerOf_later item later]
      rcases Nat.lt_or_eq_of_le later with beyond | next
      · exact headerOf_later item beyond
      · subst next
        exact headerOf_notOpened item rfl
  · intro index different
    rfl
  · intro page different
    exact writeBytes_agreeOn_page memory different (by omega)
      (by simp [flashPageSize, pageBeginTagSize])
  · have written := holds.writeCompleteTag
      (completeTagOf item log log.closed)
    rw [headerOf_opened item opened] at written
    have closed : log.closed < log.closePage.closed :=
      Nat.lt_succ_self log.closed
    rw [headerOf_closed item closed]
    exact written

/-- Erasing the oldest page of a full ring makes room for the next page. -/
theorem dropOldest
    (image : StoreImage item log memory)
    (wellFormed : log.WellFormed (geometry item))
    (full : log.closed = log.oldest + (geometry item).nrOfPages)
    (notOpened : log.opened = false) :
    StoreImage item log.dropOldest
      (applyEffects memory (eraseEffects item log)) := by
  intro index lower upper
  simp only [StoreLog.dropOldest] at lower upper
  simp only [eraseEffects, applyEffects_cons, applyEffects_nil,
    FlashEffect.apply]
  have turn := (geometry item).pageOf_add_nrOfPages log.oldest
  rw [← full] at turn
  by_cases last : index = log.closed
  · subst last
    have empty :
        pageItems item log.dropOldest log.closed = [] := by
      apply List.eq_nil_of_length_eq_zero
      have shape := wellFormed.items_eq notOpened
      rw [pageItems, SegmentedLog.length_segment]
      simp only [StoreLog.dropOldest]
      omega
    have header :
        headerOf item log.dropOldest log.closed = PageHeader.erased :=
      headerOf_notOpened item notOpened
    rw [empty, turn, header]
    exact PageHolds.erased memory (geometry item).itemSize
      ((geometry item).pageOf log.oldest)
  · have inWindow : index < log.oldest + (geometry item).nrOfPages := by
      omega
    have different :
        (geometry item).pageOf index ≠
          (geometry item).pageOf log.oldest := by
      intro same
      have bound := (geometry item).nrOfPages_pos
      have sameIndex := (geometry item).pageOf_injective
        (by omega) inWindow (Nat.le_refl _) (by omega) same
      omega
    have apart := pageAddr_apart different
    exact (image index (by omega) inWindow).congr
      (fillBytes_agreeOn memory erasedByte (by omega))

end StoreImage

namespace StoreLog.WellFormed

variable {geometry : StoreGeometry}
variable {log : StoreLog}

theorem openPage
    (wellFormed : log.WellFormed geometry)
    (inWindow : log.closed < log.oldest + geometry.nrOfPages) :
    log.openPage.WellFormed geometry :=
  { wellFormed with
    closed_lt := fun _ => inWindow
    items_eq := by
      intro contradiction
      cases contradiction }

theorem writeSlot
    (wellFormed : log.WellFormed geometry)
    (opened : log.opened = true)
    (room : log.slot geometry < geometry.capacity)
    {data : List Byte}
    (size : data.length = geometry.itemSize) :
    (log.writeSlot data).WellFormed geometry where
  oldest_le := wellFormed.oldest_le
  closed_le := wellFormed.closed_le
  closed_lt := wellFormed.closed_lt
  items_ge := by
    have lower := wellFormed.items_ge
    simp only [StoreLog.writeSlot, List.length_append]
    omega
  items_le := by
    have lower := wellFormed.items_ge
    simp only [StoreLog.slot] at room
    simp only [StoreLog.writeSlot, List.length_append,
      List.length_singleton]
    omega
  items_eq := by
    intro notOpened
    simp [StoreLog.writeSlot, opened] at notOpened
  size_eq := by
    intro entry member
    rcases List.mem_append.mp member with earlier | last
    · exact wellFormed.size_eq entry earlier
    · rw [List.mem_singleton.mp last, size]
  blockId_lt := wellFormed.blockId_lt
  blockId_succ := wellFormed.blockId_succ

theorem closePage
    (wellFormed : log.WellFormed geometry)
    (opened : log.opened = true)
    (full : log.slot geometry = geometry.capacity) :
    log.closePage.WellFormed geometry where
  oldest_le := by
    have lower := wellFormed.oldest_le
    simp only [StoreLog.closePage]
    omega
  closed_le := by
    have upper := wellFormed.closed_lt opened
    simp only [StoreLog.closePage]
    omega
  closed_lt := by
    intro contradiction
    cases contradiction
  items_ge := by
    have lower := wellFormed.items_ge
    simp only [StoreLog.slot] at full
    simp only [StoreLog.closePage, Nat.succ_mul]
    omega
  items_le := by
    have upper := wellFormed.items_le
    simp only [StoreLog.closePage, Nat.succ_mul]
    omega
  items_eq := by
    intro _
    have lower := wellFormed.items_ge
    simp only [StoreLog.slot] at full
    simp only [StoreLog.closePage, Nat.succ_mul]
    omega
  size_eq := wellFormed.size_eq
  blockId_lt := wellFormed.blockId_lt
  blockId_succ := by
    intro ordinal later
    simp only [StoreLog.closePage] at later
    exact wellFormed.blockId_succ ordinal (by omega)

theorem dropOldest
    (wellFormed : log.WellFormed geometry)
    (full : log.closed = log.oldest + geometry.nrOfPages) :
    log.dropOldest.WellFormed geometry :=
  { wellFormed with
    oldest_le := by
      have positive := geometry.nrOfPages_pos
      simp only [StoreLog.dropOldest]
      omega
    closed_le := by
      simp only [StoreLog.dropOldest]
      omega
    closed_lt := by
      intro _
      simp only [StoreLog.dropOldest]
      omega }

end StoreLog.WellFormed

namespace StoreLog

variable {geometry : StoreGeometry}
variable {log : StoreLog}

@[simp] theorem items_finishPage (log : StoreLog) :
    (log.finishPage geometry).items = log.items := by
  rw [finishPage]
  split <;> rfl

@[simp] theorem blockId_finishPage (log : StoreLog) :
    (log.finishPage geometry).blockId = log.blockId := by
  rw [finishPage]
  split <;> rfl

@[simp] theorem opened_finishPage (log : StoreLog) :
    (log.finishPage geometry).opened = false := by
  rw [finishPage]
  split <;> rfl

@[simp] theorem items_add (log : StoreLog) (data : List Byte) :
    (log.add geometry data).items = log.items ++ [data] := by
  rw [add]
  split
  · rw [items_finishPage]
    rfl
  · rfl

@[simp] theorem blockId_add (log : StoreLog) (data : List Byte) :
    (log.add geometry data).blockId = log.blockId := by
  rw [add]
  split
  · rw [blockId_finishPage]
    rfl
  · rfl

/-- The slot after writing an item to a page. -/
theorem WellFormed.slot_writeSlot
    (wellFormed : log.WellFormed geometry)
    (data : List Byte) :
    (log.openPage.writeSlot data).slot geometry =
      log.slot geometry + 1 := by
  have lower := wellFormed.items_ge
  simp only [slot, StoreLog.writeSlot, StoreLog.openPage,
    List.length_append, List.length_singleton]
  omega

/-- Closing a full page gives room for a further page. -/
theorem Spacious.finishPage
    (wellFormed : log.WellFormed geometry)
    (opened : log.opened = true)
    (full : log.slot geometry = geometry.capacity) :
    (log.finishPage geometry).Spacious geometry := by
  have positive := geometry.capacity_pos
  have inWindow := wellFormed.closed_lt opened
  have closedForm := wellFormed.closePage opened full
  have slots := closedForm.items_eq rfl
  have empty : log.closePage.slot geometry = 0 := by
    rw [slot, slots]
    simp
  rw [StoreLog.finishPage]
  split
  · next last =>
      refine ⟨closedForm.dropOldest last, ?_, ?_⟩
      · rw [show log.closePage.dropOldest.slot geometry = 0 from empty]
        exact positive
      · simp only [dropOldest, closePage]
        omega
  · next more =>
      refine ⟨closedForm, ?_, ?_⟩
      · rw [empty]
        exact positive
      · simp only [closePage]
        omega

/-- An add keeps the log spacious. -/
theorem Spacious.add
    (spacious : log.Spacious geometry)
    {data : List Byte}
    (size : data.length = geometry.itemSize) :
    (log.add geometry data).Spacious geometry := by
  have openForm := spacious.wellFormed.openPage spacious.inWindow
  have written := openForm.writeSlot rfl spacious.room size
  have grown := spacious.wellFormed.slot_writeSlot data
  have room := spacious.room
  rw [StoreLog.add]
  split
  · next full => exact Spacious.finishPage written rfl full
  · next more => exact ⟨written, by omega, spacious.inWindow⟩

/-- Closing a page drops a page while the ring is full. -/
theorem oldest_finishPage
    {first : Nat}
    (oldest_eq :
      log.oldest =
        max first (SegmentedLog.oldest geometry.nrOfPages log.closed))
    (inWindow : log.closed < log.oldest + geometry.nrOfPages) :
    (log.finishPage geometry).oldest =
      max first
        (SegmentedLog.oldest geometry.nrOfPages
          (log.finishPage geometry).closed) := by
  rw [SegmentedLog.oldest] at *
  rw [StoreLog.finishPage]
  split <;> simp only [dropOldest, closePage] <;> omega

theorem oldest_add
    {first : Nat}
    (oldest_eq :
      log.oldest =
        max first (SegmentedLog.oldest geometry.nrOfPages log.closed))
    (inWindow : log.closed < log.oldest + geometry.nrOfPages)
    (data : List Byte) :
    (log.add geometry data).oldest =
      max first
        (SegmentedLog.oldest geometry.nrOfPages
          (log.add geometry data).closed) := by
  rw [StoreLog.add]
  split
  · exact @oldest_finishPage geometry (log.openPage.writeSlot data) first
      oldest_eq inWindow
  · exact oldest_eq

/-- Closing a full page gives a regular log. -/
theorem Regular.finishPage
    (wellFormed : log.WellFormed geometry)
    (opened : log.opened = true)
    (full : log.slot geometry = geometry.capacity)
    (oldest_eq :
      log.oldest = SegmentedLog.oldest geometry.nrOfPages log.closed) :
    (log.finishPage geometry).Regular geometry := by
  have inWindow := wellFormed.closed_lt opened
  have spacious := Spacious.finishPage wellFormed opened full
  refine ⟨spacious.wellFormed, spacious.room, ?_⟩
  rw [SegmentedLog.oldest] at oldest_eq
  rw [StoreLog.finishPage, SegmentedLog.oldest]
  split <;> simp only [dropOldest, closePage] <;> omega

/-- An add keeps the log regular. -/
theorem Regular.add
    (regular : log.Regular geometry)
    {data : List Byte}
    (size : data.length = geometry.itemSize) :
    (log.add geometry data).Regular geometry := by
  have openForm := regular.wellFormed.openPage regular.inWindow
  have written := openForm.writeSlot rfl regular.room size
  have grown := regular.wellFormed.slot_writeSlot data
  have room := regular.room
  rw [StoreLog.add]
  split
  · next full =>
      exact Regular.finishPage written rfl full regular.oldest_eq
  · next more =>
      exact
        { wellFormed := written
          room := by omega
          oldest_eq := regular.oldest_eq }

/-- Items are added one after the other. -/
def addAll
    (geometry : StoreGeometry) (log : StoreLog)
    (items : List (List Byte)) : StoreLog :=
  items.foldl (StoreLog.add geometry) log

@[simp] theorem addAll_nil (log : StoreLog) :
    log.addAll geometry [] = log :=
  rfl

@[simp] theorem addAll_cons
    (log : StoreLog)
    (data : List Byte)
    (rest : List (List Byte)) :
    log.addAll geometry (data :: rest) =
      (log.add geometry data).addAll geometry rest :=
  rfl

@[simp] theorem items_addAll
    (log : StoreLog)
    (items : List (List Byte)) :
    (log.addAll geometry items).items = log.items ++ items := by
  induction items generalizing log with
  | nil => simp
  | cons data rest inductionHypothesis =>
      rw [addAll_cons, inductionHypothesis, items_add]
      simp

@[simp] theorem blockId_addAll
    (log : StoreLog)
    (items : List (List Byte)) :
    (log.addAll geometry items).blockId = log.blockId := by
  induction items generalizing log with
  | nil => rfl
  | cons data rest inductionHypothesis =>
      rw [addAll_cons, inductionHypothesis, blockId_add]

theorem Spacious.addAll
    {items : List (List Byte)}
    (spacious : log.Spacious geometry)
    (sized : ∀ data ∈ items, data.length = geometry.itemSize) :
    (log.addAll geometry items).Spacious geometry := by
  induction items generalizing log with
  | nil => exact spacious
  | cons data rest inductionHypothesis =>
      exact inductionHypothesis
        (spacious.add (sized data (List.mem_cons_self ..)))
        (fun entry member => sized entry (List.mem_cons_of_mem _ member))

/-- A run of adds drops pages while the ring is full. -/
theorem Spacious.oldest_addAll
    {items : List (List Byte)}
    (spacious : log.Spacious geometry)
    (sized : ∀ data ∈ items, data.length = geometry.itemSize)
    {first : Nat}
    (oldest_eq :
      log.oldest =
        max first (SegmentedLog.oldest geometry.nrOfPages log.closed)) :
    (log.addAll geometry items).oldest =
      max first
        (SegmentedLog.oldest geometry.nrOfPages
          (log.addAll geometry items).closed) := by
  induction items generalizing log with
  | nil => exact oldest_eq
  | cons data rest inductionHypothesis =>
      exact inductionHypothesis
        (spacious.add (sized data (List.mem_cons_self ..)))
        (fun entry member => sized entry (List.mem_cons_of_mem _ member))
        (oldest_add oldest_eq spacious.inWindow data)

theorem Regular.addAll
    {items : List (List Byte)}
    (regular : log.Regular geometry)
    (sized : ∀ data ∈ items, data.length = geometry.itemSize) :
    (log.addAll geometry items).Regular geometry := by
  induction items generalizing log with
  | nil => exact regular
  | cons data rest inductionHypothesis =>
      exact inductionHypothesis
        (regular.add (sized data (List.mem_cons_self ..)))
        (fun entry member => sized entry (List.mem_cons_of_mem _ member))

/-- The current page is opened exactly when it has items. -/
def Tidy (geometry : StoreGeometry) (log : StoreLog) : Prop :=
  log.opened = true ↔ log.slot geometry ≠ 0

/-- After an add the current page is opened exactly when it has items. -/
theorem Regular.tidy_add
    (regular : log.Regular geometry)
    {data : List Byte}
    (size : data.length = geometry.itemSize) :
    (log.add geometry data).Tidy geometry := by
  have openForm := regular.wellFormed.openPage regular.inWindow
  have written := openForm.writeSlot rfl regular.room size
  have grown := regular.wellFormed.slot_writeSlot data
  rw [Tidy, StoreLog.add]
  split
  · next full =>
      have finished := Regular.finishPage written rfl full
        regular.oldest_eq
      have shape := finished.wellFormed.items_eq (opened_finishPage _)
      simp only [opened_finishPage, Bool.false_eq_true, false_iff,
        not_not]
      rw [slot, shape, Nat.sub_self]
  · next more =>
      have opened : (log.openPage.writeSlot data).opened = true := rfl
      simp only [opened, grown, true_iff]
      omega

/-- A run of adds keeps the current page tidy. -/
theorem Tidy.addAll
    {items : List (List Byte)}
    (tidy : log.Tidy geometry)
    (regular : log.Regular geometry)
    (sized : ∀ data ∈ items, data.length = geometry.itemSize) :
    (log.addAll geometry items).Tidy geometry := by
  induction items generalizing log with
  | nil => exact tidy
  | cons data rest inductionHypothesis =>
      have size := sized data (List.mem_cons_self ..)
      exact inductionHypothesis (regular.tidy_add size)
        (regular.add size)
        (fun entry member => sized entry (List.mem_cons_of_mem _ member))

/-- Nothing has been added. -/
def empty : StoreLog where
  items := []
  closed := 0
  opened := false
  oldest := 0
  blockId := fun ordinal => ordinal % maxBlockIndex

theorem regular_empty (geometry : StoreGeometry) :
    empty.Regular geometry where
  wellFormed :=
    { oldest_le := Nat.le_refl _
      closed_le := Nat.zero_le _
      closed_lt := by simp [empty]
      items_ge := by simp [empty]
      items_le := by simp [empty]
      items_eq := by simp [empty]
      size_eq := by simp [empty]
      blockId_lt := fun ordinal => Nat.mod_lt _ (by decide)
      blockId_succ := by
        intro ordinal _
        simp [empty, Nat.add_mod] }
  room := by
    have positive := geometry.capacity_pos
    simpa [slot, empty] using positive
  oldest_eq := by
    have several := geometry.severalPages
    simp only [empty, SegmentedLog.oldest]
    omega

/-- The log after adding items to an empty store. -/
def ofItems
    (geometry : StoreGeometry) (items : List (List Byte)) : StoreLog :=
  empty.addAll geometry items

theorem regular_ofItems
    {items : List (List Byte)}
    (sized : ∀ data ∈ items, data.length = geometry.itemSize) :
    (ofItems geometry items).Regular geometry :=
  (regular_empty geometry).addAll sized

theorem tidy_ofItems
    {items : List (List Byte)}
    (sized : ∀ data ∈ items, data.length = geometry.itemSize) :
    (ofItems geometry items).Tidy geometry := by
  have tidyEmpty : empty.Tidy geometry := by
    simp [Tidy, empty, slot]
  exact tidyEmpty.addAll (regular_empty geometry) sized

/-- The current page of a store is opened unless it has no items. -/
theorem opened_ofItems
    {items : List (List Byte)}
    (sized : ∀ data ∈ items, data.length = geometry.itemSize) :
    (ofItems geometry items).opened = true ↔
      items.length % geometry.capacity ≠ 0 := by
  have tidy := tidy_ofItems sized
  have slots := (regular_ofItems sized).slot_eq
  rw [Tidy, slots] at tidy
  rw [tidy, SegmentedLog.used, ofItems, items_addAll]
  simp [empty]

@[simp] theorem items_ofItems (items : List (List Byte)) :
    (ofItems geometry items).items = items := by
  simp [ofItems, empty]

@[simp] theorem blockId_ofItems
    (items : List (List Byte))
    (ordinal : Nat) :
    (ofItems geometry items).blockId ordinal = ordinal % maxBlockIndex := by
  rw [ofItems, blockId_addAll, empty]

end StoreLog

/-! Every write of an add programs erased double words of one page. -/

namespace StoreImage

variable {item : ItemDef}
variable {log : StoreLog}
variable {memory : Memory}

/-- Program operations on the current page target erased double words. -/
def ProgramsCurrentPage
    (item : ItemDef) (log : StoreLog) (memory : Memory)
    (effects : List FlashEffect) : Prop :=
  ProgramsErased (pageAddr ((geometry item).pageOf log.closed))
    (pageAddr ((geometry item).pageOf log.closed) + flashPageSize)
    memory effects

theorem programs_openEffects
    (image : StoreImage item log memory)
    (wellFormed : log.WellFormed (geometry item))
    (inWindow : log.closed < log.oldest + (geometry item).nrOfPages)
    (notOpened : log.opened = false) :
    ProgramsCurrentPage item log memory (openEffects item log) := by
  have holds := image.currentPage wellFormed inWindow
  have free := holds.beginTag_free
    (by rw [headerOf_notOpened item notOpened]; rfl)
  exact programsErased_programEffects _ 0 free (Nat.le_refl _)
    (by simp [flashPageSize])

theorem programs_itemEffects
    (image : StoreImage item log memory)
    (wellFormed : log.WellFormed (geometry item))
    (inWindow : log.closed < log.oldest + (geometry item).nrOfPages)
    (room : log.slot (geometry item) < (geometry item).capacity)
    (data : List Byte) :
    ProgramsCurrentPage item log memory
      (itemEffects item log data (geometry item).itemWords) := by
  have holds := image.currentPage wellFormed inWindow
  have free := holds.free
  rw [wellFormed.length_pageItems] at free
  have start := slotAddress_ge (geometry item).itemSize
    ((geometry item).pageOf log.closed) (log.slot (geometry item))
  have fits := (geometry item).slotAddress_fits
    ((geometry item).pageOf log.closed)
    (show log.slot (geometry item) + 1 ≤ (geometry item).capacity by omega)
  rw [slotAddress_succ, StoreGeometry.itemSize] at fits
  exact programsErased_programEffects _ 0
    (free.mono (Nat.le_refl _) fits)
    (by rw [nextSlotAddress]; omega) fits

theorem programs_closeEffects
    (image : StoreImage item log memory)
    (wellFormed : log.WellFormed (geometry item))
    (opened : log.opened = true) :
    ProgramsCurrentPage item log memory (closeEffects item log) := by
  have inWindow := wellFormed.closed_lt opened
  have holds := image.currentPage wellFormed inWindow
  have free := holds.completeTag_free
    (by rw [headerOf_opened item opened])
  exact programsErased_programEffects _ 0 free (Nat.le_add_right _ _)
    (by simp [pageBeginTagSize, flashPageSize])

theorem programs_finishEffects
    (image : StoreImage item log memory)
    (wellFormed : log.WellFormed (geometry item))
    (opened : log.opened = true) :
    ProgramsCurrentPage item log memory (finishEffects item log) := by
  refine (image.programs_closeEffects wellFormed opened).append ?_
  split
  · exact programsErased_erasePage _ _ _ _
  · exact trivial

/-- A completed add programs erased double words of the current page only. -/
theorem programs_addEffects
    (image : StoreImage item log memory)
    (regular : log.Regular (geometry item))
    {data : List Byte}
    (size : data.length = (geometry item).itemSize) :
    ProgramsCurrentPage item log memory (addEffects item log data) := by
  have wellFormed := regular.wellFormed
  have inWindow := regular.inWindow
  have openForm := wellFormed.openPage inWindow
  have writtenForm := openForm.writeSlot rfl regular.room size
  have opening :
      StoreImage item log.openPage
          (applyEffects memory
            (if log.opened then [] else openEffects item log)) ∧
        ProgramsCurrentPage item log memory
          (if log.opened then [] else openEffects item log) := by
    cases opened : log.opened with
    | false =>
        exact ⟨image.openPage wellFormed inWindow,
          image.programs_openEffects wellFormed inWindow opened⟩
    | true =>
        have sameLog : log.openPage = log := by
          rw [StoreLog.openPage, ← opened]
        rw [sameLog]
        exact ⟨image, trivial⟩
  have written := opening.1.writeSlot openForm inWindow regular.room size
  rw [← applyEffects_bufferOf _ _ _ size] at written
  refine opening.2.append ?_
  refine (opening.1.programs_itemEffects openForm inWindow regular.room
    data).append ?_
  by_cases full :
      (log.openPage.writeSlot data).slot (geometry item) =
        (geometry item).capacity
  · rw [if_pos full]
    exact written.programs_finishEffects writtenForm rfl
  · rw [if_neg full]
    exact trivial

end StoreImage

/-! A power loss can leave a torn item behind. -/

section Torn

variable {item : ItemDef}
variable {log : StoreLog}
variable {memory : Memory}
variable {data : List Byte}
variable {words : Nat}

/-- The first double words of an item, as they are found after a reset. -/
def tornSlot
    (item : ItemDef) (words : Nat) (data : List Byte) : List Byte :=
  tornItem (geometry item).itemSize words data

theorem length_tornSlot
    (size : data.length = (geometry item).itemSize)
    (within : words ≤ (geometry item).itemWords) :
    (tornSlot item words data).length = (geometry item).itemSize :=
  length_tornItem size (Nat.mul_le_mul_left 8 within)

/-- A torn item has data exactly when its written part has. -/
theorem hasNoData_tornSlot :
    hasNoData (tornSlot item words data) =
      hasNoData (data.take (8 * words)) := by
  have blank : ∀ count,
      hasNoData (List.replicate count erasedByte) = true := by
    intro count
    rw [hasNoData_iff, List.length_replicate]
  rw [tornSlot, tornItem, hasNoData_append, blank, Bool.and_true]

/-- The free slot behind the items of the current page. -/
theorem StoreImage.free_slot
    (image : StoreImage item log memory)
    (wellFormed : log.WellFormed (geometry item))
    (inWindow : log.closed < log.oldest + (geometry item).nrOfPages)
    (room : log.slot (geometry item) < (geometry item).capacity) :
    ConstantOn memory erasedByte (nextSlotAddress item log)
      (nextSlotAddress item log + (geometry item).itemSize) := by
  have free := (image.currentPage wellFormed inWindow).free
  have fits := (geometry item).slotAddress_fits
    ((geometry item).pageOf log.closed)
    (show log.slot (geometry item) + 1 ≤ (geometry item).capacity by omega)
  rw [slotAddress_succ] at fits
  rw [wellFormed.length_pageItems] at free
  exact free.mono (Nat.le_refl _) fits

/-- Some double words of an item extend the current page by a torn item. -/
theorem StoreImage.writeTorn
    (image : StoreImage item log memory)
    (wellFormed : log.WellFormed (geometry item))
    (inWindow : log.closed < log.oldest + (geometry item).nrOfPages)
    (room : log.slot (geometry item) < (geometry item).capacity)
    (size : data.length = (geometry item).itemSize)
    (within : words ≤ (geometry item).itemWords) :
    StoreImage item (log.writeSlot (tornSlot item words data))
      (applyEffects memory (itemEffects item log data words)) := by
  have free := image.free_slot wellFormed inWindow room
  rw [itemEffects,
    applyEffects_tornItem size (Nat.mul_le_mul_left 8 within)
      (Nat.le_refl _) free]
  exact image.writeSlot wellFormed inWindow room
    (length_tornSlot size within)

/-- Double words without data leave the current page as it is. -/
theorem StoreImage.writeBlank
    (image : StoreImage item log memory)
    (wellFormed : log.WellFormed (geometry item))
    (inWindow : log.closed < log.oldest + (geometry item).nrOfPages)
    (room : log.slot (geometry item) < (geometry item).capacity)
    (size : data.length = (geometry item).itemSize)
    (within : words ≤ (geometry item).itemWords)
    (blank : hasNoData (data.take (8 * words)) = true) :
    StoreImage item log
      (applyEffects memory (itemEffects item log data words)) := by
  have free := image.free_slot wellFormed inWindow room
  have length := length_tornSlot size within
  have erased :=
    (hasNoData_iff (tornSlot item words data)).mp
      (hasNoData_tornSlot.trans blank)
  rw [length, tornSlot] at erased
  rw [itemEffects,
    applyEffects_tornItem size (Nat.mul_le_mul_left 8 within)
      (Nat.le_refl _) free, erased,
    writeBytes_replicate free (Nat.le_refl _)]
  exact image

end Torn

end DemoBoard
