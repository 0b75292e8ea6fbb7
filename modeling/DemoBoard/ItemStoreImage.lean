import DemoBoard.FlashOperations
import DemoBoard.ItemStore
import DemoBoard.SegmentedLog

namespace DemoBoard

open ByteMemory

/-!
# Pages of an item store on flash

`PageHolds` describes the complete content of one page: its header, the items
that follow and the erased remainder.  The lemmas say how each flash operation
of the item store changes that content, including a write that is interrupted
after some double words.
-/

theorem pageAddr_aligned (page : Nat) : pageAddr page % 8 = 0 := by
  simp only [pageAddr, flashBase, flashPageSize]
  omega

/-- Different pages occupy disjoint address ranges. -/
theorem pageAddr_apart
    {left right : Nat}
    (different : left ≠ right) :
    pageAddr left + flashPageSize ≤ pageAddr right ∨
      pageAddr right + flashPageSize ≤ pageAddr left := by
  simp only [pageAddr, flashPageSize]
  omega

/-- Writable pages are writable addresses. -/
theorem pageAddr_writable
    {page : Nat}
    (lower : firstWritableFlashPage ≤ page)
    (upper : page ≤ lastWritableFlashPage) :
    minWritableAddress ≤ pageAddr page ∧
      pageAddr page + flashPageSize ≤ maxWritableAddress + 1 := by
  simp only [minWritableAddress, maxWritableAddress, pageAddr, flashBase,
    flashPageSize] at *
  omega

/-- Address of an item on a page. -/
def slotAddress (itemSize page slot : Nat) : Nat :=
  pageAddr page + pageHeaderSize + slot * itemSize

theorem slotAddress_succ (itemSize page slot : Nat) :
    slotAddress itemSize page (slot + 1) =
      slotAddress itemSize page slot + itemSize := by
  simp only [slotAddress, Nat.succ_mul]
  omega

theorem slotAddress_le
    (itemSize page : Nat)
    {first last : Nat}
    (ordered : first ≤ last) :
    slotAddress itemSize page first ≤ slotAddress itemSize page last := by
  have bound := Nat.mul_le_mul_right itemSize ordered
  simp only [slotAddress]
  omega

theorem slotAddress_ge (itemSize page slot : Nat) :
    pageAddr page + pageHeaderSize ≤ slotAddress itemSize page slot := by
  simp only [slotAddress]
  omega

/-- A header in which no byte has been programmed. -/
def PageHeader.erased : PageHeader where
  beginTag := PageBeginTag.erased
  completeTag := PageCompleteTag.erased

theorem PageHeader.toBytes_erased :
    PageHeader.erased.toBytes = List.replicate 16 erasedByte := by
  decide

/-- The complete content of one page. -/
structure PageHolds
    (memory : Memory) (itemSize page : Nat)
    (header : PageHeader) (items : List (List Byte)) : Prop where
  header_eq :
    readBytes memory (pageAddr page) pageHeaderSize = header.toBytes
  item_eq :
    ∀ slot data, items[slot]? = some data →
      readBytes memory (slotAddress itemSize page slot) itemSize = data
  free :
    ConstantOn memory erasedByte
      (slotAddress itemSize page items.length)
      (pageAddr page + flashPageSize)
  fits :
    slotAddress itemSize page items.length ≤
      pageAddr page + flashPageSize

namespace PageHolds

variable {memory : Memory}
variable {itemSize page : Nat}
variable {header : PageHeader}
variable {items : List (List Byte)}

/-- The content of a page depends on its own addresses only. -/
theorem congr
    {other : Memory}
    (holds : PageHolds memory itemSize page header items)
    (agree :
      AgreeOn other memory (pageAddr page)
        (pageAddr page + flashPageSize)) :
    PageHolds other itemSize page header items where
  header_eq := by
    rw [← holds.header_eq]
    exact readBytes_congr
      (agree.mono (Nat.le_refl _)
        (by simp [pageHeaderSize, flashPageSize]))
  item_eq := by
    intro slot data found
    rw [← holds.item_eq slot data found]
    have inside : slot < items.length :=
      (List.getElem?_eq_some_iff.mp found).1
    have lower := slotAddress_ge itemSize page slot
    have upper := slotAddress_le itemSize page inside
    rw [Nat.succ_eq_add_one, slotAddress_succ] at upper
    have last := holds.fits
    exact readBytes_congr (agree.mono (by omega) (by omega))
  free := by
    have lower := slotAddress_ge itemSize page items.length
    exact holds.free.congr (agree.mono (by omega) (Nat.le_refl _))
  fits := holds.fits

/-- Erasing a page leaves neither a header nor items. -/
theorem erased
    (memory : Memory)
    (itemSize page : Nat) :
    PageHolds
      (fillBytes memory (pageAddr page) flashPageSize erasedByte)
      itemSize page PageHeader.erased [] where
  header_eq := by
    rw [PageHeader.toBytes_erased]
    exact (fillBytes_constantOn memory (pageAddr page) flashPageSize
      erasedByte).readBytes_eq (by simp [pageHeaderSize, flashPageSize])
  item_eq := by
    intro slot data found
    simp at found
  free := by
    have lower := slotAddress_ge itemSize page 0
    exact (fillBytes_constantOn memory (pageAddr page) flashPageSize
      erasedByte).mono (by simp; omega) (Nat.le_refl _)
  fits := by
    simp [slotAddress, pageHeaderSize, flashPageSize]

/-- An erased range is an erased page. -/
theorem of_constantOn
    (blank :
      ConstantOn memory erasedByte (pageAddr page)
        (pageAddr page + flashPageSize)) :
    PageHolds memory itemSize page PageHeader.erased [] := by
  have same :
      AgreeOn memory
        (fillBytes memory (pageAddr page) flashPageSize erasedByte)
        (pageAddr page) (pageAddr page + flashPageSize) := by
    intro location lower upper
    rw [blank location lower upper]
    exact (fillBytes_constantOn memory (pageAddr page) flashPageSize
      erasedByte location lower upper).symm
  exact (erased memory itemSize page).congr same

/-- The header of an erased page is an erased range. -/
theorem constantOn_of_replicate
    {address count : Nat}
    (blank :
      readBytes memory address count = List.replicate count erasedByte) :
    ConstantOn memory erasedByte address (address + count) := by
  intro location lower upper
  have found :=
    @getElem?_readBytes memory address count (location - address)
      (by omega)
  rw [blank, Nat.add_sub_cancel' lower] at found
  rw [List.getElem?_replicate, if_pos (by omega)] at found
  exact (Option.some.inj found).symm

/-- The two tags of a header are stored one after the other. -/
theorem tags_eq
    (holds : PageHolds memory itemSize page header items) :
    readBytes memory (pageAddr page) 8 = header.beginTag.toBytes ∧
      readBytes memory (pageAddr page + 8) 8 =
        header.completeTag.toBytes := by
  have split := holds.header_eq
  rw [show pageHeaderSize = 8 + 8 from rfl, readBytes_add,
    PageHeader.toBytes] at split
  exact List.append_inj split (by simp)

theorem of_tags
    (holds : PageHolds memory itemSize page header items)
    {other : Memory}
    {changed : PageHeader}
    (beginTag :
      readBytes other (pageAddr page) 8 = changed.beginTag.toBytes)
    (completeTag :
      readBytes other (pageAddr page + 8) 8 =
        changed.completeTag.toBytes)
    (agree :
      AgreeOn other memory (pageAddr page + pageHeaderSize)
        (pageAddr page + flashPageSize)) :
    PageHolds other itemSize page changed items where
  header_eq := by
    rw [show pageHeaderSize = 8 + 8 from rfl, readBytes_add, beginTag,
      completeTag, PageHeader.toBytes]
  item_eq := by
    intro slot data found
    rw [← holds.item_eq slot data found]
    have inside : slot < items.length :=
      (List.getElem?_eq_some_iff.mp found).1
    have lower := slotAddress_ge itemSize page slot
    have upper := slotAddress_le itemSize page inside
    rw [Nat.succ_eq_add_one, slotAddress_succ] at upper
    have last := holds.fits
    exact readBytes_congr (agree.mono (by omega) (by omega))
  free := by
    have lower := slotAddress_ge itemSize page items.length
    exact holds.free.congr (agree.mono (by omega) (Nat.le_refl _))
  fits := holds.fits

/-- Where a header has no begin tag, the first double word is erased. -/
theorem beginTag_free
    (holds : PageHolds memory itemSize page header items)
    (blank : header.beginTag = PageBeginTag.erased) :
    ConstantOn memory erasedByte (pageAddr page) (pageAddr page + 8) := by
  apply constantOn_of_replicate
  rw [holds.tags_eq.1, blank, PageBeginTag.toBytes_erased]

/-- Where a page is not complete, the second double word is erased. -/
theorem completeTag_free
    (holds : PageHolds memory itemSize page header items)
    (blank : header.completeTag = PageCompleteTag.erased) :
    ConstantOn memory erasedByte (pageAddr page + 8)
      (pageAddr page + 8 + 8) := by
  apply constantOn_of_replicate
  rw [holds.tags_eq.2, blank, PageCompleteTag.toBytes_erased]

/-- A page without tags and items is erased. -/
theorem constantOn_page
    (holds : PageHolds memory itemSize page PageHeader.erased []) :
    ConstantOn memory erasedByte (pageAddr page)
      (pageAddr page + flashPageSize) := by
  intro location lower upper
  by_cases beginTag : location < pageAddr page + 8
  · exact holds.beginTag_free rfl location lower beginTag
  · by_cases completeTag : location < pageAddr page + 8 + 8
    · exact holds.completeTag_free rfl location (by omega) completeTag
    · have start : slotAddress itemSize page 0 = pageAddr page + 16 := by
        simp [slotAddress, pageHeaderSize]
      exact holds.free location (by rw [List.length_nil, start]; omega)
        upper

/-- Writing the begin tag of a page. -/
theorem writeBeginTag
    (holds : PageHolds memory itemSize page header items)
    (tag : PageBeginTag) :
    PageHolds (writeBytes memory (pageAddr page) tag.toBytes)
      itemSize page { header with beginTag := tag } items := by
  have written := readBytes_writeBytes_same memory (pageAddr page)
    tag.toBytes
  rw [PageBeginTag.length_toBytes] at written
  apply holds.of_tags written
  · rw [← holds.tags_eq.2]
    exact readBytes_congr (writeBytes_agreeOn memory (by simp))
  · exact writeBytes_agreeOn memory (by simp [pageHeaderSize])

/-- Writing the complete tag of a page. -/
theorem writeCompleteTag
    (holds : PageHolds memory itemSize page header items)
    (tag : PageCompleteTag) :
    PageHolds (writeBytes memory (pageAddr page + 8) tag.toBytes)
      itemSize page { header with completeTag := tag } items := by
  have written := readBytes_writeBytes_same memory (pageAddr page + 8)
    tag.toBytes
  rw [PageCompleteTag.length_toBytes] at written
  refine holds.of_tags ?_ written ?_
  · rw [← holds.tags_eq.1]
    exact readBytes_congr (writeBytes_agreeOn memory (by simp))
  · exact writeBytes_agreeOn memory (by simp [pageHeaderSize])

/-- Writing the next item of a page. -/
theorem writeItem
    (holds : PageHolds memory itemSize page header items)
    {data : List Byte}
    (size : data.length = itemSize)
    (room :
      slotAddress itemSize page (items.length + 1) ≤
        pageAddr page + flashPageSize) :
    PageHolds
      (writeBytes memory (slotAddress itemSize page items.length) data)
      itemSize page header (items ++ [data]) where
  header_eq := by
    rw [← holds.header_eq]
    have lower := slotAddress_ge itemSize page items.length
    exact readBytes_congr (writeBytes_agreeOn memory (by omega))
  item_eq := by
    intro slot found atSlot
    rcases Nat.lt_trichotomy slot items.length with before | last | after
    · rw [List.getElem?_append_left before] at atSlot
      rw [← holds.item_eq slot found atSlot]
      have upper := slotAddress_le itemSize page before
      rw [Nat.succ_eq_add_one, slotAddress_succ] at upper
      exact readBytes_congr (writeBytes_agreeOn memory (by omega))
    · subst last
      simp only [List.getElem?_concat_length, Option.some.injEq] at atSlot
      subst atSlot
      rw [← size]
      exact readBytes_writeBytes_same _ _ _
    · rw [List.getElem?_eq_none (by simp; omega)] at atSlot
      cases atSlot
  free := by
    have grown := slotAddress_succ itemSize page items.length
    rw [List.length_append, List.length_singleton]
    have rest := holds.free.mono
      (slotAddress_le itemSize page (Nat.le_add_right items.length 1))
      (Nat.le_refl _)
    exact rest.congr
      (writeBytes_agreeOn memory (by rw [size]; omega))
  fits := by
    simpa using room

end PageHolds

/-- What a slot holds after `words` double words of an item are written. -/
def tornItem (itemSize words : Nat) (data : List Byte) : List Byte :=
  data.take (8 * words) ++ List.replicate (itemSize - 8 * words) erasedByte

theorem length_tornItem
    {itemSize words : Nat}
    {data : List Byte}
    (size : data.length = itemSize)
    (within : 8 * words ≤ itemSize) :
    (tornItem itemSize words data).length = itemSize := by
  simp only [tornItem, List.length_append, List.length_take,
    List.length_replicate]
  omega

/-- An item of which every double word is written is complete. -/
theorem tornItem_complete
    {itemSize words : Nat}
    {data : List Byte}
    (size : data.length = itemSize)
    (all : 8 * words = itemSize) :
    tornItem itemSize words data = data := by
  rw [tornItem, all, Nat.sub_self, List.take_of_length_le (by omega)]
  simp

/-- The bytes a RAM buffer was made from. -/
theorem readBytes_bufferOf
    {bytes : List Byte}
    {count : Nat}
    (within : count ≤ bytes.length) :
    readBytes (ItemStore.bufferOf bytes) 0 count = bytes.take count := by
  have size : (bytes.take count).length = count := by
    simpa using within
  have same :
      readBytes (ItemStore.bufferOf bytes) 0 (bytes.take count).length =
        bytes.take count := by
    apply readBytes_eq_of_forall
    intro offset inside
    have bound : offset < bytes.length := by omega
    rw [List.getD_eq_getElem _ _ inside]
    simp [ItemStore.bufferOf, bound]
  rwa [size] at same

/-- An interrupted item write stores the torn item. -/
theorem applyEffects_tornItem
    {memory : Memory}
    {itemSize address words last : Nat}
    {data : List Byte}
    (size : data.length = itemSize)
    (within : 8 * words ≤ itemSize)
    (inside : address + itemSize ≤ last)
    (erased : ConstantOn memory erasedByte address last) :
    applyEffects memory
        (programEffects (ItemStore.bufferOf data) address 0 words) =
      writeBytes memory address (tornItem itemSize words data) := by
  have taken : (data.take (8 * words)).length = 8 * words := by
    simp only [List.length_take]
    omega
  rw [applyEffects_programEffects, readBytes_bufferOf (by omega),
    tornItem, writeBytes_append, taken]
  have rest :
      ConstantOn (writeBytes memory address (data.take (8 * words)))
        erasedByte (address + 8 * words) last := by
    have before := erased.mono
      (Nat.le_add_right address (8 * words)) (Nat.le_refl _)
    exact before.congr (writeBytes_agreeOn memory (by omega))
  rw [writeBytes_replicate rest (by omega)]

end DemoBoard
