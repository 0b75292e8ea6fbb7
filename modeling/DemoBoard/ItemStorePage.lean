import DemoBoard.Flash

namespace DemoBoard

open ByteMemory

/-!
# Page format of the item store

Every page of an item store starts with a 16 byte header: a begin tag, written
with the first item, and a complete tag, written when no further item fits.
The items follow without gaps.
-/

/-- `ItemStore_ItemDef_t` -/
inductive ItemDef where
  | systemConfig
  | measurementSample
  deriving Repr, DecidableEq

namespace ItemDef

/-- The enumeration value of an item definition. -/
def toByte : ItemDef → Byte
  | .systemConfig => 0
  | .measurementSample => 1

/-- The item definition with a given enumeration value. -/
def ofByte? (value : Byte) : Option ItemDef :=
  if value = 0 then
    some .systemConfig
  else if value = 1 then
    some .measurementSample
  else
    none

@[simp] theorem ofByte?_toByte (item : ItemDef) :
    ofByte? item.toByte = some item := by
  cases item <;> rfl

end ItemDef

/-- `PAGE_MAGIC` -/
def pageMagic : UInt32 := 0xA53CC35A

/-- `MAX_BLOCK_INDEX` -/
def maxBlockIndex : Nat := 64

/-- `sizeof(PageBeginTag_t)` -/
def pageBeginTagSize : Nat := 8

/-- `sizeof(PageHeader_t)` -/
def pageHeaderSize : Nat := 16

/-- `PageBeginTag_t` -/
structure PageBeginTag where
  magic : UInt32
  pageId : UInt8
  blockId : UInt8
  itemId : UInt8
  itemSize : UInt8
  deriving Repr, DecidableEq

/-- `PageCompleteTag_t` -/
structure PageCompleteTag where
  magic : UInt32
  nrOfItems : UInt16
  nextPage : UInt8
  nextPageId : UInt8
  deriving Repr, DecidableEq

/-- `PageHeader_t` -/
structure PageHeader where
  beginTag : PageBeginTag
  completeTag : PageCompleteTag
  deriving Repr, DecidableEq

namespace PageBeginTag

/-- Memory image of a begin tag. -/
def toBytes (tag : PageBeginTag) : List Byte :=
  leBytes 4 tag.magic.toNat ++
    [tag.pageId, tag.blockId, tag.itemId, tag.itemSize]

/-- The begin tag at the start of a memory image. -/
def ofBytes (bytes : List Byte) : PageBeginTag where
  magic := UInt32.ofNat (leValue (bytes.take 4))
  pageId := bytes.getD 4 0
  blockId := bytes.getD 5 0
  itemId := bytes.getD 6 0
  itemSize := bytes.getD 7 0

/-- A begin tag in which no byte has been programmed. -/
def erased : PageBeginTag :=
  ofBytes (List.replicate 8 erasedByte)

@[simp] theorem length_toBytes (tag : PageBeginTag) :
    tag.toBytes.length = 8 := by
  simp [toBytes]

/-- Reading back the memory image of a begin tag. -/
theorem ofBytes_toBytes (tag : PageBeginTag) (rest : List Byte) :
    ofBytes (tag.toBytes ++ rest) = tag := by
  have magicBound : tag.magic.toNat < 2 ^ 32 := tag.magic.toNat_lt
  have magicSame :
      UInt32.ofNat (leValue (leBytes 4 tag.magic.toNat)) = tag.magic := by
    rw [leValue_leBytes, Nat.mod_eq_of_lt (by omega),
      UInt32.ofNat_toNat]
  have magicBytes :
      (tag.toBytes ++ rest).take 4 = leBytes 4 tag.magic.toNat := by
    simp [toBytes]
  rw [ofBytes, magicBytes, magicSame]
  simp [toBytes, leBytes]

theorem toBytes_erased :
    erased.toBytes = List.replicate 8 erasedByte := by
  decide

end PageBeginTag

namespace PageCompleteTag

/-- Memory image of a complete tag. -/
def toBytes (tag : PageCompleteTag) : List Byte :=
  leBytes 4 tag.magic.toNat ++
    (leBytes 2 tag.nrOfItems.toNat ++ [tag.nextPage, tag.nextPageId])

/-- The complete tag at the start of a memory image. -/
def ofBytes (bytes : List Byte) : PageCompleteTag where
  magic := UInt32.ofNat (leValue (bytes.take 4))
  nrOfItems := UInt16.ofNat (leValue ((bytes.drop 4).take 2))
  nextPage := bytes.getD 6 0
  nextPageId := bytes.getD 7 0

/-- A complete tag in which no byte has been programmed. -/
def erased : PageCompleteTag :=
  ofBytes (List.replicate 8 erasedByte)

@[simp] theorem length_toBytes (tag : PageCompleteTag) :
    tag.toBytes.length = 8 := by
  simp [toBytes]

/-- Reading back the memory image of a complete tag. -/
theorem ofBytes_toBytes (tag : PageCompleteTag) :
    ofBytes tag.toBytes = tag := by
  have magicBound : tag.magic.toNat < 2 ^ 32 := tag.magic.toNat_lt
  have countBound : tag.nrOfItems.toNat < 2 ^ 16 :=
    tag.nrOfItems.toNat_lt
  have magicSame :
      UInt32.ofNat (leValue (leBytes 4 tag.magic.toNat)) = tag.magic := by
    rw [leValue_leBytes, Nat.mod_eq_of_lt (by omega),
      UInt32.ofNat_toNat]
  have countSame :
      UInt16.ofNat (leValue (leBytes 2 tag.nrOfItems.toNat)) =
        tag.nrOfItems := by
    rw [leValue_leBytes, Nat.mod_eq_of_lt (by omega),
      UInt16.ofNat_toNat]
  have magicBytes :
      tag.toBytes.take 4 = leBytes 4 tag.magic.toNat := by
    simp [toBytes]
  have countBytes :
      (tag.toBytes.drop 4).take 2 = leBytes 2 tag.nrOfItems.toNat := by
    simp [toBytes]
  rw [ofBytes, magicBytes, countBytes, magicSame, countSame]
  simp [toBytes, leBytes]

theorem toBytes_erased :
    erased.toBytes = List.replicate 8 erasedByte := by
  decide

/-- An erased complete tag does not carry the page magic. -/
theorem magic_erased : erased.magic ≠ pageMagic := by
  decide

end PageCompleteTag

namespace PageHeader

/-- Memory image of a page header. -/
def toBytes (header : PageHeader) : List Byte :=
  header.beginTag.toBytes ++ header.completeTag.toBytes

/-- The page header at the start of a memory image. -/
def ofBytes (bytes : List Byte) : PageHeader where
  beginTag := PageBeginTag.ofBytes bytes
  completeTag := PageCompleteTag.ofBytes (bytes.drop 8)

@[simp] theorem length_toBytes (header : PageHeader) :
    header.toBytes.length = 16 := by
  simp [toBytes]

/-- Reading back the memory image of a page header. -/
@[simp] theorem ofBytes_toBytes (header : PageHeader) :
    ofBytes header.toBytes = header := by
  have completeBytes :
      header.toBytes.drop 8 = header.completeTag.toBytes := by
    simp [toBytes]
  rw [ofBytes, completeBytes, PageCompleteTag.ofBytes_toBytes,
    toBytes, PageBeginTag.ofBytes_toBytes]

end PageHeader

/-- `HasNoData`: every byte of the buffer is in the erased state. -/
def hasNoData (buffer : List Byte) : Bool :=
  buffer.all fun byte => byte == erasedByte

theorem hasNoData_iff (buffer : List Byte) :
    hasNoData buffer = true ↔
      buffer = List.replicate buffer.length erasedByte := by
  simp [hasNoData, List.eq_replicate_iff]

theorem hasNoData_append (first second : List Byte) :
    hasNoData (first ++ second) =
      (hasNoData first && hasNoData second) := by
  simp [hasNoData]

/-- A begin tag that carries the page magic has data. -/
theorem PageBeginTag.hasNoData_toBytes
    {tag : PageBeginTag}
    (magic : tag.magic = pageMagic) :
    hasNoData tag.toBytes = false := by
  simp [hasNoData, toBytes, magic, pageMagic, leBytes, erasedByte]

/-- A complete tag that carries the page magic has data. -/
theorem PageCompleteTag.hasNoData_toBytes
    {tag : PageCompleteTag}
    (magic : tag.magic = pageMagic) :
    hasNoData tag.toBytes = false := by
  simp [hasNoData, toBytes, magic, pageMagic, leBytes, erasedByte]

@[simp] theorem PageBeginTag.hasNoData_erased :
    hasNoData PageBeginTag.erased.toBytes = true := by
  decide

@[simp] theorem PageCompleteTag.hasNoData_erased :
    hasNoData PageCompleteTag.erased.toBytes = true := by
  decide

/-- Encoding a decoded magic number. -/
theorem leBytes_magic
    {bytes : List Byte}
    (length : bytes.length = 4) :
    leBytes 4 (UInt32.ofNat (leValue bytes)).toNat = bytes := by
  have bound := leValue_lt bytes
  rw [length] at bound
  rw [UInt32.toNat_ofNat', Nat.mod_eq_of_lt (by omega), ← length,
    leBytes_leValue]

/-- The memory image of a begin tag that was read. -/
theorem PageBeginTag.toBytes_ofBytes
    {bytes : List Byte}
    (length : bytes.length = 8) :
    (ofBytes bytes).toBytes = bytes := by
  have magic := @leBytes_magic (bytes.take 4) (by simp [length])
  rw [toBytes, ofBytes]
  simp only [magic]
  apply List.ext_getElem
  · simp [length]
  · intro index _ within
    rw [length] at within
    rw [List.getElem_append]
    split
    · simp
    · rename_i beyond
      simp only [List.length_take, length] at beyond
      have cases : index = 4 ∨ index = 5 ∨ index = 6 ∨ index = 7 := by
        omega
      rcases cases with rfl | rfl | rfl | rfl <;> simp [length]

/-- The memory image of a complete tag that was read. -/
theorem PageCompleteTag.toBytes_ofBytes
    {bytes : List Byte}
    (length : bytes.length = 8) :
    (ofBytes bytes).toBytes = bytes := by
  have magic := @leBytes_magic (bytes.take 4) (by simp [length])
  have count :
      leBytes 2 (UInt16.ofNat (leValue ((bytes.drop 4).take 2))).toNat =
        (bytes.drop 4).take 2 := by
    have size : ((bytes.drop 4).take 2).length = 2 := by simp [length]
    have bound := leValue_lt ((bytes.drop 4).take 2)
    rw [size] at bound
    rw [UInt16.toNat_ofNat', Nat.mod_eq_of_lt (by omega)]
    have same := leBytes_leValue ((bytes.drop 4).take 2)
    rwa [size] at same
  rw [toBytes, ofBytes]
  simp only [magic, count]
  apply List.ext_getElem
  · simp [length]
  · intro index _ within
    rw [length] at within
    rw [List.getElem_append]
    split
    · simp
    · rename_i beyond
      simp only [List.length_take, length] at beyond
      have cases : index = 4 ∨ index = 5 ∨ index = 6 ∨ index = 7 := by
        omega
      rcases cases with rfl | rfl | rfl | rfl <;> simp [length]

/-- The memory image of a header that was read. -/
theorem PageHeader.toBytes_ofBytes
    {bytes : List Byte}
    (length : bytes.length = 16) :
    (ofBytes bytes).toBytes = bytes := by
  have front : PageBeginTag.ofBytes bytes =
      PageBeginTag.ofBytes (bytes.take 8) := by
    simp [PageBeginTag.ofBytes, List.take_take]
  rw [toBytes, ofBytes, front,
    PageBeginTag.toBytes_ofBytes (by simp [length]),
    PageCompleteTag.toBytes_ofBytes (by simp [length]),
    List.take_append_drop]
end DemoBoard
