import DemoBoard.FlashErase
import DemoBoard.ItemStoreEnumerationFrame

namespace DemoBoard.ItemStore

open ByteMemory

/-!
# Stores in any condition

A delete resets the counters of a store when it is requested and the pages of
the store later, so in some runs the two disagree.  `Placed` is what remains
true of every store in every run: which tags its pages carry, how they are
linked, and where the next item goes.
-/

/-- A page belongs to a store. -/
def InStore (item : ItemDef) (page : Nat) : Prop :=
  (geometry item).firstPage ≤ page ∧
    page < (geometry item).firstPage + (geometry item).nrOfPages

/-- The page after a page of a store. -/
def nextPageOf (item : ItemDef) (page : Nat) : Nat :=
  if page + 1 < (geometry item).firstPage + (geometry item).nrOfPages then
    page + 1
  else
    (geometry item).firstPage

/-- The page that takes the next item of a store. -/
def writePage (state : ItemStoreState) (item : ItemDef) : Nat :=
  (state.itemStore item).nextWritePageInfo.pageId.toNat

/-- The begin tag of a page of a store. -/
def tagFor (item : ItemDef) (page : Nat) (blockId : Byte) :
    PageBeginTag where
  magic := pageMagic
  pageId := UInt8.ofNat page
  blockId := blockId
  itemId := item.toByte
  itemSize := UInt8.ofNat (geometry item).itemSize

/-- The bytes of a page header. -/
def headerBytes (memory : Memory) (page : Nat) : List Byte :=
  readBytes memory (pageAddr page) pageHeaderSize

/-- The header of a page. -/
def headerAt (memory : Memory) (page : Nat) : PageHeader :=
  PageHeader.ofBytes (headerBytes memory page)

/-- A page without a header. -/
def Blank (memory : Memory) (page : Nat) : Prop :=
  hasNoData (headerBytes memory page) = true

/-- A page with a complete tag. -/
def Complete (memory : Memory) (page : Nat) : Prop :=
  hasNoData (headerAt memory page).completeTag.toBytes = false

/-- A page that a running or finished erase covers. -/
def Condemned (state : ItemStoreState) (page : Nat) : Prop :=
  state.listenerState = .erasing ∧
    state.eraseParameters.pageNumber ≤ page ∧
    page <
      state.eraseParameters.pageNumber + state.eraseParameters.nrOfPages

/-- What a page with a header looks like. -/
structure PageInUse
    (item : ItemDef) (state : ItemStoreState) (page : Nat) : Prop where
  begun : ∃ blockId,
    (headerAt state.flash.memory page).beginTag = tagFor item page blockId
  closed :
    page ≠ writePage state item → Complete state.flash.memory page
  nextPage : Complete state.flash.memory page →
    (headerAt state.flash.memory page).completeTag.nextPage.toNat =
      nextPageOf item page
  linked : Complete state.flash.memory page →
    nextPageOf item page = writePage state item ∨
      ¬ Blank state.flash.memory (nextPageOf item page) ∨
      Condemned state page

/-- The next item of a store goes to one of its pages. -/
structure Located (item : ItemDef) (state : ItemStoreState) : Prop where
  static : StaticInfo item (state.itemStore item)
  tag : ∃ blockId,
    (state.itemStore item).nextWritePageInfo =
      tagFor item (writePage state item) blockId
  inStore : InStore item (writePage state item)
  oldest :
    InStore item (state.itemStore item).oldestPageInfo.pageId.toNat
  count_le :
    (state.itemStore item).currentPageNrOfItems ≤
      (geometry item).capacity
  pages : ∀ page, InStore item page →
    Blank state.flash.memory page ∨ PageInUse item state page

/-- There is room for an item on a page that takes one. -/
structure Placed (item : ItemDef) (state : ItemStoreState) : Prop
    extends Located item state where
  room :
    (state.itemStore item).currentPageNrOfItems <
        (geometry item).capacity ∨
      Blank state.flash.memory (writePage state item) ∨
      Complete state.flash.memory (writePage state item) ∨
      Condemned state (writePage state item)

/-- The item store is at rest; its pages may hold anything. -/
structure AtRest (state : ItemStoreState) : Prop where
  listenerIdle : state.listenerState = .idle
  flashIdle : state.flash.Idle

theorem AtRest.notCondemned
    {state : ItemStoreState}
    (rest : AtRest state)
    (page : Nat) :
    ¬ Condemned state page := by
  intro condemned
  rw [Condemned, rest.listenerIdle] at condemned
  cases condemned.1

section Pages

variable {item : ItemDef}
variable {memory : Memory}
variable {page : Nat}

/-- `NEXT_PAGE_NR` -/
theorem nextPageNr_eq
    {info : ItemStoreInfo}
    (static : StaticInfo item info)
    (page : Nat) :
    nextPageNr info page = nextPageOf item page := by
  have last := static.lastPage_eq
  rw [nextPageNr, nextPageOf, static.firstPage_eq]
  split
  · rw [if_neg (by omega)]
  · rw [if_pos (by omega)]

theorem nextPageOf_inStore
    (inStore : InStore item page) :
    InStore item (nextPageOf item page) := by
  have positive := (geometry item).nrOfPages_pos
  unfold InStore nextPageOf at *
  split <;> omega

theorem nextPageOf_ne
    (inStore : InStore item page) :
    nextPageOf item page ≠ page := by
  have several := (geometry item).severalPages
  unfold InStore nextPageOf at *
  split <;> omega

/-- Page numbers of a store fit a byte. -/
theorem InStore.byte
    (inStore : InStore item page) :
    (UInt8.ofNat page).toNat = page := by
  have last := (geometry item).lastWritable
  rw [UInt8.toNat_ofNat', Nat.mod_eq_of_lt]
  unfold InStore at inStore
  simp only [lastWritableFlashPage, firstWritableFlashPage] at last
  omega

/-- A page of a store is the page of an ordinal. -/
theorem InStore.pageOf
    (inStore : InStore item page) :
    (geometry item).pageOf (page - (geometry item).firstPage) = page := by
  unfold InStore at inStore
  rw [StoreGeometry.pageOf, Nat.mod_eq_of_lt (by omega)]
  omega

/-- No page belongs to two stores. -/
theorem inStore_unique
    {other : ItemDef}
    (inStore : InStore item page)
    (inOther : InStore other page) :
    item = other := by
  by_contra different
  have apart := geometry_apart different
  unfold InStore at inStore inOther
  simp only [pageAddr, flashPageSize] at apart
  omega

/-- Pages of a store can be written. -/
theorem InStore.writable
    (inStore : InStore item page) :
    firstWritableFlashPage ≤ page ∧ page ≤ lastWritableFlashPage := by
  have writable :=
    (geometry item).pageOf_writable (page - (geometry item).firstPage)
  rw [inStore.pageOf] at writable
  exact writable

/-- Reading a page header. -/
theorem readHeader_headerAt (state : ItemStoreState) (page : Nat) :
    readHeader state page = some (headerAt state.flash.memory page) := by
  rw [readHeader, Flash.read_eq _ _ (pageAddr_aligned page)]
  rfl

theorem toBytes_headerAt (memory : Memory) (page : Nat) :
    (headerAt memory page).toBytes = headerBytes memory page :=
  PageHeader.toBytes_ofBytes (by simp [headerBytes, pageHeaderSize])

/-- A header consists of its two tags. -/
theorem headerBytes_tags (memory : Memory) (page : Nat) :
    headerBytes memory page =
      (headerAt memory page).beginTag.toBytes ++
        (headerAt memory page).completeTag.toBytes := by
  rw [← toBytes_headerAt, PageHeader.toBytes]

theorem headerBytes_split (memory : Memory) (page : Nat) :
    headerBytes memory page =
      readBytes memory (pageAddr page) 8 ++
        readBytes memory (pageAddr page + 8) 8 := by
  rw [headerBytes, ← readBytes_add]
  rfl

/-- The bytes of the tags of a page. -/
theorem tagBytes_headerAt (memory : Memory) (page : Nat) :
    (headerAt memory page).beginTag.toBytes =
        readBytes memory (pageAddr page) 8 ∧
      (headerAt memory page).completeTag.toBytes =
        readBytes memory (pageAddr page + 8) 8 := by
  apply List.append_inj
  · rw [← headerBytes_tags, headerBytes_split]
  · simp [PageBeginTag.toBytes]

theorem blank_iff :
    Blank memory page ↔
      hasNoData (readBytes memory (pageAddr page) 8) = true ∧
        ¬ Complete memory page := by
  rw [Blank, Complete, headerBytes_split, hasNoData_append,
    (tagBytes_headerAt memory page).2]
  simp

/-- A range that has no data is erased. -/
theorem constantOn_of_hasNoData
    {address count : Nat}
    (blank : hasNoData (readBytes memory address count) = true) :
    ConstantOn memory erasedByte address (address + count) := by
  rw [hasNoData_iff, length_readBytes] at blank
  exact PageHolds.constantOn_of_replicate blank

theorem hasNoData_of_constantOn
    {address count first last : Nat}
    (erased : ConstantOn memory erasedByte first last)
    (lower : first ≤ address)
    (upper : address + count ≤ last) :
    hasNoData (readBytes memory address count) = true := by
  have within := erased.mono lower (Nat.le_refl last)
  rw [within.readBytes_eq upper]
  simp [hasNoData]

theorem PageErased.blank
    (erased : PageErased memory page) :
    Blank memory page :=
  hasNoData_of_constantOn erased (Nat.le_refl _)
    (by simp [pageHeaderSize, flashPageSize])

/-- A page whose begin tag is written is not blank. -/
theorem not_blank_of_begun
    {blockId : Byte}
    (begun :
      (headerAt memory page).beginTag = tagFor item page blockId) :
    ¬ Blank memory page := by
  rw [blank_iff, ← (tagBytes_headerAt memory page).1, begun,
    PageBeginTag.hasNoData_toBytes rfl]
  simp

/-- Equal header bytes are equal headers. -/
theorem headerAt_congr
    {other : Memory}
    (same : headerBytes other page = headerBytes memory page) :
    headerAt other page = headerAt memory page := by
  rw [headerAt, same, headerAt]

end Pages

section Frame

variable {item : ItemDef}
variable {before after : ItemStoreState}
variable {page : Nat}

/-- A page whose header stays as it is. -/
theorem PageInUse.congr
    (inUse : PageInUse item before page)
    (samePage : writePage after item = writePage before item)
    (header :
      headerBytes after.flash.memory page =
        headerBytes before.flash.memory page)
    (linked : ¬ Blank before.flash.memory (nextPageOf item page) →
      ¬ Blank after.flash.memory (nextPageOf item page))
    (condemned : Condemned before page → Condemned after page) :
    PageInUse item after page where
  begun := by
    rw [headerAt_congr header]
    exact inUse.begun
  closed := by
    rw [Complete, headerAt_congr header, samePage]
    exact inUse.closed
  nextPage := by
    rw [Complete, headerAt_congr header]
    exact inUse.nextPage
  linked := by
    rw [Complete, headerAt_congr header, samePage]
    intro complete
    rcases inUse.linked complete with next | programmed | doomed
    · exact .inl next
    · exact .inr (.inl (linked programmed))
    · exact .inr (.inr (condemned doomed))

/-- Operations that keep the headers of a store and where it writes. -/
theorem Located.congr
    (located : Located item before)
    (static : StaticInfo item (after.itemStore item))
    (writes :
      (after.itemStore item).nextWritePageInfo =
        (before.itemStore item).nextWritePageInfo)
    (oldest :
      (after.itemStore item).oldestPageInfo =
        (before.itemStore item).oldestPageInfo)
    (count_le :
      (after.itemStore item).currentPageNrOfItems ≤
        (geometry item).capacity)
    (headers : ∀ page, InStore item page →
      headerBytes after.flash.memory page =
        headerBytes before.flash.memory page)
    (condemned : ∀ page, InStore item page → Condemned before page →
      Condemned after page ∨ Blank after.flash.memory page) :
    Located item after := by
  have samePage : writePage after item = writePage before item := by
    rw [writePage, writes, writePage]
  refine
    { static := static
      tag := ?_
      inStore := ?_
      oldest := ?_
      count_le := count_le
      pages := ?_ }
  · rw [writes, samePage]
    exact located.tag
  · rw [samePage]
    exact located.inStore
  · rw [oldest]
    exact located.oldest
  · intro page inStore
    have same := headers page inStore
    have linked :
        ¬ Blank before.flash.memory (nextPageOf item page) →
          ¬ Blank after.flash.memory (nextPageOf item page) := by
      rw [Blank, Blank, headers _ (nextPageOf_inStore inStore)]
      exact id
    rcases located.pages page inStore with blank | inUse
    · exact .inl (by rw [Blank, same]; exact blank)
    · by_cases doomed : Condemned before page
      · rcases condemned page inStore doomed with still | erased
        · exact .inr (inUse.congr samePage same linked (fun _ => still))
        · exact .inl erased
      · exact .inr (inUse.congr samePage same linked
          (fun was => (doomed was).elim))

/-- Operations that keep how much room there is. -/
theorem Placed.congr
    (placed : Placed item before)
    (static : StaticInfo item (after.itemStore item))
    (writes :
      (after.itemStore item).nextWritePageInfo =
        (before.itemStore item).nextWritePageInfo)
    (oldest :
      (after.itemStore item).oldestPageInfo =
        (before.itemStore item).oldestPageInfo)
    (count_le :
      (after.itemStore item).currentPageNrOfItems ≤
        (before.itemStore item).currentPageNrOfItems)
    (headers : ∀ page, InStore item page →
      headerBytes after.flash.memory page =
        headerBytes before.flash.memory page)
    (condemned : ∀ page, InStore item page → Condemned before page →
      Condemned after page ∨ Blank after.flash.memory page) :
    Placed item after := by
  have samePage : writePage after item = writePage before item := by
    rw [writePage, writes, writePage]
  have header := headers _ placed.inStore
  refine ⟨placed.toLocated.congr static writes oldest
    (Nat.le_trans count_le placed.count_le) headers condemned, ?_⟩
  rw [samePage]
  rcases placed.room with room | blank | complete | doomed
  · exact .inl (Nat.lt_of_le_of_lt count_le room)
  · exact .inr (.inl (by rw [Blank, header]; exact blank))
  · exact .inr (.inr (.inl
      (by rw [Complete, headerAt_congr header]; exact complete)))
  · rcases condemned _ placed.inStore doomed with still | erased
    · exact .inr (.inr (.inr still))
    · exact .inr (.inl erased)

/-- Operations of one store keep the headers of the others. -/
theorem Extends.headerBytes_eq
    {other : ItemDef}
    {effects : List FlashEffect}
    (extended : Extends other effects before after)
    (different : other ≠ item)
    (inStore : InStore item page) :
    headerBytes after.flash.memory page =
      headerBytes before.flash.memory page := by
  have apart := geometry_apart different
  unfold InStore at inStore
  rw [extended.memory]
  refine readBytes_congr (applyEffects_agreeOn extended.inside ?_ _)
  simp only [pageAddr, pageHeaderSize, flashPageSize] at apart ⊢
  omega

/-- Operations of one store keep the shape of the others. -/
theorem Placed.frame
    {other : ItemDef}
    {effects : List FlashEffect}
    (placed : Placed item before)
    (rest : AtRest before)
    (extended : Extends other effects before after)
    (different : other ≠ item) :
    Placed item after := by
  have info := extended.others item different.symm
  refine placed.congr ?_ (by rw [info]) (by rw [info]) (by rw [info])
    (fun page inStore => extended.headerBytes_eq different inStore)
    (fun page _ doomed => (rest.notCondemned page doomed).elim)
  rw [info]
  exact placed.static

/-- States that differ in what enumerations and errors leave behind. -/
structure SameContent (before after : ItemStoreState) : Prop where
  flash : after.flash = before.flash
  listenerState : after.listenerState = before.listenerState
  eraseParameters : after.eraseParameters = before.eraseParameters
  eraseReminder : after.eraseReminder = before.eraseReminder
  info : ∀ item, ∃ currentState enumeratorStatusCb enumeratorStatus,
    after.itemStore item =
      { before.itemStore item with
        currentState := currentState
        enumeratorStatusCb := enumeratorStatusCb
        enumeratorStatus := enumeratorStatus }

theorem SameContent.refl (state : ItemStoreState) :
    SameContent state state :=
  ⟨rfl, rfl, rfl, rfl, fun _ => ⟨_, _, _, rfl⟩⟩

theorem SameContent.trans
    {middle : ItemStoreState}
    (first : SameContent before middle)
    (second : SameContent middle after) :
    SameContent before after where
  flash := second.flash.trans first.flash
  listenerState := second.listenerState.trans first.listenerState
  eraseParameters := second.eraseParameters.trans first.eraseParameters
  eraseReminder := second.eraseReminder.trans first.eraseReminder
  info := by
    intro item
    obtain ⟨_, _, _, left⟩ := first.info item
    obtain ⟨_, _, _, right⟩ := second.info item
    rw [left] at right
    exact ⟨_, _, _, right⟩

theorem sameContent_recoverableError
    (state : ItemStoreState)
    (parameter : Nat) :
    SameContent state (recoverableError state parameter) :=
  ⟨rfl, rfl, rfl, rfl, fun _ => ⟨_, _, _, rfl⟩⟩

theorem sameContent_modifyInfo
    (state : ItemStoreState)
    (item : ItemDef)
    {change : ItemStoreInfo → ItemStoreInfo}
    (keeps : ∀ info, ∃ currentState enumeratorStatusCb enumeratorStatus,
      change info =
        { info with
          currentState := currentState
          enumeratorStatusCb := enumeratorStatusCb
          enumeratorStatus := enumeratorStatus }) :
    SameContent state (modifyInfo state item change) := by
  refine ⟨rfl, rfl, rfl, rfl, ?_⟩
  intro other
  by_cases same : other = item
  · rw [same, modifyInfo_same]
    exact keeps _
  · rw [modifyInfo_other _ _ same]
    exact ⟨_, _, _, rfl⟩

theorem ChangesStatus.sameContent
    (changed : ChangesStatus item before after) :
    SameContent before after := by
  obtain ⟨change, rfl⟩ := changed
  exact sameContent_modifyInfo before item fun _ => ⟨_, _, _, rfl⟩

/-- `BeginEnumerate` leaves the content of the stores alone. -/
theorem sameContent_beginEnumerate
    (state : ItemStoreState)
    (item : ItemDef)
    (enumerator : Enumerator) :
    SameContent state (beginEnumerate state item enumerator).1 := by
  obtain ⟨searched, changed, closed | opened⟩ :=
    beginEnumerate_changesStatus state item enumerator
  · rw [closed.2]
    exact changed.sameContent
  · rw [opened.2]
    exact changed.sameContent.trans
      (sameContent_modifyInfo searched item fun _ => ⟨_, _, _, rfl⟩)

/-- `ItemStore_GetNext` changes the status of at most two stores. -/
theorem getNext_changesStatuses
    (state : ItemStoreState)
    (enumerator : Enumerator) :
    ∃ first second middle,
      ChangesStatus first state middle ∧
        ChangesStatus second middle (getNext state enumerator).1 := by
  have nothing : ∃ first second middle,
      ChangesStatus first state middle ∧
        ChangesStatus second middle state :=
    ⟨.systemConfig, .systemConfig, state, .refl _ _, .refl _ _⟩
  simp only [getNext]
  split
  · exact nothing
  split
  · exact nothing
  split
  · exact nothing
  rename_i details _ _ item _
  generalize turned :
    (if (state.itemStore details).enumeratorStatus.currentIndex =
        (state.itemStore details).enumeratorStatus.itemsOnPage then
      initEnumeratorStatus state item _ 0
    else
      (state, true)) = outcome
  have changed : ChangesStatus item state outcome.1 := by
    rw [← turned]
    split
    · exact initEnumeratorStatus_changesStatus state item _ 0
    · exact .refl item state
  split
  · exact ⟨item, item, outcome.1, changed, .refl _ _⟩
  · split
    · exact ⟨item, item, outcome.1, changed, .refl _ _⟩
    · dsimp only
      exact ⟨item, details, outcome.1, changed,
        changesStatus_modifyStatus outcome.1 details _⟩

/-- `ItemStore_GetNext` leaves the content of the stores alone. -/
theorem sameContent_getNext
    (state : ItemStoreState)
    (enumerator : Enumerator) :
    SameContent state (getNext state enumerator).1 := by
  obtain ⟨_, _, _, first, second⟩ :=
    getNext_changesStatuses state enumerator
  exact first.sameContent.trans second.sameContent

theorem ChangesStatus.enumeratorStatusCb
    (changed : ChangesStatus item before after)
    (other : ItemDef) :
    (after.itemStore other).enumeratorStatusCb =
      (before.itemStore other).enumeratorStatusCb := by
  obtain ⟨change, rfl⟩ := changed
  rw [modifyStatus]
  by_cases same : other = item
  · rw [same, modifyInfo_same]
  · rw [modifyInfo_other _ _ same]

/-- `ItemStore_GetNext` leaves the registered callbacks alone. -/
theorem getNext_enumeratorStatusCb
    (state : ItemStoreState)
    (enumerator : Enumerator)
    (item : ItemDef) :
    ((getNext state enumerator).1.itemStore item).enumeratorStatusCb =
      (state.itemStore item).enumeratorStatusCb := by
  obtain ⟨_, _, _, first, second⟩ :=
    getNext_changesStatuses state enumerator
  rw [second.enumeratorStatusCb, first.enumeratorStatusCb]

/-- `ItemStore_GetNext` leaves the start index alone. -/
theorem getNext_startIndex
    (state : ItemStoreState)
    (enumerator : Enumerator) :
    (getNext state enumerator).2.1.startIndex = enumerator.startIndex := by
  simp only [getNext]
  repeat' split
  all_goals rfl

/-- `BeginEnumerate` leaves the registered callbacks alone. -/
theorem beginEnumerate_enumeratorStatusCb
    (state : ItemStoreState)
    (item : ItemDef)
    (enumerator : Enumerator)
    (other : ItemDef) :
    ((beginEnumerate state item enumerator).1.itemStore
        other).enumeratorStatusCb =
      (state.itemStore other).enumeratorStatusCb := by
  obtain ⟨searched, changed, closed | opened⟩ :=
    beginEnumerate_changesStatus state item enumerator
  · rw [closed.2, changed.enumeratorStatusCb]
  · rw [opened.2]
    by_cases same : other = item
    · rw [same, modifyInfo_same]
      exact changed.enumeratorStatusCb item
    · rw [modifyInfo_other _ _ same, changed.enumeratorStatusCb]

/-- `BeginEnumerate` leaves the start index alone. -/
theorem beginEnumerate_enumerator_startIndex
    (state : ItemStoreState)
    (item : ItemDef)
    (enumerator : Enumerator) :
    (beginEnumerate state item enumerator).2.1.startIndex =
      enumerator.startIndex := by
  simp only [beginEnumerate]
  repeat' split
  all_goals rfl

theorem SameContent.writePage_eq
    (same : SameContent before after)
    (item : ItemDef) :
    writePage after item = writePage before item := by
  obtain ⟨_, _, _, info⟩ := same.info item
  rw [writePage, info, writePage]

theorem SameContent.condemned_iff
    (same : SameContent before after)
    (page : Nat) :
    Condemned after page ↔ Condemned before page := by
  rw [Condemned, same.listenerState, same.eraseParameters, Condemned]

theorem SameContent.placed
    (same : SameContent before after)
    (placed : Placed item before) :
    Placed item after := by
  obtain ⟨_, _, _, info⟩ := same.info item
  refine placed.congr ?_ (by rw [info]) (by rw [info]) (by rw [info])
    (fun page _ => by rw [same.flash])
    (fun page _ doomed => .inl ((same.condemned_iff page).mpr doomed))
  rw [info]
  exact { placed.static with }

theorem SameContent.atRest
    (same : SameContent before after)
    (rest : AtRest before) :
    AtRest after := by
  refine ⟨?_, ?_⟩
  · rw [same.listenerState]
    exact rest.listenerIdle
  · rw [same.flash]
    exact rest.flashIdle

end Frame

section Log

variable {item : ItemDef}
variable {log : StoreLog}
variable {stale : Nat}
variable {state : ItemStoreState}

theorem beginTagOf_eq (item : ItemDef) (log : StoreLog) (ordinal : Nat) :
    beginTagOf item log ordinal =
      tagFor item ((geometry item).pageOf ordinal)
        (UInt8.ofNat (log.blockId ordinal)) :=
  rfl

theorem pageOf_inStore (item : ItemDef) (ordinal : Nat) :
    InStore item ((geometry item).pageOf ordinal) :=
  ⟨(geometry item).pageOf_ge ordinal, (geometry item).pageOf_lt ordinal⟩

theorem nextPageOf_pageOf (item : ItemDef) (ordinal : Nat) :
    nextPageOf item ((geometry item).pageOf ordinal) =
      (geometry item).pageOf (ordinal + 1) := by
  have static := (fresh_powerOn item fun _ => 0).static
  rw [← nextPageNr_eq static, nextPageNr_pageOf static]

/-- The page of a store in a window of ordinals. -/
theorem InStore.ordinal
    {page : Nat}
    (inStore : InStore item page)
    (first : Nat) :
    ∃ ordinal, first ≤ ordinal ∧
      ordinal < first + (geometry item).nrOfPages ∧
      (geometry item).pageOf ordinal = page := by
  have place :
      page - (geometry item).firstPage < (geometry item).nrOfPages := by
    unfold InStore at inStore
    omega
  refine ⟨SegmentedLog.ordinalAt (geometry item).nrOfPages first
    (page - (geometry item).firstPage), ?_, ?_, ?_⟩
  · exact SegmentedLog.ordinalAt_ge first place
  · exact SegmentedLog.ordinalAt_lt first place
  · rw [StoreGeometry.pageOf, SegmentedLog.ordinalAt_mod first place]
    exact Nat.add_sub_of_le inStore.1

/-- The header of a page of the log. -/
theorem Tracks.headerAt_eq
    (tracks : Tracks item log stale state)
    {ordinal : Nat}
    (lower : log.oldest ≤ ordinal)
    (upper : ordinal < log.oldest + (geometry item).nrOfPages) :
    headerAt state.flash.memory ((geometry item).pageOf ordinal) =
      headerOf item log ordinal := by
  have read := readHeader_eq (tracks.image ordinal lower upper)
  rw [readHeader_headerAt] at read
  exact Option.some.inj read

/-- A page that is not used by the log is blank. -/
theorem Tracks.blank
    (tracks : Tracks item log stale state)
    {ordinal : Nat}
    (lower : log.oldest ≤ ordinal)
    (upper : ordinal < log.oldest + (geometry item).nrOfPages)
    (unused : headerOf item log ordinal = PageHeader.erased) :
    Blank state.flash.memory ((geometry item).pageOf ordinal) := by
  rw [Blank, ← toBytes_headerAt, tracks.headerAt_eq lower upper, unused]
  decide

/-- A page of the log with a begin tag. -/
theorem Tracks.pageInUse
    (tracks : Tracks item log stale state)
    {ordinal : Nat}
    (lower : log.oldest ≤ ordinal)
    (upper : ordinal < log.oldest + (geometry item).nrOfPages)
    (used : ordinal < log.closed ∨
      ordinal = log.closed ∧ log.opened = true) :
    PageInUse item state ((geometry item).pageOf ordinal) := by
  have header := tracks.headerAt_eq lower upper
  have next : writePage state item = (geometry item).pageOf log.closed :=
    tracks.info.nextPage_eq
  have closed (complete : Complete state.flash.memory
      ((geometry item).pageOf ordinal)) : ordinal < log.closed := by
    rcases used with earlier | ⟨current, opened⟩
    · exact earlier
    · rw [Complete, header, current, headerOf_opened item opened] at complete
      simp at complete
  refine
    { begun := ?_
      closed := ?_
      nextPage := ?_
      linked := ?_ }
  · refine ⟨UInt8.ofNat (log.blockId ordinal), ?_⟩
    rw [header, ← beginTagOf_eq item log ordinal, headerOf, if_pos used]
  · intro different
    rw [next] at different
    rcases used with earlier | ⟨current, _⟩
    · rw [Complete, header, headerOf_closed item earlier]
      exact PageCompleteTag.hasNoData_toBytes rfl
    · rw [current] at different
      exact (different rfl).elim
  · intro complete
    rw [header, headerOf_closed item (closed complete), nextPageOf_pageOf]
    exact (geometry item).toNat_pageOf (ordinal + 1)
  · intro complete
    have earlier := closed complete
    rw [nextPageOf_pageOf, next]
    by_cases last : ordinal + 1 = log.closed
    · rw [last]
      exact .inl rfl
    · have closed_le := tracks.wellFormed.closed_le
      have following := tracks.headerAt_eq
        (show log.oldest ≤ ordinal + 1 by omega) (by omega)
      rw [headerOf_closed item (by omega)] at following
      refine .inr (.inl ?_)
      apply @not_blank_of_begun item _ _
        (UInt8.ofNat (log.blockId (ordinal + 1)))
      rw [following, beginTagOf_eq]

/-- A store that describes a regular log has its shape. -/
theorem Tracks.placed
    (tracks : Tracks item log stale state)
    (regular : log.Regular (geometry item))
    (stale_le : stale ≤ (geometry item).capacity) :
    Placed item state := by
  have next : writePage state item = (geometry item).pageOf log.closed :=
    tracks.info.nextPage_eq
  have room := regular.room
  have count := tracks.info.currentPageNrOfItems_eq
  have inWindow := regular.inWindow
  have oldest_le := tracks.wellFormed.oldest_le
  refine ⟨?_, ?_⟩
  · exact
      { static := tracks.info.toStaticInfo
        tag := by
          refine ⟨UInt8.ofNat (log.blockId log.closed), ?_⟩
          rw [next, ← beginTagOf_eq item log log.closed]
          exact tracks.info.nextWritePageInfo_eq
        inStore := by
          rw [next]
          exact pageOf_inStore item log.closed
        oldest := by
          rw [tracks.info.oldestPageInfo_eq, beginTagOf]
          simp only
          rw [(geometry item).toNat_pageOf]
          exact pageOf_inStore item log.oldest
        count_le := by
          rw [count]
          split <;> omega
        pages := by
          intro page inStore
          obtain ⟨ordinal, lower, upper, rfl⟩ :=
            inStore.ordinal log.oldest
          by_cases used : ordinal < log.closed ∨
              ordinal = log.closed ∧ log.opened = true
          · exact .inr (tracks.pageInUse lower upper used)
          · refine .inl (tracks.blank lower upper ?_)
            rw [headerOf, if_neg used, if_neg (fun earlier =>
              used (.inl earlier))]
            rfl }
  · cases opened : log.opened with
    | false =>
        rw [next]
        exact .inr (.inl (tracks.blank oldest_le inWindow
          (headerOf_notOpened item opened)))
    | true =>
        rw [count, if_pos opened]
        exact .inl room

end Log

end DemoBoard.ItemStore
