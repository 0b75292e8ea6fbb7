import DemoBoard.ItemStorePlaced

namespace DemoBoard.ItemStore

open ByteMemory

/-!
# Positions of enumerations

`ItemStore_GetNext` follows the headers it finds on flash.  In a store of any
condition it stays on the pages of the store, so what it returns depends on
these pages and on the metadata of the store only.
-/

/-- The status `InitEnumeratorStatus` leaves behind, and its result. -/
def initialisedStatus
    (info : ItemStoreInfo) (header : PageHeader)
    (pageNr startIndex : Nat) : EnumeratorStatus × Bool :=
  let status :=
    { info.enumeratorStatus with
      currentIndex := startIndex
      enumeratingPage := header }
  if ¬ beginTagIsConsistent info header pageNr then
    (status, false)
  else if pageNr = info.nextWritePageInfo.pageId.toNat then
    ({ status with itemsOnPage := info.currentPageNrOfItems },
      startIndex < info.currentPageNrOfItems)
  else if ¬ completeTagIsConsistent info header pageNr then
    (status, false)
  else
    ({ status with itemsOnPage := itemsOnFullPage info },
      startIndex < itemsOnFullPage info)

/-- The position of the next item, and whether there is one. -/
def nextPosition
    (state : ItemStoreState) (item : ItemDef) : EnumeratorStatus × Bool :=
  let info := state.itemStore item
  let status := info.enumeratorStatus
  if status.currentIndex = status.itemsOnPage then
    let page :=
      nextPageNr info status.enumeratingPage.beginTag.pageId.toNat
    initialisedStatus info (headerAt state.flash.memory page) page 0
  else
    (status, true)

/-- The status after an item has been read. -/
def afterItem (status : EnumeratorStatus) : EnumeratorStatus :=
  { status with
    currentIndex := (status.currentIndex + 1) % 65536
    itemsRead := (status.itemsRead + 1) % 65536 }

/-- The enumerator after an item has been read. -/
def enumeratorAfter
    (enumerator : Enumerator) (status : EnumeratorStatus) : Enumerator :=
  { enumerator with
    hasMoreItems :=
      status.itemsRead + status.itemsToSkip < status.totalNrOfItems }

/-- An enumeration stands on a page of the store. -/
structure OnPage (item : ItemDef) (status : EnumeratorStatus) : Prop where
  page : ∃ page blockId, InStore item page ∧
    status.enumeratingPage.beginTag = tagFor item page blockId
  index_le : status.currentIndex ≤ status.itemsOnPage
  count_le : status.itemsOnPage ≤ (geometry item).capacity

/-- Two states that agree on one store. -/
structure SameStore
    (item : ItemDef) (left right : ItemStoreState) : Prop where
  info : right.itemStore item = left.itemStore item
  memory :
    AgreeOn right.flash.memory left.flash.memory
      (pageAddr (geometry item).firstPage)
      (pageAddr ((geometry item).firstPage + (geometry item).nrOfPages))

section Positions

variable {item : ItemDef}
variable {state left right : ItemStoreState}
variable {page : Nat}

/-- The status does not matter to the checks of a header. -/
theorem consistent_withStatus
    (info : ItemStoreInfo)
    (status : EnumeratorStatus)
    (header : PageHeader)
    (page : Nat) :
    beginTagIsConsistent { info with enumeratorStatus := status } header
          page =
        beginTagIsConsistent info header page ∧
      completeTagIsConsistent { info with enumeratorStatus := status }
          header page =
        completeTagIsConsistent info header page ∧
      itemsOnFullPage { info with enumeratorStatus := status } =
        itemsOnFullPage info :=
  ⟨rfl, rfl, rfl⟩

theorem initEnumeratorStatus_eq
    (state : ItemStoreState)
    (item : ItemDef)
    (pageNr startIndex : Nat) :
    let initialised :=
      initialisedStatus (state.itemStore item)
        (headerAt state.flash.memory pageNr) pageNr startIndex
    initEnumeratorStatus state item pageNr startIndex =
      (modifyStatus state item fun _ => initialised.1, initialised.2) := by
  intro initialised
  have header (change : EnumeratorStatus → EnumeratorStatus) :
      readHeader (modifyStatus state item change) pageNr =
        some (headerAt state.flash.memory pageNr) :=
    readHeader_headerAt _ pageNr
  simp only [initEnumeratorStatus, header]
  simp only [initialised, initialisedStatus, modifyStatus,
    modifyInfo_same, modifyInfo_modifyInfo, consistent_withStatus]
  split
  · rfl
  · split
    · rfl
    · split <;> rfl

/-- `ItemStore_GetNext` on a page of its own store. -/
theorem getNext_eq
    {enumerator : Enumerator}
    (more : enumerator.hasMoreItems = true)
    (details : enumerator.enumeratorDetails = some item)
    (own :
      ItemDef.ofByte?
          (state.itemStore
            item).enumeratorStatus.enumeratingPage.beginTag.itemId =
        some item) :
    let position := nextPosition state item
    getNext state enumerator =
      if position.2 = false then
        (modifyStatus state item fun _ => position.1,
          { enumerator with hasMoreItems := false }, none)
      else
        let tag := position.1.enumeratingPage.beginTag
        match
          state.flash.read
            (slotAddress (state.itemStore item).itemSize tag.pageId.toNat
              position.1.currentIndex)
            tag.itemSize.toNat with
        | none =>
            (modifyStatus state item fun _ => position.1,
              { enumerator with hasMoreItems := false }, none)
        | some data =>
            (modifyStatus state item fun _ => afterItem position.1,
              enumeratorAfter enumerator (afterItem position.1),
              some data) := by
  intro position
  have turned :
      (if (state.itemStore item).enumeratorStatus.currentIndex =
          (state.itemStore item).enumeratorStatus.itemsOnPage then
        initEnumeratorStatus state item
          (nextPageNr (state.itemStore item)
            (state.itemStore
              item).enumeratorStatus.enumeratingPage.beginTag.pageId.toNat)
          0
      else
        (state, true)) =
        (modifyStatus state item fun _ => position.1, position.2) := by
    simp only [position, nextPosition]
    split
    · exact initEnumeratorStatus_eq state item _ 0
    · simp [modifyStatus, modifyInfo]
  obtain ⟨hasMoreItems, startIndex, enumeratorDetails⟩ := enumerator
  cases more
  cases details
  simp only [getNext, not_true_eq_false, if_false, own, turned]
  split
  · rfl
  · simp only [modifyStatus, modifyInfo_same, modifyInfo_modifyInfo,
      modifyInfo_flash, slotAddress]
    generalize state.flash.read _ _ = data
    cases data with
    | none => rfl
    | some data => rfl

/-- A page with a consistent begin tag belongs to an enumeration. -/
theorem initialisedStatus_onPage
    (located : Located item state)
    (inStore : InStore item page)
    {startIndex : Nat}
    (ready :
      (initialisedStatus (state.itemStore item)
        (headerAt state.flash.memory page) page startIndex).2 = true) :
    let status :=
      (initialisedStatus (state.itemStore item)
        (headerAt state.flash.memory page) page startIndex).1
    OnPage item status ∧ status.currentIndex < status.itemsOnPage := by
  have count_le := located.count_le
  have capacity := itemsOnFullPage_eq located.static
  unfold initialisedStatus at ready ⊢
  by_cases begun : beginTagIsConsistent (state.itemStore item)
      (headerAt state.flash.memory page) page = true
  · have magic :
        (headerAt state.flash.memory page).beginTag.magic = pageMagic := by
      simp only [beginTagIsConsistent, decide_eq_true_eq] at begun
      exact begun.1
    have programmed : ¬ Blank state.flash.memory page := by
      rw [blank_iff, ← (tagBytes_headerAt _ _).1,
        PageBeginTag.hasNoData_toBytes magic]
      simp
    obtain ⟨blockId, tag⟩ :=
      ((located.pages page inStore).resolve_left programmed).begun
    rw [if_neg (not_not_intro begun)] at ready ⊢
    by_cases next :
        page = (state.itemStore item).nextWritePageInfo.pageId.toNat
    · rw [if_pos next] at ready ⊢
      have before := of_decide_eq_true ready
      exact ⟨⟨⟨page, blockId, inStore, tag⟩, Nat.le_of_lt before,
        count_le⟩, before⟩
    · rw [if_neg next] at ready ⊢
      by_cases complete : completeTagIsConsistent (state.itemStore item)
          (headerAt state.flash.memory page) page = true
      · rw [if_neg (not_not_intro complete)] at ready ⊢
        have before := of_decide_eq_true ready
        exact ⟨⟨⟨page, blockId, inStore, tag⟩, Nat.le_of_lt before,
          Nat.le_of_eq capacity⟩, before⟩
      · rw [if_pos complete] at ready
        cases ready
  · rw [if_pos begun] at ready
    cases ready

/-- The page number of an enumeration. -/
theorem OnPage.pageId
    {status : EnumeratorStatus}
    (onPage : OnPage item status) :
    InStore item status.enumeratingPage.beginTag.pageId.toNat := by
  obtain ⟨page, blockId, inStore, tag⟩ := onPage.page
  rw [tag, tagFor, inStore.byte]
  exact inStore

theorem OnPage.itemId
    {status : EnumeratorStatus}
    (onPage : OnPage item status) :
    ItemDef.ofByte? status.enumeratingPage.beginTag.itemId = some item := by
  obtain ⟨page, blockId, inStore, tag⟩ := onPage.page
  rw [tag]
  exact ItemDef.ofByte?_toByte item

theorem OnPage.itemSize
    {status : EnumeratorStatus}
    (onPage : OnPage item status) :
    status.enumeratingPage.beginTag.itemSize.toNat =
      (geometry item).itemSize := by
  obtain ⟨page, blockId, inStore, tag⟩ := onPage.page
  have small := (geometry item).itemSize_le
  rw [tag, tagFor, UInt8.toNat_ofNat', Nat.mod_eq_of_lt (by omega)]

/-- Reading an item moves within the page. -/
theorem OnPage.afterItem
    {status : EnumeratorStatus}
    (onPage : OnPage item status)
    (before : status.currentIndex < status.itemsOnPage) :
    OnPage item (afterItem status) where
  page := onPage.page
  index_le := by
    have wraps := Nat.mod_le (status.currentIndex + 1) 65536
    exact Nat.le_trans wraps before
  count_le := onPage.count_le

/-- The position of the next item is on a page of the store. -/
theorem nextPosition_onPage
    (located : Located item state)
    (onPage : OnPage item (state.itemStore item).enumeratorStatus)
    (found : (nextPosition state item).2 = true) :
    OnPage item (nextPosition state item).1 ∧
      (nextPosition state item).1.currentIndex <
        (nextPosition state item).1.itemsOnPage := by
  unfold nextPosition at found ⊢
  by_cases ended :
      (state.itemStore item).enumeratorStatus.currentIndex =
        (state.itemStore item).enumeratorStatus.itemsOnPage
  · simp only [if_pos ended] at found ⊢
    have inStore := nextPageOf_inStore onPage.pageId
    rw [← nextPageNr_eq located.static] at inStore
    exact initialisedStatus_onPage located inStore found
  · simp only [if_neg ended]
    exact ⟨onPage, Nat.lt_of_le_of_ne onPage.index_le ended⟩

/-- The address of the next item lies on a page of the store. -/
theorem OnPage.slotAddress
    {status : EnumeratorStatus}
    (onPage : OnPage item status)
    (before : status.currentIndex < status.itemsOnPage) :
    let address :=
      slotAddress (geometry item).itemSize
        status.enumeratingPage.beginTag.pageId.toNat status.currentIndex
    address % 8 = 0 ∧
      pageAddr (geometry item).firstPage ≤ address ∧
      address + (geometry item).itemSize ≤
        pageAddr ((geometry item).firstPage + (geometry item).nrOfPages) := by
  intro address
  have inside := (geometry item).pageOf_inside
    (status.enumeratingPage.beginTag.pageId.toNat -
      (geometry item).firstPage)
  rw [onPage.pageId.pageOf] at inside
  have lower := slotAddress_ge (geometry item).itemSize
    status.enumeratingPage.beginTag.pageId.toNat status.currentIndex
  have count_le := onPage.count_le
  have upper := (geometry item).slotAddress_fits
    status.enumeratingPage.beginTag.pageId.toNat
    (show status.currentIndex + 1 ≤ (geometry item).capacity by omega)
  rw [slotAddress_succ] at upper
  refine ⟨(geometry item).slotAddress_aligned _ _, ?_, ?_⟩
  · simp only [address]
    omega
  · simp only [address]
    omega

end Positions

/-- An enumerator with more items is one of an enumeration of its store. -/
def Positioned
    (item : ItemDef) (state : ItemStoreState)
    (enumerator : Enumerator) : Prop :=
  enumerator.hasMoreItems = true →
    enumerator.enumeratorDetails = some item ∧
      OnPage item (state.itemStore item).enumeratorStatus

section Reads

variable {item : ItemDef}
variable {state left right : ItemStoreState}
variable {enumerator : Enumerator}
variable {page : Nat}

/-- `ItemStore_GetNext` in a store of any condition. -/
theorem getNext_positioned
    (located : Located item state)
    (positioned : Positioned item state enumerator) :
    Positioned item (getNext state enumerator).1
        (getNext state enumerator).2.1 ∧
      ∃ change, (getNext state enumerator).1 =
        modifyStatus state item change := by
  cases more : enumerator.hasMoreItems with
  | false =>
      have nothing : getNext state enumerator =
          (state, enumerator, none) := by
        simp [getNext, more]
      rw [nothing]
      exact ⟨positioned, id, by simp [modifyStatus, modifyInfo]⟩
  | true =>
      obtain ⟨details, onPage⟩ := positioned more
      have next := getNext_eq more details onPage.itemId
      simp only at next
      rw [next]
      by_cases found : (nextPosition state item).2 = false
      · rw [if_pos found]
        dsimp only
        refine ⟨?_, _, rfl⟩
        intro again
        cases again
      · rw [if_neg found]
        obtain ⟨nextPage, before⟩ := nextPosition_onPage located onPage
          (by simpa using found)
        split
        · dsimp only
          refine ⟨?_, _, rfl⟩
          intro again
          cases again
        · dsimp only
          refine ⟨?_, _, rfl⟩
          intro again
          refine ⟨details, ?_⟩
          rw [modifyStatus_same]
          exact nextPage.afterItem before

theorem SameStore.refl (item : ItemDef) (state : ItemStoreState) :
    SameStore item state state :=
  ⟨rfl, AgreeOn.refl _ _ _⟩

theorem SameStore.modifyStatus
    (same : SameStore item left right)
    (change : EnumeratorStatus → EnumeratorStatus) :
    SameStore item (modifyStatus left item change)
      (ItemStore.modifyStatus right item change) := by
  refine ⟨?_, same.memory⟩
  simp only [ItemStore.modifyStatus, modifyInfo_same, same.info]

/-- Headers of the pages of the store agree. -/
theorem SameStore.headerAt
    (same : SameStore item left right)
    (inStore : InStore item page) :
    headerAt right.flash.memory page = headerAt left.flash.memory page := by
  have inside := (geometry item).pageOf_inside
    (page - (geometry item).firstPage)
  rw [inStore.pageOf] at inside
  refine headerAt_congr (readBytes_congr (same.memory.mono inside.1 ?_))
  exact Nat.le_trans (by simp [pageHeaderSize, flashPageSize]) inside.2

theorem SameStore.nextPosition
    (same : SameStore item left right)
    (static : StaticInfo item (left.itemStore item))
    (onPage : OnPage item (left.itemStore item).enumeratorStatus) :
    nextPosition right item = nextPosition left item := by
  have inStore := nextPageOf_inStore onPage.pageId
  rw [← nextPageNr_eq static] at inStore
  have header := same.headerAt inStore
  simp only [ItemStore.nextPosition, same.info, header]

/-- `ItemStore_GetNext` returns the same where its store is the same. -/
theorem SameStore.getNext
    (same : SameStore item left right)
    (located : Located item left)
    (positioned : Positioned item left enumerator) :
    (getNext right enumerator).2 = (getNext left enumerator).2 ∧
      SameStore item (getNext left enumerator).1
        (ItemStore.getNext right enumerator).1 := by
  cases more : enumerator.hasMoreItems with
  | false =>
      have nothing (state : ItemStoreState) :
          ItemStore.getNext state enumerator = (state, enumerator, none) := by
        simp [ItemStore.getNext, more]
      rw [nothing, nothing]
      exact ⟨rfl, same⟩
  | true =>
      obtain ⟨details, onPage⟩ := positioned more
      have own := onPage.itemId
      have nextLeft := getNext_eq more details own
      rw [← same.info] at own
      have nextRight := getNext_eq more details own
      simp only [same.nextPosition located.static onPage] at nextLeft nextRight
      rw [nextLeft, nextRight]
      by_cases found : (ItemStore.nextPosition left item).2 = false
      · rw [if_pos found, if_pos found]
        dsimp only
        exact ⟨rfl, same.modifyStatus _⟩
      · rw [if_neg found, if_neg found]
        obtain ⟨nextPage, before⟩ := nextPosition_onPage located onPage
          (by simpa using found)
        obtain ⟨aligned, lower, upper⟩ := nextPage.slotAddress before
        have bytes := readBytes_congr (same.memory.mono lower upper)
        simp only [same.info, located.static.itemSize_eq,
          nextPage.itemSize, Flash.read_eq _ _ aligned, bytes]
        exact ⟨trivial, same.modifyStatus _⟩

/-- A complete page leads to a page of the same store. -/
theorem Located.nextPage_inStore
    (located : Located item state)
    (inStore : InStore item page)
    (begun :
      beginTagIsConsistent (state.itemStore item)
        (headerAt state.flash.memory page) page = true)
    (complete :
      (headerAt state.flash.memory page).completeTag.magic = pageMagic) :
    InStore item
      (headerAt state.flash.memory page).completeTag.nextPage.toNat := by
  have magic :
      (headerAt state.flash.memory page).beginTag.magic = pageMagic := by
    simp only [beginTagIsConsistent, decide_eq_true_eq] at begun
    exact begun.1
  have programmed : ¬ Blank state.flash.memory page := by
    rw [blank_iff, ← (tagBytes_headerAt _ _).1,
      PageBeginTag.hasNoData_toBytes magic]
    simp
  have inUse := (located.pages page inStore).resolve_left programmed
  rw [inUse.nextPage (PageCompleteTag.hasNoData_toBytes complete)]
  exact nextPageOf_inStore inStore

/-- The search for the start position stays on the pages of the store. -/
theorem findStartLoop_inStore
    (fuel : Nat)
    (placed : Placed item state)
    {search found : StartSearch}
    (inStore : InStore item search.pageNr)
    (finished : (findStartLoop item fuel state search).2 = some found) :
    InStore item found.pageNr := by
  induction fuel generalizing state search with
  | zero => cases finished
  | succ fuel inductionHypothesis =>
      rw [findStartLoop, readHeader_headerAt] at finished
      simp only [modifyStatus, modifyInfo_same, consistent_withStatus]
        at finished
      have visited := changesStatus_modifyStatus state item
        fun status =>
          { status with
            enumeratingPage :=
              headerAt state.flash.memory search.pageNr }
      split at finished
      · cases finished
        exact inStore
      · rename_i begun
        split at finished
        · rename_i complete
          have next := placed.toLocated.nextPage_inStore inStore
            (not_not.mp begun) complete
          have either (skips : Prop) [Decidable skips] :
              InStore item
                (if skips then
                  (headerAt state.flash.memory
                    search.pageNr).completeTag.nextPage.toNat
                else
                  search.pageNr) := by
            split
            · exact next
            · exact inStore
          split at finished
          · refine inductionHypothesis ?_ ?_ finished
            · exact visited.sameContent.placed placed
            · exact either _
          · cases finished
            exact either _
        · cases finished
          exact inStore

/-- A started enumeration stands on a page of its store. -/
theorem beginEnumerate_positioned
    (placed : Placed item state)
    (enumerator : Enumerator) :
    Positioned item (beginEnumerate state item enumerator).1
      (beginEnumerate state item enumerator).2.1 := by
  simp only [beginEnumerate]
  generalize begun_eq : modifyStatus state item _ = begun
  have begunPlaced : Placed item begun := by
    rw [← begun_eq]
    exact (changesStatus_modifyStatus state item _).sameContent.placed placed
  have searched :=
    (findEnumeratorStartPosition_searchesStatus begun item).changesStatus
  have inStore : ∀ start,
      (findEnumeratorStartPosition begun item).2 = some start →
      InStore item start.1 := by
    intro start found
    simp only [findEnumeratorStartPosition] at found
    split at found
    · cases found
    · rename_i search finished
      split at found
      · cases found
      · cases found
        exact findStartLoop_inStore _ begunPlaced begunPlaced.oldest finished
  generalize findEnumeratorStartPosition begun item = outcome
    at searched inStore
  obtain ⟨middle, position⟩ := outcome
  cases position with
  | none =>
      intro again
      cases again
  | some start =>
      have located := (searched.sameContent.placed begunPlaced).toLocated
      have initialised := initEnumeratorStatus_eq middle item start.1 start.2
      simp only at initialised ⊢
      cases ready : (initialisedStatus (middle.itemStore item)
          (headerAt middle.flash.memory start.1) start.1 start.2).2 with
      | false =>
          rw [initialised, ready]
          intro again
          cases again
      | true =>
          rw [initialised, ready]
          intro _
          refine ⟨rfl, ?_⟩
          simp only [modifyStatus, modifyInfo_same]
          exact (initialisedStatus_onPage located (inStore start rfl)
            ready).1

end Reads

end DemoBoard.ItemStore
