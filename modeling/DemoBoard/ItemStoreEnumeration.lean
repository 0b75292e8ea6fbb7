import DemoBoard.ItemStoreRetention

namespace DemoBoard.ItemStore

open ByteMemory

/-!
# Enumerating items

`BeginEnumerate` walks over the page headers to find the start position and
`ItemStore_GetNext` reads from there, moving on to the next page at the end of
each page.  `Reading` is the invariant of a running enumeration; the items it
delivers are a segment of the log.
-/

/-- The successive successful `ItemStore_GetNext` calls return these items. -/
def Delivers :
    ItemStoreState → Enumerator → List (List Byte) → Prop
  | state, enumerator, [] => (getNext state enumerator).2.2 = none
  | state, enumerator, data :: rest =>
      (getNext state enumerator).2.2 = some data ∧
        Delivers (getNext state enumerator).1
          (getNext state enumerator).2.1 rest

/-- An enumeration delivers one list of items only. -/
theorem Delivers.unique
    {state : ItemStoreState}
    {enumerator : Enumerator}
    {left right : List (List Byte)}
    (leftDelivers : Delivers state enumerator left)
    (rightDelivers : Delivers state enumerator right) :
    left = right := by
  induction left generalizing state enumerator right with
  | nil =>
      cases right with
      | nil => rfl
      | cons data rest =>
          simp only [Delivers] at leftDelivers rightDelivers
          rw [leftDelivers] at rightDelivers
          cases rightDelivers.1
  | cons data rest inductionHypothesis =>
      cases right with
      | nil =>
          simp only [Delivers] at leftDelivers rightDelivers
          rw [rightDelivers] at leftDelivers
          cases leftDelivers.1
      | cons other others =>
          simp only [Delivers] at leftDelivers rightDelivers
          rw [leftDelivers.1] at rightDelivers
          rw [Option.some.inj rightDelivers.1,
            inductionHypothesis leftDelivers.2 rightDelivers.2]

/-- A client's enumerator before it is passed to `ItemStore_BeginEnumerate`. -/
def enumeratorFrom (startIndex : Int) : Enumerator where
  hasMoreItems := false
  startIndex := startIndex
  enumeratorDetails := none

@[simp] theorem modifyStatus_flash
    (state : ItemStoreState)
    (item : ItemDef)
    (change : EnumeratorStatus → EnumeratorStatus) :
    (modifyStatus state item change).flash = state.flash :=
  rfl

@[simp] theorem modifyStatus_same
    (state : ItemStoreState)
    (item : ItemDef)
    (change : EnumeratorStatus → EnumeratorStatus) :
    ((modifyStatus state item change).itemStore item).enumeratorStatus =
      change (state.itemStore item).enumeratorStatus := by
  simp [modifyStatus]

@[simp] theorem modifyStatus_modifyStatus
    (state : ItemStoreState)
    (item : ItemDef)
    (first second : EnumeratorStatus → EnumeratorStatus) :
    modifyStatus (modifyStatus state item first) item second =
      modifyStatus state item fun status => second (first status) := by
  simp [modifyStatus]

section Enumeration

variable {item : ItemDef}
variable {log : StoreLog}
variable {stale : Nat}
variable {state : ItemStoreState}

/-- Enumerating does not touch what describes the log. -/
theorem Tracks.modifyStatus
    (tracks : Tracks item log stale state)
    (change : EnumeratorStatus → EnumeratorStatus) :
    Tracks item log stale (modifyStatus state item change) :=
  { tracks with
    info := by
      rw [ItemStore.modifyStatus, modifyInfo_same]
      exact { tracks.info with } }

/-- The registered callback is not part of what describes the log. -/
theorem Tracks.registerCallback
    (tracks : Tracks item log stale state)
    (callback : EnumeratorCallback) :
    Tracks item log stale (registerCallback state item callback) :=
  { tracks with
    info := by
      rw [ItemStore.registerCallback, modifyInfo_same]
      exact { tracks.info with } }

/-- The number of items the metadata gives for a page. -/
def pageCount
    (item : ItemDef) (log : StoreLog) (stale ordinal : Nat) : Nat :=
  if ordinal = log.closed then
    if log.opened then log.slot (geometry item) else stale
  else
    (geometry item).capacity

/-- An erased begin tag is not consistent. -/
theorem beginTagIsConsistent_erased
    (info : ItemStoreInfo)
    {header : PageHeader}
    (page : Nat)
    (blank : header.beginTag = PageBeginTag.erased) :
    beginTagIsConsistent info header page = false := by
  have noMagic : PageBeginTag.erased.magic ≠ pageMagic := by
    decide
  simp [beginTagIsConsistent, blank, noMagic]

/-- Only the current page is the next write page. -/
theorem pageOf_eq_current_iff
    (spacious : log.Spacious (geometry item))
    {ordinal : Nat}
    (lower : log.oldest ≤ ordinal)
    (upper : ordinal < log.oldest + (geometry item).nrOfPages) :
    (geometry item).pageOf ordinal = (geometry item).pageOf log.closed ↔
      ordinal = log.closed := by
  constructor
  · exact (geometry item).pageOf_injective lower upper
      spacious.wellFormed.oldest_le spacious.inWindow
  · intro same
    rw [same]

/-- The enumerator status that `InitEnumeratorStatus` sets up. -/
def statusAt
    (item : ItemDef) (log : StoreLog) (stale ordinal startIndex : Nat)
    (status : EnumeratorStatus) : EnumeratorStatus :=
  { status with
    currentIndex := startIndex
    enumeratingPage := headerOf item log ordinal
    itemsOnPage := pageCount item log stale ordinal }

/-- `InitEnumeratorStatus` of a page in use. -/
theorem initEnumeratorStatus_inUse
    (tracks : Tracks item log stale state)
    (spacious : log.Spacious (geometry item))
    {ordinal : Nat}
    (lower : log.oldest ≤ ordinal)
    (inUse : InUse log ordinal)
    (startIndex : Nat) :
    initEnumeratorStatus state item ((geometry item).pageOf ordinal)
        startIndex =
      (modifyStatus state item (statusAt item log stale ordinal startIndex),
        decide (startIndex < pageCount item log stale ordinal)) := by
  have upper := inUse.lt_window tracks.wellFormed
  have holds := tracks.image ordinal lower upper
  have read :
      readHeader
          (modifyStatus state item fun status =>
            { status with currentIndex := startIndex })
          ((geometry item).pageOf ordinal) =
        some (headerOf item log ordinal) :=
    readHeader_eq holds
  have visited := (tracks.modifyStatus
    (fun status =>
      { status with
        currentIndex := startIndex
        enumeratingPage := headerOf item log ordinal })).info
  have tag :
      (headerOf item log ordinal).beginTag = beginTagOf item log ordinal :=
    if_pos inUse
  have consistent :=
    beginTagIsConsistent_eq visited.toStaticInfo tag
  have samePage := pageOf_eq_current_iff spacious lower upper
  simp only [initEnumeratorStatus, read, modifyStatus_modifyStatus,
    consistent, not_true_eq_false, ↓reduceIte]
  rw [visited.nextPage_eq]
  rcases inUse with closed | ⟨current, opened⟩
  · have different : ordinal ≠ log.closed := by omega
    have completeTag :
        (headerOf item log ordinal).completeTag =
          completeTagOf item log ordinal := if_pos closed
    have complete :=
      completeTagIsConsistent_eq visited.toStaticInfo completeTag
    rw [if_neg (by rw [samePage]; exact different), complete,
      itemsOnFullPage_eq visited.toStaticInfo]
    have count : pageCount item log stale ordinal = (geometry item).capacity :=
      if_neg different
    unfold statusAt
    simp only [not_true_eq_false, ↓reduceIte, count]
  · rw [if_pos (by rw [samePage]; exact current),
      visited.currentPageNrOfItems_eq]
    have count :
        pageCount item log stale ordinal = log.slot (geometry item) := by
      rw [pageCount, if_pos current, if_pos opened]
    unfold statusAt
    simp only [opened, ↓reduceIte, count]

/-- `InitEnumeratorStatus` of a page that is not in use. -/
theorem initEnumeratorStatus_notInUse
    (tracks : Tracks item log stale state)
    {ordinal : Nat}
    (lower : log.oldest ≤ ordinal)
    (upper : ordinal < log.oldest + (geometry item).nrOfPages)
    (notInUse : ¬ InUse log ordinal)
    (startIndex : Nat) :
    (initEnumeratorStatus state item ((geometry item).pageOf ordinal)
        startIndex).2 = false := by
  have holds := tracks.image ordinal lower upper
  have read :
      readHeader
          (modifyStatus state item fun status =>
            { status with currentIndex := startIndex })
          ((geometry item).pageOf ordinal) =
        some (headerOf item log ordinal) :=
    readHeader_eq holds
  have blank :
      (headerOf item log ordinal).beginTag = PageBeginTag.erased :=
    if_neg notInUse
  simp only [initEnumeratorStatus, read,
    beginTagIsConsistent_erased _ _ blank, Bool.false_eq_true,
    not_false_eq_true, ↓reduceIte]

/--
A running enumeration.  `slot` is the read index on page `ordinal`, `taken` the
number of items read so far.
-/
structure Reading
    (item : ItemDef) (log : StoreLog) (stale ordinal slot taken : Nat)
    (skipped total : Nat) (state : ItemStoreState)
    (enumerator : Enumerator) : Prop where
  tracks : Tracks item log stale state
  lower : log.oldest ≤ ordinal
  inUse : InUse log ordinal
  details_eq : enumerator.enumeratorDetails = some item
  page_eq :
    (state.itemStore item).enumeratorStatus.enumeratingPage =
      headerOf item log ordinal
  index_eq :
    (state.itemStore item).enumeratorStatus.currentIndex = slot
  onPage_eq :
    (state.itemStore item).enumeratorStatus.itemsOnPage =
      pageCount item log stale ordinal
  taken_eq : (state.itemStore item).enumeratorStatus.itemsRead = taken
  skipped_eq :
    (state.itemStore item).enumeratorStatus.itemsToSkip = skipped
  total_eq :
    (state.itemStore item).enumeratorStatus.totalNrOfItems = total

/-- The begin tag of a page in use. -/
theorem beginTag_headerOf
    {ordinal : Nat}
    (inUse : InUse log ordinal) :
    (headerOf item log ordinal).beginTag = beginTagOf item log ordinal :=
  if_pos inUse

/-- Reading an item of the page. -/
theorem Reading.getNext_slot
    {ordinal slot taken skipped total : Nat}
    {enumerator : Enumerator}
    (reading :
      Reading item log stale ordinal slot taken skipped total state
        enumerator)
    (more : enumerator.hasMoreItems = true)
    (inside : slot < pageCount item log stale ordinal)
    {data : List Byte}
    (found : (pageItems item log ordinal)[slot]? = some data)
    (slotSmall : slot + 1 < 65536)
    (takenSmall : taken + 1 < 65536) :
    ∃ next nextEnumerator,
      getNext state enumerator = (next, nextEnumerator, some data) ∧
      Reading item log stale ordinal (slot + 1) (taken + 1) skipped total
        next nextEnumerator ∧
      nextEnumerator.hasMoreItems = decide (taken + 1 + skipped < total)
    := by
  have holds := reading.tracks.image ordinal reading.lower
    (reading.inUse.lt_window reading.tracks.wellFormed)
  have stored := holds.item_eq slot data found
  have tag := @beginTag_headerOf item log ordinal reading.inUse
  have small := (geometry item).itemSize_le
  have size :
      (beginTagOf item log ordinal).itemSize.toNat =
        (geometry item).itemSize := by
    rw [beginTagOf, UInt8.toNat_ofNat', Nat.mod_eq_of_lt (by omega)]
  have page :
      (beginTagOf item log ordinal).pageId.toNat =
        (geometry item).pageOf ordinal :=
    (geometry item).toNat_pageOf ordinal
  have aligned := (geometry item).slotAddress_aligned
    ((geometry item).pageOf ordinal) slot
  have read :
      state.flash.read
          (slotAddress (geometry item).itemSize
            ((geometry item).pageOf ordinal) slot)
          (geometry item).itemSize =
        some data := by
    rw [Flash.read_eq _ _ aligned, stored]
  rw [slotAddress] at read
  have itemId :
      ItemDef.ofByte? (beginTagOf item log ordinal).itemId = some item :=
    ItemDef.ofByte?_toByte item
  refine
    ⟨modifyStatus state item fun status =>
        { status with
          currentIndex := (status.currentIndex + 1) % 65536
          itemsRead := (status.itemsRead + 1) % 65536 },
      { enumerator with
        hasMoreItems := decide (taken + 1 + skipped < total) },
      ?_, ?_, rfl⟩
  · simp only [getNext, more, not_true_eq_false, ↓reduceIte,
      reading.details_eq, reading.page_eq, reading.index_eq,
      reading.onPage_eq, tag, itemId, size, page,
      Nat.ne_of_lt inside, Bool.true_eq_false,
      reading.tracks.info.itemSize_eq, read, modifyStatus_same,
      reading.taken_eq, reading.skipped_eq, reading.total_eq,
      Nat.mod_eq_of_lt takenSmall]
  · exact
      { tracks := reading.tracks.modifyStatus _
        lower := reading.lower
        inUse := reading.inUse
        details_eq := reading.details_eq
        page_eq := by
          rw [modifyStatus_same]
          exact reading.page_eq
        index_eq := by
          rw [modifyStatus_same, reading.index_eq,
            Nat.mod_eq_of_lt slotSmall]
        onPage_eq := by
          rw [modifyStatus_same]
          exact reading.onPage_eq
        taken_eq := by
          rw [modifyStatus_same, reading.taken_eq,
            Nat.mod_eq_of_lt takenSmall]
        skipped_eq := by
          rw [modifyStatus_same]
          exact reading.skipped_eq
        total_eq := by
          rw [modifyStatus_same]
          exact reading.total_eq }

/-- At the end of a page `ItemStore_GetNext` continues on the next page. -/
theorem Reading.getNext_turn
    {ordinal taken skipped total : Nat}
    {enumerator : Enumerator}
    (reading :
      Reading item log stale ordinal (pageCount item log stale ordinal)
        taken skipped total state enumerator)
    (spacious : log.Spacious (geometry item))
    (more : enumerator.hasMoreItems = true)
    (nextInUse : InUse log (ordinal + 1))
    (someItem : 0 < pageCount item log stale (ordinal + 1)) :
    ∃ turned,
      getNext state enumerator = getNext turned enumerator ∧
      Reading item log stale (ordinal + 1) 0 taken skipped total turned
        enumerator := by
  have tag := @beginTag_headerOf item log ordinal reading.inUse
  have nextTag := @beginTag_headerOf item log (ordinal + 1) nextInUse
  have page :
      (beginTagOf item log ordinal).pageId.toNat =
        (geometry item).pageOf ordinal :=
    (geometry item).toNat_pageOf ordinal
  have itemId :
      ItemDef.ofByte? (beginTagOf item log ordinal).itemId = some item :=
    ItemDef.ofByte?_toByte item
  have nextItemId :
      ItemDef.ofByte? (beginTagOf item log (ordinal + 1)).itemId =
        some item :=
    ItemDef.ofByte?_toByte item
  have initialised := initEnumeratorStatus_inUse reading.tracks spacious
    (Nat.le_succ_of_le reading.lower) nextInUse 0
  have nextPage := nextPageNr_pageOf reading.tracks.info.toStaticInfo
    ordinal
  have notEnd : 0 ≠ pageCount item log stale (ordinal + 1) := by
    omega
  refine
    ⟨modifyStatus state item (statusAt item log stale (ordinal + 1) 0),
      ?_, ?_⟩
  · simp only [getNext, more, not_true_eq_false, ↓reduceIte,
      reading.details_eq, reading.page_eq, reading.index_eq,
      reading.onPage_eq, tag, itemId, page, nextPage, initialised,
      someItem, decide_true, Bool.true_eq_false, modifyStatus_same,
      statusAt, nextTag, nextItemId, notEnd]
  · exact
      { tracks := reading.tracks.modifyStatus _
        lower := Nat.le_succ_of_le reading.lower
        inUse := nextInUse
        details_eq := reading.details_eq
        page_eq := by rw [modifyStatus_same]; rfl
        index_eq := by rw [modifyStatus_same]; rfl
        onPage_eq := by rw [modifyStatus_same]; rfl
        taken_eq := by
          rw [modifyStatus_same]
          exact reading.taken_eq
        skipped_eq := by
          rw [modifyStatus_same]
          exact reading.skipped_eq
        total_eq := by
          rw [modifyStatus_same]
          exact reading.total_eq }

/-- `ItemStore_GetNext` fails where the next page is not in use. -/
theorem Reading.getNext_end
    {ordinal taken skipped total : Nat}
    {enumerator : Enumerator}
    (reading :
      Reading item log stale ordinal (pageCount item log stale ordinal)
        taken skipped total state enumerator)
    (upper : ordinal + 1 < log.oldest + (geometry item).nrOfPages)
    (nextNotInUse : ¬ InUse log (ordinal + 1)) :
    (getNext state enumerator).2.2 = none := by
  have tag := @beginTag_headerOf item log ordinal reading.inUse
  have page :
      (beginTagOf item log ordinal).pageId.toNat =
        (geometry item).pageOf ordinal :=
    (geometry item).toNat_pageOf ordinal
  have itemId :
      ItemDef.ofByte? (beginTagOf item log ordinal).itemId = some item :=
    ItemDef.ofByte?_toByte item
  have failed := initEnumeratorStatus_notInUse reading.tracks
    (Nat.le_succ_of_le reading.lower) upper nextNotInUse 0
  have nextPage := nextPageNr_pageOf reading.tracks.info.toStaticInfo
    ordinal
  cases more : enumerator.hasMoreItems with
  | false => simp [getNext, more]
  | true =>
      simp only [getNext, more, not_true_eq_false, ↓reduceIte,
        reading.details_eq, reading.page_eq, reading.index_eq,
        reading.onPage_eq, tag, itemId, page, nextPage, failed]

/-- The count of a page in use is the number of its items. -/
theorem pageCount_inUse
    (spacious : log.Spacious (geometry item))
    {ordinal : Nat}
    (inUse : InUse log ordinal) :
    pageCount item log stale ordinal =
      (pageItems item log ordinal).length := by
  rcases inUse with closed | ⟨current, opened⟩
  · rw [pageCount, if_neg (Nat.ne_of_lt closed), pageItems,
      SegmentedLog.length_segment_of_lt (by rwa [← spacious.closed_eq])]
  · rw [current, spacious.wellFormed.length_pageItems, pageCount,
      if_pos rfl, if_pos opened]

/-- The item at a position of the log is on the page of that position. -/
theorem pageItems_getElem?
    (ordinal : Nat)
    {slot : Nat}
    (inside : slot < (geometry item).capacity) :
    (pageItems item log ordinal)[slot]? =
      log.items[ordinal * (geometry item).capacity + slot]? :=
  SegmentedLog.getElem?_segment inside log.items ordinal

/-- The page of a position of the log is in use. -/
theorem inUse_of_position
    (spacious : log.Spacious (geometry item))
    {ordinal : Nat}
    (inside :
      ordinal * (geometry item).capacity < log.items.length) :
    InUse log ordinal := by
  have upper := spacious.wellFormed.items_le
  have room := spacious.room
  rw [StoreLog.slot] at room
  rcases Nat.lt_trichotomy ordinal log.closed with before | here | after
  · exact Or.inl before
  · refine Or.inr ⟨here, ?_⟩
    by_contra notOpened
    have shape := spacious.wellFormed.items_eq
      (Bool.eq_false_of_not_eq_true notOpened)
    rw [here] at inside
    omega
  · have large := Nat.mul_le_mul_right (geometry item).capacity
      (show log.closed + 1 ≤ ordinal from after)
    rw [Nat.succ_mul] at large
    omega

/-- A running enumeration that stands before an item returns that item. -/
theorem Reading.getNext_item
    (spacious : log.Spacious (geometry item))
    {ordinal slot taken skipped total : Nat}
    {enumerator : Enumerator}
    (reading :
      Reading item log stale ordinal slot taken skipped total state
        enumerator)
    (more : enumerator.hasMoreItems = true)
    (onPage : slot ≤ pageCount item log stale ordinal)
    (inside :
      ordinal * (geometry item).capacity + slot < log.items.length)
    (takenSmall : taken + 1 < 65536) :
    ∃ next nextEnumerator nextOrdinal nextSlot,
      getNext state enumerator =
        (next, nextEnumerator,
          some log.items[ordinal * (geometry item).capacity + slot]) ∧
      Reading item log stale nextOrdinal nextSlot (taken + 1) skipped total
        next nextEnumerator ∧
      nextEnumerator.hasMoreItems = decide (taken + 1 + skipped < total) ∧
      nextSlot ≤ pageCount item log stale nextOrdinal ∧
      nextOrdinal * (geometry item).capacity + nextSlot =
        ordinal * (geometry item).capacity + slot + 1 := by
  have capacityLe := (geometry item).capacity_le
  have capacityPos := (geometry item).capacity_pos
  have counted :=
    @pageCount_inUse item log stale spacious ordinal reading.inUse
  have countLe :
      (pageItems item log ordinal).length ≤ (geometry item).capacity := by
    rw [pageItems, SegmentedLog.length_segment]
    omega
  rcases Nat.lt_or_eq_of_le onPage with onThisPage | atEnd
  · have found :
        (pageItems item log ordinal)[slot]? =
          some log.items[ordinal * (geometry item).capacity + slot] := by
      rw [pageItems_getElem? ordinal (by omega)]
      exact List.getElem?_eq_getElem inside
    obtain ⟨next, nextEnumerator, got, nextReading, nextMore⟩ :=
      reading.getNext_slot more onThisPage found (by omega) takenSmall
    exact ⟨next, nextEnumerator, ordinal, slot + 1, got, nextReading,
      nextMore, by omega, by omega⟩
  · have full : slot = (geometry item).capacity := by
      rcases reading.inUse with closed | ⟨current, opened⟩
      · rw [atEnd, pageCount, if_neg (Nat.ne_of_lt closed)]
      · have lower := spacious.wellFormed.items_ge
        rw [pageCount, if_pos current, if_pos opened, StoreLog.slot]
          at atEnd
        rw [current] at inside
        omega
    have position :
        ordinal * (geometry item).capacity + slot =
          (ordinal + 1) * (geometry item).capacity := by
      rw [Nat.succ_mul, full]
    simp only [position] at inside ⊢
    have nextInUse := inUse_of_position spacious inside
    have nextCounted :=
      @pageCount_inUse item log stale spacious _ nextInUse
    have someItem : 0 < pageCount item log stale (ordinal + 1) := by
      rw [nextCounted, pageItems, SegmentedLog.length_segment]
      omega
    rw [atEnd] at reading
    obtain ⟨turned, same, turnedReading⟩ :=
      reading.getNext_turn spacious more nextInUse someItem
    have found :
        (pageItems item log (ordinal + 1))[0]? =
          some log.items[(ordinal + 1) * (geometry item).capacity] := by
      rw [pageItems_getElem? _ capacityPos, Nat.add_zero]
      exact List.getElem?_eq_getElem inside
    obtain ⟨next, nextEnumerator, got, nextReading, nextMore⟩ :=
      turnedReading.getNext_slot more someItem found (by omega) takenSmall
    exact ⟨next, nextEnumerator, ordinal + 1, 1, same.trans got,
      nextReading, nextMore, by omega, by omega⟩

/--
A running enumeration delivers the items from its position on, until the
announced number of items is taken or the last closed page ends.
-/
theorem Reading.delivers
    (spacious : log.Spacious (geometry item))
    {skipped total : Nat}
    (totalSmall : total < 65536)
    (remaining : Nat)
    {ordinal slot taken : Nat}
    {enumerator : Enumerator}
    (reading :
      Reading item log stale ordinal slot taken skipped total state
        enumerator)
    (left : remaining = total - (taken + skipped))
    (more :
      enumerator.hasMoreItems = decide (taken + skipped < total))
    (onPage : slot ≤ pageCount item log stale ordinal)
    (enough :
      remaining + (ordinal * (geometry item).capacity + slot) ≤
          log.items.length ∨
        log.opened = false) :
    Delivers state enumerator
      ((log.items.drop
        (ordinal * (geometry item).capacity + slot)).take remaining) := by
  induction remaining generalizing state enumerator ordinal slot taken with
  | zero =>
      have exhausted : enumerator.hasMoreItems = false := by
        rw [more, decide_eq_false_iff_not]
        omega
      simp [Delivers, getNext, exhausted]
  | succ remaining inductionHypothesis =>
      have hasMore : enumerator.hasMoreItems = true := by
        rw [more, decide_eq_true_eq]
        omega
      by_cases inside :
          ordinal * (geometry item).capacity + slot < log.items.length
      · rw [List.drop_eq_getElem_cons inside, List.take_succ_cons]
        obtain ⟨next, nextEnumerator, _, _, got, nextReading, nextMore,
            nextOnPage, position⟩ :=
          reading.getNext_item spacious hasMore onPage inside (by omega)
        have rest := inductionHypothesis nextReading (by omega) nextMore
          nextOnPage (enough.imp_left fun bound => by omega)
        rw [position] at rest
        rw [Delivers, got]
        exact ⟨rfl, rest⟩
      · have notOpened : log.opened = false := by
          rcases enough with bound | notOpened
          · omega
          · exact notOpened
        have shape := spacious.wellFormed.items_eq notOpened
        have closed : ordinal < log.closed := by
          rcases reading.inUse with closed | ⟨_, opened⟩
          · exact closed
          · rw [notOpened] at opened
            cases opened
        have count :
            pageCount item log stale ordinal =
              (geometry item).capacity := by
          rw [pageCount, if_neg (Nat.ne_of_lt closed)]
        have capacityPos := (geometry item).capacity_pos
        have last : ordinal + 1 = log.closed := by
          by_contra earlier
          have large := Nat.mul_le_mul_right (geometry item).capacity
            (show ordinal + 1 + 1 ≤ log.closed by omega)
          rw [Nat.succ_mul, Nat.succ_mul] at large
          omega
        have atEnd : slot = pageCount item log stale ordinal := by
          rw [← last, Nat.succ_mul] at shape
          omega
        rw [atEnd] at reading
        rw [List.drop_eq_nil_of_le (by omega), List.take_nil, Delivers]
        apply reading.getNext_end
        · rw [last]
          exact spacious.inWindow
        · rw [last, InUse, notOpened]
          simp

/-- The enumerator status after a page header is read. -/
def setPage
    (header : PageHeader) (status : EnumeratorStatus) :
    EnumeratorStatus :=
  { status with enumeratingPage := header }

/-- One step of the start search on a closed page. -/
theorem findStartLoop_closed
    (tracks : Tracks item log stale state)
    {ordinal : Nat}
    (lower : log.oldest ≤ ordinal)
    (closed : ordinal < log.closed)
    (fuel : Nat)
    (skipping : Int)
    (itemsOnPage : Nat) :
    findStartLoop item (fuel + 1) state
        { pageNr := (geometry item).pageOf ordinal
          skipping := skipping
          itemsOnPage := itemsOnPage } =
      let visited :=
        modifyStatus state item (setPage (headerOf item log ordinal))
      let rest := skipping - (geometry item).capacity
      let search : StartSearch :=
        { pageNr :=
            if rest > 0 then
              (geometry item).pageOf (ordinal + 1)
            else
              (geometry item).pageOf ordinal
          skipping := rest
          itemsOnPage := (geometry item).capacity }
      if rest ≥ 0 then
        findStartLoop item fuel visited search
      else
        (visited, some search) := by
  have inUse : InUse log ordinal := Or.inl closed
  have holds := tracks.image ordinal lower
    (inUse.lt_window tracks.wellFormed)
  have read := readHeader_eq holds
  have visited := (tracks.modifyStatus
    (setPage (headerOf item log ordinal))).info.toStaticInfo
  have consistent := beginTagIsConsistent_eq visited
    (beginTag_headerOf inUse)
  have capacity := itemsOnFullPage_eq visited
  have completeTag :
      (headerOf item log ordinal).completeTag =
        completeTagOf item log ordinal := if_pos closed
  have magic : (completeTagOf item log ordinal).magic = pageMagic := rfl
  have nextPage :
      (completeTagOf item log ordinal).nextPage.toNat =
        (geometry item).pageOf (ordinal + 1) :=
    (geometry item).toNat_pageOf (ordinal + 1)
  unfold setPage at consistent capacity ⊢
  simp only [findStartLoop, read, consistent, not_true_eq_false,
    ↓reduceIte, completeTag, magic, nextPage, capacity]

/-- The start search stops on the open page. -/
theorem findStartLoop_opened
    (tracks : Tracks item log stale state)
    (opened : log.opened = true)
    (fuel : Nat)
    (skipping : Int)
    (itemsOnPage : Nat) :
    findStartLoop item (fuel + 1) state
        { pageNr := (geometry item).pageOf log.closed
          skipping := skipping
          itemsOnPage := itemsOnPage } =
      (modifyStatus state item (setPage (headerOf item log log.closed)),
        some
          { pageNr := (geometry item).pageOf log.closed
            skipping := skipping - log.slot (geometry item)
            itemsOnPage := log.slot (geometry item) }) := by
  have inUse : InUse log log.closed := Or.inr ⟨rfl, opened⟩
  have holds := tracks.image log.closed tracks.wellFormed.oldest_le
    (inUse.lt_window tracks.wellFormed)
  have read := readHeader_eq holds
  have visited := (tracks.modifyStatus
    (setPage (headerOf item log log.closed))).info
  have consistent := beginTagIsConsistent_eq visited.toStaticInfo
    (beginTag_headerOf inUse)
  have counted := visited.currentPageNrOfItems_eq
  rw [if_pos opened] at counted
  have completeTag :
      (headerOf item log log.closed).completeTag =
        PageCompleteTag.erased := if_neg (Nat.lt_irrefl _)
  unfold setPage at consistent counted ⊢
  simp only [findStartLoop, read, consistent, not_true_eq_false,
    ↓reduceIte, completeTag, PageCompleteTag.magic_erased, counted]

/-- The start search gives up on a page that is not in use. -/
theorem findStartLoop_notInUse
    (tracks : Tracks item log stale state)
    {ordinal : Nat}
    (lower : log.oldest ≤ ordinal)
    (upper : ordinal < log.oldest + (geometry item).nrOfPages)
    (notInUse : ¬ InUse log ordinal)
    (fuel : Nat)
    (skipping : Int)
    (itemsOnPage : Nat) :
    findStartLoop item (fuel + 1) state
        { pageNr := (geometry item).pageOf ordinal
          skipping := skipping
          itemsOnPage := itemsOnPage } =
      (modifyStatus state item (setPage (headerOf item log ordinal)),
        some
          { pageNr := (geometry item).pageOf ordinal
            skipping := skipping
            itemsOnPage := itemsOnPage }) := by
  have read := readHeader_eq (tracks.image ordinal lower upper)
  have blank :
      (headerOf item log ordinal).beginTag = PageBeginTag.erased :=
    if_neg notInUse
  unfold setPage
  simp only [findStartLoop, read, beginTagIsConsistent_erased _ _ blank,
    Bool.false_eq_true, not_false_eq_true, ↓reduceIte]

/--
The item at which an enumeration starts that is to skip a number of items on
closed pages: a search that ends exactly at the end of a page stays there.
-/
def startItem (capacity skipped : Nat) : Nat :=
  if capacity ∣ skipped then skipped - capacity else skipped

/-- Passing a page shifts the start by the capacity of the page. -/
theorem startItem_add
    {capacity skipped : Nat}
    (beyond : capacity < skipped) :
    capacity + startItem capacity (skipped - capacity) =
      startItem capacity skipped := by
  obtain ⟨rest, rfl⟩ := Nat.exists_eq_add_of_le (Nat.le_of_lt beyond)
  rw [Nat.add_sub_cancel_left, startItem, startItem]
  by_cases divides : capacity ∣ rest
  · have large := Nat.le_of_dvd (by omega) divides
    rw [if_pos divides, if_pos (Nat.dvd_add (Nat.dvd_refl _) divides)]
    omega
  · rw [if_neg divides, if_neg]
    intro whole
    exact divides ((Nat.dvd_add_right (Nat.dvd_refl _)).mp whole)

/-- The start search for a position on the closed pages. -/
theorem findStartLoop_onClosed
    (fuel skipped : Nat)
    (enough : skipped + 2 ≤ fuel)
    {state : ItemStoreState}
    (tracks : Tracks item log stale state)
    {ordinal : Nat}
    (lower : log.oldest ≤ ordinal)
    (closed : ordinal < log.closed)
    (within :
      skipped ≤ (log.closed - ordinal) * (geometry item).capacity)
    (itemsOnPage : Nat) :
    ∃ (header : PageHeader) (page slot : Nat),
      findStartLoop item fuel state
          { pageNr := (geometry item).pageOf ordinal
            skipping := skipped
            itemsOnPage := itemsOnPage } =
        (modifyStatus state item (setPage header),
          some
            { pageNr := (geometry item).pageOf page
              skipping := (slot : Int) - (geometry item).capacity
              itemsOnPage := (geometry item).capacity }) ∧
      ordinal ≤ page ∧ page < log.closed ∧
      slot < (geometry item).capacity ∧
      page * (geometry item).capacity + slot =
        ordinal * (geometry item).capacity +
          startItem (geometry item).capacity skipped := by
  induction fuel generalizing skipped state ordinal itemsOnPage with
  | zero => omega
  | succ fuel inductionHypothesis =>
      have positive := (geometry item).capacity_pos
      have visitedTracks := tracks.modifyStatus
        (setPage (headerOf item log ordinal))
      rw [findStartLoop_closed tracks lower closed]
      simp only
      rcases Nat.lt_trichotomy skipped (geometry item).capacity
        with inside | atEnd | beyond
      · refine ⟨headerOf item log ordinal, ordinal, skipped, ?_,
          Nat.le_refl _, closed, inside, ?_⟩
        · rw [if_neg (by omega), if_neg (by omega)]
        · congr 1
          rw [startItem]
          split
          · next divides =>
              rw [Nat.eq_zero_of_dvd_of_lt divides inside]
              omega
          · rfl
      · obtain ⟨more, rfl⟩ : ∃ more, fuel = more + 1 :=
          ⟨fuel - 1, by omega⟩
        refine ⟨headerOf item log ordinal, ordinal, 0, ?_, Nat.le_refl _,
          closed, positive, ?_⟩
        · rw [if_pos (by omega), if_neg (by omega),
            findStartLoop_closed visitedTracks lower closed]
          simp only
          rw [if_neg (by omega), if_neg (by omega),
            modifyStatus_modifyStatus, atEnd]
          simp only [Int.sub_self, Int.natCast_zero]
          rfl
        · rw [startItem, atEnd, if_pos (Nat.dvd_refl _)]
          omega
      · have further : ordinal + 1 < log.closed := by
          by_contra last
          have bound := Nat.mul_le_mul_right (geometry item).capacity
            (show log.closed - ordinal ≤ 1 by omega)
          omega
        have rest : log.closed - ordinal = log.closed - (ordinal + 1) + 1 :=
          by omega
        rw [rest, Nat.succ_mul] at within
        obtain ⟨header, page, slot, found, pageLower, pageUpper,
            slotSmall, position⟩ :=
          inductionHypothesis (skipped - (geometry item).capacity)
            (by omega) visitedTracks
            (show log.oldest ≤ ordinal + 1 by omega) further (by omega)
            (geometry item).capacity
        refine ⟨header, page, slot, ?_, by omega, pageUpper, slotSmall,
          ?_⟩
        · rw [if_pos (by omega), if_pos (by omega),
            ← Int.natCast_sub (by omega), found,
            modifyStatus_modifyStatus]
          rfl
        · rw [position, Nat.succ_mul, Nat.add_assoc, startItem_add beyond]

/-- The items on the current page that the headers account for. -/
def currentItems (item : ItemDef) (log : StoreLog) : Nat :=
  if log.opened then log.slot (geometry item) else 0

/-- The start search for a position behind the closed pages. -/
theorem findStartLoop_current
    (fuel skipped : Nat)
    (enough : skipped + 2 ≤ fuel)
    {state : ItemStoreState}
    (tracks : Tracks item log stale state)
    (inWindow : log.closed < log.oldest + (geometry item).nrOfPages)
    {ordinal : Nat}
    (lower : log.oldest ≤ ordinal)
    (upper : ordinal ≤ log.closed)
    (beyond :
      (log.closed - ordinal) * (geometry item).capacity < skipped ∨
        ordinal = log.closed)
    (itemsOnPage : Nat) :
    ∃ (header : PageHeader) (search : StartSearch),
      findStartLoop item fuel state
          { pageNr := (geometry item).pageOf ordinal
            skipping := skipped
            itemsOnPage := itemsOnPage } =
        (modifyStatus state item (setPage header), some search) ∧
      search.pageNr = (geometry item).pageOf log.closed ∧
      search.skipping =
        skipped - (log.closed - ordinal : Nat) * (geometry item).capacity -
          currentItems item log ∧
      (log.opened = true →
        search.itemsOnPage = log.slot (geometry item)) := by
  induction fuel generalizing skipped state ordinal itemsOnPage with
  | zero => omega
  | succ fuel inductionHypothesis =>
      have positive := (geometry item).capacity_pos
      rcases Nat.lt_or_eq_of_le upper with closed | current
      · have visitedTracks := tracks.modifyStatus
          (setPage (headerOf item log ordinal))
        have rest :
            log.closed - ordinal = log.closed - (ordinal + 1) + 1 := by
          omega
        have further :
            (log.closed - (ordinal + 1)) * (geometry item).capacity +
                (geometry item).capacity < skipped := by
          rcases beyond with bound | same
          · rw [rest, Nat.succ_mul] at bound
            exact bound
          · omega
        obtain ⟨header, search, found, page, skipping, onPage⟩ :=
          inductionHypothesis (skipped - (geometry item).capacity)
            (by omega) visitedTracks
            (show log.oldest ≤ ordinal + 1 by omega)
            (show ordinal + 1 ≤ log.closed by omega)
            (Or.inl (by omega)) (geometry item).capacity
        refine ⟨header, search, ?_, page, ?_, onPage⟩
        · rw [findStartLoop_closed tracks lower closed]
          simp only
          rw [if_pos (by omega), if_pos (by omega),
            ← Int.natCast_sub (by omega), found,
            modifyStatus_modifyStatus]
          rfl
        · rw [skipping, rest, Int.natCast_sub (by omega)]
          push_cast
          rw [Int.add_mul]
          omega
      · subst current
        rw [Nat.sub_self]
        cases opened : log.opened with
        | true =>
            refine ⟨_, _, findStartLoop_opened tracks opened fuel _ _,
              rfl, ?_, fun _ => rfl⟩
            simp [currentItems, opened]
        | false =>
            have notInUse : ¬ InUse log log.closed := by
              simp [InUse, opened]
            refine ⟨_, _, findStartLoop_notInUse tracks lower inWindow
              notInUse fuel _ _, rfl, ?_, ?_⟩
            · simp [currentItems, opened]
            · intro contradiction
              cases contradiction

/-- The item count that `BeginEnumerate` announces. -/
def announcedItems
    (item : ItemDef) (log : StoreLog) (stale : Nat) : Nat :=
  pageCount item log stale log.closed +
    (log.closed - log.oldest) * (geometry item).capacity

/-- `itemsToSkip` for a start index and an announced number of items. -/
def itemsToSkip (total : Nat) (startIndex : Int) : Nat :=
  if startIndex < 0 then
    (if (total : Int) + startIndex > 0 then
      ((total : Int) + startIndex) % 65536
    else
      0).toNat
  else
    (startIndex % 65536).toNat

/-- The enumerator status before the start position is searched. -/
def setTotals
    (total skipped : Nat) (status : EnumeratorStatus) :
    EnumeratorStatus :=
  { status with
    itemsRead := 0
    totalNrOfItems := total
    itemsToSkip := skipped }

/-- The state in which the start position is searched. -/
def prepared
    (state : ItemStoreState) (item : ItemDef) (total skipped : Nat) :
    ItemStoreState :=
  modifyStatus state item (setTotals total skipped)

/-- The announced count does not exceed the range of its variable. -/
theorem announcedItems_lt
    (spacious : log.Spacious (geometry item))
    (staleLe : stale ≤ (geometry item).capacity) :
    announcedItems item log stale < 65536 := by
  have capacityLe := (geometry item).capacity_le
  have few := (geometry item).nrOfPages_le
  have room := spacious.room
  have inWindow := spacious.inWindow
  have fullPages :
      (log.closed - log.oldest) * (geometry item).capacity ≤ 32 * 510 :=
    Nat.mul_le_mul (by omega) capacityLe
  have count :
      pageCount item log stale log.closed ≤ (geometry item).capacity := by
    rw [pageCount, if_pos rfl]
    split <;> omega
  rw [announcedItems]
  omega

/-- The number of items that `BeginEnumerate` announces. -/
theorem totalNrOfItems_eq
    (tracks : Tracks item log stale state)
    (spacious : log.Spacious (geometry item))
    (staleLe : stale ≤ (geometry item).capacity) :
    ((state.itemStore item).currentPageNrOfItems +
        (state.itemStore item).nrOfFullPages *
          itemsOnFullPage (state.itemStore item)) % 65536 =
      announcedItems item log stale := by
  have small := announcedItems_lt spacious staleLe
  have count :
      (state.itemStore item).currentPageNrOfItems =
        pageCount item log stale log.closed := by
    rw [tracks.info.currentPageNrOfItems_eq, pageCount, if_pos rfl]
  rw [itemsOnFullPage_eq tracks.info.toStaticInfo, count,
    tracks.info.nrOfFullPages_eq]
  exact Nat.mod_eq_of_lt small

/-- `BeginEnumerate` in terms of its two helper functions. -/
theorem beginEnumerate_eq
    {startIndex : Int}
    {total skipped : Nat}
    (announced :
      ((state.itemStore item).currentPageNrOfItems +
          (state.itemStore item).nrOfFullPages *
            itemsOnFullPage (state.itemStore item)) % 65536 = total)
    (skip : itemsToSkip total startIndex = skipped) :
    beginEnumerate state item (enumeratorFrom startIndex) =
      match
        findEnumeratorStartPosition (prepared state item total skipped)
          item with
      | (state, none) => (state, enumeratorFrom startIndex, false)
      | (state, some (startPage, startSlot)) =>
          match initEnumeratorStatus state item startPage startSlot with
          | (state, false) => (state, enumeratorFrom startIndex, false)
          | (state, true) =>
              let status := (state.itemStore item).enumeratorStatus
              (modifyInfo state item fun info =>
                { info with currentState := .enumerating },
                { enumeratorFrom startIndex with
                  enumeratorDetails := some item
                  hasMoreItems := status.itemsOnPage > status.currentIndex },
                true) := by
  subst skip announced
  simp only [beginEnumerate]
  rfl

/-- `FindEnumeratorStartPosition` runs the search from the oldest page. -/
theorem findEnumeratorStartPosition_eq
    (tracks : Tracks item log stale state)
    (total skipped : Nat)
    {header : PageHeader}
    {search : StartSearch}
    (found :
      findStartLoop item (skipped + 2) (prepared state item total skipped)
          { pageNr := (geometry item).pageOf log.oldest
            skipping := skipped
            itemsOnPage := 0 } =
        (modifyStatus (prepared state item total skipped) item
          (setPage header), some search)) :
    findEnumeratorStartPosition (prepared state item total skipped) item =
      (modifyStatus (prepared state item total skipped) item
        (setPage header),
        if search.skipping > 0 then
          none
        else
          some
            (search.pageNr,
              ((search.itemsOnPage + search.skipping) % 65536).toNat)) := by
  have preparedTracks := tracks.modifyStatus (setTotals total skipped)
  have oldest :
      ((prepared state item total skipped).itemStore
          item).oldestPageInfo.pageId.toNat =
        (geometry item).pageOf log.oldest := by
    rw [prepared, preparedTracks.info.oldestPageInfo_eq]
    exact (geometry item).toNat_pageOf log.oldest
  have skip :
      ((prepared state item total skipped).itemStore
          item).enumeratorStatus.itemsToSkip = skipped := by
    rw [prepared, modifyStatus_same]
    rfl
  simp only [findEnumeratorStartPosition, oldest, skip, found]
  split <;> rfl

/-- `BeginEnumerate` from a start position that is found. -/
theorem beginEnumerate_started
    (tracks : Tracks item log stale state)
    (spacious : log.Spacious (geometry item))
    (staleLe : stale ≤ (geometry item).capacity)
    (startIndex : Int)
    {skipped page slot : Nat}
    (skip :
      itemsToSkip (announcedItems item log stale) startIndex = skipped)
    {header : PageHeader}
    (found :
      findEnumeratorStartPosition
          (prepared state item (announcedItems item log stale) skipped)
          item =
        (modifyStatus
          (prepared state item (announcedItems item log stale) skipped)
          item (setPage header),
          some ((geometry item).pageOf page, slot)))
    (lower : log.oldest ≤ page)
    (inUse : InUse log page)
    (inside : slot < pageCount item log stale page) :
    ∃ next enumerator,
      beginEnumerate state item (enumeratorFrom startIndex) =
        (next, enumerator, true) ∧
      Reading item log stale page slot 0 skipped
        (announcedItems item log stale) next enumerator ∧
      enumerator.hasMoreItems = true := by
  have searchedTracks := (tracks.modifyStatus
    (setTotals (announcedItems item log stale) skipped)).modifyStatus
      (setPage header)
  have initialised := initEnumeratorStatus_inUse searchedTracks spacious
    lower inUse slot
  have begun :=
    beginEnumerate_eq (totalNrOfItems_eq tracks spacious staleLe) skip
  rw [found] at begun
  simp only [prepared, initialised, inside, decide_true] at begun
  refine ⟨_, _, begun, ?_, ?_⟩
  · have finalTracks := searchedTracks.modifyStatus
      (statusAt item log stale page slot)
    exact
      { tracks :=
          { finalTracks with
            info := by
              rw [modifyInfo_same]
              exact { finalTracks.info with } }
        lower := lower
        inUse := inUse
        details_eq := rfl
        page_eq := by simp [statusAt]
        index_eq := by simp [statusAt]
        onPage_eq := by simp [statusAt]
        taken_eq := by simp [statusAt, setPage, setTotals]
        skipped_eq := by simp [statusAt, setPage, setTotals]
        total_eq := by simp [statusAt, setPage, setTotals] }
  · simp [statusAt, inside]

/-- The number of items on the closed pages of the window. -/
def closedItems (item : ItemDef) (log : StoreLog) : Nat :=
  (log.closed - log.oldest) * (geometry item).capacity

/-- The closed pages and the current page hold the retained items. -/
theorem length_retained
    (wellFormed : log.WellFormed (geometry item)) :
    (log.retained (geometry item)).length =
      closedItems item log + currentItems item log := by
  have oldest := wellFormed.oldest_le
  have lower := wellFormed.items_ge
  have split :
      log.closed * (geometry item).capacity =
        log.oldest * (geometry item).capacity + closedItems item log := by
    rw [closedItems, ← Nat.add_mul]
    congr 1
    omega
  rw [StoreLog.retained, SegmentedLog.length_retained, currentItems]
  cases opened : log.opened with
  | true =>
      rw [if_pos rfl, StoreLog.slot]
      omega
  | false =>
      have shape := wellFormed.items_eq opened
      simp only [Bool.false_eq_true, ↓reduceIte]
      omega

/-- An enumeration that skips to an item or to the end of a closed page. -/
def Startable (item : ItemDef) (log : StoreLog) (skipped : Nat) : Prop :=
  skipped < (log.retained (geometry item)).length ∨
    log.oldest < log.closed ∧ skipped ≤ closedItems item log

/-- `BeginEnumerate` reports ready and starts to read. -/
theorem beginEnumerate_ready
    (tracks : Tracks item log stale state)
    (spacious : log.Spacious (geometry item))
    (staleLe : stale ≤ (geometry item).capacity)
    (startIndex : Int)
    {skipped : Nat}
    (skip :
      itemsToSkip (announcedItems item log stale) startIndex = skipped)
    (startable : Startable item log skipped) :
    ∃ page slot next enumerator,
      beginEnumerate state item (enumeratorFrom startIndex) =
        (next, enumerator, true) ∧
      Reading item log stale page slot 0 skipped
        (announcedItems item log stale) next enumerator ∧
      enumerator.hasMoreItems = true ∧
      slot < pageCount item log stale page ∧
      page * (geometry item).capacity + slot =
        log.oldest * (geometry item).capacity +
          startItem (geometry item).capacity skipped := by
  have positive := (geometry item).capacity_pos
  have capacityLe := (geometry item).capacity_le
  have preparedTracks := tracks.modifyStatus
    (setTotals (announcedItems item log stale) skipped)
  by_cases onClosed :
      log.oldest < log.closed ∧ skipped ≤ closedItems item log
  · obtain ⟨header, page, slot, found, lower, closed, slotSmall,
        position⟩ :=
      findStartLoop_onClosed (skipped + 2) skipped (Nat.le_refl _)
        preparedTracks (Nat.le_refl log.oldest) onClosed.1 onClosed.2 0
    have start := findEnumeratorStartPosition_eq tracks
      (announcedItems item log stale) skipped found
    have index :
        (((geometry item).capacity : Int) +
            ((slot : Int) - (geometry item).capacity)) % 65536 = slot := by
      omega
    simp only [index, Int.toNat_natCast] at start
    rw [if_neg (by omega)] at start
    have inside : slot < pageCount item log stale page := by
      rw [pageCount, if_neg (Nat.ne_of_lt closed)]
      exact slotSmall
    obtain ⟨next, enumerator, begun, reading, more⟩ :=
      beginEnumerate_started tracks spacious staleLe startIndex skip start
        lower (Or.inl closed) inside
    exact ⟨page, slot, next, enumerator, begun, reading, more, inside,
      position⟩
  · have kept := @length_retained item log spacious.wellFormed
    have within : skipped < (log.retained (geometry item)).length := by
      rcases startable with within | contradiction
      · exact within
      · exact (onClosed contradiction).elim
    have oldest := spacious.wellFormed.oldest_le
    have beyond :
        closedItems item log < skipped ∨ log.oldest = log.closed := by
      omega
    obtain ⟨header, search, found, page, skipping, onPage⟩ :=
      findStartLoop_current (skipped + 2) skipped (Nat.le_refl _)
        preparedTracks spacious.inWindow (Nat.le_refl log.oldest) oldest
        beyond 0
    have closedLe : closedItems item log ≤ skipped := by
      rcases beyond with bound | same
      · omega
      · rw [closedItems, same, Nat.sub_self, Nat.zero_mul]
        omega
    have opened : log.opened = true := by
      by_contra notOpened
      rw [currentItems, if_neg notOpened] at kept
      omega
    rw [currentItems, if_pos opened] at kept
    have room := spacious.room
    have start := findEnumeratorStartPosition_eq tracks
      (announcedItems item log stale) skipped found
    have closedCast :
        ((log.closed - log.oldest : Nat) : Int) * (geometry item).capacity =
          (closedItems item log : Int) := by
      rw [closedItems]
      push_cast
      rfl
    rw [closedCast, currentItems, if_pos opened] at skipping
    have index :
        ((log.slot (geometry item) : Int) + search.skipping) % 65536 =
          ((skipped - closedItems item log : Nat) : Int) := by
      omega
    rw [onPage opened, page, if_neg (by omega), index,
      Int.toNat_natCast] at start
    have inside :
        skipped - closedItems item log <
          pageCount item log stale log.closed := by
      rw [pageCount, if_pos rfl, if_pos opened]
      omega
    obtain ⟨next, enumerator, begun, reading, more⟩ :=
      beginEnumerate_started tracks spacious staleLe startIndex skip start
        oldest (Or.inr ⟨rfl, opened⟩) inside
    refine ⟨log.closed, _, next, enumerator, begun, reading, more, inside,
      ?_⟩
    have split :
        log.closed * (geometry item).capacity =
          log.oldest * (geometry item).capacity +
            closedItems item log := by
      rw [closedItems, ← Nat.add_mul]
      congr 1
      omega
    have same :
        startItem (geometry item).capacity skipped = skipped := by
      rw [startItem]
      split
      · next divides =>
          have whole : (geometry item).capacity ∣ closedItems item log :=
            Nat.dvd_mul_left _ _
          have remainder := Nat.dvd_sub divides whole
          have zero := Nat.eq_zero_of_dvd_of_lt remainder (by omega)
          rcases beyond with bound | sameOldest
          · omega
          · rw [closedItems, sameOldest, Nat.sub_self, Nat.zero_mul] at zero
            omega
      · rfl
    rw [same, split]
    omega

/-- `BeginEnumerate` reports not ready for every other start. -/
theorem beginEnumerate_notReady
    (tracks : Tracks item log stale state)
    (spacious : log.Spacious (geometry item))
    (staleLe : stale ≤ (geometry item).capacity)
    (startIndex : Int)
    {skipped : Nat}
    (skip :
      itemsToSkip (announcedItems item log stale) startIndex = skipped)
    (notStartable : ¬ Startable item log skipped) :
    (beginEnumerate state item (enumeratorFrom startIndex)).2.2 =
      false := by
  have preparedTracks := tracks.modifyStatus
    (setTotals (announcedItems item log stale) skipped)
  have kept := @length_retained item log spacious.wellFormed
  have oldest := spacious.wellFormed.oldest_le
  have begun :=
    beginEnumerate_eq (totalNrOfItems_eq tracks spacious staleLe) skip
  rw [Startable] at notStartable
  have beyond :
      closedItems item log < skipped ∨ log.oldest = log.closed := by
    omega
  obtain ⟨header, search, found, page, skipping, onPage⟩ :=
    findStartLoop_current (skipped + 2) skipped (Nat.le_refl _)
      preparedTracks spacious.inWindow (Nat.le_refl log.oldest) oldest
      beyond 0
  have closedCast :
      ((log.closed - log.oldest : Nat) : Int) * (geometry item).capacity =
        (closedItems item log : Int) := by
    rw [closedItems]
    push_cast
    rfl
  rw [closedCast] at skipping
  have start := findEnumeratorStartPosition_eq tracks
    (announcedItems item log stale) skipped found
  rw [begun, start]
  by_cases remaining : search.skipping > 0
  · simp only [if_pos remaining]
  · simp only [if_neg remaining, page]
    have searchedTracks :=
      preparedTracks.modifyStatus (setPage header)
    cases opened : log.opened with
    | true =>
        have room := spacious.room
        rw [currentItems, if_pos opened] at kept skipping
        have index :
            (((search.itemsOnPage : Int) + search.skipping) %
              65536).toNat = log.slot (geometry item) := by
          rw [onPage opened]
          have capacityLe := (geometry item).capacity_le
          omega
        have full :
            ¬ log.slot (geometry item) <
              pageCount item log stale log.closed := by
          rw [pageCount, if_pos rfl, if_pos opened]
          omega
        rw [index, prepared, initEnumeratorStatus_inUse searchedTracks
          spacious oldest (Or.inr ⟨rfl, opened⟩)]
        simp only [full, decide_false]
    | false =>
        have notInUse : ¬ InUse log log.closed := by
          simp [InUse, opened]
        have failed := initEnumeratorStatus_notInUse searchedTracks oldest
          spacious.inWindow notInUse
          (((search.itemsOnPage : Int) + search.skipping) % 65536).toNat
        rw [← prepared] at failed
        revert failed
        cases initEnumeratorStatus _ item _ _ with
        | mk after ready =>
            intro failed
            simp only at failed
            subst failed
            rfl

end Enumeration

end DemoBoard.ItemStore
