import DemoBoard.ItemStoreFrame

namespace DemoBoard.ItemStore

open ByteMemory

/-!
# Enumerations beside other operations

Enumerating changes the enumerator status of its own store only.  A running
enumeration whose announced count is exact stands before an item whenever
`hasMoreItems` is set, and stays as it is while its store is left alone.
-/

/-- Enumerating changes the enumerator status of one store only. -/
def ChangesStatus
    (item : ItemDef) (before after : ItemStoreState) : Prop :=
  ∃ change, after = modifyStatus before item change

section Status

variable {item other : ItemDef}
variable {log : StoreLog}
variable {stale : Nat}
variable {before middle after : ItemStoreState}

theorem ChangesStatus.refl (item : ItemDef) (state : ItemStoreState) :
    ChangesStatus item state state :=
  ⟨id, by simp [modifyStatus, modifyInfo]⟩

theorem ChangesStatus.trans
    (first : ChangesStatus item before middle)
    (second : ChangesStatus item middle after) :
    ChangesStatus item before after := by
  obtain ⟨change, rfl⟩ := first
  obtain ⟨next, rfl⟩ := second
  exact ⟨_, modifyStatus_modifyStatus before item change next⟩

theorem changesStatus_modifyStatus
    (state : ItemStoreState)
    (item : ItemDef)
    (change : EnumeratorStatus → EnumeratorStatus) :
    ChangesStatus item state (modifyStatus state item change) :=
  ⟨change, rfl⟩

theorem ChangesStatus.currentState
    (changed : ChangesStatus item before after)
    (other : ItemDef) :
    (after.itemStore other).currentState =
      (before.itemStore other).currentState := by
  obtain ⟨change, rfl⟩ := changed
  by_cases same : other = item
  · subst same
    rw [modifyStatus, modifyInfo_same]
  · rw [modifyStatus, modifyInfo_other _ _ same]

theorem ChangesStatus.others
    (changed : ChangesStatus item before after)
    (different : other ≠ item) :
    after.itemStore other = before.itemStore other := by
  obtain ⟨change, rfl⟩ := changed
  rw [modifyStatus, modifyInfo_other _ _ different]

/-- The metadata of the other stores does not matter to a store. -/
theorem Tracks.modifyOther
    (tracks : Tracks item log stale before)
    (different : item ≠ other)
    (change : ItemStoreInfo → ItemStoreInfo) :
    Tracks item log stale (modifyInfo before other change) :=
  { tracks with
    info := by
      rw [modifyInfo_other _ _ different]
      exact tracks.info }

/-- Whether a store is enumerated does not matter to its log. -/
theorem Tracks.withState
    (tracks : Tracks item log stale before)
    (currentState : StoreState) :
    Tracks item log stale
      (modifyInfo before item fun info =>
        { info with currentState := currentState }) :=
  { tracks with
    info := by
      rw [modifyInfo_same]
      exact { tracks.info with } }

/-- Every store still describes its log. -/
theorem ChangesStatus.tracks
    (changed : ChangesStatus other before after)
    (tracks : Tracks item log stale before) :
    Tracks item log stale after := by
  obtain ⟨change, rfl⟩ := changed
  by_cases same : item = other
  · subst same
    exact tracks.modifyStatus change
  · exact tracks.modifyOther same _

/-- Searching a position keeps the counts the search starts from. -/
def SearchesStatus
    (item : ItemDef) (before after : ItemStoreState) : Prop :=
  ∃ change, after = modifyStatus before item change ∧
    ∀ status,
      (change status).itemsToSkip = status.itemsToSkip ∧
        (change status).totalNrOfItems = status.totalNrOfItems

theorem SearchesStatus.changesStatus
    (searched : SearchesStatus item before after) :
    ChangesStatus item before after := by
  obtain ⟨change, same, _⟩ := searched
  exact ⟨change, same⟩

theorem SearchesStatus.refl (item : ItemDef) (state : ItemStoreState) :
    SearchesStatus item state state :=
  ⟨id, by simp [modifyStatus, modifyInfo], fun _ => ⟨rfl, rfl⟩⟩

theorem SearchesStatus.trans
    (first : SearchesStatus item before middle)
    (second : SearchesStatus item middle after) :
    SearchesStatus item before after := by
  obtain ⟨change, rfl, keeps⟩ := first
  obtain ⟨next, rfl, keepsNext⟩ := second
  refine ⟨_, modifyStatus_modifyStatus before item change next, ?_⟩
  intro status
  exact ⟨(keepsNext _).1.trans (keeps _).1,
    (keepsNext _).2.trans (keeps _).2⟩

theorem searchesStatus_modifyStatus
    (state : ItemStoreState)
    (item : ItemDef)
    {change : EnumeratorStatus → EnumeratorStatus}
    (keeps : ∀ status,
      (change status).itemsToSkip = status.itemsToSkip ∧
        (change status).totalNrOfItems = status.totalNrOfItems) :
    SearchesStatus item state (modifyStatus state item change) :=
  ⟨change, rfl, keeps⟩

/-- The start search changes the page header it reads. -/
theorem findStartLoop_searchesStatus
    (item : ItemDef)
    (fuel : Nat)
    (state : ItemStoreState)
    (search : StartSearch) :
    SearchesStatus item state
      (findStartLoop item fuel state search).1 := by
  induction fuel generalizing state search with
  | zero => exact SearchesStatus.refl item state
  | succ fuel inductionHypothesis =>
      rw [findStartLoop]
      split
      · exact SearchesStatus.refl item state
      · next header _ =>
          have visited := @searchesStatus_modifyStatus state item
            (fun status => { status with enumeratingPage := header })
            fun _ => ⟨rfl, rfl⟩
          simp only
          split
          · exact visited
          · split
            · split
              · exact visited.trans (inductionHypothesis _ _)
              · exact visited
            · exact visited

theorem findEnumeratorStartPosition_searchesStatus
    (state : ItemStoreState)
    (item : ItemDef) :
    SearchesStatus item state
      (findEnumeratorStartPosition state item).1 := by
  have searched := findStartLoop_searchesStatus item
    ((state.itemStore item).enumeratorStatus.itemsToSkip + 2) state
    { pageNr := (state.itemStore item).oldestPageInfo.pageId.toNat
      skipping := (state.itemStore item).enumeratorStatus.itemsToSkip
      itemsOnPage := 0 }
  simp only [findEnumeratorStartPosition]
  split
  · exact searched
  · split <;> exact searched

theorem initEnumeratorStatus_searchesStatus
    (state : ItemStoreState)
    (item : ItemDef)
    (pageNr startIndex : Nat) :
    SearchesStatus item state
      (initEnumeratorStatus state item pageNr startIndex).1 := by
  have started := @searchesStatus_modifyStatus state item
    (fun status => { status with currentIndex := startIndex })
    fun _ => ⟨rfl, rfl⟩
  simp only [initEnumeratorStatus]
  split
  · exact started
  · next header _ =>
      have read := started.trans (@searchesStatus_modifyStatus _ item
        (fun status => { status with enumeratingPage := header })
        fun _ => ⟨rfl, rfl⟩)
      split
      · exact read
      · split
        · dsimp only
          exact read.trans
            (searchesStatus_modifyStatus _ _ fun _ => ⟨rfl, rfl⟩)
        · split
          · exact read
          · dsimp only
            exact read.trans
              (searchesStatus_modifyStatus _ _ fun _ => ⟨rfl, rfl⟩)

theorem initEnumeratorStatus_changesStatus
    (state : ItemStoreState)
    (item : ItemDef)
    (pageNr startIndex : Nat) :
    ChangesStatus item state
      (initEnumeratorStatus state item pageNr startIndex).1 :=
  (initEnumeratorStatus_searchesStatus state item pageNr
    startIndex).changesStatus

/-- Only the start index of an enumerator matters to `BeginEnumerate`. -/
theorem beginEnumerate_startIndex
    (state : ItemStoreState)
    (item : ItemDef)
    (enumerator : Enumerator) :
    beginEnumerate state item enumerator =
      beginEnumerate state item (enumeratorFrom enumerator.startIndex) :=
  rfl

/-- `BeginEnumerate` searches the position of the start index. -/
theorem beginEnumerate_searches
    (state : ItemStoreState)
    (item : ItemDef)
    (enumerator : Enumerator) :
    ∃ total searched,
      SearchesStatus item
        (prepared state item total
          (itemsToSkip total enumerator.startIndex))
        searched ∧
      ((beginEnumerate state item enumerator).2.2 = false ∧
          (beginEnumerate state item enumerator).1 = searched ∨
        (beginEnumerate state item enumerator).2.2 = true ∧
          (beginEnumerate state item enumerator).1 =
            modifyInfo searched item fun info =>
              { info with currentState := .enumerating }) := by
  refine ⟨((state.itemStore item).currentPageNrOfItems +
    (state.itemStore item).nrOfFullPages *
      itemsOnFullPage (state.itemStore item)) % 65536, ?_⟩
  simp only [beginEnumerate]
  generalize totals :
    (modifyStatus state item fun status =>
      { status with itemsRead := 0, totalNrOfItems := _,
                    itemsToSkip := _ }) = begun
  have begun_eq :
      prepared state item
        (((state.itemStore item).currentPageNrOfItems +
          (state.itemStore item).nrOfFullPages *
            itemsOnFullPage (state.itemStore item)) % 65536)
        (itemsToSkip
          (((state.itemStore item).currentPageNrOfItems +
            (state.itemStore item).nrOfFullPages *
              itemsOnFullPage (state.itemStore item)) % 65536)
          enumerator.startIndex) = begun :=
    totals
  rw [begun_eq]
  have found := findEnumeratorStartPosition_searchesStatus begun item
  generalize findEnumeratorStartPosition begun item = outcome at found
  obtain ⟨searched, position⟩ := outcome
  cases position with
  | none => exact ⟨searched, found, Or.inl ⟨rfl, rfl⟩⟩
  | some start =>
      have set := initEnumeratorStatus_searchesStatus searched item
        start.1 start.2
      simp only
      generalize initEnumeratorStatus searched item start.1 start.2 =
        initialised at set
      obtain ⟨final, ready⟩ := initialised
      cases ready with
      | false => exact ⟨final, found.trans set, Or.inl ⟨rfl, rfl⟩⟩
      | true => exact ⟨final, found.trans set, Or.inr ⟨rfl, rfl⟩⟩

/-- `BeginEnumerate` changes the status and, if ready, the store state. -/
theorem beginEnumerate_changesStatus
    (state : ItemStoreState)
    (item : ItemDef)
    (enumerator : Enumerator) :
    ∃ searched,
      ChangesStatus item state searched ∧
      ((beginEnumerate state item enumerator).2.2 = false ∧
          (beginEnumerate state item enumerator).1 = searched ∨
        (beginEnumerate state item enumerator).2.2 = true ∧
          (beginEnumerate state item enumerator).1 =
            modifyInfo searched item fun info =>
              { info with currentState := .enumerating }) := by
  obtain ⟨total, searched, found, ends⟩ :=
    beginEnumerate_searches state item enumerator
  exact ⟨searched,
    (changesStatus_modifyStatus state item _).trans found.changesStatus,
    ends⟩

/-- An enumerator that is not ready is closed. -/
theorem beginEnumerate_closed
    (state : ItemStoreState)
    (item : ItemDef)
    (enumerator : Enumerator)
    (notReady : (beginEnumerate state item enumerator).2.2 = false) :
    (beginEnumerate state item enumerator).2.1.enumeratorDetails = none ∧
      (beginEnumerate state item enumerator).2.1.hasMoreItems = false := by
  simp only [beginEnumerate] at notReady ⊢
  split
  · exact ⟨rfl, rfl⟩
  · next found =>
      simp only [found] at notReady
      split
      · exact ⟨rfl, rfl⟩
      · next started => simp [started] at notReady

/-- `ItemStore_GetNext` within one store. -/
theorem getNext_changesStatus
    {state : ItemStoreState}
    {enumerator : Enumerator}
    (details : enumerator.enumeratorDetails = some item)
    (page :
      ItemDef.ofByte?
        (state.itemStore item).enumeratorStatus.enumeratingPage.beginTag.itemId
          = some item) :
    ChangesStatus item state (getNext state enumerator).1 := by
  simp only [getNext, details, page]
  split
  · exact ChangesStatus.refl item state
  · generalize turned :
      (if (state.itemStore item).enumeratorStatus.currentIndex =
          (state.itemStore item).enumeratorStatus.itemsOnPage then
        initEnumeratorStatus state item _ 0
      else
        (state, true)) = outcome
    have changed : ChangesStatus item state outcome.1 := by
      rw [← turned]
      split
      · exact initEnumeratorStatus_changesStatus state item _ 0
      · exact ChangesStatus.refl item state
    split
    · exact changed
    · split
      · exact changed
      · dsimp only
        exact changed.trans (changesStatus_modifyStatus _ _ _)

end Status

/-- A running enumeration whose announced count is exact. -/
structure Running
    (item : ItemDef) (log : StoreLog) (stale ordinal slot taken : Nat)
    (skipped : Nat) (state : ItemStoreState) (enumerator : Enumerator) :
    Prop where
  reading :
    Reading item log stale ordinal slot taken skipped
      (log.retained (geometry item)).length state enumerator
  onPage : slot ≤ pageCount item log stale ordinal
  position_le :
    ordinal * (geometry item).capacity + slot ≤
      log.oldest * (geometry item).capacity + (taken + skipped)
  beforeItem : enumerator.hasMoreItems = true →
    ordinal * (geometry item).capacity + slot < log.items.length ∧
      taken + 1 < 65536

section Running

variable {item other : ItemDef}
variable {log : StoreLog}
variable {stale ordinal slot taken skipped total : Nat}
variable {before after state : ItemStoreState}
variable {enumerator : Enumerator}

/-- Reading goes on while the status and the log of the store are kept. -/
theorem Reading.congr
    (reading :
      Reading item log stale ordinal slot taken skipped total before
        enumerator)
    (tracks : Tracks item log stale after)
    (same :
      (after.itemStore item).enumeratorStatus =
        (before.itemStore item).enumeratorStatus) :
    Reading item log stale ordinal slot taken skipped total after
      enumerator where
  tracks := tracks
  lower := reading.lower
  inUse := reading.inUse
  details_eq := reading.details_eq
  page_eq := by rw [same, reading.page_eq]
  index_eq := by rw [same, reading.index_eq]
  onPage_eq := by rw [same, reading.onPage_eq]
  taken_eq := by rw [same, reading.taken_eq]
  skipped_eq := by rw [same, reading.skipped_eq]
  total_eq := by rw [same, reading.total_eq]

theorem Running.congr
    (running :
      Running item log stale ordinal slot taken skipped before enumerator)
    (tracks : Tracks item log stale after)
    (same :
      (after.itemStore item).enumeratorStatus =
        (before.itemStore item).enumeratorStatus) :
    Running item log stale ordinal slot taken skipped after enumerator :=
  { running with reading := running.reading.congr tracks same }

/-- The number of retained items fits its 16-bit variable. -/
theorem length_retained_lt
    (regular : log.Regular (geometry item)) :
    (log.retained (geometry item)).length < 65536 := by
  rw [← announcedItems_exact regular.spacious (Or.inr rfl)]
  exact announcedItems_lt regular.spacious (Nat.zero_le _)

/-- `BeginEnumerate` where the announced count is exact. -/
theorem beginEnumerate_running
    (tracks : Tracks item log stale state)
    (regular : log.Regular (geometry item))
    (staleLe : stale ≤ (geometry item).capacity)
    (counted : log.opened = true ∨ stale = 0)
    (startIndex : Int)
    (ready :
      (beginEnumerate state item (enumeratorFrom startIndex)).2.2 =
        true) :
    ∃ ordinal slot skipped,
      Running item log stale ordinal slot 0 skipped
        (beginEnumerate state item (enumeratorFrom startIndex)).1
        (beginEnumerate state item (enumeratorFrom startIndex)).2.1 := by
  by_cases startable : Startable item log
      (itemsToSkip (announcedItems item log stale) startIndex)
  · obtain ⟨ordinal, slot, next, enumerator, begun, reading, _, inside,
        position⟩ :=
      beginEnumerate_ready tracks regular.spacious staleLe startIndex rfl
          startable
    rw [begun]
    refine ⟨ordinal, slot,
      itemsToSkip (announcedItems item log stale) startIndex,
      ?_, Nat.le_of_lt inside, ?_, ?_⟩
    · rw [← announcedItems_exact regular.spacious counted]
      exact reading
    · rw [position, startItem]
      split <;> omega
    · intro _
      refine ⟨?_, by omega⟩
      rw [pageCount_inUse regular.spacious reading.inUse] at inside
      have onPage := inside
      rw [pageItems, SegmentedLog.length_segment] at onPage
      have found := @pageItems_getElem? item log ordinal slot (by omega)
      rw [List.getElem?_eq_getElem inside, eq_comm] at found
      exact (List.getElem?_eq_some_iff.mp found).1
  · have notReady := beginEnumerate_notReady tracks regular.spacious staleLe
      startIndex rfl startable
    rw [ready] at notReady
    cases notReady

/-- The announced number of items. -/
theorem Running.count_eq
    (running :
      Running item log stale ordinal slot taken skipped state
        enumerator) :
    count state enumerator =
      ((log.retained (geometry item)).length : Int) := by
  simp only [count, running.reading.details_eq, running.reading.total_eq]

/-- The items an enumeration can stand before are retained. -/
theorem mem_retained_of_position
    {position : Nat}
    (lower : log.oldest * (geometry item).capacity ≤ position)
    (inside : position < log.items.length) :
    log.items[position] ∈ log.retained (geometry item) := by
  rw [StoreLog.retained, SegmentedLog.retained, List.mem_drop_iff_getElem]
  refine ⟨position - log.oldest * (geometry item).capacity, by omega, ?_⟩
  simp only [Nat.add_sub_cancel' lower]

/-- `ItemStore_GetNext` succeeds exactly while `hasMoreItems` is set. -/
theorem Running.getNext
    (running :
      Running item log stale ordinal slot taken skipped state enumerator)
    (regular : log.Regular (geometry item)) :
    (enumerator.hasMoreItems = true ↔
        (getNext state enumerator).2.2.isSome = true) ∧
      (∀ data, (getNext state enumerator).2.2 = some data →
        data ∈ log.retained (geometry item)) ∧
      ∃ nextOrdinal nextSlot nextTaken,
        Running item log stale nextOrdinal nextSlot nextTaken skipped
          (getNext state enumerator).1
          (getNext state enumerator).2.1 := by
  cases more : enumerator.hasMoreItems with
  | false =>
      have nothing :
          ItemStore.getNext state enumerator = (state, enumerator, none) :=
        by simp [ItemStore.getNext, more]
      rw [nothing]
      exact ⟨by simp, by simp, ordinal, slot, taken, running⟩
  | true =>
      obtain ⟨inside, takenSmall⟩ := running.beforeItem more
      obtain ⟨next, nextEnumerator, nextOrdinal, nextSlot, got, reading,
          nextMore, onPage, position⟩ :=
        running.reading.getNext_item regular.spacious more running.onPage
          inside
          takenSmall
      rw [got]
      refine ⟨by simp, ?_, nextOrdinal, nextSlot, taken + 1, reading,
        onPage, ?_, ?_⟩
      · intro data found
        rw [← Option.some.inj found]
        have first := Nat.mul_le_mul_right (geometry item).capacity
          running.reading.lower
        exact mem_retained_of_position (by omega) inside
      · have before := running.position_le
        omega
      · intro again
        rw [nextMore, decide_eq_true_eq] at again
        have before := running.position_le
        have small := @length_retained_lt item log regular
        have kept := SegmentedLog.length_retained
          (geometry item).capacity log.oldest log.items
        rw [← StoreLog.retained] at kept
        omega

/-- A running enumeration changes the status of its own store only. -/
theorem Running.getNext_changesStatus
    (running :
      Running item log stale ordinal slot taken skipped state
        enumerator) :
    ChangesStatus item state (ItemStore.getNext state enumerator).1 := by
  apply ItemStore.getNext_changesStatus running.reading.details_eq
  rw [running.reading.page_eq,
    beginTag_headerOf running.reading.inUse]
  exact ItemDef.ofByte?_toByte item

end Running

end DemoBoard.ItemStore
