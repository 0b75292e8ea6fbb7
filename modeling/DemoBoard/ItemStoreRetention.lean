import DemoBoard.ItemStoreRecovery

namespace DemoBoard.ItemStore

open ByteMemory

/-!
# Ring retention

Adding items to an erased store never fails, programs erased double words of
the current page only, and leaves exactly the newest items on flash, each in
the slot its index determines.
-/

/-- A flash array in which no byte has been programmed. -/
def erasedFlash : Memory :=
  fun _ => erasedByte

theorem constantOn_erasedFlash (first last : Nat) :
    ConstantOn erasedFlash erasedByte first last :=
  fun _ _ _ => rfl

/-- Erased pages are the image of the empty log. -/
theorem storeImage_empty
    {item : ItemDef}
    {memory : Memory}
    (blank :
      ∀ ordinal,
        ConstantOn memory erasedByte
          (pageAddr ((geometry item).pageOf ordinal))
          (pageAddr ((geometry item).pageOf ordinal) + flashPageSize)) :
    StoreImage item StoreLog.empty memory := by
  intro ordinal _ _
  have header :
      headerOf item StoreLog.empty ordinal = PageHeader.erased := by
    simp [headerOf, StoreLog.empty, PageHeader.erased]
  have items : pageItems item StoreLog.empty ordinal = [] := by
    simp [pageItems, StoreLog.empty, SegmentedLog.segment]
  rw [header, items]
  exact PageHolds.of_constantOn (blank ordinal)

/-- The empty log is recoverable. -/
theorem recoverable_empty (item : ItemDef) :
    Recoverable item StoreLog.empty where
  hasData := by
    intro data member
    simp [pageItems, StoreLog.empty, SegmentedLog.segment] at member
  ordered := by
    intro early late lower ordered upper
    simp only [StoreLog.empty] at upper
    omega
  restart := by
    intro _
    have bounds := firstOrdinal_bounds item StoreLog.empty
    have pages := (geometry item).nrOfPages_pos
    have first : firstOrdinal item StoreLog.empty = 0 :=
      SegmentedLog.eq_of_same_place bounds.1 bounds.2.1
        (Nat.le_refl _) (by simpa [StoreLog.empty] using pages)
        (by rw [bounds.2.2, Nat.zero_mod])
    rw [first]
    rfl
  blockId_eq := by
    intro _ positive
    exact (Nat.lt_irrefl 0 positive).elim

/-- Booting an erased store. -/
theorem initItemStore_empty
    {item : ItemDef}
    {state : ItemStoreState}
    (fresh : Fresh item state)
    (image : StoreImage item StoreLog.empty state.flash.memory) :
    ∃ after,
      initItemStore state item = .ok after ∧
      Tracks item StoreLog.empty 0 after ∧
      Extends item [] state after :=
  initItemStore_regular fresh (StoreLog.regular_empty _) image
    (recoverable_empty item)

/-- The item count left over after a number of adds. -/
def staleAfter
    (item : ItemDef) (stale : Nat) (items : List (List Byte)) : Nat :=
  if items = [] then stale else (geometry item).capacity

theorem staleAfter_le
    (item : ItemDef)
    {stale : Nat}
    (staleLe : stale ≤ (geometry item).capacity)
    (items : List (List Byte)) :
    staleAfter item stale items ≤ (geometry item).capacity := by
  rw [staleAfter]
  split
  · exact staleLe
  · exact Nat.le_refl _

/-- A run of completed adds appends the items to the log. -/
theorem addItems_tracks
    {item : ItemDef}
    {log : StoreLog}
    {stale : Nat}
    {state : ItemStoreState}
    {items : List (List Byte)}
    (tracks : Tracks item log stale state)
    (spacious : log.Spacious (geometry item))
    (sized :
      ∀ data ∈ items, data.length = (geometry item).itemSize) :
    ∃ after effects,
      addItems item state items = .ok (after, true) ∧
      Tracks item (log.addAll (geometry item) items)
        (staleAfter item stale items) after ∧
      Extends item effects state after := by
  induction items generalizing log stale state with
  | nil =>
      exact ⟨state, [], rfl, tracks, Extends.refl item state⟩
  | cons data rest inductionHypothesis =>
      have size := sized data (List.mem_cons_self ..)
      obtain ⟨middle, added, middleTracks, middleExtends⟩ :=
        addItemCompleted_tracks tracks spacious size
      obtain ⟨after, effects, addedRest, afterTracks, afterExtends⟩ :=
        inductionHypothesis middleTracks (spacious.add size)
          (fun entry member => sized entry (List.mem_cons_of_mem _ member))
      refine ⟨after, _, ?_, ?_, middleExtends.trans afterExtends⟩
      · simp [addItems, added, addedRest, bind, Except.bind]
      · have stale :
            staleAfter item (geometry item).capacity rest =
              staleAfter item stale (data :: rest) := by
          simp [staleAfter]
        rw [← stale]
        exact afterTracks

/-- Boot over erased flash, followed by completed adds. -/
def runFromErased (item : ItemDef) (items : List (List Byte)) :
    Except AssertionFailure (ItemStoreState × Bool) := do
  let state ← recover erasedFlash item
  addItems item state items

/-- Booting an erased flash. -/
theorem recover_erasedFlash (item : ItemDef) :
    ∃ after,
      recover erasedFlash item = .ok after ∧
      Tracks item StoreLog.empty 0 after ∧
      Extends item [] (powerOn erasedFlash) after := by
  obtain ⟨after, booted, tracks, frame⟩ :=
    initItemStore_empty (fresh_powerOn item erasedFlash)
      (storeImage_empty fun _ => constantOn_erasedFlash _ _)
  refine ⟨after, ?_, tracks, frame⟩
  rw [recover, booted]
  exact finishErase_idle tracks.idle

/-- The state after adding items to an erased store. -/
theorem runFromErased_tracks
    {item : ItemDef}
    {items : List (List Byte)}
    (sized :
      ∀ data ∈ items, data.length = (geometry item).itemSize) :
    ∃ after,
      runFromErased item items = .ok (after, true) ∧
      Tracks item (StoreLog.ofItems (geometry item) items)
        (staleAfter item 0 items) after := by
  obtain ⟨booted, boot, bootTracks, _⟩ := recover_erasedFlash item
  obtain ⟨after, _, added, tracks, _⟩ :=
    addItems_tracks bootTracks (StoreLog.regular_empty _).spacious sized
  refine ⟨after, ?_, tracks⟩
  rw [runFromErased, boot]
  exact added

/-- The number of items a store keeps after a number of adds. -/
def retainedCount (geometry : StoreGeometry) (count : Nat) : Nat :=
  if count < geometry.nrOfPages * geometry.capacity then
    count
  else
    (geometry.nrOfPages - 1) * geometry.capacity +
      count % geometry.capacity

example : (geometry .systemConfig).capacity = 31 := by decide

example : (geometry .measurementSample).capacity = 510 := by decide

/-- A page carries a complete tag. -/
def isComplete (state : ItemStoreState) (page : Nat) : Bool :=
  (readHeader state page).any fun header =>
    header.completeTag.magic = pageMagic

/-- Flash and metadata of a store that was given `items`. -/
structure HoldsNewest
    (item : ItemDef) (items : List (List Byte)) (state : ItemStoreState) :
    Prop where
  /-- Every retained item is in the slot of its index. -/
  stored : ∀ index data,
    items.length - retainedCount (geometry item) items.length ≤ index →
    items[index]? = some data →
      readBytes state.flash.memory
          (slotAddress (geometry item).itemSize
            ((geometry item).pageOf (index / (geometry item).capacity))
            (index % (geometry item).capacity))
          (geometry item).itemSize =
        data
  /-- The page of a retained item carries its block id. -/
  tagged : ∀ index,
    items.length - retainedCount (geometry item) items.length ≤ index →
    index < items.length →
      ∃ header,
        readHeader state
            ((geometry item).pageOf (index / (geometry item).capacity)) =
          some header ∧
        beginTagIsConsistent (state.itemStore item) header
          ((geometry item).pageOf (index / (geometry item).capacity)) =
          true ∧
        header.beginTag.blockId.toNat =
          index / (geometry item).capacity % maxBlockIndex
  /-- No other slot holds an item. -/
  erased : ∀ place slot,
    place < (geometry item).nrOfPages →
    slot < (geometry item).capacity →
    (∀ index,
      items.length - retainedCount (geometry item) items.length ≤ index →
      index < items.length →
        ¬ (index / (geometry item).capacity % (geometry item).nrOfPages =
            place ∧
          index % (geometry item).capacity = slot)) →
      readBytes state.flash.memory
          (slotAddress (geometry item).itemSize
            ((geometry item).firstPage + place) slot)
          (geometry item).itemSize =
        List.replicate (geometry item).itemSize erasedByte
  fullPages :
    (state.itemStore item).nrOfFullPages =
      (List.range (geometry item).nrOfPages).countP fun place =>
        isComplete state ((geometry item).firstPage + place)
  oldestPage :
    (state.itemStore item).oldestPageInfo.pageId.toNat =
      (geometry item).pageOf
        ((items.length - retainedCount (geometry item) items.length) /
          (geometry item).capacity)
  nextPage :
    (state.itemStore item).nextWritePageInfo.pageId.toNat =
      (geometry item).pageOf (items.length / (geometry item).capacity)
  nextBlock :
    (state.itemStore item).nextWritePageInfo.blockId.toNat =
      items.length / (geometry item).capacity % maxBlockIndex

/-- The retained items start with the oldest page. -/
theorem length_sub_retainedCount
    {geometry : StoreGeometry}
    {log : StoreLog}
    (regular : log.Regular geometry) :
    log.items.length - retainedCount geometry log.items.length =
      log.oldest * geometry.capacity := by
  have several := geometry.severalPages
  have shape := SegmentedLog.length_eq geometry.capacity log.items
  have bound := SegmentedLog.used_lt geometry.capacity_pos log.items
  rw [← regular.closed_eq] at shape
  have oldest := regular.oldest_eq
  rw [SegmentedLog.oldest] at oldest
  rw [retainedCount]
  split
  · next few =>
      have closedLt : log.closed < geometry.nrOfPages := by
        by_contra wrapped
        have large := Nat.mul_le_mul_right geometry.capacity
          (show geometry.nrOfPages ≤ log.closed by omega)
        omega
      rw [show log.oldest = 0 by omega]
      omega
  · next many =>
      have closedGe : geometry.nrOfPages ≤ log.closed := by
        by_contra short
        have small := Nat.mul_le_mul_right geometry.capacity
          (show log.closed + 1 ≤ geometry.nrOfPages by omega)
        rw [Nat.succ_mul] at small
        omega
      have split :
          log.closed * geometry.capacity =
            log.oldest * geometry.capacity +
              (geometry.nrOfPages - 1) * geometry.capacity := by
        rw [← Nat.add_mul]
        congr 1
        omega
      rw [SegmentedLog.used] at shape
      omega

section Content

variable {item : ItemDef}
variable {log : StoreLog}
variable {stale : Nat}
variable {state : ItemStoreState}

/-- The page of a retained item is in the window and in use. -/
theorem inUse_of_index
    (regular : log.Regular (geometry item))
    {index : Nat}
    (lower : log.oldest * (geometry item).capacity ≤ index)
    (upper : index < log.items.length) :
    log.oldest ≤ index / (geometry item).capacity ∧
      InUse log (index / (geometry item).capacity) := by
  have positive := (geometry item).capacity_pos
  have first : log.oldest ≤ index / (geometry item).capacity :=
    (Nat.le_div_iff_mul_le positive).mpr lower
  have last : index / (geometry item).capacity ≤ log.closed := by
    rw [regular.closed_eq]
    exact Nat.div_le_div_right (Nat.le_of_lt upper)
  refine ⟨first, ?_⟩
  rcases Nat.lt_or_eq_of_le last with closed | current
  · exact Or.inl closed
  · refine Or.inr ⟨current, ?_⟩
    by_contra notOpened
    have shape := regular.wellFormed.items_eq
      (Bool.eq_false_of_not_eq_true notOpened)
    have bound := Nat.div_mul_le_self index (geometry item).capacity
    rw [current] at bound
    omega

/-- A page is complete exactly when it is closed. -/
theorem isComplete_iff
    (tracks : Tracks item log stale state)
    {ordinal : Nat}
    (lower : log.oldest ≤ ordinal)
    (upper : ordinal < log.oldest + (geometry item).nrOfPages) :
    isComplete state ((geometry item).pageOf ordinal) = true ↔
      ordinal < log.closed := by
  have read := readHeader_eq (tracks.image ordinal lower upper)
  rw [isComplete, read, headerOf]
  by_cases closed : ordinal < log.closed
  · simp [closed, completeTagOf]
  · simp [closed, PageCompleteTag.magic_erased]

/-- A slot behind the items of a page is erased. -/
theorem slot_erased
    (tracks : Tracks item log stale state)
    {ordinal slot : Nat}
    (lower : log.oldest ≤ ordinal)
    (upper : ordinal < log.oldest + (geometry item).nrOfPages)
    (inside : slot < (geometry item).capacity)
    (behind : (pageItems item log ordinal).length ≤ slot) :
    readBytes state.flash.memory
        (slotAddress (geometry item).itemSize
          ((geometry item).pageOf ordinal) slot)
        (geometry item).itemSize =
      List.replicate (geometry item).itemSize erasedByte := by
  have holds := tracks.image ordinal lower upper
  have fits := (geometry item).slotAddress_fits
    ((geometry item).pageOf ordinal)
    (show slot + 1 ≤ (geometry item).capacity by omega)
  rw [slotAddress_succ] at fits
  have rest := holds.free.mono
    (slotAddress_le (geometry item).itemSize _ behind) (Nat.le_refl _)
  exact rest.readBytes_eq fits

/-- A state that tracks a regular log holds its newest items. -/
theorem holdsNewest_of_tracks
    (tracks : Tracks item log stale state)
    (regular : log.Regular (geometry item))
    (blockId_eq :
      ∀ ordinal, log.blockId ordinal = ordinal % maxBlockIndex) :
    HoldsNewest item log.items state := by
  have positive := (geometry item).capacity_pos
  have kept := length_sub_retainedCount regular
  have inWindow := regular.inWindow
  have wellFormed := regular.wellFormed
  refine
    { stored := ?_
      tagged := ?_
      erased := ?_
      fullPages := ?_
      oldestPage := ?_
      nextPage := tracks.info.nextPage_eq.trans ?_
      nextBlock := ?_ }
  · intro index data lower found
    rw [kept] at lower
    have upper := (List.getElem?_eq_some_iff.mp found).1
    have page := inUse_of_index regular lower upper
    have holds := tracks.image _ page.1 (page.2.lt_window wellFormed)
    apply holds.item_eq
    rw [pageItems, SegmentedLog.getElem?_segment
      (Nat.mod_lt _ positive), Nat.mul_comm, Nat.div_add_mod]
    exact found
  · intro index lower upper
    rw [kept] at lower
    have page := inUse_of_index regular lower upper
    have holds := tracks.image _ page.1 (page.2.lt_window wellFormed)
    have tag :
        (headerOf item log
            (index / (geometry item).capacity)).beginTag =
          beginTagOf item log (index / (geometry item).capacity) :=
      if_pos page.2
    refine ⟨_, readHeader_eq holds,
      beginTagIsConsistent_eq tracks.info.toStaticInfo tag, ?_⟩
    rw [tag, blockId_toNat wellFormed, blockId_eq]
  · intro place slot inside slotInside unused
    rw [kept] at unused
    have lower := SegmentedLog.ordinalAt_ge log.oldest inside
    have upper := SegmentedLog.ordinalAt_lt log.oldest inside
    have atPlace :=
      SegmentedLog.ordinalAt_mod log.oldest inside
    have page :
        (geometry item).firstPage + place =
          (geometry item).pageOf
            (SegmentedLog.ordinalAt (geometry item).nrOfPages log.oldest
              place) := by
      rw [StoreGeometry.pageOf, atPlace]
    rw [page]
    apply slot_erased tracks lower upper slotInside
    by_contra occupied
    rw [pageItems, SegmentedLog.length_segment] at occupied
    have first := Nat.mul_le_mul_right (geometry item).capacity lower
    have index := unused
      (SegmentedLog.ordinalAt (geometry item).nrOfPages log.oldest place *
        (geometry item).capacity + slot) (by omega) (by omega)
    rw [SegmentedLog.div_of_position slotInside, atPlace,
      Nat.mul_comm, Nat.mul_add_mod, Nat.mod_eq_of_lt slotInside] at index
    exact index ⟨rfl, rfl⟩
  · have counted := SegmentedLog.countP_ordinalAt
      (geometry item).nrOfPages_pos wellFormed.oldest_le
      wellFormed.closed_le
    rw [tracks.info.nrOfFullPages_eq, ← counted]
    apply List.countP_congr
    intro place member
    have inside := List.mem_range.mp member
    have lower := SegmentedLog.ordinalAt_ge log.oldest inside
    have upper := SegmentedLog.ordinalAt_lt log.oldest inside
    have complete := isComplete_iff tracks lower upper
    rw [StoreGeometry.pageOf, SegmentedLog.ordinalAt_mod log.oldest inside]
      at complete
    rw [decide_eq_true_eq, complete]
  · rw [kept, Nat.mul_div_cancel _ positive,
      tracks.info.oldestPageInfo_eq]
    exact (geometry item).toNat_pageOf log.oldest
  · rw [regular.closed_eq]
    rfl
  · rw [tracks.info.nextWritePageInfo_eq, blockId_toNat wellFormed,
      blockId_eq, regular.closed_eq]
    rfl

end Content

/--
Ring retention: completed adds to an erased store all succeed, leave exactly
the newest items on flash with matching metadata, and the writes of the next
add target erased double words of the page the metadata names.
-/
theorem addItems_retain_newest
    (item : ItemDef)
    (items : List (List Byte))
    (sized :
      ∀ data ∈ items, data.length = (geometry item).itemSize) :
    ∃ state,
      runFromErased item items = .ok (state, true) ∧
      HoldsNewest item items state ∧
      ∀ data, data.length = (geometry item).itemSize →
        ∃ after effects,
          addItemCompleted state item data = .ok (after, true) ∧
          after.flash.history = state.flash.history ++ effects ∧
          ProgramsErased
            (pageAddr
              (state.itemStore item).nextWritePageInfo.pageId.toNat)
            (pageAddr
                (state.itemStore item).nextWritePageInfo.pageId.toNat +
              flashPageSize)
            state.flash.memory effects := by
  obtain ⟨state, run, tracks⟩ := runFromErased_tracks sized
  have regular := StoreLog.regular_ofItems sized
  have content := holdsNewest_of_tracks tracks regular
    (StoreLog.blockId_ofItems items)
  rw [StoreLog.items_ofItems] at content
  refine ⟨state, run, content, ?_⟩
  intro data size
  obtain ⟨after, added, _, frame⟩ :=
    addItemCompleted_tracks tracks regular.spacious size
  refine ⟨after, _, added, frame.history, ?_⟩
  rw [tracks.info.nextPage_eq]
  exact tracks.image.programs_addEffects regular size

/-- Settings records that all differ, in the order they are stored. -/
def numbered (count : Nat) : List (List Byte) :=
  (List.range count).map fun number =>
    UInt8.ofNat number :: List.replicate 127 0

theorem length_numbered (count : Nat) : (numbered count).length = count := by
  rw [numbered, List.length_map, List.length_range]

theorem numbered_sized (count : Nat) :
    ∀ data ∈ numbered count,
      data.length = (geometry .systemConfig).itemSize := by
  intro data member
  obtain ⟨number, _, rfl⟩ := List.mem_map.mp member
  rw [List.length_cons, List.length_replicate]
  rfl

theorem numbered_hasData (count : Nat) :
    ∀ data ∈ numbered count, hasNoData data = false := by
  intro data member
  obtain ⟨number, _, rfl⟩ := List.mem_map.mp member
  rw [hasNoData, List.all_cons, List.all_replicate, if_neg (by decide)]
  exact Bool.and_false _

/-- The third page erases the first one and reuses it. -/
theorem addItems_retain_newest_seventy :
    ∃ state,
      runFromErased .systemConfig (numbered 70) = .ok (state, true) ∧
      HoldsNewest .systemConfig (numbered 70) state := by
  obtain ⟨state, run, content, _⟩ :=
    addItems_retain_newest .systemConfig (numbered 70) (numbered_sized 70)
  exact ⟨state, run, content⟩

end DemoBoard.ItemStore
