import DemoBoard.ItemStoreRestart
import DemoBoard.ItemStoreSuffix

namespace DemoBoard.ItemStore

open ByteMemory

/-!
# Reset between two adds

The scan assumes that the block in the first flash page of the store has id 0
when that page is erased.  A reset loses nothing unless the last add has just
erased the first flash page in a turn of the ring whose block ids do not start
again at 0.
-/

/-- An enumeration from the first item returns these items. -/
def EnumeratesFromStart
    (state : ItemStoreState) (item : ItemDef)
    (items : List (List Byte)) : Prop :=
  if items = [] then
    (beginEnumerate state item (enumeratorFrom 0)).2.2 = false
  else
    EnumeratesExactly state item 0 items

/-- The state after a reset is equivalent to the state before it. -/
structure ResetEquivalent
    (item : ItemDef) (items : List (List Byte))
    (before after : ItemStoreState) : Prop where
  oldestPage : items ≠ [] →
    (after.itemStore item).oldestPageInfo.pageId.toNat =
      (geometry item).pageOf
        ((items.length - retainedCount (geometry item) items.length) /
          (geometry item).capacity)
  nextPage :
    (after.itemStore item).nextWritePageInfo.pageId =
      (before.itemStore item).nextWritePageInfo.pageId
  nextBlock :
    (after.itemStore item).nextWritePageInfo.blockId =
      (before.itemStore item).nextWritePageInfo.blockId
  fullPages :
    (after.itemStore item).nrOfFullPages =
      (List.range (geometry item).nrOfPages).countP fun place =>
        isComplete after ((geometry item).firstPage + place)
  enumeration : EnumeratesFromStart after item (keptItems item items)
  further : ∀ more : List (List Byte),
    (∀ data ∈ more, data.length = (geometry item).itemSize) →
      ∃ final,
        addItems item after more = .ok (final, true) ∧
        HoldsNewest item (items ++ more) final

/-- A reset over the flash of a state loses nothing. -/
def SurvivesReset
    (item : ItemDef) (items : List (List Byte))
    (before : ItemStoreState) : Prop :=
  ∃ after,
    recover before.flash.memory item = .ok after ∧
    ResetEquivalent item items before after

section Reset

variable {item : ItemDef}
variable {log : StoreLog}
variable {stale : Nat}
variable {state : ItemStoreState}

/-- Recovery that erases nothing. -/
theorem recover_eq
    {memory : Memory}
    {after : ItemStoreState}
    (booted : initItemStore (powerOn memory) item = .ok after)
    (idle : after.flash.Idle) :
    recover memory item = .ok after := by
  rw [recover, booted]
  exact finishErase_idle idle

/-- An enumeration from the first item of a log. -/
theorem enumeratesFromStart_of_tracks
    (tracks : Tracks item log stale state)
    (spacious : log.Spacious (geometry item))
    (staleLe : stale ≤ (geometry item).capacity) :
    EnumeratesFromStart state item (log.retained (geometry item)) := by
  have small := announcedItems_lt spacious staleLe
  have skip :
      itemsToSkip (announcedItems item log stale) 0 = 0 := by
    simp [itemsToSkip]
  have kept := @length_retained item log spacious.wellFormed
  rw [EnumeratesFromStart]
  split
  · next none =>
      rw [none, List.length_nil] at kept
      apply beginEnumerate_notReady tracks spacious staleLe 0 skip
      rw [Startable, none]
      have positive := (geometry item).capacity_pos
      rintro (some | ⟨closed, _⟩)
      · exact Nat.not_lt_zero _ some
      · have large := Nat.mul_le_mul_right (geometry item).capacity
          (show 1 ≤ log.closed - log.oldest by omega)
        rw [closedItems] at kept
        omega
  · next some =>
      have length := List.length_pos_of_ne_nil some
      have announced :
          (log.retained (geometry item)).length ≤
            announcedItems item log stale := by
        rw [kept, announcedItems, pageCount, if_pos rfl, closedItems,
          currentItems]
        split <;> omega
      rw [enumeratesExactly_iff tracks spacious staleLe 0 skip (by omega)]
      · refine ⟨Or.inl length, ?_⟩
        rw [startItem, if_pos (Nat.dvd_zero _), Nat.zero_sub,
          List.drop_zero, List.take_of_length_le (by omega)]
      · cases opened : log.opened with
        | false => exact Or.inr rfl
        | true =>
            exact Or.inl
              (Nat.le_of_eq (announcedItems_exact spacious (Or.inl opened)))

/-- Equivalence follows when the state after the reset tracks the log. -/
theorem resetEquivalent_of_tracks
    {before after : ItemStoreState}
    (beforeTracks : Tracks item log stale before)
    (afterTracks : Tracks item log 0 after)
    (regular : log.Regular (geometry item))
    (blockId_eq :
      ∀ ordinal, log.blockId ordinal = ordinal % maxBlockIndex) :
    ResetEquivalent item log.items before after where
  oldestPage := fun _ =>
    (holdsNewest_of_tracks afterTracks regular blockId_eq).oldestPage
  nextPage := by
    rw [afterTracks.info.nextWritePageInfo_eq,
      beforeTracks.info.nextWritePageInfo_eq]
  nextBlock := by
    rw [afterTracks.info.nextWritePageInfo_eq,
      beforeTracks.info.nextWritePageInfo_eq]
  fullPages :=
    (holdsNewest_of_tracks afterTracks regular blockId_eq).fullPages
  enumeration := by
    rw [← retained_eq_keptItems regular]
    exact enumeratesFromStart_of_tracks afterTracks regular.spacious
      (Nat.zero_le _)
  further := by
    intro more sized
    obtain ⟨final, _, added, tracks, _⟩ :=
      addItems_tracks afterTracks regular.spacious sized
    have content := holdsNewest_of_tracks tracks (regular.addAll sized)
      (by simpa [StoreLog.blockId_addAll] using blockId_eq)
    rw [StoreLog.items_addAll] at content
    exact ⟨final, added, content⟩

/-- The first flash page is erased although its block id is not 0. -/
def RestartLost (item : ItemDef) (log : StoreLog) : Prop :=
  log.opened = false ∧ (geometry item).nrOfPages ∣ log.closed ∧
    ¬ maxBlockIndex ∣ log.closed

/-- A log with counted block ids is recoverable unless a restart is lost. -/
theorem recoverable_of_counted
    (regular : log.Regular (geometry item))
    (hasData : ∀ data ∈ log.items, hasNoData data = false)
    (blockId_eq :
      ∀ ordinal, log.blockId ordinal = ordinal % maxBlockIndex)
    (notLost : ¬ RestartLost item log) :
    Recoverable item log := by
  apply (numbered_of_counted blockId_eq).recoverable regular
  · intro data member
    exact hasData data
      (List.mem_of_mem_drop (List.mem_of_mem_take member))
  · intro notInUse
    obtain ⟨same, notOpened⟩ := firstOrdinal_notInUse regular notInUse
    have place := (firstOrdinal_bounds item log).2.2
    rw [same] at place
    rw [blockId_eq]
    apply Nat.mod_eq_zero_of_dvd
    by_contra lost
    exact notLost ⟨notOpened, Nat.dvd_of_mod_eq_zero place, lost⟩

/-- A lost restart is one page or at least two pages behind. -/
theorem RestartLost.cases
    (lost : RestartLost item log) :
    log.closed % maxBlockIndex = (geometry item).nrOfPages ∨
      2 * (geometry item).nrOfPages ≤ log.closed % maxBlockIndex := by
  obtain ⟨_, divides, notWhole⟩ := lost
  obtain ⟨turns, shape⟩ :=
    (Nat.dvd_mod_iff (geometry item).wholeCycles).mpr divides
  have some : log.closed % maxBlockIndex ≠ 0 := fun none =>
    notWhole (Nat.dvd_of_mod_eq_zero none)
  rcases Nat.lt_trichotomy turns 1 with none | one | more
  · rw [Nat.lt_one_iff.mp none, Nat.mul_zero] at shape
    exact (some shape).elim
  · rw [one, Nat.mul_one] at shape
    exact Or.inl shape
  · have large := Nat.mul_le_mul_left (geometry item).nrOfPages more
    rw [← shape, Nat.mul_comm] at large
    exact Or.inr large

/-- A lost restart happens in a ring that has wrapped. -/
theorem RestartLost.nrOfPages_le
    (lost : RestartLost item log) :
    (geometry item).nrOfPages ≤ log.closed := by
  have some : log.closed ≠ 0 := by
    intro none
    apply lost.2.2
    rw [none]
    exact Nat.dvd_zero _
  exact Nat.le_of_dvd (by omega) lost.2.1

/-- Restarting at least two turns late gives consistent block ids. -/
theorem recoverable_renumber
    (regular : log.Regular (geometry item))
    (hasData : ∀ data ∈ log.items, hasNoData data = false)
    (blockId_eq :
      ∀ ordinal, log.blockId ordinal = ordinal % maxBlockIndex)
    (lost : RestartLost item log)
    (late : 2 * (geometry item).nrOfPages ≤ log.closed % maxBlockIndex) :
    Recoverable item (renumber log) := by
  have renumbered := (numbered_of_counted blockId_eq).renumber regular
    lost.2.1 (by rw [blockId_eq]; exact late)
  apply renumbered.recoverable (regular_renumber regular)
  · intro data member
    exact hasData data
      (List.mem_of_mem_drop (List.mem_of_mem_take member))
  · intro _
    simp [renumber]

/-- An enumeration that starts on an erased page is not ready. -/
theorem beginEnumerate_erased
    (read :
      readHeader state
          (state.itemStore item).oldestPageInfo.pageId.toNat =
        some PageHeader.erased) :
    (beginEnumerate state item (enumeratorFrom 0)).2.2 = false := by
  have search : ∀ (other : ItemStoreState) (page : Nat),
      readHeader other page = some PageHeader.erased →
      findStartLoop item 2 other
          { pageNr := page, skipping := 0, itemsOnPage := 0 } =
        (modifyStatus other item (setPage PageHeader.erased),
          some { pageNr := page, skipping := 0, itemsOnPage := 0 }) := by
    intro other page header
    have blank :
        PageHeader.erased.beginTag = PageBeginTag.erased := rfl
    unfold setPage
    simp only [findStartLoop, header,
      beginTagIsConsistent_erased _ _ blank, Bool.false_eq_true,
      not_false_eq_true, ↓reduceIte]
  have init : ∀ (other : ItemStoreState) (page slot : Nat),
      readHeader other page = some PageHeader.erased →
      (initEnumeratorStatus other item page slot).2 = false := by
    intro other page slot header
    have blank :
        PageHeader.erased.beginTag = PageBeginTag.erased := rfl
    have sameRead :
        readHeader
            (modifyStatus other item fun status =>
              { status with currentIndex := slot }) page =
          some PageHeader.erased := header
    simp only [initEnumeratorStatus, sameRead,
      beginTagIsConsistent_erased _ _ blank, Bool.false_eq_true,
      not_false_eq_true, ↓reduceIte]
  generalize total : ((state.itemStore item).currentPageNrOfItems +
    (state.itemStore item).nrOfFullPages *
      itemsOnFullPage (state.itemStore item)) % 65536 = count
  have sameRead :
      readHeader (prepared state item count 0)
          (state.itemStore item).oldestPageInfo.pageId.toNat =
        some PageHeader.erased := read
  have position :
      findEnumeratorStartPosition (prepared state item count 0) item =
        (modifyStatus (prepared state item count 0) item
          (setPage PageHeader.erased),
          some ((state.itemStore item).oldestPageInfo.pageId.toNat, 0)) := by
    have page :
        ((prepared state item count 0).itemStore
            item).oldestPageInfo.pageId =
          (state.itemStore item).oldestPageInfo.pageId := by
      simp [prepared, ItemStore.modifyStatus]
    have skip :
        ((prepared state item count 0).itemStore
            item).enumeratorStatus.itemsToSkip = 0 := by
      rw [prepared, modifyStatus_same]
      rfl
    simp only [findEnumeratorStartPosition, page, skip]
    simp [search _ _ sameRead]
  have begun := @beginEnumerate_eq item state 0 count 0 total rfl
  have notReady := init
    (modifyStatus (prepared state item count 0) item
      (setPage PageHeader.erased))
    (state.itemStore item).oldestPageInfo.pageId.toNat 0 sameRead
  rw [begun, position]
  rcases started : initEnumeratorStatus
    (modifyStatus (prepared state item count 0) item
      (setPage PageHeader.erased)) item
    (state.itemStore item).oldestPageInfo.pageId.toNat 0 with ⟨next, ready⟩
  rw [started] at notReady
  cases notReady
  simp only [started]

/--
A reset one turn after the block ids started at 0: the scan takes the erased
first page for the oldest one.
-/
theorem initItemStore_adjacent
    (fresh : Fresh item state)
    (regular : log.Regular (geometry item))
    (image : StoreImage item log state.flash.memory)
    (hasData : ∀ data ∈ log.items, hasNoData data = false)
    (blockId_eq :
      ∀ ordinal, log.blockId ordinal = ordinal % maxBlockIndex)
    (lost : RestartLost item log)
    (adjacent :
      log.closed % maxBlockIndex = (geometry item).nrOfPages) :
    ∃ after,
      initItemStore state item = .ok after ∧
      Extends item [] state after ∧
      after.flash = state.flash ∧
      after.listenerState = state.listenerState ∧
      (after.itemStore item).oldestPageInfo.pageId.toNat =
        (geometry item).pageOf log.closed := by
  have wellFormed := regular.wellFormed
  have several := (geometry item).severalPages
  have oldest := regular.oldest_eq
  rw [SegmentedLog.oldest] at oldest
  have wrapped := lost.nrOfPages_le
  have turn := (geometry item).pageOf_add_nrOfPages
    (log.closed - (geometry item).nrOfPages)
  rw [Nat.sub_add_cancel wrapped] at turn
  have place :
      (log.closed - (geometry item).nrOfPages) %
        (geometry item).nrOfPages = 0 :=
    Nat.mod_eq_zero_of_dvd (Nat.dvd_sub lost.2.1 (Nat.dvd_refl _))
  have bounds := firstOrdinal_bounds item log
  have first : firstOrdinal item log = log.closed :=
    SegmentedLog.eq_of_same_place bounds.1 bounds.2.1
      wellFormed.oldest_le regular.inWindow
      (by rw [bounds.2.2, Nat.mod_eq_zero_of_dvd lost.2.1])
  have notInUse : ¬ InUse log (firstOrdinal item log) := by
    rw [first]
    rintro (closed | ⟨_, opened⟩)
    · exact Nat.lt_irrefl _ closed
    · rw [lost.1] at opened
      cases opened
  have block :
      log.blockId (log.closed - (geometry item).nrOfPages) = 0 := by
    rw [blockId_eq]
    simp only [maxBlockIndex] at adjacent ⊢
    omega
  have scannable :
      Scannable item log (log.closed - (geometry item).nrOfPages)
        (log.closed - (geometry item).nrOfPages) (log.closed - 1)
        state :=
    { static := fresh.static
      wellFormed := wellFormed
      image := image
      hasData := by
        intro data member
        exact hasData data
          (List.mem_of_mem_drop (List.mem_of_mem_take member))
      ordered := by
        rw [show log.blockId = fun ordinal => ordinal % maxBlockIndex from
          funext blockId_eq]
        exact blocksOrdered_mod (geometry item) (by omega)
      known := by
        rintro ordinal lower _ (closed | ⟨_, opened⟩)
        · omega
        · rw [lost.1] at opened
          cases opened
      start_known := by omega
      start_place := place
      start_inUse := fun inUse => (notInUse inUse).elim
      start_tag := fun _ => initialTag_eq fresh.static place block }
  obtain ⟨found, header, low, high, run, invariant⟩ :=
    scannable.scan_all (by
      intro opened
      rw [lost.1] at opened
      cases opened)
  have lowEq : low = log.closed - (geometry item).nrOfPages := by
    have lowLe := invariant.low_le
    rcases invariant.low_inUse with same | ⟨_, lower⟩ <;> omega
  have highEq : high = log.closed - 1 := by
    have highGe := invariant.high_ge
    have inUse : InUse log (log.closed - 1) := Or.inl (by omega)
    have bound := invariant.bounds (log.closed - 1) (by omega)
      (by omega) inUse (Nat.mod_lt _ (geometry item).nrOfPages_pos)
    rcases invariant.high_inUse with same | ⟨closed | ⟨_, opened⟩, _⟩
    · omega
    · omega
    · rw [lost.1] at opened
      cases opened
  have newest := invariant.newest_eq
  rw [highEq] at newest
  have holds := image.currentPage wellFormed regular.inWindow
  rw [headerOf_notOpened item lost.1] at holds
  have read :
      readHeader (withScan state item found)
          (completeTagOf item log (log.closed - 1)).nextPage.toNat =
        some PageHeader.erased := by
    have page :
        (completeTagOf item log (log.closed - 1)).nextPage.toNat =
          (geometry item).pageOf log.closed := by
      rw [completeTagOf, (geometry item).toNat_pageOf,
        Nat.sub_add_cancel (by omega)]
    rw [page]
    exact readHeader_eq holds
  refine
    ⟨modifyInfo (withScan state item found) item
      (pointTo (completeTagOf item log (log.closed - 1))), ?_,
      extends_pointed found _, rfl, rfl, ?_⟩
  · rw [initItemStore_closed fresh image (by omega) (by omega) (by omega)
      run newest, adjustNextWritePage_erased read]
    rfl
  · rw [withScan, modifyInfo_modifyInfo, modifyInfo_same]
    simp only [pointTo, invariant.oldest_eq, lowEq]
    rw [turn]
    exact (geometry item).toNat_pageOf _

/-- A reset that restarts the block ids wrongly loses pages. -/
theorem RestartLost.not_survivesReset
    (lost : RestartLost item log)
    (tracks : Tracks item log stale state)
    (regular : log.Regular (geometry item))
    (hasData : ∀ data ∈ log.items, hasNoData data = false)
    (blockId_eq :
      ∀ ordinal, log.blockId ordinal = ordinal % maxBlockIndex) :
    ¬ SurvivesReset item log.items state := by
  rintro ⟨after, recovered, equivalent⟩
  have several := (geometry item).severalPages
  have wrapped := lost.nrOfPages_le
  have oldest := regular.oldest_eq
  rw [SegmentedLog.oldest] at oldest
  have fresh := fresh_powerOn item state.flash.memory
  rcases lost.cases with adjacent | late
  · obtain ⟨other, booted, _, flash, _, oldestPage⟩ :=
      initItemStore_adjacent fresh regular tracks.image hasData blockId_eq
        lost adjacent
    rw [recover_eq booted (by rw [flash]; exact fresh.idle)] at recovered
    cases recovered
    have someItem : log.items ≠ [] := by
      intro none
      have lower := regular.wellFormed.items_ge
      have large := Nat.mul_le_mul_right (geometry item).capacity
        (show 1 ≤ log.closed by omega)
      have positive := (geometry item).capacity_pos
      rw [none, List.length_nil] at lower
      omega
    have expected := equivalent.oldestPage someItem
    rw [oldestPage, length_sub_retainedCount regular,
      Nat.mul_div_cancel _ (geometry item).capacity_pos] at expected
    have same := (geometry item).pageOf_injective
      regular.wellFormed.oldest_le regular.inWindow (Nat.le_refl _)
      (by omega) expected
    omega
  · obtain ⟨other, booted, otherTracks, _⟩ :=
      initItemStore_regular fresh (regular_renumber regular)
        (image_renumber lost.1 tracks.image)
        (recoverable_renumber regular hasData blockId_eq lost late)
    rw [recover_eq booted otherTracks.idle] at recovered
    cases recovered
    have nextBlock := congrArg UInt8.toNat equivalent.nextBlock
    rw [otherTracks.info.nextWritePageInfo_eq,
      tracks.info.nextWritePageInfo_eq,
      blockId_toNat otherTracks.wellFormed,
      blockId_toNat tracks.wellFormed, blockId_eq] at nextBlock
    simp only [renumber, Nat.lt_irrefl, ↓reduceIte, Nat.sub_self,
      Nat.zero_mod] at nextBlock
    omega

end Reset

/-- The number of adds after which a reset restarts the block ids wrongly. -/
theorem restartLost_ofItems_iff
    {item : ItemDef}
    {items : List (List Byte)}
    (sized : ∀ data ∈ items, data.length = (geometry item).itemSize) :
    RestartLost item (StoreLog.ofItems (geometry item) items) ↔
      (geometry item).nrOfPages * (geometry item).capacity ∣ items.length ∧
        ¬ maxBlockIndex * (geometry item).capacity ∣ items.length := by
  have positive := (geometry item).capacity_pos
  have regular := StoreLog.regular_ofItems sized
  have closed := regular.closed_eq
  rw [SegmentedLog.current, StoreLog.items_ofItems] at closed
  have opened := StoreLog.opened_ofItems sized
  by_cases whole : (geometry item).capacity ∣ items.length
  · obtain ⟨pages, length⟩ := whole
    rw [Nat.mul_comm] at length
    rw [length, Nat.mul_div_cancel _ positive] at closed
    rw [length, Nat.mul_mod_left] at opened
    rw [RestartLost, closed, length, Nat.mul_dvd_mul_iff_right positive,
      Nat.mul_dvd_mul_iff_right positive]
    have notOpened :
        (StoreLog.ofItems (geometry item) items).opened = false := by
      simpa using opened
    simp only [notOpened, true_and]
  · have partly :
        (StoreLog.ofItems (geometry item) items).opened = true :=
      opened.mpr fun none => whole (Nat.dvd_of_mod_eq_zero none)
    constructor
    · rintro ⟨notOpened, _⟩
      rw [partly] at notOpened
      cases notOpened
    · rintro ⟨divides, _⟩
      exact (whole (Nat.dvd_trans (Nat.dvd_mul_left _ _) divides)).elim

/--
After any number of adds, a reset loses nothing if and only if the number of
items is not a whole number of turns of the ring, or is a whole number of turns
of the block ids.
-/
theorem survives_reset_iff
    (item : ItemDef)
    (items : List (List Byte))
    (sized : ∀ data ∈ items, data.length = (geometry item).itemSize)
    (hasData : ∀ data ∈ items, hasNoData data = false) :
    ∃ before,
      runFromErased item items = .ok (before, true) ∧
      EnumeratesFromStart before item (keptItems item items) ∧
      (SurvivesReset item items before ↔
        ¬ (geometry item).nrOfPages * (geometry item).capacity ∣
            items.length ∨
          maxBlockIndex * (geometry item).capacity ∣ items.length) := by
  obtain ⟨before, run, tracks⟩ := runFromErased_tracks sized
  have regular := StoreLog.regular_ofItems sized
  have blockId_eq := @StoreLog.blockId_ofItems (geometry item) items
  have kept := retained_eq_keptItems regular
  have lost := restartLost_ofItems_iff sized
  have enumeration := enumeratesFromStart_of_tracks tracks regular.spacious
    (staleAfter_le item (Nat.zero_le _) items)
  rw [kept, StoreLog.items_ofItems] at enumeration
  refine ⟨before, run, enumeration, ?_⟩
  constructor
  · intro survives
    by_contra condition
    have isLost := lost.mpr (by tauto)
    apply isLost.not_survivesReset tracks regular _ blockId_eq
    · rw [StoreLog.items_ofItems]
      exact survives
    · rw [StoreLog.items_ofItems]
      exact hasData
  · intro condition
    obtain ⟨after, booted, afterTracks, _⟩ :=
      initItemStore_regular (fresh_powerOn item before.flash.memory)
        regular tracks.image
        (recoverable_of_counted regular
          (by rw [StoreLog.items_ofItems]; exact hasData) blockId_eq
          (by rw [lost]; tauto))
    have equivalent := resetEquivalent_of_tracks tracks afterTracks regular
      blockId_eq
    rw [StoreLog.items_ofItems] at equivalent
    exact ⟨after, recover_eq booted afterTracks.idle, equivalent⟩

/-- A turn of the ring, eight records on the reused page, and a reset. -/
theorem survives_reset_iff_seventy :
    ∃ before,
      runFromErased .systemConfig (numbered 70) = .ok (before, true) ∧
      EnumeratesFromStart before .systemConfig ((numbered 70).drop 31) ∧
      SurvivesReset .systemConfig (numbered 70) before := by
  obtain ⟨before, run, enumerates, survives⟩ :=
    survives_reset_iff .systemConfig (numbered 70) (numbered_sized 70)
      (numbered_hasData 70)
  rw [keptItems_seventy] at enumerates
  refine ⟨before, run, enumerates, survives.mpr (Or.inl ?_)⟩
  rw [length_numbered]
  decide

/-- 62 settings records fill the ring once; a reset then loses a page. -/
theorem survives_reset_not_62 :
    ∃ before,
      runFromErased .systemConfig
          (List.replicate 62 (List.replicate 128 0)) =
        .ok (before, true) ∧
      ¬ SurvivesReset .systemConfig
          (List.replicate 62 (List.replicate 128 0)) before := by
  have sized :
      ∀ data ∈ List.replicate 62 (List.replicate 128 (0 : Byte)),
        data.length = (geometry .systemConfig).itemSize := by
    intro data member
    rw [List.eq_of_mem_replicate member, List.length_replicate]
    rfl
  have hasData :
      ∀ data ∈ List.replicate 62 (List.replicate 128 (0 : Byte)),
        hasNoData data = false := by
    intro data member
    rw [List.eq_of_mem_replicate member]
    rfl
  obtain ⟨before, run, tracks⟩ := runFromErased_tracks sized
  have regular := StoreLog.regular_ofItems sized
  have lost := (restartLost_ofItems_iff sized).mpr
    (by rw [List.length_replicate]; decide)
  have fails := lost.not_survivesReset tracks regular
    (by rw [StoreLog.items_ofItems]; exact hasData)
    (StoreLog.blockId_ofItems _)
  rw [StoreLog.items_ofItems] at fails
  exact ⟨before, run, fails⟩

end DemoBoard.ItemStore
