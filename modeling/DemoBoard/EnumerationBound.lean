import DemoBoard.ItemStorePlaced
import DemoBoard.ItemStoreReset

namespace DemoBoard.ItemStore

open ByteMemory

/-!
# Where enumerations end

An enumeration starts on the oldest page and goes on page by page, whatever the
block ids are.  It ends at a page without a consistent header, and at a page
with room that is not the one for the next item.
-/

/-- A page that no enumeration can be positioned on. -/
def Blocked
    (state : ItemStoreState) (item : ItemDef) (page : Nat) : Prop :=
  beginTagIsConsistent (state.itemStore item)
      (headerAt state.flash.memory page) page = false ∨
    page ≠ writePage state item ∧
      completeTagIsConsistent (state.itemStore item)
        (headerAt state.flash.memory page) page = false

/-- Full pages of a store, followed by a page no enumeration can enter. -/
structure Runway
    (item : ItemDef) (first count : Nat) (state : ItemStoreState) :
    Prop where
  static : StaticInfo item (state.itemStore item)
  lower : (geometry item).firstPage ≤ first
  upper :
    first + count ≤ (geometry item).firstPage + (geometry item).nrOfPages
  tags : ∀ page, first ≤ page → page < first + count →
    (headerAt state.flash.memory page).beginTag.itemId = item.toByte ∧
      (headerAt state.flash.memory page).beginTag.pageId.toNat = page
  notCurrent : ∀ page, first ≤ page → page < first + count →
    page ≠ writePage state item
  blocked : ∀ page, page + 1 = first + count →
    Blocked state item (nextPageOf item page)

/-- An enumeration that reads the items of a full page. -/
structure Walking
    (item : ItemDef) (state : ItemStoreState) (enumerator : Enumerator)
    (page : Nat) : Prop where
  details : enumerator.enumeratorDetails = some item
  header :
    (state.itemStore item).enumeratorStatus.enumeratingPage =
      headerAt state.flash.memory page
  full :
    (state.itemStore item).enumeratorStatus.itemsOnPage =
      (geometry item).capacity
  index_le :
    (state.itemStore item).enumeratorStatus.currentIndex ≤
      (geometry item).capacity

section Bound

variable {item : ItemDef}
variable {state after : ItemStoreState}
variable {enumerator : Enumerator}
variable {first count page : Nat}

theorem SameContent.static
    (same : SameContent state after)
    (static : StaticInfo item (state.itemStore item)) :
    StaticInfo item (after.itemStore item) := by
  obtain ⟨_, _, _, info⟩ := same.info item
  rw [info]
  exact { static with }

theorem Blocked.sameContent
    (blocked : Blocked state item page)
    (same : SameContent state after) :
    Blocked after item page := by
  obtain ⟨_, _, _, info⟩ := same.info item
  rw [Blocked, same.flash, same.writePage_eq item, info]
  exact blocked

theorem Runway.sameContent
    (runway : Runway item first count state)
    (same : SameContent state after) :
    Runway item first count after where
  static := same.static runway.static
  lower := runway.lower
  upper := runway.upper
  tags := by
    rw [same.flash]
    exact runway.tags
  notCurrent := by
    rw [same.writePage_eq item]
    exact runway.notCurrent
  blocked := fun page last => (runway.blocked page last).sameContent same

/-- No enumeration is positioned on a blocked page. -/
theorem initEnumeratorStatus_blocked
    (blocked : Blocked state item page)
    (startIndex : Nat) :
    (initEnumeratorStatus state item page startIndex).2 = false := by
  have read : ∀ change,
      readHeader (modifyStatus state item change) page =
        some (headerAt state.flash.memory page) :=
    fun change => readHeader_headerAt _ page
  have still := blocked.sameContent
    (changesStatus_modifyStatus state item fun status =>
      { status with
        currentIndex := startIndex
        enumeratingPage := headerAt state.flash.memory page }).sameContent
  simp only [Blocked, modifyStatus_flash, writePage] at still
  simp only [initEnumeratorStatus, read, modifyStatus_modifyStatus]
  rcases still with noTag | ⟨notCurrent, notClosed⟩
  · simp only [noTag, Bool.false_eq_true, not_false_eq_true, if_true]
  · split
    · rfl
    · simp only [notClosed, Bool.false_eq_true, not_false_eq_true, if_true]

/-- An enumeration that is positioned on a page before the current one. -/
theorem initEnumeratorStatus_full
    (static : StaticInfo item (state.itemStore item))
    (notCurrent : page ≠ writePage state item)
    {startIndex : Nat}
    (ready :
      initEnumeratorStatus state item page startIndex = (after, true)) :
    let status := (after.itemStore item).enumeratorStatus
    status.enumeratingPage = headerAt state.flash.memory page ∧
      status.itemsOnPage = (geometry item).capacity ∧
      status.currentIndex = startIndex := by
  have read : ∀ change,
      readHeader (modifyStatus state item change) page =
        some (headerAt state.flash.memory page) :=
    fun change => readHeader_headerAt _ page
  have elsewhere : ∀ change,
      page ≠
        ((modifyStatus state item change).itemStore
          item).nextWritePageInfo.pageId.toNat := by
    intro change
    have same := (changesStatus_modifyStatus state item change).sameContent
    rw [← writePage, same.writePage_eq]
    exact notCurrent
  have capacity : ∀ change,
      itemsOnFullPage ((modifyStatus state item change).itemStore item) =
        (geometry item).capacity := by
    intro change
    have same := (changesStatus_modifyStatus state item change).sameContent
    exact itemsOnFullPage_eq (same.static static)
  simp only [initEnumeratorStatus, read, modifyStatus_modifyStatus,
    elsewhere, capacity, if_false] at ready
  split at ready
  · cases ready
  · split at ready
    · cases ready
    · obtain ⟨positioned, _⟩ := Prod.mk.inj ready
      subst positioned
      rw [modifyStatus_same]
      exact ⟨rfl, rfl, rfl⟩

/-- The position after an item is delivered. -/
def counted (status : EnumeratorStatus) : EnumeratorStatus :=
  { status with
    currentIndex := (status.currentIndex + 1) % 65536
    itemsRead := (status.itemsRead + 1) % 65536 }

theorem currentIndex_counted (status : EnumeratorStatus) :
    (counted status).currentIndex = (status.currentIndex + 1) % 65536 :=
  rfl

/-- `ItemStore_GetNext` when it delivers an item of a page of the store. -/
theorem getNext_delivered
    (details : enumerator.enumeratorDetails = some item)
    (named :
      ItemDef.ofByte?
        (state.itemStore item).enumeratorStatus.enumeratingPage.beginTag.itemId
          = some item)
    {data : List Byte}
    (delivered : (getNext state enumerator).2.2 = some data) :
    ∃ positioned,
      (if (state.itemStore item).enumeratorStatus.currentIndex =
          (state.itemStore item).enumeratorStatus.itemsOnPage then
        initEnumeratorStatus state item
          (nextPageNr (state.itemStore item)
            (state.itemStore
              item).enumeratorStatus.enumeratingPage.beginTag.pageId.toNat)
          0
      else
        (state, true)) = (positioned, true) ∧
      (getNext state enumerator).1 =
        modifyStatus positioned item counted ∧
      (getNext state enumerator).2.1.enumeratorDetails = some item := by
  simp only [getNext, details, named] at delivered ⊢
  cases more : enumerator.hasMoreItems with
  | false =>
      simp [more] at delivered
  | true =>
      simp only [more, not_true_eq_false, if_false] at delivered ⊢
      generalize turned :
        (if (state.itemStore item).enumeratorStatus.currentIndex =
            (state.itemStore item).enumeratorStatus.itemsOnPage then
          initEnumeratorStatus state item _ 0
        else
          (state, true)) = outcome at delivered ⊢
      obtain ⟨positioned, success⟩ := outcome
      cases success with
      | false => cases delivered
      | true =>
          refine ⟨positioned, rfl, ?_⟩
          simp only [Bool.true_eq_false, if_false] at delivered ⊢
          split at delivered
          · cases delivered
          · next read =>
              exact ⟨rfl, rfl⟩

/-- `ItemStore_GetNext` stays on the page or goes on to the next one. -/
theorem Walking.getNext
    (walking : Walking item state enumerator page)
    (runway : Runway item first count state)
    (lower : first ≤ page)
    (upper : page < first + count)
    {data : List Byte}
    (delivered : (getNext state enumerator).2.2 = some data) :
    ∃ nextPage,
      first ≤ nextPage ∧ nextPage < first + count ∧
      Walking item (ItemStore.getNext state enumerator).1
        (ItemStore.getNext state enumerator).2.1 nextPage ∧
      Runway item first count (ItemStore.getNext state enumerator).1 ∧
      (first + count - nextPage) * (geometry item).capacity + 1 +
          (state.itemStore item).enumeratorStatus.currentIndex ≤
        (first + count - page) * (geometry item).capacity +
          ((ItemStore.getNext state enumerator).1.itemStore
            item).enumeratorStatus.currentIndex := by
  have positive := (geometry item).capacity_pos
  have small := (geometry item).capacity_le
  have inStore := runway.upper
  have storeFirst := runway.lower
  obtain ⟨itemId, pageId⟩ := runway.tags page lower upper
  have named :
      ItemDef.ofByte?
        (state.itemStore item).enumeratorStatus.enumeratingPage.beginTag.itemId
          = some item := by
    rw [walking.header, itemId]
    exact ItemDef.ofByte?_toByte item
  obtain ⟨positioned, turned, after_eq, details⟩ :=
    getNext_delivered walking.details named delivered
  have index_le := walking.index_le
  have step := changesStatus_modifyStatus positioned item counted
  rw [walking.header, pageId, nextPageNr_eq runway.static,
    walking.full] at turned
  rw [after_eq]
  split at turned
  · next atEnd =>
      have changed := initEnumeratorStatus_changesStatus state item
        (nextPageOf item page) 0
      rw [turned] at changed
      have same := (changed.trans step).sameContent
      have inside : page + 1 < first + count := by
        by_contra last
        have stuck := initEnumeratorStatus_blocked
          (runway.blocked page (by omega)) 0
        rw [turned] at stuck
        cases stuck
      have next : nextPageOf item page = page + 1 := by
        rw [nextPageOf, if_pos (by omega)]
      rw [next] at turned
      obtain ⟨header, full, start⟩ :=
        initEnumeratorStatus_full runway.static
          (runway.notCurrent (page + 1) (by omega) inside) turned
      refine ⟨page + 1, by omega, inside, ⟨details, ?_, ?_, ?_⟩,
        runway.sameContent same, ?_⟩
      · rw [modifyStatus_same, modifyStatus_flash, changed.sameContent.flash]
        exact header
      · rw [modifyStatus_same]
        exact full
      · rw [modifyStatus_same, currentIndex_counted, start]
        omega
      · rw [modifyStatus_same, currentIndex_counted, start, atEnd,
          show first + count - page = first + count - (page + 1) + 1 by
            omega, Nat.succ_mul]
        omega
  · obtain ⟨rfl, _⟩ := Prod.mk.inj turned
    refine ⟨page, lower, upper, ⟨details, ?_, ?_, ?_⟩,
      runway.sameContent step.sameContent, ?_⟩
    · rw [modifyStatus_same, modifyStatus_flash]
      exact walking.header
    · rw [modifyStatus_same]
      exact walking.full
    · rw [modifyStatus_same, currentIndex_counted]
      omega
    · rw [modifyStatus_same, currentIndex_counted]
      omega

/-- No more items are delivered than the full pages hold. -/
theorem Delivers.length_le
    {items : List (List Byte)}
    (delivers : Delivers state enumerator items)
    (walking : Walking item state enumerator page)
    (runway : Runway item first count state)
    (lower : first ≤ page)
    (upper : page < first + count) :
    items.length +
        (state.itemStore item).enumeratorStatus.currentIndex ≤
      (first + count - page) * (geometry item).capacity := by
  induction items generalizing state enumerator page with
  | nil =>
      have onPage := Nat.mul_le_mul_right (geometry item).capacity
        (show 1 ≤ first + count - page by omega)
      have index_le := walking.index_le
      rw [List.length_nil]
      omega
  | cons data rest inductionHypothesis =>
      rw [Delivers] at delivers
      obtain ⟨nextPage, nextLower, nextUpper, nextWalking, nextRunway,
          progress⟩ :=
        walking.getNext runway lower upper delivers.1
      have remaining := inductionHypothesis delivers.2 nextWalking
        nextRunway nextLower nextUpper
      rw [List.length_cons]
      omega

/-- The search loop stays on its page when no items are to be skipped. -/
theorem findStartLoop_zero
    (static : StaticInfo item (state.itemStore item))
    (fuel : Nat) :
    ∃ search,
      (findStartLoop item (fuel + 1) state
        { pageNr := page, skipping := 0, itemsOnPage := 0 }).2 =
          some search ∧
      search.pageNr = page ∧
      search.skipping ≤ 0 ∧
      search.itemsOnPage + search.skipping = 0 := by
  have positive := (geometry item).capacity_pos
  have capacity : ∀ change,
      itemsOnFullPage ((modifyStatus state item change).itemStore item) =
        (geometry item).capacity := by
    intro change
    have same := (changesStatus_modifyStatus state item change).sameContent
    exact itemsOnFullPage_eq (same.static static)
  rw [findStartLoop]
  simp only [readHeader_headerAt, capacity]
  split
  · exact ⟨_, rfl, rfl, Int.le_refl 0, rfl⟩
  · split
    · rw [if_neg (by omega), if_neg (by omega)]
      exact ⟨_, rfl, rfl, by dsimp only; omega, by dsimp only; omega⟩
    · exact ⟨_, rfl, rfl, by dsimp only; omega, by dsimp only; omega⟩

/-- The first item is looked for on the oldest page. -/
theorem findEnumeratorStartPosition_zero
    (static : StaticInfo item (state.itemStore item))
    (noSkip :
      (state.itemStore item).enumeratorStatus.itemsToSkip = 0) :
    (findEnumeratorStartPosition state item).2 =
      some ((state.itemStore item).oldestPageInfo.pageId.toNat, 0) := by
  obtain ⟨search, found, page, skipping, index⟩ :=
    @findStartLoop_zero item state
      (state.itemStore item).oldestPageInfo.pageId.toNat static 1
  rw [findEnumeratorStartPosition, noSkip]
  simp only [Nat.cast_zero, found, page, index]
  rw [if_neg (by omega)]
  rfl

/-- An enumeration from the first item begins on the oldest page. -/
theorem beginEnumerate_zero
    (static : StaticInfo item (state.itemStore item)) :
    ∃ searched,
      SameContent state searched ∧
      ((beginEnumerate state item (enumeratorFrom 0)).2.2 = true →
        ∃ positioned,
          initEnumeratorStatus searched item
              (state.itemStore item).oldestPageInfo.pageId.toNat 0 =
            (positioned, true) ∧
          (beginEnumerate state item (enumeratorFrom 0)).1 =
            (modifyInfo positioned item fun info =>
              { info with currentState := .enumerating }) ∧
          (beginEnumerate state item
            (enumeratorFrom 0)).2.1.enumeratorDetails = some item) := by
  generalize total_eq : ((state.itemStore item).currentPageNrOfItems +
    (state.itemStore item).nrOfFullPages *
      itemsOnFullPage (state.itemStore item)) % 65536 = total
  have started : SameContent state (prepared state item total 0) :=
    (changesStatus_modifyStatus state item _).sameContent
  have oldest :
      ((prepared state item total 0).itemStore item).oldestPageInfo =
        (state.itemStore item).oldestPageInfo := by
    obtain ⟨_, _, _, info⟩ := started.info item
    rw [info]
  have position := findEnumeratorStartPosition_zero (started.static static)
    (by rw [prepared, modifyStatus_same]; rfl)
  rw [oldest] at position
  have found := findEnumeratorStartPosition_searchesStatus
    (prepared state item total 0) item
  have begun := @beginEnumerate_eq item state 0 total 0 total_eq rfl
  rw [begun]
  generalize findEnumeratorStartPosition (prepared state item total 0)
    item = outcome at position found ⊢
  obtain ⟨searched, start⟩ := outcome
  cases position
  refine ⟨searched, started.trans found.changesStatus.sameContent, ?_⟩
  dsimp only
  cases positioned : initEnumeratorStatus searched item
    (state.itemStore item).oldestPageInfo.pageId.toNat 0 with
  | mk final success =>
      cases success with
      | false => exact fun failed => absurd failed Bool.false_ne_true
      | true => exact fun _ => ⟨final, rfl, rfl, rfl⟩

/-- No enumeration begins on a blocked oldest page. -/
theorem beginEnumerate_blocked
    (static : StaticInfo item (state.itemStore item))
    (blocked :
      Blocked state item
        (state.itemStore item).oldestPageInfo.pageId.toNat) :
    (beginEnumerate state item (enumeratorFrom 0)).2.2 = false := by
  obtain ⟨searched, same, begun⟩ := beginEnumerate_zero static
  by_contra ready
  obtain ⟨positioned, started, _⟩ := begun (Bool.eq_true_of_not_eq_false ready)
  have stuck :=
    initEnumeratorStatus_blocked (blocked.sameContent same) 0
  rw [started] at stuck
  cases stuck

/-- No enumeration gets behind the pages of a runway. -/
theorem EnumeratesFromStart.length_le
    {items : List (List Byte)}
    (enumerates : EnumeratesFromStart state item items)
    (runway :
      Runway item (state.itemStore item).oldestPageInfo.pageId.toNat count
        state)
    (inStore :
      InStore item (state.itemStore item).oldestPageInfo.pageId.toNat) :
    items.length ≤ count * (geometry item).capacity := by
  generalize oldest :
    (state.itemStore item).oldestPageInfo.pageId.toNat = first
    at runway inStore
  rw [EnumeratesFromStart] at enumerates
  split at enumerates
  · next none =>
      rw [none]
      exact Nat.zero_le _
  · obtain ⟨ready, delivers⟩ := enumerates
    have some : 0 < count := by
      by_contra none
      have writable := inStore.writable.1
      simp only [firstWritableFlashPage] at writable
      have blocked := runway.blocked (first - 1) (by omega)
      rw [nextPageOf, if_pos (by unfold InStore at inStore; omega),
        Nat.sub_add_cancel (by omega), ← oldest] at blocked
      rw [beginEnumerate_blocked runway.static blocked] at ready
      cases ready
    obtain ⟨searched, same, begun⟩ := beginEnumerate_zero runway.static
    obtain ⟨positioned, started, after_eq, details⟩ := begun ready
    rw [oldest] at started
    have searchedRunway := runway.sameContent same
    obtain ⟨header, full, start⟩ :=
      initEnumeratorStatus_full searchedRunway.static
        (searchedRunway.notCurrent first (Nat.le_refl _) (by omega)) started
    have changed :=
      initEnumeratorStatus_changesStatus searched item first 0
    rw [started] at changed
    have opened : SameContent positioned
        (modifyInfo positioned item fun info =>
          { info with currentState := .enumerating }) :=
      sameContent_modifyInfo positioned item fun _ => ⟨_, _, _, rfl⟩
    have walking :
        Walking item
          (beginEnumerate state item (enumeratorFrom 0)).1
          (beginEnumerate state item (enumeratorFrom 0)).2.1 first := by
      refine ⟨details, ?_, ?_, ?_⟩
      · rw [after_eq, opened.flash, changed.sameContent.flash,
          modifyInfo_same]
        exact header
      · rw [after_eq, modifyInfo_same]
        exact full
      · rw [after_eq, modifyInfo_same]
        exact Nat.le_trans (Nat.le_of_eq start) (Nat.zero_le _)
    have bound := delivers.length_le walking
      (by
        rw [after_eq]
        exact (searchedRunway.sameContent changed.sameContent).sameContent
          opened)
      (Nat.le_refl _) (by omega)
    rw [Nat.add_sub_cancel_left] at bound
    omega

end Bound

end DemoBoard.ItemStore
