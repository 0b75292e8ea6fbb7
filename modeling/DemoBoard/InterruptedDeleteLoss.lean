import Mathlib.Order.Interval.Finset.Nat
import DemoBoard.InterruptedDeleteScan

namespace DemoBoard.InterruptedDelete

open ByteMemory ItemStore

/-!
# Resets that lose items

Where the scan goes wrong, enumerations end before the last item that is left,
or before an item that is added after the reset.
-/

section Add

variable {item : ItemDef}
variable {state after : ItemStoreState}
variable {ok : Bool}

/-- What an add to an erased page keeps. -/
structure AddsToPage
    (item : ItemDef) (before after : ItemStoreState) : Prop where
  static : StaticInfo item (after.itemStore item)
  rest : AtRest after
  writePage_eq : writePage after item = writePage before item
  oldest_eq :
    (after.itemStore item).oldestPageInfo =
      (before.itemStore item).oldestPageInfo
  headers : ∀ page, page ≠ writePage before item →
    headerBytes after.flash.memory page =
      headerBytes before.flash.memory page

theorem AddsToPage.trans
    {middle : ItemStoreState}
    (first : AddsToPage item state middle)
    (second : AddsToPage item middle after) :
    AddsToPage item state after where
  static := second.static
  rest := second.rest
  writePage_eq := second.writePage_eq.trans first.writePage_eq
  oldest_eq := second.oldest_eq.trans first.oldest_eq
  headers := by
    intro page different
    rw [second.headers page (by rwa [first.writePage_eq]),
      first.headers page different]

/-- `WriteItem` on a page with room. -/
theorem writeItem_addsToPage
    (static : StaticInfo item (state.itemStore item))
    (rest : AtRest state)
    (room :
      (state.itemStore item).currentPageNrOfItems <
        (geometry item).capacity)
    {data : List Byte}
    (wrote : writeItem state item data = .ok (after, ok)) :
    AddsToPage item state after := by
  have fits :=
    (geometry item).slotAddress_fits (writePage state item)
      (Nat.succ_le_of_lt room)
  rw [slotAddress_succ] at fits
  have lower := slotAddress_ge (geometry item).itemSize
    (writePage state item) (state.itemStore item).currentPageNrOfItems
  have aligned := (geometry item).slotAddress_aligned
    (writePage state item) (state.itemStore item).currentPageNrOfItems
  obtain ⟨fewer, words_eq⟩ := Nat.exists_eq_succ_of_ne_zero
    (show (geometry item).itemWords ≠ 0 from
      Nat.ne_of_gt (geometry item).someWords)
  have size : (geometry item).itemSize = 8 * (fewer + 1) := by
    rw [StoreGeometry.itemSize, words_eq]
  have slot :
      pageAddr (state.itemStore item).nextWritePageInfo.pageId.toNat +
          pageHeaderSize +
          (state.itemStore item).currentPageNrOfItems *
            (state.itemStore item).itemSize =
        slotAddress (geometry item).itemSize (writePage state item)
          (state.itemStore item).currentPageNrOfItems := by
    rw [static.itemSize_eq, slotAddress, writePage]
  simp only [writeItem, bind, Except.bind, slot] at wrote
  split at wrote
  · cases wrote
  generalize slotAddress (geometry item).itemSize (writePage state item)
    (state.itemStore item).currentPageNrOfItems = address
    at fits lower aligned wrote
  rw [static.itemSize_eq, size] at wrote
  rw [size] at fits
  cases result : flashWrite state address data (8 * (fewer + 1)) with
  | error failure =>
      rw [result] at wrote
      cases wrote
  | ok outcome =>
      rcases outcome with ⟨middle, success⟩
      rw [result] at wrote
      obtain ⟨⟨words, bound, rfl⟩, _⟩ :=
        flashWrite_ok rest.flashIdle aligned result
      have headers := headerBytes_written state data lower
        (show address + 8 * words ≤
            pageAddr (writePage state item) + flashPageSize by omega)
      cases success with
      | false =>
          cases wrote
          exact
            { static := static
              rest := ⟨rest.listenerIdle, rest.flashIdle.written _ _ _⟩
              writePage_eq := rfl
              oldest_eq := rfl
              headers := fun page _ => headers page }
      | true =>
          cases wrote
          exact
            { static := by
                rw [modifyInfo_same]
                exact { static with }
              rest := ⟨rest.listenerIdle, rest.flashIdle.written _ _ _⟩
              writePage_eq := by
                rw [writePage, modifyInfo_same]
                rfl
              oldest_eq := by
                rw [modifyInfo_same]
                rfl
              headers := fun page _ => headers page }

/-- `AddItem` on an erased page. -/
theorem addItem_addsToPage
    (static : StaticInfo item (state.itemStore item))
    (rest : AtRest state)
    (erased : PageErased state.flash.memory (writePage state item))
    {data : List Byte}
    (added : addItem state item data = .ok (after, ok)) :
    AddsToPage item state after := by
  have blank := PageErased.blank erased
  simp only [addItem, show
    (state.itemStore item).nextWritePageInfo.pageId.toNat =
      writePage state item from rfl, readHeader_headerAt, toBytes_headerAt,
    bind, Except.bind] at added
  rw [Blank] at blank
  rw [if_pos blank] at added
  have small : pageBeginTagSize = 8 * (0 + 1) := rfl
  rw [small] at added
  cases result :
      flashWrite state (pageAddr (writePage state item))
        (state.itemStore item).nextWritePageInfo.toBytes (8 * (0 + 1)) with
  | error failure =>
      rw [result] at added
      cases added
  | ok outcome =>
      rcases outcome with ⟨middle, success⟩
      rw [result] at added
      obtain ⟨⟨words, bound, rfl⟩, _⟩ :=
        flashWrite_ok rest.flashIdle (pageAddr_aligned _) result
      have headers : ∀ page, page ≠ writePage state item →
          headerBytes
              (written state (pageAddr (writePage state item))
                (state.itemStore item).nextWritePageInfo.toBytes
                words).flash.memory page =
            headerBytes state.flash.memory page :=
        fun page different =>
          @headerBytes_elsewhere state _ _ page 0 words
            (by rw [flashPageSize]; omega) different
      cases success with
      | false =>
          cases added
          exact
            { static := static
              rest := ⟨rest.listenerIdle, rest.flashIdle.written _ _ _⟩
              writePage_eq := rfl
              oldest_eq := rfl
              headers := headers }
      | true =>
          simp only [Bool.true_eq_false, if_false] at added
          have opening :
              AddsToPage item state
                (modifyInfo
                  (written state (pageAddr (writePage state item))
                    (state.itemStore item).nextWritePageInfo.toBytes words)
                  item fun info =>
                    { info with currentPageNrOfItems := 0 }) :=
            { static := by
                rw [modifyInfo_same]
                exact { static with }
              rest := ⟨rest.listenerIdle, rest.flashIdle.written _ _ _⟩
              writePage_eq := by
                rw [writePage, modifyInfo_same]
                rfl
              oldest_eq := by
                rw [modifyInfo_same]
                rfl
              headers := headers }
          apply opening.trans
          apply writeItem_addsToPage opening.static opening.rest _ added
          rw [modifyInfo_same]
          exact (geometry item).capacity_pos

/-- A single completed add to an erased page. -/
theorem addItems_addsToPage
    (static : StaticInfo item (state.itemStore item))
    (rest : AtRest state)
    (erased : PageErased state.flash.memory (writePage state item))
    {data : List Byte}
    (added : addItems item state [data] = .ok (after, ok)) :
    AddsToPage item state after := by
  cases result : addItem state item data with
  | error failure =>
      simp [addItems, addItemCompleted, result, bind, Except.bind] at added
  | ok outcome =>
      rcases outcome with ⟨middle, success⟩
      have adds := addItem_addsToPage static rest erased result
      simp [addItems, addItemCompleted, result, bind, Except.bind,
        finishErase_idle adds.rest.flashIdle] at added
      rw [← added.1]
      exact adds

end Add

section Runways

variable {item : ItemDef}
variable {log : StoreLog}
variable {memory : Memory}
variable {erasedPages turn place ordinal : Nat}
variable {after : ItemStoreState}

/-- The header of a page that is left. -/
theorem headerAt_left
    (image : StoreImage item log memory)
    (lower : log.oldest ≤ ordinal)
    (upper : ordinal < log.oldest + (geometry item).nrOfPages)
    (spared : erasedPages ≤ ordinal % (geometry item).nrOfPages) :
    headerAt (leftMemory item memory erasedPages)
        ((geometry item).pageOf ordinal) =
      headerOf item log ordinal := by
  have read :=
    @readHeader_eq (powerOn (leftMemory item memory erasedPages)) _ _ _ _
      (pageHolds_left image lower upper spared)
  rw [readHeader_headerAt] at read
  exact Option.some.inj read

/-- No enumeration enters the current page when new items go elsewhere. -/
theorem blocked_current
    (leaves : LeavesCurrent item log erasedPages turn place)
    (image : StoreImage item log memory)
    (header :
      headerAt after.flash.memory ((geometry item).pageOf log.closed) =
        headerAt (leftMemory item memory erasedPages)
          ((geometry item).pageOf log.closed))
    (elsewhere :
      (geometry item).pageOf log.closed ≠ writePage after item) :
    Blocked after item ((geometry item).pageOf log.closed) := by
  right
  refine ⟨elsewhere, ?_⟩
  have atPlace :
      log.closed % (geometry item).nrOfPages = place := by
    rw [leaves.closed]
    exact place_of_turn (geometry item) (turn + 1) leaves.inside
  have notPassed := leaves.notPassed
  rw [header, headerAt_left image leaves.regular.wellFormed.oldest_le
    leaves.regular.inWindow (by omega)]
  have notComplete :
      (headerOf item log log.closed).completeTag.magic ≠ pageMagic := by
    rw [headerOf]
    simp only [Nat.lt_irrefl, ↓reduceIte]
    exact PageCompleteTag.magic_erased
  rw [completeTagIsConsistent, decide_eq_false_iff_not]
  exact fun consistent => notComplete consistent.1

/-- The begin tag of a full page that is left. -/
theorem tags_left
    (regular : log.Regular (geometry item))
    (image : StoreImage item log memory)
    (lower : log.oldest ≤ ordinal)
    (full : ordinal < log.closed)
    (spared : erasedPages ≤ ordinal % (geometry item).nrOfPages) :
    (headerAt (leftMemory item memory erasedPages)
        ((geometry item).pageOf ordinal)).beginTag.itemId = item.toByte ∧
      (headerAt (leftMemory item memory erasedPages)
        ((geometry item).pageOf ordinal)).beginTag.pageId.toNat =
          (geometry item).pageOf ordinal := by
  have inWindow := regular.inWindow
  rw [headerAt_left image lower (by omega) spared,
    headerOf_closed item full]
  exact ⟨rfl, (geometry item).toNat_pageOf ordinal⟩

theorem pageOf_turn
    (geometry : StoreGeometry)
    (turn : Nat)
    (inside : place < geometry.nrOfPages) :
    geometry.pageOf (geometry.nrOfPages * turn + place) =
      geometry.firstPage + place := by
  rw [StoreGeometry.pageOf, place_of_turn geometry turn inside]

/-- The full pages of the current turn end before the current page. -/
theorem LeavesCurrent.runwayCurrent
    (leaves : LeavesCurrent item log erasedPages turn place)
    (image : StoreImage item log memory)
    (static : StaticInfo item (after.itemStore item))
    (write : writePage after item = (geometry item).pageOf 0)
    (headers : ∀ page, page ≠ (geometry item).pageOf 0 →
      headerBytes after.flash.memory page =
        headerBytes (leftMemory item memory erasedPages) page) :
    Runway item
      ((geometry item).pageOf
        ((geometry item).nrOfPages * (turn + 1) + erasedPages))
      (place - erasedPages) after := by
  have inside := leaves.inside
  have closed := leaves.closed
  have notPassed := leaves.notPassed
  have someErased := leaves.someErased
  have oldest := leaves.regular.oldest_eq
  rw [SegmentedLog.oldest] at oldest
  have first := pageOf_turn (geometry item) (turn + 1)
    (show erasedPages < (geometry item).nrOfPages by omega)
  have current := pageOf_turn (geometry item) (turn + 1) inside
  rw [← closed] at current
  have zero : (geometry item).pageOf 0 = (geometry item).firstPage := by
    rw [StoreGeometry.pageOf, Nat.zero_mod, Nat.add_zero]
  rw [zero] at write headers
  rw [first]
  refine
    { static := static
      lower := Nat.le_add_right _ _
      upper := by omega
      tags := ?_
      notCurrent := by omega
      blocked := ?_ }
  · intro page lower upper
    obtain ⟨offset, rfl⟩ := Nat.exists_eq_add_of_le
      (Nat.le_trans (Nat.le_add_right _ _) lower)
    have tags := @tags_left item log memory erasedPages
      ((geometry item).nrOfPages * (turn + 1) + offset) leaves.regular
      image (by omega) (by omega)
      (by rw [place_of_turn (geometry item) _ (by omega)]; omega)
    rw [pageOf_turn (geometry item) _ (by omega)] at tags
    rw [headerAt_congr (headers _ (by omega))]
    exact tags
  · intro page last
    have next : nextPageOf item page = (geometry item).pageOf log.closed := by
      rw [nextPageOf, if_pos (by omega), current]
      omega
    rw [next]
    apply blocked_current leaves image
    · rw [current]
      exact headerAt_congr (headers _ (by omega))
    · omega

/-- The full pages of the turn before end before the erased first page. -/
theorem LeavesCurrent.runwayBefore
    (leaves : LeavesCurrent item log erasedPages turn place)
    (image : StoreImage item log memory)
    (restarted :
      Restarted item (leftMemory item memory erasedPages)
        ((geometry item).pageOf log.closed)
        ((geometry item).pageOf
          ((geometry item).nrOfPages * turn + (place + 1))) after)
    (older : place + 1 < (geometry item).nrOfPages) :
    Runway item
      ((geometry item).pageOf
        ((geometry item).nrOfPages * turn + (place + 1)))
      ((geometry item).nrOfPages - (place + 1)) after := by
  have closed := leaves.closed
  have notPassed := leaves.notPassed
  have someErased := leaves.someErased
  have oldest := leaves.regular.oldest_eq
  rw [SegmentedLog.oldest] at oldest
  have next :
      (geometry item).nrOfPages * (turn + 1) =
        (geometry item).nrOfPages * turn + (geometry item).nrOfPages :=
    Nat.mul_succ _ _
  have first := pageOf_turn (geometry item) turn older
  have current := pageOf_turn (geometry item) (turn + 1) leaves.inside
  rw [← closed] at current
  have write := restarted.writePage_eq
  rw [first]
  refine
    { static := restarted.static
      lower := Nat.le_add_right _ _
      upper := by omega
      tags := ?_
      notCurrent := by omega
      blocked := ?_ }
  · intro page lower upper
    obtain ⟨offset, rfl⟩ := Nat.exists_eq_add_of_le
      (Nat.le_trans (Nat.le_add_right _ _) lower)
    have tags := @tags_left item log memory erasedPages
      ((geometry item).nrOfPages * turn + offset) leaves.regular
      image (by omega) (by omega)
      (by rw [place_of_turn (geometry item) _ (by omega)]; omega)
    rw [pageOf_turn (geometry item) _ (by omega)] at tags
    rw [restarted.memory_eq]
    exact tags
  · intro page last
    have wraps : nextPageOf item page = (geometry item).pageOf 0 := by
      rw [nextPageOf, if_neg (by omega), StoreGeometry.pageOf,
        Nat.zero_mod, Nat.add_zero]
    rw [wraps]
    apply blocked_of_erased
    rw [restarted.memory_eq]
    exact pageErased_left memory (by rw [Nat.zero_mod]; exact someErased)

end Runways

section Loss

variable {item : ItemDef}
variable {log : StoreLog}
variable {memory : Memory}
variable {erasedPages turn place : Nat}

/-- After the reset new items go to the first page, before the others. -/
theorem LeavesCurrent.recover_late
    (leaves : LeavesCurrent item log erasedPages turn place)
    (image : StoreImage item log memory)
    (late : ¬ maxBlockIndex ∣ (geometry item).nrOfPages * (turn + 1))
    (older :
      place + 1 < (geometry item).nrOfPages →
        maxBlockIndex ∣ (geometry item).nrOfPages * turn) :
    ∃ after,
      recover (leftMemory item memory erasedPages) item = .ok after ∧
      Restarted item (leftMemory item memory erasedPages)
        ((geometry item).pageOf 0)
        ((geometry item).pageOf
          ((geometry item).nrOfPages * (turn + 1) + erasedPages)) after := by
  have inside := leaves.inside
  have closed := leaves.closed
  have notPassed := leaves.notPassed
  have oldest := leaves.regular.oldest_eq
  rw [SegmentedLog.oldest] at oldest
  have next :
      (geometry item).nrOfPages * (turn + 1) =
        (geometry item).nrOfPages * turn + (geometry item).nrOfPages :=
    Nat.mul_succ _ _
  have erased :=
    @pageErased_left item erasedPages 0 memory
      (by rw [Nat.zero_mod]; exact leaves.someErased)
  obtain ⟨found, header, run, scan⟩ :=
    scan_lateTurn leaves image late older
  have oldestPage :
      found.oldest.pageId.toNat =
        (geometry item).pageOf
          ((geometry item).nrOfPages * (turn + 1) + erasedPages) := by
    rw [scan.oldest_moved (by omega)]
    exact (geometry item).toNat_pageOf _
  rw [← oldestPage]
  by_cases whole : place + 1 < (geometry item).nrOfPages
  · have newest := scan.newest_moved whole
    have page :
        found.newest.pageId.toNat =
          (geometry item).pageOf
            ((geometry item).nrOfPages * turn +
              ((geometry item).nrOfPages - 1)) := by
      rw [newest]
      exact (geometry item).toNat_pageOf _
    have tag := @headerAt_left item log memory erasedPages
      ((geometry item).nrOfPages * turn + ((geometry item).nrOfPages - 1))
      image (by omega) (by omega)
      (by rw [place_of_turn (geometry item) _ (by omega)]; omega)
    rw [headerOf_closed item (by omega), ← page] at tag
    have nextPage :
        (headerAt (leftMemory item memory erasedPages)
          found.newest.pageId.toNat).completeTag.nextPage.toNat =
            (geometry item).pageOf 0 := by
      rw [tag, completeTagOf, (geometry item).toNat_pageOf,
        StoreGeometry.pageOf, Nat.add_assoc, Nat.sub_add_cancel (by omega),
        ← next, Nat.mul_mod_right, StoreGeometry.pageOf, Nat.zero_mod]
    rw [← nextPage] at erased ⊢
    exact recover_complete run (by rw [tag]; rfl) (PageErased.blank erased)
  · have page :
        found.newest.pageId.toNat = (geometry item).pageOf 0 := by
      rw [scan.newest_first (by omega)]
      exact pageId_initialTag (fresh_powerOn item _).static
    rw [← page] at erased ⊢
    apply recover_notComplete run
    rw [headerAt_erased erased]
    exact PageCompleteTag.magic_erased

/-- After the reset the pages of the turn before are the oldest ones. -/
theorem LeavesCurrent.recover_wrapped
    (leaves : LeavesCurrent item log erasedPages turn place)
    (image : StoreImage item log memory)
    (wraps : maxBlockIndex ∣ (geometry item).nrOfPages * (turn + 1))
    (older : place + 1 < (geometry item).nrOfPages) :
    ∃ after,
      recover (leftMemory item memory erasedPages) item = .ok after ∧
      Restarted item (leftMemory item memory erasedPages)
        ((geometry item).pageOf log.closed)
        ((geometry item).pageOf
          ((geometry item).nrOfPages * turn + (place + 1))) after := by
  have closed := leaves.closed
  have notPassed := leaves.notPassed
  have someErased := leaves.someErased
  have oldest := leaves.regular.oldest_eq
  rw [SegmentedLog.oldest] at oldest
  have inRing := leaves.regular.wellFormed.oldest_le
  obtain ⟨found, header, run, scan⟩ := scan_wrappedTurn leaves image wraps
  have oldestPage :
      found.oldest.pageId.toNat =
        (geometry item).pageOf
          ((geometry item).nrOfPages * turn + (place + 1)) := by
    rw [scan.oldest_moved older]
    exact (geometry item).toNat_pageOf _
  have lastLe : lastInUse log ≤ log.closed := by
    rw [lastInUse]
    split <;> omega
  have newest := scan.newest_moved (by omega)
  rw [Nat.min_eq_right (by omega)] at newest
  have page :
      found.newest.pageId.toNat =
        (geometry item).pageOf (lastInUse log) := by
    rw [newest]
    exact (geometry item).toNat_pageOf _
  have atPlace :
      log.closed % (geometry item).nrOfPages = place := by
    rw [closed]
    exact place_of_turn (geometry item) _ leaves.inside
  rw [← oldestPage]
  cases opened : log.opened with
  | true =>
      have last : lastInUse log = log.closed := by
        rw [lastInUse, if_pos opened]
      rw [last] at page
      rw [← page]
      apply recover_notComplete run
      rw [page, headerAt_left image inRing leaves.regular.inWindow
        (by omega), headerOf]
      simp only [Nat.lt_irrefl, ↓reduceIte]
      exact PageCompleteTag.magic_erased
  | false =>
      have last : lastInUse log = log.closed - 1 := by
        rw [lastInUse, opened]
        rfl
      have passed : erasedPages < place := by
        rcases leaves.left with full | ⟨_, isOpened⟩
        · omega
        · rw [opened] at isOpened
          cases isOpened
      have before :
          log.closed - 1 =
            (geometry item).nrOfPages * (turn + 1) + (place - 1) := by
        omega
      have tag := @headerAt_left item log memory erasedPages
        (log.closed - 1) image (by omega) (by omega)
        (by rw [before, place_of_turn (geometry item) _ (by omega)]; omega)
      rw [headerOf_closed item (by omega), ← last, ← page] at tag
      have nextPage :
          (headerAt (leftMemory item memory erasedPages)
            found.newest.pageId.toNat).completeTag.nextPage.toNat =
              (geometry item).pageOf log.closed := by
        rw [tag, completeTagOf, (geometry item).toNat_pageOf, last,
          Nat.sub_add_cancel (by omega)]
      have erased :=
        @pageErased_notInUse item log memory erasedPages log.closed
          leaves.regular image inRing leaves.regular.inWindow
          (by
            rintro (full | ⟨_, isOpened⟩)
            · exact Nat.lt_irrefl _ full
            · rw [opened] at isOpened
              cases isOpened)
      rw [← nextPage] at erased ⊢
      exact recover_complete run (by rw [tag]; rfl)
        (PageErased.blank erased)

theorem pageOf_inStore (item : ItemDef) (ordinal : Nat) :
    InStore item ((geometry item).pageOf ordinal) :=
  ⟨(geometry item).pageOf_ge ordinal, (geometry item).pageOf_lt ordinal⟩

/-- An item that is added before the pages that are left is not enumerated. -/
theorem LeavesCurrent.not_usable_late
    (leaves : LeavesCurrent item log erasedPages turn place)
    (image : StoreImage item log memory)
    (late : ¬ maxBlockIndex ∣ (geometry item).nrOfPages * (turn + 1))
    (older :
      place + 1 < (geometry item).nrOfPages →
        maxBlockIndex ∣ (geometry item).nrOfPages * turn)
    {kept : List (List Byte)}
    (all :
      (place - erasedPages) * (geometry item).capacity ≤ kept.length) :
    ¬ Usable item (leftMemory item memory erasedPages) kept := by
  rintro ⟨after, recovered, enumerates, further⟩
  have inside := leaves.inside
  have someErased := leaves.someErased
  obtain ⟨other, same, restarted⟩ :=
    leaves.recover_late image late older
  rw [same] at recovered
  cases recovered
  have runway := leaves.runwayCurrent image restarted.static
    restarted.writePage_eq (fun page _ => by rw [restarted.memory_eq])
  rw [← restarted.oldestPage_eq] at runway
  have inStore := pageOf_inStore item
    ((geometry item).nrOfPages * (turn + 1) + erasedPages)
  rw [← restarted.oldestPage_eq] at inStore
  have keptLe := enumerates.length_le runway inStore
  -- one more item goes to the first page
  obtain ⟨final, added, finalEnumerates⟩ :=
    further [List.replicate (geometry item).itemSize 0] (by simp)
  have erased :
      PageErased after.flash.memory (writePage after item) := by
    rw [restarted.writePage_eq, restarted.memory_eq]
    exact @pageErased_left item erasedPages 0 memory
      (by rw [Nat.zero_mod]; exact someErased)
  have adds := addItems_addsToPage restarted.static restarted.rest erased
    added
  have headers := adds.headers
  rw [restarted.writePage_eq, restarted.memory_eq] at headers
  have finalRunway := leaves.runwayCurrent image adds.static
    (adds.writePage_eq.trans restarted.writePage_eq) headers
  rw [← restarted.oldestPage_eq, ← adds.oldest_eq] at finalRunway
  rw [← adds.oldest_eq] at inStore
  have finalLe := finalEnumerates.length_le finalRunway inStore
  have fewer := Nat.mul_le_mul_right (geometry item).capacity
    (show place - erasedPages + 1 ≤ (geometry item).nrOfPages by omega)
  rw [Nat.succ_mul] at fewer
  have several := (geometry item).capacity_ge
  rw [keptItems, List.length_drop, List.length_append, List.length_singleton,
    retainedCount, if_pos (by omega)] at finalLe
  omega

/-- The pages behind the erased first page are not enumerated. -/
theorem LeavesCurrent.not_usable_wrapped
    (leaves : LeavesCurrent item log erasedPages turn place)
    (image : StoreImage item log memory)
    (wraps : maxBlockIndex ∣ (geometry item).nrOfPages * (turn + 1))
    (older : place + 1 < (geometry item).nrOfPages)
    {kept : List (List Byte)}
    (more :
      ((geometry item).nrOfPages - (place + 1)) *
          (geometry item).capacity <
        kept.length) :
    ¬ Usable item (leftMemory item memory erasedPages) kept := by
  rintro ⟨after, recovered, enumerates, _⟩
  obtain ⟨other, same, restarted⟩ :=
    leaves.recover_wrapped image wraps older
  rw [same] at recovered
  cases recovered
  have runway := leaves.runwayBefore image restarted older
  rw [← restarted.oldestPage_eq] at runway
  have inStore := pageOf_inStore item
    ((geometry item).nrOfPages * turn + (place + 1))
  rw [← restarted.oldestPage_eq] at inStore
  have keptLe := enumerates.length_le runway inStore
  omega

end Loss

section Length

variable {item : ItemDef}
variable {items : List (List Byte)}
variable {erasedPages current : Nat}

/-- Every full page that is left contributes its items. -/
theorem length_sparedItems
    (current_eq :
      SegmentedLog.current (geometry item).capacity items = current) :
    (sparedItems item items erasedPages).length =
      ((List.range current).filter
          (isSpared item current erasedPages)).length *
        (geometry item).capacity +
      if erasedPages ≤ current % (geometry item).nrOfPages then
        items.length % (geometry item).capacity
      else
        0 := by
  rw [sparedItems_eq current_eq, List.length_append,
    SegmentedLog.length_flatMap_segment]
  · congr 1
    split
    · rw [← current_eq, SegmentedLog.length_segment_current
        (geometry item).capacity_pos]
      rfl
    · rfl
  · intro ordinal member
    rw [current_eq]
    exact List.mem_range.mp (List.mem_of_mem_filter member)

/-- The number of full pages that are left, from some of them. -/
theorem card_le_spared
    {pages : Finset Nat}
    (spared : ∀ ordinal ∈ pages,
      ordinal < current ∧
        isSpared item current erasedPages ordinal = true) :
    pages.card ≤
      ((List.range current).filter
        (isSpared item current erasedPages)).length := by
  refine Nat.le_trans (Finset.card_le_card ?_) (List.toFinset_card_le _)
  intro ordinal member
  rw [List.mem_toFinset, List.mem_filter, List.mem_range]
  exact spared ordinal member

end Length

section Exact

variable {item : ItemDef}
variable {log : StoreLog}
variable {memory : Memory}
variable {erasedPages turn place : Nat}

theorem isSpared_iff
    {current ordinal : Nat} :
    isSpared item current erasedPages ordinal = true ↔
      current < ordinal + (geometry item).nrOfPages ∧
        erasedPages ≤ ordinal % (geometry item).nrOfPages := by
  rw [isSpared, decide_eq_true_eq]

/-- The full pages of the current turn that are left. -/
theorem LeavesCurrent.length_ge
    (leaves : LeavesCurrent item log erasedPages turn place) :
    (place - erasedPages) * (geometry item).capacity ≤
      (sparedItems item log.items erasedPages).length := by
  have inside := leaves.inside
  have closed := leaves.closed
  have many := @card_le_spared item erasedPages log.closed
    (Finset.Ico ((geometry item).nrOfPages * (turn + 1) + erasedPages)
      log.closed)
    (by
      intro ordinal member
      rw [Finset.mem_Ico] at member
      obtain ⟨offset, rfl⟩ := Nat.exists_eq_add_of_le
        (Nat.le_trans (Nat.le_add_right _ _) member.1)
      rw [isSpared_iff, place_of_turn (geometry item) _ (by omega)]
      omega)
  rw [Nat.card_Ico, closed, Nat.add_sub_add_left] at many
  rw [length_sparedItems leaves.regular.closed_eq.symm, closed]
  have bound := Nat.mul_le_mul_right (geometry item).capacity many
  omega

/-- There is more than the full pages of the turn before. -/
theorem LeavesCurrent.length_gt
    (leaves : LeavesCurrent item log erasedPages turn place)
    (partly :
      log.opened = true →
        log.items.length % (geometry item).capacity ≠ 0) :
    ((geometry item).nrOfPages - (place + 1)) * (geometry item).capacity <
      (sparedItems item log.items erasedPages).length := by
  have inside := leaves.inside
  have closed := leaves.closed
  have notPassed := leaves.notPassed
  have positive := (geometry item).capacity_pos
  have next :
      (geometry item).nrOfPages * (turn + 1) =
        (geometry item).nrOfPages * turn + (geometry item).nrOfPages :=
    Nat.mul_succ _ _
  have atPlace :
      log.closed % (geometry item).nrOfPages = place := by
    rw [closed]
    exact place_of_turn (geometry item) _ inside
  rw [length_sparedItems leaves.regular.closed_eq.symm, atPlace,
    if_pos notPassed]
  have older : ∀ ordinal ∈
      Finset.Ico ((geometry item).nrOfPages * turn + (place + 1))
        ((geometry item).nrOfPages * (turn + 1)),
      ordinal < log.closed ∧
        isSpared item log.closed erasedPages ordinal = true := by
    intro ordinal member
    rw [Finset.mem_Ico] at member
    obtain ⟨offset, rfl⟩ := Nat.exists_eq_add_of_le
      (Nat.le_trans (Nat.le_add_right _ _) member.1)
    rw [isSpared_iff, place_of_turn (geometry item) _ (by omega)]
    omega
  rcases leaves.left with full | ⟨_, opened⟩
  · have many := @card_le_spared item erasedPages log.closed
      (insert
        ((geometry item).nrOfPages * (turn + 1) + erasedPages)
        (Finset.Ico ((geometry item).nrOfPages * turn + (place + 1))
          ((geometry item).nrOfPages * (turn + 1))))
      (by
        intro ordinal member
        rcases Finset.mem_insert.mp member with same | before
        · rw [same, isSpared_iff,
            place_of_turn (geometry item) _ (by omega)]
          omega
        · exact older ordinal before)
    rw [Finset.card_insert_of_notMem
      (by rw [Finset.mem_Ico]; omega), Nat.card_Ico] at many
    have bound := Nat.mul_le_mul_right (geometry item).capacity many
    rw [Nat.succ_mul, next, Nat.add_sub_add_left] at bound
    omega
  · have many := card_le_spared older
    have some := Nat.pos_of_ne_zero (partly opened)
    rw [Nat.card_Ico, next, Nat.add_sub_add_left] at many
    have bound := Nat.mul_le_mul_right (geometry item).capacity many
    omega

/-- The measurement store is the only one with a page between two others. -/
theorem LeavesCurrent.older_start
    (leaves : LeavesCurrent item log erasedPages turn place)
    (late : ¬ maxBlockIndex ∣ (geometry item).nrOfPages * (turn + 1))
    (older : place + 1 < (geometry item).nrOfPages) :
    maxBlockIndex ∣ (geometry item).nrOfPages * turn := by
  have someErased := leaves.someErased
  have notPassed := leaves.notPassed
  cases item with
  | systemConfig =>
      have pages : (geometry .systemConfig).nrOfPages = 2 := by decide
      omega
  | measurementSample =>
      have pages : (geometry .measurementSample).nrOfPages = 32 := by
        decide
      rw [pages] at late ⊢
      simp only [maxBlockIndex] at late ⊢
      omega

/-- A store of which the delete has left something is not empty. -/
theorem sparedItems_ne_nil
    {items : List (List Byte)}
    {current ordinal : Nat}
    (current_eq :
      SegmentedLog.current (geometry item).capacity items = current)
    (inWindow : current < ordinal + (geometry item).nrOfPages)
    (spared : erasedPages ≤ ordinal % (geometry item).nrOfPages)
    (inUse :
      ordinal < current ∨
        ordinal = current ∧
          items.length % (geometry item).capacity ≠ 0) :
    sparedItems item items erasedPages ≠ [] := by
  have positive := (geometry item).capacity_pos
  apply List.ne_nil_of_length_pos
  rw [length_sparedItems current_eq]
  rcases inUse with full | ⟨rfl, some⟩
  · have many := @card_le_spared item erasedPages current {ordinal}
      (by
        intro other member
        rw [Finset.mem_singleton.mp member, isSpared_iff]
        exact ⟨full, inWindow, spared⟩)
    rw [Finset.card_singleton] at many
    have bound := Nat.mul_le_mul_right (geometry item).capacity many
    omega
  · rw [if_pos spared]
    omega

/-- A reset in the first turn of the ring, while pages in use are left. -/
theorem not_usable_firstRound
    (regular : log.Regular (geometry item))
    (blockId_eq :
      ∀ ordinal, log.blockId ordinal = ordinal % maxBlockIndex)
    (image : StoreImage item log memory)
    (someErased : 0 < erasedPages)
    (firstRound : log.closed < (geometry item).nrOfPages)
    {kept : List (List Byte)}
    (someKept : kept ≠ []) :
    ¬ Usable item (leftMemory item memory erasedPages) kept := by
  have few := (geometry item).fewPages
  apply not_usable_firstTurn regular image someErased _ someKept
  intro ordinal lower upper spared
  have inside : ordinal ≤ log.closed := by
    rcases spared.2 with full | ⟨same, _⟩ <;> omega
  rw [blockId_eq, Nat.mod_eq_of_lt (by omega), Nat.mod_eq_of_lt (by omega)]

/-- A reset while only pages of a turn are left whose block ids start at 0. -/
theorem not_usable_startingTurn
    (regular : log.Regular (geometry item))
    (blockId_eq :
      ∀ ordinal, log.blockId ordinal = ordinal % maxBlockIndex)
    (image : StoreImage item log memory)
    (someErased : 0 < erasedPages)
    {start : Nat}
    (starts : maxBlockIndex ∣ (geometry item).nrOfPages * start)
    (same : ∀ ordinal,
      log.oldest ≤ ordinal →
      ordinal < log.oldest + (geometry item).nrOfPages →
      Spared item log erasedPages ordinal →
        ordinal =
          (geometry item).nrOfPages * start +
            ordinal % (geometry item).nrOfPages)
    {kept : List (List Byte)}
    (someKept : kept ≠ []) :
    ¬ Usable item (leftMemory item memory erasedPages) kept := by
  apply not_usable_firstTurn regular image someErased _ someKept
  intro ordinal lower upper spared
  have small := Nat.mod_lt ordinal (geometry item).nrOfPages_pos
  have shape := same ordinal lower upper spared
  have block := @blockId_turn item log _ blockId_eq start small
  rw [← shape, Nat.mod_eq_zero_of_dvd starts, Nat.zero_add] at block
  exact block

/-- A delete that has not passed the current page leaves a page in use. -/
theorem leavesCurrent_of_notReached
    (regular : log.Regular (geometry item))
    (blockId_eq :
      ∀ ordinal, log.blockId ordinal = ordinal % maxBlockIndex)
    (opened :
      log.opened = true ↔
        log.items.length % (geometry item).capacity ≠ 0)
    (closed : log.closed = (geometry item).nrOfPages * (turn + 1) + place)
    (inside : place < (geometry item).nrOfPages)
    (someErased : 0 < erasedPages)
    (notReached :
      ¬ (if log.items.length % (geometry item).capacity = 0 then
          place
        else
          place + 1) ≤ erasedPages) :
    LeavesCurrent item log erasedPages turn place where
  regular := regular
  blockId_eq := blockId_eq
  closed := closed
  inside := inside
  someErased := someErased
  notPassed := by split at notReached <;> omega
  left := by
    by_cases empty : log.items.length % (geometry item).capacity = 0
    · rw [if_pos empty] at notReached
      exact Or.inl (by omega)
    · rw [if_neg empty] at notReached
      rcases Nat.lt_or_eq_of_le (show erasedPages ≤ place by omega)
        with before | current
      · exact Or.inl (by omega)
      · exact Or.inr ⟨by omega, opened.mpr empty⟩

/-- A reset while only pages of the turn before are left. -/
theorem not_usable_olderTurn
    (regular : log.Regular (geometry item))
    (blockId_eq :
      ∀ ordinal, log.blockId ordinal = ordinal % maxBlockIndex)
    (opened :
      log.opened = true ↔
        log.items.length % (geometry item).capacity ≠ 0)
    (image : StoreImage item log memory)
    (closed : log.closed = (geometry item).nrOfPages * (turn + 1) + place)
    (someErased : 0 < erasedPages)
    (notAll : erasedPages < (geometry item).nrOfPages)
    (reached :
      (if log.items.length % (geometry item).capacity = 0 then
        place
      else
        place + 1) ≤ erasedPages)
    (older : place + 1 < (geometry item).nrOfPages)
    (starts : maxBlockIndex ∣ (geometry item).nrOfPages * turn) :
    ¬ Usable item (leftMemory item memory erasedPages)
      (sparedItems item log.items erasedPages) := by
  have current_eq := regular.closed_eq.symm
  have next :
      (geometry item).nrOfPages * (turn + 1) =
        (geometry item).nrOfPages * turn + (geometry item).nrOfPages :=
    Nat.mul_succ _ _
  apply not_usable_startingTurn regular blockId_eq image someErased starts
  · intro ordinal lower upper spared
    rcases window_cases regular closed (by omega) lower upper with
      ⟨current, same⟩ | ⟨_, same⟩
    · have notPassed := spared.1
      rcases spared.2 with full | ⟨isClosed, isOpened⟩
      · split at reached <;> omega
      · rw [if_neg (opened.mp isOpened)] at reached
        omega
    · exact same
  · exact @sparedItems_ne_nil item erasedPages log.items log.closed
      ((geometry item).nrOfPages * turn + ((geometry item).nrOfPages - 1))
      current_eq (by omega)
      (by rw [place_of_turn (geometry item) _ (by omega)]; omega)
      (Or.inl (by omega))

/-- A reset while the current page is the last one of its turn. -/
theorem LeavesCurrent.not_usable_wholeTurn
    (leaves : LeavesCurrent item log erasedPages turn place)
    (opened :
      log.opened = true ↔
        log.items.length % (geometry item).capacity ≠ 0)
    (image : StoreImage item log memory)
    (late : maxBlockIndex ∣ (geometry item).nrOfPages * (turn + 1))
    (whole : ¬ place + 1 < (geometry item).nrOfPages) :
    ¬ Usable item (leftMemory item memory erasedPages)
      (sparedItems item log.items erasedPages) := by
  have current_eq := leaves.regular.closed_eq.symm
  have closed := leaves.closed
  have inside := leaves.inside
  have notPassed := leaves.notPassed
  apply not_usable_startingTurn leaves.regular leaves.blockId_eq image
    leaves.someErased late
  · intro ordinal lower upper _
    have small := Nat.mod_lt ordinal (geometry item).nrOfPages_pos
    rcases window_cases leaves.regular closed inside lower upper with
      ⟨_, same⟩ | ⟨before, _⟩
    · exact same
    · omega
  · rcases leaves.left with full | ⟨current, isOpened⟩
    · exact @sparedItems_ne_nil item erasedPages log.items log.closed
        ((geometry item).nrOfPages * (turn + 1) + erasedPages)
        current_eq (by omega)
        (by rw [place_of_turn (geometry item) _ (by omega)])
        (Or.inl full)
    · exact @sparedItems_ne_nil item erasedPages log.items log.closed
        log.closed current_eq (by omega)
        (by rw [closed, place_of_turn (geometry item) _ inside]
            exact notPassed)
        (Or.inr ⟨rfl, opened.mp isOpened⟩)

/-- A reset in the first turn of the ring, before the last page in use. -/
theorem not_usable_firstRound_sparedItems
    (regular : log.Regular (geometry item))
    (blockId_eq :
      ∀ ordinal, log.blockId ordinal = ordinal % maxBlockIndex)
    (image : StoreImage item log memory)
    (someErased : 0 < erasedPages)
    (notAll : erasedPages < (geometry item).nrOfPages)
    (firstRound : log.closed < (geometry item).nrOfPages)
    (notReached :
      ¬ (if log.items.length % (geometry item).capacity = 0 then
          log.closed
        else
          log.closed + 1) ≤ erasedPages) :
    ¬ Usable item (leftMemory item memory erasedPages)
      (sparedItems item log.items erasedPages) := by
  have current_eq := regular.closed_eq.symm
  apply not_usable_firstRound regular blockId_eq image someErased
    firstRound
  by_cases empty : log.items.length % (geometry item).capacity = 0
  · rw [if_pos empty] at notReached
    exact @sparedItems_ne_nil item erasedPages log.items log.closed
      erasedPages current_eq (by omega)
      (by rw [Nat.mod_eq_of_lt notAll]) (Or.inl (by omega))
  · rw [if_neg empty] at notReached
    exact @sparedItems_ne_nil item erasedPages log.items log.closed
      log.closed current_eq (by omega)
      (by rw [Nat.mod_eq_of_lt firstRound]; omega)
      (Or.inr ⟨rfl, empty⟩)

/-- A reset in any other case does not leave a usable store. -/
theorem not_usable_of_not_restartable
    {items : List (List Byte)}
    (sized : ∀ data ∈ items, data.length = (geometry item).itemSize)
    (someErased : 0 < erasedPages)
    (notAll : erasedPages < (geometry item).nrOfPages)
    (image :
      StoreImage item (StoreLog.ofItems (geometry item) items) memory)
    (notRestartable : ¬ Restartable item items.length erasedPages) :
    ¬ Usable item (leftMemory item memory erasedPages)
      (sparedItems item items erasedPages) := by
  have regular := StoreLog.regular_ofItems sized
  have blockId_eq := @StoreLog.blockId_ofItems (geometry item) items
  have opened := StoreLog.opened_ofItems sized
  have closed := regular.closed_eq
  have itemsEq := @StoreLog.items_ofItems (geometry item) items
  generalize StoreLog.ofItems (geometry item) items = log at *
  subst itemsEq
  rw [SegmentedLog.current] at closed
  rw [Restartable, ← closed] at notRestartable
  have inside := Nat.mod_lt log.closed (geometry item).nrOfPages_pos
  by_cases firstRound : log.closed < (geometry item).nrOfPages
  · refine not_usable_firstRound_sparedItems regular blockId_eq image
      someErased notAll firstRound ?_
    rw [Nat.mod_eq_of_lt firstRound] at notRestartable
    exact fun reached => notRestartable ⟨reached, Or.inl firstRound⟩
  obtain ⟨turn, shape⟩ :=
    exists_turn (geometry item).nrOfPages_pos (Nat.le_of_not_lt firstRound)
  generalize log.closed % (geometry item).nrOfPages = place at *
  have start :
      log.closed - place - (geometry item).nrOfPages =
        (geometry item).nrOfPages * turn := by
    have next :
        (geometry item).nrOfPages * (turn + 1) =
          (geometry item).nrOfPages * turn + (geometry item).nrOfPages :=
      Nat.mul_succ _ _
    omega
  rw [start] at notRestartable
  by_cases reached :
      (if log.items.length % (geometry item).capacity = 0 then
        place
      else
        place + 1) ≤ erasedPages
  · have older : place + 1 < (geometry item).nrOfPages := by
      by_contra whole
      exact notRestartable ⟨reached, Or.inr (Or.inl (by omega))⟩
    have starts : maxBlockIndex ∣ (geometry item).nrOfPages * turn := by
      by_contra late
      exact notRestartable ⟨reached, Or.inr (Or.inr late)⟩
    exact not_usable_olderTurn regular blockId_eq opened image shape
      someErased notAll reached older starts
  have leaves :=
    leavesCurrent_of_notReached regular blockId_eq opened shape inside
      someErased reached
  by_cases late : maxBlockIndex ∣ (geometry item).nrOfPages * (turn + 1)
  · by_cases older : place + 1 < (geometry item).nrOfPages
    · exact leaves.not_usable_wrapped image late older
        (leaves.length_gt fun isOpened => opened.mp isOpened)
    · exact leaves.not_usable_wholeTurn opened image late older
  · exact leaves.not_usable_late image late (leaves.older_start late)
      leaves.length_ge

end Exact

/-- The items of a store have its item size. -/
theorem sized_itemsOf
    {adds : List (ItemDef × List Byte)}
    (sized : ∀ entry ∈ adds,
      entry.2.length = (geometry entry.1).itemSize)
    (item : ItemDef) :
    ∀ data ∈ itemsOf item adds,
      data.length = (geometry item).itemSize := by
  intro data member
  obtain ⟨⟨store, bytes⟩, inStore, rfl⟩ := List.mem_map.mp member
  rw [List.mem_filter, decide_eq_true_eq] at inStore
  obtain ⟨added, rfl⟩ := inStore
  exact sized _ added

/-- A delete that is interrupted after completed adds. -/
theorem interruptedDelete_left
    {adds : List (ItemDef × List Byte)}
    (sized : ∀ entry ∈ adds,
      entry.2.length = (geometry entry.1).itemSize)
    (item : ItemDef)
    {erasedPages : Nat}
    (notAll : erasedPages < (geometry item).nrOfPages) :
    ∃ before after,
      runStores adds = .ok (before, true) ∧
      interruptedDelete before item erasedPages = .ok after ∧
      after.flash.memory =
        leftMemory item before.flash.memory erasedPages ∧
      StoreImage item
        (StoreLog.ofItems (geometry item) (itemsOf item adds))
        before.flash.memory := by
  obtain ⟨before, run, both⟩ := runStores_both sized
  obtain ⟨stale, _, tracks⟩ := both.tracks item
  obtain ⟨after, erased, memory⟩ :=
    interruptedDelete_eq ⟨tracks.listenerIdle, tracks.idle⟩
      tracks.info.toStaticInfo notAll
  exact ⟨before, after, run, erased, memory, tracks.image⟩

/--
After completed adds to both stores and a delete that is interrupted between
two pages, a reset leaves a usable store if and only if the delete has passed
the current turn of the ring, and has left no pages of the turn before or such
with late block ids.
-/
theorem usable_after_interruptedDelete_iff
    (adds : List (ItemDef × List Byte))
    (sized : ∀ entry ∈ adds,
      entry.2.length = (geometry entry.1).itemSize)
    (item : ItemDef)
    (erasedPages : Nat)
    (someErased : 0 < erasedPages)
    (notAll : erasedPages < (geometry item).nrOfPages) :
    ∃ before after,
      runStores adds = .ok (before, true) ∧
      interruptedDelete before item erasedPages = .ok after ∧
      (Usable item after.flash.memory
          (sparedItems item (itemsOf item adds) erasedPages) ↔
        Restartable item (itemsOf item adds).length erasedPages) := by
  obtain ⟨before, after, run, erased, memory, image⟩ :=
    interruptedDelete_left sized item notAll
  have itemsSized := sized_itemsOf sized item
  refine ⟨before, after, run, erased, ?_⟩
  rw [memory]
  constructor
  · intro usable
    by_contra notRestartable
    exact not_usable_of_not_restartable itemsSized someErased notAll image
      notRestartable usable
  · exact usable_of_restartable itemsSized notAll image

/-- Some records, saved behind a sample. -/
def recordAdds (count : Nat) : List (ItemDef × List Byte) :=
  (.measurementSample, List.replicate 8 0) ::
    (numbered count).map fun data => (.systemConfig, data)

theorem sized_recordAdds (count : Nat) :
    ∀ entry ∈ recordAdds count,
      entry.2.length = (geometry entry.1).itemSize := by
  intro entry member
  rcases List.mem_cons.mp member with rfl | isRecord
  · rfl
  · obtain ⟨data, inRecords, rfl⟩ := List.mem_map.mp isRecord
    exact numbered_sized count data inRecords

theorem itemsOf_recordAdds (count : Nat) :
    itemsOf .systemConfig (recordAdds count) = numbered count := by
  simp [itemsOf, recordAdds, List.filter_map, Function.comp_def]

/--
130 records are in the third turn of the ring.  A reset after the erase of the
current page, the first one, leaves the 31 records of the other page.
-/
theorem usable_after_interruptedDelete_iff_130 :
    ∃ before after,
      runStores (recordAdds 130) = .ok (before, true) ∧
      interruptedDelete before .systemConfig 1 = .ok after ∧
      Usable .systemConfig after.flash.memory
        (((numbered 130).drop 93).take 31) := by
  obtain ⟨before, after, run, erased, usable⟩ :=
    usable_after_interruptedDelete_iff (recordAdds 130)
      (sized_recordAdds 130) .systemConfig 1 (by decide) (by decide)
  rw [itemsOf_recordAdds] at usable
  have current :
      SegmentedLog.current (geometry .systemConfig).capacity
        (numbered 130) = 4 := by
    rw [SegmentedLog.current, length_numbered]
    decide
  have spared :
      ((List.range (4 + 1)).filter fun ordinal =>
        decide (4 < ordinal + (geometry .systemConfig).nrOfPages ∧
          1 ≤ ordinal % (geometry .systemConfig).nrOfPages)) = [3] := by
    decide
  have kept :
      sparedItems .systemConfig (numbered 130) 1 =
        ((numbered 130).drop 93).take 31 := by
    rw [sparedItems, current, spared, List.flatMap_singleton]
    rfl
  rw [kept] at usable
  refine ⟨before, after, run, erased, usable.mpr ?_⟩
  rw [length_numbered, Restartable]
  decide

/--
32 settings records take one page and one slot of the next.  A reset after the
first of the two pages is erased leaves a record that is not enumerated.
-/
theorem not_usable_after_interruptedDelete_32 :
    ∃ before after,
      runStores
          (List.replicate 32 (.systemConfig, List.replicate 128 0)) =
        .ok (before, true) ∧
      interruptedDelete before .systemConfig 1 = .ok after ∧
      ¬ Usable .systemConfig after.flash.memory
        (sparedItems .systemConfig
          (itemsOf .systemConfig
            (List.replicate 32 (.systemConfig, List.replicate 128 0)))
          1) := by
  have sized : ∀ entry ∈
      List.replicate 32 (ItemDef.systemConfig, List.replicate 128 (0 : Byte)),
      entry.2.length = (geometry entry.1).itemSize := by
    intro entry member
    rw [List.eq_of_mem_replicate member, List.length_replicate]
    rfl
  obtain ⟨before, after, run, erased, memory, image⟩ :=
    @interruptedDelete_left _ sized .systemConfig 1 (by decide)
  refine ⟨before, after, run, erased, ?_⟩
  rw [memory]
  apply not_usable_of_not_restartable (sized_itemsOf sized .systemConfig)
    (by decide) (by decide) image
  unfold Restartable
  decide

end DemoBoard.InterruptedDelete
