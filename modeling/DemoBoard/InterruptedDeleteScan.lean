import DemoBoard.EnumerationBound
import DemoBoard.InterruptedDelete

namespace DemoBoard.InterruptedDelete

open ByteMemory ItemStore

/-!
# What the scan makes of the pages that are left

The scan starts with the block id 0 for the erased first page.  Whether it
moves the newest or the oldest page at a later place depends on the block ids
of the pages that the interrupted delete has left.
-/

section See

variable {found : ScanResult}
variable {tag : PageBeginTag}
variable {nrOfPages : Nat}

theorem see_newer
    (newer :
      isNewer tag.blockId.toNat found.newest.blockId.toNat nrOfPages =
        true) :
    found.see nrOfPages tag false =
      { found with current := tag, newest := tag } := by
  simp [ScanResult.see, newer]

theorem see_older
    (notNewer :
      isNewer tag.blockId.toNat found.newest.blockId.toNat nrOfPages =
        false)
    (older :
      isOlder tag.blockId.toNat found.oldest.blockId.toNat nrOfPages =
        true) :
    found.see nrOfPages tag false =
      { found with current := tag, oldest := tag } := by
  simp [ScanResult.see, notNewer, older]

theorem see_between
    (notNewer :
      isNewer tag.blockId.toNat found.newest.blockId.toNat nrOfPages =
        false)
    (notOlder :
      isOlder tag.blockId.toNat found.oldest.blockId.toNat nrOfPages =
        false) :
    found.see nrOfPages tag false = { found with current := tag } := by
  simp [ScanResult.see, notNewer, notOlder]

end See

/-- A page in use that the interrupted delete has left. -/
def Spared
    (item : ItemDef) (log : StoreLog) (erasedPages ordinal : Nat) : Prop :=
  erasedPages ≤ ordinal % (geometry item).nrOfPages ∧ InUse log ordinal

section Scan

variable {item : ItemDef}
variable {log : StoreLog}
variable {memory : Memory}
variable {erasedPages : Nat}
variable {state : ItemStoreState}

/-- The scan visits a page that is left. -/
theorem scanPage_spared
    (static : StaticInfo item (state.itemStore item))
    (regular : log.Regular (geometry item))
    (image : StoreImage item log memory)
    (left : state.flash.memory = leftMemory item memory erasedPages)
    {ordinal : Nat}
    (lower : log.oldest ≤ ordinal)
    (upper : ordinal < log.oldest + (geometry item).nrOfPages)
    (spared : Spared item log erasedPages ordinal)
    (notFirst : ordinal % (geometry item).nrOfPages ≠ 0)
    (found : ScanResult)
    (header : PageHeader) :
    ∃ next nextHeader,
      scanPage item (withScan state item found, header)
          (ordinal % (geometry item).nrOfPages) =
        .ok (withScan state item next, nextHeader) ∧
      next.newest =
        (found.see (geometry item).nrOfPages
          (beginTagOf item log ordinal) false).newest ∧
      next.oldest =
        (found.see (geometry item).nrOfPages
          (beginTagOf item log ordinal) false).oldest := by
  have holds := pageHolds_left image lower upper spared.1
  rw [← left] at holds
  rcases spared.2 with closed | ⟨current, opened⟩
  · rw [headerOf_closed item closed] at holds
    rw [scanPage_closed static rfl holds]
    simp only [notFirst, decide_false]
    exact ⟨_, _, rfl, rfl, rfl⟩
  · subst current
    have length := regular.wellFormed.length_pageItems
    have roomHere := regular.spacious.room
    have small := (geometry item).capacity_le
    have counted := countItemsLoop_le (geometry item) holds
      (by rw [length]; exact roomHere) _ (Nat.zero_add _) []
    rw [slotAddress, Nat.zero_mul, Nat.add_zero, length] at counted
    rw [headerOf_opened item opened] at holds
    rw [scanPage_open static rfl holds rfl (by omega),
      closePageIfFull_room (withScan_static static _)
        (by
          rw [withScan, modifyInfo_same]
          exact Nat.lt_of_le_of_lt counted roomHere)]
    simp only [notFirst, decide_false]
    exact ⟨_, _, rfl, rfl, rfl⟩

/-- The scan passes every other page. -/
theorem scanPage_gone
    (static : StaticInfo item (state.itemStore item))
    (regular : log.Regular (geometry item))
    (image : StoreImage item log memory)
    (left : state.flash.memory = leftMemory item memory erasedPages)
    {ordinal : Nat}
    (lower : log.oldest ≤ ordinal)
    (upper : ordinal < log.oldest + (geometry item).nrOfPages)
    (gone : ¬ Spared item log erasedPages ordinal)
    (found : ScanResult)
    (header : PageHeader) :
    scanPage item (withScan state item found, header)
        (ordinal % (geometry item).nrOfPages) =
      .ok (withScan state item found, PageHeader.erased) := by
  have erased :
      PageErased state.flash.memory ((geometry item).pageOf ordinal) := by
    rw [left]
    by_cases passed : ordinal % (geometry item).nrOfPages < erasedPages
    · exact pageErased_left memory passed
    · exact pageErased_notInUse regular image lower upper
        fun inUse => gone ⟨Nat.le_of_not_lt passed, inUse⟩
  exact scanPage_erased static rfl (PageHolds.of_constantOn erased) header

/--
What holds of the newest and the oldest tag at the first place, and is kept by
the pages that are left and by the others, holds after the scan.
-/
theorem scanAll_left
    (static : StaticInfo item (state.itemStore item))
    (regular : log.Regular (geometry item))
    (image : StoreImage item log memory)
    (left : state.flash.memory = leftMemory item memory erasedPages)
    (someErased : 0 < erasedPages)
    {holds : Nat → PageBeginTag → PageBeginTag → Prop}
    (start :
      holds 0 (initialTag (state.itemStore item) item)
        (initialTag (state.itemStore item) item))
    (gone : ∀ ordinal newest oldest,
      log.oldest ≤ ordinal →
      ordinal < log.oldest + (geometry item).nrOfPages →
      ¬ Spared item log erasedPages ordinal →
      holds (ordinal % (geometry item).nrOfPages) newest oldest →
        holds (ordinal % (geometry item).nrOfPages + 1) newest oldest)
    (seen : ∀ ordinal (found : ScanResult),
      log.oldest ≤ ordinal →
      ordinal < log.oldest + (geometry item).nrOfPages →
      Spared item log erasedPages ordinal →
      holds (ordinal % (geometry item).nrOfPages)
          found.newest found.oldest →
        holds (ordinal % (geometry item).nrOfPages + 1)
          (found.see (geometry item).nrOfPages
            (beginTagOf item log ordinal) false).newest
          (found.see (geometry item).nrOfPages
            (beginTagOf item log ordinal) false).oldest) :
    ∃ found header,
      scanAll item state = .ok (withScan state item found, header) ∧
      holds (geometry item).nrOfPages found.newest found.oldest := by
  have run : ∀ visited, visited ≤ (geometry item).nrOfPages →
      ∃ found header,
        (List.range visited).foldlM (scanPage item)
            (withScan state item
              (initialScan item (state.itemStore item)), zeroHeader) =
          .ok (withScan state item found, header) ∧
        holds visited found.newest found.oldest := by
    intro visited
    induction visited with
    | zero => exact fun _ => ⟨_, _, rfl, start⟩
    | succ visited inductionHypothesis =>
        intro within
        obtain ⟨found, header, scanned, held⟩ :=
          inductionHypothesis (by omega)
        have lower := SegmentedLog.ordinalAt_ge log.oldest
          (show visited < (geometry item).nrOfPages from within)
        have upper := SegmentedLog.ordinalAt_lt log.oldest
          (show visited < (geometry item).nrOfPages from within)
        have place := SegmentedLog.ordinalAt_mod log.oldest
          (show visited < (geometry item).nrOfPages from within)
        generalize SegmentedLog.ordinalAt (geometry item).nrOfPages
          log.oldest visited = ordinal at lower upper place
        subst place
        have step :
            ∃ next nextHeader,
              scanPage item (withScan state item found, header)
                  (ordinal % (geometry item).nrOfPages) =
                .ok (withScan state item next, nextHeader) ∧
              holds (ordinal % (geometry item).nrOfPages + 1)
                next.newest next.oldest := by
          by_cases spared : Spared item log erasedPages ordinal
          · have afterFirst := spared.1
            obtain ⟨next, nextHeader, visitedPage, newest, oldest⟩ :=
              scanPage_spared static regular image left lower upper spared
                (by omega) found header
            refine ⟨next, nextHeader, visitedPage, ?_⟩
            rw [newest, oldest]
            exact seen ordinal found lower upper spared held
          · exact ⟨_, _,
              scanPage_gone static regular image left lower upper spared
                found header,
              gone ordinal _ _ lower upper spared held⟩
        obtain ⟨next, nextHeader, visitedPage, nextHolds⟩ := step
        refine ⟨next, nextHeader, ?_, nextHolds⟩
        rw [List.range_succ, List.foldlM_append, scanned]
        simp only [bind, Except.bind, List.foldlM_cons, List.foldlM_nil,
          visitedPage]
        rfl
  exact run _ (Nat.le_refl _)

end Scan

/-- The variables of a store after a reset. -/
structure Restarted
    (item : ItemDef) (memory : Memory) (write oldest : Nat)
    (after : ItemStoreState) : Prop where
  static : StaticInfo item (after.itemStore item)
  rest : AtRest after
  memory_eq : after.flash.memory = memory
  writePage_eq : writePage after item = write
  oldestPage_eq :
    (after.itemStore item).oldestPageInfo.pageId.toNat = oldest

section Restart

variable {item : ItemDef}
variable {memory : Memory}
variable {found : ScanResult}
variable {header : PageHeader}

theorem restarted_withScan :
    Restarted item memory found.newest.pageId.toNat
      found.oldest.pageId.toNat (withScan (powerOn memory) item found) where
  static := withScan_static (fresh_powerOn item memory).static found
  rest :=
    ⟨(fresh_powerOn item memory).listenerIdle,
      (fresh_powerOn item memory).idle⟩
  memory_eq := rfl
  writePage_eq := by
    rw [writePage, withScan, modifyInfo_same]
  oldestPage_eq := by
    rw [withScan, modifyInfo_same]

theorem restarted_pointTo (completeTag : PageCompleteTag) :
    Restarted item memory completeTag.nextPage.toNat
      found.oldest.pageId.toNat
      (modifyInfo (withScan (powerOn memory) item found) item
        (pointTo completeTag)) where
  static := by
    rw [modifyInfo_same]
    exact
      { withScan_static (fresh_powerOn item memory).static found with }
  rest :=
    ⟨(fresh_powerOn item memory).listenerIdle,
      (fresh_powerOn item memory).idle⟩
  memory_eq := rfl
  writePage_eq := by
    rw [writePage, modifyInfo_same]
    rfl
  oldestPage_eq := by
    rw [modifyInfo_same, pointTo, withScan, modifyInfo_same]

/-- A reset whose scan finds the newest page without a complete tag. -/
theorem recover_notComplete
    (run :
      scanAll item (powerOn memory) =
        .ok (withScan (powerOn memory) item found, header))
    (notComplete :
      (headerAt memory found.newest.pageId.toNat).completeTag.magic ≠
        pageMagic) :
    ∃ after,
      recover memory item = .ok after ∧
      Restarted item memory found.newest.pageId.toNat
        found.oldest.pageId.toNat after := by
  refine ⟨_, recover_eq ?_ restarted_withScan.rest.flashIdle,
    restarted_withScan⟩
  rw [initItemStore_scanned (fresh_powerOn item memory) run, afterScan,
    ← writePage, restarted_withScan.writePage_eq]
  simp only [readHeader_headerAt, restarted_withScan.memory_eq,
    Option.getD_some, if_neg notComplete]

/-- A reset whose scan finds a closed newest page before an erased one. -/
theorem recover_complete
    (run :
      scanAll item (powerOn memory) =
        .ok (withScan (powerOn memory) item found, header))
    (complete :
      (headerAt memory found.newest.pageId.toNat).completeTag.magic =
        pageMagic)
    (blank :
      Blank memory
        (headerAt memory
          found.newest.pageId.toNat).completeTag.nextPage.toNat) :
    ∃ after,
      recover memory item = .ok after ∧
      Restarted item memory
        (headerAt memory
          found.newest.pageId.toNat).completeTag.nextPage.toNat
        found.oldest.pageId.toNat after := by
  refine ⟨_, recover_eq ?_ (restarted_pointTo _).rest.flashIdle,
    restarted_pointTo _⟩
  rw [Blank, ← toBytes_headerAt] at blank
  rw [initItemStore_scanned (fresh_powerOn item memory) run, afterScan,
    ← writePage, restarted_withScan.writePage_eq]
  simp only [readHeader_headerAt, restarted_withScan.memory_eq,
    Option.getD_some, if_pos complete, adjustNextWritePage, blank]
  rfl

/-- A reset whose scan takes an erased page for the oldest one. -/
theorem recover_oldestErased
    (run :
      scanAll item (powerOn memory) =
        .ok (withScan (powerOn memory) item found, header))
    (blank : Blank memory found.oldest.pageId.toNat)
    {after : ItemStoreState}
    (recovered : recover memory item = .ok after) :
    ∃ write,
      Restarted item memory write found.oldest.pageId.toNat after := by
  by_cases complete :
      (headerAt memory found.newest.pageId.toNat).completeTag.magic =
        pageMagic
  · by_cases free :
        Blank memory
          (headerAt memory
            found.newest.pageId.toNat).completeTag.nextPage.toNat
    · obtain ⟨other, same, restarted⟩ := recover_complete run complete free
      rw [same] at recovered
      cases recovered
      exact ⟨_, restarted⟩
    · -- the assertion that the erased page is the oldest one fails
      have failed :
          initItemStore (powerOn memory) item =
            .error .erasedPageNotOldest := by
        have other :
            ¬ ((withScan (powerOn memory) item found).itemStore
                item).oldestPageInfo.pageId =
              (headerAt memory
                found.newest.pageId.toNat).completeTag.nextPage := by
          intro same
          rw [withScan, modifyInfo_same] at same
          rw [show found.oldest.pageId = _ from same] at blank
          exact free blank
        rw [Blank, ← toBytes_headerAt] at free
        rw [initItemStore_scanned (fresh_powerOn item memory) run,
          afterScan, ← writePage, restarted_withScan.writePage_eq]
        simp only [readHeader_headerAt, restarted_withScan.memory_eq,
          Option.getD_some, if_pos complete, adjustNextWritePage,
          modifyInfo_flash, if_neg free, modifyInfo_same, if_pos other]
        rfl
      rw [recover, failed] at recovered
      cases recovered
  · obtain ⟨other, same, restarted⟩ := recover_notComplete run complete
    rw [same] at recovered
    cases recovered
    exact ⟨_, restarted⟩

end Restart

section FirstPage

variable {item : ItemDef}
variable {log : StoreLog}
variable {memory : Memory}
variable {erasedPages : Nat}

/-- The tag the scan assumes for the erased first page. -/
theorem pageId_initialTag
    {info : ItemStoreInfo}
    (static : StaticInfo item info) :
    (initialTag info item).pageId.toNat = (geometry item).pageOf 0 := by
  rw [initialTag, static.firstPage_eq, StoreGeometry.pageOf, Nat.zero_mod,
    Nat.add_zero]
  have small := (geometry item).pageOf_byte 0
  rw [StoreGeometry.pageOf, Nat.zero_mod, Nat.add_zero] at small
  rw [UInt8.toNat_ofNat', Nat.mod_eq_of_lt small]

theorem headerAt_erased
    {memory : Memory}
    {page : Nat}
    (erased : PageErased memory page) :
    headerAt memory page = PageHeader.erased := by
  have read :=
    @readHeader_eq (powerOn memory) 0 _ _ _
      (PageHolds.of_constantOn erased)
  rw [readHeader_headerAt] at read
  exact Option.some.inj read

/-- An erased page has no consistent begin tag. -/
theorem blocked_of_erased
    {state : ItemStoreState}
    {page : Nat}
    (erased : PageErased state.flash.memory page) :
    Blocked state item page := by
  left
  rw [headerAt_erased erased]
  exact beginTagIsConsistent_erased _ _ rfl

/-- Pages with the block ids of the first turn leave the first page oldest. -/
theorem scan_firstTurn
    (regular : log.Regular (geometry item))
    (image : StoreImage item log memory)
    (someErased : 0 < erasedPages)
    (blockId_eq : ∀ ordinal,
      log.oldest ≤ ordinal →
      ordinal < log.oldest + (geometry item).nrOfPages →
      Spared item log erasedPages ordinal →
        log.blockId ordinal = ordinal % (geometry item).nrOfPages) :
    ∃ found header,
      scanAll item (powerOn (leftMemory item memory erasedPages)) =
        .ok
          (withScan (powerOn (leftMemory item memory erasedPages)) item
            found, header) ∧
      found.oldest =
        initialTag
          ((powerOn (leftMemory item memory erasedPages)).itemStore item)
          item := by
  obtain ⟨found, header, run, oldest, _⟩ :=
    @scanAll_left item log memory erasedPages
      (powerOn (leftMemory item memory erasedPages))
      (fresh_powerOn item _).static regular image rfl someErased
      (fun visited newest oldest =>
        oldest =
            initialTag
              ((powerOn (leftMemory item memory erasedPages)).itemStore
                item) item ∧
          newest.blockId.toNat ≤ visited - 1)
      ⟨rfl, Nat.le_of_eq rfl⟩
      (fun ordinal newest oldest _ _ _ held =>
        ⟨held.1, Nat.le_trans held.2 (by omega)⟩)
      (by
        intro ordinal found lower upper spared held
        have afterFirst := spared.1
        have inside := Nat.mod_lt ordinal (geometry item).nrOfPages_pos
        have block := blockId_toNat regular.wellFormed ordinal
        rw [blockId_eq ordinal lower upper spared] at block
        rw [see_newer]
        · exact ⟨held.1, Nat.le_of_eq block⟩
        · rw [block]
          simp only [isNewer, decide_eq_true_eq]
          have newest := held.2
          omega)
  exact ⟨found, header, run, oldest⟩

/-- A store whose scan starts on the erased first page is not usable. -/
theorem not_usable_firstTurn
    (regular : log.Regular (geometry item))
    (image : StoreImage item log memory)
    (someErased : 0 < erasedPages)
    (blockId_eq : ∀ ordinal,
      log.oldest ≤ ordinal →
      ordinal < log.oldest + (geometry item).nrOfPages →
      Spared item log erasedPages ordinal →
        log.blockId ordinal = ordinal % (geometry item).nrOfPages)
    {kept : List (List Byte)}
    (someKept : kept ≠ []) :
    ¬ Usable item (leftMemory item memory erasedPages) kept := by
  rintro ⟨after, recovered, enumerates, _⟩
  obtain ⟨found, header, run, oldest⟩ :=
    scan_firstTurn regular image someErased blockId_eq
  have page := pageId_initialTag
    (fresh_powerOn item (leftMemory item memory erasedPages)).static
  have erased :=
    @pageErased_left item erasedPages 0 memory
      (by rw [Nat.zero_mod]; exact someErased)
  rw [← oldest] at page
  rw [← page] at erased
  obtain ⟨write, restarted⟩ :=
    recover_oldestErased run (PageErased.blank erased) recovered
  have notReady := beginEnumerate_blocked restarted.static
    (by
      apply blocked_of_erased
      rw [restarted.oldestPage_eq, restarted.memory_eq]
      exact erased)
  rw [EnumeratesFromStart, if_neg someKept, EnumeratesExactly,
    notReady] at enumerates
  cases enumerates.1

end FirstPage

section Turns

variable {item : ItemDef}
variable {log : StoreLog}
variable {memory : Memory}
variable {erasedPages turn place ordinal : Nat}

theorem place_of_turn
    (geometry : StoreGeometry)
    (turn : Nat)
    (inside : place < geometry.nrOfPages) :
    (geometry.nrOfPages * turn + place) % geometry.nrOfPages = place := by
  rw [Nat.mul_add_mod, Nat.mod_eq_of_lt inside]

/-- The pages of a ring that has wrapped, by their places. -/
theorem window_cases
    (regular : log.Regular (geometry item))
    (closed :
      log.closed = (geometry item).nrOfPages * (turn + 1) + place)
    (inside : place < (geometry item).nrOfPages)
    (lower : log.oldest ≤ ordinal)
    (upper : ordinal < log.oldest + (geometry item).nrOfPages) :
    ordinal % (geometry item).nrOfPages ≤ place ∧
        ordinal =
          (geometry item).nrOfPages * (turn + 1) +
            ordinal % (geometry item).nrOfPages ∨
      place < ordinal % (geometry item).nrOfPages ∧
        ordinal =
          (geometry item).nrOfPages * turn +
            ordinal % (geometry item).nrOfPages := by
  have oldest := regular.oldest_eq
  rw [SegmentedLog.oldest] at oldest
  have next :
      (geometry item).nrOfPages * (turn + 1) =
        (geometry item).nrOfPages * turn + (geometry item).nrOfPages :=
    Nat.mul_succ _ _
  by_cases current : (geometry item).nrOfPages * (turn + 1) ≤ ordinal
  · obtain ⟨offset, rfl⟩ := Nat.exists_eq_add_of_le current
    rw [place_of_turn (geometry item) (turn + 1) (by omega)]
    exact Or.inl ⟨by omega, rfl⟩
  · obtain ⟨offset, rfl⟩ := Nat.exists_eq_add_of_le
      (show (geometry item).nrOfPages * turn ≤ ordinal by omega)
    rw [place_of_turn (geometry item) turn (by omega)]
    exact Or.inr ⟨by omega, rfl⟩

/-- The block ids of a turn. -/
theorem blockId_turn
    (blockId_eq :
      ∀ ordinal, log.blockId ordinal = ordinal % maxBlockIndex)
    (turn : Nat)
    (inside : place < (geometry item).nrOfPages) :
    log.blockId ((geometry item).nrOfPages * turn + place) =
      (geometry item).nrOfPages * turn % maxBlockIndex + place := by
  rw [blockId_eq, turn_mod (geometry item) turn inside]

/-- The delete was interrupted before the last page in use of its turn. -/
structure LeavesCurrent
    (item : ItemDef) (log : StoreLog) (erasedPages turn place : Nat) :
    Prop where
  regular : log.Regular (geometry item)
  blockId_eq : ∀ ordinal, log.blockId ordinal = ordinal % maxBlockIndex
  closed : log.closed = (geometry item).nrOfPages * (turn + 1) + place
  inside : place < (geometry item).nrOfPages
  someErased : 0 < erasedPages
  notPassed : erasedPages ≤ place
  left : InUse log ((geometry item).nrOfPages * (turn + 1) + erasedPages)

namespace LeavesCurrent

/-- Pages that are gone have small places, or the place of a next page. -/
theorem gone_cases
    (leaves : LeavesCurrent item log erasedPages turn place)
    (lower : log.oldest ≤ ordinal)
    (upper : ordinal < log.oldest + (geometry item).nrOfPages)
    (gone : ¬ Spared item log erasedPages ordinal) :
    ordinal % (geometry item).nrOfPages < erasedPages ∨
      erasedPages < place ∧
        ordinal % (geometry item).nrOfPages = place ∧
        log.opened = false := by
  have inside := leaves.inside
  have closed := leaves.closed
  have small := Nat.mod_lt ordinal (geometry item).nrOfPages_pos
  have next :
      (geometry item).nrOfPages * (turn + 1) =
        (geometry item).nrOfPages * turn + (geometry item).nrOfPages :=
    Nat.mul_succ _ _
  by_cases passed : ordinal % (geometry item).nrOfPages < erasedPages
  · exact Or.inl passed
  · have notInUse : ¬ InUse log ordinal :=
      fun inUse => gone ⟨Nat.le_of_not_lt passed, inUse⟩
    simp only [InUse, not_or] at notInUse
    rcases window_cases leaves.regular closed inside lower upper with
      ⟨current, shape⟩ | ⟨before, shape⟩
    · have atPlace : ordinal % (geometry item).nrOfPages = place := by
        omega
      have notOpened : log.opened = false := by
        have isClosed : ordinal = log.closed := by omega
        simpa [isClosed] using notInUse.2
      refine Or.inr ⟨?_, atPlace, notOpened⟩
      rcases leaves.left with full | ⟨_, opened⟩
      · omega
      · rw [notOpened] at opened
        cases opened
    · omega

theorem toNat_blockId
    (leaves : LeavesCurrent item log erasedPages turn place)
    (turn : Nat)
    {offset : Nat}
    (inside : offset < (geometry item).nrOfPages) :
    (beginTagOf item log
      ((geometry item).nrOfPages * turn + offset)).blockId.toNat =
        (geometry item).nrOfPages * turn % maxBlockIndex + offset := by
  rw [blockId_toNat leaves.regular.wellFormed,
    blockId_turn leaves.blockId_eq turn inside]

end LeavesCurrent

/--
The scan when the block ids of the current turn do not start at 0, while those
of the turn before do.
-/
structure LateScan
    (item : ItemDef) (log : StoreLog) (erasedPages turn place : Nat)
    (first : PageBeginTag) (visited : Nat)
    (newest oldest : PageBeginTag) : Prop where
  oldest_first : visited ≤ erasedPages → oldest = first
  oldest_moved : erasedPages < visited →
    oldest =
      beginTagOf item log
        ((geometry item).nrOfPages * (turn + 1) + erasedPages)
  newest_first : visited ≤ place + 1 → newest = first
  newest_moved : place + 1 < visited →
    newest =
      beginTagOf item log
        ((geometry item).nrOfPages * turn + (visited - 1))

section LateTurn

variable {first newest oldest : PageBeginTag}
variable {found : ScanResult}

theorem LateScan.gone
    (scan :
      LateScan item log erasedPages turn place first
        (ordinal % (geometry item).nrOfPages) newest oldest)
    (leaves : LeavesCurrent item log erasedPages turn place)
    (lower : log.oldest ≤ ordinal)
    (upper : ordinal < log.oldest + (geometry item).nrOfPages)
    (gone : ¬ Spared item log erasedPages ordinal) :
    LateScan item log erasedPages turn place first
      (ordinal % (geometry item).nrOfPages + 1) newest oldest := by
  have places := leaves.gone_cases lower upper gone
  have notPassed := leaves.notPassed
  exact
    { oldest_first := fun early => scan.oldest_first (by omega)
      oldest_moved := fun later => scan.oldest_moved (by omega)
      newest_first := fun early => scan.newest_first (by omega)
      newest_moved := fun later => by omega }

/-- A page of the current turn can only become the oldest one. -/
theorem LateScan.seenCurrent
    (scan :
      LateScan item log erasedPages turn place first
        (ordinal % (geometry item).nrOfPages) found.newest found.oldest)
    (leaves : LeavesCurrent item log erasedPages turn place)
    (noBlock : first.blockId.toNat = 0)
    (late : ¬ maxBlockIndex ∣ (geometry item).nrOfPages * (turn + 1))
    (notPassed :
      erasedPages ≤ ordinal % (geometry item).nrOfPages)
    (current : ordinal % (geometry item).nrOfPages ≤ place)
    (shape :
      ordinal =
        (geometry item).nrOfPages * (turn + 1) +
          ordinal % (geometry item).nrOfPages) :
    LateScan item log erasedPages turn place first
      (ordinal % (geometry item).nrOfPages + 1)
      (found.see (geometry item).nrOfPages
        (beginTagOf item log ordinal) false).newest
      (found.see (geometry item).nrOfPages
        (beginTagOf item log ordinal) false).oldest := by
  have inside := leaves.inside
  have someErased := leaves.someErased
  have large := turn_late (geometry item) late
  have seen := leaves.toNat_blockId (turn + 1)
    (show ordinal % (geometry item).nrOfPages < _ by omega)
  rw [← shape] at seen
  have newest := scan.newest_first (by omega)
  have notNewer :
      isNewer (beginTagOf item log ordinal).blockId.toNat
        found.newest.blockId.toNat (geometry item).nrOfPages = false := by
    rw [newest, noBlock, seen]
    simp only [isNewer, decide_eq_false_iff_not]
    omega
  rcases Nat.lt_or_eq_of_le notPassed with later | atFirst
  · have oldest := scan.oldest_moved later
    have oldestBlock := leaves.toNat_blockId (turn + 1)
      (show erasedPages < _ by omega)
    rw [see_between notNewer]
    · exact
        { oldest_first := fun early => by omega
          oldest_moved := fun _ => oldest
          newest_first := fun _ => newest
          newest_moved := fun beyond => by omega }
    · rw [oldest, seen, oldestBlock]
      simp only [isOlder, decide_eq_false_iff_not]
      omega
  · have oldest := scan.oldest_first (by omega)
    rw [see_older notNewer]
    · exact
        { oldest_first := fun early => by omega
          oldest_moved := fun _ => by rw [atFirst, ← shape]
          newest_first := fun _ => newest
          newest_moved := fun beyond => by omega }
    · rw [oldest, noBlock, seen]
      simp only [isOlder, decide_eq_true_eq]
      omega

/-- A page of the turn before becomes the newest one. -/
theorem LateScan.seenBefore
    (scan :
      LateScan item log erasedPages turn place first
        (ordinal % (geometry item).nrOfPages) found.newest found.oldest)
    (leaves : LeavesCurrent item log erasedPages turn place)
    (noBlock : first.blockId.toNat = 0)
    (older :
      place + 1 < (geometry item).nrOfPages →
        maxBlockIndex ∣ (geometry item).nrOfPages * turn)
    (before : place < ordinal % (geometry item).nrOfPages)
    (shape :
      ordinal =
        (geometry item).nrOfPages * turn +
          ordinal % (geometry item).nrOfPages) :
    LateScan item log erasedPages turn place first
      (ordinal % (geometry item).nrOfPages + 1)
      (found.see (geometry item).nrOfPages
        (beginTagOf item log ordinal) false).newest
      (found.see (geometry item).nrOfPages
        (beginTagOf item log ordinal) false).oldest := by
  have small := Nat.mod_lt ordinal (geometry item).nrOfPages_pos
  have notPassed := leaves.notPassed
  have start := Nat.mod_eq_zero_of_dvd (older (by omega))
  have seen := leaves.toNat_blockId turn small
  rw [← shape, start, Nat.zero_add] at seen
  have oldest := scan.oldest_moved (by omega)
  rw [see_newer]
  · exact
      { oldest_first := fun early => by omega
        oldest_moved := fun _ => oldest
        newest_first := fun early => by omega
        newest_moved := fun _ => by rw [Nat.add_sub_cancel, ← shape] }
  · rw [seen]
    rcases Nat.lt_or_eq_of_le before with later | atFirst
    · rw [scan.newest_moved later, leaves.toNat_blockId turn (by omega),
        start]
      simp only [isNewer, decide_eq_true_eq]
      omega
    · rw [scan.newest_first (by omega), noBlock]
      simp only [isNewer, decide_eq_true_eq]
      omega

/-- The scan takes the first page that is left for the oldest one. -/
theorem scan_lateTurn
    (leaves : LeavesCurrent item log erasedPages turn place)
    (image : StoreImage item log memory)
    (late : ¬ maxBlockIndex ∣ (geometry item).nrOfPages * (turn + 1))
    (older :
      place + 1 < (geometry item).nrOfPages →
        maxBlockIndex ∣ (geometry item).nrOfPages * turn) :
    ∃ found header,
      scanAll item (powerOn (leftMemory item memory erasedPages)) =
        .ok
          (withScan (powerOn (leftMemory item memory erasedPages)) item
            found, header) ∧
      LateScan item log erasedPages turn place
        (initialTag
          ((powerOn (leftMemory item memory erasedPages)).itemStore item)
          item)
        (geometry item).nrOfPages found.newest found.oldest := by
  apply scanAll_left (fresh_powerOn item _).static leaves.regular image rfl
    leaves.someErased
  · exact
      { oldest_first := fun _ => rfl
        oldest_moved := fun none => (Nat.not_lt_zero _ none).elim
        newest_first := fun _ => rfl
        newest_moved := fun none => (Nat.not_lt_zero _ none).elim }
  · intro ordinal newest oldest lower upper gone scan
    exact scan.gone leaves lower upper gone
  · intro ordinal found lower upper spared scan
    rcases window_cases leaves.regular leaves.closed leaves.inside lower
      upper with ⟨current, shape⟩ | ⟨before, shape⟩
    · exact scan.seenCurrent leaves rfl late spared.1 current shape
    · exact scan.seenBefore leaves rfl older before shape

end LateTurn

/-- The last page in use. -/
def lastInUse (log : StoreLog) : Nat :=
  if log.opened then log.closed else log.closed - 1

/--
The scan when the block ids of the current turn start at 0, so that those of
the turn before are the last ones.
-/
structure WrappedScan
    (item : ItemDef) (log : StoreLog) (erasedPages turn place : Nat)
    (first : PageBeginTag) (visited : Nat)
    (newest oldest : PageBeginTag) : Prop where
  newest_first : visited ≤ erasedPages → newest = first
  newest_moved : erasedPages < visited →
    newest =
      beginTagOf item log
        (min ((geometry item).nrOfPages * (turn + 1) + (visited - 1))
          (lastInUse log))
  oldest_first : visited ≤ place + 1 → oldest = first
  oldest_moved : place + 1 < visited →
    oldest =
      beginTagOf item log
        ((geometry item).nrOfPages * turn + (place + 1))

section Wrapped

variable {first newest oldest : PageBeginTag}
variable {found : ScanResult}

theorem WrappedScan.gone
    (scan :
      WrappedScan item log erasedPages turn place first
        (ordinal % (geometry item).nrOfPages) newest oldest)
    (leaves : LeavesCurrent item log erasedPages turn place)
    (lower : log.oldest ≤ ordinal)
    (upper : ordinal < log.oldest + (geometry item).nrOfPages)
    (gone : ¬ Spared item log erasedPages ordinal) :
    WrappedScan item log erasedPages turn place first
      (ordinal % (geometry item).nrOfPages + 1) newest oldest := by
  have places := leaves.gone_cases lower upper gone
  have notPassed := leaves.notPassed
  have closed := leaves.closed
  refine
    { newest_first := fun early => scan.newest_first (by omega)
      newest_moved := fun later => ?_
      oldest_first := fun early => scan.oldest_first (by omega)
      oldest_moved := fun later => by omega }
  rcases places with early | ⟨passed, atPlace, notOpened⟩
  · omega
  · rw [scan.newest_moved (by omega)]
    congr 1
    simp only [lastInUse, notOpened, Bool.false_eq_true, if_false]
    omega

/-- A page of the current turn becomes the newest one. -/
theorem WrappedScan.seenCurrent
    (scan :
      WrappedScan item log erasedPages turn place first
        (ordinal % (geometry item).nrOfPages) found.newest found.oldest)
    (leaves : LeavesCurrent item log erasedPages turn place)
    (noBlock : first.blockId.toNat = 0)
    (wraps : maxBlockIndex ∣ (geometry item).nrOfPages * (turn + 1))
    (inUse : InUse log ordinal)
    (notPassed :
      erasedPages ≤ ordinal % (geometry item).nrOfPages)
    (current : ordinal % (geometry item).nrOfPages ≤ place)
    (shape :
      ordinal =
        (geometry item).nrOfPages * (turn + 1) +
          ordinal % (geometry item).nrOfPages) :
    WrappedScan item log erasedPages turn place first
      (ordinal % (geometry item).nrOfPages + 1)
      (found.see (geometry item).nrOfPages
        (beginTagOf item log ordinal) false).newest
      (found.see (geometry item).nrOfPages
        (beginTagOf item log ordinal) false).oldest := by
  have inside := leaves.inside
  have someErased := leaves.someErased
  have start := Nat.mod_eq_zero_of_dvd wraps
  have seen := leaves.toNat_blockId (turn + 1)
    (show ordinal % (geometry item).nrOfPages < _ by omega)
  rw [← shape, start, Nat.zero_add] at seen
  have inLast : ordinal ≤ lastInUse log := by
    rw [lastInUse]
    rcases inUse with full | ⟨same, opened⟩
    · split <;> omega
    · rw [if_pos opened]
      exact Nat.le_of_eq same
  rw [see_newer]
  · exact
      { newest_first := fun early => by omega
        newest_moved := fun _ => by
          rw [Nat.add_sub_cancel, ← shape, Nat.min_eq_left inLast]
        oldest_first := fun _ => scan.oldest_first (by omega)
        oldest_moved := fun beyond => by omega }
  · rw [seen]
    rcases Nat.lt_or_eq_of_le notPassed with later | atFirst
    · rw [scan.newest_moved later, Nat.min_eq_left (by omega),
        leaves.toNat_blockId (turn + 1) (by omega), start]
      simp only [isNewer, decide_eq_true_eq]
      omega
    · rw [scan.newest_first (by omega), noBlock]
      simp only [isNewer, decide_eq_true_eq]
      omega

/-- A page of the turn before can only become the oldest one. -/
theorem WrappedScan.seenBefore
    (scan :
      WrappedScan item log erasedPages turn place first
        (ordinal % (geometry item).nrOfPages) found.newest found.oldest)
    (leaves : LeavesCurrent item log erasedPages turn place)
    (noBlock : first.blockId.toNat = 0)
    (wraps : maxBlockIndex ∣ (geometry item).nrOfPages * (turn + 1))
    (before : place < ordinal % (geometry item).nrOfPages)
    (shape :
      ordinal =
        (geometry item).nrOfPages * turn +
          ordinal % (geometry item).nrOfPages) :
    WrappedScan item log erasedPages turn place first
      (ordinal % (geometry item).nrOfPages + 1)
      (found.see (geometry item).nrOfPages
        (beginTagOf item log ordinal) false).newest
      (found.see (geometry item).nrOfPages
        (beginTagOf item log ordinal) false).oldest := by
  have small := Nat.mod_lt ordinal (geometry item).nrOfPages_pos
  have few := (geometry item).fewPages
  have notPassed := leaves.notPassed
  have someErased := leaves.someErased
  have closed := leaves.closed
  have next :
      (geometry item).nrOfPages * (turn + 1) =
        (geometry item).nrOfPages * turn + (geometry item).nrOfPages :=
    Nat.mul_succ _ _
  have start := Nat.mod_eq_zero_of_dvd wraps
  have startBefore :
      (geometry item).nrOfPages * turn % maxBlockIndex =
        maxBlockIndex - (geometry item).nrOfPages := by
    simp only [maxBlockIndex] at start few ⊢
    omega
  have seen := leaves.toNat_blockId turn small
  rw [← shape, startBefore] at seen
  obtain ⟨offset, last_eq, offset_le⟩ :
      ∃ offset,
        lastInUse log =
          (geometry item).nrOfPages * (turn + 1) + offset ∧
        offset ≤ place := by
    rw [lastInUse]
    split
    · exact ⟨place, closed, Nat.le_refl _⟩
    · exact ⟨place - 1, by omega, by omega⟩
  have newest :
      found.newest = beginTagOf item log (lastInUse log) := by
    rw [scan.newest_moved (by omega), Nat.min_eq_right (by omega)]
  have notNewer :
      isNewer (beginTagOf item log ordinal).blockId.toNat
        found.newest.blockId.toNat (geometry item).nrOfPages = false := by
    rw [newest, seen, last_eq,
      leaves.toNat_blockId (turn + 1) (by omega), start]
    simp only [isNewer, decide_eq_false_iff_not]
    omega
  have newestKept :
      found.newest =
        beginTagOf item log
          (min
            ((geometry item).nrOfPages * (turn + 1) +
              (ordinal % (geometry item).nrOfPages + 1 - 1))
            (lastInUse log)) := by
    rw [newest, Nat.min_eq_right (by omega)]
  rcases Nat.lt_or_eq_of_le (show place + 1 ≤ _ from before) with
    later | atFirst
  · have oldest := scan.oldest_moved later
    rw [see_between notNewer]
    · exact
        { newest_first := fun early => by omega
          newest_moved := fun _ => newestKept
          oldest_first := fun early => by omega
          oldest_moved := fun _ => oldest }
    · rw [oldest, seen, leaves.toNat_blockId turn (by omega), startBefore]
      simp only [isOlder, decide_eq_false_iff_not]
      omega
  · rw [see_older notNewer]
    · exact
        { newest_first := fun early => by omega
          newest_moved := fun _ => newestKept
          oldest_first := fun early => by omega
          oldest_moved := fun _ => by rw [atFirst, ← shape] }
    · rw [scan.oldest_first (by omega), noBlock, seen]
      simp only [isOlder, decide_eq_true_eq]
      omega

/-- The scan takes the page after the current one for the oldest one. -/
theorem scan_wrappedTurn
    (leaves : LeavesCurrent item log erasedPages turn place)
    (image : StoreImage item log memory)
    (wraps : maxBlockIndex ∣ (geometry item).nrOfPages * (turn + 1)) :
    ∃ found header,
      scanAll item (powerOn (leftMemory item memory erasedPages)) =
        .ok
          (withScan (powerOn (leftMemory item memory erasedPages)) item
            found, header) ∧
      WrappedScan item log erasedPages turn place
        (initialTag
          ((powerOn (leftMemory item memory erasedPages)).itemStore item)
          item)
        (geometry item).nrOfPages found.newest found.oldest := by
  apply scanAll_left (fresh_powerOn item _).static leaves.regular image rfl
    leaves.someErased
  · exact
      { newest_first := fun _ => rfl
        newest_moved := fun none => (Nat.not_lt_zero _ none).elim
        oldest_first := fun _ => rfl
        oldest_moved := fun none => (Nat.not_lt_zero _ none).elim }
  · intro ordinal newest oldest lower upper gone scan
    exact scan.gone leaves lower upper gone
  · intro ordinal found lower upper spared scan
    rcases window_cases leaves.regular leaves.closed leaves.inside lower
      upper with ⟨current, shape⟩ | ⟨before, shape⟩
    · exact scan.seenCurrent leaves rfl wraps spared.2 spared.1 current
        shape
    · exact scan.seenBefore leaves rfl wraps before shape

end Wrapped

end Turns

end DemoBoard.InterruptedDelete
