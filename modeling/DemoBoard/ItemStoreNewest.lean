import DemoBoard.ItemStoreScan

namespace DemoBoard.ItemStore

/-!
# Newest and oldest page of a ring

`UpdateNewestOldestPage` compares block ids that wrap around, and the scan
meets the pages in the order of their addresses, not in the order they were
written.  Page 0 is somewhere in the run of used pages.  From there on the
pages met so far are enclosed by two indices of the run, and those are the
pages which the two kept tags belong to.
-/

/-- `UpdateNewestOldestPage` on the used ones of the first pages. -/
def visitUsedPages
    (info : ItemStoreInfo) (used : Nat → Bool)
    (tags : Nat → PageBeginTag) (visited : Nat) : ItemStoreInfo :=
  ((List.range visited).filter used).foldl
    (fun info page =>
      updateNewestOldestPage { info with currentPageInfo := tags page }
        (page = 0))
    info

/--
The used pages of a ring are one run whose block ids are consecutive modulo
the modulus, and page 0 is one of them.
-/
structure PageRun
    (nrOfPages modulus first length base : Nat)
    (used : Nat → Bool) (tags : Nat → PageBeginTag) : Prop where
  severalPages : 2 ≤ nrOfPages
  twicePages : 2 * nrOfPages ≤ modulus
  first_lt : first < nrOfPages
  length_le : length ≤ nrOfPages
  used_iff : ∀ page, page < nrOfPages →
    (used page = true ↔
      ∃ index, index < length ∧ (first + index) % nrOfPages = page)
  blockId_eq : ∀ index, index < length →
    (tags ((first + index) % nrOfPages)).blockId.toNat =
      (base + index) % modulus
  zero_used : used 0 = true

/--
The kept tags are those of two pages of the run, and no page met so far lies
outside of them.
-/
structure Encloses
    (nrOfPages first length : Nat) (tags : Nat → PageBeginTag)
    (visited low high : Nat) (info : ItemStoreInfo) : Prop where
  nrOfPages_eq : info.nrOfPages = nrOfPages
  newest_eq : info.nextWritePageInfo = tags ((first + high) % nrOfPages)
  oldest_eq : info.oldestPageInfo = tags ((first + low) % nrOfPages)
  low_le_high : low ≤ high
  high_lt : high < length
  bounds : ∀ index, index < length →
    (first + index) % nrOfPages < visited → low ≤ index ∧ index ≤ high

section Visits

variable {info : ItemStoreInfo}
variable {used : Nat → Bool}
variable {tags : Nat → PageBeginTag}

theorem visitUsedPages_succ (visited : Nat) :
    visitUsedPages info used tags (visited + 1) =
      if used visited then
        updateNewestOldestPage
          { visitUsedPages info used tags visited with
            currentPageInfo := tags visited }
          (visited = 0)
      else
        visitUsedPages info used tags visited := by
  rw [visitUsedPages, List.range_succ, List.filter_append,
    List.foldl_append, ← visitUsedPages, List.filter_singleton]
  cases used visited with
  | false => rfl
  | true => rfl

/-- A page is not newer or older than itself. -/
theorem not_newer_self (blockId nrOfPages : Nat) :
    isNewer blockId blockId nrOfPages = false := by
  simp [isNewer]

theorem not_older_self (blockId nrOfPages : Nat) :
    isOlder blockId blockId nrOfPages = false := by
  simp [isOlder]

end Visits

namespace PageRun

variable {info : ItemStoreInfo}
variable {nrOfPages modulus first length base : Nat}
variable {used : Nat → Bool}
variable {tags : Nat → PageBeginTag}

/-- The block ids of a run compare like the indices of its pages. -/
theorem ordered
    (run : PageRun nrOfPages modulus first length base used tags)
    {early late : Nat}
    (earlier : early < late)
    (inside : late < length) :
    let earlyId := (tags ((first + early) % nrOfPages)).blockId.toNat
    let lateId := (tags ((first + late) % nrOfPages)).blockId.toNat
    isNewer lateId earlyId nrOfPages = true ∧
      isNewer earlyId lateId nrOfPages = false ∧
      isOlder lateId earlyId nrOfPages = false ∧
      isOlder earlyId lateId nrOfPages = true := by
  have few := run.length_le
  rw [run.blockId_eq late inside,
    run.blockId_eq early (Nat.lt_trans earlier inside)]
  exact @blocksOrdered_wrapping nrOfPages modulus 0 late base
    run.twicePages (by omega) early late (Nat.zero_le early) earlier
    (Nat.le_refl late)

/-- Updating with a page of the run widens the enclosing indices. -/
theorem update_eq
    (run : PageRun nrOfPages modulus first length base used tags)
    {visited low high : Nat}
    {info : ItemStoreInfo}
    (encloses :
      Encloses nrOfPages first length tags visited low high info)
    {index : Nat}
    (inside : index < length) :
    updateNewestOldestPage
        { info with
          currentPageInfo := tags ((first + index) % nrOfPages) } false =
      { info with
        currentPageInfo := tags ((first + index) % nrOfPages)
        nextWritePageInfo := tags ((first + max high index) % nrOfPages)
        oldestPageInfo :=
          tags ((first + min low index) % nrOfPages) } := by
  have lowHigh := encloses.low_le_high
  have highLt := encloses.high_lt
  simp only [updateNewestOldestPage, Bool.false_eq_true, ↓reduceIte,
    encloses.nrOfPages_eq, encloses.newest_eq, encloses.oldest_eq]
  rcases Nat.lt_or_ge high index with above | notAbove
  · obtain ⟨newer, -⟩ := run.ordered above inside
    rw [if_pos newer, Nat.max_eq_right (by omega),
      Nat.min_eq_left (by omega), ← encloses.oldest_eq]
  have notNewer :
      isNewer (tags ((first + index) % nrOfPages)).blockId.toNat
        (tags ((first + high) % nrOfPages)).blockId.toNat nrOfPages =
        false := by
    rcases Nat.lt_or_eq_of_le notAbove with below | same
    · exact (run.ordered below highLt).2.1
    · rw [same, not_newer_self]
  rw [notNewer, Nat.max_eq_left notAbove, ← encloses.newest_eq]
  simp only [Bool.false_eq_true, ↓reduceIte]
  rcases Nat.lt_or_ge index low with below | notBelow
  · have older := (run.ordered below (by omega)).2.2.2
    rw [if_pos older, Nat.min_eq_right (by omega)]
  have notOlder :
      isOlder (tags ((first + index) % nrOfPages)).blockId.toNat
        (tags ((first + low) % nrOfPages)).blockId.toNat nrOfPages =
        false := by
    rcases Nat.lt_or_eq_of_le notBelow with above | same
    · exact (run.ordered above inside).2.2.1
    · rw [same, not_older_self]
  rw [notOlder, Nat.min_eq_left notBelow, ← encloses.oldest_eq]
  rfl

/-- The index of a used page. -/
theorem exists_index
    (run : PageRun nrOfPages modulus first length base used tags)
    {page : Nat}
    (inRing : page < nrOfPages)
    (inUse : used page = true) :
    ∃ index, index < length ∧ (first + index) % nrOfPages = page :=
  (run.used_iff page inRing).mp inUse

/-- No two indices of the run share a page. -/
theorem index_unique
    (run : PageRun nrOfPages modulus first length base used tags)
    {left right : Nat}
    (leftLt : left < length)
    (rightLt : right < length)
    (same : (first + left) % nrOfPages = (first + right) % nrOfPages) :
    left = right := by
  have few := run.length_le
  have sameSum :=
    @SegmentedLog.eq_of_same_place nrOfPages first (first + left)
      (first + right) (by omega) (by omega) (by omega) (by omega) same
  omega

/-- After page 0 both kept tags are its tag. -/
theorem visit_zero
    (run : PageRun info.nrOfPages modulus first length base used tags) :
    ∃ index,
      Encloses info.nrOfPages first length tags 1 index index
        (visitUsedPages info used tags 1) := by
  have pages := run.severalPages
  obtain ⟨index, inside, place⟩ :=
    run.exists_index (by omega) run.zero_used
  have visited :
      visitUsedPages info used tags 1 =
        updateNewestOldestPage { info with currentPageInfo := tags 0 }
          true := by
    rw [visitUsedPages_succ, if_pos run.zero_used]
    rfl
  rw [visited]
  exact
    ⟨index,
      { nrOfPages_eq := rfl
        newest_eq := by rw [place]; rfl
        oldest_eq := by rw [place]; rfl
        low_le_high := Nat.le_refl index
        high_lt := inside
        bounds := by
          intro other otherLt otherPlace
          have same := run.index_unique otherLt inside (by omega)
          omega }⟩

/-- Visiting one more page keeps the kept tags enclosing. -/
theorem visit_succ
    (run : PageRun info.nrOfPages modulus first length base used tags)
    {visited low high : Nat}
    (encloses :
      Encloses info.nrOfPages first length tags visited low high
        (visitUsedPages info used tags visited))
    (afterZero : 0 < visited)
    (inRing : visited < info.nrOfPages) :
    ∃ low high,
      Encloses info.nrOfPages first length tags (visited + 1) low high
        (visitUsedPages info used tags (visited + 1)) := by
  have notZero : decide (visited = 0) = false := by simp; omega
  rw [visitUsedPages_succ]
  cases inUse : used visited with
  | false =>
      refine ⟨low, high, { encloses with bounds := ?_ }⟩
      intro other otherLt otherPlace
      have notHere :
          (first + other) % info.nrOfPages ≠ visited := by
        intro here
        have used :=
          (run.used_iff visited inRing).mpr ⟨other, otherLt, here⟩
        rw [inUse] at used
        exact Bool.false_ne_true used
      exact encloses.bounds other otherLt (by omega)
  | true =>
      obtain ⟨index, inside, place⟩ := run.exists_index inRing inUse
      have lowHigh := encloses.low_le_high
      have highLt := encloses.high_lt
      have updated := run.update_eq encloses inside
      rw [place] at updated
      rw [if_pos rfl, notZero, updated]
      exact
        ⟨min low index, max high index,
          { nrOfPages_eq := encloses.nrOfPages_eq
            newest_eq := rfl
            oldest_eq := rfl
            low_le_high := by omega
            high_lt := by omega
            bounds := by
              intro other otherLt otherPlace
              rcases Nat.lt_or_eq_of_le (Nat.le_of_lt_succ otherPlace)
                with before | here
              · have bound := encloses.bounds other otherLt before
                omega
              · have same := run.index_unique otherLt inside
                  (here.trans place.symm)
                omega }⟩

/-- The kept tags enclose every visited page of the run. -/
theorem visit_encloses
    (run : PageRun info.nrOfPages modulus first length base used tags)
    {visited : Nat}
    (afterZero : 0 < visited)
    (inRing : visited ≤ info.nrOfPages) :
    ∃ low high,
      Encloses info.nrOfPages first length tags visited low high
        (visitUsedPages info used tags visited) := by
  induction visited, afterZero using Nat.le_induction with
  | base =>
      obtain ⟨index, encloses⟩ := run.visit_zero
      exact ⟨index, index, encloses⟩
  | succ visited afterZero inductionHypothesis =>
      obtain ⟨low, high, encloses⟩ := inductionHypothesis (by omega)
      exact run.visit_succ encloses afterZero inRing

/-- When every page was visited the kept tags are the ends of the run. -/
theorem ends_of_encloses
    (run : PageRun nrOfPages modulus first length base used tags)
    {low high : Nat}
    (encloses :
      Encloses nrOfPages first length tags nrOfPages low high info) :
    info.nextWritePageInfo =
        tags ((first + (length - 1)) % nrOfPages) ∧
      info.oldestPageInfo = tags first := by
  have pages := run.severalPages
  have lowHigh := encloses.low_le_high
  have highLt := encloses.high_lt
  have firstBound :=
    encloses.bounds 0 (by omega) (Nat.mod_lt _ (by omega))
  have lastBound :=
    encloses.bounds (length - 1) (by omega) (Nat.mod_lt _ (by omega))
  have lowZero : low = 0 := by omega
  have highLast : high = length - 1 := by omega
  have oldest := encloses.oldest_eq
  rw [lowZero, Nat.add_zero, Nat.mod_eq_of_lt run.first_lt] at oldest
  rw [highLast] at encloses
  exact ⟨encloses.newest_eq, oldest⟩

end PageRun

/--
The scan ends with the tag of the last page of the run as the newest one and
with the tag of its first page as the oldest one.
-/
theorem visitUsedPages_newestOldest
    {info : ItemStoreInfo}
    {modulus first length base : Nat}
    {used : Nat → Bool}
    {tags : Nat → PageBeginTag}
    (run : PageRun info.nrOfPages modulus first length base used tags) :
    let scanned := visitUsedPages info used tags info.nrOfPages
    scanned.nextWritePageInfo =
        tags ((first + (length - 1)) % info.nrOfPages) ∧
      scanned.oldestPageInfo = tags first := by
  have pages := run.severalPages
  obtain ⟨low, high, encloses⟩ :=
    run.visit_encloses (by omega) (Nat.le_refl info.nrOfPages)
  exact run.ends_of_encloses encloses

/-- Block ids of a run that wraps around at its third page, page 0. -/
def wrappedTag (page : Nat) : PageBeginTag :=
  { zeroTag with
    blockId := UInt8.ofNat (if page < 30 then page else page + 32) }

theorem visitUsedPages_newestOldest_wrapped :
    let used := fun page => decide (page < 2 ∨ 30 ≤ page)
    let scanned :=
      visitUsedPages (staticItemStore .measurementSample) used wrappedTag 32
    scanned.nextWritePageInfo = wrappedTag 1 ∧
      scanned.oldestPageInfo = wrappedTag 30 :=
  @visitUsedPages_newestOldest (staticItemStore .measurementSample)
    maxBlockIndex 30 4 62 (fun page => decide (page < 2 ∨ 30 ≤ page))
    wrappedTag
    { severalPages := by decide
      twicePages := by decide
      first_lt := by decide
      length_le := by decide
      used_iff := by decide
      blockId_eq := by decide
      zero_used := by decide }

section BootScan

variable {item : ItemDef}
variable {state : ItemStoreState}
variable {used : Nat → Bool}
variable {headers : Nat → PageHeader}

/-- The headers of the pages of a store whose used pages are all complete. -/
structure CompletePages
    (state : ItemStoreState) (item : ItemDef)
    (used : Nat → Bool) (headers : Nat → PageHeader) : Prop where
  read_eq : ∀ place, place < (state.itemStore item).nrOfPages →
    readHeader state
        ((place + (state.itemStore item).firstPage) % 256) =
      some (headers place)
  used_eq : ∀ place, place < (state.itemStore item).nrOfPages →
    used place = !hasNoData (headers place).toBytes
  complete : ∀ place, place < (state.itemStore item).nrOfPages →
    used place = true →
    hasNoData (headers place).completeTag.toBytes = false

/-- Counting full pages does not disturb the kept tags. -/
theorem updateNewestOldestPage_nrOfFullPages
    (info : ItemStoreInfo)
    (tag : PageBeginTag)
    (nrOfFullPages : Nat)
    (isInitial : Bool) :
    updateNewestOldestPage
        { info with
          nrOfFullPages := nrOfFullPages
          currentPageInfo := tag } isInitial =
      { updateNewestOldestPage { info with currentPageInfo := tag }
          isInitial with
        nrOfFullPages := nrOfFullPages } := by
  simp only [updateNewestOldestPage]
  split_ifs <;> rfl

theorem visitUsedPages_firstPage
    (info : ItemStoreInfo)
    (tags : Nat → PageBeginTag)
    (visited : Nat) :
    (visitUsedPages info used tags visited).firstPage =
      info.firstPage := by
  induction visited with
  | zero => rfl
  | succ visited inductionHypothesis =>
      rw [visitUsedPages_succ]
      split_ifs
      · simp only [updateNewestOldestPage]
        split_ifs <;> exact inductionHypothesis
      · exact inductionHypothesis

/-- One iteration of the scan loop over a complete page. -/
theorem scanPage_complete
    (last : PageHeader)
    {header : PageHeader}
    {place : Nat}
    (read :
      readHeader state
          ((place + (state.itemStore item).firstPage) % 256) =
        some header)
    (hasData : hasNoData header.toBytes = false)
    (complete : hasNoData header.completeTag.toBytes = false) :
    ∃ scanned nrOfFullPages,
      scanPage item (state, last) place = Except.ok (scanned, header) ∧
        scanned.flash = state.flash ∧
        scanned.itemStore item =
          { updateNewestOldestPage
              { state.itemStore item with
                currentPageInfo := header.beginTag }
              (place = 0) with
            nrOfFullPages := nrOfFullPages } := by
  rw [scanPage, read]
  simp only [Option.getD_some, hasData, complete, Bool.false_eq_true,
    ↓reduceIte, not_false_eq_true]
  let updated :=
    updateNewestOldestPage
      { state.itemStore item with currentPageInfo := header.beginTag }
      (place = 0)
  -- an inconsistent tag is reported but does not stop the scan
  refine ⟨_, (updated.nrOfFullPages + 1) % 256, rfl, ?_, ?_⟩
  · split_ifs <;> rfl
  · split_ifs <;>
      simp only [modifyInfo, recoverableError, Function.update_self] <;>
      rfl

/-- The scan loop of `InitItemStore` keeps the tags of the used pages. -/
theorem scanPage_visitUsedPages
    (pages : CompletePages state item used headers)
    (header : PageHeader)
    {visited : Nat}
    (inRing : visited ≤ (state.itemStore item).nrOfPages) :
    ∃ scanned last nrOfFullPages,
      (List.range visited).foldlM (scanPage item) (state, header) =
          Except.ok (scanned, last) ∧
        scanned.flash = state.flash ∧
        scanned.itemStore item =
          { visitUsedPages (state.itemStore item) used
              (fun place => (headers place).beginTag) visited with
            nrOfFullPages := nrOfFullPages } := by
  induction visited with
  | zero =>
      exact ⟨state, header, (state.itemStore item).nrOfFullPages, rfl, rfl,
        rfl⟩
  | succ visited inductionHypothesis =>
      obtain ⟨scanned, last, nrOfFullPages, run, sameFlash, info⟩ :=
        inductionHypothesis (by omega)
      have firstPage :
          (scanned.itemStore item).firstPage =
            (state.itemStore item).firstPage := by
        rw [info]
        exact visitUsedPages_firstPage _ _ _
      have read :
          readHeader scanned
              ((visited + (scanned.itemStore item).firstPage) % 256) =
            some (headers visited) := by
        rw [readHeader, sameFlash, firstPage, ← readHeader]
        exact pages.read_eq visited inRing
      have usedHere := pages.used_eq visited inRing
      rw [List.range_succ, List.foldlM_append, run]
      simp only [bind, Except.bind, List.foldlM_cons, List.foldlM_nil,
        pure, Except.pure]
      rw [visitUsedPages_succ]
      cases empty : hasNoData (headers visited).toBytes with
      | true =>
          rw [empty] at usedHere
          rw [scanPage, read, usedHere]
          simp only [Option.getD_some, empty]
          exact ⟨scanned, headers visited, nrOfFullPages, rfl, sameFlash,
            info⟩
      | false =>
          rw [empty] at usedHere
          have complete := pages.complete visited inRing usedHere
          obtain ⟨next, counted, stepped, flash, updated⟩ :=
            scanPage_complete last read empty complete
          rw [stepped]
          refine ⟨next, headers visited, counted, rfl,
            flash.trans sameFlash, ?_⟩
          rw [updated, info, usedHere]
          exact congrArg
            (fun info : ItemStoreInfo =>
              { info with nrOfFullPages := counted })
            (updateNewestOldestPage_nrOfFullPages
              (visitUsedPages (state.itemStore item) used
                (fun place => (headers place).beginTag) visited)
              (headers visited).beginTag nrOfFullPages (visited = 0))

/-- The boot scan finds the ends of a run of complete pages. -/
theorem scanPage_newestOldest
    (pages : CompletePages state item used headers)
    (header : PageHeader)
    {modulus first length base : Nat}
    (run :
      PageRun (state.itemStore item).nrOfPages modulus first length base
        used (fun place => (headers place).beginTag)) :
    ∃ scanned last,
      (List.range (state.itemStore item).nrOfPages).foldlM (scanPage item)
          (state, header) =
          Except.ok (scanned, last) ∧
        (scanned.itemStore item).nextWritePageInfo =
          (headers ((first + (length - 1)) %
            (state.itemStore item).nrOfPages)).beginTag ∧
        (scanned.itemStore item).oldestPageInfo =
          (headers first).beginTag := by
  have several := run.severalPages
  obtain ⟨scanned, last, nrOfFullPages, scan, -, info⟩ :=
    scanPage_visitUsedPages pages header (Nat.le_refl _)
  obtain ⟨low, high, encloses⟩ :=
    run.visit_encloses (by omega) (Nat.le_refl _)
  obtain ⟨newest, oldest⟩ := run.ends_of_encloses encloses
  refine ⟨scanned, last, scan, ?_, ?_⟩
  · rw [info]
    exact newest
  · rw [info]
    exact oldest

end BootScan

end DemoBoard.ItemStore
