import DemoBoard.ItemStoreErase
import DemoBoard.ItemStoreReset

namespace DemoBoard.InterruptedDelete

open ByteMemory ItemStore

/-!
# Resets during a delete

`ItemStore_DeleteAllItems` erases the pages of a store one by one, from its
first flash page on.  After a reset in between, the scan of `InitItemStore`
starts with the block id 0 for the erased first page, and this is right for
some of the fill levels only.
-/

/-- `ItemStore_DeleteAllItems`, up to the end of some of its pages. -/
def interruptedDelete
    (state : ItemStoreState) (item : ItemDef) (erasedPages : Nat) :
    Except AssertionFailure ItemStoreState := do
  let deleting ← deleteAllItems state item
  let handled ← listener deleting.1 (.erase deleting.2)
  .ok ((List.range erasedPages).foldl
    (fun state _ => (endOfPage state).1) handled.state)

/-- The items on the pages that are left, the oldest one first. -/
def sparedItems
    (item : ItemDef) (items : List (List Byte)) (erasedPages : Nat) :
    List (List Byte) :=
  let capacity := (geometry item).capacity
  let nrOfPages := (geometry item).nrOfPages
  let current := SegmentedLog.current capacity items
  let spared := (List.range (current + 1)).filter fun ordinal =>
    current < ordinal + nrOfPages ∧ erasedPages ≤ ordinal % nrOfPages
  spared.flatMap (SegmentedLog.segment capacity items)

/--
A reset over the flash array succeeds, and the store has these items and takes
further ones.
-/
def Usable
    (item : ItemDef) (memory : Memory) (kept : List (List Byte)) : Prop :=
  ∃ after,
    recover memory item = .ok after ∧
    EnumeratesFromStart after item kept ∧
    ∀ more : List (List Byte),
      (∀ data ∈ more, data.length = (geometry item).itemSize) →
        ∃ final,
          addItems item after more = .ok (final, true) ∧
          EnumeratesFromStart final item (keptItems item (kept ++ more))

/--
The pages of the current turn of the ring are erased, and those of the turn
before are erased as well or their block ids do not start at 0.
-/
def Restartable
    (item : ItemDef) (count erasedPages : Nat) : Prop :=
  let capacity := (geometry item).capacity
  let nrOfPages := (geometry item).nrOfPages
  let current := count / capacity
  let place := current % nrOfPages
  (if count % capacity = 0 then place else place + 1) ≤ erasedPages ∧
    (current < nrOfPages ∨ place + 1 = nrOfPages ∨
      ¬ maxBlockIndex ∣ current - place - nrOfPages)

section Erasing

variable {item : ItemDef}
variable {state : ItemStoreState}

/-- The end of some pages of a running erase. -/
theorem endOfPages_spec
    {page remaining : Nat}
    (count : Nat)
    (running : state.flash.Erasing page (count + remaining + 1))
    (small : count + remaining + 1 < 65536)
    (byte : page + count < 256) :
    ∃ flash,
      (List.range count).foldl (fun state _ => (endOfPage state).1) state =
        { state with flash := flash } ∧
      flash.Erasing (page + count) (remaining + 1) ∧
      flash.memory = erasePages state.flash.memory page count := by
  induction count generalizing remaining with
  | zero =>
      refine ⟨state.flash, rfl, ?_, rfl⟩
      rw [Nat.zero_add] at running
      exact running
  | succ count inductionHypothesis =>
      rw [show count + 1 + remaining + 1 = count + (remaining + 1) + 1 by
        omega] at running
      obtain ⟨flash, run, erasing, memory⟩ :=
        inductionHypothesis running (by omega) (by omega)
      refine ⟨flash.nextRequested (page + count) (remaining + 1), ?_,
        erasing.nextRequested, ?_⟩
      · rw [List.range_succ, List.foldl_append, run]
        simp only [List.foldl_cons, List.foldl_nil, endOfPage,
          erasing.endOfOperation_next (by omega)
            (show page + count + 1 < 256 by omega)]
      · rw [erasePages_succ, ← memory]
        rfl

/-- The pages of the store that the interrupted delete has erased. -/
theorem interruptedDelete_eq
    {erasedPages : Nat}
    (rest : AtRest state)
    (static : StaticInfo item (state.itemStore item))
    (notAll : erasedPages < (geometry item).nrOfPages) :
    ∃ after,
      interruptedDelete state item erasedPages = .ok after ∧
      after.flash.memory =
        erasePages state.flash.memory (geometry item).firstPage
          erasedPages := by
  have few := (geometry item).nrOfPages_le
  have inside := (geometry item).lastWritable
  simp only [lastWritableFlashPage, firstWritableFlashPage] at inside
  obtain ⟨remaining, shape⟩ :
      ∃ remaining,
        (geometry item).nrOfPages = erasedPages + remaining + 1 :=
    ⟨(geometry item).nrOfPages - erasedPages - 1, by omega⟩
  have cleared : AtRest (countersCleared item state) :=
    ⟨rest.listenerIdle, rest.flashIdle⟩
  have running : state.flash.eraseRequested (geometry item).firstPage
      (geometry item).nrOfPages |>.Erasing (geometry item).firstPage
        (erasedPages + remaining + 1) := by
    rw [← shape]
    exact rest.flashIdle.eraseRequested _ _
  obtain ⟨flash, run, _, memory⟩ :=
    @endOfPages_spec
      (beginErase (eraseOf item) state.eraseReminder
        (countersCleared item state))
      (geometry item).firstPage remaining erasedPages running (by omega)
      (by omega)
  refine
    ⟨{ beginErase (eraseOf item) state.eraseReminder
          (countersCleared item state) with
        flash := flash }, ?_, memory⟩
  rw [interruptedDelete, deleteAllItems_eq static]
  simp only [bind, Except.bind, listener_erase cleared item]
  exact congrArg Except.ok run

end Erasing

section Spared

variable {item : ItemDef}
variable {items : List (List Byte)}
variable {erasedPages : Nat}

/-- A full page that is left. -/
def isSpared
    (item : ItemDef) (current erasedPages ordinal : Nat) : Bool :=
  current < ordinal + (geometry item).nrOfPages ∧
    erasedPages ≤ ordinal % (geometry item).nrOfPages

/-- The full pages that are left, and the current one. -/
theorem sparedItems_eq
    {current : Nat}
    (current_eq :
      SegmentedLog.current (geometry item).capacity items = current) :
    sparedItems item items erasedPages =
      ((List.range current).filter
          (isSpared item current erasedPages)).flatMap
        (SegmentedLog.segment (geometry item).capacity items) ++
      if erasedPages ≤ current % (geometry item).nrOfPages then
        SegmentedLog.segment (geometry item).capacity items current
      else
        [] := by
  have positive := (geometry item).nrOfPages_pos
  have shape :
      sparedItems item items erasedPages =
        ((List.range (current + 1)).filter
          (isSpared item current erasedPages)).flatMap
        (SegmentedLog.segment (geometry item).capacity items) := by
    rw [← current_eq]
    rfl
  rw [shape, List.range_succ, List.filter_append, List.flatMap_append]
  congr 1
  by_cases spared : erasedPages ≤ current % (geometry item).nrOfPages
  · rw [if_pos spared, List.filter_cons_of_pos]
    · simp
    · simp only [isSpared, decide_eq_true_eq]
      omega
  · rw [if_neg spared, List.filter_cons_of_neg]
    · simp
    · simp only [isSpared, decide_eq_true_eq]
      omega

end Spared

section Kept

variable {item : ItemDef}
variable {log : StoreLog}
variable {memory : Memory}
variable {first pages : Nat}

/-- The pages from `first` on, followed by a turn whose block ids start at 0. -/
def sparedLog
    (item : ItemDef) (log : StoreLog) (first pages : Nat) : StoreLog where
  items := log.items.take (pages * (geometry item).capacity)
  closed := pages
  opened := false
  oldest := first
  blockId := fun ordinal =>
    if ordinal < pages then
      log.blockId ordinal
    else
      (ordinal - pages) % maxBlockIndex

theorem blockId_spared
    {ordinal : Nat}
    (full : ordinal < pages) :
    (sparedLog item log first pages).blockId ordinal =
      log.blockId ordinal :=
  if_pos full

theorem blockId_next :
    (sparedLog item log first pages).blockId pages = 0 := by
  simp [sparedLog]

/-- The flash array holds full pages up to the end of a turn, and no others. -/
structure Leaves
    (item : ItemDef) (log : StoreLog) (memory : Memory)
    (first pages : Nat) : Prop where
  turn : pages % (geometry item).nrOfPages = 0
  first_le : first ≤ pages
  inWindow : pages < first + (geometry item).nrOfPages
  pages_le : pages ≤ log.closed
  spared : ∀ ordinal, first ≤ ordinal → ordinal < pages →
    PageHolds memory (geometry item).itemSize
      ((geometry item).pageOf ordinal)
      (headerOf item log ordinal) (pageItems item log ordinal)
  gone : ∀ ordinal, pages ≤ ordinal →
    ordinal < first + (geometry item).nrOfPages →
      PageErased memory ((geometry item).pageOf ordinal)
  late : ∀ ordinal, first ≤ ordinal → ordinal < pages →
    (geometry item).nrOfPages < log.blockId ordinal

namespace Leaves

theorem length_items
    (leaves : Leaves item log memory first pages)
    (wellFormed : log.WellFormed (geometry item)) :
    (sparedLog item log first pages).items.length =
      pages * (geometry item).capacity := by
  have lower := wellFormed.items_ge
  have bound := Nat.mul_le_mul_right (geometry item).capacity
    leaves.pages_le
  simp only [sparedLog, List.length_take]
  omega

theorem spacious
    (leaves : Leaves item log memory first pages)
    (wellFormed : log.WellFormed (geometry item)) :
    (sparedLog item log first pages).Spacious (geometry item) where
  wellFormed :=
    { oldest_le := leaves.first_le
      closed_le := Nat.le_of_lt leaves.inWindow
      closed_lt := fun opened => by cases opened
      items_ge := Nat.le_of_eq (leaves.length_items wellFormed).symm
      items_le := by
        rw [leaves.length_items wellFormed]
        exact Nat.le_add_right _ _
      items_eq := fun _ => leaves.length_items wellFormed
      size_eq := fun data member =>
        wellFormed.size_eq data (List.mem_of_mem_take member)
      blockId_lt := by
        intro ordinal
        simp only [sparedLog]
        split
        · exact wellFormed.blockId_lt ordinal
        · exact Nat.mod_lt _ (by decide)
      blockId_succ := by
        intro ordinal later
        have later : pages ≤ ordinal := later
        simp only [sparedLog]
        rw [if_neg (by omega), if_neg (by omega), Nat.sub_add_comm later,
          Nat.mod_add_mod] }
  room := by
    have positive := (geometry item).capacity_pos
    rw [StoreLog.slot, leaves.length_items wellFormed]
    simpa [sparedLog] using positive
  inWindow := leaves.inWindow

/-- No page behind the full ones has items. -/
theorem noItems
    (leaves : Leaves item log memory first pages)
    (wellFormed : log.WellFormed (geometry item))
    {ordinal : Nat}
    (later : pages ≤ ordinal) :
    pageItems item (sparedLog item log first pages) ordinal = [] := by
  have bound := Nat.mul_le_mul_right (geometry item).capacity later
  apply List.eq_nil_of_length_eq_zero
  rw [pageItems, SegmentedLog.length_segment,
    leaves.length_items wellFormed]
  omega

theorem image
    (leaves : Leaves item log memory first pages)
    (wellFormed : log.WellFormed (geometry item)) :
    StoreImage item (sparedLog item log first pages) memory := by
  intro ordinal lower upper
  have length := leaves.length_items wellFormed
  by_cases full : ordinal < pages
  · have holds := leaves.spared ordinal lower full
    rw [headerOf_closed item (Nat.lt_of_lt_of_le full leaves.pages_le)]
      at holds
    have sameItems :
        pageItems item (sparedLog item log first pages) ordinal =
          pageItems item log ordinal := by
      have inside := Nat.mul_le_mul_right (geometry item).capacity
        (show ordinal + 1 ≤ pages from full)
      rw [Nat.succ_mul] at inside
      rw [pageItems, SegmentedLog.segment, sparedLog, List.drop_take,
        List.take_take, Nat.min_eq_left (by omega)]
      rfl
    rw [headerOf_closed item (show ordinal <
      (sparedLog item log first pages).closed from full), sameItems]
    simp only [beginTagOf, completeTagOf, blockId_spared full]
    exact holds
  · have header :
        headerOf item (sparedLog item log first pages) ordinal =
          PageHeader.erased := by
      simp [headerOf, sparedLog, full, PageHeader.erased]
    rw [header, leaves.noItems wellFormed (by omega)]
    exact PageHolds.of_constantOn (leaves.gone ordinal (by omega) upper)

/-- The next page is the first one of the store. -/
theorem firstOrdinal_eq
    (leaves : Leaves item log memory first pages) :
    firstOrdinal item (sparedLog item log first pages) = pages := by
  have bounds :=
    firstOrdinal_bounds item (sparedLog item log first pages)
  exact SegmentedLog.eq_of_same_place bounds.1 bounds.2.1 leaves.first_le
    leaves.inWindow (by rw [bounds.2.2, leaves.turn])

/-- Late block ids compare with the block id 0 of the next page. -/
theorem recoverable
    (leaves : Leaves item log memory first pages)
    (wellFormed : log.WellFormed (geometry item))
    (blockId_eq :
      ∀ ordinal, log.blockId ordinal = ordinal % maxBlockIndex) :
    Recoverable item (sparedLog item log first pages) where
  hasData := by
    intro data member
    rw [show (sparedLog item log first pages).closed = pages from rfl,
      leaves.noItems wellFormed (Nat.le_refl _)] at member
    cases member
  ordered := by
    intro early late lower ordered upper
    have lower : first ≤ early := lower
    have upper : late ≤ pages := upper
    rw [blockId_spared (show early < pages by omega), blockId_eq]
    by_cases full : late < pages
    · rw [blockId_spared full, blockId_eq]
      exact blocksOrdered_mod (geometry item) leaves.inWindow early late
        lower ordered upper
    · have large := leaves.late early lower (by omega)
      rw [blockId_eq] at large
      rw [show late = pages by omega, blockId_next]
      refine ⟨?_, ?_, ?_, ?_⟩
      · simp only [isNewer, decide_eq_true_eq]
        omega
      · simp only [isNewer, decide_eq_false_iff_not]
        omega
      · simp only [isOlder, decide_eq_false_iff_not]
        omega
      · simp only [isOlder, decide_eq_true_eq]
        omega
  restart := by
    intro _
    rw [leaves.firstOrdinal_eq, blockId_next]
  blockId_eq := fun _ _ different =>
    absurd leaves.firstOrdinal_eq different

end Leaves

/-- The ring drops whole pages. -/
theorem keptItems_eq
    {items : List (List Byte)}
    (sized : ∀ data ∈ items, data.length = (geometry item).itemSize) :
    keptItems item items =
      items.drop
        (SegmentedLog.oldest (geometry item).nrOfPages
            (items.length / (geometry item).capacity) *
          (geometry item).capacity) := by
  have regular := StoreLog.regular_ofItems sized
  have closed := regular.closed_eq
  rw [StoreLog.items_ofItems] at closed
  have kept := retained_eq_keptItems regular
  rw [StoreLog.items_ofItems] at kept
  rw [← kept, StoreLog.retained, StoreLog.items_ofItems, regular.oldest_eq,
    closed]
  rfl

/-- Dropping pages after further adds, seen from the oldest page on. -/
theorem retained_addAll
    (spacious : log.Spacious (geometry item))
    (oldest_ge :
      SegmentedLog.oldest (geometry item).nrOfPages log.closed ≤
        log.oldest)
    {more : List (List Byte)}
    (sized :
      ∀ data ∈ more, data.length = (geometry item).itemSize) :
    (log.addAll (geometry item) more).retained (geometry item) =
      keptItems item (log.retained (geometry item) ++ more) := by
  have positive := (geometry item).capacity_pos
  have bound := Nat.mul_le_mul_right (geometry item).capacity
    spacious.wellFormed.oldest_le
  have itemsGe := spacious.wellFormed.items_ge
  have all := (spacious.addAll sized).closed_eq
  have oldest := spacious.oldest_addAll sized
    (Nat.max_eq_left oldest_ge).symm
  have joined :
      log.retained (geometry item) ++ more =
        (log.items ++ more).drop
          (log.oldest * (geometry item).capacity) := by
    rw [List.drop_append_of_le_length (by omega)]
    rfl
  have allSized : ∀ data ∈ log.retained (geometry item) ++ more,
      data.length = (geometry item).itemSize := by
    intro data member
    rcases List.mem_append.mp member with kept | added
    · exact spacious.wellFormed.size_eq data (List.mem_of_mem_drop kept)
    · exact sized data added
  have oldestLe :
      log.oldest ≤ (log.addAll (geometry item) more).closed := by
    have inRing := (spacious.addAll sized).wellFormed.oldest_le
    rw [oldest] at inRing
    omega
  rw [StoreLog.items_addAll, SegmentedLog.current] at all
  rw [keptItems_eq allSized, joined, List.length_drop, Nat.mul_comm
      log.oldest, Nat.sub_mul_div, ← all, List.drop_drop,
    Nat.mul_comm _ log.oldest, ← Nat.add_mul, StoreLog.retained,
    SegmentedLog.retained, StoreLog.items_addAll, oldest]
  congr 2
  simp only [SegmentedLog.oldest]
  omega

/-- A reset over full pages up to the end of a turn with late block ids. -/
theorem Leaves.usable
    (leaves : Leaves item log memory first pages)
    (wellFormed : log.WellFormed (geometry item))
    (blockId_eq :
      ∀ ordinal, log.blockId ordinal = ordinal % maxBlockIndex) :
    Usable item memory
      ((log.items.take (pages * (geometry item).capacity)).drop
        (first * (geometry item).capacity)) := by
  have spacious := leaves.spacious wellFormed
  have inWindow := leaves.inWindow
  obtain ⟨after, booted, tracks, _⟩ :=
    initItemStore_spacious (fresh_powerOn item memory) spacious
      (leaves.image wellFormed) (leaves.recoverable wellFormed blockId_eq)
      (Nat.le_of_eq leaves.firstOrdinal_eq)
  refine ⟨after, recover_eq booted tracks.idle,
    enumeratesFromStart_of_tracks tracks spacious (Nat.zero_le _), ?_⟩
  intro more sized
  obtain ⟨final, _, added, finalTracks, _⟩ :=
    addItems_tracks tracks spacious sized
  have enumeration := enumeratesFromStart_of_tracks finalTracks
    (spacious.addAll sized)
    (staleAfter_le item (Nat.zero_le _) more)
  rw [retained_addAll spacious (by
    simp only [SegmentedLog.oldest, sparedLog]
    omega) sized] at enumeration
  exact ⟨final, added, enumeration⟩

end Kept

section Left

variable {item : ItemDef}
variable {log : StoreLog}
variable {memory : Memory}
variable {erasedPages ordinal : Nat}

/-- The flash array after the interrupted delete. -/
def leftMemory
    (item : ItemDef) (memory : Memory) (erasedPages : Nat) : Memory :=
  erasePages memory (geometry item).firstPage erasedPages

theorem pageErased_left
    (memory : Memory)
    (erased : ordinal % (geometry item).nrOfPages < erasedPages) :
    PageErased (leftMemory item memory erasedPages)
      ((geometry item).pageOf ordinal) :=
  pageErased_erasePages memory (Nat.le_add_right _ _)
    (Nat.add_lt_add_left erased _)

theorem left_agreeOn
    (memory : Memory)
    (spared : erasedPages ≤ ordinal % (geometry item).nrOfPages) :
    AgreeOn (leftMemory item memory erasedPages) memory
      (pageAddr ((geometry item).pageOf ordinal))
      (pageAddr ((geometry item).pageOf ordinal) + flashPageSize) :=
  erasePages_agreeOn memory (Or.inr (Nat.add_le_add_left spared _))

/-- A page that is left holds what it held. -/
theorem pageHolds_left
    (image : StoreImage item log memory)
    (lower : log.oldest ≤ ordinal)
    (upper : ordinal < log.oldest + (geometry item).nrOfPages)
    (spared : erasedPages ≤ ordinal % (geometry item).nrOfPages) :
    PageHolds (leftMemory item memory erasedPages) (geometry item).itemSize
      ((geometry item).pageOf ordinal)
      (headerOf item log ordinal) (pageItems item log ordinal) :=
  (image ordinal lower upper).congr (left_agreeOn memory spared)

/-- A page that was not in use is erased. -/
theorem pageErased_notInUse
    (regular : log.Regular (geometry item))
    (image : StoreImage item log memory)
    (lower : log.oldest ≤ ordinal)
    (upper : ordinal < log.oldest + (geometry item).nrOfPages)
    (notInUse : ¬ InUse log ordinal) :
    PageErased (leftMemory item memory erasedPages)
      ((geometry item).pageOf ordinal) := by
  by_cases erased : ordinal % (geometry item).nrOfPages < erasedPages
  · exact pageErased_left memory erased
  · have holds :=
      pageHolds_left image lower upper (Nat.le_of_not_lt erased)
    simp only [InUse, not_or] at notInUse
    have header : headerOf item log ordinal = PageHeader.erased := by
      simp [headerOf, notInUse, PageHeader.erased]
    have later : log.items.length ≤
        ordinal * (geometry item).capacity := by
      rcases Nat.lt_or_eq_of_le (Nat.le_of_not_lt notInUse.1) with
        beyond | current
      · have itemsLe := regular.wellFormed.items_le
        have bound := Nat.mul_le_mul_right (geometry item).capacity
          (show log.closed + 1 ≤ ordinal from beyond)
        rw [Nat.succ_mul] at bound
        omega
      · have notOpened : log.opened = false := by
          simpa [current] using notInUse.2
        rw [← current, regular.wellFormed.items_eq notOpened]
    have noItems : pageItems item log ordinal = [] := by
      apply List.eq_nil_of_length_eq_zero
      rw [pageItems, SegmentedLog.length_segment]
      omega
    rw [header, noItems] at holds
    exact holds.constantOn_page

/-- Nothing is left of a turn that the delete has passed. -/
theorem leaves_nothing
    (regular : log.Regular (geometry item))
    (image : StoreImage item log memory)
    (passed :
      ∀ ordinal, log.oldest ≤ ordinal →
        ordinal < log.oldest + (geometry item).nrOfPages →
        InUse log ordinal →
          ordinal % (geometry item).nrOfPages < erasedPages) :
    Leaves item log (leftMemory item memory erasedPages) 0 0 where
  turn := Nat.zero_mod _
  first_le := Nat.le_refl _
  inWindow := by
    rw [Nat.zero_add]
    exact (geometry item).nrOfPages_pos
  pages_le := Nat.zero_le _
  spared := fun ordinal _ none => absurd none (Nat.not_lt_zero _)
  gone := by
    intro place _ inside
    rw [Nat.zero_add] at inside
    have lower := SegmentedLog.ordinalAt_ge log.oldest inside
    have upper := SegmentedLog.ordinalAt_lt log.oldest inside
    have same := SegmentedLog.ordinalAt_mod log.oldest inside
    have page :
        (geometry item).pageOf place =
          (geometry item).pageOf
            (SegmentedLog.ordinalAt (geometry item).nrOfPages log.oldest
              place) := by
      rw [StoreGeometry.pageOf, StoreGeometry.pageOf, same,
        Nat.mod_eq_of_lt inside]
    rw [page]
    by_cases inUse :
        InUse log
          (SegmentedLog.ordinalAt (geometry item).nrOfPages log.oldest
            place)
    · exact pageErased_left memory (passed _ lower upper inUse)
    · exact pageErased_notInUse regular image lower upper inUse
  late := fun ordinal _ none => absurd none (Nat.not_lt_zero _)

/-- Block ids count on within a turn. -/
theorem turn_mod
    (geometry : StoreGeometry)
    (turn : Nat)
    {offset : Nat}
    (inside : offset < geometry.nrOfPages) :
    (geometry.nrOfPages * turn + offset) % maxBlockIndex =
      geometry.nrOfPages * turn % maxBlockIndex + offset := by
  obtain ⟨cycles, whole⟩ := geometry.wholeCycles
  have several := geometry.severalPages
  have some : 0 < cycles := by
    rcases Nat.eq_zero_or_pos cycles with none | some
    · rw [none, Nat.mul_zero, maxBlockIndex] at whole
      omega
    · exact some
  have last := Nat.mul_le_mul_left geometry.nrOfPages
    (show turn % cycles + 1 ≤ cycles from Nat.mod_lt _ some)
  rw [Nat.mul_succ] at last
  rw [whole, Nat.mul_mod_mul_left, Nat.add_mod, Nat.mul_mod_mul_left,
    Nat.mod_eq_of_lt (show offset < geometry.nrOfPages * cycles by omega),
    Nat.mod_eq_of_lt (by omega)]

/-- The block ids of a turn start at 0 or at one turn at least. -/
theorem turn_late
    (geometry : StoreGeometry)
    {turn : Nat}
    (late : ¬ maxBlockIndex ∣ geometry.nrOfPages * turn) :
    geometry.nrOfPages ≤ geometry.nrOfPages * turn % maxBlockIndex := by
  apply Nat.le_of_dvd
  · exact Nat.pos_of_ne_zero fun none =>
      late (Nat.dvd_of_mod_eq_zero none)
  · exact (Nat.dvd_mod_iff geometry.wholeCycles).mpr
      (Nat.dvd_mul_right _ _)

/-- The full pages that are left of the turn before the current one. -/
theorem leaves_turn
    (regular : log.Regular (geometry item))
    (image : StoreImage item log memory)
    (blockId_eq :
      ∀ ordinal, log.blockId ordinal = ordinal % maxBlockIndex)
    {turn place : Nat}
    (closed :
      log.closed = (geometry item).nrOfPages * (turn + 1) + place)
    (inside : place + 1 < (geometry item).nrOfPages)
    (notAll : erasedPages < (geometry item).nrOfPages)
    (reached : place ≤ erasedPages)
    (notOpened : place = erasedPages → log.opened = false)
    (late : ¬ maxBlockIndex ∣ (geometry item).nrOfPages * turn) :
    Leaves item log (leftMemory item memory erasedPages)
      ((geometry item).nrOfPages * turn + max (place + 1) erasedPages)
      ((geometry item).nrOfPages * (turn + 1)) := by
  have oldest := regular.oldest_eq
  rw [SegmentedLog.oldest] at oldest
  have next :
      (geometry item).nrOfPages * (turn + 1) =
        (geometry item).nrOfPages * turn + (geometry item).nrOfPages :=
    Nat.mul_succ _ _
  have placeOf : ∀ offset, offset < (geometry item).nrOfPages →
      ((geometry item).nrOfPages * turn + offset) %
        (geometry item).nrOfPages = offset := by
    intro offset small
    rw [Nat.mul_add_mod, Nat.mod_eq_of_lt small]
  exact
    { turn := Nat.mul_mod_right _ _
      first_le := by omega
      inWindow := by omega
      pages_le := by omega
      spared := by
        intro ordinal lower upper
        obtain ⟨offset, rfl⟩ := Nat.exists_eq_add_of_le
          (Nat.le_trans (Nat.le_add_right _ _) lower)
        refine pageHolds_left image (by omega) (by omega) ?_
        rw [placeOf offset (by omega)]
        omega
      gone := by
        intro ordinal lower upper
        obtain ⟨offset, rfl⟩ := Nat.exists_eq_add_of_le lower
        have atOffset :
            ((geometry item).nrOfPages * (turn + 1) + offset) %
              (geometry item).nrOfPages = offset := by
          rw [Nat.mul_add_mod, Nat.mod_eq_of_lt (by omega)]
        by_cases erased : offset < erasedPages
        · exact pageErased_left memory (by rw [atOffset]; exact erased)
        · refine pageErased_notInUse regular image (by omega) (by omega) ?_
          have current : offset = place := by omega
          rintro (full | ⟨_, opened⟩)
          · omega
          · rw [notOpened (by omega)] at opened
            cases opened
      late := by
        intro ordinal lower upper
        obtain ⟨offset, rfl⟩ := Nat.exists_eq_add_of_le
          (Nat.le_trans (Nat.le_add_right _ _) lower)
        have large := turn_late (geometry item) late
        rw [blockId_eq, turn_mod (geometry item) turn (by omega)]
        omega }

end Left

section Sufficient

variable {item : ItemDef}
variable {items : List (List Byte)}
variable {memory : Memory}
variable {erasedPages current : Nat}

/-- The items of successive full pages that are left. -/
theorem sparedItems_full
    (current_eq :
      SegmentedLog.current (geometry item).capacity items = current)
    {first count : Nat}
    (within : first + count ≤ current)
    (interval : ∀ ordinal, ordinal < current →
      (isSpared item current erasedPages ordinal = true ↔
        first ≤ ordinal ∧ ordinal < first + count))
    (noCurrent :
      erasedPages ≤ current % (geometry item).nrOfPages →
        items.length % (geometry item).capacity = 0) :
    sparedItems item items erasedPages =
      (items.take ((first + count) * (geometry item).capacity)).drop
        (first * (geometry item).capacity) := by
  have last :
      (if erasedPages ≤ current % (geometry item).nrOfPages then
        SegmentedLog.segment (geometry item).capacity items current
      else
        []) = [] := by
    split
    · next left =>
        rw [← current_eq]
        exact SegmentedLog.segment_current_of_used_zero
          (geometry item).capacity_pos (noCurrent left)
    · rfl
  rw [sparedItems_eq current_eq, last, List.append_nil,
    SegmentedLog.filter_range_interval within interval,
    SegmentedLog.flatMap_segment (by rw [current_eq]; exact within)]

/-- A reset after the delete has passed all pages in use. -/
theorem usable_passed
    {log : StoreLog}
    (regular : log.Regular (geometry item))
    (blockId_eq :
      ∀ ordinal, log.blockId ordinal = ordinal % maxBlockIndex)
    (image : StoreImage item log memory)
    (noCurrent :
      erasedPages ≤ log.closed % (geometry item).nrOfPages →
        log.items.length % (geometry item).capacity = 0)
    (passed :
      ∀ ordinal, log.oldest ≤ ordinal →
        ordinal < log.oldest + (geometry item).nrOfPages →
        InUse log ordinal →
          ordinal % (geometry item).nrOfPages < erasedPages) :
    Usable item (leftMemory item memory erasedPages)
      (sparedItems item log.items erasedPages) := by
  have oldest := regular.oldest_eq
  rw [SegmentedLog.oldest] at oldest
  have none :
      sparedItems item log.items erasedPages =
        (log.items.take ((0 + 0) * (geometry item).capacity)).drop
          (0 * (geometry item).capacity) := by
    refine sparedItems_full regular.closed_eq.symm (Nat.zero_le _) ?_
      noCurrent
    intro ordinal full
    have gone := passed ordinal
    simp only [isSpared, decide_eq_true_eq]
    constructor
    · rintro ⟨inWindow, spared⟩
      have erased := gone (by omega) (by omega) (Or.inl full)
      omega
    · omega
  rw [none]
  exact (leaves_nothing regular image passed).usable regular.wellFormed
    blockId_eq

/-- A reset while full pages of the turn before are left, with late ids. -/
theorem usable_turn
    {log : StoreLog}
    (regular : log.Regular (geometry item))
    (blockId_eq :
      ∀ ordinal, log.blockId ordinal = ordinal % maxBlockIndex)
    (image : StoreImage item log memory)
    {turn place : Nat}
    (closed :
      log.closed = (geometry item).nrOfPages * (turn + 1) + place)
    (inside : place + 1 < (geometry item).nrOfPages)
    (notAll : erasedPages < (geometry item).nrOfPages)
    (reached : place ≤ erasedPages)
    (noCurrent :
      place = erasedPages →
        log.opened = false ∧
          log.items.length % (geometry item).capacity = 0)
    (late : ¬ maxBlockIndex ∣ (geometry item).nrOfPages * turn) :
    Usable item (leftMemory item memory erasedPages)
      (sparedItems item log.items erasedPages) := by
  have next :
      (geometry item).nrOfPages * (turn + 1) =
        (geometry item).nrOfPages * turn + (geometry item).nrOfPages :=
    Nat.mul_succ _ _
  have placeOf : ∀ turn offset, offset < (geometry item).nrOfPages →
      ((geometry item).nrOfPages * turn + offset) %
        (geometry item).nrOfPages = offset := by
    intro turn offset small
    rw [Nat.mul_add_mod, Nat.mod_eq_of_lt small]
  have end_eq :
      (geometry item).nrOfPages * turn + max (place + 1) erasedPages +
          ((geometry item).nrOfPages - max (place + 1) erasedPages) =
        (geometry item).nrOfPages * (turn + 1) := by
    omega
  have kept := @sparedItems_full item log.items erasedPages log.closed
    regular.closed_eq.symm
    ((geometry item).nrOfPages * turn + max (place + 1) erasedPages)
    ((geometry item).nrOfPages - max (place + 1) erasedPages)
    (by omega)
    (by
      intro ordinal full
      simp only [isSpared, decide_eq_true_eq, end_eq]
      constructor
      · rintro ⟨inWindow, spared⟩
        by_cases later : (geometry item).nrOfPages * (turn + 1) ≤ ordinal
        · obtain ⟨offset, rfl⟩ := Nat.exists_eq_add_of_le later
          rw [placeOf _ _ (by omega)] at spared
          omega
        · obtain ⟨offset, rfl⟩ := Nat.exists_eq_add_of_le
            (show (geometry item).nrOfPages * turn ≤ ordinal by omega)
          rw [placeOf _ _ (by omega)] at spared
          omega
      · rintro ⟨lower, upper⟩
        obtain ⟨offset, rfl⟩ := Nat.exists_eq_add_of_le
          (show (geometry item).nrOfPages * turn ≤ ordinal by omega)
        rw [placeOf _ _ (by omega)]
        omega)
    (by
      rw [closed, placeOf _ _ (by omega)]
      intro left
      exact (noCurrent (by omega)).2)
  rw [kept, end_eq]
  exact (leaves_turn regular image blockId_eq closed inside notAll reached
    (fun same => (noCurrent same).1) late).usable regular.wellFormed
      blockId_eq

/-- A position after the first turn of a ring is at a place of a turn. -/
theorem exists_turn
    {count position : Nat}
    (positive : 0 < count)
    (turned : count ≤ position) :
    ∃ turn, position = count * (turn + 1) + position % count := by
  have divided := Nat.div_add_mod position count
  have some := Nat.div_pos turned positive
  exact ⟨position / count - 1,
    by rw [Nat.sub_add_cancel some]; exact divided.symm⟩

/-- A reset after the delete has passed all pages, or left late ones. -/
theorem usable_of_restartable
    (sized : ∀ data ∈ items, data.length = (geometry item).itemSize)
    (notAll : erasedPages < (geometry item).nrOfPages)
    (image :
      StoreImage item (StoreLog.ofItems (geometry item) items) memory)
    (restartable : Restartable item items.length erasedPages) :
    Usable item (leftMemory item memory erasedPages)
      (sparedItems item items erasedPages) := by
  have regular := StoreLog.regular_ofItems sized
  have blockId_eq := @StoreLog.blockId_ofItems (geometry item) items
  have opened := StoreLog.opened_ofItems sized
  have closed := regular.closed_eq
  have oldest := regular.oldest_eq
  have itemsEq := @StoreLog.items_ofItems (geometry item) items
  have several := (geometry item).severalPages
  generalize StoreLog.ofItems (geometry item) items = log at *
  subst itemsEq
  rw [SegmentedLog.current] at closed
  rw [SegmentedLog.oldest] at oldest
  rw [Restartable, ← closed] at restartable
  obtain ⟨reached, older⟩ := restartable
  have inside := Nat.mod_lt log.closed (geometry item).nrOfPages_pos
  have noCurrent :
      erasedPages ≤ log.closed % (geometry item).nrOfPages →
        log.opened = false ∧
          log.items.length % (geometry item).capacity = 0 := by
    intro left
    have empty : log.items.length % (geometry item).capacity = 0 := by
      by_contra some
      rw [if_neg some] at reached
      omega
    refine ⟨?_, empty⟩
    by_contra isOpened
    exact opened.mp (Bool.eq_true_of_not_eq_false isOpened) empty
  have placeLe :
      log.closed % (geometry item).nrOfPages ≤ erasedPages := by
    split at reached <;> omega
  by_cases turnBefore :
      (geometry item).nrOfPages ≤ log.closed ∧
        log.closed % (geometry item).nrOfPages + 1 <
          (geometry item).nrOfPages
  · obtain ⟨turn, shape⟩ :=
      exists_turn (geometry item).nrOfPages_pos turnBefore.1
    have start :
        log.closed - log.closed % (geometry item).nrOfPages -
            (geometry item).nrOfPages =
          (geometry item).nrOfPages * turn := by
      rw [Nat.mul_succ] at shape
      omega
    rw [start] at older
    exact usable_turn regular blockId_eq image shape turnBefore.2 notAll
      placeLe (fun same => noCurrent (Nat.le_of_eq same.symm))
      (by omega)
  · refine usable_passed regular blockId_eq image
      (fun left => (noCurrent left).2) ?_
    intro ordinal lower upper inUse
    by_contra spared
    rcases inUse with full | ⟨isCurrent, isOpened⟩
    · by_cases firstTurn : log.closed < (geometry item).nrOfPages
      · rw [Nat.mod_eq_of_lt firstTurn] at placeLe
        rw [Nat.mod_eq_of_lt (by omega)] at spared
        omega
      · have small := Nat.mod_lt ordinal (geometry item).nrOfPages_pos
        have same := SegmentedLog.eq_of_same_place lower upper
          regular.wellFormed.oldest_le regular.inWindow (by omega)
        omega
    · rw [isCurrent] at spared
      rw [(noCurrent (Nat.le_of_not_lt spared)).1] at isOpened
      cases isOpened

end Sufficient

end DemoBoard.InterruptedDelete
