import DemoBoard.ItemStoreImage

namespace DemoBoard.ItemStore

open ByteMemory

/-!
# Counting the items of an open page

`CountItemsOnCurrentPage` reads a slot as long as its address is on the page.
Where the items do not divide the page the last address belongs to a slot that
ends on the page behind.
-/

/-- The double words that the loop of `Flash_Read` loads. -/
def loadLoop (readAddress bytesRead nrOfBytes : Nat) : List Nat :=
  readAddress ::
    if bytesRead + 8 < nrOfBytes then
      loadLoop (readAddress + 8) (bytesRead + 8) nrOfBytes
    else
      []
termination_by nrOfBytes - bytesRead

/-- The addresses of the double words that `Flash_Read` loads. -/
def flashLoads (address nrOfBytes : Nat) : List Nat :=
  if address % 8 ≠ 0 then [] else loadLoop address 0 nrOfBytes

/-- The loop of `CountItemsOnCurrentPage`, with the double words it loads. -/
def countItemsTrace
    (flash : Flash) (itemSize pageEnd : Nat)
    (address nrOfItems : Nat) (readBuffer : List Byte) : Nat × List Nat :=
  if address < pageEnd then
    let buffer := (flash.read address itemSize).getD readBuffer
    if itemSize = 0 ∨ hasNoData buffer then
      (nrOfItems, flashLoads address itemSize)
    else
      let rest :=
        countItemsTrace flash itemSize pageEnd (address + itemSize)
          ((nrOfItems + 1) % 65536) buffer
      (rest.1, flashLoads address itemSize ++ rest.2)
  else
    (nrOfItems, [])
termination_by pageEnd - address

/-- The page on which `CountItemsOnCurrentPage` counts. -/
def currentPage (state : ItemStoreState) (item : ItemDef) : Nat :=
  (state.itemStore item).currentPageInfo.pageId.toNat

/-- The double words that `CountItemsOnCurrentPage` loads. -/
def countItemsLoads (state : ItemStoreState) (item : ItemDef) : List Nat :=
  let pageStart := pageAddr (currentPage state item)
  (countItemsTrace state.flash (state.itemStore item).itemSize
    (pageStart + flashPageSize) (pageStart + pageHeaderSize) 0 []).2

/-- Every byte of a slot is in the erased state. -/
def slotIsFree (memory : Memory) (itemSize page slot : Nat) : Bool :=
  hasNoData (readBytes memory (slotAddress itemSize page slot) itemSize)

/-- The number of slots of a page before the first one without data. -/
def leadingItems (memory : Memory) (itemSize page : Nat) : Nat :=
  ((List.range ((flashPageSize - pageHeaderSize) / itemSize)).takeWhile
    fun slot => !slotIsFree memory itemSize page slot).length

/-- The items of the current page are counted, and nothing else is read. -/
structure CountsItems (state : ItemStoreState) (item : ItemDef) : Prop where
  within : ∀ address ∈ countItemsLoads state item,
    pageAddr (currentPage state item) ≤ address ∧
      address + 8 ≤ pageAddr (currentPage state item) + flashPageSize
  counted :
    countItemsOnCurrentPage state item =
      leadingItems state.flash.memory (state.itemStore item).itemSize
        (currentPage state item)
  bounded :
    countItemsOnCurrentPage state item ≤
      (flashPageSize - pageHeaderSize) / (state.itemStore item).itemSize

/-- Some slot that fits on the current page is free. -/
def HasFreeSlot (state : ItemStoreState) (item : ItemDef) : Prop :=
  ∃ slot,
    (slot + 1) * (state.itemStore item).itemSize ≤
        flashPageSize - pageHeaderSize ∧
      slotIsFree state.flash.memory (state.itemStore item).itemSize
        (currentPage state item) slot = true

section Loads

variable {flash other : Flash}
variable {itemSize address nrOfBytes : Nat}

/-- The loads cover the bytes that are read, a double word at a time. -/
theorem mem_loadLoop
    {readAddress bytesRead load : Nat} :
    load ∈ loadLoop readAddress bytesRead nrOfBytes ↔
      ∃ words, load = readAddress + 8 * words ∧
        (words = 0 ∨ bytesRead + 8 * words < nrOfBytes) := by
  fun_induction loadLoop with
  | case1 readAddress bytesRead inductionHypothesis =>
      rw [List.mem_cons]
      constructor
      · rintro (rfl | later)
        · exact ⟨0, rfl, .inl rfl⟩
        · by_cases more : bytesRead + 8 < nrOfBytes
          · rw [if_pos more, inductionHypothesis more] at later
            obtain ⟨words, rfl, inside⟩ := later
            exact ⟨words + 1, by omega, .inr (by omega)⟩
          · rw [if_neg more] at later
            cases later
      · rintro ⟨words, rfl, inside⟩
        cases words with
        | zero => exact .inl rfl
        | succ words =>
            have more : bytesRead + 8 < nrOfBytes := by omega
            rw [if_pos more, inductionHypothesis more]
            exact .inr ⟨words, by omega, by omega⟩

/-- What is read depends on the loaded double words only. -/
theorem readLoop_congr
    {memory changed : Memory}
    {readAddress bytesRead : Nat}
    (same : ∀ load ∈ loadLoop readAddress bytesRead nrOfBytes,
      readBytes changed load 8 = readBytes memory load 8) :
    Flash.readLoop changed readAddress bytesRead nrOfBytes =
      Flash.readLoop memory readAddress bytesRead nrOfBytes := by
  fun_induction loadLoop with
  | case1 readAddress bytesRead inductionHypothesis =>
      have first := same readAddress (List.mem_cons_self ..)
      rw [Flash.readLoop.eq_def changed, Flash.readLoop.eq_def memory,
        first]
      by_cases more : bytesRead + 8 < nrOfBytes
      · rw [if_pos more, if_pos more, inductionHypothesis more]
        intro load later
        refine same load (List.mem_cons_of_mem _ ?_)
        rw [if_pos more]
        exact later
      · rw [if_neg more, if_neg more]

/-- `Flash_Read` depends on the loaded double words only. -/
theorem read_congr
    (same : ∀ load ∈ flashLoads address nrOfBytes,
      readBytes other.memory load 8 = readBytes flash.memory load 8) :
    other.read address nrOfBytes = flash.read address nrOfBytes := by
  rw [Flash.read, Flash.read]
  by_cases aligned : address % 8 ≠ 0
  · rw [if_pos aligned, if_pos aligned]
  · rw [flashLoads, if_neg aligned] at same
    rw [if_neg aligned, if_neg aligned, readLoop_congr same]

variable {pageEnd nrOfItems : Nat}
variable {readBuffer : List Byte}

/-- Recording the loads does not change what is counted. -/
theorem countItemsTrace_fst :
    (countItemsTrace flash itemSize pageEnd address nrOfItems
        readBuffer).1 =
      countItemsLoop flash itemSize pageEnd address nrOfItems
        readBuffer := by
  fun_induction countItemsTrace with
  | case1 address nrOfItems readBuffer inside buffer stops =>
      rw [countItemsLoop, if_pos inside, if_pos stops]
  | case2 address nrOfItems readBuffer inside buffer goesOn rest
      inductionHypothesis =>
      rw [countItemsLoop, if_pos inside, if_neg goesOn]
      exact inductionHypothesis
  | case3 address nrOfItems readBuffer outside =>
      rw [countItemsLoop, if_neg outside]

/-- What is counted depends on the loaded double words only. -/
theorem countItemsTrace_congr
    (same :
      ∀ load ∈ (countItemsTrace flash itemSize pageEnd address nrOfItems
          readBuffer).2,
        readBytes other.memory load 8 = readBytes flash.memory load 8) :
    countItemsTrace other itemSize pageEnd address nrOfItems readBuffer =
      countItemsTrace flash itemSize pageEnd address nrOfItems
        readBuffer := by
  fun_induction countItemsTrace flash itemSize pageEnd address nrOfItems
      readBuffer with
  | case1 address nrOfItems readBuffer inside buffer stops =>
      rw [countItemsTrace, if_pos inside, read_congr same, if_pos stops]
  | case2 address nrOfItems readBuffer inside buffer goesOn rest
      inductionHypothesis =>
      have first := @read_congr flash other address itemSize
        fun load member => same load (List.mem_append_left _ member)
      rw [countItemsTrace, if_pos inside, first, if_neg goesOn,
        inductionHypothesis
          fun load member => same load (List.mem_append_right _ member)]
  | case3 address nrOfItems readBuffer outside =>
      rw [countItemsTrace, if_neg outside]

end Loads

section Slots

variable {flash : Flash}
variable {itemSize page slot count : Nat}
variable {readBuffer : List Byte}

/-- The loads of the slots up to a number. -/
def slotLoads (itemSize page count : Nat) : List Nat :=
  (List.range count).flatMap fun slot =>
    flashLoads (slotAddress itemSize page slot) itemSize

theorem slotLoads_succ (itemSize page count : Nat) :
    slotLoads itemSize page (count + 1) =
      slotLoads itemSize page count ++
        flashLoads (slotAddress itemSize page count) itemSize := by
  rw [slotLoads, slotLoads, List.range_succ, List.flatMap_append,
    List.flatMap_singleton]

/-- The slots of a page are aligned. -/
theorem slotAddress_aligned
    (multiple : 8 ∣ itemSize)
    (page slot : Nat) :
    slotAddress itemSize page slot % 8 = 0 := by
  obtain ⟨words, rfl⟩ := multiple
  have offset : slot * (8 * words) = 8 * (slot * words) :=
    Nat.mul_left_comm ..
  rw [slotAddress, offset, pageAddr, flashBase, flashPageSize,
    pageHeaderSize]
  omega

/-- A slot without bytes has no data. -/
theorem itemSize_pos_of_occupied
    {memory : Memory}
    (occupied : slotIsFree memory itemSize page slot = false) :
    0 < itemSize := by
  rcases Nat.eq_zero_or_pos itemSize with rfl | positive
  · cases occupied
  · exact positive

/-- A slot that starts on the page and has data is passed. -/
theorem countItemsTrace_occupied
    (multiple : 8 ∣ itemSize)
    (inside :
      slotAddress itemSize page slot < pageAddr page + flashPageSize)
    (occupied : slotIsFree flash.memory itemSize page slot = false) :
    ∃ buffer,
      let rest :=
        countItemsTrace flash itemSize (pageAddr page + flashPageSize)
          (slotAddress itemSize page (slot + 1))
          ((count + 1) % 65536) buffer
      countItemsTrace flash itemSize (pageAddr page + flashPageSize)
          (slotAddress itemSize page slot) count readBuffer =
        (rest.1,
          flashLoads (slotAddress itemSize page slot) itemSize ++
            rest.2) := by
  have aligned := slotAddress_aligned multiple page slot
  refine ⟨readBytes flash.memory (slotAddress itemSize page slot)
    itemSize, ?_⟩
  intro rest
  rw [countItemsTrace, if_pos inside, Flash.read_eq _ _ aligned,
    Option.getD_some, if_neg, ← slotAddress_succ]
  rintro (none | noData)
  · have positive := itemSize_pos_of_occupied occupied
    omega
  · rw [← slotIsFree, occupied] at noData
    cases noData

/-- A free slot ends the count. -/
theorem countItemsTrace_free
    (multiple : 8 ∣ itemSize)
    (inside :
      slotAddress itemSize page slot < pageAddr page + flashPageSize)
    (free : slotIsFree flash.memory itemSize page slot = true) :
    countItemsTrace flash itemSize (pageAddr page + flashPageSize)
        (slotAddress itemSize page slot) count readBuffer =
      (count, flashLoads (slotAddress itemSize page slot) itemSize) := by
  have aligned := slotAddress_aligned multiple page slot
  rw [countItemsTrace, if_pos inside, Flash.read_eq _ _ aligned,
    Option.getD_some, if_pos (.inr free)]

/-- The count ends behind the page. -/
theorem countItemsTrace_end
    (outside :
      pageAddr page + flashPageSize ≤ slotAddress itemSize page slot) :
    countItemsTrace flash itemSize (pageAddr page + flashPageSize)
        (slotAddress itemSize page slot) count readBuffer =
      (count, []) := by
  rw [countItemsTrace, if_neg (Nat.not_lt.mpr outside)]

/-- The slots with data at the start of a page are passed. -/
theorem countItemsTrace_slots
    (multiple : 8 ∣ itemSize)
    (fits : count * itemSize ≤ flashPageSize - pageHeaderSize)
    (occupied : ∀ slot < count,
      slotIsFree flash.memory itemSize page slot = false) :
    ∃ buffer,
      let rest :=
        countItemsTrace flash itemSize (pageAddr page + flashPageSize)
          (slotAddress itemSize page count) count buffer
      countItemsTrace flash itemSize (pageAddr page + flashPageSize)
          (pageAddr page + pageHeaderSize) 0 [] =
        (rest.1, slotLoads itemSize page count ++ rest.2) := by
  induction count with
  | zero =>
      refine ⟨[], ?_⟩
      rw [slotAddress, Nat.zero_mul, Nat.add_zero]
      rfl
  | succ count inductionHypothesis =>
      rw [Nat.succ_mul] at fits
      obtain ⟨buffer, passed⟩ := inductionHypothesis (by omega)
        fun slot earlier => occupied slot (by omega)
      have positive := itemSize_pos_of_occupied
        (occupied count (Nat.lt_succ_self _))
      have few : count ≤ count * itemSize :=
        Nat.le_mul_of_pos_right count positive
      have inside : slotAddress itemSize page count <
          pageAddr page + flashPageSize := by
        simp only [slotAddress, flashPageSize, pageHeaderSize] at fits ⊢
        omega
      obtain ⟨next, passes⟩ :=
        @countItemsTrace_occupied flash itemSize page count count buffer
          multiple inside (occupied count (Nat.lt_succ_self _))
      refine ⟨next, ?_⟩
      have small : (count + 1) % 65536 = count + 1 := by
        simp only [flashPageSize, pageHeaderSize] at fits
        omega
      dsimp only at passed passes ⊢
      rw [passed, passes, small, slotLoads_succ, List.append_assoc]

theorem mem_flashLoads
    {address nrOfBytes load : Nat}
    (aligned : address % 8 = 0) :
    load ∈ flashLoads address nrOfBytes ↔
      ∃ words, load = address + 8 * words ∧
        (words = 0 ∨ 8 * words < nrOfBytes) := by
  rw [flashLoads, if_neg (not_not_intro aligned), mem_loadLoop]
  simp only [Nat.zero_add]

/-- The slots that fit on a page are read on this page. -/
theorem slotLoads_within
    (multiple : 8 ∣ itemSize)
    (fits : count * itemSize ≤ flashPageSize - pageHeaderSize) :
    ∀ load ∈ slotLoads itemSize page count,
      pageAddr page ≤ load ∧
        load + 8 ≤ pageAddr page + flashPageSize := by
  intro load member
  obtain ⟨slot, earlier, loaded⟩ := List.mem_flatMap.mp member
  obtain ⟨words, rfl, inside⟩ :=
    (mem_flashLoads (slotAddress_aligned multiple page slot)).mp loaded
  have last : (slot + 1) * itemSize ≤ count * itemSize :=
    Nat.mul_le_mul_right _ (List.mem_range.mp earlier)
  rw [Nat.succ_mul] at last
  obtain ⟨size, rfl⟩ := multiple
  simp only [slotAddress, flashPageSize, pageHeaderSize] at fits ⊢
  rcases Nat.eq_zero_or_pos size with rfl | positive
  · simp only [Nat.mul_zero] at inside ⊢
    omega
  · omega

/-- The end of a slot that does not fit is read on the page behind. -/
theorem flashLoads_beyond
    (multiple : 8 ∣ itemSize)
    (positive : 0 < itemSize)
    (exceeds : flashPageSize - pageHeaderSize < (slot + 1) * itemSize) :
    ∃ load ∈ flashLoads (slotAddress itemSize page slot) itemSize,
      pageAddr page + flashPageSize < load + 8 := by
  obtain ⟨size, rfl⟩ := multiple
  refine ⟨slotAddress (8 * size) page slot + 8 * (size - 1), ?_, ?_⟩
  · rw [mem_flashLoads
      (slotAddress_aligned (Nat.dvd_mul_right 8 size) page slot)]
    exact ⟨size - 1, rfl, .inr (by omega)⟩
  · rw [Nat.succ_mul] at exceeds
    simp only [slotAddress, flashPageSize, pageHeaderSize] at exceeds ⊢
    omega

/-- The items before the first free slot. -/
theorem leadingItems_eq
    {memory : Memory}
    (fits : count ≤ (flashPageSize - pageHeaderSize) / itemSize)
    (occupied : ∀ slot < count,
      slotIsFree memory itemSize page slot = false)
    (stops : count = (flashPageSize - pageHeaderSize) / itemSize ∨
      slotIsFree memory itemSize page count = true) :
    leadingItems memory itemSize page = count := by
  obtain ⟨later, total⟩ := Nat.exists_eq_add_of_le fits
  rw [leadingItems, total, List.range_add, List.takeWhile_append_of_pos,
    List.length_append, List.length_range]
  · rw [Nat.add_eq_left, List.length_eq_zero_iff]
    cases later with
    | zero => rfl
    | succ later =>
        have free := stops.resolve_left (by omega)
        rw [List.range_succ_eq_map, List.map_cons, Nat.add_zero,
          List.takeWhile_cons_of_neg]
        simp [free]
  · intro slot earlier
    simp [occupied slot (List.mem_range.mp earlier)]

end Slots

section Pages

variable {state : ItemStoreState}
variable {item : ItemDef}

theorem countItemsOnCurrentPage_eq (state : ItemStoreState) (item : ItemDef) :
    countItemsOnCurrentPage state item =
      (countItemsTrace state.flash (state.itemStore item).itemSize
        (pageAddr (currentPage state item) + flashPageSize)
        (pageAddr (currentPage state item) + pageHeaderSize) 0 []).1 :=
  countItemsTrace_fst.symm

/-- What the count and the loads of a page are for a trace. -/
theorem countsItems_of_trace
    {count : Nat}
    (multiple : 8 ∣ (state.itemStore item).itemSize)
    {slots : Nat}
    (trace :
      countItemsTrace state.flash (state.itemStore item).itemSize
          (pageAddr (currentPage state item) + flashPageSize)
          (pageAddr (currentPage state item) + pageHeaderSize) 0 [] =
        (count,
          slotLoads (state.itemStore item).itemSize
            (currentPage state item) slots))
    (fits :
      slots * (state.itemStore item).itemSize ≤
        flashPageSize - pageHeaderSize)
    (bounded :
      count ≤ (flashPageSize - pageHeaderSize) /
        (state.itemStore item).itemSize)
    (counted :
      leadingItems state.flash.memory (state.itemStore item).itemSize
        (currentPage state item) = count) :
    CountsItems state item where
  within := by
    have loads : countItemsLoads state item = _ := congrArg Prod.snd trace
    rw [loads]
    exact slotLoads_within multiple fits
  counted := by rw [countItemsOnCurrentPage_eq, trace, counted]
  bounded := by
    rw [countItemsOnCurrentPage_eq, trace]
    exact bounded

/-- A page with a free slot is counted up to the first one. -/
theorem countsItems_of_free
    (multiple : 8 ∣ (state.itemStore item).itemSize)
    (free : HasFreeSlot state item) :
    CountsItems state item := by
  classical
  obtain ⟨fits, firstFree⟩ := Nat.find_spec free
  have occupied : ∀ slot < Nat.find free,
      slotIsFree state.flash.memory (state.itemStore item).itemSize
        (currentPage state item) slot = false := by
    intro slot earlier
    refine Bool.eq_false_of_not_eq_true fun isFree =>
      Nat.find_min free earlier ⟨?_, isFree⟩
    exact Nat.le_trans (Nat.mul_le_mul_right _ (by omega)) fits
  generalize Nat.find free = count at fits firstFree occupied
  have room := fits
  rw [Nat.succ_mul] at room
  obtain ⟨buffer, passed⟩ :=
    @countItemsTrace_slots state.flash (state.itemStore item).itemSize
      (currentPage state item) count multiple (by omega) occupied
  have inside :
      slotAddress (state.itemStore item).itemSize (currentPage state item)
          count <
        pageAddr (currentPage state item) + flashPageSize := by
    rcases Nat.eq_zero_or_pos (state.itemStore item).itemSize with
      none | positive
    · rw [slotAddress, none, Nat.mul_zero]
      simp only [flashPageSize, pageHeaderSize]
      omega
    · simp only [slotAddress, flashPageSize, pageHeaderSize] at room ⊢
      omega
  have stops := @countItemsTrace_free state.flash
    (state.itemStore item).itemSize (currentPage state item) count count
    buffer multiple inside firstFree
  dsimp only at passed
  rw [stops, ← slotLoads_succ] at passed
  have bounded :
      count ≤ (flashPageSize - pageHeaderSize) /
        (state.itemStore item).itemSize := by
    rcases Nat.eq_zero_or_pos count with rfl | some
    · exact Nat.zero_le _
    · rw [Nat.le_div_iff_mul_le
        (itemSize_pos_of_occupied (occupied 0 some))]
      omega
  exact countsItems_of_trace multiple passed fits bounded
    (leadingItems_eq bounded occupied (.inr firstFree))

/-- Without a free slot all slots that fit have data. -/
theorem occupied_of_not_free
    (notFree : ¬ HasFreeSlot state item) :
    0 < (state.itemStore item).itemSize ∧
      ∀ slot <
        (flashPageSize - pageHeaderSize) / (state.itemStore item).itemSize,
        slotIsFree state.flash.memory (state.itemStore item).itemSize
          (currentPage state item) slot = false := by
  have positive : 0 < (state.itemStore item).itemSize := by
    rcases Nat.eq_zero_or_pos (state.itemStore item).itemSize with
      none | positive
    · refine (notFree ⟨0, ?_, ?_⟩).elim
      · rw [none]
        exact Nat.zero_le _
      · rw [none]
        rfl
    · exact positive
  refine ⟨positive, fun slot earlier => ?_⟩
  refine Bool.eq_false_of_not_eq_true fun isFree =>
    notFree ⟨slot, ?_, isFree⟩
  exact (Nat.le_div_iff_mul_le positive).mp earlier

/-- A full page without a remainder is counted to its end. -/
theorem countsItems_of_dvd
    (multiple : 8 ∣ (state.itemStore item).itemSize)
    (whole :
      (state.itemStore item).itemSize ∣ flashPageSize - pageHeaderSize)
    (notFree : ¬ HasFreeSlot state item) :
    CountsItems state item := by
  obtain ⟨positive, occupied⟩ := occupied_of_not_free notFree
  have exact_fits := Nat.div_mul_cancel whole
  generalize shape : (flashPageSize - pageHeaderSize) /
    (state.itemStore item).itemSize = capacity at occupied exact_fits
  obtain ⟨buffer, passed⟩ :=
    @countItemsTrace_slots state.flash (state.itemStore item).itemSize
      (currentPage state item) capacity multiple
      (Nat.le_of_eq exact_fits) occupied
  have outside :
      pageAddr (currentPage state item) + flashPageSize ≤
        slotAddress (state.itemStore item).itemSize
          (currentPage state item) capacity := by
    simp only [slotAddress, exact_fits, flashPageSize, pageHeaderSize]
    omega
  dsimp only at passed
  rw [countItemsTrace_end outside, List.append_nil] at passed
  exact countsItems_of_trace multiple passed (Nat.le_of_eq exact_fits)
    (Nat.le_of_eq shape.symm)
    (leadingItems_eq (Nat.le_of_eq shape.symm) occupied (.inl shape.symm))

/-- A full page with a remainder is not left at the end of its slots. -/
theorem passed_of_not_dvd
    (multiple : 8 ∣ (state.itemStore item).itemSize)
    (remainder :
      ¬ (state.itemStore item).itemSize ∣ flashPageSize - pageHeaderSize)
    (notFree : ¬ HasFreeSlot state item) :
    ∃ capacity buffer,
      capacity =
          (flashPageSize - pageHeaderSize) /
            (state.itemStore item).itemSize ∧
        slotAddress (state.itemStore item).itemSize (currentPage state item)
            capacity <
          pageAddr (currentPage state item) + flashPageSize ∧
        flashPageSize - pageHeaderSize <
          (capacity + 1) * (state.itemStore item).itemSize ∧
        let rest :=
          countItemsTrace state.flash (state.itemStore item).itemSize
            (pageAddr (currentPage state item) + flashPageSize)
            (slotAddress (state.itemStore item).itemSize
              (currentPage state item) capacity) capacity buffer
        countItemsTrace state.flash (state.itemStore item).itemSize
            (pageAddr (currentPage state item) + flashPageSize)
            (pageAddr (currentPage state item) + pageHeaderSize) 0 [] =
          (rest.1,
            slotLoads (state.itemStore item).itemSize
                (currentPage state item) capacity ++
              rest.2) := by
  obtain ⟨positive, occupied⟩ := occupied_of_not_free notFree
  have fits := Nat.div_mul_le_self (flashPageSize - pageHeaderSize)
    (state.itemStore item).itemSize
  have different :
      (flashPageSize - pageHeaderSize) / (state.itemStore item).itemSize *
          (state.itemStore item).itemSize ≠
        flashPageSize - pageHeaderSize :=
    fun same => remainder (Dvd.intro_left _ same)
  obtain ⟨buffer, passed⟩ :=
    countItemsTrace_slots multiple fits occupied
  refine ⟨_, buffer, rfl, ?_, ?_, passed⟩
  · have short := Nat.lt_of_le_of_ne fits different
    simp only [slotAddress, flashPageSize, pageHeaderSize] at short ⊢
    omega
  · exact Nat.lt_mul_of_div_lt (Nat.lt_succ_self _) positive

/-- The slot behind the last one that fits reaches the page behind. -/
theorem not_countsItems
    (multiple : 8 ∣ (state.itemStore item).itemSize)
    (remainder :
      ¬ (state.itemStore item).itemSize ∣ flashPageSize - pageHeaderSize)
    (notFree : ¬ HasFreeSlot state item) :
    ¬ CountsItems state item := by
  intro counts
  obtain ⟨positive, _⟩ := occupied_of_not_free notFree
  obtain ⟨capacity, buffer, _, inside, exceeds, passed⟩ :=
    passed_of_not_dvd multiple remainder notFree
  obtain ⟨load, loaded, beyond⟩ :=
    @flashLoads_beyond (state.itemStore item).itemSize
      (currentPage state item) capacity multiple positive exceeds
  have loads : countItemsLoads state item = _ := congrArg Prod.snd passed
  have member : load ∈ countItemsLoads state item := by
    rw [loads]
    refine List.mem_append_right _ ?_
    cases free : slotIsFree state.flash.memory
        (state.itemStore item).itemSize (currentPage state item)
        capacity with
    | true =>
        rw [countItemsTrace_free multiple inside free]
        exact loaded
    | false =>
        obtain ⟨next, passes⟩ :=
          @countItemsTrace_occupied state.flash
            (state.itemStore item).itemSize (currentPage state item)
            capacity capacity buffer multiple inside free
        rw [passes]
        exact List.mem_append_left _ loaded
  have upper := (counts.within load member).2
  omega

/-- Data behind the last slot that fits is counted as a further item. -/
theorem countItemsOnCurrentPage_beyond
    (multiple : 8 ∣ (state.itemStore item).itemSize)
    (remainder :
      ¬ (state.itemStore item).itemSize ∣ flashPageSize - pageHeaderSize)
    (notFree : ¬ HasFreeSlot state item)
    (data :
      slotIsFree state.flash.memory (state.itemStore item).itemSize
        (currentPage state item)
        ((flashPageSize - pageHeaderSize) /
          (state.itemStore item).itemSize) = false) :
    countItemsOnCurrentPage state item =
      (flashPageSize - pageHeaderSize) / (state.itemStore item).itemSize +
        1 := by
  obtain ⟨positive, _⟩ := occupied_of_not_free notFree
  obtain ⟨capacity, buffer, shape, inside, exceeds, passed⟩ :=
    passed_of_not_dvd multiple remainder notFree
  rw [← shape] at data ⊢
  obtain ⟨next, passes⟩ :=
    @countItemsTrace_occupied state.flash (state.itemStore item).itemSize
      (currentPage state item) capacity capacity buffer multiple inside data
  have outside :
      pageAddr (currentPage state item) + flashPageSize ≤
        slotAddress (state.itemStore item).itemSize
          (currentPage state item) (capacity + 1) := by
    simp only [slotAddress, flashPageSize, pageHeaderSize] at exceeds ⊢
    omega
  have few : capacity ≤ flashPageSize - pageHeaderSize := by
    rw [shape]
    exact Nat.div_le_self _ _
  have small : (capacity + 1) % 65536 = capacity + 1 := by
    simp only [flashPageSize, pageHeaderSize] at few
    omega
  dsimp only at passed passes
  rw [countItemsTrace_end outside, small] at passes
  rw [countItemsOnCurrentPage_eq, passed, passes]

/--
The items of an open page are counted without a look at the page behind if and
only if the items divide the page or some slot that fits on it is free.
-/
theorem countsItems_iff
    (multiple : 8 ∣ (state.itemStore item).itemSize) :
    CountsItems state item ↔
      (state.itemStore item).itemSize ∣ flashPageSize - pageHeaderSize ∨
        HasFreeSlot state item := by
  constructor
  · intro counts
    by_contra neither
    rw [not_or] at neither
    exact not_countsItems multiple neither.1 neither.2 counts
  · rintro (whole | free)
    · by_cases free : HasFreeSlot state item
      · exact countsItems_of_free multiple free
      · exact countsItems_of_dvd multiple whole free
    · exact countsItems_of_free multiple free

end Pages

/-- The count of a page that 510 samples fill up to its end. -/
theorem countsItems_iff_samples :
    CountsItems (powerOn fun _ => 0) .measurementSample :=
  (countsItems_iff (by decide)).mpr (.inl (by decide))

section Examples

/-- A slot with a programmed byte is not free. -/
theorem occupied_of_programmed
    {memory : Memory}
    {itemSize page slot offset : Nat}
    (inside : offset < itemSize)
    (programmed :
      memory (slotAddress itemSize page slot + offset) ≠ erasedByte) :
    slotIsFree memory itemSize page slot = false := by
  refine Bool.eq_false_of_not_eq_true fun free => programmed ?_
  rw [slotIsFree, hasNoData, List.all_eq_true] at free
  refine eq_of_beq (free _ ?_)
  exact List.mem_map.mpr ⟨offset, List.mem_range.mpr inside, rfl⟩

/-- A page with a header and 31 records of zeros. -/
def withRecords
    (memory : Memory) (page : Nat) (header : PageHeader) : Memory :=
  writeBytes memory (pageAddr page)
    (header.toBytes ++ List.replicate (31 * systemConfigSize) 0)

/-- The begin tag of a page of the system configuration. -/
def configTag (page blockId : Byte) : PageBeginTag where
  magic := pageMagic
  pageId := page
  blockId := blockId
  itemId := ItemDef.toByte .systemConfig
  itemSize := UInt8.ofNat systemConfigSize

/--
The supply fails between the last record of page 65 and the complete tag; page
66 keeps the block before.
-/
def interruptedClose : Memory :=
  withRecords
    (withRecords (fun _ => erasedByte) 65
      { beginTag := configTag 65 2, completeTag := PageCompleteTag.erased })
    66
    { beginTag := configTag 66 1
      completeTag :=
        { magic := pageMagic
          nrOfItems := 31
          nextPage := 65
          nextPageId := 2 } }

/-- `InitItemStore` when it counts the items of page 65. -/
def countingState : ItemStoreState :=
  modifyInfo (powerOn interruptedClose) .systemConfig fun info =>
    { info with currentPageInfo := configTag 65 2 }

theorem interruptedClose_record
    {offset : Nat}
    (inside : offset < 31 * systemConfigSize) :
    interruptedClose (pageAddr 65 + pageHeaderSize + offset) = 0 := by
  simp only [systemConfigSize] at inside
  rw [interruptedClose, withRecords, writeBytes, if_neg, withRecords,
    writeBytes, if_pos, List.getD_append_right]
  · rw [List.getD_replicate]
    simp only [PageHeader.length_toBytes, pageHeaderSize, systemConfigSize]
    omega
  · simp only [PageHeader.length_toBytes, pageHeaderSize]
    omega
  · simp only [List.length_append, PageHeader.length_toBytes,
      List.length_replicate, pageHeaderSize, systemConfigSize]
    omega
  · simp only [pageAddr, flashPageSize, pageHeaderSize]
    omega

/-- No slot of page 65 is free. -/
theorem countingState_full :
    ¬ HasFreeSlot countingState .systemConfig := by
  rintro ⟨slot, fits, free⟩
  have size : (countingState.itemStore .systemConfig).itemSize =
      systemConfigSize := rfl
  have page : currentPage countingState .systemConfig = 65 := rfl
  have memory : countingState.flash.memory = interruptedClose := rfl
  rw [size] at fits
  rw [size, page, memory, occupied_of_programmed
    (show 0 < systemConfigSize by decide)] at free
  · cases free
  · have record := @interruptedClose_record (slot * systemConfigSize) (by
      simp only [flashPageSize, pageHeaderSize, systemConfigSize] at fits ⊢
      omega)
    rw [slotAddress, Nat.add_zero, record]
    decide

/-- The header of page 66 is where a record 32 of page 65 would be. -/
theorem countingState_beyond :
    slotIsFree interruptedClose systemConfigSize 65 31 = false := by
  refine @occupied_of_programmed _ _ _ _ 112 (by decide) ?_
  have magic : interruptedClose (pageAddr 66) = 0x5A := by
    rw [interruptedClose, withRecords, writeBytes, if_pos, Nat.sub_self,
      List.getD_append]
    · decide
    · rw [PageHeader.length_toBytes]
      omega
    · rw [List.length_append, PageHeader.length_toBytes]
      omega
  rw [show slotAddress systemConfigSize 65 31 + 112 = pageAddr 66 from rfl,
    magic]
  decide

/--
A page whose complete tag was not written has 31 records, and 32 are counted.
-/
theorem countsItems_not_beyond :
    countItemsOnCurrentPage countingState .systemConfig = 32 ∧
      ¬ ∀ (state : ItemStoreState) (item : ItemDef),
        8 ∣ (state.itemStore item).itemSize →
        (state.itemStore item).itemSize ≤ 128 →
        CountsItems state item := by
  have multiple : 8 ∣ (countingState.itemStore .systemConfig).itemSize := by
    decide
  have remainder : ¬ (countingState.itemStore .systemConfig).itemSize ∣
      flashPageSize - pageHeaderSize := by
    decide
  refine ⟨countItemsOnCurrentPage_beyond multiple remainder
    countingState_full countingState_beyond, ?_⟩
  intro counts
  exact not_countsItems multiple remainder countingState_full
    (counts countingState .systemConfig multiple
      (Nat.le_refl systemConfigSize))

end Examples

end DemoBoard.ItemStore
