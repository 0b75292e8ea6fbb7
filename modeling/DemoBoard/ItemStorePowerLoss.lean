import DemoBoard.ItemStoreFullPage

namespace DemoBoard.ItemStore

open ByteMemory

/-!
# Power loss inside an add

An add programs the begin tag, the double words of the item and the complete
tag, and erases the oldest page.  A reset after any prefix of these operations
finds the image of a log: the log before the add, the log with an opened page,
with a torn item, with a full page that is not closed, or with a full ring of
which no page is erased yet.
-/

/-- Every complete tag on flash is consistent. -/
def CompleteTagsConsistent
    (item : ItemDef) (state : ItemStoreState) : Prop :=
  ∀ place, place < (geometry item).nrOfPages →
    ∃ header,
      readHeader state ((geometry item).firstPage + place) =
        some header ∧
      (hasNoData header.completeTag.toBytes = true ∨
        completeTagIsConsistent (state.itemStore item) header
          ((geometry item).firstPage + place) = true)

/-- Recovery fails no assertion and leaves a working store. -/
def RecoversTo
    (item : ItemDef) (expected : List (List Byte) → Prop)
    (memory : Memory) : Prop :=
  ∃ after,
    recover memory item = .ok after ∧
    CompleteTagsConsistent item after ∧
    (∃ items, expected items ∧ EnumeratesFromStart after item items) ∧
    ∀ more : List (List Byte),
      (∀ data ∈ more, data.length = (geometry item).itemSize) →
        ∃ final, addItems item after more = .ok (final, true)

/-- Recovery over a flash array ends with a regular log. -/
def RecoversAs
    (item : ItemDef) (log : StoreLog) (memory : Memory) : Prop :=
  ∃ after stale,
    recover memory item = .ok after ∧
    stale ≤ (geometry item).capacity ∧
    Tracks item log stale after

section Recovery

variable {item : ItemDef}
variable {log : StoreLog}
variable {stale : Nat}
variable {state : ItemStoreState}
variable {memory : Memory}

theorem completeTagsConsistent_of_tracks
    (tracks : Tracks item log stale state) :
    CompleteTagsConsistent item state := by
  intro place inside
  have lower := SegmentedLog.ordinalAt_ge log.oldest inside
  have upper := SegmentedLog.ordinalAt_lt log.oldest inside
  have atPlace := SegmentedLog.ordinalAt_mod log.oldest inside
  have page :
      (geometry item).firstPage + place =
        (geometry item).pageOf
          (SegmentedLog.ordinalAt (geometry item).nrOfPages log.oldest
            place) := by
    rw [StoreGeometry.pageOf, atPlace]
  rw [page]
  generalize SegmentedLog.ordinalAt (geometry item).nrOfPages log.oldest
    place = ordinal at lower upper
  refine ⟨_, readHeader_eq (tracks.image ordinal lower upper), ?_⟩
  by_cases closed : ordinal < log.closed
  · rw [headerOf_closed item closed]
    exact Or.inr
      (completeTagIsConsistent_eq tracks.info.toStaticInfo rfl)
  · left
    simp only [headerOf, closed, if_false]
    exact PageCompleteTag.hasNoData_erased

/-- A regular log after recovery is a working store. -/
theorem RecoversAs.recoversTo
    (recovers : RecoversAs item log memory)
    (regular : log.Regular (geometry item))
    {expected : List (List Byte) → Prop}
    (kept : expected (keptItems item log.items)) :
    RecoversTo item expected memory := by
  obtain ⟨after, stale, recovered, staleLe, tracks⟩ := recovers
  refine ⟨after, recovered, completeTagsConsistent_of_tracks tracks,
    ⟨_, kept, ?_⟩, ?_⟩
  · rw [← retained_eq_keptItems regular]
    exact enumeratesFromStart_of_tracks tracks regular.spacious staleLe
  · intro more sized
    obtain ⟨final, _, added, _⟩ :=
      addItems_tracks tracks regular.spacious sized
    exact ⟨final, added⟩

/-- Recovery of a log whose block ids do not restart wrongly. -/
theorem recoversAs_regular
    (regular : log.Regular (geometry item))
    (image : StoreImage item log memory)
    (hasData : ∀ data ∈ log.items, hasNoData data = false)
    (blockId_eq :
      ∀ ordinal, log.blockId ordinal = ordinal % maxBlockIndex)
    (notLost : ¬ RestartLost item log) :
    RecoversAs item log memory := by
  obtain ⟨after, booted, tracks, _⟩ :=
    initItemStore_regular (fresh_powerOn item memory) regular image
      (recoverable_of_counted regular hasData blockId_eq notLost)
  exact ⟨after, 0, recover_eq booted tracks.idle, Nat.zero_le _, tracks⟩

/-- Recovery of a full page in the first turn of the ring. -/
theorem FullPage.recoversAs
    (page : FullPage item log (powerOn memory))
    (firstTurn : log.closed + 1 < (geometry item).nrOfPages) :
    RecoversAs item log.closePage memory := by
  obtain ⟨after, booted, tracks, _⟩ :=
    page.initItemStore_firstTurn firstTurn
  exact ⟨after, _, recover_eq booted tracks.idle, Nat.le_refl _, tracks⟩

/-- `InitItemStore` over a full ring starts the erase of its oldest page. -/
theorem initItemStore_fullRing
    (wellFormed : log.WellFormed (geometry item))
    (image : StoreImage item log memory)
    (hasData : ∀ data ∈ log.items, hasNoData data = false)
    (blockId_eq :
      ∀ ordinal, log.blockId ordinal = ordinal % maxBlockIndex)
    (notOpened : log.opened = false)
    (full : log.closed = log.oldest + (geometry item).nrOfPages) :
    ∃ pointed,
      Tracks item log 0 pointed ∧
      Extends item [] (powerOn memory) pointed ∧
      initItemStore (powerOn memory) item =
        .ok (erasingOldest item log pointed) := by
  have several := (geometry item).severalPages
  have fresh := fresh_powerOn item memory
  have bounds := firstOrdinal_bounds item log
  have scannable :
      Scannable item log (firstOrdinal item log) log.oldest
        (log.closed - 1) (powerOn memory) :=
    { static := fresh.static
      wellFormed := wellFormed
      image := image
      hasData := by
        intro data member
        exact hasData data
          (List.mem_of_mem_drop (List.mem_of_mem_take member))
      ordered := by
        rw [show log.blockId = fun ordinal => ordinal % maxBlockIndex from
          funext blockId_eq]
        exact blocksOrdered_mod (geometry item) (by omega)
      known := by
        rintro ordinal lower upper _
        omega
      start_known := by omega
      start_place := bounds.2.2
      start_inUse := fun _ => rfl
      start_tag := fun notInUse =>
        (notInUse (Or.inl (show firstOrdinal item log < log.closed by
          omega))).elim }
  obtain ⟨found, header, low, high, run, invariant⟩ :=
    scannable.scan_all (by
      intro opened
      rw [notOpened] at opened
      cases opened)
  have place : ∀ ordinal, ordinal % (geometry item).nrOfPages <
      (geometry item).nrOfPages :=
    fun ordinal => Nat.mod_lt _ (geometry item).nrOfPages_pos
  have lowEq : low = log.oldest := by
    have bound := invariant.bounds log.oldest (Nat.le_refl _) (by omega)
      (Or.inl (by omega)) (place _)
    rcases invariant.low_inUse with same | ⟨_, lower⟩ <;> omega
  have highEq : high = log.closed - 1 := by
    have bound := invariant.bounds (log.closed - 1) (by omega) (by omega)
      (Or.inl (by omega)) (place _)
    rcases invariant.high_inUse with same | ⟨closed | ⟨_, opened⟩, _⟩
    · omega
    · omega
    · rw [notOpened] at opened
      cases opened
  subst lowEq
  rw [highEq] at invariant
  have next : log.closed = log.closed - 1 + 1 := by omega
  have tracks := tracks_pointed fresh wellFormed image notOpened next
    (by rw [blockId_eq, blockId_eq, Nat.mod_add_mod, ← next]) invariant
  have adjusted := adjustNextWritePage_full tracks full
    (show (completeTagOf item log (log.closed - 1)).nextPage =
      UInt8.ofNat ((geometry item).pageOf log.closed) by
        rw [completeTagOf, ← next])
    rfl
  have booted := initItemStore_closed fresh image
    (show log.oldest ≤ log.closed - 1 by omega) (by omega) (by omega) run
    invariant.newest_eq
  refine ⟨_, tracks, extends_pointed found _, ?_⟩
  rw [booted, adjusted]
  rfl

/-- Recovery of a full ring erases its oldest page. -/
theorem recoversAs_dropOldest
    (wellFormed : log.WellFormed (geometry item))
    (image : StoreImage item log memory)
    (hasData : ∀ data ∈ log.items, hasNoData data = false)
    (blockId_eq :
      ∀ ordinal, log.blockId ordinal = ordinal % maxBlockIndex)
    (notOpened : log.opened = false)
    (full : log.closed = log.oldest + (geometry item).nrOfPages) :
    RecoversAs item log.dropOldest memory := by
  obtain ⟨pointed, tracks, _, booted⟩ := initItemStore_fullRing wellFormed
    image hasData blockId_eq notOpened full
  obtain ⟨after, finished, afterTracks, _⟩ :=
    finishErase_erasingOldest tracks full notOpened
  refine ⟨after, 0, ?_, Nat.zero_le _, afterTracks⟩
  rw [recover, booted]
  simp only [bind, Except.bind, finished]

/-- A reset over the image of a regular log. -/
theorem recoversTo_regular_iff
    (regular : log.Regular (geometry item))
    (image : StoreImage item log memory)
    (hasData : ∀ data ∈ log.items, hasNoData data = false)
    (blockId_eq :
      ∀ ordinal, log.blockId ordinal = ordinal % maxBlockIndex)
    {expected : List (List Byte) → Prop}
    (kept : expected (keptItems item log.items))
    (someItem :
      0 < log.closed → ∀ items, expected items → items ≠ []) :
    RecoversTo item expected memory ↔
      ¬ (log.opened = false ∧
        log.closed % maxBlockIndex = (geometry item).nrOfPages) := by
  have pages := (geometry item).nrOfPages_pos
  by_cases lost : RestartLost item log
  · rcases lost.cases with adjacent | late
    · simp only [lost.1, adjacent, and_self, not_true_eq_false, iff_false]
      rintro ⟨after, recovered, _, ⟨items, wanted, enumeration⟩, _⟩
      have fresh := fresh_powerOn item memory
      obtain ⟨other, booted, _, flash, _, oldestPage⟩ :=
        initItemStore_adjacent fresh regular image hasData blockId_eq lost
          adjacent
      rw [recover_eq booted (by rw [flash]; exact fresh.idle)] at recovered
      cases recovered
      have holds :=
        image.currentPage regular.wellFormed regular.inWindow
      rw [headerOf_notOpened item lost.1] at holds
      have sameMemory : after.flash.memory = memory := by
        rw [flash]
        rfl
      rw [← sameMemory] at holds
      have read := readHeader_eq holds
      rw [← oldestPage] at read
      have wrapped := lost.nrOfPages_le
      rw [EnumeratesFromStart,
        if_neg (someItem (by omega) items wanted)] at enumeration
      have notReady := beginEnumerate_erased read
      rw [EnumeratesExactly] at enumeration
      rw [enumeration.1] at notReady
      cases notReady
    · have condition :
          ¬ (log.opened = false ∧
            log.closed % maxBlockIndex = (geometry item).nrOfPages) := by
        omega
      simp only [condition, not_false_eq_true, iff_true]
      obtain ⟨after, booted, tracks, _⟩ :=
        initItemStore_regular (fresh_powerOn item memory)
          (regular_renumber regular) (image_renumber lost.1 image)
          (recoverable_renumber regular hasData blockId_eq lost late)
      have recovers : RecoversAs item (renumber log) memory :=
        ⟨after, 0, recover_eq booted tracks.idle, Nat.zero_le _, tracks⟩
      exact recovers.recoversTo (regular_renumber regular) kept
  · have condition :
        ¬ (log.opened = false ∧
          log.closed % maxBlockIndex = (geometry item).nrOfPages) := by
      rintro ⟨notOpened, adjacent⟩
      refine lost ⟨notOpened, ?_, ?_⟩
      · apply (Nat.dvd_mod_iff (geometry item).wholeCycles).mp
        rw [adjacent]
      · intro whole
        rw [Nat.mod_eq_zero_of_dvd whole] at adjacent
        omega
    simp only [condition, not_false_eq_true, iff_true]
    exact (recoversAs_regular regular image hasData blockId_eq
      lost).recoversTo regular kept

end Recovery

/-- Program operations for the begin tag in the next add. -/
def headerWords (item : ItemDef) (count : Nat) : Nat :=
  if count % (geometry item).capacity = 0 then 1 else 0

/-- Double words of the next item among the first operations of its add. -/
def wordsWritten (item : ItemDef) (count cut : Nat) : Nat :=
  min (geometry item).itemWords (cut - headerWords item count)

/--
The items expected after a power loss: with the last double word written the
new item is stored, otherwise there may be one torn copy of it.
-/
def ExpectedAfter
    (item : ItemDef) (items : List (List Byte)) (data : List Byte)
    (words : Nat) (found : List (List Byte)) : Prop :=
  if words = (geometry item).itemWords then
    found = keptItems item (items ++ [data])
  else
    found = keptItems item items ∨
      0 < words ∧
        found = keptItems item (items ++ [tornSlot item words data])

/--
Power losses after which the store does not recover: between two adds with the
first flash page erased too early, and with a full page that is not closed in a
later turn of the ring.
-/
def PowerLossFatal
    (item : ItemDef) (count : Nat) (data : List Byte)
    (cut total : Nat) : Prop :=
  cut = 0 ∧
      count % (maxBlockIndex * (geometry item).capacity) =
        (geometry item).nrOfPages * (geometry item).capacity ∨
    cut = total ∧
      (count + 1) % (maxBlockIndex * (geometry item).capacity) =
        (geometry item).nrOfPages * (geometry item).capacity ∨
    (geometry item).capacity ∣ count + 1 ∧
      (geometry item).nrOfPages * (geometry item).capacity ≤ count + 1 ∧
      cut ≤ (geometry item).itemWords ∧
      hasNoData (data.take (8 * cut)) = false

section Cut

variable {item : ItemDef}
variable {log : StoreLog}
variable {memory : Memory}
variable {data : List Byte}

/-- The operations that open the current page, if it is not opened yet. -/
def openingEffects (item : ItemDef) (log : StoreLog) : List FlashEffect :=
  if log.opened then [] else openEffects item log

/-- The state of the ring in which a reset finds the first page erased. -/
theorem adjacent_iff
    (regular : log.Regular (geometry item))
    (tidy : log.Tidy (geometry item)) :
    log.opened = false ∧
        log.closed % maxBlockIndex = (geometry item).nrOfPages ↔
      log.items.length % (maxBlockIndex * (geometry item).capacity) =
        (geometry item).nrOfPages * (geometry item).capacity := by
  have positive := (geometry item).capacity_pos
  have shape := SegmentedLog.length_eq (geometry item).capacity log.items
  rw [← regular.closed_eq, ← regular.slot_eq] at shape
  have turns :
      log.closed * (geometry item).capacity %
          (maxBlockIndex * (geometry item).capacity) =
        log.closed % maxBlockIndex * (geometry item).capacity :=
    Nat.mul_mod_mul_right _ _ _
  constructor
  · rintro ⟨notOpened, adjacent⟩
    have none : log.slot (geometry item) = 0 := by
      by_contra some
      rw [tidy.mpr some] at notOpened
      cases notOpened
    rw [shape, none, Nat.add_zero, turns, adjacent]
  · intro adjacent
    have divides : (geometry item).capacity ∣ log.items.length := by
      rw [← Nat.div_add_mod log.items.length
        (maxBlockIndex * (geometry item).capacity), adjacent]
      exact Nat.dvd_add
        (Nat.dvd_mul_right_of_dvd (Nat.dvd_mul_left _ _) _)
        (Nat.dvd_mul_left _ _)
    have none : log.slot (geometry item) = 0 := by
      rw [regular.slot_eq, SegmentedLog.used]
      exact Nat.mod_eq_zero_of_dvd divides
    refine ⟨?_, ?_⟩
    · by_contra opened
      exact tidy.mp (Bool.eq_true_of_not_eq_false opened) none
    · rw [none, Nat.add_zero] at shape
      rw [shape, turns] at adjacent
      exact Nat.eq_of_mul_eq_mul_right positive adjacent

theorem headerWords_eq
    (regular : log.Regular (geometry item))
    (tidy : log.Tidy (geometry item)) :
    headerWords item log.items.length =
      (openingEffects item log).length := by
  have slots := regular.slot_eq
  rw [SegmentedLog.used] at slots
  rw [StoreLog.Tidy, slots] at tidy
  rw [headerWords, openingEffects]
  cases opened : log.opened with
  | false =>
      rw [opened] at tidy
      have none : log.items.length % (geometry item).capacity = 0 := by
        simpa using tidy
      simp [none, openEffects, length_programEffects]
  | true =>
      rw [if_neg (tidy.mp opened)]
      rfl

/-- An add writes the double words of its item. -/
theorem itemWords_le_addEffects :
    (geometry item).itemWords ≤ (addEffects item log data).length := by
  have shape :
      addEffects item log data =
        openingEffects item log ++
          (programEffects (bufferOf data) (nextSlotAddress item log) 0
              (geometry item).itemWords ++
            if (log.openPage.writeSlot data).slot (geometry item) =
                (geometry item).capacity then
              finishEffects item (log.openPage.writeSlot data)
            else
              []) := rfl
  rw [shape, List.length_append, List.length_append, length_programEffects]
  omega

/-- A prefix of an add that ends within the item. -/
theorem take_addEffects_item
    {words : Nat}
    (within : words ≤ (geometry item).itemWords) :
    (addEffects item log data).take
        ((openingEffects item log).length + words) =
      openingEffects item log ++ itemEffects item log data words := by
  have shape :
      addEffects item log data =
        openingEffects item log ++
          (itemEffects item log data (geometry item).itemWords ++
            if (log.openPage.writeSlot data).slot (geometry item) =
                (geometry item).capacity then
              finishEffects item (log.openPage.writeSlot data)
            else
              []) := rfl
  rw [shape, List.take_length_add_append,
    List.take_append_of_le_length
      (by simpa [itemEffects, length_programEffects] using within),
    itemEffects, take_programEffects _ _ _ within]
  rfl

/-- The image of the log after the begin tag is written. -/
theorem image_opening
    (image : StoreImage item log memory)
    (regular : log.Regular (geometry item)) :
    StoreImage item log.openPage
      (applyEffects memory (openingEffects item log)) := by
  rw [openingEffects]
  cases opened : log.opened with
  | false => exact image.openPage regular.wellFormed regular.inWindow
  | true =>
      have sameLog : log.openPage = log := by
        rw [StoreLog.openPage, ← opened]
      rw [sameLog]
      exact image

/-- A log whose current page has its begin tag. -/
theorem regular_openPage
    (regular : log.Regular (geometry item)) :
    log.openPage.Regular (geometry item) where
  wellFormed := regular.wellFormed.openPage regular.inWindow
  room := regular.room
  oldest_eq := regular.oldest_eq

/-- The log a completed add leads to, when it does not fill the page. -/
theorem add_eq_writeSlot
    (regular : log.Regular (geometry item))
    (more :
      log.slot (geometry item) + 1 ≠ (geometry item).capacity) :
    log.add (geometry item) data = log.openPage.writeSlot data := by
  rw [StoreLog.add, if_neg]
  rw [regular.wellFormed.slot_writeSlot]
  exact more

/-- The log a completed add leads to, when it fills the page. -/
theorem add_eq_finishPage
    (regular : log.Regular (geometry item))
    (full : log.slot (geometry item) + 1 = (geometry item).capacity) :
    log.add (geometry item) data =
      (log.openPage.writeSlot data).finishPage (geometry item) := by
  rw [StoreLog.add, if_pos]
  rw [regular.wellFormed.slot_writeSlot]
  exact full

/-- An item of a log or the item added to it. -/
theorem hasData_append
    (hasData : ∀ entry ∈ log.items, hasNoData entry = false)
    (dataHasData : hasNoData data = false) :
    ∀ entry ∈ log.items ++ [data], hasNoData entry = false := by
  intro entry member
  rcases List.mem_append.mp member with earlier | last
  · exact hasData entry earlier
  · rw [List.mem_singleton.mp last]
    exact dataHasData

/-- Kept items exist once an item is added. -/
theorem keptItems_ne_nil
    {items : List (List Byte)}
    (someItem : items ≠ []) :
    keptItems item items ≠ [] := by
  have positive := (geometry item).capacity_pos
  have several := (geometry item).severalPages
  have length := List.length_pos_of_ne_nil someItem
  have kept : 0 < retainedCount (geometry item) items.length := by
    rw [retainedCount]
    split
    · exact length
    · have large := Nat.mul_le_mul_right (geometry item).capacity
        (show 1 ≤ (geometry item).nrOfPages - 1 by omega)
      omega
  intro none
  have size := congrArg List.length none
  rw [keptItems, List.length_drop, List.length_nil] at size
  omega

theorem items_ne_nil_of_closed
    (regular : log.Regular (geometry item))
    (closed : 0 < log.closed) :
    log.items ≠ [] := by
  intro none
  have lower := regular.wellFormed.items_ge
  have positive := (geometry item).capacity_pos
  have large := Nat.mul_le_mul_right (geometry item).capacity closed
  rw [none, List.length_nil] at lower
  omega

/-- What recovery needs to know about the log before the add. -/
structure BeforeAdd
    (item : ItemDef) (log : StoreLog) (memory : Memory)
    (data : List Byte) : Prop where
  regular : log.Regular (geometry item)
  tidy : log.Tidy (geometry item)
  image : StoreImage item log memory
  blockId_eq : ∀ ordinal, log.blockId ordinal = ordinal % maxBlockIndex
  hasData : ∀ entry ∈ log.items, hasNoData entry = false
  size : data.length = (geometry item).itemSize
  dataHasData : hasNoData data = false

/-- A power loss before the first operation. -/
theorem BeforeAdd.recovers_none
    (before : BeforeAdd item log memory data) :
    RecoversTo item (ExpectedAfter item log.items data 0) memory ↔
      ¬ log.items.length % (maxBlockIndex * (geometry item).capacity) =
          (geometry item).nrOfPages * (geometry item).capacity := by
  have words := (geometry item).someWords
  have regular := before.regular
  rw [← adjacent_iff regular before.tidy]
  have expected : ∀ found,
      ExpectedAfter item log.items data 0 found ↔
        found = keptItems item log.items := by
    intro found
    rw [ExpectedAfter, if_neg (by omega)]
    simp
  apply recoversTo_regular_iff regular before.image before.hasData
    before.blockId_eq
  · exact (expected _).mpr rfl
  · intro closed found wanted
    rw [(expected found).mp wanted]
    exact keptItems_ne_nil (items_ne_nil_of_closed regular closed)

/-- A power loss before a double word with data is written. -/
theorem BeforeAdd.recovers_blank
    (before : BeforeAdd item log memory data)
    {words : Nat}
    (within : words ≤ (geometry item).itemWords)
    (blank : hasNoData (data.take (8 * words)) = true) :
    RecoversTo item (ExpectedAfter item log.items data words)
      (applyEffects memory
        (openingEffects item log ++ itemEffects item log data words)) := by
  have openForm := regular_openPage before.regular
  have image := (image_opening before.image before.regular).writeBlank
    openForm.wellFormed openForm.inWindow openForm.room before.size within
    blank
  have opened : ¬ RestartLost item log.openPage := by
    rintro ⟨contradiction, _⟩
    cases contradiction
  have recovers := recoversAs_regular openForm image before.hasData
    before.blockId_eq opened
  rw [applyEffects_append]
  apply recovers.recoversTo openForm
  have incomplete : words ≠ (geometry item).itemWords := by
    intro all
    have size := before.size
    rw [StoreGeometry.itemSize] at size
    rw [all, List.take_of_length_le (by omega), before.dataHasData]
      at blank
    cases blank
  rw [ExpectedAfter, if_neg incomplete]
  exact Or.inl rfl

/-- The items expected once a double word with data is written. -/
theorem BeforeAdd.expected_torn
    (before : BeforeAdd item log memory data)
    {words : Nat}
    (visible : hasNoData (data.take (8 * words)) = false) :
    ExpectedAfter item log.items data words
      (keptItems item (log.items ++ [tornSlot item words data])) := by
  rw [ExpectedAfter]
  split
  · next all =>
      rw [tornSlot, tornItem_complete before.size
        (by rw [all, StoreGeometry.itemSize])]
  · have some : 0 < words := by
      by_contra none
      rw [show words = 0 by omega] at visible
      cases visible
    exact Or.inr ⟨some, rfl⟩

/-- The image after a double word with data is written. -/
theorem BeforeAdd.image_torn
    (before : BeforeAdd item log memory data)
    {words : Nat}
    (within : words ≤ (geometry item).itemWords) :
    StoreImage item
      (log.openPage.writeSlot (tornSlot item words data))
      (applyEffects memory
        (openingEffects item log ++
          itemEffects item log data words)) := by
  have openForm := regular_openPage before.regular
  rw [applyEffects_append]
  exact (image_opening before.image before.regular).writeTorn
    openForm.wellFormed openForm.inWindow openForm.room before.size within

/-- A power loss in or after an item that does not fill the page. -/
theorem BeforeAdd.recovers_room
    (before : BeforeAdd item log memory data)
    {words : Nat}
    (within : words ≤ (geometry item).itemWords)
    (visible : hasNoData (data.take (8 * words)) = false)
    (more : log.slot (geometry item) + 1 ≠ (geometry item).capacity) :
    RecoversTo item (ExpectedAfter item log.items data words)
      (applyEffects memory
        (openingEffects item log ++ itemEffects item log data words)) := by
  have size := length_tornSlot before.size within
  have regular := before.regular.add size
  rw [add_eq_writeSlot before.regular more] at regular
  have opened :
      ¬ RestartLost item
        (log.openPage.writeSlot (tornSlot item words data)) := by
    rintro ⟨contradiction, _⟩
    cases contradiction
  have recovers := recoversAs_regular regular (before.image_torn within)
    (hasData_append before.hasData
      (hasNoData_tornSlot.trans visible))
    before.blockId_eq opened
  exact recovers.recoversTo regular (before.expected_torn visible)

/-- A reset in or after an item that fills the page finds it not closed. -/
theorem BeforeAdd.fullPage
    (before : BeforeAdd item log memory data)
    {words : Nat}
    (within : words ≤ (geometry item).itemWords)
    (visible : hasNoData (data.take (8 * words)) = false)
    (full : log.slot (geometry item) + 1 = (geometry item).capacity) :
    FullPage item (log.openPage.writeSlot (tornSlot item words data))
      (powerOn
        (applyEffects memory
          (openingEffects item log ++
            itemEffects item log data words))) := by
  have size := length_tornSlot before.size within
  have openForm := regular_openPage before.regular
  have tornData :
      hasNoData (tornSlot item words data) = false :=
    hasNoData_tornSlot.trans visible
  exact
    { fresh := fresh_powerOn item _
      wellFormed := openForm.wellFormed.writeSlot rfl openForm.room size
      image := before.image_torn within
      opened := rfl
      full := by rw [before.regular.wellFormed.slot_writeSlot, full]
      oldest_eq := before.regular.oldest_eq
      hasData := by
        intro entry member
        exact hasData_append before.hasData tornData entry
          (List.mem_of_mem_drop (List.mem_of_mem_take member))
      ordered := by
        rw [show (log.openPage.writeSlot
            (tornSlot item words data)).blockId =
          fun ordinal => ordinal % maxBlockIndex from
            funext before.blockId_eq]
        exact blocksOrdered_mod (geometry item) before.regular.inWindow }

/-- A power loss in or after an item that fills the page. -/
theorem BeforeAdd.recovers_full
    (before : BeforeAdd item log memory data)
    {words : Nat}
    (within : words ≤ (geometry item).itemWords)
    (visible : hasNoData (data.take (8 * words)) = false)
    (full : log.slot (geometry item) + 1 = (geometry item).capacity) :
    RecoversTo item (ExpectedAfter item log.items data words)
        (applyEffects memory
          (openingEffects item log ++ itemEffects item log data words)) ↔
      log.closed + 1 < (geometry item).nrOfPages := by
  have size := length_tornSlot before.size within
  have oldest := before.regular.oldest_eq
  have page := before.fullPage within visible full
  rw [SegmentedLog.oldest] at oldest
  constructor
  · rintro ⟨after, recovered, _⟩
    by_contra later
    obtain ⟨failure, failed⟩ := page.initItemStore_wrapped
      (show log.closed + 1 = log.oldest + (geometry item).nrOfPages by
        omega)
    rw [recover, failed] at recovered
    cases recovered
  · intro firstTurn
    have recovers := page.recoversAs firstTurn
    have regular := before.regular.add size
    have notLast :
        ¬ (log.openPage.writeSlot (tornSlot item words data)).closed + 1 =
          (log.openPage.writeSlot (tornSlot item words data)).oldest +
            (geometry item).nrOfPages := by
      simp only [StoreLog.writeSlot, StoreLog.openPage]
      omega
    rw [add_eq_finishPage before.regular full, StoreLog.finishPage,
      if_neg notLast] at regular
    exact recovers.recoversTo regular (before.expected_torn visible)

/-- The log after the complete tag of a page is written. -/
theorem BeforeAdd.closed_log
    (before : BeforeAdd item log memory data)
    (full : log.slot (geometry item) + 1 = (geometry item).capacity) :
    (log.openPage.writeSlot data).closePage.WellFormed (geometry item) ∧
      StoreImage item (log.openPage.writeSlot data).closePage
        (applyEffects memory
          (openingEffects item log ++
            (itemEffects item log data (geometry item).itemWords ++
              closeEffects item (log.openPage.writeSlot data)))) := by
  have openForm := regular_openPage before.regular
  have written :=
    openForm.wellFormed.writeSlot rfl openForm.room before.size
  have slots := before.regular.wellFormed.slot_writeSlot data
  have sameItem : tornSlot item (geometry item).itemWords data = data :=
    tornItem_complete before.size rfl
  have image := before.image_torn (Nat.le_refl _)
  rw [sameItem] at image
  have closedImage := image.closePage written rfl
  rw [← applyEffects_append, List.append_assoc] at closedImage
  exact ⟨written.closePage rfl (by rw [slots, full]), closedImage⟩

/-- A power loss between the complete tag and the erase it leads to. -/
theorem BeforeAdd.recovers_closed
    (before : BeforeAdd item log memory data)
    (full : log.slot (geometry item) + 1 = (geometry item).capacity)
    (last : log.closed + 1 = log.oldest + (geometry item).nrOfPages) :
    RecoversTo item
      (ExpectedAfter item log.items data (geometry item).itemWords)
      (applyEffects memory
        (openingEffects item log ++
          (itemEffects item log data (geometry item).itemWords ++
            closeEffects item (log.openPage.writeSlot data)))) := by
  obtain ⟨wellFormed, closedImage⟩ := before.closed_log full
  have recovers := recoversAs_dropOldest wellFormed closedImage
    (hasData_append before.hasData before.dataHasData)
    before.blockId_eq rfl last
  have regular := before.regular.add before.size
  have lastWritten :
      (log.openPage.writeSlot data).closed + 1 =
        (log.openPage.writeSlot data).oldest +
          (geometry item).nrOfPages := last
  rw [add_eq_finishPage before.regular full, StoreLog.finishPage,
    if_pos lastWritten] at regular
  apply recovers.recoversTo regular
  rw [ExpectedAfter, if_pos rfl]
  rfl

/-- A reset after the last operation. -/
theorem BeforeAdd.recovers_all
    (before : BeforeAdd item log memory data)
    (image :
      StoreImage item (log.add (geometry item) data)
        (applyEffects memory (addEffects item log data))) :
    RecoversTo item
        (ExpectedAfter item log.items data (geometry item).itemWords)
        (applyEffects memory (addEffects item log data)) ↔
      ¬ (log.items.length + 1) %
          (maxBlockIndex * (geometry item).capacity) =
            (geometry item).nrOfPages * (geometry item).capacity := by
  have regular := before.regular.add before.size
  have tidy := before.regular.tidy_add before.size
  have length :
      (log.add (geometry item) data).items.length =
        log.items.length + 1 := by
    simp
  have expected : ∀ found,
      ExpectedAfter item log.items data (geometry item).itemWords found ↔
        found = keptItems item (log.items ++ [data]) := by
    intro found
    rw [ExpectedAfter, if_pos rfl]
  rw [← length, ← adjacent_iff regular tidy]
  apply recoversTo_regular_iff regular image
  · rw [StoreLog.items_add]
    exact hasData_append before.hasData before.dataHasData
  · rw [StoreLog.blockId_add]
    exact before.blockId_eq
  · rw [StoreLog.items_add]
    exact (expected _).mpr rfl
  · intro _ found wanted
    rw [(expected found).mp wanted]
    exact keptItems_ne_nil (by simp)

/-- The operations of an add that fills the page. -/
theorem addEffects_full
    (data : List Byte)
    (regular : log.Regular (geometry item))
    (full : log.slot (geometry item) + 1 = (geometry item).capacity) :
    addEffects item log data =
      openingEffects item log ++
        (itemEffects item log data (geometry item).itemWords ++
          finishEffects item (log.openPage.writeSlot data)) := by
  have slots := regular.wellFormed.slot_writeSlot data
  simp only [addEffects, openingEffects]
  rw [slots, if_pos full]

/-- The operations of an add up to the complete tag. -/
theorem take_addEffects_closed
    (data : List Byte)
    (regular : log.Regular (geometry item))
    (full : log.slot (geometry item) + 1 = (geometry item).capacity) :
    (addEffects item log data).take
        ((openingEffects item log).length +
          ((geometry item).itemWords + 1)) =
      openingEffects item log ++
        (itemEffects item log data (geometry item).itemWords ++
          closeEffects item (log.openPage.writeSlot data)) := by
  have words :
      (geometry item).itemWords + 1 =
        (itemEffects item log data (geometry item).itemWords).length +
          1 := by
    simp [itemEffects, length_programEffects]
  rw [addEffects_full data regular full, List.take_length_add_append, words,
    List.take_length_add_append, finishEffects,
    List.take_append_of_le_length
      (by simp [closeEffects, length_programEffects]),
    List.take_of_length_le (by simp [closeEffects, length_programEffects])]

/-- The operations of an add that does not fill the page. -/
theorem addEffects_room
    (data : List Byte)
    (regular : log.Regular (geometry item))
    (more : log.slot (geometry item) + 1 ≠ (geometry item).capacity) :
    addEffects item log data =
      openingEffects item log ++
        itemEffects item log data (geometry item).itemWords := by
  have slots := regular.wellFormed.slot_writeSlot data
  simp only [addEffects, openingEffects]
  rw [slots, if_neg more, List.append_nil]

theorem length_itemEffects (words : Nat) :
    (itemEffects item log data words).length = words := by
  simp [itemEffects, length_programEffects]

theorem length_finishEffects :
    (finishEffects item log).length =
      if log.closed + 1 = log.oldest + (geometry item).nrOfPages then
        2
      else
        1 := by
  rw [finishEffects, closeEffects]
  split <;> simp [eraseEffects]

/-- The last slot of a page in terms of the number of items. -/
theorem full_iff_dvd
    (regular : log.Regular (geometry item)) :
    log.slot (geometry item) + 1 = (geometry item).capacity ↔
      (geometry item).capacity ∣ log.items.length + 1 := by
  have positive := (geometry item).capacity_pos
  have room := regular.room
  have shape := SegmentedLog.length_eq (geometry item).capacity log.items
  rw [← regular.closed_eq, ← regular.slot_eq] at shape
  rw [shape, Nat.add_assoc,
    Nat.dvd_add_right (Nat.dvd_mul_left _ log.closed)]
  constructor
  · intro full
    rw [full]
  · intro divides
    have large := Nat.le_of_dvd (by omega) divides
    omega

/-- When the page is full, later turns are seen in the number of items. -/
theorem later_turn_iff
    (regular : log.Regular (geometry item))
    (full : log.slot (geometry item) + 1 = (geometry item).capacity) :
    (geometry item).nrOfPages * (geometry item).capacity ≤
        log.items.length + 1 ↔
      ¬ log.closed + 1 < (geometry item).nrOfPages := by
  have positive := (geometry item).capacity_pos
  have shape := SegmentedLog.length_eq (geometry item).capacity log.items
  rw [← regular.closed_eq, ← regular.slot_eq] at shape
  have total :
      log.items.length + 1 =
        (log.closed + 1) * (geometry item).capacity := by
    rw [Nat.succ_mul]
    omega
  rw [total, Nat.mul_le_mul_right_iff positive]
  omega

/-- A number of items at which the first page is erased ends a page. -/
theorem dvd_of_adjacent
    {count : Nat}
    (adjacent :
      count % (maxBlockIndex * (geometry item).capacity) =
        (geometry item).nrOfPages * (geometry item).capacity) :
    (geometry item).capacity ∣ count := by
  rw [← Nat.div_add_mod count
    (maxBlockIndex * (geometry item).capacity), adjacent]
  exact Nat.dvd_add
    (Nat.dvd_mul_right_of_dvd (Nat.dvd_mul_left _ _) _)
    (Nat.dvd_mul_left _ _)

/-- The page that the last slot of the next add fills is opened. -/
theorem BeforeAdd.opening_of_full
    (before : BeforeAdd item log memory data)
    (full : log.slot (geometry item) + 1 = (geometry item).capacity) :
    (openingEffects item log).length = 0 := by
  have large := (geometry item).capacity_ge
  rw [openingEffects, if_pos (before.tidy.mpr (by omega))]
  rfl

/-- A power loss within the item is fatal on a full page in later turns. -/
theorem BeforeAdd.fatal_item_iff
    (before : BeforeAdd item log memory data)
    {words : Nat}
    (within : words ≤ (geometry item).itemWords) :
    PowerLossFatal item log.items.length data
        ((openingEffects item log).length + words)
        (addEffects item log data).length ↔
      log.slot (geometry item) + 1 = (geometry item).capacity ∧
        ¬ log.closed + 1 < (geometry item).nrOfPages ∧
        hasNoData (data.take (8 * words)) = false := by
  have regular := before.regular
  have full := full_iff_dvd regular
  have adjacent := adjacent_iff regular before.tidy
  rw [PowerLossFatal]
  constructor
  · rintro (⟨none, atPage⟩ | ⟨all, atPage⟩ | ⟨last, later, _, visible⟩)
    · have notOpened := (adjacent.mpr atPage).1
      rw [openingEffects, notOpened] at none
      simp [openEffects] at none
    · have last := full.mpr (dvd_of_adjacent atPage)
      have length := congrArg List.length (addEffects_full data regular last)
      rw [List.length_append, List.length_append, length_itemEffects,
        length_finishEffects] at length
      split at length <;> omega
    · have isLast := full.mpr last
      have opened := before.opening_of_full isLast
      rw [opened, Nat.zero_add] at visible
      exact ⟨isLast, (later_turn_iff regular isLast).mp later, visible⟩
  · rintro ⟨isLast, later, visible⟩
    have opened := before.opening_of_full isLast
    rw [opened, Nat.zero_add]
    exact Or.inr (Or.inr ⟨full.mp isLast,
      (later_turn_iff regular isLast).mpr later, within, visible⟩)

/-- A reset after a number of operations that ends within the item. -/
theorem BeforeAdd.recovers_item_iff
    (before : BeforeAdd item log memory data)
    {words : Nat}
    (within : words ≤ (geometry item).itemWords) :
    RecoversTo item (ExpectedAfter item log.items data words)
        (applyEffects memory
          ((addEffects item log data).take
            ((openingEffects item log).length + words))) ↔
      ¬ PowerLossFatal item log.items.length data
        ((openingEffects item log).length + words)
        (addEffects item log data).length := by
  rw [before.fatal_item_iff within, take_addEffects_item within]
  cases visible : hasNoData (data.take (8 * words)) with
  | true =>
      have recovers := before.recovers_blank within visible
      simp [recovers]
  | false =>
      by_cases full :
          log.slot (geometry item) + 1 = (geometry item).capacity
      · rw [before.recovers_full within visible full]
        simp [full]
      · have recovers := before.recovers_room within visible full
        simp [recovers, full]

/-- A reset after a number of operations of an add. -/
theorem BeforeAdd.recovers_cut_iff
    (before : BeforeAdd item log memory data)
    (image :
      StoreImage item (log.add (geometry item) data)
        (applyEffects memory (addEffects item log data)))
    {cut : Nat}
    (within : cut ≤ (addEffects item log data).length) :
    RecoversTo item
        (ExpectedAfter item log.items data
          (wordsWritten item log.items.length cut))
        (applyEffects memory ((addEffects item log data).take cut)) ↔
      ¬ PowerLossFatal item log.items.length data cut
        (addEffects item log data).length := by
  have regular := before.regular
  have adjacent := adjacent_iff regular before.tidy
  have words := (geometry item).someWords
  rw [wordsWritten, headerWords_eq regular before.tidy]
  rcases Nat.lt_or_ge cut (openingEffects item log).length
    with none | opened
  · -- nothing is written
    have single : (openingEffects item log).length ≤ 1 := by
      rw [openingEffects]
      cases log.opened <;> simp [openEffects]
    have zero : cut = 0 := by omega
    have total :
        (addEffects item log data).length ≠ 0 := by
      intro empty
      have prefixOf := congrArg List.length
        (@take_addEffects_item item log data 0 (Nat.zero_le _))
      rw [List.length_take, List.length_append, length_itemEffects]
        at prefixOf
      omega
    subst zero
    rw [Nat.zero_sub, Nat.min_zero, List.take_zero, applyEffects_nil,
      before.recovers_none, PowerLossFatal]
    simp [total.symm, hasNoData]
  · obtain ⟨rest, rfl⟩ := Nat.exists_eq_add_of_le opened
    rw [Nat.add_sub_cancel_left]
    rcases Nat.lt_or_ge (geometry item).itemWords rest with beyond | inside
    · -- the complete tag is written
      rw [Nat.min_eq_left (Nat.le_of_lt beyond)]
      by_cases full :
          log.slot (geometry item) + 1 = (geometry item).capacity
      · have shape := addEffects_full data regular full
        have length := congrArg List.length shape
        rw [List.length_append, List.length_append, length_itemEffects,
          length_finishEffects] at length
        have noOpening := before.opening_of_full full
        have notItem : ¬ (openingEffects item log).length + rest ≤
            (geometry item).itemWords := by
          omega
        have someWords : (openingEffects item log).length + rest ≠ 0 := by
          omega
        rw [PowerLossFatal]
        simp only [someWords, false_and, notItem, and_false, or_false,
          false_or]
        by_cases all : (openingEffects item log).length + rest =
            (addEffects item log data).length
        · rw [all, List.take_length, before.recovers_all image]
          simp
        · have last :
              log.closed + 1 = log.oldest + (geometry item).nrOfPages := by
            by_contra notLast
            have notLastWritten :
                ¬ (log.openPage.writeSlot data).closed + 1 =
                  (log.openPage.writeSlot data).oldest +
                    (geometry item).nrOfPages := notLast
            rw [if_neg notLastWritten] at length
            omega
          have restEq : rest = (geometry item).itemWords + 1 := by
            split at length <;> omega
          rw [restEq] at all ⊢
          rw [take_addEffects_closed data regular full]
          simp only [all, false_and, not_false_eq_true, iff_true]
          exact before.recovers_closed full last
      · have shape := addEffects_room data regular full
        have length := congrArg List.length shape
        rw [List.length_append, length_itemEffects] at length
        omega
    · rw [Nat.min_eq_right inside]
      exact before.recovers_item_iff inside

end Cut

/-- One more add after a sequence of adds. -/
theorem addOne_run
    {item : ItemDef}
    {items : List (List Byte)}
    {data : List Byte}
    (sized : ∀ entry ∈ items, entry.length = (geometry item).itemSize)
    (hasData : ∀ entry ∈ items, hasNoData entry = false)
    (size : data.length = (geometry item).itemSize)
    (dataHasData : hasNoData data = false) :
    ∃ before after,
      runFromErased item items = .ok (before, true) ∧
      addItemCompleted before item data = .ok (after, true) ∧
      after.flash.history =
        before.flash.history ++
          addEffects item (StoreLog.ofItems (geometry item) items) data ∧
      BeforeAdd item (StoreLog.ofItems (geometry item) items)
        before.flash.memory data ∧
      StoreImage item
        ((StoreLog.ofItems (geometry item) items).add (geometry item) data)
        (applyEffects before.flash.memory
          (addEffects item (StoreLog.ofItems (geometry item) items)
            data)) := by
  obtain ⟨before, run, tracks⟩ := runFromErased_tracks sized
  have regular := StoreLog.regular_ofItems sized
  obtain ⟨after, added, afterTracks, frame⟩ :=
    addItemCompleted_tracks tracks regular.spacious size
  have image := afterTracks.image
  rw [frame.memory] at image
  exact ⟨before, after, run, added, frame.history,
    { regular := regular
      tidy := StoreLog.tidy_ofItems sized
      image := tracks.image
      blockId_eq := StoreLog.blockId_ofItems items
      hasData := by rw [StoreLog.items_ofItems]; exact hasData
      size := size
      dataHasData := dataHasData }, image⟩

/--
After any number of adds and any prefix of the flash operations of one more
add, among them the double words of the item, a reset recovers the store if and
only if the power loss is not one of the fatal ones.
-/
theorem recovers_from_power_loss_iff
    (item : ItemDef)
    (items : List (List Byte))
    (data : List Byte)
    (sized : ∀ entry ∈ items, entry.length = (geometry item).itemSize)
    (hasData : ∀ entry ∈ items, hasNoData entry = false)
    (size : data.length = (geometry item).itemSize)
    (dataHasData : hasNoData data = false) :
    ∃ before after effects,
      runFromErased item items = .ok (before, true) ∧
      addItemCompleted before item data = .ok (after, true) ∧
      after.flash.history = before.flash.history ++ effects ∧
      (geometry item).itemWords ≤ effects.length ∧
      ∀ cut, cut ≤ effects.length →
        (RecoversTo item
            (ExpectedAfter item items data
              (wordsWritten item items.length cut))
            (applyEffects before.flash.memory (effects.take cut)) ↔
          ¬ PowerLossFatal item items.length data cut
            effects.length) := by
  obtain ⟨before, after, run, added, history, beforeAdd, image⟩ :=
    addOne_run sized hasData size dataHasData
  refine ⟨before, after, _, run, added, history, itemWords_le_addEffects, ?_⟩
  intro cut within
  have recovers := beforeAdd.recovers_cut_iff image within
  rw [StoreLog.items_ofItems] at recovers
  exact recovers

/--
A reset after five of the 16 double words of a record, on the page that the
first one of the ring was erased for.
-/
theorem recovers_from_power_loss_iff_seventy :
    ∃ before after effects,
      runFromErased .systemConfig (numbered 70) = .ok (before, true) ∧
      addItemCompleted before .systemConfig (List.replicate 128 70) =
        .ok (after, true) ∧
      after.flash.history = before.flash.history ++ effects ∧
      5 ≤ effects.length ∧
      RecoversTo .systemConfig
        (ExpectedAfter .systemConfig (numbered 70) (List.replicate 128 70) 5)
        (applyEffects before.flash.memory (effects.take 5)) := by
  obtain ⟨before, after, effects, run, added, history, long, recovers⟩ :=
    recovers_from_power_loss_iff .systemConfig (numbered 70)
      (List.replicate 128 70) (numbered_sized 70) (numbered_hasData 70)
      (by rw [List.length_replicate]; rfl) rfl
  have words : (geometry .systemConfig).itemWords = 16 := rfl
  have within : 5 ≤ effects.length := by omega
  rw [length_numbered] at recovers
  refine ⟨before, after, effects, run, added, history, within,
    (recovers 5 within).mpr ?_⟩
  rintro (⟨none, _⟩ | ⟨_, adjacent⟩ | ⟨divides, _⟩)
  · cases none
  · exact absurd adjacent (by decide)
  · exact absurd divides (by decide)

/--
A reset after the last double word of settings record 62, before its complete
tag: the boot fails an assertion.
-/
theorem recovers_from_power_loss_not_62 :
    ∃ before after effects,
      runFromErased .systemConfig
          (List.replicate 61 (List.replicate 128 0)) =
        .ok (before, true) ∧
      addItemCompleted before .systemConfig (List.replicate 128 0) =
        .ok (after, true) ∧
      after.flash.history = before.flash.history ++ effects ∧
      16 ≤ effects.length ∧
      ¬ RecoversTo .systemConfig
          (ExpectedAfter .systemConfig
            (List.replicate 61 (List.replicate 128 0))
            (List.replicate 128 0)
            (wordsWritten .systemConfig
              (List.replicate 61 (List.replicate 128 (0 : Byte))).length
              16))
          (applyEffects before.flash.memory (effects.take 16)) := by
  have sized :
      ∀ entry ∈ List.replicate 61 (List.replicate 128 (0 : Byte)),
        entry.length = (geometry .systemConfig).itemSize := by
    intro entry member
    rw [List.eq_of_mem_replicate member, List.length_replicate]
    rfl
  have hasData :
      ∀ entry ∈ List.replicate 61 (List.replicate 128 (0 : Byte)),
        hasNoData entry = false := by
    intro entry member
    rw [List.eq_of_mem_replicate member]
    rfl
  obtain ⟨before, after, run, added, history, beforeAdd, image⟩ :=
    @addOne_run _ _ (List.replicate 128 0) sized hasData
      (by rw [List.length_replicate]; rfl) rfl
  have long :
      16 ≤ (addEffects .systemConfig
        (StoreLog.ofItems (geometry .systemConfig)
          (List.replicate 61 (List.replicate 128 0)))
        (List.replicate 128 0)).length :=
    @itemWords_le_addEffects .systemConfig _ _
  refine ⟨before, after, _, run, added, history, long, ?_⟩
  have recovers := beforeAdd.recovers_cut_iff image long
  rw [StoreLog.items_ofItems] at recovers
  rw [recovers, not_not, List.length_replicate]
  exact Or.inr (Or.inr (by decide))

end DemoBoard.ItemStore
