import DemoBoard.ItemStoreRecovery

namespace DemoBoard.ItemStore

open ByteMemory

/-!
# Restarted block ids

A reset that finds the first flash page erased restarts the block ids at 0.
When the pages before it are at least two turns of the ring behind, all block
ids still compare like the ordinals, so that the log survives further adds and
resets.  Only a restart next to a page that announces one turn is ambiguous.
-/

/--
Block ids that count from `base`, where they were restarted; the page before it
announced another block id.
-/
structure Numbered
    (geometry : StoreGeometry) (log : StoreLog) (base announced : Nat) :
    Prop where
  base_le : base ≤ log.closed
  whole : geometry.nrOfPages ∣ base
  later : ∀ ordinal, base ≤ ordinal →
    log.blockId ordinal = (ordinal - base) % maxBlockIndex
  earlier : ∀ ordinal, log.oldest ≤ ordinal → ordinal < base →
    log.blockId ordinal + (base - ordinal) = announced
  behind : log.oldest < base →
    2 * geometry.nrOfPages ≤ announced ∧ announced < maxBlockIndex

/-- Block ids that were never restarted. -/
theorem numbered_of_counted
    {geometry : StoreGeometry}
    {log : StoreLog}
    (blockId_eq :
      ∀ ordinal, log.blockId ordinal = ordinal % maxBlockIndex) :
    Numbered geometry log 0 0 where
  base_le := Nat.zero_le _
  whole := Nat.dvd_zero _
  later := fun ordinal _ => blockId_eq ordinal
  earlier := fun _ _ before => absurd before (Nat.not_lt_zero _)
  behind := fun before => absurd before (Nat.not_lt_zero _)

/-- The log whose current page restarts the block ids. -/
def renumber (log : StoreLog) : StoreLog :=
  { log with
    blockId := fun ordinal =>
      if ordinal < log.closed then
        log.blockId ordinal
      else
        (ordinal - log.closed) % maxBlockIndex }

section Restart

variable {item : ItemDef}
variable {log : StoreLog}
variable {base announced : Nat}

theorem regular_renumber
    (regular : log.Regular (geometry item)) :
    (renumber log).Regular (geometry item) where
  wellFormed :=
    { regular.wellFormed with
      blockId_lt := by
        intro ordinal
        simp only [renumber]
        split
        · exact regular.wellFormed.blockId_lt ordinal
        · exact Nat.mod_lt _ (by decide)
      blockId_succ := by
        intro ordinal later
        simp only [renumber] at later ⊢
        rw [if_neg (by omega), if_neg (by omega), Nat.mod_add_mod]
        congr 1
        omega }
  room := regular.room
  oldest_eq := regular.oldest_eq

/-- Renumbering pages that are not in use changes no tag. -/
theorem image_renumber
    {memory : Memory}
    (notOpened : log.opened = false)
    (image : StoreImage item log memory) :
    StoreImage item (renumber log) memory := by
  intro ordinal lower upper
  have holds := image ordinal lower upper
  have header : headerOf item (renumber log) ordinal =
      headerOf item log ordinal := by
    by_cases closed : ordinal < log.closed
    · rw [headerOf_closed item closed,
        headerOf_closed item (show ordinal < (renumber log).closed from
          closed)]
      simp [beginTagOf, completeTagOf, renumber, closed]
    · simp [headerOf, renumber, closed, notOpened]
  rw [header]
  exact holds

/-- The ordinal in the first flash page when that page is not in use. -/
theorem firstOrdinal_notInUse
    (regular : log.Regular (geometry item))
    (notInUse : ¬ InUse log (firstOrdinal item log)) :
    firstOrdinal item log = log.closed ∧ log.opened = false := by
  have bounds := firstOrdinal_bounds item log
  have oldest := regular.oldest_eq
  rw [SegmentedLog.oldest] at oldest
  have several := (geometry item).severalPages
  have later : log.closed ≤ firstOrdinal item log := by
    by_contra earlier
    exact notInUse (Or.inl (by omega))
  have same : firstOrdinal item log = log.closed := by
    by_cases unwrapped : log.oldest = 0
    · have first : firstOrdinal item log = 0 :=
        SegmentedLog.eq_of_same_place bounds.1 bounds.2.1
          (by omega) (by omega) (by rw [bounds.2.2, Nat.zero_mod])
      omega
    · omega
  refine ⟨same, ?_⟩
  by_contra opened
  exact notInUse (Or.inr ⟨same, Bool.eq_true_of_not_eq_false opened⟩)

/-- Adding an item opens later pages only. -/
theorem Numbered.add
    (numbered : Numbered (geometry item) log base announced)
    (regular : log.Regular (geometry item))
    {data : List Byte}
    (size : data.length = (geometry item).itemSize) :
    Numbered (geometry item) (log.add (geometry item) data) base
      announced := by
  have added := regular.add size
  have closed : log.closed ≤ (log.add (geometry item) data).closed := by
    rw [regular.closed_eq, added.closed_eq, StoreLog.items_add]
    apply Nat.div_le_div_right
    rw [List.length_append]
    exact Nat.le_add_right _ _
  have oldest : log.oldest ≤ (log.add (geometry item) data).oldest := by
    rw [regular.oldest_eq, added.oldest_eq, SegmentedLog.oldest,
      SegmentedLog.oldest]
    omega
  exact
    { base_le := numbered.base_le.trans closed
      whole := numbered.whole
      later := by
        rw [StoreLog.blockId_add]
        exact numbered.later
      earlier := by
        intro ordinal lower upper
        rw [StoreLog.blockId_add]
        exact numbered.earlier ordinal (oldest.trans lower) upper
      behind := fun before =>
        numbered.behind (Nat.lt_of_le_of_lt oldest before) }

/-- The block ids in the window compare like the ordinals. -/
theorem Numbered.ordered
    (numbered : Numbered (geometry item) log base announced)
    (regular : log.Regular (geometry item)) :
    BlocksOrdered (geometry item).nrOfPages log.blockId log.oldest
      log.closed := by
  intro early late lower between upper
  have window := regular.inWindow
  have few := (geometry item).fewPages
  simp only [maxBlockIndex] at few
  by_cases counted : base ≤ early
  · have both := blocksOrdered_mod (geometry item)
      (show log.closed - base <
          log.oldest - base + (geometry item).nrOfPages by omega)
      (early - base) (late - base) (by omega) (by omega) (by omega)
    rw [numbered.later early counted,
      numbered.later late (by omega)]
    exact both
  · have behind := numbered.behind (by omega)
    have earlyId := numbered.earlier early lower (by omega)
    simp only [maxBlockIndex] at behind
    by_cases restarted : base ≤ late
    · have lateId := numbered.later late restarted
      simp only [maxBlockIndex] at lateId
      simp only [isNewer, isOlder, decide_eq_true_eq,
        decide_eq_false_iff_not]
      omega
    · have lateId := numbered.earlier late (by omega) (by omega)
      simp only [isNewer, isOlder, decide_eq_true_eq,
        decide_eq_false_iff_not]
      omega

/-- Block ids are recovered unless the first page is erased and not at 0. -/
theorem Numbered.recoverable
    (numbered : Numbered (geometry item) log base announced)
    (regular : log.Regular (geometry item))
    (hasData :
      ∀ data ∈ pageItems item log log.closed, hasNoData data = false)
    (restart : ¬ InUse log (firstOrdinal item log) →
      log.blockId log.closed = 0) :
    Recoverable item log where
  hasData := hasData
  ordered := numbered.ordered regular
  restart := by
    intro notInUse
    rw [(firstOrdinal_notInUse regular notInUse).1]
    exact restart notInUse
  blockId_eq := by
    intro _ positive different
    have bounds := firstOrdinal_bounds item log
    have notBase : base ≠ log.closed := by
      rintro rfl
      exact different (SegmentedLog.eq_of_same_place bounds.1 bounds.2.1
        regular.wellFormed.oldest_le regular.inWindow
        (by rw [bounds.2.2, Nat.mod_eq_zero_of_dvd numbered.whole]))
    have before := numbered.base_le
    rw [numbered.later _ before, numbered.later _ (by omega),
      Nat.mod_add_mod]
    congr 1
    omega

/-- A restart at least two turns late. -/
theorem Numbered.renumber
    (numbered : Numbered (geometry item) log base announced)
    (regular : log.Regular (geometry item))
    (whole : (geometry item).nrOfPages ∣ log.closed)
    (late : 2 * (geometry item).nrOfPages ≤ log.blockId log.closed) :
    Numbered (geometry item) (renumber log) log.closed
      (log.blockId log.closed) where
  base_le := Nat.le_refl _
  whole := whole
  later := by
    intro ordinal after
    simp only [ItemStore.renumber, if_neg (Nat.not_lt.mpr after)]
  earlier := by
    intro ordinal lower upper
    have window := regular.inWindow
    have before := numbered.base_le
    simp only [ItemStore.renumber] at lower ⊢
    rw [numbered.later _ before] at late ⊢
    rw [if_pos upper]
    simp only [maxBlockIndex] at late ⊢
    rw [numbered.later _ (by omega)]
    simp only [maxBlockIndex]
    omega
  behind := fun _ => ⟨late, regular.wellFormed.blockId_lt _⟩

/-- The first flash page is erased and its block id is one turn. -/
def RestartAmbiguous (item : ItemDef) (log : StoreLog) : Prop :=
  ¬ InUse log (firstOrdinal item log) ∧
    log.blockId log.closed = (geometry item).nrOfPages

/-- `InitItemStore` after any number of adds and resets. -/
theorem initItemStore_numbered
    {state : ItemStoreState}
    (fresh : Fresh item state)
    (regular : log.Regular (geometry item))
    (image : StoreImage item log state.flash.memory)
    (numbered : Numbered (geometry item) log base announced)
    (hasData :
      ∀ data ∈ pageItems item log log.closed, hasNoData data = false)
    (clear : ¬ RestartAmbiguous item log) :
    ∃ found after foundBase foundAnnounced,
      initItemStore state item = .ok after ∧
      Tracks item found 0 after ∧
      Extends item [] state after ∧
      found.Regular (geometry item) ∧
      Numbered (geometry item) found foundBase foundAnnounced ∧
      found.items = log.items := by
  by_cases restart : ¬ InUse log (firstOrdinal item log) →
      log.blockId log.closed = 0
  · obtain ⟨after, booted, tracks, extended⟩ :=
      initItemStore_regular fresh regular image
        (numbered.recoverable regular hasData restart)
    exact ⟨log, after, base, announced, booted, tracks, extended, regular,
      numbered, rfl⟩
  · obtain ⟨notInUse, notZero⟩ := Classical.not_imp.mp restart
    obtain ⟨same, notOpened⟩ := firstOrdinal_notInUse regular notInUse
    have place := (firstOrdinal_bounds item log).2.2
    rw [same] at place
    have whole := Nat.dvd_of_mod_eq_zero place
    have late : 2 * (geometry item).nrOfPages ≤
        log.blockId log.closed := by
      have notOne : log.blockId log.closed ≠ (geometry item).nrOfPages :=
        fun one => clear ⟨notInUse, one⟩
      have divides :
          (geometry item).nrOfPages ∣ log.blockId log.closed := by
        rw [numbered.later _ numbered.base_le,
          Nat.dvd_mod_iff (geometry item).wholeCycles]
        exact Nat.dvd_sub whole numbered.whole
      obtain ⟨turns, shape⟩ := divides
      rw [shape] at notZero notOne ⊢
      rw [Nat.mul_comm]
      apply Nat.mul_le_mul_left
      by_contra few
      rcases Nat.lt_or_ge turns 1 with none | one
      · exact notZero (by rw [Nat.lt_one_iff.mp none, Nat.mul_zero])
      · exact notOne (by
          rw [show turns = 1 by omega, Nat.mul_one])
    have renumbered := numbered.renumber regular whole late
    obtain ⟨after, booted, tracks, extended⟩ :=
      initItemStore_regular fresh (regular_renumber regular)
        (image_renumber notOpened image)
        (renumbered.recoverable (regular_renumber regular) hasData
          (fun _ => by simp [ItemStore.renumber]))
    exact ⟨ItemStore.renumber log, after, _, _, booted, tracks, extended,
      regular_renumber regular, renumbered, rfl⟩

end Restart

end DemoBoard.ItemStore
