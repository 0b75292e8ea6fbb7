import DemoBoard.ItemStoreEnumeration

namespace DemoBoard.ItemStore

open ByteMemory

/-!
# Which start indices an enumeration honours

An enumeration should deliver the stored items from its start index on.  The
start search stays on a page when it skips exactly the items of that page, and
the item count of a page that was just closed is still added to the total, so
that some start indices are not honoured.  Both effects are exact here.
-/

/-- `BeginEnumerate` is ready and the items delivered are exactly these. -/
def EnumeratesExactly
    (state : ItemStoreState) (item : ItemDef) (startIndex : Int)
    (items : List (List Byte)) : Prop :=
  let outcome := beginEnumerate state item (enumeratorFrom startIndex)
  outcome.2.2 = true ∧ Delivers outcome.1 outcome.2.1 items

/-- The items that are on flash after a sequence of adds. -/
def keptItems (item : ItemDef) (items : List (List Byte)) :
    List (List Byte) :=
  items.drop
    (items.length - retainedCount (geometry item) items.length)

/-- The first item a client asks for with a start index. -/
def firstWanted (kept : Nat) (startIndex : Int) : Nat :=
  if startIndex < 0 then
    ((kept : Int) + startIndex).toNat
  else
    startIndex.toNat

section Suffix

variable {item : ItemDef}
variable {log : StoreLog}
variable {stale : Nat}
variable {state : ItemStoreState}

/-- The items an enumeration delivers, as a function of what it skips. -/
theorem enumeratesExactly_iff
    (tracks : Tracks item log stale state)
    (spacious : log.Spacious (geometry item))
    (staleLe : stale ≤ (geometry item).capacity)
    (startIndex : Int)
    {skipped : Nat}
    (skip :
      itemsToSkip (announcedItems item log stale) startIndex = skipped)
    (some : skipped < announcedItems item log stale)
    (enough :
      announcedItems item log stale ≤
          (log.retained (geometry item)).length ∨
        log.opened = false)
    (suffix : List (List Byte)) :
    EnumeratesExactly state item startIndex suffix ↔
      Startable item log skipped ∧
        suffix =
          ((log.retained (geometry item)).drop
            (startItem (geometry item).capacity skipped)).take
              (announcedItems item log stale - skipped) := by
  by_cases startable : Startable item log skipped
  · obtain ⟨page, slot, next, enumerator, begun, reading, more, inside,
        position⟩ :=
      beginEnumerate_ready tracks spacious staleLe startIndex skip
        startable
    have startLe :
        startItem (geometry item).capacity skipped ≤ skipped := by
      rw [startItem]
      split <;> omega
    have kept := SegmentedLog.length_retained (geometry item).capacity
      log.oldest log.items
    rw [← StoreLog.retained] at kept
    have delivered := reading.delivers spacious
      (announcedItems_lt spacious staleLe)
      (announcedItems item log stale - skipped) (by omega)
      (by rw [more, eq_comm, decide_eq_true_eq]; omega)
      (Nat.le_of_lt inside)
      (enough.imp_left fun bound => by omega)
    rw [position, ← List.drop_drop] at delivered
    rw [EnumeratesExactly, begun]
    constructor
    · rintro ⟨_, suffixDelivered⟩
      exact ⟨startable, suffixDelivered.unique delivered⟩
    · rintro ⟨_, same⟩
      rw [same]
      exact ⟨rfl, delivered⟩
  · have notReady := beginEnumerate_notReady tracks spacious staleLe
      startIndex skip startable
    constructor
    · rintro ⟨ready, _⟩
      rw [notReady] at ready
      cases ready
    · rintro ⟨contradiction, _⟩
      exact (startable contradiction).elim

/-- The retained part of a regular log are the newest items. -/
theorem retained_eq_keptItems
    (regular : log.Regular (geometry item)) :
    log.retained (geometry item) = keptItems item log.items := by
  rw [keptItems, length_sub_retainedCount regular]
  rfl

/-- A list equals an earlier part of itself when it repeats itself. -/
theorem drop_eq_take_drop_iff
    {Entry : Type}
    (entries : List Entry)
    {first shift : Nat}
    (shiftLe : shift ≤ first)
    (firstLe : first ≤ entries.length) :
    entries.drop first =
        (entries.drop (first - shift)).take (entries.length - first) ↔
      ∀ index, first ≤ index → index < entries.length →
        entries[index]? = entries[index - shift]? := by
  constructor
  · intro same index lower upper
    have atIndex := congrArg (·[index - first]?) same
    simp only [List.getElem?_drop] at atIndex
    rw [List.getElem?_take_of_lt (by omega), List.getElem?_drop]
      at atIndex
    rw [show first + (index - first) = index by omega,
      show first - shift + (index - first) = index - shift by omega]
      at atIndex
    exact atIndex
  · intro repeats
    apply List.ext_getElem?
    intro index
    rw [List.getElem?_drop]
    by_cases inside : first + index < entries.length
    · rw [List.getElem?_take_of_lt (by omega), List.getElem?_drop,
        repeats (first + index) (by omega) inside]
      congr 1
      omega
    · rw [List.getElem?_eq_none (by omega), List.getElem?_eq_none]
      rw [List.length_take, List.length_drop]
      omega

/-- With items to spare the delivered list decides where it starts. -/
theorem drop_eq_take_startItem_iff
    {Entry : Type}
    (entries : List Entry)
    {capacity first : Nat}
    (positive : 0 < capacity)
    (before : first < entries.length) :
    entries.drop first =
        (entries.drop (startItem capacity first)).take
          (entries.length + capacity - first) ↔
      first = 0 ∨ ¬ capacity ∣ first := by
  by_cases pageStart : capacity ∣ first
  · rw [startItem, if_pos pageStart, List.take_of_length_le
      (by rw [List.length_drop]; omega)]
    constructor
    · intro same
      have lengths := congrArg List.length same
      simp only [List.length_drop] at lengths
      omega
    · rintro (zero | notDivides)
      · rw [zero, Nat.zero_sub]
      · exact (notDivides pageStart).elim
  · rw [startItem, if_neg pageStart, List.take_of_length_le
      (by rw [List.length_drop]; omega)]
    simp [pageStart]

/-- The same for a number of items counted from the end. -/
theorem drop_sub_eq_take_startItem_iff
    {Entry : Type}
    (entries : List Entry)
    {capacity back : Nat}
    (positive : 0 < capacity)
    (backPositive : 0 < back)
    (wholePages : capacity ∣ entries.length) :
    (entries.length + capacity - back ≤ entries.length ∧
      entries.drop (entries.length - back) =
        (entries.drop
          (startItem capacity (entries.length + capacity - back))).take
            (entries.length + capacity -
              (entries.length + capacity - back))) ↔
      capacity ∣ back ∨ entries.length + capacity ≤ back := by
  by_cases beyond : entries.length + capacity ≤ back
  · have skip : entries.length + capacity - back = 0 := by omega
    rw [skip, startItem, if_pos (Nat.dvd_zero _), Nat.zero_sub,
      show entries.length - back = 0 by omega,
      List.take_of_length_le (by rw [List.length_drop]; omega)]
    simp [beyond]
  · have wholeTotal : capacity ∣ entries.length + capacity :=
      Nat.dvd_add wholePages (Nat.dvd_refl _)
    have take :
        entries.length + capacity -
          (entries.length + capacity - back) = back := by
      omega
    rw [take]
    by_cases pageStart : capacity ∣ back
    · have skipWhole := Nat.dvd_sub wholeTotal pageStart
      have large := Nat.le_of_dvd backPositive pageStart
      have skipLarge := Nat.le_of_dvd (by omega) skipWhole
      rw [startItem, if_pos skipWhole,
        show entries.length + capacity - back - capacity =
          entries.length - back by omega,
        List.take_of_length_le (by rw [List.length_drop]; omega)]
      simp only [and_true, pageStart, true_or, iff_true]
      omega
    · have skipPart :
          ¬ capacity ∣ entries.length + capacity - back := by
        intro divides
        apply pageStart
        have rest := Nat.dvd_sub wholeTotal divides
        rwa [take] at rest
      rw [startItem, if_neg skipPart]
      constructor
      · rintro ⟨_, same⟩
        have lengths := congrArg List.length same
        simp only [List.length_drop, List.length_take] at lengths
        omega
      · rintro (divides | contradiction)
        · exact (pageStart divides).elim
        · exact (beyond contradiction).elim

/-- What is skipped when the announced count is right. -/
theorem itemsToSkip_eq_firstWanted
    {total : Nat}
    (small : total < 65536)
    {startIndex : Int}
    (inRange : startIndex < total) :
    itemsToSkip total startIndex = firstWanted total startIndex := by
  rw [itemsToSkip, firstWanted]
  by_cases negative : startIndex < 0
  · rw [if_pos negative, if_pos negative]
    by_cases positive : (total : Int) + startIndex > 0
    · rw [if_pos positive, Int.emod_eq_of_lt (by omega) (by omega)]
    · rw [if_neg positive]
      omega
  · rw [if_neg negative, if_neg negative,
      Int.emod_eq_of_lt (by omega) (by omega)]

/-- Start indices while the announced number of items is right. -/
theorem enumeratesExactly_exact
    (tracks : Tracks item log stale state)
    (regular : log.Regular (geometry item))
    (staleLe : stale ≤ (geometry item).capacity)
    (exact :
      announcedItems item log stale =
        (log.retained (geometry item)).length)
    {startIndex : Int}
    (inRange : startIndex < (log.retained (geometry item)).length)
    (someItem : 0 < (log.retained (geometry item)).length) :
    EnumeratesExactly state item startIndex
        ((log.retained (geometry item)).drop
          (firstWanted (log.retained (geometry item)).length startIndex)) ↔
      firstWanted (log.retained (geometry item)).length startIndex = 0 ∨
        ¬ (geometry item).capacity ∣
          firstWanted (log.retained (geometry item)).length startIndex ∨
        ∀ index,
          firstWanted (log.retained (geometry item)).length startIndex ≤
            index →
          index < (log.retained (geometry item)).length →
            (log.retained (geometry item))[index]? =
              (log.retained (geometry item))[
                index - (geometry item).capacity]? := by
  have small := announcedItems_lt regular.spacious staleLe
  have skip :
      itemsToSkip (announcedItems item log stale) startIndex =
        firstWanted (log.retained (geometry item)).length startIndex := by
    rw [exact] at small ⊢
    exact itemsToSkip_eq_firstWanted small inRange
  have before :
      firstWanted (log.retained (geometry item)).length startIndex <
        (log.retained (geometry item)).length := by
    rw [firstWanted]
    split <;> omega
  have delivered := enumeratesExactly_iff tracks regular.spacious staleLe
    startIndex skip (by omega) (Or.inl (Nat.le_of_eq exact))
  rw [delivered, exact]
  have startable : Startable item log
      (firstWanted (log.retained (geometry item)).length startIndex) :=
    Or.inl before
  simp only [startable, true_and]
  generalize firstWanted (log.retained (geometry item)).length startIndex =
    first at before ⊢
  generalize log.retained (geometry item) = kept at before ⊢
  by_cases pageStart : (geometry item).capacity ∣ first ∧ first ≠ 0
  · have large := Nat.le_of_dvd (by omega) pageStart.1
    rw [startItem, if_pos pageStart.1,
      drop_eq_take_drop_iff kept large (by omega)]
    constructor
    · intro repeats
      exact Or.inr (Or.inr repeats)
    · rintro (zero | notDivides | repeats)
      · exact (pageStart.2 zero).elim
      · exact (notDivides pageStart.1).elim
      · exact repeats
  · have sameStart :
        startItem (geometry item).capacity first = first := by
      rw [startItem]
      split
      · next divides =>
          have zero : first = 0 := by
            by_contra positive
            exact pageStart ⟨divides, positive⟩
          omega
      · rfl
    rw [sameStart, List.take_of_length_le (by simp)]
    simp only [true_iff]
    by_cases zero : first = 0
    · exact Or.inl zero
    · exact Or.inr (Or.inl fun divides => pageStart ⟨divides, zero⟩)

/-- Start indices while the count of a just closed page is left over. -/
theorem enumeratesExactly_stale
    (tracks : Tracks item log (geometry item).capacity state)
    (regular : log.Regular (geometry item))
    (notOpened : log.opened = false)
    (someClosed : log.oldest < log.closed)
    {startIndex : Int}
    (inRange : startIndex < (log.retained (geometry item)).length) :
    EnumeratesExactly state item startIndex
        ((log.retained (geometry item)).drop
          (firstWanted (log.retained (geometry item)).length startIndex)) ↔
      if 0 ≤ startIndex then
        startIndex = 0 ∨ ¬ ((geometry item).capacity : Int) ∣ startIndex
      else
        ((geometry item).capacity : Int) ∣ startIndex ∨
          startIndex ≤
            -((log.retained (geometry item)).length +
              (geometry item).capacity : Int) := by
  have positive := (geometry item).capacity_pos
  have small := announcedItems_lt regular.spacious (Nat.le_refl _)
  have kept := @length_retained item log regular.wellFormed
  rw [currentItems, if_neg (by simp [notOpened]), Nat.add_zero] at kept
  have total :
      announcedItems item log (geometry item).capacity =
        (log.retained (geometry item)).length +
          (geometry item).capacity := by
    rw [announcedItems, pageCount, if_pos rfl,
      if_neg (by simp [notOpened]), kept, closedItems]
    omega
  have wholePages :
      (geometry item).capacity ∣ (log.retained (geometry item)).length := by
    rw [kept, closedItems]
    exact Nat.dvd_mul_left _ _
  have someItem : 0 < (log.retained (geometry item)).length := by
    rw [kept, closedItems]
    exact Nat.mul_pos (by omega) positive
  have startable : ∀ skipped, Startable item log skipped ↔
      skipped ≤ (log.retained (geometry item)).length := by
    intro skipped
    rw [Startable, ← kept]
    omega
  rw [total] at small
  by_cases fromStart : 0 ≤ startIndex
  · rw [if_pos fromStart]
    have skip :
        itemsToSkip (announcedItems item log (geometry item).capacity)
            startIndex = startIndex.toNat := by
      rw [itemsToSkip, if_neg (by omega),
        Int.emod_eq_of_lt fromStart (by omega)]
    rw [enumeratesExactly_iff tracks regular.spacious (Nat.le_refl _) startIndex
      skip (by omega) (Or.inr notOpened), startable, firstWanted,
      if_neg (by omega), total]
    obtain ⟨first, rfl⟩ := Int.eq_ofNat_of_zero_le fromStart
    simp only [Int.toNat_natCast]
    rw [drop_eq_take_startItem_iff _ positive (by omega),
      Int.natCast_dvd_natCast]
    constructor
    · rintro ⟨_, zero | notDivides⟩
      · exact Or.inl (by omega)
      · exact Or.inr notDivides
    · rintro (zero | notDivides)
      · exact ⟨by omega, Or.inl (by omega)⟩
      · exact ⟨by omega, Or.inr notDivides⟩
  · rw [if_neg fromStart]
    obtain ⟨back, rfl⟩ : ∃ back : Nat, startIndex = -(back : Int) :=
      ⟨(-startIndex).toNat, by omega⟩
    have skip :
        itemsToSkip (announcedItems item log (geometry item).capacity)
            (-(back : Int)) =
          (log.retained (geometry item)).length +
            (geometry item).capacity - back := by
      rw [itemsToSkip, if_pos (by omega), total]
      split
      · rw [Int.emod_eq_of_lt (by omega) (by omega)]
        omega
      · omega
    have wanted :
        firstWanted (log.retained (geometry item)).length (-(back : Int)) =
          (log.retained (geometry item)).length - back := by
      rw [firstWanted, if_pos (by omega)]
      omega
    rw [enumeratesExactly_iff tracks regular.spacious (Nat.le_refl _) _ skip
      (by omega) (Or.inr notOpened), startable, wanted, total,
      drop_sub_eq_take_startItem_iff _ positive (by omega) wholePages,
      Int.dvd_neg, Int.natCast_dvd_natCast]
    constructor
    · rintro (divides | beyond)
      · exact Or.inl divides
      · exact Or.inr (by omega)
    · rintro (divides | beyond)
      · exact Or.inl divides
      · exact Or.inr (by omega)

/-- Without a left-over count the announced number of items is right. -/
theorem announcedItems_exact
    (spacious : log.Spacious (geometry item))
    (fresh : log.opened = true ∨ stale = 0) :
    announcedItems item log stale =
      (log.retained (geometry item)).length := by
  rw [length_retained spacious.wellFormed, announcedItems, pageCount,
    if_pos rfl, closedItems, currentItems]
  rcases fresh with opened | none
  · rw [if_pos opened, if_pos opened, Nat.add_comm]
  · rw [none, Nat.add_comm]

end Suffix

/-- Start indices while the current page has items. -/
theorem runFromErased_opened
    {item : ItemDef}
    {items : List (List Byte)}
    (sized : ∀ data ∈ items, data.length = (geometry item).itemSize)
    (partly : items.length % (geometry item).capacity ≠ 0) :
    ∃ state,
      runFromErased item items = .ok (state, true) ∧
      ∀ startIndex : Int,
        startIndex < (keptItems item items).length →
        (EnumeratesExactly state item startIndex
            ((keptItems item items).drop
              (firstWanted (keptItems item items).length startIndex)) ↔
          firstWanted (keptItems item items).length startIndex = 0 ∨
            ¬ (geometry item).capacity ∣
              firstWanted (keptItems item items).length startIndex ∨
            ∀ index,
              firstWanted (keptItems item items).length startIndex ≤
                index →
              index < (keptItems item items).length →
                (keptItems item items)[index]? =
                  (keptItems item items)[
                    index - (geometry item).capacity]?) := by
  obtain ⟨state, run, tracks⟩ := runFromErased_tracks sized
  have regular := StoreLog.regular_ofItems sized
  have opened := (StoreLog.opened_ofItems sized).mpr partly
  have kept := retained_eq_keptItems regular
  rw [StoreLog.items_ofItems] at kept
  have length := @length_retained item _ regular.wellFormed
  have slots := regular.slot_eq
  rw [SegmentedLog.used, StoreLog.items_ofItems] at slots
  rw [currentItems, if_pos opened, slots, kept] at length
  refine ⟨state, run, ?_⟩
  intro startIndex inRange
  have delivered := enumeratesExactly_exact (tracks.opened opened 0)
    regular (Nat.zero_le _) (announcedItems_exact regular.spacious (Or.inr rfl))
    (by rw [kept]; exact inRange) (by rw [kept]; omega)
  rw [kept] at delivered
  exact delivered

/-- Start indices while the last add has closed a page. -/
theorem runFromErased_closed
    {item : ItemDef}
    {items : List (List Byte)}
    (sized : ∀ data ∈ items, data.length = (geometry item).itemSize)
    (someItem : items ≠ [])
    (whole : items.length % (geometry item).capacity = 0) :
    ∃ state,
      runFromErased item items = .ok (state, true) ∧
      ∀ startIndex : Int,
        startIndex < (keptItems item items).length →
        (EnumeratesExactly state item startIndex
            ((keptItems item items).drop
              (firstWanted (keptItems item items).length startIndex)) ↔
          if 0 ≤ startIndex then
            startIndex = 0 ∨
              ¬ ((geometry item).capacity : Int) ∣ startIndex
          else
            ((geometry item).capacity : Int) ∣ startIndex ∨
              startIndex ≤
                -((keptItems item items).length +
                  (geometry item).capacity : Int)) := by
  obtain ⟨state, run, tracks⟩ := runFromErased_tracks sized
  have regular := StoreLog.regular_ofItems sized
  have notOpened :
      (StoreLog.ofItems (geometry item) items).opened = false := by
    by_contra opened
    exact (StoreLog.opened_ofItems sized).mp
      (Bool.eq_true_of_not_eq_false opened) whole
  have kept := retained_eq_keptItems regular
  rw [StoreLog.items_ofItems] at kept
  have several := (geometry item).severalPages
  have oldest := regular.oldest_eq
  rw [SegmentedLog.oldest] at oldest
  have shape := regular.wellFormed.items_eq notOpened
  rw [StoreLog.items_ofItems] at shape
  have length := List.length_pos_of_ne_nil someItem
  have closed : 0 < (StoreLog.ofItems (geometry item) items).closed := by
    by_contra none
    rw [show (StoreLog.ofItems (geometry item) items).closed = 0 by omega,
      Nat.zero_mul] at shape
    omega
  rw [staleAfter, if_neg someItem] at tracks
  refine ⟨state, run, ?_⟩
  intro startIndex inRange
  have delivered := enumeratesExactly_stale tracks regular notOpened
    (by omega) (by rw [kept]; exact inRange)
  rw [kept] at delivered
  exact delivered

/--
The start indices an enumeration honours: while the current page has items,
the item asked for must not be the first one of a later page, or the items
must repeat with the period of a page; while the last add has closed a page, an
index from the start must not be the first item of a later page and an index
from the end must be a whole number of pages or lie far before the first item.
-/
def StartHonoured
    (item : ItemDef) (items : List (List Byte)) (startIndex : Int) :
    Prop :=
  let kept := keptItems item items
  let first := firstWanted kept.length startIndex
  if items.length % (geometry item).capacity = 0 then
    if 0 ≤ startIndex then
      startIndex = 0 ∨ ¬ ((geometry item).capacity : Int) ∣ startIndex
    else
      ((geometry item).capacity : Int) ∣ startIndex ∨
        startIndex ≤ -(kept.length + (geometry item).capacity : Int)
  else
    first = 0 ∨ ¬ (geometry item).capacity ∣ first ∨
      ∀ index, first ≤ index → index < kept.length →
        kept[index]? = kept[index - (geometry item).capacity]?

/--
After any number of adds, an enumeration delivers exactly the stored items from
its start index on if and only if the start index is honoured.
-/
theorem enumerates_suffix_iff
    (item : ItemDef)
    (items : List (List Byte))
    (sized : ∀ data ∈ items, data.length = (geometry item).itemSize)
    (someItem : items ≠ []) :
    ∃ state,
      runFromErased item items = .ok (state, true) ∧
      ∀ startIndex : Int,
        -2 ^ 31 ≤ startIndex →
        startIndex < (keptItems item items).length →
        (EnumeratesExactly state item startIndex
            ((keptItems item items).drop
              (firstWanted (keptItems item items).length startIndex)) ↔
          StartHonoured item items startIndex) := by
  by_cases whole : items.length % (geometry item).capacity = 0
  · obtain ⟨state, run, delivered⟩ :=
      runFromErased_closed sized someItem whole
    refine ⟨state, run, ?_⟩
    intro startIndex _ inRange
    rw [StartHonoured, if_pos whole]
    exact delivered startIndex inRange
  · obtain ⟨state, run, delivered⟩ := runFromErased_opened sized whole
    refine ⟨state, run, ?_⟩
    intro startIndex _ inRange
    rw [StartHonoured, if_neg whole]
    exact delivered startIndex inRange

/-- What is kept of 70 settings records: the second page and the third. -/
theorem keptItems_seventy :
    keptItems .systemConfig (numbered 70) = (numbered 70).drop 31 := by
  have kept : retainedCount (geometry .systemConfig) 70 = 39 := by decide
  rw [keptItems, length_numbered, kept]

/--
From the end on, over the boundary of the pages, and from the first record of
the newer page on, which is not honoured.
-/
theorem enumerates_suffix_iff_seventy :
    ∃ state,
      runFromErased .systemConfig (numbered 70) = .ok (state, true) ∧
      EnumeratesExactly state .systemConfig (-5) ((numbered 70).drop 65) ∧
      EnumeratesExactly state .systemConfig 20 ((numbered 70).drop 51) ∧
      ¬ EnumeratesExactly state .systemConfig 31 ((numbered 70).drop 62) := by
  obtain ⟨state, run, exact⟩ :=
    enumerates_suffix_iff .systemConfig (numbered 70) (numbered_sized 70)
      (List.ne_nil_of_length_pos (by rw [length_numbered]; decide))
  have length : ((numbered 70).drop 31).length = 39 := by
    rw [List.length_drop, length_numbered]
  have partly : (numbered 70).length % (geometry .systemConfig).capacity ≠
      0 := by
    rw [length_numbered]
    decide
  rw [keptItems_seventy, length] at exact
  have honoured :
      ∀ startIndex : Int,
        ¬ (geometry .systemConfig).capacity ∣ firstWanted 39 startIndex →
          StartHonoured .systemConfig (numbered 70) startIndex := by
    intro startIndex inside
    simp only [StartHonoured]
    rw [if_neg partly, keptItems_seventy, length]
    exact Or.inr (Or.inl inside)
  have fromEnd := (exact (-5) (by decide) (by decide)).mpr
    (honoured (-5) (by decide))
  have overBoundary := (exact 20 (by decide) (by decide)).mpr
    (honoured 20 (by decide))
  rw [List.drop_drop] at fromEnd overBoundary
  refine ⟨state, run, fromEnd, overBoundary, fun enumerates => ?_⟩
  have atBoundary := (exact 31 (by decide) (by decide)).mp
    (by rw [List.drop_drop]; exact enumerates)
  simp only [StartHonoured] at atBoundary
  rw [if_neg partly, keptItems_seventy, length] at atBoundary
  rcases atBoundary with first | inside | periodic
  · exact absurd first (by decide)
  · exact absurd (by decide) inside
  · have same := periodic 31 (by decide) (by decide)
    rw [List.getElem?_drop, List.getElem?_drop] at same
    exact absurd same (by decide)

/-- 31 settings records fill the first page; asking for the last one fails. -/
theorem enumerates_suffix_not_honoured :
    ∃ state,
      runFromErased .systemConfig
          (List.replicate 31 (List.replicate 128 0)) =
        .ok (state, true) ∧
      ¬ EnumeratesExactly state .systemConfig (-1)
          ((keptItems .systemConfig
              (List.replicate 31 (List.replicate 128 0))).drop
            (firstWanted
              (keptItems .systemConfig
                (List.replicate 31 (List.replicate 128 0))).length
              (-1))) := by
  have length :
      (keptItems .systemConfig
        (List.replicate 31 (List.replicate 128 0))).length = 31 := by
    simp [keptItems, retainedCount, geometry, StoreGeometry.capacity,
      StoreGeometry.itemSize, flashPageSize, pageHeaderSize]
  have capacity : (geometry .systemConfig).capacity = 31 := by
    decide
  obtain ⟨state, run, delivered⟩ :=
    @runFromErased_closed .systemConfig
      (List.replicate 31 (List.replicate 128 0))
      (by
        intro data member
        rw [List.eq_of_mem_replicate member, List.length_replicate]
        rfl)
      (by simp) (by rw [List.length_replicate, capacity])
  refine ⟨state, run, ?_⟩
  rw [delivered (-1) (by rw [length]; omega), length, capacity,
    if_neg (by omega)]
  omega

end DemoBoard.ItemStore
