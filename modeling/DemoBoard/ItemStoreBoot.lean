import DemoBoard.ItemStoreAppend
import DemoBoard.ItemStoreErase
import DemoBoard.ItemStorePowerLoss

namespace DemoBoard.ItemStore

open ByteMemory

/-!
# Initialisation over any flash image

`ItemStore_Init` runs over what a reset has left in the flash array.  Whatever
that is, initialisation and erases leave a store that can be enumerated once
the listener is idle, and an enumeration that is ready delivers an item.
-/

/-- Every begin tag in the flash array carries the id of a store. -/
def NamedTags (memory : Memory) : Prop :=
  ∀ page,
    (headerAt memory page).beginTag.magic = pageMagic →
      ∃ item,
        ItemDef.ofByte? (headerAt memory page).beginTag.itemId = some item

/-- A store that accepts an enumeration when the listener is idle. -/
structure Enumerable (item : ItemDef) (state : ItemStoreState) : Prop where
  idle : (state.itemStore item).currentState = .idle
  sizes : ∀ other, (state.itemStore other).itemSize % 8 = 0
  named : NamedTags state.flash.memory

section Tags

variable {memory other : Memory}

/-- The begin tag of a page depends on its first double word. -/
theorem beginTag_congr
    {page : Nat}
    (same :
      AgreeOn other memory (pageAddr page)
        (pageAddr page + pageBeginTagSize)) :
    (headerAt other page).beginTag = (headerAt memory page).beginTag := by
  have bytes := readBytes_congr same
  rw [pageBeginTagSize] at bytes
  have tags : ∀ memory : Memory,
      (headerAt memory page).beginTag =
        PageBeginTag.ofBytes
          ((headerAt memory page).beginTag.toBytes ++ []) :=
    fun memory => (PageBeginTag.ofBytes_toBytes _ _).symm
  rw [tags other, tags memory, (tagBytes_headerAt other page).1,
    (tagBytes_headerAt memory page).1, bytes]

/-- Programming a complete tag changes no begin tag. -/
theorem NamedTags.completeTag
    (named : NamedTags memory)
    (page : Nat)
    (data : BitVec 64) :
    NamedTags
      ((FlashEffect.program (pageAddr page + pageBeginTagSize) data).apply
        memory) := by
  intro visited
  rw [beginTag_congr]
  · exact named visited
  · apply writeBytes_agreeOn
    simp only [pageAddr, pageBeginTagSize, flashPageSize,
      length_doubleWordBytes]
    omega

/-- A blank page has no begin tag. -/
theorem magic_of_blank
    {page : Nat}
    (blank : Blank memory page) :
    (headerAt memory page).beginTag.magic ≠ pageMagic := by
  intro magic
  rw [blank_iff, ← (tagBytes_headerAt _ page).1,
    PageBeginTag.hasNoData_toBytes magic] at blank
  exact absurd blank.1 (by decide)

/-- An erased page has no begin tag. -/
theorem NamedTags.erasePage
    (named : NamedTags memory)
    (page : Nat) :
    NamedTags (erasePage memory page) := by
  intro visited
  by_cases same : visited = page
  · intro magic
    subst same
    exact (magic_of_blank (PageErased.blank
      (pageErased_erasePage memory visited)) magic).elim
  · rw [beginTag_congr]
    · exact named visited
    · exact (erasePage_agreeOn memory same).mono (Nat.le_refl _)
        (Nat.add_le_add_left (by decide) _)

end Tags

section Initialisation

variable {item changed : ItemDef}
variable {state after : ItemStoreState}
variable {ok : Bool}

theorem enumerable_powerOn
    {memory : Memory}
    (named : NamedTags memory)
    (item : ItemDef) :
    Enumerable item (powerOn memory) := by
  refine ⟨?_, ?_, named⟩
  · cases item <;> rfl
  · intro other
    change (staticItemStore other).itemSize % 8 = 0
    cases other <;> decide

theorem Enumerable.congr
    (enumerable : Enumerable item state)
    (sameStores : after.itemStore = state.itemStore)
    (named : NamedTags after.flash.memory) :
    Enumerable item after := by
  refine ⟨?_, ?_, named⟩
  · rw [sameStores]
    exact enumerable.idle
  · rw [sameStores]
    exact enumerable.sizes

/-- A change of metadata that keeps the state and the item size. -/
theorem Enumerable.modifyInfo
    (enumerable : Enumerable item state)
    {change : ItemStoreInfo → ItemStoreInfo}
    (keepsState : ∀ info, (change info).currentState = info.currentState)
    (keepsSize : ∀ info, (change info).itemSize = info.itemSize) :
    Enumerable item (modifyInfo state changed change) := by
  refine ⟨?_, ?_, enumerable.named⟩
  · by_cases same : item = changed
    · rw [same, modifyInfo_same, keepsState, ← same]
      exact enumerable.idle
    · rw [modifyInfo_other _ _ same]
      exact enumerable.idle
  · intro other
    by_cases same : other = changed
    · rw [same, modifyInfo_same, keepsSize]
      exact enumerable.sizes changed
    · rw [modifyInfo_other _ _ same]
      exact enumerable.sizes other

theorem Enumerable.registerCallback
    (enumerable : Enumerable item state)
    (onDoneCb : EnumeratorCallback) :
    Enumerable item (registerCallback state changed onDoneCb) :=
  @Enumerable.modifyInfo item changed state enumerable
    (fun info => { info with enumeratorStatusCb := onDoneCb })
    (fun _ => rfl) (fun _ => rfl)

/-- A page erase is requested before it changes the flash array. -/
theorem Enumerable.flashErase
    (enumerable : Enumerable item state)
    {page nrOfPages : Nat}
    (erased : flashErase state page nrOfPages = .ok after) :
    Enumerable item after ∧ after.listenerState = state.listenerState := by
  unfold ItemStore.flashErase Flash.erase at erased
  split at erased
  · cases erased
  split at erased
  · cases erased
  split at erased
  · cases erased
  cases erased
  exact ⟨enumerable.congr rfl enumerable.named, rfl⟩

/-- Writing a complete tag. -/
theorem Enumerable.writeCompleteTag
    (enumerable : Enumerable item state)
    {page : Nat}
    {bytes : List Byte}
    (wrote :
      flashWrite state (pageAddr page + pageBeginTagSize) bytes 8 =
        .ok (after, ok)) :
    Enumerable item after := by
  unfold flashWrite Flash.write at wrote
  split at wrote
  · cases wrote
  split at wrote
  · cases wrote
  split at wrote
  · cases wrote
    exact enumerable
  rw [Flash.writeLoop] at wrote
  unfold Flash.halProgram at wrote
  dsimp only at wrote
  split at wrote
  · cases wrote
    exact enumerable.congr rfl enumerable.named
  · cases wrote
    exact enumerable.congr rfl (enumerable.named.completeTag page _)

theorem Enumerable.adjustNextWritePage
    (enumerable : Enumerable item state)
    {completeTag : PageCompleteTag}
    (adjusted :
      adjustNextWritePage state changed completeTag = .ok (after, ok)) :
    Enumerable item after := by
  have pointed := @Enumerable.modifyInfo item changed state enumerable
    (pointTo completeTag) (fun _ => rfl) (fun _ => rfl)
  have moved := fun oldest => @Enumerable.modifyInfo item changed _ pointed
    (fun info =>
      { info with
        oldestPageInfo := oldest
        nrOfFullPages := (info.nrOfFullPages + 255) % 256 })
    (fun _ => rfl) (fun _ => rfl)
  unfold ItemStore.adjustNextWritePage at adjusted
  simp only [readHeader_headerAt, bind, Except.bind] at adjusted
  split at adjusted
  · cases adjusted
    exact pointed
  split at adjusted
  · cases adjusted
  split at adjusted
  · cases adjusted
  split at adjusted
  · cases adjusted
  split at adjusted
  · cases adjusted
  · rename_i erased
    cases adjusted
    have moved := moved
      (headerAt state.flash.memory
        (headerAt state.flash.memory
          completeTag.nextPage.toNat).completeTag.nextPage.toNat).beginTag
    refine (Enumerable.flashErase ?_ erased).1
    exact ⟨moved.idle, moved.sizes, moved.named⟩

theorem Enumerable.closePageIfFull
    (enumerable : Enumerable item state)
    (closed : closePageIfFull state changed = .ok (after, ok)) :
    Enumerable item after := by
  unfold ItemStore.closePageIfFull at closed
  simp only [bind, Except.bind] at closed
  split at closed
  · split at closed
    · cases closed
    · rename_i wrote
      have written := enumerable.writeCompleteTag wrote
      split at closed
      · cases closed
        exact written
      · exact (written.modifyInfo (by intro _; rfl)
          (by intro _; rfl)).adjustNextWritePage closed
  · cases closed
    exact enumerable

theorem updateNewestOldestPage_kept
    (info : ItemStoreInfo)
    (isInitial : Bool) :
    (updateNewestOldestPage info isInitial).currentState =
        info.currentState ∧
      (updateNewestOldestPage info isInitial).itemSize =
        info.itemSize := by
  unfold updateNewestOldestPage
  dsimp only
  split
  · exact ⟨rfl, rfl⟩
  split
  · exact ⟨rfl, rfl⟩
  split
  · exact ⟨rfl, rfl⟩
  · exact ⟨rfl, rfl⟩

theorem Enumerable.recoverableError
    (enumerable : Enumerable item state)
    (parameter : Nat) :
    Enumerable item (recoverableError state parameter) :=
  enumerable.congr rfl enumerable.named

/-- A page of the scan. -/
theorem Enumerable.scanPage
    {header : PageHeader}
    {scanned : ItemStoreState × PageHeader}
    {place : Nat}
    (enumerable : Enumerable item state)
    (scan : scanPage changed (state, header) place = .ok scanned) :
    Enumerable item scanned.1 := by
  have updated := fun {state} (enumerable : Enumerable item state) tag =>
    @Enumerable.modifyInfo item changed state enumerable
      (fun info =>
        updateNewestOldestPage { info with currentPageInfo := tag }
          (place = 0))
      (fun _ => (updateNewestOldestPage_kept _ _).1)
      (fun _ => (updateNewestOldestPage_kept _ _).2)
  unfold ItemStore.scanPage at scan
  simp only [readHeader_headerAt, bind, Except.bind] at scan
  split at scan
  · cases scan
    exact enumerable
  generalize reported :
    (if beginTagIsConsistent _ _ _ = true then state else _) = first
      at scan
  have begun : Enumerable item first := by
    rw [← reported]
    split
    · exact enumerable
    · exact enumerable.recoverableError _
  split at scan
  · cases scan
    dsimp only
    apply Enumerable.modifyInfo
    rotate_left
    · intro _
      rfl
    · intro _
      rfl
    split
    · exact updated begun _
    · exact (updated begun _).recoverableError _
  · split at scan
    · cases scan
    · rename_i closed
      cases scan
      refine Enumerable.closePageIfFull ?_ closed
      apply Enumerable.modifyInfo (updated begun _)
      · intro _
        rfl
      · intro _
        rfl

theorem Enumerable.initItemStore
    (enumerable : Enumerable item state)
    (initialised : initItemStore state changed = .ok after) :
    Enumerable item after := by
  have scanned : ∀ (places : List Nat) (before : ItemStoreState)
      (header : PageHeader) (scan : ItemStoreState × PageHeader),
      Enumerable item before →
        places.foldlM (ItemStore.scanPage changed) (before, header) =
          .ok scan →
        Enumerable item scan.1 := by
    intro places
    induction places with
    | nil =>
        intro before header scan enumerable run
        cases run
        exact enumerable
    | cons place rest inductionHypothesis =>
        intro before header scan enumerable run
        rw [List.foldlM_cons] at run
        cases one : ItemStore.scanPage changed (before, header) place with
        | error failure =>
            rw [one] at run
            cases run
        | ok middle =>
            rw [one] at run
            exact inductionHypothesis _ _ _ (enumerable.scanPage one) run
  unfold ItemStore.initItemStore at initialised
  simp only [bind, Except.bind] at initialised
  split at initialised
  · cases initialised
  rename_i scan run
  have swept := scanned _ _ _ _ (enumerable.modifyInfo (by intro _; rfl)
    (by intro _; rfl)) run
  split at initialised
  · split at initialised
    · cases initialised
    · rename_i adjusted
      cases initialised
      exact swept.adjustNextWritePage adjusted
  · cases initialised
    exact swept

/-- The store after `ItemStore_Init`, whatever the flash array holds. -/
theorem enumerable_init
    {memory : Memory}
    (named : NamedTags memory)
    (booted : init (powerOn memory) = .ok after)
    (item : ItemDef) :
    Enumerable item after := by
  rw [init] at booted
  cases first : initItemStore (powerOn memory) .systemConfig with
  | error failure =>
      rw [first] at booted
      cases booted
  | ok middle =>
      rw [first] at booted
      exact ((enumerable_powerOn named item).initItemStore
        first).initItemStore booted

end Initialisation

section Listener

variable {item : ItemDef}
variable {state : ItemStoreState}
variable {handled : Handled}

/-- A page of a running erase. -/
theorem Enumerable.endOfPage
    (enumerable : Enumerable item state) :
    Enumerable item (endOfPage state).1 := by
  refine enumerable.congr rfl ?_
  change NamedTags state.flash.flashTask.endOfOperation.1.memory
  have task : state.flash.flashTask.memory = state.flash.memory := by
    unfold Flash.flashTask
    split <;> rfl
  have named := enumerable.named
  rw [← task] at named
  cases erasing : state.flash.flashTask.erasing with
  | none =>
      simp only [Flash.endOfOperation, erasing]
      exact named
  | some page =>
      simp only [Flash.endOfOperation, erasing]
      split_ifs
      · exact named.erasePage _
      · exact named.erasePage _

/-- The start of an erase. -/
theorem Enumerable.listener_erase
    (enumerable : Enumerable item state)
    {parameters : EraseParameters}
    (result : listener state (.erase parameters) = .ok handled) :
    Enumerable item handled.state := by
  unfold listener at result
  split at result
  · simp only [listenerIdleState, bind, Except.bind] at result
    split at result
    · cases result
    · rename_i erased
      cases result
      have started := (@Enumerable.flashErase item _ _
        (by exact enumerable.congr rfl enumerable.named) _ _ erased).1
      exact started.congr rfl started.named
  · cases result
    exact enumerable.congr rfl enumerable.named

/-- The end of an erase. -/
theorem Enumerable.listener_eraseDone
    (enumerable : Enumerable item state)
    (result : listener state .eraseDone = .ok handled) :
    Enumerable item handled.state := by
  unfold listener at result
  split at result
  · simp only [listenerIdleState] at result
    split at result
    · cases result
      exact enumerable
    · cases result
      exact enumerable
  · simp only [listenerErasingState, bind, Except.bind] at result
    split at result
    · split at result
      · cases result
      · rename_i erased
        cases result
        exact (@Enumerable.flashErase item _ _
          (by exact enumerable.congr rfl enumerable.named) _ _ erased).1
    · split at result
      · split at result
        · cases result
        · split at result
          · cases result
          · rename_i initialised
            cases result
            exact @Enumerable.initItemStore item _ _ _
              (by exact enumerable.congr rfl enumerable.named) initialised
      · cases result
        exact enumerable.congr rfl enumerable.named

/-- The listener of an idle store starts the enumeration. -/
theorem Enumerable.listener_beginEnumerate
    (enumerable : Enumerable item state)
    (listenerIdle : state.listenerState = .idle)
    (enumerator : Enumerator) :
    listener state (.beginEnumerate item enumerator) =
      .ok
        { state := (beginEnumerate state item enumerator).1
          consumed := true
          enumeration := some
            { item := item
              enumerator := (beginEnumerate state item enumerator).2.1
              ready := (beginEnumerate state item enumerator).2.2 } } := by
  rw [listener, listenerIdle]
  simp only [listenerIdleState, Request.item, enumerable.idle, idleState]

end Listener

section Enumeration

variable {item : ItemDef}
variable {state after : ItemStoreState}

/-- A page on which an enumeration is positioned. -/
theorem initEnumeratorStatus_ready
    {page startIndex : Nat}
    (ready :
      initEnumeratorStatus state item page startIndex = (after, true)) :
    let status := (after.itemStore item).enumeratorStatus
    status.enumeratingPage = headerAt state.flash.memory page ∧
      status.enumeratingPage.beginTag.magic = pageMagic ∧
      status.currentIndex < status.itemsOnPage := by
  intro status
  simp only [initEnumeratorStatus, readHeader_headerAt] at ready
  split at ready
  · cases ready
  rename_i consistent
  have magic :
      (headerAt state.flash.memory page).beginTag.magic = pageMagic := by
    have tag := Decidable.not_not.mp consistent
    rw [beginTagIsConsistent, decide_eq_true_eq] at tag
    exact tag.1
  split at ready
  · obtain ⟨positioned, inside⟩ := Prod.mk.inj ready
    subst positioned
    rw [decide_eq_true_eq] at inside
    simp only [status, modifyStatus, modifyInfo_same] at inside ⊢
    exact ⟨rfl, magic, inside⟩
  split at ready
  · cases ready
  · obtain ⟨positioned, inside⟩ := Prod.mk.inj ready
    subst positioned
    rw [decide_eq_true_eq] at inside
    simp only [status, modifyStatus, modifyInfo_same] at inside ⊢
    exact ⟨rfl, magic, inside⟩

/-- Enumerations leave the sizes, the flash array and the driver alone. -/
theorem Enumerable.sameContent
    (enumerable : Enumerable item state)
    (same : SameContent state after)
    (idle : (after.itemStore item).currentState = .idle) :
    Enumerable item after := by
  refine ⟨idle, ?_, ?_⟩
  · intro other
    obtain ⟨_, _, _, info⟩ := same.info other
    rw [info]
    exact enumerable.sizes other
  · rw [same.flash]
    exact enumerable.named

/-- `ItemStore_GetNext` reads an item of the page it is positioned on. -/
theorem getNext_insidePage
    {enumerator : Enumerator}
    (details : enumerator.enumeratorDetails = some item)
    (more : enumerator.hasMoreItems = true)
    {store : ItemDef}
    (page :
      ItemDef.ofByte?
        (state.itemStore item).enumeratorStatus.enumeratingPage.beginTag.itemId
          = some store)
    (inside :
      (state.itemStore item).enumeratorStatus.currentIndex <
        (state.itemStore item).enumeratorStatus.itemsOnPage)
    (size : (state.itemStore store).itemSize % 8 = 0) :
    ∃ data, (getNext state enumerator).2.2 = some data := by
  have aligned : ∀ page index,
      (pageAddr page + pageHeaderSize +
        index * (state.itemStore store).itemSize) % 8 = 0 := by
    intro page index
    have item := Nat.dvd_mul_left_of_dvd
      (Nat.dvd_of_mod_eq_zero size) index
    have start := pageAddr_aligned page
    rw [pageHeaderSize]
    omega
  simp only [getNext, more, details, page, Nat.ne_of_lt inside,
    Flash.read_eq _ _ (aligned _ _), not_true_eq_false, if_false,
    Bool.true_eq_false]
  exact ⟨_, rfl⟩

/-- An enumeration that is ready delivers an item. -/
theorem Enumerable.getNext_delivers
    (enumerable : Enumerable item state)
    (enumerator : Enumerator)
    (ready : (beginEnumerate state item enumerator).2.2 = true) :
    (beginEnumerate state item enumerator).2.1.hasMoreItems = true ∧
      ∃ data,
        (getNext (beginEnumerate state item enumerator).1
          (beginEnumerate state item enumerator).2.1).2.2 = some data := by
  have same := sameContent_beginEnumerate state item enumerator
  simp only [beginEnumerate] at ready same ⊢
  generalize modifyStatus state item _ = begun at ready same ⊢
  have found := findEnumeratorStartPosition_searchesStatus begun item
  generalize findEnumeratorStartPosition begun item = outcome
    at ready same found ⊢
  obtain ⟨searched, position⟩ := outcome
  cases position with
  | none => cases ready
  | some start =>
      obtain ⟨page, index⟩ := start
      dsimp only at ready same found ⊢
      cases positioned : initEnumeratorStatus searched item page index with
      | mk final success =>
          cases success with
          | false =>
              rw [positioned] at ready
              cases ready
          | true =>
              obtain ⟨header, magic, inside⟩ :=
                initEnumeratorStatus_ready positioned
              rw [positioned] at same
              dsimp only at same ⊢
              refine ⟨decide_eq_true inside, ?_⟩
              have changed :=
                initEnumeratorStatus_changesStatus searched item page index
              rw [positioned] at changed
              have flash : searched.flash = state.flash :=
                changed.sameContent.flash.symm.trans same.flash
              rw [header, flash] at magic
              obtain ⟨store, named⟩ := enumerable.named page magic
              rw [← flash, ← header] at named
              obtain ⟨_, _, _, info⟩ := same.info store
              refine @getNext_insidePage item _ _ rfl
                (decide_eq_true inside) store ?_ ?_ ?_
              · rw [modifyInfo_same]
                exact named
              · rw [modifyInfo_same]
                exact inside
              · rw [info]
                exact enumerable.sizes store

end Enumeration

section Images

variable {item : ItemDef}
variable {log : StoreLog}
variable {memory : Memory}
variable {effects : List FlashEffect}

/-- Operations on the pages of one store leave the others blank. -/
theorem blank_elsewhere
    (inside : ∀ effect ∈ effects,
      effect.Inside (geometry item).firstPage (geometry item).nrOfPages)
    {page : Nat}
    (outside : ¬ InStore item page) :
    Blank (applyEffects erasedFlash effects) page := by
  unfold InStore at outside
  have apart :
      pageAddr page + pageHeaderSize ≤ pageAddr (geometry item).firstPage ∨
        pageAddr ((geometry item).firstPage +
          (geometry item).nrOfPages) ≤ pageAddr page := by
    simp only [pageAddr, pageHeaderSize, flashPageSize]
    omega
  rw [Blank, headerBytes,
    readBytes_congr (applyEffects_agreeOn inside apart erasedFlash)]
  exact hasNoData_of_constantOn (constantOn_erasedFlash _ _)
    (Nat.le_refl _) (Nat.le_refl _)

/-- The image of a log on otherwise blank flash. -/
theorem namedTags_of_image
    (image : StoreImage item log memory)
    (blank : ∀ page, ¬ InStore item page → Blank memory page) :
    NamedTags memory := by
  intro page magic
  by_cases inStore : InStore item page
  · obtain ⟨ordinal, lower, upper, rfl⟩ := inStore.ordinal log.oldest
    have read := @readHeader_eq (powerOn memory) _ _ _ _
      (image ordinal lower upper)
    rw [readHeader_headerAt] at read
    have header : headerAt memory ((geometry item).pageOf ordinal) =
        headerOf item log ordinal :=
      Option.some.inj read
    rw [header, headerOf] at magic ⊢
    dsimp only at magic ⊢
    split
    · exact ⟨item, ItemDef.ofByte?_toByte item⟩
    · rename_i unused
      rw [if_neg unused] at magic
      exact absurd magic (by decide)
  · exact (magic_of_blank (blank page inStore) magic).elim

/-- Adds to an erased store change the pages of the store only. -/
theorem runFromErased_inside
    {items : List (List Byte)}
    (sized : ∀ data ∈ items, data.length = (geometry item).itemSize) :
    ∃ after effects,
      runFromErased item items = .ok (after, true) ∧
      after.flash.memory = applyEffects erasedFlash effects ∧
      ∀ effect ∈ effects,
        effect.Inside (geometry item).firstPage
          (geometry item).nrOfPages := by
  obtain ⟨booted, boot, bootTracks, bootExtends⟩ :=
    recover_erasedFlash item
  obtain ⟨after, effects, added, _, extended⟩ :=
    addItems_tracks bootTracks (StoreLog.regular_empty _).spacious sized
  refine ⟨after, effects, ?_, ?_, extended.inside⟩
  · rw [runFromErased, boot]
    exact added
  · rw [extended.memory, bootExtends.memory]
    rfl

/-- `ItemStore_Init` may leave the listener erasing. -/
theorem init_erasing
    (wellFormed : log.WellFormed (geometry .systemConfig))
    (image : StoreImage .systemConfig log memory)
    (hasData : ∀ data ∈ log.items, hasNoData data = false)
    (blockId_eq :
      ∀ ordinal, log.blockId ordinal = ordinal % maxBlockIndex)
    (notOpened : log.opened = false)
    (full : log.closed = log.oldest + (geometry .systemConfig).nrOfPages)
    (blank : ∀ page, ¬ InStore .systemConfig page → Blank memory page) :
    ∃ store,
      init (powerOn memory) = .ok store ∧
      store.listenerState = .erasing := by
  obtain ⟨pointed, _, extended, booted⟩ := initItemStore_fullRing
    wellFormed image hasData blockId_eq notOpened full
  have static : StaticInfo .measurementSample
      ((erasingOldest .systemConfig log pointed).itemStore
        .measurementSample) := by
    rw [erasingOldest, modifyInfo_other _ _ (by decide),
      extended.others _ (by decide)]
    exact staticInfo_staticItemStore .measurementSample
  have unused : ∀ page, InStore .measurementSample page →
      Blank (erasingOldest .systemConfig log pointed).flash.memory
        page := by
    intro page inStore
    change Blank pointed.flash.memory page
    rw [extended.memory]
    exact blank page fun other =>
      absurd (inStore_unique inStore other) (by decide)
  refine ⟨reinitialised .measurementSample
    (erasingOldest .systemConfig log pointed), ?_, rfl⟩
  rw [init, booted]
  exact initItemStore_blank static unused

/--
A reset between the complete tag of the last page of a turn and the erase it
leads to: `ItemStore_Init` starts the erase and leaves the listener erasing.
-/
theorem init_interrupted_add
    {items : List (List Byte)}
    {data : List Byte}
    (sized : ∀ entry ∈ items,
      entry.length = (geometry .systemConfig).itemSize)
    (hasData : ∀ entry ∈ items, hasNoData entry = false)
    (size : data.length = (geometry .systemConfig).itemSize)
    (dataHasData : hasNoData data = false)
    (full : (geometry .systemConfig).capacity ∣ items.length + 1)
    (later :
      (geometry .systemConfig).nrOfPages *
        (geometry .systemConfig).capacity ≤ items.length + 1) :
    ∃ before after effects image store,
      runFromErased .systemConfig items = .ok (before, true) ∧
      addItemCompleted before .systemConfig data = .ok (after, true) ∧
      after.flash.history = before.flash.history ++ effects ∧
      image =
        applyEffects before.flash.memory
          (effects.take ((geometry .systemConfig).itemWords + 1)) ∧
      NamedTags image ∧
      init (powerOn image) = .ok store ∧
      store.listenerState = .erasing := by
  obtain ⟨before, after, run, added, history, beforeAdd, _⟩ :=
    addOne_run sized hasData size dataHasData
  obtain ⟨_, runEffects, again, memory, inside⟩ :=
    runFromErased_inside sized
  rw [run] at again
  obtain ⟨rfl, _⟩ := Prod.mk.inj (Except.ok.inj again)
  have regular := beforeAdd.regular
  have lengths := congrArg List.length
    (@StoreLog.items_ofItems (geometry .systemConfig) items)
  have fullPage := (full_iff_dvd regular).mpr (by rwa [lengths])
  have oldest := regular.oldest_eq
  rw [SegmentedLog.oldest] at oldest
  have wraps := (later_turn_iff regular fullPage).mp (by rwa [lengths])
  obtain ⟨tracked, trackedRun, tracks⟩ := runFromErased_tracks sized
  rw [run] at trackedRun
  obtain ⟨rfl, _⟩ := Prod.mk.inj (Except.ok.inj trackedRun)
  obtain ⟨_, addedAgain, _, extended⟩ :=
    addItemCompleted_tracks tracks regular.spacious size
  have taken := take_addEffects_closed data regular fullPage
  rw [beforeAdd.opening_of_full fullPage, Nat.zero_add] at taken
  obtain ⟨wellFormed, closedImage⟩ := beforeAdd.closed_log fullPage
  rw [← taken] at closedImage
  have blank : ∀ page, ¬ InStore .systemConfig page →
      Blank
        (applyEffects before.flash.memory
          ((addEffects .systemConfig
            (StoreLog.ofItems (geometry .systemConfig) items) data).take
              ((geometry .systemConfig).itemWords + 1))) page := by
    intro page outside
    rw [memory, ← applyEffects_append]
    refine blank_elsewhere ?_ outside
    intro effect member
    rcases List.mem_append.mp member with earlier | later
    · exact inside effect earlier
    · exact extended.inside effect (List.mem_of_mem_take later)
  obtain ⟨store, booted, erasing⟩ := init_erasing wellFormed closedImage
    (hasData_append beforeAdd.hasData beforeAdd.dataHasData)
    beforeAdd.blockId_eq rfl
    (show (StoreLog.ofItems (geometry .systemConfig) items).closed + 1 =
        (StoreLog.ofItems (geometry .systemConfig) items).oldest +
          (geometry .systemConfig).nrOfPages by
      omega)
    blank
  exact ⟨before, after, _, _, store, run, added, history, rfl,
    namedTags_of_image closedImage blank, booted, erasing⟩

end Images

end DemoBoard.ItemStore
