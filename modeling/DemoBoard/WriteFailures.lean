import DemoBoard.FlashFaults
import DemoBoard.ItemCounters
import DemoBoard.ItemStorePowerLoss
import DemoBoard.TransitionRuns

namespace DemoBoard.WriteFailures

open ByteMemory ItemStore ItemCounters TransitionRuns StoreImage

/-!
# Adds whose writes fail

`AddItem` reports a write that fails and undoes nothing.  A failed begin tag
leaves the store as it was, and so does a failed item of which no data reached
the flash.  Behind a torn item the counter of the page does not move, so every
later item is written over it; behind a failed complete tag the counter points
past the end of the page.
-/

/-- The program operations that fail next. -/
def withFaults (store : ItemStoreState) (faults : List Bool) :
    ItemStoreState :=
  { store with flash := store.flash.withFaults faults }

/-- One `AddItem` under program faults and the page erase it may start. -/
def attempt
    (store : ItemStoreState) (item : ItemDef) (data : List Byte)
    (faults : List Bool) :
    Except AssertionFailure (ItemStoreState × Bool) := do
  let outcome ← addItem (withFaults store faults) item data
  let after ← finishErase (withFaults outcome.1 [])
  .ok (after, outcome.2)

/-- The item store and the items that `AddItem` has accepted. -/
structure WriteState where
  store : ItemStoreState
  stored : ItemDef → List (List Byte)

/-- A call of `AddItem` and the program operations that fail in it. -/
structure Attempt where
  item : ItemDef
  data : ItemBytes item
  faults : List Bool

/-- The state after a call of `AddItem` with this outcome. -/
def WriteState.after
    (state : WriteState) (call : Attempt)
    (outcome : ItemStoreState × Bool) : WriteState where
  store := outcome.1
  stored :=
    if outcome.2 then
      Function.update state.stored call.item
        (state.stored call.item ++ [call.data.val])
    else
      state.stored

/-- Calls of `AddItem` after a boot over erased flash. -/
def system : System WriteState Attempt where
  start := fun state =>
    init (powerOn erasedFlash) = .ok state.store ∧
      state.stored = fun _ => []
  step := fun state call next =>
    ∃ outcome,
      attempt state.store call.item call.data.val call.faults =
        .ok outcome ∧
      next = state.after call outcome

/-- The page the next item is written to. -/
def currentPage (store : ItemStoreState) (item : ItemDef) : Nat :=
  (store.itemStore item).nextWritePageInfo.pageId.toNat

/-- Program operations for the begin tag in the next add. -/
def openingWords (store : ItemStoreState) (item : ItemDef) : Nat :=
  if hasErasedHeader store (currentPage store item) then 1 else 0

/-- The next item fills the current page. -/
def FillsPage (store : ItemStoreState) (item : ItemDef) : Prop :=
  hasErasedHeader store (currentPage store item) = false ∧
    (store.itemStore item).currentPageNrOfItems + 1 =
      (geometry item).capacity

instance (store : ItemStoreState) (item : ItemDef) :
    Decidable (FillsPage store item) :=
  inferInstanceAs (Decidable (_ ∧ _))

/--
A write of an item fails only before its first double word with data, and the
write of a complete tag does not fail.
-/
structure Proper (state : WriteState) (call : Attempt) : Prop where
  item : ∀ words < (geometry call.item).itemWords,
    FailsAt call.faults (openingWords state.store call.item + words) →
      hasNoData (call.data.val.take (8 * words)) = true
  completeTag : FillsPage state.store call.item →
    ¬ FailsAt call.faults
      (openingWords state.store call.item +
        (geometry call.item).itemWords)

/-- A program operation inside one page. -/
def InPage (page : Nat) (effect : FlashEffect) : Prop :=
  ∀ address, effect.programmed? = some address →
    pageAddr page ≤ address ∧
      address + 8 ≤ pageAddr page + flashPageSize

/-- What is expected of a store in spite of write failures. -/
structure Robust (state : WriteState) (item : ItemDef) : Prop where
  enumeration :
    EnumeratesFromStart state.store item
      (keptItems item (state.stored item))
  confined : ∀ (data : ItemBytes item) (faults : List Bool),
    ∃ outcome effects,
      attempt state.store item data.val faults = .ok outcome ∧
      outcome.1.flash.history = state.store.flash.history ++ effects ∧
      ∀ effect ∈ effects, InPage (currentPage state.store item) effect
  recovers : ∀ data : ItemBytes item,
    ∃ after older,
      attempt state.store item data.val [] = .ok (after, true) ∧
      keptItems item (state.stored item ++ [data.val]) =
        older ++ [data.val] ∧
      EnumeratesFromStart after item (older ++ [data.val])

/-! Faults commute with what writes nothing. -/

section Lifting

variable {store after : ItemStoreState}
variable {faults : List Bool}
variable {address count : Nat}
variable {bytes : List Byte}

theorem withFaults_idle
    (idle : store.flash.Idle) :
    withFaults store [] = store := by
  have faultFree := idle.programFaults
  rw [withFaults, Flash.withFaults, ← faultFree]

/-- What a write that succeeds without faults does with faults. -/
theorem flashWrite_withFaults
    (positive : 0 < count)
    (idle : store.flash.Idle)
    (aligned : address % 8 = 0)
    (wrote :
      flashWrite store address bytes (8 * count) = .ok (after, true)) :
    after = written store address bytes count ∧
      (Works faults count →
        flashWrite (withFaults store faults) address bytes (8 * count) =
          .ok (withFaults after (faults.drop count), true)) ∧
      ∀ operation, operation < count → FailsAt faults operation →
        flashWrite (withFaults store faults) address bytes (8 * count) =
          .ok
            (withFaults (written store address bytes operation)
              (faults.drop (operation + 1)), false) := by
  obtain ⟨fewer, rfl⟩ := Nat.exists_eq_succ_of_ne_zero
    (show count ≠ 0 by omega)
  rw [flashWrite] at wrote
  cases outcome :
    store.flash.write address (bufferOf bytes) (8 * (fewer + 1)) with
  | error failure =>
      rw [outcome] at wrote
      cases wrote
  | ok result =>
      obtain ⟨flash, success⟩ := result
      rw [outcome] at wrote
      cases wrote
      obtain ⟨rfl, works, fails⟩ :=
        @Flash.write_withFaults store.flash faults address flash
          (bufferOf bytes) fewer idle aligned outcome
      refine ⟨rfl, fun faultFree => ?_, fun operation inside failsAt => ?_⟩
      · have wrote := works faultFree
        rw [flashWrite, withFaults, wrote]
        rfl
      · have wrote := fails operation (Nat.le_of_lt_succ inside) failsAt
        rw [flashWrite, withFaults, wrote]
        rfl

/-- `Flash_Erase` does not program. -/
theorem erase_withFaults (flash : Flash) (page nrOfPages : Nat) :
    (flash.withFaults faults).erase page nrOfPages =
      (flash.erase page nrOfPages).map fun flash =>
        flash.withFaults faults := by
  by_cases lower : firstWritableFlashPage ≤ page
  · by_cases upper : page + nrOfPages - 1 ≤ lastWritableFlashPage
    · by_cases busy : flash.operationComplete = true
      · simp [Flash.erase, Flash.withFaults, lower, upper, busy, Except.map]
      · simp [Flash.erase, Flash.withFaults, lower, upper, busy, Except.map,
          Flash.triggerNextStart]
    · simp [Flash.erase, lower, upper, Except.map]
  · simp [Flash.erase, lower, Except.map]

theorem flashErase_withFaults (page nrOfPages : Nat) :
    flashErase (withFaults store faults) page nrOfPages =
      (flashErase store page nrOfPages).map fun store =>
        withFaults store faults := by
  have erased := @erase_withFaults faults store.flash page nrOfPages
  rw [flashErase, flashErase, withFaults, erased]
  cases store.flash.erase page nrOfPages <;> rfl

/-- `AdjustNextWritePage` does not program. -/
theorem adjustNextWritePage_withFaults
    (item : ItemDef)
    (completeTag : PageCompleteTag) :
    adjustNextWritePage (withFaults store faults) item completeTag =
      (adjustNextWritePage store item completeTag).map fun outcome =>
        (withFaults outcome.1 faults, outcome.2) := by
  have reads : ∀ store page,
      readHeader (withFaults store faults) page = readHeader store page :=
    fun _ _ => rfl
  have infos : ∀ store,
      (withFaults store faults).itemStore = store.itemStore :=
    fun _ => rfl
  have modified : ∀ store change,
      modifyInfo (withFaults store faults) item change =
        withFaults (modifyInfo store item change) faults :=
    fun _ _ => rfl
  simp only [adjustNextWritePage, reads, infos, modified]
  cases readHeader store completeTag.nextPage.toNat with
  | none => rfl
  | some header =>
      generalize modifyInfo store item _ = pointed
      dsimp only
      split
      · rfl
      · cases readHeader pointed header.completeTag.nextPage.toNat with
        | none => rfl
        | some header =>
            dsimp only
            split
            · rfl
            · split
              · rfl
              · split
                · rfl
                · generalize modifyInfo pointed item _ = dropped
                  have erased :=
                    @flashErase_withFaults
                      { dropped with
                        eraseParameters :=
                          { itemStore :=
                              (pointed.itemStore item).currentPageInfo.itemId
                            nrOfPages := 1
                            reinit := false
                            pageNumber := completeTag.nextPage.toNat }
                        listenerState := .erasing } faults
                      completeTag.nextPage.toNat 1
                  refine (congrArg
                    (fun erased => erased.bind fun state =>
                      .ok (state, true)) erased).trans ?_
                  simp only [bind]
                  cases flashErase _ completeTag.nextPage.toNat 1 <;> rfl

end Lifting

section Store

variable {item : ItemDef}
variable {log : StoreLog}
variable {stale : Nat}
variable {store : ItemStoreState}
variable {faults : List Bool}
variable {data : List Byte}

/-- `WriteItem` on the opened page of a log. -/
theorem writeItem_eq
    (matched : InfoMatches item log stale (store.itemStore item))
    (opened : log.opened = true)
    (data : List Byte) :
    writeItem store item data =
      (flashWrite store (nextSlotAddress item log) data
        (8 * (geometry item).itemWords)).bind fun outcome =>
          if outcome.2 = false then
            .ok (outcome.1, false)
          else
            .ok (modifyInfo outcome.1 item fun info =>
              { info with
                currentPageNrOfItems :=
                  (info.currentPageNrOfItems + 1) % 65536 }, true) := by
  have slot :
      (store.itemStore item).currentPageNrOfItems =
        log.slot (geometry item) := by
    rw [matched.currentPageNrOfItems_eq, if_pos opened]
  have lower := (geometry item).pageOf_ge log.closed
  have upper := (geometry item).pageOf_lt log.closed
  have firstPage := matched.firstPage_eq
  have lastPage := matched.lastPage_eq
  have inside :
      (store.itemStore item).firstPage ≤
          (geometry item).pageOf log.closed ∧
        (store.itemStore item).lastPage ≥
          (geometry item).pageOf log.closed := by
    omega
  simp only [writeItem]
  rw [matched.nextPage_eq, if_neg (not_not_intro inside), slot,
    matched.itemSize_eq]
  rfl

/-- `WriteItem` under program faults. -/
theorem writeItem_withFaults
    (tracks : Tracks item log stale store)
    (opened : log.opened = true)
    (room : log.slot (geometry item) < (geometry item).capacity)
    (size : data.length = (geometry item).itemSize)
    (faults : List Bool) :
    ∃ after,
      writeItem store item data = .ok (after, true) ∧
      Tracks item (log.writeSlot data) stale after ∧
      Extends item
        (itemEffects item log data (geometry item).itemWords)
        store after ∧
      (Works faults (geometry item).itemWords →
        writeItem (withFaults store faults) item data =
          .ok
            (withFaults after (faults.drop (geometry item).itemWords),
              true)) ∧
      ∀ words, words < (geometry item).itemWords →
        FailsAt faults words →
        writeItem (withFaults store faults) item data =
          .ok
            (withFaults
              (written store (nextSlotAddress item log) data words)
              (faults.drop (words + 1)), false) := by
  obtain ⟨after, wrote, afterTracks, extended⟩ :=
    writeItem_tracks tracks opened room size
  refine ⟨after, wrote, afterTracks, extended, ?_⟩
  have shape := fun faults => @writeItem_eq item log stale
    (withFaults store faults) tracks.info opened data
  rw [writeItem_eq tracks.info opened] at wrote
  cases outcome :
    flashWrite store (nextSlotAddress item log) data
      (8 * (geometry item).itemWords) with
  | error failure =>
      rw [outcome] at wrote
      cases wrote
  | ok result =>
      obtain ⟨middle, success⟩ := result
      rw [outcome] at wrote
      cases success with
      | false => cases wrote
      | true =>
          cases wrote
          obtain ⟨rfl, works, fails⟩ :=
            @flashWrite_withFaults store middle faults
              (nextSlotAddress item log) (geometry item).itemWords data
              (geometry item).someWords tracks.idle
              ((geometry item).slotAddress_aligned _ _) outcome
          refine ⟨fun faultFree => ?_, fun words inside failsAt => ?_⟩
          · rw [shape, works faultFree]
            rfl
          · rw [shape, fails words inside failsAt]
            rfl

/-- `ClosePageIfFull` on a full page. -/
theorem closePageIfFull_shape
    (wellFormed : log.WellFormed (geometry item))
    (matched : InfoMatches item log stale (store.itemStore item))
    (opened : log.opened = true)
    (full : log.slot (geometry item) = (geometry item).capacity) :
    closePageIfFull store item =
      (flashWrite store
        (pageAddr ((geometry item).pageOf log.closed) + pageBeginTagSize)
        (completeTagOf item log log.closed).toBytes 8).bind
          fun outcome =>
            if outcome.2 = false then
              .ok (outcome.1, false)
            else
              adjustNextWritePage
                (modifyInfo outcome.1 item
                  (pageClosed (completeTagOf item log log.closed))) item
                (completeTagOf item log log.closed) := by
  have counted := matched.currentPageNrOfItems_eq
  rw [if_pos opened, full] at counted
  have tag := closingTag_eq wellFormed matched counted
  have exceeds := ((geometry item).slotAddress_exceeds_iff
    ((geometry item).pageOf log.closed) (geometry item).capacity).mpr
      (Nat.le_refl _)
  rw [slotAddress] at exceeds
  simp only [closePageIfFull]
  rw [matched.nextPage_eq, counted, matched.itemSize_eq, if_pos exceeds,
    tag]
  rfl

/-- `ClosePageIfFull` on a full page under program faults. -/
theorem closePageIfFull_withFaults
    (tracks : Tracks item log stale store)
    (opened : log.opened = true)
    (full : log.slot (geometry item) = (geometry item).capacity)
    (faults : List Bool) :
    (Works faults 1 →
      closePageIfFull (withFaults store faults) item =
        (closePageIfFull store item).map fun outcome =>
          (withFaults outcome.1 (faults.drop 1), outcome.2)) ∧
      (FailsAt faults 0 →
        closePageIfFull (withFaults store faults) item =
          .ok
            (withFaults
              (written store
                (pageAddr ((geometry item).pageOf log.closed) +
                  pageBeginTagSize)
                (completeTagOf item log log.closed).toBytes 0)
              (faults.drop 1), false)) := by
  obtain ⟨wrote, _, _⟩ := closePage_tracks tracks opened full
  have aligned := pageAddr_aligned ((geometry item).pageOf log.closed)
  obtain ⟨_, works, fails⟩ :=
    @flashWrite_withFaults store _ faults _ 1 _ Nat.zero_lt_one
      tracks.idle
      (show (pageAddr ((geometry item).pageOf log.closed) +
        pageBeginTagSize) % 8 = 0 by
          simp only [pageBeginTagSize]; omega) wrote
  have shape := fun faults => @closePageIfFull_shape item log stale
    (withFaults store faults) tracks.wellFormed tracks.info opened full
  refine ⟨fun faultFree => ?_, fun failsAt => ?_⟩
  · rw [shape, closePageIfFull_shape tracks.wellFormed tracks.info opened
      full, wrote, works faultFree]
    simp only [Except.bind, reduceCtorEq, if_false]
    exact
      @adjustNextWritePage_withFaults
        (modifyInfo (written store _ _ 1) item
          (pageClosed (completeTagOf item log log.closed)))
        (faults.drop 1) item _
  · rw [shape, fails 0 Nat.zero_lt_one failsAt]
    rfl

/-- `AddItem` on a page that is not opened yet. -/
theorem addItem_first_eq
    (tracks : Tracks item log stale store)
    (notOpened : log.opened = false)
    (inWindow : log.closed < log.oldest + (geometry item).nrOfPages)
    (faults : List Bool) :
    addItem (withFaults store faults) item data =
      (flashWrite (withFaults store faults)
        (pageAddr ((geometry item).pageOf log.closed))
        (store.itemStore item).nextWritePageInfo.toBytes
        pageBeginTagSize).bind fun outcome =>
          if outcome.2 = false then
            .ok (outcome.1, false)
          else
            writeItem
              (modifyInfo outcome.1 item fun info =>
                { info with currentPageNrOfItems := 0 }) item data := by
  have holds := tracks.image.currentPage tracks.wellFormed inWindow
  have header :=
    @readHeader_eq (withFaults store faults) _ _ _ _ holds
  rw [headerOf_notOpened item notOpened] at header
  have blank : hasNoData PageHeader.erased.toBytes = true := by
    decide
  have info : (withFaults store faults).itemStore = store.itemStore := rfl
  simp only [addItem, info]
  rw [tracks.info.nextPage_eq, header]
  simp only [blank, if_true]
  rfl

/-- The write of the begin tag under program faults. -/
theorem addItem_first_withFaults
    (tracks : Tracks item log stale store)
    (notOpened : log.opened = false)
    (inWindow : log.closed < log.oldest + (geometry item).nrOfPages)
    (faults : List Bool) :
    ∃ opened,
      Tracks item log.openPage stale opened ∧
      Extends item (openEffects item log) store opened ∧
      (Works faults 1 →
        addItem (withFaults store faults) item data =
          writeItem (withFaults opened (faults.drop 1)) item data) ∧
      (FailsAt faults 0 →
        addItem (withFaults store faults) item data =
          .ok
            (withFaults
              (written store (pageAddr ((geometry item).pageOf log.closed))
                (store.itemStore item).nextWritePageInfo.toBytes 0)
              (faults.drop 1), false)) := by
  obtain ⟨opened, wrote, openTracks, openExtends⟩ :=
    openPage_tracks tracks notOpened inWindow
  obtain ⟨_, works, fails⟩ :=
    @flashWrite_withFaults store opened faults _ 1 _ Nat.zero_lt_one
      tracks.idle (pageAddr_aligned _) wrote
  have oneWord : pageBeginTagSize = 8 * 1 := rfl
  refine ⟨_, openTracks, openExtends, fun faultFree => ?_,
    fun failsAt => ?_⟩
  · rw [addItem_first_eq tracks notOpened inWindow, oneWord,
      works faultFree]
    rfl
  · rw [addItem_first_eq tracks notOpened inWindow, oneWord,
      fails 0 Nat.zero_lt_one failsAt]
    rfl

/-- `AddItem` on the opened page. -/
theorem addItem_opened_eq
    (matched : InfoMatches item log stale (store.itemStore item))
    (read :
      readHeader store ((geometry item).pageOf log.closed) =
        some (headerOf item log log.closed))
    (opened : log.opened = true)
    (faults : List Bool) :
    addItem (withFaults store faults) item data =
      (writeItem (withFaults store faults) item data).bind fun outcome =>
        if outcome.2 = false then
          .ok (outcome.1, false)
        else
          closePageIfFull outcome.1 item := by
  have header :
      readHeader (withFaults store faults)
          ((geometry item).pageOf log.closed) =
        some (headerOf item log log.closed) := read
  rw [headerOf_opened item opened] at header
  have hasData :
      hasNoData
        (PageHeader.toBytes
          { beginTag := beginTagOf item log log.closed
            completeTag := PageCompleteTag.erased }) = false := by
    rw [PageHeader.toBytes, hasNoData_append,
      PageBeginTag.hasNoData_toBytes rfl, Bool.false_and]
  have info : (withFaults store faults).itemStore = store.itemStore := rfl
  simp only [addItem, info]
  rw [matched.nextPage_eq, header]
  simp only [hasData, Bool.false_eq_true, if_false,
    PageCompleteTag.hasNoData_erased, if_true]
  rfl

/-- An add that starts no erase. -/
theorem attempt_idle
    {after : ItemStoreState}
    {result : Bool}
    {rest : List Bool}
    (added :
      addItem (withFaults store faults) item data =
        .ok (withFaults after rest, result))
    (idle : after.flash.Idle) :
    attempt store item data faults = .ok (after, result) := by
  have quiet : withFaults (withFaults after rest) [] = after :=
    withFaults_idle idle
  rw [attempt, added]
  simp only [bind, Except.bind, quiet, finishErase_idle idle]

/-- The store after some double words of a write. -/
theorem extends_write
    (item : ItemDef)
    (store : ItemStoreState)
    (bytes : List Byte)
    {address words : Nat}
    (ordinal : Nat)
    (lower : pageAddr ((geometry item).pageOf ordinal) ≤ address)
    (upper :
      address + 8 * words ≤
        pageAddr ((geometry item).pageOf ordinal) + flashPageSize) :
    Extends item (programEffects (bufferOf bytes) address 0 words) store
      (written store address bytes words) := by
  have unchanged :
      modifyInfo (written store address bytes words) item id =
        written store address bytes words := by
    rw [modifyInfo, id, Function.update_eq_self]
  rw [← unchanged]
  exact extends_written item store bytes ordinal lower upper
    (fun _ => rfl) (fun _ => rfl) (fun _ => rfl)

/-- A write that fails at once. -/
theorem tracks_written_zero
    (tracks : Tracks item log stale store)
    (address : Nat)
    (bytes : List Byte) :
    Tracks item log stale (written store address bytes 0) where
  idle := tracks.idle.written _ _ _
  listenerIdle := tracks.listenerIdle
  noReminder := tracks.noReminder
  wellFormed := tracks.wellFormed
  image := by
    rw [written_memory]
    exact tracks.image
  info := tracks.info

theorem extends_written_zero
    (item : ItemDef)
    (store : ItemStoreState)
    (address : Nat)
    (bytes : List Byte) :
    Extends item [] store (written store address bytes 0) where
  history := rfl
  memory := by
    rw [written_memory]
    rfl
  inside := by simp
  others := fun _ _ => rfl
  currentState := rfl
  enumeratorStatus := rfl
  enumeratorStatusCb := rfl
  recoverableErrors := rfl
  eraseReminder := rfl

/-- A torn item that left no data on flash. -/
theorem tracks_torn
    {words : Nat}
    (tracks : Tracks item log stale store)
    (opened : log.opened = true)
    (room : log.slot (geometry item) < (geometry item).capacity)
    (size : data.length = (geometry item).itemSize)
    (within : words ≤ (geometry item).itemWords)
    (blank : hasNoData (data.take (8 * words)) = true) :
    Tracks item log stale
      (written store (nextSlotAddress item log) data words) where
  idle := tracks.idle.written _ _ _
  listenerIdle := tracks.listenerIdle
  noReminder := tracks.noReminder
  wellFormed := tracks.wellFormed
  image := by
    rw [written_memory]
    exact tracks.image.writeBlank tracks.wellFormed
      (tracks.wellFormed.closed_lt opened) room size within blank
  info := tracks.info

/-- The double words of a torn item. -/
theorem extends_torn
    {words : Nat}
    (room : log.slot (geometry item) < (geometry item).capacity)
    (within : words ≤ (geometry item).itemWords) :
    Extends item (itemEffects item log data words) store
      (written store (nextSlotAddress item log) data words) := by
  have start := slotAddress_ge (geometry item).itemSize
    ((geometry item).pageOf log.closed) (log.slot (geometry item))
  have fits := (geometry item).slotAddress_fits
    ((geometry item).pageOf log.closed)
    (show log.slot (geometry item) + 1 ≤ (geometry item).capacity by omega)
  rw [slotAddress_succ] at fits
  have size :
      (geometry item).itemSize = 8 * (geometry item).itemWords := rfl
  have address :
      nextSlotAddress item log =
        slotAddress (geometry item).itemSize
          ((geometry item).pageOf log.closed)
          (log.slot (geometry item)) := rfl
  exact extends_write item store data log.closed (by omega) (by omega)

/-- Faults that leave the store as it was or with one more item. -/
def ProperFaults
    (item : ItemDef) (log : StoreLog) (data : List Byte)
    (faults : List Bool) : Prop :=
  (∀ words < (geometry item).itemWords,
      FailsAt faults ((openingEffects item log).length + words) →
        hasNoData (data.take (8 * words)) = true) ∧
    (log.opened = true →
      log.slot (geometry item) + 1 = (geometry item).capacity →
        ¬ FailsAt faults
          ((openingEffects item log).length + (geometry item).itemWords))

/-- What an add under program faults leaves behind. -/
def Attempted
    (item : ItemDef) (log : StoreLog) (data : List Byte)
    (faults : List Bool) (store : ItemStoreState) : Prop :=
  ∃ after result effects,
    attempt store item data faults = .ok (after, result) ∧
    Extends item effects store after ∧
    effects <+: addEffects item log data ∧
    (faults = [] → result = true) ∧
    (ProperFaults item log data faults →
      ∃ next stale,
        stale ≤ (geometry item).capacity ∧
        Tracks item next stale after ∧
        next.Regular (geometry item) ∧
        next.items = if result then log.items ++ [data] else log.items)

/-- An add to a page that is not opened yet. -/
theorem attempted_first
    (tracks : Tracks item log stale store)
    (regular : log.Regular (geometry item))
    (staleLe : stale ≤ (geometry item).capacity)
    (notOpened : log.opened = false)
    (size : data.length = (geometry item).itemSize)
    (faults : List Bool) :
    Attempted item log data faults store := by
  have inWindow := regular.inWindow
  have room := regular.room
  have openRegular := regular_openPage regular
  have opening : openingEffects item log = openEffects item log := by
    rw [openingEffects, notOpened]
    rfl
  have oneWord : (openingEffects item log).length = 1 := by
    rw [opening]
    simp [openEffects]
  obtain ⟨opened, openTracks, openExtends, works, fails⟩ :=
    @addItem_first_withFaults item log stale store data tracks notOpened
      inWindow faults
  obtain ⟨after, _, afterTracks, afterExtends, itemWorks, itemFails⟩ :=
    writeItem_withFaults openTracks rfl room size (faults.drop 1)
  rw [← opening] at openExtends
  rcases works_or_failsAt faults (1 + (geometry item).itemWords) with
    faultFree | ⟨operation, inside, failsAt⟩
  · have slots := regular.wellFormed.items_eq notOpened
    have large := (geometry item).capacity_ge
    have grown := @add_eq_writeSlot item log data regular (by
      rw [StoreLog.slot]
      omega)
    rw [← grown] at afterTracks
    have added := works (faultFree.mono (by omega))
    rw [itemWorks (Works.drop faultFree)] at added
    refine ⟨after, true, _, attempt_idle added afterTracks.idle,
      openExtends.trans afterExtends, ?_, fun _ => rfl, fun _ => ?_⟩
    · exact take_addEffects_item (Nat.le_refl _) ▸ List.take_prefix _ _
    · exact ⟨_, _, staleLe, afterTracks, regular.add size,
        log.items_add data⟩
  · rcases Nat.eq_zero_or_pos operation with rfl | later
    · have zero := tracks_written_zero tracks
        (pageAddr ((geometry item).pageOf log.closed))
        (store.itemStore item).nextWritePageInfo.toBytes
      refine ⟨_, false, [], attempt_idle (fails failsAt) zero.idle,
        extends_written_zero item store _ _, List.nil_prefix,
        failsAt.absurd_nil, fun _ => ?_⟩
      exact ⟨log, stale, staleLe, zero, regular, rfl⟩
    · obtain ⟨words, rfl⟩ := Nat.exists_eq_add_of_le later
      have within : words < (geometry item).itemWords := by omega
      have added := works (failsAt.before.mono (by omega))
      rw [itemFails words within (FailsAt.drop failsAt)] at added
      refine ⟨_, false, _,
        attempt_idle added (openTracks.idle.written _ _ _),
        openExtends.trans (extends_torn room (Nat.le_of_lt within)),
        ?_, failsAt.absurd_nil, fun proper => ?_⟩
      · exact take_addEffects_item (Nat.le_of_lt within) ▸
          List.take_prefix _ _
      · refine ⟨log.openPage, stale, staleLe, ?_, openRegular, rfl⟩
        exact tracks_torn openTracks rfl room size (Nat.le_of_lt within)
          (proper.1 words within (by rw [oneWord]; exact failsAt))

/-- Program faults in an add that completes without an erase. -/
theorem attempt_completed
    {pending after : ItemStoreState}
    {rest : List Bool}
    (added :
      addItem (withFaults store faults) item data =
        .ok (withFaults pending rest, true))
    (faultFree : withFaults pending [] = pending)
    (finished : finishErase pending = .ok after) :
    attempt store item data faults = .ok (after, true) := by
  have quiet : withFaults (withFaults pending rest) [] = pending :=
    faultFree
  rw [attempt, added]
  simp only [bind, Except.bind, quiet, finished]

/-- An add to the opened page. -/
theorem attempted_opened
    (tracks : Tracks item log stale store)
    (regular : log.Regular (geometry item))
    (staleLe : stale ≤ (geometry item).capacity)
    (opened : log.opened = true)
    (size : data.length = (geometry item).itemSize)
    (faults : List Bool) :
    Attempted item log data faults store := by
  have room := regular.room
  have sameLog : log.openPage = log := by
    rw [StoreLog.openPage, ← opened]
  have opening : openingEffects item log = [] := by
    rw [openingEffects, opened]
    rfl
  have prefixes : ∀ words, words ≤ (geometry item).itemWords →
      itemEffects item log data words <+: addEffects item log data := by
    intro words within
    have taken := @take_addEffects_item item log data words within
    rw [opening, List.nil_append] at taken
    rw [← taken]
    exact List.take_prefix _ _
  obtain ⟨middle, _, middleTracks, middleExtends, works, fails⟩ :=
    writeItem_withFaults tracks opened room size faults
  have shape := @addItem_opened_eq item log stale store data tracks.info
    (readHeader_eq (tracks.image.currentPage tracks.wellFormed
      regular.inWindow)) opened faults
  rcases works_or_failsAt faults (geometry item).itemWords with
    faultFree | ⟨words, within, failsAt⟩
  · rw [works faultFree] at shape
    have grown := regular.wellFormed.slot_writeSlot data
    rw [sameLog] at grown
    by_cases full : log.slot (geometry item) + 1 = (geometry item).capacity
    · have fullPage :
          (log.writeSlot data).slot (geometry item) =
            (geometry item).capacity := grown.trans full
      obtain ⟨closeWorks, closeFails⟩ := closePageIfFull_withFaults
        middleTracks opened fullPage (faults.drop (geometry item).itemWords)
      rcases works_or_failsAt (faults.drop (geometry item).itemWords) 1
        with closed | ⟨operation, first, failsAt⟩
      · obtain ⟨pending, after, closing, finished, afterTracks,
            afterExtends⟩ :=
          closePageIfFull_full middleTracks opened fullPage
        have faultless :=
          (closePageIfFull_withFaults middleTracks opened fullPage []).1
            (works_nil 1)
        rw [withFaults_idle middleTracks.idle, closing] at faultless
        have unchanged : withFaults pending [] = pending :=
          (congrArg Prod.fst (Except.ok.inj faultless)).symm
        have added := closeWorks closed
        rw [closing] at added
        refine ⟨after, true, _,
          attempt_completed (shape.trans added) unchanged finished,
          middleExtends.trans afterExtends, ?_, fun _ => rfl,
          fun _ => ?_⟩
        · rw [addEffects, sameLog, opened, if_pos fullPage]
          exact List.prefix_refl _
        · refine ⟨log.add (geometry item) data, _, Nat.le_refl _, ?_,
            regular.add size, log.items_add data⟩
          rw [add_eq_finishPage regular full, sameLog]
          exact afterTracks
      · obtain rfl : operation = 0 := by omega
        have zero := tracks_written_zero middleTracks
          (pageAddr ((geometry item).pageOf (log.writeSlot data).closed) +
            pageBeginTagSize)
          (completeTagOf item (log.writeSlot data)
            (log.writeSlot data).closed).toBytes
        refine ⟨_, false, _,
          attempt_idle (shape.trans (closeFails failsAt)) zero.idle,
          middleExtends.trans (extends_written_zero item middle _ _), ?_,
          fun none => ?_, fun proper => ?_⟩
        · rw [List.append_nil]
          exact prefixes _ (Nat.le_refl _)
        · rw [none, List.drop_nil] at failsAt
          exact failsAt.absurd_nil rfl
        · refine absurd ⟨?_, ?_⟩ (proper.2 opened full)
          · rw [opening, List.length_nil, Nat.zero_add]
            exact faultFree
          · have fails := failsAt.fails
            rw [List.getElem?_drop, Nat.add_zero] at fails
            rw [opening, List.length_nil, Nat.zero_add]
            exact fails
    · have counted := middleTracks.info.currentPageNrOfItems_eq
      rw [if_pos (show (log.writeSlot data).opened = true from opened)]
        at counted
      have closed := @closePageIfFull_room item
        (withFaults middle (faults.drop (geometry item).itemWords))
        middleTracks.info.toStaticInfo
        (show (middle.itemStore item).currentPageNrOfItems <
          (geometry item).capacity by omega)
      refine ⟨middle, true, _,
        attempt_idle (shape.trans closed) middleTracks.idle, middleExtends,
        prefixes _ (Nat.le_refl _), fun _ => rfl, fun _ => ?_⟩
      refine ⟨log.add (geometry item) data, stale, staleLe, ?_,
        regular.add size, log.items_add data⟩
      rw [add_eq_writeSlot regular full, sameLog]
      exact middleTracks
  · rw [fails words within failsAt] at shape
    refine ⟨_, false, _, attempt_idle shape (tracks.idle.written _ _ _),
      extends_torn room (Nat.le_of_lt within),
      prefixes words (Nat.le_of_lt within), failsAt.absurd_nil,
      fun proper => ?_⟩
    refine ⟨log, stale, staleLe, ?_, regular, rfl⟩
    exact tracks_torn tracks opened room size (Nat.le_of_lt within)
      (proper.1 words within (by
        rw [opening, List.length_nil, Nat.zero_add]
        exact failsAt))

/-- An add to a store that describes a log. -/
theorem attempted
    (tracks : Tracks item log stale store)
    (regular : log.Regular (geometry item))
    (staleLe : stale ≤ (geometry item).capacity)
    (size : data.length = (geometry item).itemSize)
    (faults : List Bool) :
    Attempted item log data faults store := by
  cases opened : log.opened with
  | false => exact attempted_first tracks regular staleLe opened size faults
  | true => exact attempted_opened tracks regular staleLe opened size faults

/-- The header of the current page shows whether it is opened. -/
theorem hasErasedHeader_currentPage
    (tracks : Tracks item log stale store)
    (inWindow : log.closed < log.oldest + (geometry item).nrOfPages) :
    hasErasedHeader store (currentPage store item) = !log.opened := by
  have read :=
    readHeader_eq (tracks.image.currentPage tracks.wellFormed inWindow)
  rw [hasErasedHeader, currentPage, tracks.info.nextPage_eq, read]
  cases opened : log.opened with
  | false =>
      rw [headerOf_notOpened item opened]
      decide
  | true =>
      rw [headerOf_opened item opened, Option.any_some, PageHeader.toBytes,
        hasNoData_append, PageBeginTag.hasNoData_toBytes rfl,
        Bool.false_and]
      rfl

/-- The page of the log that the variables name. -/
theorem currentPage_eq
    (tracks : Tracks item log stale store) :
    currentPage store item = (geometry item).pageOf log.closed :=
  tracks.info.nextPage_eq

theorem openingWords_eq
    (tracks : Tracks item log stale store)
    (inWindow : log.closed < log.oldest + (geometry item).nrOfPages) :
    openingWords store item = (openingEffects item log).length := by
  rw [openingWords, hasErasedHeader_currentPage tracks inWindow,
    openingEffects]
  cases log.opened with
  | false => simp [openEffects]
  | true => rfl

/-- Proper faults in terms of the log. -/
theorem properFaults
    {state : WriteState}
    {call : Attempt}
    (proper : Proper state call)
    (tracks : Tracks call.item log stale state.store)
    (inWindow :
      log.closed < log.oldest + (geometry call.item).nrOfPages) :
    ProperFaults call.item log call.data.val call.faults := by
  have words := openingWords_eq tracks inWindow
  rw [ProperFaults, ← words]
  refine ⟨proper.item, fun opened full => proper.completeTag ⟨?_, ?_⟩⟩
  · rw [hasErasedHeader_currentPage tracks inWindow, opened]
    rfl
  · rw [tracks.info.currentPageNrOfItems_eq, if_pos opened]
    exact full

/-- A list of operations that starts with these is confined. -/
theorem inPage_of_prefix
    {first last : Nat}
    {memory : Memory}
    {effects all : List FlashEffect}
    (programs : ProgramsErased first last memory all)
    (started : effects <+: all) :
    ∀ effect ∈ effects, ∀ address, effect.programmed? = some address →
      first ≤ address ∧ address + 8 ≤ last := by
  intro effect member
  have whole := started.subset member
  clear started member
  induction all generalizing memory with
  | nil => cases whole
  | cons head rest inductionHypothesis =>
      rcases List.mem_cons.mp whole with rfl | later
      · intro address programmed
        have inside := programs.1 address programmed
        exact ⟨inside.1, inside.2.1⟩
      · exact inductionHypothesis programs.2 later

/-- The item added last is kept. -/
theorem keptItems_append
    (item : ItemDef)
    (items : List (List Byte))
    (data : List Byte) :
    ∃ older, keptItems item (items ++ [data]) = older ++ [data] := by
  have some := @keptItems_ne_nil item (items ++ [data]) (by simp)
  have length := List.length_pos_of_ne_nil some
  rw [keptItems, List.length_drop] at length
  have whole : (items ++ [data]).length = items.length + 1 := by simp
  rw [keptItems, List.drop_append_of_le_length (by omega)]
  exact ⟨_, rfl⟩

end Store

/-- The store describes a log of the items it has accepted. -/
def Holds
    (item : ItemDef) (stored : List (List Byte))
    (store : ItemStoreState) : Prop :=
  ∃ log stale,
    stale ≤ (geometry item).capacity ∧
    Tracks item log stale store ∧
    log.Regular (geometry item) ∧
    log.items = stored

/-- A store that describes a log is robust. -/
theorem Holds.robust
    {item : ItemDef}
    {state : WriteState}
    (holds : Holds item (state.stored item) state.store) :
    Robust state item := by
  obtain ⟨log, stale, staleLe, tracks, regular, items⟩ := holds
  refine
    { enumeration := ?_
      confined := fun data faults => ?_
      recovers := fun data => ?_ }
  · rw [← items, ← retained_eq_keptItems regular]
    exact enumeratesFromStart_of_tracks tracks regular.spacious staleLe
  · obtain ⟨after, result, effects, added, extended, started, _⟩ :=
      attempted tracks regular staleLe data.property faults
    refine ⟨_, effects, added, extended.history, ?_⟩
    rw [currentPage_eq tracks]
    exact inPage_of_prefix
      (tracks.image.programs_addEffects regular data.property) started
  · obtain ⟨after, result, effects, added, _, _, succeeds, settles⟩ :=
      attempted tracks regular staleLe data.property []
    obtain ⟨next, nextStale, nextLe, nextTracks, nextRegular, nextItems⟩ :=
      settles
        ⟨fun _ _ failsAt => failsAt.absurd_nil rfl,
          fun _ _ failsAt => failsAt.absurd_nil rfl⟩
    rw [succeeds rfl] at added nextItems
    rw [if_pos rfl, items] at nextItems
    obtain ⟨older, newest⟩ :=
      keptItems_append item (state.stored item) data.val
    refine ⟨after, older, added, newest, ?_⟩
    rw [← newest, ← nextItems, ← retained_eq_keptItems nextRegular]
    exact enumeratesFromStart_of_tracks nextTracks nextRegular.spacious nextLe

/-- An add with proper faults keeps what every store holds. -/
theorem holds_step
    {state next : WriteState}
    {call : Attempt}
    (holds : ∀ item, Holds item (state.stored item) state.store)
    (moves : system.step state call next)
    (proper : Proper state call) :
    ∀ item, Holds item (next.stored item) next.store := by
  obtain ⟨outcome, moved, rfl⟩ := moves
  obtain ⟨log, stale, staleLe, tracks, regular, items⟩ := holds call.item
  obtain ⟨after, result, effects, added, extended, _, _, settles⟩ :=
    attempted tracks regular staleLe call.data.property call.faults
  obtain ⟨grown, grownStale, grownLe, grownTracks, grownRegular,
      grownItems⟩ :=
    settles (properFaults proper tracks regular.inWindow)
  rw [added] at moved
  cases moved
  intro item
  by_cases same : item = call.item
  · subst same
    refine ⟨grown, grownStale, grownLe, grownTracks, grownRegular, ?_⟩
    rw [grownItems, items]
    cases result with
    | false => rfl
    | true => simp [WriteState.after]
  · obtain ⟨other, otherStale, otherLe, otherTracks, otherRegular,
        otherItems⟩ := holds item
    refine ⟨other, otherStale, otherLe,
      otherTracks.frame (Ne.symm same) extended grownTracks.idle
        grownTracks.listenerIdle, otherRegular, ?_⟩
    rw [otherItems]
    cases result with
    | false => rfl
    | true => simp [WriteState.after, same]

/-- The boot over erased flash. -/
theorem holds_start
    {state : WriteState}
    (starts : system.start state)
    (item : ItemDef) :
    Holds item (state.stored item) state.store := by
  obtain ⟨booted, none⟩ := starts
  obtain ⟨store, boots, each⟩ := init_empty
  rw [boots] at booted
  cases booted
  rw [none]
  exact ⟨StoreLog.empty, 0, Nat.zero_le _, (each item).1,
    StoreLog.regular_empty _, rfl⟩

/-- Every store holds its items in all runs with proper faults. -/
theorem holds_run
    {calls : List Attempt}
    {state : WriteState}
    (run : Run (system.restrict Proper) calls state)
    (item : ItemDef) :
    Holds item (state.stored item) state.store := by
  have holds : ∀ item, Holds item (state.stored item) state.store := by
    refine @Run.invariant _ _ _
      (fun state => ∀ item, Holds item (state.stored item) state.store)
      ?_ ?_ _ _ run
    · exact fun _ starts => holds_start starts
    · exact fun _ _ _ holds moves => holds_step holds moves.1 moves.2
  exact holds item

/--
While no item is torn and no complete tag fails, write failures neither corrupt
nor wedge a store.
-/
theorem write_failures_robust
    {calls : List Attempt}
    {state : WriteState}
    (run : Run (system.restrict Proper) calls state)
    (item : ItemDef) :
    Robust state item :=
  (holds_run run item).robust

/-- A settings record of zero bytes. -/
def zeroRecord : ItemBytes .systemConfig where
  val := List.replicate 128 0
  property := by
    rw [List.length_replicate]
    rfl

/-- An add during which the flash works. -/
def faultless (data : ItemBytes .systemConfig) : Attempt where
  item := .systemConfig
  data := data
  faults := []

/-- An add whose first program operation fails. -/
def refused (data : ItemBytes .systemConfig) : Attempt where
  item := .systemConfig
  data := data
  faults := [true]

section Calls

variable {calls : List Attempt}
variable {state : WriteState}

/-- Adds during which the flash works are accepted. -/
theorem run_faultless
    (run : Run (system.restrict Proper) calls state)
    (items : List (ItemBytes .systemConfig)) :
    ∃ after,
      Run (system.restrict Proper) (calls ++ items.map faultless) after ∧
      after.stored =
        Function.update state.stored .systemConfig
          (state.stored .systemConfig ++ items.map Subtype.val) := by
  induction items generalizing calls state with
  | nil =>
      refine ⟨state, ?_, ?_⟩
      · rwa [List.map_nil, List.append_nil]
      · rw [List.map_nil, List.append_nil, Function.update_eq_self]
  | cons data rest inductionHypothesis =>
      obtain ⟨store, _, added, _⟩ :=
        (holds_run run .systemConfig).robust.recovers data
      have proper : Proper state (faultless data) :=
        ⟨fun _ _ failsAt => failsAt.absurd_nil rfl,
          fun _ failsAt => failsAt.absurd_nil rfl⟩
      obtain ⟨after, accepted, stored⟩ := inductionHypothesis
        (run.step (faultless data) ⟨⟨(store, true), added, rfl⟩, proper⟩)
      rw [List.append_assoc] at accepted
      refine ⟨after, accepted, ?_⟩
      rw [stored]
      simp [WriteState.after, faultless]

/-- An add whose first program operation fails is refused. -/
theorem attempt_refused
    {item : ItemDef}
    {log : StoreLog}
    {stale : Nat}
    {store : ItemStoreState}
    {data : List Byte}
    {faults : List Bool}
    (tracks : Tracks item log stale store)
    (regular : log.Regular (geometry item))
    (size : data.length = (geometry item).itemSize)
    (fails : FailsAt faults 0) :
    ∃ after, attempt store item data faults = .ok (after, false) := by
  cases opened : log.opened with
  | false =>
      obtain ⟨_, _, _, _, refuses⟩ :=
        @addItem_first_withFaults item log stale store data tracks opened
          regular.inWindow faults
      exact ⟨_, attempt_idle (refuses fails) (tracks.idle.written _ _ _)⟩
  | true =>
      obtain ⟨_, _, _, _, _, refuses⟩ :=
        writeItem_withFaults tracks opened regular.room size faults
      have shape := @addItem_opened_eq item log stale store data tracks.info
        (readHeader_eq (tracks.image.currentPage tracks.wellFormed
          regular.inWindow)) opened faults
      rw [refuses 0 (geometry item).someWords fails] at shape
      exact ⟨_, attempt_idle shape (tracks.idle.written _ _ _)⟩

/-- A refused add stores nothing. -/
theorem run_refused
    (run : Run (system.restrict Proper) calls state)
    (data : ItemBytes .systemConfig) :
    ∃ after,
      Run (system.restrict Proper) (calls ++ [refused data]) after ∧
      after.stored = state.stored := by
  obtain ⟨log, stale, _, tracks, regular, _⟩ :=
    holds_run run .systemConfig
  have first : FailsAt (refused data).faults 0 := ⟨nofun, rfl⟩
  have only : ∀ operation, FailsAt (refused data).faults operation →
      operation = 0 := by
    intro operation failsAt
    by_contra later
    exact failsAt.before 0 (by omega) rfl
  have proper : Proper state (refused data) := by
    refine ⟨fun words _ failsAt => ?_, fun _ failsAt => ?_⟩
    · have none := only _ failsAt
      rw [show words = 0 by omega]
      rfl
    · have none := only _ failsAt
      have some := (geometry (refused data).item).someWords
      omega
  obtain ⟨store, added⟩ :=
    attempt_refused tracks regular data.property first
  exact ⟨_, run.step (refused data) ⟨⟨(store, false), added, rfl⟩, proper⟩,
    rfl⟩

end Calls

/--
The records of the first page are stored, the begin tag of the second page
fails, and further records are stored.
-/
theorem write_failures_robust_refused :
    ∃ state,
      Run (system.restrict Proper)
          ([] ++ ((records 40).take 31).map faultless ++
            [refused zeroRecord] ++ ((records 40).drop 31).map faultless)
          state ∧
        state.stored .systemConfig = numbered 40 ∧
        Robust state .systemConfig := by
  obtain ⟨store, boots, each⟩ := init_empty
  have start : Run (system.restrict Proper) [] ⟨store, fun _ => []⟩ :=
    .start ⟨boots, rfl⟩
  obtain ⟨first, filled, stored⟩ := run_faultless start ((records 40).take 31)
  obtain ⟨second, fails, same⟩ := run_refused filled zeroRecord
  obtain ⟨final, run, all⟩ := run_faultless fails ((records 40).drop 31)
  have values : (records 40).map Subtype.val = numbered 40 :=
    List.attachWith_map_subtype_val _
  refine ⟨final, run, ?_, write_failures_robust run .systemConfig⟩
  rw [all, same, stored, Function.update_self, Function.update_self,
    List.nil_append, ← List.map_append, List.take_append_drop, values]

/-! A torn item blocks its store. -/

/-- The slot of the next item is not erased. -/
structure Wedged
    (item : ItemDef) (log : StoreLog) (stale : Nat)
    (store : ItemStoreState) : Prop where
  idle : store.flash.Idle
  unlocked : store.flash.semaphoreLocked = false
  opened : log.opened = true
  room : log.slot (geometry item) < (geometry item).capacity
  matched : InfoMatches item log stale (store.itemStore item)
  read :
    readHeader store ((geometry item).pageOf log.closed) =
      some (headerOf item log log.closed)
  torn :
    Flash.isErasedDoubleWord store.flash.memory
      (nextSlotAddress item log) = false

/-- No add to a wedged store succeeds, and none changes it. -/
theorem Wedged.attempt
    {item : ItemDef}
    {log : StoreLog}
    {stale : Nat}
    {store : ItemStoreState}
    (wedged : Wedged item log stale store)
    (data : List Byte)
    (faults : List Bool) :
    attempt store item data faults = .ok (store, false) := by
  have writable := (geometry item).pageOf_writable log.closed
  have range := pageAddr_writable writable.1 writable.2
  have start := slotAddress_ge (geometry item).itemSize
    ((geometry item).pageOf log.closed) (log.slot (geometry item))
  have fits := (geometry item).slotAddress_fits
    ((geometry item).pageOf log.closed)
    (show log.slot (geometry item) + 1 ≤ (geometry item).capacity from
      wedged.room)
  rw [slotAddress_succ] at fits
  have words :
      (geometry item).itemSize = 8 * (geometry item).itemWords := rfl
  have address :
      nextSlotAddress item log =
        slotAddress (geometry item).itemSize
          ((geometry item).pageOf log.closed)
          (log.slot (geometry item)) := rfl
  have wrote :=
    @Flash.write_programmed store.flash faults
      (nextSlotAddress item log) (8 * (geometry item).itemWords)
      (bufferOf data) wedged.idle
      ((geometry item).slotAddress_aligned _ _) (by omega) (by omega)
      wedged.torn
  have same :
      ({ store.flash with
          programFaults := faults.tail
          semaphoreLocked := false } : Flash) =
        store.flash.withFaults faults.tail := by
    rw [Flash.withFaults, ← wedged.unlocked]
  rw [same] at wrote
  have item_eq := @writeItem_eq item log stale (withFaults store faults)
    wedged.matched wedged.opened data
  have failed :
      writeItem (withFaults store faults) item data =
        .ok (withFaults store faults.tail, false) := by
    rw [item_eq, flashWrite, withFaults, wrote]
    rfl
  have added := @addItem_opened_eq item log stale store data
    wedged.matched wedged.read wedged.opened faults
  rw [failed] at added
  exact attempt_idle added wedged.idle

/-- A torn item of which the first double word reached the flash. -/
theorem wedged_torn
    {item : ItemDef}
    {log : StoreLog}
    {stale words : Nat}
    {store : ItemStoreState}
    {data : List Byte}
    (tracks : Tracks item log stale store)
    (opened : log.opened = true)
    (room : log.slot (geometry item) < (geometry item).capacity)
    (size : data.length = (geometry item).itemSize)
    (some : 0 < words)
    (within : words ≤ (geometry item).itemWords)
    (hasData : hasNoData (data.take 8) = false) :
    Wedged item log stale
      (written store (nextSlotAddress item log) data words) where
  idle := tracks.idle.written _ _ _
  unlocked := rfl
  opened := opened
  room := room
  matched := tracks.info
  read := by
    have inWindow := tracks.wellFormed.closed_lt opened
    have image := tracks.image.writeTorn tracks.wellFormed inWindow room
      size within
    rw [itemEffects, ← written_memory] at image
    have torn := length_tornSlot size within
    exact readHeader_eq (image.currentPage
      (tracks.wellFormed.writeSlot opened room torn) inWindow)
  torn := by
    have length :
        (geometry item).itemSize = 8 * (geometry item).itemWords := rfl
    have bytes :
        (data.take (8 * words)).length = 8 * words := by
      rw [List.length_take]
      omega
    have stored := readBytes_writeBytes_same store.flash.memory
      (nextSlotAddress item log) (data.take (8 * words))
    have first := congrArg (List.take 8) stored
    rw [bytes, take_readBytes, List.take_take,
      show min 8 (8 * words) = 8 by omega] at first
    have filled : (data.take 8).length = 8 := by
      rw [List.length_take]
      omega
    have memory :
        (written store (nextSlotAddress item log) data words).flash.memory =
          writeBytes store.flash.memory (nextSlotAddress item log)
            (data.take (8 * words)) := by
      rw [← readBytes_bufferOf (by omega)]
      rfl
    rw [memory, Flash.isErasedDoubleWord, first, decide_eq_false_iff_not]
    intro blank
    have noData := (hasNoData_iff (data.take 8)).mpr (by
      rw [filled]
      exact blank)
    rw [hasData] at noData
    cases noData

/-- The second double word of the first settings record fails. -/
def tornCall : Attempt where
  item := .systemConfig
  data := zeroRecord
  faults := [false, false, true]

/-- After one torn item no later add to the store succeeds. -/
theorem torn_item_wedges :
    ∃ state,
      Run system [tornCall] state ∧
        (∀ data faults,
          attempt state.store tornCall.item data faults =
            .ok (state.store, false)) ∧
        ¬ Robust state tornCall.item := by
  obtain ⟨store, boots, each⟩ := init_empty
  have starts : system.start ⟨store, fun _ => []⟩ := ⟨boots, rfl⟩
  have regular := StoreLog.regular_empty (geometry .systemConfig)
  have size := zeroRecord.property
  have within : 1 < (geometry .systemConfig).itemWords := by decide
  have first : Works tornCall.faults 1 := by
    intro operation inside
    obtain rfl : operation = 0 := by omega
    decide
  have second : FailsAt (tornCall.faults.drop 1) 1 := by
    refine ⟨?_, rfl⟩
    intro operation inside
    obtain rfl : operation = 0 := by omega
    decide
  obtain ⟨opened, openTracks, _, works, _⟩ :=
    @addItem_first_withFaults .systemConfig StoreLog.empty 0 store
      zeroRecord.val (each .systemConfig).1 rfl regular.inWindow
      tornCall.faults
  obtain ⟨_, _, _, _, _, fails⟩ :=
    writeItem_withFaults openTracks rfl regular.room size
      (tornCall.faults.drop 1)
  have added := works first
  rw [fails 1 within second] at added
  have wedged := wedged_torn openTracks rfl regular.room size
    Nat.zero_lt_one (Nat.le_of_lt within) (by decide)
  have moves :
      system.step ⟨store, fun _ => []⟩ tornCall
        (WriteState.after ⟨store, fun _ => []⟩ tornCall _) :=
    ⟨_, attempt_idle added wedged.idle, rfl⟩
  refine ⟨_, Run.step (.start starts) tornCall moves, wedged.attempt,
    fun robust => ?_⟩
  obtain ⟨after, _, succeeds, _⟩ := robust.recovers zeroRecord
  have both := (wedged.attempt zeroRecord.val []).symm.trans succeeds
  exact Bool.false_ne_true (congrArg Prod.snd (Except.ok.inj both))

end DemoBoard.WriteFailures
