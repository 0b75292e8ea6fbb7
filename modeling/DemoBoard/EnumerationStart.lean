import DemoBoard.ItemStoreDeletes
import DemoBoard.ItemStoreSuffix

namespace DemoBoard.ItemStore

open ByteMemory ItemStoreDeletes

/-!
# Where an enumeration has to stand

A start index counts from the first or from behind the last item on flash.  An
index that no item belongs to leaves nothing to enumerate.  Which start indices
`BeginEnumerate` honours depends on the items and on the count of items that is
left over from a page that was just closed.
-/

/-- `BeginEnumerate` has found what a start index asks for. -/
def StandsAt
    (items : List (List Byte)) (startIndex : Int)
    (outcome : ItemStoreState × Enumerator × Bool) : Prop :=
  let first := firstWanted items.length startIndex
  if first < items.length then
    outcome.2.2 = true ∧
      Delivers outcome.1 outcome.2.1 (items.drop first)
  else
    outcome.2.2 = false

/--
The start indices that a store with these items honours: an index behind the
last item must not wrap to an item and must not be the end of a page; the others
are as in `StartHonoured`, where a page was just closed if the count of its
items is left over.
-/
def HonouredAt
    (item : ItemDef) (info : ItemStoreInfo) (items : List (List Byte))
    (startIndex : Int) : Prop :=
  let first := firstWanted items.length startIndex
  if items.length ≤ first then
    items = [] ∨ (items.length : Int) < startIndex % 65536 ∨
      (items.length : Int) = startIndex % 65536 ∧
        ¬ (geometry item).capacity ∣ items.length
  else if info.currentPageNrOfItems = (geometry item).capacity then
    if 0 ≤ startIndex then
      startIndex = 0 ∨ ¬ ((geometry item).capacity : Int) ∣ startIndex
    else
      ((geometry item).capacity : Int) ∣ startIndex ∨
        startIndex ≤ -(items.length + (geometry item).capacity : Int)
  else
    first = 0 ∨ ¬ (geometry item).capacity ∣ first ∨
      ∀ index, first ≤ index → index < items.length →
        items[index]? = items[index - (geometry item).capacity]?

section Starts

variable {item : ItemDef}
variable {log : StoreLog}
variable {stale : Nat}
variable {state : ItemStoreState}
variable {startIndex : Int}

/-- An index that an item belongs to. -/
theorem firstWanted_lt_iff
    (kept : Nat)
    (startIndex : Int) :
    firstWanted kept startIndex < kept ↔
      startIndex < kept ∧ 0 < kept := by
  rw [firstWanted]
  split <;> omega

/-- Whether an enumeration is ready depends on the number it skips. -/
theorem beginEnumerate_ready_iff
    (tracks : Tracks item log stale state)
    (spacious : log.Spacious (geometry item))
    (staleLe : stale ≤ (geometry item).capacity)
    {skipped : Nat}
    (skip :
      itemsToSkip (announcedItems item log stale) startIndex = skipped) :
    (beginEnumerate state item (enumeratorFrom startIndex)).2.2 = true ↔
      Startable item log skipped := by
  by_cases startable : Startable item log skipped
  · obtain ⟨_, _, _, _, begun, _⟩ :=
      beginEnumerate_ready tracks spacious staleLe startIndex skip startable
    simp only [begun, startable]
  · have notReady := beginEnumerate_notReady tracks spacious staleLe
      startIndex skip startable
    simp only [notReady, startable, Bool.false_eq_true]

/-- The current page is empty when the items fill whole pages. -/
theorem closedItems_eq_iff
    (regular : log.Regular (geometry item)) :
    closedItems item log = (log.retained (geometry item)).length ↔
      (geometry item).capacity ∣ (log.retained (geometry item)).length := by
  have room := regular.room
  have whole : (geometry item).capacity ∣ closedItems item log :=
    Nat.dvd_mul_left _ _
  have few : currentItems item log < (geometry item).capacity := by
    rw [currentItems]
    split
    · exact room
    · exact (geometry item).capacity_pos
  rw [length_retained regular.wellFormed, Nat.dvd_add_right whole]
  constructor
  · intro same
    rw [show currentItems item log = 0 by omega]
    exact Nat.dvd_zero _
  · intro divides
    rw [Nat.eq_zero_of_dvd_of_lt divides few, Nat.add_zero]

/-- A start index behind the last item leaves nothing to enumerate. -/
theorem standsAt_beyond_iff
    (tracks : Tracks item log stale state)
    (regular : log.Regular (geometry item))
    (staleLe : stale ≤ (geometry item).capacity)
    (beyond :
      ¬ firstWanted (log.retained (geometry item)).length startIndex <
        (log.retained (geometry item)).length) :
    (beginEnumerate state item (enumeratorFrom startIndex)).2.2 = false ↔
      log.retained (geometry item) = [] ∨
        ((log.retained (geometry item)).length : Int) <
            startIndex % 65536 ∨
          ((log.retained (geometry item)).length : Int) =
              startIndex % 65536 ∧
            ¬ (geometry item).capacity ∣
              (log.retained (geometry item)).length := by
  have kept := @length_retained item log regular.wellFormed
  have positive := (geometry item).capacity_pos
  have oldest := regular.wellFormed.oldest_le
  have someClosed :
      log.oldest < log.closed ↔ 0 < closedItems item log := by
    rw [closedItems, Nat.mul_pos_iff_of_pos_right positive]
    omega
  have readyIff :
      (beginEnumerate state item (enumeratorFrom startIndex)).2.2 = true ↔
        Startable item log
          (itemsToSkip (announcedItems item log stale) startIndex) :=
    beginEnumerate_ready_iff tracks regular.spacious staleLe rfl
  have whole := closedItems_eq_iff regular
  rw [firstWanted_lt_iff] at beyond
  rw [← Bool.not_eq_true, readyIff, Startable, someClosed,
    ← List.length_eq_zero_iff, ← whole]
  by_cases empty : (log.retained (geometry item)).length = 0
  · omega
  · have skip :
        itemsToSkip (announcedItems item log stale) startIndex =
          (startIndex % 65536).toNat := by
      rw [itemsToSkip, if_neg (by omega)]
    rw [skip]
    omega

/-- The count of a page that was just closed is left over. -/
theorem leftOver_iff
    (tracks : Tracks item log stale state)
    (regular : log.Regular (geometry item)) :
    (state.itemStore item).currentPageNrOfItems =
        (geometry item).capacity ↔
      log.opened = false ∧ stale = (geometry item).capacity := by
  have room := regular.room
  rw [tracks.info.currentPageNrOfItems_eq]
  cases opened : log.opened with
  | true =>
      simp only [if_true, reduceCtorEq, false_and, iff_false]
      omega
  | false => simp only [Bool.false_eq_true, if_false, true_and]

/-- The start indices that a store honours. -/
theorem standsAt_iff
    (tracks : Tracks item log stale state)
    (regular : log.Regular (geometry item))
    (staleLe : stale ≤ (geometry item).capacity)
    (leftOver :
      log.opened = true ∨ stale = 0 ∨ stale = (geometry item).capacity) :
    StandsAt (log.retained (geometry item)) startIndex
        (beginEnumerate state item (enumeratorFrom startIndex)) ↔
      HonouredAt item (state.itemStore item)
        (log.retained (geometry item)) startIndex := by
  have count := leftOver_iff tracks regular
  rw [StandsAt, HonouredAt]
  by_cases wanted :
      firstWanted (log.retained (geometry item)).length startIndex <
        (log.retained (geometry item)).length
  case neg =>
    rw [if_neg wanted, if_pos (Nat.le_of_not_lt wanted)]
    exact standsAt_beyond_iff tracks regular staleLe wanted
  obtain ⟨inRange, someItem⟩ := (firstWanted_lt_iff _ _).mp wanted
  rw [if_pos wanted, if_neg (Nat.not_le_of_lt wanted)]
  by_cases closed :
      log.opened = false ∧ stale = (geometry item).capacity
  · obtain ⟨notOpened, rfl⟩ := closed
    rw [if_pos (count.mpr ⟨notOpened, rfl⟩)]
    have items := @length_retained item log regular.wellFormed
    rw [currentItems, notOpened, if_neg Bool.false_ne_true,
      Nat.add_zero, closedItems] at items
    have someClosed : log.oldest < log.closed := by
      have product := items ▸ someItem
      have pages := Nat.pos_of_mul_pos_right product
      omega
    exact enumeratesExactly_stale tracks regular notOpened someClosed inRange
  · rw [if_neg (mt count.mp closed)]
    have fresh : log.opened = true ∨ stale = 0 := by
      cases opened : log.opened with
      | true => exact .inl rfl
      | false =>
          rcases leftOver with other | none | full
          · rw [opened] at other
            cases other
          · exact .inr none
          · exact (closed ⟨opened, full⟩).elim
    exact enumeratesExactly_exact tracks regular staleLe
      (announcedItems_exact regular.spacious fresh) inRange someItem

end Starts

/-- The items of the stores after a message, when these were its items. -/
def storedAfter
    (store : ItemStoreState) (stored : ItemDef → List (List Byte)) :
    Request → ItemDef → List (List Byte)
  | .addItem item data =>
      if store.listenerState = .idle ∧
          (store.itemStore item).currentState = .idle then
        Function.update stored item (stored item ++ [data])
      else
        stored
  | _ => stored

/-- A log with these items; a count of a page that was closed may be left. -/
structure Stores
    (item : ItemDef) (items : List (List Byte))
    (log : StoreLog) (stale : Nat) : Prop where
  items : log.items = items
  leftOver :
    log.opened = true ∨ stale = 0 ∨ stale = (geometry item).capacity

/-- What the stores contain unless a delete of them is pending. -/
structure Contents
    (stored : ItemDef → List (List Byte)) (state : QueueState) : Prop
    extends DeletesSound state where
  deleted : ∀ item, Pending item state → stored item = []
  described : ∀ item, Described (Stores item (stored item)) item state

section Steps

variable {stored : ItemDef → List (List Byte)}
variable {state : QueueState}
variable {item : ItemDef}
variable {request : Request}
variable {rest : List Request}
variable {handled : Handled}

/-- A message that adds nothing to a store leaves its items. -/
theorem storedAfter_of_addsNothing
    {store : ItemStoreState}
    (notAdded : AddsNothing item store request) :
    storedAfter store stored request item = stored item := by
  cases request with
  | addItem other data =>
      rw [storedAfter]
      split
      · next executes =>
          have different : item ≠ other := by
            rintro rfl
            exact notAdded data rfl executes.1 executes.2
          rw [Function.update_of_ne different]
      · rfl
  | _ => rfl

/-- A pending delete after a message that is no delete was pending before. -/
theorem pending_of_publish
    (notDelete : ∀ other, request ≠ .erase (eraseOf other))
    (pending :
      Pending item { state with queue := state.queue ++ [request] }) :
    Pending item state := by
  rcases pending_published rfl rfl rfl pending with earlier | last
  · exact earlier
  · exact (notDelete item last).elim

theorem Contents.publish
    (contents : Contents stored state)
    (request : Request)
    (publishable : Publishable request)
    (notDone : request ≠ .eraseDone)
    (notDelete : ∀ item, request ≠ .erase (eraseOf item))
    (sized : ∀ item data, request = .addItem item data →
      data.length = (geometry item).itemSize) :
    Contents stored { state with queue := state.queue ++ [request] } :=
  { contents.toDeletesSound.publish request publishable notDone notDelete
      sized with
    deleted := fun item pending =>
      contents.deleted item (pending_of_publish notDelete pending)
    described := fun item =>
      (contents.described item).publish (.refl _) [request] }

theorem Contents.sameContent
    (contents : Contents stored state)
    {store : ItemStoreState}
    (same : SameContent state.store store) :
    Contents stored { state with store := store } :=
  { contents.toDeletesSound.sameContent same with
    deleted := fun item pending =>
      contents.deleted item (pending.of_sameContent same)
    described := by
      intro item
      have kept := (contents.described item).publish same []
      rw [List.append_nil] at kept
      exact kept }

/-- `ItemStore_DeleteAllItems` empties a store. -/
theorem Contents.deleteAllItems
    (contents : Contents stored state)
    (item : ItemDef) :
    Contents (Function.update stored item [])
      { store := countersCleared item state.store
        queue := state.queue ++ [.erase (eraseOf item)] } :=
  { contents.toDeletesSound.deleteAllItems item with
    deleted := by
      intro other pending
      by_cases same : other = item
      · rw [same, Function.update_self]
      · rw [Function.update_of_ne same]
        rcases @pending_published state other
            (countersCleared item state.store)
            _ rfl rfl rfl pending with earlier | last
        · exact contents.deleted other earlier
        · exact
            (same (eraseOf_injective (Request.erase.inj last)).symm).elim
    described := by
      intro other
      by_cases same : other = item
      · rw [same]
        exact .inl (.queued
          (List.mem_append_right _ (List.mem_singleton_self _)))
      · rw [Function.update_of_ne same]
        exact (contents.described other).deleteAllItems item }

theorem Contents.endOfPage
    (contents : Contents stored state)
    (pending : state.store.flash.processNextPage ≠ none) :
    Contents stored
      { store := (ItemStore.endOfPage state.store).1
        queue :=
          if (ItemStore.endOfPage state.store).2 then
            state.queue ++ [.eraseDone]
          else
            state.queue } := by
  obtain ⟨_, ⟨page, erases⟩, _⟩ :=
    contents.queueSound.sound.endOfPage pending
  refine
    { contents.toDeletesSound.endOfPage pending with
      deleted := ?_
      described := fun item =>
        (contents.described item).endOfPage contents.queueSound pending }
  intro item later
  rw [queue_endOfPage] at later
  exact contents.deleted item (pending_of_endOfPage erases later)

/-- Which enumerator a request refers to does not matter to deletes. -/
theorem pending_readEnumerator
    {store : ItemStoreState}
    {other : ItemDef}
    {left right : Enumerator}
    (pending :
      Pending item
        { store := store, queue := .beginEnumerate other left :: rest }) :
    Pending item
      { store := store, queue := .beginEnumerate other right :: rest } := by
  cases pending with
  | queued member =>
      rcases List.mem_cons.mp member with now | later
      · cases now
      · exact .queued (List.mem_cons_of_mem _ later)
  | reminded reminder => exact .reminded reminder
  | running erasing parameters => exact .running erasing parameters

theorem Contents.readEnumerator
    {store : ItemStoreState}
    {left : Enumerator}
    (contents :
      Contents stored
        { store := store, queue := .beginEnumerate item left :: rest })
    (right : Enumerator) :
    Contents stored
      { store := store, queue := .beginEnumerate item right :: rest } where
  queueSound := contents.queueSound.readAs nofun trivial nofun
  sized := by
    intro other data member
    rcases List.mem_cons.mp member with now | later
    · cases now
    · exact contents.sized other data (List.mem_cons_of_mem _ later)
  cleared := fun other pending =>
    contents.cleared other (pending_readEnumerator pending)
  reminder := contents.reminder
  deleted := fun other pending =>
    contents.deleted other (pending_readEnumerator pending)
  described := by
    intro other
    exact (contents.described other).imp_left pending_readEnumerator

/-- The dispatch of a message. -/
theorem Contents.dispatch
    (contents : Contents stored state)
    (reminders : RemindersKept state)
    (first : state.queue = request :: rest)
    (result : listener state.store request = .ok handled)
    (notAdded : ∀ item, Pending item state →
      AddsNothing item state.store request) :
    Contents (storedAfter state.store stored request)
      { store := handled.state, queue := rest } := by
  have deletes := contents.toDeletesSound
  have dispatched := deletes.queueSound.sound.dispatched
    (deletes.queueSound.admissible first) result
  refine
    { deletes.dispatch reminders first result notAdded with
      deleted := ?_
      described := ?_ }
  · intro item pending
    have before := pending_of_dispatched deletes first dispatched pending
    rw [storedAfter_of_addsNothing (notAdded item before)]
    exact contents.deleted item before
  · intro item
    by_cases addsNothing : AddsNothing item state.store request
    · rw [storedAfter_of_addsNothing addsNothing]
      refine deletes.keepsStore reminders first dispatched addsNothing
        (contents.described item) ?_
      intro pending
      exact ⟨(contents.deleted item pending).symm, .inr (.inl rfl)⟩
    · obtain ⟨data, rfl, listens, storeIdle⟩ :=
        adds_of_not_addsNothing addsNothing
      rcases contents.described item with pending | kept
      · exact (addsNothing (notAdded item pending)).elim
      obtain ⟨log, stale, after, stores, added, leads⟩ :=
        deletes.added first listens kept
      rw [handled_of_added dispatched listens storeIdle added, storedAfter,
        if_pos ⟨listens, storeIdle⟩, Function.update_self]
      refine .inr (kept_of_added leads ?_)
      intro stale leftOver
      exact ⟨by rw [StoreLog.items_add, stores.items],
        leftOver.imp_right .inr⟩

/-- An enumeration of a store without a pending delete. -/
theorem Contents.standsAt
    (contents : Contents stored state)
    (listens : state.store.listenerState = .idle)
    (notDeleted : .erase (eraseOf item) ∉ state.queue)
    {startIndex : Int}
    (honoured :
      HonouredAt item (state.store.itemStore item)
        (keptItems item (stored item)) startIndex) :
    StandsAt (keptItems item (stored item)) startIndex
      (beginEnumerate state.store item (enumeratorFrom startIndex)) := by
  obtain ⟨_, atRest, quiet⟩ :=
    contents.queueSound.sound.phase.atRest listens
  rcases contents.described item with pending | kept
  · cases pending with
    | queued member => exact (notDeleted member).elim
    | reminded reminder =>
        rw [reminder, hasReminder_eraseOf] at quiet
        cases quiet
    | running erasing _ =>
        rw [listens] at erasing
        cases erasing
  · cases kept with
    | holds stores holds _ =>
        have same := retained_eq_keptItems holds.regular
        rw [stores.items] at same
        rw [← same] at honoured ⊢
        exact (standsAt_iff (holds.tracks atRest quiet) holds.regular
          holds.stale_le stores.leftOver).mpr honoured
    | wrapping _ wrapping =>
        have busy := wrapping.erasing
        rw [listens] at busy
        cases busy

end Steps

end DemoBoard.ItemStore
