import DemoBoard.ItemStoreEnumerationFrame
import DemoBoard.ItemStoreSuffix
import DemoBoard.TransitionRuns

namespace DemoBoard.ItemCounters

open ByteMemory ItemStore
open TransitionRuns (bind_eq_ok)

/-!
# Counters and flash content

The number of full pages and the number of items on the current page are kept
by the first write to a page, by every further write, by closing a page, by
erasing the oldest page and by the boot scan.  Closing a page leaves the item
count of that page behind until the next page is opened; an enumeration that
begins in between announces these items twice.
-/

/-- The bytes of one item of a store. -/
abbrev ItemBytes (item : ItemDef) :=
  { data : List Byte // data.length = (geometry item).itemSize }

/-- The item store, the enumerators of its clients and the added items. -/
structure CounterState where
  store : ItemStoreState
  enumerator : ItemDef → Enumerator
  added : ItemDef → List (List Byte)

/-- An enumerator that is not in use. -/
def closedEnumerator : Enumerator := enumeratorFrom 0

namespace CounterState

/-- The items of a store that are on flash. -/
def items (state : CounterState) (item : ItemDef) : List (List Byte) :=
  keptItems item (state.added item)

/-- The items that were written to the current page. -/
def currentItems (state : CounterState) (item : ItemDef) :
    List (List Byte) :=
  (state.added item).drop
    ((state.added item).length / (geometry item).capacity *
      (geometry item).capacity)

end CounterState

/-- Operations of the clients; an erase they start is finished. -/
inductive Event where
  | addItem (item : ItemDef) (data : ItemBytes item)
  /-- A reset and `ItemStore_Init`. -/
  | reset
  | beginEnumerate (item : ItemDef) (startIndex : Int)
  | getNext (item : ItemDef)
  | endEnumerate (item : ItemDef)

/-- A step of the item store and its clients. -/
def step (state : CounterState) :
    Event → Except AssertionFailure CounterState
  | .addItem item data => do
      let handled ← listener state.store (.addItem item data)
      let store ← finishErase handled.state
      .ok
        { state with
          store := store
          added :=
            if handled.consumed then
              Function.update state.added item
                (state.added item ++ [data.val])
            else
              state.added }
  | .reset => do
      let booted ← init (powerOn state.store.flash.memory)
      let store ← finishErase booted
      .ok
        { state with
          store := store
          enumerator := fun _ => closedEnumerator }
  | .beginEnumerate item startIndex => do
      let handled ← listener state.store
        (.beginEnumerate item (enumeratorFrom startIndex))
      match handled.enumeration with
      | none => .ok { state with store := handled.state }
      | some started =>
          .ok
            { state with
              store := handled.state
              enumerator :=
                Function.update state.enumerator item
                  started.enumerator }
  | .getNext item =>
      let outcome := getNext state.store (state.enumerator item)
      .ok
        { state with
          store := outcome.1
          enumerator :=
            Function.update state.enumerator item outcome.2.1 }
  | .endEnumerate item =>
      let outcome :=
        endEnumerate state.store item (state.enumerator item)
      .ok
        { state with
          store := outcome.1
          enumerator :=
            Function.update state.enumerator item outcome.2 }

/-- The first boot, over erased flash. -/
def boot : Except AssertionFailure CounterState := do
  let store ← init (powerOn erasedFlash)
  .ok
    { store := store
      enumerator := fun _ => closedEnumerator
      added := fun _ => [] }

/-- A page without any programmed byte in its header. -/
def hasErasedHeader (store : ItemStoreState) (page : Nat) : Bool :=
  (readHeader store page).any fun header => hasNoData header.toBytes

/-- The last add has closed a page and the next one is not opened yet. -/
def JustClosed (store : ItemStoreState) (item : ItemDef) : Prop :=
  hasErasedHeader store
      (store.itemStore item).nextWritePageInfo.pageId.toNat = true ∧
    (store.itemStore item).currentPageNrOfItems ≠ 0

instance (store : ItemStoreState) (item : ItemDef) :
    Decidable (JustClosed store item) :=
  inferInstanceAs (Decidable (_ ∧ _))

/-- The first flash page is erased one turn of the ring after the boot. -/
def OneTurnRound (store : ItemStoreState) (item : ItemDef) : Prop :=
  hasErasedHeader store (geometry item).firstPage = true ∧
    (store.itemStore item).nextWritePageInfo.blockId.toNat =
      (geometry item).nrOfPages

instance (store : ItemStoreState) (item : ItemDef) :
    Decidable (OneTurnRound store item) :=
  inferInstanceAs (Decidable (_ ∧ _))

/--
An enumeration does not begin between closing a page and the next add.  A reset
does not find the first flash page erased after exactly one turn of the ring,
nor an item without data on a current page.
-/
def Proper (state : CounterState) : Event → Prop
  | .beginEnumerate item _ => ¬ JustClosed state.store item
  | .reset => ∀ item,
      ¬ OneTurnRound state.store item ∧
        ∀ data ∈ state.currentItems item, hasNoData data = false
  | _ => True

/-- The states that runs of proper steps reach. -/
inductive ProperRun : CounterState → Prop
  | boot
      {state : CounterState}
      (booted : boot = .ok state) :
      ProperRun state
  | step
      {state next : CounterState}
      {event : Event}
      (run : ProperRun state)
      (proper : Proper state event)
      (stepped : step state event = .ok next) :
      ProperRun next

/-- The counters of a store describe the flash. -/
structure CountersDescribe (state : CounterState) (item : ItemDef) :
    Prop where
  isEmpty_iff :
    isEmpty state.store item = true ↔ state.items item = []
  count_eq :
    (state.enumerator item).enumeratorDetails = some item →
      count state.store (state.enumerator item) =
        (state.items item).length
  hasMore_iff :
    (state.enumerator item).enumeratorDetails = some item →
      ((state.enumerator item).hasMoreItems = true ↔
        (getNext state.store (state.enumerator item)).2.2.isSome = true)
  stored : ∀ data,
    (getNext state.store (state.enumerator item)).2.2 = some data →
      data ∈ state.items item

/-- The store is idle, or an enumeration of its items is running. -/
inductive Enumerating
    (item : ItemDef) (log : StoreLog) (stale : Nat)
    (store : ItemStoreState) (enumerator : Enumerator) : Prop
  | closed
      (idle : (store.itemStore item).currentState = .idle)
      (noDetails : enumerator.enumeratorDetails = none)
      (noMore : enumerator.hasMoreItems = false)
  | running
      {ordinal slot taken skipped : Nat}
      (enumerating : (store.itemStore item).currentState = .enumerating)
      (running :
        Running item log stale ordinal slot taken skipped store
          enumerator)

/-- The store describes a log whose block ids a reset can compare. -/
structure Describes
    (item : ItemDef) (log : StoreLog) (stale base announced : Nat)
    (store : ItemStoreState) : Prop where
  tracks : Tracks item log stale store
  regular : log.Regular (geometry item)
  numbered : Numbered (geometry item) log base announced
  stale_eq :
    stale = 0 ∨ stale = (geometry item).capacity ∧ log.items ≠ []

/-- What holds of one store between two events. -/
def Sound
    (item : ItemDef) (added : List (List Byte)) (store : ItemStoreState)
    (enumerator : Enumerator) : Prop :=
  ∃ log stale base announced,
    log.items = added ∧
    Describes item log stale base announced store ∧
    Enumerating item log stale store enumerator

/-- What holds between two events. -/
def Invariant (state : CounterState) : Prop :=
  ∀ item,
    Sound item (state.added item) state.store (state.enumerator item)

section Store

variable {item other : ItemDef}
variable {log : StoreLog}
variable {stale base announced : Nat}
variable {added : List (List Byte)}
variable {store after : ItemStoreState}
variable {enumerator : Enumerator}

theorem Describes.stale_le
    (describes : Describes item log stale base announced store) :
    stale ≤ (geometry item).capacity := by
  rcases describes.stale_eq with none | ⟨full, _⟩ <;> omega

/-- The page that is written next, unless it is opened. -/
theorem Describes.hasErasedHeader_next
    (describes : Describes item log stale base announced store)
    (notOpened : log.opened = false) :
    hasErasedHeader store
      (store.itemStore item).nextWritePageInfo.pageId.toNat = true := by
  have tracks := describes.tracks
  have read := readHeader_eq (tracks.image log.closed
    tracks.wellFormed.oldest_le describes.regular.inWindow)
  rw [headerOf_notOpened item notOpened] at read
  rw [hasErasedHeader, tracks.info.nextPage_eq, read]
  decide

/-- Counts are exact where an enumeration may begin. -/
theorem Describes.counted
    (describes : Describes item log stale base announced store)
    (notJustClosed : ¬ JustClosed store item) :
    log.opened = true ∨ stale = 0 := by
  by_contra neither
  obtain ⟨notOpened, someStale⟩ := not_or.mp neither
  have notOpened := Bool.eq_false_of_not_eq_true notOpened
  apply notJustClosed
  refine ⟨describes.hasErasedHeader_next notOpened, ?_⟩
  rw [describes.tracks.info.currentPageNrOfItems_eq, notOpened]
  exact someStale

/-- `ItemStore_IsEmpty` -/
theorem Describes.isEmpty_iff
    (describes : Describes item log stale base announced store) :
    isEmpty store item = true ↔
      log.retained (geometry item) = [] := by
  have info := describes.tracks.info
  have regular := describes.regular
  have several := (geometry item).severalPages
  have positive := (geometry item).capacity_pos
  have oldest := regular.oldest_eq
  rw [SegmentedLog.oldest] at oldest
  have length := length_retained regular.wellFormed
  have shape := regular.wellFormed.items_ge
  rw [closedItems, currentItems] at length
  rw [← List.length_eq_zero_iff, length, ItemStore.isEmpty,
    decide_eq_true_eq, info.nrOfFullPages_eq,
    info.currentPageNrOfItems_eq]
  constructor
  · rintro ⟨noFull, noCurrent⟩
    rw [noFull, Nat.zero_mul]
    split
    · next opened =>
        rw [if_pos opened] at noCurrent
        rw [noCurrent]
    · rfl
  · intro none
    have noFull : log.closed - log.oldest = 0 := by
      rcases Nat.mul_eq_zero.mp (Nat.eq_zero_of_add_eq_zero_right none)
        with zero | zero <;> omega
    refine ⟨noFull, ?_⟩
    split
    · next opened =>
        rw [if_pos opened] at none
        exact Nat.eq_zero_of_add_eq_zero_left none
    · next notOpened =>
        rcases describes.stale_eq with zero | ⟨_, someItem⟩
        · exact zero
        · have items := regular.wellFormed.items_eq
            (Bool.eq_false_of_not_eq_true notOpened)
          rw [show log.closed = 0 by omega, Nat.zero_mul] at items
          exact absurd (List.length_eq_zero_iff.mp items) someItem

/-- The log of a store that is left alone. -/
theorem Sound.frame
    (sound : Sound item added store enumerator)
    (sameInfo : after.itemStore item = store.itemStore item)
    (tracks : ∀ log stale,
      Tracks item log stale store → Tracks item log stale after) :
    Sound item added after enumerator := by
  obtain ⟨log, stale, base, announced, items, describes, enumerating⟩ :=
    sound
  have afterTracks := tracks log stale describes.tracks
  refine ⟨log, stale, base, announced, items,
    { describes with tracks := afterTracks }, ?_⟩
  cases enumerating with
  | closed idle noDetails noMore =>
      exact .closed (by rw [sameInfo]; exact idle) noDetails noMore
  | running enumerating running =>
      exact .running (by rw [sameInfo]; exact enumerating)
        (running.congr afterTracks (by rw [sameInfo]))

end Store

/-- The counters describe the flash where the invariant holds. -/
theorem Invariant.describe
    {state : CounterState}
    (invariant : Invariant state)
    (item : ItemDef) :
    CountersDescribe state item := by
  obtain ⟨log, stale, base, announced, items, describes, enumerating⟩ :=
    invariant item
  have kept := retained_eq_keptItems describes.regular
  rw [items] at kept
  have isEmpty_iff := describes.isEmpty_iff
  rw [kept] at isEmpty_iff
  cases enumerating with
  | closed idle noDetails noMore =>
      have nothing :
          (getNext state.store (state.enumerator item)).2.2 = none := by
        simp [getNext, noMore]
      refine ⟨isEmpty_iff, ?_, ?_, ?_⟩
      · intro details
        rw [noDetails] at details
        cases details
      · intro details
        rw [noDetails] at details
        cases details
      · intro data found
        rw [nothing] at found
        cases found
  | running enumerating running =>
      obtain ⟨succeeds, stored, _⟩ := running.getNext describes.regular
      rw [kept] at stored
      refine ⟨isEmpty_iff, ?_, fun _ => succeeds, stored⟩
      intro _
      rw [running.count_eq, kept]
      rfl

section Steps

variable {state : CounterState}
variable {item : ItemDef}

/-- A completed add is an add and the erase it starts. -/
theorem addItemCompleted_parts
    {store after : ItemStoreState}
    {data : List Byte}
    (completed : addItemCompleted store item data = .ok (after, true)) :
    ∃ middle,
      addItem store item data = .ok (middle, true) ∧
      finishErase middle = .ok after := by
  rw [addItemCompleted] at completed
  cases added : addItem store item data with
  | error failure => rw [added] at completed; cases completed
  | ok outcome =>
      obtain ⟨middle, written⟩ := outcome
      rw [added] at completed
      simp only [bind, Except.bind] at completed
      cases finished : finishErase middle with
      | error failure => rw [finished] at completed; cases completed
      | ok final =>
          rw [finished] at completed
          cases completed
          exact ⟨middle, rfl, finished⟩

/-- The listener accepts requests for an idle store. -/
theorem listener_idle
    {store : ItemStoreState}
    (listenerIdle : store.listenerState = .idle)
    (idle : (store.itemStore item).currentState = .idle) :
    (∀ data,
      listener store (.addItem item data) =
        idleState store (.addItem item data)) ∧
      ∀ enumerator,
        listener store (.beginEnumerate item enumerator) =
          idleState store (.beginEnumerate item enumerator) := by
  simp [listener, listenerIdle, listenerIdleState, Request.item, idle]

/-- The listener ignores requests for a store that is enumerated. -/
theorem listener_enumerating
    {store : ItemStoreState}
    (listenerIdle : store.listenerState = .idle)
    (enumerating : (store.itemStore item).currentState = .enumerating) :
    (∀ data,
      listener store (.addItem item data) =
        .ok { state := store, consumed := false, enumeration := none }) ∧
      ∀ enumerator,
        listener store (.beginEnumerate item enumerator) =
          .ok
            { state := store, consumed := false, enumeration := none } :=
  by
    simp [listener, listenerIdle, listenerIdleState, Request.item,
      enumerating, enumeratingState]

/-- One more item of a store. -/
theorem Describes.add
    {log : StoreLog}
    {stale base announced : Nat}
    {store after : ItemStoreState}
    {data : List Byte}
    (describes : Describes item log stale base announced store)
    (size : data.length = (geometry item).itemSize)
    (tracks :
      Tracks item (log.add (geometry item) data)
        (geometry item).capacity after) :
    Describes item (log.add (geometry item) data)
      (geometry item).capacity base announced after where
  tracks := tracks
  regular := describes.regular.add size
  numbered := describes.numbered.add describes.regular size
  stale_eq := Or.inr ⟨rfl, by rw [StoreLog.items_add]; simp⟩

/-- The step of an add to an idle store. -/
theorem step_addItem
    {after : ItemStoreState}
    {data : ItemBytes item}
    (listenerIdle : state.store.listenerState = .idle)
    (idle : (state.store.itemStore item).currentState = .idle)
    (completed :
      addItemCompleted state.store item data.val = .ok (after, true)) :
    step state (.addItem item data) =
      .ok
        { state with
          store := after
          added :=
            Function.update state.added item
              (state.added item ++ [data.val]) } := by
  obtain ⟨middle, added, finished⟩ := addItemCompleted_parts completed
  simp only [step, (listener_idle listenerIdle idle).1, idleState, added,
    bind, Except.bind, if_true, finished]

theorem Invariant.addItem
    (invariant : Invariant state)
    (item : ItemDef)
    (data : ItemBytes item) :
    ∃ next,
      step state (.addItem item data) = .ok next ∧ Invariant next := by
  obtain ⟨log, stale, base, announced, items, describes, enumerating⟩ :=
    invariant item
  have listenerIdle := describes.tracks.listenerIdle
  cases enumerating with
  | running enumerating running =>
      refine ⟨state, ?_, invariant⟩
      simp only [step, (listener_enumerating listenerIdle enumerating).1,
        bind, Except.bind, finishErase_idle describes.tracks.idle]
      rfl
  | closed idle noDetails noMore =>
      obtain ⟨after, completed, tracks, extended⟩ :=
        addItemCompleted_tracks describes.tracks describes.regular.spacious
          data.property
      refine ⟨_, step_addItem listenerIdle idle completed, ?_⟩
      intro other
      by_cases same : other = item
      · subst same
        simp only [Function.update_self]
        refine ⟨_, _, base, announced, ?_,
          describes.add data.property tracks, ?_⟩
        · rw [StoreLog.items_add, items]
        · exact .closed (by rw [extended.currentState]; exact idle)
            noDetails noMore
      · simp only [Function.update_of_ne same]
        exact (invariant other).frame (extended.others other same)
          fun log stale otherTracks =>
            otherTracks.frame (Ne.symm same) extended tracks.idle
              tracks.listenerIdle

/-- A store after `BeginEnumerate`. -/
theorem Describes.beginEnumerate
    {log : StoreLog}
    {stale base announced : Nat}
    {store : ItemStoreState}
    (describes : Describes item log stale base announced store)
    (idle : (store.itemStore item).currentState = .idle)
    (counted : log.opened = true ∨ stale = 0)
    (startIndex : Int) :
    Sound item log.items
      (ItemStore.beginEnumerate store item
        (enumeratorFrom startIndex)).1
      (ItemStore.beginEnumerate store item
        (enumeratorFrom startIndex)).2.1 := by
  obtain ⟨searched, changed, begun⟩ :=
    beginEnumerate_changesStatus store item (enumeratorFrom startIndex)
  rcases begun with ⟨notReady, same⟩ | ⟨ready, same⟩
  · refine ⟨log, stale, base, announced, rfl,
      { describes with
        tracks := by rw [same]; exact changed.tracks describes.tracks },
      ?_⟩
    have closed :=
      beginEnumerate_closed store item _ notReady
    exact .closed
      (by rw [same, changed.currentState]; exact idle)
      closed.1 closed.2
  · obtain ⟨ordinal, slot, skipped, running⟩ :=
      beginEnumerate_running describes.tracks describes.regular
        describes.stale_le counted startIndex ready
    refine ⟨log, stale, base, announced, rfl,
      { describes with tracks := running.reading.tracks },
      .running ?_ running⟩
    rw [same, modifyInfo_same]

theorem Invariant.beginEnumerate
    (invariant : Invariant state)
    (item : ItemDef)
    (startIndex : Int)
    (proper : ¬ JustClosed state.store item) :
    ∃ next,
      step state (.beginEnumerate item startIndex) = .ok next ∧
        Invariant next := by
  obtain ⟨log, stale, base, announced, items, describes, enumerating⟩ :=
    invariant item
  have listenerIdle := describes.tracks.listenerIdle
  cases enumerating with
  | running enumerating running =>
      refine ⟨state, ?_, invariant⟩
      simp only [step, (listener_enumerating listenerIdle enumerating).2,
        bind, Except.bind]
  | closed idle noDetails noMore =>
      have own := describes.beginEnumerate idle
        (describes.counted proper) startIndex
      obtain ⟨searched, changed, begun⟩ :=
        beginEnumerate_changesStatus state.store item
          (enumeratorFrom startIndex)
      refine ⟨_, by
        simp only [step, (listener_idle listenerIdle idle).2, idleState,
          bind, Except.bind]
        rfl, ?_⟩
      intro other
      by_cases same : other = item
      · subst same
        simp only [Function.update_self]
        rw [← items]
        exact own
      · simp only [Function.update_of_ne same]
        rcases begun with ⟨_, after⟩ | ⟨_, after⟩
        · rw [after]
          exact (invariant other).frame (changed.others same)
            fun log stale tracks => changed.tracks tracks
        · rw [after]
          refine (invariant other).frame ?_ fun log stale tracks =>
            (changed.tracks tracks).modifyOther same _
          rw [modifyInfo_other _ _ same, changed.others same]

theorem Invariant.getNext
    (invariant : Invariant state)
    (item : ItemDef) :
    ∃ next,
      step state (.getNext item) = .ok next ∧ Invariant next := by
  obtain ⟨log, stale, base, announced, items, describes, enumerating⟩ :=
    invariant item
  refine ⟨_, rfl, ?_⟩
  cases enumerating with
  | closed idle noDetails noMore =>
      have nothing :
          ItemStore.getNext state.store (state.enumerator item) =
            (state.store, state.enumerator item, none) := by
        simp [ItemStore.getNext, noMore]
      simp only [nothing, Function.update_eq_self]
      exact invariant
  | running enumerating running =>
      have changed := running.getNext_changesStatus
      obtain ⟨_, _, ordinal, slot, taken, next⟩ :=
        running.getNext describes.regular
      intro other
      by_cases same : other = item
      · subst same
        simp only [Function.update_self]
        exact ⟨log, stale, base, announced, items,
          { describes with tracks := next.reading.tracks },
          .running (by rw [changed.currentState]; exact enumerating)
            next⟩
      · simp only [Function.update_of_ne same]
        exact (invariant other).frame (changed.others same)
          fun log stale tracks => changed.tracks tracks

theorem Invariant.endEnumerate
    (invariant : Invariant state)
    (item : ItemDef) :
    ∃ next,
      step state (.endEnumerate item) = .ok next ∧ Invariant next := by
  refine ⟨_, rfl, ?_⟩
  intro other
  by_cases same : other = item
  · subst same
    obtain ⟨log, stale, base, announced, items, describes, _⟩ :=
      invariant other
    simp only [Function.update_self, ItemStore.endEnumerate]
    refine ⟨log, stale, base, announced, items, ?_, ?_⟩
    · exact { describes with tracks := describes.tracks.withState .idle }
    · exact .closed (by rw [modifyInfo_same]) rfl rfl
  · simp only [Function.update_of_ne same, ItemStore.endEnumerate]
    exact (invariant other).frame (modifyInfo_other _ _ same)
      fun log stale tracks => tracks.modifyOther same _

/-- A page without a tag has an erased header. -/
theorem hasErasedHeader_of_notInUse
    {log : StoreLog}
    {stale : Nat}
    {store : ItemStoreState}
    (tracks : Tracks item log stale store)
    (regular : log.Regular (geometry item))
    (notInUse : ¬ InUse log (firstOrdinal item log)) :
    hasErasedHeader store (geometry item).firstPage = true := by
  obtain ⟨same, notOpened⟩ := firstOrdinal_notInUse regular notInUse
  have place := (firstOrdinal_bounds item log).2.2
  have read := readHeader_eq (tracks.image log.closed
    tracks.wellFormed.oldest_le regular.inWindow)
  rw [same] at place
  rw [headerOf_notOpened item notOpened, StoreGeometry.pageOf, place,
    Nat.add_zero] at read
  rw [hasErasedHeader, read]
  decide

theorem Describes.notAmbiguous
    {log : StoreLog}
    {stale base announced : Nat}
    {store : ItemStoreState}
    (describes : Describes item log stale base announced store)
    (proper : ¬ OneTurnRound store item) :
    ¬ RestartAmbiguous item log := by
  rintro ⟨notInUse, oneTurn⟩
  apply proper
  refine ⟨hasErasedHeader_of_notInUse describes.tracks
    describes.regular notInUse, ?_⟩
  rw [describes.tracks.info.nextWritePageInfo_eq,
    blockId_toNat describes.regular.wellFormed, oneTurn]

theorem Invariant.reset
    (invariant : Invariant state)
    (proper : Proper state .reset) :
    ∃ next, step state .reset = .ok next ∧ Invariant next := by
  obtain ⟨booted, boots, each⟩ :=
    @init_each state.store.flash.memory
      (fun item log =>
        log.items = state.added item ∧
          log.Regular (geometry item) ∧
          ∃ base announced, Numbered (geometry item) log base announced)
      (by
        intro item store fresh memory
        obtain ⟨log, stale, base, announced, items, describes, _⟩ :=
          invariant item
        have hasData :
            ∀ data ∈ pageItems item log log.closed,
              hasNoData data = false := by
          intro data member
          apply (proper item).2 data
          rw [CounterState.currentItems, ← items]
          rw [pageItems, SegmentedLog.segment] at member
          have member := List.mem_of_mem_take member
          rw [describes.regular.closed_eq] at member
          exact member
        obtain ⟨found, after, foundBase, foundAnnounced, boots, tracks,
            extended, regular, numbered, sameItems⟩ :=
          initItemStore_numbered fresh describes.regular
            (by rw [memory]; exact describes.tracks.image)
            describes.numbered hasData
            (describes.notAmbiguous (proper item).1)
        exact ⟨found, after, boots, tracks, extended,
          by rw [sameItems, items], regular, _, _, numbered⟩)
  obtain ⟨⟨_, tracks, _⟩, _⟩ := each .systemConfig
  refine ⟨_, by
    simp only [step, boots, finishErase_idle tracks.idle, bind,
      Except.bind]
    rfl, ?_⟩
  intro item
  obtain ⟨⟨log, tracks, items, regular, base, announced, numbered⟩,
      idle⟩ := each item
  exact ⟨log, 0, base, announced, items,
    ⟨tracks, regular, numbered, Or.inl rfl⟩, .closed idle rfl rfl⟩

/-- Every proper event is handled and keeps the invariant. -/
theorem Invariant.step
    (invariant : Invariant state)
    (event : Event)
    (proper : Proper state event) :
    ∃ next, step state event = .ok next ∧ Invariant next := by
  cases event with
  | addItem item data => exact invariant.addItem item data
  | reset => exact invariant.reset proper
  | beginEnumerate item startIndex =>
      exact invariant.beginEnumerate item startIndex proper
  | getNext item => exact invariant.getNext item
  | endEnumerate item => exact invariant.endEnumerate item

theorem boot_invariant :
    ∃ state, boot = .ok state ∧ Invariant state := by
  obtain ⟨store, booted, each⟩ := init_empty
  refine ⟨_, by simp only [boot, booted, bind, Except.bind]; rfl, ?_⟩
  intro item
  exact ⟨StoreLog.empty, 0, 0, 0, rfl,
    { tracks := (each item).1
      regular := StoreLog.regular_empty _
      numbered := numbered_of_counted fun _ => rfl
      stale_eq := Or.inl rfl },
    .closed (each item).2 rfl rfl⟩

theorem ProperRun.invariant
    (run : ProperRun state) :
    Invariant state := by
  induction run with
  | boot booted =>
      obtain ⟨first, same, invariant⟩ := boot_invariant
      rw [booted] at same
      cases same
      exact invariant
  | step _ proper stepped inductionHypothesis =>
      obtain ⟨next, same, invariant⟩ :=
        inductionHypothesis.step _ proper
      rw [stepped] at same
      cases same
      exact invariant

/--
While no enumeration begins right after a page was closed, and no reset meets
the first flash page erased after one turn of the ring, the counters describe
the flash in every reachable state and no step fails.
-/
theorem counters_describe_flash
    (run : ProperRun state) :
    (∀ item, CountersDescribe state item) ∧
      ∀ event, Proper state event →
        ∃ next, step state event = .ok next := by
  refine ⟨run.invariant.describe, ?_⟩
  intro event proper
  obtain ⟨next, stepped, _⟩ := run.invariant.step event proper
  exact ⟨next, stepped⟩

end Steps

/-- An item that is not blank. -/
def someItem (item : ItemDef) : ItemBytes item :=
  ⟨List.replicate (geometry item).itemSize 1, List.length_replicate⟩

section Runs

variable {item : ItemDef}
variable {state after : CounterState}

/-- A store whose last page has items is written on an opened page. -/
theorem Describes.opened
    {log : StoreLog}
    {stale base announced : Nat}
    {store : ItemStoreState}
    (describes : Describes item log stale base announced store)
    (partly : log.items.length % (geometry item).capacity ≠ 0) :
    log.opened = true := by
  by_contra notOpened
  rw [describes.regular.wellFormed.items_eq
    (Bool.eq_false_of_not_eq_true notOpened), Nat.mul_mod_left] at partly
  exact partly rfl

/-- An opened page has a header. -/
theorem Describes.hasErasedHeader_opened
    {log : StoreLog}
    {stale base announced : Nat}
    {store : ItemStoreState}
    (describes : Describes item log stale base announced store)
    (opened : log.opened = true) :
    hasErasedHeader store ((geometry item).pageOf log.closed) = false := by
  have tracks := describes.tracks
  have read := readHeader_eq (tracks.image log.closed
    tracks.wellFormed.oldest_le describes.regular.inWindow)
  rw [headerOf_opened item opened] at read
  rw [hasErasedHeader, read, Option.any_some, PageHeader.toBytes,
    hasNoData_append, PageBeginTag.hasNoData_toBytes rfl, Bool.false_and]

/-- An enumeration may begin while the current page has items. -/
theorem Invariant.notJustClosed
    (invariant : Invariant state)
    (partly :
      (state.added item).length % (geometry item).capacity ≠ 0) :
    ¬ JustClosed state.store item := by
  obtain ⟨log, stale, base, announced, items, describes, _⟩ :=
    invariant item
  rw [← items] at partly
  rintro ⟨erased, _⟩
  rw [describes.tracks.info.nextPage_eq,
    describes.hasErasedHeader_opened (describes.opened partly)] at erased
  cases erased

/-- A reset may come while the first page is the current one. -/
theorem Invariant.notOneTurnRound
    (invariant : Invariant state)
    (partly :
      (state.added item).length % (geometry item).capacity ≠ 0)
    (firstPage :
      (state.added item).length / (geometry item).capacity %
        (geometry item).nrOfPages = 0) :
    ¬ OneTurnRound state.store item := by
  obtain ⟨log, stale, base, announced, items, describes, _⟩ :=
    invariant item
  rw [← items] at partly firstPage
  have notErased :=
    describes.hasErasedHeader_opened (describes.opened partly)
  rw [StoreGeometry.pageOf, describes.regular.closed_eq,
    SegmentedLog.current, firstPage, Nat.add_zero] at notErased
  rintro ⟨erased, _⟩
  rw [notErased] at erased
  cases erased

/-- A store without an enumerator is idle. -/
theorem Invariant.idle
    (invariant : Invariant state)
    (noDetails : (state.enumerator item).enumeratorDetails = none) :
    (state.store.itemStore item).currentState = .idle := by
  obtain ⟨_, _, _, _, _, _, enumerating⟩ := invariant item
  cases enumerating with
  | closed idle => exact idle
  | running _ running =>
      rw [running.reading.details_eq] at noDetails
      cases noDetails

/-- Events that are always proper, one after the other. -/
theorem ProperRun.steps
    {events : List Event}
    (run : ProperRun state)
    (proper : ∀ event ∈ events, ∀ state, Proper state event)
    (steps : events.foldlM ItemCounters.step state = .ok after) :
    ProperRun after := by
  induction events generalizing state with
  | nil =>
      cases steps
      exact run
  | cons event rest inductionHypothesis =>
      rw [List.foldlM_cons] at steps
      obtain ⟨middle, stepped, steps⟩ := bind_eq_ok steps
      exact inductionHypothesis
        (run.step (proper event (List.mem_cons_self ..) state) stepped)
        (fun later member => proper later (List.mem_cons_of_mem _ member))
        steps

/-- Adds to one idle store, one after the other. -/
theorem addItems_steps
    {item : ItemDef}
    {log : StoreLog}
    {stale : Nat}
    {state : CounterState}
    (tracks : Tracks item log stale state.store)
    (regular : log.Regular (geometry item))
    (idle : (state.store.itemStore item).currentState = .idle)
    (items : List (ItemBytes item)) :
    ∃ after,
      (items.map (Event.addItem item)).foldlM step state =
        .ok
          { state with
            store := after
            added :=
              Function.update state.added item
                (state.added item ++ items.map Subtype.val) } ∧
      Tracks item (log.addAll (geometry item) (items.map Subtype.val))
        (staleAfter item stale (items.map Subtype.val)) after ∧
      (after.itemStore item).currentState = .idle := by
  induction items generalizing log stale state with
  | nil =>
      refine ⟨state.store, ?_, tracks, idle⟩
      simp [pure, Except.pure]
  | cons data rest inductionHypothesis =>
      obtain ⟨middle, completed, middleTracks, extended⟩ :=
        addItemCompleted_tracks tracks regular.spacious data.property
      have added := step_addItem tracks.listenerIdle idle completed
      obtain ⟨after, steps, afterTracks, afterIdle⟩ :=
        @inductionHypothesis _ _
          { state with
            store := middle
            added :=
              Function.update state.added item
                (state.added item ++ [data.val]) }
          middleTracks (regular.add data.property)
          (by rw [extended.currentState]; exact idle)
      refine ⟨after, ?_, ?_, afterIdle⟩
      · rw [List.map_cons, List.foldlM_cons, added]
        simp only [bind, Except.bind]
        rw [steps]
        simp
      · rw [show staleAfter item stale ((data :: rest).map Subtype.val) =
          staleAfter item (geometry item).capacity
            (rest.map Subtype.val) by simp [staleAfter]]
        exact afterTracks

/-- Adds to a store that is not enumerated. -/
theorem ProperRun.addItems
    (run : ProperRun state)
    (noDetails : (state.enumerator item).enumeratorDetails = none)
    (items : List (ItemBytes item)) :
    ∃ after,
      (items.map (Event.addItem item)).foldlM ItemCounters.step state =
        .ok after ∧
      ProperRun after ∧
      after.enumerator = state.enumerator ∧
      after.added =
        Function.update state.added item
          (state.added item ++ items.map Subtype.val) := by
  obtain ⟨_, _, _, _, _, describes, _⟩ := run.invariant item
  obtain ⟨store, steps, _⟩ :=
    addItems_steps describes.tracks describes.regular
      (run.invariant.idle noDetails) items
  refine ⟨_, steps, run.steps ?_ steps, rfl, rfl⟩
  rintro _ member _
  obtain ⟨_, _, rfl⟩ := List.mem_map.mp member
  trivial

/-- A reset keeps the items and closes the enumerators. -/
theorem reset_keeps
    (reset : step state .reset = .ok after) :
    after.added = state.added ∧
      ∀ item, (after.enumerator item).enumeratorDetails = none := by
  obtain ⟨_, _, rest⟩ := bind_eq_ok reset
  obtain ⟨_, _, done⟩ := bind_eq_ok rest
  cases done
  exact ⟨rfl, fun _ => rfl⟩

/-- An enumeration of all items, once the current page has items. -/
theorem ProperRun.beginEnumerate
    (run : ProperRun state)
    (noDetails : (state.enumerator item).enumeratorDetails = none)
    (partly :
      (state.added item).length % (geometry item).capacity ≠ 0) :
    ∃ after,
      ItemCounters.step state (.beginEnumerate item 0) = .ok after ∧
      ProperRun after ∧
      after.added = state.added ∧
      (after.enumerator item).enumeratorDetails = some item := by
  obtain ⟨log, stale, base, announced, items, describes, _⟩ :=
    run.invariant item
  have regular := describes.regular
  have opened := describes.opened (by rwa [items])
  have some : 0 < (log.retained (geometry item)).length := by
    rw [length_retained regular.wellFormed, currentItems, if_pos opened,
      regular.slot_eq, SegmentedLog.used, items]
    omega
  have announces := @announcedItems_exact item log stale regular.spacious
    (Or.inl opened)
  obtain ⟨_, _, next, enumerator, begun, reading, _⟩ :=
    beginEnumerate_ready describes.tracks regular.spacious
      describes.stale_le 0
      (itemsToSkip_eq_firstWanted
        (announcedItems_lt regular.spacious describes.stale_le)
        (by rw [announces]; omega))
      (Or.inl (by rw [firstWanted, if_neg (by decide)]; exact some))
  have stepped :
      ItemCounters.step state (.beginEnumerate item 0) =
        .ok
          { state with
            store := next
            enumerator :=
              Function.update state.enumerator item enumerator } := by
    simp only [ItemCounters.step, (listener_idle describes.tracks.listenerIdle
      (run.invariant.idle noDetails)).2, idleState, begun, bind,
      Except.bind]
  refine ⟨_, stepped,
    @ProperRun.step _ _ (.beginEnumerate item 0) run
      (run.invariant.notJustClosed partly) stepped, rfl, ?_⟩
  simp only [Function.update_self]
  exact reading.details_eq

end Runs

/-- Records of the system configuration that differ. -/
def records (count : Nat) : List (ItemBytes .systemConfig) :=
  (numbered count).attachWith _ (numbered_sized count)

/-- Samples and records of which the first page is the current one. -/
theorem run_records :
    ∃ first state,
      boot = .ok first ∧
      (List.replicate 3
            (Event.addItem .measurementSample
              (someItem .measurementSample)) ++
          (records 70).map (Event.addItem .systemConfig)).foldlM step
        first = .ok state ∧
      ProperRun state ∧
      state.added .measurementSample =
        List.replicate 3 (someItem .measurementSample).val ∧
      state.added .systemConfig = numbered 70 := by
  obtain ⟨first, booted, _⟩ := boot_invariant
  obtain ⟨store, _, done⟩ := bind_eq_ok booted
  cases done
  obtain ⟨sampled, samples, sampledRun, enumerators, added⟩ :=
    @ProperRun.addItems .measurementSample _ (.boot booted) rfl
      (List.replicate 3 (someItem .measurementSample))
  obtain ⟨filled, adds, filledRun, _, addedAll⟩ :=
    @ProperRun.addItems .systemConfig _ sampledRun
      (by rw [enumerators]; rfl) (records 70)
  have values : (records 70).map Subtype.val = numbered 70 :=
    List.attachWith_map_subtype_val _
  refine ⟨_, filled, booted, ?_, filledRun, ?_, ?_⟩
  · rw [List.foldlM_append, ← List.map_replicate, samples]
    exact adds
  · rw [addedAll, Function.update_of_ne (by decide), added,
      Function.update_self, List.map_replicate, List.nil_append]
  · rw [addedAll, Function.update_self, values, added,
      Function.update_of_ne (by decide), List.nil_append]

/--
After 3 samples and 70 records, of which the 31 oldest are erased, and a reset,
an enumeration of the records announces the 39 that are left.
-/
theorem counters_describe_flash_seventy :
    ∃ first filled state,
      boot = .ok first ∧
      (List.replicate 3
            (Event.addItem .measurementSample
              (someItem .measurementSample)) ++
          (records 70).map (Event.addItem .systemConfig)).foldlM step
        first = .ok filled ∧
      [Event.reset, Event.beginEnumerate .systemConfig 0].foldlM step
        filled = .ok state ∧
      count state.store (state.enumerator .systemConfig) = 39 ∧
      (∀ item, CountersDescribe state item) ∧
      ∃ next, step state (.getNext .systemConfig) = .ok next := by
  obtain ⟨first, filled, booted, adds, run, samples, settings⟩ :=
    run_records
  have invariant := run.invariant
  have proper : Proper filled .reset := by
    intro item
    refine ⟨invariant.notOneTurnRound ?_ ?_, ?_⟩
    · cases item with
      | systemConfig => rw [settings]; decide
      | measurementSample => rw [samples]; decide
    · cases item with
      | systemConfig => rw [settings]; decide
      | measurementSample => rw [samples]; decide
    · intro data member
      have member := List.mem_of_mem_drop member
      cases item with
      | systemConfig =>
          rw [settings] at member
          exact numbered_hasData 70 data member
      | measurementSample =>
          rw [samples] at member
          rw [List.eq_of_mem_replicate member]
          decide
  obtain ⟨restarted, reset, _⟩ := invariant.reset proper
  have restartedRun := @ProperRun.step _ _ .reset run proper reset
  obtain ⟨kept, closed⟩ := reset_keeps reset
  obtain ⟨state, begins, stateRun, same, details⟩ :=
    restartedRun.beginEnumerate (closed .systemConfig)
      (by rw [kept, settings]; decide)
  obtain ⟨describes, proceeds⟩ := counters_describe_flash stateRun
  refine ⟨first, filled, state, booted, adds, ?_, ?_, describes,
    proceeds (.getNext .systemConfig) trivial⟩
  · rw [List.foldlM_cons, reset]
    simp only [bind, Except.bind, List.foldlM_cons, begins, List.foldlM_nil]
    rfl
  · rw [(describes .systemConfig).count_eq details, CounterState.items,
      same, kept, settings]
    decide

/--
After 31 settings records, which fill a page, an enumeration announces 62
items.
-/
theorem counters_describe_flash_not_closed :
    ∃ first state,
      boot = .ok first ∧
      (List.replicate 31
            (Event.addItem .systemConfig (someItem .systemConfig)) ++
          [Event.beginEnumerate .systemConfig 0]).foldlM step first =
        .ok state ∧
      (state.enumerator .systemConfig).enumeratorDetails =
        some .systemConfig ∧
      count state.store (state.enumerator .systemConfig) = 62 ∧
      (state.items .systemConfig).length = 31 := by
  obtain ⟨store, booted, each⟩ := init_empty
  obtain ⟨tracks, idle⟩ := each .systemConfig
  obtain ⟨after, steps, afterTracks, afterIdle⟩ :=
    @addItems_steps .systemConfig StoreLog.empty 0
      { store := store
        enumerator := fun _ => closedEnumerator
        added := fun _ => [] } tracks (StoreLog.regular_empty _) idle
      (List.replicate 31 (someItem .systemConfig))
  simp only [List.map_replicate] at steps afterTracks
  have sized :
      ∀ data ∈ List.replicate 31 (someItem .systemConfig).val,
        data.length = (geometry .systemConfig).itemSize := by
    intro data member
    rw [List.eq_of_mem_replicate member]
    exact (someItem .systemConfig).property
  have regular := StoreLog.regular_ofItems sized
  have tracks : Tracks .systemConfig
      (StoreLog.ofItems (geometry .systemConfig)
        (List.replicate 31 (someItem .systemConfig).val)) 31 after :=
    afterTracks
  have items := @StoreLog.items_ofItems (geometry .systemConfig)
    (List.replicate 31 (someItem .systemConfig).val)
  have notOpened := not_congr (StoreLog.opened_ofItems sized)
  generalize StoreLog.ofItems (geometry .systemConfig)
    (List.replicate 31 (someItem .systemConfig).val) = log at *
  have notOpened : log.opened = false := by
    rw [← Bool.not_eq_true, notOpened]
    decide
  have closed : log.closed = 1 := by
    rw [regular.closed_eq, items]
    decide
  have oldest : log.oldest = 0 := by
    rw [regular.oldest_eq, closed]
    decide
  have announced : announcedItems .systemConfig log 31 = 62 := by
    rw [announcedItems, pageCount, if_pos rfl, notOpened, closed, oldest,
      if_neg Bool.false_ne_true]
    decide
  have kept : (log.retained (geometry .systemConfig)).length = 31 := by
    rw [StoreLog.retained, SegmentedLog.length_retained, items, oldest]
    decide
  obtain ⟨page, slot, next, enumerator, begun, reading, _⟩ :=
    beginEnumerate_ready tracks regular.spacious (by decide) 0 rfl
      (Or.inl (by rw [announced, kept]; decide))
  rw [announced] at reading
  refine ⟨_, _, by simp only [boot, booted, bind, Except.bind]; rfl, by
    rw [List.foldlM_append, steps]
    simp only [List.foldlM_cons, List.foldlM_nil, step,
      (listener_idle tracks.listenerIdle afterIdle).2, idleState, begun,
      bind, Except.bind]
    rfl, ?_, ?_, ?_⟩
  · simp only [Function.update_self]
    exact reading.details_eq
  · simp only [Function.update_self, count, reading.details_eq,
      reading.total_eq]
    rfl
  · simp only [CounterState.items, Function.update_self]
    decide

end DemoBoard.ItemCounters
