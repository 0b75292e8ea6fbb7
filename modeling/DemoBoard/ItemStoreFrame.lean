import DemoBoard.ItemStoreReset

namespace DemoBoard.ItemStore

open ByteMemory

/-!
# Two stores on one flash array

The stores share the flash driver and the listener, but every operation of one
store stays inside its own pages and leaves the metadata of the other store
alone.  A run that adds to both stores therefore keeps the log of each of them.
-/

section Frame

variable {item other : ItemDef}
variable {log : StoreLog}
variable {stale : Nat}
variable {effects : List FlashEffect}
variable {before after : ItemStoreState}

/-- Operations of another store keep the image of a log. -/
theorem storeImage_frame
    {memory : Memory}
    (image : StoreImage item log memory)
    (different : other ≠ item)
    (inside : ∀ effect ∈ effects,
      effect.Inside (geometry other).firstPage
        (geometry other).nrOfPages) :
    StoreImage item log (applyEffects memory effects) := by
  intro ordinal lower upper
  apply (image ordinal lower upper).congr
  have own := (geometry item).pageOf_inside ordinal
  have apart := geometry_apart different
  exact applyEffects_agreeOn inside (by omega) memory

/-- Operations of another store keep what the variables describe. -/
theorem Tracks.frame
    (tracks : Tracks item log stale before)
    (different : other ≠ item)
    (extended : Extends other effects before after)
    (idle : after.flash.Idle)
    (listenerIdle : after.listenerState = .idle) :
    Tracks item log stale after where
  idle := idle
  listenerIdle := listenerIdle
  noReminder := by
    rw [extended.eraseReminder]
    exact tracks.noReminder
  wellFormed := tracks.wellFormed
  image := by
    rw [extended.memory]
    exact storeImage_frame tracks.image different extended.inside
  info := by
    rw [extended.others item different.symm]
    exact tracks.info

/-- The boot of another store leaves a store as it is after a reset. -/
theorem Fresh.frame
    (fresh : Fresh item before)
    (different : other ≠ item)
    (extended : Extends other effects before after)
    (idle : after.flash.Idle)
    (listenerIdle : after.listenerState = .idle) :
    Fresh item after where
  idle := idle
  listenerIdle := listenerIdle
  noReminder := by
    rw [extended.eraseReminder]
    exact fresh.noReminder
  static := by
    rw [extended.others item different.symm]
    exact fresh.static
  fullPages_eq := by
    rw [extended.others item different.symm]
    exact fresh.fullPages_eq
  nrOfItems_eq := by
    rw [extended.others item different.symm]
    exact fresh.nrOfItems_eq

end Frame

/-- Completed adds to either store. -/
def addsToStores :
    ItemStoreState → List (ItemDef × List Byte) →
      Except AssertionFailure (ItemStoreState × Bool)
  | state, [] => .ok (state, true)
  | state, (item, data) :: rest => do
      let outcome ← addItemCompleted state item data
      let final ← addsToStores outcome.1 rest
      .ok (final.1, outcome.2 && final.2)

/-- `ItemStore_Init` over erased flash, followed by completed adds. -/
def runStores (adds : List (ItemDef × List Byte)) :
    Except AssertionFailure (ItemStoreState × Bool) := do
  let state ← init (powerOn erasedFlash)
  addsToStores state adds

/-- The items that are added to one store. -/
def itemsOf (item : ItemDef) (adds : List (ItemDef × List Byte)) :
    List (List Byte) :=
  (adds.filter fun entry => entry.1 = item).map Prod.snd

/-- Each store describes the log of its own items. -/
structure TracksBoth
    (items : ItemDef → List (List Byte)) (state : ItemStoreState) :
    Prop where
  tracks : ∀ item, ∃ stale,
    stale ≤ (geometry item).capacity ∧
    Tracks item (StoreLog.ofItems (geometry item) (items item)) stale state
  idle : ∀ item, (state.itemStore item).currentState = .idle

/-- One more item of a store. -/
theorem ofItems_append
    (geometry : StoreGeometry)
    (items : List (List Byte))
    (data : List Byte) :
    StoreLog.ofItems geometry (items ++ [data]) =
      (StoreLog.ofItems geometry items).add geometry data := by
  simp [StoreLog.ofItems, StoreLog.addAll]

section Both

variable {items : ItemDef → List (List Byte)}
variable {state : ItemStoreState}

/-- Booting both stores when each of them recovers a log. -/
theorem init_each
    {memory : Memory}
    {recovered : ItemDef → StoreLog → Prop}
    (boots : ∀ item state,
      Fresh item state → state.flash.memory = memory →
        ∃ log after,
          initItemStore state item = .ok after ∧
          Tracks item log 0 after ∧
          Extends item [] state after ∧
          recovered item log) :
    ∃ after,
      init (powerOn memory) = .ok after ∧
      ∀ item,
        (∃ log, Tracks item log 0 after ∧ recovered item log) ∧
          (after.itemStore item).currentState = .idle := by
  obtain ⟨settings, middle, booted, tracks, extended, found⟩ :=
    boots .systemConfig _ (fresh_powerOn _ memory) rfl
  have different : ItemDef.systemConfig ≠ .measurementSample := by decide
  have fresh := (fresh_powerOn .measurementSample memory).frame
    different extended tracks.idle tracks.listenerIdle
  obtain ⟨samples, after, bootedNext, nextTracks, nextExtended,
      nextFound⟩ :=
    boots .measurementSample middle fresh extended.memory
  have first := tracks.frame different.symm nextExtended nextTracks.idle
    nextTracks.listenerIdle
  refine ⟨after, ?_, ?_⟩
  · rw [init, booted]
    exact bootedNext
  · intro item
    cases item with
    | systemConfig =>
        refine ⟨⟨settings, first, found⟩, ?_⟩
        rw [nextExtended.others _ different, extended.currentState]
        rfl
    | measurementSample =>
        refine ⟨⟨samples, nextTracks, nextFound⟩, ?_⟩
        rw [nextExtended.currentState, extended.others _ different.symm]
        rfl

/-- Booting both stores over erased flash leaves empty logs. -/
theorem init_empty :
    ∃ after,
      init (powerOn erasedFlash) = .ok after ∧
      ∀ item,
        Tracks item StoreLog.empty 0 after ∧
          (after.itemStore item).currentState = .idle := by
  obtain ⟨after, booted, each⟩ :=
    @init_each erasedFlash (fun _ log => log = StoreLog.empty)
      (by
        intro item state fresh memory
        obtain ⟨after, booted, tracks, extended⟩ :=
          initItemStore_empty fresh (by
            rw [memory]
            exact storeImage_empty fun _ => constantOn_erasedFlash _ _)
        exact ⟨_, after, booted, tracks, extended, rfl⟩)
  refine ⟨after, booted, ?_⟩
  intro item
  obtain ⟨⟨log, tracks, rfl⟩, idle⟩ := each item
  exact ⟨tracks, idle⟩

/-- Booting both stores over erased flash. -/
theorem init_erasedFlash :
    ∃ after,
      init (powerOn erasedFlash) = .ok after ∧
      TracksBoth (fun _ => []) after := by
  obtain ⟨after, booted, each⟩ := init_empty
  exact ⟨after, booted,
    fun item => ⟨0, Nat.zero_le _, (each item).1⟩,
    fun item => (each item).2⟩

/-- A completed add to one of the stores. -/
theorem addItemCompleted_both
    (both : TracksBoth items state)
    (sized : ∀ item, ∀ data ∈ items item,
      data.length = (geometry item).itemSize)
    {item : ItemDef}
    {data : List Byte}
    (size : data.length = (geometry item).itemSize) :
    ∃ after,
      addItemCompleted state item data = .ok (after, true) ∧
      TracksBoth
        (Function.update items item (items item ++ [data])) after := by
  obtain ⟨stale, _, tracks⟩ := both.tracks item
  obtain ⟨after, added, afterTracks, extended⟩ :=
    addItemCompleted_tracks tracks
      (StoreLog.regular_ofItems (sized item)).spacious size
  refine ⟨after, added, ?_, ?_⟩
  · intro other
    by_cases same : other = item
    · subst same
      rw [Function.update_self, ofItems_append]
      exact ⟨_, Nat.le_refl _, afterTracks⟩
    · obtain ⟨otherStale, staleLe, otherTracks⟩ := both.tracks other
      rw [Function.update_of_ne same]
      exact ⟨otherStale, staleLe,
        otherTracks.frame (Ne.symm same) extended afterTracks.idle
          afterTracks.listenerIdle⟩
  · intro other
    by_cases same : other = item
    · subst same
      rw [extended.currentState]
      exact both.idle other
    · rw [extended.others other same]
      exact both.idle other

/-- Completed adds append to the log of their store. -/
theorem addsToStores_both
    {adds : List (ItemDef × List Byte)}
    (both : TracksBoth items state)
    (sized : ∀ item, ∀ data ∈ items item,
      data.length = (geometry item).itemSize)
    (sizedAdds : ∀ entry ∈ adds,
      entry.2.length = (geometry entry.1).itemSize) :
    ∃ after,
      addsToStores state adds = .ok (after, true) ∧
      TracksBoth (fun item => items item ++ itemsOf item adds) after := by
  induction adds generalizing items state with
  | nil =>
      exact ⟨state, rfl, by simpa [itemsOf] using both⟩
  | cons entry rest inductionHypothesis =>
      obtain ⟨item, data⟩ := entry
      have size := sizedAdds (item, data) (List.mem_cons_self ..)
      obtain ⟨middle, added, middleBoth⟩ :=
        addItemCompleted_both both sized size
      have middleSized :
          ∀ other, ∀ found ∈
            (Function.update items item (items item ++ [data])) other,
              found.length = (geometry other).itemSize := by
        intro other found member
        by_cases same : other = item
        · subst same
          rw [Function.update_self] at member
          rcases List.mem_append.mp member with earlier | last
          · exact sized other found earlier
          · rw [List.mem_singleton.mp last]
            exact size
        · rw [Function.update_of_ne same] at member
          exact sized other found member
      obtain ⟨after, addedRest, afterBoth⟩ :=
        inductionHypothesis middleBoth middleSized
          (fun next member => sizedAdds next (List.mem_cons_of_mem _ member))
      refine ⟨after, ?_, ?_⟩
      · simp [addsToStores, added, addedRest, bind, Except.bind]
      · have sameItems :
            (fun other =>
              (Function.update items item (items item ++ [data])) other ++
                itemsOf other rest) =
            fun other => items other ++
              itemsOf other ((item, data) :: rest) := by
          funext other
          by_cases same : other = item
          · subst same
            simp [itemsOf]
          · simp [itemsOf, same, Ne.symm same]
        rw [← sameItems]
        exact afterBoth

/-- A run that adds to both stores. -/
theorem runStores_both
    {adds : List (ItemDef × List Byte)}
    (sized : ∀ entry ∈ adds,
      entry.2.length = (geometry entry.1).itemSize) :
    ∃ after,
      runStores adds = .ok (after, true) ∧
      TracksBoth (fun item => itemsOf item adds) after := by
  obtain ⟨booted, boot, both⟩ := init_erasedFlash
  obtain ⟨after, added, afterBoth⟩ :=
    addsToStores_both both (by simp) sized
  refine ⟨after, ?_, by simpa using afterBoth⟩
  rw [runStores, boot]
  exact added

end Both

section Boot

variable {item : ItemDef}
variable {log : StoreLog}
variable {state : ItemStoreState}

/-- `InitItemStore` over the image left by any number of completed adds. -/
theorem initItemStore_counted
    (fresh : Fresh item state)
    (regular : log.Regular (geometry item))
    (image : StoreImage item log state.flash.memory)
    (hasData : ∀ data ∈ log.items, hasNoData data = false)
    (blockId_eq :
      ∀ ordinal, log.blockId ordinal = ordinal % maxBlockIndex) :
    ∃ after,
      initItemStore state item = .ok after ∧
      Extends item [] state after ∧
      after.flash.Idle ∧
      after.listenerState = .idle := by
  by_cases lost : RestartLost item log
  · rcases lost.cases with adjacent | late
    · obtain ⟨after, booted, extended, flash, listener, _⟩ :=
        initItemStore_adjacent fresh regular image hasData blockId_eq lost
          adjacent
      refine ⟨after, booted, extended, ?_, ?_⟩
      · rw [flash]
        exact fresh.idle
      · rw [listener]
        exact fresh.listenerIdle
    · obtain ⟨after, booted, tracks, extended⟩ :=
        initItemStore_regular fresh (regular_renumber regular)
          (image_renumber lost.1 image)
          (recoverable_renumber regular hasData blockId_eq lost late)
      exact ⟨after, booted, extended, tracks.idle, tracks.listenerIdle⟩
  · obtain ⟨after, booted, tracks, extended⟩ :=
      initItemStore_regular fresh regular image
        (recoverable_of_counted regular hasData blockId_eq lost)
    exact ⟨after, booted, extended, tracks.idle, tracks.listenerIdle⟩

end Boot

end DemoBoard.ItemStore
