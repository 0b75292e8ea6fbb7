import DemoBoard.ItemStorePosition
import DemoBoard.ItemStoreQueue

namespace DemoBoard.ItemStore

open ByteMemory

/-!
# Steps that spare a store

Messages for one store and erases of its pages leave the metadata and the pages
of the other store alone.
-/

/-- The effects on flash concern other stores. -/
def Elsewhere (item : ItemDef) (effects : List FlashEffect) : Prop :=
  ∀ effect ∈ effects, ∃ other, other ≠ item ∧
    effect.Inside (geometry other).firstPage (geometry other).nrOfPages

/-- A store is not affected by a step. -/
structure Spares
    (item : ItemDef) (before after : ItemStoreState) : Prop where
  sameStore : SameStore item before after
  notCondemned : ∀ page, InStore item page → ¬ Condemned after page
  effects : ∃ effects,
    after.flash.history = before.flash.history ++ effects ∧
      Elsewhere item effects

section Spared

variable {item other : ItemDef}
variable {before after : ItemStoreState}
variable {dones : Nat}
variable {request : Request}
variable {handled : Handled}

/-- The pages of an erase of another store. -/
theorem notCondemned_of_inStore
    (different : other ≠ item)
    (inside : ∀ page, Condemned after page → InStore other page) :
    ∀ page, InStore item page → ¬ Condemned after page := by
  intro page inStore condemned
  exact different (inStore_unique (inside page condemned) inStore)

/-- A step that changes neither flash nor the metadata of the store. -/
theorem spares_of_same
    (info : after.itemStore item = before.itemStore item)
    (memory : after.flash.memory = before.flash.memory)
    (history : after.flash.history = before.flash.history)
    (notCondemned : ∀ page, InStore item page → ¬ Condemned after page) :
    Spares item before after where
  sameStore := by
    refine ⟨info, ?_⟩
    rw [memory]
    exact AgreeOn.refl _ _ _
  notCondemned := notCondemned
  effects := by
    refine ⟨[], ?_, nofun⟩
    rw [history, List.append_nil]

/-- An add to another store. -/
theorem spares_added
    (different : other ≠ item)
    (settled : Settled other before after) :
    Spares item before after := by
  obtain ⟨effects, extended⟩ := settled.extended
  have apart := geometry_apart different
  refine ⟨⟨extended.others item different.symm, ?_⟩, ?_, effects,
    extended.history,
    fun effect member => ⟨other, different, extended.inside effect member⟩⟩
  · rw [extended.memory]
    exact applyEffects_agreeOn extended.inside (by omega) _
  · rcases settled.phase with still | wrap
    · intro page _
      exact still.notCondemned page
    · refine notCondemned_of_inStore different ?_
      intro page condemned
      obtain ⟨_, lower, upper⟩ := condemned
      rw [wrap.single, wrap.page] at upper
      rw [wrap.page] at lower
      rw [show page = writePage after other by omega]
      exact settled.placed.inStore

/-- The start of a delete of another store. -/
theorem spares_beginErase
    (different : other ≠ item)
    (reminder : EraseParameters) :
    Spares item before (beginErase (eraseOf other) reminder before) := by
  refine spares_of_same rfl rfl rfl
    (notCondemned_of_inStore different ?_)
  intro page condemned
  exact ⟨condemned.2.1, condemned.2.2⟩

/-- A message with which the item store neither adds nor enumerates. -/
def LeavesAlone
    (item : ItemDef) (store : ItemStoreState) (request : Request) : Prop :=
  ∀ other,
    ((∃ data, request = .addItem other data) ∨
        ∃ enumerator, request = .beginEnumerate other enumerator) →
      store.listenerState = .idle →
      (store.itemStore other).currentState = .idle → other ≠ item

/-- The dispatch of a message that does not start an erase of the store. -/
theorem spares_dispatched
    (sound : Sound before dones)
    (dispatched : Dispatched before request handled)
    (others : LeavesAlone item before request)
    (spared : ∀ page, InStore item page → ¬ Condemned before page)
    (notDeleted : before.listenerState = .idle →
      request ≠ .erase (eraseOf item))
    (notReminded : request = .eraseDone →
      before.eraseReminder ≠ eraseOf item) :
    Spares item before handled.state ∧
      ∀ started, handled.enumeration = some started →
        started.item ≠ item := by
  cases dispatched with
  | @added other data rest storeIdle after ok result =>
      obtain ⟨settled, _⟩ := addItem_settled (sound.placed other) rest result
      have spares := spares_added
        (others other (.inl ⟨data, rfl⟩) rest.listenerIdle storeIdle) settled
      refine ⟨?_, (by rintro _ ⟨⟩)⟩
      cases ok with
      | true => exact spares
      | false =>
          exact ⟨⟨spares.sameStore.info, spares.sameStore.memory⟩,
            spares.notCondemned, spares.effects⟩
  | enumerated other enumerator rest storeIdle =>
      have different := others other (.inr ⟨enumerator, rfl⟩)
        rest.listenerIdle storeIdle
      have same := sameContent_beginEnumerate before other enumerator
      refine ⟨spares_of_same ?_ ?_ ?_ ?_, ?_⟩
      · obtain ⟨searched, changed, closed | opened⟩ :=
          beginEnumerate_changesStatus before other enumerator
        · rw [closed.2]
          exact changed.others different.symm
        · rw [opened.2, modifyInfo_other _ _ different.symm]
          exact changed.others different.symm
      · rw [same.flash]
      · rw [same.flash]
      · intro page inStore
        rw [same.condemned_iff]
        exact spared page inStore
      · rintro started ⟨⟩
        exact different
  | ignored busy addOrEnumerate =>
      exact ⟨spares_of_same rfl rfl rfl spared, (by rintro _ ⟨⟩)⟩
  | deleteStarted other rest =>
      have different : other ≠ item := by
        rintro rfl
        exact notDeleted rest.listenerIdle rfl
      exact ⟨spares_beginErase different _, (by rintro _ ⟨⟩)⟩
  | reminded other erasing =>
      exact ⟨spares_of_same rfl rfl rfl spared, (by rintro _ ⟨⟩)⟩
  | restarted other erasing reminder =>
      have different : other ≠ item := by
        rintro rfl
        exact notReminded rfl reminder
      exact ⟨spares_beginErase different _, (by rintro _ ⟨⟩)⟩
  | deleted other erasing quiet parameters =>
      have different : item ≠ other := by
        rintro rfl
        have positive := (geometry item).nrOfPages_pos
        refine spared (geometry item).firstPage
          ⟨Nat.le_refl _, Nat.lt_add_of_pos_right positive⟩
          ⟨erasing, ?_, ?_⟩
        · rw [parameters]
          exact Nat.le_refl _
        · rw [parameters]
          exact Nat.lt_add_of_pos_right positive
      refine ⟨spares_of_same ?_ rfl rfl ?_, (by rintro _ ⟨⟩)⟩
      · rw [reinitialised, modifyInfo_other _ _ different]
      · rintro page _ ⟨stillErasing, _⟩
        cases stillErasing
  | wrapped other erasing quiet keep page =>
      refine ⟨spares_of_same rfl rfl rfl ?_, (by rintro _ ⟨⟩)⟩
      rintro page _ ⟨stillErasing, _⟩
      cases stillErasing

/-- The erase of a page of another store. -/
theorem spares_endOfPage
    (sound : Sound before dones)
    (pending : before.flash.processNextPage ≠ none)
    (spared : ∀ page, InStore item page → ¬ Condemned before page) :
    Spares item before (endOfPage before).1 := by
  obtain ⟨_, ⟨page, erases⟩, target, _⟩ :=
    sound.phase.endOfPage sound.placed pending
  obtain ⟨other, inside⟩ := target.inStore sound.placed
  have inOther := inside page erases.condemned.2.1 erases.condemned.2.2
  have different : other ≠ item := by
    rintro rfl
    exact spared page inOther erases.condemned
  have apart := geometry_apart different
  have insideOther : FlashEffect.Inside (geometry other).firstPage
      (geometry other).nrOfPages (.erasePage page) :=
    inOther
  refine ⟨⟨by rw [erases.itemStore], ?_⟩, ?_, [.erasePage page],
    erases.history, ?_⟩
  · rw [erases.memory]
    exact @applyEffects_agreeOn _ _ _ _ [.erasePage page]
      (by simpa using insideOther) (by omega) _
  · intro page inStore
    rw [erases.condemned_iff]
    exact spared page inStore
  · intro effect member
    rw [List.mem_singleton.mp member]
    exact ⟨other, different, insideOther⟩

end Spared

end DemoBoard.ItemStore
