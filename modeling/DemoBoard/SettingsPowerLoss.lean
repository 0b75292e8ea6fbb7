import DemoBoard.ItemStoreFrame
import DemoBoard.ItemStorePowerLoss
import DemoBoard.SettingsController

namespace DemoBoard.ItemStore

open ByteMemory SettingsController

/-!
# Power loss while settings are saved

After a reset the settings controller takes the record an enumeration with
start index -1 delivers.  A record whose double words are only partly written
is the last item of the store, but its checksum is not written, so the factory
defaults replace it.
-/

section Last

variable {item : ItemDef}
variable {log : StoreLog}
variable {stale : Nat}
variable {state : ItemStoreState}

/-- The item that start index -1 leads to, out of all items ever added. -/
def lastEnumerated (capacity count : Nat) : Nat :=
  if count % capacity = 1 ∧ count ≠ 1 then
    count - 1 - capacity
  else
    count - 1

/-- The number of retained items while the current page has items. -/
theorem length_retained_partly
    (regular : log.Regular (geometry item))
    (partly : log.items.length % (geometry item).capacity ≠ 0) :
    log.items.length =
        log.oldest * (geometry item).capacity +
          (log.retained (geometry item)).length ∧
      0 < (log.retained (geometry item)).length ∧
      (log.oldest ≠ 0 →
        (geometry item).capacity <
          (log.retained (geometry item)).length) := by
  have slots := regular.slot_eq
  have shape := SegmentedLog.length_eq (geometry item).capacity log.items
  rw [← regular.closed_eq, ← slots] at shape
  rw [SegmentedLog.used] at slots
  have oldest := regular.oldest_eq
  have several := (geometry item).severalPages
  have lower := Nat.mul_le_mul_right (geometry item).capacity
    regular.wellFormed.oldest_le
  rw [SegmentedLog.oldest] at oldest
  rw [StoreLog.retained, SegmentedLog.length_retained]
  refine ⟨by omega, by omega, ?_⟩
  intro wrapped
  have larger := Nat.mul_le_mul_right (geometry item).capacity
    (show log.oldest + 1 ≤ log.closed by omega)
  rw [Nat.succ_mul] at larger
  omega

/-- An enumeration of the last item. -/
theorem enumerates_last
    (tracks : Tracks item log stale state)
    (regular : log.Regular (geometry item))
    (staleLe : stale ≤ (geometry item).capacity)
    (opened : log.opened = true)
    (partly : log.items.length % (geometry item).capacity ≠ 0) :
    ∃ data,
      log.items[lastEnumerated (geometry item).capacity
        log.items.length]? = some data ∧
      EnumeratesExactly state item (-1) [data] := by
  have large := (geometry item).capacity_ge
  obtain ⟨shape, someItem, wrapped⟩ :=
    length_retained_partly regular partly
  have announced : announcedItems item log stale =
      (log.retained (geometry item)).length :=
    announcedItems_exact regular.spacious (Or.inl opened)
  have small := announcedItems_lt regular.spacious staleLe
  have wanted :
      firstWanted (log.retained (geometry item)).length (-1) =
        (log.retained (geometry item)).length - 1 := by
    rw [firstWanted, if_pos (by decide)]
    omega
  have skip :
      itemsToSkip (announcedItems item log stale) (-1) =
        (log.retained (geometry item)).length - 1 := by
    rw [announced] at small ⊢
    rw [itemsToSkip_eq_firstWanted small (by omega), wanted]
  have delivered :=
    enumeratesExactly_iff tracks regular.spacious staleLe (-1) skip
      (by omega) (Or.inl (Nat.le_of_eq announced))
  have startable : Startable item log
      ((log.retained (geometry item)).length - 1) :=
    Or.inl (by omega)
  have back :
      (geometry item).capacity ∣
          (log.retained (geometry item)).length - 1 ↔
        log.items.length % (geometry item).capacity = 1 := by
    rw [← Nat.dvd_add_right (Nat.dvd_mul_left (geometry item).capacity
        log.oldest),
      show log.oldest * (geometry item).capacity +
          ((log.retained (geometry item)).length - 1) =
        log.items.length - 1 by omega,
      ← Nat.modEq_iff_dvd' (by omega), Nat.ModEq,
      Nat.mod_eq_of_lt (show 1 < (geometry item).capacity by omega)]
    exact eq_comm
  have position :
      log.oldest * (geometry item).capacity +
          startItem (geometry item).capacity
            ((log.retained (geometry item)).length - 1) =
        lastEnumerated (geometry item).capacity log.items.length := by
    rw [startItem, lastEnumerated]
    by_cases pageStart : log.items.length % (geometry item).capacity = 1
    · rw [if_pos (back.mpr pageStart)]
      by_cases single : log.items.length = 1
      · rw [if_neg (by omega)]
        omega
      · rw [if_pos ⟨pageStart, single⟩]
        have beyond : (geometry item).capacity ≤
            (log.retained (geometry item)).length - 1 := by
          apply Nat.le_of_dvd _ (back.mpr pageStart)
          by_cases unwrapped : log.oldest = 0
          · rw [unwrapped, Nat.zero_mul] at shape
            omega
          · have more := wrapped unwrapped
            omega
        omega
    · rw [if_neg (fun divides => pageStart (back.mp divides)),
        if_neg (fun both => pageStart both.1)]
      omega
  have inside :
      lastEnumerated (geometry item).capacity log.items.length <
        log.items.length := by
    rw [lastEnumerated]
    split <;> omega
  refine ⟨log.items[lastEnumerated (geometry item).capacity
    log.items.length], List.getElem?_eq_getElem inside, ?_⟩
  rw [delivered [log.items[lastEnumerated (geometry item).capacity
    log.items.length]], announced]
  refine ⟨startable, ?_⟩
  rw [show (log.retained (geometry item)).length -
      ((log.retained (geometry item)).length - 1) = 1 by omega]
  have dropped : ∀ skipped,
      (log.retained (geometry item)).drop skipped =
        log.items.drop
          (log.oldest * (geometry item).capacity + skipped) := by
    intro skipped
    rw [StoreLog.retained, SegmentedLog.retained, List.drop_drop]
  rw [dropped, position, List.drop_eq_getElem_cons inside,
    List.take_succ_cons, List.take_zero]

end Last

/-- The settings `InitializeSettings` makes of a stored record. -/
def loadedSettings
    (halCrc : List Byte → UInt32) (defaults : SystemConfig)
    (data : List Byte) : SystemConfig :=
  if crcComputeCrc halCrc (SystemConfig.ofBytes data).protectedBytes ≠
      (SystemConfig.ofBytes data).crc then
    defaults
  else
    SystemConfig.ofBytes data

/-- The factory defaults of a device. -/
def factoryDefaults (uniqueDeviceId : UInt32) : SystemConfig :=
  (static.peripheralsInitialized uniqueDeviceId).defaultSettings

section Boot

variable {halCrc : List Byte → UInt32}
variable {uniqueDeviceId : UInt32}
variable {memory : Memory}
variable {state : ItemStoreState}

/-- The controller at the time its enumeration is dispatched. -/
def enumeratedState (state : ItemStoreState) : ItemStoreState :=
  registerCallback state .systemConfig .initializeSettings

/-- The settings after a boot depend on the enumeration only. -/
theorem boot_eq
    (booted : init (powerOn memory) = .ok state)
    (listenerIdle : state.listenerState = .idle)
    (idle : (state.itemStore .systemConfig).currentState = .idle) :
    boot halCrc uniqueDeviceId memory =
      .ok
        (let outcome := beginEnumerate (enumeratedState state)
          .systemConfig (enumeratorFrom (-1))
        initializeSettings halCrc outcome.1
          { static.peripheralsInitialized uniqueDeviceId with
            settingsEnumerator := outcome.2.1 }
          outcome.2.2) := by
  have sameListener :
      (enumeratedState state).listenerState = .idle := listenerIdle
  have sameState :
      ((enumeratedState state).itemStore .systemConfig).currentState =
        .idle := by
    rw [enumeratedState, registerCallback, modifyInfo_same]
    exact idle
  have handled :
      listener (enumeratedState state)
          (.beginEnumerate .systemConfig (enumeratorFrom (-1))) =
        idleState (enumeratedState state)
          (.beginEnumerate .systemConfig (enumeratorFrom (-1))) := by
    rw [listener, sameListener]
    simp only [listenerIdleState, Request.item, sameState]
  rw [boot, booted]
  simp only [bind, Except.bind]
  rw [show registerCallback state .systemConfig .initializeSettings =
      enumeratedState state from rfl,
    show (static.peripheralsInitialized uniqueDeviceId).settingsEnumerator =
      enumeratorFrom (-1) from rfl, handled]
  rfl

/-- Without a valid enumerator the defaults are used. -/
theorem initializeSettings_notReady
    (halCrc : List Byte → UInt32)
    (state : ItemStoreState)
    (controller : SettingsController) :
    (initializeSettings halCrc state controller false).2.actualSettings =
      controller.defaultSettings := by
  rw [initializeSettings, if_pos (by simp)]
  rfl

/-- The first record of a valid enumerator is checked and taken. -/
theorem initializeSettings_record
    (halCrc : List Byte → UInt32)
    {controller : SettingsController}
    {data : List Byte}
    (delivered :
      (getNext state controller.settingsEnumerator).2.2 = some data) :
    (initializeSettings halCrc state controller true).2.actualSettings =
      loadedSettings halCrc controller.defaultSettings data := by
  have more : controller.settingsEnumerator.hasMoreItems = true := by
    by_contra none
    rw [getNext] at delivered
    simp [none] at delivered
  rw [initializeSettings, if_neg (by simp [more]), loadedSettings]
  simp only [delivered, computeCrcOnActualSetting]
  split <;> rfl

/-- A boot that finds a record. -/
theorem boot_record
    (booted : init (powerOn memory) = .ok state)
    (listenerIdle : state.listenerState = .idle)
    (idle : (state.itemStore .systemConfig).currentState = .idle)
    {data : List Byte}
    {rest : List (List Byte)}
    (enumerates :
      EnumeratesExactly (enumeratedState state) .systemConfig (-1)
        (data :: rest)) :
    ∃ outcome,
      boot halCrc uniqueDeviceId memory = .ok outcome ∧
      outcome.2.actualSettings =
        loadedSettings halCrc (factoryDefaults uniqueDeviceId) data := by
  obtain ⟨ready, delivered, _⟩ := enumerates
  refine ⟨_, boot_eq booted listenerIdle idle, ?_⟩
  simp only [ready]
  exact initializeSettings_record halCrc delivered

/-- A boot that finds no record. -/
theorem boot_notReady
    (booted : init (powerOn memory) = .ok state)
    (listenerIdle : state.listenerState = .idle)
    (idle : (state.itemStore .systemConfig).currentState = .idle)
    (notReady :
      (beginEnumerate (enumeratedState state) .systemConfig
        (enumeratorFrom (-1))).2.2 = false) :
    ∃ outcome,
      boot halCrc uniqueDeviceId memory = .ok outcome ∧
      outcome.2.actualSettings = factoryDefaults uniqueDeviceId := by
  refine ⟨_, boot_eq booted listenerIdle idle, ?_⟩
  simp only [notReady]
  exact initializeSettings_notReady halCrc _ _

end Boot

/-- The image that completed adds of items with data leave behind. -/
structure CountedImage
    (item : ItemDef) (log : StoreLog) (memory : Memory) : Prop where
  regular : log.Regular (geometry item)
  image : StoreImage item log memory
  hasData : ∀ data ∈ log.items, hasNoData data = false
  blockId_eq : ∀ ordinal, log.blockId ordinal = ordinal % maxBlockIndex

section Reboot

variable {halCrc : List Byte → UInt32}
variable {uniqueDeviceId : UInt32}
variable {memory : Memory}
variable {log measured : StoreLog}

/-- `ItemStore_Init`, once the settings store is initialised. -/
theorem init_tracks
    (counted : CountedImage .measurementSample measured memory)
    {stale : Nat}
    {effects : List FlashEffect}
    {middle : ItemStoreState}
    (booted : initItemStore (powerOn memory) .systemConfig = .ok middle)
    (tracks : Tracks .systemConfig log stale middle)
    (extended :
      Extends .systemConfig effects (powerOn memory) middle) :
    ∃ after,
      init (powerOn memory) = .ok after ∧
      Tracks .systemConfig log stale after ∧
      (after.itemStore .systemConfig).currentState = .idle := by
  have different : ItemDef.systemConfig ≠ .measurementSample := by decide
  have fresh := (fresh_powerOn .measurementSample memory).frame different
    extended tracks.idle tracks.listenerIdle
  have image := storeImage_frame counted.image different extended.inside
  have sameMemory : middle.flash.memory = applyEffects memory effects :=
    extended.memory
  rw [← sameMemory] at image
  obtain ⟨after, bootedNext, nextExtended, idle, listenerIdle⟩ :=
    initItemStore_counted fresh counted.regular image counted.hasData
      counted.blockId_eq
  refine ⟨after, ?_,
    tracks.frame different.symm nextExtended idle listenerIdle, ?_⟩
  · rw [init, booted]
    exact bootedNext
  · rw [nextExtended.others _ different, extended.currentState]
    rfl

/-- `ItemStore_Init` over a store whose current page has items. -/
theorem init_last
    (measuredImage : CountedImage .measurementSample measured memory)
    (settingsImage : CountedImage .systemConfig log memory)
    (opened : log.opened = true)
    (partly :
      log.items.length % (geometry .systemConfig).capacity ≠ 0) :
    ∃ store data,
      init (powerOn memory) = .ok store ∧
      store.listenerState = .idle ∧
      (store.itemStore .systemConfig).currentState = .idle ∧
      log.items[lastEnumerated (geometry .systemConfig).capacity
        log.items.length]? = some data ∧
      EnumeratesExactly (enumeratedState store) .systemConfig (-1)
        [data] := by
  have notLost : ¬ RestartLost .systemConfig log := by
    rintro ⟨contradiction, _⟩
    rw [opened] at contradiction
    cases contradiction
  obtain ⟨middle, booted, middleTracks, extended⟩ :=
    initItemStore_regular (fresh_powerOn .systemConfig memory)
      settingsImage.regular settingsImage.image
      (recoverable_of_counted settingsImage.regular settingsImage.hasData
        settingsImage.blockId_eq notLost)
  obtain ⟨after, initialised, tracks, idle⟩ :=
    init_tracks measuredImage booted middleTracks extended
  obtain ⟨data, found, enumerates⟩ :=
    enumerates_last (tracks.registerCallback .initializeSettings)
      settingsImage.regular (Nat.zero_le _) opened partly
  exact ⟨after, data, initialised, tracks.listenerIdle, idle, found,
    enumerates⟩

/-- A reboot over a store whose current page has items. -/
theorem reboot_last
    (measuredImage : CountedImage .measurementSample measured memory)
    (settingsImage : CountedImage .systemConfig log memory)
    (opened : log.opened = true)
    (partly :
      log.items.length % (geometry .systemConfig).capacity ≠ 0) :
    ∃ outcome data,
      boot halCrc uniqueDeviceId memory = .ok outcome ∧
      log.items[lastEnumerated (geometry .systemConfig).capacity
        log.items.length]? = some data ∧
      outcome.2.actualSettings =
        loadedSettings halCrc (factoryDefaults uniqueDeviceId) data := by
  obtain ⟨store, data, initialised, listenerIdle, idle, found,
      enumerates⟩ :=
    init_last measuredImage settingsImage opened partly
  obtain ⟨outcome, rebooted, loaded⟩ :=
    @boot_record halCrc uniqueDeviceId _ _ initialised
      listenerIdle idle _ _ enumerates
  exact ⟨outcome, data, rebooted, found, loaded⟩

/-- A reboot over a full page in the first turn of the ring. -/
theorem reboot_firstTurn
    (measuredImage : CountedImage .measurementSample measured memory)
    (page : FullPage .systemConfig log (powerOn memory))
    (firstTurn : log.closed + 1 < (geometry .systemConfig).nrOfPages) :
    ∃ outcome,
      boot halCrc uniqueDeviceId memory = .ok outcome ∧
      outcome.2.actualSettings = factoryDefaults uniqueDeviceId := by
  obtain ⟨middle, booted, middleTracks, extended⟩ :=
    page.initItemStore_firstTurn firstTurn
  obtain ⟨after, initialised, tracks, idle⟩ :=
    init_tracks measuredImage booted middleTracks extended
  have oldest := page.oldest_eq
  have positive := (geometry .systemConfig).capacity_pos
  have pages : (geometry .systemConfig).nrOfPages = 2 := rfl
  rw [SegmentedLog.oldest] at oldest
  have regular : log.closePage.Regular (geometry .systemConfig) := by
    have finished := StoreLog.Regular.finishPage page.wellFormed page.opened
      page.full page.oldest_eq
    rwa [StoreLog.finishPage, if_neg (by omega)] at finished
  have kept := @length_retained .systemConfig _ regular.wellFormed
  have closed : log.closePage.closed - log.closePage.oldest = 1 := by
    simp only [StoreLog.closePage]
    omega
  have noCurrent : currentItems .systemConfig log.closePage = 0 := rfl
  rw [noCurrent, closedItems, closed, Nat.one_mul, Nat.add_zero] at kept
  have announced :
      announcedItems .systemConfig log.closePage
          (geometry .systemConfig).capacity =
        (geometry .systemConfig).capacity +
          (geometry .systemConfig).capacity := by
    rw [announcedItems, closed, pageCount, if_pos rfl, Nat.one_mul]
    rfl
  have large := (geometry .systemConfig).capacity_ge
  have skip :
      itemsToSkip
          (announcedItems .systemConfig log.closePage
            (geometry .systemConfig).capacity) (-1) =
        (geometry .systemConfig).capacity +
          (geometry .systemConfig).capacity - 1 := by
    rw [announced]
    rfl
  have notReady := beginEnumerate_notReady
    (tracks.registerCallback .initializeSettings) regular.spacious
    (Nat.le_refl _) (-1) skip (by
      rw [Startable, kept, closedItems, closed]
      omega)
  exact boot_notReady initialised tracks.listenerIdle idle notReady

end Reboot

/-- A record as `UpdateAndNotify` stores it. -/
structure Saved
    (halCrc : List Byte → UInt32) (record : SystemConfig) : Prop where
  version_eq : record.version = settingsVersion
  crc_eq : record.crc = crcComputeCrc halCrc record.protectedBytes

section Records

variable {halCrc : List Byte → UInt32}
variable {record : SystemConfig}

/-- A saved record passes its check. -/
theorem loadedSettings_saved
    (saved : Saved halCrc record)
    (defaults : SystemConfig) :
    loadedSettings halCrc defaults record.toBytes = record := by
  rw [loadedSettings, SystemConfig.ofBytes_toBytes,
    if_neg (not_not.mpr saved.crc_eq.symm)]

/-- The checksum of a record is a byte. -/
theorem crcComputeCrc_ne (buffer : List Byte) :
    crcComputeCrc halCrc buffer ≠ 0xFFFFFFFF := by
  intro same
  have bound : (crcComputeCrc halCrc buffer).toNat ≤ 255 := by
    rw [crcComputeCrc, UInt32.toNat_and]
    exact Nat.and_le_right
  rw [same] at bound
  exact absurd bound (by decide)

/-- The checksum of a torn record is not written. -/
theorem loadedSettings_torn
    {words : Nat}
    (torn : words < 16)
    (defaults : SystemConfig) :
    loadedSettings halCrc defaults
        (tornSlot .systemConfig words record.toBytes) = defaults := by
  have crcBytes :
      ((tornSlot .systemConfig words record.toBytes).drop 124).take 4 =
        List.replicate 4 erasedByte := by
    have size : (geometry .systemConfig).itemSize = 128 := rfl
    rw [tornSlot, tornItem, size, List.drop_append,
      List.drop_eq_nil_of_le (by simp; omega), List.nil_append,
      List.drop_replicate, List.take_replicate]
    congr 1
    simp only [List.length_take, SystemConfig.length_toBytes]
    omega
  rw [loadedSettings, if_pos]
  rw [SystemConfig.ofBytes, crcBytes]
  exact crcComputeCrc_ne _

/-- The version of a saved record is visible in its first double word. -/
theorem hasNoData_saved
    (saved : Saved halCrc record)
    {count : Nat}
    (some : 0 < count) :
    hasNoData (record.toBytes.take count) = false := by
  obtain ⟨rest, rfl⟩ := Nat.exists_eq_succ_of_ne_zero (by omega : count ≠ 0)
  have version : settingsVersion ≠ erasedByte := by decide
  simp [SystemConfig.toBytes, SystemConfig.protectedBytes, hasNoData,
    saved.version_eq, version]

/-- A saved record is not taken for an erased slot. -/
theorem hasData_saved
    (saved : Saved halCrc record) :
    hasNoData record.toBytes = false := by
  have visible := hasNoData_saved saved (show 0 < 128 by decide)
  rwa [List.take_of_length_le
    (Nat.le_of_eq (SystemConfig.length_toBytes record))] at visible

end Records

/-- After a reboot the settings are the previous or the new record. -/
def UpdatedAtomically
    (halCrc : List Byte → UInt32) (uniqueDeviceId : UInt32)
    (previous new : SystemConfig) (memory : Memory) : Prop :=
  ∃ outcome,
    boot halCrc uniqueDeviceId memory = .ok outcome ∧
    (outcome.2.actualSettings = previous ∨
      outcome.2.actualSettings = new)

/-- Where a power loss after some double words leaves valid settings. -/
def UpdateSurvives
    (defaults : SystemConfig) (records : List SystemConfig)
    (previous new : SystemConfig) (words : Nat) : Prop :=
  let capacity := (geometry .systemConfig).capacity
  let count := records.length
  words = 0 ∧
      (count % capacity = 1 → count ≠ 1 →
        records[count - 1 - capacity]? = some previous ∨
          records[count - 1 - capacity]? = some new) ∨
    words = 16 ∧ count % capacity ≠ capacity - 1 ∨
    0 < words ∧ (count % capacity = capacity - 1 → count < capacity) ∧
      (defaults = previous ∨ defaults = new)

section Save

variable {halCrc : List Byte → UInt32}
variable {uniqueDeviceId : UInt32}
variable {memory : Memory}
variable {log measured : StoreLog}
variable {records : List SystemConfig}
variable {previous new : SystemConfig}

/-- A power loss before the first double word. -/
theorem updated_none_iff
    (before : BeforeAdd .systemConfig log memory new.toBytes)
    (measuredImage : CountedImage .measurementSample measured memory)
    (items_eq : log.items = records.map SystemConfig.toBytes)
    (saved : ∀ record ∈ records, Saved halCrc record)
    (last : records.getLast? = some previous)
    (partly :
      records.length % (geometry .systemConfig).capacity ≠ 0) :
    UpdatedAtomically halCrc uniqueDeviceId previous new memory ↔
      (records.length % (geometry .systemConfig).capacity = 1 →
        records.length ≠ 1 →
          records[records.length - 1 -
              (geometry .systemConfig).capacity]? = some previous ∨
            records[records.length - 1 -
              (geometry .systemConfig).capacity]? = some new) := by
  have lengths : log.items.length = records.length := by
    rw [items_eq, List.length_map]
  have regular := before.regular
  have opened : log.opened = true := by
    apply before.tidy.mpr
    rwa [regular.slot_eq, SegmentedLog.used, lengths]
  obtain ⟨outcome, data, booted, found, loaded⟩ :=
    @reboot_last halCrc uniqueDeviceId _ _ _ measuredImage
      ⟨regular, before.image, before.hasData, before.blockId_eq⟩ opened
      (by rwa [lengths])
  rw [items_eq, List.length_map, List.getElem?_map,
    Option.map_eq_some_iff] at found
  obtain ⟨record, atIndex, rfl⟩ := found
  rw [loadedSettings_saved (saved record (List.mem_of_getElem? atIndex))]
    at loaded
  have updated :
      UpdatedAtomically halCrc uniqueDeviceId previous new memory ↔
        record = previous ∨ record = new := by
    constructor
    · rintro ⟨other, rebooted, expected⟩
      rw [booted] at rebooted
      cases rebooted
      rwa [loaded] at expected
    · intro expected
      exact ⟨outcome, booted, by rwa [loaded]⟩
  rw [updated]
  rw [lastEnumerated] at atIndex
  split at atIndex
  · next pageStart =>
      rw [atIndex, Option.some.injEq, Option.some.injEq]
      exact ⟨fun expected _ _ => expected,
        fun expected => expected pageStart.1 pageStart.2⟩
  · next noPageStart =>
      rw [List.getLast?_eq_getElem?, atIndex, Option.some.injEq] at last
      constructor
      · rintro _ one more
        exact (noPageStart ⟨one, more⟩).elim
      · intro _
        exact Or.inl last

/-- A power loss after some double words, in a page with more room. -/
theorem updated_room_iff
    (before : BeforeAdd .systemConfig log memory new.toBytes)
    {words : Nat}
    (within : words ≤ 16)
    (some : 0 < words)
    (measuredImage :
      CountedImage .measurementSample measured
        (applyEffects memory
          (openingEffects .systemConfig log ++
            itemEffects .systemConfig log new.toBytes words)))
    (newSaved : Saved halCrc new)
    (partly : log.items.length % (geometry .systemConfig).capacity ≠ 0)
    (more :
      log.slot (geometry .systemConfig) + 1 ≠
        (geometry .systemConfig).capacity) :
    UpdatedAtomically halCrc uniqueDeviceId previous new
        (applyEffects memory
          (openingEffects .systemConfig log ++
            itemEffects .systemConfig log new.toBytes words)) ↔
      words = 16 ∨
        factoryDefaults uniqueDeviceId = previous ∨
        factoryDefaults uniqueDeviceId = new := by
  have regular := before.regular
  have visible := hasNoData_saved newSaved (show 0 < 8 * words by omega)
  have tornData :
      hasNoData (tornSlot .systemConfig words new.toBytes) = false :=
    hasNoData_tornSlot.trans visible
  have tornRegular := regular.add
    (@length_tornSlot .systemConfig _ _ before.size within)
  rw [add_eq_writeSlot regular more] at tornRegular
  have length :
      (log.openPage.writeSlot
        (tornSlot .systemConfig words new.toBytes)).items.length =
          log.items.length + 1 := by
    simp [StoreLog.openPage, StoreLog.writeSlot]
  have large := (geometry .systemConfig).capacity_ge
  have room := tornRegular.room
  have slots := regular.slot_eq
  rw [SegmentedLog.used] at slots
  have below := regular.room
  have nextUsed :
      (log.items.length + 1) % (geometry .systemConfig).capacity =
        log.items.length % (geometry .systemConfig).capacity + 1 := by
    rw [Nat.add_mod, Nat.mod_eq_of_lt (show 1 <
      (geometry .systemConfig).capacity by omega), Nat.mod_eq_of_lt]
    omega
  obtain ⟨outcome, data, booted, found, loaded⟩ :=
    @reboot_last halCrc uniqueDeviceId _ _ _ measuredImage
      ⟨tornRegular, before.image_torn within,
        hasData_append before.hasData tornData, before.blockId_eq⟩ rfl
      (by rw [length, nextUsed]; omega)
  rw [length, lastEnumerated, nextUsed, if_neg (by omega),
    Nat.add_sub_cancel] at found
  have torn : data = tornSlot .systemConfig words new.toBytes := by
    simpa [StoreLog.openPage, StoreLog.writeSlot] using found.symm
  rw [torn] at loaded
  constructor
  · rintro ⟨other, rebooted, expected⟩
    rw [booted] at rebooted
    cases rebooted
    rcases Nat.lt_or_eq_of_le within with partial' | all
    · rw [loaded, loadedSettings_torn partial'] at expected
      exact Or.inr expected
    · exact Or.inl all
  · intro expected
    refine ⟨outcome, booted, ?_⟩
    rw [loaded]
    rcases Nat.lt_or_eq_of_le within with partial' | all
    · rw [loadedSettings_torn partial']
      rcases expected with all | defaults
      · omega
      · exact defaults
    · right
      rw [tornSlot, tornItem_complete before.size (by rw [all]; rfl),
        loadedSettings_saved newSaved]

/-- A power loss after some double words of the last item of a page. -/
theorem updated_full_iff
    (before : BeforeAdd .systemConfig log memory new.toBytes)
    {words : Nat}
    (within : words ≤ 16)
    (some : 0 < words)
    (measuredImage :
      CountedImage .measurementSample measured
        (applyEffects memory
          (openingEffects .systemConfig log ++
            itemEffects .systemConfig log new.toBytes words)))
    (newSaved : Saved halCrc new)
    (full :
      log.slot (geometry .systemConfig) + 1 =
        (geometry .systemConfig).capacity) :
    UpdatedAtomically halCrc uniqueDeviceId previous new
        (applyEffects memory
          (openingEffects .systemConfig log ++
            itemEffects .systemConfig log new.toBytes words)) ↔
      log.items.length < (geometry .systemConfig).capacity ∧
        (factoryDefaults uniqueDeviceId = previous ∨
          factoryDefaults uniqueDeviceId = new) := by
  have regular := before.regular
  have visible := hasNoData_saved newSaved (show 0 < 8 * words by omega)
  have page := before.fullPage within visible full
  have oldest := regular.oldest_eq
  have pages : (geometry .systemConfig).nrOfPages = 2 := rfl
  have shape := SegmentedLog.length_eq
    (geometry .systemConfig).capacity log.items
  rw [← regular.closed_eq, ← regular.slot_eq] at shape
  rw [SegmentedLog.oldest] at oldest
  by_cases first : log.closed = 0
  · rw [first, Nat.zero_mul] at shape
    obtain ⟨outcome, booted, defaults⟩ :=
      @reboot_firstTurn halCrc uniqueDeviceId _ _ _ measuredImage page
        (show log.closed + 1 < _ by omega)
    constructor
    · rintro ⟨other, rebooted, expected⟩
      rw [booted] at rebooted
      cases rebooted
      rw [defaults] at expected
      exact ⟨by omega, expected⟩
    · rintro ⟨_, expected⟩
      exact ⟨outcome, booted, by rwa [defaults]⟩
  · have larger := Nat.mul_le_mul_right (geometry .systemConfig).capacity
      (show 1 ≤ log.closed by omega)
    constructor
    · rintro ⟨other, rebooted, _⟩
      obtain ⟨failure, failed⟩ := page.initItemStore_wrapped
        (show log.closed + 1 =
          log.oldest + (geometry .systemConfig).nrOfPages by omega)
      rw [boot, init, failed] at rebooted
      cases rebooted
    · rintro ⟨small, _⟩
      omega

/-- A power loss after some double words of a record. -/
theorem updated_iff
    (before : BeforeAdd .systemConfig log memory new.toBytes)
    (measuredImage : CountedImage .measurementSample measured memory)
    (inside : ∀ effect ∈ addEffects .systemConfig log new.toBytes,
      effect.Inside (geometry .systemConfig).firstPage
        (geometry .systemConfig).nrOfPages)
    (items_eq : log.items = records.map SystemConfig.toBytes)
    (saved : ∀ record ∈ records, Saved halCrc record)
    (newSaved : Saved halCrc new)
    (last : records.getLast? = some previous)
    (partly :
      records.length % (geometry .systemConfig).capacity ≠ 0)
    {words : Nat}
    (within : words ≤ 16) :
    UpdatedAtomically halCrc uniqueDeviceId previous new
        (applyEffects memory
          ((addEffects .systemConfig log new.toBytes).take words)) ↔
      UpdateSurvives (factoryDefaults uniqueDeviceId) records previous new
        words := by
  have regular := before.regular
  have lengths : log.items.length = records.length := by
    rw [items_eq, List.length_map]
  have slots := regular.slot_eq
  rw [SegmentedLog.used, lengths] at slots
  have opened : log.opened = true :=
    before.tidy.mpr (by rwa [slots])
  have noOpening : (openingEffects .systemConfig log).length = 0 := by
    rw [openingEffects, if_pos opened]
    rfl
  rw [UpdateSurvives]
  rcases Nat.eq_zero_or_pos words with none | some
  · subst none
    rw [List.take_zero, applyEffects_nil,
      updated_none_iff before measuredImage items_eq saved last partly]
    simp
  · have taken :=
      @take_addEffects_item .systemConfig log new.toBytes words within
    rw [noOpening, Nat.zero_add] at taken
    rw [taken]
    have image := storeImage_frame measuredImage.image
      (by decide : ItemDef.systemConfig ≠ .measurementSample)
      (fun effect (member : effect ∈
          openingEffects .systemConfig log ++
            itemEffects .systemConfig log new.toBytes words) =>
        inside effect (List.mem_of_mem_take (by rwa [taken])))
    have tornImage : CountedImage .measurementSample measured _ :=
      ⟨measuredImage.regular, image, measuredImage.hasData,
        measuredImage.blockId_eq⟩
    have large := (geometry .systemConfig).capacity_ge
    by_cases full :
        log.slot (geometry .systemConfig) + 1 =
          (geometry .systemConfig).capacity
    · have isLast :
          records.length % (geometry .systemConfig).capacity =
            (geometry .systemConfig).capacity - 1 := by
        omega
      rw [updated_full_iff before within some tornImage newSaved full,
        lengths]
      simp only [isLast, forall_const, ne_eq, not_true_eq_false, and_false,
        some, true_and, false_or,
        show words ≠ 0 from by omega, false_and]
    · have notLast :
          records.length % (geometry .systemConfig).capacity ≠
            (geometry .systemConfig).capacity - 1 := by
        omega
      rw [updated_room_iff before within some tornImage newSaved
        (by rwa [lengths]) full]
      simp only [notLast, false_implies, ne_eq, not_false_eq_true,
        and_true, some, true_and, show words ≠ 0 from by omega, false_and,
        false_or]

/-- Saving one more record after a run of adds to both stores. -/
theorem save_run
    {adds : List (ItemDef × List Byte)}
    (stored :
      itemsOf .systemConfig adds = records.map SystemConfig.toBytes)
    (saved : ∀ record ∈ records, Saved halCrc record)
    (newSaved : Saved halCrc new)
    (measured : ∀ data ∈ itemsOf .measurementSample adds,
      data.length = (geometry .measurementSample).itemSize ∧
        hasNoData data = false) :
    ∃ before after log samples,
      runStores adds = .ok (before, true) ∧
      addItemCompleted before .systemConfig new.toBytes =
        .ok (after, true) ∧
      after.flash.history =
        before.flash.history ++
          addEffects .systemConfig log new.toBytes ∧
      log.items = records.map SystemConfig.toBytes ∧
      BeforeAdd .systemConfig log before.flash.memory new.toBytes ∧
      CountedImage .measurementSample samples before.flash.memory ∧
      ∀ effect ∈ addEffects .systemConfig log new.toBytes,
        effect.Inside (geometry .systemConfig).firstPage
          (geometry .systemConfig).nrOfPages := by
  have sizedSettings : ∀ data ∈ itemsOf .systemConfig adds,
      data.length = (geometry .systemConfig).itemSize := by
    intro data member
    rw [stored] at member
    obtain ⟨record, _, rfl⟩ := List.mem_map.mp member
    exact SystemConfig.length_toBytes record
  have sizedMeasured : ∀ data ∈ itemsOf .measurementSample adds,
      data.length = (geometry .measurementSample).itemSize :=
    fun data member => (measured data member).1
  have sized : ∀ entry ∈ adds,
      entry.2.length = (geometry entry.1).itemSize := by
    rintro ⟨item, data⟩ member
    have isItem : data ∈ itemsOf item adds := by
      simp only [itemsOf, List.mem_map, List.mem_filter]
      exact ⟨(item, data), ⟨member, by simp⟩, rfl⟩
    cases item with
    | systemConfig => exact sizedSettings data isItem
    | measurementSample => exact sizedMeasured data isItem
  obtain ⟨before, run, both⟩ := runStores_both sized
  obtain ⟨stale, _, tracks⟩ := both.tracks .systemConfig
  obtain ⟨otherStale, _, otherTracks⟩ := both.tracks .measurementSample
  have regular := @StoreLog.regular_ofItems (geometry .systemConfig) _
    sizedSettings
  obtain ⟨after, added, _, extended⟩ :=
    addItemCompleted_tracks tracks regular.spacious
      (SystemConfig.length_toBytes new)
  refine ⟨before, after, _, _, run, added, extended.history, ?_,
    { regular := regular
      tidy := StoreLog.tidy_ofItems sizedSettings
      image := tracks.image
      blockId_eq := StoreLog.blockId_ofItems _
      hasData := ?_
      size := SystemConfig.length_toBytes new
      dataHasData := hasData_saved newSaved },
    { regular := StoreLog.regular_ofItems sizedMeasured
      image := otherTracks.image
      hasData := ?_
      blockId_eq := StoreLog.blockId_ofItems _ },
    extended.inside⟩
  · rw [StoreLog.items_ofItems, stored]
  · intro data member
    rw [StoreLog.items_ofItems, stored] at member
    obtain ⟨record, isRecord, rfl⟩ := List.mem_map.mp member
    exact hasData_saved (saved record isRecord)
  · intro data member
    rw [StoreLog.items_ofItems] at member
    exact (measured data member).2

end Save

/--
A reset after any number of double words of a record that does not start a
page: the settings are the previous or the new record if and only if the power
loss is one of the survived ones.
-/
theorem settings_survive_power_loss_iff
    (halCrc : List Byte → UInt32)
    (uniqueDeviceId : UInt32)
    (adds : List (ItemDef × List Byte))
    (records : List SystemConfig)
    (previous new : SystemConfig)
    (stored :
      itemsOf .systemConfig adds = records.map SystemConfig.toBytes)
    (saved : ∀ record ∈ records, Saved halCrc record)
    (newSaved : Saved halCrc new)
    (last : records.getLast? = some previous)
    (measured : ∀ data ∈ itemsOf .measurementSample adds,
      data.length = (geometry .measurementSample).itemSize ∧
        hasNoData data = false)
    (notBoundary :
      records.length % (geometry .systemConfig).capacity ≠ 0) :
    ∃ before after effects,
      runStores adds = .ok (before, true) ∧
      addItemCompleted before .systemConfig new.toBytes =
        .ok (after, true) ∧
      after.flash.history = before.flash.history ++ effects ∧
      ∀ words, words ≤ 16 →
        (UpdatedAtomically halCrc uniqueDeviceId previous new
            (applyEffects before.flash.memory (effects.take words)) ↔
          UpdateSurvives (factoryDefaults uniqueDeviceId) records previous
            new words) := by
  obtain ⟨before, after, log, samples, run, added, history, items_eq,
      beforeAdd, measuredImage, inside⟩ :=
    save_run stored saved newSaved measured
  refine ⟨before, after, _, run, added, history, ?_⟩
  intro words within
  exact updated_iff beforeAdd measuredImage inside items_eq saved newSaved
    last notBoundary within

/-- The record of an interval is one that `UpdateAndNotify` stores. -/
theorem saved_intervalRecord (loggingInterval : UInt32) :
    Saved unitCrc (intervalRecord loggingInterval) :=
  ⟨rfl, rfl⟩

/-- The defaults are not a record with another interval. -/
theorem factoryDefaults_ne_intervalRecord
    {loggingInterval : UInt32}
    (different : loggingInterval ≠ 600000)
    (uniqueDeviceId : UInt32) :
    factoryDefaults uniqueDeviceId ≠ intervalRecord loggingInterval :=
  fun same => different (congrArg SystemConfig.loggingInterval same).symm

/--
The third of three different records, with a sample between them: a reset
before its first double word or after its last one is survived, and one inside
the record is not.
-/
theorem settings_survive_power_loss_iff_three :
    ∃ before after effects,
      runStores
          [(.systemConfig, (intervalRecord 5000).toBytes),
            (.measurementSample, List.replicate 8 0x66),
            (.systemConfig, (intervalRecord 20000).toBytes)] =
        .ok (before, true) ∧
      addItemCompleted before .systemConfig
          (intervalRecord 60000).toBytes = .ok (after, true) ∧
      after.flash.history = before.flash.history ++ effects ∧
      UpdatedAtomically unitCrc 0 (intervalRecord 20000)
        (intervalRecord 60000)
        (applyEffects before.flash.memory (effects.take 0)) ∧
      ¬ UpdatedAtomically unitCrc 0 (intervalRecord 20000)
        (intervalRecord 60000)
        (applyEffects before.flash.memory (effects.take 7)) ∧
      UpdatedAtomically unitCrc 0 (intervalRecord 20000)
        (intervalRecord 60000)
        (applyEffects before.flash.memory (effects.take 16)) := by
  have saved : ∀ record ∈ [intervalRecord 5000, intervalRecord 20000],
      Saved unitCrc record := by
    simp [saved_intervalRecord]
  obtain ⟨before, after, effects, run, added, history, updated⟩ :=
    settings_survive_power_loss_iff unitCrc 0
      [(.systemConfig, (intervalRecord 5000).toBytes),
        (.measurementSample, List.replicate 8 0x66),
        (.systemConfig, (intervalRecord 20000).toBytes)]
      [intervalRecord 5000, intervalRecord 20000]
      (intervalRecord 20000) (intervalRecord 60000) rfl saved
      (saved_intervalRecord 60000) rfl
      (by simpa [itemsOf] using ⟨by decide, by decide⟩) (by decide)
  have noPrevious := factoryDefaults_ne_intervalRecord
    (show (20000 : UInt32) ≠ 600000 by decide) 0
  have noNew := factoryDefaults_ne_intervalRecord
    (show (60000 : UInt32) ≠ 600000 by decide) 0
  refine ⟨before, after, effects, run, added, history,
    (updated 0 (by decide)).mpr (Or.inl ⟨rfl, ?_⟩), ?_,
    (updated 16 (by decide)).mpr (Or.inr (Or.inl ⟨rfl, by decide⟩))⟩
  · intro pageStart
    exact absurd pageStart (by decide)
  · rw [updated 7 (by decide), UpdateSurvives]
    simp [noPrevious, noNew]

/--
A reset after the first double word of the second record: the settings are
the factory defaults.
-/
theorem settings_survive_power_loss_not_torn :
    ∃ before after effects,
      runStores [(.systemConfig, (intervalRecord 5000).toBytes)] =
        .ok (before, true) ∧
      addItemCompleted before .systemConfig
          (intervalRecord 20000).toBytes = .ok (after, true) ∧
      after.flash.history = before.flash.history ++ effects ∧
      ¬ UpdatedAtomically unitCrc 0 (intervalRecord 5000)
        (intervalRecord 20000)
        (applyEffects before.flash.memory (effects.take 1)) := by
  have newSaved := saved_intervalRecord 20000
  have stored :
      itemsOf .systemConfig
          [(.systemConfig, (intervalRecord 5000).toBytes)] =
        [intervalRecord 5000].map SystemConfig.toBytes := rfl
  have allSaved : ∀ record ∈ [intervalRecord 5000],
      Saved unitCrc record := by
    simpa using saved_intervalRecord 5000
  obtain ⟨before, after, log, samples, run, added, history, items_eq,
      beforeAdd, measuredImage, inside⟩ :=
    save_run stored allSaved newSaved (by simp [itemsOf])
  refine ⟨before, after, _, run, added, history, ?_⟩
  have last : [intervalRecord 5000].getLast? = some (intervalRecord 5000) :=
    rfl
  have noPrevious := factoryDefaults_ne_intervalRecord
    (show (5000 : UInt32) ≠ 600000 by decide) 0
  have noNew := factoryDefaults_ne_intervalRecord
    (show (20000 : UInt32) ≠ 600000 by decide) 0
  rw [updated_iff beforeAdd measuredImage inside items_eq allSaved newSaved
    last (by decide) (by decide : 1 ≤ 16), UpdateSurvives]
  simp [noPrevious, noNew]

end DemoBoard.ItemStore
