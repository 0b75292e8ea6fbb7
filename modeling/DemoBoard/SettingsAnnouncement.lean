import DemoBoard.ItemStoreBoot
import DemoBoard.ItemStoreQueue
import DemoBoard.SettingsPowerLoss
import DemoBoard.TransitionRuns

namespace DemoBoard.SettingsAnnouncement

open ByteMemory ItemStore TransitionRuns SettingsController

/-!
# The settings that a boot announces

`MESSAGE_ID_PERIPHERALS_INITIALIZED` makes the settings controller request the
enumeration that reads the settings, `MESSAGE_ID_BLE_SUBSYSTEM_READY` makes it
announce them.  Nothing connects the two: the item store ignores the request
while a page is erased, for instance by `ItemStore_Init`, and the settings are
announced nevertheless.
-/

/-- The boot messages in the queue of the application. -/
inductive BootMessage where
  | peripheralsInitialized
  | bleSubsystemReady (powerOnReset : Bool)
  /-- The request for the settings enumerator. -/
  | beginEnumerate
  | erase (parameters : EraseParameters)
  | eraseDone
  | deviceSettingsRead
  deriving DecidableEq

/-- Item store and settings controller during a boot. -/
structure BootState where
  store : ItemStoreState
  controller : SettingsController
  queue : List BootMessage
  /-- The records `ItemStore_GetNext` has delivered. -/
  delivered : List (List Byte)
  /-- What the listeners have found in `_actualSettings`. -/
  announced : List SystemConfig

/-- What can happen next. -/
inductive BootEvent where
  | peripheralsInitialized
  | bleSubsystemReady (powerOnReset : Bool)
  /-- The first message of the queue reaches its listeners. -/
  | dispatch
  | endOfPage
  deriving DecidableEq

section Model

variable (halCrc : List Byte → UInt32)
variable (uniqueDeviceId : UInt32)

/-- `BeginEnumerate` invokes `InitializeSettings`. -/
def enumerated
    (state : BootState) (store : ItemStoreState)
    (started : StartedEnumeration) : BootState :=
  let initialised :=
    initializeSettings halCrc store
      { state.controller with settingsEnumerator := started.enumerator }
      started.ready
  { state with
    store := initialised.1
    controller := initialised.2
    delivered :=
      if started.ready then
        state.delivered ++ (getNext store started.enumerator).2.2.toList
      else
        state.delivered }

/-- A message reaches its listeners. -/
def dispatch (state : BootState) :
    BootMessage → Except AssertionFailure BootState
  | .peripheralsInitialized =>
      .ok
        { state with
          store :=
            registerCallback state.store .systemConfig .initializeSettings
          controller :=
            state.controller.peripheralsInitialized uniqueDeviceId
          queue := state.queue ++ [.beginEnumerate] }
  | .bleSubsystemReady powerOnReset =>
      if powerOnReset ∧ ¬ isEmpty state.store .measurementSample then do
        let deleted ← deleteAllItems state.store .measurementSample
        .ok
          { state with
            store := deleted.1
            queue :=
              state.queue ++ [.deviceSettingsRead, .erase deleted.2] }
      else
        .ok { state with queue := state.queue ++ [.deviceSettingsRead] }
  | .beginEnumerate => do
      let handled ←
        listener state.store
          (.beginEnumerate .systemConfig
            state.controller.settingsEnumerator)
      match handled.enumeration with
      | none => .ok { state with store := handled.state }
      | some started => .ok (enumerated halCrc state handled.state started)
  | .erase parameters => do
      let handled ← listener state.store (.erase parameters)
      .ok { state with store := handled.state }
  | .eraseDone => do
      let handled ← listener state.store .eraseDone
      .ok { state with store := handled.state }
  | .deviceSettingsRead =>
      .ok
        { state with
          announced := state.announced ++ [state.controller.actualSettings] }

/-- A step of a boot; impossible events do nothing. -/
def step (state : BootState) :
    BootEvent → Except AssertionFailure BootState
  | .peripheralsInitialized =>
      .ok { state with queue := state.queue ++ [.peripheralsInitialized] }
  | .bleSubsystemReady powerOnReset =>
      .ok
        { state with
          queue := state.queue ++ [.bleSubsystemReady powerOnReset] }
  | .dispatch =>
      match state.queue with
      | [] => .ok state
      | message :: rest =>
          dispatch halCrc uniqueDeviceId { state with queue := rest } message
  | .endOfPage =>
      if state.store.flash.processNextPage = none then
        .ok state
      else
        let ended := endOfPage state.store
        .ok
          { state with
            store := ended.1
            queue :=
              if ended.2 then state.queue ++ [.eraseDone] else state.queue }

/-- The state after `ItemStore_Init`. -/
def started (store : ItemStoreState) : BootState where
  store := store
  controller := static
  queue := []
  delivered := []
  announced := []

/-- Boots over any image whose begin tags name a store. -/
def bootSystem : System BootState BootEvent where
  start := fun state =>
    ∃ memory store,
      NamedTags memory ∧ init (powerOn memory) = .ok store ∧
        state = started store
  step := fun state event next =>
    step halCrc uniqueDeviceId state event = .ok next

/-- Settings that have been initialised. -/
def Initialised
    (delivered : List (List Byte)) (settings : SystemConfig) : Prop :=
  settings = factoryDefaults uniqueDeviceId ∨
    ∃ data ∈ delivered,
      settings = SystemConfig.ofBytes data ∧
        crcComputeCrc halCrc settings.protectedBytes = settings.crc

/-- The condition under which the settings are read before they are used. -/
structure Proper (state : BootState) (event : BootEvent) : Prop where
  /-- The item store does not ignore the request for the enumerator. -/
  listenerIdle : event = .dispatch →
    state.queue.head? = some .beginEnumerate →
      state.store.listenerState = .idle
  /-- The settings controller knows its defaults. -/
  peripheralsFirst : event = .dispatch → ∀ powerOnReset,
    state.queue.head? = some (.bleSubsystemReady powerOnReset) →
      state.controller.defaultSettings = factoryDefaults uniqueDeviceId

end Model

/-- The settings are read before they are announced. -/
def ReadsFirst : List BootMessage → Prop
  | [] => False
  | .beginEnumerate :: _ => True
  | .deviceSettingsRead :: _ => False
  | _ :: rest => ReadsFirst rest

section Reads

variable {queue : List BootMessage}

/-- Messages are published behind the others. -/
theorem ReadsFirst.append
    (reads : ReadsFirst queue)
    (more : List BootMessage) :
    ReadsFirst (queue ++ more) := by
  induction queue with
  | nil => exact reads.elim
  | cons message rest inductionHypothesis =>
      cases message with
      | beginEnumerate => trivial
      | deviceSettingsRead => exact reads.elim
      | _ => exact inductionHypothesis reads

/-- The request is published before any announcement. -/
theorem readsFirst_of_none
    (none : .deviceSettingsRead ∉ queue) :
    ReadsFirst (queue ++ [.beginEnumerate]) := by
  induction queue with
  | nil => trivial
  | cons message rest inductionHypothesis =>
      have absent : .deviceSettingsRead ∉ rest := fun member =>
        none (List.mem_cons_of_mem _ member)
      cases message with
      | beginEnumerate => trivial
      | deviceSettingsRead => exact (none (List.mem_cons_self ..)).elim
      | _ => exact inductionHypothesis absent

end Reads

section Defaults

variable (uniqueDeviceId : UInt32)

/-- Bytes that are stored a second time change nothing. -/
theorem overwriteName_again
    (buffer : Vector Byte deviceNameBufferLength)
    (bytes : List Byte) :
    overwriteName (overwriteName buffer bytes) bytes =
      overwriteName buffer bytes := by
  apply Vector.ext
  intro position inside
  simp only [overwriteName, Vector.getElem_ofFn, Fin.getElem_fin,
    List.getD_eq_getElem?_getD]
  cases bytes[position]? with
  | none => rfl
  | some byte => rfl

/-- The default device name is longer than the static one. -/
theorem factoryDefaults_ne :
    factoryDefaults uniqueDeviceId ≠ staticDefaultSettings := by
  intro same
  have separator : ∀ rest other,
      ((productionDeviceName ++ (asciiBytes " " ++ rest)).take
        deviceNameMaxLen ++ [0]).getD 8 other = 0x20 := by
    intro rest other
    rfl
  have inside : 8 < deviceNameBufferLength := by
    decide
  have longer :
      (factoryDefaults uniqueDeviceId).deviceName[8] = 0x20 := by
    simp only [factoryDefaults, peripheralsInitialized, snprintfName,
      overwriteName, Vector.getElem_ofFn, defaultDeviceName,
      List.append_assoc]
    exact separator _ _
  rw [same] at longer
  have shorter :
      staticDefaultSettings.deviceName.toList.getD 8 1 = 0 := by
    decide
  rw [List.getD_eq_getElem?_getD,
    List.getElem?_eq_getElem (by rwa [Vector.length_toList])] at shorter
  rw [Option.getD_some, Vector.getElem_toList, longer] at shorter
  cases shorter

variable {uniqueDeviceId}
variable {controller : SettingsController}

theorem peripheralsInitialized_actualSettings :
    (controller.peripheralsInitialized uniqueDeviceId).actualSettings =
      controller.actualSettings := by
  simp only [peripheralsInitialized]

/-- The peripherals are initialised for the first time. -/
theorem peripheralsInitialized_static
    (defaults : controller.defaultSettings = staticDefaultSettings) :
    (controller.peripheralsInitialized uniqueDeviceId).defaultSettings =
      factoryDefaults uniqueDeviceId := by
  rw [factoryDefaults, peripheralsInitialized, peripheralsInitialized,
    defaults]
  rfl

/-- The peripherals are initialised once more. -/
theorem peripheralsInitialized_again
    (defaults :
      controller.defaultSettings = factoryDefaults uniqueDeviceId) :
    (controller.peripheralsInitialized uniqueDeviceId).defaultSettings =
      factoryDefaults uniqueDeviceId := by
  rw [peripheralsInitialized, defaults]
  simp only [factoryDefaults, peripheralsInitialized, snprintfName,
    overwriteName_again]

end Defaults

section Invariant

variable (halCrc : List Byte → UInt32)
variable (uniqueDeviceId : UInt32)

/-- The invariant of a boot that reads the settings first. -/
structure Invariant (state : BootState) : Prop where
  enumerable : Enumerable .systemConfig state.store
  phase :
    state.controller.defaultSettings = staticDefaultSettings ∧
        .beginEnumerate ∉ state.queue ∧
        .deviceSettingsRead ∉ state.queue ∨
      state.controller.defaultSettings = factoryDefaults uniqueDeviceId ∧
        (Initialised halCrc uniqueDeviceId state.delivered
            state.controller.actualSettings ∨
          ReadsFirst state.queue)
  announced : ∀ settings ∈ state.announced,
    Initialised halCrc uniqueDeviceId state.delivered settings

variable {halCrc}
variable {uniqueDeviceId}
variable {state next : BootState}
variable {message : BootMessage}
variable {rest : List BootMessage}

theorem Initialised.append
    {delivered : List (List Byte)}
    {settings : SystemConfig}
    (initialised : Initialised halCrc uniqueDeviceId delivered settings)
    (more : List (List Byte)) :
    Initialised halCrc uniqueDeviceId (delivered ++ more) settings := by
  rcases initialised with defaults | ⟨data, member, record⟩
  · exact Or.inl defaults
  · exact Or.inr ⟨data, List.mem_append_left _ member, record⟩

theorem invariant_started
    {memory : Memory}
    {store : ItemStoreState}
    (named : NamedTags memory)
    (booted : init (powerOn memory) = .ok store) :
    Invariant halCrc uniqueDeviceId (started store) :=
  ⟨enumerable_init named booted _, Or.inl ⟨rfl, nofun, nofun⟩, nofun⟩

/-- A message that concerns the settings in none of the phases. -/
theorem Invariant.enqueue
    (invariant : Invariant halCrc uniqueDeviceId state)
    (notRequest : message ≠ .beginEnumerate)
    (notRead : message ≠ .deviceSettingsRead) :
    Invariant halCrc uniqueDeviceId
      { state with queue := state.queue ++ [message] } := by
  refine ⟨invariant.enumerable, ?_, invariant.announced⟩
  rcases invariant.phase with ⟨static, noRequest, unread⟩ | ⟨known, read⟩
  · refine Or.inl ⟨static, ?_, ?_⟩
    · rw [List.mem_append, not_or, List.mem_singleton]
      exact ⟨noRequest, fun same => notRequest same.symm⟩
    · rw [List.mem_append, not_or, List.mem_singleton]
      exact ⟨unread, fun same => notRead same.symm⟩
  · exact Or.inr ⟨known, read.imp_right fun first => first.append _⟩

/-- A message whose handling is over. -/
theorem Invariant.dequeue
    (invariant : Invariant halCrc uniqueDeviceId state)
    (queue : state.queue = message :: rest)
    (notRequest : message ≠ .beginEnumerate) :
    Invariant halCrc uniqueDeviceId { state with queue := rest } := by
  refine ⟨invariant.enumerable, ?_, invariant.announced⟩
  have phase := invariant.phase
  rw [queue] at phase
  rcases phase with ⟨static, noRequest, unread⟩ | ⟨known, read⟩
  · exact Or.inl ⟨static,
      fun member => noRequest (List.mem_cons_of_mem _ member),
      fun member => unread (List.mem_cons_of_mem _ member)⟩
  · refine Or.inr ⟨known, read.imp_right fun first => ?_⟩
    cases message with
    | beginEnumerate => exact (notRequest rfl).elim
    | deviceSettingsRead => exact first.elim
    | _ => exact first

theorem Invariant.withStore
    (invariant : Invariant halCrc uniqueDeviceId state)
    {store : ItemStoreState}
    (enumerable : Enumerable .systemConfig store) :
    Invariant halCrc uniqueDeviceId { state with store := store } :=
  ⟨enumerable, invariant.phase, invariant.announced⟩

/-- The peripherals are initialised. -/
theorem Invariant.peripheralsInitialized
    (invariant : Invariant halCrc uniqueDeviceId state) :
    Invariant halCrc uniqueDeviceId
      { state with
        store :=
          registerCallback state.store .systemConfig .initializeSettings
        controller :=
          state.controller.peripheralsInitialized uniqueDeviceId
        queue := state.queue ++ [.beginEnumerate] } := by
  refine ⟨invariant.enumerable.registerCallback _, Or.inr ?_,
    invariant.announced⟩
  rcases invariant.phase with ⟨static, noRequest, unread⟩ | ⟨known, read⟩
  · exact ⟨peripheralsInitialized_static static,
      Or.inr (readsFirst_of_none unread)⟩
  · refine ⟨peripheralsInitialized_again known, ?_⟩
    dsimp only
    rw [peripheralsInitialized_actualSettings]
    exact read.imp_right fun first => first.append _

/-- The Bluetooth subsystem is ready after the peripherals. -/
theorem Invariant.announce
    (invariant : Invariant halCrc uniqueDeviceId state)
    (known :
      state.controller.defaultSettings = factoryDefaults uniqueDeviceId)
    {more : List BootMessage} :
    Invariant halCrc uniqueDeviceId
      { state with queue := state.queue ++ more } := by
  refine ⟨invariant.enumerable, Or.inr ⟨known, ?_⟩, invariant.announced⟩
  rcases invariant.phase with ⟨static, _⟩ | ⟨_, read⟩
  · rw [known] at static
    exact (factoryDefaults_ne uniqueDeviceId static).elim
  · exact read.imp_right fun first => first.append _

/-- The settings are announced. -/
theorem Invariant.deviceSettingsRead
    (invariant : Invariant halCrc uniqueDeviceId state)
    (queue : state.queue = .deviceSettingsRead :: rest) :
    Invariant halCrc uniqueDeviceId
      { state with
        queue := rest
        announced :=
          state.announced ++ [state.controller.actualSettings] } := by
  have taken := invariant.dequeue queue nofun
  refine ⟨taken.enumerable, taken.phase, ?_⟩
  have phase := invariant.phase
  rw [queue] at phase
  rcases phase with ⟨_, _, unread⟩ | ⟨_, read | first⟩
  · exact (unread (List.mem_cons_self ..)).elim
  · intro settings member
    rw [List.mem_append, List.mem_singleton] at member
    rcases member with before | rfl
    · exact invariant.announced settings before
    · exact read
  · exact first.elim

/-- `InitializeSettings` leaves the defaults alone. -/
theorem initializeSettings_defaultSettings
    (store : ItemStoreState)
    (controller : SettingsController)
    (ready : Bool) :
    (initializeSettings halCrc store controller ready).2.defaultSettings =
      controller.defaultSettings := by
  unfold initializeSettings
  split
  · rfl
  · dsimp only
    repeat' split
    all_goals rfl

/-- `InitializeSettings` ends the enumeration it reads from. -/
theorem enumerable_initializeSettings
    {store : ItemStoreState}
    {controller : SettingsController}
    (enumerable : Enumerable .systemConfig store)
    {begun : ItemStoreState}
    (same : SameContent store begun)
    (more : controller.settingsEnumerator.hasMoreItems = true) :
    Enumerable .systemConfig
      (initializeSettings halCrc begun controller true).1 := by
  have read := same.trans
    (sameContent_getNext begun controller.settingsEnumerator)
  have ended := read.trans (sameContent_modifyInfo _ .systemConfig
    fun info => ⟨.idle, info.enumeratorStatusCb, info.enumeratorStatus,
      rfl⟩)
  have enumerable := enumerable.sameContent ended (by rw [modifyInfo_same])
  rw [initializeSettings, if_neg (by simp [more])]
  dsimp only
  repeat' split
  all_goals exact enumerable

/-- A checked record is valid, and so are the defaults. -/
theorem initialised_loadedSettings
    (delivered : List (List Byte))
    (data : List Byte) :
    Initialised halCrc uniqueDeviceId (delivered ++ [data])
      (loadedSettings halCrc (factoryDefaults uniqueDeviceId) data) := by
  rw [loadedSettings]
  split
  · exact Or.inl rfl
  · rename_i matching
    exact Or.inr ⟨data, by simp, rfl, not_not.mp matching⟩

/-- The settings are read. -/
theorem Invariant.enumerated
    (invariant : Invariant halCrc uniqueDeviceId state)
    (queue : state.queue = .beginEnumerate :: rest) :
    let begun :=
      beginEnumerate state.store .systemConfig
        state.controller.settingsEnumerator
    Invariant halCrc uniqueDeviceId
      (enumerated halCrc { state with queue := rest } begun.1
        { item := .systemConfig
          enumerator := begun.2.1
          ready := begun.2.2 }) := by
  intro begun
  have known :
      state.controller.defaultSettings =
        factoryDefaults uniqueDeviceId := by
    rcases invariant.phase with ⟨_, noRequest, _⟩ | ⟨known, _⟩
    · rw [queue] at noRequest
      exact (noRequest (List.mem_cons_self ..)).elim
    · exact known
  have same := sameContent_beginEnumerate state.store .systemConfig
    state.controller.settingsEnumerator
  cases ready : begun.2.2 with
  | false =>
      have idle :
          (begun.1.itemStore .systemConfig).currentState = .idle := by
        obtain ⟨searched, changed, closed | opened⟩ :=
          beginEnumerate_changesStatus state.store .systemConfig
            state.controller.settingsEnumerator
        · rw [show begun.1 = searched from closed.2,
            changed.currentState]
          exact invariant.enumerable.idle
        · rw [show begun.2.2 = true from opened.1] at ready
          cases ready
      refine ⟨invariant.enumerable.sameContent same idle,
        Or.inr ⟨known, Or.inl (Or.inl ?_)⟩, invariant.announced⟩
      exact known
  | true =>
      obtain ⟨more, data, read⟩ :=
        invariant.enumerable.getNext_delivers
          state.controller.settingsEnumerator ready
      have enumerable := @enumerable_initializeSettings halCrc _
        { state.controller with settingsEnumerator := begun.2.1 }
        invariant.enumerable _ same more
      have loaded := @initializeSettings_record begun.1 halCrc
        { state.controller with settingsEnumerator := begun.2.1 } data read
      have delivered :
          (SettingsAnnouncement.enumerated halCrc
            { state with queue := rest } begun.1
            { item := .systemConfig
              enumerator := begun.2.1
              ready := true }).delivered =
            state.delivered ++ [data] := by
        simp only [SettingsAnnouncement.enumerated, if_true]
        rw [show (getNext begun.1 begun.2.1).2.2 = some data from read]
        rfl
      refine ⟨enumerable, Or.inr ⟨?_, Or.inl ?_⟩, ?_⟩
      · exact (initializeSettings_defaultSettings _ _ _).trans known
      · rw [delivered]
        have valid := @initialised_loadedSettings halCrc uniqueDeviceId
          state.delivered data
        rw [← known] at valid
        exact loaded ▸ valid
      · intro settings member
        rw [delivered]
        exact (invariant.announced settings member).append _

/-- The Bluetooth subsystem is ready. -/
theorem Invariant.bleSubsystemReady
    (invariant : Invariant halCrc uniqueDeviceId state)
    (known :
      state.controller.defaultSettings = factoryDefaults uniqueDeviceId)
    {powerOnReset : Bool}
    (moves :
      dispatch halCrc uniqueDeviceId state
        (.bleSubsystemReady powerOnReset) = .ok next) :
    Invariant halCrc uniqueDeviceId next := by
  simp only [dispatch] at moves
  split at moves
  · simp only [deleteAllItems, bind, Except.bind] at moves
    split at moves
    · cases moves
    rename_i deleted removed
    split at removed
    · cases removed
    cases removed
    cases moves
    have emptied := @Enumerable.modifyInfo .systemConfig
      .measurementSample state.store invariant.enumerable
      (fun info =>
        { info with nrOfFullPages := 0, currentPageNrOfItems := 0 })
      (fun _ => rfl) (fun _ => rfl)
    exact (invariant.withStore emptied).announce known
  · cases moves
    exact invariant.announce known

/-- A message reaches its listeners. -/
theorem Invariant.dispatch
    (invariant : Invariant halCrc uniqueDeviceId state)
    (proper : Proper uniqueDeviceId state .dispatch)
    (queue : state.queue = message :: rest)
    (moves :
      dispatch halCrc uniqueDeviceId { state with queue := rest } message =
        .ok next) :
    Invariant halCrc uniqueDeviceId next := by
  cases message with
  | peripheralsInitialized =>
      have taken := invariant.dequeue queue nofun
      cases moves
      exact taken.peripheralsInitialized
  | bleSubsystemReady powerOnReset =>
      have known := proper.peripheralsFirst rfl powerOnReset
        (by rw [queue]; rfl)
      exact (invariant.dequeue queue nofun).bleSubsystemReady known moves
  | beginEnumerate =>
      have listenerIdle := proper.listenerIdle rfl (by rw [queue]; rfl)
      have handled := invariant.enumerable.listener_beginEnumerate
        listenerIdle state.controller.settingsEnumerator
      simp only [SettingsAnnouncement.dispatch, handled, bind,
        Except.bind] at moves
      cases moves
      exact invariant.enumerated queue
  | erase parameters =>
      have taken := invariant.dequeue queue nofun
      simp only [SettingsAnnouncement.dispatch, bind, Except.bind] at moves
      split at moves
      · cases moves
      · rename_i handled
        cases moves
        exact taken.withStore (taken.enumerable.listener_erase handled)
  | eraseDone =>
      have taken := invariant.dequeue queue nofun
      simp only [SettingsAnnouncement.dispatch, bind, Except.bind] at moves
      split at moves
      · cases moves
      · rename_i handled
        cases moves
        exact taken.withStore (taken.enumerable.listener_eraseDone handled)
  | deviceSettingsRead =>
      cases moves
      exact invariant.deviceSettingsRead queue

/-- A step of a boot. -/
theorem Invariant.step
    (invariant : Invariant halCrc uniqueDeviceId state)
    {event : BootEvent}
    (proper : Proper uniqueDeviceId state event)
    (moves : step halCrc uniqueDeviceId state event = .ok next) :
    Invariant halCrc uniqueDeviceId next := by
  cases event with
  | peripheralsInitialized =>
      cases moves
      exact invariant.enqueue nofun nofun
  | bleSubsystemReady powerOnReset =>
      cases moves
      exact invariant.enqueue nofun nofun
  | dispatch =>
      simp only [SettingsAnnouncement.step] at moves
      split at moves
      · cases moves
        exact invariant
      · rename_i message rest queue
        exact invariant.dispatch proper queue moves
  | endOfPage =>
      simp only [SettingsAnnouncement.step] at moves
      split at moves
      · cases moves
        exact invariant
      · cases moves
        have erased := invariant.withStore invariant.enumerable.endOfPage
        split
        · exact erased.enqueue nofun nofun
        · exact erased

end Invariant

/--
In boots that enumerate the settings while the listener is idle and announce
them after the peripherals are initialised, every announced settings record is
the factory defaults or a stored record whose checksum matches.
-/
theorem announced_settings_valid
    (halCrc : List Byte → UInt32)
    (uniqueDeviceId : UInt32)
    {events : List BootEvent}
    {state : BootState}
    (run :
      Run ((bootSystem halCrc uniqueDeviceId).restrict
        (Proper uniqueDeviceId)) events state) :
    ∀ settings ∈ state.announced,
      Initialised halCrc uniqueDeviceId state.delivered settings := by
  have invariant : Invariant halCrc uniqueDeviceId state := by
    refine @Run.invariant _ _ _ (Invariant halCrc uniqueDeviceId) ?_ ?_ _ _
      run
    · rintro _ ⟨memory, store, named, booted, rfl⟩
      exact invariant_started named booted
    · intro before event after invariant moves
      exact invariant.step moves.2 moves.1
  exact invariant.announced

/-- The settings are requested and will be announced. -/
def requested (uniqueDeviceId : UInt32) (store : ItemStoreState) :
    BootState where
  store := registerCallback store .systemConfig .initializeSettings
  controller := static.peripheralsInitialized uniqueDeviceId
  queue := [.beginEnumerate, .deviceSettingsRead]
  delivered := []
  announced := []

/-- The peripherals and the Bluetooth subsystem are ready. -/
theorem run_requested
    (halCrc : List Byte → UInt32)
    (uniqueDeviceId : UInt32)
    {memory : Memory}
    {store : ItemStoreState}
    (named : NamedTags memory)
    (booted : init (powerOn memory) = .ok store) :
    Run ((bootSystem halCrc uniqueDeviceId).restrict
        (Proper uniqueDeviceId))
      [.peripheralsInitialized, .bleSubsystemReady false, .dispatch,
        .dispatch]
      (requested uniqueDeviceId store) := by
  have start : Run ((bootSystem halCrc uniqueDeviceId).restrict
      (Proper uniqueDeviceId)) [] (started store) :=
    .start ⟨memory, store, named, booted, rfl⟩
  have published := start.step .peripheralsInitialized
    ⟨rfl, ⟨nofun, nofun⟩⟩
  have ready := published.step (.bleSubsystemReady false)
    ⟨rfl, ⟨nofun, nofun⟩⟩
  have initialised := ready.step .dispatch ⟨rfl, ⟨nofun, nofun⟩⟩
  refine initialised.step .dispatch ⟨?_, ⟨nofun, fun _ _ _ => rfl⟩⟩
  simp only [bootSystem, step, started, List.nil_append, dispatch]
  rfl

/-- A boot after saved settings finds the last one of them. -/
theorem init_saved
    {halCrc : List Byte → UInt32}
    {records : List SystemConfig}
    {last : SystemConfig}
    (saved : ∀ record ∈ records, Saved halCrc record)
    (isLast : records.getLast? = some last)
    (several :
      1 < records.length % (geometry .systemConfig).capacity) :
    ∃ stored store,
      runFromErased .systemConfig (records.map SystemConfig.toBytes) =
        .ok (stored, true) ∧
      NamedTags stored.flash.memory ∧
      init (powerOn stored.flash.memory) = .ok store ∧
      store.listenerState = .idle ∧
      EnumeratesExactly (enumeratedState store) .systemConfig (-1)
        [last.toBytes] := by
  have sized : ∀ data ∈ records.map SystemConfig.toBytes,
      data.length = (geometry .systemConfig).itemSize := by
    intro data member
    obtain ⟨record, _, rfl⟩ := List.mem_map.mp member
    exact SystemConfig.length_toBytes record
  have items_eq := @StoreLog.items_ofItems (geometry .systemConfig)
    (records.map SystemConfig.toBytes)
  have lengths := congrArg List.length items_eq
  rw [List.length_map] at lengths
  obtain ⟨stored, effects, run, memory, inside⟩ :=
    runFromErased_inside sized
  obtain ⟨again, rerun, tracks⟩ := runFromErased_tracks sized
  rw [run] at rerun
  obtain ⟨rfl, _⟩ := Prod.mk.inj (Except.ok.inj rerun)
  have regular := StoreLog.regular_ofItems sized
  have opened := (StoreLog.tidy_ofItems sized).mpr (by
    rw [regular.slot_eq, SegmentedLog.used, lengths]
    omega)
  have named := namedTags_of_image tracks.image (by
    intro page outside
    rw [memory]
    exact blank_elsewhere inside outside)
  have samples : StoreImage .measurementSample StoreLog.empty
      stored.flash.memory := by
    rw [memory]
    exact storeImage_frame
      (storeImage_empty fun _ => constantOn_erasedFlash _ _)
      (by decide : ItemDef.systemConfig ≠ .measurementSample) inside
  obtain ⟨store, data, booted, idle, _, found, enumerates⟩ :=
    init_last
      ⟨StoreLog.regular_empty _, samples,
        fun _ member => (List.not_mem_nil member).elim,
        @StoreLog.blockId_ofItems (geometry .measurementSample) []⟩
      ⟨regular, tracks.image, by
        intro data member
        rw [items_eq] at member
        obtain ⟨record, isRecord, rfl⟩ := List.mem_map.mp member
        exact hasData_saved (saved record isRecord),
        StoreLog.blockId_ofItems _⟩
      opened (by rw [lengths]; omega)
  have isData : data = last.toBytes := by
    rw [lastEnumerated, lengths, if_neg (by omega), items_eq,
      List.getElem?_map, ← List.getLast?_eq_getElem?, isLast] at found
    exact (Option.some.inj found).symm
  rw [isData] at enumerates
  exact ⟨stored, store, run, named, booted, idle, enumerates⟩

/-- A boot after two saved records announces the second one. -/
theorem announced_settings_valid_stored :
    ∃ stored store state,
      runFromErased .systemConfig
          ([intervalRecord 5000, intervalRecord 20000].map
            SystemConfig.toBytes) = .ok (stored, true) ∧
      init (powerOn stored.flash.memory) = .ok store ∧
      Run ((bootSystem unitCrc 0).restrict (Proper 0))
        [.peripheralsInitialized, .bleSubsystemReady false, .dispatch,
          .dispatch, .dispatch, .dispatch]
        state ∧
      state.announced = [intervalRecord 20000] ∧
      ∀ settings ∈ state.announced,
        Initialised unitCrc 0 state.delivered settings := by
  obtain ⟨stored, store, run, named, booted, listenerIdle, enumerates⟩ :=
    @init_saved unitCrc [intervalRecord 5000, intervalRecord 20000]
      (intervalRecord 20000) (by simp [saved_intervalRecord]) rfl
      (by decide)
  have ready := run_requested unitCrc 0 named booted
  have registered := @Enumerable.registerCallback .systemConfig
    .systemConfig store (enumerable_init named booted .systemConfig)
    .initializeSettings
  have idle : (requested 0 store).store.listenerState = .idle :=
    listenerIdle
  have handled := registered.listener_beginEnumerate idle
    (static.peripheralsInitialized 0).settingsEnumerator
  have read := ready.step .dispatch ⟨by
      simp only [bootSystem, step, requested, dispatch, handled]
      rfl, ⟨fun _ _ => idle, fun _ _ => nofun⟩⟩
  have announced := read.step .dispatch ⟨rfl, ⟨nofun, nofun⟩⟩
  obtain ⟨valid, delivered, _⟩ := enumerates
  have loaded := @initializeSettings_record _ unitCrc
    { static.peripheralsInitialized 0 with
      settingsEnumerator :=
        (beginEnumerate (enumeratedState store) .systemConfig
          (enumeratorFrom (-1))).2.1 } _ delivered
  rw [loadedSettings_saved (saved_intervalRecord 20000)] at loaded
  refine ⟨stored, store, _, run, booted, announced, ?_,
    announced_settings_valid unitCrc 0 announced⟩
  rw [← loaded, ← valid]
  rfl

/-- The state in which a boot announces settings it has not read. -/
def neverRead (store : ItemStoreState) : BootState where
  store := registerCallback store .systemConfig .initializeSettings
  controller := static.peripheralsInitialized 0
  queue := []
  delivered := []
  announced := [zeroSettings]

/--
A reset between the complete tag of settings record 62 and the page erase it
leads to: the boot ignores the request for the enumerator and announces a
record of zeros.
-/
theorem announced_settings_zero :
    ∃ before after effects image store,
      runFromErased .systemConfig
          (List.replicate 61 (intervalRecord 5000).toBytes) =
        .ok (before, true) ∧
      addItemCompleted before .systemConfig (intervalRecord 5000).toBytes =
        .ok (after, true) ∧
      after.flash.history = before.flash.history ++ effects ∧
      image =
        applyEffects before.flash.memory
          (effects.take ((geometry .systemConfig).itemWords + 1)) ∧
      init (powerOn image) = .ok store ∧
      Run (bootSystem unitCrc 0)
        [.peripheralsInitialized, .bleSubsystemReady false, .dispatch,
          .dispatch, .dispatch, .dispatch]
        (neverRead store) ∧
      ¬ ∀ settings ∈ (neverRead store).announced,
        Initialised unitCrc 0 (neverRead store).delivered
          settings := by
  have saved := saved_intervalRecord 5000
  have size : (intervalRecord 5000).toBytes.length =
      (geometry .systemConfig).itemSize :=
    SystemConfig.length_toBytes (intervalRecord 5000)
  have hasData := hasData_saved saved
  obtain ⟨before, after, effects, image, store, run, added, history, cut,
      named, booted, erasing⟩ :=
    @init_interrupted_add (List.replicate 61 (intervalRecord 5000).toBytes)
      (intervalRecord 5000).toBytes
      (fun entry member => by rw [List.eq_of_mem_replicate member, size])
      (fun entry member => by rw [List.eq_of_mem_replicate member, hasData])
      size hasData (by rw [List.length_replicate]; decide)
      (by rw [List.length_replicate]; decide)
  have ignored :
      listener (registerCallback store .systemConfig .initializeSettings)
          (.beginEnumerate .systemConfig
            (static.peripheralsInitialized 0).settingsEnumerator) =
        .ok
          { state :=
              registerCallback store .systemConfig .initializeSettings
            consumed := false
            enumeration := none } := by
    have still :
        (registerCallback store .systemConfig
          .initializeSettings).listenerState = .erasing := erasing
    rw [listener, still]
    rfl
  have ready := (run_requested unitCrc 0 named booted).unrestricted
  have notRead : Run (bootSystem unitCrc 0) _
      { requested 0 store with queue := [.deviceSettingsRead] } :=
    ready.step .dispatch (by
      simp only [bootSystem, step, requested, dispatch, ignored]
      rfl)
  have read := notRead.step .dispatch rfl
  refine ⟨before, after, effects, image, store, run, added, history, cut,
    booted, read, ?_⟩
  intro valid
  rcases valid zeroSettings (List.mem_singleton_self _) with
    defaults | ⟨data, member, _⟩
  · have version := congrArg SystemConfig.version defaults
    exact absurd version (by decide)
  · cases member

end DemoBoard.SettingsAnnouncement
