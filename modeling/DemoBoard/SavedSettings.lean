import DemoBoard.ControllerAgreement
import DemoBoard.DeletedStores
import DemoBoard.SettingsController

namespace DemoBoard.SavedSettings

open ByteMemory ItemStore ItemStoreDeletes TransitionRuns
open SettingsController hiding static
open MeasurementItemController
  (Published evalTimeEvent evalTimeEvent_saves requestedIntervalS)
open ControllerAgreement (Outlook outlook itemStoreIdleState)

/-!
# Settings on their way to the item store

The settings controller changes its copy in RAM and publishes an add of it
without asking whether the item store accepts items; the measurement controller
postpones the interval of a request until the samples are deleted.  Both share
the item store and one queue.
-/

/-- The messages in the queue of the application. -/
inductive AppMessage where
  /-- A request that the settings controller handles. -/
  | serviceRequest (request : ServiceRequest)
  /-- `SERVICE_REQUEST_MESSAGE_ID_SET_LOGGING_INTERVAL` -/
  | setLoggingInterval (parameter : UInt32)
  /-- `MESSAGE_ID_TIME_INFO_TIME_ELAPSED` -/
  | timeElapsed (elapsed : Nat) (averages : SampleTicks)
  /-- The add of `_actualSettings`, by its address. -/
  | addSettings
  /-- The add of the samples of the measurement controller, by its address. -/
  | addSamples
  | erase (parameters : EraseParameters)
  | eraseDone
  /-- `MESSAGE_ID_DEVICE_SETTINGS_CHANGED` -/
  | deviceSettingsChanged
  deriving DecidableEq

/-- The controllers, the item store and the queue of the broker. -/
structure SettingsState where
  store : ItemStoreState
  settings : SettingsController
  measurement : MeasurementItemController
  queue : List AppMessage
  /-- `UpdateAndNotify` has been called. -/
  updated : Bool
  /-- A request has changed the logging interval. -/
  intervalSet : Bool

/-- The service requests of a BLE client. -/
inductive ClientRequest where
  | setAlternativeDeviceName (deviceName : List Byte)
  | setAdvertiseDataEnable (parameter : UInt32)
  | setDebugLogEnable (parameter : UInt32)
  | setLoggingInterval (parameter : UInt32)

/-- The message of a request. -/
def ClientRequest.message : ClientRequest → AppMessage
  | .setAlternativeDeviceName deviceName =>
      .serviceRequest (.setAlternativeDeviceName deviceName)
  | .setAdvertiseDataEnable parameter =>
      .serviceRequest (.setAdvertiseDataEnable parameter)
  | .setDebugLogEnable parameter =>
      .serviceRequest (.setDebugLogEnable parameter)
  | .setLoggingInterval parameter => .setLoggingInterval parameter

/-- What can happen next. -/
inductive Event where
  | request (request : ClientRequest)
  | timeElapsed (elapsed : Nat) (averages : SampleTicks)
  /-- The delete of the samples after a power on reset. -/
  | powerOnReset
  /-- The first message of the queue reaches its listeners. -/
  | dispatch
  | endOfPage

/-- A message of the measurement controller. -/
def messageOf : Published → AppMessage
  | .addSamples => .addSamples
  | .saveLoggingInterval loggingInterval =>
      .serviceRequest (.saveLoggingInterval loggingInterval)
  | .erase parameters => .erase parameters

/-- The measurement controller sees a message before the item store does. -/
def dispatchRequest
    (state : SettingsState) (rest : List AppMessage) (request : Request) :
    Except AssertionFailure SettingsState := do
  let seen := itemStoreIdleState state.measurement request
  let handled ← listener state.store request
  .ok
    { state with
      store := handled.state
      measurement := seen.1
      queue := rest ++ seen.2.map messageOf }

/-- A message reaches its listeners. -/
def dispatchMessage
    (halCrc : List Byte → UInt32) (state : SettingsState)
    (rest : List AppMessage) :
    AppMessage → Except AssertionFailure SettingsState
  | .serviceRequest request =>
      let outcome := handleBleServiceRequest halCrc state.settings request
      .ok
        { state with
          settings := outcome.1
          queue :=
            rest ++
              if outcome.2 then [.addSettings, .deviceSettingsChanged] else []
          updated := state.updated || outcome.2 }
  | .setLoggingInterval parameter => do
      let outcome ←
        MeasurementItemController.setLoggingInterval state.store
          state.measurement parameter
      .ok
        { state with
          store := outcome.1
          measurement := outcome.2.1
          queue := rest ++ outcome.2.2.map messageOf
          intervalSet :=
            state.intervalSet ||
              requestedIntervalS parameter ≠
                state.measurement.loggingIntervalS }
  | .timeElapsed elapsed averages =>
      let outcome :=
        evalTimeEvent state.measurement elapsed averages
          state.measurement.isAddItemPossible
      .ok
        { state with
          measurement := outcome.1
          queue := rest ++ outcome.2.map messageOf }
  | .addSettings =>
      dispatchRequest state rest
        (.addItem .systemConfig state.settings.actualSettings.toBytes)
  | .addSamples =>
      dispatchRequest state rest
        (.addItem .measurementSample state.measurement.samples.toBytes)
  | .erase parameters => dispatchRequest state rest (.erase parameters)
  | .eraseDone => dispatchRequest state rest .eraseDone
  | .deviceSettingsChanged => .ok { state with queue := rest }

/-- A step of the composed system; impossible events do nothing. -/
def step (halCrc : List Byte → UInt32) (state : SettingsState) :
    Event → Except AssertionFailure SettingsState
  | .request request =>
      .ok { state with queue := state.queue ++ [request.message] }
  | .timeElapsed elapsed averages =>
      .ok
        { state with
          queue := state.queue ++ [.timeElapsed elapsed averages] }
  | .powerOnReset =>
      if isEmpty state.store .measurementSample then
        .ok state
      else do
        let deleted ← deleteAllItems state.store .measurementSample
        .ok
          { state with
            store := deleted.1
            queue := state.queue ++ [.erase deleted.2] }
  | .dispatch =>
      match state.queue with
      | [] => .ok state
      | message :: rest => dispatchMessage halCrc state rest message
  | .endOfPage =>
      if state.store.flash.processNextPage = none then
        .ok state
      else
        let ended := endOfPage state.store
        .ok
          { state with
            store := ended.1
            queue :=
              if ended.2 then state.queue ++ [.eraseDone] else state.queue }

/-- The composed system from a boot on. -/
def settingsSystem (halCrc : List Byte → UInt32) :
    System SettingsState Event where
  start := fun state =>
    Booted state.store ∧ state.queue = [] ∧
      state.measurement.nrOfPendingErase = 0 ∧
      state.measurement.isAddItemPossible = true ∧
      state.measurement.isLoggingIntervalChanged = false ∧
      state.updated = false ∧ state.intervalSet = false
  step := fun state event next => step halCrc state event = .ok next

/-- The last record of a store. -/
def LastRecord
    (item : ItemDef) (store : ItemStoreState) (data : List Byte) : Prop :=
  ∃ log stale,
    Holds item log stale store ∧
      (log.retained (geometry item)).getLast? = some data

/-- No message waits and no erase is running. -/
def Quiet (state : SettingsState) : Prop :=
  state.queue = [] ∧ state.store.flash.pagesToErase = 0

/-- Nothing that was set is lost. -/
structure Saved (state : SettingsState) : Prop where
  record : Quiet state → state.updated = true →
    LastRecord .systemConfig state.store
      state.settings.actualSettings.toBytes
  interval : Quiet state → state.intervalSet = true →
    (state.settings.actualSettings.loggingInterval.toNat : Int) =
      1000 * state.measurement.loggingIntervalS

/-- The condition under which nothing is lost. -/
structure Proper (state : SettingsState) (event : Event) : Prop where
  /-- The listener is idle, or the settings are added once more. -/
  adds : event = .dispatch → ∀ rest,
    state.queue = .addSettings :: rest →
    state.store.listenerState = .idle ∨ .addSettings ∈ rest
  /-- A reminder is only replaced while at most one erase is pending. -/
  reminders : event = .dispatch → ∀ parameters rest,
    state.queue = .erase parameters :: rest →
    hasReminder state.store.eraseReminder = true →
    state.measurement.nrOfPendingErase ≤ 1

/-- What the item store reads of a message. -/
def AppMessage.read (state : SettingsState) : AppMessage → Option Request
  | .addSettings =>
      some (.addItem .systemConfig state.settings.actualSettings.toBytes)
  | .addSamples =>
      some (.addItem .measurementSample state.measurement.samples.toBytes)
  | .erase parameters => some (.erase parameters)
  | .eraseDone => some .eraseDone
  | _ => none

/-- The controller after a request for another interval. -/
def intervalRequested
    (controller : MeasurementItemController) (parameter : UInt32) :
    MeasurementItemController :=
  { controller with
    loggingIntervalS := requestedIntervalS parameter
    currentSampleIndex := 0
    isSampleReady := false }

/-- What a step does. -/
inductive Move (halCrc : List Byte → UInt32) (state : SettingsState) :
    Event → SettingsState → Prop where
  | request (request : ClientRequest) :
      Move halCrc state (.request request)
        { state with queue := state.queue ++ [request.message] }
  | timeElapsed (elapsed : Nat) (averages : SampleTicks) :
      Move halCrc state (.timeElapsed elapsed averages)
        { state with
          queue := state.queue ++ [.timeElapsed elapsed averages] }
  | noSamples : Move halCrc state .powerOnReset state
  | samplesDeleted :
      Move halCrc state .powerOnReset
        { state with
          store := countersCleared .measurementSample state.store
          queue := state.queue ++ [.erase (eraseOf .measurementSample)] }
  | noMessage (empty : state.queue = []) :
      Move halCrc state .dispatch state
  | serviceRequest
      {request : ServiceRequest} {rest : List AppMessage}
      (first : state.queue = .serviceRequest request :: rest) :
      Move halCrc state .dispatch
        { state with
          settings :=
            (handleBleServiceRequest halCrc state.settings request).1
          queue :=
            rest ++
              if (handleBleServiceRequest halCrc state.settings request).2
              then [.addSettings, .deviceSettingsChanged]
              else []
          updated :=
            state.updated ||
              (handleBleServiceRequest halCrc state.settings request).2 }
  | sameInterval
      {parameter : UInt32} {rest : List AppMessage}
      (first : state.queue = .setLoggingInterval parameter :: rest) :
      Move halCrc state .dispatch { state with queue := rest }
  | intervalSaved
      {parameter : UInt32} {rest : List AppMessage}
      (first : state.queue = .setLoggingInterval parameter :: rest) :
      Move halCrc state .dispatch
        { state with
          measurement := intervalRequested state.measurement parameter
          queue :=
            rest ++
              [.serviceRequest (.saveLoggingInterval
                (intervalRequested state.measurement
                  parameter).loggingIntervalMs)]
          intervalSet := true }
  | intervalPostponed
      {parameter : UInt32} {rest : List AppMessage}
      (first : state.queue = .setLoggingInterval parameter :: rest) :
      Move halCrc state .dispatch
        { state with
          store := countersCleared .measurementSample state.store
          measurement :=
            { intervalRequested state.measurement parameter with
              isLoggingIntervalChanged := true }
          queue := rest ++ [.erase (eraseOf .measurementSample)]
          intervalSet := true }
  | timeEvent
      {elapsed : Nat} {averages : SampleTicks} {rest : List AppMessage}
      (first : state.queue = .timeElapsed elapsed averages :: rest) :
      Move halCrc state .dispatch
        { state with
          measurement :=
            (evalTimeEvent state.measurement elapsed averages
              state.measurement.isAddItemPossible).1
          queue :=
            rest ++
              (evalTimeEvent state.measurement elapsed averages
                state.measurement.isAddItemPossible).2.map messageOf }
  | handled
      {message : AppMessage} {rest : List AppMessage}
      {request : Request} {handled : Handled}
      (first : state.queue = message :: rest)
      (read : message.read state = some request)
      (result : listener state.store request = .ok handled) :
      Move halCrc state .dispatch
        { state with
          store := handled.state
          measurement := (itemStoreIdleState state.measurement request).1
          queue :=
            rest ++
              (itemStoreIdleState state.measurement request).2.map
                messageOf }
  | settingsChanged
      {rest : List AppMessage}
      (first : state.queue = .deviceSettingsChanged :: rest) :
      Move halCrc state .dispatch { state with queue := rest }
  | noPage : Move halCrc state .endOfPage state
  | pageErased (pending : state.store.flash.processNextPage ≠ none) :
      Move halCrc state .endOfPage
        { state with
          store := (ItemStore.endOfPage state.store).1
          queue :=
            if (ItemStore.endOfPage state.store).2 then
              state.queue ++ [.eraseDone]
            else
              state.queue }

section Moves

variable {halCrc : List Byte → UInt32}
variable {state next : SettingsState}
variable {event : Event}

/-- A message for the item store that is dispatched. -/
theorem move_handled
    {message : AppMessage}
    {rest : List AppMessage}
    {request : Request}
    (first : state.queue = message :: rest)
    (read : message.read state = some request)
    (dispatched : dispatchRequest state rest request = .ok next) :
    Move halCrc state .dispatch next := by
  obtain ⟨handled, result, done⟩ := bind_eq_ok dispatched
  cases done
  exact .handled first read result

/-- A request for an interval that is dispatched. -/
theorem move_setLoggingInterval
    (static :
      StaticInfo .measurementSample
        (state.store.itemStore .measurementSample))
    {parameter : UInt32}
    {rest : List AppMessage}
    (first : state.queue = .setLoggingInterval parameter :: rest)
    (dispatched :
      dispatchMessage halCrc state rest (.setLoggingInterval parameter) =
        .ok next) :
    Move halCrc state .dispatch next := by
  have deleted := deleteAllItems_eq static
  simp only [dispatchMessage, MeasurementItemController.setLoggingInterval,
    deleted] at dispatched
  by_cases different :
      requestedIntervalS parameter ≠ state.measurement.loggingIntervalS
  · have set : (state.intervalSet ||
        decide (requestedIntervalS parameter ≠
          state.measurement.loggingIntervalS)) = true := by
      rw [decide_eq_true different, Bool.or_true]
    rw [if_pos different, set] at dispatched
    by_cases empty : isEmpty state.store .measurementSample = true
    · rw [if_neg (not_not_intro empty)] at dispatched
      cases dispatched
      exact .intervalSaved first
    · rw [if_pos empty] at dispatched
      cases dispatched
      exact .intervalPostponed first
  · have unset : (state.intervalSet ||
        decide (requestedIntervalS parameter ≠
          state.measurement.loggingIntervalS)) = state.intervalSet := by
      rw [decide_eq_false different, Bool.or_false]
    rw [if_neg different, unset] at dispatched
    cases dispatched
    rw [List.map_nil, List.append_nil]
    exact .sameInterval first

/-- A step is one of the moves. -/
theorem move_of_step
    (static :
      StaticInfo .measurementSample
        (state.store.itemStore .measurementSample))
    (stepped : step halCrc state event = .ok next) :
    Move halCrc state event next := by
  cases event with
  | request request =>
      cases stepped
      exact .request request
  | timeElapsed elapsed averages =>
      cases stepped
      exact .timeElapsed elapsed averages
  | powerOnReset =>
      have deleted := deleteAllItems_eq static
      simp only [step, deleted] at stepped
      split at stepped
      · cases stepped
        exact .noSamples
      · cases stepped
        exact .samplesDeleted
  | dispatch =>
      cases first : state.queue with
      | nil =>
          simp only [step, first] at stepped
          cases stepped
          exact .noMessage first
      | cons message rest =>
          simp only [step, first] at stepped
          cases message with
          | serviceRequest request =>
              cases stepped
              exact .serviceRequest first
          | setLoggingInterval parameter =>
              exact move_setLoggingInterval static first stepped
          | timeElapsed elapsed averages =>
              cases stepped
              exact .timeEvent first
          | addSettings => exact move_handled first rfl stepped
          | addSamples => exact move_handled first rfl stepped
          | erase parameters => exact move_handled first rfl stepped
          | eraseDone => exact move_handled first rfl stepped
          | deviceSettingsChanged =>
              cases stepped
              exact .settingsChanged first
  | endOfPage =>
      simp only [step] at stepped
      split at stepped
      · cases stepped
        exact .noPage
      · next pending =>
          cases stepped
          exact .pageErased pending

end Moves

section Controllers

open MeasurementItemController

/-- What the measurement controller makes of a message about an erase. -/
inductive Seen
    (before : MeasurementItemController) (request : Request)
    (outcome : MeasurementItemController × List Published) : Prop where
  /-- The postponed interval is saved. -/
  | saved
      (possible : outcome.1.isAddItemPossible = true)
      (done : outcome.1.isLoggingIntervalChanged = false)
      (published : outcome.2 = [.saveLoggingInterval before.loggingIntervalMs])
  | kept
      (changed :
        outcome.1.isLoggingIntervalChanged =
          before.isLoggingIntervalChanged)
      (waits : request = .eraseDone →
        outcome.1.isAddItemPossible = true →
        before.isLoggingIntervalChanged = false)
      (published : outcome.2 = [] ∨ outcome.2 = [.addSamples])

theorem seen_itemStoreIdleState
    (controller : MeasurementItemController)
    (request : Request) :
    (itemStoreIdleState controller request).1.loggingIntervalS =
        controller.loggingIntervalS ∧
      Seen controller request (itemStoreIdleState controller request) := by
  cases request with
  | addItem item data => exact ⟨rfl, .kept rfl nofun (.inl rfl)⟩
  | beginEnumerate item enumerator =>
      exact ⟨rfl, .kept rfl nofun (.inl rfl)⟩
  | erase parameters => exact ⟨rfl, .kept rfl nofun (.inl rfl)⟩
  | eraseDone =>
      obtain ⟨count, done⟩ := eraseDone_eq controller
      dsimp only at done
      rw [itemStoreIdleState, done]
      by_cases possible : count = 0
      · rw [if_pos (by simpa using possible)]
        by_cases changed : controller.isLoggingIntervalChanged = true
        · rw [if_pos changed]
          exact ⟨rfl, .saved (by simpa using possible) rfl rfl⟩
        · rw [if_neg changed]
          have saves := saveReadySamples_saves
            { controller with
              nrOfPendingErase := count
              isAddItemPossible := count = 0 }
            (count = 0)
          exact ⟨saves.loggingIntervalS, .kept saves.changed
            (fun _ _ => Bool.eq_false_of_not_eq_true changed) saves.published⟩
      · rw [if_neg (by simpa using possible)]
        refine ⟨rfl, .kept rfl (fun _ accepted => ?_) (.inl rfl)⟩
        exact absurd (by simpa using accepted) possible

end Controllers

/-- A message for the item store, without the data of an add. -/
def AppMessage.outline : AppMessage → Option Request
  | .addSettings => some (.addItem .systemConfig [])
  | .addSamples => some (.addItem .measurementSample [])
  | .erase parameters => some (.erase parameters)
  | .eraseDone => some .eraseDone
  | _ => none

/-- A message that a client or a controller sends. -/
def Sendable : AppMessage → Prop
  | .erase parameters => parameters = eraseOf .measurementSample
  | .eraseDone => False
  | _ => True

/-- What holds of the item store and the queue without any condition. -/
structure Orderly
    (store : ItemStoreState) (queue : List AppMessage) : Prop where
  queueSound :
    QueueSound
      { store := store, queue := queue.filterMap AppMessage.outline }
  storesIdle : ∀ item, (store.itemStore item).currentState = .idle
  erases : ∀ parameters, .erase parameters ∈ queue →
    parameters = eraseOf .measurementSample
  reminder : store.eraseReminder ≠ eraseOf .systemConfig

section Queues

variable {state : SettingsState}
variable {store : ItemStoreState}
variable {queue rest messages : List AppMessage}
variable {message : AppMessage}
variable {request : Request}
variable {handled : Handled}

theorem sendable_client (request : ClientRequest) :
    Sendable request.message := by
  cases request <;> trivial

/-- The measurement controller sends no message of the item store. -/
theorem sendable_published
    {published : List Published}
    (saves : published = [] ∨ published = [.addSamples] ∨
      ∃ loggingInterval, published = [.saveLoggingInterval loggingInterval]) :
    ∀ message ∈ published.map messageOf, Sendable message := by
  rcases saves with rfl | rfl | ⟨loggingInterval, rfl⟩
  · simp
  · simp [messageOf, Sendable]
  · simp [messageOf, Sendable]

theorem Seen.sendable
    {before : MeasurementItemController}
    {outcome : MeasurementItemController × List Published}
    (seen : Seen before request outcome) :
    ∀ message ∈ outcome.2.map messageOf, Sendable message := by
  refine sendable_published ?_
  cases seen with
  | saved _ _ published => exact .inr (.inr ⟨_, published⟩)
  | kept _ _ published => exact published.imp_right .inl

/-- A message waits behind the others. -/
theorem Orderly.publish
    (orderly : Orderly store queue)
    (sendable : Sendable message) :
    Orderly store (queue ++ [message]) where
  queueSound := by
    have sound := orderly.queueSound
    rw [List.filterMap_append]
    cases message with
    | addSettings => exact sound.publish sound.sound trivial nofun
    | addSamples => exact sound.publish sound.sound trivial nofun
    | erase parameters =>
        exact sound.publish sound.sound ⟨_, sendable⟩ nofun
    | eraseDone => exact sendable.elim
    | serviceRequest request =>
        rw [List.filterMap_cons_none rfl, List.filterMap_nil,
          List.append_nil]
        exact sound
    | setLoggingInterval parameter =>
        rw [List.filterMap_cons_none rfl, List.filterMap_nil,
          List.append_nil]
        exact sound
    | timeElapsed elapsed averages =>
        rw [List.filterMap_cons_none rfl, List.filterMap_nil,
          List.append_nil]
        exact sound
    | deviceSettingsChanged =>
        rw [List.filterMap_cons_none rfl, List.filterMap_nil,
          List.append_nil]
        exact sound
  storesIdle := orderly.storesIdle
  erases := by
    intro parameters member
    rcases List.mem_append.mp member with earlier | last
    · exact orderly.erases parameters earlier
    · rw [← List.mem_singleton.mp last] at sendable
      exact sendable
  reminder := orderly.reminder

theorem Orderly.publishes
    (orderly : Orderly store queue)
    (sendable : ∀ message ∈ messages, Sendable message) :
    Orderly store (queue ++ messages) := by
  induction messages generalizing queue with
  | nil =>
      rw [List.append_nil]
      exact orderly
  | cons message rest inductionHypothesis =>
      rw [List.append_cons]
      exact inductionHypothesis
        (orderly.publish (sendable message (List.mem_cons_self ..)))
        fun other member =>
          sendable other (List.mem_cons_of_mem _ member)

/-- A message that is none for the item store leaves the queue. -/
theorem Orderly.tail
    (orderly : Orderly store (message :: rest))
    (other : message.outline = none) :
    Orderly store rest where
  queueSound := by
    have sound := orderly.queueSound
    rw [List.filterMap_cons_none other] at sound
    exact sound
  storesIdle := orderly.storesIdle
  erases := fun parameters member =>
    orderly.erases parameters (List.mem_cons_of_mem _ member)
  reminder := orderly.reminder

/-- `ItemStore_DeleteAllItems` of the samples. -/
theorem Orderly.samplesDeleted
    (orderly : Orderly store queue) :
    Orderly (countersCleared .measurementSample store)
      (queue ++ [.erase (eraseOf .measurementSample)]) := by
  refine Orderly.publish ?_ rfl
  have sound := orderly.queueSound
  exact
    { queueSound :=
        ⟨sound.sound.countersCleared .measurementSample, sound.publishable⟩
      storesIdle := by
        intro item
        by_cases same : item = .measurementSample
        · rw [same, countersCleared, modifyInfo_same]
          exact orderly.storesIdle .measurementSample
        · rw [countersCleared, modifyInfo_other _ _ same]
          exact orderly.storesIdle item
      erases := orderly.erases
      reminder := orderly.reminder }

/-- The first message as the item store reads it. -/
theorem Orderly.read
    (orderly : Orderly store (message :: rest))
    (read : message.read state = some request) :
    QueueSound
      { store := store
        queue := request :: rest.filterMap AppMessage.outline } := by
  have sound := orderly.queueSound
  cases message with
  | addSettings =>
      cases read
      exact sound.readAs nofun trivial nofun
  | addSamples =>
      cases read
      exact sound.readAs nofun trivial nofun
  | erase parameters =>
      cases read
      exact sound
  | eraseDone =>
      cases read
      exact sound
  | serviceRequest _ => cases read
  | setLoggingInterval _ => cases read
  | timeElapsed _ _ => cases read
  | deviceSettingsChanged => cases read

theorem Orderly.noDelete
    (orderly : Orderly store (message :: rest))
    (read : message.read state = some request) :
    request ≠ .erase (eraseOf .systemConfig) := by
  rintro rfl
  cases message with
  | erase parameters =>
      cases read
      have same := orderly.erases _ (List.mem_cons_self ..)
      cases eraseOf_injective same
  | _ => cases read

/-- The item store handles a message. -/
theorem Orderly.dispatch
    (orderly : Orderly store (message :: rest))
    (read : message.read state = some request)
    (result : listener store request = .ok handled) :
    Orderly handled.state rest := by
  have sound := orderly.read read
  have dispatched :=
    sound.sound.dispatched (sound.admissible rfl) result
  refine
    { queueSound := sound.dispatch rfl result
      storesIdle := ?_
      erases := fun parameters member =>
        orderly.erases parameters (List.mem_cons_of_mem _ member)
      reminder := ?_ }
  · intro item
    rw [(sound.sound.keepsClients dispatched item).2 ?_]
    · exact orderly.storesIdle item
    · rintro other enumerator rfl
      cases message <;> cases read
  · intro reminder
    rcases reminder_dispatched sound.sound dispatched reminder with
      before | now
    · exact orderly.reminder before
    · exact orderly.noDelete read now

/-- A page of the running erase is erased. -/
theorem Orderly.pageErased
    (orderly : Orderly store queue)
    (pending : store.flash.processNextPage ≠ none) :
    Orderly (ItemStore.endOfPage store).1
      (if (ItemStore.endOfPage store).2 then
        queue ++ [.eraseDone]
      else
        queue) := by
  have ended := orderly.queueSound.endOfPage pending
  obtain ⟨_, ⟨page, erases⟩, _⟩ :=
    orderly.queueSound.sound.endOfPage pending
  have reminder :
      (ItemStore.endOfPage store).1.eraseReminder ≠
        eraseOf .systemConfig := by
    rw [erases.eraseReminder]
    exact orderly.reminder
  have storesIdle : ∀ item,
      ((ItemStore.endOfPage store).1.itemStore item).currentState =
        .idle := by
    rw [erases.itemStore]
    exact orderly.storesIdle
  cases published : (ItemStore.endOfPage store).2 with
  | false =>
      rw [published] at ended
      exact
        { queueSound := ended
          storesIdle := storesIdle
          erases := orderly.erases
          reminder := reminder }
  | true =>
      rw [published] at ended
      refine
        { queueSound := ?_
          storesIdle := storesIdle
          erases := ?_
          reminder := reminder }
      · rw [if_pos rfl, List.filterMap_append]
        exact ended
      · intro parameters member
        refine orderly.erases parameters ?_
        simpa using member

end Queues

/-- The settings are written. -/
structure ExecutesSettings (state : SettingsState) (event : Event) : Prop where
  dispatches : event = .dispatch
  first : ∃ rest, state.queue = .addSettings :: rest
  listens : state.store.listenerState = .idle

section Stores

variable {halCrc : List Byte → UInt32}
variable {state next : SettingsState}
variable {event : Event}
variable {allowed : StoreLog → Nat → Prop}

/-- Every step keeps the item store and the queue in order. -/
theorem Orderly.move
    (orderly : Orderly state.store state.queue)
    (moved : Move halCrc state event next) :
    Orderly next.store next.queue := by
  cases moved with
  | request request => exact orderly.publish (sendable_client request)
  | timeElapsed elapsed averages => exact orderly.publish trivial
  | noSamples => exact orderly
  | samplesDeleted => exact orderly.samplesDeleted
  | noMessage empty => exact orderly
  | serviceRequest first =>
      rw [first] at orderly
      refine (orderly.tail rfl).publishes ?_
      split
      · simp [Sendable]
      · simp
  | sameInterval first =>
      rw [first] at orderly
      exact orderly.tail rfl
  | intervalSaved first =>
      rw [first] at orderly
      exact (orderly.tail rfl).publish trivial
  | intervalPostponed first =>
      rw [first] at orderly
      exact (orderly.tail rfl).samplesDeleted
  | timeEvent first =>
      rw [first] at orderly
      refine (orderly.tail rfl).publishes (sendable_published ?_)
      exact (evalTimeEvent_saves _ _ _ _).published.imp_right .inl
  | handled first read result =>
      rw [first] at orderly
      exact (orderly.dispatch read result).publishes
        (seen_itemStoreIdleState _ _).2.sendable
  | settingsChanged first =>
      rw [first] at orderly
      exact orderly.tail rfl
  | noPage => exact orderly
  | pageErased pending => exact orderly.pageErased pending

/-- A step that does not write the settings keeps their log. -/
theorem Orderly.kept
    (orderly : Orderly state.store state.queue)
    (moved : Move halCrc state event next)
    (notWritten : ¬ ExecutesSettings state event)
    (kept : Kept allowed .systemConfig state.store) :
    Kept allowed .systemConfig next.store := by
  have samplesDeleted :
      Kept allowed .systemConfig
        (countersCleared .measurementSample state.store) :=
    kept.congr
      (sameStore_countersCleared (by rintro ⟨⟩) state.store) rfl rfl
  cases moved with
  | request request => exact kept
  | timeElapsed elapsed averages => exact kept
  | noSamples => exact kept
  | samplesDeleted => exact samplesDeleted
  | noMessage empty => exact kept
  | serviceRequest first => exact kept
  | sameInterval first => exact kept
  | intervalSaved first => exact kept
  | intervalPostponed first => exact samplesDeleted
  | timeEvent first => exact kept
  | @handled message rest request handled first read result =>
      rw [first] at orderly
      have sound := orderly.read read
      have admissible := sound.admissible rfl
      have dispatched := sound.sound.dispatched admissible result
      refine kept.dispatched sound.sound admissible dispatched ?_
        (orderly.noDelete read) fun _ => orderly.reminder
      rintro data rfl listens _
      cases message with
      | addSettings => exact notWritten ⟨rfl, ⟨rest, first⟩, listens⟩
      | _ => cases read
  | settingsChanged first => exact kept
  | noPage => exact kept
  | pageErased pending =>
      exact kept.endOfPage orderly.queueSound.sound pending

end Stores

/-- The erases that the measurement controller counts. -/
structure Counts
    (store : ItemStoreState) (measurement : MeasurementItemController) :
    Prop where
  pending_ge : 0 ≤ measurement.nrOfPendingErase
  pending_le : measurement.nrOfPendingErase ≤ (outlook store).ends
  possible_iff :
    measurement.isAddItemPossible = true ↔
      measurement.nrOfPendingErase = 0

/-- A postponed interval waits for an erase. -/
def Waits
    (store : ItemStoreState) (measurement : MeasurementItemController)
    (queue : List AppMessage) : Prop :=
  measurement.isLoggingIntervalChanged = true →
    (∃ parameters, .erase parameters ∈ queue) ∨ outlook store ≠ .idle

section Erases

variable {state : SettingsState}
variable {store : ItemStoreState}
variable {measurement changed : MeasurementItemController}
variable {message : AppMessage}
variable {rest queue : List AppMessage}
variable {request : Request}
variable {handled : Handled}

theorem Counts.congr
    (counts : Counts store measurement)
    (pending : changed.nrOfPendingErase = measurement.nrOfPendingErase)
    (possible :
      changed.isAddItemPossible = measurement.isAddItemPossible) :
    Counts store changed where
  pending_ge := by
    rw [pending]
    exact counts.pending_ge
  pending_le := by
    rw [pending]
    exact counts.pending_le
  possible_iff := by
    rw [pending, possible]
    exact counts.possible_iff

theorem Waits.congr
    {other : ItemStoreState}
    (waits : Waits store measurement queue)
    (sameOutlook : outlook other = outlook store)
    (same :
      changed.isLoggingIntervalChanged =
        measurement.isLoggingIntervalChanged) :
    Waits other changed queue := by
  intro postponed
  rw [same] at postponed
  rw [sameOutlook]
  exact waits postponed

/-- Messages are published. -/
theorem Waits.publish
    (waits : Waits store measurement queue)
    (messages : List AppMessage) :
    Waits store measurement (queue ++ messages) := by
  intro postponed
  exact (waits postponed).imp_left fun ⟨parameters, member⟩ =>
    ⟨parameters, List.mem_append_left _ member⟩

/-- A message that is no erase leaves the queue. -/
theorem Waits.tail
    (waits : Waits store measurement (message :: rest))
    (noErase : ∀ parameters, .erase parameters ≠ message) :
    Waits store measurement rest := by
  intro postponed
  exact (waits postponed).imp_left fun ⟨parameters, member⟩ =>
    ⟨parameters, List.mem_of_ne_of_mem (noErase parameters) member⟩

/-- A message for the item store is counted. -/
theorem Counts.dispatch
    (counts : Counts store measurement)
    (sound :
      QueueSound
        { store := store
          queue := request :: rest.filterMap AppMessage.outline })
    (result : listener store request = .ok handled)
    (reminders : hasReminder store.eraseReminder = true →
      (∃ parameters, request = .erase parameters) →
        measurement.nrOfPendingErase ≤ 1) :
    Counts handled.state (itemStoreIdleState measurement request).1 := by
  have dispatched :=
    sound.sound.dispatched (sound.admissible rfl) result
  have few : outlook store = .erasing true →
      (∃ parameters, request = .erase parameters) →
        measurement.nrOfPendingErase ≤ 1 := by
    intro busy
    rw [outlook] at busy
    split at busy
    · cases busy
    · exact reminders (Outlook.erasing.inj busy)
  obtain ⟨count_ge, count_le, possible_iff, _⟩ :=
    ControllerAgreement.counted counts.pending_ge counts.pending_le
      counts.possible_iff few
  refine ⟨count_ge, ?_, possible_iff⟩
  rcases ControllerAgreement.outlook_dispatched sound.sound dispatched with
    expected | ⟨started, idle, item, data, rfl, _⟩
  · rw [expected]
    exact count_le
  · rw [idle] at count_le
    rw [started]
    exact Int.le_trans count_le (by simp [Outlook.after, Outlook.ends])

/-- A postponed interval still waits, or is saved. -/
theorem Waits.dispatch
    (waits : Waits store measurement (message :: rest))
    (counts :
      Counts handled.state (itemStoreIdleState measurement request).1)
    (sound :
      QueueSound
        { store := store
          queue := request :: rest.filterMap AppMessage.outline })
    (read : message.read state = some request)
    (result : listener store request = .ok handled)
    {messages : List AppMessage} :
    Waits handled.state (itemStoreIdleState measurement request).1
      (rest ++ messages) := by
  have dispatched :=
    sound.sound.dispatched (sound.admissible rfl) result
  intro postponed
  by_cases later : ∃ parameters, .erase parameters ∈ rest
  · obtain ⟨parameters, member⟩ := later
    exact .inl ⟨parameters, List.mem_append_left _ member⟩
  refine .inr fun idle => ?_
  -- An idle listener has no erase pending, so the interval is saved.
  have pending := counts.pending_le
  rw [idle] at pending
  have accepted := counts.possible_iff.mpr
    (Int.le_antisymm pending counts.pending_ge)
  obtain ⟨_, seen⟩ := seen_itemStoreIdleState measurement request
  cases seen with
  | saved _ done _ =>
      rw [done] at postponed
      cases postponed
  | kept same waited _ =>
      rw [same] at postponed
      rcases ControllerAgreement.outlook_dispatched sound.sound dispatched
        with expected | ⟨started, _⟩
      · rw [idle] at expected
        rcases waits postponed with ⟨parameters, member⟩ | busy
        · rcases List.mem_cons.mp member with rfl | queued
          · cases read
            cases before : outlook store with
            | idle =>
                rw [before] at expected
                cases expected
            | erasing reminder =>
                rw [before] at expected
                cases expected
          · exact later ⟨parameters, queued⟩
        · cases request with
          | eraseDone =>
              rw [waited rfl accepted] at postponed
              cases postponed
          | addItem item data => exact busy expected.symm
          | beginEnumerate item enumerator => exact busy expected.symm
          | erase parameters =>
              cases before : outlook store with
              | idle => exact busy before
              | erasing reminder =>
                  rw [before] at expected
                  cases expected
      · rw [idle] at started
        cases started

end Erases

/-- The saved interval after a message. -/
def AppMessage.intervalAfter (interval : UInt32) : AppMessage → UInt32
  | .serviceRequest (.saveLoggingInterval loggingInterval) =>
      loggingInterval
  | _ => interval

/-- The saved interval once the queued messages are dispatched. -/
def savedInterval (state : SettingsState) : UInt32 :=
  state.queue.foldl AppMessage.intervalAfter
    state.settings.actualSettings.loggingInterval

/-- The interval of a request is saved, or waits for an erase. -/
structure IntervalKept (state : SettingsState) : Prop where
  bounds : state.intervalSet = true →
    10 ≤ state.measurement.loggingIntervalS ∧
      state.measurement.loggingIntervalS ≤ 4294960
  saved : state.intervalSet = true →
    state.measurement.isLoggingIntervalChanged = true ∨
      savedInterval state = state.measurement.loggingIntervalMs

section Intervals

variable {halCrc : List Byte → UInt32}
variable {state next : SettingsState}
variable {event : Event}

theorem intervalAfter_client
    (interval : UInt32)
    (request : ClientRequest) :
    request.message.intervalAfter interval = interval := by
  cases request <;> rfl

/-- Saved samples carry no interval. -/
theorem foldl_samples
    {published : List Published}
    (saves : published = [] ∨ published = [.addSamples])
    (interval : UInt32) :
    (published.map messageOf).foldl AppMessage.intervalAfter interval =
      interval := by
  rcases saves with rfl | rfl <;> rfl

/-- A request changes the interval only if it saves one. -/
theorem loggingInterval_changeOf
    {settings changed : SystemConfig}
    {request : ServiceRequest}
    (changes : changeOf settings request = some changed) :
    changed.loggingInterval =
      AppMessage.intervalAfter settings.loggingInterval
        (.serviceRequest request) := by
  cases request with
  | saveLoggingInterval loggingInterval =>
      rw [changeOf] at changes
      split at changes
      · cases changes
      · rw [← Option.some.inj changes]
        rfl
  | setAlternativeDeviceName deviceName =>
      rw [changeOf] at changes
      split at changes
      · cases changes
      · rw [← Option.some.inj changes]
        rfl
  | setAdvertiseDataEnable parameter =>
      rw [changeOf] at changes
      split at changes
      · cases changes
      · rw [← Option.some.inj changes]
        rfl
  | setDebugLogEnable parameter =>
      rw [changeOf] at changes
      split at changes
      · cases changes
      · rw [← Option.some.inj changes]
        rfl

/-- A request without a change leaves the interval to be saved. -/
theorem loggingInterval_unchanged
    {settings : SystemConfig}
    {request : ServiceRequest}
    (unchanged : changeOf settings request = none) :
    settings.loggingInterval =
      AppMessage.intervalAfter settings.loggingInterval
        (.serviceRequest request) := by
  cases request with
  | saveLoggingInterval loggingInterval =>
      rw [changeOf] at unchanged
      split at unchanged
      · next same => exact same
      · cases unchanged
  | setAlternativeDeviceName deviceName => rfl
  | setAdvertiseDataEnable parameter => rfl
  | setDebugLogEnable parameter => rfl

theorem loggingInterval_handled
    (halCrc : List Byte → UInt32)
    (controller : SettingsController)
    (request : ServiceRequest) :
    (handleBleServiceRequest halCrc controller
        request).1.actualSettings.loggingInterval =
      AppMessage.intervalAfter controller.actualSettings.loggingInterval
        (.serviceRequest request) := by
  rw [handleBleServiceRequest]
  cases changes : changeOf controller.actualSettings request with
  | none => exact loggingInterval_unchanged changes
  | some settings =>
      have changed := loggingInterval_changeOf changes
      exact changed

/-- A step that changes neither the interval nor what is queued of it. -/
theorem IntervalKept.congr
    (kept : IntervalKept state)
    (intervalSet : next.intervalSet = state.intervalSet)
    (interval :
      next.measurement.loggingIntervalS =
        state.measurement.loggingIntervalS)
    (changed :
      next.measurement.isLoggingIntervalChanged =
        state.measurement.isLoggingIntervalChanged)
    (saved : savedInterval next = savedInterval state) :
    IntervalKept next where
  bounds := by
    rw [intervalSet, interval]
    exact kept.bounds
  saved := by
    rw [intervalSet, changed, saved,
      MeasurementItemController.loggingIntervalMs, interval]
    exact kept.saved

/-- Every step keeps the interval. -/
theorem IntervalKept.move
    (kept : IntervalKept state)
    (moved : Move halCrc state event next) :
    IntervalKept next := by
  cases moved with
  | request request =>
      refine kept.congr rfl rfl rfl ?_
      rw [savedInterval, List.foldl_append]
      exact intervalAfter_client _ request
  | timeElapsed elapsed averages =>
      refine kept.congr rfl rfl rfl ?_
      rw [savedInterval, List.foldl_append]
      rfl
  | noSamples => exact kept
  | samplesDeleted =>
      refine kept.congr rfl rfl rfl ?_
      rw [savedInterval, List.foldl_append]
      rfl
  | noMessage empty => exact kept
  | serviceRequest first =>
      refine kept.congr rfl rfl rfl ?_
      rw [savedInterval, savedInterval, first, List.foldl_append,
        List.foldl_cons, loggingInterval_handled]
      split <;> rfl
  | sameInterval first =>
      refine kept.congr rfl rfl rfl ?_
      rw [savedInterval, savedInterval, first]
      rfl
  | @intervalSaved parameter rest first =>
      refine ⟨fun _ =>
        MeasurementItemController.requestedIntervalS_bounds parameter,
        fun _ => .inr ?_⟩
      rw [savedInterval, List.foldl_append]
      rfl
  | @intervalPostponed parameter rest first =>
      exact ⟨fun _ =>
        MeasurementItemController.requestedIntervalS_bounds parameter,
        fun _ => .inl rfl⟩
  | @timeEvent elapsed averages rest first =>
      have saves := evalTimeEvent_saves state.measurement elapsed averages
        state.measurement.isAddItemPossible
      refine kept.congr rfl saves.loggingIntervalS saves.changed ?_
      rw [savedInterval, savedInterval, first, List.foldl_append,
        foldl_samples saves.published]
      rfl
  | @handled message rest request handled first read result =>
      obtain ⟨interval, seen⟩ :=
        seen_itemStoreIdleState state.measurement request
      cases seen with
      | saved _ done published =>
          refine ⟨?_, fun _ => .inr ?_⟩
          · rw [interval]
            exact kept.bounds
          · have same :
                (itemStoreIdleState state.measurement
                    request).1.loggingIntervalMs =
                  state.measurement.loggingIntervalMs := by
              rw [MeasurementItemController.loggingIntervalMs, interval]
              rfl
            rw [savedInterval, List.foldl_append, published]
            exact same.symm
      | kept changed _ published =>
          refine kept.congr rfl interval changed ?_
          rw [savedInterval, savedInterval, first, List.foldl_append,
            foldl_samples published, List.foldl_cons]
          cases message with
          | serviceRequest _ => cases read
          | _ => rfl
  | settingsChanged first =>
      refine kept.congr rfl rfl rfl ?_
      rw [savedInterval, savedInterval, first]
      rfl
  | noPage => exact kept
  | pageErased pending =>
      refine kept.congr rfl rfl rfl ?_
      rw [savedInterval]
      dsimp only
      split
      · rw [List.foldl_append]
        rfl
      · rfl

end Intervals

/-- The last item of a log is the copy in RAM, unless an add of it waits. -/
def Latest (state : SettingsState) (log : StoreLog) (_ : Nat) : Prop :=
  state.updated = true → .addSettings ∉ state.queue →
    log.items.getLast? = some state.settings.actualSettings.toBytes

/-- The invariant of the composed system. -/
structure Invariant (state : SettingsState) : Prop where
  orderly : Orderly state.store state.queue
  counts : Counts state.store state.measurement
  waits : Waits state.store state.measurement state.queue
  interval : IntervalKept state
  kept : Kept (Latest state) .systemConfig state.store

section Steps

variable {halCrc : List Byte → UInt32}
variable {state next : SettingsState}
variable {event : Event}

/-- A request that is not saved changes nothing. -/
theorem handled_not_saved
    {controller : SettingsController}
    {request : ServiceRequest}
    (silent :
      (handleBleServiceRequest halCrc controller request).2 = false) :
    (handleBleServiceRequest halCrc controller request).1 = controller := by
  rw [handleBleServiceRequest] at silent ⊢
  cases changes : changeOf controller.actualSettings request with
  | none => rfl
  | some settings =>
      rw [changes] at silent
      cases silent

/-- Another message than the first one stays in the queue. -/
theorem mem_rest
    {message other : AppMessage}
    {rest : List AppMessage}
    (first : state.queue = other :: rest)
    (different : message ≠ other)
    (member : message ∈ state.queue) :
    message ∈ rest := by
  rw [first] at member
  exact List.mem_of_ne_of_mem different member

/-- Apart from the write of the settings every step keeps what is latest. -/
theorem latest_move
    (moved : Move halCrc state event next)
    (proper : Proper state event)
    (notWritten : ¬ ExecutesSettings state event)
    {log : StoreLog}
    {stale : Nat}
    (latest : Latest state log stale) :
    Latest next log stale := by
  intro updated none
  cases moved with
  | request request =>
      exact latest updated
        fun member => none (List.mem_append_left _ member)
  | timeElapsed elapsed averages =>
      exact latest updated
        fun member => none (List.mem_append_left _ member)
  | noSamples => exact latest updated none
  | samplesDeleted =>
      exact latest updated
        fun member => none (List.mem_append_left _ member)
  | noMessage empty => exact latest updated none
  | @serviceRequest request rest first =>
      cases saves :
          (handleBleServiceRequest halCrc state.settings request).2 with
      | true => simp [saves] at none
      | false =>
          rw [handled_not_saved saves]
          simp only [saves, Bool.or_false] at updated
          refine latest updated fun member => none ?_
          exact List.mem_append_left _ (mem_rest first nofun member)
  | sameInterval first =>
      refine latest updated fun member => none ?_
      exact mem_rest first nofun member
  | intervalSaved first =>
      refine latest updated fun member => none ?_
      exact List.mem_append_left _ (mem_rest first nofun member)
  | intervalPostponed first =>
      refine latest updated fun member => none ?_
      exact List.mem_append_left _ (mem_rest first nofun member)
  | timeEvent first =>
      refine latest updated fun member => none ?_
      exact List.mem_append_left _ (mem_rest first nofun member)
  | @handled message rest request handled first read result =>
      refine latest updated fun member => none (List.mem_append_left _ ?_)
      rw [first] at member
      rcases List.mem_cons.mp member with now | later
      · rw [← now] at first
        rcases proper.adds rfl rest first with listens | again
        · exact (notWritten ⟨rfl, ⟨rest, first⟩, listens⟩).elim
        · exact again
      · exact later
  | settingsChanged first =>
      refine latest updated fun member => none ?_
      exact mem_rest first nofun member
  | noPage => exact latest updated none
  | pageErased pending =>
      refine latest updated fun member => none ?_
      dsimp only
      split
      · exact List.mem_append_left _ member
      · exact member

/-- The settings are written as they are. -/
theorem kept_written
    {allowed : StoreLog → Nat → Prop}
    (orderly : Orderly state.store state.queue)
    (kept : Kept allowed .systemConfig state.store)
    (stepped : step halCrc state event = .ok next)
    (written : ExecutesSettings state event) :
    Kept (Latest next) .systemConfig next.store := by
  obtain ⟨rfl, ⟨rest, first⟩, listens⟩ := written
  simp only [step, first, dispatchMessage] at stepped
  obtain ⟨handled, result, done⟩ := bind_eq_ok stepped
  cases done
  have queued := orderly
  rw [first] at queued
  have sound := @Orderly.read state _ _ _ _ queued rfl
  obtain ⟨_, atRest, quiet⟩ := sound.sound.phase.atRest listens
  have dispatched := sound.sound.dispatched (sound.admissible rfl) result
  cases kept with
  | wrapping _ wrapping =>
      have busy := wrapping.erasing
      rw [listens] at busy
      cases busy
  | holds _ holds _ =>
      obtain ⟨after, added, leads⟩ :=
        holds.addItem atRest quiet
          (SystemConfig.length_toBytes state.settings.actualSettings)
      rw [handled_of_added dispatched listens
        (orderly.storesIdle .systemConfig) added]
      refine kept_of_added leads fun _ _ _ _ => ?_
      rw [StoreLog.items_add, List.getLast?_concat]

/-- Every proper step keeps what the controller knows of erases. -/
theorem erases_move
    (orderly : Orderly state.store state.queue)
    (counts : Counts state.store state.measurement)
    (waits : Waits state.store state.measurement state.queue)
    (moved : Move halCrc state event next)
    (proper : Proper state event) :
    Counts next.store next.measurement ∧
      Waits next.store next.measurement next.queue := by
  cases moved with
  | request request => exact ⟨counts, waits.publish _⟩
  | timeElapsed elapsed averages => exact ⟨counts, waits.publish _⟩
  | noSamples => exact ⟨counts, waits⟩
  | samplesDeleted =>
      exact ⟨{ counts with }, (waits.congr rfl rfl).publish _⟩
  | noMessage empty => exact ⟨counts, waits⟩
  | serviceRequest first =>
      rw [first] at waits
      exact ⟨counts, (waits.tail nofun).publish _⟩
  | sameInterval first =>
      rw [first] at waits
      exact ⟨counts, waits.tail nofun⟩
  | intervalSaved first =>
      rw [first] at waits
      exact ⟨counts.congr rfl rfl,
        ((waits.tail nofun).congr rfl rfl).publish _⟩
  | intervalPostponed first =>
      refine ⟨{ counts.congr rfl rfl with }, fun _ =>
        .inl ⟨eraseOf .measurementSample, ?_⟩⟩
      exact List.mem_append_right _ (List.mem_singleton_self _)
  | @timeEvent elapsed averages rest first =>
      rw [first] at waits
      have saves := evalTimeEvent_saves state.measurement elapsed averages
        state.measurement.isAddItemPossible
      exact ⟨counts.congr saves.pending saves.possible,
        ((waits.tail nofun).congr rfl saves.changed).publish _⟩
  | @handled message rest request handled first read result =>
      rw [first] at orderly waits
      have sound := orderly.read read
      have counted := counts.dispatch sound result (by
        rintro reminder ⟨parameters, rfl⟩
        cases message with
        | erase others =>
            cases read
            exact proper.reminders rfl parameters rest first reminder
        | _ => cases read)
      exact ⟨counted, waits.dispatch counted sound read result⟩
  | settingsChanged first =>
      rw [first] at waits
      exact ⟨counts, waits.tail nofun⟩
  | noPage => exact ⟨counts, waits⟩
  | pageErased pending =>
      obtain ⟨_, ⟨page, erases⟩, _⟩ :=
        orderly.queueSound.sound.endOfPage pending
      have same : outlook (ItemStore.endOfPage state.store).1 =
          outlook state.store := by
        rw [outlook, erases.listenerState, erases.eraseReminder, outlook]
      refine ⟨⟨counts.pending_ge, ?_, counts.possible_iff⟩, ?_⟩
      · rw [same]
        exact counts.pending_le
      · dsimp only
        split
        · exact (waits.congr same rfl).publish _
        · exact waits.congr same rfl

/-- Every proper step keeps the invariant. -/
theorem Invariant.step
    (invariant : Invariant state)
    (proper : Proper state event)
    (stepped : step halCrc state event = .ok next) :
    Invariant next := by
  have orderly := invariant.orderly
  have moved := move_of_step
    (orderly.queueSound.sound.placed .measurementSample).static stepped
  have kept : Kept (Latest next) .systemConfig next.store := by
    by_cases written : ExecutesSettings state event
    · exact kept_written orderly invariant.kept stepped written
    · exact (orderly.kept moved written invariant.kept).mono
        fun _ _ latest => latest_move moved proper written latest
  obtain ⟨counts, waits⟩ :=
    erases_move orderly invariant.counts invariant.waits moved proper
  exact
    { orderly := orderly.move moved
      counts := counts
      waits := waits
      interval := invariant.interval.move moved
      kept := kept }

end Steps

/-- The invariant holds after a boot. -/
theorem invariant_start
    {halCrc : List Byte → UInt32}
    {state : SettingsState}
    (starts : (settingsSystem halCrc).start state) :
    Invariant state := by
  obtain ⟨booted, queue, count, possible, unchanged, notUpdated, notSet⟩ :=
    starts
  obtain ⟨⟨log, stale, stale_le, regular, tracks⟩, _⟩ :=
    booted .systemConfig
  have rest : AtRest state.store := ⟨tracks.listenerIdle, tracks.idle⟩
  have idle := ControllerAgreement.outlook_idle tracks.listenerIdle
  refine
    { orderly := ?_
      counts := ?_
      waits := fun postponed => ?_
      interval := ⟨fun set => ?_, fun set => ?_⟩
      kept := .holds (fun updated => ?_)
        (tracks.holds regular stale_le)
        (fun page _ => rest.notCondemned page) }
  · refine
      { queueSound := ?_
        storesIdle := fun item => (booted item).2
        erases := by simp [queue]
        reminder := ?_ }
    · rw [queue]
      exact ⟨booted.sound, by simp⟩
    · intro reminder
      have quiet := tracks.noReminder
      rw [reminder, hasReminder_eraseOf] at quiet
      cases quiet
  · refine ⟨Int.le_of_eq count.symm, ?_, by simp [count, possible]⟩
    rw [idle, count]
    exact Int.le_refl 0
  · rw [unchanged] at postponed
    cases postponed
  · rw [notSet] at set
    cases set
  · rw [notSet] at set
    cases set
  · rw [notUpdated] at updated
    cases updated

section Ends

variable {state : SettingsState}

/-- Without erases to finish the listener is idle. -/
theorem Orderly.listenerIdle
    (orderly : Orderly state.store state.queue)
    (quiet : Quiet state) :
    state.store.listenerState = .idle := by
  have phase := orderly.queueSound.sound.phase
  simp only [quiet.1, List.filterMap_nil, List.count_nil] at phase
  cases phase with
  | idle rest _ => exact rest.listenerIdle
  | running _ _ flash _ _ _ =>
      have pages := flash.pagesToErase
      rw [quiet.2] at pages
      omega

/-- The last item of a log is retained. -/
theorem getLast?_retained
    {item : ItemDef}
    {log : StoreLog}
    (regular : log.Regular (geometry item))
    {data : List Byte}
    (last : log.items.getLast? = some data) :
    (log.retained (geometry item)).getLast? = some data := by
  have some : log.items ≠ [] := by
    rintro none
    rw [none] at last
    cases last
  have positive := List.length_pos_iff.mpr some
  have stored := regular.wellFormed.items_ge
  have large := (geometry item).capacity_pos
  have several := (geometry item).severalPages
  have oldest := regular.oldest_eq
  rw [SegmentedLog.oldest] at oldest
  have kept : ¬ log.items.length ≤
      log.oldest * (geometry item).capacity := by
    by_cases unwrapped : log.oldest = 0
    · rw [unwrapped, Nat.zero_mul]
      omega
    · have earlier := Nat.mul_le_mul_right (geometry item).capacity
        (show log.oldest + 1 ≤ log.closed by omega)
      rw [Nat.succ_mul] at earlier
      omega
  rw [StoreLog.retained, SegmentedLog.retained, List.getLast?_drop,
    if_neg kept, last]

theorem Invariant.saved
    (invariant : Invariant state) :
    Saved state where
  record := by
    intro quiet updated
    have listens := invariant.orderly.listenerIdle quiet
    cases invariant.kept with
    | wrapping _ wrapping =>
        have busy := wrapping.erasing
        rw [listens] at busy
        cases busy
    | @holds log stale latest holds _ =>
        refine ⟨log, stale, holds, getLast?_retained holds.regular ?_⟩
        exact latest updated (by simp [quiet.1])
  interval := by
    intro quiet set
    have idle := ControllerAgreement.outlook_idle
      (invariant.orderly.listenerIdle quiet)
    have bounds := invariant.interval.bounds set
    rcases invariant.interval.saved set with postponed | saved
    · rcases invariant.waits postponed with ⟨parameters, queued⟩ | busy
      · rw [quiet.1] at queued
        cases queued
      · exact (busy idle).elim
    · rw [savedInterval, quiet.1, List.foldl_nil] at saved
      rw [saved, MeasurementItemController.loggingIntervalMs,
        MeasurementItemController.toNat_toUInt32 (by omega) (by omega)]
      exact Int.mul_comm _ _

end Ends

/-- The controllers with the default settings over a booted item store. -/
def started (store : ItemStoreState) : SettingsState where
  store := store
  settings := SettingsController.static.restoreDefaults
  measurement :=
    MeasurementItemController.static.deviceSettingsRead 600000
  queue := []
  updated := false
  intervalSet := false

theorem start_started
    {halCrc : List Byte → UInt32}
    {store : ItemStoreState}
    (booted : Booted store) :
    (settingsSystem halCrc).start (started store) :=
  ⟨booted, rfl, rfl, rfl, rfl, rfl, rfl⟩

section Dispatches

variable {halCrc : List Byte → UInt32}
variable {state : SettingsState}
variable {rest : List AppMessage}

/-- The dispatch of a request for another interval without samples. -/
theorem step_intervalSaved
    {parameter : UInt32}
    (first : state.queue = .setLoggingInterval parameter :: rest)
    (different :
      requestedIntervalS parameter ≠ state.measurement.loggingIntervalS)
    (empty : isEmpty state.store .measurementSample = true) :
    step halCrc state .dispatch =
      .ok
        { state with
          measurement := intervalRequested state.measurement parameter
          queue :=
            rest ++
              [.serviceRequest (.saveLoggingInterval
                (intervalRequested state.measurement
                  parameter).loggingIntervalMs)]
          intervalSet := true } := by
  have set : (state.intervalSet ||
      decide (requestedIntervalS parameter ≠
        state.measurement.loggingIntervalS)) = true := by
    rw [decide_eq_true different, Bool.or_true]
  simp only [step, first, dispatchMessage,
    MeasurementItemController.setLoggingInterval, if_pos different, set]
  rw [if_neg (not_not_intro empty)]
  rfl

/-- The dispatch of a request that changes the settings. -/
theorem step_saved
    {request : ServiceRequest}
    (first : state.queue = .serviceRequest request :: rest)
    (saves :
      (handleBleServiceRequest halCrc state.settings request).2 = true) :
    step halCrc state .dispatch =
      .ok
        { state with
          settings :=
            (handleBleServiceRequest halCrc state.settings request).1
          queue := rest ++ [.addSettings, .deviceSettingsChanged]
          updated := true } := by
  simp only [step, first, dispatchMessage, saves, if_true, Bool.or_true]

/-- The dispatch of a message for the item store. -/
theorem step_handled
    {message : AppMessage}
    {request : Request}
    {after : ItemStoreState}
    (first : state.queue = message :: rest)
    (read : message.read state = some request)
    (executed :
      queueStep { store := state.store, queue := [request] } .dispatch =
        .ok { store := after, queue := [] }) :
    step halCrc state .dispatch =
      .ok
        { state with
          store := after
          measurement := (itemStoreIdleState state.measurement request).1
          queue :=
            rest ++
              (itemStoreIdleState state.measurement request).2.map
                messageOf } := by
  obtain ⟨handled, result, same⟩ := listener_of_queueStep executed
  have dispatched :
      step halCrc state .dispatch = dispatchRequest state rest request := by
    simp only [step, first]
    cases message <;> cases read <;> rfl
  rw [dispatched, dispatchRequest, result, ← same]
  rfl

end Dispatches

section Losses

variable {halCrc : List Byte → UInt32}
variable {events : List Event}
variable {state : SettingsState}

/-- The item store and the queue are in order in every run. -/
theorem orderly_run
    (run : Run (settingsSystem halCrc) events state) :
    Orderly state.store state.queue := by
  induction run with
  | start starts => exact (@invariant_start halCrc _ starts).orderly
  | step run event stepped orderly =>
      have placed := orderly.queueSound.sound.placed .measurementSample
      exact orderly.move (move_of_step placed.static stepped)

/-- A store without items has no last record. -/
theorem not_lastRecord
    {item : ItemDef}
    {store : ItemStoreState}
    {data : List Byte}
    (empty : isEmpty store item = true) :
    ¬ LastRecord item store data := by
  rintro ⟨log, stale, holds, last⟩
  simp only [isEmpty, holds.info.nrOfFullPages_eq,
    holds.info.currentPageNrOfItems_eq, StoreLog.slot,
    decide_eq_true_eq] at empty
  have stored := holds.regular.wellFormed.items_eq
  have oldest := holds.regular.wellFormed.oldest_le
  have same : log.closed = log.oldest := by omega
  have few : log.items.length ≤ log.oldest * (geometry item).capacity := by
    cases opened : log.opened with
    | true =>
        rw [if_pos opened, same] at empty
        omega
    | false => exact Nat.le_of_eq ((stored opened).trans (by rw [same]))
  rw [StoreLog.retained, SegmentedLog.retained,
    List.drop_eq_nil_of_le few] at last
  cases last

/-- The pages of an erase are erased one after the other. -/
theorem run_erased
    {page remaining : Nat}
    (run : Run (settingsSystem halCrc) events state)
    (flash : state.store.flash.Erasing page (remaining + 1))
    (small : remaining + 1 < 65536)
    (byte : page + remaining < 256) :
    ∃ later erased,
      Run (settingsSystem halCrc) later
          { state with
            store := { state.store with flash := erased }
            queue := state.queue ++ [.eraseDone] } ∧
        erased.pagesToErase = 0 := by
  obtain ⟨before, erased, ⟨earlier, reached⟩, pending, ended,
      finished⟩ :=
    @lastPage_reached _ _ _
      (fun store => ∃ later,
        Run (settingsSystem halCrc) later { state with store := store })
      (by
        rintro before next ⟨earlier, reached⟩ pending ended
        refine ⟨_, reached.step .endOfPage ?_⟩
        simp only [settingsSystem, step, pending, if_false, ended,
          Bool.false_eq_true])
      ⟨events, run⟩ flash small byte
  refine ⟨_, erased, reached.step .endOfPage ?_, finished⟩
  simp only [settingsSystem, step, pending, if_false, ended, if_true]

/-- A change of the settings while the listener erases is not added. -/
theorem run_dropped
    {client : ClientRequest}
    {request : ServiceRequest}
    (run : Run (settingsSystem halCrc) events state)
    (noMessage : state.queue = [])
    (erasing : state.store.listenerState = .erasing)
    (message : client.message = .serviceRequest request)
    (saves :
      (handleBleServiceRequest halCrc state.settings request).2 = true) :
    ∃ later,
      Run (settingsSystem halCrc) later
        { state with
          settings :=
            (handleBleServiceRequest halCrc state.settings request).1
          queue := []
          updated := true } := by
  have requested :
      Run (settingsSystem halCrc) (events ++ [.request client])
        { state with queue := [.serviceRequest request] } := by
    refine run.step (.request client) ?_
    simp only [settingsSystem, step, noMessage, message]
    rfl
  have changed := requested.step .dispatch (step_saved rfl saves)
  have ignored (data : List Byte) :
      queueStep
          { store := state.store, queue := [.addItem .systemConfig data] }
          .dispatch =
        .ok { store := state.store, queue := [] } := by
    simp only [queueStep, listener, erasing]
    rfl
  have dropped := changed.step .dispatch (step_handled rfl rfl (ignored _))
  have announced := dropped.step .dispatch rfl
  exact ⟨_, announced⟩

/-- The erase of the samples ends, and nothing was postponed. -/
theorem run_deleted
    (run : Run (settingsSystem halCrc) events state)
    (noMessage : state.queue = [])
    (flash :
      state.store.flash.Erasing (eraseOf .measurementSample).pageNumber
        (eraseOf .measurementSample).nrOfPages)
    (parameters : state.store.eraseParameters = eraseOf .measurementSample)
    (quiet : hasReminder state.store.eraseReminder = false)
    (silent : state.measurement.eraseDone.2 = []) :
    ∃ later final,
      Run (settingsSystem halCrc) later final ∧ Quiet final ∧
        final.updated = state.updated ∧
        final.store.itemStore .systemConfig =
          state.store.itemStore .systemConfig := by
  obtain ⟨later, erased, completed, finished⟩ :=
    @run_erased _ _ _ _ 31 run flash (by decide) (by decide)
  have sound := (orderly_run completed).queueSound
  rw [noMessage] at sound
  have ended := completed.step .dispatch
    (step_handled (by rw [noMessage]; rfl) rfl
      (queueStep_deleted sound parameters quiet))
  have different : ItemDef.systemConfig ≠ .measurementSample := by
    rintro ⟨⟩
  refine ⟨_, _, ended, ⟨?_, finished⟩, rfl, ?_⟩
  · simp only [itemStoreIdleState, silent]
    rfl
  · dsimp only
    rw [reinitialised, modifyInfo_other _ _ different]

/-- An item store with one item of samples and no settings. -/
theorem booted_sample :
    ∃ store, Booted store ∧ AtRest store ∧
      hasReminder store.eraseReminder = false ∧
      isEmpty store .measurementSample = false ∧
      isEmpty store .systemConfig = true := by
  obtain ⟨store, _, booted, atRest, quiet, empty⟩ := holds_erasedFlash
  obtain ⟨after, effects, stale, _, extended, atRestAfter, holds⟩ :=
    addItem_empty (empty .measurementSample) atRest quiet
      (ItemCounters.someItem .measurementSample).property
  have different : ItemDef.systemConfig ≠ .measurementSample := by
    rintro ⟨⟩
  have other := extended.others .systemConfig different
  have quietAfter : hasReminder after.eraseReminder = false := by
    rw [extended.eraseReminder]
    exact quiet
  refine ⟨after, ?_, atRestAfter, quietAfter, ?_, ?_⟩
  · intro item
    cases item with
    | systemConfig =>
        have tracks := ((empty .systemConfig).tracks atRest quiet).frame
          different.symm extended atRestAfter.flashIdle
          atRestAfter.listenerIdle
        refine ⟨⟨StoreLog.empty, 0, Nat.zero_le _,
          StoreLog.regular_empty _, tracks⟩, ?_⟩
        rw [other]
        exact (booted .systemConfig).2
    | measurementSample =>
        refine ⟨⟨_, stale, holds.stale_le, holds.regular,
          holds.tracks atRestAfter quietAfter⟩, ?_⟩
        rw [extended.currentState]
        exact (booted .measurementSample).2
  · have counted : (after.itemStore .measurementSample).currentPageNrOfItems
        = 1 := by
      rw [holds.info.currentPageNrOfItems_eq]
      simp [StoreLog.slot, StoreLog.writeSlot, StoreLog.openPage,
        StoreLog.empty]
    simp [isEmpty, counted]
  · rw [isEmpty, other]
    exact (DeletedStores.emptied_of_holds (empty .systemConfig)).isEmpty

end Losses

/--
No saved setting is lost, as long as an add of the settings reaches an idle
listener or is queued once more, and a reminder is only replaced while at most
one erase is pending.
-/
theorem settings_saved
    {halCrc : List Byte → UInt32}
    {events : List Event}
    {state : SettingsState}
    (run : Run ((settingsSystem halCrc).restrict Proper) events state) :
    Saved state := by
  refine Invariant.saved (run.invariant ?_ ?_)
  · intro state starts
    exact @invariant_start halCrc state starts
  · intro state event next invariant moves
    exact invariant.step moves.2 moves.1

/--
An item store without samples gets another interval, and then a client disables
the advertisement: two records are stored.
-/
theorem settings_saved_twice :
    ∃ state,
      Run ((settingsSystem unitCrc).restrict Proper)
          [.request (.setLoggingInterval 20000),
            .dispatch, .dispatch, .dispatch, .dispatch,
            .request (.setAdvertiseDataEnable 0),
            .dispatch, .dispatch, .dispatch]
          state ∧
        Quiet state ∧ state.updated = true ∧ state.intervalSet = true ∧
        state.settings.actualSettings.loggingInterval = 20000 ∧
        state.settings.actualSettings.isAdvertiseDataEnabled = 0 ∧
        Saved state := by
  obtain ⟨store, _, booted, atRest, quiet, empty⟩ := holds_erasedFlash
  have noSamples : isEmpty store .measurementSample = true :=
    (DeletedStores.emptied_of_holds (empty .measurementSample)).isEmpty
  have proper {state : SettingsState} {event : Event}
      (listens : state.store.listenerState = .idle)
      (noErase : state.measurement.nrOfPendingErase = 0) :
      Proper state event :=
    ⟨fun _ _ _ => .inl listens, fun _ _ _ _ _ => by omega⟩
  have start : Run ((settingsSystem unitCrc).restrict Proper) []
      (started store) :=
    .start (@start_started unitCrc store booted)
  have requested := start.step (.request (.setLoggingInterval 20000))
    ⟨rfl, proper atRest.listenerIdle rfl⟩
  have different :
      requestedIntervalS 20000 ≠
        (started store).measurement.loggingIntervalS := by
    show requestedIntervalS 20000 ≠
      (MeasurementItemController.static.deviceSettingsRead
        600000).loggingIntervalS
    decide
  have changed := requested.step .dispatch
    ⟨step_intervalSaved rfl different noSamples,
      proper atRest.listenerIdle rfl⟩
  have saved := changed.step .dispatch
    ⟨step_saved rfl rfl, proper atRest.listenerIdle rfl⟩
  obtain ⟨after, _, _, added, extended, atRestAfter, holds⟩ :=
    addItem_empty (empty .systemConfig) atRest quiet
      (SystemConfig.length_toBytes _)
  have written := saved.step .dispatch
    ⟨step_handled rfl rfl
      (queueStep_added atRest.listenerIdle (booted .systemConfig).2 added []),
      proper atRest.listenerIdle rfl⟩
  have announced := written.step .dispatch
    ⟨rfl, proper atRestAfter.listenerIdle rfl⟩
  -- the second record goes behind the first one
  have quietAfter : hasReminder after.eraseReminder = false := by
    rw [extended.eraseReminder]
    exact quiet
  have storeIdle : (after.itemStore .systemConfig).currentState = .idle := by
    rw [extended.currentState]
    exact (booted .systemConfig).2
  obtain ⟨final, _, _, addedAgain, _, atRestFinal, _⟩ :=
    holds.addItem_room atRestAfter quietAfter
      (SystemConfig.length_toBytes _) (by
        simp only [StoreLog.slot, StoreLog.writeSlot, StoreLog.openPage,
          StoreLog.empty, List.nil_append, List.length_singleton]
        decide)
  have disabled := announced.step (.request (.setAdvertiseDataEnable 0))
    ⟨rfl, proper atRestAfter.listenerIdle rfl⟩
  have savedAgain := disabled.step .dispatch
    ⟨step_saved rfl rfl, proper atRestAfter.listenerIdle rfl⟩
  have writtenAgain := savedAgain.step .dispatch
    ⟨step_handled rfl rfl
      (queueStep_added atRestAfter.listenerIdle storeIdle addedAgain []),
      proper atRestAfter.listenerIdle rfl⟩
  have ended := writtenAgain.step .dispatch
    ⟨rfl, proper atRestFinal.listenerIdle rfl⟩
  exact ⟨_, ended, ⟨rfl, atRestFinal.flashIdle.pagesToErase⟩, rfl, rfl,
    rfl, rfl, settings_saved ended⟩

/--
A client disables the advertisement while the samples are deleted after a power
on reset: the copy in RAM changes, and the listener drops the add of it.
-/
theorem settings_saved_not_erasing :
    ¬ ∀ events state, Run (settingsSystem unitCrc) events state →
      Saved state := by
  intro saved
  obtain ⟨store, booted, atRest, quiet, samples, noSettings⟩ := booted_sample
  obtain ⟨⟨_, _, _, _, tracks⟩, _⟩ := booted .measurementSample
  have deleted := deleteAllItems_eq tracks.info.toStaticInfo
  have start : Run (settingsSystem unitCrc) [] (started store) :=
    .start (start_started booted)
  have clears : step unitCrc (started store) .powerOnReset =
      .ok
        { started store with
          store := countersCleared .measurementSample store
          queue := [.erase (eraseOf .measurementSample)] } := by
    simp only [step, started, samples, Bool.false_eq_true, if_false, deleted]
    rfl
  have resets := start.step .powerOnReset clears
  have erases := resets.step .dispatch
    (step_handled rfl rfl
      (@queueStep_erase (countersCleared .measurementSample store) []
        ⟨atRest.listenerIdle, atRest.flashIdle⟩ .measurementSample))
  obtain ⟨events, dropped⟩ :=
    @run_dropped _ _ _ (.setAdvertiseDataEnable 0) _ erases rfl rfl rfl rfl
  have flash := atRest.flashIdle.eraseRequested
    (eraseOf .measurementSample).pageNumber
    (eraseOf .measurementSample).nrOfPages
  obtain ⟨later, final, finished, ends, updated, same⟩ :=
    run_deleted dropped rfl flash rfl quiet rfl
  have different : ItemDef.systemConfig ≠ .measurementSample := by
    rintro ⟨⟩
  refine not_lastRecord ?_ ((saved _ _ finished).record ends updated)
  dsimp only [beginErase] at same
  rw [isEmpty, same, countersCleared, modifyInfo_other _ _ different]
  exact noSettings

end DemoBoard.SavedSettings
